import Mathlib.Algebra.Order.Ring.Nat
import Mathlib.Data.List.Lex
import Mathlib.Data.Nat.Find
import Mathlib.Data.Nat.Init
import Mathlib.Order.Monotone.Basic
import Mathlib.Order.Defs.LinearOrder
import Mathlib.Tactic.SplitIfs

/-!
# Dates and times of the proleptic Gregorian calendar

`DateTime` is a naive `datetime`, of the years 1 to 9999. Its fields are compared as a tuple,
`micros` counts the microseconds, and the two orders agree (`micros_lt_iff`): a day does not spill
over into the next month, nor a month into the next year. So the fields can be found from the count
again, the year and the month as the greatest ones that do not begin after the day.
-/

namespace Encoding

/-! ## Days -/

def isLeap (year : ℕ) : Bool := year % 4 == 0 && (year % 100 != 0 || year % 400 == 0)

def daysInMonth (year : ℕ) : ℕ → ℕ
  | 1 => 31
  | 2 => if isLeap year then 29 else 28
  | 3 => 31
  | 4 => 30
  | 5 => 31
  | 6 => 30
  | 7 => 31
  | 8 => 31
  | 9 => 30
  | 10 => 31
  | 11 => 30
  | 12 => 31
  | _ => 0

theorem daysInMonth_le (year month : ℕ) : daysInMonth year month ≤ 31 := by
  unfold daysInMonth
  split <;> (try split_ifs) <;> omega

/-- The days of the year before a month. -/
def daysBeforeMonth (year : ℕ) : ℕ → ℕ
  | 0 => 0
  | month + 1 => daysBeforeMonth year month + daysInMonth year month

def daysInYear (year : ℕ) : ℕ := if isLeap year then 366 else 365

/-- The days before a year, from the first day of the year 1 on. -/
def daysBeforeYear (year : ℕ) : ℕ :=
  (year - 1) * 365 + (year - 1) / 4 - (year - 1) / 100 + (year - 1) / 400

theorem isLeap_iff (year : ℕ) :
    isLeap year = true ↔ 4 ∣ year ∧ (¬ 100 ∣ year ∨ 400 ∣ year) := by
  simp [isLeap, Nat.dvd_iff_mod_eq_zero]

theorem daysBeforeYear_succ {year : ℕ} (h : 1 ≤ year) :
    daysBeforeYear (year + 1) = daysBeforeYear year + daysInYear year := by
  obtain ⟨n, rfl⟩ := Nat.exists_eq_add_of_le' h
  have hleap := isLeap_iff (n + 1)
  -- a century is a fourth year, and a fourth century is a century
  have hcentury : 100 ∣ n + 1 → 4 ∣ n + 1 := fun hd ↦ by omega
  have hfourth : 400 ∣ n + 1 → 100 ∣ n + 1 := fun hd ↦ by omega
  have hle : n / 100 ≤ n / 4 := by omega
  rw [daysBeforeYear, daysBeforeYear, daysInYear, Nat.add_sub_cancel, Nat.add_sub_cancel,
    Nat.succ_div, Nat.succ_div, Nat.succ_div]
  by_cases h400 : 400 ∣ n + 1
  · have h100 := hfourth h400
    have h4 := hcentury h100
    rw [if_pos h4, if_pos h100, if_pos h400, if_pos (hleap.mpr ⟨h4, Or.inr h400⟩)]
    omega
  · rw [if_neg h400]
    by_cases h100 : 100 ∣ n + 1
    · have hno : ¬ isLeap (n + 1) = true := fun hyes ↦
        (hleap.mp hyes).2.elim (· h100) h400
      rw [if_pos (hcentury h100), if_pos h100, if_neg hno]
      omega
    · rw [if_neg h100]
      by_cases h4 : 4 ∣ n + 1
      · rw [if_pos h4, if_pos (hleap.mpr ⟨h4, Or.inl h100⟩)]
        omega
      · rw [if_neg h4, if_neg fun hyes ↦ h4 (hleap.mp hyes).1]
        omega

theorem daysBeforeYear_mono : Monotone daysBeforeYear := by
  refine monotone_nat_of_le_succ fun year ↦ ?_
  rcases Nat.eq_zero_or_pos year with rfl | hyear
  · decide
  · rw [daysBeforeYear_succ hyear]
    exact Nat.le_add_right _ _

theorem daysBeforeMonth_mono (year : ℕ) : Monotone (daysBeforeMonth year) :=
  monotone_nat_of_le_succ fun _ ↦ Nat.le_add_right _ _

theorem daysBeforeMonth_end (year : ℕ) : daysBeforeMonth year 13 = daysInYear year := by
  cases hleap : isLeap year <;> simp [daysBeforeMonth, daysInMonth, daysInYear, hleap]

/-! ## Date and time -/

/-- A `datetime` without time zone. -/
@[ext]
structure DateTime where
  year : ℕ
  month : ℕ
  day : ℕ
  hour : ℕ
  minute : ℕ
  second : ℕ
  microsecond : ℕ
  year_mem : 1 ≤ year ∧ year ≤ 9999
  month_mem : 1 ≤ month ∧ month ≤ 12
  day_mem : 1 ≤ day ∧ day ≤ daysInMonth year month
  hour_lt : hour < 24
  minute_lt : minute < 60
  second_lt : second < 60
  microsecond_lt : microsecond < 1000000

namespace DateTime

variable (d d' : DateTime)

/-- What is compared, first to last. -/
def fields : List ℕ := [d.year, d.month, d.day, d.hour, d.minute, d.second, d.microsecond]

/-- `date.toordinal()`. -/
def ordinal : ℕ := daysBeforeYear d.year + daysBeforeMonth d.year d.month + d.day

/-- The microseconds since midnight. -/
def clock : ℕ := ((d.hour * 60 + d.minute) * 60 + d.second) * 1000000 + d.microsecond

/-- The microseconds from the day before the first day on. -/
def micros : ℕ := d.ordinal * 86400000000 + d.clock

variable {d d'}

theorem fields_injective : Function.Injective fields := fun d d' h ↦ by
  simp only [fields, List.cons.injEq, and_true] at h
  exact DateTime.ext h.1 h.2.1 h.2.2.1 h.2.2.2.1 h.2.2.2.2.1 h.2.2.2.2.2.1 h.2.2.2.2.2.2

/-- One after the other, the first field that differs decides. -/
theorem fields_lt_iff : d.fields < d'.fields ↔
    d.year < d'.year ∨ d.year = d'.year ∧ (d.month < d'.month ∨ d.month = d'.month ∧
      (d.day < d'.day ∨ d.day = d'.day ∧ (d.hour < d'.hour ∨ d.hour = d'.hour ∧
        (d.minute < d'.minute ∨ d.minute = d'.minute ∧ (d.second < d'.second ∨
          d.second = d'.second ∧ d.microsecond < d'.microsecond))))) := by
  simp only [fields, List.cons_lt_cons_iff, List.not_lt_nil, and_false, or_false]

theorem clock_lt (d : DateTime) : d.clock < 86400000000 := by
  have hhour := d.hour_lt
  have hminute := d.minute_lt
  have hsecond := d.second_lt
  have hmicro := d.microsecond_lt
  unfold clock
  omega

theorem day_lt (d : DateTime) : d.day < 100 := by
  have hday := d.day_mem.2.trans (daysInMonth_le d.year d.month)
  omega

theorem day_le (d : DateTime) :
    daysBeforeMonth d.year d.month + d.day ≤ daysBeforeMonth d.year (d.month + 1) :=
  Nat.add_le_add_left d.day_mem.2 _

theorem ordinal_le (d : DateTime) : d.ordinal ≤ daysBeforeYear (d.year + 1) := by
  have hmonth : daysBeforeMonth d.year (d.month + 1) ≤ daysBeforeMonth d.year 13 :=
    daysBeforeMonth_mono d.year (Nat.succ_le_succ d.month_mem.2)
  rw [daysBeforeMonth_end] at hmonth
  rw [daysBeforeYear_succ d.year_mem.1, ordinal, Nat.add_assoc]
  exact Nat.add_le_add_left (d.day_le.trans hmonth) _

theorem ordinal_lt_of_year (h : d.year < d'.year) : d.ordinal < d'.ordinal := by
  have hyear := daysBeforeYear_mono (Nat.succ_le_of_lt h)
  have hday := d'.day_mem.1
  have hle := d.ordinal_le
  rw [Nat.succ_eq_add_one] at hyear
  unfold ordinal at hle ⊢
  omega

theorem ordinal_lt_of_month (hyear : d.year = d'.year) (h : d.month < d'.month) :
    d.ordinal < d'.ordinal := by
  have hmonth := daysBeforeMonth_mono d.year (Nat.succ_le_of_lt h)
  have hday := d'.day_mem.1
  have hle := d.day_le
  unfold ordinal
  rw [← hyear]
  rw [Nat.succ_eq_add_one] at hmonth
  omega

theorem micros_lt_of_ordinal (h : d.ordinal < d'.ordinal) : d.micros < d'.micros := by
  have hclock := d.clock_lt
  unfold micros
  omega

/-- What is earlier by its fields is earlier. -/
theorem micros_lt_of_fields (h : d.fields < d'.fields) : d.micros < d'.micros := by
  have hminute := d.minute_lt
  have hsecond := d.second_lt
  have hmicro := d.microsecond_lt
  rcases fields_lt_iff.mp h with hyear | ⟨hyear, hmonth | ⟨hmonth, hday | ⟨hday, hrest⟩⟩⟩
  · exact micros_lt_of_ordinal (ordinal_lt_of_year hyear)
  · exact micros_lt_of_ordinal (ordinal_lt_of_month hyear hmonth)
  · refine micros_lt_of_ordinal ?_
    rw [ordinal, ordinal, hyear, hmonth]
    exact Nat.add_lt_add_left hday _
  · have hordinal : d.ordinal = d'.ordinal := by rw [ordinal, ordinal, hyear, hmonth, hday]
    have hclock : d.clock < d'.clock := by
      unfold clock
      omega
    rw [micros, micros, hordinal]
    exact Nat.add_lt_add_left hclock _

theorem micros_lt_iff : d.micros < d'.micros ↔ d.fields < d'.fields := by
  refine ⟨fun h ↦ ?_, micros_lt_of_fields⟩
  rcases lt_trichotomy d.fields d'.fields with hlt | heq | hgt
  · exact hlt
  · rw [fields_injective heq] at h
    exact absurd h (lt_irrefl _)
  · exact absurd (h.trans (micros_lt_of_fields hgt)) (lt_irrefl _)

end DateTime

/-! ## From the count back -/

/-- The year of a day. -/
def yearOf (ordinal : ℕ) : ℕ := Nat.findGreatest (fun year ↦ daysBeforeYear year < ordinal) 9999

/-- The month of the `n`-th day of a year. -/
def monthOf (year n : ℕ) : ℕ := Nat.findGreatest (fun month ↦ daysBeforeMonth year month < n) 12

/-- The fields of a time, as many as a `DateTime` has. -/
def fieldsOf (micros : ℕ) : List ℕ :=
  let ordinal := micros / 86400000000
  let year := yearOf ordinal
  let dayOfYear := ordinal - daysBeforeYear year
  let month := monthOf year dayOfYear
  let clock := micros % 86400000000
  [year, month, dayOfYear - daysBeforeMonth year month, clock / 3600000000,
    clock / 60000000 % 60, clock / 1000000 % 60, clock % 1000000]

namespace DateTime

theorem yearOf_ordinal (d : DateTime) : yearOf d.ordinal = d.year := by
  refine Nat.findGreatest_eq_iff.mpr ⟨d.year_mem.2, fun _ ↦ ?_, fun year hyear _ ↦ ?_⟩
  · have hday := d.day_mem.1
    unfold ordinal
    omega
  · have hle := d.ordinal_le.trans (daysBeforeYear_mono (Nat.succ_le_of_lt hyear))
    exact Nat.not_lt.mpr hle

theorem monthOf_day (d : DateTime) :
    monthOf d.year (daysBeforeMonth d.year d.month + d.day) = d.month := by
  refine Nat.findGreatest_eq_iff.mpr ⟨d.month_mem.2, fun _ ↦ ?_, fun month hmonth _ ↦ ?_⟩
  · exact Nat.lt_add_of_pos_right d.day_mem.1
  · have hle := d.day_le.trans (daysBeforeMonth_mono d.year (Nat.succ_le_of_lt hmonth))
    exact Nat.not_lt.mpr hle

theorem fieldsOf_micros (d : DateTime) : fieldsOf d.micros = d.fields := by
  have hclock := d.clock_lt
  have hordinal : d.micros / 86400000000 = d.ordinal := by
    unfold micros
    omega
  have hrest : d.micros % 86400000000 = d.clock := by
    unfold micros
    omega
  have hday : d.ordinal - daysBeforeYear d.year = daysBeforeMonth d.year d.month + d.day := by
    unfold ordinal
    omega
  have hminute := d.minute_lt
  have hsecond := d.second_lt
  have hmicro := d.microsecond_lt
  simp only [fieldsOf, hordinal, d.yearOf_ordinal, hday, d.monthOf_day, hrest, fields, clock,
    Nat.add_sub_cancel_left, List.cons.injEq, true_and, and_true]
  omega

end DateTime

end Encoding
