import IncidentPlatform.Encoding.Calendar
import Mathlib.Data.String.Basic

/-!
# ISO 8601, as `isoformat` writes it

Every field has a fixed width, except that a fraction of no microseconds is left out. A text that
ends early is less than one that goes on, so the order of the texts is the order of the times
(`isoformat_lt_iff`).
-/

namespace Encoding

/-! ## Numbers of fixed width -/

/-- The last decimal digit. -/
def digit (n : ℕ) : Char := Char.ofNat (48 + n % 10)

/-- The last `k` digits of a number. -/
def pad : ℕ → ℕ → List Char
  | 0, _ => []
  | k + 1, n => digit (n / 10 ^ k) :: pad k (n % 10 ^ k)

theorem digit_lt {n n' : ℕ} (h : n < n') (h' : n' < 10) : digit n < digit n' := by
  have hall : ∀ b < 10, ∀ a < b, digit a < digit b := by decide
  exact hall n' h' n h

theorem pad_append_lt {k n n' : ℕ} (h : n < n') (h' : n' < 10 ^ k) (r r' : List Char) :
    pad k n ++ r < pad k n' ++ r' := by
  induction k generalizing n n' with
  | zero => exact absurd h (by omega)
  | succ k ih =>
    have hpos : 0 < 10 ^ k := Nat.pow_pos (by decide)
    have hhigh : n' / 10 ^ k < 10 := by
      rw [Nat.div_lt_iff_lt_mul hpos, ← Nat.pow_succ']
      exact h'
    refine List.cons_lt_cons_iff.mpr ?_
    rcases Nat.lt_or_eq_of_le (Nat.div_le_div_right (c := 10 ^ k) h.le) with hlt | heq
    · exact Or.inl (digit_lt hlt hhigh)
    · refine Or.inr ⟨congrArg digit heq, ih ?_ (Nat.mod_lt _ hpos)⟩
      have hn := Nat.div_add_mod n (10 ^ k)
      have hn' := Nat.div_add_mod n' (10 ^ k)
      rw [heq] at hn
      omega

/-- The fraction of a second, if there is one. -/
def fraction (microsecond : ℕ) : List Char :=
  if microsecond = 0 then [] else '.' :: pad 6 microsecond

theorem fraction_lt {n n' : ℕ} (h : n < n') (h' : n' < 1000000) : fraction n < fraction n' := by
  rw [fraction, fraction, if_neg (Nat.ne_zero_of_lt h)]
  split_ifs
  · exact List.nil_lt_cons _ _
  · have hpad := pad_append_lt (k := 6) h h' [] []
    rw [List.append_nil, List.append_nil] at hpad
    exact List.cons_lt_cons_iff.mpr (Or.inr ⟨rfl, hpad⟩)

/-! ## Times -/

/-- The text of the fields of a time. -/
def isoChars : List ℕ → List Char
  | [year, month, day, hour, minute, second, microsecond] =>
    pad 4 year ++ '-' :: (pad 2 month ++ '-' :: (pad 2 day ++ 'T' :: (pad 2 hour ++ ':' ::
      (pad 2 minute ++ ':' :: (pad 2 second ++ fraction microsecond)))))
  | _ => []

/-- `d.isoformat()`. -/
def DateTime.isoformat (d : DateTime) : String := String.ofList (isoChars d.fields)

/-- The text of a time that is given by its count. -/
def isoformatOf (micros : ℕ) : String := String.ofList (isoChars (fieldsOf micros))

theorem isoformatOf_micros (d : DateTime) : isoformatOf d.micros = d.isoformat := by
  rw [isoformatOf, d.fieldsOf_micros, DateTime.isoformat]

/-- A field that is less comes first whatever follows, and with equal fields the rest decides. -/
theorem field_lt {k n n' : ℕ} (h' : n' < 10 ^ k) {c : Char} {r r' : List Char}
    (h : n < n' ∨ n = n' ∧ r < r') : pad k n ++ c :: r < pad k n' ++ c :: r' := by
  rcases h with h | ⟨rfl, h⟩
  · exact pad_append_lt h h' _ _
  · exact List.append_left_lt (List.cons_lt_cons_iff.mpr (Or.inr ⟨rfl, h⟩))

theorem isoChars_lt {d d' : DateTime} (h : d.fields < d'.fields) :
    isoChars d.fields < isoChars d'.fields := by
  have hyear := d'.year_mem.2
  have hmonth := d'.month_mem.2
  have hhour := d'.hour_lt
  have hminute := d'.minute_lt
  have hsecond := d'.second_lt
  refine field_lt (by omega) ((DateTime.fields_lt_iff.mp h).imp_right (And.imp_right fun h ↦ ?_))
  refine field_lt (by omega) (h.imp_right (And.imp_right fun h ↦ ?_))
  refine field_lt d'.day_lt (h.imp_right (And.imp_right fun h ↦ ?_))
  refine field_lt (by omega) (h.imp_right (And.imp_right fun h ↦ ?_))
  refine field_lt (by omega) (h.imp_right (And.imp_right fun h ↦ ?_))
  rcases h with h | ⟨hsecond', h⟩
  · exact pad_append_lt h (by omega) _ _
  · rw [hsecond']
    exact List.append_left_lt (fraction_lt h d'.microsecond_lt)

/-- **The order of the texts is the order of the times.** -/
theorem isoformat_lt_iff {d d' : DateTime} :
    d.isoformat < d'.isoformat ↔ d.micros < d'.micros := by
  have htext {d d' : DateTime} (h : d.fields < d'.fields) : d.isoformat < d'.isoformat := by
    rw [String.lt_iff_toList_lt, DateTime.isoformat, DateTime.isoformat, String.toList_ofList,
      String.toList_ofList]
    exact isoChars_lt h
  rw [DateTime.micros_lt_iff]
  refine ⟨fun h ↦ ?_, htext⟩
  rcases lt_trichotomy d.fields d'.fields with hlt | heq | hgt
  · exact hlt
  · rw [DateTime.fields_injective heq] at h
    exact absurd h (lt_irrefl _)
  · exact absurd (h.trans (htext hgt)) (lt_irrefl _)

theorem isoformat_le_iff {d d' : DateTime} :
    d.isoformat ≤ d'.isoformat ↔ d.micros ≤ d'.micros := by
  rw [← not_lt, ← not_lt, isoformat_lt_iff]

end Encoding
