import IncidentPlatform.Api.Calendar
import IncidentPlatform.Api.Reports
import IncidentPlatform.Persistence.Repository

/-!
# The time from an approval to its execution

The metric takes its start from the end of the approvals and its end from the beginning of the
audit log, and shows no minutes when the end comes first. So an incident that is approved and
executed more than once may be measured from its last approval to its first execution.
-/

namespace IncidentPlatform

open Encoding

/-! ## Rounded minutes -/

section

variable (tt : TimeText)

/-- A duration in minutes, clamped at zero and rounded. -/
def minutesOf (micros : ℤ) : ℚ := tt.round (max ((micros : ℚ) / 1000000) 0 / 60)

/-- A number is rounded to one that is at most half a hundredth away. -/
def TimeText.RoundsToTwo : Prop := ∀ q, |tt.round q - q| ≤ 1 / 200

/-- Clamping and rounding hide the difference of two durations: neither is positive, or they are in
one hundredth of a minute, and so at most 0.6 seconds apart or at most 0.6 seconds each. -/
def HiddenDifference (x y : ℤ) : Prop :=
  (x ≤ 0 ∧ y ≤ 0) ∨
    ((|x - y| ≤ 600000 ∨ x ≤ 600000 ∧ y ≤ 600000) ∧ minutesOf tt x = minutesOf tt y)

/-- Two durations that become the same minutes: they are equal, or their difference is hidden. -/
def SameMinutes (x y : ℤ) : Prop := x = y ∨ HiddenDifference tt x y

variable {tt}

theorem minutesOf_nonpos {x : ℤ} (h : x ≤ 0) : minutesOf tt x = tt.round 0 := by
  have hx : (x : ℚ) / 1000000 ≤ 0 := div_nonpos_of_nonpos_of_nonneg (by exact_mod_cast h) (by simp)
  rw [minutesOf, max_eq_right hx, zero_div]

theorem clamped_eq (x : ℤ) : max ((x : ℚ) / 1000000) 0 / 60 = ((max x 0 : ℤ) : ℚ) / 60000000 := by
  have hmax := max_div_div_right (c := (1000000 : ℚ)) (by norm_num) x 0
  rw [zero_div] at hmax
  rw [Int.cast_max, Int.cast_zero, hmax, div_div]
  norm_num

/-- Durations that are rounded to one number are close. -/
theorem close_of_minutesOf_eq (hround : tt.RoundsToTwo) {x y : ℤ}
    (h : minutesOf tt x = minutesOf tt y) : |max x 0 - max y 0| ≤ 600000 := by
  have hx := hround (((max x 0 : ℤ) : ℚ) / 60000000)
  have hy := hround (((max y 0 : ℤ) : ℚ) / 60000000)
  rw [minutesOf, minutesOf, clamped_eq, clamped_eq] at h
  rw [h, abs_le] at hx
  rw [abs_le] at hy
  have hle : ((max x 0 - max y 0 : ℤ) : ℚ) ≤ 600000 := by
    rw [Int.cast_sub]
    linarith only [hx.1, hy.2]
  have hge : (-600000 : ℚ) ≤ ((max x 0 - max y 0 : ℤ) : ℚ) := by
    rw [Int.cast_sub]
    linarith only [hx.2, hy.1]
  exact abs_le.mpr ⟨by exact_mod_cast hge, by exact_mod_cast hle⟩

theorem minutesOf_eq_iff (hround : tt.RoundsToTwo) {x y : ℤ} :
    minutesOf tt x = minutesOf tt y ↔ SameMinutes tt x y := by
  constructor
  · intro h
    by_cases hnone : x ≤ 0 ∧ y ≤ 0
    · exact Or.inr (Or.inl hnone)
    refine Or.inr (Or.inr ⟨?_, h⟩)
    have hclose := close_of_minutesOf_eq hround h
    -- Either both durations are positive, or the one that is is small.
    by_cases hpos : 0 < x ∧ 0 < y
    · left
      rwa [max_eq_left hpos.1.le, max_eq_left hpos.2.le] at hclose
    · right
      rw [abs_le] at hclose
      rw [not_and_or] at hpos
      omega
  · rintro (rfl | ⟨hx, hy⟩ | ⟨-, h⟩)
    · rfl
    · rw [minutesOf_nonpos hx, minutesOf_nonpos hy]
    · exact h

end

theorem TimeText.calendar_roundsToTwo : TimeText.calendar.RoundsToTwo := by
  intro q
  have hle := Int.floor_le (q * 100)
  have hlt := Int.lt_floor_add_one (q * 100)
  change |roundTwo q - q| ≤ 1 / 200
  rw [roundTwo, abs_le]
  split_ifs with hup
  · have hhalf : 1 / 2 ≤ q * 100 - ⌊q * 100⌋ := by
      rcases hup with h | h
      · exact h.le
      · exact h.1.ge
    rw [Int.cast_add, Int.cast_one]
    constructor <;> linarith
  · rw [not_or, not_lt] at hup
    constructor <;> linarith [hup.1]

/-! ## Approvals and executions -/

section

variable (tt : TimeText) (incident : IncidentRecord) (auditEvents : List ListedEvent)

/-- The times of the approved approvals, as they are listed. -/
def approvedTimes : List Time :=
  (incident.approvals.filter ApprovalRecord.approved).map ApprovalRecord.createdAt

/-- The executions of the incident, in the order of their texts. -/
def executionEvents : List ListedEvent :=
  (incidentAuditEvents incident auditEvents).filter fun e ↦ e.eventType == "action_executed"

/-- The times of the executions. -/
def executedTimes : List Time :=
  (executionEvents incident auditEvents).filterMap fun e ↦ tt.parse e.createdAt

/-- The time of the execution that is listed first, if it can be read. -/
def firstExecuted : Option Time :=
  (executionEvents incident auditEvents).head?.bind fun e ↦ tt.parse e.createdAt

/-- Nothing else was approved after `a` and before `t`. -/
def Nearest (a t : Time) : Prop := ∀ b ∈ approvedTimes incident, ¬ (a < b ∧ b < t)

/-- Something approved at `a` was executed at `t`. -/
structure Answers (a t : Time) : Prop where
  approved : a ∈ approvedTimes incident
  executed : t ∈ executedTimes tt incident auditEvents
  order : a ≤ t
  nearest : Nearest incident a t

theorem approvalDuration_eq (timeline : List TimelineItem) :
    (calculateOperationalMetrics tt incident timeline auditEvents).approvalDurationMinutes =
      minutesBetween tt (approvedTimes incident).getLast?
        (firstExecuted tt incident auditEvents) := by
  rw [approvedTimes, List.getLast?_map, firstExecuted, executionEvents, List.head?_filter]
  rfl

theorem minutesBetween_eq_some {start stop : Option Time} {m : ℚ} :
    minutesBetween tt start stop = some m ↔
      ∃ a t, start = some a ∧ stop = some t ∧ m = minutesOf tt (t - a) := by
  cases start with
  | none => simp [minutesBetween]
  | some a =>
    cases stop with
    | none => simp [minutesBetween]
    | some t => simp [minutesBetween, minutesOf, eq_comm]

variable {tt incident auditEvents}

theorem firstExecuted_mem {t : Time} (h : firstExecuted tt incident auditEvents = some t) :
    t ∈ executedTimes tt incident auditEvents := by
  obtain ⟨e, he, ht⟩ := Option.bind_eq_some_iff.mp h
  exact List.mem_filterMap.mpr ⟨e, List.mem_of_mem_head? he, ht⟩

end

/-- A duration that is shown is that from an approval to its execution. -/
def PairsApproval (tt : TimeText) (incident : IncidentRecord) (timeline : List TimelineItem)
    (auditEvents : List ListedEvent) : Prop :=
  ∀ m, (calculateOperationalMetrics tt incident timeline auditEvents).approvalDurationMinutes =
    some m → ∃ a t, Answers tt incident auditEvents a t ∧ m = minutesOf tt (t - a)

/-- **The duration pairs an approval with its execution if and only if** the last approval is not
after the first execution, with none in between, or some other approval and its execution are by
coincidence as far apart, to the hundredth of a minute. -/
theorem pairsApproval_iff (tt : TimeText) (hround : tt.RoundsToTwo) (incident : IncidentRecord)
    (timeline : List TimelineItem) (auditEvents : List ListedEvent) :
    PairsApproval tt incident timeline auditEvents ↔
      ∀ a t, (approvedTimes incident).getLast? = some a →
        firstExecuted tt incident auditEvents = some t →
          (a ≤ t ∧ Nearest incident a t) ∨
            ∃ a' t', Answers tt incident auditEvents a' t' ∧ (a' ≠ a ∨ t' ≠ t) ∧
              SameMinutes tt (t - a) (t' - a') := by
  constructor
  · intro h a t ha ht
    obtain ⟨a', t', hpair, hm⟩ := h (minutesOf tt (t - a)) (by
      rw [approvalDuration_eq, minutesBetween_eq_some]
      exact ⟨a, t, ha, ht, rfl⟩)
    by_cases hother : a' ≠ a ∨ t' ≠ t
    · exact Or.inr ⟨a', t', hpair, hother, (minutesOf_eq_iff hround).mp hm⟩
    · rw [not_or, not_not, not_not] at hother
      obtain ⟨rfl, rfl⟩ := hother
      exact Or.inl ⟨hpair.order, hpair.nearest⟩
  · intro h m hm
    rw [approvalDuration_eq, minutesBetween_eq_some] at hm
    obtain ⟨a, t, ha, ht, rfl⟩ := hm
    rcases h a t ha ht with ⟨horder, hnearest⟩ | ⟨a', t', hpair, -, hsame⟩
    · exact ⟨a, t, ⟨List.mem_of_getLast? ha, firstExecuted_mem ht, horder, hnearest⟩, rfl⟩
    · exact ⟨a', t', hpair, (minutesOf_eq_iff hround).mpr hsame⟩

/-! ## Approved twice -/

/-- A time at noon and some minutes. -/
def minutePast (minute : ℕ) (h : minute < 60) : DateTime := { noon with minute, minute_lt := h }

/-- An approval of that minute. -/
def approvalAt (approvalId : String) (d : DateTime) : ApprovalRecord where
  approvalId
  approver := "oncall"
  approved := true
  approvalToken := "t"
  expiresAt := (d.micros : ℤ) + 900000000
  createdAt := (d.micros : ℤ)

/-- An execution of that minute. -/
def executedAt (d : DateTime) : ListedEvent where
  eventType := "action_executed"
  payload := [("incident_id", .str "inc_1")]
  createdAt := d.isoformat

/-- Approved for a rehearsal, and half an hour later for the real run. -/
def approvedTwice : IncidentRecord :=
  { checkoutIncident with
    approvals := [approvalAt "a1" noon, approvalAt "a2" (minutePast 30 (by decide))] }

/-- The rehearsal and the run, newest first. -/
def executedTwice : List ListedEvent :=
  [executedAt (minutePast 40 (by decide)), executedAt (minutePast 5 (by decide))]

/-- Approved twice and executed once, for the second approval. -/
theorem pairsApproval_iff_executedOnce :
    PairsApproval TimeText.calendar approvedTwice []
      [executedAt (minutePast 40 (by decide))] := by
  refine (pairsApproval_iff TimeText.calendar TimeText.calendar_roundsToTwo approvedTwice []
    [executedAt (minutePast 40 (by decide))]).mpr fun a t ha ht ↦ Or.inl ?_
  have hkept : (approvedTimes approvedTwice).getLast? =
        some ((minutePast 30 (by decide)).micros : ℤ) ∧
      firstExecuted TimeText.calendar approvedTwice [executedAt (minutePast 40 (by decide))] =
        some ((minutePast 40 (by decide)).micros : ℤ) := by decide +kernel
  cases hkept.1.symm.trans ha
  cases hkept.2.symm.trans ht
  unfold Nearest
  decide +kernel

/-- The duration shown is zero, though no execution followed an approval so fast. -/
theorem duration_of_other_execution :
    OperationalMetrics.approvalDurationMinutes
        (calculateOperationalMetrics TimeText.calendar approvedTwice [] executedTwice) = some 0 ∧
      ¬ PairsApproval TimeText.calendar approvedTwice [] executedTwice := by
  have hzero : OperationalMetrics.approvalDurationMinutes
      (calculateOperationalMetrics TimeText.calendar approvedTwice [] executedTwice) = some 0 := by
    rw [approvalDuration_eq]
    decide +kernel
  have hapart : ∀ a ∈ approvedTimes approvedTwice,
      ∀ t ∈ executedTimes TimeText.calendar approvedTwice executedTwice,
        a ≤ t → minutesOf TimeText.calendar (t - a) ≠ 0 := by decide +kernel
  refine ⟨hzero, fun h ↦ ?_⟩
  obtain ⟨a, t, hpair, hm⟩ := h 0 hzero
  exact hapart a hpair.approved t hpair.executed hpair.order hm.symm

end IncidentPlatform
