import IncidentPlatform.Safety.ApprovalDuration

/-!
# Durations and offsets from UTC

A report reads the times of the incident and of its events with their offsets cut off, so a duration
is the difference of two wall clocks. That is the time that passed exactly if both clocks have the
same offset, or the stop is not after the start on either count, or the difference is lost in
clamping and rounding (`durations_iff`).
-/

namespace IncidentPlatform

open Encoding

/-! ## Reading a time -/

/-- What `_parse_datetime` is called with. -/
inductive Written where
  | object (s : Stamp)
  | text (t : String)

/-- `_parse_datetime`. -/
def parseDatetime (tt : TimeText) : Option Written → Option Time
  | none => none
  | some (.object s) => some (s.wall.micros : ℤ)
  | some (.text t) => tt.parse t

/-- `fromiso` is the `datetime.fromisoformat` that the texts are read with. -/
def TimeText.ReadsBy (tt : TimeText) (fromiso : String → Option Stamp) : Prop :=
  ∀ t, tt.parse t = (fromiso (replaceZulu t)).map fun s ↦ (s.wall.micros : ℤ)

/-- The time is written as an object, or as an ISO text with its offset, with none, or with a `Z`
for UTC. -/
inductive Writes (fromiso : String → Option Stamp) : Written → Stamp → Prop
  | object (s : Stamp) : Writes fromiso (.object s) s
  | text {t : String} {s : Stamp} (hzulu : 'Z' ∉ t.toList) (ht : fromiso t = some s) :
    Writes fromiso (.text t) s
  | zulu {t : String} {s : Stamp} (hzulu : 'Z' ∉ t.toList) (ht : fromiso (t ++ "+00:00") = some s) :
    Writes fromiso (.text (t ++ "Z")) s

theorem flatMap_zulu {l : List Char} (h : 'Z' ∉ l) :
    (l.flatMap fun c ↦ if c = 'Z' then "+00:00".toList else [c]) = l := by
  induction l with
  | nil => rfl
  | cons c l ih =>
    rw [List.mem_cons, not_or] at h
    rw [List.flatMap_cons, if_neg (Ne.symm h.1), ih h.2]
    rfl

theorem replaceZulu_of_not_mem {t : String} (h : 'Z' ∉ t.toList) : replaceZulu t = t := by
  rw [replaceZulu, flatMap_zulu h, String.ofList_toList]

theorem replaceZulu_zulu {t : String} (h : 'Z' ∉ t.toList) :
    replaceZulu (t ++ "Z") = t ++ "+00:00" := by
  rw [replaceZulu, String.toList_append, List.flatMap_append, flatMap_zulu h]
  exact String.toList_injective (by rw [String.toList_ofList, String.toList_append]; rfl)

section

variable {tt : TimeText} {fromiso : String → Option Stamp} {v v' : Written} {s s' : Stamp}

/-- However the time is written, its wall clock is read. -/
theorem parseDatetime_of_writes (hreads : tt.ReadsBy fromiso) (h : Writes fromiso v s) :
    parseDatetime tt (some v) = some (s.wall.micros : ℤ) := by
  cases h with
  | object => rfl
  | text hzulu ht => rw [parseDatetime, hreads, replaceZulu_of_not_mem hzulu, ht, Option.map_some]
  | zulu hzulu ht => rw [parseDatetime, hreads, replaceZulu_zulu hzulu, ht, Option.map_some]

end

/-! ## The texts of `isoformat` -/

theorem not_zulu_pad (k n : ℕ) : 'Z' ∉ pad k n := by
  have hdigit : ∀ m < 10, 'Z' ≠ Char.ofNat (48 + m) := by decide
  induction k generalizing n with
  | zero => exact List.not_mem_nil
  | succ k ih =>
    rw [pad, List.mem_cons, not_or]
    exact ⟨hdigit _ (Nat.mod_lt _ (by decide)), ih _⟩

theorem not_zulu_fraction (n : ℕ) : 'Z' ∉ fraction n := by
  rw [fraction]
  split_ifs
  · exact List.not_mem_nil
  · simp [not_zulu_pad]

theorem not_zulu_isoChars (d : DateTime) : 'Z' ∉ isoChars d.fields := by
  rw [DateTime.fields, isoChars]
  simp [not_zulu_pad, not_zulu_fraction]

theorem not_zulu_offsetChars (o : Option ℤ) : 'Z' ∉ offsetChars o := by
  cases o with
  | none => exact List.not_mem_nil
  | some o =>
    rw [offsetChars, spanChars]
    split_ifs <;> simp [not_zulu_pad, not_zulu_fraction]

/-- The text `isoformat` makes of a time writes it. -/
theorem writes_isoformat (s : Stamp) : Writes fromisoformat (.text s.isoformat) s := by
  refine .text ?_ (fromisoformat_isoformat s)
  rw [Stamp.isoformat, String.toList_ofList, List.mem_append, not_or]
  exact ⟨not_zulu_isoChars s.wall, not_zulu_offsetChars s.offset⟩

/-- A time in UTC, with an offset of zero. -/
def utcStamp (d : DateTime) : Stamp := ⟨d, some 0, by rintro _ ⟨⟩; decide⟩

theorem writes_zulu (d : DateTime) :
    Writes fromisoformat (.text (d.isoformat ++ "Z")) (utcStamp d) := by
  refine .zulu ?_ ?_
  · rw [DateTime.isoformat, String.toList_ofList]
    exact not_zulu_isoChars d
  · have hplus : d.isoformat ++ "+00:00" = (utcStamp d).isoformat :=
      String.toList_injective (by
        rw [String.toList_append, DateTime.isoformat, Stamp.isoformat, String.toList_ofList,
          String.toList_ofList, String.toList_ofList]
        rfl)
    rw [hplus, fromisoformat_isoformat]

/-! ## Durations -/

section

variable (tt : TimeText)

/-- The minutes that passed between two instants. -/
def elapsedMinutes (s s' : Stamp) : ℚ := minutesOf tt (s'.instant - s.instant)

/-- The microseconds between two wall clocks. -/
def wallDifference (s s' : Stamp) : ℤ := s'.wall.micros - s.wall.micros

/-- The difference of two offsets from UTC, none and `Z` counting as zero. -/
def offsetDifference (s s' : Stamp) : ℤ := s'.offset.getD 0 - s.offset.getD 0

variable {tt} {fromiso : String → Option Stamp} {v v' : Written} {s s' : Stamp}

/-- Wall clocks differ by the time that passed and by their offsets. -/
theorem wallDifference_eq (s s' : Stamp) :
    wallDifference s s' = s'.instant - s.instant + offsetDifference s s' := by
  rw [wallDifference, offsetDifference, Stamp.instant, Stamp.instant]
  omega

theorem wallDifference_eq_iff :
    wallDifference s s' = s'.instant - s.instant ↔ s.offset.getD 0 = s'.offset.getD 0 := by
  rw [wallDifference_eq, offsetDifference]
  omega

/-- A duration is the time that passed if its two ends are written with one offset, or clamping and
rounding hide the difference, and only then. -/
theorem minutesBetween_iff (hreads : tt.ReadsBy fromiso) (hround : tt.RoundsToTwo)
    (hv : Writes fromiso v s) (hv' : Writes fromiso v' s') :
    minutesBetween tt (parseDatetime tt (some v)) (parseDatetime tt (some v')) =
      some (elapsedMinutes tt s s') ↔
        s.offset.getD 0 = s'.offset.getD 0 ∨
          HiddenDifference tt (wallDifference s s') (s'.instant - s.instant) := by
  rw [parseDatetime_of_writes hreads hv, parseDatetime_of_writes hreads hv',
    ← wallDifference_eq_iff]
  exact Option.some_inj.trans (minutesOf_eq_iff hround)

end

/-! ## The metrics of a report -/

/-- An incident whose times may have offsets. -/
structure StampedIncident where
  /-- Everything but the times. -/
  record : IncidentRecord
  occurredAt : Stamp
  updatedAt : Stamp
  approvals : List (ApprovalRecord × Stamp)

/-- What is left of an incident by `.replace(tzinfo=None)`. -/
def StampedIncident.naive (incident : StampedIncident) : IncidentRecord :=
  { incident.record with
    metadata :=
      { incident.record.metadata with occurredAt := (incident.occurredAt.wall.micros : ℤ) }
    updatedAt := (incident.updatedAt.wall.micros : ℤ)
    approvals := incident.approvals.map fun a ↦ { a.1 with createdAt := (a.2.wall.micros : ℤ) } }

attribute [ext] OperationalMetrics

/-- What a report is made from. -/
structure ReportInput where
  incident : StampedIncident
  timeline : List TimelineItem
  auditEvents : List ListedEvent

section

variable (tt : TimeText) (fromiso : String → Option Stamp)

/-- `calculate_operational_metrics`. -/
def ReportInput.metrics (input : ReportInput) : OperationalMetrics :=
  calculateOperationalMetrics tt input.incident.naive input.timeline input.auditEvents

/-- Both ends of a duration, if both are there. -/
def both : Option Stamp → Option Stamp → Option (Stamp × Stamp)
  | some start, some stop => some (start, stop)
  | _, _ => none

/-- The ends of the three durations of a report. The first execution is chosen by its text. -/
def ReportInput.ends (input : ReportInput) : List (Option (Stamp × Stamp)) :=
  [both (some input.incident.occurredAt)
      ((input.timeline.find? fun item ↦ item.event == "workflow_checkpoint").bind
        fun item ↦ fromiso (replaceZulu item.timestamp)),
    both (some input.incident.occurredAt)
      (if input.incident.record.state == .resolved then some input.incident.updatedAt else none),
    both ((input.incident.approvals.filter fun a ↦ a.1.approved).getLast?.map Prod.snd)
      ((executionEvents input.incident.naive input.auditEvents).head?.bind
        fun e ↦ fromiso (replaceZulu e.createdAt))]

/-- The time that passed between the ends and the difference of their offsets add up to the same,
or to minutes that are the same. -/
def SameDuration (e e' : Stamp × Stamp) : Prop :=
  e.2.instant - e.1.instant + offsetDifference e.1 e.2 =
      e'.2.instant - e'.1.instant + offsetDifference e'.1 e'.2 ∨
    HiddenDifference tt (wallDifference e.1 e.2) (wallDifference e'.1 e'.2)

/-- The two texts write one instant. -/
def SameInstant (t t' : String) : Prop :=
  ∃ s s', Writes fromiso (.text t) s ∧ Writes fromiso (.text t') s' ∧ s.instant = s'.instant

/-- The same input, with other offsets. -/
structure OtherOffsets (input input' : ReportInput) : Prop where
  record : input'.incident.record = input.incident.record
  occurredAt : input'.incident.occurredAt.instant = input.incident.occurredAt.instant
  updatedAt : input'.incident.updatedAt.instant = input.incident.updatedAt.instant
  approvals : List.Forall₂ (fun a a' ↦ a'.1 = a.1 ∧ a'.2.instant = a.2.instant)
    input.incident.approvals input'.incident.approvals
  timeline : List.Forall₂ (fun a a' ↦ a' = { a with timestamp := a'.timestamp } ∧
    SameInstant fromiso a.timestamp a'.timestamp) input.timeline input'.timeline
  auditEvents : List.Forall₂ (fun e e' ↦ e' = { e with createdAt := e'.createdAt } ∧
    SameInstant fromiso e.createdAt e'.createdAt) input.auditEvents input'.auditEvents

variable {tt fromiso}

theorem sameDuration_iff {e e' : Stamp × Stamp} :
    SameDuration tt e e' ↔
      SameMinutes tt (wallDifference e.1 e.2) (wallDifference e'.1 e'.2) := by
  rw [SameDuration, SameMinutes, wallDifference_eq e.1, wallDifference_eq e'.1]

/-- A duration is the minutes between the wall clocks of its ends. -/
theorem minutesBetween_eq (start stop : Option Stamp) :
    minutesBetween tt (start.map fun s ↦ (s.wall.micros : ℤ))
        (stop.map fun s ↦ (s.wall.micros : ℤ)) =
      (both start stop).map fun e ↦ minutesOf tt (wallDifference e.1 e.2) := by
  cases start with
  | none => rfl
  | some => cases stop <;> rfl

theorem map_minutesOf_eq_iff (hround : tt.RoundsToTwo) {x y : Option (Stamp × Stamp)} :
    (x.map fun e ↦ minutesOf tt (wallDifference e.1 e.2)) =
        (y.map fun e ↦ minutesOf tt (wallDifference e.1 e.2)) ↔
      Option.Rel (SameDuration tt) x y := by
  constructor
  · intro h
    cases x with
    | none =>
      cases y with
      | none => exact .none
      | some y => cases h
    | some x =>
      cases y with
      | none => cases h
      | some y =>
        exact .some (sameDuration_iff.mpr
          ((minutesOf_eq_iff hround).mp (Option.some_injective _ h)))
  · intro h
    cases h with
    | none => rfl
    | some h => exact congrArg some ((minutesOf_eq_iff hround).mpr (sameDuration_iff.mp h))

/-- The times of the approvals of the incident that is left. -/
theorem getLast?_approvedTimes_naive (incident : StampedIncident) :
    (approvedTimes incident.naive).getLast? =
      ((incident.approvals.filter fun a ↦ a.1.approved).getLast?.map Prod.snd).map
        fun s ↦ (s.wall.micros : ℤ) := by
  rw [approvedTimes, StampedIncident.naive, List.filter_map, List.map_map, List.getLast?_map,
    Option.map_map]
  rfl

/-- The durations of a report are those between its ends. -/
theorem durations_eq (hreads : tt.ReadsBy fromiso) (input : ReportInput) :
    [(input.metrics tt).timeToDiagnoseMinutes, (input.metrics tt).mttrMinutes,
      (input.metrics tt).approvalDurationMinutes] =
      (input.ends fromiso).map
        (Option.map fun e ↦ minutesOf tt (wallDifference e.1 e.2)) := by
  have hparse : tt.parse = fun t ↦ (fromiso (replaceZulu t)).map fun s ↦ (s.wall.micros : ℤ) :=
    funext hreads
  have hexecuted : firstExecuted tt input.incident.naive input.auditEvents =
      ((executionEvents input.incident.naive input.auditEvents).head?.bind
        fun e ↦ fromiso (replaceZulu e.createdAt)).map fun s ↦ (s.wall.micros : ℤ) := by
    rw [firstExecuted, hparse, Option.map_bind]
    rfl
  have hroute : ((input.timeline.find? fun item ↦ item.event == "workflow_checkpoint").bind
        fun item ↦ tt.parse item.timestamp) =
      ((input.timeline.find? fun item ↦ item.event == "workflow_checkpoint").bind
        fun item ↦ fromiso (replaceZulu item.timestamp)).map fun s ↦ (s.wall.micros : ℤ) := by
    rw [hparse, Option.map_bind]
    rfl
  have hresolved : (if input.incident.naive.state == .resolved then
        some input.incident.naive.updatedAt else none) =
      (if input.incident.record.state == .resolved then some input.incident.updatedAt
        else none).map fun s ↦ (s.wall.micros : ℤ) := by
    rw [StampedIncident.naive]
    split_ifs <;> rfl
  rw [ReportInput.metrics, approvalDuration_eq, hexecuted, getLast?_approvedTimes_naive,
    ReportInput.ends, List.map_cons, List.map_cons, List.map_singleton, ← minutesBetween_eq,
    ← minutesBetween_eq, ← minutesBetween_eq, ← hroute, ← hresolved]
  rfl

theorem forall₂_ends_iff (hround : tt.RoundsToTwo) {l l' : List (Option (Stamp × Stamp))} :
    l.map (Option.map fun e ↦ minutesOf tt (wallDifference e.1 e.2)) =
        l'.map (Option.map fun e ↦ minutesOf tt (wallDifference e.1 e.2)) ↔
      List.Forall₂ (Option.Rel (SameDuration tt)) l l' := by
  rw [← List.forall₂_eq_eq_eq, List.forall₂_map_left_iff, List.forall₂_map_right_iff]
  simp only [map_minutesOf_eq_iff hround]

/-- Other offsets leave the metrics alone if they leave the durations alone, and only then. -/
theorem metrics_eq_iff (hreads : tt.ReadsBy fromiso) (hround : tt.RoundsToTwo)
    {input input' : ReportInput} (h : OtherOffsets fromiso input input') :
    input'.metrics tt = input.metrics tt ↔
      List.Forall₂ (Option.Rel (SameDuration tt)) (input'.ends fromiso) (input.ends fromiso) := by
  rw [← forall₂_ends_iff hround, ← durations_eq hreads, ← durations_eq hreads]
  constructor
  · intro heq
    rw [heq]
  · intro heq
    obtain ⟨hdiagnose, hrest⟩ := List.cons.inj heq
    obtain ⟨hmttr, hrest⟩ := List.cons.inj hrest
    -- The other metrics are counted in the record, which has no times in it.
    have hevidence := congrArg IncidentRecord.evidence h.record
    have hcoverage := congrArg IncidentRecord.evidenceCoverageScore h.record
    have hactions := congrArg IncidentRecord.executedActions h.record
    exact OperationalMetrics.ext rfl hdiagnose hmttr (List.cons.inj hrest).1
      (congrArg List.length hevidence) hcoverage (congrArg List.length hactions)
      (congrArg (fun l ↦ (l.filter ActionResult.success).length) hactions)

end

/-- **A duration is the time that passed if and only if its two ends are written with one offset, or
clamping and rounding hide the difference, and other offsets leave the metrics of a report alone if
and only if, for each duration, the time that passed and the difference of the offsets add up to the
same, up to what is hidden.** -/
theorem durations_iff (tt : TimeText) (fromiso : String → Option Stamp)
    (hreads : tt.ReadsBy fromiso) (hround : tt.RoundsToTwo) :
    (∀ v v' s s', Writes fromiso v s → Writes fromiso v' s' →
      (minutesBetween tt (parseDatetime tt (some v)) (parseDatetime tt (some v')) =
          some (elapsedMinutes tt s s') ↔
        s.offset.getD 0 = s'.offset.getD 0 ∨
          HiddenDifference tt (wallDifference s s') (s'.instant - s.instant))) ∧
    ∀ input input', OtherOffsets fromiso input input' →
      (input'.metrics tt = input.metrics tt ↔
        List.Forall₂ (Option.Rel (SameDuration tt)) (input'.ends fromiso)
          (input.ends fromiso)) :=
  ⟨fun _ _ _ _ hv hv' ↦ minutesBetween_iff hreads hround hv hv',
    fun _ _ h ↦ metrics_eq_iff hreads hround h⟩

/-! ## On the calendar -/

theorem TimeText.calendar_readsBy : TimeText.calendar.ReadsBy fromisoformat := by
  intro t
  dsimp only [TimeText.calendar]

/-- Noon and some minutes in UTC, as a clock two hours ahead shows it. -/
def twoAhead (minute : ℕ) (h : minute < 60) : Stamp :=
  ⟨{ minutePast minute h with hour := 14, hour_lt := by decide }, some 7200000000,
    by rintro _ ⟨⟩; decide⟩

theorem five_lt_sixty : 5 < 60 := by decide

theorem thirty_lt_sixty : 30 < 60 := by decide

/-- An incident of noon that is resolved at half past, with the time it occurred and the text of its
first checkpoint. -/
def noonReport (occurredAt : Stamp) (routed : String) : ReportInput where
  incident :=
    { record := { checkoutIncident with state := .resolved }
      occurredAt
      updatedAt := utcStamp (minutePast 30 thirty_lt_sixty)
      approvals := [] }
  timeline :=
    [{ timestamp := routed, phase := "audit", event := "workflow_checkpoint", summary := "" }]
  auditEvents := []

/-- Five past twelve in UTC, and two hours ahead. -/
def routedTexts : String × String :=
  ((utcStamp (minutePast 5 five_lt_sixty)).isoformat, (twoAhead 5 five_lt_sixty).isoformat)

theorem noonReport_otherOffsets :
    OtherOffsets fromisoformat (noonReport (utcStamp noon) routedTexts.1)
      (noonReport (twoAhead 0 (by decide)) routedTexts.2) where
  record := rfl
  occurredAt := by decide +kernel
  updatedAt := rfl
  approvals := .nil
  timeline := .cons ⟨rfl, _, _, writes_isoformat _, writes_isoformat _, by decide +kernel⟩ .nil
  auditEvents := .nil

theorem durations_iff_calendar :
    (minutesBetween TimeText.calendar
          (parseDatetime TimeText.calendar
            (some (.text (twoAhead 0 (by decide)).isoformat)))
          (parseDatetime TimeText.calendar
            (some (.text ((minutePast 30 (by decide)).isoformat ++ "Z")))) =
        some (elapsedMinutes TimeText.calendar (twoAhead 0 (by decide))
          (utcStamp (minutePast 30 (by decide)))) ↔
      (twoAhead 0 (by decide)).offset.getD 0 =
          (utcStamp (minutePast 30 (by decide))).offset.getD 0 ∨
        HiddenDifference TimeText.calendar
          (wallDifference (twoAhead 0 (by decide)) (utcStamp (minutePast 30 (by decide))))
          (Stamp.instant (utcStamp (minutePast 30 (by decide))) -
            Stamp.instant (twoAhead 0 (by decide)))) ∧
    ((noonReport (twoAhead 0 (by decide)) routedTexts.2).metrics TimeText.calendar =
        (noonReport (utcStamp noon) routedTexts.1).metrics TimeText.calendar ↔
      List.Forall₂ (Option.Rel (SameDuration TimeText.calendar))
        ((noonReport (twoAhead 0 (by decide)) routedTexts.2).ends fromisoformat)
        ((noonReport (utcStamp noon) routedTexts.1).ends fromisoformat)) :=
  have h := durations_iff TimeText.calendar fromisoformat TimeText.calendar_readsBy
    TimeText.calendar_roundsToTwo
  ⟨h.1 _ _ _ _ (writes_isoformat _) (writes_zulu _), h.2 _ _ noonReport_otherOffsets⟩

/-- Half an hour from noon is none if noon is written two hours ahead, and the incident is resolved
in no time. -/
theorem offset_is_dropped :
    (¬ ∀ v v' s s', Writes fromisoformat v s → Writes fromisoformat v' s' →
      minutesBetween TimeText.calendar (parseDatetime TimeText.calendar (some v))
          (parseDatetime TimeText.calendar (some v')) =
        some (elapsedMinutes TimeText.calendar s s')) ∧
    ¬ ∀ input input', OtherOffsets fromisoformat input input' →
      input'.metrics TimeText.calendar = input.metrics TimeText.calendar := by
  constructor
  · intro h
    have hzero := h _ _ _ _ (writes_isoformat (twoAhead 0 (by decide)))
      (writes_zulu (minutePast 30 (by decide)))
    revert hzero
    decide +kernel
  · intro h
    have hmttr := congrArg OperationalMetrics.mttrMinutes (h _ _ noonReport_otherOffsets)
    revert hmttr
    decide +kernel

end IncidentPlatform
