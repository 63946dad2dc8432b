import IncidentPlatform.Api.Calendar
import IncidentPlatform.Persistence.AuditStore
import IncidentPlatform.Persistence.Repository

/-!
# Listings without a database

`list_events` and `list_recent` ask Postgres for the newest rows, or cut them out of what is kept in
memory. Where no two rows have one time the sorted dictionary of the incidents answers like the
table, for every limit. So does the reversed end of the list of events, except that its limit is the
negated start of a slice, and a limit of zero starts at the beginning (`listings_agree_iff`).
-/

namespace IncidentPlatform

open Interaction

/-! ## The newest incidents -/

/-- `rows[:stop]`. -/
def sliceTo {α : Type} (stop : ℤ) (rows : List α) : List α :=
  rows.take (if stop < 0 then (rows.length + stop).toNat else stop.toNat)

/-- `sorted(rows, key=lambda item: item.updated_at, reverse=True)`, which keeps the order of rows of
one time. -/
def sortedNewest (rows : List IncidentRecord) : List IncidentRecord :=
  rows.insertionSort fun a b ↦ b.updatedAt ≤ a.updatedAt

/-- `IncidentRepository.list_recent`, in fallback mode. -/
def listRecent (limit : ℤ) (rows : List IncidentRecord) : List IncidentRecord :=
  sliceTo limit (sortedNewest rows)

/-! ## Appending and upserting -/

section

variable (env : Env) (mode : Mode)

/-- Calls of `append`, one after the other. -/
def appendAll (w : World) (calls : List (String × Dict)) : World :=
  calls.foldl (fun w c ↦ ((perform (.audit c.1 c.2)).run (serve env mode) w).2) w

/-- Calls of `upsert`, one after the other. -/
def upsertAll (w : World) (records : List IncidentRecord) : World :=
  records.foldl (fun w r ↦ ((upsert r).run (serve env mode) w).2) w

end

/-- The operation shows assignments to a record. -/
def Op.touches : Op → Bool
  | .touch _ => true
  | _ => false

/-- Every row is one that was written, and no id has two. -/
structure OfHistory (w : World) : Prop where
  written : ∀ r ∈ w.rows, r ∈ w.history
  ids : (w.rows.map IncidentRecord.incidentId).Nodup

section

variable {env : Env} {mode : Mode} {w : World}

theorem upsert_touchesNone (r : IncidentRecord) :
    (upsert r).Issues fun o ↦ o.touches = false := by
  refine ⟨rfl, fun previous ↦ ?_⟩
  refine Prog.Issues.bind (p := validateStateTransition previous r) ?_ fun _ ↦
    ⟨rfl, fun _ ↦ ⟨rfl, fun _ ↦ trivial⟩⟩
  cases previous with
  | none => trivial
  | some p =>
    rw [validateStateTransition, require]
    split_ifs <;> trivial

theorem ofHistory_serve {o : Op} (ho : o.touches = false) (h : OfHistory w) :
    OfHistory (serve env mode w o).2 := by
  cases o with
  | touch s => cases ho
  | write r =>
    refine ⟨fun s hs ↦ ?_, nodup_map_put r h.ids⟩
    rcases eq_or_mem_of_mem_put hs with rfl | hs
    · exact List.mem_append_right _ (List.mem_singleton_self s)
    · exact List.mem_append_left _ (h.written s hs)
  | _ => exact ⟨h.written, h.ids⟩

theorem ofHistory_upsertAll (records : List IncidentRecord) (h : OfHistory w) :
    OfHistory (upsertAll env mode w records) := by
  induction records generalizing w with
  | nil => exact h
  | cons r records ih =>
    exact ih (Prog.Issues.run (fun _ _ ho ↦ ofHistory_serve ho) (upsert_touchesNone r) w h)

/-- An upsert does the same in both modes. -/
theorem upsertAll_mode (records : List IncidentRecord) (w : World) :
    upsertAll env .fallback w records = upsertAll env .postgres w records := by
  have hserve (w : World) (o : Op) (ho : o.touches = false) :
      serve env .fallback w o = serve env .postgres w o := by
    cases o with
    | touch s => cases ho
    | _ => rfl
  induction records generalizing w with
  | nil => rfl
  | cons r records ih =>
    rw [upsertAll, upsertAll, List.foldl_cons, List.foldl_cons,
      (upsert_touchesNone r).run_congr hserve w]
    exact ih _

theorem appendAll_mode (calls : List (String × Dict)) (w : World) :
    appendAll env .fallback w calls = appendAll env .postgres w calls := rfl

theorem length_appendAll (calls : List (String × Dict)) (w : World) :
    (appendAll env mode w calls).events.length = w.events.length + calls.length := by
  induction calls generalizing w with
  | nil => rfl
  | cons c calls ih =>
    rw [appendAll, List.foldl_cons]
    refine (ih _).trans ?_
    change (w.events ++ [_]).length + calls.length = _
    rw [List.length_append, List.length_singleton, List.length_cons]
    omega

/-- Rows of a history in which every write is later than those before it. -/
theorem nodup_updatedAt (h : OfHistory w)
    (htimes : w.history.Pairwise fun a b ↦ a.updatedAt < b.updatedAt) :
    (w.rows.map IncidentRecord.updatedAt).Nodup := by
  have hhistory : (w.history.map IncidentRecord.updatedAt).Nodup :=
    List.pairwise_map.mpr (htimes.imp ne_of_lt)
  refine List.Nodup.map_on (fun a ha b hb hab ↦ ?_) (List.Nodup.of_map _ h.ids)
  exact List.inj_on_of_nodup_map hhistory (h.written a ha) (h.written b hb) hab

/-- The store's own order is one that lists the newest. -/
theorem newest_orderedNewest (events : List AuditEvent) (n : ℕ) :
    Newest AuditEvent.createdAt n events ((orderedNewest events).take n) :=
  ⟨_, List.perm_insertionSort _ _, List.pairwise_insertionSort _ _, rfl⟩

instance updated_trans : IsTrans IncidentRecord fun a b ↦ b.updatedAt ≤ a.updatedAt :=
  ⟨fun _ _ _ hab hbc ↦ hbc.trans hab⟩

instance updated_total : Std.Total fun a b : IncidentRecord ↦ b.updatedAt ≤ a.updatedAt :=
  ⟨fun a b ↦ le_total b.updatedAt a.updatedAt⟩

end

/-! ## Both listings -/

/-- After these calls of `append`, the fallback lists what Postgres lists, the newest events, newest
first. -/
def ListsEvents (tt : TimeText) (env : Env) (calls : List (String × Dict)) (limit : ℤ) : Prop :=
  ∀ out, Newest AuditEvent.createdAt limit.toNat (appendAll env .postgres {} calls).events out →
    listEvents tt .fallback (appendAll env .fallback {} calls).events limit =
        .ok (out.map (AuditEvent.listed tt)) ∧
      out = (appendAll env .postgres {} calls).events.reverse.take limit.toNat

/-- After these calls of `upsert`, the fallback lists what Postgres lists, the incidents that were
updated last, newest first. -/
def ListsIncidents (env : Env) (records : List IncidentRecord) (limit : ℤ) : Prop :=
  ∀ out, Newest IncidentRecord.updatedAt limit.toNat (upsertAll env .postgres {} records).rows out →
    listRecent limit (upsertAll env .fallback {} records).rows = out ∧
      out.Pairwise (fun a b ↦ b.updatedAt < a.updatedAt) ∧
      out.length = min limit.toNat (upsertAll env .postgres {} records).rows.length

section

variable {tt : TimeText} {env : Env} {limit : ℤ}

/-- The end of the list, and all of it for a limit of zero. -/
theorem listEvents_fallback (tt : TimeText) (events : List AuditEvent) (hlimit : 0 ≤ limit) :
    listEvents tt .fallback events limit =
      .ok ((events.reverse.take (if limit = 0 then events.length else limit.toNat)).map
        (AuditEvent.listed tt)) := by
  rw [listEvents_eq, if_neg (by simp)]
  have hwindow : window .fallback limit events.length =
      if limit = 0 then events.length else limit.toNat := by
    rw [window]
    split_ifs <;> omega
  rw [hwindow]
  rfl

theorem listsEvents_iff {calls : List (String × Dict)} (hlimit : 0 ≤ limit)
    (htimes : (appendAll env .postgres {} calls).events.Pairwise
      fun a b ↦ a.createdAt < b.createdAt) :
    ListsEvents tt env calls limit ↔ limit ≠ 0 ∨ calls = [] := by
  have hnodup : ((appendAll env .postgres {} calls).events.map AuditEvent.createdAt).Nodup :=
    List.pairwise_map.mpr (htimes.imp ne_of_lt)
  have hreverse : (appendAll env .postgres {} calls).events.reverse.Pairwise
      fun a b ↦ b.createdAt ≤ a.createdAt := List.pairwise_reverse.mpr (htimes.imp le_of_lt)
  have hnewest (out : List AuditEvent) :
      Newest AuditEvent.createdAt limit.toNat (appendAll env .postgres {} calls).events out ↔
        out = (appendAll env .postgres {} calls).events.reverse.take limit.toNat :=
    newest_iff hnodup (List.reverse_perm _) hreverse
  have hlisted := listEvents_fallback tt (appendAll env .postgres {} calls).events hlimit
  have hlength : (appendAll env .postgres {} calls).events.length = calls.length :=
    (length_appendAll calls {}).trans (Nat.zero_add _)
  constructor
  · intro h
    by_contra hzero
    rw [not_or, not_not] at hzero
    -- Postgres lists nothing, and the fallback everything.
    obtain ⟨hall, -⟩ := h [] ((hnewest []).mpr (by rw [hzero.1]; rfl))
    rw [appendAll_mode, hlisted, if_pos hzero.1, List.take_of_length_le (by simp)] at hall
    have hnil := List.map_eq_nil_iff.mp (Except.ok.inj hall)
    rw [List.reverse_eq_nil_iff.mp hnil] at hlength
    exact hzero.2 (List.length_eq_zero_iff.mp hlength.symm)
  · intro h out hout
    obtain rfl := (hnewest out).mp hout
    refine ⟨?_, rfl⟩
    rw [appendAll_mode, hlisted]
    split_ifs with hzero
    · obtain rfl := h.resolve_left (not_not.mpr hzero)
      rw [hzero]
      rfl
    · rfl

theorem listsIncidents {records : List IncidentRecord} (hlimit : 0 ≤ limit)
    (htimes : (upsertAll env .postgres {} records).history.Pairwise
      fun a b ↦ a.updatedAt < b.updatedAt) : ListsIncidents env records limit := by
  have hrows : OfHistory (upsertAll env .postgres {} records) :=
    ofHistory_upsertAll records ⟨fun _ h ↦ h, List.nodup_nil⟩
  have hnodup := nodup_updatedAt hrows htimes
  have hperm := List.perm_insertionSort (fun a b : IncidentRecord ↦ b.updatedAt ≤ a.updatedAt)
    (upsertAll env .postgres {} records).rows
  have hsorted := List.pairwise_insertionSort
    (fun a b : IncidentRecord ↦ b.updatedAt ≤ a.updatedAt) (upsertAll env .postgres {} records).rows
  intro out hout
  obtain rfl := (newest_iff hnodup hperm hsorted).mp hout
  rw [upsertAll_mode, listRecent, sliceTo, if_neg hlimit.not_gt, sortedNewest]
  refine ⟨rfl, List.Pairwise.sublist (List.take_sublist _ _) ?_, ?_⟩
  · have hne := List.pairwise_map.mp ((hperm.map IncidentRecord.updatedAt).nodup_iff.mpr hnodup)
    exact (hsorted.and hne).imp fun h ↦ lt_of_le_of_ne h.1 h.2.symm
  · rw [List.length_take, hperm.length_eq]

end

/-- **The listings of the two modes agree for every limit, except that the fallback lists all events
for a limit of zero.** -/
theorem listings_agree_iff (tt : TimeText) (env : Env) (limit : ℤ) (hlimit : 0 ≤ limit) :
    (∀ calls, ((appendAll env .postgres {} calls).events.Pairwise
        fun a b ↦ a.createdAt < b.createdAt) →
      (ListsEvents tt env calls limit ↔ limit ≠ 0 ∨ calls = [])) ∧
    ∀ records, ((upsertAll env .postgres {} records).history.Pairwise
        fun a b ↦ a.updatedAt < b.updatedAt) → ListsIncidents env records limit :=
  ⟨fun _ htimes ↦ listsEvents_iff hlimit htimes, fun _ htimes ↦ listsIncidents hlimit htimes⟩

/-- Two events and two incidents, the newest of each. -/
theorem listings_agree_one :
    (ListsEvents TimeText.calendar Env.demo [("started", []), ("ended", [])] 1 ↔
      (1 : ℤ) ≠ 0 ∨ [("started", []), ("ended", [])] = ([] : List (String × Dict))) ∧
    ListsIncidents Env.demo
      [checkoutIncident, { checkoutIncident with incidentId := "inc_2" }, checkoutIncident] 1 :=
  have h := listings_agree_iff TimeText.calendar Env.demo 1 (by decide)
  ⟨h.1 _ (by decide +kernel), h.2 _ (by decide +kernel)⟩

/-- With a limit of zero the fallback lists an event that Postgres does not. -/
theorem zero_lists_everything :
    ¬ ∀ calls limit, 0 ≤ limit → ((appendAll Env.demo .postgres {} calls).events.Pairwise
        fun a b ↦ a.createdAt < b.createdAt) →
      ListsEvents TimeText.calendar Env.demo calls limit := by
  intro h
  obtain ⟨hlisted, -⟩ := h [("started", [])] 0 le_rfl (by decide +kernel) []
    ⟨_, List.Perm.refl _, by decide +kernel, rfl⟩
  have hlength := congrArg (fun r ↦ r.toOption.map List.length) hlisted
  revert hlength
  decide +kernel

end IncidentPlatform
