import IncidentPlatform.Interaction.Pool
import IncidentPlatform.Persistence.World
import Mathlib.Data.List.Chain

/-!
# The incident repository

`upsert` of `src/apps/api/routers/incident_store/repository.py`: read the previous record,
validate the transition against it, stamp the new version, write. In Postgres mode the read and
the write are two transactions and the write carries no condition on the version, so nothing ties
the write to the record that was validated.

The second half is about concurrent upserts of one incident. `upserts_follow` is the guarantee the
state machine and the version column give as long as every write still finds stored what its own
read returned; with another write in between there is none.
-/

namespace IncidentPlatform

open Interaction

/-! ## Upsert -/

/-- `_allowed_transitions`. -/
def allowedTransitions : IncidentState → List IncidentState
  | .open => [.investigating, .reopened]
  | .investigating => [.planned, .waitingApproval, .executing, .resolved, .reopened]
  | .planned => [.waitingApproval, .executing, .resolved, .investigating]
  | .waitingApproval => [.planned, .executing, .investigating]
  | .executing => [.resolved, .investigating, .reopened]
  | .resolved => [.reopened, .investigating]
  | .reopened => [.investigating, .planned]

/-- A record may keep its state, or follow an edge of the table. -/
def transitionAllowed (previous next : IncidentState) : Bool :=
  previous == next || (allowedTransitions previous).contains next

/-- Go on if `b`, raise otherwise. -/
def require (b : Bool) (e : Exc) : Handler Unit :=
  if b then pure () else .raise e

/-- `_validate_state_transition`. -/
def validateStateTransition (previous : Option IncidentRecord) (next : IncidentRecord) :
    Handler Unit :=
  match previous with
  | none => pure ()
  | some p =>
    require (transitionAllowed p.state next.state)
      (.invalidTransition p.state next.state next.incidentId)

/-- The two fields `upsert` sets. -/
def stamp (previous : Option IncidentRecord) (updatedAt : Time) (incident : IncidentRecord) :
    IncidentRecord :=
  { incident with
    updatedAt
    version := match previous with
      | none => incident.version
      | some p => p.version + 1 }

/-- `upsert`, returning the record with its new version. -/
def upsert (incident : IncidentRecord) : Handler IncidentRecord := do
  let previous ← perform (.previous incident.incidentId)
  validateStateTransition previous incident
  let updatedAt ← perform .utcnow
  let incident := stamp previous updatedAt incident
  perform (.write incident)
  pure incident

/-- Assignments to the handler's record, as far as they are visible before its `upsert`. -/
def assign (incident : IncidentRecord) : Handler Unit := perform (.touch incident)

/-- Assignments followed directly by an `upsert`. -/
def save (incident : IncidentRecord) : Handler IncidentRecord := do
  assign incident
  upsert incident

@[simp] theorem stamp_incidentId (previous : Option IncidentRecord) (updatedAt : Time)
    (r : IncidentRecord) : (stamp previous updatedAt r).incidentId = r.incidentId := rfl

@[simp] theorem stamp_state (previous : Option IncidentRecord) (updatedAt : Time)
    (r : IncidentRecord) : (stamp previous updatedAt r).state = r.state := rfl

@[simp] theorem transitionAllowed_self (s : IncidentState) : transitionAllowed s s = true := by
  simp [transitionAllowed]

theorem validateStateTransition_allowed {p r : IncidentRecord}
    (h : transitionAllowed p.state r.state = true) :
    validateStateTransition (some p) r = pure () := by
  rw [validateStateTransition, require, if_pos h]

theorem validateStateTransition_refused {p r : IncidentRecord}
    (h : ¬ transitionAllowed p.state r.state = true) :
    validateStateTransition (some p) r
      = .raise (.invalidTransition p.state r.state r.incidentId) := by
  rw [validateStateTransition, require, if_neg h]

/-- Of the previous record, the stamp uses the version. -/
theorem stamp_congr {p q : IncidentRecord} (h : p.version = q.version) (r : IncidentRecord) :
    (stamp (some p) · r) = (stamp (some q) · r) := by
  funext updatedAt
  rw [stamp, stamp, h]

/-! ## Stored records over time -/

/-- The records an incident had since it was `start`, oldest first. -/
def storedSince (start : Option IncidentRecord) (incidentId : String) (w : World) :
    List IncidentRecord :=
  start.toList ++ w.writes incidentId

/-- Consecutive records are related by `R`, and the last one is what is stored. -/
structure Chained (R : IncidentRecord → IncidentRecord → Prop) (start : Option IncidentRecord)
    (incidentId : String) (w : World) : Prop where
  chain : (storedSince start incidentId w).IsChain R
  last : (storedSince start incidentId w).getLast? = w.stored incidentId

namespace Chained

variable {R : IncidentRecord → IncidentRecord → Prop} {start : Option IncidentRecord}
  {incidentId : String} {w w' : World}

/-- Nothing has been written yet. -/
theorem observe (w : World) :
    Chained R (w.stored incidentId) incidentId { w with history := [] } := by
  have hsince : storedSince (w.stored incidentId) incidentId { w with history := [] }
      = (w.stored incidentId).toList := List.append_nil _
  refine ⟨?_, ?_⟩
  · rw [hsince]
    cases w.stored incidentId <;> simp
  · rw [hsince]
    change _ = w.stored incidentId
    cases w.stored incidentId <;> rfl

theorem congr (h : Chained R start incidentId w) (hrows : w'.rows = w.rows)
    (hhistory : w'.history = w.history) : Chained R start incidentId w' := by
  have hsince : storedSince start incidentId w' = storedSince start incidentId w := by
    rw [storedSince, World.writes, hhistory, ← World.writes, ← storedSince]
  have hstored : w'.stored incidentId = w.stored incidentId := by
    rw [World.stored, hrows, ← World.stored]
  exact ⟨hsince ▸ h.chain, by rw [hsince, h.last, hstored]⟩

/-- One more write, related to what was stored. -/
theorem written {r : IncidentRecord} (h : Chained R start incidentId w)
    (hid : r.incidentId = incidentId) (hr : ∀ p ∈ w.stored incidentId, R p r) :
    Chained R start incidentId (w.written r) := by
  have hsince : storedSince start incidentId (w.written r)
      = storedSince start incidentId w ++ [r] := by
    rw [storedSince, World.writes_written, if_pos hid, storedSince, List.append_assoc]
  refine ⟨?_, ?_⟩
  · rw [hsince, List.isChain_append]
    refine ⟨h.chain, List.isChain_singleton r, fun p hp q hq ↦ ?_⟩
    cases hq
    exact hr p (h.last ▸ hp)
  · rw [hsince, List.getLast?_append, World.stored_written, if_pos hid]
    rfl

/-- A write of another incident. -/
theorem written_of_ne {r : IncidentRecord} (h : Chained R start incidentId w)
    (hid : r.incidentId ≠ incidentId) : Chained R start incidentId (w.written r) := by
  have hsince : storedSince start incidentId (w.written r) = storedSince start incidentId w := by
    rw [storedSince, World.writes_written, if_neg hid, ← storedSince]
  have hstored : (w.written r).stored incidentId = w.stored incidentId := by
    rw [World.stored_written, if_neg hid]
  exact ⟨hsince ▸ h.chain, by rw [hsince, h.last, hstored]⟩

end Chained

/-! ## Concurrent upserts -/

/-- `r` is the successor of `p`: the next version, in the same state or along an edge. -/
def Follows (p r : IncidentRecord) : Prop :=
  r.version = p.version + 1 ∧ transitionAllowed p.state r.state = true

instance (p r : IncidentRecord) : Decidable (Follows p r) := inferInstanceAs (Decidable (_ ∧ _))

/-- What an `upsert` on the way knows: the answer of its `previous`, once it has one. -/
abbrev Snapshot := Option (Option IncidentRecord)

/-- One `upsert` of an incident: it writes a successor of what it read. -/
def upsertContract (incidentId : String) : Contract Op Ans Snapshot where
  guar snapshot
    | .previous i => i = incidentId
    | .utcnow => True
    | .write r =>
      r.incidentId = incidentId ∧ ∃ previous, snapshot = some previous ∧ ∀ p ∈ previous, Follows p r
    | _ => False
  rely _ _ _ := True
  next snapshot
    | .previous _, previous => some previous
    | _, _ => snapshot

theorem upsert_meets (incident : IncidentRecord) (snapshot : Snapshot) :
    (upsert incident).Meets (upsertContract incident.incidentId) (fun _ _ ↦ True) snapshot := by
  refine ⟨⟨rfl, fun _ _ ↦ False.elim⟩, fun previous _ ↦ ?_⟩
  rcases previous with _ | p
  · exact ⟨⟨trivial, fun _ _ ↦ False.elim⟩, fun _ _ ↦
      ⟨⟨⟨rfl, none, rfl, by simp⟩, fun _ _ ↦ False.elim⟩, fun _ _ ↦ trivial⟩⟩
  · simp only [Prog.ret_bind, Prog.bind_eq, validateStateTransition, require]
    split_ifs with h
    · refine ⟨⟨trivial, fun _ _ ↦ False.elim⟩, fun _ _ ↦
        ⟨⟨⟨rfl, some p, rfl, ?_⟩, fun _ _ ↦ False.elim⟩, fun _ _ ↦ trivial⟩⟩
      rintro q hq
      cases hq
      exact ⟨rfl, h⟩
    · trivial

/-- The write finds stored what the read of the same `upsert` returned. -/
def FindsSnapshot (incidentId : String) (w : World) (snapshot : Snapshot) : Op → Prop
  | .write _ => snapshot = some (w.stored incidentId)
  | _ => True

/-- Concurrent upserts of the records `incident i`, on top of what `w` has stored. -/
def upsertPool {ι : Type*} (w : World) (incident : ι → IncidentRecord) :
    Pool Op Ans Exc IncidentRecord Snapshot World ι where
  shared := { w with history := [] }
  thread i := ⟨none, upsert (incident i)⟩

/-- **Serial upserts.** In Postgres mode and under any schedule of any number of concurrent upserts
of one incident: if every write finds stored what the read of its upsert returned, the records
stored one after the other have consecutive versions and follow the transition table. -/
theorem upserts_follow {ι : Type*} [DecidableEq ι] (env : Env) (w : World) (incidentId : String)
    (incident : ι → IncidentRecord) (hid : ∀ i, (incident i).incidentId = incidentId)
    (schedule : List ι)
    (hserial : (upsertPool w incident).Admits (serve env .postgres) (upsertContract incidentId).next
      (FindsSnapshot incidentId) schedule) :
    (storedSince (w.stored incidentId) incidentId
      ((upsertPool w incident).run (serve env .postgres) (upsertContract incidentId).next
        schedule).shared).IsChain Follows := by
  refine (Pool.run_invariant (upsertContract incidentId)
    (fun v _ ↦ Chained Follows (w.stored incidentId) incidentId v) (FindsSnapshot incidentId) ?_
    schedule (upsertPool w incident) (Chained.observe w) ?_ hserial).1.chain
  · intro v snapshots i o hchained hguar hok
    refine ⟨trivial, ?_⟩
    cases o with
    | previous => exact hchained.congr rfl rfl
    | utcnow => exact hchained.congr rfl rfl
    | write r =>
      obtain ⟨hr, previous, hsnapshot, hfollows⟩ := hguar
      have hprevious : previous = v.stored incidentId :=
        Option.some.inj (hsnapshot.symm.trans hok)
      have hticked : Chained Follows (w.stored incidentId) incidentId
          { v with tick := v.tick + 1 } := hchained.congr rfl rfl
      exact hticked.written hr (hprevious ▸ hfollows)
    | _ => exact hguar.elim
  · intro i
    rw [← hid i]
    exact upsert_meets (incident i) none

/-- A checkout incident under investigation, at its first version. -/
def checkoutIncident : IncidentRecord where
  incidentId := "inc_1"
  metadata :=
    { source := "webhook", severity := "sev2", service := "checkout-service"
      resource := "checkout-service", symptom := "checkout deployment errors", occurredAt := 0
      dedupeKey := "d1" }
  state := .investigating
  createdAt := 0
  updatedAt := 0

/-- Two upserts that both read before either writes store version 2 twice. -/
theorem interleaved_upserts_repeat_version :
    ¬ ∀ schedule : List (Fin 2), (storedSince (some checkoutIncident) "inc_1"
      ((upsertPool { rows := [checkoutIncident] } fun _ ↦ checkoutIncident).run
        (serve Env.demo .postgres) (upsertContract "inc_1").next schedule).shared).IsChain
          Follows := by
  intro h
  exact absurd (h [0, 1, 0, 1, 0, 1]) (by decide)

/-- Two upserts one after the other. -/
theorem upserts_follow_in_turn :
    (storedSince (some checkoutIncident) "inc_1"
      ((upsertPool { rows := [checkoutIncident] } fun _ : Fin 2 ↦ checkoutIncident).run
        (serve Env.demo .postgres) (upsertContract "inc_1").next [0, 0, 0, 1, 1, 1]).shared).IsChain
          Follows := by
  refine upserts_follow Env.demo { rows := [checkoutIncident] } "inc_1" (fun _ ↦ checkoutIncident)
    (fun _ ↦ rfl) [0, 0, 0, 1, 1, 1] ⟨?_, ?_, ?_, ?_, ?_, ?_, trivial⟩ <;> rintro o k ⟨⟩
  · trivial
  · trivial
  · rfl
  · trivial
  · trivial
  · rfl

end IncidentPlatform
