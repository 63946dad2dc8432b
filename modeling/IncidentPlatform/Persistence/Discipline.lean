import IncidentPlatform.Domain.Policy
import IncidentPlatform.Persistence.Repository

/-!
# How handlers treat their record

Every handler reads an incident, changes its copy, and saves. This module says once what it may do
with the copy, as a contract over the operations: between two saves it makes an `Edit`, a save is a
`Commit`, and the record that is written is the one that was validated. `Draft` follows a handler
along: the record it last read or wrote, and the current one.

What may be assumed of the answers depends on the regime. Alone, in either mode, a handler first
reads what was stored when its call started, and then reads back what it wrote; in fallback mode the
`get` inside `upsert` even returns the record that is about to be saved. Among concurrent handlers
nothing is known but the id.

`Stable.run` is the induction over a call: an invariant of the stored incidents that every commit
keeps holds again when the call has ended. In fallback mode it is the invariant of the store with
the handler's unsaved edits taken back, and edits have to keep it as well.
-/

namespace IncidentPlatform

open Interaction

/-! ## Sound records -/

/-- A record with a response plan has been investigated: it is in no initial or transient state. -/
def Live (r : IncidentRecord) : Prop :=
  r.responsePlan.isSome → r.state ∈
    [IncidentState.investigating, .planned, .waitingApproval, .resolved]

/-- The graph is the pending plan of the record, and its first action and step are named. -/
structure Pending (r : IncidentRecord) (graph : ActionGraph) : Prop where
  pendingActionGraph : r.pendingActionGraph = some graph
  plan : IsPlan graph
  pendingApprovalActionId :
    r.pendingApprovalActionId = graph.actions.head?.map ActionRequest.actionId
  pendingPlanStepId : r.pendingPlanStepId = graph.planSteps.head?.map PlanStep.stepId

/-- What the handlers keep true of a record that one of them ingested. -/
structure Sound (r : IncidentRecord) : Prop where
  pending : r.state ∈ [IncidentState.waitingApproval, .planned] → ∃ graph, Pending r graph
  matched : ∀ plan ∈ r.responsePlan, ∃ t severity symptom,
    plan = matchResponsePlan t severity symptom
  begun : r.responsePlan.isSome → r.state ≠ .open ∧ r.state ≠ .reopened

/-- Soundness is about the state, the response plan and the pending plan. -/
theorem Sound.congr {r s : IncidentRecord} (h : Sound r) (hstate : s.state = r.state)
    (hplan : s.responsePlan = r.responsePlan) (hgraph : s.pendingActionGraph = r.pendingActionGraph)
    (haction : s.pendingApprovalActionId = r.pendingApprovalActionId)
    (hstep : s.pendingPlanStepId = r.pendingPlanStepId) : Sound s := by
  refine ⟨fun hs ↦ ?_, fun plan hp ↦ h.matched plan (hplan ▸ hp), fun hs ↦ ?_⟩
  · rw [hstate] at hs
    obtain ⟨graph, hpending⟩ := h.pending hs
    exact ⟨graph, hgraph.trans hpending.pendingActionGraph, hpending.plan,
      haction.trans hpending.pendingApprovalActionId, hstep.trans hpending.pendingPlanStepId⟩
  · rw [hstate]
    exact h.begun (hplan ▸ hs)

/-- A record in a state without a pending plan. -/
theorem Sound.of_state {r s : IncidentRecord} (h : Sound r)
    (hstate : s.state ∈ [IncidentState.investigating, .executing, .resolved])
    (hplan : s.responsePlan = r.responsePlan) : Sound s := by
  refine ⟨fun hs ↦ ?_, fun plan hp ↦ h.matched plan (hplan ▸ hp), fun _ ↦ ?_⟩
  all_goals
    revert hstate
    generalize s.state = state at *
    cases state <;> simp_all

/-! ## Edits and commits -/

/-- What a handler may have done to its record when it waits for something or stops. -/
structure Edit (r r' : IncidentRecord) : Prop where
  incidentId : r'.incidentId = r.incidentId
  version : r'.version = r.version
  state : r'.state = r.state ∨ r'.state = .executing
  approvals : r'.approvals = r.approvals
  responsePlan : r'.responsePlan = r.responsePlan
  pendingActionGraph : r'.pendingActionGraph = r.pendingActionGraph
  pendingApprovalActionId : r'.pendingApprovalActionId = r.pendingApprovalActionId
  pendingPlanStepId : r'.pendingPlanStepId = r.pendingPlanStepId
  executedActions : r.executedActions <+: r'.executedActions
  decisionRecords : r.decisionRecords <+: r'.decisionRecords
  executionTrace : r.executionTrace <+: r'.executionTrace

/-- What a handler may save, approvals apart. -/
structure Progress (r r' : IncidentRecord) : Prop where
  incidentId : r'.incidentId = r.incidentId
  version : r'.version = r.version
  live : Live r → Live r'
  sound : Sound r → Sound r'
  executedActions : r.executedActions <+: r'.executedActions
  decisionRecords : r.decisionRecords <+: r'.decisionRecords
  executionTrace : r.executionTrace <+: r'.executionTrace

/-- What a handler may save. `grant r a` says that it may add the approval `a` to the record `r`,
which leaves the action graph as it is. -/
structure Commit (grant : IncidentRecord → ApprovalRecord → Prop) (r r' : IncidentRecord) : Prop
    extends Progress r r' where
  approvals : r'.approvals = r.approvals ∨
    ∃ a, grant r a ∧ r'.approvals = r.approvals ++ [a] ∧
      r'.pendingActionGraph = r.pendingActionGraph

/-- An incident as it is ingested. -/
structure Blank (r : IncidentRecord) : Prop where
  version : r.version = 1
  state : r.state = .open
  approvals : r.approvals = []
  responsePlan : r.responsePlan = none

theorem Blank.sound {r : IncidentRecord} (h : Blank r) : Sound r := by
  refine ⟨fun hstate ↦ ?_, fun plan hplan ↦ ?_, fun hplan ↦ ?_⟩
  · rw [h.state] at hstate
    simp at hstate
  · rw [h.responsePlan] at hplan
    cases hplan
  · rw [h.responsePlan] at hplan
    cases hplan

namespace Edit

variable {r s t : IncidentRecord}

theorem refl (r : IncidentRecord) : Edit r r :=
  ⟨rfl, rfl, Or.inl rfl, rfl, rfl, rfl, rfl, rfl, List.prefix_refl _, List.prefix_refl _,
    List.prefix_refl _⟩

theorem trans (h : Edit r s) (h' : Edit s t) : Edit r t where
  incidentId := h'.incidentId.trans h.incidentId
  version := h'.version.trans h.version
  state := by
    rcases h'.state with hstate | hstate
    · rw [hstate]
      exact h.state
    · exact Or.inr hstate
  approvals := h'.approvals.trans h.approvals
  responsePlan := h'.responsePlan.trans h.responsePlan
  pendingActionGraph := h'.pendingActionGraph.trans h.pendingActionGraph
  pendingApprovalActionId := h'.pendingApprovalActionId.trans h.pendingApprovalActionId
  pendingPlanStepId := h'.pendingPlanStepId.trans h.pendingPlanStepId
  executedActions := h.executedActions.trans h'.executedActions
  decisionRecords := h.decisionRecords.trans h'.decisionRecords
  executionTrace := h.executionTrace.trans h'.executionTrace

theorem sound (h : Edit r s) (hr : Sound r) : Sound s := by
  rcases h.state with hstate | hstate
  · exact hr.congr hstate h.responsePlan h.pendingActionGraph h.pendingApprovalActionId
      h.pendingPlanStepId
  · exact hr.of_state (by rw [hstate]; simp) h.responsePlan

/-- Edits that keep the record live, and one more assignment before the save. -/
theorem progress (h : Edit r s) (hlive : Live r → Live s) (h' : Progress s t) : Progress r t where
  incidentId := h'.incidentId.trans h.incidentId
  version := h'.version.trans h.version
  live hr := h'.live (hlive hr)
  sound hr := h'.sound (h.sound hr)
  executedActions := h.executedActions.trans h'.executedActions
  decisionRecords := h.decisionRecords.trans h'.decisionRecords
  executionTrace := h.executionTrace.trans h'.executionTrace

end Edit

theorem Progress.refl (r : IncidentRecord) : Progress r r :=
  ⟨rfl, rfl, id, id, List.prefix_refl _, List.prefix_refl _, List.prefix_refl _⟩

theorem Progress.commit {r s : IncidentRecord} (h : Progress r s)
    (happrovals : s.approvals = r.approvals)
    (grant : IncidentRecord → ApprovalRecord → Prop) : Commit grant r s :=
  ⟨h, Or.inl happrovals⟩

/-! ## The contract -/

/-- What a handler holds. -/
inductive Draft where
  /-- Nothing yet, and nothing has been written. -/
  | fresh
  /-- Nothing, after looking for a record in vain. -/
  | closed
  /-- The record it last read or wrote, and the current one. -/
  | held (base current : IncidentRecord)
  /-- The current record is about to be written, after the previous one was read. -/
  | checked (base current : IncidentRecord) (previous : Option IncidentRecord)
  /-- A new record is about to be written. -/
  | creating (incidentId : String) (previous : Option IncidentRecord)

/-- A handler that runs alone: the mode, and the world its call started in. -/
structure Alone where
  mode : Mode
  start : World

/-- `none` among concurrent handlers. -/
abbrev Regime := Option Alone

/-- No unsaved assignments. -/
def Clean (draft : Draft) : Prop := draft = .fresh ∨ ∃ r, draft = .held r r

/-- The stored record while a handler that runs alone holds `base` and `current`. -/
def visible (mode : Mode) (base current : IncidentRecord) : IncidentRecord :=
  match mode with
  | .postgres => base
  | .fallback => current

/-- The record validated against `previous` and stamped. -/
def Validated (previous : Option IncidentRecord) (current r : IncidentRecord) : Prop :=
  (∀ p ∈ previous, transitionAllowed p.state current.state = true) ∧
    ∃ updatedAt, r = stamp previous updatedAt current

/-- The discipline of a handler. Apart from the approvals it may `grant`, it may accept an approval
of the record it has just read for an action that is `bound` to it. -/
def discipline (regime : Regime) (grant : IncidentRecord → ApprovalRecord → Prop)
    (bound : IncidentRecord → ApprovalRecord → ActionRequest → Prop) :
    Contract Op Ans Draft where
  guar draft
    | .get _ | .getByDedupeKey _ => Clean draft
    | .touch r => ∃ b c, draft = .held b c ∧ (Edit b r ∨ Commit grant b r)
    | .previous incidentId =>
      draft = .fresh ∨ ∃ b c, draft = .held b c ∧ c.incidentId = incidentId ∧ Commit grant b c
    | .write r =>
      (∃ b c previous, draft = .checked b c previous ∧ Commit grant b c ∧ Validated previous c r) ∨
        ∃ c previous, draft = .creating c.incidentId previous ∧ Blank c ∧ Validated previous c r
    | .accepted r approval action => draft = .held r r ∧ bound r approval action
    | _ => True
  rely draft
    | .get incidentId, answer =>
      (∀ r ∈ answer, r.incidentId = incidentId) ∧ ∀ alone ∈ regime,
        (draft = .fresh → answer = alone.start.stored incidentId) ∧
          ∀ r, draft = .held r r → r.incidentId = incidentId → answer = some r
    | .previous incidentId, answer =>
      (∀ r ∈ answer, r.incidentId = incidentId) ∧
        ∀ alone ∈ regime, ∀ b c, draft = .held b c → answer = some (visible alone.mode b c)
    | _, _ => True
  next draft
    | .get _, some r => .held r r
    | .get _, none => .closed
    | .touch r, _ =>
      match draft with
      | .held b _ => .held b r
      | draft => draft
    | .previous incidentId, previous =>
      match draft with
      | .held b c => .checked b c previous
      | _ => .creating incidentId previous
    | .write r, _ => .held r r
    | _, _ => draft
  alike draft
    | .previous _, answer, answer' =>
      ∃ b c, draft = .held b c ∧ answer = some b ∧ answer' = some c
    | _, _, _ => False

/-- How a handler may leave its record: in fallback mode, with no more than an edit unsaved. -/
def Settled (regime : Regime) (draft : Draft) : Prop :=
  regime.map Alone.mode = some .fallback →
    match draft with
    | .held b c => Edit b c
    | .checked _ _ _ => False
    | _ => True

/-- Nothing is left unsaved. -/
def Draft.Complete : Draft → Prop
  | .held b c => b = c
  | .checked _ _ _ => False
  | _ => True

theorem Draft.Complete.settled {regime : Regime} {draft : Draft} (h : draft.Complete) :
    Settled regime draft := by
  intro _
  cases draft with
  | held b c =>
    cases h
    exact Edit.refl b
  | _ => exact h

theorem Clean.complete {draft : Draft} (h : Clean draft) : draft.Complete := by
  rcases h with rfl | ⟨r, rfl⟩
  · trivial
  · rfl

/-- The operations the discipline says nothing about. -/
def Op.quiet : Op → Prop
  | .get _ | .getByDedupeKey _ | .previous _ | .touch _ | .write _ | .accepted _ _ _ => False
  | _ => True

/-- What a piece of a handler ends with: `R` of its value, or an exception. -/
def Ends {α : Type} (regime : Regime) (R : α → Draft → Prop) : Except Exc α → Draft → Prop
  | .ok a, draft => R a draft
  | .error _, draft => Settled regime draft

/-- `p` keeps the discipline from `draft` on, and ends with `R`. -/
def Obeys {α : Type} (regime : Regime) (grant : IncidentRecord → ApprovalRecord → Prop)
    (bound : IncidentRecord → ApprovalRecord → ActionRequest → Prop) (p : Handler α)
    (R : α → Draft → Prop) (draft : Draft) : Prop :=
  p.Meets (discipline regime grant bound) (Ends regime R) draft

/-- The draft of a handler at work: the base it last read or wrote, and an edit of it. -/
def Working (b : IncidentRecord) (draft : Draft) : Prop :=
  ∃ c, draft = .held b c ∧ Edit b c

theorem Working.refl (r : IncidentRecord) : Working r (.held r r) := ⟨r, rfl, Edit.refl r⟩

theorem Working.settled {regime : Regime} {b : IncidentRecord} {draft : Draft}
    (h : Working b draft) : Settled regime draft := by
  obtain ⟨c, rfl, hedit⟩ := h
  exact fun _ ↦ hedit

namespace Obeys

variable {regime : Regime} {grant : IncidentRecord → ApprovalRecord → Prop}
  {bound : IncidentRecord → ApprovalRecord → ActionRequest → Prop} {α β : Type} {draft : Draft}
  {R S : α → Draft → Prop} {b : IncidentRecord}

theorem ret {a : α} (h : R a draft) : Obeys regime grant bound (pure a) R draft := h

theorem raise {e : Exc} (h : Settled regime draft) :
    Obeys regime grant bound (.raise e) R draft := h

theorem mono {p : Handler α} (h : Obeys regime grant bound p R draft)
    (hRS : ∀ a d, R a d → S a d) : Obeys regime grant bound p S draft :=
  Prog.Meets.mono (fun r d hr ↦ by
    rcases r with e | a
    · exact hr
    · exact hRS a d hr) h

theorem bind {p : Handler α} {f : α → Handler β} {T : β → Draft → Prop}
    (hp : Obeys regime grant bound p R draft)
    (hf : ∀ a d, R a d → Obeys regime grant bound (f a) T d) :
    Obeys regime grant bound (p >>= f) T draft :=
  Prog.Meets.bind hp hf fun _ _ he ↦ he

/-- An operation the discipline says nothing about. -/
theorem perform {o : Op} (ho : o.quiet) :
    Obeys regime grant bound (IncidentPlatform.perform o) (fun _ d ↦ d = draft) draft := by
  cases o <;> first | exact ho.elim | exact ⟨⟨trivial, fun _ _ ↦ False.elim⟩, fun _ _ ↦ rfl⟩

/-- A piece of a handler that does not touch the record. -/
theorem quiet {p : Handler α} (h : p.Issues Op.quiet) (hdraft : Settled regime draft) :
    Obeys regime grant bound p (fun _ d ↦ d = draft) draft := by
  refine Prog.Meets.mono (fun r d hd ↦ ?_) (Prog.Meets.of_issues (fun o ho ↦ ?_)
    (fun o a b ho ↦ ?_) (fun o a ho ↦ ?_) h)
  · cases r
    · exact hd ▸ hdraft
    · exact hd
  · cases o <;> trivial
  · cases o <;> first | exact ho.elim | exact id
  · cases o <;> first | rfl | exact ho.elim

/-- A piece of a handler returns under the discipline what it returns in any case. -/
theorem yielding {p : Handler α} {T : α → Prop} (h : Obeys regime grant bound p R draft)
    (hp : p.Yields T) : Obeys regime grant bound p (fun a d ↦ R a d ∧ T a) draft := by
  refine Prog.Meets.mono (fun r d hr ↦ ?_) (Prog.Meets.yielding h hp)
  rcases r with e | a
  · exact hr.1
  · exact ⟨hr.1, hr.2 a rfl⟩

/-- Before a piece of a handler that does not touch the record. -/
theorem quiet_bind {p : Handler α} {f : α → Handler β} {T : β → Draft → Prop}
    (h : p.Issues Op.quiet) (hdraft : Settled regime draft)
    (hf : ∀ a, Obeys regime grant bound (f a) T draft) :
    Obeys regime grant bound (p >>= f) T draft :=
  (quiet h hdraft).bind fun a _ hd ↦ hd ▸ hf a

/-- Making assignments visible. -/
theorem assign {r : IncidentRecord} (h : Edit b r) (hdraft : Working b draft) :
    Obeys regime grant bound (IncidentPlatform.assign r) (fun _ ↦ Working b) draft := by
  obtain ⟨c, rfl, -⟩ := hdraft
  exact ⟨⟨⟨b, c, rfl, Or.inl h⟩, fun _ _ ↦ False.elim⟩, fun _ _ ↦ ⟨r, rfl, h⟩⟩

/-- What a save of `r` leaves. -/
def Saved (r r' : IncidentRecord) (draft : Draft) : Prop :=
  draft = .held r' r' ∧ ∃ previous updatedAt, r' = stamp previous updatedAt r

/-- The validation of an `upsert`. -/
theorem validate_bind {previous : Option IncidentRecord} {r : IncidentRecord}
    {f : Unit → Handler α}
    (hf : (∀ p ∈ previous, transitionAllowed p.state r.state = true) →
      Obeys regime grant bound (f ()) R draft)
    (hrefused : ∀ p ∈ previous, ¬ transitionAllowed p.state r.state = true →
      Settled regime draft) :
    Obeys regime grant bound (validateStateTransition previous r >>= f) R draft := by
  rcases previous with _ | p
  · exact hf (by simp)
  · by_cases hallowed : transitionAllowed p.state r.state = true
    · rw [validateStateTransition_allowed hallowed]
      refine hf fun q hq ↦ ?_
      cases hq
      exact hallowed
    · rw [validateStateTransition_refused hallowed]
      exact hrefused p rfl hallowed

/-- The end of an `upsert`. -/
theorem write_stamped {previous : Option IncidentRecord} {r : IncidentRecord}
    (hguar : ∀ updatedAt, (discipline regime grant bound).guar draft
      (.write (stamp previous updatedAt r))) :
    Obeys regime grant bound (do
      let updatedAt ← IncidentPlatform.perform .utcnow
      let incident := stamp previous updatedAt r
      IncidentPlatform.perform (.write incident)
      pure incident) (Saved r) draft :=
  ⟨⟨trivial, fun _ _ ↦ False.elim⟩, fun t _ ↦
    ⟨⟨hguar t, fun _ _ ↦ False.elim⟩, fun _ _ ↦ ⟨rfl, previous, t, rfl⟩⟩⟩

/-- Saving a commit. In fallback mode it never fails: the previous record is the one to be
saved. For the same reason the two modes can only be told apart by a save that fails. -/
theorem save {r : IncidentRecord} (h : Commit grant b r) (hdraft : Working b draft) :
    Obeys regime grant bound (IncidentPlatform.save r) (Saved r) draft := by
  obtain ⟨c, rfl, -⟩ := hdraft
  refine ⟨⟨⟨b, c, rfl, Or.inr h⟩, fun _ _ ↦ False.elim⟩, fun _ _ ↦
    ⟨⟨Or.inr ⟨b, r, rfl, rfl, h⟩, ?_⟩, ?_⟩⟩
  · rintro _ _ ⟨_, _, hheld, rfl, rfl⟩
    cases hheld
    by_cases hallowed : transitionAllowed b.state r.state = true
    · refine Or.inl ?_
      simp only [Prog.ret_bind, validateStateTransition_allowed hallowed,
        validateStateTransition_allowed (transitionAllowed_self r.state)]
      exact congrArg (fun stamped : Time → IncidentRecord ↦ (do
        let updatedAt ← IncidentPlatform.perform .utcnow
        IncidentPlatform.perform (.write (stamped updatedAt))
        pure (stamped updatedAt) : Handler IncidentRecord)) (stamp_congr h.version.symm r)
    · refine Or.inr ?_
      change Prog.GivesUp _ (validateStateTransition (some b) r >>= _) _
      rw [validateStateTransition_refused hallowed]
      trivial
  · rintro previous ⟨-, hprevious⟩
    refine validate_bind (fun hallowed ↦ write_stamped fun t ↦ Or.inl ?_) fun p hp hrefused ↦ ?_
    · exact ⟨b, r, previous, rfl, h, hallowed, t, rfl⟩
    · intro hregime
      obtain ⟨alone, halone, hmode⟩ := Option.map_eq_some_iff.mp hregime
      have hvisible := hprevious alone halone b r rfl
      rw [hmode, hp] at hvisible
      cases hvisible
      exact absurd (transitionAllowed_self r.state) hrefused

/-- Storing a new incident. -/
theorem create {r : IncidentRecord} (h : Blank r) :
    Obeys regime grant bound (upsert r) (Saved r) .fresh := by
  refine ⟨⟨Or.inl rfl, ?_⟩, fun previous _ ↦ ?_⟩
  · rintro _ _ ⟨_, _, hheld, -⟩
    cases hheld
  · refine validate_bind (fun hallowed ↦ write_stamped fun t ↦ Or.inr ?_) fun _ _ _ _ ↦ trivial
    exact ⟨r, previous, rfl, h, hallowed, t, rfl⟩

/-- Reading an incident: a record of that id, or nothing. -/
theorem get (incidentId : String) (hdraft : Clean draft) :
    Obeys regime grant bound (IncidentPlatform.perform (.get incidentId))
      (fun answer d ↦
        (answer = none ∧ d = .closed ∨
          ∃ r, answer = some r ∧ d = .held r r ∧ r.incidentId = incidentId) ∧
        ∀ alone ∈ regime, (draft = .fresh → answer = alone.start.stored incidentId) ∧
          ∀ r, draft = .held r r → r.incidentId = incidentId → answer = some r)
      draft := by
  refine ⟨⟨hdraft, fun _ _ ↦ False.elim⟩, fun answer hanswer ↦ ⟨?_, hanswer.2⟩⟩
  rcases answer with _ | r
  · exact Or.inl ⟨rfl, rfl⟩
  · exact Or.inr ⟨r, rfl, rfl, hanswer.1 r rfl⟩

/-- A handler that keeps the discipline may end wherever it is `Settled`. -/
theorem meets {p : Handler α} (h : Obeys regime grant bound p R draft)
    (hR : ∀ a d, R a d → Settled regime d) :
    p.Meets (discipline regime grant bound) (fun _ ↦ Settled regime) draft :=
  Prog.Meets.mono (fun r d hr ↦ by
    rcases r with e | a
    · exact hr
    · exact hR a d hr) h

end Obeys

/-! ## One handler alone -/

/-- What a handler that runs alone holds is what is stored. -/
def Consistent (alone : Alone) (w : World) : Draft → Prop
  | .fresh => w.rows = alone.start.rows
  | .closed => True
  | .held b c =>
    b.incidentId = c.incidentId ∧ w.stored c.incidentId = some (visible alone.mode b c)
  | .checked b c previous =>
    b.incidentId = c.incidentId ∧ w.stored c.incidentId = some (visible alone.mode b c) ∧
      previous = some (visible alone.mode b c)
  | .creating incidentId previous => previous = w.stored incidentId

/-- The store with the record back at its base. -/
def World.withRow (w : World) (r : IncidentRecord) : World :=
  { w with rows := put IncidentRecord.incidentId w.rows r }

/-- The world with the unsaved edits of the handler taken back. -/
def World.settled (mode : Mode) (w : World) : Draft → World
  | .held b _ | .checked b _ _ =>
    match mode with
    | .postgres => w
    | .fallback => w.withRow b
  | _ => w

/-- An invariant of the stored incidents that saving keeps. -/
structure Stable (mode : Mode) (grant : IncidentRecord → ApprovalRecord → Prop)
    (I : World → Prop) : Prop where
  congr : ∀ {w w' : World}, I w → w'.rows = w.rows → w'.history = w.history → I w'
  write : ∀ {w : World} {b c : IncidentRecord} (updatedAt : Time), I w →
    w.stored b.incidentId = some b → Commit grant b c →
      I (w.written { c with updatedAt, version := b.version + 1 })
  create : ∀ {w : World} {c : IncidentRecord} (updatedAt : Time), I w → Blank c →
    I (w.written (stamp (w.stored c.incidentId) updatedAt c))
  edit : ∀ {w : World} {b c : IncidentRecord}, mode = .fallback → I w →
    w.stored b.incidentId = some b → Edit b c → I (w.withRow c)

/-- Every stored incident satisfies `P`. -/
def World.Every (P : IncidentRecord → Prop) (w : World) : Prop :=
  ∀ incidentId r, w.stored incidentId = some r → P r

/-- The state of a run: what is held is stored, and the invariant holds but for unsaved edits. -/
structure Tracks (alone : Alone) (I : World → Prop) (w : World) (draft : Draft) : Prop where
  consistent : Consistent alone w draft
  settled : I (w.settled alone.mode draft)

theorem World.stored_withRow (w : World) (r : IncidentRecord) (incidentId : String) :
    (w.withRow r).stored incidentId =
      if r.incidentId = incidentId then some r else w.stored incidentId :=
  lookup_put _ _ _

section

variable {mode : Mode} {start : World} {grant : IncidentRecord → ApprovalRecord → Prop}
  {bound : IncidentRecord → ApprovalRecord → ActionRequest → Prop} {I : World → Prop}
  {env : Env} {w w' : World} {draft : Draft}

theorem World.stored_congr (hrows : w'.rows = w.rows) (incidentId : String) :
    w'.stored incidentId = w.stored incidentId := by
  rw [World.stored, hrows, ← World.stored]

theorem World.Every.congr {P : IncidentRecord → Prop} (h : w.Every P) (hrows : w'.rows = w.rows) :
    w'.Every P :=
  fun incidentId r hr ↦ h incidentId r (World.stored_congr hrows incidentId ▸ hr)

theorem World.Every.withRow {P : IncidentRecord → Prop} {r : IncidentRecord} (h : w.Every P)
    (hr : P r) : (w.withRow r).Every P := by
  intro incidentId s hs
  rw [World.stored_withRow] at hs
  split_ifs at hs
  · cases hs
    exact hr
  · exact h incidentId s hs

/-- What ingesting establishes and saving keeps of a single record, and in fallback mode an edit,
is a stable invariant of all stored incidents. -/
theorem Stable.every {P : IncidentRecord → Prop}
    (hwrite : ∀ {b c : IncidentRecord} (updatedAt : Time), Commit grant b c → P b →
      P { c with updatedAt, version := b.version + 1 })
    (hcreate : ∀ {c : IncidentRecord} (updatedAt : Time) (version : ℤ), Blank c →
      P { c with updatedAt, version })
    (hedit : ∀ {b c : IncidentRecord}, mode = .fallback → Edit b c → P b → P c) :
    Stable mode grant (World.Every P) where
  congr h hrows _ := h.congr hrows
  write updatedAt h hb hcommit :=
    (World.Every.withRow h (hwrite updatedAt hcommit (h _ _ hb))).congr rfl
  create updatedAt h hblank := (World.Every.withRow h (hcreate updatedAt _ hblank)).congr rfl
  edit hmode h hb hedit' := h.withRow (hedit hmode hedit' (h _ _ hb))

/-- **The record invariant.** In either mode every stored incident is sound. -/
theorem sound_stable : Stable mode grant (World.Every Sound) :=
  Stable.every (fun _ hcommit hb ↦ (hcommit.sound hb).congr rfl rfl rfl rfl rfl)
    (fun _ _ hblank ↦ hblank.sound.congr rfl rfl rfl rfl rfl) fun _ hedit hb ↦ hedit.sound hb

theorem Consistent.congr (h : Consistent ⟨mode, start⟩ w draft) (hrows : w'.rows = w.rows) :
    Consistent ⟨mode, start⟩ w' draft := by
  cases draft <;> simp only [Consistent, World.stored_congr hrows, hrows] at h ⊢ <;> exact h

theorem World.settled_rows (hrows : w'.rows = w.rows) :
    (w'.settled mode draft).rows = (w.settled mode draft).rows := by
  cases draft <;> cases mode <;> simp only [World.settled, World.withRow, hrows]

theorem World.settled_history : (w.settled mode draft).history = w.history := by
  cases draft <;> cases mode <;> rfl

theorem Tracks.congr (hI : Stable mode grant I) (h : Tracks ⟨mode, start⟩ I w draft)
    (hrows : w'.rows = w.rows) (hhistory : w'.history = w.history) :
    Tracks ⟨mode, start⟩ I w' draft where
  consistent := h.consistent.congr hrows
  settled := hI.congr h.settled (World.settled_rows hrows)
    (by rw [World.settled_history, World.settled_history, hhistory])

/-- The base of a draft is what the settled world has stored. -/
theorem Consistent.stored_settled {b c : IncidentRecord}
    (h : Consistent ⟨mode, start⟩ w (.held b c)) :
    (w.settled mode (.held b c)).stored b.incidentId = some b := by
  obtain ⟨hid, hstored⟩ := h
  cases mode with
  | postgres => exact hid ▸ hstored
  | fallback => rw [World.settled, World.stored_withRow, if_pos rfl]

/-- Nothing unsaved: the invariant holds of the world itself. -/
theorem Tracks.inv (hI : Stable mode grant I) (h : Tracks ⟨mode, start⟩ I w draft)
    (hsaved : Clean draft) : I w := by
  rcases hsaved with rfl | ⟨r, rfl⟩
  · exact h.settled
  · refine hI.congr h.settled ?_ (World.settled_history).symm
    have hstored : w.stored r.incidentId = some r := by
      cases mode <;> exact h.consistent.2
    cases mode
    · rfl
    · exact (put_of_lookup hstored).symm

/-- A record that was just read or written. -/
theorem Tracks.hold (hI : Stable mode grant I) (h : I w) {r : IncidentRecord}
    (hstored : w.stored r.incidentId = some r) : Tracks ⟨mode, start⟩ I w (.held r r) where
  consistent := ⟨rfl, by cases mode <;> exact hstored⟩
  settled := by
    refine hI.congr h ?_ World.settled_history
    cases mode
    · rfl
    · exact put_of_lookup hstored

theorem tracks_get (hI : Stable mode grant I) (h : Tracks ⟨mode, start⟩ I w draft)
    (hsaved : Clean draft) (incidentId : String) :
    Tracks ⟨mode, start⟩ I { w with tick := w.tick + 1 }
      ((discipline (some ⟨mode, start⟩) grant bound).next draft (.get incidentId)
        (w.stored incidentId)) := by
  have hw : I { w with tick := w.tick + 1 } := hI.congr (h.inv hI hsaved) rfl rfl
  rcases hr : w.stored incidentId with _ | r
  · exact ⟨trivial, hw⟩
  · refine Tracks.hold hI hw ?_
    have hid : r.incidentId = incidentId := key_of_lookup hr
    exact hid ▸ hr

theorem tracks_touch (hI : Stable mode grant I) {b c r : IncidentRecord}
    (h : Tracks ⟨mode, start⟩ I w (.held b c)) (hid : r.incidentId = b.incidentId) :
    Tracks ⟨mode, start⟩ I (w.touched mode r) (.held b r) := by
  obtain ⟨hbc, hstored⟩ := h.consistent
  have hc : w.stored r.incidentId = some (visible mode b c) := by
    rw [hid, hbc]
    exact hstored
  cases mode with
  | postgres => exact ⟨⟨hid.symm, hc⟩, h.settled⟩
  | fallback =>
    have htouched : w.touched .fallback r = w.withRow r := by
      rw [World.touched, hc]
      rfl
    rw [htouched]
    refine ⟨⟨hid.symm, by rw [World.stored_withRow, if_pos rfl]; rfl⟩, ?_⟩
    exact hI.congr h.settled (put_put w.rows hid) rfl

theorem tracks_write (hI : Stable mode grant I) {b c r : IncidentRecord}
    {previous : Option IncidentRecord} (h : Tracks ⟨mode, start⟩ I w (.checked b c previous))
    (hcommit : Commit grant b c) (hr : Validated previous c r) :
    Tracks ⟨mode, start⟩ I (w.written r) (.held r r) := by
  obtain ⟨hbc, hstored, hprevious⟩ := h.consistent
  obtain ⟨-, t, rfl⟩ := hr
  have hversion : (visible mode b c).version = b.version := by
    cases mode
    · rfl
    · exact hcommit.version
  have hstamp : stamp previous t c = { c with updatedAt := t, version := b.version + 1 } := by
    rw [hprevious, stamp, hversion]
  have hbase : (w.settled mode (.checked b c previous)).stored b.incidentId = some b :=
    Consistent.stored_settled ⟨hbc, hstored⟩
  have hwritten := hI.write t h.settled hbase hcommit
  rw [← hstamp] at hwritten
  refine Tracks.hold hI (hI.congr hwritten ?_ ?_) (lookup_put_self _ _)
  · cases mode
    · rfl
    · exact (put_put w.rows (hbc.trans (stamp_incidentId _ _ _).symm)).symm
  · cases mode <;> rfl

/-- One operation of a handler that keeps the discipline. -/
theorem tracks_step (hI : Stable mode grant I) (w : World) (draft : Draft) (o : Op)
    (h : Tracks ⟨mode, start⟩ I w draft)
    (hguar : (discipline (some ⟨mode, start⟩) grant bound).guar draft o) :
    (discipline (some ⟨mode, start⟩) grant bound).rely draft o (serve env mode w o).1 ∧
      Tracks ⟨mode, start⟩ I (serve env mode w o).2
        ((discipline (some ⟨mode, start⟩) grant bound).next draft o (serve env mode w o).1) := by
  have htick : Tracks ⟨mode, start⟩ I { w with tick := w.tick + 1 } draft := h.congr hI rfl rfl
  cases o with
  | get incidentId =>
    refine ⟨⟨fun r hr ↦ key_of_lookup hr, ?_⟩, tracks_get hI h hguar incidentId⟩
    rintro alone ⟨⟩
    refine ⟨?_, ?_⟩
    · rintro rfl
      exact World.stored_congr h.consistent incidentId
    · rintro r rfl rfl
      cases mode <;> exact h.consistent.2
  | previous incidentId =>
    -- A handler that runs alone finds the base of its record.
    refine ⟨⟨fun r hr ↦ key_of_lookup hr, ?_⟩, ?_⟩
    · rintro alone ⟨⟩ b c rfl
      rcases hguar with hfresh | ⟨b', c', hdraft, rfl, -⟩
      · cases hfresh
      · cases hdraft
        exact h.consistent.2
    · rcases hguar with rfl | ⟨b, c, rfl, rfl, -⟩
      · exact ⟨rfl, htick.settled⟩
      · exact ⟨⟨h.consistent.1, h.consistent.2, h.consistent.2⟩, htick.settled⟩
  | touch r =>
    obtain ⟨b, c, rfl, hr⟩ := hguar
    exact ⟨trivial, tracks_touch hI htick (hr.elim Edit.incidentId fun h ↦ h.incidentId)⟩
  | write r =>
    refine ⟨trivial, ?_⟩
    -- Either a checked edit of a held record, or a new one.
    rcases hguar with ⟨b, c, previous, rfl, hcommit, hr⟩ | ⟨c, previous, rfl, hblank, -, t, rfl⟩
    · exact tracks_write hI htick hcommit hr
    · have hprevious : previous = w.stored c.incidentId := h.consistent
      subst hprevious
      exact Tracks.hold hI (hI.create t htick.settled hblank) (lookup_put_self _ _)
  | _ => exact ⟨trivial, h.congr hI rfl rfl⟩

/-- **The rule for a call.** A handler that keeps the discipline and ends as it may preserves every
stable invariant of the stored incidents. -/
theorem Stable.run {α : Type} (hI : Stable mode grant I) {p : Handler α}
    (hp : p.Meets (discipline (some ⟨mode, w⟩) grant bound) (fun _ ↦ Settled (some ⟨mode, w⟩))
      .fresh)
    (hw : I w) : I (p.run (serve env mode) w).2 := by
  obtain ⟨htracks, hsettled⟩ :=
    hp.run (tracks_step hI) (⟨rfl, hw⟩ : Tracks ⟨mode, w⟩ I w .fresh)
  revert htracks hsettled
  generalize (p.run (serve env mode) w).2 = w', Prog.ghost _ _ p w _ = draft
  intro htracks hsettled
  cases mode with
  | postgres =>
    cases draft <;> exact htracks.settled
  | fallback =>
    -- The stored object shows the last assignments, which have to amount to an edit by themselves.
    have hdraft := hsettled rfl
    cases draft with
    | held b c =>
      have hstored := Consistent.stored_settled htracks.consistent
      have hedit := hI.edit rfl htracks.settled hstored hdraft
      refine hI.congr hedit ?_ rfl
      have hc : w'.stored c.incidentId = some c := htracks.consistent.2
      exact ((put_put w'.rows htracks.consistent.1).trans (put_of_lookup hc)).symm
    | checked b c previous => exact hdraft.elim
    | _ => exact htracks.settled

end

end IncidentPlatform
