import IncidentPlatform.Safety.Approvals

/-!
# What runs is what was approved

An approval holds an action id and no action. `execute_incident` takes the action from the pending
graph, `execute_action` takes it from its client and compares the id only, and not even that when
the approval holds an empty one. So what an approval binds is up to the requests: `Binding` collects
what they have to observe, and `runs_as_approved` is what follows for a whole run.
-/

namespace IncidentPlatform

open Interaction

/-! ## What the requests have to observe -/

/-- The record has a pending action of this id that does the same thing. -/
def AsPlanned (r : IncidentRecord) (action : ActionRequest) : Prop :=
  ∃ graph pending, r.pendingActionGraph = some graph ∧
    graph.actions.find? (fun item ↦ item.actionId == action.actionId) = some pending ∧
    action.actionType = pending.actionType ∧ action.target = pending.target ∧
      action.parameters = pending.parameters

theorem FromGraph.asPlanned {r : IncidentRecord} {action : ActionRequest} (h : FromGraph r action) :
    AsPlanned r action := by
  obtain ⟨graph, pending, hgraph, hfind, haction⟩ := h
  exact ⟨graph, pending, hgraph, hfind, by rw [haction], by rw [haction], by rw [haction]⟩

/-- An approved record of the incident is for the action's id, and the action is the one that was
planned under this id when the approval was recorded. -/
structure ApprovedAction (w : World) (r : IncidentRecord) (a : ApprovalRecord)
    (action : ActionRequest) : Prop where
  mem : a ∈ r.approvals
  approved : a.approved = true
  actionId : a.actionId = some action.actionId
  planned : ∃ before p s later, w.writes r.incidentId = before ++ p :: s :: later ∧
    s.approvals = p.approvals ++ [a] ∧ AsPlanned p action

/-- Some graph that was stored has an action on the target. -/
def plannedTarget (w : World) (r : IncidentRecord) (action : ActionRequest) : Bool :=
  (w.writes r.incidentId).any fun p ↦ p.pendingActionGraph.any fun graph ↦
    graph.actions.any fun pending ↦ pending.target == action.target

theorem ApprovedAction.target {w : World} {r : IncidentRecord} {a : ApprovalRecord}
    {action : ActionRequest} (h : ApprovedAction w r a action) :
    plannedTarget w r action = true := by
  obtain ⟨before, p, s, later, hwrites, -, graph, pending, hgraph, hfind, -, htarget, -⟩ :=
    h.planned
  refine List.any_eq_true.mpr ⟨p, by simp [hwrites], ?_⟩
  rw [hgraph, Option.any_some]
  exact List.any_eq_true.mpr ⟨pending, List.mem_of_find?_eq_some hfind, by simp [htarget]⟩

/-- An approving request names an action: its own id or the pending one is not empty. -/
def NamesAction (w : World) : Call → Prop
  | .recordApproval _ payload => payload.approved = true → payload.actionId ≠ ""
  | .approveIncident incidentId payload => payload.approved = true →
      ∀ r ∈ w.stored incidentId, orText payload.actionId r.pendingApprovalActionId ≠ some ""
  | _ => True

/-- A client that runs an action under an approval sends the one that is planned. -/
def SendsPlanned (cfg : Settings) (w : World) : Call → Prop
  | .executeAction incidentId payload =>
    ∀ r ∈ w.stored incidentId, RequiresApproval cfg r payload →
      ∀ a, Accepts r a payload.action → payload.approvalId = some a.approvalId →
        AsPlanned r payload.action
  | _ => True

/-- What the requests of a run have to observe. -/
structure Binding (cfg : Settings) (w : World) (c : Call) : Prop where
  version : HonestVersion w c
  action : NamesAction w c
  planned : SendsPlanned cfg w c

/-- The approval names an action. -/
def ApprovalRecord.Names (a : ApprovalRecord) : Prop :=
  ∃ actionId, a.actionId = some actionId ∧ actionId ≠ ""

section

variable {cfg : Settings} {mode : Mode} {w v : World} {c : Call} {r b : IncidentRecord}
  {a : ApprovalRecord} {action : ActionRequest}

theorem Call.grants_names (hc : NamesAction w c) (hgrant : c.grants (some ⟨mode, w⟩) b a)
    (happroved : a.approved = true) : a.Names := by
  cases c with
  | recordApproval incidentId payload =>
    obtain ⟨-, _, _, _, _, rfl⟩ := hgrant
    exact ⟨payload.actionId, rfl, hc happroved⟩
  | approveIncident incidentId payload =>
    obtain ⟨⟨-, hstored⟩, forwarded, hforwards, _, _, _, _, rfl⟩ := hgrant
    refine ⟨forwarded.actionId, rfl, fun hempty ↦ ?_⟩
    refine hc (hforwards.approved.symm.trans happroved) b (hstored _ rfl) ?_
    rw [hforwards.action rfl, hempty]
  | _ => exact hgrant.elim

/-- An approval that names an action and is accepted for one names that one. -/
theorem Accepts.actionId (h : Accepts r a action) (ha : a.Names) :
    a.actionId = some action.actionId := by
  obtain ⟨actionId, hactionId, hne⟩ := ha
  have hmatch := h.action
  rw [approvalMatchesAction, hactionId, orText,
    if_neg (by rwa [String.isEmpty_iff])] at hmatch
  rw [hactionId, beq_iff_eq.mp hmatch]

/-- The action an approval is accepted for is a planned one. -/
theorem Call.bound_asPlanned (hc : SendsPlanned cfg w c)
    (hbound : c.bound cfg (some ⟨mode, w⟩) r a action) :
    Accepts r a action ∧ AsPlanned r action := by
  cases c with
  | executeAction incidentId payload =>
    obtain ⟨⟨-, hstored⟩, haccepts, rfl, hrequires, hid⟩ := hbound
    exact ⟨haccepts, hc r (hstored _ rfl) hrequires a haccepts hid⟩
  | executeIncident incidentId payload =>
    exact ⟨hbound.2.1, (hbound.2.2 rfl).asPlanned⟩
  | _ => exact hbound.elim

end

/-- **What runs is what was approved.** In either mode and in every run whose requests observe
`Binding`: the action of a request that needs an approval and is let through is the one that was
planned, under the id that the presented approval holds, when this approval was recorded. -/
theorem runs_as_approved (cfg : Settings) (env : Env) (mode : Mode) {w : World} {calls : List Call}
    (hw : NoIncidents w) (hok : EveryCall cfg env mode (Binding cfg) w calls) :
    EveryCall cfg env mode (fun v c ↦ c.RunsOn cfg env mode ApprovedAction v) w calls := by
  have hledger : Ledger mode ApprovalRecord.Names w := Ledger.of_noIncidents hw
  have haccepted : EveryCall cfg env mode
      (fun v c ↦ (c.handler cfg).Always (serve env mode) (OnAccept ApprovedAction) v) w calls := by
    refine accepts_every_call (fun v c hc ↦ ?_) ?_ hledger hok
    · exact Ledger.stable fun b a hgrant happroved ↦ ⟨Call.grants_names hc.action hgrant happroved,
        Call.grants_honest hc.version hgrant happroved⟩
    · intro u c v r a action hc hv hr hbound
      obtain ⟨haccepts, graph, pending, hgraph, hplanned⟩ :=
        Call.bound_asPlanned hc.planned hbound
      obtain ⟨hnames, ⟨before, p, s, hwrites, hadded, hkept⟩, last, hlast, hedit⟩ :=
        hv.recorded hr haccepts
      rw [hwrites, show before ++ [p, s] = before ++ [p] ++ [s] by simp,
        List.getLast?_concat] at hlast
      cases hlast
      refine ⟨haccepts.mem, haccepts.approved, haccepts.actionId hnames, before, p, s, [], hwrites,
        hadded, graph, pending, ?_, hplanned⟩
      rw [← hkept, ← hedit.pendingActionGraph, hgraph]
  exact haccepted.mono fun v c ↦ Call.runsOn_of_always fun _ _ _ _ _ h ↦
    ⟨h.mem, h.approved, h.actionId, h.planned⟩

/-- The approval of the rollback of the checkout service lets one of a cluster node through. -/
theorem other_target_runs_on_approval :
    ¬ ∀ calls, EveryCall Settings.demo Env.demo .postgres
      (fun v c ↦ c.RunsOn Settings.demo Env.demo .postgres ApprovedAction v) {} calls := by
  intro h
  have hlast :=
    (h (checkoutPlanned ++ [approveRollback none, executeRollback "k8s-node-7"])).2.2.2.2.1
  exact Call.not_runsOn (B := plannedTarget) (fun _ _ _ _ ↦ ApprovedAction.target)
    (by decide +kernel) hlast

/-- The pending action, approved and run by its id. -/
theorem runs_as_approved_checkout :
    EveryCall Settings.demo Env.demo .postgres
      (fun v c ↦ c.RunsOn Settings.demo Env.demo .postgres ApprovedAction v) {}
      (checkoutPlanned ++ [approveRollback none, .executeIncident checkoutId {}]) :=
  runs_as_approved Settings.demo Env.demo .postgres ⟨rfl, rfl⟩
    ⟨⟨trivial, trivial, trivial⟩, ⟨trivial, trivial, trivial⟩, ⟨trivial, trivial, trivial⟩,
      And.intro ⟨(fun _ _ h ↦ nomatch h), (fun _ ↦ by decide), trivial⟩
        ⟨⟨trivial, trivial, trivial⟩, trivial⟩⟩

end IncidentPlatform
