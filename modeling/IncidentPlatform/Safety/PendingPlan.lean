import IncidentPlatform.Api.Runs

/-!
# The pending plan

An incident that waits for approval, or whose plan was approved, names the plan: the graph, its
first action and its first step. `create_plan` and the loop set these fields by different code, and
the two differ where a graph has no actions. The planner never returns such a graph, so they agree;
`Sound` says so of a record, and every handler keeps it.
-/

namespace IncidentPlatform

open Interaction

/-- **The pending-plan invariant.** In either mode, whatever the language model, the router and the
telemetry answer: a stored incident that is waiting for approval or planned has a pending graph
with actions, its steps refer to the actions one by one, and the pending ids are those of the first
action and of the first step. -/
theorem pending_plan_stored (cfg : Settings) (env : Env) (mode : Mode) {w : World}
    (hw : NoIncidents w) (calls : List Call) {incidentId : String} {r : IncidentRecord}
    (hr : (after cfg env mode w calls).stored incidentId = some r)
    (hstate : r.state = .waitingApproval ∨ r.state = .planned) :
    ∃ graph action step, r.pendingActionGraph = some graph ∧
      graph.actions[0]? = some action ∧ graph.planSteps[0]? = some step ∧
      graph.planSteps.length = graph.actions.length ∧
      (∀ (i : ℕ) (s : PlanStep) (a : ActionRequest), graph.planSteps[i]? = some s →
        graph.actions[i]? = some a → s.order = i ∧ s.actionRefId = some a.actionId) ∧
      r.pendingApprovalActionId = some action.actionId ∧
        r.pendingPlanStepId = some step.stepId := by
  have hsound : Sound r := sound_after hw incidentId r hr
  obtain ⟨graph, hgraph⟩ := hsound.pending (by simpa using hstate)
  obtain ⟨action, actions, hactions⟩ := List.exists_cons_of_ne_nil hgraph.plan.actions
  obtain ⟨step, steps, hsteps⟩ := List.exists_cons_of_ne_nil hgraph.plan.planSteps
  refine ⟨graph, action, step, hgraph.pendingActionGraph, ?_, ?_, hgraph.plan.length,
    hgraph.plan.step, ?_, ?_⟩
  · rw [hactions, List.getElem?_cons_zero]
  · rw [hsteps, List.getElem?_cons_zero]
  · rw [hgraph.pendingApprovalActionId, hactions]
    rfl
  · rw [hgraph.pendingPlanStepId, hsteps]
    rfl

/-- The planned checkout incident. -/
theorem pending_plan_stored_checkout :
    ∃ r graph action step, (after Settings.demo Env.demo .postgres {} checkoutPlanned).stored
        checkoutId = some r ∧ r.pendingActionGraph = some graph ∧
      graph.actions[0]? = some action ∧ graph.planSteps[0]? = some step ∧
      r.pendingApprovalActionId = some action.actionId ∧
        r.pendingPlanStepId = some step.stepId := by
  have hwaiting : ((after Settings.demo Env.demo .postgres {} checkoutPlanned).stored
      checkoutId).any (fun r ↦ r.state == .waitingApproval) = true := by decide +kernel
  obtain ⟨r, hr, hstate⟩ := (Option.any_eq_true _ _).mp hwaiting
  obtain ⟨graph, action, step, hgraph, haction, hstep, -, -, hactionId, hstepId⟩ :=
    pending_plan_stored Settings.demo Env.demo .postgres ⟨rfl, rfl⟩ checkoutPlanned hr
      (Or.inl (beq_iff_eq.mp hstate))
  exact ⟨r, graph, action, step, hr, hgraph, haction, hstep, hactionId, hstepId⟩

end IncidentPlatform
