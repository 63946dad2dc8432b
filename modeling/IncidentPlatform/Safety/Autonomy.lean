import IncidentPlatform.Api.Outcome

/-!
# Autonomous executions

`apps/api/routers/policy_engine/autonomy.py` has a predicate on the planner's confidence and the
action graph, but nothing calls it. What stands between an autonomous request and the action is the
kill switch and the stages of the policy engine that deny; the approval rules are overridden. So an
autonomous rollback needs neither a graph nor confidence. Two of the three actions of high risk are
out of reach all the same, because no response plan allows them.
-/

namespace IncidentPlatform

open Interaction

/-- `qualifies_for_autonomy`. -/
def qualifiesForAutonomy (t : Text) (confidence : ℚ) (blastRadius : String) (graph : ActionGraph) :
    Bool :=
  if confidence < 9 / 10 then false
  else if t.lower blastRadius != "single service" then false
  else graph.actions.all fun action ↦ action.actionType ∉ highRisk

/-- The incident has a pending graph that qualifies. -/
def Qualifies (cfg : Settings) (r : IncidentRecord) : Prop :=
  ∃ graph, r.pendingActionGraph = some graph ∧
    qualifiesForAutonomy cfg.text r.lastPlannerConfidence graph.blastRadius graph = true

/-- What an autonomous execution that is no dry run has been checked for. -/
structure AutonomyChecked (cfg : Settings) (plan : ResponsePlan) (action : ActionRequest) :
    Prop where
  killSwitch : cfg.autonomyKillSwitch = false
  notForcedDry : (cfg.executionMode == "aws" && cfg.executeActionDryRun) = false
  permitted : Permitted cfg.documents plan action
  allowed : action.actionType ∈ plan.allowedActions
  outOfReach : action.actionType ∉ [ActionType.drainNode, .runAnsibleJob, .runShell]

/-- A request that is let through was allowed by the policy. -/
theorem LetsThrough.permitted {cfg : Settings} {env : Env} {w : World} {incidentId : String}
    {payload : ExecutePayload} {r : IncidentRecord} {plan : ResponsePlan}
    (h : LetsThrough cfg env w incidentId payload r plan) :
    Permitted cfg.documents plan payload.action := by
  have hgates := h.gates
  rw [IncidentPlatform.gates] at hgates
  simp only [Bool.and_eq_true] at hgates
  exact permitted_of_denial ((evaluate_allowed_iff ..).mp hgates.1.2)

theorem LetsThrough.autonomyChecked {cfg : Settings} {env : Env} {w : World} {incidentId : String}
    {payload : ExecutePayload} {r : IncidentRecord} {plan : ResponsePlan}
    (h : LetsThrough cfg env w incidentId payload r plan) (hsound : Sound r)
    (hauto : payload.autonomous = true) (hreal : (runAction cfg payload).dryRun = false) :
    AutonomyChecked cfg plan payload.action := by
  have hpermitted := h.permitted
  obtain ⟨t, severity, symptom, rfl⟩ := hsound.matched plan h.responsePlan
  obtain ⟨hnonempty, houtside⟩ := matchResponsePlan_allowed t severity symptom
  have hallowed := hpermitted.planAllowed.resolve_left hnonempty
  refine ⟨?_, ?_, hpermitted, hallowed, (houtside _ hallowed).2⟩
  · have hgates := h.gates
    rw [IncidentPlatform.gates] at hgates
    simp only [Bool.and_eq_true, hauto, Bool.true_and, Bool.not_eq_true'] at hgates
    exact hgates.1.1.2
  · by_contra hforced
    rw [Bool.not_eq_false] at hforced
    rw [runAction, effectiveExecuteDryRun, if_pos hforced] at hreal
    contradiction

/-- **Autonomous executions.** In every run: an autonomous request that the checks of
`execute_action` let through and that is no dry run was made with the kill switch off, for an action
that the response plan allows, that no policy denies and that is no write of a read-only plan. It
never drains a node, runs an Ansible job or a shell command. -/
theorem autonomous_execution_checked (cfg : Settings) (env : Env) (mode : Mode) {w₀ : World}
    (hw₀ : NoIncidents w₀) (calls : List Call) {c : Call} {u : World} {incidentId : String}
    {payload : ExecutePayload} {g : Authorized}
    (hexec : c.execution (after cfg env mode w₀ calls) = some (u, incidentId, payload))
    (hg : Authorizes cfg env mode u incidentId payload g) (hauto : payload.autonomous = true)
    (hreal : (runAction cfg payload).dryRun = false) :
    AutonomyChecked cfg g.plan payload.action :=
  hg.letsThrough.autonomyChecked (Call.execution_sound hw₀ hexec hg.letsThrough.stored) hauto hreal

/-- The demo with the kill switch off. -/
def Settings.released : Settings := { Settings.demo with autonomyKillSwitch := false }

/-- An autonomous rollback. -/
def autonomousRollback : ExecutePayload where
  action :=
    { actionId := "act_1"
      actionType := .rollbackDeployment
      target := "checkout-service"
      idempotencyKey := "rollback" }
  autonomous := true

/-- The calls that open a checkout incident and route it. -/
def checkoutRouted : List Call := [.ingest checkoutAlert, .routeIncident checkoutId]

theorem autonomousRollback_authorized :
    ∃ g, Authorizes Settings.released Env.demo .postgres
      (after Settings.released Env.demo .postgres {} checkoutRouted) checkoutId autonomousRollback
        g ∧ g.incident.pendingActionGraph.isNone = true :=
  exists_authorizes_of_any (B := fun g ↦ g.incident.pendingActionGraph.isNone) (by decide +kernel)

/-- The rollback is let through before there is any graph. -/
theorem autonomy_not_earned :
    ¬ ∀ calls (c : Call) u payload g,
      c.execution (after Settings.released Env.demo .postgres {} calls)
        = some (u, checkoutId, payload) →
      Authorizes Settings.released Env.demo .postgres u checkoutId payload g →
      payload.autonomous = true → (runAction Settings.released payload).dryRun = false →
        Qualifies Settings.released g.incident ∧ payload.action.actionType ∉ highRisk := by
  intro h
  obtain ⟨g, hg, hnone⟩ := autonomousRollback_authorized
  obtain ⟨⟨graph, hgraph, -⟩, -⟩ := h checkoutRouted (.executeAction checkoutId autonomousRollback)
    _ autonomousRollback g rfl hg rfl (by decide)
  rw [hgraph] at hnone
  contradiction

/-- The same rollback. -/
theorem autonomous_execution_checked_rollback :
    ∃ plan, AutonomyChecked Settings.released plan autonomousRollback.action := by
  obtain ⟨g, hg, -⟩ := autonomousRollback_authorized
  exact ⟨g.plan, autonomous_execution_checked Settings.released Env.demo .postgres ⟨rfl, rfl⟩
    checkoutRouted (c := .executeAction checkoutId autonomousRollback) rfl hg rfl (by decide)⟩

end IncidentPlatform
