import IncidentPlatform.Api.Handlers
import IncidentPlatform.Execution.Adapters

/-!
# The adapters in place, and the scenario

To a handler an attempt at an action is one operation, `registryRun`. `deployed` puts the registry
in its place. The program that is left calls the clients of the adapters itself and everything else
as before. An attempt that `asyncio.wait_for` cancels before it starts makes no call. By
**`deployed_run`** the run of a deployed handler over the clients is the run of the handler over
adapters that answer from those clients.

`POST /scenario/checkout-deployment-failure` breaks the checkout service and repairs it. It calls
the checkout client on its own account to break it, and hands the repair to the executor without the
checks of the execute endpoints. The report that it writes to a file in the end is left out.
-/

namespace IncidentPlatform

open Interaction

/-! ## The adapters in place -/

/-- The operations of the platform with its adapters in place. -/
inductive EdgeOp where
  /-- Every operation but `registryRun`. -/
  | platform (o : Op)
  /-- Whether an attempt is cancelled before it starts. -/
  | expired (timeoutSeconds : ℤ)
  | adapter (o : AdapterOp)
  /-- The two calls of the checkout client that no adapter makes. -/
  | rollback (toRevision : String)
  | injectDeploymentFailure

abbrev EdgeAns : EdgeOp → Type
  | .platform o => Ans o
  | .expired _ => Bool
  | .adapter o => AdapterAns o
  | .rollback _ | .injectDeploymentFailure => Except Fault Dict

section

variable (cfg : Settings) (s : AdapterSettings)

/-- One attempt at an action, with the calls of its adapter. -/
def attemptAction (action : ActionRequest) :
    Prog EdgeOp EdgeAns Exc (Except Fault AdapterResult) := do
  if ← Prog.op (.expired action.timeoutSeconds) then pure (.error .timeoutError)
  else
    let attempt := TypedActionAdapterRegistry.run cfg s (.executor action) action
    (attempt.interp fun o ↦ Prog.op (.adapter o)).attempt

/-- An operation of a handler, with the adapters in place. -/
def withAdapters : (o : Op) → Prog EdgeOp EdgeAns Exc (Ans o)
  | .registryRun action => attemptAction cfg s action
  | o => Prog.call (EdgeOp.platform o) Prog.ret

/-- A handler, with the adapters in place. -/
def deployed {α : Type} (p : Handler α) : Prog EdgeOp EdgeAns Exc α :=
  p.interp (withAdapters cfg s)

/-- The world, with clients that answer without a memory. An attempt counts when it starts. -/
def serveEdge (clients : Unit → (o : AdapterOp) → AdapterAns o × Unit) (env : Env) (mode : Mode)
    (w : World) : (o : EdgeOp) → EdgeAns o × World
  | .platform o => serve env mode w o
  | .expired _ => (false, { w with attempts := w.attempts + 1, tick := w.tick + 1 })
  | .adapter o => ((clients () o).1, w)
  | .rollback _ | .injectDeploymentFailure => (.ok [], w)

/-- The outside in which an attempt ends as the registry does with these clients. -/
def Env.withClients (clients : Unit → (o : AdapterOp) → AdapterAns o × Unit) (env : Env) : Env :=
  { env with
    attempt := fun _ action ↦
      ((TypedActionAdapterRegistry.run cfg s (.executor action) action).run clients ()).1 }

variable {cfg s} {clients : Unit → (o : AdapterOp) → AdapterAns o × Unit} {env : Env} {mode : Mode}

/-- The calls of an adapter leave the world alone. -/
theorem adapter_run {ε α : Type} (p : Prog AdapterOp AdapterAns ε α) (w : World) :
    (p.interp fun o ↦ Prog.op (EdgeOp.adapter o)).run (serveEdge clients env mode) w
      = ((p.run clients ()).1, w) := by
  induction p with
  | ret a => rfl
  | raise e => rfl
  | call o k ih => exact ih _

theorem withAdapters_run (w : World) (o : Op) :
    (withAdapters cfg s o).run (serveEdge clients env mode) w =
      (.ok (serve (env.withClients cfg s clients) mode w o).1,
        (serve (env.withClients cfg s clients) mode w o).2) := by
  cases o with
  | registryRun action =>
    -- The one step before the attempt counts it, and lets it start.
    change (Prog.attempt _).run _ { w with attempts := w.attempts + 1, tick := w.tick + 1 } = _
    rw [Prog.attempt_run, adapter_run]
    rfl
  | _ => rfl

/-- **The adapters in place.** With them a handler does what it does in a world that answers its
attempts as the registry would. -/
theorem deployed_run {α : Type} (p : Handler α) (w : World) :
    (deployed cfg s p).run (serveEdge clients env mode) w
      = p.run (serve (env.withClients cfg s clients) mode) w :=
  Prog.run_interp withAdapters_run p w

end

/-! ## The scenario -/

/-- What the scenario ingests. -/
def scenarioPayload : IngestPayload where
  source := "checkout-scenario"
  severity := "sev2"
  service := "checkout-service"
  resource := "checkout-service"
  symptom := "checkout deployment regression causing elevated errors and latency"
  rawPayloadRef := some "scenario://checkout-deployment-regression"

/-- The fields the scenario sets from its graph. -/
def withScenarioPlan (incident : IncidentRecord) (graph : ActionGraph) : IncidentRecord :=
  { incident with
    pendingActionGraph := some graph
    pendingApprovalActionId := graph.actions.head?.map ActionRequest.actionId
    pendingPlanStepId := graph.planSteps.head?.map PlanStep.stepId
    state := .waitingApproval
    finalDiagnosis :=
      some "Deployment checkout-r43 introduced elevated checkout errors and latency." }

/-- The scenario up to its plan. The action is made a real one. -/
def planScenario (cfg : Settings) : Handler (IncidentRecord × ActionRequest) := do
  let incident ← normalize cfg scenarioPayload
  let incident ← upsert incident
  perform (.audit "scenario_failure_injected" [("incident_id", .str incident.incidentId)])
  let routed ← executeRoute cfg false incident
  let (routed, graph) ← planRemediation cfg routed
  let routed ← save (withScenarioPlan routed graph)
  let action ← orHttp graph.actions.head? 500 "scenario planner returned no action"
  pure (routed, { action with dryRun := false })

/-- The approval that the scenario gives itself, valid for 15 minutes. -/
def approveScenario (incident : IncidentRecord) (action : ActionRequest) :
    Handler (IncidentRecord × ApprovalRecord) := do
  let idHex ← perform .uuid4
  let tokenHex ← perform .uuid4
  let now ← perform .utcnow
  let expiresAt := now + 15 * 60 * 1000000
  require (inDatetimeRange expiresAt) .overflow
  let createdAt ← perform .utcnow
  let approval : ApprovalRecord :=
    { approvalId := "apr_" ++ hexPrefix 10 idHex
      actionId := some action.actionId
      planStepId := incident.pendingPlanStepId
      approvalScope := "action"
      expectedIncidentVersionAtGrant := some incident.version
      approver := "demo-approver"
      approved := true
      approvalToken := "token_" ++ tokenHex
      expiresAt
      reason := some "Deterministic scenario approval for local checkout rollback."
      createdAt }
  let incident ← save (withApproval incident approval)
  perform (.audit "approval_recorded"
    [("incident_id", .str incident.incidentId), ("approval_id", .str approval.approvalId)])
  pure (incident, approval)

/-- The fields the scenario sets last. -/
def withRepair (incident : IncidentRecord) (result : ActionResult) (verified : Bool)
    (entry : ExecutionTraceEntry) : IncidentRecord :=
  { incident with
    executedActions := incident.executedActions ++ [result]
    executionTrace := incident.executionTrace ++ [entry]
    finalResolution := some "Rollback to checkout-r42 restored checkout health and business KPIs."
    state := if result.success && verified then .resolved else .investigating }

/-- The scenario from the run of its action on. -/
def repairScenario (incident : IncidentRecord) (action : ActionRequest) :
    Handler (IncidentRecord × Dict) := do
  let entry ← newTraceEntry "act" "" (some action.actionId) none false
  let incident := { incident with state := .executing }.withTrace entry
  assign incident
  let result ← executionAgentRun action
  let (verified, metrics) ← orRaise (← perform .verifyRecovery)
  let entry ← newTraceEntry "verify" "checkout_metrics" (some action.actionId) (some verified) false
  let incident ← save (withRepair incident result verified entry)
  perform (.audit "scenario_completed"
    [("incident_id", .str incident.incidentId), ("success", .bool (result.success && verified)),
      ("metrics", .dict metrics)])
  pure (incident, metrics)

/-- The scenario after the checkout service is broken. -/
def resolveScenario (cfg : Settings) : Handler (IncidentRecord × ApprovalRecord × Dict) := do
  let (incident, action) ← planScenario cfg
  let (incident, approval) ← approveScenario incident action
  let (incident, metrics) ← repairScenario incident action
  pure (incident, approval, metrics)

/-- A call of the checkout client by the scenario itself. -/
def callCheckout (answer : Except Fault Dict) : Prog EdgeOp EdgeAns Exc Dict :=
  Prog.ofExcept (answer.mapError Exc.fault)

/-- `POST /scenario/checkout-deployment-failure`. -/
def runCheckoutDeploymentFailure (cfg : Settings) (s : AdapterSettings) :
    Prog EdgeOp EdgeAns Exc (IncidentRecord × ApprovalRecord × Dict) := do
  let _ ← callCheckout (← Prog.op (.rollback "checkout-r42"))
  let _ ← callCheckout (← Prog.op .injectDeploymentFailure)
  deployed cfg s (resolveScenario cfg)

/-! ## The calls that run actions -/

/-- A request to one of the endpoints that run actions. -/
inductive ExecutionCall where
  | executeAction (incidentId : String) (payload : ExecutePayload)
  | executeIncident (incidentId : String) (payload : IncidentExecutePayload)
  | runCheckoutDeploymentFailure

namespace ExecutionCall

/-- What a call does, with the adapters in place. -/
def program (cfg : Settings) (s : AdapterSettings) :
    ExecutionCall → Prog EdgeOp EdgeAns Exc Unit
  | executeAction incidentId payload =>
    deployed cfg s (discard (IncidentPlatform.executeAction cfg incidentId payload))
  | executeIncident incidentId payload =>
    deployed cfg s (discard (IncidentPlatform.executeIncident cfg incidentId payload))
  | runCheckoutDeploymentFailure => do
    let _ ← IncidentPlatform.runCheckoutDeploymentFailure cfg s
    pure ()

/-- The request asks for a dry run. The scenario has no body to ask in. -/
def asksDryRun : ExecutionCall → Bool
  | executeAction _ payload => payload.action.dryRun
  | executeIncident _ payload => payload.dryRun == some true
  | runCheckoutDeploymentFailure => false

def autonomous : ExecutionCall → Bool
  | executeAction _ payload => payload.autonomous
  | executeIncident _ payload => payload.autonomous
  | runCheckoutDeploymentFailure => false

end ExecutionCall

end IncidentPlatform
