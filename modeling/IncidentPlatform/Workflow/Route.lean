import IncidentPlatform.Agents.Planner
import IncidentPlatform.Workflow.HybridRouter

/-!
# Routing

`src/workflows/incident_workflow.py`: the linear route, and the decision loop. Both work on one
record that they save at every checkpoint. Assignments that an agent or an audit append could be
the last thing to see are announced with `assign`; see `Persistence.World`.

`index_incident_snippet` writes to the working memory only, which no modelled function reads, and
never raises; it is left out.
-/

namespace IncidentPlatform

open Interaction

/-! ## Traces, decisions and checkpoints -/

/-- A new trace entry. -/
def newTraceEntry (phase : String) (message : String) (actionId : Option String)
    (success : Option Bool) (replanRequested : Bool) : Handler ExecutionTraceEntry := do
  let hex ← perform .uuid4
  let createdAt ← perform .utcnow
  pure { traceId := "et_" ++ hexPrefix 10 hex, phase, actionId, success, message, replanRequested
         createdAt }

def IncidentRecord.withTrace (incident : IncidentRecord) (entry : ExecutionTraceEntry) :
    IncidentRecord :=
  { incident with executionTrace := incident.executionTrace ++ [entry] }

/-- `_append_trace`. -/
def appendTrace (incident : IncidentRecord) (phase message : String) : Handler IncidentRecord := do
  let entry ← newTraceEntry phase message none none false
  pure (incident.withTrace entry)

/-- `None` or a string. -/
def optionText : Option String → Value
  | some s => .str s
  | none => .null

/-- The payload of `router_decision`. -/
def routerDecisionPayload (incident : IncidentRecord) (decision : RouterDecision) : Dict :=
  [("incident_id", .str incident.incidentId), ("decision_id", .str decision.decisionId),
    ("next_workflow", .str decision.nextWorkflow), ("stop_reason", optionText decision.stopReason),
    ("investigate_only", .bool decision.investigateOnly),
    ("iteration", .num incident.workflowIteration)]

def IncidentRecord.withDecision (incident : IncidentRecord) (decision : RouterDecision)
    (record : DecisionRecord) : IncidentRecord :=
  { incident with
    latestRouterDecision := some decision
    decisionRecords := incident.decisionRecords ++ [record] }

/-- `_persist_decision`, which assigns and audits but does not save. -/
def persistDecision (incident : IncidentRecord) (decision : RouterDecision) :
    Handler IncidentRecord := do
  let hex ← perform .uuid4
  let createdAt ← perform .utcnow
  let incident := incident.withDecision decision
    { recordId := "dr_" ++ hexPrefix 10 hex
      iteration := incident.workflowIteration
      routerDecision := some decision
      createdAt }
  assign incident
  perform (.audit "router_decision" (routerDecisionPayload incident decision))
  pure incident

def IncidentRecord.withStep (incident : IncidentRecord) (step : String) : IncidentRecord :=
  if step ∈ incident.agentPath then incident
  else { incident with agentPath := incident.agentPath ++ [step] }

/-- The payload of `workflow_checkpoint`; the worker adds a flag. -/
def checkpointPayload (worker : Bool) (incidentId step : String) : Dict :=
  [("incident_id", .str incidentId), ("step", .str step)] ++
    if worker then [("worker", .bool true)] else []

/-- `_write_checkpoint`, of the router and of the worker. -/
def writeCheckpoint (worker : Bool) (incident : IncidentRecord) (step : String) :
    Handler IncidentRecord := do
  let incident ← save (incident.withStep step)
  perform (.audit "workflow_checkpoint" (checkpointPayload worker incident.incidentId step))
  pure incident

/-! ## The steps -/

def IncidentRecord.withHypotheses (incident : IncidentRecord) (hypotheses : List Dict) :
    IncidentRecord :=
  { incident with hypotheses := incident.hypotheses ++ hypotheses }

def IncidentRecord.withEvidence (incident : IncidentRecord) (evidence : List EvidenceEntry) :
    IncidentRecord :=
  { incident with evidence := incident.evidence ++ evidence }

/-- What both routes start with. -/
def matchPlan (cfg : Settings) (incident : IncidentRecord) : IncidentRecord :=
  let plan :=
    matchResponsePlan cfg.text incident.metadata.severity incident.metadata.symptom
  { incident with
    responsePlan := some plan
    allowedActions := plan.allowedActions
    state := .investigating }

def triageStep (cfg : Settings) (worker : Bool) (incident : IncidentRecord) :
    Handler IncidentRecord := do
  let result ← triage cfg incident
  writeCheckpoint worker (incident.withHypotheses [[("triage", .dict result)]]) "triage"

def changeStep (cfg : Settings) (worker : Bool) (incident : IncidentRecord) :
    Handler IncidentRecord := do
  let entry ← correlateChanges cfg incident
  writeCheckpoint worker (incident.withEvidence [entry]) "change"

/-- The last assignment of both routes. -/
def IncidentRecord.routed (incident : IncidentRecord) : IncidentRecord :=
  { incident with controlPlaneVersion := "v1" }

/-! ## The linear route -/

/-- `run_linear_route`. -/
def runLinearRoute (cfg : Settings) (worker : Bool) (incident : IncidentRecord) :
    Handler IncidentRecord := do
  let incident ← writeCheckpoint worker (matchPlan cfg incident) "match"
  let incident ← triageStep cfg worker incident
  let (incident, evidence) ← gatherEvidence cfg incident
  let incident ← writeCheckpoint worker (incident.withEvidence evidence) "evidence"
  let incident ← changeStep cfg worker incident
  let hypotheses ← analyzeRootCause cfg incident
  let incident ← writeCheckpoint worker
    (incident.withHypotheses (hypotheses.map RCAHypothesisItem.modelDump)) "rca"
  save incident.routed

/-! ## The decision loop -/

/-- The links the loop adds after an analysis, from position `i` on. -/
def hypothesisLinks (incidentId : String) (i : ℕ) : List RCAHypothesisItem → List HypothesisLink
  | [] => []
  | h :: hypotheses =>
    { hypothesisId := "hyp_" ++ incidentId ++ "_" ++ toString i
      text := h.hypothesis
      confidence := h.confidence
      supportingEvidenceIds := h.supportingEvidenceIds } ::
    hypothesisLinks incidentId (i + 1) hypotheses

/-- `min(1.0, n / 5.0)`. -/
def evidenceCoverage (n : ℕ) : ℚ := min 1 (n / 5)

def IncidentRecord.withCoverage (incident : IncidentRecord) : IncidentRecord :=
  { incident with evidenceCoverageScore := evidenceCoverage incident.evidence.length }

def evidenceStep (cfg : Settings) (worker : Bool) (incident : IncidentRecord) :
    Handler IncidentRecord := do
  let (incident, evidence) ← gatherEvidence cfg incident
  writeCheckpoint worker (incident.withEvidence evidence).withCoverage "evidence"

def IncidentRecord.withLinks (incident : IncidentRecord) (links : List HypothesisLink) :
    IncidentRecord :=
  { incident with hypothesisLinks := incident.hypothesisLinks ++ links }

def rcaStep (cfg : Settings) (worker : Bool) (incident : IncidentRecord) :
    Handler IncidentRecord := do
  let hypotheses ← analyzeRootCause cfg incident
  let incident := incident.withHypotheses (hypotheses.map RCAHypothesisItem.modelDump)
  writeCheckpoint worker
    (incident.withLinks (hypothesisLinks incident.incidentId 0 hypotheses)) "rca"

/-- The fields the loop sets from a new graph: no ids are touched when it has no actions. -/
def withPlannedGraph (incident : IncidentRecord) (graph : ActionGraph) : IncidentRecord :=
  { incident with
    pendingActionGraph := some graph
    pendingApprovalActionId := match graph.actions.head? with
      | some action => some action.actionId
      | none => incident.pendingApprovalActionId
    pendingPlanStepId := match graph.actions.head?, graph.planSteps.head? with
      | some _, some step => some step.stepId
      | _, _ => incident.pendingPlanStepId
    state := .waitingApproval }

def plannerStep (cfg : Settings) (worker : Bool) (incident : IncidentRecord) :
    Handler IncidentRecord := do
  let (incident, graph) ← planRemediation cfg incident
  let incident ← writeCheckpoint worker (withPlannedGraph incident graph) "planned"
  appendTrace incident "plan" "remediation graph created"

/-- The decision of an iteration, restricted to the plan and stopped if it is investigate-only. -/
def restrictDecision (decision : RouterDecision) (plan : ResponsePlan) : RouterDecision :=
  let decision := mergeRouterAllowedWithPlan decision plan
  if decision.investigateOnly &&
      (decision.nextWorkflow == "planner" || decision.nextWorkflow == "execute") then
    { decision with nextWorkflow := "stop", stopReason := some "investigate_only" }
  else decision

/-- One step of the loop, and whether the loop goes on. -/
def runStep (cfg : Settings) (worker : Bool) (incident : IncidentRecord) (step : String) :
    Handler (IncidentRecord × Bool) := do
  match step with
  | "triage" => do pure (← triageStep cfg worker incident, true)
  | "evidence" => do pure (← evidenceStep cfg worker incident, true)
  | "change" => do pure (← changeStep cfg worker incident, true)
  | "rca" => do pure (← rcaStep cfg worker incident, true)
  | "planner" => do pure (← plannerStep cfg worker incident, false)
  | "verify" => do pure (← appendTrace incident "verify" "post_action_verify_stub", false)
  | _ => pure (incident, false)

def IncidentRecord.withIteration (incident : IncidentRecord) (iteration : ℕ) : IncidentRecord :=
  { incident with workflowIteration := iteration }

/-- What an iteration does before its step: decide, and record the decision. -/
def decideNext (cfg : Settings) (incident : IncidentRecord) (plan : ResponsePlan) :
    Handler (IncidentRecord × RouterDecision) := do
  let incident := incident.withIteration (incident.workflowIteration + 1)
  assign incident
  let raw ← computeRouterDecision cfg incident plan
  let decision := restrictDecision raw plan
  let incident ← persistDecision incident decision
  let incident ← appendTrace incident "decide" ("next=" ++ decision.nextWorkflow)
  assign incident
  pure (incident, decision)

/-- The iterations of `run_decision_loop_route`, at most `n` of them. -/
def decisionLoop (cfg : Settings) (worker : Bool) (plan : ResponsePlan) :
    ℕ → IncidentRecord → Handler IncidentRecord
  | 0, incident => pure incident
  | n + 1, incident => do
    let (incident, decision) ← decideNext cfg incident plan
    let stopReason := orText decision.stopReason none
    if decision.nextWorkflow == "stop" || stopReason.isSome then
      appendTrace incident "stop" (stopReason.getD "complete")
    else do
      let (incident, continues) ← runStep cfg worker incident decision.nextWorkflow
      if continues then do
        let incident ← save incident
        decisionLoop cfg worker plan n incident
      else pure incident

/-- `run_decision_loop_route`. -/
def runDecisionLoopRoute (cfg : Settings) (worker : Bool) (incident : IncidentRecord) :
    Handler IncidentRecord := do
  let incident ← writeCheckpoint worker ((matchPlan cfg incident).withIteration 0) "match"
  let plan := matchResponsePlan cfg.text incident.metadata.severity incident.metadata.symptom
  let incident ← decisionLoop cfg worker plan cfg.maxIterations incident
  save incident.routed

/-- `execute_route`. -/
def executeRoute (cfg : Settings) (worker : Bool) (incident : IncidentRecord) :
    Handler IncidentRecord :=
  if cfg.routerDecisionLoopEnabled then runDecisionLoopRoute cfg worker incident
  else runLinearRoute cfg worker incident

end IncidentPlatform
