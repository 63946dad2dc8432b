import IncidentPlatform.Domain.Value

/-!
# The domain contracts

The records of `src/domain/contracts/models.py`, field by field, and the outputs the language
model is asked for. A datetime is a number of microseconds since the epoch, naive UTC as the code
uses it; a `float` field is an exact rational.
-/

namespace IncidentPlatform

/-- A naive UTC `datetime`, in microseconds since the epoch. -/
abbrev Time := ℤ

inductive PolicyClass where
  | readOnly
  | reviewRequired
  | privileged
  deriving DecidableEq, Repr, Inhabited

inductive IncidentState where
  | open
  | investigating
  | planned
  | waitingApproval
  | executing
  | resolved
  | reopened
  deriving DecidableEq, Repr, Inhabited

def IncidentState.value : IncidentState → String
  | .open => "open"
  | .investigating => "investigating"
  | .planned => "planned"
  | .waitingApproval => "waiting_approval"
  | .executing => "executing"
  | .resolved => "resolved"
  | .reopened => "reopened"

inductive ActionType where
  | queryMetrics
  | queryLogs
  | getRecentDeployments
  | getTopology
  | restartService
  | scaleWorkload
  | rollbackDeployment
  | drainNode
  | openTicket
  | pageHuman
  | runAnsibleJob
  | runShell
  deriving DecidableEq, Repr, Inhabited

def ActionType.value : ActionType → String
  | queryMetrics => "QueryMetrics"
  | queryLogs => "QueryLogs"
  | getRecentDeployments => "GetRecentDeployments"
  | getTopology => "GetTopology"
  | restartService => "RestartService"
  | scaleWorkload => "ScaleWorkload"
  | rollbackDeployment => "RollbackDeployment"
  | drainNode => "DrainNode"
  | openTicket => "OpenTicket"
  | pageHuman => "PageHuman"
  | runAnsibleJob => "RunAnsibleJob"
  | runShell => "RunShell"

/-- The members of `ActionType`, in the order of the class. -/
def ActionType.all : List ActionType :=
  [queryMetrics, queryLogs, getRecentDeployments, getTopology, restartService, scaleWorkload,
    rollbackDeployment, drainNode, openTicket, pageHuman, runAnsibleJob, runShell]

/-- `ActionType(raw)`, `none` for the `ValueError`. -/
def ActionType.ofValue? (raw : String) : Option ActionType :=
  ActionType.all.find? fun t ↦ t.value == raw

structure EvidenceEntry where
  evidenceId : String
  source : String
  kind : String
  confidence : ℚ
  summary : String
  reference : Option String := none
  createdAt : Time
  deriving Repr, Inhabited, DecidableEq

structure ApprovalRecord where
  approvalId : String
  actionId : Option String := none
  planStepId : Option String := none
  approvalScope : String := "action"
  expectedIncidentVersionAtGrant : Option ℤ := none
  approver : String
  approved : Bool
  approvalToken : String
  expiresAt : Time
  reason : Option String := none
  createdAt : Time
  deriving Repr, Inhabited, DecidableEq

structure ActionRequest where
  actionId : String
  actionType : ActionType
  target : String
  parameters : Dict := []
  idempotencyKey : String
  dryRun : Bool := true
  timeoutSeconds : ℤ := 120
  deriving Repr, Inhabited

structure ActionResult where
  actionId : String
  success : Bool
  statusMessage : String
  startedAt : Time
  finishedAt : Time
  rollbackAction : Option ActionRequest := none
  deriving Repr, Inhabited

/-- Ordered remediation step with execution intent separate from dry-run policy. -/
structure PlanStep where
  stepId : String
  order : ℕ := 0
  actionRefId : Option String := none
  preconditions : List String := []
  verificationSignal : String := ""
  rollbackHint : Option String := none
  executeIntent : String := "execute"
  riskTier : String := "medium"
  deriving Repr, Inhabited, DecidableEq

structure ActionGraph where
  objective : String
  prerequisites : List String
  safetyChecks : List String
  rollbackPlan : List String
  blastRadius : String
  successSignal : String
  actions : List ActionRequest
  planSteps : List PlanStep := []
  graphVersion : String := "v1"
  deriving Repr, Inhabited

/-- A graph as the planner makes it: there is something to do, in steps that follow the actions. -/
structure IsPlan (graph : ActionGraph) : Prop where
  actions : graph.actions ≠ []
  length : graph.planSteps.length = graph.actions.length
  stepId : ∀ step ∈ graph.planSteps, step.stepId ≠ ""
  step : ∀ (i : ℕ) (step : PlanStep) (action : ActionRequest), graph.planSteps[i]? = some step →
    graph.actions[i]? = some action → step.order = i ∧ step.actionRefId = some action.actionId

theorem IsPlan.planSteps {graph : ActionGraph} (h : IsPlan graph) : graph.planSteps ≠ [] := by
  rw [← List.length_pos_iff, h.length, List.length_pos_iff]
  exact h.actions

/-- Single validated tool invocation for evidence or read-only collection. -/
structure ToolPlanItem where
  tool : ActionType
  target : String := ""
  parameters : Dict := []
  reason : String := ""
  deriving Repr, Inhabited

structure ToolPlan where
  planId : String
  items : List ToolPlanItem := []
  createdAt : Time
  deriving Repr, Inhabited

/-- First-class routing output persisted each workflow iteration. -/
structure RouterDecision where
  decisionId : String
  nextWorkflow : String := "stop"
  allowedActions : List ActionType := []
  stopReason : Option String := none
  decisionConfidence : ℚ := 1
  ruleIdsApplied : List String := []
  investigateOnly : Bool := false
  toolPlan : Option ToolPlan := none
  createdAt : Time
  deriving Repr, Inhabited

/-- Audit trail for observe-decide-act transitions. -/
structure DecisionRecord where
  recordId : String
  iteration : ℕ := 0
  routerDecision : Option RouterDecision := none
  stepExecuted : Option String := none
  policyDecisionId : Option String := none
  notes : String := ""
  createdAt : Time
  deriving Repr, Inhabited

/-- One observe or act step in the closed loop. -/
structure ExecutionTraceEntry where
  traceId : String
  phase : String
  actionId : Option String := none
  success : Option Bool := none
  message : String := ""
  replanRequested : Bool := false
  createdAt : Time
  deriving Repr, Inhabited, DecidableEq

/-- Structured link from hypothesis to evidence and downstream actions. -/
structure HypothesisLink where
  hypothesisId : String
  text : String := ""
  confidence : ℚ := 0
  supportingEvidenceIds : List String := []
  relatedActionIds : List String := []
  deriving Repr, Inhabited, DecidableEq

structure ResponsePlan where
  planId : String
  workflowFamily : String
  policyClass : PolicyClass
  allowedActions : List ActionType
  deniedActions : List ActionType
  maxRetries : ℕ := 2
  deriving Repr, Inhabited, DecidableEq

structure IncidentEnvelope where
  version : String := "v1"
  source : String
  severity : String
  service : String
  resource : String
  symptom : String
  occurredAt : Time
  dedupeKey : String
  rawPayloadRef : Option String := none
  deriving Repr, Inhabited, DecidableEq

/-- The stored incident. `executionTrace` holds the entries of `execution_trace` directly. -/
structure IncidentRecord where
  incidentId : String
  metadata : IncidentEnvelope
  state : IncidentState := .open
  hypotheses : List Dict := []
  evidence : List EvidenceEntry := []
  toolsUsed : List ActionType := []
  blockedActions : List ActionType := []
  allowedActions : List ActionType := []
  responsePlan : Option ResponsePlan := none
  agentPath : List String := []
  approvals : List ApprovalRecord := []
  executedActions : List ActionResult := []
  finalDiagnosis : Option String := none
  finalResolution : Option String := none
  lessonsLearned : List String := []
  pendingActionGraph : Option ActionGraph := none
  pendingApprovalActionId : Option String := none
  pendingPlanStepId : Option String := none
  latestRouterDecision : Option RouterDecision := none
  decisionRecords : List DecisionRecord := []
  executionTrace : List ExecutionTraceEntry := []
  hypothesisLinks : List HypothesisLink := []
  workflowIteration : ℕ := 0
  controlPlaneVersion : String := "v1"
  decisionSchemaVersion : String := "v1"
  lastPlannerConfidence : ℚ := 0
  evidenceCoverageScore : ℚ := 0
  version : ℤ := 1
  createdAt : Time
  updatedAt : Time
  deriving Repr, Inhabited

structure PolicyDecision where
  decisionId : String
  allowed : Bool
  policyClass : PolicyClass
  reason : String
  requiresApproval : Bool
  policyVersion : String := "v1"
  evaluatedAt : Time
  ruleId : Option String := none
  denyReasonCode : Option String := none
  requiresApprovalScope : String := "action"
  deriving Repr, Inhabited, DecidableEq

/-! ## Outputs of the language model, already validated against their schemas -/

structure TriageLLMOutput where
  incidentType : String
  priority : String
  probableDomains : List String := []
  nextRequiredEvidence : List String := []
  deriving Repr, Inhabited

structure EvidenceLLMItem where
  source : String
  kind : String
  confidence : ℚ
  summary : String
  deriving Repr, Inhabited

structure ChangeCorrelationLLMOutput where
  summary : String
  confidence : ℚ
  kind : String := "deployment-history"
  deriving Repr, Inhabited

structure RCAHypothesisItem where
  hypothesis : String
  confidence : ℚ
  supportingEvidenceIds : List String := []
  deriving Repr, Inhabited

structure PlannerLLMOutput where
  objective : String := ""
  prerequisites : List String := []
  safetyChecks : List String := []
  rollbackPlan : List String := []
  blastRadius : String := "single service"
  successSignal : String := ""
  actionTypeNames : List String := []
  plannerConfidence : ℚ := 17 / 20
  deriving Repr, Inhabited

structure RouterLLMOutput where
  nextWorkflow : String := "evidence"
  investigateOnly : Bool := false
  decisionConfidence : ℚ := 17 / 20
  stopReason : Option String := none
  deriving Repr, Inhabited

/-! ## Adapters, and the exceptions of the code the platform calls -/

/-- What an adapter reports for one attempt at an action. -/
structure AdapterResult where
  success : Bool
  message : String
  details : Dict := []
  deriving Repr, Inhabited

/-- The exceptions that come from outside, by the classes the `except` clauses tell apart. -/
inductive Fault where
  | structuredLLMError
  | timeoutError
  | osError
  | httpError
  | databaseError
  | other
  deriving DecidableEq, Repr, Inhabited

/-- `except (StructuredLLMError, OSError, httpx.HTTPError, httpx.RequestError)`, the clause of
every agent. `TimeoutError` is an `OSError`. -/
def Fault.isAgentFallback : Fault → Bool
  | structuredLLMError | timeoutError | osError | httpError => true
  | databaseError | other => false

end IncidentPlatform
