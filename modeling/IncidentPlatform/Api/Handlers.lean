import IncidentPlatform.Execution.Executor
import IncidentPlatform.Workflow.Route

/-!
# The request handlers

The endpoints that read or write incidents: ingest and alerts, routing, planning, the two approve
and the two execute endpoints, the combined investigation, and the job of the routing worker.
Request ids and log lines are left out; the audit log is not.

`executeAction` comes in three parts. `authorize` is everything up to the point where the action is
let through, `performAction` runs and verifies it, `recordOutcome` stores what came of it.
-/

namespace IncidentPlatform

open Interaction

/-- `raise HTTPException(…)` unless `b`. -/
def ensure (b : Bool) (status : ℕ) (detail : String) : Handler Unit :=
  require b (.http status detail)

/-- The value, or the `HTTPException` for its absence. -/
def orHttp {α : Type} (a : Option α) (status : ℕ) (detail : String) : Handler α :=
  match a with
  | some a => pure a
  | none => .raise (.http status detail)

/-- Run a handler for its effects. -/
def discard {α : Type} (p : Handler α) : Handler Unit := do
  let _ ← p
  pure ()

/-! ## Ingest -/

structure IngestPayload where
  source : String := "webhook"
  severity : String := "warning"
  service : String
  resource : String
  symptom : String
  rawPayloadRef : Option String := none
  deriving Repr, Inhabited

/-- `KNOWN_SOURCES`. -/
def knownSources : List String :=
  ["webhook", "azure-monitor", "azure-arc", "prometheus", "grafana", "elk", "splunk", "servicenow",
    "pagerduty"]

/-- `SEVERITY_MAP.get(severity, "sev3")`. -/
def severityOf : String → String
  | "critical" => "sev1"
  | "high" => "sev2"
  | "warning" => "sev3"
  | "info" => "sev4"
  | _ => "sev3"

/-- `_canonical_source`. -/
def canonicalSource (t : Text) (raw : String) : String :=
  let source := t.lower (t.strip (if raw.isEmpty then "webhook" else raw))
  if source ∈ knownSources then source else "webhook"

/-- `normalize`. -/
def normalize (cfg : Settings) (payload : IngestPayload) : Handler IncidentRecord := do
  let t := cfg.text
  let source := canonicalSource t payload.source
  let service := t.lower (t.strip payload.service)
  let resource := t.lower (t.strip payload.resource)
  let symptom := t.strip payload.symptom
  let dedupeKey := cfg.sha256
    (source ++ ":" ++ service ++ ":" ++ resource ++ ":" ++ t.lower (t.strip symptom))
  let occurredAt ← perform .utcnow
  let hex ← perform .uuid4
  let createdAt ← perform .utcnow
  let updatedAt ← perform .utcnow
  pure
    { incidentId := "inc_" ++ hexPrefix 12 hex
      metadata :=
        { source, service, resource, symptom, dedupeKey, occurredAt
          severity := severityOf (t.lower payload.severity)
          rawPayloadRef := payload.rawPayloadRef }
      createdAt
      updatedAt }

/-- The incident of a request that was seen before. -/
def existingIncident (dedupeKey : String) : Handler IncidentRecord := do
  orHttp (← perform (.getByDedupeKey dedupeKey)) 409 "duplicate incident"

/-- `POST /ingest`. -/
def ingest (cfg : Settings) (payload : IngestPayload) : Handler IncidentRecord := do
  let incident ← normalize cfg payload
  let dedupeKey := incident.metadata.dedupeKey
  let firstSeen ← perform (.setIfAbsent ("dedupe:" ++ dedupeKey) incident.incidentId)
  if firstSeen then upsert incident
  else existingIncident dedupeKey

/-- The payload of the two alert events. -/
def alertPayload (incident : IncidentRecord) (dedupeKey requestId : String) : Dict :=
  [("incident_id", .str incident.incidentId), ("dedupe_key", .str dedupeKey),
    ("request_id", .str requestId)]

/-- `POST /alerts`. -/
def createAlert (cfg : Settings) (payload : IngestPayload) (requestId : String) :
    Handler IncidentRecord := do
  let incident ← normalize cfg payload
  let dedupeKey := incident.metadata.dedupeKey
  let firstSeen ← perform (.setIfAbsent ("dedupe:" ++ dedupeKey) incident.incidentId)
  if firstSeen then do
    let created ← upsert incident
    perform (.audit "alert_created" (alertPayload created created.metadata.dedupeKey requestId))
    pure created
  else do
    let existing ← existingIncident dedupeKey
    perform (.audit "alert_deduplicated" (alertPayload existing dedupeKey requestId))
    pure existing

/-! ## Routing and planning -/

def PolicyClass.value : PolicyClass → String
  | .readOnly => "read_only"
  | .reviewRequired => "review_required"
  | .privileged => "privileged"

/-- `ResponsePlan.model_dump`. -/
def ResponsePlan.modelDump (plan : ResponsePlan) : Dict :=
  [("plan_id", .str plan.planId), ("workflow_family", .str plan.workflowFamily),
    ("policy_class", .str plan.policyClass.value),
    ("allowed_actions", stringList (plan.allowedActions.map ActionType.value)),
    ("denied_actions", stringList (plan.deniedActions.map ActionType.value)),
    ("max_retries", .num plan.maxRetries)]

/-- The route itself, inside the lock. -/
def routeLocked (cfg : Settings) (incidentId : String) (incident : IncidentRecord) :
    Handler IncidentRecord := do
  let updated ← executeRoute cfg false incident
  let plan ← orHttp updated.responsePlan 500 "response plan missing after routing"
  perform (.audit "incident_routed"
    [("incident_id", .str incidentId), ("response_plan", .dict plan.modelDump)])
  pure updated

/-- `POST /route/{incident_id}`. -/
def routeIncident (cfg : Settings) (incidentId : String) : Handler IncidentRecord := do
  let hex ← perform .uuid4
  let lockToken := "token_" ++ hex
  let lockKey := "incident_lock:" ++ incidentId
  let acquired ← perform (.setIfAbsent lockKey lockToken)
  ensure acquired 423 "incident is currently being routed"
  match ← perform (.get incidentId) with
  | none => do
    let _ ← perform (.releaseLock lockKey lockToken)
    .raise (.http 404 "incident not found")
  | some incident =>
    Prog.cleanup (discard (perform (.releaseLock lockKey lockToken)))
      (routeLocked cfg incidentId incident)

/-- The job of the worker, `_process_incident`, which takes no lock. -/
def processIncident (cfg : Settings) (incidentId : String) : Handler Unit := do
  match ← perform (.get incidentId) with
  | none =>
    perform (.audit "worker_job_failed"
      [("incident_id", .str incidentId), ("reason", .str "incident_not_found")])
  | some incident => do
    let updated ← executeRoute cfg true incident
    perform (.audit "worker_job_completed"
      [("incident_id", .str updated.incidentId), ("state", .str updated.state.value)])

/-- The fields `create_plan` sets. -/
def withPlan (incident : IncidentRecord) (graph : ActionGraph) : IncidentRecord :=
  { incident with
    pendingActionGraph := some graph
    pendingApprovalActionId := graph.actions.head?.map ActionRequest.actionId
    pendingPlanStepId := match graph.planSteps.head? with
      | some step => some step.stepId
      | none => incident.pendingPlanStepId
    state := .waitingApproval }

/-- `POST /plan/{incident_id}`. -/
def createPlan (cfg : Settings) (incidentId : String) : Handler ActionGraph := do
  let incident ← orHttp (← perform (.get incidentId)) 404 "incident not found"
  let (incident, graph) ← planRemediation cfg incident
  let _ ← save (withPlan incident graph)
  perform (.audit "remediation_plan_created" [("incident_id", .str incidentId)])
  pure graph

/-- `POST /incidents/{incident_id}/investigate`. -/
def investigateIncident (cfg : Settings) (incidentId : String) : Handler IncidentRecord := do
  let routed ← routeIncident cfg incidentId
  let _ ← createPlan cfg incidentId
  orHttp (← perform (.get routed.incidentId)) 404 "incident not found after investigation"

/-! ## Approval -/

structure ApprovalPayload where
  approver : String
  actionId : String
  approved : Bool
  reason : Option String := none
  ttlSeconds : ℤ := 900
  planStepId : Option String := none
  approvalScope : String := "action"
  expectedIncidentVersion : Option ℤ := none
  deriving Repr, Inhabited

/-- The datetimes from year 1 to year 9999. -/
def inDatetimeRange (t : Time) : Bool :=
  decide (-62135596800000000 ≤ t) && decide (t ≤ 253402300799999999)

/-- The approval a payload asks for, on an incident. -/
def grantFor (incident : IncidentRecord) (payload : ApprovalPayload) (approvalId approvalToken :
    String) (expiresAt createdAt : Time) : ApprovalRecord where
  approvalId := approvalId
  actionId := some payload.actionId
  planStepId := orText payload.planStepId incident.pendingPlanStepId
  approvalScope := payload.approvalScope
  expectedIncidentVersionAtGrant := some (payload.expectedIncidentVersion.getD incident.version)
  approver := payload.approver
  approved := payload.approved
  approvalToken := approvalToken
  expiresAt := expiresAt
  reason := payload.reason
  createdAt := createdAt

/-- The fields `record_approval` sets. -/
def withApproval (incident : IncidentRecord) (record : ApprovalRecord) : IncidentRecord :=
  { incident with
    approvals := incident.approvals ++ [record]
    state := if record.approved then .planned else .waitingApproval }

/-- The payload of `approval_recorded`. -/
def approvalPayload (incidentId : String) (record : ApprovalRecord) : Dict :=
  [("incident_id", .str incidentId), ("approval_id", .str record.approvalId),
    ("action_id", optionText record.actionId), ("plan_step_id", optionText record.planStepId),
    ("approval_scope", .str record.approvalScope),
    ("expected_incident_version_at_grant",
      match record.expectedIncidentVersionAtGrant with
      | some v => .num v
      | none => .null),
    ("approved", .bool record.approved)]

/-- `POST /incidents/{incident_id}/approvals`. -/
def recordApproval (incidentId : String) (payload : ApprovalPayload) : Handler ApprovalRecord := do
  let incident ← orHttp (← perform (.get incidentId)) 404 "incident not found"
  ensure (incident.state == .waitingApproval) 409 "incident is not waiting for approval"
  ensure incident.pendingActionGraph.isSome 409 "no pending action graph for approval"
  let idHex ← perform .uuid4
  let tokenHex ← perform .uuid4
  let now ← perform .utcnow
  let expiresAt := now + payload.ttlSeconds * 1000000
  require (inDatetimeRange expiresAt) .overflow
  let createdAt ← perform .utcnow
  let record := grantFor incident payload ("apr_" ++ hexPrefix 10 idHex) ("token_" ++ tokenHex)
    expiresAt createdAt
  let _ ← save (withApproval incident record)
  perform (.audit "approval_recorded" (approvalPayload incidentId record))
  pure record

structure IncidentApprovalPayload where
  approver : String
  approved : Bool := true
  reason : Option String := none
  ttlSeconds : ℤ := 900
  actionId : Option String := none
  planStepId : Option String := none
  deriving Repr, Inhabited

/-- `POST /incidents/{incident_id}/approve`. -/
def approveIncident (incidentId : String) (payload : IncidentApprovalPayload) :
    Handler ApprovalRecord := do
  let incident ← orHttp (← perform (.get incidentId)) 404 "incident not found"
  let actionId ← orHttp (orText payload.actionId incident.pendingApprovalActionId) 409
    "incident has no pending action to approve"
  recordApproval incidentId
    { approver := payload.approver
      actionId
      approved := payload.approved
      reason := payload.reason
      ttlSeconds := payload.ttlSeconds
      planStepId := orText payload.planStepId incident.pendingPlanStepId
      expectedIncidentVersion := some incident.version }

/-! ## Execution -/

structure ExecutePayload where
  action : ActionRequest
  autonomous : Bool := false
  approvalId : Option String := none
  approvalToken : Option String := none
  expectedIncidentVersion : Option ℤ := none
  deriving Repr, Inhabited

/-- `_effective_execute_dry_run`. -/
def effectiveExecuteDryRun (cfg : Settings) (action : ActionRequest) (autonomous : Bool) : Bool :=
  if cfg.executionMode == "aws" && cfg.executeActionDryRun then true
  else if autonomous && !cfg.autonomyKillSwitch then false
  else action.dryRun

/-- The action `execute_action` runs. -/
def runAction (cfg : Settings) (payload : ExecutePayload) : ActionRequest :=
  { payload.action with
    dryRun := effectiveExecuteDryRun cfg payload.action payload.autonomous }

/-- The blocked action type is recorded on the incident. -/
def withBlocked (incident : IncidentRecord) (actionType : ActionType) : IncidentRecord :=
  if actionType ∈ incident.blockedActions then incident
  else { incident with blockedActions := incident.blockedActions ++ [actionType] }

/-- The policy decision on a request. -/
def decisionOn (cfg : Settings) (incident : IncidentRecord) (plan : ResponsePlan)
    (payload : ExecutePayload) (decisionId : String) (evaluatedAt : Time) : PolicyDecision :=
  let context : PolicyContext :=
    { plannerConfidence := some incident.lastPlannerConfidence
      blastRadius := some (match incident.pendingActionGraph with
        | some graph => graph.blastRadius
        | none => "single service")
      severity := some incident.metadata.severity
      evidenceCoverage := some incident.evidenceCoverageScore }
  evaluate cfg.text cfg.documents cfg.autonomyKillSwitch plan payload.action payload.autonomous
    context decisionId evaluatedAt

/-- The call of the policy engine. -/
def policyDecision (cfg : Settings) (incident : IncidentRecord) (plan : ResponsePlan)
    (payload : ExecutePayload) : Handler PolicyDecision := do
  let hex ← perform .uuid4
  let evaluatedAt ← perform .utcnow
  pure (decisionOn cfg incident plan payload ("pd_" ++ hexPrefix 10 hex) evaluatedAt)

/-- Whether a recorded approval is one for the action: an empty id is one for every action. -/
def approvalMatchesAction (approval : ApprovalRecord) (action : ActionRequest) : Bool :=
  match orText approval.actionId none with
  | some actionId => actionId == action.actionId
  | none => true

/-- Whether a recorded approval is one for the pending plan step. -/
def approvalMatchesStep (approval : ApprovalRecord) (incident : IncidentRecord) : Bool :=
  match orText approval.planStepId none, orText incident.pendingPlanStepId none with
  | some step, some pending => step == pending
  | _, _ => true

/-- The approval checks of `execute_action`, returning the approval that passed them. -/
def checkApproval (incident : IncidentRecord) (payload : ExecutePayload) :
    Handler ApprovalRecord := do
  let approvalId ← orHttp payload.approvalId 412 "approval is required before execution"
  let approval ← orHttp
    ((incident.approvals.find? fun item ↦ item.approvalId == approvalId).filter
      ApprovalRecord.approved) 412 "approval record missing or denied"
  ensure (payload.approvalToken == some approval.approvalToken) 412
    "approval token is missing or invalid"
  let now ← perform .utcnow
  ensure (decide (now ≤ approval.expiresAt)) 412 "approval has expired"
  let granted ← orHttp approval.expectedIncidentVersionAtGrant 412 "approval version is missing"
  ensure (decide (incident.version ≤ granted + 1)) 409
    "approval was granted for a stale incident version"
  ensure (approvalMatchesAction approval payload.action) 412 "approval does not match action"
  ensure (approvalMatchesStep approval incident) 412 "approval does not match plan step"
  pure approval

/-- Whether an investigate-only decision blocks the execution. -/
def investigateOnlyBlock (cfg : Settings) (incident : IncidentRecord) : Option RouterDecision :=
  incident.latestRouterDecision.filter fun decision ↦
    decision.investigateOnly && incident.pendingActionGraph.isNone &&
      cfg.blockExecuteWhenInvestigateOnly

/-- Refuse the execution of an investigate-only incident. -/
def blockInvestigateOnly (cfg : Settings) (incidentId : String) (incident : IncidentRecord)
    (payload : ExecutePayload) : Handler Unit :=
  match investigateOnlyBlock cfg incident with
  | none => pure ()
  | some decision => do
    perform (.audit "action_blocked"
      [("incident_id", .str incidentId), ("action_id", .str payload.action.actionId),
        ("reason", .str "investigate_only"), ("decision_id", .str decision.decisionId)])
    let _ ← save (withBlocked incident payload.action.actionType)
    .raise (.http 403 "execution blocked: investigate_only mode")

/-- Refuse an action the policy denies. -/
def blockDenied (incidentId : String) (incident : IncidentRecord) (payload : ExecutePayload)
    (decision : PolicyDecision) : Handler Unit :=
  if decision.allowed then pure ()
  else do
    let _ ← save (withBlocked incident payload.action.actionType)
    perform (.audit "action_blocked"
      [("incident_id", .str incidentId), ("action_id", .str payload.action.actionId),
        ("reason", .str decision.reason), ("decision_id", .str decision.decisionId),
        ("policy_rule_id", optionText decision.ruleId),
        ("deny_reason_code", optionText decision.denyReasonCode)])
    .raise (.http 403 decision.reason)

/-- Whether the request needs an approval. -/
def needsApproval (payload : ExecutePayload) (decision : PolicyDecision) : Bool :=
  decision.requiresApproval && !payload.autonomous

theorem needsApproval_decisionOn (cfg : Settings) (r : IncidentRecord) (plan : ResponsePlan)
    (payload : ExecutePayload) (decisionId decisionId' : String) (t t' : Time) :
    needsApproval payload (decisionOn cfg r plan payload decisionId t)
      = needsApproval payload (decisionOn cfg r plan payload decisionId' t') := by
  unfold needsApproval decisionOn evaluate
  dsimp only
  split <;> rfl

/-- Check and accept the approval of a request that needs one. -/
def acceptApproval (incident : IncidentRecord) (payload : ExecutePayload)
    (decision : PolicyDecision) : Handler Unit :=
  if needsApproval payload decision then do
    let approval ← checkApproval incident payload
    perform (.accepted incident approval payload.action)
  else pure ()

/-- An execution that was let through. -/
structure Authorized where
  incident : IncidentRecord
  plan : ResponsePlan
  decision : PolicyDecision

/-- `execute_action`, up to the point where the action is let through. -/
def authorize (cfg : Settings) (incidentId : String) (payload : ExecutePayload) :
    Handler Authorized := do
  let incident ← orHttp (← perform (.get incidentId)) 404 "incident or response plan not found"
  let plan ← orHttp incident.responsePlan 404 "incident or response plan not found"
  ensure (payload.expectedIncidentVersion.all (· == incident.version)) 409 "stale incident version"
  blockInvestigateOnly cfg incidentId incident payload
  ensure (!(payload.autonomous && cfg.autonomyKillSwitch)) 423
    "autonomous mode is disabled by kill switch"
  let decision ← policyDecision cfg incident plan payload
  blockDenied incidentId incident payload decision
  acceptApproval incident payload decision
  pure { incident, plan, decision }

/-- `_verify_action_recovery`. -/
def verifyActionRecovery (cfg : Settings) (action : ActionRequest) :
    Handler (Bool × String × Dict) :=
  if action.dryRun then pure (true, "dry_run_verify_no_state_change", [("dry_run", .bool true)])
  else if cfg.executionMode == "local" &&
      (action.target == "checkout-service" || action.target == "checkout/api") then do
    let (recovered, metrics) ← orRaise (← perform .verifyRecovery)
    pure (recovered,
      if recovered then "checkout recovery verified from business metrics"
      else "checkout recovery verification failed", metrics)
  else pure (false, "no verification adapter configured for executed action", [])

/-- What `performAction` leaves to be recorded. -/
structure Performed where
  incident : IncidentRecord
  result : ActionResult
  verified : Bool

/-- Verify the action and log it, or take the result for the verification. -/
def verifyPerformed (cfg : Settings) (incidentId : String) (action : ActionRequest)
    (incident : IncidentRecord) (result : ActionResult) : Handler Performed :=
  if cfg.executePostVerifyEnabled then do
    let (verified, message, details) ← verifyActionRecovery cfg action
    let entry ← newTraceEntry "verify" message (some action.actionId) (some verified) false
    let incident := incident.withTrace entry
    assign incident
    perform (.audit "post_action_verification"
      [("incident_id", .str incidentId), ("action_id", .str action.actionId),
        ("success", .bool verified), ("message", .str message), ("details", .dict details)])
    pure { incident, result, verified }
  else pure { incident, result, verified := result.success }

/-- `execute_action`, from the run of the action to its verification. -/
def performAction (cfg : Settings) (incidentId : String) (action : ActionRequest)
    (incident : IncidentRecord) : Handler Performed := do
  let entry ← newTraceEntry "act" "execute_start" (some action.actionId) none false
  let incident := { incident with state := .executing }.withTrace entry
  assign incident
  let result ← executionAgentRun action
  let entry ← newTraceEntry "observe" result.statusMessage (some action.actionId)
    (some result.success) (!result.success)
  let incident :=
    { incident with executedActions := incident.executedActions ++ [result] }.withTrace entry
  assign incident
  verifyPerformed cfg incidentId action incident result

/-- The fields `execute_action` sets last. -/
def withOutcome (incident : IncidentRecord) (dryRun success verified : Bool) : IncidentRecord :=
  { incident with
    state := if success && verified then .resolved else .investigating
    finalResolution :=
      if success && verified && !dryRun then
        some "Checkout service recovered after approved rollback and verification."
      else if success && dryRun then
        some "Dry-run completed; incident remains open until a verified execution runs."
      else incident.finalResolution }

/-- The payload of `action_executed`. -/
def executedPayload (incidentId : String) (payload : ExecutePayload) (decision : PolicyDecision)
    (success : Bool) : Dict :=
  [("incident_id", .str incidentId), ("action_id", .str payload.action.actionId),
    ("success", .bool success), ("autonomous", .bool payload.autonomous),
    ("policy_decision_id", .str decision.decisionId),
    ("policy_rule_id", optionText decision.ruleId)]

/-- The event that follows a failed action of a plan that is not read-only. -/
def escalate (incidentId : String) (payload : ExecutePayload) (g : Authorized) (success : Bool) :
    Handler Unit :=
  if !success && g.plan.policyClass != .readOnly then
    perform (.audit "execution_escalation_triggered"
      [("incident_id", .str incidentId), ("action_id", .str payload.action.actionId),
        ("decision_id", .str g.decision.decisionId)])
  else pure ()

/-- The end of `execute_action`. -/
def recordOutcome (incidentId : String) (payload : ExecutePayload) (g : Authorized)
    (dryRun : Bool) (o : Performed) : Handler (PolicyDecision × ActionResult) := do
  let _ ← save (withOutcome o.incident dryRun o.result.success o.verified)
  perform (.audit "action_executed"
    (executedPayload incidentId payload g.decision o.result.success))
  escalate incidentId payload g o.result.success
  pure (g.decision, o.result)

/-- `POST /execute/{incident_id}`. -/
def executeAction (cfg : Settings) (incidentId : String) (payload : ExecutePayload) :
    Handler (PolicyDecision × ActionResult) := do
  let g ← authorize cfg incidentId payload
  let action := runAction cfg payload
  let o ← performAction cfg incidentId action g.incident
  recordOutcome incidentId payload g action.dryRun o

structure IncidentExecutePayload where
  actionId : Option String := none
  approvalId : Option String := none
  approvalToken : Option String := none
  autonomous : Bool := false
  dryRun : Option Bool := none
  deriving Repr, Inhabited

/-- The latest approval of an action. -/
def latestApproval (incident : IncidentRecord) (actionId : String) : Option ApprovalRecord :=
  incident.approvals.reverse.find? fun item ↦ item.approved && item.actionId == some actionId

/-- The pending action a request names, the first one if it names none. -/
def pendingAction (graph : ActionGraph) (actionId : Option String) : Option ActionRequest :=
  graph.actions.find? fun item ↦ actionId.all (· == item.actionId)

/-- The request `execute_incident` passes on. -/
def forwardedPayload (incident : IncidentRecord) (payload : IncidentExecutePayload)
    (action : ActionRequest) : ExecutePayload :=
  let approval :=
    if payload.approvalId.isNone then latestApproval incident action.actionId else none
  { action := { action with dryRun := payload.dryRun.getD action.dryRun }
    autonomous := payload.autonomous
    approvalId := match approval with
      | some approval => some approval.approvalId
      | none => payload.approvalId
    approvalToken := match approval with
      | some approval => some approval.approvalToken
      | none => payload.approvalToken
    expectedIncidentVersion := some incident.version }

/-- `POST /incidents/{incident_id}/execute`. -/
def executeIncident (cfg : Settings) (incidentId : String) (payload : IncidentExecutePayload) :
    Handler (PolicyDecision × ActionResult) := do
  let incident ← orHttp (← perform (.get incidentId)) 404 "incident not found"
  let graph ← orHttp (incident.pendingActionGraph.filter fun graph ↦ !graph.actions.isEmpty) 409
    "incident has no pending action graph"
  let action ← orHttp (pendingAction graph payload.actionId) 404 "pending action not found"
  executeAction cfg incidentId (forwardedPayload incident payload action)

/-! ## Calls -/

/-- A request to the platform, or a job of its worker. -/
inductive Call where
  | ingest (payload : IngestPayload)
  | createAlert (payload : IngestPayload) (requestId : String)
  | routeIncident (incidentId : String)
  | processIncident (incidentId : String)
  | createPlan (incidentId : String)
  | investigateIncident (incidentId : String)
  | recordApproval (incidentId : String) (payload : ApprovalPayload)
  | approveIncident (incidentId : String) (payload : IncidentApprovalPayload)
  | executeAction (incidentId : String) (payload : ExecutePayload)
  | executeIncident (incidentId : String) (payload : IncidentExecutePayload)

/-- The handler of a call. -/
def Call.handler (cfg : Settings) : Call → Handler Unit
  | ingest payload => discard (IncidentPlatform.ingest cfg payload)
  | createAlert payload requestId => discard (IncidentPlatform.createAlert cfg payload requestId)
  | routeIncident incidentId => discard (IncidentPlatform.routeIncident cfg incidentId)
  | processIncident incidentId => IncidentPlatform.processIncident cfg incidentId
  | createPlan incidentId => discard (IncidentPlatform.createPlan cfg incidentId)
  | investigateIncident incidentId => discard (IncidentPlatform.investigateIncident cfg incidentId)
  | recordApproval incidentId payload =>
    discard (IncidentPlatform.recordApproval incidentId payload)
  | approveIncident incidentId payload =>
    discard (IncidentPlatform.approveIncident incidentId payload)
  | executeAction incidentId payload =>
    discard (IncidentPlatform.executeAction cfg incidentId payload)
  | executeIncident incidentId payload =>
    discard (IncidentPlatform.executeIncident cfg incidentId payload)

end IncidentPlatform
