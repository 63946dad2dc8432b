import IncidentPlatform.Agents.Investigation

/-!
# The hybrid router

`apps/api/routers/router/hybrid_router.py`: the deterministic next step, which the language model
may override, and the restriction of its allowed actions to those of the response plan.
-/

namespace IncidentPlatform

open Interaction

/-- `str(d.get(key, default))`. -/
def textAt (t : Text) (d : Dict) (key default : String) : String :=
  ((Dict.get? d key).getD (.str default)).toStr t

/-- The tool and the reason an intent stands for. -/
def intentTool : String → Option (ActionType × String)
  | "metrics" => some (.queryMetrics, "metrics_intent")
  | "logs" => some (.queryLogs, "logs_intent")
  | "recent_changes" => some (.getRecentDeployments, "deployments_intent")
  | "topology" => some (.getTopology, "topology_intent")
  | _ => none

/-- `_tool_plan_from_intents`. -/
def toolPlanFromIntents (incident : IncidentRecord) (intents : List String) : Handler ToolPlan := do
  let hex ← perform .uuid4
  let createdAt ← perform .utcnow
  pure
    { planId := "tp_" ++ hexPrefix 10 hex
      createdAt
      items := (intents.filterMap intentTool).map fun (tool, reason) ↦
        { tool, reason
          target := incident.metadata.resource
          parameters := [("service", .str incident.metadata.service)] } }

/-- The next workflow, the stop reason and the rule ids of `_deterministic_next_step`. -/
def deterministicStep (t : Text) (incident : IncidentRecord) (plan : ResponsePlan) :
    String × Option String × List String :=
  let triage := (extractTriageDict incident.hypotheses).getD []
  let incidentType := t.lower (textAt t triage "incident_type" "")
  let priority := t.lower (textAt t triage "priority" "p2")
  if incident.hypotheses.isEmpty then ("triage", none, ["deterministic_base"])
  else if incident.evidence.isEmpty then ("evidence", none, ["deterministic_base"])
  else if !incident.evidence.any (fun e ↦ e.source == "change-correlation") then
    ("change", none, ["deterministic_base"])
  else if !incident.hypotheses.any
      (fun h ↦ Dict.hasKey h "hypothesis" || Dict.hasKey h "confidence") then
    ("rca", none, ["deterministic_base"])
  else if plan.policyClass == .readOnly || priority == "p3" then
    ("stop", some "investigate_only_or_read_only", ["deterministic_base", "read_only_investigate"])
  else if incidentType == "performance" && (priority == "p1" || priority == "p2") then
    ("planner", none, ["deterministic_base", "performance_escalate_plan"])
  else ("stop", some "baseline_complete", ["deterministic_base"])

/-- `_deterministic_next_step`. -/
def deterministicNextStep (cfg : Settings) (incident : IncidentRecord) (plan : ResponsePlan) :
    Handler RouterDecision := do
  let (nextWorkflow, stopReason, ruleIdsApplied) := deterministicStep cfg.text incident plan
  let intents := normalizeEvidenceIntents cfg.text
    (stringsAt cfg.text (extractTriageDict incident.hypotheses) "next_required_evidence")
  let toolPlan ← toolPlanFromIntents incident intents
  let hex ← perform .uuid4
  let createdAt ← perform .utcnow
  pure
    { decisionId := "rd_" ++ hexPrefix 10 hex
      nextWorkflow
      allowedActions := plan.allowedActions
      stopReason
      decisionConfidence := if nextWorkflow != "stop" then 92 / 100 else 3 / 4
      ruleIdsApplied
      investigateOnly := plan.policyClass == .readOnly &&
        stopReason == some "investigate_only_or_read_only"
      toolPlan := some toolPlan
      createdAt }

/-- `a or b` of two optional strings. -/
def orText : Option String → Option String → Option String
  | some a, b => if a.isEmpty then b else some a
  | none, b => b

/-- `compute_router_decision`. -/
def computeRouterDecision (cfg : Settings) (incident : IncidentRecord) (plan : ResponsePlan) :
    Handler RouterDecision := do
  let decision ← deterministicNextStep cfg incident plan
  if cfg.routerLlmEnabled && cfg.agenticEnabled then do
    match ← perform (.routerLLM incident decision.nextWorkflow) with
    | .ok out =>
      pure
        { decision with
          nextWorkflow :=
            if out.nextWorkflow.isEmpty then decision.nextWorkflow else out.nextWorkflow
          investigateOnly := out.investigateOnly
          decisionConfidence := out.decisionConfidence
          stopReason := orText out.stopReason decision.stopReason
          ruleIdsApplied := decision.ruleIdsApplied ++ ["llm_router"] }
    | .error f => if f.isAgentFallback then pure decision else .raise (.fault f)
  else pure decision

/-- `merge_router_allowed_with_plan`. -/
def mergeRouterAllowedWithPlan (decision : RouterDecision) (plan : ResponsePlan) :
    RouterDecision :=
  let filtered := decision.allowedActions.filter fun a ↦ a ∈ plan.allowedActions
  { decision with allowedActions := if filtered.isEmpty then plan.allowedActions else filtered }

end IncidentPlatform
