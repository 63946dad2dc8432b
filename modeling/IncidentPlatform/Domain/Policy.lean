import IncidentPlatform.Domain.Models

/-!
# Response plans and the policy engine

`matchResponsePlan` is `src/workflows/response_plans.py`, the rest is
`src/domain/policies/engine.py` with the documents under `policies/demo`.

The two policy documents are YAML values and are read as the code reads them, with `dict.get` and
`isinstance` tests. Entries of a list that have another type than the one the code compares with
are never matched. The engine's answer carries a fresh id and a timestamp, which the caller
supplies here; nothing in the engine looks at them.
-/

namespace IncidentPlatform

/-! ## Response plans -/

def matchResponsePlan (t : Text) (severity symptom : String) : ResponsePlan :=
  let symptomLower := t.lower symptom
  if isIn "checkout" symptomLower && (isIn "deployment" symptomLower || isIn "error" symptomLower)
  then
    { planId := "checkout-deployment-regression-v1"
      workflowFamily := "checkout-resilience"
      policyClass := .reviewRequired
      allowedActions :=
        [.queryMetrics, .queryLogs, .getRecentDeployments, .getTopology, .rollbackDeployment]
      deniedActions := [.runShell, .drainNode]
      maxRetries := 1 }
  else if (severity == "sev1" || severity == "sev2") &&
      (isIn "cpu" symptomLower || isIn "error" symptomLower) then
    { planId := "compute-performance-v1"
      workflowFamily := "compute-performance"
      policyClass := .reviewRequired
      allowedActions :=
        [.queryMetrics, .queryLogs, .getRecentDeployments, .restartService, .scaleWorkload,
          .rollbackDeployment]
      deniedActions := [.runShell]
      maxRetries := 2 }
  else
    { planId := "generic-observability-v1"
      workflowFamily := "generic-observability"
      policyClass := .readOnly
      allowedActions :=
        [.queryMetrics, .queryLogs, .getRecentDeployments, .openTicket, .pageHuman]
      deniedActions := [.runShell, .rollbackDeployment]
      maxRetries := 1 }

/-- Every plan allows something, nothing it denies, and none of the three actions that no plan is
made for. -/
theorem matchResponsePlan_allowed (t : Text) (severity symptom : String) :
    (matchResponsePlan t severity symptom).allowedActions ≠ [] ∧
      ∀ a ∈ (matchResponsePlan t severity symptom).allowedActions,
        a ∉ (matchResponsePlan t severity symptom).deniedActions ∧
          a ∉ [ActionType.drainNode, .runAnsibleJob, .runShell] := by
  unfold matchResponsePlan
  dsimp only
  split_ifs <;> decide

/-! ## The engine -/

/-- The two documents `PolicyEngine.__init__` loads, `{}` for a missing or empty file. -/
structure PolicyDocuments where
  execution : Value
  approval : Value
  deriving Repr, Inhabited

/-- The keyword arguments of `evaluate`. -/
structure PolicyContext where
  plannerConfidence : Option ℚ := none
  blastRadius : Option String := none
  severity : Option String := none
  evidenceCoverage : Option ℚ := none
  deriving Repr, Inhabited

/-- The elements of `value` when it is a list, `[]` for anything else. -/
def Value.elements : Option Value → List Value
  | some (.list vs) => vs
  | _ => []

/-- The strings of a YAML list. -/
def Value.strings (v : Option Value) : List String :=
  (Value.elements v).filterMap fun
    | .str s => some s
    | _ => none

/-- `_action_in_rule`, on the `str` of every entry. -/
def actionInRule (t : Text) (action : ActionRequest) (values : List Value) : Bool :=
  values.any fun v ↦ t.strip (v.toStr t) == action.actionType.value

/-- `_target_allowed`: no patterns means every target. -/
def targetAllowed (target : String) (patterns : Option Value) : Bool :=
  (Value.elements patterns).isEmpty || (Value.strings patterns).any (fnmatch target)

/-- `_when_matches`. A condition on an absent confidence or blast radius does not match; a
severity condition is skipped when the severity is absent. -/
def whenMatches (t : Text) (condition : Value) (action : ActionRequest) (ctx : PolicyContext) :
    Bool :=
  let actionTypes := Value.elements (condition.get? "actionTypeIn")
  let actionOk := actionTypes.isEmpty || actionInRule t action actionTypes
  let confidenceOk := match condition.get? "confidenceMin", ctx.plannerConfidence with
    | none, _ => true
    | some .null, _ => true
    | some confMin, some confidence =>
      match confMin.toFloat t with
      | some bound => decide (bound ≤ confidence)
      | none => false
    | some _, none => false
  let blastOk := match condition.get? "blastRadius", ctx.blastRadius with
    | none, _ => true
    | some .null, _ => true
    | some br, some blastRadius =>
      t.lower (t.strip (br.toStr t)) == t.lower (t.strip blastRadius)
    | some _, none => false
  let severities := Value.elements (condition.get? "severityIn")
  let severityOk := match ctx.severity with
    | some severity => severities.isEmpty || severities.any fun v ↦ v.toStr t == severity
    | none => true
  actionOk && confidenceOk && blastOk && severityOk

/-- The action types a read-only plan may not run. -/
def writeActions : List ActionType :=
  [.restartService, .scaleWorkload, .rollbackDeployment, .drainNode, .runAnsibleJob, .runShell]

/-- The first rule that is a dictionary with a dictionary under `when` that matches. -/
def firstMatch (t : Text) (action : ActionRequest) (ctx : PolicyContext) :
    List Value → Option Dict
  | [] => none
  | .dict rule :: rules =>
    match (Dict.get? rule "when").getD (.dict []) with
    | .dict condition =>
      if whenMatches t (.dict condition) action ctx then some rule
      else firstMatch t action ctx rules
    | _ => firstMatch t action ctx rules
  | _ :: rules => firstMatch t action ctx rules

/-- The reason and the code of the first stage of `evaluate` that denies, if one does. -/
def denial (t : Text) (docs : PolicyDocuments) (killSwitch : Bool) (plan : ResponsePlan)
    (action : ActionRequest) (autonomous : Bool) (ctx : PolicyContext) :
    Option (String × String) :=
  let executionAllowed := Value.elements (docs.execution.get? "allowedActions")
  if autonomous && killSwitch then
    some ("Autonomous mode blocked by kill switch", "kill_switch")
  else if action.actionType ∈ plan.deniedActions then
    some ("Action is denied by response plan", "plan_denied_action")
  else if !plan.allowedActions.isEmpty && action.actionType ∉ plan.allowedActions then
    some ("Action is outside plan allowlist", "outside_plan_allowlist")
  else if !executionAllowed.isEmpty &&
      action.actionType.value ∉ Value.strings (docs.execution.get? "allowedActions") then
    some ("Action blocked by execution policy allowlist", "execution_allowlist")
  else if action.actionType.value ∈ Value.strings (docs.execution.get? "deniedActions") then
    some ("Action blocked by execution policy denylist", "execution_denylist")
  else if !targetAllowed action.target (docs.execution.get? "allowedTargetPatterns") then
    some ("Target blocked by execution policy allowlist", "target_blocked")
  else if plan.policyClass == .readOnly && action.actionType ∈ writeActions then
    some ("Read-only workflow cannot invoke write actions", "read_only_write")
  else
    match docs.approval.get? "minEvidenceCoverage", ctx.evidenceCoverage with
    | some covMin, some coverage =>
      match covMin with
      | .null => none
      | covMin =>
        match covMin.toFloat t with
        | some bound =>
          if coverage < bound then
            some ("Evidence coverage below policy threshold", "low_evidence_coverage")
          else none
        | none => none
    | _, _ => none

/-- `PolicyEngine.evaluate`. -/
def evaluate (t : Text) (docs : PolicyDocuments) (killSwitch : Bool) (plan : ResponsePlan)
    (action : ActionRequest) (autonomous : Bool) (ctx : PolicyContext) (decisionId : String)
    (evaluatedAt : Time) : PolicyDecision :=
  let policyVersion := ((docs.execution.get? "policyVersion").getD (.str "v1")).toStr t
  match denial t docs killSwitch plan action autonomous ctx with
  | some (reason, code) =>
    { decisionId, evaluatedAt, policyVersion
      allowed := false
      policyClass := plan.policyClass
      reason
      requiresApproval := false
      denyReasonCode := some code }
  | none =>
    let rule := firstMatch t action ctx (Value.elements (docs.approval.get? "rules"))
    let byClass := plan.policyClass != .readOnly
    let byRule := match rule with
      | some rule => ((Dict.get? rule "requireApproval").map Value.truthy).getD byClass
      | none => byClass
    let ruleId := match rule with
      | some rule =>
        let name := ((Dict.get? rule "name").getD (.str "")).toStr t
        if name.isEmpty then none else some name
      | none => none
    -- autonomy overrides whichever rule matched
    let requiresApproval :=
      if autonomous && (plan.policyClass == .privileged || plan.policyClass == .reviewRequired)
      then false else byRule
    { decisionId, evaluatedAt, policyVersion
      allowed := true
      policyClass := plan.policyClass
      reason := "Allowed by plan and policy class"
      requiresApproval
      ruleId
      requiresApprovalScope := if requiresApproval then "action" else "none" }

/-- What the stages of `evaluate` have checked of an action that none of them denies. -/
structure Permitted (docs : PolicyDocuments) (plan : ResponsePlan) (action : ActionRequest) :
    Prop where
  planDenied : action.actionType ∉ plan.deniedActions
  planAllowed : plan.allowedActions = [] ∨ action.actionType ∈ plan.allowedActions
  executionAllowed : Value.elements (docs.execution.get? "allowedActions") = [] ∨
    action.actionType.value ∈ Value.strings (docs.execution.get? "allowedActions")
  executionDenied : action.actionType.value ∉ Value.strings (docs.execution.get? "deniedActions")
  target : targetAllowed action.target (docs.execution.get? "allowedTargetPatterns") = true
  readOnly : plan.policyClass = .readOnly → action.actionType ∉ writeActions

/-- A stage that would deny is passed, and so are the ones after it. -/
theorem ite_some_eq_none {α : Type} {c : Prop} [Decidable c] {a : α} {x : Option α} :
    (if c then some a else x) = none ↔ ¬ c ∧ x = none := by
  by_cases hc : c
  · rw [if_pos hc]
    exact iff_of_false (Option.some_ne_none a) fun h ↦ h.1 hc
  · rw [if_neg hc, and_iff_right hc]

theorem permitted_of_denial {t : Text} {docs : PolicyDocuments} {killSwitch : Bool}
    {plan : ResponsePlan} {action : ActionRequest} {autonomous : Bool} {ctx : PolicyContext}
    (h : denial t docs killSwitch plan action autonomous ctx = none) :
    Permitted docs plan action := by
  rw [denial, ite_some_eq_none, ite_some_eq_none, ite_some_eq_none, ite_some_eq_none,
    ite_some_eq_none, ite_some_eq_none, ite_some_eq_none] at h
  obtain ⟨-, hplan, hallowed, hexecution, hdenied, htarget, hreadOnly, -⟩ := h
  refine ⟨hplan, ?_, ?_, hdenied, by simpa using htarget, fun hclass hwrite ↦ ?_⟩
  · by_contra hneither
    obtain ⟨hnonempty, houtside⟩ := not_or.mp hneither
    exact hallowed (by simp [hnonempty, houtside])
  · by_contra hneither
    obtain ⟨hnonempty, houtside⟩ := not_or.mp hneither
    exact hexecution (by simp [hnonempty, houtside])
  · exact hreadOnly (by simp [hclass, hwrite])

/-- The kill switch denies before anything else does. -/
theorem not_switched_of_denial {t : Text} {docs : PolicyDocuments} {killSwitch : Bool}
    {plan : ResponsePlan} {action : ActionRequest} {autonomous : Bool} {ctx : PolicyContext}
    (h : denial t docs killSwitch plan action autonomous ctx = none) :
    (autonomous && killSwitch) = false := by
  rw [denial, ite_some_eq_none, Bool.not_eq_true] at h
  exact h.1

/-- An action is allowed exactly if no stage denies it. -/
theorem evaluate_allowed_iff (t : Text) (docs : PolicyDocuments) (killSwitch : Bool)
    (plan : ResponsePlan) (action : ActionRequest) (autonomous : Bool) (ctx : PolicyContext)
    (decisionId : String) (evaluatedAt : Time) :
    (evaluate t docs killSwitch plan action autonomous ctx decisionId evaluatedAt).allowed = true ↔
      denial t docs killSwitch plan action autonomous ctx = none := by
  rw [evaluate]
  rcases denial t docs killSwitch plan action autonomous ctx with _ | ⟨reason, code⟩
  · simp
  · simp

/-! ## The shipped demo documents -/

/-- `policies/demo/execution/default-policy.yaml`. -/
def demoExecutionPolicy : Value :=
  .dict
    [("policyVersion", .str "v1"),
      ("defaultMode", .str "review_required"),
      ("autonomousEnabled", .bool false),
      ("killSwitch", .bool true),
      ("allowedActions", .list (["QueryMetrics", "QueryLogs", "GetRecentDeployments",
        "GetTopology", "RestartService", "ScaleWorkload", "RollbackDeployment", "DrainNode",
        "OpenTicket", "PageHuman", "RunAnsibleJob"].map .str)),
      ("deniedActions", .list [.str "RunShell"]),
      ("allowedTargetPatterns", .list (["k8s-*", "arc-*", "k8s/*", "arc/*", "localhost",
        "local/*", "checkout-service", "checkout/*"].map .str)),
      ("maxRetriesByAction", .dict [("RestartService", .num 1), ("ScaleWorkload", .num 1),
        ("RollbackDeployment", .num 1)])]

/-- `policies/demo/approval/rules.yaml`. -/
def demoApprovalPolicy : Value :=
  .dict
    [("policyVersion", .str "v1"),
      ("rules", .list
        [.dict
          [("name", .str "high-risk-writes-require-review"),
            ("when", .dict [("actionTypeIn",
              .list (["RollbackDeployment", "DrainNode", "RunAnsibleJob"].map .str))]),
            ("requireApproval", .bool true)],
          .dict
          [("name", .str "low-risk-autonomy-candidates"),
            ("when", .dict
              [("actionTypeIn", .list (["RestartService", "ScaleWorkload"].map .str)),
                ("confidenceMin", .num (9 / 10)),
                ("blastRadius", .str "single service")]),
            ("requireApproval", .bool false)]])]

/-- The documents of the demo profile. -/
def demoDocuments : PolicyDocuments := ⟨demoExecutionPolicy, demoApprovalPolicy⟩

end IncidentPlatform
