import IncidentPlatform.Domain.Policy
import Mathlib.Tactic.MkIffOfInductiveProp

/-!
# The verdict of the policy engine

Of a policy decision the callers act on three fields: whether the action is allowed, whether it
needs an approval, and the code of the denial. `evaluate_verdict` gives the three as a function of
the inputs of `evaluate`. The stages before the coverage check do not look at the context at all
(`denial_of_refused`), and once they are passed the context is used twice: its coverage can be below
the threshold (`belowCoverage`), and it selects the approval rule (`asksApproval`).
-/

namespace IncidentPlatform

/-- What a caller acts on. -/
structure Verdict where
  allowed : Bool
  requiresApproval : Bool
  denyReasonCode : Option String
  deriving Repr, DecidableEq

def PolicyDecision.verdict (d : PolicyDecision) : Verdict :=
  ⟨d.allowed, d.requiresApproval, d.denyReasonCode⟩

/-- `v.get(key)`, where it is not `None`. -/
def Value.given? (v : Value) (key : String) : Option Value :=
  match v.get? key with
  | none => none
  | some .null => none
  | some value => some value

/-- The bound that `minEvidenceCoverage` sets, if it sets one that `float` reads. -/
def coverageBound (t : Text) (docs : PolicyDocuments) : Option ℚ :=
  (docs.approval.given? "minEvidenceCoverage").bind (Value.toFloat t)

/-- There is a coverage, there is a bound, and the coverage is below it. -/
def belowCoverage (t : Text) (docs : PolicyDocuments) (ctx : PolicyContext) : Bool :=
  (coverageBound t docs).any fun bound ↦ ctx.evidenceCoverage.any fun coverage ↦
    decide (coverage < bound)

/-- A rule that `evaluate` does not skip: a dictionary, with a dictionary under `when`. -/
structure ApprovalRule where
  rule : Dict
  condition : Value
  deriving Repr, Inhabited

def ApprovalRule.of? : Value → Option ApprovalRule
  | .dict rule =>
    match (Dict.get? rule "when").getD (.dict []) with
    | .dict condition => some ⟨rule, .dict condition⟩
    | _ => none
  | _ => none

/-- What a rule says about approval, by default what the class of the plan says. -/
def ApprovalRule.approval (byClass : Bool) (r : ApprovalRule) : Bool :=
  ((Dict.get? r.rule "requireApproval").map Value.truthy).getD byClass

/-- The rules of the approval policy, none if `rules` is no list. -/
def PolicyDocuments.approvalRules (docs : PolicyDocuments) : List ApprovalRule :=
  (Value.elements (docs.approval.get? "rules")).filterMap ApprovalRule.of?

/-- What the first rule of a kind says about approval. -/
def firstApproval (byClass : Bool) (rules : List ApprovalRule) (p : ApprovalRule → Bool) : Bool :=
  ((rules.find? p).map (ApprovalRule.approval byClass)).getD byClass

/-- Approval is asked for, autonomy aside. -/
def asksApproval (t : Text) (docs : PolicyDocuments) (plan : ResponsePlan) (action : ActionRequest)
    (ctx : PolicyContext) : Bool :=
  firstApproval (plan.policyClass != .readOnly) docs.approvalRules fun r ↦
    whenMatches t r.condition action ctx

/-- Autonomy waives the approval on every plan that is not read-only. -/
def waivesApproval (plan : ResponsePlan) (autonomous : Bool) : Bool :=
  autonomous && plan.policyClass != .readOnly

section

variable {t : Text} {docs : PolicyDocuments} {killSwitch : Bool} {plan : ResponsePlan}
  {action : ActionRequest} {autonomous : Bool}

/-! ## The stages -/

/-- The comparison with a bound, if there is one. -/
theorem coverage_below (coverage : ℚ) (bound : Option ℚ) :
    (match bound with
      | some bound =>
        if coverage < bound then
          some ("Evidence coverage below policy threshold", "low_evidence_coverage")
        else none
      | none => none) =
    bif bound.any fun bound ↦ decide (coverage < bound)
    then some ("Evidence coverage below policy threshold", "low_evidence_coverage")
    else none := by
  rcases bound with _ | bound
  · rfl
  · by_cases hlt : coverage < bound <;> simp [hlt]

/-- Past the kill switch and the lists, only the coverage can deny. -/
theorem denial_of_permitted (hswitch : (autonomous && killSwitch) = false)
    (h : Permitted docs plan action) (ctx : PolicyContext) :
    denial t docs killSwitch plan action autonomous ctx =
      bif belowCoverage t docs ctx
      then some ("Evidence coverage below policy threshold", "low_evidence_coverage")
      else none := by
  obtain ⟨hplan, hallowed, hexecution, hdenied, htarget, hreadOnly⟩ := h
  have hallowed' : (!plan.allowedActions.isEmpty &&
      decide (action.actionType ∉ plan.allowedActions)) = false := by
    rcases hallowed with h | h <;> simp [h]
  have hexecution' : (!(Value.elements (docs.execution.get? "allowedActions")).isEmpty &&
      decide (action.actionType.value ∉
        Value.strings (docs.execution.get? "allowedActions"))) = false := by
    rcases hexecution with h | h <;> simp [h]
  have hreadOnly' : (plan.policyClass == .readOnly &&
      decide (action.actionType ∈ writeActions)) = false := by
    rw [Bool.and_eq_false_imp]
    intro h
    exact decide_eq_false (hreadOnly (beq_iff_eq.mp h))
  rw [denial]
  -- The seven stages before the coverage check pass, in the order of the source.
  rw [hswitch, hallowed', hexecution', htarget, hreadOnly', if_neg Bool.false_ne_true,
    if_neg hplan, if_neg Bool.false_ne_true, if_neg Bool.false_ne_true, if_neg hdenied,
    Bool.not_true, if_neg Bool.false_ne_true, if_neg Bool.false_ne_true, belowCoverage,
    coverageBound, Value.given?]
  rcases docs.approval.get? "minEvidenceCoverage" with _ | covMin
  · rfl
  rcases ctx.evidenceCoverage with _ | coverage
  · simp
  -- A threshold that is null is none, any other one is what `float` makes of it.
  cases covMin with
  | null => rfl
  | bool b => exact coverage_below coverage _
  | num q => exact coverage_below coverage (some q)
  | str s => exact coverage_below coverage _
  | list vs => exact coverage_below coverage _
  | dict kvs => exact coverage_below coverage _

/-- An action is denied exactly by the kill switch, by the lists and by its coverage. -/
theorem denial_eq_none (ctx : PolicyContext) :
    denial t docs killSwitch plan action autonomous ctx = none ↔
      (autonomous && killSwitch) = false ∧ Permitted docs plan action ∧
        belowCoverage t docs ctx = false := by
  constructor
  · intro h
    have hswitch := not_switched_of_denial h
    have hpermitted := permitted_of_denial h
    refine ⟨hswitch, hpermitted, ?_⟩
    rw [denial_of_permitted hswitch hpermitted] at h
    rcases hcoverage : belowCoverage t docs ctx with _ | _
    · rfl
    · rw [hcoverage] at h
      exact nomatch h
  · rintro ⟨hswitch, hpermitted, hcoverage⟩
    rw [denial_of_permitted hswitch hpermitted, hcoverage]
    rfl

/-- A stage that denies ends the cascade, whatever the later stages are. -/
theorem ite_eq_some {α : Type} {c : Prop} [Decidable c] {a x y : Option α} {r : α}
    (hxy : x = some r → y = some r) (h : (if c then a else x) = some r) :
    (if c then a else y) = some r := by
  split_ifs at h ⊢
  · exact h
  · exact hxy h

/-- A denial without context comes before the coverage check, and is made with every context. -/
theorem denial_of_refused {reason : String × String}
    (h : denial t docs killSwitch plan action autonomous {} = some reason) (ctx : PolicyContext) :
    denial t docs killSwitch plan action autonomous ctx = some reason := by
  refine ite_eq_some (ite_eq_some (ite_eq_some (ite_eq_some (ite_eq_some (ite_eq_some
    (ite_eq_some fun hlast ↦ ?_)))))) h
  -- What is left is the coverage check, which passes without a coverage.
  dsimp only at hlast
  revert hlast
  rcases docs.approval.get? "minEvidenceCoverage" with _ | covMin
  · exact fun hlast ↦ nomatch hlast
  · exact fun hlast ↦ nomatch hlast

theorem firstMatch_eq (t : Text) (action : ActionRequest) (ctx : PolicyContext)
    (values : List Value) :
    firstMatch t action ctx values = ((values.filterMap ApprovalRule.of?).find? fun r ↦
      whenMatches t r.condition action ctx).map ApprovalRule.rule := by
  induction values with
  | nil => rfl
  | cons value values ih =>
    cases value with
    | dict rule =>
      rw [firstMatch]
      -- Only a dictionary under `when` is a condition; any other value has the rule skipped.
      rcases hwhen : (Dict.get? rule "when").getD (.dict []) with _ | _ | _ | _ | _ | condition
      case dict =>
        have hrule : ApprovalRule.of? (.dict rule) = some ⟨rule, .dict condition⟩ := by
          rw [ApprovalRule.of?, hwhen]
        rw [List.filterMap_cons_some hrule, List.find?_cons]
        dsimp only
        rcases whenMatches t (.dict condition) action ctx with _ | _
        · exact ih
        · rfl
      all_goals
        have hrule : ApprovalRule.of? (.dict rule) = none := by
          rw [ApprovalRule.of?, hwhen]
        rw [List.filterMap_cons_none hrule]
        exact ih
    | _ => exact ih

/-- **The verdict.** -/
theorem evaluate_verdict (ctx : PolicyContext) (decisionId : String) (evaluatedAt : Time) :
    (evaluate t docs killSwitch plan action autonomous ctx decisionId evaluatedAt).verdict =
      match denial t docs killSwitch plan action autonomous ctx with
      | some (_, code) => ⟨false, false, some code⟩
      | none => ⟨true, asksApproval t docs plan action ctx && !waivesApproval plan autonomous,
          none⟩ := by
  rw [evaluate, PolicyDecision.verdict, asksApproval, firstApproval, waivesApproval]
  rcases denial t docs killSwitch plan action autonomous ctx with _ | ⟨reason, code⟩
  · dsimp only
    rw [firstMatch_eq, PolicyDocuments.approvalRules]
    congr 1
    rcases List.find? _ _ with _ | r
    · cases plan.policyClass <;> cases autonomous <;> rfl
    · cases plan.policyClass <;> cases autonomous <;> simp [ApprovalRule.approval]
  · rfl

variable (ctx : PolicyContext) (decisionId : String) (evaluatedAt : Time)

/-- Allowed, in terms of the inputs. -/
theorem allowed_iff :
    (evaluate t docs killSwitch plan action autonomous ctx decisionId evaluatedAt).allowed = true ↔
      (autonomous && killSwitch) = false ∧ Permitted docs plan action ∧
        belowCoverage t docs ctx = false := by
  rw [evaluate_allowed_iff, denial_eq_none]

/-- Allowed without approval, in terms of the inputs. -/
theorem free_iff :
    let d := evaluate t docs killSwitch plan action autonomous ctx decisionId evaluatedAt
    d.allowed = true ∧ d.requiresApproval = false ↔
      ((autonomous && killSwitch) = false ∧ Permitted docs plan action ∧
        belowCoverage t docs ctx = false) ∧
      (asksApproval t docs plan action ctx = false ∨ waivesApproval plan autonomous = true) := by
  intro d
  have hverdict : d.verdict = _ := evaluate_verdict ctx decisionId evaluatedAt
  rw [← denial_eq_none]
  rcases hd : denial t docs killSwitch plan action autonomous ctx with _ | ⟨reason, code⟩
  · rw [hd] at hverdict
    have hallowed : d.allowed = true := congrArg Verdict.allowed hverdict
    have happroval : d.requiresApproval = _ := congrArg Verdict.requiresApproval hverdict
    rw [hallowed, happroval, Bool.and_eq_false_iff, Bool.not_eq_false']
    simp
  · rw [hd] at hverdict
    have hallowed : d.allowed = false := congrArg Verdict.allowed hverdict
    simp [hallowed]

end

/-! ## The rules -/

/-- What `_when_matches` has checked of a condition that matches. -/
@[mk_iff]
structure Matches (t : Text) (condition : Value) (action : ActionRequest) (ctx : PolicyContext) :
    Prop where
  actionType : Value.elements (condition.get? "actionTypeIn") = [] ∨
    actionInRule t action (Value.elements (condition.get? "actionTypeIn")) = true
  confidence : ∀ confMin ∈ condition.given? "confidenceMin",
    ∃ confidence ∈ ctx.plannerConfidence, ∃ bound ∈ confMin.toFloat t, bound ≤ confidence
  blastRadius : ∀ br ∈ condition.given? "blastRadius",
    ∃ blastRadius ∈ ctx.blastRadius,
      t.lower (t.strip (br.toStr t)) = t.lower (t.strip blastRadius)
  severity : ∀ severity ∈ ctx.severity, Value.elements (condition.get? "severityIn") = [] ∨
    ∃ v ∈ Value.elements (condition.get? "severityIn"), v.toStr t = severity

/-- The comparison of a confidence with a bound, if there is one. -/
theorem confidence_reached (confidence : ℚ) (bound : Option ℚ) :
    (match bound with
      | some bound => decide (bound ≤ confidence)
      | none => false) = true ↔ ∃ b ∈ bound, b ≤ confidence := by
  rcases bound with _ | bound <;> simp

theorem whenMatches_iff {t : Text} {condition : Value} {action : ActionRequest}
    {ctx : PolicyContext} :
    whenMatches t condition action ctx = true ↔ Matches t condition action ctx := by
  rw [matches_iff, whenMatches]
  rw [Bool.and_eq_true, Bool.and_eq_true, Bool.and_eq_true, ← and_assoc, ← and_assoc]
  refine and_congr (and_congr (and_congr ?_ ?_) ?_) ?_
  · rw [Bool.or_eq_true, List.isEmpty_iff]
  · rw [Value.given?]
    rcases condition.get? "confidenceMin" with _ | confMin
    · simp
    rcases ctx.plannerConfidence with _ | confidence
    · cases confMin <;> simp
    have hreached := confidence_reached confidence
    -- As for the threshold of the coverage: null is no condition.
    cases confMin with
    | null => simp
    | num q => exact (hreached (some q)).trans (by simp [Value.toFloat])
    | bool b => exact (hreached (Value.toFloat t (.bool b))).trans (by simp)
    | str s => exact (hreached (Value.toFloat t (.str s))).trans (by simp)
    | list vs => exact (hreached (Value.toFloat t (.list vs))).trans (by simp)
    | dict kvs => exact (hreached (Value.toFloat t (.dict kvs))).trans (by simp)
  · rw [Value.given?]
    rcases condition.get? "blastRadius" with _ | br
    · simp
    rcases ctx.blastRadius with _ | blastRadius
    · cases br <;> simp
    · cases br <;> simp
  · rcases ctx.severity with _ | severity
    · simp
    · simp

/-! ## The demo rules -/

/-- `high-risk-writes-require-review`. -/
def highRiskRule : ApprovalRule where
  rule :=
    [("name", .str "high-risk-writes-require-review"),
      ("when", .dict [("actionTypeIn",
        .list (["RollbackDeployment", "DrainNode", "RunAnsibleJob"].map .str))]),
      ("requireApproval", .bool true)]
  condition := .dict [("actionTypeIn",
    .list (["RollbackDeployment", "DrainNode", "RunAnsibleJob"].map .str))]

/-- `low-risk-autonomy-candidates`. -/
def lowRiskRule : ApprovalRule where
  rule :=
    [("name", .str "low-risk-autonomy-candidates"),
      ("when", .dict
        [("actionTypeIn", .list (["RestartService", "ScaleWorkload"].map .str)),
          ("confidenceMin", .num (9 / 10)),
          ("blastRadius", .str "single service")]),
      ("requireApproval", .bool false)]
  condition := .dict
    [("actionTypeIn", .list (["RestartService", "ScaleWorkload"].map .str)),
      ("confidenceMin", .num (9 / 10)),
      ("blastRadius", .str "single service")]

theorem approvalRules_demo : demoDocuments.approvalRules = [highRiskRule, lowRiskRule] := rfl

@[simp] theorem approval_highRiskRule (byClass : Bool) : highRiskRule.approval byClass = true := rfl

@[simp] theorem approval_lowRiskRule (byClass : Bool) : lowRiskRule.approval byClass = false := rfl

/-- The demo profile has no threshold. -/
theorem belowCoverage_demo (t : Text) (ctx : PolicyContext) :
    belowCoverage t demoDocuments ctx = false := rfl

/-- The plan of an incident with a saturated CPU. -/
def computePlan : ResponsePlan := matchResponsePlan Text.ascii "sev2" "cpu saturation"

def checkoutRestart : ActionRequest where
  actionId := "act_1"
  actionType := .restartService
  target := "checkout-service"
  idempotencyKey := "restart"

end IncidentPlatform
