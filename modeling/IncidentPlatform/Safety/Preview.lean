import IncidentPlatform.Api.Gates
import IncidentPlatform.Domain.Verdict

/-!
# The preview of a decision

`POST /evaluate` of the policy engine's app tells beforehand what the policy decides on an action of
an incident. It hands the engine the plan, the action and the autonomous flag, and nothing of the
incident. `execute_action` also hands it the planner's confidence, the blast radius, the severity
and the evidence coverage, and the engine does not read an absent value the way it reads a present
one: a rule with a condition on confidence or blast radius never matches in the preview, a condition
on the severity is skipped, and so is the coverage check.

So the preview agrees with the gate where no stage looks at the context, that is where an earlier
stage denies, and else where the coverage is sufficient and the two rules that are found say the
same about approval (`preview_agrees_iff`).
-/

namespace IncidentPlatform

open Interaction

/-! ## The endpoint -/

structure PolicyCheckRequest where
  incidentId : String
  action : ActionRequest
  autonomous : Bool := false
  deriving Repr, Inhabited

/-- `evaluate` of `apps/api/routers/policy_engine/app.py`. -/
def PolicyApp.evaluate (cfg : Settings) (request : PolicyCheckRequest) :
    Handler PolicyDecision := do
  let incident ← orHttp (← perform (.get request.incidentId)) 404
    "incident or response plan not found"
  let plan ← orHttp incident.responsePlan 404 "incident or response plan not found"
  let hex ← perform .uuid4
  let evaluatedAt ← perform .utcnow
  pure (IncidentPlatform.evaluate cfg.text cfg.documents cfg.autonomyKillSwitch plan request.action
    request.autonomous {} ("pd_" ++ hexPrefix 10 hex) evaluatedAt)

/-- The context that `execute_action` reads off the incident. -/
def IncidentRecord.policyContext (incident : IncidentRecord) : PolicyContext where
  plannerConfidence := some incident.lastPlannerConfidence
  blastRadius := some (match incident.pendingActionGraph with
    | some graph => graph.blastRadius
    | none => "single service")
  severity := some incident.metadata.severity
  evidenceCoverage := some incident.evidenceCoverageScore

/-- What `execute_action` asks the engine. -/
theorem decisionOn_eq (cfg : Settings) (incident : IncidentRecord) (plan : ResponsePlan)
    (payload : ExecutePayload) (decisionId : String) (evaluatedAt : Time) :
    decisionOn cfg incident plan payload decisionId evaluatedAt =
      evaluate cfg.text cfg.documents cfg.autonomyKillSwitch plan payload.action payload.autonomous
        incident.policyContext decisionId evaluatedAt := rfl

/-! ## The two decisions -/

/-- A rule that the preview finds: its action types match, and it sets neither a confidence nor a
blast radius. What it says about the severity is not looked at. -/
def contextFree (t : Text) (action : ActionRequest) (r : ApprovalRule) : Bool :=
  ((Value.elements (r.condition.get? "actionTypeIn")).isEmpty ||
      actionInRule t action (Value.elements (r.condition.get? "actionTypeIn"))) &&
    (r.condition.given? "confidenceMin").isNone && (r.condition.given? "blastRadius").isNone

/-- The rule that the preview finds and the one the incident meets say the same about approval. -/
def SameRuling (cfg : Settings) (incident : IncidentRecord) (plan : ResponsePlan)
    (action : ActionRequest) : Prop :=
  let byClass := plan.policyClass != .readOnly
  firstApproval byClass cfg.documents.approvalRules (contextFree cfg.text action) =
    firstApproval byClass cfg.documents.approvalRules fun r ↦
      whenMatches cfg.text r.condition action incident.policyContext

/-- The condition of the agreement. -/
inductive PreviewAgrees (cfg : Settings) (incident : IncidentRecord) (plan : ResponsePlan)
    (action : ActionRequest) (autonomous : Bool) : Prop where
  | switched (h : (autonomous && cfg.autonomyKillSwitch) = true)
  | refused (h : ¬ Permitted cfg.documents plan action)
  | covered (hcoverage : belowCoverage cfg.text cfg.documents incident.policyContext = false)
      (hruling : waivesApproval plan autonomous = true ∨ SameRuling cfg incident plan action)

section

variable {t : Text} {docs : PolicyDocuments} {killSwitch : Bool} {plan : ResponsePlan}
  {action : ActionRequest} {autonomous : Bool}

theorem whenMatches_without (r : ApprovalRule) :
    whenMatches t r.condition action {} = contextFree t action r := by
  rw [Bool.eq_iff_iff, whenMatches_iff, matches_iff, contextFree, Bool.and_eq_true,
    Bool.and_eq_true, Bool.or_eq_true, List.isEmpty_iff, Option.isNone_iff_eq_none,
    Option.isNone_iff_eq_none, Option.eq_none_iff_forall_not_mem,
    Option.eq_none_iff_forall_not_mem, and_assoc]
  simp

theorem asksApproval_without :
    asksApproval t docs plan action {} =
      firstApproval (plan.policyClass != .readOnly) docs.approvalRules (contextFree t action) :=
  congrArg _ (funext whenMatches_without)

theorem belowCoverage_without : belowCoverage t docs {} = false := by
  rw [belowCoverage]
  rcases coverageBound t docs with _ | bound <;> rfl

/-- Two contexts of one action: the verdicts agree if none of them is looked at, or if the second
coverage is sufficient, as the absent one is, and the approval is the same. -/
theorem verdict_without_eq_iff (ctx : PolicyContext) (decisionId decisionId' : String)
    (evaluatedAt evaluatedAt' : Time) :
    (evaluate t docs killSwitch plan action autonomous {} decisionId evaluatedAt).verdict =
        (evaluate t docs killSwitch plan action autonomous ctx decisionId' evaluatedAt').verdict ↔
      ¬ ((autonomous && killSwitch) = false ∧ Permitted docs plan action) ∨
        belowCoverage t docs ctx = false ∧ (waivesApproval plan autonomous = true ∨
          asksApproval t docs plan action {} = asksApproval t docs plan action ctx) := by
  rw [evaluate_verdict, evaluate_verdict]
  rcases hd : denial t docs killSwitch plan action autonomous {} with _ | reason
  · obtain ⟨hswitch, hpermitted, -⟩ := (denial_eq_none _).mp hd
    rw [denial_of_permitted hswitch hpermitted, or_iff_right (not_not.mpr ⟨hswitch, hpermitted⟩)]
    rcases belowCoverage t docs ctx with _ | _
    · rcases waivesApproval plan autonomous with _ | _ <;> simp
    · simp
  · rw [denial_of_refused hd]
    refine iff_of_true rfl (Or.inl fun ⟨hswitch, hpermitted⟩ ↦ ?_)
    rw [denial_of_permitted hswitch hpermitted, belowCoverage_without] at hd
    exact nomatch hd

end

theorem evaluate_runs {cfg : Settings} {env : Env} {mode : Mode} {w : World}
    {request : PolicyCheckRequest} {incident : IncidentRecord} {plan : ResponsePlan}
    (hstored : w.stored request.incidentId = some incident)
    (hplan : incident.responsePlan = some plan) :
    RunsIn env mode (PolicyApp.evaluate cfg request) w fun res _ ↦
      ∃ decisionId evaluatedAt, res = .ok (evaluate cfg.text cfg.documents cfg.autonomyKillSwitch
        plan request.action request.autonomous {} decisionId evaluatedAt) := by
  refine RunsIn.perform (RunsIn.orHttp (fun hnone ↦ ?_) fun r hr ↦ ?_)
  · exact nomatch hstored.symm.trans hnone
  cases hstored.symm.trans hr
  refine RunsIn.orHttp (fun hnone ↦ ?_) fun p hp ↦ ?_
  · exact nomatch hplan.symm.trans hnone
  cases hplan.symm.trans hp
  exact ⟨_, _, rfl⟩

/-- **The preview.** On a stored incident with a response plan both decisions are made, and they
agree on what is allowed, on the approval and on the code of a denial exactly under
`PreviewAgrees`. -/
theorem preview_agrees_iff (cfg : Settings) (env env' : Env) (mode mode' : Mode) (w w' : World)
    (incidentId : String) (payload : ExecutePayload) (incident : IncidentRecord)
    (plan : ResponsePlan) (hstored : w.stored incidentId = some incident)
    (hplan : incident.responsePlan = some plan) :
    ∃ preview decision,
      ((PolicyApp.evaluate cfg ⟨incidentId, payload.action, payload.autonomous⟩).run
        (serve env mode) w).1 = .ok preview ∧
      ((policyDecision cfg incident plan payload).run (serve env' mode') w').1 = .ok decision ∧
      (preview.verdict = decision.verdict ↔
        PreviewAgrees cfg incident plan payload.action payload.autonomous) := by
  let request : PolicyCheckRequest := ⟨incidentId, payload.action, payload.autonomous⟩
  have hruns : RunsIn env mode (PolicyApp.evaluate cfg request) w _ := evaluate_runs hstored hplan
  obtain ⟨decisionId, evaluatedAt, hpreview⟩ := hruns
  refine ⟨_, _, hpreview, rfl, ?_⟩
  rw [decisionOn_eq, verdict_without_eq_iff, asksApproval_without]
  constructor
  · rintro (hrefused | ⟨hcoverage, hruling⟩)
    · rw [not_and_or, Bool.not_eq_false] at hrefused
      rcases hrefused with hswitch | hpermitted
      · exact .switched hswitch
      · exact .refused hpermitted
    · exact .covered hcoverage hruling
  · rintro (hswitch | hpermitted | ⟨hcoverage, hruling⟩)
    · exact Or.inl fun h ↦ Bool.false_ne_true (h.1.symm.trans hswitch)
    · exact Or.inl fun h ↦ hpermitted h.2
    · exact Or.inr ⟨hcoverage, hruling⟩

/-! ## A restart with high confidence -/

/-- An incident for which the planner was confident. -/
def confidentIncident : IncidentRecord :=
  { checkoutIncident with
    responsePlan := some computePlan
    lastPlannerConfidence := 92 / 100 }

def confidentRestart : ExecutePayload := { action := checkoutRestart }

/-- The gate lets the restart through without approval, the preview asks for one. -/
theorem preview_asks_approval :
    ¬ ∀ (cfg : Settings) (env : Env) (mode : Mode) (w : World) (incidentId : String)
      (payload : ExecutePayload) (incident : IncidentRecord) (plan : ResponsePlan),
      w.stored incidentId = some incident → incident.responsePlan = some plan →
      ((PolicyApp.evaluate cfg ⟨incidentId, payload.action, payload.autonomous⟩).run
          (serve env mode) w).1.map PolicyDecision.verdict =
        ((policyDecision cfg incident plan payload).run (serve env mode) w).1.map
          PolicyDecision.verdict := by
  intro h
  have heq := h Settings.demo Env.demo .postgres { rows := [confidentIncident] } "inc_1"
    confidentRestart confidentIncident _ rfl rfl
  have happroval := congrArg (fun r ↦ (r.toOption.map Verdict.requiresApproval)) heq
  exact absurd happroval (by decide +kernel)

/-- A rollback needs an approval in both. -/
def confidentRollback : ExecutePayload :=
  { action := { checkoutRestart with actionType := .rollbackDeployment } }

theorem preview_agrees_iff_rollback :
    ∃ preview decision : PolicyDecision,
      ((PolicyApp.evaluate Settings.demo ⟨"inc_1", confidentRollback.action, false⟩).run
        (serve Env.demo .postgres) { rows := [confidentIncident] }).1 = .ok preview ∧
      ((policyDecision Settings.demo confidentIncident computePlan confidentRollback).run
        (serve Env.demo .postgres) { rows := [confidentIncident] }).1 = .ok decision ∧
      preview.verdict = decision.verdict := by
  obtain ⟨preview, decision, hpreview, hdecision, hiff⟩ := preview_agrees_iff Settings.demo
    Env.demo Env.demo .postgres .postgres { rows := [confidentIncident] }
    { rows := [confidentIncident] } "inc_1" confidentRollback confidentIncident computePlan rfl rfl
  refine ⟨preview, decision, hpreview, hdecision, hiff.mpr (.covered rfl (Or.inr ?_))⟩
  rw [SameRuling]
  decide +kernel

end IncidentPlatform
