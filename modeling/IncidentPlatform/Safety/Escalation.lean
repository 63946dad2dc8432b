import IncidentPlatform.Interaction.Given
import IncidentPlatform.Workflow.Stub

/-!
# The language model and incidents that are read only

The router stops an incident with a `READ_ONLY` plan before it plans, and marks that decision as
investigate-only; the loop sends a decision with this mark to `stop` if it says `planner`. Where the
language model routes, its answer replaces the next workflow and the mark, at every iteration. The
stop reason is merged instead, so the answer is powerless once the rules have stopped. Before that
an answer `planner` without the mark and without a stop reason is followed (`follows_iff`).

`Calm` is what an incident keeps as long as no answer does this: it is under investigation, with the
pending graph it had.
-/

namespace IncidentPlatform

open Interaction

/-- The answer is to plan, with nothing that would stop the loop. -/
def RouterLLMOutput.Escalates (out : RouterLLMOutput) (deterministicNext : String) : Prop :=
  out.nextWorkflow = "planner" ∧ out.investigateOnly = false ∧
    orText out.stopReason none = none ∧ deterministicNext ≠ "stop"

/-- An answer of the language model to the router does not escalate. -/
def Op.Spares : (o : Op) → Ans o → Prop
  | .routerLLM _ deterministicNext, .ok out => ¬ out.Escalates deterministicNext
  | _, _ => True

/-- What the planner step, or the decision to take it, leaves in the audit log. -/
def RecordsPlanning (eventType : String) (payload : Dict) : Prop :=
  eventType = "workflow_checkpoint" ∧ Dict.get? payload "step" = some (.str "planned") ∨
    eventType = "router_decision" ∧ Dict.get? payload "next_workflow" = some (.str "planner") ∧
      Dict.get? payload "stop_reason" ∈ [some .null, some (.str "")]

/-- Under investigation, with the pending graph `graph`. -/
structure Calm (graph : Option ActionGraph) (r : IncidentRecord) : Prop where
  state : r.state = .investigating
  pendingActionGraph : r.pendingActionGraph = graph

/-- An operation of a run that does not plan. -/
def Op.Calm (graph : Option ActionGraph) : Op → Prop
  | .touch r | .write r => IncidentPlatform.Calm graph r
  | .audit eventType payload => ¬ RecordsPlanning eventType payload
  | _ => True

section

variable {cfg : Settings} {graph : Option ActionGraph} {r : IncidentRecord} {plan : ResponsePlan}
  {A : (o : Op) → Ans o → Prop}

/-! ## The steps other than the planner -/

theorem agent_calm {α : Type} {p : Handler α} (h : p.Issues Op.ofAgent) :
    p.Issues (Op.Calm graph) :=
  Prog.Issues.mono (fun o ho ↦ by cases o <;> trivial) h

theorem save_calm (h : Calm graph r) : (save r).Given A (Op.Calm graph) (Calm graph) := by
  have hstamp (previous : Option IncidentRecord) (updatedAt : Time) :
      Calm graph (stamp previous updatedAt r) := ⟨h.state, h.pendingActionGraph⟩
  refine ⟨h, fun _ _ ↦ ⟨trivial, fun previous _ ↦ ?_⟩⟩
  refine Prog.Given.bind (p := validateStateTransition previous r) (R := fun _ ↦ True) ?_
    fun _ _ ↦ ⟨trivial, fun updatedAt _ ↦
      ⟨hstamp previous updatedAt, fun _ _ ↦ hstamp previous updatedAt⟩⟩
  cases previous with
  | none => trivial
  | some p =>
    change Prog.Given A (Op.Calm graph) _ (require _ _)
    rw [require]
    split_ifs <;> trivial

theorem writeCheckpoint_calm (worker : Bool) {step : String} (hstep : step ≠ "planned")
    (h : Calm graph r) : (writeCheckpoint worker r step).Given A (Op.Calm graph) (Calm graph) := by
  have hwith : Calm graph (r.withStep step) := by
    rw [IncidentRecord.withStep]
    split_ifs
    · exact h
    · exact ⟨h.state, h.pendingActionGraph⟩
  refine Prog.Given.bind (save_calm hwith) fun r' hr' ↦ ⟨?_, fun _ _ ↦ hr'⟩
  rintro (⟨-, hplanned⟩ | ⟨hdecision, -⟩)
  · change some (Value.str step) = some (.str "planned") at hplanned
    cases hplanned
    exact hstep rfl
  · exact absurd hdecision (by decide)

theorem recordTool_calm (tool : ActionType) (h : Calm graph r) :
    Calm graph (recordTool r tool) := by
  rw [recordTool]
  split_ifs
  · exact h
  · exact ⟨h.state, h.pendingActionGraph⟩

theorem collectKey_calm (wanted : Bool) (key : String) (tool : ActionType)
    {state : IncidentRecord × RawEvidence} (h : Calm graph state.1) :
    (collectKey wanted key tool state).Given A (Op.Calm graph) fun a ↦ Calm graph a.1 := by
  rw [collectKey]
  split_ifs
  · refine Prog.Given.bind (Prog.Given.of_issues (agent_calm (toolOp_issues _ _ _))
      (Prog.Yields.true _)) fun text _ ↦ ?_
    exact ⟨recordTool_calm tool h, fun _ _ ↦ recordTool_calm tool h⟩
  · exact h

theorem collectRaw_calm (intents : List String) (h : Calm graph r) :
    (collectRaw r intents).Given A (Op.Calm graph) fun a ↦ Calm graph a.1 := by
  refine Prog.Given.bind (collectKey_calm _ _ _ h) fun s₁ h₁ ↦ ?_
  refine Prog.Given.bind (collectKey_calm _ _ _ h₁) fun s₂ h₂ ↦ ?_
  refine Prog.Given.bind (collectKey_calm _ _ _ h₂) fun s₃ h₃ ↦ ?_
  refine Prog.Given.bind (collectKey_calm _ _ _ h₃) fun s₄ h₄ ↦ ?_
  have htool (tool : ActionType) : (toolOp tool s₄.1.metadata.service
      s₄.1.metadata.resource).Given A (Op.Calm graph) fun _ ↦ True :=
    Prog.Given.of_issues (agent_calm (toolOp_issues _ _ _)) (Prog.Yields.true _)
  split_ifs
  · refine Prog.Given.bind (htool .queryMetrics) fun metrics _ ↦ ?_
    refine Prog.Given.bind (htool .queryLogs) fun logs _ ↦ ?_
    have hrecorded := (recordTool_calm .queryLogs (recordTool_calm .queryMetrics h₄))
    exact ⟨hrecorded, fun _ _ ↦ hrecorded⟩
  · exact h₄

theorem triageStep_calm (worker : Bool) (h : Calm graph r) :
    (triageStep cfg worker r).Given A (Op.Calm graph) (Calm graph) := by
  refine Prog.Given.bind (Prog.Given.of_issues (agent_calm (triage_issues cfg r))
    (Prog.Yields.true _)) fun result _ ↦ ?_
  exact writeCheckpoint_calm worker (by decide) ⟨h.state, h.pendingActionGraph⟩

theorem evidenceStep_calm (worker : Bool) (h : Calm graph r) :
    (evidenceStep cfg worker r).Given A (Op.Calm graph) (Calm graph) := by
  refine Prog.Given.bind (R := fun a ↦ Calm graph a.1) ?_ fun a ha ↦ ?_
  · refine Prog.Given.bind (collectRaw_calm _ h) fun a ha ↦ ?_
    exact Prog.Given.bind (Prog.Given.of_issues (agent_calm (evidenceEntries_issues cfg a.1 a.2))
      (Prog.Yields.true _)) fun entries _ ↦ ha
  · exact writeCheckpoint_calm worker (by decide) ⟨ha.state, ha.pendingActionGraph⟩

theorem changeStep_calm (worker : Bool) (h : Calm graph r) :
    (changeStep cfg worker r).Given A (Op.Calm graph) (Calm graph) := by
  refine Prog.Given.bind (Prog.Given.of_issues (agent_calm (correlateChanges_issues cfg r))
    (Prog.Yields.true _)) fun entry _ ↦ ?_
  exact writeCheckpoint_calm worker (by decide) ⟨h.state, h.pendingActionGraph⟩

theorem rcaStep_calm (worker : Bool) (h : Calm graph r) :
    (rcaStep cfg worker r).Given A (Op.Calm graph) (Calm graph) := by
  refine Prog.Given.bind (Prog.Given.of_issues (agent_calm (analyzeRootCause_issues cfg r))
    (Prog.Yields.true _)) fun hypotheses _ ↦ ?_
  exact writeCheckpoint_calm worker (by decide) ⟨h.state, h.pendingActionGraph⟩

theorem appendTrace_calm (phase message : String) (h : Calm graph r) :
    (appendTrace r phase message).Given A (Op.Calm graph) (Calm graph) := by
  refine Prog.Given.mono ?_ (Prog.Given.of_issues (agent_calm (appendTrace_issues r phase message))
    (appendTrace_yields r phase message))
  rintro r' ⟨entry, rfl⟩
  exact ⟨h.state, h.pendingActionGraph⟩

/-- No step but the planner step plans. -/
theorem runStep_calm (worker : Bool) {step : String} (hstep : step ≠ "planner")
    (h : Calm graph r) :
    (runStep cfg worker r step).Given A (Op.Calm graph) fun a ↦ Calm graph a.1 := by
  unfold runStep
  split
  · exact Prog.Given.bind (triageStep_calm worker h) fun _ hr' ↦ hr'
  · exact Prog.Given.bind (evidenceStep_calm worker h) fun _ hr' ↦ hr'
  · exact Prog.Given.bind (changeStep_calm worker h) fun _ hr' ↦ hr'
  · exact Prog.Given.bind (rcaStep_calm worker h) fun _ hr' ↦ hr'
  · exact absurd rfl hstep
  · exact Prog.Given.bind (appendTrace_calm _ _ h) fun _ hr' ↦ hr'
  · exact h

/-! ## The decision -/

/-- The decision is to plan, and the loop follows it. -/
def RouterDecision.Plans (d : RouterDecision) : Prop :=
  d.nextWorkflow = "planner" ∧ orText d.stopReason none = none

/-- What the rules decide for a plan that is read only: not to plan, and to stop only with a
reason. -/
structure ReadsOnly (d : RouterDecision) : Prop where
  not_planner : d.nextWorkflow ≠ "planner"
  stops : d.nextWorkflow = "stop" ↔ orText d.stopReason none ≠ none

theorem orText_some {reason : String} (hreason : reason ≠ "") (other : Option String) :
    orText (some reason) other = some reason :=
  if_neg (by simpa using hreason)

theorem orText_or (a b : Option String) :
    orText (orText a b) none = none ↔ orText a none = none ∧ orText b none = none := by
  rcases a with _ | a
  · exact ⟨fun h ↦ ⟨rfl, h⟩, fun h ↦ h.2⟩
  · by_cases ha : a = ""
    · subst ha
      exact ⟨fun h ↦ ⟨rfl, h⟩, fun h ↦ h.2⟩
    · rw [orText_some ha, orText_some ha]
      simp

theorem deterministicStep_readOnly (t : Text) (r : IncidentRecord)
    (hplan : plan.policyClass = .readOnly) :
    (deterministicStep t r plan).1 ∈ ["triage", "evidence", "change", "rca"] ∧
        (deterministicStep t r plan).2.1 = none ∨
      (deterministicStep t r plan).1 = "stop" ∧
        (deterministicStep t r plan).2.1 = some "investigate_only_or_read_only" := by
  unfold deterministicStep
  rw [hplan]
  dsimp only
  simp only [beq_self_eq_true, Bool.true_or, if_true]
  split_ifs <;> decide

theorem deterministicNextStep_readsOnly (cfg : Settings) (r : IncidentRecord)
    (hplan : plan.policyClass = .readOnly) :
    (deterministicNextStep cfg r plan).Yields ReadsOnly := by
  refine Prog.Yields.mono (fun d hd ↦ ?_) (deterministicNextStep_yields r plan cfg)
  rcases deterministicStep_readOnly cfg.text r hplan with ⟨hnext, hreason⟩ | ⟨hnext, hreason⟩
  · rw [← hd.nextWorkflow] at hnext
    rw [← hd.stopReason] at hreason
    have hmember : ∀ next ∈ ["triage", "evidence", "change", "rca"],
        next ≠ "planner" ∧ next ≠ "stop" := by decide
    obtain ⟨hplanner, hstop⟩ := hmember d.nextWorkflow hnext
    exact ⟨hplanner, by simp [hstop, hreason, orText]⟩
  · rw [← hd.nextWorkflow] at hnext
    rw [← hd.stopReason] at hreason
    refine ⟨by rw [hnext]; decide, ?_⟩
    rw [hnext, hreason, orText_some (by decide)]
    simp

/-- The restriction to the plan turns a decision to plan into a stop if it is marked. -/
theorem restrictDecision_plans (d : RouterDecision) (plan : ResponsePlan) :
    (restrictDecision d plan).Plans ↔ d.Plans ∧ d.investigateOnly = false := by
  unfold restrictDecision RouterDecision.Plans mergeRouterAllowedWithPlan
  dsimp only
  cases hmarked : d.investigateOnly with
  | false => simp
  | true =>
    by_cases hnext : d.nextWorkflow = "planner"
    · simp [hnext]
    · split_ifs <;> simp [hnext]

/-- What the answer of the language model makes of the decision of the rules. -/
def mergeAnswer (d : RouterDecision) (out : RouterLLMOutput) : RouterDecision :=
  { d with
    nextWorkflow := if out.nextWorkflow.isEmpty then d.nextWorkflow else out.nextWorkflow
    investigateOnly := out.investigateOnly
    decisionConfidence := out.decisionConfidence
    stopReason := orText out.stopReason d.stopReason
    ruleIdsApplied := d.ruleIdsApplied ++ ["llm_router"] }

/-- **The decision is the answer's.** For a plan that is read only, the loop follows an answer of
the language model to the planner if and only if it escalates. -/
theorem follows_iff {d : RouterDecision} (hd : ReadsOnly d) (out : RouterLLMOutput)
    (plan : ResponsePlan) :
    (restrictDecision (mergeAnswer d out) plan).Plans ↔ out.Escalates d.nextWorkflow := by
  rw [restrictDecision_plans]
  have hnext : (mergeAnswer d out).nextWorkflow = "planner" ↔ out.nextWorkflow = "planner" := by
    change (if out.nextWorkflow.isEmpty then _ else _) = _ ↔ _
    split_ifs with hempty
    · have hnone : out.nextWorkflow = "" := by simpa using hempty
      rw [hnone]
      exact ⟨fun h ↦ absurd h hd.not_planner, fun h ↦ absurd h (by decide)⟩
    · rfl
  have hstop : orText (mergeAnswer d out).stopReason none = none ↔
      orText out.stopReason none = none ∧ d.nextWorkflow ≠ "stop" := by
    rw [Ne, hd.stops, not_not]
    exact orText_or out.stopReason d.stopReason
  rw [RouterDecision.Plans, RouterLLMOutput.Escalates, hnext, hstop]
  tauto

theorem computeRouterDecision_spared (cfg : Settings) (r : IncidentRecord)
    (hplan : plan.policyClass = .readOnly) :
    (computeRouterDecision cfg r plan).Given Op.Spares (Op.Calm graph) fun d ↦
      ¬ (restrictDecision d plan).Plans := by
  refine Prog.Given.bind (Prog.Given.of_issues
    (agent_calm (deterministicNextStep_issues cfg r plan))
    (deterministicNextStep_readsOnly cfg r hplan)) fun d hd ↦ ?_
  have hrules : ¬ (restrictDecision d plan).Plans := by
    rw [restrictDecision_plans]
    rintro ⟨⟨hnext, -⟩, -⟩
    exact hd.not_planner hnext
  split_ifs
  · refine ⟨trivial, fun answer hanswer ↦ ?_⟩
    cases answer with
    | error f =>
      change Prog.Given _ _ _ (if f.isAgentFallback then _ else _)
      split_ifs
      · exact hrules
      · trivial
    | ok out =>
      change ¬ (restrictDecision (mergeAnswer d out) plan).Plans
      rw [follows_iff hd]
      exact hanswer
  · exact hrules

theorem persistDecision_calm {d : RouterDecision} (hd : ¬ d.Plans) (h : Calm graph r) :
    (persistDecision r d).Given A (Op.Calm graph) (Calm graph) := by
  have hdecided (record : DecisionRecord) : Calm graph (r.withDecision d record) :=
    ⟨h.state, h.pendingActionGraph⟩
  refine ⟨trivial, fun hex _ ↦ ⟨trivial, fun createdAt _ ↦ ⟨hdecided _, fun _ _ ↦
    ⟨?_, fun _ _ ↦ hdecided _⟩⟩⟩⟩
  rintro (⟨hcheckpoint, -⟩ | ⟨-, hnext, hreason⟩)
  · exact absurd hcheckpoint (by decide)
  · change some (Value.str d.nextWorkflow) = some (.str "planner") at hnext
    change some (optionText d.stopReason) ∈ _ at hreason
    refine hd ⟨by simpa using hnext, ?_⟩
    cases hstop : d.stopReason with
    | none => rfl
    | some reason =>
      rw [hstop] at hreason
      have hempty : reason = "" := by simpa [optionText] using hreason
      rw [hempty]
      rfl

theorem decideNext_calm (cfg : Settings) (hplan : plan.policyClass = .readOnly)
    (h : Calm graph r) :
    (decideNext cfg r plan).Given Op.Spares (Op.Calm graph) fun a ↦
      Calm graph a.1 ∧ ¬ a.2.Plans := by
  have hiterated : Calm graph (r.withIteration (r.workflowIteration + 1)) :=
    ⟨h.state, h.pendingActionGraph⟩
  refine Prog.Given.bind (R := fun _ ↦ True) ⟨hiterated, fun _ _ ↦ trivial⟩ fun _ _ ↦ ?_
  refine Prog.Given.bind (computeRouterDecision_spared cfg _ hplan) fun raw hraw ↦ ?_
  refine Prog.Given.bind (persistDecision_calm hraw hiterated) fun r₁ hr₁ ↦ ?_
  refine Prog.Given.bind (appendTrace_calm _ _ hr₁) fun r₂ hr₂ ↦ ?_
  exact ⟨hr₂, fun _ _ ↦ ⟨hr₂, hraw⟩⟩

/-- The loop stays calm, from any record. -/
theorem decisionLoop_calm (cfg : Settings) (worker : Bool) (hplan : plan.policyClass = .readOnly)
    (n : ℕ) (h : Calm graph r) :
    (decisionLoop cfg worker plan n r).Given Op.Spares (Op.Calm graph) (Calm graph) := by
  induction n generalizing r with
  | zero => exact h
  | succ n ih =>
    refine Prog.Given.bind (decideNext_calm cfg hplan h) ?_
    rintro ⟨r₁, d⟩ ⟨hr₁, hd⟩
    dsimp only
    split_ifs with hstop
    · exact appendTrace_calm _ _ hr₁
    · -- the loop goes on to a step, so there is no stop reason, and the step is not the planner
      have hnext : d.nextWorkflow ≠ "planner" := by
        intro hnext
        refine hd ⟨hnext, ?_⟩
        rw [Bool.or_eq_true, not_or] at hstop
        simpa using hstop.2
      refine Prog.Given.bind (runStep_calm worker hnext hr₁) ?_
      rintro ⟨r₂, continues⟩ hr₂
      dsimp only at hr₂ ⊢
      split_ifs
      · exact Prog.Given.bind (save_calm hr₂) fun r₃ hr₃ ↦ ih hr₃
      · exact hr₂

end

/-- No operation of the trace plans, the pending graph being `graph`. -/
def NeverPlans (graph : Option ActionGraph) (trace : List (Prog.Event Op Ans)) : Prop :=
  ∀ e ∈ trace, e.1.Calm graph

/-- **Read-only incidents.** In every run of the decision loop on an incident with a `READ_ONLY`
plan: if no answer of the language model escalates, the planner step is never taken, no record is
stored that waits for approval, and the pending graph stays what it was. -/
theorem read_only_never_plans (cfg : Settings) (env : Env) (mode : Mode) (w : World)
    (worker : Bool) (incident : IncidentRecord)
    (hplan : (matchResponsePlan cfg.text incident.metadata.severity
      incident.metadata.symptom).policyClass = .readOnly)
    (hspares : ∀ e ∈ (runDecisionLoopRoute cfg worker incident).trace (serve env mode) w,
      e.1.Spares e.2) :
    NeverPlans incident.pendingActionGraph
      ((runDecisionLoopRoute cfg worker incident).trace (serve env mode) w) := by
  have hmatched : Calm incident.pendingActionGraph ((matchPlan cfg incident).withIteration 0) :=
    ⟨rfl, rfl⟩
  have hgiven : (runDecisionLoopRoute cfg worker incident).Given Op.Spares
      (Op.Calm incident.pendingActionGraph) (Calm incident.pendingActionGraph) := by
    refine Prog.Given.bind ((writeCheckpoint_calm worker (by decide) hmatched).and_yields
      (writeCheckpoint_yields _ _ _)) ?_
    rintro r₁ ⟨hr₁, hkept⟩
    have hmetadata : r₁.metadata = incident.metadata := congrArg CaseView.metadata hkept.view
    rw [hmetadata]
    refine Prog.Given.bind (decisionLoop_calm cfg worker hplan cfg.maxIterations hr₁)
      fun r₂ hr₂ ↦ ?_
    exact save_calm ⟨hr₂.state, hr₂.pendingActionGraph⟩
  exact (hgiven.trace w hspares).1

/-- A record is stored that waits for approval. -/
def Op.waits : Op → Bool
  | .write r => r.state == .waitingApproval
  | _ => false

/-- The demo settings, with the language model as the router. -/
def Settings.llmRouted : Settings :=
  { Settings.demo with
    agenticEnabled := true
    routerLlmEnabled := true
    routerDecisionLoopEnabled := true }

/-- A slow page that is not urgent. -/
def slowIncident : IncidentRecord where
  incidentId := "inc_2"
  metadata :=
    { source := "webhook", severity := "sev3", service := "docs-service"
      resource := "docs-service", symptom := "slow page", occurredAt := 0, dedupeKey := "d2" }
  state := .open
  createdAt := 0
  updatedAt := 0

/-- A model that always says `planner`, but marks its answers, gets nowhere with it. -/
theorem read_only_never_plans_slow :
    NeverPlans none ((runDecisionLoopRoute Settings.llmRouted false slowIncident).trace
      (serve { Env.demo with
        router := fun _ ↦ .ok { nextWorkflow := "planner", investigateOnly := true } }
        .postgres) {}) := by
  refine read_only_never_plans Settings.llmRouted _ .postgres {} false slowIncident
    (by decide +kernel) (Prog.trace_answers (fun w o ↦ ?_) _ _)
  cases o with
  | routerLLM r next =>
    rintro ⟨-, hmarked, -⟩
    cases hmarked
  | _ => trivial

/-- An outside whose language model sends every incident to the planner. -/
def Env.escalating : Env :=
  { Env.demo with router := fun _ ↦ .ok { nextWorkflow := "planner" } }

/-- Its first answer takes the same incident to the planner. -/
theorem llm_escalates_read_only :
    ¬ ∀ (cfg : Settings) (env : Env) (mode : Mode) (w : World) (worker : Bool)
      (incident : IncidentRecord), (matchResponsePlan cfg.text incident.metadata.severity
        incident.metadata.symptom).policyClass = .readOnly →
      NeverPlans incident.pendingActionGraph
        ((runDecisionLoopRoute cfg worker incident).trace (serve env mode) w) := by
  intro h
  have hcalm := h Settings.llmRouted Env.escalating .postgres {} false slowIncident
    (by decide +kernel)
  have hwaits : ∃ e ∈ (runDecisionLoopRoute Settings.llmRouted false slowIncident).trace
      (serve Env.escalating .postgres) {}, e.1.waits = true := by
    decide +kernel
  obtain ⟨⟨o, a⟩, he, hwaits⟩ := hwaits
  have ho := hcalm _ he
  cases o with
  | write r =>
    have hstate : r.state = .waitingApproval := by simpa [Op.waits] using hwaits
    cases hstate.symm.trans ho.state
  | _ => cases hwaits

end IncidentPlatform
