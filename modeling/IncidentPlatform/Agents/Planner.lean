import IncidentPlatform.Agents.Investigation

/-!
# The remediation planner

`src/agents/planner/agent.py`. The planner assigns `last_planner_confidence` to the incident and
returns the action graph together with the record. The working memory it searches for its prompt
is not modelled.
-/

namespace IncidentPlatform

open Interaction

/-- `PlannerLLMOutput` answers may name anything; an unknown name is skipped. -/
def allowedTypes (allowed : List ActionType) (names : List String) : List ActionType :=
  (names.filterMap ActionType.ofValue?).filter fun t ↦ t ∈ allowed

/-- `RemediationPlannerAgent._clamp_actions`. -/
def clampActions (cfg : Settings) (incident : IncidentRecord) :
    List ActionType → Handler (List ActionRequest)
  | [] => pure []
  | actionType :: types => do
    let hex ← perform .uuid4
    let actions ← clampActions cfg incident types
    pure ({ actionId := "act_" ++ hexPrefix 8 hex
            actionType
            target := incident.metadata.resource
            parameters := [("service", .str incident.metadata.service)]
            idempotencyKey := incident.incidentId ++ ":" ++ actionType.value
            dryRun := cfg.plannerDefaultDryRun } :: actions)

/-- The action types whose plan step is of high risk. -/
def highRisk : List ActionType := [.rollbackDeployment, .drainNode, .runAnsibleJob]

/-- `RemediationPlannerAgent._build_plan_steps`, from position `i` on. -/
def buildPlanSteps (i : ℕ) : List ActionRequest → Handler (List PlanStep)
  | [] => pure []
  | a :: actions => do
    let hex ← perform .uuid4
    let steps ← buildPlanSteps (i + 1) actions
    pure ({ stepId := "ps_" ++ hexPrefix 8 hex
            order := i
            actionRefId := some a.actionId
            verificationSignal := "metrics_stable"
            riskTier := if a.actionType ∈ highRisk then "high" else "medium"
            rollbackHint := if a.actionType ∈ highRisk then some "rollback_plan" else none }
          :: steps)

def IncidentRecord.withConfidence (incident : IncidentRecord) (confidence : ℚ) : IncidentRecord :=
  { incident with lastPlannerConfidence := confidence }

/-- An action of the stub graph. -/
def stubAction (cfg : Settings) (incident : IncidentRecord) (actionType : ActionType)
    (parameters : Dict) (keySuffix : String) : Handler ActionRequest := do
  let hex ← perform .uuid4
  pure { actionId := "act_" ++ hexPrefix 8 hex
         actionType
         target := incident.metadata.resource
         parameters := ("service", .str incident.metadata.service) :: parameters
         idempotencyKey := incident.incidentId ++ ":" ++ keySuffix
         dryRun := cfg.plannerDefaultDryRun }

/-- The actions of `RemediationPlannerAgent._stub_graph`. -/
def stubActions (cfg : Settings) (incident : IncidentRecord) : Handler (List ActionRequest) :=
  if incident.metadata.service == "checkout-service" &&
      isIn "deployment" (cfg.text.lower incident.metadata.symptom) then do
    let rollback ← stubAction cfg incident .rollbackDeployment
      [("deployment", .str "checkout-service"), ("to_revision", .str "checkout-r42")]
      "rollback:checkout-r42"
    pure [rollback]
  else do
    let restart ← stubAction cfg incident .restartService [] "restart"
    let scale ← stubAction cfg incident .scaleWorkload [("maxReplicas", .num 5)] "scale"
    pure [restart, scale]

/-- `RemediationPlannerAgent._stub_graph`. -/
def stubGraph (cfg : Settings) (incident : IncidentRecord) :
    Handler (IncidentRecord × ActionGraph) := do
  let incident := incident.withConfidence (92 / 100)
  let actions ← stubActions cfg incident
  let planSteps ← buildPlanSteps 0 actions
  pure (incident,
    { objective := "Restore service stability while minimizing blast radius"
      prerequisites := ["Recent backup validated", "Operator channel notified"]
      safetyChecks := ["Confirm target allowlist", "Confirm error rate threshold"]
      rollbackPlan := ["Roll back deployment", "Scale down to prior size", "Page human"]
      blastRadius := "single service"
      successSignal := "Error rate and CPU return below threshold for 10 minutes"
      actions
      planSteps })

/-- `xs or default`. -/
def orDefault (xs default : List String) : List String := if xs.isEmpty then default else xs

/-- The graph made of the language model's answer, once it names an allowed action. -/
def plannedGraph (out : PlannerLLMOutput) (actions : List ActionRequest) :
    Handler ActionGraph := do
  let planSteps ← buildPlanSteps 0 actions
  pure
    { objective := if out.objective.isEmpty then
        "Restore service stability while minimizing blast radius" else out.objective
      prerequisites := orDefault out.prerequisites ["Recent backup validated"]
      safetyChecks := orDefault out.safetyChecks ["Confirm target allowlist"]
      rollbackPlan := orDefault out.rollbackPlan ["Roll back deployment", "Page human"]
      blastRadius := out.blastRadius
      successSignal := if out.successSignal.isEmpty then
        "Error rate and CPU return below threshold" else out.successSignal
      actions
      planSteps }

/-- The part of `RemediationPlannerAgent.run` that asks the language model. -/
def planWithLLM (cfg : Settings) (incident : IncidentRecord) (allowed : List ActionType) :
    Handler (IncidentRecord × ActionGraph) := do
  match ← perform (.plannerLLM incident) with
  | .ok out => do
    let incident := incident.withConfidence out.plannerConfidence
    let actions ← clampActions cfg incident (allowedTypes allowed out.actionTypeNames)
    if actions.isEmpty then do
      assign incident
      fallBack cfg .structuredLLMError (stubGraph cfg incident)
    else do
      let graph ← plannedGraph out actions
      pure (incident, graph)
  | .error f => fallBack cfg f (stubGraph cfg incident)

/-- `RemediationPlannerAgent.run`. -/
def planRemediation (cfg : Settings) (incident : IncidentRecord) :
    Handler (IncidentRecord × ActionGraph) :=
  if !cfg.agenticEnabled then stubGraph cfg incident
  else
    match incident.responsePlan with
    | some plan => planWithLLM cfg incident plan.allowedActions
    | none =>
      if cfg.agenticStubFallback then stubGraph cfg incident
      else .raise (.fault .structuredLLMError)

/-! ## What the planner returns -/

/-- The action types of the stub graph. -/
def stubTypes (cfg : Settings) (incident : IncidentRecord) : List ActionType :=
  if incident.metadata.service == "checkout-service" &&
      isIn "deployment" (cfg.text.lower incident.metadata.symptom) then [.rollbackDeployment]
  else [.restartService, .scaleWorkload]

theorem stubActions_types (cfg : Settings) (incident : IncidentRecord) :
    (stubActions cfg incident).Yields fun actions ↦
      actions.map ActionRequest.actionType = stubTypes cfg incident := by
  rw [stubActions, stubTypes]
  split_ifs
  · exact fun _ ↦ rfl
  · exact fun _ _ ↦ rfl

theorem stubGraph_types (cfg : Settings) (incident : IncidentRecord) :
    (stubGraph cfg incident).Yields fun a ↦
      a.2.actions.map ActionRequest.actionType = stubTypes cfg incident :=
  Prog.Yields.bind (stubActions_types cfg _) fun _ hactions ↦
    Prog.Yields.rest fun _ ↦ hactions

theorem clampActions_types (cfg : Settings) (incident : IncidentRecord)
    (types : List ActionType) : (clampActions cfg incident types).Yields fun actions ↦
      actions.map ActionRequest.actionType = types := by
  induction types with
  | nil => exact rfl
  | cons t types ih =>
    refine yields_perform_bind.mpr fun hex ↦ Prog.Yields.bind ih fun actions hactions ↦ ?_
    exact congrArg (t :: ·) hactions

theorem clampActions_total (cfg : Settings) (incident : IncidentRecord)
    (types : List ActionType) : (clampActions cfg incident types).Total := by
  induction types with
  | nil => trivial
  | cons t types ih =>
    exact total_perform_bind.mpr fun _ ↦ Prog.Total.bind ih fun _ ↦ trivial

theorem buildPlanSteps_total (actions : List ActionRequest) : ∀ i : ℕ,
    (buildPlanSteps i actions).Total := by
  induction actions with
  | nil => exact fun _ ↦ trivial
  | cons a actions ih =>
    exact fun i ↦ total_perform_bind.mpr fun _ ↦ Prog.Total.bind (ih (i + 1)) fun _ ↦ trivial

/-- The stub never fails. -/
theorem stubGraph_total (cfg : Settings) (incident : IncidentRecord) :
    (stubGraph cfg incident).Total := by
  refine Prog.Total.bind ?_ fun actions ↦ Prog.Total.bind (buildPlanSteps_total actions 0) ?_
  · rw [stubActions]
    split_ifs
    · exact fun _ ↦ trivial
    · exact fun _ _ ↦ trivial
  · exact fun _ ↦ trivial

/-- The steps from position `i` on follow the actions. -/
theorem buildPlanSteps_yields (actions : List ActionRequest) : ∀ i : ℕ,
    (buildPlanSteps i actions).Yields fun steps ↦ steps.length = actions.length ∧
      (∀ step ∈ steps, step.stepId ≠ "") ∧
      ∀ (j : ℕ) (step : PlanStep) (action : ActionRequest), steps[j]? = some step →
        actions[j]? = some action →
          step.order = i + j ∧ step.actionRefId = some action.actionId := by
  induction actions with
  | nil =>
    intro i
    refine ⟨rfl, by simp, fun j step action hstep ↦ ?_⟩
    rw [List.getElem?_nil] at hstep
    cases hstep
  | cons a actions ih =>
    intro i
    refine yields_perform_bind.mpr fun hex ↦ ?_
    refine Prog.Yields.bind (ih (i + 1)) fun steps hsteps ↦ ⟨congrArg (· + 1) hsteps.1, ?_, ?_⟩
    · intro step hstep
      rcases List.mem_cons.mp hstep with rfl | hstep
      · simp
      · exact hsteps.2.1 step hstep
    rintro (_ | j) step action hstep haction
    · rw [List.getElem?_cons_zero] at hstep haction
      cases hstep
      cases haction
      exact ⟨rfl, rfl⟩
    · rw [List.getElem?_cons_succ] at hstep haction
      have h := hsteps.2.2 j step action hstep haction
      exact ⟨by rw [h.1]; omega, h.2⟩

theorem stubActions_yields (cfg : Settings) (incident : IncidentRecord) :
    (stubActions cfg incident).Yields (· ≠ []) := by
  rw [stubActions]
  split_ifs
  · exact fun _ ↦ List.cons_ne_nil _ _
  · exact fun _ _ ↦ List.cons_ne_nil _ _

theorem stubGraph_yields (cfg : Settings) (incident : IncidentRecord) :
    (stubGraph cfg incident).Yields fun a ↦ IsPlan a.2 := by
  refine Prog.Yields.bind (stubActions_yields cfg _) fun actions hactions ↦ ?_
  refine Prog.Yields.bind (buildPlanSteps_yields actions 0) fun steps hsteps ↦ ?_
  exact ⟨hactions, hsteps.1, hsteps.2.1,
    fun i step action h h' ↦ by simpa using hsteps.2.2 i step action h h'⟩

theorem plannedGraph_yields (out : PlannerLLMOutput) {actions : List ActionRequest}
    (hactions : actions ≠ []) : (plannedGraph out actions).Yields IsPlan := by
  refine Prog.Yields.bind (buildPlanSteps_yields actions 0) fun steps hsteps ↦ ?_
  exact ⟨hactions, hsteps.1, hsteps.2.1,
    fun i step action h h' ↦ by simpa using hsteps.2.2 i step action h h'⟩

theorem plannedGraph_actions (out : PlannerLLMOutput) (actions : List ActionRequest) :
    (plannedGraph out actions).Yields fun graph ↦ graph.actions = actions :=
  Prog.Yields.rest fun _ ↦ show actions = actions from rfl

theorem fallBack_yields {α : Type} (cfg : Settings) (f : Fault) {stub : Handler α} {R : α → Prop}
    (h : stub.Yields R) : (fallBack cfg f stub).Yields R := by
  rw [fallBack]
  split_ifs
  · exact h
  · trivial

theorem planWithLLM_yields (cfg : Settings) (incident : IncidentRecord)
    (allowed : List ActionType) :
    (planWithLLM cfg incident allowed).Yields fun a ↦ IsPlan a.2 := by
  refine yields_perform_bind.mpr fun answer ↦ ?_
  rcases answer with f | out
  · exact fallBack_yields cfg f (stubGraph_yields cfg incident)
  · refine Prog.Yields.rest fun actions ↦ ?_
    split_ifs with hempty
    · exact fun _ ↦ fallBack_yields cfg _ (stubGraph_yields cfg _)
    · have hactions : actions ≠ [] := by simpa using hempty
      exact Prog.Yields.bind (plannedGraph_yields out hactions) fun _ h ↦ h

/-- Whatever the language model answers, the planner returns a plan or raises. -/
theorem planRemediation_yields (cfg : Settings) (incident : IncidentRecord) :
    (planRemediation cfg incident).Yields fun a ↦ IsPlan a.2 := by
  rw [planRemediation]
  split
  · exact stubGraph_yields cfg incident
  · split
    · exact planWithLLM_yields cfg incident _
    · split
      · exact stubGraph_yields cfg incident
      · trivial

end IncidentPlatform
