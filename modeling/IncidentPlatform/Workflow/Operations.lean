import IncidentPlatform.Workflow.Route

/-!
# The operations of agents and routes

Which operations the agents can issue, whatever the answers, and from that which operations a
route can issue. An agent asks the clock, `uuid4`, its collectors and the language model. A step
also saves the record, with a checkpoint in the audit log, and a route records its decisions there.
No route asks the hot state, so its lock is taken and given back outside.
-/

namespace IncidentPlatform

open Interaction

/-- The operations of the agents. -/
def Op.ofAgent : Op → Prop
  | .utcnow | .uuid4 | .collect _ _ _ | .recentDeployments _ => True
  | .triageLLM _ | .evidenceLLM _ _ | .changeLLM _ _ | .rcaLLM _ | .plannerLLM _
  | .routerLLM _ _ => True
  | _ => False

/-- The operations that make evidence entries of what was collected. -/
def Op.ofEntries : Op → Prop
  | .utcnow | .uuid4 | .evidenceLLM _ _ => True
  | _ => False

/-- The operations of a step. -/
def Op.ofStep : Op → Prop
  | .previous _ | .touch _ | .write _ => True
  | .audit eventType _ => eventType = "workflow_checkpoint"
  | o => o.ofAgent

/-- The operations of a route. -/
def Op.ofRoute : Op → Prop
  | .audit _ _ => True
  | o => o.ofStep

theorem Op.ofEntries.ofAgent {o : Op} (h : o.ofEntries) : o.ofAgent := by
  cases o <;> trivial

theorem Op.ofAgent.ofStep {o : Op} (h : o.ofAgent) : o.ofStep := by
  cases o <;> trivial

theorem Op.ofStep.ofRoute {o : Op} (h : o.ofStep) : o.ofRoute := by
  cases o <;> trivial

section

variable {α β : Type} {P : Op → Prop}

theorem issues_bind {p : Handler α} {f : α → Handler β} (hp : p.Issues P)
    (hf : ∀ a, (f a).Issues P) : (p >>= f).Issues P :=
  Prog.Issues.bind hp hf

theorem issues_perform {o : Op} (ho : P o) : (perform o).Issues P := ⟨ho, fun _ ↦ trivial⟩

theorem orRaise_issues (a : Except Fault α) : (orRaise a).Issues P := by
  cases a <;> trivial

theorem require_issues (b : Bool) (e : Exc) : (require b e).Issues P := by
  rw [require]
  split_ifs <;> trivial

theorem fallBack_issues (cfg : Settings) (f : Fault) {stub : Handler α} (h : stub.Issues P) :
    (fallBack cfg f stub).Issues P := by
  rw [fallBack]
  split_ifs
  · exact h
  · trivial

end

/-! ## The agents -/

theorem triage_issues (cfg : Settings) (r : IncidentRecord) : (triage cfg r).Issues Op.ofAgent := by
  rw [triage]
  split_ifs
  · refine issues_bind (issues_perform trivial) fun answer ↦ ?_
    cases answer
    · exact fallBack_issues cfg _ trivial
    · trivial
  · trivial

theorem toolOp_issues (tool : ActionType) (service resource : String) :
    (toolOp tool service resource).Issues Op.ofAgent := by
  cases tool <;> exact issues_bind (issues_perform trivial) fun a ↦ orRaise_issues a

theorem newEvidence_ofEntries (source kind : String) (confidence : ℚ) (summary : String) :
    (newEvidence source kind confidence summary).Issues Op.ofEntries :=
  ⟨trivial, fun _ ↦ ⟨trivial, fun _ ↦ trivial⟩⟩

theorem entriesFor_ofEntries (raw : RawEvidence)
    (kinds : List (String × String × String × ℚ)) :
    (entriesFor raw kinds).Issues Op.ofEntries := by
  induction kinds with
  | nil => trivial
  | cons kind kinds ih =>
    obtain ⟨key, source, kind, confidence⟩ := kind
    rw [entriesFor]
    cases raw.lookup key
    · exact ih
    · exact issues_bind (newEvidence_ofEntries _ _ _ _) fun _ ↦ issues_bind ih fun _ ↦ trivial

theorem fromRawDict_ofEntries (raw : RawEvidence) : (fromRawDict raw).Issues Op.ofEntries := by
  refine issues_bind (entriesFor_ofEntries raw _) fun out ↦ ?_
  split_ifs
  · exact entriesFor_ofEntries _ _
  · trivial

theorem builtEntries_ofEntries (items : List EvidenceLLMItem) :
    (builtEntries items).Issues Op.ofEntries := by
  induction items with
  | nil => trivial
  | cons item items ih =>
    exact issues_bind (newEvidence_ofEntries _ _ _ _) fun _ ↦ issues_bind ih fun _ ↦ trivial

theorem evidenceEntries_ofEntries (cfg : Settings) (r : IncidentRecord) (raw : RawEvidence) :
    (evidenceEntries cfg r raw).Issues Op.ofEntries := by
  rw [evidenceEntries]
  split_ifs
  · refine issues_bind (issues_perform trivial) fun answer ↦ ?_
    rcases answer with f | items
    · exact fallBack_issues cfg f (fromRawDict_ofEntries raw)
    · refine issues_bind (builtEntries_ofEntries items) fun built ↦ ?_
      split_ifs
      · exact fallBack_issues cfg _ (fromRawDict_ofEntries raw)
      · trivial
  · exact fromRawDict_ofEntries raw

theorem newEvidence_issues (source kind : String) (confidence : ℚ) (summary : String) :
    (newEvidence source kind confidence summary).Issues Op.ofAgent :=
  Prog.Issues.mono (fun _ ↦ Op.ofEntries.ofAgent) (newEvidence_ofEntries _ _ _ _)

theorem fromRawDict_issues (raw : RawEvidence) : (fromRawDict raw).Issues Op.ofAgent :=
  Prog.Issues.mono (fun _ ↦ Op.ofEntries.ofAgent) (fromRawDict_ofEntries raw)

theorem evidenceEntries_issues (cfg : Settings) (r : IncidentRecord) (raw : RawEvidence) :
    (evidenceEntries cfg r raw).Issues Op.ofAgent :=
  Prog.Issues.mono (fun _ ↦ Op.ofEntries.ofAgent) (evidenceEntries_ofEntries cfg r raw)

theorem correlateChanges_issues (cfg : Settings) (r : IncidentRecord) :
    (correlateChanges cfg r).Issues Op.ofAgent := by
  refine issues_bind (issues_perform trivial) fun answer ↦
    issues_bind (orRaise_issues answer) fun raw ↦ ?_
  split_ifs
  · refine issues_bind (issues_perform trivial) fun answer ↦ ?_
    cases answer
    · exact fallBack_issues cfg _ (newEvidence_issues _ _ _ _)
    · exact newEvidence_issues _ _ _ _
  · exact newEvidence_issues _ _ _ _

theorem analyzeRootCause_issues (cfg : Settings) (r : IncidentRecord) :
    (analyzeRootCause cfg r).Issues Op.ofAgent := by
  rw [analyzeRootCause]
  split_ifs
  · refine issues_bind (issues_perform trivial) fun answer ↦ ?_
    rcases answer with f | _ | ⟨h, hs⟩
    · exact fallBack_issues cfg f trivial
    · exact fallBack_issues cfg _ trivial
    · trivial
  · trivial

theorem clampActions_issues (cfg : Settings) (r : IncidentRecord) (types : List ActionType) :
    (clampActions cfg r types).Issues Op.ofAgent := by
  induction types with
  | nil => trivial
  | cons t types ih =>
    exact issues_bind (issues_perform trivial) fun _ ↦ issues_bind ih fun _ ↦ trivial

theorem buildPlanSteps_issues (actions : List ActionRequest) : ∀ i,
    (buildPlanSteps i actions).Issues Op.ofAgent := by
  induction actions with
  | nil => exact fun _ ↦ trivial
  | cons a actions ih =>
    exact fun i ↦ issues_bind (issues_perform trivial) fun _ ↦
      issues_bind (ih (i + 1)) fun _ ↦ trivial

theorem stubActions_issues (cfg : Settings) (r : IncidentRecord) :
    (stubActions cfg r).Issues Op.ofAgent := by
  rw [stubActions]
  split_ifs
  · exact ⟨trivial, fun _ ↦ trivial⟩
  · exact ⟨trivial, fun _ ↦ ⟨trivial, fun _ ↦ trivial⟩⟩

theorem plannedGraph_issues (out : PlannerLLMOutput) (actions : List ActionRequest) :
    (plannedGraph out actions).Issues Op.ofAgent :=
  issues_bind (buildPlanSteps_issues actions 0) fun _ ↦ trivial

theorem deterministicNextStep_issues (cfg : Settings) (r : IncidentRecord) (plan : ResponsePlan) :
    (deterministicNextStep cfg r plan).Issues Op.ofAgent :=
  ⟨trivial, fun _ ↦ ⟨trivial, fun _ ↦ ⟨trivial, fun _ ↦ ⟨trivial, fun _ ↦ trivial⟩⟩⟩⟩

theorem computeRouterDecision_issues (cfg : Settings) (r : IncidentRecord) (plan : ResponsePlan) :
    (computeRouterDecision cfg r plan).Issues Op.ofAgent := by
  refine issues_bind (deterministicNextStep_issues cfg r plan) fun decision ↦ ?_
  split_ifs
  · refine issues_bind (issues_perform trivial) fun answer ↦ ?_
    cases answer
    · dsimp only
      split_ifs <;> trivial
    · trivial
  · trivial

theorem newTraceEntry_issues (phase message : String) (actionId : Option String)
    (success : Option Bool) (replanRequested : Bool) :
    (newTraceEntry phase message actionId success replanRequested).Issues Op.ofAgent :=
  ⟨trivial, fun _ ↦ ⟨trivial, fun _ ↦ trivial⟩⟩

/-! ## The steps -/

theorem assign_issues (r : IncidentRecord) : (assign r).Issues Op.ofStep := issues_perform trivial

theorem upsert_issues (r : IncidentRecord) : (upsert r).Issues Op.ofStep := by
  refine issues_bind (issues_perform trivial) fun previous ↦ issues_bind ?_ fun _ ↦
    issues_bind (issues_perform trivial) fun _ ↦
    issues_bind (issues_perform trivial) fun _ ↦ trivial
  cases previous
  · trivial
  · exact require_issues _ _

theorem save_issues (r : IncidentRecord) : (save r).Issues Op.ofStep :=
  issues_bind (assign_issues r) fun _ ↦ upsert_issues r

/-- What an agent issues, a step issues. -/
theorem agent_issues {α : Type} {p : Handler α} (h : p.Issues Op.ofAgent) :
    p.Issues Op.ofStep :=
  Prog.Issues.mono (fun _ ↦ Op.ofAgent.ofStep) h

/-- What a step issues, a route issues. -/
theorem step_issues {α : Type} {p : Handler α} (h : p.Issues Op.ofStep) : p.Issues Op.ofRoute :=
  Prog.Issues.mono (fun _ ↦ Op.ofStep.ofRoute) h

theorem writeCheckpoint_issues (worker : Bool) (r : IncidentRecord) (step : String) :
    (writeCheckpoint worker r step).Issues Op.ofStep :=
  issues_bind (save_issues _) fun _ ↦ issues_bind (issues_perform rfl) fun _ ↦ trivial

theorem collectKey_issues (wanted : Bool) (key : String) (tool : ActionType)
    (state : IncidentRecord × RawEvidence) :
    (collectKey wanted key tool state).Issues Op.ofStep := by
  rw [collectKey]
  split_ifs
  · exact issues_bind (agent_issues (toolOp_issues _ _ _)) fun _ ↦
      issues_bind (assign_issues _) fun _ ↦ trivial
  · trivial

theorem collectRaw_issues (r : IncidentRecord) (intents : List String) :
    (collectRaw r intents).Issues Op.ofStep := by
  refine issues_bind (collectKey_issues _ _ _ _) fun s₁ ↦
    issues_bind (collectKey_issues _ _ _ _) fun s₂ ↦
    issues_bind (collectKey_issues _ _ _ _) fun s₃ ↦
    issues_bind (collectKey_issues _ _ _ _) fun s₄ ↦ ?_
  split_ifs
  · exact issues_bind (agent_issues (toolOp_issues _ _ _)) fun _ ↦
      issues_bind (agent_issues (toolOp_issues _ _ _)) fun _ ↦
      issues_bind (assign_issues _) fun _ ↦ trivial
  · trivial

theorem gatherEvidence_issues (cfg : Settings) (r : IncidentRecord) :
    (gatherEvidence cfg r).Issues Op.ofStep :=
  issues_bind (collectRaw_issues _ _) fun _ ↦
    issues_bind (agent_issues (evidenceEntries_issues _ _ _)) fun _ ↦ trivial

theorem stubGraph_issues (cfg : Settings) (r : IncidentRecord) :
    (stubGraph cfg r).Issues Op.ofAgent :=
  issues_bind (stubActions_issues _ _) fun _ ↦
    issues_bind (buildPlanSteps_issues _ _) fun _ ↦ trivial

theorem planWithLLM_issues (cfg : Settings) (r : IncidentRecord) (allowed : List ActionType) :
    (planWithLLM cfg r allowed).Issues Op.ofStep := by
  refine issues_bind (issues_perform trivial) fun answer ↦ ?_
  rcases answer with f | out
  · exact fallBack_issues cfg f (agent_issues (stubGraph_issues cfg r))
  · refine issues_bind (agent_issues (clampActions_issues _ _ _)) fun actions ↦ ?_
    split_ifs
    · exact issues_bind (assign_issues _) fun _ ↦
        fallBack_issues cfg _ (agent_issues (stubGraph_issues cfg _))
    · exact issues_bind (agent_issues (plannedGraph_issues _ _)) fun _ ↦ trivial

theorem planRemediation_issues (cfg : Settings) (r : IncidentRecord) :
    (planRemediation cfg r).Issues Op.ofStep := by
  rw [planRemediation]
  split
  · exact agent_issues (stubGraph_issues cfg r)
  · split
    · exact planWithLLM_issues cfg r _
    · split
      · exact agent_issues (stubGraph_issues cfg r)
      · trivial

theorem triageStep_issues (cfg : Settings) (worker : Bool) (r : IncidentRecord) :
    (triageStep cfg worker r).Issues Op.ofStep :=
  issues_bind (agent_issues (triage_issues cfg r)) fun _ ↦ writeCheckpoint_issues _ _ _

theorem evidenceStep_issues (cfg : Settings) (worker : Bool) (r : IncidentRecord) :
    (evidenceStep cfg worker r).Issues Op.ofStep :=
  issues_bind (gatherEvidence_issues cfg r) fun _ ↦ writeCheckpoint_issues _ _ _

theorem changeStep_issues (cfg : Settings) (worker : Bool) (r : IncidentRecord) :
    (changeStep cfg worker r).Issues Op.ofStep :=
  issues_bind (agent_issues (correlateChanges_issues cfg r)) fun _ ↦ writeCheckpoint_issues _ _ _

theorem rcaStep_issues (cfg : Settings) (worker : Bool) (r : IncidentRecord) :
    (rcaStep cfg worker r).Issues Op.ofStep :=
  issues_bind (agent_issues (analyzeRootCause_issues cfg r)) fun _ ↦ writeCheckpoint_issues _ _ _

theorem appendTrace_issues (r : IncidentRecord) (phase message : String) :
    (appendTrace r phase message).Issues Op.ofAgent :=
  issues_bind (newTraceEntry_issues _ _ _ _ _) fun _ ↦ trivial

theorem plannerStep_issues (cfg : Settings) (worker : Bool) (r : IncidentRecord) :
    (plannerStep cfg worker r).Issues Op.ofStep :=
  issues_bind (planRemediation_issues cfg r) fun _ ↦
    issues_bind (writeCheckpoint_issues _ _ _) fun _ ↦ agent_issues (appendTrace_issues _ _ _)

theorem runStep_issues (cfg : Settings) (worker : Bool) (r : IncidentRecord) (step : String) :
    (runStep cfg worker r step).Issues Op.ofStep := by
  unfold runStep
  split
  · exact issues_bind (triageStep_issues cfg worker r) fun _ ↦ trivial
  · exact issues_bind (evidenceStep_issues cfg worker r) fun _ ↦ trivial
  · exact issues_bind (changeStep_issues cfg worker r) fun _ ↦ trivial
  · exact issues_bind (rcaStep_issues cfg worker r) fun _ ↦ trivial
  · exact issues_bind (plannerStep_issues cfg worker r) fun _ ↦ trivial
  · exact issues_bind (agent_issues (appendTrace_issues _ _ _)) fun _ ↦ trivial
  · trivial

/-! ## The routes -/

theorem persistDecision_issues (r : IncidentRecord) (decision : RouterDecision) :
    (persistDecision r decision).Issues Op.ofRoute :=
  issues_bind (issues_perform trivial) fun _ ↦ issues_bind (issues_perform trivial) fun _ ↦
    issues_bind (step_issues (assign_issues _)) fun _ ↦
    issues_bind (issues_perform trivial) fun _ ↦ trivial

theorem decideNext_issues (cfg : Settings) (r : IncidentRecord) (plan : ResponsePlan) :
    (decideNext cfg r plan).Issues Op.ofRoute :=
  issues_bind (step_issues (assign_issues _)) fun _ ↦
    issues_bind (step_issues (agent_issues (computeRouterDecision_issues cfg _ plan))) fun _ ↦
    issues_bind (persistDecision_issues _ _) fun _ ↦
    issues_bind (step_issues (agent_issues (appendTrace_issues _ _ _))) fun _ ↦
    issues_bind (step_issues (assign_issues _)) fun _ ↦ trivial

theorem decisionLoop_issues (cfg : Settings) (worker : Bool) (plan : ResponsePlan) (n : ℕ) :
    ∀ r : IncidentRecord, (decisionLoop cfg worker plan n r).Issues Op.ofRoute := by
  induction n with
  | zero => exact fun _ ↦ trivial
  | succ n ih =>
    intro r
    rw [decisionLoop]
    refine issues_bind (decideNext_issues cfg r plan) ?_
    rintro ⟨r₁, decision⟩
    dsimp only
    split
    · exact step_issues (agent_issues (appendTrace_issues _ _ _))
    · refine issues_bind (step_issues (runStep_issues cfg worker r₁ _)) ?_
      rintro ⟨r₂, continues⟩
      dsimp only
      split
      · exact issues_bind (step_issues (save_issues r₂)) fun r₃ ↦ ih r₃
      · trivial

theorem runDecisionLoopRoute_issues (cfg : Settings) (worker : Bool) (r : IncidentRecord) :
    (runDecisionLoopRoute cfg worker r).Issues Op.ofRoute :=
  issues_bind (step_issues (writeCheckpoint_issues _ _ _)) fun _ ↦
    issues_bind (decisionLoop_issues cfg worker _ _ _) fun _ ↦ step_issues (save_issues _)

theorem runLinearRoute_issues (cfg : Settings) (worker : Bool) (r : IncidentRecord) :
    (runLinearRoute cfg worker r).Issues Op.ofRoute :=
  issues_bind (step_issues (writeCheckpoint_issues _ _ _)) fun _ ↦
    issues_bind (step_issues (triageStep_issues cfg worker _)) fun _ ↦
    issues_bind (step_issues (gatherEvidence_issues cfg _)) fun _ ↦
    issues_bind (step_issues (writeCheckpoint_issues _ _ _)) fun _ ↦
    issues_bind (step_issues (changeStep_issues cfg worker _)) fun _ ↦
    issues_bind (step_issues (agent_issues (analyzeRootCause_issues cfg _))) fun _ ↦
    issues_bind (step_issues (writeCheckpoint_issues _ _ _)) fun _ ↦ step_issues (save_issues _)

theorem executeRoute_issues (cfg : Settings) (worker : Bool) (r : IncidentRecord) :
    (executeRoute cfg worker r).Issues Op.ofRoute := by
  rw [executeRoute]
  split
  · exact runDecisionLoopRoute_issues cfg worker r
  · exact runLinearRoute_issues cfg worker r

end IncidentPlatform
