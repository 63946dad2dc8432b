import IncidentPlatform.Interaction.Given
import IncidentPlatform.Workflow.Operations
import Mathlib.Tactic.NormNum

/-!
# What routing keeps of a record

`WellKept` is what the code never spoils in an incident record: lists without repetitions, scores
between 0 and 1, decisions that stay within the response plan and the limit of the loop, and
pending actions as the planner makes them. Every record a handler writes is well kept as long as
those it reads are, and the language model answers what its schemas admit. Nothing else is asked
of the answers, so the property survives any interleaving of handlers.

`Upkeep` says so of a program. Its parameter `Act` is for the actions that reach the adapters, and
routing issues none.
-/

namespace IncidentPlatform

open Interaction

/-! ## Well-kept records -/

/-- `Field(ge=0.0, le=1.0)`. -/
def Score (q : ℚ) : Prop := 0 ≤ q ∧ q ≤ 1

/-- The planner may use its stub. -/
def Settings.plansWithStub (cfg : Settings) : Bool := !cfg.agenticEnabled || cfg.agenticStubFallback

/-- The response plan that an incident is matched with. -/
def IncidentRecord.matchedPlan (cfg : Settings) (r : IncidentRecord) : ResponsePlan :=
  matchResponsePlan cfg.text r.metadata.severity r.metadata.symptom

/-- The parameters that only the stub graph has. -/
def StubParameters (a : ActionRequest) (service : String) : Prop :=
  a.actionType = .rollbackDeployment ∧ a.parameters = [("service", .str service),
      ("deployment", .str "checkout-service"), ("to_revision", .str "checkout-r42")] ∨
    a.actionType = .scaleWorkload ∧
      a.parameters = [("service", .str service), ("maxReplicas", .num 5)]

/-- An action as the planner makes it for an incident. -/
structure PlannedAction (cfg : Settings) (incident : IncidentEnvelope) (a : ActionRequest) :
    Prop where
  target : a.target = incident.resource
  dryRun : a.dryRun = cfg.plannerDefaultDryRun
  parameters : a.parameters = [("service", .str incident.service)] ∨
    cfg.plansWithStub = true ∧ StubParameters a incident.service

/-- A decision of the loop, within the plan. -/
structure KeptDecision (plan : ResponsePlan) (d : RouterDecision) : Prop where
  confidence : Score d.decisionConfidence
  allowed : d.allowedActions ⊆ plan.allowedActions
  investigates : d.investigateOnly = true → d.nextWorkflow ≠ "planner" ∧ d.nextWorkflow ≠ "execute"

/-- The steps that have a checkpoint. -/
def checkpoints : List String := ["match", "triage", "evidence", "change", "rca", "planned"]

structure WellKept (cfg : Settings) (r : IncidentRecord) : Prop where
  toolsUsed : r.toolsUsed.Nodup
  blockedActions : r.blockedActions.Nodup
  agentPath : r.agentPath.Nodup ∧ r.agentPath ⊆ checkpoints
  evidence : ∀ e ∈ r.evidence, Score e.confidence
  links : ∀ l ∈ r.hypothesisLinks, Score l.confidence
  confidence : Score r.lastPlannerConfidence
  coverage : Score r.evidenceCoverageScore
  plan : ∀ plan ∈ r.responsePlan, plan = r.matchedPlan cfg ∧ r.allowedActions = plan.allowedActions
  iteration : r.workflowIteration ≤ cfg.maxIterations
  decisions : ∀ d ∈ r.decisionRecords, 1 ≤ d.iteration ∧ d.iteration ≤ cfg.maxIterations ∧
    ∃ decision, d.routerDecision = some decision ∧ KeptDecision (r.matchedPlan cfg) decision
  latest : r.latestRouterDecision = r.decisionRecords.getLast?.bind DecisionRecord.routerDecision
  pending : ∀ graph ∈ r.pendingActionGraph, ∀ a ∈ graph.actions, PlannedAction cfg r.metadata a

/-! ## Answers and operations -/

/-- What the schemas admit of the answers of the language model. -/
def SchemaValid : (o : Op) → Ans o → Prop
  | .evidenceLLM _ _, .ok items => ∀ item ∈ items, Score item.confidence
  | .changeLLM _ _, .ok out => Score out.confidence
  | .rcaLLM _, .ok hypotheses => ∀ h ∈ hypotheses, Score h.confidence
  | .plannerLLM _, .ok out => Score out.plannerConfidence
  | .routerLLM _ _, .ok out => Score out.decisionConfidence
  | _, _ => True

/-- The records that are read are well kept. -/
def ReadsKept (cfg : Settings) : (o : Op) → Ans o → Prop
  | .get _, answer | .getByDedupeKey _, answer | .previous _, answer =>
    ∀ r ∈ answer, WellKept cfg r
  | _, _ => True

/-- The records that are written are well kept. -/
def WritesKept (cfg : Settings) (Act : ActionRequest → Prop) : Op → Prop
  | .touch r | .write r => WellKept cfg r
  | .registryRun action => Act action
  | _ => True

/-- A program that keeps its records well. -/
abbrev Upkeep {α : Type} (cfg : Settings) (Act : ActionRequest → Prop) (p : Handler α)
    (R : α → Prop) : Prop :=
  p.Given (fun o a ↦ SchemaValid o a ∧ ReadsKept cfg o a) (WritesKept cfg Act) R

/-- A later version of a record, in the same iteration. -/
structure Tended (cfg : Settings) (b r : IncidentRecord) : Prop where
  kept : WellKept cfg r
  metadata : r.metadata = b.metadata
  iteration : r.workflowIteration = b.workflowIteration

section

variable {cfg : Settings} {Act : ActionRequest → Prop} {α β : Type} {b r : IncidentRecord}

theorem Tended.refl (h : WellKept cfg r) : Tended cfg r r := ⟨h, rfl, rfl⟩

theorem Tended.trans {s : IncidentRecord} (h : Tended cfg b r) (h' : Tended cfg r s) :
    Tended cfg b s :=
  ⟨h'.kept, h'.metadata.trans h.metadata, h'.iteration.trans h.iteration⟩

/-- A program that writes nothing and runs no action. -/
theorem Upkeep.of_agent {p : Handler α} {R : α → Prop} (hp : p.Issues Op.ofAgent)
    (hR : p.Yields R) : Upkeep cfg Act p R :=
  Prog.Given.of_issues (hp.mono fun o ho ↦ by cases o <;> trivial) hR

theorem Upkeep.perform_bind {o : Op} {f : Ans o → Handler β} {R : β → Prop}
    (ho : WritesKept cfg Act o)
    (hf : ∀ a, SchemaValid o a → ReadsKept cfg o a → Upkeep cfg Act (f a) R) :
    Upkeep cfg Act (perform o >>= f) R :=
  ⟨ho, fun a ha ↦ hf a ha.1 ha.2⟩

theorem Upkeep.require (b : Bool) (e : Exc) : Upkeep cfg Act (require b e) fun _ ↦ True :=
  Prog.Given.of_issues (require_issues b e) (Prog.Yields.true _)

theorem Upkeep.orRaise (a : Except Fault α) :
    Upkeep cfg Act (orRaise a) fun x ↦ a = .ok x := by
  cases a with
  | ok x => exact rfl
  | error f => trivial

theorem Upkeep.fallBack {f : Fault} {stub : Handler α} {R : α → Prop}
    (h : Upkeep cfg Act stub R) : Upkeep cfg Act (fallBack cfg f stub) R := by
  rw [IncidentPlatform.fallBack]
  split_ifs
  · exact h
  · trivial

end

/-! ## Records -/

section

variable {cfg : Settings} {r : IncidentRecord}

theorem nodup_append_singleton {α : Type} {a : α} {l : List α} (ha : a ∉ l) (hl : l.Nodup) :
    (l ++ [a]).Nodup := by
  rw [← List.concat_eq_append]
  exact List.Nodup.concat ha hl

/-- The two fields that a save sets are not among those that are kept. -/
theorem WellKept.stamp (h : WellKept cfg r) (previous : Option IncidentRecord) (updatedAt : Time) :
    WellKept cfg (stamp previous updatedAt r) :=
  { h with }

theorem WellKept.recordTool (h : WellKept cfg r) (tool : ActionType) :
    WellKept cfg (recordTool r tool) := by
  rw [IncidentPlatform.recordTool]
  split_ifs with hmem
  · exact h
  · exact { h with toolsUsed := nodup_append_singleton hmem h.toolsUsed }

theorem WellKept.withStep (h : WellKept cfg r) {step : String} (hstep : step ∈ checkpoints) :
    WellKept cfg (r.withStep step) := by
  rw [IncidentRecord.withStep]
  split_ifs with hmem
  · exact h
  · exact { h with agentPath := ⟨nodup_append_singleton hmem h.agentPath.1,
      List.append_subset.mpr ⟨h.agentPath.2, List.cons_subset.mpr ⟨hstep, List.nil_subset _⟩⟩⟩ }

theorem WellKept.withEvidence (h : WellKept cfg r) {evidence : List EvidenceEntry}
    (hevidence : ∀ e ∈ evidence, Score e.confidence) : WellKept cfg (r.withEvidence evidence) :=
  { h with evidence := List.forall_mem_append.mpr ⟨h.evidence, hevidence⟩ }

theorem WellKept.withCoverage (h : WellKept cfg r) : WellKept cfg r.withCoverage :=
  { h with
    coverage := ⟨le_min zero_le_one (div_nonneg (Nat.cast_nonneg _) (by decide)), min_le_left _ _⟩ }

theorem WellKept.withConfidence (h : WellKept cfg r) {confidence : ℚ}
    (hconfidence : Score confidence) : WellKept cfg (r.withConfidence confidence) :=
  { h with confidence := hconfidence }

theorem hypothesisLinks_scores {hypotheses : List RCAHypothesisItem}
    (h : ∀ x ∈ hypotheses, Score x.confidence) (incidentId : String) :
    ∀ i, ∀ l ∈ hypothesisLinks incidentId i hypotheses, Score l.confidence := by
  induction hypotheses with
  | nil => exact fun _ _ hl ↦ absurd hl List.not_mem_nil
  | cons x hypotheses ih =>
    intro i
    obtain ⟨hx, hrest⟩ := List.forall_mem_cons.mp h
    exact List.forall_mem_cons.mpr ⟨hx, ih hrest (i + 1)⟩

theorem WellKept.withLinks (h : WellKept cfg r) {links : List HypothesisLink}
    (hlinks : ∀ l ∈ links, Score l.confidence) : WellKept cfg (r.withLinks links) :=
  { h with links := List.forall_mem_append.mpr ⟨h.links, hlinks⟩ }

theorem WellKept.matchPlan (h : WellKept cfg r) : WellKept cfg (matchPlan cfg r) :=
  { h with plan := fun plan hplan ↦ by rw [← Option.mem_some.mp hplan]; exact ⟨rfl, rfl⟩ }

theorem WellKept.withIteration (h : WellKept cfg r) {iteration : ℕ}
    (hiteration : iteration ≤ cfg.maxIterations) : WellKept cfg (r.withIteration iteration) :=
  { h with iteration := hiteration }

theorem WellKept.withDecision (h : WellKept cfg r) {decision : RouterDecision}
    {record : DecisionRecord} (hdecision : KeptDecision (r.matchedPlan cfg) decision)
    (hrecord : record.routerDecision = some decision) (hpositive : 1 ≤ record.iteration)
    (hbound : record.iteration ≤ cfg.maxIterations) :
    WellKept cfg (r.withDecision decision record) :=
  { h with
    decisions := List.forall_mem_append.mpr ⟨h.decisions,
      List.forall_mem_singleton.mpr ⟨hpositive, hbound, decision, hrecord, hdecision⟩⟩
    latest := by
      change some decision = (r.decisionRecords ++ [record]).getLast?.bind _
      rw [List.getLast?_concat, Option.bind_some, hrecord] }

end

/-! ## The agents -/

section

variable {cfg : Settings} {Act : ActionRequest → Prop} {b r : IncidentRecord}

theorem triage_upkeep : Upkeep cfg Act (triage cfg r) fun _ ↦ True :=
  Upkeep.of_agent (triage_issues cfg r) (Prog.Yields.true _)

theorem collectKey_upkeep (wanted : Bool) (key : String) (tool : ActionType)
    {state : IncidentRecord × RawEvidence} (h : Tended cfg b state.1) :
    Upkeep cfg Act (collectKey wanted key tool state) fun state' ↦ Tended cfg b state'.1 := by
  rw [collectKey]
  split_ifs
  · refine Prog.Given.bind (Upkeep.of_agent (toolOp_issues _ _ _) (Prog.Yields.true _))
      fun text _ ↦ ?_
    have hrecorded := h.kept.recordTool tool
    refine ⟨hrecorded, fun _ _ ↦ ⟨hrecorded, ?_, ?_⟩⟩
    · rw [← h.metadata, recordTool]
      split_ifs <;> rfl
    · rw [← h.iteration, recordTool]
      split_ifs <;> rfl
  · exact h

theorem collectRaw_upkeep (intents : List String) (h : WellKept cfg r) :
    Upkeep cfg Act (collectRaw r intents) fun state ↦ Tended cfg r state.1 := by
  refine Prog.Given.bind (collectKey_upkeep _ _ _ (Tended.refl h)) fun state₁ h₁ ↦ ?_
  refine Prog.Given.bind (collectKey_upkeep _ _ _ h₁) fun state₂ h₂ ↦ ?_
  refine Prog.Given.bind (collectKey_upkeep _ _ _ h₂) fun state₃ h₃ ↦ ?_
  refine Prog.Given.bind (collectKey_upkeep _ _ _ h₃) fun state₄ h₄ ↦ ?_
  split_ifs
  · refine Prog.Given.bind (Upkeep.of_agent (toolOp_issues _ _ _) (Prog.Yields.true _))
      fun metrics _ ↦ Prog.Given.bind (Upkeep.of_agent (toolOp_issues _ _ _) (Prog.Yields.true _))
        fun logs _ ↦ ?_
    have hrecorded := (h₄.kept.recordTool .queryMetrics).recordTool .queryLogs
    refine ⟨hrecorded, fun _ _ ↦ ⟨hrecorded, ?_, ?_⟩⟩
    · rw [← h₄.metadata, recordTool, recordTool]
      split_ifs <;> rfl
    · rw [← h₄.iteration, recordTool, recordTool]
      split_ifs <;> rfl
  · exact h₄

/-- Entries with scores. -/
def EntryScores (entries : List EvidenceEntry) : Prop := ∀ e ∈ entries, Score e.confidence

theorem newEvidence_upkeep (source kind : String) {confidence : ℚ} (summary : String)
    (h : Score confidence) :
    Upkeep cfg Act (newEvidence source kind confidence summary) fun e ↦ Score e.confidence :=
  Upkeep.of_agent (newEvidence_issues _ _ _ _) fun _ _ ↦ h

theorem entriesFor_upkeep (raw : RawEvidence) {kinds : List (String × String × String × ℚ)}
    (hkinds : ∀ kind ∈ kinds, Score kind.2.2.2) :
    Upkeep cfg Act (entriesFor raw kinds) EntryScores := by
  induction kinds with
  | nil => exact fun _ h ↦ absurd h List.not_mem_nil
  | cons kind kinds ih =>
    obtain ⟨key, source, name, confidence⟩ := kind
    obtain ⟨hkind, hrest⟩ := List.forall_mem_cons.mp hkinds
    rw [entriesFor]
    cases raw.lookup key with
    | none => exact ih hrest
    | some summary =>
      exact Prog.Given.bind (newEvidence_upkeep _ _ _ hkind) fun e he ↦
        Prog.Given.bind (ih hrest) fun _ hentries ↦ List.forall_mem_cons.mpr ⟨he, hentries⟩

theorem rawKinds_scores : ∀ kind ∈ rawKinds, Score kind.2.2.2 := by
  simp only [rawKinds, Score, List.forall_mem_cons]
  norm_num

theorem fromRawDict_upkeep (raw : RawEvidence) : Upkeep cfg Act (fromRawDict raw) EntryScores := by
  refine Prog.Given.bind (entriesFor_upkeep raw rawKinds_scores) fun out hout ↦ ?_
  split_ifs
  · exact entriesFor_upkeep _ rawKinds_scores
  · exact hout

theorem builtEntries_upkeep {items : List EvidenceLLMItem}
    (h : ∀ item ∈ items, Score item.confidence) :
    Upkeep cfg Act (builtEntries items) EntryScores := by
  induction items with
  | nil => exact fun _ h ↦ absurd h List.not_mem_nil
  | cons item items ih =>
    obtain ⟨hitem, hrest⟩ := List.forall_mem_cons.mp h
    exact Prog.Given.bind (newEvidence_upkeep _ _ _ hitem) fun e he ↦
      Prog.Given.bind (ih hrest) fun _ hentries ↦ List.forall_mem_cons.mpr ⟨he, hentries⟩

theorem evidenceEntries_upkeep (r : IncidentRecord) (raw : RawEvidence) :
    Upkeep cfg Act (evidenceEntries cfg r raw) EntryScores := by
  rw [evidenceEntries]
  split_ifs
  · refine Upkeep.perform_bind trivial fun answer hvalid _ ↦ ?_
    rcases answer with f | items
    · exact Upkeep.fallBack (fromRawDict_upkeep raw)
    · refine Prog.Given.bind (builtEntries_upkeep hvalid) fun built hbuilt ↦ ?_
      split_ifs
      · exact Upkeep.fallBack (fromRawDict_upkeep raw)
      · exact hbuilt
  · exact fromRawDict_upkeep raw

theorem gatherEvidence_upkeep (h : WellKept cfg r) :
    Upkeep cfg Act (gatherEvidence cfg r) fun gathered ↦
      Tended cfg r gathered.1 ∧ EntryScores gathered.2 :=
  Prog.Given.bind (collectRaw_upkeep _ h) fun state hstate ↦
    Prog.Given.bind (evidenceEntries_upkeep state.1 state.2) fun _ hentries ↦ ⟨hstate, hentries⟩

theorem correlateChanges_upkeep :
    Upkeep cfg Act (correlateChanges cfg r) fun e ↦ Score e.confidence := by
  refine Upkeep.perform_bind trivial fun answer _ _ ↦
    Prog.Given.bind (Upkeep.orRaise answer) fun raw _ ↦ ?_
  have hstub : Upkeep cfg Act (newEvidence "change-correlation" "deployment-history" (66 / 100) raw)
      fun e ↦ Score e.confidence := newEvidence_upkeep _ _ _ (by norm_num [Score])
  dsimp only
  split_ifs
  · refine Upkeep.perform_bind trivial fun answer hvalid _ ↦ ?_
    rcases answer with f | out
    · exact Upkeep.fallBack hstub
    · exact newEvidence_upkeep _ _ _ hvalid
  · exact hstub

theorem rcaStub_scores (r : IncidentRecord) : ∀ h ∈ rcaStub cfg r, Score h.confidence := by
  unfold rcaStub
  dsimp only
  split_ifs <;> norm_num [Score]

theorem analyzeRootCause_upkeep :
    Upkeep cfg Act (analyzeRootCause cfg r) fun hypotheses ↦
      ∀ h ∈ hypotheses, Score h.confidence := by
  rw [analyzeRootCause]
  split_ifs
  · refine Upkeep.perform_bind trivial fun answer hvalid _ ↦ ?_
    rcases answer with f | _ | ⟨h, hypotheses⟩
    · exact Upkeep.fallBack (rcaStub_scores r)
    · exact Upkeep.fallBack (rcaStub_scores r)
    · exact hvalid
  · exact rcaStub_scores r

/-! ### The planner -/

/-- Actions as the planner makes them. -/
def Planned (cfg : Settings) (incident : IncidentEnvelope) (actions : List ActionRequest) : Prop :=
  ∀ a ∈ actions, PlannedAction cfg incident a

theorem clampActions_upkeep (types : List ActionType) :
    Upkeep cfg Act (clampActions cfg r types) (Planned cfg r.metadata) := by
  induction types with
  | nil => exact fun _ h ↦ absurd h List.not_mem_nil
  | cons t types ih =>
    exact Upkeep.perform_bind trivial fun hex _ _ ↦ Prog.Given.bind ih fun actions hactions ↦
      List.forall_mem_cons.mpr ⟨⟨rfl, rfl, Or.inl rfl⟩, hactions⟩

theorem stubActions_planned (hstub : cfg.plansWithStub = true) :
    (stubActions cfg r).Yields (Planned cfg r.metadata) := by
  rw [stubActions]
  split_ifs
  · exact fun _ ↦ List.forall_mem_singleton.mpr ⟨rfl, rfl, Or.inr ⟨hstub, Or.inl ⟨rfl, rfl⟩⟩⟩
  · exact fun _ _ ↦ List.forall_mem_cons.mpr ⟨⟨rfl, rfl, Or.inl rfl⟩,
      List.forall_mem_singleton.mpr ⟨rfl, rfl, Or.inr ⟨hstub, Or.inr ⟨rfl, rfl⟩⟩⟩⟩

/-- A record with its confidence, and a graph for it. -/
def PlannedFor (cfg : Settings) (r : IncidentRecord) (planned : IncidentRecord × ActionGraph) :
    Prop :=
  Tended cfg r planned.1 ∧ Planned cfg r.metadata planned.2.actions

theorem stubGraph_upkeep (h : WellKept cfg r) (hstub : cfg.plansWithStub = true) :
    Upkeep cfg Act (stubGraph cfg r) (PlannedFor cfg r) := by
  refine Prog.Given.bind (Upkeep.of_agent (stubActions_issues cfg _) (stubActions_planned hstub))
    fun actions hactions ↦ Prog.Given.bind (Upkeep.of_agent (buildPlanSteps_issues actions 0)
      (Prog.Yields.true _)) fun steps _ ↦ ?_
  exact ⟨⟨h.withConfidence (by norm_num [Score]), rfl, rfl⟩, hactions⟩

/-- The stub, after the language model has failed. -/
theorem fallBack_stubGraph_upkeep (h : WellKept cfg r) (f : Fault) :
    Upkeep cfg Act (fallBack cfg f (stubGraph cfg r)) (PlannedFor cfg r) := by
  rw [fallBack]
  split_ifs with hfall
  · refine stubGraph_upkeep h ?_
    rw [Settings.plansWithStub, (Bool.and_eq_true_iff.mp hfall).2, Bool.or_true]
  · trivial

theorem planWithLLM_upkeep (h : WellKept cfg r) (allowed : List ActionType) :
    Upkeep cfg Act (planWithLLM cfg r allowed) (PlannedFor cfg r) := by
  refine Upkeep.perform_bind trivial fun answer hvalid _ ↦ ?_
  rcases answer with f | out
  · exact fallBack_stubGraph_upkeep h f
  · have hconfident : WellKept cfg (r.withConfidence out.plannerConfidence) :=
      h.withConfidence hvalid
    refine Prog.Given.bind (clampActions_upkeep _) fun actions hactions ↦ ?_
    split_ifs
    · exact Upkeep.perform_bind hconfident fun _ _ _ ↦
        (fallBack_stubGraph_upkeep hconfident _).mono fun _ hplanned ↦
          ⟨⟨hplanned.1.kept, hplanned.1.metadata, hplanned.1.iteration⟩, hplanned.2⟩
    · refine Prog.Given.bind (Upkeep.of_agent (plannedGraph_issues _ _)
        (plannedGraph_actions _ _)) fun graph hgraph ↦ ⟨⟨hconfident, rfl, rfl⟩, ?_⟩
      rw [hgraph]
      exact hactions

theorem planRemediation_upkeep (h : WellKept cfg r) :
    Upkeep cfg Act (planRemediation cfg r) (PlannedFor cfg r) := by
  rw [planRemediation]
  split
  · rename_i hoff
    exact stubGraph_upkeep h (by rw [Settings.plansWithStub, hoff, Bool.true_or])
  · split
    · exact planWithLLM_upkeep h _
    · split
      · rename_i hfall
        exact stubGraph_upkeep h (by rw [Settings.plansWithStub, hfall, Bool.or_true])
      · trivial

/-! ### The router -/

theorem computeRouterDecision_upkeep (plan : ResponsePlan) :
    Upkeep cfg Act (computeRouterDecision cfg r plan) fun d ↦
      Score d.decisionConfidence ∧ d.allowedActions = plan.allowedActions := by
  have hdeterministic : Upkeep cfg Act (deterministicNextStep cfg r plan) fun d ↦
      Score d.decisionConfidence ∧ d.allowedActions = plan.allowedActions := by
    refine Upkeep.of_agent (deterministicNextStep_issues cfg r plan) fun _ _ _ _ ↦ ⟨?_, rfl⟩
    dsimp only
    split_ifs <;> norm_num [Score]
  refine Prog.Given.bind hdeterministic fun d hd ↦ ?_
  split_ifs
  · refine Upkeep.perform_bind trivial fun answer hvalid _ ↦ ?_
    rcases answer with f | out
    · dsimp only
      split_ifs
      · exact hd
      · trivial
    · exact ⟨hvalid, hd.2⟩
  · exact hd

/-- A decision stays within the plan, and one to investigate only plans nothing. -/
theorem restrictDecision_kept {plan : ResponsePlan} {d : RouterDecision}
    (h : Score d.decisionConfidence) : KeptDecision plan (restrictDecision d plan) := by
  have hallowed : (mergeRouterAllowedWithPlan d plan).allowedActions ⊆ plan.allowedActions := by
    rw [mergeRouterAllowedWithPlan]
    dsimp only
    split_ifs
    · exact List.Subset.refl _
    · exact fun a ha ↦ of_decide_eq_true (List.mem_filter.mp ha).2
  rw [restrictDecision]
  split_ifs with hblocked
  · exact ⟨h, hallowed, fun _ ↦ by simp⟩
  · refine ⟨h, hallowed, fun honly ↦ ?_⟩
    rw [honly, Bool.true_and, Bool.or_eq_true, beq_iff_eq, beq_iff_eq, not_or] at hblocked
    exact hblocked

end

/-! ## The routes -/

section

variable {cfg : Settings} {Act : ActionRequest → Prop} {r : IncidentRecord}

theorem validateStateTransition_upkeep (previous : Option IncidentRecord) (r : IncidentRecord) :
    Upkeep cfg Act (validateStateTransition previous r) fun _ ↦ True := by
  cases previous with
  | none => trivial
  | some p => exact Upkeep.require _ _

theorem upsert_upkeep (h : WellKept cfg r) : Upkeep cfg Act (upsert r) (Tended cfg r) := by
  refine Upkeep.perform_bind trivial fun previous _ _ ↦
    Prog.Given.bind (validateStateTransition_upkeep previous r) fun _ _ ↦
      Upkeep.perform_bind trivial fun updatedAt _ _ ↦ ?_
  have hstamped := h.stamp previous updatedAt
  exact Upkeep.perform_bind hstamped fun _ _ _ ↦ ⟨hstamped, rfl, rfl⟩

theorem save_upkeep (h : WellKept cfg r) : Upkeep cfg Act (save r) (Tended cfg r) :=
  Upkeep.perform_bind h fun _ _ _ ↦ upsert_upkeep h

theorem writeCheckpoint_upkeep (worker : Bool) {step : String} (hstep : step ∈ checkpoints)
    (h : WellKept cfg r) : Upkeep cfg Act (writeCheckpoint worker r step) (Tended cfg r) := by
  refine Prog.Given.bind (save_upkeep (h.withStep hstep)) fun saved hsaved ↦
    Upkeep.perform_bind trivial fun _ _ _ ↦ ⟨hsaved.kept, ?_, ?_⟩
  · rw [hsaved.metadata, IncidentRecord.withStep]
    split_ifs <;> rfl
  · rw [hsaved.iteration, IncidentRecord.withStep]
    split_ifs <;> rfl

/-- A checkpoint of a record that was edited. -/
theorem Tended.checkpoint {s : IncidentRecord} (h : Tended cfg r s) (worker : Bool) (step : String)
    (hstep : step ∈ checkpoints) :
    Upkeep cfg Act (writeCheckpoint worker s step) (Tended cfg r) :=
  (writeCheckpoint_upkeep worker hstep h.kept).mono fun _ ↦ h.trans

theorem appendTrace_upkeep (phase message : String) (h : WellKept cfg r) :
    Upkeep cfg Act (appendTrace r phase message) (Tended cfg r) :=
  Prog.Given.bind (Upkeep.of_agent (newTraceEntry_issues _ _ _ _ _) (Prog.Yields.true _))
    fun _ _ ↦ ⟨{ h with }, rfl, rfl⟩

theorem triageStep_upkeep (worker : Bool) (h : WellKept cfg r) :
    Upkeep cfg Act (triageStep cfg worker r) (Tended cfg r) := by
  refine Prog.Given.bind triage_upkeep fun result _ ↦ ?_
  have hedited : Tended cfg r (r.withHypotheses [[("triage", .dict result)]]) :=
    ⟨{ h with }, rfl, rfl⟩
  exact hedited.checkpoint worker "triage" (by decide)

theorem changeStep_upkeep (worker : Bool) (h : WellKept cfg r) :
    Upkeep cfg Act (changeStep cfg worker r) (Tended cfg r) := by
  refine Prog.Given.bind correlateChanges_upkeep fun entry hentry ↦ ?_
  have hedited : Tended cfg r (r.withEvidence [entry]) :=
    ⟨h.withEvidence (List.forall_mem_singleton.mpr hentry), rfl, rfl⟩
  exact hedited.checkpoint worker "change" (by decide)

theorem evidenceStep_upkeep (worker : Bool) (h : WellKept cfg r) :
    Upkeep cfg Act (evidenceStep cfg worker r) (Tended cfg r) :=
  Prog.Given.bind (gatherEvidence_upkeep h) fun gathered hgathered ↦
    Tended.checkpoint ⟨(hgathered.1.kept.withEvidence hgathered.2).withCoverage,
      hgathered.1.metadata, hgathered.1.iteration⟩ worker "evidence" (by decide)

theorem rcaStep_upkeep (worker : Bool) (h : WellKept cfg r) :
    Upkeep cfg Act (rcaStep cfg worker r) (Tended cfg r) := by
  refine Prog.Given.bind analyzeRootCause_upkeep fun hypotheses hscores ↦ ?_
  have hanalysed : WellKept cfg
      (r.withHypotheses (hypotheses.map RCAHypothesisItem.modelDump)) := { h with }
  have hedited : Tended cfg r
      ((r.withHypotheses (hypotheses.map RCAHypothesisItem.modelDump)).withLinks
        (hypothesisLinks r.incidentId 0 hypotheses)) :=
    ⟨hanalysed.withLinks (hypothesisLinks_scores hscores _ 0), rfl, rfl⟩
  exact hedited.checkpoint worker "rca" (by decide)

theorem plannerStep_upkeep (worker : Bool) (h : WellKept cfg r) :
    Upkeep cfg Act (plannerStep cfg worker r) (Tended cfg r) := by
  refine Prog.Given.bind (planRemediation_upkeep h) fun planned hplanned ↦ ?_
  obtain ⟨htended, hactions⟩ := hplanned
  have hpending : WellKept cfg (withPlannedGraph planned.1 planned.2) :=
    { htended.kept with
      pending := fun graph hgraph ↦ by
        rw [← Option.mem_some.mp hgraph]
        exact htended.metadata ▸ hactions }
  refine Prog.Given.bind (Tended.checkpoint ⟨hpending, htended.metadata, htended.iteration⟩ worker
    "planned" (by decide)) fun saved hsaved ↦ ?_
  exact (appendTrace_upkeep _ _ hsaved.kept).mono fun _ ↦ hsaved.trans

theorem runStep_upkeep (worker : Bool) (h : WellKept cfg r) (step : String) :
    Upkeep cfg Act (runStep cfg worker r step) fun stepped ↦ Tended cfg r stepped.1 := by
  unfold runStep
  split
  · exact Prog.Given.bind (triageStep_upkeep worker h) fun _ h ↦ h
  · exact Prog.Given.bind (evidenceStep_upkeep worker h) fun _ h ↦ h
  · exact Prog.Given.bind (changeStep_upkeep worker h) fun _ h ↦ h
  · exact Prog.Given.bind (rcaStep_upkeep worker h) fun _ h ↦ h
  · exact Prog.Given.bind (plannerStep_upkeep worker h) fun _ h ↦ h
  · exact Prog.Given.bind (appendTrace_upkeep _ _ h) fun _ h ↦ h
  · exact Tended.refl h

theorem persistDecision_upkeep {decision : RouterDecision} (h : WellKept cfg r)
    (hdecision : KeptDecision (r.matchedPlan cfg) decision) (hpositive : 1 ≤ r.workflowIteration) :
    Upkeep cfg Act (persistDecision r decision) (Tended cfg r) := by
  refine Upkeep.perform_bind trivial fun hex _ _ ↦
    Upkeep.perform_bind trivial fun createdAt _ _ ↦ ?_
  let record : DecisionRecord :=
    { recordId := "dr_" ++ hexPrefix 10 hex
      iteration := r.workflowIteration
      routerDecision := some decision
      createdAt }
  have hdecided : WellKept cfg (r.withDecision decision record) :=
    h.withDecision hdecision rfl hpositive h.iteration
  exact Upkeep.perform_bind hdecided fun _ _ _ ↦ Upkeep.perform_bind trivial fun _ _ _ ↦
    ⟨hdecided, rfl, rfl⟩

/-- The next iteration of a record. -/
structure NextIteration (cfg : Settings) (b r : IncidentRecord) : Prop where
  kept : WellKept cfg r
  metadata : r.metadata = b.metadata
  iteration : r.workflowIteration = b.workflowIteration + 1

theorem decideNext_upkeep {plan : ResponsePlan} (h : WellKept cfg r)
    (hplan : plan = r.matchedPlan cfg) (hbound : r.workflowIteration < cfg.maxIterations) :
    Upkeep cfg Act (decideNext cfg r plan) fun decided ↦ NextIteration cfg r decided.1 := by
  have hnext : WellKept cfg (r.withIteration (r.workflowIteration + 1)) := h.withIteration hbound
  refine Upkeep.perform_bind hnext fun _ _ _ ↦
    Prog.Given.bind (computeRouterDecision_upkeep plan) fun raw hraw ↦ ?_
  refine Prog.Given.bind (persistDecision_upkeep hnext
    (hplan ▸ restrictDecision_kept hraw.1) (Nat.le_add_left 1 _)) fun decided hdecided ↦ ?_
  refine Prog.Given.bind (appendTrace_upkeep _ _ hdecided.kept) fun traced htraced ↦ ?_
  exact Upkeep.perform_bind htraced.kept fun _ _ _ ↦
    ⟨htraced.kept, htraced.metadata.trans hdecided.metadata,
      htraced.iteration.trans hdecided.iteration⟩

/-- What a route returns. -/
structure Routed (cfg : Settings) (b r : IncidentRecord) : Prop where
  kept : WellKept cfg r
  metadata : r.metadata = b.metadata

theorem decisionLoop_upkeep (worker : Bool) {plan : ResponsePlan} (n : ℕ) :
    ∀ {r : IncidentRecord}, WellKept cfg r → plan = r.matchedPlan cfg →
      r.workflowIteration + n ≤ cfg.maxIterations →
      Upkeep cfg Act (decisionLoop cfg worker plan n r) (Routed cfg r) := by
  induction n with
  | zero => exact fun h _ _ ↦ ⟨h, rfl⟩
  | succ n ih =>
    intro r h hplan hbound
    refine Prog.Given.bind (decideNext_upkeep h hplan (by omega)) fun decided hdecided ↦ ?_
    dsimp only
    split_ifs
    · exact (appendTrace_upkeep _ _ hdecided.kept).mono fun _ hstopped ↦
        ⟨hstopped.kept, hstopped.metadata.trans hdecided.metadata⟩
    · refine Prog.Given.bind (runStep_upkeep worker hdecided.kept _) fun stepped hstepped ↦ ?_
      have hmetadata := hstepped.metadata.trans hdecided.metadata
      split_ifs
      · refine Prog.Given.bind (save_upkeep hstepped.kept) fun saved hsaved ↦ ?_
        have hsavedMetadata := hsaved.metadata.trans hmetadata
        refine (ih hsaved.kept ?_ ?_).mono fun _ hrouted ↦
          ⟨hrouted.kept, hrouted.metadata.trans hsavedMetadata⟩
        · rw [hplan, IncidentRecord.matchedPlan, IncidentRecord.matchedPlan, hsavedMetadata]
        · rw [hsaved.iteration, hstepped.iteration, hdecided.iteration]
          omega
      · exact ⟨hstepped.kept, hmetadata⟩

theorem runDecisionLoopRoute_upkeep (worker : Bool) (h : WellKept cfg r) :
    Upkeep cfg Act (runDecisionLoopRoute cfg worker r) (Routed cfg r) := by
  refine Prog.Given.bind (writeCheckpoint_upkeep worker (by decide)
    (h.matchPlan.withIteration (Nat.zero_le _))) fun matched hmatched ↦ ?_
  have hiteration : matched.workflowIteration = 0 := hmatched.iteration
  refine Prog.Given.bind (decisionLoop_upkeep worker cfg.maxIterations hmatched.kept rfl (by omega))
    fun looped hlooped ↦ ?_
  have hrouted : WellKept cfg looped.routed := { hlooped.kept with }
  exact (save_upkeep hrouted).mono fun _ hsaved ↦
    ⟨hsaved.kept, hsaved.metadata.trans (hlooped.metadata.trans hmatched.metadata)⟩

theorem runLinearRoute_upkeep (worker : Bool) (h : WellKept cfg r) :
    Upkeep cfg Act (runLinearRoute cfg worker r) (Routed cfg r) := by
  refine Prog.Given.bind (writeCheckpoint_upkeep worker (by decide) h.matchPlan)
    fun matched hmatched ↦ ?_
  refine Prog.Given.bind (triageStep_upkeep worker hmatched.kept) fun triaged htriaged ↦ ?_
  refine Prog.Given.bind (gatherEvidence_upkeep htriaged.kept) fun gathered hgathered ↦ ?_
  refine Prog.Given.bind (Tended.checkpoint ⟨hgathered.1.kept.withEvidence hgathered.2,
    hgathered.1.metadata, hgathered.1.iteration⟩ worker "evidence" (by decide))
      fun found hfound ↦ ?_
  refine Prog.Given.bind (changeStep_upkeep worker hfound.kept) fun changed hchanged ↦ ?_
  refine Prog.Given.bind analyzeRootCause_upkeep fun hypotheses _ ↦ ?_
  have hanalysed : Tended cfg changed
      (changed.withHypotheses (hypotheses.map RCAHypothesisItem.modelDump)) :=
    ⟨{ hchanged.kept with }, rfl, rfl⟩
  refine Prog.Given.bind (hanalysed.checkpoint worker "rca" (by decide))
    fun explained hexplained ↦ ?_
  have hrouted : WellKept cfg explained.routed := { hexplained.kept with }
  refine (save_upkeep hrouted).mono fun _ hsaved ↦ ⟨hsaved.kept, ?_⟩
  rw [hsaved.metadata]
  exact hexplained.metadata.trans (hchanged.metadata.trans (hfound.metadata.trans
    (htriaged.metadata.trans hmatched.metadata)))

/-- **A route keeps its record well.** -/
theorem executeRoute_upkeep (worker : Bool) (h : WellKept cfg r) :
    Upkeep cfg Act (executeRoute cfg worker r) (Routed cfg r) := by
  rw [executeRoute]
  split_ifs
  · exact runDecisionLoopRoute_upkeep worker h
  · exact runLinearRoute_upkeep worker h

end

end IncidentPlatform
