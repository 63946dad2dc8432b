import IncidentPlatform.Workflow.Operations

/-!
# The decision loop without a language model

With the agent runtime off every agent is its stub, and the router decides by rules that look at
the shape of what was found: are there hypotheses, is there evidence, has a change been correlated,
is there a root cause. `CaseView` is the part of the record that the investigation is about, without
the ids and timestamps of its evidence; saves, traces and decisions leave it alone.

From an incident nobody has looked at, the loop is a straight line (`decisionLoop_eq`): one
iteration for each `Stage`, and a last decision, which stops or plans.
-/

namespace IncidentPlatform

open Interaction

/-! ## What the investigation is about -/

/-- An entry without its id and its timestamp. -/
def EvidenceEntry.anonymous (e : EvidenceEntry) : EvidenceEntry :=
  { e with evidenceId := "", createdAt := 0 }

structure CaseView where
  incidentId : String
  metadata : IncidentEnvelope
  state : IncidentState
  hypotheses : List Dict
  evidence : List EvidenceEntry
  toolsUsed : List ActionType
  allowedActions : List ActionType
  responsePlan : Option ResponsePlan

def IncidentRecord.view (r : IncidentRecord) : CaseView where
  incidentId := r.incidentId
  metadata := r.metadata
  state := r.state
  hypotheses := r.hypotheses
  evidence := r.evidence.map EvidenceEntry.anonymous
  toolsUsed := r.toolsUsed
  allowedActions := r.allowedActions
  responsePlan := r.responsePlan

@[simp] theorem view_stamp (previous : Option IncidentRecord) (updatedAt : Time)
    (r : IncidentRecord) : (stamp previous updatedAt r).view = r.view := rfl

@[simp] theorem view_withTrace (r : IncidentRecord) (entry : ExecutionTraceEntry) :
    (r.withTrace entry).view = r.view := rfl

@[simp] theorem view_withDecision (r : IncidentRecord) (decision : RouterDecision)
    (record : DecisionRecord) : (r.withDecision decision record).view = r.view := rfl

@[simp] theorem view_withIteration (r : IncidentRecord) (iteration : ℕ) :
    (r.withIteration iteration).view = r.view := rfl

@[simp] theorem view_withCoverage (r : IncidentRecord) : r.withCoverage.view = r.view := rfl

@[simp] theorem view_withLinks (r : IncidentRecord) (links : List HypothesisLink) :
    (r.withLinks links).view = r.view := rfl

@[simp] theorem view_routed (r : IncidentRecord) : r.routed.view = r.view := rfl

theorem view_withHypotheses (r : IncidentRecord) (hypotheses : List Dict) :
    (r.withHypotheses hypotheses).view
      = { r.view with hypotheses := r.view.hypotheses ++ hypotheses } := rfl

theorem view_withEvidence (r : IncidentRecord) (evidence : List EvidenceEntry) :
    (r.withEvidence evidence).view = { r.view with
      evidence := r.view.evidence ++ evidence.map EvidenceEntry.anonymous } := by
  unfold IncidentRecord.view IncidentRecord.withEvidence
  rw [List.map_append]

/-! ## Saving -/

/-- Every state leads to an investigation. -/
theorem transitionAllowed_investigating (state : IncidentState) :
    transitionAllowed state .investigating = true := by
  cases state <;> rfl

/-- The same case, with the same evidence. -/
structure SameCase (r r' : IncidentRecord) : Prop where
  view : r'.view = r.view
  evidence : r'.evidence = r.evidence
  hypothesisLinks : r'.hypothesisLinks = r.hypothesisLinks

theorem SameCase.trans {r r' r'' : IncidentRecord} (h : SameCase r r') (h' : SameCase r' r'') :
    SameCase r r'' :=
  ⟨h'.view.trans h.view, h'.evidence.trans h.evidence, h'.hypothesisLinks.trans h.hypothesisLinks⟩

/-- The same case, under the same decision. -/
structure Kept (r r' : IncidentRecord) : Prop extends SameCase r r' where
  latestRouterDecision : r'.latestRouterDecision = r.latestRouterDecision

theorem save_yields (r : IncidentRecord) : (save r).Yields (Kept r) :=
  yields_perform_bind.mpr fun _ ↦ yields_perform_bind.mpr fun _ ↦
    Prog.Yields.rest fun _ ↦ yields_perform_bind.mpr fun _ ↦
      yields_perform_bind.mpr fun _ ↦ ⟨⟨rfl, rfl, rfl⟩, rfl⟩

/-- An incident under investigation can be saved over anything. -/
theorem save_total {r : IncidentRecord} (hr : r.state = .investigating) : (save r).Total := by
  refine total_perform_bind.mpr fun _ ↦ total_perform_bind.mpr fun previous ↦ ?_
  refine Prog.Total.bind ?_ fun _ ↦ total_perform_bind.mpr fun _ ↦ total_perform_bind.mpr fun _ ↦ ?_
  · cases previous with
    | none => trivial
    | some p =>
      rw [validateStateTransition_allowed (hr ▸ transitionAllowed_investigating p.state)]
      trivial
  · trivial

theorem withStep_kept (r : IncidentRecord) (step : String) : Kept r (r.withStep step) := by
  rw [IncidentRecord.withStep]
  split_ifs <;> exact ⟨⟨rfl, rfl, rfl⟩, rfl⟩

theorem writeCheckpoint_yields (worker : Bool) (r : IncidentRecord) (step : String) :
    (writeCheckpoint worker r step).Yields (Kept r) := by
  refine Prog.Yields.bind (save_yields _) fun r' hr' ↦ yields_perform_bind.mpr fun _ ↦ ?_
  have hstep := withStep_kept r step
  exact ⟨hstep.toSameCase.trans hr'.toSameCase,
    hr'.latestRouterDecision.trans hstep.latestRouterDecision⟩

theorem writeCheckpoint_total (worker : Bool) {r : IncidentRecord} (step : String)
    (hr : r.state = .investigating) : (writeCheckpoint worker r step).Total := by
  have hstep : (r.withStep step).state = .investigating :=
    (congrArg CaseView.state (withStep_kept r step).view).trans hr
  exact Prog.Total.bind (save_total hstep) fun _ ↦ total_perform_bind.mpr fun _ ↦ trivial

theorem newTraceEntry_total (phase message : String) (actionId : Option String)
    (success : Option Bool) (replanRequested : Bool) :
    (newTraceEntry phase message actionId success replanRequested).Total :=
  fun _ _ ↦ trivial

theorem appendTrace_total (r : IncidentRecord) (phase message : String) :
    (appendTrace r phase message).Total :=
  Prog.Total.bind (newTraceEntry_total _ _ _ _ _) fun _ ↦ trivial

theorem appendTrace_yields (r : IncidentRecord) (phase message : String) :
    (appendTrace r phase message).Yields fun r' ↦ ∃ entry, r' = r.withTrace entry :=
  Prog.Yields.rest fun entry ↦ ⟨entry, rfl⟩

/-! ## Stages -/

/-- The steps of an investigation. -/
inductive Stage where
  | triage
  | evidence
  | change
  | rca
  deriving DecidableEq

def Stage.name : Stage → String
  | triage => "triage"
  | evidence => "evidence"
  | change => "change"
  | rca => "rca"

def Stage.run (cfg : Settings) (worker : Bool) : Stage → IncidentRecord → Handler IncidentRecord
  | triage => triageStep cfg worker
  | evidence => evidenceStep cfg worker
  | change => changeStep cfg worker
  | rca => rcaStep cfg worker

namespace CaseView

/-- The triage block is the only hypothesis. -/
def Triaged (v : CaseView) : Prop := ∃ triage, v.hypotheses = [[("triage", .dict triage)]]

/-- There is evidence of a change. -/
def correlated (v : CaseView) : Bool := v.evidence.any fun e ↦ e.source == "change-correlation"

/-- There is a root cause. -/
def explained (v : CaseView) : Bool :=
  v.hypotheses.any fun h ↦ Dict.hasKey h "hypothesis" || Dict.hasKey h "confidence"

end CaseView

/-- What has been found when a stage is next. -/
def Stage.Found (v : CaseView) : Stage → Prop
  | triage => v.hypotheses = [] ∧ v.evidence = []
  | evidence => v.Triaged ∧ v.evidence = []
  | change => v.Triaged ∧ v.evidence ≠ [] ∧ v.correlated = false
  | rca => v.Triaged ∧ v.correlated = true

/-- What has been found in the end. -/
structure Concluded (v : CaseView) : Prop where
  state : v.state = .investigating
  correlated : v.correlated = true
  explained : v.explained = true

/-- An incident under investigation, with a stage next. -/
structure AtStage (stage : Stage) (v : CaseView) : Prop where
  state : v.state = .investigating
  found : stage.Found v

theorem view_evidence_isEmpty (r : IncidentRecord) :
    r.evidence.isEmpty = r.view.evidence.isEmpty :=
  List.isEmpty_map.symm

theorem view_correlated (r : IncidentRecord) :
    r.view.correlated = r.evidence.any fun e ↦ e.source == "change-correlation" :=
  List.any_map

theorem CaseView.evidence_of_correlated {v : CaseView} (h : v.correlated = true) :
    v.evidence.isEmpty = false := by
  rw [correlated] at h
  cases hv : v.evidence with
  | nil => simp [hv] at h
  | cons e es => rfl

theorem CaseView.hypotheses_of_explained {v : CaseView} (h : v.explained = true) :
    v.hypotheses.isEmpty = false := by
  rw [explained] at h
  cases hv : v.hypotheses with
  | nil => simp [hv] at h
  | cons e es => rfl

theorem CaseView.Triaged.not_explained {v : CaseView} (h : v.Triaged) : v.explained = false := by
  obtain ⟨triage, h⟩ := h
  rw [explained, h]
  rfl

theorem CaseView.Triaged.hypotheses {v : CaseView} (h : v.Triaged) :
    v.hypotheses.isEmpty = false := by
  obtain ⟨triage, h⟩ := h
  rw [h]
  rfl

section

variable (t : Text) (plan : ResponsePlan) {r : IncidentRecord}

/-- The rules, on the view. -/
theorem deterministicStep_view (r : IncidentRecord) :
    deterministicStep t r plan =
      if r.view.hypotheses.isEmpty then ("triage", none, ["deterministic_base"])
      else if r.view.evidence.isEmpty then ("evidence", none, ["deterministic_base"])
      else if !r.view.correlated then ("change", none, ["deterministic_base"])
      else if !r.view.explained then ("rca", none, ["deterministic_base"])
      else deterministicStep t r plan := by
  rw [← view_evidence_isEmpty, view_correlated]
  change _ = if r.hypotheses.isEmpty then _ else if _ then _ else if _ then _ else
    if !r.hypotheses.any (fun h ↦ Dict.hasKey h "hypothesis" || Dict.hasKey h "confidence")
      then _ else _
  unfold deterministicStep
  dsimp only
  split_ifs <;> rfl

/-- A stage that is next is what the router decides for. -/
theorem deterministicStep_stage {stage : Stage} (h : stage.Found r.view) :
    deterministicStep t r plan = (stage.name, none, ["deterministic_base"]) := by
  rw [deterministicStep_view]
  cases stage with
  | triage =>
    obtain ⟨hhypotheses, -⟩ := h
    rw [hhypotheses]
    rfl
  | evidence =>
    obtain ⟨htriaged, hevidence⟩ := h
    rw [htriaged.hypotheses, hevidence]
    rfl
  | change =>
    obtain ⟨htriaged, hevidence, hcorrelated⟩ := h
    have hsome : r.view.evidence.isEmpty = false := by simpa using hevidence
    rw [htriaged.hypotheses, hsome, hcorrelated]
    rfl
  | rca =>
    obtain ⟨htriaged, hcorrelated⟩ := h
    rw [htriaged.hypotheses, CaseView.evidence_of_correlated hcorrelated, hcorrelated,
      htriaged.not_explained]
    rfl

/-- A stop reason comes with a stop. -/
theorem deterministicStep_stops {reason : String}
    (h : (deterministicStep t r plan).2.1 = some reason) :
    (deterministicStep t r plan).1 = "stop" ∧ reason ≠ "" := by
  unfold deterministicStep at h ⊢
  dsimp only at h ⊢
  split_ifs at h ⊢ <;> cases h
  · exact ⟨rfl, by decide⟩
  · exact ⟨rfl, by decide⟩

/-- In the end the router stops or plans. -/
theorem deterministicStep_concluded (h : Concluded r.view) :
    (∃ reason, (deterministicStep t r plan).2.1 = some reason) ∨
      (deterministicStep t r plan).1 = "planner" ∧ (deterministicStep t r plan).2.1 = none := by
  have hhypotheses : r.hypotheses.isEmpty = false := CaseView.hypotheses_of_explained h.explained
  have hevidence : r.evidence.isEmpty = false := by
    rw [view_evidence_isEmpty]
    exact CaseView.evidence_of_correlated h.correlated
  have hcorrelated := (view_correlated r).symm.trans h.correlated
  have hexplained : r.hypotheses.any (fun h ↦ Dict.hasKey h "hypothesis" ||
    Dict.hasKey h "confidence") = true := h.explained
  unfold deterministicStep
  dsimp only
  rw [hhypotheses, hevidence, hcorrelated, hexplained]
  simp only [Bool.not_true, Bool.false_eq_true, if_false]
  split_ifs
  · exact Or.inl ⟨_, rfl⟩
  · exact Or.inr ⟨rfl, rfl⟩
  · exact Or.inl ⟨_, rfl⟩

end

/-! ## Decisions -/

/-- The evidence the triage block asks for. -/
def triageIntents (t : Text) (hypotheses : List Dict) : List String :=
  normalizeEvidenceIntents t
    (stringsAt t (extractTriageDict hypotheses) "next_required_evidence")

/-- The tools of a tool plan made from intents. -/
def intentTools (intents : List String) : List ActionType :=
  (intents.filterMap intentTool).map Prod.fst

/-- `d` is what the rules decide on `r`. -/
structure Decides (t : Text) (plan : ResponsePlan) (r : IncidentRecord) (d : RouterDecision) :
    Prop where
  nextWorkflow : d.nextWorkflow = (deterministicStep t r plan).1
  stopReason : d.stopReason = (deterministicStep t r plan).2.1
  investigateOnly : d.investigateOnly = true → d.nextWorkflow = "stop"
  toolPlan : ∃ p, d.toolPlan = some p ∧
    p.items.map ToolPlanItem.tool = intentTools (triageIntents t r.hypotheses)

theorem toolPlanFromIntents_yields (r : IncidentRecord) (intents : List String) :
    (toolPlanFromIntents r intents).Yields fun p ↦
      p.items.map ToolPlanItem.tool = intentTools intents :=
  yields_perform_bind.mpr fun _ ↦ yields_perform_bind.mpr fun _ ↦ by
    change ((intents.filterMap intentTool).map _).map _ = _
    rw [List.map_map]
    rfl

section

variable {cfg : Settings} (r : IncidentRecord) (plan : ResponsePlan)

theorem deterministicNextStep_yields (cfg : Settings) :
    (deterministicNextStep cfg r plan).Yields (Decides cfg.text plan r) := by
  refine Prog.Yields.bind (toolPlanFromIntents_yields r _) fun p hp ↦ ?_
  refine yields_perform_bind.mpr fun _ ↦ yields_perform_bind.mpr fun _ ↦ ?_
  refine ⟨rfl, rfl, fun hinvestigate ↦ ?_, p, rfl, hp⟩
  obtain ⟨-, hreason⟩ := Bool.and_eq_true_iff.mp hinvestigate
  exact (deterministicStep_stops cfg.text plan (beq_iff_eq.mp hreason)).1

theorem deterministicNextStep_total (cfg : Settings) : (deterministicNextStep cfg r plan).Total :=
  Prog.Total.bind (total_perform_bind.mpr fun _ ↦ total_perform_bind.mpr fun _ ↦ trivial) fun _ ↦
    total_perform_bind.mpr fun _ ↦ total_perform_bind.mpr fun _ ↦ trivial

/-- The router asks no language model. -/
theorem computeRouterDecision_stub (hcfg : cfg.agenticEnabled = false) :
    computeRouterDecision cfg r plan = (deterministicNextStep cfg r plan).bind fun d ↦ pure d := by
  refine congrArg (deterministicNextStep cfg r plan).bind (funext fun d ↦ ?_)
  rw [hcfg, Bool.and_false]
  rfl

/-- The restriction to the plan changes neither the step nor the tool plan. -/
theorem Decides.restrict {t : Text} {r : IncidentRecord} {d : RouterDecision}
    (h : Decides t plan r d) : Decides t plan r (restrictDecision d plan) := by
  have hno : (d.investigateOnly &&
      (d.nextWorkflow == "planner" || d.nextWorkflow == "execute")) = false := by
    cases hinvestigate : d.investigateOnly with
    | false => rfl
    | true =>
      rw [h.investigateOnly hinvestigate]
      decide
  have hrestrict : restrictDecision d plan = mergeRouterAllowedWithPlan d plan := by
    rw [restrictDecision]
    exact if_neg (by simpa [mergeRouterAllowedWithPlan] using hno)
  rw [hrestrict]
  exact ⟨h.nextWorkflow, h.stopReason, h.investigateOnly, h.toolPlan⟩

/-- The rules do not look at the count of iterations. -/
theorem Decides.of_withIteration {t : Text} {r : IncidentRecord} {iteration : ℕ}
    {d : RouterDecision} (h : Decides t plan (r.withIteration iteration) d) :
    Decides t plan r d :=
  ⟨h.nextWorkflow, h.stopReason, h.investigateOnly, h.toolPlan⟩

theorem persistDecision_yields (d : RouterDecision) :
    (persistDecision r d).Yields fun r' ↦ ∃ record, r' = r.withDecision d record :=
  yields_perform_bind.mpr fun _ ↦ yields_perform_bind.mpr fun _ ↦ yields_perform_bind.mpr fun _ ↦
    yields_perform_bind.mpr fun _ ↦ ⟨_, rfl⟩

/-- An iteration records the decision of the rules and leaves the investigation alone. -/
theorem decideNext_yields (hcfg : cfg.agenticEnabled = false) :
    (decideNext cfg r plan).Yields fun a ↦ SameCase r a.1 ∧
      a.1.latestRouterDecision = some a.2 ∧ Decides cfg.text plan r a.2 := by
  refine yields_perform_bind.mpr fun _ ↦ ?_
  rw [computeRouterDecision_stub _ plan hcfg]
  refine Prog.Yields.bind (Prog.Yields.bind (deterministicNextStep_yields _ plan cfg)
    fun d hd ↦ hd) fun d hd ↦ ?_
  refine Prog.Yields.bind (persistDecision_yields _ _) ?_
  rintro r₁ ⟨record, rfl⟩
  refine Prog.Yields.bind (appendTrace_yields _ _ _) ?_
  rintro r₂ ⟨entry, rfl⟩
  exact fun _ ↦ ⟨⟨rfl, rfl, rfl⟩, rfl, (hd.restrict plan).of_withIteration plan⟩

theorem decideNext_total (hcfg : cfg.agenticEnabled = false) : (decideNext cfg r plan).Total := by
  refine total_perform_bind.mpr fun _ ↦ ?_
  rw [computeRouterDecision_stub _ plan hcfg]
  refine Prog.Total.bind (Prog.Total.bind (deterministicNextStep_total _ plan cfg)
    fun _ ↦ trivial) fun d ↦ ?_
  exact Prog.Total.bind (fun _ _ _ _ ↦ trivial) fun _ ↦
    Prog.Total.bind (appendTrace_total _ _ _) fun _ _ ↦ trivial

end

/-! ## Evidence -/

/-- The entries made of what was collected, without ids and timestamps. -/
def rawContents (raw : RawEvidence) (kinds : List (String × String × String × ℚ)) :
    List EvidenceEntry :=
  kinds.filterMap fun (key, source, kind, confidence) ↦ (raw.lookup key).map fun summary ↦
    { evidenceId := "", source, kind, confidence, summary, createdAt := 0 }

theorem newEvidence_total (source kind : String) (confidence : ℚ) (summary : String) :
    (newEvidence source kind confidence summary).Total :=
  fun _ _ ↦ trivial

theorem newEvidence_yields (source kind : String) (confidence : ℚ) (summary : String) :
    (newEvidence source kind confidence summary).Yields fun e ↦ e.anonymous =
      { evidenceId := "", source, kind, confidence, summary, createdAt := 0 } :=
  fun _ _ ↦ rfl

theorem entriesFor_yields (raw : RawEvidence) (kinds : List (String × String × String × ℚ)) :
    (entriesFor raw kinds).Yields fun entries ↦
      entries.map EvidenceEntry.anonymous = rawContents raw kinds := by
  induction kinds with
  | nil => exact rfl
  | cons kind kinds ih =>
    obtain ⟨key, source, kind, confidence⟩ := kind
    rw [entriesFor]
    cases hlookup : raw.lookup key with
    | none =>
      have hcontents : rawContents raw ((key, source, kind, confidence) :: kinds)
          = rawContents raw kinds := by simp [rawContents, hlookup]
      rw [hcontents]
      exact ih
    | some summary =>
      have hcontents : rawContents raw ((key, source, kind, confidence) :: kinds)
          = { evidenceId := "", source, kind, confidence, summary, createdAt := 0 } ::
            rawContents raw kinds := by simp [rawContents, hlookup]
      rw [hcontents]
      refine Prog.Yields.bind (newEvidence_yields _ _ _ _) fun entry hentry ↦ ?_
      exact Prog.Yields.bind ih fun entries hentries ↦ congrArg₂ List.cons hentry hentries

theorem entriesFor_total (raw : RawEvidence) (kinds : List (String × String × String × ℚ)) :
    (entriesFor raw kinds).Total := by
  induction kinds with
  | nil => trivial
  | cons kind kinds ih =>
    obtain ⟨key, source, kind, confidence⟩ := kind
    rw [entriesFor]
    cases raw.lookup key with
    | none => exact ih
    | some summary =>
      exact Prog.Total.bind (newEvidence_total _ _ _ _) fun _ ↦ Prog.Total.bind ih fun _ ↦ trivial

/-- What `_from_raw_dict` makes of what was collected. -/
def dictContents (raw : RawEvidence) : List EvidenceEntry :=
  if (rawContents raw rawKinds).isEmpty then
    rawContents [("metrics", (raw.lookup "metrics").getD ""),
      ("logs", (raw.lookup "logs").getD "")] rawKinds
  else rawContents raw rawKinds

theorem fromRawDict_yields (raw : RawEvidence) : (fromRawDict raw).Yields fun entries ↦
    entries.map EvidenceEntry.anonymous = dictContents raw := by
  refine Prog.Yields.bind (entriesFor_yields raw rawKinds) fun out hout ↦ ?_
  have hempty : out.isEmpty = (rawContents raw rawKinds).isEmpty := by
    rw [← hout, List.isEmpty_map]
  rw [dictContents, hempty]
  split_ifs
  · exact entriesFor_yields _ _
  · exact hout

theorem fromRawDict_total (raw : RawEvidence) : (fromRawDict raw).Total := by
  refine Prog.Total.bind (entriesFor_total raw rawKinds) fun out ↦ ?_
  split_ifs
  · exact entriesFor_total _ _
  · trivial

theorem dictContents_ne_nil (raw : RawEvidence) : dictContents raw ≠ [] := by
  rw [dictContents]
  split_ifs with hempty
  · exact List.cons_ne_nil _ _
  · simpa using hempty

/-- No collector looks like the change correlation. -/
theorem rawContents_source {raw : RawEvidence} {e : EvidenceEntry}
    (he : e ∈ rawContents raw rawKinds) : e.source ≠ "change-correlation" := by
  have hkinds : ∀ kind ∈ rawKinds, kind.2.1 ≠ "change-correlation" := by decide
  obtain ⟨kind, hkind, hmade⟩ := List.mem_filterMap.mp he
  obtain ⟨summary, -, rfl⟩ := Option.map_eq_some_iff.mp hmade
  exact hkinds kind hkind

theorem dictContents_source {raw : RawEvidence} {e : EvidenceEntry} (he : e ∈ dictContents raw) :
    e.source ≠ "change-correlation" := by
  rw [dictContents] at he
  split_ifs at he <;> exact rawContents_source he

/-! ## The agents -/

section

variable {cfg : Settings} (worker : Bool)

/-- The tools of a record replaced. -/
def IncidentRecord.withTools (r : IncidentRecord) (tools : List ActionType) : IncidentRecord :=
  { r with toolsUsed := tools }

@[simp] theorem withTools_metadata (r : IncidentRecord) (tools : List ActionType) :
    (r.withTools tools).metadata = r.metadata := rfl

/-- Which tools are recorded depends on the tools there are. -/
theorem recordTool_withTools (tools : List ActionType) (tool : ActionType) :
    ∃ tools', ∀ r : IncidentRecord,
      recordTool (r.withTools tools) tool = r.withTools tools' := by
  by_cases htool : tool ∈ tools
  · exact ⟨tools, fun r ↦ if_pos htool⟩
  · exact ⟨tools ++ [tool], fun r ↦ if_neg htool⟩

theorem collectKey_yields (wanted : Bool) (key : String) (tool : ActionType)
    {r : IncidentRecord} {state : IncidentRecord × RawEvidence}
    (hstate : ∃ tools, state.1 = r.withTools tools) :
    (collectKey wanted key tool state).Yields fun a ↦ ∃ tools, a.1 = r.withTools tools := by
  obtain ⟨tools, hstate⟩ := hstate
  rw [collectKey]
  split_ifs
  · refine Prog.Yields.rest fun text ↦ yields_perform_bind.mpr fun _ ↦ ?_
    obtain ⟨tools', hrecorded⟩ := recordTool_withTools tools tool
    exact ⟨tools', by rw [hstate, hrecorded]⟩
  · exact ⟨tools, hstate⟩

/-- The collectors only add to the tools used. -/
theorem collectRaw_yields (r : IncidentRecord) (intents : List String) :
    (collectRaw r intents).Yields fun a ↦ ∃ tools, a.1 = r.withTools tools := by
  refine Prog.Yields.bind (collectKey_yields _ _ _ ⟨r.toolsUsed, rfl⟩) fun s₁ h₁ ↦ ?_
  refine Prog.Yields.bind (collectKey_yields _ _ _ h₁) fun s₂ h₂ ↦ ?_
  refine Prog.Yields.bind (collectKey_yields _ _ _ h₂) fun s₃ h₃ ↦ ?_
  refine Prog.Yields.bind (collectKey_yields _ _ _ h₃) fun s₄ h₄ ↦ ?_
  split_ifs
  · refine Prog.Yields.rest fun _ ↦
      Prog.Yields.rest fun _ ↦ yields_perform_bind.mpr fun _ ↦ ?_
    obtain ⟨tools, h₄⟩ := h₄
    obtain ⟨tools₁, hmetrics⟩ := recordTool_withTools tools .queryMetrics
    obtain ⟨tools₂, hlogs⟩ := recordTool_withTools tools₁ .queryLogs
    exact ⟨tools₂, by rw [h₄, hmetrics, hlogs]⟩
  · exact h₄

theorem evidenceEntries_stub (hcfg : cfg.agenticEnabled = false) (r : IncidentRecord)
    (raw : RawEvidence) :
    evidenceEntries cfg r raw = fromRawDict raw := by
  rw [evidenceEntries, hcfg]
  rfl

theorem triageStep_stub (hcfg : cfg.agenticEnabled = false) (r : IncidentRecord) :
    triageStep cfg worker r = writeCheckpoint worker
      (r.withHypotheses [[("triage", .dict (triageStub cfg r))]]) "triage" := by
  rw [triageStep, triage]
  rw [hcfg]
  rfl

/-- The change correlation asks what the evidence agent asks for recent changes. -/
theorem correlateChanges_stub (hcfg : cfg.agenticEnabled = false) (r : IncidentRecord) :
    correlateChanges cfg r =
      (toolOp .getRecentDeployments r.metadata.service r.metadata.resource).bind
        (newEvidence "change-correlation" "deployment-history" (66 / 100)) := by
  rw [correlateChanges, hcfg]
  rfl

theorem rcaStep_stub (hcfg : cfg.agenticEnabled = false) (r : IncidentRecord) :
    rcaStep cfg worker r = writeCheckpoint worker ((r.withHypotheses
      ((rcaStub cfg r).map RCAHypothesisItem.modelDump)).withLinks
        (hypothesisLinks r.incidentId 0 (rcaStub cfg r))) "rca" := by
  rw [rcaStep, analyzeRootCause]
  rw [hcfg]
  rfl

/-- The stub analysis always has a hypothesis. -/
theorem rcaStub_ne_nil (cfg : Settings) (r : IncidentRecord) : rcaStub cfg r ≠ [] := by
  unfold rcaStub
  dsimp only
  split_ifs <;> simp_all

theorem triageStep_next (hcfg : cfg.agenticEnabled = false) {r : IncidentRecord}
    (h : AtStage .triage r.view) :
    (triageStep cfg worker r).Yields fun r' ↦ AtStage .evidence r'.view := by
  obtain ⟨hstate, hhypotheses, hevidence⟩ := h
  rw [triageStep_stub worker hcfg]
  refine Prog.Yields.mono ?_ (writeCheckpoint_yields _ _ _)
  rintro r' ⟨⟨hview, -, -⟩, -⟩
  rw [hview, view_withHypotheses]
  exact ⟨hstate, ⟨_, congrArg (· ++ _) hhypotheses⟩, hevidence⟩

theorem gatherEvidence_yields (hcfg : cfg.agenticEnabled = false) (r : IncidentRecord) :
    (gatherEvidence cfg r).Yields fun a ↦ (∃ tools, a.1 = r.withTools tools) ∧
      ∃ raw, a.2.map EvidenceEntry.anonymous = dictContents raw := by
  refine Prog.Yields.bind (collectRaw_yields r _) ?_
  rintro ⟨r', raw⟩ hr'
  dsimp only
  rw [evidenceEntries_stub hcfg]
  exact Prog.Yields.bind (fromRawDict_yields raw) fun entries hentries ↦ ⟨hr', raw, hentries⟩

theorem evidenceStep_next (hcfg : cfg.agenticEnabled = false) {r : IncidentRecord}
    (h : AtStage .evidence r.view) :
    (evidenceStep cfg worker r).Yields fun r' ↦ AtStage .change r'.view := by
  obtain ⟨hstate, htriaged, hevidence⟩ := h
  refine Prog.Yields.bind (gatherEvidence_yields hcfg r) ?_
  rintro ⟨r₁, entries⟩ ⟨⟨tools, hr₁⟩, raw, hentries⟩
  dsimp only at hr₁ hentries
  subst hr₁
  refine Prog.Yields.mono ?_ (writeCheckpoint_yields _ _ _)
  rintro r' ⟨⟨hview, -, -⟩, -⟩
  have hfound : r'.view.evidence = dictContents raw := by
    rw [hview, view_withCoverage, view_withEvidence, hentries]
    exact congrArg (· ++ _) hevidence
  refine ⟨by rw [hview]; exact hstate, by rw [hview]; exact htriaged, ?_, ?_⟩
  · rw [hfound]
    exact dictContents_ne_nil raw
  · rw [CaseView.correlated, hfound, List.any_eq_false]
    intro e he
    simpa using dictContents_source he

theorem changeStep_next (hcfg : cfg.agenticEnabled = false) {r : IncidentRecord}
    (h : AtStage .change r.view) :
    (changeStep cfg worker r).Yields fun r' ↦ AtStage .rca r'.view := by
  obtain ⟨hstate, htriaged, -, -⟩ := h
  rw [changeStep, correlateChanges_stub hcfg]
  refine Prog.Yields.bind (R := fun e ↦ e.source = "change-correlation") ?_ fun entry hentry ↦ ?_
  · refine Prog.Yields.rest fun raw ↦ ?_
    exact Prog.Yields.mono (fun _ ↦ congrArg EvidenceEntry.source) (newEvidence_yields _ _ _ _)
  · refine Prog.Yields.mono ?_ (writeCheckpoint_yields _ _ _)
    rintro r' ⟨⟨hview, -, -⟩, -⟩
    rw [hview, view_withEvidence]
    refine ⟨hstate, htriaged, ?_⟩
    have hsource : (entry.anonymous.source == "change-correlation") = true :=
      beq_iff_eq.mpr hentry
    rw [CaseView.correlated]
    rw [List.any_append, List.map_singleton, List.any_cons, hsource, Bool.true_or, Bool.or_true]

theorem rcaStep_next (hcfg : cfg.agenticEnabled = false) {r : IncidentRecord}
    (h : AtStage .rca r.view) :
    (rcaStep cfg worker r).Yields fun r' ↦ Concluded r'.view := by
  obtain ⟨hstate, -, hcorrelated⟩ := h
  rw [rcaStep_stub worker hcfg]
  refine Prog.Yields.mono ?_ (writeCheckpoint_yields _ _ _)
  rintro r' ⟨⟨hview, -, -⟩, -⟩
  rw [hview, view_withLinks, view_withHypotheses]
  refine ⟨hstate, hcorrelated, ?_⟩
  obtain ⟨item, items, hitems⟩ := List.exists_cons_of_ne_nil (rcaStub_ne_nil cfg r)
  rw [CaseView.explained, List.any_append, hitems, List.map_cons, List.any_cons]
  exact Bool.or_true _

/-- What is next after a stage. -/
def Stage.Next (v : CaseView) : Stage → Prop
  | triage => AtStage .evidence v
  | evidence => AtStage .change v
  | change => AtStage .rca v
  | rca => Concluded v

theorem Stage.run_next (hcfg : cfg.agenticEnabled = false) {stage : Stage} {r : IncidentRecord}
    (h : AtStage stage r.view) :
    (stage.run cfg worker r).Yields fun r' ↦ stage.Next r'.view := by
  cases stage with
  | triage => exact triageStep_next worker hcfg h
  | evidence => exact evidenceStep_next worker hcfg h
  | change => exact changeStep_next worker hcfg h
  | rca => exact rcaStep_next worker hcfg h

/-! ## The loop as a straight line -/

/-- The part of an iteration after the decision for a stage. -/
def Stage.advance (cfg : Settings) (worker : Bool) (stage : Stage) (r : IncidentRecord) :
    Handler IncidentRecord := do
  let r ← stage.run cfg worker r
  save r

/-- An iteration that decides for a stage. -/
def Stage.iteration (cfg : Settings) (worker : Bool) (plan : ResponsePlan) (stage : Stage)
    (r : IncidentRecord) : Handler IncidentRecord := do
  let (r, _) ← decideNext cfg r plan
  stage.advance cfg worker r

theorem Stage.iteration_next (hcfg : cfg.agenticEnabled = false) (plan : ResponsePlan)
    {stage : Stage} {r : IncidentRecord} (h : AtStage stage r.view) :
    (stage.iteration cfg worker plan r).Yields fun r' ↦ stage.Next r'.view := by
  refine Prog.Yields.bind (decideNext_yields r plan hcfg) ?_
  rintro ⟨r₁, decision⟩ ⟨⟨hview, -, -⟩, -, -⟩
  dsimp only at hview
  refine Prog.Yields.bind (Stage.run_next worker hcfg (hview ▸ h)) fun r₂ hr₂ ↦ ?_
  refine Prog.Yields.mono ?_ (save_yields r₂)
  rintro r₃ ⟨⟨hview, -, -⟩, -⟩
  exact hview ▸ hr₂

/-- What the loop makes of the step it decided for. -/
theorem runStep_stage (stage : Stage) (r : IncidentRecord) :
    runStep cfg worker r stage.name = (stage.run cfg worker r).bind fun r ↦ pure (r, true) := by
  cases stage <;> rfl

/-- An iteration in which a stage is next. -/
theorem decisionLoop_stage (hcfg : cfg.agenticEnabled = false) (plan : ResponsePlan) (n : ℕ)
    {stage : Stage} {r : IncidentRecord} (h : AtStage stage r.view) :
    decisionLoop cfg worker plan (n + 1) r =
      (stage.iteration cfg worker plan r).bind (decisionLoop cfg worker plan n) := by
  rw [Stage.iteration, Prog.bind_eq, Prog.bind_assoc]
  refine Prog.Yields.bind_congr (decideNext_yields r plan hcfg) ?_
  rintro ⟨r₁, decision⟩ ⟨-, -, hdecides⟩
  dsimp only at hdecides ⊢
  have hstep := deterministicStep_stage cfg.text plan h.found
  have hnext : decision.nextWorkflow = stage.name := by rw [hdecides.nextWorkflow, hstep]
  have hreason : decision.stopReason = none := by rw [hdecides.stopReason, hstep]
  have hgo : (stage.name == "stop" || (orText none none).isSome) = false := by
    cases stage <;> decide
  rw [hnext, hreason, if_neg (Bool.eq_false_iff.mp hgo), runStep_stage]
  rw [Stage.advance, Prog.bind_eq, Prog.bind_eq, Prog.bind_assoc, Prog.bind_assoc]
  rfl

/-- **The straight line.** Without a language model, from an incident nobody has looked at, the loop
runs the four stages one after the other, each after one decision, and then decides once more. -/
theorem decisionLoop_eq (hcfg : cfg.agenticEnabled = false) (plan : ResponsePlan) (n : ℕ)
    {r : IncidentRecord} (h : AtStage .triage r.view) :
    decisionLoop cfg worker plan (n + 5) r =
      (Stage.triage.iteration cfg worker plan r).bind fun r₁ ↦
      (Stage.evidence.iteration cfg worker plan r₁).bind fun r₂ ↦
      (Stage.change.iteration cfg worker plan r₂).bind fun r₃ ↦
      (Stage.rca.iteration cfg worker plan r₃).bind (decisionLoop cfg worker plan (n + 1)) := by
  rw [decisionLoop_stage worker hcfg plan (n + 4) h]
  refine Prog.Yields.bind_congr (Stage.iteration_next worker hcfg plan h) fun r₁ h₁ ↦ ?_
  rw [decisionLoop_stage worker hcfg plan (n + 3) h₁]
  refine Prog.Yields.bind_congr (Stage.iteration_next worker hcfg plan h₁) fun r₂ h₂ ↦ ?_
  rw [decisionLoop_stage worker hcfg plan (n + 2) h₂]
  refine Prog.Yields.bind_congr (Stage.iteration_next worker hcfg plan h₂) fun r₃ h₃ ↦ ?_
  rw [decisionLoop_stage worker hcfg plan (n + 1) h₃]

end

end IncidentPlatform
