import IncidentPlatform.Interaction.Given
import IncidentPlatform.Workflow.Agreement

/-!
# Resuming the decision loop

The loop keeps no resume pointer. A new run starts from the stored record and infers what is left
to do from what it finds there: a stage saves its findings in one write, so between two writes there
is nothing that a later run could find half done. `OnTrail` says what a stored record looks like
when a given stage is next, for a fixed incident and fixed collectors; every write of every run,
resumed or not, stores such a record (`route_given`), and a run that returns has passed all stages.

Interruptions are those of Postgres mode. A run that is cut short leaves the rows as its last
write left them, whatever it had assigned to its record since.
-/

namespace IncidentPlatform

open Interaction

/-! ## What the collectors say -/

/-- The collectors are asked, everything else answers as it likes. -/
def Collectors.Says (c : Collectors) : (o : Op) → Ans o → Prop
  | .collect tool service resource, a => a = c.collect tool service resource
  | .recentDeployments service, a => a = c.recentDeployments service
  | _, _ => True

theorem Collectors.serve_tells (c : Collectors) (env : Env) (mode : Mode) (w : World) (o : Op) :
    c.Says o (c.serve env mode w o).1 := by
  cases o <;> first | rfl | trivial

/-- What the collector behind a tool answers. -/
def Collectors.ask (c : Collectors) (m : IncidentEnvelope) : ActionType → Except Fault String
  | .getRecentDeployments => c.recentDeployments m.service
  | tool => c.collect tool m.service m.resource

/-- The text it answers, if it does. -/
def Collectors.text (c : Collectors) (m : IncidentEnvelope) (tool : ActionType) : String :=
  match c.ask m tool with
  | .ok text => text
  | .error _ => ""

/-- The entry of one intent. -/
def Collectors.entry (c : Collectors) (m : IncidentEnvelope) (intents : List String)
    (key : String) (tool : ActionType) : RawEvidence :=
  if key ∈ intents then [(key, c.text m tool)] else []

/-- What `_collect_raw` returns where no collector fails. -/
def Collectors.raw (c : Collectors) (m : IncidentEnvelope) (intents : List String) :
    RawEvidence :=
  let raw := c.entry m intents "metrics" .queryMetrics ++ c.entry m intents "logs" .queryLogs ++
    c.entry m intents "recent_changes" .getRecentDeployments ++
    c.entry m intents "topology" .getTopology
  if raw.isEmpty then
    [("metrics", c.text m .queryMetrics), ("logs", c.text m .queryLogs)] else raw

/-- What the change correlation makes of the change feed, without id and timestamp. -/
def Collectors.correlated (c : Collectors) (m : IncidentEnvelope) : EvidenceEntry where
  evidenceId := ""
  source := "change-correlation"
  kind := "deployment-history"
  confidence := 66 / 100
  summary := c.text m .getRecentDeployments
  createdAt := 0

/-- Only the known intents count. -/
theorem Collectors.raw_congr (c : Collectors) (m : IncidentEnvelope)
    {intents intents' : List String} (h : ∀ key ∈ knownIntents, (key ∈ intents ↔ key ∈ intents')) :
    c.raw m intents = c.raw m intents' := by
  have hentry (key : String) (hkey : key ∈ knownIntents) (tool : ActionType) :
      c.entry m intents key tool = c.entry m intents' key tool := by
    unfold entry
    exact if_congr (h key hkey) rfl rfl
  unfold raw
  rw [hentry "metrics" (by decide), hentry "logs" (by decide),
    hentry "recent_changes" (by decide), hentry "topology" (by decide)]

/-- What is written satisfies `Q`. -/
def Op.Stores (Q : IncidentRecord → Prop) : Op → Prop
  | .write r => Q r
  | _ => True

section

variable {cfg : Settings} {c : Collectors} {Q : IncidentRecord → Prop} {r : IncidentRecord}

theorem agent_stores {α : Type} {p : Handler α} (h : p.Issues Op.ofAgent) :
    p.Issues (Op.Stores Q) :=
  Prog.Issues.mono (fun o ho ↦ by cases o <;> trivial) h

theorem assign_stores (r : IncidentRecord) : (assign r).Issues (Op.Stores Q) :=
  issues_perform trivial

/-- An answered collector. -/
theorem toolOp_given (m : IncidentEnvelope) (tool : ActionType) :
    (toolOp tool m.service m.resource).Given c.Says (Op.Stores Q) (· = c.text m tool) := by
  have hanswer : (orRaise (c.ask m tool)).Given c.Says (Op.Stores Q) (· = c.text m tool) := by
    rw [Collectors.text]
    cases c.ask m tool with
    | error f => trivial
    | ok text => exact rfl
  cases tool <;> exact ⟨trivial, fun _ ha ↦ ha ▸ hanswer⟩

theorem collectKey_given (intents : List String) (key : String) (tool : ActionType)
    {raw : RawEvidence} {state : IncidentRecord × RawEvidence}
    (hstate : ∃ tools, state = (r.withTools tools, raw)) :
    (collectKey (key ∈ intents) key tool state).Given c.Says (Op.Stores Q) fun a ↦ ∃ tools,
      a = (r.withTools tools, raw ++ c.entry r.metadata intents key tool) := by
  obtain ⟨tools, rfl⟩ := hstate
  rw [Collectors.entry, collectKey]
  by_cases hkey : key ∈ intents
  · rw [if_pos (decide_eq_true hkey), if_pos hkey]
    refine Prog.Given.bind (toolOp_given r.metadata tool) ?_
    rintro text rfl
    obtain ⟨tools', htools⟩ := recordTool_withTools tools tool
    exact ⟨trivial, fun _ _ ↦ ⟨tools', by rw [htools]⟩⟩
  · rw [if_neg (mt of_decide_eq_true hkey), if_neg hkey, List.append_nil]
    exact ⟨tools, rfl⟩

theorem collectRaw_given (intents : List String) :
    (collectRaw r intents).Given c.Says (Op.Stores Q) fun a ↦
      ∃ tools, a = (r.withTools tools, c.raw r.metadata intents) := by
  refine Prog.Given.bind (collectKey_given _ _ _ ⟨r.toolsUsed, rfl⟩) fun s₁ h₁ ↦ ?_
  refine Prog.Given.bind (collectKey_given _ _ _ h₁) fun s₂ h₂ ↦ ?_
  refine Prog.Given.bind (collectKey_given _ _ _ h₂) fun s₃ h₃ ↦ ?_
  refine Prog.Given.bind (collectKey_given _ _ _ h₃) fun s₄ h₄ ↦ ?_
  obtain ⟨tools, rfl⟩ := h₄
  rw [Collectors.raw, List.nil_append]
  dsimp only
  split_ifs with hempty
  · refine Prog.Given.bind (toolOp_given r.metadata .queryMetrics) ?_
    rintro metrics rfl
    refine Prog.Given.bind (toolOp_given r.metadata .queryLogs) ?_
    rintro logs rfl
    obtain ⟨tools₁, hmetrics⟩ := recordTool_withTools tools .queryMetrics
    obtain ⟨tools₂, hlogs⟩ := recordTool_withTools tools₁ .queryLogs
    exact ⟨trivial, fun _ _ ↦ ⟨tools₂, by rw [hmetrics, hlogs]⟩⟩
  · exact ⟨tools, rfl⟩

/-- The evidence agent finds what the collectors say. -/
theorem gatherEvidence_given (hcfg : cfg.agenticEnabled = false) (r : IncidentRecord) :
    (gatherEvidence cfg r).Given c.Says (Op.Stores Q) fun a ↦
      (∃ tools, a.1 = r.withTools tools) ∧ a.2.map EvidenceEntry.anonymous
        = dictContents (c.raw r.metadata (resolveIntents cfg r)) := by
  refine Prog.Given.bind (collectRaw_given _) ?_
  rintro a ⟨tools, rfl⟩
  dsimp only
  rw [evidenceEntries_stub hcfg]
  have hentries := Prog.Given.of_issues (A := c.Says) (P := Op.Stores Q)
    (agent_stores (fromRawDict_issues (c.raw r.metadata (resolveIntents cfg r))))
    (fromRawDict_yields _)
  exact Prog.Given.bind hentries fun entries hentries ↦ ⟨⟨tools, rfl⟩, hentries⟩

/-- The change correlation finds what the change feed says. -/
theorem correlateChanges_given (hcfg : cfg.agenticEnabled = false) (r : IncidentRecord) :
    (correlateChanges cfg r).Given c.Says (Op.Stores Q) fun e ↦
      e.anonymous = c.correlated r.metadata := by
  rw [correlateChanges_stub hcfg]
  refine Prog.Given.bind (toolOp_given r.metadata .getRecentDeployments) ?_
  rintro raw rfl
  exact Prog.Given.of_issues (agent_stores (newEvidence_issues _ _ _ _))
    (newEvidence_yields _ _ _ _)

/-- A save stores the same case. -/
theorem save_stores (hQ : ∀ r', SameCase r r' → Q r') : (save r).Issues (Op.Stores Q) := by
  refine issues_bind (assign_stores r) fun _ ↦ ?_
  refine issues_bind (issues_perform trivial) fun previous ↦ ?_
  refine issues_bind ?_ fun _ ↦ issues_bind (issues_perform trivial) fun _ ↦
    issues_bind (issues_perform (hQ _ ⟨rfl, rfl, rfl⟩)) fun _ ↦ trivial
  cases previous with
  | none => trivial
  | some p => exact require_issues _ _

theorem writeCheckpoint_stores (worker : Bool) (step : String) (hQ : ∀ r', SameCase r r' → Q r') :
    (writeCheckpoint worker r step).Issues (Op.Stores Q) := by
  have hstep := (withStep_kept r step).toSameCase
  refine issues_bind (save_stores fun r' hr' ↦ hQ r' (hstep.trans hr')) fun _ ↦ ?_
  exact issues_bind (issues_perform trivial) fun _ ↦ trivial

theorem decideNext_stores (cfg : Settings) (r : IncidentRecord) (plan : ResponsePlan) :
    (decideNext cfg r plan).Issues (Op.Stores Q) := by
  refine issues_bind (assign_stores _) fun _ ↦ ?_
  refine issues_bind (agent_stores (computeRouterDecision_issues cfg _ plan)) fun raw ↦ ?_
  refine issues_bind ?_ fun _ ↦ issues_bind (agent_stores (appendTrace_issues _ _ _)) fun _ ↦
    issues_bind (assign_stores _) fun _ ↦ trivial
  exact issues_bind (issues_perform trivial) fun _ ↦ issues_bind (issues_perform trivial) fun _ ↦
    issues_bind (assign_stores _) fun _ ↦ issues_bind (issues_perform trivial) fun _ ↦ trivial

end

/-! ## The trail -/

/-- The fields a resumed run goes by, and those it adds findings to. -/
structure Untouched (r r' : IncidentRecord) : Prop where
  incidentId : r'.incidentId = r.incidentId
  metadata : r'.metadata = r.metadata
  evidence : r'.evidence = r.evidence
  hypotheses : r'.hypotheses = r.hypotheses
  hypothesisLinks : r'.hypothesisLinks = r.hypothesisLinks

theorem Untouched.trans {r r' r'' : IncidentRecord} (h : Untouched r r') (h' : Untouched r' r'') :
    Untouched r r'' :=
  ⟨h'.incidentId.trans h.incidentId, h'.metadata.trans h.metadata, h'.evidence.trans h.evidence,
    h'.hypotheses.trans h.hypotheses, h'.hypothesisLinks.trans h.hypothesisLinks⟩

theorem SameCase.untouched {r r' : IncidentRecord} (h : SameCase r r') : Untouched r r' :=
  ⟨congrArg CaseView.incidentId h.view, congrArg CaseView.metadata h.view, h.evidence,
    congrArg CaseView.hypotheses h.view, h.hypothesisLinks⟩

/-- The triage block of an incident. -/
def triageBlock (cfg : Settings) (r : IncidentRecord) : Dict :=
  [("triage", .dict (triageStub cfg r))]

/-- What the evidence agent finds for an incident. -/
def Collectors.found (c : Collectors) (cfg : Settings) (start : IncidentRecord) :
    List EvidenceEntry :=
  dictContents (c.raw start.metadata (triageIntents cfg.text [triageBlock cfg start]))

/-- The stage after a stage. -/
def Stage.after : Stage → Option Stage
  | triage => some evidence
  | evidence => some change
  | change => some rca
  | rca => none

/-- The number of stages that are left. -/
def stagesLeft : Option Stage → ℕ
  | some .triage => 4
  | some .evidence => 3
  | some .change => 2
  | some .rca => 1
  | none => 0

theorem stagesLeft_after (stage : Stage) :
    stagesLeft (some stage) = stagesLeft stage.after + 1 := by
  cases stage <;> rfl

/-- The evidence, without ids and timestamps, when a stage is next. -/
def Collectors.evidence (c : Collectors) (cfg : Settings) (start : IncidentRecord) :
    Option Stage → List EvidenceEntry
  | some .triage | some .evidence => []
  | some .change => c.found cfg start
  | some .rca | none => c.found cfg start ++ [c.correlated start.metadata]

/-- The hypotheses when a stage is next; those of the root cause cite the evidence of `r`. -/
def trailHypotheses (cfg : Settings) (start r : IncidentRecord) : Option Stage → List Dict
  | some .triage => []
  | some _ => [triageBlock cfg start]
  | none => triageBlock cfg start :: (rcaStub cfg r).map RCAHypothesisItem.modelDump

/-- The hypothesis links when a stage is next. -/
def trailLinks (cfg : Settings) (start r : IncidentRecord) : Option Stage → List HypothesisLink
  | some _ => start.hypothesisLinks
  | none => start.hypothesisLinks ++ hypothesisLinks start.incidentId 0 (rcaStub cfg r)

/-- A record of the incident `start` in which the stage `next`, or none, is next. -/
structure OnTrail (cfg : Settings) (c : Collectors) (start : IncidentRecord) (next : Option Stage)
    (r : IncidentRecord) : Prop where
  incidentId : r.incidentId = start.incidentId
  metadata : r.metadata = start.metadata
  evidence : r.view.evidence = c.evidence cfg start next
  hypotheses : r.hypotheses = trailHypotheses cfg start r next
  hypothesisLinks : r.hypothesisLinks = trailLinks cfg start r next

/-- A record of the incident on its trail. -/
def Underway (cfg : Settings) (c : Collectors) (start r : IncidentRecord) : Prop :=
  ∃ next, OnTrail cfg c start next r

section

variable {cfg : Settings} {c : Collectors} {start r r' : IncidentRecord} {next : Option Stage}
  {stage : Stage}

theorem rcaStub_congr (cfg : Settings) (h : Untouched r r') : rcaStub cfg r' = rcaStub cfg r := by
  unfold rcaStub
  rw [h.metadata, h.evidence]

namespace OnTrail

theorem untouched (h : OnTrail cfg c start next r) (h' : Untouched r r') :
    OnTrail cfg c start next r' where
  incidentId := h'.incidentId.trans h.incidentId
  metadata := h'.metadata.trans h.metadata
  evidence := by
    rw [← h.evidence]
    exact congrArg (List.map EvidenceEntry.anonymous) h'.evidence
  hypotheses := by
    rw [h'.hypotheses, h.hypotheses]
    unfold trailHypotheses
    rw [rcaStub_congr cfg h']
  hypothesisLinks := by
    rw [h'.hypothesisLinks, h.hypothesisLinks]
    unfold trailLinks
    rw [rcaStub_congr cfg h']

/-- An incident nobody has looked at. -/
theorem init (hhypotheses : start.hypotheses = []) (hevidence : start.evidence = []) :
    OnTrail cfg c start (some .triage) start where
  incidentId := rfl
  metadata := rfl
  evidence := congrArg (List.map EvidenceEntry.anonymous) hevidence
  hypotheses := hhypotheses
  hypothesisLinks := rfl

theorem found_ne_nil : c.found cfg start ≠ [] := dictContents_ne_nil _

theorem not_correlated :
    (c.found cfg start).any (fun e ↦ e.source == "change-correlation") = false := by
  rw [List.any_eq_false]
  intro e he
  simpa using dictContents_source he

theorem correlated (h : r.view.evidence = c.found cfg start ++ [c.correlated start.metadata]) :
    r.view.correlated = true := by
  rw [CaseView.correlated, h, List.any_append, not_correlated]
  rfl

/-- The router sees which stage is next. -/
theorem atStage (h : OnTrail cfg c start (some stage) r) (hstate : r.state = .investigating) :
    AtStage stage r.view := by
  refine ⟨hstate, ?_⟩
  have hevidence := h.evidence
  have hhypotheses : r.view.hypotheses = _ := h.hypotheses
  cases stage with
  | triage => exact ⟨hhypotheses, hevidence⟩
  | evidence => exact ⟨⟨_, hhypotheses⟩, hevidence⟩
  | change =>
    refine ⟨⟨_, hhypotheses⟩, ?_, ?_⟩
    · rw [hevidence]
      exact found_ne_nil
    · rw [CaseView.correlated, hevidence]
      exact not_correlated
  | rca => exact ⟨⟨_, hhypotheses⟩, correlated hevidence⟩

/-- The router sees when none is. -/
theorem concluded (h : OnTrail cfg c start none r) (hstate : r.state = .investigating) :
    Concluded r.view := by
  refine ⟨hstate, correlated h.evidence, ?_⟩
  have hhypotheses : r.view.hypotheses = _ := h.hypotheses
  obtain ⟨item, items, hitems⟩ := List.exists_cons_of_ne_nil (rcaStub_ne_nil cfg r)
  rw [CaseView.explained, hhypotheses]
  rw [trailHypotheses, hitems, List.map_cons, List.any_cons, List.any_cons]
  exact Bool.or_true _

end OnTrail

/-! ## Running along the trail -/

/-- A checkpoint of a record on the trail. -/
theorem writeCheckpoint_given (worker : Bool) (step : String) (h : OnTrail cfg c start next r) :
    (writeCheckpoint worker r step).Given c.Says (Op.Stores (Underway cfg c start))
      (OnTrail cfg c start next) := by
  have hkeeps (r' : IncidentRecord) (hr' : SameCase r r') : OnTrail cfg c start next r' :=
    h.untouched hr'.untouched
  exact Prog.Given.of_issues (writeCheckpoint_stores worker step fun r' hr' ↦ ⟨next, hkeeps r' hr'⟩)
    (Prog.Yields.mono (fun r' hr' ↦ hkeeps r' hr'.toSameCase) (writeCheckpoint_yields _ _ _))

theorem triageStep_given (worker : Bool) (hcfg : cfg.agenticEnabled = false)
    (h : OnTrail cfg c start (some .triage) r) :
    (triageStep cfg worker r).Given c.Says (Op.Stores (Underway cfg c start))
      (OnTrail cfg c start (some .evidence)) := by
  have hblock : triageStub cfg r = triageStub cfg start := triageStub_congr h.metadata
  rw [triageStep_stub worker hcfg, hblock]
  refine writeCheckpoint_given worker _
    ⟨h.incidentId, h.metadata, h.evidence, ?_, h.hypothesisLinks⟩
  change r.hypotheses ++ [triageBlock cfg start] = [triageBlock cfg start]
  rw [h.hypotheses]
  exact List.nil_append _

theorem evidenceStep_given (worker : Bool) (hcfg : cfg.agenticEnabled = false)
    {plan : ResponsePlan} {b : IncidentRecord} {d : RouterDecision}
    (h : OnTrail cfg c start (some .evidence) r) (hb : b.hypotheses = r.hypotheses)
    (hd : r.latestRouterDecision = some d) (hdecides : Decides cfg.text plan b d) :
    (evidenceStep cfg worker r).Given c.Says (Op.Stores (Underway cfg c start))
      (OnTrail cfg c start (some .change)) := by
  have hraw : c.raw r.metadata (resolveIntents cfg r) =
      c.raw start.metadata (triageIntents cfg.text [triageBlock cfg start]) := by
    rw [h.metadata]
    refine c.raw_congr _ fun key hkey ↦ ?_
    rw [mem_resolveIntents hdecides hb hd hkey, h.hypotheses]
    rfl
  refine Prog.Given.bind (gatherEvidence_given hcfg r) ?_
  rintro ⟨r₁, entries⟩ ⟨⟨tools, hr₁⟩, hentries⟩
  dsimp only at hr₁ hentries
  subst hr₁
  refine writeCheckpoint_given worker _
    ⟨h.incidentId, h.metadata, ?_, h.hypotheses, h.hypothesisLinks⟩
  rw [view_withCoverage, view_withEvidence, hentries, hraw]
  change r.view.evidence ++ c.found cfg start = c.found cfg start
  rw [h.evidence]
  exact List.nil_append _

theorem changeStep_given (worker : Bool) (hcfg : cfg.agenticEnabled = false)
    (h : OnTrail cfg c start (some .change) r) :
    (changeStep cfg worker r).Given c.Says (Op.Stores (Underway cfg c start))
      (OnTrail cfg c start (some .rca)) := by
  refine Prog.Given.bind (correlateChanges_given hcfg r) fun e he ↦ ?_
  refine writeCheckpoint_given worker _
    ⟨h.incidentId, h.metadata, ?_, h.hypotheses, h.hypothesisLinks⟩
  rw [view_withEvidence, List.map_singleton, he, h.metadata, h.evidence]
  rfl

theorem rcaStep_given (worker : Bool) (hcfg : cfg.agenticEnabled = false)
    (h : OnTrail cfg c start (some .rca) r) :
    (rcaStep cfg worker r).Given c.Says (Op.Stores (Underway cfg c start))
      (OnTrail cfg c start none) := by
  rw [rcaStep_stub worker hcfg, h.incidentId]
  refine writeCheckpoint_given worker _ ⟨h.incidentId, h.metadata, h.evidence, ?_, ?_⟩
  · exact congrArg (· ++ (rcaStub cfg r).map RCAHypothesisItem.modelDump) h.hypotheses
  · exact congrArg (· ++ hypothesisLinks start.incidentId 0 (rcaStub cfg r)) h.hypothesisLinks

/-- A stage takes the record to the next one, and stores it there. -/
theorem Stage.run_given (worker : Bool) (hcfg : cfg.agenticEnabled = false) {plan : ResponsePlan}
    {b : IncidentRecord} {d : RouterDecision} (h : OnTrail cfg c start (some stage) r)
    (hb : b.hypotheses = r.hypotheses) (hd : r.latestRouterDecision = some d)
    (hdecides : Decides cfg.text plan b d) :
    (stage.run cfg worker r).Given c.Says (Op.Stores (Underway cfg c start))
      (OnTrail cfg c start stage.after) := by
  cases stage with
  | triage => exact triageStep_given worker hcfg h
  | evidence => exact evidenceStep_given worker hcfg h hb hd hdecides
  | change => exact changeStep_given worker hcfg h
  | rca => exact rcaStep_given worker hcfg h

/-- An iteration takes it there too, still under investigation. -/
theorem Stage.iteration_given (worker : Bool) (hcfg : cfg.agenticEnabled = false)
    (plan : ResponsePlan) (h : OnTrail cfg c start (some stage) r)
    (hstate : r.state = .investigating) :
    (stage.iteration cfg worker plan r).Given c.Says (Op.Stores (Underway cfg c start))
      fun r' ↦ OnTrail cfg c start stage.after r' ∧ r'.state = .investigating := by
  have hgiven : (stage.iteration cfg worker plan r).Given c.Says
      (Op.Stores (Underway cfg c start)) (OnTrail cfg c start stage.after) := by
    refine Prog.Given.bind (Prog.Given.of_issues (decideNext_stores cfg r plan)
      (decideNext_yields r plan hcfg)) ?_
    rintro ⟨r₁, d⟩ ⟨hcase, hd, hdecides⟩
    have hhypotheses : r.hypotheses = r₁.hypotheses := hcase.untouched.hypotheses.symm
    refine Prog.Given.bind (Stage.run_given worker hcfg (h.untouched hcase.untouched) hhypotheses
      hd hdecides) fun r₂ h₂ ↦ ?_
    have hkeeps (r₃ : IncidentRecord) (hr₃ : SameCase r₂ r₃) : OnTrail cfg c start stage.after r₃ :=
      h₂.untouched hr₃.untouched
    exact Prog.Given.of_issues (save_stores fun r₃ hr₃ ↦ ⟨_, hkeeps r₃ hr₃⟩)
      (Prog.Yields.mono (fun r₃ hr₃ ↦ hkeeps r₃ hr₃.toSameCase) (save_yields r₂))
  refine Prog.Given.mono ?_ (hgiven.and_yields
    (Stage.iteration_next worker hcfg plan (h.atStage hstate)))
  rintro r' ⟨htrail, hnext⟩
  exact ⟨htrail, Stage.next_state hnext⟩

/-- The planner adds no findings. -/
theorem plannerStep_given (worker : Bool) (hcfg : cfg.agenticEnabled = false)
    (h : OnTrail cfg c start next r) :
    (plannerStep cfg worker r).Given c.Says (Op.Stores (Underway cfg c start)) (Untouched r) := by
  have hplan : planRemediation cfg r = stubGraph cfg r := by
    rw [planRemediation, hcfg]
    rfl
  rw [plannerStep, hplan]
  refine Prog.Given.bind (Prog.Given.of_issues (agent_stores (stubGraph_issues cfg r))
    (stubGraph_yields_confidence cfg r)) ?_
  rintro ⟨r₁, graph⟩ hr₁
  dsimp only at hr₁ ⊢
  subst hr₁
  have hplanned : Untouched r (withPlannedGraph (r.withConfidence (92 / 100)) graph) :=
    ⟨rfl, rfl, rfl, rfl, rfl⟩
  have hstores : (writeCheckpoint worker (withPlannedGraph (r.withConfidence (92 / 100)) graph)
      "planned").Issues (Op.Stores (Underway cfg c start)) :=
    writeCheckpoint_stores worker _ fun r' hr' ↦
      ⟨next, h.untouched (hplanned.trans hr'.untouched)⟩
  refine Prog.Given.bind (Prog.Given.of_issues hstores (writeCheckpoint_yields _ _ _))
    fun r₂ hr₂ ↦ ?_
  refine Prog.Given.of_issues (agent_stores (appendTrace_issues _ _ _))
    (Prog.Yields.mono ?_ (appendTrace_yields _ _ _))
  rintro r₃ ⟨entry, rfl⟩
  have htraced : Untouched r₂ (r₂.withTrace entry) := ⟨rfl, rfl, rfl, rfl, rfl⟩
  exact (hplanned.trans hr₂.toSameCase.untouched).trans htraced

/-- Where no stage is next, the loop adds nothing. -/
theorem decisionLoop_untouched (worker : Bool) (hcfg : cfg.agenticEnabled = false)
    (plan : ResponsePlan) (n : ℕ) (h : OnTrail cfg c start none r)
    (hstate : r.state = .investigating) :
    (decisionLoop cfg worker plan (n + 1) r).Given c.Says (Op.Stores (Underway cfg c start))
      (Untouched r) := by
  obtain ⟨last, hloop, hlast⟩ := decisionLoop_concluded worker plan n (h.concluded hstate)
  rw [hloop]
  refine Prog.Given.bind (Prog.Given.of_issues (decideNext_stores cfg r plan)
    (decideNext_yields r plan hcfg)) ?_
  rintro ⟨r₁, d⟩ ⟨hcase, -, hdecides⟩
  dsimp only at hcase hdecides
  rcases hlast (r₁, d) hdecides with ⟨reason, hstop⟩ | hplan
  · rw [hstop]
    refine Prog.Given.of_issues (agent_stores (appendTrace_issues _ _ _))
      (Prog.Yields.mono ?_ (appendTrace_yields _ _ _))
    rintro r₂ ⟨entry, rfl⟩
    have htraced : Untouched r₁ (r₁.withTrace entry) := ⟨rfl, rfl, rfl, rfl, rfl⟩
    exact hcase.untouched.trans htraced
  · rw [hplan]
    exact Prog.Given.mono (fun r₂ hr₂ ↦ hcase.untouched.trans hr₂)
      (plannerStep_given worker hcfg (h.untouched hcase.untouched))

/-- What a run from a record with `next` next ends with. -/
def Finishes (cfg : Settings) (c : Collectors) (start : IncidentRecord) (next : Option Stage)
    (r r' : IncidentRecord) : Prop :=
  OnTrail cfg c start none r' ∧ (next = none → Untouched r r')

/-- The loop runs the stages that are left, whatever they are. -/
theorem decisionLoop_given (worker : Bool) (hcfg : cfg.agenticEnabled = false)
    (plan : ResponsePlan) (n : ℕ) (hn : stagesLeft next ≤ n) (h : OnTrail cfg c start next r)
    (hstate : r.state = .investigating) :
    (decisionLoop cfg worker plan (n + 1) r).Given c.Says (Op.Stores (Underway cfg c start))
      (Finishes cfg c start next r) := by
  -- By induction on the iterations that are left; each one takes a stage off the trail.
  induction n generalizing next r with
  | zero =>
    cases next with
    | none =>
      exact Prog.Given.mono (fun _ hr' ↦ ⟨h.untouched hr', fun _ ↦ hr'⟩)
        (decisionLoop_untouched worker hcfg plan 0 h hstate)
    | some stage =>
      rw [stagesLeft_after] at hn
      omega
  | succ n ih =>
    cases next with
    | none =>
      exact Prog.Given.mono (fun _ hr' ↦ ⟨h.untouched hr', fun _ ↦ hr'⟩)
        (decisionLoop_untouched worker hcfg plan (n + 1) h hstate)
    | some stage =>
      rw [stagesLeft_after] at hn
      rw [decisionLoop_stage worker hcfg plan (n + 1) (h.atStage hstate)]
      refine Prog.Given.bind (Stage.iteration_given worker hcfg plan h hstate) ?_
      rintro r' ⟨h', hstate'⟩
      refine Prog.Given.mono ?_ (ih (by omega) h' hstate')
      rintro r'' ⟨h'', -⟩
      exact ⟨h'', fun hnone ↦ by cases hnone⟩

/-- **A run goes on where the record says.** From any record on the trail the route stores records
on the trail only, and if it returns, no stage is left. -/
theorem route_given (worker : Bool) (hcfg : cfg.agenticEnabled = false)
    (hlimit : 5 ≤ cfg.routerMaxIterations) (h : OnTrail cfg c start next r) :
    (runDecisionLoopRoute cfg worker r).Given c.Says (Op.Stores (Underway cfg c start))
      (Finishes cfg c start next r) := by
  obtain ⟨n, hn, hleft⟩ : ∃ n, cfg.maxIterations = n + 1 ∧ stagesLeft next ≤ n := by
    have hmost : stagesLeft next ≤ 4 := by
      rcases next with _ | _ | _ | _ | _ <;> decide
    refine ⟨cfg.maxIterations - 1, ?_, ?_⟩ <;> unfold Settings.maxIterations <;> omega
  have hmatched : Untouched r ((matchPlan cfg r).withIteration 0) := ⟨rfl, rfl, rfl, rfl, rfl⟩
  have hstores : (writeCheckpoint worker ((matchPlan cfg r).withIteration 0) "match").Issues
      (Op.Stores (Underway cfg c start)) :=
    writeCheckpoint_stores worker _ fun r' hr' ↦
      ⟨next, h.untouched (hmatched.trans hr'.untouched)⟩
  refine Prog.Given.bind (Prog.Given.of_issues hstores (writeCheckpoint_yields _ _ _))
    fun r₁ hr₁ ↦ ?_
  have hkept : Untouched r r₁ := hmatched.trans hr₁.toSameCase.untouched
  have hstate : r₁.state = .investigating := congrArg CaseView.state hr₁.view
  rw [hn]
  -- Neither the first checkpoint nor the last save adds a finding.
  refine Prog.Given.bind (decisionLoop_given worker hcfg _ n hleft (h.untouched hkept) hstate) ?_
  rintro r₂ ⟨h₂, hadds⟩
  have hrouted : Untouched r₂ r₂.routed := ⟨rfl, rfl, rfl, rfl, rfl⟩
  refine Prog.Given.of_issues (save_stores fun r₃ hr₃ ↦ ⟨none, ?_⟩)
    (Prog.Yields.mono (fun r₃ hr₃ ↦ ?_) (save_yields _))
  · exact h₂.untouched (hrouted.trans hr₃.untouched)
  · have hsaved : Untouched r₂ r₃ := hrouted.trans hr₃.toSameCase.untouched
    exact ⟨h₂.untouched hsaved, fun hnone ↦ (hkept.trans (hadds hnone)).trans hsaved⟩

/-! ## Interruptions -/

/-- The stored record of the incident is on its trail. -/
def StoredUnderway (cfg : Settings) (c : Collectors) (start : IncidentRecord) (w : World) : Prop :=
  ∃ p, w.stored start.incidentId = some p ∧ Underway cfg c start p

theorem serve_storedUnderway (env : Env) (w : World) (o : Op)
    (ho : o.Stores (Underway cfg c start)) (h : StoredUnderway cfg c start w) :
    StoredUnderway cfg c start (c.serve env .postgres w o).2 := by
  obtain ⟨p, hp, hunderway⟩ := h
  cases o with
  | write r =>
    obtain ⟨next, hr⟩ := ho
    refine ⟨r, ?_, next, hr⟩
    exact (World.stored_written _ _ _).trans (if_pos hr.incidentId)
  | _ => exact ⟨p, hp, hunderway⟩

end

/-- A run of the route that is cut off after `cut` operations, if it gets that far. -/
structure Attempt where
  env : Env
  worker : Bool
  cut : ℕ

/-- What the attempt leaves, which starts from the stored record. -/
def Attempt.leaves (cfg : Settings) (c : Collectors) (incidentId : String) (w : World)
    (a : Attempt) : World :=
  match w.stored incidentId with
  | some r => (runDecisionLoopRoute cfg a.worker r).leaves (c.serve a.env .postgres) a.cut w
  | none => w

/-- What attempts one after the other leave. -/
def afterAttempts (cfg : Settings) (c : Collectors) (incidentId : String) (w : World)
    (attempts : List Attempt) : World :=
  attempts.foldl (Attempt.leaves cfg c incidentId) w

section

variable {cfg : Settings} {c : Collectors} {start r : IncidentRecord} {next : Option Stage}

/-- One attempt. -/
theorem Attempt.leaves_underway (hcfg : cfg.agenticEnabled = false)
    (hlimit : 5 ≤ cfg.routerMaxIterations) {w : World} (h : StoredUnderway cfg c start w)
    (a : Attempt) : StoredUnderway cfg c start (a.leaves cfg c start.incidentId w) := by
  obtain ⟨p, hp, next, hunderway⟩ := h
  rw [Attempt.leaves, hp]
  exact Prog.Given.leaves (I := StoredUnderway cfg c start) (c.serve_tells a.env .postgres)
    (serve_storedUnderway a.env) (route_given a.worker hcfg hlimit hunderway) a.cut w
    ⟨p, hp, next, hunderway⟩

/-- Any number of attempts. -/
theorem afterAttempts_underway (hcfg : cfg.agenticEnabled = false)
    (hlimit : 5 ≤ cfg.routerMaxIterations) {w : World} (h : StoredUnderway cfg c start w)
    (attempts : List Attempt) :
    StoredUnderway cfg c start (afterAttempts cfg c start.incidentId w attempts) := by
  rw [afterAttempts]
  induction attempts generalizing w with
  | nil => exact h
  | cons a attempts ih => exact ih (a.leaves_underway hcfg hlimit h)

/-- Some run of the route on `r` returns `r'`. -/
def RouteReturns (cfg : Settings) (c : Collectors) (w : World) (r r' : IncidentRecord) : Prop :=
  ∃ (env : Env) (worker : Bool),
    ((runDecisionLoopRoute cfg worker r).run (c.serve env .postgres) w).1 = .ok r'

/-- A run that returns. -/
theorem route_finishes (hcfg : cfg.agenticEnabled = false) (hlimit : 5 ≤ cfg.routerMaxIterations)
    {w : World} {r' : IncidentRecord} (h : OnTrail cfg c start next r)
    (hreturns : RouteReturns cfg c w r r') : Finishes cfg c start next r r' := by
  obtain ⟨env, worker, hrun⟩ := hreturns
  exact (Prog.Given.run (I := fun _ ↦ True) (c.serve_tells env .postgres) (fun _ _ _ _ ↦ trivial)
    (route_given worker hcfg hlimit h) w trivial).2 r' hrun

end

/-! ## The same as without interruptions -/

/-- A link that cites the evidence with these ids. -/
def HypothesisLink.citing (ids : List String) (link : HypothesisLink) : HypothesisLink :=
  { link with supportingEvidenceIds := ids }

theorem hypothesisLinks_citing (incidentId : String) (ids : List String) :
    ∀ (i : ℕ) (items : List RCAHypothesisItem),
      (hypothesisLinks incidentId i items).map (HypothesisLink.citing ids) =
        hypothesisLinks incidentId i (items.map (RCAHypothesisItem.citing ids))
  | _, [] => rfl
  | i, _ :: items => congrArg (_ :: ·) (hypothesisLinks_citing incidentId ids (i + 1) items)

/-- The same findings up to generated ids and timestamps: the entries of the evidence correspond one
by one, and so do the hypotheses and the links since `earlier`, each citing the evidence of its own
record. -/
structure SameTrail (earlier : List HypothesisLink) (r l : IncidentRecord) : Prop where
  evidence : r.evidence.map EvidenceEntry.anonymous = l.evidence.map EvidenceEntry.anonymous
  hypotheses : ∃ blocks : List Dict,
    r.hypotheses = blocks.map (Dict.citing (r.evidence.map EvidenceEntry.evidenceId)) ∧
      l.hypotheses = blocks.map (Dict.citing (l.evidence.map EvidenceEntry.evidenceId))
  hypothesisLinks : ∃ links : List HypothesisLink,
    r.hypothesisLinks = earlier ++
        links.map (HypothesisLink.citing (r.evidence.map EvidenceEntry.evidenceId)) ∧
      l.hypothesisLinks = earlier ++
        links.map (HypothesisLink.citing (l.evidence.map EvidenceEntry.evidenceId))

/-- Two records in which no stage is left. -/
theorem sameTrail_of_onTrail {cfg : Settings} {c : Collectors} {start r l : IncidentRecord}
    (hr : OnTrail cfg c start none r) (hl : OnTrail cfg c start none l) :
    SameTrail start.hypothesisLinks r l := by
  have hmetadata : r.metadata = l.metadata := hr.metadata.trans hl.metadata.symm
  have hevidence : r.view.evidence = l.view.evidence := hr.evidence.trans hl.evidence.symm
  have hblock (ids : List String) :
      Dict.citing ids (triageBlock cfg start) = triageBlock cfg start := by
    simp [Dict.citing, triageBlock]
  refine ⟨hevidence, ⟨r.hypotheses, ?_, ?_⟩, hypothesisLinks start.incidentId 0 (rcaStub cfg r),
    ?_, ?_⟩
  · rw [hr.hypotheses]
    unfold trailHypotheses
    rw [List.map_cons, hblock, rcaStub_citing rfl rfl]
  · rw [hr.hypotheses, hl.hypotheses]
    unfold trailHypotheses
    rw [List.map_cons, hblock, rcaStub_citing hmetadata hevidence]
  · rw [hr.hypothesisLinks, hypothesisLinks_citing, rcaStub_items rfl rfl]
    rfl
  · rw [hl.hypothesisLinks, hypothesisLinks_citing, rcaStub_items hmetadata hevidence]
    rfl

/-- **Recovery.** With agents in stub mode and a limit of at least five iterations, take an incident
without hypotheses and evidence and cut off any number of runs of the loop, each anywhere and each
started from the stored record. A run that then returns ends with the evidence, hypotheses and
hypothesis links of an uninterrupted run, up to generated ids and timestamps, and one more run adds
none. -/
theorem interrupted_loop_recovers (cfg : Settings) (hstub : cfg.agenticEnabled = false)
    (hlimit : 5 ≤ cfg.routerMaxIterations) (c : Collectors) (incident : IncidentRecord)
    (hhypotheses : incident.hypotheses = []) (hevidence : incident.evidence = []) (w : World)
    (hstored : w.stored incident.incidentId = some incident) (attempts : List Attempt) :
    ∃ p, (afterAttempts cfg c incident.incidentId w attempts).stored incident.incidentId = some p ∧
      ∀ last, RouteReturns cfg c (afterAttempts cfg c incident.incidentId w attempts) p last →
        (∀ full, RouteReturns cfg c w incident full →
          SameTrail incident.hypothesisLinks last full) ∧
        ∀ v again, RouteReturns cfg c v last again →
          again.evidence = last.evidence ∧ again.hypotheses = last.hypotheses ∧
            again.hypothesisLinks = last.hypothesisLinks := by
  have hinit : OnTrail cfg c incident (some .triage) incident := OnTrail.init hhypotheses hevidence
  obtain ⟨p, hp, next, hunderway⟩ :=
    afterAttempts_underway hstub hlimit ⟨incident, hstored, _, hinit⟩ attempts
  refine ⟨p, hp, fun last hlast ↦ ?_⟩
  obtain ⟨hdone, -⟩ := route_finishes hstub hlimit hunderway hlast
  constructor
  · intro full hfull
    obtain ⟨hfull, -⟩ := route_finishes hstub hlimit hinit hfull
    exact sameTrail_of_onTrail hdone hfull
  · intro v again hagain
    obtain ⟨-, hadds⟩ := route_finishes hstub hlimit hdone hagain
    have hsame := hadds rfl
    exact ⟨hsame.evidence, hsame.hypotheses, hsame.hypothesisLinks⟩

/-- A run that does not raise returns something. -/
theorem exists_ok {ε α : Type} {x : Except ε α} (h : x.isOk = true) : ∃ a, x = .ok a := by
  cases x with
  | error e => cases h
  | ok a => exact ⟨a, rfl⟩

/-- What two runs of a checkout incident leave, the first cut off between its evidence and the
change correlation, the second in the middle of a decision. -/
def checkoutInterrupted : World :=
  afterAttempts Settings.demo Collectors.demo "inc_1" { rows := [checkoutIncident] }
    [⟨Env.demo, false, 60⟩, ⟨Env.demo, true, 12⟩]

/-- The third run returns what an uninterrupted one does. -/
theorem interrupted_loop_recovers_checkout :
    ∃ p last full, checkoutInterrupted.stored "inc_1" = some p ∧ p.evidence ≠ [] ∧
      RouteReturns Settings.demo Collectors.demo checkoutInterrupted p last ∧
      RouteReturns Settings.demo Collectors.demo { rows := [checkoutIncident] } checkoutIncident
        full ∧
      SameTrail [] last full ∧
      ∀ v again, RouteReturns Settings.demo Collectors.demo v last again →
        again.evidence = last.evidence ∧ again.hypotheses = last.hypotheses ∧
          again.hypothesisLinks = last.hypothesisLinks := by
  obtain ⟨p, hp, hrecovers⟩ := interrupted_loop_recovers Settings.demo rfl (by decide)
    Collectors.demo checkoutIncident rfl rfl { rows := [checkoutIncident] } rfl
    [⟨Env.demo, false, 60⟩, ⟨Env.demo, true, 12⟩]
  have hran : ∀ p ∈ checkoutInterrupted.stored "inc_1", p.evidence ≠ [] ∧
      ((runDecisionLoopRoute Settings.demo false p).run
        (Collectors.demo.serve Env.demo .postgres) checkoutInterrupted).1.isOk = true := by
    decide +kernel
  obtain ⟨hevidence, hlast⟩ := hran p hp
  obtain ⟨last, hlast⟩ := exists_ok hlast
  obtain ⟨full, hfull⟩ := exists_ok (x := ((runDecisionLoopRoute Settings.demo false
    checkoutIncident).run (Collectors.demo.serve Env.demo .postgres)
      { rows := [checkoutIncident] }).1) (by decide +kernel)
  obtain ⟨hsame, hadds⟩ := hrecovers last ⟨Env.demo, false, hlast⟩
  exact ⟨p, last, full, hp, hevidence, ⟨Env.demo, false, hlast⟩, ⟨Env.demo, false, hfull⟩,
    hsame full ⟨Env.demo, false, hfull⟩, hadds⟩

end IncidentPlatform
