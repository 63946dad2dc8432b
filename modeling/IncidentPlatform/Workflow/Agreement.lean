import IncidentPlatform.Interaction.Alike
import IncidentPlatform.Workflow.Stub

/-!
# The two routes agree

The linear route and the decision loop run the same four stages. Without a language model and with
collectors whose answers depend on nothing but the service and the resource, they find the same,
whatever else the outside answers to either: the clock, `uuid4`, the stored record and the audit
log only reach ids, timestamps and versions, and a save of an incident under investigation is
never refused. A collector that raises ends both routes with its exception.

The evidence agent takes its intents from the tool plan of the last decision in the loop, and from
the triage block in the linear route. A tool plan is made from that block and loses the intents no
tool stands for, which no collector reads either (`resolveIntents_agree`).
-/

namespace IncidentPlatform

open Interaction

/-! ## The outside -/

/-- The answers of the telemetry and of the change feed. -/
structure Collectors where
  collect : ActionType → String → String → Except Fault String
  recentDeployments : String → Except Fault String

/-- The world, with these collectors. -/
def Collectors.serve (c : Collectors) (env : Env) (mode : Mode) (w : World) (o : Op) :
    Ans o × World :=
  match o with
  | .collect tool service resource =>
    (c.collect tool service resource, { w with tick := w.tick + 1 })
  | .recentDeployments service => (c.recentDeployments service, { w with tick := w.tick + 1 })
  | o => IncidentPlatform.serve env mode w o

/-! ## What is compared -/

/-- A hypothesis block that cites the evidence with these ids. -/
def Dict.citing (ids : List String) (d : Dict) : Dict :=
  d.map fun kv ↦ if kv.1 = "supporting_evidence_ids" then (kv.1, stringList ids) else kv

/-- The same up to generated ids and timestamps: the entries of the evidence correspond one by one,
and so do the hypotheses, each citing the evidence of its own record. -/
structure SameFindings (r l : IncidentRecord) : Prop where
  responsePlan : r.responsePlan = l.responsePlan
  allowedActions : r.allowedActions = l.allowedActions
  toolsUsed : r.toolsUsed = l.toolsUsed
  evidence : r.evidence.map EvidenceEntry.anonymous = l.evidence.map EvidenceEntry.anonymous
  hypotheses : ∃ blocks : List Dict,
    r.hypotheses = blocks.map (Dict.citing (r.evidence.map EvidenceEntry.evidenceId)) ∧
      l.hypotheses = blocks.map (Dict.citing (l.evidence.map EvidenceEntry.evidenceId))

/-- The fields that are compared are left alone. -/
structure SameWork (r r' : IncidentRecord) : Prop where
  responsePlan : r'.responsePlan = r.responsePlan
  allowedActions : r'.allowedActions = r.allowedActions
  toolsUsed : r'.toolsUsed = r.toolsUsed
  evidence : r'.evidence = r.evidence
  hypotheses : r'.hypotheses = r.hypotheses

namespace SameWork

variable {r r' r'' l l' : IncidentRecord}

theorem trans (h : SameWork r r') (h' : SameWork r' r'') : SameWork r r'' :=
  ⟨h'.responsePlan.trans h.responsePlan, h'.allowedActions.trans h.allowedActions,
    h'.toolsUsed.trans h.toolsUsed, h'.evidence.trans h.evidence, h'.hypotheses.trans h.hypotheses⟩

theorem of_case (h : SameCase r r') : SameWork r r' :=
  ⟨congrArg CaseView.responsePlan h.view, congrArg CaseView.allowedActions h.view,
    congrArg CaseView.toolsUsed h.view, h.evidence, congrArg CaseView.hypotheses h.view⟩

theorem findings (h : SameWork r r') (h' : SameWork l l') (hsame : SameFindings r l) :
    SameFindings r' l' where
  responsePlan := by rw [h.responsePlan, h'.responsePlan, hsame.responsePlan]
  allowedActions := by rw [h.allowedActions, h'.allowedActions, hsame.allowedActions]
  toolsUsed := by rw [h.toolsUsed, h'.toolsUsed, hsame.toolsUsed]
  evidence := by rw [h.evidence, h'.evidence, hsame.evidence]
  hypotheses := by
    rw [h.hypotheses, h'.hypotheses, h.evidence, h'.evidence]
    exact hsame.hypotheses

end SameWork

/-! ## Decisions are counted -/

/-- A decision of the router goes to the audit log. -/
def Op.isDecision : Op → Bool
  | .audit eventType _ => eventType == "router_decision"
  | _ => false

/-- No step decides. -/
theorem step_atMost {α : Type} {p : Handler α} {n : ℕ} (h : p.Issues Op.ofStep) :
    p.AtMost Op.isDecision n := by
  refine Prog.Issues.atMost (Prog.Issues.mono (fun o ho ↦ ?_) h)
  cases o with
  | audit eventType payload =>
    change eventType = "workflow_checkpoint" at ho
    subst ho
    rfl
  | _ => rfl

section

variable {cfg : Settings} (worker : Bool) {r : IncidentRecord}

theorem persistDecision_atMost (r : IncidentRecord) (d : RouterDecision) :
    (persistDecision r d).AtMost Op.isDecision 1 :=
  ⟨Nat.zero_le 1, fun _ ↦ ⟨Nat.zero_le 1, fun _ ↦ ⟨Nat.zero_le 1, fun _ ↦
    ⟨Nat.le_refl 1, fun _ ↦ trivial⟩⟩⟩⟩

theorem decideNext_atMost (cfg : Settings) (r : IncidentRecord) (plan : ResponsePlan) :
    (decideNext cfg r plan).AtMost Op.isDecision 1 := by
  refine Prog.AtMost.bind (m := 0) (n := 1) (step_atMost (assign_issues _)) (Prog.Yields.true _)
    fun _ _ ↦ ?_
  refine Prog.AtMost.bind (m := 0) (n := 1)
    (step_atMost (agent_issues (computeRouterDecision_issues cfg _ plan))) (Prog.Yields.true _)
    fun raw _ ↦ ?_
  refine Prog.AtMost.bind (m := 1) (n := 0) (persistDecision_atMost _ _) (Prog.Yields.true _)
    fun r₁ _ ↦ ?_
  exact step_atMost (issues_bind (agent_issues (appendTrace_issues _ _ _)) fun _ ↦
    issues_bind (assign_issues _) fun _ ↦ trivial)

theorem Stage.run_issues (cfg : Settings) (stage : Stage) (r : IncidentRecord) :
    (stage.run cfg worker r).Issues Op.ofStep := by
  cases stage with
  | triage => exact triageStep_issues cfg worker r
  | evidence => exact evidenceStep_issues cfg worker r
  | change => exact changeStep_issues cfg worker r
  | rca => exact rcaStep_issues cfg worker r

theorem Stage.iteration_atMost (cfg : Settings) (plan : ResponsePlan) (stage : Stage)
    (r : IncidentRecord) : (stage.iteration cfg worker plan r).AtMost Op.isDecision 1 :=
  Prog.AtMost.bind (n := 0) (decideNext_atMost cfg r plan) (Prog.Yields.true _) fun _ _ ↦
    step_atMost (issues_bind (Stage.run_issues worker cfg stage _) fun _ ↦ save_issues _)

/-- The last iteration: the loop stops, or plans and then stops. -/
theorem decisionLoop_concluded (plan : ResponsePlan) (n : ℕ) (h : Concluded r.view) :
    ∃ last : IncidentRecord × RouterDecision → Handler IncidentRecord,
      decisionLoop cfg worker plan (n + 1) r = (decideNext cfg r plan).bind last ∧
        ∀ a, Decides cfg.text plan r a.2 → (∃ reason, last a = appendTrace a.1 "stop" reason) ∨
          last a = plannerStep cfg worker a.1 := by
  refine ⟨_, rfl, fun a hdecides ↦ ?_⟩
  obtain ⟨r₁, decision⟩ := a
  dsimp only at hdecides ⊢
  rcases deterministicStep_concluded cfg.text plan h with ⟨reason, hreason⟩ | ⟨hnext, hreason⟩
  · obtain ⟨hstop, -⟩ := deterministicStep_stops cfg.text plan hreason
    rw [hdecides.nextWorkflow, hstop]
    exact Or.inl ⟨_, rfl⟩
  · rw [hdecides.nextWorkflow, hdecides.stopReason, hnext, hreason]
    right
    change ((plannerStep cfg worker r₁).bind fun r ↦ pure (r, false)).bind _ = _
    rw [Prog.bind_assoc]
    exact Prog.bind_ret _

/-- The loop decides once for every stage and once more. -/
theorem decisionLoop_atMost (hcfg : cfg.agenticEnabled = false) (plan : ResponsePlan) (n : ℕ)
    (h : AtStage .triage r.view) :
    (decisionLoop cfg worker plan (n + 5) r).AtMost Op.isDecision 5 := by
  rw [decisionLoop_eq worker hcfg plan n h]
  refine Prog.AtMost.bind (m := 1) (n := 4) (Stage.iteration_atMost worker cfg plan _ _)
    (Stage.iteration_next worker hcfg plan h) fun r₁ h₁ ↦ ?_
  refine Prog.AtMost.bind (m := 1) (n := 3) (Stage.iteration_atMost worker cfg plan _ _)
    (Stage.iteration_next worker hcfg plan h₁) fun r₂ h₂ ↦ ?_
  refine Prog.AtMost.bind (m := 1) (n := 2) (Stage.iteration_atMost worker cfg plan _ _)
    (Stage.iteration_next worker hcfg plan h₂) fun r₃ h₃ ↦ ?_
  refine Prog.AtMost.bind (m := 1) (n := 1) (Stage.iteration_atMost worker cfg plan _ _)
    (Stage.iteration_next worker hcfg plan h₃) fun r₄ h₄ ↦ ?_
  obtain ⟨last, hloop, hlast⟩ := decisionLoop_concluded worker plan n h₄
  rw [hloop]
  refine Prog.AtMost.bind (m := 1) (n := 0) (decideNext_atMost cfg r₄ plan)
    (decideNext_yields r₄ plan hcfg) fun a ha ↦ ?_
  obtain ⟨-, -, hdecides⟩ := ha
  rcases hlast a hdecides with ⟨reason, hstop⟩ | hplan
  · rw [hstop]
    exact step_atMost (agent_issues (appendTrace_issues _ _ _))
  · rw [hplan]
    exact step_atMost (plannerStep_issues cfg worker _)

end

/-! ## The two sources of intents -/

theorem toolKey_intentTool {intent reason : String} {tool : ActionType}
    (h : intentTool intent = some (tool, reason)) : toolKey tool = some intent := by
  unfold intentTool at h
  split at h <;> cases h <;> rfl

/-- The intents with a tool. -/
def knownIntents : List String := ["metrics", "logs", "recent_changes", "topology"]

/-- The tools made from intents lead back to those of them that are known. -/
theorem mem_intentTools {intents : List String} {key : String} (hkey : key ∈ knownIntents) :
    (∃ tool ∈ intentTools intents, toolKey tool = some key) ↔ key ∈ intents := by
  constructor
  · rintro ⟨tool, htool, htoolKey⟩
    obtain ⟨⟨tool, reason⟩, hmade, rfl⟩ := List.mem_map.mp htool
    obtain ⟨intent, hintent, hmade⟩ := List.mem_filterMap.mp hmade
    cases (toolKey_intentTool hmade).symm.trans htoolKey
    exact hintent
  · intro hintent
    have hknown : ∀ key ∈ knownIntents, (intentTool key).isSome = true := by decide
    obtain ⟨⟨tool, reason⟩, hmade⟩ := Option.isSome_iff_exists.mp (hknown key hkey)
    exact ⟨tool, List.mem_map.mpr ⟨_, List.mem_filterMap.mpr ⟨key, hintent, hmade⟩, rfl⟩,
      toolKey_intentTool hmade⟩

/-- One item of a tool plan, in `_resolve_intents`. -/
def addToolKey (keys : List String) (item : ToolPlanItem) : List String :=
  match toolKey item.tool with
  | some key => if key ∈ keys then keys else keys ++ [key]
  | none => keys

theorem mem_addToolKey {keys : List String} {item : ToolPlanItem} {key : String} :
    key ∈ addToolKey keys item ↔ key ∈ keys ∨ toolKey item.tool = some key := by
  rw [addToolKey]
  cases hkey : toolKey item.tool with
  | none => simp
  | some k =>
    dsimp only
    split_ifs with hmem
    · constructor
      · exact Or.inl
      · rintro (h | h)
        · exact h
        · cases h
          exact hmem
    · simp [eq_comm]

theorem mem_foldl_addToolKey {items : List ToolPlanItem} {key : String} : ∀ {keys : List String},
    key ∈ items.foldl addToolKey keys ↔
      key ∈ keys ∨ ∃ tool ∈ items.map ToolPlanItem.tool, toolKey tool = some key := by
  induction items with
  | nil => simp
  | cons item items ih =>
    intro keys
    rw [List.foldl_cons, ih, mem_addToolKey, List.map_cons, or_assoc]
    simp

/-- The keys of the tool plan where there are any, else the intents of the triage block. -/
theorem resolveIntents_planned (cfg : Settings) {r : IncidentRecord} {d : RouterDecision}
    {p : ToolPlan} (hd : r.latestRouterDecision = some d) (hp : d.toolPlan = some p) :
    resolveIntents cfg r = if p.items.foldl addToolKey [] = [] then
      triageIntents cfg.text r.hypotheses else p.items.foldl addToolKey [] := by
  rw [resolveIntents, hd, Option.bind_some, hp, Option.map_some]
  split
  · rename_i key keys hkeys
    have hcons : p.items.foldl addToolKey [] = key :: keys := Option.some.inj hkeys
    rw [hcons, if_neg (List.cons_ne_nil key keys)]
  · rename_i hother
    have hnil : p.items.foldl addToolKey [] = [] := by
      rcases hkeys : p.items.foldl addToolKey [] with _ | ⟨key, keys⟩
      · rfl
      · exact (hother key keys (congrArg some hkeys)).elim
    rw [hnil, if_pos rfl]
    rfl

theorem resolveIntents_unplanned (cfg : Settings) {r : IncidentRecord}
    (hr : r.latestRouterDecision = none) :
    resolveIntents cfg r = triageIntents cfg.text r.hypotheses := by
  rw [resolveIntents, hr]
  rfl

/-- The loop wants the collectors the triage block asks for. -/
theorem mem_resolveIntents {cfg : Settings} {plan : ResponsePlan} {b r : IncidentRecord}
    {d : RouterDecision} (hdecides : Decides cfg.text plan b d) (hb : b.hypotheses = r.hypotheses)
    (hr : r.latestRouterDecision = some d) {key : String} (hkey : key ∈ knownIntents) :
    key ∈ resolveIntents cfg r ↔ key ∈ triageIntents cfg.text r.hypotheses := by
  obtain ⟨p, hp, htools⟩ := hdecides.toolPlan
  have hplanned : key ∈ p.items.foldl addToolKey [] ↔
      key ∈ triageIntents cfg.text r.hypotheses := by
    rw [mem_foldl_addToolKey, htools, mem_intentTools hkey, hb]
    simp
  rw [resolveIntents_planned cfg hr hp]
  split_ifs
  · rfl
  · exact hplanned

/-- The loop and the linear route want the same collectors. -/
theorem resolveIntents_agree {cfg : Settings} {plan : ResponsePlan} {r l : IncidentRecord}
    {d : RouterDecision} {b : IncidentRecord} (hdecides : Decides cfg.text plan b d)
    (hb : b.hypotheses = r.hypotheses) (hr : r.latestRouterDecision = some d)
    (hl : l.latestRouterDecision = none) (hsame : r.hypotheses = l.hypotheses) {key : String}
    (hkey : key ∈ knownIntents) :
    key ∈ resolveIntents cfg r ↔ key ∈ resolveIntents cfg l := by
  rw [mem_resolveIntents hdecides hb hr hkey, resolveIntents_unplanned cfg hl, hsame]

/-! ## Stage by stage -/

/-- The part of the linear route that runs a stage. -/
def Stage.linear (cfg : Settings) (worker : Bool) :
    Stage → IncidentRecord → Handler IncidentRecord
  | triage, incident => triageStep cfg worker incident
  | evidence, incident => do
    let (incident, entries) ← gatherEvidence cfg incident
    writeCheckpoint worker (incident.withEvidence entries) "evidence"
  | change, incident => changeStep cfg worker incident
  | rca, incident => do
    let hypotheses ← analyzeRootCause cfg incident
    writeCheckpoint worker
      (incident.withHypotheses (hypotheses.map RCAHypothesisItem.modelDump)) "rca"

theorem runLinearRoute_eq (cfg : Settings) (worker : Bool) (r : IncidentRecord) :
    runLinearRoute cfg worker r =
      (writeCheckpoint worker (matchPlan cfg r) "match").bind fun r₁ ↦
      (Stage.triage.linear cfg worker r₁).bind fun r₂ ↦
      (Stage.evidence.linear cfg worker r₂).bind fun r₃ ↦
      (Stage.change.linear cfg worker r₃).bind fun r₄ ↦
      (Stage.rca.linear cfg worker r₄).bind fun r₅ ↦ save r₅.routed := by
  unfold runLinearRoute Stage.linear
  simp only [Prog.bind_eq, Prog.bind_assoc]

section

variable {c : Collectors} {env env' : Env} {mode mode' : Mode} {cfg : Settings}
  {worker worker' : Bool} {w w' : World} {r l : IncidentRecord}

/-- Two runs with the same collectors. -/
abbrev SideBySide (c : Collectors) (env env' : Env) (mode mode' : Mode) {α β : Type}
    (p : Handler α) (w : World) (q : Handler β) (w' : World)
    (R : α → World → β → World → Prop) : Prop :=
  Prog.Alike (c.serve env mode) (c.serve env' mode') p w q w' R

theorem orRaise_alike {α : Type} (x : Except Fault α) :
    SideBySide c env env' mode mode' (orRaise x) w (orRaise x) w' fun a _ b _ ↦ a = b := by
  cases x with
  | error f => exact Prog.Match.error _ _ _
  | ok a => exact Prog.Match.ok rfl

/-- Each route announces its own record. -/
theorem assign_alike {α β : Type} {R : α → β → Prop} {a : α} {b : β} (h : R a b) :
    SideBySide c env env' mode mode' (do assign r; pure a) w (do assign l; pure b) w'
      fun a _ b _ ↦ R a b :=
  Prog.Match.ok h

theorem toolOp_alike (tool : ActionType) (service resource : String) :
    SideBySide c env env' mode mode' (toolOp tool service resource) w
      (toolOp tool service resource) w' fun a _ b _ ↦ a = b := by
  cases tool <;> exact Prog.Alike.call rfl rfl fun _ _ ↦ orRaise_alike _

/-- The same collected, with the same tools, into either record. -/
def Collected (r l : IncidentRecord) (a b : IncidentRecord × RawEvidence) : Prop :=
  ∃ tools raw, a = (r.withTools tools, raw) ∧ b = (l.withTools tools, raw)

theorem collectKey_alike (wanted : Bool) (key : String) (tool : ActionType)
    {a b : IncidentRecord × RawEvidence} (hmetadata : r.metadata = l.metadata)
    (h : Collected r l a b) :
    SideBySide c env env' mode mode' (collectKey wanted key tool a) w
      (collectKey wanted key tool b) w' fun a _ b _ ↦ Collected r l a b := by
  obtain ⟨tools, raw, rfl, rfl⟩ := h
  cases wanted with
  | false => exact Prog.Match.ok ⟨tools, raw, rfl, rfl⟩
  | true =>
    obtain ⟨tools', htools⟩ := recordTool_withTools tools tool
    unfold collectKey
    simp only [if_true, withTools_metadata, hmetadata, htools]
    refine Prog.Alike.bind (toolOp_alike _ _ _) ?_
    rintro text s _ t rfl
    exact assign_alike ⟨tools', _, rfl, rfl⟩

theorem collectRaw_alike {intents intents' : List String} (hmetadata : r.metadata = l.metadata)
    (htools : r.toolsUsed = l.toolsUsed)
    (hintents : ∀ key ∈ knownIntents, (key ∈ intents ↔ key ∈ intents')) :
    SideBySide c env env' mode mode' (collectRaw r intents) w (collectRaw l intents') w'
      fun a _ b _ ↦ Collected r l a b := by
  have hstart : Collected r l (r, []) (l, []) :=
    ⟨r.toolsUsed, [], rfl, by rw [htools]; rfl⟩
  have hwanted (key : String) (hkey : key ∈ knownIntents) :
      decide (key ∈ intents) = decide (key ∈ intents') := decide_eq_decide.mpr (hintents key hkey)
  rw [collectRaw, hwanted "metrics" (by decide), hwanted "logs" (by decide),
    hwanted "recent_changes" (by decide), hwanted "topology" (by decide)]
  refine Prog.Alike.bind (collectKey_alike _ _ _ hmetadata hstart) fun a₁ _ b₁ _ h₁ ↦ ?_
  refine Prog.Alike.bind (collectKey_alike _ _ _ hmetadata h₁) fun a₂ _ b₂ _ h₂ ↦ ?_
  refine Prog.Alike.bind (collectKey_alike _ _ _ hmetadata h₂) fun a₃ _ b₃ _ h₃ ↦ ?_
  refine Prog.Alike.bind (collectKey_alike _ _ _ hmetadata h₃) fun a₄ _ b₄ _ h₄ ↦ ?_
  obtain ⟨tools, raw, rfl, rfl⟩ := h₄
  dsimp only
  split_ifs
  · obtain ⟨tools₁, hmetrics⟩ := recordTool_withTools tools .queryMetrics
    obtain ⟨tools₂, hlogs⟩ := recordTool_withTools tools₁ .queryLogs
    simp only [withTools_metadata, hmetadata, hmetrics, hlogs]
    refine Prog.Alike.bind (toolOp_alike _ _ _) ?_
    rintro metrics _ _ _ rfl
    refine Prog.Alike.bind (toolOp_alike _ _ _) ?_
    rintro logs _ _ _ rfl
    exact assign_alike ⟨tools₂, _, rfl, rfl⟩
  · exact Prog.Match.ok ⟨tools, raw, rfl, rfl⟩

theorem gatherEvidence_alike (hcfg : cfg.agenticEnabled = false)
    (hmetadata : r.metadata = l.metadata)
    (htools : r.toolsUsed = l.toolsUsed)
    (hintents : ∀ key ∈ knownIntents, (key ∈ resolveIntents cfg r ↔ key ∈ resolveIntents cfg l)) :
    SideBySide c env env' mode mode' (gatherEvidence cfg r) w (gatherEvidence cfg l) w'
      fun a _ b _ ↦ (∃ tools, a.1 = r.withTools tools ∧ b.1 = l.withTools tools) ∧
        a.2.map EvidenceEntry.anonymous = b.2.map EvidenceEntry.anonymous := by
  refine Prog.Alike.bind (collectRaw_alike hmetadata htools hintents) ?_
  rintro a s b t ⟨tools, raw, rfl, rfl⟩
  dsimp only
  rw [evidenceEntries_stub hcfg, evidenceEntries_stub hcfg]
  refine Prog.Alike.bind (Prog.Alike.of_total (fromRawDict_total raw) (fromRawDict_total raw)
    (fromRawDict_yields raw) (fromRawDict_yields raw)) ?_
  rintro entries _ entries' _ ⟨hentries, hentries'⟩
  exact Prog.Alike.ret ⟨⟨tools, rfl, rfl⟩, hentries.trans hentries'.symm⟩

theorem writeCheckpoint_alike (step : String) (hr : r.state = .investigating)
    (hl : l.state = .investigating) :
    SideBySide c env env' mode mode' (writeCheckpoint worker r step) w
      (writeCheckpoint worker' l step) w' fun r' _ l' _ ↦ Kept r r' ∧ Kept l l' :=
  Prog.Alike.of_total (writeCheckpoint_total worker step hr) (writeCheckpoint_total worker' step hl)
    (writeCheckpoint_yields _ _ _) (writeCheckpoint_yields _ _ _)

/-- The stub triage looks at the metadata. -/
theorem triageStub_congr (h : r.metadata = l.metadata) : triageStub cfg r = triageStub cfg l := by
  unfold triageStub
  rw [h]

theorem triage_alike (hcfg : cfg.agenticEnabled = false) (hview : r.view = l.view)
    (hstate : r.view.state = .investigating) :
    SideBySide c env env' mode mode' (triageStep cfg worker r) w (triageStep cfg worker' l) w'
      fun r' _ l' _ ↦
        r'.view = l'.view ∧ l'.latestRouterDecision = l.latestRouterDecision := by
  have hmetadata : r.metadata = l.metadata := congrArg CaseView.metadata hview
  have hstate' : l.state = .investigating := (congrArg CaseView.state hview).symm.trans hstate
  rw [triageStep_stub worker hcfg, triageStep_stub worker' hcfg, triageStub_congr hmetadata]
  refine Prog.Alike.mono (writeCheckpoint_alike "triage" hstate hstate') ?_
  rintro r' _ l' _ ⟨hr, hl⟩
  refine ⟨?_, hl.latestRouterDecision⟩
  rw [hr.view, hl.view, view_withHypotheses, view_withHypotheses, hview]

/-- Where the routes want the same, they find the same. -/
theorem evidence_alike (hcfg : cfg.agenticEnabled = false) (hview : r.view = l.view)
    (hstate : r.view.state = .investigating)
    (hintents : ∀ key ∈ knownIntents, (key ∈ resolveIntents cfg r ↔ key ∈ resolveIntents cfg l)) :
    SideBySide c env env' mode mode' (evidenceStep cfg worker r) w
      (Stage.evidence.linear cfg worker' l) w' fun r' _ l' _ ↦ r'.view = l'.view := by
  have hmetadata : r.metadata = l.metadata := congrArg CaseView.metadata hview
  have htools : r.toolsUsed = l.toolsUsed := congrArg CaseView.toolsUsed hview
  have hstate' : l.state = .investigating := (congrArg CaseView.state hview).symm.trans hstate
  refine Prog.Alike.bind (gatherEvidence_alike hcfg hmetadata htools hintents) ?_
  rintro ⟨r₁, entries⟩ _ ⟨l₁, entries'⟩ _ ⟨⟨tools, hr₁, hl₁⟩, hentries⟩
  dsimp only at hr₁ hl₁ hentries
  subst hr₁ hl₁
  refine Prog.Alike.mono (writeCheckpoint_alike "evidence" hstate hstate') ?_
  rintro r' _ l' _ ⟨hr, hl⟩
  have hwith : (r.withTools tools).view = (l.withTools tools).view :=
    congrArg (fun v : CaseView ↦ { v with toolsUsed := tools }) hview
  rw [hr.view, hl.view, view_withCoverage, view_withEvidence, view_withEvidence, hentries, hwith]

theorem correlateChanges_alike (hcfg : cfg.agenticEnabled = false)
    (hmetadata : r.metadata = l.metadata) :
    SideBySide c env env' mode mode' (correlateChanges cfg r) w (correlateChanges cfg l) w'
      fun e _ e' _ ↦ e.anonymous = e'.anonymous := by
  rw [correlateChanges_stub hcfg, correlateChanges_stub hcfg, hmetadata]
  refine Prog.Alike.bind (toolOp_alike _ _ _) ?_
  rintro raw _ _ _ rfl
  refine Prog.Alike.mono (Prog.Alike.of_total (newEvidence_total _ _ _ _)
    (newEvidence_total _ _ _ _) (newEvidence_yields _ _ _ _) (newEvidence_yields _ _ _ _)) ?_
  rintro e _ e' _ ⟨he, he'⟩
  exact he.trans he'.symm

theorem change_alike (hcfg : cfg.agenticEnabled = false) (hview : r.view = l.view)
    (hstate : r.view.state = .investigating) :
    SideBySide c env env' mode mode' (changeStep cfg worker r) w (changeStep cfg worker' l) w'
      fun r' _ l' _ ↦ r'.view = l'.view := by
  have hmetadata : r.metadata = l.metadata := congrArg CaseView.metadata hview
  have hstate' : l.state = .investigating := (congrArg CaseView.state hview).symm.trans hstate
  refine Prog.Alike.bind (correlateChanges_alike hcfg hmetadata) fun e _ e' _ he ↦ ?_
  refine Prog.Alike.mono (writeCheckpoint_alike "change" hstate hstate') ?_
  rintro r' _ l' _ ⟨hr, hl⟩
  rw [hr.view, hl.view, view_withEvidence, view_withEvidence, hview, List.map_singleton,
    List.map_singleton, he]

/-! ## The root cause -/

/-- A hypothesis that cites the evidence with these ids. -/
def RCAHypothesisItem.citing (ids : List String) (h : RCAHypothesisItem) : RCAHypothesisItem :=
  { h with supportingEvidenceIds := ids }

theorem modelDump_citing (ids : List String) (h : RCAHypothesisItem) :
    Dict.citing ids h.modelDump = (h.citing ids).modelDump := by
  simp [Dict.citing, RCAHypothesisItem.modelDump, RCAHypothesisItem.citing]

/-- The stub analysis reads the service and the summaries, and cites all the evidence. -/
theorem rcaStub_items (hmetadata : r.metadata = l.metadata)
    (hevidence : r.view.evidence = l.view.evidence) :
    (rcaStub cfg r).map (RCAHypothesisItem.citing (l.evidence.map EvidenceEntry.evidenceId))
      = rcaStub cfg l := by
  have hany (p : String → Bool) :
      r.evidence.any (fun ev ↦ p ev.summary) = l.evidence.any fun ev ↦ p ev.summary := by
    have hview (r : IncidentRecord) : r.view.evidence.any (fun ev ↦ p ev.summary)
        = r.evidence.any fun ev ↦ p ev.summary := List.any_map
    rw [← hview r, ← hview l, hevidence]
  have hdeployment := hany fun s ↦ isIn "checkout-r43" s || isIn "deployment" (cfg.text.lower s)
  have hcpu := hany fun s ↦ isIn "cpu" (cfg.text.lower s)
  unfold rcaStub
  dsimp only
  rw [hmetadata, hdeployment, hcpu]
  split_ifs <;> first | rfl | contradiction

theorem rcaStub_citing (hmetadata : r.metadata = l.metadata)
    (hevidence : r.view.evidence = l.view.evidence) :
    ((rcaStub cfg r).map RCAHypothesisItem.modelDump).map
        (Dict.citing (l.evidence.map EvidenceEntry.evidenceId)) =
      (rcaStub cfg l).map RCAHypothesisItem.modelDump := by
  rw [← rcaStub_items hmetadata hevidence, List.map_map, List.map_map]
  exact List.map_congr_left fun h _ ↦ modelDump_citing _ h

/-- The triage block cites nothing. -/
theorem CaseView.Triaged.citing (h : r.view.Triaged) (ids : List String) :
    r.hypotheses.map (Dict.citing ids) = r.hypotheses := by
  obtain ⟨triage, h⟩ := h
  have hblock : r.hypotheses = [[("triage", .dict triage)]] := h
  rw [hblock]
  simp [Dict.citing]

theorem rca_alike (hcfg : cfg.agenticEnabled = false) (hview : r.view = l.view)
    (hstate : r.view.state = .investigating) (htriaged : r.view.Triaged) :
    SideBySide c env env' mode mode' (rcaStep cfg worker r) w (Stage.rca.linear cfg worker' l) w'
      fun r' _ l' _ ↦ SameFindings r' l' ∧ l'.state = .investigating := by
  have hmetadata : r.metadata = l.metadata := congrArg CaseView.metadata hview
  have hevidence : r.view.evidence = l.view.evidence := congrArg CaseView.evidence hview
  have hhypotheses : r.hypotheses = l.hypotheses := congrArg CaseView.hypotheses hview
  have hstate' : l.state = .investigating := (congrArg CaseView.state hview).symm.trans hstate
  have hlinear : Stage.rca.linear cfg worker' l = writeCheckpoint worker'
      (l.withHypotheses ((rcaStub cfg l).map RCAHypothesisItem.modelDump)) "rca" := by
    rw [Stage.linear, analyzeRootCause, hcfg]
    rfl
  rw [rcaStep_stub worker hcfg, hlinear]
  refine Prog.Alike.mono (writeCheckpoint_alike "rca" hstate hstate') ?_
  rintro r' _ l' _ ⟨hr, hl⟩
  refine ⟨SameWork.findings (.of_case hr.toSameCase) (.of_case hl.toSameCase) ?_,
    (congrArg CaseView.state hl.view).trans hstate'⟩
  refine ⟨congrArg CaseView.responsePlan hview, congrArg CaseView.allowedActions hview,
    congrArg CaseView.toolsUsed hview, hevidence,
    r.hypotheses ++ (rcaStub cfg r).map RCAHypothesisItem.modelDump, ?_, ?_⟩
  · rw [List.map_append, htriaged.citing]
    exact congrArg (r.hypotheses ++ ·) (rcaStub_citing rfl rfl).symm
  · rw [List.map_append, htriaged.citing, hhypotheses]
    exact congrArg (l.hypotheses ++ ·) (rcaStub_citing hmetadata hevidence).symm

/-! ## Saving over what the route stored itself -/

/-- Whatever is stored of the incident is in this state. -/
def StoredIn (w : World) (incidentId : String) (state : IncidentState) : Prop :=
  ∀ p ∈ w.stored incidentId, p.state = state

/-- The operation shows the incident in this state, if at all. -/
def Op.Shows (incidentId : String) (state : IncidentState) : Op → Prop
  | .touch r | .write r => r.incidentId = incidentId → r.state = state
  | _ => True

variable {incidentId : String} {state : IncidentState}

theorem StoredIn.put (h : StoredIn w incidentId state)
    (hr : r.incidentId = incidentId → r.state = state) {v : World}
    (hv : v.rows = put IncidentRecord.incidentId w.rows r) : StoredIn v incidentId state := by
  intro p hp
  rw [World.stored, hv, lookup_put] at hp
  split_ifs at hp with hid
  · cases hp
    exact hr hid
  · exact h p hp

theorem serve_storedIn {o : Op} (ho : o.Shows incidentId state) (h : StoredIn w incidentId state) :
    StoredIn (c.serve env mode w o).2 incidentId state := by
  cases o with
  | write r => exact h.put ho rfl
  | touch r =>
    change StoredIn (World.touched _ mode r) incidentId state
    unfold World.touched
    cases mode with
    | postgres => exact h
    | fallback =>
      dsimp only
      split_ifs
      · exact h.put ho rfl
      · exact h
  | _ => exact h

/-- What is stored once the record has been announced. -/
theorem World.stored_touched {p : IncidentRecord}
    (hp : (w.touched mode r).stored r.incidentId = some p) :
    w.stored r.incidentId = some p ∨ p = r := by
  unfold World.touched at hp
  cases mode with
  | postgres => exact Or.inl hp
  | fallback =>
    dsimp only at hp
    split_ifs at hp
    · rw [World.stored, lookup_put, if_pos rfl] at hp
      cases hp
      exact Or.inr rfl
    · exact Or.inl hp

variable (c env mode)

/-- What cannot raise, and shows the incident in its state only. -/
theorem returns_of_total {α : Type} {p : Handler α} {P : α → Prop} (htotal : p.Total)
    (hp : p.Yields P) (hshows : p.Issues (Op.Shows incidentId state))
    (hstored : StoredIn w incidentId state) : ∃ a v,
      p.run (c.serve env mode) w = (.ok a, v) ∧ P a ∧ StoredIn v incidentId state := by
  obtain ⟨a, v, hrun⟩ := htotal.run (c.serve env mode) w
  have hserve (v : World) (o : Op) (ho : o.Shows incidentId state)
      (hv : StoredIn v incidentId state) :
      StoredIn (c.serve env mode v o).2 incidentId state := serve_storedIn ho hv
  have hv := Prog.Issues.run (I := (StoredIn · incidentId state)) hserve hshows w hstored
  rw [hrun] at hv
  exact ⟨a, v, hrun, hp.run hrun, hv⟩

theorem agent_shows {α : Type} {p : Handler α} (h : p.Issues Op.ofAgent) :
    p.Issues (Op.Shows incidentId state) :=
  Prog.Issues.mono (fun o ho ↦ by cases o <;> trivial) h

/-- A save along an edge from the state that is stored. -/
theorem save_returns
    (hallowed : ∀ p ∈ w.stored r.incidentId, transitionAllowed p.state r.state = true) :
    ∃ r' v, (save r).run (c.serve env mode) w = (.ok r', v) ∧ Kept r r' ∧
      v.stored r.incidentId = some r' := by
  let w₁ : World := ({ w with tick := w.tick + 1 } : World).touched mode r
  have hvalid : validateStateTransition (w₁.stored r.incidentId) r = .ret () := by
    cases hp : w₁.stored r.incidentId with
    | none => rfl
    | some p =>
      refine validateStateTransition_allowed ?_
      -- In fallback mode the previous record may be the handler's own.
      rcases World.stored_touched hp with hp | rfl
      · exact hallowed p hp
      · exact transitionAllowed_self _
  let w₂ : World := { w₁ with tick := w₁.tick + 1 }
  have hrun : (save r).run (c.serve env mode) w =
      ((validateStateTransition (w₁.stored r.incidentId) r).bind fun _ ↦ do
        let updatedAt ← perform .utcnow
        let r := stamp (w₁.stored r.incidentId) updatedAt r
        perform (.write r)
        pure r).run (c.serve env mode) w₂ := rfl
  rw [hvalid] at hrun
  refine ⟨stamp (w₁.stored r.incidentId) (env.now w₂.tick) r, _, hrun, ⟨⟨rfl, rfl, rfl⟩, rfl⟩, ?_⟩
  exact (World.stored_written _ _ _).trans (if_pos rfl)

theorem assign_shows (hr : r.incidentId = incidentId → r.state = state) :
    (assign r).Issues (Op.Shows incidentId state) := issues_perform hr

theorem decideNext_shows (cfg : Settings) (r : IncidentRecord) (plan : ResponsePlan) :
    (decideNext cfg r plan).Issues (Op.Shows r.incidentId r.state) := by
  refine issues_bind (assign_shows fun _ ↦ rfl) fun _ ↦ ?_
  refine issues_bind (agent_shows (computeRouterDecision_issues cfg _ plan)) fun raw ↦ ?_
  refine Prog.Issues.bind_yields ?_ (persistDecision_yields _ _) ?_
  · exact issues_bind (issues_perform trivial) fun _ ↦ issues_bind (issues_perform trivial) fun _ ↦
      issues_bind (assign_shows fun _ ↦ rfl) fun _ ↦ issues_bind (issues_perform trivial) fun _ ↦
        trivial
  rintro r₁ ⟨record, rfl⟩
  refine Prog.Issues.bind_yields (agent_shows (appendTrace_issues _ _ _))
    (appendTrace_yields _ _ _) ?_
  rintro r₂ ⟨entry, rfl⟩
  exact issues_bind (assign_shows fun _ ↦ rfl) fun _ ↦ trivial

/-- A checkpoint along an edge from the state that is stored. -/
theorem writeCheckpoint_returns (worker : Bool) (step : String)
    (hstored : StoredIn w r.incidentId state)
    (hallowed : transitionAllowed state r.state = true) :
    ∃ r' v, (writeCheckpoint worker r step).run (c.serve env mode) w = (.ok r', v) ∧ Kept r r' ∧
      v.stored r.incidentId = some r' := by
  have hstep := withStep_kept r step
  have hid : (r.withStep step).incidentId = r.incidentId := congrArg CaseView.incidentId hstep.view
  have hstate : (r.withStep step).state = r.state := congrArg CaseView.state hstep.view
  have hedge : ∀ p ∈ w.stored (r.withStep step).incidentId,
      transitionAllowed p.state (r.withStep step).state = true := by
    intro p hp
    rw [hid] at hp
    rw [hstate, hstored p hp]
    exact hallowed
  obtain ⟨r', v, hrun, hkept, hsaved⟩ := save_returns c env mode hedge
  rw [hid] at hsaved
  refine ⟨r', _, Prog.run_bind_ok hrun _, ⟨hstep.toSameCase.trans hkept.toSameCase,
    hkept.latestRouterDecision.trans hstep.latestRouterDecision⟩, hsaved⟩

theorem stubGraph_yields_confidence (cfg : Settings) (r : IncidentRecord) :
    (stubGraph cfg r).Yields fun a ↦ a.1 = r.withConfidence (92 / 100) :=
  Prog.Yields.rest fun _ ↦
    Prog.Yields.rest fun _ ↦ rfl

/-- The planner finds the investigation stored and leaves the incident waiting. -/
theorem plannerStep_returns (worker : Bool) (hcfg : cfg.agenticEnabled = false)
    (hstored : StoredIn w r.incidentId .investigating) :
    ∃ r' v, (plannerStep cfg worker r).run (c.serve env mode) w = (.ok r', v) ∧ SameWork r r' ∧
      StoredIn v r'.incidentId r'.state := by
  have hplan : planRemediation cfg r = stubGraph cfg r := by
    rw [planRemediation, hcfg]
    rfl
  obtain ⟨⟨r₁, graph⟩, v₁, hrun₁, hr₁, hstored₁⟩ := returns_of_total c env mode
    (stubGraph_total cfg r) (stubGraph_yields_confidence cfg r)
    (agent_shows (stubGraph_issues cfg r)) hstored
  dsimp only at hr₁
  subst hr₁
  obtain ⟨r₂, v₂, hrun₂, hkept, hsaved⟩ := writeCheckpoint_returns c env mode worker
    (r := withPlannedGraph (r.withConfidence (92 / 100)) graph) "planned" hstored₁ rfl
  have hstored₂ : StoredIn v₂ r.incidentId .waitingApproval := by
    intro p hp
    cases hsaved.symm.trans hp
    exact congrArg CaseView.state hkept.view
  obtain ⟨r₃, v₃, hrun₃, ⟨entry, hr₃⟩, hstored₃⟩ := returns_of_total c env mode
    (appendTrace_total r₂ "plan" "remediation graph created")
    (appendTrace_yields _ _ _) (agent_shows (appendTrace_issues _ _ _)) hstored₂
  have hid : r₃.incidentId = r.incidentId := by
    rw [hr₃]
    exact congrArg CaseView.incidentId hkept.view
  have hstate : r₃.state = .waitingApproval := by
    rw [hr₃]
    exact congrArg CaseView.state hkept.view
  refine ⟨r₃, v₃, ?_, ?_, hid ▸ hstate ▸ hstored₃⟩
  · rw [plannerStep, hplan, Prog.bind_eq, Prog.run_bind_ok hrun₁]
    dsimp only
    rw [Prog.bind_eq, Prog.run_bind_ok hrun₂]
    exact hrun₃
  · have hplanned : SameWork r (withPlannedGraph (r.withConfidence (92 / 100)) graph) :=
      ⟨rfl, rfl, rfl, rfl, rfl⟩
    refine (hplanned.trans (SameWork.of_case hkept.toSameCase)).trans ?_
    rw [hr₃]
    exact ⟨rfl, rfl, rfl, rfl, rfl⟩

/-- The last iteration returns, and finds nothing more. -/
theorem decisionLoop_last (worker : Bool) (hcfg : cfg.agenticEnabled = false)
    (plan : ResponsePlan) (n : ℕ) (h : Concluded r.view)
    (hstored : StoredIn w r.incidentId .investigating) :
    ∃ r' v, (decisionLoop cfg worker plan (n + 1) r).run (c.serve env mode) w = (.ok r', v) ∧
      SameWork r r' ∧ StoredIn v r'.incidentId r'.state := by
  have hstate : r.state = .investigating := h.state
  obtain ⟨last, hloop, hlast⟩ := decisionLoop_concluded worker plan n h
  obtain ⟨a, v₁, hrun₁, ⟨hcase, -, hdecides⟩, hstored₁⟩ := returns_of_total c env mode
    (decideNext_total r plan hcfg) (decideNext_yields r plan hcfg)
    (hstate ▸ decideNext_shows cfg r plan) hstored
  have hid : a.1.incidentId = r.incidentId := congrArg CaseView.incidentId hcase.view
  have hstate₁ : a.1.state = .investigating := (congrArg CaseView.state hcase.view).trans hstate
  rw [← hid] at hstored₁
  rw [hloop, Prog.run_bind_ok hrun₁]
  -- It stops, or it plans and stops.
  rcases hlast a hdecides with ⟨reason, hstop⟩ | hplan
  · obtain ⟨r', v, hrun, ⟨entry, rfl⟩, hv⟩ := returns_of_total c env mode
      (appendTrace_total a.1 "stop" reason) (appendTrace_yields _ _ _)
      (agent_shows (appendTrace_issues _ _ _)) hstored₁
    rw [hstop]
    have htraced : SameWork a.1 (a.1.withTrace entry) := ⟨rfl, rfl, rfl, rfl, rfl⟩
    exact ⟨_, v, hrun, (SameWork.of_case hcase).trans htraced, hstate₁ ▸ hv⟩
  · obtain ⟨r', v, hrun, hwork, hv⟩ := plannerStep_returns c env mode worker hcfg hstored₁
    rw [hplan]
    exact ⟨r', v, hrun, (SameWork.of_case hcase).trans hwork, hv⟩

end

/-! ## The two routes -/

section

variable {c : Collectors} {env env' : Env} {mode mode' : Mode} {cfg : Settings}
  {worker worker' : Bool} {w w' : World} {r l : IncidentRecord}

theorem Stage.next_state {stage : Stage} {v : CaseView} (h : stage.Next v) :
    v.state = .investigating := by
  cases stage with
  | rca => exact Concluded.state h
  | _ => exact AtStage.state h

/-- An iteration of the loop does what the linear route does at its stage, and leaves the incident
stored under investigation. -/
theorem Stage.iteration_alike (hcfg : cfg.agenticEnabled = false) (plan : ResponsePlan)
    {stage : Stage} {R : IncidentRecord → IncidentRecord → Prop} (h : AtStage stage r.view)
    (hR : ∀ a a' b, SameCase a a' → R a b → R a' b)
    (hrun : ∀ r₁ d v, SameCase r r₁ → r₁.latestRouterDecision = some d →
      Decides cfg.text plan r d → SideBySide c env env' mode mode' (stage.run cfg worker r₁) v
        (stage.linear cfg worker' l) w' fun a _ b _ ↦ R a b) :
    SideBySide c env env' mode mode' (stage.iteration cfg worker plan r) w
      (stage.linear cfg worker' l) w' fun a v b _ ↦
        (R a b ∧ StoredIn v a.incidentId .investigating) ∧ stage.Next a.view := by
  -- The decision has no counterpart in the linear route, nor has the save that ends the iteration.
  refine Prog.Alike.yielding ?_ (Stage.iteration_next worker hcfg plan h)
  refine Prog.Alike.left_total (decideNext_total r plan hcfg) (decideNext_yields r plan hcfg) ?_
  rintro ⟨r₁, d⟩ v ⟨hcase, hd, hdecides⟩
  have hnext := Stage.run_next worker hcfg (hcase.view.symm ▸ h)
  refine Prog.Alike.then_left ((hrun r₁ d v hcase hd hdecides).yielding hnext) ?_
  rintro a v b _ ⟨hab, hnext⟩
  have hstate : a.state = .investigating := Stage.next_state hnext
  obtain ⟨a', v', hsave, hkept, hsaved⟩ := save_returns c env mode (w := v)
    fun p _ ↦ hstate ▸ transitionAllowed_investigating p.state
  have hid : a'.incidentId = a.incidentId := congrArg CaseView.incidentId hkept.view
  rw [Prog.Alike, hsave]
  refine Prog.Match.ok ⟨hR a a' b hkept.toSameCase hab, fun p hp ↦ ?_⟩
  rw [hid] at hp
  cases hsaved.symm.trans hp
  exact (congrArg CaseView.state hkept.view).trans hstate

/-- The last decision, and the last save of either route. -/
theorem last_alike (hcfg : cfg.agenticEnabled = false) (plan : ResponsePlan) (n : ℕ)
    (h : Concluded r.view) (hstored : StoredIn w r.incidentId .investigating)
    (hl : l.state = .investigating) (hsame : SameFindings r l) :
    SideBySide c env env' mode mode'
      ((decisionLoop cfg worker plan (n + 1) r).bind fun r ↦ save r.routed) w
      (save l.routed) w' fun r' _ l' _ ↦ SameFindings r' l' := by
  obtain ⟨r₁, v₁, hrun₁, hwork, hstored₁⟩ :=
    decisionLoop_last c env mode worker hcfg plan n h hstored
  obtain ⟨r', v', hrun', hkept, -⟩ := save_returns c env mode (w := v₁) (r := r₁.routed)
    fun p hp ↦ hstored₁ p hp ▸ transitionAllowed_self _
  obtain ⟨l', t', hrunl⟩ := (save_total (r := l.routed) hl).run (c.serve env' mode') w'
  have hkeptl := (save_yields l.routed).run hrunl
  rw [SideBySide, Prog.Alike, Prog.run_bind_ok hrun₁, hrun', hrunl]
  refine Prog.Match.ok (SameWork.findings ?_ ?_ hsame)
  · have hrouted : SameWork r₁ r₁.routed := ⟨rfl, rfl, rfl, rfl, rfl⟩
    exact (hwork.trans hrouted).trans (SameWork.of_case hkept.toSameCase)
  · have hrouted : SameWork l l.routed := ⟨rfl, rfl, rfl, rfl, rfl⟩
    exact hrouted.trans (SameWork.of_case hkeptl.toSameCase)

/-- The five decisions of the loop against the four stages of the linear route. -/
theorem stages_alike (hcfg : cfg.agenticEnabled = false) (plan : ResponsePlan) (n : ℕ)
    (h : AtStage .triage r.view) (hview : r.view = l.view)
    (hl : l.latestRouterDecision = none) :
    SideBySide c env env' mode mode'
      ((decisionLoop cfg worker plan (n + 5) r).bind fun r ↦ save r.routed) w
      ((Stage.triage.linear cfg worker' l).bind fun l₂ ↦
        (Stage.evidence.linear cfg worker' l₂).bind fun l₃ ↦
        (Stage.change.linear cfg worker' l₃).bind fun l₄ ↦
        (Stage.rca.linear cfg worker' l₄).bind fun l₅ ↦ save l₅.routed) w'
      fun r' _ l' _ ↦ SameFindings r' l' := by
  have hkeep (a a' b : IncidentRecord) (hcase : SameCase a a') (hab : a.view = b.view) :
      a'.view = b.view := hcase.view.trans hab
  -- One stage after the other; the records agree up to generated values, and after the analysis
  -- also up to the ids that it cites.
  rw [decisionLoop_eq worker hcfg plan n h]
  simp only [Prog.bind_assoc]
  refine Prog.Alike.bind (Stage.iteration_alike hcfg plan h
    (R := fun a b ↦ a.view = b.view ∧ b.latestRouterDecision = none)
    (fun a a' b hcase hab ↦ ⟨hkeep a a' b hcase hab.1, hab.2⟩)
    fun r₁ d v hcase _ _ ↦ ?_) ?_
  · have hview₁ : r₁.view = l.view := hcase.view.trans hview
    refine Prog.Alike.mono (triage_alike hcfg hview₁ (hcase.view ▸ h.state)) ?_
    rintro a _ b _ ⟨hab, hb⟩
    exact ⟨hab, hb.trans hl⟩
  rintro r₂ v₂ l₂ t₂ ⟨⟨⟨hview₂, hl₂⟩, -⟩, h₂⟩
  refine Prog.Alike.bind (Stage.iteration_alike hcfg plan h₂
    (R := fun a b ↦ a.view = b.view) hkeep fun r₁ d v hcase hd hdecides ↦ ?_) ?_
  · have hview₁ : r₁.view = l₂.view := hcase.view.trans hview₂
    have hbefore : r₂.hypotheses = r₁.hypotheses := congrArg CaseView.hypotheses hcase.view.symm
    have hsame : r₁.hypotheses = l₂.hypotheses := congrArg CaseView.hypotheses hview₁
    exact evidence_alike hcfg hview₁ (hcase.view ▸ h₂.state) fun key hkey ↦
      resolveIntents_agree hdecides hbefore hd hl₂ hsame hkey
  rintro r₃ v₃ l₃ t₃ ⟨⟨hview₃, -⟩, h₃⟩
  refine Prog.Alike.bind (Stage.iteration_alike hcfg plan h₃
    (R := fun a b ↦ a.view = b.view) hkeep fun r₁ d v hcase _ _ ↦ ?_) ?_
  · exact change_alike hcfg (hcase.view.trans hview₃) (hcase.view ▸ h₃.state)
  rintro r₄ v₄ l₄ t₄ ⟨⟨hview₄, -⟩, h₄⟩
  refine Prog.Alike.bind (Stage.iteration_alike hcfg plan h₄
    (R := fun a b ↦ SameFindings a b ∧ b.state = .investigating)
    (fun a a' b hcase hab ↦
      ⟨SameWork.findings (.of_case hcase) ⟨rfl, rfl, rfl, rfl, rfl⟩ hab.1, hab.2⟩)
    fun r₁ d v hcase _ _ ↦ ?_) ?_
  · obtain ⟨hstate, htriaged, -⟩ := h₄
    exact rca_alike hcfg (hcase.view.trans hview₄) (hcase.view ▸ hstate) (hcase.view ▸ htriaged)
  rintro r₅ v₅ l₅ t₅ ⟨⟨⟨hsame, hl₅⟩, hstored⟩, h₅⟩
  exact last_alike hcfg plan n h₅ hstored hl₅ hsame

end

/-- **One investigation, two routes.** With agents in stub mode and a limit of at least five
iterations, on an incident without hypotheses, evidence and decision, the loop decides at most five
times, and it ends as the linear route does: with the same plan, allowed actions, tools, evidence
and hypotheses up to generated ids and timestamps, or with the exception of the same collector. -/
theorem decision_loop_agrees (cfg : Settings) (hstub : cfg.agenticEnabled = false)
    (hlimit : 5 ≤ cfg.routerMaxIterations) (c : Collectors) (env env' : Env) (mode mode' : Mode)
    (worker worker' : Bool) (w w' : World) (r : IncidentRecord) (hhypotheses : r.hypotheses = [])
    (hevidence : r.evidence = []) (hdecision : r.latestRouterDecision = none) :
    ((runDecisionLoopRoute cfg worker r).trace (c.serve env mode) w).countP
        (fun e ↦ e.1.isDecision) ≤ 5 ∧
      Prog.Alike (c.serve env mode) (c.serve env' mode') (runDecisionLoopRoute cfg worker r) w
        (runLinearRoute cfg worker' r) w' fun r' _ l' _ ↦ SameFindings r' l' := by
  obtain ⟨n, hn⟩ : ∃ n, cfg.maxIterations = n + 5 := by
    refine ⟨cfg.maxIterations - 5, ?_⟩
    rw [Settings.maxIterations]
    omega
  have hstart : AtStage .triage ((matchPlan cfg r).withIteration 0).view :=
    ⟨rfl, hhypotheses, by rw [view_withIteration]; exact congrArg _ hevidence⟩
  have hroute : runDecisionLoopRoute cfg worker r =
      (writeCheckpoint worker ((matchPlan cfg r).withIteration 0) "match").bind fun r₁ ↦
        (decisionLoop cfg worker (matchResponsePlan cfg.text r₁.metadata.severity
          r₁.metadata.symptom) (n + 5) r₁).bind fun r ↦ save r.routed := by
    rw [← hn]
    rfl
  rw [hroute]
  constructor
  -- The checkpoint and the last save decide nothing.
  · refine Prog.AtMost.trace ?_ w
    refine Prog.AtMost.bind (m := 0) (n := 5) (step_atMost (writeCheckpoint_issues _ _ _))
      (writeCheckpoint_yields _ _ _) fun r₁ hr₁ ↦ ?_
    refine Prog.AtMost.bind (m := 5) (n := 0) ?_ (Prog.Yields.true _) fun r₂ _ ↦
      step_atMost (save_issues _)
    exact decisionLoop_atMost worker hstub _ n (hr₁.view ▸ hstart)
  · rw [runLinearRoute_eq]
    refine Prog.Alike.bind (Prog.Alike.of_total (writeCheckpoint_total worker "match" rfl)
      (writeCheckpoint_total worker' "match" rfl) (writeCheckpoint_yields _ _ _)
      (writeCheckpoint_yields _ _ _)) ?_
    rintro r₁ v₁ l₁ t₁ ⟨hr₁, hl₁⟩
    exact stages_alike hstub _ n (hr₁.view ▸ hstart) (hr₁.view.trans hl₁.view.symm)
      (hl₁.latestRouterDecision.trans hdecision)

/-- Collectors that see a busy host and a deployment. -/
def Collectors.demo : Collectors where
  collect tool service _ := .ok (service ++ " " ++ tool.value ++ " cpu 92")
  recentDeployments service := .ok (service ++ " deployment r43")

/-- A checkout incident, by the loop in Postgres mode and by the linear route in fallback mode. -/
theorem decision_loop_agrees_checkout :
    ((runDecisionLoopRoute Settings.demo false checkoutIncident).trace
        (Collectors.demo.serve Env.demo .postgres) {}).countP (fun e ↦ e.1.isDecision) ≤ 5 ∧
      Prog.Alike (Collectors.demo.serve Env.demo .postgres)
        (Collectors.demo.serve Env.demo .fallback)
        (runDecisionLoopRoute Settings.demo false checkoutIncident) {}
        (runLinearRoute Settings.demo true checkoutIncident) {}
        fun r' _ l' _ ↦ SameFindings r' l' :=
  decision_loop_agrees Settings.demo rfl (by decide) Collectors.demo Env.demo Env.demo .postgres
    .fallback false true {} {} checkoutIncident rfl rfl rfl

end IncidentPlatform
