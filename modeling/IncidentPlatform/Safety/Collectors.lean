import IncidentPlatform.Interaction.InStep
import IncidentPlatform.Workflow.HybridRouter
import IncidentPlatform.Workflow.Operations

/-!
# The choice of collectors

The evidence agent takes its intents from the tool plan of the latest router decision, or from the
triage block if there is none. The router makes its tool plans from the same block. An intent that
no collector answers is lost on the first way and kept on the second, and a tool plan without tools
sends the agent back to the block. `collectors_agree` says that both ways end in one choice.
-/

namespace IncidentPlatform

open Interaction

/-! ## The intents -/

/-- What the triage block asks for, normalised. -/
def evidenceIntents (cfg : Settings) (incident : IncidentRecord) : List String :=
  normalizeEvidenceIntents cfg.text
    (stringsAt cfg.text (extractTriageDict incident.hypotheses) "next_required_evidence")

/-- The keys of the four collectors. -/
def collectorKeys : List String := ["metrics", "logs", "recent_changes", "topology"]

/-- The triage block, if there is one, has no `next_required_evidence`, or it has these strings. -/
def RequiredEvidence (incident : IncidentRecord) (raw : List String) : Prop :=
  match (extractTriageDict incident.hypotheses).bind
      fun triage ↦ Dict.get? triage "next_required_evidence" with
  | none => raw = []
  | some v => v = stringList raw

/-- The tools are those of the intents. -/
def ToolPlan.Follows (toolPlan : ToolPlan) (intents : List String) : Prop :=
  toolPlan.items.map ToolPlanItem.tool = intents.filterMap fun key ↦ (intentTool key).map Prod.fst

section

variable {cfg : Settings} {incident r r' : IncidentRecord} {plan : ResponsePlan}
  {raw intents intents' : List String} {key : String}

theorem evidenceIntents_of_required (h : RequiredEvidence incident raw) :
    evidenceIntents cfg incident = normalizeEvidenceIntents cfg.text raw := by
  rw [RequiredEvidence] at h
  rw [evidenceIntents, stringsAt]
  revert h
  cases (extractTriageDict incident.hypotheses).bind
      fun triage ↦ Dict.get? triage "next_required_evidence" with
  | none => exact fun h ↦ by rw [h]
  | some v =>
    intro h
    rw [h, stringList]
    dsimp only
    rw [List.map_map]
    exact congrArg _ (List.map_id raw)

theorem deterministicNextStep_follows (cfg : Settings) (incident : IncidentRecord)
    (plan : ResponsePlan) :
    (deterministicNextStep cfg incident plan).Yields fun d ↦
      ∃ toolPlan, d.toolPlan = some toolPlan ∧ toolPlan.Follows (evidenceIntents cfg incident) := by
  intro hex createdAt hex' createdAt'
  refine ⟨_, rfl, ?_⟩
  rw [ToolPlan.Follows, List.map_map, List.map_filterMap]
  rfl

/-- The keys the agent reads off the items of a tool plan. -/
theorem mem_planKeys (items : List ToolPlanItem) (keys : List String) :
    key ∈ items.foldl (fun keys item ↦
      match toolKey item.tool with
      | some key => if key ∈ keys then keys else keys ++ [key]
      | none => keys) keys ↔
      key ∈ keys ∨ ∃ item ∈ items, toolKey item.tool = some key := by
  induction items generalizing keys with
  | nil => simp
  | cons item items ih =>
    rw [List.foldl_cons, ih]
    cases hkey : toolKey item.tool with
    | none => simp [hkey]
    | some k =>
      dsimp only
      split_ifs with hmem
      · simp [hkey]
        grind
      · simp [hkey]
        grind

/-- A tool that an intent stands for is read as that intent. -/
theorem toolKey_of_intentTool {tool : ActionType} {reason : String}
    (h : intentTool key = some (tool, reason)) : toolKey tool = some key := by
  unfold intentTool at h
  split at h <;> cases h <;> rfl

theorem intentTool_of_mem (h : key ∈ collectorKeys) :
    ∃ tool reason, intentTool key = some (tool, reason) := by
  rw [collectorKeys] at h
  simp only [List.mem_cons, List.not_mem_nil, or_false] at h
  rcases h with rfl | rfl | rfl | rfl <;> exact ⟨_, _, rfl⟩

theorem follows_key_iff {toolPlan : ToolPlan} (h : toolPlan.Follows intents)
    (hkey : key ∈ collectorKeys) :
    (∃ item ∈ toolPlan.items, toolKey item.tool = some key) ↔ key ∈ intents := by
  have htools (tool : ActionType) :
      tool ∈ toolPlan.items.map ToolPlanItem.tool ↔
        ∃ k ∈ intents, (intentTool k).map Prod.fst = some tool := by
    rw [h, List.mem_filterMap]
  constructor
  · rintro ⟨item, hitem, htool⟩
    obtain ⟨k, hk, hintent⟩ := (htools _).mp (List.mem_map_of_mem hitem)
    obtain ⟨⟨tool, reason⟩, hintent, rfl⟩ := Option.map_eq_some_iff.mp hintent
    have hread := toolKey_of_intentTool hintent
    rwa [Option.some_injective _ (htool.symm.trans hread)]
  · intro hmem
    obtain ⟨tool, reason, hintent⟩ := intentTool_of_mem hkey
    obtain ⟨item, hitem, htool⟩ := List.mem_map.mp
      ((htools tool).mpr ⟨key, hmem, by rw [hintent, Option.map_some]⟩)
    exact ⟨item, hitem, htool ▸ toolKey_of_intentTool hintent⟩

/-- With and without the decision, the agent wants the same collectors. -/
theorem mem_resolveIntents_iff {d : RouterDecision} {toolPlan : ToolPlan}
    (hd : d.toolPlan = some toolPlan) (h : toolPlan.Follows (evidenceIntents cfg r))
    (hkey : key ∈ collectorKeys) :
    key ∈ resolveIntents cfg { r with latestRouterDecision := some d } ↔
      key ∈ resolveIntents cfg { r with latestRouterDecision := none } := by
  have hkeys := Iff.trans (mem_planKeys toolPlan.items [])
    ((or_iff_right List.not_mem_nil).trans (follows_key_iff h hkey))
  change _ ↔ key ∈ evidenceIntents cfg r
  rw [resolveIntents, Option.bind_some, hd, Option.map_some]
  -- A plan without tools sends the agent back to the block.
  revert hkeys
  cases toolPlan.items.foldl _ _ with
  | nil => exact fun _ ↦ Iff.rfl
  | cons k keys => exact fun hkeys ↦ hkeys

end

/-! ## Two agents in step -/

/-- The call of a collector: its tool, and what it is asked about. -/
def Op.asked : Op → Option (ActionType × String × String)
  | .collect tool service resource => some (tool, service, resource)
  | .recentDeployments service => some (.getRecentDeployments, service, "")
  | _ => none

/-- The tools used, when some of them have just been recorded. -/
def Op.recorded : Op → Option (List ActionType)
  | .touch r => some r.toolsUsed
  | _ => none

/-- An operation that is the same for both agents. -/
def Op.timed : Op → Prop
  | .utcnow | .uuid4 | .collect _ _ _ | .recentDeployments _ => True
  | _ => False

/-- Operations that differ in nothing the collectors or the list of tools could show. -/
inductive SameOp : Op → Op → Prop
  | timed {o : Op} (h : o.timed) : SameOp o o
  | touch {r r' : IncidentRecord} (h : r.toolsUsed = r'.toolsUsed) : SameOp (.touch r) (.touch r')

/-- The collectors give both agents one answer. -/
def SameAnswer (o o' : Op) (a : Ans o) (a' : Ans o') : Prop := o.asked.isSome → HEq a a'

abbrev Tandem {α β : Type} (R : α → β → Prop) (p : Handler α) (q : Handler β) : Prop :=
  Prog.InStep SameOp SameAnswer R p q

/-- What the agent has come to: the tools it has recorded and the evidence it has collected. -/
def SameState (state state' : IncidentRecord × RawEvidence) : Prop :=
  state.1.toolsUsed = state'.1.toolsUsed ∧ state.1.metadata = state'.1.metadata ∧
    state.2 = state'.2

section

variable {cfg : Settings} {r r' : IncidentRecord} {state state' : IncidentRecord × RawEvidence}

theorem toolOp_tandem (tool : ActionType) (service resource : String) :
    Tandem Eq (toolOp tool service resource) (toolOp tool service resource) := by
  have hraise (a : Except Fault String) : Tandem Eq (orRaise a) (orRaise a) := by
    cases a <;> rfl
  have hcollect : Tandem Eq (perform (.collect tool service resource) >>= orRaise)
      (perform (.collect tool service resource) >>= orRaise) :=
    ⟨.timed trivial, fun a a' h ↦ eq_of_heq (h rfl) ▸ hraise a⟩
  cases tool with
  | getRecentDeployments => exact ⟨.timed trivial, fun a a' h ↦ eq_of_heq (h rfl) ▸ hraise a⟩
  | _ => exact hcollect

theorem recordTool_toolsUsed (r : IncidentRecord) (tool : ActionType) :
    (recordTool r tool).toolsUsed =
      if tool ∈ r.toolsUsed then r.toolsUsed else r.toolsUsed ++ [tool] := by
  rw [recordTool]
  split_ifs <;> rfl

theorem recordTool_metadata (r : IncidentRecord) (tool : ActionType) :
    (recordTool r tool).metadata = r.metadata := by
  rw [recordTool]
  split_ifs <;> rfl

theorem recordTool_congr (h : r.toolsUsed = r'.toolsUsed) (tool : ActionType) :
    (recordTool r tool).toolsUsed = (recordTool r' tool).toolsUsed := by
  rw [recordTool_toolsUsed, recordTool_toolsUsed, h]

theorem collectKey_tandem (wanted : Bool) (key : String) (tool : ActionType)
    (h : SameState state state') :
    Tandem SameState (collectKey wanted key tool state) (collectKey wanted key tool state') := by
  obtain ⟨htools, hmetadata, hraw⟩ := h
  cases wanted
  · exact ⟨htools, hmetadata, hraw⟩
  · rw [collectKey, collectKey, if_pos rfl, if_pos rfl, hmetadata]
    refine Prog.InStep.bind (toolOp_tandem tool _ _) ?_
    rintro text _ rfl
    have hused := recordTool_congr htools tool
    refine ⟨.touch hused, fun _ _ _ ↦ ⟨hused, ?_, ?_⟩⟩
    · rw [recordTool_metadata, recordTool_metadata, hmetadata]
    · rw [hraw]

theorem collectRaw_tandem {intents intents' : List String}
    (hintents : ∀ key ∈ collectorKeys, key ∈ intents ↔ key ∈ intents')
    (htools : r.toolsUsed = r'.toolsUsed) (hmetadata : r.metadata = r'.metadata) :
    Tandem SameState (collectRaw r intents) (collectRaw r' intents') := by
  have hwanted (key : String) (hkey : key ∈ collectorKeys) :
      decide (key ∈ intents) = decide (key ∈ intents') := decide_eq_decide.mpr (hintents key hkey)
  rw [collectRaw, collectRaw, hwanted "metrics" (by decide), hwanted "logs" (by decide),
    hwanted "recent_changes" (by decide), hwanted "topology" (by decide)]
  have hstart : SameState (r, []) (r', []) := ⟨htools, hmetadata, rfl⟩
  refine Prog.InStep.bind (collectKey_tandem _ _ _ hstart) fun s₁ s₁' h₁ ↦ ?_
  refine Prog.InStep.bind (collectKey_tandem _ _ _ h₁) fun s₂ s₂' h₂ ↦ ?_
  refine Prog.InStep.bind (collectKey_tandem _ _ _ h₂) fun s₃ s₃' h₃ ↦ ?_
  refine Prog.InStep.bind (collectKey_tandem _ _ _ h₃) fun s₄ s₄' h₄ ↦ ?_
  obtain ⟨hused, hmeta, hraw⟩ := h₄
  rw [hraw, hmeta]
  split_ifs
  · refine Prog.InStep.bind (toolOp_tandem _ _ _) ?_
    rintro metrics _ rfl
    refine Prog.InStep.bind (toolOp_tandem _ _ _) ?_
    rintro logs _ rfl
    have hboth := recordTool_congr (recordTool_congr hused .queryMetrics) .queryLogs
    refine ⟨.touch hboth, fun _ _ _ ↦ ⟨hboth, ?_, rfl⟩⟩
    rw [recordTool_metadata, recordTool_metadata, recordTool_metadata, recordTool_metadata, hmeta]
  · exact ⟨hused, hmeta, hraw⟩

/-- Entries of one kind after the other. -/
def SameKinds (entries entries' : List EvidenceEntry) : Prop :=
  entries.map EvidenceEntry.kind = entries'.map EvidenceEntry.kind

theorem newEvidence_tandem (source kind : String) (confidence : ℚ) (summary : String) :
    Tandem (fun e e' ↦ e.kind = e'.kind) (newEvidence source kind confidence summary)
      (newEvidence source kind confidence summary) :=
  ⟨.timed trivial, fun _ _ _ ↦ ⟨.timed trivial, fun _ _ _ ↦ rfl⟩⟩

theorem entriesFor_tandem (raw : RawEvidence) (kinds : List (String × String × String × ℚ)) :
    Tandem SameKinds (entriesFor raw kinds) (entriesFor raw kinds) := by
  induction kinds with
  | nil => rfl
  | cons k kinds ih =>
    rw [entriesFor]
    cases raw.lookup k.1 with
    | none => exact ih
    | some summary =>
      refine Prog.InStep.bind (newEvidence_tandem _ _ _ _) fun e e' he ↦ ?_
      exact Prog.InStep.bind ih fun es es' hes ↦ congrArg₂ List.cons he hes

theorem fromRawDict_tandem (raw : RawEvidence) :
    Tandem SameKinds (fromRawDict raw) (fromRawDict raw) := by
  refine Prog.InStep.bind (entriesFor_tandem raw rawKinds) fun es es' h ↦ ?_
  have hempty : es.isEmpty = es'.isEmpty := by
    rw [← List.isEmpty_map (f := EvidenceEntry.kind), h, List.isEmpty_map]
  rw [hempty]
  split_ifs
  · exact entriesFor_tandem _ _
  · exact h

/-- Without the language model the entries of one state have the same kinds. -/
theorem evidenceEntries_tandem (hagentic : cfg.agenticEnabled = false) (raw : RawEvidence) :
    Tandem SameKinds (evidenceEntries cfg r raw) (evidenceEntries cfg r' raw) := by
  rw [evidenceEntries, evidenceEntries, hagentic]
  exact fromRawDict_tandem raw

end

/-! ## Two runs -/

/-- The calls of collectors, in order. -/
def asked (trace : List (Prog.Event Op Ans)) : List (ActionType × String × String) :=
  trace.filterMap fun e ↦ e.1.asked

/-- The tools used, after each time some were recorded. -/
def recorded (trace : List (Prog.Event Op Ans)) : List (List ActionType) :=
  trace.filterMap fun e ↦ e.1.recorded

/-- The tools used and the kinds of the entries, at the end of the agent. -/
def toolsAndKinds (out : IncidentRecord × List EvidenceEntry) :
    List ActionType × List String :=
  (out.1.toolsUsed, out.2.map EvidenceEntry.kind)

/-- The evidence agent, asked about `r` and about `r'`, calls the same collectors and records the
same tools, and if it does without the language model it ends in the same way. -/
structure SameEvidence (cfg : Settings) (env env' : Env) (mode : Mode) (w : World)
    (r r' : IncidentRecord) : Prop where
  asked : asked ((gatherEvidence cfg r).trace (serve env mode) w) =
    asked ((gatherEvidence cfg r').trace (serve env' mode) w)
  recorded : recorded ((gatherEvidence cfg r).trace (serve env mode) w) =
    recorded ((gatherEvidence cfg r').trace (serve env' mode) w)
  returned : ∀ out out', ((gatherEvidence cfg r).run (serve env mode) w).1 = .ok out →
    ((gatherEvidence cfg r').run (serve env' mode) w).1 = .ok out' →
      out.1.toolsUsed = out'.1.toolsUsed
  kinds : cfg.agenticEnabled = false →
    ((gatherEvidence cfg r).run (serve env mode) w).1.map toolsAndKinds =
      ((gatherEvidence cfg r').run (serve env' mode) w).1.map toolsAndKinds

section

variable {cfg : Settings} {env env' : Env} {mode : Mode} {w : World} {r r' : IncidentRecord}

theorem World.touched_tick (w : World) (r : IncidentRecord) : (w.touched mode r).tick = w.tick := by
  cases mode with
  | postgres => rfl
  | fallback =>
    rw [touched]
    split_ifs <;> rfl

theorem serve_sameOp (htelemetry : env'.telemetry = env.telemetry) (w v : World) (o o' : Op)
    (htick : w.tick = v.tick) (h : SameOp o o') :
    SameAnswer o o' (serve env mode w o).1 (serve env' mode v o').1 ∧
      (serve env mode w o).2.tick = (serve env' mode v o').2.tick := by
  have hnext := congrArg (· + 1) htick
  cases h with
  | timed ho =>
    cases o with
    | utcnow => exact ⟨(fun h ↦ by cases h), hnext⟩
    | uuid4 => exact ⟨(fun h ↦ by cases h), hnext⟩
    | collect tool service resource =>
      refine ⟨fun _ ↦ heq_of_eq ?_, hnext⟩
      exact (congrArg env.telemetry htick).trans (congrFun htelemetry v.tick).symm
    | recentDeployments service =>
      refine ⟨fun _ ↦ heq_of_eq ?_, hnext⟩
      exact (congrArg env.telemetry htick).trans (congrFun htelemetry v.tick).symm
    | _ => exact ho.elim
  | @touch r r' htools =>
    refine ⟨(fun h ↦ by cases h), ?_⟩
    rw [serve_touch, serve_touch, World.touched_tick, World.touched_tick]
    exact hnext

theorem sameOp_asked {o o' : Op} (h : SameOp o o') : o.asked = o'.asked := by
  cases h <;> rfl

theorem sameOp_recorded {o o' : Op} (h : SameOp o o') : o.recorded = o'.recorded := by
  cases h with
  | timed => rfl
  | touch h => exact congrArg some h

theorem filterMap_trace {ν : Type} {f : Op → Option ν} (hf : ∀ o o', SameOp o o' → f o = f o')
    {trace trace' : List (Prog.Event Op Ans)}
    (h : List.Forall₂ (fun e e' ↦ SameOp e.1 e'.1) trace trace') :
    trace.filterMap (fun e ↦ f e.1) = trace'.filterMap fun e ↦ f e.1 := by
  induction h with
  | nil => rfl
  | cons he _ ih => rw [List.filterMap_cons, List.filterMap_cons, hf _ _ he, ih]

/-- The part of the agent that is about what was collected shows nothing more. -/
theorem filterMap_gatherEvidence {ν : Type} {f : Op → Option ν}
    (hf : ∀ o, o.ofEntries → f o = none) :
    ((gatherEvidence cfg r).trace (serve env mode) w).filterMap (fun e ↦ f e.1) =
      ((collectRaw r (resolveIntents cfg r)).trace (serve env mode) w).filterMap
        fun e ↦ f e.1 := by
  rw [gatherEvidence, Prog.bind_eq, Prog.trace_bind, List.filterMap_append]
  refine (congrArg _ ?_).trans (List.append_nil _)
  cases hrun : (collectRaw r (resolveIntents cfg r)).run (serve env mode) w with
  | mk res v =>
    cases res with
    | error e => rfl
    | ok state =>
      rw [List.filterMap_eq_nil_iff]
      have hissues : (evidenceEntries cfg state.1 state.2 >>= fun entries ↦
          (pure (state.1, entries) : Handler _)).Issues Op.ofEntries :=
        issues_bind (evidenceEntries_ofEntries cfg state.1 state.2) fun _ ↦ trivial
      exact fun e he ↦ hf e.1 (hissues.trace v e he)

/-- The record the agent returns is the one it collected with. -/
theorem gatherEvidence_run_ok {out : IncidentRecord × List EvidenceEntry}
    (h : ((gatherEvidence cfg r).run (serve env mode) w).1 = .ok out) :
    ∃ raw, ((collectRaw r (resolveIntents cfg r)).run (serve env mode) w).1 = .ok (out.1, raw) := by
  obtain ⟨⟨incident, raw⟩, v, hcollect, hrest⟩ := Prog.run_bind_eq_ok (Prod.ext h rfl)
  obtain ⟨entries, u, -, hpure⟩ := Prog.run_bind_eq_ok hrest
  cases hpure
  exact ⟨raw, by rw [hcollect]⟩

theorem gatherEvidence_tandem (hagentic : cfg.agenticEnabled = false)
    (hintents : ∀ key ∈ collectorKeys,
      key ∈ resolveIntents cfg r ↔ key ∈ resolveIntents cfg r')
    (htools : r.toolsUsed = r'.toolsUsed) (hmetadata : r.metadata = r'.metadata) :
    Tandem (fun out out' ↦ toolsAndKinds out = toolsAndKinds out') (gatherEvidence cfg r)
      (gatherEvidence cfg r') := by
  refine Prog.InStep.bind (collectRaw_tandem hintents htools hmetadata) ?_
  rintro ⟨incident, raw⟩ ⟨incident', _⟩ ⟨hused, -, rfl⟩
  exact Prog.InStep.bind (evidenceEntries_tandem hagentic raw) fun _ _ hkinds ↦
    Prod.ext hused hkinds

theorem map_eq_of_sameEnd {α β : Type} {f : α → β} {a b : Except Exc α}
    (h : Prog.SameEnd (fun x y ↦ f x = f y) a b) : a.map f = b.map f := by
  cases a with
  | error e =>
    cases b with
    | error e' => exact congrArg Except.error h
    | ok b => exact h.elim
  | ok a =>
    cases b with
    | error e' => exact h.elim
    | ok b => exact congrArg Except.ok h

/-- Agents that want the same collectors, on one incident with one list of tools. -/
theorem sameEvidence_of_intents (htelemetry : env'.telemetry = env.telemetry)
    (hintents : ∀ key ∈ collectorKeys,
      key ∈ resolveIntents cfg r ↔ key ∈ resolveIntents cfg r')
    (htools : r.toolsUsed = r'.toolsUsed) (hmetadata : r.metadata = r'.metadata) :
    SameEvidence cfg env env' mode w r r' := by
  have hstep := @serve_sameOp env env' mode htelemetry
  have hw : w.tick = w.tick := rfl
  obtain ⟨htrace, hend⟩ := (collectRaw_tandem hintents htools hmetadata).run hstep hw
  have hasked (o : Op) (ho : o.ofEntries) : o.asked = none := by
    cases o <;> first | rfl | exact ho.elim
  have hrecorded (o : Op) (ho : o.ofEntries) : o.recorded = none := by
    cases o <;> first | rfl | exact ho.elim
  constructor
  · rw [asked, asked, filterMap_gatherEvidence hasked, filterMap_gatherEvidence hasked]
    exact filterMap_trace (fun _ _ ↦ sameOp_asked) htrace
  · rw [recorded, recorded, filterMap_gatherEvidence hrecorded, filterMap_gatherEvidence hrecorded]
    exact filterMap_trace (fun _ _ ↦ sameOp_recorded) htrace
  · intro out out' hout hout'
    obtain ⟨raw, hcollect⟩ := gatherEvidence_run_ok hout
    obtain ⟨raw', hcollect'⟩ := gatherEvidence_run_ok hout'
    rw [hcollect, hcollect'] at hend
    exact hend.1
  · intro hagentic
    exact map_eq_of_sameEnd
      ((gatherEvidence_tandem hagentic hintents htools hmetadata).run hstep hw).2

end

/-- **Both ways to the collectors end in one choice.** The agent that is given the tool plan the
router makes of the triage block, and the agent that reads the block itself. -/
theorem collectors_agree (cfg : Settings) (incident : IncidentRecord) (plan : ResponsePlan)
    (raw : List String) (hraw : RequiredEvidence incident raw) :
    resolveIntents cfg { incident with latestRouterDecision := none } =
        normalizeEvidenceIntents cfg.text raw ∧
      (deterministicNextStep cfg incident plan).Yields fun d ↦
        ∀ env env' mode w, env'.telemetry = env.telemetry →
          SameEvidence cfg env env' mode w { incident with latestRouterDecision := some d }
            { incident with latestRouterDecision := none } := by
  refine ⟨evidenceIntents_of_required hraw, ?_⟩
  refine Prog.Yields.mono ?_ (deterministicNextStep_follows cfg incident plan)
  rintro d ⟨toolPlan, hd, hfollows⟩ env env' mode w htelemetry
  exact sameEvidence_of_intents htelemetry (fun key ↦ mem_resolveIntents_iff hd hfollows) rfl rfl

/-- An incident whose triage asks for the topology, and for what no collector has. -/
def heapIncident : IncidentRecord :=
  { checkoutIncident with
    hypotheses :=
      [[("triage", .dict [("next_required_evidence", stringList ["Topo ", "heap dumps"])])]] }

/-- The tool plan has the topology alone, and so do the collectors of the agent without it. -/
theorem collectors_agree_heap :
    resolveIntents Settings.demo { heapIncident with latestRouterDecision := none } =
        normalizeEvidenceIntents Text.ascii ["Topo ", "heap dumps"] ∧
      (deterministicNextStep Settings.demo heapIncident
          (matchResponsePlan Text.ascii "sev2" "cpu saturation")).Yields fun d ↦
        ∀ env env' mode w, env'.telemetry = env.telemetry →
          SameEvidence Settings.demo env env' mode w
            { heapIncident with latestRouterDecision := some d }
            { heapIncident with latestRouterDecision := none } :=
  collectors_agree Settings.demo heapIncident (matchResponsePlan Text.ascii "sev2" "cpu saturation")
    ["Topo ", "heap dumps"] rfl

end IncidentPlatform
