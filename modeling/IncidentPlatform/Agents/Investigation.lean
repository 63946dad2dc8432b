import IncidentPlatform.Domain.Settings
import IncidentPlatform.Persistence.Repository

/-!
# The investigating agents

Triage, evidence, change correlation and root-cause analysis, with the intent normalisation of
`src/agents/triage/evidence_intents.py`. Each agent asks the language model when the agent runtime
is enabled, and falls back to its stub when that fails and stubs are allowed. The prompts are not
modelled, the operations carry what a prompt is made from.

The evidence agent is the only one that assigns to the incident while it runs. It returns the
record with the tools it recorded.
-/

namespace IncidentPlatform

open Interaction

/-! ## Shared pieces -/

/-- The first `n` digits of an id. -/
def hexPrefix (n : ℕ) (hex : String) : String := String.ofList (hex.toList.take n)

/-- The answer of code that can raise. -/
def orRaise {α : Type} : Except Fault α → Handler α
  | .ok a => pure a
  | .error f => .raise (.fault f)

/-- The `except` clause of an agent: the stub, or the exception again. -/
def fallBack {α : Type} (cfg : Settings) (f : Fault) (stub : Handler α) : Handler α :=
  if f.isAgentFallback && cfg.agenticStubFallback then stub else .raise (.fault f)

def stringList (xs : List String) : Value := .list (xs.map .str)

/-! ## Triage -/

/-- `TriageLLMOutput.model_dump`. -/
def TriageLLMOutput.modelDump (out : TriageLLMOutput) : Dict :=
  [("incident_type", .str out.incidentType), ("priority", .str out.priority),
    ("probable_domains", stringList out.probableDomains),
    ("next_required_evidence", stringList out.nextRequiredEvidence)]

/-- `TriageAgent._stub_run`. -/
def triageStub (cfg : Settings) (incident : IncidentRecord) : Dict :=
  let cpu := isIn "cpu" (cfg.text.lower incident.metadata.symptom)
  let severe := incident.metadata.severity == "sev1" || incident.metadata.severity == "sev2"
  [("incident_type", .str (if cpu then "performance" else "general")),
    ("priority", .str (if severe then "p1" else "p2")),
    ("probable_domains", stringList [if cpu then "compute" else "application"]),
    ("next_required_evidence", stringList ["metrics", "logs", "recent_changes"])]

/-- `TriageAgent.run`. -/
def triage (cfg : Settings) (incident : IncidentRecord) : Handler Dict :=
  if cfg.agenticEnabled then do
    match ← perform (.triageLLM incident) with
    | .ok out => pure out.modelDump
    | .error f => fallBack cfg f (pure (triageStub cfg incident))
  else pure (triageStub cfg incident)

/-! ## Evidence intents -/

/-- The collector key an intent is mapped to, the intent itself when it is not known. -/
def canonicalIntent (key : String) : String :=
  if key ∈ ["metric", "metrics", "timeseries"] then "metrics"
  else if key ∈ ["log", "logs", "logging"] then "logs"
  else if key ∈ ["recent_changes", "deployments", "deployment", "change", "changes"] then
    "recent_changes"
  else if key ∈ ["topology", "topo", "dependencies"] then "topology"
  else key

/-- `normalize_evidence_intents`; `[]` also stands for `None`. -/
def normalizeEvidenceIntents (t : Text) (raw : List String) : List String :=
  if raw.isEmpty then ["metrics", "logs", "recent_changes"]
  else raw.foldl (fun out item ↦
    let key := canonicalIntent (t.lower (t.strip item))
    if key ∈ out then out else out ++ [key]) []

/-- `extract_triage_dict`. -/
def extractTriageDict : List Dict → Option Dict
  | [] => none
  | block :: hypotheses =>
    match Dict.get? block "triage" with
    | some (.dict triage) => some triage
    | _ => extractTriageDict hypotheses

/-- The list under a key, as strings, `[]` when there is no list. -/
def stringsAt (t : Text) (d : Option Dict) (key : String) : List String :=
  match d.bind fun d ↦ Dict.get? d key with
  | some (.list vs) => vs.map (Value.toStr t)
  | _ => []

/-- The collector key of a tool in a tool plan. -/
def toolKey : ActionType → Option String
  | .queryMetrics => some "metrics"
  | .queryLogs => some "logs"
  | .getRecentDeployments => some "recent_changes"
  | .getTopology => some "topology"
  | _ => none

/-- `EvidenceAgent._resolve_intents`. -/
def resolveIntents (cfg : Settings) (incident : IncidentRecord) : List String :=
  let planned := (incident.latestRouterDecision.bind RouterDecision.toolPlan).map fun plan ↦
    plan.items.foldl (fun keys item ↦
      match toolKey item.tool with
      | some key => if key ∈ keys then keys else keys ++ [key]
      | none => keys) []
  match planned with
  | some (key :: keys) => key :: keys
  | _ =>
    normalizeEvidenceIntents cfg.text
      (stringsAt cfg.text (extractTriageDict incident.hypotheses) "next_required_evidence")

/-! ## Evidence -/

/-- What the collectors returned, by collector key, in the order of the calls. -/
abbrev RawEvidence := List (String × String)

/-- `EvidenceAgent._record_tool`. -/
def recordTool (incident : IncidentRecord) (tool : ActionType) : IncidentRecord :=
  if tool ∈ incident.toolsUsed then incident
  else { incident with toolsUsed := incident.toolsUsed ++ [tool] }

/-- The collector behind a tool. -/
def toolOp (tool : ActionType) (service resource : String) : Handler String := do
  match tool with
  | .getRecentDeployments => orRaise (← perform (.recentDeployments service))
  | tool => orRaise (← perform (.collect tool service resource))

/-- Call one collector if its key is wanted, and record the tool. -/
def collectKey (wanted : Bool) (key : String) (tool : ActionType)
    (state : IncidentRecord × RawEvidence) : Handler (IncidentRecord × RawEvidence) :=
  if wanted then do
    let text ← toolOp tool state.1.metadata.service state.1.metadata.resource
    let incident := recordTool state.1 tool
    assign incident
    pure (incident, state.2 ++ [(key, text)])
  else pure state

/-- `EvidenceAgent._collect_raw`. -/
def collectRaw (incident : IncidentRecord) (intents : List String) :
    Handler (IncidentRecord × RawEvidence) := do
  let state ← collectKey ("metrics" ∈ intents) "metrics" .queryMetrics (incident, [])
  let state ← collectKey ("logs" ∈ intents) "logs" .queryLogs state
  let state ← collectKey ("recent_changes" ∈ intents) "recent_changes" .getRecentDeployments state
  let state ← collectKey ("topology" ∈ intents) "topology" .getTopology state
  if state.2.isEmpty then do
    -- both collectors answer before either tool is recorded
    let metrics ← toolOp .queryMetrics state.1.metadata.service state.1.metadata.resource
    let logs ← toolOp .queryLogs state.1.metadata.service state.1.metadata.resource
    let incident := recordTool (recordTool state.1 .queryMetrics) .queryLogs
    assign incident
    pure (incident, [("metrics", metrics), ("logs", logs)])
  else pure state

/-- A new evidence entry. -/
def newEvidence (source kind : String) (confidence : ℚ) (summary : String) :
    Handler EvidenceEntry := do
  let hex ← perform .uuid4
  let createdAt ← perform .utcnow
  pure { evidenceId := "ev_" ++ hexPrefix 10 hex, source, kind, confidence, summary, createdAt }

/-- The source, kind and confidence of the entry made from each raw key. -/
def rawKinds : List (String × String × String × ℚ) :=
  [("metrics", "metrics", "timeseries", 82 / 100), ("logs", "logs", "log-sample", 74 / 100),
    ("recent_changes", "deployments", "deployment-history", 7 / 10),
    ("topology", "topology", "graph", 68 / 100)]

/-- The entries of the keys of `raw` among `kinds`. -/
def entriesFor (raw : RawEvidence) : List (String × String × String × ℚ) →
    Handler (List EvidenceEntry)
  | [] => pure []
  | (key, source, kind, confidence) :: kinds =>
    match raw.lookup key with
    | some summary => do
      let entry ← newEvidence source kind confidence summary
      let entries ← entriesFor raw kinds
      pure (entry :: entries)
    | none => entriesFor raw kinds

/-- `EvidenceAgent._from_raw_dict`. -/
def fromRawDict (raw : RawEvidence) : Handler (List EvidenceEntry) := do
  let out ← entriesFor raw rawKinds
  if out.isEmpty then
    -- `_from_raw_legacy`
    entriesFor [("metrics", (raw.lookup "metrics").getD ""), ("logs", (raw.lookup "logs").getD "")]
      rawKinds
  else pure out

/-- The entries the language model reported. -/
def builtEntries : List EvidenceLLMItem → Handler (List EvidenceEntry)
  | [] => pure []
  | e :: entries => do
    let entry ← newEvidence e.source e.kind e.confidence e.summary
    let entries ← builtEntries entries
    pure (entry :: entries)

/-- The entries made of what was collected. -/
def evidenceEntries (cfg : Settings) (incident : IncidentRecord) (raw : RawEvidence) :
    Handler (List EvidenceEntry) :=
  if cfg.agenticEnabled then do
    match ← perform (.evidenceLLM incident raw) with
    | .ok entries => do
      let built ← builtEntries entries
      if built.isEmpty then fallBack cfg .structuredLLMError (fromRawDict raw) else pure built
    | .error f => fallBack cfg f (fromRawDict raw)
  else fromRawDict raw

/-- `EvidenceAgent.run`. -/
def gatherEvidence (cfg : Settings) (incident : IncidentRecord) :
    Handler (IncidentRecord × List EvidenceEntry) := do
  let (incident, raw) ← collectRaw incident (resolveIntents cfg incident)
  let entries ← evidenceEntries cfg incident raw
  pure (incident, entries)

/-! ## Change correlation -/

/-- `ChangeCorrelationAgent.run`. -/
def correlateChanges (cfg : Settings) (incident : IncidentRecord) : Handler EvidenceEntry := do
  let raw ← orRaise (← perform (.recentDeployments incident.metadata.service))
  let stub := newEvidence "change-correlation" "deployment-history" (66 / 100) raw
  if cfg.agenticEnabled then do
    match ← perform (.changeLLM incident raw) with
    | .ok out => newEvidence "change-correlation" out.kind out.confidence out.summary
    | .error f => fallBack cfg f stub
  else stub

/-! ## Root-cause analysis -/

/-- `RCAHypothesisItem.model_dump`. -/
def RCAHypothesisItem.modelDump (h : RCAHypothesisItem) : Dict :=
  [("hypothesis", .str h.hypothesis), ("confidence", .num h.confidence),
    ("supporting_evidence_ids", stringList h.supportingEvidenceIds)]

/-- `RCAAgent._stub_run`. -/
def rcaStub (cfg : Settings) (incident : IncidentRecord) : List RCAHypothesisItem :=
  let ids := incident.evidence.map EvidenceEntry.evidenceId
  let deployment := incident.metadata.service == "checkout-service" &&
    incident.evidence.any fun ev ↦
      isIn "checkout-r43" ev.summary || isIn "deployment" (cfg.text.lower ev.summary)
  let cpu := incident.evidence.any fun ev ↦ isIn "cpu" (cfg.text.lower ev.summary)
  let found : List RCAHypothesisItem :=
    (if deployment then
      [⟨"Checkout deployment revision checkout-r43 introduced elevated latency and errors",
        86 / 100, ids⟩] else []) ++
    (if cpu then [⟨"CPU saturation due to traffic spike or hot loop", 78 / 100, ids⟩] else [])
  if found.isEmpty then
    [⟨"Application-level error causing elevated failures", 55 / 100, ids⟩]
  else found

/-- `RCAAgent.run`. -/
def analyzeRootCause (cfg : Settings) (incident : IncidentRecord) :
    Handler (List RCAHypothesisItem) :=
  let stub := pure (rcaStub cfg incident)
  if cfg.agenticEnabled then do
    match ← perform (.rcaLLM incident) with
    | .ok [] => fallBack cfg .structuredLLMError stub
    | .ok hypotheses => pure hypotheses
    | .error f => fallBack cfg f stub
  else stub

end IncidentPlatform
