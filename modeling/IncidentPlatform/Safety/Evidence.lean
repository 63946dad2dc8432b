import IncidentPlatform.Execution.LocalTelemetry
import IncidentPlatform.Interaction.Given
import IncidentPlatform.Safety.ClosedLoop

/-!
# The evidence tells the truth

In local mode what an investigation collects about the checkout service is what the service is like:
`evidence_agrees`. The proof needs of the collectors only what their texts say, and that asking for
metrics changes nothing.
-/

namespace IncidentPlatform

open Interaction Encoding

/-- The answers of collectors agree with the state of the service. -/
def AnswersOf (m : JsonModule) (s : CheckoutState) : (o : Op) → Ans o → Prop
  | .collect tool service _, answer =>
    service = "checkout-service" → ∀ text, answer = .ok text → SaysOf m s tool text
  | _, _ => True

/-- What was collected agrees with it. -/
def RawOf (m : JsonModule) (s : CheckoutState) (raw : RawEvidence) : Prop :=
  ∀ kt ∈ raw, ∃ tool, toolKey tool = some kt.1 ∧ SaysOf m s tool kt.2

/-- An entry agrees with it. -/
structure EntryOf (m : JsonModule) (s : CheckoutState) (entry : EvidenceEntry) : Prop where
  metrics : entry.source = "metrics" → SaysOf m s .queryMetrics entry.summary
  logs : entry.source = "logs" → SaysOf m s .queryLogs entry.summary

section

variable {cfg : Settings} {m : JsonModule} {s : CheckoutState} {r : IncidentRecord}
  {raw : RawEvidence}

theorem toolOp_tells {tool : ActionType} {service : String} (resource : String)
    (hservice : service = "checkout-service") :
    (toolOp tool service resource).Given (AnswersOf m s) (fun _ ↦ True) (SaysOf m s tool) := by
  have hcollect (tool : ActionType) :
      (perform (.collect tool service resource) >>= orRaise : Handler String).Given
        (AnswersOf m s) (fun _ ↦ True) (SaysOf m s tool) := by
    refine ⟨trivial, fun answer hanswer ↦ ?_⟩
    rcases answer with f | text
    · trivial
    · exact hanswer hservice text rfl
  cases tool with
  | getRecentDeployments =>
    refine ⟨trivial, fun answer _ ↦ ?_⟩
    rcases answer with f | text
    · trivial
    · trivial
  | _ => exact hcollect _

/-- What a collector key adds. -/
theorem collectKey_tells (wanted : Bool) {key : String} {tool : ActionType}
    (htool : toolKey tool = some key) (hservice : r.metadata.service = "checkout-service")
    (hraw : RawOf m s raw) :
    (collectKey wanted key tool (r, raw)).Given (AnswersOf m s) (fun _ ↦ True) fun state ↦
      state.1.metadata = r.metadata ∧ RawOf m s state.2 := by
  rw [collectKey]
  split_ifs
  · refine Prog.Given.bind (toolOp_tells _ hservice) fun text htext ↦ ⟨trivial, fun _ _ ↦ ⟨?_, ?_⟩⟩
    · change (recordTool r tool).metadata = r.metadata
      rw [recordTool]
      split_ifs <;> rfl
    · refine List.forall_mem_append.mpr ⟨hraw, fun kt hkt ↦ ?_⟩
      rw [List.mem_singleton.mp hkt]
      exact ⟨tool, htool, htext⟩
  · exact ⟨rfl, hraw⟩

theorem collectRaw_tells (hservice : r.metadata.service = "checkout-service")
    (intents : List String) :
    (collectRaw r intents).Given (AnswersOf m s) (fun _ ↦ True) fun state ↦
      state.2 ≠ [] ∧ RawOf m s state.2 := by
  have hempty : RawOf m s [] := fun kt hkt ↦ absurd hkt List.not_mem_nil
  refine Prog.Given.bind (collectKey_tells _ rfl hservice hempty) ?_
  rintro ⟨r₁, raw₁⟩ ⟨hr₁, hraw₁⟩
  refine Prog.Given.bind (collectKey_tells _ rfl ((congrArg _ hr₁).trans hservice) hraw₁) ?_
  rintro ⟨r₂, raw₂⟩ ⟨hr₂, hraw₂⟩
  replace hr₂ : r₂.metadata = r.metadata := hr₂.trans hr₁
  refine Prog.Given.bind (collectKey_tells _ rfl ((congrArg _ hr₂).trans hservice) hraw₂) ?_
  rintro ⟨r₃, raw₃⟩ ⟨hr₃, hraw₃⟩
  replace hr₃ : r₃.metadata = r.metadata := hr₃.trans hr₂
  refine Prog.Given.bind (collectKey_tells _ rfl ((congrArg _ hr₃).trans hservice) hraw₃) ?_
  rintro ⟨r₄, raw₄⟩ ⟨hr₄, hraw₄⟩
  have hservice₄ : r₄.metadata.service = "checkout-service" := by
    rw [hr₄, hr₃, hservice]
  dsimp only
  split_ifs with hnone
  · refine Prog.Given.bind (toolOp_tells _ hservice₄) fun metrics hmetrics ↦
      Prog.Given.bind (toolOp_tells _ hservice₄) fun logs hlogs ↦ ⟨trivial, fun _ _ ↦ ?_⟩
    refine ⟨List.cons_ne_nil _ _, List.forall_mem_cons.mpr ⟨⟨.queryMetrics, rfl, hmetrics⟩,
      List.forall_mem_singleton.mpr ⟨.queryLogs, rfl, hlogs⟩⟩⟩
  · exact ⟨fun h ↦ hnone (List.isEmpty_iff.mpr h), hraw₄⟩

theorem toolKey_metrics {tool : ActionType} (h : toolKey tool = some "metrics") :
    tool = .queryMetrics := by
  cases tool <;> first | rfl | exact absurd h (by decide)

theorem toolKey_logs {tool : ActionType} (h : toolKey tool = some "logs") :
    tool = .queryLogs := by
  cases tool <;> first | rfl | exact absurd h (by decide)

/-- Every key that is collected has an entry. -/
theorem toolKey_known {tool : ActionType} {key : String} (h : toolKey tool = some key) :
    ∃ kind ∈ rawKinds, kind.1 = key := by
  cases tool <;> cases h
  all_goals simp [rawKinds]

/-- Where the entry of a raw key comes from. -/
theorem rawKinds_source {kind : String × String × String × ℚ} (h : kind ∈ rawKinds) :
    (kind.2.1 = "metrics" → kind.1 = "metrics") ∧ (kind.2.1 = "logs" → kind.1 = "logs") := by
  revert kind
  decide

/-- The entries made of it. -/
theorem entriesFor_tells (hraw : RawOf m s raw) {kinds : List (String × String × String × ℚ)}
    (hkinds : kinds ⊆ rawKinds) :
    (entriesFor raw kinds).Yields fun entries ↦ (∀ entry ∈ entries, EntryOf m s entry) ∧
      (entries = [] → ∀ kind ∈ kinds, raw.lookup kind.1 = none) := by
  induction kinds with
  | nil => exact ⟨by simp, by simp⟩
  | cons kind kinds ih =>
    obtain ⟨key, source, name, confidence⟩ := kind
    obtain ⟨hkind, hrest⟩ := List.cons_subset.mp hkinds
    rw [entriesFor]
    rcases hfound : raw.lookup key with _ | summary
    · refine (ih hrest).mono fun entries h ↦ ⟨h.1, fun hnone ↦ ?_⟩
      exact List.forall_mem_cons.mpr ⟨hfound, h.2 hnone⟩
    · obtain ⟨before, after, hsplit, -⟩ := List.lookup_eq_some_iff.mp hfound
      obtain ⟨tool, htool, htells⟩ := hraw (key, summary) (by rw [hsplit]; simp)
      have hsource := rawKinds_source hkind
      have hentry : (newEvidence source name confidence summary).Yields (EntryOf m s) := by
        refine fun hex createdAt ↦ ⟨fun h ↦ ?_, fun h ↦ ?_⟩
        · rw [hsource.1 h] at htool
          rwa [toolKey_metrics htool] at htells
        · rw [hsource.2 h] at htool
          rwa [toolKey_logs htool] at htells
      refine Prog.Yields.bind hentry fun entry h ↦
        Prog.Yields.bind (ih hrest) fun entries hentries ↦ ?_
      · exact ⟨List.forall_mem_cons.mpr ⟨h, hentries.1⟩, fun h ↦ absurd h (List.cons_ne_nil _ _)⟩

theorem fromRawDict_tells (hraw : RawOf m s raw) (hne : raw ≠ []) :
    (fromRawDict raw).Yields fun entries ↦ ∀ entry ∈ entries, EntryOf m s entry := by
  refine Prog.Yields.bind (entriesFor_tells hraw (List.Subset.refl _)) fun entries hentries ↦ ?_
  split_ifs with hnone
  · obtain ⟨kt, raw', rfl⟩ := List.exists_cons_of_ne_nil hne
    obtain ⟨tool, htool, -⟩ := hraw kt List.mem_cons_self
    have hlookup := hentries.2 (List.isEmpty_iff.mp hnone)
    have hfound : (List.lookup kt.1 (kt :: raw')).isSome :=
      List.lookup_isSome_iff.mpr ⟨kt, List.mem_cons_self, beq_self_eq_true _⟩
    obtain ⟨kind, hkind, hkt⟩ := toolKey_known htool
    rw [← hkt, hlookup kind hkind] at hfound
    cases hfound
  · exact hentries.1

theorem gatherEvidence_tells (hstub : cfg.agenticEnabled = false)
    (hservice : r.metadata.service = "checkout-service") :
    (gatherEvidence cfg r).Given (AnswersOf m s) (fun _ ↦ True) fun gathered ↦
      ∀ entry ∈ gathered.2, EntryOf m s entry := by
  refine Prog.Given.bind (collectRaw_tells hservice (resolveIntents cfg r)) ?_
  rintro ⟨r', raw⟩ ⟨hne, hraw⟩
  refine Prog.Given.bind (R := fun entries ↦ ∀ entry ∈ entries, EntryOf m s entry) ?_
    fun entries hentries ↦ hentries
  rw [evidenceEntries, hstub, if_neg Bool.false_ne_true]
  exact Prog.Given.of_yields (fromRawDict_tells hraw hne)

/-- No answer changes the service, and the collectors tell what it is like. -/
theorem serveLocal_tells {t : Text} {env : Env} {net : Network} {mode : Mode} {site : Site}
    (hsite : site.workload = s) (o : Op) :
    AnswersOf m s o (serveLocal t m env net mode site o).1 ∧
      (serveLocal t m env net mode site o).2.workload = s := by
  cases o with
  | collect tool service resource =>
    let started : Site := { site with world := { site.world with tick := site.world.tick + 1 } }
    have hstarted : started.workload = s := hsite
    obtain ⟨hworkload, htells⟩ := @query_tells t m net tool service resource started
    rw [hstarted] at hworkload htells
    exact ⟨htells, hworkload⟩
  | _ => exact ⟨trivial, hsite⟩

/-- **The evidence tells the truth**, whatever the checkout service has been through and whatever
the network loses, when agents in stub mode gather it about the checkout service. The text of the
metrics holds the state of the service, field by field. The text of the logs reports a spike if and
only if a fault is open, and the revision that is deployed. -/
theorem evidence_agrees {env : Env} {net : Network} {mode : Mode} (cfg : Settings)
    (hstub : cfg.agenticEnabled = false) (hservice : r.metadata.service = "checkout-service")
    (site : Site) :
    (gatherEvidence cfg r).Runs (serveLocal cfg.text m env net mode) site fun res later ↦
      later.workload = site.workload ∧ ∀ r' entries, res = .ok (r', entries) →
        ∀ entry ∈ entries,
          (entry.source = "metrics" → ∀ key, m.field entry.summary key
            = (Dict.get? site.workload.asdict key).map (Value.toJson m.num)) ∧
          (entry.source = "logs" →
            (m.field entry.summary "log_pattern"
              = some (.str (codePoints "payment_timeout_spike")) ↔ FaultOpen site.served) ∧
            (m.field entry.summary "log_pattern"
              = some (.str (codePoints "normal_checkout")) ↔ ¬ FaultOpen site.served) ∧
            m.field entry.summary "revision"
              = some (.str (codePoints site.workload.revision))) := by
  obtain ⟨hworkload, hentries⟩ := (gatherEvidence_tells hstub hservice).sound
    (I := fun later ↦ later.workload = site.workload)
    (fun later o h _ ↦ (serveLocal_tells h o).1) (fun later o _ h ↦ (serveLocal_tells h o).2) site
    rfl
  refine ⟨hworkload, fun r' entries hres entry hentry ↦ ?_⟩
  have htells := hentries _ hres entry hentry
  refine ⟨htells.metrics, fun hlogs ↦ ?_⟩
  obtain ⟨hpattern, hrevision⟩ := htells.logs hlogs
  have hne : codePoints "payment_timeout_spike" ≠ codePoints "normal_checkout" :=
    codePoints_injective.ne (by decide)
  rw [hpattern, ← failureInjected_iff]
  refine ⟨?_, ?_, hrevision⟩
  all_goals cases site.workload.failureInjected
  · simp [hne.symm]
  · simp
  · simp
  · simp [hne]

end

/-- A number in decimal, with at most one digit after the point. -/
def decimalText (q : ℚ) : List Char :=
  if q.den = 1 then (toString q.num).toList
  else (toString q.floor ++ "." ++ toString ((10 * q).floor % 10)).toList

open Classical in
/-- A `json` for such numbers. -/
noncomputable def JsonModule.demo : JsonModule where
  python := .texts
  num q := if h : NumberText (decimalText q) then ⟨_, h⟩ else ⟨['0'], numberText_zero⟩
  writer := .texts

/-- What is gathered about a checkout incident after a fault was injected. -/
noncomputable def gatheredEvidence : Except Exc (IncidentRecord × List EvidenceEntry) :=
  ((gatherEvidence Settings.demo checkoutIncident).run
    (serveLocal Text.ascii JsonModule.demo Env.demo Network.demo .postgres)
    { served := [.injectDeploymentRegression] }).1

/-- The logs report a spike. -/
theorem gatheredEvidence_spike : ∃ r entries, gatheredEvidence = .ok (r, entries) ∧
    ∃ entry ∈ entries, JsonModule.demo.field entry.summary "log_pattern"
      = some (.str (codePoints "payment_timeout_spike")) := by
  obtain ⟨r, entries, hrun, entry, hmem, hsource⟩ : ∃ r entries,
      gatheredEvidence = .ok (r, entries) ∧ ∃ entry ∈ entries, entry.source = "logs" :=
    ⟨_, _, rfl, _, List.mem_cons_of_mem _ List.mem_cons_self, rfl⟩
  have hagrees := (evidence_agrees Settings.demo rfl rfl _).2 r entries hrun entry hmem
  exact ⟨r, entries, hrun, entry, hmem, (hagrees.2 hsource).1.mpr ⟨[], [], rfl, by simp⟩⟩

end IncidentPlatform
