import IncidentPlatform.Agents.Investigation
import IncidentPlatform.Api.SiteOutcome
import IncidentPlatform.Encoding.JsonDump
import Mathlib.Data.List.Sort

/-!
# The collectors of local mode

`LocalCheckoutTelemetryCollectors` of `src/adapters/local/telemetry.py`. They ask the checkout
service for its metrics and hand on a JSON text, which becomes the summary of an evidence entry.

`field` reads such a text again. By `field_dumps` it finds in the text of a flat dictionary what
the dictionary has, whether or not the keys were sorted. So a text that a collector returns says
what the service is like: `queryMetrics_site` and `queryLogs_site`.
-/

namespace IncidentPlatform

open Interaction Encoding

/-! ## Dictionaries as JSON -/

mutual

/-- A value, as `json.dumps` finds it. -/
def Value.toJson {ν : Type} (num : ℚ → ν) : Value → Json ν
  | .null => .null
  | .bool b => .bool b
  | .num q => .num (num q)
  | .str s => .str (codePoints s)
  | .list vs => .arr (itemsToJson num vs)
  | .dict kvs => .obj (membersToJson num kvs)

def itemsToJson {ν : Type} (num : ℚ → ν) : List Value → List (Json ν)
  | [] => []
  | v :: vs => v.toJson num :: itemsToJson num vs

def membersToJson {ν : Type} (num : ℚ → ν) : List (String × Value) → List (PyStr × Json ν)
  | [] => []
  | (key, v) :: kvs => (codePoints key, v.toJson num) :: membersToJson num kvs

end

mutual

/-- `sort_keys=True`. -/
def Value.sortKeys : Value → Value
  | .list vs => .list (sortItems vs)
  | .dict kvs => .dict ((sortMembers kvs).insertionSort fun kv kv' ↦ kv.1 ≤ kv'.1)
  | v => v

def sortItems : List Value → List Value
  | [] => []
  | v :: vs => v.sortKeys :: sortItems vs

def sortMembers : List (String × Value) → List (String × Value)
  | [] => []
  | (key, v) :: kvs => (key, v.sortKeys) :: sortMembers kvs

end

/-- Python's `json`: how numbers are held, written and read. -/
structure JsonModule where
  python : Python
  num : ℚ → python.Num
  writer : Writer python

section

variable (m : JsonModule)

/-- `json.dumps`. -/
def JsonModule.dumps (v : Value) : String :=
  String.ofList ((v.toJson m.num).dumps m.writer.write)

/-- `json.loads(text).get(key)`. -/
def JsonModule.field (text key : String) : Option (Json m.python.Num) :=
  (loads m.python text.toList).bind (Json.getItem (codePoints key))

/-- No dictionary and no list. -/
def Value.scalar : Value → Bool
  | .list _ | .dict _ => false
  | _ => true

/-- Every key once, and nothing is nested. -/
structure Flat (d : Dict) : Prop where
  distinct : (d.map Prod.fst).Nodup
  scalar : ∀ kv ∈ d, kv.2.scalar = true

variable {m}

theorem codePoints_lt (s : String) : CodePoints (codePoints s) := by
  intro n hn
  obtain ⟨c, -, rfl⟩ := List.mem_map.mp hn
  have hvalid : c.toNat.isValidChar := c.valid
  rw [Nat.isValidChar] at hvalid
  omega

/-- Characters are no surrogates. -/
theorem unpaired_codePoints (s : String) : Unpaired (codePoints s) := by
  rw [Unpaired, codePoints, List.isChain_map]
  refine List.IsChain.imp (R := fun _ _ ↦ True) (fun c d _ h ↦ ?_)
    (List.Pairwise.isChain (List.pairwise_of_forall fun _ _ ↦ trivial))
  have hvalid : c.toNat.isValidChar := c.valid
  rw [Nat.isValidChar] at hvalid
  omega

theorem membersToJson_eq {ν : Type} (num : ℚ → ν) (d : Dict) :
    membersToJson num d = d.map fun kv ↦ (codePoints kv.1, kv.2.toJson num) := by
  induction d with
  | nil => rfl
  | cons kv d ih => exact congrArg ((codePoints kv.1, kv.2.toJson num) :: ·) ih

theorem sortMembers_of_scalar {d : Dict} (h : ∀ kv ∈ d, kv.2.scalar = true) :
    sortMembers d = d := by
  induction d with
  | nil => rfl
  | cons kv d ih =>
    obtain ⟨hkv, hd⟩ := List.forall_mem_cons.mp h
    obtain ⟨key, v⟩ := kv
    rw [sortMembers, ih hd]
    cases v <;> first | rfl | cases hkv

/-- What a dictionary has under a key. -/
theorem get?_eq_some_iff {d : Dict} (h : (d.map Prod.fst).Nodup) {key : String} {v : Value} :
    Dict.get? d key = some v ↔ (key, v) ∈ d := by
  rw [Dict.get?, Option.map_eq_some_iff]
  constructor
  · rintro ⟨⟨key', v'⟩, hfound, rfl⟩
    have hkey : key' = key := by simpa using List.find?_some hfound
    exact hkey ▸ List.mem_of_find?_eq_some hfound
  · intro hmem
    have hfound : (d.find? fun kv ↦ kv.1 == key).isSome := by
      rw [List.find?_isSome]
      exact ⟨_, hmem, beq_self_eq_true key⟩
    obtain ⟨kv, hkv⟩ := Option.isSome_iff_exists.mp hfound
    have hkey : kv.1 = key := by simpa using List.find?_some hkv
    have hsame := List.inj_on_of_nodup_map h (List.mem_of_find?_eq_some hkv) hmem hkey
    exact ⟨kv, hkv, by rw [hsame]⟩

theorem Flat.perm {d d' : Dict} (h : Flat d) (hperm : d'.Perm d) : Flat d' :=
  ⟨(hperm.map Prod.fst).nodup_iff.mpr h.distinct, fun kv hkv ↦ h.scalar kv (hperm.mem_iff.mp hkv)⟩

theorem Flat.get?_perm {d d' : Dict} (h : Flat d) (hperm : d'.Perm d) (key : String) :
    Dict.get? d' key = Dict.get? d key := by
  refine Option.ext fun v ↦ ?_
  rw [get?_eq_some_iff (h.perm hperm).distinct, get?_eq_some_iff h.distinct, hperm.mem_iff]

/-- What the text of a flat dictionary has under a key. -/
theorem field_dumps (m : JsonModule) {d : Dict} (h : Flat d) (key : String) :
    m.field (m.dumps (.dict d)) key = (Dict.get? d key).map (Value.toJson m.num) := by
  have hscalar {v : Value} (hv : v.scalar = true) (n : ℕ) :
      Json.Fits (n + 1) (v.toJson m.num) ∧ (v.toJson m.num).Holds Unpaired := by
    cases v with
    | null => exact ⟨.null, .null⟩
    | bool b => exact ⟨.bool b, .bool b⟩
    | num q => exact ⟨.num _, .num _⟩
    | str s => exact ⟨.str (codePoints_lt s), .str (unpaired_codePoints s)⟩
    | list vs | dict kvs => cases hv
  obtain ⟨n, hdepth⟩ : ∃ n, m.python.depth = n + 1 + 1 :=
    ⟨m.python.depth - 2, by have := m.python.shallow; omega⟩
  have hkeys : keys (membersToJson m.num d) = (d.map Prod.fst).map codePoints := by
    rw [keys, membersToJson_eq, List.map_map, List.map_map]
    rfl
  have hmember {kv : PyStr × Json m.python.Num} (hkv : kv ∈ membersToJson m.num d) :
      ∃ kv' ∈ d, kv = (codePoints kv'.1, kv'.2.toJson m.num) := by
    rw [membersToJson_eq] at hkv
    obtain ⟨kv', hkv', rfl⟩ := List.mem_map.mp hkv
    exact ⟨kv', hkv', rfl⟩
  have hfits : ((Value.dict d).toJson m.num).Fits m.python.depth := by
    rw [hdepth]
    refine .obj ?_ ?_ ?_
    · rw [hkeys]
      exact h.distinct.map codePoints_injective
    · intro kv hkv
      obtain ⟨kv', -, rfl⟩ := hmember hkv
      exact codePoints_lt _
    · intro kv hkv
      obtain ⟨kv', hkv', rfl⟩ := hmember hkv
      exact (hscalar (h.scalar kv' hkv') n).1
  have hholds : ((Value.dict d).toJson m.num).Holds Unpaired := by
    refine .obj ?_ ?_
    · intro kv hkv
      obtain ⟨kv', -, rfl⟩ := hmember hkv
      exact unpaired_codePoints _
    · intro kv hkv
      obtain ⟨kv', hkv', rfl⟩ := hmember hkv
      exact (hscalar (h.scalar kv' hkv') 0).2
  rw [JsonModule.field, JsonModule.dumps, String.toList_ofList,
    (loads_dumps_eq_iff m.writer hfits).mpr hholds, Option.bind_some]
  change ((membersToJson m.num d).find? _).map Prod.snd = _
  rw [membersToJson_eq, List.find?_map, Option.map_map, Dict.get?, Option.map_map]
  have hsame : ((fun kv : PyStr × Json m.python.Num ↦ decide (kv.1 = codePoints key)) ∘
      fun kv : String × Value ↦ (codePoints kv.1, kv.2.toJson m.num)) = fun kv ↦ kv.1 == key :=
    funext fun kv ↦ Bool.eq_iff_iff.mpr
      (decide_eq_true_iff.trans (codePoints_injective.eq_iff.trans beq_iff_eq.symm))
  rw [hsame]
  rfl

/-- The same with its keys sorted. -/
theorem field_dumps_sortKeys (m : JsonModule) {d : Dict} (h : Flat d) (key : String) :
    m.field (m.dumps (Value.dict d).sortKeys) key = (Dict.get? d key).map (Value.toJson m.num) := by
  have hperm := List.perm_insertionSort (fun kv kv' : String × Value ↦ kv.1 ≤ kv'.1) d
  rw [Value.sortKeys, sortMembers_of_scalar h.scalar, field_dumps m (h.perm hperm),
    h.get?_perm hperm]

end

/-! ## The collectors -/

/-- What the collectors ask of the checkout client. -/
inductive MetricsOp where
  | metrics

abbrev MetricsAns : MetricsOp → Type
  | .metrics => Except Fault Dict

/-- A collector. -/
abbrev Collector := Prog MetricsOp MetricsAns Fault String

namespace LocalCheckoutTelemetryCollectors

variable (t : Text) (m : JsonModule) (service resource : String)

/-- `query_metrics`. -/
def queryMetrics : Collector :=
  if service != "checkout-service" then
    pure (m.dumps (.dict [("service", .str service), ("resource", .str resource),
      ("status", .str "no-local-workload")]))
  else do
    let metrics ← Prog.ofExcept (← Prog.op MetricsOp.metrics)
    pure (m.dumps (Value.dict metrics).sortKeys)

/-- `query_logs`. The error is that of `float`. -/
def queryLogs : Collector :=
  if service != "checkout-service" then
    pure (m.dumps (.dict [("service", .str service), ("resource", .str resource),
      ("log_pattern", .str "none")]))
  else do
    let metrics ← Prog.ofExcept (← Prog.op MetricsOp.metrics)
    match ((Dict.get? metrics "error_rate_percent").getD (.num 0)).toFloat t with
    | none => .raise .other
    | some errorRate =>
      let pattern := if 1 < errorRate then "payment_timeout_spike" else "normal_checkout"
      pure (m.dumps (Value.dict [("service", .str service), ("resource", .str resource),
        ("log_pattern", .str pattern), ("revision", (Dict.get? metrics "revision").getD .null),
        ("window_minutes", .num 5)]).sortKeys)

/-- `query_topology`. -/
def queryTopology : Collector :=
  let dependencies := ["payments-api", "inventory-api", "orders-db"]
  pure (m.dumps (Value.dict [("service", .str service), ("resource", .str resource),
    ("dependencies", .list (dependencies.map .str))]).sortKeys)

/-- The collector behind a tool. -/
def query : ActionType → Collector
  | .queryLogs => queryLogs t m service resource
  | .getTopology => queryTopology m service resource
  | _ => queryMetrics m service resource

end LocalCheckoutTelemetryCollectors

/-- The metrics of the checkout service. -/
def serveMetrics (net : Network) (site : Site) : (o : MetricsOp) → MetricsAns o × Site
  | .metrics => site.request net .businessMetrics

/-- A site whose collectors are those of local mode. For actions see `serveSite`. -/
def serveLocal (t : Text) (m : JsonModule) (env : Env) (net : Network) (mode : Mode) (site : Site) :
    (o : Op) → Ans o × Site
  | .collect tool service resource =>
    (LocalCheckoutTelemetryCollectors.query t m service resource tool).run (serveMetrics net)
      { site with world := { site.world with tick := site.world.tick + 1 } }
  | o => ((serve env mode site.world o).1, { site with world := (serve env mode site.world o).2 })

/-! ## What the texts say -/

/-- The text of a collector agrees with the state of the service. -/
def SaysOf (m : JsonModule) (s : CheckoutState) (tool : ActionType) (text : String) : Prop :=
  match tool with
  | .queryMetrics => ∀ key, m.field text key = (Dict.get? s.asdict key).map (Value.toJson m.num)
  | .queryLogs =>
    m.field text "log_pattern" = some (.str (codePoints
        (if s.failureInjected then "payment_timeout_spike" else "normal_checkout"))) ∧
      m.field text "revision" = some (.str (codePoints s.revision))
  | _ => True

section

variable {t : Text} {m : JsonModule} {env : Env} {net : Network} {mode : Mode}

theorem flat_asdict (s : CheckoutState) : Flat s.asdict := by
  refine ⟨?_, ?_⟩
  · change ["revision", "previous_revision", "replicas", "error_rate_percent", "p95_latency_ms",
      "healthy", "failure_injected"].Nodup
    decide
  · intro kv hkv
    simp only [CheckoutState.asdict, List.mem_cons, List.not_mem_nil, or_false] at hkv
    rcases hkv with rfl | rfl | rfl | rfl | rfl | rfl | rfl <;> rfl

/-- The logs of the checkout service. -/
theorem flat_logs (resource pattern revision : String) :
    Flat [("service", .str "checkout-service"), ("resource", .str resource),
      ("log_pattern", .str pattern), ("revision", .str revision), ("window_minutes", .num 5)] := by
  refine ⟨?_, ?_⟩
  · change ["service", "resource", "log_pattern", "revision", "window_minutes"].Nodup
    decide
  · intro kv hkv
    simp only [List.mem_cons, List.not_mem_nil, or_false] at hkv
    rcases hkv with rfl | rfl | rfl | rfl | rfl <;> rfl

/-- A request for the metrics changes nothing. -/
theorem request_metrics_workload (site : Site) :
    (site.request net .businessMetrics).2.workload = site.workload := by
  rw [Site.request]
  dsimp only
  split_ifs
  · exact List.foldl_append
  · rfl

/-- The metrics of the service, and what is made of them. -/
theorem metrics_runs {f : Dict → Collector} {Q : Except Fault String → Site → Prop} {site : Site}
    (he : ∀ e later, later.workload = site.workload → Q (.error e) later)
    (hf : ∀ later, later.workload = site.workload →
      (f site.workload.asdict).Runs (serveMetrics net) later Q) :
    (do
      let metrics ← Prog.ofExcept (← Prog.op MetricsOp.metrics)
      f metrics : Collector).Runs (serveMetrics net) site Q := by
  have hworkload := @request_metrics_workload net site
  change (Prog.bind (Prog.ofExcept (site.request net .businessMetrics).1) f).Runs _
    (site.request net .businessMetrics).2 Q
  rcases hd : (site.request net .businessMetrics).1 with e | d
  · exact he e _ hworkload
  · rw [request_metrics hd, hworkload]
    exact hf _ hworkload

theorem queryMetrics_tells (resource : String) (site : Site) :
    (LocalCheckoutTelemetryCollectors.queryMetrics m "checkout-service" resource).Runs
      (serveMetrics net) site fun res later ↦ later.workload = site.workload ∧
        ∀ text, res = .ok text → SaysOf m site.workload .queryMetrics text := by
  rw [LocalCheckoutTelemetryCollectors.queryMetrics, if_neg (by decide)]
  refine metrics_runs ?_ ?_
  · exact fun e later h ↦ ⟨h, fun text h ↦ by cases h⟩
  intro later h
  refine ⟨h, fun text htext key ↦ ?_⟩
  rw [← Except.ok.inj htext]
  exact field_dumps_sortKeys m (flat_asdict site.workload) key

theorem queryLogs_tells (resource : String) (site : Site) :
    (LocalCheckoutTelemetryCollectors.queryLogs t m "checkout-service" resource).Runs
      (serveMetrics net) site fun res later ↦ later.workload = site.workload ∧
        ∀ text, res = .ok text → SaysOf m site.workload .queryLogs text := by
  rw [LocalCheckoutTelemetryCollectors.queryLogs, if_neg (by decide)]
  refine metrics_runs ?_ ?_
  · exact fun e later h ↦ ⟨h, fun text h ↦ by cases h⟩
  intro later h
  refine ⟨h, fun text htext ↦ ?_⟩
  rw [← Except.ok.inj htext]
  have hpattern : (if 1 < site.workload.errorRatePercent then "payment_timeout_spike"
      else "normal_checkout")
        = if site.workload.failureInjected then "payment_timeout_spike" else "normal_checkout" :=
    if_congr site.sane.alarming rfl rfl
  rw [hpattern]
  have hflat := flat_logs resource
    (if site.workload.failureInjected then "payment_timeout_spike" else "normal_checkout")
    site.workload.revision
  exact ⟨field_dumps_sortKeys m hflat "log_pattern", field_dumps_sortKeys m hflat "revision"⟩

/-- What a collector returns. It only asks for metrics, and only for the checkout service. -/
theorem query_tells (tool : ActionType) (service resource : String) (site : Site) :
    (LocalCheckoutTelemetryCollectors.query t m service resource tool).Runs (serveMetrics net) site
      fun res later ↦ later.workload = site.workload ∧ (service = "checkout-service" →
        ∀ text, res = .ok text → SaysOf m site.workload tool text) := by
  by_cases hservice : service = "checkout-service"
  · subst hservice
    have hmetrics (h : ∀ text, SaysOf m site.workload tool text) :
        (LocalCheckoutTelemetryCollectors.queryMetrics m "checkout-service" resource).Runs
          (serveMetrics net) site fun res later ↦ later.workload = site.workload ∧
            ("checkout-service" = "checkout-service" →
              ∀ text, res = .ok text → SaysOf m site.workload tool text) :=
      (queryMetrics_tells resource site).mono fun _ _ htells ↦ ⟨htells.1, fun _ text _ ↦ h text⟩
    cases tool with
    | queryMetrics =>
      exact (queryMetrics_tells resource site).mono fun _ _ htells ↦ ⟨htells.1, fun _ ↦ htells.2⟩
    | queryLogs =>
      exact (queryLogs_tells resource site).mono fun _ _ htells ↦ ⟨htells.1, fun _ ↦ htells.2⟩
    | getTopology => exact ⟨rfl, fun _ _ _ ↦ trivial⟩
    | _ => exact hmetrics fun _ ↦ trivial
  · have hother : (service != "checkout-service") = true := bne_iff_ne.mpr hservice
    have hmetrics : (LocalCheckoutTelemetryCollectors.queryMetrics m service resource).Runs
        (serveMetrics net) site fun res later ↦ later.workload = site.workload ∧
          (service = "checkout-service" →
            ∀ text, res = .ok text → SaysOf m site.workload tool text) := by
      rw [LocalCheckoutTelemetryCollectors.queryMetrics, if_pos hother]
      exact ⟨rfl, fun h ↦ absurd h hservice⟩
    cases tool with
    | queryLogs =>
      rw [LocalCheckoutTelemetryCollectors.query, LocalCheckoutTelemetryCollectors.queryLogs,
        if_pos hother]
      exact ⟨rfl, fun h ↦ absurd h hservice⟩
    | getTopology => exact ⟨rfl, fun h ↦ absurd h hservice⟩
    | _ => exact hmetrics

end

end IncidentPlatform
