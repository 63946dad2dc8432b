import IncidentPlatform.Agents.Planner
import IncidentPlatform.Execution.Executor
import IncidentPlatform.Safety.DemoPolicy

/-!
# Actions of one plan that suppress each other

The executor reports a success for an action whose idempotency key is claimed already, and runs
nothing. The planner derives the key of an action from the incident and the type of the action, so
two actions of one type in one plan have the same key, and the first one suppresses the second. The
stub plan never names a type twice. `_clamp_actions` drops the unknown and the disallowed names of
the language model's answer, but keeps every repetition of an allowed one.

`none_suppressed_iff` says that the actions of a plan leave each other alone unless the plan is made
of such an answer.
-/

namespace IncidentPlatform

open Interaction

/-! ## Suppression -/

/-- The key is in one of the memories of the store. -/
def IdempotencyStore.Holds (s : IdempotencyStore) (key : String) : Prop :=
  key ∈ s.tableKeys ∨ key ∈ s.fallback

/-- Where nobody has claimed the key of `b` before, executing `a` makes the executor skip `b`. -/
def Suppresses (a b : ActionRequest) : Prop :=
  ∃ (env : Env) (mode : Mode) (w : World), ¬ w.keys.Holds b.idempotencyKey ∧
    ((execute a).run (serve env mode) w).2.claimAnswer env b.idempotencyKey b.actionId = .ok false

/-- The actions of a graph have keys of their own and do not suppress each other. -/
structure NoneSuppressed (graph : ActionGraph) : Prop where
  distinct : (graph.actions.map ActionRequest.idempotencyKey).Nodup
  executed : graph.actions.Pairwise fun a b ↦ ¬ Suppresses a b ∧ ¬ Suppresses b a

section

variable {s : IdempotencyStore} {demoMode : Bool} {reach : Reach} {createdAt : Time}
  {key actionId k : String}

theorem insertKey_ne_refused (h : key ∉ s.tableKeys) :
    (s.insertKey reach createdAt key actionId).1 ≠ .ok false := by
  rw [IdempotencyStore.insertKey, if_neg h]
  split_ifs
  · intro hrefused
    cases hrefused
  · intro hrefused
    cases hrefused

theorem holds_of_holds_insertKey (h : (s.insertKey reach createdAt key actionId).2.Holds k) :
    s.Holds k ∨ k = key := by
  rw [IdempotencyStore.insertKey] at h
  split_ifs at h
  · exact Or.inl h
  · rcases h with h | h
    · rw [IdempotencyStore.tableKeys, List.map_append, List.mem_append] at h
      exact h.imp Or.inl List.mem_singleton.mp
    · exact Or.inl (Or.inr h)
  · exact Or.inl h

/-- A key that the store does not hold is not refused. -/
theorem claim_ne_refused (h : ¬ s.Holds key) :
    (s.claim demoMode reach createdAt key actionId).1 ≠ .ok false := by
  rw [IdempotencyStore.Holds, not_or] at h
  rw [IdempotencyStore.claim, IdempotencyStore.ensureSchema]
  by_cases hready : s.schemaReady = true
  · rw [if_pos hready]
    exact insertKey_ne_refused h.1
  · by_cases hschema : reach.schema = true
    · rw [if_neg hready, if_pos hschema]
      exact insertKey_ne_refused (s := { s with schemaReady := true }) h.1
    · rw [if_neg hready, if_neg hschema]
      dsimp only
      rw [if_neg h.2]
      split_ifs <;> simp

/-- A claim adds no key but its own. -/
theorem holds_of_holds_claim (h : (s.claim demoMode reach createdAt key actionId).2.Holds k) :
    s.Holds k ∨ k = key := by
  rw [IdempotencyStore.claim, IdempotencyStore.ensureSchema] at h
  by_cases hready : s.schemaReady = true
  · rw [if_pos hready] at h
    exact holds_of_holds_insertKey h
  · by_cases hschema : reach.schema = true
    · rw [if_neg hready, if_pos hschema] at h
      exact holds_of_holds_insertKey (s := { s with schemaReady := true }) h
    · rw [if_neg hready, if_neg hschema] at h
      dsimp only at h
      split_ifs at h
      · exact Or.inl h
      · rcases h with h | h
        · exact Or.inl (Or.inl h)
        · exact (List.mem_append.mp h).imp Or.inr List.mem_singleton.mp
      · exact Or.inl h

end

variable {a b : ActionRequest}

/-- What a call leaves of the store. -/
theorem execute_keys (env : Env) (mode : Mode) (w : World) :
    ((execute a).run (serve env mode) w).2.keys =
      (w.claimed env a.idempotencyKey a.actionId).keys := by
  rcases h : w.claimAnswer env a.idempotencyKey a.actionId with f | granted
  · rw [execute_run_error h]
  · cases granted
    · rw [execute_run_refused h]
    · obtain ⟨r, attempts, tick, events, hrun, -⟩ := @execute_run_granted env mode a w h
      rw [hrun]

/-- **Suppression** is a matter of the key. -/
theorem suppresses_iff : Suppresses a b ↔ a.idempotencyKey = b.idempotencyKey := by
  constructor
  · rintro ⟨env, mode, w, hfree, hrefused⟩
    by_contra hne
    refine claim_ne_refused ?_ hrefused
    rw [execute_keys]
    intro hholds
    rcases holds_of_holds_claim hholds with hholds | hkey
    · exact hfree hholds
    · exact hne hkey.symm
  · intro hkey
    refine ⟨Env.demo, .fallback, {}, ?_, ?_⟩
    · rintro (hholds | hholds)
      · cases hholds
      · cases hholds
    · rw [World.claimAnswer, execute_keys, hkey]
      simp [World.claimed, IdempotencyStore.claim, IdempotencyStore.ensureSchema,
        IdempotencyStore.insertKey, IdempotencyStore.tableKeys, Env.demo]

theorem noneSuppressed_iff (graph : ActionGraph) :
    NoneSuppressed graph ↔ (graph.actions.map ActionRequest.idempotencyKey).Nodup := by
  refine ⟨NoneSuppressed.distinct, fun h ↦ ⟨h, ?_⟩⟩
  refine (List.pairwise_map.mp h).imp fun {a b} hne ↦ ?_
  rw [suppresses_iff, suppresses_iff]
  exact ⟨hne, hne.symm⟩

/-! ## The keys of a plan -/

/-- The language model is asked for a plan, and its answer repeats an allowed type. -/
def RepeatsAllowed (cfg : Settings) (incident : IncidentRecord)
    (answer : Except Fault PlannerLLMOutput) : Prop :=
  cfg.agenticEnabled = true ∧ ∃ plan out, incident.responsePlan = some plan ∧ answer = .ok out ∧
    ¬ (allowedTypes plan.allowedActions out.actionTypeNames).Nodup

section

variable {cfg : Settings} {incident : IncidentRecord}

theorem clampActions_keys (types : List ActionType) :
    (clampActions cfg incident types).Yields fun actions ↦
      actions.map ActionRequest.idempotencyKey =
        types.map fun t ↦ incident.incidentId ++ ":" ++ t.value := by
  induction types with
  | nil => exact rfl
  | cons t types ih =>
    refine yields_perform_bind.mpr fun hex ↦ Prog.Yields.bind ih fun actions hactions ↦ ?_
    exact congrArg (_ :: ·) hactions

/-- The key says which type it is for. -/
theorem keys_nodup_iff (incidentId : String) (types : List ActionType) :
    (types.map fun t ↦ incidentId ++ ":" ++ t.value).Nodup ↔ types.Nodup := by
  refine List.nodup_map_iff fun t t' h ↦ ActionType.value_injective ?_
  simpa using h

/-- The actions of the stub plan have keys of their own. -/
theorem stubGraph_distinct :
    (stubGraph cfg incident).Yields fun a ↦
      (a.2.actions.map ActionRequest.idempotencyKey).Nodup := by
  refine Prog.Yields.bind ?_ fun actions hactions ↦ Prog.Yields.rest fun _ ↦
    (show (actions.map ActionRequest.idempotencyKey).Nodup from hactions)
  rw [stubActions]
  split_ifs
  · exact fun hex ↦ List.nodup_singleton _
  · refine fun hex hex' ↦ ?_
    change [incident.incidentId ++ ":" ++ "restart", incident.incidentId ++ ":" ++ "scale"].Nodup
    simp

/-- What the planner makes of an answer of the language model. -/
theorem planWithLLM_distinct_iff {env : Env} {mode : Mode} {w w' : World}
    {allowed : List ActionType} {r : IncidentRecord} {graph : ActionGraph}
    (h : (planWithLLM cfg incident allowed).run (serve env mode) w = (.ok (r, graph), w')) :
    (graph.actions.map ActionRequest.idempotencyKey).Nodup ↔
      ∀ out, env.planner w.tick = .ok out → (allowedTypes allowed out.actionTypeNames).Nodup := by
  rw [planWithLLM, run_perform_bind] at h
  have hanswer : (serve env mode w (.plannerLLM incident)).1 = env.planner w.tick := rfl
  rw [hanswer] at h
  rcases hplanner : env.planner w.tick with f | out
  · rw [hplanner] at h
    have hstub : (graph.actions.map ActionRequest.idempotencyKey).Nodup :=
      (fallBack_yields cfg f (@stubGraph_distinct cfg incident)).run h
    exact iff_of_true hstub fun out hout ↦ by cases hout
  · rw [hplanner] at h
    suffices hiff : (graph.actions.map ActionRequest.idempotencyKey).Nodup ↔
        (allowedTypes allowed out.actionTypeNames).Nodup by
      rw [hiff]
      refine ⟨fun hnodup out' hout ↦ ?_, fun hnodup ↦ hnodup out rfl⟩
      cases hout
      exact hnodup
    refine Prog.Yields.run (R := fun a : IncidentRecord × ActionGraph ↦
      (a.2.actions.map ActionRequest.idempotencyKey).Nodup ↔
        (allowedTypes allowed out.actionTypeNames).Nodup) ?_ h
    refine Prog.Yields.bind (clampActions_keys _) fun actions hactions ↦ ?_
    rw [← keys_nodup_iff (incident.withConfidence out.plannerConfidence).incidentId, ← hactions]
    split_ifs with hempty
    · -- The stub stands in for a plan without actions.
      rw [List.isEmpty_iff.mp hempty]
      refine yields_perform_bind.mpr fun _ ↦ (fallBack_yields cfg _ stubGraph_distinct).mono ?_
      exact fun a ha ↦ iff_of_true ha List.nodup_nil
    · refine Prog.Yields.bind (plannedGraph_actions out actions) fun graph hgraph ↦ ?_
      change (graph.actions.map ActionRequest.idempotencyKey).Nodup ↔ _
      rw [hgraph]

end

/-- **No suppression within a plan.** The actions of a planned graph have keys of their own, and the
executor never skips one of them because of another, unless the plan is made of an answer that
repeats an allowed type. -/
theorem none_suppressed_iff {cfg : Settings} {incident r : IncidentRecord} {env : Env} {mode : Mode}
    {w w' : World} {graph : ActionGraph}
    (h : (planRemediation cfg incident).run (serve env mode) w = (.ok (r, graph), w')) :
    NoneSuppressed graph ↔ ¬ RepeatsAllowed cfg incident (env.planner w.tick) := by
  rw [noneSuppressed_iff]
  rw [planRemediation] at h
  by_cases henabled : cfg.agenticEnabled = true
  · rw [henabled, Bool.not_true, if_neg Bool.false_ne_true] at h
    rcases hplan : incident.responsePlan with _ | plan
    · rw [hplan] at h
      dsimp only at h
      split_ifs at h
      · refine iff_of_true (stubGraph_distinct.run h) ?_
        rintro ⟨-, plan, out, hsome, -⟩
        cases hplan.symm.trans hsome
      · cases h
    · rw [hplan] at h
      rw [planWithLLM_distinct_iff h]
      constructor
      · rintro hnodup ⟨-, plan', out, hsome, hout, hrepeats⟩
        cases hplan.symm.trans hsome
        exact hrepeats (hnodup out hout)
      · intro hnot out hout
        by_contra hrepeats
        exact hnot ⟨henabled, plan, out, hplan, hout, hrepeats⟩
  · rw [Bool.not_eq_true] at henabled
    rw [henabled, Bool.not_false, if_pos rfl] at h
    refine iff_of_true (stubGraph_distinct.run h) ?_
    rintro ⟨hon, -⟩
    exact Bool.false_ne_true (henabled.symm.trans hon)

/-! ## A repeated restart -/

/-- An outside in which the language model plans these actions. -/
def Env.naming (names : List String) : Env :=
  { Env.demo with planner := fun _ ↦ .ok { actionTypeNames := names } }

/-- The agents are on. -/
def Settings.planning : Settings := { Settings.demo with agenticEnabled := true }

/-- An incident that may be restarted or scaled. -/
def plannableIncident : IncidentRecord := { checkoutIncident with responsePlan := some computePlan }

/-- A restart and a scaling, with an unknown and a disallowed name between them. -/
theorem planning_run : ∃ r graph w', (planRemediation Settings.planning plannableIncident).run
    (serve (Env.naming ["RestartService", "Reboot", "DrainNode", "ScaleWorkload"]) .postgres) {} =
      (.ok (r, graph), w') ∧ graph.actions.length = 2 :=
  ⟨_, _, _, rfl, rfl⟩

theorem none_suppressed_of_names : ∃ graph, graph.actions.length = 2 ∧ NoneSuppressed graph := by
  obtain ⟨r, graph, w', hrun, hlength⟩ := planning_run
  refine ⟨graph, hlength, (none_suppressed_iff hrun).mpr ?_⟩
  rintro ⟨-, plan, out, hplan, hout, hrepeats⟩
  cases hplan
  cases hout
  exact hrepeats (by decide)

/-- Two restarts of one plan: the executor skips the second. -/
theorem repeated_restart_suppressed :
    ¬ ∀ (cfg : Settings) (incident r : IncidentRecord) (env : Env) (mode : Mode) (w w' : World)
      (graph : ActionGraph),
      (planRemediation cfg incident).run (serve env mode) w = (.ok (r, graph), w') →
      NoneSuppressed graph := by
  intro h
  have hnone := h Settings.planning plannableIncident _
    (Env.naming ["RestartService", "RestartService"]) .postgres {} _ _ rfl
  exact absurd hnone.distinct (by decide)

end IncidentPlatform
