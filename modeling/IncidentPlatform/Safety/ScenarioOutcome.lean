import IncidentPlatform.Domain.TextLaws
import IncidentPlatform.Safety.ClosedLoop
import IncidentPlatform.Safety.Fallback

/-!
# The scenario ends well

`POST /scenario/checkout-deployment-failure` drives the whole platform: it breaks the checkout
service, ingests an alert, investigates, plans, approves, executes and verifies. By
**`scenario_resolves`** it returns from any site, with the agents in stub mode, a linear route and a
reliable network. The fault that it has injected is repaired and its incident stored as resolved.

Every step returns because the one before it has stored what it needs. A record is saved from a
state that the table of transitions allows, whichever of the two modes holds it in between.
-/

namespace IncidentPlatform

open Interaction

/-! ## The route -/

/-- The same incident, in the same state. -/
structure SameIncident (r r' : IncidentRecord) : Prop where
  incidentId : r'.incidentId = r.incidentId
  metadata : r'.metadata = r.metadata
  state : r'.state = r.state

theorem SameIncident.refl (r : IncidentRecord) : SameIncident r r := ⟨rfl, rfl, rfl⟩

theorem SameIncident.trans {r r' r'' : IncidentRecord} (h : SameIncident r r')
    (h' : SameIncident r' r'') : SameIncident r r'' :=
  ⟨h'.incidentId.trans h.incidentId, h'.metadata.trans h.metadata, h'.state.trans h.state⟩

theorem SameIncident.of_view {r r' : IncidentRecord} (h : r'.view = r.view) : SameIncident r r' :=
  ⟨congrArg CaseView.incidentId h, congrArg CaseView.metadata h, congrArg CaseView.state h⟩

/-- Every collector answers. -/
def CollectorsAnswer (env : Env) : Prop := ∀ n, ∃ text, env.telemetry n = .ok text

/-- From every world `p` returns, with a record of the same incident. -/
structure Continues {α : Type} (env : Env) (mode : Mode) (get : α → IncidentRecord)
    (r : IncidentRecord) (p : Handler α) : Prop where
  returns : ∀ w, p.Returns (serve env mode) w
  yields : p.Yields fun a ↦ SameIncident r (get a)

section

variable {cfg : Settings} {env : Env} {mode : Mode} {w : World} {r r' : IncidentRecord}
  {α β : Type} {get : α → IncidentRecord} {get' : β → IncidentRecord}

theorem Continues.bind {p : Handler α} {f : α → Handler β} (hp : Continues env mode get r p)
    (hf : ∀ a, SameIncident r (get a) → Continues env mode get' (get a) (f a)) :
    Continues env mode get' r (p >>= f) where
  returns w := (hp.returns w).bind_yields hp.yields fun a w' ha ↦ (hf a ha).returns w'
  yields := Prog.Yields.bind hp.yields fun a ha ↦ (hf a ha).yields.mono fun _ h ↦ ha.trans h

theorem Continues.of_total {p : Handler α} (hp : p.Total) :
    Continues env mode (fun _ ↦ r) r p where
  returns _ := hp.returns
  yields := (Prog.Yields.true p).mono fun _ _ ↦ SameIncident.refl r

theorem save_continues (h : SameIncident r r') (hr : r.state = .investigating) :
    Continues env mode id r (save r') where
  returns _ := (save_total (h.state.trans hr)).returns
  yields := (save_yields r').mono fun _ hr ↦ h.trans (SameIncident.of_view hr.view)

theorem writeCheckpoint_continues (worker : Bool) (step : String) (h : SameIncident r r')
    (hr : r.state = .investigating) : Continues env mode id r (writeCheckpoint worker r' step) where
  returns _ := (writeCheckpoint_total worker step (h.state.trans hr)).returns
  yields := (writeCheckpoint_yields worker r' step).mono fun _ hr ↦
    h.trans (SameIncident.of_view hr.view)

/-- With the agents in stub mode the linear route returns, whatever is stored. -/
theorem runLinearRoute_continues (hstub : cfg.agenticEnabled = false)
    (hcollect : CollectorsAnswer env) (worker : Bool) (r : IncidentRecord) :
    Continues env mode id { r with state := .investigating } (runLinearRoute cfg worker r) := by
  have hcollectors (w : World) (tool : ActionType) (service resource : String) : ∃ text,
      (serve env mode w (.collect tool service resource)).1 = .ok text := hcollect w.tick
  have hdeployments (w : World) (service : String) : ∃ text,
      (serve env mode w (.recentDeployments service)).1 = .ok text := hcollect w.tick
  have hgather (r : IncidentRecord) : Continues env mode Prod.fst r (gatherEvidence cfg r) := by
    refine ⟨fun w ↦ ?_, (gatherEvidence_yields hstub r).mono ?_⟩
    · refine (collectRaw_returns hcollectors hdeployments _).bind ?_
      rintro ⟨r', raw⟩ w'
      dsimp only
      rw [evidenceEntries_stub hstub]
      exact Prog.Returns.bind (fromRawDict_total _).returns fun _ _ ↦ (pure_total _).returns
    · rintro ⟨r', entries⟩ ⟨⟨tools, hr'⟩, -⟩
      dsimp only at hr' ⊢
      subst hr'
      exact ⟨rfl, rfl, rfl⟩
  have hchange (r : IncidentRecord) :
      Continues env mode (fun _ ↦ r) r (correlateChanges cfg r) := by
    refine ⟨fun w ↦ ?_, (Prog.Yields.true _).mono fun _ _ ↦ SameIncident.refl r⟩
    rw [correlateChanges_stub hstub]
    exact (toolOp_returns hcollectors hdeployments _ _ _).bind fun _ _ ↦
      (newEvidence_total _ _ _ _).returns
  have hrca (r : IncidentRecord) : Continues env mode (fun _ ↦ r) r (analyzeRootCause cfg r) := by
    rw [analyzeRootCause, hstub]
    exact Continues.of_total trivial
  have hstate {r' r'' : IncidentRecord} (h : SameIncident r' r'') (hr : r'.state = .investigating) :
      r''.state = .investigating := h.state.trans hr
  have hmatched : ({ r with state := .investigating } : IncidentRecord).state = .investigating :=
    rfl
  refine (writeCheckpoint_continues worker "match" (by exact ⟨rfl, rfl, rfl⟩) hmatched).bind
    fun r₁ h₁ ↦ ?_
  have hs₁ : r₁.state = .investigating := h₁.state
  rw [triageStep_stub worker hstub]
  refine (writeCheckpoint_continues worker "triage" (by exact ⟨rfl, rfl, rfl⟩) hs₁).bind
    fun r₂ h₂ ↦ ?_
  have hs₂ := hstate h₂ hs₁
  refine (hgather r₂).bind fun gathered h₃ ↦ ?_
  have hs₃ := hstate h₃ hs₂
  refine (writeCheckpoint_continues worker "evidence" (by exact ⟨rfl, rfl, rfl⟩) hs₃).bind
    fun r₄ h₄ ↦ ?_
  have hs₄ := hstate h₄ hs₃
  have hchanged : Continues env mode id r₄ (changeStep cfg worker r₄) :=
    (hchange r₄).bind fun entry _ ↦
      writeCheckpoint_continues worker "change" (by exact ⟨rfl, rfl, rfl⟩) hs₄
  refine hchanged.bind fun r₅ h₅ ↦ ?_
  have hs₅ := hstate h₅ hs₄
  refine (hrca r₅).bind fun hypotheses _ ↦ ?_
  refine (writeCheckpoint_continues worker "rca" (by exact ⟨rfl, rfl, rfl⟩) hs₅).bind fun r₆ h₆ ↦ ?_
  exact save_continues (by exact ⟨rfl, rfl, rfl⟩) (hstate h₆ hs₅)

end

/-! ## What a route leaves -/

section

variable {cfg : Settings} {env : Env} {mode : Mode} {w : World} {r : IncidentRecord}

theorem Op.ofRoute.inward {o : Op} (h : o.ofRoute) : o.inward := by
  cases o <;> trivial

/-- The idempotency store is as before. -/
def SameKeys (w v : World) : Prop := v.keys = w.keys ∧ v.claims = w.claims

theorem SameKeys.claimAnswer {v : World} (h : SameKeys w v) (key actionId : String) :
    v.claimAnswer env key actionId = w.claimAnswer env key actionId :=
  World.claimAnswer_congr env w h.1 h.2 key actionId

theorem serve_sameKeys {o : Op} (ho : o.ofRoute) {v : World} (h : SameKeys w v) :
    SameKeys w (serve env mode v o).2 := by
  cases o with
  | claim key actionId => exact ho.elim
  | touch r =>
    obtain ⟨rows, hrows⟩ := @World.touched_eq_rows mode { v with tick := v.tick + 1 } r
    rw [serve_touch, hrows]
    exact h
  | _ => exact h

theorem run_sameKeys {α : Type} {p : Handler α} (hp : p.Issues Op.ofRoute) (w : World) :
    SameKeys w (p.run (serve env mode) w).2 :=
  hp.run (fun _ _ ho h ↦ serve_sameKeys ho h) w ⟨rfl, rfl⟩

theorem stable_true (mode : Mode) :
    Stable mode (fun _ _ ↦ False) fun _ ↦ True where
  congr _ _ _ := trivial
  write _ _ _ _ := trivial
  create _ _ _ := trivial
  edit _ _ _ _ := trivial

/-- A route that returns leaves its record stored. -/
theorem executeRoute_stored {v : World} {r' : IncidentRecord} (worker : Bool)
    (hr : w.stored r.incidentId = some r)
    (hrun : (executeRoute cfg worker r).run (serve env mode) w = (.ok r', v)) :
    v.stored r'.incidentId = some r' := by
  have hstart : Tracks ⟨mode, w⟩ (fun _ ↦ True) w (.held r r) := by
    refine ⟨⟨rfl, ?_⟩, trivial⟩
    cases mode <;> exact hr
  have hobeys : Obeys (some ⟨mode, w⟩) (fun _ _ ↦ False) (fun _ _ _ ↦ False)
      (executeRoute cfg worker r) (fun r' d ↦ d = .held r' r') (.held r r) :=
    executeRoute_obeys cfg worker r
  obtain ⟨htracks, hends⟩ := Prog.Meets.run (tracks_step (stable_true mode)) hobeys hstart
  rw [hrun] at htracks hends
  rw [show _ = Draft.held r' r' from hends] at htracks
  have hconsistent := htracks.consistent.2
  cases mode <;> exact hconsistent

/-- A linear route with the agents in stub mode, over a stored record. -/
theorem executeRoute_runs (hstub : cfg.agenticEnabled = false)
    (hlinear : cfg.routerDecisionLoopEnabled = false) (hcollect : CollectorsAnswer env)
    (worker : Bool) (hr : w.stored r.incidentId = some r) :
    RunsIn env mode (executeRoute cfg worker r) w fun res v ↦ SameKeys w v ∧
      ∃ r', res = .ok r' ∧ SameIncident { r with state := .investigating } r' ∧
        v.stored r'.incidentId = some r' := by
  have hkeys : SameKeys w ((executeRoute cfg worker r).run (serve env mode) w).2 :=
    run_sameKeys (executeRoute_issues cfg worker r) w
  have hcontinues : Continues env mode id { r with state := .investigating }
      (executeRoute cfg worker r) := by
    rw [executeRoute, hlinear]
    exact runLinearRoute_continues hstub hcollect worker r
  obtain ⟨r', v, hrun⟩ := hcontinues.returns w
  rw [RunsIn, Prog.Runs, hrun]
  rw [hrun] at hkeys
  exact ⟨hkeys, r', rfl, hcontinues.yields.run hrun, executeRoute_stored worker hr hrun⟩

/-- A save of a stored record that the table of transitions allows. -/
theorem save_allowed {b : IncidentRecord} (hb : w.stored r.incidentId = some b)
    (hallowed : transitionAllowed b.state r.state = true) :
    RunsIn env mode (save r) w fun res v ↦ SameKeys w v ∧
      ∃ r', res = .ok r' ∧ (∃ updatedAt version, r' = { r with updatedAt, version }) ∧
        v.stored r'.incidentId = some r' := by
  have hkeys : SameKeys w ((save r).run (serve env mode) w).2 :=
    run_sameKeys (step_issues (save_issues r)) w
  have hsave := @save_runs env mode w r b hb
  rw [RunsIn, Prog.Runs] at hsave ⊢
  refine ⟨hkeys, ?_⟩
  rcases hres : ((save r).run (serve env mode) w).1 with e | r' <;> rw [hres] at hsave
  · obtain ⟨-, -, -, hrefused, -⟩ := hsave
    rw [hallowed] at hrefused
    cases hrefused
  · obtain ⟨-, -, -, ⟨updatedAt, hr'⟩, hrows⟩ := hsave
    refine ⟨r', rfl, ⟨updatedAt, _, hr'⟩, ?_⟩
    have hstored := World.stored_of_saved ⟨updatedAt, hr'⟩ hrows
    rw [hr']
    rw [hr'] at hstored
    exact hstored

/-! ## Up to the repair -/

/-- The id of the incident that the scenario makes. -/
def scenarioId (env : Env) (w : World) : String := "inc_" ++ hexPrefix 12 (env.uuid (w.tick + 1))

/-- The idempotency key of the rollback that the planner plans for it. -/
def scenarioKey (env : Env) (w : World) : String :=
  scenarioId env w ++ ":" ++ "rollback:checkout-r42"

/-- An incident of the scenario. -/
structure OfScenario (cfg : Settings) (env : Env) (w : World) (state : IncidentState)
    (r : IncidentRecord) : Prop where
  incidentId : r.incidentId = scenarioId env w
  service : r.metadata.service = "checkout-service"
  resource : r.metadata.resource = "checkout-service"
  symptom : isIn "deployment" (cfg.text.lower r.metadata.symptom) = true
  state : r.state = state

theorem OfScenario.congr {state state' : IncidentState} {r' : IncidentRecord}
    (h : OfScenario cfg env w state r) (hid : r'.incidentId = r.incidentId)
    (hmetadata : r'.metadata = r.metadata) (hstate : r'.state = state') :
    OfScenario cfg env w state' r' :=
  ⟨hid.trans h.incidentId, by rw [hmetadata, h.service], by rw [hmetadata, h.resource],
    by rw [hmetadata, h.symptom], hstate⟩

/-- What the scenario ingests. -/
theorem normalize_scenario (ht : cfg.text.Standard) (w : World) :
    RunsIn env mode (normalize cfg scenarioPayload) w fun res v ↦
      ∃ r, res = .ok r ∧ v = { w with tick := w.tick + 4 } ∧ OfScenario cfg env w .open r := by
  have hlower {s : String} (hs : (s.toList.all fun c ↦ decide (c.toNat < 128)) = true) :
      cfg.text.lower s = Text.ascii.lower s := ht.lower_ascii s (ascii_of_all hs)
  have hstrip {s : String} (hs : (s.toList.all fun c ↦ decide (c.toNat < 128)) = true) :
      cfg.text.strip s = Text.ascii.strip s := ht.strip_ascii s (ascii_of_all hs)
  have hservice : cfg.text.lower (cfg.text.strip "checkout-service") = "checkout-service" := by
    have hs : Text.ascii.strip "checkout-service" = "checkout-service" := by decide
    rw [hstrip (by decide), hs, hlower (by decide)]
    decide
  have hsymptom : isIn "deployment" (cfg.text.lower (cfg.text.strip scenarioPayload.symptom))
      = true := by
    have hs : Text.ascii.strip scenarioPayload.symptom = scenarioPayload.symptom := by
      decide +kernel
    rw [hstrip (by decide +kernel), hs, hlower (by decide +kernel)]
    decide +kernel
  exact ⟨_, rfl, rfl, rfl, hservice, hservice, hsymptom, rfl⟩

/-- The rollback that the planner plans for the scenario, made a real one. -/
structure IsRepair (cfg : Settings) (env : Env) (w : World) (action : ActionRequest) : Prop where
  actionType : action.actionType = .rollbackDeployment
  target : action.target = "checkout-service"
  parameters : action.parameters = [("service", .str "checkout-service"),
    ("deployment", .str "checkout-service"), ("to_revision", .str "checkout-r42")]
  idempotencyKey : action.idempotencyKey = scenarioKey env w
  dryRun : action.dryRun = false

/-- The stub plan. -/
theorem planRemediation_scenario (hstub : cfg.agenticEnabled = false) {state : IncidentState}
    {u : World} (h : OfScenario cfg env u state r) :
    (planRemediation cfg r).Yields fun a ↦ a.1 = r.withConfidence (92 / 100) ∧
      ∃ action, a.2.actions = [action] ∧ IsRepair cfg env u { action with dryRun := false } := by
  have hservice : (r.withConfidence (92 / 100)).metadata.service = "checkout-service" := h.service
  have hsymptom : isIn "deployment"
      (cfg.text.lower (r.withConfidence (92 / 100)).metadata.symptom) = true := h.symptom
  have hcheckout : ((r.withConfidence (92 / 100)).metadata.service == "checkout-service" &&
      isIn "deployment" (cfg.text.lower (r.withConfidence (92 / 100)).metadata.symptom))
        = true := by
    rw [hservice, hsymptom]
    rfl
  rw [planRemediation, hstub, Bool.not_false, if_pos rfl, stubGraph, stubActions, if_pos hcheckout]
  refine yields_perform_bind.mpr fun hex ↦ Prog.Yields.rest fun steps ↦ ?_
  refine ⟨rfl, _, rfl, rfl, h.resource, ?_, ?_, rfl⟩
  · exact congrArg (fun service ↦ [("service", Value.str service), _, _]) h.service
  · exact congrArg (· ++ ":" ++ "rollback:checkout-r42") h.incidentId

theorem planRemediation_runs (hstub : cfg.agenticEnabled = false) {u : World}
    (h : OfScenario cfg env u .investigating r) (w : World) :
    RunsIn env mode (planRemediation cfg r) w fun res v ↦ SameKeys w v ∧ v.rows = w.rows ∧
      ∃ graph action, res = .ok (r.withConfidence (92 / 100), graph) ∧ graph.actions = [action] ∧
        IsRepair cfg env u { action with dryRun := false } := by
  have hstubbed : planRemediation cfg r = stubGraph cfg r := by
    rw [planRemediation, hstub]
    rfl
  have hissues : (planRemediation cfg r).Issues Op.ofAgent := hstubbed ▸ stubGraph_issues cfg r
  have htotal : (planRemediation cfg r).Total := hstubbed ▸ stubGraph_total cfg r
  have hkeys : SameKeys w ((planRemediation cfg r).run (serve env mode) w).2 :=
    run_sameKeys (step_issues (agent_issues hissues)) w
  have hrows : ((planRemediation cfg r).run (serve env mode) w).2.rows = w.rows :=
    hissues.run (I := fun v ↦ v.rows = w.rows)
      (fun v o ho h ↦ (serve_rows (by cases o <;> first | rfl | exact ho.elim)).trans h) w rfl
  obtain ⟨⟨r', graph⟩, v, hrun⟩ := htotal.run (serve env mode) w
  rw [RunsIn, Prog.Runs]
  rw [hrun] at hkeys hrows ⊢
  obtain ⟨hr', action, hactions, hrepair⟩ := (planRemediation_scenario hstub h).run hrun
  refine ⟨hkeys, hrows, graph, action, ?_, hactions, hrepair⟩
  exact congrArg (fun r ↦ Except.ok (r, graph)) hr'

/-- A new incident. -/
theorem upsert_new (hr : w.stored r.incidentId = none) :
    RunsIn env mode (upsert r) w fun res v ↦ SameKeys w v ∧
      ∃ updatedAt, res = .ok { r with updatedAt } ∧
        v.stored r.incidentId = some { r with updatedAt } := by
  have hrun : (upsert r).run (serve env mode) w
      = (.ok { r with updatedAt := env.now (w.tick + 1) },
        ({ w with tick := w.tick + 3 } : World).written
          { r with updatedAt := env.now (w.tick + 1) }) := by
    rw [upsert, run_perform_bind, serve_previous, hr]
    rfl
  rw [RunsIn, Prog.Runs, hrun]
  exact ⟨⟨rfl, rfl⟩, _, rfl, (World.stored_written _ _ _).trans (if_pos rfl)⟩

/-- The scenario up to its plan. -/
theorem planScenario_runs (hstub : cfg.agenticEnabled = false)
    (hlinear : cfg.routerDecisionLoopEnabled = false) (hcollect : CollectorsAnswer env)
    (ht : cfg.text.Standard) {w : World} (hfresh : w.stored (scenarioId env w) = none) :
    RunsIn env mode (planScenario cfg) w fun res v ↦ SameKeys w v ∧
      ∃ r action, res = .ok (r, action) ∧ OfScenario cfg env w .waitingApproval r ∧
        v.stored r.incidentId = some r ∧ IsRepair cfg env w action := by
  refine Prog.Runs.bind (normalize_scenario ht w) ?_ ?_
  swap
  · rintro e v ⟨r, h, -⟩
    cases h
  rintro r _ ⟨_, ⟨⟩, rfl, hr⟩
  have hnew : ({ w with tick := w.tick + 4 } : World).stored r.incidentId = none := by
    rw [hr.incidentId]
    exact hfresh
  refine Prog.Runs.bind (upsert_new hnew) ?_ ?_
  swap
  · rintro e v ⟨-, updatedAt, h, -⟩
    cases h
  rintro _ v₁ ⟨hkeys₁, updatedAt, ⟨⟩, hstored₁⟩
  refine RunsIn.audit ?_
  refine Prog.Runs.bind (executeRoute_runs hstub hlinear hcollect false hstored₁) ?_ ?_
  swap
  · rintro e v ⟨-, r', h, -⟩
    cases h
  rintro r₂ v₂ ⟨hkeys₂, _, ⟨⟩, hsame₂, hstored₂⟩
  have hr₂ : OfScenario cfg env w .investigating r₂ :=
    hr.congr hsame₂.incidentId hsame₂.metadata hsame₂.state
  refine Prog.Runs.bind (planRemediation_runs hstub hr₂ v₂) ?_ ?_
  swap
  · rintro e v ⟨-, -, graph, action, h, -⟩
    cases h
  rintro ⟨r₃, graph⟩ v₃ ⟨hkeys₃, hrows₃, _, action, ⟨⟩, hactions, hrepair⟩
  have hplanned : v₃.stored (withScenarioPlan (r₂.withConfidence (92 / 100)) graph).incidentId
      = some r₂ := (World.stored_congr hrows₃ _).trans hstored₂
  refine Prog.Runs.bind (save_allowed hplanned ?_) ?_ ?_
  · rw [hr₂.state]
    rfl
  swap
  · rintro e v ⟨-, r', h, -⟩
    cases h
  rintro r₄ v₄ ⟨hkeys₄, _, ⟨⟩, ⟨updatedAt₄, version, hr₄⟩, hstored₄⟩
  have hkeys : SameKeys w v₄ :=
    ⟨hkeys₄.1.trans (hkeys₃.1.trans (hkeys₂.1.trans hkeys₁.1)),
      hkeys₄.2.trans (hkeys₃.2.trans (hkeys₂.2.trans hkeys₁.2))⟩
  rw [hactions]
  refine ⟨hkeys, r₄, _, rfl, ?_, hstored₄, hrepair⟩
  rw [hr₄]
  exact hr₂.congr rfl rfl rfl

/-- Fifteen minutes from now there are datetimes. -/
def ClockInRange (env : Env) : Prop :=
  ∀ n, inDatetimeRange (env.now n + 15 * 60 * 1000000) = true

/-- The approval that the scenario gives itself. -/
theorem approveScenario_runs (hclock : ClockInRange env) {u : World} {action : ActionRequest}
    (h : OfScenario cfg env u .waitingApproval r) (hr : w.stored r.incidentId = some r) :
    RunsIn env mode (approveScenario r action) w fun res v ↦ SameKeys w v ∧
      ∃ r' approval, res = .ok (r', approval) ∧ OfScenario cfg env u .planned r' ∧
        v.stored r'.incidentId = some r' := by
  refine RunsIn.perform (RunsIn.perform (RunsIn.perform ?_))
  refine RunsIn.require (fun hfalse ↦ ?_) fun _ ↦ RunsIn.perform ?_
  · rw [serve_utcnow, hclock] at hfalse
    cases hfalse
  refine Prog.Runs.bind (save_allowed (b := r) hr ?_) ?_ ?_
  · rw [h.state]
    rfl
  swap
  · rintro e v ⟨-, r', h, -⟩
    cases h
  rintro r' v ⟨hkeys, _, ⟨⟩, ⟨updatedAt, version, hr'⟩, hstored⟩
  refine RunsIn.audit ⟨hkeys, r', _, rfl, ?_, hstored⟩
  rw [hr']
  exact h.congr rfl rfl rfl

/-! ## The repair -/

theorem canRun_repair (s : AdapterSettings) {u : World} {action : ActionRequest}
    (h : IsRepair cfg env u action) : canRun s action = true := by
  rw [canRun, TypedActionAdapterRegistry.invalidFields, h.actionType, h.parameters]
  rfl

variable {s : AdapterSettings} {net : Network}

/-- The rollback and its verification, from an incident that is planned. -/
theorem repairScenario_site (hlocal : cfg.executionMode = "local") (hnet : net.Reliable)
    {u : World} {action : ActionRequest} (hrepair : IsRepair cfg env u action) {site : Site}
    (hclaim : site.world.claimAnswer env action.idempotencyKey action.actionId = .ok true)
    (h : OfScenario cfg env u .planned r) (hr : site.world.stored r.incidentId = some r) :
    SiteRuns cfg s env net mode (repairScenario r action) site fun res later ↦
      ∃ r', res = .ok (r', later.workload.asdict) ∧ OfScenario cfg env u .resolved r' ∧
        later.world.stored r'.incidentId = some r' ∧ ¬ FaultOpen later.served := by
  refine SiteRuns.newTraceEntry fun entry ↦ SiteRuns.assign ?_
  let r₁ : IncidentRecord := { r with state := .executing }.withTrace entry
  let w₁ : World := { site.world with tick := site.world.tick + 3 }
  have hr₁ : (w₁.touched mode r₁).stored r.incidentId = some (visible mode r r₁) :=
    @World.stored_assigned mode w₁ r r r₁ (by cases mode <;> exact hr)
  have hclaimed : (w₁.touched mode r₁).claimAnswer env action.idempotencyKey action.actionId
      = .ok true :=
    (World.claimAnswer_touched w₁ r₁ _ _).trans ((World.claimAnswer_tick env site.world _ _ _).trans
      hclaim)
  have hscale : action.actionType ≠ .scaleWorkload := by
    rw [hrepair.actionType]
    exact ActionType.noConfusion
  refine SiteRuns.bind
    (executionAgentRun_site hlocal hrepair.dryRun { site with world := w₁.touched mode r₁ }) ?_ ?_
  swap
  · rintro e later ⟨-, hcarried⟩
    rw [hclaimed] at hcarried
    exact absurd rfl (hcarried.returns hnet hscale rfl)
  rintro result middle ⟨hrows, hcarried⟩
  rw [hclaimed] at hcarried
  -- The service has carried the rollback out.
  have hsuccess : result.success = true := by
    rcases hcarried.reliable hnet _ rfl with ⟨-, h⟩ | ⟨h, -⟩
    · exact h.trans (canRun_repair s hrepair)
    · cases h
  have hfixed : ¬ FaultOpen middle.served := by
    rw [resultSuccess, hsuccess] at hcarried
    exact hcarried.faultOpen_iff.mpr (Or.inr ⟨rfl, hrepair.actionType⟩)
  refine SiteRuns.verifyRecovery fun answer verified hworld hserved hverdict hanswer ↦ ?_
  obtain ⟨⟨recovered, metrics⟩, rfl⟩ := hanswer hnet
  obtain ⟨verifications, tick, hworld⟩ := hworld
  obtain ⟨requests, hserved, hmetrics⟩ := hserved
  have hopen : ¬ FaultOpen verified.served := by
    rw [hserved, faultOpen_append]
    rintro (⟨earlier, further, rfl, -⟩ | ⟨h, -⟩)
    · exact absurd (hmetrics .injectDeploymentRegression (by simp)) CheckoutRequest.noConfusion
    · exact hfixed h
  obtain ⟨hrecovered, rfl⟩ := hverdict recovered metrics rfl
  replace hrecovered := hrecovered.mpr hopen
  refine SiteRuns.newTraceEntry fun entry' ↦ ?_
  -- The record is planned where assignments are not stored, and executing where they are.
  have hstored : ({ verified.world with tick := verified.world.tick + 2 } : World).stored
      (withRepair r₁ result recovered entry').incidentId = some (visible mode r r₁) := by
    rw [hworld]
    exact (World.stored_congr hrows _).trans hr₁
  have hallowed : transitionAllowed (visible mode r r₁).state
      (withRepair r₁ result recovered entry').state = true := by
    rw [withRepair, hsuccess, hrecovered]
    cases mode
    · exact (congrArg (transitionAllowed · .resolved) h.state).trans rfl
    · rfl
  refine SiteRuns.bind (SiteRuns.inward (save_inward _) (save_allowed hstored hallowed)) ?_ ?_
  swap
  · rintro e later ⟨⟨-, r', h, -⟩, -⟩
    cases h
  rintro r₂ later ⟨⟨-, _, ⟨⟩, ⟨updatedAt, version, hr₂⟩, hfinal⟩, hlater, -⟩
  have hworkload : verified.workload = later.workload :=
    congrArg (CheckoutState.after {}) hlater.symm
  rw [hworkload]
  refine SiteRuns.perform trivial ⟨r₂, rfl, ?_, hfinal, ?_⟩
  · rw [hr₂]
    refine h.congr rfl rfl ?_
    change (if (result.success && recovered) = true then _ else _) = _
    rw [hsuccess, hrecovered]
    rfl
  · change ¬ FaultOpen later.served
    rwa [hlater]

/-! ## The whole scenario -/

theorem planScenario_inward (cfg : Settings) : (planScenario cfg).Issues Op.inward := by
  have hnormalize : (normalize cfg scenarioPayload).Issues Op.inward :=
    issues_perform_bind.mpr ⟨trivial, fun _ ↦ issues_perform_bind.mpr ⟨trivial, fun _ ↦
      issues_perform_bind.mpr ⟨trivial, fun _ ↦ issues_perform_bind.mpr ⟨trivial, fun _ ↦
      trivial⟩⟩⟩⟩
  refine issues_bind hnormalize fun r ↦
    issues_bind ((upsert_issues r).mono fun _ ↦ Op.ofStep.inward) fun r ↦
    issues_perform_bind.mpr ⟨trivial, fun _ ↦
    issues_bind ((executeRoute_issues cfg false r).mono fun _ ↦ Op.ofRoute.inward) fun r ↦
    issues_bind ((planRemediation_issues cfg r).mono fun _ ↦ Op.ofStep.inward) fun planned ↦
    issues_bind (save_inward _) fun _ ↦ issues_bind (orHttp_inward _ _ _) fun _ ↦ trivial⟩

theorem approveScenario_inward (r : IncidentRecord) (action : ActionRequest) :
    (approveScenario r action).Issues Op.inward := by
  refine issues_perform_bind.mpr ⟨trivial, fun _ ↦ issues_perform_bind.mpr ⟨trivial, fun _ ↦
    issues_perform_bind.mpr ⟨trivial, fun _ ↦ issues_bind ?_ fun _ ↦
    issues_perform_bind.mpr ⟨trivial, fun _ ↦ issues_bind (save_inward _) fun _ ↦
    issues_perform_bind.mpr ⟨trivial, fun _ ↦ trivial⟩⟩⟩⟩⟩
  rw [require]
  split_ifs <;> trivial

/-- The scenario from the broken service on. -/
theorem resolveScenario_site (hstub : cfg.agenticEnabled = false)
    (hlinear : cfg.routerDecisionLoopEnabled = false) (hlocal : cfg.executionMode = "local")
    (hcollect : CollectorsAnswer env) (hclock : ClockInRange env) (ht : cfg.text.Standard)
    (hnet : net.Reliable) {site : Site}
    (hfresh : site.world.stored (scenarioId env site.world) = none)
    (hclaim : ∀ actionId, site.world.claimAnswer env (scenarioKey env site.world) actionId
      = .ok true) :
    SiteRuns cfg s env net mode (resolveScenario cfg) site fun res later ↦
      ∃ r approval, res = .ok (r, approval, later.workload.asdict) ∧
        OfScenario cfg env site.world .resolved r ∧
        later.world.stored r.incidentId = some r ∧ ¬ FaultOpen later.served := by
  refine SiteRuns.bind (SiteRuns.inward (planScenario_inward cfg)
    (planScenario_runs hstub hlinear hcollect ht hfresh)) ?_ ?_
  swap
  · rintro e later ⟨⟨-, r, action, h, -⟩, -⟩
    cases h
  rintro _ planned ⟨⟨hkeys₁, r₁, action, ⟨⟩, hr₁, hstored₁, hrepair⟩, -⟩
  refine SiteRuns.bind (SiteRuns.inward (approveScenario_inward r₁ action)
    (approveScenario_runs hclock hr₁ hstored₁)) ?_ ?_
  swap
  · rintro e later ⟨⟨-, r, approval, h, -⟩, -⟩
    cases h
  rintro _ approved ⟨⟨hkeys₂, r₂, approval, ⟨⟩, hr₂, hstored₂⟩, -⟩
  have hkeys : SameKeys site.world approved.world :=
    ⟨hkeys₂.1.trans hkeys₁.1, hkeys₂.2.trans hkeys₁.2⟩
  have hclaimed : approved.world.claimAnswer env action.idempotencyKey action.actionId
      = .ok true := by
    rw [hkeys.claimAnswer, hrepair.idempotencyKey]
    exact hclaim action.actionId
  refine SiteRuns.bind (repairScenario_site hlocal hnet hrepair hclaimed hr₂ hstored₂) ?_ ?_
  swap
  · rintro e later ⟨r, h, -⟩
    cases h
  rintro _ later ⟨r₃, ⟨⟩, hr₃, hstored₃, hfault⟩
  exact ⟨r₃, approval, rfl, hr₃, hstored₃, hfault⟩

theorem request_reliable (hnet : net.Reliable) (site : Site) (request : CheckoutRequest) :
    site.request net request =
      (Delivery.arrives.send site.workload request,
        { site with served := site.served ++ [request], sent := site.sent + 1 }) := by
  rw [Site.request, hnet.deliver]
  rfl

/-- **The scenario ends well.** With the agents in stub mode and a linear route, over a reliable
network, collectors that answer and an id and an idempotency key that are new, the scenario returns
from any site. Its incident is stored as resolved, no fault is open, and the metrics it returns are
those of the checkout service. -/
theorem scenario_resolves (hstub : cfg.agenticEnabled = false)
    (hlinear : cfg.routerDecisionLoopEnabled = false) (hlocal : cfg.executionMode = "local")
    (hcollect : CollectorsAnswer env) (hclock : ClockInRange env) (ht : cfg.text.Standard)
    (hnet : net.Reliable) {site : Site}
    (hfresh : site.world.stored (scenarioId env site.world) = none)
    (hclaim : ∀ actionId, site.world.claimAnswer env (scenarioKey env site.world) actionId
      = .ok true) :
    (runCheckoutDeploymentFailure cfg s).Runs (serveSite cfg.text env net mode) site
      fun res later ↦ ∃ r approval, res = .ok (r, approval, later.workload.asdict) ∧
        r.incidentId = scenarioId env site.world ∧ r.state = .resolved ∧
        later.world.stored r.incidentId = some r ∧ ¬ FaultOpen later.served := by
  -- Before the platform comes in, the service is rolled back and broken.
  let broken : Site := { site with
    served := site.served ++ [.rollback "checkout-r42"] ++ [.injectDeploymentRegression]
    sent := site.sent + 1 + 1 }
  have hrun : (runCheckoutDeploymentFailure cfg s).run (serveSite cfg.text env net mode) site
      = (deployed cfg s (resolveScenario cfg)).run (serveSite cfg.text env net mode) broken := by
    let rolledBack : Site := { site with
      served := site.served ++ [.rollback "checkout-r42"]
      sent := site.sent + 1 }
    change (callCheckout (site.request net (.rollback "checkout-r42")).1 >>= fun _ ↦
      Prog.op EdgeOp.injectDeploymentFailure >>= fun answer ↦ callCheckout answer >>= fun _ ↦
      deployed cfg s (resolveScenario cfg)).run (serveSite cfg.text env net mode)
        (site.request net (.rollback "checkout-r42")).2 = _
    rw [request_reliable hnet]
    change (callCheckout (rolledBack.request net .injectDeploymentRegression).1 >>= fun _ ↦
      deployed cfg s (resolveScenario cfg)).run (serveSite cfg.text env net mode)
        (rolledBack.request net .injectDeploymentRegression).2 = _
    rw [request_reliable hnet]
    rfl
  have hresolves : SiteRuns cfg s env net mode (resolveScenario cfg) broken _ :=
    resolveScenario_site hstub hlinear hlocal hcollect hclock ht hnet hfresh hclaim
  rw [SiteRuns, Prog.Runs, ← hrun] at hresolves
  obtain ⟨r, approval, hres, hr, hstored, hfault⟩ := hresolves
  exact ⟨r, approval, hres, hr.incidentId, hr.state, hstored, hfault⟩

end

/-- The demo, at a fixed time. -/
def Env.demoAt : Env := { Env.demo with now := fun _ ↦ 1700000000000000 }

/-- The scenario at a new site. -/
def demoScenario : Except Exc (IncidentRecord × ApprovalRecord × Dict) × Site :=
  (runCheckoutDeploymentFailure Settings.demo AdapterSettings.demo).run
    (serveSite Text.ascii Env.demoAt Network.demo .postgres) {}

theorem demoScenario_resolves :
    (demoScenario.2.world.stored (scenarioId Env.demoAt {})).map IncidentRecord.state
      = some .resolved := by
  have htime : inDatetimeRange (1700000000000000 + 15 * 60 * 1000000) = true := by decide +kernel
  obtain ⟨r, approval, -, hid, hstate, hstored, -⟩ := @scenario_resolves Settings.demo Env.demoAt
    .postgres AdapterSettings.demo Network.demo rfl rfl rfl (fun _ ↦ ⟨_, rfl⟩) (fun _ ↦ htime)
    Text.ascii_standard Network.reliable_demo {} rfl fun _ ↦ rfl
  have hr : demoScenario.2.world.stored (scenarioId Env.demoAt {}) = some r := hid ▸ hstored
  rw [hr, Option.map_some, hstate]

end IncidentPlatform
