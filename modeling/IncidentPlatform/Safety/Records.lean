import IncidentPlatform.Api.Runs
import IncidentPlatform.Safety.Swallowed
import IncidentPlatform.Workflow.Upkeep

/-!
# Records stay well kept

Handlers that interleave lose updates and grant approvals to plans that are no longer there. They
do not spoil a record as such: in every interleaving the stored records are well kept,
**`records_wellKept`**. A handler needs nothing for it but that what it reads is well kept, so one
lemma for each handler is enough, and the schedule does not matter.
-/

namespace IncidentPlatform

open Interaction

/-! ## The handlers -/

/-- The parameters of an action that was planned. -/
def PlannedParameters (cfg : Settings) (action : ActionRequest) : Prop :=
  (∃ service, action.parameters = [("service", .str service)]) ∨ cfg.plansWithStub = true

/-- The actions that a call can hand to the adapters. -/
def Call.acts (cfg : Settings) : Call → ActionRequest → Prop
  | executeAction _ _, _ => True
  | _, action => PlannedParameters cfg action

section

variable {cfg : Settings} {Act : ActionRequest → Prop} {r : IncidentRecord} {α : Type}

theorem WellKept.withBlocked (h : WellKept cfg r) (actionType : ActionType) :
    WellKept cfg (withBlocked r actionType) := by
  rw [IncidentPlatform.withBlocked]
  split_ifs with hmem
  · exact h
  · exact { h with blockedActions := nodup_append_singleton hmem h.blockedActions }

theorem orHttp_upkeep (a : Option α) (status : ℕ) (detail : String) :
    Upkeep cfg Act (orHttp a status detail) fun x ↦ a = some x := by
  cases a with
  | some x => exact rfl
  | none => trivial

theorem ensure_upkeep (b : Bool) (status : ℕ) (detail : String) :
    Upkeep cfg Act (ensure b status detail) fun _ ↦ True := Upkeep.require _ _

/-- The record that is looked up, or a 404. -/
theorem getOrHttp_upkeep {β : Type} {R : β → Prop} (incidentId : String) (status : ℕ)
    (detail : String) {f : IncidentRecord → Handler β}
    (hf : ∀ r, WellKept cfg r → Upkeep cfg Act (f r) R) :
    Upkeep cfg Act (do
      let r ← orHttp (← perform (.get incidentId)) status detail
      f r) R :=
  Upkeep.perform_bind trivial fun answer _ hread ↦
    Prog.Given.bind (orHttp_upkeep answer status detail) fun r hr ↦ hf r (hread r hr)

theorem discard_upkeep {p : Handler α} {R : α → Prop} (h : Upkeep cfg Act p R) :
    Upkeep cfg Act (discard p) fun _ ↦ True :=
  Prog.Given.bind h fun _ _ ↦ trivial

/-- A new record. -/
theorem normalize_upkeep (payload : IngestPayload) :
    Upkeep cfg Act (normalize cfg payload) (WellKept cfg) := by
  refine Upkeep.perform_bind trivial fun _ _ _ ↦ Upkeep.perform_bind trivial fun _ _ _ ↦
    Upkeep.perform_bind trivial fun _ _ _ ↦ Upkeep.perform_bind trivial fun _ _ _ ↦ ?_
  exact
    { toolsUsed := List.nodup_nil
      blockedActions := List.nodup_nil
      agentPath := ⟨List.nodup_nil, List.nil_subset _⟩
      evidence := fun _ h ↦ absurd h List.not_mem_nil
      links := fun _ h ↦ absurd h List.not_mem_nil
      confidence := ⟨le_rfl, zero_le_one⟩
      coverage := ⟨le_rfl, zero_le_one⟩
      plan := fun _ h ↦ by cases h
      iteration := Nat.zero_le _
      decisions := fun _ h ↦ absurd h List.not_mem_nil
      latest := rfl
      pending := fun _ h ↦ by cases h }

theorem existingIncident_upkeep (dedupeKey : String) :
    Upkeep cfg Act (existingIncident dedupeKey) (WellKept cfg) :=
  Upkeep.perform_bind trivial fun answer _ hread ↦
    (orHttp_upkeep answer 409 "duplicate incident").mono hread

theorem ingest_upkeep (payload : IngestPayload) :
    Upkeep cfg Act (ingest cfg payload) fun _ ↦ True := by
  refine Prog.Given.bind (normalize_upkeep payload) fun r hr ↦
    Upkeep.perform_bind trivial fun firstSeen _ _ ↦ ?_
  split_ifs
  · exact (upsert_upkeep hr).mono fun _ _ ↦ trivial
  · exact (existingIncident_upkeep _).mono fun _ _ ↦ trivial

theorem createAlert_upkeep (payload : IngestPayload) (requestId : String) :
    Upkeep cfg Act (createAlert cfg payload requestId) fun _ ↦ True := by
  refine Prog.Given.bind (normalize_upkeep payload) fun r hr ↦
    Upkeep.perform_bind trivial fun firstSeen _ _ ↦ ?_
  split_ifs
  · exact Prog.Given.bind (upsert_upkeep hr) fun _ _ ↦
      Upkeep.perform_bind trivial fun _ _ _ ↦ trivial
  · exact Prog.Given.bind (existingIncident_upkeep _) fun _ _ ↦
      Upkeep.perform_bind trivial fun _ _ _ ↦ trivial

theorem routeLocked_upkeep (incidentId : String) (h : WellKept cfg r) :
    Upkeep cfg Act (routeLocked cfg incidentId r) fun _ ↦ True :=
  Prog.Given.bind (executeRoute_upkeep false h) fun updated _ ↦
    Prog.Given.bind (orHttp_upkeep updated.responsePlan _ _) fun _ _ ↦
      Upkeep.perform_bind trivial fun _ _ _ ↦ trivial

theorem routeIncident_upkeep (incidentId : String) :
    Upkeep cfg Act (routeIncident cfg incidentId) fun _ ↦ True := by
  refine Upkeep.perform_bind trivial fun hex _ _ ↦ Upkeep.perform_bind trivial fun acquired _ _ ↦
    Prog.Given.bind (ensure_upkeep acquired _ _) fun _ _ ↦
      Upkeep.perform_bind trivial fun found _ hread ↦ ?_
  cases found with
  | none => exact Upkeep.perform_bind trivial fun _ _ _ ↦ trivial
  | some r =>
    exact Prog.Given.cleanup (Upkeep.perform_bind trivial fun _ _ _ ↦ trivial)
      (routeLocked_upkeep incidentId (hread r rfl))

theorem processIncident_upkeep (incidentId : String) :
    Upkeep cfg Act (processIncident cfg incidentId) fun _ ↦ True := by
  refine Upkeep.perform_bind trivial fun found _ hread ↦ ?_
  cases found with
  | none => exact ⟨trivial, fun _ _ ↦ trivial⟩
  | some r =>
    exact Prog.Given.bind (executeRoute_upkeep true (hread r rfl)) fun _ _ ↦
      ⟨trivial, fun _ _ ↦ trivial⟩

theorem createPlan_upkeep (incidentId : String) :
    Upkeep cfg Act (createPlan cfg incidentId) fun _ ↦ True := by
  refine getOrHttp_upkeep incidentId _ _ fun r hr ↦
    Prog.Given.bind (planRemediation_upkeep hr) fun planned hplanned ↦ ?_
  obtain ⟨htended, hactions⟩ := hplanned
  have hpending : WellKept cfg (withPlan planned.1 planned.2) :=
    { htended.kept with
      pending := fun graph hgraph ↦ by
        rw [← Option.mem_some.mp hgraph]
        exact htended.metadata ▸ hactions }
  exact Prog.Given.bind (save_upkeep hpending) fun _ _ ↦
    Upkeep.perform_bind trivial fun _ _ _ ↦ trivial

theorem investigateIncident_upkeep (incidentId : String) :
    Upkeep cfg Act (investigateIncident cfg incidentId) fun _ ↦ True :=
  Prog.Given.bind (routeIncident_upkeep incidentId) fun _ _ ↦
    Prog.Given.bind (createPlan_upkeep incidentId) fun _ _ ↦
      Upkeep.perform_bind trivial fun answer _ _ ↦
        (orHttp_upkeep answer _ _).mono fun _ _ ↦ trivial

theorem recordApproval_upkeep (incidentId : String) (payload : ApprovalPayload) :
    Upkeep cfg Act (recordApproval incidentId payload) fun _ ↦ True := by
  refine getOrHttp_upkeep incidentId _ _ fun r hr ↦
    Prog.Given.bind (ensure_upkeep _ _ _) fun _ _ ↦ Prog.Given.bind (ensure_upkeep _ _ _) fun _ _ ↦
      Upkeep.perform_bind trivial fun _ _ _ ↦ Upkeep.perform_bind trivial fun _ _ _ ↦
        Upkeep.perform_bind trivial fun _ _ _ ↦ Prog.Given.bind (Upkeep.require _ _) fun _ _ ↦
          Upkeep.perform_bind trivial fun _ _ _ ↦ ?_
  refine Prog.Given.bind (save_upkeep ?_) fun _ _ ↦ Upkeep.perform_bind trivial fun _ _ _ ↦ trivial
  exact { hr with }

theorem approveIncident_upkeep (incidentId : String) (payload : IncidentApprovalPayload) :
    Upkeep cfg Act (approveIncident incidentId payload) fun _ ↦ True :=
  getOrHttp_upkeep incidentId _ _ fun _ _ ↦ Prog.Given.bind (orHttp_upkeep _ _ _) fun _ _ ↦
    recordApproval_upkeep incidentId _

/-! ### Execution -/

theorem blockInvestigateOnly_upkeep (incidentId : String) (payload : ExecutePayload)
    (h : WellKept cfg r) :
    Upkeep cfg Act (blockInvestigateOnly cfg incidentId r payload) fun _ ↦ True := by
  rw [blockInvestigateOnly]
  cases investigateOnlyBlock cfg r with
  | none => trivial
  | some decision =>
    exact Upkeep.perform_bind trivial fun _ _ _ ↦
      Prog.Given.bind (save_upkeep (h.withBlocked _)) fun _ _ ↦ trivial

theorem blockDenied_upkeep (incidentId : String) (payload : ExecutePayload)
    (decision : PolicyDecision) (h : WellKept cfg r) :
    Upkeep cfg Act (blockDenied incidentId r payload decision) fun _ ↦ True := by
  rw [blockDenied]
  split_ifs
  · trivial
  · exact Prog.Given.bind (save_upkeep (h.withBlocked _)) fun _ _ ↦
      Upkeep.perform_bind trivial fun _ _ _ ↦ trivial

theorem checkApproval_upkeep (r : IncidentRecord) (payload : ExecutePayload) :
    Upkeep cfg Act (checkApproval r payload) fun _ ↦ True := by
  refine Prog.Given.bind (orHttp_upkeep _ _ _) fun _ _ ↦
    Prog.Given.bind (orHttp_upkeep _ _ _) fun approval _ ↦
      Prog.Given.bind (ensure_upkeep _ _ _) fun _ _ ↦ Upkeep.perform_bind trivial fun _ _ _ ↦
        Prog.Given.bind (ensure_upkeep _ _ _) fun _ _ ↦
          Prog.Given.bind (orHttp_upkeep _ _ _) fun _ _ ↦
            Prog.Given.bind (ensure_upkeep _ _ _) fun _ _ ↦
              Prog.Given.bind (ensure_upkeep _ _ _) fun _ _ ↦
                Prog.Given.bind (ensure_upkeep _ _ _) fun _ _ ↦ trivial

theorem acceptApproval_upkeep (r : IncidentRecord) (payload : ExecutePayload)
    (decision : PolicyDecision) :
    Upkeep cfg Act (acceptApproval r payload decision) fun _ ↦ True := by
  rw [acceptApproval]
  split_ifs
  · exact Prog.Given.bind (checkApproval_upkeep r payload) fun _ _ ↦ ⟨trivial, fun _ _ ↦ trivial⟩
  · trivial

theorem authorize_upkeep (incidentId : String) (payload : ExecutePayload) :
    Upkeep cfg Act (authorize cfg incidentId payload) fun g ↦ WellKept cfg g.incident := by
  refine getOrHttp_upkeep incidentId _ _ fun r hr ↦ Prog.Given.bind (orHttp_upkeep _ _ _) fun _ _ ↦
    Prog.Given.bind (ensure_upkeep _ _ _) fun _ _ ↦
      Prog.Given.bind (blockInvestigateOnly_upkeep incidentId payload hr) fun _ _ ↦
        Prog.Given.bind (ensure_upkeep _ _ _) fun _ _ ↦ ?_
  refine Upkeep.perform_bind trivial fun _ _ _ ↦ Upkeep.perform_bind trivial fun _ _ _ ↦
    Prog.Given.bind (blockDenied_upkeep incidentId payload _ hr) fun _ _ ↦
      Prog.Given.bind (acceptApproval_upkeep r payload _) fun _ _ ↦ hr

theorem execute_upkeep {action : ActionRequest} (hact : Act action) :
    Upkeep cfg Act (execute action) fun _ ↦ True := by
  have hretries : Upkeep cfg Act (runWithRetries action defaultRetryLimit) fun _ ↦ True :=
    Prog.Given.of_issues ((runWithRetries_issues action _).mono fun o ho ↦ by
      rw [ho]
      exact hact) (Prog.Yields.true _)
  refine Upkeep.perform_bind trivial fun answer _ _ ↦ ?_
  rcases answer with f | granted | granted
  · trivial
  · trivial
  · exact Prog.Given.bind hretries fun _ _ ↦ Upkeep.perform_bind trivial fun _ _ _ ↦ trivial

theorem executionAgentRun_upkeep {action : ActionRequest} (hact : Act action) :
    Upkeep cfg Act (executionAgentRun action) fun _ ↦ True :=
  Upkeep.perform_bind trivial fun _ _ _ ↦ Prog.Given.bind (execute_upkeep hact) fun _ _ ↦
    Upkeep.perform_bind trivial fun _ _ _ ↦ trivial

theorem verifyActionRecovery_upkeep (action : ActionRequest) :
    Upkeep cfg Act (verifyActionRecovery cfg action) fun _ ↦ True := by
  rw [verifyActionRecovery]
  split_ifs
  · trivial
  · exact Upkeep.perform_bind trivial fun answer _ _ ↦
      Prog.Given.bind (Upkeep.orRaise answer) fun _ _ ↦ trivial
  · trivial

theorem newTraceEntry_upkeep (phase message : String) (actionId : Option String)
    (success : Option Bool) (replanRequested : Bool) :
    Upkeep cfg Act (newTraceEntry phase message actionId success replanRequested) fun _ ↦ True :=
  Upkeep.of_agent (newTraceEntry_issues _ _ _ _ _) (Prog.Yields.true _)

theorem verifyPerformed_upkeep (incidentId : String) (action : ActionRequest)
    (result : ActionResult) (h : WellKept cfg r) :
    Upkeep cfg Act (verifyPerformed cfg incidentId action r result) fun o ↦
      WellKept cfg o.incident := by
  rw [verifyPerformed]
  split_ifs
  · refine Prog.Given.bind (verifyActionRecovery_upkeep action) fun _ _ ↦
      Prog.Given.bind (newTraceEntry_upkeep _ _ _ _ _) fun entry _ ↦ ?_
    have htraced : WellKept cfg (r.withTrace entry) := { h with }
    exact Upkeep.perform_bind htraced fun _ _ _ ↦ Upkeep.perform_bind trivial fun _ _ _ ↦ htraced
  · exact h

theorem performAction_upkeep (incidentId : String) {action : ActionRequest} (hact : Act action)
    (h : WellKept cfg r) :
    Upkeep cfg Act (performAction cfg incidentId action r) fun o ↦ WellKept cfg o.incident := by
  refine Prog.Given.bind (newTraceEntry_upkeep _ _ _ _ _) fun entry _ ↦ ?_
  have hstarted : WellKept cfg ({ r with state := .executing }.withTrace entry) := { h with }
  refine Upkeep.perform_bind hstarted fun _ _ _ ↦
    Prog.Given.bind (executionAgentRun_upkeep hact) fun result _ ↦
      Prog.Given.bind (newTraceEntry_upkeep _ _ _ _ _) fun entry' _ ↦ ?_
  have hobserved : WellKept cfg ({ { r with state := .executing }.withTrace entry with
      executedActions := r.executedActions ++ [result] }.withTrace entry') := { h with }
  exact Upkeep.perform_bind hobserved fun _ _ _ ↦
    verifyPerformed_upkeep incidentId action result hobserved

theorem escalate_upkeep (incidentId : String) (payload : ExecutePayload) (g : Authorized)
    (success : Bool) : Upkeep cfg Act (escalate incidentId payload g success) fun _ ↦ True := by
  rw [escalate]
  split_ifs
  · exact ⟨trivial, fun _ _ ↦ trivial⟩
  · trivial

theorem recordOutcome_upkeep (incidentId : String) (payload : ExecutePayload) (g : Authorized)
    (dryRun : Bool) {o : Performed} (h : WellKept cfg o.incident) :
    Upkeep cfg Act (recordOutcome incidentId payload g dryRun o) fun _ ↦ True := by
  have hended : WellKept cfg (withOutcome o.incident dryRun o.result.success o.verified) :=
    { h with }
  exact Prog.Given.bind (save_upkeep hended) fun _ _ ↦ Upkeep.perform_bind trivial fun _ _ _ ↦
    Prog.Given.bind (escalate_upkeep incidentId payload g _) fun _ _ ↦ trivial

theorem executeAction_upkeep (incidentId : String) {payload : ExecutePayload}
    (hact : Act (runAction cfg payload)) :
    Upkeep cfg Act (executeAction cfg incidentId payload) fun _ ↦ True :=
  Prog.Given.bind (authorize_upkeep incidentId payload) fun g hg ↦
    Prog.Given.bind (performAction_upkeep incidentId hact hg) fun _ ho ↦
      recordOutcome_upkeep incidentId payload g _ ho

/-- The pending action of an incident has the parameters that the planner gave it. -/
theorem executeIncident_upkeep (incidentId : String) (payload : IncidentExecutePayload) :
    Upkeep cfg (PlannedParameters cfg) (executeIncident cfg incidentId payload) fun _ ↦ True := by
  refine getOrHttp_upkeep incidentId _ _ fun r hr ↦
    Prog.Given.bind (orHttp_upkeep _ _ _) fun graph hgraph ↦
      Prog.Given.bind (orHttp_upkeep _ _ _) fun action haction ↦ executeAction_upkeep incidentId ?_
  have hmem : action ∈ graph.actions := List.mem_of_find?_eq_some haction
  have hgraph' : graph ∈ r.pendingActionGraph := (Option.filter_eq_some_iff.mp hgraph).1
  have hpending := hr.pending graph hgraph' action hmem
  exact hpending.parameters.imp (fun h ↦ ⟨_, h⟩) And.left

/-- **Every handler keeps its records well.** -/
theorem Call.upkeep (cfg : Settings) (c : Call) :
    Upkeep cfg (c.acts cfg) (c.handler cfg) fun _ ↦ True := by
  cases c with
  | ingest payload => exact discard_upkeep (ingest_upkeep payload)
  | createAlert payload requestId => exact discard_upkeep (createAlert_upkeep payload requestId)
  | routeIncident incidentId => exact discard_upkeep (routeIncident_upkeep incidentId)
  | processIncident incidentId => exact processIncident_upkeep incidentId
  | createPlan incidentId => exact discard_upkeep (createPlan_upkeep incidentId)
  | investigateIncident incidentId => exact discard_upkeep (investigateIncident_upkeep incidentId)
  | recordApproval incidentId payload =>
    exact discard_upkeep (recordApproval_upkeep incidentId payload)
  | approveIncident incidentId payload =>
    exact discard_upkeep (approveIncident_upkeep incidentId payload)
  | executeAction incidentId payload =>
    exact discard_upkeep (executeAction_upkeep incidentId trivial)
  | executeIncident incidentId payload =>
    exact discard_upkeep (executeIncident_upkeep incidentId payload)

end

/-! ## The store -/

/-- The language model answers what its schemas admit. -/
structure Env.SchemaValid (env : Env) : Prop where
  evidence : ∀ n, ∀ items, env.evidence n = .ok items → ∀ item ∈ items, Score item.confidence
  change : ∀ n, ∀ out, env.change n = .ok out → Score out.confidence
  rca : ∀ n, ∀ hypotheses, env.rca n = .ok hypotheses → ∀ h ∈ hypotheses, Score h.confidence
  planner : ∀ n, ∀ out, env.planner n = .ok out → Score out.plannerConfidence
  router : ∀ n, ∀ out, env.router n = .ok out → Score out.decisionConfidence

/-- Every stored record is well kept. -/
def World.WellKept (cfg : Settings) (w : World) : Prop :=
  ∀ r ∈ w.rows, IncidentPlatform.WellKept cfg r

/-- What a handler that runs the actions `Act` relies on and promises. -/
def recordContract (cfg : Settings) : Contract Op Ans (ActionRequest → Prop) where
  guar Act o := WritesKept cfg Act o
  rely _ o a := SchemaValid o a ∧ ReadsKept cfg o a
  next Act _ _ := Act

section

variable {cfg : Settings} {env : Env} {mode : Mode} {w : World}

theorem Env.SchemaValid.serve (henv : env.SchemaValid) (w : World) (o : Op) :
    IncidentPlatform.SchemaValid o (serve env mode w o).1 := by
  cases o with
  | evidenceLLM r raw =>
    change IncidentPlatform.SchemaValid (.evidenceLLM r raw) (env.evidence w.tick)
    cases hanswer : env.evidence w.tick with
    | ok items => exact henv.evidence _ _ hanswer
    | error f => trivial
  | changeLLM r raw =>
    change IncidentPlatform.SchemaValid (.changeLLM r raw) (env.change w.tick)
    cases hanswer : env.change w.tick with
    | ok out => exact henv.change _ _ hanswer
    | error f => trivial
  | rcaLLM r =>
    change IncidentPlatform.SchemaValid (.rcaLLM r) (env.rca w.tick)
    cases hanswer : env.rca w.tick with
    | ok hypotheses => exact henv.rca _ _ hanswer
    | error f => trivial
  | plannerLLM r =>
    change IncidentPlatform.SchemaValid (.plannerLLM r) (env.planner w.tick)
    cases hanswer : env.planner w.tick with
    | ok out => exact henv.planner _ _ hanswer
    | error f => trivial
  | routerLLM r next =>
    change IncidentPlatform.SchemaValid (.routerLLM r next) (env.router w.tick)
    cases hanswer : env.router w.tick with
    | ok out => exact henv.router _ _ hanswer
    | error f => trivial
  | _ => trivial

theorem mem_of_stored {incidentId : String} {r : IncidentRecord}
    (h : w.stored incidentId = some r) : r ∈ w.rows := mem_of_lookup h

theorem mem_of_newest {rows : List IncidentRecord} {r : IncidentRecord}
    (h : World.newest rows = some r) : r ∈ rows := by
  have hne : rows ≠ [] := fun hnil ↦ by
    rw [hnil] at h
    cases h
  obtain ⟨r', hr', hnewest⟩ := World.newest_mem hne
  rw [h] at hnewest
  exact Option.some.inj hnewest ▸ hr'

/-- What is read from such a store is well kept. -/
theorem World.WellKept.reads (h : w.WellKept cfg) (o : Op) :
    ReadsKept cfg o (serve env mode w o).1 := by
  cases o with
  | get incidentId => exact fun r hr ↦ h r (mem_of_stored hr)
  | previous incidentId => exact fun r hr ↦ h r (mem_of_stored hr)
  | getByDedupeKey dedupeKey =>
    exact fun r hr ↦ h r (List.mem_of_mem_filter (mem_of_newest hr))
  | _ => trivial

theorem World.WellKept.put {r : IncidentRecord} (h : w.WellKept cfg)
    (hr : IncidentPlatform.WellKept cfg r) :
    ∀ s ∈ Interaction.put IncidentRecord.incidentId w.rows r, IncidentPlatform.WellKept cfg s :=
  fun s hs ↦ by
    rcases eq_or_mem_of_mem_put hs with rfl | hs
    · exact hr
    · exact h s hs

/-- A well-kept record does not spoil the store. -/
theorem World.WellKept.writes {Act : ActionRequest → Prop} {o : Op} (h : w.WellKept cfg)
    (ho : WritesKept cfg Act o) : (serve env mode w o).2.WellKept cfg := by
  cases o with
  | touch r =>
    cases mode with
    | postgres => exact h
    | fallback =>
      change ∀ s ∈ (World.touched _ .fallback r).rows, _
      rw [World.touched]
      dsimp only
      split_ifs
      · exact h.put ho
      · exact h
  | write r => exact h.put ho
  | _ => exact h

theorem Call.meets_recordContract (cfg : Settings) (c : Call) :
    (c.handler cfg).Meets (recordContract cfg) (fun _ _ ↦ True) (c.acts cfg) :=
  Prog.Meets.mono (fun _ _ _ ↦ trivial)
    (Prog.Given.meets (fun _ _ _ ↦ id) (fun _ _ ↦ rfl) (Call.upkeep cfg c))

/-- The calls `call i`, running concurrently on top of what `w` has stored. -/
def recordPool {ι : Type*} (cfg : Settings) (w : World) (call : ι → Call) :
    Pool Op Ans Exc Unit (ActionRequest → Prop) World ι where
  shared := w
  thread i := ⟨(call i).acts cfg, (call i).handler cfg⟩

theorem WellKept.after (henv : env.SchemaValid) (calls : List Call) :
    ∀ {w : World}, w.WellKept cfg → (after cfg env mode w calls).WellKept cfg := by
  induction calls with
  | nil => exact fun hw ↦ hw
  | cons c calls ih =>
    intro w hw
    have hcall := @Prog.Given.sound _ _ _ _ _ _ _ _ _ (serve env mode) (World.WellKept cfg)
      (fun v o hv _ ↦ ⟨henv.serve v o, hv.reads o⟩) (fun _ _ ho hv ↦ hv.writes ho)
      (Call.upkeep cfg c) w hw
    exact ih hcall.1

/-- **Records stay well kept**, as long as the language model answers what its schemas admit: in
Postgres mode under every schedule of any number of concurrent calls, and in fallback mode along
every sequential run. -/
theorem records_wellKept {ι : Type*} [DecidableEq ι] (henv : env.SchemaValid) (w : World)
    (hw : w.WellKept cfg) (call : ι → Call) (schedule : List ι) (calls : List Call) :
    ((recordPool cfg w call).run (serve env .postgres) (recordContract cfg).next
        schedule).shared.WellKept cfg ∧
      (after cfg env .fallback w calls).WellKept cfg :=
  ⟨(Pool.run_invariant (recordContract cfg) (fun v _ ↦ v.WellKept cfg) (fun _ _ _ ↦ True)
    (fun _ _ _ _ hv hguar _ ↦ ⟨⟨henv.serve _ _, hv.reads _⟩, hv.writes hguar⟩) schedule
    (recordPool cfg w call) hw (fun i ↦ Call.meets_recordContract cfg (call i))
    (Pool.admits_true _ _)).1, WellKept.after henv calls hw⟩

end

/-- A language model that answers every question. -/
def Env.answering : Env :=
  { Env.demo with
    triage := fun _ ↦ .ok
      { incidentType := "performance"
        priority := "p1"
        nextRequiredEvidence := ["metrics", "logs"] }
    evidence := fun _ ↦ .ok
      [{ source := "metrics", kind := "metric", confidence := 9 / 10, summary := "errors" }]
    change := fun _ ↦ .ok { summary := "one deployment", confidence := 4 / 5 }
    rca := fun _ ↦ .ok [{ hypothesis := "the deployment", confidence := 3 / 4 }]
    planner := fun _ ↦ .ok { actionTypeNames := ["RestartService"], plannerConfidence := 19 / 20 }
    router := fun _ ↦ .ok { nextWorkflow := "", decisionConfidence := 7 / 10 } }

theorem Env.answering_schemaValid : Env.answering.SchemaValid where
  evidence _ items h := by
    cases h
    exact List.forall_mem_singleton.mpr (by constructor <;> norm_num)
  change _ out h := by
    cases h
    constructor <;> norm_num
  rca _ hypotheses h := by
    cases h
    exact List.forall_mem_singleton.mpr (by constructor <;> norm_num)
  planner _ out h := by
    cases h
    constructor <;> norm_num
  router _ out h := by
    cases h
    constructor <;> norm_num

/-- The decision loop, with a language model in every step. -/
def Settings.guided : Settings :=
  { Settings.looped with agenticEnabled := true, routerLlmEnabled := true }

/-- A request and a worker that route an incident at the same time, and a request for a plan. -/
def routedAndPlanned (i : Fin 3) : Call :=
  if i.val = 0 then .routeIncident checkoutId
  else if i.val = 1 then .processIncident checkoutId
  else .createPlan checkoutId

/-- Five decisions are stored, with the evidence and the hypothesis that the model answered. -/
theorem records_wellKept_guided :
    let w := after Settings.guided Env.answering .postgres {} [.ingest checkoutAlert]
    let pool := (recordPool Settings.guided w routedAndPlanned).run (serve Env.answering .postgres)
      (recordContract Settings.guided).next
      ((List.replicate 150 [0, 1]).flatten ++ List.replicate 60 2)
    (pool.shared.stored checkoutId).any (fun r ↦ r.decisionRecords.length == 5 &&
        r.evidence.length == 2 && r.hypothesisLinks.length == 1 &&
          r.pendingActionGraph.isSome) = true ∧
      pool.shared.WellKept Settings.guided ∧
        (after Settings.guided Env.answering .fallback w checkoutPlanned).WellKept
          Settings.guided := by
  intro w pool
  have hw : w.WellKept Settings.guided :=
    WellKept.after Env.answering_schemaValid _ fun _ h ↦ absurd h List.not_mem_nil
  exact ⟨by decide +kernel, records_wellKept Env.answering_schemaValid w hw routedAndPlanned
    ((List.replicate 150 [0, 1]).flatten ++ List.replicate 60 2) checkoutPlanned⟩

end IncidentPlatform
