import IncidentPlatform.Api.Outcome

/-!
# Executing what was approved

`record_approval` takes down what the request says: the plan step it names, or else the pending one,
and the version it names, or else the stored one. `execute_action` compares with the pending step,
which is the first one of the graph, and with the version that the approval itself has raised. So
an approval for a later step of the plan, or on an older version, is recorded, moves the incident
out of the state in which another one could be recorded, and is then refused.
-/

namespace IncidentPlatform

open Interaction

section

variable {cfg : Settings} {env : Env} {mode : Mode} {w : World} {incidentId : String}
  {r : IncidentRecord}

theorem saveApproval_runs (record : ApprovalRecord) (hr : w.stored r.incidentId = some r) :
    RunsIn env mode (save (withApproval r record)) w fun res v ↦
      match res with
      | .ok _ => ∃ updatedAt, v.stored r.incidentId
          = some { withApproval r record with updatedAt, version := r.version + 1 }
      | .error _ => True := by
  have hr' : w.stored (withApproval r record).incidentId = some r := hr
  refine (save_runs hr').mono fun res v ↦ ?_
  rcases res with e | r'
  · exact fun _ ↦ trivial
  · rintro ⟨-, -, -, hsaved, hrows⟩
    have hstored := World.stored_of_saved hsaved hrows
    obtain ⟨updatedAt, rfl⟩ := hsaved
    refine ⟨updatedAt, hstored.trans ?_⟩
    cases mode <;> rfl

/-- The approval that is recorded, and the stored incident after it. -/
theorem recordApproval_runs (payload : ApprovalPayload) (w : World) (incidentId : String) :
    RunsIn env mode (recordApproval incidentId payload) w fun res v ↦
      match res with
      | .ok record => ∃ r approvalId approvalToken expiresAt createdAt updatedAt,
          w.stored incidentId = some r ∧ r.state = .waitingApproval ∧
          record = grantFor r payload approvalId approvalToken expiresAt createdAt ∧
          v.stored incidentId
            = some { withApproval r record with updatedAt, version := r.version + 1 }
      | .error _ => True := by
  refine RunsIn.perform (RunsIn.orHttp (fun _ ↦ trivial) fun r hr ↦ ?_)
  refine RunsIn.ensure (fun _ ↦ trivial) fun hstate ↦ RunsIn.ensure (fun _ ↦ trivial) fun _ ↦ ?_
  have hid : r.incidentId = incidentId := key_of_lookup hr
  subst hid
  have hread : w.stored r.incidentId = some r := hr
  refine RunsIn.perform (RunsIn.perform (RunsIn.perform (RunsIn.require (fun _ ↦ trivial) ?_)))
  refine fun _ ↦ RunsIn.perform (Prog.Runs.bind (saveApproval_runs _ ?_) ?_ ?_)
  · rw [serve_utcnow, serve_utcnow, serve_uuid4, serve_uuid4, serve_get]
    exact hread
  · rintro r' v ⟨updatedAt, hstored⟩
    exact RunsIn.audit ⟨r, _, _, _, _, updatedAt, hr, beq_iff_eq.mp hstate, rfl, hstored⟩
  · exact fun _ _ _ ↦ trivial

end

/-! ## An approval and the request that follows it -/

/-- `record_approval` accepts an approval of the action `a` of the pending graph of `r`, for the
step of that action if it names one. The id it gives to the approval is new on the incident. -/
structure Approves (env : Env) (mode : Mode) (w : World) (incidentId : String)
    (r : IncidentRecord) (a : ActionRequest) (payload : ApprovalPayload) (record : ApprovalRecord)
    (v : World) : Prop where
  stored : w.stored incidentId = some r
  accepted : (recordApproval incidentId payload).run (serve env mode) w = (.ok record, v)
  approved : payload.approved = true
  ttl : 0 < payload.ttlSeconds
  actionId : payload.actionId = a.actionId
  ownStep : ∃ graph, r.pendingActionGraph = some graph ∧ a ∈ graph.actions ∧
    ∀ stepId ∈ payload.planStepId, ∃ (i : ℕ) (step : PlanStep), graph.actions[i]? = some a ∧
      graph.planSteps[i]? = some step ∧ stepId = step.stepId
  fresh : ∀ b ∈ r.approvals, b.approvalId ≠ record.approvalId

/-- A request to execute that action, which names no approval or the recorded one, and comes to a
request for `execute_action` that the policy allows, before the approval expires. -/
structure Requests (cfg : Settings) (env : Env) (v : World) (incidentId : String)
    (a : ActionRequest) (record : ApprovalRecord) (request : IncidentExecutePayload) (u : World)
    (payload : ExecutePayload) (s : IncidentRecord) (plan : ResponsePlan) : Prop where
  execution : (Call.executeIncident incidentId request).execution v = some (u, incidentId, payload)
  actionId : request.actionId = some a.actionId
  approval : request.approvalId = none ∨ request.approvalId = some record.approvalId ∧
    request.approvalToken = some record.approvalToken
  stored : u.stored incidentId = some s
  responsePlan : s.responsePlan = some plan
  allowed : (decisionOn cfg s plan payload "" 0).allowed = true
  expiry : env.now (u.tick + 3) ≤ record.expiresAt

/-- The approval names no other step than the pending one, and no older version than the stored
one. -/
def ForPending (r : IncidentRecord) (payload : ApprovalPayload) : Prop :=
  (payload.planStepId = none ∨ payload.planStepId = r.pendingPlanStepId) ∧
    ∀ version ∈ payload.expectedIncidentVersion, r.version ≤ version

section

variable {cfg : Settings} {env : Env} {mode : Mode} {w v u : World} {incidentId : String}
  {r s : IncidentRecord} {a : ActionRequest} {approval : ApprovalPayload}
  {record : ApprovalRecord} {request : IncidentExecutePayload} {payload : ExecutePayload}
  {plan : ResponsePlan}

theorem Approves.recorded (h : Approves env mode w incidentId r a approval record v) :
    ∃ approvalId approvalToken expiresAt createdAt updatedAt, r.state = .waitingApproval ∧
      record = grantFor r approval approvalId approvalToken expiresAt createdAt ∧
      v.stored incidentId
        = some { withApproval r record with updatedAt, version := r.version + 1 } := by
  have hruns := @recordApproval_runs env mode approval w incidentId
  rw [RunsIn, Prog.Runs, h.accepted] at hruns
  obtain ⟨r', approvalId, approvalToken, expiresAt, createdAt, updatedAt, hr', hstate, hrecord,
    hstored⟩ := hruns
  cases h.stored.symm.trans hr'
  exact ⟨approvalId, approvalToken, expiresAt, createdAt, updatedAt, hstate, hrecord, hstored⟩

/-- `execute_incident` finds the approval that was recorded last. -/
theorem latestApproval_concat {old : List ApprovalRecord} {actionId : String}
    (hs : s.approvals = old ++ [record]) (happroved : record.approved = true)
    (hid : record.actionId = some actionId) : latestApproval s actionId = some record := by
  rw [latestApproval, hs, List.reverse_append, List.reverse_singleton, List.singleton_append,
    List.find?_cons_of_pos]
  rw [happroved, hid, Bool.true_and, beq_self_eq_true]

/-- The forwarded request presents it. -/
theorem forwardedPayload_presents {old : List ApprovalRecord} {action : ActionRequest}
    (hs : s.approvals = old ++ [record]) (happroved : record.approved = true)
    (hid : record.actionId = some action.actionId)
    (hrequest : request.approvalId = none ∨ request.approvalId = some record.approvalId ∧
      request.approvalToken = some record.approvalToken) :
    (forwardedPayload s request action).approvalId = some record.approvalId ∧
      (forwardedPayload s request action).approvalToken = some record.approvalToken := by
  rcases hrequest with hnone | ⟨hsome, htoken⟩
  · simp only [forwardedPayload, hnone, Option.isNone_none, if_true,
      latestApproval_concat hs happroved hid, and_self]
  · simp [forwardedPayload, hsome, htoken]

/-- The checks of an approval that is presented right after it was recorded. -/
theorem approvalPasses_iff {old : List ApprovalRecord} {now : Time}
    (hs : s.approvals = old ++ [record]) (hfresh : ∀ b ∈ old, b.approvalId ≠ record.approvalId)
    (happroved : record.approved = true) (hid : payload.approvalId = some record.approvalId)
    (htoken : payload.approvalToken = some record.approvalToken) (hexpiry : now ≤ record.expiresAt)
    (haction : approvalMatchesAction record payload.action = true) :
    approvalPasses s payload now = true ↔
      (∃ granted ∈ record.expectedIncidentVersionAtGrant, s.version ≤ granted + 1) ∧
        approvalMatchesStep record s = true := by
  have hfind :
      (s.approvals.find? fun item ↦ item.approvalId == record.approvalId) = some record := by
    rw [hs, List.find?_append, List.find?_eq_none.mpr (fun b hb ↦ by simpa using hfresh b hb)]
    simp
  rw [approvalPasses, hid, Option.bind_some, hfind, Option.filter_some, if_pos happroved]
  simp [htoken, hexpiry, haction, Option.any_eq_true]

/-- The step of an approval is compared with the first one of the graph. -/
theorem matchesStep_iff (hsound : Sound r) (hstate : r.state = .waitingApproval)
    (h : Approves env mode w incidentId r a approval record v)
    (hrecord : record.planStepId = orText approval.planStepId r.pendingPlanStepId)
    (hs : s.pendingPlanStepId = r.pendingPlanStepId) :
    approvalMatchesStep record s = true ↔
      approval.planStepId = none ∨ approval.planStepId = r.pendingPlanStepId := by
  obtain ⟨graph, hgraph⟩ := hsound.pending (by rw [hstate]; simp)
  obtain ⟨step, steps, hsteps⟩ := List.exists_cons_of_ne_nil hgraph.plan.planSteps
  have hpending : r.pendingPlanStepId = some step.stepId := by
    rw [hgraph.pendingPlanStepId, hsteps]
    rfl
  have hstep : step.stepId ≠ "" := hgraph.plan.stepId step (by rw [hsteps]; simp)
  rw [approvalMatchesStep, hrecord, hs, hpending]
  rcases hnamed : approval.planStepId with _ | stepId
  · simp [orText, hstep]
  · obtain ⟨graph', hgraph', -, hown⟩ := h.ownStep
    obtain ⟨i, named, -, hnamed', rfl⟩ := hown stepId hnamed
    cases hgraph'.symm.trans hgraph.pendingActionGraph
    have hne : named.stepId ≠ "" := hgraph.plan.stepId named (List.mem_of_getElem? hnamed')
    simp [orText, hstep, hne]

/-- What the request comes to: the action is the approved one by its id, and the approval is
presented. -/
theorem Requests.forwarded {s' : IncidentRecord}
    (h : Requests cfg env v incidentId a record request u payload s plan)
    (hs' : v.stored incidentId = some s') : s = s' ∧ ∃ action : ActionRequest,
      action.actionId = a.actionId ∧ payload = forwardedPayload s request action := by
  have hexec := h.execution
  have hsame : s = s' := by
    have hstored := h.stored
    rw [World.stored_congr (Call.execution_rows hexec).1, hs'] at hstored
    exact (Option.some.inj hstored).symm
  simp only [Call.execution, Option.bind_eq_bind, Option.bind_eq_some_iff] at hexec
  obtain ⟨s₁, hs₁, graph, -, action, haction, hpayload⟩ := hexec
  cases hs'.symm.trans hs₁
  refine ⟨hsame, action, ?_, ?_⟩
  · have hfound := List.find?_some haction
    rw [h.actionId, Option.all_some, beq_iff_eq] at hfound
    exact hfound.symm
  · cases hpayload
    rw [hsame]

/-- Of all gates only the approval can be closed. -/
theorem letsThrough_iff {action : ActionRequest} (hgraph : s.pendingActionGraph.isSome)
    (hplan : s.responsePlan = some plan) (hstored : u.stored incidentId = some s)
    (hallowed : (decisionOn cfg s plan (forwardedPayload s request action) "" 0).allowed = true) :
    LetsThrough cfg env u incidentId (forwardedPayload s request action) s plan ↔
      (needsApproval (forwardedPayload s request action)
          (decisionOn cfg s plan (forwardedPayload s request action) "" 0) = true →
        approvalPasses s (forwardedPayload s request action) (env.now (u.tick + 3)) = true) := by
  have hversion : (forwardedPayload s request action).expectedIncidentVersion.all
      (· == s.version) = true := by
    simp [forwardedPayload]
  have hblock : (investigateOnlyBlock cfg s).isNone = true := by
    obtain ⟨graph, hgraph⟩ := Option.isSome_iff_exists.mp hgraph
    rw [investigateOnlyBlock, hgraph]
    simp
  have hswitch : ((forwardedPayload s request action).autonomous && cfg.autonomyKillSwitch)
      = false := not_switched_of_denial ((evaluate_allowed_iff ..).mp hallowed)
  have hgates : gates cfg s plan (forwardedPayload s request action) (env.now (u.tick + 3)) = true ↔
      (needsApproval (forwardedPayload s request action)
          (decisionOn cfg s plan (forwardedPayload s request action) "" 0) = true →
        approvalPasses s (forwardedPayload s request action) (env.now (u.tick + 3)) = true) := by
    rw [gates, hversion, hblock, hswitch, hallowed]
    simp [imp_iff_not_or]
  exact ⟨fun h ↦ hgates.mp h.gates, fun h ↦ ⟨hstored, hplan, hgates.mpr h⟩⟩

/-- On a sound incident the approval is let through exactly if it is one for the pending step. -/
theorem Approves.letsThrough_iff (hsound : Sound r)
    (happroves : Approves env mode w incidentId r a approval record v)
    (hrequests : Requests cfg env v incidentId a record request u payload s plan) :
    LetsThrough cfg env u incidentId payload s plan ↔
      (needsApproval payload (decisionOn cfg s plan payload "" 0) = true →
        ForPending r approval) := by
  obtain ⟨approvalId, approvalToken, expiresAt, createdAt, updatedAt, hstate, hrecord, hstored⟩ :=
    happroves.recorded
  obtain ⟨hs, action, hactionId, rfl⟩ := hrequests.forwarded hstored
  have hgraph : s.pendingActionGraph.isSome := by
    obtain ⟨graph, hgraph, -⟩ := happroves.ownStep
    rw [hs]
    exact Option.isSome_iff_exists.mpr ⟨graph, hgraph⟩
  have hnamed : record.actionId = some action.actionId := by
    rw [hrecord, hactionId, ← happroves.actionId]
    rfl
  have happroved : record.approved = true := by
    rw [hrecord]
    exact happroves.approved
  have happrovals : s.approvals = r.approvals ++ [record] := by
    rw [hs]
    rfl
  obtain ⟨hid, htoken⟩ := forwardedPayload_presents happrovals happroved hnamed hrequests.approval
  have hmatch : approvalMatchesAction record (forwardedPayload s request action).action = true := by
    rw [approvalMatchesAction, hnamed]
    by_cases hempty : action.actionId.isEmpty
    · simp [orText, hempty]
    · simp [orText, hempty, forwardedPayload]
  rw [IncidentPlatform.letsThrough_iff hgraph hrequests.responsePlan hrequests.stored
      hrequests.allowed,
    approvalPasses_iff happrovals happroves.fresh happroved hid htoken hrequests.expiry hmatch,
    matchesStep_iff hsound hstate happroves (by rw [hrecord]; rfl) (by rw [hs]; rfl), and_comm]
  have hversion : (∃ granted ∈ record.expectedIncidentVersionAtGrant, s.version ≤ granted + 1) ↔
      ∀ version ∈ approval.expectedIncidentVersion, r.version ≤ version := by
    rw [hrecord, hs]
    rcases hexpected : approval.expectedIncidentVersion with _ | version
    · simp [grantFor, hexpected]
    · simp [grantFor, hexpected]
  rw [hversion]
  rfl

end

/-- **When an approved action can be executed.** In either mode and after every run: a request that
follows an accepted approval of a planned action, and that the policy allows, is let through by the
checks of `execute_action` exactly if it needs no approval or the approval is one for the pending
step, on a version that is not older than the stored one. -/
theorem approved_action_executes_iff (cfg : Settings) (env : Env) (mode : Mode) {w₀ : World}
    (hw₀ : NoIncidents w₀) (calls : List Call) {v u : World} {incidentId : String}
    {r s : IncidentRecord} {a : ActionRequest} {approval : ApprovalPayload}
    {record : ApprovalRecord} {request : IncidentExecutePayload} {payload : ExecutePayload}
    {plan : ResponsePlan}
    (happroves : Approves env mode (after cfg env mode w₀ calls) incidentId r a approval record v)
    (hrequests : Requests cfg env v incidentId a record request u payload s plan) :
    (∃ g, Authorizes cfg env mode u incidentId payload g) ↔
      (needsApproval payload (decisionOn cfg s plan payload "" 0) = true →
        ForPending r approval) :=
  (exists_authorizes_iff hrequests.stored hrequests.responsePlan).trans
    (happroves.letsThrough_iff (sound_after hw₀ incidentId r happroves.stored) hrequests)

/-! ## A plan of two actions -/

/-- The demo with the language model. -/
def Settings.agentic : Settings := { Settings.demo with agenticEnabled := true }

/-- The language model plans a restart and a rollback, and answers nothing else. -/
def Env.planning : Env :=
  { Env.demo with
    planner := fun _ ↦ .ok { actionTypeNames := ["RestartService", "RollbackDeployment"] } }

/-- An alert of a failing computation. -/
def computeAlert : IngestPayload where
  severity := "critical"
  service := "inventory"
  resource := "k8s-inventory"
  symptom := "cpu error rate"

/-- The calls that take it to its plan. -/
def computePlanned : List Call :=
  [.ingest computeAlert, .routeIncident checkoutId, .createPlan checkoutId]

/-- The approval of the rollback, the second action. -/
def approveSecond (planStepId : Option String) : ApprovalPayload where
  approver := "oncall"
  actionId := "act_00400000"
  approved := true
  planStepId := planStepId

/-- The request to execute it. -/
def executeSecond : IncidentExecutePayload where
  actionId := some "act_00400000"

/-- The rollback is approved, whether or not its step is named, and requested. -/
theorem second_action_requested (planStepId : Option String)
    (hstep : planStepId = none ∨ planStepId = some "ps_00420000") :
    ∃ r a record v u payload s plan,
      Approves Env.planning .postgres (after Settings.agentic Env.planning .postgres {}
          computePlanned) checkoutId r a (approveSecond planStepId) record v ∧
        Requests Settings.agentic Env.planning v checkoutId a record executeSecond u payload s
          plan ∧
        needsApproval payload (decisionOn Settings.agentic s plan payload "" 0) = true ∧
        r.pendingPlanStepId = some "ps_00410000" := by
  obtain ⟨w, hw⟩ : ∃ w, after Settings.agentic Env.planning .postgres {} computePlanned = w :=
    ⟨_, rfl⟩
  obtain ⟨res, hrun⟩ : ∃ res, (recordApproval checkoutId (approveSecond planStepId)).run
    (serve Env.planning .postgres) w = res := ⟨_, rfl⟩
  have hplanned : (w.stored checkoutId).any (fun r ↦ r.pendingActionGraph.any fun graph ↦
      graph.actions[1]?.any fun a ↦ graph.planSteps[1]?.any fun step ↦
        a.actionId == "act_00400000" && step.stepId == "ps_00420000" && r.approvals.isEmpty &&
          r.pendingPlanStepId == some "ps_00410000") = true := by
    subst hw
    decide +kernel
  have hrequested : res.1.toOption.any (fun record ↦
      ((Call.executeIncident checkoutId executeSecond).execution res.2).any fun x ↦
        (x.1.stored checkoutId).any fun s ↦ s.responsePlan.any fun plan ↦
          x.2.1 == checkoutId && (decisionOn Settings.agentic s plan x.2.2 "" 0).allowed &&
            needsApproval x.2.2 (decisionOn Settings.agentic s plan x.2.2 "" 0) &&
            decide (Env.planning.now (x.1.tick + 3) ≤ record.expiresAt)) = true := by
    subst hrun hw
    rcases hstep with rfl | rfl
    · decide +kernel
    · decide +kernel
  simp only [Option.any_eq_true, Bool.and_eq_true, beq_iff_eq] at hplanned
  simp only [Option.any_eq_true, Bool.and_eq_true, beq_iff_eq, decide_eq_true_eq] at hrequested
  obtain ⟨r, hr, graph, hgraph, a, ha, step, hstep', ⟨⟨haction, hstepId⟩, hempty⟩, hpending⟩ :=
    hplanned
  obtain ⟨record, hrecord, ⟨u, i, payload⟩, hexec, s, hs, plan, hplan, ⟨⟨rfl, hallowed⟩, hneeds⟩,
    hexpiry⟩ := hrequested
  have hres : res = (.ok record, res.2) := by
    rcases hr : res with ⟨e | record', v⟩ <;> rw [hr] at hrecord <;> cases hrecord
    rfl
  rw [hw]
  refine ⟨r, a, record, res.2, u, payload, s, plan,
    ⟨hr, hrun.trans hres, rfl, ?_, haction.symm, ?_, ?_⟩,
    ⟨hexec, congrArg some haction.symm, Or.inl rfl, hs, hplan, hallowed, hexpiry⟩, hneeds, hpending⟩
  · exact (by decide : (0 : ℤ) < 900)
  · refine ⟨graph, hgraph, List.mem_of_getElem? ha, fun stepId hid ↦ ⟨1, step, ha, hstep', ?_⟩⟩
    rcases hstep with rfl | rfl
    · cases hid
    · cases hid
      exact hstepId.symm
  · rw [List.isEmpty_iff.mp hempty]
    simp

/-- The rollback is approved for its own step, and refused. -/
theorem approved_action_refused :
    ¬ ∀ calls v u r s a approval record request payload plan,
      Approves Env.planning .postgres (after Settings.agentic Env.planning .postgres {} calls)
        checkoutId r a approval record v →
      Requests Settings.agentic Env.planning v checkoutId a record request u payload s plan →
        ∃ g, Authorizes Settings.agentic Env.planning .postgres u checkoutId payload g := by
  intro h
  obtain ⟨r, a, record, v, u, payload, s, plan, happroves, hrequests, hneeds, hpending⟩ :=
    second_action_requested (some "ps_00420000") (Or.inr rfl)
  have hsound : Sound r := sound_after ⟨rfl, rfl⟩ checkoutId r happroves.stored
  have hlets := (exists_authorizes_iff hrequests.stored hrequests.responsePlan).mp
    (h _ _ _ _ _ _ _ _ _ _ _ happroves hrequests)
  obtain ⟨hstep, -⟩ := (happroves.letsThrough_iff hsound hrequests).mp hlets hneeds
  rw [hpending] at hstep
  revert hstep
  decide

/-- Without naming a step. -/
theorem approved_action_executes_second :
    ∃ r u payload s plan,
      ((∃ g, Authorizes Settings.agentic Env.planning .postgres u checkoutId payload g) ↔
        (needsApproval payload (decisionOn Settings.agentic s plan payload "" 0) = true →
          ForPending r (approveSecond none))) := by
  obtain ⟨r, a, record, v, u, payload, s, plan, happroves, hrequests, -, -⟩ :=
    second_action_requested none (Or.inl rfl)
  exact ⟨r, u, payload, s, plan,
    approved_action_executes_iff Settings.agentic Env.planning .postgres
    ⟨rfl, rfl⟩ computePlanned happroves hrequests⟩

end IncidentPlatform
