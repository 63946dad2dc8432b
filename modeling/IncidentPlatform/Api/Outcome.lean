import IncidentPlatform.Api.Gates

/-!
# What an execution leaves behind

The rest of `executeAction`, alone and in either mode, over the stored incident, the request and the
answers of the outside: what the execution reports (`executionReports`), what the verification says
(`verification`), and what is stored and logged in the end (`executeAction_runs`).
-/

namespace IncidentPlatform

open Interaction

section

variable {cfg : Settings} {env : Env} {mode : Mode} {w v : World} {incidentId : String}
  {r b : IncidentRecord}

/-! ## The run of the action -/

/-- What `execution_agent.run` reports, `none` if it raises. -/
def executionReports (env : Env) (w : World) (action : ActionRequest) : Option Bool :=
  match w.claimAnswer env action.idempotencyKey action.actionId with
  | .error _ => none
  | .ok false => some true
  | .ok true =>
    if raises env action defaultRetryLimit w.attempts then none
    else some (succeeds env action defaultRetryLimit w.attempts)

/-- What `_verify_action_recovery` answers, `none` if it raises. -/
def verification (cfg : Settings) (env : Env) (w : World) (action : ActionRequest) : Option Bool :=
  if action.dryRun then some true
  else if cfg.executionMode == "local" &&
      (action.target == "checkout-service" || action.target == "checkout/api") then
    match env.verify w.verifications with
    | .ok (recovered, _) => some recovered
    | .error _ => none
  else some false

/-- What counts as verified after an execution that reported `success`, `none` if it raises. -/
def verifiedAfter (cfg : Settings) (env : Env) (w : World) (action : ActionRequest)
    (success : Bool) : Option Bool :=
  if cfg.executePostVerifyEnabled then verification cfg env w action else some success

/-- A verification made between the two worlds has read the metrics of the workload and found it
recovered. -/
def Recovered (env : Env) (w v : World) : Prop :=
  ∃ n, w.verifications ≤ n ∧ n < v.verifications ∧ ∃ metrics, env.verify n = .ok (true, metrics)

/-- Between the two worlds an audit row with `P` was appended. -/
def Appended (w v : World) (P : AuditEvent → Prop) : Prop :=
  ∃ new, v.events = w.events ++ new ∧ ∃ e ∈ new, P e

theorem Appended.trans {u : World} {P : AuditEvent → Prop} (h : Appended w v P)
    (hu : v.events <+: u.events) : Appended w u P := by
  obtain ⟨new, hnew, e, he, hP⟩ := h
  obtain ⟨later, hlater⟩ := hu
  exact ⟨new ++ later, by rw [← hlater, hnew, List.append_assoc], e, List.mem_append_left _ he, hP⟩

theorem Appended.of_prefix {u : World} {P : AuditEvent → Prop} (h : Appended w v P)
    (hu : u.events <+: w.events) : Appended u v P := by
  obtain ⟨new, hnew, e, he, hP⟩ := h
  obtain ⟨between, hbetween⟩ := hu
  exact ⟨between ++ new, by rw [hnew, ← hbetween, List.append_assoc], e,
    List.mem_append_right _ he, hP⟩

/-- The audit row of the attempts at an action. -/
def IsAdapterExecution (action : ActionRequest) (e : AuditEvent) : Prop :=
  e.eventType = "adapter_execution" ∧
    ∃ success message, e.payload = adapterExecution action success message

theorem executionReports_congr (hkeys : v.keys = w.keys) (hclaims : v.claims = w.claims)
    (hattempts : v.attempts = w.attempts) (action : ActionRequest) :
    executionReports env v action = executionReports env w action := by
  rw [executionReports, executionReports, World.claimAnswer_congr env w hkeys hclaims, hattempts]

@[simp] theorem executionReports_tick (w : World) (tick : ℕ) (action : ActionRequest) :
    executionReports env { w with tick } action = executionReports env w action := by
  have hkeys : ({ w with tick } : World).keys = w.keys := rfl
  exact executionReports_congr hkeys rfl rfl action

theorem verifiedAfter_congr (h : v.verifications = w.verifications) (action : ActionRequest)
    (success : Bool) :
    verifiedAfter cfg env v action success = verifiedAfter cfg env w action success := by
  rw [verifiedAfter, verifiedAfter, verification, verification, h]

theorem executionAgentRun_runs (action : ActionRequest) (w : World) :
    RunsIn env mode (executionAgentRun action) w fun res v ↦
      v.rows = w.rows ∧ v.verifications = w.verifications ∧
        match res with
        | .ok result => executionReports env w action = some result.success ∧
            result.actionId = action.actionId ∧ w.events <+: v.events ∧
              (w.claimAnswer env action.idempotencyKey action.actionId = .ok true →
                Appended w v (IsAdapterExecution action))
        | .error _ => executionReports env w action = none := by
  refine RunsIn.perform ?_
  rw [serve_utcnow]
  let w₁ : World := { w with tick := w.tick + 1 }
  have hreports : executionReports env w action = executionReports env w₁ action :=
    (executionReports_tick w _ action).symm
  have hclaim : w.claimAnswer env action.idempotencyKey action.actionId
      = w₁.claimAnswer env action.idempotencyKey action.actionId :=
    (World.claimAnswer_tick env w _ _ _).symm
  rw [hreports, hclaim]
  rw [executionReports]
  -- The claim decides: it raises, or its key is taken, or the attempts are made.
  rcases hanswer : w₁.claimAnswer env action.idempotencyKey action.actionId with f | granted
  · rw [RunsIn, Prog.Runs, Prog.bind_eq, Prog.run_bind_error (execute_run_error hanswer)]
    exact ⟨rfl, rfl, rfl⟩
  · cases granted
    · rw [RunsIn, Prog.Runs, Prog.bind_eq, Prog.run_bind_ok (execute_run_refused hanswer)]
      exact ⟨rfl, rfl, rfl, rfl, List.prefix_rfl, fun h ↦ by cases h⟩
    · obtain ⟨res, attempts, tick, events, hrun, hres⟩ := @execute_run_granted env mode _ _ hanswer
      rw [RunsIn, Prog.Runs]
      rcases res with e | ⟨success, message⟩
      · rw [Prog.bind_eq, Prog.run_bind_error hrun]
        exact ⟨rfl, rfl, if_pos hres.1⟩
      · obtain ⟨hsuccess, hraises, createdAt, hevents⟩ := hres
        rw [Prog.bind_eq, Prog.run_bind_ok hrun]
        refine ⟨rfl, rfl, ?_, rfl, ⟨_, hevents.symm⟩, fun _ ↦
          ⟨_, hevents, _, List.mem_singleton_self _, rfl, _, _, rfl⟩⟩
        rw [if_neg (Bool.not_eq_true _ ▸ hraises), ← hsuccess]

theorem verifyActionRecovery_runs (cfg : Settings) (action : ActionRequest) (w : World) :
    RunsIn env mode (verifyActionRecovery cfg action) w fun res v ↦
      v.rows = w.rows ∧ v.events = w.events ∧
        match res with
        | .ok (verified, _) => verification cfg env w action = some verified ∧
            (verified = true → action.dryRun = false → Recovered env w v)
        | .error _ => verification cfg env w action = none := by
  rw [verifyActionRecovery, verification]
  split_ifs with hdry hlocal
  · exact ⟨rfl, rfl, rfl, fun _ h ↦ by cases hdry.symm.trans h⟩
  · refine RunsIn.perform ?_
    rw [serve_verifyRecovery]
    rcases hverify : env.verify w.verifications with f | ⟨recovered, metrics⟩
    · exact ⟨rfl, rfl, rfl⟩
    · refine ⟨rfl, rfl, rfl, fun hrecovered _ ↦ ?_⟩
      rw [hrecovered] at hverify
      exact ⟨w.verifications, Nat.le_refl _, Nat.lt_succ_self _, metrics, hverify⟩
  · exact ⟨rfl, rfl, rfl, fun h ↦ by cases h⟩

/-- Assignments to a record that is stored as `visible mode b c`. -/
theorem World.stored_assigned {c r : IncidentRecord}
    (hc : w.stored r.incidentId = some (visible mode b c)) :
    (w.touched mode r).stored r.incidentId = some (visible mode b r) := by
  rw [World.touched_of_stored hc, World.stored_shown hc]
  cases mode <;> rfl

theorem World.touched_eq_rows (w : World) (r : IncidentRecord) :
    ∃ rows, w.touched mode r = { w with rows } := by
  cases mode
  · exact ⟨w.rows, rfl⟩
  · unfold World.touched
    dsimp only
    split_ifs
    · exact ⟨_, rfl⟩
    · exact ⟨w.rows, rfl⟩

@[simp] theorem World.touched_events (w : World) (r : IncidentRecord) :
    (w.touched mode r).events = w.events := by
  obtain ⟨rows, hrows⟩ := World.touched_eq_rows w r
  rw [hrows]

@[simp] theorem World.touched_verifications (w : World) (r : IncidentRecord) :
    (w.touched mode r).verifications = w.verifications := by
  obtain ⟨rows, hrows⟩ := World.touched_eq_rows w r
  rw [hrows]

@[simp] theorem executionReports_touched (w : World) (r : IncidentRecord) (action : ActionRequest) :
    executionReports env (w.touched mode r) action = executionReports env w action := by
  obtain ⟨rows, hrows⟩ := World.touched_eq_rows w r
  have hkeys : ({ w with rows } : World).keys = w.keys := rfl
  rw [hrows]
  exact executionReports_congr hkeys rfl rfl action

@[simp] theorem World.claimAnswer_touched (w : World) (r : IncidentRecord) (key actionId : String) :
    (w.touched mode r).claimAnswer env key actionId = w.claimAnswer env key actionId := by
  obtain ⟨rows, hrows⟩ := World.touched_eq_rows w r
  rw [hrows]
  rfl

/-- A record that is verified, and what the verification found. -/
theorem verifyPerformed_runs {c : IncidentRecord} (action : ActionRequest) (result : ActionResult)
    (hc : w.stored c.incidentId = some (visible mode b c)) :
    RunsIn env mode (verifyPerformed cfg incidentId action c result) w fun res v ↦
      match res with
      | .ok o => verifiedAfter cfg env w action result.success = some o.verified ∧
          (cfg.executePostVerifyEnabled = true → o.verified = true → action.dryRun = false →
            Recovered env w v) ∧
          o.incident.incidentId = c.incidentId ∧ o.incident.executedActions = c.executedActions ∧
          o.result = result ∧ v.stored c.incidentId = some (visible mode b o.incident) ∧
          w.events <+: v.events
      | .error _ => verifiedAfter cfg env w action result.success = none ∧ v.rows = w.rows := by
  rw [verifyPerformed, verifiedAfter]
  split_ifs with hverify
  swap
  -- Without verification the result of the run stands for it.
  · exact ⟨rfl, fun h ↦ absurd h hverify, rfl, rfl, rfl, hc, List.prefix_rfl⟩
  refine Prog.Runs.bind (verifyActionRecovery_runs cfg action w) ?_ ?_
  swap
  · exact fun e v h ↦ ⟨h.2.2, h.1⟩
  rintro ⟨verified, message, details⟩ v ⟨hrows, hevents, hverified, hrecovered⟩
  refine RunsIn.newTraceEntry fun entry ↦ ?_
  have hv : ({ v with tick := v.tick + 3 } : World).stored (c.withTrace entry).incidentId
      = some (visible mode b c) := (World.stored_congr hrows _).trans hc
  refine RunsIn.assign (RunsIn.audit ⟨hverified, fun _ hok hdry ↦ ?_, rfl, rfl, rfl,
    World.stored_assigned hv, ?_⟩)
  · obtain ⟨n, hle, hlt, hmetrics⟩ := hrecovered hok hdry
    refine ⟨n, hle, ?_, hmetrics⟩
    rw [World.touched_verifications]
    exact hlt
  · rw [World.touched_events, ← hevents]
    exact List.prefix_append _ _

/-- What `performAction` returns, and the world it returns in. -/
structure PerformedIn (cfg : Settings) (env : Env) (mode : Mode) (w : World)
    (action : ActionRequest) (r : IncidentRecord) (o : Performed) (v : World) : Prop where
  reports : executionReports env w action = some o.result.success
  verified : verifiedAfter cfg env w action o.result.success = some o.verified
  recovered : cfg.executePostVerifyEnabled = true → o.verified = true → action.dryRun = false →
    Recovered env w v
  incidentId : o.incident.incidentId = r.incidentId
  executed : o.incident.executedActions = r.executedActions ++ [o.result]
  actionId : o.result.actionId = action.actionId
  stored : v.stored r.incidentId = some (visible mode r o.incident)
  events : w.events <+: v.events
  logged : w.claimAnswer env action.idempotencyKey action.actionId = .ok true →
    Appended w v (IsAdapterExecution action)

/-- The attempts at an action raise, or its verification does. -/
def Raises (cfg : Settings) (env : Env) (w : World) (action : ActionRequest) : Prop :=
  executionReports env w action = none ∨ ∃ success,
    executionReports env w action = some success ∧ verifiedAfter cfg env w action success = none

theorem performAction_runs (action : ActionRequest) (hr : w.stored r.incidentId = some r) :
    RunsIn env mode (performAction cfg incidentId action r) w fun res v ↦
      match res with
      | .ok o => PerformedIn cfg env mode w action r o v
      | .error _ => Raises cfg env w action ∧
          ∃ c, v.stored r.incidentId = some (visible mode r c) ∧ c.state = .executing := by
  refine RunsIn.newTraceEntry fun entry ↦ RunsIn.assign ?_
  -- From here on the stored record shows the state `executing` in fallback mode.
  let r₁ : IncidentRecord := { r with state := .executing }.withTrace entry
  let w₁ : World := { w with tick := w.tick + 3 }
  have hr₁ : (w₁.touched mode r₁).stored r.incidentId = some (visible mode r r₁) :=
    @World.stored_assigned mode w₁ r r r₁ (by cases mode <;> exact hr)
  have hreports :
      executionReports env (w₁.touched mode r₁) action = executionReports env w action :=
    (executionReports_touched w₁ r₁ action).trans (executionReports_tick w _ action)
  refine Prog.Runs.bind (executionAgentRun_runs action (w₁.touched mode r₁)) ?_ ?_
  swap
  -- The attempts raise, and nothing after them runs.
  · rintro e v ⟨hrows, -, h⟩
    exact ⟨Or.inl (hreports.symm.trans h), r₁, (World.stored_congr hrows _).trans hr₁, rfl⟩
  rintro result v ⟨hrows, hverifications, hresult, hactionId, hprefix, hlogged⟩
  refine RunsIn.newTraceEntry fun entry' ↦ RunsIn.assign ?_
  let r₂ : IncidentRecord :=
    { r₁ with executedActions := r₁.executedActions ++ [result] }.withTrace entry'
  let w₂ : World := { v with tick := v.tick + 3 }
  have hr₂ : (w₂.touched mode r₂).stored r.incidentId = some (visible mode r r₂) :=
    @World.stored_assigned mode w₂ r r₁ r₂ ((World.stored_congr hrows _).trans hr₁)
  have hcount : (w₂.touched mode r₂).verifications = w.verifications := by
    rw [World.touched_verifications]
    exact hverifications.trans (World.touched_verifications w₁ r₁)
  have hverification (success : Bool) : verifiedAfter cfg env (w₂.touched mode r₂) action success
      = verifiedAfter cfg env w action success := verifiedAfter_congr hcount action success
  refine (verifyPerformed_runs action result hr₂).mono fun res u h ↦ ?_
  rcases res with e | o
  · rw [hverification] at h
    exact ⟨Or.inr ⟨_, hreports.symm.trans hresult, h.1⟩, r₂, (World.stored_congr h.2 _).trans hr₂,
      rfl⟩
  · obtain ⟨hverified, hrecovered, hid, hexecuted, rfl, hstored, hevents⟩ := h
    rw [hverification] at hverified
    refine ⟨hreports.symm.trans hresult, hverified, ?_, hid, hexecuted, hactionId, hstored, ?_,
      fun hclaim ↦ ?_⟩
    · intro hverify hok hdry
      obtain ⟨n, hle, hlt⟩ := hrecovered hverify hok hdry
      exact ⟨n, hcount ▸ hle, hlt⟩
    · rw [World.touched_events] at hprefix hevents
      exact hprefix.trans hevents
    · have hadapter := hlogged (by rwa [World.claimAnswer_touched, World.claimAnswer_tick])
      rw [World.touched_events] at hevents
      refine (hadapter.of_prefix ?_).trans hevents
      rw [World.touched_events]

/-! ## The end -/

/-- The state `execute_action` leaves the incident in. -/
def finalState (success verified : Bool) : IncidentState :=
  if success && verified then .resolved else .investigating

theorem finalState_eq_resolved {success verified : Bool}
    (h : finalState success verified = .resolved) : success = true ∧ verified = true := by
  rw [finalState] at h
  split_ifs at h with hboth
  exact Bool.and_eq_true_iff.mp hboth

/-- The audit row of an executed action. -/
def IsActionExecuted (incidentId : String) (payload : ExecutePayload) (e : AuditEvent) : Prop :=
  e.eventType = "action_executed" ∧
    ∃ decision success, e.payload = executedPayload incidentId payload decision success

theorem escalate_runs (payload : ExecutePayload) (g : Authorized) (success : Bool) (w : World) :
    RunsIn env mode (escalate incidentId payload g success) w fun res v ↦
      res = .ok () ∧ v.rows = w.rows ∧ v.verifications = w.verifications ∧
        w.events <+: v.events := by
  rw [escalate]
  split_ifs
  · exact ⟨rfl, rfl, rfl, List.prefix_append _ _⟩
  · exact ⟨rfl, rfl, rfl, List.prefix_rfl⟩

theorem recordOutcome_runs (payload : ExecutePayload) (g : Authorized) (dryRun : Bool)
    {o : Performed} (hid : o.incident.incidentId = r.incidentId)
    (hstored : w.stored r.incidentId = some (visible mode r o.incident)) :
    RunsIn env mode (recordOutcome incidentId payload g dryRun o) w fun res v ↦
      match res with
      | .ok _ =>
        (mode = .postgres →
            transitionAllowed r.state (finalState o.result.success o.verified) = true) ∧
          (∃ s, v.stored r.incidentId = some s ∧ s.state = finalState o.result.success o.verified ∧
            s.executedActions = o.incident.executedActions) ∧
          v.verifications = w.verifications ∧ w.events <+: v.events ∧
          Appended w v (IsActionExecuted incidentId payload)
      | .error _ => mode = .postgres ∧
          transitionAllowed r.state (finalState o.result.success o.verified) = false ∧
          v.rows = w.rows ∧ v.events = w.events := by
  let next := withOutcome o.incident dryRun o.result.success o.verified
  have hnext : w.stored next.incidentId = some (visible mode r o.incident) := by
    rw [← hstored, ← hid]
    rfl
  refine Prog.Runs.bind (save_runs hnext) ?_ ?_
  · rintro r' v ⟨hevents, hverifications, hallowed, hr', hrows⟩
    have hstored' := World.stored_of_saved hr' hrows
    refine RunsIn.audit (Prog.Runs.bind (escalate_runs payload g _ _) ?_ ?_)
    · rintro _ u ⟨-, hrows', hverifications', hevents'⟩
      have happended : Appended w u (IsActionExecuted incidentId payload) :=
        Appended.trans ⟨_, by rw [← hevents], _, List.mem_singleton_self _, rfl, _, _, rfl⟩ hevents'
      refine ⟨fun hmode ↦ ?_, ⟨r', ?_, ?_, ?_⟩, hverifications'.trans hverifications, ?_, happended⟩
      · subst hmode
        exact hallowed rfl
      · rw [← hid]
        exact (World.stored_congr hrows' _).trans hstored'
      · obtain ⟨updatedAt, rfl⟩ := hr'
        rfl
      · obtain ⟨updatedAt, rfl⟩ := hr'
        rfl
      · obtain ⟨new, hnew, -⟩ := happended
        exact ⟨new, hnew.symm⟩
    · rintro _ _ ⟨⟨⟩, -⟩
  · rintro e v ⟨hevents, -, hmode, hrefused, hrows⟩
    subst hmode
    exact ⟨rfl, hrefused, hrows, hevents⟩

/-- What a request that was let through has come to when it returns. -/
structure Executed (cfg : Settings) (env : Env) (mode : Mode) (w : World) (incidentId : String)
    (payload : ExecutePayload) (r : IncidentRecord) (result : ActionResult) (verified : Bool)
    (v : World) : Prop where
  reports : executionReports env w (runAction cfg payload) = some result.success
  verification : verifiedAfter cfg env w (runAction cfg payload) result.success = some verified
  recovered : cfg.executePostVerifyEnabled = true → verified = true →
    (runAction cfg payload).dryRun = false → Recovered env w v
  allowed : mode = .postgres → transitionAllowed r.state (finalState result.success verified) = true
  actionId : result.actionId = payload.action.actionId
  stored : ∃ s, v.stored incidentId = some s ∧ s.state = finalState result.success verified ∧
    s.executedActions = r.executedActions ++ [result]
  adapterLogged :
    w.claimAnswer env payload.action.idempotencyKey payload.action.actionId = .ok true →
      Appended w v (IsAdapterExecution (runAction cfg payload))
  executedLogged : Appended w v (IsActionExecuted incidentId payload)

/-- How a request that was let through can end in an exception. -/
inductive Aborted (cfg : Settings) (env : Env) (mode : Mode) (w : World) (incidentId : String)
    (payload : ExecutePayload) (r : IncidentRecord) (v : World) : Prop
  /-- The attempts raise, or the verification does. -/
  | raised (c : IncidentRecord) (h : Raises cfg env w (runAction cfg payload))
      (hstored : v.stored incidentId = some (visible mode r c)) (hc : c.state = .executing)
  /-- The last save is refused. -/
  | refused (success verified : Bool)
      (hreports : executionReports env w (runAction cfg payload) = some success)
      (hverified : verifiedAfter cfg env w (runAction cfg payload) success = some verified)
      (hmode : mode = .postgres)
      (hrefused : transitionAllowed r.state (finalState success verified) = false)
      (hstored : v.stored incidentId = some r)

/-- An aborted request that leaves the incident resolved leaves it alone. In fallback mode it would
show the state `executing`. -/
theorem Aborted.stored_of_resolved {u : World} {r : IncidentRecord} {payload : ExecutePayload}
    (h : Aborted cfg env mode u incidentId payload r v)
    (hafter : ∀ s ∈ v.stored incidentId, s.state = .resolved) : v.stored incidentId = some r := by
  cases h with
  | raised s _ hs hexecuting =>
    cases mode with
    | postgres => exact hs
    | fallback =>
      rw [visible] at hs
      cases hexecuting.symm.trans (hafter s hs)
  | refused _ _ _ _ _ _ hs => exact hs

/-- **What an execution leaves behind.** In either mode. -/
theorem executeAction_runs (cfg : Settings) (incidentId : String) (payload : ExecutePayload)
    (w : World) :
    RunsIn env mode (executeAction cfg incidentId payload) w fun res v ↦
      match res with
      | .ok _ => ∃ r plan result verified, LetsThrough cfg env w incidentId payload r plan ∧
          Executed cfg env mode w incidentId payload r result verified v
      | .error _ =>
        (∀ r plan, ¬ LetsThrough cfg env w incidentId payload r plan) ∧ KeepsState w v incidentId ∨
          ∃ r plan, LetsThrough cfg env w incidentId payload r plan ∧
            Aborted cfg env mode w incidentId payload r v := by
  refine Prog.Runs.bind (authorize_runs cfg incidentId payload w) ?_ fun e v h ↦ Or.inl h
  rintro g _ ⟨hlets, tick, rfl⟩
  have hid : g.incident.incidentId = incidentId := key_of_lookup hlets.stored
  have hr : ({ w with tick } : World).stored g.incident.incidentId = some g.incident :=
    hid ▸ hlets.stored
  refine Prog.Runs.bind (performAction_runs (runAction cfg payload) hr) ?_ ?_
  · rintro o v ho
    refine (recordOutcome_runs payload g _ ho.incidentId ho.stored).mono fun res u hu ↦ ?_
    have hreports := ho.reports
    rw [executionReports_tick] at hreports
    rcases res with e | a
    -- Postgres refuses the last transition: the action has run, and the record is the old one.
    · refine Or.inr ⟨g.incident, g.plan, hlets, ?_⟩
      obtain ⟨hmode, hrefused, hrows, -⟩ := hu
      refine .refused _ _ hreports ho.verified hmode hrefused ?_
      rw [← hid, World.stored_congr hrows, ho.stored, hmode]
      rfl
    · obtain ⟨hallowed, ⟨s, hs, hstate, hexecuted⟩, hverifications, hevents, hlogged⟩ := hu
      refine ⟨g.incident, g.plan, o.result, o.verified, hlets, hreports, ho.verified,
        fun hverify hok hdry ↦ ?_, hallowed, ho.actionId, ⟨s, hid ▸ hs, hstate, ?_⟩,
        fun hclaim ↦ ?_, ?_⟩
      · obtain ⟨n, hle, hlt, hmetrics⟩ := ho.recovered hverify hok hdry
        exact ⟨n, hle, hverifications ▸ hlt, hmetrics⟩
      · rw [hexecuted, ho.executed]
      · exact (ho.logged ((World.claimAnswer_tick env w tick _ _).trans hclaim)).trans hevents
      · exact hlogged.of_prefix ho.events
  · rintro e v ⟨hraises, c, hstored, hc⟩
    rw [Raises] at hraises
    rw [executionReports_tick] at hraises
    exact Or.inr ⟨g.incident, g.plan, hlets, .raised c hraises (hid ▸ hstored) hc⟩

/-! ## The two endpoints -/

/-- What an execute call comes to: the world `execute_action` starts in, the incident and the
request. `none` if `execute_incident` finds nothing to execute. -/
def Call.execution (w : World) : Call → Option (World × String × ExecutePayload)
  | .executeAction incidentId payload => some (w, incidentId, payload)
  | .executeIncident incidentId payload => do
    let incident ← w.stored incidentId
    let graph ← incident.pendingActionGraph.filter fun graph ↦ !graph.actions.isEmpty
    let action ← pendingAction graph payload.actionId
    some ({ w with tick := w.tick + 1 }, incidentId, forwardedPayload incident payload action)
  | _ => none

/-- The call is an execute request on the incident. -/
def Call.Executes (incidentId : String) : Call → Prop
  | .executeAction i _ | .executeIncident i _ => i = incidentId
  | _ => False

theorem run_discard {α : Type} (p : Handler α) (w : World) :
    ((discard p).run (serve env mode) w).2 = (p.run (serve env mode) w).2 := by
  rw [discard, Prog.bind_eq, Prog.run_bind]
  rcases p.run (serve env mode) w with ⟨e | a, v⟩ <;> rfl

theorem Call.execution_rows {c : Call} {u : World} {payload : ExecutePayload}
    (h : c.execution w = some (u, incidentId, payload)) :
    u.rows = w.rows ∧ u.events = w.events ∧ u.verifications = w.verifications := by
  cases c with
  | executeAction => cases h; exact ⟨rfl, rfl, rfl⟩
  | executeIncident =>
    simp only [execution, Option.bind_eq_bind, Option.bind_eq_some_iff] at h
    obtain ⟨r, -, graph, -, action, -, ⟨⟩⟩ := h
    exact ⟨rfl, rfl, rfl⟩
  | _ => cases h

/-- The incident an execute call of a run finds is sound. -/
theorem Call.execution_sound {w₀ u : World} {calls : List Call} {c : Call}
    {payload : ExecutePayload} {r : IncidentRecord} (hw₀ : NoIncidents w₀)
    (h : c.execution (IncidentPlatform.after cfg env mode w₀ calls) = some (u, incidentId, payload))
    (hr : u.stored incidentId = some r) : Sound r := by
  have hsound : (IncidentPlatform.after cfg env mode w₀ calls).Every Sound := sound_after hw₀
  exact hsound.congr (execution_rows h).1 incidentId r hr

theorem Call.execution_executes {c : Call} {i : String} {u : World} {payload : ExecutePayload}
    (hc : c.Executes incidentId) (h : c.execution w = some (u, i, payload)) : i = incidentId := by
  cases c with
  | executeAction =>
    cases h
    exact hc
  | executeIncident =>
    simp only [execution, Option.bind_eq_bind, Option.bind_eq_some_iff] at h
    obtain ⟨r, -, graph, -, action, -, ⟨⟩⟩ := h
    exact hc
  | _ => exact hc.elim

theorem Call.after_execution {c : Call} {u : World} {payload : ExecutePayload}
    (h : c.execution w = some (u, incidentId, payload)) :
    c.after cfg env mode w
      = ((IncidentPlatform.executeAction cfg incidentId payload).run (serve env mode) u).2 := by
  cases c with
  | executeAction =>
    cases h
    exact run_discard _ _
  | executeIncident i request =>
    simp only [execution, Option.bind_eq_bind, Option.bind_eq_some_iff] at h
    obtain ⟨r, hr, graph, hgraph, action, haction, ⟨⟩⟩ := h
    refine (run_discard _ _).trans ?_
    rw [IncidentPlatform.executeIncident, run_perform_bind, serve_get, hr]
    simp only [orHttp, hgraph, haction, Prog.bind_eq, Prog.pure_eq, Prog.ret_bind]
  | _ => cases h

theorem Call.after_runs {c : Call} {u : World} {payload : ExecutePayload}
    (h : c.execution w = some (u, incidentId, payload))
    {Q : Except Exc (PolicyDecision × ActionResult) → World → Prop}
    (hQ : RunsIn env mode (IncidentPlatform.executeAction cfg incidentId payload) u Q) :
    ∃ res, Q res (c.after cfg env mode w) := by
  rw [Call.after_execution h]
  exact ⟨_, hQ⟩

/-- Where an execution of the call needs an approval and is let through, `A` holds of the approval
it presents, in the world the execution starts in. -/
def Call.RunsOn (cfg : Settings) (env : Env) (mode : Mode)
    (A : World → IncidentRecord → ApprovalRecord → ActionRequest → Prop) (w : World) (c : Call) :
    Prop :=
  ∀ u incidentId payload g, c.execution w = some (u, incidentId, payload) →
    Authorizes cfg env mode u incidentId payload g → needsApproval payload g.decision = true →
      ∃ a, presented g.incident payload = some a ∧ A u g.incident a payload.action

/-- What holds whenever an approval is accepted holds of the approvals that executions run on, if it
does not depend on the clock. -/
theorem Call.runsOn_of_always {c : Call}
    {A : World → IncidentRecord → ApprovalRecord → ActionRequest → Prop}
    (hA : ∀ u tick r a action, A { u with tick } r a action → A u r a action)
    (h : (c.handler cfg).Always (serve env mode) (OnAccept A) w) : c.RunsOn cfg env mode A w := by
  intro u incidentId payload g hexec hg hneeds
  have halways : (authorize cfg incidentId payload).Always (serve env mode) (OnAccept A) u := by
    cases c with
    | executeAction =>
      cases hexec
      exact h.bind_left.bind_left
    | executeIncident i request =>
      simp only [execution, Option.bind_eq_bind, Option.bind_eq_some_iff] at hexec
      obtain ⟨r, hr, graph, hgraph, action, haction, ⟨⟩⟩ := hexec
      have hrest := (h.bind_left).2
      rw [serve_get, hr] at hrest
      simp only [orHttp, hgraph, haction, Prog.bind_eq, Prog.pure_eq, Prog.ret_bind] at hrest
      exact hrest.bind_left
    | _ => cases hexec
  obtain ⟨a, tick, hpresented, ha⟩ := authorize_accepts halways hg hneeds
  exact ⟨a, hpresented, hA u tick _ a _ ha⟩

/-- An execution on an approval for which a consequence of `A` fails. -/
theorem Call.not_runsOn {payload : ExecutePayload}
    {A : World → IncidentRecord → ApprovalRecord → ActionRequest → Prop}
    {B : World → IncidentRecord → ActionRequest → Bool}
    (hAB : ∀ u r a action, A u r a action → B u r action = true)
    (hruns : ((authorize cfg incidentId payload).run (serve env mode) w).1.toOption.any
      (fun g ↦ needsApproval payload g.decision && !B w g.incident payload.action) = true) :
    ¬ (Call.executeAction incidentId payload).RunsOn cfg env mode A w := by
  intro h
  obtain ⟨g, hg, hboth⟩ := exists_authorizes_of_any hruns
  rw [Bool.and_eq_true, Bool.not_eq_true'] at hboth
  obtain ⟨a, -, ha⟩ := h w incidentId payload g rfl hg hboth.1
  rw [hAB _ _ _ _ ha] at hboth
  exact absurd hboth.2 (by decide)

/-- A call that finds nothing to execute stores nothing. -/
theorem Call.after_of_no_execution {c : Call} (hc : c.Executes incidentId)
    (h : c.execution w = none) : (c.after cfg env mode w).rows = w.rows := by
  cases c with
  | executeAction => cases h
  | executeIncident i request =>
    -- One of the three lookups finds nothing, and the handler stops there.
    rw [Call.after, Call.handler, run_discard, IncidentPlatform.executeIncident, run_perform_bind,
      serve_get]
    simp only [execution, Option.bind_eq_bind] at h
    rcases hr : w.stored i with _ | r <;> rw [hr] at h
    · rfl
    · simp only [Option.bind_some] at h
      rcases hgraph : r.pendingActionGraph.filter fun graph ↦ !graph.actions.isEmpty
        with _ | graph <;>
        rw [hgraph] at h
      · simp only [orHttp, hgraph, Prog.bind_eq, Prog.pure_eq, Prog.ret_bind]
        rfl
      · simp only [Option.bind_some] at h
        rcases haction : pendingAction graph request.actionId with _ | action <;> rw [haction] at h
        · simp only [orHttp, hgraph, haction, Prog.bind_eq, Prog.pure_eq, Prog.ret_bind]
          rfl
        · cases h
  | _ => exact hc.elim

end

end IncidentPlatform
