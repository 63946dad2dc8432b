import IncidentPlatform.Api.Runs

/-!
# Letting a request through

Up to the run of the action `execute_action` only checks: `gates` is the conjunction of its checks,
as a function of the stored incident, the request and the clock, and `authorize_runs` says that a
request is let through exactly if it passes them. A refused request can save the incident, with one
more blocked action, but leaves its state alone.

The specs here are partial descriptions of a run alone, in either mode: see `Prog.Runs`.
-/

namespace IncidentPlatform

open Interaction

/-- Running a handler in a world. -/
abbrev RunsIn {α : Type} (env : Env) (mode : Mode) (p : Handler α) (w : World)
    (Q : Except Exc α → World → Prop) : Prop :=
  p.Runs (serve env mode) w Q

section

variable {α β : Type} {cfg : Settings} {env : Env} {mode : Mode} {w v : World}
  {incidentId : String} {r b : IncidentRecord} {Q : Except Exc α → World → Prop}

theorem RunsIn.perform {o : Op} {f : Ans o → Handler α}
    (h : RunsIn env mode (f (serve env mode w o).1) (serve env mode w o).2 Q) :
    RunsIn env mode (perform o >>= f) w Q := h

theorem RunsIn.assign {f : Unit → Handler α}
    (h : RunsIn env mode (f ()) (({ w with tick := w.tick + 1 } : World).touched mode r) Q) :
    RunsIn env mode (assign r >>= f) w Q := h

theorem RunsIn.audit {eventType : String} {payload : Dict} {f : Unit → Handler α}
    (h : RunsIn env mode (f ()) { w with
      events := w.events ++ [{ eventType, payload, createdAt := env.now w.tick }]
      tick := w.tick + 1 } Q) :
    RunsIn env mode (IncidentPlatform.perform (.audit eventType payload) >>= f) w Q := h

/-- A trace entry takes two steps, one for its id and one for its time. -/
theorem RunsIn.newTraceEntry {phase message : String} {actionId : Option String}
    {success : Option Bool} {replanRequested : Bool} {f : ExecutionTraceEntry → Handler α}
    (h : ∀ entry, RunsIn env mode (f entry) { w with tick := w.tick + 2 } Q) :
    RunsIn env mode
      (IncidentPlatform.newTraceEntry phase message actionId success replanRequested >>= f) w Q :=
  h _

theorem RunsIn.require {c : Bool} {e : Exc} {f : Unit → Handler α}
    (hfalse : c = false → Q (.error e) w) (htrue : c = true → RunsIn env mode (f ()) w Q) :
    RunsIn env mode (require c e >>= f) w Q := by
  rcases c with _ | _
  · exact hfalse rfl
  · exact htrue rfl

theorem RunsIn.ensure {c : Bool} {status : ℕ} {detail : String} {f : Unit → Handler α}
    (hfalse : c = false → Q (.error (.http status detail)) w)
    (htrue : c = true → RunsIn env mode (f ()) w Q) :
    RunsIn env mode (ensure c status detail >>= f) w Q :=
  RunsIn.require hfalse htrue

theorem RunsIn.orHttp {a : Option β} {status : ℕ} {detail : String} {f : β → Handler α}
    (hnone : a = none → Q (.error (.http status detail)) w)
    (hsome : ∀ x, a = some x → RunsIn env mode (f x) w Q) :
    RunsIn env mode (orHttp a status detail >>= f) w Q := by
  rcases a with _ | x
  · exact hnone rfl
  · exact hsome x rfl

/-! ## Saving -/

theorem upsert_runs {p : IncidentRecord} (hp : w.stored r.incidentId = some p) :
    RunsIn env mode (upsert r) w fun res v ↦
      v.events = w.events ∧ v.verifications = w.verifications ∧
      match res with
      | .ok r' => transitionAllowed p.state r.state = true ∧
          (∃ updatedAt, r' = { r with updatedAt, version := p.version + 1 }) ∧
          v.rows = put IncidentRecord.incidentId w.rows r'
      | .error _ => transitionAllowed p.state r.state = false ∧ v.rows = w.rows := by
  rw [RunsIn, Prog.Runs]
  rw [upsert, run_perform_bind, serve_previous, hp, validateStateTransition, require]
  split_ifs with hallowed
  · exact ⟨rfl, rfl, hallowed, ⟨_, rfl⟩, rfl⟩
  · exact ⟨rfl, rfl, by simpa using hallowed, rfl⟩

/-- The world after assignments to a stored record. -/
def World.shown (w : World) (mode : Mode) (r : IncidentRecord) : World :=
  match mode with
  | .postgres => w
  | .fallback => w.withRow r

theorem World.touched_of_stored (hb : w.stored r.incidentId = some b) :
    w.touched mode r = w.shown mode r := by
  cases mode
  · rfl
  · rw [World.touched, hb]
    rfl

theorem World.stored_shown (hb : w.stored r.incidentId = some b) :
    (w.shown mode r).stored r.incidentId = some (visible mode b r) := by
  cases mode
  · exact hb
  · exact lookup_put_self _ _

/-- What a save leaves: the stamped record, or in Postgres mode the refusal of its transition. -/
theorem save_runs (hb : w.stored r.incidentId = some b) :
    RunsIn env mode (save r) w fun res v ↦
      v.events = w.events ∧ v.verifications = w.verifications ∧
      match res with
      | .ok r' => (mode = .postgres → transitionAllowed b.state r.state = true) ∧
          (∃ updatedAt, r' = { r with updatedAt, version := (visible mode b r).version + 1 }) ∧
          v.rows = put IncidentRecord.incidentId w.rows r'
      | .error _ =>
        mode = .postgres ∧ transitionAllowed b.state r.state = false ∧ v.rows = w.rows := by
  let w' : World := { w with tick := w.tick + 1 }
  have hb' : w'.stored r.incidentId = some b := hb
  have hupsert := @upsert_runs env mode (w'.shown mode r) r _ (World.stored_shown hb')
  refine RunsIn.perform ?_
  rw [serve_touch, World.touched_of_stored hb']
  refine Prog.Runs.mono hupsert fun res v h ↦ ?_
  obtain ⟨hevents, hverifications, h⟩ := h
  -- In fallback mode the record that `upsert` finds is the one it saves, so no transition is
  -- refused.
  cases mode with
  | postgres =>
    refine ⟨hevents, hverifications, ?_⟩
    rcases res with e | r'
    · exact ⟨rfl, h⟩
    · obtain ⟨hallowed, ⟨updatedAt, hr'⟩, hrows⟩ := h
      exact ⟨fun _ ↦ hallowed, ⟨_, hr'⟩, hrows⟩
  | fallback =>
    refine ⟨hevents, hverifications, ?_⟩
    rcases res with e | r'
    · exact absurd h.1 (by simp [transitionAllowed, visible])
    · obtain ⟨-, ⟨updatedAt, rfl⟩, hrows⟩ := h
      exact ⟨fun hmode ↦ by contradiction, ⟨_, rfl⟩, hrows.trans (put_put w.rows rfl)⟩

/-- The stored record after a save. -/
theorem World.stored_of_saved {r' : IncidentRecord} {version : ℤ}
    (hr' : ∃ updatedAt, r' = { r with updatedAt, version })
    (hrows : v.rows = put IncidentRecord.incidentId w.rows r') :
    v.stored r.incidentId = some r' := by
  obtain ⟨updatedAt, rfl⟩ := hr'
  rw [World.stored, hrows]
  exact lookup_put_self _ _

/-! ## Letting a request through -/

/-- The approval the request presents passes every check. -/
def approvalPasses (r : IncidentRecord) (payload : ExecutePayload) (now : Time) : Bool :=
  match payload.approvalId.bind fun approvalId ↦
    (r.approvals.find? fun item ↦ item.approvalId == approvalId).filter ApprovalRecord.approved with
  | none => false
  | some a => payload.approvalToken == some a.approvalToken && decide (now ≤ a.expiresAt) &&
      a.expectedIncidentVersionAtGrant.any (fun granted ↦ decide (r.version ≤ granted + 1)) &&
      approvalMatchesAction a payload.action && approvalMatchesStep a r

/-- The request passes every check before the run of its action. -/
def gates (cfg : Settings) (r : IncidentRecord) (plan : ResponsePlan) (payload : ExecutePayload)
    (now : Time) : Bool :=
  payload.expectedIncidentVersion.all (· == r.version) && (investigateOnlyBlock cfg r).isNone &&
    !(payload.autonomous && cfg.autonomyKillSwitch) &&
    (decisionOn cfg r plan payload "" 0).allowed &&
    (!needsApproval payload (decisionOn cfg r plan payload "" 0) || approvalPasses r payload now)

/-- `execute_action` lets the request through, on the stored record `r` with response plan `plan`.
An approval is checked against the clock at the third reading. -/
structure LetsThrough (cfg : Settings) (env : Env) (w : World) (incidentId : String)
    (payload : ExecutePayload) (r : IncidentRecord) (plan : ResponsePlan) : Prop where
  stored : w.stored incidentId = some r
  responsePlan : r.responsePlan = some plan
  gates : gates cfg r plan payload (env.now (w.tick + 3)) = true

/-- The stored incident, if there is one, has the state it had. -/
def KeepsState (w v : World) (incidentId : String) : Prop :=
  ∀ s ∈ v.stored incidentId, ∃ r ∈ w.stored incidentId, s.state = r.state

theorem KeepsState.of_rows (h : v.rows = w.rows) : KeepsState w v incidentId := by
  intro s hs
  rw [World.stored_congr h] at hs
  exact ⟨s, hs, rfl⟩

theorem allowed_decisionOn (cfg : Settings) (r : IncidentRecord) (plan : ResponsePlan)
    (payload : ExecutePayload) (decisionId decisionId' : String) (t t' : Time) :
    (decisionOn cfg r plan payload decisionId t).allowed
      = (decisionOn cfg r plan payload decisionId' t').allowed := by
  unfold decisionOn evaluate
  dsimp only
  split <;> rfl

theorem withBlocked_incidentId (r : IncidentRecord) (actionType : ActionType) :
    (withBlocked r actionType).incidentId = r.incidentId := by
  rw [withBlocked]
  split_ifs <;> rfl

theorem withBlocked_state (r : IncidentRecord) (actionType : ActionType) :
    (withBlocked r actionType).state = r.state := by
  rw [withBlocked]
  split_ifs <;> rfl

theorem saveBlocked_runs (actionType : ActionType) (hr : w.stored incidentId = some r) :
    RunsIn env mode (save (withBlocked r actionType)) w fun _ v ↦ KeepsState w v incidentId := by
  have hid : r.incidentId = incidentId := key_of_lookup hr
  have hb : w.stored (withBlocked r actionType).incidentId = some r := by
    rw [withBlocked_incidentId, hid, hr]
  refine (save_runs hb).mono fun res v h ↦ ?_
  obtain ⟨-, -, h⟩ := h
  rcases res with e | r'
  · exact KeepsState.of_rows h.2.2
  · obtain ⟨-, hr', hrows⟩ := h
    have hstored := World.stored_of_saved hr' hrows
    rw [withBlocked_incidentId, hid] at hstored
    intro s hs
    cases hstored.symm.trans hs
    obtain ⟨updatedAt, rfl⟩ := hr'
    exact ⟨r, hr, withBlocked_state r actionType⟩

theorem blockInvestigateOnly_runs (payload : ExecutePayload) (hr : w.stored incidentId = some r) :
    RunsIn env mode (blockInvestigateOnly cfg incidentId r payload) w fun res v ↦
      match res with
      | .ok _ => (investigateOnlyBlock cfg r).isNone = true ∧ v = w
      | .error _ => (investigateOnlyBlock cfg r).isNone = false ∧ KeepsState w v incidentId := by
  rw [blockInvestigateOnly]
  rcases investigateOnlyBlock cfg r with _ | decision
  · exact ⟨rfl, rfl⟩
  · refine RunsIn.perform (Prog.Runs.bind (saveBlocked_runs _ hr) ?_ ?_)
    · exact fun _ v hv ↦ ⟨rfl, hv⟩
    · exact fun _ v hv ↦ ⟨rfl, hv⟩

theorem blockDenied_runs (payload : ExecutePayload) (decision : PolicyDecision)
    (hr : w.stored incidentId = some r) :
    RunsIn env mode (blockDenied incidentId r payload decision) w fun res v ↦
      match res with
      | .ok _ => decision.allowed = true ∧ v = w
      | .error _ => decision.allowed = false ∧ KeepsState w v incidentId := by
  rw [blockDenied]
  split_ifs with hallowed
  · exact ⟨hallowed, rfl⟩
  · rw [Bool.not_eq_true] at hallowed
    refine Prog.Runs.bind (saveBlocked_runs _ hr) ?_ ?_
    · exact fun _ v hv ↦ ⟨hallowed, hv⟩
    · exact fun _ v hv ↦ ⟨hallowed, hv⟩

theorem checkApproval_runs (r : IncidentRecord) (payload : ExecutePayload) (w : World) :
    RunsIn env mode (checkApproval r payload) w fun res v ↦
      (∃ tick, v = { w with tick }) ∧
        approvalPasses r payload (env.now w.tick) = match res with
          | .ok _ => true
          | .error _ => false := by
  -- One check after the other, each a factor of `approvalPasses`.
  rw [approvalPasses]
  refine RunsIn.orHttp (fun hid ↦ ⟨⟨_, rfl⟩, by rw [hid]; rfl⟩) fun approvalId hid ↦ ?_
  rw [hid, Option.bind_some]
  refine RunsIn.orHttp (fun ha ↦ ⟨⟨_, rfl⟩, by rw [ha]⟩) fun a ha ↦ ?_
  rw [ha]
  dsimp only
  refine RunsIn.ensure (fun h ↦ ⟨⟨_, rfl⟩, by rw [h]; rfl⟩) fun htoken ↦ RunsIn.perform ?_
  rw [htoken, Bool.true_and]
  refine RunsIn.ensure (fun h ↦ ⟨⟨_, rfl⟩, ?_⟩) fun hnow ↦ ?_
  · rw [serve_utcnow] at h
    rw [h]
    rfl
  rw [serve_utcnow] at hnow
  rw [hnow, Bool.true_and]
  refine RunsIn.orHttp (fun h ↦ ⟨⟨_, rfl⟩, by rw [h]; rfl⟩) fun granted hgranted ↦ ?_
  rw [hgranted, Option.any_some]
  refine RunsIn.ensure (fun h ↦ ⟨⟨_, rfl⟩, by rw [h]; rfl⟩) fun hversion ↦ ?_
  rw [hversion, Bool.true_and]
  refine RunsIn.ensure (fun h ↦ ⟨⟨_, rfl⟩, by rw [h]; rfl⟩) fun haction ↦ ?_
  rw [haction, Bool.true_and]
  exact RunsIn.ensure (fun h ↦ ⟨⟨_, rfl⟩, h⟩) fun hstep ↦ ⟨⟨_, rfl⟩, hstep⟩

theorem acceptApproval_runs (r : IncidentRecord) (payload : ExecutePayload)
    (decision : PolicyDecision) (w : World) :
    RunsIn env mode (acceptApproval r payload decision) w fun res v ↦
      (∃ tick, v = { w with tick }) ∧
        (!needsApproval payload decision || approvalPasses r payload (env.now w.tick))
          = match res with
            | .ok _ => true
            | .error _ => false := by
  rw [acceptApproval]
  split_ifs with hneeds
  · rw [hneeds]
    refine Prog.Runs.bind (checkApproval_runs r payload w) ?_ ?_
    · rintro a _ ⟨⟨tick, rfl⟩, h⟩
      exact ⟨⟨_, rfl⟩, h⟩
    · exact fun e v h ↦ h
  · rw [Bool.not_eq_true] at hneeds
    rw [hneeds]
    exact ⟨⟨_, rfl⟩, rfl⟩

theorem policyDecision_runs (r : IncidentRecord) (plan : ResponsePlan) (payload : ExecutePayload)
    (w : World) :
    RunsIn env mode (policyDecision cfg r plan payload) w fun res v ↦
      (∃ decisionId t, res = .ok (decisionOn cfg r plan payload decisionId t)) ∧
        v = { w with tick := w.tick + 2 } :=
  ⟨⟨_, _, rfl⟩, rfl⟩

/-- A request is let through exactly if it passes the gates. If it is not, no state changes. -/
theorem authorize_runs (cfg : Settings) (incidentId : String) (payload : ExecutePayload)
    (w : World) :
    RunsIn env mode (authorize cfg incidentId payload) w fun res v ↦
      match res with
      | .ok g => LetsThrough cfg env w incidentId payload g.incident g.plan ∧
        ∃ tick, v = { w with tick }
      | .error _ =>
        (∀ r plan, ¬ LetsThrough cfg env w incidentId payload r plan) ∧
          KeepsState w v incidentId := by
  refine RunsIn.perform (RunsIn.orHttp (fun hr ↦ ⟨?_, KeepsState.of_rows rfl⟩) fun r hr ↦ ?_)
  · exact fun r plan h ↦ nomatch hr.symm.trans h.stored
  refine RunsIn.orHttp (fun hplan ↦ ⟨?_, KeepsState.of_rows rfl⟩) fun plan hplan ↦ ?_
  · rintro r' plan' h
    cases hr.symm.trans h.stored
    cases hplan.symm.trans h.responsePlan
  -- From here on a failing check is a gate that is closed.
  have hclosed (h : gates cfg r plan payload (env.now (w.tick + 3)) = false) (r' : IncidentRecord)
      (plan' : ResponsePlan) : ¬ LetsThrough cfg env w incidentId payload r' plan' := by
    intro h'
    cases hr.symm.trans h'.stored
    cases hplan.symm.trans h'.responsePlan
    exact Bool.false_ne_true (h.symm.trans h'.gates)
  rw [gates] at hclosed
  refine RunsIn.ensure (fun h ↦ ⟨hclosed (by simp [h]), KeepsState.of_rows rfl⟩) fun hversion ↦ ?_
  refine Prog.Runs.bind (blockInvestigateOnly_runs payload hr) ?_ ?_
  swap
  · exact fun _ v h ↦ ⟨hclosed (by simp [h.1]), h.2⟩
  rintro _ _ ⟨hinvestigate, rfl⟩
  refine RunsIn.ensure (fun h ↦ ⟨hclosed (by simp [h]), KeepsState.of_rows rfl⟩) fun hswitch ↦ ?_
  refine Prog.Runs.bind (policyDecision_runs r plan payload _) ?_ ?_
  swap
  · rintro _ _ ⟨⟨_, _, ⟨⟩⟩, -⟩
  rintro _ _ ⟨⟨decisionId, t, ⟨⟩⟩, rfl⟩
  refine Prog.Runs.bind (blockDenied_runs payload _ hr) ?_ ?_
  swap
  · rintro _ v ⟨hdenied, hkept⟩
    rw [allowed_decisionOn cfg r plan payload _ "" _ 0] at hdenied
    exact ⟨hclosed (by simp [hdenied]), hkept⟩
  -- The decision depends on neither its id nor its time, which are the only parts that vary.
  rintro _ _ ⟨hallowed, rfl⟩
  rw [allowed_decisionOn cfg r plan payload _ "" _ 0] at hallowed
  refine Prog.Runs.bind (acceptApproval_runs r payload _ _) ?_ ?_
  · rintro _ _ ⟨⟨tick, rfl⟩, happroval⟩
    rw [needsApproval_decisionOn cfg r plan payload _ "" _ 0] at happroval
    refine ⟨⟨hr, hplan, ?_⟩, tick, rfl⟩
    rw [gates]
    rw [hversion, hinvestigate, hswitch, hallowed, Bool.true_and, Bool.true_and, Bool.true_and]
    exact happroval
  · rintro _ _ ⟨⟨tick, rfl⟩, happroval⟩
    rw [needsApproval_decisionOn cfg r plan payload _ "" _ 0] at happroval
    refine ⟨hclosed ?_, KeepsState.of_rows rfl⟩
    rw [hversion, hinvestigate, hswitch, hallowed, Bool.true_and, Bool.true_and, Bool.true_and]
    exact happroval

end

/-! ## What is let through -/

section

variable {cfg : Settings} {env : Env} {mode : Mode} {w v : World} {incidentId : String}
  {payload : ExecutePayload} {r : IncidentRecord} {plan : ResponsePlan} {g : Authorized}

/-- The checks of `execute_action`, run in `w`, let the request through to the execution agent, with
what they have read and decided. -/
def Authorizes (cfg : Settings) (env : Env) (mode : Mode) (w : World) (incidentId : String)
    (payload : ExecutePayload) (g : Authorized) : Prop :=
  ((authorize cfg incidentId payload).run (serve env mode) w).1 = .ok g

theorem Authorizes.letsThrough (h : Authorizes cfg env mode w incidentId payload g) :
    LetsThrough cfg env w incidentId payload g.incident g.plan := by
  have hlets := (authorize_runs cfg incidentId payload w).of_run (Prod.ext h rfl)
  exact hlets.1

/-- On the stored record and its plan. -/
theorem exists_authorizes_iff (hr : w.stored incidentId = some r)
    (hplan : r.responsePlan = some plan) :
    (∃ g, Authorizes cfg env mode w incidentId payload g) ↔
      LetsThrough cfg env w incidentId payload r plan := by
  constructor
  · rintro ⟨g, hg⟩
    have hlets := hg.letsThrough
    cases hr.symm.trans hlets.stored
    cases hplan.symm.trans hlets.responsePlan
    exact hlets
  · intro h
    rcases hrun : (authorize cfg incidentId payload).run (serve env mode) w with ⟨e | g, v⟩
    · have hrefused := (authorize_runs cfg incidentId payload w).of_run hrun
      exact absurd h (hrefused.1 r plan)
    · exact ⟨g, congrArg Prod.fst hrun⟩

/-- A run of the checks that can be evaluated. -/
theorem exists_authorizes_of_any {B : Authorized → Bool}
    (h : ((authorize cfg incidentId payload).run (serve env mode) w).1.toOption.any B = true) :
    ∃ g, Authorizes cfg env mode w incidentId payload g ∧ B g = true := by
  obtain ⟨g, hg, hB⟩ := (Option.any_eq_true _ _).mp h
  refine ⟨g, ?_, hB⟩
  rw [Authorizes]
  rcases hrun : ((authorize cfg incidentId payload).run (serve env mode) w).1 with e | g' <;>
    rw [hrun] at hg <;> cases hg
  rfl

/-- The approval that a request presents. -/
def presented (r : IncidentRecord) (payload : ExecutePayload) : Option ApprovalRecord := do
  let approvalId ← payload.approvalId
  r.approvals.find? fun item ↦ item.approvalId == approvalId

theorem checkApproval_presented (r : IncidentRecord) (payload : ExecutePayload) :
    (checkApproval r payload).Yields fun a ↦ presented r payload = some a := by
  refine Prog.Yields.bind (orHttp_yields _ _ _) fun approvalId hid ↦ ?_
  refine Prog.Yields.bind (orHttp_yields _ _ _) fun a ha ↦ ?_
  have hpresented : presented r payload = some a := by
    rw [presented, hid]
    exact (Option.filter_eq_some_iff.mp ha).1
  refine Prog.Yields.rest fun _ ↦ yields_perform_bind.mpr fun _ ↦ ?_
  refine Prog.Yields.rest fun _ ↦ ?_
  refine Prog.Yields.rest fun _ ↦ ?_
  refine Prog.Yields.rest fun _ ↦ ?_
  refine Prog.Yields.rest fun _ ↦ ?_
  exact Prog.Yields.rest fun _ ↦ hpresented

theorem run_orHttp_eq_ok {α : Type} {a : Option α} {status : ℕ} {detail : String} {x : α}
    (h : (orHttp a status detail).run (serve env mode) w = (.ok x, v)) : a = some x ∧ v = w := by
  cases a <;> cases h
  exact ⟨rfl, rfl⟩

theorem run_ensure_eq_ok {c : Bool} {status : ℕ} {detail : String} {x : Unit}
    (h : (ensure c status detail).run (serve env mode) w = (.ok x, v)) : v = w := by
  rw [ensure, require] at h
  split_ifs at h <;> cases h
  rfl

/-- A request that needs an approval is let through past an `accepted` mark for the approval it
presents and its action. -/
theorem authorize_accepts
    {A : World → IncidentRecord → ApprovalRecord → ActionRequest → Prop}
    (halways : (authorize cfg incidentId payload).Always (serve env mode) (OnAccept A) w)
    (hg : Authorizes cfg env mode w incidentId payload g)
    (hneeds : needsApproval payload g.decision = true) :
    ∃ a tick, presented g.incident payload = some a ∧
      A { w with tick } g.incident a payload.action := by
  have h : (authorize cfg incidentId payload).run (serve env mode) w
      = (.ok g, ((authorize cfg incidentId payload).run (serve env mode) w).2) := Prod.ext hg rfl
  obtain ⟨answer, w₁, h₁, h⟩ := Prog.run_bind_eq_ok h
  replace halways := halways.bind_ok h₁
  cases h₁
  obtain ⟨r, w₂, h₂, h⟩ := Prog.run_bind_eq_ok h
  replace halways := halways.bind_ok h₂
  obtain ⟨hr, rfl⟩ := run_orHttp_eq_ok h₂
  -- The clock moves on from check to check, the stored record does not.
  have hstored (tick : ℕ) : ({ w with tick } : World).stored incidentId = some r := hr
  obtain ⟨plan, w₃, h₃, h⟩ := Prog.run_bind_eq_ok h
  replace halways := halways.bind_ok h₃
  obtain ⟨-, rfl⟩ := run_orHttp_eq_ok h₃
  obtain ⟨_, w₄, h₄, h⟩ := Prog.run_bind_eq_ok h
  replace halways := halways.bind_ok h₄
  obtain rfl := run_ensure_eq_ok h₄
  obtain ⟨_, w₅, h₅, h⟩ := Prog.run_bind_eq_ok h
  replace halways := halways.bind_ok h₅
  obtain ⟨-, rfl⟩ := (blockInvestigateOnly_runs payload (hstored _)).of_run h₅
  obtain ⟨_, w₆, h₆, h⟩ := Prog.run_bind_eq_ok h
  replace halways := halways.bind_ok h₆
  obtain rfl := run_ensure_eq_ok h₆
  obtain ⟨decision, w₇, h₇, h⟩ := Prog.run_bind_eq_ok h
  replace halways := halways.bind_ok h₇
  obtain ⟨-, rfl⟩ := (policyDecision_runs r plan payload _).of_run h₇
  obtain ⟨_, w₈, h₈, h⟩ := Prog.run_bind_eq_ok h
  replace halways := halways.bind_ok h₈
  obtain ⟨-, rfl⟩ := (blockDenied_runs payload decision (hstored _)).of_run h₈
  obtain ⟨_, w₉, h₉, h⟩ := Prog.run_bind_eq_ok h
  cases h
  replace halways := halways.bind_left
  rw [acceptApproval, if_pos hneeds] at h₉ halways
  obtain ⟨a, w', ha, -⟩ := Prog.run_bind_eq_ok h₉
  have hmark := (halways.bind_ok ha).1
  obtain ⟨⟨tick, rfl⟩, -⟩ := (checkApproval_runs r payload _).of_run ha
  exact ⟨a, tick, (checkApproval_presented r payload).run ha, hmark⟩

end

end IncidentPlatform
