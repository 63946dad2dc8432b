import IncidentPlatform.Safety.Routing

/-!
# The routing lock is given back, unless the lookup raises

`route_incident` takes the lock, looks the incident up, and enters the `try` only then whose
`finally` gives the lock back. So it takes one kind of exception for the lock to stay behind, that
of `repository.get`. `given_back_iff` says so, for every outcome of the awaited calls, from every
state, with Redis or with the dictionary, and whatever others do to the hot state meanwhile.

`routeSteps` has one operation for each awaited call. The calls outside the hot state are answered
by a `RouteOutcome`, which can be any. `routeSteps_interp` puts the real calls back, and what comes
of it is `routeIncident`.
-/

namespace IncidentPlatform

open Interaction

/-! ## Await by await -/

inductive RouteOp where
  | uuid4
  | hot (c : Command)
  | get (incidentId : String)
  | executeRoute (incident : IncidentRecord)
  | audit (eventType : String) (payload : Dict)

/-- The answer of a call, or its exception. -/
abbrev RouteAns : RouteOp → Type
  | .uuid4 => String
  | .hot c => c.Ans
  | .get _ => Except Exc (Option IncidentRecord)
  | .executeRoute _ => Except Exc IncidentRecord
  | .audit _ _ => Except Exc Unit

abbrev RouteProg := Prog RouteOp RouteAns Exc

/-- The commands of a call of the hot state. -/
def hotSteps {α : Type} (p : HotProg α) : RouteProg α := p.interp fun c ↦ Prog.op (.hot c)

theorem hotSteps_bind {α β : Type} (p : HotProg α) (q : α → HotProg β) :
    hotSteps (p.bind q) = (hotSteps p).bind fun a ↦ hotSteps (q a) :=
  Prog.interp_bind p q

theorem hotSteps_total {α : Type} {p : HotProg α} (h : p.Total) : (hotSteps p).Total :=
  Prog.Total.interp (fun _ ↦ Prog.op_total _) h

/-- `release_lock`. -/
def releaseSteps (key token : String) : RouteProg Bool := hotSteps (releaseLock .router key token)

/-- `routeLocked`. -/
def routeLockedSteps (incidentId : String) (incident : IncidentRecord) :
    RouteProg IncidentRecord := do
  let updated ← Prog.ofExcept (← Prog.op (RouteOp.executeRoute incident))
  match updated.responsePlan with
  | none => .raise (.http 500 "response plan missing after routing")
  | some plan => do
    Prog.ofExcept (← Prog.op (RouteOp.audit "incident_routed"
      [("incident_id", .str incidentId), ("response_plan", .dict plan.modelDump)]))
    pure updated

/-- `route_incident` once it has the lock. -/
def routeHeldSteps (incidentId lockToken : String) : RouteProg IncidentRecord := do
  match ← Prog.ofExcept (← Prog.op (RouteOp.get incidentId)) with
  | none => do
    let _ ← releaseSteps (lockKey incidentId) lockToken
    .raise (.http 404 "incident not found")
  | some incident =>
    Prog.cleanup ((releaseSteps (lockKey incidentId) lockToken).bind fun _ ↦ pure ())
      (routeLockedSteps incidentId incident)

/-- `route_incident`. -/
def routeSteps (incidentId : String) : RouteProg IncidentRecord := do
  let hex ← Prog.op RouteOp.uuid4
  let lockToken := "token_" ++ hex
  if ← hotSteps (setIfAbsent .router 30 (lockKey incidentId) lockToken) then
    routeHeldSteps incidentId lockToken
  else .raise (.http 423 "incident is currently being routed")

/-! ## The calls in their places -/

/-- What is awaited. -/
def RouteOp.awaited (cfg : Settings) : (o : RouteOp) → HotProg (RouteAns o)
  | .uuid4 => outside (perform .uuid4)
  | .hot c => send c
  | .get incidentId => (outside (perform (.get incidentId))).attempt
  | .executeRoute incident =>
    (outside (IncidentPlatform.executeRoute cfg false incident)).attempt
  | .audit eventType payload => (outside (perform (.audit eventType payload))).attempt

theorem RouteOp.awaited_total (cfg : Settings) (o : RouteOp) : (o.awaited cfg).Total := by
  cases o with
  | uuid4 => exact fun _ ↦ trivial
  | hot c => exact send_total c
  | _ => exact Prog.attempt_total _

section

variable {α : Type} (cfg : Settings)

theorem hotSteps_interp (p : HotProg α) : (hotSteps p).interp (RouteOp.awaited cfg) = p := by
  rw [hotSteps, Prog.interp_interp]
  refine Prog.Issues.interp_eq (?_ : p.Issues _)
  induction p with
  | ret a => trivial
  | raise e => trivial
  | call c k ih => exact ⟨rfl, ih⟩

theorem routeLockedSteps_interp (incidentId : String) (incident : IncidentRecord) :
    (routeLockedSteps incidentId incident).interp (RouteOp.awaited cfg)
      = outside (routeLocked cfg incidentId incident) := by
  simp only [routeLockedSteps, routeLocked, outside, Prog.bind_eq, Prog.interp_bind,
    Prog.interp_op, Prog.interp_ofExcept, RouteOp.awaited, Prog.attempt_bind]
  refine congrArg (Prog.bind _) (funext fun updated ↦ ?_)
  rcases updated.responsePlan with _ | plan
  · rfl
  · simp only [orHttp, Prog.interp_bind, Prog.interp_op, Prog.interp_ofExcept,
      RouteOp.awaited, Prog.attempt_bind]
    rfl

theorem routeSteps_interp (incidentId : String) :
    (routeSteps incidentId).interp (RouteOp.awaited cfg)
      = outside (routeIncident cfg incidentId) := by
  simp only [routeSteps, routeIncident, outside, Prog.bind_eq, Prog.interp_bind, Prog.interp_op,
    hotSteps_interp, RouteOp.awaited]
  refine congrArg (Prog.bind _) (funext fun hex ↦ congrArg (Prog.bind _) (funext fun acquired ↦ ?_))
  cases acquired
  · rfl
  · simp only [if_true, routeHeldSteps, ensure, require, Prog.bind_eq, Prog.interp_bind,
      Prog.interp_op, Prog.interp_ofExcept, RouteOp.awaited, Prog.attempt_bind]
    refine congrArg (Prog.bind _) (funext fun found ↦ ?_)
    rcases found with _ | incident
    · simp only [Prog.interp_bind, Prog.interp_op, releaseSteps, hotSteps_interp]
      rfl
    · simp only [Prog.interp_cleanup (RouteOp.awaited_total cfg), Prog.interp_bind, releaseSteps,
        hotSteps_interp, routeLockedSteps_interp]
      simp only [outside, Prog.interp_cleanup (commands_total _ none), discard, Prog.bind_eq,
        Prog.interp_bind, Prog.interp_op]
      rfl

end

/-! ## Runs -/

/-- What becomes of the calls that are not calls of the hot state. -/
structure RouteOutcome where
  uuid4 : String
  get : Except Exc (Option IncidentRecord)
  executeRoute : IncidentRecord → Except Exc IncidentRecord
  audit : Except Exc Unit

/-- The token of the request. -/
def RouteOutcome.token (outcome : RouteOutcome) : String := "token_" ++ outcome.uuid4

/-- The state the request finds, and how many awaits are behind it. -/
structure RouteState where
  shared : Shared
  awaits : ℕ := 0

/-- Others do not write this token, and Redis stays as it is, up or down. They may remove the
entry, and it may expire. -/
structure Bystander (key token : String) (others : HotState → HotState) : Prop where
  available : ∀ hot, (others hot).available = hot.available
  entry : ∀ hot, (others hot).entry .router key = some token → hot.entry .router key = some token

/-- Before the answer to the `n`-th await comes what others do to the hot state until then. -/
def RouteOutcome.serve (outcome : RouteOutcome) (env : Env) (mode : Mode)
    (others : ℕ → HotState → HotState) (s : RouteState) (o : RouteOp) : RouteAns o × RouteState :=
  let shared := { s.shared with hot := others s.awaits s.shared.hot }
  match o with
  | .uuid4 => (outcome.uuid4, ⟨shared, s.awaits + 1⟩)
  | .hot c =>
    ((serveCommand env mode shared c).1, ⟨(serveCommand env mode shared c).2, s.awaits + 1⟩)
  | .get _ => (outcome.get, ⟨shared, s.awaits + 1⟩)
  | .executeRoute incident => (outcome.executeRoute incident, ⟨shared, s.awaits + 1⟩)
  | .audit _ _ => (outcome.audit, ⟨shared, s.awaits + 1⟩)

/-- In the end nobody finds the lock under the token of the request. -/
def GivenBack (env : Env) (mode : Mode) (incidentId : String) (outcome : RouteOutcome) : Prop :=
  ∀ (s : Shared) (others : ℕ → HotState → HotState),
    s.hot.entry .router (lockKey incidentId) ≠ some outcome.token →
    (∀ n, Bystander (lockKey incidentId) outcome.token (others n)) →
    ((routeSteps incidentId).run (outcome.serve env mode others) ⟨s, 0⟩).2.shared.hot.entry
      .router (lockKey incidentId) ≠ some outcome.token

section

variable {env : Env} {mode : Mode} {outcome : RouteOutcome} {others : ℕ → HotState → HotState}
  {key token : String}

theorem hotSteps_send (c : Command) (s : RouteState) :
    (hotSteps (send c)).run (outcome.serve env mode others) s
      = (.ok (outcome.serve env mode others s (.hot c)).1,
        (outcome.serve env mode others s (.hot c)).2) := rfl

/-- Whoever holds the lock, after `release_lock` it is not this request. -/
theorem releaseSteps_frees (hothers : ∀ n, Bystander key token (others n)) (s : RouteState) :
    ((releaseSteps key token).run (outcome.serve env mode others) s).2.shared.hot.entry .router key
      ≠ some token := by
  rw [releaseSteps, releaseLock, Prog.bind_eq, hotSteps_bind, Prog.run_bind_ok (hotSteps_send _ _)]
  obtain ⟨s', hs'⟩ : ∃ s', (outcome.serve env mode others s (.hot (.get key))).2 = s' := ⟨_, rfl⟩
  have hget : (outcome.serve env mode others s (.hot (.get key))).1 = s'.shared.hot.get key := by
    rw [← hs']
    rfl
  rw [hs', hget, HotState.get]
  have hkept := (hothers s'.awaits).available s'.shared.hot
  by_cases havailable : s'.shared.hot.available = true
  · rw [if_pos havailable]
    rw [havailable] at hkept
    by_cases hcurrent : s'.shared.hot.redis key = some token
    -- The token is found. Whoever has the lock by now loses it.
    · simp only [hcurrent, beq_self_eq_true, if_true, Prog.bind_eq, hotSteps_bind]
      rw [Prog.run_bind_ok (hotSteps_send _ _)]
      have hdelete := HotState.delete_of_available hkept key
      have hanswer : (outcome.serve env mode others s' (.hot (.delete key))).1 = some () :=
        congrArg Prod.fst hdelete
      have hfreed : (outcome.serve env mode others s' (.hot (.delete key))).2.shared.hot
          = (others s'.awaits s'.shared.hot).withRedis key none := congrArg Prod.snd hdelete
      simp only [hanswer]
      change (outcome.serve env mode others s' _).2.shared.hot.entry .router key ≠ _
      rw [hfreed, HotState.entry_withRedis hkept]
      exact Option.some_ne_none _ ∘ Eq.symm
    · simp only [beq_eq_false_iff_ne.mpr hcurrent]
      change s'.shared.hot.entry .router key ≠ _
      rwa [HotState.entry_of_available havailable]
  · rw [if_neg havailable]
    obtain ⟨hlocal, -⟩ := @HotState.localRelease_redis (others s'.awaits s'.shared.hot) .router key
      token
    change ((others s'.awaits s'.shared.hot).localRelease .router key token).2.entry .router key ≠ _
    rw [HotState.entry_of_unavailable (by rw [hlocal, hkept]; exact havailable)]
    exact HotState.localRelease_frees _ _ _

/-- A request that does not get the lock has not written its token. -/
theorem setIfAbsent_refused (hothers : ∀ n, Bystander key token (others n)) {s s' : RouteState}
    (hentry : s.shared.hot.entry .router key ≠ some token)
    (hrun : (hotSteps (setIfAbsent .router 30 key token)).run (outcome.serve env mode others) s
      = (.ok false, s')) : s'.shared.hot.entry .router key ≠ some token := by
  have hothers' (s : RouteState) (h : s.shared.hot.entry .router key ≠ some token) :
      (others s.awaits s.shared.hot).entry .router key ≠ some token :=
    fun htaken ↦ h ((hothers s.awaits).entry _ htaken)
  rw [setIfAbsent, Prog.bind_eq, hotSteps_bind, Prog.run_bind_ok (hotSteps_send _ _)] at hrun
  have hkept : ((others s.awaits s.shared.hot).setNX key token).1 ≠ some true →
      (outcome.serve env mode others s (.hot (.setNX key token 30))).2.shared.hot
        = others s.awaits s.shared.hot := HotState.setNX_refused
  obtain ⟨answer, hanswer⟩ :
      ∃ answer, ((others s.awaits s.shared.hot).setNX key token).1 = answer := ⟨_, rfl⟩
  have hanswer' : (outcome.serve env mode others s (.hot (.setNX key token 30))).1 = answer :=
    hanswer
  rw [hanswer'] at hrun
  rw [hanswer] at hkept
  rcases answer with _ | _ | _
  -- Redis does not answer, and the dictionary has an entry.
  · dsimp only at hrun
    rw [hotSteps_send] at hrun
    obtain ⟨hrefused, rfl⟩ := Prod.mk.inj hrun
    have hfree := hothers' s hentry
    rw [← hkept (by decide)] at hfree
    have hsame := HotState.localSet_refused (Except.ok.inj hrefused)
    change (HotState.localSet _ .router key token).2.entry .router key ≠ _
    rw [hsame]
    exact hothers' _ hfree
  · cases hrun
    rw [hkept (by decide)]
    exact hothers' s hentry
  · cases hrun

theorem releaseSteps_bind_frees {α : Type} {q : Bool → RouteProg α}
    (hq : ∀ released s, ((q released).run (outcome.serve env mode others) s).2 = s)
    (hothers : ∀ n, Bystander key token (others n)) (s : RouteState) :
    (((releaseSteps key token).bind q).run (outcome.serve env mode others) s).2.shared.hot.entry
      .router key ≠ some token := by
  have htotal : (releaseSteps key token).Total := hotSteps_total (releaseLock_total _ _ _)
  obtain ⟨released, s', hrun⟩ := htotal.run (outcome.serve env mode others) s
  have hfreed := @releaseSteps_frees env mode outcome others key token hothers s
  rw [hrun] at hfreed
  rw [Prog.run_bind_ok hrun, hq]
  exact hfreed

/-- If the lookup ends, the lock is given back, whatever comes after. -/
theorem routeHeldSteps_frees {incidentId : String}
    (hothers : ∀ n, Bystander (lockKey incidentId) token (others n))
    {found : Option IncidentRecord} (hget : outcome.get = .ok found) (s : RouteState) :
    ((routeHeldSteps incidentId token).run (outcome.serve env mode others) s).2.shared.hot.entry
      .router (lockKey incidentId) ≠ some token := by
  have hlookup : (Prog.op (RouteOp.get incidentId) : RouteProg _).run
      (outcome.serve env mode others) s
        = (.ok (.ok found), (outcome.serve env mode others s (.get incidentId)).2) := by
    rw [← hget]
    rfl
  rw [routeHeldSteps, Prog.bind_eq, Prog.run_bind_ok hlookup, Prog.ofExcept_ok, Prog.bind_eq,
    Prog.ret_bind]
  rcases found with _ | incident
  · exact releaseSteps_bind_frees (fun _ _ ↦ rfl) hothers _
  · dsimp only
    rw [Prog.cleanup_run_snd]
    exact releaseSteps_bind_frees (fun _ _ ↦ rfl) hothers _

/-- The lock stays behind if the lookup raises and nobody interferes. -/
theorem routeSteps_leaks (incidentId : String) {e : Exc} (hget : outcome.get = .error e) :
    ((routeSteps incidentId).run (outcome.serve env mode fun _ hot ↦ hot)
      ⟨{}, 0⟩).2.shared.hot.entry .router (lockKey incidentId) = some outcome.token := by
  have huuid : (Prog.op RouteOp.uuid4 : RouteProg String).run
      (outcome.serve env mode fun _ hot ↦ hot) ⟨{}, 0⟩ = (.ok outcome.uuid4, ⟨{}, 1⟩) := rfl
  have hacquired : (hotSteps (setIfAbsent .router 30 (lockKey incidentId) outcome.token)).run
      (outcome.serve env mode fun _ hot ↦ hot) ⟨{}, 1⟩ = (.ok true,
        ⟨{ hot := HotState.withRedis {} (lockKey incidentId) (some outcome.token) }, 2⟩) := rfl
  have hlookup (s : RouteState) : (Prog.op (RouteOp.get incidentId) : RouteProg _).run
      (outcome.serve env mode fun _ hot ↦ hot) s = (.ok (.error e), ⟨s.shared, s.awaits + 1⟩) := by
    rw [← hget]
    rfl
  rw [RouteOutcome.token] at hacquired
  rw [routeSteps, Prog.bind_eq, Prog.run_bind_ok huuid]
  dsimp only
  rw [Prog.bind_eq, Prog.run_bind_ok hacquired, if_pos rfl, routeHeldSteps, Prog.bind_eq,
    Prog.run_bind_ok (hlookup _), Prog.ofExcept_error, Prog.bind_eq, Prog.raise_bind,
    Prog.run_raise]
  exact HotState.entry_withRedis rfl _ _ _

variable (env mode) in
/-- **The routing lock is given back exactly if the lookup does not raise.** -/
theorem given_back_iff (incidentId : String) (outcome : RouteOutcome) :
    GivenBack env mode incidentId outcome ↔ ∃ found, outcome.get = .ok found := by
  constructor
  · intro h
    rcases hget : outcome.get with e | found
    · refine absurd (routeSteps_leaks incidentId hget) (h {} (fun _ hot ↦ hot) ?_ fun _ ↦ ?_)
      · exact Option.some_ne_none _ ∘ Eq.symm
      · exact ⟨fun _ ↦ rfl, fun _ ↦ id⟩
    · exact ⟨found, rfl⟩
  · rintro ⟨found, hget⟩ s others hentry hothers
    have hentry₁ : (others 0 s.hot).entry .router (lockKey incidentId) ≠ some outcome.token :=
      fun h ↦ hentry ((hothers 0).entry _ h)
    have huuid : (Prog.op RouteOp.uuid4 : RouteProg String).run (outcome.serve env mode others)
        ⟨s, 0⟩ = (.ok outcome.uuid4, ⟨{ s with hot := others 0 s.hot }, 1⟩) := rfl
    have htotal : (hotSteps (setIfAbsent .router 30 (lockKey incidentId) outcome.token)).Total :=
      hotSteps_total (setIfAbsent_total _ _ _ _)
    obtain ⟨acquired, s₁, hrun⟩ := htotal.run (outcome.serve env mode others)
      ⟨{ s with hot := others 0 s.hot }, 1⟩
    rw [RouteOutcome.token] at hrun
    rw [routeSteps, Prog.bind_eq, Prog.run_bind_ok huuid]
    dsimp only
    rw [Prog.bind_eq, Prog.run_bind_ok hrun]
    cases acquired
    · exact setIfAbsent_refused hothers hentry₁ hrun
    · exact routeHeldSteps_frees hothers hget s₁

end

/-- The database goes away between the two awaits. -/
def lookupRaises : RouteOutcome where
  uuid4 := hexDigits 1
  get := .error (.fault .databaseError)
  executeRoute incident := .ok incident
  audit := .ok ()

theorem lookup_leaks_lock : ¬ GivenBack .demo .postgres checkoutId lookupRaises := by
  intro h
  refine h {} (fun _ hot ↦ hot) (Option.some_ne_none _ ∘ Eq.symm) (fun _ ↦ ?_)
    (routeSteps_leaks checkoutId rfl)
  exact ⟨fun _ ↦ rfl, fun _ ↦ id⟩

end IncidentPlatform
