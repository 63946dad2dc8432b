import IncidentPlatform.Api.Site

/-!
# What an execution leaves behind at a site

The specs of `Api.Outcome` once more, for a real action on the checkout service in local mode, with
the adapters in place: what the attempts, the execution, the verification and the whole request have
asked of the service. `executeAction_site` says that the incident is resolved exactly if a success
was reported and no fault is open.
-/

namespace IncidentPlatform

open Interaction

/-! ## Attempts -/

/-- The request that an attempt at an action makes, `none` if it makes none. -/
def askedRequest (cfg : Settings) (s : AdapterSettings) (action : ActionRequest) :
    Option CheckoutRequest :=
  match TypedActionAdapterRegistry.localCall cfg s action with
  | some (.ok call, _) => some call.request
  | _ => none

/-- The checkout adapter has a call for the action, and its parameters are valid. -/
def canRun (s : AdapterSettings) (action : ActionRequest) : Bool :=
  decide (action.actionType ∈ executableActions) &&
    (TypedActionAdapterRegistry.invalidFields s action).isEmpty

section

variable {cfg : Settings} {s : AdapterSettings} {env : Env} {net : Network} {mode : Mode}
  {site : Site} {action : ActionRequest}

theorem localCall_isSome (cfg : Settings) (s : AdapterSettings) (action : ActionRequest) :
    (TypedActionAdapterRegistry.localCall cfg s action).isSome
      = decide (action.actionType ∈ executableActions) := by
  rw [TypedActionAdapterRegistry.localCall]
  cases action.actionType <;> rfl

/-- Only a scaling calls for a number of replicas, and only its number can fail to convert. -/
theorem localCall_scale {call : Except PyException CheckoutCall} {message : String}
    (h : TypedActionAdapterRegistry.localCall cfg s action = some (call, message)) :
    (∀ c, call = .ok c → ∀ n, c = .scale n → action.actionType = .scaleWorkload) ∧
      ∀ e, call = .error e → action.actionType = .scaleWorkload := by
  rw [TypedActionAdapterRegistry.localCall] at h
  cases haction : action.actionType <;> rw [haction] at h <;> dsimp only at h
  case scaleWorkload => exact ⟨fun _ _ _ _ ↦ rfl, fun _ _ ↦ rfl⟩
  all_goals cases h
  · refine ⟨?_, ?_⟩
    · rintro _ ⟨⟩ n h
      cases h
    · exact fun e h ↦ by cases h
  · refine ⟨?_, ?_⟩
    · rintro _ ⟨⟩ n h
      cases h
    · exact fun e h ↦ by cases h

/-- No action asks for a fault, and only a rollback ends one. -/
theorem askedRequest_repairs {request : CheckoutRequest}
    (h : askedRequest cfg s action = some request) :
    request ≠ .injectDeploymentRegression ∧
      (request.repairs = true ↔ action.actionType = .rollbackDeployment) := by
  rw [askedRequest, TypedActionAdapterRegistry.localCall] at h
  cases haction : action.actionType <;> rw [haction] at h <;> dsimp only at h
  case rollbackDeployment =>
    cases h
    exact ⟨CheckoutRequest.noConfusion, iff_of_true rfl rfl⟩
  case restartService =>
    cases h
    exact ⟨CheckoutRequest.noConfusion, iff_of_false Bool.false_ne_true ActionType.noConfusion⟩
  case scaleWorkload =>
    rcases hint : Value.int s _ with e | n <;> rw [hint] at h
    · cases h
    · cases h
      exact ⟨CheckoutRequest.noConfusion, iff_of_false Bool.false_ne_true ActionType.noConfusion⟩
  all_goals cases h

theorem executableActions_supported {actionType : ActionType} (h : actionType ∈ executableActions) :
    actionType ∈ TypedActionAdapterRegistry.supportedActions := by
  revert actionType
  decide

/-- In local mode a real action that passes the checks goes to the checkout client, and any other
fails. -/
theorem registry_run_local (hlocal : cfg.executionMode = "local") (hreal : action.dryRun = false) :
    TypedActionAdapterRegistry.run cfg s (.executor action) action
        = TypedActionAdapterRegistry.runLocal cfg s action ∧
          (TypedActionAdapterRegistry.invalidFields s action).isEmpty = true ∨
      ∃ result : AdapterResult, result.success = false ∧ canRun s action = false ∧
        TypedActionAdapterRegistry.run cfg s (.executor action) action = .ret result := by
  have haccess : (SecurityContext.executor action).canAccessTarget action.target = true := by
    simp [SecurityContext.canAccessTarget, SecurityContext.executor]
  have hmode : (cfg.executionMode == "aws") = false := by
    rw [hlocal]
    decide
  rw [TypedActionAdapterRegistry.run, haccess, hmode, hreal, hlocal]
  by_cases hsupported : action.actionType ∈ TypedActionAdapterRegistry.supportedActions
  · rw [if_neg (not_not_intro hsupported), if_neg (by simp)]
    by_cases hvalid : (TypedActionAdapterRegistry.invalidFields s action).isEmpty = true
    · refine Or.inl ⟨?_, hvalid⟩
      rw [hvalid]
      rfl
    · rw [Bool.not_eq_true] at hvalid
      refine Or.inr ⟨_, rfl, ?_, if_pos (by rw [hvalid]; rfl)⟩
      rw [canRun, hvalid, Bool.and_false]
  · refine Or.inr ⟨_, rfl, ?_, if_pos hsupported⟩
    have hshell : action.actionType ∉ executableActions := fun h ↦
      hsupported (executableActions_supported h)
    rw [canRun, decide_eq_false hshell, Bool.false_and]

/-! ## Trying -/

/-- What came of an action that was tried at a site: `reported` is the success that was reported, if
any was. -/
structure Tried (cfg : Settings) (s : AdapterSettings) (net : Network) (action : ActionRequest)
    (site later : Site) (reported : Option Bool) : Prop where
  world : ∃ attempts tick, later.world = { site.world with attempts, tick }
  served : ∃ requests, later.served = site.served ++ requests ∧
    (∀ request ∈ requests, askedRequest cfg s action = some request) ∧
    (reported = some true → requests ≠ [])
  reliable : net.Reliable → ∀ success, reported = some success → success = canRun s action
  /-- Only the number of replicas of a scaling can be refused. -/
  returns : net.Reliable → action.actionType ≠ .scaleWorkload → reported ≠ none

theorem Tried.trans {middle later : Site} {failed reported : Option Bool}
    (h : Tried cfg s net action site middle failed)
    (h' : Tried cfg s net action middle later reported) :
    Tried cfg s net action site later reported := by
  obtain ⟨attempts, tick, hworld⟩ := h.world
  obtain ⟨attempts', tick', hworld'⟩ := h'.world
  obtain ⟨requests, hserved, hasked, -⟩ := h.served
  obtain ⟨requests', hserved', hasked', hsuccess'⟩ := h'.served
  refine ⟨⟨attempts', tick', by rw [hworld', hworld]⟩, ⟨requests ++ requests', ?_, ?_, ?_⟩,
    h'.reliable, h'.returns⟩
  · rw [hserved', hserved, List.append_assoc]
  · exact List.forall_mem_append.mpr ⟨hasked, hasked'⟩
  · exact fun h ↦ List.append_ne_nil_of_right_ne_nil _ (hsuccess' h)

/-- The success that an attempt reports. -/
def reportedSuccess : Except Fault AdapterResult → Option Bool
  | .ok result => some result.success
  | .error _ => none

theorem request_served (net : Network) (site : Site) (request : CheckoutRequest) :
    (∃ requests, (site.request net request).2.served = site.served ++ requests ∧
      ∀ q ∈ requests, q = request) ∧
    (∀ d, (site.request net request).1 = .ok d →
      (site.request net request).2.served = site.served ++ [request]) := by
  rw [Site.request]
  rcases net.deliver site.sent with _ | f | f
  · exact ⟨⟨[request], rfl, by simp⟩, fun d h ↦ rfl⟩
  · exact ⟨⟨[], by simp [Delivery.reaches], by simp⟩, fun d h ↦ by cases h⟩
  · exact ⟨⟨[request], rfl, by simp⟩, fun d h ↦ by cases h⟩

/-- The answer of the checkout client that an adapter passes on. -/
theorem runLocal_site {call : CheckoutCall} {message : String}
    (hcall : TypedActionAdapterRegistry.localCall cfg s action = some (.ok call, message)) :
    ((TypedActionAdapterRegistry.runLocal cfg s action).interp fun o ↦
        Prog.op (EdgeOp.adapter o)).run (serveSite cfg.text env net mode) site =
      ((site.request net call.request).1.map fun d ↦
        { success := true
          message
          details := [("dry_run", .bool false), ("workload", .dict d)] },
        (site.request net call.request).2) := by
  rw [TypedActionAdapterRegistry.runLocal, hcall]
  change (Prog.interp _ ((Prog.ofExcept (site.request net call.request).1).bind _)).run _
    (site.request net call.request).2 = _
  rcases (site.request net call.request).1 with f | d <;> rfl

/-- Nothing was asked of the checkout service. -/
theorem Tried.of_not_served {later : Site} {answer : Except Fault AdapterResult}
    (hworld : ∃ attempts tick, later.world = { site.world with attempts, tick })
    (hserved : later.served = site.served)
    (hfailed : ∀ result, answer = .ok result → result.success = false ∧ canRun s action = false)
    (hraised : ∀ f, answer = .error f → net.Reliable → action.actionType = .scaleWorkload) :
    Tried cfg s net action site later (reportedSuccess answer) := by
  refine ⟨hworld, ⟨[], by rw [hserved, List.append_nil], by simp, ?_⟩, ?_, ?_⟩
  all_goals rcases answer with f | result
  · exact fun h ↦ by cases h
  · exact fun h ↦ by cases (hfailed result rfl).1.symm.trans (Option.some.inj h)
  · exact fun _ success h ↦ by cases h
  · rintro - _ ⟨⟩
    rw [(hfailed result rfl).1, (hfailed result rfl).2]
  · exact fun hnet hscale _ ↦ hscale (hraised f rfl hnet)
  · exact fun _ _ ↦ Option.some_ne_none _

/-- A call of the checkout client for an action with valid parameters. -/
theorem Tried.of_request {call : CheckoutCall} {message : String} {start later : Site}
    {answer : Except Fault AdapterResult}
    (hcall : TypedActionAdapterRegistry.localCall cfg s action = some (.ok call, message))
    (hvalid : (TypedActionAdapterRegistry.invalidFields s action).isEmpty = true)
    (hworld : ∃ attempts tick, start.world = { site.world with attempts, tick })
    (hstart : start.served = site.served)
    (hanswer : answer = (start.request net call.request).1.map fun d ↦
      { success := true
        message
        details := [("dry_run", .bool false), ("workload", .dict d)] })
    (hlater : later = (start.request net call.request).2) :
    Tried cfg s net action site later (reportedSuccess answer) ∧
      (net.Reliable → answer ≠ .error .timeoutError) := by
  have hasked : askedRequest cfg s action = some call.request := by
    rw [askedRequest, hcall]
  have hcan : canRun s action = true := by
    rw [canRun, ← localCall_isSome cfg s action, hcall, hvalid]
    rfl
  obtain ⟨⟨requests, hserved, hall⟩, hok⟩ := request_served net start call.request
  subst hlater
  rcases hd : (start.request net call.request).1 with f | d <;> rw [hd] at hanswer <;>
    subst hanswer
  · -- All that can go wrong is that the service refuses a number of replicas.
    have hrefused (hnet : net.Reliable) : f = .httpError ∧ action.actionType = .scaleWorkload := by
      rw [Site.request, hnet.deliver] at hd
      cases call with
      | rollback | restart => cases hd
      | scale n =>
        rw [Delivery.send, CheckoutCall.request, CheckoutRequest.answer] at hd
        refine ⟨?_, (localCall_scale hcall).1 _ rfl n rfl⟩
        split_ifs at hd <;> cases hd <;> rfl
    refine ⟨⟨hworld, ⟨requests, by rw [hserved, hstart], ?_, fun h ↦ by cases h⟩,
      fun _ success h ↦ (by cases h), fun hnet h _ ↦ h (hrefused hnet).2⟩, fun hnet h ↦ ?_⟩
    · exact fun q hq ↦ (hall q hq).symm ▸ hasked
    · cases h
      cases (hrefused hnet).1
  · refine ⟨⟨hworld, ⟨[call.request], by rw [hok d hd, hstart], ?_, fun _ ↦ List.cons_ne_nil _ _⟩,
      fun _ success h ↦ ?_, fun _ _ ↦ Option.some_ne_none _⟩, fun _ h ↦ by cases h⟩
    · simpa using hasked
    · cases h
      exact hcan.symm

/-- An attempt at a real action in local mode. -/
theorem attempt_site (hlocal : cfg.executionMode = "local") (hreal : action.dryRun = false)
    (site : Site) :
    ∃ answer later, (withAdapters cfg s (.registryRun action)).run
        (serveSite cfg.text env net mode) site = (.ok answer, later) ∧
      Tried cfg s net action site later (reportedSuccess answer) ∧
      (net.Reliable → answer ≠ .error .timeoutError) := by
  let started : Site := { site with world := { site.world with
    attempts := site.world.attempts + 1
    tick := site.world.tick + 1 } }
  have hworld : ∃ attempts tick, started.world = { site.world with attempts, tick } := ⟨_, _, rfl⟩
  have hrun : (withAdapters cfg s (.registryRun action)).run (serveSite cfg.text env net mode) site
      = (if net.expires site.world.attempts action.timeoutSeconds = true then
          pure (.error .timeoutError)
        else ((TypedActionAdapterRegistry.run cfg s (.executor action) action).interp fun o ↦
          Prog.op (EdgeOp.adapter o)).attempt : Prog EdgeOp EdgeAns Exc _).run
        (serveSite cfg.text env net mode) started := rfl
  have hnothing {answer : Except Fault AdapterResult}
      (hfailed : ∀ result, answer = .ok result → result.success = false ∧ canRun s action = false)
      (hraised : ∀ f, answer = .error f → net.Reliable → action.actionType = .scaleWorkload) :
      Tried cfg s net action site started (reportedSuccess answer) :=
    Tried.of_not_served hworld rfl hfailed hraised
  rw [hrun]
  split_ifs with hexpired
  · have hnot (hnet : net.Reliable) : False := by
      rw [hnet.expires] at hexpired
      cases hexpired
    exact ⟨_, started, rfl, hnothing (fun result h ↦ by cases h) fun _ _ hnet ↦ (hnot hnet).elim,
      fun hnet _ ↦ hnot hnet⟩
  rw [Prog.attempt_run]
  rcases registry_run_local hlocal hreal with ⟨hregistry, hvalid⟩ | ⟨result, hfail, hcan, hregistry⟩
  · rw [hregistry]
    rcases hcall : TypedActionAdapterRegistry.localCall cfg s action with _ | ⟨e | call, message⟩
    · rw [TypedActionAdapterRegistry.runLocal, hcall]
      refine ⟨_, started, rfl, hnothing (fun result h ↦ ?_) (fun f h ↦ by cases h),
        fun _ h ↦ by cases h⟩
      cases h
      rw [canRun, ← localCall_isSome cfg s action, hcall]
      exact ⟨rfl, rfl⟩
    · rw [TypedActionAdapterRegistry.runLocal, hcall]
      exact ⟨_, started, rfl, hnothing (fun result h ↦ by cases h)
        (fun _ _ _ ↦ (localCall_scale hcall).2 e rfl), fun _ h ↦ by cases h⟩
    · rw [runLocal_site hcall]
      exact ⟨_, _, rfl, Tried.of_request hcall hvalid hworld rfl rfl rfl⟩
  · rw [hregistry]
    refine ⟨_, started, rfl, hnothing (fun result' h ↦ ?_) (fun f h ↦ by cases h),
      fun _ h ↦ by cases h⟩
    cases h
    exact ⟨hfail, hcan⟩

theorem SiteRuns.attempt {α : Type} {Q : Except Exc α → Site → Prop}
    {f : Except Fault AdapterResult → Handler α} (hlocal : cfg.executionMode = "local")
    (hreal : action.dryRun = false)
    (h : ∀ answer later, Tried cfg s net action site later (reportedSuccess answer) →
      (net.Reliable → answer ≠ .error .timeoutError) →
      SiteRuns cfg s env net mode (f answer) later Q) :
    SiteRuns cfg s env net mode (IncidentPlatform.perform (.registryRun action) >>= f) site Q := by
  obtain ⟨answer, later, hrun, htried, htimeout⟩ :=
    @attempt_site cfg s env net mode action hlocal hreal site
  rw [SiteRuns, deployed, Prog.bind_eq, Prog.interp_bind, Prog.interp_op, Prog.Runs,
    Prog.run_bind_ok hrun]
  exact h answer later htried htimeout

/-- The success that a run reports. -/
def reportedBy : Except Exc (Bool × String) → Option Bool
  | .ok (success, _) => some success
  | .error _ => none

/-- The attempts at a real action in local mode. -/
theorem runWithRetries_site (hlocal : cfg.executionMode = "local") (hreal : action.dryRun = false)
    (n : ℕ) (site : Site) :
    SiteRuns cfg s env net mode (runWithRetries action (n + 1)) site fun res later ↦
      Tried cfg s net action site later (reportedBy res) := by
  induction n generalizing site with
  | zero =>
    refine SiteRuns.attempt hlocal hreal fun answer later htried htimeout ↦ ?_
    rcases answer with f | result
    · cases f with
      | timeoutError =>
        exact ⟨htried.world, htried.served.imp fun _ h ↦ ⟨h.1, h.2.1, fun h ↦ by cases h⟩,
          fun hnet ↦ absurd rfl (htimeout hnet), fun hnet ↦ absurd rfl (htimeout hnet)⟩
      | _ => exact htried
    · rw [reportedSuccess] at htried
      dsimp only
      split_ifs with hsuccess
      · rw [hsuccess] at htried
        exact htried
      · rw [Bool.not_eq_true] at hsuccess
        rw [hsuccess] at htried
        exact htried
      · contradiction
  | succ n ih =>
    refine SiteRuns.attempt hlocal hreal fun answer later htried htimeout ↦ ?_
    rcases answer with f | result
    · cases f with
      | timeoutError => exact Prog.Runs.mono (ih later) fun _ _ h ↦ htried.trans h
      | _ => exact htried
    · rw [reportedSuccess] at htried
      dsimp only
      split_ifs with hsuccess
      · rw [hsuccess] at htried
        exact htried
      · contradiction
      · exact Prog.Runs.mono (ih later) fun _ _ h ↦ htried.trans h

/-! ## Executing -/

/-- What came of an action that was executed at a site, with this answer to the claim of its key. -/
structure Carried (cfg : Settings) (s : AdapterSettings) (net : Network) (action : ActionRequest)
    (claim : Except Fault Bool) (site later : Site) (reported : Option Bool) : Prop where
  served : ∃ requests, later.served = site.served ++ requests ∧
    (∀ request ∈ requests, request = .businessMetrics ∨
      claim = .ok true ∧ askedRequest cfg s action = some request) ∧
    (reported = some true → claim = .ok true →
      ∃ request ∈ requests, askedRequest cfg s action = some request)
  reliable : net.Reliable → ∀ success, reported = some success →
    claim = .ok true ∧ success = canRun s action ∨ claim = .ok false ∧ success = true
  returns : net.Reliable → action.actionType ≠ .scaleWorkload → claim = .ok true → reported ≠ none

/-- The answer of an execution. -/
def resultSuccess : Except Exc ActionResult → Option Bool
  | .ok result => some result.success
  | .error _ => none

theorem Carried.of_tried {start middle later : Site} {reported : Option Bool}
    (h : Tried cfg s net action start middle reported) (hstart : start.served = site.served)
    (hlater : later.served = middle.served) :
    Carried cfg s net action (.ok true) site later reported := by
  obtain ⟨requests, hserved, hasked, hsuccess⟩ := h.served
  refine ⟨⟨requests, by rw [hlater, hserved, hstart],
    fun request hrequest ↦ Or.inr ⟨rfl, hasked request hrequest⟩, fun h _ ↦ ?_⟩,
    fun hnet success hreported ↦ Or.inl ⟨rfl, h.reliable hnet success hreported⟩,
    fun hnet hscale _ ↦ h.returns hnet hscale⟩
  obtain ⟨request, hrequest⟩ := List.exists_mem_of_ne_nil _ (hsuccess h)
  exact ⟨request, hrequest, hasked request hrequest⟩

/-- The execution of a real action in local mode. -/
theorem executionAgentRun_site (hlocal : cfg.executionMode = "local")
    (hreal : action.dryRun = false) (site : Site) :
    SiteRuns cfg s env net mode (executionAgentRun action) site fun res later ↦
      later.world.rows = site.world.rows ∧ Carried cfg s net action
        (site.world.claimAnswer env action.idempotencyKey action.actionId) site later
        (resultSuccess res) := by
  refine SiteRuns.perform trivial ?_
  let started : Site := { site with world := { site.world with tick := site.world.tick + 1 } }
  have hclaim : site.world.claimAnswer env action.idempotencyKey action.actionId
      = started.world.claimAnswer env action.idempotencyKey action.actionId :=
    (World.claimAnswer_tick env site.world _ _ _).symm
  rw [hclaim]
  let claimed : Site :=
    { started with world := started.world.claimed env action.idempotencyKey action.actionId }
  have hexecute : SiteRuns cfg s env net mode (execute action) started fun res later ↦
      later.world.rows = site.world.rows ∧ Carried cfg s net action
        (started.world.claimAnswer env action.idempotencyKey action.actionId) site later
        (reportedBy res) := by
    refine SiteRuns.perform trivial ?_
    rw [serve_claim]
    rcases started.world.claimAnswer env action.idempotencyKey action.actionId with f | granted
    · exact ⟨rfl, ⟨[], (List.append_nil _).symm, by simp, fun h ↦ by cases h⟩,
        fun _ success h ↦ (by cases h), fun _ _ h ↦ by cases h⟩
    · cases granted with
      | false =>
        refine ⟨rfl, ⟨[], (List.append_nil _).symm, by simp, fun _ h ↦ by cases h⟩, ?_,
          fun _ _ h ↦ by cases h⟩
        rintro - success ⟨⟩
        exact Or.inr ⟨rfl, rfl⟩
      | true =>
        refine SiteRuns.bind (runWithRetries_site hlocal hreal 2 claimed) ?_ ?_
        · rintro ⟨success, message⟩ later htried
          obtain ⟨attempts, tick, hworld⟩ := htried.world
          refine SiteRuns.perform trivial ⟨?_, Carried.of_tried htried rfl rfl⟩
          change later.world.rows = _
          rw [hworld]
          rfl
        · intro e later htried
          obtain ⟨attempts, tick, hworld⟩ := htried.world
          refine ⟨?_, Carried.of_tried htried rfl rfl⟩
          rw [hworld]
          rfl
  refine SiteRuns.bind hexecute ?_ fun e later h ↦ h
  rintro ⟨success, message⟩ later ⟨hrows, hcarried⟩
  exact SiteRuns.perform trivial ⟨hrows, hcarried.served, hcarried.reliable, hcarried.returns⟩

/-! ## Verifying -/

theorem failureInjected_iff (site : Site) :
    site.workload.failureInjected = true ↔ FaultOpen site.served := by
  rw [Site.workload, CheckoutState.after_failureInjected, or_iff_left fun h ↦ Bool.noConfusion h.1]

theorem Site.sane (site : Site) : site.workload.Sane := CheckoutState.sane_default.after site.served

/-- The metrics that arrive are those of the service. -/
theorem request_metrics {d : Dict} (h : (site.request net .businessMetrics).1 = .ok d) :
    d = (site.request net .businessMetrics).2.workload.asdict := by
  have hserved := (request_served net site .businessMetrics).2 d h
  rw [Site.workload, hserved, CheckoutState.after, List.foldl_append]
  rw [Site.request] at h
  rcases hdelivery : net.deliver site.sent with _ | f | f <;> rw [hdelivery] at h <;> cases h
  rfl

/-- A verification that gets an answer gets the metrics as they are, and the verdict that there is
no fault. -/
theorem SiteRuns.verifyRecovery {α : Type} {Q : Except Exc α → Site → Prop}
    {f : Except Fault (Bool × Dict) → Handler α}
    (h : ∀ answer later, (∃ verifications tick,
        later.world = { site.world with verifications, tick }) →
      (∃ requests, later.served = site.served ++ requests ∧ ∀ q ∈ requests, q = .businessMetrics) →
      (∀ recovered metrics, answer = .ok (recovered, metrics) →
        (recovered = true ↔ ¬ FaultOpen later.served) ∧ metrics = later.workload.asdict) →
      (net.Reliable → ∃ verdict, answer = .ok verdict) →
      SiteRuns cfg s env net mode (f answer) later Q) :
    SiteRuns cfg s env net mode (IncidentPlatform.perform .verifyRecovery >>= f) site Q := by
  let metrics := (site.request net .businessMetrics).1
  let later : Site := { (site.request net .businessMetrics).2 with
    world := { site.world with
      verifications := site.world.verifications + 1
      tick := site.world.tick + 1 } }
  have hanswer {d : Dict} (hd : metrics = .ok d) :
      metrics.bind (IncidentPlatform.verifyRecovery cfg.text)
        = .ok (!later.workload.failureInjected, later.workload.asdict) := by
    have hmetrics : d = later.workload.asdict := request_metrics hd
    rw [hd, hmetrics]
    exact CheckoutState.verifyRecovery_asdict cfg.text later.sane
  refine h (metrics.bind (IncidentPlatform.verifyRecovery cfg.text)) later ⟨_, _, rfl⟩
    (request_served net site .businessMetrics).1 ?_ ?_
  · intro recovered verdict hverdict
    rcases hd : metrics with e | d
    · rw [hd] at hverdict
      cases hverdict
    · cases (hanswer hd).symm.trans hverdict
      rw [Bool.not_eq_true', ← Bool.not_eq_true, failureInjected_iff]
      exact ⟨Iff.rfl, rfl⟩
  · intro hnet
    have hd : metrics = .ok site.workload.asdict := by
      change (Site.request net site .businessMetrics).1 = _
      rw [Site.request, hnet.deliver]
      rfl
    exact ⟨_, hanswer hd⟩

/-- The target that a verification knows. -/
def ChecksTarget (action : ActionRequest) : Prop :=
  action.target = "checkout-service" ∨ action.target = "checkout/api"

theorem verifyActionRecovery_site (hlocal : cfg.executionMode = "local")
    (hreal : action.dryRun = false) (htarget : ChecksTarget action) (site : Site) :
    SiteRuns cfg s env net mode (verifyActionRecovery cfg action) site fun res later ↦
      (∃ requests, later.served = site.served ++ requests ∧ ∀ q ∈ requests, q = .businessMetrics) ∧
        later.world.rows = site.world.rows ∧
        ∀ verdict, res = .ok verdict → (verdict.1 = true ↔ ¬ FaultOpen later.served) := by
  have hchecks : (cfg.executionMode == "local" &&
      (action.target == "checkout-service" || action.target == "checkout/api")) = true := by
    simpa [hlocal, ChecksTarget] using htarget
  rw [verifyActionRecovery, hreal, if_neg Bool.false_ne_true, if_pos hchecks]
  refine SiteRuns.verifyRecovery fun answer later hworld hserved hverdict _ ↦ ?_
  obtain ⟨verifications, tick, hworld⟩ := hworld
  have hrows : later.world.rows = site.world.rows := by
    rw [hworld]
  rcases answer with f | ⟨recovered, metrics⟩
  · exact ⟨hserved, hrows, fun verdict h ↦ by cases h⟩
  · refine ⟨hserved, hrows, fun verdict h ↦ ?_⟩
    cases h
    exact (hverdict recovered metrics rfl).1

/-- A record that is verified at a site. -/
theorem verifyPerformed_site {incidentId : String} {b c : IncidentRecord} (result : ActionResult)
    (hlocal : cfg.executionMode = "local") (hverify : cfg.executePostVerifyEnabled = true)
    (hreal : action.dryRun = false) (htarget : ChecksTarget action) (site : Site)
    (hc : site.world.stored c.incidentId = some (visible mode b c)) :
    SiteRuns cfg s env net mode (verifyPerformed cfg incidentId action c result) site
      fun res later ↦
        (∃ requests, later.served = site.served ++ requests ∧
          ∀ q ∈ requests, q = .businessMetrics) ∧
        ∀ o, res = .ok o → o.incident.incidentId = c.incidentId ∧ o.result = result ∧
          (o.verified = true ↔ ¬ FaultOpen later.served) ∧
          later.world.stored c.incidentId = some (visible mode b o.incident) := by
  rw [verifyPerformed, if_pos hverify]
  refine SiteRuns.bind (verifyActionRecovery_site hlocal hreal htarget site) ?_ ?_
  swap
  · exact fun e later h ↦ ⟨h.1, fun o h ↦ by cases h⟩
  rintro ⟨verified, message, details⟩ later ⟨hserved, hrows, hverdict⟩
  refine SiteRuns.newTraceEntry fun entry ↦ SiteRuns.assign (SiteRuns.perform trivial ?_)
  refine ⟨hserved, fun o h ↦ ?_⟩
  cases h
  refine ⟨rfl, rfl, hverdict _ rfl, ?_⟩
  have hstored : ({ later.world with tick := later.world.tick + 3 } : World).stored
      (c.withTrace entry).incidentId = some (visible mode b c) :=
    (World.stored_congr hrows _).trans hc
  exact World.stored_assigned hstored

/-- What `performAction` returns at a site, and the site it returns in. -/
structure PerformedAt (cfg : Settings) (s : AdapterSettings) (env : Env) (net : Network)
    (mode : Mode) (action : ActionRequest) (r : IncidentRecord) (site later : Site)
    (o : Performed) : Prop where
  incidentId : o.incident.incidentId = r.incidentId
  stored : later.world.stored r.incidentId = some (visible mode r o.incident)
  carried : Carried cfg s net action
    (site.world.claimAnswer env action.idempotencyKey action.actionId) site later
    (some o.result.success)
  verified : o.verified = true ↔ ¬ FaultOpen later.served

/-- A verification after an execution. -/
theorem Carried.verified {claim : Except Fault Bool} {middle later : Site} {reported : Option Bool}
    (h : Carried cfg s net action claim site middle reported)
    (hserved : ∃ requests, later.served = middle.served ++ requests ∧
      ∀ q ∈ requests, q = .businessMetrics) :
    Carried cfg s net action claim site later reported := by
  obtain ⟨requests, hrequests, hasked, hsuccess⟩ := h.served
  obtain ⟨checks, hchecks, hall⟩ := hserved
  refine ⟨⟨requests ++ checks, by rw [hchecks, hrequests, List.append_assoc], ?_,
    fun h hclaim ↦ ?_⟩, h.reliable, h.returns⟩
  · exact List.forall_mem_append.mpr ⟨hasked, fun q hq ↦ Or.inl (hall q hq)⟩
  · obtain ⟨request, hmem, hrequest⟩ := hsuccess h hclaim
    exact ⟨request, List.mem_append_left _ hmem, hrequest⟩

theorem performAction_site {incidentId : String} {r : IncidentRecord}
    (hlocal : cfg.executionMode = "local") (hverify : cfg.executePostVerifyEnabled = true)
    (hreal : action.dryRun = false) (htarget : ChecksTarget action) (site : Site)
    (hr : site.world.stored r.incidentId = some r) :
    SiteRuns cfg s env net mode (performAction cfg incidentId action r) site fun res later ↦
      ∀ o, res = .ok o → PerformedAt cfg s env net mode action r site later o := by
  refine SiteRuns.newTraceEntry fun entry ↦ SiteRuns.assign ?_
  let r₁ : IncidentRecord := { r with state := .executing }.withTrace entry
  let w₁ : World := { site.world with tick := site.world.tick + 3 }
  have hr₁ : (w₁.touched mode r₁).stored r.incidentId = some (visible mode r r₁) :=
    @World.stored_assigned mode w₁ r r r₁ (by cases mode <;> exact hr)
  have hclaim : (w₁.touched mode r₁).claimAnswer env action.idempotencyKey action.actionId
      = site.world.claimAnswer env action.idempotencyKey action.actionId :=
    (World.claimAnswer_touched w₁ r₁ _ _).trans (World.claimAnswer_tick env site.world _ _ _)
  refine SiteRuns.bind
    (executionAgentRun_site hlocal hreal { site with world := w₁.touched mode r₁ }) ?_ ?_
  swap
  · exact fun e later _ o h ↦ by cases h
  rintro result middle ⟨hrows, hcarried⟩
  rw [hclaim] at hcarried
  refine SiteRuns.newTraceEntry fun entry' ↦ SiteRuns.assign ?_
  let r₂ : IncidentRecord :=
    { r₁ with executedActions := r₁.executedActions ++ [result] }.withTrace entry'
  let w₂ : World := { middle.world with tick := middle.world.tick + 3 }
  have hr₂ : (w₂.touched mode r₂).stored r.incidentId = some (visible mode r r₂) :=
    @World.stored_assigned mode w₂ r r₁ r₂ ((World.stored_congr hrows _).trans hr₁)
  refine (verifyPerformed_site result hlocal hverify hreal htarget
    { middle with world := w₂.touched mode r₂ } hr₂).mono ?_
  rintro res later ⟨hserved, hverified⟩ o rfl
  obtain ⟨hid, rfl, hverdict, hstored⟩ := hverified o rfl
  have hperformed : Carried cfg s net action
      (site.world.claimAnswer env action.idempotencyKey action.actionId) site middle
      (some o.result.success) := ⟨hcarried.served, hcarried.reliable, hcarried.returns⟩
  exact ⟨hid, hstored, hperformed.verified hserved, hverdict⟩

/-! ## One request -/

/-- What an execute request that returned has come to. -/
structure ExecutedAt (cfg : Settings) (s : AdapterSettings) (env : Env) (net : Network)
    (action : ActionRequest) (incidentId : String) (site later : Site) (success : Bool) :
    Prop where
  stored : ∃ r, later.world.stored incidentId = some r ∧
    (r.state = .resolved ↔ success = true ∧ ¬ FaultOpen later.served)
  carried : Carried cfg s net action
    (site.world.claimAnswer env action.idempotencyKey action.actionId) site later (some success)

theorem finalState_resolved_iff {success verified : Bool} :
    finalState success verified = .resolved ↔ success = true ∧ verified = true := by
  refine ⟨finalState_eq_resolved, ?_⟩
  rintro ⟨rfl, rfl⟩
  rfl

theorem recordOutcome_yields (incidentId : String) (payload : ExecutePayload) (g : Authorized)
    (dryRun : Bool) (o : Performed) :
    (recordOutcome incidentId payload g dryRun o).Yields (· = (g.decision, o.result)) :=
  Prog.Yields.rest fun _ ↦ yields_perform_bind.mpr fun _ ↦
    Prog.Yields.rest fun _ ↦ rfl

/-- An execute request for a real action on the checkout service. -/
theorem executeAction_site {incidentId : String} {payload : ExecutePayload}
    (hlocal : cfg.executionMode = "local") (hverify : cfg.executePostVerifyEnabled = true)
    (hreal : (runAction cfg payload).dryRun = false) (htarget : ChecksTarget payload.action)
    (site : Site) :
    SiteRuns cfg s env net mode (executeAction cfg incidentId payload) site fun res later ↦
      ∀ outcome, res = .ok outcome →
        ExecutedAt cfg s env net (runAction cfg payload) incidentId site later
          outcome.2.success := by
  refine SiteRuns.bind (SiteRuns.inward (authorize_inward cfg incidentId payload)
    (authorize_runs cfg incidentId payload site.world)) ?_ fun e later _ o h ↦ by cases h
  rintro g authorized ⟨⟨hlets, tick, hworld⟩, hserved, -⟩
  have hid : g.incident.incidentId = incidentId := key_of_lookup hlets.stored
  have hr : authorized.world.stored g.incident.incidentId = some g.incident := by
    rw [hworld, hid]
    exact hlets.stored
  have hclaim (key actionId : String) : authorized.world.claimAnswer env key actionId
      = site.world.claimAnswer env key actionId := by
    rw [hworld, World.claimAnswer_tick]
  refine SiteRuns.bind (@performAction_site _ _ _ _ _ (runAction cfg payload) _ _ hlocal hverify
    hreal htarget authorized hr) ?_ fun e later _ o h ↦ by cases h
  intro o performed ho
  obtain ⟨hincident, hstored, hcarried, hverified⟩ := ho o rfl
  rw [hclaim] at hcarried
  have hrecorded : RunsIn env mode
      (recordOutcome incidentId payload g (runAction cfg payload).dryRun o) performed.world
      fun res v ↦ ∀ outcome, res = .ok outcome → outcome = (g.decision, o.result) ∧
        ∃ r, v.stored incidentId = some r ∧ r.state = finalState o.result.success o.verified := by
    intro outcome hok
    refine ⟨?_, ?_⟩
    · have hyields := recordOutcome_yields incidentId payload g (runAction cfg payload).dryRun o
      exact hyields.run (Prod.ext hok rfl)
    have hruns := @recordOutcome_runs env mode _ incidentId _ payload g
      (runAction cfg payload).dryRun o hincident hstored
    rw [RunsIn, Prog.Runs, hok] at hruns
    obtain ⟨-, ⟨r, hr, hstate, -⟩, -⟩ := hruns
    exact ⟨r, hid ▸ hr, hstate⟩
  refine (SiteRuns.inward (recordOutcome_inward incidentId payload g _ o) hrecorded).mono ?_
  rintro res later ⟨houtcome, hlater, -⟩ outcome rfl
  obtain ⟨rfl, r, hr, hstate⟩ := houtcome outcome rfl
  refine ⟨⟨r, hr, ?_⟩, ?_⟩
  · rw [hstate, finalState_resolved_iff, hverified, hlater]
  · obtain ⟨requests, hrequests, hasked, hsuccess⟩ := hcarried.served
    exact ⟨⟨requests, by rw [hlater, hrequests, hserved], hasked, hsuccess⟩, hcarried.reliable,
      hcarried.returns⟩

end

end IncidentPlatform
