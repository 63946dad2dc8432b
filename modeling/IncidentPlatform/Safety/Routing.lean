import IncidentPlatform.Api.Commands
import IncidentPlatform.Api.Runs
import IncidentPlatform.Workflow.Operations

/-!
# Routing is exclusive, but for the worker

`route_incident` takes the lock of the incident before it runs `execute_route`, and gives it back
after. As long as Redis answers and no lock expires, two such runs for one incident cannot overlap,
under any schedule of any number of requests: the entry of the lock is there from the `SET NX` that
made it to the `DELETE` of the request that sent it, and only that request sends one.

The worker runs `execute_route` as well, and takes no lock. So its job overlaps with whatever else
routes the incident.
-/

namespace IncidentPlatform

open Interaction

/-- The key of an incident's routing lock. -/
def lockKey (incidentId : String) : String := "incident_lock:" ++ incidentId

theorem lockKey_inj {a b : String} : lockKey a = lockKey b ↔ a = b :=
  String.append_right_inj "incident_lock:"

/-- The incident that is being routed: the next operation is one of `execute_route`. -/
def routing {α : Type} : HotProg α → Option String
  | .call (.world routing _) _ => routing
  | _ => none

/-- The calls that can run `execute_route`. -/
def Call.Routes : Call → Prop
  | .routeIncident _ | .investigateIncident _ | .processIncident _ => True
  | _ => False

/-! ## The lock -/

/-- A request routes an incident, and deletes its lock, only while it holds the lock. The ghost
state says whether it does. -/
def lockContract (incidentId : String) : Contract Command Command.Ans Bool where
  guar held
    | .world routing _ => routing = some incidentId → held = true
    | .delete key => key = lockKey incidentId → held = true
    | _ => True
  rely _
    | .setNX _ _ _, answer => answer ≠ none
    | _, _ => True
  next held
    | .setNX key _ _, answer => if key = lockKey incidentId ∧ answer = some true then true else held
    | .delete key, _ => if key = lockKey incidentId then false else held
    | _, _ => held

/-- At most one request holds the lock, and its entry is in Redis. -/
structure Exclusive {ι : Type*} (incidentId : String) (s : Shared) (held : ι → Bool) : Prop where
  available : s.hot.available = true
  stored : ∀ i, held i = true → (s.hot.redis (lockKey incidentId)).isSome
  unique : ∀ i j, held i = true → held j = true → i = j

section

variable {ι : Type*} [DecidableEq ι] {incidentId : String} {env : Env} {mode : Mode} {s : Shared}
  {held : ι → Bool}

/-- Only the entries of Redis and the ghost state of thread `i` may have changed. -/
theorem Exclusive.idle (h : Exclusive incidentId s held) (i : ι) {s' : Shared}
    (havailable : s'.hot.available = s.hot.available)
    (hredis : s'.hot.redis (lockKey incidentId) = s.hot.redis (lockKey incidentId)) :
    Exclusive incidentId s' (Function.update held i (held i)) := by
  rw [Function.update_eq_self]
  exact ⟨havailable.trans h.available, fun j hj ↦ hredis ▸ h.stored j hj, h.unique⟩

/-- The lock is taken: nobody had it. -/
theorem Exclusive.take (h : Exclusive incidentId s held) (i : ι) (value : String)
    (hfree : s.hot.redis (lockKey incidentId) = none) :
    Exclusive incidentId { s with hot := s.hot.withRedis (lockKey incidentId) (some value) }
      (Function.update held i true) := by
  have hnobody (j : ι) : ¬ held j = true := fun hj ↦ by simpa [hfree] using h.stored j hj
  have honly (j : ι) (hj : Function.update held i true j = true) : j = i := by
    by_contra hne
    rw [Function.update_of_ne hne] at hj
    exact hnobody j hj
  refine ⟨h.available, fun j _ ↦ ?_, fun j l hj hl ↦ (honly j hj).trans (honly l hl).symm⟩
  exact Option.isSome_iff_exists.mpr ⟨value, HotState.withRedis_self _ _⟩

/-- The lock is given back, by the request that held it. -/
theorem Exclusive.release (h : Exclusive incidentId s held) (i : ι) (hi : held i = true) :
    Exclusive incidentId { s with hot := s.hot.withRedis (lockKey incidentId) none }
      (Function.update held i false) := by
  have hnobody (j : ι) : ¬ Function.update held i false j = true := by
    by_cases hj : j = i
    · rw [hj, Function.update_self]
      exact Bool.false_ne_true
    · rw [Function.update_of_ne hj]
      exact fun hheld ↦ hj (h.unique j i hheld hi)
  exact ⟨h.available, fun j hj ↦ absurd hj (hnobody j), fun j _ hj ↦ absurd hj (hnobody j)⟩

/-- One command of a request, while Redis answers. -/
theorem exclusive_step (i : ι) (c : Command) (h : Exclusive incidentId s held)
    (hguar : (lockContract incidentId).guar (held i) c) :
    (lockContract incidentId).rely (held i) c (serveCommand env mode s c).1 ∧
      Exclusive incidentId (serveCommand env mode s c).2 (Function.update held i
        ((lockContract incidentId).next (held i) c (serveCommand env mode s c).1)) := by
  cases c with
  | setNX key value expireSeconds =>
    rcases hentry : s.hot.redis key with _ | entry
    · rw [serveCommand, HotState.setNX_of_free h.available hentry]
      refine ⟨by simp [lockContract], ?_⟩
      by_cases hkey : key = lockKey incidentId
      · subst hkey
        simpa [lockContract] using h.take i value hentry
      · have hkept : Exclusive incidentId { s with hot := s.hot.withRedis key (some value) } _ :=
          h.idle i rfl (HotState.withRedis_of_ne (Ne.symm hkey) _)
        simpa [lockContract, hkey] using hkept
    · rw [serveCommand, HotState.setNX_of_held h.available hentry]
      refine ⟨by simp [lockContract], ?_⟩
      simpa [lockContract] using h.idle i rfl rfl
  | delete key =>
    rw [serveCommand, HotState.delete_of_available h.available]
    refine ⟨trivial, ?_⟩
    -- Only the holder may delete the lock, by its contract.
    by_cases hkey : key = lockKey incidentId
    · subst hkey
      simpa [lockContract] using h.release i (hguar rfl)
    · have hkept : Exclusive incidentId { s with hot := s.hot.withRedis key none } _ :=
        h.idle i rfl (HotState.withRedis_of_ne (Ne.symm hkey) _)
      simpa [lockContract, hkey] using hkept
  | localSet provider key value =>
    obtain ⟨havailable, hredis⟩ := @HotState.localSet_redis s.hot provider key value
    exact ⟨trivial, h.idle i havailable (congrFun hredis _)⟩
  | localRelease provider key token =>
    obtain ⟨havailable, hredis⟩ := @HotState.localRelease_redis s.hot provider key token
    exact ⟨trivial, h.idle i havailable (congrFun hredis _)⟩
  | _ => exact ⟨trivial, h.idle i rfl rfl⟩

end

/-! ## The requests keep to the lock -/

section

variable {incidentId : String} {held : Bool} {α β : Type}

theorem ofRoute_toWorld {p : Handler α} (h : p.Issues Op.ofRoute) : p.Issues Op.toWorld :=
  h.mono fun o ho ↦ by cases o <;> trivial

/-- What never asks the hot state leaves the lock alone. -/
theorem interp_meets {routing : Option String} (hheld : routing = some incidentId → held = true)
    {p : Handler α} (h : p.Issues Op.toWorld) :
    (p.interp (commands ⟨.router, 30⟩ routing)).Meets (lockContract incidentId)
      (fun _ held' ↦ held' = held) held := by
  refine Prog.Meets.of_issues (fun c hc ↦ ?_) (fun _ _ _ _ ↦ id) (fun c answer hc ↦ ?_)
    (interp_commands_issues _ routing h)
  · obtain ⟨o, rfl⟩ := hc
    exact hheld
  · obtain ⟨o, rfl⟩ := hc
    rfl

theorem outside_meets {p : Handler α} (h : p.Issues Op.toWorld) :
    (outside p).Meets (lockContract incidentId) (fun _ held' ↦ held' = held) held :=
  interp_meets (by simp) h

/-- A part of the router that leaves the lock alone, and what follows. -/
theorem outside_meets_bind {p : Handler α} (h : p.Issues Op.toWorld) {f : α → HotProg β}
    {Q : Except Exc β → Bool → Prop} (herror : ∀ e, Q (.error e) held)
    (hf : ∀ a, (f a).Meets (lockContract incidentId) Q held) :
    (outside p >>= f).Meets (lockContract incidentId) Q held :=
  Prog.Meets.bind (outside_meets h) (fun a _ hheld ↦ hheld ▸ hf a) fun e _ hheld ↦ hheld ▸ herror e

/-- After `acquire_lock`, the request holds the lock if it is told so. -/
theorem acquire_meets (routed token : String) :
    (outside (perform (.setIfAbsent (lockKey routed) token))).Meets (lockContract incidentId)
      (fun answer held ↦ answer = .ok true → routed = incidentId → held = true) false := by
  refine ⟨⟨trivial, fun _ _ ↦ False.elim⟩, fun answer hanswer ↦ ?_⟩
  cases answer with
  | none => exact absurd rfl hanswer
  | some created =>
    rintro hcreated rfl
    cases hcreated
    exact if_pos ⟨rfl, rfl⟩

/-- `release_lock` may delete the entry of a lock the request holds. -/
theorem release_meets (routed token : String) (h : routed = incidentId → held = true) :
    (outside (perform (.releaseLock (lockKey routed) token))).Meets (lockContract incidentId)
      (fun _ _ ↦ True) held := by
  have hrelease : (releaseLock .router (lockKey routed) token).Meets (lockContract incidentId)
      (fun _ _ ↦ True) held := by
    refine Prog.Meets.call trivial (fun _ _ ↦ id) fun answer _ ↦ ?_
    rcases answer with _ | current
    · exact Prog.Meets.call trivial (fun _ _ ↦ id) fun _ _ ↦ trivial
    · rw [Prog.ret_bind]
      dsimp only
      split_ifs
      · refine Prog.Meets.call (fun hkey ↦ h (lockKey_inj.mp hkey)) (fun _ _ ↦ id) fun answer _ ↦ ?_
        cases answer
        · exact Prog.Meets.call trivial (fun _ _ ↦ id) fun _ _ ↦ trivial
        · trivial
      · trivial
  exact hrelease.bind_true fun _ _ ↦ trivial

theorem discard_release_meets (routed token : String) (h : routed = incidentId → held = true) :
    (outside (discard (perform (.releaseLock (lockKey routed) token)))).Meets
      (lockContract incidentId) (fun _ _ ↦ True) held := by
  have hdiscard : outside (discard (perform (.releaseLock (lockKey routed) token)))
      = (outside (perform (.releaseLock (lockKey routed) token))).bind fun _ ↦ .ret () :=
    Prog.interp_bind _ _
  rw [hdiscard]
  exact (release_meets routed token h).bind_true fun _ _ ↦ trivial

/-! ## The calls -/

theorem createPlan_issues (cfg : Settings) (routed : String) :
    (createPlan cfg routed).Issues Op.toWorld := by
  rw [createPlan]
  refine issues_bind (issues_perform trivial) fun answer ↦ issues_bind (orHttp_issues _ _ _) fun r ↦
    issues_bind (ofRoute_toWorld (step_issues (planRemediation_issues cfg r))) fun a ↦ ?_
  exact issues_bind (ofRoute_toWorld (step_issues (save_issues _))) fun _ ↦
    issues_bind (issues_perform trivial) fun _ ↦ trivial

theorem markedRouteLocked_meets (cfg : Settings) (routed : String) (r : IncidentRecord)
    (h : routed = incidentId → held = true) :
    (markedRouteLocked cfg routed r).Meets (lockContract incidentId) (fun _ held' ↦ held' = held)
      held := by
  rw [markedRouteLocked]
  have hroute := interp_meets (fun hsome ↦ h (Option.some.inj hsome))
    (ofRoute_toWorld (executeRoute_issues cfg false r))
  refine Prog.Meets.bind hroute (fun updated held' hheld ↦ hheld ▸ ?_) fun _ _ hheld ↦ hheld
  refine outside_meets_bind (orHttp_issues _ _ _) (fun _ ↦ rfl) fun plan ↦ ?_
  exact outside_meets_bind (issues_perform (by trivial)) (fun _ ↦ rfl) fun _ ↦ rfl

theorem markedRouteIncident_meets (cfg : Settings) (routed : String) :
    (markedRouteIncident cfg routed).Meets (lockContract incidentId) (fun _ _ ↦ True) false := by
  rw [markedRouteIncident]
  refine outside_meets_bind (issues_perform (by trivial)) (fun _ ↦ trivial) fun hex ↦ ?_
  refine Prog.Meets.bind (acquire_meets routed _) (fun acquired held hacquired ↦ ?_)
    fun _ _ _ ↦ trivial
  cases acquired with
  | false => exact trivial
  | true =>
    have hheld : routed = incidentId → held = true := hacquired rfl
    refine outside_meets_bind (issues_perform (by trivial)) (fun _ ↦ trivial) fun answer ↦ ?_
    cases answer with
    | none => exact (release_meets routed _ hheld).bind_true fun _ _ ↦ trivial
    | some r =>
      refine Prog.Meets.cleanup (Or.inl fun _ _ _ _ ↦ id) ?_
        (markedRouteLocked_meets cfg routed r hheld)
      rintro result _ rfl
      refine (discard_release_meets routed _ hheld).mono fun answer _ _ ↦ ?_
      cases answer <;> trivial

theorem Call.marked_meets (cfg : Settings) {call : Call} (hroutes : call.Routes)
    (hjob : call ≠ .processIncident incidentId) :
    (call.marked cfg).Meets (lockContract incidentId) (fun _ _ ↦ True) false := by
  cases call with
  | routeIncident routed => exact (markedRouteIncident_meets cfg routed).bind_true fun _ _ ↦ trivial
  | investigateIncident routed =>
    refine Prog.Meets.bind_true (Prog.Meets.bind_true (markedRouteIncident_meets cfg routed)
      fun updated held ↦ Prog.Meets.mono (fun _ _ _ ↦ trivial) (outside_meets ?_)) fun _ _ ↦ trivial
    exact issues_bind (createPlan_issues cfg routed) fun _ ↦
      issues_bind (issues_perform trivial) fun _ ↦ orHttp_issues _ _ _
  | processIncident routed =>
    have hother : some routed = some incidentId → false = true := fun h ↦
      absurd (congrArg Call.processIncident (Option.some.inj h)) hjob
    refine outside_meets_bind (issues_perform (by trivial)) (fun _ ↦ trivial) fun answer ↦ ?_
    cases answer with
    | none =>
      exact Prog.Meets.mono (fun _ _ _ ↦ trivial) (outside_meets (issues_perform (by trivial)))
    | some r =>
      have hroute := interp_meets hother (ofRoute_toWorld (executeRoute_issues cfg true r))
      refine Prog.Meets.bind_true (Prog.Meets.mono (fun _ _ _ ↦ trivial) hroute) fun _ _ ↦ ?_
      exact Prog.Meets.mono (fun _ _ _ ↦ trivial) (outside_meets (issues_perform (by trivial)))
  | _ => exact hroutes.elim

end

/-! ## Exclusion -/

/-- Requests and jobs that start together. -/
def routingPool {ι : Type*} (cfg : Settings) (s : Shared) (call : ι → Call) :
    Pool Command Command.Ans Exc Unit Bool Shared ι where
  shared := s
  thread i := ⟨false, (call i).marked cfg⟩

/-- **Routing is exclusive among the requests.** With Redis available, under any schedule of any
number of requests to route or investigate, and of jobs for other incidents, no two runs of
`execute_route` for one incident overlap. -/
theorem routing_exclusive {ι : Type*} [DecidableEq ι] (cfg : Settings) (env : Env) (mode : Mode)
    (s : Shared) (havailable : s.hot.available = true) (incidentId : String) (call : ι → Call)
    (hroutes : ∀ i, (call i).Routes) (hjob : ∀ i, call i ≠ .processIncident incidentId)
    (schedule : List ι) :
    let pool := (routingPool cfg s call).run (serveCommand env mode)
      (lockContract incidentId).next schedule
    ∀ i j, routing (pool.thread i).prog = some incidentId →
      routing (pool.thread j).prog = some incidentId → i = j := by
  have hstart : Exclusive incidentId s fun _ : ι ↦ false :=
    ⟨havailable, fun _ h ↦ absurd h Bool.false_ne_true, fun _ _ h ↦ absurd h Bool.false_ne_true⟩
  obtain ⟨hexclusive, hmeets⟩ := Pool.run_invariant (lockContract incidentId)
    (Exclusive incidentId) (fun _ _ _ ↦ True)
    (fun t held i c hK hguar _ ↦ exclusive_step i c hK hguar)
    schedule (routingPool cfg s call) hstart
    (fun i ↦ Call.marked_meets cfg (hroutes i) (hjob i)) (Pool.admits_true _ _)
  intro pool i j hi hj
  have hheld (l : ι) (hl : routing (pool.thread l).prog = some incidentId) :
      (pool.thread l).ghost = true := by
    have hl' := hmeets l
    change Prog.Meets _ _ (pool.thread l).prog (pool.thread l).ghost at hl'
    rcases hprog : (pool.thread l).prog with a | e | ⟨c, k⟩
    · rw [hprog] at hl
      cases hl
    · rw [hprog] at hl
      cases hl
    · rw [hprog] at hl hl'
      cases c with
      | world routing o => exact hl'.1.1 hl
      | _ => cases hl
  exact hexclusive.unique i j (hheld i hi) (hheld j hj)

/-- A request to route the incident of the demo alert, and a job of the worker for it. -/
def requestAndJob : Pool Command Command.Ans Exc Unit Bool Shared (Fin 2) :=
  routingPool Settings.demo
    { world := after Settings.demo Env.demo .postgres {} [.ingest checkoutAlert] }
    fun i ↦ if i.val = 0 then .routeIncident checkoutId else .processIncident checkoutId

/-- The worker reads the incident, and the request then takes the lock nobody holds. -/
theorem worker_routes_too :
    ¬ ∀ (schedule : List (Fin 2)) (i j : Fin 2),
      routing ((requestAndJob.run (serveCommand Env.demo .postgres) (lockContract checkoutId).next
        schedule).thread i).prog = some checkoutId →
      routing ((requestAndJob.run (serveCommand Env.demo .postgres) (lockContract checkoutId).next
        schedule).thread j).prog = some checkoutId → i = j := by
  intro h
  exact absurd (h [1, 0, 0, 0] 0 1 (by decide +kernel) (by decide +kernel)) (by decide)

/-- Two requests to route one incident. -/
theorem routing_exclusive_requests :
    let pool := (routingPool Settings.demo
      { world := after Settings.demo Env.demo .postgres {} [.ingest checkoutAlert] }
      fun _ : Fin 2 ↦ .routeIncident checkoutId).run (serveCommand Env.demo .postgres)
        (lockContract checkoutId).next [0, 1, 0, 1, 0, 1]
    ∀ i j, routing (pool.thread i).prog = some checkoutId →
      routing (pool.thread j).prog = some checkoutId → i = j :=
  routing_exclusive Settings.demo Env.demo .postgres _ rfl checkoutId
    (fun _ ↦ .routeIncident checkoutId) (fun _ ↦ trivial) (fun _ h ↦ by cases h) [0, 1, 0, 1, 0, 1]

end IncidentPlatform
