import IncidentPlatform.Api.SiteOutcome
import IncidentPlatform.Safety.Targets

/-!
# Closing the loop

What the state `resolved` is worth, when the platform runs together with the workload that it
repairs. The two theorems are about any site, so about the end of any run of requests, to the
platform or to the checkout service.
-/

namespace IncidentPlatform

open Interaction

section

variable {cfg : Settings} {s : AdapterSettings} {env : Env} {net : Network} {mode : Mode}
  {site : Site} {action : ActionRequest}

theorem Carried.faultOpen {claim : Except Fault Bool} {later : Site} {reported : Option Bool}
    (h : Carried cfg s net action claim site later reported)
    (hfixed : FaultOpen site.served) (hlater : ¬ FaultOpen later.served) :
    action.actionType = .rollbackDeployment ∧ claim = .ok true ∧
      ∃ requests toRevision, later.served = site.served ++ requests ∧
        .rollback toRevision ∈ requests := by
  obtain ⟨requests, hserved, hasked, -⟩ := h.served
  rw [hserved, faultOpen_append, not_or, not_and] at hlater
  have hrepaired := hlater.2 hfixed
  push Not at hrepaired
  obtain ⟨request, hmem, hrepairs⟩ := hrepaired
  replace hrepairs := Bool.ne_false_iff.mp hrepairs
  rcases hasked request hmem with rfl | ⟨hclaim, hrequest⟩
  · cases hrepairs
  · have hrollback := ((askedRequest_repairs hrequest).2.mp hrepairs)
    refine ⟨hrollback, hclaim, requests, ?_⟩
    rw [askedRequest, TypedActionAdapterRegistry.localCall, hrollback] at hrequest
    cases hrequest
    exact ⟨_, hserved, hmem⟩

/-- **A resolved incident has a workload without a fault**, whatever the network does: an execute
request for a real action on the checkout service that returns leaves the incident resolved if and
only if a success was reported and no fault is open in the end. If one was open before, then the
action was a rollback, under a new key, and the service has carried it out. -/
theorem resolved_iff_no_fault {incidentId : String} {payload : ExecutePayload}
    (hlocal : cfg.executionMode = "local") (hverify : cfg.executePostVerifyEnabled = true)
    (hreal : (runAction cfg payload).dryRun = false) (htarget : ChecksTarget payload.action)
    (site : Site) :
    SiteRuns cfg s env net mode (executeAction cfg incidentId payload) site fun res later ↦
      ∀ outcome, res = .ok outcome → ∃ r, later.world.stored incidentId = some r ∧
        (r.state = .resolved ↔ outcome.2.success = true ∧ ¬ FaultOpen later.served) ∧
        (r.state = .resolved → FaultOpen site.served →
          payload.action.actionType = .rollbackDeployment ∧
          site.world.claimAnswer env payload.action.idempotencyKey payload.action.actionId
            = .ok true ∧
          ∃ requests toRevision, later.served = site.served ++ requests ∧
            .rollback toRevision ∈ requests) := by
  refine (executeAction_site hlocal hverify hreal htarget site).mono
    fun res later h outcome hres ↦ ?_
  obtain ⟨⟨r, hr, hresolved⟩, hcarried⟩ := h outcome hres
  exact ⟨r, hr, hresolved, fun hstate hfault ↦ hcarried.faultOpen hfault (hresolved.mp hstate).2⟩

theorem Carried.faultOpen_iff {claim : Except Fault Bool} {later : Site}
    (h : Carried cfg s net action claim site later (some true)) :
    ¬ FaultOpen later.served ↔
      (¬ FaultOpen site.served ∨ claim = .ok true ∧ action.actionType = .rollbackDeployment) := by
  obtain ⟨requests, hserved, hasked, hsuccess⟩ := h.served
  have hinject : ¬ FaultOpen requests := by
    rintro ⟨earlier, further, rfl, -⟩
    rcases hasked .injectDeploymentRegression (by simp) with h | ⟨-, h⟩
    · cases h
    · exact (askedRequest_repairs h).1 rfl
  constructor
  · intro hlater
    by_cases hfault : FaultOpen site.served
    · obtain ⟨hrollback, hclaim, -⟩ := h.faultOpen hfault hlater
      exact Or.inr ⟨hclaim, hrollback⟩
    · exact Or.inl hfault
  · rw [hserved, faultOpen_append]
    rintro (hfault | ⟨hclaim, hrollback⟩) (hrequests | ⟨hsite, hkept⟩)
    · exact hinject hrequests
    · exact hfault hsite
    · exact hinject hrequests
    · obtain ⟨request, hmem, hrequest⟩ := hsuccess rfl hclaim
      have hrepairs := (askedRequest_repairs hrequest).2.mpr hrollback
      rw [hkept request hmem] at hrepairs
      cases hrepairs

/-- **When an incident is resolved**, over a reliable network: an execute request for a real action
on the checkout service that returns leaves the incident resolved if and only if no fault was open
or the action is a rollback under a new key, and under a new key the action is one that the client
has a call for, with valid parameters. -/
theorem resolved_iff_repairs {incidentId : String} {payload : ExecutePayload}
    (hlocal : cfg.executionMode = "local") (hverify : cfg.executePostVerifyEnabled = true)
    (hreal : (runAction cfg payload).dryRun = false) (htarget : ChecksTarget payload.action)
    (hnet : net.Reliable) (site : Site) :
    SiteRuns cfg s env net mode (executeAction cfg incidentId payload) site fun res later ↦
      ∀ outcome, res = .ok outcome → ∃ r, later.world.stored incidentId = some r ∧
        (r.state = .resolved ↔
          (¬ FaultOpen site.served ∨
            site.world.claimAnswer env payload.action.idempotencyKey payload.action.actionId
              = .ok true ∧ payload.action.actionType = .rollbackDeployment) ∧
          (site.world.claimAnswer env payload.action.idempotencyKey payload.action.actionId
            = .ok true → canRun s payload.action = true)) := by
  refine (executeAction_site hlocal hverify hreal htarget site).mono
    fun res later h outcome hres ↦ ?_
  obtain ⟨⟨r, hr, hresolved⟩, hcarried⟩ := h outcome hres
  refine ⟨r, hr, hresolved.trans ?_⟩
  have hsuccess := hcarried.reliable hnet _ rfl
  constructor
  · rintro ⟨htrue, hfault⟩
    rw [htrue] at hcarried hsuccess
    refine ⟨hcarried.faultOpen_iff.mp hfault, fun hclaim ↦ ?_⟩
    rcases hsuccess with ⟨-, hcan⟩ | ⟨hrefused, -⟩
    · exact hcan.symm
    · cases hclaim.symm.trans hrefused
  · rintro ⟨hrepairs, hcan⟩
    have htrue : outcome.2.success = true := by
      rcases hsuccess with ⟨hclaim, h⟩ | ⟨-, h⟩
      · exact h.trans (hcan hclaim)
      · exact h
    rw [htrue] at hcarried
    exact ⟨htrue, hcarried.faultOpen_iff.mpr hrepairs⟩

end

/-! ## A rollback -/

/-- Everything arrives, and ECS is not there. -/
def Network.demo : Network where
  expires _ _ := false
  deliver _ := .arrives
  ecs _
    | .ecsClient => .error { className := "NoRegionError", text := "" }
    | .updateService _ _ _ => .error { className := "NoRegionError", text := "" }
    | .describeServices _ _ => .error { className := "NoRegionError", text := "" }
    | .checkout _ => .error .other

theorem Network.reliable_demo : Network.demo.Reliable := ⟨fun _ _ ↦ rfl, fun _ ↦ rfl⟩

instance (requests : List CheckoutRequest) : Decidable (FaultOpen requests) :=
  decidable_of_iff ((({} : CheckoutState).after requests).failureInjected = true)
    (failureInjected_iff { served := requests })

/-- A checkout incident whose rollback is approved, and a fault in the checkout service. -/
def faultySite : Site where
  world := after Settings.demo Env.demo .postgres {} (checkoutPlanned ++ [approveRollback none])
  served := [.injectDeploymentRegression]

/-- The request to run the approved rollback. -/
def rollbackPayload : ExecutePayload where
  action :=
    { actionId := "act_003a0000"
      actionType := .rollbackDeployment
      target := "checkout-service"
      parameters := [("service", .str "checkout-service"),
        ("deployment", .str "checkout-service"), ("to_revision", .str "checkout-r42")]
      idempotencyKey := checkoutId ++ ":rollback:checkout-r42"
      dryRun := false }
  approvalId := some "apr_0042000000"
  approvalToken := some "token_00430000000000000000000000000000"

/-- The site after the request. -/
def repairedSite : Except Exc (PolicyDecision × ActionResult) × Site :=
  (deployed Settings.demo AdapterSettings.demo
    (executeAction Settings.demo checkoutId rollbackPayload)).run
    (serveSite Text.ascii Env.demo Network.demo .postgres) faultySite

theorem repairedSite_returns : ∃ outcome, repairedSite.1 = .ok outcome := by
  have hok : repairedSite.1.isOk = true := by decide +kernel
  rcases hrun : repairedSite.1 with e | outcome
  · rw [hrun] at hok
    cases hok
  · exact ⟨outcome, rfl⟩

/-- The fault is open before and not open after. -/
theorem rollback_ends_fault : FaultOpen faultySite.served ∧ ¬ FaultOpen repairedSite.2.served := by
  obtain ⟨outcome, hok⟩ := repairedSite_returns
  obtain ⟨r, hr, hresolved, -⟩ := @resolved_iff_no_fault Settings.demo AdapterSettings.demo Env.demo
    Network.demo .postgres checkoutId rollbackPayload rfl rfl rfl (Or.inl rfl) faultySite outcome
    hok
  have hstate : (repairedSite.2.world.stored checkoutId).map IncidentRecord.state
      = some .resolved := by decide +kernel
  rw [show repairedSite.2.world.stored checkoutId = some r from hr] at hstate
  exact ⟨by decide +kernel, (hresolved.mp (Option.some.inj hstate)).2⟩

/-- The incident is resolved. -/
theorem rollback_resolves : (repairedSite.2.world.stored checkoutId).map IncidentRecord.state
    = some .resolved := by
  obtain ⟨outcome, hok⟩ := repairedSite_returns
  obtain ⟨r, hr, hresolved⟩ := @resolved_iff_repairs Settings.demo AdapterSettings.demo Env.demo
    Network.demo .postgres checkoutId rollbackPayload rfl rfl rfl (Or.inl rfl)
    Network.reliable_demo faultySite outcome hok
  have hstate := hresolved.mpr ⟨Or.inr ⟨by decide +kernel, rfl⟩, fun _ ↦ by decide +kernel⟩
  rw [show repairedSite.2.world.stored checkoutId = some r from hr, Option.map_some, hstate]

end IncidentPlatform
