import IncidentPlatform.Api.Outcome

/-!
# What is recorded of an execution

`execute_action` runs the action first and stores everything afterwards, in one save. An exception
of the adapter or of the verification leaves before that save, and in Postgres mode the save itself
can be refused: an incident that is still waiting for its approval may not be resolved, but an
action that needs no approval can be run on it. In all three cases the action has run and the
incident says nothing about it. `executed_action_recorded_iff` says that there is no fourth.
-/

namespace IncidentPlatform

open Interaction

/-! ## The states an execution starts from -/

/-- Every stored incident is live. -/
def Alive (w : World) : Prop := ∀ incidentId r, w.stored incidentId = some r → Live r

theorem NoIncidents.alive {w : World} (h : NoIncidents w) : Alive w := by
  intro incidentId r hr
  rw [h.stored] at hr
  cases hr

theorem alive_stable (grant : IncidentRecord → ApprovalRecord → Prop) :
    Stable .postgres grant Alive :=
  Stable.every (fun _ hcommit hb ↦ hcommit.live hb)
    (fun _ _ hblank hplan ↦ absurd hblank.responsePlan (Option.isSome_iff_ne_none.mp hplan))
    fun hmode ↦ nomatch hmode

/-- From a live incident with a response plan the last save is refused in one case. -/
theorem final_refused_iff {r : IncidentRecord} {plan : ResponsePlan} (hlive : Live r)
    (hplan : r.responsePlan = some plan) (success verified : Bool) :
    transitionAllowed r.state (finalState success verified) = false ↔
      r.state = .waitingApproval ∧ success = true ∧ verified = true := by
  have hstate := hlive (by rw [hplan]; rfl)
  revert hstate
  generalize r.state = state
  cases state <;> cases success <;> cases verified <;> decide

/-! ## What is recorded -/

/-- A result of the action was appended to the stored incident, and the rows of its attempts and of
its execution to the audit log. -/
structure Recorded (cfg : Settings) (w v : World) (incidentId : String) (payload : ExecutePayload)
    (r : IncidentRecord) : Prop where
  result : ∃ s result, v.stored incidentId = some s ∧
    s.executedActions = r.executedActions ++ [result] ∧ result.actionId = payload.action.actionId
  adapter : Appended w v (IsAdapterExecution (runAction cfg payload))
  executed : Appended w v (IsActionExecuted incidentId payload)

section

variable {cfg : Settings} {env : Env} {w u v : World} {incidentId : String}
  {payload : ExecutePayload} {r : IncidentRecord} {plan : ResponsePlan} {c : Call}

/-- The action raised nothing, was verified or not, and the last save is allowed. -/
def Completes (cfg : Settings) (env : Env) (w : World) (r : IncidentRecord)
    (payload : ExecutePayload) : Prop :=
  let action := runAction cfg payload
  let success := succeeds env action defaultRetryLimit w.attempts
  raises env action defaultRetryLimit w.attempts = false ∧
    ∃ verified, verifiedAfter cfg env w action success = some verified ∧
      ¬ (r.state = .waitingApproval ∧ success = true ∧ verified = true)

/-- After a granted claim the attempts decide what is reported. -/
theorem executionReports_of_claim
    (hclaim : w.claimAnswer env payload.action.idempotencyKey payload.action.actionId = .ok true) :
    executionReports env w (runAction cfg payload) =
      if raises env (runAction cfg payload) defaultRetryLimit w.attempts then none
      else some (succeeds env (runAction cfg payload) defaultRetryLimit w.attempts) := by
  have hclaim' : w.claimAnswer env (runAction cfg payload).idempotencyKey
      (runAction cfg payload).actionId = .ok true := hclaim
  rw [executionReports, hclaim']

theorem Aborted.stored (h : Aborted cfg env .postgres w incidentId payload r v) :
    v.stored incidentId = some r := by
  cases h with
  | raised c _ hstored => exact hstored
  | refused _ _ _ _ _ _ hstored => exact hstored

/-- What is stored after an abort does not have the result. -/
theorem not_recorded_of_stored (h : v.stored incidentId = some r) :
    ¬ Recorded cfg w v incidentId payload r := by
  rintro ⟨⟨s, result, hs, hresult, -⟩, -, -⟩
  cases h.symm.trans hs
  exact List.cons_ne_nil _ _ (List.self_eq_append_right.mp hresult)

theorem Aborted.not_completes (hlive : Live r) (hplan : r.responsePlan = some plan)
    (hclaim : w.claimAnswer env payload.action.idempotencyKey payload.action.actionId = .ok true)
    (h : Aborted cfg env .postgres w incidentId payload r v) : ¬ Completes cfg env w r payload := by
  rintro ⟨hraises, verified, hverified, hallowed⟩
  have hreports : executionReports env w (runAction cfg payload)
      = some (succeeds env (runAction cfg payload) defaultRetryLimit w.attempts) := by
    rw [executionReports_of_claim hclaim, hraises]
    rfl
  cases h with
  | raised _ hnone =>
    rcases hnone with hnone | ⟨success, hsuccess, hnone⟩
    · exact nomatch hreports.symm.trans hnone
    · cases hreports.symm.trans hsuccess
      exact nomatch hverified.symm.trans hnone
  | refused success verified' hsuccess hverified' _ hrefused =>
    cases hreports.symm.trans hsuccess
    cases hverified.symm.trans hverified'
    exact hallowed ((final_refused_iff hlive hplan _ _).mp hrefused)

theorem Executed.completes {result : ActionResult} {verified : Bool} (hlive : Live r)
    (hplan : r.responsePlan = some plan)
    (hclaim : w.claimAnswer env payload.action.idempotencyKey payload.action.actionId = .ok true)
    (h : Executed cfg env .postgres w incidentId payload r result verified v) :
    Completes cfg env w r payload := by
  have hreports := h.reports
  rw [executionReports_of_claim hclaim] at hreports
  split_ifs at hreports with hraises
  have hsuccess := Option.some.inj hreports
  refine ⟨Bool.eq_false_iff.mpr hraises, verified, hsuccess ▸ h.verification, fun hwaiting ↦ ?_⟩
  rw [hsuccess] at hwaiting
  have hrefused := (final_refused_iff hlive hplan _ _).mpr hwaiting
  exact Bool.false_ne_true (hrefused.symm.trans (h.allowed rfl))

theorem Executed.recorded {result : ActionResult} {verified : Bool}
    (hclaim : w.claimAnswer env payload.action.idempotencyKey payload.action.actionId = .ok true)
    (h : Executed cfg env .postgres w incidentId payload r result verified v) :
    Recorded cfg w v incidentId payload r := by
  obtain ⟨s, hs, -, hresult⟩ := h.stored
  exact ⟨⟨s, result, hs, hresult, h.actionId⟩, h.adapterLogged hclaim, h.executedLogged⟩

end

/-- **When an executed action is recorded.** In Postgres mode, on every incident a run can store:
an action that was let through and whose key was granted is recorded exactly if none of its attempts
raises, its verification does not raise, and it does not succeed and verify on an incident that is
waiting for its approval. -/
theorem executed_action_recorded_iff (cfg : Settings) (env : Env) {w₀ : World}
    (hw₀ : NoIncidents w₀) (calls : List Call) {c : Call} {u : World} {incidentId : String}
    {payload : ExecutePayload} {r : IncidentRecord} {plan : ResponsePlan}
    (hexec : c.execution (after cfg env .postgres w₀ calls) = some (u, incidentId, payload))
    (hlets : LetsThrough cfg env u incidentId payload r plan)
    (hclaim : u.claimAnswer env payload.action.idempotencyKey payload.action.actionId
      = .ok true) :
    Recorded cfg u (c.after cfg env .postgres (after cfg env .postgres w₀ calls)) incidentId payload
        r ↔
      Completes cfg env u r payload := by
  have halive : Alive (after cfg env .postgres w₀ calls) :=
    stable_after (fun w c ↦ alive_stable _) hw₀.alive
  have hlive : Live r := by
    refine halive incidentId r ?_
    rw [← World.stored_congr (Call.execution_rows hexec).1]
    exact hlets.stored
  obtain ⟨res, hres⟩ := Call.after_runs hexec (executeAction_runs cfg incidentId payload u)
  rcases res with e | a
  · rcases hres with ⟨hno, -⟩ | ⟨r', plan', hlets', haborted⟩
    · exact absurd hlets (hno r plan)
    · cases hlets.stored.symm.trans hlets'.stored
      exact iff_of_false (not_recorded_of_stored haborted.stored)
        (haborted.not_completes hlive hlets.responsePlan hclaim)
  · obtain ⟨r', plan', result, verified, hlets', hexecuted⟩ := hres
    cases hlets.stored.symm.trans hlets'.stored
    exact iff_of_true (hexecuted.recorded hclaim)
      (hexecuted.completes hlive hlets.responsePlan hclaim)

/-- An alert that only a read-only plan matches. -/
def diskAlert : IngestPayload where
  service := "checkout-service"
  resource := "checkout-service"
  symptom := "disk usage is high"

/-- The calls that open its incident and route it. -/
def diskRouted : List Call := [.ingest diskAlert, .routeIncident checkoutId]

/-- A request that needs no approval. -/
def queryMetrics : ExecutePayload where
  action :=
    { actionId := "act_1"
      actionType := .queryMetrics
      target := "checkout-service"
      idempotencyKey := "disk:metrics" }

/-- The query is let through while the incident waits for an approval of its plan, succeeds, and is
not recorded. -/
theorem executed_action_lost :
    ¬ ∀ calls (c : Call) u payload r plan,
      c.execution (after Settings.demo Env.demo .postgres {} calls)
        = some (u, checkoutId, payload) →
      LetsThrough Settings.demo Env.demo u checkoutId payload r plan →
      u.claimAnswer Env.demo payload.action.idempotencyKey payload.action.actionId = .ok true →
        Recorded Settings.demo u
          (c.after Settings.demo Env.demo .postgres
            (after Settings.demo Env.demo .postgres {} calls))
          checkoutId payload r := by
  intro h
  let w := after Settings.demo Env.demo .postgres {} (diskRouted ++ [.createPlan checkoutId])
  let v := (Call.executeAction checkoutId queryMetrics).after Settings.demo Env.demo .postgres w
  have hgates : (w.stored checkoutId).any (fun r ↦ r.responsePlan.any fun plan ↦
      gates Settings.demo r plan queryMetrics (Env.demo.now (w.tick + 3))) = true := by
    decide +kernel
  obtain ⟨r, hr, hplan⟩ := (Option.any_eq_true _ _).mp hgates
  obtain ⟨plan, hplan, hgates⟩ := (Option.any_eq_true _ _).mp hplan
  have hlength : (v.stored checkoutId).map (fun s ↦ s.executedActions.length)
      = (w.stored checkoutId).map fun r ↦ r.executedActions.length := by decide +kernel
  obtain ⟨s, result, hs, hresult, -⟩ := (h _ (.executeAction checkoutId queryMetrics) w queryMetrics
    r plan rfl ⟨hr, hplan, hgates⟩ (by decide +kernel)).result
  rw [hr, show v.stored checkoutId = some s from hs, Option.map_some, Option.map_some, hresult,
    List.length_append] at hlength
  simp at hlength

/-- The query before the plan is made. -/
theorem executed_action_recorded_disk :
    ∃ r, (after Settings.demo Env.demo .postgres {} diskRouted).stored checkoutId = some r ∧
      (Recorded Settings.demo (after Settings.demo Env.demo .postgres {} diskRouted)
          ((Call.executeAction checkoutId queryMetrics).after Settings.demo Env.demo .postgres
            (after Settings.demo Env.demo .postgres {} diskRouted)) checkoutId queryMetrics r ↔
        Completes Settings.demo Env.demo (after Settings.demo Env.demo .postgres {} diskRouted) r
          queryMetrics) := by
  let w := after Settings.demo Env.demo .postgres {} diskRouted
  have hgates : (w.stored checkoutId).any (fun r ↦ r.responsePlan.any fun plan ↦
      gates Settings.demo r plan queryMetrics (Env.demo.now (w.tick + 3))) = true := by
    decide +kernel
  obtain ⟨r, hr, hplan⟩ := (Option.any_eq_true _ _).mp hgates
  obtain ⟨plan, hplan, hgates⟩ := (Option.any_eq_true _ _).mp hplan
  exact ⟨r, hr, executed_action_recorded_iff Settings.demo Env.demo ⟨rfl, rfl⟩ diskRouted
    (rfl : (Call.executeAction checkoutId queryMetrics).execution w = some (w, checkoutId, _))
    ⟨hr, hplan, hgates⟩ (by decide +kernel)⟩

end IncidentPlatform
