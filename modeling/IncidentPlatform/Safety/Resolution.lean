import IncidentPlatform.Api.Outcome

/-!
# What it takes to resolve an incident

The runbook resolves an incident only after its recovery was verified. `_verify_action_recovery`
reads the workload's metrics for a real run; for a dry run it answers `True` without looking at
anything, and `execute_action` closes the incident on that answer, under a resolution text that says
it remains open. `resolves_on_recovery_iff` says that this is the only way it goes wrong.
-/

namespace IncidentPlatform

open Interaction

/-- The run of the action was real and reported success, and metrics read during the call showed the
workload recovered. -/
structure RecoveredBy (cfg : Settings) (env : Env) (w v : World) (incidentId : String)
    (payload : ExecutePayload) : Prop where
  dryRun : (runAction cfg payload).dryRun = false
  success : ∃ s result, v.stored incidentId = some s ∧ s.executedActions.getLast? = some result ∧
    result.actionId = payload.action.actionId ∧ result.success = true
  recovered : Recovered env w v

/-- If the call resolves the incident, then on a recovery. -/
def ResolvesOnRecovery (cfg : Settings) (env : Env) (mode : Mode) (w : World) (incidentId : String)
    (c : Call) : Prop :=
  ∀ r s, w.stored incidentId = some r → r.state ≠ .resolved →
    (c.after cfg env mode w).stored incidentId = some s → s.state = .resolved →
      ∃ u payload, c.execution w = some (u, incidentId, payload) ∧
        RecoveredBy cfg env w (c.after cfg env mode w) incidentId payload

/-- The request is let through on an incident that is not resolved, its action is a dry run, the
execution reports success, and the repository would store the incident as resolved. -/
def SucceedsDry (cfg : Settings) (env : Env) (mode : Mode) (w : World) (incidentId : String)
    (c : Call) : Prop :=
  ∃ u payload r plan, c.execution w = some (u, incidentId, payload) ∧
    LetsThrough cfg env u incidentId payload r plan ∧ r.state ≠ .resolved ∧
    (runAction cfg payload).dryRun = true ∧
    executionReports env u (runAction cfg payload) = some true ∧
    (mode = .postgres → transitionAllowed r.state .resolved = true)

section

variable {cfg : Settings} {env : Env} {mode : Mode} {w u : World} {incidentId : String}
  {payload : ExecutePayload} {r : IncidentRecord} {plan : ResponsePlan} {c : Call}

/-- A successful dry run resolves the incident. -/
theorem resolved_of_dry_run (hverify : cfg.executePostVerifyEnabled = true)
    (h : c.execution w = some (u, incidentId, payload))
    (hlets : LetsThrough cfg env u incidentId payload r plan)
    (hdry : (runAction cfg payload).dryRun = true)
    (hreports : executionReports env u (runAction cfg payload) = some true)
    (hallowed : mode = .postgres → transitionAllowed r.state .resolved = true) :
    ∃ s, (c.after cfg env mode w).stored incidentId = some s ∧ s.state = .resolved := by
  have hverified (success : Bool) :
      verifiedAfter cfg env u (runAction cfg payload) success = some true := by
    rw [verifiedAfter, if_pos hverify, verification, if_pos hdry]
  obtain ⟨res, hres⟩ := Call.after_runs h (executeAction_runs cfg incidentId payload u)
  rcases res with e | a
  -- It does not raise: it is let through, its attempts end, and the transition is allowed.
  · exfalso
    rcases hres with ⟨hno, -⟩ | ⟨r', plan', hlets', haborted⟩
    · exact hno r plan hlets
    cases hlets.stored.symm.trans hlets'.stored
    cases haborted with
    | raised _ hraises =>
      rcases hraises with hnone | ⟨success, -, hnone⟩
      · cases hreports.symm.trans hnone
      · cases (hverified success).symm.trans hnone
    | refused success verified hsuccess hverified' hmode hrefused =>
      cases hreports.symm.trans hsuccess
      cases (hverified true).symm.trans hverified'
      exact Bool.false_ne_true (hrefused.symm.trans (hallowed hmode))
  · obtain ⟨r', plan', result, verified, -, hexecuted⟩ := hres
    obtain ⟨s, hs, hstate, -⟩ := hexecuted.stored
    have hsuccess := Option.some.inj (hexecuted.reports.symm.trans hreports)
    have htrue := Option.some.inj (hexecuted.verification.symm.trans (hverified _))
    exact ⟨s, hs, by rw [hstate, hsuccess, htrue]; rfl⟩

/-- An incident that a call resolves was executed with success, and verified. -/
theorem executed_of_resolved {s : IncidentRecord} (hc : c.Executes incidentId)
    (hr : w.stored incidentId = some r) (hopen : r.state ≠ .resolved)
    (hs : (c.after cfg env mode w).stored incidentId = some s) (hresolved : s.state = .resolved) :
    ∃ u payload plan result, c.execution w = some (u, incidentId, payload) ∧
      LetsThrough cfg env u incidentId payload r plan ∧ result.success = true ∧
      Executed cfg env mode u incidentId payload r result true (c.after cfg env mode w) := by
  rcases h : c.execution w with _ | ⟨u, i, payload⟩
  -- Without an execution the record is the one before, which is not resolved.
  · rw [World.stored_congr (Call.after_of_no_execution hc h), hr] at hs
    cases hs
    exact absurd hresolved hopen
  obtain rfl := Call.execution_executes hc h
  have hu : u.stored i = some r := (World.stored_congr (Call.execution_rows h).1 i).trans hr
  obtain ⟨res, hres⟩ := Call.after_runs h (executeAction_runs cfg i payload u)
  rcases res with e | a
  -- Nor does a request resolve it that is refused, or one that is aborted.
  · exfalso
    rcases hres with ⟨-, hkept⟩ | ⟨r', plan', hlets, haborted⟩
    · obtain ⟨r', hr', hstate⟩ := hkept s hs
      cases hu.symm.trans hr'
      exact hopen (hstate.symm.trans hresolved)
    · cases hu.symm.trans hlets.stored
      have hkept := haborted.stored_of_resolved fun s' hs' ↦ by
        cases hs.symm.trans hs'
        exact hresolved
      cases hs.symm.trans hkept
      exact hopen hresolved
  · obtain ⟨r', plan, result, verified, hlets, hexecuted⟩ := hres
    cases hu.symm.trans hlets.stored
    obtain ⟨s', hs', hstate, -⟩ := hexecuted.stored
    cases hs.symm.trans hs'
    obtain ⟨hsuccess, rfl⟩ := finalState_eq_resolved (hstate.symm.trans hresolved)
    exact ⟨u, payload, plan, result, rfl, hlets, hsuccess, hexecuted⟩

end

/-- **When an execution resolves on recovery.** In either mode, from any stored incident and for
every execute request: if it resolves the incident then after a real and successful run that metrics
confirmed, exactly unless it is a dry run that succeeds. -/
theorem resolves_on_recovery_iff (cfg : Settings) (env : Env) (mode : Mode) (w : World)
    (incidentId : String) (c : Call) (hc : c.Executes incidentId)
    (hverify : cfg.executePostVerifyEnabled = true) :
    ResolvesOnRecovery cfg env mode w incidentId c ↔ ¬ SucceedsDry cfg env mode w incidentId c := by
  constructor
  · rintro h ⟨u, payload, r, plan, hexec, hlets, hopen, hdry, hreports, hallowed⟩
    obtain ⟨s, hs, hresolved⟩ := resolved_of_dry_run hverify hexec hlets hdry hreports hallowed
    have hr : w.stored incidentId = some r :=
      (World.stored_congr (Call.execution_rows hexec).1 incidentId).symm.trans hlets.stored
    obtain ⟨u', payload', hexec', hrecovered⟩ := h r s hr hopen hs hresolved
    cases hexec.symm.trans hexec'
    exact Bool.false_ne_true (hrecovered.dryRun.symm.trans hdry)
  · intro h r s hr hopen hs hresolved
    obtain ⟨u, payload, plan, result, hexec, hlets, hsuccess, hexecuted⟩ :=
      executed_of_resolved hc hr hopen hs hresolved
    obtain ⟨s', hs', -, hactions⟩ := hexecuted.stored
    -- A dry run would be one that succeeds, which is excluded.
    have hdry : (runAction cfg payload).dryRun = false := by
      by_contra hdry
      rw [Bool.not_eq_false] at hdry
      refine h ⟨u, payload, r, plan, hexec, hlets, hopen, hdry, ?_, ?_⟩
      · rw [hexecuted.reports, hsuccess]
      · intro hmode
        have hallowed := hexecuted.allowed hmode
        rwa [hsuccess] at hallowed
    refine ⟨u, payload, hexec, hdry, ⟨s', result, hs', ?_, hexecuted.actionId, hsuccess⟩, ?_⟩
    · rw [hactions, List.getLast?_concat]
    · obtain ⟨n, hle, hlt, hmetrics⟩ := hexecuted.recovered hverify rfl hdry
      exact ⟨n, (Call.execution_rows hexec).2.2 ▸ hle, hlt, hmetrics⟩

/-- The approved rollback resolves the incident as a dry run. -/
theorem dry_run_resolves :
    ¬ ∀ calls c, c.Executes checkoutId → ResolvesOnRecovery Settings.demo Env.demo .postgres
      (after Settings.demo Env.demo .postgres {} calls) checkoutId c := by
  intro h
  let w := after Settings.demo Env.demo .postgres {} (checkoutPlanned ++ [approveRollback none])
  let c : Call := .executeIncident checkoutId {}
  have hopen : (w.stored checkoutId).any (fun r ↦ r.state != .resolved) = true := by decide +kernel
  have hresolved : ((c.after Settings.demo Env.demo .postgres w).stored checkoutId).any
      (fun s ↦ s.state == .resolved) = true := by decide +kernel
  have hdry : (c.execution w).all (fun x ↦ (runAction Settings.demo x.2.2).dryRun) = true := by
    decide +kernel
  obtain ⟨r, hr, hr'⟩ := (Option.any_eq_true _ _).mp hopen
  obtain ⟨s, hs, hs'⟩ := (Option.any_eq_true _ _).mp hresolved
  obtain ⟨u, payload, hexec, hrecovered⟩ :=
    h _ c rfl r s hr (by simpa using hr') hs (by simpa using hs')
  rw [hexec, Option.all_some] at hdry
  exact Bool.false_ne_true (hrecovered.dryRun.symm.trans hdry)

/-- The same request as a real run. -/
theorem resolves_on_recovery_checkout :
    ResolvesOnRecovery Settings.demo Env.demo .postgres
        (after Settings.demo Env.demo .postgres {} (checkoutPlanned ++ [approveRollback none]))
        checkoutId (.executeIncident checkoutId { dryRun := some false }) ↔
      ¬ SucceedsDry Settings.demo Env.demo .postgres
        (after Settings.demo Env.demo .postgres {} (checkoutPlanned ++ [approveRollback none]))
        checkoutId (.executeIncident checkoutId { dryRun := some false }) :=
  resolves_on_recovery_iff Settings.demo Env.demo .postgres _ checkoutId _ rfl rfl

end IncidentPlatform
