import IncidentPlatform.Safety.Recording

/-!
# Executions and the lifecycle table

By the table of the repository an incident is executing while its action runs, and leaves that state
for resolved, investigating or reopened. `execute_action` assigns the state but never saves it: the
repository sees one step from the state before the call to the state after it. Nothing asks whether
the execution may start, and a call that ends in an exception leaves whatever was stored.
`execution_follows_table_iff` lists what can go wrong.
-/

namespace IncidentPlatform

open Interaction

/-- The table allows the step into the execution, and the step from it to what is stored. -/
def FollowsTable (v : World) (incidentId : String) (r : IncidentRecord) : Prop :=
  .executing ∈ allowedTransitions r.state ∧
    ∃ s, v.stored incidentId = some s ∧ s.state ∈ allowedTransitions .executing

/-- The execution starts on an incident that is neither resolved nor left executing, it raises at
most where nothing but an investigation is stored, and it does not resolve an incident that is
waiting for its approval. -/
structure KeepsTable (cfg : Settings) (env : Env) (mode : Mode) (u : World) (r : IncidentRecord)
    (payload : ExecutePayload) : Prop where
  start : r.state ≠ .resolved ∧ r.state ≠ .executing
  raises : Raises cfg env u (runAction cfg payload) → mode = .postgres ∧ r.state = .investigating
  waiting : mode = .postgres → r.state = .waitingApproval →
    executionReports env u (runAction cfg payload) = some true →
      verifiedAfter cfg env u (runAction cfg payload) true ≠ some true

section

variable {cfg : Settings} {env : Env} {mode : Mode} {u v : World} {incidentId : String}
  {payload : ExecutePayload} {r : IncidentRecord}

/-- An execution can start wherever a plan was matched, unless it has been started or resolved. -/
theorem executing_allowed_iff {state : IncidentState}
    (hbegun : state ≠ .open ∧ state ≠ .reopened) :
    .executing ∈ allowedTransitions state ↔ state ≠ .resolved ∧ state ≠ .executing := by
  obtain ⟨hopen, hreopened⟩ := hbegun
  cases state with
  | «open» => exact absurd rfl hopen
  | reopened => exact absurd rfl hreopened
  | _ => decide

/-- Of the states an execution can start in, only one is also a state it can end in. -/
theorem unchanged_follows_iff {state : IncidentState}
    (hbegun : state ≠ .open ∧ state ≠ .reopened)
    (hstart : state ≠ .resolved ∧ state ≠ .executing) :
    state ∈ allowedTransitions .executing ↔ state = .investigating := by
  obtain ⟨hopen, hreopened⟩ := hbegun
  obtain ⟨hresolved, hexecuting⟩ := hstart
  cases state <;> first | contradiction | decide

theorem finalState_mem (success verified : Bool) :
    finalState success verified ∈ allowedTransitions .executing := by
  cases success <;> cases verified <;> decide

/-- A refused last save was to resolve an incident that was waiting for its approval. -/
theorem refused_iff {state : IncidentState} (hbegun : state ≠ .open ∧ state ≠ .reopened)
    (success verified : Bool) : transitionAllowed state (finalState success verified) = false ↔
      state = .waitingApproval ∧ success = true ∧ verified = true := by
  obtain ⟨hopen, hreopened⟩ := hbegun
  cases state with
  | «open» => exact absurd rfl hopen
  | reopened => exact absurd rfl hreopened
  | _ => cases success <;> cases verified <;> decide

theorem Executed.follows_iff {result : ActionResult} {verified : Bool}
    (hbegun : r.state ≠ .open ∧ r.state ≠ .reopened)
    (h : Executed cfg env mode u incidentId payload r result verified v) :
    FollowsTable v incidentId r ↔ KeepsTable cfg env mode u r payload := by
  obtain ⟨s, hs, hstate, -⟩ := h.stored
  have hend : s.state ∈ allowedTransitions .executing := hstate ▸ finalState_mem _ _
  constructor
  · rintro ⟨hstart, -⟩
    refine ⟨(executing_allowed_iff hbegun).mp hstart, ?_,
      fun hmode hwaiting hreports hverified ↦ ?_⟩
    · rintro (hnone | ⟨success, hsuccess, hnone⟩)
      · rw [h.reports] at hnone
        contradiction
      · rw [h.reports] at hsuccess
        rw [← Option.some.inj hsuccess, h.verification] at hnone
        contradiction
    · have hsuccess : result.success = true := Option.some.inj (h.reports.symm.trans hreports)
      have htrue : verified = true := by
        have hverification := h.verification
        rw [hsuccess, hverified] at hverification
        exact (Option.some.inj hverification).symm
      have hrefused := (refused_iff hbegun result.success verified).mpr ⟨hwaiting, hsuccess, htrue⟩
      rw [h.allowed hmode] at hrefused
      contradiction
  · intro hkeeps
    exact ⟨(executing_allowed_iff hbegun).mpr hkeeps.start, s, hs, hend⟩

theorem Aborted.follows_iff (hbegun : r.state ≠ .open ∧ r.state ≠ .reopened)
    (h : Aborted cfg env mode u incidentId payload r v) :
    FollowsTable v incidentId r ↔ KeepsTable cfg env mode u r payload := by
  cases h with
  | raised c hraises hstored hc =>
    constructor
    · rintro ⟨hstart, s, hs, hend⟩
      have hstart' := (executing_allowed_iff hbegun).mp hstart
      cases hstored.symm.trans hs
      -- The stored record is the old one in Postgres mode, and one under execution in fallback
      -- mode.
      cases mode with
      | postgres =>
        have hsame := (unchanged_follows_iff hbegun hstart').mp hend
        refine ⟨hstart', fun _ ↦ ⟨rfl, hsame⟩, fun _ hwaiting ↦ ?_⟩
        rw [hsame] at hwaiting
        contradiction
      | fallback =>
        rw [visible, hc] at hend
        simp [allowedTransitions] at hend
    · intro hkeeps
      obtain ⟨rfl, hsame⟩ := hkeeps.raises hraises
      refine ⟨(executing_allowed_iff hbegun).mpr hkeeps.start, r, hstored, ?_⟩
      rw [hsame]
      decide
  | refused success verified hreports hverified hmode hrefused hstored =>
    -- The refused save leaves the incident waiting, which no execution may.
    obtain ⟨hwaiting, rfl, rfl⟩ := (refused_iff hbegun success verified).mp hrefused
    constructor
    · rintro ⟨-, s, hs, hend⟩
      cases hstored.symm.trans hs
      rw [hwaiting] at hend
      simp [allowedTransitions] at hend
    · intro hkeeps
      exact absurd hverified (hkeeps.waiting hmode hwaiting hreports)

end

/-- **When an execution follows the table.** In either mode and after every run: the stored states
before and after an execution that was let through are joined by the table through the executing
state exactly if it starts on an incident that is not resolved and not left executing by an earlier
call, does not raise, except in Postgres mode during an investigation, and does not in Postgres mode
succeed and verify on an incident that is waiting for its approval. -/
theorem execution_follows_table_iff (cfg : Settings) (env : Env) (mode : Mode) {w₀ : World}
    (hw₀ : NoIncidents w₀) (calls : List Call) {c : Call} {u : World} {incidentId : String}
    {payload : ExecutePayload} {r : IncidentRecord} {plan : ResponsePlan}
    (hexec : c.execution (after cfg env mode w₀ calls) = some (u, incidentId, payload))
    (hlets : LetsThrough cfg env u incidentId payload r plan) :
    FollowsTable (c.after cfg env mode (after cfg env mode w₀ calls)) incidentId r ↔
      KeepsTable cfg env mode u r payload := by
  have hsound : Sound r := Call.execution_sound hw₀ hexec hlets.stored
  have hbegun := hsound.begun (by rw [hlets.responsePlan]; rfl)
  obtain ⟨res, hres⟩ := Call.after_runs hexec (executeAction_runs cfg incidentId payload u)
  rcases res with e | a
  · rcases hres with ⟨hno, -⟩ | ⟨r', plan', hlets', haborted⟩
    · exact absurd hlets (hno r plan)
    · cases hlets.stored.symm.trans hlets'.stored
      exact haborted.follows_iff hbegun
  · obtain ⟨r', plan', result, verified, hlets', hexecuted⟩ := hres
    cases hlets.stored.symm.trans hlets'.stored
    exact hexecuted.follows_iff hbegun

/-- The incident is resolved by its first query, and the second one is let through all the same. -/
theorem execution_leaves_table :
    ¬ ∀ calls (c : Call) u payload r plan,
      c.execution (after Settings.demo Env.demo .postgres {} calls)
        = some (u, checkoutId, payload) →
      LetsThrough Settings.demo Env.demo u checkoutId payload r plan →
        FollowsTable
          (c.after Settings.demo Env.demo .postgres
            (after Settings.demo Env.demo .postgres {} calls))
          checkoutId r := by
  intro h
  let calls := diskRouted ++ [.executeAction checkoutId queryMetrics]
  let w := after Settings.demo Env.demo .postgres {} calls
  have hresolved : (w.stored checkoutId).any (fun r ↦ r.state == .resolved &&
      r.responsePlan.any fun plan ↦
        gates Settings.demo r plan queryMetrics (Env.demo.now (w.tick + 3))) = true := by
    decide +kernel
  obtain ⟨r, hr, hboth⟩ := (Option.any_eq_true _ _).mp hresolved
  obtain ⟨hstate, hplan⟩ := Bool.and_eq_true_iff.mp hboth
  obtain ⟨plan, hplan, hgates⟩ := (Option.any_eq_true _ _).mp hplan
  obtain ⟨hstart, -⟩ := h calls (.executeAction checkoutId queryMetrics) w queryMetrics r plan rfl
    ⟨hr, hplan, hgates⟩
  rw [beq_iff_eq.mp hstate] at hstart
  simp [allowedTransitions] at hstart

/-- The first query. -/
theorem execution_follows_table_disk :
    ∃ r, (after Settings.demo Env.demo .postgres {} diskRouted).stored checkoutId = some r ∧
      (FollowsTable ((Call.executeAction checkoutId queryMetrics).after Settings.demo Env.demo
          .postgres (after Settings.demo Env.demo .postgres {} diskRouted)) checkoutId r ↔
        KeepsTable Settings.demo Env.demo .postgres
          (after Settings.demo Env.demo .postgres {} diskRouted) r queryMetrics) := by
  let w := after Settings.demo Env.demo .postgres {} diskRouted
  have hgates : (w.stored checkoutId).any (fun r ↦ r.responsePlan.any fun plan ↦
      gates Settings.demo r plan queryMetrics (Env.demo.now (w.tick + 3))) = true := by
    decide +kernel
  obtain ⟨r, hr, hplan⟩ := (Option.any_eq_true _ _).mp hgates
  obtain ⟨plan, hplan, hgates⟩ := (Option.any_eq_true _ _).mp hplan
  exact ⟨r, hr, execution_follows_table_iff Settings.demo Env.demo .postgres ⟨rfl, rfl⟩ diskRouted
    (rfl : (Call.executeAction checkoutId queryMetrics).execution w = some (w, checkoutId, _))
    ⟨hr, hplan, hgates⟩⟩

end IncidentPlatform
