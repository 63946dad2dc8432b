import IncidentPlatform.Persistence.World

/-!
# The action executor

`src/adapters/actions/executor.py` and `src/agents/executor/agent.py`. `execute` claims the
idempotency key of the action before anything runs; a key that is already claimed is reported as a
success and nothing runs. Otherwise up to three attempts are made. A reported failure and a timeout
lead to the next attempt, any other exception ends the call, and the claim stays.

What an attempt does is outside the model, so the outcome of a call is described over the stream of
attempts: `succeeds` and `raises` say what the attempts from the `k`-th on lead to.

The second half settles what a reported success is worth over a sequence of calls.
-/

namespace IncidentPlatform

open Interaction

/-! ## The executor -/

/-- `_default_retry_limit`. -/
def defaultRetryLimit : ℕ := 3

/-- `_run_with_retries`, with `n` attempts left. -/
def runWithRetries (action : ActionRequest) : ℕ → Handler (Bool × String)
  | 0 => pure (false, "Action failed after retries")
  | n + 1 => do
    match ← perform (.registryRun action) with
    | .ok result =>
      if result.success then pure (true, result.message)
      else if n = 0 then pure (false, result.message)
      else runWithRetries action n
    | .error .timeoutError =>
      if n = 0 then
        pure (false, "Action timed out after " ++ toString defaultRetryLimit ++ " attempts")
      else runWithRetries action n
    | .error f => .raise (.fault f)

/-- The payload of `adapter_execution`. -/
def adapterExecution (action : ActionRequest) (success : Bool) (message : String) : Dict :=
  [("action_id", .str action.actionId), ("action_type", .str action.actionType.value),
    ("target", .str action.target), ("idempotency_key", .str action.idempotencyKey),
    ("dry_run", .bool action.dryRun), ("success", .bool success), ("message", .str message)]

/-- `ActionExecutor.execute` after a granted claim. -/
def runClaimed (action : ActionRequest) : Handler (Bool × String) := do
  let result ← runWithRetries action defaultRetryLimit
  perform (.audit "adapter_execution" (adapterExecution action result.1 result.2))
  pure result

/-- `ActionExecutor.execute`. -/
def execute (action : ActionRequest) : Handler (Bool × String) := do
  match ← perform (.claim action.idempotencyKey action.actionId) with
  | .error f => .raise (.fault f)
  | .ok false => pure (true, "Skipped duplicate idempotency key " ++ action.idempotencyKey)
  | .ok true => runClaimed action

/-- `ExecutionAgent.run`. -/
def executionAgentRun (request : ActionRequest) : Handler ActionResult := do
  let startedAt ← perform .utcnow
  let (success, statusMessage) ← execute request
  let finishedAt ← perform .utcnow
  pure { actionId := request.actionId, success, statusMessage, startedAt, finishedAt }

/-! ## The outcome of the attempts -/

/-- One of the `n` attempts from the `k`-th on reports success, after failures and timeouts only. -/
def succeeds (env : Env) (action : ActionRequest) : ℕ → ℕ → Bool
  | 0, _ => false
  | n + 1, k =>
    match env.attempt k action with
    | .ok result => result.success || succeeds env action n (k + 1)
    | .error .timeoutError => succeeds env action n (k + 1)
    | .error _ => false

/-- One of the `n` attempts from the `k`-th on raises, after failures and timeouts only. -/
def raises (env : Env) (action : ActionRequest) : ℕ → ℕ → Bool
  | 0, _ => false
  | n + 1, k =>
    match env.attempt k action with
    | .ok result => !result.success && raises env action n (k + 1)
    | .error .timeoutError => raises env action n (k + 1)
    | .error _ => true

variable {env : Env} {mode : Mode}

/-- The attempts change nothing but the two counters, and end as the stream says. -/
theorem runWithRetries_run (action : ActionRequest) (n : ℕ) (w : World) :
    ∃ r attempts tick, (runWithRetries action n).run (serve env mode) w
        = (r, { w with attempts, tick }) ∧
      match r with
      | .ok (success, _) =>
        success = succeeds env action n w.attempts ∧ raises env action n w.attempts = false
      | .error _ => raises env action n w.attempts = true := by
  induction n generalizing w with
  | zero => exact ⟨_, _, _, rfl, rfl, rfl⟩
  | succ n ih =>
    obtain ⟨r, attempts, tick, hrun, hr⟩ :=
      ih { w with attempts := w.attempts + 1, tick := w.tick + 1 }
    rw [runWithRetries, run_perform_bind, serve_registryRun, succeeds, raises]
    rcases env.attempt w.attempts action with f | result
    · by_cases hf : f = .timeoutError
      · subst hf
        by_cases hn : n = 0
        · subst hn
          exact ⟨_, _, _, rfl, rfl, rfl⟩
        · simp only [if_neg hn]
          exact ⟨r, attempts, tick, hrun, hr⟩
      · refine ⟨.error (.fault f), w.attempts + 1, w.tick + 1, ?_⟩
        cases f <;> first | exact absurd rfl hf | refine ⟨rfl, ?_⟩; rfl
    · cases hs : result.success
      · simp only [hs, Bool.false_eq_true, if_false, Bool.false_or, Bool.not_false, Bool.true_and]
        by_cases hn : n = 0
        · subst hn
          exact ⟨_, _, _, rfl, rfl, rfl⟩
        · simp only [if_neg hn]
          exact ⟨r, attempts, tick, hrun, hr⟩
      · simp only [hs, if_true, Bool.true_or, Bool.not_true, Bool.false_and]
        exact ⟨_, _, _, rfl, rfl, trivial⟩

/-- An attempt that reported success. -/
def IsSuccess (action : ActionRequest) (e : Prog.Event Op Ans) : Prop :=
  ∃ result : AdapterResult, e = ⟨.registryRun action, .ok result⟩ ∧ result.success = true

theorem runWithRetries_issues (action : ActionRequest) (n : ℕ) :
    (runWithRetries action n).Issues (· = .registryRun action) := by
  induction n with
  | zero => trivial
  | succ n ih =>
    refine issues_perform_bind.mpr ⟨rfl, fun answer ↦ ?_⟩
    rcases answer with f | result
    · cases f with
      | timeoutError =>
        dsimp only
        split_ifs
        · trivial
        · exact ih
      | _ => trivial
    · dsimp only
      split_ifs
      · trivial
      · trivial
      · exact ih

/-- An attempt reports success exactly when the stream says so, whatever ends the attempts. -/
theorem runWithRetries_trace (action : ActionRequest) (n : ℕ) (w : World) :
    (∃ e ∈ (runWithRetries action n).trace (serve env mode) w, IsSuccess action e) ↔
      succeeds env action n w.attempts = true := by
  induction n generalizing w with
  | zero => simp [runWithRetries, succeeds, Prog.pure_eq]
  | succ n ih =>
    have hstep := ih { w with attempts := w.attempts + 1, tick := w.tick + 1 }
    rw [runWithRetries, trace_perform_bind, succeeds, serve_registryRun, List.exists_mem_cons_iff]
    rcases env.attempt w.attempts action with f | result
    · have hno : ¬ IsSuccess action ⟨.registryRun action, .error f⟩ := by
        rintro ⟨result, h, -⟩
        cases h
      rw [or_iff_right hno]
      cases f with
      | timeoutError =>
        dsimp only
        split_ifs with hn
        · subst hn
          simp [succeeds, Prog.pure_eq]
        · exact hstep
      | _ => simp
    · have hyes : IsSuccess action ⟨.registryRun action, .ok result⟩ ↔ result.success = true :=
        ⟨fun ⟨_, h, hs⟩ ↦ by cases h; exact hs, fun hs ↦ ⟨result, rfl, hs⟩⟩
      rw [hyes, Bool.or_eq_true]
      dsimp only
      split_ifs with hs hn
      · simp [hs]
      · subst hn
        simp [hs, succeeds, Prog.pure_eq]
      · rw [hstep]

/-- The attempts after a granted claim are attempts at the claimed action. -/
theorem runClaimed_trace (action b : ActionRequest) (w : World) :
    (∃ e ∈ (runClaimed action).trace (serve env mode) w, IsSuccess b e) ↔
      b = action ∧ succeeds env action defaultRetryLimit w.attempts = true := by
  have haudit (eventType : String) (payload : Dict) :
      ¬ IsSuccess b ⟨.audit eventType payload, ()⟩ := by
    rintro ⟨result, h, -⟩
    cases h
  have htrace : (∃ e ∈ (runClaimed action).trace (serve env mode) w, IsSuccess b e) ↔
      ∃ e ∈ (runWithRetries action defaultRetryLimit).trace (serve env mode) w, IsSuccess b e := by
    rw [runClaimed, Prog.bind_eq, Prog.trace_bind]
    rcases (runWithRetries action defaultRetryLimit).run (serve env mode) w with ⟨e | r, w'⟩
    · rw [List.append_nil]
    · dsimp only
      rw [trace_perform_bind]
      simp only [List.mem_append, or_and_right, exists_or, Prog.pure_eq, Prog.trace_ret,
        List.mem_singleton, exists_eq_left, haudit, or_false]
  rw [htrace]
  constructor
  · rintro ⟨e, he, hsuccess⟩
    have hop := (runWithRetries_issues action defaultRetryLimit).trace w e he
    obtain ⟨result, rfl, hr⟩ := hsuccess
    cases hop
    exact ⟨rfl, (runWithRetries_trace action _ w).mp ⟨_, he, result, rfl, hr⟩⟩
  · rintro ⟨rfl, h⟩
    exact (runWithRetries_trace b _ w).mpr h

theorem succeeds_of_raises (action : ActionRequest) (n k : ℕ)
    (h : raises env action n k = true) : succeeds env action n k = false := by
  induction n generalizing k with
  | zero => cases h
  | succ n ih =>
    rw [raises] at h
    rw [succeeds]
    rcases hattempt : env.attempt k action with f | result <;> rw [hattempt] at h
    · cases f with
      | timeoutError => exact ih _ h
      | _ => rfl
    · simp only [Bool.and_eq_true, Bool.not_eq_true'] at h
      simp only [h.1, Bool.false_or, ih _ h.2]

/-! ## One call -/

section Call

variable (action : ActionRequest) (w : World)

variable {action w}

theorem execute_run_refused
    (h : w.claimAnswer env action.idempotencyKey action.actionId = .ok false) :
    (execute action).run (serve env mode) w =
      (.ok (true, "Skipped duplicate idempotency key " ++ action.idempotencyKey),
        w.claimed env action.idempotencyKey action.actionId) := by
  rw [execute, run_perform_bind, serve_claim, h]
  rfl

theorem execute_run_error {f : Fault}
    (h : w.claimAnswer env action.idempotencyKey action.actionId = .error f) :
    (execute action).run (serve env mode) w =
      (.error (.fault f), w.claimed env action.idempotencyKey action.actionId) := by
  rw [execute, run_perform_bind, serve_claim, h]
  rfl

/-- A granted call makes its attempts, and logs `adapter_execution` unless one raises. -/
theorem execute_run_granted
    (h : w.claimAnswer env action.idempotencyKey action.actionId = .ok true) :
    ∃ r attempts tick events, (execute action).run (serve env mode) w
        = (r, { w.claimed env action.idempotencyKey action.actionId with
            attempts, tick, events }) ∧
      match r with
      | .ok (success, message) =>
        success = succeeds env action defaultRetryLimit w.attempts ∧
          raises env action defaultRetryLimit w.attempts = false ∧
          ∃ createdAt, events = w.events ++
            [⟨"adapter_execution", adapterExecution action success message, createdAt⟩]
      | .error _ => raises env action defaultRetryLimit w.attempts = true ∧ events = w.events := by
  obtain ⟨r, attempts, tick, hrun, hr⟩ := runWithRetries_run action defaultRetryLimit
    (w.claimed env action.idempotencyKey action.actionId)
  rw [execute, run_perform_bind, serve_claim, h]
  simp only [runClaimed, Prog.bind_eq]
  rcases r with e | ⟨success, message⟩
  · rw [Prog.run_bind_error hrun]
    exact ⟨_, attempts, tick, w.events, rfl, hr, rfl⟩
  · rw [Prog.run_bind_ok hrun]
    exact ⟨.ok (success, message), attempts, tick + 1, _, rfl, hr.1, hr.2, _, rfl⟩

/-- A call runs its own action only, and only after a granted claim. -/
theorem execute_trace (b : ActionRequest) :
    (∃ e ∈ (execute action).trace (serve env mode) w, IsSuccess b e) ↔
      b = action ∧ w.claimAnswer env action.idempotencyKey action.actionId = .ok true ∧
        succeeds env action defaultRetryLimit w.attempts = true := by
  have hclaim (answer : Except Fault Bool) : ¬ IsSuccess b
      ⟨.claim action.idempotencyKey action.actionId, answer⟩ := by
    rintro ⟨result, h, -⟩
    cases h
  rw [execute, trace_perform_bind, List.exists_mem_cons_iff, or_iff_right (hclaim _), serve_claim]
  rcases w.claimAnswer env action.idempotencyKey action.actionId with f | granted
  · simp
  · cases granted
    · simp [Prog.pure_eq]
    · refine (runClaimed_trace action b _).trans ?_
      simp [World.claimed]

theorem execute_reports_success_iff :
    (∃ message, ((execute action).run (serve env mode) w).1 = .ok (true, message)) ↔
      w.claimAnswer env action.idempotencyKey action.actionId = .ok false ∨
        w.claimAnswer env action.idempotencyKey action.actionId = .ok true ∧
          succeeds env action defaultRetryLimit w.attempts = true := by
  rcases h : w.claimAnswer env action.idempotencyKey action.actionId with f | granted
  · rw [execute_run_error h]
    simp
  · cases granted
    · rw [execute_run_refused h]
      simp
    · obtain ⟨r, attempts, tick, events, hrun, hr⟩ := @execute_run_granted env mode action w h
      rw [hrun]
      rcases r with e | ⟨success, message⟩
      · simp [succeeds_of_raises action _ _ hr.1]
      · simp [← hr.1]

end Call

/-! ## Sequences of calls -/

/-- One call of a sequence: the world it starts in and its action. -/
structure Execution where
  before : World
  action : ActionRequest

/-- The calls of a sequence, each in the world the one before left. -/
def executions (env : Env) (mode : Mode) : World → List ActionRequest → List Execution
  | _, [] => []
  | w, a :: as => ⟨w, a⟩ :: executions env mode ((execute a).run (serve env mode) w).2 as

namespace Execution

/-- The answer of the claim, before anything runs. -/
def claim (env : Env) (x : Execution) : Except Fault Bool :=
  x.before.claimAnswer env x.action.idempotencyKey x.action.actionId

/-- The call returned `(True, …)`. -/
def ReportsSuccess (env : Env) (mode : Mode) (x : Execution) : Prop :=
  ∃ message, ((execute x.action).run (serve env mode) x.before).1 = .ok (true, message)

/-- The call ran an action with this key and dry-run flag, and the adapter reported success. -/
def Ran (env : Env) (mode : Mode) (x : Execution) (key : String) (dryRun : Bool) : Prop :=
  ∃ b : ActionRequest, b.idempotencyKey = key ∧ b.dryRun = dryRun ∧
    ∃ e ∈ (execute x.action).trace (serve env mode) x.before, IsSuccess b e

/-- The call claimed this key for an action with this flag, and the attempts it finds succeed. -/
def Backs (env : Env) (x : Execution) (key : String) (dryRun : Bool) : Prop :=
  x.action.idempotencyKey = key ∧ x.action.dryRun = dryRun ∧ x.claim env = .ok true ∧
    succeeds env x.action defaultRetryLimit x.before.attempts = true

theorem ran_iff_backs (x : Execution) (key : String) (dryRun : Bool) :
    x.Ran env mode key dryRun ↔ x.Backs env key dryRun := by
  simp only [Ran, Backs, claim, execute_trace]
  constructor
  · rintro ⟨b, hkey, hdry, rfl, hclaim, hs⟩
    exact ⟨hkey, hdry, hclaim, hs⟩
  · rintro ⟨hkey, hdry, hclaim, hs⟩
    exact ⟨x.action, hkey, hdry, rfl, hclaim, hs⟩

theorem reportsSuccess_iff (x : Execution) : x.ReportsSuccess env mode ↔
    x.claim env = .ok false ∨ x.Backs env x.action.idempotencyKey x.action.dryRun := by
  rw [ReportsSuccess, execute_reports_success_iff]
  exact or_congr_right ⟨fun h ↦ ⟨rfl, rfl, h⟩, fun h ↦ h.2.2⟩

end Execution

/-- **What a reported success is worth.** In a sequence of calls every reported success is backed
by a successful run of the same key and dry-run flag, now or earlier, exactly when every call whose
key is refused comes after a call that claimed this key with the same flag and whose attempts
succeeded. -/
theorem success_backed_iff (env : Env) (mode : Mode) (w : World) (actions : List ActionRequest) :
    (∀ earlier x later, executions env mode w actions = earlier ++ x :: later →
      x.ReportsSuccess env mode →
        ∃ y ∈ earlier ++ [x], y.Ran env mode x.action.idempotencyKey x.action.dryRun) ↔
    ∀ earlier x later, executions env mode w actions = earlier ++ x :: later →
      x.claim env = .ok false →
        ∃ y ∈ earlier, y.Backs env x.action.idempotencyKey x.action.dryRun := by
  simp only [Execution.ran_iff_backs, Execution.reportsSuccess_iff]
  refine forall₄_congr fun earlier x later hsplit ↦ ⟨fun h hrefused ↦ ?_, fun h hsuccess ↦ ?_⟩
  · obtain ⟨y, hy, hbacks⟩ := h (Or.inl hrefused)
    rcases List.mem_append.mp hy with hy | hy
    · exact ⟨y, hy, hbacks⟩
    · rw [List.mem_singleton.mp hy] at hbacks
      exact absurd (hrefused.symm.trans hbacks.2.2.1) (by simp)
  · rcases hsuccess with hrefused | hbacks
    · obtain ⟨y, hy, hbacks⟩ := h hrefused
      exact ⟨y, List.mem_append_left _ hy, hbacks⟩
    · exact ⟨x, by simp, hbacks⟩

/-- The restart of an incident, as the planner keys it, whether it is a dry run or not. -/
def restartCheckout (dryRun : Bool) : ActionRequest where
  actionId := "act_1"
  actionType := .restartService
  target := "checkout-service"
  parameters := [("service", .str "checkout-service")]
  idempotencyKey := "inc_1:restart"
  dryRun := dryRun

/-- After a dry run the real run is refused its key and reports success. -/
theorem real_run_after_dry_run_not_backed :
    ¬ ∀ earlier x later, executions Env.demo .fallback {} [restartCheckout true,
        restartCheckout false] = earlier ++ x :: later → x.ReportsSuccess Env.demo .fallback →
      ∃ y ∈ earlier ++ [x], y.Ran Env.demo .fallback x.action.idempotencyKey x.action.dryRun := by
  intro h
  obtain ⟨y, hy, hran⟩ := h [_] _ [] rfl ⟨_, rfl⟩
  rw [Execution.ran_iff_backs] at hran
  rcases List.mem_pair.mp hy with rfl | rfl
  · exact absurd hran.2.1 (by decide)
  · exact absurd hran.2.2.1 (by decide)

end IncidentPlatform
