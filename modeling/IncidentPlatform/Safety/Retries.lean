import IncidentPlatform.Execution.Executor
import IncidentPlatform.Safety.Targets

/-!
# Retries and their reasons

The ECS adapter classifies what boto3 raises as retryable or not, in the details of its result. The
executor looks at the success of a result alone. It makes another attempt after every reported
failure, as long as there is one left. An attempt is justified if the one before it was transient:
it timed out, or its failure was classified as retryable. The attempts of a call are all justified
exactly if, of those that another one may follow, the first that is not transient is no failure
(`retries_justified_iff`).

Which failures are transient is settled by the adapters (`run_retryable`): none of the registry's
own is, and of those of the ECS adapter only the ones of a retryable code.
-/

namespace IncidentPlatform

open Interaction

/-! ## Transient attempts -/

/-- `details.get("retryable")`. -/
def AdapterResult.retryable (r : AdapterResult) : Bool :=
  ((Dict.get? r.details "retryable").map Value.truthy).getD false

/-- An attempt that timed out, or failed for a reason that its adapter classifies as retryable. -/
def Transient : Except Fault AdapterResult → Prop
  | .error f => f = .timeoutError
  | .ok r => r.success = false ∧ r.retryable = true

/-- An attempt that failed for another reason. -/
def Terminal : Except Fault AdapterResult → Prop
  | .error _ => False
  | .ok r => r.success = false ∧ r.retryable = false

instance (outcome : Except Fault AdapterResult) : Decidable (Terminal outcome) :=
  match outcome with
  | .error _ => inferInstanceAs (Decidable False)
  | .ok r => inferInstanceAs (Decidable (r.success = false ∧ r.retryable = false))

/-- Every attempt that is followed by another one was transient. -/
def RetriesJustified (action : ActionRequest) (trace : List (Prog.Event Op Ans)) : Prop :=
  trace.IsChain fun e _ ↦ ∃ outcome, e = ⟨.registryRun action, outcome⟩ ∧ Transient outcome

/-- Of the `n` attempts from the `k`-th on, but for the last one, the first that is not transient is
no failure. -/
def NoTerminalRetried (env : Env) (action : ActionRequest) (n k : ℕ) : Prop :=
  ∀ j, j + 1 < n → (∀ i < j, Transient (env.attempt (k + i) action)) →
    ¬ Terminal (env.attempt (k + j) action)

section

variable {env : Env} {mode : Mode} {action : ActionRequest}

theorem noTerminalRetried_succ (n k : ℕ) :
    NoTerminalRetried env action (n + 2) k ↔ ¬ Terminal (env.attempt k action) ∧
      (Transient (env.attempt k action) → NoTerminalRetried env action (n + 1) (k + 1)) := by
  constructor
  · -- The first attempt is its own case, the later ones are counted from the second one on.
    intro h
    refine ⟨h 0 (by omega) (fun i hi ↦ absurd hi (Nat.not_lt_zero i)), fun hfirst j hj hbefore ↦ ?_⟩
    rw [Nat.add_right_comm, Nat.add_assoc]
    refine h (j + 1) (by omega) fun i hi ↦ ?_
    cases i with
    | zero => exact hfirst
    | succ i =>
      have hi' := hbefore i (by omega)
      rw [Nat.add_right_comm, Nat.add_assoc] at hi'
      exact hi'
  · rintro ⟨hterminal, hrest⟩ j hj hbefore
    cases j with
    | zero => exact hterminal
    | succ j =>
      have hj' := hrest (hbefore 0 (by omega)) j (by omega) fun i hi ↦ ?_
      · rw [Nat.add_right_comm, Nat.add_assoc] at hj'
        exact hj'
      · rw [Nat.add_right_comm, Nat.add_assoc]
        exact hbefore (i + 1) (by omega)

/-- The executor makes another attempt, if there is one left. -/
def Retried : Except Fault AdapterResult → Bool
  | .error f => f = .timeoutError
  | .ok r => !r.success

/-- A retried attempt was transient, or else it was terminal. -/
theorem transient_iff_of_retried {outcome : Except Fault AdapterResult}
    (h : Retried outcome = true) : Transient outcome ↔ ¬ Terminal outcome := by
  rcases outcome with f | r
  · have htimeout : f = .timeoutError := by simpa [Retried] using h
    exact iff_of_true htimeout id
  · have hfailed : r.success = false := by simpa [Retried] using h
    simp [Transient, Terminal, hfailed]

theorem not_transient_of_not_retried {outcome : Except Fault AdapterResult}
    (h : Retried outcome = false) : ¬ Transient outcome ∧ ¬ Terminal outcome := by
  rcases outcome with f | r
  · have hother : f ≠ .timeoutError := by simpa [Retried] using h
    exact ⟨hother, id⟩
  · have hsuccess : r.success = true := by simpa [Retried] using h
    simp [Transient, Terminal, hsuccess]

/-- The trace of the attempts, one by one. -/
theorem runWithRetries_trace_succ (n : ℕ) (w : World) :
    (runWithRetries action (n + 1)).trace (serve env mode) w =
      ⟨.registryRun action, env.attempt w.attempts action⟩ ::
        bif Retried (env.attempt w.attempts action) then
          (runWithRetries action n).trace (serve env mode)
            { w with attempts := w.attempts + 1, tick := w.tick + 1 }
        else [] := by
  rw [runWithRetries, trace_perform_bind, serve_registryRun]
  congr 1
  rcases env.attempt w.attempts action with f | r
  · cases f with
    | timeoutError =>
      by_cases hn : n = 0
      · subst hn
        rfl
      · simp only [if_neg hn]
        rfl
    | _ => rfl
  · dsimp only
    rcases hsuccess : r.success with _ | _
    · have hretried : Retried (.ok r) = true := by simp [Retried, hsuccess]
      rw [hretried, cond_true, if_neg Bool.false_ne_true]
      by_cases hn : n = 0
      · subst hn
        rfl
      · rw [if_neg hn]
    · have hretried : Retried (.ok r) = false := by simp [Retried, hsuccess]
      rw [hretried, cond_false, if_pos rfl]
      rfl

/-- The attempts of a call, by induction on the number that is left. -/
theorem runWithRetries_justified_iff (n : ℕ) (w : World) :
    RetriesJustified action ((runWithRetries action n).trace (serve env mode) w) ↔
      NoTerminalRetried env action n w.attempts := by
  induction n generalizing w with
  | zero => exact iff_of_true List.IsChain.nil fun j hj ↦ absurd hj (Nat.not_lt_zero _)
  | succ n ih =>
    have hrest := ih { w with attempts := w.attempts + 1, tick := w.tick + 1 }
    rw [runWithRetries_trace_succ]
    cases n with
    | zero =>
      -- The last attempt needs no justification.
      refine iff_of_true ?_ fun j hj ↦ absurd hj (by omega)
      rcases Retried (env.attempt w.attempts action) with _ | _
      · exact List.IsChain.singleton _
      · exact List.IsChain.singleton _
    | succ n =>
      -- There is another attempt left, and it is made exactly if this one is retried.
      rw [noTerminalRetried_succ]
      rcases hretried : Retried (env.attempt w.attempts action) with _ | _
      · obtain ⟨htransient, hterminal⟩ := not_transient_of_not_retried hretried
        exact iff_of_true (List.IsChain.singleton _) ⟨hterminal, fun h ↦ absurd h htransient⟩
      · rw [← transient_iff_of_retried hretried, ← hrest, cond_true, RetriesJustified,
          runWithRetries_trace_succ, List.isChain_cons_cons]
        constructor
        · rintro ⟨⟨outcome, heq, htransient⟩, hchain⟩
          cases heq
          exact ⟨htransient, fun _ ↦ hchain⟩
        · rintro ⟨htransient, hchain⟩
          exact ⟨⟨_, rfl, htransient⟩, hchain htransient⟩

end

theorem retryable_updateResult (action : ActionRequest) (planned : Dict)
    (outcome : Except PyException (Dict × Bool × Dict)) :
    (AwsEcsActionAdapter.updateResult action planned outcome).retryable = true ↔
      ∃ e, outcome = .error e ∧ (classifyAwsError e).retryable = true := by
  rcases outcome with e | ⟨response, verified, verification⟩
  · simp [AwsEcsActionAdapter.updateResult, AdapterResult.retryable, Dict.get?, Value.truthy]
  · simp [AwsEcsActionAdapter.updateResult, AdapterResult.retryable, Dict.get?]

theorem classifyAwsError_retryable (e : PyException) :
    (classifyAwsError e).retryable = true ↔ e.code.getD e.className ∈ retryableCodes := by
  unfold classifyAwsError
  dsimp only
  split_ifs with hcode <;> simp [hcode]

theorem classifyAwsError_reason (e : PyException) :
    (classifyAwsError e).reason = e.code.getD e.className := by
  unfold classifyAwsError
  dsimp only
  split_ifs <;> rfl

/-- A result that is classified as retryable comes from the ECS adapter, for an accepted action, and
reports an exception of a retryable code. -/
theorem run_retryable (cfg : Settings) (s : AdapterSettings) (context : SecurityContext)
    (action : ActionRequest) :
    (TypedActionAdapterRegistry.run cfg s context action).Yields fun r ↦ r.retryable = true →
      cfg.executionMode = "aws" ∧ Accepted s context action ∧
        ∃ code ∈ retryableCodes, r.message = "AWS ECS action failed: " ++ code := by
  have hplain {details : Dict} (hnone : Dict.get? details "retryable" = none) (success : Bool)
      (message : String) :
      (AdapterResult.mk success message details).retryable = true → False := by
    simp [AdapterResult.retryable, hnone]
  -- Every result of the registry and of the local client is plain. What is left is the ECS adapter.
  unfold TypedActionAdapterRegistry.run
  split_ifs with hsupported haccessible hvalid hmode hdry hlocal
  · exact fun h ↦ (hplain rfl _ _ h).elim
  · exact fun h ↦ (hplain rfl _ _ h).elim
  · have haccepted : Accepted s context action :=
      ⟨hsupported, by simpa using haccessible, by simpa using hvalid⟩
    rw [Bool.and_eq_true, beq_iff_eq] at hmode
    unfold AwsEcsActionAdapter.run
    dsimp only
    rcases AwsEcsActionAdapter.plannedOperation _ _ _ _ _ with e | planned
    · split_ifs
      · exact fun h ↦ (hplain rfl _ _ h).elim
      · trivial
      · trivial
    split_ifs
    · exact fun h ↦ (hplain rfl _ _ h).elim
    · exact fun h ↦ (hplain rfl _ _ h).elim
    · refine Prog.Yields.rest fun outcome h ↦ ?_
      obtain ⟨e, rfl, hretryable⟩ := (retryable_updateResult _ _ _).mp h
      exact ⟨hmode.1, haccepted, _, (classifyAwsError_retryable e).mp hretryable,
        congrArg ("AWS ECS action failed: " ++ ·) (classifyAwsError_reason e)⟩
  · exact fun h ↦ (hplain rfl _ _ h).elim
  · exact fun h ↦ (hplain rfl _ _ h).elim
  · unfold TypedActionAdapterRegistry.runLocal
    rcases TypedActionAdapterRegistry.localCall cfg s action with _ | ⟨e | call, message⟩
    · exact fun h ↦ (hplain rfl _ _ h).elim
    · trivial
    · intro answer
      exact (Prog.Yields.true (Prog.ofExcept answer)).bind fun result _ h ↦ (hplain rfl _ _ h).elim
  · exact fun h ↦ (hplain rfl _ _ h).elim

/-! ## An update that is in progress -/

/-- Clients of an ECS service whose deployment is still rolling out. -/
def rollingOut (_ : Unit) : (o : AdapterOp) → AdapterAns o × Unit
  | .ecsClient => (.ok (), ())
  | .updateService _ _ _ => (.ok [], ())
  | .describeServices _ _ =>
    (.ok [("services", .list [.dict
      [("desiredCount", .num 1), ("runningCount", .num 1),
        ("deployments", .list [.dict [("rolloutState", .str "IN_PROGRESS")]])]])], ())
  | .checkout _ => (.error .httpError, ())

def Settings.aws : Settings := { Settings.demo with executionMode := "aws" }

/-- The settings of the checkout service on ECS, with the dry run off. -/
def AdapterSettings.ecs : AdapterSettings :=
  { AdapterSettings.demo with
    awsEcsCluster := "checkout-cluster"
    awsEcsService := "checkout-service"
    awsActionDryRun := false }

/-- An outside in which every attempt at an action is one at the service that is rolling out. -/
def Env.rollingOut : Env :=
  { Env.demo with
    attempt := fun _ action ↦
      ((TypedActionAdapterRegistry.run Settings.aws AdapterSettings.ecs (.executor action)
        action).run
        IncidentPlatform.rollingOut ()).1 }

example : (Env.rollingOut.attempt 0 (restartCheckout false)).toOption.map AdapterResult.message =
    some "AWS ECS RestartService completed but not verified" := by decide +kernel

end IncidentPlatform
