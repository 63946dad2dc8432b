import IncidentPlatform.Execution.Adapters
import Mathlib.Tactic.NormNum

/-!
# The checkout service

`sample-workload/checkout-service/app.py`, the workload that local mode acts on, and
`CheckoutServiceClient` of `src/adapters/local/checkout_client.py`, which reaches it over a network
that can lose a request or its answer.

The service is a record of seven fields, but what the platform asks of it is one bit: is there a
fault that has been injected and not been repaired since? **`verifyRecovery_after`** says that the
verdict of `verify_recovery` is this bit after any requests, whoever made them.
-/

namespace IncidentPlatform

open Interaction

/-! ## The service -/

structure CheckoutState where
  revision : String := "checkout-r42"
  previousRevision : String := "checkout-r41"
  replicas : ℤ := 3
  errorRatePercent : ℚ := 1 / 10
  p95LatencyMs : ℚ := 120
  healthy : Bool := true
  failureInjected : Bool := false
  deriving DecidableEq, Repr, Inhabited

/-- `asdict(state)`. -/
def CheckoutState.asdict (s : CheckoutState) : Dict :=
  [("revision", .str s.revision), ("previous_revision", .str s.previousRevision),
    ("replicas", .num s.replicas), ("error_rate_percent", .num s.errorRatePercent),
    ("p95_latency_ms", .num s.p95LatencyMs), ("healthy", .bool s.healthy),
    ("failure_injected", .bool s.failureInjected)]

/-- A request to the service. -/
inductive CheckoutRequest where
  | health
  | businessMetrics
  | injectDeploymentRegression
  | rollback (toRevision : String)
  | restart
  | scale (replicas : ℤ)
  | reset
  deriving DecidableEq, Repr

namespace CheckoutRequest

/-- What a request does to the state. `ScalePayload` refuses a number of replicas out of range. -/
def next (s : CheckoutState) : CheckoutRequest → CheckoutState
  | health | businessMetrics | restart => s
  | injectDeploymentRegression =>
    { s with
      previousRevision := "checkout-r42"
      revision := "checkout-r43"
      errorRatePercent := 87 / 10
      p95LatencyMs := 950
      healthy := false
      failureInjected := true }
  | rollback toRevision =>
    { s with
      revision := toRevision
      errorRatePercent := 1 / 10
      p95LatencyMs := 125
      healthy := true
      failureInjected := false }
  | scale replicas => if 1 ≤ replicas ∧ replicas ≤ 20 then { s with replicas } else s
  | reset => {}

/-- The answer, given the state after the request; the status 422 for a request that does not
validate. -/
def answer (s : CheckoutState) : CheckoutRequest → Except ℕ Dict
  | health => .ok (("status", .str (if s.healthy then "ok" else "degraded")) :: s.asdict)
  | restart => .ok (("operation", .str "restart") :: s.asdict)
  | scale replicas => if 1 ≤ replicas ∧ replicas ≤ 20 then .ok s.asdict else .error 422
  | _ => .ok s.asdict

/-- The requests that end every fault. -/
def repairs : CheckoutRequest → Bool
  | rollback _ | reset => true
  | _ => false

end CheckoutRequest

/-- The state after some requests. -/
def CheckoutState.after (s : CheckoutState) (requests : List CheckoutRequest) : CheckoutState :=
  requests.foldl CheckoutRequest.next s

/-- There is a fault that was injected and not repaired since. -/
def FaultOpen (requests : List CheckoutRequest) : Prop :=
  ∃ earlier later, requests = earlier ++ .injectDeploymentRegression :: later ∧
    ∀ request ∈ later, request.repairs = false

theorem faultOpen_cons (request : CheckoutRequest) (requests : List CheckoutRequest) :
    FaultOpen (request :: requests) ↔ FaultOpen requests ∨
      request = .injectDeploymentRegression ∧ ∀ later ∈ requests, later.repairs = false := by
  constructor
  · rintro ⟨earlier, later, hsplit, hlater⟩
    rcases List.cons_eq_append_iff.mp hsplit with ⟨-, h⟩ | ⟨earlier, -, h⟩
    · obtain ⟨rfl, rfl⟩ := List.cons.inj h
      exact Or.inr ⟨rfl, hlater⟩
    · exact Or.inl ⟨earlier, later, h, hlater⟩
  · rintro (⟨earlier, later, rfl, hlater⟩ | ⟨rfl, hlater⟩)
    · exact ⟨request :: earlier, later, rfl, hlater⟩
    · exact ⟨[], requests, rfl, hlater⟩

theorem faultOpen_nil : ¬ FaultOpen [] := by
  rintro ⟨earlier, later, h, -⟩
  exact List.append_ne_nil_of_right_ne_nil _ (List.cons_ne_nil _ _) h.symm

theorem faultOpen_append (requests further : List CheckoutRequest) :
    FaultOpen (requests ++ further) ↔
      FaultOpen further ∨ FaultOpen requests ∧ ∀ request ∈ further, request.repairs = false := by
  induction requests with
  | nil => exact (or_iff_left fun h ↦ faultOpen_nil h.1).symm
  | cons request requests ih =>
    rw [List.cons_append, faultOpen_cons, faultOpen_cons, ih, List.forall_mem_append, or_and_right,
      and_assoc, or_assoc]

/-! ## The client -/

/-- The request behind a call. -/
def CheckoutCall.request : CheckoutCall → CheckoutRequest
  | rollback toRevision => .rollback toRevision
  | restart => .restart
  | scale replicas => .scale replicas

/-- `verify_recovery`, from the metrics on. The error is that of `float`. -/
def verifyRecovery (t : Text) (metrics : Dict) : Except Fault (Bool × Dict) :=
  match ((Dict.get? metrics "error_rate_percent").getD (.num 100)).toFloat t,
      ((Dict.get? metrics "p95_latency_ms").getD (.num 9999)).toFloat t with
  | some errorRate, some latency =>
    let healthy := ((Dict.get? metrics "healthy").getD (.bool false)).truthy
    .ok (healthy && decide (errorRate < 1) && decide (latency < 300), metrics)
  | _, _ => .error .other

/-- What becomes of a request on its way. -/
inductive Delivery where
  | arrives
  /-- The request is lost. -/
  | lost (f : Fault)
  /-- The request takes effect, and its answer is lost. -/
  | unanswered (f : Fault)
  deriving DecidableEq, Repr

/-- The request takes effect. -/
def Delivery.reaches : Delivery → Bool
  | arrives | unanswered _ => true
  | lost _ => false

/-- A request over the network, as the client sees it: `raise_for_status` turns a refusal into an
`HTTPStatusError`. -/
def Delivery.send (d : Delivery) (s : CheckoutState) (request : CheckoutRequest) :
    Except Fault Dict :=
  match d with
  | arrives => (request.answer (request.next s)).mapError fun _ ↦ .httpError
  | lost f | unanswered f => .error f

/-! ## What the service can be like -/

/-- What every request leaves behind. -/
structure CheckoutState.Sane (s : CheckoutState) : Prop where
  replicas : 1 ≤ s.replicas ∧ s.replicas ≤ 20
  healthy : s.healthy = !s.failureInjected
  errorRate : s.errorRatePercent < 1 ↔ s.failureInjected = false
  latency : s.p95LatencyMs < 300 ↔ s.failureInjected = false
  alarming : 1 < s.errorRatePercent ↔ s.failureInjected = true

theorem CheckoutState.sane_default : ({} : CheckoutState).Sane :=
  ⟨by decide, rfl, by norm_num, by norm_num, by norm_num⟩

namespace CheckoutRequest

variable {s : CheckoutState}

theorem next_sane (hs : s.Sane) (request : CheckoutRequest) : (request.next s).Sane := by
  cases request with
  | injectDeploymentRegression =>
    exact ⟨hs.replicas, rfl, by norm_num [next], by norm_num [next], by norm_num [next]⟩
  | rollback toRevision =>
    exact ⟨hs.replicas, rfl, by norm_num [next], by norm_num [next], by norm_num [next]⟩
  | scale replicas =>
    rw [next]
    split_ifs with hrange
    · exact ⟨hrange, hs.healthy, hs.errorRate, hs.latency, hs.alarming⟩
    · exact hs
  | reset => exact CheckoutState.sane_default
  | health | businessMetrics | restart => exact hs

/-- One request opens the fault, two kinds of requests end it, and the others leave it. -/
theorem next_failureInjected (s : CheckoutState) (request : CheckoutRequest) :
    (request.next s).failureInjected = if request = injectDeploymentRegression then true
      else if request.repairs then false else s.failureInjected := by
  cases request with
  | scale replicas =>
    change (if _ then { s with replicas } else s : CheckoutState).failureInjected = _
    split_ifs <;> first | rfl | contradiction
  | _ => rfl

end CheckoutRequest

namespace CheckoutState

theorem Sane.after {s : CheckoutState} (hs : s.Sane) (requests : List CheckoutRequest) :
    (s.after requests).Sane := by
  induction requests generalizing s with
  | nil => exact hs
  | cons request requests ih => exact ih (CheckoutRequest.next_sane hs request)

/-- The metrics are read as they are, and the verdict is that there is no fault. -/
theorem verifyRecovery_asdict (t : Text) {s : CheckoutState} (hs : s.Sane) :
    verifyRecovery t s.asdict = .ok (!s.failureInjected, s.asdict) := by
  have hverdict : (s.healthy && decide (s.errorRatePercent < 1) && decide (s.p95LatencyMs < 300))
      = !s.failureInjected := by
    rw [hs.healthy, Bool.eq_iff_iff, Bool.and_eq_true, Bool.and_eq_true, decide_eq_true_iff,
      decide_eq_true_iff, hs.errorRate, hs.latency, Bool.not_eq_true', and_self, and_self]
  exact congrArg (fun b ↦ Except.ok (b, s.asdict)) hverdict

/-- The last request that injects or repairs a fault decides. -/
theorem after_failureInjected (s : CheckoutState) (requests : List CheckoutRequest) :
    (s.after requests).failureInjected = true ↔ FaultOpen requests ∨
      s.failureInjected = true ∧ ∀ request ∈ requests, request.repairs = false := by
  induction requests generalizing s with
  | nil => simp [after, FaultOpen]
  | cons request requests ih =>
    have hnext := CheckoutRequest.next_failureInjected s request
    rw [after, List.foldl_cons, ← after, ih, faultOpen_cons, hnext, List.forall_mem_cons]
    split_ifs with hinject hrepairs
    · subst hinject
      have hkeeps : CheckoutRequest.injectDeploymentRegression.repairs = false := rfl
      simp only [hkeeps, true_and, or_assoc]
      rw [or_iff_left_of_imp fun h : s.failureInjected = true ∧ _ ↦ h.2]
    · simp [hinject, hrepairs]
    · simp [hinject, hrepairs]

end CheckoutState

/-- **The verdict.** After any requests to a fresh service the metrics are read without an
exception, the recovery is verified if and only if no fault is open, which is also what `/health`
says, and the number of replicas is in range. -/
theorem verifyRecovery_after (t : Text) (requests : List CheckoutRequest) :
    ∃ recovered, verifyRecovery t (({} : CheckoutState).after requests).asdict
        = .ok (recovered, (({} : CheckoutState).after requests).asdict) ∧
      (recovered = true ↔ ¬ FaultOpen requests) ∧
      ((({} : CheckoutState).after requests).healthy = true ↔ ¬ FaultOpen requests) ∧
      1 ≤ (({} : CheckoutState).after requests).replicas ∧
      (({} : CheckoutState).after requests).replicas ≤ 20 := by
  have hsane := CheckoutState.sane_default.after requests
  have hfault := CheckoutState.after_failureInjected {} requests
  rw [or_iff_left fun h ↦ Bool.false_ne_true h.1] at hfault
  have hverdict : (!(({} : CheckoutState).after requests).failureInjected) = true ↔
      ¬ FaultOpen requests := by
    rw [← hfault, Bool.not_eq_true', Bool.not_eq_true]
  refine ⟨_, CheckoutState.verifyRecovery_asdict t hsane, hverdict, ?_, hsane.replicas⟩
  rw [hsane.healthy]
  exact hverdict

end IncidentPlatform
