import IncidentPlatform.Agents.Completion

/-!
# What the budget of a route bounds

A route may make `LLM_MAX_CALLS_PER_ROUTE` calls and use `LLM_MAX_TOKENS_PER_ROUTE` tokens. The
budget is no gate, though: `complete_json` sends its request first, counts it afterwards, and only
if it has been answered by a body that it can read. So a request that fails is never counted, the
second request of a call that is refused its format is not counted either, and the call that finds
the budget used up has been sent by then.

So what bounds the requests of a route is what its agents ask for and what they are answered.
`requests_bounded` says it exactly. There are as many requests as calls, and one more for each call
that is refused its format; the tokens used before a call are those of the answers that could be
read. The invariant is that a route has sent just these requests and recorded just these tokens.
-/

namespace IncidentPlatform

open Interaction

/-! ## Calls of a route -/

/-- One call of `complete_json`, with its response model. -/
structure LlmCall where
  {Out : Type}
  validate : Value → Option Out

section

variable (rt : CompletionRuntime) (http : ℕ → HttpOutcome)

/-- The state after one call, however it ends. -/
def afterCall (s : LlmState) (c : LlmCall) : LlmState :=
  ((OpenAICompatibleClient.completeJson rt c.validate).run (llmServe http) s).2

/-- The state after some calls. -/
def afterCalls (s : LlmState) (calls : List LlmCall) : LlmState :=
  calls.foldl (afterCall rt http) s

/-- The bound that the budget is meant to be: at most `max_calls` requests, and none at `max_tokens`
or more. -/
structure Bounded (maxCalls maxTokens : ℤ) (s : LlmState) : Prop where
  requests : s.sent.length ≤ maxCalls.toNat
  tokens : ∀ budget ∈ s.sent, ∀ b ∈ budget, b.tokensUsed < maxTokens

/-! ## What the outside answers -/

/-- A response that refuses the format of its request. -/
def HttpOutcome.refused : HttpOutcome → Bool
  | transportError => false
  | response r => r.refusesFormat

/-- The tokens in an answer, none if it cannot be read. -/
def HttpOutcome.tokens (outcome : HttpOutcome) : ℤ :=
  match outcome.read rt with
  | .ok (_, tokens) => tokens
  | .error _ => 0

/-- The outcome that the `n`-th call starts with, if every call takes one outcome, and a second one
where it is refused its format. -/
def firstOutcome : ℕ → ℕ
  | 0 => 0
  | n + 1 => firstOutcome n + if (http (firstOutcome n)).refused then 2 else 1

/-- How many of the first `n` calls are refused their format. -/
def refusals (n : ℕ) : ℕ := (List.range n).countP fun i ↦ (http (firstOutcome http i)).refused

/-- The tokens in the answers to the first `n` calls. -/
def usage (n : ℕ) : ℤ :=
  ((List.range n).map fun i ↦ (lastOutcome http (firstOutcome http i)).tokens rt).sum

/-- The agents make few enough calls, and the answers to the earlier calls leave tokens for every
one. -/
structure Frugal (maxCalls maxTokens : ℤ) (n : ℕ) : Prop where
  requests : n + refusals http n ≤ maxCalls.toNat
  tokens : ∀ i < n, usage rt http i < maxTokens

theorem firstOutcome_eq (n : ℕ) : firstOutcome http n = n + refusals http n := by
  induction n with
  | zero => rfl
  | succ n ih =>
    rw [firstOutcome, refusals, List.range_succ, List.countP_append, ← refusals,
      List.countP_singleton]
    split_ifs <;> omega

theorem usage_succ (n : ℕ) :
    usage rt http (n + 1) =
      usage rt http n + (lastOutcome http (firstOutcome http n)).tokens rt := by
  rw [usage, List.range_succ, List.map_append, List.sum_append, ← usage, List.map_singleton,
    List.sum_singleton]

/-! ## What has been sent -/

/-- A route has sent the requests of its first `n` calls and recorded their tokens. Each request was
sent at the usage before its call. -/
structure Sent (n : ℕ) (s : LlmState) : Prop where
  budget : ∃ b, s.budget = some b ∧ b.tokensUsed = usage rt http n
  length : s.sent.length = firstOutcome http n
  mem : ∀ budget ∈ s.sent, ∃ i < n, ∃ b, budget = some b ∧ b.tokensUsed = usage rt http i
  covers : ∀ i < n, ∃ b, some b ∈ s.sent ∧ b.tokensUsed = usage rt http i

variable {rt http} {s : LlmState} {c : LlmCall} {maxCalls maxTokens : ℤ} {n : ℕ}

/-- One call sends one request or two, and records what it is answered. -/
theorem afterCall_eq {b : LLMBudget} (hb : s.budget = some b) :
    ∃ b', b'.tokensUsed = b.tokensUsed + (lastOutcome http s.sent.length).tokens rt ∧
      afterCall rt http s c =
        { budget := some b'
          sent := s.sent ++ List.replicate (requestCount (http s.sent.length)) (some b) } := by
  have hrequested (k : ℕ) :
      s.requested k = { budget := some b, sent := s.sent ++ List.replicate k (some b) } := by
    rw [LlmState.requested, hb]
  rw [afterCall, completeJson_run, HttpOutcome.tokens]
  rcases hread : (lastOutcome http s.sent.length).read rt with f | ⟨rawText, tokens⟩
  · exact ⟨b, (add_zero _).symm, hrequested _⟩
  · refine ⟨(b.recordCall tokens).2, by rw [LLMBudget.recordCall_snd], ?_⟩
    dsimp only
    rw [hrequested, LlmState.recordCall]

theorem requestCount_eq (outcome : HttpOutcome) :
    requestCount outcome = if outcome.refused then 2 else 1 := by
  cases outcome <;> rfl

theorem sent_start : Sent rt http 0 (LlmState.start maxCalls maxTokens) where
  budget := ⟨_, rfl, rfl⟩
  length := rfl
  mem budget hbudget := by cases hbudget
  covers i hi := absurd hi (Nat.not_lt_zero i)

/-- One more call. -/
theorem Sent.afterCall (h : Sent rt http n s) : Sent rt http (n + 1) (afterCall rt http s c) := by
  obtain ⟨b, hb, hused⟩ := h.budget
  obtain ⟨b', htokens, hafter⟩ := @afterCall_eq rt http s c b hb
  rw [h.length] at htokens hafter
  have hcount : requestCount (http (firstOutcome http n)) ≠ 0 := by
    rw [requestCount_eq]
    split_ifs <;> decide
  rw [hafter]
  constructor
  · exact ⟨b', rfl, by rw [htokens, hused, usage_succ]⟩
  · rw [List.length_append, List.length_replicate, h.length, requestCount_eq, firstOutcome]
  · intro budget hbudget
    rcases List.mem_append.mp hbudget with hbudget | hbudget
    · obtain ⟨i, hi, hmem⟩ := h.mem budget hbudget
      exact ⟨i, Nat.lt_succ_of_lt hi, hmem⟩
    · exact ⟨n, Nat.lt_succ_self n, b, List.eq_of_mem_replicate hbudget, hused⟩
  · intro i hi
    rcases Nat.lt_succ_iff_lt_or_eq.mp hi with hi | rfl
    · obtain ⟨b, hmem, hi⟩ := h.covers i hi
      exact ⟨b, List.mem_append_left _ hmem, hi⟩
    · exact ⟨b, List.mem_append_right _ (List.mem_replicate.mpr ⟨hcount, rfl⟩), hused⟩

/-- After some calls. -/
theorem sent_afterCalls (calls : List LlmCall) :
    Sent rt http calls.length (afterCalls rt http (.start maxCalls maxTokens) calls) := by
  induction calls using List.reverseRecOn with
  | nil => exact sent_start
  | append_singleton calls c ih =>
    rw [afterCalls, List.foldl_append, List.length_append]
    exact ih.afterCall

theorem Sent.bounded_iff (h : Sent rt http n s) :
    Bounded maxCalls maxTokens s ↔ Frugal rt http maxCalls maxTokens n := by
  constructor
  · intro hbounded
    refine ⟨by rw [← firstOutcome_eq, ← h.length]; exact hbounded.requests, fun i hi ↦ ?_⟩
    obtain ⟨b, hmem, hused⟩ := h.covers i hi
    rw [← hused]
    exact hbounded.tokens _ hmem b rfl
  · intro hfrugal
    refine ⟨by rw [h.length, firstOutcome_eq]; exact hfrugal.requests, fun budget hbudget b hb ↦ ?_⟩
    obtain ⟨i, hi, b', rfl, hused⟩ := h.mem budget hbudget
    cases hb
    rw [hused]
    exact hfrugal.tokens i hi

theorem Frugal.mono {m : ℕ} (hmn : m ≤ n) (h : Frugal rt http maxCalls maxTokens n) :
    Frugal rt http maxCalls maxTokens m := by
  refine ⟨?_, fun i hi ↦ h.tokens i (hi.trans_le hmn)⟩
  have hrefusals : refusals http m ≤ refusals http n :=
    (List.range_sublist.mpr hmn).countP_le
  have := h.requests
  omega

end

/-- **The budget as a bound.** The bound holds in every state of a run if and only if there are few
enough calls and refusals, and the answers to the calls before leave tokens for every call. -/
theorem requests_bounded (rt : CompletionRuntime) (http : ℕ → HttpOutcome)
    (maxCalls maxTokens : ℤ) (calls : List LlmCall) :
    (∀ earlier later, calls = earlier ++ later →
      Bounded maxCalls maxTokens (afterCalls rt http (.start maxCalls maxTokens) earlier)) ↔
      Frugal rt http maxCalls maxTokens calls.length := by
  constructor
  · exact fun h ↦ (sent_afterCalls calls).bounded_iff.mp (h calls [] (List.append_nil calls).symm)
  · rintro h earlier later rfl
    refine (sent_afterCalls earlier).bounded_iff.mpr (h.mono ?_)
    rw [List.length_append]
    exact Nat.le_add_right _ _

/-! ## Three calls -/

/-- A call for which every answer would do. -/
def anyCall : LlmCall where
  validate := some

/-- An answer without choices, which is read as an empty text, and uses some tokens. -/
def emptyAnswer (tokens : ℚ) : HttpOutcome :=
  .response
    { statusCode := 200
      content := "\x7b\x7d"
      json := .ok (.dict [("usage", .dict [("total_tokens", .num tokens)])]) }

/-- A first call that is refused its format and sent again, a second one that does not get through,
and a third one. -/
def refusedOnce : ℕ → HttpOutcome
  | 0 => .response { statusCode := 400, content := "response_format", json := .ok .null }
  | 1 => emptyAnswer 30
  | 2 => .transportError
  | _ => emptyAnswer 40

/-- Three calls and four requests, within a budget of four. -/
theorem requests_bounded_refused :
    ∀ earlier later, [anyCall, anyCall, anyCall] = earlier ++ later →
      Bounded 4 50 (afterCalls .demo refusedOnce (.start 4 50) earlier) :=
  (requests_bounded .demo refusedOnce 4 50 [anyCall, anyCall, anyCall]).mpr
    ⟨by decide +kernel, by decide +kernel⟩

/-- Two requests that do not get through, where the budget has one call. -/
theorem failed_requests_not_counted :
    ¬ ∀ (rt : CompletionRuntime) (http : ℕ → HttpOutcome) (maxCalls maxTokens : ℤ)
      (calls : List LlmCall),
      Bounded maxCalls maxTokens (afterCalls rt http (.start maxCalls maxTokens) calls) := by
  intro h
  have hbounded := h .demo (fun _ ↦ .transportError) 1 100 [anyCall, anyCall]
  exact absurd hbounded.requests (by decide)

end IncidentPlatform
