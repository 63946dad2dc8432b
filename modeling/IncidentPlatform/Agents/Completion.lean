import IncidentPlatform.Domain.Access
import IncidentPlatform.Domain.Models
import IncidentPlatform.Interaction.Translate

/-!
# The client of the language model

`src/agent_runtime/llm.py` and `src/agent_runtime/budgets.py`. `complete_json` posts a prompt, picks
the text and the token count out of the body of the response, counts the call in the budget of the
route, and decodes and validates the text. A response with status 400 that mentions
`response_format` makes it post again, without the format.

The prompt, the headers and the rest of the payload do not decide anything and are left out. The
library functions on the way are parameters: `json.loads`, `int` and `str`, and the validation
against the schema of the agent. What is raised is told apart as far as the `except` clauses of the
agents do, so everything that they do not name is `Fault.other`.
-/

namespace IncidentPlatform

open Interaction

/-! ## The budget -/

/-- `LLMBudget`. -/
structure LLMBudget where
  maxCalls : ℤ
  maxTokens : ℤ
  calls : ℤ := 0
  tokensUsed : ℤ := 0
  deriving DecidableEq, Repr

/-- `record_call`. The call is counted before the limits are looked at. -/
def LLMBudget.recordCall (b : LLMBudget) (tokens : ℤ) : Except Fault Unit × LLMBudget :=
  let b := { b with calls := b.calls + 1, tokensUsed := b.tokensUsed + tokens }
  if b.maxCalls < b.calls then (.error .other, b)
  else if b.maxTokens < b.tokensUsed then (.error .other, b)
  else (.ok (), b)

/-- The call can be counted within the limits. -/
def LLMBudget.Allows (b : LLMBudget) (tokens : ℤ) : Prop :=
  b.calls + 1 ≤ b.maxCalls ∧ b.tokensUsed + tokens ≤ b.maxTokens

/-- Neither limit is reached. -/
def LLMBudget.Open (b : LLMBudget) : Prop := b.calls < b.maxCalls ∧ b.tokensUsed < b.maxTokens

theorem LLMBudget.recordCall_of_allows {b : LLMBudget} {tokens : ℤ} (h : b.Allows tokens) :
    (b.recordCall tokens).1 = .ok () := by
  rw [LLMBudget.recordCall]
  dsimp only
  rw [if_neg (not_lt.mpr h.1), if_neg (not_lt.mpr h.2)]

theorem LLMBudget.recordCall_of_not_allows {b : LLMBudget} {tokens : ℤ} (h : ¬ b.Allows tokens) :
    (b.recordCall tokens).1 = .error .other := by
  rw [LLMBudget.recordCall]
  dsimp only
  split_ifs with hcalls htokens
  · rfl
  · rfl
  · exact absurd ⟨not_lt.mp hcalls, not_lt.mp htokens⟩ h

@[simp] theorem LLMBudget.recordCall_snd (b : LLMBudget) (tokens : ℤ) :
    (b.recordCall tokens).2 =
      { b with calls := b.calls + 1, tokensUsed := b.tokensUsed + tokens } := by
  rw [LLMBudget.recordCall]
  split_ifs <;> rfl

/-! ## Requests and responses -/

/-- The library functions that `complete_json` relies on. -/
structure CompletionRuntime where
  text : Text
  /-- `int(s)`, `none` for the `ValueError`. -/
  int : String → Option ℤ
  /-- The text of the exception that `int(v)` raises. -/
  intError : Value → String
  /-- `json.loads(s)`. -/
  loads : String → Except PyException Value

/-- A runtime that decodes nothing. -/
def CompletionRuntime.demo : CompletionRuntime where
  text := .ascii
  int _ := none
  intError _ := ""
  loads _ := .error { className := "JSONDecodeError", text := "Expecting value" }

/-- What `_post` looks at of an `httpx.Response`. -/
structure HttpResponse where
  statusCode : ℕ
  /-- `str(response.content)`. -/
  content : String
  /-- `response.json()`. -/
  json : Except PyException Value

/-- `is_success`, without which `raise_for_status` raises. -/
def HttpResponse.isSuccess (r : HttpResponse) : Bool :=
  decide (200 ≤ r.statusCode) && decide (r.statusCode ≤ 299)

/-- The response refuses the format of the request. -/
def HttpResponse.refusesFormat (r : HttpResponse) : Bool :=
  r.statusCode == 400 && isIn "response_format" r.content

inductive LlmOp where
  /-- A request, with or without `response_format`. -/
  | post (responseFormat : Bool)
  /-- `budget.record_call(usage_tokens)`, nothing where there is no budget. -/
  | recordCall (tokens : ℤ)

abbrev LlmAns : LlmOp → Type
  | .post _ => Except Fault HttpResponse
  | .recordCall _ => Except Fault Unit

/-! ## `complete_json` -/

namespace OpenAICompatibleClient

variable (rt : CompletionRuntime)

/-- The content of the first choice of a body. -/
def contentOf (body : Value) : Except PyException Value := do
  let choices ← body.getOr "choices" (.list [.dict []])
  let choice0 ← choices.first
  let message ← choice0.getOr "message" (.dict [])
  message.getOr "content" (.str "")

/-- The number of tokens in `usage`, as it is given. -/
def tokensOf (usage : Value) : Except PyException Value := do
  let totalTokens ← usage.getOr "total_tokens" .null
  if totalTokens.truthy then pure totalTokens else do
    let completionTokens ← usage.getOr "completion_tokens" .null
    pure (if completionTokens.truthy then completionTokens else .num 0)

/-- The number of tokens in a body, as it is given. -/
def usageOf (body : Value) : Except PyException Value := do
  let usage ← body.getOr "usage" .null
  tokensOf (if usage.truthy then usage else .dict [])

/-- What `_post` picks out of a body. -/
def extract (body : Value) : Except PyException (String × ℤ) := do
  let content ← contentOf body
  let usage ← usageOf body
  let totalTokens ← usage.toInt rt.int rt.intError
  pure (content.toStr rt.text, totalTokens)

/-- An exception that no agent names. -/
def unnamed {α : Type} (x : Except PyException α) : Except Fault α := x.mapError fun _ ↦ .other

/-- The end of `_post`, from `raise_for_status` on. -/
def readResponse (r : HttpResponse) : Except Fault (String × ℤ) :=
  if r.isSuccess then do
    let body ← unnamed r.json
    unnamed (extract rt body)
  else .error .httpError

/-- `_post`. -/
def post : Prog LlmOp LlmAns Fault (String × ℤ) := do
  let first ← Prog.ofExcept (← Prog.op (.post true))
  if first.refusesFormat then do
    let second ← Prog.ofExcept (← Prog.op (.post false))
    Prog.ofExcept (readResponse rt second)
  else Prog.ofExcept (readResponse rt first)

/-- The end of `complete_json`, where `validate` is `response_model.model_validate`. -/
def decode {α : Type} (validate : Value → Option α) (rawText : String) : Except Fault α :=
  match rt.loads rawText with
  | .ok data =>
    match validate data with
    | some out => .ok out
    | none => .error .structuredLLMError
  | .error e => .error (if e.className = "JSONDecodeError" then .structuredLLMError else .other)

/-- `complete_json`. -/
def completeJson {α : Type} (validate : Value → Option α) : Prog LlmOp LlmAns Fault α := do
  let (rawText, usageTokens) ← post rt
  Prog.ofExcept (← Prog.op (.recordCall usageTokens))
  Prog.ofExcept (decode rt validate rawText)

end OpenAICompatibleClient

/-! ## The outside of a route -/

/-- How a request ends. -/
inductive HttpOutcome where
  /-- An `httpx.RequestError`. -/
  | transportError
  | response (r : HttpResponse)

def HttpOutcome.received : HttpOutcome → Except Fault HttpResponse
  | transportError => .error .httpError
  | response r => .ok r

/-- The budget of the route, `none` outside of one, and what it was at each request, oldest
first. -/
structure LlmState where
  budget : Option LLMBudget
  sent : List (Option LLMBudget) := []

namespace LlmState

/-- The state in which a route starts. -/
def start (maxCalls maxTokens : ℤ) : LlmState := { budget := some { maxCalls, maxTokens } }

/-- `if budget is not None: budget.record_call(tokens)`. -/
def recordCall (s : LlmState) (tokens : ℤ) : Except Fault Unit × LlmState :=
  match s.budget with
  | some b => ((b.recordCall tokens).1, { s with budget := some (b.recordCall tokens).2 })
  | none => (.ok (), s)

/-- The state after `n` requests. -/
def requested (s : LlmState) (n : ℕ) : LlmState :=
  { s with sent := s.sent ++ List.replicate n s.budget }

@[simp] theorem requested_budget (s : LlmState) (n : ℕ) : (s.requested n).budget = s.budget := rfl

end LlmState

/-- The requests end as `http` says. -/
def llmServe (http : ℕ → HttpOutcome) (s : LlmState) : (o : LlmOp) → LlmAns o × LlmState
  | .post _ => ((http s.sent.length).received, s.requested 1)
  | .recordCall tokens => s.recordCall tokens

/-- The outcome that `_post` goes on with, when its first request is the `n`-th. -/
def lastOutcome (http : ℕ → HttpOutcome) (n : ℕ) : HttpOutcome :=
  match http n with
  | .response r => if r.refusesFormat then http (n + 1) else .response r
  | .transportError => .transportError

/-- The number of requests that `_post` makes. -/
def requestCount : HttpOutcome → ℕ
  | .response r => if r.refusesFormat then 2 else 1
  | .transportError => 1

/-- What `_post` makes of its last request. -/
def HttpOutcome.read (rt : CompletionRuntime) : HttpOutcome → Except Fault (String × ℤ)
  | transportError => .error .httpError
  | response r => OpenAICompatibleClient.readResponse rt r

theorem run_op_bind {α : Type} {http : ℕ → HttpOutcome} (o : LlmOp)
    (f : LlmAns o → Prog LlmOp LlmAns Fault α) (s : LlmState) :
    ((Prog.op o).bind f).run (llmServe http) s =
      (f (llmServe http s o).1).run (llmServe http) (llmServe http s o).2 := rfl

section

variable (rt : CompletionRuntime) (http : ℕ → HttpOutcome) (s : LlmState)

theorem post_run : (OpenAICompatibleClient.post rt).run (llmServe http) s =
    ((lastOutcome http s.sent.length).read rt,
      s.requested (requestCount (http s.sent.length))) := by
  have hserve (b : Bool) (s : LlmState) :
      llmServe http s (.post b) = ((http s.sent.length).received, s.requested 1) := rfl
  rw [OpenAICompatibleClient.post, Prog.bind_eq, run_op_bind, hserve, lastOutcome]
  rcases http s.sent.length with _ | first
  · rfl
  · rw [HttpOutcome.received, Prog.ofExcept_ok]
    change (if first.refusesFormat then _ else _ : Prog _ _ _ _).run _ _ = _
    dsimp only
    rw [requestCount]
    by_cases hrefused : first.refusesFormat = true
    · rw [if_pos hrefused, if_pos hrefused, if_pos hrefused, Prog.bind_eq, run_op_bind, hserve]
      have hlength : (s.requested 1).sent.length = s.sent.length + 1 := by
        simp [LlmState.requested]
      have hsent : (s.requested 1).requested 1 = s.requested 2 := by
        simp [LlmState.requested, List.replicate]
      rw [hlength, hsent]
      rcases http (s.sent.length + 1) with _ | second
      · rfl
      · exact Prog.run_ofExcept _ _ _
    · rw [if_neg hrefused, if_neg hrefused, if_neg hrefused]
      exact Prog.run_ofExcept _ _ _

/-- **One call** of `complete_json`. -/
theorem completeJson_run {α : Type} (validate : Value → Option α) :
    (OpenAICompatibleClient.completeJson rt validate).run (llmServe http) s =
      match (lastOutcome http s.sent.length).read rt with
      | .ok (rawText, tokens) =>
        let counted := (s.requested (requestCount (http s.sent.length))).recordCall tokens
        (counted.1.bind fun _ ↦ OpenAICompatibleClient.decode rt validate rawText, counted.2)
      | .error f => (.error f, s.requested (requestCount (http s.sent.length))) := by
  have hpost := post_run rt http s
  rw [OpenAICompatibleClient.completeJson, Prog.bind_eq]
  rcases hread : (lastOutcome http s.sent.length).read rt with f | ⟨rawText, tokens⟩
  · rw [hread] at hpost
    exact Prog.run_bind_error hpost _
  · rw [hread] at hpost
    rw [Prog.run_bind_ok hpost]
    dsimp only
    rw [Prog.bind_eq, run_op_bind]
    change (Prog.ofExcept (LlmState.recordCall _ tokens).1 >>= fun _ ↦ _ : Prog _ _ _ _).run _
      (LlmState.recordCall _ tokens).2 = _
    rcases (LlmState.recordCall (s.requested (requestCount (http s.sent.length))) tokens) with
      ⟨f | ⟨⟩, s'⟩
    · rfl
    · exact Prog.run_ofExcept _ _ _

end

end IncidentPlatform
