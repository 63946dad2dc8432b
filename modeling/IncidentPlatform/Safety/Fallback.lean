import IncidentPlatform.Agents.Completion
import IncidentPlatform.Interaction.Given
import IncidentPlatform.Workflow.Stub

/-!
# When the stubs stand in for the language model

With `AGENTIC_STUB_FALLBACK` on, an agent answers with its stub when the language model fails. What
counts as a failure is a list of exceptions: a request that does not get through, an error status,
and a text that is no JSON or does not fit the schema. The client picks the text out of the body of
the response before any of this is checked, by indexing and `get`, and what a body of another shape
raises there is not on the list, nor is the `RuntimeError` of a budget that the call exceeds.

`contentOf_eq_ok_iff` and `usageOf_eq_ok_iff` say which bodies have the shape that the client relies
on, and `stub_fallback_iff` that with these, and only with these, all agents return.
-/

namespace IncidentPlatform

open Interaction

/-! ## Bodies -/

/-- The first choice of a body, an empty one where there are no choices. -/
def choiceOf (body : Dict) : Option Dict :=
  match Dict.get? body "choices" with
  | none => some []
  | some (.list (.dict choice :: _)) => some choice
  | some _ => none

/-- The message of a choice, an empty one where there is none. -/
def messageOf (choice : Dict) : Option Dict :=
  match Dict.get? choice "message" with
  | none => some []
  | some (.dict message) => some message
  | some _ => none

/-- The content of the message of the first choice. -/
def messageContent (body : Dict) : Option Value :=
  ((choiceOf body).bind messageOf).map fun message ↦ (Dict.get? message "content").getD (.str "")

/-- `v or w or 0`, where a missing value is `None`. -/
def firstTruthy (v w : Option Value) : Value :=
  if (v.getD .null).truthy then v.getD .null
  else if (w.getD .null).truthy then w.getD .null else .num 0

/-- The number of tokens of a dictionary with the usage. -/
def usageCount : Value → Option Value
  | .dict usage =>
    some (firstTruthy (Dict.get? usage "total_tokens") (Dict.get? usage "completion_tokens"))
  | _ => none

/-- The number of tokens, as the body gives it. -/
def tokenCount (body : Dict) : Option Value :=
  let usage := (Dict.get? body "usage").getD .null
  if usage.truthy then usageCount usage else some (.num 0)

theorem choiceOf_eq_some_iff {body choice : Dict} :
    (∃ vs, (Dict.get? body "choices").getD (.list [.dict []]) = .list (.dict choice :: vs)) ↔
      choiceOf body = some choice := by
  rw [choiceOf]
  constructor
  · rintro ⟨vs, h⟩
    split
    · rename_i hnone
      rw [hnone] at h
      cases h
      rfl
    · rename_i choice' vs' hsome
      rw [hsome] at h
      cases h
      rfl
    · rename_i v hother hsome
      rw [hsome] at h
      exact absurd h (hother choice vs)
  · intro h
    split at h
    · rename_i hnone
      cases h
      exact ⟨[], by rw [hnone]; rfl⟩
    · rename_i choice' vs' hsome
      cases h
      exact ⟨vs', by rw [hsome]; rfl⟩
    · cases h

theorem messageOf_eq_some_iff {choice message : Dict} :
    (Dict.get? choice "message").getD (.dict []) = .dict message ↔
      messageOf choice = some message := by
  rw [messageOf]
  constructor
  · intro h
    split
    · rename_i hnone
      rw [hnone] at h
      cases h
      rfl
    · rename_i message' hsome
      rw [hsome] at h
      cases h
      rfl
    · rename_i v hother hsome
      rw [hsome] at h
      exact absurd h (hother message)
  · intro h
    split at h
    · rename_i hnone
      cases h
      rw [hnone]
      rfl
    · rename_i message' hsome
      cases h
      rw [hsome]
      rfl
    · cases h

/-- **The text** of a body. -/
theorem contentOf_eq_ok_iff {body content : Value} :
    OpenAICompatibleClient.contentOf body = .ok content ↔
      ∃ kvs, body = .dict kvs ∧ messageContent kvs = some content := by
  simp only [OpenAICompatibleClient.contentOf, bind_eq_ok_iff, Value.getOr_eq_ok_iff,
    messageContent, Option.map_eq_some_iff, Option.bind_eq_some_iff, ← choiceOf_eq_some_iff,
    ← messageOf_eq_some_iff]
  constructor
  · rintro ⟨_, ⟨kvs, rfl, rfl⟩, _, hchoices, _, ⟨choice, rfl, rfl⟩, message, hmessage, hcontent⟩
    exact ⟨kvs, rfl, message, ⟨choice, Value.first_eq_dict_iff.mp hchoices, hmessage⟩, hcontent⟩
  · rintro ⟨kvs, rfl, message, ⟨choice, hchoices, hmessage⟩, hcontent⟩
    exact ⟨_, ⟨kvs, rfl, rfl⟩, _, Value.first_eq_dict_iff.mpr hchoices, _, ⟨choice, rfl, rfl⟩,
      message, hmessage, hcontent⟩

theorem tokensOf_dict (usage : Dict) : OpenAICompatibleClient.tokensOf (.dict usage) =
    .ok (firstTruthy (Dict.get? usage "total_tokens") (Dict.get? usage "completion_tokens")) := by
  rw [OpenAICompatibleClient.tokensOf, Value.getOr_dict, Value.getOr_dict, firstTruthy]
  dsimp only [bind, Except.bind]
  split_ifs <;> rfl

theorem tokensOf_eq_ok_iff {usage count : Value} :
    OpenAICompatibleClient.tokensOf usage = .ok count ↔ usageCount usage = some count := by
  cases usage with
  | dict kvs =>
    rw [tokensOf_dict, usageCount, Except.ok.injEq, Option.some.injEq]
  | _ => exact iff_of_false (fun h ↦ by cases h) fun h ↦ by cases h

/-- **The number of tokens** of a body. -/
theorem usageOf_eq_ok_iff {body : Dict} {count : Value} :
    OpenAICompatibleClient.usageOf (.dict body) = .ok count ↔ tokenCount body = some count := by
  rw [OpenAICompatibleClient.usageOf, Value.getOr_dict, tokenCount]
  dsimp only [bind, Except.bind]
  rw [tokensOf_eq_ok_iff]
  by_cases htruthy : ((Dict.get? body "usage").getD .null).truthy = true
  · rw [if_pos htruthy, if_pos htruthy]
  · rw [if_neg htruthy, if_neg htruthy]
    rfl

/-! ## Completions -/

/-- The client reads the response to its end, and counts it within the budget. -/
def Readable (rt : CompletionRuntime) (budget : Option LLMBudget) (r : HttpResponse) : Prop :=
  ∃ body content count tokens, r.json = .ok (.dict body) ∧ messageContent body = some content ∧
    tokenCount body = some count ∧ count.toInt rt.int rt.intError = .ok tokens ∧
    (∀ b ∈ budget, b.Allows tokens) ∧
    ∀ e, rt.loads (content.toStr rt.text) = .error e → e.className = "JSONDecodeError"

/-- Nothing that a request ends with is beyond the stubs but a success that cannot be read. -/
def Harmless (rt : CompletionRuntime) (budget : Option LLMBudget) : HttpOutcome → Prop
  | .transportError => True
  | .response r => r.isSuccess = true → Readable rt budget r

/-- What the agents do not let through. -/
def Caught {α : Type} (answer : Except Fault α) : Prop :=
  ∀ f, answer = .error f → f.isAgentFallback = true

section

variable {rt : CompletionRuntime} {http : ℕ → HttpOutcome} {s : LlmState}

theorem extract_eq_ok_iff {body : Value} {text : String} {tokens : ℤ} :
    OpenAICompatibleClient.extract rt body = .ok (text, tokens) ↔
      ∃ kvs content count, body = .dict kvs ∧ messageContent kvs = some content ∧
        tokenCount kvs = some count ∧ count.toInt rt.int rt.intError = .ok tokens ∧
        content.toStr rt.text = text := by
  simp only [OpenAICompatibleClient.extract, bind_eq_ok_iff, contentOf_eq_ok_iff]
  constructor
  · rintro ⟨content, ⟨kvs, rfl, hcontent⟩, count, hcount, n, hn, h⟩
    cases h
    exact ⟨kvs, content, count, rfl, hcontent, usageOf_eq_ok_iff.mp hcount, hn, rfl⟩
  · rintro ⟨kvs, content, count, rfl, hcontent, hcount, hn, rfl⟩
    exact ⟨content, ⟨kvs, rfl, hcontent⟩, count, usageOf_eq_ok_iff.mpr hcount, tokens, hn, rfl⟩

theorem caught_ok {α : Type} (a : α) : Caught (.ok a : Except Fault α) := by
  rintro f hf
  cases hf

theorem caught_error_iff {α : Type} (f : Fault) :
    Caught (.error f : Except Fault α) ↔ f.isAgentFallback = true :=
  ⟨fun h ↦ h f rfl, fun h f' hf ↦ by cases hf; exact h⟩

/-- The budget of the route refuses a call that it does not allow. -/
theorem recordCall_caught_iff (tokens : ℤ) :
    Caught (s.recordCall tokens).1 ↔ ∀ b ∈ s.budget, b.Allows tokens := by
  rw [LlmState.recordCall]
  rcases s.budget with _ | b
  · exact iff_of_true (caught_ok ()) fun b hb ↦ by cases hb
  · by_cases hallows : b.Allows tokens
    · rw [LLMBudget.recordCall_of_allows hallows]
      refine iff_of_true (caught_ok ()) fun b' hb ↦ ?_
      cases hb
      exact hallows
    · rw [LLMBudget.recordCall_of_not_allows hallows, caught_error_iff]
      exact iff_of_false (by decide) fun h ↦ hallows (h b rfl)

theorem decode_caught_iff {α : Type} (validate : Value → Option α) (rawText : String) :
    Caught (OpenAICompatibleClient.decode rt validate rawText) ↔
      ∀ e, rt.loads rawText = .error e → e.className = "JSONDecodeError" := by
  rw [OpenAICompatibleClient.decode]
  rcases rt.loads rawText with e | data
  · rw [caught_error_iff]
    split_ifs with hclass
    · exact iff_of_true rfl fun e' he ↦ by cases he; exact hclass
    · exact iff_of_false (by decide) fun h ↦ hclass (h e rfl)
  · refine iff_of_true ?_ fun e he ↦ by cases he
    dsimp only
    rcases validate data with _ | out
    · exact (caught_error_iff .structuredLLMError).mpr rfl
    · exact caught_ok out

/-- Two steps of which the first returns nothing. -/
theorem caught_bind_iff {α : Type} {x : Except Fault Unit} {y : Except Fault α}
    (hx : ∀ f, x = .error f → f.isAgentFallback = false) :
    Caught (x.bind fun _ ↦ y) ↔ Caught x ∧ Caught y := by
  rcases x with f | ⟨⟩
  · have hf := hx f rfl
    refine iff_of_false (fun h ↦ ?_) fun h ↦ ?_
    · exact Bool.false_ne_true (hf.symm.trans ((caught_error_iff f).mp h))
    · exact Bool.false_ne_true (hf.symm.trans ((caught_error_iff f).mp h.1))
  · exact (and_iff_right (caught_ok ())).symm

/-- What the budget raises is not on the list. -/
theorem recordCall_error {tokens : ℤ} {f : Fault} (h : (s.recordCall tokens).1 = .error f) :
    f.isAgentFallback = false := by
  rw [LlmState.recordCall] at h
  rcases hbudget : s.budget with _ | b
  · rw [hbudget] at h
    cases h
  · rw [hbudget] at h
    dsimp only at h
    by_cases hallows : b.Allows tokens
    · rw [LLMBudget.recordCall_of_allows hallows] at h
      cases h
    · rw [LLMBudget.recordCall_of_not_allows hallows] at h
      cases h
      rfl

/-- A response is read, or what is raised is not on the list. -/
theorem readResponse_cases (rt : CompletionRuntime) {r : HttpResponse}
    (hsuccess : r.isSuccess = true) :
    (∃ text tokens, OpenAICompatibleClient.readResponse rt r = .ok (text, tokens) ∧
      ∃ body, r.json = .ok body ∧
        OpenAICompatibleClient.extract rt body = .ok (text, tokens)) ∨
    OpenAICompatibleClient.readResponse rt r = .error .other ∧
      ¬ ∃ body text tokens, r.json = .ok body ∧
        OpenAICompatibleClient.extract rt body = .ok (text, tokens) := by
  rw [OpenAICompatibleClient.readResponse, if_pos hsuccess]
  rcases hjson : r.json with e | body
  · refine Or.inr ⟨rfl, ?_⟩
    rintro ⟨body, text, tokens, hbody, -⟩
    cases hbody
  · rcases hextract : OpenAICompatibleClient.extract rt body with e | ⟨text, tokens⟩
    · refine Or.inr ⟨?_, ?_⟩
      · change OpenAICompatibleClient.unnamed (OpenAICompatibleClient.extract rt body) = _
        rw [hextract]
        rfl
      · rintro ⟨body', text, tokens, hbody, hok⟩
        cases hbody
        cases hextract.symm.trans hok
    · refine Or.inl ⟨text, tokens, ?_, body, rfl, hextract⟩
      change OpenAICompatibleClient.unnamed (OpenAICompatibleClient.extract rt body) = _
      rw [hextract]
      rfl

/-- **One call.** The agents stand in for the call unless a success cannot be read. -/
theorem completeJson_caught_iff {α : Type} (validate : Value → Option α) :
    Caught ((OpenAICompatibleClient.completeJson rt validate).run (llmServe http) s).1 ↔
      Harmless rt s.budget (lastOutcome http s.sent.length) := by
  rw [completeJson_run]
  rcases lastOutcome http s.sent.length with _ | r
  · exact iff_of_true ((caught_error_iff _).mpr rfl) trivial
  · rw [HttpOutcome.read, Harmless]
    by_cases hsuccess : r.isSuccess = true
    · rw [imp_iff_right hsuccess]
      rcases readResponse_cases rt hsuccess with
        ⟨text, tokens, hread, body, hbody, hextract⟩ | ⟨hread, hnot⟩
      · rw [hread]
        dsimp only
        rw [caught_bind_iff fun f hf ↦ recordCall_error hf, recordCall_caught_iff,
          decode_caught_iff]
        obtain ⟨kvs, content, count, rfl, hcontent, hcount, htokens, rfl⟩ :=
          extract_eq_ok_iff.mp hextract
        constructor
        · rintro ⟨hallows, hloads⟩
          exact ⟨kvs, content, count, tokens, hbody, hcontent, hcount, htokens, hallows, hloads⟩
        · rintro ⟨kvs', content', count', tokens', hbody', hcontent', hcount', htokens', hallows,
            hloads⟩
          cases hbody.symm.trans hbody'
          cases hcontent.symm.trans hcontent'
          cases hcount.symm.trans hcount'
          cases htokens.symm.trans htokens'
          exact ⟨hallows, hloads⟩
      · rw [hread]
        refine iff_of_false (fun h ↦ ?_) ?_
        · exact absurd ((caught_error_iff _).mp h) (by decide)
        · rintro ⟨kvs, content, count, tokens, hbody, hcontent, hcount, htokens, -, -⟩
          exact hnot ⟨_, _, tokens, hbody, extract_eq_ok_iff.mpr
            ⟨kvs, content, count, rfl, hcontent, hcount, htokens, rfl⟩⟩
    · rw [OpenAICompatibleClient.readResponse, if_neg hsuccess]
      exact iff_of_true ((caught_error_iff _).mpr rfl) fun h ↦ absurd h hsuccess

end

/-! ## The agents -/

/-- The `model_validate` of the response models. -/
structure Schemas where
  triage : Value → Option TriageLLMOutput
  evidence : Value → Option (List EvidenceLLMItem)
  change : Value → Option ChangeCorrelationLLMOutput
  rca : Value → Option (List RCAHypothesisItem)
  planner : Value → Option PlannerLLMOutput

/-- The tools answer, and a question to the language model is a call of `complete_json` with this
budget and these outcomes. -/
structure Outside {σ : Type} (rt : CompletionRuntime) (schemas : Schemas) (http : ℕ → HttpOutcome)
    (s : LlmState) (serve : σ → (o : Op) → Ans o × σ) : Prop where
  collect : ∀ t tool service resource, ∃ text,
    (serve t (.collect tool service resource)).1 = .ok text
  deployments : ∀ t service, ∃ text, (serve t (.recentDeployments service)).1 = .ok text
  triage : ∀ t incident, (serve t (.triageLLM incident)).1 =
    ((OpenAICompatibleClient.completeJson rt schemas.triage).run (llmServe http) s).1
  evidence : ∀ t incident raw, (serve t (.evidenceLLM incident raw)).1 =
    ((OpenAICompatibleClient.completeJson rt schemas.evidence).run (llmServe http) s).1
  change : ∀ t incident raw, (serve t (.changeLLM incident raw)).1 =
    ((OpenAICompatibleClient.completeJson rt schemas.change).run (llmServe http) s).1
  rca : ∀ t incident, (serve t (.rcaLLM incident)).1 =
    ((OpenAICompatibleClient.completeJson rt schemas.rca).run (llmServe http) s).1
  planner : ∀ t incident, (serve t (.plannerLLM incident)).1 =
    ((OpenAICompatibleClient.completeJson rt schemas.planner).run (llmServe http) s).1

/-- All five agents return. -/
structure AgentsReturn {σ : Type} (cfg : Settings) (serve : σ → (o : Op) → Ans o × σ) (t : σ)
    (incident : IncidentRecord) : Prop where
  triage : (IncidentPlatform.triage cfg incident).Returns serve t
  evidence : (gatherEvidence cfg incident).Returns serve t
  change : (correlateChanges cfg incident).Returns serve t
  rca : (analyzeRootCause cfg incident).Returns serve t
  planner : (planRemediation cfg incident).Returns serve t

section

variable {σ : Type} {cfg : Settings} {serve : σ → (o : Op) → Ans o × σ} {t : σ}
  {incident : IncidentRecord}

/-- The stub stands in exactly for what is caught. -/
theorem fallBack_returns_iff {α : Type} (hfallback : cfg.agenticStubFallback = true) {f : Fault}
    {stub : Handler α} (hstub : stub.Total) :
    (fallBack cfg f stub).Returns serve t ↔ f.isAgentFallback = true := by
  rw [fallBack, hfallback, Bool.and_true]
  split_ifs with hf
  · exact iff_of_true hstub.returns hf
  · exact iff_of_false (Prog.not_returns_raise _) hf

theorem pure_total {α : Type} (a : α) : (pure a : Handler α).Total := trivial

theorem orRaise_returns {α : Type} {x : Except Fault α} (h : ∃ a, x = .ok a) :
    (orRaise x).Returns serve t := by
  obtain ⟨a, rfl⟩ := h
  exact ⟨a, t, rfl⟩

theorem perform_returns_iff {α : Type} {o : Op} {f : Ans o → Handler α} :
    (perform o >>= f).Returns serve t ↔ (f (serve t o).1).Returns serve (serve t o).2 := Iff.rfl

theorem triage_returns_iff (hagentic : cfg.agenticEnabled = true)
    (hfallback : cfg.agenticStubFallback = true) :
    (triage cfg incident).Returns serve t ↔ Caught (serve t (.triageLLM incident)).1 := by
  rw [triage, if_pos hagentic, perform_returns_iff]
  rcases (serve t (.triageLLM incident)).1 with f | out
  · rw [caught_error_iff]
    exact fallBack_returns_iff hfallback (pure_total _)
  · exact iff_of_true (pure_total _).returns (caught_ok _)

theorem rca_returns_of_caught (hagentic : cfg.agenticEnabled = true)
    (hfallback : cfg.agenticStubFallback = true) (h : Caught (serve t (.rcaLLM incident)).1) :
    (analyzeRootCause cfg incident).Returns serve t := by
  rw [analyzeRootCause, if_pos hagentic, perform_returns_iff]
  rcases hanswer : (serve t (.rcaLLM incident)).1 with f | _ | ⟨item, items⟩
  · exact (fallBack_returns_iff hfallback (pure_total _)).mpr (h f hanswer)
  · exact (fallBack_returns_iff hfallback (pure_total _)).mpr rfl
  · exact (pure_total _).returns

theorem change_returns_of_caught (hagentic : cfg.agenticEnabled = true)
    (hfallback : cfg.agenticStubFallback = true)
    (hdeployments : ∀ t service, ∃ text, (serve t (.recentDeployments service)).1 = .ok text)
    (h : ∀ t raw, Caught (serve t (.changeLLM incident raw)).1) :
    (correlateChanges cfg incident).Returns serve t := by
  rw [correlateChanges, perform_returns_iff]
  refine (orRaise_returns (hdeployments t _)).bind fun raw t' ↦ ?_
  dsimp only
  rw [if_pos hagentic, perform_returns_iff]
  rcases hanswer : (serve t' (.changeLLM incident raw)).1 with f | out
  · exact (fallBack_returns_iff hfallback (newEvidence_total _ _ _ _)).mpr (h t' raw f hanswer)
  · exact (newEvidence_total _ _ _ _).returns

/-! ### Evidence -/

theorem builtEntries_total (items : List EvidenceLLMItem) : (builtEntries items).Total := by
  induction items with
  | nil => trivial
  | cons item items ih =>
    exact Prog.Total.bind (newEvidence_total _ _ _ _) fun _ ↦ Prog.Total.bind ih fun _ ↦ trivial

theorem evidenceEntries_returns_of_caught (hagentic : cfg.agenticEnabled = true)
    (hfallback : cfg.agenticStubFallback = true) {raw : RawEvidence}
    (h : Caught (serve t (.evidenceLLM incident raw)).1) :
    (evidenceEntries cfg incident raw).Returns serve t := by
  rw [evidenceEntries, if_pos hagentic, perform_returns_iff]
  rcases hanswer : (serve t (.evidenceLLM incident raw)).1 with f | items
  · exact (fallBack_returns_iff hfallback (fromRawDict_total raw)).mpr (h f hanswer)
  · refine ((builtEntries_total items).returns).bind fun built t' ↦ ?_
    split_ifs
    · exact (fallBack_returns_iff hfallback (fromRawDict_total raw)).mpr rfl
    · exact (pure_total _).returns

/-- The collectors answer, so every tool does. -/
theorem toolOp_returns (hcollect : ∀ t tool service resource, ∃ text,
      (serve t (.collect tool service resource)).1 = .ok text)
    (hdeployments : ∀ t service, ∃ text, (serve t (.recentDeployments service)).1 = .ok text)
    (tool : ActionType) (service resource : String) :
    (toolOp tool service resource).Returns serve t := by
  unfold toolOp
  split
  · exact perform_returns_iff.mpr (orRaise_returns (hdeployments t service))
  · exact perform_returns_iff.mpr (orRaise_returns (hcollect t _ service resource))

theorem collectRaw_returns (hcollect : ∀ t tool service resource, ∃ text,
      (serve t (.collect tool service resource)).1 = .ok text)
    (hdeployments : ∀ t service, ∃ text, (serve t (.recentDeployments service)).1 = .ok text)
    (intents : List String) : (collectRaw incident intents).Returns serve t := by
  have hkey (wanted : Bool) (key : String) (tool : ActionType)
      (state : IncidentRecord × RawEvidence) (t : σ) :
      (collectKey wanted key tool state).Returns serve t := by
    rw [collectKey]
    split_ifs
    · exact (toolOp_returns hcollect hdeployments tool _ _).bind fun text t' ↦ ⟨_, _, rfl⟩
    · exact (pure_total _).returns
  refine (hkey _ _ _ _ t).bind fun s₁ t₁ ↦ (hkey _ _ _ _ t₁).bind fun s₂ t₂ ↦ ?_
  refine (hkey _ _ _ _ t₂).bind fun s₃ t₃ ↦ (hkey _ _ _ _ t₃).bind fun s₄ t₄ ↦ ?_
  split_ifs
  · refine (toolOp_returns hcollect hdeployments _ _ _).bind fun metrics t₅ ↦ ?_
    exact (toolOp_returns hcollect hdeployments _ _ _).bind fun logs t₆ ↦ ⟨_, _, rfl⟩
  · exact (pure_total _).returns

/-! ### The planner -/

theorem plannedGraph_total (out : PlannerLLMOutput) (actions : List ActionRequest) :
    (plannedGraph out actions).Total :=
  Prog.Total.bind (buildPlanSteps_total actions 0) fun _ ↦ pure_total _

theorem planWithLLM_returns_of_caught (hfallback : cfg.agenticStubFallback = true)
    {allowed : List ActionType} (h : Caught (serve t (.plannerLLM incident)).1) :
    (planWithLLM cfg incident allowed).Returns serve t := by
  rw [planWithLLM, perform_returns_iff]
  rcases hanswer : (serve t (.plannerLLM incident)).1 with f | out
  · exact (fallBack_returns_iff hfallback (stubGraph_total cfg incident)).mpr (h f hanswer)
  · refine (clampActions_total cfg _ _).returns.bind fun actions t' ↦ ?_
    split_ifs
    · exact perform_returns_iff.mpr
        ((fallBack_returns_iff hfallback (stubGraph_total cfg _)).mpr rfl)
    · exact ((plannedGraph_total out actions).returns).bind fun graph t'' ↦ (pure_total _).returns

theorem planRemediation_returns_of_caught (hagentic : cfg.agenticEnabled = true)
    (hfallback : cfg.agenticStubFallback = true)
    (h : Caught (serve t (.plannerLLM incident)).1) :
    (planRemediation cfg incident).Returns serve t := by
  rw [planRemediation, hagentic, Bool.not_true, if_neg Bool.false_ne_true]
  split
  · exact planWithLLM_returns_of_caught hfallback h
  · rw [if_pos hfallback]
    exact (stubGraph_total cfg incident).returns

end

/-! ## The fallback -/

/-- **The stub fallback.** The agents return for every outcome of the call but a success that the
client cannot read to its end or that exceeds the budget, and then not all of them do. -/
theorem stub_fallback_iff {σ : Type} {cfg : Settings} {rt : CompletionRuntime} {schemas : Schemas}
    {http : ℕ → HttpOutcome} {s : LlmState} {serve : σ → (o : Op) → Ans o × σ}
    (hagentic : cfg.agenticEnabled = true) (hfallback : cfg.agenticStubFallback = true)
    (houtside : Outside rt schemas http s serve) (t : σ) (incident : IncidentRecord) :
    AgentsReturn cfg serve t incident ↔
      Harmless rt s.budget (lastOutcome http s.sent.length) := by
  constructor
  · intro h
    have hcaught := (triage_returns_iff hagentic hfallback).mp h.triage
    rw [houtside.triage] at hcaught
    exact (completeJson_caught_iff schemas.triage).mp hcaught
  · intro h
    refine ⟨?_, ?_, ?_, ?_, ?_⟩
    · rw [triage_returns_iff hagentic hfallback, houtside.triage]
      exact (completeJson_caught_iff schemas.triage).mpr h
    · refine (collectRaw_returns houtside.collect houtside.deployments _).bind fun a t' ↦ ?_
      refine Prog.Returns.bind (evidenceEntries_returns_of_caught hagentic hfallback ?_)
        fun entries t'' ↦ (pure_total _).returns
      rw [houtside.evidence]
      exact (completeJson_caught_iff schemas.evidence).mpr h
    · refine change_returns_of_caught hagentic hfallback houtside.deployments fun t' raw ↦ ?_
      rw [houtside.change]
      exact (completeJson_caught_iff schemas.change).mpr h
    · refine rca_returns_of_caught hagentic hfallback ?_
      rw [houtside.rca]
      exact (completeJson_caught_iff schemas.rca).mpr h
    · refine planRemediation_returns_of_caught hagentic hfallback ?_
      rw [houtside.planner]
      exact (completeJson_caught_iff schemas.planner).mpr h

/-! ## A body without choices -/

/-- Response models that nothing matches. -/
def Schemas.none : Schemas :=
  ⟨fun _ ↦ Option.none, fun _ ↦ Option.none, fun _ ↦ Option.none, fun _ ↦ Option.none,
    fun _ ↦ Option.none⟩

/-- An outside where every request ends like this. -/
def Env.completing (outcome : HttpOutcome) : Env :=
  let answer {α : Type} (validate : Value → Option α) : Except Fault α :=
    ((OpenAICompatibleClient.completeJson .demo validate).run (llmServe fun _ ↦ outcome)
      (.start 20 100000)).1
  { Env.demo with
    triage := fun _ ↦ answer Schemas.none.triage
    evidence := fun _ ↦ answer Schemas.none.evidence
    change := fun _ ↦ answer Schemas.none.change
    rca := fun _ ↦ answer Schemas.none.rca
    planner := fun _ ↦ answer Schemas.none.planner }

theorem completing_outside (outcome : HttpOutcome) (mode : Mode) :
    Outside .demo .none (fun _ ↦ outcome) (.start 20 100000)
      (serve (Env.completing outcome) mode) where
  collect _ _ _ _ := ⟨_, rfl⟩
  deployments _ _ := ⟨_, rfl⟩
  triage _ _ := rfl
  evidence _ _ _ := rfl
  change _ _ _ := rfl
  rca _ _ := rfl
  planner _ _ := rfl

/-- A body with an answer that is no JSON. -/
def proseAnswer : HttpResponse where
  statusCode := 200
  content := "\x7b\"choices\": [\x7b\"message\": \x7b\"content\": \"Restart it.\"\x7d\x7d]\x7d"
  json := .ok (.dict
    [("choices", .list [.dict [("message", .dict [("content", .str "Restart it.")])]]),
      ("usage", .dict [("total_tokens", .num 12)])])

/-- The stubs stand in for a language model that answers in prose. -/
theorem stub_fallback_prose :
    AgentsReturn { Settings.demo with agenticEnabled := true }
      (serve (Env.completing (.response proseAnswer)) .postgres) {} checkoutIncident := by
  refine (stub_fallback_iff rfl rfl (completing_outside (.response proseAnswer) .postgres) {}
    checkoutIncident).mpr fun _ ↦ ?_
  refine ⟨_, .str "Restart it.", .num 12, 12, rfl, rfl, rfl, by decide, fun b hb ↦ ?_,
    fun e he ↦ ?_⟩
  · cases hb
    exact ⟨by decide, by decide⟩
  · cases he
    rfl

/-- A body whose list of choices is empty. -/
def noChoices : HttpResponse where
  statusCode := 200
  content := "\x7b\"choices\": []\x7d"
  json := .ok (.dict [("choices", .list [])])

/-- `choices[0]` raises an `IndexError`, and so does triage. -/
theorem empty_choices_raise :
    ¬ ∀ (σ : Type) (cfg : Settings) (rt : CompletionRuntime) (schemas : Schemas)
      (http : ℕ → HttpOutcome) (s : LlmState) (serve : σ → (o : Op) → Ans o × σ),
      cfg.agenticEnabled = true → cfg.agenticStubFallback = true →
      Outside rt schemas http s serve → (∀ b ∈ s.budget, b.Open) →
      ∀ (t : σ) (incident : IncidentRecord), AgentsReturn cfg serve t incident := by
  intro h
  have hopen : ∀ b ∈ (LlmState.start 20 100000).budget, b.Open := fun b hb ↦ by
    cases hb
    exact ⟨by decide, by decide⟩
  have hreturn := h World { Settings.demo with agenticEnabled := true } .demo .none
    (fun _ ↦ .response noChoices) (.start 20 100000)
    (serve (Env.completing (.response noChoices)) .postgres) rfl rfl (completing_outside _ _)
    hopen {} default
  have hcaught := (triage_returns_iff rfl rfl).mp hreturn.triage
  exact absurd ((caught_error_iff .other).mp hcaught) (by decide)

end IncidentPlatform
