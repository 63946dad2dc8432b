import IncidentPlatform.Persistence.Discipline
import IncidentPlatform.Workflow.Operations

/-!
# The routes keep the discipline

Most pieces of a route never touch the incident, and what they issue is quiet. The evidence agent
and the planner assign one field each, an iteration of the loop records its decision, and everything
else is saved at once. `Steady` is what these edits have in common: the state is that of the base.
-/

namespace IncidentPlatform

open Interaction

/-- The discipline says nothing about the agents. -/
theorem agent_quiet {α : Type} {p : Handler α} (h : p.Issues Op.ofAgent) : p.Issues Op.quiet :=
  Prog.Issues.mono (fun o ho ↦ by cases o <;> trivial) h

/-! ## Steady edits -/

/-- An edit that leaves the state alone. -/
structure Steady (b r : IncidentRecord) : Prop extends Edit b r where
  sameState : r.state = b.state

namespace Steady

variable {b r s : IncidentRecord} {grant : IncidentRecord → ApprovalRecord → Prop}

theorem refl (r : IncidentRecord) : Steady r r := ⟨Edit.refl r, rfl⟩

theorem trans (h : Steady b r) (h' : Steady r s) : Steady b s :=
  ⟨h.toEdit.trans h'.toEdit, h'.sameState.trans h.sameState⟩

theorem live (h : Steady b r) (hlive : Live b) : Live r := by
  intro hplan
  rw [h.sameState]
  exact hlive (h.responsePlan ▸ hplan)

/-- A steady edit may be saved. -/
theorem progress (h : Steady b r) : Progress b r :=
  ⟨h.incidentId, h.version, h.live, h.toEdit.sound, h.executedActions, h.decisionRecords,
    h.executionTrace⟩

/-- Steady edits, and the assignments that come with a save. -/
theorem commit (h : Steady b r) (h' : Progress r s) (happrovals : s.approvals = r.approvals) :
    Commit grant b s :=
  (h.toEdit.progress h.live h').commit (happrovals.trans h.approvals) grant

theorem of_tools (tools : List ActionType) (h : Steady b r) :
    Steady b { r with toolsUsed := tools } :=
  h.trans ⟨{ Edit.refl r with }, rfl⟩

theorem of_confidence (confidence : ℚ) (h : Steady b r) :
    Steady b (r.withConfidence confidence) :=
  h.trans ⟨{ Edit.refl r with }, rfl⟩

theorem of_trace (entry : ExecutionTraceEntry) (h : Steady b r) : Steady b (r.withTrace entry) :=
  h.trans ⟨{ Edit.refl r with executionTrace := List.prefix_append _ _ }, rfl⟩

end Steady

/-! ## The agents that assign -/

section

variable {regime : Regime} {grant : IncidentRecord → ApprovalRecord → Prop}
  {bound : IncidentRecord → ApprovalRecord → ActionRequest → Prop} {b r : IncidentRecord}
  {draft : Draft}

theorem Steady.recordTool (h : Steady b r) (tool : ActionType) : Steady b (recordTool r tool) := by
  rw [IncidentPlatform.recordTool]
  split_ifs
  · exact h
  · exact h.of_tools _

theorem collectKey_obeys (wanted : Bool) (key : String) (tool : ActionType)
    (state : IncidentRecord × RawEvidence) (hr : Steady b state.1) (hdraft : Working b draft) :
    Obeys regime grant bound (collectKey wanted key tool state)
      (fun a d ↦ Steady b a.1 ∧ Working b d) draft := by
  rw [collectKey]
  split_ifs
  · refine Obeys.quiet_bind (agent_quiet (toolOp_issues _ _ _)) hdraft.settled fun text ↦ ?_
    refine (Obeys.assign (hr.recordTool tool).toEdit hdraft).bind fun _ d hd ↦ ?_
    exact ⟨hr.recordTool tool, hd⟩
  · exact ⟨hr, hdraft⟩

theorem collectRaw_obeys (intents : List String) (hr : Steady b r) (hdraft : Working b draft) :
    Obeys regime grant bound (collectRaw r intents) (fun a d ↦ Steady b a.1 ∧ Working b d)
      draft := by
  refine (collectKey_obeys _ _ _ (r, []) hr hdraft).bind fun s₁ d₁ h₁ ↦ ?_
  refine (collectKey_obeys _ _ _ s₁ h₁.1 h₁.2).bind fun s₂ d₂ h₂ ↦ ?_
  refine (collectKey_obeys _ _ _ s₂ h₂.1 h₂.2).bind fun s₃ d₃ h₃ ↦ ?_
  refine (collectKey_obeys _ _ _ s₃ h₃.1 h₃.2).bind fun s₄ d₄ h₄ ↦ ?_
  split_ifs
  · refine Obeys.quiet_bind (agent_quiet (toolOp_issues _ _ _)) h₄.2.settled fun metrics ↦ ?_
    refine Obeys.quiet_bind (agent_quiet (toolOp_issues _ _ _)) h₄.2.settled fun logs ↦ ?_
    have hrecorded := (h₄.1.recordTool .queryMetrics).recordTool .queryLogs
    exact (Obeys.assign hrecorded.toEdit h₄.2).bind fun _ d hd ↦ ⟨hrecorded, hd⟩
  · exact h₄

theorem gatherEvidence_obeys (cfg : Settings) (hr : Steady b r) (hdraft : Working b draft) :
    Obeys regime grant bound (gatherEvidence cfg r) (fun a d ↦ Steady b a.1 ∧ Working b d)
      draft := by
  refine (collectRaw_obeys _ hr hdraft).bind fun a d h ↦ ?_
  exact Obeys.quiet_bind (agent_quiet (evidenceEntries_issues _ _ _)) h.2.settled fun entries ↦ h

theorem stubGraph_obeys (cfg : Settings) (hr : Steady b r) (hdraft : Working b draft) :
    Obeys regime grant bound (stubGraph cfg r) (fun a d ↦ Steady b a.1 ∧ Working b d) draft := by
  refine Obeys.quiet_bind (agent_quiet (stubActions_issues _ _)) hdraft.settled fun actions ↦ ?_
  refine Obeys.quiet_bind (agent_quiet (buildPlanSteps_issues _ _)) hdraft.settled fun steps ↦ ?_
  exact ⟨hr.of_confidence _, hdraft⟩

theorem fallBack_obeys {α : Type} (cfg : Settings) (f : Fault) {stub : Handler α}
    {R : α → Draft → Prop} (h : Obeys regime grant bound stub R draft)
    (hdraft : Settled regime draft) : Obeys regime grant bound (fallBack cfg f stub) R draft := by
  rw [fallBack]
  split_ifs
  · exact h
  · exact hdraft

theorem planWithLLM_obeys (cfg : Settings) (allowed : List ActionType) (hr : Steady b r)
    (hdraft : Working b draft) :
    Obeys regime grant bound (planWithLLM cfg r allowed) (fun a d ↦ Steady b a.1 ∧ Working b d)
      draft := by
  refine Obeys.quiet_bind (issues_perform trivial) hdraft.settled fun answer ↦ ?_
  rcases answer with f | out
  · exact fallBack_obeys cfg f (stubGraph_obeys cfg hr hdraft) hdraft.settled
  · have hout := hr.of_confidence out.plannerConfidence
    refine Obeys.quiet_bind (agent_quiet (clampActions_issues _ _ _)) hdraft.settled
      fun actions ↦ ?_
    split_ifs
    · refine (Obeys.assign hout.toEdit hdraft).bind fun _ d hd ↦ ?_
      exact fallBack_obeys cfg _ (stubGraph_obeys cfg hout hd) hd.settled
    · exact Obeys.quiet_bind (agent_quiet (plannedGraph_issues _ _)) hdraft.settled
        fun graph ↦ ⟨hout, hdraft⟩

theorem planRemediation_obeys (cfg : Settings) (hr : Steady b r) (hdraft : Working b draft) :
    Obeys regime grant bound (planRemediation cfg r) (fun a d ↦ Steady b a.1 ∧ Working b d)
      draft := by
  rw [planRemediation]
  split
  · exact stubGraph_obeys cfg hr hdraft
  · split
    · exact planWithLLM_obeys cfg _ hr hdraft
    · split
      · exact stubGraph_obeys cfg hr hdraft
      · exact hdraft.settled

/-! ## The routes -/

theorem writeCheckpoint_obeys (worker : Bool) (step : String) (s : IncidentRecord)
    (hr : Steady b r) (hs : Progress r s) (happrovals : s.approvals = r.approvals)
    (hdraft : Working b draft) :
    Obeys regime grant bound (writeCheckpoint worker s step)
      (fun r' d ↦ d = .held r' r') draft := by
  have hcommit : Commit grant b (s.withStep step) := by
    rw [IncidentRecord.withStep]
    split_ifs
    · exact hr.commit hs happrovals
    · exact hr.commit
        { hs with sound := fun h ↦ (hs.sound h).congr rfl rfl rfl rfl rfl } happrovals
  refine (Obeys.save hcommit hdraft).bind ?_
  rintro r' d ⟨rfl, -⟩
  exact Obeys.quiet_bind (issues_perform trivial) (Working.refl r').settled fun _ ↦ rfl

theorem triageStep_obeys (cfg : Settings) (worker : Bool) (hr : Steady b r)
    (hdraft : Working b draft) :
    Obeys regime grant bound (triageStep cfg worker r) (fun r' d ↦ d = .held r' r') draft :=
  Obeys.quiet_bind (agent_quiet (triage_issues cfg r)) hdraft.settled fun _ ↦
    writeCheckpoint_obeys worker "triage" _ hr (Steady.progress ⟨{ Edit.refl r with }, rfl⟩) rfl
      hdraft

theorem changeStep_obeys (cfg : Settings) (worker : Bool) (hr : Steady b r)
    (hdraft : Working b draft) :
    Obeys regime grant bound (changeStep cfg worker r) (fun r' d ↦ d = .held r' r') draft :=
  Obeys.quiet_bind (agent_quiet (correlateChanges_issues cfg r)) hdraft.settled fun _ ↦
    writeCheckpoint_obeys worker "change" _ hr (Steady.progress ⟨{ Edit.refl r with }, rfl⟩) rfl
      hdraft

theorem evidenceStep_obeys (cfg : Settings) (worker : Bool) (hr : Steady b r)
    (hdraft : Working b draft) :
    Obeys regime grant bound (evidenceStep cfg worker r) (fun r' d ↦ d = .held r' r') draft :=
  (gatherEvidence_obeys cfg hr hdraft).bind fun a _ h ↦
    writeCheckpoint_obeys worker "evidence" _ h.1
      (Steady.progress ⟨{ Edit.refl a.1 with }, rfl⟩) rfl h.2

theorem rcaStep_obeys (cfg : Settings) (worker : Bool) (hr : Steady b r)
    (hdraft : Working b draft) :
    Obeys regime grant bound (rcaStep cfg worker r) (fun r' d ↦ d = .held r' r') draft :=
  Obeys.quiet_bind (agent_quiet (analyzeRootCause_issues cfg r)) hdraft.settled fun _ ↦
    writeCheckpoint_obeys worker "rca" _ hr (Steady.progress ⟨{ Edit.refl r with }, rfl⟩) rfl hdraft

/-- Both routes start by matching the plan and entering the investigation. -/
theorem matchPlan_progress (cfg : Settings) (r : IncidentRecord) : Progress r (matchPlan cfg r) :=
  { Progress.refl r with
    live := fun _ _ ↦ by simp [matchPlan]
    sound := fun _ ↦ by
      refine ⟨by simp [matchPlan], fun plan hplan ↦ ?_, fun _ ↦ by simp [matchPlan]⟩
      cases hplan
      exact ⟨cfg.text, _, _, rfl⟩ }

/-- The loop starts its count over as well. -/
theorem matchPlanAgain_progress (cfg : Settings) (r : IncidentRecord) :
    Progress r ((matchPlan cfg r).withIteration 0) :=
  have h := matchPlan_progress cfg r
  { h with sound := fun hr ↦ (h.sound hr).congr rfl rfl rfl rfl rfl }

/-- A plan becomes the pending plan. -/
theorem withPlannedGraph_sound {r : IncidentRecord} {graph : ActionGraph} (hgraph : IsPlan graph)
    (hr : Sound r) : Sound (withPlannedGraph r graph) := by
  refine ⟨fun _ ↦ ⟨graph, rfl, hgraph, ?_, ?_⟩, hr.matched, fun _ ↦ by simp [withPlannedGraph]⟩
  all_goals
    obtain ⟨action, actions, hactions⟩ := List.exists_cons_of_ne_nil hgraph.actions
    obtain ⟨step, steps, hsteps⟩ := List.exists_cons_of_ne_nil hgraph.planSteps
    simp [withPlannedGraph, hactions, hsteps]

theorem withPlannedGraph_progress (r : IncidentRecord) {graph : ActionGraph}
    (hgraph : IsPlan graph) : Progress r (withPlannedGraph r graph) :=
  { Progress.refl r with
    live := fun _ _ ↦ by simp [withPlannedGraph]
    sound := withPlannedGraph_sound hgraph }

theorem save_steady (s : IncidentRecord) (hr : Steady b r) (hs : Progress r s)
    (happrovals : s.approvals = r.approvals) (hdraft : Working b draft) :
    Obeys regime grant bound (save s) (fun r' d ↦ d = .held r' r') draft :=
  (Obeys.save (hr.commit hs happrovals) hdraft).mono fun _ _ h ↦ h.1

theorem runLinearRoute_obeys (cfg : Settings) (worker : Bool) (r : IncidentRecord) :
    Obeys regime grant bound (runLinearRoute cfg worker r) (fun r' d ↦ d = .held r' r')
      (.held r r) := by
  refine (writeCheckpoint_obeys worker "match" (matchPlan cfg r) (Steady.refl r)
    (matchPlan_progress cfg r) rfl
    (Working.refl r)).bind ?_
  rintro r₁ d rfl
  refine (triageStep_obeys cfg worker (Steady.refl r₁) (Working.refl r₁)).bind ?_
  rintro r₂ d rfl
  refine (gatherEvidence_obeys cfg (Steady.refl r₂) (Working.refl r₂)).bind ?_
  rintro ⟨r₃, evidence⟩ d ⟨hr₃, hd⟩
  refine (writeCheckpoint_obeys worker "evidence" (r₃.withEvidence evidence) hr₃
    (Steady.progress ⟨{ Edit.refl r₃ with }, rfl⟩) rfl hd).bind ?_
  rintro r₄ d rfl
  refine (changeStep_obeys cfg worker (Steady.refl r₄) (Working.refl r₄)).bind ?_
  rintro r₅ d rfl
  refine Obeys.quiet_bind (agent_quiet (analyzeRootCause_issues cfg r₅)) (Working.refl r₅).settled
    fun hs ↦ ?_
  refine (writeCheckpoint_obeys worker "rca"
    (r₅.withHypotheses (hs.map RCAHypothesisItem.modelDump)) (Steady.refl r₅)
    (Steady.progress ⟨{ Edit.refl r₅ with }, rfl⟩) rfl (Working.refl r₅)).bind ?_
  rintro r₆ d rfl
  exact save_steady r₆.routed (Steady.refl r₆) (Steady.progress ⟨{ Edit.refl r₆ with }, rfl⟩) rfl
    (Working.refl r₆)

/-- At work on a record: a steady edit of the base. -/
def AtWork (r : IncidentRecord) (draft : Draft) : Prop :=
  ∃ b, Steady b r ∧ Working b draft

theorem AtWork.of_held {r : IncidentRecord} {draft : Draft} (h : draft = .held r r) :
    AtWork r draft :=
  ⟨r, Steady.refl r, h ▸ Working.refl r⟩

theorem AtWork.settled {r : IncidentRecord} {draft : Draft} (h : AtWork r draft) :
    Settled regime draft := by
  obtain ⟨b, -, hdraft⟩ := h
  exact hdraft.settled

theorem appendTrace_obeys (phase message : String) (h : AtWork r draft) :
    Obeys regime grant bound (appendTrace r phase message) AtWork draft := by
  obtain ⟨b, hr, hdraft⟩ := h
  exact Obeys.quiet_bind (agent_quiet (newTraceEntry_issues _ _ _ _ _)) hdraft.settled fun entry ↦
    ⟨b, hr.of_trace entry, hdraft⟩

theorem plannerStep_obeys (cfg : Settings) (worker : Bool) (h : AtWork r draft) :
    Obeys regime grant bound (plannerStep cfg worker r) AtWork draft := by
  obtain ⟨b, hr, hdraft⟩ := h
  refine ((planRemediation_obeys cfg hr hdraft).yielding (planRemediation_yields cfg r)).bind ?_
  rintro ⟨r₁, graph⟩ d ⟨⟨hr₁, hd⟩, hgraph⟩
  refine (writeCheckpoint_obeys worker "planned" (withPlannedGraph r₁ graph) hr₁
    (withPlannedGraph_progress r₁ hgraph) rfl hd).bind fun r₂ d' hd' ↦ ?_
  exact appendTrace_obeys _ _ (AtWork.of_held hd')

/-- The steps of the loop, one by one. -/
theorem runStep_obeys (cfg : Settings) (worker : Bool) (step : String) (h : AtWork r draft) :
    Obeys regime grant bound (runStep cfg worker r step) (fun a d ↦ AtWork a.1 d) draft := by
  obtain ⟨b, hr, hdraft⟩ := h
  unfold runStep
  split
  · exact (triageStep_obeys cfg worker hr hdraft).bind fun _ _ h ↦ AtWork.of_held h
  · exact (evidenceStep_obeys cfg worker hr hdraft).bind fun _ _ h ↦ AtWork.of_held h
  · exact (changeStep_obeys cfg worker hr hdraft).bind fun _ _ h ↦ AtWork.of_held h
  · exact (rcaStep_obeys cfg worker hr hdraft).bind fun _ _ h ↦ AtWork.of_held h
  · exact (plannerStep_obeys cfg worker ⟨b, hr, hdraft⟩).bind fun _ _ h ↦ h
  · exact (appendTrace_obeys _ _ ⟨b, hr, hdraft⟩).bind fun _ _ h ↦ h
  · exact ⟨b, hr, hdraft⟩

theorem persistDecision_obeys (decision : RouterDecision) (h : AtWork r draft) :
    Obeys regime grant bound (persistDecision r decision) AtWork draft := by
  obtain ⟨b, hr, hdraft⟩ := h
  refine Obeys.quiet_bind (issues_perform trivial) hdraft.settled fun hex ↦ ?_
  refine Obeys.quiet_bind (issues_perform trivial) hdraft.settled fun createdAt ↦ ?_
  have hr' (record : DecisionRecord) : Steady b (r.withDecision decision record) :=
    hr.trans ⟨{ Edit.refl r with decisionRecords := List.prefix_append _ _ }, rfl⟩
  refine (Obeys.assign (hr' _).toEdit hdraft).bind fun _ d hd ↦ ?_
  exact Obeys.quiet_bind (issues_perform trivial) hd.settled fun _ ↦ ⟨b, hr' _, hd⟩

theorem decideNext_obeys (cfg : Settings) (plan : ResponsePlan) (h : AtWork r draft) :
    Obeys regime grant bound (decideNext cfg r plan) (fun a d ↦ AtWork a.1 d) draft := by
  obtain ⟨b, hr, hdraft⟩ := h
  have hr₁ : Steady b (r.withIteration (r.workflowIteration + 1)) :=
    hr.trans ⟨{ Edit.refl r with }, rfl⟩
  refine (Obeys.assign hr₁.toEdit hdraft).bind fun _ d₁ hd₁ ↦ ?_
  refine Obeys.quiet_bind (agent_quiet (computeRouterDecision_issues cfg _ plan)) hd₁.settled
    fun raw ↦ ?_
  refine (persistDecision_obeys _ ⟨b, hr₁, hd₁⟩).bind fun r₂ d₂ h₂ ↦ ?_
  refine (appendTrace_obeys _ _ h₂).bind fun r₃ d₃ h₃ ↦ ?_
  obtain ⟨b₃, hr₃, hd₃⟩ := h₃
  exact (Obeys.assign hr₃.toEdit hd₃).bind fun _ d hd ↦ ⟨b₃, hr₃, hd⟩

/-- The loop, by induction on the iterations left. -/
theorem decisionLoop_obeys (cfg : Settings) (worker : Bool) (plan : ResponsePlan) (n : ℕ) :
    ∀ {r : IncidentRecord} {draft : Draft}, AtWork r draft →
      Obeys regime grant bound (decisionLoop cfg worker plan n r) AtWork draft := by
  induction n with
  | zero => exact fun h ↦ h
  | succ n ih =>
    intro r draft h
    rw [decisionLoop]
    refine (decideNext_obeys cfg plan h).bind ?_
    rintro ⟨r₁, decision⟩ d₁ h₁
    dsimp only
    split
    · exact appendTrace_obeys _ _ h₁
    · refine (runStep_obeys cfg worker _ h₁).bind ?_
      rintro ⟨r₂, continues⟩ d₂ ⟨b, hr₂, hd₂⟩
      dsimp only
      split
      · exact (save_steady r₂ hr₂ (Progress.refl r₂) rfl hd₂).bind fun r₃ d₃ hd₃ ↦
          ih (AtWork.of_held hd₃)
      · exact ⟨b, hr₂, hd₂⟩

theorem runDecisionLoopRoute_obeys (cfg : Settings) (worker : Bool) (r : IncidentRecord) :
    Obeys regime grant bound (runDecisionLoopRoute cfg worker r) (fun r' d ↦ d = .held r' r')
      (.held r r) := by
  refine (writeCheckpoint_obeys worker "match" ((matchPlan cfg r).withIteration 0) (Steady.refl r)
    (matchPlanAgain_progress cfg r) rfl (Working.refl r)).bind fun r₁ d₁ hd₁ ↦ ?_
  refine (decisionLoop_obeys cfg worker _ _ (AtWork.of_held hd₁)).bind ?_
  rintro r₂ d₂ ⟨b, hr₂, hd₂⟩
  exact save_steady r₂.routed hr₂ (Steady.progress ⟨{ Edit.refl r₂ with }, rfl⟩) rfl hd₂

theorem executeRoute_obeys (cfg : Settings) (worker : Bool) (r : IncidentRecord) :
    Obeys regime grant bound (executeRoute cfg worker r) (fun r' d ↦ d = .held r' r')
      (.held r r) := by
  rw [executeRoute]
  split
  · exact runDecisionLoopRoute_obeys cfg worker r
  · exact runLinearRoute_obeys cfg worker r

end

end IncidentPlatform
