import IncidentPlatform.Interaction.Monitor
import IncidentPlatform.Interaction.Translate
import IncidentPlatform.Workflow.Stub

/-!
# The routes over their parameters

`execute_route` gets its agents as parameters, and so do the routes below it. Here they are
operations: an agent is asked about a record, and answers what it returns, or raises. The router is
one of them, and so is the planner. Nothing is assumed of an answer, so what is shown of these
programs holds for all agents, and for every language model behind them.

`Flow.executeRoute_interp` puts the agents of `Agents.Investigation` and `Agents.Planner` in, and
what comes of it is `executeRoute`.

An agent may assign to the record while it works. The evidence agent records its tools and the
planner its confidence, and they answer that as well.
-/

namespace IncidentPlatform

open Interaction

inductive FlowOp where
  | triage (incident : IncidentRecord)
  | evidence (incident : IncidentRecord)
  | change (incident : IncidentRecord)
  | rca (incident : IncidentRecord)
  | planner (incident : IncidentRecord)
  | router (incident : IncidentRecord) (plan : ResponsePlan)
  /-- Everything that is not an agent. -/
  | world (o : Op)

/-- What an agent returns, or its exception. -/
abbrev FlowAns : FlowOp → Type
  | .triage _ => Except Exc Dict
  | .evidence _ => Except Exc (List ActionType × List EvidenceEntry)
  | .change _ => Except Exc EvidenceEntry
  | .rca _ => Except Exc (List RCAHypothesisItem)
  | .planner _ => Except Exc (ℚ × ActionGraph)
  | .router _ _ => Except Exc RouterDecision
  | .world o => Ans o

abbrev FlowProg := Prog FlowOp FlowAns Exc

namespace Flow

/-- A part of a route without agents. -/
def world {α : Type} (p : Handler α) : FlowProg α := p.interp fun o ↦ Prog.op (.world o)

/-! ## The routes -/

section

variable (cfg : Settings) (worker : Bool) (incident : IncidentRecord)

def triageStep : FlowProg IncidentRecord := do
  let result ← Prog.ofExcept (← Prog.op (FlowOp.triage incident))
  world (writeCheckpoint worker (incident.withHypotheses [[("triage", .dict result)]]) "triage")

def changeStep : FlowProg IncidentRecord := do
  let entry ← Prog.ofExcept (← Prog.op (FlowOp.change incident))
  world (writeCheckpoint worker (incident.withEvidence [entry]) "change")

/-- `run_linear_route`. -/
def runLinearRoute : FlowProg IncidentRecord := do
  let incident ← world (writeCheckpoint worker (matchPlan cfg incident) "match")
  let incident ← triageStep worker incident
  let found ← Prog.ofExcept (← Prog.op (FlowOp.evidence incident))
  let incident ← world
    (writeCheckpoint worker ((incident.withTools found.1).withEvidence found.2) "evidence")
  let incident ← changeStep worker incident
  let hypotheses ← Prog.ofExcept (← Prog.op (FlowOp.rca incident))
  let incident ← world (writeCheckpoint worker
    (incident.withHypotheses (hypotheses.map RCAHypothesisItem.modelDump)) "rca")
  world (save incident.routed)

def evidenceStep : FlowProg IncidentRecord := do
  let found ← Prog.ofExcept (← Prog.op (FlowOp.evidence incident))
  world (writeCheckpoint worker
    ((incident.withTools found.1).withEvidence found.2).withCoverage "evidence")

/-- The record after an analysis. -/
def withAnalysis (hypotheses : List RCAHypothesisItem) : IncidentRecord :=
  (incident.withHypotheses (hypotheses.map RCAHypothesisItem.modelDump)).withLinks
    (hypothesisLinks incident.incidentId 0 hypotheses)

def rcaStep : FlowProg IncidentRecord := do
  let hypotheses ← Prog.ofExcept (← Prog.op (FlowOp.rca incident))
  world (writeCheckpoint worker (withAnalysis incident hypotheses) "rca")

def plannerStep : FlowProg IncidentRecord := do
  let planned ← Prog.ofExcept (← Prog.op (FlowOp.planner incident))
  world do
    let incident ← writeCheckpoint worker
      (withPlannedGraph (incident.withConfidence planned.1) planned.2) "planned"
    appendTrace incident "plan" "remediation graph created"

/-- One step of the loop, and whether the loop goes on. -/
def runStep (step : String) : FlowProg (IncidentRecord × Bool) := do
  match step with
  | "triage" => do pure (← triageStep worker incident, true)
  | "evidence" => do pure (← evidenceStep worker incident, true)
  | "change" => do pure (← changeStep worker incident, true)
  | "rca" => do pure (← rcaStep worker incident, true)
  | "planner" => do pure (← plannerStep worker incident, false)
  | "verify" => do
    pure (← world (appendTrace incident "verify" "post_action_verify_stub"), false)
  | _ => pure (incident, false)

/-- What follows the router's answer in an iteration. -/
def recordDecision (incident : IncidentRecord) (decision : RouterDecision) :
    Handler (IncidentRecord × RouterDecision) := do
  let incident ← persistDecision incident decision
  let incident ← appendTrace incident "decide" ("next=" ++ decision.nextWorkflow)
  assign incident
  pure (incident, decision)

def decideNext (incident : IncidentRecord) (plan : ResponsePlan) :
    FlowProg (IncidentRecord × RouterDecision) := do
  let incident := incident.withIteration (incident.workflowIteration + 1)
  world (assign incident)
  let raw ← Prog.ofExcept (← Prog.op (FlowOp.router incident plan))
  world (recordDecision incident (restrictDecision raw plan))

end

/-- The iterations of `run_decision_loop_route`, at most `n` of them. -/
def decisionLoop (worker : Bool) (plan : ResponsePlan) :
    ℕ → IncidentRecord → FlowProg IncidentRecord
  | 0, incident => pure incident
  | n + 1, incident => do
    let decided ← decideNext incident plan
    let stopReason := orText decided.2.stopReason none
    if decided.2.nextWorkflow == "stop" || stopReason.isSome then
      world (appendTrace decided.1 "stop" (stopReason.getD "complete"))
    else do
      let stepped ← runStep worker decided.1 decided.2.nextWorkflow
      if stepped.2 then do
        let incident ← world (save stepped.1)
        decisionLoop worker plan n incident
      else pure stepped.1

/-- `run_decision_loop_route`. -/
def runDecisionLoopRoute (cfg : Settings) (worker : Bool) (incident : IncidentRecord) :
    FlowProg IncidentRecord := do
  let incident ← world
    (writeCheckpoint worker ((matchPlan cfg incident).withIteration 0) "match")
  let plan := matchResponsePlan cfg.text incident.metadata.severity incident.metadata.symptom
  let incident ← decisionLoop worker plan cfg.maxIterations incident
  world (save incident.routed)

/-- `execute_route`. -/
def executeRoute (cfg : Settings) (worker : Bool) (incident : IncidentRecord) :
    FlowProg IncidentRecord :=
  if cfg.routerDecisionLoopEnabled then runDecisionLoopRoute cfg worker incident
  else runLinearRoute cfg worker incident

/-! ## The agents in their places -/

section

variable (cfg : Settings)

/-- The agents of the code. -/
def agents : (o : FlowOp) → Handler (FlowAns o)
  | .triage incident => (triage cfg incident).attempt
  | .evidence incident =>
    ((gatherEvidence cfg incident).bind fun a ↦ pure (a.1.toolsUsed, a.2)).attempt
  | .change incident => (correlateChanges cfg incident).attempt
  | .rca incident => (analyzeRootCause cfg incident).attempt
  | .planner incident =>
    ((planRemediation cfg incident).bind fun a ↦ pure (a.1.lastPlannerConfidence, a.2)).attempt
  | .router incident plan => (computeRouterDecision cfg incident plan).attempt
  | .world o => perform o

theorem world_interp {α : Type} (p : Handler α) : (world p).interp (agents cfg) = p := by
  rw [world, Prog.interp_interp]
  refine Prog.Issues.interp_eq (?_ : p.Issues _)
  induction p with
  | ret a => trivial
  | raise e => trivial
  | call o k ih => exact ⟨rfl, ih⟩

variable (worker : Bool) (incident : IncidentRecord)

theorem triageStep_interp :
    (triageStep worker incident).interp (agents cfg)
      = IncidentPlatform.triageStep cfg worker incident := by
  simp only [triageStep, Prog.bind_eq, Prog.interp_bind, Prog.interp_op, Prog.interp_ofExcept,
    agents, Prog.attempt_bind, world_interp]
  rfl

theorem changeStep_interp :
    (changeStep worker incident).interp (agents cfg)
      = IncidentPlatform.changeStep cfg worker incident := by
  simp only [changeStep, Prog.bind_eq, Prog.interp_bind, Prog.interp_op, Prog.interp_ofExcept,
    agents, Prog.attempt_bind, world_interp]
  rfl

theorem gatherEvidence_withTools :
    (gatherEvidence cfg incident).Yields fun a ↦ a.1 = incident.withTools a.1.toolsUsed := by
  refine Prog.Yields.bind (collectRaw_yields _ _) fun a ha ↦
    Prog.Yields.rest fun _ ↦ ?_
  obtain ⟨tools, ha⟩ := ha
  change a.1 = incident.withTools a.1.toolsUsed
  rw [ha]
  rfl

/-- The evidence agent, and what is done with its answer. -/
theorem gatherEvidence_interp {α : Type} (q : IncidentRecord × List EvidenceEntry → Handler α) :
    (((gatherEvidence cfg incident).bind fun a ↦
      (pure (a.1.toolsUsed, a.2) : Handler (List ActionType × List EvidenceEntry))).bind fun found ↦
        q (incident.withTools found.1, found.2)) = (gatherEvidence cfg incident).bind q := by
  rw [Prog.bind_assoc]
  refine (gatherEvidence_withTools cfg incident).bind_congr fun a ha ↦ ?_
  change q (incident.withTools a.1.toolsUsed, a.2) = q a
  rw [← ha]

theorem evidenceStep_interp :
    (evidenceStep worker incident).interp (agents cfg)
      = IncidentPlatform.evidenceStep cfg worker incident := by
  simp only [evidenceStep, Prog.bind_eq, Prog.interp_bind, Prog.interp_op, Prog.interp_ofExcept,
    agents, Prog.attempt_bind, world_interp]
  exact gatherEvidence_interp cfg incident fun a ↦
    writeCheckpoint worker (a.1.withEvidence a.2).withCoverage "evidence"

theorem rcaStep_interp :
    (rcaStep worker incident).interp (agents cfg)
      = IncidentPlatform.rcaStep cfg worker incident := by
  simp only [rcaStep, Prog.bind_eq, Prog.interp_bind, Prog.interp_op, Prog.interp_ofExcept,
    agents, Prog.attempt_bind, world_interp]
  rfl

theorem stubGraph_withConfidence (confidence : ℚ) :
    (stubGraph cfg (incident.withConfidence confidence)).Yields fun a ↦
      a.1 = incident.withConfidence a.1.lastPlannerConfidence :=
  Prog.Yields.rest fun _ ↦
    Prog.Yields.rest fun _ ↦ rfl

theorem planRemediation_withConfidence :
    (planRemediation cfg incident).Yields fun a ↦
      a.1 = incident.withConfidence a.1.lastPlannerConfidence := by
  have hstub := stubGraph_withConfidence cfg incident incident.lastPlannerConfidence
  rw [planRemediation]
  split
  · exact hstub
  · split
    · refine yields_perform_bind.mpr fun answer ↦ ?_
      rcases answer with f | out
      · exact fallBack_yields cfg f hstub
      · refine Prog.Yields.rest fun actions ↦ ?_
        split_ifs
        · exact yields_perform_bind.mpr fun _ ↦
            fallBack_yields cfg _ (stubGraph_withConfidence cfg incident _)
        · exact Prog.Yields.rest fun _ ↦ rfl
    · split_ifs
      · exact hstub
      · trivial

theorem planRemediation_interp {α : Type} (q : IncidentRecord × ActionGraph → Handler α) :
    (((planRemediation cfg incident).bind fun a ↦
      (pure (a.1.lastPlannerConfidence, a.2) : Handler (ℚ × ActionGraph))).bind fun planned ↦
        q (incident.withConfidence planned.1, planned.2))
      = (planRemediation cfg incident).bind q := by
  rw [Prog.bind_assoc]
  refine (planRemediation_withConfidence cfg incident).bind_congr fun a ha ↦ ?_
  change q (incident.withConfidence a.1.lastPlannerConfidence, a.2) = q a
  rw [← ha]

theorem plannerStep_interp :
    (plannerStep worker incident).interp (agents cfg)
      = IncidentPlatform.plannerStep cfg worker incident := by
  simp only [plannerStep, Prog.bind_eq, Prog.interp_bind, Prog.interp_op, Prog.interp_ofExcept,
    agents, Prog.attempt_bind, world_interp]
  exact planRemediation_interp cfg incident fun a ↦
    (writeCheckpoint worker (withPlannedGraph a.1 a.2) "planned").bind fun incident ↦
      appendTrace incident "plan" "remediation graph created"

theorem runStep_interp (step : String) :
    (runStep worker incident step).interp (agents cfg)
      = IncidentPlatform.runStep cfg worker incident step := by
  unfold runStep
  split
  · rw [Prog.bind_eq, Prog.interp_bind, triageStep_interp]
    rfl
  · rw [Prog.bind_eq, Prog.interp_bind, evidenceStep_interp]
    rfl
  · rw [Prog.bind_eq, Prog.interp_bind, changeStep_interp]
    rfl
  · rw [Prog.bind_eq, Prog.interp_bind, rcaStep_interp]
    rfl
  · rw [Prog.bind_eq, Prog.interp_bind, plannerStep_interp]
    rfl
  · rw [Prog.bind_eq, Prog.interp_bind, world_interp]
    rfl
  · unfold IncidentPlatform.runStep
    split <;> first | contradiction | rfl

theorem decideNext_interp (plan : ResponsePlan) :
    (decideNext incident plan).interp (agents cfg)
      = IncidentPlatform.decideNext cfg incident plan := by
  simp only [decideNext, Prog.bind_eq, Prog.interp_bind, Prog.interp_op, Prog.interp_ofExcept,
    agents, Prog.attempt_bind, world_interp]
  rfl

theorem decisionLoop_interp (plan : ResponsePlan) (n : ℕ) : ∀ incident : IncidentRecord,
    (decisionLoop worker plan n incident).interp (agents cfg)
      = IncidentPlatform.decisionLoop cfg worker plan n incident := by
  induction n with
  | zero => exact fun _ ↦ rfl
  | succ n ih =>
    intro incident
    rw [decisionLoop, Prog.bind_eq, Prog.interp_bind, decideNext_interp]
    refine congrArg (Prog.bind _) (funext fun decided ↦ ?_)
    dsimp only
    split_ifs
    · exact world_interp cfg _
    · rw [Prog.bind_eq, Prog.interp_bind, runStep_interp]
      refine congrArg (Prog.bind _) (funext fun stepped ↦ ?_)
      split_ifs
      · rw [Prog.bind_eq, Prog.interp_bind, world_interp]
        exact congrArg (Prog.bind _) (funext ih)
      · rfl

theorem runDecisionLoopRoute_interp :
    (runDecisionLoopRoute cfg worker incident).interp (agents cfg)
      = IncidentPlatform.runDecisionLoopRoute cfg worker incident := by
  simp only [runDecisionLoopRoute, Prog.bind_eq, Prog.interp_bind, world_interp,
    decisionLoop_interp]
  rfl

theorem runLinearRoute_interp :
    (runLinearRoute cfg worker incident).interp (agents cfg)
      = IncidentPlatform.runLinearRoute cfg worker incident := by
  simp only [runLinearRoute, Prog.bind_eq, Prog.interp_bind, Prog.interp_op, Prog.interp_ofExcept,
    agents, Prog.attempt_bind, world_interp, triageStep_interp, changeStep_interp]
  refine congrArg (Prog.bind _) (funext fun _ ↦ congrArg (Prog.bind _) (funext fun triaged ↦ ?_))
  exact gatherEvidence_interp cfg triaged fun a ↦
    (writeCheckpoint worker (a.1.withEvidence a.2) "evidence").bind fun found ↦
      (IncidentPlatform.changeStep cfg worker found).bind fun changed ↦
        (analyzeRootCause cfg changed).bind fun hypotheses ↦
          (writeCheckpoint worker (changed.withHypotheses
            (hypotheses.map RCAHypothesisItem.modelDump)) "rca").bind fun explained ↦
            save explained.routed

/-- **With the agents of the code it is `execute_route`.** -/
theorem executeRoute_interp :
    (executeRoute cfg worker incident).interp (agents cfg)
      = IncidentPlatform.executeRoute cfg worker incident := by
  rw [executeRoute, IncidentPlatform.executeRoute]
  split_ifs
  · exact runDecisionLoopRoute_interp cfg worker incident
  · exact runLinearRoute_interp cfg worker incident

end

end Flow

end IncidentPlatform
