import IncidentPlatform.Workflow.Flow

/-!
# What a route finds, and what it stores

The evidence, the hypothesis links and the coverage of a record are set by a few steps only. Saving,
deciding and tracing leave them alone. `Findings` is this part of a record.

A `FlowMonitor` says what stored findings have to satisfy, and what answers of the evidence, change
and root-cause agents are fair. If a step that gets a fair answer keeps an invariant that the store
asks for, and a step that does not spoils the record it goes on to store, then in every run of the
decision loop all stored findings are right exactly if all answers were fair. That is
`runDecisionLoopRoute_agrees`. The routes are programs over their agents here, see `Workflow.Flow`.
-/

namespace IncidentPlatform

open Interaction

/-! ## Findings -/

structure Findings where
  incidentId : String
  state : IncidentState
  evidence : List EvidenceEntry
  hypothesisLinks : List HypothesisLink
  evidenceCoverageScore : ℚ

namespace Findings

variable (f : Findings)

def withState (state : IncidentState) : Findings := { f with state := state }

def withEvidence (evidence : List EvidenceEntry) : Findings :=
  { f with evidence := f.evidence ++ evidence }

def withCoverage : Findings :=
  { f with evidenceCoverageScore := evidenceCoverage f.evidence.length }

def withLinks (links : List HypothesisLink) : Findings :=
  { f with hypothesisLinks := f.hypothesisLinks ++ links }

end Findings

def IncidentRecord.findings (r : IncidentRecord) : Findings where
  incidentId := r.incidentId
  state := r.state
  evidence := r.evidence
  hypothesisLinks := r.hypothesisLinks
  evidenceCoverageScore := r.evidenceCoverageScore

@[simp] theorem findings_withStep (r : IncidentRecord) (step : String) :
    (r.withStep step).findings = r.findings := by
  rw [IncidentRecord.withStep]
  split_ifs <;> rfl

/-- The operations that store nothing. -/
def Op.storesNothing : Op → Prop
  | .write _ => False
  | _ => True

theorem Op.ofAgent.storesNothing {o : Op} (h : o.ofAgent) : o.storesNothing := by
  cases o with
  | write r => exact h
  | _ => trivial

/-! ## Monitors -/

namespace Flow

/-- Of the answers, only those of the evidence, change and root-cause agents can be unfair. -/
def Uneventful : (o : FlowOp) → FlowAns o → Prop
  | .evidence _, .ok _ | .change _, .ok _ | .rca _, .ok _ => False
  | _, _ => True

end Flow

/-- What is asked of stored findings, and of answers. -/
structure FlowMonitor (ν : Type) where
  stored : ν → Findings → Prop
  fair : ν → (o : FlowOp) → FlowAns o → Prop
  next : ν → (o : FlowOp) → FlowAns o → ν
  uneventful : ∀ n o a, Flow.Uneventful o a → fair n o a ∧ next n o a = n

namespace FlowMonitor

variable {ν : Type} (F : FlowMonitor ν)

/-- The writes on the left, the answers on the right. -/
def monitor : Monitor FlowOp FlowAns ν where
  left n o _ :=
    match o with
    | .world (.write r) => F.stored n r.findings
    | _ => True
  right := F.fair
  next := F.next

/-- The left side is about the records that are written. -/
theorem left_iff (n : ν) (events : List (Prog.Event FlowOp FlowAns)) :
    (∀ e ∈ events, F.monitor.left n e.1 e.2) ↔
      ∀ stored, ⟨.world (.write stored), ()⟩ ∈ events → F.stored n stored.findings := by
  refine ⟨fun h stored hstored ↦ h _ hstored, fun h ↦ ?_⟩
  rintro ⟨o, a⟩ he
  rcases o with _ | _ | _ | _ | _ | _ | o
  case world =>
    cases o with
    | write stored => exact h stored he
    | _ => trivial
  all_goals trivial

/-- A fair answer leads to findings that satisfy `Inv`, any other one to findings that must not be
stored. -/
def Turns (Inv : ν → Findings → Prop) (n : ν) (o : FlowOp) (a : FlowAns o) (f : Findings) : Prop :=
  F.fair n o a ∧ Inv (F.next n o a) f ∨ ¬ F.fair n o a ∧ ¬ F.stored (F.next n o a) f

/-- The steps of the decision loop that change findings, seen by the monitor. -/
structure Keeps (Inv : ν → Findings → Prop) : Prop where
  stored : ∀ n f, Inv n f → F.stored n f
  waiting : ∀ n f, Inv n f → Inv n (f.withState .waitingApproval)
  evidence : ∀ {n r} found, Inv n r.findings →
    F.Turns Inv n (.evidence r) (.ok found) (r.findings.withEvidence found.2).withCoverage
  change : ∀ {n r} entry, Inv n r.findings →
    F.Turns Inv n (.change r) (.ok entry) (r.findings.withEvidence [entry])
  rca : ∀ {n r} hypotheses, Inv n r.findings →
    F.Turns Inv n (.rca r) (.ok hypotheses)
      (r.findings.withLinks (hypothesisLinks r.incidentId 0 hypotheses))

/-- The same for the linear route, which derives nothing from what it finds. -/
structure KeepsLinear (Inv : ν → Findings → Prop) : Prop where
  stored : ∀ n f, Inv n f → F.stored n f
  evidence : ∀ {n r} found, Inv n r.findings →
    F.Turns Inv n (.evidence r) (.ok found) (r.findings.withEvidence found.2)
  change : ∀ {n r} entry, Inv n r.findings →
    F.Turns Inv n (.change r) (.ok entry) (r.findings.withEvidence [entry])
  rca : ∀ {n r} hypotheses, Inv n r.findings → F.Turns Inv n (.rca r) (.ok hypotheses) r.findings

end FlowMonitor

namespace Flow

variable {ν : Type} {F : FlowMonitor ν} {n : ν} {r : IncidentRecord} {α : Type}

/-! ### Parts without agents -/

theorem world_bind {α β : Type} (p : Handler α) (q : α → Handler β) :
    world (p.bind q) = (world p).bind fun a ↦ world (q a) := Prog.interp_bind p q

theorem world_issues {p : Handler α} (hp : p.Issues Op.storesNothing) : (world p).Issues fun o ↦
    ∀ a, F.monitor.left n o a ∧ F.monitor.right n o a ∧ F.monitor.next n o a = n := by
  refine Prog.Issues.interp (fun o ho ↦ ?_) hp
  refine ⟨fun a ↦ ?_, fun _ ↦ trivial⟩
  obtain ⟨hfair, hnext⟩ := F.uneventful n (.world o) a trivial
  refine ⟨?_, hfair, hnext⟩
  cases o with
  | write r => exact ho.elim
  | _ => trivial

/-- A part that stores nothing. -/
theorem world_agrees {p : Handler α} {R : α → Prop} (hp : p.Issues Op.storesNothing)
    (hR : p.Yields R) : (world p).Agrees F.monitor n fun a n' ↦ R a ∧ n' = n :=
  Prog.Agrees.of_issues (world_issues hp) hR.interp

/-- The findings are stored. -/
theorem world_write {R : α → ν → Prop} {k : Unit → FlowProg α} (h : F.stored n r.findings)
    (hk : (k ()).Agrees F.monitor n R) :
    (Prog.call (.world (.write r)) k).Agrees F.monitor n R := by
  refine Prog.Agrees.call (fun a _ ↦ ⟨h, ?_⟩) fun a hbad ↦
    absurd (F.uneventful n _ a trivial).1 hbad
  have hnext : F.monitor.next n (.world (.write r)) a = n := (F.uneventful n _ a trivial).2
  rw [hnext]
  exact hk

/-- What `upsert` does before it writes. -/
def prepare (r : IncidentRecord) : Handler IncidentRecord := do
  assign r
  let previous ← perform (.previous r.incidentId)
  validateStateTransition previous r
  let updatedAt ← perform .utcnow
  pure (stamp previous updatedAt r)

theorem save_eq (r : IncidentRecord) :
    save r = (prepare r).bind fun r' ↦ (perform (.write r')).bind fun _ ↦ pure r' := by
  simp only [save, upsert, prepare, Prog.bind_eq, Prog.bind_assoc]
  rfl

theorem prepare_issues (r : IncidentRecord) : (prepare r).Issues Op.storesNothing := by
  refine issues_bind (issues_perform trivial) fun _ ↦
    issues_bind (issues_perform trivial) fun previous ↦ issues_bind ?_ fun _ ↦
      issues_bind (issues_perform trivial) fun _ ↦ trivial
  cases previous with
  | none => trivial
  | some p => exact require_issues _ _

theorem prepare_yields (r : IncidentRecord) :
    (prepare r).Yields fun r' ↦ r'.findings = r.findings :=
  yields_perform_bind.mpr fun _ ↦ yields_perform_bind.mpr fun _ ↦
    Prog.Yields.rest fun _ ↦ yields_perform_bind.mpr fun _ ↦ rfl

theorem prepare_total (hstate : r.state = .investigating) : (prepare r).Total := by
  have htotal := save_total hstate
  rw [save_eq] at htotal
  exact htotal.of_bind

theorem save_agrees (h : F.stored n r.findings) :
    (world (save r)).Agrees F.monitor n fun r' n' ↦ r'.findings = r.findings ∧ n' = n := by
  rw [save_eq, world_bind]
  refine (world_agrees (prepare_issues r) (prepare_yields r)).bind fun r' n' hr' ↦ ?_
  obtain ⟨hr', rfl⟩ := hr'
  exact world_write (hr'.symm ▸ h) (Prog.Agrees.ret ⟨hr', rfl⟩)

/-- Findings that must not be stored, in a record that can be. -/
theorem save_fails (hstate : r.state = .investigating) (h : ¬ F.stored n r.findings) :
    (world (save r)).Fails F.monitor n := by
  rw [save_eq, world_bind]
  have htotal : (world (prepare r)).Total :=
    Prog.Total.interp (fun _ ↦ Prog.op_total _) (prepare_total hstate)
  refine Prog.Fails.of_issues_bind (world_issues (prepare_issues r)) htotal
    (prepare_yields r).interp fun r' hr' ↦ ?_
  exact Prog.Fails.of_left fun _ h' ↦ h (hr' ▸ h')

/-! ### Steps -/

theorem writeCheckpoint_agrees (worker : Bool) (step : String) (h : F.stored n r.findings) :
    (world (writeCheckpoint worker r step)).Agrees F.monitor n
      fun r' n' ↦ r'.findings = r.findings ∧ n' = n := by
  rw [writeCheckpoint, Prog.bind_eq, world_bind]
  have hstep := findings_withStep r step
  refine (save_agrees (hstep.symm ▸ h)).bind fun r' n' hr' ↦ ?_
  obtain ⟨hr', rfl⟩ := hr'
  refine world_agrees ?_ ?_
  · exact issues_bind (issues_perform trivial) fun _ ↦ trivial
  · exact yields_perform_bind.mpr fun _ ↦ hr'.trans hstep

theorem writeCheckpoint_fails (worker : Bool) (step : String) (hstate : r.state = .investigating)
    (h : ¬ F.stored n r.findings) : (world (writeCheckpoint worker r step)).Fails F.monitor n := by
  rw [writeCheckpoint, Prog.bind_eq, world_bind]
  have hstep := findings_withStep r step
  refine (save_fails ?_ (hstep.symm ▸ h)).bind
  exact (congrArg Findings.state hstep).trans hstate

variable {Inv : ν → Findings → Prop} (worker : Bool)

/-- While the loop runs, the incident is under investigation. -/
def Running (Inv : ν → Findings → Prop) (r : IncidentRecord) (n : ν) : Prop :=
  Inv n r.findings ∧ r.findings.state = .investigating

/-- The checkpoint after an answer. -/
theorem Turns.checkpoint {o : FlowOp} {a : FlowAns o} (h : F.Turns Inv n o a r.findings)
    (hstate : r.state = .investigating) (hstored : ∀ n f, Inv n f → F.stored n f)
    (step : String) :
    (F.fair n o a → (world (writeCheckpoint worker r step)).Agrees F.monitor (F.next n o a)
      (Running Inv)) ∧
    (¬ F.fair n o a →
      (world (writeCheckpoint worker r step)).Fails F.monitor (F.next n o a)) := by
  rcases h with ⟨hfair, hinv⟩ | ⟨hunfair, hspoilt⟩
  · refine ⟨fun _ ↦ ?_, fun hunfair ↦ absurd hfair hunfair⟩
    refine (writeCheckpoint_agrees worker step (hstored _ _ hinv)).mono fun r' n' hr' ↦ ?_
    obtain ⟨hr', rfl⟩ := hr'
    rw [Running, hr']
    exact ⟨hinv, hstate⟩
  · exact ⟨fun hfair ↦ absurd hfair hunfair,
      fun _ ↦ writeCheckpoint_fails worker step hstate hspoilt⟩

/-- An agent is asked. Only for some answers is there something to show. -/
theorem asked_agrees {o : FlowOp} {k : FlowAns o → FlowProg α} {R : α → ν → Prop}
    (hleft : ∀ a, F.monitor.left n o a)
    (hk : ∀ a, Uneventful o a ∧ (k a).Agrees F.monitor n R ∨
      (F.fair n o a → (k a).Agrees F.monitor (F.next n o a) R) ∧
        (¬ F.fair n o a → (k a).Fails F.monitor (F.next n o a))) :
    (Prog.call o k).Agrees F.monitor n R := by
  refine Prog.Agrees.call (fun a hfair ↦ ⟨hleft a, ?_⟩) fun a hunfair ↦ ⟨hleft a, ?_⟩
  · rcases hk a with ⟨hquiet, hagrees⟩ | ⟨hagrees, -⟩
    · have hnext : F.monitor.next n o a = n := (F.uneventful n o a hquiet).2
      rw [hnext]
      exact hagrees
    · exact hagrees hfair
  · rcases hk a with ⟨hquiet, -⟩ | ⟨-, hfails⟩
    · exact absurd (F.uneventful n o a hquiet).1 hunfair
    · exact hfails hunfair

theorem triageStep_agrees (hstored : ∀ n f, Inv n f → F.stored n f) (hr : Running Inv r n) :
    (triageStep worker r).Agrees F.monitor n (Running Inv) := by
  refine asked_agrees (fun _ ↦ trivial) fun answer ↦ Or.inl ⟨trivial, ?_⟩
  rcases answer with e | result
  · exact Prog.Agrees.raise e
  · have hcheckpoint := writeCheckpoint_agrees
      (r := r.withHypotheses [[("triage", .dict result)]]) worker "triage" (hstored _ _ hr.1)
    refine Prog.Agrees.mono (fun r' n' hr' ↦ ?_) hcheckpoint
    obtain ⟨hr', rfl⟩ := hr'
    rw [Running, hr']
    exact hr

theorem evidenceStep_agrees (hF : F.Keeps Inv) (hr : Running Inv r n) :
    (evidenceStep worker r).Agrees F.monitor n (Running Inv) := by
  refine asked_agrees (fun _ ↦ trivial) fun answer ↦ ?_
  rcases answer with e | found
  · exact Or.inl ⟨trivial, Prog.Agrees.raise e⟩
  · exact Or.inr (Turns.checkpoint (r := ((r.withTools found.1).withEvidence found.2).withCoverage)
      worker (hF.evidence (r := r) found hr.1) hr.2 hF.stored "evidence")

theorem changeStep_agrees (hstored : ∀ n f, Inv n f → F.stored n f)
    (hchange : ∀ entry, F.Turns Inv n (.change r) (.ok entry) (r.findings.withEvidence [entry]))
    (hstate : r.state = .investigating) :
    (changeStep worker r).Agrees F.monitor n (Running Inv) := by
  refine asked_agrees (fun _ ↦ trivial) fun answer ↦ ?_
  rcases answer with e | entry
  · exact Or.inl ⟨trivial, Prog.Agrees.raise e⟩
  · exact Or.inr (Turns.checkpoint (r := r.withEvidence [entry]) worker (hchange entry) hstate
      hstored "change")

theorem rcaStep_agrees (hF : F.Keeps Inv) (hr : Running Inv r n) :
    (rcaStep worker r).Agrees F.monitor n (Running Inv) := by
  refine asked_agrees (fun _ ↦ trivial) fun answer ↦ ?_
  rcases answer with e | hypotheses
  · exact Or.inl ⟨trivial, Prog.Agrees.raise e⟩
  · exact Or.inr (Turns.checkpoint (r := withAnalysis r hypotheses) worker
      (hF.rca (r := r) hypotheses hr.1) hr.2 hF.stored "rca")

theorem appendTrace_agrees (r : IncidentRecord) (phase message : String) :
    (world (appendTrace r phase message)).Agrees F.monitor n
      fun r' n' ↦ r'.findings = r.findings ∧ n' = n := by
  refine world_agrees ((appendTrace_issues r phase message).mono fun _ ↦ Op.ofAgent.storesNothing)
    ((appendTrace_yields r phase message).mono ?_)
  rintro _ ⟨entry, rfl⟩
  rfl

theorem plannerStep_agrees (hF : F.Keeps Inv) (hr : Running Inv r n) :
    (plannerStep worker r).Agrees F.monitor n fun r' n' ↦ Inv n' r'.findings := by
  refine asked_agrees (fun _ ↦ trivial) fun answer ↦ Or.inl ⟨trivial, ?_⟩
  rcases answer with e | planned
  · exact Prog.Agrees.raise e
  · have hcheckpoint := writeCheckpoint_agrees
      (r := withPlannedGraph (r.withConfidence planned.1) planned.2) worker "planned"
      (hF.stored _ _ (hF.waiting _ _ hr.1))
    change (world ((writeCheckpoint worker _ "planned").bind fun r' ↦
      appendTrace r' "plan" _)).Agrees F.monitor n _
    rw [world_bind]
    refine Prog.Agrees.bind hcheckpoint fun r' n' hr' ↦ ?_
    obtain ⟨hr', rfl⟩ := hr'
    refine Prog.Agrees.mono (fun r'' n'' hr'' ↦ ?_) (appendTrace_agrees r' _ _)
    obtain ⟨hr'', rfl⟩ := hr''
    rw [hr'', hr']
    exact hF.waiting _ _ hr.1

theorem runStep_agrees (hF : F.Keeps Inv) (hr : Running Inv r n) (step : String) :
    (runStep worker r step).Agrees F.monitor n fun a n' ↦
      Inv n' a.1.findings ∧ (a.2 = true → a.1.findings.state = .investigating) := by
  have hgoes {p : FlowProg IncidentRecord} (hp : p.Agrees F.monitor n (Running Inv)) :
      (p.bind fun r' ↦ pure (r', true)).Agrees F.monitor n fun a n' ↦
        Inv n' a.1.findings ∧ (a.2 = true → a.1.findings.state = .investigating) :=
    Prog.Agrees.bind hp fun r' n' hr' ↦ Prog.Agrees.ret ⟨hr'.1, fun _ ↦ hr'.2⟩
  have hstops (r' : IncidentRecord) (n' : ν) (hr' : Inv n' r'.findings) :
      (Prog.ret (r', false) : FlowProg _).Agrees F.monitor n' fun a n' ↦
        Inv n' a.1.findings ∧ (a.2 = true → a.1.findings.state = .investigating) :=
    Prog.Agrees.ret ⟨hr', fun h ↦ by cases h⟩
  unfold runStep
  split
  · exact hgoes (triageStep_agrees worker hF.stored hr)
  · exact hgoes (evidenceStep_agrees worker hF hr)
  · exact hgoes (changeStep_agrees worker hF.stored (fun entry ↦ hF.change entry hr.1) hr.2)
  · exact hgoes (rcaStep_agrees worker hF hr)
  · exact Prog.Agrees.bind (plannerStep_agrees worker hF hr) hstops
  · refine Prog.Agrees.bind (appendTrace_agrees r _ _) fun r' n' hr' ↦ hstops r' n' ?_
    obtain ⟨hr', rfl⟩ := hr'
    rw [hr']
    exact hr.1
  · exact hstops r n hr.1

theorem recordDecision_yields (r : IncidentRecord) (decision : RouterDecision) :
    (recordDecision r decision).Yields fun a ↦ a.1.findings = r.findings := by
  refine Prog.Yields.bind (persistDecision_yields _ _) ?_
  rintro r' ⟨record, rfl⟩
  refine Prog.Yields.bind (appendTrace_yields _ _ _) ?_
  rintro r'' ⟨entry, rfl⟩
  exact fun _ ↦ rfl

theorem recordDecision_issues (r : IncidentRecord) (decision : RouterDecision) :
    (recordDecision r decision).Issues Op.storesNothing :=
  issues_bind (issues_bind (issues_perform trivial) fun _ ↦
    issues_bind (issues_perform trivial) fun _ ↦ issues_bind (issues_perform trivial) fun _ ↦
      issues_bind (issues_perform trivial) fun _ ↦ trivial) fun _ ↦
    issues_bind ((appendTrace_issues _ _ _).mono fun _ ↦ Op.ofAgent.storesNothing) fun _ ↦
      issues_bind (issues_perform trivial) fun _ ↦ trivial

theorem decideNext_agrees (hr : Running Inv r n) (plan : ResponsePlan) :
    (decideNext r plan).Agrees F.monitor n fun a n' ↦ Running Inv a.1 n' := by
  have hassign : (world (assign (r.withIteration (r.workflowIteration + 1)))).Agrees F.monitor n
      fun _ n' ↦ True ∧ n' = n := world_agrees (issues_perform trivial) fun _ ↦ trivial
  refine Prog.Agrees.bind hassign fun _ n' hn ↦ ?_
  obtain rfl := hn.2
  refine asked_agrees (fun _ ↦ trivial) fun answer ↦ Or.inl ⟨trivial, ?_⟩
  rcases answer with e | raw
  · exact Prog.Agrees.raise e
  · refine Prog.Agrees.mono (fun a n'' ha ↦ ?_)
      (world_agrees (recordDecision_issues _ _) (recordDecision_yields _ _))
    obtain ⟨ha, rfl⟩ := ha
    rw [Running, ha]
    exact hr

theorem decisionLoop_agrees (hF : F.Keeps Inv) (plan : ResponsePlan) (k : ℕ) :
    ∀ {r : IncidentRecord} {n : ν}, Running Inv r n →
      (decisionLoop worker plan k r).Agrees F.monitor n fun r' n' ↦ Inv n' r'.findings := by
  induction k with
  | zero => exact fun hr ↦ Prog.Agrees.ret hr.1
  | succ k ih =>
    intro r n hr
    refine Prog.Agrees.bind (decideNext_agrees hr plan) fun decided n' hdecided ↦ ?_
    dsimp only
    split_ifs
    · refine Prog.Agrees.mono (fun r' n'' hr' ↦ ?_) (appendTrace_agrees decided.1 _ _)
      obtain ⟨hr', rfl⟩ := hr'
      rw [hr']
      exact hdecided.1
    · refine Prog.Agrees.bind (runStep_agrees worker hF hdecided _) fun stepped n'' hstepped ↦ ?_
      split_ifs with hgoes
      · refine Prog.Agrees.bind (save_agrees (hF.stored _ _ hstepped.1)) fun r' n'' hr' ↦ ?_
        obtain ⟨hr', rfl⟩ := hr'
        refine ih ?_
        rw [Running, hr']
        exact ⟨hstepped.1, hstepped.2 hgoes⟩
      · exact Prog.Agrees.ret hstepped.1

/-- The first checkpoint of both routes. -/
theorem match_agrees (hstored : ∀ n f, Inv n f → F.stored n f) (r' : IncidentRecord)
    (hmatch : r'.findings = r.findings.withState .investigating)
    (hr : Inv n (r.findings.withState .investigating)) :
    (world (writeCheckpoint worker r' "match")).Agrees F.monitor n (Running Inv) := by
  rw [← hmatch] at hr
  refine (writeCheckpoint_agrees worker "match" (hstored _ _ hr)).mono fun r'' n' hr'' ↦ ?_
  obtain ⟨hr'', rfl⟩ := hr''
  rw [Running, hr'']
  exact ⟨hr, congrArg Findings.state hmatch⟩

/-- The last write of both routes. -/
theorem routed_agrees (hstored : ∀ n f, Inv n f → F.stored n f) (hr : Inv n r.findings) :
    (world (save r.routed)).Agrees F.monitor n fun r' n' ↦ Inv n' r'.findings := by
  refine (save_agrees (r := r.routed) (hstored _ _ hr)).mono fun r' n' hr' ↦ ?_
  obtain ⟨hr', rfl⟩ := hr'
  rw [hr']
  exact hr

/-- How the linear route ends. -/
theorem explain_agrees (hF : F.KeepsLinear Inv) (hr : Running Inv r n) :
    ((Prog.op (FlowOp.rca r)).bind fun answer ↦ (Prog.ofExcept answer).bind fun hypotheses ↦
      (world (writeCheckpoint worker
        (r.withHypotheses (hypotheses.map RCAHypothesisItem.modelDump)) "rca")).bind fun incident ↦
          world (save incident.routed)).Agrees F.monitor n fun r' n' ↦ Inv n' r'.findings := by
  refine asked_agrees (fun _ ↦ trivial) fun answer ↦ ?_
  rcases answer with e | hypotheses
  · exact Or.inl ⟨trivial, Prog.Agrees.raise e⟩
  · have hcheckpoint := Turns.checkpoint
      (r := r.withHypotheses (hypotheses.map RCAHypothesisItem.modelDump)) worker
      (hF.rca (r := r) hypotheses hr.1) hr.2 hF.stored "rca"
    refine Or.inr ⟨fun hfair ↦ ?_, fun hunfair ↦ (hcheckpoint.2 hunfair).bind⟩
    change ((world _).bind _).Agrees _ _ _
    refine Prog.Agrees.bind (hcheckpoint.1 hfair) fun explained n hexplained ↦ ?_
    exact routed_agrees hF.stored hexplained.1

/-- **The rule for the linear route.** -/
theorem runLinearRoute_agrees (hF : F.KeepsLinear Inv) (cfg : Settings)
    (hr : Inv n (r.findings.withState .investigating)) :
    (runLinearRoute cfg worker r).Agrees F.monitor n fun r' n' ↦ Inv n' r'.findings := by
  refine Prog.Agrees.bind (match_agrees worker hF.stored (matchPlan cfg r) rfl hr)
    fun matched n hmatched ↦ ?_
  refine Prog.Agrees.bind (triageStep_agrees worker hF.stored hmatched) fun triaged n htriaged ↦ ?_
  refine asked_agrees (fun _ ↦ trivial) fun answer ↦ ?_
  rcases answer with e | found
  · exact Or.inl ⟨trivial, Prog.Agrees.raise e⟩
  · have hcheckpoint := Turns.checkpoint (r := (triaged.withTools found.1).withEvidence found.2)
      worker (hF.evidence (r := triaged) found htriaged.1) htriaged.2 hF.stored "evidence"
    refine Or.inr ⟨fun hfair ↦ ?_, fun hunfair ↦ (hcheckpoint.2 hunfair).bind⟩
    change ((world _).bind _).Agrees _ _ _
    refine Prog.Agrees.bind (hcheckpoint.1 hfair) fun gathered n hgathered ↦ ?_
    refine Prog.Agrees.bind (changeStep_agrees worker hF.stored
      (fun entry ↦ hF.change entry hgathered.1) hgathered.2) fun changed n hchanged ↦ ?_
    exact explain_agrees worker hF hchanged

/-- **The rule for the decision loop.** -/
theorem runDecisionLoopRoute_agrees (hF : F.Keeps Inv) (cfg : Settings)
    (hr : Inv n (r.findings.withState .investigating)) :
    (runDecisionLoopRoute cfg worker r).Agrees F.monitor n fun r' n' ↦ Inv n' r'.findings := by
  refine Prog.Agrees.bind (match_agrees worker hF.stored
    ((matchPlan cfg r).withIteration 0) rfl hr) fun r' n' hrunning ↦ ?_
  refine Prog.Agrees.bind (decisionLoop_agrees worker hF _ _ hrunning) fun r'' n'' hr'' ↦ ?_
  exact routed_agrees hF.stored hr''

end Flow

end IncidentPlatform
