import IncidentPlatform.Api.Outcome
import IncidentPlatform.Workflow.Jobs

/-!
# The audit log follows the records

The store and the audit log are written separately, and a handler can stop between the two. What
the code keeps is an order: an event that reports a change is appended after the record that has
the change was written. So whatever interleaves, and whatever stops midway, each event of the log
is attested by a written record, **`events_attested`**. The exceptions are events that report no
change: a decision of the router, what an adapter answered, a duplicate alert. In fallback mode all
handlers share one object for an incident, and one may save what another has just assigned; there
the calls have to come one after the other.

The contract remembers the record that its thread wrote last. An event may be appended if that
record attests it.
-/

namespace IncidentPlatform

open Interaction

/-! ## Attested events -/

/-- What an event reports is so in the record. -/
inductive Attests (r : IncidentRecord) : String → Dict → Prop
  | alertCreated (requestId : String) :
    Attests r "alert_created" (alertPayload r r.metadata.dedupeKey requestId)
  | checkpoint (worker : Bool) {step : String} (h : step ∈ r.agentPath) :
    Attests r "workflow_checkpoint" (checkpointPayload worker r.incidentId step)
  | routed {plan : ResponsePlan} (h : r.responsePlan = some plan) :
    Attests r "incident_routed"
      [("incident_id", .str r.incidentId), ("response_plan", .dict plan.modelDump)]
  | jobCompleted :
    Attests r "worker_job_completed"
      [("incident_id", .str r.incidentId), ("state", .str r.state.value)]
  | planCreated (hgraph : r.pendingActionGraph.isSome) (hstate : r.state = .waitingApproval) :
    Attests r "remediation_plan_created" [("incident_id", .str r.incidentId)]
  | approvalRecorded {approval : ApprovalRecord} (h : r.approvals.getLast? = some approval)
      (hstate : r.state = if approval.approved then .planned else .waitingApproval) :
    Attests r "approval_recorded" (approvalPayload r.incidentId approval)
  | blocked (h : r.blockedActions ≠ []) (actionId : String) {decision : PolicyDecision}
      (hdenied : decision.allowed = false) :
    Attests r "action_blocked"
      [("incident_id", .str r.incidentId), ("action_id", .str actionId),
        ("reason", .str decision.reason), ("decision_id", .str decision.decisionId),
        ("policy_rule_id", optionText decision.ruleId),
        ("deny_reason_code", optionText decision.denyReasonCode)]
  | executed {result : ActionResult} (h : r.executedActions.getLast? = some result)
      {payload : ExecutePayload} (haction : result.actionId = payload.action.actionId)
      (decision : PolicyDecision) :
    Attests r "action_executed" (executedPayload r.incidentId payload decision result.success)
  | escalated {result : ActionResult} (h : r.executedActions.getLast? = some result)
      (hfailed : result.success = false) (decisionId : String) :
    Attests r "execution_escalation_triggered"
      [("incident_id", .str r.incidentId), ("action_id", .str result.actionId),
        ("decision_id", .str decisionId)]

/-- The events that report no change of a record. -/
def announcements : List String :=
  ["router_decision", "adapter_execution", "post_action_verification", "alert_deduplicated",
    "worker_job_failed"]

/-- An event that reports no change, or one of an execution that was refused before it started. -/
inductive Announces : String → Dict → Prop
  | announced {eventType : String} (h : eventType ∈ announcements) (payload : Dict) :
    Announces eventType payload
  | refused {payload : Dict} (h : ("reason", .str "investigate_only") ∈ payload) :
    Announces "action_blocked" payload

/-! ## The contract -/

/-- An event is announced, or the thread's last write attests it. -/
def trailContract : Contract Op Ans (Option IncidentRecord) where
  guar last
    | .audit eventType payload =>
      Announces eventType payload ∨ ∃ r ∈ last, Attests r eventType payload
    | _ => True
  rely _
    | .get incidentId, answer => ∀ r ∈ answer, r.incidentId = incidentId
    | _, _ => True
  next last
    | .write r, _ => some r
    | _, _ => last

/-- A handler whose events are attested, and its result with the record it wrote last. -/
abbrev Trails {α : Type} (p : Handler α) (R : α → Option IncidentRecord → Prop)
    (last : Option IncidentRecord) : Prop :=
  p.Meets trailContract (Prog.Returning R) last

/-- The operations that write nothing and report no change. -/
def Op.unsaved : Op → Prop
  | .write _ => False
  | .audit eventType payload => Announces eventType payload
  | _ => True

/-- The operations of the agents that assign. -/
def Op.ofDraft : Op → Prop
  | .touch _ => True
  | o => o.ofAgent

/-- The operations of an execution between what it reads and what it saves. -/
def Op.ofExecution : Op → Prop
  | .accepted _ _ _ | .claim _ _ | .registryRun _ | .verifyRecovery => True
  | .audit eventType _ => eventType = "adapter_execution" ∨ eventType = "post_action_verification"
  | o => o.ofDraft

section

variable {α β : Type} {last : Option IncidentRecord}

theorem agent_ofDraft {p : Handler α} (h : p.Issues Op.ofAgent) : p.Issues Op.ofDraft :=
  h.mono fun o ho ↦ by cases o <;> trivial

theorem draft_ofExecution {p : Handler α} (h : p.Issues Op.ofDraft) : p.Issues Op.ofExecution :=
  h.mono fun o ho ↦ by cases o <;> trivial

theorem execution_unsaved {p : Handler α} (h : p.Issues Op.ofExecution) : p.Issues Op.unsaved := by
  refine h.mono fun o ho ↦ ?_
  cases o with
  | write r => exact ho
  | audit eventType payload =>
    refine .announced ?_ payload
    rcases ho with rfl | rfl <;> decide
  | _ => trivial

theorem draft_unsaved {p : Handler α} (h : p.Issues Op.ofDraft) : p.Issues Op.unsaved :=
  execution_unsaved (draft_ofExecution h)

theorem agent_unsaved {p : Handler α} (h : p.Issues Op.ofAgent) : p.Issues Op.unsaved :=
  draft_unsaved (agent_ofDraft h)

theorem Trails.perform_bind {o : Op} {f : Ans o → Handler β} {R : β → Option IncidentRecord → Prop}
    (ho : trailContract.guar last o)
    (hf : ∀ a, trailContract.rely last o a → Trails (f a) R (trailContract.next last o a)) :
    Trails (perform o >>= f) R last :=
  Prog.Meets.call ho (fun _ _ h ↦ h) hf

/-- A part that writes nothing. -/
theorem Trails.unsaved {p : Handler α} {R : α → Prop} (hp : p.Issues Op.unsaved) (hR : p.Yields R) :
    Trails p (fun a last' ↦ last' = last ∧ R a) last := by
  have hguar (o : Op) (ho : o.unsaved) : trailContract.guar last o := by
    cases o with
    | audit eventType payload => exact Or.inl ho
    | _ => trivial
  have hnext (o : Op) (a : Ans o) (ho : o.unsaved) : trailContract.next last o a = last := by
    cases o with
    | write r => exact ho.elim
    | _ => rfl
  exact Prog.Meets.quiet hguar (fun _ _ _ _ h ↦ h) hnext hp hR

theorem Trails.unsaved_bind {p : Handler α} {f : α → Handler β} {R : α → Prop}
    {S : β → Option IncidentRecord → Prop} (hp : p.Issues Op.unsaved) (hR : p.Yields R)
    (hf : ∀ a, R a → Trails (f a) S last) : Trails (p >>= f) S last :=
  Prog.Meets.quiet_bind (Trails.unsaved hp hR) hf

theorem Trails.mono {p : Handler α} {R S : α → Option IncidentRecord → Prop} (h : Trails p R last)
    (hRS : ∀ a last', R a last' → S a last') : Trails p S last :=
  Prog.Meets.returning_mono hRS h

theorem Trails.true {p : Handler α} {R : α → Option IncidentRecord → Prop} (h : Trails p R last) :
    Trails p (fun _ _ ↦ True) last := h.mono fun _ _ _ ↦ trivial

/-- A part of which nothing is needed later. -/
theorem Trails.then {p : Handler α} {f : α → Handler β} {R : β → Option IncidentRecord → Prop}
    (h : Trails p (fun _ _ ↦ True) last) (hf : ∀ a last', Trails (f a) R last') :
    Trails (p >>= f) R last :=
  Prog.Meets.returning_bind h fun a last' _ ↦ hf a last'

theorem Trails.yielding {p : Handler α} {R : α → Option IncidentRecord → Prop} {S : α → Prop}
    (h : Trails p R last) (hS : p.Yields S) : Trails p (fun a last' ↦ R a last' ∧ S a) last :=
  Prog.Meets.returning_yielding h hS

/-- An event of the record that was written last. -/
theorem Trails.audit_bind {r : IncidentRecord} {eventType : String} {payload : Dict}
    {f : Unit → Handler β} {R : β → Option IncidentRecord → Prop}
    (h : Attests r eventType payload) (hf : Trails (f ()) R (some r)) :
    Trails (perform (.audit eventType payload) >>= f) R (some r) :=
  Trails.perform_bind (Or.inr ⟨r, rfl, h⟩) fun _ _ ↦ hf

/-- An event that is announced. -/
theorem Trails.announce_bind {eventType : String} {payload : Dict} {f : Unit → Handler β}
    {R : β → Option IncidentRecord → Prop} (h : Announces eventType payload)
    (hf : Trails (f ()) R last) : Trails (perform (.audit eventType payload) >>= f) R last :=
  Trails.perform_bind (Or.inl h) fun _ _ ↦ hf

end

/-! ## Saving -/

/-- The record a save returns: the saved one with a new stamp, and the last one written. -/
def LastWritten (r : IncidentRecord) (r' : IncidentRecord) (last : Option IncidentRecord) : Prop :=
  last = some r' ∧ ∃ previous updatedAt, r' = stamp previous updatedAt r

section

variable {cfg : Settings} {r : IncidentRecord} {last : Option IncidentRecord}

theorem validateStateTransition_unsaved (previous : Option IncidentRecord) (r : IncidentRecord) :
    (validateStateTransition previous r).Issues Op.unsaved := by
  cases previous with
  | none => trivial
  | some p => exact require_issues _ _

theorem upsert_trails : Trails (upsert r) (LastWritten r) last :=
  Trails.perform_bind trivial fun previous _ ↦
    Trails.unsaved_bind (validateStateTransition_unsaved previous r) (Prog.Yields.true _) fun _ _ ↦
      Trails.perform_bind trivial fun updatedAt _ ↦
        Trails.perform_bind trivial fun _ _ ↦ ⟨rfl, previous, updatedAt, rfl⟩

theorem save_trails : Trails (save r) (LastWritten r) last :=
  Trails.perform_bind trivial fun _ _ ↦ upsert_trails

theorem mem_agentPath_withStep (r : IncidentRecord) (step : String) :
    step ∈ (r.withStep step).agentPath := by
  rw [IncidentRecord.withStep]
  split_ifs with h
  · exact h
  · exact List.mem_append_right _ (List.mem_singleton_self step)

theorem writeCheckpoint_trails (worker : Bool) (step : String) :
    Trails (writeCheckpoint worker r step) (fun _ _ ↦ True) last := by
  refine Prog.Meets.returning_bind save_trails ?_
  rintro _ _ ⟨rfl, previous, updatedAt, rfl⟩
  exact Trails.audit_bind (.checkpoint worker (mem_agentPath_withStep r step)) trivial

/-! ## The routes -/

theorem collectKey_ofDraft (wanted : Bool) (key : String) (tool : ActionType)
    (state : IncidentRecord × RawEvidence) :
    (collectKey wanted key tool state).Issues Op.ofDraft := by
  rw [collectKey]
  split_ifs
  · exact issues_bind (agent_ofDraft (toolOp_issues _ _ _)) fun _ ↦
      issues_bind (issues_perform trivial) fun _ ↦ trivial
  · trivial

theorem gatherEvidence_ofDraft : (gatherEvidence cfg r).Issues Op.ofDraft := by
  refine issues_bind (issues_bind (collectKey_ofDraft _ _ _ _) fun _ ↦
    issues_bind (collectKey_ofDraft _ _ _ _) fun _ ↦
    issues_bind (collectKey_ofDraft _ _ _ _) fun _ ↦
    issues_bind (collectKey_ofDraft _ _ _ _) fun _ ↦ ?_) fun _ ↦
      issues_bind (agent_ofDraft (evidenceEntries_issues _ _ _)) fun _ ↦ trivial
  split_ifs
  · exact issues_bind (agent_ofDraft (toolOp_issues _ _ _)) fun _ ↦
      issues_bind (agent_ofDraft (toolOp_issues _ _ _)) fun _ ↦
      issues_bind (issues_perform trivial) fun _ ↦ trivial
  · trivial

theorem planRemediation_ofDraft : (planRemediation cfg r).Issues Op.ofDraft := by
  have hstub (r : IncidentRecord) : (stubGraph cfg r).Issues Op.ofDraft :=
    agent_ofDraft (stubGraph_issues cfg r)
  rw [planRemediation]
  split
  · exact hstub r
  · split
    · refine issues_bind (issues_perform trivial) fun answer ↦ ?_
      rcases answer with f | out
      · exact fallBack_issues cfg f (hstub r)
      · refine issues_bind (agent_ofDraft (clampActions_issues _ _ _)) fun actions ↦ ?_
        split_ifs
        · exact issues_bind (issues_perform trivial) fun _ ↦ fallBack_issues cfg _ (hstub _)
        · exact issues_bind (agent_ofDraft (plannedGraph_issues _ _)) fun _ ↦ trivial
    · split_ifs
      · exact hstub r
      · trivial

theorem triageStep_trails (worker : Bool) :
    Trails (triageStep cfg worker r) (fun _ _ ↦ True) last :=
  Trails.unsaved_bind (agent_unsaved (triage_issues cfg r)) (Prog.Yields.true _) fun _ _ ↦
    writeCheckpoint_trails worker "triage"

theorem changeStep_trails (worker : Bool) :
    Trails (changeStep cfg worker r) (fun _ _ ↦ True) last :=
  Trails.unsaved_bind (agent_unsaved (correlateChanges_issues cfg r)) (Prog.Yields.true _)
    fun _ _ ↦ writeCheckpoint_trails worker "change"

theorem evidenceStep_trails (worker : Bool) :
    Trails (evidenceStep cfg worker r) (fun _ _ ↦ True) last :=
  Trails.unsaved_bind (draft_unsaved gatherEvidence_ofDraft) (Prog.Yields.true _) fun _ _ ↦
    writeCheckpoint_trails worker "evidence"

theorem rcaStep_trails (worker : Bool) :
    Trails (rcaStep cfg worker r) (fun _ _ ↦ True) last :=
  Trails.unsaved_bind (agent_unsaved (analyzeRootCause_issues cfg r)) (Prog.Yields.true _)
    fun _ _ ↦ writeCheckpoint_trails worker "rca"

theorem appendTrace_trails (phase message : String) :
    Trails (appendTrace r phase message) (fun _ _ ↦ True) last :=
  (Trails.unsaved (agent_unsaved (appendTrace_issues r phase message)) (Prog.Yields.true _)).true

theorem plannerStep_trails (worker : Bool) :
    Trails (plannerStep cfg worker r) (fun _ _ ↦ True) last :=
  Trails.unsaved_bind (draft_unsaved planRemediation_ofDraft) (Prog.Yields.true _) fun _ _ ↦
    (writeCheckpoint_trails worker "planned").then fun _ _ ↦ appendTrace_trails _ _

theorem runStep_trails (worker : Bool) (step : String) :
    Trails (runStep cfg worker r step) (fun _ _ ↦ True) last := by
  unfold runStep
  split
  · exact (triageStep_trails worker).then fun _ _ ↦ trivial
  · exact (evidenceStep_trails worker).then fun _ _ ↦ trivial
  · exact (changeStep_trails worker).then fun _ _ ↦ trivial
  · exact (rcaStep_trails worker).then fun _ _ ↦ trivial
  · exact (plannerStep_trails worker).then fun _ _ ↦ trivial
  · exact (appendTrace_trails _ _).then fun _ _ ↦ trivial
  · trivial

/-- A decision is only announced. -/
theorem decideNext_unsaved (plan : ResponsePlan) : (decideNext cfg r plan).Issues Op.unsaved :=
  issues_bind (issues_perform trivial) fun _ ↦
    issues_bind (agent_unsaved (computeRouterDecision_issues cfg _ plan)) fun _ ↦
      issues_bind (issues_bind (issues_perform trivial) fun _ ↦
        issues_bind (issues_perform trivial) fun _ ↦ issues_bind (issues_perform trivial) fun _ ↦
          issues_bind (issues_perform (.announced (by decide) _)) fun _ ↦ trivial) fun _ ↦
        issues_bind (agent_unsaved (appendTrace_issues _ _ _)) fun _ ↦
          issues_bind (issues_perform trivial) fun _ ↦ trivial

theorem decisionLoop_trails (worker : Bool) (plan : ResponsePlan) (n : ℕ) :
    ∀ {r : IncidentRecord} {last : Option IncidentRecord},
      Trails (decisionLoop cfg worker plan n r) (fun _ _ ↦ True) last := by
  induction n with
  | zero => exact trivial
  | succ n ih =>
    intro r last
    refine Trails.unsaved_bind (decideNext_unsaved plan) (Prog.Yields.true _) fun decided _ ↦ ?_
    dsimp only
    split_ifs
    · exact appendTrace_trails _ _
    · refine (runStep_trails worker _).then fun stepped _ ↦ ?_
      split_ifs
      · exact save_trails.true.then fun _ _ ↦ ih
      · trivial

/-- A route returns the record it wrote last. -/
theorem executeRoute_trails (worker : Bool) :
    Trails (executeRoute cfg worker r) (fun r' last' ↦ last' = some r') last := by
  have hsave {r' : IncidentRecord} {last' : Option IncidentRecord} :
      Trails (save r') (fun r'' last'' ↦ last'' = some r'') last' :=
    save_trails.mono fun _ _ h ↦ h.1
  rw [executeRoute]
  split_ifs
  · exact (writeCheckpoint_trails worker "match").then fun _ _ ↦
      (decisionLoop_trails worker _ _).then fun _ _ ↦ hsave
  · exact (writeCheckpoint_trails worker "match").then fun _ _ ↦
      (triageStep_trails worker).then fun _ _ ↦
        Trails.unsaved_bind (draft_unsaved gatherEvidence_ofDraft) (Prog.Yields.true _) fun _ _ ↦
          (writeCheckpoint_trails worker "evidence").then fun _ _ ↦
            (changeStep_trails worker).then fun _ _ ↦
              Trails.unsaved_bind (agent_unsaved (analyzeRootCause_issues cfg _))
                (Prog.Yields.true _) fun _ _ ↦
                  (writeCheckpoint_trails worker "rca").then fun _ _ ↦ hsave

end

/-! ## The handlers -/

section

variable {cfg : Settings} {r : IncidentRecord} {α : Type} {last : Option IncidentRecord}

/-- The record that is looked up, or a 404. -/
theorem getOrHttp_trails {β : Type} {R : β → Option IncidentRecord → Prop} (incidentId : String)
    (status : ℕ) (detail : String) {f : IncidentRecord → Handler β}
    (hf : ∀ r, r.incidentId = incidentId → Trails (f r) R last) :
    Trails (do
      let r ← orHttp (← perform (.get incidentId)) status detail
      f r) R last :=
  Trails.perform_bind trivial fun answer hread ↦
    Trails.unsaved_bind (orHttp_issues answer status detail) (orHttp_yields answer status detail)
      fun r hr ↦ hf r (hread r hr)

theorem ensure_bind_trails {β : Type} {b : Bool} {status : ℕ} {detail : String}
    {f : Unit → Handler β} {R : β → Option IncidentRecord → Prop} (hf : Trails (f ()) R last) :
    Trails (ensure b status detail >>= f) R last :=
  Trails.unsaved_bind (ensure_issues b status detail) (Prog.Yields.true _) fun _ _ ↦ hf

theorem orHttp_bind_trails {β : Type} {a : Option α} {status : ℕ} {detail : String}
    {f : α → Handler β} {R : β → Option IncidentRecord → Prop}
    (hf : ∀ x, a = some x → Trails (f x) R last) : Trails (orHttp a status detail >>= f) R last :=
  Trails.unsaved_bind (orHttp_issues a status detail) (orHttp_yields a status detail) hf

theorem discard_trails {p : Handler α} {R : α → Option IncidentRecord → Prop}
    (h : Trails p R last) : Trails (discard p) (fun _ _ ↦ True) last :=
  h.true.then fun _ _ ↦ trivial

theorem normalize_unsaved (payload : IngestPayload) : (normalize cfg payload).Issues Op.unsaved :=
  ⟨trivial, fun _ ↦ ⟨trivial, fun _ ↦ ⟨trivial, fun _ ↦ ⟨trivial, fun _ ↦ trivial⟩⟩⟩⟩

theorem existingIncident_unsaved (dedupeKey : String) :
    (existingIncident dedupeKey).Issues Op.unsaved :=
  issues_perform_bind.mpr ⟨trivial, fun answer ↦ orHttp_issues answer _ _⟩

theorem ingest_trails (payload : IngestPayload) :
    Trails (ingest cfg payload) (fun _ _ ↦ True) last := by
  refine Trails.unsaved_bind (normalize_unsaved payload) (Prog.Yields.true _) fun r _ ↦
    Trails.perform_bind trivial fun firstSeen _ ↦ ?_
  split_ifs
  · exact upsert_trails.true
  · exact (Trails.unsaved (existingIncident_unsaved _) (Prog.Yields.true _)).true

theorem createAlert_trails (payload : IngestPayload) (requestId : String) :
    Trails (createAlert cfg payload requestId) (fun _ _ ↦ True) last := by
  refine Trails.unsaved_bind (normalize_unsaved payload) (Prog.Yields.true _) fun r _ ↦
    Trails.perform_bind trivial fun firstSeen _ ↦ ?_
  split_ifs
  · refine Prog.Meets.returning_bind upsert_trails ?_
    rintro created _ ⟨rfl, -⟩
    exact Trails.audit_bind (.alertCreated requestId) trivial
  · exact Trails.unsaved_bind (existingIncident_unsaved _) (Prog.Yields.true _) fun _ _ ↦
      Trails.announce_bind (.announced (by decide) _) trivial

theorem routeLocked_trails {incidentId : String} (hr : r.incidentId = incidentId) :
    Trails (routeLocked cfg incidentId r) (fun _ _ ↦ True) last := by
  subst hr
  refine Prog.Meets.returning_bind
    ((executeRoute_trails false).yielding (executeRoute_incidentId cfg false r)) ?_
  rintro updated _ ⟨rfl, hid⟩
  refine orHttp_bind_trails fun plan hplan ↦ ?_
  rw [← hid]
  exact Trails.audit_bind (.routed hplan) trivial

theorem routeIncident_trails (incidentId : String) :
    Trails (routeIncident cfg incidentId) (fun _ _ ↦ True) last := by
  refine Trails.perform_bind trivial fun hex _ ↦ Trails.perform_bind trivial fun acquired _ ↦
    ensure_bind_trails (Trails.perform_bind trivial fun found hread ↦ ?_)
  cases found with
  | none => exact Trails.perform_bind trivial fun _ _ ↦ trivial
  | some r =>
    have hrelease (key token : String) (last' : Option IncidentRecord) :
        Trails (discard (perform (.releaseLock key token))) (fun _ _ ↦ True) last' :=
      Trails.perform_bind trivial fun _ _ ↦ trivial
    exact Prog.Meets.cleanup_true (fun _ _ _ _ h ↦ h) (hrelease _ _)
      (routeLocked_trails (hread r rfl))

theorem processIncident_trails (incidentId : String) :
    Trails (processIncident cfg incidentId) (fun _ _ ↦ True) last := by
  refine Trails.perform_bind trivial fun found _ ↦ ?_
  cases found with
  | none => exact Trails.announce_bind (.announced (by decide) _) trivial
  | some r =>
    refine Prog.Meets.returning_bind (executeRoute_trails true) ?_
    rintro updated _ rfl
    exact Trails.audit_bind .jobCompleted trivial

theorem createPlan_trails (incidentId : String) :
    Trails (createPlan cfg incidentId) (fun _ _ ↦ True) last := by
  refine getOrHttp_trails incidentId _ _ fun r hr ↦
    Trails.unsaved_bind (draft_unsaved planRemediation_ofDraft)
      (Flow.planRemediation_withConfidence cfg r) fun planned hplanned ↦
        Prog.Meets.returning_bind save_trails ?_
  rintro _ _ ⟨rfl, previous, updatedAt, rfl⟩
  have hid : (withPlan planned.1 planned.2).incidentId = incidentId := by
    rw [← hr, withPlan, hplanned]
    rfl
  refine hid ▸ Trails.audit_bind (.planCreated ?_ ?_) trivial
  · exact rfl
  · exact rfl

theorem investigateIncident_trails (incidentId : String) :
    Trails (investigateIncident cfg incidentId) (fun _ _ ↦ True) last :=
  (routeIncident_trails incidentId).then fun _ _ ↦ (createPlan_trails incidentId).then fun _ _ ↦
    Trails.perform_bind trivial fun answer _ ↦
      (Trails.unsaved (orHttp_issues answer _ _) (Prog.Yields.true _)).true

theorem recordApproval_trails (incidentId : String) (payload : ApprovalPayload) :
    Trails (recordApproval incidentId payload) (fun _ _ ↦ True) last := by
  refine getOrHttp_trails incidentId _ _ fun r hr ↦ ensure_bind_trails <| ensure_bind_trails <|
    Trails.perform_bind trivial fun _ _ ↦ Trails.perform_bind trivial fun _ _ ↦
      Trails.perform_bind trivial fun _ _ ↦
        Trails.unsaved_bind (require_issues _ _) (Prog.Yields.true _) fun _ _ ↦
          Trails.perform_bind trivial fun _ _ ↦ Prog.Meets.returning_bind save_trails ?_
  rintro _ _ ⟨rfl, previous, updatedAt, rfl⟩
  subst hr
  exact Trails.audit_bind (.approvalRecorded (List.getLast?_concat ..) rfl) trivial

theorem approveIncident_trails (incidentId : String) (payload : IncidentApprovalPayload) :
    Trails (approveIncident incidentId payload) (fun _ _ ↦ True) last :=
  getOrHttp_trails incidentId _ _ fun _ _ ↦ orHttp_bind_trails fun _ _ ↦
    recordApproval_trails incidentId _

end

/-! ### Execution -/

section

variable {cfg : Settings} {r : IncidentRecord} {last : Option IncidentRecord}

theorem mem_blockedActions_withBlocked (r : IncidentRecord) (actionType : ActionType) :
    actionType ∈ (withBlocked r actionType).blockedActions := by
  rw [withBlocked]
  split_ifs with h
  · exact h
  · exact List.mem_append_right _ (List.mem_singleton_self actionType)

theorem blockInvestigateOnly_trails (incidentId : String) (payload : ExecutePayload) :
    Trails (blockInvestigateOnly cfg incidentId r payload) (fun _ _ ↦ True) last := by
  rw [blockInvestigateOnly]
  cases investigateOnlyBlock cfg r with
  | none => trivial
  | some decision =>
    exact Trails.announce_bind (.refused (by simp)) (save_trails.true.then fun _ _ ↦ trivial)

theorem blockDenied_trails (payload : ExecutePayload) (decision : PolicyDecision) :
    Trails (blockDenied r.incidentId r payload decision) (fun _ _ ↦ True) last := by
  rw [blockDenied]
  split_ifs with hallowed
  · trivial
  refine Prog.Meets.returning_bind save_trails ?_
  rintro _ _ ⟨rfl, previous, updatedAt, rfl⟩
  rw [← withBlocked_incidentId r payload.action.actionType]
  refine Trails.audit_bind (.blocked ?_ payload.action.actionId (by simpa using hallowed)) trivial
  exact List.ne_nil_of_mem (mem_blockedActions_withBlocked r payload.action.actionType)

theorem acceptApproval_ofExecution (payload : ExecutePayload) (decision : PolicyDecision) :
    (acceptApproval r payload decision).Issues Op.ofExecution := by
  rw [acceptApproval]
  split_ifs
  · refine issues_bind ?_ fun _ ↦ issues_perform trivial
    exact issues_bind (orHttp_issues _ _ _) fun _ ↦ issues_bind (orHttp_issues _ _ _) fun _ ↦
      issues_bind (ensure_issues _ _ _) fun _ ↦ issues_bind (issues_perform trivial) fun _ ↦
      issues_bind (ensure_issues _ _ _) fun _ ↦ issues_bind (orHttp_issues _ _ _) fun _ ↦
      issues_bind (ensure_issues _ _ _) fun _ ↦ issues_bind (ensure_issues _ _ _) fun _ ↦
      issues_bind (ensure_issues _ _ _) fun _ ↦ trivial
  · trivial

theorem authorize_trails (incidentId : String) (payload : ExecutePayload) :
    Trails (authorize cfg incidentId payload) (fun g _ ↦ g.incident.incidentId = incidentId)
      last := by
  refine getOrHttp_trails incidentId _ _ fun r hr ↦ orHttp_bind_trails fun plan _ ↦
    ensure_bind_trails ?_
  subst hr
  refine (blockInvestigateOnly_trails _ payload).then fun _ _ ↦ ensure_bind_trails <|
    Trails.unsaved_bind (p := policyDecision cfg r plan payload) ?_ (Prog.Yields.true _)
      fun decision _ ↦ (blockDenied_trails payload decision).then fun _ _ ↦
        Trails.unsaved_bind (execution_unsaved (acceptApproval_ofExecution payload decision))
          (Prog.Yields.true _) fun _ _ ↦ rfl
  exact ⟨trivial, fun _ ↦ ⟨trivial, fun _ ↦ trivial⟩⟩

theorem execute_ofExecution (action : ActionRequest) : (execute action).Issues Op.ofExecution := by
  refine issues_perform_bind.mpr ⟨trivial, fun claimed ↦ ?_⟩
  rcases claimed with f | claimed
  · trivial
  cases claimed
  · trivial
  refine issues_bind ((runWithRetries_issues action _).mono fun o ho ↦ ?_) fun _ ↦
    issues_bind (issues_perform (Or.inl rfl)) fun _ ↦ trivial
  rw [ho]
  trivial

theorem verifyActionRecovery_ofExecution (action : ActionRequest) :
    (verifyActionRecovery cfg action).Issues Op.ofExecution := by
  rw [verifyActionRecovery]
  split_ifs
  · trivial
  · exact issues_perform_bind.mpr ⟨trivial, fun answer ↦
      issues_bind (orRaise_issues answer) fun _ ↦ trivial⟩
  · trivial

theorem performAction_ofExecution (incidentId : String) (action : ActionRequest) :
    (performAction cfg incidentId action r).Issues Op.ofExecution := by
  have htrace (phase message : String) (success : Option Bool) (replan : Bool) :
      (newTraceEntry phase message (some action.actionId) success replan).Issues Op.ofExecution :=
    draft_ofExecution (agent_ofDraft (newTraceEntry_issues _ _ _ _ _))
  refine issues_bind (htrace _ _ _ _) fun _ ↦ issues_bind (issues_perform trivial) fun _ ↦
    issues_bind (issues_bind (issues_perform trivial) fun _ ↦
      issues_bind (execute_ofExecution action) fun _ ↦ issues_bind (issues_perform trivial) fun _ ↦
        trivial) fun result ↦
    issues_bind (htrace _ _ _ _) fun _ ↦ issues_bind (issues_perform trivial) fun _ ↦ ?_
  rw [verifyPerformed]
  split_ifs
  · exact issues_bind (verifyActionRecovery_ofExecution action) fun _ ↦
      issues_bind (htrace _ _ _ _) fun _ ↦ issues_bind (issues_perform trivial) fun _ ↦
      issues_bind (issues_perform (Or.inr rfl)) fun _ ↦ trivial
  · trivial

/-- An action that was run, with its result recorded. -/
structure PerformedOn (r : IncidentRecord) (actionId : String) (o : Performed) : Prop where
  incidentId : o.incident.incidentId = r.incidentId
  recorded : o.incident.executedActions.getLast? = some o.result
  actionId : o.result.actionId = actionId

theorem performAction_ran (incidentId : String) (action : ActionRequest) :
    (performAction cfg incidentId action r).Yields (PerformedOn r action.actionId) := by
  have hresult : (executionAgentRun action).Yields fun result ↦ result.actionId = action.actionId :=
    yields_perform_bind.mpr fun _ ↦
      Prog.Yields.bind (Prog.Yields.true (execute action)) fun _ _ _ ↦ rfl
  refine Prog.Yields.rest fun _ ↦ yields_perform_bind.mpr fun _ ↦
    Prog.Yields.bind hresult fun result hid ↦ Prog.Yields.rest fun _ ↦
      yields_perform_bind.mpr fun _ ↦ ?_
  have hran (o : Performed) (hresult : o.result = result)
      (hincident : o.incident.incidentId = r.incidentId)
      (hexecuted : o.incident.executedActions = r.executedActions ++ [result]) :
      PerformedOn r action.actionId o :=
    ⟨hincident, by rw [hexecuted, List.getLast?_concat, hresult], hresult ▸ hid⟩
  rw [verifyPerformed]
  split_ifs
  · exact Prog.Yields.rest fun _ ↦
      Prog.Yields.rest fun _ _ _ ↦ hran _ rfl rfl rfl
  · exact hran _ rfl rfl rfl

theorem recordOutcome_trails {payload : ExecutePayload} {g : Authorized} (dryRun : Bool)
    {o : Performed} (h : PerformedOn g.incident payload.action.actionId o) :
    Trails (recordOutcome g.incident.incidentId payload g dryRun o) (fun _ _ ↦ True) last := by
  refine Prog.Meets.returning_bind save_trails ?_
  rintro _ _ ⟨rfl, previous, updatedAt, rfl⟩
  let final := stamp previous updatedAt (withOutcome o.incident dryRun o.result.success o.verified)
  have hrecorded : final.executedActions.getLast? = some o.result := h.recorded
  have hexecuted : Attests final "action_executed"
      (executedPayload final.incidentId payload g.decision o.result.success) :=
    .executed hrecorded h.actionId g.decision
  have hid : final.incidentId = g.incident.incidentId := h.incidentId
  rw [hid] at hexecuted
  refine Trails.audit_bind hexecuted ?_
  rw [escalate]
  split_ifs with hescalate
  · have hescalated : Attests final "execution_escalation_triggered"
        [("incident_id", .str final.incidentId), ("action_id", .str o.result.actionId),
          ("decision_id", .str g.decision.decisionId)] :=
      .escalated hrecorded (by simpa using (Bool.and_eq_true_iff.mp hescalate).1)
        g.decision.decisionId
    rw [hid, h.actionId] at hescalated
    exact Trails.audit_bind hescalated trivial
  · trivial

theorem executeAction_trails (incidentId : String) (payload : ExecutePayload) :
    Trails (executeAction cfg incidentId payload) (fun _ _ ↦ True) last := by
  refine Prog.Meets.returning_bind (authorize_trails incidentId payload) ?_
  rintro g last' rfl
  exact Trails.unsaved_bind (execution_unsaved (performAction_ofExecution _ _))
    (performAction_ran _ _) fun o ho ↦ recordOutcome_trails _ ho

theorem executeIncident_trails (incidentId : String) (payload : IncidentExecutePayload) :
    Trails (executeIncident cfg incidentId payload) (fun _ _ ↦ True) last :=
  getOrHttp_trails incidentId _ _ fun _ _ ↦ orHttp_bind_trails fun _ _ ↦
    orHttp_bind_trails fun _ _ ↦ executeAction_trails incidentId _

end

/-! ## The pool -/

/-- The events of a call are attested. -/
theorem Call.trails (cfg : Settings) (c : Call) :
    Trails (c.handler cfg) (fun _ _ ↦ True) none := by
  cases c with
  | ingest payload => exact discard_trails (ingest_trails payload)
  | createAlert payload requestId => exact discard_trails (createAlert_trails payload requestId)
  | routeIncident incidentId => exact discard_trails (routeIncident_trails incidentId)
  | processIncident incidentId => exact processIncident_trails incidentId
  | createPlan incidentId => exact discard_trails (createPlan_trails incidentId)
  | investigateIncident incidentId => exact discard_trails (investigateIncident_trails incidentId)
  | recordApproval incidentId payload =>
    exact discard_trails (recordApproval_trails incidentId payload)
  | approveIncident incidentId payload =>
    exact discard_trails (approveIncident_trails incidentId payload)
  | executeAction incidentId payload =>
    exact discard_trails (executeAction_trails incidentId payload)
  | executeIncident incidentId payload =>
    exact discard_trails (executeIncident_trails incidentId payload)

/-- The calls `call i`, running concurrently on top of what `w` has stored. -/
def trailPool {ι : Type*} (cfg : Settings) (w : World) (call : ι → Call) :
    Pool Op Ans Exc Unit (Option IncidentRecord) World ι where
  shared := w
  thread i := ⟨none, (call i).handler cfg⟩

/-- Since `w` the records `written` and the events `appended` are new. The threads' last writes are
among the records, and the records attest the events. -/
structure Attested {ι : Type*} (w s : World) (last : ι → Option IncidentRecord)
    (written : List IncidentRecord) (appended : List AuditEvent) : Prop where
  history : s.history = w.history ++ written
  events : s.events = w.events ++ appended
  last : ∀ i, ∀ r ∈ last i, r ∈ written
  attested : ∀ e ∈ appended,
    Announces e.eventType e.payload ∨ ∃ r ∈ written, Attests r e.eventType e.payload

section

variable {ι : Type*} {env : Env} {mode : Mode} {w s : World} {last : ι → Option IncidentRecord}
  {written : List IncidentRecord} {appended : List AuditEvent}

/-- Each event that is new since `w` reports no change, or a record written since then has what it
reports. -/
def AttestedSince (w s : World) : Prop :=
  ∃ written appended, s.history = w.history ++ written ∧ s.events = w.events ++ appended ∧
    ∀ e ∈ appended,
      Announces e.eventType e.payload ∨ ∃ r ∈ written, Attests r e.eventType e.payload

theorem Attested.since (h : Attested w s last written appended) : AttestedSince w s :=
  ⟨written, appended, h.history, h.events, h.attested⟩

/-- Threads that have written nothing yet. -/
theorem AttestedSince.attested (h : AttestedSince w s) :
    ∃ written appended, Attested w s (fun _ : ι ↦ none) written appended := by
  obtain ⟨written, appended, hhistory, hevents, hattested⟩ := h
  exact ⟨written, appended, hhistory, hevents, fun _ _ hr ↦ (by cases hr), hattested⟩

theorem AttestedSince.refl (w : World) : AttestedSince w w :=
  ⟨[], [], (List.append_nil _).symm, (List.append_nil _).symm,
    fun _ he ↦ absurd he List.not_mem_nil⟩

variable [DecidableEq ι]

theorem Attested.unchanged {s' : World} (h : Attested w s last written appended) (i : ι)
    (hhistory : s'.history = s.history) (hevents : s'.events = s.events) :
    Attested w s' (Function.update last i (last i)) written appended :=
  { history := hhistory.trans h.history
    events := hevents.trans h.events
    last := (Function.update_eq_self i last).symm ▸ h.last
    attested := h.attested }

theorem Attested.write {r : IncidentRecord} (h : Attested w s last written appended) (i : ι)
    {s' : World} (hhistory : s'.history = s.history ++ [r]) (hevents : s'.events = s.events) :
    Attested w s' (Function.update last i (some r)) (written ++ [r]) appended where
  history := by rw [hhistory, h.history, List.append_assoc]
  events := hevents.trans h.events
  last j s hs := by
    by_cases hj : j = i
    · subst hj
      rw [Function.update_self] at hs
      exact List.mem_append_right _ (List.mem_singleton.mpr (Option.mem_some.mp hs).symm)
    · rw [Function.update_of_ne hj] at hs
      exact List.mem_append_left _ (h.last j s hs)
  attested e he := (h.attested e he).imp_right fun ⟨s, hs, hattests⟩ ↦
    ⟨s, List.mem_append_left _ hs, hattests⟩

theorem Attested.append {e : AuditEvent} (h : Attested w s last written appended) (i : ι)
    {s' : World} (hhistory : s'.history = s.history) (hevents : s'.events = s.events ++ [e])
    (he : Announces e.eventType e.payload ∨ ∃ r ∈ last i, Attests r e.eventType e.payload) :
    Attested w s' (Function.update last i (last i)) written (appended ++ [e]) where
  history := hhistory.trans h.history
  events := by rw [hevents, h.events, List.append_assoc]
  last := (Function.update_eq_self i last).symm ▸ h.last
  attested := List.forall_mem_append.mpr ⟨h.attested, List.forall_mem_singleton.mpr
    (he.imp_right fun ⟨r, hr, hattests⟩ ↦ ⟨r, h.last i r hr, hattests⟩)⟩

/-- An operation that keeps the contract leaves an attested log. -/
theorem Attested.serve (h : Attested w s last written appended) (i : ι) (o : Op)
    (hguar : trailContract.guar (last i) o) :
    ∃ written appended, Attested w (serve env mode s o).2
      (Function.update last i
        (trailContract.next (last i) o (IncidentPlatform.serve env mode s o).1))
      written appended := by
  cases o with
  | write r => exact ⟨_, _, h.write i rfl rfl⟩
  | audit eventType payload => exact ⟨_, _, h.append i rfl rfl hguar⟩
  | touch r => exact ⟨_, _, h.unchanged i (serve_history (fun _ ho ↦ by cases ho))
      (World.touched_events _ r)⟩
  | _ => exact ⟨_, _, h.unchanged i rfl rfl⟩

/-- What is looked up has the id it was looked up by. -/
theorem serve_trail_rely (last : Option IncidentRecord) (o : Op) :
    trailContract.rely last o (serve env mode s o).1 := by
  cases o with
  | get incidentId => exact fun r hr ↦ key_of_lookup hr
  | _ => trivial

theorem attested_step (i : ι) (o : Op) (h : ∃ written appended, Attested w s last written appended)
    (hguar : trailContract.guar (last i) o) :
    trailContract.rely (last i) o (serve env mode s o).1 ∧ ∃ written appended,
      Attested w (serve env mode s o).2 (Function.update last i
        (trailContract.next (last i) o (serve env mode s o).1)) written appended := by
  obtain ⟨written, appended, h⟩ := h
  exact ⟨serve_trail_rely (last i) o, h.serve i o hguar⟩

/-- One call, run to its end: the only thread. -/
theorem AttestedSince.call (h : AttestedSince w s) (cfg : Settings) (c : Call) :
    AttestedSince w (c.after cfg env mode s) := by
  have hrun : ∃ written appended, Attested w ((c.handler cfg).run (serve env mode) s).2
      (fun _ : Unit ↦ (c.handler cfg).ghost (serve env mode) trailContract.next s none)
      written appended := by
    refine (Prog.Meets.run (K := fun s last ↦ ∃ written appended,
      Attested w s (fun _ : Unit ↦ last) written appended) (fun s last o h hguar ↦ ?_)
      (Call.trails cfg c) h.attested).1
    have halone (last' : Option IncidentRecord) :
        Function.update (fun _ : Unit ↦ last) () last' = fun _ ↦ last' :=
      Function.update_eq_const_of_subsingleton _ _ _
    simpa only [halone] using attested_step () o h hguar
  obtain ⟨written, appended, h⟩ := hrun
  exact h.since

theorem AttestedSince.after (cfg : Settings) (calls : List Call) (h : AttestedSince w s) :
    AttestedSince w (after cfg env mode s calls) := by
  induction calls generalizing s with
  | nil => exact h
  | cons c calls ih => exact ih (h.call cfg c)

/-- **Events are attested.** Each new event of the audit log either reports no change, or there is a
record written since then that has what the event reports: the checkpoint, the plan, the approval,
the blocked action, the result of the execution. In Postgres mode this is so under every schedule of
any number of concurrent calls and wherever they stop, in fallback mode along every sequential
run. -/
theorem events_attested (cfg : Settings) (env : Env) (w : World) (call : ι → Call)
    (schedule : List ι) (calls : List Call) :
    AttestedSince w ((trailPool cfg w call).run (serve env .postgres) trailContract.next
        schedule).shared ∧
      AttestedSince w (after cfg env .fallback w calls) := by
  refine ⟨?_, (AttestedSince.refl w).after cfg calls⟩
  obtain ⟨⟨written, appended, h⟩, -⟩ := Pool.run_invariant trailContract
    (fun s last ↦ ∃ written appended, Attested w s last written appended) (fun _ _ _ ↦ True)
    (fun s last i o h hguar _ ↦ attested_step i o h hguar) schedule (trailPool cfg w call)
    (AttestedSince.refl w).attested
    (fun i ↦ Prog.Meets.mono (fun _ _ _ ↦ trivial) (Call.trails cfg (call i)))
    (Pool.admits_true _ _)
  exact h.since

end

end IncidentPlatform
