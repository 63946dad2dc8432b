import IncidentPlatform.Safety.AuditTrail

/-!
# Stored decisions are logged

The decision loop appends a decision to the incident's record and to the audit log, but saves the
record only later. A request that stops in between leaves a decision that is logged and not stored.
The other way round it cannot be: whatever interleaves, the decisions of every stored record are
events of the log, in the same order and with the same iterations, **`decisions_logged`**. Handlers
that overwrite each other's records lose decisions from the store, not from the log.

The contract remembers the decisions of the record its thread read last, and those it has logged
since then. What the thread writes has exactly these.
-/

namespace IncidentPlatform

open Interaction

/-! ## Decisions -/

/-- The payload of `router_decision` for a decision of a record. -/
def DecisionRecord.payload (incidentId : String) (record : DecisionRecord) : Option Dict :=
  record.routerDecision.map fun decision ↦
    [("incident_id", .str incidentId), ("decision_id", .str decision.decisionId),
      ("next_workflow", .str decision.nextWorkflow),
      ("stop_reason", optionText decision.stopReason),
      ("investigate_only", .bool decision.investigateOnly), ("iteration", .num record.iteration)]

/-- The decisions of a record, as they are logged. -/
def IncidentRecord.decided (r : IncidentRecord) : List Dict :=
  r.decisionRecords.filterMap (DecisionRecord.payload r.incidentId)

/-- The decisions of the log. -/
def loggedDecisions (events : List AuditEvent) : List Dict :=
  (events.filter fun e ↦ e.eventType == "router_decision").map AuditEvent.payload

theorem loggedDecisions_append (events : List AuditEvent) (e : AuditEvent) :
    loggedDecisions (events ++ [e]) = loggedDecisions events ++
      if e.eventType = "router_decision" then [e.payload] else [] := by
  rw [loggedDecisions, List.filter_append, List.map_append, ← loggedDecisions, List.filter_cons,
    List.filter_nil]
  by_cases h : e.eventType = "router_decision"
  · rw [if_pos h, if_pos (beq_iff_eq.mpr h)]
    rfl
  · rw [if_neg h, if_neg (by simpa using h)]
    rfl

/-- A decision is recorded as it is logged. -/
theorem decided_withDecision (r : IncidentRecord) (decision : RouterDecision)
    {record : DecisionRecord} (hdecision : record.routerDecision = some decision)
    (hiteration : record.iteration = r.workflowIteration) :
    (r.withDecision decision record).decided
      = r.decided ++ [routerDecisionPayload r decision] := by
  have hpayload : record.payload r.incidentId = some (routerDecisionPayload r decision) := by
    rw [DecisionRecord.payload, hdecision, hiteration]
    rfl
  change (r.decisionRecords ++ [record]).filterMap (DecisionRecord.payload r.incidentId) = _
  rw [List.filterMap_append, List.filterMap_cons_some hpayload]
  rfl

/-! ## The contract -/

/-- What is written has the decisions that were read, and those logged since then. -/
def decisionContract : Contract Op Ans (List Dict) where
  guar logged
    | .write r => r.decided = logged
    | _ => True
  rely _ _ _ := True
  next logged
    | .get _, some r => r.decided
    | .audit eventType payload, _ =>
      if eventType = "router_decision" then logged ++ [payload] else logged
    | _, _ => logged

/-- A handler that writes logged decisions only, and its result with the decisions it has logged. -/
abbrev Recounts {α : Type} (p : Handler α) (R : α → List Dict → Prop) (logged : List Dict) : Prop :=
  p.Meets decisionContract (Prog.Returning R) logged

/-- The operations that have nothing to do with decisions. -/
def Op.undecided : Op → Prop
  | .write _ | .get _ => False
  | .audit eventType _ => eventType ≠ "router_decision"
  | _ => True

/-- The record has just these decisions. -/
def HasDecided (r : IncidentRecord) (logged : List Dict) : Prop := r.decided = logged

section

variable {α β : Type} {logged : List Dict}

theorem execution_undecided {p : Handler α} (h : p.Issues Op.ofExecution) :
    p.Issues Op.undecided := by
  refine h.mono fun o ho ↦ ?_
  cases o with
  | write r => exact ho
  | get incidentId => exact ho
  | audit eventType payload =>
    rcases ho with rfl | rfl
    · exact (by decide : "adapter_execution" ≠ "router_decision")
    · exact (by decide : "post_action_verification" ≠ "router_decision")
  | _ => trivial

theorem draft_undecided {p : Handler α} (h : p.Issues Op.ofDraft) : p.Issues Op.undecided :=
  execution_undecided (draft_ofExecution h)

theorem agent_undecided {p : Handler α} (h : p.Issues Op.ofAgent) : p.Issues Op.undecided :=
  draft_undecided (agent_ofDraft h)

theorem Recounts.perform_bind {o : Op} {f : Ans o → Handler β} {R : β → List Dict → Prop}
    (ho : decisionContract.guar logged o)
    (hf : ∀ a, Recounts (f a) R (decisionContract.next logged o a)) :
    Recounts (perform o >>= f) R logged :=
  Prog.Meets.call ho (fun _ _ h ↦ h) fun a _ ↦ hf a

/-- A part that has nothing to do with decisions. -/
theorem Recounts.undecided {p : Handler α} {R : α → Prop} (hp : p.Issues Op.undecided)
    (hR : p.Yields R) : Recounts p (fun a logged' ↦ logged' = logged ∧ R a) logged := by
  have hguar (o : Op) (ho : o.undecided) : decisionContract.guar logged o := by
    cases o with
    | write r => exact ho.elim
    | _ => trivial
  have hnext (o : Op) (a : Ans o) (ho : o.undecided) :
      decisionContract.next logged o a = logged := by
    cases o with
    | get incidentId => exact ho.elim
    | audit eventType payload => exact if_neg ho
    | _ => rfl
  exact Prog.Meets.quiet hguar (fun _ _ _ _ h ↦ h) hnext hp hR

theorem Recounts.undecided_bind {p : Handler α} {f : α → Handler β} {R : α → Prop}
    {S : β → List Dict → Prop} (hp : p.Issues Op.undecided) (hR : p.Yields R)
    (hf : ∀ a, R a → Recounts (f a) S logged) : Recounts (p >>= f) S logged :=
  Prog.Meets.quiet_bind (Recounts.undecided hp hR) hf

theorem Recounts.mono {p : Handler α} {R S : α → List Dict → Prop} (h : Recounts p R logged)
    (hRS : ∀ a logged', R a logged' → S a logged') : Recounts p S logged :=
  Prog.Meets.returning_mono hRS h

/-- Any other event. -/
theorem Recounts.audit_bind {eventType : String} {payload : Dict} {f : Unit → Handler β}
    {R : β → List Dict → Prop} (h : eventType ≠ "router_decision") (hf : Recounts (f ()) R logged) :
    Recounts (perform (.audit eventType payload) >>= f) R logged :=
  Recounts.perform_bind trivial fun _ ↦ by
    rw [show decisionContract.next logged (.audit eventType payload) _ = logged from if_neg h]
    exact hf

end

/-! ## The routes -/

section

variable {cfg : Settings} {r : IncidentRecord} {logged : List Dict}

theorem upsert_recounts (h : HasDecided r logged) : Recounts (upsert r) HasDecided logged :=
  Recounts.perform_bind trivial fun previous ↦
    Recounts.undecided_bind (by cases previous with
      | none => trivial
      | some p => exact require_issues _ _) (Prog.Yields.true _) fun _ _ ↦
        Recounts.perform_bind trivial fun _ ↦ Recounts.perform_bind h fun _ ↦ h

theorem save_recounts (h : HasDecided r logged) : Recounts (save r) HasDecided logged :=
  Recounts.perform_bind trivial fun _ ↦ upsert_recounts h

theorem HasDecided.withStep (h : HasDecided r logged) (step : String) :
    HasDecided (r.withStep step) logged := by
  rw [IncidentRecord.withStep]
  split_ifs <;> exact h

theorem writeCheckpoint_recounts (worker : Bool) (step : String) (h : HasDecided r logged) :
    Recounts (writeCheckpoint worker r step) HasDecided logged :=
  Prog.Meets.returning_bind (save_recounts (h.withStep step)) fun _ _ hr ↦
    Recounts.audit_bind (by decide) hr

theorem triageStep_recounts (worker : Bool) (h : HasDecided r logged) :
    Recounts (triageStep cfg worker r) HasDecided logged :=
  Recounts.undecided_bind (agent_undecided (triage_issues cfg r)) (Prog.Yields.true _) fun _ _ ↦
    writeCheckpoint_recounts worker "triage" h

theorem changeStep_recounts (worker : Bool) (h : HasDecided r logged) :
    Recounts (changeStep cfg worker r) HasDecided logged :=
  Recounts.undecided_bind (agent_undecided (correlateChanges_issues cfg r)) (Prog.Yields.true _)
    fun _ _ ↦ writeCheckpoint_recounts worker "change" h

/-- The evidence agent leaves the decisions alone. -/
theorem gatherEvidence_decided :
    (gatherEvidence cfg r).Yields fun a ↦ a.1.decided = r.decided :=
  (Flow.gatherEvidence_withTools cfg r).mono fun _ ha ↦ by
    rw [ha]
    rfl

/-- The planner leaves the decisions alone. -/
theorem planRemediation_decided :
    (planRemediation cfg r).Yields fun a ↦ a.1.decided = r.decided :=
  (Flow.planRemediation_withConfidence cfg r).mono fun _ ha ↦ by
    rw [ha]
    rfl

theorem evidenceStep_recounts (worker : Bool) (h : HasDecided r logged) :
    Recounts (evidenceStep cfg worker r) HasDecided logged :=
  Recounts.undecided_bind (draft_undecided gatherEvidence_ofDraft) gatherEvidence_decided
    fun _ ha ↦ writeCheckpoint_recounts worker "evidence" (ha.trans h)

theorem rcaStep_recounts (worker : Bool) (h : HasDecided r logged) :
    Recounts (rcaStep cfg worker r) HasDecided logged :=
  Recounts.undecided_bind (agent_undecided (analyzeRootCause_issues cfg r)) (Prog.Yields.true _)
    fun _ _ ↦ writeCheckpoint_recounts worker "rca" h

theorem appendTrace_recounts (phase message : String) (h : HasDecided r logged) :
    Recounts (appendTrace r phase message) HasDecided logged :=
  Recounts.perform_bind trivial fun _ ↦ Recounts.perform_bind trivial fun _ ↦ h

theorem plannerStep_recounts (worker : Bool) (h : HasDecided r logged) :
    Recounts (plannerStep cfg worker r) HasDecided logged :=
  Recounts.undecided_bind (draft_undecided planRemediation_ofDraft) planRemediation_decided
    fun _ ha ↦ Prog.Meets.returning_bind (writeCheckpoint_recounts worker "planned" (ha.trans h))
      fun _ _ hr ↦ appendTrace_recounts _ _ hr

theorem runStep_recounts (worker : Bool) (step : String) (h : HasDecided r logged) :
    Recounts (runStep cfg worker r step) (fun stepped ↦ HasDecided stepped.1) logged := by
  unfold runStep
  split
  · exact Prog.Meets.returning_bind (triageStep_recounts worker h) fun _ _ hr ↦ hr
  · exact Prog.Meets.returning_bind (evidenceStep_recounts worker h) fun _ _ hr ↦ hr
  · exact Prog.Meets.returning_bind (changeStep_recounts worker h) fun _ _ hr ↦ hr
  · exact Prog.Meets.returning_bind (rcaStep_recounts worker h) fun _ _ hr ↦ hr
  · exact Prog.Meets.returning_bind (plannerStep_recounts worker h) fun _ _ hr ↦ hr
  · exact Prog.Meets.returning_bind (appendTrace_recounts _ _ h) fun _ _ hr ↦ hr
  · exact h

/-- A decision goes into the record and into the log. -/
theorem persistDecision_recounts (decision : RouterDecision) (h : HasDecided r logged) :
    Recounts (persistDecision r decision) HasDecided logged := by
  refine Recounts.perform_bind trivial fun hex ↦ Recounts.perform_bind trivial fun createdAt ↦
    Recounts.perform_bind trivial fun _ ↦ Recounts.perform_bind trivial fun _ ↦ ?_
  change IncidentRecord.decided _ = logged ++ [_]
  rw [decided_withDecision r decision rfl rfl, h]
  rfl

theorem decideNext_recounts (plan : ResponsePlan) (h : HasDecided r logged) :
    Recounts (decideNext cfg r plan) (fun next ↦ HasDecided next.1) logged :=
  Recounts.perform_bind trivial fun _ ↦
    Recounts.undecided_bind (agent_undecided (computeRouterDecision_issues cfg _ plan))
      (Prog.Yields.true _) fun _ _ ↦
        Prog.Meets.returning_bind (persistDecision_recounts _ h) fun _ _ hr ↦
          Prog.Meets.returning_bind (appendTrace_recounts _ _ hr) fun _ _ hr ↦
            Recounts.perform_bind trivial fun _ ↦ hr

theorem decisionLoop_recounts (worker : Bool) (plan : ResponsePlan) (n : ℕ) :
    ∀ {r : IncidentRecord} {logged : List Dict}, HasDecided r logged →
      Recounts (decisionLoop cfg worker plan n r) HasDecided logged := by
  induction n with
  | zero => exact fun h ↦ h
  | succ n ih =>
    intro r logged h
    refine Prog.Meets.returning_bind (decideNext_recounts plan h) fun next logged' hnext ↦ ?_
    dsimp only
    split_ifs
    · exact appendTrace_recounts _ _ hnext
    · refine Prog.Meets.returning_bind (runStep_recounts worker _ hnext)
        fun stepped logged'' hstepped ↦ ?_
      split_ifs
      · exact Prog.Meets.returning_bind (save_recounts hstepped) fun _ _ hr ↦ ih hr
      · exact hstepped

theorem executeRoute_recounts (worker : Bool) (h : HasDecided r logged) :
    Recounts (executeRoute cfg worker r) HasDecided logged := by
  rw [executeRoute]
  split_ifs
  · exact Prog.Meets.returning_bind (writeCheckpoint_recounts worker "match" h) fun _ _ hr ↦
      Prog.Meets.returning_bind (decisionLoop_recounts worker _ _ hr) fun _ _ hr ↦
        save_recounts hr
  · exact Prog.Meets.returning_bind (writeCheckpoint_recounts worker "match" h) fun _ _ hr ↦
      Prog.Meets.returning_bind (triageStep_recounts worker hr) fun _ _ hr ↦
        Recounts.undecided_bind (draft_undecided gatherEvidence_ofDraft) gatherEvidence_decided
          fun _ ha ↦ Prog.Meets.returning_bind
            (writeCheckpoint_recounts worker "evidence" (ha.trans hr)) fun _ _ hr ↦
              Prog.Meets.returning_bind (changeStep_recounts worker hr) fun _ _ hr ↦
                Recounts.undecided_bind (agent_undecided (analyzeRootCause_issues cfg _))
                  (Prog.Yields.true _) fun _ _ ↦
                    Prog.Meets.returning_bind (writeCheckpoint_recounts worker "rca" hr)
                      fun _ _ hr ↦ save_recounts hr

end

/-! ## The handlers -/

section

variable {cfg : Settings} {r : IncidentRecord} {α : Type} {logged : List Dict}

theorem ensure_bind_recounts {β : Type} {b : Bool} {status : ℕ} {detail : String}
    {f : Unit → Handler β} {R : β → List Dict → Prop} (hf : Recounts (f ()) R logged) :
    Recounts (ensure b status detail >>= f) R logged :=
  Recounts.undecided_bind (ensure_issues b status detail) (Prog.Yields.true _) fun _ _ ↦ hf

theorem orHttp_bind_recounts {β : Type} {a : Option α} {status : ℕ} {detail : String}
    {f : α → Handler β} {R : β → List Dict → Prop}
    (hf : ∀ x, a = some x → Recounts (f x) R logged) :
    Recounts (orHttp a status detail >>= f) R logged :=
  Recounts.undecided_bind (orHttp_issues a status detail) (orHttp_yields a status detail) hf

/-- The record that is looked up, with its decisions, or a 404. -/
theorem getOrHttp_recounts {β : Type} {R : β → List Dict → Prop} (incidentId : String)
    (status : ℕ) (detail : String) {f : IncidentRecord → Handler β}
    (hf : ∀ r, Recounts (f r) R r.decided) :
    Recounts (do
      let r ← orHttp (← perform (.get incidentId)) status detail
      f r) R logged :=
  Recounts.perform_bind trivial fun answer ↦ orHttp_bind_recounts fun r hr ↦ by
    subst hr
    exact hf r

theorem Recounts.true {p : Handler α} {R : α → List Dict → Prop} (h : Recounts p R logged) :
    Recounts p (fun _ _ ↦ True) logged := h.mono fun _ _ _ ↦ trivial

theorem discard_recounts {p : Handler α} {R : α → List Dict → Prop} (h : Recounts p R logged) :
    Recounts (discard p) (fun _ _ ↦ True) logged :=
  Prog.Meets.returning_bind h fun _ _ _ ↦ trivial

/-- A new record has no decisions. -/
theorem normalize_decided (payload : IngestPayload) :
    (normalize cfg payload).Yields fun r ↦ HasDecided r [] :=
  fun _ _ _ _ ↦ rfl

theorem normalize_ofDraft (payload : IngestPayload) : (normalize cfg payload).Issues Op.ofDraft :=
  ⟨trivial, fun _ ↦ ⟨trivial, fun _ ↦ ⟨trivial, fun _ ↦ ⟨trivial, fun _ ↦ trivial⟩⟩⟩⟩

theorem existingIncident_undecided (dedupeKey : String) :
    (existingIncident dedupeKey).Issues Op.undecided :=
  issues_perform_bind.mpr ⟨trivial, fun answer ↦ orHttp_issues answer _ _⟩

theorem ingest_recounts (payload : IngestPayload) :
    Recounts (ingest cfg payload) (fun _ _ ↦ True) [] := by
  refine Recounts.undecided_bind (draft_undecided (normalize_ofDraft payload))
    (normalize_decided payload) fun r hr ↦ Recounts.perform_bind trivial fun firstSeen ↦ ?_
  split_ifs
  · exact (upsert_recounts hr).true
  · exact (Recounts.undecided (existingIncident_undecided _) (Prog.Yields.true _)).true

theorem createAlert_recounts (payload : IngestPayload) (requestId : String) :
    Recounts (createAlert cfg payload requestId) (fun _ _ ↦ True) [] := by
  refine Recounts.undecided_bind (draft_undecided (normalize_ofDraft payload))
    (normalize_decided payload) fun r hr ↦ Recounts.perform_bind trivial fun firstSeen ↦ ?_
  split_ifs
  · exact Prog.Meets.returning_bind (upsert_recounts hr) fun _ _ _ ↦
      Recounts.audit_bind (by decide) trivial
  · exact Recounts.undecided_bind (existingIncident_undecided _) (Prog.Yields.true _) fun _ _ ↦
      Recounts.audit_bind (by decide) trivial

theorem routeLocked_recounts (incidentId : String) (h : HasDecided r logged) :
    Recounts (routeLocked cfg incidentId r) (fun _ _ ↦ True) logged :=
  Prog.Meets.returning_bind (executeRoute_recounts false h) fun _ _ _ ↦
    orHttp_bind_recounts fun _ _ ↦ Recounts.audit_bind (by decide) trivial

theorem routeIncident_recounts (incidentId : String) :
    Recounts (routeIncident cfg incidentId) (fun _ _ ↦ True) logged := by
  refine Recounts.perform_bind trivial fun hex ↦ Recounts.perform_bind trivial fun acquired ↦
    ensure_bind_recounts (Recounts.perform_bind trivial fun found ↦ ?_)
  cases found with
  | none => exact Recounts.perform_bind trivial fun _ ↦ trivial
  | some r =>
    have hrelease (key token : String) (logged' : List Dict) :
        Recounts (discard (perform (.releaseLock key token))) (fun _ _ ↦ True) logged' :=
      Recounts.perform_bind trivial fun _ ↦ trivial
    have hread : HasDecided r r.decided := rfl
    exact Prog.Meets.cleanup_true (fun _ _ _ _ h ↦ h) (hrelease _ _)
      (routeLocked_recounts incidentId hread)

theorem processIncident_recounts (incidentId : String) :
    Recounts (processIncident cfg incidentId) (fun _ _ ↦ True) logged := by
  refine Recounts.perform_bind trivial fun found ↦ ?_
  cases found with
  | none => exact Recounts.audit_bind (by decide) trivial
  | some r =>
    have hread : HasDecided r r.decided := rfl
    exact Prog.Meets.returning_bind (executeRoute_recounts true hread) fun _ _ _ ↦
      Recounts.audit_bind (by decide) trivial

theorem createPlan_recounts (incidentId : String) :
    Recounts (createPlan cfg incidentId) (fun _ _ ↦ True) logged :=
  getOrHttp_recounts incidentId _ _ fun _ ↦
    Recounts.undecided_bind (draft_undecided planRemediation_ofDraft) planRemediation_decided
      fun planned hplanned ↦
        have hdecided : HasDecided (withPlan planned.1 planned.2) _ := hplanned
        Prog.Meets.returning_bind (save_recounts hdecided) fun _ _ _ ↦
          Recounts.audit_bind (by decide) trivial

theorem investigateIncident_recounts (incidentId : String) :
    Recounts (investigateIncident cfg incidentId) (fun _ _ ↦ True) logged :=
  Prog.Meets.returning_bind (routeIncident_recounts incidentId) fun _ _ _ ↦
    Prog.Meets.returning_bind (createPlan_recounts incidentId) fun _ _ _ ↦
      Recounts.perform_bind trivial fun answer ↦
        (Recounts.undecided (orHttp_issues answer _ _) (Prog.Yields.true _)).true

theorem recordApproval_recounts (incidentId : String) (payload : ApprovalPayload) :
    Recounts (recordApproval incidentId payload) (fun _ _ ↦ True) logged :=
  getOrHttp_recounts incidentId _ _ fun r ↦ ensure_bind_recounts <| ensure_bind_recounts <|
    Recounts.perform_bind trivial fun _ ↦ Recounts.perform_bind trivial fun _ ↦
      Recounts.perform_bind trivial fun _ ↦
        Recounts.undecided_bind (require_issues _ _) (Prog.Yields.true _) fun _ _ ↦
          Recounts.perform_bind trivial fun _ ↦
            have hread (approval : ApprovalRecord) :
                HasDecided (withApproval r approval) r.decided := rfl
            Prog.Meets.returning_bind (save_recounts (hread _)) fun _ _ _ ↦
              Recounts.audit_bind (by decide) trivial

theorem approveIncident_recounts (incidentId : String) (payload : IncidentApprovalPayload) :
    Recounts (approveIncident incidentId payload) (fun _ _ ↦ True) logged :=
  getOrHttp_recounts incidentId _ _ fun _ ↦ orHttp_bind_recounts fun _ _ ↦
    recordApproval_recounts incidentId _

/-! ### Execution -/

theorem HasDecided.withBlocked (h : HasDecided r logged) (actionType : ActionType) :
    HasDecided (withBlocked r actionType) logged := by
  rw [IncidentPlatform.withBlocked]
  split_ifs <;> exact h

theorem blockInvestigateOnly_recounts (incidentId : String) (payload : ExecutePayload)
    (h : HasDecided r logged) :
    Recounts (blockInvestigateOnly cfg incidentId r payload) (fun _ logged' ↦ logged' = logged)
      logged := by
  rw [blockInvestigateOnly]
  cases investigateOnlyBlock cfg r with
  | none => exact rfl
  | some decision =>
    exact Recounts.audit_bind (by decide)
      (Prog.Meets.returning_bind (save_recounts (h.withBlocked _)) fun _ _ _ ↦ trivial)

theorem blockDenied_recounts (incidentId : String) (payload : ExecutePayload)
    (decision : PolicyDecision) (h : HasDecided r logged) :
    Recounts (blockDenied incidentId r payload decision) (fun _ logged' ↦ logged' = logged)
      logged := by
  rw [blockDenied]
  split_ifs
  · exact rfl
  · exact Prog.Meets.returning_bind (save_recounts (h.withBlocked _)) fun _ _ _ ↦
      Recounts.audit_bind (by decide) trivial

theorem authorize_recounts (incidentId : String) (payload : ExecutePayload) :
    Recounts (authorize cfg incidentId payload) (fun g ↦ HasDecided g.incident) logged := by
  refine getOrHttp_recounts incidentId _ _ fun r ↦ orHttp_bind_recounts fun plan _ ↦
    ensure_bind_recounts ?_
  have hread : HasDecided r r.decided := rfl
  refine Prog.Meets.returning_bind (blockInvestigateOnly_recounts incidentId payload hread) ?_
  rintro _ _ rfl
  refine ensure_bind_recounts <| Recounts.perform_bind trivial fun hex ↦
    Recounts.perform_bind trivial fun evaluatedAt ↦
      Prog.Meets.returning_bind (blockDenied_recounts incidentId payload _ hread) ?_
  rintro _ _ rfl
  exact Recounts.undecided_bind (execution_undecided (acceptApproval_ofExecution payload _))
    (Prog.Yields.true _) fun _ _ ↦ hread

theorem performAction_decided (incidentId : String) (action : ActionRequest) :
    (performAction cfg incidentId action r).Yields fun o ↦ o.incident.decided = r.decided := by
  refine Prog.Yields.rest fun _ ↦ yields_perform_bind.mpr fun _ ↦
    Prog.Yields.rest fun result ↦ Prog.Yields.rest fun _ ↦ yields_perform_bind.mpr fun _ ↦ ?_
  rw [verifyPerformed]
  split_ifs
  · exact Prog.Yields.rest fun _ ↦
      Prog.Yields.rest fun _ _ _ ↦ rfl
  · exact rfl

theorem executeAction_recounts (incidentId : String) (payload : ExecutePayload) :
    Recounts (executeAction cfg incidentId payload) (fun _ _ ↦ True) logged :=
  Prog.Meets.returning_bind (authorize_recounts incidentId payload) fun _ _ hg ↦
    Recounts.undecided_bind (execution_undecided (performAction_ofExecution _ _))
      (performAction_decided _ _) fun o ho ↦
        have hdecided (dryRun success verified : Bool) :
            HasDecided (withOutcome o.incident dryRun success verified) _ := ho.trans hg
        Prog.Meets.returning_bind (save_recounts (hdecided _ _ _)) fun _ _ _ ↦
          Recounts.audit_bind (by decide) <| by
            rw [escalate]
            split_ifs
            · exact Recounts.audit_bind (by decide) trivial
            · trivial

theorem executeIncident_recounts (incidentId : String) (payload : IncidentExecutePayload) :
    Recounts (executeIncident cfg incidentId payload) (fun _ _ ↦ True) logged :=
  getOrHttp_recounts incidentId _ _ fun _ ↦ orHttp_bind_recounts fun _ _ ↦
    orHttp_bind_recounts fun _ _ ↦ executeAction_recounts incidentId _

end

/-! ## The pool -/

theorem Call.recounts (cfg : Settings) (c : Call) :
    Recounts (c.handler cfg) (fun _ _ ↦ True) [] := by
  cases c with
  | ingest payload => exact discard_recounts (ingest_recounts payload)
  | createAlert payload requestId => exact discard_recounts (createAlert_recounts payload requestId)
  | routeIncident incidentId => exact discard_recounts (routeIncident_recounts incidentId)
  | processIncident incidentId => exact processIncident_recounts incidentId
  | createPlan incidentId => exact discard_recounts (createPlan_recounts incidentId)
  | investigateIncident incidentId =>
    exact discard_recounts (investigateIncident_recounts incidentId)
  | recordApproval incidentId payload =>
    exact discard_recounts (recordApproval_recounts incidentId payload)
  | approveIncident incidentId payload =>
    exact discard_recounts (approveIncident_recounts incidentId payload)
  | executeAction incidentId payload =>
    exact discard_recounts (executeAction_recounts incidentId payload)
  | executeIncident incidentId payload =>
    exact discard_recounts (executeIncident_recounts incidentId payload)

/-- The calls `call i`, running concurrently on top of what `w` has stored. -/
def decisionPool {ι : Type*} (cfg : Settings) (w : World) (call : ι → Call) :
    Pool Op Ans Exc Unit (List Dict) World ι where
  shared := w
  thread i := ⟨[], (call i).handler cfg⟩

/-- The decisions of every record that is or was stored are in the log, in the same order. -/
def World.DecisionsLogged (w : World) : Prop :=
  ∀ r, r ∈ w.rows ∨ r ∈ w.history → r.decided.Sublist (loggedDecisions w.events)

/-- So are those that the threads have read and logged. -/
structure Traceable {ι : Type*} (s : World) (logged : ι → List Dict) : Prop where
  stored : s.DecisionsLogged
  threads : ∀ i, (logged i).Sublist (loggedDecisions s.events)

section

variable {ι : Type*} [DecidableEq ι] {env : Env} {s : World} {logged : ι → List Dict}

/-- A thread goes on with decisions that are logged. -/
theorem Traceable.update {s' : World} (h : Traceable s logged) (i : ι) {decided : List Dict}
    (hevents : loggedDecisions s.events <+: loggedDecisions s'.events)
    (hstored : s'.DecisionsLogged) (hdecided : decided.Sublist (loggedDecisions s'.events)) :
    Traceable s' (Function.update logged i decided) := by
  refine ⟨hstored, fun j ↦ ?_⟩
  by_cases hj : j = i
  · subst hj
    rw [Function.update_self]
    exact hdecided
  · rw [Function.update_of_ne hj]
    exact (h.threads j).trans hevents.sublist

/-- A longer log. -/
theorem World.DecisionsLogged.mono {s' : World} (h : s.DecisionsLogged) (hrows : s'.rows = s.rows)
    (hhistory : s'.history = s.history)
    (hevents : loggedDecisions s.events <+: loggedDecisions s'.events) : s'.DecisionsLogged := by
  intro r hr
  rw [hrows, hhistory] at hr
  exact (h r hr).trans hevents.sublist

/-- An operation that stores and logs nothing. -/
theorem Traceable.idle {s' : World} (h : Traceable s logged) (i : ι) (hrows : s'.rows = s.rows)
    (hhistory : s'.history = s.history) (hevents : s'.events = s.events) :
    Traceable s' (Function.update logged i (logged i)) := by
  have hprefix : loggedDecisions s.events <+: loggedDecisions s'.events := by rw [hevents]
  exact h.update i hprefix (h.stored.mono hrows hhistory hprefix) (hevents ▸ h.threads i)

/-- A record is written, with the decisions of its thread. -/
theorem Traceable.write {r : IncidentRecord} (h : Traceable s logged) (i : ι)
    (hr : r.decided = logged i) :
    Traceable (serve env .postgres s (.write r)).2 (Function.update logged i (logged i)) := by
  refine h.update i List.prefix_rfl (fun r' hr' ↦ ?_) (h.threads i)
  have hnew : r.decided.Sublist (loggedDecisions s.events) := hr ▸ h.threads i
  rcases hr' with hrow | hhistory
  · rcases eq_or_mem_of_mem_put hrow with rfl | hrow
    · exact hnew
    · exact h.stored r' (Or.inl hrow)
  · rcases List.mem_append.mp hhistory with hhistory | hlast
    · exact h.stored r' (Or.inr hhistory)
    · rw [List.mem_singleton.mp hlast]
      exact hnew

/-- An event is appended. A decision is now one of its thread. -/
theorem Traceable.audit (h : Traceable s logged) (i : ι) (eventType : String) (payload : Dict) :
    Traceable (serve env .postgres s (.audit eventType payload)).2 (Function.update logged i
      (if eventType = "router_decision" then logged i ++ [payload] else logged i)) := by
  have hevents := loggedDecisions_append s.events ⟨eventType, payload, env.now s.tick⟩
  have hprefix : loggedDecisions s.events <+: loggedDecisions (s.events ++ [⟨eventType, payload,
      env.now s.tick⟩]) := ⟨_, hevents.symm⟩
  refine h.update i hprefix (h.stored.mono rfl rfl hprefix) ?_
  change List.Sublist _ (loggedDecisions (s.events ++ [_]))
  rw [hevents]
  split_ifs with hdecision
  · exact (h.threads i).append (List.Sublist.refl _)
  · exact (h.threads i).trans (List.sublist_append_left _ _)

/-- A thread goes on with the decisions of the record it reads. -/
theorem Traceable.get (h : Traceable s logged) (i : ι) (incidentId : String) :
    Traceable (serve env .postgres s (.get incidentId)).2 (Function.update logged i
      (decisionContract.next (logged i) (.get incidentId) (s.stored incidentId))) := by
  cases hread : s.stored incidentId with
  | none => exact h.idle i rfl rfl rfl
  | some r => exact h.update i List.prefix_rfl h.stored (h.stored r (Or.inl (mem_of_lookup hread)))

theorem Traceable.serve (h : Traceable s logged) (i : ι) (o : Op)
    (hguar : decisionContract.guar (logged i) o) :
    Traceable (IncidentPlatform.serve env .postgres s o).2 (Function.update logged i
      (decisionContract.next (logged i) o (IncidentPlatform.serve env .postgres s o).1)) := by
  cases o with
  | write r => exact h.write i hguar
  | audit eventType payload => exact h.audit i eventType payload
  | get incidentId => exact h.get i incidentId
  | _ => exact h.idle i rfl rfl rfl

/-- **Stored decisions are logged.** In Postgres mode, under every schedule of any number of
concurrent calls and wherever they stop, the router decisions of every record that is or was stored
are events of the audit log, in the same order and with the same iterations. -/
theorem decisions_logged (cfg : Settings) (env : Env) {w : World} (hw : w.DecisionsLogged)
    (call : ι → Call) (schedule : List ι) :
    ((decisionPool cfg w call).run (serve env .postgres) decisionContract.next
      schedule).shared.DecisionsLogged := by
  have hstart : Traceable w fun _ : ι ↦ [] := ⟨hw, fun _ ↦ List.nil_sublist _⟩
  exact (Pool.run_invariant decisionContract Traceable (fun _ _ _ ↦ True)
    (fun _ _ i o h hguar _ ↦ ⟨trivial, h.serve i o hguar⟩) schedule (decisionPool cfg w call) hstart
    (fun i ↦ Prog.Meets.mono (fun _ _ _ ↦ trivial) (Call.recounts cfg (call i)))
    (Pool.admits_true _ _)).1.stored

end

/-- The demo alert, and a route of its incident that stops after its fourth decision. -/
def stoppedRoute : World :=
  ((decisionPool Settings.looped {} fun routes : Bool ↦ if routes then .routeIncident checkoutId
      else .ingest checkoutAlert).run (serve Env.demo .postgres) decisionContract.next
    (List.replicate 20 false ++ List.replicate 100 true)).shared

/-- A request and a worker that route the incident again, in turn. -/
def routedInTurn : World :=
  ((decisionPool Settings.looped stoppedRoute fun works : Bool ↦ if works then
      .processIncident checkoutId else .routeIncident checkoutId).run (serve Env.demo .postgres)
    decisionContract.next (List.replicate 60 [false, true]).flatten).shared

/-- The stored incident ends with five decisions, and the log has eight. -/
theorem decisions_logged_looped :
    (routedInTurn.rows.map fun r ↦ r.decided.length) = [5] ∧
      (loggedDecisions routedInTurn.events).length = 8 ∧ routedInTurn.DecisionsLogged := by
  have hempty : World.DecisionsLogged {} := fun _ h ↦
    h.elim (fun h ↦ absurd h List.not_mem_nil) fun h ↦ absurd h List.not_mem_nil
  have hstopped : stoppedRoute.DecisionsLogged :=
    decisions_logged Settings.looped Env.demo hempty _ _
  exact ⟨by decide +kernel, by decide +kernel,
    decisions_logged Settings.looped Env.demo hstopped _ _⟩

end IncidentPlatform
