import IncidentPlatform.Api.Handlers
import IncidentPlatform.Workflow.Conduct

/-!
# Every call keeps the discipline

For each call, which approvals it can grant and on what terms it can accept one. `Call.meets` says
that its handler keeps the discipline with just these, in either mode and among other handlers.
What a handler knows beyond its last read, because it read twice, it only knows when it runs alone.
-/

namespace IncidentPlatform

open Interaction

/-! ## What a call may grant and accept -/

/-- The approvals a payload of `record_approval` adds to a record. -/
def Grants (payload : ApprovalPayload) (r : IncidentRecord) (a : ApprovalRecord) : Prop :=
  ∃ approvalId approvalToken expiresAt createdAt,
    a = grantFor r payload approvalId approvalToken expiresAt createdAt

/-- The policy requires an approval for the request. -/
def RequiresApproval (cfg : Settings) (r : IncidentRecord) (payload : ExecutePayload) : Prop :=
  ∃ plan ∈ r.responsePlan, needsApproval payload (decisionOn cfg r plan payload "" 0) = true

/-- What `execute_action` has checked of an approval it accepts, expiry and token apart. -/
structure Accepts (r : IncidentRecord) (a : ApprovalRecord) (action : ActionRequest) : Prop where
  mem : a ∈ r.approvals
  approved : a.approved = true
  version : ∃ granted, a.expectedIncidentVersionAtGrant = some granted ∧ r.version ≤ granted + 1
  action : approvalMatchesAction a action = true

/-- The action is the pending one of its id, up to the dry-run flag. -/
def FromGraph (r : IncidentRecord) (action : ActionRequest) : Prop :=
  ∃ graph pending, r.pendingActionGraph = some graph ∧
    graph.actions.find? (fun item ↦ item.actionId == action.actionId) = some pending ∧
    action = { pending with dryRun := action.dryRun }

/-- The record of a call: one of its incident, and what was stored when the call started. -/
def Subject (regime : Regime) (incidentId : String) (r : IncidentRecord) : Prop :=
  r.incidentId = incidentId ∧ ∀ alone ∈ regime, alone.start.stored incidentId = some r

/-- What `approve_incident` passes on. -/
structure Forwards (regime : Regime) (payload : IncidentApprovalPayload) (r : IncidentRecord)
    (forwarded : ApprovalPayload) : Prop where
  approved : forwarded.approved = payload.approved
  version : regime.isSome → forwarded.expectedIncidentVersion = some r.version
  action : regime.isSome →
    orText payload.actionId r.pendingApprovalActionId = some forwarded.actionId

/-- The approvals a call can add to a record. -/
def Call.grants (regime : Regime) : Call → IncidentRecord → ApprovalRecord → Prop
  | recordApproval incidentId payload, r, a => Subject regime incidentId r ∧ Grants payload r a
  | approveIncident incidentId payload, r, a =>
    Subject regime incidentId r ∧ ∃ forwarded, Forwards regime payload r forwarded ∧
      Grants forwarded r a
  | _, _, _ => False

/-- The approvals a call can accept, and for which action. -/
def Call.bound (cfg : Settings) (regime : Regime) :
    Call → IncidentRecord → ApprovalRecord → ActionRequest → Prop
  | executeAction incidentId payload, r, a, action =>
    Subject regime incidentId r ∧ Accepts r a action ∧ action = payload.action ∧
      RequiresApproval cfg r payload ∧ payload.approvalId = some a.approvalId
  | executeIncident incidentId _, r, a, action =>
    Subject regime incidentId r ∧ Accepts r a action ∧ (regime.isSome → FromGraph r action)
  | _, _, _, _ => False

section

variable {regime : Regime} {grant : IncidentRecord → ApprovalRecord → Prop}
  {bound : IncidentRecord → ApprovalRecord → ActionRequest → Prop} {draft : Draft}

theorem Clean.held (r : IncidentRecord) : Clean (.held r r) := Or.inr ⟨r, rfl⟩

theorem Clean.settled (h : Clean draft) : Settled regime draft := h.complete.settled

theorem orHttp_issues {α : Type} {P : Op → Prop} (a : Option α) (status : ℕ) (detail : String) :
    (orHttp a status detail).Issues P := by
  cases a <;> trivial

theorem orHttp_yields {α : Type} (a : Option α) (status : ℕ) (detail : String) :
    (orHttp a status detail).Yields fun x ↦ a = some x := by
  cases a with
  | some x => exact rfl
  | none => trivial

theorem ensure_issues {P : Op → Prop} (b : Bool) (status : ℕ) (detail : String) :
    (ensure b status detail).Issues P :=
  require_issues b _

/-- What a handler that runs alone knows of the record it reads. -/
def Known (regime : Regime) (draft : Draft) (incidentId : String) (r : IncidentRecord) : Prop :=
  ∀ alone ∈ regime, (draft = .fresh → alone.start.stored incidentId = some r) ∧
    ∀ s, draft = .held s s → s.incidentId = incidentId → r = s

theorem Known.of_fresh {incidentId : String} {r : IncidentRecord}
    (h : Known regime .fresh incidentId r) : ∀ alone ∈ regime,
      alone.start.stored incidentId = some r :=
  fun alone halone ↦ (h alone halone).1 rfl

theorem Known.of_held {incidentId : String} {r s : IncidentRecord}
    (h : Known regime (.held s s) incidentId r) (hs : s.incidentId = incidentId)
    (hregime : regime.isSome) : r = s := by
  obtain ⟨alone, halone⟩ := Option.isSome_iff_exists.mp hregime
  exact (h alone halone).2 s rfl hs

/-- The second read of a call returns what the first one did. -/
theorem Known.again {incidentId : String} {r s : IncidentRecord}
    (h : Known regime .fresh incidentId s) (h' : Known regime (.held s s) incidentId r)
    (hs : s.incidentId = incidentId) : ∀ alone ∈ regime,
      alone.start.stored incidentId = some r := by
  intro alone halone
  rw [h'.of_held hs (Option.isSome_iff_exists.mpr ⟨alone, halone⟩)]
  exact h.of_fresh alone halone

/-- Reading an incident that has to be there. -/
theorem getOrHttp_obeys (incidentId : String) (status : ℕ) (detail : String) (h : Clean draft) :
    Obeys regime grant bound (do orHttp (← perform (.get incidentId)) status detail)
      (fun r d ↦ d = .held r r ∧ r.incidentId = incidentId ∧ Known regime draft incidentId r)
      draft := by
  refine (Obeys.get incidentId h).bind ?_
  rintro answer d ⟨⟨rfl, rfl⟩ | ⟨r, rfl, rfl, hid⟩, hknown⟩
  · exact fun _ ↦ trivial
  · refine ⟨rfl, hid, fun alone halone ↦ ⟨fun hfresh ↦ ?_, fun s hs hsid ↦ ?_⟩⟩
    · exact ((hknown alone halone).1 hfresh).symm
    · exact Option.some.inj ((hknown alone halone).2 s hs hsid)

theorem ensure_bind {α : Type} {b : Bool} {status : ℕ} {detail : String} {f : Unit → Handler α}
    {R : α → Draft → Prop} (hdraft : Settled regime draft)
    (hf : b = true → Obeys regime grant bound (f ()) R draft) :
    Obeys regime grant bound (ensure b status detail >>= f) R draft := by
  cases b
  · exact hdraft
  · exact hf rfl

theorem orHttp_bind {α β : Type} {a : Option α} {status : ℕ} {detail : String}
    {f : α → Handler β} {R : β → Draft → Prop} (hdraft : Settled regime draft)
    (hf : ∀ x, a = some x → Obeys regime grant bound (f x) R draft) :
    Obeys regime grant bound (orHttp a status detail >>= f) R draft := by
  rcases a with _ | x
  · exact hdraft
  · exact hf x rfl

theorem discard_obeys {α : Type} {p : Handler α}
    (h : Obeys regime grant bound p (fun _ ↦ Clean) draft) :
    Obeys regime grant bound (discard p) (fun _ ↦ Draft.Complete) draft :=
  h.bind fun _ _ hd ↦ hd.complete

/-! ## Ingest, routing and planning -/

theorem normalize_obeys (cfg : Settings) (payload : IngestPayload) :
    Obeys regime grant bound (normalize cfg payload) (fun r d ↦ Blank r ∧ d = .fresh) .fresh := by
  have hfresh : Settled regime .fresh := fun _ ↦ trivial
  refine Obeys.quiet_bind (issues_perform trivial) hfresh fun occurredAt ↦ ?_
  refine Obeys.quiet_bind (issues_perform trivial) hfresh fun hex ↦ ?_
  refine Obeys.quiet_bind (issues_perform trivial) hfresh fun createdAt ↦ ?_
  refine Obeys.quiet_bind (issues_perform trivial) hfresh fun updatedAt ↦ ?_
  exact ⟨⟨rfl, rfl, rfl, rfl⟩, rfl⟩

theorem existingIncident_obeys (dedupeKey : String) (h : Clean draft) :
    Obeys regime grant bound (existingIncident dedupeKey) (fun _ d ↦ d = draft) draft :=
  ⟨⟨h, fun _ _ ↦ False.elim⟩, fun answer _ ↦ Obeys.quiet (orHttp_issues answer _ _) h.settled⟩

theorem ingest_obeys (cfg : Settings) (payload : IngestPayload) :
    Obeys regime grant bound (ingest cfg payload) (fun _ ↦ Clean) .fresh := by
  refine (normalize_obeys cfg payload).bind ?_
  rintro r d ⟨hblank, rfl⟩
  refine Obeys.quiet_bind (issues_perform trivial) (fun _ ↦ trivial) fun firstSeen ↦ ?_
  split
  · exact (Obeys.create hblank).mono fun r' d h ↦ h.1 ▸ Clean.held r'
  · exact (existingIncident_obeys _ (Or.inl rfl)).mono fun _ d h ↦ Or.inl h

theorem createAlert_obeys (cfg : Settings) (payload : IngestPayload) (requestId : String) :
    Obeys regime grant bound (createAlert cfg payload requestId) (fun _ ↦ Clean) .fresh := by
  refine (normalize_obeys cfg payload).bind ?_
  rintro r d ⟨hblank, rfl⟩
  refine Obeys.quiet_bind (issues_perform trivial) (fun _ ↦ trivial) fun firstSeen ↦ ?_
  split
  · refine (Obeys.create hblank).bind ?_
    rintro r' d ⟨rfl, -⟩
    exact Obeys.quiet_bind (issues_perform trivial) (Clean.held r').settled fun _ ↦ Clean.held r'
  · refine (existingIncident_obeys _ (Or.inl rfl)).bind ?_
    rintro existing d rfl
    exact Obeys.quiet_bind (issues_perform trivial) (fun _ ↦ trivial) fun _ ↦ Or.inl rfl

theorem routeLocked_obeys (cfg : Settings) (incidentId : String) (r : IncidentRecord) :
    Obeys regime grant bound (routeLocked cfg incidentId r) (fun r' d ↦ d = .held r' r')
      (.held r r) := by
  refine (executeRoute_obeys cfg false r).bind ?_
  rintro r' d rfl
  refine Obeys.quiet_bind (orHttp_issues _ _ _) (Clean.held r').settled fun plan ↦ ?_
  exact Obeys.quiet_bind (issues_perform trivial) (Clean.held r').settled fun _ ↦ rfl

theorem routeIncident_obeys (cfg : Settings) (incidentId : String) (h : Clean draft) :
    Obeys regime grant bound (routeIncident cfg incidentId) (fun r' d ↦ d = .held r' r')
      draft := by
  refine Obeys.quiet_bind (issues_perform trivial) h.settled fun hex ↦ ?_
  refine Obeys.quiet_bind (issues_perform trivial) h.settled fun acquired ↦ ?_
  refine ensure_bind h.settled fun _ ↦ (Obeys.get incidentId h).bind ?_
  rintro answer d ⟨⟨rfl, rfl⟩ | ⟨r, rfl, rfl, -⟩, -⟩
  · exact Obeys.quiet_bind (issues_perform trivial) (fun _ ↦ trivial) fun _ ↦ fun _ ↦ trivial
  · refine Prog.Meets.cleanup ?_ (fun result d hd ↦ ?_) (routeLocked_obeys cfg incidentId r)
    · exact Or.inr fun _ _ ↦ ⟨rfl, trivial⟩
    · exact ⟨⟨trivial, fun _ _ ↦ False.elim⟩, fun _ _ ↦ hd⟩

theorem processIncident_obeys (cfg : Settings) (incidentId : String) :
    Obeys regime grant bound (processIncident cfg incidentId) (fun _ ↦ Draft.Complete)
      .fresh := by
  refine (Obeys.get incidentId (Or.inl rfl)).bind ?_
  rintro answer d ⟨⟨rfl, rfl⟩ | ⟨r, rfl, rfl, -⟩, -⟩
  · refine (Obeys.quiet ?_ fun _ ↦ trivial).mono fun _ d h ↦ h ▸ trivial
    exact issues_perform trivial
  · refine (executeRoute_obeys cfg true r).bind ?_
    rintro r' d rfl
    refine (Obeys.quiet ?_ (Clean.held r').settled).mono fun _ d h ↦ h ▸ (Clean.held r').complete
    exact issues_perform trivial

theorem withPlan_sound {r : IncidentRecord} {graph : ActionGraph} (hgraph : IsPlan graph)
    (hr : Sound r) : Sound (withPlan r graph) := by
  refine ⟨fun _ ↦ ⟨graph, rfl, hgraph, rfl, ?_⟩, hr.matched, fun _ ↦ by simp [withPlan]⟩
  obtain ⟨step, steps, hsteps⟩ := List.exists_cons_of_ne_nil hgraph.planSteps
  simp [withPlan, hsteps]

theorem withPlan_progress (r : IncidentRecord) {graph : ActionGraph} (hgraph : IsPlan graph) :
    Progress r (withPlan r graph) :=
  { Progress.refl r with
    live := fun _ _ ↦ by simp [withPlan]
    sound := withPlan_sound hgraph }

theorem createPlan_obeys (cfg : Settings) (incidentId : String) (h : Clean draft) :
    Obeys regime grant bound (createPlan cfg incidentId) (fun _ ↦ Clean) draft := by
  refine (getOrHttp_obeys incidentId _ _ h).bind ?_
  rintro r d ⟨rfl, -⟩
  refine ((planRemediation_obeys cfg (Steady.refl r) (Working.refl r)).yielding
    (planRemediation_yields cfg r)).bind ?_
  rintro ⟨r₁, graph⟩ d ⟨⟨hr₁, hd⟩, hgraph⟩
  refine (save_steady (withPlan r₁ graph) hr₁ (withPlan_progress r₁ hgraph) rfl hd).bind ?_
  rintro r₂ d rfl
  exact Obeys.quiet_bind (issues_perform trivial) (Clean.held r₂).settled fun _ ↦ Clean.held r₂

theorem investigateIncident_obeys (cfg : Settings) (incidentId : String) :
    Obeys regime grant bound (investigateIncident cfg incidentId) (fun _ ↦ Clean) .fresh := by
  refine (routeIncident_obeys cfg incidentId (Or.inl rfl)).bind ?_
  rintro routed d rfl
  refine (createPlan_obeys cfg incidentId (Clean.held routed)).bind fun _ d hd ↦ ?_
  exact (getOrHttp_obeys _ _ _ hd).mono fun r d h ↦ h.1 ▸ Clean.held r

/-! ## Approval -/

/-- A decision on the pending plan leaves the plan pending. -/
theorem withApproval_progress {r : IncidentRecord} (a : ApprovalRecord)
    (hr : r.state = .waitingApproval) : Progress r (withApproval r a) :=
  { Progress.refl r with
    live := fun _ _ ↦ by
      rw [withApproval]
      split_ifs <;> simp
    sound := fun h ↦ by
      refine ⟨fun _ ↦ ?_, h.matched, fun _ ↦ ?_⟩
      · obtain ⟨graph, hgraph⟩ := h.pending (by rw [hr]; simp)
        exact ⟨graph, hgraph.pendingActionGraph, hgraph.plan, hgraph.pendingApprovalActionId,
          hgraph.pendingPlanStepId⟩
      · rw [withApproval]
        split_ifs <;> simp }

/-- A recorded approval is one the payload asks for, on the record that was read. -/
theorem recordApproval_obeys (incidentId : String) (payload : ApprovalPayload)
    (hgrant : ∀ r a, r.incidentId = incidentId → Known regime draft incidentId r →
      Grants payload r a → grant r a) (h : Clean draft) :
    Obeys regime grant bound (recordApproval incidentId payload) (fun _ ↦ Clean) draft := by
  refine (getOrHttp_obeys incidentId _ _ h).bind ?_
  rintro r d ⟨rfl, hid, hknown⟩
  have hsettled : Settled regime (.held r r) := (Clean.held r).settled
  refine ensure_bind hsettled fun hstate ↦ ensure_bind hsettled fun _ ↦ ?_
  refine Obeys.quiet_bind (issues_perform trivial) hsettled fun idHex ↦ ?_
  refine Obeys.quiet_bind (issues_perform trivial) hsettled fun tokenHex ↦ ?_
  refine Obeys.quiet_bind (issues_perform trivial) hsettled fun now ↦ ?_
  refine Obeys.quiet_bind (require_issues _ _) hsettled fun _ ↦ ?_
  refine Obeys.quiet_bind (issues_perform trivial) hsettled fun createdAt ↦ ?_
  have hcommit (a : ApprovalRecord) (ha : Grants payload r a) :
      Commit grant r (withApproval r a) :=
    ⟨withApproval_progress a (beq_iff_eq.mp hstate), Or.inr ⟨a, hgrant r a hid hknown ha, rfl, rfl⟩⟩
  refine (Obeys.save (hcommit _ ⟨_, _, _, _, rfl⟩) (Working.refl r)).bind ?_
  rintro r' d ⟨rfl, -⟩
  exact Obeys.quiet_bind (issues_perform trivial) (Clean.held r').settled fun _ ↦ Clean.held r'

theorem approveIncident_obeys (incidentId : String) (payload : IncidentApprovalPayload)
    (hgrant : ∀ r a forwarded, Subject regime incidentId r → Forwards regime payload r forwarded →
      Grants forwarded r a → grant r a) :
    Obeys regime grant bound (approveIncident incidentId payload) (fun _ ↦ Clean) .fresh := by
  refine (getOrHttp_obeys incidentId _ _ (Or.inl rfl)).bind ?_
  rintro s d ⟨rfl, hid, hfresh⟩
  refine orHttp_bind (Clean.held s).settled fun actionId hactionId ↦ ?_
  refine recordApproval_obeys incidentId _ (fun r a hr hknown ha ↦ ?_) (Clean.held s)
  refine hgrant r a _ ⟨hr, hfresh.again hknown hid⟩ ⟨rfl, fun hregime ↦ ?_, fun hregime ↦ ?_⟩ ha
  · rw [hknown.of_held hid hregime]
  · rw [hknown.of_held hid hregime, hactionId]

/-! ## Execution -/

theorem withBlocked_progress (r : IncidentRecord) (actionType : ActionType) :
    Progress r (withBlocked r actionType) := by
  rw [withBlocked]
  split_ifs
  · exact Progress.refl r
  · exact Steady.progress ⟨{ Edit.refl r with }, rfl⟩

theorem withBlocked_approvals (r : IncidentRecord) (actionType : ActionType) :
    (withBlocked r actionType).approvals = r.approvals := by
  rw [withBlocked]
  split_ifs <;> rfl

theorem saveBlocked_obeys (r : IncidentRecord) (actionType : ActionType) :
    Obeys regime grant bound (save (withBlocked r actionType)) (fun r' d ↦ d = .held r' r')
      (.held r r) :=
  save_steady _ (Steady.refl r) (withBlocked_progress r actionType)
    (withBlocked_approvals r actionType) (Working.refl r)

theorem blockInvestigateOnly_obeys (cfg : Settings) (incidentId : String) (r : IncidentRecord)
    (payload : ExecutePayload) :
    Obeys regime grant bound (blockInvestigateOnly cfg incidentId r payload)
      (fun _ d ↦ d = .held r r) (.held r r) := by
  rw [blockInvestigateOnly]
  split
  · exact Obeys.ret rfl
  · refine Obeys.quiet_bind (issues_perform trivial) (Clean.held r).settled fun _ ↦ ?_
    refine (saveBlocked_obeys r _).bind ?_
    rintro r' d rfl
    exact (Clean.held r').settled

theorem blockDenied_obeys (incidentId : String) (r : IncidentRecord) (payload : ExecutePayload)
    (decision : PolicyDecision) :
    Obeys regime grant bound (blockDenied incidentId r payload decision)
      (fun _ d ↦ d = .held r r) (.held r r) := by
  rw [blockDenied]
  split
  · exact Obeys.ret rfl
  · refine (saveBlocked_obeys r _).bind ?_
    rintro r' d rfl
    refine Obeys.quiet_bind (issues_perform trivial) (Clean.held r').settled fun _ ↦ ?_
    exact (Clean.held r').settled

/-- An approval that passed the checks is one the action can be accepted with. -/
theorem checkApproval_obeys (r : IncidentRecord) (payload : ExecutePayload)
    (hdraft : Settled regime draft) :
    Obeys regime grant bound (checkApproval r payload)
      (fun a d ↦ d = draft ∧ Accepts r a payload.action ∧ payload.approvalId = some a.approvalId)
      draft := by
  refine orHttp_bind hdraft fun approvalId hid ↦ ?_
  refine orHttp_bind hdraft fun a ha ↦ ?_
  obtain ⟨hfind, happroved⟩ := Option.filter_eq_some_iff.mp ha
  refine ensure_bind hdraft fun _ ↦ ?_
  refine Obeys.quiet_bind (issues_perform trivial) hdraft fun now ↦ ?_
  refine ensure_bind hdraft fun _ ↦ orHttp_bind hdraft fun granted hgranted ↦ ?_
  refine ensure_bind hdraft fun hversion ↦ ensure_bind hdraft fun haction ↦ ?_
  refine ensure_bind hdraft fun _ ↦ Obeys.ret ⟨rfl, ?_, ?_⟩
  · exact ⟨List.mem_of_find?_eq_some hfind, happroved, ⟨granted, hgranted, by simpa using hversion⟩,
      haction⟩
  · have hmatch := List.find?_some hfind
    rw [hid, ← beq_iff_eq.mp hmatch]

theorem acceptApproval_obeys (r : IncidentRecord) (payload : ExecutePayload)
    (decision : PolicyDecision)
    (hbound : ∀ a, needsApproval payload decision = true → Accepts r a payload.action →
      payload.approvalId = some a.approvalId → bound r a payload.action) :
    Obeys regime grant bound (acceptApproval r payload decision) (fun _ d ↦ d = .held r r)
      (.held r r) := by
  rw [acceptApproval]
  split
  · next hneeds =>
    refine (checkApproval_obeys r payload (Clean.held r).settled).bind ?_
    rintro a d ⟨rfl, ha, hid⟩
    exact ⟨⟨⟨rfl, hbound a hneeds ha hid⟩, fun _ _ ↦ False.elim⟩, fun _ _ ↦ rfl⟩
  · exact Obeys.ret rfl

theorem policyDecision_obeys (cfg : Settings) (r : IncidentRecord) (plan : ResponsePlan)
    (payload : ExecutePayload) :
    Obeys regime grant bound (policyDecision cfg r plan payload)
      (fun decision d ↦ d = draft ∧ ∃ decisionId t,
        decision = decisionOn cfg r plan payload decisionId t) draft := by
  refine (Obeys.perform (show Op.quiet .uuid4 from trivial)).bind ?_
  rintro hex d rfl
  refine (Obeys.perform (show Op.quiet .utcnow from trivial)).bind ?_
  rintro evaluatedAt d rfl
  exact Obeys.ret ⟨rfl, _, _, rfl⟩

theorem authorize_obeys (cfg : Settings) (incidentId : String) (payload : ExecutePayload)
    (hbound : ∀ r a, r.incidentId = incidentId → Known regime draft incidentId r →
      RequiresApproval cfg r payload → Accepts r a payload.action →
      payload.approvalId = some a.approvalId → bound r a payload.action) (h : Clean draft) :
    Obeys regime grant bound (authorize cfg incidentId payload)
      (fun g d ↦ d = .held g.incident g.incident) draft := by
  refine (getOrHttp_obeys incidentId _ _ h).bind ?_
  rintro r d ⟨rfl, hid, hknown⟩
  have hsettled : Settled regime (.held r r) := (Clean.held r).settled
  refine orHttp_bind hsettled fun plan hplan ↦ ensure_bind hsettled fun _ ↦ ?_
  refine (blockInvestigateOnly_obeys cfg incidentId r payload).bind ?_
  rintro _ d rfl
  refine ensure_bind hsettled fun _ ↦ ?_
  refine (policyDecision_obeys cfg r plan payload).bind ?_
  rintro decision d ⟨rfl, decisionId, t, rfl⟩
  refine (blockDenied_obeys incidentId r payload _).bind ?_
  rintro _ d rfl
  refine (acceptApproval_obeys r payload _ fun a hneeds ha happrovalId ↦ ?_).bind ?_
  · refine hbound r a hid hknown ⟨plan, hplan, ?_⟩ ha happrovalId
    rwa [needsApproval_decisionOn cfg r plan payload "" decisionId 0 t]
  · rintro _ d rfl
    exact Obeys.ret rfl

/-! ### The run of the action -/

theorem runWithRetries_quiet (action : ActionRequest) (n : ℕ) :
    (runWithRetries action n).Issues Op.quiet :=
  (runWithRetries_issues action n).mono fun _ ho ↦ ho ▸ trivial

theorem execute_quiet (action : ActionRequest) : (execute action).Issues Op.quiet := by
  refine issues_bind (issues_perform trivial) fun answer ↦ ?_
  rcases answer with f | granted
  · trivial
  · cases granted
    · trivial
    · exact issues_bind (runWithRetries_quiet action _) fun _ ↦
        issues_bind (issues_perform trivial) fun _ ↦ trivial

theorem executionAgentRun_quiet (action : ActionRequest) :
    (executionAgentRun action).Issues Op.quiet :=
  issues_bind (issues_perform trivial) fun _ ↦ issues_bind (execute_quiet action) fun _ ↦
    issues_bind (issues_perform trivial) fun _ ↦ trivial

theorem verifyActionRecovery_quiet (cfg : Settings) (action : ActionRequest) :
    (verifyActionRecovery cfg action).Issues Op.quiet := by
  rw [verifyActionRecovery]
  split_ifs
  · trivial
  · exact issues_bind (issues_perform trivial) fun answer ↦
      issues_bind (orRaise_issues answer) fun _ ↦
      trivial
  · trivial

theorem Edit.of_trace {b r : IncidentRecord} (entry : ExecutionTraceEntry) (h : Edit b r) :
    Edit b (r.withTrace entry) :=
  h.trans { Edit.refl r with executionTrace := List.prefix_append _ _ }

theorem verifyPerformed_obeys (cfg : Settings) (incidentId : String) (action : ActionRequest)
    {b r : IncidentRecord} (result : ActionResult) (hr : Edit b r) (hdraft : Working b draft) :
    Obeys regime grant bound (verifyPerformed cfg incidentId action r result)
      (fun o d ↦ Edit b o.incident ∧ Working b d) draft := by
  rw [verifyPerformed]
  split
  · refine Obeys.quiet_bind (verifyActionRecovery_quiet cfg action) hdraft.settled fun v ↦ ?_
    refine Obeys.quiet_bind (agent_quiet (newTraceEntry_issues _ _ _ _ _)) hdraft.settled
      fun entry ↦ ?_
    refine (Obeys.assign (hr.of_trace entry) hdraft).bind fun _ d hd ↦ ?_
    exact Obeys.quiet_bind (issues_perform trivial) hd.settled fun _ ↦ ⟨hr.of_trace entry, hd⟩
  · exact ⟨hr, hdraft⟩

/-- While an action runs, the record is only edited. -/
theorem performAction_obeys (cfg : Settings) (incidentId : String) (action : ActionRequest)
    (r : IncidentRecord) :
    Obeys regime grant bound (performAction cfg incidentId action r)
      (fun o d ↦ Edit r o.incident ∧ Working r d) (.held r r) := by
  refine Obeys.quiet_bind (agent_quiet (newTraceEntry_issues _ _ _ _ _)) (Clean.held r).settled
    fun entry ↦ ?_
  have hstarted : Edit r ({ r with state := .executing }.withTrace entry) :=
    Edit.of_trace entry { Edit.refl r with state := Or.inr rfl }
  refine (Obeys.assign hstarted (Working.refl r)).bind fun _ d hd ↦ ?_
  refine Obeys.quiet_bind (executionAgentRun_quiet action) hd.settled fun result ↦ ?_
  refine Obeys.quiet_bind (agent_quiet (newTraceEntry_issues _ _ _ _ _)) hd.settled fun entry' ↦ ?_
  have hran : Edit r ({ ({ r with state := .executing }.withTrace entry) with
      executedActions := r.executedActions ++ [result] }.withTrace entry') :=
    Edit.of_trace entry' (hstarted.trans
      { Edit.refl _ with executedActions := List.prefix_append _ _ })
  refine (Obeys.assign hran hd).bind fun _ d' hd' ↦ ?_
  exact verifyPerformed_obeys cfg incidentId action result hran hd'

theorem withOutcome_commit {b r : IncidentRecord} (h : Edit b r) (dryRun success verified : Bool) :
    Commit grant b (withOutcome r dryRun success verified) := by
  have hlive (hb : Live b) : Live (withOutcome r dryRun success verified) := by
    rw [withOutcome, Live]
    dsimp only
    split_ifs <;> simp
  have hsound (hb : Sound b) : Sound (withOutcome r dryRun success verified) := by
    refine hb.of_state ?_ h.responsePlan
    rw [withOutcome]
    dsimp only
    split_ifs <;> simp
  have hprogress : Progress b (withOutcome r dryRun success verified) :=
    ⟨h.incidentId, h.version, hlive, hsound, h.executedActions, h.decisionRecords,
      h.executionTrace⟩
  exact hprogress.commit h.approvals grant

theorem recordOutcome_obeys (incidentId : String) (payload : ExecutePayload) (g : Authorized)
    (dryRun : Bool) {b : IncidentRecord} (o : Performed) (hr : Edit b o.incident)
    (hdraft : Working b draft) :
    Obeys regime grant bound (recordOutcome incidentId payload g dryRun o) (fun _ ↦ Clean)
      draft := by
  refine (Obeys.save (withOutcome_commit hr dryRun _ _) hdraft).bind ?_
  rintro r' d ⟨rfl, -⟩
  refine Obeys.quiet_bind (issues_perform trivial) (Clean.held r').settled fun _ ↦ ?_
  refine Obeys.quiet_bind ?_ (Clean.held r').settled fun _ ↦ Clean.held r'
  rw [escalate]
  split
  · exact issues_perform trivial
  · trivial

theorem executeAction_obeys (cfg : Settings) (incidentId : String) (payload : ExecutePayload)
    (hbound : ∀ r a, r.incidentId = incidentId → Known regime draft incidentId r →
      RequiresApproval cfg r payload → Accepts r a payload.action →
      payload.approvalId = some a.approvalId → bound r a payload.action) (h : Clean draft) :
    Obeys regime grant bound (executeAction cfg incidentId payload) (fun _ ↦ Clean) draft := by
  refine (authorize_obeys cfg incidentId payload hbound h).bind ?_
  rintro g d rfl
  refine (performAction_obeys cfg incidentId _ g.incident).bind fun o d ho ↦ ?_
  exact recordOutcome_obeys incidentId payload g _ o ho.1 ho.2

/-- The forwarded action is the first pending one of its id. -/
theorem forwarded_fromGraph {r : IncidentRecord} {graph : ActionGraph} {action : ActionRequest}
    (payload : IncidentExecutePayload) (hgraph : r.pendingActionGraph = some graph)
    (haction : pendingAction graph payload.actionId = some action) :
    FromGraph r (forwardedPayload r payload action).action := by
  refine ⟨graph, action, hgraph, ?_, rfl⟩
  change graph.actions.find? (fun item ↦ item.actionId == action.actionId) = some action
  rw [pendingAction, List.find?_eq_some_iff_append] at haction
  obtain ⟨hmatch, before, after, hsplit, hbefore⟩ := haction
  rw [List.find?_eq_some_iff_append]
  refine ⟨by simp, before, after, hsplit, fun item hitem ↦ ?_⟩
  have hno := hbefore item hitem
  cases hid : payload.actionId with
  | none => simp [hid] at hno
  | some actionId =>
    simp only [hid, Option.all_some, beq_iff_eq] at hmatch hno
    subst hmatch
    rwa [Bool.beq_comm] at hno

theorem executeIncident_obeys (cfg : Settings) (incidentId : String)
    (payload : IncidentExecutePayload)
    (hbound : ∀ r a action, Subject regime incidentId r → Accepts r a action →
      (regime.isSome → FromGraph r action) → bound r a action) :
    Obeys regime grant bound (executeIncident cfg incidentId payload) (fun _ ↦ Clean)
      .fresh := by
  refine (getOrHttp_obeys incidentId _ _ (Or.inl rfl)).bind ?_
  rintro s d ⟨rfl, hid, hfresh⟩
  have hsettled : Settled regime (.held s s) := (Clean.held s).settled
  refine orHttp_bind hsettled fun graph hgraph ↦ orHttp_bind hsettled fun action haction ↦ ?_
  refine executeAction_obeys cfg incidentId _ (fun r a hr hknown _ ha _ ↦ ?_) (Clean.held s)
  refine hbound r a _ ⟨hr, hfresh.again hknown hid⟩ ha fun hregime ↦ ?_
  rw [hknown.of_held hid hregime]
  exact forwarded_fromGraph payload (Option.filter_eq_some_iff.mp hgraph).1 haction

end

/-! ## All calls -/

/-- **Every call keeps the discipline.** In either mode, and among other handlers. A call that
returns has saved everything. -/
theorem Call.obeys (cfg : Settings) (regime : Regime) (c : Call) :
    Obeys regime (c.grants regime) (c.bound cfg regime) (c.handler cfg) (fun _ ↦ Draft.Complete)
      .fresh := by
  cases c with
  | ingest payload => exact discard_obeys (ingest_obeys cfg payload)
  | createAlert payload requestId => exact discard_obeys (createAlert_obeys cfg payload requestId)
  | routeIncident incidentId =>
    exact discard_obeys ((routeIncident_obeys cfg incidentId (Or.inl rfl)).mono fun r _ h ↦
      h ▸ Clean.held r)
  | processIncident incidentId =>
    exact processIncident_obeys cfg incidentId
  | createPlan incidentId => exact discard_obeys (createPlan_obeys cfg incidentId (Or.inl rfl))
  | investigateIncident incidentId => exact discard_obeys (investigateIncident_obeys cfg incidentId)
  | recordApproval incidentId payload =>
    exact discard_obeys (recordApproval_obeys incidentId payload
      (fun r a hr hknown ha ↦ ⟨⟨hr, hknown.of_fresh⟩, ha⟩) (Or.inl rfl))
  | approveIncident incidentId payload =>
    exact discard_obeys (approveIncident_obeys incidentId payload
      fun r a forwarded hr hf ha ↦ ⟨hr, forwarded, hf, ha⟩)
  | executeAction incidentId payload =>
    exact discard_obeys (executeAction_obeys cfg incidentId payload
      (fun r a hr hknown hneeds ha hid ↦ ⟨⟨hr, hknown.of_fresh⟩, ha, rfl, hneeds, hid⟩)
      (Or.inl rfl))
  | executeIncident incidentId payload =>
    exact discard_obeys (executeIncident_obeys cfg incidentId payload
      fun r a action hr ha hf ↦ ⟨hr, ha, hf⟩)

theorem Call.meets (cfg : Settings) (regime : Regime) (c : Call) :
    (c.handler cfg).Meets (discipline regime (c.grants regime) (c.bound cfg regime))
      (fun _ ↦ Settled regime) .fresh :=
  (Call.obeys cfg regime c).meets fun _ _ hd ↦ hd.settled

end IncidentPlatform
