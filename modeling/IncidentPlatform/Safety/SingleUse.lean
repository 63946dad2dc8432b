import IncidentPlatform.Api.Outcome
import IncidentPlatform.Safety.Updates

/-!
# How often one approval is used

An approval is never marked as used. Two requests that read the incident before either stores its
outcome both find it valid, and whether both run is then a matter of the idempotency keys of their
actions. `POST /execute` takes the key from the client, so one approval can be used once per key.
`POST /incidents/{incident_id}/execute` takes the action, and with it the key, from the pending
graph, so there an approval that names an action is used once.
-/

namespace IncidentPlatform

open Interaction

/-! ## What a request is let through with -/

/-- How far an execute request has come. -/
structure Pass where
  /-- It is for a pending action of the incident. -/
  planned : Bool
  /-- The approval it was let through with. -/
  approval : Option ApprovalRecord := none
  /-- The idempotency key it was granted. -/
  claimed : Option String := none

/-- The action an approval names. -/
def ApprovalRecord.names (a : ApprovalRecord) : Option String := orText a.actionId none

/-- The idempotency key of a pending action. -/
def plannedKey (graph : Option ActionGraph) (actionId : String) : Option String :=
  graph.bind fun g ↦ (g.actions.find? fun item ↦ item.actionId == actionId).map
    ActionRequest.idempotencyKey

/-- What a request tells of itself. -/
def Pass.next (m : Pass) : (o : Op) → Ans o → Pass
  | .accepted _ a _, _ => { m with approval := some a }
  | .claim key _, .ok true => { m with claimed := some key }
  | _, _ => m

/-- An execute request on an incident with a given pending graph: it leaves the graph alone, claims
once, and for a pending action the key of the action its approval names. -/
def executionContract (incidentId : String) (graph : Option ActionGraph) :
    Contract Op Ans Pass where
  guar m
    | .get i => i = incidentId
    | .write r => r.pendingActionGraph = graph
    | .accepted _ _ _ => m.claimed = none
    | .claim key _ => m.claimed = none ∧ (m.planned = true → ∀ a ∈ m.approval, ∀ actionId ∈ a.names,
        plannedKey graph actionId = some key)
    | _ => True
  rely _
    | .get _, answer => ∀ r ∈ answer, r.pendingActionGraph = graph
    | _, _ => True
  next := Pass.next

/-- The operations that are all the same to it. -/
def Op.calm : Op → Prop
  | .get _ | .write _ | .accepted _ _ _ | .claim _ _ => False
  | _ => True

/-! ## Every execute request keeps the contract -/

/-- A piece of an execution, ending with `R` if it returns. -/
def Conducts {α : Type} (incidentId : String) (graph : Option ActionGraph) (p : Handler α)
    (R : α → Pass → Prop) (m : Pass) : Prop :=
  p.Meets (executionContract incidentId graph) (Prog.Returning R) m

namespace Conducts

variable {α β : Type} {incidentId : String} {graph : Option ActionGraph} {m : Pass}
  {R : α → Pass → Prop} {S : β → Pass → Prop}

theorem ret {a : α} (h : R a m) : Conducts incidentId graph (pure a) R m := h

theorem bind {p : Handler α} {f : α → Handler β} (hp : Conducts incidentId graph p R m)
    (hf : ∀ a m', R a m' → Conducts incidentId graph (f a) S m') :
    Conducts incidentId graph (p >>= f) S m :=
  Prog.Meets.returning_bind hp hf

theorem calm {p : Handler α} (h : p.Issues Op.calm) :
    Conducts incidentId graph p (fun _ m' ↦ m' = m) m := by
  refine Prog.Meets.mono (fun r m' hm ↦ ?_) (Prog.Meets.of_issues (fun o ho ↦ ?_)
    (fun o a b ho ↦ ?_) (fun o a ho ↦ ?_) h)
  · cases r
    · trivial
    · exact hm
  · cases o <;> trivial
  · exact id
  · cases o <;> first | rfl | exact ho.elim

theorem calm_bind {p : Handler α} {f : α → Handler β} (h : p.Issues Op.calm)
    (hf : ∀ a, Conducts incidentId graph (f a) S m) : Conducts incidentId graph (p >>= f) S m :=
  (calm h).bind fun a _ hm ↦ hm ▸ hf a

theorem perform_bind {o : Op} {f : Ans o → Handler β} (ho : o.calm)
    (hf : ∀ a, Conducts incidentId graph (f a) S m) :
    Conducts incidentId graph (perform o >>= f) S m :=
  calm_bind ⟨ho, fun _ ↦ trivial⟩ hf

theorem ensure_bind {b : Bool} {status : ℕ} {detail : String} {f : Unit → Handler β}
    (hf : b = true → Conducts incidentId graph (f ()) S m) :
    Conducts incidentId graph (ensure b status detail >>= f) S m := by
  cases b
  · trivial
  · exact hf rfl

theorem orHttp_bind {a : Option α} {status : ℕ} {detail : String} {f : α → Handler β}
    (hf : ∀ x, a = some x → Conducts incidentId graph (f x) S m) :
    Conducts incidentId graph (orHttp a status detail >>= f) S m := by
  rcases a with _ | x
  · trivial
  · exact hf x rfl

/-- Reading the incident. -/
theorem get_bind {f : Option IncidentRecord → Handler β}
    (hf : ∀ answer, (∀ r ∈ answer, r.pendingActionGraph = graph) →
      Conducts incidentId graph (f answer) S m) :
    Conducts incidentId graph (perform (.get incidentId) >>= f) S m :=
  ⟨⟨rfl, fun _ _ ↦ False.elim⟩, hf⟩

/-- Saving a record with the pending graph as it was. -/
theorem save {r : IncidentRecord} (hr : r.pendingActionGraph = graph) :
    Conducts incidentId graph (save r) (fun _ m' ↦ m' = m) m := by
  refine perform_bind (by trivial) fun _ ↦ perform_bind (by trivial) fun previous ↦ ?_
  refine calm_bind ?_ fun _ ↦ perform_bind (by trivial) fun t ↦ ?_
  · unfold validateStateTransition
    split
    · trivial
    · unfold require
      split_ifs <;> trivial
  · exact ⟨⟨hr, fun _ _ ↦ False.elim⟩, fun _ _ ↦ rfl⟩

end Conducts

section

variable {incidentId : String} {graph : Option ActionGraph} {m : Pass}

theorem withBlocked_graph (r : IncidentRecord) (actionType : ActionType) :
    (withBlocked r actionType).pendingActionGraph = r.pendingActionGraph := by
  rw [withBlocked]
  split_ifs <;> rfl

/-- Refusing a request raises, after a save. -/
theorem blockInvestigateOnly_conducts (cfg : Settings) {r : IncidentRecord}
    (payload : ExecutePayload) (hr : r.pendingActionGraph = graph) :
    Conducts incidentId graph (blockInvestigateOnly cfg incidentId r payload)
      (fun _ m' ↦ m' = m) m := by
  rw [blockInvestigateOnly]
  split
  · exact Conducts.ret rfl
  · refine Conducts.perform_bind (by trivial) fun _ ↦ ?_
    exact (Conducts.save ((withBlocked_graph r _).trans hr)).bind fun _ _ _ ↦ trivial

theorem blockDenied_conducts {r : IncidentRecord} (payload : ExecutePayload)
    (decision : PolicyDecision) (hr : r.pendingActionGraph = graph) :
    Conducts incidentId graph (blockDenied incidentId r payload decision)
      (fun _ m' ↦ m' = m) m := by
  rw [blockDenied]
  split
  · exact Conducts.ret rfl
  · refine (Conducts.save ((withBlocked_graph r _).trans hr)).bind fun _ _ _ ↦ ?_
    exact Conducts.perform_bind (by trivial) fun _ ↦ trivial

/-- An accepted approval is one for the action. -/
theorem acceptApproval_conducts (r : IncidentRecord) (payload : ExecutePayload)
    (decision : PolicyDecision) (hm : m.claimed = none) (hnone : m.approval = none) :
    Conducts incidentId graph (acceptApproval r payload decision)
      (fun _ m' ↦ m'.planned = m.planned ∧ m'.claimed = none ∧
        ∀ a ∈ m'.approval, approvalMatchesAction a payload.action = true) m := by
  rw [acceptApproval]
  split
  · have hcheck : Conducts incidentId graph (checkApproval r payload)
        (fun a m' ↦ m' = m ∧ approvalMatchesAction a payload.action = true) m := by
      refine Conducts.orHttp_bind fun approvalId _ ↦ Conducts.orHttp_bind fun a _ ↦ ?_
      refine Conducts.ensure_bind fun _ ↦ Conducts.perform_bind (by trivial) fun now ↦ ?_
      refine Conducts.ensure_bind fun _ ↦ Conducts.orHttp_bind fun granted _ ↦ ?_
      refine Conducts.ensure_bind fun _ ↦ Conducts.ensure_bind fun hmatch ↦ ?_
      exact Conducts.ensure_bind fun _ ↦ Conducts.ret ⟨rfl, hmatch⟩
    refine hcheck.bind ?_
    rintro a m' ⟨rfl, hmatch⟩
    refine ⟨⟨hm, fun _ _ ↦ False.elim⟩, fun _ _ ↦ ⟨rfl, hm, ?_⟩⟩
    rintro b hb
    cases hb
    exact hmatch
  · refine Conducts.ret ⟨rfl, hm, fun a ha ↦ ?_⟩
    rw [hnone] at ha
    cases ha

/-- A request that is let through has a key to claim. -/
def Ready (graph : Option ActionGraph) (m : Pass) (action : ActionRequest) : Prop :=
  m.claimed = none ∧ (m.planned = true → ∀ a ∈ m.approval, ∀ actionId ∈ a.names,
    plannedKey graph actionId = some action.idempotencyKey)

theorem authorize_conducts (cfg : Settings) (payload : ExecutePayload)
    (hm : m.claimed = none) (hnone : m.approval = none)
    (hplanned : m.planned = true → plannedKey graph payload.action.actionId
      = some payload.action.idempotencyKey) :
    Conducts incidentId graph (authorize cfg incidentId payload)
      (fun g m' ↦ g.incident.pendingActionGraph = graph ∧ Ready graph m' payload.action) m := by
  refine Conducts.get_bind fun answer hanswer ↦ Conducts.orHttp_bind fun r hr ↦ ?_
  have hgraph := hanswer r hr
  refine Conducts.orHttp_bind fun plan _ ↦ Conducts.ensure_bind fun _ ↦ ?_
  refine (blockInvestigateOnly_conducts cfg payload hgraph).bind ?_
  rintro _ m' rfl
  refine Conducts.ensure_bind fun _ ↦ ?_
  refine Conducts.calm_bind ⟨trivial, fun _ ↦ ⟨trivial, fun _ ↦ trivial⟩⟩ fun decision ↦ ?_
  refine (blockDenied_conducts payload decision hgraph).bind ?_
  rintro _ m' rfl
  refine (acceptApproval_conducts r payload decision hm hnone).bind ?_
  rintro _ m' ⟨hkept, hclaimed, hmatch⟩
  refine Conducts.ret ⟨hgraph, hclaimed, fun hp a ha actionId hnames ↦ ?_⟩
  have hid := hmatch a ha
  rw [approvalMatchesAction, ← ApprovalRecord.names, Option.mem_def.mp hnames] at hid
  rw [beq_iff_eq.mp hid]
  exact hplanned (hkept ▸ hp)

theorem verifyActionRecovery_calm (cfg : Settings) (action : ActionRequest) :
    (verifyActionRecovery cfg action).Issues Op.calm := by
  rw [verifyActionRecovery]
  split_ifs
  · trivial
  · refine ⟨trivial, fun answer ↦ ?_⟩
    cases answer <;> trivial
  · trivial

theorem runClaimed_calm (action : ActionRequest) : (runClaimed action).Issues Op.calm := by
  refine Prog.Issues.bind ?_ fun result ↦ ⟨trivial, fun _ ↦ trivial⟩
  exact (runWithRetries_issues action _).mono fun _ ho ↦ ho ▸ trivial

/-- The one claim of an execution. -/
theorem execute_conducts {action : ActionRequest} (h : Ready graph m action) :
    Conducts incidentId graph (execute action) (fun _ _ ↦ True) m := by
  refine ⟨⟨h, fun _ _ ↦ False.elim⟩, fun answer _ ↦ ?_⟩
  rcases answer with f | granted
  · trivial
  · cases granted
    · trivial
    · exact Prog.Meets.returning_mono (fun _ _ _ ↦ trivial) (Conducts.calm (runClaimed_calm action))

theorem newTraceEntry_calm (phase message : String) (actionId : Option String)
    (success : Option Bool) (replanRequested : Bool) :
    (newTraceEntry phase message actionId success replanRequested).Issues Op.calm :=
  ⟨trivial, fun _ ↦ ⟨trivial, fun _ ↦ trivial⟩⟩

theorem performAction_conducts (cfg : Settings) {action : ActionRequest} {r : IncidentRecord}
    (hr : r.pendingActionGraph = graph) (h : Ready graph m action) :
    Conducts incidentId graph (performAction cfg incidentId action r)
      (fun o _ ↦ o.incident.pendingActionGraph = graph) m := by
  refine Conducts.calm_bind (newTraceEntry_calm _ _ _ _ _) fun entry ↦ ?_
  refine Conducts.perform_bind (by trivial) fun _ ↦ ?_
  have hrun : Conducts incidentId graph (executionAgentRun action) (fun _ _ ↦ True) m := by
    refine Conducts.perform_bind (by trivial) fun _ ↦ (execute_conducts h).bind fun _ _ _ ↦ ?_
    exact Conducts.perform_bind (by trivial) fun _ ↦ trivial
  refine hrun.bind fun result m' _ ↦ ?_
  refine Conducts.calm_bind (newTraceEntry_calm _ _ _ _ _) fun entry' ↦ ?_
  refine Conducts.perform_bind (by trivial) fun _ ↦ ?_
  rw [verifyPerformed]
  split
  · refine Conducts.calm_bind (verifyActionRecovery_calm cfg action) fun v ↦ ?_
    refine Conducts.calm_bind (newTraceEntry_calm _ _ _ _ _) fun entry'' ↦ ?_
    refine Conducts.perform_bind (by trivial) fun _ ↦ ?_
    exact Conducts.perform_bind (by trivial) fun _ ↦ hr
  · exact hr

theorem recordOutcome_conducts (payload : ExecutePayload) (g : Authorized) (dryRun : Bool)
    {o : Performed} (ho : o.incident.pendingActionGraph = graph) :
    Conducts incidentId graph (recordOutcome incidentId payload g dryRun o) (fun _ _ ↦ True) m := by
  have hsaved : (withOutcome o.incident dryRun o.result.success o.verified).pendingActionGraph
      = graph := ho
  refine (Conducts.save hsaved).bind fun _ _ _ ↦ ?_
  refine Conducts.perform_bind (by trivial) fun _ ↦ Conducts.calm_bind ?_ fun _ ↦ trivial
  rw [escalate]
  split
  · exact ⟨trivial, fun _ ↦ trivial⟩
  · trivial

theorem executeAction_conducts (cfg : Settings) (payload : ExecutePayload)
    (hm : m.claimed = none) (hnone : m.approval = none)
    (hplanned : m.planned = true → plannedKey graph payload.action.actionId
      = some payload.action.idempotencyKey) :
    Conducts incidentId graph (executeAction cfg incidentId payload) (fun _ _ ↦ True) m := by
  refine (authorize_conducts cfg payload hm hnone hplanned).bind fun g m' hg ↦ ?_
  have hready : Ready graph m' (runAction cfg payload) := hg.2
  refine (performAction_conducts cfg hg.1 hready).bind fun o _ ho ↦ ?_
  exact recordOutcome_conducts payload g _ ho

theorem executeIncident_conducts (cfg : Settings) (payload : IncidentExecutePayload)
    (hm : m.claimed = none) (hnone : m.approval = none) :
    Conducts incidentId graph (executeIncident cfg incidentId payload) (fun _ _ ↦ True) m := by
  refine Conducts.get_bind fun answer hanswer ↦ Conducts.orHttp_bind fun r hr ↦ ?_
  refine Conducts.orHttp_bind fun pending hpending ↦ Conducts.orHttp_bind fun action haction ↦ ?_
  refine executeAction_conducts cfg (forwardedPayload r payload action) hm hnone fun _ ↦ ?_
  have hgraph := (Option.filter_eq_some_iff.mp hpending).1
  obtain ⟨graph', found, hgraph', hfound, heq⟩ := forwarded_fromGraph payload hgraph haction
  rw [hanswer r hr] at hgraph'
  rw [plannedKey, hgraph', Option.bind_some, hfound, Option.map_some, heq]

end

/-- The call is for a pending action of its incident. -/
def Call.planned : Call → Bool
  | .executeIncident _ _ => true
  | _ => false

/-- **Every execute request keeps the contract.** -/
theorem Call.meets_executionContract (cfg : Settings) {incidentId : String}
    (graph : Option ActionGraph) {c : Call} (hc : c.Executes incidentId) :
    (c.handler cfg).Meets (executionContract incidentId graph) (fun _ _ ↦ True)
      { planned := c.planned } := by
  have hdiscard {α : Type} {p : Handler α} {m : Pass}
      (h : Conducts incidentId graph p (fun _ _ ↦ True) m) :
      (discard p).Meets (executionContract incidentId graph) (fun _ _ ↦ True) m := by
    have hret : Conducts incidentId graph (discard p) (fun _ _ ↦ True) m :=
      h.bind fun _ _ _ ↦ trivial
    exact Prog.Meets.mono (fun _ _ _ ↦ trivial) hret
  cases c with
  | executeAction i payload =>
    cases hc
    exact hdiscard (executeAction_conducts cfg payload rfl rfl nofun)
  | executeIncident i payload =>
    cases hc
    exact hdiscard (executeIncident_conducts cfg payload rfl rfl)
  | _ => exact hc.elim

/-! ## Pools of execute requests -/

/-- The requests `call i`, running concurrently. -/
def executePool {ι : Type*} (cfg : Settings) (w : World) (call : ι → Call) :
    Pool Op Ans Exc Unit Pass World ι where
  shared := w
  thread i := ⟨{ planned := (call i).planned }, (call i).handler cfg⟩

/-- Two requests were let through by one approval, and both got past the claim. -/
def Pass.Shares (m m' : Pass) : Prop :=
  m.approval.isSome ∧ m.approval = m'.approval ∧ m.claimed.isSome ∧ m'.claimed.isSome

instance (m m' : Pass) : Decidable (m.Shares m') := inferInstanceAs (Decidable (_ ∧ _ ∧ _ ∧ _))

/-- Where nothing is at stake but the key: both claimed the same one, or both are for a pending
action and the approval names one. -/
def Pass.SameKey (m m' : Pass) : Prop :=
  m.claimed = m'.claimed ∨
    m.planned = true ∧ m'.planned = true ∧ (m.approval.bind ApprovalRecord.names).isSome

/-- What holds of concurrent execute requests while Postgres is available. -/
structure Claims {ι : Type*} (incidentId : String) (graph : Option ActionGraph) (w : World)
    (m : ι → Pass) : Prop where
  stored : ∀ r ∈ w.stored incidentId, r.pendingActionGraph = graph
  table : ∀ i, ∀ key ∈ (m i).claimed, key ∈ w.keys.tableKeys
  distinct : ∀ i j, ∀ key ∈ (m i).claimed, key ∈ (m j).claimed → i = j
  planned : ∀ i, (m i).planned = true → ∀ key ∈ (m i).claimed, ∀ a ∈ (m i).approval,
    ∀ actionId ∈ a.names, plannedKey graph actionId = some key

/-- With Postgres available a claim is granted if and only if its key is new, and adds it. -/
theorem World.claim_available {env : Env} (henv : ∀ n, env.reach n = ⟨true, true⟩) (w : World)
    (key actionId : String) :
    w.claimAnswer env key actionId = .ok (decide (key ∉ w.keys.tableKeys)) ∧
      (w.claimed env key actionId).keys.tableKeys =
        if key ∈ w.keys.tableKeys then w.keys.tableKeys else w.keys.tableKeys ++ [key] := by
  rw [World.claimAnswer, World.claimed, henv]
  cases hready : w.keys.schemaReady
  · rw [IdempotencyStore.claim_of_schema hready rfl]
    exact ⟨IdempotencyStore.insertKey_fst _ rfl, IdempotencyStore.insertKey_tableKeys _ rfl⟩
  · rw [IdempotencyStore.claim_of_ready hready]
    exact ⟨IdempotencyStore.insertKey_fst _ rfl, IdempotencyStore.insertKey_tableKeys _ rfl⟩

section

variable {ι : Type*} {incidentId : String} {graph : Option ActionGraph} {w w' : World}
  {m : ι → Pass} {env : Env}

/-- A step that changes neither incidents nor keys, by a request that has claimed nothing new. -/
theorem Claims.congr (h : Claims incidentId graph w m) (hrows : w'.rows = w.rows)
    (hkeys : w'.keys = w.keys) : Claims incidentId graph w' m where
  stored := by
    rw [World.stored_congr hrows]
    exact h.stored
  table := by
    rw [hkeys]
    exact h.table
  distinct := h.distinct
  planned := h.planned

theorem Claims.write (h : Claims incidentId graph w m) {r : IncidentRecord}
    (hr : r.pendingActionGraph = graph) : Claims incidentId graph (w.written r) m where
  stored := by
    intro s hs
    rw [World.stored_written] at hs
    split_ifs at hs
    · cases hs
      exact hr
    · exact h.stored s hs
  table := h.table
  distinct := h.distinct
  planned := h.planned

/-- Two requests that share an approval, and the key, are one. -/
theorem Claims.eq_of_sameKey (h : Claims incidentId graph w m) {i j : ι}
    (hshares : (m i).Shares (m j)) (hkey : (m i).SameKey (m j)) : i = j := by
  obtain ⟨happroval, hsame, hi, hj⟩ := hshares
  obtain ⟨k, hk⟩ := Option.isSome_iff_exists.mp hi
  obtain ⟨l, hl⟩ := Option.isSome_iff_exists.mp hj
  rcases hkey with hclaimed | ⟨hpi, hpj, hnames⟩
  · exact h.distinct i j k hk (hclaimed ▸ hk)
  · obtain ⟨a, ha⟩ := Option.isSome_iff_exists.mp happroval
    rw [ha, Option.bind_some] at hnames
    obtain ⟨actionId, hid⟩ := Option.isSome_iff_exists.mp hnames
    have hik := h.planned i hpi k hk a ha actionId hid
    have hjl := h.planned j hpj l hl a (hsame ▸ ha) actionId hid
    have hkl : k = l := Option.some.inj (hik.symm.trans hjl)
    exact h.distinct i j k hk (hkl ▸ hl)

variable [DecidableEq ι]

/-- A step that tells nothing new of a request. -/
theorem Claims.idle (h : Claims incidentId graph w m) (i : ι) :
    Claims incidentId graph w (Function.update m i (m i)) := by
  rw [Function.update_eq_self]
  exact h

/-- A request is let through before it claims. -/
theorem Claims.accept (h : Claims incidentId graph w m) (i : ι) (a : ApprovalRecord)
    (hi : (m i).claimed = none) :
    Claims incidentId graph w (Function.update m i { m i with approval := some a }) := by
  have hclaimed (j : ι) : (Function.update m i { m i with approval := some a } j).claimed
      = (m j).claimed := by
    by_cases hj : j = i
    · subst hj
      rw [Function.update_self]
    · rw [Function.update_of_ne hj]
  refine ⟨h.stored, fun j ↦ ?_, fun j k ↦ ?_, fun j ↦ ?_⟩
  · rw [hclaimed]
    exact h.table j
  · rw [hclaimed, hclaimed]
    exact h.distinct j k
  · by_cases hj : j = i
    · subst hj
      rw [hclaimed, hi]
      exact fun _ _ hkey ↦ nomatch hkey
    · rw [Function.update_of_ne hj]
      exact h.planned j

/-- A granted key was nobody's before. -/
theorem Claims.grant (h : Claims incidentId graph w m) (i : ι) {key : String}
    (hnew : key ∉ w.keys.tableKeys) (hrows : w'.rows = w.rows)
    (hkeys : w'.keys.tableKeys = w.keys.tableKeys ++ [key])
    (hplanned : (m i).planned = true → ∀ a ∈ (m i).approval, ∀ actionId ∈ a.names,
      plannedKey graph actionId = some key) :
    Claims incidentId graph w' (Function.update m i { m i with claimed := some key }) := by
  have hother {j : ι} {k : String} (hj : k ∈ (m j).claimed) : k ≠ key := fun hk ↦
    hnew (hk ▸ h.table j k hj)
  refine ⟨?_, fun j k hk ↦ ?_, fun j l k hj hl ↦ ?_, fun j ↦ ?_⟩
  · rw [World.stored_congr hrows]
    exact h.stored
  · rw [hkeys, List.mem_append, List.mem_singleton]
    by_cases hj : j = i
    · subst hj
      rw [Function.update_self] at hk
      exact Or.inr (Option.some.inj hk).symm
    · rw [Function.update_of_ne hj] at hk
      exact Or.inl (h.table j k hk)
  -- Two requests with the same key: if one is the new one, its key would not be new.
  · by_cases hji : j = i <;> by_cases hli : l = i
    · exact hji.trans hli.symm
    · subst hji
      rw [Function.update_self] at hj
      rw [Function.update_of_ne hli] at hl
      exact absurd (Option.some.inj hj).symm (hother hl)
    · subst hli
      rw [Function.update_self] at hl
      rw [Function.update_of_ne hji] at hj
      exact absurd (Option.some.inj hl).symm (hother hj)
    · rw [Function.update_of_ne hji] at hj
      rw [Function.update_of_ne hli] at hl
      exact h.distinct j l k hj hl
  · by_cases hj : j = i
    · subst hj
      rw [Function.update_self]
      intro hp k hk
      cases hk
      exact hplanned hp
    · rw [Function.update_of_ne hj]
      exact h.planned j

/-- One operation of a request, while Postgres is available. -/
theorem claims_step (henv : ∀ n, env.reach n = ⟨true, true⟩) (w : World) (m : ι → Pass) (i : ι)
    (o : Op) (h : Claims incidentId graph w m)
    (hguar : (executionContract incidentId graph).guar (m i) o) :
    (executionContract incidentId graph).rely (m i) o (serve env .postgres w o).1 ∧
      Claims incidentId graph (serve env .postgres w o).2
        (Function.update m i ((m i).next o (serve env .postgres w o).1)) := by
  have hticked : Claims incidentId graph { w with tick := w.tick + 1 } m := h.congr rfl rfl
  cases o with
  | get incidentId' =>
    cases hguar
    exact ⟨h.stored, hticked.idle i⟩
  | write r => exact ⟨trivial, (hticked.write hguar).idle i⟩
  | accepted r a action => exact ⟨trivial, hticked.accept i a hguar⟩
  | claim key actionId =>
    refine ⟨trivial, ?_⟩
    obtain ⟨hanswer, htable⟩ := World.claim_available henv w key actionId
    rw [serve_claim, hanswer]
    by_cases hkey : key ∈ w.keys.tableKeys
    -- A key that is in the table is refused, and nothing changes.
    · rw [if_pos hkey] at htable
      rw [decide_eq_false (not_not.mpr hkey)]
      have hkept : Claims incidentId graph (w.claimed env key actionId) m :=
        ⟨h.stored, fun j k hk ↦ htable ▸ h.table j k hk, h.distinct, h.planned⟩
      exact hkept.idle i
    · rw [if_neg hkey] at htable
      rw [decide_eq_true hkey]
      exact h.grant i hkey rfl htable hguar.2
  | _ => exact ⟨trivial, Claims.congr (h.idle i) rfl rfl⟩

end

/-- **One use per approval and key.** With Postgres available, under any schedule of any number of
execute requests on one incident, an approval lets at most one request past the claim of a key. If
the approval names an action, it lets at most one request for a pending action past the claim. -/
theorem approvals_used_once_per_key {ι : Type*} [DecidableEq ι] (cfg : Settings) (env : Env)
    (henv : ∀ n, env.reach n = ⟨true, true⟩) (w : World) (incidentId : String) (call : ι → Call)
    (hcall : ∀ i, (call i).Executes incidentId) (schedule : List ι) :
    let pool := (executePool cfg w call).run (serve env .postgres) Pass.next schedule
    ∀ i j, (pool.thread i).ghost.Shares (pool.thread j).ghost →
      (pool.thread i).ghost.SameKey (pool.thread j).ghost → i = j := by
  let graph := (w.stored incidentId).bind IncidentRecord.pendingActionGraph
  have hstart : Claims incidentId graph w fun i ↦ { planned := (call i).planned } := by
    refine ⟨fun r hr ↦ ?_, (fun _ _ hk ↦ nomatch hk), (fun _ _ _ hk ↦ nomatch hk),
      (fun _ _ _ hk ↦ nomatch hk)⟩
    rw [Option.mem_def] at hr
    simp only [graph, hr, Option.bind_some]
  have hrun := (Pool.run_invariant (executionContract incidentId graph) (Claims incidentId graph)
    (fun _ _ _ ↦ True) (fun v m i o hK hguar _ ↦ claims_step henv v m i o hK hguar) schedule
    (executePool cfg w call) hstart (fun i ↦ Call.meets_executionContract cfg graph (hcall i))
    (Pool.admits_true _ _)).1
  exact fun i j ↦ hrun.eq_of_sameKey

/-- The request to run the planned rollback under a key of the client's choice. -/
def rollbackWithKey (idempotencyKey : String) : Call :=
  .executeAction checkoutId
    { action :=
        { actionId := "act_003a0000"
          actionType := .rollbackDeployment
          target := "checkout-service"
          parameters := [("service", .str "checkout-service"),
            ("deployment", .str "checkout-service"), ("to_revision", .str "checkout-r42")]
          idempotencyKey }
      approvalId := some "apr_0042000000"
      approvalToken := some "token_00430000000000000000000000000000" }

/-- Two requests with keys of their own, after the approval of the planned rollback. -/
def twoRollbacks : Pool Op Ans Exc Unit Pass World (Fin 2) :=
  executePool Settings.demo
    (after Settings.demo Env.demo .postgres {} (checkoutPlanned ++ [approveRollback none]))
    fun i ↦ rollbackWithKey (if i.val = 0 then "first" else "second")

/-- Both requests read before either stores its outcome, and one approval is used twice. -/
theorem approval_used_twice :
    ¬ ∀ (schedule : List (Fin 2)) (i j : Fin 2),
      ((twoRollbacks.run (serve Env.demo .postgres) Pass.next schedule).thread i).ghost.Shares
        ((twoRollbacks.run (serve Env.demo .postgres) Pass.next schedule).thread j).ghost →
          i = j := by
  intro h
  have hone := h (List.replicate 12 0 ++ List.replicate 12 1) 0 1
  exact absurd (hone (by decide +kernel)) (by decide)

/-- Two requests with one key, one after the other. -/
theorem approvals_used_once_one_key :
    let pool := (executePool Settings.demo
      (after Settings.demo Env.demo .postgres {} (checkoutPlanned ++ [approveRollback none]))
      fun _ : Fin 2 ↦ rollbackWithKey "first").run (serve Env.demo .postgres) Pass.next
        (List.replicate 12 0 ++ List.replicate 12 1)
    ∀ i j, (pool.thread i).ghost.Shares (pool.thread j).ghost →
      (pool.thread i).ghost.SameKey (pool.thread j).ghost → i = j :=
  approvals_used_once_per_key Settings.demo Env.demo (fun _ ↦ rfl) _ checkoutId
    (fun _ ↦ rollbackWithKey "first") (fun _ ↦ rfl) (List.replicate 12 0 ++ List.replicate 12 1)

end IncidentPlatform
