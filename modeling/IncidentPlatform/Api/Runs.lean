import IncidentPlatform.Api.Conduct

/-!
# Sequential runs

A run is a list of calls, each made when the one before has ended, from a store without incidents.
The outside is arbitrary: what it answers, and how far the clock moves between two operations.

`stable_after` carries a stable invariant along a run; `accepts_every_call` draws what it says about
the moments at which an approval is accepted. Both leave room for a condition `ok` on the calls, in
terms of the request and of what is stored when it arrives.
-/

namespace IncidentPlatform

open Interaction

section

variable (cfg : Settings) (env : Env) (mode : Mode)

/-- The world a call leaves behind. -/
def Call.after (w : World) (c : Call) : World := ((c.handler cfg).run (serve env mode) w).2

/-- The world a run leaves behind. -/
def after (w : World) (calls : List Call) : World := calls.foldl (Call.after cfg env mode) w

/-- Every call of the run satisfies `P`, in the world it starts in. -/
def EveryCall (P : World → Call → Prop) : World → List Call → Prop
  | _, [] => True
  | w, c :: calls => P w c ∧ EveryCall P (c.after cfg env mode w) calls

instance EveryCall.decidable {P : World → Call → Prop} [∀ w c, Decidable (P w c)] :
    (calls : List Call) → (w : World) → Decidable (EveryCall cfg env mode P w calls)
  | [], _ => isTrue trivial
  | c :: calls, w =>
    have : Decidable (EveryCall cfg env mode P (c.after cfg env mode w) calls) :=
      EveryCall.decidable calls (c.after cfg env mode w)
    inferInstanceAs (Decidable (P w c ∧ EveryCall cfg env mode P (c.after cfg env mode w) calls))

end

/-- No incident has been stored yet. -/
structure NoIncidents (w : World) : Prop where
  rows : w.rows = []
  history : w.history = []

theorem NoIncidents.stored {w : World} (h : NoIncidents w) (incidentId : String) :
    w.stored incidentId = none := by
  rw [World.stored, h.rows]
  rfl

theorem NoIncidents.writes {w : World} (h : NoIncidents w) (incidentId : String) :
    w.writes incidentId = [] := by
  rw [World.writes, h.history]
  rfl

section

variable {cfg : Settings} {env : Env} {mode : Mode} {ok P Q : World → Call → Prop}
  {I : World → Prop} {w : World} {calls : List Call}

theorem EveryCall.mono (hPQ : ∀ w c, P w c → Q w c) :
    ∀ {w : World}, EveryCall cfg env mode P w calls → EveryCall cfg env mode Q w calls := by
  induction calls with
  | nil => exact fun _ ↦ trivial
  | cons c calls ih => exact fun h ↦ ⟨hPQ _ _ h.1, ih h.2⟩

/-- One call, whose grants keep the invariant. -/
theorem Call.stable_after {c : Call} (hI : Stable mode (c.grants (some ⟨mode, w⟩)) I) (hw : I w) :
    I (c.after cfg env mode w) :=
  hI.run (Call.meets cfg (some ⟨mode, w⟩) c) hw

/-- **The rule for a run.** A stable invariant holds whenever a call of the run starts. -/
theorem stable_every_call (hI : ∀ w c, ok w c → Stable mode (c.grants (some ⟨mode, w⟩)) I) :
    ∀ {w : World}, I w → EveryCall cfg env mode ok w calls →
      EveryCall cfg env mode (fun w c ↦ I w ∧ ok w c) w calls := by
  induction calls with
  | nil => exact fun _ _ ↦ trivial
  | cons c calls ih =>
    exact fun hw hok ↦ ⟨⟨hw, hok.1⟩, ih (Call.stable_after (hI _ c hok.1) hw) hok.2⟩

/-- A stable invariant holds when the run has ended. -/
theorem stable_after (hI : ∀ w c, Stable mode (Call.grants (some ⟨mode, w⟩) c) I) (hw : I w) :
    I (after cfg env mode w calls) := by
  induction calls generalizing w with
  | nil => exact hw
  | cons c calls ih => exact ih (Call.stable_after (hI w c) hw)

/-- In every run and in either mode the stored incidents are sound. -/
theorem sound_after (hw : NoIncidents w) : (after cfg env mode w calls).Every Sound := by
  refine stable_after (fun _ _ ↦ sound_stable) fun incidentId r hr ↦ ?_
  rw [hw.stored] at hr
  cases hr

/-- What holds at the acceptance of an approval; other operations are not restricted. -/
def OnAccept (P : World → IncidentRecord → ApprovalRecord → ActionRequest → Prop) (w : World) :
    Op → Prop
  | .accepted r a action => P w r a action
  | _ => True

theorem OnAccept.mono {A B : World → IncidentRecord → ApprovalRecord → ActionRequest → Prop}
    (hAB : ∀ w r a action, A w r a action → B w r a action) {w : World} {o : Op}
    (h : OnAccept A w o) : OnAccept B w o := by
  cases o with
  | accepted r a action => exact hAB w r a action h
  | _ => trivial

instance {A : World → IncidentRecord → ApprovalRecord → ActionRequest → Prop}
    [∀ w r a action, Decidable (A w r a action)] (w : World) :
    (o : Op) → Decidable (OnAccept A w o)
  | .accepted r a action => inferInstanceAs (Decidable (A w r a action))
  | .utcnow | .uuid4 | .get _ | .getByDedupeKey _ | .previous _ | .touch _ | .write _ | .audit _ _
  | .claim _ _ | .registryRun _ | .verifyRecovery | .setIfAbsent _ _ | .releaseLock _ _
  | .collect _ _ _ | .recentDeployments _ | .triageLLM _ | .evidenceLLM _ _ | .changeLLM _ _
  | .rcaLLM _ | .plannerLLM _ | .routerLLM _ _ => isTrue trivial

/-- When a call accepts an approval, the invariant holds and the record it looks at is stored. -/
theorem Call.accepts {c : Call} {A : World → IncidentRecord → ApprovalRecord → ActionRequest → Prop}
    (hI : Stable mode (c.grants (some ⟨mode, w⟩)) I) (hw : I w)
    (hA : ∀ v r a action, I v → v.stored r.incidentId = some r →
      c.bound cfg (some ⟨mode, w⟩) r a action → A v r a action) :
    (c.handler cfg).Always (serve env mode) (OnAccept A) w := by
  refine Prog.Always.mono ?_ ((Call.meets cfg (some ⟨mode, w⟩) c).always (tracks_step hI)
    (⟨rfl, hw⟩ : Tracks ⟨mode, w⟩ I w .fresh))
  rintro v o ⟨draft, htracks, hguar⟩
  cases o with
  | accepted r a action =>
    obtain ⟨rfl, hbound⟩ := hguar
    have hstored : v.stored r.incidentId = some r := by
      cases mode <;> exact htracks.consistent.2
    exact hA v r a action (htracks.inv hI (Clean.held r)) hstored hbound
  | _ => trivial

/-- **The rule for accepted approvals.** In every run whose calls satisfy `ok`. -/
theorem accepts_every_call
    {A : World → IncidentRecord → ApprovalRecord → ActionRequest → Prop}
    (hI : ∀ w c, ok w c → Stable mode (c.grants (some ⟨mode, w⟩)) I)
    (hA : ∀ w c v r a action, ok w c → I v → v.stored r.incidentId = some r →
      c.bound cfg (some ⟨mode, w⟩) r a action → A v r a action)
    (hw : I w) (hok : EveryCall cfg env mode ok w calls) :
    EveryCall cfg env mode (fun w c ↦ (c.handler cfg).Always (serve env mode) (OnAccept A) w) w
      calls :=
  (stable_every_call hI hw hok).mono fun w c h ↦
    Call.accepts (hI w c h.2) h.1 fun v r a action hv hr hbound ↦
      hA w c v r a action h.2 hv hr hbound

end

/-! ## A checkout incident -/

/-- The alert of a faulty deployment of the checkout service. -/
def checkoutAlert : IngestPayload where
  severity := "high"
  service := "checkout-service"
  resource := "checkout-service"
  symptom := "checkout deployment errors"

/-- The incident the alert opens in an empty store. -/
def checkoutId : String := "inc_000100000000"

/-- The calls that take the alert to its first plan. -/
def checkoutPlanned : List Call :=
  [.ingest checkoutAlert, .routeIncident checkoutId, .createPlan checkoutId]

example : ((after Settings.demo Env.demo .postgres {} checkoutPlanned).stored checkoutId).bind
    IncidentRecord.pendingApprovalActionId = some "act_003a0000" := by decide +kernel

/-- The approval of the planned rollback, on the version the client names. -/
def approveRollback (expectedIncidentVersion : Option ℤ) : Call :=
  .recordApproval checkoutId
    { approver := "oncall", actionId := "act_003a0000", approved := true, expectedIncidentVersion }

/-- The request to run the planned rollback on `target` with that approval. -/
def rollbackOn (target : String) : ExecutePayload where
  action :=
    { actionId := "act_003a0000"
      actionType := .rollbackDeployment
      target
      parameters := [("service", .str "checkout-service"),
        ("deployment", .str "checkout-service"), ("to_revision", .str "checkout-r42")]
      idempotencyKey := checkoutId ++ ":rollback:checkout-r42" }
  approvalId := some "apr_0042000000"
  approvalToken := some "token_00430000000000000000000000000000"

def executeRollback (target : String) : Call := .executeAction checkoutId (rollbackOn target)

end IncidentPlatform
