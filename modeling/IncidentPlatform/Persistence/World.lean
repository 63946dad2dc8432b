import IncidentPlatform.Interaction.Rows
import IncidentPlatform.Interaction.Program
import IncidentPlatform.Persistence.Idempotency

/-!
# The operations of the platform, and the world that answers them

Every `await` of the modelled code that reaches outside the running coroutine is an operation
`Op`, and so are the reads of the clock and of `uuid4`. `World` holds what the operations act on:
the incidents, the audit log and the idempotency store. Everything else, adapters, workload,
language model, telemetry, Redis and the clock, is an `Env`, a stream of arbitrary answers.

The incident repository runs in one of two modes. In Postgres mode `get` parses a fresh copy of
the row, so a handler's assignments to its record stay invisible until its `upsert`. In fallback
mode `get` returns the stored object itself, so they do not. A handler announces the fields of its
record with `touch` before every point where something else can run or the handler can stop;
`touch` has no effect in Postgres mode and overwrites the stored object in fallback mode. That is
the shared object as long as one handler runs at a time: two handlers on one incident would also see
each other's assignments in their own records. What is said of the contents of records under every
schedule is therefore said in Postgres mode only.

Repository and audit log are up: in Postgres mode the database stays available. `history` and the
operation `accepted` only observe. No program reads them.
-/

namespace IncidentPlatform

open Interaction

/-- The mode of the incident repository. -/
inductive Mode where
  | postgres
  | fallback
  deriving DecidableEq, Repr

/-- What ends a handler before it returns. -/
inductive Exc where
  /-- `HTTPException`. -/
  | http (status : ℕ) (detail : String)
  /-- The `ValueError` of `_validate_state_transition`. -/
  | invalidTransition (previous next : IncidentState) (incidentId : String)
  /-- The `OverflowError` of a datetime out of range. -/
  | overflow
  | fault (f : Fault)
  deriving DecidableEq, Repr

inductive Op where
  | utcnow
  | uuid4
  /-- `repository.get`. -/
  | get (incidentId : String)
  /-- `repository.get_by_dedupe_key`. -/
  | getByDedupeKey (dedupeKey : String)
  /-- The `get` that `upsert` starts with. -/
  | previous (incidentId : String)
  /-- The assignments made to the handler's record so far. -/
  | touch (incident : IncidentRecord)
  /-- The write that `upsert` ends with. -/
  | write (incident : IncidentRecord)
  /-- `audit_store.append`. -/
  | audit (eventType : String) (payload : Dict)
  /-- `idempotency_store.claim`. -/
  | claim (key actionId : String)
  /-- One `asyncio.wait_for(registry.run(action, …), action.timeout_seconds)`. -/
  | registryRun (action : ActionRequest)
  /-- `CheckoutServiceClient().verify_recovery()`. -/
  | verifyRecovery
  /-- `hot_state.set_if_absent` and `acquire_lock`. -/
  | setIfAbsent (key value : String)
  | releaseLock (key token : String)
  /-- The metrics, log and topology collectors. -/
  | collect (tool : ActionType) (service resource : String)
  | recentDeployments (service : String)
  | triageLLM (incident : IncidentRecord)
  | evidenceLLM (incident : IncidentRecord) (raw : List (String × String))
  | changeLLM (incident : IncidentRecord) (rawDeployments : String)
  | rcaLLM (incident : IncidentRecord)
  | plannerLLM (incident : IncidentRecord)
  | routerLLM (incident : IncidentRecord) (deterministicNext : String)
  /-- A mark, not a step of the code: `execute_action` has accepted `approval` for `action`. -/
  | accepted (incident : IncidentRecord) (approval : ApprovalRecord) (action : ActionRequest)

/-- The answer of an operation. Where the code outside can raise, the answer is an `Except`. -/
abbrev Ans : Op → Type
  | .utcnow => Time
  | .uuid4 => String
  | .get _ | .getByDedupeKey _ | .previous _ => Option IncidentRecord
  | .touch _ | .write _ | .audit _ _ | .accepted _ _ _ => Unit
  | .claim _ _ => Except Fault Bool
  | .registryRun _ => Except Fault AdapterResult
  | .verifyRecovery => Except Fault (Bool × Dict)
  | .setIfAbsent _ _ | .releaseLock _ _ => Bool
  | .collect _ _ _ | .recentDeployments _ => Except Fault String
  | .triageLLM _ => Except Fault TriageLLMOutput
  | .evidenceLLM _ _ => Except Fault (List EvidenceLLMItem)
  | .changeLLM _ _ => Except Fault ChangeCorrelationLLMOutput
  | .rcaLLM _ => Except Fault (List RCAHypothesisItem)
  | .plannerLLM _ => Except Fault PlannerLLMOutput
  | .routerLLM _ _ => Except Fault RouterLLMOutput

/-- A handler, an agent, or a piece of one. -/
abbrev Handler := Prog Op Ans Exc

/-- Issue one operation. -/
abbrev perform (o : Op) : Handler (Ans o) := Prog.op o

/-! ## The world -/

/-- The answers of everything outside the stores. Attempts, verifications and claims are counted
separately, every other answer is a function of the number of operations before it. -/
structure Env where
  demoMode : Bool
  now : ℕ → Time
  /-- The 32 hexadecimal digits of `uuid4().hex`. -/
  uuid : ℕ → String
  reach : ℕ → Reach
  attempt : ℕ → ActionRequest → Except Fault AdapterResult
  verify : ℕ → Except Fault (Bool × Dict)
  hotState : ℕ → Bool
  telemetry : ℕ → Except Fault String
  triage : ℕ → Except Fault TriageLLMOutput
  evidence : ℕ → Except Fault (List EvidenceLLMItem)
  change : ℕ → Except Fault ChangeCorrelationLLMOutput
  rca : ℕ → Except Fault (List RCAHypothesisItem)
  planner : ℕ → Except Fault PlannerLLMOutput
  router : ℕ → Except Fault RouterLLMOutput

/-- `n` in hexadecimal, padded to the 32 digits of a `uuid4().hex`. -/
def hexDigits (n : ℕ) : String :=
  String.ofList ([n / 4096 % 16, n / 256 % 16, n / 16 % 16, n % 16].map Nat.digitChar ++
    List.replicate 28 '0')

/-- An outside where everything answers and succeeds, and the clock moves on by a second with every
operation. -/
def Env.demo : Env where
  demoMode := true
  now n := 1700000000000000 + 1000000 * n
  uuid := hexDigits
  reach _ := ⟨true, true⟩
  attempt _ action := .ok ⟨true, "Dry-run completed for " ++ action.actionType.value, []⟩
  verify _ := .ok (true, [("healthy", .bool true)])
  hotState _ := true
  telemetry _ := .ok "\x7b\"cpu_percent\": 92\x7d"
  triage _ := .error .httpError
  evidence _ := .error .httpError
  change _ := .error .httpError
  rca _ := .error .httpError
  planner _ := .error .httpError
  router _ := .error .httpError

/-- A row of the audit log. -/
structure AuditEvent where
  eventType : String
  payload : Dict
  createdAt : Time
  deriving Repr, Inhabited

structure World where
  /-- The incidents table, or the fallback dictionary. -/
  rows : List IncidentRecord := []
  /-- Every record that was written, oldest first. -/
  history : List IncidentRecord := []
  events : List AuditEvent := []
  keys : IdempotencyStore := {}
  attempts : ℕ := 0
  verifications : ℕ := 0
  claims : ℕ := 0
  tick : ℕ := 0
  deriving Repr, Inhabited

namespace World

/-- The stored incident of an id. -/
def stored (w : World) (incidentId : String) : Option IncidentRecord :=
  lookup IncidentRecord.incidentId w.rows incidentId

/-- The records written for an id, oldest first. -/
def writes (w : World) (incidentId : String) : List IncidentRecord :=
  w.history.filter fun r ↦ r.incidentId == incidentId

/-- `ORDER BY updated_at DESC LIMIT 1`. -/
def newest : List IncidentRecord → Option IncidentRecord
  | [] => none
  | r :: rows =>
    match newest rows with
    | some s => if r.updatedAt < s.updatedAt then some s else some r
    | none => some r

/-- The fields of a handler's record become visible, in fallback mode and if it is stored. -/
def touched (w : World) (mode : Mode) (r : IncidentRecord) : World :=
  match mode with
  | .postgres => w
  | .fallback =>
    if (w.stored r.incidentId).isSome then { w with rows := put IncidentRecord.incidentId w.rows r }
    else w

/-- The row of the record is replaced, and the write remembered. -/
def written (w : World) (r : IncidentRecord) : World :=
  { w with rows := put IncidentRecord.incidentId w.rows r, history := w.history ++ [r] }

end World

/-- Answer one operation. -/
def serve (env : Env) (mode : Mode) (w : World) (o : Op) : Ans o × World :=
  let w' := { w with tick := w.tick + 1 }
  match o with
  | .utcnow => (env.now w.tick, w')
  | .uuid4 => (env.uuid w.tick, w')
  | .get incidentId | .previous incidentId => (w.stored incidentId, w')
  | .getByDedupeKey dedupeKey =>
    (World.newest (w.rows.filter fun r ↦ r.metadata.dedupeKey == dedupeKey), w')
  | .touch r => ((), w'.touched mode r)
  | .write r => ((), w'.written r)
  | .audit eventType payload =>
    ((), { w' with events := w.events ++ [{ eventType, payload, createdAt := env.now w.tick }] })
  | .claim key actionId =>
    let r := w.keys.claim env.demoMode (env.reach w.claims) (env.now w.tick) key actionId
    (r.1, { w' with keys := r.2, claims := w.claims + 1 })
  | .registryRun action =>
    (env.attempt w.attempts action, { w' with attempts := w.attempts + 1 })
  | .verifyRecovery =>
    (env.verify w.verifications, { w' with verifications := w.verifications + 1 })
  | .setIfAbsent _ _ | .releaseLock _ _ => (env.hotState w.tick, w')
  | .collect _ _ _ | .recentDeployments _ => (env.telemetry w.tick, w')
  | .triageLLM _ => (env.triage w.tick, w')
  | .evidenceLLM _ _ => (env.evidence w.tick, w')
  | .changeLLM _ _ => (env.change w.tick, w')
  | .rcaLLM _ => (env.rca w.tick, w')
  | .plannerLLM _ => (env.planner w.tick, w')
  | .routerLLM _ _ => (env.router w.tick, w')
  | .accepted _ _ _ => ((), w')

section

variable (env : Env) (mode : Mode) (w : World)

@[simp] theorem serve_utcnow :
    serve env mode w .utcnow = (env.now w.tick, { w with tick := w.tick + 1 }) := rfl

@[simp] theorem serve_uuid4 :
    serve env mode w .uuid4 = (env.uuid w.tick, { w with tick := w.tick + 1 }) := rfl

@[simp] theorem serve_get (incidentId : String) : serve env mode w (.get incidentId)
    = (w.stored incidentId, { w with tick := w.tick + 1 }) := rfl

@[simp] theorem serve_previous (incidentId : String) : serve env mode w (.previous incidentId)
    = (w.stored incidentId, { w with tick := w.tick + 1 }) := rfl

@[simp] theorem serve_touch (r : IncidentRecord) : serve env mode w (.touch r)
    = ((), ({ w with tick := w.tick + 1 } : World).touched mode r) := rfl

@[simp] theorem serve_write (r : IncidentRecord) : serve env mode w (.write r)
    = ((), ({ w with tick := w.tick + 1 } : World).written r) := rfl

@[simp] theorem serve_audit (eventType : String) (payload : Dict) :
    serve env mode w (.audit eventType payload) =
      ((), { w with
        events := w.events ++ [{ eventType, payload, createdAt := env.now w.tick }]
        tick := w.tick + 1 }) := rfl

@[simp] theorem serve_registryRun (action : ActionRequest) :
    serve env mode w (.registryRun action) = (env.attempt w.attempts action,
      { w with attempts := w.attempts + 1, tick := w.tick + 1 }) := rfl

@[simp] theorem serve_verifyRecovery : serve env mode w .verifyRecovery =
    (env.verify w.verifications,
      { w with verifications := w.verifications + 1, tick := w.tick + 1 }) := rfl

@[simp] theorem serve_accepted (r : IncidentRecord) (approval : ApprovalRecord)
    (action : ActionRequest) : serve env mode w (.accepted r approval action)
      = ((), { w with tick := w.tick + 1 }) := rfl

/-- The answer of a claim. -/
def World.claimAnswer (key actionId : String) : Except Fault Bool :=
  (w.keys.claim env.demoMode (env.reach w.claims) (env.now w.tick) key actionId).1

/-- An answer depends on the store and on the number of the claim. -/
theorem World.claimAnswer_congr {w' : World} (hkeys : w'.keys = w.keys)
    (hclaims : w'.claims = w.claims) (key actionId : String) :
    w'.claimAnswer env key actionId = w.claimAnswer env key actionId := by
  rw [claimAnswer, claimAnswer, hkeys, hclaims]
  exact IdempotencyStore.claim_fst _ _

@[simp] theorem World.claimAnswer_tick (tick : ℕ) (key actionId : String) :
    ({ w with tick } : World).claimAnswer env key actionId = w.claimAnswer env key actionId := by
  have hkeys : ({ w with tick } : World).keys = w.keys := rfl
  exact World.claimAnswer_congr env w hkeys rfl key actionId

/-- The world after a claim. -/
def World.claimed (key actionId : String) : World :=
  { w with
    keys := (w.keys.claim env.demoMode (env.reach w.claims) (env.now w.tick) key actionId).2
    claims := w.claims + 1
    tick := w.tick + 1 }

@[simp] theorem serve_claim (key actionId : String) : serve env mode w (.claim key actionId)
    = (w.claimAnswer env key actionId, w.claimed env key actionId) := rfl

end

/-- Running a handler that starts with an operation. -/
theorem run_perform_bind {α : Type} (env : Env) (mode : Mode) (o : Op) (f : Ans o → Handler α)
    (w : World) : (perform o >>= f).run (serve env mode) w
      = (f (serve env mode w o).1).run (serve env mode) (serve env mode w o).2 := rfl

theorem trace_perform_bind {α : Type} (env : Env) (mode : Mode) (o : Op) (f : Ans o → Handler α)
    (w : World) : (perform o >>= f).trace (serve env mode) w
      = ⟨o, (serve env mode w o).1⟩ ::
        (f (serve env mode w o).1).trace (serve env mode) (serve env mode w o).2 := rfl

theorem issues_perform_bind {α : Type} {P : Op → Prop} {o : Op} {f : Ans o → Handler α} :
    (perform o >>= f).Issues P ↔ P o ∧ ∀ a, (f a).Issues P := Iff.rfl

theorem total_perform_bind {α : Type} {o : Op} {f : Ans o → Handler α} :
    (perform o >>= f).Total ↔ ∀ a, (f a).Total := Iff.rfl

theorem yields_perform_bind {α : Type} {R : α → Prop} {o : Op} {f : Ans o → Handler α} :
    (perform o >>= f).Yields R ↔ ∀ a, (f a).Yields R := Iff.rfl

/-! ## What an operation leaves alone -/

/-- The operations that can change a stored incident. -/
def Op.edits : Op → Bool
  | .touch _ | .write _ => true
  | _ => false

section

variable {env : Env} {mode : Mode} {w : World} {o : Op}

theorem serve_rows (h : o.edits = false) : (serve env mode w o).2.rows = w.rows := by
  cases o <;> first | rfl | cases h

theorem serve_history (h : ∀ r, o ≠ .write r) : (serve env mode w o).2.history = w.history := by
  cases o with
  | write r => exact absurd rfl (h r)
  | touch r =>
    cases mode with
    | postgres => rfl
    | fallback =>
      simp only [serve, World.touched]
      split_ifs <;> rfl
  | _ => rfl

theorem serve_postgres_rows (h : ∀ r, o ≠ .write r) :
    (serve env .postgres w o).2.rows = w.rows := by
  cases o with
  | write r => exact absurd rfl (h r)
  | _ => rfl

theorem World.stored_written (w : World) (r : IncidentRecord) (incidentId : String) :
    (w.written r).stored incidentId =
      if r.incidentId = incidentId then some r else w.stored incidentId :=
  lookup_put _ _ _

theorem World.writes_written (w : World) (r : IncidentRecord) (incidentId : String) :
    (w.written r).writes incidentId =
      if r.incidentId = incidentId then w.writes incidentId ++ [r] else w.writes incidentId := by
  rw [writes, written, List.filter_append, ← writes]
  by_cases h : r.incidentId = incidentId
  · rw [if_pos h, List.filter_cons, if_pos (beq_iff_eq.mpr h), List.filter_nil]
  · rw [if_neg h, List.filter_cons, if_neg (by simpa using h), List.filter_nil, List.append_nil]

end

end IncidentPlatform
