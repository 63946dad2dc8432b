import IncidentPlatform.Api.Runs

/-!
# Concurrent handlers, and the updates they lose

Every handler reads an incident, awaits agents or adapters, and saves its copy as a whole. Postgres
orders the saves but nothing makes a save depend on what is stored by then: the version is computed
from a read inside `upsert`, not from the record the handler started from. `updates_kept` is what
holds as long as every save finds stored what its handler last read or wrote.
-/

namespace IncidentPlatform

open Interaction

/-- Everything that was appended to `p` is still there in `r`. -/
structure Extends (p r : IncidentRecord) : Prop where
  approvals : p.approvals <+: r.approvals
  executedActions : p.executedActions <+: r.executedActions
  decisionRecords : p.decisionRecords <+: r.decisionRecords
  executionTrace : p.executionTrace <+: r.executionTrace

theorem Extends.trans {p r s : IncidentRecord} (h : Extends p r) (h' : Extends r s) :
    Extends p s where
  approvals := h.approvals.trans h'.approvals
  executedActions := h.executedActions.trans h'.executedActions
  decisionRecords := h.decisionRecords.trans h'.decisionRecords
  executionTrace := h.executionTrace.trans h'.executionTrace

instance : Trans Extends Extends Extends := ⟨Extends.trans⟩

/-- A commit extends its base. -/
theorem Commit.extends {grant : IncidentRecord → ApprovalRecord → Prop} {b c : IncidentRecord}
    (h : Commit grant b c) : Extends b c where
  approvals := by
    rcases h.approvals with hsame | ⟨a, -, hadded, -⟩
    · rw [hsame]
    · rw [hadded]
      exact List.prefix_append _ _
  executedActions := h.executedActions
  decisionRecords := h.decisionRecords
  executionTrace := h.executionTrace

/-! ## Pools of handlers -/

/-- What every handler promises, among others. -/
def handlerContract : Contract Op Ans Draft :=
  discipline none (fun _ _ ↦ True) fun _ _ _ ↦ True

theorem Call.meets_handlerContract (cfg : Settings) (c : Call) :
    (c.handler cfg).Meets handlerContract (fun _ _ ↦ True) .fresh := by
  have hcommit {b r : IncidentRecord} (h : Commit (c.grants none) b r) :
      Commit (fun _ _ ↦ True) b r :=
    ⟨h.toProgress, h.approvals.imp id fun ⟨a, _, hadded⟩ ↦ ⟨a, trivial, hadded⟩⟩
  refine Prog.Meets.mono (fun _ _ _ ↦ trivial) ((Call.meets cfg none c).weaken handlerContract
    (fun draft o h ↦ ?_) (fun _ _ _ _ h ↦ h) (fun _ _ _ h ↦ h) rfl)
  cases o with
  | get => exact h
  | getByDedupeKey => exact h
  | touch r =>
    obtain ⟨b, d, hdraft, hr⟩ := h
    exact ⟨b, d, hdraft, hr.imp id hcommit⟩
  | previous => exact h.imp id fun ⟨b, d, hdraft, hid, hd⟩ ↦ ⟨b, d, hdraft, hid, hcommit hd⟩
  | write =>
    exact h.imp (fun ⟨b, d, previous, hdraft, hd, hr⟩ ↦ ⟨b, d, previous, hdraft, hcommit hd, hr⟩) id
  | accepted => exact ⟨h.1, trivial⟩
  | _ => trivial

/-- The record a save is based on: what its handler last read or wrote. -/
def Draft.base : Draft → Option IncidentRecord
  | .checked b _ _ => some b
  | _ => none

/-- A save finds stored what it is based on, and the first save of an incident finds nothing. -/
def FindsBase (w : World) (draft : Draft) : Op → Prop
  | .write r => w.stored r.incidentId = draft.base
  | _ => True

/-- The calls `call i`, running concurrently on top of what `w` has stored. -/
def handlerPool {ι : Type*} (cfg : Settings) (w : World) (call : ι → Call) :
    Pool Op Ans Exc Unit Draft World ι where
  shared := { w with history := [] }
  thread i := ⟨.fresh, (call i).handler cfg⟩

/-- **No lost update among saves that find their base.** In Postgres mode and under any schedule of
any number of concurrent calls: if every save finds stored what its handler last read or wrote, then
everything appended to an incident stays. -/
theorem updates_kept {ι : Type*} [DecidableEq ι] (cfg : Settings) (env : Env) (w : World)
    (incidentId : String) (call : ι → Call) (schedule : List ι)
    (hfinds : (handlerPool cfg w call).Admits (serve env .postgres) handlerContract.next FindsBase
      schedule) :
    (storedSince (w.stored incidentId) incidentId
      ((handlerPool cfg w call).run (serve env .postgres) handlerContract.next schedule).shared
        ).Pairwise Extends := by
  refine ((Pool.run_invariant handlerContract
    (fun v _ ↦ Chained Extends (w.stored incidentId) incidentId v) FindsBase ?_ schedule
    (handlerPool cfg w call) (Chained.observe w) (fun i ↦ Call.meets_handlerContract cfg (call i))
    hfinds).1.chain).pairwise
  intro v drafts i o hchained hguar hok
  refine ⟨?_, ?_⟩
  · cases o with
    | get => exact ⟨fun r hr ↦ key_of_lookup hr, fun _ hnone ↦ nomatch hnone⟩
    | previous => exact ⟨fun r hr ↦ key_of_lookup hr, fun _ hnone ↦ nomatch hnone⟩
    | _ => trivial
  by_cases hwrite : ∃ r, o = .write r
  swap
  · have hno (r : IncidentRecord) : o ≠ .write r := fun hr ↦ hwrite ⟨r, hr⟩
    exact hchained.congr (serve_postgres_rows hno) (serve_history hno)
  obtain ⟨r, rfl⟩ := hwrite
  let v' : World := { v with tick := v.tick + 1 }
  have hchained' : Chained Extends (w.stored incidentId) incidentId v' := hchained.congr rfl rfl
  by_cases hid : r.incidentId = incidentId
  swap
  · exact hchained'.written_of_ne hid
  refine hchained'.written hid fun p hp ↦ ?_
  have hbase : some p = (drafts i).base := (hid ▸ hp : v.stored r.incidentId = some p) ▸ hok
  -- The write commits an edit of its base, or it creates a record and there was none.
  rcases hguar with ⟨b, c, previous, hdraft, hcommit, -, updatedAt, rfl⟩ | ⟨c, previous, hdraft, -⟩
  · rw [hdraft] at hbase
    cases hbase
    exact { hcommit.extends with }
  · rw [hdraft] at hbase
    cases hbase

/-- Two approvals of the planned rollback. -/
def twoApprovals (w : World) : Pool Op Ans Exc Unit Draft World (Fin 2) :=
  handlerPool Settings.demo w fun _ ↦ approveRollback none

/-- Both calls read before either saves, and the second save removes the first approval. -/
theorem approval_lost :
    ¬ ∀ schedule, (storedSince
        ((after Settings.demo Env.demo .postgres {} checkoutPlanned).stored checkoutId) checkoutId
        ((twoApprovals (after Settings.demo Env.demo .postgres {} checkoutPlanned)).run
          (serve Env.demo .postgres) handlerContract.next schedule).shared).Pairwise Extends := by
  intro h
  have hkept := (h ([0, 1] ++ List.replicate 9 0 ++ List.replicate 9 1)).imp Extends.approvals
  exact absurd hkept (by decide +kernel)

/-- A checkout incident that waits for an approval. -/
def waitingIncident : IncidentRecord :=
  { checkoutIncident with
    incidentId := checkoutId
    state := .waitingApproval
    pendingActionGraph := some
      { objective := "", prerequisites := [], safetyChecks := [], rollbackPlan := []
        blastRadius := "single service", successSignal := "", actions := [] } }

/-- A refusal, and an approval on the other route. -/
def refusalAndApproval : Bool → Call
  | false => .recordApproval checkoutId
      { approver := "oncall", actionId := "act_003a0000", approved := false }
  | true => .approveIncident checkoutId { approver := "lead", actionId := some "act_003a0000" }

/-- The second call reads before the first one saves, and once more after that. -/
def refusalFirst : List Bool :=
  [true] ++ List.replicate 9 false ++ List.replicate 9 true ++ [false, true]

/-- Both calls save, and the refusal stays. -/
theorem updates_kept_refusal :
    let pool := (handlerPool Settings.demo { rows := [waitingIncident] } refusalAndApproval).run
      (serve Env.demo .postgres) handlerContract.next refusalFirst
    (storedSince (some waitingIncident) checkoutId pool.shared).Pairwise Extends ∧
      (pool.shared.writes checkoutId).map (fun r ↦ r.approvals.map ApprovalRecord.approved) =
        [[false], [false, true]] := by
  refine ⟨updates_kept Settings.demo Env.demo { rows := [waitingIncident] } checkoutId
    refusalAndApproval refusalFirst ⟨?_, ?_, ?_, ?_, ?_, ?_, ?_, ?_, ?_, ?_, ?_, ?_, ?_, ?_, ?_, ?_,
      ?_, ?_, ?_, ?_, ?_, trivial⟩, by decide +kernel⟩ <;> rintro o k ⟨⟩
  any_goals exact trivial
  · rfl
  · rfl

end IncidentPlatform
