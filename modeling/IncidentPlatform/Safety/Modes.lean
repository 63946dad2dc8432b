import IncidentPlatform.Safety.Updates

/-!
# Fallback mode and Postgres mode

In fallback mode a handler works on the stored object itself. So the store already shows what the
handler has not saved, and an `upsert` compares the record with itself: it never refuses a
transition. Here one call runs on both stores at once. As long as it goes on, the fallback store is
the Postgres store with the record of the handler laid over its row, `World.overlaid`; an `upsert`
is where the two stores may answer differently, and where Postgres may refuse.

`fallback_agrees` is what remains: the modes show the same as long as every call ends with
everything saved in Postgres mode. A call that is refused, or that raises between an assignment and
its next `upsert`, is where they part.
-/

namespace IncidentPlatform

open Interaction

/-! ## One operation on both stores -/

/-- The store with the record of a handler laid over its row. -/
def World.overlaid (w : World) : Draft → World
  | .held _ c | .checked _ c _ => w.withRow c
  | _ => w

section

variable {start v w : World} {draft : Draft} {env : Env}

/-- A row laid over itself. -/
theorem World.withRow_of_stored {r : IncidentRecord} (h : w.stored r.incidentId = some r) :
    w.withRow r = w :=
  congrArg (fun rows ↦ { w with rows }) (put_of_lookup h)

/-- Of two records laid over a row the later one counts. -/
theorem World.withRow_withRow (w : World) {r s : IncidentRecord}
    (h : r.incidentId = s.incidentId) : (w.withRow r).withRow s = w.withRow s :=
  congrArg (fun rows ↦ { w with rows }) (put_put w.rows h)

/-- With everything saved there is nothing to lay over. -/
theorem Consistent.overlaid (h : Consistent ⟨.postgres, start⟩ v draft) (hdraft : draft.Complete) :
    v.overlaid draft = v := by
  cases draft with
  | held b c =>
    cases hdraft
    exact World.withRow_of_stored h.2
  | checked _ c previous => exact hdraft.elim
  | _ => rfl

/-- An operation that neither reads nor edits incidents does not see what is laid over them. -/
theorem serve_overlaid (o : Op) (hquiet : o.quiet ∨ ∃ r a action, o = .accepted r a action) :
    serve env .fallback (v.overlaid draft) o =
      ((serve env .postgres v o).1, (serve env .postgres v o).2.overlaid draft) := by
  rcases hquiet with hquiet | ⟨r, a, action, rfl⟩
  · cases o <;> first | exact hquiet.elim | (cases draft <;> rfl)
  · cases draft <;> rfl

/-- Making assignments visible lays them over the row. -/
theorem World.touched_withRow (v : World) {c r : IncidentRecord}
    (hid : c.incidentId = r.incidentId) :
    (v.withRow c).touched .fallback r = v.withRow r := by
  have hstored : (v.withRow c).stored r.incidentId = some c := by
    rw [World.stored_withRow, if_pos hid]
  rw [World.touched, hstored]
  exact World.withRow_withRow v hid

/-- Writing a record covers what was laid over its row. -/
theorem World.written_withRow (v : World) {c r : IncidentRecord}
    (hid : c.incidentId = r.incidentId) :
    (v.withRow c).written r = v.written r :=
  congrArg (fun rows ↦ { v with rows, history := v.history ++ [r] }) (put_put v.rows hid)

theorem World.withRow_written (v : World) (r : IncidentRecord) :
    (v.written r).withRow r = v.written r :=
  congrArg (fun rows ↦ { v with rows, history := v.history ++ [r] }) (put_put v.rows rfl)

variable {grant : IncidentRecord → ApprovalRecord → Prop}
  {bound : IncidentRecord → ApprovalRecord → ActionRequest → Prop}

/-- Both stores answer an operation the same, but for the `previous` of an `upsert`: Postgres
returns the base of the record, fallback mode the record. -/
theorem serve_beside (o : Op) (h : Consistent ⟨.postgres, start⟩ v draft)
    (hguar : (discipline (some ⟨.postgres, start⟩) grant bound).guar draft o)
    (hnext : Consistent ⟨.postgres, start⟩ (serve env .postgres v o).2
      ((discipline (some ⟨.postgres, start⟩) grant bound).next draft o
        (serve env .postgres v o).1)) :
    ((serve env .postgres v o).1 = (serve env .fallback (v.overlaid draft) o).1 ∨
        (discipline (some ⟨.postgres, start⟩) grant bound).alike draft o
          (serve env .postgres v o).1 (serve env .fallback (v.overlaid draft) o).1) ∧
      (serve env .fallback (v.overlaid draft) o).2 = (serve env .postgres v o).2.overlaid
        ((discipline (some ⟨.postgres, start⟩) grant bound).next draft o
          (serve env .postgres v o).1) := by
  cases o with
  | get incidentId =>
    rw [h.overlaid (Clean.complete hguar)]
    refine ⟨Or.inl rfl, (hnext.overlaid ?_).symm⟩
    rw [serve_get]
    cases v.stored incidentId
    · trivial
    · rfl
  | getByDedupeKey dedupeKey =>
    rw [h.overlaid (Clean.complete hguar)]
    exact ⟨Or.inl rfl, (hnext.overlaid (Clean.complete hguar)).symm⟩
  | previous incidentId =>
    -- The one operation with two answers: Postgres has the base, the fallback store the record.
    rcases hguar with rfl | ⟨b, c, rfl, rfl, -⟩
    · exact ⟨Or.inl rfl, rfl⟩
    · refine ⟨Or.inr ⟨b, c, rfl, h.2, ?_⟩, rfl⟩
      exact (World.stored_withRow v c c.incidentId).trans (if_pos rfl)
  | touch r =>
    obtain ⟨b, c, rfl, hr⟩ := hguar
    have hid : c.incidentId = r.incidentId :=
      h.1.symm.trans (hr.elim Edit.incidentId fun hr ↦ hr.incidentId).symm
    exact ⟨Or.inl rfl, World.touched_withRow { v with tick := v.tick + 1 } hid⟩
  | write r =>
    -- The write replaces what was laid over the store.
    refine ⟨Or.inl rfl, ?_⟩
    have hcover := World.withRow_written { v with tick := v.tick + 1 } r
    rcases hguar with ⟨b, c, previous, rfl, -, -, t, rfl⟩ | ⟨c, previous, rfl, -⟩
    · have hid : c.incidentId = (stamp previous t c).incidentId := rfl
      exact (World.written_withRow { v with tick := v.tick + 1 } hid).trans hcover.symm
    · exact hcover.symm
  | accepted r a action =>
    rw [serve_overlaid _ (Or.inr ⟨r, a, action, rfl⟩)]
    exact ⟨Or.inl rfl, rfl⟩
  | _ =>
    rw [serve_overlaid _ (Or.inl (by trivial))]
    exact ⟨Or.inl rfl, rfl⟩

/-! ## One call on both stores -/

/-- What Postgres and the fallback store have while a call runs on both. -/
structure Alongside (start v w : World) (draft : Draft) : Prop where
  tracks : Tracks ⟨.postgres, start⟩ (fun _ ↦ True) v draft
  overlaid : w = v.overlaid draft

theorem Stable.true (mode : Mode) : Stable mode grant fun _ ↦ True where
  congr _ _ _ := trivial
  write _ _ _ _ := trivial
  create _ _ _ := trivial
  edit _ _ _ _ := trivial

theorem alongside_step (v w : World) (draft : Draft) (o : Op) (h : Alongside start v w draft)
    (hguar : (discipline (some ⟨.postgres, start⟩) grant bound).guar draft o) :
    (discipline (some ⟨.postgres, start⟩) grant bound).rely draft o (serve env .postgres v o).1 ∧
      ((serve env .postgres v o).1 = (serve env .fallback w o).1 ∨
        (discipline (some ⟨.postgres, start⟩) grant bound).alike draft o
          (serve env .postgres v o).1 (serve env .fallback w o).1) ∧
      Alongside start (serve env .postgres v o).2 (serve env .fallback w o).2
        ((discipline (some ⟨.postgres, start⟩) grant bound).next draft o
          (serve env .postgres v o).1) := by
  obtain ⟨htracks, rfl⟩ := h
  obtain ⟨hrely, hnext⟩ := tracks_step (Stable.true .postgres) v draft o htracks hguar
  obtain ⟨hanswer, hoverlaid⟩ := serve_beside o htracks.consistent hguar hnext.consistent
  exact ⟨hrely, hanswer, hnext, hoverlaid⟩

end

/-- A record is about to be written, or has been refused. -/
def Draft.Checked : Draft → Prop
  | .checked _ _ _ => True
  | _ => False

/-- Where answers are only alike, a record is about to be written. -/
theorem checked_of_alike {regime : Regime} {grant : IncidentRecord → ApprovalRecord → Prop}
    {bound : IncidentRecord → ApprovalRecord → ActionRequest → Prop} (draft : Draft) (o : Op)
    (answer answer' : Ans o) (h : (discipline regime grant bound).alike draft o answer answer') :
    ((discipline regime grant bound).next draft o answer).Checked := by
  cases o with
  | previous incidentId =>
    obtain ⟨b, c, rfl, -⟩ := h
    trivial
  | _ => exact h.elim

theorem Draft.Complete.not_checked {draft : Draft} (h : draft.Complete) : ¬ draft.Checked := by
  cases draft with
  | checked b c previous => exact h.elim
  | _ => exact id

/-- What a call holds when it has ended. -/
def Call.draft (cfg : Settings) (env : Env) (mode : Mode) (w : World) (c : Call) : Draft :=
  (c.handler cfg).ghost (serve env mode) handlerContract.next w .fresh

/-- Whether a call is refused with an invalid state transition. -/
def Call.refused (cfg : Settings) (env : Env) (mode : Mode) (w : World) (c : Call) : Bool :=
  match ((c.handler cfg).run (serve env mode) w).1 with
  | .error (.invalidTransition _ _ _) => true
  | _ => false

/-- What can be seen of a run: for every call whether it is refused, and the incidents it leaves. -/
def observe (cfg : Settings) (env : Env) (mode : Mode) :
    World → List Call → List (Bool × List IncidentRecord)
  | _, [] => []
  | w, c :: calls =>
    (c.refused cfg env mode w, (c.after cfg env mode w).rows) ::
      observe cfg env mode (c.after cfg env mode w) calls

section

variable {cfg : Settings} {env : Env} {w : World} {c : Call}

/-- A call that has saved everything in Postgres mode ends the same in both modes. -/
theorem Call.run_fallback (h : (c.draft cfg env .postgres w).Complete) :
    (c.handler cfg).run (serve env .fallback) w = (c.handler cfg).run (serve env .postgres) w := by
  have hmeets := Call.meets cfg (some ⟨.postgres, w⟩) c
  have hstart : Alongside w w w .fresh := ⟨⟨rfl, trivial⟩, rfl⟩
  obtain ⟨hresult, hend⟩ := hmeets.lockstep checked_of_alike alongside_step hstart h.not_checked
  have hworld := hend.overlaid.trans (hend.tracks.consistent.overlaid h)
  exact Prod.ext hresult.symm hworld

/-- A call that returns has saved everything. -/
theorem Call.complete_of_returns
    (h : ((c.handler cfg).run (serve env .postgres) w).1 = .ok ()) :
    (c.draft cfg env .postgres w).Complete := by
  have hmeets : (c.handler cfg).Meets _ _ _ := Call.obeys cfg (some ⟨.postgres, w⟩) c
  have hstart : Tracks ⟨.postgres, w⟩ (fun _ ↦ True) w .fresh := ⟨rfl, trivial⟩
  obtain ⟨-, hends⟩ := hmeets.run (tracks_step (Stable.true .postgres)) hstart
  rw [h] at hends
  exact hends

end

/-- **The modes agree on calls that save everything.** If every call of a run ends with everything
saved in Postgres mode, fallback mode shows the same: the same calls are refused, and the same
incidents are stored after each of them. -/
theorem fallback_agrees (cfg : Settings) (env : Env) (calls : List Call) : ∀ w : World,
    EveryCall cfg env .postgres (fun w c ↦ (c.draft cfg env .postgres w).Complete) w calls →
      observe cfg env .fallback w calls = observe cfg env .postgres w calls := by
  induction calls with
  | nil => exact fun _ _ ↦ rfl
  | cons c calls ih =>
    intro w h
    have hrun := Call.run_fallback h.1
    have hafter : c.after cfg env .fallback w = c.after cfg env .postgres w :=
      congrArg Prod.snd hrun
    rw [observe, observe, hafter, ih _ h.2, Call.refused, hrun, ← Call.refused]

/-- An alert that is planned before it was routed. The plan takes the incident from `open` to
`waiting_approval`, which Postgres mode refuses and fallback mode stores. -/
theorem modes_differ : ¬ ∀ calls, observe Settings.demo Env.demo .fallback {} calls
    = observe Settings.demo Env.demo .postgres {} calls := by
  intro h
  have hrefused := congrArg (List.map Prod.fst) (h [.ingest checkoutAlert, .createPlan checkoutId])
  exact absurd hrefused (by decide +kernel)

/-- The calls that take an alert to its first plan all return. -/
theorem fallback_agrees_planned :
    observe Settings.demo Env.demo .fallback {} checkoutPlanned
      = observe Settings.demo Env.demo .postgres {} checkoutPlanned := by
  have hreturn : EveryCall Settings.demo Env.demo .postgres (fun w c ↦
      ((c.handler Settings.demo).run (serve Env.demo .postgres) w).1 = .ok ()) {}
      checkoutPlanned := by decide +kernel
  exact fallback_agrees Settings.demo Env.demo checkoutPlanned {}
    (hreturn.mono fun _ _ h ↦ Call.complete_of_returns h)

end IncidentPlatform
