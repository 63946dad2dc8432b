import IncidentPlatform.Api.Outcome

/-!
# What an accepted approval stands for

`execute_action` accepts an approval when the incident is at most one version past the version the
approval names. Every save raises the version by one, so an approval that names the version it was
granted at is good until the next save after its own, and no longer.

The invariant behind this is `Ledger`: an approval in the last record written is either too old to
be accepted, or that last write recorded it. It rests on approvals not naming a later version than
the one they were granted at, which `approve_incident` sees to and `record_approval` leaves to its
client.
-/

namespace IncidentPlatform

open Interaction

/-! ## The ledger -/

/-- The last write of an incident recorded the approval: it added it and kept the action graph. -/
def RecordedLast (writes : List IncidentRecord) (a : ApprovalRecord) : Prop :=
  ∃ before p r, writes = before ++ [p, r] ∧ r.approvals = p.approvals ++ [a] ∧
    r.pendingActionGraph = p.pendingActionGraph

theorem RecordedLast.append {writes : List IncidentRecord} {p r : IncidentRecord}
    {a : ApprovalRecord} (hlast : writes.getLast? = some p)
    (happrovals : r.approvals = p.approvals ++ [a])
    (hgraph : r.pendingActionGraph = p.pendingActionGraph) : RecordedLast (writes ++ [r]) a := by
  obtain ⟨before, rfl⟩ := List.getLast?_eq_some_iff.mp hlast
  exact ⟨before, p, r, List.append_assoc .., happrovals, hgraph⟩

/-- With the last write the approvals became one more. -/
theorem RecordedLast.length {writes : List IncidentRecord} {a : ApprovalRecord}
    (h : RecordedLast writes a) :
    writes.getLast?.map (fun r ↦ r.approvals.length)
      = writes.dropLast.getLast?.map fun r ↦ r.approvals.length + 1 := by
  obtain ⟨before, p, r, rfl, happrovals, -⟩ := h
  rw [show before ++ [p, r] = before ++ [p] ++ [r] by simp, List.dropLast_concat,
    List.getLast?_concat, List.getLast?_concat, Option.map_some, Option.map_some, happrovals,
    List.length_append, List.length_singleton]

/-- The row of an incident against its last write: in fallback mode there can be unsaved edits. -/
def RowOf (mode : Mode) (last row : IncidentRecord) : Prop :=
  match mode with
  | .postgres => row = last
  | .fallback => Edit last row

theorem RowOf.refl (mode : Mode) (r : IncidentRecord) : RowOf mode r r := by
  cases mode
  · rfl
  · exact Edit.refl r

theorem RowOf.edit {mode : Mode} {last row : IncidentRecord} (h : RowOf mode last row) :
    Edit last row := by
  cases mode
  · exact h ▸ Edit.refl last
  · exact h

/-- The approvals of the last write: approved ones satisfy `P`, and are stale or were recorded with
it. -/
structure Ledger (mode : Mode) (P : ApprovalRecord → Prop) (w : World) : Prop where
  row : ∀ incidentId r, w.stored incidentId = some r →
    ∃ last, (w.writes incidentId).getLast? = some last ∧ RowOf mode last r
  approval : ∀ incidentId last, (w.writes incidentId).getLast? = some last →
    ∀ a ∈ last.approvals, a.approved = true → P a ∧
      ∀ granted, a.expectedIncidentVersionAtGrant = some granted →
        granted + 1 < last.version ∨
          granted + 1 ≤ last.version ∧ RecordedLast (w.writes incidentId) a

namespace Ledger

variable {mode : Mode} {P : ApprovalRecord → Prop} {w w' : World}
  {grant : IncidentRecord → ApprovalRecord → Prop}

theorem of_noIncidents (h : NoIncidents w) : Ledger mode P w where
  row incidentId r hr := by
    rw [h.stored] at hr
    cases hr
  approval incidentId last hlast := by
    rw [h.writes] at hlast
    cases hlast

theorem congr (h : Ledger mode P w) (hrows : w'.rows = w.rows) (hhistory : w'.history = w.history) :
    Ledger mode P w' := by
  have hwrites (incidentId : String) : w'.writes incidentId = w.writes incidentId := by
    rw [World.writes, hhistory, ← World.writes]
  refine ⟨fun incidentId r hr ↦ ?_, fun incidentId last hlast ↦ ?_⟩
  · rw [World.stored_congr hrows] at hr
    rw [hwrites]
    exact h.row incidentId r hr
  · rw [hwrites] at hlast ⊢
    exact h.approval incidentId last hlast

/-- One more write, whose approvals are accounted for. -/
theorem written {r : IncidentRecord} (h : Ledger mode P w)
    (hr : ∀ a ∈ r.approvals, a.approved = true → P a ∧
      ∀ granted, a.expectedIncidentVersionAtGrant = some granted →
        granted + 1 < r.version ∨
          granted + 1 ≤ r.version ∧ RecordedLast (w.writes r.incidentId ++ [r]) a) :
    Ledger mode P (w.written r) := by
  refine ⟨fun incidentId s hs ↦ ?_, fun incidentId last hlast ↦ ?_⟩
  · rw [World.stored_written] at hs
    rw [World.writes_written]
    by_cases hid : r.incidentId = incidentId
    · rw [if_pos hid] at hs ⊢
      cases hs
      exact ⟨r, List.getLast?_concat .., RowOf.refl mode r⟩
    · rw [if_neg hid] at hs ⊢
      exact h.row incidentId s hs
  · rw [World.writes_written] at hlast ⊢
    by_cases hid : r.incidentId = incidentId
    · rw [if_pos hid] at hlast ⊢
      rw [List.getLast?_concat] at hlast
      cases hlast
      exact hid ▸ hr
    · rw [if_neg hid] at hlast ⊢
      exact h.approval incidentId last hlast

/-- A save makes the approvals it finds one version older, and may add one. -/
theorem saved {b c : IncidentRecord} (updatedAt : Time) (h : Ledger mode P w)
    (hb : w.stored b.incidentId = some b) (hcommit : Commit grant b c)
    (hgrant : ∀ a, grant b a → a.approved = true → P a ∧
      ∀ granted, a.expectedIncidentVersionAtGrant = some granted → granted ≤ b.version) :
    Ledger mode P (w.written { c with updatedAt, version := b.version + 1 }) := by
  obtain ⟨last, hlast, hrow⟩ := h.row _ _ hb
  have hold (a : ApprovalRecord) (ha : a ∈ b.approvals) (happroved : a.approved = true) : P a ∧
      ∀ granted, a.expectedIncidentVersionAtGrant = some granted → granted + 1 ≤ b.version := by
    rw [hrow.edit.approvals] at ha
    obtain ⟨hP, hversion⟩ := h.approval _ last hlast a ha happroved
    refine ⟨hP, fun granted hgranted ↦ ?_⟩
    rw [hrow.edit.version]
    rcases hversion granted hgranted with hlt | ⟨hle, -⟩ <;> omega
  refine h.written fun a ha happroved ↦ ?_
  rcases hcommit.approvals with hsame | ⟨a', ha', hadded, hgraph⟩
  · rw [hsame] at ha
    obtain ⟨hP, hversion⟩ := hold a ha happroved
    exact ⟨hP, fun granted hgranted ↦ Or.inl (Int.lt_add_one_iff.mpr (hversion granted hgranted))⟩
  · rw [hadded, List.mem_append, List.mem_singleton] at ha
    rcases ha with ha | rfl
    · obtain ⟨hP, hversion⟩ := hold a ha happroved
      exact ⟨hP, fun granted hgranted ↦
        Or.inl (Int.lt_add_one_iff.mpr (hversion granted hgranted))⟩
    · obtain ⟨hP, hversion⟩ := hgrant a ha' happroved
      refine ⟨hP, fun granted hgranted ↦ Or.inr ⟨?_, ?_⟩⟩
      · exact Int.add_le_add_right (hversion granted hgranted) 1
      · exact RecordedLast.append (hcommit.incidentId ▸ hlast) (hadded.trans
          (congrArg (· ++ [a]) hrow.edit.approvals)) (hgraph.trans hrow.edit.pendingActionGraph)

theorem edited {b c : IncidentRecord} (h : Ledger .fallback P w)
    (hb : w.stored b.incidentId = some b) (hedit : Edit b c) :
    Ledger .fallback P (w.withRow c) := by
  refine ⟨fun incidentId r hr ↦ ?_, h.approval⟩
  rw [World.stored_withRow] at hr
  by_cases hid : c.incidentId = incidentId
  · rw [if_pos hid] at hr
    cases hr
    rw [← hid, hedit.incidentId]
    obtain ⟨last, hlast, hrow⟩ := h.row _ _ hb
    exact ⟨last, hlast, hrow.trans hedit⟩
  · rw [if_neg hid] at hr
    exact h.row incidentId r hr

/-- The ledger is kept by every handler that grants approvals on honest versions. -/
theorem stable (hgrant : ∀ b a, grant b a → a.approved = true → P a ∧
      ∀ granted, a.expectedIncidentVersionAtGrant = some granted → granted ≤ b.version) :
    Stable mode grant (Ledger mode P) where
  congr := congr
  write updatedAt h hb hcommit := h.saved updatedAt hb hcommit (hgrant _)
  create updatedAt h hblank := h.written (by
    rw [show (stamp _ updatedAt _).approvals = [] from hblank.approvals]
    simp)
  edit hmode h hb hedit := by
    subst hmode
    exact h.edited hb hedit

/-- An approval that is accepted on the stored record was recorded by the last write. -/
theorem recorded {r : IncidentRecord} {a : ApprovalRecord} {action : ActionRequest}
    (h : Ledger mode P w) (hr : w.stored r.incidentId = some r) (ha : Accepts r a action) :
    P a ∧ RecordedLast (w.writes r.incidentId) a ∧
      ∃ last, (w.writes r.incidentId).getLast? = some last ∧ Edit last r := by
  obtain ⟨last, hlast, hrow⟩ := h.row _ _ hr
  have hedit : Edit last r := hrow.edit
  obtain ⟨granted, hgranted, hversion⟩ := ha.version
  obtain ⟨hP, hstale⟩ := h.approval _ last hlast a (hedit.approvals ▸ ha.mem) ha.approved
  refine ⟨hP, ?_, last, hlast, hedit⟩
  rw [hedit.version] at hversion
  rcases hstale granted hgranted with hlt | ⟨-, hrecorded⟩
  · omega
  · exact hrecorded

end Ledger

/-! ## Freshness -/

/-- An approved `record_approval` request names no later version than the stored one. -/
def HonestVersion (w : World) : Call → Prop
  | .recordApproval incidentId payload =>
    payload.approved = true → ∀ version ∈ payload.expectedIncidentVersion,
      ∀ r ∈ w.stored incidentId, version ≤ r.version
  | _ => True

theorem Call.grants_honest {mode : Mode} {w : World} {c : Call} {b : IncidentRecord}
    {a : ApprovalRecord} (hc : HonestVersion w c) (hgrant : c.grants (some ⟨mode, w⟩) b a)
    (happroved : a.approved = true) :
    ∀ granted, a.expectedIncidentVersionAtGrant = some granted → granted ≤ b.version := by
  cases c with
  | recordApproval incidentId payload =>
    obtain ⟨⟨-, hstored⟩, _, _, _, _, rfl⟩ := hgrant
    rintro granted hgranted
    cases hgranted
    rcases hversion : payload.expectedIncidentVersion with _ | version
    · exact Int.le_refl b.version
    · exact hc happroved version hversion b (hstored _ rfl)
  | approveIncident incidentId payload =>
    obtain ⟨-, forwarded, hforwards, _, _, _, _, rfl⟩ := hgrant
    rintro granted hgranted
    cases hgranted
    rw [hforwards.version rfl]
    exact Int.le_refl b.version
  | _ => exact hgrant.elim

/-- The incident has not been written since the approval was recorded. -/
def FreshApproval (w : World) (r : IncidentRecord) (a : ApprovalRecord) (_ : ActionRequest) :
    Prop :=
  RecordedLast (w.writes r.incidentId) a

/-- **Freshness.** In either mode and in every run whose `record_approval` requests name no later
version than the stored one: a request that needs an approval and is let through presents one that
was recorded by the last write of the incident. -/
theorem accepted_approvals_fresh (cfg : Settings) (env : Env) (mode : Mode) {w : World}
    {calls : List Call} (hw : NoIncidents w)
    (hok : EveryCall cfg env mode HonestVersion w calls) :
    EveryCall cfg env mode (fun v c ↦ c.RunsOn cfg env mode FreshApproval v) w calls := by
  have hledger : Ledger mode (fun _ ↦ True) w := Ledger.of_noIncidents hw
  have haccepted : EveryCall cfg env mode
      (fun v c ↦ (c.handler cfg).Always (serve env mode) (OnAccept FreshApproval) v) w calls := by
    refine accepts_every_call (fun v c hc ↦ ?_) ?_ hledger hok
    · exact Ledger.stable fun b a hgrant happroved ↦
        ⟨trivial, Call.grants_honest hc hgrant happroved⟩
    · intro _ c v r a action _ hv hr hbound
      have haccepts : Accepts r a action := by
        cases c with
        | executeAction => exact hbound.2.1
        | executeIncident => exact hbound.2.1
        | _ => exact hbound.elim
      exact (hv.recorded hr haccepts).2.1
  exact haccepted.mono fun v c ↦ Call.runsOn_of_always fun _ _ _ _ _ ↦ id

/-- The approvals became one more with the last write. -/
def grewLast (w : World) (r : IncidentRecord) (_ : ActionRequest) : Bool :=
  (w.writes r.incidentId).getLast?.map (fun r ↦ r.approvals.length) ==
    (w.writes r.incidentId).dropLast.getLast?.map fun r ↦ r.approvals.length + 1

/-- With an approval for version 100 an execution is let through after the incident was routed
again. -/
theorem stale_approval_accepted :
    ¬ ∀ calls, EveryCall Settings.demo Env.demo .postgres
      (fun v c ↦ c.RunsOn Settings.demo Env.demo .postgres FreshApproval v) {} calls := by
  intro h
  have hlast := (h (checkoutPlanned ++ [approveRollback (some 100), .routeIncident checkoutId,
    executeRollback "checkout-service"])).2.2.2.2.2.1
  exact Call.not_runsOn (B := grewLast) (fun _ _ _ _ ha ↦ beq_iff_eq.mpr ha.length)
    (by decide +kernel) hlast

/-- The approval of the stored version, used at once. -/
theorem accepted_approvals_fresh_checkout :
    EveryCall Settings.demo Env.demo .postgres
      (fun v c ↦ c.RunsOn Settings.demo Env.demo .postgres FreshApproval v) {}
      (checkoutPlanned ++ [approveRollback none, executeRollback "checkout-service"]) :=
  accepted_approvals_fresh Settings.demo Env.demo .postgres ⟨rfl, rfl⟩
    ⟨trivial, trivial, trivial, (fun _ _ h ↦ nomatch h), trivial, trivial⟩

end IncidentPlatform
