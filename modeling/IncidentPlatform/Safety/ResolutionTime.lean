import IncidentPlatform.Api.Calendar
import IncidentPlatform.Api.Outcome
import IncidentPlatform.Api.Reports
import IncidentPlatform.Interaction.Given

/-!
# The time to recovery, after the recovery

A report takes the time of the resolution from `updated_at`, which every `upsert` sets. An execute
request that is refused as investigate-only or by the policy saves the incident, with one more
blocked action, and one that is let through again saves it at its end. So a resolved incident keeps
its time to recovery exactly as long as no request comes to such a save (`mttr_fixed`).
-/

namespace IncidentPlatform

open Interaction

/-! ## Other incidents -/

/-- A record that is looked up has the id it is looked up by. -/
def Found : (o : Op) → Ans o → Prop
  | .get incidentId, found | .previous incidentId, found =>
    ∀ r, found = some r → r.incidentId = incidentId
  | _, _ => True

/-- The operation edits no other incident. -/
def Op.Of (incidentId : String) : Op → Prop
  | .touch r | .write r => r.incidentId = incidentId
  | _ => True

section

variable {α β : Type} {cfg : Settings} {env : Env} {mode : Mode} {w : World} {incidentId : String}
  {r : IncidentRecord}

theorem found_serve (w : World) (o : Op) : Found o (serve env mode w o).1 := by
  cases o with
  | get incidentId => exact fun r hr ↦ key_of_lookup hr
  | previous incidentId => exact fun r hr ↦ key_of_lookup hr
  | _ => trivial

theorem stored_serve {o : Op} (ho : o.Of incidentId) {other : String}
    (hother : other ≠ incidentId) :
    (serve env mode w o).2.stored other = w.stored other := by
  cases o with
  | write r => exact lookup_put_of_ne _ fun h ↦ hother (h.symm.trans ho)
  | touch r =>
    cases mode with
    | postgres => rfl
    | fallback =>
      rw [serve_touch, World.touched]
      dsimp only
      split_ifs
      · exact lookup_put_of_ne _ fun h ↦ hother (h.symm.trans ho)
      · rfl
  | _ => rfl

/-- The piece of a handler looks after one incident only. -/
abbrev Minds (incidentId : String) (p : Handler α) (R : α → Prop) : Prop :=
  p.Given Found (Op.Of incidentId) R

theorem minds_quiet {p : Handler α} (h : p.Issues Op.quiet) :
    Minds incidentId p fun _ ↦ True :=
  Prog.Given.of_issues (Prog.Issues.mono (fun o ho ↦ by cases o <;> trivial) h) (Prog.Yields.true p)

theorem perform_minds {o : Op} {f : Ans o → Handler α} {R : α → Prop} (ho : o.Of incidentId)
    (hf : ∀ a, Found o a → Minds incidentId (f a) R) : Minds incidentId (perform o >>= f) R :=
  ⟨ho, hf⟩

theorem ensure_minds {b : Bool} {status : ℕ} {detail : String} {f : Unit → Handler α}
    {R : α → Prop} (hf : Minds incidentId (f ()) R) :
    Minds incidentId (ensure b status detail >>= f) R := by
  cases b
  · trivial
  · exact hf

theorem orHttp_minds {a : Option β} {status : ℕ} {detail : String} {f : β → Handler α}
    {R : α → Prop} (hf : ∀ x, a = some x → Minds incidentId (f x) R) :
    Minds incidentId (orHttp a status detail >>= f) R := by
  cases a with
  | none => trivial
  | some x => exact hf x rfl

theorem save_minds (h : r.incidentId = incidentId) :
    Minds incidentId (save r) fun r' ↦ r'.incidentId = incidentId := by
  refine perform_minds h fun _ _ ↦ perform_minds trivial fun previous _ ↦ ?_
  refine Prog.Given.bind (p := validateStateTransition previous r) (R := fun _ ↦ True) ?_
    fun _ _ ↦ perform_minds trivial fun _ _ ↦ perform_minds h fun _ _ ↦ h
  cases previous with
  | none => trivial
  | some p =>
    rw [validateStateTransition, require]
    split_ifs <;> trivial

theorem blockInvestigateOnly_minds (payload : ExecutePayload) (h : r.incidentId = incidentId) :
    Minds incidentId (blockInvestigateOnly cfg incidentId r payload) fun _ ↦ True := by
  rw [blockInvestigateOnly]
  cases investigateOnlyBlock cfg r with
  | none => trivial
  | some decision =>
    refine perform_minds trivial fun _ _ ↦ Prog.Given.bind (save_minds ?_) fun _ _ ↦ trivial
    exact (withBlocked_incidentId r _).trans h

theorem blockDenied_minds (payload : ExecutePayload) (decision : PolicyDecision)
    (h : r.incidentId = incidentId) :
    Minds incidentId (blockDenied incidentId r payload decision) fun _ ↦ True := by
  rw [blockDenied]
  split_ifs
  · trivial
  · refine Prog.Given.bind (save_minds ?_) fun _ _ ↦ perform_minds trivial fun _ _ ↦ trivial
    exact (withBlocked_incidentId r _).trans h

theorem checkApproval_minds (r : IncidentRecord) (payload : ExecutePayload) :
    Minds incidentId (checkApproval r payload) fun _ ↦ True := by
  refine orHttp_minds fun _ _ ↦ orHttp_minds fun _ _ ↦ ensure_minds ?_
  refine perform_minds trivial fun _ _ ↦ ensure_minds (orHttp_minds fun _ _ ↦ ?_)
  exact ensure_minds (ensure_minds (ensure_minds trivial))

theorem acceptApproval_minds (r : IncidentRecord) (payload : ExecutePayload)
    (decision : PolicyDecision) :
    Minds incidentId (acceptApproval r payload decision) fun _ ↦ True := by
  rw [acceptApproval]
  split_ifs
  · exact Prog.Given.bind (checkApproval_minds r payload) fun _ _ ↦ ⟨trivial, fun _ _ ↦ trivial⟩
  · trivial

theorem policyDecision_minds (cfg : Settings) (r : IncidentRecord) (plan : ResponsePlan)
    (payload : ExecutePayload) :
    Minds incidentId (policyDecision cfg r plan payload) fun _ ↦ True :=
  perform_minds trivial fun _ _ ↦ perform_minds trivial fun _ _ ↦ trivial

theorem authorize_minds (cfg : Settings) (payload : ExecutePayload) :
    Minds incidentId (authorize cfg incidentId payload)
      fun g ↦ g.incident.incidentId = incidentId := by
  refine perform_minds trivial fun found hfound ↦ orHttp_minds fun r hr ↦ ?_
  have hid : r.incidentId = incidentId := hfound r hr
  refine orHttp_minds fun plan _ ↦ ensure_minds ?_
  refine Prog.Given.bind (blockInvestigateOnly_minds payload hid) fun _ _ ↦ ensure_minds ?_
  refine Prog.Given.bind (policyDecision_minds cfg r plan payload) fun decision _ ↦ ?_
  refine Prog.Given.bind (blockDenied_minds payload decision hid) fun _ _ ↦ ?_
  exact Prog.Given.bind (acceptApproval_minds r payload decision) fun _ _ ↦ hid

theorem newTraceEntry_minds (phase message : String) (actionId : Option String)
    (success : Option Bool) (replanRequested : Bool) :
    Minds incidentId (newTraceEntry phase message actionId success replanRequested)
      fun _ ↦ True :=
  perform_minds trivial fun _ _ ↦ perform_minds trivial fun _ _ ↦ trivial

theorem verifyPerformed_minds (action : ActionRequest) (result : ActionResult)
    (h : r.incidentId = incidentId) :
    Minds incidentId (verifyPerformed cfg incidentId action r result)
      fun o ↦ o.incident.incidentId = incidentId := by
  rw [verifyPerformed]
  split_ifs
  · refine Prog.Given.bind (minds_quiet (verifyActionRecovery_quiet cfg action)) fun _ _ ↦ ?_
    refine Prog.Given.bind (newTraceEntry_minds _ _ _ _ _) fun _ _ ↦ ?_
    exact perform_minds h fun _ _ ↦ perform_minds trivial fun _ _ ↦ h
  · exact h

theorem performAction_minds (action : ActionRequest) (h : r.incidentId = incidentId) :
    Minds incidentId (performAction cfg incidentId action r)
      fun o ↦ o.incident.incidentId = incidentId := by
  refine Prog.Given.bind (newTraceEntry_minds _ _ _ _ _) fun _ _ ↦ perform_minds h fun _ _ ↦ ?_
  refine Prog.Given.bind (minds_quiet (executionAgentRun_quiet action)) fun result _ ↦ ?_
  refine Prog.Given.bind (newTraceEntry_minds _ _ _ _ _) fun _ _ ↦ perform_minds h fun _ _ ↦ ?_
  exact verifyPerformed_minds action result h

theorem escalate_minds (payload : ExecutePayload) (g : Authorized) (success : Bool) :
    Minds incidentId (escalate incidentId payload g success) fun _ ↦ True := by
  rw [escalate]
  split_ifs
  · exact ⟨trivial, fun _ _ ↦ trivial⟩
  · trivial

theorem executeAction_minds (cfg : Settings) (incidentId : String) (payload : ExecutePayload) :
    Minds incidentId (executeAction cfg incidentId payload) fun _ ↦ True := by
  refine Prog.Given.bind (authorize_minds cfg payload) fun g hg ↦ ?_
  refine Prog.Given.bind (performAction_minds _ hg) fun o ho ↦ ?_
  refine Prog.Given.bind (save_minds ho) fun _ _ ↦ perform_minds trivial fun _ _ ↦ ?_
  exact Prog.Given.bind (escalate_minds payload g _) fun _ _ ↦ trivial

theorem executeIncident_minds (cfg : Settings) (incidentId : String)
    (payload : IncidentExecutePayload) :
    Minds incidentId (executeIncident cfg incidentId payload) fun _ ↦ True := by
  refine perform_minds trivial fun _ _ ↦ orHttp_minds fun r _ ↦ orHttp_minds fun graph _ ↦ ?_
  exact orHttp_minds fun action _ ↦ executeAction_minds cfg incidentId _

/-- An execute request leaves all incidents but its own alone. -/
theorem Call.after_other {c : Call} (hc : c.Executes incidentId) {other : String}
    (hother : other ≠ incidentId) : (c.after cfg env mode w).stored other = w.stored other := by
  have hminds : Minds incidentId (c.handler cfg) fun _ ↦ True := by
    cases c with
    | executeAction i payload =>
      subst hc
      exact Prog.Given.bind (executeAction_minds cfg i payload) fun _ _ ↦ trivial
    | executeIncident i payload =>
      subst hc
      exact Prog.Given.bind (executeIncident_minds cfg i payload) fun _ _ ↦ trivial
    | _ => exact hc.elim
  exact (hminds.run (I := fun v ↦ v.stored other = w.stored other) found_serve
    (fun _ _ ho hv ↦ (stored_serve ho hother).trans hv) w rfl).1

/-! ## Saves of a resolved incident -/

/-- The request gets as far as being refused as investigate-only or by the policy. -/
def blocks (cfg : Settings) (r : IncidentRecord) (plan : ResponsePlan) (payload : ExecutePayload) :
    Bool :=
  payload.expectedIncidentVersion.all (· == r.version) &&
    ((investigateOnlyBlock cfg r).isSome || !(payload.autonomous && cfg.autonomyKillSwitch) &&
      !(decisionOn cfg r plan payload "" 0).allowed)

/-- `execute_action` records a blocked action on the stored incident. -/
def Blocks (cfg : Settings) (w : World) (incidentId : String) (payload : ExecutePayload) : Prop :=
  ∃ r plan, w.stored incidentId = some r ∧ r.responsePlan = some plan ∧
    blocks cfg r plan payload = true

/-- `execute_action` lets the request through. -/
def Passes (cfg : Settings) (env : Env) (w : World) (incidentId : String)
    (payload : ExecutePayload) : Prop :=
  ∃ r plan, LetsThrough cfg env w incidentId payload r plan

/-- The call blocks an action, or runs one that succeeds and is verified. -/
def Restamps (cfg : Settings) (env : Env) (w : World) (incidentId : String) (c : Call) : Prop :=
  ∃ u payload, c.execution w = some (u, incidentId, payload) ∧
    (Blocks cfg u incidentId payload ∨ Passes cfg env u incidentId payload ∧
      executionReports env u (runAction cfg payload) = some true ∧
        verifiedAfter cfg env u (runAction cfg payload) true = some true)

instance Blocks.decidable (payload : ExecutePayload) :
    Decidable (Blocks cfg w incidentId payload) :=
  decidable_of_iff (((w.stored incidentId).any fun r ↦
      r.responsePlan.any fun plan ↦ blocks cfg r plan payload) = true) (by
    simp only [Option.any_eq_true, Blocks]
    exact exists_congr fun _ ↦ exists_and_left.symm)

instance Passes.decidable (payload : ExecutePayload) :
    Decidable (Passes cfg env w incidentId payload) :=
  decidable_of_iff (((w.stored incidentId).any fun r ↦
      r.responsePlan.any fun plan ↦ gates cfg r plan payload (env.now (w.tick + 3))) = true) (by
    simp only [Option.any_eq_true, Passes]
    constructor
    · rintro ⟨r, hr, plan, hplan, hgates⟩
      exact ⟨r, plan, hr, hplan, hgates⟩
    · rintro ⟨r, plan, hr, hplan, hgates⟩
      exact ⟨r, hr, plan, hplan, hgates⟩)

instance Restamps.decidable (c : Call) : Decidable (Restamps cfg env w incidentId c) :=
  decidable_of_iff (((c.execution w).any fun x ↦ decide (x.2.1 = incidentId ∧
      (Blocks cfg x.1 incidentId x.2.2 ∨ Passes cfg env x.1 incidentId x.2.2 ∧
        executionReports env x.1 (runAction cfg x.2.2) = some true ∧
          verifiedAfter cfg env x.1 (runAction cfg x.2.2) true = some true))) = true) (by
    simp only [Option.any_eq_true, Restamps, decide_eq_true_eq]
    constructor
    · rintro ⟨⟨u, _, payload⟩, hc, rfl, h⟩
      exact ⟨u, payload, hc, h⟩
    · rintro ⟨u, payload, hc, h⟩
      exact ⟨⟨u, _, payload⟩, hc, rfl, h⟩)

theorem authorize_rows (cfg : Settings) (incidentId : String) (payload : ExecutePayload)
    (w : World) :
    RunsIn env mode (authorize cfg incidentId payload) w fun _ v ↦
      v.rows = w.rows ∨ Blocks cfg w incidentId payload := by
  refine RunsIn.perform (RunsIn.orHttp (fun _ ↦ Or.inl rfl) fun r hr ↦ ?_)
  refine RunsIn.orHttp (fun _ ↦ Or.inl rfl) fun plan hplan ↦ ?_
  refine RunsIn.ensure (fun _ ↦ Or.inl rfl) fun hversion ↦ ?_
  have hblocks (h : ((investigateOnlyBlock cfg r).isSome ||
      !(payload.autonomous && cfg.autonomyKillSwitch) &&
        !(decisionOn cfg r plan payload "" 0).allowed) = true) : Blocks cfg w incidentId payload :=
    ⟨r, plan, hr, hplan, by rw [blocks, hversion, h]; rfl⟩
  refine Prog.Runs.bind (blockInvestigateOnly_runs payload hr) ?_ ?_
  swap
  · intro _ v h
    exact Or.inr (hblocks (by rw [← Option.not_isNone, h.1]; rfl))
  rintro _ _ ⟨-, rfl⟩
  refine RunsIn.ensure (fun _ ↦ Or.inl rfl) fun hswitch ↦ ?_
  refine Prog.Runs.bind (policyDecision_runs r plan payload _) ?_ ?_
  swap
  · rintro _ _ ⟨⟨_, _, h⟩, -⟩
    cases h
  rintro _ _ ⟨⟨decisionId, t, ⟨⟩⟩, rfl⟩
  refine Prog.Runs.bind (blockDenied_runs payload _ hr) ?_ ?_
  swap
  · rintro _ v ⟨hdenied, -⟩
    rw [allowed_decisionOn cfg r plan payload _ "" _ 0] at hdenied
    exact Or.inr (hblocks (by rw [hswitch, hdenied, Bool.not_false, Bool.and_true, Bool.or_true]))
  rintro _ _ ⟨-, rfl⟩
  refine Prog.Runs.bind (acceptApproval_runs r payload _ _) ?_ ?_
  · rintro _ _ ⟨⟨tick, rfl⟩, -⟩
    exact Or.inl rfl
  · rintro _ _ ⟨⟨tick, rfl⟩, -⟩
    exact Or.inl rfl

theorem RunsIn.and {p : Handler α} {Q R : Except Exc α → World → Prop} (hQ : RunsIn env mode p w Q)
    (hR : RunsIn env mode p w R) : RunsIn env mode p w fun res v ↦ Q res v ∧ R res v :=
  ⟨hQ, hR⟩

/-- A request that saves nothing on the way is refused without a save, or let through. -/
theorem executeAction_rows (cfg : Settings) (incidentId : String) (payload : ExecutePayload)
    (w : World) :
    RunsIn env mode (executeAction cfg incidentId payload) w fun _ v ↦
      v.rows = w.rows ∨ Blocks cfg w incidentId payload ∨ Passes cfg env w incidentId payload := by
  refine Prog.Runs.bind
    ((authorize_runs cfg incidentId payload w).and (authorize_rows cfg incidentId payload w)) ?_ ?_
  · rintro g v ⟨⟨hlets, -⟩, -⟩
    exact Or.inr (Or.inr ⟨_, _, hlets⟩)
  · rintro e v ⟨-, hrows⟩
    exact hrows.imp_right Or.inl

/-- An incident that ends resolved has had a run of its action that succeeded and was verified. -/
theorem Executed.passed {u v : World} {payload : ExecutePayload} {result : ActionResult}
    {verified : Bool} (h : Executed cfg env mode u incidentId payload r result verified v)
    (hafter : ∀ s ∈ v.stored incidentId, s.state = .resolved) :
    executionReports env u (runAction cfg payload) = some true ∧
      verifiedAfter cfg env u (runAction cfg payload) true = some true := by
  obtain ⟨s, hs, hstate, -⟩ := h.stored
  have hfinal := hstate.symm.trans (hafter s hs)
  obtain ⟨hsuccess, rfl⟩ := finalState_eq_resolved hfinal
  have hreports := h.reports
  have hverified := h.verification
  rw [hsuccess] at hreports hverified
  exact ⟨hreports, hverified⟩

/-- An execute request that leaves a resolved incident resolved, and does not restamp it, leaves it
alone. -/
theorem Call.after_resolved {c : Call} {i : String} (hc : c.Executes i)
    (hr : w.stored incidentId = some r)
    (hafter : ∀ s ∈ (c.after cfg env mode w).stored incidentId, s.state = .resolved)
    (hstamp : ¬ Restamps cfg env w incidentId c) :
    (c.after cfg env mode w).stored incidentId = some r := by
  by_cases hi : incidentId = i
  swap
  · exact (Call.after_other hc hi).trans hr
  subst hi
  cases hexecution : c.execution w with
  | none => exact (World.stored_congr (Call.after_of_no_execution hc hexecution) _).trans hr
  | some found =>
    obtain ⟨u, i, payload⟩ := found
    obtain rfl := Call.execution_executes hc hexecution
    have hu : u.rows = w.rows := (Call.execution_rows hexecution).1
    have hexecutes : RunsIn env mode (IncidentPlatform.executeAction cfg i payload) u _ :=
      (executeAction_runs cfg i payload u).and (executeAction_rows cfg i payload u)
    obtain ⟨res, hruns, hrows⟩ := Call.after_runs hexecution hexecutes
    have hkept (hrows : (c.after cfg env mode w).rows = u.rows) :
        (c.after cfg env mode w).stored i = some r :=
      (World.stored_congr (hrows.trans hu) _).trans hr
    have hblocks (h : Blocks cfg u i payload) : False :=
      hstamp ⟨u, payload, hexecution, Or.inl h⟩
    have hstored {r' : IncidentRecord} {plan : ResponsePlan}
        (h : LetsThrough cfg env u i payload r' plan) : r' = r :=
      Option.some_injective _ (h.stored.symm.trans ((World.stored_congr hu _).trans hr))
    cases res with
    | ok result =>
      obtain ⟨r', plan, result, verified, hlets, hexecuted⟩ := hruns
      have hpassed := hexecuted.passed hafter
      exact absurd ⟨u, payload, hexecution, Or.inr ⟨⟨r', plan, hlets⟩, hpassed⟩⟩ hstamp
    | error e =>
      rcases hruns with ⟨hrefused, -⟩ | ⟨r', plan, hlets, haborted⟩
      · rcases hrows with hrows | h | ⟨r', plan, hlets⟩
        · exact hkept hrows
        · exact (hblocks h).elim
        · exact (hrefused r' plan hlets).elim
      · obtain rfl := hstored hlets
        exact haborted.stored_of_resolved hafter

end

/-! ## Visits -/

/-- What may come after the resolution of an incident. -/
inductive Visit where
  /-- An execute request, of any incident. -/
  | execute (c : Call)
  /-- `POST /reporting/{incident_id}`. -/
  | report (incidentId : String)
  /-- A request that only reads. -/
  | read

/-- An execute request is one. -/
def Visit.WellFormed : Visit → Prop
  | .execute c => ∃ i, c.Executes i
  | _ => True

instance Call.decidableExecutes : (c : Call) → Decidable (∃ i, c.Executes i)
  | .executeAction i _ | .executeIncident i _ => isTrue ⟨i, rfl⟩
  | .ingest _ | .createAlert _ _ | .routeIncident _ | .processIncident _ | .createPlan _
  | .investigateIncident _ | .recordApproval _ _ | .approveIncident _ _ =>
    isFalse fun ⟨_, h⟩ ↦ h

instance Visit.WellFormed.decidable : (v : Visit) → Decidable v.WellFormed
  | .execute c => inferInstanceAs (Decidable (∃ i, c.Executes i))
  | .report _ | .read => isTrue trivial

/-- The visit is a request that saves the incident. -/
def Visit.Restamps (cfg : Settings) (env : Env) (incidentId : String) (w : World) : Visit → Prop
  | .execute c => IncidentPlatform.Restamps cfg env w incidentId c
  | _ => False

instance Visit.Restamps.decidable (cfg : Settings) (env : Env) (incidentId : String) (w : World) :
    (v : Visit) → Decidable (v.Restamps cfg env incidentId w)
  | .execute c => inferInstanceAs (Decidable (IncidentPlatform.Restamps cfg env w incidentId c))
  | .report _ | .read => isFalse fun h ↦ h

section

variable (tt : TimeText) (cfg : Settings) (env : Env) (mode : Mode)

def Visit.after (w : World) : Visit → World
  | .execute c => c.after cfg env mode w
  | .report incidentId =>
    { (createIncidentReport tt mode (env.now w.tick) w incidentId).2 with tick := w.tick + 1 }
  | .read => { w with tick := w.tick + 1 }

def afterVisits (w : World) (visits : List Visit) : World :=
  visits.foldl (Visit.after tt cfg env mode) w

/-- Every visit of the run satisfies `P`, with the worlds before and after it. -/
def EveryVisit (P : World → Visit → World → Prop) : World → List Visit → Prop
  | _, [] => True
  | w, v :: visits =>
    P w v (v.after tt cfg env mode w) ∧ EveryVisit P (v.after tt cfg env mode w) visits

instance EveryVisit.decidable {P : World → Visit → World → Prop}
    [∀ w v w', Decidable (P w v w')] :
    (visits : List Visit) → (w : World) → Decidable (EveryVisit tt cfg env mode P w visits)
  | [], _ => isTrue trivial
  | v :: visits, w =>
    have : Decidable (EveryVisit tt cfg env mode P (v.after tt cfg env mode w) visits) :=
      EveryVisit.decidable visits (v.after tt cfg env mode w)
    inferInstanceAs (Decidable (P w v (v.after tt cfg env mode w) ∧
      EveryVisit tt cfg env mode P (v.after tt cfg env mode w) visits))

/-- The `mttr_minutes` of the report on the incident. -/
def reportedMttr (w : World) (incidentId : String) : Option ℚ :=
  (getIncidentReport tt mode w incidentId).toOption.bind fun report ↦ report.metrics.mttrMinutes

/-- Every stored record of the incident is resolved. -/
def StaysResolved (w : World) (incidentId : String) : Prop :=
  ∀ s ∈ w.stored incidentId, s.state = .resolved

instance StaysResolved.decidable (w : World) (incidentId : String) :
    Decidable (StaysResolved w incidentId) :=
  inferInstanceAs (Decidable (∀ s ∈ w.stored incidentId, s.state = .resolved))

end

section

variable {tt : TimeText} {cfg : Settings} {env : Env} {mode : Mode} {w : World}
  {incidentId : String} {r : IncidentRecord}

theorem reportedMttr_of_stored (hr : w.stored incidentId = some r) :
    reportedMttr tt mode w incidentId = minutesBetween tt (some r.metadata.occurredAt)
      (if r.state == .resolved then some r.updatedAt else none) := by
  rw [reportedMttr, getIncidentReport, hr, listEvents_eq, if_neg (by simp)]
  rfl

theorem createIncidentReport_rows (now : Time) (w : World) (incidentId : String) :
    (createIncidentReport tt mode now w incidentId).2.rows = w.rows := by
  rw [createIncidentReport]
  cases getIncidentReport tt mode w incidentId <;> rfl

theorem Visit.after_resolved {v : Visit} (hv : v.WellFormed) (hr : w.stored incidentId = some r)
    (hafter : StaysResolved (v.after tt cfg env mode w) incidentId)
    (hstamp : ¬ v.Restamps cfg env incidentId w) :
    (v.after tt cfg env mode w).stored incidentId = some r := by
  cases v with
  | execute c =>
    obtain ⟨i, hc⟩ := hv
    exact Call.after_resolved hc hr hafter hstamp
  | report i => exact (World.stored_congr (createIncidentReport_rows _ w i) _).trans hr
  | read => exact hr

theorem stored_afterVisits {visits : List Visit} (hr : w.stored incidentId = some r)
    (hvisits : EveryVisit tt cfg env mode (fun w v w' ↦ v.WellFormed ∧
      StaysResolved w' incidentId ∧ ¬ v.Restamps cfg env incidentId w) w visits) :
    (afterVisits tt cfg env mode w visits).stored incidentId = some r := by
  induction visits generalizing w with
  | nil => exact hr
  | cons v visits ih =>
    obtain ⟨⟨hv, hafter, hstamp⟩, hrest⟩ := hvisits
    exact ih (v.after_resolved hv hr hafter hstamp) hrest

end

/-- **The time to recovery is fixed, in every run without a request that blocks an action of the
incident or runs one again.** -/
theorem mttr_fixed (tt : TimeText) (cfg : Settings) (env : Env) (mode : Mode) (w : World)
    (incidentId : String) (visits : List Visit)
    (hresolved : (w.stored incidentId).any (fun r ↦ r.state == .resolved) = true)
    (hvisits : EveryVisit tt cfg env mode (fun w v w' ↦ v.WellFormed ∧
      StaysResolved w' incidentId ∧ ¬ v.Restamps cfg env incidentId w) w visits) :
    reportedMttr tt mode (afterVisits tt cfg env mode w visits) incidentId =
      reportedMttr tt mode w incidentId := by
  obtain ⟨r, hr, -⟩ := (Option.any_eq_true _ _).mp hresolved
  rw [reportedMttr_of_stored hr, reportedMttr_of_stored (stored_afterVisits hr hvisits)]

/-! ## A resolved checkout incident -/

/-- The approved rollback has been run. -/
def checkoutResolved : World :=
  after Settings.demo Env.demo .postgres {}
    (checkoutPlanned ++ [approveRollback none, .executeIncident checkoutId {}])

/-- The same approval once more, which is stale by now, and the report. -/
theorem mttr_fixed_checkout :
    reportedMttr TimeText.calendar .postgres
        (afterVisits TimeText.calendar Settings.demo Env.demo .postgres checkoutResolved
          [.execute (executeRollback "checkout-service"), .report checkoutId, .read]) checkoutId =
      reportedMttr TimeText.calendar .postgres checkoutResolved checkoutId :=
  mttr_fixed TimeText.calendar Settings.demo Env.demo .postgres checkoutResolved checkoutId _
    (by decide +kernel) (by decide +kernel)

/-- A shell command, which the policy denies. -/
def executeShell : Call :=
  .executeAction checkoutId
    { action :=
        { actionId := "act_shell", actionType := .runShell, target := "checkout-service"
          parameters := [], idempotencyKey := "shell" } }

/-- The incident stays resolved, and its time to recovery grows. -/
theorem mttr_grows :
    ¬ ∀ visits, EveryVisit TimeText.calendar Settings.demo Env.demo .postgres
        (fun _ v w' ↦ v.WellFormed ∧ StaysResolved w' checkoutId) checkoutResolved visits →
      reportedMttr TimeText.calendar .postgres
          (afterVisits TimeText.calendar Settings.demo Env.demo .postgres checkoutResolved visits)
          checkoutId =
        reportedMttr TimeText.calendar .postgres checkoutResolved checkoutId := by
  intro h
  have hgrown := h [.execute executeShell] (by decide +kernel)
  revert hgrown
  decide +kernel

end IncidentPlatform
