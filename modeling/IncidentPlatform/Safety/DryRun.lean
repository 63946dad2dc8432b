import IncidentPlatform.Api.Conduct
import IncidentPlatform.Api.Scenario
import IncidentPlatform.Safety.Autonomy
import IncidentPlatform.Safety.Targets

/-!
# Dry runs

Three flags can make an execution a dry run: the one of the request, `EXECUTE_ACTION_DRY_RUN`, which
`_effective_execute_dry_run` reads in AWS mode, and `AWS_ACTION_DRY_RUN`, which the ECS adapter
reads. An action is inert if its own flag is set or the ECS adapter's is in force, and the registry
changes nothing on an inert action (`run_inert`). The execute endpoints hand no action to the
executor but the one with the effective flag (`executeAction_runsOnly`), the scenario none but a
real one. So a call changes no workload if one of the flags guards it (`guarded_changes_nothing`).

The request's own flag is not enough. An autonomous request for a dry run is a real run when the
kill switch is off.
-/

namespace IncidentPlatform

open Interaction

/-! ## Inert actions -/

/-- No adapter carries the action out: it is a dry run, or the ECS adapter is in charge and makes
dry runs only. -/
def Inert (cfg : Settings) (s : AdapterSettings) (action : ActionRequest) : Prop :=
  action.dryRun = true ∨ cfg.executionMode = "aws" ∧ s.awsActionDryRun = true

section

variable {cfg : Settings} {s : AdapterSettings} {action : ActionRequest}

theorem Inert.not_reaches {context : SecurityContext} (h : Inert cfg s action) (w : Workload) :
    ¬ Reaches cfg s context action w := by
  intro hreaches
  cases w with
  | ecsService cluster service =>
    have hreal := hreaches.1.notDry
    rw [Bool.or_eq_false_iff] at hreal
    rcases h with hdry | ⟨-, hdry⟩
    · exact absurd (hdry.symm.trans hreal.1) (by decide)
    · exact absurd (hdry.symm.trans hreal.2) (by decide)
  | checkout =>
    rcases h with hdry | ⟨hmode, -⟩
    · exact absurd (hdry.symm.trans hreaches.notDry) (by decide)
    · exact absurd (hmode.symm.trans hreaches.mode) (by decide)

theorem run_inert {context : SecurityContext} (h : Inert cfg s action) :
    (TypedActionAdapterRegistry.run cfg s context action).Issues fun o ↦ o.changes = none := by
  refine Prog.Issues.mono (fun o ho ↦ ?_) run_issues
  rw [Option.eq_none_iff_forall_not_mem]
  exact fun w hw ↦ h.not_reaches w (ho w hw)

end

/-- The workload that an operation changes through an adapter. -/
def EdgeOp.changes : EdgeOp → Option Workload
  | .adapter o => o.changes
  | _ => none

/-! ## The actions that a call attempts -/

/-- The operation is no attempt, or one at an action with `Q`. -/
def Op.runsOnly (Q : ActionRequest → Prop) : Op → Prop
  | .registryRun action => Q action
  | _ => True

section

variable {Q : ActionRequest → Prop} {α : Type}

/-- A route attempts no action. -/
theorem route_runsOnly {p : Handler α} (h : p.Issues Op.ofRoute) : p.Issues (Op.runsOnly Q) :=
  h.mono fun o ho ↦ by cases o <;> trivial

theorem step_runsOnly {p : Handler α} (h : p.Issues Op.ofStep) : p.Issues (Op.runsOnly Q) :=
  route_runsOnly (step_issues h)

theorem agent_runsOnly {p : Handler α} (h : p.Issues Op.ofAgent) : p.Issues (Op.runsOnly Q) :=
  step_runsOnly (agent_issues h)

/-! ### The execute endpoints -/

theorem blockInvestigateOnly_runsOnly (cfg : Settings) (incidentId : String) (r : IncidentRecord)
    (payload : ExecutePayload) :
    (blockInvestigateOnly cfg incidentId r payload).Issues (Op.runsOnly Q) := by
  rw [blockInvestigateOnly]
  rcases investigateOnlyBlock cfg r with _ | decision
  · trivial
  · exact issues_bind (issues_perform trivial) fun _ ↦
      issues_bind (step_runsOnly (save_issues _)) fun _ ↦ trivial

theorem blockDenied_runsOnly (incidentId : String) (r : IncidentRecord) (payload : ExecutePayload)
    (decision : PolicyDecision) :
    (blockDenied incidentId r payload decision).Issues (Op.runsOnly Q) := by
  rw [blockDenied]
  split_ifs
  · trivial
  · exact issues_bind (step_runsOnly (save_issues _)) fun _ ↦
      issues_bind (issues_perform trivial) fun _ ↦ trivial

theorem checkApproval_runsOnly (r : IncidentRecord) (payload : ExecutePayload) :
    (checkApproval r payload).Issues (Op.runsOnly Q) :=
  issues_bind (orHttp_issues _ _ _) fun _ ↦ issues_bind (orHttp_issues _ _ _) fun _ ↦
    issues_bind (ensure_issues _ _ _) fun _ ↦ issues_bind (issues_perform trivial) fun _ ↦
    issues_bind (ensure_issues _ _ _) fun _ ↦ issues_bind (orHttp_issues _ _ _) fun _ ↦
    issues_bind (ensure_issues _ _ _) fun _ ↦ issues_bind (ensure_issues _ _ _) fun _ ↦
    issues_bind (ensure_issues _ _ _) fun _ ↦ trivial

theorem acceptApproval_runsOnly (r : IncidentRecord) (payload : ExecutePayload)
    (decision : PolicyDecision) :
    (acceptApproval r payload decision).Issues (Op.runsOnly Q) := by
  rw [acceptApproval]
  split_ifs
  · exact issues_bind (checkApproval_runsOnly r payload) fun _ ↦ issues_perform trivial
  · trivial

theorem authorize_runsOnly (cfg : Settings) (incidentId : String) (payload : ExecutePayload) :
    (authorize cfg incidentId payload).Issues (Op.runsOnly Q) := by
  refine issues_bind (issues_perform trivial) fun answer ↦
    issues_bind (orHttp_issues _ _ _) fun r ↦ issues_bind (orHttp_issues _ _ _) fun plan ↦
    issues_bind (ensure_issues _ _ _) fun _ ↦
    issues_bind (blockInvestigateOnly_runsOnly cfg incidentId r payload) fun _ ↦
    issues_bind (ensure_issues _ _ _) fun _ ↦ issues_bind ?_ fun decision ↦
    issues_bind (blockDenied_runsOnly incidentId r payload decision) fun _ ↦
    issues_bind (acceptApproval_runsOnly r payload decision) fun _ ↦ trivial
  exact issues_bind (issues_perform trivial) fun _ ↦ issues_bind (issues_perform trivial) fun _ ↦
    trivial

/-- The execution agent attempts the action it is given. -/
theorem executionAgentRun_runsOnly {action : ActionRequest} (h : Q action) :
    (executionAgentRun action).Issues (Op.runsOnly Q) := by
  have hattempts : (runWithRetries action defaultRetryLimit).Issues (Op.runsOnly Q) :=
    (runWithRetries_issues action _).mono fun _ ho ↦ ho ▸ h
  refine issues_bind (issues_perform trivial) fun _ ↦ issues_bind ?_ fun _ ↦
    issues_bind (issues_perform trivial) fun _ ↦ trivial
  refine issues_bind (issues_perform trivial) fun answer ↦ ?_
  rcases answer with f | _ | _
  · trivial
  · trivial
  · exact issues_bind hattempts fun _ ↦ issues_bind (issues_perform trivial) fun _ ↦ trivial

theorem verifyPerformed_runsOnly (cfg : Settings) (incidentId : String) (action : ActionRequest)
    (r : IncidentRecord) (result : ActionResult) :
    (verifyPerformed cfg incidentId action r result).Issues (Op.runsOnly Q) := by
  have hverify : (verifyActionRecovery cfg action).Issues (Op.runsOnly Q) := by
    rw [verifyActionRecovery]
    split_ifs
    · trivial
    · exact issues_bind (issues_perform trivial) fun answer ↦
        issues_bind (orRaise_issues answer) fun _ ↦ trivial
    · trivial
  rw [verifyPerformed]
  split_ifs
  · exact issues_bind hverify fun _ ↦
      issues_bind (agent_runsOnly (newTraceEntry_issues _ _ _ _ _)) fun _ ↦
      issues_bind (step_runsOnly (assign_issues _)) fun _ ↦
      issues_bind (issues_perform trivial) fun _ ↦ trivial
  · trivial

theorem performAction_runsOnly (cfg : Settings) (incidentId : String) {action : ActionRequest}
    (h : Q action) (r : IncidentRecord) :
    (performAction cfg incidentId action r).Issues (Op.runsOnly Q) :=
  issues_bind (agent_runsOnly (newTraceEntry_issues _ _ _ _ _)) fun _ ↦
    issues_bind (step_runsOnly (assign_issues _)) fun _ ↦
    issues_bind (executionAgentRun_runsOnly h) fun _ ↦
    issues_bind (agent_runsOnly (newTraceEntry_issues _ _ _ _ _)) fun _ ↦
    issues_bind (step_runsOnly (assign_issues _)) fun _ ↦ verifyPerformed_runsOnly cfg _ _ _ _

theorem recordOutcome_runsOnly (incidentId : String) (payload : ExecutePayload) (g : Authorized)
    (dryRun : Bool) (o : Performed) :
    (recordOutcome incidentId payload g dryRun o).Issues (Op.runsOnly Q) := by
  refine issues_bind (step_runsOnly (save_issues _)) fun _ ↦
    issues_bind (issues_perform trivial) fun _ ↦ issues_bind ?_ fun _ ↦ trivial
  rw [escalate]
  split_ifs
  · exact issues_perform trivial
  · trivial

/-- The only action that `execute_action` attempts is the one with the effective flag. -/
theorem executeAction_runsOnly (cfg : Settings) (incidentId : String) (payload : ExecutePayload)
    (h : Q (runAction cfg payload)) :
    (executeAction cfg incidentId payload).Issues (Op.runsOnly Q) :=
  issues_bind (authorize_runsOnly cfg incidentId payload) fun g ↦
    issues_bind (performAction_runsOnly cfg incidentId h g.incident) fun o ↦
    recordOutcome_runsOnly incidentId payload g _ o

theorem executeIncident_runsOnly (cfg : Settings) (incidentId : String)
    (payload : IncidentExecutePayload)
    (h : ∀ r action, Q (runAction cfg (forwardedPayload r payload action))) :
    (executeIncident cfg incidentId payload).Issues (Op.runsOnly Q) :=
  issues_bind (issues_perform trivial) fun _ ↦ issues_bind (orHttp_issues _ _ _) fun r ↦
    issues_bind (orHttp_issues _ _ _) fun _ ↦ issues_bind (orHttp_issues _ _ _) fun action ↦
    executeAction_runsOnly cfg incidentId _ (h r action)

/-! ### The scenario -/

theorem planScenario_runsOnly (cfg : Settings) : (planScenario cfg).Issues (Op.runsOnly Q) := by
  refine issues_bind ?_ fun r ↦ issues_bind (step_runsOnly (upsert_issues r)) fun r ↦
    issues_bind (issues_perform trivial) fun _ ↦
    issues_bind (route_runsOnly (executeRoute_issues cfg false r)) fun r ↦
    issues_bind (step_runsOnly (planRemediation_issues cfg r)) fun planned ↦
    issues_bind (step_runsOnly (save_issues _)) fun _ ↦
    issues_bind (orHttp_issues _ _ _) fun _ ↦ trivial
  exact issues_bind (issues_perform trivial) fun _ ↦ issues_bind (issues_perform trivial) fun _ ↦
    issues_bind (issues_perform trivial) fun _ ↦
    issues_bind (issues_perform trivial) fun _ ↦ trivial

theorem approveScenario_runsOnly (r : IncidentRecord) (action : ActionRequest) :
    (approveScenario r action).Issues (Op.runsOnly Q) :=
  issues_bind (issues_perform trivial) fun _ ↦ issues_bind (issues_perform trivial) fun _ ↦
    issues_bind (issues_perform trivial) fun _ ↦ issues_bind (require_issues _ _) fun _ ↦
    issues_bind (issues_perform trivial) fun _ ↦
    issues_bind (step_runsOnly (save_issues _)) fun _ ↦
    issues_bind (issues_perform trivial) fun _ ↦ trivial

theorem repairScenario_runsOnly (r : IncidentRecord) {action : ActionRequest} (h : Q action) :
    (repairScenario r action).Issues (Op.runsOnly Q) :=
  issues_bind (agent_runsOnly (newTraceEntry_issues _ _ _ _ _)) fun _ ↦
    issues_bind (step_runsOnly (assign_issues _)) fun _ ↦
    issues_bind (executionAgentRun_runsOnly h) fun _ ↦
    issues_bind (issues_perform trivial) fun answer ↦ issues_bind (orRaise_issues answer) fun _ ↦
    issues_bind (agent_runsOnly (newTraceEntry_issues _ _ _ _ _)) fun _ ↦
    issues_bind (step_runsOnly (save_issues _)) fun _ ↦
    issues_bind (issues_perform trivial) fun _ ↦ trivial

theorem resolveScenario_runsOnly (cfg : Settings) (h : ∀ action, Q action) :
    (resolveScenario cfg).Issues (Op.runsOnly Q) :=
  issues_bind (planScenario_runsOnly cfg) fun planned ↦
    issues_bind (approveScenario_runsOnly planned.1 planned.2) fun approved ↦
    issues_bind (repairScenario_runsOnly approved.1 (h planned.2)) fun _ ↦ trivial

end

/-! ## Guarded calls -/

/-- One of the flags guards the call: the request asks for a dry run and autonomy does not override
it, or the execute endpoints force one in AWS mode, or the ECS adapter does. -/
inductive Guarded (cfg : Settings) (s : AdapterSettings) (call : ExecutionCall) : Prop where
  | asked (hdry : call.asksDryRun = true)
      (hpinned : (call.autonomous && !cfg.autonomyKillSwitch) = false)
  | forced (hmode : cfg.executionMode = "aws") (hflag : cfg.executeActionDryRun = true)
      (hcall : call ≠ .runCheckoutDeploymentFailure)
  | adapter (hmode : cfg.executionMode = "aws") (hflag : s.awsActionDryRun = true)

section

variable {cfg : Settings} {s : AdapterSettings}

theorem runAction_dryRun (payload : ExecutePayload) (h : (payload.action.dryRun = true ∧
      (payload.autonomous && !cfg.autonomyKillSwitch) = false) ∨
      (cfg.executionMode = "aws" ∧ cfg.executeActionDryRun = true)) :
    (runAction cfg payload).dryRun = true := by
  change effectiveExecuteDryRun cfg payload.action payload.autonomous = true
  rw [effectiveExecuteDryRun]
  rcases h with ⟨hdry, hpinned⟩ | ⟨hmode, hflag⟩
  · rw [hpinned, if_neg Bool.false_ne_true, hdry, ite_self]
  · rw [hmode, hflag, Bool.and_true, if_pos (beq_self_eq_true _)]

theorem forwardedPayload_dryRun (r : IncidentRecord) {payload : IncidentExecutePayload}
    (h : (payload.dryRun == some true) = true) (action : ActionRequest) :
    (forwardedPayload r payload action).action.dryRun = true := by
  change payload.dryRun.getD action.dryRun = true
  rw [beq_iff_eq.mp h, Option.getD_some]

/-- The calls of the adapters, on actions that are all inert. -/
theorem deployed_issues {α : Type} {p : Handler α} (h : p.Issues (Op.runsOnly (Inert cfg s))) :
    (deployed cfg s p).Issues fun o ↦ o.changes = none := by
  refine Prog.Issues.interp (fun o ho ↦ ?_) h
  cases o with
  | registryRun action =>
    -- An attempt: nothing if its time is up, else the calls of the registry.
    refine ⟨rfl, fun expired ↦ ?_⟩
    cases expired with
    | true => trivial
    | false =>
      refine Prog.Issues.attempt (Prog.Issues.interp (fun a ha ↦ ?_) (run_inert ho))
      exact ⟨ha, fun _ ↦ trivial⟩
  | _ => exact ⟨rfl, fun _ ↦ trivial⟩

theorem discard_runsOnly {α : Type} {Q : ActionRequest → Prop} {p : Handler α}
    (h : p.Issues (Op.runsOnly Q)) : (discard p).Issues (Op.runsOnly Q) :=
  issues_bind h fun _ ↦ trivial

/-- A flag in force makes every action inert that the execute endpoints make of a payload. -/
theorem inert_runAction (payload : ExecutePayload)
    (h : (payload.action.dryRun = true ∧ (payload.autonomous && !cfg.autonomyKillSwitch) = false) ∨
      cfg.executionMode = "aws" ∧ (cfg.executeActionDryRun = true ∨ s.awsActionDryRun = true)) :
    Inert cfg s (runAction cfg payload) := by
  rcases h with hasked | ⟨hmode, hflag | hflag⟩
  · exact Or.inl (runAction_dryRun payload (Or.inl hasked))
  · exact Or.inl (runAction_dryRun payload (Or.inr ⟨hmode, hflag⟩))
  · exact Or.inr ⟨hmode, hflag⟩

theorem Guarded.program_issues {call : ExecutionCall} (h : Guarded cfg s call) :
    (call.program cfg s).Issues fun o ↦ o.changes = none := by
  cases call with
  | executeAction incidentId payload =>
    refine deployed_issues (discard_runsOnly ?_)
    refine executeAction_runsOnly cfg _ _ (inert_runAction _ ?_)
    cases h with
    | asked hdry hpinned => exact Or.inl ⟨hdry, hpinned⟩
    | forced hmode hflag => exact Or.inr ⟨hmode, Or.inl hflag⟩
    | adapter hmode hflag => exact Or.inr ⟨hmode, Or.inr hflag⟩
  | executeIncident incidentId payload =>
    refine deployed_issues (discard_runsOnly (executeIncident_runsOnly cfg _ _ fun r action ↦
      inert_runAction _ ?_))
    -- `execute_incident` passes the request's flag on, and the autonomous flag as it is.
    cases h with
    | asked hdry hpinned => exact Or.inl ⟨forwardedPayload_dryRun r hdry action, hpinned⟩
    | forced hmode hflag => exact Or.inr ⟨hmode, Or.inl hflag⟩
    | adapter hmode hflag => exact Or.inr ⟨hmode, Or.inr hflag⟩
  | runCheckoutDeploymentFailure =>
    -- The action is a real one and no flag of a request comes in, so the adapter's has to do.
    have hinert : ∀ action, Inert cfg s action := by
      intro action
      cases h with
      | asked hdry => exact absurd hdry Bool.false_ne_true
      | forced _ _ hcall => exact absurd rfl hcall
      | adapter hmode hflag => exact Or.inr ⟨hmode, hflag⟩
    have hclient (answer : Except Fault Dict) :
        (callCheckout answer).Issues fun o ↦ o.changes = none := Prog.ofExcept_issues _
    refine Prog.Issues.bind ?_ fun _ ↦ trivial
    refine Prog.Issues.bind ⟨rfl, fun _ ↦ trivial⟩ fun answer ↦ ?_
    refine (hclient answer).bind fun _ ↦ ?_
    refine Prog.Issues.bind ⟨rfl, fun _ ↦ trivial⟩ fun answer ↦ (hclient answer).bind fun _ ↦ ?_
    exact deployed_issues (resolveScenario_runsOnly cfg hinert)

end

/-- No adapter changes a workload. -/
def ChangesNothing (trace : List (Prog.Event EdgeOp EdgeAns)) : Prop :=
  ∀ e ∈ trace, e.1.changes = none

/-- **Dry runs.** Whatever the stores, the clients and everything else outside answer, a call that
is guarded changes no workload through an adapter. -/
theorem guarded_changes_nothing (cfg : Settings) (s : AdapterSettings) (call : ExecutionCall)
    (h : Guarded cfg s call) (σ : Type) (serve : σ → (o : EdgeOp) → EdgeAns o × σ) (st : σ) :
    ChangesNothing ((call.program cfg s).trace serve st) :=
  h.program_issues.trace st

/-! ## An override -/

/-- An autonomous request for the dry run of a rollback that has its parameters. -/
def checkoutRollback : ExecutionCall :=
  .executeAction checkoutId
    { autonomousRollback with
      action :=
        { autonomousRollback.action with
          parameters :=
            [("deployment", .str "checkout"), ("to_revision", .str "checkout-r42")] } }

/-- The world in which the checkout incident is routed. -/
def checkoutWorld : World := after Settings.released Env.demo .postgres {} checkoutRouted

/-- It rolls the checkout service back. -/
theorem requested_dry_run_overridden :
    ¬ ∀ (cfg : Settings) (s : AdapterSettings) (call : ExecutionCall) (σ : Type)
      (serve : σ → (o : EdgeOp) → EdgeAns o × σ) (st : σ),
      call.asksDryRun = true ∨ cfg.executionMode = "aws" ∧ s.executeActionDryRun = true ∨
        cfg.executionMode = "aws" ∧ s.awsActionDryRun = true →
      ChangesNothing ((call.program cfg s).trace serve st) := by
  intro h
  have hchanged : ((checkoutRollback.program Settings.released AdapterSettings.demo).trace
      (serveEdge obliging Env.demo .postgres) checkoutWorld).any
        (fun e ↦ e.1.changes.isSome) = true := by
    decide +kernel
  obtain ⟨e, he, hsome⟩ := List.any_eq_true.mp hchanged
  have hnone := h Settings.released AdapterSettings.demo checkoutRollback World
    (serveEdge obliging Env.demo .postgres) checkoutWorld (Or.inl rfl) e he
  rw [hnone] at hsome
  exact Bool.false_ne_true hsome

/-- The kill switch off, in AWS mode. -/
def Settings.releasedAws : Settings := { Settings.released with executionMode := "aws" }

/-- The rollback is attempted in AWS mode too. -/
example : ((checkoutRollback.program Settings.releasedAws AdapterSettings.demo).trace
    (serveEdge obliging Env.demo .postgres) checkoutWorld).any
      (fun e ↦ match e.1 with | .expired _ => true | _ => false) = true := by decide +kernel

/-- There `EXECUTE_ACTION_DRY_RUN` keeps it a dry run. -/
theorem guarded_changes_nothing_rollback :
    ChangesNothing ((checkoutRollback.program Settings.releasedAws AdapterSettings.demo).trace
      (serveEdge obliging Env.demo .postgres) checkoutWorld) :=
  guarded_changes_nothing Settings.releasedAws AdapterSettings.demo checkoutRollback
    (.forced rfl rfl nofun) World (serveEdge obliging Env.demo .postgres) checkoutWorld

end IncidentPlatform
