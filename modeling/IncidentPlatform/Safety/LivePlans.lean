import IncidentPlatform.Execution.Adapters
import IncidentPlatform.Safety.Records

/-!
# The plans of the language model

The planner gives every action that the language model names the parameter `service`, and no other
one. That is enough for a restart. A rollback needs a deployment and a revision, a scaling a number
of replicas, and `_validate_parameters` insists on them. So where the planner may not use its stub,
no rollback and no scaling of a pending plan ever reaches a workload, approved or not, and in every
execution mode: **`live_plans_refused`**.
-/

namespace IncidentPlatform

open Interaction

section

variable {cfg : Settings} {action : ActionRequest}

/-- An action with no parameter but `service` fails the validation. -/
theorem invalidFields_service (s : AdapterSettings) {service : String}
    (hparameters : action.parameters = [("service", .str service)])
    (htype : action.actionType ∈ [ActionType.rollbackDeployment, .scaleWorkload]) :
    (TypedActionAdapterRegistry.invalidFields s action).isEmpty = false := by
  rw [TypedActionAdapterRegistry.invalidFields, hparameters]
  rcases List.mem_cons.mp htype with htype | htype
  · rw [htype]
    rfl
  · rw [List.mem_singleton.mp htype]
    cases hservice : service.isEmpty
    all_goals simp [TypedActionAdapterRegistry.paramFields,
      TypedActionAdapterRegistry.ParamField.valid, Dict.get?, hservice]

/-- Such an attempt fails, and no client is called. -/
theorem run_refused (s : AdapterSettings) (context : SecurityContext)
    (hplanned : PlannedParameters cfg action) (hlive : cfg.plansWithStub = false)
    (htype : action.actionType ∈ [ActionType.rollbackDeployment, .scaleWorkload]) :
    ∃ result : AdapterResult, TypedActionAdapterRegistry.run cfg s context action = pure result ∧
      result.success = false := by
  rcases hplanned with ⟨service, hparameters⟩ | hstub
  · rw [TypedActionAdapterRegistry.run, invalidFields_service s hparameters htype]
    by_cases hsupported : action.actionType ∉ TypedActionAdapterRegistry.supportedActions
    · rw [if_pos hsupported]
      exact ⟨_, rfl, rfl⟩
    · rw [if_neg hsupported]
      by_cases haccess : (!context.canAccessTarget action.target) = true
      · rw [if_pos haccess]
        exact ⟨_, rfl, rfl⟩
      · rw [if_neg haccess, if_pos (by rfl)]
        exact ⟨_, rfl, rfl⟩
  · rw [hlive] at hstub
    cases hstub

/-- The adapters refuse the action, whatever they are set to. -/
def AlwaysRefused (cfg : Settings) (action : ActionRequest) : Prop :=
  ∀ (s : AdapterSettings) (context : SecurityContext), ∃ result : AdapterResult,
    TypedActionAdapterRegistry.run cfg s context action = pure result ∧ result.success = false

/-- **A plan of the language model rolls nothing back and scales nothing.** In Postgres mode, under
every schedule of any number of concurrent calls: whenever an incident's pending action is handed to
the adapters and it is a rollback or a scaling, they refuse it without calling a client. -/
theorem live_plans_refused {ι : Type*} [DecidableEq ι] {env : Env} (henv : env.SchemaValid)
    (hlive : cfg.plansWithStub = false) (w : World) (hw : w.WellKept cfg) (call : ι → Call)
    (schedule : List ι) :
    Pool.Throughout (serve env .postgres) (recordContract cfg).next
      (fun P i ↦ ∀ incidentId payload action k, call i = .executeIncident incidentId payload →
        (P.thread i).prog = .call (.registryRun action) k →
        action.actionType ∈ [ActionType.rollbackDeployment, .scaleWorkload] →
          AlwaysRefused cfg action)
      (recordPool cfg w call) schedule := by
  let K (v : World) (acts : ι → ActionRequest → Prop) : Prop :=
    v.WellKept cfg ∧ ∀ i, acts i = (call i).acts cfg
  refine Pool.Throughout.of_invariant (J := fun P ↦ K P.shared (fun i ↦ (P.thread i).ghost) ∧
    ∀ i, (P.thread i).prog.Meets (recordContract cfg) (fun _ _ ↦ True) (P.thread i).ghost)
    (fun P i hP ↦ ?_) (fun P i hP ↦ ?_)
    ⟨⟨hw, fun _ ↦ rfl⟩, fun i ↦ Call.meets_recordContract cfg (call i)⟩
  · intro incidentId payload action k hcall hprog htype s context
    -- The next operation keeps the contract, and its call is one for a pending action.
    have hmeets := hP.2 i
    have hghost : (P.thread i).ghost = (call i).acts cfg := hP.1.2 i
    rw [hprog, hghost, hcall] at hmeets
    exact run_refused s context hmeets.1.1 hlive htype
  · refine Pool.step_meets (fun _ _ _ ↦ True) (recordContract cfg) K (fun o k _ hguar ↦ ?_)
      hP.1 hP.2
    refine ⟨⟨henv.serve _ _, hP.1.1.reads _⟩, hP.1.1.writes hguar, fun j ↦ ?_⟩
    by_cases hj : j = i
    · rw [hj, Function.update_self]
      exact hP.1.2 i
    · rw [Function.update_of_ne hj]
      exact hP.1.2 j

end

/-- The agents run, and never fall back on a stub. -/
def Settings.live : Settings :=
  { Settings.demo with agenticEnabled := true, agenticStubFallback := false }

/-- A rollback that the language model has planned, and that was approved. -/
def plannedRollback : IncidentRecord :=
  { checkoutIncident with
    incidentId := checkoutId
    state := .planned
    responsePlan := some (checkoutIncident.matchedPlan Settings.live)
    allowedActions := (checkoutIncident.matchedPlan Settings.live).allowedActions
    pendingActionGraph := some
      { objective := "", prerequisites := [], safetyChecks := [], rollbackPlan := []
        blastRadius := "single service", successSignal := ""
        actions :=
          [{ actionId := "act_1"
             actionType := .rollbackDeployment
             target := "checkout-service"
             parameters := [("service", .str "checkout-service")]
             idempotencyKey := "inc_1:RollbackDeployment" }] }
    approvals :=
      [{ approvalId := "apr_1", actionId := some "act_1", approver := "oncall", approved := true
         approvalToken := "token_1", expiresAt := 1800000000000000, createdAt := 0
         expectedIncidentVersionAtGrant := some 1 }] }

theorem plannedRollback_wellKept : WellKept Settings.live plannedRollback where
  toolsUsed := List.nodup_nil
  blockedActions := List.nodup_nil
  agentPath := ⟨List.nodup_nil, List.nil_subset _⟩
  evidence _ h := absurd h List.not_mem_nil
  links _ h := absurd h List.not_mem_nil
  confidence := ⟨le_rfl, zero_le_one⟩
  coverage := ⟨le_rfl, zero_le_one⟩
  plan plan hplan := by
    rw [← Option.mem_some.mp hplan]
    exact ⟨rfl, rfl⟩
  iteration := Nat.zero_le _
  decisions _ h := absurd h List.not_mem_nil
  latest := rfl
  pending graph hgraph := by
    rw [← Option.mem_some.mp hgraph]
    exact List.forall_mem_singleton.mpr ⟨rfl, rfl, Or.inl rfl⟩

/-- The approved rollback is handed to the adapters after eleven steps, and refused. -/
theorem live_plans_refused_rollback :
    Pool.Throughout (serve Env.answering .postgres) (recordContract Settings.live).next
      (fun P i ↦ ∀ incidentId payload action k,
        (fun _ : Fin 1 ↦ Call.executeIncident checkoutId {}) i
          = .executeIncident incidentId payload →
        (P.thread i).prog = .call (.registryRun action) k →
        action.actionType ∈ [ActionType.rollbackDeployment, .scaleWorkload] →
          AlwaysRefused Settings.live action)
      (recordPool Settings.live { rows := [plannedRollback] }
        fun _ ↦ .executeIncident checkoutId {}) (List.replicate 12 0) :=
  live_plans_refused Env.answering_schemaValid rfl { rows := [plannedRollback] }
    (List.forall_mem_singleton.mpr plannedRollback_wellKept)
    (fun _ ↦ .executeIncident checkoutId {}) (List.replicate 12 0)

end IncidentPlatform
