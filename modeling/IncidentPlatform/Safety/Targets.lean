import IncidentPlatform.Execution.Adapters

/-!
# The workload that an action changes

The policy and the executor check the target that the action names. Which workload is then changed
is decided elsewhere: the ECS adapter updates the service that the settings name, and takes the
target only if they name none, and the checkout client has one workload whatever the target is.
`Reaches` says which workload an action changes, as a condition on the settings, the context and the
action. An attempt issues no call that changes another one (`run_issues`), and with obliging clients
it does issue one (`run_reaches`). So the change is one of the named workload exactly if the adapter
in charge is bound to the target (`only_target_iff`).
-/

namespace IncidentPlatform

open Interaction

/-! ## Carrying out an action -/

/-- The checks of the registry. -/
structure Accepted (s : AdapterSettings) (context : SecurityContext) (action : ActionRequest) :
    Prop where
  supported : action.actionType ∈ TypedActionAdapterRegistry.supportedActions
  accessible : context.canAccessTarget action.target = true
  valid : TypedActionAdapterRegistry.invalidFields s action = []

/-- The action is carried out by the ECS adapter: it is accepted, the adapter is configured, no flag
makes it a dry run, and the number of replicas it may ask for converts. -/
structure ByEcs (cfg : Settings) (s : AdapterSettings) (context : SecurityContext)
    (action : ActionRequest) : Prop where
  accepted : Accepted s context action
  mode : cfg.executionMode = "aws"
  cluster : s.awsEcsCluster.isEmpty = false
  service : (AwsEcsActionAdapter.serviceOf s action).isEmpty = false
  notDry : (action.dryRun || s.awsActionDryRun) = false
  change : ∃ change, AwsEcsActionAdapter.change cfg.text s action = .ok (some change)

/-- The action is carried out by the checkout client. -/
structure ByCheckout (cfg : Settings) (s : AdapterSettings) (context : SecurityContext)
    (action : ActionRequest) : Prop where
  accepted : Accepted s context action
  mode : cfg.executionMode = "local"
  notDry : action.dryRun = false
  call : ∃ call message,
    TypedActionAdapterRegistry.localCall cfg s action = some (.ok call, message)

/-- The workload that an action changes. -/
def Reaches (cfg : Settings) (s : AdapterSettings) (context : SecurityContext)
    (action : ActionRequest) : Workload → Prop
  | .ecsService cluster service => ByEcs cfg s context action ∧
      cluster = s.awsEcsCluster ∧ service = AwsEcsActionAdapter.serviceOf s action
  | .checkout => ByCheckout cfg s context action

section

variable {cfg : Settings} {s : AdapterSettings} {context : SecurityContext} {action : ActionRequest}

/-- The calls of an update, in terms of a property that all but the update itself have. -/
theorem update_issues (t : Text) (cluster service : String) {P : AdapterOp → Prop}
    (hread : ∀ o : AdapterOp, o.changes = none → P o)
    (hupdate : ∀ change, AwsEcsActionAdapter.change t s action = .ok (some change) →
      P (.updateService cluster service change)) :
    (AwsEcsActionAdapter.update t s action cluster service).Issues P := by
  refine Prog.Issues.bind ?_ fun response ↦ Prog.Issues.bind ?_ fun verification ↦ trivial
  · refine ⟨hread _ rfl, fun client ↦ (Prog.ofExcept_issues client).bind fun _ ↦ ?_⟩
    rcases hchange : AwsEcsActionAdapter.change t s action with e | change
    · trivial
    · rcases change with _ | change
      · trivial
      · exact ⟨hupdate change hchange, fun answer ↦ Prog.ofExcept_issues answer⟩
  · rw [AwsEcsActionAdapter.verify]
    split_ifs
    · trivial
    · refine ⟨hread _ rfl, fun services ↦ (Prog.ofExcept_issues services).bind fun _ ↦ ?_⟩
      exact Prog.ofExcept_issues _

theorem ecsRun_issues (haccepted : Accepted s context action)
    (hmode : cfg.executionMode = "aws") :
    (AwsEcsActionAdapter.run cfg.text s action).Issues fun o ↦
      ∀ w ∈ o.changes, Reaches cfg s context action w := by
  unfold AwsEcsActionAdapter.run
  dsimp only
  rcases AwsEcsActionAdapter.plannedOperation _ _ _ _ _ with e | planned
  · split_ifs <;> trivial
  split_ifs with hconfigured hdry
  · trivial
  · trivial
  refine Prog.Issues.bind (Prog.Issues.attempt (update_issues _ _ _ ?_ ?_)) fun _ ↦ trivial
  · intro o hread w hw
    rw [hread] at hw
    exact nomatch hw
  · -- The update itself: every check on the way to it has passed.
    rintro change hchange w ⟨⟩
    rw [Bool.not_eq_true, Bool.or_eq_false_iff] at hconfigured
    rw [Bool.not_eq_true] at hdry
    exact ⟨⟨haccepted, hmode, hconfigured.1, hconfigured.2, hdry, change, hchange⟩, rfl, rfl⟩

theorem runLocal_issues (haccepted : Accepted s context action)
    (hmode : cfg.executionMode = "local") (hdry : action.dryRun = false) :
    (TypedActionAdapterRegistry.runLocal cfg s action).Issues fun o ↦
      ∀ w ∈ o.changes, Reaches cfg s context action w := by
  rw [TypedActionAdapterRegistry.runLocal]
  rcases hcall : TypedActionAdapterRegistry.localCall cfg s action with _ | ⟨e | call, message⟩
  · trivial
  · trivial
  · refine ⟨?_, fun answer ↦ (Prog.ofExcept_issues answer).bind fun _ ↦ trivial⟩
    rintro w ⟨⟩
    exact ⟨haccepted, hmode, hdry, call, message, hcall⟩

/-- **One workload.** Whatever the clients answer, no call changes a workload that the action does
not reach. -/
theorem run_issues :
    (TypedActionAdapterRegistry.run cfg s context action).Issues fun o ↦
      ∀ w ∈ o.changes, Reaches cfg s context action w := by
  rw [TypedActionAdapterRegistry.run]
  split_ifs with hsupported haccessible hvalid hmode hdry hlocal
  all_goals try trivial
  · rw [Bool.and_eq_true, beq_iff_eq] at hmode
    exact ecsRun_issues ⟨hsupported, by simpa using haccessible, by simpa using hvalid⟩ hmode.1
  · exact runLocal_issues ⟨hsupported, by simpa using haccessible, by simpa using hvalid⟩
      (by simpa using hlocal) (by simpa using hdry)

/-- Clients that do what they are asked for. -/
def obliging (_ : Unit) : (o : AdapterOp) → AdapterAns o × Unit
  | .ecsClient => (.ok (), ())
  | .updateService _ _ _ => (.ok [], ())
  | .describeServices _ _ => (.ok [], ())
  | .checkout _ => (.ok [], ())

theorem run_eq_of_accepted (haccepted : Accepted s context action) :
    TypedActionAdapterRegistry.run cfg s context action =
      if cfg.executionMode == "aws" && action.actionType ∈ executableActions then
        AwsEcsActionAdapter.run cfg.text s action
      else if action.dryRun then
        pure
          { success := true
            message := "Dry-run completed for " ++ action.actionType.value
            details := [("dry_run", .bool true)] }
      else if cfg.executionMode != "local" then
        pure
          { success := false
            message := "No executable adapter configured for mode " ++ cfg.executionMode
            details := [("dry_run", .bool false),
              ("capabilities", .dict (TypedActionAdapterRegistry.capabilities cfg s))] }
      else TypedActionAdapterRegistry.runLocal cfg s action := by
  obtain ⟨hsupported, haccessible, hvalid⟩ := haccepted
  rw [TypedActionAdapterRegistry.run, if_neg (not_not.mpr hsupported), haccessible, hvalid,
    Bool.not_true, if_neg Bool.false_ne_true, List.isEmpty_nil, Bool.not_true,
    if_neg Bool.false_ne_true]

theorem executable_of_change {t : Text} {change : EcsChange}
    (hchange : AwsEcsActionAdapter.change t s action = .ok (some change)) :
    action.actionType ∈ executableActions := by
  rw [AwsEcsActionAdapter.change] at hchange
  cases haction : action.actionType <;> rw [haction] at hchange <;>
    first
    | decide
    | exact nomatch hchange

theorem update_reaches {t : Text} {change : EcsChange} (cluster service : String)
    (hchange : AwsEcsActionAdapter.change t s action = .ok (some change)) :
    ⟨.updateService cluster service change, .ok []⟩ ∈
      (AwsEcsActionAdapter.update t s action cluster service).trace obliging () := by
  rw [AwsEcsActionAdapter.update, Prog.bind_eq, Prog.trace_bind]
  refine List.mem_append_left _ ?_
  rw [AwsEcsActionAdapter.execute, hchange]
  exact List.mem_cons_of_mem _ List.mem_cons_self

/-- With obliging clients, the workload that an action reaches is changed. -/
theorem run_reaches {w : Workload} (h : Reaches cfg s context action w) :
    ∃ e ∈ (TypedActionAdapterRegistry.run cfg s context action).trace obliging (),
      w ∈ e.1.changes := by
  cases w with
  | ecsService cluster service =>
    obtain ⟨⟨haccepted, hmode, hcluster, hservice, hdry, change, hchange⟩, rfl, rfl⟩ := h
    have hexecutable := executable_of_change hchange
    have hplanned : ∃ planned, AwsEcsActionAdapter.plannedOperation cfg.text s action
        s.awsEcsCluster (AwsEcsActionAdapter.serviceOf s action) = .ok planned := by
      rw [AwsEcsActionAdapter.plannedOperation, hchange]
      exact ⟨_, rfl⟩
    obtain ⟨planned, hplanned⟩ := hplanned
    have hupdate := update_reaches (t := cfg.text) s.awsEcsCluster
      (AwsEcsActionAdapter.serviceOf s action) hchange
    refine ⟨⟨.updateService s.awsEcsCluster (AwsEcsActionAdapter.serviceOf s action) change,
        .ok []⟩,
      ?_, rfl⟩
    -- The registry hands the action to the ECS adapter, which passes its own checks.
    rw [run_eq_of_accepted haccepted, hmode, if_pos (by simp [hexecutable]),
      AwsEcsActionAdapter.run]
    rw [hcluster, hservice, hdry, hplanned, Bool.or_false, if_neg Bool.false_ne_true]
    dsimp only
    rw [if_neg Bool.false_ne_true, Prog.bind_eq, Prog.trace_bind, Prog.attempt_trace]
    exact List.mem_append_left _ hupdate
  | checkout =>
    obtain ⟨haccepted, hmode, hdry, call, message, hcall⟩ := h
    refine ⟨⟨.checkout call, .ok []⟩, ?_, rfl⟩
    rw [run_eq_of_accepted haccepted, hmode, hdry, if_neg, if_neg Bool.false_ne_true, if_neg,
      TypedActionAdapterRegistry.runLocal, hcall]
    · exact List.mem_cons_self
    · decide
    · simp

end

/-! ## The named workload -/

/-- The target names the workload. An ECS service is named by its own name, the checkout service by
the two names that `_verify_action_recovery` takes for it. -/
def Names (target : String) : Workload → Prop
  | .ecsService _ service => service = target
  | .checkout => target = "checkout-service" ∨ target = "checkout/api"

/-- Whatever the clients answer, only a workload that the target names is changed. -/
def OnlyTarget (cfg : Settings) (s : AdapterSettings) (context : SecurityContext)
    (action : ActionRequest) : Prop :=
  ∀ (σ : Type) (serve : σ → (o : AdapterOp) → AdapterAns o × σ) (st : σ),
    ∀ e ∈ (TypedActionAdapterRegistry.run cfg s context action).trace serve st,
      ∀ w ∈ e.1.changes, Names action.target w

/-- The adapter that carries out the action, if one does, is bound to the target: the ECS adapter
has no service of its own or this one, the checkout client is for the checkout service. -/
structure BoundToTarget (cfg : Settings) (s : AdapterSettings) (context : SecurityContext)
    (action : ActionRequest) : Prop where
  ecs : ByEcs cfg s context action →
    s.awsEcsService.isEmpty = true ∨ s.awsEcsService = action.target
  checkout : ByCheckout cfg s context action →
    action.target = "checkout-service" ∨ action.target = "checkout/api"

theorem serviceOf_eq_target_iff (s : AdapterSettings) (action : ActionRequest) :
    AwsEcsActionAdapter.serviceOf s action = action.target ↔
      s.awsEcsService.isEmpty = true ∨ s.awsEcsService = action.target := by
  rw [AwsEcsActionAdapter.serviceOf]
  split_ifs with hempty <;> simp [hempty]

/-- **The changed workload.** Only the workload that the target names is changed if and only if the
adapter that carries out the action is bound to the target. -/
theorem only_target_iff (cfg : Settings) (s : AdapterSettings) (context : SecurityContext)
    (action : ActionRequest) :
    OnlyTarget cfg s context action ↔ BoundToTarget cfg s context action := by
  constructor
  · intro h
    have hreached (w : Workload) (hw : Reaches cfg s context action w) : Names action.target w := by
      obtain ⟨e, he, hchanges⟩ := run_reaches hw
      exact h Unit obliging () e he w hchanges
    refine ⟨fun hecs ↦ ?_, fun hcheckout ↦ hreached .checkout hcheckout⟩
    exact (serviceOf_eq_target_iff s action).mp (hreached (.ecsService _ _) ⟨hecs, rfl, rfl⟩)
  · -- Nothing else is changed than what is reached, and that is bound to the target.
    intro h σ serve st e he w hw
    have hreaches := run_issues.trace st e he w hw
    cases w with
    | ecsService cluster service =>
      obtain ⟨hecs, -, rfl⟩ := hreaches
      exact (serviceOf_eq_target_iff s action).mpr (h.ecs hecs)
    | checkout => exact h.checkout hreaches

/-! ## A restart of something else -/

/-- A restart of a workload that is not the checkout service. -/
def billingRestart : ActionRequest where
  actionId := "act_1"
  actionType := .restartService
  target := "k8s-billing"
  parameters := [("service", .str "k8s-billing")]
  idempotencyKey := "restart"
  dryRun := false

/-- Adapter settings in which integers are read off no text. -/
def AdapterSettings.demo : AdapterSettings where
  int _ := none
  intField _ := none
  intError _ := ""

theorem byCheckout_billingRestart :
    ByCheckout Settings.demo AdapterSettings.demo (.executor billingRestart) billingRestart where
  accepted := ⟨by decide, by decide, by decide +kernel⟩
  mode := rfl
  notDry := rfl
  call := ⟨.restart, _, rfl⟩

/-- In local mode it restarts the checkout service. -/
theorem billing_restart_changes_checkout :
    ¬ ∀ (cfg : Settings) (s : AdapterSettings) (context : SecurityContext) (action : ActionRequest),
      action.dryRun = false → OnlyTarget cfg s context action := by
  intro h
  have honly := h Settings.demo AdapterSettings.demo (.executor billingRestart) billingRestart rfl
  obtain ⟨e, he, hchanges⟩ := run_reaches (w := .checkout) byCheckout_billingRestart
  rcases honly Unit obliging () e he .checkout hchanges with hname | hname
  · exact absurd hname (by decide)
  · exact absurd hname (by decide)

end IncidentPlatform
