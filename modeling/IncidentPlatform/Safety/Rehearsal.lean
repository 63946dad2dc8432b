import IncidentPlatform.Safety.Verified

/-!
# What a dry run says about the real one

A dry run of an action is to show whether the action can be carried out. The registry decides dry
and real runs by differently ordered tests. In AWS mode the ECS adapter plans the update for both,
and executes what it has planned. Every other dry run ends before the registry asks whether there is
something that carries out the action: it succeeds for every action that the registry accepts.

`dry_run_predicts` separates the two. For an action that is executable in the mode, a dry run that
succeeds is followed by a call that changes a workload, in AWS mode by the update that the dry run
has reported. For every other action the real run is refused, and changes nothing.
-/

namespace IncidentPlatform

open Interaction

/-! ## Dry and real runs -/

/-- The run with `dry_run` on. -/
def dryRunOf (cfg : Settings) (s : AdapterSettings) (context : SecurityContext)
    (action : ActionRequest) : Prog AdapterOp AdapterAns Fault AdapterResult :=
  TypedActionAdapterRegistry.run cfg s context { action with dryRun := true }

/-- The run with `dry_run` and `AWS_ACTION_DRY_RUN` off. -/
def realRunOf (cfg : Settings) (s : AdapterSettings) (context : SecurityContext)
    (action : ActionRequest) : Prog AdapterOp AdapterAns Fault AdapterResult :=
  TypedActionAdapterRegistry.run cfg { s with awsActionDryRun := false } context
    { action with dryRun := false }

/-- The arguments that distinguish an update. -/
def EcsChange.arguments : EcsChange → Dict
  | forceNewDeployment => [("forceNewDeployment", .bool true)]
  | taskDefinition arn => [("taskDefinition", .str arn)]
  | desiredCount n => [("desiredCount", .num n)]

/-- A call as a planned operation reports it. -/
def AdapterOp.reported : AdapterOp → Option Dict
  | .updateService cluster service change =>
    some ([("api", .str "ecs.update_service"), ("cluster", .str cluster),
      ("service", .str service)] ++ change.arguments)
  | .ecsClient | .describeServices _ _ | .checkout _ => none

/-- The result of a run that the registry has nothing for. -/
def Refused (cfg : Settings) (action : ActionRequest) (result : AdapterResult) : Prop :=
  result.success = false ∧
    (result.message = "Unsupported action type ActionType." ++ action.actionType.name ∨
      result.message = "No executable adapter configured for mode " ++ cfg.executionMode ∨
      result.message = "Action " ++ action.actionType.value ++
        " is read-only or unsupported for execution")

/-- The real run does what the dry run with this result has shown. -/
structure Predicts (cfg : Settings) (s : AdapterSettings) (context : SecurityContext)
    (action : ActionRequest) (answers : (o : AdapterOp) → AdapterAns o) (dry : AdapterResult) :
    Prop where
  reaches : ∃ o ∈ (realRunOf cfg s context action).issued answers, o.changes ≠ none
  notRefused : ∀ result, (realRunOf cfg s context action).value answers = .ok result →
    ¬ Refused cfg action result
  planned : cfg.executionMode = "aws" →
    ∀ o ∈ (realRunOf cfg s context action).issued answers, o.changes ≠ none →
      ∃ operation, o.reported = some operation ∧
        Dict.get? dry.details "operation" = some (.dict operation)

/-- The actions that `capabilities` lists as executable. -/
def Executable (cfg : Settings) (action : ActionRequest) : Prop :=
  action.actionType ∈ executableActions ∧
    (cfg.executionMode = "local" ∨ cfg.executionMode = "aws")

/-- In AWS mode there is a client. -/
def HasClient (cfg : Settings) (answers : (o : AdapterOp) → AdapterAns o) : Prop :=
  cfg.executionMode = "aws" → answers .ecsClient = .ok ()

/-- In local mode the count of a scaling is one that `int` reads. -/
def CountReads (cfg : Settings) (s : AdapterSettings) (action : ActionRequest) : Prop :=
  cfg.executionMode = "local" → action.actionType = .scaleWorkload → ∀ requested,
    Dict.get? action.parameters "maxReplicas" = some requested → ∃ n, requested.int s = .ok n

section

variable {cfg : Settings} {s : AdapterSettings} {context : SecurityContext} {action : ActionRequest}
  {answers : (o : AdapterOp) → AdapterAns o} {result : AdapterResult}

/-! ## The checks of the registry -/

theorem accepted_of_success
    (h : (TypedActionAdapterRegistry.run cfg s context action).value answers = .ok result)
    (hsuccess : result.success = true) : Accepted s context action := by
  rw [TypedActionAdapterRegistry.run] at h
  by_cases hsupported : action.actionType ∈ TypedActionAdapterRegistry.supportedActions
  · by_cases haccessible : context.canAccessTarget action.target = true
    · by_cases hvalid : TypedActionAdapterRegistry.invalidFields s action = []
      · exact ⟨hsupported, haccessible, hvalid⟩
      · rw [if_neg (not_not.mpr hsupported), haccessible, Bool.not_true, if_neg Bool.false_ne_true,
          if_pos (by simpa using hvalid)] at h
        cases h
        exact absurd hsuccess Bool.false_ne_true
    · rw [if_neg (not_not.mpr hsupported), if_pos (by simpa using haccessible)] at h
      cases h
      exact absurd hsuccess Bool.false_ne_true
  · rw [if_pos hsupported] at h
    cases h
    exact absurd hsuccess Bool.false_ne_true

/-- The checks do not depend on the flags. -/
theorem accepted_real {dryRun : Bool} (h : Accepted s context { action with dryRun }) :
    Accepted { s with awsActionDryRun := false } context { action with dryRun := false } :=
  ⟨h.supported, h.accessible, h.valid⟩

theorem localCall_eq_none (h : action.actionType ∉ executableActions) :
    TypedActionAdapterRegistry.localCall cfg s action = none := by
  rw [TypedActionAdapterRegistry.localCall]
  cases htype : action.actionType <;> rw [htype] at h <;>
    first
    | rfl
    | exact absurd h (by decide)

/-- What the registry refuses, it refuses in a real run. -/
theorem refused_of_not_executable (haccepted : Accepted s context action)
    (hdry : action.dryRun = false) (h : ¬ Executable cfg action) :
    ∃ result, TypedActionAdapterRegistry.run cfg s context action = pure result ∧
      Refused cfg action result := by
  rw [run_eq_of_accepted haccepted, hdry, if_neg Bool.false_ne_true, if_neg]
  · split_ifs with hmode
    · exact ⟨_, rfl, rfl, Or.inr (Or.inl rfl)⟩
    · -- In local mode it is the type that is not executable.
      have htype : action.actionType ∉ executableActions := fun htype ↦
        h ⟨htype, Or.inl (by simpa using hmode)⟩
      rw [TypedActionAdapterRegistry.runLocal, localCall_eq_none htype]
      exact ⟨_, rfl, rfl, Or.inr (Or.inr rfl)⟩
  · rw [Bool.and_eq_true, beq_iff_eq, decide_eq_true_iff]
    rintro ⟨hmode, htype⟩
    exact h ⟨htype, Or.inr hmode⟩

/-! ## The ECS adapter -/

section

variable {t : Text} {cluster service : String} {change : EcsChange}

/-- The plan and the update are made from the same change. -/
theorem reported_of_change
    (hchange : AwsEcsActionAdapter.change t s action = .ok (some change)) {planned : Dict}
    (hplanned : AwsEcsActionAdapter.plannedOperation t s action cluster service = .ok planned) :
    (AdapterOp.updateService cluster service change).reported = some planned := by
  rw [AwsEcsActionAdapter.plannedOperation, hchange] at hplanned
  cases hplanned
  cases change <;> rfl

theorem change_ne_none (htype : action.actionType ∈ executableActions) :
    AwsEcsActionAdapter.change t s action ≠ .ok none := by
  rw [executableActions, List.mem_cons, List.mem_cons, List.mem_singleton] at htype
  rw [AwsEcsActionAdapter.change]
  rcases htype with htype | htype | htype <;> rw [htype]
  · intro h
    cases h
  · intro h
    dsimp only at h
    rcases hcount : Value.int s ((Dict.get? action.parameters "maxReplicas").getD
      ((Dict.get? action.parameters "replicas").getD (.num 1))) with e | n
    · rw [hcount] at h
      cases h
    · rw [hcount] at h
      cases h
  · intro h
    cases h

/-- For an executable action there is a change. -/
theorem change_of_planned (htype : action.actionType ∈ executableActions) {planned : Dict}
    (hplanned : AwsEcsActionAdapter.plannedOperation t s action cluster service = .ok planned) :
    ∃ change, AwsEcsActionAdapter.change t s action = .ok (some change) := by
  rcases hchange : AwsEcsActionAdapter.change t s action with e | _ | change
  · rw [AwsEcsActionAdapter.plannedOperation, hchange] at hplanned
    cases hplanned
  · exact absurd hchange (change_ne_none htype)
  · exact ⟨change, rfl⟩

/-- What a dry run of the adapter shows. -/
theorem planned_of_dry (hdry : action.dryRun = true)
    (h : (AwsEcsActionAdapter.run t s action).value answers = .ok result)
    (hsuccess : result.success = true) :
    s.awsEcsCluster.isEmpty = false ∧ (AwsEcsActionAdapter.serviceOf s action).isEmpty = false ∧
      ∃ planned, AwsEcsActionAdapter.plannedOperation t s action s.awsEcsCluster
          (AwsEcsActionAdapter.serviceOf s action) = .ok planned ∧
        Dict.get? result.details "operation" = some (.dict planned) := by
  rw [AwsEcsActionAdapter.run] at h
  by_cases hmissing : (s.awsEcsCluster.isEmpty ||
      (AwsEcsActionAdapter.serviceOf s action).isEmpty) = true
  · rw [if_pos hmissing] at h
    cases h
    exact absurd hsuccess Bool.false_ne_true
  · rw [if_neg hmissing] at h
    rw [Bool.not_eq_true, Bool.or_eq_false_iff] at hmissing
    refine ⟨hmissing.1, hmissing.2, ?_⟩
    rcases hplanned : AwsEcsActionAdapter.plannedOperation t s action s.awsEcsCluster
      (AwsEcsActionAdapter.serviceOf s action) with e | planned
    · rw [hplanned] at h
      cases h
    · rw [hplanned, hdry, Bool.true_or] at h
      cases h
      exact ⟨planned, rfl, rfl⟩

theorem updateResult_message (action : ActionRequest) (planned : Dict)
    (outcome : Except PyException (Dict × Bool × Dict)) :
    ∃ text, (AwsEcsActionAdapter.updateResult action planned outcome).message =
      "AWS ECS " ++ text := by
  rcases outcome with e | ⟨response, verified, details⟩
  · refine ⟨"action failed: " ++ (classifyAwsError e).reason, ?_⟩
    rw [← String.append_assoc]
    rfl
  · exact ⟨action.actionType.value ++
      if verified then " verified" else " completed but not verified", String.append_assoc ..⟩

/-- An update ends in a result of the adapter. -/
theorem not_refused_of_makes (h : Makes t s action answers change)
    (hvalue : (AwsEcsActionAdapter.run t s action).value answers = .ok result) :
    ¬ Refused cfg action result := by
  obtain ⟨planned, hrun⟩ := run_of_makes h
  rw [hrun, Prog.bind_eq, Prog.value_bind, Prog.value_attempt] at hvalue
  cases hvalue
  obtain ⟨text, htext⟩ := updateResult_message action planned
    ((AwsEcsActionAdapter.update t s action s.awsEcsCluster
      (AwsEcsActionAdapter.serviceOf s action)).value answers)
  rintro ⟨-, hmessage⟩
  rw [htext] at hmessage
  rcases hmessage with hmessage | hmessage | hmessage
  · have := congrArg String.toList hmessage
    simp [String.toList_append] at this
  · have := congrArg String.toList hmessage
    simp [String.toList_append] at this
  · have := congrArg String.toList hmessage
    simp [String.toList_append] at this

/-- A rehearsed update is made as it was shown. -/
theorem predicts_of_aws (hmode : cfg.executionMode = "aws")
    (htype : action.actionType ∈ executableActions) (hclient : answers .ecsClient = .ok ())
    {dry : AdapterResult} (hdry : (dryRunOf cfg s context action).value answers = .ok dry)
    (hsuccess : dry.success = true) : Predicts cfg s context action answers dry := by
  have haccepted := accepted_of_success hdry hsuccess
  rw [dryRunOf, run_eq_of_accepted haccepted, hmode, if_pos (by simp [htype])] at hdry
  obtain ⟨hcluster, hservice, planned, hplanned, hshown⟩ := planned_of_dry rfl hdry hsuccess
  obtain ⟨change, hchange⟩ := change_of_planned htype hplanned
  have hreal : realRunOf cfg s context action = AwsEcsActionAdapter.run cfg.text
      { s with awsActionDryRun := false } { action with dryRun := false } := by
    rw [realRunOf, run_eq_of_accepted (accepted_real haccepted), hmode, if_pos (by simp [htype])]
  have hmakes : Makes cfg.text { s with awsActionDryRun := false } { action with dryRun := false }
      answers change := ⟨hcluster, hservice, rfl, hclient, hchange⟩
  refine ⟨⟨_, hreal ▸ issued_of_makes hmakes, by simp [AdapterOp.changes]⟩, ?_, ?_⟩
  · intro result hresult
    rw [hreal] at hresult
    exact (not_refused_of_makes hmakes hresult :
      ¬ Refused cfg { action with dryRun := false } result)
  · intro _ o ho hchanges
    rw [hreal] at ho
    cases o with
    | ecsClient => exact absurd rfl hchanges
    | describeServices cluster service => exact absurd rfl hchanges
    | updateService cluster service change' =>
      obtain ⟨rfl, rfl, hmade⟩ := makes_of_issued ho
      exact ⟨planned, reported_of_change hmade.changes hplanned, hshown⟩
    | checkout call =>
      -- The ECS adapter does not call the checkout service.
      have hreaches := (ecsRun_issues (accepted_real haccepted) hmode).issued _ ho .checkout rfl
      exact absurd (hmode.symm.trans hreaches.mode) (by decide)

end

/-! ## The checkout client -/

/-- A valid scaling has a count, and `int` reads it. -/
theorem localCall_of_reads (haccepted : Accepted s context action)
    (htype : action.actionType ∈ executableActions) (hreads : CountReads cfg s action)
    (hmode : cfg.executionMode = "local") :
    ∃ call message,
      TypedActionAdapterRegistry.localCall cfg s action = some (.ok call, message) := by
  rw [executableActions, List.mem_cons, List.mem_cons, List.mem_singleton] at htype
  rcases htype with htype | htype | htype
  · rw [TypedActionAdapterRegistry.localCall, htype]
    exact ⟨_, _, rfl⟩
  · obtain ⟨-, requested, hrequested⟩ := requested_of_valid haccepted.valid htype
    obtain ⟨n, hn⟩ := hreads hmode htype requested hrequested
    rw [TypedActionAdapterRegistry.localCall, htype, hrequested, Option.getD_some]
    dsimp only
    rw [hn]
    exact ⟨_, _, rfl⟩
  · rw [TypedActionAdapterRegistry.localCall, htype]
    exact ⟨_, _, rfl⟩

/-- A rehearsed call of the checkout client is made. -/
theorem predicts_of_local (hmode : cfg.executionMode = "local")
    (htype : action.actionType ∈ executableActions) (hreads : CountReads cfg s action)
    {dry : AdapterResult} (hdry : (dryRunOf cfg s context action).value answers = .ok dry)
    (hsuccess : dry.success = true) : Predicts cfg s context action answers dry := by
  have haccepted := accepted_real (accepted_of_success hdry hsuccess)
  obtain ⟨call, message, hcall⟩ := localCall_of_reads haccepted htype hreads hmode
  have hreal : realRunOf cfg s context action = TypedActionAdapterRegistry.runLocal cfg
      { s with awsActionDryRun := false } { action with dryRun := false } := by
    rw [realRunOf, run_eq_of_accepted haccepted, hmode, if_neg (by simp), if_neg (by simp),
      if_neg (by simp)]
  rw [TypedActionAdapterRegistry.runLocal, hcall] at hreal
  dsimp only at hreal
  refine ⟨⟨.checkout call, ?_, by simp [AdapterOp.changes]⟩, ?_, ?_⟩
  · rw [hreal]
    exact List.mem_cons_self
  · rintro result hresult ⟨hfailed, -⟩
    rw [hreal, Prog.bind_eq, Prog.value_op_bind, Prog.bind_eq, Prog.value_bind, bind_eq_ok_iff]
      at hresult
    obtain ⟨workload, -, hresult⟩ := hresult
    cases hresult
    exact Bool.false_ne_true hfailed.symm
  · intro haws
    exact absurd (hmode.symm.trans haws) (by decide)

end

/-! ## The rehearsal -/

/-- **Rehearsal.** A successful dry run of an action that the mode executes is followed by the
change of a workload, in AWS mode by the reported update. Any other action is refused, and changes
nothing. -/
theorem dry_run_predicts (cfg : Settings) (s : AdapterSettings) (context : SecurityContext)
    (action : ActionRequest) (answers : (o : AdapterOp) → AdapterAns o) (dry : AdapterResult)
    (hdry : (dryRunOf cfg s context action).value answers = .ok dry)
    (hsuccess : dry.success = true) :
    (Executable cfg action → HasClient cfg answers → CountReads cfg s action →
      Predicts cfg s context action answers dry) ∧
    (¬ Executable cfg action → (realRunOf cfg s context action).issued answers = [] ∧
      ∃ result, (realRunOf cfg s context action).value answers = .ok result ∧
        Refused cfg action result) := by
  constructor
  · rintro ⟨htype, hmode | hmode⟩ hclient hreads
    · exact predicts_of_local hmode htype hreads hdry hsuccess
    · exact predicts_of_aws hmode htype (hclient hmode) hdry hsuccess
  · intro hnot
    obtain ⟨result, hrun, hrefused⟩ := refused_of_not_executable
      (accepted_real (accepted_of_success hdry hsuccess)) rfl hnot
    rw [realRunOf, hrun]
    exact ⟨rfl, result, rfl, hrefused⟩

def nodeDrain : ActionRequest where
  actionId := "act_1"
  actionType := .drainNode
  target := "k8s-node-1"
  idempotencyKey := "drain"

/-- What the dry run of a rollback on ECS reports. -/
def rollbackRehearsal : AdapterResult where
  success := true
  message := "AWS dry-run planned for RollbackDeployment"
  details :=
    [("provider", .str "aws-ecs"), ("dry_run", .bool true),
      ("operation", .dict
        [("api", .str "ecs.update_service"), ("cluster", .str "checkout-cluster"),
          ("service", .str "checkout-service"), ("taskDefinition", .str "checkout:41")]),
      ("verification", .str "describe_services after update"),
      ("retry_classification", .str "not_applicable")]

theorem revisionRollback_dry :
    (dryRunOf Settings.aws AdapterSettings.ecs (.executor revisionRollback)
      revisionRollback).value (healthyOn "checkout:41") = .ok rollbackRehearsal := by
  rw [dryRunOf, run_eq_of_accepted ⟨by decide, by decide +kernel, by decide +kernel⟩,
    if_pos (by decide)]
  rfl

/-- The rollback is then made as reported. -/
theorem dry_run_predicts_rollback :
    Predicts Settings.aws AdapterSettings.ecs (.executor revisionRollback) revisionRollback
      (healthyOn "checkout:41") rollbackRehearsal :=
  (dry_run_predicts Settings.aws AdapterSettings.ecs (.executor revisionRollback)
    revisionRollback (healthyOn "checkout:41") _ revisionRollback_dry rfl).1
    ⟨by decide, Or.inr rfl⟩ (fun _ ↦ rfl) (fun hmode ↦ absurd hmode (by decide))

/-- In local mode nothing drains a node, but a dry run of it succeeds. -/
theorem dry_run_without_executor :
    ¬ ∀ (cfg : Settings) (s : AdapterSettings) (context : SecurityContext) (action : ActionRequest)
      (answers : (o : AdapterOp) → AdapterAns o) (dry : AdapterResult), HasClient cfg answers →
      (dryRunOf cfg s context action).value answers = .ok dry → dry.success = true →
      Predicts cfg s context action answers dry := by
  intro h
  have haccepted : Accepted AdapterSettings.ecs (.executor nodeDrain)
      { nodeDrain with dryRun := true } := ⟨by decide, by decide +kernel, by decide⟩
  have hdry : (dryRunOf Settings.demo AdapterSettings.ecs (.executor nodeDrain) nodeDrain).value
      (healthyOn "checkout:41") = .ok
        { success := true
          message := "Dry-run completed for DrainNode"
          details := [("dry_run", .bool true)] } := by
    rw [dryRunOf, run_eq_of_accepted haccepted, if_neg (by decide), if_pos rfl]
    rfl
  have hnot : ¬ Executable Settings.demo { nodeDrain with dryRun := false } := fun hexecutable ↦
    absurd hexecutable.1 (by decide)
  obtain ⟨result, hrun, hrefused⟩ := refused_of_not_executable (accepted_real haccepted) rfl hnot
  refine (h _ _ _ _ _ _ (fun _ ↦ rfl) hdry rfl).notRefused result ?_ hrefused
  rw [realRunOf, hrun]
  rfl

end IncidentPlatform
