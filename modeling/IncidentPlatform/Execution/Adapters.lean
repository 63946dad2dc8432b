import IncidentPlatform.Domain.Access
import IncidentPlatform.Domain.Settings
import IncidentPlatform.Interaction.Translate
import Mathlib.Data.List.Sort

/-!
# The action adapters

`src/adapters/actions/typed_adapters.py`, `src/adapters/aws` and `src/adapters/local`: what one
attempt at an action does. `TypedActionAdapterRegistry.run` checks the action and hands it to an
adapter. In AWS mode this is `AwsEcsActionAdapter`, which updates an ECS service, in local mode the
client of the checkout service.

An attempt is a program over `AdapterOp`, the calls of the ECS client and of the checkout client.
boto3 raises, and the adapter turns what it raises into a result; an exception of the checkout
client leaves the registry, and so does the `TimeoutError` of the executor's `wait_for`, which ends
an attempt while it waits for the checkout service.
-/

namespace IncidentPlatform

open Interaction

/-! ## Settings and values -/

/-- The part of `AppSettings` that only the adapters read, and how the runtime reads integers. -/
structure AdapterSettings where
  awsEcsCluster : String := ""
  awsEcsService : String := ""
  awsActionDryRun : Bool := true
  /-- `AppSettings.execute_action_dry_run`, which no adapter acts on. -/
  executeActionDryRun : Bool := true
  /-- `int(s)`, `none` for the `ValueError`. -/
  int : String → Option ℤ
  /-- An `int` field of a pydantic model on a string, `none` for the `ValidationError`. -/
  intField : String → Option ℤ
  /-- The text of the exception that `int(v)` raises. -/
  intError : Value → String

/-- `int(v)`. -/
def Value.int (s : AdapterSettings) : Value → Except PyException ℤ := Value.toInt s.int s.intError

/-- An `int` field of a pydantic model. -/
def Value.intField (s : AdapterSettings) : Value → Option ℤ
  | .num q => if q.den = 1 then some q.num else none
  | .bool b => some (if b then 1 else 0)
  | .str x => s.intField x
  | _ => none

/-- The name of the member, which is what `f"{action_type}"` shows after `ActionType.`. -/
def ActionType.name : ActionType → String
  | queryMetrics => "QUERY_METRICS"
  | queryLogs => "QUERY_LOGS"
  | getRecentDeployments => "GET_RECENT_DEPLOYMENTS"
  | getTopology => "GET_TOPOLOGY"
  | restartService => "RESTART_SERVICE"
  | scaleWorkload => "SCALE_WORKLOAD"
  | rollbackDeployment => "ROLLBACK_DEPLOYMENT"
  | drainNode => "DRAIN_NODE"
  | openTicket => "OPEN_TICKET"
  | pageHuman => "PAGE_HUMAN"
  | runAnsibleJob => "RUN_ANSIBLE_JOB"
  | runShell => "RUN_SHELL"

/-- `SecurityContext`. -/
structure SecurityContext where
  agentIdentity : String
  toolIdentity : String
  allowedTargets : List String
  deriving Repr, Inhabited

/-- `can_access_target`. -/
def SecurityContext.canAccessTarget (context : SecurityContext) (target : String) : Bool :=
  target ∈ context.allowedTargets || context.allowedTargets.any (fnmatch target)

/-- The context that `ActionExecutor.execute` builds. -/
def SecurityContext.executor (action : ActionRequest) : SecurityContext where
  agentIdentity := "execution-agent"
  toolIdentity := "adapter:" ++ action.actionType.value
  allowedTargets := [action.target, "k8s-*", "arc-*"]

/-! ## The calls of the clients -/

/-- What `update_service` changes. -/
inductive EcsChange where
  | forceNewDeployment
  | taskDefinition (arn : String)
  | desiredCount (n : ℤ)
  deriving DecidableEq, Repr

/-- The calls of `CheckoutServiceClient` that an adapter makes. -/
inductive CheckoutCall where
  | rollback (toRevision : String)
  | restart
  | scale (replicas : ℤ)
  deriving DecidableEq, Repr

inductive AdapterOp where
  /-- `AwsClientFactory.client("ecs")`, the first time. -/
  | ecsClient
  | updateService (cluster service : String) (change : EcsChange)
  | describeServices (cluster service : String)
  | checkout (call : CheckoutCall)
  deriving DecidableEq, Repr

abbrev AdapterAns : AdapterOp → Type
  | .ecsClient => Except PyException Unit
  | .updateService _ _ _ => Except PyException Dict
  | .describeServices _ _ => Except PyException Dict
  | .checkout _ => Except Fault Dict

/-- A running workload. -/
inductive Workload where
  | ecsService (cluster service : String)
  /-- The one behind `CHECKOUT_SERVICE_URL`. -/
  | checkout
  deriving DecidableEq, Repr

/-- The workload that a call changes. -/
def AdapterOp.changes : AdapterOp → Option Workload
  | .updateService cluster service _ => some (.ecsService cluster service)
  | .checkout _ => some .checkout
  | .ecsClient | .describeServices _ _ => none

/-! ## The ECS adapter -/

/-- The actions that have an adapter. -/
def executableActions : List ActionType := [.restartService, .scaleWorkload, .rollbackDeployment]

structure AwsRetryClassification where
  retryable : Bool
  reason : String
  deriving Repr, DecidableEq

def retryableCodes : List String :=
  ["ThrottlingException", "Throttling", "TooManyRequestsException", "RequestTimeout",
    "RequestTimeoutException", "ServiceUnavailableException", "InternalException",
    "InternalServerError"]

/-- `classify_aws_error`. The terminal codes are listed in the source, and treated as every other
code. -/
def classifyAwsError (e : PyException) : AwsRetryClassification :=
  let code := e.code.getD e.className
  if code ∈ retryableCodes then ⟨true, code⟩ else ⟨false, code⟩

namespace AwsEcsActionAdapter

variable (t : Text) (s : AdapterSettings)

/-- The change that an action asks for, `none` if the adapter has none for it. -/
def change (action : ActionRequest) : Except PyException (Option EcsChange) :=
  match action.actionType with
  | .restartService => .ok (some .forceNewDeployment)
  | .rollbackDeployment =>
    let revision := (Dict.get? action.parameters "to_revision").getD
      ((Dict.get? action.parameters "taskDefinition").getD (.str ""))
    .ok (some (.taskDefinition (revision.toStr t)))
  | .scaleWorkload =>
    let replicas := (Dict.get? action.parameters "maxReplicas").getD
      ((Dict.get? action.parameters "replicas").getD (.num 1))
    (replicas.int s).map fun desired ↦ some (.desiredCount desired)
  | _ => .ok none

/-- `_planned_operation`. -/
def plannedOperation (action : ActionRequest) (cluster service : String) :
    Except PyException Dict :=
  (change t s action).map fun change? ↦
    let api := if change?.isSome then "ecs.update_service" else "unsupported"
    [("api", .str api), ("cluster", .str cluster), ("service", .str service)] ++
      match change? with
      | some .forceNewDeployment => [("forceNewDeployment", .bool true)]
      | some (.taskDefinition arn) => [("taskDefinition", .str arn)]
      | some (.desiredCount n) => [("desiredCount", .num n)]
      | none => []

/-- `_execute`. -/
def execute (action : ActionRequest) (cluster service : String) :
    Prog AdapterOp AdapterAns PyException Dict := do
  Prog.ofExcept (← Prog.op .ecsClient)
  match ← Prog.ofExcept (change t s action) with
  | some change => Prog.ofExcept (← Prog.op (.updateService cluster service change))
  | none =>
    .raise
      { className := "ValueError"
        text := "Unsupported AWS ECS action " ++ action.actionType.value }

/-- The state of the rollout that `verify` finds in a service, `""` if it has no deployment. -/
def rolloutStateOf (service : Value) : Except PyException String := do
  let deployments ← service.getOr "deployments" (.list [])
  if deployments.truthy then do
    let deployment ← deployments.first
    let state ← deployment.getOr "rolloutState" (.str "")
    pure (state.toStr t)
  else pure ""

/-- A count of a service, `0` if it is missing. -/
def countOf (service : Value) (key : String) : Except PyException ℤ := do
  let count ← service.getOr key (.num 0)
  count.int s

/-- The first service of a response of `describe_services`, an empty one if there is none. -/
def describedService (response : Dict) : Except PyException Value :=
  let services := (Dict.get? response "services").getD (.list [])
  if services.truthy then services.first else pure (.dict [])

/-- What `verify` makes of the response of `describe_services`. -/
def verifyService (action : ActionRequest) (response : Dict) :
    Except PyException (Bool × Dict) := do
  let service ← describedService response
  let rolloutState ← rolloutStateOf t service
  let desired ← countOf s service "desiredCount"
  let running ← countOf s service "runningCount"
  let ok ←
    if action.actionType = .scaleWorkload then do
      let expected ← ((Dict.get? action.parameters "maxReplicas").getD
        ((Dict.get? action.parameters "replicas").getD (.num desired))).int s
      pure (desired == expected)
    else pure (decide (1 ≤ running) && (rolloutState == "COMPLETED" || rolloutState == ""))
  pure (ok,
    [("provider", .str "aws-ecs"), ("cluster", .str s.awsEcsCluster),
      ("service", .str s.awsEcsService), ("desired_count", .num desired),
      ("running_count", .num running), ("rollout_state", .str rolloutState)])

/-- `verify`, on a client that is there already. -/
def verify (action : ActionRequest) : Prog AdapterOp AdapterAns PyException (Bool × Dict) :=
  if s.awsEcsCluster.isEmpty || s.awsEcsService.isEmpty then
    pure (false, [("status", .str "not_configured")])
  else do
    let response ← Prog.ofExcept (← Prog.op (.describeServices s.awsEcsCluster s.awsEcsService))
    Prog.ofExcept (verifyService t s action response)

/-- The update and its verification. -/
def update (action : ActionRequest) (cluster service : String) :
    Prog AdapterOp AdapterAns PyException (Dict × Bool × Dict) := do
  let response ← execute t s action cluster service
  let verification ← verify t s action
  pure (response, verification)

/-- The result of an update that ended with `outcome`. -/
def updateResult (action : ActionRequest) (planned : Dict) :
    Except PyException (Dict × Bool × Dict) → AdapterResult
  | .ok (response, verified, verification) =>
    { success := verified
      message := "AWS ECS " ++ action.actionType.value ++
        if verified then " verified" else " completed but not verified"
      details :=
        [("provider", .str "aws-ecs"), ("dry_run", .bool false), ("operation", .dict planned),
          ("response", .dict response), ("verification", .dict verification)] }
  | .error e =>
    let classification := classifyAwsError e
    { success := false
      message := "AWS ECS action failed: " ++ classification.reason
      details :=
        [("provider", .str "aws-ecs"), ("dry_run", .bool false), ("operation", .dict planned),
          ("error", .str e.text), ("retryable", .bool classification.retryable),
          ("retry_classification", .str classification.reason)] }

/-- `settings.aws_ecs_service or action.target`. -/
def serviceOf (action : ActionRequest) : String :=
  if s.awsEcsService.isEmpty then action.target else s.awsEcsService

/-- `run`. The plan is made outside the `try`, so what it raises leaves the adapter. -/
def run (action : ActionRequest) : Prog AdapterOp AdapterAns Fault AdapterResult :=
  let cluster := s.awsEcsCluster
  let service := serviceOf s action
  if cluster.isEmpty || service.isEmpty then
    pure
      { success := false
        message := "AWS ECS adapter is not configured"
        details := [("missing", .list [.str "AWS_ECS_CLUSTER"])] }
  else
    match plannedOperation t s action cluster service with
    | .error _ => .raise .other
    | .ok planned =>
      if action.dryRun || s.awsActionDryRun then
        pure
          { success := true
            message := "AWS dry-run planned for " ++ action.actionType.value
            details :=
              [("provider", .str "aws-ecs"), ("dry_run", .bool true), ("operation", .dict planned),
                ("verification", .str "describe_services after update"),
                ("retry_classification", .str "not_applicable")] }
      else do
        let outcome ← (update t s action cluster service).attempt
        pure (updateResult action planned outcome)

end AwsEcsActionAdapter

/-! ## The registry -/

namespace TypedActionAdapterRegistry

/-- `supported_actions`. -/
def supportedActions : List ActionType := ActionType.all.filter (· ≠ .runShell)

/-- A field of a pydantic model. -/
inductive ParamField where
  /-- `str = Field(min_length=1)`. -/
  | text (name : String)
  /-- `int = Field(ge=1, le=20)`. -/
  | replicas (name : String)

def ParamField.name : ParamField → String
  | text name | replicas name => name

/-- The field is there and valid. -/
def ParamField.valid (s : AdapterSettings) (parameters : Dict) : ParamField → Bool
  | text name =>
    match Dict.get? parameters name with
    | some (.str x) => !x.isEmpty
    | _ => false
  | replicas name =>
    ((Dict.get? parameters name).bind (Value.intField s)).any fun n ↦
      decide (1 ≤ n) && decide (n ≤ 20)

/-- `RestartServiceParams`, `ScaleWorkloadParams`, `RollbackDeploymentParams`. -/
def paramFields : ActionType → List ParamField
  | .restartService => [.text "service"]
  | .scaleWorkload => [.text "service", .replicas "maxReplicas"]
  | .rollbackDeployment => [.text "deployment", .text "to_revision"]
  | _ => []

/-- The fields that `_validate_parameters` complains about. -/
def invalidFields (s : AdapterSettings) (action : ActionRequest) : List String :=
  ((paramFields action.actionType).filter fun field ↦ !field.valid s action.parameters).map
    ParamField.name

variable (cfg : Settings) (s : AdapterSettings)

/-- The values of some actions, sorted. -/
def sortedValues (actions : List ActionType) : Value :=
  .list (((actions.map ActionType.value).insertionSort (· ≤ ·)).map .str)

def capabilities : Dict :=
  [("mode", .str cfg.executionMode), ("dry_run_default", .bool s.executeActionDryRun),
    ("supported_actions", sortedValues supportedActions),
    ("executable_actions", sortedValues
      (if cfg.executionMode == "local" || cfg.executionMode == "aws" then executableActions
        else []))]

/-- The call of the checkout client for an action and the message of its success, `none` if there is
no call. -/
def localCall (action : ActionRequest) : Option (Except PyException CheckoutCall × String) :=
  match action.actionType with
  | .rollbackDeployment =>
    let revision := (Dict.get? action.parameters "to_revision").getD (.str "checkout-r42")
    some (.ok (.rollback (revision.toStr cfg.text)), "Rolled back checkout deployment")
  | .restartService => some (.ok .restart, "Restarted checkout service")
  | .scaleWorkload =>
    let replicas := (Dict.get? action.parameters "maxReplicas").getD
      ((Dict.get? action.parameters "replicas").getD (.num 3))
    some ((replicas.int s).map .scale, "Scaled checkout service")
  | _ => none

/-- The end of `run`, for an action that is no dry run. -/
def runLocal (action : ActionRequest) : Prog AdapterOp AdapterAns Fault AdapterResult :=
  match localCall cfg s action with
  | some (.ok call, message) => do
    let result ← Prog.ofExcept (← Prog.op (.checkout call))
    pure
      { success := true
        message
        details := [("dry_run", .bool false), ("workload", .dict result)] }
  | some (.error _, _) => .raise .other
  | none =>
    pure
      { success := false
        message := "Action " ++ action.actionType.value ++
          " is read-only or unsupported for execution"
        details := [("dry_run", .bool false), ("capabilities", .dict (capabilities cfg s))] }

/-- `run`. -/
def run (context : SecurityContext) (action : ActionRequest) :
    Prog AdapterOp AdapterAns Fault AdapterResult :=
  if action.actionType ∉ supportedActions then
    pure
      { success := false
        message := "Unsupported action type ActionType." ++ action.actionType.name }
  else if !context.canAccessTarget action.target then
    pure { success := false, message := "Target " ++ action.target ++ " is not allowlisted" }
  else if !(invalidFields s action).isEmpty then
    pure
      { success := false
        message := "Action parameters failed validation"
        details := [("errors", .list ((invalidFields s action).map fun field ↦
          .dict [("loc", .list [.str field])]))] }
  else if cfg.executionMode == "aws" && action.actionType ∈ executableActions then
    AwsEcsActionAdapter.run cfg.text s action
  else if action.dryRun then
    pure
      { success := true
        message := "Dry-run completed for " ++ action.actionType.value
        details := [("dry_run", .bool true)] }
  else if cfg.executionMode != "local" then
    pure
      { success := false
        message := "No executable adapter configured for mode " ++ cfg.executionMode
        details := [("dry_run", .bool false), ("capabilities", .dict (capabilities cfg s))] }
  else runLocal cfg s action

end TypedActionAdapterRegistry

end IncidentPlatform
