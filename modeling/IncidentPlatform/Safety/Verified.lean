import IncidentPlatform.Interaction.Given
import IncidentPlatform.Safety.Retries

/-!
# What a verified update has achieved

After an update the ECS adapter describes the service and reports success if it likes what it sees.
For a scaling it compares the desired count with the requested one. For a rollback it looks at the
rollout and at the running tasks alone, so a service that has stayed, or fallen back, on another
task definition verifies a rollback as well. And without `AWS_ECS_SERVICE` the update goes to the
service that the target names, but nothing is described and no update is verified, as little as a
rollback of a service whose desired count is no number.

`verified_iff` says that this is all that is wrong: whatever the clients answer, a verified update
has achieved what the action asks for, and conversely, exactly if none of it is the case.
-/

namespace IncidentPlatform

open Interaction

/-! ## The requested state -/

/-- The first service of a response of `describe_services`. -/
def shownService (response : Dict) : Option Dict :=
  match Dict.get? response "services" with
  | some (.list (.dict service :: _)) => some service
  | _ => none

/-- The first deployment of a service. -/
def primaryDeployment (service : Dict) : Option Dict :=
  match Dict.get? service "deployments" with
  | some (.list (.dict deployment :: _)) => some deployment
  | _ => none

/-- The service is as the action asks for: on the revision of a rollback, at the count of a
scaling. -/
def ShowsRequested (s : AdapterSettings) (action : ActionRequest) (service : Dict) : Prop :=
  match action.actionType with
  | .rollbackDeployment => ∃ revision deployment,
      Dict.get? action.parameters "to_revision" = some (.str revision) ∧
        primaryDeployment service = some deployment ∧
        Dict.get? deployment "taskDefinition" = some (.str revision)
  | .scaleWorkload => ∃ requested shown n,
      Dict.get? action.parameters "maxReplicas" = some requested ∧ requested.int s = .ok n ∧
        Dict.get? service "desiredCount" = some shown ∧ shown.int s = .ok n
  | _ => True

/-- A completed rollout and a running task. -/
structure RolledOut (s : AdapterSettings) (service : Dict) : Prop where
  rollout : ∃ deployment, primaryDeployment service = some deployment ∧
    Dict.get? deployment "rolloutState" = some (.str "COMPLETED")
  running : ∃ count n, Dict.get? service "runningCount" = some count ∧ count.int s = .ok n ∧ 1 ≤ n

/-! ## The verification -/

/-- What `verify` reads off a response. -/
structure Reads (t : Text) (s : AdapterSettings) (response : Dict) (service : Value)
    (rolloutState : String) (desired running : ℤ) : Prop where
  described : AwsEcsActionAdapter.describedService response = .ok service
  rollout : AwsEcsActionAdapter.rolloutStateOf t service = .ok rolloutState
  desiredCount : AwsEcsActionAdapter.countOf s service "desiredCount" = .ok desired
  runningCount : AwsEcsActionAdapter.countOf s service "runningCount" = .ok running

/-- The check that `verify` makes of every action but a scaling. -/
def LooksHealthy (t : Text) (s : AdapterSettings) (response : Dict) : Prop :=
  ∃ service rolloutState desired running, Reads t s response service rolloutState desired running ∧
    1 ≤ running ∧ (rolloutState = "COMPLETED" ∨ rolloutState = "")

/-- The verification succeeds. -/
def Verifies (t : Text) (s : AdapterSettings) (action : ActionRequest) (response : Dict) : Prop :=
  ∃ details, AwsEcsActionAdapter.verifyService t s action response = .ok (true, details)

section

variable {t : Text} {s : AdapterSettings} {action : ActionRequest} {response : Dict}

/-- The count that `verify` expects of a scaling. -/
theorem verifies_scale_iff (htype : action.actionType = .scaleWorkload) {requested : Value}
    (hrequested : Dict.get? action.parameters "maxReplicas" = some requested) :
    Verifies t s action response ↔ ∃ service rolloutState desired running,
      Reads t s response service rolloutState desired running ∧ requested.int s = .ok desired := by
  rw [Verifies, AwsEcsActionAdapter.verifyService]
  simp only [bind_eq_ok_iff, if_pos htype, hrequested, Option.getD_some]
  constructor
  · rintro ⟨details, service, hservice, rolloutState, hrollout, desired, hdesired, running,
      hrunning, expected, hexpected, ok, hok, hdetails⟩
    have hequal : (desired == expected) = true := by
      cases hok
      exact (Prod.mk.inj (Except.ok.inj hdetails)).1
    rw [beq_iff_eq] at hequal
    exact ⟨service, rolloutState, desired, running, ⟨hservice, hrollout, hdesired, hrunning⟩,
      hequal ▸ hexpected⟩
  · rintro ⟨service, rolloutState, desired, running, hreads, hexpected⟩
    refine ⟨_, service, hreads.described, rolloutState, hreads.rollout, desired,
      hreads.desiredCount, running, hreads.runningCount, desired, hexpected, true, ?_, rfl⟩
    rw [BEq.rfl]
    rfl

theorem verifies_iff_of_ne_scale (htype : action.actionType ≠ .scaleWorkload) :
    Verifies t s action response ↔ LooksHealthy t s response := by
  rw [Verifies, LooksHealthy, AwsEcsActionAdapter.verifyService]
  simp only [bind_eq_ok_iff, if_neg htype]
  constructor
  · rintro ⟨details, service, hservice, rolloutState, hrollout, desired, hdesired, running,
      hrunning, ok, hok, hdetails⟩
    have hhealthy : (decide (1 ≤ running) &&
        (rolloutState == "COMPLETED" || rolloutState == "")) = true := by
      cases hok
      exact (Prod.mk.inj (Except.ok.inj hdetails)).1
    refine ⟨service, rolloutState, desired, running, ⟨hservice, hrollout, hdesired, hrunning⟩, ?_⟩
    simpa using hhealthy
  · rintro ⟨service, rolloutState, desired, running, hreads, hhealthy⟩
    refine ⟨_, service, hreads.described, rolloutState, hreads.rollout, desired,
      hreads.desiredCount, running, hreads.runningCount, true, ?_, rfl⟩
    have hok : (decide (1 ≤ running) &&
        (rolloutState == "COMPLETED" || rolloutState == "")) = true := by
      simpa using hhealthy
    rw [hok]
    rfl

/-- A count that is not zero was shown. -/
theorem shown_of_count {service : Value} {key : String} {n : ℤ}
    (hservice : AwsEcsActionAdapter.describedService response = .ok service)
    (hcount : AwsEcsActionAdapter.countOf s service key = .ok n) (hn : n ≠ 0) :
    ∃ kvs shown, shownService response = some kvs ∧ Dict.get? kvs key = some shown ∧
      shown.int s = .ok n := by
  rw [AwsEcsActionAdapter.countOf, bind_eq_ok_iff] at hcount
  obtain ⟨count, hget, hint⟩ := hcount
  cases service with
  | dict kvs =>
    rw [Value.getOr_dict] at hget
    cases hget
    rcases hshown : Dict.get? kvs key with _ | shown
    · rw [hshown] at hint
      exact absurd (Except.ok.inj hint).symm hn
    · rw [hshown] at hint
      refine ⟨kvs, shown, ?_, hshown, hint⟩
      -- A service that is not empty is the first of the list.
      rw [AwsEcsActionAdapter.describedService] at hservice
      split_ifs at hservice
      · rw [shownService]
        rcases hservices : Dict.get? response "services" with _ | services
        · rw [hservices] at hservice
          cases hservice
        · rw [hservices, Option.getD_some] at hservice
          obtain ⟨vs, rfl⟩ := Value.first_eq_dict_iff.mp hservice
          rfl
      · cases hservice
        cases hshown
  | _ => cases hget

/-- The service that is shown is the one that is described. -/
theorem described_of_shown {service : Dict} (hshown : shownService response = some service) :
    AwsEcsActionAdapter.describedService response = .ok (.dict service) := by
  rw [shownService] at hshown
  split at hshown
  · rename_i shown vs hservices
    cases hshown
    rw [AwsEcsActionAdapter.describedService, hservices]
    rfl
  · cases hshown

/-- What `verify` reads off a service that is rolled out. -/
theorem reads_of_rolledOut {service : Dict} (hshown : shownService response = some service)
    (h : RolledOut s service) {desired : ℤ}
    (hdesired : AwsEcsActionAdapter.countOf s (.dict service) "desiredCount" = .ok desired) :
    ∃ running, Reads t s response (.dict service) "COMPLETED" desired running ∧ 1 ≤ running := by
  obtain ⟨⟨deployment, hdeployment, hstate⟩, count, running, hcount, hrunning, hpositive⟩ := h
  refine ⟨running, ⟨described_of_shown hshown, ?_, hdesired, ?_⟩, hpositive⟩
  · rw [primaryDeployment] at hdeployment
    split at hdeployment
    · rename_i vs hdeployments
      cases hdeployment
      rw [AwsEcsActionAdapter.rolloutStateOf, Value.getOr_dict, hdeployments]
      change (do
        let state ← Value.getOr (.dict deployment) "rolloutState" (.str "")
        pure (state.toStr t) : Except PyException String) = .ok "COMPLETED"
      rw [Value.getOr_dict, hstate]
      rfl
    · cases hdeployment
  · rw [AwsEcsActionAdapter.countOf, Value.getOr_dict, hcount]
    exact hrunning

end

/-! ## The attempt -/

/-- The adapter gets as far as the update of a service. -/
structure Makes (t : Text) (s : AdapterSettings) (action : ActionRequest)
    (answers : (o : AdapterOp) → AdapterAns o) (change : EcsChange) : Prop where
  cluster : s.awsEcsCluster.isEmpty = false
  service : (AwsEcsActionAdapter.serviceOf s action).isEmpty = false
  notDry : (action.dryRun || s.awsActionDryRun) = false
  client : answers .ecsClient = .ok ()
  changes : AwsEcsActionAdapter.change t s action = .ok (some change)

/-- The adapter updates a service, and ECS accepts it. -/
structure Updated (t : Text) (s : AdapterSettings) (action : ActionRequest)
    (answers : (o : AdapterOp) → AdapterAns o) (change : EcsChange) (response : Dict) : Prop
    extends Makes t s action answers change where
  answered : answers (.updateService s.awsEcsCluster (AwsEcsActionAdapter.serviceOf s action)
    change) = .ok response

section

variable {t : Text} {s : AdapterSettings} {action : ActionRequest}
  {answers : (o : AdapterOp) → AdapterAns o} {cluster service : String} {change : EcsChange}
  {response : Dict}

/-- The first part of an update. -/
theorem execute_value (hclient : answers .ecsClient = .ok ())
    (hchange : AwsEcsActionAdapter.change t s action = .ok (some change)) :
    (AwsEcsActionAdapter.execute t s action cluster service).value answers =
      answers (.updateService cluster service change) := by
  rw [AwsEcsActionAdapter.execute, hchange]
  simp [Prog.bind_eq, hclient]

theorem execute_issued (hclient : answers .ecsClient = .ok ())
    (hchange : AwsEcsActionAdapter.change t s action = .ok (some change)) :
    (AwsEcsActionAdapter.execute t s action cluster service).issued answers =
        [.ecsClient, .updateService cluster service change] := by
  rw [AwsEcsActionAdapter.execute, hchange]
  simp [Prog.bind_eq, hclient]

/-- The update is made for the service that was handed on, by a client that is there. -/
theorem execute_issued_iff {cluster' service' : String} :
    .updateService cluster' service' change
        ∈ (AwsEcsActionAdapter.execute t s action cluster service).issued answers ↔
      cluster' = cluster ∧ service' = service ∧ answers .ecsClient = .ok () ∧
        AwsEcsActionAdapter.change t s action = .ok (some change) := by
  rcases hclient : answers .ecsClient with e | ⟨⟩
  · simp [AwsEcsActionAdapter.execute, Prog.bind_eq, hclient]
  · rcases hchange : AwsEcsActionAdapter.change t s action with e | _ | asked
    · simp [AwsEcsActionAdapter.execute, Prog.bind_eq, hclient, hchange]
    · simp [AwsEcsActionAdapter.execute, Prog.bind_eq, hclient, hchange]
    · rw [execute_issued hclient hchange]
      simp [eq_comm]

theorem verify_value_iff :
    (∃ details, (AwsEcsActionAdapter.verify t s action).value answers = .ok (true, details)) ↔
      s.awsEcsCluster.isEmpty = false ∧ s.awsEcsService.isEmpty = false ∧ ∃ described,
        answers (.describeServices s.awsEcsCluster s.awsEcsService) = .ok described ∧
          Verifies t s action described := by
  rw [AwsEcsActionAdapter.verify]
  split_ifs with hunset
  · rw [Bool.or_eq_true] at hunset
    refine iff_of_false ?_ ?_
    · rintro ⟨details, h⟩
      cases h
    · rintro ⟨hcluster, hservice, -⟩
      simp [hcluster, hservice] at hunset
  · rw [Bool.not_eq_true, Bool.or_eq_false_iff] at hunset
    rw [Prog.bind_eq, Prog.value_op_bind, Prog.bind_eq, Prog.value_bind, Prog.value_ofExcept]
    simp only [bind_eq_ok_iff, Prog.value_ofExcept, hunset, true_and, Verifies]
    constructor
    · rintro ⟨details, described, hanswer, h⟩
      exact ⟨described, hanswer, details, h⟩
    · rintro ⟨described, hanswer, details, h⟩
      exact ⟨details, described, hanswer, h⟩

theorem verify_issued : (AwsEcsActionAdapter.verify t s action).issued answers =
    if s.awsEcsCluster.isEmpty || s.awsEcsService.isEmpty then []
    else [.describeServices s.awsEcsCluster s.awsEcsService] := by
  rw [AwsEcsActionAdapter.verify]
  split_ifs with hunset
  · rfl
  · rcases hanswer : answers (.describeServices s.awsEcsCluster s.awsEcsService) with e | described
    · simp [Prog.bind_eq, hanswer]
    · simp [Prog.bind_eq, hanswer]

/-- An update that ECS accepts is followed by the verification. -/
theorem update_issued_of_ok
    (h : (AwsEcsActionAdapter.execute t s action cluster service).value answers = .ok response) :
    (AwsEcsActionAdapter.update t s action cluster service).issued answers =
      (AwsEcsActionAdapter.execute t s action cluster service).issued answers ++
        (AwsEcsActionAdapter.verify t s action).issued answers := by
  rw [AwsEcsActionAdapter.update, Prog.bind_eq, Prog.issued_bind_ok h]
  congr 1
  rcases hverify : (AwsEcsActionAdapter.verify t s action).value answers with e | verification
  · exact Prog.issued_bind_error hverify _
  · rw [Prog.bind_eq, Prog.issued_bind_ok hverify]
    exact List.append_nil _

/-- The verification makes no update. -/
theorem update_issued_iff {cluster' service' : String} :
    .updateService cluster' service' change
        ∈ (AwsEcsActionAdapter.update t s action cluster service).issued answers ↔
      .updateService cluster' service' change
        ∈ (AwsEcsActionAdapter.execute t s action cluster service).issued answers := by
  rcases hexecute : (AwsEcsActionAdapter.execute t s action cluster service).value answers with
    e | response
  · rw [AwsEcsActionAdapter.update, Prog.bind_eq, Prog.issued_bind_error hexecute]
  · rw [update_issued_of_ok hexecute, List.mem_append, verify_issued]
    refine or_iff_left ?_
    split_ifs <;> simp

/-- The adapter is asked for a plan before it is asked for an update. -/
theorem planned_of_change (hchange : AwsEcsActionAdapter.change t s action = .ok (some change))
    (cluster service : String) :
    ∃ planned, AwsEcsActionAdapter.plannedOperation t s action cluster service = .ok planned := by
  rw [AwsEcsActionAdapter.plannedOperation, hchange]
  exact ⟨_, rfl⟩

theorem run_of_makes (h : Makes t s action answers change) :
    ∃ planned, AwsEcsActionAdapter.run t s action =
      (AwsEcsActionAdapter.update t s action s.awsEcsCluster
        (AwsEcsActionAdapter.serviceOf s action)).attempt >>= fun outcome ↦
          pure (AwsEcsActionAdapter.updateResult action planned outcome) := by
  obtain ⟨planned, hplanned⟩ := planned_of_change h.changes s.awsEcsCluster
    (AwsEcsActionAdapter.serviceOf s action)
  refine ⟨planned, ?_⟩
  rw [AwsEcsActionAdapter.run, h.cluster, h.service, h.notDry, hplanned, Bool.or_false,
    if_neg Bool.false_ne_true]
  dsimp only
  rw [if_neg Bool.false_ne_true]

theorem success_updateResult_iff {planned : Dict}
    {outcome : Except PyException (Dict × Bool × Dict)} :
    (AwsEcsActionAdapter.updateResult action planned outcome).success = true ↔
      ∃ response details, outcome = .ok (response, true, details) := by
  rcases outcome with e | ⟨response, verified, details⟩
  · simp [AwsEcsActionAdapter.updateResult]
  · simp [AwsEcsActionAdapter.updateResult]

/-- **The result of an update.** It is a success if the service is configured and the response
verifies the action. -/
theorem run_value_of_updated (h : Updated t s action answers change response) :
    ∃ result, (AwsEcsActionAdapter.run t s action).value answers = .ok result ∧
      (result.success = true ↔ s.awsEcsService.isEmpty = false ∧ ∃ described,
        answers (.describeServices s.awsEcsCluster s.awsEcsService) = .ok described ∧
          Verifies t s action described) := by
  obtain ⟨planned, hrun⟩ := run_of_makes h.toMakes
  rw [hrun, Prog.bind_eq, Prog.value_bind, Prog.value_attempt]
  refine ⟨_, rfl, ?_⟩
  have hexecute := (execute_value h.client h.changes).trans h.answered
  have hupdate : (AwsEcsActionAdapter.update t s action s.awsEcsCluster
      (AwsEcsActionAdapter.serviceOf s action)).value answers =
        (AwsEcsActionAdapter.verify t s action).value answers >>= fun verification ↦
          .ok (response, verification) := by
    rw [AwsEcsActionAdapter.update, Prog.bind_eq, Prog.value_bind, hexecute]
    exact Prog.value_bind _ _ _
  rw [success_updateResult_iff, hupdate]
  have hverify := @verify_value_iff t s action answers
  rw [and_iff_right h.cluster] at hverify
  rw [← hverify]
  simp only [bind_eq_ok_iff]
  constructor
  · rintro ⟨_, details, verification, hvalue, heq⟩
    cases heq
    exact ⟨details, hvalue⟩
  · rintro ⟨details, hvalue⟩
    exact ⟨response, details, _, hvalue, rfl⟩

/-- The updates that are made. -/
theorem makes_of_issued
    (h : .updateService cluster service change
      ∈ (AwsEcsActionAdapter.run t s action).issued answers) :
    cluster = s.awsEcsCluster ∧ service = AwsEcsActionAdapter.serviceOf s action ∧
      Makes t s action answers change := by
  rw [AwsEcsActionAdapter.run] at h
  split_ifs at h with hmissing hdry
  · cases h
  · rcases hplanned : AwsEcsActionAdapter.plannedOperation t s action s.awsEcsCluster
      (AwsEcsActionAdapter.serviceOf s action) with e | planned
    · rw [hplanned] at h
      cases h
    · rw [hplanned] at h
      cases h
  · rcases hplanned : AwsEcsActionAdapter.plannedOperation t s action s.awsEcsCluster
      (AwsEcsActionAdapter.serviceOf s action) with e | planned
    · rw [hplanned] at h
      cases h
    · rw [hplanned] at h
      dsimp only at h
      rw [Prog.bind_eq, Prog.issued_bind_ok (Prog.value_attempt answers _), Prog.issued_attempt,
        List.mem_append] at h
      have hmade : .updateService cluster service change
          ∈ (AwsEcsActionAdapter.execute t s action s.awsEcsCluster
            (AwsEcsActionAdapter.serviceOf s action)).issued answers := by
        rcases h with h | h
        · exact update_issued_iff.mp h
        · cases h
      obtain ⟨rfl, rfl, hclient, hchange⟩ := execute_issued_iff.mp hmade
      rw [Bool.not_eq_true, Bool.or_eq_false_iff] at hmissing
      rw [Bool.not_eq_true] at hdry
      exact ⟨rfl, rfl, hmissing.1, hmissing.2, hdry, hclient, hchange⟩

theorem updated_of_issued
    (h : .updateService cluster service change
      ∈ (AwsEcsActionAdapter.run t s action).issued answers)
    (hanswer : answers (.updateService cluster service change) = .ok response) :
    cluster = s.awsEcsCluster ∧ service = AwsEcsActionAdapter.serviceOf s action ∧
      Updated t s action answers change response := by
  obtain ⟨rfl, rfl, hmakes⟩ := makes_of_issued h
  exact ⟨rfl, rfl, hmakes, hanswer⟩

theorem run_issued_of_makes (h : Makes t s action answers change) :
    (AwsEcsActionAdapter.run t s action).issued answers =
      (AwsEcsActionAdapter.update t s action s.awsEcsCluster
        (AwsEcsActionAdapter.serviceOf s action)).issued answers := by
  obtain ⟨planned, hrun⟩ := run_of_makes h
  rw [hrun, Prog.bind_eq, Prog.issued_bind_ok (Prog.value_attempt answers _), Prog.issued_attempt]
  exact List.append_nil _

theorem issued_of_makes (h : Makes t s action answers change) :
    .updateService s.awsEcsCluster (AwsEcsActionAdapter.serviceOf s action) change
      ∈ (AwsEcsActionAdapter.run t s action).issued answers := by
  rw [run_issued_of_makes h, update_issued_iff, execute_issued_iff]
  exact ⟨rfl, rfl, h.client, h.changes⟩

/-- Where the service is configured, it is described after the update. -/
theorem describes_of_updated (h : Updated t s action answers change response)
    (hservice : s.awsEcsService.isEmpty = false) :
    .describeServices s.awsEcsCluster s.awsEcsService
      ∈ (AwsEcsActionAdapter.run t s action).issued answers := by
  have hexecute := (execute_value h.client h.changes).trans h.answered
  rw [run_issued_of_makes h.toMakes, update_issued_of_ok hexecute, verify_issued, h.cluster,
    hservice]
  simp

end

/-! ## Verified means achieved -/

/-- The claim of a verification. -/
structure VerifiedMeansAchieved (t : Text) (s : AdapterSettings) (action : ActionRequest)
    (answers : (o : AdapterOp) → AdapterAns o) : Prop where
  sound : ∀ cluster service change response result,
    .updateService cluster service change ∈ (AwsEcsActionAdapter.run t s action).issued answers →
    answers (.updateService cluster service change) = .ok response →
    (AwsEcsActionAdapter.run t s action).value answers = .ok result → result.success = true →
    ∃ described shown,
      .describeServices cluster service ∈ (AwsEcsActionAdapter.run t s action).issued answers ∧
        answers (.describeServices cluster service) = .ok described ∧
        shownService described = some shown ∧ ShowsRequested s action shown
  complete : ∀ cluster service change response described shown,
    .updateService cluster service change ∈ (AwsEcsActionAdapter.run t s action).issued answers →
    answers (.updateService cluster service change) = .ok response →
    answers (.describeServices cluster service) = .ok described →
    shownService described = some shown → ShowsRequested s action shown → RolledOut s shown →
    ∃ result, (AwsEcsActionAdapter.run t s action).value answers = .ok result ∧
      result.success = true

/-- ECS describes a healthy service that is not on the revision of the rollback. -/
def StaysBehind (t : Text) (s : AdapterSettings) (action : ActionRequest)
    (answers : (o : AdapterOp) → AdapterAns o) : Prop :=
  action.actionType = .rollbackDeployment ∧ s.awsEcsService.isEmpty = false ∧ ∃ described,
    answers (.describeServices s.awsEcsCluster s.awsEcsService) = .ok described ∧
      LooksHealthy t s described ∧
      ∀ shown, shownService described = some shown → ¬ ShowsRequested s action shown

/-- The updated service is as requested and rolled out, but no service is configured, or its desired
count is no number. -/
def GoesUnseen (s : AdapterSettings) (action : ActionRequest)
    (answers : (o : AdapterOp) → AdapterAns o) : Prop :=
  ∃ described shown,
    answers (.describeServices s.awsEcsCluster (AwsEcsActionAdapter.serviceOf s action)) =
        .ok described ∧
      shownService described = some shown ∧ ShowsRequested s action shown ∧ RolledOut s shown ∧
      (s.awsEcsService.isEmpty = true ∨
        ∀ n, AwsEcsActionAdapter.countOf s (.dict shown) "desiredCount" ≠ .ok n)

/-- `int` and an `int` field of pydantic agree on the texts that both of them read. -/
def ReadsAlike (s : AdapterSettings) : Prop :=
  ∀ x m n, s.int x = some m → s.intField x = some n → m = n

section

variable {t : Text} {s : AdapterSettings} {action : ActionRequest}
  {answers : (o : AdapterOp) → AdapterAns o}

/-- The count of a valid scaling is positive. -/
theorem one_le_of_valid (halike : ReadsAlike s) {name : String} {v : Value} {n : ℤ}
    (hv : Dict.get? action.parameters name = some v) (hn : v.int s = .ok n)
    (hvalid : (TypedActionAdapterRegistry.ParamField.replicas name).valid s action.parameters) :
    1 ≤ n := by
  rw [TypedActionAdapterRegistry.ParamField.valid, hv, Option.bind_some, Option.any_eq_true]
    at hvalid
  obtain ⟨m, hm, hbounds⟩ := hvalid
  have hle : 1 ≤ m := of_decide_eq_true (Bool.and_eq_true_iff.mp hbounds).1
  suffices hmn : m = n from hmn ▸ hle
  cases v with
  | num q =>
    rw [Value.intField] at hm
    split_ifs at hm with hden
    cases hm
    have hq : q.num.tdiv q.den = n := Except.ok.inj hn
    rw [← hq, hden, Nat.cast_one, Int.tdiv_one]
  | bool b => exact Option.some.inj (hm.symm.trans (congrArg some (Except.ok.inj hn)))
  | str x =>
    rw [Value.int, Value.toInt] at hn
    rcases hx : s.int x with _ | k
    · rw [hx] at hn
      cases hn
    · rw [hx] at hn
      cases hn
      exact (halike x n m hx hm).symm
  | _ => cases hm

theorem valid_of_invalidFields (hvalid : TypedActionAdapterRegistry.invalidFields s action = [])
    {field : TypedActionAdapterRegistry.ParamField}
    (hfield : field ∈ TypedActionAdapterRegistry.paramFields action.actionType) :
    field.valid s action.parameters = true := by
  rw [TypedActionAdapterRegistry.invalidFields, List.map_eq_nil_iff, List.filter_eq_nil_iff]
    at hvalid
  simpa using hvalid field hfield

/-- The count that a valid scaling requests. -/
theorem requested_of_valid (hvalid : TypedActionAdapterRegistry.invalidFields s action = [])
    (htype : action.actionType = .scaleWorkload) :
    (TypedActionAdapterRegistry.ParamField.replicas "maxReplicas").valid s action.parameters ∧
      ∃ requested, Dict.get? action.parameters "maxReplicas" = some requested := by
  have h : (TypedActionAdapterRegistry.ParamField.replicas "maxReplicas").valid s
      action.parameters := by
    refine valid_of_invalidFields hvalid ?_
    rw [htype]
    exact List.mem_cons_of_mem _ (List.mem_singleton_self _)
  refine ⟨h, Option.ne_none_iff_exists'.mp fun hnone ↦ ?_⟩
  rw [TypedActionAdapterRegistry.ParamField.valid, hnone] at h
  cases h

/-- A scaling is verified for a service at the requested count. -/
theorem sound_of_scale (halike : ReadsAlike s) {response : Dict}
    (htype : action.actionType = .scaleWorkload)
    (hvalid : TypedActionAdapterRegistry.invalidFields s action = [])
    (h : Verifies t s action response) :
    ∃ shown, shownService response = some shown ∧ ShowsRequested s action shown := by
  obtain ⟨hpositive, requested, hrequested⟩ := requested_of_valid hvalid htype
  obtain ⟨service, rolloutState, desired, running, hreads, hdesired⟩ :=
    (verifies_scale_iff htype hrequested).mp h
  have hone : 1 ≤ desired := one_le_of_valid halike hrequested hdesired hpositive
  obtain ⟨shown, count, hshown, hcount, hint⟩ :=
    shown_of_count hreads.described hreads.desiredCount (by omega)
  refine ⟨shown, hshown, ?_⟩
  rw [ShowsRequested, htype]
  exact ⟨requested, count, desired, hrequested, hdesired, hcount, hint⟩

/-- What a service shows that is at the count of a scaling. -/
theorem verifies_of_shown {response shown : Dict}
    (htype : action.actionType = .rollbackDeployment ∨ action.actionType = .scaleWorkload)
    (hshown : shownService response = some shown) (hrequested : ShowsRequested s action shown)
    (hrolled : RolledOut s shown) {desired : ℤ}
    (hdesired : AwsEcsActionAdapter.countOf s (.dict shown) "desiredCount" = .ok desired) :
    Verifies t s action response := by
  obtain ⟨running, hreads, hrunning⟩ := reads_of_rolledOut hshown hrolled hdesired
  rcases htype with htype | htype
  · rw [verifies_iff_of_ne_scale (by rw [htype]; decide)]
    exact ⟨_, _, desired, running, hreads, hrunning, Or.inl rfl⟩
  · rw [ShowsRequested, htype] at hrequested
    obtain ⟨requested, count, n, hparam, hn, hcount, hint⟩ := hrequested
    rw [verifies_scale_iff htype hparam]
    refine ⟨_, _, desired, running, hreads, ?_⟩
    rw [AwsEcsActionAdapter.countOf, Value.getOr_dict, hcount] at hdesired
    rw [hn, ← hint]
    exact hdesired

/-- A service is read before it is verified. -/
theorem desired_of_verifies {response shown : Dict} (hshown : shownService response = some shown)
    (h : Verifies t s action response) :
    ∃ desired, AwsEcsActionAdapter.countOf s (.dict shown) "desiredCount" = .ok desired := by
  obtain ⟨details, h⟩ := h
  rw [AwsEcsActionAdapter.verifyService] at h
  simp only [bind_eq_ok_iff] at h
  obtain ⟨service, hservice, _, -, desired, hdesired, -⟩ := h
  rw [described_of_shown hshown] at hservice
  cases hservice
  exact ⟨desired, hdesired⟩

theorem serviceOf_of_configured (hservice : s.awsEcsService.isEmpty = false) :
    AwsEcsActionAdapter.serviceOf s action = s.awsEcsService := by
  rw [AwsEcsActionAdapter.serviceOf, hservice, if_neg Bool.false_ne_true]

section

variable {change : EcsChange} {response : Dict}

/-- A rollback that left its service behind would be verified. -/
theorem not_staysBehind (h : VerifiedMeansAchieved t s action answers)
    (hupdated : Updated t s action answers change response) :
    ¬ StaysBehind t s action answers := by
  rintro ⟨hrollback, hservice, described, hanswer, hhealthy, hbehind⟩
  obtain ⟨result, hresult, hsuccess⟩ := run_value_of_updated hupdated
  have hverifies : Verifies t s action described :=
    (verifies_iff_of_ne_scale (by rw [hrollback]; decide)).mpr hhealthy
  obtain ⟨described', shown, -, hanswer', hshown, hrequested⟩ := h.sound _ _ _ _ _
    (issued_of_makes hupdated.toMakes) hupdated.answered hresult
    (hsuccess.mpr ⟨hservice, described, hanswer, hverifies⟩)
  rw [serviceOf_of_configured hservice, hanswer] at hanswer'
  cases hanswer'
  exact hbehind shown hshown hrequested

/-- A service that went unseen would not be verified. -/
theorem not_goesUnseen (h : VerifiedMeansAchieved t s action answers)
    (hupdated : Updated t s action answers change response) : ¬ GoesUnseen s action answers := by
  rintro ⟨described, shown, hanswer, hshown, hrequested, hrolled, hunseen⟩
  obtain ⟨result, hresult, hsuccess⟩ := run_value_of_updated hupdated
  obtain ⟨result', hresult', hsuccess'⟩ := h.complete _ _ _ _ _ _ (issued_of_makes hupdated.toMakes)
    hupdated.answered hanswer hshown hrequested hrolled
  rw [hresult] at hresult'
  cases hresult'
  obtain ⟨hservice, described', hanswer', hverifies⟩ := hsuccess.mp hsuccess'
  rw [serviceOf_of_configured hservice, hanswer'] at hanswer
  cases hanswer
  rcases hunseen with hempty | hunread
  · rw [hservice] at hempty
    exact Bool.false_ne_true hempty
  · obtain ⟨n, hn⟩ := desired_of_verifies hshown hverifies
    exact hunread n hn

/-- What a verified update shows. -/
theorem shows_of_verifies (halike : ReadsAlike s)
    (htype : action.actionType = .rollbackDeployment ∨ action.actionType = .scaleWorkload)
    (hvalid : TypedActionAdapterRegistry.invalidFields s action = [])
    (hbehind : ¬ StaysBehind t s action answers) (hservice : s.awsEcsService.isEmpty = false)
    (hanswer : answers (.describeServices s.awsEcsCluster s.awsEcsService) = .ok response)
    (h : Verifies t s action response) :
    ∃ shown, shownService response = some shown ∧ ShowsRequested s action shown := by
  rcases htype with htype | htype
  · by_contra hnone
    refine hbehind ⟨htype, hservice, response, hanswer,
      (verifies_iff_of_ne_scale (by rw [htype]; decide)).mp h, ?_⟩
    exact fun shown hshown hrequested ↦ hnone ⟨shown, hshown, hrequested⟩
  · exact sound_of_scale halike htype hvalid h

end

/-- **What is verified is achieved**, and what is achieved is verified, except that a rollback is
verified for a service that stays behind, and that a service that goes unseen verifies nothing. -/
theorem verified_iff
    (htype : action.actionType = .rollbackDeployment ∨ action.actionType = .scaleWorkload)
    (hvalid : TypedActionAdapterRegistry.invalidFields s action = []) (halike : ReadsAlike s) :
    VerifiedMeansAchieved t s action answers ↔
      ∀ change response, Updated t s action answers change response →
        ¬ StaysBehind t s action answers ∧ ¬ GoesUnseen s action answers := by
  constructor
  · exact fun h change response hupdated ↦
      ⟨not_staysBehind h hupdated, not_goesUnseen h hupdated⟩
  · intro h
    constructor
    · intro cluster service change response result hissued hanswer hresult hsuccess
      obtain ⟨rfl, rfl, hupdated⟩ := updated_of_issued hissued hanswer
      obtain ⟨result', hresult', hsuccess'⟩ := run_value_of_updated hupdated
      rw [hresult] at hresult'
      cases hresult'
      obtain ⟨hservice, described, hdescribed, hverifies⟩ := hsuccess'.mp hsuccess
      obtain ⟨shown, hshown, hrequested⟩ := shows_of_verifies halike htype hvalid
        (h change response hupdated).1 hservice hdescribed hverifies
      rw [serviceOf_of_configured hservice]
      exact ⟨described, shown, describes_of_updated hupdated hservice, hdescribed, hshown,
        hrequested⟩
    · intro cluster service change response described shown hissued hanswer hdescribed hshown
        hrequested hrolled
      obtain ⟨rfl, rfl, hupdated⟩ := updated_of_issued hissued hanswer
      obtain ⟨result, hresult, hsuccess⟩ := run_value_of_updated hupdated
      refine ⟨result, hresult, hsuccess.mpr ?_⟩
      have hseen := (h change response hupdated).2
      have hservice : s.awsEcsService.isEmpty = false := by
        rw [← Bool.not_eq_true]
        exact fun hempty ↦ hseen ⟨described, shown, hdescribed, hshown, hrequested, hrolled,
          Or.inl hempty⟩
      obtain ⟨desired, hdesired⟩ : ∃ desired,
          AwsEcsActionAdapter.countOf s (.dict shown) "desiredCount" = .ok desired := by
        by_contra hunread
        exact hseen ⟨described, shown, hdescribed, hshown, hrequested, hrolled,
          Or.inr fun n hn ↦ hunread ⟨n, hn⟩⟩
      rw [serviceOf_of_configured hservice] at hdescribed
      exact ⟨hservice, described, hdescribed,
        verifies_of_shown htype hshown hrequested hrolled hdesired⟩

end

/-! ## A rollback that is verified too early -/

/-- A rollback to the revision before the present one. -/
def revisionRollback : ActionRequest where
  actionId := "act_1"
  actionType := .rollbackDeployment
  target := "checkout-service"
  parameters := [("deployment", .str "checkout-service"), ("to_revision", .str "checkout:41")]
  idempotencyKey := "rollback"
  dryRun := false

/-- ECS accepts every update, and describes a healthy service on a fixed revision. -/
def healthyOn (revision : String) : (o : AdapterOp) → AdapterAns o
  | .ecsClient => .ok ()
  | .updateService _ _ _ => .ok []
  | .describeServices _ _ =>
    .ok [("services", .list [.dict
      [("deployments", .list [.dict
        [("taskDefinition", .str revision), ("rolloutState", .str "COMPLETED")]]),
      ("desiredCount", .num 2), ("runningCount", .num 2)]])]
  | .checkout _ => .ok []

theorem revisionRollback_valid :
    TypedActionAdapterRegistry.invalidFields AdapterSettings.ecs revisionRollback = [] := by
  decide +kernel

theorem ecs_readsAlike : ReadsAlike AdapterSettings.ecs := by
  intro x m n hm
  cases hm

theorem revisionRollback_updated (revision : String) :
    Updated .ascii AdapterSettings.ecs revisionRollback (healthyOn revision)
      (.taskDefinition "checkout:41") [] :=
  ⟨⟨by decide, by decide, rfl, rfl, rfl⟩, rfl⟩

theorem healthyOn_looksHealthy (revision : String) (described : Dict)
    (h : healthyOn revision (.describeServices "checkout-cluster" "checkout-service")
      = .ok described) :
    LooksHealthy .ascii AdapterSettings.ecs described := by
  cases h
  exact ⟨_, "COMPLETED", 2, 2, ⟨rfl, rfl, rfl, rfl⟩, by decide, Or.inl rfl⟩

theorem healthyOn_shows_iff (revision : String) (described shown : Dict)
    (h : healthyOn revision (.describeServices "checkout-cluster" "checkout-service")
      = .ok described)
    (hshown : shownService described = some shown) :
    ShowsRequested AdapterSettings.ecs revisionRollback shown ↔ revision = "checkout:41" := by
  cases h
  cases hshown
  constructor
  · rintro ⟨revision', deployment, hrevision, hdeployment, htask⟩
    cases hrevision
    cases hdeployment
    cases htask
    rfl
  · rintro rfl
    exact ⟨_, _, rfl, rfl, rfl⟩

/-- A service on the requested revision is what the verification takes it for. -/
theorem revisionRollback_verified : VerifiedMeansAchieved .ascii AdapterSettings.ecs
    revisionRollback (healthyOn "checkout:41") := by
  refine (verified_iff (Or.inl rfl) revisionRollback_valid ecs_readsAlike).mpr
    fun change response _ ↦ ⟨?_, ?_⟩
  · rintro ⟨-, -, described, hanswer, -, hbehind⟩
    cases hanswer
    exact hbehind _ rfl ((healthyOn_shows_iff _ _ _ rfl rfl).mpr rfl)
  · rintro ⟨described, shown, hanswer, hshown, -, -, hempty | hunread⟩
    · exact absurd hempty (by decide)
    · cases hanswer
      cases hshown
      exact hunread 2 rfl

/-- A rollback is verified while the service is still on the revision it is to leave. -/
theorem rollback_verified_on_other_revision :
    ¬ ∀ (t : Text) (s : AdapterSettings) (action : ActionRequest)
      (answers : (o : AdapterOp) → AdapterAns o),
      action.actionType = .rollbackDeployment ∨ action.actionType = .scaleWorkload →
      TypedActionAdapterRegistry.invalidFields s action = [] → ReadsAlike s →
      VerifiedMeansAchieved t s action answers := by
  intro h
  refine not_staysBehind (h .ascii AdapterSettings.ecs revisionRollback
    (healthyOn "checkout:42") (Or.inl rfl) revisionRollback_valid ecs_readsAlike)
    (revisionRollback_updated _) ⟨rfl, by decide, _, rfl, healthyOn_looksHealthy _ _ rfl, ?_⟩
  intro shown hshown hrequested
  exact absurd ((healthyOn_shows_iff _ _ _ rfl hshown).mp hrequested) (by decide)

end IncidentPlatform
