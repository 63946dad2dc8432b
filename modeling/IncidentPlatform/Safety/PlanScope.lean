import IncidentPlatform.Agents.Planner

/-!
# The planner and the response plan

The actions of a graph that the language model planned are clamped to the response plan. The stub
graph is not: it chooses between a rollback and a restart with more replicas by the service and one
word of the symptom, the response plan is chosen by the severity and other words of it.
`planner_respects_plan_iff` says for which incidents the two choices agree.
-/

namespace IncidentPlatform

open Interaction

/-- The stub graph is returned, once the language model has answered. -/
def usesStub (cfg : Settings) (plan : ResponsePlan) (answer : Except Fault PlannerLLMOutput) :
    Bool :=
  !cfg.agenticEnabled || cfg.agenticStubFallback &&
    match answer with
    | .error f => f.isAgentFallback
    | .ok out => (allowedTypes plan.allowedActions out.actionTypeNames).isEmpty

/-- The incident is one for a rollback and its symptom names the checkout deployment, or its
severity and symptom are those of a failing computation; else it is of the latter kind and not of
the former. -/
def stubFits (t : Text) (metadata : IncidentEnvelope) : Bool :=
  let symptom := t.lower metadata.symptom
  let checkout := isIn "checkout" symptom && (isIn "deployment" symptom || isIn "error" symptom)
  let compute := (metadata.severity == "sev1" || metadata.severity == "sev2") &&
    (isIn "cpu" symptom || isIn "error" symptom)
  if metadata.service == "checkout-service" && isIn "deployment" symptom then checkout || compute
  else compute && !checkout

/-- The action types are those of the plan. -/
def WithinPlan (plan : ResponsePlan) (types : List ActionType) : Prop :=
  ∀ t ∈ types, t ∈ plan.allowedActions ∧ t ∉ plan.deniedActions

instance (plan : ResponsePlan) (types : List ActionType) : Decidable (WithinPlan plan types) :=
  inferInstanceAs (Decidable (∀ t ∈ types, _))

/-- Whatever graph the planner returns, its actions are those of the plan. -/
def RespectsPlan (cfg : Settings) (env : Env) (mode : Mode) (w : World) (incident : IncidentRecord)
    (plan : ResponsePlan) : Prop :=
  ∀ r graph v, (planRemediation cfg incident).run (serve env mode) w = (.ok (r, graph), v) →
    WithinPlan plan (graph.actions.map ActionRequest.actionType)

section

variable {cfg : Settings} {env : Env} {mode : Mode} {w : World} {incident : IncidentRecord}
  {plan : ResponsePlan}

/-- The stub chooses from the plan exactly if the two choices agree. -/
theorem stubTypes_within_iff (cfg : Settings) (incident : IncidentRecord) :
    WithinPlan (matchResponsePlan cfg.text incident.metadata.severity incident.metadata.symptom)
        (stubTypes cfg incident) ↔ stubFits cfg.text incident.metadata = true := by
  unfold stubTypes stubFits matchResponsePlan
  dsimp only
  generalize isIn "checkout" (cfg.text.lower incident.metadata.symptom) = checkout,
    isIn "deployment" (cfg.text.lower incident.metadata.symptom) = deployment,
    isIn "error" (cfg.text.lower incident.metadata.symptom) = error,
    isIn "cpu" (cfg.text.lower incident.metadata.symptom) = cpu,
    (incident.metadata.severity == "sev1" || incident.metadata.severity == "sev2") = severe,
    (incident.metadata.service == "checkout-service") = service
  revert checkout deployment error cpu severe service
  decide

/-- A run of the planner that ends in its stub. -/
theorem respectsPlan_of_stub {stubbed : IncidentRecord} {u : World}
    (hmetadata : stubbed.metadata = incident.metadata)
    (hrun : (planRemediation cfg incident).run (serve env mode) w
      = (stubGraph cfg stubbed).run (serve env mode) u) :
    RespectsPlan cfg env mode w incident plan ↔ WithinPlan plan (stubTypes cfg incident) := by
  have htypes : stubTypes cfg stubbed = stubTypes cfg incident := by
    rw [stubTypes, stubTypes, hmetadata]
  constructor
  · intro h
    obtain ⟨⟨r, graph⟩, v, hv⟩ := (stubGraph_total cfg stubbed).run (serve env mode) u
    have hwithin := h r graph v (hrun.trans hv)
    rwa [(stubGraph_types cfg stubbed).run hv, htypes] at hwithin
  · intro h r graph v hv
    rw [hrun] at hv
    rwa [(stubGraph_types cfg stubbed).run hv, htypes]

/-- A run of the planner that ends in the `except` clause. -/
theorem respectsPlan_of_fallBack {f : Fault} {stubbed : IncidentRecord} {u : World}
    (hmetadata : stubbed.metadata = incident.metadata)
    (hrun : (planRemediation cfg incident).run (serve env mode) w
      = (fallBack cfg f (stubGraph cfg stubbed)).run (serve env mode) u) :
    RespectsPlan cfg env mode w incident plan ↔
      ((cfg.agenticStubFallback && f.isAgentFallback) = true →
        WithinPlan plan (stubTypes cfg incident)) := by
  rw [fallBack, Bool.and_comm] at hrun
  split_ifs at hrun with hfallback
  · rw [respectsPlan_of_stub hmetadata hrun, hfallback]
    exact ⟨fun h _ ↦ h, fun h ↦ h rfl⟩
  · refine iff_of_true (fun r graph v hv ↦ ?_) fun h ↦ absurd h hfallback
    rw [hrun, Prog.run_raise] at hv
    cases hv

/-- The actions the language model planned are clamped. -/
theorem allowedTypes_within
    (hplan : ∃ t severity symptom, plan = matchResponsePlan t severity symptom)
    (names : List String) : WithinPlan plan (allowedTypes plan.allowedActions names) := by
  obtain ⟨t, severity, symptom, rfl⟩ := hplan
  intro a ha
  have hallowed := of_decide_eq_true (List.mem_filter.mp ha).2
  exact ⟨hallowed, ((matchResponsePlan_allowed t severity symptom).2 a hallowed).1⟩

/-- The two ways on after an answer of the language model. -/
theorem respectsPlan_of_answer {out : PlannerLLMOutput} (hagentic : cfg.agenticEnabled = true)
    (hplan : incident.responsePlan = some plan)
    (hmatched : ∃ t severity symptom, plan = matchResponsePlan t severity symptom)
    (hout : env.planner w.tick = .ok out) :
    RespectsPlan cfg env mode w incident plan ↔
      ((cfg.agenticStubFallback && (allowedTypes plan.allowedActions out.actionTypeNames).isEmpty)
          = true → WithinPlan plan (stubTypes cfg incident)) := by
  let types := allowedTypes plan.allowedActions out.actionTypeNames
  let planned := incident.withConfidence out.plannerConfidence
  obtain ⟨actions, u, hu⟩ := (clampActions_total cfg planned types).run (serve env mode)
    { w with tick := w.tick + 1 }
  have htypes : actions.map ActionRequest.actionType = types :=
    (clampActions_types cfg planned types).run hu
  have hrun : (planRemediation cfg incident).run (serve env mode) w
      = (if actions.isEmpty then do
            assign planned
            fallBack cfg .structuredLLMError (stubGraph cfg planned)
          else do
            let graph ← plannedGraph out actions
            pure (planned, graph) :
              Handler (IncidentRecord × ActionGraph)).run (serve env mode) u := by
    rw [planRemediation, hagentic, hplan]
    change (planWithLLM cfg incident plan.allowedActions).run (serve env mode) w = _
    have hanswer : (serve env mode w (.plannerLLM incident)).1 = .ok out := hout
    rw [planWithLLM, run_perform_bind, hanswer]
    exact Prog.run_bind_ok hu _
  have hempty : actions.isEmpty = types.isEmpty := by
    rw [← htypes, List.isEmpty_map]
  rw [hempty] at hrun
  split_ifs at hrun with hnone
  -- No name of the answer is an allowed action: the stub plans, or the call fails.
  · have hrun' : (planRemediation cfg incident).run (serve env mode) w
        = (fallBack cfg .structuredLLMError (stubGraph cfg planned)).run (serve env mode)
          (serve env mode u (.touch planned)).2 := hrun
    have htypes : (allowedTypes plan.allowedActions out.actionTypeNames).isEmpty = true := hnone
    rw [respectsPlan_of_fallBack rfl hrun', htypes]
    rfl
  -- Otherwise the clamped actions are planned, and these are within the plan.
  · refine iff_of_true (fun r graph v hv ↦ ?_) fun h ↦ ?_
    · rw [hrun] at hv
      have hactions : graph.actions = actions := by
        have hyields : (do
            let graph ← plannedGraph out actions
            pure (planned, graph) : Handler (IncidentRecord × ActionGraph)).Yields
              fun a ↦ a.2.actions = actions :=
          Prog.Yields.bind (plannedGraph_actions out actions) fun _ h ↦ h
        exact hyields.run hv
      rw [hactions, htypes]
      exact allowedTypes_within hmatched _
    · exact absurd (Bool.and_eq_true_iff.mp h).2 hnone

end

/-- **When the planner respects the response plan.** On every incident whose plan was matched from
its severity and symptom: the actions of every graph the planner returns are allowed and not denied
by the plan exactly if the stub is not used, or chooses as the plan does. -/
theorem planner_respects_plan_iff (cfg : Settings) (env : Env) (mode : Mode) (w : World)
    (incident : IncidentRecord) (plan : ResponsePlan)
    (hmatched : plan =
      matchResponsePlan cfg.text incident.metadata.severity incident.metadata.symptom)
    (hplan : incident.responsePlan = some plan) :
    RespectsPlan cfg env mode w incident plan ↔
      (usesStub cfg plan (env.planner w.tick) = true →
        stubFits cfg.text incident.metadata = true) := by
  rw [← stubTypes_within_iff cfg incident, ← hmatched]
  rcases hagentic : cfg.agenticEnabled with _ | _
  · have hrun : (planRemediation cfg incident).run (serve env mode) w
        = (stubGraph cfg incident).run (serve env mode) w := by
      rw [planRemediation, hagentic]
      rfl
    rw [respectsPlan_of_stub rfl hrun]
    unfold usesStub
    rw [hagentic]
    exact ⟨fun h _ ↦ h, fun h ↦ h rfl⟩
  · rcases hout : env.planner w.tick with f | out
    · have hrun : (planRemediation cfg incident).run (serve env mode) w
          = (fallBack cfg f (stubGraph cfg incident)).run (serve env mode)
              { w with tick := w.tick + 1 } := by
        rw [planRemediation, hagentic, hplan]
        change (planWithLLM cfg incident plan.allowedActions).run (serve env mode) w = _
        have hanswer : (serve env mode w (.plannerLLM incident)).1 = .error f := hout
        rw [planWithLLM, run_perform_bind, hanswer]
        rfl
      rw [respectsPlan_of_fallBack rfl hrun]
      unfold usesStub
      rw [hagentic]
      rfl
    · rw [respectsPlan_of_answer hagentic hplan ⟨_, _, _, hmatched⟩ hout]
      unfold usesStub
      rw [hagentic]
      rfl

/-- The incident of a full disk. -/
def diskIncident : IncidentRecord where
  incidentId := "inc_disk"
  metadata :=
    { source := "webhook"
      severity := "sev3"
      service := "inventory"
      resource := "inventory"
      symptom := "disk usage is high"
      occurredAt := 0
      dedupeKey := "disk" }
  responsePlan := some (matchResponsePlan Text.ascii "sev3" "disk usage is high")
  createdAt := 0
  updatedAt := 0

/-- Its plan is read-only, the stub restarts the service. -/
theorem planner_leaves_plan :
    ¬ ∀ cfg env mode w incident plan,
      plan = matchResponsePlan cfg.text incident.metadata.severity incident.metadata.symptom →
      incident.responsePlan = some plan → RespectsPlan cfg env mode w incident plan := by
  intro h
  have hrespects := h Settings.demo Env.demo .postgres {} diskIncident _ rfl rfl
  have hwithin : WithinPlan (matchResponsePlan Text.ascii "sev3" "disk usage is high")
      (stubTypes Settings.demo diskIncident) := (respectsPlan_of_stub rfl rfl).mp hrespects
  revert hwithin
  decide +kernel

/-- The plan of the incident, whatever the planner makes of it. -/
theorem planner_respects_plan_disk :
    RespectsPlan Settings.demo Env.demo .postgres {} diskIncident
        (matchResponsePlan Text.ascii "sev3" "disk usage is high") ↔
      (usesStub Settings.demo (matchResponsePlan Text.ascii "sev3" "disk usage is high")
          (Env.demo.planner 0) = true →
        stubFits Text.ascii diskIncident.metadata = true) :=
  planner_respects_plan_iff Settings.demo Env.demo .postgres {} diskIncident _ rfl rfl

end IncidentPlatform
