import IncidentPlatform.Domain.Verdict

/-!
# Tightening a policy

Two policies are compared, of which the second is the tighter one: its allowlists are sub-lists, its
denylists are super-lists, its coverage threshold is higher. What the tighter policy allows was
already allowed (`allowed_of_tightened`), with one exception for each allowlist. An empty allowlist
allows everything, so the sub-list may be empty only if the list was (`Narrowed`).

Nothing else of the two policies is compared. In particular the approval rules may differ: no rule
denies an action.
-/

namespace IncidentPlatform

/-! ## Allowlists -/

/-- A sub-list that does not turn into the list that allows everything. -/
structure Narrowed {α : Type} (l l' : List α) : Prop where
  subset : l' ⊆ l
  nonempty : l' = [] → l = []

theorem Narrowed.refl {α : Type} (l : List α) : Narrowed l l := ⟨List.Subset.refl l, id⟩

/-- The strings of a sub-list are strings of the list. -/
theorem strings_subset {v v' : Option Value} (h : Value.elements v' ⊆ Value.elements v) :
    Value.strings v' ⊆ Value.strings v := by
  intro s hs
  rw [Value.strings, List.mem_filterMap] at hs ⊢
  obtain ⟨value, hvalue, heq⟩ := hs
  exact ⟨value, h hvalue, heq⟩

theorem targetAllowed_iff {target : String} {patterns : Option Value} :
    targetAllowed target patterns = true ↔ Value.elements patterns = [] ∨
      ∃ pattern ∈ Value.strings patterns, fnmatch target pattern = true := by
  rw [targetAllowed, Bool.or_eq_true, List.isEmpty_iff, List.any_eq_true]

/-! ## The tighter policy -/

/-- The second plan and documents are tighter than the first, in any of the lists and the threshold
or in none. -/
structure Tightened (t : Text) (docs docs' : PolicyDocuments) (plan plan' : ResponsePlan) :
    Prop where
  policyClass : plan'.policyClass = plan.policyClass
  planAllowed : Narrowed plan.allowedActions plan'.allowedActions
  planDenied : plan.deniedActions ⊆ plan'.deniedActions
  executionAllowed : Narrowed (Value.elements (docs.execution.get? "allowedActions"))
    (Value.elements (docs'.execution.get? "allowedActions"))
  executionDenied : Value.elements (docs.execution.get? "deniedActions") ⊆
    Value.elements (docs'.execution.get? "deniedActions")
  targetPatterns : Narrowed (Value.elements (docs.execution.get? "allowedTargetPatterns"))
    (Value.elements (docs'.execution.get? "allowedTargetPatterns"))
  coverage : ∀ bound ∈ coverageBound t docs, ∃ bound' ∈ coverageBound t docs', bound ≤ bound'

section

variable {t : Text} {docs docs' : PolicyDocuments} {plan plan' : ResponsePlan}
  {action : ActionRequest}

theorem Tightened.permitted (h : Tightened t docs docs' plan plan')
    (hp : Permitted docs' plan' action) : Permitted docs plan action where
  planDenied hdenied := hp.planDenied (h.planDenied hdenied)
  planAllowed := hp.planAllowed.imp h.planAllowed.nonempty (@h.planAllowed.subset _)
  executionAllowed := hp.executionAllowed.imp h.executionAllowed.nonempty
    (@strings_subset _ _ h.executionAllowed.subset _)
  executionDenied hdenied := hp.executionDenied (strings_subset h.executionDenied hdenied)
  target := by
    rw [targetAllowed_iff]
    refine (targetAllowed_iff.mp hp.target).imp h.targetPatterns.nonempty ?_
    rintro ⟨pattern, hmem, hmatch⟩
    exact ⟨pattern, strings_subset h.targetPatterns.subset hmem, hmatch⟩
  readOnly hclass := hp.readOnly (h.policyClass.trans hclass)

theorem belowCoverage_iff {ctx : PolicyContext} :
    belowCoverage t docs ctx = true ↔
      ∃ bound ∈ coverageBound t docs, ∃ coverage ∈ ctx.evidenceCoverage, coverage < bound := by
  rw [belowCoverage, Option.any_eq_true]
  simp only [Option.any_eq_true, decide_eq_true_eq, Option.mem_def]

/-- A coverage below the threshold is below a higher one. -/
theorem Tightened.belowCoverage (h : Tightened t docs docs' plan plan') {ctx : PolicyContext}
    (hbelow : belowCoverage t docs ctx = true) : belowCoverage t docs' ctx = true := by
  obtain ⟨bound, hbound, coverage, hcoverage, hlt⟩ := belowCoverage_iff.mp hbelow
  obtain ⟨bound', hbound', hle⟩ := h.coverage bound hbound
  exact belowCoverage_iff.mpr ⟨bound', hbound', coverage, hcoverage, hlt.trans_le hle⟩

end

/-- **Tightening.** What the tighter policy allows, the policy allows. -/
theorem allowed_of_tightened {t : Text} {docs docs' : PolicyDocuments} {plan plan' : ResponsePlan}
    (h : Tightened t docs docs' plan plan') (killSwitch : Bool) (action : ActionRequest)
    (autonomous : Bool) (ctx : PolicyContext) (decisionId decisionId' : String)
    (evaluatedAt evaluatedAt' : Time)
    (hallowed : (evaluate t docs' killSwitch plan' action autonomous ctx decisionId'
      evaluatedAt').allowed = true) :
    (evaluate t docs killSwitch plan action autonomous ctx decisionId evaluatedAt).allowed
      = true := by
  rw [allowed_iff] at hallowed ⊢
  obtain ⟨hswitch, hpermitted, hcoverage⟩ := hallowed
  refine ⟨hswitch, h.permitted hpermitted, ?_⟩
  rw [← Bool.not_eq_true] at hcoverage ⊢
  exact fun hbelow ↦ hcoverage (h.belowCoverage hbelow)

/-! ## Emptied lists -/

/-- Documents with two allowlists. -/
def allowlists (actions patterns : List String) : PolicyDocuments where
  execution := .dict [("allowedActions", .list (actions.map .str)),
    ("allowedTargetPatterns", .list (patterns.map .str))]
  approval := .dict []

/-- A plan for the actions of the list. -/
def planFor (allowedActions : List ActionType) : ResponsePlan where
  planId := "compute-performance-v1"
  workflowFamily := "compute-performance"
  policyClass := .reviewRequired
  allowedActions
  deniedActions := []
  maxRetries := 2

/-- A restart of a workload. -/
def restartOf (target : String) : ActionRequest where
  actionId := "act_1"
  actionType := .restartService
  target
  idempotencyKey := "restart"

/-- Allowed in a call without context. -/
def allowedUnder (docs : PolicyDocuments) (plan : ResponsePlan) (action : ActionRequest) : Bool :=
  (evaluate Text.ascii docs true plan action false {} "" 0).allowed

/-- The empty sub-list of each of the three allowlists allows a restart that the list does not. -/
theorem emptied_allowlists_loosen :
    (¬ ∀ docs actions actions' action, actions'.Sublist actions →
      allowedUnder docs (planFor actions') action → allowedUnder docs (planFor actions) action) ∧
    (¬ ∀ plan actions actions' patterns action, actions'.Sublist actions →
      allowedUnder (allowlists actions' patterns) plan action →
        allowedUnder (allowlists actions patterns) plan action) ∧
    ¬ ∀ plan actions patterns patterns' action, patterns'.Sublist patterns →
      allowedUnder (allowlists actions patterns') plan action →
        allowedUnder (allowlists actions patterns) plan action := by
  let restart := restartOf "checkout-service"
  refine ⟨fun h ↦ ?_, fun h ↦ ?_, fun h ↦ ?_⟩
  · exact absurd (h demoDocuments [.queryMetrics] [] restart (List.nil_sublist _)
      (by decide +kernel)) (by decide +kernel)
  · exact absurd (h (planFor []) ["QueryMetrics"] [] [] restart (List.nil_sublist _)
      (by decide +kernel)) (by decide +kernel)
  · exact absurd (h (planFor []) [] ["k8s-*"] [] restart (List.nil_sublist _)
      (by decide +kernel)) (by decide +kernel)

/-- With a pattern left, a restart is allowed that was already. -/
theorem allowed_of_tightened_restart :
    allowedUnder (allowlists ["RestartService"] ["k8s-*", "arc-*"]) (planFor [])
      (restartOf "k8s-checkout") = true := by
  have htightened : Tightened Text.ascii (allowlists ["RestartService"] ["k8s-*", "arc-*"])
      (allowlists ["RestartService"] ["k8s-*"]) (planFor []) (planFor []) :=
    { policyClass := rfl
      planAllowed := Narrowed.refl _
      planDenied := List.Subset.refl _
      executionAllowed := Narrowed.refl _
      executionDenied := List.Subset.refl _
      targetPatterns := ⟨List.map_subset Value.str (List.cons_subset_cons "k8s-*"
        (List.nil_subset ["arc-*"])), fun hnil ↦ (List.cons_ne_nil _ _ hnil).elim⟩
      coverage := fun _ hbound ↦ nomatch hbound }
  exact allowed_of_tightened htightened true _ false {} "" "" 0 0 (by decide +kernel)

end IncidentPlatform
