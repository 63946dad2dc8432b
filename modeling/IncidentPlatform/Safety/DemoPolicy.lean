import IncidentPlatform.Domain.Verdict

/-!
# Writes without approval under the demo policy

With the demo documents and without autonomy, a write is allowed without approval exactly if it is a
restart or a scaling of a plan that is not read-only, passes the lists, and comes with a confidence
of at least 0.9 and the blast radius `single service` (`approval_free_write_iff`). The first demo
rule asks for approval on its three actions whatever the context is, the second one waives it under
the two conditions, and every other write of such a plan falls to the class default, which asks.
-/

namespace IncidentPlatform

/-- What the rules rely on of `str.strip` and `str.lower`: names of actions have no space around
them, and `single service` is in lower case and has none either. -/
structure PlainText (t : Text) : Prop where
  strip_value : ∀ a : ActionType, t.strip a.value = a.value
  lower_strip : t.lower (t.strip "single service") = "single service"

theorem ActionType.value_injective : Function.Injective ActionType.value := by
  have hnodup : ∀ a ∈ ActionType.all, ∀ b ∈ ActionType.all, a.value = b.value → a = b := by decide
  have hall (a : ActionType) : a ∈ ActionType.all := by cases a <;> decide
  exact fun a b h ↦ hnodup a (hall a) b (hall b) h

section

variable {t : Text} {action : ActionRequest} {ctx : PolicyContext}

/-- A list of action types in a rule. -/
theorem actionInRule_iff (ht : PlainText t) (types : List ActionType) :
    actionInRule t action (types.map fun a ↦ .str a.value) = true ↔ action.actionType ∈ types := by
  rw [actionInRule, List.any_map, List.any_eq_true]
  simp only [Function.comp_apply, Value.toStr, ht.strip_value, beq_iff_eq,
    ActionType.value_injective.eq_iff, exists_eq_right]

theorem matches_highRiskRule_iff (ht : PlainText t) :
    Matches t highRiskRule.condition action ctx ↔
      action.actionType ∈ [ActionType.rollbackDeployment, .drainNode, .runAnsibleJob] := by
  rw [← actionInRule_iff ht]
  constructor
  · intro h
    exact h.actionType.resolve_left (List.cons_ne_nil _ _)
  · intro h
    exact ⟨Or.inr h, (fun _ hset ↦ nomatch hset), (fun _ hset ↦ nomatch hset),
      fun _ _ ↦ Or.inl rfl⟩

theorem matches_lowRiskRule_iff (ht : PlainText t) :
    Matches t lowRiskRule.condition action ctx ↔
      action.actionType ∈ [ActionType.restartService, .scaleWorkload] ∧
      (∃ confidence ∈ ctx.plannerConfidence, 9 / 10 ≤ confidence) ∧
      ∃ blastRadius ∈ ctx.blastRadius, t.lower (t.strip blastRadius) = "single service" := by
  rw [← actionInRule_iff ht]
  constructor
  · intro h
    obtain ⟨confidence, hconfidence, bound, hbound, hle⟩ := h.confidence (.num (9 / 10)) rfl
    obtain ⟨blastRadius, hblast, heq⟩ := h.blastRadius (.str "single service") rfl
    cases hbound
    exact ⟨h.actionType.resolve_left (List.cons_ne_nil _ _), ⟨confidence, hconfidence, hle⟩,
      blastRadius, hblast, heq.symm.trans ht.lower_strip⟩
  · rintro ⟨haction, ⟨confidence, hconfidence, hle⟩, blastRadius, hblast, heq⟩
    refine ⟨Or.inr haction, ?_, ?_, fun _ _ ↦ Or.inl rfl⟩
    · rintro _ ⟨⟩
      exact ⟨confidence, hconfidence, 9 / 10, rfl, hle⟩
    · rintro _ ⟨⟩
      exact ⟨blastRadius, hblast, ht.lower_strip.trans heq.symm⟩

/-- For a plan that is not read-only, the demo policy waives the approval by the second rule alone.
The first rule comes before it, but no action is in both lists. -/
theorem asksApproval_demo_iff (ht : PlainText t) {plan : ResponsePlan}
    (hclass : plan.policyClass ≠ .readOnly) :
    asksApproval t demoDocuments plan action ctx = false ↔
      Matches t lowRiskRule.condition action ctx := by
  have hbyClass : (plan.policyClass != .readOnly) = true := bne_iff_ne.mpr hclass
  have hdisjoint : ∀ a ∈ [ActionType.restartService, .scaleWorkload],
      a ∉ [ActionType.rollbackDeployment, .drainNode, .runAnsibleJob] := by decide
  rw [asksApproval, firstApproval, approvalRules_demo, hbyClass, List.find?_cons, List.find?_cons,
    List.find?_nil, ← whenMatches_iff]
  rcases hhigh : whenMatches t highRiskRule.condition action ctx with _ | _
  · rcases whenMatches t lowRiskRule.condition action ctx with _ | _ <;> simp
  · refine iff_of_false Bool.noConfusion fun hlow ↦ ?_
    have hboth := (matches_highRiskRule_iff ht).mp (whenMatches_iff.mp hhigh)
    exact hdisjoint _ ((matches_lowRiskRule_iff ht).mp (whenMatches_iff.mp hlow)).1 hboth

end

/-- What a write has to meet to be allowed without approval. -/
structure ApprovalFree (t : Text) (plan : ResponsePlan) (action : ActionRequest)
    (ctx : PolicyContext) : Prop where
  notReadOnly : plan.policyClass ≠ .readOnly
  restartOrScale : action.actionType ∈ [ActionType.restartService, .scaleWorkload]
  lists : Permitted demoDocuments plan action
  confidence : ∃ confidence ∈ ctx.plannerConfidence, 9 / 10 ≤ confidence
  blastRadius : ∃ blastRadius ∈ ctx.blastRadius,
    t.lower (t.strip blastRadius) = "single service"

/-- **Writes without approval.** A write is allowed without approval if and only if it meets
`ApprovalFree`. -/
theorem approval_free_write_iff (t : Text) (ht : PlainText t) (killSwitch : Bool)
    (plan : ResponsePlan) (action : ActionRequest) (ctx : PolicyContext) (decisionId : String)
    (evaluatedAt : Time) (hwrite : action.actionType ∈ writeActions) :
    let d := evaluate t demoDocuments killSwitch plan action false ctx decisionId evaluatedAt
    d.allowed = true ∧ d.requiresApproval = false ↔ ApprovalFree t plan action ctx := by
  refine (free_iff ..).trans ?_
  constructor
  · rintro ⟨⟨-, hpermitted, -⟩, happroval⟩
    have hclass : plan.policyClass ≠ .readOnly := fun h ↦ hpermitted.readOnly h hwrite
    have hasks := happroval.resolve_right Bool.false_ne_true
    have hmatches := (asksApproval_demo_iff ht hclass).mp hasks
    obtain ⟨haction, hconfidence, hblast⟩ := (matches_lowRiskRule_iff ht).mp hmatches
    exact ⟨hclass, haction, hpermitted, hconfidence, hblast⟩
  · rintro ⟨hclass, haction, hpermitted, hconfidence, hblast⟩
    have hmatches := (matches_lowRiskRule_iff ht).mpr ⟨haction, hconfidence, hblast⟩
    exact ⟨⟨rfl, hpermitted, rfl⟩, Or.inl ((asksApproval_demo_iff ht hclass).mpr hmatches)⟩

theorem plainText_ascii : PlainText Text.ascii where
  strip_value a := by cases a <;> decide
  lower_strip := by decide

/-- A restart with a blast radius in other letters. -/
theorem approval_free_write_iff_restart :
    ApprovalFree Text.ascii computePlan checkoutRestart
      { plannerConfidence := some (9 / 10), blastRadius := some " Single Service " } :=
  (approval_free_write_iff Text.ascii plainText_ascii true computePlan checkoutRestart
    { plannerConfidence := some (9 / 10), blastRadius := some " Single Service " } "" 0
    (by decide)).mp (by decide +kernel)

end IncidentPlatform
