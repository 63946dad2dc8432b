import IncidentPlatform.Domain.Verdict

/-!
# Calls without a part of the context

`evaluate` may be called without some of the values that it uses. A rule with a condition on an
absent confidence or blast radius does not match, one with a condition on an absent severity may
match, and an absent coverage is not checked. Whether the missing value makes the policy stricter or
laxer depends on the rule. A rule that asks for approval and does not match any more exposes the
rules below it, and a rule that does not ask for approval and now matches hides them.

`HarmlessRules` excludes just that, rule by rule, for the values that are left out and the rules
that are for the action. Then a rule that asks for approval still matches where it did, and one that
does not ask matches only where it does with the full context. So what the first match decides
without approval is decided without approval in full (`firstApproval_eq_false`, by induction on the
rules).
-/

namespace IncidentPlatform

/-- The values that a call leaves out. -/
structure HiddenFields where
  plannerConfidence : Bool := false
  blastRadius : Bool := false
  severity : Bool := false
  evidenceCoverage : Bool := false
  deriving Repr, DecidableEq

/-- A value, unless it is left out. -/
def hiddenIf {α : Type} (hide : Bool) (a : Option α) : Option α := if hide then none else a

theorem mem_hiddenIf {α : Type} {hide : Bool} {a : Option α} {x : α} :
    x ∈ hiddenIf hide a ↔ hide = false ∧ x ∈ a := by
  rcases hide with _ | _ <;> simp [hiddenIf]

/-- The context without them. -/
def PolicyContext.without (ctx : PolicyContext) (hidden : HiddenFields) : PolicyContext where
  plannerConfidence := hiddenIf hidden.plannerConfidence ctx.plannerConfidence
  blastRadius := hiddenIf hidden.blastRadius ctx.blastRadius
  severity := hiddenIf hidden.severity ctx.severity
  evidenceCoverage := hiddenIf hidden.evidenceCoverage ctx.evidenceCoverage

/-- The rule is one for the action: it lists it, or it lists none. -/
def ApprovalRule.Concerns (t : Text) (r : ApprovalRule) (action : ActionRequest) : Prop :=
  Value.elements (r.condition.get? "actionTypeIn") = [] ∨
    actionInRule t action (Value.elements (r.condition.get? "actionTypeIn")) = true

/-- Of the rules for the action, a confidence or blast radius that is left out matches none that
asks for approval, and a severity that is left out matches all that do not ask for it. -/
structure HarmlessRules (t : Text) (docs : PolicyDocuments) (plan : ResponsePlan)
    (action : ActionRequest) (hidden : HiddenFields) (ctx : PolicyContext) : Prop where
  confidence : hidden.plannerConfidence = true → ∀ r ∈ docs.approvalRules, r.Concerns t action →
    r.approval (plan.policyClass != .readOnly) = true →
      ∀ confMin ∈ r.condition.given? "confidenceMin", ∀ confidence ∈ ctx.plannerConfidence,
        ∀ bound ∈ confMin.toFloat t, confidence < bound
  blastRadius : hidden.blastRadius = true → ∀ r ∈ docs.approvalRules, r.Concerns t action →
    r.approval (plan.policyClass != .readOnly) = true →
      ∀ br ∈ r.condition.given? "blastRadius", ∀ blastRadius ∈ ctx.blastRadius,
        t.lower (t.strip (br.toStr t)) ≠ t.lower (t.strip blastRadius)
  severity : hidden.severity = true → ∀ r ∈ docs.approvalRules, r.Concerns t action →
    r.approval (plan.policyClass != .readOnly) = false → ∀ severity ∈ ctx.severity,
      Value.elements (r.condition.get? "severityIn") = [] ∨
        ∃ v ∈ Value.elements (r.condition.get? "severityIn"), v.toStr t = severity

/-! ## The first match -/

/-- Let `q` match where `p` does on the rules that do not ask for approval, and only there on those
that do. If the first match of `p` does not ask for approval, the first match of `q` does not. -/
theorem firstApproval_eq_false {byClass : Bool} {rules : List ApprovalRule}
    {p q : ApprovalRule → Bool}
    (hlax : ∀ r ∈ rules, r.approval byClass = false → p r = true → q r = true)
    (hstrict : ∀ r ∈ rules, r.approval byClass = true → q r = true → p r = true)
    (h : firstApproval byClass rules p = false) : firstApproval byClass rules q = false := by
  induction rules with
  | nil => exact h
  | cons r rules ih =>
    have ih := ih (fun s hs ↦ hlax s (List.mem_cons_of_mem r hs))
      (fun s hs ↦ hstrict s (List.mem_cons_of_mem r hs))
    rw [firstApproval] at h ih ⊢
    rw [List.find?_cons] at h ⊢
    rcases hq : q r with _ | _
    · rcases hp : p r with _ | _
      · rw [hp] at h
        exact ih h
      · rw [hp] at h
        rw [hlax r List.mem_cons_self h hp] at hq
        contradiction
    · -- the match of `q` does not ask, or `p` would match here as well
      rcases hr : r.approval byClass with _ | _
      · exact hr
      · rw [hstrict r List.mem_cons_self hr hq] at h
        exact absurd (hr.symm.trans h) (by decide)

section

variable {t : Text} {docs : PolicyDocuments} {plan : ResponsePlan} {action : ActionRequest}
  {hidden : HiddenFields} {ctx : PolicyContext} {r : ApprovalRule}

theorem HarmlessRules.matches_full (h : HarmlessRules t docs plan action hidden ctx)
    (hr : r ∈ docs.approvalRules) (hlax : r.approval (plan.policyClass != .readOnly) = false)
    (hm : Matches t r.condition action (ctx.without hidden)) :
    Matches t r.condition action ctx where
  actionType := hm.actionType
  confidence confMin hconfMin := by
    obtain ⟨confidence, hconfidence, hbound⟩ := hm.confidence confMin hconfMin
    exact ⟨confidence, (mem_hiddenIf.mp hconfidence).2, hbound⟩
  blastRadius br hbr := by
    obtain ⟨blastRadius, hblast, heq⟩ := hm.blastRadius br hbr
    exact ⟨blastRadius, (mem_hiddenIf.mp hblast).2, heq⟩
  severity severity hseverity := by
    rcases hhidden : hidden.severity with _ | _
    · exact hm.severity severity (mem_hiddenIf.mpr ⟨hhidden, hseverity⟩)
    · exact h.severity hhidden r hr hm.actionType hlax severity hseverity

theorem HarmlessRules.matches_without (h : HarmlessRules t docs plan action hidden ctx)
    (hr : r ∈ docs.approvalRules) (hstrict : r.approval (plan.policyClass != .readOnly) = true)
    (hm : Matches t r.condition action ctx) :
    Matches t r.condition action (ctx.without hidden) where
  actionType := hm.actionType
  confidence confMin hconfMin := by
    obtain ⟨confidence, hconfidence, bound, hbound, hle⟩ := hm.confidence confMin hconfMin
    rcases hhidden : hidden.plannerConfidence with _ | _
    · exact ⟨confidence, mem_hiddenIf.mpr ⟨hhidden, hconfidence⟩, bound, hbound, hle⟩
    · have hlt := h.confidence hhidden r hr hm.actionType hstrict confMin hconfMin confidence
        hconfidence bound hbound
      exact absurd hle (not_le_of_gt hlt)
  blastRadius br hbr := by
    obtain ⟨blastRadius, hblast, heq⟩ := hm.blastRadius br hbr
    rcases hhidden : hidden.blastRadius with _ | _
    · exact ⟨blastRadius, mem_hiddenIf.mpr ⟨hhidden, hblast⟩, heq⟩
    · exact absurd heq (h.blastRadius hhidden r hr hm.actionType hstrict br hbr blastRadius hblast)
  severity severity hseverity := hm.severity severity (mem_hiddenIf.mp hseverity).2

/-- What is asked for with the full context is asked for without. -/
theorem HarmlessRules.asksApproval (h : HarmlessRules t docs plan action hidden ctx)
    (hasks : asksApproval t docs plan action (ctx.without hidden) = false) :
    IncidentPlatform.asksApproval t docs plan action ctx = false := by
  refine firstApproval_eq_false (fun r hr hlax hm ↦ ?_) (fun r hr hstrict hm ↦ ?_) hasks
  · exact whenMatches_iff.mpr (h.matches_full hr hlax (whenMatches_iff.mp hm))
  · exact whenMatches_iff.mpr (h.matches_without hr hstrict (whenMatches_iff.mp hm))

end

/-- **Missing context.** What is allowed without approval when a part of the context is left out is
so with the full context, provided that a coverage that is left out is not below the threshold, and
that autonomy waives the approval or the rules are harmless. -/
theorem free_of_free_without (t : Text) (docs : PolicyDocuments) (killSwitch : Bool)
    (plan : ResponsePlan) (action : ActionRequest) (autonomous : Bool) (ctx : PolicyContext)
    (hidden : HiddenFields) (decisionId decisionId' : String) (evaluatedAt evaluatedAt' : Time)
    (hcoverage : hidden.evidenceCoverage = true → belowCoverage t docs ctx = false)
    (hrules : waivesApproval plan autonomous = true ∨ HarmlessRules t docs plan action hidden ctx)
    (hfree :
      let d := evaluate t docs killSwitch plan action autonomous (ctx.without hidden) decisionId'
        evaluatedAt'
      d.allowed = true ∧ d.requiresApproval = false) :
    let d := evaluate t docs killSwitch plan action autonomous ctx decisionId evaluatedAt
    d.allowed = true ∧ d.requiresApproval = false := by
  obtain ⟨⟨hswitch, hpermitted, hcovered⟩, happroval⟩ := (free_iff ..).mp hfree
  refine (free_iff ..).mpr ⟨⟨hswitch, hpermitted, ?_⟩, ?_⟩
  · rcases hhidden : hidden.evidenceCoverage with _ | _
    · rw [← hcovered, belowCoverage, belowCoverage, PolicyContext.without, hhidden]
      rfl
    · exact hcoverage hhidden
  · rcases hrules with hwaived | hharmless
    · exact Or.inr hwaived
    · exact happroval.imp_left hharmless.asksApproval

/-! ## The demo rules, and rules that are not harmless -/

def confidentContext : PolicyContext where
  plannerConfidence := some (92 / 100)
  blastRadius := some "single service"
  severity := some "sev2"
  evidenceCoverage := some 1

/-- The rules of the demo profile are harmless, whatever is left out: the rule that asks for
approval looks at the action alone, the other one does not look at the severity. -/
theorem harmlessRules_demo (t : Text) (plan : ResponsePlan) (action : ActionRequest)
    (hidden : HiddenFields) (ctx : PolicyContext) :
    HarmlessRules t demoDocuments plan action hidden ctx := by
  constructor
  · intro _ r hr _ hasks confMin hconfMin
    rw [approvalRules_demo, List.mem_pair] at hr
    rcases hr with rfl | rfl
    · exact nomatch hconfMin
    · exact nomatch hasks
  · intro _ r hr _ hasks br hbr
    rw [approvalRules_demo, List.mem_pair] at hr
    rcases hr with rfl | rfl
    · exact nomatch hbr
    · exact nomatch hasks
  · intro _ r hr _ hasks severity _
    rw [approvalRules_demo, List.mem_pair] at hr
    rcases hr with rfl | rfl
    · exact nomatch hasks
    · exact Or.inl rfl

/-- A restart with confidence, seen without severity and coverage. -/
theorem free_of_free_without_restart :
    let d := evaluate Text.ascii demoDocuments true computePlan checkoutRestart false
      confidentContext "" 0
    d.allowed = true ∧ d.requiresApproval = false :=
  free_of_free_without Text.ascii demoDocuments true computePlan checkoutRestart false
    confidentContext { severity := true, evidenceCoverage := true } "" "" 0 0
    (fun _ ↦ belowCoverage_demo _ _) (Or.inr (harmlessRules_demo _ _ _ _ _)) (by decide +kernel)

/-- Documents with a threshold and with rules, each a condition and its answer. -/
def rulesFirst (rules : List (Dict × Bool)) : PolicyDocuments where
  execution := .dict []
  approval := .dict [("minEvidenceCoverage", .num (8 / 10)), ("rules", .list
    (rules.map fun (condition, requireApproval) ↦
      .dict [("when", .dict condition), ("requireApproval", .bool requireApproval)]))]

/-- Allowed without approval. -/
def freeUnder (docs : PolicyDocuments) (ctx : PolicyContext) : Bool :=
  let plan := { (default : ResponsePlan) with policyClass := .reviewRequired }
  let action := { (default : ActionRequest) with actionType := .restartService }
  let d := evaluate Text.ascii docs true plan action false ctx "" 0
  d.allowed && !d.requiresApproval

/-- Each of the four values makes the policy laxer when it is left out, for some documents. -/
theorem missing_context_loosens :
    (¬ ∀ docs ctx, freeUnder docs (ctx.without { plannerConfidence := true }) →
      freeUnder docs ctx) ∧
    (¬ ∀ docs ctx, freeUnder docs (ctx.without { blastRadius := true }) → freeUnder docs ctx) ∧
    (¬ ∀ docs ctx, freeUnder docs (ctx.without { severity := true }) → freeUnder docs ctx) ∧
    ¬ ∀ docs ctx, freeUnder docs (ctx.without { evidenceCoverage := true }) →
      freeUnder docs ctx := by
  let ctx : PolicyContext :=
    { plannerConfidence := some (95 / 100), blastRadius := some "region", severity := some "sev1"
      evidenceCoverage := some 1 }
  refine ⟨fun h ↦ ?_, fun h ↦ ?_, fun h ↦ ?_, fun h ↦ ?_⟩
  · exact absurd (h (rulesFirst [([("confidenceMin", .num (9 / 10))], true), ([], false)]) ctx
      (by decide +kernel)) (by decide +kernel)
  · exact absurd (h (rulesFirst [([("blastRadius", .str "region")], true), ([], false)]) ctx
      (by decide +kernel)) (by decide +kernel)
  · exact absurd (h (rulesFirst [([("severityIn", .list [.str "sev3"])], false)]) ctx
      (by decide +kernel)) (by decide +kernel)
  · exact absurd (h (rulesFirst [([], false)]) { ctx with evidenceCoverage := some 0 }
      (by decide +kernel)) (by decide +kernel)

end IncidentPlatform
