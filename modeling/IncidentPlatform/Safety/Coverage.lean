import Mathlib.Tactic.Linarith
import IncidentPlatform.Safety.Escalation
import IncidentPlatform.Workflow.Findings

/-!
# Evidence coverage

The coverage score of a record is `min(1.0, n / 5.0)` of its `n` evidence entries. The policy engine
and the reports read it off the record. It is assigned in one place, the evidence step of the loop.
The change step adds an entry and leaves the score as it is, and the linear route never assigns it.

`coverage_iff` says when the score is right all the same. A change step does no harm once there are
five entries. The linear route stores a right score at the evidence checkpoint only if the incident
came with it. The monitor's phase is whether the evidence agent has answered, and the invariant is
that from then on the score is right.
-/

namespace IncidentPlatform

open Interaction

/-! ## The score -/

/-- The score is that of the evidence. -/
def Covered (f : Findings) : Prop := f.evidenceCoverageScore = evidenceCoverage f.evidence.length

theorem evidenceCoverage_of_lt {n : ℕ} (h : n < 5) : evidenceCoverage n = n / 5 := by
  rw [evidenceCoverage, min_eq_right]
  have hcast : (n : ℚ) < 5 := by exact_mod_cast h
  linarith

theorem evidenceCoverage_of_le {n : ℕ} (h : 5 ≤ n) : evidenceCoverage n = 1 := by
  rw [evidenceCoverage, min_eq_left]
  have hcast : (5 : ℚ) ≤ n := by exact_mod_cast h
  linarith

/-- One more entry counts until there are five. -/
theorem evidenceCoverage_succ_iff (n : ℕ) :
    evidenceCoverage n = evidenceCoverage (n + 1) ↔ 5 ≤ n := by
  constructor
  · intro h
    by_contra hfew
    have hlt : (n : ℚ) / 5 < evidenceCoverage (n + 1) := by
      have hcast : (n : ℚ) < 5 := by exact_mod_cast Nat.lt_of_not_le hfew
      rw [evidenceCoverage, lt_min_iff, Nat.cast_add, Nat.cast_one]
      constructor <;> linarith
    rw [← h, evidenceCoverage_of_lt (Nat.lt_of_not_le hfew)] at hlt
    exact lt_irrefl _ hlt
  · intro h
    rw [evidenceCoverage_of_le h, evidenceCoverage_of_le (Nat.le_succ_of_le h)]

/-! ## The monitor -/

/-- The evidence agent has found its entries. -/
def Flow.gathers : (o : FlowOp) → FlowAns o → Bool
  | .evidence _, .ok _ => true
  | _, _ => false

/-- An entry on a change is added only to a record with enough evidence. -/
def Saturated : (o : FlowOp) → FlowAns o → Prop
  | .change r, .ok _ => 5 ≤ r.evidence.length
  | _, _ => True

/-- Outside the loop, the record has the score that it should have with the new entries. -/
def Scored (loop : Bool) : (o : FlowOp) → FlowAns o → Prop
  | .evidence r, .ok found =>
    loop = true ∨ r.evidenceCoverageScore = evidenceCoverage (r.evidence.length + found.2.length)
  | _, _ => True

/-- From the first answer of the evidence agent on, what is stored has to be covered. -/
def coverageMonitor (loop : Bool) : FlowMonitor Bool where
  stored seen f := seen = true → Covered f
  fair seen o a := Scored loop o a ∧ (seen = true → Saturated o a)
  next seen o a := seen || Flow.gathers o a
  uneventful seen o a h := by
    cases o with
    | evidence r =>
      cases a with
      | error e => exact ⟨⟨trivial, fun _ ↦ trivial⟩, Bool.or_false seen⟩
      | ok found => exact h.elim
    | change r =>
      cases a with
      | error e => exact ⟨⟨trivial, fun _ ↦ trivial⟩, Bool.or_false seen⟩
      | ok entry => exact h.elim
    | _ => exact ⟨⟨trivial, fun _ ↦ trivial⟩, Bool.or_false seen⟩

/-- What the monitor asks of stored findings is kept as it stands. -/
def CoveredOnce (seen : Bool) (f : Findings) : Prop := seen = true → Covered f

variable {loop seen : Bool} {r : IncidentRecord}

theorem coverage_change (entry : EvidenceEntry) (h : CoveredOnce seen r.findings) :
    (coverageMonitor loop).Turns CoveredOnce seen (.change r) (.ok entry)
      (r.findings.withEvidence [entry]) := by
  have hnext : (coverageMonitor loop).next seen (.change r) (.ok entry) = seen := Bool.or_false seen
  rw [FlowMonitor.Turns, hnext]
  rcases seen with _ | _
  · exact Or.inl ⟨⟨trivial, fun h ↦ absurd h Bool.false_ne_true⟩,
      fun h ↦ absurd h Bool.false_ne_true⟩
  · have hscore : r.evidenceCoverageScore = evidenceCoverage r.evidence.length := h rfl
    have hcovered : Covered (r.findings.withEvidence [entry]) ↔ 5 ≤ r.evidence.length := by
      change r.evidenceCoverageScore = evidenceCoverage (r.evidence ++ [entry]).length ↔ _
      rw [List.length_append, List.length_singleton, hscore, evidenceCoverage_succ_iff]
    by_cases hfull : 5 ≤ r.evidence.length
    · exact Or.inl ⟨⟨trivial, fun _ ↦ hfull⟩, fun _ ↦ hcovered.mpr hfull⟩
    · exact Or.inr ⟨fun hfair ↦ hfull (hfair.2 rfl),
        fun hstored ↦ hfull (hcovered.mp (hstored rfl))⟩

theorem coverage_keeps : (coverageMonitor true).Keeps CoveredOnce where
  stored _ _ h := h
  waiting _ _ h := h
  evidence _ _ := Or.inl ⟨⟨Or.inl rfl, fun _ ↦ trivial⟩, fun _ ↦ rfl⟩
  change entry h := coverage_change entry h
  rca {seen r} hypotheses h := by
    have hnext : (coverageMonitor true).next seen (.rca r) (.ok hypotheses) = seen :=
      Bool.or_false seen
    rw [FlowMonitor.Turns, hnext]
    exact Or.inl ⟨⟨trivial, fun _ ↦ trivial⟩, h⟩

theorem coverage_keepsLinear : (coverageMonitor false).KeepsLinear CoveredOnce where
  stored _ _ h := h
  evidence {seen r} found h := by
    have hnext : (coverageMonitor false).next seen (.evidence r) (.ok found) = true :=
      Bool.or_true seen
    have hcovered : Covered (r.findings.withEvidence found.2)
        ↔ r.evidenceCoverageScore = evidenceCoverage (r.evidence.length + found.2.length) := by
      rw [← List.length_append]
      rfl
    rw [FlowMonitor.Turns, hnext]
    by_cases hscored :
        r.evidenceCoverageScore = evidenceCoverage (r.evidence.length + found.2.length)
    · exact Or.inl ⟨⟨Or.inr hscored, fun _ ↦ trivial⟩, fun _ ↦ hcovered.mpr hscored⟩
    · refine Or.inr ⟨fun hfair ↦ hscored ?_, fun hstored ↦ hscored (hcovered.mp (hstored rfl))⟩
      exact hfair.1.resolve_left Bool.false_ne_true
  change entry h := coverage_change entry h
  rca {seen r} hypotheses h := by
    have hnext : (coverageMonitor false).next seen (.rca r) (.ok hypotheses) = seen :=
      Bool.or_false seen
    rw [FlowMonitor.Turns, hnext]
    exact Or.inl ⟨⟨trivial, fun _ ↦ trivial⟩, h⟩

/-! ## Runs -/

theorem scored_iff (loop : Bool) (events : List (Prog.Event FlowOp FlowAns)) :
    (∀ e ∈ events, Scored loop e.1 e.2) ↔ loop = true ∨
      ∀ asked found, ⟨.evidence asked, .ok found⟩ ∈ events →
        asked.evidenceCoverageScore
          = evidenceCoverage (asked.evidence.length + found.2.length) := by
  constructor
  · intro h
    rcases loop with _ | _
    · exact Or.inr fun asked found he ↦ (h _ he).resolve_left Bool.false_ne_true
    · exact Or.inl rfl
  · rintro h ⟨o, a⟩ he
    cases o with
    | evidence asked =>
      cases a with
      | error e => trivial
      | ok found => exact h.imp id fun h ↦ h asked found he
    | _ => trivial

theorem saturated_iff (events : List (Prog.Event FlowOp FlowAns)) :
    (∀ e ∈ events, true = true → Saturated e.1 e.2) ↔
      ∀ asked entry, ⟨.change asked, .ok entry⟩ ∈ events → 5 ≤ asked.evidence.length := by
  refine ⟨fun h asked entry he ↦ h _ he rfl, ?_⟩
  rintro h ⟨o, a⟩ he -
  cases o with
  | change asked =>
    cases a with
    | error e => trivial
    | ok entry => exact h asked entry he
  | _ => trivial

theorem executeRoute_agrees (cfg : Settings) (worker : Bool) (r : IncidentRecord) :
    (Flow.executeRoute cfg worker r).Agrees
      (coverageMonitor cfg.routerDecisionLoopEnabled).monitor false
      fun r' seen ↦ CoveredOnce seen r'.findings := by
  have hnone : CoveredOnce false (r.findings.withState .investigating) :=
    fun h ↦ absurd h Bool.false_ne_true
  rw [Flow.executeRoute]
  rcases cfg.routerDecisionLoopEnabled with _ | _
  · exact Flow.runLinearRoute_agrees worker coverage_keepsLinear cfg hnone
  · exact Flow.runDecisionLoopRoute_agrees worker coverage_keeps cfg hnone

/-- **Coverage.** In every run of `execute_route`, with any agents, the records stored after the
first answer of the evidence agent have the coverage of their evidence exactly if the linear route
got it right by chance and no change step came before the fifth entry. The first such record is that
of the evidence checkpoint. -/
theorem coverage_iff {σ : Type*} (serve : σ → (o : FlowOp) → FlowAns o × σ) (cfg : Settings)
    (worker : Bool) (r : IncidentRecord) (s : σ) :
    (∀ stored, ⟨.world (.write stored), ()⟩
        ∈ Interaction.after Flow.gathers ((Flow.executeRoute cfg worker r).trace serve s) →
          stored.evidenceCoverageScore = evidenceCoverage stored.evidence.length) ↔
    (cfg.routerDecisionLoopEnabled = true ∨
      ∀ asked found, ⟨.evidence asked, .ok found⟩
        ∈ (Flow.executeRoute cfg worker r).trace serve s →
          asked.evidenceCoverageScore
            = evidenceCoverage (asked.evidence.length + found.2.length)) ∧
    ∀ asked entry, ⟨.change asked, .ok entry⟩
      ∈ Interaction.after Flow.gathers ((Flow.executeRoute cfg worker r).trace serve s) →
        5 ≤ asked.evidence.length := by
  refine Iff.trans ?_ (((executeRoute_agrees cfg worker r).along_iff serve s).trans ?_)
  · refine Iff.trans ?_ (along_after (fun o a ↦ ?_) _).symm
    · rw [(coverageMonitor cfg.routerDecisionLoopEnabled).left_iff]
      exact forall₂_congr fun stored _ ↦ (imp_iff_right rfl).symm
    · rcases o with _ | _ | _ | _ | _ | _ | o
      case world =>
        cases o with
        | write stored => exact fun h ↦ absurd h Bool.false_ne_true
        | _ => trivial
      all_goals trivial
  · refine (along_and _ false).trans (and_congr ?_ ?_)
    · exact (along_iff_forall _ false).trans (scored_iff _ _)
    · exact (along_after (fun _ _ h ↦ absurd h Bool.false_ne_true) _).trans (saturated_iff _)

/-- One entry from the evidence agent and one from the change agent, asked in this order. -/
def oneByOne (w : World) : (o : FlowOp) → FlowAns o × World
  | .triage _ | .rca _ | .planner _ => (.error (.fault .other), w)
  | .evidence _ => (.ok ([], [⟨"ev_1", "cloudwatch", "metric", 9 / 10, "latency", none, 0⟩]), w)
  | .change _ => (.ok ⟨"ev_2", "config", "change", 9 / 10, "no change", none, 0⟩, w)
  | .router r _ =>
    let step := if r.evidence.isEmpty then "evidence" else "change"
    (.ok { decisionId := "rd_1", nextWorkflow := step, createdAt := 0 }, w)
  | .world o => serve Env.demo .postgres w o

/-- A record is stored that is not covered. -/
def FlowOp.uncovered : FlowOp → Bool
  | .world (.write r) => !decide (r.evidenceCoverageScore = evidenceCoverage r.evidence.length)
  | _ => false

/-- The entry of the change step is not counted. -/
theorem change_leaves_score :
    ¬ ∀ stored, ⟨.world (.write stored), ()⟩ ∈ Interaction.after Flow.gathers
        ((Flow.executeRoute Settings.looped false slowIncident).trace oneByOne {}) →
          stored.evidenceCoverageScore = evidenceCoverage stored.evidence.length := by
  intro h
  have huncovered : ∃ e ∈ Interaction.after Flow.gathers
      ((Flow.executeRoute Settings.looped false slowIncident).trace oneByOne {}),
        e.1.uncovered = true := by
    decide +kernel
  obtain ⟨⟨o, a⟩, he, huncovered⟩ := huncovered
  rcases o with _ | _ | _ | _ | _ | _ | o
  case world =>
    cases o with
    | write stored => simp [FlowOp.uncovered, h stored he] at huncovered
    | _ => cases huncovered
  all_goals cases huncovered

end IncidentPlatform
