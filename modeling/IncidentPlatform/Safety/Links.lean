import IncidentPlatform.Safety.Escalation
import IncidentPlatform.Workflow.Findings

/-!
# Hypothesis links

A link carries an id and the evidence that supports its hypothesis. The loop numbers the links of an
analysis from zero, and takes the supporting ids as the analysis gives them. So ids collide once a
second analysis of the incident returns something, and a supporting id is that of an evidence entry
only if the analysis keeps to the evidence it was shown.

`links_well_formed_iff` says that nothing else goes wrong. The invariant is that the links are well
formed, and that a record with links has one with the first id of the incident, which is what a
second analysis collides with.
-/

namespace IncidentPlatform

open Interaction

/-! ## Well-formed links -/

/-- The links have different ids, and cite evidence of the incident. -/
structure WellLinked (f : Findings) : Prop where
  nodup : (f.hypothesisLinks.map HypothesisLink.hypothesisId).Nodup
  cited : ∀ link ∈ f.hypothesisLinks, ∀ id ∈ link.supportingEvidenceIds,
    id ∈ f.evidence.map EvidenceEntry.evidenceId

/-- An analysis finds nothing, or it is the first one, and it cites evidence of the record. -/
structure Linkable (r : IncidentRecord) (hypotheses : List RCAHypothesisItem) : Prop where
  first : hypotheses = [] ∨ r.hypothesisLinks = []
  cites : ∀ h ∈ hypotheses, ∀ id ∈ h.supportingEvidenceIds,
    id ∈ r.evidence.map EvidenceEntry.evidenceId

/-- The id of the hypothesis at position `i` of an analysis. -/
def hypothesisId (incidentId : String) (i : ℕ) : String :=
  "hyp_" ++ incidentId ++ "_" ++ toString i

theorem hypothesisId_injective (incidentId : String) :
    Function.Injective (hypothesisId incidentId) := by
  intro i j h
  rw [hypothesisId, hypothesisId, String.append_right_inj] at h
  have hdigits : Nat.toDigits 10 i = Nat.toDigits 10 j := by
    rw [← Nat.toList_repr, ← Nat.toList_repr]
    exact congrArg String.toList h
  rw [← @Nat.ofDigitChars_toDigits 10 i (by decide) le_rfl, hdigits,
    Nat.ofDigitChars_toDigits (by decide) le_rfl]

theorem hypothesisLinks_ids (incidentId : String) (hypotheses : List RCAHypothesisItem) :
    ∀ i, (hypothesisLinks incidentId i hypotheses).map HypothesisLink.hypothesisId
      = (List.range' i hypotheses.length).map (hypothesisId incidentId) := by
  induction hypotheses with
  | nil => exact fun _ ↦ rfl
  | cons h hypotheses ih => exact fun i ↦ congrArg (hypothesisId incidentId i :: ·) (ih (i + 1))

theorem hypothesisLinks_nodup (incidentId : String) (hypotheses : List RCAHypothesisItem) :
    ((hypothesisLinks incidentId 0 hypotheses).map HypothesisLink.hypothesisId).Nodup := by
  rw [hypothesisLinks_ids]
  exact (List.nodup_range' 1).map (hypothesisId_injective incidentId)

theorem zeroth_mem {incidentId : String} {hypotheses : List RCAHypothesisItem}
    (hfound : hypotheses ≠ []) : hypothesisId incidentId 0
      ∈ (hypothesisLinks incidentId 0 hypotheses).map HypothesisLink.hypothesisId := by
  cases hypotheses with
  | nil => exact absurd rfl hfound
  | cons h hypotheses => exact List.mem_cons_self

theorem hypothesisLinks_cited (incidentId : String) (hypotheses : List RCAHypothesisItem) :
    ∀ i, (hypothesisLinks incidentId i hypotheses).map HypothesisLink.supportingEvidenceIds
      = hypotheses.map RCAHypothesisItem.supportingEvidenceIds := by
  induction hypotheses with
  | nil => exact fun _ ↦ rfl
  | cons h hypotheses ih => exact fun i ↦ congrArg (h.supportingEvidenceIds :: ·) (ih (i + 1))

/-! ## The invariant -/

/-- A record with links has one with the id that every analysis starts with. -/
structure Numbered (f : Findings) : Prop extends WellLinked f where
  zeroth : f.hypothesisLinks ≠ [] →
    hypothesisId f.incidentId 0 ∈ f.hypothesisLinks.map HypothesisLink.hypothesisId

/-- What is stored has to be well linked, and what an analysis finds linkable. -/
def linkMonitor : FlowMonitor Unit where
  stored _ f := WellLinked f
  fair _ o a :=
    match o, a with
    | .rca r, .ok hypotheses => Linkable r hypotheses
    | _, _ => True
  next _ _ _ := ()
  uneventful _ o a h := by
    cases o with
    | rca r =>
      cases a with
      | error e => exact ⟨trivial, rfl⟩
      | ok hypotheses => exact h.elim
    | _ => exact ⟨trivial, rfl⟩

theorem Numbered.withEvidence {f : Findings} (h : Numbered f) (evidence : List EvidenceEntry) :
    Numbered (f.withEvidence evidence) where
  nodup := h.nodup
  cited link hlink id hid := by
    change id ∈ (f.evidence ++ evidence).map EvidenceEntry.evidenceId
    rw [List.map_append]
    exact List.mem_append_left _ (h.cited link hlink id hid)
  zeroth := h.zeroth

variable {r : IncidentRecord} {hypotheses : List RCAHypothesisItem}

/-- A linkable analysis keeps the invariant. -/
theorem Numbered.withLinks (h : Numbered r.findings) (hlinkable : Linkable r hypotheses) :
    Numbered (r.findings.withLinks (hypothesisLinks r.incidentId 0 hypotheses)) := by
  rcases hlinkable.first with rfl | hnone
  · have hsame : r.findings.withLinks [] = r.findings := by
      rw [Findings.withLinks, List.append_nil]
    rw [hypothesisLinks, hsame]
    exact h
  · have hlinks : (r.findings.withLinks (hypothesisLinks r.incidentId 0 hypotheses)).hypothesisLinks
        = hypothesisLinks r.incidentId 0 hypotheses := by
      change r.hypothesisLinks ++ _ = _
      rw [hnone, List.nil_append]
    refine ⟨⟨?_, fun link hlink id hid ↦ ?_⟩, fun hsome ↦ ?_⟩
    · rw [hlinks]
      exact hypothesisLinks_nodup _ _
    · rw [hlinks] at hlink
      have hmem := List.mem_map_of_mem (f := HypothesisLink.supportingEvidenceIds) hlink
      rw [hypothesisLinks_cited] at hmem
      obtain ⟨hypothesis, hhypothesis, hids⟩ := List.mem_map.mp hmem
      exact hlinkable.cites hypothesis hhypothesis id (hids.symm ▸ hid)
    · rw [hlinks] at hsome ⊢
      refine zeroth_mem fun hempty ↦ hsome ?_
      rw [hempty, hypothesisLinks]

/-- Any other one leaves links behind that are not well formed. -/
theorem Numbered.not_wellLinked (h : Numbered r.findings) (hlinkable : ¬ Linkable r hypotheses) :
    ¬ WellLinked (r.findings.withLinks (hypothesisLinks r.incidentId 0 hypotheses)) := by
  refine fun hwell ↦ hlinkable ⟨or_iff_not_imp_left.mpr fun hfound ↦ ?_, fun g hg id hid ↦ ?_⟩
  -- The new links start with the id that the old ones start with.
  · by_contra hlinks
    have hnodup := hwell.nodup
    rw [Findings.withLinks, List.map_append, List.nodup_append] at hnodup
    exact hnodup.2.2 _ (h.zeroth hlinks) _ (zeroth_mem hfound) rfl
  · have hmem := List.mem_map_of_mem (f := RCAHypothesisItem.supportingEvidenceIds) hg
    rw [← hypothesisLinks_cited r.incidentId hypotheses 0] at hmem
    obtain ⟨link, hlink, hids⟩ := List.mem_map.mp hmem
    exact hwell.cited link (List.mem_append_right _ hlink) id (hids.symm ▸ hid)

theorem linkMonitor_keeps : linkMonitor.Keeps fun _ f ↦ Numbered f where
  stored _ _ h := h.toWellLinked
  waiting _ _ h := ⟨⟨h.nodup, h.cited⟩, h.zeroth⟩
  evidence found h :=
    have hmore := h.withEvidence found.2
    Or.inl ⟨trivial, ⟨⟨hmore.nodup, hmore.cited⟩, hmore.zeroth⟩⟩
  change entry h := Or.inl ⟨trivial, h.withEvidence [entry]⟩
  rca {n r} hypotheses h := by
    by_cases hlinkable : Linkable r hypotheses
    · exact Or.inl ⟨hlinkable, h.withLinks hlinkable⟩
    · exact Or.inr ⟨hlinkable, h.not_wellLinked hlinkable⟩

/-! ## Runs -/

section

variable {σ : Type*} (serve : σ → (o : FlowOp) → FlowAns o × σ)

/-- In a run from an incident without links, the monitor's conditions agree. -/
theorem links_agree (cfg : Settings) (worker : Bool) {r : IncidentRecord}
    (hlinks : r.hypothesisLinks = []) (s : σ) :
    (∀ e ∈ (Flow.runDecisionLoopRoute cfg worker r).trace serve s,
      linkMonitor.monitor.left () e.1 e.2) ↔
    ∀ e ∈ (Flow.runDecisionLoopRoute cfg worker r).trace serve s, linkMonitor.fair () e.1 e.2 := by
  have hempty : (r.findings.withState .investigating).hypothesisLinks = [] := hlinks
  have hnone : Numbered (r.findings.withState .investigating) := by
    refine ⟨⟨?_, ?_⟩, fun hsome ↦ absurd hempty hsome⟩
    · rw [hempty]
      exact List.nodup_nil
    · rw [hempty]
      exact fun _ h ↦ absurd h List.not_mem_nil
  have hagrees := Flow.runDecisionLoopRoute_agrees (n := ()) worker linkMonitor_keeps cfg hnone
  exact (along_iff_forall (P := linkMonitor.monitor.left ()) _ ()).symm.trans
    ((hagrees.along_iff serve s).trans (along_iff_forall (P := linkMonitor.fair ()) _ ()))

/-- **Links are well formed exactly if the analyses are linkable.** -/
theorem links_well_formed_iff (cfg : Settings) (worker : Bool) (r : IncidentRecord)
    (hlinks : r.hypothesisLinks = []) (s : σ) :
    (∀ stored, ⟨.world (.write stored), ()⟩
        ∈ (Flow.runDecisionLoopRoute cfg worker r).trace serve s → WellLinked stored.findings) ↔
    ∀ asked hypotheses, ⟨.rca asked, .ok hypotheses⟩
        ∈ (Flow.runDecisionLoopRoute cfg worker r).trace serve s → Linkable asked hypotheses := by
  refine (linkMonitor.left_iff () _).symm.trans ((links_agree serve cfg worker hlinks s).trans
    ⟨fun h asked hypotheses hasked ↦ h _ hasked, fun h ↦ ?_⟩)
  rintro ⟨o, a⟩ he
  cases o with
  | rca asked =>
    rcases a with e | hypotheses
    · trivial
    · exact h asked hypotheses he
  | _ => trivial

end

/-- A router that asks for an analysis in every iteration, and an analysis that always finds the
same. -/
def repeating (w : World) : (o : FlowOp) → FlowAns o × World
  | .triage _ | .evidence _ | .change _ | .planner _ => (.error (.fault .other), w)
  | .rca _ => (.ok [⟨"the database is slow", 1 / 2, []⟩], w)
  | .router _ _ => (.ok { decisionId := "rd_1", nextWorkflow := "rca", createdAt := 0 }, w)
  | .world o => serve Env.demo .postgres w o

theorem links_well_formed_slow :
    (∀ stored, ⟨.world (.write stored), ()⟩
        ∈ (Flow.runDecisionLoopRoute Settings.demo false slowIncident).trace repeating {} →
          WellLinked stored.findings) ↔
    ∀ asked hypotheses, ⟨.rca asked, .ok hypotheses⟩
        ∈ (Flow.runDecisionLoopRoute Settings.demo false slowIncident).trace repeating {} →
          Linkable asked hypotheses :=
  links_well_formed_iff repeating Settings.demo false slowIncident rfl {}

/-- A record is stored two links of which have one id. -/
def FlowOp.collides : FlowOp → Bool
  | .world (.write r) => !decide (r.hypothesisLinks.map HypothesisLink.hypothesisId).Nodup
  | _ => false

/-- The second analysis takes the id of the first. -/
theorem repeated_analysis_collides :
    ¬ ∀ stored, ⟨.world (.write stored), ()⟩
        ∈ (Flow.runDecisionLoopRoute Settings.demo false slowIncident).trace repeating {} →
          WellLinked stored.findings := by
  intro h
  have hcollides : ∃ e ∈ (Flow.runDecisionLoopRoute Settings.demo false slowIncident).trace
      repeating {}, e.1.collides = true := by
    decide +kernel
  obtain ⟨⟨o, a⟩, he, hcollides⟩ := hcollides
  rcases o with _ | _ | _ | _ | _ | _ | o
  case world =>
    cases o with
    | write stored =>
      have hnodup : (stored.hypothesisLinks.map HypothesisLink.hypothesisId).Nodup :=
        (h stored he).nodup
      simp [FlowOp.collides, hnodup] at hcollides
    | _ => cases hcollides
  all_goals cases hcollides

end IncidentPlatform
