import IncidentPlatform.Interaction.Pool

/-!
# Two conditions on one run

That everything a program writes is right can depend on what it was answered before. The statement
is then an equivalence: the writes of a run are right exactly if the answers are good. Neither side
can be checked operation by operation against the other, since a bad answer shows only at a later
write.

A *monitor* follows both conditions along a run, with a phase that they may depend on. `Agrees` is
the judgement on programs that makes them equivalent (`Agrees.along_iff`). A program that agrees
stays fine on both sides, or has failed on both by the time it ends. `Fails` is what is left to show
after a bad answer: that the writes fail as well.
-/

namespace Interaction

universe u v w x y

variable {Op : Type u} {Ans : Op → Type v} {ε : Type w} {α β : Type x} {ν : Type y}

/-- Two conditions on operations and their answers, and the phase they depend on. -/
structure Monitor (Op : Type u) (Ans : Op → Type v) (ν : Type y) where
  left : ν → (o : Op) → Ans o → Prop
  right : ν → (o : Op) → Ans o → Prop
  next : ν → (o : Op) → Ans o → ν

/-- The phase, and whether the conditions have held so far. -/
structure Verdict (ν : Type y) where
  phase : ν
  left : Prop
  right : Prop

/-- Neither condition has held. -/
def Verdict.Failed (v : Verdict ν) : Prop := ¬ v.left ∧ ¬ v.right

/-- Both conditions have held, and the run ended as `R` says, or neither has held. -/
def Settled (R : α → ν → Prop) : Except ε α → Verdict ν → Prop
  | .ok a, v => v.left ∧ v.right ∧ R a v.phase ∨ v.Failed
  | .error _, v => v.left ∧ v.right ∨ v.Failed

/-- A condition along a list of events, starting in phase `n`. -/
def Along (next : ν → (o : Op) → Ans o → ν) (P : ν → (o : Op) → Ans o → Prop) :
    ν → List (Prog.Event Op Ans) → Prop
  | _, [] => True
  | n, e :: events => P n e.1 e.2 ∧ Along next P (next n e.1 e.2) events

/-- Without a phase a condition is one on every event. -/
theorem along_iff_forall {next : ν → (o : Op) → Ans o → ν} {P : (o : Op) → Ans o → Prop}
    (events : List (Prog.Event Op Ans)) :
    ∀ n, Along next (fun _ ↦ P) n events ↔ ∀ e ∈ events, P e.1 e.2 := by
  induction events with
  | nil => simp [Along]
  | cons e events ih =>
    intro n
    rw [List.forall_mem_cons]
    exact and_congr_right fun _ ↦ ih _

theorem along_and {next : ν → (o : Op) → Ans o → ν} {P Q : ν → (o : Op) → Ans o → Prop}
    (events : List (Prog.Event Op Ans)) : ∀ n,
    Along next (fun n o a ↦ P n o a ∧ Q n o a) n events
      ↔ Along next P n events ∧ Along next Q n events := by
  induction events with
  | nil => exact fun _ ↦ (and_iff_left trivial).symm
  | cons e events ih => exact fun n ↦ (and_congr_right fun _ ↦ ih _).trans and_and_and_comm

/-- The events after the first that `hit` finds. -/
def after (hit : (o : Op) → Ans o → Bool) (events : List (Prog.Event Op Ans)) :
    List (Prog.Event Op Ans) :=
  (events.dropWhile fun e ↦ !hit e.1 e.2).tail

/-- The phase can be whether there has been a hit. -/
theorem along_after {hit : (o : Op) → Ans o → Bool} {P : Bool → (o : Op) → Ans o → Prop}
    (hbefore : ∀ o a, P false o a) (events : List (Prog.Event Op Ans)) :
    Along (fun seen o a ↦ seen || hit o a) P false events
      ↔ ∀ e ∈ after hit events, P true e.1 e.2 := by
  have hseen : ∀ events : List (Prog.Event Op Ans),
      Along (fun seen o a ↦ seen || hit o a) P true events ↔ ∀ e ∈ events, P true e.1 e.2 := by
    intro events
    induction events with
    | nil => simp [Along]
    | cons e events ih =>
      rw [List.forall_mem_cons, ← ih]
      exact Iff.rfl
  induction events with
  | nil => simp [Along, after]
  | cons e events ih =>
    refine (and_iff_right (hbefore e.1 e.2)).trans ?_
    dsimp only
    rw [Bool.false_or]
    by_cases he : hit e.1 e.2 = true
    · rw [he, hseen, after, List.dropWhile_cons_of_neg (by simp [he]), List.tail_cons]
    · rw [eq_false_of_ne_true he]
      refine ih.trans ?_
      rw [after, after, List.dropWhile_cons_of_pos (by simp [he])]

namespace Monitor

variable (M : Monitor Op Ans ν)

/-- The contract that asks for nothing and keeps the verdict. -/
def contract : Contract Op Ans (Verdict ν) where
  guar _ _ := True
  rely _ _ _ := True
  next v o a := ⟨M.next v.phase o a, v.left ∧ M.left v.phase o a, v.right ∧ M.right v.phase o a⟩

theorem contract_call {Q : Except ε α → Verdict ν → Prop} {o : Op} {k : Ans o → Prog Op Ans ε α}
    {v : Verdict ν} : (Prog.call o k).Meets M.contract Q v ↔
      ∀ a, (k a).Meets M.contract Q (M.contract.next v o a) :=
  ⟨fun h a ↦ h.2 a trivial, fun h ↦ Prog.Meets.call trivial (fun _ _ ↦ id) fun a _ ↦ h a⟩

end Monitor

namespace Prog

variable {M : Monitor Op Ans ν}

/-- From phase `n` on, `p` stays fine on both sides and ends as `R` says, or it fails on both. -/
def Agrees (M : Monitor Op Ans ν) (n : ν) (R : α → ν → Prop) (p : Prog Op Ans ε α) : Prop :=
  p.Meets M.contract (Settled R) ⟨n, True, True⟩

/-- The right side has failed, and the left side will. -/
def Fails (M : Monitor Op Ans ν) (n : ν) (p : Prog Op Ans ε α) : Prop :=
  p.Meets M.contract (fun _ v ↦ v.Failed) ⟨n, True, False⟩

/-- What has failed does not recover. -/
theorem failed_meets (p : Prog Op Ans ε α) : ∀ {v : Verdict ν}, v.Failed →
    p.Meets M.contract (fun _ v ↦ v.Failed) v := by
  induction p with
  | ret a => exact fun h ↦ h
  | raise e => exact fun h ↦ h
  | call o k ih =>
    exact fun h ↦ M.contract_call.mpr fun a ↦ ih a ⟨fun hl ↦ h.1 hl.1, fun hr ↦ h.2 hr.1⟩

theorem Fails.bind {n : ν} {p : Prog Op Ans ε α} {f : α → Prog Op Ans ε β} (h : p.Fails M n) :
    (p.bind f).Fails M n :=
  Meets.bind h (fun a _ hfailed ↦ failed_meets (f a) hfailed) fun _ _ hfailed ↦ hfailed

/-- What does not touch either condition puts the failure off. -/
theorem Fails.of_issues_bind {n : ν} {R : α → Prop} {p : Prog Op Ans ε α}
    {f : α → Prog Op Ans ε β}
    (hp : p.Issues fun o ↦ ∀ a, M.left n o a ∧ M.right n o a ∧ M.next n o a = n)
    (htotal : p.Total) (hR : p.Yields R) (hf : ∀ a, R a → (f a).Fails M n) :
    (p.bind f).Fails M n := by
  induction p with
  | ret a => exact hf a hR
  | raise e => exact htotal.elim
  | call o k ih =>
    refine M.contract_call.mpr fun a ↦ ?_
    obtain ⟨hleft, -, hnext⟩ := hp.1 a
    have hv : M.contract.next ⟨n, True, False⟩ o a = ⟨n, True, False⟩ := by
      simp [Monitor.contract, hleft, hnext]
    rw [hv]
    exact ih a (hp.2 a) (htotal a) (hR a)

/-- The operation at which the left side fails. -/
theorem Fails.of_left {n : ν} {o : Op} {k : Ans o → Prog Op Ans ε α} (h : ∀ a, ¬ M.left n o a) :
    (Prog.call o k).Fails M n :=
  M.contract_call.mpr fun a ↦ failed_meets (k a) ⟨fun hl ↦ h a hl.2, fun hr ↦ hr.1⟩

namespace Agrees

variable {n : ν} {R S : α → ν → Prop} {T : β → ν → Prop}

theorem ret {a : α} (h : R a n) : (ret a : Prog Op Ans ε α).Agrees M n R :=
  Or.inl ⟨trivial, trivial, h⟩

theorem raise (e : ε) : (raise e : Prog Op Ans ε α).Agrees M n R := Or.inl ⟨trivial, trivial⟩

theorem mono (hRS : ∀ a n, R a n → S a n) {p : Prog Op Ans ε α} (h : p.Agrees M n R) :
    p.Agrees M n S :=
  Meets.mono (fun r v hr ↦ by
    cases r with
    | error e => exact hr
    | ok a => exact hr.imp (fun hfine ↦ ⟨hfine.1, hfine.2.1, hRS _ _ hfine.2.2⟩) id) h

theorem bind {p : Prog Op Ans ε α} {f : α → Prog Op Ans ε β} (hp : p.Agrees M n R)
    (hf : ∀ a n', R a n' → (f a).Agrees M n' T) : (p.bind f).Agrees M n T := by
  refine Meets.bind hp (fun a v ha ↦ ?_) fun _ _ h ↦ h
  rcases ha with ⟨hleft, hright, hR⟩ | hfailed
  · rcases v with ⟨phase, left, right⟩
    obtain rfl : left = True := eq_true hleft
    obtain rfl : right = True := eq_true hright
    exact hf a phase hR
  · refine Meets.mono (fun r _ h ↦ ?_) (failed_meets (f a) hfailed)
    cases r <;> exact Or.inr h

/-- One operation. If its answer is bad, the rest has to fail. -/
theorem call {o : Op} {k : Ans o → Prog Op Ans ε α}
    (hfine : ∀ a, M.right n o a → M.left n o a ∧ (k a).Agrees M (M.next n o a) R)
    (hbad : ∀ a, ¬ M.right n o a → M.left n o a ∧ (k a).Fails M (M.next n o a)) :
    (Prog.call o k).Agrees M n R := by
  refine M.contract_call.mpr fun a ↦ ?_
  by_cases hright : M.right n o a
  · obtain ⟨hleft, hk⟩ := hfine a hright
    have hv : M.contract.next ⟨n, True, True⟩ o a = ⟨M.next n o a, True, True⟩ := by
      simp [Monitor.contract, hleft, hright]
    rw [hv]
    exact hk
  · obtain ⟨hleft, hk⟩ := hbad a hright
    have hv : M.contract.next ⟨n, True, True⟩ o a = ⟨M.next n o a, True, False⟩ := by
      simp [Monitor.contract, hleft, hright]
    rw [hv]
    refine Meets.mono (fun r _ h ↦ ?_) hk
    cases r <;> exact Or.inr h

/-- An operation that both conditions allow, and that does not move the phase. -/
theorem quiet {o : Op} {k : Ans o → Prog Op Ans ε α} (hleft : ∀ a, M.left n o a)
    (hright : ∀ a, M.right n o a) (hnext : ∀ a, M.next n o a = n)
    (hk : ∀ a, (k a).Agrees M n R) : (Prog.call o k).Agrees M n R :=
  call (fun a _ ↦ ⟨hleft a, (hnext a).symm ▸ hk a⟩) fun a h ↦ absurd (hright a) h

/-- A program of such operations. -/
theorem of_issues {p : Prog Op Ans ε α} {R : α → Prop}
    (hp : p.Issues fun o ↦ ∀ a, M.left n o a ∧ M.right n o a ∧ M.next n o a = n)
    (hR : p.Yields R) : p.Agrees M n fun a n' ↦ R a ∧ n' = n := by
  induction p with
  | ret a => exact ret ⟨hR, rfl⟩
  | raise e => exact raise e
  | call o k ih =>
    exact quiet (fun a ↦ (hp.1 a).1) (fun a ↦ (hp.1 a).2.1) (fun a ↦ (hp.1 a).2.2)
      fun a ↦ ih a (hp.2 a) (hR a)

/-- Where the left side cannot fail, `R` holds of all results. -/
theorem yields {R : α → Prop} (hleft : ∀ n o a, M.left n o a) {p : Prog Op Ans ε α}
    (h : p.Agrees M n fun a _ ↦ R a) : p.Yields R := by
  have hverdict : ∀ (p : Prog Op Ans ε α) (v : Verdict ν), v.left →
      p.Meets M.contract (Settled fun a _ ↦ R a) v → p.Yields R := by
    intro p
    induction p with
    | ret a => exact fun v hv h ↦ (h.resolve_right fun hfailed ↦ hfailed.1 hv).2.2
    | raise e => exact fun _ _ _ ↦ trivial
    | call o k ih =>
      intro v hv h a
      have hnext : (M.contract.next v o a).left := ⟨hv, hleft v.phase o a⟩
      exact ih a _ hnext (M.contract_call.mp h a)
  exact hverdict p _ trivial h

end Agrees

/-! ## Runs -/

section

variable {σ : Type*} (serve : σ → (o : Op) → Ans o × σ)

theorem ghost_left (p : Prog Op Ans ε α) : ∀ (s : σ) (v : Verdict ν),
    (p.ghost serve M.contract.next s v).left
      ↔ v.left ∧ Along M.next M.left v.phase (p.trace serve s) := by
  induction p with
  | ret a => exact fun s v ↦ (and_iff_left trivial).symm
  | raise e => exact fun s v ↦ (and_iff_left trivial).symm
  | call o k ih => exact fun s v ↦ (ih _ _ _).trans and_assoc

theorem ghost_right (p : Prog Op Ans ε α) : ∀ (s : σ) (v : Verdict ν),
    (p.ghost serve M.contract.next s v).right
      ↔ v.right ∧ Along M.next M.right v.phase (p.trace serve s) := by
  induction p with
  | ret a => exact fun s v ↦ (and_iff_left trivial).symm
  | raise e => exact fun s v ↦ (and_iff_left trivial).symm
  | call o k ih => exact fun s v ↦ (ih _ _ _).trans and_assoc

/-- **The rule.** In every run of a program that agrees, one condition holds along the run exactly
if the other does. -/
theorem Agrees.along_iff {n : ν} {R : α → ν → Prop} {p : Prog Op Ans ε α} (h : p.Agrees M n R)
    (s : σ) :
    Along M.next M.left n (p.trace serve s) ↔ Along M.next M.right n (p.trace serve s) := by
  have hanswers : ∀ s v o, True → M.contract.guar v o →
      M.contract.rely v o (serve s o).1 ∧ True := fun _ _ _ _ _ ↦ ⟨trivial, trivial⟩
  have hend := (Meets.run (K := fun _ _ ↦ True) (s := s) hanswers h trivial).2
  have hleft := ghost_left (M := M) serve p s ⟨n, True, True⟩
  have hright := ghost_right (M := M) serve p s ⟨n, True, True⟩
  rw [true_and] at hleft hright
  rw [← hleft, ← hright]
  rcases hrun : (p.run serve s).1 with e | a <;> rw [hrun] at hend
  · rcases hend with ⟨hl, hr⟩ | ⟨hl, hr⟩
    · exact iff_of_true hl hr
    · exact iff_of_false hl hr
  · rcases hend with ⟨hl, hr, -⟩ | ⟨hl, hr⟩
    · exact iff_of_true hl hr
    · exact iff_of_false hl hr

end

end Prog

end Interaction
