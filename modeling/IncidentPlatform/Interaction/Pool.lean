import IncidentPlatform.Interaction.Program
import Mathlib.Logic.Function.Basic

/-!
# Contracts, and pools of programs over one service

A *contract* says what a program promises whenever it issues an operation (`guar`) and what it may
assume of the answer (`rely`). Both may depend on a ghost state that `next` updates along the run,
so a contract can speak about what the program did before. `Prog.Meets` is the corresponding
weakest precondition; it is a property of the program alone, since every answer the contract
allows is considered. A contract can also name pairs of answers that must make no difference to
the program (`alike`). That is what `Meets.lockstep` needs to compare two services that do not
always answer the same.

That is what makes it survive concurrency. A *pool* is a family of threads over one shared state,
any schedule may interleave their operations, and a thread that meets its contract keeps meeting
it while the others run. `Pool.run_invariant` turns a one-operation argument into an invariant of
every interleaving; the schedule may be restricted by a side condition on its steps, `Admits`.
-/

namespace Interaction

universe u v w x y

variable {Op : Type u} {Ans : Op → Type v} {ε : Type w} {α β : Type x} {μ : Type y}

/-- What a program promises and assumes, operation by operation, along a ghost state. -/
structure Contract (Op : Type u) (Ans : Op → Type v) (μ : Type y) where
  /-- What must hold when the operation is issued. -/
  guar : μ → Op → Prop
  /-- What may be assumed of the answer. -/
  rely : μ → (o : Op) → Ans o → Prop
  /-- The ghost state after the answer. -/
  next : μ → (o : Op) → Ans o → μ
  /-- The second answer leads on as the first one does, if the first one leads on at all. -/
  alike : μ → (o : Op) → Ans o → Ans o → Prop := fun _ _ _ _ ↦ False

namespace Prog

/-- Whatever the answers, `p` leaves the ghost state as it is. -/
def Keeps (next : μ → (o : Op) → Ans o → μ) : Prog Op Ans ε α → μ → Prop
  | ret _, _ => True
  | raise _, _ => True
  | call o k, m => ∀ a, next m o a = m ∧ (k a).Keeps next m

/-- Whatever the answers, `p` raises, and leaves the ghost state as it is. -/
def GivesUp (next : μ → (o : Op) → Ans o → μ) : Prog Op Ans ε α → μ → Prop
  | ret _, _ => False
  | raise _, _ => True
  | call o k, m => ∀ a, next m o a = m ∧ (k a).GivesUp next m

/-- `p` keeps the contract from ghost state `m` on, and ends as `Q` says. -/
def Meets (C : Contract Op Ans μ) (Q : Except ε α → μ → Prop) : Prog Op Ans ε α → μ → Prop
  | ret a, m => Q (.ok a) m
  | raise e, m => Q (.error e) m
  | call o k, m => (C.guar m o ∧
      ∀ a b, C.alike m o a b → k a = k b ∨ (k a).GivesUp C.next (C.next m o a)) ∧
    ∀ a, C.rely m o a → (k a).Meets C Q (C.next m o a)

variable {next : μ → (o : Op) → Ans o → μ} {C : Contract Op Ans μ}

theorem GivesUp.bind {p : Prog Op Ans ε α} {f : α → Prog Op Ans ε β} {m : μ}
    (h : p.GivesUp next m) : (p.bind f).GivesUp next m := by
  induction p with
  | ret a => exact h.elim
  | raise e => trivial
  | call o k ih => exact fun a ↦ ⟨(h a).1, ih a (h a).2⟩

theorem Keeps.givesUp_bind {p : Prog Op Ans ε α} {f : α → Prog Op Ans ε β} {m : μ}
    (h : p.Keeps next m) (hf : ∀ a, (f a).GivesUp next m) : (p.bind f).GivesUp next m := by
  induction p with
  | ret a => exact hf a
  | raise e => trivial
  | call o k ih => exact fun a ↦ ⟨(h a).1, ih a (h a).2⟩

theorem GivesUp.cleanup {fin : Prog Op Ans ε PUnit.{x + 1}} {p : Prog Op Ans ε α} {m : μ}
    (hfin : fin.Keeps next m) (h : p.GivesUp next m) : (cleanup fin p).GivesUp next m := by
  induction p with
  | ret a => exact h.elim
  | raise e => exact hfin.givesUp_bind fun _ ↦ trivial
  | call o k ih => exact fun a ↦ ⟨(h a).1, ih a (h a).2⟩

theorem Meets.mono {Q R : Except ε α → μ → Prop} (hQR : ∀ r m, Q r m → R r m)
    {p : Prog Op Ans ε α} : ∀ {m : μ}, p.Meets C Q m → p.Meets C R m := by
  induction p with
  | ret a => exact fun h ↦ hQR _ _ h
  | raise e => exact fun h ↦ hQR _ _ h
  | call o k ih => exact fun h ↦ ⟨h.1, fun a ha ↦ ih a (h.2 a ha)⟩

/-- A program that keeps a contract keeps every weaker one: one that promises less and assumes
more. -/
theorem Meets.weaken {Q : Except ε α → μ → Prop} {p : Prog Op Ans ε α} {m : μ}
    (h : p.Meets C Q m) (D : Contract Op Ans μ) (hguar : ∀ m o, C.guar m o → D.guar m o)
    (halike : ∀ m o a b, D.alike m o a b → C.alike m o a b)
    (hrely : ∀ m o a, D.rely m o a → C.rely m o a)
    (hnext : C.next = D.next) : p.Meets D Q m := by
  induction p generalizing m with
  | ret a => exact h
  | raise e => exact h
  | call o k ih =>
    refine ⟨⟨hguar _ _ h.1.1, fun a b hab ↦ ?_⟩, fun a ha ↦ ?_⟩
    · rw [← hnext]
      exact h.1.2 a b (halike _ _ _ _ hab)
    · rw [← hnext]
      exact ih a (h.2 a (hrely _ _ _ ha))

/-- Sequencing: the second part takes over in the ghost state the first one ends in. -/
theorem Meets.bind {Q : Except ε α → μ → Prop} {R : Except ε β → μ → Prop}
    {p : Prog Op Ans ε α} {f : α → Prog Op Ans ε β} :
    ∀ {m : μ}, p.Meets C Q m → (∀ a m', Q (.ok a) m' → (f a).Meets C R m') →
      (∀ e m', Q (.error e) m' → R (.error e) m') → (p.bind f).Meets C R m := by
  induction p with
  | ret a => exact fun h hf _ ↦ hf a _ h
  | raise e => exact fun h _ he ↦ he e _ h
  | call o k ih =>
    exact fun h hf he ↦ ⟨⟨h.1.1, fun a b hab ↦ (h.1.2 a b hab).imp (congrArg (Prog.bind · f))
      GivesUp.bind⟩, fun a ha ↦ ih a (h.2 a ha) hf he⟩

/-- One operation, and what follows it. -/
theorem Meets.call {Q : Except ε α → μ → Prop} {o : Op} {f : Ans o → Prog Op Ans ε α} {m : μ}
    (hguar : C.guar m o) (halike : ∀ a b, ¬ C.alike m o a b)
    (hf : ∀ a, C.rely m o a → (f a).Meets C Q (C.next m o a)) : (Prog.call o f).Meets C Q m :=
  ⟨⟨hguar, fun a b hab ↦ absurd hab (halike a b)⟩, hf⟩

/-- Sequencing, when nothing is asked of the end. -/
theorem Meets.bind_true {p : Prog Op Ans ε α} {f : α → Prog Op Ans ε β} {m : μ}
    (hp : p.Meets C (fun _ _ ↦ True) m) (hf : ∀ a m', (f a).Meets C (fun _ _ ↦ True) m') :
    (p.bind f).Meets C (fun _ _ ↦ True) m :=
  hp.bind (fun a m' _ ↦ hf a m') fun _ _ _ ↦ trivial

/-- `R` of the returned value; a program that raises may end anywhere. -/
def Returning (R : α → μ → Prop) : Except ε α → μ → Prop
  | .ok a, m => R a m
  | .error _, _ => True

theorem Meets.returning_mono {R S : α → μ → Prop} (hRS : ∀ a m, R a m → S a m)
    {p : Prog Op Ans ε α} {m : μ} (h : p.Meets C (Returning R) m) : p.Meets C (Returning S) m :=
  Meets.mono (fun r m' hr ↦ by
    cases r
    · trivial
    · exact hRS _ _ hr) h

theorem Meets.returning_bind {R : α → μ → Prop} {S : β → μ → Prop} {p : Prog Op Ans ε α}
    {f : α → Prog Op Ans ε β} {m : μ} (hp : p.Meets C (Returning R) m)
    (hf : ∀ a m', R a m' → (f a).Meets C (Returning S) m') :
    (p.bind f).Meets C (Returning S) m :=
  hp.bind hf fun _ _ h ↦ h

/-- What a program returns in any case, it returns under a contract. -/
theorem Meets.yielding {Q : Except ε α → μ → Prop} {R : α → Prop} {p : Prog Op Ans ε α} :
    ∀ {m : μ}, p.Meets C Q m → p.Yields R →
      p.Meets C (fun r m' ↦ Q r m' ∧ ∀ a, r = .ok a → R a) m := by
  induction p with
  | ret a =>
    intro m h hR
    refine ⟨h, fun b hb ↦ ?_⟩
    cases hb
    exact hR
  | raise e => exact fun h _ ↦ ⟨h, fun _ hb ↦ nomatch hb⟩
  | call o k ih => exact fun h hR ↦ ⟨h.1, fun a ha ↦ ih a (h.2 a ha) (hR a)⟩

/-- `try … finally`: the last part takes over however the first one ended. Where the contract names
answers that are alike, the last part must leave the ghost state as it is. -/
theorem Meets.cleanup {Q R : Except ε α → μ → Prop} {fin : Prog Op Ans ε PUnit.{x + 1}}
    (hkeeps : (∀ m o a b, ¬ C.alike m o a b) ∨ ∀ m, fin.Keeps C.next m)
    (hfin : ∀ r m, Q r m → fin.Meets C (fun r' m' ↦ match r' with
      | .ok _ => R r m'
      | .error e => R (.error e) m') m)
    {p : Prog Op Ans ε α} : ∀ {m : μ}, p.Meets C Q m → (cleanup fin p).Meets C R m := by
  induction p with
  | ret a => exact fun h ↦ (hfin _ _ h).bind (fun _ _ h' ↦ h') fun _ _ h' ↦ h'
  | raise e => exact fun h ↦ (hfin _ _ h).bind (fun _ _ h' ↦ h') fun _ _ h' ↦ h'
  | call o k ih =>
    intro m h
    refine ⟨⟨h.1.1, fun a b hab ↦ ?_⟩, fun a ha ↦ ih a (h.2 a ha)⟩
    rcases hkeeps with hnone | hkeeps
    · exact absurd hab (hnone m o a b)
    · exact (h.1.2 a b hab).imp (congrArg (Prog.cleanup fin)) (GivesUp.cleanup (hkeeps _))

/-- What the contract adds to a program that issues nothing it restricts, and nothing that moves
the ghost state. -/
theorem Meets.of_issues {P : Op → Prop} {m : μ} (hP : ∀ o, P o → C.guar m o)
    (halike : ∀ o a b, P o → ¬ C.alike m o a b) (hnext : ∀ o a, P o → C.next m o a = m)
    {p : Prog Op Ans ε α} (h : p.Issues P) : p.Meets C (fun _ m' ↦ m' = m) m := by
  induction p with
  | ret a => rfl
  | raise e => rfl
  | call o k ih =>
    refine ⟨⟨hP o h.1, fun a b hab ↦ absurd hab (halike o a b h.1)⟩, fun a _ ↦ ?_⟩
    rw [hnext o a h.1]
    exact ih a (h.2 a)

theorem Meets.returning_yielding {R : α → μ → Prop} {S : α → Prop} {p : Prog Op Ans ε α} {m : μ}
    (h : p.Meets C (Returning R) m) (hS : p.Yields S) :
    p.Meets C (Returning fun a m' ↦ R a m' ∧ S a) m := by
  refine Meets.mono (fun r m' hr ↦ ?_) (h.yielding hS)
  cases r with
  | ok a => exact ⟨hr.1, hr.2 a rfl⟩
  | error e => trivial

/-- A part that issues nothing the contract restricts, and nothing that moves the ghost state. -/
theorem Meets.quiet {P : Op → Prop} {R : α → Prop} {m : μ} (hP : ∀ o, P o → C.guar m o)
    (halike : ∀ o a b, P o → ¬ C.alike m o a b) (hnext : ∀ o a, P o → C.next m o a = m)
    {p : Prog Op Ans ε α} (h : p.Issues P) (hR : p.Yields R) :
    p.Meets C (Returning fun a m' ↦ m' = m ∧ R a) m := by
  refine Meets.returning_yielding (Meets.mono (fun r m' hr ↦ ?_)
    (Meets.of_issues hP halike hnext h)) hR
  cases r with
  | ok a => exact hr
  | error e => trivial

/-- Sequencing, after a part that leaves the ghost state as it is. -/
theorem Meets.quiet_bind {R : α → Prop} {S : β → μ → Prop} {p : Prog Op Ans ε α}
    {f : α → Prog Op Ans ε β} {m : μ}
    (hp : p.Meets C (Returning fun a m' ↦ m' = m ∧ R a) m)
    (hf : ∀ a, R a → (f a).Meets C (Returning S) m) : (p.bind f).Meets C (Returning S) m :=
  hp.returning_bind fun a m' h ↦ by
    rw [h.1]
    exact hf a h.2

/-- `try … finally`, when nothing is asked of the end. -/
theorem Meets.cleanup_true {fin : Prog Op Ans ε PUnit.{x + 1}}
    (halike : ∀ m o a b, ¬ C.alike m o a b)
    (hfin : ∀ m, fin.Meets C (Returning fun _ _ ↦ True) m) {p : Prog Op Ans ε α} {m : μ}
    (h : p.Meets C (Returning fun _ _ ↦ True) m) :
    (Prog.cleanup fin p).Meets C (Returning fun _ _ ↦ True) m := by
  refine Meets.cleanup (Or.inl halike) (fun r m' _ ↦ ?_) h
  refine Meets.mono (fun r' _ _ ↦ ?_) (hfin m')
  cases r' <;> cases r <;> trivial

/-! ### One program alone -/

section Sequential

variable {σ : Type*} {serve : σ → (o : Op) → Ans o × σ} {K : σ → μ → Prop}
  {Q : Except ε α → μ → Prop}

/-- The ghost state a run ends in. -/
def ghost (serve : σ → (o : Op) → Ans o × σ) (next : μ → (o : Op) → Ans o → μ) :
    Prog Op Ans ε α → σ → μ → μ
  | ret _, _, m => m
  | raise _, _, m => m
  | call o k, s, m => (k (serve s o).1).ghost serve next (serve s o).2 (next m o (serve s o).1)

/-- **The rule for one program.** If an operation that keeps the contract preserves `K` and is
answered as the contract relies on, then `K` holds to the end, which is as `Q` says. -/
theorem Meets.run (hstep : ∀ s m o, K s m → C.guar m o →
      C.rely m o (serve s o).1 ∧ K (serve s o).2 (C.next m o (serve s o).1))
    {p : Prog Op Ans ε α} : ∀ {s m}, p.Meets C Q m → K s m →
      K (p.run serve s).2 (p.ghost serve C.next s m) ∧
        Q (p.run serve s).1 (p.ghost serve C.next s m) := by
  induction p with
  | ret a => exact fun hp hK ↦ ⟨hK, hp⟩
  | raise e => exact fun hp hK ↦ ⟨hK, hp⟩
  | call o k ih =>
    intro s m hp hK
    obtain ⟨hrely, hK'⟩ := hstep s m o hK hp.1.1
    exact ih _ (hp.2 _ hrely) hK'

/-- Along the run every operation is issued under `K` and as the contract says. -/
theorem Meets.always (hstep : ∀ s m o, K s m → C.guar m o →
      C.rely m o (serve s o).1 ∧ K (serve s o).2 (C.next m o (serve s o).1))
    {p : Prog Op Ans ε α} : ∀ {s m}, p.Meets C Q m → K s m →
      p.Always serve (fun s o ↦ ∃ m, K s m ∧ C.guar m o) s := by
  induction p with
  | ret a => exact fun _ _ ↦ trivial
  | raise e => exact fun _ _ ↦ trivial
  | call o k ih =>
    intro s m hp hK
    obtain ⟨hrely, hK'⟩ := hstep s m o hK hp.1.1
    exact ⟨⟨m, hK, hp.1.1⟩, ih _ (hp.2 _ hrely) hK'⟩

end Sequential

/-! ### One program on two services -/

section Lockstep

variable {σ τ : Type*} {serve : σ → (o : Op) → Ans o × σ} {serve' : τ → (o : Op) → Ans o × τ}

theorem GivesUp.ghost {p : Prog Op Ans ε α} {m : μ} :
    ∀ {s : σ}, p.GivesUp next m → p.ghost serve next s m = m := by
  induction p with
  | ret a => exact fun h ↦ h.elim
  | raise e => exact fun _ ↦ rfl
  | call o k ih =>
    intro s h
    rw [Prog.ghost, (h _).1]
    exact ih _ (h _).2

/-- **The rule for two services.** Of two runs of a program one leads. If an operation that keeps
the contract preserves `Sim` and is answered the same by both services, or alike, then both runs
end the same. The exception are runs that give up after answers that are only alike, and those end
in a `Lost` ghost state. -/
theorem Meets.lockstep {Sim : σ → τ → μ → Prop} {Lost : μ → Prop} {Q : Except ε α → μ → Prop}
    (hlost : ∀ m o a b, C.alike m o a b → Lost (C.next m o a))
    (hstep : ∀ s t m o, Sim s t m → C.guar m o → C.rely m o (serve s o).1 ∧
      ((serve s o).1 = (serve' t o).1 ∨ C.alike m o (serve s o).1 (serve' t o).1) ∧
      Sim (serve s o).2 (serve' t o).2 (C.next m o (serve s o).1))
    {p : Prog Op Ans ε α} : ∀ {s t m}, p.Meets C Q m → Sim s t m →
      ¬ Lost (p.ghost serve C.next s m) →
      (p.run serve s).1 = (p.run serve' t).1 ∧
        Sim (p.run serve s).2 (p.run serve' t).2 (p.ghost serve C.next s m) := by
  induction p with
  | ret a => exact fun _ hsim _ ↦ ⟨rfl, hsim⟩
  | raise e => exact fun _ hsim _ ↦ ⟨rfl, hsim⟩
  | call o k ih =>
    intro s t m hp hsim hkept
    obtain ⟨hrely, hanswer, hsim'⟩ := hstep s t m o hsim hp.1.1
    have hk : k (serve s o).1 = k (serve' t o).1 := by
      rcases hanswer with hsame | halike
      · rw [hsame]
      · refine (hp.1.2 _ _ halike).resolve_right fun hgives ↦ hkept ?_
        rw [Prog.ghost, hgives.ghost]
        exact hlost _ _ _ _ halike
    rw [run_call, run_call, ← hk]
    exact ih _ (hp.2 _ hrely) hsim' hkept

end Lockstep

end Prog

/-! ## Pools -/

/-- One thread of a pool: the rest of its program and its ghost state. -/
structure Thread (Op : Type u) (Ans : Op → Type v) (ε : Type w) (α : Type x) (μ : Type y) where
  ghost : μ
  prog : Prog Op Ans ε α

/-- A family of threads over a shared state. -/
structure Pool (Op : Type u) (Ans : Op → Type v) (ε : Type w) (α : Type x) (μ : Type y)
    (σ ι : Type*) where
  shared : σ
  thread : ι → Thread Op Ans ε α μ

namespace Pool

variable {σ ι : Type*} [DecidableEq ι]

/-- Thread `i` issues its next operation. A thread that has ended stays as it is. -/
def step (serve : σ → (o : Op) → Ans o × σ) (next : μ → (o : Op) → Ans o → μ)
    (P : Pool Op Ans ε α μ σ ι) (i : ι) : Pool Op Ans ε α μ σ ι :=
  match (P.thread i).prog with
  | .call o k =>
    { shared := (serve P.shared o).2
      thread := Function.update P.thread i
        ⟨next (P.thread i).ghost o (serve P.shared o).1, k (serve P.shared o).1⟩ }
  | _ => P

/-- The pool after a schedule, the list of the threads that move. -/
def run (serve : σ → (o : Op) → Ans o × σ) (next : μ → (o : Op) → Ans o → μ)
    (P : Pool Op Ans ε α μ σ ι) (schedule : List ι) : Pool Op Ans ε α μ σ ι :=
  schedule.foldl (step serve next) P

/-- Every operation the schedule issues satisfies `ok` in the state it is issued in. -/
def Admits (serve : σ → (o : Op) → Ans o × σ) (next : μ → (o : Op) → Ans o → μ)
    (ok : σ → μ → Op → Prop) : Pool Op Ans ε α μ σ ι → List ι → Prop
  | _, [] => True
  | P, i :: schedule =>
    (∀ o k, (P.thread i).prog = .call o k → ok P.shared (P.thread i).ghost o) ∧
      Admits serve next ok (step serve next P i) schedule

variable {serve : σ → (o : Op) → Ans o × σ} {next : μ → (o : Op) → Ans o → μ}

@[simp] theorem run_nil (P : Pool Op Ans ε α μ σ ι) : run serve next P [] = P := rfl

@[simp] theorem run_cons (P : Pool Op Ans ε α μ σ ι) (i : ι) (schedule : List ι) :
    run serve next P (i :: schedule) = run serve next (step serve next P i) schedule := rfl

theorem admits_true (P : Pool Op Ans ε α μ σ ι) (schedule : List ι) :
    Admits serve next (fun _ _ _ ↦ True) P schedule := by
  induction schedule generalizing P with
  | nil => trivial
  | cons i schedule ih => exact ⟨fun _ _ _ ↦ trivial, ih _⟩

/-- What can be evaluated of the next operation can be evaluated along a schedule. -/
instance Admits.decidable {ok : σ → μ → Op → Prop} [∀ s m o, Decidable (ok s m o)] :
    (P : Pool Op Ans ε α μ σ ι) → (schedule : List ι) → Decidable (Admits serve next ok P schedule)
  | _, [] => isTrue trivial
  | P, i :: schedule =>
    have : Decidable (Admits serve next ok (step serve next P i) schedule) :=
      Admits.decidable (step serve next P i) schedule
    have : Decidable (∀ o k, (P.thread i).prog = .call o k → ok P.shared (P.thread i).ghost o) :=
      match (P.thread i).prog with
      | .ret _ => isTrue fun _ _ h ↦ by cases h
      | .raise _ => isTrue fun _ _ h ↦ by cases h
      | .call o _ => decidable_of_iff (ok P.shared (P.thread i).ghost o)
          ⟨fun hok _ _ h ↦ (Prog.call.inj h).1 ▸ hok, fun hok ↦ hok o _ rfl⟩
    inferInstanceAs (Decidable (_ ∧ _))

/-- Before every step of the schedule `R` holds, of the pool and the thread that is to move. -/
def Throughout (serve : σ → (o : Op) → Ans o × σ) (next : μ → (o : Op) → Ans o → μ)
    (R : Pool Op Ans ε α μ σ ι → ι → Prop) : Pool Op Ans ε α μ σ ι → List ι → Prop
  | _, [] => True
  | P, i :: schedule => R P i ∧ Throughout serve next R (step serve next P i) schedule

/-- What an invariant gives before every step, if the schedule is such that it stays one. -/
theorem Throughout.imp {J : Pool Op Ans ε α μ σ ι → Prop} {R S : Pool Op Ans ε α μ σ ι → ι → Prop}
    (hstep : ∀ P i, J P → R P i → S P i ∧ J (step serve next P i)) {schedule : List ι} :
    ∀ {P}, J P → Throughout serve next R P schedule → Throughout serve next S P schedule := by
  induction schedule with
  | nil => exact fun _ _ ↦ trivial
  | cons i schedule ih =>
    intro P hJ hR
    obtain ⟨hS, hJ'⟩ := hstep P i hJ hR.1
    exact ⟨hS, ih hJ' hR.2⟩

/-- What an invariant of every step gives before every step. -/
theorem Throughout.of_invariant {J : Pool Op Ans ε α μ σ ι → Prop}
    {S : Pool Op Ans ε α μ σ ι → ι → Prop} (hS : ∀ P i, J P → S P i)
    (hstep : ∀ P i, J P → J (step serve next P i)) {schedule : List ι} :
    ∀ {P}, J P → Throughout serve next S P schedule := by
  induction schedule with
  | nil => exact fun _ ↦ trivial
  | cons i schedule ih => exact fun hJ ↦ ⟨hS _ i hJ, ih (hstep _ i hJ)⟩

/-- A step is either idle or one operation of one thread. -/
theorem step_cases (serve : σ → (o : Op) → Ans o × σ) (next : μ → (o : Op) → Ans o → μ)
    (P : Pool Op Ans ε α μ σ ι) (i : ι) :
    step serve next P i = P ∨ ∃ o k, (P.thread i).prog = .call o k ∧
      step serve next P i =
        { shared := (serve P.shared o).2
          thread := Function.update P.thread i
            ⟨next (P.thread i).ghost o (serve P.shared o).1, k (serve P.shared o).1⟩ } := by
  rcases hp : (P.thread i).prog with a | e | ⟨o, k⟩
  · exact Or.inl (by rw [step, hp])
  · exact Or.inl (by rw [step, hp])
  · exact Or.inr ⟨o, k, rfl, by rw [step, hp]⟩

/-- **The rule for one step.** `K` relates the shared state to all ghost states. If the next
operation of thread `i` preserves `K` and is answered as the contract relies on, then `K` holds
after the step, and every thread still meets its contract. -/
theorem step_meets (Q : ι → Except ε α → μ → Prop) (C : Contract Op Ans μ)
    (K : σ → (ι → μ) → Prop) {P : Pool Op Ans ε α μ σ ι} {i : ι}
    (hstep : ∀ o k, (P.thread i).prog = .call o k → C.guar (P.thread i).ghost o →
      C.rely (P.thread i).ghost o (serve P.shared o).1 ∧
        K (serve P.shared o).2 (Function.update (fun j ↦ (P.thread j).ghost) i
          (C.next (P.thread i).ghost o (serve P.shared o).1)))
    (hK : K P.shared fun j ↦ (P.thread j).ghost)
    (hM : ∀ j, (P.thread j).prog.Meets C (Q j) (P.thread j).ghost) :
    K (step serve C.next P i).shared (fun j ↦ ((step serve C.next P i).thread j).ghost) ∧
      ∀ j, ((step serve C.next P i).thread j).prog.Meets C (Q j)
        ((step serve C.next P i).thread j).ghost := by
  rcases step_cases serve C.next P i with hidle | ⟨o, k, hprog, hP⟩
  -- The thread has ended, and its turn changes nothing.
  · rw [hidle]
    exact ⟨hK, hM⟩
  · have hMi := hM i
    rw [hprog] at hMi
    obtain ⟨⟨hguar, -⟩, hk⟩ := hMi
    obtain ⟨hrely, hK'⟩ := hstep o k hprog hguar
    rw [hP]
    constructor
    -- Updating a thread updates its ghost state, and leaves the others' as they are.
    · have hghost : (fun j ↦ (Function.update P.thread i
            ⟨C.next (P.thread i).ghost o (serve P.shared o).1, k (serve P.shared o).1⟩ j).ghost)
          = Function.update (fun j ↦ (P.thread j).ghost) i
              (C.next (P.thread i).ghost o (serve P.shared o).1) := by
        funext j
        by_cases hj : j = i
        · subst hj
          rw [Function.update_self, Function.update_self]
        · rw [Function.update_of_ne hj, Function.update_of_ne hj]
      exact hghost ▸ hK'
    · intro j
      by_cases hj : j = i
      · subst hj
        simpa only [Function.update_self] using hk _ hrely
      · simpa only [Function.update_of_ne hj] using hM j

/-- **The rule for interleavings.** If every operation that keeps the contract, and meets the
schedule's side condition, preserves `K` and is answered as the contract relies on, then `K` holds
after every schedule, and every thread still meets its contract, up to the end it is to meet. -/
theorem run_meets (Q : ι → Except ε α → μ → Prop) (C : Contract Op Ans μ)
    (K : σ → (ι → μ) → Prop) (ok : σ → μ → Op → Prop)
    (hstep : ∀ s g i o, K s g → C.guar (g i) o → ok s (g i) o →
      C.rely (g i) o (serve s o).1 ∧
        K (serve s o).2 (Function.update g i (C.next (g i) o (serve s o).1)))
    (schedule : List ι) : ∀ (P : Pool Op Ans ε α μ σ ι),
      K P.shared (fun i ↦ (P.thread i).ghost) →
      (∀ i, (P.thread i).prog.Meets C (Q i) (P.thread i).ghost) →
      Admits serve C.next ok P schedule →
      K (run serve C.next P schedule).shared
          (fun i ↦ ((run serve C.next P schedule).thread i).ghost) ∧
        ∀ i, ((run serve C.next P schedule).thread i).prog.Meets C (Q i)
          ((run serve C.next P schedule).thread i).ghost := by
  induction schedule with
  | nil => exact fun P hK hM _ ↦ ⟨hK, hM⟩
  | cons i schedule ih =>
    intro P hK hM hA
    rw [run_cons]
    obtain ⟨hK', hM'⟩ := step_meets Q C K
      (fun o k hprog hguar ↦ hstep _ _ i o hK hguar (hA.1 o k hprog)) hK hM
    exact ih _ hK' hM' hA.2

/-- The rule for threads of which nothing is asked at the end. -/
theorem run_invariant (C : Contract Op Ans μ) (K : σ → (ι → μ) → Prop) (ok : σ → μ → Op → Prop)
    (hstep : ∀ s g i o, K s g → C.guar (g i) o → ok s (g i) o →
      C.rely (g i) o (serve s o).1 ∧
        K (serve s o).2 (Function.update g i (C.next (g i) o (serve s o).1)))
    (schedule : List ι) (P : Pool Op Ans ε α μ σ ι) (hK : K P.shared fun i ↦ (P.thread i).ghost)
    (hM : ∀ i, (P.thread i).prog.Meets C (fun _ _ ↦ True) (P.thread i).ghost)
    (hA : Admits serve C.next ok P schedule) :
    K (run serve C.next P schedule).shared
        (fun i ↦ ((run serve C.next P schedule).thread i).ghost) ∧
      ∀ i, ((run serve C.next P schedule).thread i).prog.Meets C (fun _ _ ↦ True)
        ((run serve C.next P schedule).thread i).ghost :=
  run_meets (fun _ _ _ ↦ True) C K ok hstep schedule P hK hM hA

end Pool

end Interaction
