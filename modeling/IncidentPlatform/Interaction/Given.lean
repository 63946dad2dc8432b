import IncidentPlatform.Interaction.Pool
import IncidentPlatform.Interaction.Translate

/-!
# Programs whose answers are known

`Issues` and `Yields` quantify over all answers. Often the outside promises more, that a query is
answered from a fixed table, or that an answer stays within bounds. `Given A P R p` says what `p`
does as long as every answer satisfies `A`: it issues operations with `P` only, and returns values
with `R` only. `Given.run` and `Given.leaves` bring this to a service that keeps the promise, for a
run that ends and for one that is interrupted.

Where every operation has one answer, a program is as good as an expression: `value` is what it ends
with and `issued` are the operations on the way, and both are computed along sequencing. And a
program may return against one service and raise against another, which `Returns` tells apart.
-/

namespace Interaction

universe u v w x

namespace Prog

variable {Op : Type u} {Ans : Op → Type v} {ε : Type w} {α β : Type x} {σ : Type*}

/-- As long as the answers satisfy `A`, the operations of `p` satisfy `P` and its result `R`. -/
def Given (A : (o : Op) → Ans o → Prop) (P : Op → Prop) (R : α → Prop) :
    Prog Op Ans ε α → Prop
  | ret a => R a
  | raise _ => True
  | call o k => P o ∧ ∀ a, A o a → (k a).Given A P R

/-- The state that an interruption after `n` operations leaves behind. -/
def leaves (serve : σ → (o : Op) → Ans o × σ) : ℕ → Prog Op Ans ε α → σ → σ
  | n + 1, call o k, s => (k (serve s o).1).leaves serve n (serve s o).2
  | _, _, s => s

/-- The answers of a run are those of its service. -/
theorem trace_answers {A : (o : Op) → Ans o → Prop} {serve : σ → (o : Op) → Ans o × σ}
    (hA : ∀ s o, A o (serve s o).1) (p : Prog Op Ans ε α) (s : σ) :
    ∀ e ∈ p.trace serve s, A e.1 e.2 := by
  induction p generalizing s with
  | ret a => simp
  | raise e => simp
  | call o k ih =>
    rw [trace_call, List.forall_mem_cons]
    exact ⟨hA s o, ih _ _⟩

namespace Given

variable {A : (o : Op) → Ans o → Prop} {P : Op → Prop} {R S : α → Prop} {p : Prog Op Ans ε α}

theorem mono (hRS : ∀ a, R a → S a) (h : p.Given A P R) : p.Given A P S := by
  induction p with
  | ret a => exact hRS a h
  | raise e => trivial
  | call o k ih => exact ⟨h.1, fun a ha ↦ ih a (h.2 a ha)⟩

theorem bind {f : α → Prog Op Ans ε β} {T : β → Prop} (hp : p.Given A P R)
    (hf : ∀ a, R a → (f a).Given A P T) : (p.bind f).Given A P T := by
  induction p with
  | ret a => exact hf a hp
  | raise e => trivial
  | call o k ih => exact ⟨hp.1, fun a ha ↦ ih a (hp.2 a ha)⟩

/-- What holds whatever the answers. -/
theorem of_issues (hp : p.Issues P) (hR : p.Yields R) : p.Given A P R := by
  induction p with
  | ret a => exact hR
  | raise e => trivial
  | call o k ih => exact ⟨hp.1, fun a _ ↦ ih a (hp.2 a) (hR a)⟩

theorem of_yields (hR : p.Yields R) : p.Given A (fun _ ↦ True) R := by
  induction p with
  | ret a => exact hR
  | raise e => trivial
  | call o k ih => exact ⟨trivial, fun a _ ↦ ih a (hR a)⟩

theorem and_yields (hp : p.Given A P R) (hS : p.Yields S) : p.Given A P fun a ↦ R a ∧ S a := by
  induction p with
  | ret a => exact ⟨hp, hS⟩
  | raise e => trivial
  | call o k ih => exact ⟨hp.1, fun a ha ↦ ih a (hp.2 a ha) (hS a)⟩

variable {serve : σ → (o : Op) → Ans o × σ} {I : σ → Prop}

/-- A run against a service that keeps the promise. -/
theorem run (hA : ∀ s o, A o (serve s o).1) (hI : ∀ s o, P o → I s → I (serve s o).2)
    (h : p.Given A P R) (s : σ) (hs : I s) :
    I (p.run serve s).2 ∧ ∀ a, (p.run serve s).1 = .ok a → R a := by
  induction p generalizing s with
  | ret a =>
    refine ⟨hs, fun b hb ↦ ?_⟩
    cases hb
    exact h
  | raise e => exact ⟨hs, fun b hb ↦ by cases hb⟩
  | call o k ih => exact ih _ (h.2 _ (hA s o)) _ (hI s o h.1 hs)

/-- A run against a service that keeps the promise as long as an invariant holds. -/
theorem sound (hA : ∀ s o, I s → P o → A o (serve s o).1) (hI : ∀ s o, P o → I s → I (serve s o).2)
    (h : p.Given A P R) (s : σ) (hs : I s) :
    I (p.run serve s).2 ∧ ∀ a, (p.run serve s).1 = .ok a → R a := by
  induction p generalizing s with
  | ret a =>
    refine ⟨hs, fun b hb ↦ ?_⟩
    cases hb
    exact h
  | raise e => exact ⟨hs, fun b hb ↦ by cases hb⟩
  | call o k ih => exact ih _ (h.2 _ (hA s o hs h.1)) _ (hI s o h.1 hs)

/-- A run against any service, as long as it keeps the promise there. -/
theorem trace (h : p.Given A P R) (s : σ) (hA : ∀ e ∈ p.trace serve s, A e.1 e.2) :
    (∀ e ∈ p.trace serve s, P e.1) ∧ ∀ a, (p.run serve s).1 = .ok a → R a := by
  induction p generalizing s with
  | ret a =>
    refine ⟨by simp, fun b hb ↦ ?_⟩
    cases hb
    exact h
  | raise e => exact ⟨by simp, fun b hb ↦ by cases hb⟩
  | call o k ih =>
    rw [trace_call] at hA ⊢
    rw [List.forall_mem_cons] at hA ⊢
    obtain ⟨hanswer, hrest⟩ := hA
    obtain ⟨hissued, hreturned⟩ := ih _ (h.2 _ hanswer) _ hrest
    exact ⟨⟨h.1, hissued⟩, hreturned⟩

/-- An interrupted run. -/
theorem leaves (hA : ∀ s o, A o (serve s o).1) (hI : ∀ s o, P o → I s → I (serve s o).2)
    (h : p.Given A P R) (n : ℕ) (s : σ) (hs : I s) : I (p.leaves serve n s) := by
  induction p generalizing n s with
  | ret a => cases n <;> exact hs
  | raise e => cases n <;> exact hs
  | call o k ih =>
    cases n with
    | zero => exact hs
    | succ n => exact ih _ (h.2 _ (hA s o)) n _ (hI s o h.1 hs)

/-- `try … finally`. -/
theorem cleanup {fin : Prog Op Ans ε PUnit.{x + 1}} (hfin : fin.Given A P fun _ ↦ True)
    (h : p.Given A P R) : (Prog.cleanup fin p).Given A P R := by
  induction p with
  | ret a => exact hfin.bind fun _ _ ↦ h
  | raise e => exact hfin.bind fun _ _ ↦ trivial
  | call o k ih => exact ⟨h.1, fun a ha ↦ ih a (h.2 a ha)⟩

/-- What is promised of the answers is what a contract may assume, and the contract asks for no
more than the operations that are issued. -/
theorem meets {μ : Type*} {C : Contract Op Ans μ} {m : μ} (halike : ∀ o a b, ¬ C.alike m o a b)
    (hnext : ∀ o a, C.next m o a = m) (h : p.Given (C.rely m) (C.guar m) R) :
    p.Meets C (fun _ m' ↦ m' = m) m := by
  induction p with
  | ret a => rfl
  | raise e => rfl
  | call o k ih =>
    refine Meets.call h.1 (halike o) fun a ha ↦ ?_
    rw [hnext]
    exact ih a (h.2 a ha)

end Given

/-! ## Fixed answers -/

section Fixed

variable (answers : (o : Op) → Ans o)

/-- What a program ends with when every operation has its answer. -/
def value : Prog Op Ans ε α → Except ε α
  | ret a => .ok a
  | raise e => .error e
  | call o k => (k (answers o)).value

/-- The operations it issues then. -/
def issued : Prog Op Ans ε α → List Op
  | ret _ => []
  | raise _ => []
  | call o k => o :: (k (answers o)).issued

@[simp] theorem value_ret (a : α) : (ret a : Prog Op Ans ε α).value answers = .ok a := rfl

@[simp] theorem value_raise (e : ε) :
    (raise e : Prog Op Ans ε α).value answers = .error e := rfl

@[simp] theorem issued_ret (a : α) : (ret a : Prog Op Ans ε α).issued answers = [] := rfl

@[simp] theorem issued_raise (e : ε) : (raise e : Prog Op Ans ε α).issued answers = [] := rfl

theorem value_bind (p : Prog Op Ans ε α) (f : α → Prog Op Ans ε β) :
    (p.bind f).value answers = p.value answers >>= fun a ↦ (f a).value answers := by
  induction p with
  | ret a => rfl
  | raise e => rfl
  | call o k ih => exact ih (answers o)

variable {answers}

/-- The operations of a sequence, when its first part returns. -/
theorem issued_bind_ok {p : Prog Op Ans ε α} {a : α} (h : p.value answers = .ok a)
    (f : α → Prog Op Ans ε β) :
    (p.bind f).issued answers = p.issued answers ++ (f a).issued answers := by
  induction p with
  | ret b =>
    cases h
    rfl
  | raise e => cases h
  | call o k ih => exact congrArg (o :: ·) (ih _ h)

/-- The operations of a sequence, when its first part raises. -/
theorem issued_bind_error {p : Prog Op Ans ε α} {e : ε} (h : p.value answers = .error e)
    (f : α → Prog Op Ans ε β) : (p.bind f).issued answers = p.issued answers := by
  induction p with
  | ret b => cases h
  | raise e => rfl
  | call o k ih => exact congrArg (o :: ·) (ih _ h)

theorem Issues.issued {P : Op → Prop} {p : Prog Op Ans ε α} (h : p.Issues P) :
    ∀ o ∈ p.issued answers, P o := by
  induction p with
  | ret a => simp
  | raise e => simp
  | call o k ih =>
    rw [Prog.issued, List.forall_mem_cons]
    exact ⟨h.1, ih _ (h.2 _)⟩

end Fixed

section Fixed

variable {Op : Type u} {Ans : Op → Type x} {ε' : Type*} (answers : (o : Op) → Ans o)

@[simp] theorem value_op_bind (o : Op) (f : Ans o → Prog Op Ans ε α) :
    ((op o).bind f).value answers = (f (answers o)).value answers := rfl

@[simp] theorem issued_op_bind (o : Op) (f : Ans o → Prog Op Ans ε α) :
    ((op o).bind f).issued answers = o :: (f (answers o)).issued answers := rfl

@[simp] theorem value_ofExcept (r : Except ε α) :
    (ofExcept r : Prog Op Ans ε α).value answers = r := by
  rcases r with e | a <;> rfl

@[simp] theorem issued_ofExcept (r : Except ε α) :
    (ofExcept r : Prog Op Ans ε α).issued answers = [] := by
  rcases r with e | a <;> rfl

@[simp] theorem value_attempt (p : Prog Op Ans ε α) :
    (p.attempt : Prog Op Ans ε' (Except ε α)).value answers = .ok (p.value answers) := by
  induction p with
  | ret a => rfl
  | raise e => rfl
  | call o k ih => exact ih _

@[simp] theorem issued_attempt (p : Prog Op Ans ε α) :
    (p.attempt : Prog Op Ans ε' (Except ε α)).issued answers = p.issued answers := by
  induction p with
  | ret a => rfl
  | raise e => rfl
  | call o k ih => exact congrArg (o :: ·) (ih _)

end Fixed

/-! ## Runs that return -/

section Returns

variable {serve : σ → (o : Op) → Ans o × σ} {s : σ}

/-- Against this service, the run of `p` from `s` ends with a value. -/
def Returns (serve : σ → (o : Op) → Ans o × σ) (s : σ) (p : Prog Op Ans ε α) : Prop :=
  ∃ a s', p.run serve s = (.ok a, s')

theorem Total.returns {p : Prog Op Ans ε α} (h : p.Total) : p.Returns serve s := h.run serve s

theorem Returns.bind {p : Prog Op Ans ε α} {f : α → Prog Op Ans ε β} (hp : p.Returns serve s)
    (hf : ∀ a s', (f a).Returns serve s') : (p.bind f).Returns serve s := by
  obtain ⟨a, s', hrun⟩ := hp
  obtain ⟨b, s'', hrun'⟩ := hf a s'
  exact ⟨b, s'', (run_bind_ok hrun f).trans hrun'⟩

/-- What follows only has to return on the values that can be returned. -/
theorem Returns.bind_yields {R : α → Prop} {p : Prog Op Ans ε α} {f : α → Prog Op Ans ε β}
    (hp : p.Returns serve s) (hR : p.Yields R) (hf : ∀ a s', R a → (f a).Returns serve s') :
    (p.bind f).Returns serve s := by
  obtain ⟨a, s', hrun⟩ := hp
  obtain ⟨b, s'', hrun'⟩ := hf a s' (hR.run hrun)
  exact ⟨b, s'', (run_bind_ok hrun f).trans hrun'⟩

theorem not_returns_raise (e : ε) : ¬ (raise e : Prog Op Ans ε α).Returns serve s := by
  rintro ⟨a, s', h⟩
  cases h

end Returns

end Prog

end Interaction
