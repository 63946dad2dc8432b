import IncidentPlatform.Interaction.Program

/-!
# Programs over other operations

`interp f p` is `p` with every operation `o` replaced by the program `f o`, which may issue several
operations of another kind, or none, or raise where `o` could not. One program can thus be looked
at closer, with the round trips of each operation told apart, or with some of its operations made
to fail.

A replacement cannot hand its own exceptions to the program it is used in, whose operations have
answers only. `attempt` turns them into answers.
-/

namespace Interaction

universe u u' u'' v' w x

namespace Prog

variable {Op : Type u} {Ans : Op → Type x} {Op' : Type u'} {Ans' : Op' → Type v'} {ε : Type w}
  {α β : Type x}

/-- `p`, with the program `f o` in the place of every operation `o`. -/
def interp (f : (o : Op) → Prog Op' Ans' ε (Ans o)) :
    Prog Op Ans ε α → Prog Op' Ans' ε α
  | ret a => ret a
  | raise e => raise e
  | call o k => (f o).bind fun a ↦ (k a).interp f

variable {f : (o : Op) → Prog Op' Ans' ε (Ans o)}

theorem interp_op (o : Op) : (op o : Prog Op Ans ε (Ans o)).interp f = f o := bind_ret (f o)

theorem interp_bind (p : Prog Op Ans ε α) (q : α → Prog Op Ans ε β) :
    (p.bind q).interp f = (p.interp f).bind fun a ↦ (q a).interp f := by
  induction p with
  | ret a => rfl
  | raise e => rfl
  | call o k ih =>
    rw [call_bind, interp, interp, bind_assoc]
    exact congrArg (f o).bind (funext fun a ↦ ih a)

/-- A replacement that is replaced again. -/
theorem interp_interp {Mid : Type u''} {MidAns : Mid → Type x}
    {f : (o : Op) → Prog Mid MidAns ε (Ans o)} (g : (o : Mid) → Prog Op' Ans' ε (MidAns o))
    (p : Prog Op Ans ε α) :
    (p.interp f).interp g = p.interp fun o ↦ (f o).interp g := by
  induction p with
  | ret a => rfl
  | raise e => rfl
  | call o k ih =>
    rw [interp, interp, interp_bind]
    exact congrArg ((f o).interp g).bind (funext fun a ↦ ih a)

theorem interp_cleanup (hf : ∀ o, (f o).Total) (fin : Prog Op Ans ε PUnit.{x + 1})
    (p : Prog Op Ans ε α) : (cleanup fin p).interp f = cleanup (fin.interp f) (p.interp f) := by
  induction p with
  | ret a => exact interp_bind fin _
  | raise e => exact interp_bind fin _
  | call o k ih =>
    rw [cleanup, interp, interp, cleanup_bind (hf o)]
    exact congrArg (f o).bind (funext fun a ↦ ih a)

/-- A program none of whose operations is replaced. -/
theorem Issues.interp_eq {Ans : Op → Type x} {f : (o : Op) → Prog Op Ans ε (Ans o)}
    {p : Prog Op Ans ε α} (h : p.Issues fun o ↦ f o = op o) : p.interp f = p := by
  induction p with
  | ret a => rfl
  | raise e => rfl
  | call o k ih =>
    rw [Prog.interp, h.1]
    exact congrArg (call o) (funext fun a ↦ ih a (h.2 a))

theorem Issues.interp {P : Op → Prop} {P' : Op' → Prop} (hf : ∀ o, P o → (f o).Issues P')
    {p : Prog Op Ans ε α} (h : p.Issues P) : (p.interp f).Issues P' := by
  induction p with
  | ret a => trivial
  | raise e => trivial
  | call o k ih => exact (hf o h.1).bind fun a ↦ ih a (h.2 a)

theorem Yields.interp {R : α → Prop} {p : Prog Op Ans ε α} (h : p.Yields R) :
    (p.interp f).Yields R := by
  induction p with
  | ret a => exact h
  | raise e => trivial
  | call o k ih => exact (Yields.true (f o)).bind fun a _ ↦ ih a (h a)

theorem Total.interp (hf : ∀ o, (f o).Total) {p : Prog Op Ans ε α} (h : p.Total) :
    (p.interp f).Total := by
  induction p with
  | ret a => trivial
  | raise e => exact h
  | call o k ih => exact (hf o).bind fun a ↦ ih a (h a)

/-- Running a translated program: the service at which the replacements run can be exchanged for one
that answers every operation as its replacement does. -/
theorem run_interp {σ : Type*} {serve' : σ → (o : Op') → Ans' o × σ}
    {serve : σ → (o : Op) → Ans o × σ}
    (hserve : ∀ s o, (f o).run serve' s = (.ok (serve s o).1, (serve s o).2))
    (p : Prog Op Ans ε α) (s : σ) : (p.interp f).run serve' s = p.run serve s := by
  induction p generalizing s with
  | ret a => rfl
  | raise e => rfl
  | call o k ih =>
    rw [interp, run_bind_ok (hserve s o), run_call]
    exact ih _ _

/-! ## Exceptions as values -/

/-- The value, or the exception. -/
def ofExcept : Except ε α → Prog Op Ans ε α
  | .ok a => ret a
  | .error e => raise e

@[simp] theorem ofExcept_ok (a : α) : (ofExcept (.ok a) : Prog Op Ans ε α) = ret a := rfl

@[simp] theorem ofExcept_error (e : ε) : (ofExcept (.error e) : Prog Op Ans ε α) = raise e := rfl

/-- `p` up to its end, and what it ended with as a value. -/
def attempt {ε' : Type*} : Prog Op Ans ε α → Prog Op Ans ε' (Except ε α)
  | ret a => ret (.ok a)
  | raise e => ret (.error e)
  | call o k => call o fun a ↦ (k a).attempt

variable {ε' : Type*} {σ : Type*} (serve : σ → (o : Op) → Ans o × σ)

theorem attempt_run (p : Prog Op Ans ε α) (s : σ) :
    (p.attempt : Prog Op Ans ε' (Except ε α)).run serve s
      = (.ok (p.run serve s).1, (p.run serve s).2) := by
  induction p generalizing s with
  | ret a => rfl
  | raise e => rfl
  | call o k ih => exact ih _ _

theorem run_ofExcept (r : Except ε α) (s : σ) :
    (ofExcept r : Prog Op Ans ε α).run serve s = (r, s) := by
  rcases r with e | a <;> rfl

theorem attempt_trace (p : Prog Op Ans ε α) (s : σ) :
    (p.attempt : Prog Op Ans ε' (Except ε α)).trace serve s = p.trace serve s := by
  induction p generalizing s with
  | ret a => rfl
  | raise e => rfl
  | call o k ih => exact congrArg (⟨o, (serve s o).1⟩ :: ·) (ih _ _)

/-- An attempt whose outcome is dropped. -/
theorem attempt_bind_trace {γ : Type (max w x)} (p : Prog Op Ans ε α) (b : γ) (s : σ) :
    ((p.attempt : Prog Op Ans ε' (Except ε α)).bind fun _ ↦ ret b).trace serve s
      = p.trace serve s := by
  induction p generalizing s with
  | ret a => rfl
  | raise e => rfl
  | call o k ih => exact congrArg (⟨o, (serve s o).1⟩ :: ·) (ih _ _)

theorem attempt_total (p : Prog Op Ans ε α) :
    (p.attempt : Prog Op Ans ε' (Except ε α)).Total := by
  induction p with
  | ret a => trivial
  | raise e => trivial
  | call o k ih => exact fun a ↦ ih a

theorem interp_ofExcept {Ans' : Op' → Type x} (f : (o : Op) → Prog Op' Ans' ε (Ans o))
    (r : Except ε α) : (ofExcept r : Prog Op Ans ε α).interp f = ofExcept r := by
  rcases r with e | a <;> rfl

/-- The exception is raised again. -/
theorem attempt_bind {ε : Type x} (p : Prog Op Ans ε α) (q : α → Prog Op Ans ε β) :
    (p.attempt.bind fun r ↦ (ofExcept r).bind q) = p.bind q := by
  induction p with
  | ret a => rfl
  | raise e => rfl
  | call o k ih => exact congrArg (call o) (funext fun a ↦ ih a)

/-- The results, with what is known of them. -/
def attach {R : α → Prop} : (p : Prog Op Ans ε α) → p.Yields R → Prog Op Ans ε {a : α // R a}
  | ret a, h => ret ⟨a, h⟩
  | raise e, _ => raise e
  | call o k, h => call o fun a ↦ (k a).attach (h a)

theorem attach_bind {R : α → Prop} {p : Prog Op Ans ε α} (h : p.Yields R)
    (q : α → Prog Op Ans ε β) : ((p.attach h).bind fun a ↦ q a.1) = p.bind q := by
  induction p with
  | ret a => rfl
  | raise e => rfl
  | call o k ih => exact congrArg (call o) (funext fun a ↦ ih a (h a))

theorem Issues.attempt {P : Op → Prop} {p : Prog Op Ans ε α} (h : p.Issues P) :
    (p.attempt : Prog Op Ans ε' (Except ε α)).Issues P := by
  induction p with
  | ret a => trivial
  | raise e => trivial
  | call o k ih => exact ⟨h.1, fun a ↦ ih a (h.2 a)⟩

theorem ofExcept_issues {P : Op → Prop} (r : Except ε α) :
    (ofExcept r : Prog Op Ans ε α).Issues P := by
  rcases r with e | a <;> trivial

end Prog

end Interaction
