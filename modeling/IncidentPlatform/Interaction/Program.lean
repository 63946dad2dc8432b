import Mathlib.Logic.Basic
import Mathlib.Data.List.Basic

/-!
# Programs that talk to the outside through operations

A program is a finite tree: it returns, it raises, or it issues an operation `o : Op` and goes on
with whatever the outside answers, an element of `Ans o`. Nothing here says what an operation
does. That is the business of a *service* `serve : σ → (o : Op) → Ans o × σ`, and the same program
can be run against several services, or against a service that other programs share.

`run` executes a program to its end, `trace` lists the operations it issued with their answers.
Exceptions are part of the tree: `raise` skips the continuation, `cleanup` is `try … finally`.
-/

namespace Interaction

universe u v w x

/-- A finite interactive program over the operations `Op` with answers `Ans`, raising `ε`. -/
inductive Prog (Op : Type u) (Ans : Op → Type v) (ε : Type w) (α : Type x) where
  | ret (a : α)
  | raise (e : ε)
  | call (o : Op) (k : Ans o → Prog Op Ans ε α)

variable {Op : Type u} {Ans : Op → Type v} {ε : Type w} {α β γ : Type x} {σ : Type*}

namespace Prog

/-- Sequencing: the continuation runs on the returned value, never after a `raise`. -/
def bind : Prog Op Ans ε α → (α → Prog Op Ans ε β) → Prog Op Ans ε β
  | ret a, f => f a
  | raise e, _ => raise e
  | call o k, f => call o fun a ↦ (k a).bind f

instance : Monad (Prog Op Ans ε) where
  pure := ret
  bind := bind

/-- Issue one operation and return its answer. -/
def op (o : Op) : Prog Op Ans ε (Ans o) := call o ret

/-- `try p finally fin`: `fin` runs on the way out, whether `p` returned or raised. -/
def cleanup (fin : Prog Op Ans ε PUnit.{x + 1}) : Prog Op Ans ε α → Prog Op Ans ε α
  | ret a => fin.bind fun _ ↦ ret a
  | raise e => fin.bind fun _ ↦ raise e
  | call o k => call o fun a ↦ cleanup fin (k a)

/-- Whether there is an operation left. -/
def running : Prog Op Ans ε α → Bool
  | call _ _ => true
  | _ => false

theorem pure_eq (a : α) : (pure a : Prog Op Ans ε α) = ret a := rfl

theorem bind_eq (p : Prog Op Ans ε α) (f : α → Prog Op Ans ε β) : p >>= f = p.bind f := rfl

@[simp] theorem ret_bind (a : α) (f : α → Prog Op Ans ε β) : (ret a).bind f = f a := rfl

@[simp] theorem raise_bind (e : ε) (f : α → Prog Op Ans ε β) :
    (raise e : Prog Op Ans ε α).bind f = raise e := rfl

@[simp] theorem call_bind (o : Op) (k : Ans o → Prog Op Ans ε α) (f : α → Prog Op Ans ε β) :
    (call o k).bind f = call o fun a ↦ (k a).bind f := rfl

theorem bind_assoc (p : Prog Op Ans ε α) (f : α → Prog Op Ans ε β) (g : β → Prog Op Ans ε γ) :
    (p.bind f).bind g = p.bind fun a ↦ (f a).bind g := by
  induction p with
  | ret a => rfl
  | raise e => rfl
  | call o k ih => exact congrArg (call o) (funext fun a ↦ ih a)

theorem bind_ret (p : Prog Op Ans ε α) : p.bind ret = p := by
  induction p with
  | ret a => rfl
  | raise e => rfl
  | call o k ih => exact congrArg (call o) (funext fun a ↦ ih a)

/-! ## Running against a service -/

/-- One operation as it happened: what was asked and what was answered. -/
abbrev Event (Op : Type u) (Ans : Op → Type v) := (o : Op) × Ans o

/-- Run to the end: the returned value or the exception, and the state left behind. -/
def run (serve : σ → (o : Op) → Ans o × σ) : Prog Op Ans ε α → σ → Except ε α × σ
  | ret a, s => (.ok a, s)
  | raise e, s => (.error e, s)
  | call o k, s => (k (serve s o).1).run serve (serve s o).2

/-- The operations issued on the way, oldest first. -/
def trace (serve : σ → (o : Op) → Ans o × σ) : Prog Op Ans ε α → σ → List (Event Op Ans)
  | ret _, _ => []
  | raise _, _ => []
  | call o k, s => ⟨o, (serve s o).1⟩ :: (k (serve s o).1).trace serve (serve s o).2

variable (serve : σ → (o : Op) → Ans o × σ)

@[simp] theorem run_ret (a : α) (s : σ) : (ret a : Prog Op Ans ε α).run serve s = (.ok a, s) := rfl

@[simp] theorem run_raise (e : ε) (s : σ) :
    (raise e : Prog Op Ans ε α).run serve s = (.error e, s) := rfl

theorem run_call (o : Op) (k : Ans o → Prog Op Ans ε α) (s : σ) :
    (call o k).run serve s = (k (serve s o).1).run serve (serve s o).2 := rfl

@[simp] theorem trace_ret (a : α) (s : σ) : (ret a : Prog Op Ans ε α).trace serve s = [] := rfl

@[simp] theorem trace_raise (e : ε) (s : σ) :
    (raise e : Prog Op Ans ε α).trace serve s = [] := rfl

theorem trace_call (o : Op) (k : Ans o → Prog Op Ans ε α) (s : σ) :
    (call o k).trace serve s
      = ⟨o, (serve s o).1⟩ :: (k (serve s o).1).trace serve (serve s o).2 := rfl

/-- Running a sequence: the second part starts where the first one stopped, if it returned. -/
theorem run_bind (p : Prog Op Ans ε α) (f : α → Prog Op Ans ε β) (s : σ) :
    (p.bind f).run serve s =
      match p.run serve s with
      | (.ok a, s') => (f a).run serve s'
      | (.error e, s') => (.error e, s') := by
  induction p generalizing s with
  | ret a => rfl
  | raise e => rfl
  | call o k ih => exact ih _ _

theorem trace_bind (p : Prog Op Ans ε α) (f : α → Prog Op Ans ε β) (s : σ) :
    (p.bind f).trace serve s = p.trace serve s ++
      match p.run serve s with
      | (.ok a, s') => (f a).trace serve s'
      | (.error _, _) => [] := by
  induction p generalizing s with
  | ret a => rfl
  | raise e => rfl
  | call o k ih => exact congrArg (_ :: ·) (ih _ _)

variable {serve}

theorem run_bind_ok {p : Prog Op Ans ε α} {s s' : σ} {a : α} (h : p.run serve s = (.ok a, s'))
    (f : α → Prog Op Ans ε β) : (p.bind f).run serve s = (f a).run serve s' := by
  rw [run_bind, h]

theorem run_bind_error {p : Prog Op Ans ε α} {s s' : σ} {e : ε}
    (h : p.run serve s = (.error e, s')) (f : α → Prog Op Ans ε β) :
    (p.bind f).run serve s = (.error e, s') := by
  rw [run_bind, h]

/-- A sequence returns only by its first part returning: the inversion every multi-part handler is
taken apart with. -/
theorem run_bind_eq_ok {p : Prog Op Ans ε α} {f : α → Prog Op Ans ε β} {s s' : σ} {b : β}
    (h : (p.bind f).run serve s = (.ok b, s')) :
    ∃ a t, p.run serve s = (.ok a, t) ∧ (f a).run serve t = (.ok b, s') := by
  rw [run_bind] at h
  rcases hp : p.run serve s with ⟨a | a, t⟩
  · rw [hp] at h
    cases h
  · rw [hp] at h
    exact ⟨a, t, rfl, h⟩

/-- Running `p` from `s` ends as `Q` says. Unlike `run` it composes without naming what is in
between, so a spec can be as partial as its use allows. -/
def Runs (serve : σ → (o : Op) → Ans o × σ) (p : Prog Op Ans ε α) (s : σ)
    (Q : Except ε α → σ → Prop) : Prop :=
  Q (p.run serve s).1 (p.run serve s).2

namespace Runs

variable {p : Prog Op Ans ε α} {s : σ} {Q R : Except ε α → σ → Prop}

theorem mono (h : p.Runs serve s Q) (hQR : ∀ r t, Q r t → R r t) : p.Runs serve s R := hQR _ _ h

/-- What is known of the result and the state of a run. -/
theorem of_run {r : Except ε α} {t : σ} (h : p.Runs serve s Q) (hrun : p.run serve s = (r, t)) :
    Q r t := by
  rw [Runs, hrun] at h
  exact h

theorem bind {f : α → Prog Op Ans ε β} {R : Except ε β → σ → Prop} (hp : p.Runs serve s Q)
    (hf : ∀ a t, Q (.ok a) t → (f a).Runs serve t R)
    (he : ∀ e t, Q (.error e) t → R (.error e) t) : (p.bind f).Runs serve s R := by
  rw [Runs] at hp ⊢
  rw [run_bind]
  rcases hr : p.run serve s with ⟨e | a, t⟩ <;> rw [hr] at hp
  · exact he e t hp
  · exact hf a t hp

end Runs

/-! ## The operations a program can issue -/

/-- Whatever the answers, `p` only issues operations with `P`. -/
def Issues (P : Op → Prop) : Prog Op Ans ε α → Prop
  | ret _ => True
  | raise _ => True
  | call o k => P o ∧ ∀ a, (k a).Issues P

variable {P Q : Op → Prop}

theorem Issues.mono (hPQ : ∀ o, P o → Q o) {p : Prog Op Ans ε α} (h : p.Issues P) :
    p.Issues Q := by
  induction p with
  | ret a => trivial
  | raise e => trivial
  | call o k ih => exact ⟨hPQ o h.1, fun a ↦ ih a (h.2 a)⟩

theorem Issues.bind {p : Prog Op Ans ε α} {f : α → Prog Op Ans ε β} (hp : p.Issues P)
    (hf : ∀ a, (f a).Issues P) : (p.bind f).Issues P := by
  induction p with
  | ret a => exact hf a
  | raise e => trivial
  | call o k ih => exact ⟨hp.1, fun a ↦ ih a (hp.2 a)⟩

theorem Issues.trace {p : Prog Op Ans ε α} (h : p.Issues P) (s : σ) :
    ∀ e ∈ p.trace serve s, P e.1 := by
  induction p generalizing s with
  | ret a => simp
  | raise e => simp
  | call o k ih =>
    rw [trace_call]
    rintro e he
    rcases List.mem_cons.mp he with rfl | he
    · exact h.1
    · exact ih _ (h.2 _) _ e he

/-- What the operations with `P` preserve, a program that issues no others preserves. -/
theorem Issues.run {I : σ → Prop} (hserve : ∀ s o, P o → I s → I (serve s o).2)
    {p : Prog Op Ans ε α} (h : p.Issues P) : ∀ s, I s → I (p.run serve s).2 := by
  induction p with
  | ret a => exact fun s hs ↦ hs
  | raise e => exact fun s hs ↦ hs
  | call o k ih => exact fun s hs ↦ ih _ (h.2 _) _ (hserve s o h.1 hs)

/-- A program cannot tell services apart that agree on its operations. -/
theorem Issues.run_congr {serve serve' : σ → (o : Op) → Ans o × σ}
    (hserve : ∀ s o, P o → serve s o = serve' s o) {p : Prog Op Ans ε α} (h : p.Issues P) :
    ∀ s, p.run serve s = p.run serve' s := by
  induction p with
  | ret a => exact fun s ↦ rfl
  | raise e => exact fun s ↦ rfl
  | call o k ih =>
    intro s
    rw [run_call, run_call, hserve s o h.1]
    exact ih _ (h.2 _) _

/-! ## The values a program can return -/

/-- Whatever the answers, `p` only returns values with `R`. -/
def Yields (R : α → Prop) : Prog Op Ans ε α → Prop
  | ret a => R a
  | raise _ => True
  | call _ k => ∀ a, (k a).Yields R

theorem Yields.true (p : Prog Op Ans ε α) : p.Yields fun _ ↦ True := by
  induction p with
  | ret a => trivial
  | raise e => trivial
  | call o k ih => exact ih

theorem Yields.mono {R S : α → Prop} (hRS : ∀ a, R a → S a) {p : Prog Op Ans ε α}
    (h : p.Yields R) : p.Yields S := by
  induction p with
  | ret a => exact hRS a h
  | raise e => trivial
  | call o k ih => exact fun a ↦ ih a (h a)

theorem Yields.bind {R : α → Prop} {S : β → Prop} {p : Prog Op Ans ε α}
    {f : α → Prog Op Ans ε β} (hp : p.Yields R) (hf : ∀ a, R a → (f a).Yields S) :
    (p.bind f).Yields S := by
  induction p with
  | ret a => exact hf a hp
  | raise e => trivial
  | call o k ih => exact fun a ↦ ih a (hp a)

/-- It does not matter what the first part returns. -/
theorem Yields.rest {S : β → Prop} {p : Prog Op Ans ε α} {f : α → Prog Op Ans ε β}
    (hf : ∀ a, (f a).Yields S) : (p.bind f).Yields S :=
  Yields.bind (Yields.true p) fun a _ ↦ hf a

theorem Yields.and {R S : α → Prop} {p : Prog Op Ans ε α} (hR : p.Yields R) (hS : p.Yields S) :
    p.Yields fun a ↦ R a ∧ S a := by
  induction p with
  | ret a => exact ⟨hR, hS⟩
  | raise e => trivial
  | call o k ih => exact fun a ↦ ih a (hR a) (hS a)

/-- What follows only matters on the values that can be returned. -/
theorem Yields.bind_congr {R : α → Prop} {p : Prog Op Ans ε α} {f g : α → Prog Op Ans ε β}
    (hp : p.Yields R) (hfg : ∀ a, R a → f a = g a) : p.bind f = p.bind g := by
  induction p with
  | ret a => exact hfg a hp
  | raise e => rfl
  | call o k ih => exact congrArg (call o) (funext fun a ↦ ih a (hp a))

theorem Issues.bind_yields {R : α → Prop} {p : Prog Op Ans ε α} {f : α → Prog Op Ans ε β}
    (hp : p.Issues P) (hR : p.Yields R) (hf : ∀ a, R a → (f a).Issues P) :
    (p.bind f).Issues P := by
  induction p with
  | ret a => exact hf a hR
  | raise e => trivial
  | call o k ih => exact ⟨hp.1, fun a ↦ ih a (hp.2 a) (hR a)⟩

theorem Yields.run {R : α → Prop} {p : Prog Op Ans ε α} {a : α} {s s' : σ} (h : p.Yields R)
    (hp : p.run serve s = (.ok a, s')) : R a := by
  induction p generalizing s with
  | ret b =>
    rw [run_ret] at hp
    cases hp
    exact h
  | raise e =>
    rw [run_raise] at hp
    cases hp
  | call o k ih => exact ih _ (h _) hp

/-- Whatever the answers, `p` does not raise. -/
def Total : Prog Op Ans ε α → Prop
  | ret _ => True
  | raise _ => False
  | call _ k => ∀ a, (k a).Total

theorem Total.bind {p : Prog Op Ans ε α} {f : α → Prog Op Ans ε β} (hp : p.Total)
    (hf : ∀ a, (f a).Total) : (p.bind f).Total := by
  induction p with
  | ret a => exact hf a
  | raise e => exact hp.elim
  | call o k ih => exact fun a ↦ ih a (hp a)

theorem op_total (o : Op) : (op o : Prog Op Ans ε (Ans o)).Total := fun _ ↦ trivial

theorem Total.of_bind {p : Prog Op Ans ε α} {f : α → Prog Op Ans ε β} (h : (p.bind f).Total) :
    p.Total := by
  induction p with
  | ret a => trivial
  | raise e => exact h
  | call o k ih => exact fun a ↦ ih a (h a)

theorem Total.run {p : Prog Op Ans ε α} (h : p.Total) (serve : σ → (o : Op) → Ans o × σ) (s : σ) :
    ∃ a s', p.run serve s = (.ok a, s') := by
  induction p generalizing s with
  | ret a => exact ⟨a, s, rfl⟩
  | raise e => exact h.elim
  | call o k ih => exact ih _ (h _) _

/-- What does not raise may be moved out of a `try … finally`. -/
theorem cleanup_bind {fin : Prog Op Ans ε PUnit.{x + 1}} {p : Prog Op Ans ε α} (hp : p.Total)
    (q : α → Prog Op Ans ε β) : cleanup fin (p.bind q) = p.bind fun a ↦ cleanup fin (q a) := by
  induction p with
  | ret a => rfl
  | raise e => exact hp.elim
  | call o k ih => exact congrArg (call o) (funext fun a ↦ ih a (hp a))

/-- What the last part leaves behind, however the first one ended. -/
theorem cleanup_run_snd (serve : σ → (o : Op) → Ans o × σ) (fin : Prog Op Ans ε PUnit.{x + 1})
    (p : Prog Op Ans ε α) (s : σ) :
    ((cleanup fin p).run serve s).2 = (fin.run serve (p.run serve s).2).2 := by
  induction p generalizing s with
  | ret a =>
    rw [cleanup, run_bind, run_ret]
    rcases fin.run serve s with ⟨_ | _, s'⟩ <;> rfl
  | raise e =>
    rw [cleanup, run_bind, run_raise]
    rcases fin.run serve s with ⟨_ | _, s'⟩ <;> rfl
  | call o k ih => exact ih _ _

/-! ## How often a program issues an operation -/

/-- Whatever the answers, `p` issues at most `n` operations with `P`. -/
def AtMost (P : Op → Bool) : ℕ → Prog Op Ans ε α → Prop
  | _, ret _ => True
  | _, raise _ => True
  | n, call o k => (P o).toNat ≤ n ∧ ∀ a, (k a).AtMost P (n - (P o).toNat)

section

variable {P : Op → Bool} {m n : ℕ}

theorem AtMost.mono (hmn : m ≤ n) {p : Prog Op Ans ε α} (h : p.AtMost P m) : p.AtMost P n := by
  induction p generalizing m n with
  | ret a => trivial
  | raise e => trivial
  | call o k ih =>
    obtain ⟨ho, hk⟩ := h
    refine ⟨by omega, fun a ↦ ih a ?_ (hk a)⟩
    omega

theorem AtMost.bind {R : α → Prop} {p : Prog Op Ans ε α} {f : α → Prog Op Ans ε β}
    (hp : p.AtMost P m) (hR : p.Yields R) (hf : ∀ a, R a → (f a).AtMost P n) :
    (p.bind f).AtMost P (m + n) := by
  induction p generalizing m with
  | ret a =>
    have hn : n ≤ m + n := by omega
    exact AtMost.mono hn (hf a hR)
  | raise e => trivial
  | call o k ih =>
    obtain ⟨ho, hk⟩ := hp
    refine ⟨by omega, fun a ↦ ?_⟩
    have hm : m + n - (P o).toNat = m - (P o).toNat + n := by omega
    rw [hm]
    exact ih a (hk a) (hR a)

theorem Issues.atMost {p : Prog Op Ans ε α} (h : p.Issues fun o ↦ P o = false) :
    p.AtMost P n := by
  induction p generalizing n with
  | ret a => trivial
  | raise e => trivial
  | call o k ih =>
    obtain ⟨ho, hk⟩ := h
    refine ⟨?_, fun a ↦ ih a (hk a)⟩
    rw [ho]
    exact Nat.zero_le n

theorem AtMost.trace {p : Prog Op Ans ε α} (h : p.AtMost P n) (s : σ) :
    (p.trace serve s).countP (fun e ↦ P e.1) ≤ n := by
  induction p generalizing n s with
  | ret a => exact Nat.zero_le n
  | raise e => exact Nat.zero_le n
  | call o k ih =>
    obtain ⟨ho, hk⟩ := h
    have hrest := ih (serve s o).1 (hk (serve s o).1) (serve s o).2
    have hhead : (if P o = true then 1 else 0) = (P o).toNat := by cases P o <;> rfl
    rw [trace_call, List.countP_cons, hhead]
    omega

end

/-! ## The states of a run -/

/-- Every operation of the run satisfies `P` in the state it is issued in. -/
def Always (serve : σ → (o : Op) → Ans o × σ) (P : σ → Op → Prop) : Prog Op Ans ε α → σ → Prop
  | ret _, _ => True
  | raise _, _ => True
  | call o k, s => P s o ∧ (k (serve s o).1).Always serve P (serve s o).2

/-- A property of the operations that can be evaluated can be evaluated along a run. -/
instance Always.decidable (serve : σ → (o : Op) → Ans o × σ) {P : σ → Op → Prop}
    [∀ s o, Decidable (P s o)] :
    (p : Prog Op Ans ε α) → (s : σ) → Decidable (p.Always serve P s)
  | ret _, _ => isTrue trivial
  | raise _, _ => isTrue trivial
  | call o k, s =>
    have : Decidable ((k (serve s o).1).Always serve P (serve s o).2) :=
      Always.decidable serve (k (serve s o).1) (serve s o).2
    inferInstanceAs (Decidable (P s o ∧ (k (serve s o).1).Always serve P (serve s o).2))

theorem Always.mono {P Q : σ → Op → Prop} (hPQ : ∀ s o, P s o → Q s o) {p : Prog Op Ans ε α} :
    ∀ {s : σ}, p.Always serve P s → p.Always serve Q s := by
  induction p with
  | ret a => exact fun _ ↦ trivial
  | raise e => exact fun _ ↦ trivial
  | call o k ih => exact fun h ↦ ⟨hPQ _ _ h.1, ih _ h.2⟩

/-- The first part of a run. -/
theorem Always.bind_left {P : σ → Op → Prop} {p : Prog Op Ans ε α} {f : α → Prog Op Ans ε β} :
    ∀ {s : σ}, (p.bind f).Always serve P s → p.Always serve P s := by
  induction p with
  | ret a => exact fun _ ↦ trivial
  | raise e => exact fun _ ↦ trivial
  | call o k ih => exact fun h ↦ ⟨h.1, ih _ h.2⟩

/-- The part of a run after one that has returned. -/
theorem Always.bind_ok {P : σ → Op → Prop} {p : Prog Op Ans ε α} {f : α → Prog Op Ans ε β} {a : α}
    {s' : σ} : ∀ {s : σ}, (p.bind f).Always serve P s → p.run serve s = (.ok a, s') →
      (f a).Always serve P s' := by
  induction p with
  | ret b =>
    intro s h hrun
    cases hrun
    exact h
  | raise e =>
    intro s h hrun
    cases hrun
  | call o k ih => exact fun h hrun ↦ ih _ h.2 hrun

end Prog

end Interaction
