import IncidentPlatform.Interaction.Program

/-!
# Programs in step

Two programs are *in step* if they issue operations that `P` relates, one for one, as long as the
answers are such as `E` relates, and end with results that `R` relates or with one exception.
`InStep.bind` composes this part by part. Against two services that keep a relation between their
states, and answer as `E` says, programs in step leave traces that agree operation by operation
(`InStep.run`).
-/

namespace Interaction

universe x y

namespace Prog

variable {Op : Type*} {Ans : Op → Type*} {ε : Type*} {α γ : Type x} {β δ : Type y} {σ τ : Type*}

/-- Both programs issue related operations, and end alike. -/
def InStep (P : Op → Op → Prop) (E : (o o' : Op) → Ans o → Ans o' → Prop) (R : α → β → Prop) :
    Prog Op Ans ε α → Prog Op Ans ε β → Prop
  | ret a, ret b => R a b
  | raise e, raise e' => e = e'
  | call o k, call o' k' => P o o' ∧ ∀ a a', E o o' a a' → (k a).InStep P E R (k' a')
  | _, _ => False

/-- Both ended with related results, or with one exception. -/
def SameEnd (R : α → β → Prop) : Except ε α → Except ε β → Prop
  | .ok a, .ok b => R a b
  | .error e, .error e' => e = e'
  | _, _ => False

namespace InStep

variable {P : Op → Op → Prop} {E : (o o' : Op) → Ans o → Ans o' → Prop} {R R' : α → β → Prop}
  {p : Prog Op Ans ε α} {q : Prog Op Ans ε β}

theorem mono (hR : ∀ a b, R a b → R' a b) (h : InStep P E R p q) : InStep P E R' p q := by
  induction p generalizing q with
  | ret a =>
    cases q with
    | ret b => exact hR a b h
    | _ => exact h
  | raise e => cases q <;> exact h
  | call o k ih =>
    cases q with
    | call o' k' => exact ⟨h.1, fun a a' ha ↦ ih a (h.2 a a' ha)⟩
    | _ => exact h

/-- Part by part. -/
theorem bind {f : α → Prog Op Ans ε γ} {g : β → Prog Op Ans ε δ} {S : γ → δ → Prop}
    (h : InStep P E R p q) (hfg : ∀ a b, R a b → InStep P E S (f a) (g b)) :
    InStep P E S (p.bind f) (q.bind g) := by
  induction p generalizing q with
  | ret a =>
    cases q with
    | ret b => exact hfg a b h
    | _ => exact h.elim
  | raise e =>
    cases q with
    | raise e' => exact h
    | _ => exact h.elim
  | call o k ih =>
    cases q with
    | call o' k' => exact ⟨h.1, fun a a' ha ↦ ih a (h.2 a a' ha)⟩
    | _ => exact h.elim

variable {serve : σ → (o : Op) → Ans o × σ} {serve' : τ → (o : Op) → Ans o × τ} {I : σ → τ → Prop}

/-- The traces agree operation by operation, and the runs end alike. -/
theorem run (hserve : ∀ s t o o', I s t → P o o' →
      E o o' (serve s o).1 (serve' t o').1 ∧ I (serve s o).2 (serve' t o').2)
    (h : InStep P E R p q) {s : σ} {t : τ} (hs : I s t) :
    List.Forall₂ (fun e e' ↦ P e.1 e'.1) (p.trace serve s) (q.trace serve' t) ∧
      SameEnd R (p.run serve s).1 (q.run serve' t).1 := by
  induction p generalizing q s t with
  | ret a =>
    cases q with
    | ret b => exact ⟨.nil, h⟩
    | _ => exact h.elim
  | raise e =>
    cases q with
    | raise e' => exact ⟨.nil, h⟩
    | _ => exact h.elim
  | call o k ih =>
    cases q with
    | call o' k' =>
      obtain ⟨hanswer, hnext⟩ := hserve s t o o' hs h.1
      obtain ⟨htrace, hend⟩ := ih _ (h.2 _ _ hanswer) hnext
      exact ⟨.cons h.1 htrace, hend⟩
    | _ => exact h.elim

end InStep

end Prog

end Interaction
