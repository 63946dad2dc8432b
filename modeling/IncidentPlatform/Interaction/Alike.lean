import IncidentPlatform.Interaction.Program

/-!
# Two runs side by side

Two programs run against two services, from two states. The runs are *alike* when both return, with
results and states that `R` relates, or both raise the same exception. `Alike.bind` composes such
comparisons part by part. Where one program does something the other has no counterpart for,
`Alike.left`, `Alike.left_total` and `Alike.then_left` run it alone.

What the comparison of parts that cannot raise comes down to is what either part returns, whatever
the answers (`Alike.of_total`).
-/

namespace Interaction

universe x y

namespace Prog

variable {Op : Type*} {Ans : Op → Type*} {ε : Type*} {α γ : Type x} {β δ : Type y} {σ τ : Type*}

/-- Both ended by returning, as `R` says, or both with the same exception. -/
inductive Match (R : α → σ → β → τ → Prop) : Except ε α × σ → Except ε β × τ → Prop
  | ok {a : α} {s : σ} {b : β} {t : τ} (h : R a s b t) : Match R (.ok a, s) (.ok b, t)
  | error (e : ε) (s : σ) (t : τ) : Match R (.error e, s) (.error e, t)

variable {serve : σ → (o : Op) → Ans o × σ} {serve' : τ → (o : Op) → Ans o × τ}

/-- The run of `p` from `s` and the run of `q` from `t` end alike. -/
def Alike (serve : σ → (o : Op) → Ans o × σ) (serve' : τ → (o : Op) → Ans o × τ)
    (p : Prog Op Ans ε α) (s : σ) (q : Prog Op Ans ε β) (t : τ) (R : α → σ → β → τ → Prop) : Prop :=
  Match R (p.run serve s) (q.run serve' t)

namespace Alike

variable {p : Prog Op Ans ε α} {q : Prog Op Ans ε β} {s : σ} {t : τ} {R R' : α → σ → β → τ → Prop}

theorem ret {a : α} {b : β} (h : R a s b t) :
    Alike serve serve' (.ret a : Prog Op Ans ε α) s (.ret b) t R :=
  Match.ok h

theorem mono (h : Alike serve serve' p s q t R) (hR : ∀ a s b t, R a s b t → R' a s b t) :
    Alike serve serve' p s q t R' := by
  rw [Alike] at h ⊢
  generalize p.run serve s = x at h ⊢
  generalize q.run serve' t = y at h ⊢
  cases h with
  | ok h => exact Match.ok (hR _ _ _ _ h)
  | error e => exact Match.error e _ _

/-- One operation, with the same answer to both. -/
theorem call {o : Op} {f : Ans o → Prog Op Ans ε α} {g : Ans o → Prog Op Ans ε β}
    {answer : Ans o} (hs : (serve s o).1 = answer) (ht : (serve' t o).1 = answer)
    (hfg : ∀ s t, Alike serve serve' (f answer) s (g answer) t R) :
    Alike serve serve' (.call o f) s (.call o g) t R := by
  rw [Alike, run_call, run_call, hs, ht]
  exact hfg _ _

/-- Part by part. -/
theorem bind {f : α → Prog Op Ans ε γ} {g : β → Prog Op Ans ε δ} {S : γ → σ → δ → τ → Prop}
    (h : Alike serve serve' p s q t R)
    (hfg : ∀ a s b t, R a s b t → Alike serve serve' (f a) s (g b) t S) :
    Alike serve serve' (p.bind f) s (q.bind g) t S := by
  rw [Alike] at h ⊢
  rw [run_bind, run_bind]
  generalize p.run serve s = x at h
  generalize q.run serve' t = y at h
  cases h with
  | ok h => exact hfg _ _ _ _ h
  | error e => exact Match.error e _ _

/-- What is known of the results of the program on the left alone. -/
theorem yielding (h : Alike serve serve' p s q t R) {P : α → Prop} (hp : p.Yields P) :
    Alike serve serve' p s q t fun a s b t ↦ R a s b t ∧ P a := by
  rw [Alike] at h ⊢
  rcases hr : p.run serve s with ⟨e | a, s'⟩
  · rw [hr] at h
    generalize q.run serve' t = y at h
    cases h with
    | error => exact Match.error e _ _
  · rw [hr] at h
    generalize q.run serve' t = y at h
    cases h with
    | ok h => exact Match.ok ⟨h, hp.run hr⟩

/-- What only the program on the left does, before the comparison. -/
theorem left {f : α → Prog Op Ans ε γ} {S : γ → σ → β → τ → Prop} {a : α} {s' : σ}
    (hp : p.run serve s = (.ok a, s')) (hf : Alike serve serve' (f a) s' q t S) :
    Alike serve serve' (p.bind f) s q t S := by
  rw [Alike, run_bind_ok hp]
  exact hf

/-- What only the program on the left does, and cannot fail at. -/
theorem left_total {P : α → Prop} {f : α → Prog Op Ans ε γ} {S : γ → σ → β → τ → Prop}
    (htotal : p.Total) (hp : p.Yields P)
    (hf : ∀ a s, P a → Alike serve serve' (f a) s q t S) :
    Alike serve serve' (p.bind f) s q t S := by
  obtain ⟨a, s', hr⟩ := htotal.run serve s
  exact left hr (hf a s' (hp.run hr))

/-- What only the program on the left does, after the comparison. -/
theorem then_left {f : α → Prog Op Ans ε γ} {S : γ → σ → β → τ → Prop}
    (h : Alike serve serve' p s q t R)
    (hf : ∀ a s b t, R a s b t → Alike serve serve' (f a) s (.ret b) t S) :
    Alike serve serve' (p.bind f) s q t S := by
  rw [Alike] at h ⊢
  rw [run_bind]
  generalize p.run serve s = x at h
  generalize q.run serve' t = y at h
  cases h with
  | ok h => exact hf _ _ _ _ h
  | error e => exact Match.error e _ _

/-- Parts that cannot raise, told apart by nothing but their results. -/
theorem of_total {P : α → Prop} {Q : β → Prop} (hp : p.Total) (hq : q.Total) (hP : p.Yields P)
    (hQ : q.Yields Q) : Alike serve serve' p s q t fun a _ b _ ↦ P a ∧ Q b := by
  obtain ⟨a, s', hr⟩ := hp.run serve s
  obtain ⟨b, t', hr'⟩ := hq.run serve' t
  rw [Alike, hr, hr']
  exact Match.ok ⟨hP.run hr, hQ.run hr'⟩

end Alike

end Prog

end Interaction
