import Mathlib.Data.List.DropRight

/-!
# Fields joined into one text

Two fields are joined with a separator between them. If it may occur in the fields, then a joined
text can be cut at another place: `Moved` says that the first field goes on over a separator into
the second one. Nothing else makes two pairs of fields one text (`join_eq_iff`).

`trim` takes off what is around a field.
-/

namespace Encoding

/-! ## Joining -/

/-- Two fields with a separator between them. -/
def join (sep : Char) (head rest : String) : String := head ++ String.singleton sep ++ rest

/-- `head'` is `head` with more, up to a later separator. -/
def Moved (sep : Char) (head rest head' rest' : String) : Prop :=
  ∃ between, head' = join sep head between ∧ rest = join sep between rest'

section

variable {sep : Char} {a b a' b' : String}

theorem toList_join : (join sep a b).toList = a.toList ++ sep :: b.toList := by
  rw [join, String.toList_append, String.toList_append, String.toList_singleton,
    List.append_assoc]
  rfl

theorem join_assoc (c : String) : join sep (join sep a b) c = join sep a (join sep b c) := by
  simp only [join, String.append_assoc]

theorem Moved.join_eq (h : Moved sep a b a' b') : join sep a b = join sep a' b' := by
  obtain ⟨m, rfl, rfl⟩ := h
  exact (join_assoc b').symm

/-- The rest after a longer head. -/
private theorem moved_of_append {l : List Char} (hhead : a'.toList = a.toList ++ l)
    (hrest : sep :: b.toList = l ++ sep :: b'.toList) :
    (a = a' ∧ b = b') ∨ Moved sep a b a' b' := by
  cases l with
  | nil =>
    rw [List.append_nil] at hhead
    refine Or.inl ⟨String.toList_injective hhead.symm, String.toList_injective ?_⟩
    exact (List.cons.inj hrest).2
  | cons c m =>
    obtain ⟨rfl, hb⟩ := List.cons.inj ((List.cons_append ..) ▸ hrest)
    refine Or.inr ⟨String.ofList m, String.toList_injective ?_, String.toList_injective ?_⟩
    · rw [toList_join, String.toList_ofList, hhead]
    · rw [toList_join, String.toList_ofList, hb]

theorem join_eq_iff : join sep a b = join sep a' b' ↔
    (a = a' ∧ b = b') ∨ Moved sep a b a' b' ∨ Moved sep a' b' a b := by
  constructor
  · intro h
    have hlist : a.toList ++ sep :: b.toList = a'.toList ++ sep :: b'.toList := by
      rw [← toList_join, ← toList_join, h]
    rcases List.append_eq_append_iff.mp hlist with ⟨l, hhead, hrest⟩ | ⟨l, hhead, hrest⟩
    · exact (moved_of_append hhead hrest).imp_right Or.inl
    · rcases moved_of_append hhead hrest with ⟨ha, hb⟩ | hmoved
      · exact Or.inl ⟨ha.symm, hb.symm⟩
      · exact Or.inr (Or.inr hmoved)
  · rintro (⟨rfl, rfl⟩ | h | h)
    · rfl
    · exact h.join_eq
    · exact h.join_eq.symm

/-- What has no separator cannot have been cut off later. -/
theorem Moved.sep_mem (h : Moved sep a b a' b') : sep ∈ a'.toList := by
  obtain ⟨m, rfl, -⟩ := h
  rw [toList_join]
  exact List.mem_append_right _ List.mem_cons_self

theorem Moved.ne (h : Moved sep a b a' b') : a ≠ a' := by
  obtain ⟨m, rfl, -⟩ := h
  intro heq
  have hlength := congrArg (fun s ↦ s.toList.length) heq
  simp only [toList_join, List.length_append, List.length_cons] at hlength
  omega

/-- Without separators in the first fields, both fields can be told from the joined text. -/
theorem join_eq_iff_of_not_mem (h : sep ∉ a.toList) (h' : sep ∉ a'.toList) :
    join sep a b = join sep a' b' ↔ a = a' ∧ b = b' := by
  rw [join_eq_iff]
  exact or_iff_left fun hmoved ↦
    hmoved.elim (fun hm ↦ h' hm.sep_mem) fun hm ↦ h hm.sep_mem

end

/-! ## Trimming -/

/-- The list without the elements with `p` around it. -/
def trim {α : Type*} (p : α → Bool) (l : List α) : List α := (l.dropWhile p).rdropWhile p

section

variable {α : Type*} {p : α → Bool}

theorem trim_trim (l : List α) : trim p (trim p l) = trim p l := by
  have hdrop : (trim p l).dropWhile p = trim p l := by
    refine List.dropWhile_eq_self_iff.mpr fun hlength ↦ ?_
    obtain ⟨m, hm⟩ : trim p l <+: l.dropWhile p := List.rdropWhile_prefix p _
    have hpos : 0 < (l.dropWhile p).length := by
      rw [← hm, List.length_append]
      exact Nat.add_pos_left hlength _
    have hhead : (trim p l)[0] = (l.dropWhile p)[0] := by
      simp only [← hm, List.getElem_append_left hlength]
    rw [hhead]
    exact List.dropWhile_eq_self_iff.mp (List.dropWhile_idempotent p l) hpos
  rw [trim, hdrop]
  exact List.rdropWhile_idempotent p _

/-- A map that does not change what is taken off may come first. -/
theorem trim_map {f : α → α} (h : ∀ a, p (f a) = p a) (l : List α) :
    trim p (l.map f) = (trim p l).map f := by
  have hp : p ∘ f = p := funext h
  rw [trim, List.dropWhile_map, hp, List.rdropWhile, ← List.map_reverse, List.dropWhile_map, hp,
    ← List.map_reverse]
  rfl

end

end Encoding
