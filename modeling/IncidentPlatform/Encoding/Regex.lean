import Mathlib.Computability.Language
import Mathlib.Data.List.Infix

/-!
# Substitution by patterns

A pattern matches the words of its `language`. `ways` are the beginnings of a text that a
backtracking matcher tries, in its order: the first alternative first and the longest repetition
first.

A `Masking` is a pattern of two groups. `Masking.sub` replaces the second one by a mark, in the
matches from the left that do not overlap. The mark can be such that no match runs into it
(`Clean`): then the result has no match left (`not_contains_sub`), and no match of another pattern
that the text did not have (`not_contains_sub_of`).
-/

namespace Encoding

universe u

inductive Regex (α : Type u) where
  | empty
  | one (p : α → Bool)
  | seq (r q : Regex α)
  | alt (r q : Regex α)
  /-- As many as there are, at least `least`. -/
  | many (least : ℕ) (p : α → Bool)

namespace Regex

variable {α : Type u} {r q : Regex α} {p : α → Bool} {least : ℕ} {s t v : List α} {c : α}

/-! ## Matching -/

def language : Regex α → Language α
  | empty => 1
  | one p => {w | ∃ c, p c = true ∧ w = [c]}
  | seq r q => r.language * q.language
  | alt r q => r.language + q.language
  | many least p => {w | least ≤ w.length ∧ ∀ c ∈ w, p c = true}

/-- The beginnings of a text in which all have `p`, the longest one first, and what follows. -/
def runs (p : α → Bool) : List α → List (List α × List α)
  | [] => [([], [])]
  | c :: s =>
    if p c then (runs p s).map (fun w ↦ (c :: w.1, w.2)) ++ [([], c :: s)] else [([], c :: s)]

/-- The beginnings of a text that are tried, in this order, and what follows each. -/
def ways : Regex α → List α → List (List α × List α)
  | empty, s => [([], s)]
  | one _, [] => []
  | one p, c :: s => if p c then [([c], s)] else []
  | seq r q, s => (r.ways s).flatMap fun w ↦ (q.ways w.2).map fun w' ↦ (w.1 ++ w'.1, w'.2)
  | alt r q, s => r.ways s ++ q.ways s
  | many least p, s => (runs p s).filter fun w ↦ decide (least ≤ w.1.length)

theorem mem_map_cons {d : α} {l : List (List α × List α)} :
    (d :: v, t) ∈ l.map (fun w ↦ (c :: w.1, w.2)) ↔ c = d ∧ (v, t) ∈ l := by
  rw [List.mem_map, Prod.exists]
  constructor
  · rintro ⟨v', t', hmem, heq⟩
    obtain ⟨hd, rfl⟩ := Prod.mk.inj heq
    obtain ⟨rfl, rfl⟩ := List.cons.inj hd
    exact ⟨rfl, hmem⟩
  · rintro ⟨rfl, hmem⟩
    exact ⟨v, t, hmem, rfl⟩

theorem mem_runs : (v, t) ∈ runs p s ↔ s = v ++ t ∧ ∀ c ∈ v, p c = true := by
  induction s generalizing v with
  | nil =>
    rw [runs, List.mem_singleton, Prod.mk.injEq, List.nil_eq, List.append_eq_nil_iff]
    refine ⟨fun h ↦ ⟨h, fun c hc ↦ ?_⟩, And.left⟩
    rw [h.1] at hc
    exact absurd hc List.not_mem_nil
  | cons c s ih =>
    cases v with
    | nil =>
      rw [runs, List.nil_append, eq_comm (b := t)]
      split_ifs <;> simp
    | cons d v =>
      rw [runs, List.cons_append, List.cons.injEq, List.forall_mem_cons]
      split_ifs with hc
      · rw [List.mem_append, mem_map_cons, ih, List.mem_singleton, Prod.mk.injEq]
        constructor
        · rintro (⟨rfl, hs, hv⟩ | ⟨h, -⟩)
          · exact ⟨⟨rfl, hs⟩, hc, hv⟩
          · exact absurd h (List.cons_ne_nil _ _)
        · rintro ⟨⟨rfl, hs⟩, -, hv⟩
          exact Or.inl ⟨rfl, hs, hv⟩
      · rw [List.mem_singleton, Prod.mk.injEq]
        constructor
        · rintro ⟨h, -⟩
          exact absurd h (List.cons_ne_nil _ _)
        · rintro ⟨⟨rfl, -⟩, hd, -⟩
          exact absurd hd hc

/-- **The matcher tries exactly the words of the language.** -/
theorem mem_ways : (v, t) ∈ r.ways s ↔ s = v ++ t ∧ v ∈ r.language := by
  induction r generalizing s v t with
  | empty =>
    rw [ways, List.mem_singleton, Prod.mk.injEq, language, Language.mem_one, and_comm]
    refine and_congr_left fun h ↦ ?_
    rw [h, List.nil_append, eq_comm]
  | one p =>
    cases s with
    | nil =>
      rw [ways, language]
      refine iff_of_false List.not_mem_nil ?_
      rintro ⟨hs, c, -, rfl⟩
      exact absurd hs (by simp)
    | cons c s =>
      rw [ways, language]
      constructor
      · intro h
        split_ifs at h with hc
        · obtain ⟨rfl, rfl⟩ := Prod.mk.inj (List.mem_singleton.mp h)
          exact ⟨rfl, c, hc, rfl⟩
        · exact absurd h List.not_mem_nil
      · rintro ⟨hs, d, hd, rfl⟩
        obtain ⟨rfl, rfl⟩ := List.cons.inj hs
        rw [if_pos hd]
        exact List.mem_singleton_self _
  | seq r q ihr ihq =>
    rw [ways, language, Language.mem_mul, List.mem_flatMap]
    constructor
    · rintro ⟨⟨a, rest⟩, hr, hmem⟩
      obtain ⟨⟨b, rest'⟩, hq, heq⟩ := List.mem_map.mp hmem
      obtain ⟨rfl, rfl⟩ := Prod.mk.inj heq
      obtain ⟨rfl, ha⟩ := ihr.mp hr
      obtain ⟨hrest, hb⟩ := ihq.mp hq
      dsimp only at hrest
      rw [hrest, List.append_assoc]
      exact ⟨rfl, a, ha, b, hb, rfl⟩
    · rintro ⟨rfl, a, ha, b, hb, rfl⟩
      rw [List.append_assoc]
      exact ⟨(a, b ++ t), ihr.mpr ⟨rfl, ha⟩, List.mem_map.mpr ⟨(b, t), ihq.mpr ⟨rfl, hb⟩, rfl⟩⟩
  | alt r q ihr ihq =>
    rw [ways, language, Language.mem_add, List.mem_append, ihr, ihq, and_or_left]
  | many least p =>
    rw [ways, List.mem_filter, mem_runs, decide_eq_true_iff, and_assoc]
    exact and_congr_right fun _ ↦ and_comm

/-- The text has a match. -/
def Contains (r : Regex α) (s : List α) : Prop := ∃ v ∈ r.language, v <:+: s

theorem contains_iff : r.Contains s ↔ ∃ t ∈ s.tails, r.ways t ≠ [] := by
  constructor
  · rintro ⟨v, hv, x, y, rfl⟩
    refine ⟨v ++ y, List.mem_tails _ _ |>.mpr ⟨x, (List.append_assoc ..).symm⟩, ?_⟩
    exact List.ne_nil_of_mem (mem_ways.mpr ⟨rfl, hv⟩)
  · rintro ⟨t, ht, hways⟩
    obtain ⟨⟨v, y⟩, hmem⟩ := List.exists_mem_of_ne_nil _ hways
    obtain ⟨rfl, hv⟩ := mem_ways.mp hmem
    obtain ⟨x, rfl⟩ := (List.mem_tails _ _).mp ht
    exact ⟨v, hv, x, y, List.append_assoc ..⟩

instance : Decidable (r.Contains s) :=
  decidable_of_iff (∃ t ∈ s.tails, (r.ways t).isEmpty = false) <| by
    rw [contains_iff]
    simp only [List.isEmpty_eq_false_iff]

theorem Contains.mono (h : r.Contains s) (hs : s <:+: t) : r.Contains t := by
  obtain ⟨v, hv, hvs⟩ := h
  exact ⟨v, hv, hvs.trans hs⟩

/-! ## The letters of a pattern -/

/-- A letter of some match, or of what could be one. -/
def admits : Regex α → α → Bool
  | empty, _ => false
  | one p, c => p c
  | seq r q, c => r.admits c || q.admits c
  | alt r q, c => r.admits c || q.admits c
  | many _ p, c => p c

theorem admits_of_mem (hv : v ∈ r.language) (hc : c ∈ v) : r.admits c = true := by
  induction r generalizing v with
  | empty =>
    obtain rfl : v = [] := hv
    exact absurd hc List.not_mem_nil
  | one p =>
    obtain ⟨d, hd, rfl⟩ := hv
    rw [List.mem_singleton.mp hc]
    exact hd
  | seq r q ihr ihq =>
    obtain ⟨a, ha, b, hb, rfl⟩ := hv
    rw [admits, Bool.or_eq_true]
    exact (List.mem_append.mp hc).imp (ihr ha) (ihq hb)
  | alt r q ihr ihq =>
    rw [admits, Bool.or_eq_true]
    exact hv.imp (ihr · hc) (ihq · hc)
  | many least p => exact hv.2 c hc

theorem not_mem_of_admits (hv : v ∈ r.language) (hc : r.admits c = false) : c ∉ v := fun hmem ↦
  Bool.false_ne_true (hc.symm.trans (admits_of_mem hv hmem))

/-- A word, separators and a token. The letters of the word could be ones of the token, and no
separator could. Then there is no match in a word with separators. -/
theorem not_contains_word {word : Regex α} {sep tok : α → Bool} {least' : ℕ}
    (hword : ∀ c, word.admits c = true → tok c = true)
    (hsep : ∀ c, sep c = true → tok c = false) (hleast : 0 < least) (hleast' : 0 < least')
    (hs : s ∈ (seq word (many least sep)).language) :
    ¬ (seq (seq word (many least sep)) (many least' tok)).Contains s := by
  rintro ⟨v, ⟨head, ⟨w, -, seps, hseps, rfl⟩, toks, htoks, rfl⟩, x, y, hxy⟩
  obtain ⟨w', hw', seps', hseps', rfl⟩ := hs
  obtain ⟨e, seps, rfl⟩ := List.exists_cons_of_length_pos (hleast.trans_le hseps.1)
  obtain ⟨d, toks, rfl⟩ := List.exists_cons_of_length_pos (hleast'.trans_le htoks.1)
  have he : sep e = true := hseps.2 e List.mem_cons_self
  have hd : tok d = true := htoks.2 d List.mem_cons_self
  -- Behind a separator there are separators only, but `d` is none.
  have hbehind (z : List α) : seps' ≠ z ++ e :: (seps ++ (d :: toks ++ y)) := fun h ↦ by
    have hmem : d ∈ seps' := h ▸ by simp
    rw [hsep d (hseps'.2 d hmem)] at hd
    exact Bool.false_ne_true hd
  have hcut : (x ++ w) ++ (e :: (seps ++ (d :: toks ++ y))) = w' ++ seps' := by
    refine Eq.trans ?_ hxy
    simp only [List.append_assoc, List.cons_append]
  rcases List.append_eq_append_iff.mp hcut with ⟨z, hw, hz⟩ | ⟨z, -, hz⟩
  · rcases List.cons_eq_append_iff.mp hz with ⟨-, hz⟩ | ⟨z, rfl, -⟩
    · exact hbehind [] hz
    · have hmem : e ∈ w' := hw ▸ List.mem_append_right _ List.mem_cons_self
      have htok := hword e (admits_of_mem hw' hmem)
      rw [hsep e he] at htok
      exact Bool.false_ne_true htok
  · exact hbehind z hz

end Regex

/-! ## Substitution -/

/-- A pattern of two groups, the second of which is to be replaced by `mark`. -/
structure Masking (α : Type u) where
  kept : Regex α
  masked : Regex α
  mark : List α

namespace Masking

open Regex

variable {α : Type u} {m : Masking α} {s t a b v : List α}

def pattern (m : Masking α) : Regex α := .seq m.kept m.masked

/-- The groups of the match at the beginning of a text. -/
def first (m : Masking α) (s : List α) : Option (List α × List α) :=
  ((m.kept.ways s).flatMap fun w ↦ (m.masked.ways w.2).map fun w' ↦ (w.1, w'.1)).head?

/-- The first `passed` letters of the text belong to the match before. -/
def subFrom (m : Masking α) : ℕ → List α → List α
  | _, [] => []
  | passed + 1, _ :: s => m.subFrom passed s
  | 0, c :: s =>
    match m.first (c :: s) with
    | some (a, b) => a ++ m.mark ++ m.subFrom ((a ++ b).length - 1) s
    | none => c :: m.subFrom 0 s

/-- The matches are taken from the left and do not overlap. A pattern of which a match can be empty
needs another rule. -/
def sub (m : Masking α) (s : List α) : List α := m.subFrom 0 s

theorem first_spec (h : m.first s = some (a, b)) :
    a ∈ m.kept.language ∧ b ∈ m.masked.language ∧ ∃ t, s = a ++ b ++ t := by
  obtain ⟨⟨a', rest⟩, ha, hmem⟩ := List.mem_flatMap.mp (List.mem_of_head? h)
  obtain ⟨⟨b', t⟩, hb, heq⟩ := List.mem_map.mp hmem
  obtain ⟨rfl, rfl⟩ := Prod.mk.inj heq
  obtain ⟨hs, hkept⟩ := mem_ways.mp ha
  obtain ⟨hrest, hmasked⟩ := mem_ways.mp hb
  dsimp only at hrest
  exact ⟨hkept, hmasked, t, by rw [hs, hrest, List.append_assoc]⟩

/-- Where there is a match, one is found. -/
theorem first_ne_none (hv : v ∈ m.pattern.language) : m.first (v ++ t) ≠ none := by
  obtain ⟨a, ha, b, hb, rfl⟩ := hv
  rw [first, Ne, List.head?_eq_none_iff]
  refine List.ne_nil_of_mem (a := (a, b)) (List.mem_flatMap.mpr ⟨(a, b ++ t), ?_, ?_⟩)
  · exact mem_ways.mpr ⟨List.append_assoc .., ha⟩
  · exact List.mem_map.mpr ⟨(b, t), mem_ways.mpr ⟨rfl, hb⟩, rfl⟩

theorem subFrom_eq (passed : ℕ) (s : List α) : m.subFrom passed s = m.sub (s.drop passed) := by
  induction s generalizing passed with
  | nil => rw [List.drop_nil, sub, subFrom, subFrom]
  | cons c s ih =>
    cases passed with
    | zero => rfl
    | succ passed => exact ih passed

theorem sub_of_none {c : α} (h : m.first (c :: s) = none) : m.sub (c :: s) = c :: m.sub s := by
  rw [sub, subFrom, h, sub]

theorem sub_of_some (hne : [] ∉ m.pattern.language) (h : m.first (a ++ b ++ t) = some (a, b)) :
    m.sub (a ++ b ++ t) = a ++ m.mark ++ m.sub t := by
  obtain ⟨ha, hb, -⟩ := first_spec h
  cases hab : a ++ b with
  | nil => exact absurd (hab ▸ ⟨a, ha, b, hb, rfl⟩) hne
  | cons c w =>
    rw [hab] at h
    rw [sub, List.cons_append, subFrom, ← List.cons_append, h]
    dsimp only
    rw [hab, List.length_cons, Nat.add_sub_cancel, subFrom_eq, List.drop_left]

/-- A text is left alone, or it is left alone up to its first match. No match begins in the part
before that one. -/
theorem sub_cases (hne : [] ∉ m.pattern.language) (s : List α) :
    (m.sub s = s ∧ ∀ x y, s = x ++ y → y ≠ [] → m.first y = none) ∨
      ∃ u a b t, s = u ++ (a ++ b ++ t) ∧ a ∈ m.kept.language ∧ b ∈ m.masked.language ∧
        m.sub s = u ++ (a ++ m.mark ++ m.sub t) ∧
          ∀ x y, u = x ++ y → y ≠ [] → m.first (y ++ (a ++ b ++ t)) = none := by
  induction s with
  | nil =>
    refine Or.inl ⟨rfl, fun x y h hy ↦ absurd ?_ hy⟩
    exact (List.append_eq_nil_iff.mp h.symm).2
  | cons c s ih =>
    rcases hfirst : m.first (c :: s) with _ | ⟨a, b⟩
    · rw [sub_of_none hfirst]
      rcases ih with ⟨hsub, hfree⟩ | ⟨u, a, b, t, rfl, ha, hb, hsub, hfree⟩
      · refine Or.inl ⟨congrArg _ hsub, fun x y h hy ↦ ?_⟩
        rcases List.cons_eq_append_iff.mp h with ⟨-, rfl⟩ | ⟨x, -, rfl⟩
        · exact hfirst
        · exact hfree x y rfl hy
      · refine Or.inr ⟨c :: u, a, b, t, rfl, ha, hb, congrArg _ hsub, fun x y h hy ↦ ?_⟩
        rcases List.cons_eq_append_iff.mp h with ⟨-, rfl⟩ | ⟨x, -, rfl⟩
        · exact hfirst
        · exact hfree x y rfl hy
    · obtain ⟨ha, hb, t, hs⟩ := first_spec hfirst
      rw [hs] at hfirst ⊢
      refine Or.inr ⟨[], a, b, t, rfl, ha, hb, sub_of_some hne hfirst, fun x y h hy ↦ absurd ?_ hy⟩
      exact (List.append_eq_nil_iff.mp h.symm).2

/-- Without a match, the text is left alone. -/
theorem sub_of_not_contains (hne : [] ∉ m.pattern.language) (h : ¬ m.pattern.Contains s) :
    m.sub s = s := by
  rcases sub_cases hne s with ⟨hsub, -⟩ | ⟨u, a, b, t, rfl, ha, hb, -, -⟩
  · exact hsub
  · exact absurd ⟨a ++ b, ⟨a, ha, b, hb, rfl⟩, List.infix_append' u (a ++ b) t⟩ h

/-! ## What the result contains -/

/-- A word without `c` is found before it or after it. -/
theorem infix_append_cons {c : α} (hc : c ∉ v) (h : v <:+: s ++ c :: t) :
    v <:+: s ∨ v <:+: t := by
  obtain ⟨x, y, hxy⟩ := h
  rw [List.append_assoc] at hxy
  rcases List.append_eq_append_iff.mp hxy with ⟨z, rfl, hz⟩ | ⟨z, rfl, hz⟩
  · rcases List.append_eq_append_iff.mp hz with ⟨w, rfl, -⟩ | ⟨w, rfl, hw⟩
    · exact Or.inl (List.infix_append' x v w)
    · rcases List.cons_eq_append_iff.mp hw with ⟨rfl, -⟩ | ⟨w, rfl, -⟩
      · rw [List.append_nil]
        exact Or.inl (List.suffix_append x z).isInfix
      · exact absurd (List.mem_append_right z List.mem_cons_self) hc
  · rcases List.cons_eq_append_iff.mp hz with ⟨rfl, hv⟩ | ⟨w, rfl, rfl⟩
    · cases v with
      | nil => exact Or.inl (List.nil_infix)
      | cons d v => exact absurd (List.cons.inj hv).1 fun h ↦ hc (h ▸ List.mem_cons_self)
    · exact Or.inr (List.infix_append' w v y)

/-- A match that ends before the second group of the first match is inside its first group. -/
theorem infix_of_before {u : List α}
    (hfree : ∀ x y, u = x ++ y → y ≠ [] → m.first (y ++ (a ++ b ++ t)) = none)
    (hv : v ∈ m.pattern.language) (h : v <:+: u ++ a) : v <:+: a := by
  obtain ⟨x, y, hxy⟩ := h
  rw [List.append_assoc] at hxy
  rcases List.append_eq_append_iff.mp hxy with ⟨z, rfl, hz⟩ | ⟨z, -, hz⟩
  · cases z with
    | nil => exact ⟨[], y, hz⟩
    | cons c z =>
      -- It would begin before the first one.
      have hnone := hfree x (c :: z) rfl (List.cons_ne_nil c z)
      rw [List.append_assoc, ← List.append_assoc, ← hz, List.append_assoc] at hnone
      exact absurd hnone (first_ne_none hv)
  · exact ⟨z, y, by rw [hz, List.append_assoc]⟩

/-- A word of the result is in the mark or was in the text. If it was in the text as a match, then
as one inside a first group. -/
theorem of_infix_sub {l l' : α} {body : List α} (hne : [] ∉ m.pattern.language)
    (hmark : m.mark = l :: (body ++ [l'])) (hl : l ∉ v) (hl' : l' ∉ v) (h : v <:+: m.sub s) :
    v <:+: body ∨ v <:+: s ∧ (v ∈ m.pattern.language → ∃ a ∈ m.kept.language, v <:+: a) := by
  induction hlength : s.length using Nat.strong_induction_on generalizing s with
  | _ n ih =>
    rcases sub_cases hne s with ⟨hsub, hfree⟩ | ⟨u, a, b, t, rfl, ha, hb, hsub, hfree⟩
    · rw [hsub] at h
      refine Or.inr ⟨h, fun hv ↦ ?_⟩
      obtain ⟨x, y, rfl⟩ := h
      refine absurd (hfree x (v ++ y) (List.append_assoc ..) ?_) (first_ne_none hv)
      exact List.append_ne_nil_of_left_ne_nil (fun hnil ↦ hne (hnil ▸ hv)) y
    · have hresult : m.sub (u ++ (a ++ b ++ t)) = (u ++ a) ++ l :: (body ++ l' :: m.sub t) := by
        rw [hsub, hmark]
        simp only [List.append_assoc, List.cons_append, List.nil_append]
      rw [hresult] at h
      rcases infix_append_cons hl h with hbefore | hafter
      · refine Or.inr ⟨hbefore.trans ?_, fun hv ↦ ⟨a, ha, infix_of_before hfree hv hbefore⟩⟩
        exact ⟨[], b ++ t, by simp only [List.nil_append, List.append_assoc]⟩
      · rcases infix_append_cons hl' hafter with hbody | hrest
        · exact Or.inl hbody
        · have hshorter : t.length < n := by
            have hab : a ++ b ≠ [] := fun hnil ↦ hne (hnil ▸ ⟨a, ha, b, hb, rfl⟩)
            have hpos := List.length_pos_iff.mpr hab
            rw [← hlength, List.length_append, List.length_append]
            omega
          refine (ih _ hshorter hrest rfl).imp_right fun ⟨hv, hmatch⟩ ↦ ⟨hv.trans ?_, hmatch⟩
          exact ⟨u ++ (a ++ b), [], by simp only [List.append_assoc, List.append_nil]⟩

/-- No match of `r` begins in the mark, ends in it or reaches over it. -/
def Bars (mark : List α) (r : Regex α) : Prop :=
  ∃ l body l', mark = l :: (body ++ [l']) ∧ r.admits l = false ∧ r.admits l' = false ∧
    ¬ r.Contains body

theorem Bars.nil_not_mem {mark : List α} {r : Regex α} (h : Bars mark r) : [] ∉ r.language := by
  obtain ⟨-, body, -, -, -, -, hbody⟩ := h
  exact fun hnil ↦ hbody ⟨[], hnil, List.nil_infix⟩

/-- No match of the pattern runs into its mark, or is inside of what it keeps. -/
structure Clean (m : Masking α) : Prop where
  bars : Bars m.mark m.pattern
  kept : ∀ a ∈ m.kept.language, ¬ m.pattern.Contains a

/-- **No match is left.** -/
theorem not_contains_sub (h : m.Clean) (s : List α) : ¬ m.pattern.Contains (m.sub s) := by
  rintro ⟨v, hv, hinfix⟩
  obtain ⟨l, body, l', hmark, hl, hl', hbody⟩ := id h.bars
  rcases of_infix_sub h.bars.nil_not_mem hmark (not_mem_of_admits hv hl)
    (not_mem_of_admits hv hl') hinfix with hv' | ⟨-, hmatch⟩
  · exact hbody ⟨v, hv, hv'⟩
  · obtain ⟨a, ha, hva⟩ := hmatch hv
    exact h.kept a ha ⟨v, hv, hva⟩

/-- **No match of another pattern is made.** -/
theorem not_contains_sub_of {r : Regex α} (hne : [] ∉ m.pattern.language) (h : Bars m.mark r)
    (hs : ¬ r.Contains s) : ¬ r.Contains (m.sub s) := by
  rintro ⟨v, hv, hinfix⟩
  obtain ⟨l, body, l', hmark, hl, hl', hbody⟩ := h
  rcases of_infix_sub hne hmark (not_mem_of_admits hv hl) (not_mem_of_admits hv hl') hinfix with
    hv' | ⟨hv', -⟩
  · exact hbody ⟨v, hv, hv'⟩
  · exact hs ⟨v, hv, hv'⟩

end Masking

end Encoding
