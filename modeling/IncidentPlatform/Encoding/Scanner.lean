import Mathlib.Data.List.TakeWhile

/-!
# Scanners

A scanner takes a value off the front of a text and leaves the rest, or refuses the text.
`Keeps I R` is its contract: from a text with `I` it leaves a text with `I` and gives a value with
`R`. There is one rule for each combinator, so the contract of a grammar is put together the way
the grammar is.

An invariant `I` does not have to survive the loss of every character. `Sheds I s` says that it
survives that of all characters but `s`.
-/

namespace Encoding

universe u v

abbrev Scanner (α : Type u) := List Char → Option (α × List Char)

namespace Scanner

variable {α : Type u} {β : Type v}

/-! ## Combinators -/

def done (a : α) : Scanner α := fun input ↦ some (a, input)

def fail : Scanner α := fun _ ↦ none

def andThen (p : Scanner α) (f : α → Scanner β) : Scanner β := fun input ↦
  (p input).bind fun r ↦ f r.1 r.2

/-- The second one where the first one refuses. -/
def orElse (p q : Scanner α) : Scanner α := fun input ↦ (p input).or (q input)

def ofOption (a : Option α) : Scanner α := fun input ↦ a.map fun a ↦ (a, input)

def char (c : Char) : Scanner Unit
  | [] => none
  | d :: rest => if d = c then some ((), rest) else none

def word (w : List Char) : Scanner (List Char) := fun input ↦
  if w.isPrefixOf input then some (w, input.drop w.length) else none

/-- The characters with `p`, as many as there are. -/
def many (p : Char → Bool) : Scanner (List Char) := fun input ↦
  some (input.takeWhile p, input.dropWhile p)

/-- What follows an element of a list: `close`, or a comma and `more`. -/
def further (space : Scanner (List Char)) (close : Char) (more : Scanner (List α)) :
    Scanner (List α) :=
  space.andThen fun _ ↦ orElse ((char close).andThen fun _ ↦ done [])
    ((char ',').andThen fun _ ↦ space.andThen fun _ ↦ more)

/-- What `elem` takes, at least once, with commas in between and `close` behind. No more than `n`
times, so `n` can be the length of the text. -/
def commaSeparated (space : Scanner (List Char)) (elem : Scanner α) (close : Char) :
    ℕ → Scanner (List α)
  | 0 => fail
  | n + 1 => elem.andThen fun a ↦
    (further space close (commaSeparated space elem close n)).andThen fun as ↦ done (a :: as)

/-! ## Runs -/

theorem andThen_of_eq {p : Scanner α} {f : α → Scanner β} {input rest : List Char} {a : α}
    (h : p input = some (a, rest)) : p.andThen f input = f a rest := by
  rw [andThen, h, Option.bind_some]

theorem andThen_of_none {p : Scanner α} {f : α → Scanner β} {input : List Char}
    (h : p input = none) : p.andThen f input = none := by
  rw [andThen, h, Option.bind_none]

theorem eq_some_of_andThen {p : Scanner α} {f : α → Scanner β} {input rest : List Char} {b : β}
    (h : p.andThen f input = some (b, rest)) :
    ∃ a rest', p input = some (a, rest') ∧ f a rest' = some (b, rest) := by
  obtain ⟨⟨a, rest'⟩, ha, hb⟩ := Option.bind_eq_some_iff.mp h
  exact ⟨a, rest', ha, hb⟩

theorem orElse_of_none {p q : Scanner α} {input : List Char} (h : p input = none) :
    p.orElse q input = q input := by
  rw [orElse, h, Option.none_or]

theorem orElse_none {p q : Scanner α} {input : List Char} (h : q input = none) :
    p.orElse q input = p input := by
  rw [orElse, h, Option.or_none]

theorem char_self (c : Char) (rest : List Char) : char c (c :: rest) = some ((), rest) := if_pos rfl

theorem char_of_ne {c d : Char} (h : d ≠ c) (rest : List Char) : char c (d :: rest) = none :=
  if_neg h

theorem word_of_ne {c d : Char} (h : c ≠ d) (w rest : List Char) :
    word (c :: w) (d :: rest) = none := by
  refine if_neg fun hprefix ↦ h ?_
  exact (List.cons_prefix_cons.mp (List.isPrefixOf_iff_prefix.mp hprefix)).1

theorem eq_of_char {c : Char} {input rest : List Char} (h : char c input = some ((), rest)) :
    input = c :: rest := by
  rcases input with _ | ⟨d, input⟩
  · cases h
  · rw [char] at h
    split_ifs at h with hd
    cases h
    rw [hd]

/-- A list that goes on does so after a comma. -/
theorem further_more {p : Char → Bool} {close : Char} {more : Scanner (List α)}
    {input rest : List Char} {as : List α} (h : further (many p) close more input = some (as, rest))
    (has : as ≠ []) : ∃ w w' input', input = w ++ ',' :: (w' ++ input') ∧
      (∀ c ∈ w, p c = true) ∧ (∀ c ∈ w', p c = true) ∧ more input' = some (as, rest) := by
  obtain ⟨_, _, hspace, h⟩ := eq_some_of_andThen h
  cases hspace
  rcases Option.or_eq_some_iff.mp h with hclosed | ⟨-, hmore⟩
  · obtain ⟨_, _, -, hdone⟩ := eq_some_of_andThen hclosed
    cases hdone
    exact absurd rfl has
  · obtain ⟨_, input'', hcomma, hrest⟩ := eq_some_of_andThen hmore
    obtain ⟨_, _, hspace, hrest⟩ := eq_some_of_andThen hrest
    cases hspace
    refine ⟨input.takeWhile p, input''.takeWhile p, input''.dropWhile p, ?_, ?_, ?_, hrest⟩
    · rw [List.takeWhile_append_dropWhile, ← eq_of_char hcomma, List.takeWhile_append_dropWhile]
    · exact fun c hc ↦ List.mem_takeWhile_imp hc
    · exact fun c hc ↦ List.mem_takeWhile_imp hc

/-- The first element of a list that is not empty. -/
theorem commaSeparated_first {space : Scanner (List Char)} {elem : Scanner α} {close : Char}
    {n : ℕ} {input rest : List Char} {as : List α}
    (h : commaSeparated space elem close n input = some (as, rest)) :
    ∃ a rest', elem input = some (a, rest') := by
  cases n with
  | zero => cases h
  | succ n =>
    obtain ⟨a, rest', ha, -⟩ := eq_some_of_andThen h
    exact ⟨a, rest', ha⟩

/-! ## Contracts -/

/-- The loss of a character other than `s` does not hurt `I`. -/
def Sheds (I : List Char → Prop) (s : Char) : Prop := ∀ c rest, c ≠ s → I (c :: rest) → I rest

def Keeps (I : List Char → Prop) (R : α → Prop) (p : Scanner α) : Prop :=
  ∀ input a rest, I input → p input = some (a, rest) → I rest ∧ R a

variable {I : List Char → Prop} {R : α → Prop} {S : β → Prop} {s : Char}

theorem Sheds.append (hI : Sheds I s) {w rest : List Char} (hw : s ∉ w) (h : I (w ++ rest)) :
    I rest := by
  induction w with
  | nil => exact h
  | cons c w ih =>
    rw [List.mem_cons, not_or] at hw
    exact ih hw.2 (hI c _ (Ne.symm hw.1) h)

namespace Keeps

theorem done {a : α} (h : R a) : (done a).Keeps I R := by
  intro input b rest hinput hrun
  cases hrun
  exact ⟨hinput, h⟩

theorem fail : (fail : Scanner α).Keeps I R := fun _ _ _ _ hrun ↦ by cases hrun

theorem andThen {p : Scanner α} {f : α → Scanner β} (hp : p.Keeps I R)
    (hf : ∀ a, R a → (f a).Keeps I S) : (p.andThen f).Keeps I S := by
  intro input b rest hinput hrun
  obtain ⟨a, middle, hfirst, hsecond⟩ := eq_some_of_andThen hrun
  obtain ⟨hmiddle, ha⟩ := hp _ _ _ hinput hfirst
  exact hf a ha _ _ _ hmiddle hsecond

theorem orElse {p q : Scanner α} (hp : p.Keeps I R) (hq : q.Keeps I R) :
    (p.orElse q).Keeps I R := by
  intro input a rest hinput hrun
  rcases Option.or_eq_some_iff.mp hrun with hfirst | ⟨-, hsecond⟩
  · exact hp _ _ _ hinput hfirst
  · exact hq _ _ _ hinput hsecond

theorem ofOption {o : Option α} (h : ∀ a, o = some a → R a) : (ofOption o).Keeps I R := by
  intro input a rest hinput hrun
  obtain ⟨b, hb, heq⟩ := Option.map_eq_some_iff.mp hrun
  cases heq
  exact ⟨hinput, h _ hb⟩

theorem char (hI : Sheds I s) {c : Char} (hc : c ≠ s) : (char c).Keeps I fun _ ↦ True := by
  rintro (_ | ⟨d, input⟩) a rest hinput hrun
  · cases hrun
  · rw [Scanner.char] at hrun
    split_ifs at hrun with hd
    cases hrun
    exact ⟨hI d _ (hd ▸ hc) hinput, trivial⟩

theorem word (hI : Sheds I s) {w : List Char} (hw : s ∉ w) : (word w).Keeps I fun _ ↦ True := by
  intro input a rest hinput hrun
  rw [Scanner.word] at hrun
  split_ifs at hrun with hprefix
  cases hrun
  obtain ⟨rest, rfl⟩ := List.isPrefixOf_iff_prefix.mp hprefix
  rw [List.drop_left]
  exact ⟨hI.append hw hinput, trivial⟩

theorem many (hI : Sheds I s) {p : Char → Bool} (hp : p s = false) :
    (many p).Keeps I fun _ ↦ True := by
  intro input a rest hinput hrun
  cases hrun
  rw [← List.takeWhile_append_dropWhile (p := p) (l := input)] at hinput
  refine ⟨hI.append (fun hs ↦ ?_) hinput, trivial⟩
  rw [List.mem_takeWhile_imp hs] at hp
  cases hp

theorem further (hI : Sheds I s) {space : Scanner (List Char)} {close : Char}
    {more : Scanner (List α)} (hspace : space.Keeps I fun _ ↦ True) (hclose : close ≠ s)
    (hcomma : ',' ≠ s) (hmore : more.Keeps I fun as ↦ ∀ a ∈ as, R a) :
    (further space close more).Keeps I fun as ↦ ∀ a ∈ as, R a := by
  refine hspace.andThen fun _ _ ↦ orElse ?_ ?_
  · exact (char hI hclose).andThen fun _ _ ↦ done fun a ha ↦ absurd ha List.not_mem_nil
  · exact (char hI hcomma).andThen fun _ _ ↦ hspace.andThen fun _ _ ↦ hmore

theorem commaSeparated (hI : Sheds I s) {space : Scanner (List Char)} {elem : Scanner α}
    {close : Char} (hspace : space.Keeps I fun _ ↦ True) (helem : elem.Keeps I R)
    (hclose : close ≠ s) (hcomma : ',' ≠ s) (n : ℕ) :
    (commaSeparated space elem close n).Keeps I fun as ↦ ∀ a ∈ as, R a := by
  induction n with
  | zero => exact fail
  | succ n ih =>
    exact helem.andThen fun a ha ↦ (further hI hspace hclose hcomma ih).andThen fun as has ↦
      done (List.forall_mem_cons.mpr ⟨ha, has⟩)

end Keeps

end Scanner

end Encoding
