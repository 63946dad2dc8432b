import IncidentPlatform.Encoding.Json

/-!
# `str` of a decoded value

`str` leaves a string as it is, and prints any other value in Python's own notation, where strings
get quotation marks and escapes. `Json.Holds.repr` is the induction for what is printed: a property
of texts that is closed under concatenation holds of it if it holds of the printed strings and of
every text without quotation marks and backslashes.

Two properties are what a reader of the printed text needs. It is `Clean`. And as long as no string
of the value has a quotation mark in it, the first one of the printed text belongs to a string with
an apostrophe, since only such a string is printed between quotation marks.
-/

namespace Encoding

universe u

/-! ## Printing -/

/-- The last `k` hexadecimal digits. -/
def hexDigits : ℕ → ℕ → List Char
  | 0, _ => []
  | k + 1, n => hexDigits k (n / 16) ++ [Nat.digitChar (n % 16)]

section

variable (py : Python)

/-- One code point of a string between quotation marks `q`. -/
def reprUnit (q : Char) (n : ℕ) : List Char :=
  if n = q.toNat ∨ n = 0x5c then ['\\', Char.ofNat n]
  else if n = 0x09 then ['\\', 't']
  else if n = 0x0a then ['\\', 'n']
  else if n = 0x0d then ['\\', 'r']
  else if n < 0x20 ∨ n = 0x7f then '\\' :: 'x' :: hexDigits 2 n
  else if n < 0x7f ∨ (n.isValidChar ∧ py.printable (Char.ofNat n) = true) then [Char.ofNat n]
  else if n ≤ 0xff then '\\' :: 'x' :: hexDigits 2 n
  else if n ≤ 0xffff then '\\' :: 'u' :: hexDigits 4 n
  else '\\' :: 'U' :: hexDigits 8 n

/-- `repr` of a string. -/
def reprStr (s : PyStr) : List Char :=
  let q := if '\''.toNat ∈ s ∧ '"'.toNat ∉ s then '"' else '\''
  q :: s.flatMap (reprUnit py q) ++ [q]

/-- `", ".join`. -/
def joinComma : List (List Char) → List Char
  | [] => []
  | [w] => w
  | w :: ws => w ++ (',' :: ' ' :: joinComma ws)

mutual

/-- `repr`. -/
def Json.repr : Json py.Num → List Char
  | .null => "None".toList
  | .bool b => if b then "True".toList else "False".toList
  | .num n => py.showNum n
  | .str s => reprStr py s
  | .arr items => '[' :: joinComma (reprItems items) ++ [']']
  | .obj members => '\x7b' :: joinComma (reprMembers members) ++ ['\x7d']

def reprItems : List (Json py.Num) → List (List Char)
  | [] => []
  | v :: vs => v.repr :: reprItems vs

def reprMembers : List (PyStr × Json py.Num) → List (List Char)
  | [] => []
  | (k, v) :: ms => (reprStr py k ++ (':' :: ' ' :: v.repr)) :: reprMembers ms

end

/-- `str`. -/
def Json.toStr : Json py.Num → PyStr
  | .str s => s
  | v => (v.repr py).map Char.toNat

end

theorem toStr_eq (py : Python) (v : Json py.Num) :
    (∃ s, v = .str s) ∨ v.toStr py = (v.repr py).map Char.toNat := by
  cases v with
  | str s => exact Or.inl ⟨s, rfl⟩
  | _ => exact Or.inr rfl

/-! ## The induction -/

/-- What concatenation keeps, and what every text has that nothing is quoted or escaped in. -/
structure Textual (Q : List Char → Prop) : Prop where
  append : ∀ {v w}, Q v → Q w → Q (v ++ w)
  plain : ∀ {w}, '"' ∉ w → '\\' ∉ w → Q w

section

variable {py : Python} {Q : List Char → Prop} {P : PyStr → Prop}

theorem Textual.joinComma (hQ : Textual Q) {ws : List (List Char)} (h : ∀ w ∈ ws, Q w) :
    Q (joinComma ws) := by
  induction ws with
  | nil => exact hQ.plain List.not_mem_nil List.not_mem_nil
  | cons w ws ih =>
    obtain ⟨hw, hws⟩ := List.forall_mem_cons.mp h
    cases ws with
    | nil => exact hw
    | cons w' ws =>
      have hcomma : Q [',', ' '] := hQ.plain (by decide) (by decide)
      exact hQ.append hw (hQ.append hcomma (ih hws))

theorem reprItems_eq (items : List (Json py.Num)) :
    reprItems py items = items.map (Json.repr py) := by
  induction items with
  | nil => rfl
  | cons v items ih => exact congrArg (v.repr py :: ·) ih

theorem reprMembers_eq (members : List (PyStr × Json py.Num)) :
    reprMembers py members
      = members.map fun m ↦ reprStr py m.1 ++ (':' :: ' ' :: m.2.repr py) := by
  induction members with
  | nil => rfl
  | cons m members ih => exact congrArg (_ :: ·) ih

/-- **The induction for printed values.** -/
theorem Json.Holds.repr (hQ : Textual Q) (hstr : ∀ s, P s → Q (reprStr py s))
    {v : Json py.Num} (hv : v.Holds P) : Q (v.repr py) := by
  have hbrackets {o c : Char} {w : List Char} (ho : Q [o]) (hw : Q w) (hc : Q [c]) :
      Q (o :: w ++ [c]) := hQ.append (hQ.append ho hw) hc
  induction hv with
  | null =>
    rw [Json.repr]
    exact hQ.plain (by decide) (by decide)
  | bool b =>
    rw [Json.repr]
    split_ifs
    · exact hQ.plain (by decide) (by decide)
    · exact hQ.plain (by decide) (by decide)
  | num n => exact hQ.plain (py.showNum_plain n).1 (py.showNum_plain n).2
  | str h => exact hstr _ h
  | @arr items h ih =>
    rw [Json.repr, reprItems_eq]
    refine hbrackets (hQ.plain (by decide) (by decide)) (hQ.joinComma ?_)
      (hQ.plain (by decide) (by decide))
    exact List.forall_mem_map.mpr ih
  | @obj members hkeys h ih =>
    rw [Json.repr, reprMembers_eq]
    refine hbrackets (hQ.plain (by decide) (by decide)) (hQ.joinComma ?_)
      (hQ.plain (by decide) (by decide))
    refine List.forall_mem_map.mpr fun m hm ↦ hQ.append (hstr _ (hkeys m hm)) ?_
    exact @Textual.append Q hQ [':', ' '] _ (hQ.plain (by decide) (by decide)) (ih m hm)

end

/-! ## What is printed is clean -/

theorem clean_of_plain {w : List Char} (h : '\\' ∉ w) : Clean w := by
  induction w with
  | nil => exact .nil
  | cons c w ih =>
    rw [List.mem_cons, not_or] at h
    exact .char (Ne.symm h.1) (ih h.2)

theorem clean_textual : Textual Clean := ⟨Clean.append, fun _ h ↦ clean_of_plain h⟩

theorem digitChar_plain (n : ℕ) : Nat.digitChar (n % 16) ≠ '"' ∧ Nat.digitChar (n % 16) ≠ '\\' := by
  have htable : ∀ d < 16, Nat.digitChar d ≠ '"' ∧ Nat.digitChar d ≠ '\\' := by decide
  exact htable _ (Nat.mod_lt n (by decide))

theorem hexDigits_plain (k : ℕ) : ∀ n, '"' ∉ hexDigits k n ∧ '\\' ∉ hexDigits k n := by
  induction k with
  | zero => exact fun _ ↦ ⟨List.not_mem_nil, List.not_mem_nil⟩
  | succ k ih =>
    intro n
    obtain ⟨hquote, hslash⟩ := digitChar_plain n
    obtain ⟨ihquote, ihslash⟩ := ih (n / 16)
    simp [hexDigits, ihquote, ihslash, hquote.symm, hslash.symm]

/-- Reading what was printed. -/
theorem hexFour_hexDigits {n : ℕ} (hn : n ≤ 0xffff) :
    ∃ a b c d, hexDigits 4 n = [a, b, c, d] ∧ hexFour a b c d = some n := by
  have htable : ∀ d < 16, hexDigit (Nat.digitChar d) = some d := by decide
  have hdigit (m : ℕ) : hexDigit (Nat.digitChar (m % 16)) = some (m % 16) :=
    htable _ (Nat.mod_lt m (by decide))
  refine ⟨_, _, _, _, rfl, ?_⟩
  simp only [hexFour, hdigit, Option.bind_eq_bind, Option.bind_some, Option.pure_def,
    Option.some.injEq]
  omega

section

variable (py : Python)

theorem toNat_ofNat {n : ℕ} (h : n.isValidChar) : (Char.ofNat n).toNat = n := by
  rw [Char.ofNat, dif_pos h]
  rfl

theorem ofNat_ne {n : ℕ} {c : Char} (hc : n ≠ c.toNat)
    (h : n < 0x7f ∨ (n.isValidChar ∧ py.printable (Char.ofNat n) = true)) : Char.ofNat n ≠ c := by
  have hvalid : n.isValidChar := by
    rcases h with h | ⟨h, -⟩
    · exact Or.inl (by omega)
    · exact h
  rintro rfl
  exact hc (toNat_ofNat hvalid).symm

/-- A code point is printed cleanly, unless it is escaped as a quotation mark. -/
theorem reprUnit_clean {q : Char} {n : ℕ} (hq : q = '\'' ∨ q = '"' ∧ n ≠ '"'.toNat) :
    Clean (reprUnit py q n) := by
  have hletter (e : Char) (w : List Char) (hquote : e ≠ '"') (hu : e ≠ 'u') (hw : '\\' ∉ w) :
      Clean ('\\' :: e :: w) := .letter hquote hu (clean_of_plain hw)
  rw [reprUnit]
  split_ifs with hescaped _ _ _ _ _ _ hshort
  · rcases hescaped with rfl | rfl
    · rw [Char.ofNat_toNat]
      rcases hq with rfl | ⟨rfl, hn⟩
      · exact hletter _ _ (by decide) (by decide) List.not_mem_nil
      · exact absurd rfl hn
    · exact hletter _ _ (by decide) (by decide) List.not_mem_nil
  · exact hletter _ _ (by decide) (by decide) List.not_mem_nil
  · exact hletter _ _ (by decide) (by decide) List.not_mem_nil
  · exact hletter _ _ (by decide) (by decide) List.not_mem_nil
  · exact hletter _ _ (by decide) (by decide) (hexDigits_plain 2 n).2
  · exact .char (ofNat_ne py (fun h ↦ hescaped (Or.inr h)) ‹_›) .nil
  · exact hletter _ _ (by decide) (by decide) (hexDigits_plain 2 n).2
  · obtain ⟨a, b, c, d, hdigits, hcode⟩ := hexFour_hexDigits hshort
    rw [hdigits]
    refine .unicode ?_ .nil
    rw [hcode]
    simp
    omega
  · exact hletter _ _ (by decide) (by decide) (hexDigits_plain 8 n).2

theorem clean_flatMap {s : PyStr} {f : ℕ → List Char} (h : ∀ n ∈ s, Clean (f n)) :
    Clean (s.flatMap f) := by
  induction s with
  | nil => exact .nil
  | cons n s ih =>
    obtain ⟨hn, hs⟩ := List.forall_mem_cons.mp h
    exact hn.append (ih hs)

theorem reprStr_clean (s : PyStr) : Clean (reprStr py s) := by
  have hmark (q : Char) (hq : q ≠ '\\') : Clean [q] := .char hq .nil
  unfold reprStr
  split_ifs with hquoted
  · refine .char (by decide) (Clean.append (clean_flatMap fun n hn ↦ ?_) (hmark _ (by decide)))
    exact reprUnit_clean py (Or.inr ⟨rfl, fun heq ↦ hquoted.2 (heq ▸ hn)⟩)
  · refine .char (by decide) (Clean.append (clean_flatMap fun n hn ↦ ?_) (hmark _ (by decide)))
    exact reprUnit_clean py (Or.inl rfl)

/-! ## The first quotation mark -/

/-- The first quotation mark, if there is one, is followed by an apostrophe and not by another
quotation mark first. -/
def Opens (w : List Char) : Prop :=
  ∀ v rest, w = v ++ '"' :: rest → '"' ∉ v → '\'' ∈ rest.takeWhile (· != '"')

theorem opens_of_not_mem {w : List Char} (h : '"' ∉ w) : Opens w := by
  rintro v rest rfl -
  exact absurd (List.mem_append_right v List.mem_cons_self) h

theorem Opens.append {w w' : List Char} (h : Opens w) (h' : Opens w') : Opens (w ++ w') := by
  intro v rest heq hv
  rcases List.append_eq_append_iff.mp heq with ⟨v', rfl, hw'⟩ | ⟨v', rfl, hrest⟩
  · exact h' v' rest hw' fun hmem ↦ hv (List.mem_append_right w hmem)
  · cases v' with
    | nil => exact h' [] rest hrest.symm List.not_mem_nil
    | cons c v' =>
      obtain ⟨rfl, htail⟩ := List.cons.inj hrest
      have hmem := h v v' rfl hv
      rw [show rest = v' ++ w' from htail, List.takeWhile_append]
      split_ifs
      · exact List.mem_append_left _ (List.takeWhile_subset _ hmem)
      · exact hmem

theorem opens_textual : Textual Opens := ⟨Opens.append, fun h _ ↦ opens_of_not_mem h⟩

theorem reprUnit_quote {q : Char} {n : ℕ} (hq : q = '\'' ∨ q = '"') (hn : n ≠ '"'.toNat) :
    '"' ∉ reprUnit py q n := by
  have hescape (e : Char) (w : List Char) (he : e ≠ '"') (hw : '"' ∉ w) :
      '"' ∉ '\\' :: e :: w := by
    simp [he.symm, hw]
  rw [reprUnit]
  split_ifs with hescaped
  · refine hescape _ _ ?_ List.not_mem_nil
    rcases hescaped with rfl | rfl
    · rw [Char.ofNat_toNat]
      rintro rfl
      exact hn rfl
    · decide
  · exact hescape _ _ (by decide) List.not_mem_nil
  · exact hescape _ _ (by decide) List.not_mem_nil
  · exact hescape _ _ (by decide) List.not_mem_nil
  · exact hescape _ _ (by decide) (hexDigits_plain 2 n).1
  · exact fun hmem ↦ ofNat_ne py hn ‹_› (List.mem_singleton.mp hmem).symm
  · exact hescape _ _ (by decide) (hexDigits_plain 2 n).1
  · exact hescape _ _ (by decide) (hexDigits_plain 4 n).1
  · exact hescape _ _ (by decide) (hexDigits_plain 8 n).1

/-- A string without quotation marks is printed between them only if it has an apostrophe. -/
theorem reprStr_opens {s : PyStr} (hs : '"'.toNat ∉ s) : Opens (reprStr py s) := by
  have hunits (q : Char) (hq : q = '\'' ∨ q = '"') : '"' ∉ s.flatMap (reprUnit py q) := by
    intro hmem
    obtain ⟨n, hn, hmem⟩ := List.mem_flatMap.mp hmem
    exact reprUnit_quote py hq (fun heq ↦ hs (heq ▸ hn)) hmem
  unfold reprStr
  split_ifs with hquoted
  · intro v rest heq hv
    cases v with
    | cons c v =>
      rw [List.cons_append, List.cons_append] at heq
      exact absurd (List.mem_cons.mpr (Or.inl (List.cons.inj heq).1)) hv
    | nil =>
      rw [List.cons_append, List.nil_append] at heq
      rw [← (List.cons.inj heq).2, List.takeWhile_append_of_pos]
      · refine List.mem_append_left _ (List.mem_flatMap.mpr ⟨_, hquoted.1, ?_⟩)
        exact List.mem_singleton.mpr rfl
      · intro c hc
        have hne : c ≠ '"' := fun h ↦ hunits _ (Or.inr rfl) (h ▸ hc)
        simpa using hne
  · refine opens_of_not_mem ?_
    simp [hunits '\'' (Or.inl rfl)]

end

end Encoding
