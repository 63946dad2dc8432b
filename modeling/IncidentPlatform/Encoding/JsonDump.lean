import IncidentPlatform.Encoding.Dict
import IncidentPlatform.Encoding.Repr

/-!
# JSON, as `json.dumps` writes it

The encoder of Python with its default settings: ASCII only, a blank after every comma and colon.
A code point beyond the basic plane is written as two `\u` escapes, one for each half, and the
decoder puts the halves together again. It does so for any two halves in a row, also where the
string had them as two code points. `loads_dumps` says that this is all that can be lost: what is
written is read as `Json.normal`, and a value comes back as it was if and only if no string in it
has a high surrogate before a low one.

How a number is written is up to Python, see `Writer`.
-/

namespace Encoding

universe u

/-! ## Writing -/

def unicodeEscape (n : ℕ) : List Char := '\\' :: 'u' :: hexDigits 4 n

/-- The halves of a code point beyond the basic plane. -/
def highHalf (n : ℕ) : ℕ := 0xd800 + (n - 0x10000) / 0x400

def lowHalf (n : ℕ) : ℕ := 0xdc00 + (n - 0x10000) % 0x400

/-- One code point. -/
def dumpUnit (n : ℕ) : List Char :=
  if n = 0x22 then ['\\', '"']
  else if n = 0x5c then ['\\', '\\']
  else if n = 0x08 then ['\\', 'b']
  else if n = 0x0c then ['\\', 'f']
  else if n = 0x0a then ['\\', 'n']
  else if n = 0x0d then ['\\', 'r']
  else if n = 0x09 then ['\\', 't']
  else if 0x20 ≤ n ∧ n ≤ 0x7e then [Char.ofNat n]
  else if n < 0x10000 then unicodeEscape n
  else unicodeEscape (highHalf n) ++ unicodeEscape (lowHalf n)

def dumpStr (s : PyStr) : List Char := '"' :: (s.flatMap dumpUnit ++ ['"'])

section

variable {ν : Type u} (write : ν → List Char)

mutual

/-- `json.dumps`. -/
def Json.dumps : Json ν → List Char
  | .null => ['n', 'u', 'l', 'l']
  | .bool b => if b then ['t', 'r', 'u', 'e'] else ['f', 'a', 'l', 's', 'e']
  | .num n => write n
  | .str s => dumpStr s
  | .arr items => '[' :: (joinComma (dumpItems items) ++ [']'])
  | .obj members => '\x7b' :: (joinComma (dumpMembers members) ++ ['\x7d'])

def dumpItems : List (Json ν) → List (List Char)
  | [] => []
  | v :: vs => v.dumps :: dumpItems vs

def dumpMembers : List (PyStr × Json ν) → List (List Char)
  | [] => []
  | (k, v) :: ms => (dumpStr k ++ (':' :: ' ' :: v.dumps)) :: dumpMembers ms

end

end

/-! ## Strings -/

/-- The code points of Unicode, surrogates among them. -/
def CodePoints (s : PyStr) : Prop := ∀ n ∈ s, n < 0x110000

/-- What one code point is read as, before the halves are put together. -/
def halves (n : ℕ) : PyStr := if n < 0x10000 then [n] else [highHalf n, lowHalf n]

/-- No high surrogate has a low one behind it. -/
def Unpaired (s : PyStr) : Prop :=
  s.IsChain fun n m ↦ ¬ (0xd800 ≤ n ∧ n < 0xdc00 ∧ 0xdc00 ≤ m ∧ m < 0xe000)

instance (s : PyStr) : Decidable (Unpaired s) := inferInstanceAs (Decidable (s.IsChain _))

theorem units_escape {e : Char} {n : ℕ} (hu : e ≠ 'u') (hn : escape e = some n)
    (rest : List Char) :
    units ('\\' :: e :: rest) = (units rest).map fun r ↦ (n :: r.1, r.2) := by
  rw [units.eq_def]
  dsimp only
  rw [if_neg (by decide), if_pos rfl, if_neg hu, hn]
  rcases units rest with _ | r <;> rfl

theorem units_unicode {n : ℕ} (hn : n ≤ 0xffff) (rest : List Char) :
    units (unicodeEscape n ++ rest) = (units rest).map fun r ↦ (n :: r.1, r.2) := by
  obtain ⟨a, b, c, d, hdigits, hcode⟩ := hexFour_hexDigits hn
  rw [unicodeEscape, hdigits, List.cons_append, List.cons_append, units.eq_def]
  dsimp only [List.cons_append, List.nil_append]
  rw [if_neg (by decide), if_pos rfl, if_pos rfl, hcode]
  rcases units rest with _ | r <;> rfl

theorem units_char {n : ℕ} (hlow : 0x20 ≤ n) (hhigh : n ≤ 0x7e) (hquote : n ≠ 0x22)
    (hslash : n ≠ 0x5c) (rest : List Char) :
    units (Char.ofNat n :: rest) = (units rest).map fun r ↦ (n :: r.1, r.2) := by
  have hvalid : n.isValidChar := Or.inl (by omega)
  have hnat : (Char.ofNat n).toNat = n := toNat_ofNat hvalid
  have hne (c : Char) (hc : n ≠ c.toNat) : Char.ofNat n ≠ c := by
    rintro rfl
    exact hc hnat.symm
  rw [units.eq_def]
  dsimp only
  rw [if_neg (hne '"' hquote), if_neg (hne '\\' hslash), hnat, if_neg (by omega)]
  rcases units rest with _ | r <;> rfl

/-- Reading one code point that was written. -/
theorem units_dumpUnit {n : ℕ} (hn : n < 0x110000) (rest : List Char) :
    units (dumpUnit n ++ rest) = (units rest).map fun r ↦ (halves n ++ r.1, r.2) := by
  have hletter {e : Char} (hu : e ≠ 'u') (hcode : escape e = some n) (hsmall : n < 0x10000) :
      units (['\\', e] ++ rest) = (units rest).map fun r ↦ (halves n ++ r.1, r.2) := by
    rw [halves, if_pos hsmall]
    exact units_escape hu hcode rest
  rw [dumpUnit]
  split_ifs with hquote hslash hb hf hnl hr ht hplain hsmall
  · exact hletter (by decide) (by rw [hquote]; rfl) (by omega)
  · exact hletter (by decide) (by rw [hslash]; rfl) (by omega)
  · exact hletter (by decide) (by rw [hb]; rfl) (by omega)
  · exact hletter (by decide) (by rw [hf]; rfl) (by omega)
  · exact hletter (by decide) (by rw [hnl]; rfl) (by omega)
  · exact hletter (by decide) (by rw [hr]; rfl) (by omega)
  · exact hletter (by decide) (by rw [ht]; rfl) (by omega)
  · rw [halves, if_pos (by omega)]
    exact units_char hplain.1 hplain.2 hquote hslash rest
  · rw [halves, if_pos hsmall]
    exact units_unicode (by omega) rest
  · have hhigh : highHalf n ≤ 0xffff := by
      rw [highHalf]
      omega
    have hlow : lowHalf n ≤ 0xffff := by
      rw [lowHalf]
      omega
    rw [halves, if_neg hsmall, List.append_assoc, units_unicode hhigh, units_unicode hlow]
    rcases units rest with _ | r <;> rfl

theorem units_dumpStr {s : PyStr} (hs : CodePoints s) (rest : List Char) :
    units (s.flatMap dumpUnit ++ '"' :: rest) = some (s.flatMap halves, rest) := by
  induction s with
  | nil =>
    rw [List.flatMap_nil, List.nil_append, units.eq_def]
    exact if_pos rfl
  | cons n s ih =>
    obtain ⟨hn, hs⟩ := List.forall_mem_cons.mp hs
    rw [List.flatMap_cons, List.flatMap_cons, List.append_assoc, units_dumpUnit hn, ih hs]
    rfl

/-- The string that comes back. -/
def normalStr (s : PyStr) : PyStr := joinSurrogates (s.flatMap halves)

theorem scanString_dumpStr {s : PyStr} (hs : CodePoints s) (rest : List Char) :
    scanString (s.flatMap dumpUnit ++ '"' :: rest) = some (normalStr s, rest) :=
  Scanner.andThen_of_eq (units_dumpStr hs rest)

theorem joinSurrogates_halves {n : ℕ} (hlow : 0x10000 ≤ n) (hn : n < 0x110000) (s : PyStr) :
    joinSurrogates (highHalf n :: lowHalf n :: s) = n :: joinSurrogates s := by
  rw [joinSurrogates, highHalf, lowHalf, if_pos (by omega)]
  exact congrArg (· :: joinSurrogates s) (by omega)

/-- **What a string loses.** It comes back as it was if and only if it has no pair of surrogates. -/
theorem normalStr_eq_iff {s : PyStr} (hs : CodePoints s) : normalStr s = s ↔ Unpaired s := by
  rw [normalStr, Unpaired]
  induction s with
  | nil => exact iff_of_true rfl List.IsChain.nil
  | cons n s ih =>
    obtain ⟨hn, hs⟩ := List.forall_mem_cons.mp hs
    by_cases hsmall : n < 0x10000
    · rw [List.flatMap_cons, halves, if_pos hsmall]
      cases s with
      | nil => exact iff_of_true rfl (List.IsChain.singleton n)
      | cons m s =>
        -- The first half of `m` is `m` itself or a high one, which is no partner for `n`.
        obtain ⟨k, rest, hrest, hk⟩ : ∃ k rest, (m :: s).flatMap halves = k :: rest ∧
            ((0xdc00 ≤ k ∧ k < 0xe000) ↔ 0xdc00 ≤ m ∧ m < 0xe000) := by
          rw [List.flatMap_cons, halves]
          split_ifs with hm
          · exact ⟨_, _, rfl, Iff.rfl⟩
          · refine ⟨_, _, rfl, ?_⟩
            rw [highHalf]
            have := (List.forall_mem_cons.mp hs).1
            omega
        rw [List.isChain_cons_cons, ← ih hs, hrest, List.singleton_append, joinSurrogates]
        split_ifs with hpair
        · refine iff_of_false (fun heq ↦ ?_) fun h ↦ h.1 ?_
          · have := (List.cons.inj heq).1
            omega
          · exact ⟨hpair.1, hpair.2.1, hk.mp hpair.2.2⟩
        · have hunpaired : ¬ (0xd800 ≤ n ∧ n < 0xdc00 ∧ 0xdc00 ≤ m ∧ m < 0xe000) :=
            fun h ↦ hpair ⟨h.1, h.2.1, hk.mpr h.2.2⟩
          rw [List.cons_eq_cons, and_iff_right hunpaired, and_iff_right rfl]
    · rw [List.flatMap_cons, halves, if_neg hsmall, List.cons_append, List.cons_append,
        List.nil_append, joinSurrogates_halves (by omega) hn, List.cons_eq_cons,
        and_iff_right rfl, ih hs]
      cases s with
      | nil => simp
      | cons m s =>
        rw [List.isChain_cons_cons]
        exact (and_iff_right (by omega)).symm

/-! ## Lists -/

/-- What may follow a value in a list. -/
def Ends (rest : List Char) : Prop := ∀ c ∈ rest.head?, c = ',' ∨ c = ']' ∨ c = '\x7d'

/-- What a value can start with. -/
def opens (c : Char) : Bool :=
  isDigit c || c == '-' || c == 'N' || c == 'I' || c == 'n' || c == 't' || c == 'f' || c == '"' ||
    c == '[' || c == '\x7b'

theorem opens_ne {c d : Char} (hc : opens c = true) (hd : opens d = false) : c ≠ d := by
  rintro rfl
  exact absurd hc (by rw [hd]; decide)

theorem isSpace_of_opens {c : Char} (hc : opens c = true) : isSpace c = false := by
  have hne (d : Char) (hd : opens d = false) : (c == d) = false :=
    beq_eq_false_iff_ne.mpr (opens_ne hc hd)
  rw [isSpace, hne ' ' (by decide), hne '\t' (by decide), hne '\n' (by decide),
    hne '\r' (by decide)]
  rfl

theorem space_blank {c : Char} (hc : isSpace c = false) (rest : List Char) :
    space (' ' :: c :: rest) = some ([' '], c :: rest) := by
  rw [space, Scanner.many, List.takeWhile_cons_of_pos (by decide),
    List.takeWhile_cons_of_neg (by simp [hc]), List.dropWhile_cons_of_pos (by decide),
    List.dropWhile_cons_of_neg (by simp [hc])]

/-- `elem` reads the text `w` of a list as `a`. -/
structure Reads {α : Type} (elem : Scanner α) (w : List Char) (a : α) : Prop where
  head : ∃ c w', w = c :: w' ∧ opens c = true
  scan : ∀ rest, Ends rest → elem (w ++ rest) = some (a, rest)

theorem joinComma_cons_cons (w w' : List Char) (ws : List (List Char)) :
    joinComma (w :: w' :: ws) = w ++ (',' :: ' ' :: joinComma (w' :: ws)) := rfl

theorem length_le_joinComma (ws : List (List Char)) : ws.length ≤ (joinComma ws).length + 1 := by
  induction ws with
  | nil => exact Nat.zero_le _
  | cons w ws ih =>
    cases ws with
    | nil => exact Nat.le_add_left 1 _
    | cons w' ws =>
      simp only [joinComma_cons_cons, List.length_append, List.length_cons] at ih ⊢
      omega

section

variable {α : Type} {elem : Scanner α} {ws : List (List Char)} {as : List α} {close : Char}

theorem further_close (hclose : close = ']' ∨ close = '\x7d') (more : Scanner (List α))
    (rest : List Char) : Scanner.further space close more (close :: rest) = some ([], rest) := by
  have hspace : isSpace close = false := by
    rcases hclose with rfl | rfl <;> rfl
  rw [Scanner.further, Scanner.andThen_of_eq (space_cons rest hspace), Scanner.orElse,
    Scanner.andThen_of_eq (Scanner.char_self _ _)]
  rfl

theorem further_comma {c : Char} (hc : isSpace c = false) (hclose : close = ']' ∨ close = '\x7d')
    (more : Scanner (List α)) (rest : List Char) :
    Scanner.further space close more (',' :: ' ' :: c :: rest) = more (c :: rest) := by
  have hcomma : ',' ≠ close := by
    rcases hclose with rfl | rfl <;> decide
  rw [Scanner.further, Scanner.andThen_of_eq (space_cons _ (by decide)),
    Scanner.orElse_of_none (Scanner.andThen_of_none (Scanner.char_of_ne hcomma _)),
    Scanner.andThen_of_eq (Scanner.char_self _ _), Scanner.andThen_of_eq (space_blank hc rest)]

theorem commaSeparated_joinComma (hclose : close = ']' ∨ close = '\x7d')
    (h : List.Forall₂ (Reads elem) ws as) (hne : ws ≠ []) (n : ℕ) (hn : ws.length ≤ n)
    (rest : List Char) :
    Scanner.commaSeparated space elem close n (joinComma ws ++ close :: rest)
      = some (as, rest) := by
  have hends : Ends (close :: rest) := by
    intro c hc
    cases hc
    exact Or.inr hclose
  induction h generalizing n with
  | nil => exact absurd rfl hne
  | @cons w a ws as hw hws ih =>
    obtain ⟨n, rfl⟩ : ∃ k, n = k + 1 := ⟨n - 1, by rw [List.length_cons] at hn; omega⟩
    rw [Scanner.commaSeparated]
    cases hws with
    | nil =>
      rw [joinComma, Scanner.andThen_of_eq (hw.scan _ hends),
        Scanner.andThen_of_eq (further_close hclose _ rest)]
      rfl
    | @cons w' a' ws as hw' hws =>
      obtain ⟨c, w'', rfl, hc⟩ := hw'.head
      have hmore := ih (List.cons_ne_nil _ _) n (Nat.le_of_succ_le_succ hn)
      have htext : joinComma (w :: (c :: w'') :: ws) ++ close :: rest
          = w ++ (',' :: ' ' :: c :: (joinComma ((c :: w'') :: ws) ++ close :: rest).tail) := by
        rw [joinComma_cons_cons, List.append_assoc, List.cons_append, List.cons_append]
        cases ws <;> rfl
      have htail : c :: (joinComma ((c :: w'') :: ws) ++ close :: rest).tail
          = joinComma ((c :: w'') :: ws) ++ close :: rest := by
        cases ws <;> rfl
      have hcomma : Ends
          (',' :: ' ' :: c :: (joinComma ((c :: w'') :: ws) ++ close :: rest).tail) := by
        intro d hd
        cases hd
        exact Or.inl rfl
      have hfurther := (further_comma (isSpace_of_opens hc) hclose
        (Scanner.commaSeparated space elem close n)
        (joinComma ((c :: w'') :: ws) ++ close :: rest).tail).trans ((congrArg _ htail).trans hmore)
      rw [htext, Scanner.andThen_of_eq (hw.scan _ hcomma), Scanner.andThen_of_eq hfurther]
      rfl

/-- The items of an array or object. -/
theorem enclosed_joinComma (hclose : close = ']' ∨ close = '\x7d')
    (h : List.Forall₂ (Reads elem) ws as) (rest : List Char) :
    enclosed elem close (joinComma ws ++ close :: rest) = some (as, rest) := by
  cases h with
  | nil =>
    have hspace : isSpace close = false := by
      rcases hclose with rfl | rfl <;> rfl
    rw [joinComma, List.nil_append, enclosed, Scanner.andThen_of_eq (space_cons rest hspace),
      Scanner.orElse, Scanner.andThen_of_eq (Scanner.char_self _ _)]
    rfl
  | @cons w a ws as hw hws =>
    obtain ⟨c, w', rfl, hc⟩ := hw.head
    have hhead : ∃ text, joinComma ((c :: w') :: ws) ++ close :: rest = c :: text := by
      cases ws <;> exact ⟨_, rfl⟩
    have hlist := commaSeparated_joinComma hclose (.cons hw hws) (List.cons_ne_nil _ _)
      (joinComma ((c :: w') :: ws) ++ close :: rest).length
    have hlength : ((c :: w') :: ws).length ≤
        (joinComma ((c :: w') :: ws) ++ close :: rest).length := by
      have hjoin := length_le_joinComma ((c :: w') :: ws)
      have hclosed : 1 ≤ (close :: rest).length := Nat.succ_le_succ (Nat.zero_le _)
      rw [List.length_append]
      omega
    obtain ⟨text, htext⟩ := hhead
    have hne : c ≠ close := by
      rcases hclose with rfl | rfl <;> exact opens_ne hc (by decide)
    have hscan := hlist hlength rest
    rw [htext] at hscan ⊢
    rw [enclosed, Scanner.andThen_of_eq (space_cons text (isSpace_of_opens hc)),
      Scanner.orElse_of_none (Scanner.andThen_of_none (Scanner.char_of_ne hne _))]
    exact hscan

end

/-! ## Values -/

/-- How numbers are written: in such a way that they are read again. -/
structure Writer (py : Python) where
  write : py.Num → List Char
  reads : ∀ n, Reads (scanNumber py) (write n) (.num n)

namespace Json

variable {ν : Type u}

/-- A value that Python can hold and the decoder does not find too deep: no dictionary has a key
twice, and there are at most `n` levels. -/
inductive Fits : ℕ → Json ν → Prop
  | null {n} : Fits (n + 1) null
  | bool {n} (b) : Fits (n + 1) (bool b)
  | num {n} (q) : Fits (n + 1) (num q)
  | str {n s} (hs : CodePoints s) : Fits (n + 1) (str s)
  | arr {n items} (h : ∀ v ∈ items, Fits n v) : Fits (n + 1) (arr items)
  | obj {n members} (hdistinct : (keys members).Nodup) (hkeys : ∀ m ∈ members, CodePoints m.1)
    (h : ∀ m ∈ members, Fits n m.2) : Fits (n + 1) (obj members)

mutual

/-- What a value is read as when it was written. -/
def normal : Json ν → Json ν
  | str s => str (normalStr s)
  | arr items => arr (normalItems items)
  | obj members => obj (dict (normalMembers members))
  | v => v

def normalItems : List (Json ν) → List (Json ν)
  | [] => []
  | v :: vs => v.normal :: normalItems vs

def normalMembers : List (PyStr × Json ν) → List (PyStr × Json ν)
  | [] => []
  | (k, v) :: ms => (normalStr k, v.normal) :: normalMembers ms

end

end Json

section

variable (py : Python) (n : ℕ) (rest : List Char)

theorem scanValue_bracket : scanValue py (n + 1) ('[' :: rest)
    = ((enclosed (scanValue py n) ']').andThen fun vs ↦ .done (.arr vs)) rest := by
  have hother : (scanName.orElse (scanNumber py)) ('[' :: rest) = none := by
    have hname (c : Char) (hc : c ≠ '[') (w : List Char) (v : Json py.Num) :
        ((Scanner.word (c :: w)).andThen fun _ ↦ .done v) ('[' :: rest) = none :=
      Scanner.andThen_of_none (Scanner.word_of_ne hc w rest)
    rw [Scanner.orElse_of_none, scanNumber_none rest py (by decide) (by decide) (by decide)
      (by decide)]
    rw [scanName, Scanner.orElse_of_none (hname 'n' (by decide) _ _),
      Scanner.orElse_of_none (hname 't' (by decide) _ _)]
    exact hname 'f' (by decide) _ _
  rw [scanValue, Scanner.orElse_of_none, Scanner.orElse_of_none, Scanner.orElse_none hother,
    scanArray, Scanner.andThen_of_eq (Scanner.char_self _ _)]
  · exact Scanner.andThen_of_none (Scanner.char_of_ne (by decide) rest)
  · exact Scanner.andThen_of_none (Scanner.char_of_ne (by decide) rest)

/-- What starts with no quotation mark, brace or bracket is a name or a number. -/
theorem scanValue_other {c : Char} (hquote : c ≠ '"') (hbrace : c ≠ '\x7b') (hbracket : c ≠ '[') :
    scanValue py (n + 1) (c :: rest) = (scanName.orElse (scanNumber py)) (c :: rest) := by
  rw [scanValue, Scanner.orElse_of_none, Scanner.orElse_of_none, Scanner.orElse_of_none]
  · exact Scanner.andThen_of_none (Scanner.char_of_ne hbracket rest)
  · exact Scanner.andThen_of_none (Scanner.char_of_ne hbrace rest)
  · exact Scanner.andThen_of_none (Scanner.char_of_ne hquote rest)

theorem scanName_none {c : Char} (hn : c ≠ 'n') (ht : c ≠ 't') (hf : c ≠ 'f') :
    (scanName : Scanner (Json py.Num)) (c :: rest) = none := by
  have hname (d : Char) (hd : c ≠ d) (w : List Char) (v : Json py.Num) :
      ((Scanner.word (d :: w)).andThen fun _ ↦ .done v) (c :: rest) = none :=
    Scanner.andThen_of_none (Scanner.word_of_ne hd.symm w rest)
  rw [scanName, Scanner.orElse_of_none (hname 'n' hn _ _),
    Scanner.orElse_of_none (hname 't' ht _ _)]
  exact hname 'f' hf _ _

end

section

variable {py : Python} (W : Writer py) {n : ℕ} {v : Json py.Num}

/-- A written number starts as numbers do. -/
theorem Writer.head (q : py.Num) : ∃ c w, W.write q = c :: w ∧ opens c = true ∧
    c ≠ '"' ∧ c ≠ '\x7b' ∧ c ≠ '[' ∧ c ≠ 'n' ∧ c ≠ 't' ∧ c ≠ 'f' := by
  obtain ⟨c, w, hw, hc⟩ := (W.reads q).head
  have hscan := (W.reads q).scan [] (by simp [Ends])
  rw [hw, List.append_nil] at hscan
  have hne (d : Char) (hdigit : isDigit d = false) (hsign : d ≠ '-') (hN : d ≠ 'N')
      (hI : d ≠ 'I') : c ≠ d := by
    rintro rfl
    rw [scanNumber_none w py hdigit hsign hN hI] at hscan
    cases hscan
  refine ⟨c, w, hw, hc, ?_, ?_, ?_, ?_, ?_, ?_⟩
  all_goals exact hne _ (by decide) (by decide) (by decide) (by decide)

theorem reads_num (q : py.Num) : Reads (scanValue py (n + 1)) (W.write q) (.num q) := by
  obtain ⟨c, w, hw, hc, hquote, hbrace, hbracket, hn, ht, hf⟩ := W.head q
  refine ⟨⟨c, w, hw, hc⟩, fun rest hrest ↦ ?_⟩
  have hscan := (W.reads q).scan rest hrest
  rw [hw, List.cons_append] at hscan ⊢
  rw [scanValue_other py n _ hquote hbrace hbracket,
    Scanner.orElse_of_none (scanName_none py _ hn ht hf), hscan]

theorem forall₂_items {items : List (Json py.Num)}
    (h : ∀ v ∈ items, Reads (scanValue py n) (v.dumps W.write) v.normal) :
    List.Forall₂ (Reads (scanValue py n)) (dumpItems W.write items) (Json.normalItems items) := by
  induction items with
  | nil => exact .nil
  | cons v items ih =>
    obtain ⟨hv, hitems⟩ := List.forall_mem_cons.mp h
    exact .cons hv (ih hitems)

theorem member_reads {k : PyStr} (hk : CodePoints k)
    (h : Reads (scanValue py n) (v.dumps W.write) v.normal) :
    Reads (member (scanValue py n)) (dumpStr k ++ (':' :: ' ' :: v.dumps W.write))
      (normalStr k, v.normal) := by
  refine ⟨⟨'"', _, rfl, by decide⟩, fun rest hrest ↦ ?_⟩
  obtain ⟨c, w, hw, hc⟩ := h.head
  have hscan := h.scan rest hrest
  have htext : dumpStr k ++ (':' :: ' ' :: v.dumps W.write) ++ rest
      = '"' :: (k.flatMap dumpUnit ++ '"' :: ':' :: ' ' :: (v.dumps W.write ++ rest)) := by
    simp only [dumpStr, List.append_assoc, List.cons_append, List.nil_append]
  rw [hw, List.cons_append] at hscan htext
  rw [hw, htext, member, Scanner.andThen_of_eq (Scanner.char_self _ _),
    Scanner.andThen_of_eq (scanString_dumpStr hk _),
    Scanner.andThen_of_eq (space_cons _ (by decide)), Scanner.andThen_of_eq (Scanner.char_self _ _),
    Scanner.andThen_of_eq (space_blank (isSpace_of_opens hc) _), Scanner.andThen_of_eq hscan]
  rfl

theorem forall₂_members {members : List (PyStr × Json py.Num)}
    (hkeys : ∀ m ∈ members, CodePoints m.1)
    (h : ∀ m ∈ members, Reads (scanValue py n) (m.2.dumps W.write) m.2.normal) :
    List.Forall₂ (Reads (member (scanValue py n))) (dumpMembers W.write members)
      (Json.normalMembers members) := by
  induction members with
  | nil => exact .nil
  | cons m members ih =>
    obtain ⟨hk, hkeys⟩ := List.forall_mem_cons.mp hkeys
    obtain ⟨hm, hmembers⟩ := List.forall_mem_cons.mp h
    exact .cons (member_reads W hk hm) (ih hkeys hmembers)

/-- **Reading what was written**, inside a list or at the end of the text. -/
theorem reads_dumps (h : v.Fits n) : Reads (scanValue py n) (v.dumps W.write) v.normal := by
  induction h with
  | @null n =>
    refine ⟨⟨'n', _, rfl, by decide⟩, fun rest _ ↦ ?_⟩
    change scanValue py (n + 1) ('n' :: _) = _
    rw [scanValue_other py n _ (by decide) (by decide) (by decide)]
    rfl
  | @bool n b =>
    cases b with
    | true =>
      refine ⟨⟨'t', _, rfl, by decide⟩, fun rest _ ↦ ?_⟩
      change scanValue py (n + 1) ('t' :: _) = _
      rw [scanValue_other py n _ (by decide) (by decide) (by decide)]
      rfl
    | false =>
      refine ⟨⟨'f', _, rfl, by decide⟩, fun rest _ ↦ ?_⟩
      change scanValue py (n + 1) ('f' :: _) = _
      rw [scanValue_other py n _ (by decide) (by decide) (by decide)]
      rfl
  | num q => exact reads_num W q
  | @str n s hs =>
    refine ⟨⟨'"', _, rfl, by decide⟩, fun rest _ ↦ ?_⟩
    have hscan := scanString_dumpStr hs rest
    change scanValue py (n + 1) ('"' :: (s.flatMap dumpUnit ++ ['"'] ++ rest)) = _
    rw [scanValue_quote, List.append_assoc]
    exact Scanner.andThen_of_eq hscan
  | @arr n items h ih =>
    refine ⟨⟨'[', _, rfl, by decide⟩, fun rest _ ↦ ?_⟩
    have hitems := enclosed_joinComma (Or.inl rfl) (forall₂_items W ih) rest
    change scanValue py (n + 1) ('[' :: (joinComma (dumpItems W.write items) ++ [']'] ++ rest)) = _
    rw [scanValue_bracket, List.append_assoc]
    exact Scanner.andThen_of_eq hitems
  | @obj n members hdistinct hkeys h ih =>
    refine ⟨⟨'\x7b', _, rfl, by decide⟩, fun rest _ ↦ ?_⟩
    have hmembers := enclosed_joinComma (Or.inr rfl) (forall₂_members W hkeys ih) rest
    change scanValue py (n + 1)
      ('\x7b' :: (joinComma (dumpMembers W.write members) ++ ['\x7d'] ++ rest)) = _
    rw [scanValue_brace, List.append_assoc]
    exact Scanner.andThen_of_eq hmembers

/-- **What is read.** -/
theorem loads_dumps (h : v.Fits py.depth) : loads py (v.dumps W.write) = some v.normal := by
  obtain ⟨⟨c, w, hw, hc⟩, hscan⟩ := reads_dumps W h
  have htext := hscan [] (by simp [Ends])
  rw [List.append_nil, hw] at htext
  have hbom : c ≠ '\uFEFF' := opens_ne hc (by decide)
  rw [loads, hw, if_neg (by simpa using hbom),
    Scanner.andThen_of_eq (space_cons w (isSpace_of_opens hc)), htext]
  rfl

end

/-! ## What is lost -/

section

variable {ν : Type u}

theorem normalItems_eq (items : List (Json ν)) :
    Json.normalItems items = items.map Json.normal := by
  induction items with
  | nil => rfl
  | cons v items ih => exact congrArg (v.normal :: ·) ih

theorem normalMembers_eq (members : List (PyStr × Json ν)) :
    Json.normalMembers members = members.map fun m ↦ (normalStr m.1, m.2.normal) := by
  induction members with
  | nil => rfl
  | cons m members ih => exact congrArg ((normalStr m.1, m.2.normal) :: ·) ih

theorem map_eq_self_iff {α : Type u} {f : α → α} {l : List α} : l.map f = l ↔ ∀ a ∈ l, f a = a := by
  induction l with
  | nil => simp
  | cons a l ih => rw [List.map_cons, List.cons_eq_cons, ih, List.forall_mem_cons]

/-- **What a value loses**: nothing if and only if none of its strings has a pair of surrogates. -/
theorem normal_eq_iff {n : ℕ} {v : Json ν} (h : v.Fits n) :
    v.normal = v ↔ v.Holds Unpaired := by
  induction h with
  | null => exact iff_of_true rfl .null
  | bool b => exact iff_of_true rfl (.bool b)
  | num q => exact iff_of_true rfl (.num q)
  | str hs =>
    rw [Json.normal, Json.str.injEq, normalStr_eq_iff hs]
    refine ⟨.str, fun hv ↦ ?_⟩
    cases hv with
    | str h => exact h
  | arr h ih =>
    rw [Json.normal, normalItems_eq, Json.arr.injEq, map_eq_self_iff]
    constructor
    · exact fun hv ↦ .arr fun v hmem ↦ (ih v hmem).mp (hv v hmem)
    · intro hv
      cases hv with
      | arr hv => exact fun v hmem ↦ (ih v hmem).mpr (hv v hmem)
  | @obj n members hdistinct hkeys h ih =>
    rw [Json.normal, normalMembers_eq, Json.obj.injEq]
    constructor
    · intro hv
      have hlength := congrArg List.length hv
      rw [dict_eq_of_length (by rw [hlength, List.length_map]), map_eq_self_iff] at hv
      refine .obj (fun m hm ↦ ?_) fun m hm ↦ ?_
      · exact (normalStr_eq_iff (hkeys m hm)).mp (congrArg Prod.fst (hv m hm))
      · exact (ih m hm).mp (congrArg Prod.snd (hv m hm))
    · intro hv
      cases hv with
      | obj hunpaired hv =>
        have hmembers : members.map (fun m ↦ (normalStr m.1, m.2.normal)) = members :=
          map_eq_self_iff.mpr fun m hm ↦ Prod.ext ((normalStr_eq_iff (hkeys m hm)).mpr
            (hunpaired m hm)) ((ih m hm).mpr (hv m hm))
        rw [hmembers, dict_of_nodup hdistinct]

end

/-- **The round trip.** A value comes back as it was if and only if none of its strings has a pair
of surrogates. -/
theorem loads_dumps_eq_iff {py : Python} (W : Writer py) {v : Json py.Num} (h : v.Fits py.depth) :
    loads py (v.dumps W.write) = some v ↔ v.Holds Unpaired := by
  rw [loads_dumps W h, Option.some_inj, normal_eq_iff h]

/-! ## Numbers as they are written -/

/-- A text that is read as a number, whatever follows it. -/
structure NumberText (w : List Char) : Prop where
  head : ∃ c w', w = c :: w' ∧ opens c = true
  plain : '"' ∉ w ∧ '\\' ∉ w
  scan : ∀ rest, Ends rest → (constant.orElse numberLiteral) (w ++ rest) = some (w, rest)

theorem numberText_zero : NumberText ['0'] := by
  refine ⟨⟨'0', [], rfl, by decide⟩, by decide, fun rest hrest ↦ ?_⟩
  cases rest with
  | nil => rfl
  | cons c rest => rcases hrest c rfl with rfl | rfl | rfl <;> rfl

open Classical in
/-- A Python that holds a number as its text. -/
noncomputable def Python.texts : Python where
  Num := {w : List Char // NumberText w}
  number w := if h : NumberText w then some ⟨w, h⟩ else none
  showNum n := n.1
  printable c := decide (0xa0 < c.toNat)
  depth := 900
  shallow := by decide
  showNum_plain n := n.2.plain

noncomputable def Writer.texts : Writer Python.texts where
  write n := n.1
  reads n := by
    have hnumber : Python.texts.number n.1 = some n := dif_pos n.2
    refine ⟨n.2.head, fun rest hrest ↦ ?_⟩
    rw [scanNumber, Scanner.andThen_of_eq (n.2.scan rest hrest), hnumber]
    rfl

end Encoding
