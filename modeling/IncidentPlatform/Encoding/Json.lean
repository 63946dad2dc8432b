import IncidentPlatform.Encoding.Scanner
import Mathlib.Data.List.Basic
import Mathlib.Data.List.Induction

/-!
# JSON, as `json.loads` reads it

The strict decoder of Python: a string may not hold control characters, names may be repeated and
the last one counts, and nothing but white space may follow the value. A Python string is a list of
code points, surrogates among them, so a `\u` escape that stands for half a character is decoded.

What the decoder makes of a number is up to Python's `int` and `float`, and what prints as it is up
to its Unicode tables. Both are parameters, see `Python`, with what can be said of every number.

`Json.Holds P` says that all strings in a value satisfy `P`, and `value_keeps` that scanning a value
keeps what scanning a string keeps.
-/

namespace Encoding

universe u

/-- A string of Python is a list of code points. -/
abbrev PyStr := List ℕ

def codePoints (s : String) : PyStr := s.toList.map Char.toNat

theorem codePoints_injective : Function.Injective codePoints :=
  fun _ _ h ↦ String.toList_injective
    (List.map_injective_iff.mpr (Function.LeftInverse.injective Char.ofNat_toNat) h)

/-! ## Values -/

inductive Json (ν : Type u) where
  | null
  | bool (b : Bool)
  | num (n : ν)
  | str (s : PyStr)
  | arr (items : List (Json ν))
  | obj (members : List (PyStr × Json ν))

/-- What is not said in the decoder itself. -/
structure Python where
  Num : Type
  /-- `int` or `float` of the literal of a number. Both may raise. -/
  number : List Char → Option Num
  /-- `str` of a number. -/
  showNum : Num → List Char
  printable : Char → Bool
  /-- How deep values can be nested. -/
  depth : ℕ
  shallow : 2 ≤ depth
  showNum_plain : ∀ n, '"' ∉ showNum n ∧ '\\' ∉ showNum n

/-- An item assignment, `d[key] = value`. -/
def setItem {α : Type u} (key : PyStr) (value : α) : List (PyStr × α) → List (PyStr × α)
  | [] => [(key, value)]
  | m :: members => if m.1 = key then (key, value) :: members else m :: setItem key value members

/-- The dictionary with these items, the last one for each key. -/
def dict {α : Type u} (items : List (PyStr × α)) : List (PyStr × α) :=
  items.foldl (fun d m ↦ setItem m.1 m.2 d) []

namespace Json

variable {ν : Type u}

/-- `d[key]`, for a dictionary that has it. -/
def getItem (key : PyStr) : Json ν → Option (Json ν)
  | .obj members => (members.find? fun m ↦ m.1 = key).map Prod.snd
  | _ => none

/-- All strings in a value satisfy `P`. -/
inductive Holds (P : PyStr → Prop) : Json ν → Prop
  | null : Holds P null
  | bool (b) : Holds P (bool b)
  | num (n) : Holds P (num n)
  | str {s} (h : P s) : Holds P (str s)
  | arr {items} (h : ∀ v ∈ items, Holds P v) : Holds P (arr items)
  | obj {members} (hkeys : ∀ m ∈ members, P m.1) (h : ∀ m ∈ members, Holds P m.2) :
    Holds P (obj members)

end Json

/-! ## Strings -/

/-- The value of a hexadecimal digit. -/
def hexDigit (c : Char) : Option ℕ :=
  if '0' ≤ c ∧ c ≤ '9' then some (c.toNat - 48)
  else if 'a' ≤ c ∧ c ≤ 'f' then some (c.toNat - 87)
  else if 'A' ≤ c ∧ c ≤ 'F' then some (c.toNat - 55)
  else none

/-- The four digits of a `\u` escape. -/
def hexFour (a b c d : Char) : Option ℕ := do
  let a ← hexDigit a
  let b ← hexDigit b
  let c ← hexDigit c
  let d ← hexDigit d
  pure (((a * 16 + b) * 16 + c) * 16 + d)

/-- The escapes with one letter. -/
def escape : Char → Option ℕ
  | '"' => some 0x22
  | '\\' => some 0x5c
  | '/' => some 0x2f
  | 'b' => some 0x08
  | 'f' => some 0x0c
  | 'n' => some 0x0a
  | 'r' => some 0x0d
  | 't' => some 0x09
  | _ => none

/-- A string up to its closing quotation mark, with every escape on its own. -/
def units : Scanner PyStr
  | [] => none
  | c :: rest =>
    if c = '"' then some ([], rest)
    else if c = '\\' then
      match rest with
      | [] => none
      | e :: rest =>
        if e = 'u' then
          match rest with
          | a :: b :: c :: d :: rest => do
            let n ← hexFour a b c d
            let (s, rest) ← units rest
            some (n :: s, rest)
          | _ => none
        else do
          let n ← escape e
          let (s, rest) ← units rest
          some (n :: s, rest)
    else if c.toNat < 0x20 then none
    else do
      let (s, rest) ← units rest
      some (c.toNat :: s, rest)

/-- A high surrogate and a low one after it are one code point. -/
def joinSurrogates : PyStr → PyStr
  | [] => []
  | [n] => [n]
  | n :: m :: s =>
    if 0xd800 ≤ n ∧ n < 0xdc00 ∧ 0xdc00 ≤ m ∧ m < 0xe000 then
      (0x10000 + (n - 0xd800) * 0x400 + (m - 0xdc00)) :: joinSurrogates s
    else n :: joinSurrogates (m :: s)

/-- `scanstring`, after the opening quotation mark. -/
def scanString : Scanner PyStr := units.andThen fun s ↦ .done (joinSurrogates s)

/-! ## Numbers -/

def isSpace (c : Char) : Bool := c == ' ' || c == '\t' || c == '\n' || c == '\r'

def isDigit (c : Char) : Bool := decide ('0' ≤ c ∧ c ≤ '9')

def space : Scanner (List Char) := .many isSpace

namespace Scanner

/-- One scanner after the other. -/
def append (p q : Scanner (List Char)) : Scanner (List Char) :=
  p.andThen fun a ↦ q.andThen fun b ↦ done (a ++ b)

def optional (p : Scanner (List Char)) : Scanner (List Char) := p.orElse (done [])

end Scanner

def digits : Scanner (List Char) := (Scanner.many isDigit).andThen fun ds ↦
  if ds = [] then .fail else .done ds

def intPart : Scanner (List Char) := (Scanner.optional (.word ['-'])).append
  ((Scanner.word ['0']).orElse digits)

def fracPart : Scanner (List Char) := .optional ((Scanner.word ['.']).append digits)

def expPart : Scanner (List Char) := .optional
  ((((Scanner.word ['e']).orElse (.word ['E'])).append
    (.optional ((Scanner.word ['+']).orElse (.word ['-'])))).append digits)

/-- What the pattern of the decoder matches. -/
def numberLiteral : Scanner (List Char) := (intPart.append fracPart).append expPart

/-- The names that Python takes for numbers. -/
def constant : Scanner (List Char) := (Scanner.word ['N', 'a', 'N']).orElse
  ((Scanner.word ['I', 'n', 'f', 'i', 'n', 'i', 't', 'y']).orElse
    (.word ['-', 'I', 'n', 'f', 'i', 'n', 'i', 't', 'y']))

/-! ## Values in a text -/

section

variable (py : Python)

def scanNumber : Scanner (Json py.Num) := (constant.orElse numberLiteral).andThen fun literal ↦
  .ofOption ((py.number literal).map .num)

/-- The items of an array or object, after its opening bracket. -/
def enclosed {α : Type} (elem : Scanner α) (close : Char) : Scanner (List α) :=
  space.andThen fun _ ↦ ((Scanner.char close).andThen fun _ ↦ .done []).orElse
    fun input ↦ Scanner.commaSeparated space elem close input.length input

def member {α : Type} (value : Scanner α) : Scanner (PyStr × α) :=
  (Scanner.char '"').andThen fun _ ↦ scanString.andThen fun key ↦ space.andThen fun _ ↦
    (Scanner.char ':').andThen fun _ ↦ space.andThen fun _ ↦ value.andThen fun v ↦ .done (key, v)

def scanObject {ν : Type} (value : Scanner (Json ν)) : Scanner (Json ν) :=
  (Scanner.char '\x7b').andThen fun _ ↦
    (enclosed (member value) '\x7d').andThen fun ms ↦ .done (.obj (dict ms))

def scanArray {ν : Type} (value : Scanner (Json ν)) : Scanner (Json ν) :=
  (Scanner.char '[').andThen fun _ ↦ (enclosed value ']').andThen fun vs ↦ .done (.arr vs)

def scanName {ν : Type} : Scanner (Json ν) :=
  ((Scanner.word ['n', 'u', 'l', 'l']).andThen fun _ ↦ .done .null).orElse <|
  ((Scanner.word ['t', 'r', 'u', 'e']).andThen fun _ ↦ .done (.bool true)).orElse <|
  (Scanner.word ['f', 'a', 'l', 's', 'e']).andThen fun _ ↦ .done (.bool false)

/-- `scan_once`, with values nested at most `n` deep. -/
def scanValue : ℕ → Scanner (Json py.Num)
  | 0 => .fail
  | n + 1 =>
    ((Scanner.char '"').andThen fun _ ↦ scanString.andThen fun s ↦ .done (.str s)).orElse <|
    (scanObject (scanValue n)).orElse <| (scanArray (scanValue n)).orElse <|
    scanName.orElse (scanNumber py)

/-- `json.loads`. -/
def loads (text : List Char) : Option (Json py.Num) :=
  if text.head? = some '\uFEFF' then none
  else ((space.andThen fun _ ↦ scanValue py py.depth) text).bind fun r ↦
    if r.2.dropWhile isSpace = [] then some r.1 else none

end

/-! ## The first character decides -/

section

variable {c : Char} (rest : List Char)

theorem space_cons (hc : isSpace c = false) : space (c :: rest) = some ([], c :: rest) := by
  rw [space, Scanner.many, List.takeWhile_cons_of_neg (by simp [hc]),
    List.dropWhile_cons_of_neg (by simp [hc])]

theorem numberLiteral_none (hdigit : isDigit c = false) (hsign : c ≠ '-') :
    numberLiteral (c :: rest) = none := by
  have hzero : '0' ≠ c := by
    rintro rfl
    exact absurd hdigit (by decide)
  have hdigits : digits (c :: rest) = none := by
    rw [digits, Scanner.andThen, Scanner.many, List.takeWhile_cons_of_neg (by simp [hdigit])]
    rfl
  have hminus : (Scanner.optional (.word ['-'])) (c :: rest) = some ([], c :: rest) := by
    rw [Scanner.optional, Scanner.orElse_of_none (Scanner.word_of_ne hsign.symm _ _)]
    rfl
  have hint : intPart (c :: rest) = none := by
    rw [intPart, Scanner.append, Scanner.andThen_of_eq hminus]
    refine Scanner.andThen_of_none ?_
    rw [Scanner.orElse_of_none (Scanner.word_of_ne hzero _ _), hdigits]
  rw [numberLiteral, Scanner.append, Scanner.append]
  exact Scanner.andThen_of_none (Scanner.andThen_of_none hint)

variable (py : Python) (n : ℕ)

theorem scanNumber_none (hdigit : isDigit c = false) (hsign : c ≠ '-') (hN : c ≠ 'N')
    (hI : c ≠ 'I') : scanNumber py (c :: rest) = none := by
  refine Scanner.andThen_of_none ?_
  rw [Scanner.orElse_of_none, numberLiteral_none rest hdigit hsign]
  rw [constant, Scanner.orElse_of_none (Scanner.word_of_ne hN.symm _ _),
    Scanner.orElse_of_none (Scanner.word_of_ne hI.symm _ _)]
  exact Scanner.word_of_ne hsign.symm _ _

/-- Only a string starts with a quotation mark, only an object with a brace. -/
theorem scanOther_none (hc : c = '"' ∨ c = '\x7b') :
    ((scanArray (scanValue py n)).orElse (scanName.orElse (scanNumber py))) (c :: rest) = none := by
  have hne (d : Char) (hquote : d ≠ '"') (hbrace : d ≠ '\x7b') : d ≠ c := by
    rintro rfl
    exact hc.elim hquote hbrace
  have hname (e : Char) (w : List Char) (v : Json py.Num) (hquote : e ≠ '"')
      (hbrace : e ≠ '\x7b') :
      ((Scanner.word (e :: w)).andThen fun _ ↦ .done v) (c :: rest) = none :=
    Scanner.andThen_of_none (Scanner.word_of_ne (hne e hquote hbrace) w rest)
  have hdigit : isDigit c = false := by
    rcases hc with rfl | rfl <;> rfl
  rw [Scanner.orElse_of_none, Scanner.orElse_of_none]
  · exact scanNumber_none rest py hdigit (hne _ (by decide) (by decide)).symm
      (hne _ (by decide) (by decide)).symm (hne _ (by decide) (by decide)).symm
  · rw [scanName, Scanner.orElse_of_none (hname _ _ _ (by decide) (by decide)),
      Scanner.orElse_of_none (hname _ _ _ (by decide) (by decide))]
    exact hname _ _ _ (by decide) (by decide)
  · exact Scanner.andThen_of_none (Scanner.char_of_ne (hne _ (by decide) (by decide)).symm _)

theorem scanValue_quote : scanValue py (n + 1) ('"' :: rest)
    = (scanString.andThen fun s ↦ .done (.str s)) rest := by
  rw [scanValue, Scanner.orElse_none, Scanner.andThen_of_eq (Scanner.char_self _ _)]
  rw [Scanner.orElse_of_none, scanOther_none rest py n (Or.inl rfl)]
  exact Scanner.andThen_of_none (Scanner.char_of_ne (by decide) rest)

theorem scanValue_brace : scanValue py (n + 1) ('\x7b' :: rest)
    = ((enclosed (member (scanValue py n)) '\x7d').andThen fun ms ↦
        .done (.obj (dict ms))) rest := by
  rw [scanValue, Scanner.orElse_of_none, Scanner.orElse_none, scanObject,
    Scanner.andThen_of_eq (Scanner.char_self _ _)]
  · exact scanOther_none rest py n (Or.inr rfl)
  · exact Scanner.andThen_of_none (Scanner.char_of_ne (by decide) rest)

end

/-! ## What scanning keeps -/

section

variable {I : List Char → Prop} {P : PyStr → Prop} {s : Char}

theorem mem_setItem {α : Type u} {key : PyStr} {value : α} {m : PyStr × α}
    {members : List (PyStr × α)} (h : m ∈ setItem key value members) :
    m = (key, value) ∨ m ∈ members := by
  induction members with
  | nil => exact Or.inl (List.mem_singleton.mp h)
  | cons m' members ih =>
    rw [setItem] at h
    split_ifs at h
    · exact (List.mem_cons.mp h).imp_right (List.mem_cons_of_mem m')
    · rcases List.mem_cons.mp h with rfl | h
      · exact Or.inr List.mem_cons_self
      · exact (ih h).imp_right (List.mem_cons_of_mem m')

theorem mem_dict {α : Type u} {m : PyStr × α} {items : List (PyStr × α)} (h : m ∈ dict items) :
    m ∈ items := by
  induction items using List.reverseRecOn with
  | nil => exact h
  | append_singleton items m' ih =>
    rw [dict, List.foldl_append] at h
    rcases mem_setItem h with rfl | h
    · exact List.mem_append_right _ (List.mem_singleton.mpr rfl)
    · exact List.mem_append_left _ (ih h)

theorem append_keeps {p q : Scanner (List Char)} (hp : p.Keeps I fun _ ↦ True)
    (hq : q.Keeps I fun _ ↦ True) : (p.append q).Keeps I fun _ ↦ True :=
  hp.andThen fun _ _ ↦ hq.andThen fun _ _ ↦ .done trivial

variable (hI : Scanner.Sheds I '\\')

include hI

theorem space_keeps : space.Keeps I fun _ ↦ True := .many hI rfl

theorem digits_keeps : digits.Keeps I fun _ ↦ True := by
  refine (Scanner.Keeps.many hI rfl).andThen fun ds _ ↦ ?_
  split_ifs
  · exact .fail
  · exact .done trivial

theorem numberLiteral_keeps : numberLiteral.Keeps I fun _ ↦ True := by
  have hmark (c : Char) (hc : c ≠ '\\') : (Scanner.word [c]).Keeps I fun _ ↦ True :=
    .word hI fun h ↦ hc (List.mem_singleton.mp h).symm
  have hoptional {p : Scanner (List Char)} (hp : p.Keeps I fun _ ↦ True) :
      p.optional.Keeps I fun _ ↦ True := hp.orElse (.done trivial)
  refine append_keeps (append_keeps (append_keeps ?_ ?_) ?_) ?_
  · exact hoptional (hmark '-' (by decide))
  · exact (hmark '0' (by decide)).orElse (digits_keeps hI)
  · exact hoptional (append_keeps (hmark '.' (by decide)) (digits_keeps hI))
  · refine hoptional (append_keeps (append_keeps ?_ (hoptional ?_)) (digits_keeps hI))
    · exact (hmark 'e' (by decide)).orElse (hmark 'E' (by decide))
    · exact (hmark '+' (by decide)).orElse (hmark '-' (by decide))

theorem scanNumber_keeps (py : Python) : (scanNumber py).Keeps I (Json.Holds P) := by
  have hconstant : constant.Keeps I fun _ ↦ True :=
    (Scanner.Keeps.word hI (by decide)).orElse
      ((Scanner.Keeps.word hI (by decide)).orElse (.word hI (by decide)))
  refine (hconstant.orElse (numberLiteral_keeps hI)).andThen fun literal _ ↦ .ofOption ?_
  intro v hv
  obtain ⟨n, -, rfl⟩ := Option.map_eq_some_iff.mp hv
  exact .num n

theorem enclosed_keeps {α : Type} {R : α → Prop} {elem : Scanner α} {close : Char}
    (helem : elem.Keeps I R) (hclose : close ≠ '\\') :
    (enclosed elem close).Keeps I fun as ↦ ∀ a ∈ as, R a := by
  refine (space_keeps hI).andThen fun _ _ ↦ .orElse ?_ fun input ↦ ?_
  · exact (Scanner.Keeps.char hI hclose).andThen fun _ _ ↦ .done (by simp)
  · exact Scanner.Keeps.commaSeparated hI (space_keeps hI) helem hclose (by decide) _ input

theorem member_keeps {α : Type} {R : α → Prop} {value : Scanner α} (hvalue : value.Keeps I R)
    (hstring : scanString.Keeps I P) : (member value).Keeps I fun m ↦ P m.1 ∧ R m.2 := by
  refine (Scanner.Keeps.char hI (by decide)).andThen fun _ _ ↦ hstring.andThen fun key hkey ↦ ?_
  refine (space_keeps hI).andThen fun _ _ ↦ (Scanner.Keeps.char hI (by decide)).andThen fun _ _ ↦ ?_
  exact (space_keeps hI).andThen fun _ _ ↦ hvalue.andThen fun v hv ↦ .done ⟨hkey, hv⟩

/-- **The rule for values.** -/
theorem scanValue_keeps (py : Python) (hstring : scanString.Keeps I P) (n : ℕ) :
    (scanValue py n).Keeps I (Json.Holds P) := by
  induction n with
  | zero => exact .fail
  | succ n ih =>
    have hname (w : List Char) (v : Json py.Num) (hw : '\\' ∉ w) (hv : v.Holds P) :
        ((Scanner.word w).andThen fun _ ↦ .done v).Keeps I (Json.Holds P) :=
      (Scanner.Keeps.word hI hw).andThen fun _ _ ↦ .done hv
    refine .orElse ?_ (.orElse ?_ (.orElse ?_ (.orElse ?_ (scanNumber_keeps hI py))))
    · exact (Scanner.Keeps.char hI (by decide)).andThen fun _ _ ↦
        hstring.andThen fun s hs ↦ .done (.str hs)
    · refine (Scanner.Keeps.char hI (by decide)).andThen fun _ _ ↦
        (enclosed_keeps hI (member_keeps hI ih hstring) (by decide)).andThen fun ms hms ↦ .done ?_
      exact .obj (fun m hm ↦ (hms m (mem_dict hm)).1) fun m hm ↦ (hms m (mem_dict hm)).2
    · exact (Scanner.Keeps.char hI (by decide)).andThen fun _ _ ↦
        (enclosed_keeps hI ih (by decide)).andThen fun vs hvs ↦ .done (.arr hvs)
    · exact .orElse (hname _ _ (by decide) .null) (.orElse (hname _ _ (by decide) (.bool true))
        (hname _ _ (by decide) (.bool false)))

end

/-! ## Strings in a text -/

/-- `units` as a relation between a text, its string and the rest. -/
inductive Units : List Char → PyStr → List Char → Prop
  | close (rest) : Units ('"' :: rest) [] rest
  | char {c rest s rest'} (hquote : c ≠ '"') (hslash : c ≠ '\\') (hcontrol : 0x20 ≤ c.toNat)
    (h : Units rest s rest') : Units (c :: rest) (c.toNat :: s) rest'
  | letter {e n rest s rest'} (hn : escape e = some n) (h : Units rest s rest') :
    Units ('\\' :: e :: rest) (n :: s) rest'
  | unicode {a b c d n rest s rest'} (hn : hexFour a b c d = some n) (h : Units rest s rest') :
    Units ('\\' :: 'u' :: a :: b :: c :: d :: rest) (n :: s) rest'

theorem units_sound {input rest : List Char} {s : PyStr} (h : units input = some (s, rest)) :
    Units input s rest := by
  induction hlength : input.length using Nat.strong_induction_on generalizing input s rest with
  | _ n ih =>
    subst hlength
    cases input with
    | nil => cases h
    | cons c input =>
      unfold units at h
      split_ifs at h with hquote hslash hcontrol
      · cases h
        rw [hquote]
        exact .close _
      · rw [hslash]
        cases input with
        | nil => cases h
        | cons e input =>
          dsimp only at h
          split_ifs at h with hu
          · rw [hu]
            split at h
            · obtain ⟨n, hn, h⟩ := Option.bind_eq_some_iff.mp h
              obtain ⟨⟨s', rest'⟩, hs, h⟩ := Option.bind_eq_some_iff.mp h
              cases h
              exact .unicode hn (ih _ (by simp only [List.length_cons]; omega) hs rfl)
            · cases h
          · obtain ⟨n, hn, h⟩ := Option.bind_eq_some_iff.mp h
            obtain ⟨⟨s', rest'⟩, hs, h⟩ := Option.bind_eq_some_iff.mp h
            cases h
            exact .letter hn (ih _ (by simp only [List.length_cons]; omega) hs rfl)
      · obtain ⟨⟨s', rest'⟩, hs, h⟩ := Option.bind_eq_some_iff.mp h
        cases h
        refine .char hquote hslash (Nat.le_of_not_lt hcontrol) (ih _ ?_ hs rfl)
        exact Nat.lt_succ_self _

/-- A text that a string can hold as it is. -/
def Plain (w : List Char) : Prop := ∀ c ∈ w, c ≠ '"' ∧ c ≠ '\\' ∧ 0x20 ≤ c.toNat

/-- The text of a string is never shorter than the string, and longer if it has escapes. -/
theorem Units.text {input rest : List Char} {s : PyStr} (h : Units input s rest) :
    ∃ w, input = w ++ '"' :: rest ∧ s.length ≤ w.length ∧ (s.length = w.length → Plain w) := by
  induction h with
  | close rest => exact ⟨[], rfl, le_rfl, fun _ c hc ↦ absurd hc List.not_mem_nil⟩
  | @char c rest s rest' hquote hslash hcontrol h ih =>
    obtain ⟨w, rfl, hle, hplain⟩ := ih
    refine ⟨c :: w, rfl, Nat.succ_le_succ hle, fun heq d hd ↦ ?_⟩
    rcases List.mem_cons.mp hd with rfl | hd
    · exact ⟨hquote, hslash, hcontrol⟩
    · exact hplain (Nat.succ.inj heq) d hd
  | @letter e n rest s rest' hn h ih =>
    obtain ⟨w, rfl, hle, -⟩ := ih
    refine ⟨'\\' :: e :: w, rfl, ?_, fun heq ↦ ?_⟩
    · exact Nat.succ_le_succ (Nat.le_succ_of_le hle)
    · simp only [List.length_cons] at heq
      omega
  | @unicode a b c d n rest s rest' hn h ih =>
    obtain ⟨w, rfl, hle, -⟩ := ih
    refine ⟨'\\' :: 'u' :: a :: b :: c :: d :: w, rfl, ?_, fun heq ↦ ?_⟩
    · simp only [List.length_cons]
      omega
    · simp only [List.length_cons] at heq
      omega

theorem joinSurrogates_length_le (s : PyStr) : (joinSurrogates s).length ≤ s.length := by
  fun_induction joinSurrogates s with
  | case1 | case2 => exact le_rfl
  | case3 n m s hpair ih => exact Nat.succ_le_succ (Nat.le_succ_of_le ih)
  | case4 n m s hpair ih => exact Nat.succ_le_succ ih

/-- A text without surrogates is left alone. -/
theorem joinSurrogates_codePoints (w : List Char) :
    joinSurrogates (w.map Char.toNat) = w.map Char.toNat := by
  induction w with
  | nil => rfl
  | cons c w ih =>
    cases w with
    | nil => rfl
    | cons d w =>
      have hc : ¬ (0xd800 ≤ c.toNat ∧ c.toNat < 0xdc00) := by
        have hvalid : c.toNat.isValidChar := c.valid
        rw [Nat.isValidChar] at hvalid
        omega
      rw [List.map_cons, List.map_cons, joinSurrogates, if_neg fun h ↦ hc ⟨h.1, h.2.1⟩]
      exact congrArg (c.toNat :: ·) ih

theorem units_plain {w : List Char} (hw : Plain w) (rest : List Char) :
    units (w ++ '"' :: rest) = some (w.map Char.toNat, rest) := by
  induction w with
  | nil =>
    rw [List.nil_append, units.eq_def]
    exact if_pos rfl
  | cons c w ih =>
    obtain ⟨hquote, hslash, hcontrol⟩ := hw c List.mem_cons_self
    have hrest := ih fun d hd ↦ hw d (List.mem_cons_of_mem c hd)
    rw [List.cons_append, units.eq_def]
    dsimp only
    rw [if_neg hquote, if_neg hslash, if_neg hcontrol.not_gt, hrest]
    rfl

/-- A plain text is scanned as it is. -/
theorem scanString_plain {w : List Char} (hw : Plain w) (rest : List Char) :
    scanString (w ++ '"' :: rest) = some (w.map Char.toNat, rest) := by
  rw [scanString, Scanner.andThen, units_plain hw]
  exact congrArg (fun s ↦ some (s, rest)) (joinSurrogates_codePoints w)

/-- A member with a plain key. -/
theorem member_plain {α : Type} (value : Scanner α) {w : List Char} (hw : Plain w) {c : Char}
    (hc : isSpace c = false) (rest : List Char) :
    member value ('"' :: (w ++ '"' :: ':' :: c :: rest))
      = (value.andThen fun v ↦ .done (w.map Char.toNat, v)) (c :: rest) := by
  rw [member, Scanner.andThen_of_eq (Scanner.char_self _ _),
    Scanner.andThen_of_eq (scanString_plain hw _), Scanner.andThen_of_eq (space_cons _ (by decide)),
    Scanner.andThen_of_eq (Scanner.char_self _ _), Scanner.andThen_of_eq (space_cons _ hc)]

/-- An object whose first member has a plain key and a string for a value. -/
theorem scanValue_object (py : Python) (n : ℕ) {w : List Char} (hw : Plain w) (rest : List Char) :
    ∃ k, scanValue py (n + 2) ('\x7b' :: '"' :: (w ++ '"' :: ':' :: '"' :: rest))
      = (scanString rest).bind fun r ↦ (Scanner.further space '\x7d'
        (Scanner.commaSeparated space (member (scanValue py (n + 1))) '\x7d' k) r.2).map fun t ↦
          (.obj (dict ((w.map Char.toNat, .str r.1) :: t.1)), t.2) := by
  refine ⟨(w ++ '"' :: ':' :: '"' :: rest).length, ?_⟩
  have hvalue := scanValue_quote rest py n
  rw [scanValue_brace, enclosed, Scanner.andThen, Scanner.andThen_of_eq (space_cons _ (by decide)),
    Scanner.orElse_of_none (Scanner.andThen_of_none (Scanner.char_of_ne (by decide) _)),
    List.length_cons, Scanner.commaSeparated, Scanner.andThen, member_plain _ hw (by decide),
    Scanner.andThen, hvalue, Scanner.andThen]
  rcases scanString rest with _ | ⟨s, rest'⟩
  · rfl
  · change ((Scanner.further _ _ _ rest').bind _).bind _ = (Scanner.further _ _ _ rest').map _
    generalize Scanner.further _ _ _ rest' = others
    cases others <;> rfl

theorem scanString_units {input rest : List Char} {s : PyStr}
    (h : scanString input = some (s, rest)) :
    ∃ s', Units input s' rest ∧ s = joinSurrogates s' := by
  obtain ⟨⟨s', rest'⟩, hunits, heq⟩ := Option.bind_eq_some_iff.mp h
  cases heq
  exact ⟨s', units_sound hunits, rfl⟩

theorem scanString_text {input rest : List Char} {s : PyStr}
    (h : scanString input = some (s, rest)) :
    ∃ w, input = w ++ '"' :: rest ∧ s.length ≤ w.length ∧ (s.length = w.length → Plain w) := by
  obtain ⟨s', hunits, rfl⟩ := scanString_units h
  obtain ⟨w, rfl, hle, hplain⟩ := hunits.text
  have hjoin := joinSurrogates_length_le s'
  exact ⟨w, rfl, hjoin.trans hle, fun heq ↦ hplain (by omega)⟩

/-- A string is shorter than any bound on its text. -/
theorem scanString_keeps_length (m : ℕ) :
    scanString.Keeps (fun input ↦ input.length ≤ m) fun s ↦ s.length < m := by
  intro input s rest hinput hrun
  obtain ⟨w, rfl, hle, -⟩ := scanString_text hrun
  rw [List.length_append, List.length_cons] at hinput
  omega

/-! ## Texts that cannot hold a quotation mark -/

/-- No escape of the text stands for a quotation mark, and none is cut off. -/
inductive Clean : List Char → Prop
  | nil : Clean []
  | char {c w} (hslash : c ≠ '\\') (h : Clean w) : Clean (c :: w)
  | letter {e w} (hquote : e ≠ '"') (hu : e ≠ 'u') (h : Clean w) : Clean ('\\' :: e :: w)
  | unicode {a b c d w} (hcode : hexFour a b c d ≠ some 0x22) (h : Clean w) :
    Clean ('\\' :: 'u' :: a :: b :: c :: d :: w)

namespace Clean

theorem append {v w : List Char} (hv : Clean v) (hw : Clean w) : Clean (v ++ w) := by
  induction hv with
  | nil => exact hw
  | char hslash _ ih => exact .char hslash ih
  | letter hquote hu _ ih => exact .letter hquote hu ih
  | unicode hcode _ ih => exact .unicode hcode ih

theorem sheds : Scanner.Sheds Clean '\\' := by
  intro c rest hc h
  cases h with
  | char _ h => exact h
  | letter | unicode => exact absurd rfl hc

end Clean

theorem hexFour_quote {a b c d : Char} {n : ℕ} (h : hexFour a b c d = some n) :
    '"' ∉ [a, b, c, d] := by
  have hno : hexDigit '"' = none := by decide
  obtain ⟨k₁, h₁, h⟩ := Option.bind_eq_some_iff.mp h
  obtain ⟨k₂, h₂, h⟩ := Option.bind_eq_some_iff.mp h
  obtain ⟨k₃, h₃, h⟩ := Option.bind_eq_some_iff.mp h
  obtain ⟨k₄, h₄, -⟩ := Option.bind_eq_some_iff.mp h
  intro hmem
  simp only [List.mem_cons, List.not_mem_nil, or_false] at hmem
  rcases hmem with rfl | rfl | rfl | rfl
  · exact Option.some_ne_none k₁ (h₁.symm.trans hno)
  · exact Option.some_ne_none k₂ (h₂.symm.trans hno)
  · exact Option.some_ne_none k₃ (h₃.symm.trans hno)
  · exact Option.some_ne_none k₄ (h₄.symm.trans hno)

/-- The one letter that stands for a quotation mark. -/
theorem eq_quote_of_escape {e : Char} (h : escape e = some 0x22) : e = '"' := by
  unfold escape at h
  split at h
  · rfl
  all_goals cases h

/-- A string in such a text ends at the first quotation mark, and has none. -/
theorem Units.clean {input rest : List Char} {s : PyStr} (h : Units input s rest)
    (hclean : Clean input) :
    Clean rest ∧ 0x22 ∉ s ∧ ∃ w, input = w ++ '"' :: rest ∧ '"' ∉ w := by
  induction h with
  | close rest =>
    exact ⟨Clean.sheds _ _ (by decide) hclean, List.not_mem_nil, [], rfl, List.not_mem_nil⟩
  | @char c rest s rest' hquote hslash hcontrol h ih =>
    obtain ⟨hrest, hs, w, rfl, hw⟩ := ih (Clean.sheds _ _ hslash hclean)
    refine ⟨hrest, fun hmem ↦ ?_, c :: w, rfl, fun hmem ↦ ?_⟩
    · rcases List.mem_cons.mp hmem with heq | hmem
      · exact hquote (Char.toNat_inj.mp heq.symm)
      · exact hs hmem
    · rcases List.mem_cons.mp hmem with heq | hmem
      · exact hquote heq.symm
      · exact hw hmem
  | @letter e n rest s rest' hn h ih =>
    cases hclean with
    | char hslash => exact absurd rfl hslash
    | unicode => cases hn
    | letter hquote hu hclean =>
      obtain ⟨hrest, hs, w, rfl, hw⟩ := ih hclean
      refine ⟨hrest, fun hmem ↦ ?_, '\\' :: e :: w, rfl, fun hmem ↦ ?_⟩
      · rcases List.mem_cons.mp hmem with rfl | hmem
        · exact hquote (eq_quote_of_escape hn)
        · exact hs hmem
      · simp only [List.mem_cons] at hmem
        rcases hmem with heq | heq | hmem
        · exact absurd heq (by decide)
        · exact hquote heq.symm
        · exact hw hmem
  | @unicode a b c d n rest s rest' hn h ih =>
    cases hclean with
    | char hslash => exact absurd rfl hslash
    | letter _ hu => exact absurd rfl hu
    | unicode hcode hclean =>
      obtain ⟨hrest, hs, w, rfl, hw⟩ := ih hclean
      refine ⟨hrest, fun hmem ↦ ?_, '\\' :: 'u' :: a :: b :: c :: d :: w, rfl, fun hmem ↦ ?_⟩
      · rcases List.mem_cons.mp hmem with rfl | hmem
        · exact hcode hn
        · exact hs hmem
      · have hdigits : '"' ∉ [a, b, c, d] := hexFour_quote hn
        rw [show '\\' :: 'u' :: a :: b :: c :: d :: w = ['\\', 'u'] ++ ([a, b, c, d] ++ w) from rfl,
          List.mem_append, List.mem_append] at hmem
        rcases hmem with hmem | hmem | hmem
        · exact absurd hmem (by decide)
        · exact hdigits hmem
        · exact hw hmem

theorem mem_joinSurrogates {s : PyStr} {n : ℕ} (hn : n < 0x10000) (h : n ∈ joinSurrogates s) :
    n ∈ s := by
  fun_induction joinSurrogates s with
  | case1 | case2 => exact h
  | case3 k m s hpair ih =>
    rcases List.mem_cons.mp h with heq | h
    · omega
    · exact List.mem_cons_of_mem k (List.mem_cons_of_mem m (ih h))
  | case4 k m s hpair ih =>
    rcases List.mem_cons.mp h with rfl | h
    · exact List.mem_cons_self
    · exact List.mem_cons_of_mem k (ih h)

theorem scanString_clean {input rest : List Char} {s : PyStr}
    (h : scanString input = some (s, rest)) (hclean : Clean input) :
    Clean rest ∧ 0x22 ∉ s ∧ ∃ w, input = w ++ '"' :: rest ∧ '"' ∉ w := by
  obtain ⟨s', hunits, rfl⟩ := scanString_units h
  obtain ⟨hrest, hs, htext⟩ := hunits.clean hclean
  exact ⟨hrest, fun hmem ↦ hs (mem_joinSurrogates (by decide) hmem), htext⟩

end Encoding
