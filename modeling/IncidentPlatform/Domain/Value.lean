import Mathlib.Data.List.Infix
import Mathlib.Algebra.Order.Field.Rat

/-!
# Python values, text and patterns

The code passes around values that come out of `json.loads` and `yaml.safe_load`: action
parameters, hypothesis blocks, policy documents, audit payloads. `Value` is that type, with `Dict`
for a dictionary with string keys.

The text functions whose behaviour depends on Python's Unicode tables or number syntax
(`str.lower`, `str.strip`, `float`, `str` of a non-string) are not fixed here. They are collected
in `Text`, so that every result holds whatever these functions are; `Text.ascii` is their behaviour
on ASCII text, for running the model. Substring tests and `fnmatch` do not depend on such tables
and are given as they are.
-/

namespace IncidentPlatform

/-- A value out of `json.loads` or `yaml.safe_load`. Numbers are exact. -/
inductive Value where
  | null
  | bool (b : Bool)
  | num (q : ℚ)
  | str (s : String)
  | list (vs : List Value)
  | dict (kvs : List (String × Value))
  deriving Repr, Inhabited

/-- A dictionary with string keys, in insertion order. -/
abbrev Dict := List (String × Value)

/-- `d.get(key)`. -/
def Dict.get? (d : Dict) (key : String) : Option Value :=
  (d.find? fun kv ↦ kv.1 == key).map Prod.snd

/-- `key in d`. -/
def Dict.hasKey (d : Dict) (key : String) : Bool := d.any fun kv ↦ kv.1 == key

/-- `v.get(key)` on a policy document, `None` when `v` is no dictionary. -/
def Value.get? : Value → String → Option Value
  | .dict kvs, key => Dict.get? kvs key
  | _, _ => none

/-- The text functions of the Python runtime. -/
structure Text where
  /-- `s.lower()`. -/
  lower : String → String
  /-- `s.strip()`. -/
  strip : String → String
  /-- `float(s)`, `none` for the `ValueError`. -/
  float : String → Option ℚ
  /-- `str(v)` of a value that is not a string. -/
  repr : Value → String

/-- `str(v)`. -/
def Value.toStr (t : Text) : Value → String
  | .str s => s
  | v => t.repr v

/-- `float(str(v))`: the number itself for a number, else what `float` makes of the text. -/
def Value.toFloat (t : Text) : Value → Option ℚ
  | .num q => some q
  | v => t.float (v.toStr t)

/-- Python truth of a value. -/
def Value.truthy : Value → Bool
  | .null => false
  | .bool b => b
  | .num q => decide (q ≠ 0)
  | .str s => !s.isEmpty
  | .list vs => !vs.isEmpty
  | .dict kvs => !kvs.isEmpty

private def asciiSpace (c : Char) : Bool :=
  c == ' ' || (decide (9 ≤ c.toNat) && decide (c.toNat ≤ 13)) ||
    (decide (28 ≤ c.toNat) && decide (c.toNat ≤ 31))

/-- The text functions on ASCII text. `float` and `str` are only given where the shipped documents
need them, which hold their numbers as numbers. -/
def Text.ascii : Text where
  lower s := String.ofList (s.toList.map Char.toLower)
  strip s := String.ofList
    (((s.toList.dropWhile asciiSpace).reverse.dropWhile asciiSpace).reverse)
  float _ := none
  repr _ := ""

/-- `sub in s`. -/
def isIn (sub s : String) : Bool := decide (sub.toList <:+: s.toList)

/-! ## `fnmatch` -/

/-- Whether `c` is in the body of a bracket expression, a list of characters and ranges `a-z`. -/
def bracketHas (c : Char) : List Char → Bool
  | a :: '-' :: b :: rest => (decide (a ≤ c) && decide (c ≤ b)) || bracketHas c rest
  | a :: rest => a == c || bracketHas c rest
  | [] => false

/-- The body and the rest of a bracket expression, after its `[`. A `]` that comes first, also
after `!`, belongs to the body; without a closing `]` there is no expression and `[` is literal. -/
def splitBracket (pattern : List Char) : Option (Bool × List Char × List Char) :=
  let (negated, rest) := match pattern with
    | '!' :: rest => (true, rest)
    | rest => (false, rest)
  let (first, rest) := match rest with
    | ']' :: rest => ([']'], rest)
    | rest => ([], rest)
  match rest.span (· != ']') with
  | (body, ']' :: after) => some (negated, first ++ body, after)
  | _ => none

/-- `fnmatch.fnmatch` on characters: `*`, `?`, `[seq]` and `[!seq]`. The bound is consumed by every
character of the pattern or of the name, so the sum of the two lengths plus one is enough. -/
def fnmatchAux : ℕ → List Char → List Char → Bool
  | 0, _, _ => false
  | _ + 1, [], name => name.isEmpty
  | n + 1, '*' :: pattern, name =>
    fnmatchAux n pattern name ||
      match name with
      | [] => false
      | _ :: name => fnmatchAux n ('*' :: pattern) name
  | n + 1, '?' :: pattern, _ :: name => fnmatchAux n pattern name
  | _ + 1, '?' :: _, [] => false
  | n + 1, '[' :: pattern, c :: name =>
    match splitBracket pattern with
    | some (negated, body, after) => (bracketHas c body != negated) && fnmatchAux n after name
    | none => c == '[' && fnmatchAux n pattern name
  | _ + 1, '[' :: _, [] => false
  | n + 1, p :: pattern, c :: name => p == c && fnmatchAux n pattern name
  | _ + 1, _ :: _, [] => false

/-- `fnmatch.fnmatch(name, pattern)` (POSIX, so case-sensitive). -/
def fnmatch (name pattern : String) : Bool :=
  fnmatchAux (name.length + pattern.length + 1) pattern.toList name.toList

example : fnmatch "k8s-checkout" "k8s-*" = true := by decide

end IncidentPlatform
