import IncidentPlatform.Domain.Value

/-!
# Reading untyped values

Two parts of the code pick answers apart that nothing has validated: the ECS adapter the response of
`describe_services`, and the client of the language model the body of a completion. They index, call
`get` and convert with `int`, and each of these raises on a value of another shape. The functions
here are these accesses, with the exception they raise.
-/

namespace IncidentPlatform

/-- What a client or a conversion raises: the name of the class, the `Code` of a boto3 error, and
the text. -/
structure PyException where
  className : String
  code : Option String := none
  text : String
  deriving Repr, DecidableEq

namespace Value

/-- `type(v).__name__`, where an integral number is taken for an `int`. -/
def typeName : Value → String
  | null => "NoneType"
  | bool _ => "bool"
  | num q => if q.den = 1 then "int" else "float"
  | str _ => "str"
  | list _ => "list"
  | dict _ => "dict"

/-- `v.get(key, default)`. -/
def getOr (v : Value) (key : String) (default : Value) : Except PyException Value :=
  match v with
  | dict kvs => .ok ((Dict.get? kvs key).getD default)
  | v =>
    .error
      { className := "AttributeError"
        text := "'" ++ v.typeName ++ "' object has no attribute 'get'" }

/-- `v[0]`. -/
def first : Value → Except PyException Value
  | list (v :: _) => .ok v
  | list [] => .error { className := "IndexError", text := "list index out of range" }
  | str s =>
    match s.toList with
    | c :: _ => .ok (.str (String.ofList [c]))
    | [] => .error { className := "IndexError", text := "string index out of range" }
  | dict _ => .error { className := "KeyError", text := "0" }
  | v =>
    .error
      { className := "TypeError", text := "'" ++ v.typeName ++ "' object is not subscriptable" }

/-- `int(v)`, where `int` reads a text, `none` for the `ValueError`. -/
def toInt (int : String → Option ℤ) (intError : Value → String) : Value → Except PyException ℤ
  | num q => .ok (q.num.tdiv q.den)
  | bool b => .ok (if b then 1 else 0)
  | str x =>
    match int x with
    | some n => .ok n
    | none => .error { className := "ValueError", text := intError (.str x) }
  | v => .error { className := "TypeError", text := intError v }

@[simp] theorem getOr_dict (kvs : Dict) (key : String) (default : Value) :
    (dict kvs).getOr key default = .ok ((Dict.get? kvs key).getD default) := rfl

/-- Only a dictionary has `get`. -/
theorem getOr_eq_ok_iff {v : Value} {key : String} {default w : Value} :
    v.getOr key default = .ok w ↔ ∃ kvs, v = .dict kvs ∧ (Dict.get? kvs key).getD default = w := by
  constructor
  · intro h
    cases v with
    | dict kvs => exact ⟨kvs, rfl, Except.ok.inj h⟩
    | _ => cases h
  · rintro ⟨kvs, rfl, rfl⟩
    rfl

/-- Only a list has a dictionary for its first item. -/
theorem first_eq_dict_iff {v : Value} {kvs : Dict} :
    v.first = .ok (.dict kvs) ↔ ∃ vs, v = .list (.dict kvs :: vs) := by
  constructor
  · intro h
    cases v with
    | list vs =>
      cases vs with
      | nil => cases h
      | cons v vs =>
        cases h
        exact ⟨vs, rfl⟩
    | str x =>
      rw [first] at h
      split at h <;> cases h
    | _ => cases h
  · rintro ⟨vs, rfl⟩
    rfl

@[simp] theorem first_cons (v : Value) (vs : List Value) : (list (v :: vs)).first = .ok v := rfl

@[simp] theorem toInt_intCast (int : String → Option ℤ) (intError : Value → String) (n : ℤ) :
    (num n).toInt int intError = .ok n := by
  simp [toInt]

end Value

/-- A sequence of accesses succeeds by each of them succeeding. -/
theorem bind_eq_ok_iff {ε α β : Type} {x : Except ε α} {f : α → Except ε β} {b : β} :
    (x >>= f) = .ok b ↔ ∃ a, x = .ok a ∧ f a = .ok b := by
  constructor
  · intro h
    rcases x with e | a
    · cases h
    · exact ⟨a, rfl, h⟩
  · rintro ⟨a, rfl, h⟩
    exact h

end IncidentPlatform
