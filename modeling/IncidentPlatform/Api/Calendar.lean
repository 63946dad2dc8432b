import IncidentPlatform.Encoding.IsoParse
import IncidentPlatform.Persistence.AuditStore
import Mathlib.Data.Rat.Floor

/-!
# Times and texts on the calendar

`TimeText.calendar` is what the Python runtime does with the times and texts that the platform
writes itself: `isoformat` and `fromisoformat` are inverse to each other, a `Z` is written out
before a text is read, and minutes are rounded to the nearest hundredth.
-/

namespace IncidentPlatform

open Encoding

/-- `value.replace("Z", "+00:00")`. -/
def replaceZulu (s : String) : String :=
  String.ofList (s.toList.flatMap fun c ↦ if c = 'Z' then "+00:00".toList else [c])

/-- `round(x, 2)` of an exact number, to the even one of two hundredths that are equally near.
Python rounds the double next to the number, so where the number itself is in the middle, as 0.005
is, it can return the other one. -/
def roundTwo (q : ℚ) : ℚ :=
  let n := ⌊q * 100⌋
  let up := 1 / 2 < q * 100 - n ∨ q * 100 - n = 1 / 2 ∧ n % 2 = 1
  (if up then n + 1 else n) / 100

/-- `json.dumps` of a payload with short texts in it. -/
def dumpsPlain (payload : Dict) : String :=
  let member (kv : String × Value) : String := match kv.2 with
    | .str s => "\"" ++ kv.1 ++ "\": \"" ++ s ++ "\""
    | _ => "\"" ++ kv.1 ++ "\": null"
  "\x7b" ++ ", ".intercalate ((payload.insertionSort fun a b ↦ a.1 ≤ b.1).map member) ++ "\x7d"

/-- The functions of the runtime, for the texts the platform writes itself. -/
def TimeText.calendar : TimeText where
  isoformat time := isoformatOf time.toNat
  parse s := (fromisoformat (replaceZulu s)).map fun stamp ↦ (stamp.wall.micros : ℤ)
  dumps := dumpsPlain
  round := roundTwo

/-- Times are written as `isoformat` does. -/
def TimeText.WritesIso (tt : TimeText) : Prop :=
  ∀ d : DateTime, tt.isoformat (d.micros : ℤ) = d.isoformat

theorem TimeText.calendar_writesIso : TimeText.calendar.WritesIso := isoformatOf_micros

/-- The nineteenth of March 2026, at noon. -/
def noon : DateTime where
  year := 2026
  month := 3
  day := 19
  hour := 12
  minute := 0
  second := 0
  microsecond := 0
  year_mem := by decide
  month_mem := by decide
  day_mem := by decide
  hour_lt := by decide
  minute_lt := by decide
  second_lt := by decide
  microsecond_lt := by decide

example : TimeText.calendar.parse "2026-03-19T12:00:00Z" = some (noon.micros : ℤ) := by
  decide +kernel

example : TimeText.calendar.round (1 / 8) = 3 / 25 := by decide +kernel

end IncidentPlatform
