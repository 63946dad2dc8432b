import IncidentPlatform.Encoding.IsoFormat
import IncidentPlatform.Encoding.Scanner

/-!
# ISO 8601, as `fromisoformat` reads it

A `Stamp` is a `datetime` that may have an offset from UTC. `fromisoformat` reads the texts that
`isoformat` writes, and is its inverse (`fromisoformat_isoformat`). What it makes of other texts
depends on the version of Python, and is not said here.

`Scanner.Takes` is a round trip of one part: the part is taken off whatever follows.
-/

namespace Encoding

/-! ## Stamps -/

/-- A `datetime`, with the microseconds that its wall clock is ahead of UTC. -/
@[ext]
structure Stamp where
  wall : DateTime
  offset : Option ℤ := none
  offset_mem : ∀ o, offset = some o → -86400000000 < o ∧ o < 86400000000

/-- The microseconds of the instant. A stamp without offset is in UTC. -/
def Stamp.instant (s : Stamp) : ℤ := s.wall.micros - s.offset.getD 0

/-- A span of time, down to minutes or as far as there is something to write. -/
def spanChars (n : ℕ) : List Char :=
  pad 2 (n / 3600000000) ++ ':' :: (pad 2 (n / 60000000 % 60) ++
    if n % 60000000 = 0 then [] else ':' :: (pad 2 (n / 1000000 % 60) ++ fraction (n % 1000000)))

def offsetChars : Option ℤ → List Char
  | none => []
  | some o => (if o < 0 then '-' else '+') :: spanChars o.natAbs

/-- `s.isoformat()`. -/
def Stamp.isoformat (s : Stamp) : String :=
  String.ofList (isoChars s.wall.fields ++ offsetChars s.offset)

/-! ## Reading -/

open Scanner

def scanDigit : Scanner ℕ
  | [] => none
  | c :: rest => if '0' ≤ c ∧ c ≤ '9' then some (c.toNat - 48, rest) else none

/-- A number of `k` digits. -/
def scanDecimal : ℕ → Scanner ℕ
  | 0 => done 0
  | k + 1 => scanDigit.andThen fun n ↦ (scanDecimal k).andThen fun m ↦ done (n * 10 ^ k + m)

/-- A number of `k` digits, and `c` after it. -/
def scanField (k : ℕ) (c : Char) : Scanner ℕ :=
  (scanDecimal k).andThen fun n ↦ (char c).andThen fun _ ↦ done n

def scanFraction : Scanner ℕ
  | '.' :: rest => scanDecimal 6 rest
  | rest => some (0, rest)

def scanFields : Scanner (List ℕ) :=
  (scanField 4 '-').andThen fun year ↦ (scanField 2 '-').andThen fun month ↦
    (scanField 2 'T').andThen fun day ↦ (scanField 2 ':').andThen fun hour ↦
      (scanField 2 ':').andThen fun minute ↦ (scanDecimal 2).andThen fun second ↦
        scanFraction.andThen fun microsecond ↦
          done [year, month, day, hour, minute, second, microsecond]

/-- The `datetime` with these fields, if there is one. -/
def DateTime.ofFields : List ℕ → Option DateTime
  | [year, month, day, hour, minute, second, microsecond] =>
    if h : (1 ≤ year ∧ year ≤ 9999) ∧ (1 ≤ month ∧ month ≤ 12) ∧
        (1 ≤ day ∧ day ≤ daysInMonth year month) ∧ hour < 24 ∧ minute < 60 ∧ second < 60 ∧
          microsecond < 1000000 then
      some ⟨year, month, day, hour, minute, second, microsecond, h.1, h.2.1, h.2.2.1, h.2.2.2.1,
        h.2.2.2.2.1, h.2.2.2.2.2.1, h.2.2.2.2.2.2⟩
    else none
  | _ => none

/-- The seconds of a span, if they are written. -/
def scanSeconds : Scanner ℕ
  | ':' :: rest => ((scanDecimal 2).andThen fun second ↦ scanFraction.andThen fun microsecond ↦
      done (second * 1000000 + microsecond)) rest
  | rest => some (0, rest)

def scanSpan : Scanner ℕ :=
  (scanField 2 ':').andThen fun hour ↦ (scanDecimal 2).andThen fun minute ↦
    scanSeconds.andThen fun n ↦ done (hour * 3600000000 + minute * 60000000 + n)

def scanOffset : Scanner (Option ℤ)
  | '+' :: rest => (scanSpan.andThen fun n ↦ done (some (n : ℤ))) rest
  | '-' :: rest => (scanSpan.andThen fun n ↦ done (some (-n : ℤ))) rest
  | rest => some (none, rest)

/-- The stamp with this offset, if there is one. -/
def Stamp.ofOffset (wall : DateTime) (offset : Option ℤ) : Option Stamp :=
  if h : ∀ o ∈ offset, -86400000000 < o ∧ o < 86400000000 then some ⟨wall, offset, h⟩ else none

def scanStamp : Scanner Stamp :=
  (scanFields.andThen fun fields ↦ ofOption (DateTime.ofFields fields)).andThen fun wall ↦
    scanOffset.andThen fun offset ↦ ofOption (Stamp.ofOffset wall offset)

/-- `datetime.fromisoformat(s)`. -/
def fromisoformat (s : String) : Option Stamp :=
  (scanStamp s.toList).bind fun r ↦ if r.2 = [] then some r.1 else none

/-! ## Round trips -/

/-- `a` is taken off a text that begins with `w`, whatever follows. -/
def Scanner.Takes {α : Type} (p : Scanner α) (w : List Char) (a : α) : Prop :=
  ∀ rest, p (w ++ rest) = some (a, rest)

theorem Scanner.map_of_eq {α β : Type} {p : Scanner α} {input rest : List Char} {a : α}
    (h : p input = some (a, rest)) (g : α → β) :
    p.andThen (fun a ↦ done (g a)) input = some (g a, rest) := by
  rw [andThen_of_eq h]
  rfl

theorem takes_digit {n : ℕ} (h : n < 10) : scanDigit.Takes [digit n] n := by
  intro rest
  have hall : ∀ m < 10, ('0' ≤ digit m ∧ digit m ≤ '9') ∧ (digit m).toNat - 48 = m := by decide
  obtain ⟨hrange, hvalue⟩ := hall n h
  rw [List.singleton_append, scanDigit, if_pos hrange, hvalue]

theorem takes_decimal {k n : ℕ} (h : n < 10 ^ k) : (scanDecimal k).Takes (pad k n) n := by
  induction k generalizing n with
  | zero =>
    rw [Nat.lt_one_iff.mp h]
    exact fun _ ↦ rfl
  | succ k ih =>
    have hpos : 0 < 10 ^ k := Nat.pow_pos (by decide)
    have hdigit : n / 10 ^ k < 10 := by
      rw [Nat.div_lt_iff_lt_mul hpos, ← Nat.pow_succ']
      exact h
    intro rest
    have hlow := map_of_eq (ih (Nat.mod_lt n hpos) rest) (n / 10 ^ k * 10 ^ k + ·)
    rw [Nat.div_add_mod'] at hlow
    exact (andThen_of_eq (takes_digit hdigit _)).trans hlow

theorem scanField_pad {k n : ℕ} (h : n < 10 ^ k) (c : Char) (rest : List Char) :
    scanField k c (pad k n ++ c :: rest) = some (n, rest) := by
  rw [scanField, andThen_of_eq (takes_decimal h _), andThen_of_eq (char_self c rest)]
  rfl

/-- What follows does not go on with a fraction. -/
def NoFraction (rest : List Char) : Prop := ∀ tail, rest ≠ '.' :: tail

theorem scanFraction_fraction {n : ℕ} (h : n < 1000000) {rest : List Char}
    (hrest : NoFraction rest) : scanFraction (fraction n ++ rest) = some (n, rest) := by
  rw [fraction]
  split_ifs with hzero
  · rw [hzero, List.nil_append]
    unfold scanFraction
    split
    · exact absurd rfl (hrest _)
    · rfl
  · exact takes_decimal (k := 6) h rest

theorem scanFields_isoChars (d : DateTime) {rest : List Char} (hrest : NoFraction rest) :
    scanFields (isoChars d.fields ++ rest) = some (d.fields, rest) := by
  have hyear := d.year_mem.2
  have hmonth := d.month_mem.2
  have hhour := d.hour_lt
  have hminute := d.minute_lt
  have hsecond := d.second_lt
  rw [DateTime.fields, isoChars]
  simp only [List.append_assoc, List.cons_append]
  rw [scanFields, andThen_of_eq (scanField_pad (by omega) _ _),
    andThen_of_eq (scanField_pad (by omega) _ _), andThen_of_eq (scanField_pad d.day_lt _ _),
    andThen_of_eq (scanField_pad (by omega) _ _), andThen_of_eq (scanField_pad (by omega) _ _),
    andThen_of_eq (takes_decimal (by omega) _),
    andThen_of_eq (scanFraction_fraction d.microsecond_lt hrest)]
  rfl

theorem ofFields_fields (d : DateTime) : DateTime.ofFields d.fields = some d :=
  dif_pos ⟨d.year_mem, d.month_mem, d.day_mem, d.hour_lt, d.minute_lt, d.second_lt,
    d.microsecond_lt⟩

theorem noFraction_offsetChars (o : Option ℤ) : NoFraction (offsetChars o) := by
  intro tail h
  cases o with
  | none => cases h
  | some o =>
    have hsign : (if o < 0 then '-' else '+') = '.' := (List.cons.inj h).1
    split_ifs at hsign
    · exact absurd hsign (by decide)
    · exact absurd hsign (by decide)

theorem scanSeconds_seconds {n : ℕ} (h : n < 60000000) :
    scanSeconds (if n = 0 then [] else
      ':' :: (pad 2 (n / 1000000) ++ fraction (n % 1000000))) = some (n, []) := by
  have hmicro : n % 1000000 < 1000000 := Nat.mod_lt n (by decide)
  split_ifs with hzero
  · rw [hzero]
    rfl
  · have hfraction : scanFraction (fraction (n % 1000000) ++ []) = some (n % 1000000, []) :=
      scanFraction_fraction hmicro fun _ h ↦ by cases h
    rw [List.append_nil] at hfraction
    have hsecond := takes_decimal (k := 2) (n := n / 1000000) (by omega) (fraction (n % 1000000))
    rw [scanSeconds, andThen_of_eq hsecond, map_of_eq hfraction, Nat.div_add_mod']

theorem scanSpan_spanChars {n : ℕ} (h : n < 86400000000) :
    scanSpan (spanChars n) = some (n, []) := by
  have hseconds := scanSeconds_seconds (Nat.mod_lt n (show 0 < 60000000 by decide))
  have hsecond : n % 60000000 / 1000000 = n / 1000000 % 60 := by omega
  have hmicro : n % 60000000 % 1000000 = n % 1000000 := by omega
  rw [hsecond, hmicro] at hseconds
  rw [spanChars, scanSpan, andThen_of_eq (scanField_pad (by omega) _ _),
    andThen_of_eq (takes_decimal (by omega) _), andThen_of_eq hseconds]
  refine congrArg (fun m ↦ some (m, [])) ?_
  omega

theorem scanOffset_offsetChars {o : Option ℤ}
    (h : ∀ n, o = some n → -86400000000 < n ∧ n < 86400000000) :
    scanOffset (offsetChars o) = some (o, []) := by
  cases o with
  | none => rfl
  | some n =>
    obtain ⟨hlow, hhigh⟩ := h n rfl
    have hspan := scanSpan_spanChars (n := n.natAbs) (by omega)
    rw [offsetChars]
    split_ifs with hneg
    · refine (map_of_eq hspan fun m : ℕ ↦ some (-m : ℤ)).trans
        (congrArg (fun m ↦ some (some m, [])) ?_)
      omega
    · refine (map_of_eq hspan fun m : ℕ ↦ some (m : ℤ)).trans
        (congrArg (fun m ↦ some (some m, [])) ?_)
      omega

/-- **`fromisoformat` is the inverse of `isoformat`.** -/
theorem fromisoformat_isoformat (s : Stamp) : fromisoformat s.isoformat = some s := by
  have hwall : (scanFields.andThen fun fields ↦ ofOption (DateTime.ofFields fields))
      (isoChars s.wall.fields ++ offsetChars s.offset) = some (s.wall, offsetChars s.offset) := by
    rw [andThen_of_eq (scanFields_isoChars s.wall (noFraction_offsetChars s.offset)),
      ofFields_fields]
    rfl
  have hoffset : Stamp.ofOffset s.wall s.offset = some s := dif_pos s.offset_mem
  rw [fromisoformat, Stamp.isoformat, String.toList_ofList, scanStamp, andThen_of_eq hwall,
    andThen_of_eq (scanOffset_offsetChars s.offset_mem), hoffset]
  rfl

end Encoding
