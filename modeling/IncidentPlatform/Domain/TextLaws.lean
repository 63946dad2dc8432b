import IncidentPlatform.Domain.Value
import IncidentPlatform.Encoding.Fields

/-!
# What is documented of the text functions
-/

namespace IncidentPlatform

/-- What is documented of `str.strip` and `str.lower`. No character becomes white space by being
put in lower case, and ASCII text is treated as in `Text.ascii`. -/
structure Text.Standard (t : Text) : Prop where
  strip_strip : ∀ s, t.strip (t.strip s) = t.strip s
  lower_lower : ∀ s, t.lower (t.lower s) = t.lower s
  strip_lower : ∀ s, t.strip (t.lower (t.strip s)) = t.lower (t.strip s)
  lower_ascii : ∀ s, (∀ c ∈ s.toList, c.toNat < 128) → t.lower s = Text.ascii.lower s
  strip_ascii : ∀ s, (∀ c ∈ s.toList, c.toNat < 128) → t.strip s = Text.ascii.strip s

theorem ascii_of_all {s : String} (h : (s.toList.all fun c ↦ decide (c.toNat < 128)) = true) :
    ∀ c ∈ s.toList, c.toNat < 128 := fun c hc ↦ of_decide_eq_true (List.all_eq_true.mp h c hc)

/-- White space of ASCII. -/
def asciiBlank (c : Char) : Bool :=
  c == ' ' || (decide (9 ≤ c.toNat) && decide (c.toNat ≤ 13)) ||
    (decide (28 ≤ c.toNat) && decide (c.toNat ≤ 31))

theorem strip_ascii_eq (s : String) :
    Text.ascii.strip s = String.ofList (Encoding.trim asciiBlank s.toList) := rfl

/-- Putting a character in lower case makes a letter of a capital and leaves others alone. -/
theorem toLower_cases (c : Char) :
    c.toLower = c ∨ 65 ≤ c.toNat ∧ c.toNat ≤ 90 ∧ c.toLower.toNat = c.toNat + 32 := by
  unfold Char.toLower
  split_ifs with h
  · have hlow : 65 ≤ c.toNat := h.1
    have hhigh : c.toNat ≤ 90 := h.2
    have hnat : (c.val + ('a'.val - 'A'.val)).toNat = c.toNat + 32 := by
      rw [UInt32.toNat_add]
      exact Nat.mod_eq_of_lt (by change c.toNat + 32 < _; omega)
    exact Or.inr ⟨hlow, hhigh, hnat⟩
  · exact Or.inl rfl

theorem toLower_toLower (c : Char) : c.toLower.toLower = c.toLower := by
  rcases toLower_cases c with h | ⟨hlow, -, hnat⟩
  · rw [h, h]
  · rcases toLower_cases c.toLower with hsame | ⟨-, hhigh, -⟩
    · exact hsame
    · omega

theorem asciiBlank_toLower (c : Char) : asciiBlank c.toLower = asciiBlank c := by
  have hletter (d : Char) (h : 65 ≤ d.toNat) : asciiBlank d = false := by
    have hspace : d ≠ ' ' := by
      rintro rfl
      exact absurd h (by decide)
    simp only [asciiBlank, beq_eq_false_iff_ne.mpr hspace, Bool.false_or, Bool.or_eq_false_iff,
      Bool.and_eq_false_iff, decide_eq_false_iff_not]
    omega
  rcases toLower_cases c with h | ⟨hc, -, hnat⟩
  · rw [h]
  · rw [hletter _ (by omega), hletter c hc]

/-- The model of ASCII text is one. -/
theorem Text.ascii_standard : Text.ascii.Standard where
  strip_strip s := by
    rw [strip_ascii_eq, strip_ascii_eq, String.toList_ofList, Encoding.trim_trim]
  lower_lower s := by
    change String.ofList ((String.ofList (s.toList.map Char.toLower)).toList.map Char.toLower) = _
    rw [String.toList_ofList, List.map_map]
    exact congrArg String.ofList (List.map_congr_left fun c _ ↦ toLower_toLower c)
  strip_lower s := by
    rw [strip_ascii_eq, strip_ascii_eq]
    change String.ofList (Encoding.trim asciiBlank (String.ofList ((String.ofList
      (Encoding.trim asciiBlank s.toList)).toList.map Char.toLower)).toList) = String.ofList _
    rw [String.toList_ofList, String.toList_ofList, Encoding.trim_map asciiBlank_toLower,
      Encoding.trim_trim]
  lower_ascii _ _ := rfl
  strip_ascii _ _ := rfl

end IncidentPlatform
