import IncidentPlatform.Encoding.Json
import Mathlib.Data.List.Nodup

/-!
# Dictionaries

A dictionary is the list of its items. An assignment changes the item with the key where it stands,
or puts a new one at the end, so the keys stay distinct and the assigned value is what is found.
-/

namespace Encoding

universe u

variable {α : Type u}

/-- `d.get(key)`. -/
def lookup (key : PyStr) (d : List (PyStr × α)) : Option α :=
  (d.find? fun m ↦ m.1 = key).map Prod.snd

/-- The keys of a dictionary. -/
def keys (d : List (PyStr × α)) : List PyStr := d.map Prod.fst

theorem lookup_setItem (key : PyStr) (value : α) (d : List (PyStr × α)) :
    lookup key (setItem key value d) = some value := by
  induction d with
  | nil => simp [lookup, setItem]
  | cons m d ih =>
    rw [setItem]
    by_cases hm : m.1 = key
    · rw [if_pos hm]
      simp [lookup]
    · rw [if_neg hm, lookup, List.find?_cons_of_neg (by simpa using hm)]
      exact ih

theorem mem_keys_setItem {key : PyStr} {value : α} {d : List (PyStr × α)} {k : PyStr} :
    k ∈ keys (setItem key value d) ↔ k = key ∨ k ∈ keys d := by
  induction d with
  | nil => simp [keys, setItem]
  | cons m d ih =>
    rw [setItem]
    by_cases hm : m.1 = key
    · rw [if_pos hm]
      simp [keys, hm]
    · rw [if_neg hm]
      have hcons : k ∈ keys (m :: setItem key value d) ↔ k = m.1 ∨ k ∈ keys (setItem key value d) :=
        List.mem_cons
      have hcons' : k ∈ keys (m :: d) ↔ k = m.1 ∨ k ∈ keys d := List.mem_cons
      rw [hcons, hcons', ih]
      exact or_left_comm

theorem nodup_keys_setItem {key : PyStr} {value : α} {d : List (PyStr × α)}
    (h : (keys d).Nodup) : (keys (setItem key value d)).Nodup := by
  induction d with
  | nil => exact List.nodup_singleton key
  | cons m d ih =>
    obtain ⟨hm, hd⟩ := List.nodup_cons.mp h
    rw [setItem]
    by_cases hkey : m.1 = key
    · rw [if_pos hkey]
      exact List.nodup_cons.mpr ⟨by rw [← hkey]; exact hm, hd⟩
    · rw [if_neg hkey]
      refine List.nodup_cons.mpr ⟨fun hmem ↦ ?_, ih hd⟩
      exact (mem_keys_setItem.mp hmem).elim hkey hm

/-! ## Dictionaries of items -/

theorem setItem_of_not_mem {key : PyStr} {value : α} {d : List (PyStr × α)} (h : key ∉ keys d) :
    setItem key value d = d ++ [(key, value)] := by
  induction d with
  | nil => rfl
  | cons m d ih =>
    rw [keys, List.map_cons, List.mem_cons, not_or] at h
    rw [setItem, if_neg (Ne.symm h.1), ih h.2]
    rfl

theorem length_setItem (key : PyStr) (value : α) (d : List (PyStr × α)) :
    (setItem key value d).length = if key ∈ keys d then d.length else d.length + 1 := by
  induction d with
  | nil => rfl
  | cons m d ih =>
    by_cases hm : m.1 = key
    · have hmem : key ∈ keys (m :: d) := List.mem_cons.mpr (Or.inl hm.symm)
      rw [setItem, if_pos hm, if_pos hmem]
      rfl
    · have hiff : key ∈ keys (m :: d) ↔ key ∈ keys d :=
        List.mem_cons.trans (or_iff_right (Ne.symm hm))
      rw [setItem, if_neg hm, List.length_cons, ih, List.length_cons]
      simp only [hiff]
      split_ifs <;> rfl

theorem dict_concat (items : List (PyStr × α)) (m : PyStr × α) :
    dict (items ++ [m]) = setItem m.1 m.2 (dict items) := by
  rw [dict, List.foldl_append]
  rfl

theorem length_dict_le (items : List (PyStr × α)) : (dict items).length ≤ items.length := by
  induction items using List.reverseRecOn with
  | nil => exact Nat.le_refl 0
  | append_singleton items m ih =>
    rw [dict_concat, length_setItem, List.length_append, List.length_singleton]
    split_ifs <;> omega

/-- Items none of which is overwritten are the dictionary. -/
theorem dict_eq_of_length {items : List (PyStr × α)} (h : items.length ≤ (dict items).length) :
    dict items = items := by
  induction items using List.reverseRecOn with
  | nil => rfl
  | append_singleton items m ih =>
    have hle := length_dict_le items
    rw [dict_concat, length_setItem, List.length_append, List.length_singleton] at h
    split_ifs at h with hmem
    · omega
    · rw [dict_concat, setItem_of_not_mem hmem, ih (by omega)]

theorem dict_of_nodup {items : List (PyStr × α)} (h : (keys items).Nodup) : dict items = items := by
  induction items using List.reverseRecOn with
  | nil => rfl
  | append_singleton items m ih =>
    rw [keys, List.map_append, List.nodup_append] at h
    obtain ⟨hitems, -, hdisjoint⟩ := h
    rw [dict_concat, ih hitems, setItem_of_not_mem fun hmem ↦ ?_]
    exact hdisjoint _ hmem _ (List.mem_singleton.mpr rfl) rfl

end Encoding
