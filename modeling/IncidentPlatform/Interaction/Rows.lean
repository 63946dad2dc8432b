import Mathlib.Data.List.Nodup

/-!
# Tables as keyed lists

A table with a primary key, or an insertion-ordered dictionary: `put` replaces the row of its key
in place, or appends it. Nothing is assumed of a list of rows; `lookup` returns the first row of a
key, and `put` acts on that one.
-/

namespace Interaction

variable {α κ : Type*} [DecidableEq κ] (key : α → κ)

/-- The row of a key. -/
def lookup : List α → κ → Option α
  | [], _ => none
  | a :: rows, k => if key a = k then some a else lookup rows k

/-- Insert, or replace the row that has the key. -/
def put : List α → α → List α
  | [], r => [r]
  | a :: rows, r => if key a = key r then r :: rows else a :: put rows r

variable {key}

theorem key_of_lookup {rows : List α} {k : κ} {r : α} (h : lookup key rows k = some r) :
    key r = k := by
  induction rows with
  | nil => cases h
  | cons a rows ih =>
    rw [lookup] at h
    split at h
    · next hk =>
      cases h
      exact hk
    · exact ih h

theorem mem_of_lookup {rows : List α} {k : κ} {r : α} (h : lookup key rows k = some r) :
    r ∈ rows := by
  induction rows with
  | nil => cases h
  | cons a rows ih =>
    rw [lookup] at h
    split at h
    · cases h
      exact List.mem_cons_self
    · exact List.mem_cons_of_mem a (ih h)

@[simp] theorem lookup_put_self (rows : List α) (r : α) :
    lookup key (put key rows r) (key r) = some r := by
  induction rows with
  | nil => rw [put, lookup, if_pos rfl]
  | cons a rows ih =>
    rw [put]
    by_cases hk : key a = key r
    · rw [if_pos hk, lookup, if_pos rfl]
    · rw [if_neg hk, lookup, if_neg hk, ih]

theorem lookup_put_of_ne (rows : List α) {r : α} {k : κ} (h : key r ≠ k) :
    lookup key (put key rows r) k = lookup key rows k := by
  induction rows with
  | nil => simp only [put, lookup, if_neg h]
  | cons a rows ih =>
    rw [put]
    by_cases hk : key a = key r
    · rw [if_pos hk, lookup, lookup, if_neg h, if_neg (hk ▸ h)]
    · rw [if_neg hk, lookup, lookup, ih]

theorem lookup_put (rows : List α) (r : α) (k : κ) :
    lookup key (put key rows r) k = if key r = k then some r else lookup key rows k := by
  by_cases hk : key r = k
  · subst hk
    rw [if_pos rfl, lookup_put_self]
  · rw [if_neg hk, lookup_put_of_ne rows hk]

theorem mem_put_self (rows : List α) (r : α) : r ∈ put key rows r := by
  induction rows with
  | nil => exact List.mem_singleton_self r
  | cons a rows ih =>
    rw [put]
    split_ifs
    · exact List.mem_cons_self
    · exact List.mem_cons_of_mem a ih

/-- A row whose key was free replaces no other. -/
theorem mem_put_of_mem {rows : List α} {r s : α} (hfree : lookup key rows (key r) = none)
    (hs : s ∈ rows) : s ∈ put key rows r := by
  induction rows with
  | nil => cases hs
  | cons a rows ih =>
    rw [lookup] at hfree
    by_cases hk : key a = key r
    · rw [if_pos hk] at hfree
      cases hfree
    · rw [if_neg hk] at hfree
      rw [put, if_neg hk]
      rcases List.mem_cons.mp hs with rfl | hs
      · exact List.mem_cons_self
      · exact List.mem_cons_of_mem a (ih hfree hs)

/-- Of two writes of one key the later one stays. -/
theorem put_put (rows : List α) {r s : α} (h : key r = key s) :
    put key (put key rows r) s = put key rows s := by
  induction rows with
  | nil => simp only [put, if_pos h]
  | cons a rows ih =>
    rw [put, put]
    by_cases hk : key a = key r
    · rw [if_pos hk, if_pos (hk.trans h), put, if_pos h]
    · rw [if_neg hk, if_neg (h ▸ hk), put, if_neg (h ▸ hk), ih]

/-- Writing a row back unchanged changes nothing. -/
theorem put_of_lookup {rows : List α} {r : α} (h : lookup key rows (key r) = some r) :
    put key rows r = rows := by
  induction rows with
  | nil => cases h
  | cons a rows ih =>
    rw [lookup] at h
    rw [put]
    split at h
    · next hk =>
      cases h
      rw [if_pos rfl]
    · next hk => rw [if_neg hk, ih h]

theorem eq_or_mem_of_mem_put {rows : List α} {r s : α} (h : s ∈ put key rows r) :
    s = r ∨ s ∈ rows := by
  induction rows with
  | nil => exact Or.inl (List.mem_singleton.mp h)
  | cons a rows ih =>
    rw [put] at h
    split_ifs at h
    · exact (List.mem_cons.mp h).imp_right (List.mem_cons_of_mem a)
    · rcases List.mem_cons.mp h with rfl | h
      · exact Or.inr List.mem_cons_self
      · exact (ih h).imp_right (List.mem_cons_of_mem a)

/-- A table in which no key occurs twice stays one. -/
theorem nodup_map_put {rows : List α} (r : α) (h : (rows.map key).Nodup) :
    ((put key rows r).map key).Nodup := by
  induction rows with
  | nil => exact List.nodup_singleton _
  | cons a rows ih =>
    obtain ⟨ha, hrows⟩ := List.nodup_cons.mp h
    rw [put]
    split_ifs with hk
    · exact List.nodup_cons.mpr ⟨hk ▸ ha, hrows⟩
    · refine List.nodup_cons.mpr ⟨fun hmem ↦ ?_, ih hrows⟩
      obtain ⟨s, hs, hsame⟩ := List.mem_map.mp hmem
      rcases eq_or_mem_of_mem_put hs with rfl | hs
      · exact hk hsame.symm
      · exact ha (hsame ▸ List.mem_map_of_mem hs)

end Interaction
