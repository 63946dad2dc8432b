import Mathlib.Data.List.Nodup
import Mathlib.Data.List.Sort

/-!
# A window on the newest of a list

A log that many share is often read through a window, the `n` newest entries, and filtered by the
reader. `crowd` counts what the others have put before an entry of the reader's: the `k`-th of the
reader's entries is in the window if and only if `k` and its crowd leave room
(`lt_length_filter_take`). So two logs with the same entries of the reader show the reader the same
exactly when the same of them have room (`length_filter_take_eq_iff`).

`filter_insertionSort` says that a stable sort does not mix up what a filter keeps. `Newest` is what
a database answers that is asked for the window, which is free to order rows of one time.
-/

namespace Interaction

variable {α : Type*}

/-- How many elements without `p` come before the `k`-th element with `p`. -/
def crowd (p : α → Bool) : List α → ℕ → ℕ
  | [], _ => 0
  | a :: l, k =>
    if p a then (if k = 0 then 0 else crowd p l (k - 1)) else crowd p l k + 1

variable {p : α → Bool}

/-- The `k`-th element with `p` is among the first `n` if there is room for it. -/
theorem lt_length_filter_take {l : List α} {k : ℕ} (hk : k < (l.filter p).length) (n : ℕ) :
    k < ((l.take n).filter p).length ↔ k + crowd p l k < n := by
  induction l generalizing k n with
  | nil => exact absurd hk (Nat.not_lt_zero k)
  | cons a l ih =>
    cases n with
    | zero => simp
    | succ n =>
      rw [List.take_succ_cons, crowd]
      by_cases ha : p a = true
      · rw [List.filter_cons_of_pos ha] at hk ⊢
        rw [if_pos ha]
        cases k with
        | zero => simp
        | succ k =>
          have hrest := ih (Nat.lt_of_succ_lt_succ hk) n
          rw [List.length_cons, if_neg (Nat.succ_ne_zero k), Nat.add_sub_cancel]
          omega
      · rw [List.filter_cons_of_neg ha] at hk ⊢
        rw [if_neg ha, ih hk n]
        omega

/-- What is kept of a window comes first in what is kept of all. -/
theorem filter_take_eq (l : List α) (n : ℕ) :
    (l.take n).filter p = (l.filter p).take ((l.take n).filter p).length :=
  List.prefix_iff_eq_take.mp ((List.take_prefix n l).filter p)

/-- Two windows show equally many if and only if there is room for the same. -/
theorem length_filter_take_eq_iff {l l' : List α} (h : l.filter p = l'.filter p) (n n' : ℕ) :
    ((l.take n).filter p).length = ((l'.take n').filter p).length ↔
      ∀ k < (l.filter p).length, (k + crowd p l k < n ↔ k + crowd p l' k < n') := by
  have hroom (k : ℕ) (hk : k < (l.filter p).length) :
      (k + crowd p l k < n ↔ k + crowd p l' k < n') ↔
        (k < ((l.take n).filter p).length ↔ k < ((l'.take n').filter p).length) := by
    rw [lt_length_filter_take hk, lt_length_filter_take (h ▸ hk)]
  have hle : ((l.take n).filter p).length ≤ (l.filter p).length :=
    ((List.take_sublist n l).filter p).length_le
  have hle' : ((l'.take n').filter p).length ≤ (l.filter p).length := by
    rw [h]
    exact ((List.take_sublist n' l').filter p).length_le
  constructor
  · intro heq k hk
    rw [hroom k hk, heq]
  · intro hall
    rcases Nat.lt_trichotomy ((l.take n).filter p).length ((l'.take n').filter p).length with
      hlt | heq | hlt
    · have hshort := Nat.lt_of_lt_of_le hlt hle'
      exact absurd (((hroom _ hshort).mp (hall _ hshort)).mpr hlt) (Nat.lt_irrefl _)
    · exact heq
    · have hshort := Nat.lt_of_lt_of_le hlt hle
      exact absurd (((hroom _ hshort).mp (hall _ hshort)).mp hlt) (Nat.lt_irrefl _)

/-- Lists that keep the same show the same where they show equally many. -/
theorem filter_take_eq_of_length {l l' : List α} {n n' : ℕ} (h : l.filter p = l'.filter p)
    (hlength : ((l.take n).filter p).length = ((l'.take n').filter p).length) :
    (l.take n).filter p = (l'.take n').filter p := by
  rw [filter_take_eq l, filter_take_eq l', hlength, h]

/-! ## Stable sorting -/

variable {r : α → α → Prop} [DecidableRel r]

theorem orderedInsert_of_forall_rel {a : α} {l : List α} (h : ∀ b ∈ l, r a b) :
    l.orderedInsert r a = a :: l := by
  cases l with
  | nil => rfl
  | cons b l => exact List.orderedInsert_cons_of_le r l (h b List.mem_cons_self)

theorem filter_orderedInsert [IsTrans α r] (a : α) {l : List α} (hl : l.Pairwise r) :
    (l.orderedInsert r a).filter p =
      if p a then (l.filter p).orderedInsert r a else l.filter p := by
  induction l with
  | nil => by_cases ha : p a = true <;> simp [ha]
  | cons b l ih =>
    obtain ⟨hb, hl⟩ := List.pairwise_cons.mp hl
    rw [List.orderedInsert_cons]
    by_cases hab : r a b
    · -- every element from `b` on is related to `a`, so `a` also comes first among the kept
      rw [if_pos hab, List.filter_cons]
      split_ifs with ha
      · refine (orderedInsert_of_forall_rel fun c hc ↦ ?_).symm
        rcases List.mem_cons.mp (List.mem_of_mem_filter hc) with rfl | hc
        · exact hab
        · exact IsTrans.trans a b c hab (hb c hc)
      · rfl
    · rw [if_neg hab, List.filter_cons, List.filter_cons, ih hl]
      by_cases hpb : p b = true
      · split_ifs
        · rw [List.orderedInsert_cons, if_neg hab]
        · rfl
      · simp [hpb]

/-- A stable sort of what is kept. -/
theorem filter_insertionSort [IsTrans α r] [Std.Total r] (l : List α) :
    (l.insertionSort r).filter p = (l.filter p).insertionSort r := by
  induction l with
  | nil => rfl
  | cons a l ih =>
    rw [List.insertionSort_cons, filter_orderedInsert a (List.pairwise_insertionSort r l), ih,
      List.filter_cons]
    split_ifs <;> rfl

/-! ## The newest -/

/-- What `ORDER BY time DESC LIMIT n` may answer. Rows of one time may come in any order. -/
def Newest (time : α → ℤ) (n : ℕ) (rows out : List α) : Prop :=
  ∃ l : List α, l.Perm rows ∧ l.Pairwise (fun a b ↦ time b ≤ time a) ∧ out = l.take n

/-- Where no two rows have one time, the answer is determined. -/
theorem newest_iff {time : α → ℤ} {n : ℕ} {rows sorted out : List α}
    (htimes : (rows.map time).Nodup) (hperm : sorted.Perm rows)
    (hsorted : sorted.Pairwise fun a b ↦ time b ≤ time a) :
    Newest time n rows out ↔ out = sorted.take n := by
  constructor
  · rintro ⟨l, hl, hpairwise, rfl⟩
    have hunique : l = sorted := by
      refine List.Perm.eq_of_pairwise (fun a b ha hb hab hba ↦ ?_) hpairwise hsorted
        (hl.trans hperm.symm)
      exact List.inj_on_of_nodup_map htimes (hl.mem_iff.mp ha) (hperm.mem_iff.mp hb)
        (le_antisymm hba hab)
    rw [hunique]
  · exact fun h ↦ ⟨sorted, hperm, hsorted, h⟩

end Interaction
