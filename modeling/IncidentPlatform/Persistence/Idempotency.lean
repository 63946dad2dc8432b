import IncidentPlatform.Domain.Models
import Mathlib.Data.List.Nodup

/-!
# The idempotency store

`src/persistence/idempotency.py`. A key is claimed in one of two memories: the table
`idempotency_keys`, or, in demo mode and while the schema statement has never succeeded, a set in
the process. A call does not choose between them; the first schema statement that goes through
switches the store to the table for good, and the set is not consulted again.

So the guarantee of each memory on its own, which is `firstTimes` below, is not the guarantee of
the store: a key claimed in the process before the switch can be claimed in the table after it.
`granted_nodup_iff` says that this is the only way a key is granted twice.
-/

namespace IncidentPlatform

/-! ## First occurrences -/

section FirstTimes

variable {α : Type*} [DecidableEq α]

/-- The elements of a list that are neither in `seen` nor earlier in the list. -/
def firstTimes (seen : List α) : List α → List α
  | [] => []
  | a :: as => if a ∈ seen then firstTimes seen as else a :: firstTimes (seen ++ [a]) as

theorem mem_firstTimes {a : α} (as : List α) : ∀ seen : List α,
    a ∈ firstTimes seen as ↔ a ∈ as ∧ a ∉ seen := by
  induction as with
  | nil => simp [firstTimes]
  | cons b as ih =>
    intro seen
    rw [firstTimes]
    by_cases hb : b ∈ seen
    · rw [if_pos hb, ih]
      exact ⟨fun h ↦ ⟨List.mem_cons_of_mem b h.1, h.2⟩, fun h ↦
        ⟨(List.mem_cons.mp h.1).resolve_left fun hab ↦ h.2 (hab ▸ hb), h.2⟩⟩
    · rw [if_neg hb, List.mem_cons, ih, List.mem_cons, List.mem_append, List.mem_singleton]
      by_cases hab : a = b
      · subst hab
        simp [hb]
      · simp [hab]

theorem nodup_firstTimes (as : List α) : ∀ seen : List α, (firstTimes seen as).Nodup := by
  induction as with
  | nil => exact fun _ ↦ List.nodup_nil
  | cons b as ih =>
    intro seen
    rw [firstTimes]
    by_cases hb : b ∈ seen
    · rw [if_pos hb]
      exact ih seen
    · rw [if_neg hb, List.nodup_cons]
      exact ⟨fun h ↦ ((mem_firstTimes as _).mp h).2 (by simp), ih _⟩

end FirstTimes

/-! ## The store -/

/-- What one `claim` call finds of the database: whether the schema statement would go through and
whether the insert would. -/
structure Reach where
  schema : Bool
  insert : Bool
  deriving DecidableEq, Repr, Inhabited

/-- A row of `idempotency_keys`. -/
structure IdempotencyKey where
  key : String
  actionId : String
  createdAt : Time
  deriving DecidableEq, Repr, Inhabited

/-- `IdempotencyStore`, with the table it writes to. A new process starts with `schemaReady` false
and an empty set, and finds the table as earlier processes left it. -/
structure IdempotencyStore where
  schemaReady : Bool := false
  fallback : List String := []
  table : List IdempotencyKey := []
  deriving DecidableEq, Repr, Inhabited

namespace IdempotencyStore

/-- The keys of the table. -/
def tableKeys (s : IdempotencyStore) : List String := s.table.map IdempotencyKey.key

/-- `_ensure_schema`. -/
def ensureSchema (s : IdempotencyStore) (reach : Reach) : Except Fault IdempotencyStore :=
  if s.schemaReady then .ok s
  else if reach.schema then .ok { s with schemaReady := true }
  else .error .databaseError

/-- `INSERT … ON CONFLICT (key) DO NOTHING`, answering whether a row went in. -/
def insertKey (s : IdempotencyStore) (reach : Reach) (createdAt : Time) (key actionId : String) :
    Except Fault Bool × IdempotencyStore :=
  if reach.insert then
    if key ∈ s.tableKeys then (.ok false, s)
    else (.ok true, { s with table := s.table ++ [{ key, actionId, createdAt }] })
  else (.error .databaseError, s)

/-- `claim`. Outside demo mode a failing schema statement is an exception; in demo mode the call
falls back to the set. -/
def claim (demoMode : Bool) (s : IdempotencyStore) (reach : Reach) (createdAt : Time)
    (key actionId : String) : Except Fault Bool × IdempotencyStore :=
  match s.ensureSchema reach with
  | .ok s => s.insertKey reach createdAt key actionId
  | .error e =>
    if demoMode then
      if key ∈ s.fallback then (.ok false, s)
      else (.ok true, { s with fallback := s.fallback ++ [key] })
    else (.error e, s)

variable {s : IdempotencyStore} {reach : Reach} {createdAt : Time} {key actionId : String}
  {demoMode : Bool}

theorem claim_of_ready (h : s.schemaReady = true) :
    s.claim demoMode reach createdAt key actionId = s.insertKey reach createdAt key actionId := by
  rw [claim, ensureSchema, if_pos h]

theorem claim_of_schema (h : s.schemaReady = false) (hr : reach.schema = true) :
    s.claim demoMode reach createdAt key actionId
      = ({ s with schemaReady := true }).insertKey reach createdAt key actionId := by
  rw [claim, ensureSchema, h, hr]
  rfl

theorem claim_of_outage (h : s.schemaReady = false) (hr : reach.schema = false) :
    s.claim true reach createdAt key actionId =
      if key ∈ s.fallback then (.ok false, s)
      else (.ok true, { s with fallback := s.fallback ++ [key] }) := by
  rw [claim, ensureSchema, h, hr]
  rfl

/-- An insert that is answered grants exactly the keys that are not in the table. -/
theorem insertKey_fst (s : IdempotencyStore) (hr : reach.insert = true) :
    (s.insertKey reach createdAt key actionId).1 = .ok (decide (key ∉ s.tableKeys)) := by
  rw [insertKey, if_pos hr]
  by_cases hk : key ∈ s.tableKeys
  · rw [if_pos hk, decide_eq_false (not_not.mpr hk)]
  · rw [if_neg hk, decide_eq_true hk]

@[simp] theorem insertKey_schemaReady (s : IdempotencyStore) :
    (s.insertKey reach createdAt key actionId).2.schemaReady = s.schemaReady := by
  rw [insertKey]
  split_ifs <;> rfl

/-- The clock only enters the row. -/
theorem claim_fst (s : IdempotencyStore) (t : Time) :
    (s.claim demoMode reach createdAt key actionId).1
      = (s.claim demoMode reach t key actionId).1 := by
  unfold claim insertKey
  split <;> split_ifs <;> rfl

/-- An answered insert leaves its key in the table and takes none out. -/
theorem insertKey_tableKeys (s : IdempotencyStore) (hr : reach.insert = true) :
    (s.insertKey reach createdAt key actionId).2.tableKeys =
      if key ∈ s.tableKeys then s.tableKeys else s.tableKeys ++ [key] := by
  rw [insertKey, if_pos hr]
  by_cases hk : key ∈ s.tableKeys
  · rw [if_pos hk, if_pos hk]
  · rw [if_neg hk, if_neg hk, tableKeys, tableKeys, List.map_append]
    rfl

end IdempotencyStore

/-! ## Sequences of claims -/

/-- One `claim` call: its arguments, the clock and what it finds of the database. -/
structure ClaimCall where
  key : String
  actionId : String
  createdAt : Time
  reach : Reach
  deriving DecidableEq, Repr, Inhabited

/-- The keys of the calls answered `True` in demo mode, in order. -/
def granted (s : IdempotencyStore) : List ClaimCall → List String
  | [] => []
  | c :: calls =>
    match s.claim true c.reach c.createdAt c.key c.actionId with
    | (.ok true, s') => c.key :: granted s' calls
    | (_, s') => granted s' calls

/-- The calls made while no schema statement has gone through yet. -/
def outageCalls (calls : List ClaimCall) : List ClaimCall :=
  calls.takeWhile fun c ↦ !c.reach.schema

/-- The calls from the first schema statement on. -/
def durableCalls (calls : List ClaimCall) : List ClaimCall :=
  calls.dropWhile fun c ↦ !c.reach.schema

/-- The keys whose insert is answered. -/
def insertedKeys (calls : List ClaimCall) : List String :=
  (calls.filter fun c ↦ c.reach.insert).map ClaimCall.key

/-- On the table alone a key is granted the first time an insert of it is answered. -/
theorem granted_of_ready (calls : List ClaimCall) : ∀ s : IdempotencyStore, s.schemaReady = true →
    granted s calls = firstTimes s.tableKeys (insertedKeys calls) := by
  induction calls with
  | nil => exact fun _ _ ↦ rfl
  | cons c calls ih =>
    intro s hs
    rw [granted, IdempotencyStore.claim_of_ready hs, IdempotencyStore.insertKey, insertedKeys,
      List.filter_cons]
    by_cases hr : c.reach.insert = true
    · rw [if_pos hr, if_pos hr, List.map_cons, firstTimes]
      by_cases hk : c.key ∈ s.tableKeys
      · rw [if_pos hk, if_pos hk]
        exact ih s hs
      · rw [if_neg hk, if_neg hk]
        have hstep := ih { s with table := s.table ++ [⟨c.key, c.actionId, c.createdAt⟩] } hs
        rw [IdempotencyStore.tableKeys, List.map_append] at hstep
        exact congrArg (c.key :: ·) hstep
    · rw [if_neg hr, if_neg hr]
      exact ih s hs

/-- From a fresh process on, the set grants first and the table grants again from scratch. -/
theorem granted_of_fresh (calls : List ClaimCall) :
    ∀ s : IdempotencyStore, s.schemaReady = false →
      granted s calls = firstTimes s.fallback ((outageCalls calls).map ClaimCall.key) ++
        firstTimes s.tableKeys (insertedKeys (durableCalls calls)) := by
  induction calls with
  | nil => exact fun _ _ ↦ rfl
  | cons c calls ih =>
    intro s hs
    by_cases hr : c.reach.schema = true
    · rw [outageCalls, durableCalls, List.takeWhile_cons, List.dropWhile_cons, hr]
      -- the schema statement goes through, as if the store had been ready
      have hclaim : s.claim true c.reach c.createdAt c.key c.actionId
          = ({ s with schemaReady := true }).claim true c.reach c.createdAt c.key c.actionId := by
        rw [IdempotencyStore.claim_of_schema hs hr, IdempotencyStore.claim_of_ready rfl]
      rw [granted, hclaim, ← granted]
      exact granted_of_ready (c :: calls) _ rfl
    · rw [Bool.not_eq_true] at hr
      rw [outageCalls, durableCalls, List.takeWhile_cons, List.dropWhile_cons, hr]
      rw [granted, IdempotencyStore.claim_of_outage hs hr]
      simp only [Bool.not_false, if_true, List.map_cons]
      rw [firstTimes]
      by_cases hk : c.key ∈ s.fallback
      · rw [if_pos hk, if_pos hk]
        exact ih s hs
      · rw [if_neg hk, if_neg hk]
        exact congrArg (c.key :: ·) (ih _ hs)

/-! ## At most once -/

/-- **When a key is granted at most once.** In demo mode, from a fresh process over any table and
under any pattern of outages, no key is granted twice exactly when no key that was used during the
outage, and that the table did not already hold, is inserted after it. -/
theorem granted_nodup_iff (table : List IdempotencyKey) (calls : List ClaimCall) :
    (granted { table } calls).Nodup ↔
      ∀ c ∈ outageCalls calls, ∀ d ∈ durableCalls calls, d.reach.insert = true → d.key = c.key →
        c.key ∈ table.map IdempotencyKey.key := by
  have hins : ∀ k, k ∈ insertedKeys (durableCalls calls) ↔
      ∃ d ∈ durableCalls calls, d.reach.insert = true ∧ d.key = k := by
    intro k
    simp only [insertedKeys, List.mem_map, List.mem_filter, and_assoc]
  rw [granted_of_fresh calls _ rfl, List.nodup_append]
  constructor
  · rintro ⟨-, -, hdisj⟩ c hc d hd hdi hdc
    by_contra hk
    refine hdisj c.key ?_ c.key ?_ rfl
    · exact (mem_firstTimes _ _).mpr ⟨List.mem_map_of_mem hc, List.not_mem_nil⟩
    · exact (mem_firstTimes _ _).mpr ⟨(hins _).mpr ⟨d, hd, hdi, hdc⟩, hk⟩
  · intro h
    refine ⟨nodup_firstTimes _ _, nodup_firstTimes _ _, ?_⟩
    rintro k hk k' hk' rfl
    obtain ⟨c, hc, rfl⟩ := List.mem_map.mp ((mem_firstTimes _ _).mp hk).1
    obtain ⟨hk', hnot⟩ := (mem_firstTimes _ _).mp hk'
    obtain ⟨d, hd, hdi, hdc⟩ := (hins _).mp hk'
    exact hnot (h c hc d hd hdi hdc)

/-- The set and the table both grant the key of an action retried after the outage. -/
theorem granted_twice_after_outage :
    ¬ ∀ (table : List IdempotencyKey) (calls : List ClaimCall),
      (granted { table } calls).Nodup := by
  intro h
  exact absurd (h [] [⟨"inc_1:restart", "act_1", 0, ⟨false, false⟩⟩,
    ⟨"inc_1:restart", "act_1", 1, ⟨true, true⟩⟩]) (by decide)

end IncidentPlatform
