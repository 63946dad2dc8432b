import Mathlib.Logic.Function.Basic
import IncidentPlatform.Domain.Models

/-!
# The hot state over outages

One `RedisHotStateProvider` with a clock. Redis keeps an entry until its deadline, also while it
cannot be reached; the dictionary that a call falls back on keeps an entry until it is released.
Neither memory is looked at while the other one answers. Calls do not overlap here: what can happen
inside one is the subject of `Persistence.HotState`.

`Grant` is a successful acquisition, with the memory that it was recorded in. The invariant
`Remembered` says that the two memories together are exactly the grants that were not released, but
for those in Redis that have expired. So it is the grants of the other memory that a call gets
wrong, and the expired ones of its own (`acquire_exact_iff`).
-/

namespace IncidentPlatform

/-! ## The provider -/

/-- An entry of Redis, and when it expires. -/
structure HotEntry where
  value : String
  deadline : Time

/-- A provider, with the Redis behind it. -/
structure TimedHotState where
  up : Bool := true
  now : Time := 0
  redis : String → Option HotEntry := fun _ ↦ none
  fallback : String → Option String := fun _ ↦ none

namespace TimedHotState

variable (hot : TimedHotState)

/-- The entry of a key in Redis, unless it has expired. -/
def live (key : String) : Option HotEntry :=
  (hot.redis key).filter fun entry ↦ hot.now < entry.deadline

def withRedis (key : String) (entry : Option HotEntry) : TimedHotState :=
  { hot with redis := Function.update hot.redis key entry }

def withFallback (key : String) (value : Option String) : TimedHotState :=
  { hot with fallback := Function.update hot.fallback key value }

/-- Redis answers a `SET` with this expiry; it refuses one that is not positive. -/
def answers (expireSeconds : ℤ) : Bool := hot.up && decide (0 < expireSeconds)

/-- When an entry that is set now expires. -/
def deadline (expireSeconds : ℤ) : Time := hot.now + 1000000 * expireSeconds

/-- `set_if_absent`. -/
def setIfAbsent (key value : String) (expireSeconds : ℤ) : Bool × TimedHotState :=
  if hot.answers expireSeconds then
    match hot.live key with
    | some _ => (false, hot)
    | none => (true, hot.withRedis key (some ⟨value, hot.deadline expireSeconds⟩))
  else
    match hot.fallback key with
    | some _ => (false, hot)
    | none => (true, hot.withFallback key (some value))

/-- `acquire_lock`. -/
def acquireLock (key token : String) (expireSeconds : ℤ) : Bool × TimedHotState :=
  hot.setIfAbsent key token expireSeconds

/-- `release_lock`. -/
def releaseLock (key token : String) : Bool × TimedHotState :=
  if hot.up then
    if (hot.live key).map HotEntry.value = some token then (true, hot.withRedis key none)
    else (false, hot)
  else
    if hot.fallback key = some token then (true, hot.withFallback key none)
    else (false, hot)

end TimedHotState

/-! ## Runs -/

/-- A successful acquisition. -/
structure Grant where
  key : String
  token : String
  deadline : Time
  /-- Recorded in Redis, not in the dictionary. -/
  inRedis : Bool
  /-- Its holder has released it. -/
  released : Bool := false
  deriving DecidableEq

inductive HotStep where
  | setIfAbsent (key value : String) (expireSeconds : ℤ)
  | acquireLock (key token : String) (expireSeconds : ℤ)
  | releaseLock (key token : String)
  | tick (microseconds : ℕ)
  | redisUp
  | redisDown

/-- A provider, and all that it has granted. -/
structure HotRun where
  hot : TimedHotState := {}
  grants : List Grant := []

namespace HotRun

variable (run : HotRun)

/-- An acquisition, remembered if it succeeds. -/
def acquire (key token : String) (expireSeconds : ℤ) : HotRun :=
  match run.hot.acquireLock key token expireSeconds with
  | (false, hot) => { run with hot }
  | (true, hot) =>
    { hot
      grants := run.grants ++ [{ key, token
                                 deadline := run.hot.deadline expireSeconds
                                 inRedis := run.hot.answers expireSeconds }] }

/-- The grants of a key and a token in one memory are released. -/
def markReleased (key token : String) (inRedis : Bool) (grant : Grant) : Grant :=
  if grant.key = key ∧ grant.token = token ∧ grant.inRedis = inRedis then
    { grant with released := true } else grant

/-- A release, remembered if it succeeds. -/
def release (key token : String) : HotRun :=
  match run.hot.releaseLock key token with
  | (false, hot) => { run with hot }
  | (true, hot) => { hot, grants := run.grants.map (markReleased key token run.hot.up) }

def step : HotStep → HotRun
  | .setIfAbsent key value expireSeconds => run.acquire key value expireSeconds
  | .acquireLock key token expireSeconds => run.acquire key token expireSeconds
  | .releaseLock key token => run.release key token
  | .tick microseconds => { run with hot := { run.hot with now := run.hot.now + microseconds } }
  | .redisUp => { run with hot := { run.hot with up := true } }
  | .redisDown => { run with hot := { run.hot with up := false } }

end HotRun

/-- A run from a fresh provider, with a Redis that is empty. -/
def afterSteps (steps : List HotStep) : HotRun := steps.foldl HotRun.step {}

/-! ## What is recorded -/

/-- A grant of the key that was not released, in one memory. -/
def HotRun.Unreleased (run : HotRun) (key : String) (inRedis : Bool) (grant : Grant) : Prop :=
  grant ∈ run.grants ∧ grant.key = key ∧ grant.inRedis = inRedis ∧ grant.released = false

/-- The two memories and the grants. -/
structure Remembered (run : HotRun) : Prop where
  redis : ∀ key grant, run.Unreleased key true grant → run.hot.now < grant.deadline →
    run.hot.redis key = some ⟨grant.token, grant.deadline⟩
  granted : ∀ key entry, run.hot.live key = some entry →
    ∃ grant, run.Unreleased key true grant ∧ grant.deadline = entry.deadline
  fallback : ∀ key grant, run.Unreleased key false grant →
    run.hot.fallback key = some grant.token
  granted_fallback : ∀ key value, run.hot.fallback key = some value →
    ∃ grant, run.Unreleased key false grant

section

variable {run : HotRun} {key token : String}

/-- One more grant. -/
theorem unreleased_append {hot : TimedHotState} {grant new : Grant} {k : String} {inRedis : Bool}
    (h : HotRun.Unreleased { hot, grants := run.grants ++ [new] } k inRedis grant) :
    run.Unreleased k inRedis grant ∨ grant = new ∧ new.key = k ∧ new.inRedis = inRedis := by
  obtain ⟨hmem, hkey, hmemory, hreleased⟩ := h
  rcases List.mem_append.mp hmem with hold | hnew
  · exact Or.inl ⟨hold, hkey, hmemory, hreleased⟩
  · rw [List.mem_singleton] at hnew
    exact Or.inr ⟨hnew, hnew ▸ hkey, hnew ▸ hmemory⟩

theorem HotRun.Unreleased.append {hot : TimedHotState} {grant : Grant} {k : String} {inRedis : Bool}
    (h : run.Unreleased k inRedis grant) (new : Grant) :
    HotRun.Unreleased { hot, grants := run.grants ++ [new] } k inRedis grant :=
  ⟨List.mem_append_left _ h.1, h.2⟩

/-- The grants that a release leaves. -/
theorem unreleased_map {hot : TimedHotState} {grant : Grant} {k : String}
    {inRedis inRedis' : Bool} :
    HotRun.Unreleased { hot, grants := run.grants.map (HotRun.markReleased key token inRedis') }
        k inRedis grant ↔
      run.Unreleased k inRedis grant ∧ ¬ (k = key ∧ grant.token = token ∧ inRedis = inRedis') := by
  constructor
  · rintro ⟨hmem, hkey, hmemory, hreleased⟩
    obtain ⟨old, hold, hmarked⟩ := List.mem_map.mp hmem
    rw [HotRun.markReleased] at hmarked
    split_ifs at hmarked with hmatch
    · rw [← hmarked] at hreleased
      cases hreleased
    · subst hmarked
      rw [hkey, hmemory] at hmatch
      exact ⟨⟨hold, hkey, hmemory, hreleased⟩, hmatch⟩
  · rintro ⟨⟨hmem, hkey, hmemory, hreleased⟩, hother⟩
    refine ⟨List.mem_map.mpr ⟨grant, hmem, ?_⟩, hkey, hmemory, hreleased⟩
    rw [HotRun.markReleased, hkey, hmemory, if_neg hother]

theorem live_eq_some {hot : TimedHotState} {entry : HotEntry} :
    hot.live key = some entry ↔ hot.redis key = some entry ∧ hot.now < entry.deadline := by
  rw [TimedHotState.live, Option.filter_eq_some_iff, decide_eq_true_eq]

/-! ### Every step keeps the record -/

/-- A grant in Redis. -/
theorem Remembered.grantRedis (h : Remembered run) (hfree : run.hot.live key = none)
    (deadline : Time) :
    Remembered
      { hot := run.hot.withRedis key (some ⟨token, deadline⟩)
        grants := run.grants ++ [{ key, token, deadline, inRedis := true }] } where
  redis := by
    intro k grant hgrant hlive
    rcases unreleased_append hgrant with hold | ⟨rfl, rfl, -⟩
    -- The key was free, so a grant of it that is older has expired.
    · have hstored := h.redis k grant hold hlive
      have hne : k ≠ key := by
        rintro rfl
        cases hfree.symm.trans (live_eq_some.mpr ⟨hstored, hlive⟩)
      exact (Function.update_of_ne hne _ _).trans hstored
    · exact Function.update_self _ _ _
  granted := by
    intro k entry hlive
    obtain ⟨hstored, hunexpired⟩ := live_eq_some.mp hlive
    by_cases hk : k = key
    · subst hk
      cases (Function.update_self _ _ _).symm.trans hstored
      exact ⟨_, ⟨List.mem_append_right _ (List.mem_singleton_self _), rfl, rfl, rfl⟩, rfl⟩
    · have hstored' : run.hot.redis k = some entry :=
        (Function.update_of_ne hk _ _).symm.trans hstored
      obtain ⟨grant, hgrant, hdeadline⟩ :=
        h.granted k entry (live_eq_some.mpr ⟨hstored', hunexpired⟩)
      exact ⟨grant, hgrant.append _, hdeadline⟩
  fallback := by
    intro k grant hgrant
    rcases unreleased_append hgrant with hold | ⟨-, -, hmemory⟩
    · exact h.fallback k grant hold
    · cases hmemory
  granted_fallback := by
    intro k value hvalue
    obtain ⟨grant, hgrant⟩ := h.granted_fallback k value hvalue
    exact ⟨grant, hgrant.append _⟩

/-- A grant in the dictionary. -/
theorem Remembered.grantFallback (h : Remembered run) (hfree : run.hot.fallback key = none)
    (deadline : Time) :
    Remembered
      { hot := run.hot.withFallback key (some token)
        grants := run.grants ++ [{ key, token, deadline, inRedis := false }] } where
  redis := by
    intro k grant hgrant hlive
    rcases unreleased_append hgrant with hold | ⟨-, -, hmemory⟩
    · exact h.redis k grant hold hlive
    · cases hmemory
  granted := by
    intro k entry hlive
    obtain ⟨grant, hgrant, hdeadline⟩ := h.granted k entry hlive
    exact ⟨grant, hgrant.append _, hdeadline⟩
  fallback := by
    intro k grant hgrant
    rcases unreleased_append hgrant with hold | ⟨rfl, rfl, -⟩
    · have hstored := h.fallback k grant hold
      have hne : k ≠ key := by
        rintro rfl
        cases hfree.symm.trans hstored
      exact (Function.update_of_ne hne _ _).trans hstored
    · exact Function.update_self _ _ _
  granted_fallback := by
    intro k value hvalue
    by_cases hk : k = key
    · subst hk
      exact ⟨_, List.mem_append_right _ (List.mem_singleton_self _), rfl, rfl, rfl⟩
    · have hstored : run.hot.fallback k = some value :=
        (Function.update_of_ne hk _ _).symm.trans hvalue
      obtain ⟨grant, hgrant⟩ := h.granted_fallback k value hstored
      exact ⟨grant, hgrant.append _⟩

theorem Remembered.acquire (h : Remembered run) (key token : String) (expireSeconds : ℤ) :
    Remembered (run.acquire key token expireSeconds) := by
  rw [HotRun.acquire, TimedHotState.acquireLock, TimedHotState.setIfAbsent]
  cases hanswers : run.hot.answers expireSeconds with
  | true =>
    rw [if_pos rfl]
    cases hlive : run.hot.live key with
    | some entry => exact h
    | none => exact h.grantRedis hlive _
  | false =>
    rw [if_neg Bool.false_ne_true]
    cases hfallback : run.hot.fallback key with
    | some value => exact h
    | none => exact h.grantFallback hfallback _

/-- A release in Redis: an unreleased grant of the key that has not expired has the token. -/
theorem Remembered.releaseRedis (h : Remembered run)
    (htoken : (run.hot.live key).map HotEntry.value = some token) :
    Remembered
      { hot := run.hot.withRedis key none
        grants := run.grants.map (HotRun.markReleased key token true) } where
  redis := by
    intro k grant hgrant hlive
    obtain ⟨hold, hother⟩ := unreleased_map.mp hgrant
    have hstored := h.redis k grant hold hlive
    -- An unreleased grant of the key would be the one that is released.
    have hne : k ≠ key := by
      rintro rfl
      rw [live_eq_some.mpr ⟨hstored, hlive⟩] at htoken
      cases htoken
      exact hother ⟨rfl, rfl, rfl⟩
    exact (Function.update_of_ne hne _ _).trans hstored
  granted := by
    intro k entry hlive
    obtain ⟨hstored, hunexpired⟩ := live_eq_some.mp hlive
    by_cases hk : k = key
    · subst hk
      cases (Function.update_self _ _ _).symm.trans hstored
    · have hstored' : run.hot.redis k = some entry :=
        (Function.update_of_ne hk _ _).symm.trans hstored
      obtain ⟨grant, hgrant, hdeadline⟩ :=
        h.granted k entry (live_eq_some.mpr ⟨hstored', hunexpired⟩)
      exact ⟨grant, unreleased_map.mpr ⟨hgrant, fun hmatch ↦ hk hmatch.1⟩, hdeadline⟩
  fallback := by
    intro k grant hgrant
    exact h.fallback k grant (unreleased_map.mp hgrant).1
  granted_fallback := by
    intro k value hvalue
    obtain ⟨grant, hgrant⟩ := h.granted_fallback k value hvalue
    exact ⟨grant, unreleased_map.mpr ⟨hgrant, fun hmatch ↦ Bool.false_ne_true hmatch.2.2⟩⟩

/-- A release in the dictionary. -/
theorem Remembered.releaseFallback (h : Remembered run)
    (htoken : run.hot.fallback key = some token) :
    Remembered
      { hot := run.hot.withFallback key none
        grants := run.grants.map (HotRun.markReleased key token false) } where
  redis := by
    intro k grant hgrant hlive
    exact h.redis k grant (unreleased_map.mp hgrant).1 hlive
  granted := by
    intro k entry hlive
    obtain ⟨grant, hgrant, hdeadline⟩ := h.granted k entry hlive
    exact ⟨grant, unreleased_map.mpr ⟨hgrant, fun hmatch ↦ by cases hmatch.2.2⟩, hdeadline⟩
  fallback := by
    intro k grant hgrant
    obtain ⟨hold, hother⟩ := unreleased_map.mp hgrant
    have hstored := h.fallback k grant hold
    have hne : k ≠ key := by
      rintro rfl
      cases hstored.symm.trans htoken
      exact hother ⟨rfl, rfl, rfl⟩
    exact (Function.update_of_ne hne _ _).trans hstored
  granted_fallback := by
    intro k value hvalue
    by_cases hk : k = key
    · subst hk
      cases (Function.update_self _ _ _).symm.trans hvalue
    · have hstored : run.hot.fallback k = some value :=
        (Function.update_of_ne hk _ _).symm.trans hvalue
      obtain ⟨grant, hgrant⟩ := h.granted_fallback k value hstored
      exact ⟨grant, unreleased_map.mpr ⟨hgrant, fun hmatch ↦ hk hmatch.1⟩⟩

theorem Remembered.release (h : Remembered run) (key token : String) :
    Remembered (run.release key token) := by
  rw [HotRun.release, TimedHotState.releaseLock]
  cases hup : run.hot.up with
  | true =>
    rw [if_pos rfl]
    by_cases htoken : (run.hot.live key).map HotEntry.value = some token
    · rw [if_pos htoken]
      exact h.releaseRedis htoken
    · rw [if_neg htoken]
      exact h
  | false =>
    rw [if_neg Bool.false_ne_true]
    by_cases htoken : run.hot.fallback key = some token
    · rw [if_pos htoken]
      exact h.releaseFallback htoken
    · rw [if_neg htoken]
      exact h

/-- Time expires entries of Redis, and the grants with them. -/
theorem Remembered.tick (h : Remembered run) (microseconds : ℕ) :
    Remembered { run with hot := { run.hot with now := run.hot.now + microseconds } } := by
  have hlater : run.hot.now ≤ run.hot.now + microseconds :=
    le_add_of_nonneg_right (Int.natCast_nonneg microseconds)
  refine ⟨?_, ?_, h.fallback, h.granted_fallback⟩
  · intro k grant hgrant hunexpired
    exact h.redis k grant hgrant (lt_of_le_of_lt hlater hunexpired)
  · intro k entry hlive
    obtain ⟨hstored, hunexpired⟩ := live_eq_some.mp hlive
    exact h.granted k entry (live_eq_some.mpr ⟨hstored, lt_of_le_of_lt hlater hunexpired⟩)

theorem Remembered.step (h : Remembered run) (s : HotStep) : Remembered (run.step s) := by
  cases s with
  | setIfAbsent key value expireSeconds => exact h.acquire key value expireSeconds
  | acquireLock key token expireSeconds => exact h.acquire key token expireSeconds
  | releaseLock key token => exact h.release key token
  | tick microseconds => exact h.tick microseconds
  | redisUp => exact ⟨h.redis, h.granted, h.fallback, h.granted_fallback⟩
  | redisDown => exact ⟨h.redis, h.granted, h.fallback, h.granted_fallback⟩

theorem remembered_afterSteps (steps : List HotStep) : Remembered (afterSteps steps) := by
  have hrun (run : HotRun) (h : Remembered run) : Remembered (steps.foldl HotRun.step run) := by
    induction steps generalizing run with
    | nil => exact h
    | cons s steps ih => exact ih _ (h.step s)
  refine hrun {} ⟨?_, ?_, ?_, ?_⟩
  · rintro key grant ⟨hgrant, -⟩
    cases hgrant
  · rintro key entry hlive
    cases (live_eq_some.mp hlive).1
  · rintro key grant ⟨hgrant, -⟩
    cases hgrant
  · rintro key value hvalue
    cases hvalue

end

/-! ## Exclusion -/

/-- A grant of the key is unreleased and unexpired, in one memory. -/
def HotRun.HeldIn (run : HotRun) (key : String) (inRedis : Bool) : Prop :=
  ∃ grant, run.Unreleased key inRedis grant ∧ run.hot.now < grant.deadline

/-- A grant of the key is unreleased and unexpired. -/
def HotRun.Held (run : HotRun) (key : String) : Prop :=
  ∃ grant ∈ run.grants, grant.key = key ∧ grant.released = false ∧ run.hot.now < grant.deadline

theorem held_iff {run : HotRun} {key : String} :
    run.Held key ↔ run.HeldIn key true ∨ run.HeldIn key false := by
  constructor
  · rintro ⟨grant, hmem, hkey, hreleased, hunexpired⟩
    cases hmemory : grant.inRedis with
    | true => exact Or.inl ⟨grant, ⟨hmem, hkey, hmemory, hreleased⟩, hunexpired⟩
    | false => exact Or.inr ⟨grant, ⟨hmem, hkey, hmemory, hreleased⟩, hunexpired⟩
  · rintro (⟨grant, ⟨hmem, hkey, -, hreleased⟩, hunexpired⟩ |
      ⟨grant, ⟨hmem, hkey, -, hreleased⟩, hunexpired⟩) <;>
      exact ⟨grant, hmem, hkey, hreleased, hunexpired⟩

/-- An acquisition that Redis answers succeeds where no unexpired grant is recorded there. -/
theorem acquireLock_answered {run : HotRun} (h : Remembered run) (key token : String)
    {expireSeconds : ℤ} (hanswers : run.hot.answers expireSeconds = true) :
    (run.hot.acquireLock key token expireSeconds).1 = true ↔ ¬ run.HeldIn key true := by
  rw [TimedHotState.acquireLock, TimedHotState.setIfAbsent, if_pos hanswers]
  cases hlive : run.hot.live key with
  | some entry =>
    obtain ⟨grant, hgrant, hdeadline⟩ := h.granted key entry hlive
    have hheld : run.HeldIn key true := ⟨grant, hgrant, hdeadline ▸ (live_eq_some.mp hlive).2⟩
    simp [hheld]
  | none =>
    have hfree : ¬ run.HeldIn key true := by
      rintro ⟨grant, hgrant, hunexpired⟩
      cases hlive.symm.trans (live_eq_some.mpr ⟨h.redis key grant hgrant hunexpired, hunexpired⟩)
    simp [hfree]

/-- One that it does not answer succeeds where no grant at all is recorded in the dictionary. -/
theorem acquireLock_unanswered {run : HotRun} (h : Remembered run) (key token : String)
    {expireSeconds : ℤ} (hanswers : run.hot.answers expireSeconds = false) :
    (run.hot.acquireLock key token expireSeconds).1 = true ↔
      ¬ ∃ grant, run.Unreleased key false grant := by
  rw [TimedHotState.acquireLock, TimedHotState.setIfAbsent, hanswers, if_neg Bool.false_ne_true]
  cases hfallback : run.hot.fallback key with
  | some value => simp [h.granted_fallback key value hfallback]
  | none =>
    have hfree : ¬ ∃ grant, run.Unreleased key false grant := by
      rintro ⟨grant, hgrant⟩
      cases hfallback.symm.trans (h.fallback key grant hgrant)
    simp [hfree]

/-- What the memory that a call looks into must not get wrong. Where Redis answers: the key is not
held by a grant of an outage, unless one in Redis holds it too. Where it does not: the key is not
held by a grant in Redis only, and no grant of an outage was left to expire. -/
def HotRun.Consistent (run : HotRun) (key : String) (expireSeconds : ℤ) : Prop :=
  if run.hot.answers expireSeconds then run.HeldIn key false → run.HeldIn key true
  else (run.HeldIn key true → ∃ grant, run.Unreleased key false grant) ∧
    ((∃ grant, run.Unreleased key false grant) → run.Held key)

/-- **Locks over outages.** After any run of acquisitions, releases, clock ticks and outages: an
acquisition succeeds exactly when no earlier grant of its key is still unreleased and unexpired, if
and only if the memory it looks into is consistent. -/
theorem acquire_exact_iff (steps : List HotStep) (key token : String) (expireSeconds : ℤ) :
    (((afterSteps steps).hot.acquireLock key token expireSeconds).1 = true ↔
        ¬ (afterSteps steps).Held key) ↔
      (afterSteps steps).Consistent key expireSeconds := by
  have h := remembered_afterSteps steps
  rw [HotRun.Consistent]
  cases hanswers : (afterSteps steps).hot.answers expireSeconds with
  | true =>
    rw [acquireLock_answered h key token hanswers, held_iff, if_pos rfl]
    tauto
  | false =>
    have hsub : (afterSteps steps).HeldIn key false →
        ∃ grant, (afterSteps steps).Unreleased key false grant := by
      rintro ⟨grant, hgrant, -⟩
      exact ⟨grant, hgrant⟩
    rw [acquireLock_unanswered h key token hanswers, held_iff, if_neg Bool.false_ne_true]
    tauto

/-! ## Without outages -/

/-- The step is no outage, and sets no entry that Redis refuses. -/
def HotStep.Answered : HotStep → Prop
  | .redisDown => False
  | .setIfAbsent _ _ expireSeconds | .acquireLock _ _ expireSeconds => 0 < expireSeconds
  | _ => True

/-- Redis has answered so far. -/
structure Answering (run : HotRun) : Prop where
  up : run.hot.up = true
  inRedis : ∀ grant ∈ run.grants, grant.inRedis = true

theorem Answering.acquire {run : HotRun} (h : Answering run) (key token : String)
    {expireSeconds : ℤ} (hpositive : 0 < expireSeconds) :
    Answering (run.acquire key token expireSeconds) := by
  have hanswers : run.hot.answers expireSeconds = true := by
    rw [TimedHotState.answers, h.up, Bool.true_and, decide_eq_true_eq]
    exact hpositive
  rw [HotRun.acquire, TimedHotState.acquireLock, TimedHotState.setIfAbsent, if_pos hanswers]
  cases run.hot.live key with
  | some entry => exact h
  | none =>
    refine ⟨h.up, fun grant hgrant ↦ ?_⟩
    rcases List.mem_append.mp hgrant with hold | hnew
    · exact h.inRedis grant hold
    · rw [List.mem_singleton.mp hnew]
      exact hanswers

theorem Answering.release {run : HotRun} (h : Answering run) (key token : String) :
    Answering (run.release key token) := by
  rw [HotRun.release, TimedHotState.releaseLock, if_pos h.up]
  split_ifs
  · refine ⟨h.up, fun grant hgrant ↦ ?_⟩
    obtain ⟨old, hold, rfl⟩ := List.mem_map.mp hgrant
    rw [HotRun.markReleased]
    split_ifs <;> exact h.inRedis old hold
  · exact h

theorem answering_afterSteps {steps : List HotStep} (hsteps : ∀ s ∈ steps, s.Answered) :
    Answering (afterSteps steps) := by
  have hrun (run : HotRun) (h : Answering run) : Answering (steps.foldl HotRun.step run) := by
    induction steps generalizing run with
    | nil => exact h
    | cons s steps ih =>
      obtain ⟨hs, hsteps⟩ := List.forall_mem_cons.mp hsteps
      refine ih hsteps _ ?_
      cases s with
      | setIfAbsent key value expireSeconds => exact h.acquire key value hs
      | acquireLock key token expireSeconds => exact h.acquire key token hs
      | releaseLock key token => exact h.release key token
      | tick microseconds => exact ⟨h.up, h.inRedis⟩
      | redisUp => exact ⟨rfl, h.inRedis⟩
      | redisDown => exact hs.elim
  exact hrun {} ⟨rfl, fun grant hgrant ↦ by cases hgrant⟩

/-- While Redis answers, the memories are consistent. -/
theorem consistent_of_answered {steps : List HotStep} (hsteps : ∀ s ∈ steps, s.Answered)
    (key : String) {expireSeconds : ℤ} (hpositive : 0 < expireSeconds) :
    (afterSteps steps).Consistent key expireSeconds := by
  have h := answering_afterSteps hsteps
  have hanswers : (afterSteps steps).hot.answers expireSeconds = true := by
    rw [TimedHotState.answers, h.up, Bool.true_and, decide_eq_true_eq]
    exact hpositive
  rw [HotRun.Consistent, if_pos hanswers]
  rintro ⟨grant, ⟨hmem, -, hmemory, -⟩, -⟩
  cases hmemory.symm.trans (h.inRedis grant hmem)

/-- The lock of an incident, taken in Redis, is granted again in an outage. -/
theorem outage_grants_twice :
    ¬ ∀ (steps : List HotStep) (key token : String) (expireSeconds : ℤ),
      ((afterSteps steps).hot.acquireLock key token expireSeconds).1 = true ↔
        ¬ (afterSteps steps).Held key := by
  intro h
  have htwice := h [.acquireLock "incident_lock:inc_1" "token_1" 30, .redisDown]
    "incident_lock:inc_1" "token_2" 30
  exact htwice.mp (by decide) ⟨_, List.mem_singleton_self _, rfl, rfl, by decide⟩

/-- And one that was granted in an outage, for 30 seconds, is in the way a day later. -/
example : ((afterSteps [.redisDown, .acquireLock "incident_lock:inc_1" "token_1" 30,
    .tick 86400000000]).hot.acquireLock "incident_lock:inc_1" "token_2" 30).1 = false := by
  decide

end IncidentPlatform
