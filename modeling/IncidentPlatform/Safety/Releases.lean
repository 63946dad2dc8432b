import IncidentPlatform.Interaction.Pool
import IncidentPlatform.Persistence.HotState

/-!
# Who releases a lock

`release_lock` compares the entry with its token and then deletes it, in two commands. Between them
the entry can expire and somebody else can take the lock, and then it is their entry that the second
command deletes.

`removed_rightly` says that this is the only way in which an entry goes that should stay. If no lock
is taken while a release of the same lock has compared and not yet deleted, then an entry is removed
by its own expiry or by a release with its own token. The clients are arbitrary programs that
acquire and release, their commands and the expiries come in any order, and Redis answers. The
invariant is that the entry that a client is about to delete is its own or gone.
-/

namespace IncidentPlatform

open Interaction

/-! ## Clients -/

inductive LockCall where
  | acquire (key token : String) (expireSeconds : ℕ)
  | release (key token : String)

/-- `acquire_lock` and `release_lock`. -/
def LockCall.commands (provider : Provider) : LockCall → HotProg Bool
  | acquire key token expireSeconds => setIfAbsent provider expireSeconds key token
  | release key token => releaseLock provider key token

/-- A command, with the call that issues it, or the expiry of an entry. -/
inductive LockOp where
  | command (call : LockCall) (c : Command)
  | expire (key : String)

abbrev LockAns : LockOp → Type
  | .command _ c => c.Ans
  | .expire _ => Unit

/-- A call, command by command. -/
def issue (provider : Provider) (call : LockCall) : Prog LockOp LockAns Exc Bool :=
  (call.commands provider).interp fun c ↦ Prog.op (.command call c)

/-- What takes part: a client, which may make its calls depend on the answers, or the clock, which
lets some entries expire. -/
inductive Party where
  | client (provider : Provider) (calls : Prog LockCall (fun _ ↦ Bool) Exc Unit)
  | clock (keys : List String)

/-- The entries expire, one after the other. -/
def expiries : List String → Prog LockOp LockAns Exc Unit
  | [] => pure ()
  | key :: keys => do
    Prog.op (LockOp.expire key)
    expiries keys

def Party.program : Party → Prog LockOp LockAns Exc Unit
  | client provider calls => calls.interp (issue provider)
  | clock keys => expiries keys

/-- Redis with the clock. -/
def lockServe (env : Env) (mode : Mode) (s : Shared) : (o : LockOp) → LockAns o × Shared
  | .command _ c => serveCommand env mode s c
  | .expire key => ((), { s with hot := s.hot.withRedis key none })

/-! ## Comparing and deleting -/

/-- The key and the token of a release that has found its token, and has not deleted it yet. -/
abbrev Comparing := Option (String × String)

/-- A release deletes only what it has compared. -/
def releaseContract : Contract LockOp LockAns Comparing where
  guar comparing
    | .command (.release key _) (.get key') => key' = key
    | .command (.release key token) (.delete key') => key' = key ∧ comparing = some (key, token)
    | .command (.acquire _ _ _) (.delete _) => False
    | _ => True
  rely _
    | .command _ (.setNX _ _ _), answer => answer ≠ none
    | .command _ (.get _), answer => answer ≠ none
    | .command _ (.delete _), answer => answer ≠ none
    | _, _ => True
  next _
    | .command (.release key token) (.get _), answer =>
      if answer = some (some token) then some (key, token) else none
    | _, _ => none

/-! ## The clients keep to it -/

section

variable {α : Type} {comparing : Comparing}

theorem release_meets_own (provider : Provider) (key token : String) :
    (issue provider (.release key token)).Meets releaseContract (fun _ _ ↦ True) comparing := by
  refine Prog.Meets.call rfl (fun _ _ ↦ id) fun answer hanswer ↦ ?_
  rcases answer with _ | current
  · exact absurd rfl hanswer
  · by_cases hcurrent : current = some token
    -- The token is there, and the next command deletes the entry.
    · subst hcurrent
      have hcomparing : releaseContract.next comparing
          (.command (.release key token) (.get key)) (some (some token)) = some (key, token) :=
        if_pos rfl
      have hfound : (some token == some token) = true := beq_self_eq_true _
      rw [hcomparing]
      simp only [Prog.ret_bind, hfound, if_true]
      refine Prog.Meets.call ⟨rfl, rfl⟩ (fun _ _ ↦ id) fun answer hanswer ↦ ?_
      rcases answer with _ | _
      · exact absurd rfl hanswer
      · trivial
    · have hother : (current == some token) = false := beq_eq_false_iff_ne.mpr hcurrent
      simp only [Prog.ret_bind, hother]
      trivial

theorem acquire_meets_own (provider : Provider) (key token : String) (expireSeconds : ℕ) :
    (issue provider (.acquire key token expireSeconds)).Meets releaseContract (fun _ _ ↦ True)
      comparing := by
  refine Prog.Meets.call trivial (fun _ _ ↦ id) fun answer hanswer ↦ ?_
  rcases answer with _ | created
  · exact absurd rfl hanswer
  · trivial

theorem issue_meets_own (provider : Provider) (call : LockCall) :
    (issue provider call).Meets releaseContract (fun _ _ ↦ True) comparing := by
  cases call with
  | acquire key token expireSeconds => exact acquire_meets_own _ _ _ _
  | release key token => exact release_meets_own _ _ _

theorem Party.program_meets (party : Party) :
    party.program.Meets releaseContract (fun _ _ ↦ True) comparing := by
  cases party with
  | client provider calls =>
    rw [Party.program]
    induction calls generalizing comparing with
    | ret a => trivial
    | raise e => trivial
    | call call k ih => exact (issue_meets_own provider call).bind_true fun answer _ ↦ ih answer
  | clock keys =>
    rw [Party.program]
    induction keys generalizing comparing with
    | nil => trivial
    | cons key keys ih => exact Prog.Meets.call trivial (fun _ _ ↦ id) fun _ _ ↦ ih

end

/-! ## What becomes of the entries -/

section

variable {env : Env} {mode : Mode} {s : Shared}

theorem lockServe_available (o : LockOp) :
    (lockServe env mode s o).2.hot.available = s.hot.available := by
  rcases o with ⟨call, c⟩ | key
  · cases c with
    | setNX key value expireSeconds => exact HotState.setNX_available key value
    | delete key => exact HotState.delete_available key
    | localSet provider key value => exact (HotState.localSet_redis _ _ _).1
    | localRelease provider key token => exact (HotState.localRelease_redis _ _ _).1
    | _ => rfl
  · rfl

/-- An entry stays, or it expires or is deleted, or there was none and a `SET NX` has made it. -/
theorem lockServe_redis (env : Env) (mode : Mode) (s : Shared) (o : LockOp) (key : String) :
    (lockServe env mode s o).2.hot.redis key = s.hot.redis key ∨
      (lockServe env mode s o).2.hot.redis key = none ∧
        (o = .expire key ∨ ∃ call, o = .command call (.delete key)) ∨
      ∃ call value expireSeconds, o = .command call (.setNX key value expireSeconds) ∧
        s.hot.redis key = none ∧ (lockServe env mode s o).2.hot.redis key = some value := by
  rcases o with ⟨call, c⟩ | key'
  · cases c with
    | setNX key' value expireSeconds =>
      rcases HotState.setNX_redis key key' value with hsame | ⟨rfl, hfree, hmade⟩
      · exact Or.inl hsame
      · exact Or.inr (Or.inr ⟨call, value, expireSeconds, rfl, hfree, hmade⟩)
    | delete key' =>
      rcases HotState.delete_redis key key' with hsame | ⟨rfl, hgone⟩
      · exact Or.inl hsame
      · exact Or.inr (Or.inl ⟨hgone, Or.inr ⟨call, rfl⟩⟩)
    | localSet provider key' value =>
      exact Or.inl (congrFun (HotState.localSet_redis provider key' value).2 key)
    | localRelease provider key' token =>
      exact Or.inl (congrFun (HotState.localRelease_redis provider key' token).2 key)
    | _ => exact Or.inl rfl
  · by_cases hkey : key = key'
    · subst hkey
      exact Or.inr (Or.inl ⟨HotState.withRedis_self _ _, Or.inl rfl⟩)
    · exact Or.inl (HotState.withRedis_of_ne hkey _)

theorem releaseContract_rely {comparing : Comparing} (havailable : s.hot.available = true)
    (o : LockOp) : releaseContract.rely comparing o (lockServe env mode s o).1 := by
  rcases o with ⟨call, c⟩ | key
  · cases c with
    | setNX key value expireSeconds =>
      change (s.hot.setNX key value).1 ≠ none
      rw [HotState.setNX, if_pos havailable]
      split_ifs <;> exact Option.some_ne_none _
    | get key =>
      change s.hot.get key ≠ none
      rw [HotState.get, if_pos havailable]
      exact Option.some_ne_none _
    | delete key =>
      change (s.hot.delete key).1 ≠ none
      rw [HotState.delete_of_available havailable]
      exact Option.some_ne_none _
    | _ => trivial
  · trivial

/-- A release is comparing once it has found its token, and the entry is still there then. -/
theorem next_own (havailable : s.hot.available = true) {comparing : Comparing} {o : LockOp}
    (hguar : releaseContract.guar comparing o) {key token : String}
    (hnext : releaseContract.next comparing o (lockServe env mode s o).1 = some (key, token)) :
    (lockServe env mode s o).2.hot.redis key = some token := by
  rcases o with ⟨⟨key', token', n⟩ | ⟨key', token'⟩, c⟩ | key'
  · cases c <;> cases hnext
  · cases c with
    | get key'' =>
      obtain rfl : key'' = key' := hguar
      change (if s.hot.get key'' = some (some token') then some (key'', token') else none)
        = some (key, token) at hnext
      rw [HotState.get, if_pos havailable] at hnext
      split_ifs at hnext with hfound
      cases hnext
      exact Option.some.inj hfound
    | _ => cases hnext
  · cases hnext

end

/-! ## The invariant -/

section

variable {ι : Type*} {env : Env} {mode : Mode} {s : Shared} {comparing : ι → Comparing}

/-- Redis answers, and what a release is about to delete is its own or gone. -/
structure Owned (s : Shared) (comparing : ι → Comparing) : Prop where
  available : s.hot.available = true
  own : ∀ i key token, comparing i = some (key, token) →
    s.hot.redis key = some token ∨ s.hot.redis key = none

theorem Owned.removes (hK : Owned s comparing) {i : ι} {o : LockOp}
    (hguar : releaseContract.guar (comparing i) o) {key token : String}
    (hentry : s.hot.redis key = some token)
    (hgone : (lockServe env mode s o).2.hot.redis key ≠ some token) :
    o = .expire key ∨ o = .command (.release key token) (.delete key) := by
  rcases lockServe_redis env mode s o key with
    hsame | ⟨-, rfl | ⟨call, rfl⟩⟩ | ⟨call, value, n, rfl, hfree, -⟩
  · exact absurd (hsame.trans hentry) hgone
  · exact Or.inl rfl
  · cases call with
    | acquire key' token' n => exact hguar.elim
    | release key' token' =>
      obtain ⟨rfl, hcomparing⟩ := hguar
      rcases hK.own i key token' hcomparing with hown | hnone
      · rw [hown] at hentry
        cases hentry
        exact Or.inr rfl
      · rw [hnone] at hentry
        cases hentry
  · rw [hfree] at hentry
    cases hentry

/-- A step that makes no entry for somebody else over a release keeps the invariant. -/
theorem Owned.step [DecidableEq ι] (hK : Owned s comparing) {i : ι} {o : LockOp}
    (hguar : releaseContract.guar (comparing i) o)
    (hgrants : ∀ call key value n, o = .command call (.setNX key value n) →
      s.hot.redis key = none → ∀ j token, comparing j = some (key, token) → token = value) :
    Owned (lockServe env mode s o).2 (Function.update comparing i
      (releaseContract.next (comparing i) o (lockServe env mode s o).1)) := by
  refine ⟨(lockServe_available o).trans hK.available, fun j key token hj ↦ ?_⟩
  by_cases hji : j = i
  · subst hji
    rw [Function.update_self] at hj
    exact Or.inl (next_own hK.available hguar hj)
  · rw [Function.update_of_ne hji] at hj
    rcases lockServe_redis env mode s o key with
      hsame | ⟨hgone, -⟩ | ⟨call, value, n, rfl, hfree, hmade⟩
    · rw [hsame]
      exact hK.own j key token hj
    · exact Or.inr hgone
    · rw [hgrants call key value n rfl hfree j token hj]
      exact Or.inl hmade

end

/-! ## Pools -/

section

abbrev LockPool (ι : Type*) := Pool LockOp LockAns Exc Unit Comparing Shared ι

variable {ι : Type*}

/-- All parties before their first step. -/
def lockPool (s : Shared) (party : ι → Party) : LockPool ι where
  shared := s
  thread i := ⟨none, (party i).program⟩

/-- The invariant of a pool. -/
structure LockPool.Sound (P : LockPool ι) : Prop where
  owned : Owned P.shared fun i ↦ (P.thread i).ghost
  meets : ∀ i, (P.thread i).prog.Meets releaseContract (fun _ _ ↦ True) (P.thread i).ghost

theorem lockPool_sound {s : Shared} (havailable : s.hot.available = true) (party : ι → Party) :
    (lockPool s party).Sound :=
  ⟨⟨havailable, fun _ _ _ h ↦ by cases h⟩, fun i ↦ (party i).program_meets⟩

variable [DecidableEq ι] (env : Env) (mode : Mode)

/-- One step of one party. -/
abbrev LockPool.step : LockPool ι → ι → LockPool ι :=
  Pool.step (lockServe env mode) releaseContract.next

/-- The next step of `i` takes a lock, with a token that is not the one that some release of this
lock has found there and is about to delete. -/
def GrantsOver (P : LockPool ι) (i : ι) : Prop :=
  ∃ call key value expireSeconds k,
    (P.thread i).prog = .call (.command call (.setNX key value expireSeconds)) k ∧
    P.shared.hot.redis key = none ∧
    ∃ j token, (P.thread j).ghost = some (key, token) ∧ token ≠ value

/-- If an entry goes in the next step of `i`, then it expires, or the step belongs to a release with
the token of the entry. -/
def RemovesOwn (P : LockPool ι) (i : ι) : Prop :=
  ∀ key token, P.shared.hot.redis key = some token →
    (P.step env mode i).shared.hot.redis key ≠ some token →
    ∃ o k, (P.thread i).prog = .call o k ∧
      (o = .expire key ∨ o = .command (.release key token) (.delete key))

variable {env mode} {P : LockPool ι} {i : ι}

theorem LockPool.Sound.removesOwn (hP : P.Sound) : RemovesOwn env mode P i := by
  intro key token hentry hgone
  rcases Pool.step_cases (lockServe env mode) releaseContract.next P i with
    hidle | ⟨o, k, hprog, hstep⟩
  · rw [LockPool.step, hidle] at hgone
    exact absurd hentry hgone
  · rw [LockPool.step, hstep] at hgone
    have hmeets := hP.meets i
    rw [hprog] at hmeets
    exact ⟨o, k, hprog, hP.owned.removes hmeets.1.1 hentry hgone⟩

/-- **The step lemma.** -/
theorem LockPool.Sound.step (hP : P.Sound) (hgrants : ¬ GrantsOver P i) :
    (P.step env mode i).Sound := by
  refine (Pool.step_meets (fun _ _ _ ↦ True) releaseContract Owned
    (fun o k hprog hguar ↦ ⟨releaseContract_rely hP.owned.available o,
      hP.owned.step hguar fun call key value n ho hfree j token hj ↦ ?_⟩)
    hP.owned hP.meets).elim LockPool.Sound.mk
  subst ho
  by_contra htoken
  exact hgrants ⟨call, key, value, n, k, hprog, hfree, j, token, hj, htoken⟩

variable (env mode)

/-- **Only the owner removes an entry.** Let any number of clients and clocks take steps in any
order, with Redis answering. If no step takes a lock while a release of it is between its two
commands, then every entry that goes has expired, or has been deleted by a release with its own
token. -/
theorem removed_rightly {s : Shared} (havailable : s.hot.available = true) (party : ι → Party)
    (schedule : List ι)
    (hgrants : Pool.Throughout (lockServe env mode) releaseContract.next
      (fun P i ↦ ¬ GrantsOver P i) (lockPool s party) schedule) :
    Pool.Throughout (lockServe env mode) releaseContract.next (RemovesOwn env mode)
      (lockPool s party) schedule :=
  Pool.Throughout.imp (J := LockPool.Sound) (fun _ _ hP hgrants ↦ ⟨hP.removesOwn, hP.step hgrants⟩)
    (lockPool_sound havailable party) hgrants

end

/-- Takes the lock of an incident, and gives it back. -/
def holder (token : String) : Party :=
  .client .router do
    if ← Prog.op (.acquire "incident_lock:inc" token 30) then do
      let _ ← Prog.op (LockCall.release "incident_lock:inc" token)
      pure ()
    else pure ()

/-- Two that want the lock, and the clock, on which the lock expires. -/
def contenders : ℕ → Party
  | 0 => holder "token_a"
  | 1 => holder "token_b"
  | _ => .clock ["incident_lock:inc"]

/-- The lock expires before the first holder compares: it finds the token of the second one. -/
theorem removed_rightly_contenders :
    Pool.Throughout (lockServe .demo .fallback) releaseContract.next (RemovesOwn .demo .fallback)
      (lockPool {} contenders) [0, 2, 1, 0] := by
  refine removed_rightly _ _ rfl _ _ ⟨?_, ?_, ?_, ?_, trivial⟩
  · rintro ⟨_, _, _, _, _, _, _, j, _, hj, _⟩
    cases hj
  · rintro ⟨_, _, _, _, _, hprog, _⟩
    cases hprog
  · rintro ⟨_, _, _, _, _, _, _, j, _, hj, _⟩
    rcases j with _ | _ | _ | j <;> cases hj
  · rintro ⟨_, _, _, _, _, hprog, _⟩
    cases hprog

/-- The lock expires after the first holder has compared, the second one takes it, and the first one
deletes it. -/
theorem expired_lock_removed :
    ¬ Pool.Throughout (lockServe .demo .fallback) releaseContract.next (RemovesOwn .demo .fallback)
      (lockPool {} contenders) [0, 0, 2, 1, 0] := by
  intro h
  obtain ⟨o, k, hprog, ho⟩ := h.2.2.2.2.1 "incident_lock:inc" "token_b" rfl (by decide)
  cases hprog
  simp at ho

end IncidentPlatform
