import IncidentPlatform.Interaction.Translate
import IncidentPlatform.Persistence.World

/-!
# The hot state

`RedisHotStateProvider` of `src/persistence/memory/providers.py`, as programs over `Command`s. A
command is what one coroutine does between two points where others can run: one operation on the
world, one Redis command, or the code of an `except` clause up to its `return`. `release_lock` is
two commands, so a release can be interleaved where it is in the code.

There is one Redis, but every module that makes a provider has a dictionary of its own to fall back
on. `HotState.available` says whether Redis answers. Nothing expires here; `expireSeconds` is
carried along as the code passes it on.

The operations on the world can carry the id of an incident. It marks them as part of a run of
`execute_route` for that incident, and means nothing to the service.
-/

namespace IncidentPlatform

open Interaction

/-- The instances of `RedisHotStateProvider` that hold locks and dedupe entries: those of
`apps/api/main.py`, of the ingress and of the router. -/
inductive Provider where
  | main
  | ingress
  | router
  deriving DecidableEq, Repr

/-- What a call does in one go. -/
inductive Command where
  | world (routing : Option String) (o : Op)
  /-- `SET key value EX expireSeconds NX`. -/
  | setNX (key value : String) (expireSeconds : ℕ)
  | get (key : String)
  | delete (key : String)
  /-- The `except` clause of `set_if_absent`. -/
  | localSet (provider : Provider) (key value : String)
  /-- The `except` clause of `release_lock`. -/
  | localRelease (provider : Provider) (key token : String)

/-- The answer of a command, `none` for the exception of a Redis that does not answer. -/
abbrev Command.Ans : Command → Type
  | world _ o => IncidentPlatform.Ans o
  | setNX _ _ _ => Option Bool
  | get _ => Option (Option String)
  | delete _ => Option Unit
  | localSet _ _ _ | localRelease _ _ _ => Bool

/-- A handler, command by command. -/
abbrev HotProg := Prog Command Command.Ans Exc

/-- Issue one command. -/
abbrev send (c : Command) : HotProg c.Ans := Prog.op c

/-! ## The provider -/

/-- `set_if_absent`, and `acquire_lock`. -/
def setIfAbsent (provider : Provider) (expireSeconds : ℕ) (key value : String) :
    HotProg Bool := do
  match ← send (.setNX key value expireSeconds) with
  | some created => pure created
  | none => send (.localSet provider key value)

/-- `release_lock`. -/
def releaseLock (provider : Provider) (key token : String) : HotProg Bool := do
  match ← send (.get key) with
  | none => send (.localRelease provider key token)
  | some current =>
    if current == some token then do
      match ← send (.delete key) with
      | none => send (.localRelease provider key token)
      | some _ => pure true
    else pure false

/-- The provider a call uses, and the expiry it sets. -/
structure HotClient where
  provider : Provider
  expireSeconds : ℕ
  deriving Repr

/-- The commands of an operation. -/
def commands (client : HotClient) (routing : Option String) : (o : Op) → HotProg (Ans o)
  | .setIfAbsent key value => setIfAbsent client.provider client.expireSeconds key value
  | .releaseLock key token => releaseLock client.provider key token
  | o => send (.world routing o)

/-! ## The service -/

structure HotState where
  available : Bool := true
  redis : String → Option String := fun _ ↦ none
  fallback : Provider → String → Option String := fun _ _ ↦ none

/-- Everything the commands act on. -/
structure Shared where
  world : World := {}
  hot : HotState := {}

namespace HotState

variable (hot : HotState)

/-- The entry of a key is set in Redis, or deleted. -/
def withRedis (key : String) (entry : Option String) : HotState :=
  { hot with redis := Function.update hot.redis key entry }

/-- The entry of a key is set in the dictionary of a provider, or deleted. -/
def withFallback (provider : Provider) (key : String) (entry : Option String) : HotState :=
  { hot with
    fallback := Function.update hot.fallback provider
      (Function.update (hot.fallback provider) key entry) }

def setNX (key value : String) : Option Bool × HotState :=
  if hot.available then
    if (hot.redis key).isSome then (some false, hot)
    else (some true, hot.withRedis key (some value))
  else (none, hot)

def get (key : String) : Option (Option String) :=
  if hot.available then some (hot.redis key) else none

def delete (key : String) : Option Unit × HotState :=
  if hot.available then (some (), hot.withRedis key none) else (none, hot)

def localSet (provider : Provider) (key value : String) : Bool × HotState :=
  if (hot.fallback provider key).isSome then (false, hot)
  else (true, hot.withFallback provider key (some value))

def localRelease (provider : Provider) (key token : String) : Bool × HotState :=
  if hot.fallback provider key = some token then (true, hot.withFallback provider key none)
  else (false, hot)

/-- The entry of a key, as a provider finds it. -/
def entry (provider : Provider) (key : String) : Option String :=
  if hot.available then hot.redis key else hot.fallback provider key

variable {hot}

@[simp] theorem withRedis_self (key : String) (entry : Option String) :
    (hot.withRedis key entry).redis key = entry :=
  Function.update_self _ _ _

theorem withRedis_of_ne {key key' : String} (h : key' ≠ key) (entry : Option String) :
    (hot.withRedis key entry).redis key' = hot.redis key' :=
  Function.update_of_ne h _ _

theorem withFallback_eq (provider provider' : Provider) (key key' : String)
    (entry : Option String) : (hot.withFallback provider key entry).fallback provider' key' =
      if provider' = provider ∧ key' = key then entry else hot.fallback provider' key' := by
  change Function.update hot.fallback provider _ provider' key' = _
  by_cases hprovider : provider' = provider
  · subst hprovider
    by_cases hkey : key' = key
    · rw [if_pos ⟨rfl, hkey⟩, hkey, Function.update_self, Function.update_self]
    · rw [if_neg fun h ↦ hkey h.2, Function.update_self, Function.update_of_ne hkey]
  · rw [if_neg fun h ↦ hprovider h.1, Function.update_of_ne hprovider]

/-! ### Answers of Redis -/

theorem setNX_of_free (havailable : hot.available = true) {key : String}
    (hfree : hot.redis key = none) (value : String) :
    hot.setNX key value = (some true, hot.withRedis key (some value)) := by
  rw [setNX, if_pos havailable, hfree]
  rfl

theorem setNX_of_held (havailable : hot.available = true) {key entry : String}
    (hheld : hot.redis key = some entry) (value : String) :
    hot.setNX key value = (some false, hot) := by
  rw [setNX, if_pos havailable, hheld]
  rfl

theorem setNX_of_unavailable (hdown : hot.available = false) (key value : String) :
    hot.setNX key value = (none, hot) := by
  rw [setNX, if_neg (Bool.eq_false_iff.mp hdown)]

theorem delete_of_available (havailable : hot.available = true) (key : String) :
    hot.delete key = (some (), hot.withRedis key none) := by
  rw [delete, if_pos havailable]

@[simp] theorem setNX_available (key value : String) :
    (hot.setNX key value).2.available = hot.available := by
  rw [setNX]
  split_ifs <;> rfl

@[simp] theorem delete_available (key : String) :
    (hot.delete key).2.available = hot.available := by
  rw [delete]
  split_ifs <;> rfl

/-- A `SET NX` leaves an entry as it is, or makes it where there was none. -/
theorem setNX_redis (key key' value : String) :
    (hot.setNX key' value).2.redis key = hot.redis key ∨
      key' = key ∧ hot.redis key = none ∧ (hot.setNX key' value).2.redis key = some value := by
  rw [setNX]
  split_ifs with havailable hheld
  · exact Or.inl rfl
  · by_cases hkey : key' = key
    · subst hkey
      rw [Bool.not_eq_true, Option.isSome_eq_false_iff, Option.isNone_iff_eq_none] at hheld
      exact Or.inr ⟨rfl, hheld, withRedis_self _ _⟩
    · exact Or.inl (withRedis_of_ne (Ne.symm hkey) _)
  · exact Or.inl rfl

/-- A `DELETE` leaves an entry as it is, or it is the one that goes. -/
theorem delete_redis (key key' : String) :
    (hot.delete key').2.redis key = hot.redis key ∨
      key' = key ∧ (hot.delete key').2.redis key = none := by
  rw [delete]
  split_ifs with havailable
  · by_cases hkey : key' = key
    · subst hkey
      exact Or.inr ⟨rfl, withRedis_self _ _⟩
    · exact Or.inl (withRedis_of_ne (Ne.symm hkey) _)
  · exact Or.inl rfl

/-! ### Answers of the dictionaries -/

theorem localSet_of_free {provider : Provider} {key : String}
    (hfree : hot.fallback provider key = none) (value : String) :
    hot.localSet provider key value = (true, hot.withFallback provider key (some value)) := by
  rw [localSet, hfree]
  rfl

theorem localSet_of_held {provider : Provider} {key entry : String}
    (hheld : hot.fallback provider key = some entry) (value : String) :
    hot.localSet provider key value = (false, hot) := by
  rw [localSet, hheld]
  rfl

/-- The dictionaries are no part of Redis. -/
theorem localSet_redis (provider : Provider) (key value : String) :
    (hot.localSet provider key value).2.available = hot.available ∧
      (hot.localSet provider key value).2.redis = hot.redis := by
  rw [localSet]
  split_ifs <;> exact ⟨rfl, rfl⟩

theorem localRelease_redis (provider : Provider) (key token : String) :
    (hot.localRelease provider key token).2.available = hot.available ∧
      (hot.localRelease provider key token).2.redis = hot.redis := by
  rw [localRelease]
  split_ifs <;> exact ⟨rfl, rfl⟩

theorem setNX_refused {key value : String} (h : (hot.setNX key value).1 ≠ some true) :
    (hot.setNX key value).2 = hot := by
  rw [setNX] at h ⊢
  split_ifs at h ⊢
  · rfl
  · exact absurd rfl h
  · rfl

theorem localSet_refused {provider : Provider} {key value : String}
    (h : (hot.localSet provider key value).1 = false) :
    (hot.localSet provider key value).2 = hot := by
  rw [localSet] at h ⊢
  split_ifs at h ⊢
  rfl

/-! ### Entries -/

theorem entry_of_available (havailable : hot.available = true) (provider : Provider)
    (key : String) : hot.entry provider key = hot.redis key := by
  rw [entry, if_pos havailable]

theorem entry_of_unavailable (hdown : ¬ hot.available = true) (provider : Provider)
    (key : String) : hot.entry provider key = hot.fallback provider key := by
  rw [entry, if_neg hdown]

theorem entry_withRedis (havailable : hot.available = true) (provider : Provider) (key : String)
    (entry : Option String) : (hot.withRedis key entry).entry provider key = entry := by
  rw [entry_of_available (show (hot.withRedis key entry).available = true from havailable),
    withRedis_self]

theorem localRelease_frees (provider : Provider) (key token : String) :
    (hot.localRelease provider key token).2.fallback provider key ≠ some token := by
  rw [localRelease]
  split_ifs with hheld
  · rw [withFallback_eq, if_pos ⟨rfl, rfl⟩]
    exact Option.some_ne_none _ ∘ Eq.symm
  · exact hheld

end HotState

/-- Answer one command. -/
def serveCommand (env : Env) (mode : Mode) (s : Shared) (c : Command) : c.Ans × Shared :=
  match c with
  | .world _ o => ((serve env mode s.world o).1, { s with world := (serve env mode s.world o).2 })
  | .setNX key value _ => ((s.hot.setNX key value).1, { s with hot := (s.hot.setNX key value).2 })
  | .get key => (s.hot.get key, s)
  | .delete key => ((s.hot.delete key).1, { s with hot := (s.hot.delete key).2 })
  | .localSet provider key value =>
    ((s.hot.localSet provider key value).1,
      { s with hot := (s.hot.localSet provider key value).2 })
  | .localRelease provider key token =>
    ((s.hot.localRelease provider key token).1,
      { s with hot := (s.hot.localRelease provider key token).2 })

/-! ## Programs over commands -/

theorem send_total (c : Command) : (send c).Total := fun _ ↦ trivial

theorem setIfAbsent_total (provider : Provider) (expireSeconds : ℕ) (key value : String) :
    (setIfAbsent provider expireSeconds key value).Total := by
  refine Prog.Total.bind (send_total _) fun answer ↦ ?_
  cases answer
  · exact send_total _
  · trivial

theorem releaseLock_total (provider : Provider) (key token : String) :
    (releaseLock provider key token).Total := by
  refine Prog.Total.bind (send_total _) fun answer ↦ ?_
  rcases answer with _ | current
  · exact send_total _
  · dsimp only
    split_ifs
    · refine Prog.Total.bind (send_total _) fun answer ↦ ?_
      cases answer
      · exact send_total _
      · trivial
    · trivial

/-- The commands that leave the world alone. -/
def Command.hot : Command → Prop
  | world _ _ => False
  | _ => True

theorem setIfAbsent_issues (provider : Provider) (expireSeconds : ℕ) (key value : String) :
    (setIfAbsent provider expireSeconds key value).Issues Command.hot := by
  refine Prog.Issues.bind ⟨trivial, fun _ ↦ trivial⟩ fun answer ↦ ?_
  cases answer
  · exact ⟨trivial, fun _ ↦ trivial⟩
  · trivial

theorem releaseLock_issues (provider : Provider) (key token : String) :
    (releaseLock provider key token).Issues Command.hot := by
  refine Prog.Issues.bind ⟨trivial, fun _ ↦ trivial⟩ fun answer ↦ ?_
  rcases answer with _ | current
  · exact ⟨trivial, fun _ ↦ trivial⟩
  · dsimp only
    split_ifs
    · refine Prog.Issues.bind ⟨trivial, fun _ ↦ trivial⟩ fun answer ↦ ?_
      cases answer
      · exact ⟨trivial, fun _ ↦ trivial⟩
      · trivial
    · trivial

/-- The operations that go to the world. -/
def Op.toWorld : Op → Prop
  | .setIfAbsent _ _ | .releaseLock _ _ => False
  | _ => True

/-- A program that never asks the hot state sends operations on the world only. -/
theorem interp_commands_issues {α : Type} (client : HotClient) (routing : Option String)
    {p : Handler α} (h : p.Issues Op.toWorld) :
    (p.interp (commands client routing)).Issues fun c ↦ ∃ o, c = .world routing o := by
  refine Prog.Issues.interp (fun o ho ↦ ?_) h
  cases o with
  | setIfAbsent key value => exact ho.elim
  | releaseLock key token => exact ho.elim
  | _ => exact ⟨⟨_, rfl⟩, fun _ ↦ trivial⟩

/-- The hot state never raises. -/
theorem commands_total (client : HotClient) (routing : Option String) (o : Op) :
    (commands client routing o).Total := by
  cases o with
  | setIfAbsent key value => exact setIfAbsent_total _ _ _ _
  | releaseLock key token => exact releaseLock_total _ _ _
  | _ => exact fun _ ↦ trivial

end IncidentPlatform
