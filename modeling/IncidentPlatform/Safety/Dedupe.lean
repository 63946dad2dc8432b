import IncidentPlatform.Api.Alerts
import IncidentPlatform.Api.Runs

/-!
# One incident per alert

No dedupe key gets two incidents, as long as the requests for it ask one store. That is Redis
when it answers; without it every endpoint asks the dictionary of its own provider, and an alert
that is sent to both endpoints opens two incidents.
-/

namespace IncidentPlatform

open Interaction


/-- The records with a dedupe key, in the order they were written. -/
def World.withKey (w : World) (key : String) : List IncidentRecord :=
  w.history.filter fun r ↦ r.metadata.dedupeKey == key

theorem World.withKey_written (w : World) (r : IncidentRecord) (key : String) :
    (w.written r).withKey key =
      if r.metadata.dedupeKey = key then w.withKey key ++ [r] else w.withKey key := by
  rw [withKey, written, List.filter_append, ← withKey]
  by_cases h : r.metadata.dedupeKey = key
  · rw [if_pos h, List.filter_cons, if_pos (beq_iff_eq.mpr h), List.filter_nil]
  · rw [if_neg h, List.filter_cons, if_neg (by simpa using h), List.filter_nil, List.append_nil]

section

variable {ι : Type*} [DecidableEq ι] {x : Watch} {env : Env} {mode : Mode} {s : Shared} {n : ℕ}
  {standing : ι → Standing}

/-- At most one request is past the entry, and it creates at most one incident. -/
structure Single (x : Watch) (n : ℕ) (s : Shared) (standing : ι → Standing) : Prop where
  available : s.hot.available = x.available
  held : ∀ i, standing i ≠ .waiting → x.Held s.hot
  unique : ∀ i j, standing i ≠ .waiting → standing j ≠ .waiting → i = j
  counted : (s.world.withKey x.key).length = n ∨
    (s.world.withKey x.key).length = n + 1 ∧ ∃ i, standing i = .created

/-- Nobody's standing has changed. -/
theorem Single.idle (h : Single x n s standing) (i : ι) {s' : Shared}
    (havailable : s'.hot.available = s.hot.available) (hheld : x.Held s.hot → x.Held s'.hot)
    (hhistory : s'.world.withKey x.key = s.world.withKey x.key) :
    Single x n s' (Function.update standing i (standing i)) := by
  rw [Function.update_eq_self]
  exact ⟨havailable.trans h.available, fun j hj ↦ hheld (h.held j hj), h.unique,
    hhistory.symm ▸ h.counted⟩

/-- A request is told that it is the first. -/
theorem Single.grant (h : Single x n s standing) (i : ι) {hot : HotState}
    (hfree : ¬ x.Held s.hot) (havailable : hot.available = s.hot.available) (hheld : x.Held hot) :
    Single x n { s with hot } (Function.update standing i .first) := by
  have hwaiting (j : ι) : standing j = .waiting := by
    by_contra hj
    exact hfree (h.held j hj)
  have honly (j : ι) (hj : Function.update standing i .first j ≠ .waiting) : j = i := by
    by_contra hne
    rw [Function.update_of_ne hne] at hj
    exact hj (hwaiting j)
  refine ⟨havailable.trans h.available, fun _ _ ↦ hheld,
    fun j l hj hl ↦ (honly j hj).trans (honly l hl).symm, Or.inl ?_⟩
  rcases h.counted with hn | ⟨-, j, hj⟩
  · exact hn
  · cases (hwaiting j).symm.trans hj

/-- A request asks for an entry. It may be granted the one that is watched only if it was free. -/
theorem Single.asked (h : Single x n s standing) (i : ι) {entry : String} {granted : Prop}
    [Decidable granted] {hot : HotState} (havailable : hot.available = s.hot.available)
    (hheld : x.Held s.hot → x.Held hot)
    (hgranted : entry = dedupeEntry x.key → granted → ¬ x.Held s.hot ∧ x.Held hot) :
    Single x n { s with hot } (Function.update standing i
      (if entry = dedupeEntry x.key ∧ granted then .first else standing i)) := by
  split_ifs with hfirst
  · obtain ⟨hfree, hnow⟩ := hgranted hfirst.1 hfirst.2
    exact h.grant i hfree havailable hnow
  · exact h.idle i havailable hheld rfl

/-- The first request writes its incident. -/
theorem Single.create (h : Single x n s standing) (i : ι) (hi : standing i = .first) {w : World}
    {r : IncidentRecord} (hwritten : w.withKey x.key = s.world.withKey x.key ++ [r]) :
    Single x n { s with world := w } (Function.update standing i .created) := by
  have hpast : standing i ≠ .waiting := fun hwaiting ↦ by cases hi.symm.trans hwaiting
  have honly (j : ι) (hj : Function.update standing i .created j ≠ .waiting) : j = i := by
    by_contra hne
    rw [Function.update_of_ne hne] at hj
    exact hne (h.unique j i hj hpast)
  refine ⟨h.available, fun _ _ ↦ h.held i hpast,
    fun j l hj hl ↦ (honly j hj).trans (honly l hl).symm, Or.inr ⟨?_, i, ?_⟩⟩
  · rw [hwritten, List.length_append, List.length_singleton]
    rcases h.counted with hn | ⟨-, j, hj⟩
    · rw [hn]
    · have hji : j = i := h.unique j i (fun hwaiting ↦ by cases hj.symm.trans hwaiting) hpast
      cases (hji ▸ hj).symm.trans hi
  · rw [Function.update_self]

/-- One operation of an alert on the world. -/
theorem single_world (hfresh : ¬ x.fresh) (i : ι) (routing : Option String) (o : Op)
    (h : Single x n s standing) (hguar : (alertContract x).guar (standing i) (.world routing o)) :
    (alertContract x).rely (standing i) (.world routing o)
        (serveCommand env mode s (.world routing o)).1 ∧
      Single x n (serveCommand env mode s (.world routing o)).2 (Function.update standing i
        ((alertContract x).next (standing i) (.world routing o)
          (serveCommand env mode s (.world routing o)).1)) := by
  have hkept (hwrite : ∀ r, o ≠ .write r) :
      Single x n { s with world := (serve env mode s.world o).2 }
        (Function.update standing i (standing i)) :=
    h.idle i rfl id (congrArg _ (serve_history hwrite))
  cases o with
  | write r =>
    refine ⟨trivial, ?_⟩
    have hwritten := World.withKey_written { s.world with tick := s.world.tick + 1 } r x.key
    change Single x n { s with world := World.written _ r } (Function.update standing i
      (if r.metadata.dedupeKey = x.key then .created else standing i))
    by_cases hkey : r.metadata.dedupeKey = x.key
    · rw [if_pos hkey] at hwritten ⊢
      exact h.create i (hguar hkey) hwritten
    · rw [if_neg hkey] at hwritten ⊢
      exact h.idle i rfl id hwritten
  | previous incidentId => exact ⟨fun hx ↦ absurd hx hfresh, hkept fun _ hr ↦ by cases hr⟩
  | touch r => exact hguar.elim
  | _ => exact ⟨trivial, hkept fun _ hr ↦ by cases hr⟩

theorem single_setNX (i : ι) {entry : String} (value : String) (expireSeconds : ℕ)
    (h : Single x n s standing) :
    (alertContract x).rely (standing i) (.setNX entry value expireSeconds)
        (serveCommand env mode s (.setNX entry value expireSeconds)).1 ∧
      Single x n (serveCommand env mode s (.setNX entry value expireSeconds)).2
        (Function.update standing i ((alertContract x).next (standing i)
          (.setNX entry value expireSeconds)
          (serveCommand env mode s (.setNX entry value expireSeconds)).1)) := by
  cases hup : s.hot.available with
  | false =>
    rw [serveCommand, HotState.setNX_of_unavailable hup]
    exact ⟨hup.symm.trans h.available, h.asked i rfl id fun _ hgranted ↦ by cases hgranted⟩
  | true =>
    have hx : true = x.available := hup.symm.trans h.available
    rcases hentry : s.hot.redis entry with _ | held
    · rw [serveCommand, HotState.setNX_of_free hup hentry]
      refine ⟨hx, h.asked i rfl (fun hheld ↦ hheld.withRedis entry value) ?_⟩
      rintro rfl -
      refine ⟨fun hheld ↦ ?_, fun _ ↦ ?_, fun hdown ↦ ?_⟩
      · have hsome := hheld.redis hx.symm
        rw [hentry] at hsome
        cases hsome
      · rw [HotState.withRedis_self]
        rfl
      · cases hx.trans hdown
    · rw [serveCommand, HotState.setNX_of_held hup hentry]
      exact ⟨hx, h.asked i rfl id fun _ hgranted ↦ by cases hgranted⟩

theorem single_localSet (hone : x.available = false → ∀ p q, x.fallback p → x.fallback q → p = q)
    (i : ι) {provider : Provider} {entry : String} (value : String) (h : Single x n s standing)
    (hguar : (alertContract x).guar (standing i) (.localSet provider entry value)) :
    (alertContract x).rely (standing i) (.localSet provider entry value)
        (serveCommand env mode s (.localSet provider entry value)).1 ∧
      Single x n (serveCommand env mode s (.localSet provider entry value)).2
        (Function.update standing i ((alertContract x).next (standing i)
          (.localSet provider entry value)
          (serveCommand env mode s (.localSet provider entry value)).1)) := by
  obtain ⟨hdown, hask⟩ := hguar
  refine ⟨trivial, ?_⟩
  rcases hentry : s.hot.fallback provider entry with _ | held
  · rw [serveCommand, HotState.localSet_of_free hentry]
    refine h.asked i rfl (fun hheld ↦ hheld.withFallback provider entry value) ?_
    rintro rfl -
    refine ⟨fun hheld ↦ ?_, fun hup ↦ ?_, fun _ ↦ ⟨provider, (hask rfl).2, ?_⟩⟩
    · obtain ⟨provider', hprovider', hsome⟩ := hheld.fallback hdown
      rw [hone hdown _ _ hprovider' (hask rfl).2, hentry] at hsome
      cases hsome
    · cases hdown.symm.trans hup
    · rw [HotState.withFallback_eq, if_pos ⟨rfl, rfl⟩]
      rfl
  · rw [serveCommand, HotState.localSet_of_held hentry]
    exact h.asked i rfl id fun _ hgranted ↦ by cases hgranted

/-- One command of an alert. -/
theorem single_step (hfresh : ¬ x.fresh)
    (hone : x.available = false → ∀ p q, x.fallback p → x.fallback q → p = q) (i : ι) (c : Command)
    (h : Single x n s standing) (hguar : (alertContract x).guar (standing i) c) :
    (alertContract x).rely (standing i) c (serveCommand env mode s c).1 ∧
      Single x n (serveCommand env mode s c).2 (Function.update standing i
        ((alertContract x).next (standing i) c (serveCommand env mode s c).1)) := by
  cases c with
  | world routing o => exact single_world hfresh i routing o h hguar
  | setNX entry value expireSeconds => exact single_setNX i value expireSeconds h
  | localSet provider entry value => exact single_localSet hone i value h hguar
  | _ => exact hguar.elim

end

/-- **One incident per key.** Under any schedule of any number of alerts, whichever of them the
database fails, at most one incident is created for a dedupe key, as long as Redis answers or all
the alerts for the key go to one endpoint. -/
theorem one_incident_per_key {ι : Type*} [DecidableEq ι] (cfg : Settings) (env : Env) (mode : Mode)
    (s : Shared) (key : String) (request : ι → Alert)
    (hone : s.hot.available = true ∨ ∀ i j, (request i).call.dedupeKey cfg = some key →
      (request j).call.dedupeKey cfg = some key →
        (request i).call.hotClient.provider = (request j).call.hotClient.provider)
    (schedule : List ι) :
    let pool := (alertPool cfg s request).run (serveCommand env mode) (Standing.next key) schedule
    (pool.shared.world.withKey key).length ≤ (s.world.withKey key).length + 1 := by
  let x : Watch :=
    { key
      available := s.hot.available
      fallback := fun p ↦ ∃ i, (request i).call.dedupeKey cfg = some key ∧
        (request i).call.hotClient.provider = p }
  have hsame (hdown : x.available = false) (p q : Provider) (hp : x.fallback p)
      (hq : x.fallback q) : p = q := by
    obtain ⟨i, hi, rfl⟩ := hp
    obtain ⟨j, hj, rfl⟩ := hq
    exact hone.resolve_left (fun hup ↦ by cases hdown.symm.trans hup) i j hi hj
  have hstart : Single x (s.world.withKey key).length s fun _ : ι ↦ .waiting :=
    ⟨rfl, fun _ h ↦ absurd rfl h, fun _ _ h ↦ absurd rfl h, Or.inl rfl⟩
  intro pool
  have hsingle : Single x (s.world.withKey key).length pool.shared fun i ↦ (pool.thread i).ghost :=
    (Pool.run_invariant (alertContract x) (Single x (s.world.withKey key).length)
    (fun _ _ _ ↦ True) (fun t standing i c hK hguar _ ↦ single_step not_false hsame i c hK hguar)
    schedule (alertPool cfg s request) hstart
    (fun i ↦ Prog.Meets.mono (fun _ _ _ ↦ trivial)
      (Call.alert_meets (request i).alerts fun _ hkey ↦ ⟨i, hkey, rfl⟩))
    (Pool.admits_true _ _)).1
  rcases hsingle.counted with hn | ⟨hn, -⟩
  · exact hn.le.trans (Nat.le_succ _)
  · exact hn.le

/-- The demo alert, sent to both endpoints. -/
def bothEndpoints (i : Fin 2) : Alert :=
  if i = 0 then { call := .createAlert checkoutAlert "req-1", alerts := trivial }
  else { call := .ingest checkoutAlert, alerts := trivial }

/-- Without Redis neither endpoint knows of the other's entry. -/
theorem two_incidents_without_redis :
    ¬ ∀ schedule : List (Fin 2),
      ((((alertPool Settings.demo { hot := { available := false } } bothEndpoints).run
        (serveCommand Env.demo .postgres) (Standing.next (dedupeKeyOf Settings.demo checkoutAlert))
        schedule).shared.world.withKey (dedupeKeyOf Settings.demo checkoutAlert)).map
          IncidentRecord.incidentId).length ≤ 1 := by
  intro h
  exact absurd (h (List.replicate 10 0 ++ List.replicate 10 1)) (by decide +kernel)

/-- The demo alert at both endpoints while Redis answers. -/
theorem one_incident_with_redis :
    let pool := (alertPool Settings.demo {} bothEndpoints).run (serveCommand Env.demo .postgres)
      (Standing.next (dedupeKeyOf Settings.demo checkoutAlert)) [0, 1, 0, 1, 0, 1, 0, 1, 0, 1, 0, 1]
    (pool.shared.world.withKey (dedupeKeyOf Settings.demo checkoutAlert)).length
      ≤ ((({} : Shared).world).withKey (dedupeKeyOf Settings.demo checkoutAlert)).length + 1 :=
  one_incident_per_key Settings.demo Env.demo .postgres {} _ bothEndpoints (Or.inl rfl)
    [0, 1, 0, 1, 0, 1, 0, 1, 0, 1, 0, 1]

end IncidentPlatform
