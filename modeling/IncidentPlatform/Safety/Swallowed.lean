import IncidentPlatform.Api.Alerts
import IncidentPlatform.Api.Runs

/-!
# No alert is swallowed, if the database stays up

The entry of a dedupe key is set before the incident is written, and no path takes it back. As long
as every `upsert` goes through, an entry is either backed by a stored incident or belongs to a
request that is still on its way to store one. After an `upsert` that failed it stays, and until it
expires the alerts of that key are refused as duplicates of an incident that does not exist.

New incident ids come from `uuid4`. That they are new is not a matter of the code, `NewIds` is the
side condition that says so.
-/

namespace IncidentPlatform

open Interaction

/-- The incident an `upsert` reads or writes. -/
def Command.upserts : Command → Option String
  | .world _ (.previous incidentId) => some incidentId
  | .world _ (.write r) => some r.incidentId
  | _ => none

/-- No incident is stored under the id that an `upsert` reads or writes. -/
def NewIds (s : Shared) (_ : Standing) (c : Command) : Prop :=
  ∀ incidentId ∈ c.upserts, s.world.stored incidentId = none

instance (s : Shared) (m : Standing) (c : Command) : Decidable (NewIds s m c) :=
  inferInstanceAs (Decidable (∀ incidentId ∈ c.upserts, s.world.stored incidentId = none))

/-- An incident with the dedupe key is stored. -/
def World.HasKey (w : World) (key : String) : Prop := ∃ r ∈ w.rows, r.metadata.dedupeKey = key

instance (w : World) (key : String) : Decidable (w.HasKey key) :=
  inferInstanceAs (Decidable (∃ r ∈ w.rows, r.metadata.dedupeKey = key))

theorem World.HasKey.written {w : World} {key : String} (h : w.HasKey key) {r : IncidentRecord}
    (hnew : w.stored r.incidentId = none) : (w.written r).HasKey key := by
  obtain ⟨r', hr', hkey⟩ := h
  exact ⟨r', mem_put_of_mem hnew hr', hkey⟩

theorem World.hasKey_written (w : World) (r : IncidentRecord) :
    (w.written r).HasKey r.metadata.dedupeKey :=
  ⟨r, mem_put_self w.rows r, rfl⟩

/-- The newest of some records is one of them. -/
theorem World.newest_mem {rows : List IncidentRecord} (h : rows ≠ []) :
    ∃ r ∈ rows, World.newest rows = some r := by
  induction rows with
  | nil => exact absurd rfl h
  | cons a rows ih =>
    rcases rows with _ | ⟨b, rows⟩
    · exact ⟨a, List.mem_singleton_self a, rfl⟩
    · obtain ⟨r, hr, hnewest⟩ := ih (List.cons_ne_nil b rows)
      rw [World.newest, hnewest]
      dsimp only
      split_ifs
      · exact ⟨r, List.mem_cons_of_mem a hr, rfl⟩
      · exact ⟨a, List.mem_cons_self, rfl⟩

section

variable {ι : Type*} [DecidableEq ι] {x : Watch} {env : Env} {mode : Mode} {s : Shared}
  {standing : ι → Standing}

/-- An entry is backed by an incident, or by a request that has still to write it. -/
structure Backed (x : Watch) (s : Shared) (standing : ι → Standing) : Prop where
  available : s.hot.available = x.available
  backed : x.Held s.hot → (∃ i, standing i = .first) ∨ s.world.HasKey x.key

theorem Backed.idle (h : Backed x s standing) (i : ι) {s' : Shared}
    (havailable : s'.hot.available = s.hot.available) (hheld : x.Held s'.hot → x.Held s.hot)
    (hrows : s.world.HasKey x.key → s'.world.HasKey x.key) :
    Backed x s' (Function.update standing i (standing i)) := by
  rw [Function.update_eq_self]
  exact ⟨havailable.trans h.available, fun hx ↦ (h.backed (hheld hx)).imp id hrows⟩

/-- A request asks for an entry. If that makes the one that is watched, the request is the first. -/
theorem Backed.asked (h : Backed x s standing) (i : ι) {entry : String} {granted : Prop}
    [Decidable granted] {hot : HotState} (havailable : hot.available = s.hot.available)
    (hheld : ¬ (entry = dedupeEntry x.key ∧ granted) → x.Held hot → x.Held s.hot) :
    Backed x { s with hot } (Function.update standing i
      (if entry = dedupeEntry x.key ∧ granted then .first else standing i)) := by
  split_ifs with hfirst
  · exact ⟨havailable.trans h.available, fun _ ↦ Or.inl ⟨i, Function.update_self _ _ _⟩⟩
  · exact h.idle i havailable (hheld hfirst) id

theorem backed_world (i : ι) (routing : Option String) (o : Op) (h : Backed x s standing)
    (hguar : (alertContract x).guar (standing i) (.world routing o))
    (hnew : NewIds s (standing i) (.world routing o)) :
    (alertContract x).rely (standing i) (.world routing o)
        (serveCommand env mode s (.world routing o)).1 ∧
      Backed x (serveCommand env mode s (.world routing o)).2 (Function.update standing i
        ((alertContract x).next (standing i) (.world routing o)
          (serveCommand env mode s (.world routing o)).1)) := by
  have hkept (ho : o.edits = false) : Backed x { s with world := (serve env mode s.world o).2 }
      (Function.update standing i (standing i)) := by
    refine h.idle i rfl id ?_
    rintro ⟨r, hr, hkey⟩
    exact ⟨r, by rwa [serve_rows ho], hkey⟩
  cases o with
  | write r =>
    refine ⟨trivial, ?_⟩
    let w : World := { s.world with tick := s.world.tick + 1 }
    change Backed x { s with world := w.written r } (Function.update standing i
      (if r.metadata.dedupeKey = x.key then .created else standing i))
    split_ifs with hkey
    · exact ⟨h.available, fun _ ↦ Or.inr (hkey ▸ w.hasKey_written r)⟩
    · exact h.idle i rfl id fun hstored ↦ World.HasKey.written hstored (hnew _ rfl)
  | previous incidentId => exact ⟨fun _ ↦ hnew _ rfl, hkept rfl⟩
  | touch r => exact hguar.elim
  | _ => exact ⟨trivial, hkept rfl⟩

theorem backed_setNX (i : ι) {entry : String} (value : String) (expireSeconds : ℕ)
    (h : Backed x s standing) :
    (alertContract x).rely (standing i) (.setNX entry value expireSeconds)
        (serveCommand env mode s (.setNX entry value expireSeconds)).1 ∧
      Backed x (serveCommand env mode s (.setNX entry value expireSeconds)).2
        (Function.update standing i ((alertContract x).next (standing i)
          (.setNX entry value expireSeconds)
          (serveCommand env mode s (.setNX entry value expireSeconds)).1)) := by
  cases hup : s.hot.available with
  | false =>
    rw [serveCommand, HotState.setNX_of_unavailable hup]
    exact ⟨hup.symm.trans h.available, h.asked i rfl fun _ ↦ id⟩
  | true =>
    have hx : true = x.available := hup.symm.trans h.available
    rcases hentry : s.hot.redis entry with _ | held
    · rw [serveCommand, HotState.setNX_of_free hup hentry]
      exact ⟨hx, h.asked i rfl fun hother hheld ↦
        hheld.of_withRedis (fun hkey ↦ hother ⟨hkey, rfl⟩)⟩
    · rw [serveCommand, HotState.setNX_of_held hup hentry]
      exact ⟨hx, h.asked i rfl fun _ ↦ id⟩

theorem backed_localSet (i : ι) {provider : Provider} {entry : String} (value : String)
    (h : Backed x s standing) :
    Backed x (serveCommand env mode s (.localSet provider entry value)).2
      (Function.update standing i ((alertContract x).next (standing i)
        (.localSet provider entry value)
        (serveCommand env mode s (.localSet provider entry value)).1)) := by
  rcases hentry : s.hot.fallback provider entry with _ | held
  · rw [serveCommand, HotState.localSet_of_free hentry]
    exact h.asked i rfl fun hother hheld ↦ hheld.of_withFallback (fun hkey ↦ hother ⟨hkey, rfl⟩)
  · rw [serveCommand, HotState.localSet_of_held hentry]
    exact h.asked i rfl fun _ ↦ id

/-- One command of an alert. -/
theorem backed_step (i : ι) (c : Command) (h : Backed x s standing)
    (hguar : (alertContract x).guar (standing i) c) (hnew : NewIds s (standing i) c) :
    (alertContract x).rely (standing i) c (serveCommand env mode s c).1 ∧
      Backed x (serveCommand env mode s c).2 (Function.update standing i
        ((alertContract x).next (standing i) c (serveCommand env mode s c).1)) := by
  cases c with
  | world routing o => exact backed_world i routing o h hguar hnew
  | setNX entry value expireSeconds => exact backed_setNX i value expireSeconds h
  | localSet provider entry value => exact ⟨trivial, backed_localSet i value h⟩
  | _ => exact hguar.elim

end

/-- A request is still on its way to store the incident of the key it was the first for. -/
def Creating {ι : Type*} (pool : Pool Command Command.Ans Exc Unit Standing Shared ι) (i : ι) :
    Prop :=
  (pool.thread i).ghost = .first ∧ (pool.thread i).prog.running = true

instance {ι : Type*} (pool : Pool Command Command.Ans Exc Unit Standing Shared ι) (i : ι) :
    Decidable (Creating pool i) :=
  inferInstanceAs (Decidable (_ ∧ _))

/-- What is held is what some provider finds, when all of them may be asked. -/
theorem Watch.held_iff {x : Watch} (hall : ∀ provider, x.fallback provider) {hot : HotState}
    (havailable : hot.available = x.available) :
    x.Held hot ↔ ∃ provider, (hot.entry provider (dedupeEntry x.key)).isSome := by
  constructor
  · intro h
    cases hup : x.available with
    | true =>
      refine ⟨.main, ?_⟩
      rw [HotState.entry, if_pos (havailable.trans hup)]
      exact h.redis hup
    | false =>
      obtain ⟨provider, -, hsome⟩ := h.fallback hup
      refine ⟨provider, ?_⟩
      rwa [HotState.entry, if_neg (Bool.eq_false_iff.mp (havailable.trans hup))]
  · rintro ⟨provider, hsome⟩
    refine ⟨fun hup ↦ ?_, fun hdown ↦ ⟨provider, hall provider, ?_⟩⟩
    · rwa [HotState.entry, if_pos (havailable.trans hup)] at hsome
    · rwa [HotState.entry, if_neg (Bool.eq_false_iff.mp (havailable.trans hdown))] at hsome

/-- **No alert is swallowed.** Under any schedule of any number of alerts, if no `upsert` for a key
fails and new incident ids are new, then an entry of the key that any provider finds is backed by a
stored incident, once no request is on its way to store one: looking the key up finds it. -/
theorem held_entry_has_incident {ι : Type*} [DecidableEq ι] (cfg : Settings) (env : Env)
    (mode : Mode) (s : Shared) (key : String) (request : ι → Alert)
    (hstart : ∀ provider, (s.hot.entry provider (dedupeEntry key)).isSome → s.world.HasKey key)
    (hup : ∀ i, (request i).call.dedupeKey cfg = some key → (request i).outage = none)
    (schedule : List ι)
    (hnew : (alertPool cfg s request).Admits (serveCommand env mode) (Standing.next key) NewIds
      schedule) :
    let pool := (alertPool cfg s request).run (serveCommand env mode) (Standing.next key) schedule
    ∀ provider, (pool.shared.hot.entry provider (dedupeEntry key)).isSome →
      (∀ i, ¬ Creating pool i) →
        ∃ r, (serve env mode pool.shared.world (.getByDedupeKey key)).1 = some r ∧
          r ∈ pool.shared.world.rows ∧ r.metadata.dedupeKey = key := by
  let x : Watch := { key, available := s.hot.available, fresh := True }
  intro pool provider hsome hquiet
  have hbegin : Backed x s fun _ : ι ↦ .waiting := by
    refine ⟨rfl, fun hheld ↦ Or.inr ?_⟩
    obtain ⟨provider', hsome'⟩ := (Watch.held_iff (fun _ ↦ trivial) rfl).mp hheld
    exact hstart provider' hsome'
  obtain ⟨hbacked, hmeets⟩ : Backed x pool.shared (fun i ↦ (pool.thread i).ghost) ∧
      ∀ i, (pool.thread i).prog.Meets (alertContract x) _ (pool.thread i).ghost :=
    Pool.run_meets
      (fun i _ m ↦ ∀ k ∈ (request i).call.dedupeKey cfg, Ended x (request i).outage k m)
      (alertContract x) (Backed x) NewIds
      (fun t standing i c hK hguar hok ↦ backed_step i c hK hguar hok) schedule
      (alertPool cfg s request) hbegin
      (fun i ↦ Call.alert_meets (request i).alerts fun _ _ ↦ trivial) hnew
  -- The entry is held, so either its incident is stored or the first request is still to store it.
  have hheld : x.Held pool.shared.hot :=
    (Watch.held_iff (fun _ ↦ trivial) hbacked.available).mpr ⟨provider, hsome⟩
  have hstored : pool.shared.world.HasKey key := by
    refine (hbacked.backed hheld).resolve_left ?_
    rintro ⟨i, hi⟩
    -- The first request has ended without creating its incident.
    have hend : ∀ k ∈ (request i).call.dedupeKey cfg, Ended x (request i).outage k .first := by
      have hm := hmeets i
      rw [hi] at hm
      rcases hprog : (pool.thread i).prog with a | e | ⟨c, k⟩
      · rwa [hprog] at hm
      · rwa [hprog] at hm
      · exact absurd ⟨hi, by rw [hprog]; rfl⟩ (hquiet i)
    obtain ⟨k, hk⟩ := (request i).alerts.dedupeKey cfg
    obtain ⟨rfl, hfailed⟩ := hend k hk rfl
    exact hfailed trivial (hup i hk)
  obtain ⟨r, hr, hkey⟩ := hstored
  have hfound : pool.shared.world.rows.filter (fun r ↦ r.metadata.dedupeKey == key) ≠ [] :=
    List.ne_nil_of_mem (List.mem_filter.mpr ⟨hr, beq_iff_eq.mpr hkey⟩)
  obtain ⟨r', hr', hnewest⟩ := World.newest_mem hfound
  obtain ⟨hrow, hkey'⟩ := List.mem_filter.mp hr'
  exact ⟨r', hnewest, hrow, beq_iff_eq.mp hkey'⟩

/-- The demo alert, whose incident the database does not take. -/
def failedAlert (_ : Fin 1) : Alert where
  call := .ingest checkoutAlert
  alerts := trivial
  outage := some .write

/-- The request ends with an error, and leaves its entry behind. -/
theorem failed_alert_keeps_entry :
    ¬ ∀ schedule : List (Fin 1),
      let pool := (alertPool Settings.demo {} failedAlert).run (serveCommand Env.demo .postgres)
        (Standing.next (dedupeKeyOf Settings.demo checkoutAlert)) schedule
      (pool.shared.hot.entry .ingress
        (dedupeEntry (dedupeKeyOf Settings.demo checkoutAlert))).isSome →
      (∀ i, ¬ Creating pool i) →
        pool.shared.world.HasKey (dedupeKeyOf Settings.demo checkoutAlert) := by
  intro h
  exact absurd (h (List.replicate 10 0) (by decide +kernel) (by decide +kernel)) (by decide +kernel)

/-- The demo alert, the same alert at the other endpoint, and an alert of another service, whose
incident the database does not take. -/
def mixedAlerts (i : Fin 3) : Alert :=
  if i.val = 0 then { call := .ingest checkoutAlert, alerts := trivial }
  else if i.val = 1 then { call := .createAlert checkoutAlert "req_1", alerts := trivial }
  else
    { call := .ingest { checkoutAlert with service := "billing", resource := "billing" }
      alerts := trivial
      outage := some .write }

/-- The three requests take turns. -/
theorem held_entry_has_incident_mixed :
    let pool := (alertPool Settings.demo {} mixedAlerts).run (serveCommand Env.demo .postgres)
      (Standing.next (dedupeKeyOf Settings.demo checkoutAlert))
      (List.replicate 10 [0, 1, 2]).flatten
    ∃ r, (serve Env.demo .postgres pool.shared.world
        (.getByDedupeKey (dedupeKeyOf Settings.demo checkoutAlert))).1 = some r ∧
      r ∈ pool.shared.world.rows ∧
        r.metadata.dedupeKey = dedupeKeyOf Settings.demo checkoutAlert := by
  have hpool := held_entry_has_incident Settings.demo Env.demo .postgres {}
    (dedupeKeyOf Settings.demo checkoutAlert) mixedAlerts (fun provider h ↦ by cases h)
    (by decide +kernel) (List.replicate 10 [0, 1, 2]).flatten (by decide +kernel)
  exact hpool .ingress (by decide +kernel) (by decide +kernel)

end IncidentPlatform
