import IncidentPlatform.Api.Commands
import IncidentPlatform.Workflow.Operations

/-!
# The alerts, command by command

`POST /alerts` and `POST /ingest` ask the hot state for the dedupe key of an alert, and create an
incident if the key was not there. The entry is in one store, the incident in another, and nothing
ties them together but the order of the steps. The `upsert` of a request may fail, in its read or
in its write.

`Standing` follows a request on its way, for one key. `alertContract` is what both endpoints keep
to, whatever the answers.
-/

namespace IncidentPlatform

open Interaction

/-! ## The requests -/

/-- The alerts. -/
def Call.Alerts : Call → Prop
  | .ingest _ | .createAlert _ _ => True
  | _ => False

/-- The dedupe key `normalize` computes. -/
def dedupeKeyOf (cfg : Settings) (payload : IngestPayload) : String :=
  cfg.sha256 (canonicalSource cfg.text payload.source ++ ":" ++
    cfg.text.lower (cfg.text.strip payload.service) ++ ":" ++
    cfg.text.lower (cfg.text.strip payload.resource) ++ ":" ++
    cfg.text.lower (cfg.text.strip (cfg.text.strip payload.symptom)))

/-- The dedupe key of an alert. -/
def Call.dedupeKey (cfg : Settings) : Call → Option String
  | .ingest payload | .createAlert payload _ => some (dedupeKeyOf cfg payload)
  | _ => none

theorem Call.Alerts.dedupeKey {call : Call} (h : call.Alerts) (cfg : Settings) :
    ∃ key, call.dedupeKey cfg = some key := by
  cases call with
  | ingest payload => exact ⟨_, rfl⟩
  | createAlert payload requestId => exact ⟨_, rfl⟩
  | _ => exact h.elim

/-- Where the database fails an `upsert`. -/
inductive Outage where
  | read
  | write
  deriving DecidableEq, Repr

/-- The commands of an operation, of a request whose `upsert` fails as `outage` says. -/
def alertCommands (client : HotClient) (outage : Option Outage) : (o : Op) → HotProg (Ans o)
  | .previous incidentId =>
    if outage = some .read then .raise (.fault .databaseError)
    else send (.world none (.previous incidentId))
  | .write r =>
    if outage = some .write then .raise (.fault .databaseError) else send (.world none (.write r))
  | o => commands client none o

/-- An alert, command by command. -/
def Call.alert (cfg : Settings) (outage : Option Outage) (call : Call) : HotProg Unit :=
  (call.handler cfg).interp (alertCommands call.hotClient outage)

/-- Without an outage it is the handler of the call. -/
theorem Call.alert_none (cfg : Settings) (call : Call) : call.alert cfg none
    = (call.handler cfg).interp (commands call.hotClient none) := by
  refine congrArg (Prog.interp · (call.handler cfg)) (funext fun o ↦ ?_)
  cases o <;> rfl

theorem normalize_yields (cfg : Settings) (payload : IngestPayload) :
    (normalize cfg payload).Yields fun r ↦ r.metadata.dedupeKey = dedupeKeyOf cfg payload :=
  fun _ _ _ _ ↦ rfl

/-! ## Standing -/

/-- The key of the entry of an alert. -/
def dedupeEntry (key : String) : String := "dedupe:" ++ key

theorem dedupeEntry_inj {a b : String} : dedupeEntry a = dedupeEntry b ↔ a = b :=
  String.append_right_inj "dedupe:"

/-- How far a request is with the incident of a key. -/
inductive Standing where
  | waiting
  /-- It was told that the key was not there. -/
  | first
  /-- It has written the incident. -/
  | created
  deriving DecidableEq, Repr

/-- What an answer means for a request. -/
def Standing.next (key : String) (m : Standing) : (c : Command) → c.Ans → Standing
  | .setNX entry _ _, answer => if entry = dedupeEntry key ∧ answer = some true then .first else m
  | .localSet _ entry _, answer => if entry = dedupeEntry key ∧ answer = true then .first else m
  | .world _ (.write r), _ => if r.metadata.dedupeKey = key then .created else m
  | _, _ => m

/-- What is watched: a key, whether Redis answers, the providers that may be asked for the key if
it does not, and whether the ids of new incidents can be relied on to be new. -/
structure Watch where
  key : String
  available : Bool
  fallback : Provider → Prop := fun _ ↦ True
  fresh : Prop := False

/-- What the alerts keep to, for the key that is watched: ask once, and write only as the first. -/
def alertContract (x : Watch) : Contract Command Command.Ans Standing where
  guar m
    | .setNX entry _ _ => entry = dedupeEntry x.key → m = .waiting
    | .localSet provider entry _ =>
      x.available = false ∧ (entry = dedupeEntry x.key → m = .waiting ∧ x.fallback provider)
    | .world _ (.write r) => r.metadata.dedupeKey = x.key → m = .first
    | .world _ (.touch _) => False
    | .world _ _ => True
    | _ => False
  rely _
    | .setNX _ _ _, answer => answer.isSome = x.available
    | .world _ (.previous _), answer => x.fresh → answer = none
    | _, _ => True
  next := Standing.next x.key

/-! ## The requests keep to it -/

/-- `p` keeps to the contract, and ends as `Q` says. -/
def Asks {α : Type} (x : Watch) (client : HotClient) (outage : Option Outage) (p : Handler α)
    (Q : Except Exc α → Standing → Prop) (m : Standing) : Prop :=
  (p.interp (alertCommands client outage)).Meets (alertContract x) Q m

/-- The operations that are sent on as they are, and leave a request's standing alone. -/
def Op.plain : Op → Prop
  | .setIfAbsent _ _ | .releaseLock _ _ | .previous _ | .touch _ | .write _ => False
  | _ => True

theorem alertCommands_plain (client : HotClient) (outage : Option Outage) {o : Op} (ho : o.plain) :
    alertCommands client outage o = send (.world none o) := by
  cases o <;> first | exact ho.elim | rfl

theorem alertContract_plain (x : Watch) (m : Standing) {o : Op} (ho : o.plain) :
    (alertContract x).guar m (.world none o) ∧
      ∀ a, (alertContract x).next m (.world none o) a = m := by
  cases o <;> first | exact ho.elim | exact ⟨trivial, fun _ ↦ rfl⟩

namespace Asks

variable {x : Watch} {client : HotClient} {outage : Option Outage} {α β : Type} {m : Standing}

theorem bind {p : Handler α} {f : α → Handler β} {Q : Except Exc α → Standing → Prop}
    {R : Except Exc β → Standing → Prop} (hp : Asks x client outage p Q m)
    (hf : ∀ a m', Q (.ok a) m' → Asks x client outage (f a) R m')
    (he : ∀ e m', Q (.error e) m' → R (.error e) m') :
    Asks x client outage (p >>= f) R m := by
  unfold Asks at hp hf ⊢
  rw [Prog.bind_eq, Prog.interp_bind]
  exact hp.bind hf he

theorem plain {p : Handler α} (h : p.Issues Op.plain) :
    Asks x client outage p (fun _ m' ↦ m' = m) m := by
  have hsent : (p.interp (alertCommands client outage)).Issues
      fun c ↦ ∃ o, Op.plain o ∧ c = .world none o := by
    refine Prog.Issues.interp (fun o ho ↦ ?_) h
    rw [alertCommands_plain client outage ho]
    exact ⟨⟨o, ho, rfl⟩, fun _ ↦ trivial⟩
  refine Prog.Meets.of_issues (fun c hc ↦ ?_) (fun _ _ _ _ ↦ id) (fun c answer hc ↦ ?_) hsent
  · obtain ⟨o, ho, rfl⟩ := hc
    exact (alertContract_plain x m ho).1
  · obtain ⟨o, ho, rfl⟩ := hc
    exact (alertContract_plain x m ho).2 answer

/-- A plain operation, and what follows it. -/
theorem perform_bind {o : Op} (ho : o.plain) {f : Ans o → Handler β}
    {Q : Except Exc β → Standing → Prop} (hf : ∀ a, Asks x client outage (f a) Q m) :
    Asks x client outage (perform o >>= f) Q m := by
  have hcommands : (perform o >>= f).interp (alertCommands client outage)
      = (alertCommands client outage o).bind fun a ↦ (f a).interp (alertCommands client outage) :=
    rfl
  rw [Asks, hcommands, alertCommands_plain client outage ho]
  refine Prog.Meets.call (alertContract_plain x m ho).1 (fun _ _ ↦ id) fun a _ ↦ ?_
  rw [(alertContract_plain x m ho).2 a]
  exact hf a

/-- A request is first if it is told so about the key that is watched. -/
theorem claim (key value : String)
    (hfallback : x.available = false → key = x.key → x.fallback client.provider) :
    Asks x client outage (perform (.setIfAbsent (dedupeEntry key) value))
      (fun result m ↦ ∃ created, result = .ok created ∧
        m = if key = x.key ∧ created = true then .first else .waiting) .waiting := by
  refine Prog.Meets.call (fun _ ↦ rfl) (fun _ _ ↦ id) fun answer hanswer ↦ ?_
  cases answer with
  | some created =>
    refine ⟨created, rfl, ?_⟩
    simp [alertContract, Standing.next, dedupeEntry_inj]
  | none =>
    have hdown : x.available = false := hanswer.symm
    have hstill : (alertContract x).next .waiting
        (.setNX (dedupeEntry key) value client.expireSeconds) none = .waiting := by
      simp [alertContract, Standing.next]
    rw [hstill]
    refine Prog.Meets.call ⟨hdown, fun hkey ↦ ⟨rfl, hfallback hdown (dedupeEntry_inj.mp hkey)⟩⟩
      (fun _ _ ↦ id) fun created _ ↦ ⟨created, rfl, ?_⟩
    simp [alertContract, Standing.next, dedupeEntry_inj]

theorem previous (incidentId : String) :
    Asks x client outage (perform (.previous incidentId))
      (fun result m' ↦ m' = m ∧ match result with
        | .ok answer => x.fresh → answer = none
        | .error _ => outage ≠ none) m := by
  have hcommands : (perform (.previous incidentId)).interp (alertCommands client outage)
      = (alertCommands client outage (.previous incidentId)).bind Prog.ret := rfl
  rw [Asks, hcommands, alertCommands]
  by_cases hread : outage = some .read
  · rw [if_pos hread]
    exact ⟨rfl, by simp [hread]⟩
  · rw [if_neg hread]
    exact Prog.Meets.call trivial (fun _ _ ↦ id) fun answer hanswer ↦ ⟨rfl, hanswer⟩

theorem write (r : IncidentRecord) (hm : r.metadata.dedupeKey = x.key → m = .first) :
    Asks x client outage (perform (.write r))
      (fun result m' ↦ match result with
        | .ok _ => m' = if r.metadata.dedupeKey = x.key then .created else m
        | .error _ => m' = m ∧ outage ≠ none) m := by
  have hcommands : (perform (.write r)).interp (alertCommands client outage)
      = (alertCommands client outage (.write r)).bind Prog.ret := rfl
  rw [Asks, hcommands, alertCommands]
  by_cases hwrite : outage = some .write
  · rw [if_pos hwrite]
    exact ⟨rfl, by simp [hwrite]⟩
  · rw [if_neg hwrite]
    exact Prog.Meets.call hm (fun _ _ ↦ id) fun _ _ ↦ rfl

/-- An `upsert` creates the incident, unless it fails. -/
theorem upsert (r : IncidentRecord) (hm : r.metadata.dedupeKey = x.key → m = .first) :
    Asks x client outage (upsert r)
      (fun result m' ↦ match result with
        | .ok _ => m' = if r.metadata.dedupeKey = x.key then .created else m
        | .error _ => m' = m ∧ (x.fresh → outage ≠ none)) m := by
  rw [IncidentPlatform.upsert]
  refine (previous r.incidentId).bind (fun answer m' h ↦ ?_) fun e m' h ↦ ⟨h.1, fun _ ↦ h.2⟩
  obtain ⟨hm', hanswer⟩ := h
  rw [hm']
  have hvalid : Asks x client outage (validateStateTransition answer r)
      (fun result m' ↦ m' = m ∧ ∀ e, result = .error e → ¬ x.fresh) m := by
    cases answer with
    | none => exact ⟨rfl, fun _ h ↦ by cases h⟩
    | some p =>
      have hstale : ¬ x.fresh := fun hfresh ↦ by cases hanswer hfresh
      exact Prog.Meets.mono (fun _ _ h ↦ ⟨h, fun _ _ ↦ hstale⟩) (plain (require_issues _ _))
  refine hvalid.bind (fun _ m' h ↦ ?_) fun e m' h ↦ ⟨h.1, fun hfresh ↦ absurd hfresh (h.2 e rfl)⟩
  rw [h.1]
  refine perform_bind (by trivial) fun updatedAt ↦ ?_
  refine (write (stamp answer updatedAt r) hm).bind (fun _ _ h ↦ h) fun _ _ h ↦ ⟨h.1, fun _ ↦ h.2⟩

end Asks

/-! ## The handlers -/

section

variable {x : Watch} {client : HotClient} {outage : Option Outage} {cfg : Settings}
  {payload : IngestPayload} {m : Standing} {α : Type}

/-- How an alert for `key` ends: it does not stay the first, unless its `upsert` failed. -/
def Ended (x : Watch) (outage : Option Outage) (key : String) (m : Standing) : Prop :=
  m = .first → key = x.key ∧ (x.fresh → outage ≠ none)

theorem Ended.waiting (key : String) : Ended x outage key .waiting := fun h ↦ by cases h

/-- The end of the first alert: it has created its incident, or failed. -/
theorem upsert_ended (r : IncidentRecord)
    (hm : m = if r.metadata.dedupeKey = x.key then .first else .waiting) :
    Asks x client outage (upsert r) (fun _ m' ↦ Ended x outage r.metadata.dedupeKey m') m := by
  have hfirst (hkey : r.metadata.dedupeKey = x.key) : m = .first := hm.trans (if_pos hkey)
  refine (Asks.upsert r hfirst).mono fun result m' h ↦ ?_
  by_cases hkey : r.metadata.dedupeKey = x.key
  · cases result with
    | ok r' =>
      have hcreated : m' = .created := h.trans (if_pos hkey)
      exact fun hfirst' ↦ by cases hcreated.symm.trans hfirst'
    | error e => exact fun _ ↦ ⟨hkey, h.2⟩
  · have hwaiting : m' = .waiting := by
      rw [if_neg hkey] at hm
      cases result with
      | ok r' => exact (h.trans (if_neg hkey)).trans hm
      | error e => exact h.1.trans hm
    exact hwaiting ▸ Ended.waiting _

theorem normalize_plain (cfg : Settings) (payload : IngestPayload) :
    (normalize cfg payload).Issues Op.plain :=
  issues_bind (issues_perform trivial) fun _ ↦ issues_bind (issues_perform trivial) fun _ ↦
    issues_bind (issues_perform trivial) fun _ ↦
    issues_bind (issues_perform trivial) fun _ ↦ trivial

/-- What the two endpoints have in common: the first alert creates, the others look up. -/
theorem alert_asks {create lookup : IncidentRecord → Handler α}
    (hfallback : x.available = false → dedupeKeyOf cfg payload = x.key → x.fallback client.provider)
    (hcreate : ∀ r m, m = (if r.metadata.dedupeKey = x.key then .first else .waiting) →
      Asks x client outage (create r) (fun _ m' ↦ Ended x outage r.metadata.dedupeKey m') m)
    (hlookup : ∀ r, (lookup r).Issues Op.plain) :
    Asks x client outage (do
        let incident ← normalize cfg payload
        let firstSeen ← perform
          (.setIfAbsent (dedupeEntry incident.metadata.dedupeKey) incident.incidentId)
        if firstSeen then create incident else lookup incident)
      (fun _ m ↦ Ended x outage (dedupeKeyOf cfg payload) m) .waiting := by
  have hnormalize : Asks x client outage (normalize cfg payload)
      (fun result m ↦ m = .waiting ∧
        ∀ r, result = .ok r → r.metadata.dedupeKey = dedupeKeyOf cfg payload) .waiting :=
    Prog.Meets.yielding (Asks.plain (normalize_plain cfg payload))
      (normalize_yields cfg payload).interp
  refine hnormalize.bind (fun r m h ↦ ?_) fun e m h ↦ h.1 ▸ Ended.waiting _
  have hkey := h.2 r rfl
  rw [h.1, ← hkey]
  refine (Asks.claim r.metadata.dedupeKey r.incidentId (hkey ▸ hfallback)).bind
    (fun firstSeen m h ↦ ?_) fun e m h ↦ ?_
  · obtain ⟨created, hcreated, hm⟩ := h
    cases hcreated
    cases firstSeen with
    | true => exact hcreate r m (by simpa using hm)
    | false =>
      have hwaiting : m = .waiting := by simpa using hm
      rw [hwaiting]
      exact (Asks.plain (hlookup r)).mono fun _ _ hm' ↦ hm' ▸ Ended.waiting _
  · obtain ⟨created, hcreated, -⟩ := h
    cases hcreated

theorem existingIncident_plain (key : String) : (existingIncident key).Issues Op.plain :=
  issues_bind (issues_perform trivial) fun answer ↦ by cases answer <;> trivial

theorem ingest_asks
    (hfallback : x.available = false → dedupeKeyOf cfg payload = x.key →
      x.fallback client.provider) :
    Asks x client outage (ingest cfg payload)
      (fun _ m ↦ Ended x outage (dedupeKeyOf cfg payload) m) .waiting :=
  alert_asks hfallback (fun r _ hm ↦ upsert_ended r hm) fun _ ↦ existingIncident_plain _

theorem createAlert_asks (requestId : String)
    (hfallback : x.available = false → dedupeKeyOf cfg payload = x.key →
      x.fallback client.provider) :
    Asks x client outage (createAlert cfg payload requestId)
      (fun _ m ↦ Ended x outage (dedupeKeyOf cfg payload) m) .waiting := by
  refine alert_asks hfallback (fun r m hm ↦ ?_) fun r ↦ ?_
  · refine (upsert_ended r hm).bind (fun r' m' h ↦ ?_) fun _ _ h ↦ h
    exact Asks.perform_bind (by trivial) fun _ ↦ h
  · exact issues_bind (existingIncident_plain _) fun existing ↦
      issues_bind (issues_perform trivial) fun _ ↦ trivial

/-- Every alert keeps to the contract. -/
theorem Call.alert_meets {call : Call} (halert : call.Alerts)
    (hfallback : x.available = false → call.dedupeKey cfg = some x.key →
      x.fallback call.hotClient.provider) :
    (call.alert cfg outage).Meets (alertContract x)
      (fun _ m ↦ ∀ key ∈ call.dedupeKey cfg, Ended x outage key m) .waiting := by
  cases call with
  | ingest payload =>
    have hasks :
        Asks x (Call.ingest payload).hotClient outage (IncidentPlatform.ingest cfg payload) _
        .waiting :=
      ingest_asks fun hdown hkey ↦ hfallback hdown (congrArg some hkey)
    refine hasks.bind (fun _ m h key hkey ↦ ?_) fun _ m h key hkey ↦ ?_ <;> cases hkey <;> exact h
  | createAlert payload requestId =>
    have hasks : Asks x (Call.createAlert payload requestId).hotClient outage
        (IncidentPlatform.createAlert cfg payload requestId) _ .waiting :=
      createAlert_asks requestId fun hdown hkey ↦ hfallback hdown (congrArg some hkey)
    refine hasks.bind (fun _ m h key hkey ↦ ?_) fun _ m h key hkey ↦ ?_ <;> cases hkey <;> exact h
  | _ => exact halert.elim

end

/-! ## Alerts that start together -/

/-- A request that raises an alert, and how the database fails it. -/
structure Alert where
  call : Call
  alerts : call.Alerts
  outage : Option Outage := none

/-- Alerts that start together. -/
def alertPool {ι : Type*} (cfg : Settings) (s : Shared) (request : ι → Alert) :
    Pool Command Command.Ans Exc Unit Standing Shared ι where
  shared := s
  thread i := ⟨.waiting, (request i).call.alert cfg (request i).outage⟩

/-- The key that is watched has an entry in a store that may be asked. -/
structure Watch.Held (x : Watch) (hot : HotState) : Prop where
  redis : x.available = true → (hot.redis (dedupeEntry x.key)).isSome
  fallback : x.available = false →
    ∃ provider, x.fallback provider ∧ (hot.fallback provider (dedupeEntry x.key)).isSome

/-- Another entry makes no difference. -/
theorem Watch.Held.withRedis {x : Watch} {hot : HotState} (h : x.Held hot) (entry value : String) :
    x.Held (hot.withRedis entry (some value)) := by
  refine ⟨fun hup ↦ ?_, h.fallback⟩
  by_cases hentry : dedupeEntry x.key = entry
  · rw [hentry, HotState.withRedis_self]
    rfl
  · rw [HotState.withRedis_of_ne hentry]
    exact h.redis hup

theorem Watch.Held.withFallback {x : Watch} {hot : HotState} (h : x.Held hot) (provider : Provider)
    (entry value : String) : x.Held (hot.withFallback provider entry (some value)) := by
  refine ⟨h.redis, fun hdown ↦ ?_⟩
  obtain ⟨provider', hprovider, hheld⟩ := h.fallback hdown
  refine ⟨provider', hprovider, ?_⟩
  rw [HotState.withFallback_eq]
  split_ifs
  · rfl
  · exact hheld

theorem Watch.Held.of_withRedis {x : Watch} {hot : HotState} {entry value : String}
    (hother : entry ≠ dedupeEntry x.key) (h : x.Held (hot.withRedis entry (some value))) :
    x.Held hot := by
  refine ⟨fun hup ↦ ?_, h.fallback⟩
  have hsome := h.redis hup
  rwa [HotState.withRedis_of_ne hother.symm] at hsome

theorem Watch.Held.of_withFallback {x : Watch} {hot : HotState} {provider : Provider}
    {entry value : String} (hother : entry ≠ dedupeEntry x.key)
    (h : x.Held (hot.withFallback provider entry (some value))) : x.Held hot := by
  refine ⟨h.redis, fun hdown ↦ ?_⟩
  obtain ⟨provider', hprovider, hsome⟩ := h.fallback hdown
  rw [HotState.withFallback_eq, if_neg fun hsame ↦ hother hsame.2.symm] at hsome
  exact ⟨provider', hprovider, hsome⟩

end IncidentPlatform
