import IncidentPlatform.Api.Reports

/-!
# Interference between incidents

The audit view and the report of an incident show its own events only, but they look for them among
the newest events of all incidents. An event of the incident is shown as long as there is room for
it and for the *crowd*, the newer events of other incidents. So what other incidents log can push it
out, of the view and of the report, which then looks as if it had never happened
(`views_agree_iff`).
-/

namespace IncidentPlatform

open Interaction

/-- The event is one of the incident. -/
def AuditEvent.isOf (incidentId : String) (event : AuditEvent) : Bool :=
  ofIncident incidentId event.payload

/-- Two logs with the same events of the incident. Those of other incidents may be inserted or
taken out anywhere. -/
def SameOwn (incidentId : String) (events events' : List AuditEvent) : Prop :=
  events.filter (AuditEvent.isOf incidentId) = events'.filter (AuditEvent.isOf incidentId)

/-- The newer events of other incidents leave room for the same events of the incident, in the
windows that `limit` opens on two logs. -/
def SameRoom (mode : Mode) (limit : ℤ) (incidentId : String) (events events' : List AuditEvent) :
    Prop :=
  ∀ k < ((newestFirst mode events).filter (AuditEvent.isOf incidentId)).length,
    k + crowd (AuditEvent.isOf incidentId) (newestFirst mode events) k
        < window mode limit events.length ↔
      k + crowd (AuditEvent.isOf incidentId) (newestFirst mode events') k
        < window mode limit events'.length

section

variable (tt : TimeText) (mode : Mode) (limit : ℤ) (incidentId : String)

/-- What is shown of a log. -/
def shown (events : List AuditEvent) : List AuditEvent :=
  ((newestFirst mode events).take (window mode limit events.length)).filter
    (AuditEvent.isOf incidentId)

variable {tt mode limit incidentId} {events events' : List AuditEvent}

theorem length_shown_iff (hown : SameOwn incidentId events events') :
    (shown mode limit incidentId events).length = (shown mode limit incidentId events').length ↔
      SameRoom mode limit incidentId events events' :=
  length_filter_take_eq_iff (filter_newestFirst mode hown) _ _

theorem shown_eq (hown : SameOwn incidentId events events')
    (hlength : (shown mode limit incidentId events).length
      = (shown mode limit incidentId events').length) :
    shown mode limit incidentId events = shown mode limit incidentId events' :=
  filter_take_eq_of_length (filter_newestFirst mode hown) hlength

theorem filter_listed (l : List AuditEvent) :
    (l.map (AuditEvent.listed tt)).filter (fun e ↦ ofIncident incidentId e.payload) =
      (l.filter (AuditEvent.isOf incidentId)).map (AuditEvent.listed tt) := by
  rw [List.filter_map]
  rfl

/-! ## The audit view -/

theorem getIncidentAudit_eq (w : World) :
    getIncidentAudit tt mode w incidentId limit =
      if mode = .postgres ∧ limit < 0 then .error (.fault .databaseError)
      else .ok ((shown mode limit incidentId w.events).map (AuditEvent.listed tt)) := by
  rw [getIncidentAudit, listEvents_eq]
  split_ifs
  · rfl
  · exact congrArg Except.ok (filter_listed _)

/-- A refused limit leaves no room for anything. -/
theorem sameRoom_of_refused (h : mode = .postgres ∧ limit < 0) :
    SameRoom mode limit incidentId events events' := by
  obtain ⟨rfl, hlimit⟩ := h
  intro k _
  have hwindow (n : ℕ) : window .postgres limit n = 0 := Int.toNat_of_nonpos hlimit.le
  rw [hwindow, hwindow]
  constructor <;> intro hlt <;> exact absurd hlt (Nat.not_lt_zero _)

/-- The audit view is the same if and only if there is room for the same. -/
theorem getIncidentAudit_eq_iff {w w' : World} (hown : SameOwn incidentId w.events w'.events) :
    getIncidentAudit tt mode w incidentId limit = getIncidentAudit tt mode w' incidentId limit ↔
      SameRoom mode limit incidentId w.events w'.events := by
  rw [getIncidentAudit_eq, getIncidentAudit_eq]
  split_ifs with hrefused
  · exact ⟨fun _ ↦ sameRoom_of_refused hrefused, fun _ ↦ rfl⟩
  · rw [← length_shown_iff hown]
    constructor
    · intro heq
      have hlength := congrArg List.length (Except.ok.inj heq)
      rw [List.length_map, List.length_map] at hlength
      exact hlength
    · intro hlength
      rw [shown_eq hown hlength]

/-! ## The report -/

/-- A report reads what is shown of the newest 1000 events. -/
theorem getIncidentReport_eq {w : World} {incident : IncidentRecord}
    (hstored : w.stored incidentId = some incident) :
    getIncidentReport tt mode w incidentId = .ok (generateIncidentReport tt incident
      (((newestFirst mode w.events).take (window mode 1000 w.events.length)).map
        (AuditEvent.listed tt))) := by
  rw [getIncidentReport, hstored, listEvents_eq, if_neg]
  rintro ⟨-, hneg⟩
  exact absurd hneg (by decide)

/-- The audit events of a timeline, from what is shown. -/
def shownEvents (tt : TimeText) (mode : Mode) (incidentId : String) (events : List AuditEvent) :
    List ListedEvent :=
  ((shown mode 1000 incidentId events).map (AuditEvent.listed tt)).insertionSort
    fun a b ↦ a.createdAt ≤ b.createdAt

theorem incidentAuditEvents_eq (incident : IncidentRecord) (events : List AuditEvent) :
    incidentAuditEvents incident
        (((newestFirst mode events).take (window mode 1000 events.length)).map
          (AuditEvent.listed tt)) = shownEvents tt mode incident.incidentId events := by
  rw [incidentAuditEvents, filter_listed]
  rfl

/-- The timeline has an item for each event that is shown. -/
theorem length_timeline (incident : IncidentRecord) (auditEvents : List ListedEvent) :
    (buildIncidentTimeline tt incident auditEvents).length =
      (incidentAuditEvents incident auditEvents).length + incident.executionTrace.length + 1 := by
  rw [buildIncidentTimeline]
  rw [List.length_insertionSort, List.length_append, List.length_cons, List.length_map,
    List.length_map]
  omega

/-- The report is the same if and only if there is room for the same. -/
theorem getIncidentReport_eq_iff {w w' : World} {incident : IncidentRecord}
    (hid : incident.incidentId = incidentId) (hstored : w.stored incidentId = some incident)
    (hstored' : w'.stored incidentId = some incident)
    (hown : SameOwn incidentId w.events w'.events) :
    getIncidentReport tt mode w incidentId = getIncidentReport tt mode w' incidentId ↔
      SameRoom mode 1000 incidentId w.events w'.events := by
  rw [getIncidentReport_eq hstored, getIncidentReport_eq hstored', ← length_shown_iff hown]
  constructor
  · intro heq
    have htimeline := congrArg IncidentReport.incidentTimeline (Except.ok.inj heq)
    have hlength := congrArg List.length htimeline
    unfold generateIncidentReport at hlength
    dsimp only at hlength
    rw [length_timeline, length_timeline, incidentAuditEvents_eq, incidentAuditEvents_eq,
      hid] at hlength
    unfold shownEvents at hlength
    rw [List.length_insertionSort, List.length_insertionSort, List.length_map,
      List.length_map] at hlength
    omega
  · intro hlength
    unfold generateIncidentReport buildIncidentTimeline calculateOperationalMetrics
    dsimp only
    rw [incidentAuditEvents_eq, incidentAuditEvents_eq, hid]
    unfold shownEvents
    rw [shown_eq hown hlength]

theorem createIncidentReport_fst (tt : TimeText) (mode : Mode) (now : Time) (w : World)
    (incidentId : String) :
    (createIncidentReport tt mode now w incidentId).1 = getIncidentReport tt mode w incidentId := by
  rw [createIncidentReport]
  cases getIncidentReport tt mode w incidentId <;> rfl

end

/-- Everything that is served about the incident is the same in both worlds. -/
def SameViews (tt : TimeText) (mode : Mode) (limit : ℤ) (incidentId : String) (w w' : World) :
    Prop :=
  getIncidentAudit tt mode w incidentId limit = getIncidentAudit tt mode w' incidentId limit ∧
    getIncidentReport tt mode w incidentId = getIncidentReport tt mode w' incidentId ∧
    ∀ now now', (createIncidentReport tt mode now w incidentId).1
      = (createIncidentReport tt mode now' w' incidentId).1

/-- **Interference.** Take an unchanged record and two audit logs that differ in the events of other
incidents only. The audit view and the reports of the incident are the same if and only if in both
logs there is room for the same of its events, in the window of the view and in that of the
report. -/
theorem views_agree_iff (tt : TimeText) (mode : Mode) (limit : ℤ) (w w' : World)
    (incident : IncidentRecord) (hstored : w.stored incident.incidentId = some incident)
    (hstored' : w'.stored incident.incidentId = some incident)
    (hown : SameOwn incident.incidentId w.events w'.events) :
    SameViews tt mode limit incident.incidentId w w' ↔
      SameRoom mode limit incident.incidentId w.events w'.events ∧
        SameRoom mode 1000 incident.incidentId w.events w'.events := by
  rw [SameViews, getIncidentAudit_eq_iff hown, getIncidentReport_eq_iff rfl hstored hstored' hown]
  constructor
  · rintro ⟨haudit, hreport, -⟩
    exact ⟨haudit, hreport⟩
  · rintro ⟨haudit, hreport⟩
    refine ⟨haudit, hreport, fun now now' ↦ ?_⟩
    rw [createIncidentReport_fst, createIncidentReport_fst]
    exact (getIncidentReport_eq_iff rfl hstored hstored' hown).mpr hreport

instance (mode : Mode) (limit : ℤ) (incidentId : String) (events events' : List AuditEvent) :
    Decidable (SameRoom mode limit incidentId events events') :=
  inferInstanceAs (Decidable (∀ _ < _, _))

/-- Some text for times and payloads. -/
def TimeText.demo : TimeText where
  isoformat t := hexDigits t.toNat
  parse _ := none
  dumps _ := ""
  round q := q

/-- A checkpoint of an incident, at a time. -/
def checkpointAt (incidentId : String) (createdAt : Time) : AuditEvent where
  eventType := "workflow_checkpoint"
  payload := [("incident_id", .str incidentId), ("step", .str "match")]
  createdAt

/-- Two events, of which the second is of another incident, and one more of the other in between. -/
theorem views_agree_iff_quiet :
    SameViews TimeText.demo .postgres 200 "inc_1"
      { rows := [checkoutIncident], events := [checkpointAt "inc_1" 1, checkpointAt "inc_2" 3] }
      { rows := [checkoutIncident]
        events := [checkpointAt "inc_1" 1, checkpointAt "inc_2" 3, checkpointAt "inc_2" 2] } :=
  (views_agree_iff TimeText.demo .postgres 200 _ _ checkoutIncident rfl rfl rfl).mpr
    ⟨by decide +kernel, by decide +kernel⟩

/-- The same checkpoint, before a thousand events of another incident. -/
def busyLog : List AuditEvent :=
  checkpointAt "inc_1" 1 :: List.replicate 1000 (checkpointAt "inc_2" 2)

theorem sameOwn_busyLog : SameOwn "inc_1" [checkpointAt "inc_1" 1] busyLog := by
  refine congrArg (checkpointAt "inc_1" 1 :: ·) (List.filter_eq_nil_iff.mpr ?_).symm
  intro e he
  rw [List.eq_of_mem_replicate he]
  decide

/-- Neither the view nor the report shows it any more. -/
theorem busy_log_hides_events :
    ¬ ∀ (tt : TimeText) (mode : Mode) (limit : ℤ) (w w' : World) (incident : IncidentRecord),
      w.stored incident.incidentId = some incident →
      w'.stored incident.incidentId = some incident →
      SameOwn incident.incidentId w.events w'.events →
      SameViews tt mode limit incident.incidentId w w' := by
  intro h
  obtain ⟨-, hreport, -⟩ := h TimeText.demo .fallback 200
    { rows := [checkoutIncident], events := [checkpointAt "inc_1" 1] }
    { rows := [checkoutIncident], events := busyLog } checkoutIncident rfl rfl sameOwn_busyLog
  have hroom := (getIncidentReport_eq_iff rfl rfl rfl sameOwn_busyLog).mp hreport
  exact absurd hroom (by decide +kernel)

end IncidentPlatform
