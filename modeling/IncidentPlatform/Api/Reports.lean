import IncidentPlatform.Persistence.AuditStore
import IncidentPlatform.Workflow.HybridRouter

/-!
# Audit views and incident reports

`get_incident_audit` of `apps/api/main.py`, `apps/api/routers/reporting/app.py`, and the timeline
and the metrics of `src/reporting/incident_reports.py`. The audit view filters what the store
listed. A report filters the newest 1000 events in the same way, once for the timeline and once for
the metrics. Its two documents are made from the record, the timeline and the metrics, and are left
out.
-/

namespace IncidentPlatform

/-- `payload.get("incident_id") == incident_id`. -/
def ofIncident (incidentId : String) (payload : Dict) : Bool :=
  match Dict.get? payload "incident_id" with
  | some (.str s) => s == incidentId
  | _ => false

/-- `get_incident_audit`. -/
def getIncidentAudit (tt : TimeText) (mode : Mode) (w : World) (incidentId : String) (limit : ℤ) :
    Except Exc (List ListedEvent) :=
  match listEvents tt mode w.events limit with
  | .error f => .error (.fault f)
  | .ok events => .ok (events.filter fun e ↦ ofIncident incidentId e.payload)

/-! ## The timeline -/

/-- `_incident_audit_events`. -/
def incidentAuditEvents (incident : IncidentRecord) (auditEvents : List ListedEvent) :
    List ListedEvent :=
  (auditEvents.filter fun e ↦ ofIncident incident.incidentId e.payload).insertionSort
    fun a b ↦ a.createdAt ≤ b.createdAt

/-- An item of a timeline. Only the items of the execution trace have the key `success`. -/
structure TimelineItem where
  timestamp : String
  phase : String
  event : String
  summary : String
  success : Option (Option Bool) := none

/-- The item of an audit event. -/
def ListedEvent.item (tt : TimeText) (e : ListedEvent) : TimelineItem where
  timestamp := e.createdAt
  phase := "audit"
  event := e.eventType
  summary := String.ofList ((tt.dumps e.payload).toList.take 500)

/-- The item of a trace entry. -/
def ExecutionTraceEntry.item (tt : TimeText) (entry : ExecutionTraceEntry) : TimelineItem where
  timestamp := tt.isoformat entry.createdAt
  phase := entry.phase
  event := (orText entry.actionId none).getD entry.phase
  summary := entry.message
  success := some entry.success

/-- `build_incident_timeline`. -/
def buildIncidentTimeline (tt : TimeText) (incident : IncidentRecord)
    (auditEvents : List ListedEvent) : List TimelineItem :=
  let detected : TimelineItem :=
    { timestamp := tt.isoformat incident.metadata.occurredAt
      phase := "detect"
      event := "incident_detected"
      summary := incident.metadata.symptom }
  (detected :: (incidentAuditEvents incident auditEvents).map (ListedEvent.item tt) ++
      incident.executionTrace.map (ExecutionTraceEntry.item tt)).insertionSort
    fun a b ↦ a.timestamp ≤ b.timestamp

/-! ## The metrics -/

/-- `_minutes_between`. -/
def minutesBetween (tt : TimeText) : Option Time → Option Time → Option ℚ
  | some start, some stop => some (tt.round (max (((stop - start : ℤ) : ℚ) / 1000000) 0 / 60))
  | _, _ => none

structure OperationalMetrics where
  timeToDetectMinutes : ℚ := 0
  timeToDiagnoseMinutes : Option ℚ
  mttrMinutes : Option ℚ
  approvalDurationMinutes : Option ℚ
  evidenceItems : ℕ
  evidenceCoverage : ℚ
  executedActions : ℕ
  successfulActions : ℕ

/-- `calculate_operational_metrics`. -/
def calculateOperationalMetrics (tt : TimeText) (incident : IncidentRecord)
    (timeline : List TimelineItem) (auditEvents : List ListedEvent) : OperationalMetrics :=
  let occurred := some incident.metadata.occurredAt
  let firstRoute := (timeline.find? fun item ↦ item.event == "workflow_checkpoint").bind
    fun item ↦ tt.parse item.timestamp
  let resolved := if incident.state == .resolved then some incident.updatedAt else none
  let approvals := incident.approvals.filter ApprovalRecord.approved
  let approvalStart := approvals.getLast?.map ApprovalRecord.createdAt
  let actionEventTime := ((incidentAuditEvents incident auditEvents).find?
    fun item ↦ item.eventType == "action_executed").bind fun item ↦ tt.parse item.createdAt
  { timeToDiagnoseMinutes := minutesBetween tt occurred firstRoute
    mttrMinutes := minutesBetween tt occurred resolved
    approvalDurationMinutes := minutesBetween tt approvalStart actionEventTime
    evidenceItems := incident.evidence.length
    evidenceCoverage := incident.evidenceCoverageScore
    executedActions := incident.executedActions.length
    successfulActions := (incident.executedActions.filter ActionResult.success).length }

/-! ## The report -/

/-- The timeline and the metrics of an `IncidentReportBundle`. -/
structure IncidentReport where
  incidentId : String
  incidentTimeline : List TimelineItem
  metrics : OperationalMetrics

/-- `generate_incident_report`. -/
def generateIncidentReport (tt : TimeText) (incident : IncidentRecord)
    (auditEvents : List ListedEvent) : IncidentReport :=
  let timeline := buildIncidentTimeline tt incident auditEvents
  { incidentId := incident.incidentId
    incidentTimeline := timeline
    metrics := calculateOperationalMetrics tt incident timeline auditEvents }

/-- `get_incident_report`. -/
def getIncidentReport (tt : TimeText) (mode : Mode) (w : World) (incidentId : String) :
    Except Exc IncidentReport :=
  match w.stored incidentId with
  | none => .error (.http 404 "incident not found")
  | some incident =>
    match listEvents tt mode w.events 1000 with
    | .error f => .error (.fault f)
    | .ok events => .ok (generateIncidentReport tt incident events)

/-- `create_incident_report`, at the time `now`. It records that there is a report. -/
def createIncidentReport (tt : TimeText) (mode : Mode) (now : Time) (w : World)
    (incidentId : String) : Except Exc IncidentReport × World :=
  match getIncidentReport tt mode w incidentId with
  | .error e => (.error e, w)
  | .ok report =>
    (.ok report, { w with
      events := w.events ++ [{ eventType := "incident_report_generated"
                               payload := [("incident_id", .str incidentId)]
                               createdAt := now }] })

end IncidentPlatform
