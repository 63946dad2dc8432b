import IncidentPlatform.Api.Calendar
import IncidentPlatform.Api.Reports

/-!
# The timeline of an incident

A timeline is put together from three sources and sorted by its texts. With the texts of
`isoformat` that is the order of time, and nothing is lost or doubled on the way.
-/

namespace IncidentPlatform

open Encoding

/-- The time is one of a `datetime`. -/
def Dated (time : Time) : Prop := ∃ d : DateTime, time = (d.micros : ℤ)

section

variable (tt : TimeText) (incident : IncidentRecord) (auditEvents : List ListedEvent)

/-- The item a timeline has for the detection. -/
def detectionItem : TimelineItem where
  timestamp := tt.isoformat incident.metadata.occurredAt
  phase := "detect"
  event := "incident_detected"
  summary := incident.metadata.symptom

/-- What belongs in a timeline. -/
def timelineItems : List TimelineItem :=
  detectionItem tt incident ::
    (auditEvents.filter fun e ↦ ofIncident incident.incidentId e.payload).map
        (ListedEvent.item tt) ++
      incident.executionTrace.map (ExecutionTraceEntry.item tt)

theorem buildIncidentTimeline_perm :
    (buildIncidentTimeline tt incident auditEvents).Perm
      (timelineItems tt incident auditEvents) := by
  refine (List.perm_insertionSort _ _).trans ?_
  exact (((List.perm_insertionSort _ _).map (ListedEvent.item tt)).append_right _).cons _

instance earlier_trans : IsTrans TimelineItem fun a b ↦ a.timestamp ≤ b.timestamp :=
  ⟨fun _ _ _ hab hbc ↦ hab.trans hbc⟩

instance earlier_total : Std.Total fun a b : TimelineItem ↦ a.timestamp ≤ b.timestamp :=
  ⟨fun a b ↦ le_total a.timestamp b.timestamp⟩

theorem buildIncidentTimeline_sorted :
    (buildIncidentTimeline tt incident auditEvents).Pairwise
      fun a b ↦ a.timestamp ≤ b.timestamp := by
  rw [buildIncidentTimeline]
  exact List.pairwise_insertionSort _ _

variable {tt incident auditEvents}

/-- Every item bears the text of a time. -/
theorem timestamp_of_mem_timelineItems (hiso : tt.WritesIso)
    (hoccurred : Dated incident.metadata.occurredAt)
    (htrace : ∀ entry ∈ incident.executionTrace, Dated entry.createdAt)
    (hevents : ∀ e ∈ auditEvents, ∃ d : DateTime, e.createdAt = d.isoformat)
    {item : TimelineItem} (hitem : item ∈ timelineItems tt incident auditEvents) :
    ∃ d : DateTime, item.timestamp = d.isoformat := by
  have hdated {time : Time} (h : Dated time) : ∃ d : DateTime, tt.isoformat time = d.isoformat := by
    obtain ⟨d, rfl⟩ := h
    exact ⟨d, hiso d⟩
  rcases List.mem_cons.mp hitem with rfl | hitem
  · exact hdated hoccurred
  rcases List.mem_append.mp hitem with hitem | hitem
  · obtain ⟨e, he, rfl⟩ := List.mem_map.mp hitem
    exact hevents e (List.mem_filter.mp he).1
  · obtain ⟨entry, hentry, rfl⟩ := List.mem_map.mp hitem
    exact hdated (htrace entry hentry)

end

/-- **A timeline has one item for the detection, one for each event of the incident and one for
each entry of the trace, in the order of time.** -/
theorem timeline_complete (tt : TimeText) (hiso : tt.WritesIso) (incident : IncidentRecord)
    (auditEvents : List ListedEvent) (hoccurred : Dated incident.metadata.occurredAt)
    (htrace : ∀ entry ∈ incident.executionTrace, Dated entry.createdAt)
    (hevents : ∀ e ∈ auditEvents, ∃ d : DateTime, e.createdAt = d.isoformat) :
    (buildIncidentTimeline tt incident auditEvents).Perm (timelineItems tt incident auditEvents) ∧
      (∀ item ∈ buildIncidentTimeline tt incident auditEvents,
        ∃ d : DateTime, item.timestamp = d.isoformat) ∧
      (buildIncidentTimeline tt incident auditEvents).Pairwise fun a b ↦
        ∀ d d' : DateTime, a.timestamp = d.isoformat → b.timestamp = d'.isoformat →
          d.micros ≤ d'.micros := by
  have hperm := buildIncidentTimeline_perm tt incident auditEvents
  refine ⟨hperm, fun item hitem ↦ ?_, ?_⟩
  · exact timestamp_of_mem_timelineItems hiso hoccurred htrace hevents (hperm.mem_iff.mp hitem)
  · refine (buildIncidentTimeline_sorted tt incident auditEvents).imp fun hle d d' ha hb ↦ ?_
    rw [ha, hb] at hle
    exact isoformat_le_iff.mp hle

/-- A quarter of a second later. -/
def pastNoon : DateTime := { noon with microsecond := 250000, microsecond_lt := by decide }

example : pastNoon.isoformat = "2026-03-19T12:00:00.250000" := by decide +kernel

/-- An incident of noon, with an entry in its trace. -/
def noonIncident : IncidentRecord :=
  { checkoutIncident with
    metadata := { checkoutIncident.metadata with occurredAt := (noon.micros : ℤ) }
    executionTrace :=
      [{ traceId := "tr_1", phase := "execute", createdAt := (pastNoon.micros : ℤ) }] }

/-- An execution at noon. -/
def noonEvent : ListedEvent where
  eventType := "action_executed"
  payload := [("incident_id", .str "inc_1")]
  createdAt := noon.isoformat

theorem noon_timeline_complete :
    (buildIncidentTimeline TimeText.calendar noonIncident [noonEvent]).Perm
      (timelineItems TimeText.calendar noonIncident [noonEvent]) :=
  (timeline_complete TimeText.calendar TimeText.calendar_writesIso noonIncident [noonEvent]
    ⟨noon, rfl⟩ (fun _ hentry ↦ ⟨pastNoon, by rw [List.mem_singleton.mp hentry]⟩)
    fun _ he ↦ ⟨noon, by rw [List.mem_singleton.mp he]; rfl⟩).1

end IncidentPlatform
