import IncidentPlatform.Interaction.Window
import IncidentPlatform.Persistence.World

/-!
# Reading the audit log

`list_events` of `apps/api/routers/audit/store.py`. The limit is applied by the store, to the events
of all incidents. Postgres orders by `created_at`; among rows of one time its order is unspecified,
and taken here to be that of the inserts. Times become text on the way out.
-/

namespace IncidentPlatform

/-- The functions of the Python runtime that turn times and payloads into text and back. -/
structure TimeText where
  /-- `t.isoformat()`. -/
  isoformat : Time → String
  /-- `datetime.fromisoformat(s.replace("Z", "+00:00")).replace(tzinfo=None)`, `none` for the
  `ValueError`. -/
  parse : String → Option Time
  /-- `json.dumps(payload, default=str, sort_keys=True)`. -/
  dumps : Dict → String
  /-- `round(x, 2)`. -/
  round : ℚ → ℚ

/-- An event as `list_events` returns it. -/
structure ListedEvent where
  eventType : String
  payload : Dict
  createdAt : String

def AuditEvent.listed (tt : TimeText) (event : AuditEvent) : ListedEvent where
  eventType := event.eventType
  payload := event.payload
  createdAt := tt.isoformat event.createdAt

/-- `events[start:]`. -/
def sliceFrom (start : ℤ) (events : List AuditEvent) : List AuditEvent :=
  events.drop (if start < 0 then (events.length + start).toNat else start.toNat)

/-- `ORDER BY created_at DESC`. -/
def orderedNewest (events : List AuditEvent) : List AuditEvent :=
  events.insertionSort fun a b ↦ b.createdAt ≤ a.createdAt

/-- `AuditStore.list_events`. Postgres refuses a negative limit. -/
def listEvents (tt : TimeText) (mode : Mode) (events : List AuditEvent) (limit : ℤ) :
    Except Fault (List ListedEvent) :=
  match mode with
  | .fallback => .ok ((sliceFrom (-limit) events).reverse.map (AuditEvent.listed tt))
  | .postgres =>
    if limit < 0 then .error .databaseError
    else .ok (((orderedNewest events).take limit.toNat).map (AuditEvent.listed tt))

/-! ## The window -/

/-- The log as it is listed, newest first. -/
def newestFirst (mode : Mode) (events : List AuditEvent) : List AuditEvent :=
  match mode with
  | .postgres => orderedNewest events
  | .fallback => events.reverse

/-- How many of the newest of `n` events are listed. In fallback mode the limit is the negated start
of a slice, so `0` lists everything, and a negative limit leaves out the oldest. -/
def window (mode : Mode) (limit : ℤ) (n : ℕ) : ℕ :=
  match mode with
  | .postgres => limit.toNat
  | .fallback => if 0 < limit then limit.toNat else if limit = 0 then n else (n + limit).toNat

/-- What is listed is a window on the log. -/
theorem listEvents_eq (tt : TimeText) (mode : Mode) (events : List AuditEvent) (limit : ℤ) :
    listEvents tt mode events limit =
      if mode = .postgres ∧ limit < 0 then .error .databaseError
      else .ok (((newestFirst mode events).take (window mode limit events.length)).map
        (AuditEvent.listed tt)) := by
  cases mode with
  | postgres =>
    unfold listEvents newestFirst window
    simp
  | fallback =>
    rw [if_neg (by simp)]
    unfold listEvents newestFirst window sliceFrom
    dsimp only
    rw [List.take_reverse]
    congr 3
    rw [List.drop_eq_drop_iff]
    split_ifs <;> omega

instance newer_trans : IsTrans AuditEvent fun a b ↦ b.createdAt ≤ a.createdAt :=
  ⟨fun _ _ _ hab hbc ↦ hbc.trans hab⟩

instance newer_total : Std.Total fun a b : AuditEvent ↦ b.createdAt ≤ a.createdAt :=
  ⟨fun a b ↦ le_total b.createdAt a.createdAt⟩

/-- Logs that keep the same keep it in the same order when they are listed. -/
theorem filter_newestFirst {p : AuditEvent → Bool} {events events' : List AuditEvent}
    (mode : Mode) (h : events.filter p = events'.filter p) :
    (newestFirst mode events).filter p = (newestFirst mode events').filter p := by
  cases mode with
  | postgres =>
    unfold newestFirst orderedNewest
    dsimp only
    rw [Interaction.filter_insertionSort, Interaction.filter_insertionSort, h]
  | fallback =>
    unfold newestFirst
    dsimp only
    rw [List.filter_reverse, List.filter_reverse, h]

end IncidentPlatform
