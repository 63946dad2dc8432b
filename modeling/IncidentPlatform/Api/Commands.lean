import IncidentPlatform.Api.Handlers
import IncidentPlatform.Persistence.HotState

/-!
# The calls, command by command

Every endpoint uses the provider of the module it is written in. `Call.marked` is the handler of
a call over the commands, with the operations of each run of `execute_route` marked by the id of
the incident that is routed. `Call.marked_erase` says that the marks are all it adds: without them
it is the handler itself, every operation on the hot state replaced by its commands.
-/

namespace IncidentPlatform

open Interaction

/-- The provider of a call's endpoint, and the expiry of the entries it sets. -/
def Call.hotClient : Call → HotClient
  | .ingest _ => ⟨.ingress, 300⟩
  | .createAlert _ _ => ⟨.main, 300⟩
  | _ => ⟨.router, 30⟩

/-! ## Marked programs -/

section

variable {α β : Type}

/-- A part of the router outside `execute_route`. -/
def outside (p : Handler α) : HotProg α := p.interp (commands ⟨.router, 30⟩ none)

/-- A run of `execute_route` for an incident. -/
def during (incidentId : String) (p : Handler α) : HotProg α :=
  p.interp (commands ⟨.router, 30⟩ (some incidentId))

/-- `routeLocked`. -/
def markedRouteLocked (cfg : Settings) (incidentId : String) (incident : IncidentRecord) :
    HotProg IncidentRecord := do
  let updated ← during incidentId (executeRoute cfg false incident)
  let plan ← outside (orHttp updated.responsePlan 500 "response plan missing after routing")
  outside (perform (.audit "incident_routed"
    [("incident_id", .str incidentId), ("response_plan", .dict plan.modelDump)]))
  pure updated

/-- `routeIncident`. -/
def markedRouteIncident (cfg : Settings) (incidentId : String) : HotProg IncidentRecord := do
  let hex ← outside (perform .uuid4)
  let lockToken := "token_" ++ hex
  let lockKey := "incident_lock:" ++ incidentId
  let acquired ← outside (perform (.setIfAbsent lockKey lockToken))
  outside (ensure acquired 423 "incident is currently being routed")
  match ← outside (perform (.get incidentId)) with
  | none => do
    let _ ← outside (perform (.releaseLock lockKey lockToken))
    .raise (.http 404 "incident not found")
  | some incident =>
    Prog.cleanup (outside (discard (perform (.releaseLock lockKey lockToken))))
      (markedRouteLocked cfg incidentId incident)

/-- `investigateIncident`. -/
def markedInvestigateIncident (cfg : Settings) (incidentId : String) :
    HotProg IncidentRecord := do
  let routed ← markedRouteIncident cfg incidentId
  outside do
    let _ ← createPlan cfg incidentId
    orHttp (← perform (.get routed.incidentId)) 404 "incident not found after investigation"

/-- `processIncident`. -/
def markedProcessIncident (cfg : Settings) (incidentId : String) : HotProg Unit := do
  match ← outside (perform (.get incidentId)) with
  | none => outside (perform (.audit "worker_job_failed"
      [("incident_id", .str incidentId), ("reason", .str "incident_not_found")]))
  | some incident => do
    let updated ← during incidentId (executeRoute cfg true incident)
    outside (perform (.audit "worker_job_completed"
      [("incident_id", .str updated.incidentId), ("state", .str updated.state.value)]))

/-- The handler of a call, command by command. -/
def Call.marked (cfg : Settings) : Call → HotProg Unit
  | .routeIncident incidentId => do
    let _ ← markedRouteIncident cfg incidentId
    pure ()
  | .investigateIncident incidentId => do
    let _ ← markedInvestigateIncident cfg incidentId
    pure ()
  | .processIncident incidentId => markedProcessIncident cfg incidentId
  | call => (call.handler cfg).interp (commands call.hotClient none)

/-! ## Without the marks -/

/-- The command without its mark. -/
def erase : (c : Command) → HotProg c.Ans
  | .world _ o => send (.world none o)
  | c => send c

theorem erase_total (c : Command) : (erase c).Total := by
  cases c <;> exact send_total _

theorem commands_erase (client : HotClient) (routing : Option String) (o : Op) :
    (commands client routing o).interp erase = commands client none o := by
  cases o with
  | setIfAbsent key value =>
    refine Prog.Issues.interp_eq ((setIfAbsent_issues _ _ _ _).mono fun c hc ↦ ?_)
    cases c <;> trivial
  | releaseLock key token =>
    exact Prog.Issues.interp_eq ((releaseLock_issues _ _ _).mono fun c hc ↦ by cases c <;> trivial)
  | _ => rfl

theorem interp_commands_erase (client : HotClient) (routing : Option String) (p : Handler α) :
    (p.interp (commands client routing)).interp erase = p.interp (commands client none) := by
  rw [Prog.interp_interp]
  exact congrArg (Prog.interp · p) (funext (commands_erase client routing))

/-- `p` is the router's `q` with some runs marked. -/
def Marks (p : HotProg α) (q : Handler α) : Prop := p.interp erase = outside q

namespace Marks

theorem outside (q : Handler α) : Marks (outside q) q := interp_commands_erase _ _ q

theorem during (incidentId : String) (q : Handler α) : Marks (during incidentId q) q :=
  interp_commands_erase _ _ q

theorem ret (a : α) : Marks (pure a) (pure a) := rfl

theorem raise (e : Exc) : Marks (.raise e : HotProg α) (.raise e) := rfl

theorem bind {p : HotProg α} {q : Handler α} {f : α → HotProg β} {g : α → Handler β}
    (hp : Marks p q) (hf : ∀ a, Marks (f a) (g a)) : Marks (p >>= f) (q >>= g) := by
  have hsplit : (p >>= f).interp erase = p.interp erase >>= fun a ↦ (f a).interp erase :=
    Prog.interp_bind p f
  rw [Marks, hsplit, hp, funext fun a ↦ hf a]
  exact (Prog.interp_bind q g).symm

theorem cleanup {fin : HotProg Unit} {fin' : Handler Unit} {p : HotProg α} {q : Handler α}
    (hfin : Marks fin fin') (hp : Marks p q) :
    Marks (Prog.cleanup fin p) (Prog.cleanup fin' q) := by
  rw [Marks, Prog.interp_cleanup erase_total, hfin, hp]
  exact (Prog.interp_cleanup (commands_total _ _) fin' q).symm

end Marks

theorem markedRouteLocked_marks (cfg : Settings) (incidentId : String) (r : IncidentRecord) :
    Marks (markedRouteLocked cfg incidentId r) (routeLocked cfg incidentId r) :=
  (Marks.during _ _).bind fun _ ↦ (Marks.outside _).bind fun _ ↦
    (Marks.outside _).bind fun _ ↦ Marks.ret _

theorem markedRouteIncident_marks (cfg : Settings) (incidentId : String) :
    Marks (markedRouteIncident cfg incidentId) (routeIncident cfg incidentId) := by
  refine (Marks.outside _).bind fun hex ↦ (Marks.outside _).bind fun acquired ↦
    (Marks.outside _).bind fun _ ↦ (Marks.outside _).bind fun answer ↦ ?_
  cases answer with
  | none => exact (Marks.outside _).bind fun _ ↦ Marks.raise _
  | some r => exact (Marks.outside _).cleanup (markedRouteLocked_marks cfg incidentId r)

theorem markedInvestigateIncident_marks (cfg : Settings) (incidentId : String) :
    Marks (markedInvestigateIncident cfg incidentId) (investigateIncident cfg incidentId) :=
  (markedRouteIncident_marks cfg incidentId).bind fun _ ↦ Marks.outside _

theorem markedProcessIncident_marks (cfg : Settings) (incidentId : String) :
    Marks (markedProcessIncident cfg incidentId) (processIncident cfg incidentId) := by
  refine (Marks.outside _).bind fun answer ↦ ?_
  cases answer with
  | none => exact Marks.outside _
  | some r => exact (Marks.during _ _).bind fun _ ↦ Marks.outside _

/-- **The marks are all that is added.** Without them, the commands of a call are its handler, with
every operation on the hot state replaced by what the provider does for it. -/
theorem Call.marked_erase (cfg : Settings) (call : Call) :
    (call.marked cfg).interp erase
      = (call.handler cfg).interp (commands call.hotClient none) := by
  cases call with
  | routeIncident incidentId =>
    exact (markedRouteIncident_marks cfg incidentId).bind fun _ ↦ Marks.ret _
  | investigateIncident incidentId =>
    exact (markedInvestigateIncident_marks cfg incidentId).bind fun _ ↦ Marks.ret _
  | processIncident incidentId => exact markedProcessIncident_marks cfg incidentId
  | _ => exact interp_commands_erase _ _ _

end

end IncidentPlatform
