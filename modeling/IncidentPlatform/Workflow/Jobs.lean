import IncidentPlatform.Encoding.Repr
import IncidentPlatform.Workflow.Findings
import IncidentPlatform.Api.Handlers

/-!
# Queued routing jobs

`enqueue_route` pushes a JSON text, put together from the incident id as it is. The worker takes it
off the queue, decodes it and routes the incident. Whatever is raised in between is logged, and the
job is gone.

The programs here have one operation for each awaited call. Nothing is assumed of the answers but
that a record has the id it was looked up by, and that a route returns the record it was given,
which their types say. `processJob_interp` puts the calls of the code back.
-/

namespace IncidentPlatform

open Interaction Encoding

inductive JobOp where
  | get (incidentId : PyStr)
  | rpush (payload : String)
  | executeRoute (incident : IncidentRecord)
  /-- `audit_store.append`, with the id that the payload starts with. -/
  | audit (eventType : String) (incidentId : PyStr) (details : Dict)

/-- The answer of a call, or its exception. -/
abbrev JobAns : JobOp → Type
  | .get incidentId =>
    Except Exc (Option {r : IncidentRecord // codePoints r.incidentId = incidentId})
  | .rpush _ => Except Exc Unit
  | .executeRoute incident => Except Exc {r : IncidentRecord // r.incidentId = incident.incidentId}
  | .audit _ _ _ => Except Exc Unit

abbrev JobProg := Prog JobOp JobAns Exc

/-- What `enqueue_route` pushes. -/
def jobPayload (incidentId : String) : String :=
  "\x7b\"incident_id\":\"" ++ incidentId ++ "\"\x7d"

/-- `enqueue_route`. -/
def enqueueRoute (incidentId : String) : JobProg Dict := do
  match ← Prog.ofExcept (← Prog.op (JobOp.get (codePoints incidentId))) with
  | none => .raise (.http 404 "incident not found")
  | some _ => do
    Prog.ofExcept (← Prog.op (JobOp.rpush (jobPayload incidentId)))
    Prog.ofExcept (← Prog.op (JobOp.audit "worker_job_enqueued" (codePoints incidentId) []))
    pure [("incident_id", .str incidentId), ("status", .str "queued")]

/-- `_process_incident`, once it knows whether there is an incident. -/
def processFound (incidentId : PyStr) :
    Option {r : IncidentRecord // codePoints r.incidentId = incidentId} → JobProg Unit
  | none => do
    Prog.ofExcept (← Prog.op
      (JobOp.audit "worker_job_failed" incidentId [("reason", .str "incident_not_found")]))
  | some incident => do
    let updated ← Prog.ofExcept (← Prog.op (JobOp.executeRoute incident.1))
    Prog.ofExcept (← Prog.op (JobOp.audit "worker_job_completed"
      (codePoints updated.1.incidentId) [("state", .str updated.1.state.value)]))

/-- `_process_incident`. -/
def processJob (incidentId : PyStr) : JobProg Unit := do
  processFound incidentId (← Prog.ofExcept (← Prog.op (JobOp.get incidentId)))

section

variable (py : Python)

/-- `str(json.loads(payload)["incident_id"])`, unless it raises. -/
def decodeJob (payload : String) : Option PyStr :=
  ((loads py payload.toList).bind (Json.getItem (codePoints "incident_id"))).map (Json.toStr py)

/-- What `run_forever` does with an item, in its `try` block. -/
def work (payload : String) : JobProg Unit :=
  match decodeJob py payload with
  | none => .raise (.fault .other)
  | some incidentId => processJob incidentId

/-- An iteration of `run_forever`. Exceptions are logged. -/
def workerIteration : Option String → JobProg Unit
  | none => pure ()
  | some payload => do
    let _ ← (work py payload).attempt
    pure ()

/-- `run_forever`, for these answers of the queue. -/
def runForever : List (Option String) → JobProg Unit
  | [] => pure ()
  | item :: items => do
    workerIteration py item
    runForever items

end

/-! ## The calls in their places -/

/-- Nothing is asked of findings and answers. -/
def idleMonitor : FlowMonitor Unit where
  stored _ _ := True
  fair _ _ _ := True
  next _ _ _ := ()
  uneventful _ _ _ _ := ⟨trivial, rfl⟩

/-- A route returns the incident it was given. -/
theorem executeRoute_incidentId (cfg : Settings) (worker : Bool) (r : IncidentRecord) :
    (executeRoute cfg worker r).Yields fun r' ↦ r'.incidentId = r.incidentId := by
  have hloop : idleMonitor.Keeps fun _ f ↦ f.incidentId = r.incidentId :=
    ⟨fun _ _ _ ↦ trivial, fun _ _ h ↦ h, fun _ h ↦ Or.inl ⟨trivial, h⟩,
      fun _ h ↦ Or.inl ⟨trivial, h⟩, fun _ h ↦ Or.inl ⟨trivial, h⟩⟩
  have hlinear : idleMonitor.KeepsLinear fun _ f ↦ f.incidentId = r.incidentId :=
    ⟨fun _ _ _ ↦ trivial, fun _ h ↦ Or.inl ⟨trivial, h⟩, fun _ h ↦ Or.inl ⟨trivial, h⟩,
      fun _ h ↦ Or.inl ⟨trivial, h⟩⟩
  rw [← Flow.executeRoute_interp]
  refine Prog.Yields.interp (Prog.Agrees.yields (M := idleMonitor.monitor) (n := ()) ?_ ?_)
  · intro _ o a
    rcases o with _ | _ | _ | _ | _ | _ | o
    case world => cases o <;> trivial
    all_goals trivial
  · rw [Flow.executeRoute]
    split_ifs
    · exact Flow.runDecisionLoopRoute_agrees worker hloop cfg rfl
    · exact Flow.runLinearRoute_agrees worker hlinear cfg rfl

/-- The text that is a Python string, for one without surrogates. -/
def PyStr.text (s : PyStr) : String := String.ofList (s.map Char.ofNat)

theorem text_codePoints (s : String) : PyStr.text (codePoints s) = s := by
  have hchars : (s.toList.map Char.toNat).map Char.ofNat = s.toList := by
    rw [List.map_map]
    exact (List.map_congr_left fun c _ ↦ Char.ofNat_toNat c).trans (List.map_id _)
  rw [PyStr.text, codePoints, hchars, String.ofList_toList]

section

variable (cfg : Settings)

/-- A record that was found, if it is the right one. -/
def known (incidentId : PyStr) (r : IncidentRecord) :
    Option {r : IncidentRecord // codePoints r.incidentId = incidentId} :=
  if h : codePoints r.incidentId = incidentId then some ⟨r, h⟩ else none

/-- `repository.get`. -/
def lookupRecord (incidentId : PyStr) :
    Handler (Option {r : IncidentRecord // codePoints r.incidentId = incidentId}) := do
  let found ← perform (.get (PyStr.text incidentId))
  pure (found.bind (known incidentId))

/-- What is awaited, with `push` in the place of `rpush`. -/
def JobOp.awaited (push : String → Handler Unit) : (o : JobOp) → Handler (JobAns o)
  | .get incidentId => (lookupRecord incidentId).attempt
  | .rpush payload => (push payload).attempt
  | .executeRoute incident =>
    ((IncidentPlatform.executeRoute cfg true incident).attach
      (executeRoute_incidentId cfg true incident)).attempt
  | .audit eventType incidentId details => (perform (.audit eventType
      (("incident_id", .str (PyStr.text incidentId)) :: details))).attempt

theorem audit_interp (push : String → Handler Unit) (eventType incidentId : String)
    (details : Dict) :
    ((Prog.op (JobOp.audit eventType (codePoints incidentId) details)).bind Prog.ofExcept).interp
        (JobOp.awaited cfg push)
      = perform (.audit eventType (("incident_id", .str incidentId) :: details)) := by
  change Prog.call (Op.audit eventType
    (("incident_id", .str (PyStr.text (codePoints incidentId))) :: details)) _ = _
  rw [text_codePoints]
  rfl

theorem processFound_none (push : String → Handler Unit) (incidentId : String) :
    (processFound (codePoints incidentId) none).interp (JobOp.awaited cfg push)
      = perform (.audit "worker_job_failed"
        [("incident_id", .str incidentId), ("reason", .str "incident_not_found")]) :=
  audit_interp cfg push _ _ _

theorem processFound_some (push : String → Handler Unit) {incidentId : PyStr}
    (incident : {r : IncidentRecord // codePoints r.incidentId = incidentId}) :
    (processFound incidentId (some incident)).interp (JobOp.awaited cfg push)
      = (executeRoute cfg true incident.1).bind fun updated ↦
        perform (.audit "worker_job_completed"
          [("incident_id", .str updated.incidentId), ("state", .str updated.state.value)]) := by
  rw [processFound]
  simp only [Prog.bind_eq]
  rw [Prog.interp_bind, Prog.interp_op, JobOp.awaited]
  simp only [Prog.interp_bind (Prog.ofExcept _), Prog.interp_ofExcept]
  rw [Prog.attempt_bind]
  refine Eq.trans ?_ (Prog.attach_bind (executeRoute_incidentId cfg true incident.1) _)
  exact congrArg (Prog.bind _) (funext fun updated ↦ audit_interp cfg push _ _ _)

/-- **With the calls of the code it is `_process_incident`**, as long as a record that is found has
the id it was looked up by. -/
theorem processJob_interp (push : String → Handler Unit) {σ : Type*}
    {serve : σ → (o : Op) → Ans o × σ}
    (hget : ∀ s incidentId r, (serve s (.get incidentId)).1 = some r → r.incidentId = incidentId)
    (incidentId : String) (s : σ) :
    ((processJob (codePoints incidentId)).interp (JobOp.awaited cfg push)).run serve s
      = (processIncident cfg incidentId).run serve s := by
  have hlookup : lookupRecord (codePoints incidentId)
      = (perform (.get incidentId)).bind fun found ↦
        pure (found.bind (known (codePoints incidentId))) := by
    rw [lookupRecord, text_codePoints]
    rfl
  rw [processJob]
  simp only [Prog.bind_eq, Prog.interp_bind, Prog.interp_op, Prog.interp_ofExcept, JobOp.awaited,
    Prog.attempt_bind, hlookup]
  change (Prog.call (.get incidentId) _).run serve s = (Prog.call (.get incidentId) _).run serve s
  rw [Prog.run_call, Prog.run_call]
  rcases hfound : (serve s (.get incidentId)).1 with _ | r
  · change ((processFound _ none).interp _).run _ _ = _
    rw [processFound_none]
    rfl
  · have hr : codePoints r.incidentId = codePoints incidentId := congrArg _ (hget s _ r hfound)
    change ((processFound _ (known _ r)).interp _).run _ _ = _
    rw [show known (codePoints incidentId) r = some ⟨r, hr⟩ from dif_pos hr, processFound_some]
    rfl

end

end IncidentPlatform
