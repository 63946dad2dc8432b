import IncidentPlatform.Execution.CheckoutService
import IncidentPlatform.Interaction.Pool
import IncidentPlatform.Workflow.Jobs

/-!
# The queue of routing jobs

Requests to `POST /route-async/{incident_id}` push jobs, workers take them off: `enqueueRoute` and
`run_forever`, any number of each, over one Redis list. Every call can fail, and what fails may have
taken effect: a push or an audit event may be there without an answer, and a job may have been taken
off the list without reaching a worker.

The repository and the route are not modelled here, their answers are arbitrary.
-/

namespace IncidentPlatform

open Interaction Encoding

/-! ## Programs -/

inductive QueueOp where
  | job (o : JobOp)
  /-- `blpop`; `none` when it has waited in vain. -/
  | blpop

abbrev QueueAns : QueueOp → Type
  | .job o => JobAns o
  | .blpop => Except Exc (Option String)

abbrev QueueProg := Prog QueueOp QueueAns Exc

/-- The calls of a job, next to `blpop`. -/
def onQueue {α : Type} (p : JobProg α) : QueueProg α := p.interp fun o ↦ Prog.op (.job o)

/-- `run_forever`, for some iterations. An exception of `blpop` ends it. -/
def runWorker (py : Python) : ℕ → QueueProg Unit
  | 0 => pure ()
  | n + 1 => do
    let item ← Prog.ofExcept (← Prog.op QueueOp.blpop)
    onQueue (workerIteration py item)
    runWorker py n

/-- Who takes part. -/
inductive JobParty where
  | request (incidentId : String)
  | worker (iterations : ℕ)

def JobParty.program (py : Python) : JobParty → QueueProg Unit
  | request incidentId => do
    let _ ← onQueue (enqueueRoute incidentId)
    pure ()
  | worker iterations => runWorker py iterations

/-! ## The service -/

structure JobQueue where
  queue : List String := []
  /-- Every job that was ever on the queue. -/
  pushed : List String := []
  /-- Every job that was taken off, and whether it reached the worker. -/
  popped : List (String × Bool) := []
  /-- Every audit event that was to be written, and whether it was. -/
  audited : List ((String × PyStr) × Bool) := []
  /-- The number of calls that raised. -/
  raised : ℕ := 0
  tick : ℕ := 0

/-- What the repository, the route and the network do at each tick. -/
structure JobEnv where
  get : ℕ → (incidentId : PyStr) → JobAns (.get incidentId)
  executeRoute : ℕ → (incident : IncidentRecord) → JobAns (.executeRoute incident)
  deliver : ℕ → Delivery

/-- The answer of a call that is delivered. -/
def Delivery.answer {α : Type} (d : Delivery) (a : α) : Except Exc α :=
  match d with
  | arrives => .ok a
  | lost f | unanswered f => .error (.fault f)

/-- The answer arrives. -/
def Delivery.answers : Delivery → Bool
  | arrives => true
  | lost _ | unanswered _ => false

/-- A call has been answered, or has raised. -/
def JobQueue.answered {α : Type} (s : JobQueue) (a : Except Exc α) : JobQueue :=
  { s with
    raised := if a.isOk then s.raised else s.raised + 1
    tick := s.tick + 1 }

section

variable (env : JobEnv) (s : JobQueue)

def JobQueue.push (payload : String) : JobQueue :=
  if (env.deliver s.tick).reaches then
    { s with queue := s.queue ++ [payload], pushed := s.pushed ++ [payload] }
  else s

def JobQueue.pop : Option String × JobQueue :=
  match s.queue with
  | [] => (none, s)
  | payload :: queue =>
    (some payload,
      if (env.deliver s.tick).reaches then
        { s with queue, popped := s.popped ++ [(payload, (env.deliver s.tick).answers)] }
      else s)

def serveJobs : (o : QueueOp) → QueueAns o × JobQueue
  | .job (.get incidentId) =>
    (env.get s.tick incidentId, s.answered (env.get s.tick incidentId))
  | .job (.executeRoute incident) =>
    (env.executeRoute s.tick incident, s.answered (env.executeRoute s.tick incident))
  | .job (.rpush payload) =>
    ((env.deliver s.tick).answer (),
      (s.push env payload).answered ((env.deliver s.tick).answer ()))
  | .job (.audit eventType incidentId _) =>
    ((env.deliver s.tick).answer (),
      { s with
        audited := s.audited ++ [((eventType, incidentId), (env.deliver s.tick).reaches)] }.answered
          ((env.deliver s.tick).answer ()))
  | .blpop =>
    ((env.deliver s.tick).answer (s.pop env).1,
      (s.pop env).2.answered ((env.deliver s.tick).answer (s.pop env).1))

end

/-! ## What a worker is at -/

/-- The job of a worker. -/
structure WorkerJob where
  /-- The job it has taken, and not yet written its event for. -/
  pending : Option String := none
  /-- A call has raised since it took the job. -/
  raised : Bool := false
  /-- The jobs it took and wrote no event for. -/
  dropped : List String := []

/-- The events that account for a job. -/
def accounting : List String := ["worker_job_completed", "worker_job_failed"]

/-- The job is let go. -/
def WorkerJob.drop (m : WorkerJob) : WorkerJob :=
  { m with pending := none, dropped := m.dropped ++ m.pending.toList }

def WorkerJob.heard {α : Type} (m : WorkerJob) (a : Except Exc α) : WorkerJob :=
  { m with raised := m.raised || !a.isOk }

/-- A worker accounts for the job it has taken, once, and takes another one only if it has, or after
an exception. -/
def jobContract (py : Python) : Contract QueueOp QueueAns WorkerJob where
  guar m
    | .job (.audit eventType incidentId _) => eventType ∈ accounting →
      ∃ payload, m.pending = some payload ∧ decodeJob py payload = some incidentId
    | .blpop => ∀ payload ∈ m.pending, m.raised = true ∨ decodeJob py payload = none
    | _ => True
  rely _ _ _ := True
  next m
    | .job (.audit eventType _ _), answer =>
      if eventType ∈ accounting then { m.heard answer with pending := none } else m.heard answer
    | .job (.get _), answer => m.heard answer
    | .job (.rpush _), answer => m.heard answer
    | .job (.executeRoute _), answer => m.heard answer
    | .blpop, .ok (some payload) => { m.drop with pending := some payload, raised := false }
    | .blpop, .ok none => m.drop
    | .blpop, .error _ => { m.drop with raised := true }

end IncidentPlatform
