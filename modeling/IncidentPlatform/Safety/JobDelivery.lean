import IncidentPlatform.Safety.Accounting
import IncidentPlatform.Workflow.JobQueue
import Mathlib.Algebra.BigOperators.Ring.Finset
import Mathlib.Data.Fintype.BigOperators

/-!
# No job is accounted for twice

The books of the queue, `Balanced`: what was pushed was taken off in the same order or is still
waiting, and a job that has reached a worker is accounted for by one event, or its worker is at it,
or has dropped it. Whatever fails and however requests and workers interleave, **`jobs_balance`**
follows: there are never more events for an incident than jobs, and without a failure the two differ
by the jobs that are waiting or in progress.
-/

namespace IncidentPlatform

open Interaction Encoding

/-! ## The books -/

section

variable (py : Python) (incidentId : PyStr)

/-- The job is for the incident. -/
def isJobFor (payload : String) : Bool := decide (decodeJob py payload = some incidentId)

/-- The jobs of the incident that reached a worker. -/
def JobQueue.delivered (s : JobQueue) : ℕ :=
  s.popped.countP fun job ↦ job.2 && isJobFor py incidentId job.1

/-- The event accounts for a job of the incident. -/
def accountsFor (event : String × PyStr) : Bool :=
  decide (event.1 ∈ accounting) && decide (event.2 = incidentId)

/-- The events that were to account for a job of the incident. -/
def JobQueue.attempted (s : JobQueue) : ℕ :=
  s.audited.countP fun event ↦ accountsFor incidentId event.1

/-- Those that were written. -/
def JobQueue.accounted (s : JobQueue) : ℕ :=
  s.audited.countP fun event ↦ event.2 && accountsFor incidentId event.1

/-- The jobs of the incident that a worker is at. -/
def WorkerJob.inProgress (m : WorkerJob) : ℕ := m.pending.toList.countP (isJobFor py incidentId)

/-- Those, and the ones it has dropped. -/
def WorkerJob.held (m : WorkerJob) : ℕ :=
  (m.dropped ++ m.pending.toList).countP (isJobFor py incidentId)

end

/-- A worker has heard no exception, and drops only what it cannot decode. -/
def Attentive (py : Python) (m : WorkerJob) : Prop :=
  m.raised = false ∧ ∀ payload ∈ m.dropped, decodeJob py payload = none

/-- The books of a pool. -/
structure Balanced {ι : Type*} [Fintype ι] (py : Python) (s : JobQueue) (job : ι → WorkerJob) :
    Prop where
  order : s.pushed = s.popped.map Prod.fst ++ s.queue
  jobs : ∀ incidentId, s.delivered py incidentId
    = s.attempted incidentId + ∑ i, (job i).held py incidentId
  quiet : s.raised = 0 → (∀ job ∈ s.popped, job.2 = true) ∧
    (∀ event ∈ s.audited, event.2 = true) ∧
    ∀ i, Attentive py (job i)

section

variable {py : Python} {env : JobEnv} {s : JobQueue} {m : WorkerJob} {incidentId : PyStr}

theorem WorkerJob.held_drop (m : WorkerJob) : m.drop.held py incidentId = m.held py incidentId := by
  rw [held, held, drop]
  exact congrArg _ (List.append_nil _)

/-- Taking a job. -/
theorem WorkerJob.held_take (m : WorkerJob) (payload : String) :
    WorkerJob.held py incidentId { m.drop with pending := some payload, raised := false }
      = m.held py incidentId + [payload].countP (isJobFor py incidentId) :=
  List.countP_append

/-- Accounting for it. -/
theorem WorkerJob.held_account {α : Type} {payload : String} {id : PyStr} (a : Except Exc α)
    (hpending : m.pending = some payload) (hdecode : decodeJob py payload = some id) :
    m.held py incidentId
      = WorkerJob.held py incidentId { m.heard a with pending := none }
        + if id = incidentId then 1 else 0 := by
  have hjob : isJobFor py incidentId payload = decide (id = incidentId) := by
    rw [isJobFor, hdecode]
    exact decide_eq_decide.mpr Option.some_inj
  rw [held, held, hpending, Option.toList_some, List.countP_append, List.countP_singleton, hjob]
  simp [heard]

theorem JobQueue.push_eq (env : JobEnv) (s : JobQueue) (payload : String) :
    ∃ queue pushed, s.push env payload = { s with queue, pushed } := by
  rw [push]
  split_ifs
  · exact ⟨_, _, rfl⟩
  · exact ⟨_, _, rfl⟩

/-- What is taken off the queue reaches the worker if the answer does. -/
theorem JobQueue.pop_delivered (env : JobEnv) (s : JobQueue) :
    (s.pop env).2.audited = s.audited ∧ (s.pop env).2.delivered py incidentId
      = s.delivered py incidentId + if (env.deliver s.tick).answers then
          (s.pop env).1.toList.countP (isJobFor py incidentId) else 0 := by
  rw [pop]
  cases s.queue with
  | nil => simp
  | cons payload queue =>
    rcases env.deliver s.tick with _ | f | f
    · refine ⟨rfl, ?_⟩
      rw [delivered, delivered]
      simp [Delivery.reaches, Delivery.answers, List.countP_append]
    · exact ⟨rfl, rfl⟩
    · refine ⟨rfl, ?_⟩
      rw [delivered, delivered]
      simp [Delivery.reaches, Delivery.answers, List.countP_append]

/-- What one operation does to the books. -/
theorem serveJobs_balance (o : QueueOp) (hguar : (jobContract py).guar m o) :
    (serveJobs env s o).2.delivered py incidentId + s.attempted incidentId + m.held py incidentId
      = s.delivered py incidentId + (serveJobs env s o).2.attempted incidentId
        + ((jobContract py).next m o (serveJobs env s o).1).held py incidentId := by
  cases o with
  | blpop =>
    obtain ⟨haudited, hdelivered⟩ := @JobQueue.pop_delivered py incidentId env s
    have hattempted : (serveJobs env s .blpop).2.attempted incidentId = s.attempted incidentId :=
      congrArg (List.countP _) haudited
    rw [hattempted]
    change (s.pop env).2.delivered py incidentId + _ + _ = _
    rw [hdelivered]
    change _ = _ + _ + WorkerJob.held py incidentId ((jobContract py).next m .blpop
      ((env.deliver s.tick).answer (s.pop env).1))
    rcases env.deliver s.tick with _ | f | f
    · rcases (s.pop env).1 with _ | payload
      · change _ = _ + _ + m.drop.held py incidentId
        rw [m.held_drop]
        rfl
      · change _ = _ + _ + WorkerJob.held py incidentId
          { m.drop with pending := some payload, raised := false }
        rw [m.held_take]
        change _ + [payload].countP (isJobFor py incidentId) + _ + _ = _
        omega
    all_goals
      change _ + 0 + _ + _ = _ + _ + m.drop.held py incidentId
      rw [m.held_drop]
      rfl
  | job o =>
    cases o with
    | get id => rfl
    | executeRoute incident => rfl
    | rpush payload =>
      obtain ⟨queue, pushed, hpush⟩ := s.push_eq env payload
      change (s.push env payload).delivered py incidentId + _ + _
        = _ + (s.push env payload).attempted incidentId + _
      rw [hpush]
      rfl
    | audit eventType id details =>
      have hattempted :
          (serveJobs env s (.job (.audit eventType id details))).2.attempted incidentId
            = s.attempted incidentId + if accountsFor incidentId (eventType, id) then 1 else 0 :=
        List.countP_append.trans (congrArg _ List.countP_singleton)
      have hnext : (jobContract py).next m (.job (.audit eventType id details))
          ((env.deliver s.tick).answer ()) = if eventType ∈ accounting then
            { m.heard ((env.deliver s.tick).answer ()) with pending := none }
          else m.heard ((env.deliver s.tick).answer ()) := rfl
      rw [hattempted]
      change s.delivered py incidentId + _ + _ = _ + _ + WorkerJob.held py incidentId
        ((jobContract py).next m (.job (.audit eventType id details))
          ((env.deliver s.tick).answer ()))
      rw [hnext]
      by_cases haccounts : eventType ∈ accounting
      · obtain ⟨payload, hpending, hdecode⟩ := hguar haccounts
        have haccountsFor : accountsFor incidentId (eventType, id) = decide (id = incidentId) := by
          rw [accountsFor, decide_eq_true haccounts, Bool.true_and]
        rw [if_pos haccounts, haccountsFor, m.held_account ((env.deliver s.tick).answer ())
          hpending hdecode]
        simp only [decide_eq_true_eq]
        omega
      · have haccountsFor : accountsFor incidentId (eventType, id) = false := by
          rw [accountsFor, decide_eq_false haccounts, Bool.false_and]
        rw [if_neg haccounts, haccountsFor]
        rfl

/-- The order of the queue. -/
theorem serveJobs_order (o : QueueOp) (h : s.pushed = s.popped.map Prod.fst ++ s.queue) :
    (serveJobs env s o).2.pushed
      = (serveJobs env s o).2.popped.map Prod.fst ++ (serveJobs env s o).2.queue := by
  cases o with
  | blpop =>
    change (s.pop env).2.pushed = (s.pop env).2.popped.map Prod.fst ++ (s.pop env).2.queue
    rw [JobQueue.pop]
    rcases hqueue : s.queue with _ | ⟨payload, queue⟩
    · rw [h, hqueue]
    · dsimp only
      split_ifs
      · rw [List.map_append, List.append_assoc, h, hqueue]
        rfl
      · rw [h]
  | job o =>
    cases o with
    | rpush payload =>
      change (s.push env payload).pushed
        = (s.push env payload).popped.map Prod.fst ++ (s.push env payload).queue
      rw [JobQueue.push]
      split_ifs
      · rw [h, List.append_assoc]
      · exact h
    | get id => exact h
    | executeRoute incident => exact h
    | audit eventType id details => exact h

theorem JobQueue.answered_quiet {α : Type} {a : Except Exc α} (h : (s.answered a).raised = 0) :
    s.raised = 0 ∧ a.isOk = true := by
  rw [answered] at h
  dsimp only at h
  split_ifs at h with hok
  exact ⟨h, hok⟩

theorem Delivery.arrives_of_isOk {α : Type} {d : Delivery} {a : α} (h : (d.answer a).isOk = true) :
    d = .arrives := by
  cases d with
  | arrives => rfl
  | lost f | unanswered f => cases h

theorem WorkerJob.heard_quiet {α : Type} {a : Except Exc α} (hraised : m.raised = false)
    (hok : a.isOk = true) : (m.heard a).raised = false := by
  rw [heard, hraised, hok]
  rfl

/-- While no call raises, every job reaches its worker and every event is written. -/
theorem serveJobs_quiet (o : QueueOp) (hguar : (jobContract py).guar m o)
    (hnone : (serveJobs env s o).2.raised = 0) :
    s.raised = 0 ∧
      ((∀ job ∈ s.popped, job.2 = true) → ∀ job ∈ (serveJobs env s o).2.popped, job.2 = true) ∧
      ((∀ event ∈ s.audited, event.2 = true) →
        ∀ event ∈ (serveJobs env s o).2.audited, event.2 = true) ∧
      (Attentive py m → Attentive py ((jobContract py).next m o (serveJobs env s o).1)) := by
  cases o with
  | blpop =>
    obtain ⟨hraised, hok⟩ := JobQueue.answered_quiet hnone
    have harrives := Delivery.arrives_of_isOk hok
    have hdropped (h : Attentive py m) :
        ∀ payload ∈ m.drop.dropped, decodeJob py payload = none := by
      refine List.forall_mem_append.mpr ⟨h.2, fun payload hpayload ↦ ?_⟩
      rcases hguar payload (Option.mem_toList.mp hpayload) with hraised | hdecode
      · rw [h.1] at hraised
        cases hraised
      · exact hdecode
    have hnext : (serveJobs env s .blpop).1 = .ok (s.pop env).1 := by
      change (env.deliver s.tick).answer _ = _
      rw [harrives]
      rfl
    rw [hnext]
    have hpop : (s.pop env).2.raised = s.raised ∧ (s.pop env).2.audited = s.audited ∧
        ((∀ job ∈ s.popped, job.2 = true) → ∀ job ∈ (s.pop env).2.popped, job.2 = true) := by
      rw [JobQueue.pop, harrives]
      cases s.queue with
      | nil => exact ⟨rfl, rfl, id⟩
      | cons payload queue =>
        refine ⟨rfl, rfl, fun h ↦ List.forall_mem_append.mpr ⟨h, ?_⟩⟩
        simp [Delivery.answers]
    refine ⟨hpop.1.symm.trans hraised, hpop.2.2, fun h ↦ hpop.2.1 ▸ h, fun h ↦ ?_⟩
    rcases (s.pop env).1 with _ | payload
    · exact ⟨h.1, hdropped h⟩
    · exact ⟨rfl, hdropped h⟩
  | job o =>
    cases o with
    | get incidentId | executeRoute incident =>
      obtain ⟨hraised, hok⟩ := JobQueue.answered_quiet hnone
      exact ⟨hraised, fun h ↦ h, fun h ↦ h, fun h ↦ ⟨WorkerJob.heard_quiet h.1 hok, h.2⟩⟩
    | rpush payload =>
      obtain ⟨hraised, hok⟩ := JobQueue.answered_quiet hnone
      obtain ⟨queue, pushed, hpush⟩ := s.push_eq env payload
      rw [hpush] at hraised
      refine ⟨hraised, ?_, ?_, fun h ↦ ⟨WorkerJob.heard_quiet h.1 hok, h.2⟩⟩
      · change _ → ∀ job ∈ (s.push env payload).popped, _
        rw [hpush]
        exact id
      · change _ → ∀ event ∈ (s.push env payload).audited, _
        rw [hpush]
        exact id
    | audit eventType id details =>
      obtain ⟨hraised, hok⟩ := JobQueue.answered_quiet hnone
      have harrives := Delivery.arrives_of_isOk hok
      refine ⟨hraised, fun h ↦ h, fun h ↦ List.forall_mem_append.mpr ⟨h, ?_⟩, fun h ↦ ?_⟩
      · rw [harrives]
        simp [Delivery.reaches]
      · change Attentive py (if eventType ∈ accounting then _ else _)
        split_ifs
        · exact ⟨WorkerJob.heard_quiet h.1 hok, h.2⟩
        · exact ⟨WorkerJob.heard_quiet h.1 hok, h.2⟩

end

/-! ## What requests and workers promise -/

section

variable {py : Python} {m : WorkerJob}

/-- A worker can take a job. -/
def Idle (py : Python) (m : WorkerJob) : Prop :=
  ∀ payload ∈ m.pending, m.raised = true ∨ decodeJob py payload = none

theorem Idle.of_none (h : m.pending = none) : Idle py m := fun payload hpayload ↦ by
  rw [h] at hpayload
  cases hpayload

theorem Idle.of_raised (h : m.raised = true) : Idle py m := fun _ _ ↦ Or.inl h

/-- A call that raises excuses the worker from its job. -/
theorem WorkerJob.heard_error (m : WorkerJob) {α : Type} (e : Exc) :
    (m.heard (.error e : Except Exc α)).raised = true := Bool.or_true _

theorem Idle.heard {α : Type} {a : Except Exc α} (h : Idle py m) : Idle py (m.heard a) :=
  fun payload hpayload ↦ (h payload hpayload).imp_left fun hraised ↦ by
    rw [WorkerJob.heard, hraised]
    rfl

/-- The event that accounts for a job ends it, also if it could not be written. -/
theorem account_meets {payload : String} {incidentId : PyStr} {eventType : String}
    (details : Dict) (haccounts : eventType ∈ accounting) (hpending : m.pending = some payload)
    (hdecode : decodeJob py payload = some incidentId) :
    (onQueue ((Prog.op (JobOp.audit eventType incidentId details)).bind Prog.ofExcept)).Meets
      (jobContract py) (fun _ m' ↦ Idle py m') m := by
  refine Prog.Meets.call (fun _ ↦ ⟨payload, hpending, hdecode⟩) (fun _ _ ↦ id) fun a _ ↦ ?_
  have hidle :
      Idle py ((jobContract py).next m (.job (.audit eventType incidentId details)) a) := by
    change Idle py (if eventType ∈ accounting then _ else _)
    rw [if_pos haccounts]
    exact Idle.of_none rfl
  cases a with
  | ok u => exact hidle
  | error e => exact hidle

theorem processJob_meets {payload : String} {incidentId : PyStr}
    (hpending : m.pending = some payload) (hdecode : decodeJob py payload = some incidentId) :
    (onQueue (processJob incidentId)).Meets (jobContract py) (fun _ m' ↦ Idle py m') m := by
  refine Prog.Meets.call trivial (fun _ _ ↦ id) fun a _ ↦ ?_
  rcases a with e | _ | incident
  · exact Idle.of_raised (m.heard_error e)
  · exact account_meets _ (by decide) hpending hdecode
  · refine Prog.Meets.call trivial (fun _ _ ↦ id) fun a _ ↦ ?_
    rcases a with e | updated
    · exact Idle.of_raised (WorkerJob.heard_error _ e)
    -- A route returns the incident it was given, and that is the one the job names.
    · have hid : codePoints updated.1.incidentId = incidentId := by
        rw [updated.2, incident.2]
      exact account_meets _ (by decide) hpending (hid.symm ▸ hdecode)

/-- Exceptions are logged. -/
theorem onQueue_attempt {p : JobProg Unit} :
    ∀ {m}, (onQueue p).Meets (jobContract py) (fun _ m' ↦ Idle py m') m →
      (onQueue (p.attempt.bind fun _ ↦ .ret ())).Meets (jobContract py)
        (fun _ m' ↦ Idle py m') m := by
  induction p with
  | ret u => exact fun h ↦ h
  | raise e => exact fun h ↦ h
  | call o k ih =>
    exact fun h ↦ Prog.Meets.call h.1.1 (fun _ _ ↦ id) fun a ha ↦ ih a (h.2 a ha)

/-- After an iteration the worker has accounted for its job, unless a call has raised or the job
could not be decoded. -/
theorem workerIteration_meets (payload : String) (hpending : m.pending = some payload) :
    (onQueue (workerIteration py (some payload))).Meets (jobContract py)
      (fun _ m' ↦ Idle py m') m := by
  refine onQueue_attempt ?_
  rw [work]
  cases hdecode : decodeJob py payload with
  | none =>
    intro payload' hpayload'
    rw [hpending] at hpayload'
    exact Or.inr (Option.some.inj hpayload' ▸ hdecode)
  | some incidentId => exact processJob_meets hpending hdecode

theorem runWorker_meets (n : ℕ) : ∀ {m}, Idle py m →
    (runWorker py n).Meets (jobContract py) (fun _ m' ↦ Idle py m') m := by
  induction n with
  | zero => exact fun hidle ↦ hidle
  | succ n ih =>
    intro m hidle
    refine Prog.Meets.call hidle (fun _ _ ↦ id) fun a _ ↦ ?_
    rcases a with e | _ | payload
    · exact Idle.of_raised rfl
    · exact ih (Idle.of_none rfl)
    · exact (workerIteration_meets payload rfl).bind (fun _ _ h ↦ ih h) fun _ _ h ↦ h

/-- A request writes no event that accounts for a job. -/
theorem enqueueRoute_meets (incidentId : String) (hidle : Idle py m) :
    (onQueue (enqueueRoute incidentId)).Meets (jobContract py) (fun _ m' ↦ Idle py m') m := by
  refine Prog.Meets.call trivial (fun _ _ ↦ id) fun a _ ↦ ?_
  rcases a with e | _ | incident
  · exact hidle.heard
  · exact hidle.heard
  · refine Prog.Meets.call trivial (fun _ _ ↦ id) fun a _ ↦ ?_
    rcases a with e | u
    · exact hidle.heard.heard
    · refine Prog.Meets.call (fun h ↦ absurd h (by decide)) (fun _ _ ↦ id) fun a _ ↦ ?_
      rcases a with e | u
      · exact hidle.heard.heard.heard
      · exact hidle.heard.heard.heard

theorem JobParty.program_meets (party : JobParty) :
    (party.program py).Meets (jobContract py) (fun _ m' ↦ Idle py m') {} := by
  have hidle : Idle py {} := Idle.of_none rfl
  cases party with
  | request incidentId =>
    exact (enqueueRoute_meets incidentId hidle).bind (fun _ _ h ↦ h) fun _ _ h ↦ h
  | worker iterations => exact runWorker_meets iterations hidle

end

/-! ## Every schedule -/

section

variable {ι : Type*} [Fintype ι] {py : Python} {env : JobEnv} {s : JobQueue} {job : ι → WorkerJob}

/-! ### What the books say -/

theorem JobQueue.delivered_le (incidentId : PyStr) : s.delivered py incidentId
    ≤ (s.popped.map Prod.fst).countP (isJobFor py incidentId) := by
  rw [delivered, List.countP_map]
  exact List.countP_mono_left fun job _ h ↦ (Bool.and_eq_true_iff.mp h).2

theorem JobQueue.delivered_quiet (h : ∀ job ∈ s.popped, job.2 = true) (incidentId : PyStr) :
    s.delivered py incidentId = (s.popped.map Prod.fst).countP (isJobFor py incidentId) := by
  rw [delivered, List.countP_map]
  refine List.countP_congr fun job hjob ↦ ?_
  rw [h job hjob]
  rfl

theorem JobQueue.accounted_le (incidentId : PyStr) :
    s.accounted incidentId ≤ s.attempted incidentId :=
  List.countP_mono_left fun _ _ h ↦ (Bool.and_eq_true_iff.mp h).2

theorem JobQueue.accounted_quiet (h : ∀ event ∈ s.audited, event.2 = true) (incidentId : PyStr) :
    s.accounted incidentId = s.attempted incidentId := by
  refine List.countP_congr fun event hevent ↦ ?_
  rw [h event hevent, Bool.true_and]

/-- An attentive worker holds no job of the incident but the one it is at. -/
theorem Attentive.held_eq {m : WorkerJob} (h : Attentive py m) (incidentId : PyStr) :
    m.held py incidentId = m.inProgress py incidentId := by
  have hdropped : m.dropped.countP (isJobFor py incidentId) = 0 :=
    List.countP_eq_zero.mpr fun payload hpayload hjob ↦ by
      rw [isJobFor, h.2 payload hpayload] at hjob
      cases of_decide_eq_true hjob
  rw [WorkerJob.held, List.countP_append, hdropped, Nat.zero_add]
  rfl

/-- One that can take a job is at none. -/
theorem Idle.inProgress_eq {m : WorkerJob} (hidle : Idle py m) (h : Attentive py m)
    (incidentId : PyStr) : m.inProgress py incidentId = 0 :=
  List.countP_eq_zero.mpr fun payload hpayload hjob ↦ by
    rcases hidle payload (Option.mem_toList.mp hpayload) with hraised | hdecode
    · rw [h.1] at hraised
      cases hraised
    · rw [isJobFor, hdecode] at hjob
      cases of_decide_eq_true hjob

/-- The jobs of the incident that wait in the queue. -/
def JobQueue.waiting (py : Python) (s : JobQueue) (incidentId : PyStr) : ℕ :=
  s.queue.countP (isJobFor py incidentId)

/-- The jobs of the incident that were ever pushed. -/
def JobQueue.requested (py : Python) (s : JobQueue) (incidentId : PyStr) : ℕ :=
  s.pushed.countP (isJobFor py incidentId)

theorem Balanced.requested_eq (h : Balanced py s job) (incidentId : PyStr) :
    s.requested py incidentId = (s.popped.map Prod.fst).countP (isJobFor py incidentId)
      + s.waiting py incidentId := by
  rw [JobQueue.requested, h.order, List.countP_append]
  rfl

theorem Balanced.accounted_le (h : Balanced py s job) (incidentId : PyStr) :
    s.accounted incidentId + s.waiting py incidentId ≤ s.requested py incidentId := by
  have hrequested := h.requested_eq incidentId
  have hjobs := h.jobs incidentId
  have hdelivered := @JobQueue.delivered_le py s incidentId
  have haccounted := s.accounted_le incidentId
  omega

theorem Balanced.accounted_eq (h : Balanced py s job) (hnone : s.raised = 0) (incidentId : PyStr) :
    s.accounted incidentId + s.waiting py incidentId + ∑ i, (job i).inProgress py incidentId
      = s.requested py incidentId := by
  obtain ⟨hpopped, haudited, hattentive⟩ := h.quiet hnone
  have hrequested := h.requested_eq incidentId
  have hjobs := h.jobs incidentId
  rw [JobQueue.delivered_quiet hpopped, ← JobQueue.accounted_quiet haudited,
    Finset.sum_congr rfl fun i _ ↦ (hattentive i).held_eq incidentId] at hjobs
  omega

/-! ### Keeping the books -/

variable [DecidableEq ι]

/-- A sum, of which one term changes. -/
theorem sum_update (f : WorkerJob → ℕ) (job : ι → WorkerJob) (i : ι) (m : WorkerJob) :
    ∑ j, f (Function.update job i m j) + f (job i) = ∑ j, f (job j) + f m := by
  have hupdate : ∑ j, f (Function.update job i m j) = f m + ∑ j ∈ Finset.univ \ {i}, f (job j) := by
    have hcomp : (fun j ↦ f (Function.update job i m j)) = Function.update (f ∘ job) i (f m) :=
      Function.comp_update f job i m
    rw [hcomp, Finset.sum_update_of_mem (Finset.mem_univ i)]
    rfl
  have hsplit := Finset.sum_sdiff (f := fun j ↦ f (job j)) (Finset.subset_univ {i})
  rw [Finset.sum_singleton] at hsplit
  omega

theorem Balanced.step {i : ι} {o : QueueOp} (h : Balanced py s job)
    (hguar : (jobContract py).guar (job i) o) :
    Balanced py (serveJobs env s o).2
      (Function.update job i ((jobContract py).next (job i) o (serveJobs env s o).1)) where
  order := serveJobs_order o h.order
  jobs incidentId := by
    have hstep := @serveJobs_balance py env s (job i) incidentId o hguar
    have hsum := sum_update (WorkerJob.held py incidentId) job i
      ((jobContract py).next (job i) o (serveJobs env s o).1)
    have hjobs := h.jobs incidentId
    omega
  quiet hnone := by
    obtain ⟨hraised, hpopped, haudited, hattentive⟩ := serveJobs_quiet o hguar hnone
    obtain ⟨hpopped', haudited', hattentive'⟩ := h.quiet hraised
    refine ⟨hpopped hpopped', haudited haudited', fun j ↦ ?_⟩
    by_cases hj : j = i
    · rw [hj, Function.update_self]
      exact hattentive (hattentive' i)
    · rw [Function.update_of_ne hj]
      exact hattentive' j

/-- A pool of requests and workers, before anyone has moved. -/
def jobPool (py : Python) (party : ι → JobParty) :
    Pool QueueOp QueueAns Exc Unit WorkerJob JobQueue ι where
  shared := {}
  thread i := ⟨{}, (party i).program py⟩

/-- What holds of the pool whatever happens. -/
theorem jobPool_keeps (env : JobEnv) (party : ι → JobParty) (schedule : List ι) :
    let pool := (jobPool py party).run (serveJobs env) (jobContract py).next schedule
    Balanced py pool.shared (fun i ↦ (pool.thread i).ghost) ∧
      ∀ i, (pool.thread i).prog.Meets (jobContract py) (fun _ m ↦ Idle py m)
        (pool.thread i).ghost := by
  have hstart : Balanced py {} fun _ : ι ↦ ({} : WorkerJob) :=
    ⟨rfl, fun incidentId ↦ by simp [JobQueue.delivered, JobQueue.attempted, WorkerJob.held],
      fun _ ↦ ⟨fun _ h ↦ absurd h List.not_mem_nil, fun _ h ↦ absurd h List.not_mem_nil,
        fun _ ↦ ⟨rfl, fun _ h ↦ absurd h List.not_mem_nil⟩⟩⟩
  exact Pool.run_meets (fun _ _ m ↦ Idle py m) (jobContract py) (Balanced py) (fun _ _ _ ↦ True)
    (fun _ _ _ _ hK hguar _ ↦ ⟨trivial, hK.step hguar⟩) schedule (jobPool py party) hstart
    (fun i ↦ (party i).program_meets) (Pool.admits_true _ _)

/-- **No job is lost or done twice unless something fails.** Jobs leave the queue in the order they
came. However requests and workers interleave and whatever fails, the events `worker_job_completed`
and `worker_job_failed` of an incident and the jobs that wait for it are never more than the jobs
that were pushed for it. As long as no call has raised, the jobs that workers are at make up the
difference, and there is none once everyone has ended. -/
theorem jobs_balance (env : JobEnv) (party : ι → JobParty) (schedule : List ι)
    (incidentId : PyStr) :
    let pool := (jobPool py party).run (serveJobs env) (jobContract py).next schedule
    let s := pool.shared
    s.pushed = s.popped.map Prod.fst ++ s.queue ∧
      s.accounted incidentId + s.waiting py incidentId ≤ s.requested py incidentId ∧
      (s.raised = 0 →
        s.accounted incidentId + s.waiting py incidentId
            + ∑ i, (pool.thread i).ghost.inProgress py incidentId = s.requested py incidentId ∧
          ((∀ i, (pool.thread i).prog.running = false) →
            s.accounted incidentId + s.waiting py incidentId = s.requested py incidentId)) := by
  intro pool s
  obtain ⟨hbalanced, hmeets⟩ := @jobPool_keeps ι _ py _ env party schedule
  refine ⟨hbalanced.order, hbalanced.accounted_le incidentId, fun hnone ↦ ?_⟩
  have heq := hbalanced.accounted_eq hnone incidentId
  refine ⟨heq, fun hended ↦ ?_⟩
  have hidle (i : ι) : Idle py (pool.thread i).ghost := by
    have hi := hmeets i
    rcases hprog : (pool.thread i).prog with u | e | ⟨o, k⟩
    · rw [hprog] at hi
      exact hi
    · rw [hprog] at hi
      exact hi
    · have hrunning := hended i
      rw [hprog] at hrunning
      cases hrunning
  have hzero : ∑ i, (pool.thread i).ghost.inProgress py incidentId = 0 :=
    Finset.sum_eq_zero fun i _ ↦
      (hidle i).inProgress_eq ((hbalanced.quiet hnone).2.2 i) incidentId
  rw [hzero] at heq
  exact heq

end

/-- The repository finds the incident of the demo alert, and nothing fails. -/
def JobEnv.demo : JobEnv where
  get _ incidentId := .ok (known incidentId checkoutIncident)
  executeRoute _ incident := .ok ⟨incident, rfl⟩
  deliver _ := .arrives

/-- A request queues a job for the incident, and a worker waits in vain once and does the job. -/
def requestAndWorker (i : Fin 2) : JobParty :=
  if i.val = 0 then .request checkoutIncident.incidentId else .worker 2

theorem requestAndWorker_balance :
    let s := ((jobPool Python.demo requestAndWorker).run (serveJobs .demo)
      (jobContract Python.demo).next [1, 0, 0, 1, 0, 1, 1, 1, 0]).shared
    s.accounted (codePoints checkoutIncident.incidentId)
        + s.waiting Python.demo (codePoints checkoutIncident.incidentId)
      = s.requested Python.demo (codePoints checkoutIncident.incidentId) :=
  ((jobs_balance .demo requestAndWorker [1, 0, 0, 1, 0, 1, 1, 1, 0] _).2.2 (by decide +kernel)).2
    (by decide +kernel)

end IncidentPlatform
