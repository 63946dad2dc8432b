import IncidentPlatform.Api.Outcome
import IncidentPlatform.Api.Scenario
import IncidentPlatform.Execution.CheckoutService
import IncidentPlatform.Workflow.Operations

/-!
# The platform and its workload

A `Site` is the platform together with the checkout service that it repairs. The handlers run with
their adapters in place. What an adapter asks of the service changes the service, and a verification
reads its metrics, both over a `Network` that can lose requests and answers.

Most of a handler never leaves the platform. By `SiteRuns.inward` such a part runs as it does in a
world of its own, so that the specs of `Api.Gates` and `Api.Outcome` are used as they are. The specs
of this module are about the parts that do leave it: the attempts at an action and the
verification.
-/

namespace IncidentPlatform

open Interaction

/-! ## The site -/

structure Site where
  world : World := {}
  /-- The requests that have reached the checkout service, from anyone. -/
  served : List CheckoutRequest := []
  /-- The number of requests the platform has sent. -/
  sent : ℕ := 0
  deriving Inhabited

/-- The state of the checkout service. -/
def Site.workload (site : Site) : CheckoutState := ({} : CheckoutState).after site.served

/-- What is between the platform and its workloads. -/
structure Network where
  /-- Whether `wait_for` cancels an attempt before it starts. -/
  expires : ℕ → ℤ → Bool
  deliver : ℕ → Delivery
  /-- The ECS client. -/
  ecs : ℕ → (o : AdapterOp) → AdapterAns o

/-- Every request arrives, and in time. -/
structure Network.Reliable (net : Network) : Prop where
  expires : ∀ n timeoutSeconds, net.expires n timeoutSeconds = false
  deliver : ∀ n, net.deliver n = .arrives

/-- A request to the checkout service. -/
def Site.request (net : Network) (site : Site) (request : CheckoutRequest) :
    Except Fault Dict × Site :=
  ((net.deliver site.sent).send site.workload request,
    { site with
      served := if (net.deliver site.sent).reaches then site.served ++ [request] else site.served
      sent := site.sent + 1 })

/-- Answer one operation. -/
def serveSite (t : Text) (env : Env) (net : Network) (mode : Mode) (site : Site) :
    (o : EdgeOp) → EdgeAns o × Site
  | .platform .verifyRecovery =>
    ((site.request net .businessMetrics).1.bind (verifyRecovery t),
      { (site.request net .businessMetrics).2 with
        world := { site.world with
          verifications := site.world.verifications + 1
          tick := site.world.tick + 1 } })
  | .platform o =>
    ((serve env mode site.world o).1, { site with world := (serve env mode site.world o).2 })
  | .expired timeoutSeconds =>
    (net.expires site.world.attempts timeoutSeconds,
      { site with world := { site.world with
          attempts := site.world.attempts + 1
          tick := site.world.tick + 1 } })
  | .adapter (.checkout call) => site.request net call.request
  | .adapter o => (net.ecs site.sent o, { site with sent := site.sent + 1 })
  | .rollback toRevision => site.request net (.rollback toRevision)
  | .injectDeploymentFailure => site.request net .injectDeploymentRegression

/-- A handler at the site, with the adapters in place. -/
abbrev SiteRuns {α : Type} (cfg : Settings) (s : AdapterSettings) (env : Env) (net : Network)
    (mode : Mode) (p : Handler α) (site : Site) (Q : Except Exc α → Site → Prop) : Prop :=
  (deployed cfg s p).Runs (serveSite cfg.text env net mode) site Q

/-! ## Staying inside the platform -/

/-- The operations that do not go to a workload. -/
def Op.inward : Op → Prop
  | .registryRun _ | .verifyRecovery => False
  | _ => True

section

variable {cfg : Settings} {s : AdapterSettings} {env : Env} {net : Network} {mode : Mode}
  {site : Site} {α β : Type}

theorem withAdapters_inward {o : Op} (h : o.inward) :
    (withAdapters cfg s o).run (serveSite cfg.text env net mode) site =
      (.ok (serve env mode site.world o).1,
        { site with world := (serve env mode site.world o).2 }) := by
  cases o with
  | registryRun | verifyRecovery => exact h.elim
  | _ => rfl

theorem deployed_run_inward {p : Handler α} (h : p.Issues Op.inward) (site : Site) :
    (deployed cfg s p).run (serveSite cfg.text env net mode) site =
      ((p.run (serve env mode) site.world).1,
        { site with world := (p.run (serve env mode) site.world).2 }) := by
  induction p generalizing site with
  | ret a => rfl
  | raise e => rfl
  | call o k ih =>
    rw [deployed, Prog.interp, Prog.run_bind_ok (withAdapters_inward h.1), Prog.run_call]
    exact ih _ (h.2 _) _

namespace SiteRuns

variable {Q R : Except Exc α → Site → Prop}

/-- What stays inside the platform runs as it does in the world alone. -/
theorem inward {p : Handler α} (h : p.Issues Op.inward) {P : Except Exc α → World → Prop}
    (hp : RunsIn env mode p site.world P) :
    SiteRuns cfg s env net mode p site fun res later ↦
      P res later.world ∧ later.served = site.served ∧ later.sent = site.sent := by
  rw [SiteRuns, Prog.Runs, deployed_run_inward h]
  exact ⟨hp, rfl, rfl⟩

theorem bind {p : Handler α} {f : α → Handler β} {R : Except Exc β → Site → Prop}
    (hp : SiteRuns cfg s env net mode p site Q)
    (hf : ∀ a later, Q (.ok a) later → SiteRuns cfg s env net mode (f a) later R)
    (he : ∀ e later, Q (.error e) later → R (.error e) later) :
    SiteRuns cfg s env net mode (p >>= f) site R := by
  rw [SiteRuns, deployed, Prog.bind_eq, Prog.interp_bind]
  exact Prog.Runs.bind hp hf he

/-- An operation that stays inside, and what follows. -/
theorem perform {o : Op} {f : Ans o → Handler α} (ho : o.inward)
    (h : SiteRuns cfg s env net mode (f (serve env mode site.world o).1)
      { site with world := (serve env mode site.world o).2 } Q) :
    SiteRuns cfg s env net mode (IncidentPlatform.perform o >>= f) site Q := by
  rw [SiteRuns, deployed, Prog.bind_eq, Prog.interp_bind, Prog.interp_op, Prog.Runs,
    Prog.run_bind_ok (withAdapters_inward ho)]
  exact h

theorem assign {r : IncidentRecord} {f : Unit → Handler α}
    (h : SiteRuns cfg s env net mode (f ()) { site with
      world := ({ site.world with tick := site.world.tick + 1 } : World).touched mode r } Q) :
    SiteRuns cfg s env net mode (IncidentPlatform.assign r >>= f) site Q := perform trivial h

theorem newTraceEntry {phase message : String} {actionId : Option String} {success : Option Bool}
    {replanRequested : Bool} {f : ExecutionTraceEntry → Handler α}
    (h : ∀ entry, SiteRuns cfg s env net mode (f entry) { site with
      world := { site.world with tick := site.world.tick + 2 } } Q) :
    SiteRuns cfg s env net mode
      (IncidentPlatform.newTraceEntry phase message actionId success replanRequested >>= f)
      site Q :=
  perform trivial (perform trivial (h _))

end SiteRuns

/-! ## The parts that stay inside -/

theorem Op.ofStep.inward {o : Op} (h : o.ofStep) : o.inward := by
  cases o <;> trivial

theorem save_inward (r : IncidentRecord) : (save r).Issues Op.inward :=
  (save_issues r).mono fun _ ↦ Op.ofStep.inward

theorem ensure_inward (b : Bool) (status : ℕ) (detail : String) :
    (ensure b status detail).Issues Op.inward := by
  rw [ensure, require]
  split_ifs <;> trivial

theorem orHttp_inward (a : Option α) (status : ℕ) (detail : String) :
    (orHttp a status detail).Issues Op.inward := by
  cases a <;> trivial

theorem checkApproval_inward (r : IncidentRecord) (payload : ExecutePayload) :
    (checkApproval r payload).Issues Op.inward :=
  issues_bind (orHttp_inward _ _ _) fun _ ↦ issues_bind (orHttp_inward _ _ _) fun _ ↦
    issues_bind (ensure_inward _ _ _) fun _ ↦ issues_perform_bind.mpr ⟨trivial, fun _ ↦
    issues_bind (ensure_inward _ _ _) fun _ ↦ issues_bind (orHttp_inward _ _ _) fun _ ↦
    issues_bind (ensure_inward _ _ _) fun _ ↦ issues_bind (ensure_inward _ _ _) fun _ ↦
    issues_bind (ensure_inward _ _ _) fun _ ↦ trivial⟩

theorem blockInvestigateOnly_inward (cfg : Settings) (incidentId : String) (r : IncidentRecord)
    (payload : ExecutePayload) :
    (blockInvestigateOnly cfg incidentId r payload).Issues Op.inward := by
  rw [blockInvestigateOnly]
  rcases investigateOnlyBlock cfg r with _ | decision
  · trivial
  · exact issues_perform_bind.mpr ⟨trivial, fun _ ↦ issues_bind (save_inward _) fun _ ↦ trivial⟩

theorem blockDenied_inward (incidentId : String) (r : IncidentRecord) (payload : ExecutePayload)
    (decision : PolicyDecision) : (blockDenied incidentId r payload decision).Issues Op.inward := by
  rw [blockDenied]
  split_ifs
  · trivial
  · exact issues_bind (save_inward _) fun _ ↦ ⟨trivial, fun _ ↦ trivial⟩

theorem acceptApproval_inward (r : IncidentRecord) (payload : ExecutePayload)
    (decision : PolicyDecision) : (acceptApproval r payload decision).Issues Op.inward := by
  rw [acceptApproval]
  split_ifs
  · exact issues_bind (checkApproval_inward _ _) fun _ ↦ ⟨trivial, fun _ ↦ trivial⟩
  · trivial

theorem authorize_inward (cfg : Settings) (incidentId : String) (payload : ExecutePayload) :
    (authorize cfg incidentId payload).Issues Op.inward :=
  issues_perform_bind.mpr ⟨trivial, fun _ ↦
    issues_bind (orHttp_inward _ _ _) fun _ ↦ issues_bind (orHttp_inward _ _ _) fun _ ↦
    issues_bind (ensure_inward _ _ _) fun _ ↦
    issues_bind (blockInvestigateOnly_inward _ _ _ _) fun _ ↦
    issues_bind (ensure_inward _ _ _) fun _ ↦
    issues_bind (p := policyDecision cfg _ _ payload) ⟨trivial, fun _ ↦ ⟨trivial, fun _ ↦ trivial⟩⟩
      fun _ ↦
    issues_bind (blockDenied_inward _ _ _ _) fun _ ↦
    issues_bind (acceptApproval_inward _ _ _) fun _ ↦ trivial⟩

theorem recordOutcome_inward (incidentId : String) (payload : ExecutePayload) (g : Authorized)
    (dryRun : Bool) (o : Performed) :
    (recordOutcome incidentId payload g dryRun o).Issues Op.inward := by
  refine issues_bind (save_inward _) fun _ ↦ issues_perform_bind.mpr ⟨trivial, fun _ ↦
    issues_bind ?_ fun _ ↦ trivial⟩
  rw [escalate]
  split_ifs
  · exact ⟨trivial, fun _ ↦ trivial⟩
  · trivial

end

end IncidentPlatform
