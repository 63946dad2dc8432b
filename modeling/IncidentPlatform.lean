import IncidentPlatform.Interaction.Program
import IncidentPlatform.Interaction.Pool
import IncidentPlatform.Domain.Value
import IncidentPlatform.Domain.Models
import IncidentPlatform.Domain.Policy
import IncidentPlatform.Interaction.Rows
import IncidentPlatform.Domain.Settings
import IncidentPlatform.Persistence.Idempotency
import IncidentPlatform.Persistence.World
import IncidentPlatform.Persistence.Repository
import IncidentPlatform.Persistence.Discipline
import IncidentPlatform.Execution.Executor
import IncidentPlatform.Agents.Investigation
import IncidentPlatform.Agents.Planner
import IncidentPlatform.Workflow.HybridRouter
import IncidentPlatform.Workflow.Route
import IncidentPlatform.Workflow.Conduct
import IncidentPlatform.Api.Handlers
import IncidentPlatform.Api.Conduct
import IncidentPlatform.Api.Runs
import IncidentPlatform.Safety.Approvals
import IncidentPlatform.Safety.Binding
import IncidentPlatform.Api.Gates
import IncidentPlatform.Api.Outcome
import IncidentPlatform.Safety.Resolution
import IncidentPlatform.Safety.Recording
import IncidentPlatform.Safety.Updates
import IncidentPlatform.Safety.Modes
import IncidentPlatform.Safety.SingleUse
import IncidentPlatform.Safety.PendingPlan
import IncidentPlatform.Safety.Lifecycle
import IncidentPlatform.Safety.Autonomy
import IncidentPlatform.Safety.PlanScope
import IncidentPlatform.Safety.ApprovedPlans
import IncidentPlatform.Interaction.Translate
import IncidentPlatform.Persistence.HotState
import IncidentPlatform.Api.Commands
import IncidentPlatform.Api.Alerts
import IncidentPlatform.Workflow.Operations
import IncidentPlatform.Safety.Routing
import IncidentPlatform.Safety.Dedupe
import IncidentPlatform.Safety.Swallowed
import IncidentPlatform.Interaction.Alike
import IncidentPlatform.Workflow.Stub
import IncidentPlatform.Workflow.Agreement
import IncidentPlatform.Interaction.Given
import IncidentPlatform.Workflow.Recovery
import IncidentPlatform.Safety.Escalation
import IncidentPlatform.Api.Reports
import IncidentPlatform.Safety.Interference
import IncidentPlatform.Persistence.Outages
import IncidentPlatform.Domain.Verdict
import IncidentPlatform.Safety.Preview
import IncidentPlatform.Safety.Tightening
import IncidentPlatform.Safety.MissingContext
import IncidentPlatform.Safety.DemoPolicy
import IncidentPlatform.Execution.Adapters
import IncidentPlatform.Safety.Targets
import IncidentPlatform.Safety.Retries
import IncidentPlatform.Api.Scenario
import IncidentPlatform.Safety.DryRun
import IncidentPlatform.Domain.Access
import IncidentPlatform.Safety.Verified
import IncidentPlatform.Safety.Rehearsal
import IncidentPlatform.Safety.Suppression
import IncidentPlatform.Agents.Completion
import IncidentPlatform.Safety.Fallback
import IncidentPlatform.Safety.LlmBudget
import IncidentPlatform.Safety.Releases
import IncidentPlatform.Safety.GivenBack
import IncidentPlatform.Interaction.Monitor
import IncidentPlatform.Workflow.Flow
import IncidentPlatform.Workflow.Findings
import IncidentPlatform.Safety.Links
import IncidentPlatform.Safety.Coverage
import IncidentPlatform.Encoding.Scanner
import IncidentPlatform.Encoding.Json
import IncidentPlatform.Encoding.Repr
import IncidentPlatform.Workflow.Jobs
import IncidentPlatform.Safety.Accounting
import IncidentPlatform.Encoding.Dict
import IncidentPlatform.Agents.Memory
import IncidentPlatform.Safety.Isolation
import IncidentPlatform.Encoding.Fields
import IncidentPlatform.Domain.TextLaws
import IncidentPlatform.Safety.AlertIdentity
import IncidentPlatform.Encoding.Calendar
import IncidentPlatform.Encoding.IsoFormat
import IncidentPlatform.Safety.Timeline
import IncidentPlatform.Encoding.IsoParse
import IncidentPlatform.Api.Calendar
import IncidentPlatform.Safety.ApprovalDuration
import IncidentPlatform.Safety.ResolutionTime
import IncidentPlatform.Safety.UtcOffsets
import IncidentPlatform.Interaction.InStep
import IncidentPlatform.Safety.Collectors
import IncidentPlatform.Safety.Listings
import IncidentPlatform.Safety.Intents
import IncidentPlatform.Encoding.Regex
import IncidentPlatform.Safety.Redaction
import IncidentPlatform.Encoding.JsonDump
import IncidentPlatform.Execution.CheckoutService
import IncidentPlatform.Api.Site
import IncidentPlatform.Api.SiteOutcome
import IncidentPlatform.Safety.ClosedLoop
import IncidentPlatform.Safety.ScenarioOutcome
import IncidentPlatform.Execution.LocalTelemetry
import IncidentPlatform.Safety.Evidence
import IncidentPlatform.Workflow.JobQueue
import IncidentPlatform.Safety.JobDelivery
import IncidentPlatform.Workflow.Upkeep
import IncidentPlatform.Safety.Records
import IncidentPlatform.Safety.LivePlans
import IncidentPlatform.Safety.AuditTrail
import IncidentPlatform.Safety.DecisionTrail
