import IncidentPlatform.Domain.Policy

/-!
# Settings

The environment variables and settings the modelled code reads, and the two functions of the
runtime it calls that are kept abstract: the text functions and SHA-256. They do not change while
the platform runs.
-/

namespace IncidentPlatform

structure Settings where
  text : Text
  /-- `hashlib.sha256(s.encode("utf-8")).hexdigest()`. -/
  sha256 : String → String
  documents : PolicyDocuments
  /-- `AppSettings.execution_mode`. -/
  executionMode : String := "local"
  /-- The agent runtime: `AGENTIC_ENABLED`, `AGENTIC_STUB_FALLBACK`. -/
  agenticEnabled : Bool := false
  agenticStubFallback : Bool := true
  autonomyKillSwitch : Bool := true
  /-- `EXECUTE_ACTION_DRY_RUN`. -/
  executeActionDryRun : Bool := true
  executePostVerifyEnabled : Bool := true
  blockExecuteWhenInvestigateOnly : Bool := true
  plannerDefaultDryRun : Bool := true
  routerDecisionLoopEnabled : Bool := false
  routerMaxIterations : ℤ := 12
  routerLlmEnabled : Bool := false

/-- Every setting at its default, with the demo policy documents. -/
def Settings.demo : Settings where
  text := Text.ascii
  sha256 s := s
  documents := demoDocuments

/-- The demo with the decision loop. -/
def Settings.looped : Settings := { Settings.demo with routerDecisionLoopEnabled := true }

/-- `_max_iterations`. -/
def Settings.maxIterations (cfg : Settings) : ℕ := (max 1 cfg.routerMaxIterations).toNat

end IncidentPlatform
