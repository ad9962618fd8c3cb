import AiGovernance.Domain.Errors
import AiGovernance.Std.Instant

/-!
# Telemetry snapshots

The aggregates an installation reports (`domain/telemetry.py`). What the checks
of the installation identifier and of the release version say is given with
the identity they are made of.
-/

namespace AiGovernance.Domain

open AiGovernance.Std

/-- `TelemetryMode`. -/
inductive TelemetryMode where
  | standard
  | disabled
deriving DecidableEq

/-- `TelemetryCategory`. -/
inductive TelemetryCategory where
  | essential
  | productAnalytics
  | performanceResearch
deriving DecidableEq

/-- `TelemetryMetric`. -/
inductive TelemetryMetric where
  | installationStarted
  | installationUpgraded
  | governedExecutions
  | evaluationRuns
  | replayRuns
  | governanceDecisions
  | impactSimulations
  | behaviorContractsCreated
  | promptAssets
  | modelAssets
  | datasetAssets
  | evaluationProviderAssets
  | jobExecutions
deriving DecidableEq

/-- `_PRODUCT_METRICS`, in the order of the enumeration. -/
def productMetrics : List TelemetryMetric :=
  [.governedExecutions, .evaluationRuns, .replayRuns, .governanceDecisions, .impactSimulations,
    .behaviorContractsCreated, .promptAssets, .modelAssets, .datasetAssets, .evaluationProviderAssets, .jobExecutions]

/-- `TelemetryPolicy`. -/
structure TelemetryPolicy where
  mode : TelemetryMode := .standard
  essentialEnabled : Bool := true
  productAnalyticsEnabled : Bool := false
  performanceResearchEnabled : Bool := false

/-- `TelemetryPolicy.allows`. -/
def TelemetryPolicy.allows (policy : TelemetryPolicy) (category : TelemetryCategory) : Bool :=
  policy.mode ≠ .disabled &&
    match category with
    | .essential => policy.essentialEnabled
    | .productAnalytics => policy.productAnalyticsEnabled
    | .performanceResearch => policy.performanceResearchEnabled

/-- `DurationHistogram`; no count is negative. -/
structure DurationHistogram where
  count : Nat := 0
  minimumMs : Option Int := none
  maximumMs : Option Int := none
  le10ms : Nat := 0
  le100ms : Nat := 0
  le1s : Nat := 0
  le10s : Nat := 0
  le60s : Nat := 0
  gt60s : Nat := 0
deriving DecidableEq

/-- `observe`. -/
def DurationHistogram.observe (histogram : DurationHistogram) (durationMs : Int) : Except Raised DurationHistogram :=
  if durationMs < 0 then .error ⟨.valueError, "Telemetry duration must be non-negative."⟩
  else
    let counted : DurationHistogram := { histogram with
      count := histogram.count + 1
      minimumMs := some (histogram.minimumMs.elim durationMs (min · durationMs))
      maximumMs := some (histogram.maximumMs.elim durationMs (max · durationMs)) }
    .ok <|
      if durationMs ≤ 10 then { counted with le10ms := histogram.le10ms + 1 }
      else if durationMs ≤ 100 then { counted with le100ms := histogram.le100ms + 1 }
      else if durationMs ≤ 1000 then { counted with le1s := histogram.le1s + 1 }
      else if durationMs ≤ 10000 then { counted with le10s := histogram.le10s + 1 }
      else if durationMs ≤ 60000 then { counted with le60s := histogram.le60s + 1 }
      else { counted with gt60s := histogram.gt60s + 1 }

/-- The installation a snapshot is of, and what a snapshot raises on its identifier or version. -/
structure TelemetryIdentity where
  installationId : String
  aiGovernanceVersion : String
  rejected : Option Raised := none
deriving DecidableEq

/-- The fields of `TelemetrySnapshot`. -/
structure TelemetrySnapshotRecord where
  identity : TelemetryIdentity
  periodStart : Instant
  periodEnd : Instant
  category : TelemetryCategory
  metrics : List (TelemetryMetric × Int) := []
  distributions : List (String × DurationHistogram) := []
deriving DecidableEq

/-- The names of distributions: `_PERFORMANCE_DISTRIBUTIONS`, sorted. -/
def performanceDistributions : List String :=
  ["evaluation_duration", "impact_simulation_duration", "job_execution_duration", "replay_duration"]

/-- `TelemetrySnapshot.__post_init__`. -/
def TelemetrySnapshotRecord.violation (record : TelemetrySnapshotRecord) : Option Raised :=
  firstViolation [
    record.identity.rejected,
    rejectIf (record.periodEnd < record.periodStart) .valueError "Telemetry period end cannot precede start.",
    rejectIf (¬ (record.metrics.map Prod.fst).Nodup || record.metrics.any (·.2 < 0)) .valueError
      "Telemetry metrics must be unique non-negative counters.",
    rejectIf (¬ (record.distributions.map Prod.fst).Nodup ||
        record.distributions.any fun named => !"_duration".toList.isSuffixOf named.1.toList) .valueError
      "Telemetry distributions must be named duration aggregates."]

/-- `TelemetrySnapshot`. -/
abbrev TelemetrySnapshot := Checked TelemetrySnapshotRecord.violation

/-- `TelemetryExportResult`. -/
structure TelemetryExportResult where
  delivered : Bool
  retryable : Bool := false
  errorCode : Option String := none

end AiGovernance.Domain
