import AiGovernance.Domain.Telemetry
import AiGovernance.Std.Dict

/-!
# The telemetry service

`record`, `preview` and `flush` of `TelemetryService`
(`services/telemetry_service.py`), cut where the lock is given up: `flush` copies
the pending snapshots in one locked step, exports the copy outside the lock, and
replaces the list in another. Saving the state is best effort and reads nothing
back, and the privacy guard passes what a snapshot can hold; both are left out.
-/

namespace AiGovernance.Services.Telemetry

open AiGovernance.Std Domain

/-- `TelemetryMetrics`, but the duration of exports. -/
structure TelemetryMetrics where
  snapshotsCreatedTotal : Nat := 0
  exportsTotal : Nat := 0
  exportFailuresTotal : Nat := 0
  pendingSnapshots : Nat := 0
  droppedSnapshotsTotal : Nat := 0

/-- `_State`. -/
structure TelemetryState where
  identity : TelemetryIdentity
  periodStart : Instant
  counters : Dict TelemetryMetric Int := Dict.empty
  distributions : Dict String DurationHistogram := Dict.empty
  pending : List (TelemetrySnapshot × Nat) := []
  lastExportStatus : Option String := none
  lastSuccessfulExport : Option Instant := none

/-- `TelemetryService`. -/
structure TelemetryService where
  state : TelemetryState
  metrics : TelemetryMetrics := {}

/-- What one roll-over reads from outside: the clock, the configured period in microseconds
or what reading it raises, the policy, and the clock at the end of each snapshot. -/
structure RolloverReading where
  now : Instant
  period : Except Raised Nat
  policy : TelemetryPolicy
  ended : TelemetryCategory → Instant

namespace TelemetryService

/-- The counter of a metric, zero when it is absent. -/
def counter (state : TelemetryState) (metric : TelemetryMetric) : Int := (state.counters.get? metric).getD 0

/-- The counters of some metrics that are not zero. -/
def nonzero (state : TelemetryState) (metrics : List TelemetryMetric) : List (TelemetryMetric × Int) :=
  (metrics.map fun metric => (metric, counter state metric)).filter (·.2 ≠ 0)

/-- `_snapshot`. -/
def snapshot (state : TelemetryState) (category : TelemetryCategory) (metrics : List (TelemetryMetric × Int))
    (distributions : List (String × DurationHistogram)) (ended : Instant) : Except Raised TelemetrySnapshot :=
  Checked.create {
    identity := state.identity, periodStart := state.periodStart, periodEnd := ended, category, metrics, distributions }

/-- The snapshot of one category. -/
def snapshotOf (state : TelemetryState) (reading : RolloverReading) :
    TelemetryCategory → Except Raised TelemetrySnapshot
  | .essential =>
    snapshot state .essential (nonzero state [.installationStarted, .installationUpgraded]) []
      (reading.ended .essential)
  | .productAnalytics =>
    snapshot state .productAnalytics (nonzero state productMetrics) [] (reading.ended .productAnalytics)
  | .performanceResearch =>
    snapshot state .performanceResearch []
      (performanceDistributions.filterMap fun name => (state.distributions.get? name).map (name, ·))
      (reading.ended .performanceResearch)

/-- `_snapshots_locked`. -/
def snapshotsLocked (state : TelemetryState) (reading : RolloverReading) : Except Raised (List TelemetrySnapshot) :=
  ([.essential, .productAnalytics, .performanceResearch].filter reading.policy.allows).mapM
    (snapshotOf state reading)

/-- The bound of the pending list. -/
def pendingLimit : Nat := 30

/-- Whether the aggregation period has not elapsed. -/
def notDue (service : TelemetryService) (now : Instant) (period : Nat) : Bool :=
  (now.micros : Int) - service.state.periodStart.micros < period

/-- The pending list with new snapshots, before it is cut. -/
def extended (service : TelemetryService) (snapshots : List TelemetrySnapshot) : List (TelemetrySnapshot × Nat) :=
  service.state.pending ++ snapshots.map (·, 0)

/-- How many of the oldest pending snapshots are dropped. -/
def excess (service : TelemetryService) (snapshots : List TelemetrySnapshot) : Nat :=
  (service.extended snapshots).length - pendingLimit

/-- The writes of a roll-over that is due. -/
def rolledOver (service : TelemetryService) (snapshots : List TelemetrySnapshot) (now : Instant) :
    TelemetryService where
  state := { service.state with
    pending := (service.extended snapshots).drop (service.excess snapshots)
    periodStart := now
    counters := Dict.empty
    distributions := Dict.empty }
  metrics := { service.metrics with
    droppedSnapshotsTotal := service.metrics.droppedSnapshotsTotal + service.excess snapshots
    snapshotsCreatedTotal := service.metrics.snapshotsCreatedTotal + snapshots.length
    pendingSnapshots := ((service.extended snapshots).drop (service.excess snapshots)).length }

/-- The snapshots a roll-over adds: none when it is not due. -/
def dueSnapshots (service : TelemetryService) (reading : RolloverReading) :
    Except Raised (Option (List TelemetrySnapshot)) := do
  let period ← reading.period
  if service.notDue reading.now period then return none
  return some (← snapshotsLocked service.state reading)

/-- `_rollover_if_due_locked`. -/
def rolloverIfDueLocked (service : TelemetryService) (reading : RolloverReading) : Except Raised TelemetryService := do
  match ← service.dueSnapshots reading with
  | none => return service
  | some snapshots => return service.rolledOver snapshots reading.now

/-! ## Recording -/

/-- The category a metric is recorded under. -/
def categoryOf (metric : TelemetryMetric) : TelemetryCategory :=
  if metric ∈ productMetrics then .productAnalytics else .essential

/-- `_duration_name`. -/
def durationName : TelemetryMetric → Option String
  | .jobExecutions => some "job_execution_duration"
  | .evaluationRuns => some "evaluation_duration"
  | .replayRuns => some "replay_duration"
  | .impactSimulations => some "impact_simulation_duration"
  | _ => none

/-- One more of a metric. -/
def count (service : TelemetryService) (metric : TelemetryMetric) : TelemetryService :=
  { service with state := { service.state with
    counters := service.state.counters.set metric (counter service.state metric + 1) } }

/-- The observation of a duration; a negative one is refused after the metric was counted. -/
def observe (service : TelemetryService) (metric : TelemetryMetric) (durationMs : Option Int) : TelemetryService :=
  match durationMs, durationName metric with
  | some durationMs, some name =>
    match ((service.state.distributions.get? name).getD {}).observe durationMs with
    | .error _ => service
    | .ok histogram =>
      { service with state := { service.state with
        distributions := service.state.distributions.set name histogram } }
  | _, _ => service

/-- `record`; what it raises inside is logged. -/
def record (service : TelemetryService) (metric : TelemetryMetric) (durationMs : Option Int)
    (policy : TelemetryPolicy) (reading : RolloverReading) : TelemetryService :=
  if policy.allows (categoryOf metric) = false then service
  else
    match service.rolloverIfDueLocked reading with
    | .error _ => service
    | .ok rolled => (rolled.count metric).observe metric durationMs

/-- `preview`: the snapshots as they would be now, after a roll-over that is due. -/
def preview (service : TelemetryService) (reading shown : RolloverReading) :
    Except Raised (List TelemetrySnapshot) × TelemetryService :=
  match service.rolloverIfDueLocked reading with
  | .error raised => (.error raised, service)
  | .ok rolled => (snapshotsLocked rolled.state shown, rolled)

/-! ## Delivery -/

/-- The locked step of `flush` under a disabled policy. -/
def discard (service : TelemetryService) : TelemetryService where
  state := { service.state with pending := [] }
  metrics := { service.metrics with
    droppedSnapshotsTotal := service.metrics.droppedSnapshotsTotal + service.state.pending.length
    pendingSnapshots := 0 }

/-- The result of an export: an exception of the exporter counts as a retryable failure. -/
def exportResult : Option TelemetryExportResult → TelemetryExportResult
  | some result => result
  | none => { delivered := false, retryable := true, errorCode := some "EXPORTER_EXCEPTION" }

/-- `error_code or "failed"`. -/
def failureStatus (result : TelemetryExportResult) : String :=
  match result.errorCode with
  | some code => if code = "" then "failed" else code
  | none => "failed"

/-- What `_export` writes of a result. -/
def exported (service : TelemetryService) (result : TelemetryExportResult) (now : Instant) : TelemetryService :=
  let counted := { service.metrics with exportsTotal := service.metrics.exportsTotal + 1 }
  if result.delivered then
    { state := { service.state with lastExportStatus := some "succeeded", lastSuccessfulExport := some now }
      metrics := counted }
  else
    { state := { service.state with lastExportStatus := some (failureStatus result) }
      metrics := { counted with exportFailuresTotal := service.metrics.exportFailuresTotal + 1 } }

/-- One more dropped snapshot. -/
def dropOne (service : TelemetryService) : TelemetryService :=
  { service with metrics := { service.metrics with
    droppedSnapshotsTotal := service.metrics.droppedSnapshotsTotal + 1 } }

/-- The attempts after which a retryable failure is dropped. -/
def attemptLimit : Nat := 3

/-- Whether a failed snapshot is kept for another attempt. -/
def retains (result : TelemetryExportResult) (attempts : Nat) : Bool :=
  !result.delivered && result.retryable && attempts < attemptLimit

/-- The last locked step of `flush`. -/
def replacePending (service : TelemetryService) (retained : List (TelemetrySnapshot × Nat)) : TelemetryService where
  state := { service.state with pending := retained }
  metrics := { service.metrics with pendingSnapshots := retained.length }

end TelemetryService

end AiGovernance.Services.Telemetry
