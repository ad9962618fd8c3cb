import AiGovernance.Domain.RuntimeFinding
import AiGovernance.Repositories.Commands

/-!
# The runtime aggregation service

The metrics of `services/runtime_aggregation_service.py`, computed from the
executions created in a period and their events, and the metrics a
reconciliation reads for each detector it supports
(`_run_detector_for_subject`). The event metrics leave out what was received
after the cutoff; the execution metrics know no cutoff.
-/

namespace AiGovernance.Services

open AiGovernance.Std Domain Repositories Findings

/-- A metric dictionary, in the order its keys are written. -/
abbrev Metrics := List (String × Rat)

/-! ## What is read -/

/-- The executions created in a period, at most 10,000. -/
def executionsBetween (stores : Stores) (scope : Scope) (start stop : Instant) : List AgentExecution :=
  stores.executions.list { createdAfter := some start, createdBefore := some stop, limit := 10000 } scope

/-- An event of a type that is neither late nor received after the cutoff. -/
def countsAs (type : EventType) (evidenceReceivedBefore : Option Instant) (event : AgentExecutionEvent) : Bool :=
  !(event.record.lateForRuntimeFindings || evidenceReceivedBefore.any (· < event.record.receivedAt)) &&
    event.record.eventType = type

/-- The events of one execution that count. -/
def evidenceOf (stores : Stores) (scope : Scope) (type : EventType) (evidenceReceivedBefore : Option Instant)
    (executionId : String) : List AgentExecutionEvent :=
  (stores.events.listByExecution executionId scope none).filter (countsAs type evidenceReceivedBefore)

/-- The events that count, execution by execution. -/
def evidence (stores : Stores) (scope : Scope) (type : EventType) (start stop : Instant)
    (evidenceReceivedBefore : Option Instant) : List AgentExecutionEvent :=
  (executionsBetween stores scope start stop).flatMap fun execution =>
    evidenceOf stores scope type evidenceReceivedBefore execution.record.executionId

/-- The truth value of an attribute that may be absent. -/
def truthy : Option Json → Bool
  | none | some .null => false
  | some (.bool value) => value
  | some (.int value) => value ≠ 0
  | some (.float value) => value ≠ 0
  | some (.str value) => value ≠ ""
  | some (.arr items) => !items.isEmpty
  | some (.obj fields) => !fields.isEmpty

/-- `_tool_identity`. -/
def toolIdentity (attributes : List (String × Json)) : Option String :=
  ["tool_identity", "tool_id", "tool"].findSome? fun key =>
    match Json.field attributes key with
    | some (.str value) => if Text.isBlank value then none else some value
    | _ => none

/-! ## Metrics of a period -/

/-- `_compute_tool_metrics`. -/
def computeToolMetrics (toolId : String) (events : List AgentExecutionEvent) : Metrics :=
  let calls := events.filter fun event => toolIdentity event.record.attributes = some toolId
  let failures := calls.filter fun event =>
    Json.field event.record.attributes "status" = some (.str "failed") ||
      truthy (Json.field event.record.attributes "error")
  [("total_calls", calls.length), ("failures", failures.length)]

/-- `_compute_evaluation_metrics`. -/
def computeEvaluationMetrics (events : List AgentExecutionEvent) : Metrics :=
  let failures := events.filter fun event =>
    Json.field event.record.attributes "status" = some (.str "failed")
  [("total_evaluations", events.length), ("failures", failures.length)]

/-- `_compute_policy_denial_metrics`. -/
def computePolicyDenialMetrics (events : List AgentExecutionEvent) : Metrics :=
  let denials := events.filter fun event =>
    Json.field event.record.attributes "decision_outcome" = some (.str "denied")
  [("total_decisions", events.length), ("denials", denials.length)]

/-- `str` of a payload value. -/
def strOf (primitives : Primitives) : Json → String
  | .str text => text
  | value => primitives.repr value

/-- The category an error is counted under. -/
def errorCategory (primitives : Primitives) (event : AgentExecutionEvent) : String :=
  strOf primitives ((Json.field event.record.attributes "error_category").getD
    ((Json.field event.record.attributes "error_code").getD (.str "unknown")))

/-- `_compute_error_metrics`. -/
def computeErrorMetrics (primitives : Primitives) (executions : Nat) (events : List AgentExecutionEvent) : Metrics :=
  let counts : Dict String Nat := events.foldl (fun counts event =>
    let category := errorCategory primitives event
    counts.set category ((counts.get? category).getD 0 + 1)) .empty
  if counts.values.isEmpty then [("max_errors", 0), ("total_executions", executions)]
  else
    ("max_errors", ((counts.values.foldl max 0 : Nat) : Rat)) :: ("total_executions", (executions : Rat)) ::
      counts.entries.map fun (category, count) => ("error_" ++ category, (count : Rat))

/-- The statuses counted as failures. -/
def isFailure (status : AgentExecutionStatus) : Bool := status = .failed || status = .cancelled

/-- `_compute_agent_execution_metrics`. -/
def computeAgentExecutionMetrics (agentId : String) (executions : List AgentExecution) : Metrics :=
  let own := executions.filter (·.record.agentId = agentId)
  [("total_executions", own.length), ("failures", (own.filter (isFailure ·.record.status)).length)]

/-- `completed_at - started_at` in microseconds, of an execution that has completed. -/
def duration? (execution : AgentExecution) : Option Int :=
  execution.record.completedAt.map fun completed => (completed.micros : Int) - execution.record.startedAt.micros

/-- A duration in seconds. -/
def inSeconds (micros : Int) : Rat := micros / Instant.second

/-- `_compute_latency_metrics`; `int(n * 0.95)` is exact for at most 10,000 executions. -/
def computeLatencyMetrics (agentId : String) (executions : List AgentExecution) : Metrics :=
  let durations := ((executions.filter (·.record.agentId = agentId)).filterMap duration?).insertionSort (· ≤ ·)
  let n := durations.length
  if n = 0 then [("median_duration_seconds", 0), ("p95_duration_seconds", 0), ("total_executions", 0)]
  else
    [("median_duration_seconds", inSeconds (durations.getD (n / 2) 0)),
      ("p95_duration_seconds", inSeconds (durations.getD (min (n * 95 / 100) (n - 1)) 0)),
      ("total_executions", n)]

/-! ## What a reconciliation reads -/

/-- The detectors a reconciliation supports. -/
inductive SupportedDetector where
  | toolFailureRate
  | agentExecutionFailureRate
  | executionLatencyRegression
  | evaluationFailureRate
  | policyDenialRate
  | repeatedRuntimeError
deriving DecidableEq

/-- The metrics `_run_detector_for_subject` reads of one period. -/
def periodMetrics (primitives : Primitives) (stores : Stores) (scope : Scope) (detector : SupportedDetector)
    (subjectId : String) (evidenceReceivedBefore : Option Instant) (start stop : Instant) : Metrics :=
  match detector with
  | .toolFailureRate =>
    computeToolMetrics subjectId (evidence stores scope .toolCall start stop evidenceReceivedBefore)
  | .agentExecutionFailureRate => computeAgentExecutionMetrics subjectId (executionsBetween stores scope start stop)
  | .executionLatencyRegression => computeLatencyMetrics subjectId (executionsBetween stores scope start stop)
  | .evaluationFailureRate =>
    computeEvaluationMetrics (evidence stores scope .evaluation start stop evidenceReceivedBefore)
  | .policyDenialRate =>
    computePolicyDenialMetrics (evidence stores scope .governanceDecision start stop evidenceReceivedBefore)
  | .repeatedRuntimeError =>
    computeErrorMetrics primitives (executionsBetween stores scope start stop).length
      (evidence stores scope .error start stop evidenceReceivedBefore)

/-- The baseline and observed metrics of a window, with its recorded cutoff. -/
def windowMetrics (primitives : Primitives) (stores : Stores) (scope : Scope) (detector : SupportedDetector)
    (subjectId : String) (window : ReconciliationWindow) : Metrics × Metrics :=
  let metrics := periodMetrics primitives stores scope detector subjectId window.record.finalizationCutoffAt
  (metrics window.record.baselineStart window.record.baselineEnd,
    metrics window.record.observedStart window.record.observedEnd)

/-! ## The metrics of two periods -/

/-- A `get_*_metrics` function, with its arguments but the tenant and the periods. -/
inductive MetricsRequest where
  | tool (toolId : String) (evidenceReceivedBefore : Option Instant)
  | agentExecution (agentId : String)
  | evaluation (evidenceReceivedBefore : Option Instant)
  | policyDenial (evidenceReceivedBefore : Option Instant)
  | latency (agentId : Option String)
  | error (evidenceReceivedBefore : Option Instant)

/-- The events of some executions that count. -/
def evidenceAmong (stores : Stores) (scope : Scope) (type : EventType) (executions : List AgentExecution)
    (evidenceReceivedBefore : Option Instant) : List AgentExecutionEvent :=
  executions.flatMap fun execution => evidenceOf stores scope type evidenceReceivedBefore execution.record.executionId

/-- The median and the 95th percentile of some durations. -/
def latencyMetrics (durations : List Int) : Metrics :=
  let sorted := durations.insertionSort (· ≤ ·)
  let n := sorted.length
  if n = 0 then [("median_duration_seconds", 0), ("p95_duration_seconds", 0), ("total_executions", 0)]
  else
    [("median_duration_seconds", inSeconds (sorted.getD (n / 2) 0)),
      ("p95_duration_seconds", inSeconds (sorted.getD (min (n * 95 / 100) (n - 1)) 0)),
      ("total_executions", n)]

/-- The metrics of the executions that were read. -/
def MetricsRequest.metrics (primitives : Primitives) (stores : Stores) (scope : Scope)
    (executions : List AgentExecution) : MetricsRequest → Metrics
  | tool toolId evidenceReceivedBefore =>
    computeToolMetrics toolId (evidenceAmong stores scope .toolCall executions evidenceReceivedBefore)
  | agentExecution agentId => computeAgentExecutionMetrics agentId executions
  | evaluation evidenceReceivedBefore =>
    computeEvaluationMetrics (evidenceAmong stores scope .evaluation executions evidenceReceivedBefore)
  | policyDenial evidenceReceivedBefore =>
    computePolicyDenialMetrics (evidenceAmong stores scope .governanceDecision executions evidenceReceivedBefore)
  | latency agentId =>
    latencyMetrics ((executions.filter fun execution => agentId.all (execution.record.agentId = ·)).filterMap duration?)
  | error evidenceReceivedBefore =>
    computeErrorMetrics primitives executions.length
      (evidenceAmong stores scope .error executions evidenceReceivedBefore)

/-- `get_tool_metrics`, `get_agent_execution_metrics`, `get_evaluation_metrics`, `get_policy_denial_metrics`,
`get_latency_metrics` and `get_error_metrics`: the baseline and the observed metrics. -/
def getMetrics (primitives : Primitives) (stores : Stores) (scope : Scope) (request : MetricsRequest)
    (baselineStart baselineEnd observedStart observedEnd : Instant) : Metrics × Metrics :=
  (request.metrics primitives stores scope (executionsBetween stores scope baselineStart baselineEnd),
    request.metrics primitives stores scope (executionsBetween stores scope observedStart observedEnd))

end AiGovernance.Services
