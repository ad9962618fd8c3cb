import AiGovernance.Decisions.EvidenceBuilder
import AiGovernance.Domain.RuntimeAuthorization
import AiGovernance.Std.Double

/-!
# Governance reasoning

`ReasoningEvidenceSummarizer` and `GovernanceReasoningEngine`
(`decisions/reasoning.py`) with the mapping of policy outcomes to a status and a
confidence (`decisions/outcome_mapping.py`): evidence is summarised, policies are
evaluated on its context, and what they say becomes a decision with a
deterministic identifier. The case tables of text and the digest are parameters.
-/

namespace AiGovernance.Decisions

open AiGovernance.Std Domain
open Ontology (EntityType)

/-- The language's case conversions of text. -/
structure Casing where
  lower : String → String
  upper : String → String

namespace PolicyEffect

/-- The text of a member. -/
def value : PolicyEffect → String
  | approve => "APPROVE"
  | reject => "REJECT"
  | block => "BLOCK"
  | recommend => "RECOMMEND"
  | investigate => "INVESTIGATE"
  | noDecision => "NO_DECISION"

/-- `FINAL_POLICY_EFFECTS`. -/
def isFinal : PolicyEffect → Bool
  | block | reject | approve => true
  | recommend | investigate | noDecision => false

end PolicyEffect

/-- The text of a member. -/
def DecisionType.value : DecisionType → String
  | approve => "APPROVE"
  | reject => "REJECT"
  | block => "BLOCK"
  | recommend => "RECOMMEND"
  | promote => "PROMOTE"
  | archive => "ARCHIVE"
  | investigate => "INVESTIGATE"

/-- The text of a member, in lower case. -/
def DecisionStatus.lowerValue : DecisionStatus → String
  | proposed => "proposed"
  | approved => "approved"
  | rejected => "rejected"
  | blocked => "blocked"
  | superseded => "superseded"
  | archived => "archived"

/-! ## Requests and summaries -/

/-- The fields of `GovernanceReasoningRequest`. -/
structure GovernanceReasoningRequestRecord where
  targetType : DecisionTargetType
  targetId : String
  decisionType : DecisionType
  policyIds : List String := []
  correlationId : Option String := none
  requestId : Option String := none
  producerId : String := "ai-governance-governance-reasoning-engine"
  metadata : Metadata := []
deriving DecidableEq

/-- `GovernanceReasoningRequest.__post_init__`. -/
def GovernanceReasoningRequestRecord.violation (record : GovernanceReasoningRequestRecord) : Option Raised :=
  firstViolation ([
    requireNonEmpty "reasoning request target_id" record.targetId,
    requireNonEmpty "reasoning request producer_id" record.producerId,
    requireOptionalNonEmpty "reasoning request correlation_id" record.correlationId,
    requireOptionalNonEmpty "reasoning request request_id" record.requestId] ++
    record.policyIds.map (requireNonEmpty "reasoning request policy_id"))

/-- Request to reason over one governance target. -/
abbrev GovernanceReasoningRequest := Checked GovernanceReasoningRequestRecord.violation

/-- The fields of `ReasoningEvidenceSummary`. -/
structure ReasoningEvidenceSummaryRecord where
  targetType : DecisionTargetType
  targetId : String
  metricScores : List (String × Rat)
  metricFailures : List String
  thresholdBreaches : List String
  driftSeverity : Option String
  latestJobStatus : Option String
  latestAuditStatus : Option String
  evaluationResultIds : List String
  metricIds : List String
  driftAnalysisIds : List String
  leaderboardIds : List String
  jobIds : List String
  mcpAuditIds : List String
  policyIds : List String
  missingEvidence : List MissingEvidence
  metadata : Metadata
deriving DecidableEq

/-- The check of `ReasoningEvidenceSummary.__post_init__`; its lists and scores are sorted as they are collected. -/
def ReasoningEvidenceSummaryRecord.violation (record : ReasoningEvidenceSummaryRecord) : Option Raised :=
  requireNonEmpty "reasoning evidence summary target_id" record.targetId

/-- Deterministic summary of decision-ready evidence. -/
abbrev ReasoningEvidenceSummary := Checked ReasoningEvidenceSummaryRecord.violation

/-! ## The summarizer -/

/-- `_node_name`; an empty label counts as none. -/
def nodeName (node : EvidenceNode) : String :=
  match firstString node.record.attributes node.record.metadata ["metric_name", "name", "label"] with
  | some name => name
  | none =>
    match node.record.label with
    | some label => if label = "" then node.record.entityId else label
    | none => node.record.entityId

/-- `_node_status`. -/
def nodeStatus (casing : Casing) (node : EvidenceNode) : Option String :=
  ((firstString node.record.attributes node.record.metadata ["status", "lifecycle"]).or node.record.lifecycle).map
    casing.upper

/-- `float(score)` of a score that is a number; a boolean is one. -/
def numericScore : Json → Except Raised (Option Rat)
  | .bool value => .ok (some (if value then 1 else 0))
  | .int value =>
    match Double.ofInt value with
    | some score => .ok (some score)
    | none => .error ⟨.overflowError, "int too large to convert to float"⟩
  | .float value => .ok (some value)
  | .null | .str _ | .arr _ | .obj _ => .ok none

/-- What the loop of `summarize` has collected. -/
structure Summarized where
  metricScores : Dict String Rat := .empty
  metricFailures : List String := []
  driftSeverity : Option String := none
  latestJobStatus : Option String := none
  latestAuditStatus : Option String := none

/-- The scores with that of one more metric node. -/
def summarizeScore (casing : Casing) (scores : Dict String Rat) (node : EvidenceNode) :
    Except Raised (Dict String Rat) :=
  match firstPresent node.record.attributes node.record.metadata ["score", "value", "metric_value"] with
  | none => .ok scores
  | some score => do
      match ← numericScore score with
      | some value => return scores.set (normalizeKey casing.lower (nodeName node)) value
      | none => return scores

/-- One round of the loop of `summarize`. -/
def summarizeNode (casing : Casing) (summarized : Summarized) (node : EvidenceNode) : Except Raised Summarized :=
  if node.record.entityType = EntityType.metric.value then do
    let metricScores ← summarizeScore casing summarized.metricScores node
    let failed := nodeStatus casing node ∈ [some "FAILED", some "FAILURE", some "ERROR"]
    return {
      summarized with
      metricScores
      metricFailures := summarized.metricFailures ++
        if failed then [normalizeKey casing.lower (nodeName node)] else [] }
  else if node.record.entityType = EntityType.driftAnalysis.value then
    .ok {
      summarized with
      driftSeverity := firstString node.record.attributes node.record.metadata ["severity", "drift_severity"] }
  else if node.record.entityType = EntityType.job.value then
    .ok { summarized with latestJobStatus := nodeStatus casing node }
  else if node.record.entityType = EntityType.mcpAuditRecord.value then
    .ok { summarized with latestAuditStatus := nodeStatus casing node }
  else .ok summarized

/-- What a metric node says of a breached threshold. -/
def thresholdBreach (casing : Casing) (node : EvidenceNode) : Option String :=
  if node.record.entityType ≠ EntityType.metric.value then none
  else
    match firstPresent node.record.attributes node.record.metadata ["threshold_breach", "breached_threshold"] with
    | some (.bool true) => some (normalizeKey casing.lower (nodeName node))
    | some (.str breach) => if Text.isBlank breach then none else some breach
    | _ => none

/-- `_threshold_breaches`. -/
def thresholdBreaches (casing : Casing) (nodes : List EvidenceNode) : List String :=
  Ranking.ascending id (nodes.filterMap (thresholdBreach casing))

/-- One entry of `_ids_by_type`. -/
def idsOfType (nodes : List EvidenceNode) (entityType : EntityType) : List String :=
  Ranking.ascending id ((nodes.filter (·.record.entityType = entityType.value)).map (·.record.entityId))

/-- `ReasoningEvidenceSummarizer.summarize`. -/
def summarize (casing : Casing) (evidenceGraph : DecisionEvidenceGraph) : Except Raised ReasoningEvidenceSummary := do
  let nodes := evidenceGraph.record.nodes
  let summarized ← nodes.foldlM (summarizeNode casing) {}
  Checked.create {
    targetType := evidenceGraph.record.targetType
    targetId := evidenceGraph.record.targetId
    metricScores := Ranking.ascending Prod.fst summarized.metricScores.entries
    metricFailures := Ranking.ascending id summarized.metricFailures
    thresholdBreaches := thresholdBreaches casing nodes
    driftSeverity := summarized.driftSeverity
    latestJobStatus := summarized.latestJobStatus
    latestAuditStatus := summarized.latestAuditStatus
    evaluationResultIds := idsOfType nodes .evaluationResult
    metricIds := idsOfType nodes .metric
    driftAnalysisIds := idsOfType nodes .driftAnalysis
    leaderboardIds := idsOfType nodes .leaderboard
    jobIds := idsOfType nodes .job
    mcpAuditIds := idsOfType nodes .mcpAuditRecord
    policyIds := idsOfType nodes .policy
    missingEvidence := evidenceGraph.record.missing
    metadata := evidenceGraph.record.metadata }

/-! ## Outcomes -/

/-- The matched outcomes. -/
def matchedOutcomes (policyOutcomes : List PolicyEvaluationOutcome) : List PolicyEvaluationOutcome :=
  policyOutcomes.filter (·.matched)

/-- `_matched_effects`. -/
def matchedEffects (policyOutcomes : List PolicyEvaluationOutcome) : List PolicyEffect :=
  (matchedOutcomes policyOutcomes).map (·.effect)

/-- `map_policy_outcomes_to_status`. -/
def mapPolicyOutcomesToStatus (policyOutcomes : List PolicyEvaluationOutcome) : DecisionStatus :=
  let effects := matchedEffects policyOutcomes
  if .block ∈ effects then .blocked
  else if .reject ∈ effects then .rejected
  else if .approve ∈ effects then .approved
  else if .recommend ∈ effects then .proposed
  else if .investigate ∈ effects then .proposed
  else .proposed

/-- `map_policy_outcomes_to_confidence`. -/
def mapPolicyOutcomesToConfidence (policyOutcomes : List PolicyEvaluationOutcome)
    (missingEvidence : List MissingEvidence) : DecisionConfidenceLevel :=
  if missingEvidence.any (·.record.severity = "CRITICAL") then .low
  else if (matchedOutcomes policyOutcomes).isEmpty then .low
  else if missingEvidence.any (·.record.severity = "WARNING") then .medium
  else if (matchedOutcomes policyOutcomes).any (·.effect.isFinal) then .high
  else .medium

/-- The reasons of the matched outcomes, sorted. -/
def matchedReasons (policyOutcomes : List PolicyEvaluationOutcome) : List String :=
  Ranking.ascending id ((matchedOutcomes policyOutcomes).map (·.reason))

/-- `_decision_reason`. -/
def decisionReason (policyOutcomes : List PolicyEvaluationOutcome) : String :=
  (matchedReasons policyOutcomes).head?.getD "No policy produced a final decision."

/-! ## Identifiers and references -/

/-- `_stable_hash`: the first sixteen digits of a digest. -/
def stableHash (primitives : Primitives) (value : List (String × Json)) : String :=
  String.ofList ((primitives.stableDigest value).toList.take 16)

/-- An array of texts. -/
def texts (values : List String) : Json := .arr (values.map .str)

/-- A text or `None`. -/
def textOrNull (value : Option String) : Json := value.elim .null .str

/-- `_missing_evidence_id`. -/
def missingEvidenceId (primitives : Primitives) (missing : MissingEvidence) : String :=
  stableHash primitives [
    ("evidence_type", .str missing.record.evidenceType),
    ("severity", .str missing.record.severity),
    ("reason", .str missing.record.reason)]

/-- `_summary_fingerprint`. -/
def summaryFingerprint (summary : ReasoningEvidenceSummary) : Json :=
  .obj [
    ("metric_scores", .obj (summary.record.metricScores.map fun entry => (entry.1, .float entry.2))),
    ("metric_failures", texts summary.record.metricFailures),
    ("threshold_breaches", texts summary.record.thresholdBreaches),
    ("drift_severity", textOrNull summary.record.driftSeverity),
    ("latest_job_status", textOrNull summary.record.latestJobStatus),
    ("latest_audit_status", textOrNull summary.record.latestAuditStatus),
    ("evaluation_result_ids", texts summary.record.evaluationResultIds),
    ("metric_ids", texts summary.record.metricIds),
    ("drift_analysis_ids", texts summary.record.driftAnalysisIds),
    ("leaderboard_ids", texts summary.record.leaderboardIds),
    ("job_ids", texts summary.record.jobIds),
    ("mcp_audit_ids", texts summary.record.mcpAuditIds),
    ("policy_ids", texts summary.record.policyIds),
    ("missing_evidence", .arr (summary.record.missingEvidence.map fun item => .obj [
      ("evidence_type", .str item.record.evidenceType),
      ("reason", .str item.record.reason),
      ("severity", .str item.record.severity)]))]

/-- What the identifier of a decision is told of an outcome. -/
def outcomeFingerprint (outcome : PolicyEvaluationOutcome) : Json :=
  .obj [
    ("policy_id", .str outcome.policyId),
    ("policy_version", .str outcome.policyVersion),
    ("matched_rule_id", textOrNull outcome.matchedRuleId),
    ("effect", .str outcome.effect.value),
    ("matched", .bool outcome.matched)]

/-- The key outcomes are sorted by. -/
def outcomeKey (outcome : PolicyEvaluationOutcome) : String ×ₗ String ×ₗ String :=
  toLex (outcome.policyId, toLex (outcome.policyVersion, outcome.matchedRuleId.getD ""))

/-- What the identifier of a decision is a digest of. -/
def decisionPayload (request : GovernanceReasoningRequest) (summary : ReasoningEvidenceSummary)
    (policyOutcomes : List PolicyEvaluationOutcome) : List (String × Json) := [
  ("target_type", .str request.record.targetType.value),
  ("target_id", .str request.record.targetId),
  ("decision_type", .str request.record.decisionType.value),
  ("policy_ids", texts request.record.policyIds),
  ("evidence_summary", summaryFingerprint summary),
  ("policy_outcomes", .arr ((Ranking.ascending outcomeKey policyOutcomes).map outcomeFingerprint))]

/-- `_decision_id`. -/
def decisionId (primitives : Primitives) (request : GovernanceReasoningRequest) (summary : ReasoningEvidenceSummary)
    (policyOutcomes : List PolicyEvaluationOutcome) : String :=
  "decision:" ++ request.record.targetType.value ++ ":" ++ request.record.targetId ++ ":" ++
    request.record.decisionType.value ++ ":" ++ stableHash primitives (decisionPayload request summary policyOutcomes)

/-- A reference of the engine to evidence of some type. -/
def evidenceReference (evidenceType evidenceId : String) (metadata : Metadata) :
    Except Raised DecisionEvidenceReference :=
  Checked.create {
    evidenceType, evidenceId
    relationshipType := none
    source := some "governance-reasoning-engine"
    metadata }

/-- The evidence a summary lists, by type. -/
def listedEvidence (summary : ReasoningEvidenceSummary) : List (String × String) :=
  [("EvaluationResult", summary.record.evaluationResultIds),
    ("Metric", summary.record.metricIds),
    ("DriftAnalysis", summary.record.driftAnalysisIds),
    ("Leaderboard", summary.record.leaderboardIds),
    ("Job", summary.record.jobIds),
    ("MCPAuditRecord", summary.record.mcpAuditIds),
    ("Policy", summary.record.policyIds)].flatMap fun entry => entry.2.map fun evidenceId => (entry.1, evidenceId)

/-- The reference to a report of missing evidence. -/
def missingReference (primitives : Primitives) (missing : MissingEvidence) : Except Raised DecisionEvidenceReference :=
  evidenceReference "MissingEvidence" (missingEvidenceId primitives missing)
    [("missing_evidence_type", .str missing.record.evidenceType), ("severity", .str missing.record.severity)]

/-- The reference to the summary as a whole, when there is no other. -/
def wholeReference (summary : ReasoningEvidenceSummary) (others : List DecisionEvidenceReference) :
    Except Raised (List DecisionEvidenceReference) :=
  if others.isEmpty then
    (evidenceReference "ReasoningEvidenceSummary"
      (summary.record.targetType.value ++ ":" ++ summary.record.targetId) []).map ([·])
  else .ok []

/-- `_evidence_references`. -/
def evidenceReferences (primitives : Primitives) (summary : ReasoningEvidenceSummary) :
    Except Raised (List DecisionEvidenceReference) := do
  let listed ← (listedEvidence summary).mapM fun entry => evidenceReference entry.1 entry.2 []
  let missing ← summary.record.missingEvidence.mapM (missingReference primitives)
  let whole ← wholeReference summary (listed ++ missing)
  return Ranking.ascending (fun reference => toLex (reference.record.evidenceType, reference.record.evidenceId))
    (listed ++ missing ++ whole)

/-- The policies by identifier and version, a later one in the place of an earlier. -/
def policyMap (policies : List GovernancePolicy) : Dict (String × String) GovernancePolicy :=
  policies.foldl (fun named policy => named.set (policy.record.policyId, policy.record.version) policy) .empty

/-- The reference to the policy of an outcome. -/
def policyReference (policies : List GovernancePolicy) (outcome : PolicyEvaluationOutcome) :
    Except Raised DecisionPolicyReference :=
  Checked.create {
    policyId := outcome.policyId
    policyVersion := outcome.policyVersion
    policyName := ((policyMap policies).get? (outcome.policyId, outcome.policyVersion)).map (·.record.name)
    metadata := [] }

/-- The key references to policies are sorted by. -/
def referenceKey (reference : DecisionPolicyReference) : String ×ₗ String :=
  toLex (reference.record.policyId, reference.record.policyVersion)

/-- `_policy_references`. -/
def policyReferences (policyOutcomes : List PolicyEvaluationOutcome) (policies : List GovernancePolicy) :
    Except Raised (List DecisionPolicyReference) := do
  let references ← (matchedOutcomes policyOutcomes).mapM (policyReference policies)
  return Ranking.ascending referenceKey references

/-- `_explanation_reasons`. -/
def explanationReasons (policyOutcomes : List PolicyEvaluationOutcome) (summary : ReasoningEvidenceSummary) :
    List String :=
  let reasons := matchedReasons policyOutcomes ++
    (summary.record.missingEvidence.filter (·.record.severity = "CRITICAL")).map fun missing =>
      "Critical missing evidence: " ++ missing.record.evidenceType ++ " - " ++ missing.record.reason
  if reasons.isEmpty then ["No policy produced a final decision."] else reasons

/-- `_explanation_summary`. -/
def explanationSummary (decision : GovernanceDecision) : String :=
  decision.record.target.record.targetType.value ++ " " ++ decision.record.target.record.targetId ++ " was " ++
    decision.record.status.lowerValue ++ " because " ++ decision.record.reason

/-- `_explanation`. -/
def reasoningExplanation (decision : GovernanceDecision) (summary : ReasoningEvidenceSummary)
    (policyOutcomes : List PolicyEvaluationOutcome) (evidenceReferences : List DecisionEvidenceReference)
    (policyReferences : List DecisionPolicyReference) : Except Raised DecisionExplanation :=
  Checked.create {
    decisionId := decision.record.decisionId
    summary := explanationSummary decision
    reasons := explanationReasons policyOutcomes summary
    evidenceReferences, policyReferences
    missingEvidence := summary.record.missingEvidence
    metadata := [("target_id", .str summary.record.targetId)] }

/-! ## The engine -/

/-- The fields of `GovernanceReasoningOutcome`. -/
structure GovernanceReasoningOutcome where
  decision : GovernanceDecision
  evidenceGraph : DecisionEvidenceGraph
  evidenceSummary : ReasoningEvidenceSummary
  policyOutcomes : List PolicyEvaluationOutcome
  explanation : DecisionExplanation

/-- `GovernanceReasoningEngine.reason`, from the evidence graph and the policies of the request on. -/
def reasonOver (primitives : Primitives) (casing : Casing) (request : GovernanceReasoningRequest)
    (evidenceGraph : DecisionEvidenceGraph) (policies : List GovernancePolicy) :
    Except Raised GovernanceReasoningOutcome := do
  let evidenceSummary ← summarize casing evidenceGraph
  let policyContext ← buildPolicyContext casing.lower evidenceGraph
  let policyOutcomes := policies.map fun policy => policy.evaluate policyContext
  let evidence ← evidenceReferences primitives evidenceSummary
  let references ← policyReferences policyOutcomes policies
  let target ← Checked.create { targetType := request.record.targetType, targetId := request.record.targetId }
  let provenance ← Checked.create {
    producerType := .policyEngine
    producerId := request.record.producerId
    actorId := none
    correlationId := request.record.correlationId
    requestId := request.record.requestId
    createdAt := ⟨0⟩ }
  let decision ← Checked.create {
    decisionId := decisionId primitives request evidenceSummary policyOutcomes
    decisionType := request.record.decisionType
    status := mapPolicyOutcomesToStatus policyOutcomes
    target
    reason := decisionReason policyOutcomes
    confidence := mapPolicyOutcomesToConfidence policyOutcomes evidenceSummary.record.missingEvidence
    evidence
    policies := references
    provenance
    supersession := .empty
    metadata := request.record.metadata
    finalizedAt := none
    archivedAt := none }
  let explanation ← reasoningExplanation decision evidenceSummary policyOutcomes evidence references
  return { decision, evidenceGraph, evidenceSummary, policyOutcomes, explanation }

/-- `GovernanceReasoningEngine.reason`; the policies are those the provider gives for the request. -/
def reason (primitives : Primitives) (casing : Casing) (builder : DecisionEvidenceBuilder)
    (provider : GovernanceReasoningRequest → List GovernancePolicy) (request : GovernanceReasoningRequest) :
    Except Raised GovernanceReasoningOutcome := do
  let evidenceGraph ← builder.buildForTarget request.record.targetType request.record.targetId 3
  reasonOver primitives casing request evidenceGraph (provider request)

end AiGovernance.Decisions
