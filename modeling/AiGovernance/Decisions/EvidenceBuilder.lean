import AiGovernance.Decisions.Evidence
import AiGovernance.Decisions.GovernancePolicies
import AiGovernance.Services.OntologyGraphQuery

/-!
# The evidence builder

`DecisionEvidenceBuilder` (`decisions/evidence_builder.py`) turns the
neighbourhood of a decision target into an evidence graph, says what is missing
from it, and flattens it into the context policies are evaluated on. The
lower-casing of text is a parameter, as its table is not part of the repository.
-/

namespace AiGovernance.Decisions

open AiGovernance.Std Domain Services
open PolicyAdministration (merged)
open Ontology (EntityType GraphEntity GraphRelationship GraphSubgraph GraphNode GraphStore
  NodeKey TextFunctions)

/-! ## Attributes -/

/-- `mapping[name]`, unless it is missing or `None`. -/
def presentField (mapping : Metadata) (name : String) : Option Json :=
  (Json.field mapping name).filter (· ≠ .null)

/-- `_first_present`. -/
def firstPresent (attributes metadata : Metadata) (names : List String) : Option Json :=
  [attributes, metadata].findSome? fun mapping => names.findSome? (presentField mapping)

/-- Text that is not blank. -/
def textOf? : Json → Option String
  | .str text => if Text.isBlank text then none else some text
  | _ => none

/-- `_first_string`. -/
def firstString (attributes metadata : Metadata) (names : List String) : Option String :=
  (firstPresent attributes metadata names).bind textOf?

/-- `_normalize_key`. -/
def normalizeKey (lower : String → String) (value : String) : String :=
  String.ofList ((lower (Text.strip value)).toList.map fun c => if c = ' ' ∨ c = '-' then '_' else c)

/-! ## Building -/

/-- `RELEVANT_ENTITY_TYPES`. -/
def relevantEntityTypes : List EntityType := [
  .evaluationResult, .evaluationRun, .metric, .evaluationArtifact, .evaluationComparison, .driftAnalysis,
  .leaderboard, .leaderboardEntry, .job, .mcpAuditRecord, .replayInvestigation, .workflowExecution,
  .governanceInsight, .governanceReport, .policy]

/-- `RELEVANT_RELATIONSHIP_TYPES`. -/
def relevantRelationshipTypes : List Ontology.RelationshipType := [
  .generatedFrom, .hasRun, .executes, .produces, .hasMetric, .hasArtifact, .evaluatedBy, .comparedWith, .causedDrift,
  .resultedIn, .auditedBy, .referencesResource, .replayOf, .reconstructs, .observedBy, .governedBy, .blockedBy,
  .recommends, .hasEntry, .ranks]

/-- A report of missing evidence. -/
def report (evidenceType reason severity : String) (metadata : Metadata)
    (valid : MissingEvidenceRecord.violation { evidenceType, reason, severity, metadata := [] } = none) :
    MissingEvidence :=
  ⟨{ evidenceType, reason, severity, metadata }, valid⟩

/-- The report of a target that is not in the graph. -/
def missingTarget : MissingEvidence := report "Target" "Target entity was not found." "CRITICAL" [] rfl

/-- The report that the result limit was reached. -/
def resultLimit (limit : Int) : MissingEvidence :=
  report "ResultLimit" "Evidence graph reached the configured result limit." "WARNING" [("limit", .int limit)] rfl

/-- `_missing_evidence`. -/
def missingEvidence (nodes : List EvidenceNode) : List MissingEvidence :=
  let entityTypes := nodes.map (·.record.entityType)
  (if EntityType.evaluationResult.value ∈ entityTypes then []
    else [report "EvaluationResult" "No evaluation result evidence is connected." "WARNING" [] rfl]) ++
  (if EntityType.metric.value ∈ entityTypes then []
    else [report "Metric" "No metric evidence is connected." "WARNING" [] rfl]) ++
  (if EntityType.policy.value ∈ entityTypes then []
    else [report "Policy" "No policy reference is connected." "INFO" [] rfl])

/-- `_evidence_node`. -/
def evidenceNode (entity : GraphEntity) : Except Raised EvidenceNode :=
  let attributes := merged entity.immutableAttributes entity.mutableAttributes
  Checked.create {
    entityType := entity.entityType.value
    entityId := entity.entityId
    label := firstString attributes entity.metadata ["label", "name", "metric_name", "display_name"]
    lifecycle := some entity.lifecycle
    attributes
    metadata := entity.metadata }

/-- `_evidence_edge`. -/
def evidenceEdge (relationship : GraphRelationship) : Except Raised EvidenceEdge :=
  Checked.create {
    relationshipType := relationship.relationshipType.value
    sourceType := relationship.sourceEntityType.value
    sourceId := relationship.sourceEntityId
    targetType := relationship.targetEntityType.value
    targetId := relationship.targetEntityId
    metadata := relationship.metadata }

/-- The entities of a subgraph and the target, each key once. -/
def graphEntities (subgraph : GraphSubgraph) (target : GraphEntity) : Dict NodeKey GraphEntity :=
  subgraph.nodes.foldl (fun entities node => entities.set (node.entity.entityType, node.entity.entityId) node.entity)
    (Dict.empty.set (target.entityType, target.entityId) target)

/-- `_evidence_nodes`. -/
def evidenceNodes (subgraph : GraphSubgraph) (target : GraphEntity) : Except Raised (List EvidenceNode) :=
  (Ranking.ascending (fun entity => toLex (entity.entityType.value, entity.entityId))
    (graphEntities subgraph target).values).mapM evidenceNode

/-- `_evidence_edges`. -/
def evidenceEdges (subgraph : GraphSubgraph) : Except Raised (List EvidenceEdge) :=
  (Ranking.ascending (fun edge : GraphRelationship => toLex (edge.relationshipType.value,
    toLex (edge.sourceEntityType.value, toLex (edge.sourceEntityId,
      toLex (edge.targetEntityType.value, edge.targetEntityId))))) subgraph.edges).mapM evidenceEdge

/-- Read-only builder for decision-ready evidence graphs and policy context. -/
structure DecisionEvidenceBuilder where
  text : TextFunctions
  store : GraphStore
  limit : Int := 500

/-- `build_for_target`. -/
def DecisionEvidenceBuilder.buildForTarget (builder : DecisionEvidenceBuilder) (targetType : DecisionTargetType)
    (targetId : String) (depth : Int) : Except Raised DecisionEvidenceGraph := do
  if let some raised := requireNonEmpty "evidence builder target_id" targetId then throw raised
  match ← OntologyGraphQueryService.getEntity builder.text builder.store targetType.value targetId with
  | none =>
    DecisionEvidenceGraph.build {
      targetType, targetId
      missing := [missingTarget]
      metadata := [("depth", .int depth), ("target_found", .bool false)] }
  | some target =>
    let subgraph ← OntologyGraphQueryService.getNeighbourhood builder.text builder.store targetType.value targetId
      depth (relevantRelationshipTypes.map Ontology.RelationshipType.value)
      ((targetType.entityType :: relevantEntityTypes).map EntityType.value) builder.limit
    let nodes ← evidenceNodes subgraph target
    let edges ← evidenceEdges subgraph
    let missing := missingEvidence nodes ++ if builder.limit ≤ nodes.length then [resultLimit builder.limit] else []
    DecisionEvidenceGraph.build {
      targetType, targetId, nodes, edges, missing
      metadata := [("depth", .int depth), ("limit", .int builder.limit), ("target_found", .bool true)] }

/-! ## The policy context -/

/-- `_map_metric`: the metrics of a context with those of one more node. -/
def mapMetric (lower : String → String) (metrics : Metadata) (node : EvidenceNode) : Metadata :=
  let metricName := (firstString node.record.attributes node.record.metadata ["metric_name", "name", "label"]).getD
    node.record.entityId
  let score := firstPresent node.record.attributes node.record.metadata ["score", "value", "metric_value"]
  Dict.write metrics (normalizeKey lower metricName)
    (.obj (("id", .str node.record.entityId) :: (score.map fun score => ("score", score)).toList))

/-- `_map_drift`. -/
def mapDrift (drift : Metadata) (node : EvidenceNode) : Metadata :=
  let drift :=
    match firstPresent node.record.attributes node.record.metadata ["severity", "drift_severity"] with
    | some severity => Dict.write drift "severity" severity
    | none => drift
  Dict.write drift "id" (.str node.record.entityId)

/-- `_map_latest_status`. -/
def mapLatestStatus (context : Metadata) (node : EvidenceNode) : Metadata :=
  let status := (firstPresent node.record.attributes node.record.metadata ["status", "lifecycle"]).getD
    (node.record.lifecycle.elim .null .str)
  Dict.write (Dict.write context "latest_status" status) "latest_id" (.str node.record.entityId)

/-- The parts of a policy context that evidence nodes are mapped to. -/
structure MappedEvidence where
  metrics : Metadata := []
  drift : Metadata := []
  jobs : Metadata := []
  audit : Metadata := []

/-- One round of the loop of `build_policy_context`. -/
def mapNode (lower : String → String) (mapped : MappedEvidence) (node : EvidenceNode) : MappedEvidence :=
  if node.record.entityType = EntityType.metric.value then
    { mapped with metrics := mapMetric lower mapped.metrics node }
  else if node.record.entityType = EntityType.driftAnalysis.value then
    { mapped with drift := mapDrift mapped.drift node }
  else if node.record.entityType = EntityType.job.value then
    { mapped with jobs := mapLatestStatus mapped.jobs node }
  else if node.record.entityType = EntityType.mcpAuditRecord.value then
    { mapped with audit := mapLatestStatus mapped.audit node }
  else mapped

/-- `build_policy_context`. -/
def buildPolicyContext (lower : String → String) (evidenceGraph : DecisionEvidenceGraph) :
    Except Raised PolicyEvaluationContext :=
  let mapped := evidenceGraph.record.nodes.foldl (mapNode lower) {}
  Checked.create {
    targetType := evidenceGraph.record.targetType
    targetId := evidenceGraph.record.targetId
    evidence := [
      ("target", .obj [("type", .str evidenceGraph.record.targetType.value), ("id", .str evidenceGraph.record.targetId)]),
      ("metrics", .obj mapped.metrics),
      ("drift", .obj mapped.drift),
      ("jobs", .obj mapped.jobs),
      ("audit", .obj mapped.audit)] }

end AiGovernance.Decisions
