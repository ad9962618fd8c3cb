import AiGovernance.Domain.Errors
import AiGovernance.Std.Instant
import AiGovernance.Std.Json
import AiGovernance.Std.Text

/-!
# Entities and relationships of the ontology

The vocabulary (`ontology/enums.py`) and the two record classes
(`ontology/models.py`). A type given as text is coerced to a member of the
vocabulary when a record is built, so a record holds the member itself.
-/

namespace AiGovernance.Ontology

open AiGovernance.Std Domain

/-- First-class entity types. -/
inductive EntityType where
  | actor
  | prompt
  | promptVersion
  | model
  | modelVersion
  | dataset
  | datasetVersion
  | evaluationProvider
  | experiment
  | candidate
  | evaluationRun
  | evaluationResult
  | metric
  | evaluationArtifact
  | evaluationHistory
  | evaluationComparison
  | driftAnalysis
  | leaderboard
  | leaderboardEntry
  | governanceDecision
  | policy
  | job
  | agentExecution
  | mcpAuditRecord
  | workflowExecution
  | replayInvestigation
  | replay
  | replayResult
  | governanceInsight
  | governanceReport
deriving DecidableEq

namespace EntityType

/-- The text of a member. -/
def value : EntityType → String
  | actor => "Actor"
  | prompt => "Prompt"
  | promptVersion => "PromptVersion"
  | model => "Model"
  | modelVersion => "ModelVersion"
  | dataset => "Dataset"
  | datasetVersion => "DatasetVersion"
  | evaluationProvider => "EvaluationProvider"
  | experiment => "Experiment"
  | candidate => "Candidate"
  | evaluationRun => "EvaluationRun"
  | evaluationResult => "EvaluationResult"
  | metric => "Metric"
  | evaluationArtifact => "EvaluationArtifact"
  | evaluationHistory => "EvaluationHistory"
  | evaluationComparison => "EvaluationComparison"
  | driftAnalysis => "DriftAnalysis"
  | leaderboard => "Leaderboard"
  | leaderboardEntry => "LeaderboardEntry"
  | governanceDecision => "GovernanceDecision"
  | policy => "Policy"
  | job => "Job"
  | agentExecution => "AgentExecution"
  | mcpAuditRecord => "MCPAuditRecord"
  | workflowExecution => "WorkflowExecution"
  | replayInvestigation => "ReplayInvestigation"
  | replay => "Replay"
  | replayResult => "ReplayResult"
  | governanceInsight => "GovernanceInsight"
  | governanceReport => "GovernanceReport"

/-- The members, in order of definition. -/
def members : List EntityType := [
  .actor, .prompt, .promptVersion, .model, .modelVersion, .dataset, .datasetVersion,
  .evaluationProvider, .experiment, .candidate, .evaluationRun, .evaluationResult, .metric,
  .evaluationArtifact, .evaluationHistory, .evaluationComparison, .driftAnalysis, .leaderboard,
  .leaderboardEntry, .governanceDecision, .policy, .job, .agentExecution, .mcpAuditRecord,
  .workflowExecution, .replayInvestigation, .replay, .replayResult, .governanceInsight,
  .governanceReport]

/-- `EntityType(value)`. -/
def parse (text : String) : Option EntityType := members.find? (·.value = text)

end EntityType

/-- Directed relationship names. -/
inductive RelationshipType where
  | hasVersion
  | versionOf
  | supersedes
  | ownedBy
  | createdBy
  | hasCandidate
  | participatesIn
  | uses
  | evaluatedBy
  | hasRun
  | executes
  | produces
  | hasMetric
  | hasArtifact
  | recordedIn
  | comparedWith
  | generates
  | causedDrift
  | rankedBy
  | hasEntry
  | ranks
  | recommends
  | generatedFrom
  | decidesOn
  | approvedBy
  | rejectedBy
  | blockedBy
  | governedBy
  | submittedAs
  | resultedIn
  | auditedBy
  | referencesResource
  | replayOf
  | reconstructs
  | observedBy
  | investigates
deriving DecidableEq

namespace RelationshipType

/-- The text of a member. -/
def value : RelationshipType → String
  | hasVersion => "HAS_VERSION"
  | versionOf => "VERSION_OF"
  | supersedes => "SUPERSEDES"
  | ownedBy => "OWNED_BY"
  | createdBy => "CREATED_BY"
  | hasCandidate => "HAS_CANDIDATE"
  | participatesIn => "PARTICIPATES_IN"
  | uses => "USES"
  | evaluatedBy => "EVALUATED_BY"
  | hasRun => "HAS_RUN"
  | executes => "EXECUTES"
  | produces => "PRODUCES"
  | hasMetric => "HAS_METRIC"
  | hasArtifact => "HAS_ARTIFACT"
  | recordedIn => "RECORDED_IN"
  | comparedWith => "COMPARED_WITH"
  | generates => "GENERATES"
  | causedDrift => "CAUSED_DRIFT"
  | rankedBy => "RANKED_BY"
  | hasEntry => "HAS_ENTRY"
  | ranks => "RANKS"
  | recommends => "RECOMMENDS"
  | generatedFrom => "GENERATED_FROM"
  | decidesOn => "DECIDES_ON"
  | approvedBy => "APPROVED_BY"
  | rejectedBy => "REJECTED_BY"
  | blockedBy => "BLOCKED_BY"
  | governedBy => "GOVERNED_BY"
  | submittedAs => "SUBMITTED_AS"
  | resultedIn => "RESULTED_IN"
  | auditedBy => "AUDITED_BY"
  | referencesResource => "REFERENCES_RESOURCE"
  | replayOf => "REPLAY_OF"
  | reconstructs => "RECONSTRUCTS"
  | observedBy => "OBSERVED_BY"
  | investigates => "INVESTIGATES"

/-- The members, in order of definition. -/
def members : List RelationshipType := [
  .hasVersion, .versionOf, .supersedes, .ownedBy, .createdBy, .hasCandidate, .participatesIn, .uses,
  .evaluatedBy, .hasRun, .executes, .produces, .hasMetric, .hasArtifact, .recordedIn, .comparedWith,
  .generates, .causedDrift, .rankedBy, .hasEntry, .ranks, .recommends, .generatedFrom, .decidesOn,
  .approvedBy, .rejectedBy, .blockedBy, .governedBy, .submittedAs, .resultedIn, .auditedBy,
  .referencesResource, .replayOf, .reconstructs, .observedBy, .investigates]

/-- `RelationshipType(value)`. -/
def parse (text : String) : Option RelationshipType := members.find? (·.value = text)

end RelationshipType

/-- `_require_non_empty`. -/
def requireNonEmpty (fieldName value : String) : Option Raised :=
  rejectIf (Text.isBlank value) .valueError (fieldName ++ " must not be empty.")

/-- A tenant. -/
structure Tenant where
  organizationId : String := "org_default"
  projectId : String := "project_default"
deriving DecidableEq

/-- The fields of `OntologyEntity`. -/
structure OntologyEntityRecord where
  entityId : String
  entityType : EntityType
  owner : String
  lifecycle : String
  createdAt : Instant
  ontologyVersion : String := "1.2.0"
  immutableAttributes : List (String × Json) := []
  mutableAttributes : List (String × Json) := []
  metadata : List (String × Json) := []
  organizationId : String := "org_default"
  projectId : String := "project_default"
  isDeleted : Bool := false
  deletedAt : Option Instant := none
deriving DecidableEq

/-- `OntologyEntity.__post_init__`. -/
def OntologyEntityRecord.violation (record : OntologyEntityRecord) : Option Raised :=
  firstViolation [
    requireNonEmpty "entity_id" record.entityId,
    requireNonEmpty "owner" record.owner,
    requireNonEmpty "lifecycle" record.lifecycle,
    requireNonEmpty "ontology_version" record.ontologyVersion,
    requireNonEmpty "organization_id" record.organizationId,
    requireNonEmpty "project_id" record.projectId]

/-- Storage-independent representation of one governance ontology entity. -/
abbrev OntologyEntity := Checked OntologyEntityRecord.violation

/-- A type and an identifier: how a relationship names its ends. -/
abbrev NodeKey := EntityType × String

/-- The tenant of an entity. -/
def OntologyEntityRecord.tenant (record : OntologyEntityRecord) : Tenant :=
  ⟨record.organizationId, record.projectId⟩

/-- The key of an entity within its tenant. -/
def OntologyEntityRecord.node (record : OntologyEntityRecord) : NodeKey := (record.entityType, record.entityId)

/-- The fields of `OntologyRelationship`. -/
structure OntologyRelationshipRecord where
  relationshipType : RelationshipType
  sourceEntityId : String
  sourceEntityType : EntityType
  targetEntityId : String
  targetEntityType : EntityType
  createdBy : String
  relationshipId : String
  createdAt : Instant
  ontologyVersion : String := "1.2.0"
  metadata : List (String × Json) := []
  organizationId : String := "org_default"
  projectId : String := "project_default"
  isDeleted : Bool := false
  deletedAt : Option Instant := none
deriving DecidableEq

/-- `OntologyRelationship.__post_init__`. -/
def OntologyRelationshipRecord.violation (record : OntologyRelationshipRecord) : Option Raised :=
  firstViolation [
    requireNonEmpty "relationship_id" record.relationshipId,
    requireNonEmpty "source_entity_id" record.sourceEntityId,
    requireNonEmpty "target_entity_id" record.targetEntityId,
    requireNonEmpty "created_by" record.createdBy,
    requireNonEmpty "ontology_version" record.ontologyVersion,
    requireNonEmpty "organization_id" record.organizationId,
    requireNonEmpty "project_id" record.projectId]

/-- Directed ontology relationship between two ontology entities. -/
abbrev OntologyRelationship := Checked OntologyRelationshipRecord.violation

namespace OntologyRelationshipRecord

/-- The tenant of a relationship. -/
def tenant (record : OntologyRelationshipRecord) : Tenant := ⟨record.organizationId, record.projectId⟩

/-- Where a relationship starts. -/
def source (record : OntologyRelationshipRecord) : NodeKey := (record.sourceEntityType, record.sourceEntityId)

/-- Where a relationship ends. -/
def target (record : OntologyRelationshipRecord) : NodeKey := (record.targetEntityType, record.targetEntityId)

end OntologyRelationshipRecord

end AiGovernance.Ontology
