import AiGovernance.Decisions.GovernanceDecision
import AiGovernance.Domain.Ontology
import AiGovernance.Std.Ranking
import Mathlib.Data.Prod.Lex

/-!
# Evidence graphs

The read-only evidence subgraph of one decision target (`decisions/evidence.py`):
nodes and edges projected from the ontology, and reports of what is missing. A
graph sorts its parts when it is built.
-/

namespace AiGovernance.Decisions

open AiGovernance.Std Domain
open Ontology (EntityType)

namespace DecisionTargetType

/-- The entity type a target type names. -/
def entityType : DecisionTargetType → EntityType
  | candidate => .candidate
  | experiment => .experiment
  | promptVersion => .promptVersion
  | modelVersion => .modelVersion
  | datasetVersion => .datasetVersion
  | evaluationRun => .evaluationRun
  | evaluationResult => .evaluationResult
  | job => .job
  | agentExecution => .agentExecution
  | governanceDecision => .governanceDecision

/-- The text of a member. -/
def value (targetType : DecisionTargetType) : String := targetType.entityType.value

end DecisionTargetType

/-- The fields of `EvidenceNode`. -/
structure EvidenceNodeRecord where
  entityType : String
  entityId : String
  label : Option String := none
  lifecycle : Option String := none
  attributes : Metadata := []
  metadata : Metadata := []
deriving DecidableEq

/-- `EvidenceNode.__post_init__`. -/
def EvidenceNodeRecord.violation (record : EvidenceNodeRecord) : Option Raised :=
  firstViolation [
    requireNonEmpty "evidence node entity_type" record.entityType,
    requireNonEmpty "evidence node entity_id" record.entityId]

/-- Evidence graph node projected from an ontology entity. -/
abbrev EvidenceNode := Checked EvidenceNodeRecord.violation

/-- The fields of `EvidenceEdge`. -/
structure EvidenceEdgeRecord where
  relationshipType : String
  sourceType : String
  sourceId : String
  targetType : String
  targetId : String
  metadata : Metadata := []
deriving DecidableEq

/-- `EvidenceEdge.__post_init__`. -/
def EvidenceEdgeRecord.violation (record : EvidenceEdgeRecord) : Option Raised :=
  firstViolation [
    requireNonEmpty "evidence edge relationship_type" record.relationshipType,
    requireNonEmpty "evidence edge source_type" record.sourceType,
    requireNonEmpty "evidence edge source_id" record.sourceId,
    requireNonEmpty "evidence edge target_type" record.targetType,
    requireNonEmpty "evidence edge target_id" record.targetId]

/-- Evidence graph edge projected from an ontology relationship. -/
abbrev EvidenceEdge := Checked EvidenceEdgeRecord.violation

/-- The fields of `DecisionEvidenceGraph`. -/
structure DecisionEvidenceGraphRecord where
  targetType : DecisionTargetType
  targetId : String
  nodes : List EvidenceNode := []
  edges : List EvidenceEdge := []
  missing : List MissingEvidence := []
  metadata : Metadata := []
deriving DecidableEq

/-- The check of `DecisionEvidenceGraph.__post_init__`. -/
def DecisionEvidenceGraphRecord.violation (record : DecisionEvidenceGraphRecord) : Option Raised :=
  firstViolation [requireNonEmpty "evidence graph target_id" record.targetId]

/-- Read-only evidence subgraph for one governance decision target. -/
abbrev DecisionEvidenceGraph := Checked DecisionEvidenceGraphRecord.violation

/-- The key nodes are sorted by. -/
def EvidenceNodeRecord.sortKey (record : EvidenceNodeRecord) : String ×ₗ String :=
  toLex (record.entityType, record.entityId)

/-- The key edges are sorted by. -/
def EvidenceEdgeRecord.sortKey (record : EvidenceEdgeRecord) : String ×ₗ String ×ₗ String ×ₗ String ×ₗ String :=
  toLex (record.relationshipType, toLex (record.sourceType, toLex (record.sourceId,
    toLex (record.targetType, record.targetId))))

/-- The key reports of missing evidence are sorted by. -/
def MissingEvidenceRecord.sortKey (record : MissingEvidenceRecord) : String ×ₗ String ×ₗ String :=
  toLex (record.severity, toLex (record.evidenceType, record.reason))

/-- `DecisionEvidenceGraph.__post_init__`: the target is checked and the parts are sorted. -/
def DecisionEvidenceGraph.build (record : DecisionEvidenceGraphRecord) : Except Raised DecisionEvidenceGraph :=
  Checked.create {
    record with
    nodes := Ranking.ascending (·.record.sortKey) record.nodes
    edges := Ranking.ascending (·.record.sortKey) record.edges
    missing := Ranking.ascending (·.record.sortKey) record.missing }

theorem DecisionEvidenceGraph.build_parts {record : DecisionEvidenceGraphRecord} {graph : DecisionEvidenceGraph}
    (built : DecisionEvidenceGraph.build record = .ok graph) :
    graph.record.nodes.Perm record.nodes ∧ graph.record.edges.Perm record.edges ∧
      graph.record.missing.Perm record.missing := by
  have same := Checked.create_eq_ok_iff.mp built
  rw [same]
  exact ⟨Ranking.perm_ascending, Ranking.perm_ascending, Ranking.perm_ascending⟩

theorem DecisionEvidenceGraph.build_ok (record : DecisionEvidenceGraphRecord)
    (named : Text.isBlank record.targetId = false) : ∃ graph, DecisionEvidenceGraph.build record = .ok graph := by
  refine ⟨⟨_, ?_⟩, Checked.create_eq_ok_iff.mpr rfl⟩
  exact firstViolation_eq_none.mpr (by simpa using named)

end AiGovernance.Decisions
