import AiGovernance.Repositories.Evaluations
import AiGovernance.Std.Grouping
import AiGovernance.Std.Like
import AiGovernance.Std.Offset

/-!
# The SQLite evaluation repository

`SQLiteEvaluationRepository` keeps one row per metric in `agent_evaluation`, and
`EvaluationPersistenceMapper` puts results together from rows again. A JSON
column holds the document it parses to, and `created_at` the instant it denotes;
it is compared as text, written at the offset of the table.
-/

namespace AiGovernance.Evaluations

open AiGovernance.Std Domain Semantics

/-- A row of `agent_evaluation`. -/
structure EvaluationRow where
  evaluationId : String
  executionId : String
  evaluatorType : String
  evaluatorVersion : String
  metricName : String
  metricScore : Rat
  explanation : Option String
  metadataJson : List (String × Json)
  providerMetadataJson : List (String × Json)
  providerDescriptorSnapshotJson : Option (List (String × Json))
  artifactsJson : List (List (String × Json))
  createdAt : Instant
  organizationId : String
  projectId : String
deriving DecidableEq

/-! ## The mapper -/

namespace EvaluationPersistenceMapper

/-- The document of an artifact. -/
def artifactDocument (artifact : EvaluationArtifact) : List (String × Json) :=
  [("artifact_type", .str artifact.artifactType), ("uri", (artifact.uri.map .str).getD .null),
    ("payload", (artifact.payload.map .obj).getD .null), ("metadata", .obj artifact.metadata)]

/-- `to_persistence_records`: the row of one metric. -/
def rowOf (result : EvaluationResult) (metric : EvaluationMetric) : EvaluationRow where
  evaluationId := result.evaluationId
  executionId := result.executionId
  evaluatorType := result.evaluatorType
  evaluatorVersion := result.evaluatorVersion
  metricName := metric.metricName
  metricScore := metric.metricValue
  explanation := metric.explanation
  metadataJson := result.metadata
  providerMetadataJson := result.providerMetadata
  providerDescriptorSnapshotJson := result.providerDescriptorSnapshot
  artifactsJson := result.artifacts.map artifactDocument
  createdAt := result.createdAt
  organizationId := result.organizationId
  projectId := result.projectId

/-- `to_persistence_records`. -/
def toPersistenceRecords (result : EvaluationResult) : List EvaluationRow := result.metrics.map (rowOf result)

/-- An optional text of a document. -/
def optionalString : Json → Except Raised (Option String)
  | .null => .ok none
  | .str text => .ok (some text)
  | .bool _ | .int _ | .float _ | .arr _ | .obj _ => .error ⟨.typeError, "not a string"⟩

/-- An optional mapping of a document. -/
def optionalMapping : Json → Except Raised (Option (List (String × Json)))
  | .null => .ok none
  | .obj fields => .ok (some fields)
  | .bool _ | .int _ | .float _ | .arr _ | .str _ => .error ⟨.typeError, "not a mapping"⟩

/-- An artifact from its document. -/
def readArtifact (document : List (String × Json)) : Except Raised EvaluationArtifact := do
  let artifactType ← match Json.field document "artifact_type" with
    | none => .error ⟨.keyError, "artifact_type"⟩
    | some value => optionalString value
  let uri ← optionalString ((Json.field document "uri").getD .null)
  let payload ← optionalMapping ((Json.field document "payload").getD .null)
  let metadata ← optionalMapping ((Json.field document "metadata").getD (.obj []))
  pure { artifactType := artifactType.getD "", uri, payload, metadata := metadata.getD [] }

/-- The metric of a row. -/
def metricOf (record : EvaluationRow) : EvaluationMetric where
  metricName := record.metricName
  metricValue := record.metricScore
  explanation := record.explanation

/-- The result of the rows of one evaluation. -/
def readResult (group : Grouping.Group EvaluationRow) : Except Raised EvaluationResult := do
  let first := group.1
  let artifacts ← first.artifactsJson.mapM readArtifact
  let shared := sharedMetadata first.metadataJson first.providerMetadataJson
  pure {
    evaluationId := first.evaluationId
    executionId := first.executionId
    evaluatorType := first.evaluatorType
    evaluatorVersion := first.evaluatorVersion
    metrics := (Grouping.items group).map metricOf
    metadata := shared.1
    artifacts
    providerMetadata := shared.2
    providerDescriptorSnapshot := first.providerDescriptorSnapshotJson
    createdAt := first.createdAt
    organizationId := first.organizationId
    projectId := first.projectId
    shared := sharedMetadata_idem first.metadataJson first.providerMetadataJson }

/-- `from_persistence_records`. -/
def fromPersistenceRecords (records : List EvaluationRow) : Except Raised (List EvaluationResult) :=
  (Grouping.grouped (·.evaluationId) records).mapM readResult

end EvaluationPersistenceMapper

open EvaluationPersistenceMapper

/-! ## The table -/

/-- The table, and the offset of its `created_at` texts. -/
structure EvaluationTable where
  rows : List EvaluationRow
  offset : Instant.Offset

namespace EvaluationTable

/-- A table without rows. -/
def empty (offset : Instant.Offset) : EvaluationTable := ⟨[], offset⟩

/-- `INSERT OR REPLACE`: the primary key is the evaluation and the metric. -/
def insertOrReplace (rows : List EvaluationRow) (row : EvaluationRow) : List EvaluationRow :=
  rows.filter (fun old => !(old.evaluationId = row.evaluationId && old.metricName = row.metricName)) ++ [row]

/-- `save`. -/
def save (table : EvaluationTable) (result : EvaluationResult) : EvaluationTable :=
  { table with rows := (toPersistenceRecords result).foldl insertOrReplace table.rows }

variable (table : EvaluationTable)

/-- `_FIND_BY_EVALUATION_SQL`. -/
def selectByEvaluation (evaluationId : String) : List EvaluationRow :=
  Ranking.ascending (·.metricName) (table.rows.filter (·.evaluationId = evaluationId))

/-- `_FIND_BY_EXECUTION_SQL`. -/
def selectByExecution (executionId : String) : List EvaluationRow :=
  Ranking.ascending (fun row => (toLex (row.evaluationId, row.metricName) : String ×ₗ String))
    (table.rows.filter (·.executionId = executionId))

/-- The `WHERE` clause of the page statements. -/
def inScope (scope : PageScope) (row : EvaluationRow) : Bool :=
  Like.like (scope.executionIdPrefix ++ "%") row.executionId && scope.owns row.organizationId row.projectId

/-- `_COUNT_BY_EXECUTION_PREFIX_SQL`. -/
def countByExecutionPrefix (scope : PageScope) : Nat :=
  ((table.rows.filter (inScope scope)).map (·.evaluationId)).dedup.length

/-- The columns a page is grouped and ordered by. -/
def groupKey (row : EvaluationRow) : String ×ₗ (String ×ₗ String) :=
  toLex (table.offset.isoformat row.createdAt, toLex (row.executionId, row.evaluationId))

/-- The evaluations `_FIND_PAGE_BY_EXECUTION_PREFIX_SQL` selects. -/
def selected (scope : PageScope) (offset limit : Int) : List String :=
  (Window.limitOffset limit offset
    (Ranking.ascending id ((table.rows.filter (inScope scope)).map table.groupKey).dedup)).map
      fun key => (ofLex (ofLex key).2).2

/-- `_FIND_PAGE_BY_EXECUTION_PREFIX_SQL`. -/
def selectPage (scope : PageScope) (offset limit : Int) : List EvaluationRow :=
  Ranking.ascending (fun row => (toLex (table.groupKey row, row.metricName) : (String ×ₗ (String ×ₗ String)) ×ₗ String))
    (table.rows.filter fun row => row.evaluationId ∈ table.selected scope offset limit)

/-- `find_by_evaluation_id`. -/
def findByEvaluationId (evaluationId : String) : Except Raised (Option EvaluationResult) :=
  (fromPersistenceRecords (table.selectByEvaluation evaluationId)).map List.head?

/-- `find_by_execution_id`. -/
def findByExecutionId (executionId : String) : Except Raised (List EvaluationResult) :=
  fromPersistenceRecords (table.selectByExecution executionId)

/-- `find_page_by_execution_id_prefix`. -/
def findPageByExecutionIdPrefix (scope : PageScope) (offset limit : Int) : Except Raised EvaluationResultPage := do
  pure {
    items := ← fromPersistenceRecords (table.selectPage scope offset limit)
    totalCount := table.countByExecutionPrefix scope }

end EvaluationTable

/-- `SQLiteEvaluationRepository`. -/
def sqlite : Machine EvaluationTable EvaluationCall (Except Raised EvaluationAnswer) where
  serve call table :=
    match call with
    | .save result => (.ok .saved, table.save result)
    | .findByEvaluationId evaluationId => ((table.findByEvaluationId evaluationId).map .result, table)
    | .findByExecutionId executionId => ((table.findByExecutionId executionId).map .results, table)
    | .findPageByExecutionIdPrefix scope offset limit =>
      ((table.findPageByExecutionIdPrefix scope offset limit).map .page, table)

end AiGovernance.Evaluations
