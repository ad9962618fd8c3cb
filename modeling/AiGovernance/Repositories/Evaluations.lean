import AiGovernance.Domain.Evaluation
import AiGovernance.Semantics.Machine
import AiGovernance.Std.Ranking
import AiGovernance.Std.Text
import AiGovernance.Std.Window
import Mathlib.Data.Prod.Lex

/-!
# The in-memory evaluation repository

`InMemoryEvaluationRepository` keeps the results in the order of their saves.
`EvaluationCall` and `EvaluationAnswer` are the calls and answers of an
`EvaluationRepository`.
-/

namespace AiGovernance.Evaluations

open AiGovernance.Std Domain Semantics

/-- `EvaluationResultPage`. -/
structure EvaluationResultPage where
  items : List EvaluationResult
  totalCount : Nat

/-- The scope of a page: the execution prefix and the tenant. -/
structure PageScope where
  executionIdPrefix : String
  organizationId : String
  projectId : Option String

/-- A call of an evaluation repository. -/
inductive EvaluationCall where
  | save (result : EvaluationResult)
  | findByEvaluationId (evaluationId : String)
  | findByExecutionId (executionId : String)
  | findPageByExecutionIdPrefix (scope : PageScope) (offset limit : Int)

/-- What a call returns. -/
inductive EvaluationAnswer where
  | saved
  | result (found : Option EvaluationResult)
  | results (found : List EvaluationResult)
  | page (page : EvaluationResultPage)

/-- The saved results. -/
abbrev EvaluationStore := List EvaluationResult

/-- The result belongs to the tenant of a scope. -/
def PageScope.owns (scope : PageScope) (organizationId projectId : String) : Bool :=
  organizationId = scope.organizationId && projectId = scope.projectId.getD ""

namespace EvaluationStore

variable (store : EvaluationStore)

/-- `find_by_evaluation_id`. -/
def findByEvaluationId (evaluationId : String) : Option EvaluationResult :=
  store.find? (·.evaluationId = evaluationId)

/-- `find_by_execution_id`. -/
def findByExecutionId (executionId : String) : List EvaluationResult := store.filter (·.executionId = executionId)

/-- The results of a scope. -/
def inScope (scope : PageScope) : List EvaluationResult :=
  store.filter fun result =>
    Text.startsWith scope.executionIdPrefix result.executionId && scope.owns result.organizationId result.projectId

/-- The key pages are sorted by. -/
def pageKey (result : EvaluationResult) : Nat ×ₗ (String ×ₗ String) :=
  toLex (result.createdAt.micros, toLex (result.executionId, result.evaluationId))

/-- `find_page_by_execution_id_prefix`. -/
def findPageByExecutionIdPrefix (scope : PageScope) (offset limit : Int) : EvaluationResultPage :=
  let results := Ranking.ascending pageKey (store.inScope scope)
  { items := Window.slice offset (offset + limit) results
    totalCount := results.length }

end EvaluationStore

/-- `InMemoryEvaluationRepository`. -/
def inMemory : Machine EvaluationStore EvaluationCall (Except Raised EvaluationAnswer) where
  serve call store :=
    match call with
    | .save result => (.ok .saved, store ++ [result])
    | .findByEvaluationId evaluationId => (.ok (.result (store.findByEvaluationId evaluationId)), store)
    | .findByExecutionId executionId => (.ok (.results (store.findByExecutionId executionId)), store)
    | .findPageByExecutionIdPrefix scope offset limit =>
      (.ok (.page (store.findPageByExecutionIdPrefix scope offset limit)), store)

end AiGovernance.Evaluations
