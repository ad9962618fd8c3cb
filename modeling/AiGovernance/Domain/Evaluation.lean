import AiGovernance.Domain.Errors
import AiGovernance.Std.Instant
import AiGovernance.Std.Json

/-!
# Evaluation results

The records of `domain/evaluation_result.py`. A result that has only one of its
two metadata mappings takes it for both, so neither is ever empty without the
other.
-/

namespace AiGovernance.Domain

open AiGovernance.Std

/-- `EvaluationMetric`. -/
structure EvaluationMetric where
  metricName : String
  metricValue : Rat
  explanation : Option String := none
deriving DecidableEq

/-- `EvaluationArtifact`. -/
structure EvaluationArtifact where
  artifactType : String
  uri : Option String := none
  payload : Option (List (String × Json)) := none
  metadata : List (String × Json) := []
deriving DecidableEq

/-- The two mappings after `EvaluationResult.__post_init__`. -/
def sharedMetadata (metadata providerMetadata : List (String × Json)) :
    List (String × Json) × List (String × Json) :=
  if providerMetadata.isEmpty && !metadata.isEmpty then (metadata, metadata)
  else if !providerMetadata.isEmpty && metadata.isEmpty then (providerMetadata, providerMetadata)
  else (metadata, providerMetadata)

/-- `EvaluationResult`. -/
@[ext] structure EvaluationResult where
  evaluationId : String
  executionId : String
  evaluatorType : String
  evaluatorVersion : String
  metrics : List EvaluationMetric
  metadata : List (String × Json)
  artifacts : List EvaluationArtifact
  providerMetadata : List (String × Json)
  providerDescriptorSnapshot : Option (List (String × Json))
  createdAt : Instant
  organizationId : String
  projectId : String
  shared : sharedMetadata metadata providerMetadata = (metadata, providerMetadata)
deriving DecidableEq

theorem sharedMetadata_idem (metadata providerMetadata : List (String × Json)) :
    sharedMetadata (sharedMetadata metadata providerMetadata).1 (sharedMetadata metadata providerMetadata).2 =
      sharedMetadata metadata providerMetadata := by
  cases metadata <;> cases providerMetadata <;> rfl

/-- The same result with other metrics. -/
def EvaluationResult.withMetrics (result : EvaluationResult) (metrics : List EvaluationMetric) : EvaluationResult :=
  { result with metrics }

/-- The same result, its metrics in another order. -/
def Shuffled (result other : EvaluationResult) : Prop :=
  ∃ metrics, result.metrics.Perm metrics ∧ other = result.withMetrics metrics

end AiGovernance.Domain
