import AiGovernance.Domain.Ontology

/-!
# Which relationships are allowed

The endpoint rules of every relationship type and the validator
(`ontology/validation.py`). Rules are given per pair of endpoint types, with the
uniqueness the service enforces; the cardinality labels are documentation.
-/

namespace AiGovernance.Ontology

open AiGovernance.Std Domain

/-- One allowed source and target pair for an ontology relationship. -/
structure RelationshipEndpointRule where
  sourceType : EntityType
  targetType : EntityType
  uniquePerSource : Bool := false
  uniquePerTarget : Bool := false
  uniquePerSourceTargetType : Bool := false
  allowSelf : Bool := false
deriving DecidableEq

/-- Validation rule for a directed ontology relationship type. -/
structure RelationshipRule where
  relationshipType : RelationshipType
  endpointRules : List RelationshipEndpointRule
deriving DecidableEq

/-- `RelationshipRule.endpoint_rule`. -/
def RelationshipRule.endpointRule (rule : RelationshipRule) (sourceType targetType : EntityType) :
    Option RelationshipEndpointRule :=
  rule.endpointRules.find? fun item => item.sourceType = sourceType && item.targetType = targetType

/-- A pair without constraints. -/
def pair (source target : EntityType) : RelationshipEndpointRule := { sourceType := source, targetType := target }

/-! ## The rules -/

/-- `VERSIONED_ASSET_PAIRS`. -/
def versionedAssetPairs : List RelationshipEndpointRule := [
  { pair .prompt .promptVersion with uniquePerTarget := true },
  { pair .model .modelVersion with uniquePerTarget := true },
  { pair .dataset .datasetVersion with uniquePerTarget := true }]

/-- `VERSION_OF_PAIRS`. -/
def versionOfPairs : List RelationshipEndpointRule := [
  { pair .promptVersion .prompt with uniquePerSource := true },
  { pair .modelVersion .model with uniquePerSource := true },
  { pair .datasetVersion .dataset with uniquePerSource := true }]

/-- `SUPERSEDES_PAIRS`. -/
def supersedesPairs : List RelationshipEndpointRule :=
  [EntityType.promptVersion, .modelVersion, .datasetVersion, .governanceDecision, .policy].map fun entityType =>
    pair entityType entityType

/-- `JOB_INPUT_EVIDENCE_TYPES`. -/
def jobInputEvidenceTypes : List EntityType :=
  [.evaluationResult, .evaluationRun, .leaderboard, .driftAnalysis, .governanceReport]

/-- `GOVERNANCE_INSIGHT_EVIDENCE_TYPES`. -/
def governanceInsightEvidenceTypes : List EntityType :=
  [.evaluationResult, .evaluationRun, .job, .candidate, .experiment, .mcpAuditRecord]

/-- `GOVERNANCE_DECISION_EVIDENCE_TYPES`. -/
def governanceDecisionEvidenceTypes : List EntityType :=
  [.evaluationResult, .metric, .driftAnalysis, .leaderboard, .job, .mcpAuditRecord, .policy]

/-- `DECISION_TARGET_TYPES`. -/
def decisionTargetTypes : List EntityType :=
  [.candidate, .experiment, .promptVersion, .modelVersion, .datasetVersion, .evaluationRun, .evaluationResult, .job,
    .agentExecution, .governanceDecision]

/-- `RESOURCE_REFERENCE_TYPES`. -/
def resourceReferenceTypes : List EntityType :=
  [.promptVersion, .modelVersion, .datasetVersion, .experiment, .candidate, .evaluationRun, .job]

/-- `RESULT_TYPES`. -/
def resultTypes : List EntityType :=
  [.evaluationResult, .evaluationRun, .leaderboard, .driftAnalysis, .governanceReport]

/-- `GENERATED_FROM_PAIRS`. -/
def generatedFromPairs : List RelationshipEndpointRule :=
  jobInputEvidenceTypes.map (pair .job) ++ [pair .leaderboard .evaluationRun] ++
    governanceInsightEvidenceTypes.map (pair .governanceInsight) ++
    governanceDecisionEvidenceTypes.map (pair .governanceDecision) ++
    governanceInsightEvidenceTypes.map (pair .governanceReport) ++ [pair .replay .evaluationResult]

/-- Every other entity type to one. -/
def othersTo (target : EntityType) : List RelationshipEndpointRule :=
  (EntityType.members.filter (· ≠ target)).map fun source => pair source target

/-- The endpoint rules of `RULES`. -/
def endpointRulesOf : RelationshipType → List RelationshipEndpointRule
  | .hasVersion => versionedAssetPairs
  | .versionOf => versionOfPairs
  | .supersedes => supersedesPairs
  | .ownedBy => othersTo .actor
  | .createdBy => othersTo .actor
  | .hasCandidate => [{ pair .experiment .candidate with uniquePerTarget := true }]
  | .participatesIn => [{ pair .candidate .experiment with uniquePerSource := true }]
  | .uses =>
    [EntityType.candidate, .workflowExecution].flatMap fun source =>
      [EntityType.promptVersion, .modelVersion, .datasetVersion].map fun target =>
        { pair source target with uniquePerSourceTargetType := true }
  | .evaluatedBy => [EntityType.candidate, .evaluationRun, .evaluationResult].map (pair · .evaluationProvider)
  | .hasRun => [{ pair .experiment .evaluationRun with uniquePerTarget := true }]
  | .executes => [{ pair .evaluationRun .candidate with uniquePerSource := true }]
  | .produces => [
      { pair .evaluationRun .evaluationResult with uniquePerSource := true, uniquePerTarget := true },
      pair .workflowExecution .evaluationResult,
      pair .replay .workflowExecution,
      pair .replay .evaluationResult,
      pair .replay .evaluationComparison]
  | .hasMetric => [pair .evaluationResult .metric]
  | .hasArtifact => [pair .evaluationResult .evaluationArtifact]
  | .recordedIn => [pair .evaluationResult .evaluationHistory]
  | .comparedWith => [pair .evaluationResult .evaluationResult]
  | .generates => [pair .evaluationComparison .metric]
  | .causedDrift => [
      { pair .evaluationComparison .driftAnalysis with uniquePerSource := true, uniquePerTarget := true },
      pair .replay .driftAnalysis]
  | .rankedBy => [pair .candidate .leaderboard]
  | .hasEntry => [{ pair .leaderboard .leaderboardEntry with uniquePerTarget := true }]
  | .ranks => [{ pair .leaderboardEntry .candidate with uniquePerSource := true }]
  | .recommends => [pair .leaderboard .candidate, pair .governanceInsight .candidate]
  | .generatedFrom => generatedFromPairs
  | .decidesOn => decisionTargetTypes.map (pair .governanceDecision)
  | .approvedBy => [pair .governanceDecision .actor]
  | .rejectedBy => [pair .governanceDecision .actor]
  | .blockedBy =>
    [EntityType.candidate, .experiment, .job, .governanceDecision].flatMap fun source =>
      [EntityType.policy, .governanceDecision, .driftAnalysis].map (pair source)
  | .governedBy => othersTo .policy
  | .submittedAs => othersTo .job
  | .resultedIn => resultTypes.map (pair .job) ++ [pair .replay .replayResult]
  | .auditedBy => othersTo .mcpAuditRecord
  | .referencesResource => resourceReferenceTypes.map (pair .mcpAuditRecord)
  | .replayOf => [
      pair .replayInvestigation .workflowExecution,
      pair .replayInvestigation .evaluationResult,
      pair .replayInvestigation .job,
      pair .replay .workflowExecution]
  | .reconstructs => [
      { pair .replayInvestigation .workflowExecution with uniquePerSource := true, uniquePerTarget := true }]
  | .observedBy => [pair .workflowExecution .evaluationResult]
  | .investigates =>
    [EntityType.replayInvestigation, .governanceInsight].flatMap fun source =>
      [EntityType.mcpAuditRecord, .job, .evaluationResult, .driftAnalysis].map (pair source)

/-! ## The validator -/

/-- `RelationshipValidator`: the rule registered for each type. -/
structure RelationshipValidator where
  rules : RelationshipType → Option RelationshipRule

namespace RelationshipValidator

/-- The validator over `RULES`. -/
def standard : RelationshipValidator where
  rules relationshipType := some ⟨relationshipType, endpointRulesOf relationshipType⟩

/-- `rule_for`. -/
def ruleFor (validator : RelationshipValidator) (relationshipType : RelationshipType) :
    Except Raised RelationshipRule :=
  match validator.rules relationshipType with
  | some rule => .ok rule
  | none => .error ⟨.invalidOntologyRelationshipError,
      "No validation rule registered for " ++ relationshipType.value ++ "."⟩

/-- The pairs a rule allows, as a message lists them. -/
def allowedPairs (rule : RelationshipRule) : String :=
  ", ".intercalate ((rule.endpointRules.map fun item =>
    item.sourceType.value ++ "->" ++ item.targetType.value).mergeSort fun left right => left ≤ right)

/-- `endpoint_rule_for`. -/
def endpointRuleFor (validator : RelationshipValidator) (relationship : OntologyRelationship) :
    Except Raised RelationshipEndpointRule := do
  let rule ← validator.ruleFor relationship.record.relationshipType
  match rule.endpointRule relationship.record.sourceEntityType relationship.record.targetEntityType with
  | some endpointRule => .ok endpointRule
  | none => .error ⟨.invalidOntologyRelationshipError,
      "Invalid ontology relationship direction or endpoint types: " ++
        relationship.record.sourceEntityType.value ++ " " ++ relationship.record.relationshipType.value ++ " " ++
        relationship.record.targetEntityType.value ++ ". Allowed pairs: " ++ allowedPairs rule ++ "."⟩

/-- `validate`. -/
def validate (validator : RelationshipValidator) (relationship : OntologyRelationship) : Except Raised Unit := do
  let endpointRule ← validator.endpointRuleFor relationship
  if relationship.record.source = relationship.record.target ∧ ¬ endpointRule.allowSelf then
    .error ⟨.invalidOntologyRelationshipError,
      "Ontology self-relationships are not allowed for " ++ relationship.record.relationshipType.value ++ "."⟩
  else .ok ()

/-- A rule found by the standard validator is one of the table, for the relationship's own types. -/
theorem standard_endpointRuleFor {relationship : OntologyRelationship} {rule : RelationshipEndpointRule}
    (found : standard.endpointRuleFor relationship = .ok rule) :
    rule ∈ endpointRulesOf relationship.record.relationshipType ∧
      rule.sourceType = relationship.record.sourceEntityType ∧
      rule.targetType = relationship.record.targetEntityType := by
  unfold endpointRuleFor at found
  simp only [ruleFor, standard, bind, Except.bind] at found
  split at found
  · rename_i endpointRule matching
    cases found
    have passes := List.find?_some matching
    simp only [Bool.and_eq_true, decide_eq_true_eq] at passes
    exact ⟨List.mem_of_find?_eq_some matching, passes⟩
  · cases found

end RelationshipValidator

/-- Rules of one type from one source type constrain the source alike. -/
theorem endpointRules_agree_per_source (relationshipType : RelationshipType) :
    ∀ left ∈ endpointRulesOf relationshipType, ∀ right ∈ endpointRulesOf relationshipType,
      left.sourceType = right.sourceType →
        left.uniquePerSource = right.uniquePerSource ∧
          left.uniquePerSourceTargetType = right.uniquePerSourceTargetType := by
  cases relationshipType <;> decide +kernel

end AiGovernance.Ontology
