import AiGovernance.Std.Checked

/-!
# Raised exceptions

Every exception the modelled services and stores raise, as its class and its
text. A record's construction check is a list of tests in source order; the
first one that fails is raised.
-/

namespace AiGovernance.Domain

/-- The exception classes of the modelled code; `backend` is any other failure of a store. -/
inductive ErrorKind where
  | valueError
  | typeError
  | keyError
  | decisionValidationError
  | authorizationDenied
  | agentExecutionNotFound
  | agentExecutionInvalidTransition
  | agentExecutionIdempotencyConflict
  | agentExecutionRuntimeToolCallConflict
  | agentExecutionConcurrencyConflict
  | runtimeActionAuthorizationNotFoundError
  | runtimeActionAuthorizationConflictError
  | runtimeActionAuthorizationPersistenceError
  | runtimeActionDelegationNotFoundError
  | runtimeActionDelegationDeniedError
  | runtimeActionDelegationConflictError
  | runtimeActionDelegationRepositoryConflictError
  | idempotencyConflictError
  | jobNotFoundError
  | invalidJobRequestError
  | jobSubmissionValidationError
  | operationalError
  | replayConflict
  | replayNotFound
  | replayNotReady
  | replayNotCancellable
  | replayInvalidTransition
  | replayUnauthorized
  | replayCancellationFailed
  | replayJobSubmissionFailed
  | replayAdapterNotFound
  | replayAdapterConfigurationInvalid
  | replayReconstructionFailed
  | replayExecutionIdentityConflict
  | replayExecutionPersistenceFailed
  | replayLineagePersistenceFailed
  | replayBaselineUnavailable
  | replayBaselineIncompatible
  | replayComparisonFailed
  | policyAdminNotFoundError
  | policyVersionNotFoundError
  | policyConflictError
  | policyAdministrationConflictError
  | invalidPolicyRequestError
  | policyValidationFailedError
  | policyActivationFailedError
  | invalidOntologyEntityError
  | invalidOntologyRelationshipError
  | duplicateOntologyRelationshipError
  | ontologyEntityNotFoundError
  | unsupportedReconciliation
  | overflowError
  | settingNotFound
  | settingReadOnly
  | settingEnvironmentOverride
  | settingValidationError
  | settingScopeInvalid
  | settingVersionConflict
  | organizationNotFound
  | organizationSlugConflict
  | organizationInactive
  | projectNotFound
  | projectSlugConflict
  | membershipNotFound
  | membershipConflict
  | roleAssignmentNotFound
  | roleAssignmentConflict
  | lastOrganizationAdministrator
  | decisionConflictError
  | decisionNotFoundError
  | decisionPersistenceFailedError
  | decisionReasoningFailedError
  | evidenceUnavailableError
  | invalidDecisionRequestError
  | policyNotFoundError
  | interventionPolicyNotFound
  | interventionPolicyInactive
  | interventionPolicyAmbiguous
  | authenticationError
  | invalidExperimentRequestError
  | experimentNotFoundError
  | experimentLifecycleError
  | experimentCandidateNotFoundError
  | candidateExecutionError
  | experimentConflictError
  | experimentCandidateReferenceError
  | experimentCandidateLifecycleError
  | experimentEvaluationError
  | rankingError
  | modelNotFoundError
  | modelVersionConflictError
  | modelLifecycleError
  | modelProviderNotAllowedError
  | modelRuntimeParameterError
  | promptNotFoundError
  | promptVersionConflictError
  | promptLifecycleError
  | datasetNotFoundError
  | datasetVersionConflictError
  | datasetDuplicateContentError
  | datasetLifecycleError
  | datasetUploadValidationError
  | fileExistsError
  | fileNotFoundError
  | runtimeConnectionNotFoundError
  | runtimeConnectionProviderUnavailableError
  | runtimeConnectionProviderNotAllowedError
  | backend
deriving DecidableEq

/-- An exception in flight. -/
structure Raised where
  kind : ErrorKind
  message : String
deriving DecidableEq

/-- One test of a construction check. -/
def rejectIf (fails : Bool) (kind : ErrorKind) (message : String) : Option Raised :=
  if fails then some ⟨kind, message⟩ else none

/-- The first failing test. -/
def firstViolation (tests : List (Option Raised)) : Option Raised := tests.findSome? id

variable {kind : ErrorKind}

@[simp] theorem rejectIf_eq_none {fails : Bool} {message : String} :
    rejectIf fails kind message = none ↔ fails = false := by
  cases fails <;> simp [rejectIf]

theorem rejectIf_kind {fails : Bool} {message : String} {raised : Raised}
    (found : rejectIf fails kind message = some raised) : raised.kind = kind := by
  cases fails with
  | false => cases found
  | true =>
    cases found
    rfl

@[simp] theorem firstViolation_eq_none {tests : List (Option Raised)} :
    firstViolation tests = none ↔ ∀ test ∈ tests, test = none := by
  simp [firstViolation, List.findSome?_eq_none_iff]

/-- Every test of a check raises the same class, so does the check. -/
theorem firstViolation_kind {tests : List (Option Raised)} {raised : Raised}
    (uniform : ∀ test ∈ tests, ∀ raised, test = some raised → raised.kind = kind)
    (found : firstViolation tests = some raised) : raised.kind = kind := by
  obtain ⟨test, member, same⟩ := List.exists_of_findSome?_eq_some found
  exact uniform test member raised same

variable {ε α β : Type}

theorem bind_ok {first : Except ε α} {next : α → Except ε β} {value : β} (succeeded : (first >>= next) = .ok value) :
    ∃ middle, first = .ok middle ∧ next middle = .ok value := by
  cases first with
  | error raised => cases succeeded
  | ok middle => exact ⟨middle, rfl, succeeded⟩

theorem bind_of_ok {first : Except ε α} {value : α} (succeeded : first = .ok value) (next : α → Except ε β) :
    (first >>= next) = next value := by
  rw [succeeded]
  rfl

theorem bind_error {first : Except ε α} {next : α → Except ε β} {raised : ε} (given : first >>= next = .error raised) :
    first = .error raised ∨ ∃ value, first = .ok value ∧ next value = .error raised := by
  cases first with
  | error exception =>
    cases given
    exact Or.inl rfl
  | ok value => exact Or.inr ⟨value, rfl, given⟩

theorem map_ok {result : Except ε α} {function : α → β} {value : β} (given : result.map function = .ok value) :
    ∃ middle, result = .ok middle ∧ function middle = value := by
  cases result with
  | error raised => cases given
  | ok middle => exact ⟨middle, rfl, Except.ok.inj given⟩

theorem map_error {result : Except ε α} {function : α → β} {raised : ε} (failed : result.map function = .error raised) :
    result = .error raised := by
  cases result with
  | error exception => exact congrArg Except.error (Except.error.inj failed)
  | ok value => cases failed

end AiGovernance.Domain
