import AiGovernance.Decisions.Policies
import AiGovernance.Repositories.Delegations
import AiGovernance.Repositories.Events
import AiGovernance.Repositories.Executions
import AiGovernance.Semantics.Program

/-!
# Repository calls

The repository methods the services call, as one command interface, and the
in-memory repositories behind it. Each method is atomic: it runs under the
repository's lock, or only reads.
-/

namespace AiGovernance.Repositories

open AiGovernance.Std Domain Decisions Semantics

/-- One call of a repository method. -/
inductive Command where
  | saveExecution (execution : AgentExecution)
  | getExecution (executionId : String) (scope : Scope)
  | getExecutionByExternalId (externalExecutionId runtimeProvider : String) (scope : Scope)
  | listExecutions (filters : ExecutionListFilters) (scope : Scope)
  | updateStatus (executionId : String) (scope : Scope) (newStatus : AgentExecutionStatus)
      (completedAt : Option Instant) (expectedVersion : Nat)
  | saveEvent (event : AgentExecutionEvent) (idempotencyKey : Option String)
  | getEventById (eventId executionId : String) (scope : Scope)
  | listEventsByExecution (executionId : String) (scope : Scope) (filters : Option EventListFilters)
  | findEventByIdempotencyKey (idempotencyKey executionId : String) (scope : Scope)
  | maxSequenceNumber (executionId : String) (scope : Scope)
  | saveDelegation (delegation : RuntimeActionDelegation)
  | getDelegation (delegationId : String) (scope : Scope)
  | findDelegationByIdempotencyKey (idempotencyKey : String) (scope : Scope)
  | revokeDelegation (delegationId : String) (scope : Scope) (revokedAt : Instant)
      (revokedBy : String) (revocationReference : Option String)
  | listDefinitions (scope : Scope) (status : PolicyStatus)
  | getActiveVersion (policyId : String)

namespace Command

/-- What a call returns. -/
abbrev Answer : Command → Type
  | saveExecution _ => AgentExecution
  | getExecution _ _ => Option AgentExecution
  | getExecutionByExternalId _ _ _ => Option AgentExecution
  | listExecutions _ _ => List AgentExecution
  | updateStatus _ _ _ _ _ => AgentExecution
  | saveEvent _ _ => AgentExecutionEvent
  | getEventById _ _ _ => Option AgentExecutionEvent
  | listEventsByExecution _ _ _ => List AgentExecutionEvent
  | findEventByIdempotencyKey _ _ _ => Option AgentExecutionEvent
  | maxSequenceNumber _ _ => Nat
  | saveDelegation _ => RuntimeActionDelegation
  | getDelegation _ _ => Option RuntimeActionDelegation
  | findDelegationByIdempotencyKey _ _ => Option RuntimeActionDelegation
  | revokeDelegation _ _ _ _ _ => RuntimeActionDelegation
  | listDefinitions _ _ => List PolicyDefinition
  | getActiveVersion _ => Option PolicyVersion

/-- A call that only reads. -/
def isRead : Command → Bool
  | saveExecution _ | updateStatus _ _ _ _ _ | saveEvent _ _ | saveDelegation _
  | revokeDelegation _ _ _ _ _ => false
  | _ => true

end Command

/-- The repositories as a command interface. -/
abbrev repositories : Interface where
  Command := Command
  Answer := Command.Answer
  Exception := Raised

/-- A service operation: a program over the repositories. -/
abbrev Operation := Program repositories

/-- Call a repository method and propagate what it raises. -/
abbrev issue (command : Command) : Operation command.Answer :=
  Program.call (I := repositories) command

/-- Call a repository method and catch what it raises. -/
abbrev tryIssue (command : Command) : Operation (Except Raised command.Answer) :=
  Program.attempt (I := repositories) command

/-! ## The in-memory repositories -/

/-- Policy definitions in insertion order, and versions as `list_versions` orders them. -/
structure PolicyStore where
  definitions : List PolicyDefinition
  versions : List PolicyVersion

namespace PolicyStore

/-- `list_definitions` with the organization, project and version-status filters. -/
def listDefinitions (store : PolicyStore) (scope : Scope) (status : PolicyStatus) :
    List PolicyDefinition :=
  (store.definitions.filter fun definition =>
      definition.organizationId = scope.organizationId &&
        scope.projectId.all (definition.projectId = ·) &&
        store.versions.any fun version =>
          version.record.policyId = definition.policyId && version.record.status = status).insertionSort
    (fun left right => right.createdAt ≤ left.createdAt)

/-- `get_active_version`. -/
def getActiveVersion (store : PolicyStore) (policyId : String) : Option PolicyVersion :=
  store.versions.find? fun version =>
    version.record.policyId = policyId && version.record.status = .active

end PolicyStore

/-- Everything the services share. -/
structure Stores where
  executions : ExecutionStore
  events : EventStore
  delegations : DelegationStore
  policies : PolicyStore

namespace Stores

/-- Nothing stored yet. -/
def empty : Stores := ⟨.empty, .empty, .empty, ⟨[], []⟩⟩

end Stores

/-- How the in-memory repositories answer. -/
def inMemory (primitives : Primitives) : Handler repositories Stores
  | .saveExecution execution, stores =>
    (.ok execution, { stores with executions := stores.executions.save execution })
  | .getExecution executionId scope, stores => (.ok (stores.executions.get executionId scope), stores)
  | .getExecutionByExternalId externalExecutionId runtimeProvider scope, stores =>
    (.ok (stores.executions.getByExternalId externalExecutionId runtimeProvider scope), stores)
  | .listExecutions filters scope, stores => (.ok (stores.executions.list filters scope), stores)
  | .updateStatus executionId scope newStatus completedAt expectedVersion, stores =>
    let outcome :=
      stores.executions.updateStatus executionId scope newStatus completedAt expectedVersion
    (outcome.1, { stores with executions := outcome.2 })
  | .saveEvent event idempotencyKey, stores =>
    let outcome := stores.events.save event idempotencyKey
    (outcome.1, { stores with events := outcome.2 })
  | .getEventById eventId executionId scope, stores =>
    (.ok (stores.events.getById eventId executionId scope), stores)
  | .listEventsByExecution executionId scope filters, stores =>
    (.ok (stores.events.listByExecution executionId scope filters), stores)
  | .findEventByIdempotencyKey idempotencyKey executionId scope, stores =>
    (.ok (stores.events.findByIdempotencyKey idempotencyKey executionId scope), stores)
  | .maxSequenceNumber executionId scope, stores =>
    (.ok (stores.events.maxSequenceNumber executionId scope), stores)
  | .saveDelegation delegation, stores =>
    let outcome := stores.delegations.save delegation
    (outcome.1, { stores with delegations := outcome.2 })
  | .getDelegation delegationId scope, stores =>
    (.ok (stores.delegations.get delegationId scope), stores)
  | .findDelegationByIdempotencyKey idempotencyKey scope, stores =>
    (.ok (stores.delegations.findByIdempotencyKey idempotencyKey scope), stores)
  | .revokeDelegation delegationId scope revokedAt revokedBy revocationReference, stores =>
    let outcome := stores.delegations.revoke primitives delegationId scope revokedAt revokedBy
      revocationReference
    (outcome.1, { stores with delegations := outcome.2 })
  | .listDefinitions scope status, stores => (.ok (stores.policies.listDefinitions scope status), stores)
  | .getActiveVersion policyId, stores => (.ok (stores.policies.getActiveVersion policyId), stores)

theorem inMemory_of_isRead (primitives : Primitives) {command : Command} (read : command.isRead = true)
    (stores : Stores) : (inMemory primitives command stores).2 = stores := by
  cases command <;> first | rfl | cases read

end AiGovernance.Repositories
