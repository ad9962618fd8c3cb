import AiGovernance.Domain.InterventionPolicy
import AiGovernance.Std.Dict

/-!
# Administration of intervention policies

`InMemoryEvidenceInterventionPolicyRepository`, and the calls of
`EvidenceInterventionPolicyService` on it. A call is atomic. Clock readings,
new identifiers and the result of the provider's validation are arguments; the
digest is a parameter.
-/

namespace AiGovernance.Interventions

open AiGovernance.Std Domain

/-- The key of a policy version: its identifier, version, organization and project. -/
abbrev PolicyKey := String × Int × String × Option String

/-- The key a version stands under. -/
def PolicyContent.key (content : PolicyContent) : PolicyKey :=
  (content.policyId, content.version, content.organizationId, content.projectId)

/-- The dictionary, every version under its own key. -/
structure PolicyStore where
  items : Dict PolicyKey EvidenceInterventionPolicy
  keyed : ∀ {key policy}, items.get? key = some policy → policy.record.content.key = key

namespace PolicyStore

/-- A new repository. -/
def empty : PolicyStore := ⟨.empty, by simp⟩

/-- The write of `save`. -/
def put (store : PolicyStore) (policy : EvidenceInterventionPolicy) : PolicyStore where
  items := store.items.set policy.record.content.key policy
  keyed := store.items.keyed_set store.keyed rfl

/-- An active version that a save may not change. -/
def guards (digest : PolicyContent → String) (current policy : EvidenceInterventionPolicy) : Bool :=
  current.record.status = .active &&
    (digest current.record.content ≠ digest policy.record.content || policy.record.status = .draft)

/-- `save`. -/
def save (digest : PolicyContent → String) (store : PolicyStore) (policy : EvidenceInterventionPolicy) :
    Except Raised PolicyStore :=
  if (store.items.get? policy.record.content.key).any (guards digest · policy) then
    .error ⟨.valueError, "InterventionPolicyConflict: active policy versions are immutable."⟩
  else .ok (store.put policy)

/-- The order of a listing. -/
def sortsBefore (left right : EvidenceInterventionPolicy) : Bool :=
  left.record.content.policyId < right.record.content.policyId ||
    (left.record.content.policyId = right.record.content.policyId &&
      left.record.content.version ≤ right.record.content.version)

/-- `list`. -/
def list (store : PolicyStore) (organizationId : String) (projectId : Option String) :
    List EvidenceInterventionPolicy :=
  (store.items.values.filter fun policy =>
    policy.record.content.organizationId = organizationId && policy.record.content.projectId = projectId).insertionSort
      fun left right => sortsBefore left right

end PolicyStore

/-- What the service reads of a `TenantContext`. -/
structure PolicyContext where
  organizationId : String
  projectId : Option String
  actorId : String
deriving DecidableEq

/-- `get`. -/
def getPolicy (store : PolicyStore) (policyId : String) (version : Int) (context : PolicyContext) :
    Except Raised EvidenceInterventionPolicy :=
  match store.items.get? (policyId, version, context.organizationId, context.projectId) with
  | some policy => .ok policy
  | none => .error ⟨.interventionPolicyNotFound, "INTERVENTION_POLICY_NOT_CONFIGURED"⟩

/-- The arguments of `create_draft`. -/
structure DraftArguments where
  toolName : String
  schemaId : String
  schemaVersion : String
  providerId : String
  providerVersion : String
  allowedStrategies : List ControlledEvidenceStrategy
  strategyConfiguration : List (String × Json)

/-- What a call returns or raises with the repository it leaves. -/
abbrev PolicyOutcome := Except Raised EvidenceInterventionPolicy × PolicyStore

/-- Save what a call has made and return it. -/
def saving (digest : PolicyContent → String) (store : PolicyStore)
    (made : Except Raised EvidenceInterventionPolicy) : PolicyOutcome :=
  match made with
  | .error raised => (.error raised, store)
  | .ok policy =>
    match store.save digest policy with
    | .error raised => (.error raised, store)
    | .ok after => (.ok policy, after)

/-- `create_draft`. -/
def createDraft (digest : PolicyContent → String) (store : PolicyStore) (arguments : DraftArguments)
    (context : PolicyContext) (policyId : String) (now : Instant) : PolicyOutcome :=
  saving digest store (Checked.create {
    content := {
      policyId
      version := 1
      organizationId := context.organizationId
      projectId := context.projectId
      toolName := arguments.toolName
      schemaId := arguments.schemaId
      schemaVersion := arguments.schemaVersion
      providerId := arguments.providerId
      providerVersion := arguments.providerVersion
      allowedStrategies := arguments.allowedStrategies
      strategyConfiguration := arguments.strategyConfiguration }
    status := .draft
    createdAt := now
    createdBy := context.actorId })

/-- `create_next_draft`. -/
def createNextDraft (digest : PolicyContent → String) (store : PolicyStore) (policyId : String) (version : Int)
    (configuration : List (String × Json)) (context : PolicyContext) (now : Instant) : PolicyOutcome :=
  match getPolicy store policyId version context with
  | .error raised => (.error raised, store)
  | .ok current => saving digest store (current.nextDraft context.actorId now configuration)

/-- `validate`; `validated` is what the provider answers. -/
def validate (store : PolicyStore) (policyId : String) (version : Int) (context : PolicyContext)
    (validated : EvidenceInterventionPolicy → Except Raised Unit) : Except Raised EvidenceInterventionPolicy := do
  let policy ← getPolicy store policyId version context
  validated policy
  .ok policy

/-- Two versions are for the same evidence of a tool. -/
def sameEvidence (left right : PolicyContent) : Bool :=
  left.toolName = right.toolName && left.schemaId = right.schemaId && left.schemaVersion = right.schemaVersion

/-- Another active version for the same evidence. -/
def competes (policy other : EvidenceInterventionPolicy) : Bool :=
  other.record.status = .active && sameEvidence other.record.content policy.record.content &&
    (other.record.content.policyId ≠ policy.record.content.policyId ||
      other.record.content.version ≠ policy.record.content.version)

/-- `activate`. -/
def activate (digest : PolicyContent → String) (store : PolicyStore) (policyId : String) (version : Int)
    (context : PolicyContext) (validated : EvidenceInterventionPolicy → Except Raised Unit) (now : Instant) :
    PolicyOutcome :=
  match validate store policyId version context validated with
  | .error raised => (.error raised, store)
  | .ok policy =>
    if (store.list context.organizationId context.projectId).any (competes policy) then
      (.error ⟨.interventionPolicyAmbiguous, "AMBIGUOUS_INTERVENTION_POLICY"⟩, store)
    else saving digest store (policy.activate context.actorId now)

/-- `retire`. -/
def retire (digest : PolicyContent → String) (store : PolicyStore) (policyId : String) (version : Int)
    (context : PolicyContext) (now : Instant) : PolicyOutcome :=
  match getPolicy store policyId version context with
  | .error raised => (.error raised, store)
  | .ok current => saving digest store (current.retire now)

/-- What `resolve_active` reads of a `ToolEvidenceDescriptor`. -/
structure ToolEvidenceDescriptor where
  toolName : String
  schemaId : String
  schemaVersion : String

/-- An active version that a descriptor and a strategy match. -/
def matchesDescriptor (descriptor : ToolEvidenceDescriptor) (strategy : ControlledEvidenceStrategy)
    (policy : EvidenceInterventionPolicy) : Bool :=
  policy.record.status = .active && policy.record.content.toolName = descriptor.toolName &&
    policy.record.content.schemaId = descriptor.schemaId &&
    policy.record.content.schemaVersion = descriptor.schemaVersion &&
    policy.record.content.allowedStrategies.contains strategy

/-- `resolve_active`. -/
def resolveActive (store : PolicyStore) (descriptor : ToolEvidenceDescriptor) (strategy : ControlledEvidenceStrategy)
    (context : PolicyContext) : Except Raised EvidenceInterventionPolicy :=
  match (store.list context.organizationId context.projectId).filter (matchesDescriptor descriptor strategy) with
  | [] => .error ⟨.interventionPolicyInactive, "INTERVENTION_POLICY_INACTIVE"⟩
  | [policy] => .ok policy
  | _ :: _ :: _ => .error ⟨.interventionPolicyAmbiguous, "AMBIGUOUS_INTERVENTION_POLICY"⟩

/-! ## Calls -/

/-- A call that may write. -/
inductive PolicyCall where
  | createDraft (arguments : DraftArguments) (context : PolicyContext) (policyId : String) (now : Instant)
  | createNextDraft (policyId : String) (version : Int) (configuration : List (String × Json))
      (context : PolicyContext) (now : Instant)
  | validate (policyId : String) (version : Int) (context : PolicyContext)
      (validated : EvidenceInterventionPolicy → Except Raised Unit)
  | activate (policyId : String) (version : Int) (context : PolicyContext)
      (validated : EvidenceInterventionPolicy → Except Raised Unit) (now : Instant)
  | retire (policyId : String) (version : Int) (context : PolicyContext) (now : Instant)

/-- What a call returns or raises with the repository it leaves. -/
def PolicyCall.perform (digest : PolicyContent → String) : PolicyCall → PolicyStore → PolicyOutcome
  | .createDraft arguments context policyId now, store =>
    Interventions.createDraft digest store arguments context policyId now
  | .createNextDraft policyId version configuration context now, store =>
    Interventions.createNextDraft digest store policyId version configuration context now
  | .validate policyId version context validated, store =>
    (Interventions.validate store policyId version context validated, store)
  | .activate policyId version context validated now, store =>
    Interventions.activate digest store policyId version context validated now
  | .retire policyId version context now, store => Interventions.retire digest store policyId version context now

end AiGovernance.Interventions
