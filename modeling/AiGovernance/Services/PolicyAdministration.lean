import AiGovernance.Repositories.PolicyAdministration

/-!
# Policy administration

The requests of `PolicyAdministrationService`
(`services/policies/policy_administration_service.py`) as programs over the
repository. Every clock reading is an argument; the ontology events published
after a request read nothing back and are left out.
-/

namespace AiGovernance.PolicyAdministration

open AiGovernance.Std Domain Semantics
open Decisions (DecisionTargetType PolicyRule PolicyStatus)

/-- What a request returns: the policy with its versions. -/
structure PolicyDetail where
  definition : PolicyDefinition
  activeVersion : Option PolicyVersion
  draftVersion : Option PolicyVersion
  versions : List PolicyVersion
deriving DecidableEq

/-- `_get_definition`. -/
def getDefinition (policyId : String) : PolicyOperation PolicyDefinition := do
  match ← consult (.getDefinition policyId) with
  | some definition => return definition
  | none => .raise ⟨.policyAdminNotFoundError, "Policy '" ++ policyId ++ "' does not exist."⟩

/-- `_get_version`. -/
def getVersion (policyId version : String) : PolicyOperation PolicyVersion := do
  match ← consult (.getVersion policyId version) with
  | some found => return found
  | none =>
    .raise ⟨.policyVersionNotFoundError,
      "Policy '" ++ policyId ++ "' version '" ++ version ++ "' does not exist."⟩

/-- `get_policy_detail`. -/
def getPolicyDetail (policyId : String) : PolicyOperation PolicyDetail := do
  let definition ← getDefinition policyId
  let versions ← consult (.listVersions policyId)
  return {
    definition
    activeVersion := versions.find? (·.record.status = .active)
    draftVersion := versions.reverse.find? (·.record.status = .draft)
    versions }

/-- `_next_version`. -/
def nextVersion (policyId : String) : PolicyOperation String := do
  let versions ← consult (.listVersions policyId)
  let numbers := versions.filterMap fun version => Text.parseInt version.record.version
  return toString (numbers.max?.getD 0 + 1)

/-- A definition with the time of its last change. -/
def touched (definition : PolicyDefinition) (now : Instant) : PolicyDefinition :=
  ⟨{ definition.record with updatedAt := now }, definition.valid⟩

/-- `_touch_definition`. -/
def touchDefinition (definition : PolicyDefinition) (now : Instant) : PolicyOperation Unit :=
  consult (.saveDefinition (touched definition now))

/-- What a version is made of. -/
structure PolicyContent where
  targetTypes : List DecisionTargetType
  rules : List PolicyRule
  metadata : List (String × Json)

/-- The arguments of `create_policy`, with the identifier the service would generate. -/
structure CreatePolicy where
  policyId : Option String
  generatedId : String
  name : String
  description : Option String
  organizationId : String
  projectId : String
  category : PolicyCategory
  owner : String
  createdBy : String
  content : PolicyContent

/-- `create_policy`. -/
def createPolicy (request : CreatePolicy) (now : Instant) : PolicyOperation PolicyDetail := do
  let policyId := (Text.orElse request.policyId none).getD request.generatedId
  match ← consult (.getDefinition policyId) with
  | some _ => .raise ⟨.policyConflictError, "Policy ID '" ++ policyId ++ "' already exists."⟩
  | none => do
      let definition : PolicyDefinition ← Program.ofExcept (Checked.create {
        policyId
        organizationId := request.organizationId
        projectId := request.projectId
        name := request.name
        description := request.description
        category := request.category
        owner := request.owner
        createdBy := request.createdBy
        createdAt := now
        updatedAt := now
        metadata := request.content.metadata })
      let version : PolicyVersion ← Program.ofExcept (Checked.create {
        policyId
        version := "1"
        status := .draft
        targetTypes := request.content.targetTypes
        rules := request.content.rules
        createdBy := request.createdBy
        createdAt := now })
      Program.ofExcept (validateVersion version)
      match ← Program.attempt (I := policyRepository) (.saveDefinition definition) with
      | .error error => .raise ⟨.policyConflictError, error.message⟩
      | .ok _ => do
          consult (.saveVersion version)
          getPolicyDetail policyId

/-- `create_policy_version`. -/
def createPolicyVersion (policyId : String) (baseVersion : Option String) (content : PolicyContent)
    (createdBy : String) (createdAt touchedAt : Instant) : PolicyOperation PolicyDetail := do
  let definition ← getDefinition policyId
  match baseVersion with
  | some base => do
      let _ ← getVersion policyId base
  | none => pure ()
  let number ← nextVersion policyId
  let version : PolicyVersion ← Program.ofExcept (Checked.create {
    policyId
    version := number
    status := .draft
    targetTypes := content.targetTypes
    rules := content.rules
    createdBy
    createdAt
    metadata := content.metadata })
  Program.ofExcept (validateVersion version)
  consult (.saveVersion version)
  touchDefinition definition touchedAt
  getPolicyDetail policyId

/-- `update_draft_version`. -/
def updateDraftVersion (policyId version : String) (content : PolicyContent) (updatedBy : String)
    (touchedAt : Instant) : PolicyOperation PolicyDetail := do
  let existing ← getVersion policyId version
  if existing.record.status ≠ .draft then
    .raise ⟨.invalidPolicyRequestError, "Only draft policy versions can be updated."⟩
  else do
    let updated : PolicyVersion ← Program.ofExcept (Checked.create { existing.record with
      targetTypes := content.targetTypes
      rules := content.rules
      metadata := merged (merged existing.record.metadata content.metadata) [("updated_by", .str updatedBy)] })
    Program.ofExcept (validateVersion updated)
    consult (.saveVersion updated)
    let definition ← getDefinition policyId
    touchDefinition definition touchedAt
    getPolicyDetail policyId

/-- A draft that becomes the active version. -/
def activated (selected : PolicyVersion) (activatedBy : String) (now : Instant) : PolicyVersion :=
  ⟨{ selected.record with
      status := .active
      activatedAt := some now
      metadata := merged selected.record.metadata [("activated_by", .str activatedBy)] }, selected.valid⟩

/-- `activate_version`. -/
def activateVersion (policyId version activatedBy : String) (now touchedAt : Instant) :
    PolicyOperation PolicyDetail := do
  let selected ← getVersion policyId version
  if selected.record.status = .archived then
    .raise ⟨.policyActivationFailedError, "Archived policy versions cannot be activated."⟩
  else if selected.record.status ≠ .draft then
    .raise ⟨.policyActivationFailedError, "Only draft policy versions can be activated."⟩
  else do
    let definition ← getDefinition policyId
    Program.ofExcept (validateRuntimeAuthorizationActivation definition selected)
    match ← consult (.getActiveVersion policyId) with
    | some active => consult (.saveVersion (PolicyStore.demoted active now))
    | none => pure ()
    consult (.saveVersion (activated selected activatedBy now))
    touchDefinition definition touchedAt
    getPolicyDetail policyId

/-- A version that is archived. -/
def archived (selected : PolicyVersion) (archivedBy : String) (now : Instant) : PolicyVersion :=
  ⟨{ selected.record with
      status := .archived
      archivedAt := some now
      metadata := merged selected.record.metadata [("archived_by", .str archivedBy)] }, selected.valid⟩

/-- `archive_version`. -/
def archiveVersion (policyId version archivedBy : String) (now touchedAt : Instant) :
    PolicyOperation PolicyDetail := do
  let selected ← getVersion policyId version
  if selected.record.status = .archived then getPolicyDetail policyId
  else do
    consult (.saveVersion (archived selected archivedBy now))
    let definition ← getDefinition policyId
    touchDefinition definition touchedAt
    getPolicyDetail policyId

/-! ## Runs -/

/-- One request of the service. -/
inductive PolicyRequest where
  | createPolicy (request : CreatePolicy) (now : Instant)
  | createPolicyVersion (policyId : String) (baseVersion : Option String) (content : PolicyContent)
      (createdBy : String) (createdAt touchedAt : Instant)
  | updateDraftVersion (policyId version : String) (content : PolicyContent) (updatedBy : String)
      (touchedAt : Instant)
  | activateVersion (policyId version activatedBy : String) (now touchedAt : Instant)
  | archiveVersion (policyId version archivedBy : String) (now touchedAt : Instant)

/-- The steps of a request. -/
def PolicyRequest.body : PolicyRequest → PolicyOperation PolicyDetail
  | createPolicy request now => PolicyAdministration.createPolicy request now
  | createPolicyVersion policyId baseVersion content createdBy createdAt touchedAt =>
    PolicyAdministration.createPolicyVersion policyId baseVersion content createdBy createdAt touchedAt
  | updateDraftVersion policyId version content updatedBy touchedAt =>
    PolicyAdministration.updateDraftVersion policyId version content updatedBy touchedAt
  | activateVersion policyId version activatedBy now touchedAt =>
    PolicyAdministration.activateVersion policyId version activatedBy now touchedAt
  | archiveVersion policyId version archivedBy now touchedAt =>
    PolicyAdministration.archiveVersion policyId version archivedBy now touchedAt

/-- The repository after requests that run one after the other; a request that raises keeps
what it has written. -/
def serveAll (requests : List PolicyRequest) (store : PolicyStore) : PolicyStore :=
  requests.foldl (fun store request => (request.body.run policyStores store).2) store

end AiGovernance.PolicyAdministration
