import AiGovernance.Decisions.PolicyAdministration
import AiGovernance.Semantics.Program

/-!
# The in-memory policy administration repository

`repositories/in_memory_policy_administration_repository.py`: definitions by
policy, versions by policy and number, and the calls of the service as commands.
Saving an active version demotes the one that was active.
-/

namespace AiGovernance.PolicyAdministration

open AiGovernance.Std Domain Semantics
open Decisions (PolicyStatus)

/-- `InMemoryPolicyAdministrationRepository`; every record stands under its own key. -/
structure PolicyStore where
  definitions : Dict String PolicyDefinition
  versions : Dict (String × String) PolicyVersion
  definitionKeyed : ∀ {policyId definition}, definitions.get? policyId = some definition →
    definition.record.policyId = policyId
  versionKeyed : ∀ {key version}, versions.get? key = some version →
    (version.record.policyId, version.record.version) = key

namespace PolicyStore

/-- The empty repository. -/
def empty : PolicyStore := ⟨.empty, .empty, by simp, by simp⟩

/-- Store a definition under its policy. -/
def putDefinition (store : PolicyStore) (definition : PolicyDefinition) : PolicyStore where
  definitions := store.definitions.set definition.record.policyId definition
  versions := store.versions
  definitionKeyed := store.definitions.keyed_set store.definitionKeyed rfl
  versionKeyed := store.versionKeyed

/-- Store a version under its policy and number. -/
def putVersion (store : PolicyStore) (version : PolicyVersion) : PolicyStore where
  definitions := store.definitions
  versions := store.versions.set (version.record.policyId, version.record.version) version
  definitionKeyed := store.definitionKeyed
  versionKeyed := store.versions.keyed_set store.versionKeyed rfl

/-- `save_definition`. -/
def saveDefinition (store : PolicyStore) (definition : PolicyDefinition) : Except Raised Unit × PolicyStore :=
  match store.definitions.values.find? fun item =>
      item.record.policyId ≠ definition.record.policyId &&
        item.record.projectId = definition.record.projectId && item.record.name = definition.record.name with
  | some _ =>
    (.error ⟨.policyAdministrationConflictError, "Policy name must be unique within a project."⟩, store)
  | none => (.ok (), store.putDefinition definition)

/-- `_version_sort_key`: numbers first, padded to twenty digits. -/
def versionSortKey (version : String) : Nat × String :=
  match Text.parseInt version with
  | some number =>
    let sign := if number < 0 then "-" else ""
    let digits := toString number.natAbs
    (0, sign ++ String.ofList (List.replicate (20 - sign.length - digits.length) '0') ++ digits)
  | none => (1, version)

/-- The order of two versions in a listing. -/
def sortsBefore (left right : PolicyVersion) : Bool :=
  let first := versionSortKey left.record.version
  let second := versionSortKey right.record.version
  first.1 < second.1 || (first.1 = second.1 && first.2 ≤ second.2)

/-- `list_versions`; the sort is stable. -/
def listVersions (store : PolicyStore) (policyId : String) : List PolicyVersion :=
  (store.versions.values.filter (·.record.policyId = policyId)).mergeSort sortsBefore

/-- `get_active_version`. -/
def getActiveVersion (store : PolicyStore) (policyId : String) : Option PolicyVersion :=
  (store.listVersions policyId).find? (·.record.status = .active)

/-- A version that another one takes the place of. -/
def demoted (active : PolicyVersion) (now : Instant) : PolicyVersion :=
  ⟨{ active.record with status := .deprecated, deprecatedAt := some now }, active.valid⟩

/-- `save_version`. -/
def saveVersion (store : PolicyStore) (version : PolicyVersion) : PolicyStore :=
  if version.record.status = .active then
    match store.getActiveVersion version.record.policyId with
    | some active =>
      if active.record.version ≠ version.record.version then
        (store.putVersion (demoted active
          (version.record.activatedAt.getD version.record.createdAt))).putVersion version
      else store.putVersion version
    | none => store.putVersion version
  else store.putVersion version

end PolicyStore

/-! ## Commands -/

/-- The calls of the repository. -/
inductive PolicyCommand where
  | getDefinition (policyId : String)
  | saveDefinition (definition : PolicyDefinition)
  | getVersion (policyId version : String)
  | saveVersion (version : PolicyVersion)
  | listVersions (policyId : String)
  | getActiveVersion (policyId : String)

/-- What each call answers. -/
def PolicyCommand.Answer : PolicyCommand → Type
  | getDefinition _ => Option PolicyDefinition
  | saveDefinition _ => Unit
  | getVersion _ _ => Option PolicyVersion
  | saveVersion _ => Unit
  | listVersions _ => List PolicyVersion
  | getActiveVersion _ => Option PolicyVersion

/-- The repository as the service sees it. -/
abbrev policyRepository : Interface := ⟨PolicyCommand, PolicyCommand.Answer, Raised⟩

/-- How the repository answers. -/
def policyStores : Handler policyRepository PolicyStore
  | .getDefinition policyId, store => (.ok (store.definitions.get? policyId), store)
  | .saveDefinition definition, store => store.saveDefinition definition
  | .getVersion policyId version, store => (.ok (store.versions.get? (policyId, version)), store)
  | .saveVersion version, store => (.ok (), store.saveVersion version)
  | .listVersions policyId, store => (.ok (store.listVersions policyId), store)
  | .getActiveVersion policyId, store => (.ok (store.getActiveVersion policyId), store)

/-- A computation of the service. -/
abbrev PolicyOperation := Program policyRepository

/-- Issue a call of the repository. -/
abbrev consult (command : PolicyCommand) : PolicyOperation command.Answer :=
  Program.call (I := policyRepository) command

end AiGovernance.PolicyAdministration
