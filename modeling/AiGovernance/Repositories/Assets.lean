import AiGovernance.Domain.Assets

/-!
# The in-memory asset repositories

`InMemoryPromptRepository` and `InMemoryModelRepository` are one store each:
records by identifier, found by identifier, by name or by name and version
within a tenant. `saveAndPublish` and `deprecateOthers` are the writes the two
registry services have in common.
-/

namespace AiGovernance.Registries

open AiGovernance.Std Domain

/-- The event `publish_entity_event` is given. -/
structure AssetEntityEvent where
  eventType : String
  entityType : String
  entityId : String
  scopeIdentifier : String
  payload : List (String × Option String)
deriving DecidableEq

/-- `ResourceLifecycleEvent` of an asset. -/
structure ResourceLifecycleEvent where
  tenantId : String
  organizationId : String
  projectId : String
  resourceKind : String
  resourceId : String
  state : String
  payload : List (String × String)
deriving DecidableEq

/-- What a call meets: the identifier it may draw, the clock, and what the publishers answer. A publisher that is
not there takes every event. -/
structure RegistryMeets where
  generatedId : String
  now : Instant
  publishEntityEvent : AssetEntityEvent → Except Raised Unit := fun _ => .ok ()
  publish : ResourceLifecycleEvent → Except Raised Unit := fun _ => .ok ()

/-- The hash and the name-based identifiers of the language. -/
structure RegistryPrimitives where
  sha256 : String → String
  uuid5 : String → String

section Store

variable {R N C : Type} (described : Described R String (AssetName N) String C)

/-- `save`. -/
def save (record : R) (store : Dict String R) : Dict String R := store.set (described.key record) record

/-- `find_by_id`. -/
def findById (store : Dict String R) (recordId organizationId projectId : String) : Option R :=
  (store.get? recordId).filter fun record =>
    (described.asset record).organizationId = organizationId && (described.asset record).projectId = projectId

/-- `find_by_name` of prompts, `find_by_logical_model` of models. -/
def findByName [DecidableEq N] (store : Dict String R) (asset : AssetName N) : List R :=
  store.values.filter fun record => described.asset record = asset

/-- `find_by_name_and_version`, `find_by_provider_name_and_version`. -/
def findByNameAndVersion [DecidableEq N] (store : Dict String R) (asset : AssetName N) (version : String) : Option R :=
  store.values.find? fun record => described.asset record = asset && described.version record = version

/-- A save, and the announcement of what was saved. -/
def saveAndPublish (publish : R → Except Raised Unit) (record : R) (store : Dict String R) :
    Except Raised R × Dict String R :=
  ((publish record).map fun _ => record, save described record store)

/-- The loop of an activation: every other active version is deprecated. -/
def deprecateOthers (publish : R → Except Raised Unit) (target : R) :
    List R → Dict String R → Except Raised Unit × Dict String R
  | [], store => (.ok (), store)
  | existing :: rest, store =>
    if described.key existing ≠ described.key target ∧ described.status existing = .active then
      match saveAndPublish described publish (described.withStatus existing .deprecated) store with
      | (.ok _, after) => deprecateOthers publish target rest after
      | (.error raised, after) => (.error raised, after)
    else deprecateOthers publish target rest store

/-- An activation: the other active versions are deprecated, then the target is made active. -/
def activateAmong (retire announce : R → Except Raised Unit) (target : R) (versions : List R) (store : Dict String R) :
    Except Raised R × Dict String R :=
  match deprecateOthers described retire target versions store with
  | (.error raised, after) => (.error raised, after)
  | (.ok (), after) => saveAndPublish described announce (described.withStatus target .active) after

/-- The active versions beside the target, up to the first whose deprecation is not announced. -/
def demoted (publish : R → Except Raised Unit) (target : R) : List R → List R
  | [] => []
  | existing :: rest =>
    if described.key existing ≠ described.key target ∧ described.status existing = .active then
      match publish (described.withStatus existing .deprecated) with
      | .ok () => existing :: demoted publish target rest
      | .error _ => [existing]
    else demoted publish target rest

variable {described} {store : Dict String R}

variable {record : R}

theorem findById_eq_some {recordId organizationId projectId : String} :
    findById described store recordId organizationId projectId = some record ↔
      store.get? recordId = some record ∧ (described.asset record).organizationId = organizationId ∧
        (described.asset record).projectId = projectId := by
  unfold findById
  rw [Option.filter_eq_some_iff]
  simp

variable {asset : AssetName N}

theorem mem_findByName [DecidableEq N] :
    record ∈ findByName described store asset ↔
      (∃ key, store.get? key = some record) ∧ described.asset record = asset := by
  unfold findByName
  rw [List.mem_filter, Dict.mem_values_iff]
  simp

theorem findByNameAndVersion_eq_none [DecidableEq N] {version : String} :
    findByNameAndVersion described store asset version = none ↔
      ∀ key record, store.get? key = some record → described.asset record = asset → described.version record ≠ version := by
  unfold findByNameAndVersion
  rw [List.find?_eq_none]
  constructor
  · intro absent key record found named
    have stored := absent record ((Dict.mem_values_iff store record).mpr ⟨key, found⟩)
    simpa [named] using stored
  · intro absent record member
    obtain ⟨key, found⟩ := (Dict.mem_values_iff store record).mp member
    simpa using absent key record found

theorem findByNameAndVersion_eq_some [DecidableEq N] {version : String}
    (found : findByNameAndVersion described store asset version = some record) :
    (∃ key, store.get? key = some record) ∧ described.asset record = asset ∧ described.version record = version := by
  unfold findByNameAndVersion at found
  have member := List.mem_of_find?_eq_some found
  have named := List.find?_some found
  rw [Bool.and_eq_true, decide_eq_true_eq, decide_eq_true_eq] at named
  exact ⟨(Dict.mem_values_iff store record).mp member, named⟩

/-- What the loop leaves: the demoted versions are deprecated, and it goes on to its end unless an announcement fails. -/
theorem deprecateOthers_eq (publish : R → Except Raised Unit) (target : R) (records : List R) :
    (deprecateOthers described publish target records store).2 =
      described.deprecateAll (demoted described publish target records) store := by
  induction records generalizing store with
  | nil => rfl
  | cons existing rest ih =>
    unfold deprecateOthers demoted saveAndPublish save
    by_cases other : described.key existing ≠ described.key target ∧ described.status existing = .active
    · rw [if_pos other, if_pos other]
      cases announced : publish (described.withStatus existing .deprecated) with
      | ok done =>
        dsimp only [Except.map]
        rw [ih, described.key_withStatus]
        rfl
      | error raised =>
        dsimp only [Except.map]
        rw [described.key_withStatus]
        rfl
    · rw [if_neg other, if_neg other]
      exact ih

variable {records : List R} {target : R} {publish : R → Except Raised Unit}

/-- The loop ends early in what a publisher raised. -/
theorem deprecateOthers_error {raised : Raised}
    (failed : (deprecateOthers described publish target records store).1 = .error raised) :
    ∃ record, publish record = .error raised := by
  induction records generalizing store with
  | nil => cases failed
  | cons existing rest ih =>
    unfold deprecateOthers saveAndPublish at failed
    split at failed
    · cases announced : publish (described.withStatus existing .deprecated) with
      | ok done =>
        rw [announced] at failed
        exact ih failed
      | error exception =>
        rw [announced] at failed
        cases failed
        exact ⟨_, announced⟩
    · exact ih failed

theorem mem_demoted (member : record ∈ demoted described publish target records) :
    record ∈ records ∧ described.key record ≠ described.key target ∧ described.status record = .active := by
  induction records with
  | nil => cases member
  | cons existing rest ih =>
    unfold demoted at member
    split at member
    · rename_i other
      cases announced : publish (described.withStatus existing .deprecated) with
      | ok done =>
        rw [announced] at member
        rcases List.mem_cons.mp member with rfl | later
        · exact ⟨List.mem_cons_self, other⟩
        · exact ⟨List.mem_cons_of_mem _ (ih later).1, (ih later).2⟩
      | error raised =>
        rw [announced] at member
        obtain rfl := List.mem_singleton.mp member
        exact ⟨List.mem_cons_self, other⟩
    · exact ⟨List.mem_cons_of_mem _ (ih member).1, (ih member).2⟩

theorem demoted_sublist : (demoted described publish target records).Sublist records := by
  induction records with
  | nil => exact .slnil
  | cons existing rest ih =>
    unfold demoted
    split
    · split
      · exact ih.cons_cons existing
      · exact (List.nil_sublist rest).cons_cons existing
    · exact ih.cons existing

theorem mem_demoted_of_completed (completed : (deprecateOthers described publish target records store).1 = .ok ())
    (member : record ∈ records) (other : described.key record ≠ described.key target)
    (active : described.status record = .active) : record ∈ demoted described publish target records := by
  induction records generalizing store with
  | nil => cases member
  | cons existing rest ih =>
    unfold deprecateOthers saveAndPublish at completed
    unfold demoted
    by_cases superseded : described.key existing ≠ described.key target ∧ described.status existing = .active
    · rw [if_pos superseded] at completed ⊢
      cases announced : publish (described.withStatus existing .deprecated) with
      | ok done =>
        rw [announced] at completed
        rcases List.mem_cons.mp member with rfl | later
        · exact List.mem_cons_self
        · exact List.mem_cons_of_mem _ (ih completed later)
      | error raised =>
        rw [announced] at completed
        cases completed
    · rw [if_neg superseded] at completed ⊢
      rcases List.mem_cons.mp member with rfl | later
      · exact absurd ⟨other, active⟩ superseded
      · exact ih completed later

end Store

end AiGovernance.Registries
