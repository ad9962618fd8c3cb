import AiGovernance.Services.Ontology

/-!
# Uniqueness of live edges

The service looks at the edges that are live when an edge is saved, and only
with the rule of the new edge. Two writes escape it: saving an entity again
brings back the edges of its tombstone unseen, and an edge without a constraint
on its target may join one whose rule allows no other. In a run without these
two, live edges stay unique.
-/

namespace AiGovernance.Ontology

open AiGovernance.Std Domain

variable {relationship : OntologyRelationship}

namespace GraphStore

/-- An edge that is stored, not deleted, and between live entities. -/
def Live (store : GraphStore) (edge : OntologyRelationship) : Prop :=
  edge ∈ store.relationships.values ∧ edge.record.isDeleted = false ∧
    store.endpointsLive edge.record.tenant edge = true

/-- Two live edges of one tenant and type. -/
structure Rivals (store : GraphStore) (edge other : OntologyRelationship) : Prop where
  live : store.Live edge
  otherLive : store.Live other
  sameTenant : edge.record.tenant = other.record.tenant
  sameType : edge.record.relationshipType = other.record.relationshipType

/-- Two edges of one type join the same ends, or the endpoint rule of the first allows no second one. -/
inductive Clash (validator : RelationshipValidator) (edge other : OntologyRelationship) : Prop where
  | duplicate (sameSource : edge.record.source = other.record.source)
      (sameTarget : edge.record.target = other.record.target)
  | perSource {rule : RelationshipEndpointRule} (ruled : validator.endpointRuleFor edge = .ok rule)
      (set : rule.uniquePerSource = true) (sameSource : edge.record.source = other.record.source)
  | perTarget {rule : RelationshipEndpointRule} (ruled : validator.endpointRuleFor edge = .ok rule)
      (set : rule.uniquePerTarget = true) (sameTarget : edge.record.target = other.record.target)
  | perSourceTargetType {rule : RelationshipEndpointRule} (ruled : validator.endpointRuleFor edge = .ok rule)
      (set : rule.uniquePerSourceTargetType = true) (sameSource : edge.record.source = other.record.source)
      (sameTargetType : edge.record.targetEntityType = other.record.targetEntityType)

/-- No two live edges of a tenant join the same ends with the same type, and every live edge is the
only one where its endpoint rule says so. -/
def UniqueEdges (validator : RelationshipValidator) (store : GraphStore) : Prop :=
  ∀ edge other, store.Rivals edge other → Clash validator edge other →
    edge.record.relationshipId = other.record.relationshipId

variable {store : GraphStore}

theorem UniqueEdges.mono {validator : RelationshipValidator} {next : GraphStore} (unique : UniqueEdges validator store)
    (fewer : ∀ edge, next.Live edge → store.Live edge) : UniqueEdges validator next := by
  intro edge other rivals clash
  exact unique edge other
    ⟨fewer edge rivals.live, fewer other rivals.otherLive, rivals.sameTenant, rivals.sameType⟩ clash

theorem uniqueEdges_empty (validator : RelationshipValidator) : UniqueEdges validator empty := by
  intro edge other rivals
  cases rivals.live.1

/-! ## Entities -/

theorem holds_saveEntity (entity : OntologyEntity) (tenant : Tenant) (node : NodeKey) :
    (store.saveEntity entity).holds tenant node =
      if (tenant, node) = (entity.record.tenant, entity.record.node) then !entity.record.isDeleted
      else store.holds tenant node := by
  unfold holds saveEntity
  rw [Dict.get?_set]
  split <;> rfl

/-- Saving the entity brings no edge back: it is stored as deleted, or over a live one, or no edge
that is not deleted stands at it. -/
def RevivesNothing (store : GraphStore) (entity : OntologyEntity) : Prop :=
  entity.record.isDeleted = true ∨ store.holds entity.record.tenant entity.record.node = true ∨
    ∀ edge ∈ store.relationships.values, edge.record.tenant = entity.record.tenant →
      edge.record.isDeleted = false →
      edge.record.source ≠ entity.record.node ∧ edge.record.target ≠ entity.record.node

variable {edge : OntologyRelationship}

/-- An end that is live afterwards was live before, unless an edge that is not deleted was hidden. -/
theorem holds_of_revivesNothing {entity : OntologyEntity} (harmless : store.RevivesNothing entity)
    (stored : edge ∈ store.relationships.values) (kept : edge.record.isDeleted = false) {node : NodeKey}
    (anEnd : node = edge.record.source ∨ node = edge.record.target)
    (live : (store.saveEntity entity).holds edge.record.tenant node = true) :
    store.holds edge.record.tenant node = true := by
  rw [holds_saveEntity] at live
  split at live
  · rename_i here
    obtain ⟨sameTenant, sameNode⟩ := Prod.mk.inj here
    rcases harmless with deleted | held | isolated
    · simp [deleted] at live
    · rw [sameTenant, sameNode]
      exact held
    · obtain ⟨notSource, notTarget⟩ := isolated edge stored sameTenant kept
      rcases anEnd with source | target
      · exact absurd (source.symm.trans sameNode) notSource
      · exact absurd (target.symm.trans sameNode) notTarget
  · exact live

theorem live_of_saveEntity {entity : OntologyEntity} (harmless : store.RevivesNothing entity)
    (live : (store.saveEntity entity).Live edge) : store.Live edge := by
  obtain ⟨stored, kept, ends⟩ := live
  unfold endpointsLive at ends
  rw [Bool.and_eq_true] at ends
  refine ⟨stored, kept, ?_⟩
  unfold endpointsLive
  rw [Bool.and_eq_true]
  exact ⟨holds_of_revivesNothing harmless stored kept (Or.inl rfl) ends.1,
    holds_of_revivesNothing harmless stored kept (Or.inr rfl) ends.2⟩

theorem live_of_deleteEntity {tenant : Tenant} {node : NodeKey} {now : Instant}
    (live : (store.deleteEntity tenant node now).Live edge) : store.Live edge := by
  unfold deleteEntity at live
  split at live
  · exact live_of_saveEntity (Or.inl rfl) live
  · exact live

/-! ## Relationships -/

theorem mem_saveRelationship (stored : edge ∈ (store.saveRelationship relationship).relationships.values) :
    edge = relationship ∨
      (edge ∈ store.relationships.values ∧
        (edge.record.tenant, edge.record.relationshipId) ≠
          (relationship.record.tenant, relationship.record.relationshipId)) := by
  have found := get?_of_mem_values stored
  unfold saveRelationship at found
  rw [Dict.get?_set] at found
  split at found
  · cases found
    exact Or.inl rfl
  · rename_i different
    exact Or.inr ⟨(Dict.mem_values_iff _ _).mpr ⟨_, found⟩, different⟩

theorem live_saveRelationship (live : (store.saveRelationship relationship).Live edge) :
    edge = relationship ∨
      (store.Live edge ∧ (edge.record.tenant, edge.record.relationshipId) ≠
        (relationship.record.tenant, relationship.record.relationshipId)) := by
  obtain ⟨stored, kept, ends⟩ := live
  rcases mem_saveRelationship stored with same | ⟨before, different⟩
  · exact Or.inl same
  · exact Or.inr ⟨⟨before, kept, ends⟩, different⟩

theorem live_of_deleteRelationship {tenant : Tenant} {relationshipId : String} {now : Instant}
    (live : (store.deleteRelationship tenant relationshipId now).Live edge) : store.Live edge := by
  unfold deleteRelationship at live
  split at live
  · rcases live_saveRelationship live with rfl | ⟨before, -⟩
    · cases live.2.1
    · exact before
  · exact live

end GraphStore

open GraphStore

theorem refuseIfAny_ok {edges : List OntologyRelationship} {inTheWay : OntologyRelationship → Bool}
    {message : String} (passed : refuseIfAny edges inTheWay message = .ok ()) :
    ∀ item ∈ edges, inTheWay item = false := by
  unfold refuseIfAny at passed
  split at passed
  · cases passed
  · rename_i free
    simpa using free

/-- What an accepted relationship was checked for. -/
structure Accepted (validator : RelationshipValidator) (store : GraphStore) (relationship : OntologyRelationship)
    (rule : RelationshipEndpointRule) : Prop where
  ruled : validator.endpointRuleFor relationship = .ok rule
  noDuplicate : ∀ item ∈ outgoingEdges store relationship,
    item.record.relationshipId ≠ relationship.record.relationshipId →
    item.record.target ≠ relationship.record.target
  perSource : rule.uniquePerSource = true → ∀ item ∈ outgoingEdges store relationship,
    item.record.relationshipId = relationship.record.relationshipId
  perTarget : rule.uniquePerTarget = true → ∀ item ∈ incomingEdges store relationship,
    item.record.relationshipId = relationship.record.relationshipId
  perSourceTargetType : rule.uniquePerSourceTargetType = true → ∀ item ∈ outgoingEdges store relationship,
    item.record.relationshipId ≠ relationship.record.relationshipId →
    item.record.targetEntityType ≠ relationship.record.targetEntityType

theorem checkWhen_ok {flag : Bool} {check : Except Raised Unit} (passed : checkWhen flag check = .ok ())
    (set : flag = true) : check = .ok () := by
  unfold checkWhen at passed
  rw [if_pos set] at passed
  exact passed

variable {store : GraphStore}

theorem accepted_of_check {validator : RelationshipValidator}
    (checked : checkRelationship validator store relationship = .ok ()) :
    ∃ rule, Accepted validator store relationship rule := by
  unfold checkRelationship at checked
  obtain ⟨_, -, checked⟩ := bind_ok checked
  obtain ⟨_, -, checked⟩ := bind_ok checked
  obtain ⟨_, -, checked⟩ := bind_ok checked
  obtain ⟨_, noDuplicate, checked⟩ := bind_ok checked
  unfold rejectCardinalityConflict at checked
  obtain ⟨rule, ruled, checked⟩ := bind_ok checked
  obtain ⟨_, perSource, checked⟩ := bind_ok checked
  obtain ⟨_, perTarget, perSourceTargetType⟩ := bind_ok checked
  refine ⟨rule, ruled, ?_, ?_, ?_, ?_⟩
  · intro item member different
    have free := refuseIfAny_ok noDuplicate item member
    simpa [different] using free
  · intro set item member
    have free := refuseIfAny_ok (checkWhen_ok perSource set) item member
    simpa using free
  · intro set item member
    have free := refuseIfAny_ok (checkWhen_ok perTarget set) item member
    simpa using free
  · intro set item member different
    have free := refuseIfAny_ok (checkWhen_ok perSourceTargetType set) item member
    simpa [different] using free

/-! ## One write -/

/-- The edge's own rule allows one edge per target, or no edge that is there already claims the target
for itself. -/
def TargetUnclaimed (validator : RelationshipValidator) (store : GraphStore)
    (relationship : OntologyRelationship) : Prop :=
  ∀ rule, validator.endpointRuleFor relationship = .ok rule → rule.uniquePerTarget = true ∨
    ∀ item ∈ incomingEdges store relationship,
      item.record.relationshipId ≠ relationship.record.relationshipId →
      ∀ itemRule, validator.endpointRuleFor item = .ok itemRule → itemRule.uniquePerTarget = false

/-- A write that brings back no hidden edge and joins no edge that claims its target. -/
def Careful (store : GraphStore) : GraphWrite → Prop
  | .saveEntity entity => store.RevivesNothing entity
  | .saveRelationship relationship => TargetUnclaimed .standard store relationship
  | _ => True

section Saved

variable {store : GraphStore} {relationship : OntologyRelationship}

variable {edge : OntologyRelationship}

theorem mem_outgoingEdges (live : store.Live edge) (sameTenant : edge.record.tenant = relationship.record.tenant)
    (sameType : edge.record.relationshipType = relationship.record.relationshipType)
    (sameSource : edge.record.source = relationship.record.source) : edge ∈ outgoingEdges store relationship := by
  obtain ⟨stored, kept, ends⟩ := live
  refine mem_findRelationships.mpr ⟨stored, sameTenant, ?_, kept, ?_, ?_⟩
  · simpa using sameType
  · rw [← sameTenant]
    exact ends
  · exact decide_eq_true sameSource

theorem mem_incomingEdges (live : store.Live edge) (sameTenant : edge.record.tenant = relationship.record.tenant)
    (sameType : edge.record.relationshipType = relationship.record.relationshipType)
    (sameTarget : edge.record.target = relationship.record.target) : edge ∈ incomingEdges store relationship := by
  obtain ⟨stored, kept, ends⟩ := live
  refine mem_findRelationships.mpr ⟨stored, sameTenant, ?_, kept, ?_, ?_⟩
  · simpa using sameType
  · rw [← sameTenant]
    exact ends
  · exact decide_eq_true sameTarget

/-- Rules of the standard validator for two edges of one type from one source agree on it. -/
theorem rules_agree {other : OntologyRelationship} {rule otherRule : RelationshipEndpointRule}
    (ruled : RelationshipValidator.standard.endpointRuleFor edge = .ok rule)
    (otherRuled : RelationshipValidator.standard.endpointRuleFor other = .ok otherRule)
    (sameType : edge.record.relationshipType = other.record.relationshipType)
    (sameSource : edge.record.source = other.record.source) :
    rule.uniquePerSource = otherRule.uniquePerSource ∧
      rule.uniquePerSourceTargetType = otherRule.uniquePerSourceTargetType := by
  obtain ⟨member, source, -⟩ := RelationshipValidator.standard_endpointRuleFor ruled
  obtain ⟨otherMember, otherSource, -⟩ := RelationshipValidator.standard_endpointRuleFor otherRuled
  rw [sameType] at member
  refine endpointRules_agree_per_source _ rule member otherRule otherMember ?_
  rw [source, otherSource]
  exact congrArg Prod.fst sameSource

variable {rule : RelationshipEndpointRule} (accepted : Accepted .standard store relationship rule)

include accepted

section Other

variable {edge : OntologyRelationship} (live : store.Live edge)
  (sameTenant : edge.record.tenant = relationship.record.tenant)
  (sameType : edge.record.relationshipType = relationship.record.relationshipType)
  (different : edge.record.relationshipId ≠ relationship.record.relationshipId)

include live sameTenant sameType different

/-- The new edge's own rule allows it beside one that stays. -/
theorem accepted_not_clash : ¬ Clash .standard relationship edge := by
  rintro (⟨sameSource, sameTarget⟩ | ⟨ruled, set, sameSource⟩ | ⟨ruled, set, sameTarget⟩ |
    ⟨ruled, set, sameSource, sameTargetType⟩)
  · exact accepted.noDuplicate edge (mem_outgoingEdges live sameTenant sameType sameSource.symm) different
      sameTarget.symm
  all_goals
    rw [accepted.ruled] at ruled
    cases ruled
  · exact different (accepted.perSource set edge (mem_outgoingEdges live sameTenant sameType sameSource.symm))
  · exact different (accepted.perTarget set edge (mem_incomingEdges live sameTenant sameType sameTarget.symm))
  · exact accepted.perSourceTargetType set edge (mem_outgoingEdges live sameTenant sameType sameSource.symm) different
      sameTargetType.symm

/-- So does the rule of the one that stays: on the source the two rules agree, and the target is not
claimed. -/
theorem unclaimed_not_clash (unclaimed : TargetUnclaimed .standard store relationship) :
    ¬ Clash .standard edge relationship := by
  have own := accepted_not_clash accepted live sameTenant sameType different
  rintro (⟨sameSource, sameTarget⟩ | ⟨ruled, set, sameSource⟩ | ⟨ruled, set, sameTarget⟩ |
    ⟨ruled, set, sameSource, sameTargetType⟩)
  · exact own (.duplicate sameSource.symm sameTarget.symm)
  · rw [(rules_agree ruled accepted.ruled sameType sameSource).1] at set
    exact own (.perSource accepted.ruled set sameSource.symm)
  · rcases unclaimed rule accepted.ruled with claims | others
    · exact own (.perTarget accepted.ruled claims sameTarget.symm)
    · have free := others edge (mem_incomingEdges live sameTenant sameType sameTarget) different _ ruled
      rw [set] at free
      cases free
  · rw [(rules_agree ruled accepted.ruled sameType sameSource).2] at set
    exact own (.perSourceTargetType accepted.ruled set sameSource.symm sameTargetType.symm)

end Other

theorem uniqueEdges_saved (unique : UniqueEdges .standard store)
    (unclaimed : TargetUnclaimed .standard store relationship) :
    UniqueEdges .standard (store.saveRelationship relationship) := by
  intro edge other rivals clash
  rcases live_saveRelationship rivals.live with rfl | ⟨live, apart⟩
  · rcases live_saveRelationship rivals.otherLive with rfl | ⟨otherLive, otherApart⟩
    · rfl
    · refine absurd clash (accepted_not_clash accepted otherLive rivals.sameTenant.symm rivals.sameType.symm ?_)
      intro same
      exact otherApart (by rw [same, rivals.sameTenant])
  · rcases live_saveRelationship rivals.otherLive with rfl | ⟨otherLive, -⟩
    · refine absurd clash (unclaimed_not_clash accepted live rivals.sameTenant rivals.sameType ?_ unclaimed)
      intro same
      exact apart (by rw [same, rivals.sameTenant])
    · exact unique edge other ⟨live, otherLive, rivals.sameTenant, rivals.sameType⟩ clash

end Saved

theorem uniqueEdges_perform {write : GraphWrite} (unique : UniqueEdges .standard store)
    (careful : Careful store write) : UniqueEdges .standard (write.perform .standard store).2 := by
  cases write with
  | saveEntity entity => exact unique.mono fun edge => live_of_saveEntity careful
  | deleteEntity entityType entityId tenant now =>
    unfold GraphWrite.perform
    dsimp only
    split
    · exact unique.mono fun edge => live_of_deleteEntity
    · exact unique
  | saveRelationship relationship =>
    unfold GraphWrite.perform
    dsimp only
    split
    · rename_i checked
      obtain ⟨rule, accepted⟩ := accepted_of_check checked
      exact uniqueEdges_saved accepted unique careful
    · exact unique
  | deleteRelationship relationshipId tenant now => exact unique.mono fun edge => live_of_deleteRelationship

/-! ## Every run -/

/-- Every write of a run is careful where it is made. -/
def CarefulRun : GraphStore → List GraphWrite → Prop
  | _, [] => True
  | store, write :: rest => Careful store write ∧ CarefulRun (write.perform .standard store).2 rest

theorem uniqueEdges_afterWrites {writes : List GraphWrite} (unique : UniqueEdges .standard store)
    (careful : CarefulRun store writes) : UniqueEdges .standard (afterWrites .standard store writes) := by
  induction writes generalizing store with
  | nil => exact unique
  | cons write rest ih =>
    exact ih (uniqueEdges_perform unique careful.1) careful.2

/-- In every run of writes by any tenants in which no entity is brought back with hidden edges and no
edge joins one that claims its target, the live edges stay unique. -/
theorem live_edges_unique (writes : List GraphWrite) (careful : CarefulRun .empty writes) :
    UniqueEdges .standard (afterWrites .standard .empty writes) :=
  uniqueEdges_afterWrites (uniqueEdges_empty _) careful

/-! ## Edges that come back, and edges that join -/

/-- A prompt. -/
def firstPrompt : OntologyEntity where
  record := { entityId := "prompt-1", entityType := .prompt, owner := "team", lifecycle := "ACTIVE", createdAt := ⟨1⟩ }
  valid := by decide

/-- Another prompt. -/
def secondPromptFields : OntologyEntityRecord :=
  { entityId := "prompt-2", entityType := .prompt, owner := "team", lifecycle := "ACTIVE", createdAt := ⟨1⟩ }

theorem secondPromptFields_valid : secondPromptFields.violation = none := by decide

def secondPrompt : OntologyEntity := ⟨secondPromptFields, secondPromptFields_valid⟩

/-- A version of a prompt. -/
def promptVersion : OntologyEntity where
  record :=
    { entityId := "version-1", entityType := .promptVersion, owner := "team", lifecycle := "ACTIVE", createdAt := ⟨1⟩ }
  valid := by decide

/-- The version belongs to the first prompt. -/
def firstHasVersion : OntologyRelationship where
  record :=
    { relationshipType := .hasVersion, sourceEntityId := "prompt-1", sourceEntityType := .prompt
      targetEntityId := "version-1", targetEntityType := .promptVersion, createdBy := "system"
      relationshipId := "edge-1", createdAt := ⟨2⟩ }
  valid := by decide

/-- The version belongs to the second prompt. -/
def secondHasVersion : OntologyRelationship where
  record :=
    { relationshipType := .hasVersion, sourceEntityId := "prompt-2", sourceEntityType := .prompt
      targetEntityId := "version-1", targetEntityType := .promptVersion, createdBy := "system"
      relationshipId := "edge-2", createdAt := ⟨4⟩ }
  valid := by decide

/-- The version moves to the second prompt when the first one is deleted. -/
def movedVersion : List GraphWrite :=
  [.saveEntity firstPrompt, .saveEntity secondPrompt, .saveEntity promptVersion, .saveRelationship firstHasVersion,
    .deleteEntity "Prompt" "prompt-1" {} ⟨3⟩, .saveRelationship secondHasVersion]

theorem targetUnclaimed_of_unique {rule : RelationshipEndpointRule}
    (ruled : RelationshipValidator.standard.endpointRuleFor relationship = .ok rule)
    (set : rule.uniquePerTarget = true) : TargetUnclaimed .standard store relationship := by
  intro found again
  rw [ruled] at again
  cases again
  exact Or.inl set

/-- The version has one prompt at any time. -/
theorem live_edges_unique_movedVersion :
    CarefulRun .empty movedVersion ∧ UniqueEdges .standard (afterWrites .standard .empty movedVersion) ∧
      secondHasVersion ∈ (afterWrites .standard .empty movedVersion).relationships.values := by
  have careful : CarefulRun .empty movedVersion := by
    refine ⟨Or.inr (Or.inr ?_), Or.inr (Or.inr ?_), Or.inr (Or.inr ?_), ?_, trivial, ?_, trivial⟩
    · decide +kernel
    · decide +kernel
    · decide +kernel
    · exact targetUnclaimed_of_unique rfl rfl
    · exact targetUnclaimed_of_unique rfl rfl
  exact ⟨careful, live_edges_unique movedVersion careful, by decide +kernel⟩

/-- A run of an evaluation, a workflow, and the result both produce. -/
def evaluationRun : OntologyEntity where
  record :=
    { entityId := "run-1", entityType := .evaluationRun, owner := "team", lifecycle := "COMPLETED", createdAt := ⟨1⟩ }
  valid := by decide

/-- A workflow. -/
def workflowExecution : OntologyEntity where
  record :=
    { entityId := "workflow-1", entityType := .workflowExecution, owner := "team", lifecycle := "COMPLETED"
      createdAt := ⟨1⟩ }
  valid := by decide

/-- A result. -/
def evaluationResult : OntologyEntity where
  record :=
    { entityId := "result-1", entityType := .evaluationResult, owner := "team", lifecycle := "COMPLETED"
      createdAt := ⟨1⟩ }
  valid := by decide

/-- The run's only result, produced by no one else. -/
def runProduces : OntologyRelationship where
  record :=
    { relationshipType := .produces, sourceEntityId := "run-1", sourceEntityType := .evaluationRun
      targetEntityId := "result-1", targetEntityType := .evaluationResult, createdBy := "system"
      relationshipId := "edge-3", createdAt := ⟨2⟩ }
  valid := by decide

/-- The workflow produces it too. -/
def workflowProduces : OntologyRelationship where
  record :=
    { relationshipType := .produces, sourceEntityId := "workflow-1", sourceEntityType := .workflowExecution
      targetEntityId := "result-1", targetEntityType := .evaluationResult, createdBy := "system"
      relationshipId := "edge-4", createdAt := ⟨3⟩ }
  valid := by decide

/-- The first prompt is saved again after its version has moved. -/
def restoredPrompt : List GraphWrite := movedVersion ++ [.saveEntity firstPrompt]

/-- Two producers of one result. -/
def twoProducers : List GraphWrite :=
  [.saveEntity evaluationRun, .saveEntity workflowExecution, .saveEntity evaluationResult,
    .saveRelationship runProduces, .saveRelationship workflowProduces]

/-- A version with two live prompts, and a result with two live producers although the run's rule
allows one. -/
theorem live_edges_not_unique :
    ¬ UniqueEdges .standard (afterWrites .standard .empty restoredPrompt) ∧
      ¬ UniqueEdges .standard (afterWrites .standard .empty twoProducers) := by
  constructor
  · intro unique
    have same := unique firstHasVersion secondHasVersion
      ⟨⟨by decide +kernel, rfl, by decide +kernel⟩, ⟨by decide +kernel, rfl, by decide +kernel⟩, rfl, rfl⟩
      (.perTarget rfl rfl rfl)
    exact absurd same (by decide)
  · intro unique
    have same := unique runProduces workflowProduces
      ⟨⟨by decide +kernel, rfl, by decide +kernel⟩, ⟨by decide +kernel, rfl, by decide +kernel⟩, rfl, rfl⟩
      (.perTarget rfl rfl rfl)
    exact absurd same (by decide)

end AiGovernance.Ontology
