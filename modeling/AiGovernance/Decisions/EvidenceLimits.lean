import AiGovernance.Decisions.EvidenceBuilder
import AiGovernance.Ontology.Paths
import AiGovernance.Ontology.Subgraphs

/-!
# Evidence that the limit leaves out

An evidence graph is a bounded neighbourhood of its target. Whatever relevant
node the bound leaves out of it, the graph says that its limit was reached.
-/

namespace AiGovernance.Decisions

open AiGovernance.Std AiGovernance.Std.Search Domain Services List
open OntologyGraphQueryService
open Ontology (EntityType GraphEntity GraphRelationship GraphSubgraph GraphNode GraphStore
  NodeKey TextFunctions OntologyEntity OntologyRelationship asciiText relationshipTypeSet entityTypeSet)
open Ontology.GraphStore (TraversalQuery Passing nodeKey walk_from_gone subgraph_answers
  promptAndVersion singleTenant_promptAndVersion)

/-- What the builder asks the graph for. -/
def evidenceQuery (targetType : DecisionTargetType) (depth limit : Int) : TraversalQuery where
  direction := .both
  relationshipFilter := relevantRelationshipTypes
  entityFilter := targetType.entityType :: relevantEntityTypes
  depth := depth
  limit := limit

/-- Live evidence within the depth of its target. -/
def Relevant (store : GraphStore) (targetType : DecisionTargetType) (targetId : String) (depth limit : Int)
    (key : NodeKey) : Prop :=
  store.holds {} key = true ∧ ∃ length : Nat, (length : Int) ≤ depth ∧
    Distance (store.Hops (evidenceQuery targetType depth limit)) (targetType.entityType, targetId) key length

/-- How a node of an evidence graph is named. -/
def evidenceKey (node : EvidenceNode) : String × String := (node.record.entityType, node.record.entityId)

/-! ## The parts of an evidence graph -/

section Parts

variable {store : GraphStore} {subgraph : GraphSubgraph} {target : GraphEntity}

variable {key : NodeKey}

theorem get?_graphEntities (nodes : List GraphNode) (entities : Dict NodeKey GraphEntity)
    (known : (entities.get? key).isSome = true ∨ key ∈ nodes.map nodeKey) :
    ((nodes.foldl (fun entities node => entities.set (node.entity.entityType, node.entity.entityId) node.entity)
      entities).get? key).isSome = true := by
  induction nodes generalizing entities with
  | nil => exact known.resolve_right not_mem_nil
  | cons node rest ih =>
    apply ih
    by_cases same : key = (node.entity.entityType, node.entity.entityId)
    · left
      rw [same, Dict.get?_set_self]
      rfl
    · rcases known with present | member
      · left
        rwa [Dict.get?_set_of_ne _ same]
      · exact Or.inr ((mem_cons.mp member).resolve_left same)

/-- Every node of a subgraph is among the entities of its evidence. -/
theorem length_graphEntities (once : (subgraph.nodes.map nodeKey).Nodup) :
    subgraph.nodes.length ≤ (graphEntities subgraph target).values.length := by
  have covered : subgraph.nodes.map nodeKey ⊆ (graphEntities subgraph target).entries.map Prod.fst := by
    intro key member
    obtain ⟨entity, found⟩ := Option.isSome_iff_exists.mp
      (get?_graphEntities subgraph.nodes (Dict.empty.set (target.entityType, target.entityId) target) (Or.inr member))
    exact mem_map_of_mem (Dict.mem_of_get? found)
  have shorter := (subperm_of_subset once covered).length_le
  unfold Dict.values
  simpa using shorter

variable {entity : GraphEntity}

/-- What holds of the target and of every node of a subgraph holds of the entities of its evidence. -/
theorem forall_graphEntities {holds : NodeKey → GraphEntity → Prop} (nodes : List GraphNode)
    {entities : Dict NodeKey GraphEntity} (before : ∀ {key entity}, entities.get? key = some entity → holds key entity)
    (each : ∀ node ∈ nodes, holds (nodeKey node) node.entity) (found : (nodes.foldl (fun entities node =>
      entities.set (node.entity.entityType, node.entity.entityId) node.entity) entities).get? key = some entity) :
    holds key entity := by
  induction nodes generalizing entities with
  | nil => exact before found
  | cons node rest ih =>
    apply ih _ (fun other member => each other (mem_cons_of_mem _ member)) found
    intro other stored read
    rw [Dict.get?_set] at read
    split at read
    · rename_i same
      cases read
      exact same ▸ each node mem_cons_self
    · exact before read

/-- An entity of the graph under the key it is stored by. -/
def Genuine (key : NodeKey) (entity : GraphEntity) : Prop :=
  (entity.entityType, entity.entityId) = key ∧ ∃ stored : OntologyEntity, entity = .ofOntologyEntity stored

theorem genuine_ofOntologyEntity (entity : OntologyEntity) : Genuine entity.record.node (.ofOntologyEntity entity) :=
  ⟨rfl, entity, rfl⟩

variable {start : NodeKey} {query : TraversalQuery}

theorem genuine_graphEntities (answers : GraphStore.Answers store query start subgraph)
    (known : Genuine (target.entityType, target.entityId) target)
    (found : (graphEntities subgraph target).get? key = some entity) : Genuine key entity := by
  refine forall_graphEntities subgraph.nodes (fun {other stored} read => ?_) (fun node member => ?_) found
  · rw [Dict.get?_set] at read
    split at read
    · rename_i same
      cases read
      exact same ▸ known
    · cases read
  · obtain ⟨entity, -, -, same⟩ := answers.genuine node member
    unfold nodeKey
    rw [same]
    exact genuine_ofOntologyEntity entity

theorem value_named (entityType : EntityType) : Text.isBlank entityType.value = false := by
  cases entityType <;> decide

theorem evidenceNode_ok (entity : OntologyEntity) : ∃ node, evidenceNode (.ofOntologyEntity entity) = .ok node := by
  have valid := entity.valid
  unfold Ontology.OntologyEntityRecord.violation at valid
  rw [firstViolation_eq_none] at valid
  have named := valid (Ontology.requireNonEmpty "entity_id" entity.record.entityId) (by simp)
  refine ⟨⟨_, ?_⟩, Checked.create_eq_ok_iff.mpr rfl⟩
  refine firstViolation_eq_none.mpr fun test member => ?_
  rcases mem_pair.mp member with rfl | rfl
  · exact requireNonEmpty_eq_none.mpr (value_named _)
  · exact requireNonEmpty_eq_none.mpr (rejectIf_eq_none.mp named)

theorem evidenceNode_key {node : EvidenceNode} (made : evidenceNode entity = .ok node) :
    evidenceKey node = (entity.entityType.value, entity.entityId) := by
  have same := Checked.create_eq_ok_iff.mp made
  unfold evidenceKey
  rw [same]

theorem evidenceEdge_ok (relationship : OntologyRelationship) :
    ∃ edge, evidenceEdge (.ofOntologyRelationship relationship) = .ok edge := by
  have valid := relationship.valid
  unfold Ontology.OntologyRelationshipRecord.violation at valid
  rw [firstViolation_eq_none] at valid
  have source := valid (Ontology.requireNonEmpty "source_entity_id" relationship.record.sourceEntityId) (by simp)
  have target := valid (Ontology.requireNonEmpty "target_entity_id" relationship.record.targetEntityId) (by simp)
  have typed : Text.isBlank relationship.record.relationshipType.value = false := by
    cases relationship.record.relationshipType <;> decide
  refine ⟨⟨_, ?_⟩, Checked.create_eq_ok_iff.mpr rfl⟩
  refine firstViolation_eq_none.mpr fun test member => ?_
  simp only [mem_cons, not_mem_nil, or_false] at member
  rcases member with rfl | rfl | rfl | rfl | rfl
  · exact requireNonEmpty_eq_none.mpr typed
  · exact requireNonEmpty_eq_none.mpr (value_named _)
  · exact requireNonEmpty_eq_none.mpr (rejectIf_eq_none.mp source)
  · exact requireNonEmpty_eq_none.mpr (value_named _)
  · exact requireNonEmpty_eq_none.mpr (rejectIf_eq_none.mp target)

/-- The evidence nodes of a subgraph: at least as many as its nodes, and one for each of them. -/
theorem evidenceNodes_ok (answers : GraphStore.Answers store query start subgraph)
    (known : Genuine (target.entityType, target.entityId) target) :
    ∃ nodes, evidenceNodes subgraph target = .ok nodes ∧ subgraph.nodes.length ≤ nodes.length ∧
      ∀ key ∈ subgraph.nodes.map nodeKey, (key.1.value, key.2) ∈ nodes.map evidenceKey := by
  have each : ∀ entity ∈ Ranking.ascending (fun entity : GraphEntity => toLex (entity.entityType.value, entity.entityId))
      (graphEntities subgraph target).values, ∃ node, evidenceNode entity = .ok node := by
    intro entity member
    obtain ⟨key, found⟩ := (Dict.mem_values_iff _ _).mp (Ranking.mem_ascending.mp member)
    obtain ⟨-, stored, rfl⟩ := genuine_graphEntities answers known found
    exact evidenceNode_ok stored
  obtain ⟨nodes, made⟩ := mapM_succeeds each
  have keys := map_of_mapM (fun entity node made => evidenceNode_key made) made
  refine ⟨nodes, made, ?_, fun key member => ?_⟩
  · have counted := congrArg List.length keys
    rw [length_map, length_map, Ranking.perm_ascending.length_eq] at counted
    rw [counted]
    exact length_graphEntities answers.once
  · obtain ⟨entity, found⟩ := Option.isSome_iff_exists.mp
      (get?_graphEntities subgraph.nodes (Dict.empty.set (target.entityType, target.entityId) target) (Or.inr member))
    obtain ⟨named, -⟩ := genuine_graphEntities answers known found
    rw [keys, ← named]
    exact mem_map_of_mem (f := fun entity : GraphEntity => (entity.entityType.value, entity.entityId))
      (Ranking.mem_ascending.mpr ((Dict.mem_values_iff _ _).mpr ⟨key, found⟩))

theorem evidenceEdges_ok (answers : GraphStore.Answers store query start subgraph) :
    ∃ edges, evidenceEdges subgraph = .ok edges := by
  apply mapM_succeeds
  intro edge member
  obtain ⟨relationship, -, -, -, rfl, -⟩ := answers.leaves edge (Ranking.mem_ascending.mp member)
  exact evidenceEdge_ok relationship

end Parts

/-! ## Results -/

section Results

variable {store : GraphStore}

/-- A target that is found is a live entity of the default tenant. -/
theorem queryEntity_eq_some {entityType : EntityType} {entityId : String} {target : GraphEntity} :
    store.queryEntity entityType.value entityId = some target ↔ ∃ entity,
      store.ownEntity? (entityType, entityId) = some entity ∧ entity.record.isDeleted = false ∧
        target = .ofOntologyEntity entity := by
  have named : Ontology.nodeKey? entityType.value entityId = some (entityType, entityId) := by
    unfold Ontology.nodeKey?
    rw [EntityType.parse_value]
    rfl
  unfold GraphStore.queryEntity
  rw [named, Option.bind_some, Option.bind_eq_some_iff]
  apply exists_congr
  intro entity
  apply and_congr_right
  intro _
  by_cases deleted : entity.record.isDeleted = true
  · simp [deleted]
  · simp [deleted, eq_comm]

/-- Nothing is relevant to a target that is not there. -/
theorem irrelevant_of_gone (single : store.SingleTenant) {targetType : DecisionTargetType} {targetId : String}
    {depth limit : Int} (gone : store.queryEntity targetType.value targetId = none) (key : NodeKey) :
    ¬ Relevant store targetType targetId depth limit key := by
  rintro ⟨live, length, -, ⟨walk, -⟩⟩
  have absent : store.holds {} (targetType.entityType, targetId) = false := by
    rw [Bool.eq_false_iff]
    intro held
    unfold GraphStore.holds at held
    obtain ⟨entity, stored, alive⟩ := (Option.any_eq_true _ _).mp held
    have found := queryEntity_eq_some.mpr ⟨entity, stored, by simpa using alive, rfl⟩
    unfold DecisionTargetType.value at gone
    rw [gone] at found
    cases found
  obtain rfl := walk_from_gone single absent walk
  rw [absent] at live
  cases live

/-- Whatever relevant node is left out of an evidence graph, the graph reports its limit. -/
theorem buildForTarget_reports (text : TextFunctions) (single : store.SingleTenant) {limit depth : Int}
    (few : 1 ≤ limit ∧ limit ≤ 500) (deep : 1 ≤ depth ∧ depth ≤ 5) (targetType : DecisionTargetType)
    {targetId : String} (named : Text.isBlank targetId = false) :
    ∃ graph, DecisionEvidenceBuilder.buildForTarget ⟨text, store, limit⟩ targetType targetId depth = .ok graph ∧
      ∀ key, Relevant store targetType targetId depth limit key →
        (key.1.value, key.2) ∉ graph.record.nodes.map evidenceKey → resultLimit limit ∈ graph.record.missing := by
  have accepted : requireNonEmpty "evidence builder target_id" targetId = none := requireNonEmpty_eq_none.mpr named
  have asked : getEntity text store targetType.value targetId =
      .ok (store.queryEntity targetType.value targetId) := by
    unfold getEntity DecisionTargetType.value
    rw [validateEntityType_value]
    rfl
  unfold DecisionEvidenceBuilder.buildForTarget
  rw [accepted]
  dsimp only
  rw [asked]
  cases found : store.queryEntity targetType.value targetId with
  | none =>
    obtain ⟨graph, built⟩ := DecisionEvidenceGraph.build_ok {
      targetType, targetId, missing := [missingTarget]
      metadata := [("depth", .int depth), ("target_found", .bool false)] } named
    exact ⟨graph, built, fun key relevant => absurd relevant (irrelevant_of_gone single found key)⟩
  | some target =>
    obtain ⟨entity, stored, -, rfl⟩ := queryEntity_eq_some.mp found
    have known : Genuine ((GraphEntity.ofOntologyEntity entity).entityType,
        (GraphEntity.ofOntologyEntity entity).entityId) (.ofOntologyEntity entity) := genuine_ofOntologyEntity entity
    obtain ⟨subgraph, searched, answers⟩ := subgraph_answers text single (targetType.entityType, targetId)
      (evidenceQuery targetType depth limit) deep.1 few.1
      (relationshipTypeSet_values text relevantRelationshipTypes)
      (entityTypeSet_values text (targetType.entityType :: relevantEntityTypes))
    have neighbourhood := (getNeighbourhood_eq text store (targetType.entityType, targetId)
      deep few relevantRelationshipTypes (targetType.entityType :: relevantEntityTypes)).trans searched
    obtain ⟨nodes, made, counted, covered⟩ := evidenceNodes_ok answers known
    obtain ⟨edges, drawn⟩ := evidenceEdges_ok answers
    obtain ⟨graph, built⟩ := DecisionEvidenceGraph.build_ok {
      targetType, targetId, nodes, edges
      missing := missingEvidence nodes ++ if limit ≤ nodes.length then [resultLimit limit] else []
      metadata := [("depth", .int depth), ("limit", .int limit), ("target_found", .bool true)] } named
    refine ⟨graph, ?_, fun key relevant absent => ?_⟩
    · unfold DecisionTargetType.value
      simp only [bind, Except.bind, neighbourhood, made, drawn]
      exact built
    · obtain ⟨sameNodes, -, sameMissing⟩ := DecisionEvidenceGraph.build_parts built
      have full : limit ≤ nodes.length := by
        by_contra below
        obtain ⟨live, length, within, distance⟩ := relevant
        obtain ⟨node, member, rfl, -⟩ := (answers.nodes (by simp only [evidenceQuery]; omega) key length).mpr
          ⟨live, distance, within⟩
        exact absent ((sameNodes.map evidenceKey).mem_iff.mpr (covered _ (mem_map_of_mem member)))
      rw [sameMissing.mem_iff]
      dsimp only
      rw [if_pos full]
      exact mem_append_right _ mem_cons_self

end Results

/-- Every bounded subgraph of a graph of one tenant answers its query, and the evidence
built from one reports its limit whenever a relevant node is left out. -/
theorem subgraphs_answer_and_report (text : TextFunctions) {store : GraphStore} (single : store.SingleTenant) :
    (∀ (start : NodeKey) (query : TraversalQuery), 1 ≤ query.depth → 1 ≤ query.limit →
      ∀ relationshipTypes entityTypes, relationshipTypeSet text relationshipTypes = .ok query.relationshipFilter →
        entityTypeSet text entityTypes = .ok query.entityFilter →
        ∃ result, store.subgraph text start.1.value start.2 query.depth query.direction relationshipTypes entityTypes
          query.limit = .ok result ∧ GraphStore.Answers store query start result) ∧
    ∀ (limit depth : Int) (targetType : DecisionTargetType) (targetId : String), (1 ≤ limit ∧ limit ≤ 500) →
      (1 ≤ depth ∧ depth ≤ 5) → Text.isBlank targetId = false →
      ∃ graph, DecisionEvidenceBuilder.buildForTarget ⟨text, store, limit⟩ targetType targetId depth = .ok graph ∧
        ∀ key, Relevant store targetType targetId depth limit key →
          (key.1.value, key.2) ∉ graph.record.nodes.map evidenceKey → resultLimit limit ∈ graph.record.missing := by
  constructor
  · intro start query deep positive relationshipTypes entityTypes typed admitted
    exact subgraph_answers text single start query deep positive typed admitted
  · intro limit depth targetType targetId few deep named
    exact buildForTarget_reports text single few deep targetType named

/-- The subgraphs and the evidence of a prompt and its version. -/
theorem subgraphs_answer_and_report_versions :
    (∃ result, promptAndVersion.subgraph asciiText "Prompt" "prompt-2" 2 .outgoing none none 10 = .ok result ∧
      GraphStore.Answers promptAndVersion ⟨.outgoing, [], [], 2, 10⟩ (.prompt, "prompt-2") result) ∧
    ∃ graph, DecisionEvidenceBuilder.buildForTarget ⟨asciiText, promptAndVersion, 1⟩ .promptVersion "version-1" 3 =
        .ok graph ∧
      ∀ key, Relevant promptAndVersion .promptVersion "version-1" 3 1 key →
        (key.1.value, key.2) ∉ graph.record.nodes.map evidenceKey → resultLimit 1 ∈ graph.record.missing := by
  obtain ⟨answered, reported⟩ := subgraphs_answer_and_report asciiText singleTenant_promptAndVersion
  constructor
  · exact answered (.prompt, "prompt-2") ⟨.outgoing, [], [], 2, 10⟩ (by decide) (by decide) none none rfl rfl
  · exact reported 1 3 .promptVersion "version-1" (by decide) (by decide) (by decide)

/-! ## Edges against the direction -/

/-- All live edges of a passing type between returned nodes, one of them before the depth. -/
def HasAllBetween (store : GraphStore) (query : TraversalQuery) (start : NodeKey) (result : GraphSubgraph) : Prop :=
  ∀ edge, edge ∈ result.edges ↔ ∃ relationship ∈ store.relationships.values,
    edge = .ofOntologyRelationship relationship ∧ store.visible relationship = true ∧
      Ontology.passes query.relationshipFilter relationship.record.relationshipType = true ∧
      (∃ near, (near = relationship.record.source ∨ near = relationship.record.target) ∧
        ∃ length : Nat, (length : Int) < query.depth ∧ Distance (store.Hops query) start near length) ∧
      relationship.record.source ∈ result.nodes.map nodeKey ∧ relationship.record.target ∈ result.nodes.map nodeKey

/-- A version of the default tenant. -/
def version (entityId : String) (valid : Text.isBlank entityId = false) : OntologyEntity where
  record := { entityId, entityType := .promptVersion, owner := "owner", lifecycle := "ACTIVE", createdAt := ⟨1⟩ }
  valid := by
    refine firstViolation_eq_none.mpr ?_
    simp only [List.mem_cons, List.not_mem_nil, or_false, forall_eq_or_imp, forall_eq]
    exact ⟨rejectIf_eq_none.mpr valid, by decide, by decide, by decide, by decide, by decide⟩

/-- One version takes the place of another. -/
def supersedes (relationshipId source target : String)
    (valid : ∀ text ∈ [relationshipId, source, target], Text.isBlank text = false) : OntologyRelationship where
  record :=
    { relationshipType := .supersedes, sourceEntityId := source, sourceEntityType := .promptVersion
      targetEntityId := target, targetEntityType := .promptVersion, createdBy := "system"
      relationshipId, createdAt := ⟨2⟩ }
  valid := by
    simp only [List.mem_cons, List.not_mem_nil, or_false, forall_eq_or_imp, forall_eq] at valid
    refine firstViolation_eq_none.mpr ?_
    simp only [List.mem_cons, List.not_mem_nil, or_false, forall_eq_or_imp, forall_eq]
    exact ⟨rejectIf_eq_none.mpr valid.1, rejectIf_eq_none.mpr valid.2.1, rejectIf_eq_none.mpr valid.2.2,
      by decide, by decide, by decide, by decide⟩

/-- Two versions that supersede each other, and a third that the first supersedes. -/
def versions : GraphStore :=
  ((((((GraphStore.empty.saveEntity (version "version-1" (by decide))).saveEntity
    (version "version-2" (by decide))).saveEntity (version "version-3" (by decide))).saveRelationship
    (supersedes "edge-1" "version-1" "version-2" (by decide))).saveRelationship
    (supersedes "edge-2" "version-2" "version-1" (by decide))).saveRelationship
    (supersedes "edge-3" "version-1" "version-3" (by decide)))

/-- What the first version supersedes. -/
def superseded : GraphSubgraph where
  nodes := [⟨.ofOntologyEntity (version "version-1" (by decide)), 0⟩,
    ⟨.ofOntologyEntity (version "version-2" (by decide)), 1⟩, ⟨.ofOntologyEntity (version "version-3" (by decide)), 1⟩]
  edges := [.ofOntologyRelationship (supersedes "edge-1" "version-1" "version-2" (by decide)),
    .ofOntologyRelationship (supersedes "edge-3" "version-1" "version-3" (by decide))]

/-- An edge back to the start, against the direction, is not returned; and at the limit an
edge is returned whose end is not. -/
theorem edge_against_direction_left_out :
    versions.SingleTenant ∧
    (∃ result, versions.subgraph asciiText "PromptVersion" "version-1" 1 .outgoing none none 10 = .ok result ∧
      (result.nodes.length : Int) < 10 ∧
      ¬ HasAllBetween versions ⟨.outgoing, [], [], 1, 10⟩ (.promptVersion, "version-1") result) ∧
    ∃ result, versions.subgraph asciiText "PromptVersion" "version-1" 1 .outgoing none none 2 = .ok result ∧
      ∃ edge ∈ result.edges, (edge.targetEntityType, edge.targetEntityId) ∉ result.nodes.map nodeKey := by
  refine ⟨?_, ⟨superseded, by decide +kernel, by decide, fun complete => ?_⟩, ?_⟩
  · unfold GraphStore.SingleTenant
    decide +kernel
  · have returned := (complete (.ofOntologyRelationship
      (supersedes "edge-2" "version-2" "version-1" (by decide)))).mpr
      ⟨supersedes "edge-2" "version-2" "version-1" (by decide), by decide +kernel, rfl, by decide +kernel, by decide,
        ⟨_, Or.inr rfl, 0, by decide, .here _, fun length _ => Nat.zero_le length⟩,
        by decide +kernel, by decide +kernel⟩
    revert returned
    decide +kernel
  · refine ⟨⟨superseded.nodes.take 2, superseded.edges⟩, by decide +kernel,
      .ofOntologyRelationship (supersedes "edge-3" "version-1" "version-3" (by decide)), ?_, ?_⟩
    · exact mem_cons_of_mem _ mem_cons_self
    · decide +kernel

end AiGovernance.Decisions
