import AiGovernance.Services.Platform
import AiGovernance.Services.RuntimeProjection

/-!
# What a reconciled projection shows

Runs of ingestion, projection and reconciliation. Beside the state a run keeps,
for each execution, the events that the last projection read which found none of
the execution's edges: everything the graph is later credited with starts there.
A reconciliation returns a faithful projection exactly when those events derive
all that the stored events derive.
-/

namespace AiGovernance.Projections

open AiGovernance.Std Domain Repositories Services List
open Semantics ProjectionStore

/-! ## Keys of edges -/

/-- The keys of the edges that leave a source. -/
def sourceKeys (edges : List ProjectedEdge) (source : String) : List (Json × RelationshipType) :=
  (edges.filter (·.source = source)).map (·.reference.key)

/-- The keys that the projection rules derive from events. -/
def derivedKeys (events : List AgentExecutionEvent) : List (Json × RelationshipType) :=
  (events.flatMap edgeTargets).map EdgeTarget.key

variable {edges : List ProjectedEdge} {source other : String} {reference : EdgeTarget}
  {events : List AgentExecutionEvent}

theorem hasEdge_iff : hasEdge edges source reference = true ↔ reference.key ∈ sourceKeys edges source := by
  simp only [hasEdge, sourceKeys, any_eq_true, Bool.and_eq_true, decide_eq_true_eq, mem_map, mem_filter]
  constructor
  · rintro ⟨edge, member, here, same⟩
    exact ⟨edge, ⟨member, here⟩, same⟩
  · rintro ⟨edge, ⟨member, here⟩, same⟩
    exact ⟨edge, member, here, same⟩

theorem sourceKeys_append (edges : List ProjectedEdge) (source other : String) (fresh : List EdgeTarget) :
    sourceKeys (edges ++ fresh.map fun reference => ⟨source, reference⟩) other =
      if other = source then sourceKeys edges source ++ fresh.map EdgeTarget.key else sourceKeys edges other := by
  by_cases here : other = source
  · subst here
    rw [if_pos rfl]
    simp [sourceKeys, filter_map, Function.comp_def]
  · rw [if_neg here]
    have elsewhere : source ≠ other := Ne.symm here
    simp [sourceKeys, filter_map, Function.comp_def, elsewhere]

/-- What the loop does: it appends edges to new targets among the references, one for each
key, and if it comes to the end the source has an edge for every reference. -/
theorem addEdges_spec (source : String) (references : List EdgeTarget) (edges : List ProjectedEdge) (count : Nat) :
    ∃ fresh : List EdgeTarget,
      (addEdges source references edges count).2 = edges ++ fresh.map (fun reference => ⟨source, reference⟩) ∧
      (∀ reference ∈ fresh, reference ∈ references) ∧
      ((sourceKeys edges source).Nodup → (sourceKeys edges source ++ fresh.map EdgeTarget.key).Nodup) ∧
      ∀ added, (addEdges source references edges count).1 = .ok added → added = count + fresh.length ∧
        ∀ reference ∈ references, reference.key ∈ sourceKeys edges source ++ fresh.map EdgeTarget.key := by
  induction references generalizing edges count with
  | nil =>
    refine ⟨[], by simp [addEdges], by simp, by simp, ?_⟩
    intro added complete
    cases complete
    exact ⟨rfl, by simp⟩
  | cons reference rest ih =>
    unfold addEdges
    cases unhashable reference.target with
    | some raised => exact ⟨[], by simp, by simp, by simp, nofun⟩
    | none =>
      dsimp only
      by_cases present : hasEdge edges source reference = true
      · rw [if_pos present]
        obtain ⟨fresh, appended, among, distinct, complete⟩ := ih edges count
        refine ⟨fresh, appended, fun other member => mem_cons_of_mem _ (among other member), distinct, ?_⟩
        intro added ended
        obtain ⟨counted, reached⟩ := complete added ended
        refine ⟨counted, fun other member => ?_⟩
        rcases mem_cons.mp member with rfl | member
        · exact mem_append_left _ (hasEdge_iff.mp present)
        · exact reached other member
      · rw [if_neg present]
        obtain ⟨fresh, appended, among, distinct, complete⟩ :=
          ih (edges ++ [⟨source, reference⟩]) (count + 1)
        have extended : sourceKeys (edges ++ [⟨source, reference⟩]) source =
            sourceKeys edges source ++ [reference.key] := by
          have single := sourceKeys_append edges source source [reference]
          rw [if_pos rfl] at single
          exact single
        rw [extended, append_assoc] at distinct complete
        refine ⟨reference :: fresh, ?_, ?_, ?_, ?_⟩
        · rw [appended, append_assoc]
          rfl
        · intro other member
          rcases mem_cons.mp member with rfl | member
          · exact mem_cons_self
          · exact mem_cons_of_mem _ (among other member)
        · intro nodup
          apply distinct
          rw [nodup_append]
          refine ⟨nodup, by simp, ?_⟩
          intro key member new equal rfl
          rw [mem_singleton] at equal
          subst equal
          exact present (hasEdge_iff.mpr member)
        · intro added ended
          obtain ⟨counted, reached⟩ := complete added ended
          refine ⟨by rw [counted, length_cons]; omega, fun other member => ?_⟩
          rcases mem_cons.mp member with rfl | member
          · simp
          · exact reached other member

/-! ## What was read -/

/-- For each execution, the events that the last projection read which found none of its edges. -/
abbrev Readings := String → Option (List AgentExecutionEvent)

namespace Readings

/-- The readings after a projection: one that ends, having found no edge of the execution, counts. -/
def project (readings : Readings) (graph : ProjectionStore) (execution : AgentExecution)
    (events : List AgentExecutionEvent) (clock : ProjectionClock) : Readings := fun executionId =>
  match (doProject graph execution events clock).1 with
  | .ok _ =>
    if executionId = execution.record.executionId ∧ sourceKeys graph.graphEdges executionId = [] then some events
    else readings executionId
  | .error _ => readings executionId

/-- The readings after the projection of an execution was deleted. -/
def forget (readings : Readings) (deleted : String) : Readings := fun executionId =>
  if executionId = deleted then none else readings executionId

end Readings

/-- How the count of a projection relates to the edges of its execution: it is their number
and they are what was read, or it is less and they are more than what was read. -/
def Accounted (keys : List (Json × RelationshipType)) (reading : Option (List AgentExecutionEvent)) (count : Nat) :
    Prop :=
  (count = keys.length ∧ ∃ events, reading = some events ∧ ∀ key, key ∈ keys ↔ key ∈ derivedKeys events) ∨
    (count < keys.length ∧ ∀ events, reading = some events → ∃ key ∈ keys, key ∉ derivedKeys events)

theorem Accounted.count_le {keys : List (Json × RelationshipType)} {reading : Option (List AgentExecutionEvent)}
    {count : Nat} (accounted : Accounted keys reading count) : count ≤ keys.length := by
  rcases accounted with ⟨equal, -⟩ | ⟨less, -⟩
  · exact equal.le
  · exact less.le

/-- Edges added without a count that reaches their new number leave the count behind. -/
theorem Accounted.add {keys added : List (Json × RelationshipType)} {reading : Option (List AgentExecutionEvent)}
    {count more : Nat} (accounted : Accounted keys reading count) (distinct : (keys ++ added).Nodup)
    (idle : added = [] → more = 0) (behind : added ≠ [] → more < (keys ++ added).length) :
    Accounted (keys ++ added) reading (max more count) := by
  cases added with
  | nil =>
    rw [append_nil, idle rfl, Nat.zero_max]
    exact accounted
  | cons first rest =>
    have below := accounted.count_le
    have less := behind nofun
    refine .inr ⟨?_, fun events read => ?_⟩
    · rw [length_append, length_cons] at less ⊢
      omega
    · rcases accounted with ⟨-, others, readOthers, exact⟩ | ⟨-, beyond⟩
      · rw [readOthers] at read
        cases read
        refine ⟨first, by simp, fun derived => ?_⟩
        exact (nodup_append.mp distinct).2.2 first ((exact first).mpr derived) first mem_cons_self rfl
      · obtain ⟨key, member, missing⟩ := beyond events read
        exact ⟨key, mem_append_left _ member, missing⟩

/-- What holds of the graph at every time, for the events stored then. -/
structure Sound (stored : String → List AgentExecutionEvent) (graph : ProjectionStore) (readings : Readings) :
    Prop where
  distinct : ∀ source, (sourceKeys graph.graphEdges source).Nodup
  derived : ∀ source, ∀ key ∈ sourceKeys graph.graphEdges source, key ∈ derivedKeys (stored source)
  projected : ∀ source projection, graph.projections.get? source = some projection →
    projection.record.status = .projected
  unread : ∀ source, graph.projections.get? source = none → readings source = none
  accounted : ∀ source projection, graph.projections.get? source = some projection →
    Accounted (sourceKeys graph.graphEdges source) (readings source) projection.record.relationshipsProjected

namespace Sound

variable {stored : String → List AgentExecutionEvent} {graph : ProjectionStore} {readings : Readings}

theorem empty : Sound stored .empty fun _ => none where
  distinct := by simp [ProjectionStore.empty, sourceKeys]
  derived := by simp [ProjectionStore.empty, sourceKeys]
  projected := by simp [ProjectionStore.empty]
  unread := by simp
  accounted := by simp [ProjectionStore.empty]

theorem mono {later : String → List AgentExecutionEvent} (sound : Sound stored graph readings)
    (kept : ∀ source, ∀ event ∈ stored source, event ∈ later source) : Sound later graph readings where
  distinct := sound.distinct
  derived := by
    intro source key member
    have derived := sound.derived source key member
    simp only [derivedKeys, mem_map, mem_flatMap] at derived ⊢
    obtain ⟨reference, ⟨event, among, refers⟩, same⟩ := derived
    exact ⟨reference, ⟨event, kept source event among, refers⟩, same⟩
  projected := sound.projected
  unread := sound.unread
  accounted := sound.accounted

theorem sourceKeys_delete (deleted : String) :
    sourceKeys (edges.filter (·.source ≠ deleted)) source =
      if source = deleted then [] else sourceKeys edges source := by
  unfold sourceKeys
  rw [filter_filter]
  by_cases here : source = deleted
  · rw [if_pos here, here]
    simp
  · rw [if_neg here]
    congr 1
    apply filter_congr
    intro edge _
    by_cases leaves : edge.source = source
    · simp [leaves, here]
    · simp [leaves]

/-- Deletion takes the edges of an execution with its projection. -/
theorem delete (sound : Sound stored graph readings) (deleted : String) :
    Sound stored (graph.deleteProjection deleted) (readings.forget deleted) where
  distinct := by
    intro source
    rw [deleteProjection, sourceKeys_delete]
    split
    · exact nodup_nil
    · exact sound.distinct source
  derived := by
    intro source key member
    rw [deleteProjection, sourceKeys_delete] at member
    split at member
    · cases member
    · exact sound.derived source key member
  projected := by
    intro source projection found
    simp only [deleteProjection, Dict.get?_erase] at found
    split at found
    · cases found
    · exact sound.projected source projection found
  unread := by
    intro source missing
    simp only [deleteProjection, Dict.get?_erase] at missing
    unfold Readings.forget
    split
    · rfl
    · rename_i different
      rw [if_neg different] at missing
      exact sound.unread source missing
  accounted := by
    intro source projection found
    simp only [deleteProjection, Dict.get?_erase] at found
    split at found
    · cases found
    · rename_i different
      rw [deleteProjection, sourceKeys_delete, if_neg different]
      unfold Readings.forget
      rw [if_neg different]
      exact sound.accounted source projection found

theorem projectedCount_of_none (sound : Sound stored graph readings) {source : String}
    (none : sourceKeys graph.graphEdges source = []) (added : Nat) : graph.projectedCount source added = added := by
  unfold projectedCount
  cases existing : graph.projections.get? source with
  | none => rfl
  | some earlier =>
    have below := (sound.accounted source earlier existing).count_le
    rw [none, length_nil] at below
    simp only [sound.projected source earlier existing, if_true]
    omega

/-- What one projection does: it appends edges, and either raises with the projections as they
were, or stores a projection that counts the edges, with an edge for everything it read. -/
theorem doProject_spec (graph : ProjectionStore) (execution : AgentExecution) (events : List AgentExecutionEvent)
    (clock : ProjectionClock) :
    ∃ fresh : List EdgeTarget,
      (doProject graph execution events clock).2.graphEdges =
        graph.graphEdges ++ fresh.map (fun reference => ⟨execution.record.executionId, reference⟩) ∧
      (∀ reference ∈ fresh, reference ∈ events.flatMap edgeTargets) ∧
      ((sourceKeys graph.graphEdges execution.record.executionId).Nodup →
        (sourceKeys graph.graphEdges execution.record.executionId ++ fresh.map EdgeTarget.key).Nodup) ∧
      ((∃ error, (doProject graph execution events clock).1 = .error error ∧
          (doProject graph execution events clock).2.projections = graph.projections) ∨
        ∃ projection, (doProject graph execution events clock).1 = .ok projection ∧
          (doProject graph execution events clock).2.projections =
            graph.projections.set execution.record.executionId projection ∧
          projection.record.status = .projected ∧
          projection.record.relationshipsProjected =
            graph.projectedCount execution.record.executionId fresh.length ∧
          ∀ key ∈ derivedKeys events,
            key ∈ sourceKeys graph.graphEdges execution.record.executionId ++ fresh.map EdgeTarget.key) := by
  obtain ⟨fresh, appended, among, distinct, complete⟩ :=
    addEdges_spec execution.record.executionId (events.flatMap edgeTargets) graph.graphEdges 0
  refine ⟨fresh, ?_, among, distinct, ?_⟩
  · unfold doProject ProjectionStore.projectExecution
    dsimp only
    split
    · exact appended
    · split <;> exact appended
  · unfold doProject ProjectionStore.projectExecution
    dsimp only
    split
    · exact .inl ⟨_, rfl, rfl⟩
    · rename_i added ended
      obtain ⟨counted, reached⟩ := complete added ended
      split
      · exact .inl ⟨_, rfl, rfl⟩
      · rename_i projection created
        have record := Checked.create_eq_ok_iff.mp created
        refine .inr ⟨projection, rfl, rfl, by rw [record]; rfl, ?_, ?_⟩
        · rw [record, counted, Nat.zero_add]
          rfl
        · intro key member
          obtain ⟨reference, refers, rfl⟩ := mem_map.mp member
          exact reached reference refers

theorem project (sound : Sound stored graph readings) {execution : AgentExecution}
    {events : List AgentExecutionEvent} (clock : ProjectionClock)
    (listed : ∀ event ∈ events, event ∈ stored execution.record.executionId) :
    Sound stored (doProject graph execution events clock).2 (readings.project graph execution events clock) := by
  obtain ⟨fresh, appended, among, distinct, outcome⟩ := doProject_spec graph execution events clock
  have freshDerived : ∀ key ∈ fresh.map EdgeTarget.key, key ∈ derivedKeys events := by
    intro key member
    obtain ⟨reference, new, rfl⟩ := mem_map.mp member
    exact mem_map.mpr ⟨reference, among reference new, rfl⟩
  have storedDerived : ∀ key ∈ derivedKeys events, key ∈ derivedKeys (stored execution.record.executionId) := by
    intro key member
    simp only [derivedKeys, mem_map, mem_flatMap] at member ⊢
    obtain ⟨reference, ⟨event, here, refers⟩, same⟩ := member
    exact ⟨reference, ⟨event, listed event here, refers⟩, same⟩
  have grown := sourceKeys_append graph.graphEdges execution.record.executionId
  refine ⟨?_, ?_, ?_, ?_, ?_⟩
  · intro source
    rw [appended, grown]
    split
    · exact distinct (sound.distinct _)
    · exact sound.distinct source
  · intro source key member
    rw [appended, grown] at member
    split at member
    · rename_i here
      subst here
      rcases mem_append.mp member with old | new
      · exact sound.derived _ key old
      · exact storedDerived key (freshDerived key new)
    · exact sound.derived source key member
  · intro source projection found
    rcases outcome with ⟨error, -, projections⟩ | ⟨written, -, projections, status, -, -⟩
    · rw [projections] at found
      exact sound.projected source projection found
    · rw [projections, Dict.get?_set] at found
      split at found
      · cases found
        exact status
      · exact sound.projected source projection found
  · intro source missing
    unfold Readings.project
    rcases outcome with ⟨error, raised, projections⟩ | ⟨written, returned, projections, -, -, -⟩
    · rw [raised]
      rw [projections] at missing
      exact sound.unread source missing
    · rw [projections, Dict.get?_set] at missing
      rw [returned]
      split at missing
      · cases missing
      · rename_i different
        dsimp only
        rw [if_neg (fun both => different both.1)]
        exact sound.unread source missing
  · intro source projection found
    rw [appended, grown]
    unfold Readings.project
    rcases outcome with ⟨error, raised, projections⟩ | ⟨written, returned, projections, -, counted, reached⟩
    · -- The projection raised: the count stays, and there may be more edges.
      rw [projections] at found
      rw [raised]
      have accounted := sound.accounted source projection found
      split
      · rename_i here
        subst here
        have more : Accounted (sourceKeys graph.graphEdges execution.record.executionId ++ fresh.map EdgeTarget.key)
            (readings execution.record.executionId) (max 0 projection.record.relationshipsProjected) :=
          accounted.add (distinct (sound.distinct _)) (fun _ => rfl) fun some => by
            rw [length_append]
            exact Nat.add_pos_right _ (length_pos_iff.mpr some)
        rwa [Nat.zero_max] at more
      · exact accounted
    · rw [projections, Dict.get?_set] at found
      rw [returned]
      dsimp only
      split at found
      · rename_i here
        subst here
        cases found
        rw [if_pos rfl, counted]
        by_cases fromNothing : sourceKeys graph.graphEdges execution.record.executionId = []
        · -- The graph had no edge of the execution: it has exactly what was read.
          rw [if_pos ⟨rfl, fromNothing⟩]
          rw [fromNothing, nil_append] at reached ⊢
          refine .inl ⟨?_, events, rfl, fun key => ⟨freshDerived key, reached key⟩⟩
          rw [length_map]
          exact sound.projectedCount_of_none fromNothing fresh.length
        · rw [if_neg fun both => fromNothing both.2]
          have some : 0 < (sourceKeys graph.graphEdges execution.record.executionId).length :=
            length_pos_iff.mpr fromNothing
          have behind : fresh.length <
              (sourceKeys graph.graphEdges execution.record.executionId ++ fresh.map EdgeTarget.key).length := by
            rw [length_append, length_map]
            omega
          cases existing : graph.projections.get? execution.record.executionId with
          | none =>
            refine .inr ⟨?_, fun events read => ?_⟩
            · simp only [projectedCount, existing]
              exact behind
            · rw [sound.unread _ existing] at read
              cases read
          | some earlier =>
            have accounted := sound.accounted _ earlier existing
            simp only [projectedCount, existing, sound.projected _ earlier existing, if_true]
            exact accounted.add (distinct (sound.distinct _))
              (fun none => length_eq_zero_iff.mpr (map_eq_nil_iff.mp none)) fun _ => behind
      · rename_i different
        rw [if_neg different, if_neg fun both => different both.1]
        exact sound.accounted source projection found

end Sound

/-! ## Faithful projections -/

/-- The edges of the execution are exactly what the stored events derive, each once, and the
projection counts them. -/
structure Faithful (stored : List AgentExecutionEvent) (graph : ProjectionStore) (executionId : String)
    (projection : RuntimeOntologyProjection) : Prop where
  distinct : (sourceKeys graph.graphEdges executionId).Nodup
  exact : ∀ key, key ∈ sourceKeys graph.graphEdges executionId ↔ key ∈ derivedKeys stored
  counted : projection.record.relationshipsProjected = (sourceKeys graph.graphEdges executionId).length

variable {projection : RuntimeOntologyProjection} {graph : ProjectionStore}

theorem Sound.faithful_iff {stored : String → List AgentExecutionEvent} {readings : Readings}
    (sound : Sound stored graph readings) {executionId : String}
    (found : graph.projections.get? executionId = some projection) :
    Faithful (stored executionId) graph executionId projection ↔
      ∃ events, readings executionId = some events ∧
        ∀ key ∈ derivedKeys (stored executionId), key ∈ derivedKeys events := by
  have accounted := sound.accounted executionId projection found
  constructor
  · rintro ⟨-, exact, counted⟩
    rcases accounted with ⟨-, events, read, same⟩ | ⟨less, -⟩
    · exact ⟨events, read, fun key derived => (same key).mp ((exact key).mpr derived)⟩
    · omega
  · rintro ⟨events, read, all⟩
    have derived := sound.derived executionId
    rcases accounted with ⟨counted, others, readOthers, same⟩ | ⟨-, beyond⟩
    · rw [read] at readOthers
      cases readOthers
      exact ⟨sound.distinct executionId,
        fun key => ⟨derived key, fun member => (same key).mpr (all key member)⟩, counted⟩
    · obtain ⟨key, member, missing⟩ := beyond events read
      exact absurd (all key (derived key member)) missing

/-! ## Runs -/

/-- The stores and the graph. -/
structure World where
  stores : Stores
  graph : ProjectionStore

/-- One operation: a call of the runtime services, a projection or a reconciliation. -/
inductive Operation where
  | serve (call : Services.Call)
  | project (executionId : String) (scope : Scope) (clock : ProjectionClock)
  | reconcile (executionId : String) (scope : Scope) (clock : ProjectionClock)

namespace World

/-- The stored events of an execution. -/
def stored (world : World) (executionId : String) : List AgentExecutionEvent :=
  world.stores.events.tables.ofExecution executionId

/-- What an operation leaves. -/
def after (platform : Platform) (world : World) : Operation → World
  | .serve call => { world with stores := (platform.serve world.stores call).after }
  | .project executionId scope clock =>
    { world with graph := (projectExecution world.stores world.graph executionId scope clock).2 }
  | .reconcile executionId scope clock =>
    { world with graph := (reconcileExecution world.stores world.graph executionId scope clock).2 }

end World

/-- The readings an operation leaves. -/
def Readings.after (readings : Readings) (world : World) : Operation → Readings
  | .serve _ => readings
  | .project executionId scope clock =>
    match world.stores.executions.get executionId scope with
    | none => readings
    | some execution =>
      readings.project world.graph execution (world.stores.events.listByExecution executionId scope none) clock
  | .reconcile executionId scope clock =>
    match world.stores.executions.get executionId scope with
    | none => readings
    | some execution =>
      let events := world.stores.events.listByExecution executionId scope none
      match world.graph.getProjection executionId scope with
      | none => readings.project world.graph execution events clock
      | some existing =>
        if needsRebuild existing execution then
          (readings.forget executionId).project (world.graph.deleteProjection executionId) execution events clock
        else readings

/-- The runs from empty stores, with the readings so far. -/
inductive Runs (platform : Platform) : World → Readings → Prop where
  | start : Runs platform ⟨.empty, .empty⟩ (fun _ => none)
  | step {world : World} {readings : Readings} (operation : Operation) (earlier : Runs platform world readings) :
      Runs platform (world.after platform operation) (readings.after world operation)

theorem serve_kept (platform : Platform) (stores : Stores) (call : Services.Call) {executionId : String}
    {event : AgentExecutionEvent} (member : event ∈ stores.events.tables.ofExecution executionId) :
    event ∈ (platform.serve stores call).after.events.tables.ofExecution executionId := by
  have kept : ∀ (command : Command) (stores : Stores), event ∈ stores.events.tables.ofExecution executionId →
      event ∈ (inMemory platform.primitives command stores).2.events.tables.ofExecution executionId := by
    intro command stores member
    cases command with
    | saveEvent saved idempotencyKey =>
      change event ∈ (stores.events.save saved idempotencyKey).2.tables.ofExecution executionId
      rcases stores.events.save_cases saved idempotencyKey with ⟨_, same, _⟩ | ⟨_, same, _⟩ | ⟨absent, same, _⟩
      · rw [same]
        exact member
      · rw [same]
        exact member
      · rw [same]
        exact (EventTables.mem_ofExecution_insert stores.events.coherent absent idempotencyKey).mpr (.inl member)
    | saveExecution | getExecution | getExecutionByExternalId | listExecutions | updateStatus | getEventById
    | listEventsByExecution | findEventByIdempotencyKey | maxSequenceNumber | saveDelegation | getDelegation
    | findDelegationByIdempotencyKey | revokeDelegation | listDefinitions | getActiveVersion => exact member
  exact Program.run_keeps (inMemory platform.primitives) kept (platform.operation call) member

variable {platform : Platform} {world : World} {readings : Readings} {executionId : String} {scope : Scope}
  {clock : ProjectionClock}

variable {execution : AgentExecution}

theorem executionId_of_get (found : world.stores.executions.get executionId scope = some execution) :
    execution.record.executionId = executionId := by
  obtain ⟨stored, -⟩ := Option.filter_eq_some_iff.mp found
  exact world.stores.executions.keyed stored

theorem listed_stored {event : AgentExecutionEvent}
    (member : event ∈ world.stores.events.listByExecution executionId scope none) : event ∈ world.stored executionId :=
  (EventStore.mem_visible.mp (mem_of_mem_take member)).1

theorem listed_of_get (found : world.stores.executions.get executionId scope = some execution) :
    ∀ event ∈ world.stores.events.listByExecution executionId scope none,
      event ∈ world.stored execution.record.executionId := by
  intro event member
  rw [executionId_of_get found]
  exact listed_stored member

theorem Sound.after (sound : Sound world.stored world.graph readings) (platform : Platform) (operation : Operation) :
    Sound (world.after platform operation).stored (world.after platform operation).graph
      (readings.after world operation) := by
  cases operation with
  | serve call => exact sound.mono fun source event member => serve_kept platform world.stores call member
  | project executionId scope clock =>
    simp only [World.after, Readings.after, Services.projectExecution]
    cases found : world.stores.executions.get executionId scope with
    | none => exact sound
    | some execution => exact sound.project clock (listed_of_get found)
  | reconcile executionId scope clock =>
    simp only [World.after, Readings.after, reconcileExecution]
    cases found : world.stores.executions.get executionId scope with
    | none => exact sound
    | some execution =>
      cases world.graph.getProjection executionId scope with
      | none => exact sound.project clock (listed_of_get found)
      | some existing =>
        dsimp only
        split
        · exact (sound.delete executionId).project clock (listed_of_get found)
        · exact sound

theorem Runs.sound (runs : Runs platform world readings) : Sound world.stored world.graph readings := by
  induction runs with
  | start => exact Sound.empty
  | step operation _ ih => exact ih.after platform operation

/-! ## Reconciliation -/

/-- The events behind the projection that a reconciliation returns: those it lists when it
rebuilds, or when it is the first to project the execution, and otherwise those that were
read before. -/
def eventsBehind (world : World) (readings : Readings) (executionId : String) (scope : Scope) :
    Option (List AgentExecutionEvent) :=
  match world.stores.executions.get executionId scope with
  | none => none
  | some execution =>
    let events := world.stores.events.listByExecution executionId scope none
    match world.graph.getProjection executionId scope with
    | none => if sourceKeys world.graph.graphEdges executionId = [] then some events else none
    | some existing => if needsRebuild existing execution then some events else readings executionId

theorem doProject_stored {events : List AgentExecutionEvent}
    (returned : (doProject graph execution events clock).1 = .ok projection) :
    (doProject graph execution events clock).2.projections.get? execution.record.executionId = some projection := by
  obtain ⟨-, -, -, -, ⟨error, raised, -⟩ | ⟨written, same, projections, -⟩⟩ :=
    Sound.doProject_spec graph execution events clock
  · rw [raised] at returned
    cases returned
  · rw [same] at returned
    cases returned
    rw [projections, Dict.get?_set_self]

/-- A reconciliation that returns answers the stored projection, read from those events. -/
theorem reconcile_returned (sound : Sound world.stored world.graph readings)
    (returned : reconcileExecution world.stores world.graph executionId scope clock = (.ok projection, graph)) :
    graph.projections.get? executionId = some projection ∧
      readings.after world (.reconcile executionId scope clock) executionId =
        eventsBehind world readings executionId scope := by
  unfold reconcileExecution at returned
  simp only [Readings.after, eventsBehind]
  cases found : world.stores.executions.get executionId scope with
  | none =>
    rw [found] at returned
    cases returned
  | some execution =>
    have named := executionId_of_get found
    simp only [found] at returned
    cases existing : world.graph.getProjection executionId scope with
    | none =>
      simp only [existing] at returned
      have outcome := congrArg Prod.fst returned
      have stored := doProject_stored outcome
      rw [returned, named] at stored
      refine ⟨stored, ?_⟩
      simp only [Readings.project, outcome, named, true_and]
      split
      · rfl
      · exact sound.unread executionId existing
    | some earlier =>
      simp only [existing] at returned ⊢
      by_cases rebuild : needsRebuild earlier execution = true
      · rw [if_pos rebuild] at returned
        rw [if_pos rebuild, if_pos rebuild]
        have outcome := congrArg Prod.fst returned
        have stored := doProject_stored outcome
        rw [returned, named] at stored
        refine ⟨stored, ?_⟩
        have cleared : sourceKeys (world.graph.deleteProjection executionId).graphEdges executionId = [] := by
          rw [deleteProjection, Sound.sourceKeys_delete, if_pos rfl]
        simp only [Readings.project, outcome, named, cleared, and_self, if_true]
      · rw [if_neg rebuild] at returned
        rw [if_neg rebuild, if_neg rebuild]
        cases returned
        exact ⟨existing, rfl⟩

/-- In every run, a reconciliation that returns leaves a faithful projection exactly when
the events behind it derive everything that the stored events of the execution derive. -/
theorem reconciled_faithful_iff (runs : Runs platform world readings) {projection : RuntimeOntologyProjection}
    {graph : ProjectionStore}
    (returned : reconcileExecution world.stores world.graph executionId scope clock = (.ok projection, graph)) :
    Faithful (world.stored executionId) graph executionId projection ↔
      ∃ events, eventsBehind world readings executionId scope = some events ∧
        ∀ key ∈ derivedKeys (world.stored executionId), key ∈ derivedKeys events := by
  obtain ⟨stored, behind⟩ := reconcile_returned runs.sound returned
  have sound := runs.sound.after platform (.reconcile executionId scope clock)
  simp only [World.after, returned] at sound
  rw [← behind]
  exact sound.faithful_iff stored

/-! ## A model call and a tool call -/

/-- The agent calls a model. -/
def modelCalled : Operation :=
  .serve (.ingestEvent
    { executionId := "exec-1", eventType := .modelCall, attributes := [("model", .str "model-1")] }
    ⟨claimsScope, "agent-1", none⟩ (claimsAmbient "event-2"))

/-- The agent calls a tool. -/
def toolCalled : Operation :=
  .serve (.ingestEvent
    { executionId := "exec-1", eventType := .toolCall, attributes := [("tool", .str "tool-1")] }
    ⟨claimsScope, "agent-1", none⟩ (claimsAmbient "event-3"))

/-- The clock of the worked reconciliations. -/
def reconcileClock : ProjectionClock := ⟨⟨63000000060000000⟩, ⟨63000000060000000⟩⟩

/-- The execution has started and called the model. -/
def modelWorld : World :=
  ((⟨.empty, .empty⟩ : World).after claimsPlatform (.serve startCall)).after claimsPlatform modelCalled

/-- The readings then. -/
def modelReadings : Readings :=
  (Readings.after (fun _ => none) ⟨.empty, .empty⟩ (.serve startCall)).after
    ((⟨.empty, .empty⟩ : World).after claimsPlatform (.serve startCall)) modelCalled

/-- Projected once, the execution has called the tool. -/
def toolWorld : World :=
  (modelWorld.after claimsPlatform (.reconcile "exec-1" claimsScope reconcileClock)).after claimsPlatform toolCalled

theorem modelWorld_runs : Runs claimsPlatform modelWorld modelReadings :=
  .step modelCalled (.step (.serve startCall) .start)

theorem toolWorld_runs : ∃ readings, Runs claimsPlatform toolWorld readings :=
  ⟨_, .step toolCalled (.step (.reconcile "exec-1" claimsScope reconcileClock) modelWorld_runs)⟩

theorem returned_of_isSome {world : World}
    (some : (reconcileExecution world.stores world.graph executionId scope clock).1.toOption.isSome = true) :
    ∃ projection, reconcileExecution world.stores world.graph executionId scope clock =
      (.ok projection, (reconcileExecution world.stores world.graph executionId scope clock).2) := by
  cases result : (reconcileExecution world.stores world.graph executionId scope clock).1 with
  | error raised =>
    rw [result] at some
    cases some
  | ok projection => exact ⟨projection, Prod.ext result rfl⟩

/-- The first reconciliation shows the call of the model. -/
theorem reconciled_faithful_model :
    ∃ projection graph, reconcileExecution modelWorld.stores modelWorld.graph "exec-1" claimsScope reconcileClock =
        (.ok projection, graph) ∧
      Faithful (modelWorld.stored "exec-1") graph "exec-1" projection := by
  have some : (reconcileExecution modelWorld.stores modelWorld.graph "exec-1" claimsScope
      reconcileClock).1.toOption.isSome = true := by
    decide +kernel
  obtain ⟨projection, returned⟩ := returned_of_isSome some
  refine ⟨projection, _, returned, (reconciled_faithful_iff modelWorld_runs returned).mpr ?_⟩
  refine ⟨modelWorld.stores.events.listByExecution "exec-1" claimsScope none, ?_, ?_⟩
  · decide +kernel
  · decide +kernel

/-- The second finds the projection of the execution's version and returns it, without the
call of the tool: an ingested event does not change the version. -/
theorem reconciled_without_tool :
    ∃ world readings projection graph, Runs claimsPlatform world readings ∧
      reconcileExecution world.stores world.graph "exec-1" claimsScope reconcileClock = (.ok projection, graph) ∧
      ¬ Faithful (world.stored "exec-1") graph "exec-1" projection := by
  obtain ⟨readings, runs⟩ := toolWorld_runs
  have some : (reconcileExecution toolWorld.stores toolWorld.graph "exec-1" claimsScope
      reconcileClock).1.toOption.isSome = true := by
    decide +kernel
  obtain ⟨projection, returned⟩ := returned_of_isSome some
  refine ⟨toolWorld, readings, projection, _, runs, returned, fun faithful => ?_⟩
  have derived : (Json.str "tool-1", RelationshipType.calledTool) ∈ derivedKeys (toolWorld.stored "exec-1") := by
    decide +kernel
  have missing : (Json.str "tool-1", RelationshipType.calledTool) ∉ sourceKeys
      (reconcileExecution toolWorld.stores toolWorld.graph "exec-1" claimsScope reconcileClock).2.graphEdges
      "exec-1" := by
    decide +kernel
  exact missing ((faithful.exact _).mpr derived)

end AiGovernance.Projections
