import AiGovernance.Replays.Aggregate
import AiGovernance.Repositories.Plane
import Mathlib.Logic.Relation

/-!
# Replays under optimistic updates

Every party works on its own copy of a replay and writes a transition of it over
the version it last saw. The store accepts the write only where it still holds
that copy, so what is stored follows the copy by accepted transitions
(`Follows`), and a write is a transition of what is stored (`update_known`).
-/

namespace AiGovernance.Replays

open AiGovernance.Std Domain Repositories Semantics

/-- The fields no transition changes. -/
structure SameReplay (old new : Replay) : Prop where
  replayId : new.replayId = old.replayId
  sourceExecutionId : new.sourceExecutionId = old.sourceExecutionId
  organizationId : new.organizationId = old.organizationId
  projectId : new.projectId = old.projectId
  idempotencyKey : new.idempotencyKey = old.idempotencyKey
  inputHash : new.inputHash = old.inputHash
  controlledEvidenceIntervention :
    new.controlledEvidenceIntervention = old.controlledEvidenceIntervention

theorem SameReplay.refl (replay : Replay) : SameReplay replay replay :=
  ⟨rfl, rfl, rfl, rfl, rfl, rfl, rfl⟩

theorem SameReplay.trans {first second third : Replay} (left : SameReplay first second)
    (right : SameReplay second third) : SameReplay first third :=
  ⟨right.replayId.trans left.replayId, right.sourceExecutionId.trans left.sourceExecutionId,
    right.organizationId.trans left.organizationId, right.projectId.trans left.projectId,
    right.idempotencyKey.trans left.idempotencyKey, right.inputHash.trans left.inputHash,
    right.controlledEvidenceIntervention.trans left.controlledEvidenceIntervention⟩

variable {next : Replay}

theorem transition_same {replay : Replay} {call : Transition} (moved : transition replay call = .ok next) :
    SameReplay replay next := by
  cases call <;>
    simp only [transition, Replay.markReady, Replay.markFailed, Replay.archive, Replay.markQueued,
      Replay.markRunning, Replay.reserveReplayExecutionId, Replay.markExecutionCompleted,
      Replay.requestCancellation, Replay.markCancelled, Replay.markExecutionFailed,
      Replay.markEvaluating, Replay.recordReplayEvaluation, Replay.recordBaselineEvaluation,
      Replay.markComparing, Replay.recordComparison, Replay.recordDrift, Replay.markCompleted,
      requireStatus_bind_eq_ok, require_bind_eq_ok, requireImmutable_bind_eq_ok, pure_eq_ok] at moved
  case markCancelled now =>
    split at moved
    · cases moved
      exact ⟨rfl, rfl, rfl, rfl, rfl, rfl, rfl⟩
    · simp only [require_bind_eq_ok, pure_eq_ok] at moved
      obtain ⟨-, rfl⟩ := moved
      exact ⟨rfl, rfl, rfl, rfl, rfl, rfl, rfl⟩
  all_goals
    first
      | obtain ⟨-, rfl⟩ := moved
      | obtain ⟨-, -, rfl⟩ := moved
      | obtain ⟨-, -, -, rfl⟩ := moved
    exact ⟨rfl, rfl, rfl, rfl, rfl, rfl, rfl⟩

variable {allowed : Replay → Transition → Prop}

/-- One allowed transition. -/
def Moved (allowed : Replay → Transition → Prop) (old next : Replay) : Prop :=
  ∃ call, allowed old call ∧ transition old call = .ok next

/-- Allowed transitions made on a copy before it is written. -/
abbrev Moves (allowed : Replay → Transition → Prop) : Replay → Replay → Prop :=
  Relation.ReflTransGen (Moved allowed)

variable {old : Replay} {wider : Replay → Transition → Prop}

theorem Moves.mono (moves : Moves allowed old next) (implies : ∀ replay call, allowed replay call → wider replay call) :
    Moves wider old next := by
  refine Relation.ReflTransGen.mono ?_ _ _ moves
  rintro _ _ ⟨call, permitted, moved⟩
  exact ⟨call, implies _ call permitted, moved⟩

theorem moves_of_transition (call : Transition) (permitted : allowed old call)
    (moved : transition old call = .ok next) : Moves allowed old next :=
  .single ⟨call, permitted, moved⟩

theorem Moves.same (moves : Moves allowed old next) : SameReplay old next := by
  induction moves with
  | refl => exact .refl old
  | tail _ moved ih =>
    obtain ⟨call, -, moved⟩ := moved
    exact ih.trans (transition_same moved)

/-- The stored form of a changed copy: one version on. -/
def advanced (old next : Replay) : Replay := { next with version := old.version + 1 }

theorem advanced_same (same : SameReplay old next) : SameReplay old (advanced old next) := by
  obtain ⟨id, source, organization, project, key, hash, intervention⟩ := same
  exact ⟨id, source, organization, project, key, hash, intervention⟩

/-- One accepted update of the stored replay. -/
def Written (allowed : Replay → Transition → Prop) (old new : Replay) : Prop :=
  ∃ next, Moves allowed old next ∧ new = advanced old next

/-- What accepted updates lead to. -/
abbrev Follows (allowed : Replay → Transition → Prop) : Replay → Replay → Prop :=
  Relation.ReflTransGen (Written allowed)

variable {new : Replay}

theorem Written.same (written : Written allowed old new) : SameReplay old new := by
  obtain ⟨next, moves, rfl⟩ := written
  exact advanced_same moves.same

theorem Written.version (written : Written allowed old new) : new.version = old.version + 1 := by
  obtain ⟨next, -, rfl⟩ := written
  rfl

theorem Follows.same (follows : Follows allowed old new) : SameReplay old new := by
  induction follows with
  | refl => exact .refl old
  | tail _ written ih => exact ih.trans written.same

theorem Follows.mono (follows : Follows allowed old new)
    (implies : ∀ replay call, allowed replay call → wider replay call) : Follows wider old new := by
  refine Relation.ReflTransGen.mono ?_ _ _ follows
  rintro _ _ ⟨next, moves, rfl⟩
  exact ⟨next, moves.mono implies, rfl⟩

theorem Follows.version (follows : Follows allowed old new) : new = old ∨ old.version < new.version := by
  induction follows with
  | refl => exact Or.inl rfl
  | tail _ written ih =>
    have next := written.version
    rcases ih with rfl | later
    · exact Or.inr (by omega)
    · exact Or.inr (by omega)

theorem Follows.keeps (kept : Replay → Prop)
    (step : ∀ old next call, allowed old call → transition old call = .ok next → kept old → kept next)
    (unversioned : ∀ replay version, kept replay → kept { replay with version := version })
    (follows : Follows allowed old new) (holds : kept old) : kept new := by
  have moving : ∀ {old next}, Moves allowed old next → kept old → kept next := by
    intro old next moves before
    induction moves with
    | refl => exact before
    | tail _ moved ih =>
      obtain ⟨call, permitted, moved⟩ := moved
      exact step _ _ call permitted moved ih
  induction follows with
  | refl => exact holds
  | tail _ written ih =>
    obtain ⟨next, moves, rfl⟩ := written
    exact unversioned _ _ (moving moves ih)

/-! ## Stores and copies -/

/-- Every stored replay stays, or is followed by another. -/
def Advances (allowed : Replay → Transition → Prop) (plane next : Plane) : Prop :=
  ∀ replayId old, plane.replays.byId.get? replayId = some old →
    ∃ new, next.replays.byId.get? replayId = some new ∧ Follows allowed old new

theorem Advances.refl (plane : Plane) : Advances allowed plane plane :=
  fun _ _ stored => ⟨_, stored, .refl⟩

theorem Advances.trans {first second third : Plane} (left : Advances allowed first second)
    (right : Advances allowed second third) : Advances allowed first third := by
  intro replayId old stored
  obtain ⟨middle, middleStored, followed⟩ := left replayId old stored
  obtain ⟨new, newStored, continued⟩ := right replayId middle middleStored
  exact ⟨new, newStored, followed.trans continued⟩

variable {plane : Plane}

theorem Advances.mono {next : Plane} (advances : Advances allowed plane next)
    (implies : ∀ replay call, allowed replay call → wider replay call) : Advances wider plane next := by
  intro replayId old stored
  obtain ⟨new, newStored, follows⟩ := advances replayId old stored
  exact ⟨new, newStored, follows.mono implies⟩

theorem advances_of_same {next : Plane} (same : next.replays = plane.replays) : Advances allowed plane next := by
  intro replayId old stored
  exact ⟨old, same ▸ stored, .refl⟩

/-- The stored replay is the copy, or follows it. -/
def Knows (allowed : Replay → Transition → Prop) (copy : Replay) (plane : Plane) : Prop :=
  ∃ stored, plane.replays.byId.get? copy.replayId = some stored ∧ Follows allowed copy stored

variable {copy : Replay}

theorem knows_of_stored {replayId : String} (stored : plane.replays.byId.get? replayId = some copy) :
    Knows allowed copy plane := by
  obtain rfl := plane.replays.keyed stored
  exact ⟨copy, stored, .refl⟩

theorem Knows.advance {next : Plane} (knows : Knows allowed copy plane) (advances : Advances allowed plane next) :
    Knows allowed copy next := by
  obtain ⟨stored, found, follows⟩ := knows
  obtain ⟨new, newStored, continued⟩ := advances _ _ found
  exact ⟨new, newStored, follows.trans continued⟩

/-- A write over a copy is refused because the replay has moved on, or is one more accepted
update of it. -/
theorem update_known (primitives : Primitives) (knows : Knows allowed copy plane) (same : SameReplay copy next) :
    (∃ raised stored, plane.replays.byId.get? copy.replayId = some stored ∧ stored ≠ copy ∧
        Follows allowed copy stored ∧
        planeStores primitives (.updateReplay next copy.version) plane = (.error raised, plane)) ∨
      (plane.replays.byId.get? copy.replayId = some copy ∧
        planeStores primitives (.updateReplay next copy.version) plane =
          (.ok (advanced copy next), { plane with replays := plane.replays.put (advanced copy next) })) := by
  obtain ⟨stored, found, follows⟩ := knows
  have foundNext : plane.replays.byId.get? next.replayId = some stored := by
    rw [same.replayId]
    exact found
  by_cases current : stored.version = copy.version
  · rcases follows.version with rfl | later
    · have written : plane.replays.update next stored.version =
          (.ok (advanced stored next), plane.replays.put (advanced stored next)) := by
        unfold ReplayStore.update
        rw [foundNext]
        dsimp only
        rw [if_neg (by simp), if_neg (by simp [same.organizationId, same.projectId, same.idempotencyKey,
          same.inputHash])]
        rfl
      refine Or.inr ⟨found, ?_⟩
      simp only [planeStores, written]
    · omega
  · have refused : plane.replays.update next copy.version =
        (.error (ReplayStore.conflict "Replay was modified by another request."), plane.replays) := by
      unfold ReplayStore.update
      rw [foundNext]
      dsimp only
      rw [if_pos current]
    refine Or.inl ⟨ReplayStore.conflict "Replay was modified by another request.", stored, found,
      fun equal => current (by rw [equal]), follows, ?_⟩
    simp only [planeStores, refused]

/-- An accepted write advances the store, and the writer knows what it wrote. -/
theorem put_advances (stored : plane.replays.byId.get? copy.replayId = some copy) (moves : Moves allowed copy next) :
    Advances allowed plane { plane with replays := plane.replays.put (advanced copy next) } ∧
      Knows allowed (advanced copy next)
        { plane with replays := plane.replays.put (advanced copy next) } := by
  have sameId : (advanced copy next).replayId = copy.replayId := moves.same.replayId
  constructor
  · intro replayId old found
    by_cases here : replayId = copy.replayId
    · subst here
      rw [stored] at found
      cases found
      refine ⟨advanced copy next, ?_, .single ⟨next, moves, rfl⟩⟩
      rw [ReplayStore.get?_put, if_pos sameId.symm]
    · refine ⟨old, ?_, .refl⟩
      rw [ReplayStore.get?_put, if_neg (by rw [sameId]; exact here)]
      exact found
  · exact ⟨advanced copy next, by rw [ReplayStore.get?_put, if_pos rfl], .refl⟩

section Write

variable {primitives : Primitives} {copy next : Replay} {plane : Plane} (knows : Knows allowed copy plane)
  (moves : Moves allowed copy next)

include knows moves

omit moves in
/-- Whatever comes of a write, the store advances by the transitions made on the copy. -/
theorem update_advances {narrower : Replay → Transition → Prop} (moves : Moves narrower copy next) :
    Advances narrower plane (planeStores primitives (.updateReplay next copy.version) plane).2 := by
  rcases update_known primitives knows moves.same with ⟨raised, stored, -, -, -, outcome⟩ | ⟨stored, outcome⟩
  · rw [outcome]
    exact .refl plane
  · rw [outcome]
    exact (put_advances stored moves).1

/-- An accepted write: the store held the copy, and the writer knows what is stored now. -/
theorem update_accepted {new : Replay} {after : Plane}
    (outcome : planeStores primitives (.updateReplay next copy.version) plane = (.ok new, after)) :
    new = advanced copy next ∧ plane.replays.byId.get? copy.replayId = some copy ∧
      after = { plane with replays := plane.replays.put (advanced copy next) } ∧
      Knows allowed new after := by
  rcases update_known primitives knows moves.same with ⟨raised, stored, -, -, -, refused⟩ | ⟨stored, accepted⟩
  · rw [refused] at outcome
    cases outcome
  · rw [accepted] at outcome
    cases outcome
    exact ⟨rfl, stored, rfl, (put_advances stored moves).2⟩

/-- A refused write: nothing is changed, and the replay has moved on from the copy. -/
theorem update_refused {raised : Raised} {after : Plane}
    (outcome : planeStores primitives (.updateReplay next copy.version) plane = (.error raised, after)) :
    after = plane ∧ ∃ stored, plane.replays.byId.get? copy.replayId = some stored ∧ stored ≠ copy ∧
      Follows allowed copy stored := by
  rcases update_known primitives knows moves.same with
    ⟨raised, stored, found, different, follows, refused⟩ | ⟨stored, accepted⟩
  · rw [refused] at outcome
    cases outcome
    exact ⟨rfl, stored, found, different, follows⟩
  · rw [accepted] at outcome
    cases outcome

end Write

end AiGovernance.Replays
