import AiGovernance.Domain.Replay
import Mathlib.Data.List.Induction

/-!
# Runs of the replay aggregate

The seventeen transition methods as one step function, and what every run from
`Replay.create` keeps: references are assigned once, each status carries the
evidence it stands for, and nothing leaves the archive.
-/

namespace AiGovernance.Replays

open AiGovernance.Std Domain List

/-- One call of a transition method. -/
inductive Transition where
  | markReady (configuration : ReplayConfiguration) (now : Instant)
  | markFailed (failure : ReplayFailure) (now : Instant)
  | archive (now : Instant)
  | markQueued (jobId : String) (now : Instant)
  | markRunning (attemptCount : Int) (now : Instant)
  | reserveReplayExecutionId (replayExecutionId : String) (now : Instant)
  | markExecutionCompleted (now : Instant)
  | requestCancellation (now : Instant)
  | markCancelled (now : Instant)
  | markExecutionFailed (failure : ReplayFailure) (now : Instant)
  | markEvaluating (evaluationJobId : String) (now : Instant)
  | recordReplayEvaluation (evaluationId : String) (now : Instant)
  | recordBaselineEvaluation (evaluationId : String) (now : Instant)
  | markComparing (now : Instant)
  | recordComparison (comparisonId : String) (now : Instant)
  | recordDrift (driftId : String) (now : Instant)
  | markCompleted (resultId : String) (now : Instant)

/-- The call of a transition method on a replay. -/
def transition (replay : Replay) : Transition → Except Raised Replay
  | .markReady configuration now => replay.markReady configuration now
  | .markFailed failure now => replay.markFailed failure now
  | .archive now => replay.archive now
  | .markQueued jobId now => replay.markQueued jobId now
  | .markRunning attemptCount now => replay.markRunning attemptCount now
  | .reserveReplayExecutionId replayExecutionId now =>
    replay.reserveReplayExecutionId replayExecutionId now
  | .markExecutionCompleted now => replay.markExecutionCompleted now
  | .requestCancellation now => replay.requestCancellation now
  | .markCancelled now => replay.markCancelled now
  | .markExecutionFailed failure now => replay.markExecutionFailed failure now
  | .markEvaluating evaluationJobId now => replay.markEvaluating evaluationJobId now
  | .recordReplayEvaluation evaluationId now => replay.recordReplayEvaluation evaluationId now
  | .recordBaselineEvaluation evaluationId now => replay.recordBaselineEvaluation evaluationId now
  | .markComparing now => replay.markComparing now
  | .recordComparison comparisonId now => replay.recordComparison comparisonId now
  | .recordDrift driftId now => replay.recordDrift driftId now
  | .markCompleted resultId now => replay.markCompleted resultId now

/-- A call that raises leaves the replay unchanged. -/
def step (replay : Replay) (call : Transition) : Replay :=
  match transition replay call with
  | .ok next => next
  | .error _ => replay

/-- The replay after a run of calls. -/
def after (replay : Replay) (calls : List Transition) : Replay := calls.foldl step replay

/-! ## Guards -/

variable {α : Type}

@[simp] theorem require_bind_eq_ok {holds : Prop} [Decidable holds] {message : String} {next : Unit → Except Raised α}
    {result : α} : (Replay.require holds message >>= next) = .ok result ↔ holds ∧ next () = .ok result := by
  unfold Replay.require
  by_cases guard : holds
  · rw [if_pos guard]
    exact (and_iff_right guard).symm
  · rw [if_neg guard]
    exact iff_of_false nofun fun both => guard both.1

variable {replay : Replay}

@[simp] theorem requireStatus_bind_eq_ok {expected : ReplayStatus} {operation : String} {next : Unit → Except Raised α}
    {result : α} :
    (replay.requireStatus expected operation >>= next) = .ok result ↔
      replay.status = expected ∧ next () = .ok result := by
  unfold Replay.requireStatus
  by_cases guard : replay.status = expected
  · rw [if_pos guard]
    exact (and_iff_right guard).symm
  · rw [if_neg guard]
    exact iff_of_false nofun fun both => guard both.1

@[simp] theorem requireImmutable_bind_eq_ok {fieldName : String} {current : Option String} {value : String}
    {next : Unit → Except Raised α} {result : α} :
    (Replay.requireImmutable fieldName current value >>= next) = .ok result ↔
      (Text.isBlank value = false ∧ (Replay.truthy current = false ∨ current = some value)) ∧
        next () = .ok result := by
  unfold Replay.requireImmutable Replay.require
  by_cases named : Text.isBlank value = false
  · by_cases free : Replay.truthy current = false ∨ current = some value
    · rw [if_pos named, if_pos free]
      exact (and_iff_right ⟨named, free⟩).symm
    · rw [if_pos named, if_neg free]
      exact iff_of_false nofun fun both => free both.1.2
  · rw [if_neg named]
    exact iff_of_false nofun fun both => named both.1.1

@[simp] theorem pure_eq_ok {value result : α} : (pure value : Except Raised α) = .ok result ↔ value = result :=
  ⟨Except.ok.inj, congrArg Except.ok⟩

/-- What a transition that succeeds has found and what it leaves. -/
inductive Transits (replay : Replay) : Transition → Replay → Prop where
  | markReady (configuration now) (status : replay.status = .draft) (unset : replay.failure = none) :
    Transits replay (.markReady configuration now)
      { replay with status := .ready, configuration := some configuration, updatedAt := now }
  | markFailed (failure now) (status : replay.status = .draft) :
    Transits replay (.markFailed failure now)
      { replay with status := .failed, failure := some failure, updatedAt := now }
  | archive (now) (allowed : Replay.archivable replay.status = true) :
    Transits replay (.archive now) { replay with status := .archived, archivedAt := some now, updatedAt := now }
  | markQueued (jobId now) (status : replay.status = .ready) (named : Text.isBlank jobId = false)
    (free : replay.jobId.all (· = jobId) = true) :
    Transits replay (.markQueued jobId now)
      { replay with status := .queued, jobId := some jobId, queuedAt := some now, updatedAt := now }
  | markRunning (attemptCount now) (status : replay.status = .queued) :
    Transits replay (.markRunning attemptCount now)
      { replay with status := .running, startedAt := some now, updatedAt := now, attemptCount := attemptCount }
  | reserveReplayExecutionId (replayExecutionId now) (status : replay.status = .queued ∨ replay.status = .running)
    (named : Text.isBlank replayExecutionId = false) (differs : replayExecutionId ≠ replay.sourceExecutionId)
    (free : Replay.truthy replay.replayExecutionId = false ∨ replay.replayExecutionId = some replayExecutionId) :
    Transits replay (.reserveReplayExecutionId replayExecutionId now)
      { replay with replayExecutionId := some replayExecutionId, updatedAt := now }
  | markExecutionCompleted (now) (status : replay.status = .running) (reserved : replay.replayExecutionId ≠ none) :
    Transits replay (.markExecutionCompleted now)
      { replay with status := .executionCompleted, executionCompletedAt := some now, updatedAt := now }
  | requestCancellation (now) (allowed : Replay.active replay.status = true) :
    Transits replay (.requestCancellation now) { replay with cancelRequestedAt := some now, updatedAt := now }
  | markCancelledReady (now) (status : replay.status = .ready) :
    Transits replay (.markCancelled now)
      { replay with
        status := .cancelled
        cancelRequestedAt := some (replay.cancelRequestedAt.getD now)
        cancelledAt := some now
        updatedAt := now }
  | markCancelled (now) (allowed : Replay.active replay.status = true) (requested : replay.cancelRequestedAt ≠ none) :
    Transits replay (.markCancelled now)
      { replay with status := .cancelled, cancelledAt := some now, updatedAt := now }
  | markExecutionFailed (failure now) (allowed : Replay.active replay.status = true) :
    Transits replay (.markExecutionFailed failure now)
      { replay with status := .failed, failure := some failure, updatedAt := now }
  | markEvaluating (evaluationJobId now) (status : replay.status = .executionCompleted)
    (named : Text.isBlank evaluationJobId = false)
    (free : Replay.truthy replay.evaluationJobId = false ∨ replay.evaluationJobId = some evaluationJobId) :
    Transits replay (.markEvaluating evaluationJobId now)
      { replay with
        status := .evaluating
        evaluationJobId := some evaluationJobId
        evaluationStartedAt := some now
        updatedAt := now }
  | recordReplayEvaluation (evaluationId now) (status : replay.status = .evaluating ∨ replay.status = .comparing)
    (named : Text.isBlank evaluationId = false)
    (free : Replay.truthy replay.replayEvaluationId = false ∨ replay.replayEvaluationId = some evaluationId) :
    Transits replay (.recordReplayEvaluation evaluationId now)
      { replay with replayEvaluationId := some evaluationId, updatedAt := now }
  | recordBaselineEvaluation (evaluationId now) (status : replay.status = .evaluating ∨ replay.status = .comparing)
    (named : Text.isBlank evaluationId = false)
    (free : Replay.truthy replay.baselineEvaluationId = false ∨ replay.baselineEvaluationId = some evaluationId) :
    Transits replay (.recordBaselineEvaluation evaluationId now)
      { replay with baselineEvaluationId := some evaluationId, updatedAt := now }
  | markComparing (now) (status : replay.status = .evaluating)
    (evaluated : Replay.truthy replay.replayEvaluationId = true ∧ Replay.truthy replay.baselineEvaluationId = true) :
    Transits replay (.markComparing now)
      { replay with
        status := .comparing
        evaluationCompletedAt := some (replay.evaluationCompletedAt.getD now)
        comparisonStartedAt := some now
        updatedAt := now }
  | recordComparison (comparisonId now) (status : replay.status = .comparing)
    (named : Text.isBlank comparisonId = false)
    (free : Replay.truthy replay.comparisonId = false ∨ replay.comparisonId = some comparisonId) :
    Transits replay (.recordComparison comparisonId now)
      { replay with comparisonId := some comparisonId, updatedAt := now }
  | recordDrift (driftId now) (status : replay.status = .comparing) (named : Text.isBlank driftId = false)
    (free : Replay.truthy replay.driftId = false ∨ replay.driftId = some driftId) :
    Transits replay (.recordDrift driftId now) { replay with driftId := some driftId, updatedAt := now }
  | markCompleted (resultId now) (status : replay.status = .comparing) (named : Text.isBlank resultId = false)
    (evidence : Replay.truthy replay.comparisonId = true ∧ Replay.truthy replay.driftId = true)
    (free : Replay.truthy replay.resultId = false ∨ replay.resultId = some resultId) :
    Transits replay (.markCompleted resultId now)
      { replay with
        resultId := some resultId
        status := .completed
        comparisonCompletedAt := some now
        completedAt := some now
        updatedAt := now }

variable {next : Replay} {call : Transition}

theorem transits_of_ok (moved : transition replay call = .ok next) : Transits replay call next := by
  cases call with
  | markCancelled now =>
    simp only [transition, Replay.markCancelled] at moved
    split at moved
    · rename_i ready
      cases moved
      exact .markCancelledReady now ready
    · obtain ⟨⟨allowed, requested⟩, same⟩ := require_bind_eq_ok.mp moved
      cases same
      exact .markCancelled now allowed requested
  | _ =>
    simp only [transition, Replay.markReady, Replay.markFailed, Replay.archive, Replay.markQueued, Replay.markRunning,
      Replay.reserveReplayExecutionId, Replay.markExecutionCompleted, Replay.requestCancellation,
      Replay.markExecutionFailed, Replay.markEvaluating, Replay.recordReplayEvaluation,
      Replay.recordBaselineEvaluation, Replay.markComparing, Replay.recordComparison, Replay.recordDrift,
      Replay.markCompleted, requireStatus_bind_eq_ok, require_bind_eq_ok, requireImmutable_bind_eq_ok,
      pure_eq_ok, and_assoc] at moved
    first
      | obtain ⟨_, rfl⟩ := moved
      | obtain ⟨_, _, rfl⟩ := moved
      | obtain ⟨_, _, _, rfl⟩ := moved
      | obtain ⟨_, _, _, _, rfl⟩ := moved
      | obtain ⟨_, _, _, _, _, rfl⟩ := moved
    constructor <;> first | assumption | exact ⟨by assumption, by assumption⟩

theorem truthy_of_named {text : String} (named : Text.isBlank text = false) :
    Replay.truthy (some text) = true := by
  refine decide_eq_true fun empty => ?_
  rw [empty] at named
  cases named

/-! ## References are assigned once -/

/-- The references that are immutable once assigned. -/
inductive Reference where
  | job
  | replayExecution
  | evaluationJob
  | replayEvaluation
  | baselineEvaluation
  | comparison
  | drift
  | result

/-- The value of a reference. -/
def Reference.of (replay : Replay) : Reference → Option String
  | job => replay.jobId
  | replayExecution => replay.replayExecutionId
  | evaluationJob => replay.evaluationJobId
  | replayEvaluation => replay.replayEvaluationId
  | baselineEvaluation => replay.baselineEvaluationId
  | comparison => replay.comparisonId
  | drift => replay.driftId
  | result => replay.resultId

/-- Every reference that was set still has its value. -/
def Keeps (before later : Replay) : Prop :=
  ∀ (reference : Reference) (text : String), reference.of before = some text →
    reference.of later = some text

theorem Keeps.refl (replay : Replay) : Keeps replay replay := fun _ _ set => set

theorem Keeps.trans {first second third : Replay} (left : Keeps first second)
    (right : Keeps second third) : Keeps first third :=
  fun reference text set => right reference text (left reference text set)

/-- A status in which the replay is linked to its execution job. -/
def linked : ReplayStatus → Bool
  | .queued | .running | .executionCompleted | .evaluating | .comparing | .completed => true
  | _ => false

/-- A status that follows a produced execution. -/
def produced : ReplayStatus → Bool
  | .executionCompleted | .evaluating | .comparing | .completed => true
  | _ => false

/-- What holds of a replay in every reachable state. -/
structure Sound (replay : Replay) : Prop where
  named : ∀ (reference : Reference) (text : String), reference.of replay = some text →
    Text.isBlank text = false
  distinct : replay.replayExecutionId ≠ some replay.sourceExecutionId
  configured : linked replay.status = true ∨ replay.status = .ready → replay.configuration.isSome = true
  linkedJob : linked replay.status = true → replay.jobId.isSome = true
  execution : produced replay.status = true → replay.replayExecutionId.isSome = true
  evaluations : replay.status = .comparing ∨ replay.status = .completed →
    replay.replayEvaluationId.isSome = true ∧ replay.baselineEvaluationId.isSome = true
  evidence : replay.status = .completed → replay.comparisonId.isSome = true ∧
    replay.driftId.isSome = true ∧ replay.resultId.isSome = true
  cancellation : replay.status = .cancelled →
    replay.cancelRequestedAt.isSome = true ∧ replay.cancelledAt.isSome = true
  failed : replay.status = .failed → replay.failure.isSome = true
  unfailed : replay.status ≠ .failed → replay.status ≠ .archived → replay.failure = none

theorem sound_draftOf (request : Replay.Request) : Sound (Replay.draftOf request) where
  named := by
    intro reference text set
    cases reference <;> cases set
  distinct := by simp [Replay.draftOf]
  configured := by simp [Replay.draftOf, linked]
  linkedJob := by simp [Replay.draftOf, linked]
  execution := by simp [Replay.draftOf, produced]
  evaluations := by simp [Replay.draftOf]
  evidence := by simp [Replay.draftOf]
  cancellation := by simp [Replay.draftOf]
  failed := by simp [Replay.draftOf]
  unfailed := by simp [Replay.draftOf]

/-- What a transition does to the references: nothing, or it gives a name to one that has
none (or has that name already). -/
def Assigns (replay next : Replay) : Prop :=
  (∀ reference : Reference, reference.of next = reference.of replay) ∨
    ∃ (reference : Reference) (value : String), Text.isBlank value = false ∧
      (Replay.truthy (reference.of replay) = false ∨ reference.of replay = some value) ∧
      reference.of next = some value ∧
      ∀ other : Reference, other ≠ reference → other.of next = other.of replay

theorem transition_assigns (moved : transition replay call = .ok next) : Assigns replay next := by
  have assigned (reference : Reference) (value : String) (named : Text.isBlank value = false)
      (free : Replay.truthy (reference.of replay) = false ∨ reference.of replay = some value)
      (now : reference.of next = some value)
      (others : ∀ other : Reference, other ≠ reference → other.of next = other.of replay) : Assigns replay next :=
    Or.inr ⟨reference, value, named, free, now, others⟩
  cases transits_of_ok moved with
  | markQueued jobId now status named free =>
    refine assigned .job jobId named ?_ rfl (by rintro (_ | _) <;> simp [Reference.of])
    cases current : replay.jobId with
    | none => exact Or.inl (by simp [Reference.of, current, Replay.truthy])
    | some held =>
      rw [current] at free
      exact Or.inr (by simpa [Reference.of, current] using free)
  | reserveReplayExecutionId replayExecutionId now status named differs free =>
    exact assigned .replayExecution replayExecutionId named free rfl (by rintro (_ | _) <;> simp [Reference.of])
  | markEvaluating evaluationJobId now status named free =>
    exact assigned .evaluationJob evaluationJobId named free rfl (by rintro (_ | _) <;> simp [Reference.of])
  | recordReplayEvaluation evaluationId now status named free =>
    exact assigned .replayEvaluation evaluationId named free rfl (by rintro (_ | _) <;> simp [Reference.of])
  | recordBaselineEvaluation evaluationId now status named free =>
    exact assigned .baselineEvaluation evaluationId named free rfl (by rintro (_ | _) <;> simp [Reference.of])
  | recordComparison comparisonId now status named free =>
    exact assigned .comparison comparisonId named free rfl (by rintro (_ | _) <;> simp [Reference.of])
  | recordDrift driftId now status named free =>
    exact assigned .drift driftId named free rfl (by rintro (_ | _) <;> simp [Reference.of])
  | markCompleted resultId now status named evidence free =>
    exact assigned .result resultId named free rfl (by rintro (_ | _) <;> simp [Reference.of])
  | _ => exact Or.inl fun reference => by cases reference <;> rfl

theorem Assigns.keeps (assigns : Assigns replay next)
    (named : ∀ (reference : Reference) (text : String), reference.of replay = some text → Text.isBlank text = false) :
    Keeps replay next := by
  intro reference text set
  rcases assigns with same | ⟨assigned, value, -, free, now, others⟩
  · rw [same, set]
  · by_cases equal : reference = assigned
    · subst equal
      rcases free with untrue | current
      · rw [set, truthy_of_named (named reference text set)] at untrue
        cases untrue
      · rw [now, ← current, set]
    · rw [others reference equal, set]

/-- After an assignment every reference that is set is named. -/
theorem Assigns.named (assigns : Assigns replay next)
    (named : ∀ (reference : Reference) (text : String), reference.of replay = some text → Text.isBlank text = false)
    (reference : Reference) (text : String) (set : reference.of next = some text) : Text.isBlank text = false := by
  rcases assigns with same | ⟨assigned, value, valueNamed, -, now, others⟩
  · exact named reference text (same reference ▸ set)
  · by_cases equal : reference = assigned
    · subst equal
      rw [now] at set
      cases set
      exact valueNamed
    · exact named reference text (others reference equal ▸ set)

theorem isSome_of_truthy {value : Option String} (set : Replay.truthy value = true) :
    value.isSome = true := by
  cases value with
  | none => cases set
  | some text => rfl

/-- A transition reaches a status only with what the status needs. -/
theorem Transits.held (moved : Transits replay call next) (sound : Sound replay) :
    (linked next.status = true ∨ next.status = .ready → next.configuration.isSome = true) ∧
      (linked next.status = true → next.jobId.isSome = true) ∧
      (produced next.status = true → next.replayExecutionId.isSome = true) ∧
      (next.status = .comparing ∨ next.status = .completed →
        next.replayEvaluationId.isSome = true ∧ next.baselineEvaluationId.isSome = true) := by
  obtain ⟨-, -, configured, linkedJob, execution, evaluations, -, -, -, -⟩ := sound
  cases moved <;>
    refine ⟨?_, ?_, ?_, ?_⟩ <;> simp_all [linked, produced, isSome_of_truthy, Option.isSome_iff_ne_none]

/-- A transition ends a replay only with what its end records. -/
theorem Transits.ended (moved : Transits replay call next) (sound : Sound replay) :
    (next.status = .completed → next.comparisonId.isSome = true ∧
        next.driftId.isSome = true ∧ next.resultId.isSome = true) ∧
      (next.status = .cancelled → next.cancelRequestedAt.isSome = true ∧ next.cancelledAt.isSome = true) ∧
      (next.status = .failed → next.failure.isSome = true) ∧
      (next.status ≠ .failed → next.status ≠ .archived → next.failure = none) := by
  obtain ⟨-, -, -, -, -, -, evidence, cancellation, failed, unfailed⟩ := sound
  cases moved with
  | markCancelled now allowed requested =>
    have unset := unfailed (by rintro same; simp [same, Replay.active] at allowed)
      (by rintro same; simp [same, Replay.active] at allowed)
    simp_all [Option.isSome_iff_ne_none]
  | _ => refine ⟨?_, ?_, ?_, ?_⟩ <;> simp_all [isSome_of_truthy]

theorem transition_sound (sound : Sound replay) (moved : transition replay call = .ok next) : Sound next := by
  have named := (transition_assigns moved).named sound.named
  have transits := transits_of_ok moved
  obtain ⟨configured, linkedJob, execution, evaluations⟩ := transits.held sound
  obtain ⟨evidence, cancellation, failed, unfailed⟩ := transits.ended sound
  have distinct : next.replayExecutionId ≠ some next.sourceExecutionId := by
    have before := sound.distinct
    cases transits with
    | reserveReplayExecutionId replayExecutionId now status blank differs free => simpa using differs
    | _ => exact before
  exact ⟨named, distinct, configured, linkedJob, execution, evaluations, evidence, cancellation, failed, unfailed⟩

/-- Only `archive` leads to the archive, and it changes no failure; nothing leaves it, and
nothing but `archive` leaves a completed replay. -/
theorem transition_archive (moved : transition replay call = .ok next) :
    replay.status ≠ .archived ∧
      (replay.status = .completed → next.status = .archived) ∧
      (next.status = .archived → (∃ now, call = .archive now) ∧ next.failure = replay.failure) := by
  cases transits_of_ok moved with
  | archive now allowed =>
    refine ⟨?_, fun _ => rfl, fun _ => ⟨⟨now, rfl⟩, rfl⟩⟩
    rintro same
    rw [same] at allowed
    cases allowed
  | requestCancellation now allowed | markCancelled now allowed | markExecutionFailed failure now allowed =>
    cases status : replay.status <;> simp_all [Replay.active]
  | reserveReplayExecutionId replayExecutionId now status | recordReplayEvaluation evaluationId now status
  | recordBaselineEvaluation evaluationId now status =>
    rcases status with status | status <;> simp_all
  | _ => simp_all

/-! ## Runs -/

theorem after_concat (calls : List Transition) : after replay (calls ++ [call]) = step (after replay calls) call := by
  simp [after, foldl_append]

theorem after_append (earlier later : List Transition) :
    after replay (earlier ++ later) = after (after replay earlier) later := by
  simp [after, foldl_append]

theorem step_sound (sound : Sound replay) (call : Transition) :
    Sound (step replay call) ∧ Keeps replay (step replay call) := by
  unfold step
  split
  · rename_i next moved
    exact ⟨transition_sound sound moved, (transition_assigns moved).keeps sound.named⟩
  · exact ⟨sound, Keeps.refl replay⟩

theorem after_sound (sound : Sound replay) (calls : List Transition) :
    Sound (after replay calls) ∧ Keeps replay (after replay calls) := by
  induction calls generalizing replay with
  | nil => exact ⟨sound, Keeps.refl replay⟩
  | cons call rest ih =>
    obtain ⟨stepped, kept⟩ := step_sound sound call
    obtain ⟨final, keptAfter⟩ := ih stepped
    exact ⟨final, kept.trans keptAfter⟩

theorem after_archived (archived : replay.status = .archived) (calls : List Transition) :
    after replay calls = replay := by
  induction calls with
  | nil => rfl
  | cons call rest ih =>
    have stays : step replay call = replay := by
      unfold step
      split
      · rename_i next moved
        exact absurd archived (transition_archive moved).1
      · rfl
    rw [after, foldl_cons, stays]
    exact ih

/-- The run archived a failed replay. -/
def ArchivedFailed (draft : Replay) (calls : List Transition) : Prop :=
  ∃ earlier now later, calls = earlier ++ .archive now :: later ∧ (after draft earlier).status = .failed

theorem step_archive_failed (failed : replay.status = .failed) (now : Instant) :
    (step replay (.archive now)).status = .archived := by
  have moved : transition replay (.archive now) =
      .ok { replay with status := .archived, archivedAt := some now, updatedAt := now } := by
    simp only [transition, Replay.archive, require_bind_eq_ok, failed, pure_eq_ok]
    exact ⟨rfl, trivial⟩
  simp only [step, moved]

theorem ArchivedFailed.archived {draft : Replay} {calls : List Transition}
    (archivedFailed : ArchivedFailed draft calls) : (after draft calls).status = .archived := by
  obtain ⟨earlier, now, later, rfl, failed⟩ := archivedFailed
  have archived := step_archive_failed failed now
  rw [after_append, after, foldl_cons]
  exact (congrArg Replay.status (after_archived archived later)).trans archived

/-- A failure is recorded exactly while the replay is failed, and after a failed one is archived. -/
theorem failure_iff {draft : Replay} (sound : Sound draft) (started : draft.status = .draft)
    (calls : List Transition) :
    (after draft calls).failure.isSome = true ↔
      (after draft calls).status = .failed ∨
        ((after draft calls).status = .archived ∧ ArchivedFailed draft calls) := by
  induction calls using List.reverseRecOn with
  | nil =>
    have unset := sound.unfailed (by simp [started]) (by simp [started])
    simp [after, unset, started]
  | append_singleton calls call ih =>
    have prior := (after_sound sound calls).1
    have final := (after_sound sound (calls ++ [call])).1
    rw [after_concat] at final ⊢
    rcases moved : transition (after draft calls) call with raised | next
    · have unchanged : step (after draft calls) call = after draft calls := by simp only [step, moved]
      rw [unchanged, ih]
      refine or_congr_right (and_congr_right fun _ => ⟨?_, ?_⟩)
      · rintro ⟨earlier, now, later, rfl, failed⟩
        exact ⟨earlier, now, later ++ [call], by simp, failed⟩
      · rintro ⟨earlier, now, later, split, failed⟩
        rcases eq_nil_or_concat later with rfl | ⟨rest, last, rfl⟩
        · obtain ⟨rfl, same⟩ := append_inj' split rfl
          obtain rfl := singleton_inj.mp same
          have archived := step_archive_failed failed now
          rw [unchanged, failed] at archived
          cases archived
        · rw [concat_eq_append, ← cons_append, ← append_assoc] at split
          obtain ⟨rfl, -⟩ := append_inj' split rfl
          exact ⟨earlier, now, rest, rfl, failed⟩
    · have stepped : step (after draft calls) call = next := by simp only [step, moved]
      rw [stepped] at final ⊢
      obtain ⟨notArchived, -, archives⟩ := transition_archive moved
      by_cases archived : next.status = .archived
      · obtain ⟨⟨now, rfl⟩, sameFailure⟩ := archives archived
        have notFailed : next.status ≠ .failed := by simp [archived]
        rw [sameFailure]
        constructor
        · intro set
          have failed : (after draft calls).status = .failed := by
            by_contra other
            rw [prior.unfailed other notArchived] at set
            cases set
          exact Or.inr ⟨archived, calls, now, [], rfl, failed⟩
        · rintro (failed | ⟨-, earlier, moment, later, split, failed⟩)
          · exact absurd failed notFailed
          · rcases eq_nil_or_concat later with rfl | ⟨rest, last, rfl⟩
            · obtain ⟨rfl, -⟩ := append_inj' split rfl
              exact prior.failed failed
            · rw [concat_eq_append, ← cons_append, ← append_assoc] at split
              obtain ⟨rfl, -⟩ := append_inj' split rfl
              exact absurd (ArchivedFailed.archived ⟨earlier, moment, rest, rfl, failed⟩) notArchived
      · constructor
        · intro set
          refine Or.inl ?_
          by_contra other
          rw [final.unfailed other archived] at set
          cases set
        · rintro (failed | ⟨same, -⟩)
          · exact final.failed failed
          · exact absurd same archived

/-- Every replay reachable from `Replay.create` by any calls: references keep their value
from the point they are set, the state carries the evidence its status stands for, a
failure is recorded exactly while it is failed or after a failed one was archived, the
archive is final, and a completed replay can only be archived. -/
theorem replay_aggregate_sound {request : Replay.Request} {draft : Replay}
    (created : Replay.create request = .ok draft) (calls : List Transition) :
    (∀ earlier later, calls = earlier ++ later → Keeps (after draft earlier) (after draft calls)) ∧
      Sound (after draft calls) ∧
      ((after draft calls).failure.isSome = true ↔
        (after draft calls).status = .failed ∨
          ((after draft calls).status = .archived ∧ ArchivedFailed draft calls)) ∧
      (∀ call next, transition (after draft calls) call = .ok next →
        (after draft calls).status ≠ .archived ∧
          ((after draft calls).status = .completed → next.status = .archived)) := by
  have same : draft = Replay.draftOf request := by
    unfold Replay.create at created
    split at created
    · cases created
    · exact (Except.ok.inj created).symm
  have sound : Sound draft := same ▸ sound_draftOf request
  refine ⟨?_, (after_sound sound calls).1, failure_iff sound (by rw [same]; rfl) calls, ?_⟩
  · rintro earlier later rfl
    rw [after_append]
    exact (after_sound (after_sound sound earlier).1 later).2
  · intro call next moved
    obtain ⟨notArchived, completes, -⟩ := transition_archive moved
    exact ⟨notArchived, completes⟩

/-- A request to replay the claims run. -/
def claimsReplay : Replay.Request where
  replayId := "replay-1"
  sourceExecutionId := "exec-1"
  mode := .full
  requestedBy := "analyst-1"
  organizationId := "org-1"
  projectId := "project-1"
  requestId := "request-1"
  correlationId := none
  idempotencyKey := "replay-key-1"
  inputHash := "hash-1"
  metadata := []
  now := ⟨63000000000000000⟩

/-- The frozen configuration of the claims run. -/
def claimsConfiguration : ReplayConfiguration :=
  ⟨{ workflowId := "claims"
     workflowVersion := "1"
     executionAdapter := "historical"
     inputSnapshotRef := "inline:input"
     stateSnapshotRef := "inline:state"
     configurationHash := "hash-2" }, by decide⟩

/-- A replay that runs to the end of its evaluation and is archived. -/
def completedRun : List Transition :=
  let now : Instant := ⟨63000000000000000⟩
  [.markReady claimsConfiguration now, .markQueued "job-1" now, .markRunning 1 now,
    .reserveReplayExecutionId "exec-2" now, .markExecutionCompleted now, .markEvaluating "job-2" now,
    .recordReplayEvaluation "evaluation-2" now, .recordBaselineEvaluation "evaluation-1" now,
    .markComparing now, .recordComparison "comparison-1" now, .recordDrift "drift-1" now,
    .markCompleted "result-1" now]

/-- The worked run reaches the completed state with all its evidence. -/
theorem replay_aggregate_sound_completed :
    (after (Replay.draftOf claimsReplay) completedRun).status = .completed ∧
      Sound (after (Replay.draftOf claimsReplay) completedRun) := by
  have created : Replay.create claimsReplay = .ok (Replay.draftOf claimsReplay) := by decide
  exact ⟨by decide, (replay_aggregate_sound created completedRun).2.1⟩

end AiGovernance.Replays
