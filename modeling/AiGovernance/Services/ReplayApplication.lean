import AiGovernance.Services.Jobs

/-!
# Replay requests

`submit`, `cancel` and `archive` of `ReplayApplicationService`
(`services/replay_application_service.py`): aggregate transitions around the
submission and cancellation of the linked job. What authorization and its
enforcers answer is part of a call; lifecycle events are not modelled.
-/

namespace AiGovernance.Services

open AiGovernance.Std Domain Repositories Semantics

/-- Who a replay request is made for. -/
structure ReplayCaller where
  scope : Scope
  actorId : String
  requestId : String
  correlationId : Option String := none
deriving DecidableEq

/-- What a request reads from outside the repositories: what the permission checks and the
enforcers raise, whether a job service is configured, and the clock. -/
structure ReplayAmbient where
  denied : Option Raised := none
  readDenied : Option Raised := none
  enforced : Replay → Option Raised := fun _ => none
  hasJobService : Bool := true
  maxAttempts : Int := 3
  requestedAt : Instant
  finishedAt : Instant
  job : SubmitAmbient

/-- Raise what a check reports. -/
def passes (denied : Option Raised) : PlaneOperation Unit :=
  match denied with
  | some raised => .raise raised
  | none => .done ()

namespace ReplayApplicationService

/-- `get`. -/
def get (replayId : String) (caller : ReplayCaller) (ambient : ReplayAmbient) : PlaneOperation Replay := do
  passes ambient.readDenied
  let replay ← ask (.getReplay replayId caller.scope.organizationId caller.scope.projectKey)
  match replay with
  | some replay => return replay
  | none => .raise ⟨.replayNotFound, "Replay '" ++ replayId ++ "' was not found."⟩

/-- `archive`. -/
def archive (replayId : String) (caller : ReplayCaller) (ambient : ReplayAmbient) :
    PlaneOperation Replay := do
  passes ambient.denied
  let replay ← get replayId caller ambient
  match replay.archive ambient.finishedAt with
  | .error error => .raise ⟨.replayInvalidTransition, error.message⟩
  | .ok archived => ask (.updateReplay archived replay.version)

/-- The job that carries the work of a replay. -/
def activeJobId (replay : Replay) : Option String :=
  if replay.status = .evaluating ∨ replay.status = .comparing then replay.evaluationJobId
  else replay.jobId

/-- The part of `cancel` after the request was stored: the linked job, then the replay. -/
def settleCancellation (persisted : Replay) (jobId : String) (caller : ReplayCaller) (ambient : ReplayAmbient)
    (jobNow : Instant) : PlaneOperation Replay := do
  match ← (cancelJobRequest jobId (some caller.scope) jobNow).caught with
  | .error error =>
    .raise ⟨.replayCancellationFailed, "Replay cancellation failed: " ++ error.message⟩
  | .ok job =>
    if job.record.status = .cancelled then do
      let cancelled ← Program.ofExcept (persisted.markCancelled ambient.finishedAt)
      ask (.updateReplay cancelled persisted.version)
    else return persisted

/-- `cancel`. -/
def cancel (replayId : String) (caller : ReplayCaller) (ambient : ReplayAmbient) (jobNow : Instant) :
    PlaneOperation Replay := do
  passes ambient.denied
  let replay ← get replayId caller ambient
  passes (ambient.enforced replay)
  if Replay.active replay.status = false then
    .raise ⟨.replayNotCancellable,
      "Replay '" ++ replayId ++ "' cannot be cancelled from " ++ replay.status.value ++ "."⟩
  else do
    let requested ← Program.ofExcept (replay.requestCancellation ambient.requestedAt)
    if replay.status = .ready then do
      let cancelled ← Program.ofExcept (requested.markCancelled ambient.finishedAt)
      ask (.updateReplay cancelled replay.version)
    else
      match activeJobId replay with
      | none => .raise ⟨.replayCancellationFailed, "Replay job service is not configured."⟩
      | some jobId =>
        if ambient.hasJobService = false then
          .raise ⟨.replayCancellationFailed, "Replay job service is not configured."⟩
        else do
          let persisted ← ask (.updateReplay requested replay.version)
          settleCancellation persisted jobId caller ambient jobNow

end ReplayApplicationService

end AiGovernance.Services
