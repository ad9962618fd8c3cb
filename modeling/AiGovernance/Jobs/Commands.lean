import AiGovernance.Jobs.Fencing
import AiGovernance.Jobs.Lifecycle

/-!
# One call of the job repository

`CommandMove` says once, for every call but `save`, what it may make of a
stored job; what a call keeps of a job, and that it keeps the store sound, is
read off it.
-/

namespace AiGovernance.Jobs

open AiGovernance.Std Domain Repositories
open Semantics Services JobStore

/-- What a call may make of a stored job. -/
def CommandMove : PlaneCommand → JobRecord → JobRecord → Prop
  | .acquireNextQueuedJob workerId leaseSeconds _ now, old, new =>
    old.status = .queued ∧ new = JobStore.acquired workerId leaseSeconds now old
  | .heartbeat _ workerId leaseSeconds now, old, new =>
    old.status = .running ∧ old.leasedBy = some workerId ∧ new = JobStore.extended leaseSeconds now old
  | .markSucceeded jobId resultRef now, old, new =>
    old.jobId = jobId ∧ old.status ≠ .cancelled ∧ new = JobStore.succeeded resultRef now old
  | .markFailed jobId failureReason now, old, new =>
    old.jobId = jobId ∧ old.status ≠ .cancelled ∧ new = JobStore.failed failureReason now old
  | .cancelJob jobId now, old, new => old.jobId = jobId ∧ new = JobStore.cancelled now old
  | .releaseExpiredLeases now, old, new =>
    JobStore.isExpired now old = true ∧ new = JobStore.released now old
  | _, _, _ => False

variable {command : PlaneCommand}

theorem CommandMove.jobMove {old new : JobRecord} (move : CommandMove command old new) : JobMove old new := by
  cases command with
  | acquireNextQueuedJob workerId leaseSeconds filter now =>
    obtain ⟨queued, rfl⟩ := move
    exact .claim workerId leaseSeconds now queued
  | heartbeat jobId workerId leaseSeconds now =>
    obtain ⟨running, leased, rfl⟩ := move
    exact .extend workerId leaseSeconds now running leased
  | markSucceeded jobId resultRef now =>
    obtain ⟨-, alive, rfl⟩ := move
    exact .succeed resultRef now alive
  | markFailed jobId failureReason now =>
    obtain ⟨-, alive, rfl⟩ := move
    exact .fail failureReason now alive
  | cancelJob jobId now =>
    obtain ⟨-, rfl⟩ := move
    exact .cancel now
  | releaseExpiredLeases now =>
    obtain ⟨expired, rfl⟩ := move
    exact .release now expired
  | _ => exact move.elim

/-- Not a call of `save`. -/
def Unsaving : PlaneCommand → Prop
  | .saveJob _ => False
  | _ => True

variable {store next : JobStore}

theorem rewritesAll_of_change {allowed : JobRecord → JobRecord → Prop}
    (changed : next = store ∨ Rewrites allowed store next) : RewritesAll allowed store next := by
  rcases changed with rfl | rewrites
  · exact .refl
  · exact .single rewrites

theorem jobs_rewritten (primitives : Primitives) (unsaving : Unsaving command) (plane : Plane) :
    RewritesAll (CommandMove command) plane.jobs (planeStores primitives command plane).2.jobs := by
  cases command with
  | saveJob job => exact unsaving.elim
  | acquireNextQueuedJob workerId leaseSeconds filter now =>
    refine rewritesAll_of_change ?_
    rcases acquire_cases primitives plane.jobs workerId leaseSeconds filter now with
      ⟨-, same⟩ | ⟨old, new, selected, record, outcome⟩
    · exact Or.inl same
    · obtain ⟨queued, stored⟩ := nextQueued_stored selected
      refine Or.inr ⟨old, new, ?_, ⟨queued, record⟩, ?_⟩
      · rw [record]
        exact stored
      · change (plane.jobs.acquireNextQueuedJob primitives workerId leaseSeconds filter now).2 = _
        rw [outcome]
  | heartbeat jobId workerId leaseSeconds now =>
    refine rewritesAll_of_change ?_
    change (plane.jobs.heartbeat jobId workerId leaseSeconds now).2 = plane.jobs ∨
      Rewrites (CommandMove (.heartbeat jobId workerId leaseSeconds now)) plane.jobs
        (plane.jobs.heartbeat jobId workerId leaseSeconds now).2
    unfold JobStore.heartbeat
    split
    · exact Or.inl rfl
    · rename_i job found
      split
      · exact Or.inl rfl
      · rename_i held
        push Not at held
        exact saveReplaced_rewrites (findById_stored found).1 rfl ⟨held.1, held.2, rfl⟩
  | markSucceeded jobId resultRef now =>
    exact rewritesAll_of_change (finish_rewrites (fun _ => rfl) fun _ named alive => ⟨named, alive, rfl⟩)
  | markFailed jobId failureReason now =>
    exact rewritesAll_of_change (finish_rewrites (fun _ => rfl) fun _ named alive => ⟨named, alive, rfl⟩)
  | cancelJob jobId now => exact rewritesAll_of_change (cancel_rewrites fun _ named => ⟨named, rfl⟩)
  | releaseExpiredLeases now => exact release_rewrites plane.jobs now
  | _ => exact .refl

variable {jobId : String} {job : Job}

theorem keeps_of_rewritten {allowed : JobRecord → JobRecord → Prop} (rewrites : RewritesAll allowed store next)
    (kept : JobRecord → Prop) (step : ∀ old new, allowed old new → kept old → kept new)
    (stored : store.byId.get? jobId = some job) (holds : kept job.record) :
    ∃ later, next.byId.get? jobId = some later ∧ kept later.record := by
  induction rewrites with
  | refl => exact ⟨job, stored, holds⟩
  | tail _ last ih =>
    obtain ⟨middle, found, before⟩ := ih
    obtain ⟨later, foundLater, rfl | change⟩ := last.get? found
    · exact ⟨later, foundLater, before⟩
    · exact ⟨later, foundLater, step _ _ change before⟩

theorem sound_of_command (primitives : Primitives) (unsaving : Unsaving command) {plane : Plane}
    (sound : StoreSound plane.jobs) : StoreSound (planeStores primitives command plane).2.jobs :=
  (Grows.of_rewrites (jobs_rewritten primitives unsaving plane) fun _ _ move => move.jobMove).sound sound

theorem save_accepted (sound : StoreSound store) {old new : Job} (stored : store.byId.get? new.record.jobId = some old)
    (same : SameIdentity old.record new.record) {context : JobExecutionContext}
    (tenant : new.record.executionContext = some context) : store.save new = (.ok (), store.put new) := by
  unfold JobStore.save
  split
  · rename_i existing found
    have matched := List.find?_some found
    obtain ⟨existingId, existingStored⟩ :=
      (Dict.mem_values_iff store.byId existing).mp (List.mem_of_find?_eq_some found)
    simp only [tenant, Option.map_some, inTenant, Option.all_some, Bool.and_eq_true,
      decide_eq_true_eq, Option.any_eq_true] at matched
    obtain ⟨⟨sameType, sameKey⟩, ⟨held, own, organization⟩, other, ownToo, project⟩ := matched
    rw [own] at ownToo
    cases ownToo
    -- The job found under the key stands in the slot of the stored one, so it is that one.
    have sameSlot : slot existing.record = slot old.record := by
      rw [← same.slot_eq]
      simp [slot, own, tenant, organization, project, sameType, sameKey]
    have sameId := sound.unique existingStored stored sameSlot
    rw [sameId, stored] at existingStored
    cases existingStored
    rw [if_neg]
    rw [← same.jobId, ← same.inputHash]
    simp
  · rfl

theorem cancel_accepted (sound : StoreSound store) (stored : store.byId.get? jobId = some job)
    {context : JobExecutionContext} (tenant : job.record.executionContext = some context) (now : Instant) :
    ∃ new : Job, new.record = JobStore.cancelled now job.record ∧
      store.cancel jobId now = (.ok (), store.put new) := by
  have found : store.findById jobId none none = some job := by
    simp [findById, stored, inTenant]
  have valid : (JobStore.cancelled now job.record).violation = none := job.valid
  have created : job.replace (JobStore.cancelled now) = .ok ⟨JobStore.cancelled now job.record, valid⟩ :=
    Checked.create_eq_ok_iff.mpr rfl
  refine ⟨⟨JobStore.cancelled now job.record, valid⟩, rfl, ?_⟩
  unfold cancel saveReplaced
  rw [found]
  dsimp only
  rw [created]
  have move : JobMove job.record (JobStore.cancelled now job.record) := .cancel now
  refine save_accepted sound ?_ move.sameIdentity tenant
  change store.byId.get? job.record.jobId = some job
  rw [store.keyed stored]
  exact stored

/-- The calls with which a worker reports how a job went. -/
def Reports (target : String) : PlaneCommand → Prop
  | .markSucceeded jobId _ _ | .markFailed jobId _ _ | .cancelJob jobId _ => jobId = target
  | _ => False

variable {raised : Raised}

theorem saveReplaced_raised {change : JobRecord → JobRecord}
    (outcome : store.saveReplaced job change = (.error raised, next)) : next = store := by
  rcases saveReplaced_cases store job change with ⟨other, refused⟩ | ⟨new, -, written⟩
  · rw [refused] at outcome
    cases outcome
    rfl
  · rw [written] at outcome
    cases outcome

theorem finish_raised {change : JobRecord → JobRecord} (outcome : store.finish jobId change = (.error raised, next)) :
    next = store := by
  unfold finish at outcome
  split at outcome
  · cases outcome
  · split at outcome
    · cases outcome
    · exact saveReplaced_raised outcome

theorem report_raised (primitives : Primitives) {target : String} (reports : Reports target command)
    {plane after : Plane} (outcome : planeStores primitives command plane = (.error raised, after)) :
    after.jobs = plane.jobs := by
  have jobs : ∀ {result : Except Raised Unit × JobStore}, result.1 = .error raised → after.jobs = result.2 →
      (∀ next, result = (.error raised, next) → next = plane.jobs) → after.jobs = plane.jobs := by
    intro result failed same unchanged
    rw [same]
    exact unchanged result.2 (Prod.ext failed rfl)
  cases command with
  | markSucceeded jobId resultRef now =>
    exact jobs (congrArg Prod.fst outcome) (congrArg (fun pair => pair.2.jobs) outcome).symm
      fun _ => finish_raised
  | markFailed jobId failureReason now =>
    exact jobs (congrArg Prod.fst outcome) (congrArg (fun pair => pair.2.jobs) outcome).symm
      fun _ => finish_raised
  | cancelJob jobId now =>
    refine jobs (congrArg Prod.fst outcome) (congrArg (fun pair => pair.2.jobs) outcome).symm
      fun next cancelled => ?_
    unfold cancel at cancelled
    split at cancelled
    · cases cancelled
    · exact saveReplaced_raised cancelled
  | _ => exact reports.elim

end AiGovernance.Jobs
