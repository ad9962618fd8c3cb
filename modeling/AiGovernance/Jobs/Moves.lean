import AiGovernance.Services.Jobs
import Mathlib.Logic.Relation

/-!
# What the job repository does to a job

Every method of the store either leaves a job, or replaces it by one of seven
changed copies. `JobMove` lists them with their guards; `Rewrites` is one
replacement in a store. The properties of jobs are proved once per move and
carried along every method from here.
-/

namespace AiGovernance.Jobs

open AiGovernance.Std Domain Repositories JobStore
open Semantics Services

/-- The changes of a stored job. -/
inductive JobMove (old : JobRecord) : JobRecord → Prop where
  | claim (workerId : String) (leaseSeconds : Int) (now : Instant) (queued : old.status = .queued) :
      JobMove old (JobStore.acquired workerId leaseSeconds now old)
  | extend (workerId : String) (leaseSeconds : Int) (now : Instant) (running : old.status = .running)
      (leased : old.leasedBy = some workerId) : JobMove old (JobStore.extended leaseSeconds now old)
  | succeed (resultRef : String) (now : Instant) (alive : old.status ≠ .cancelled) :
      JobMove old (JobStore.succeeded resultRef now old)
  | fail (failureReason : String) (now : Instant) (alive : old.status ≠ .cancelled) :
      JobMove old (JobStore.failed failureReason now old)
  | cancel (now : Instant) : JobMove old (JobStore.cancelled now old)
  | release (now : Instant) (expired : JobStore.isExpired now old = true) :
      JobMove old (JobStore.released now old)
  | retry (now : Instant) (ended : old.status = .failed) (left : old.attemptCount < old.maxAttempts) :
      JobMove old (retried now old)

/-- The part of a job that never changes. -/
structure SameIdentity (old new : JobRecord) : Prop where
  jobId : new.jobId = old.jobId
  jobType : new.jobType = old.jobType
  idempotencyKey : new.idempotencyKey = old.idempotencyKey
  inputHash : new.inputHash = old.inputHash
  inputRefs : new.inputRefs = old.inputRefs
  maxAttempts : new.maxAttempts = old.maxAttempts
  executionContext : new.executionContext = old.executionContext

theorem SameIdentity.refl (record : JobRecord) : SameIdentity record record :=
  ⟨rfl, rfl, rfl, rfl, rfl, rfl, rfl⟩

theorem SameIdentity.trans {first second third : JobRecord} (left : SameIdentity first second)
    (right : SameIdentity second third) : SameIdentity first third :=
  ⟨right.jobId.trans left.jobId, right.jobType.trans left.jobType,
    right.idempotencyKey.trans left.idempotencyKey, right.inputHash.trans left.inputHash,
    right.inputRefs.trans left.inputRefs, right.maxAttempts.trans left.maxAttempts,
    right.executionContext.trans left.executionContext⟩

theorem JobMove.sameIdentity {old new : JobRecord} (move : JobMove old new) : SameIdentity old new := by
  cases move with
  | release now expired =>
    unfold released
    split <;> exact ⟨rfl, rfl, rfl, rfl, rfl, rfl, rfl⟩
  | _ => exact ⟨rfl, rfl, rfl, rfl, rfl, rfl, rfl⟩

/-- One replacement of a stored job by an allowed change. -/
def Rewrites (allowed : JobRecord → JobRecord → Prop) (store next : JobStore) : Prop :=
  ∃ old new : Job, store.byId.get? new.record.jobId = some old ∧ allowed old.record new.record ∧
    next = store.put new

/-- Any number of replacements. -/
abbrev RewritesAll (allowed : JobRecord → JobRecord → Prop) : JobStore → JobStore → Prop :=
  Relation.ReflTransGen (Rewrites allowed)

variable {store : JobStore} {allowed : JobRecord → JobRecord → Prop}

theorem Rewrites.mono {wider : JobRecord → JobRecord → Prop} {next : JobStore} (rewrites : Rewrites allowed store next)
    (implies : ∀ old new, allowed old new → wider old new) : Rewrites wider store next := by
  obtain ⟨old, new, found, change, rfl⟩ := rewrites
  exact ⟨old, new, found, implies _ _ change, rfl⟩

/-! ## Saving a changed copy -/

theorem save_cases (store : JobStore) (job : Job) :
    store.save job = (.error reusedKey, store) ∨ store.save job = (.ok (), store.put job) := by
  unfold save
  split
  · split
    · exact Or.inl rfl
    · exact Or.inr rfl
  · exact Or.inr rfl

theorem saveReplaced_cases (store : JobStore) (job : Job) (change : JobRecord → JobRecord) :
    (∃ raised, store.saveReplaced job change = (.error raised, store)) ∨
      ∃ new : Job, new.record = change job.record ∧
        store.saveReplaced job change = (.ok (), store.put new) := by
  unfold saveReplaced Job.replace
  cases created : (Checked.create (change job.record) : Except Raised Job) with
  | error raised => exact Or.inl ⟨raised, rfl⟩
  | ok new =>
    rcases save_cases store new with refused | written
    · exact Or.inl ⟨_, refused⟩
    · exact Or.inr ⟨new, Checked.create_eq_ok_iff.mp created, written⟩

variable {job : Job}

theorem saveReplaced_rewrites {change : JobRecord → JobRecord} (stored : store.byId.get? job.record.jobId = some job)
    (sameId : (change job.record).jobId = job.record.jobId) (permitted : allowed job.record (change job.record)) :
    (store.saveReplaced job change).2 = store ∨
      Rewrites allowed store (store.saveReplaced job change).2 := by
  rcases saveReplaced_cases store job change with ⟨raised, refused⟩ | ⟨new, record, written⟩
  · exact Or.inl (by rw [refused])
  · refine Or.inr ⟨job, new, ?_, ?_, by rw [written]⟩
    · rw [record, sameId]
      exact stored
    · rw [record]
      exact permitted

variable {jobId : String}

theorem findById_stored {organizationId projectId : Option String}
    (found : store.findById jobId organizationId projectId = some job) :
    store.byId.get? job.record.jobId = some job ∧ job.record.jobId = jobId := by
  have stored := (Option.filter_eq_some_iff.mp found).1
  have keyed := store.keyed stored
  exact ⟨keyed ▸ stored, keyed⟩

/-! ## The methods -/

/-- The status tests of a listing hold of what it lists. -/
theorem mem_listByStatus {status : JobStatus} (member : job ∈ store.listByStatus status) :
    job.record.status = status ∧ store.byId.get? job.record.jobId = some job := by
  have listed := List.mem_of_mem_take member
  obtain ⟨sorted, tests⟩ := List.mem_filter.mp listed
  rw [List.mem_insertionSort] at sorted
  obtain ⟨jobId, stored⟩ := (Dict.mem_values_iff store.byId job).mp sorted
  refine ⟨by simpa using (Bool.and_eq_true_iff.mp (Bool.and_eq_true_iff.mp
    (Bool.and_eq_true_iff.mp tests).1).1).1, ?_⟩
  rw [store.keyed stored]
  exact stored

theorem nextQueued_stored {primitives : Primitives} {filter : ClaimFilter}
    (next : nextQueued primitives store filter = some job) :
    job.record.status = .queued ∧ store.byId.get? job.record.jobId = some job :=
  mem_listByStatus (List.mem_filter.mp (List.mem_of_head? next)).1

/-- What a claim does: nothing, or it takes one queued job and returns it. -/
theorem acquire_cases (primitives : Primitives) (store : JobStore) (workerId : String)
    (leaseSeconds : Int) (filter : ClaimFilter) (now : Instant) :
    ((∀ job, (store.acquireNextQueuedJob primitives workerId leaseSeconds filter now).1 ≠ .ok (some job)) ∧
        (store.acquireNextQueuedJob primitives workerId leaseSeconds filter now).2 = store) ∨
      ∃ old new : Job, nextQueued primitives store filter = some old ∧
        new.record = acquired workerId leaseSeconds now old.record ∧
        store.acquireNextQueuedJob primitives workerId leaseSeconds filter now =
          (.ok (some new), store.put new) := by
  unfold acquireNextQueuedJob
  cases next : nextQueued primitives store filter with
  | none => exact Or.inl ⟨by simp, rfl⟩
  | some job =>
    simp only
    cases created : job.replace (acquired workerId leaseSeconds now) with
    | error raised => exact Or.inl ⟨by simp, rfl⟩
    | ok claimed =>
      simp only
      rcases save_cases store claimed with refused | written
      · rw [refused]
        exact Or.inl ⟨by simp, rfl⟩
      · rw [written]
        exact Or.inr ⟨job, claimed, rfl, Checked.create_eq_ok_iff.mp created, rfl⟩

theorem acquire_rewrites (primitives : Primitives) (workerId : String) (leaseSeconds : Int) (filter : ClaimFilter)
    (now : Instant) :
    (store.acquireNextQueuedJob primitives workerId leaseSeconds filter now).2 = store ∨
      Rewrites JobMove store (store.acquireNextQueuedJob primitives workerId leaseSeconds filter now).2 := by
  rcases acquire_cases primitives store workerId leaseSeconds filter now with
    ⟨-, same⟩ | ⟨old, new, next, record, outcome⟩
  · exact Or.inl same
  · obtain ⟨queued, stored⟩ := nextQueued_stored next
    refine Or.inr ⟨old, new, ?_, ?_, by rw [outcome]⟩
    · rw [record]
      exact stored
    · rw [record]
      exact JobMove.claim workerId leaseSeconds now queued

theorem heartbeat_rewrites (workerId : String) (leaseSeconds : Int) (now : Instant) :
    (store.heartbeat jobId workerId leaseSeconds now).2 = store ∨
      Rewrites JobMove store (store.heartbeat jobId workerId leaseSeconds now).2 := by
  unfold heartbeat
  split
  · exact Or.inl rfl
  · rename_i job found
    split
    · exact Or.inl rfl
    · rename_i held
      push Not at held
      exact saveReplaced_rewrites (findById_stored found).1 rfl
        (JobMove.extend workerId leaseSeconds now held.1 held.2)

theorem finish_rewrites {change : JobRecord → JobRecord} (sameId : ∀ record, (change record).jobId = record.jobId)
    (permitted : ∀ record, record.jobId = jobId → record.status ≠ .cancelled → allowed record (change record)) :
    (store.finish jobId change).2 = store ∨ Rewrites allowed store (store.finish jobId change).2 := by
  unfold finish
  split
  · exact Or.inl rfl
  · rename_i job found
    split
    · exact Or.inl rfl
    · rename_i alive
      obtain ⟨stored, identity⟩ := findById_stored found
      exact saveReplaced_rewrites stored (sameId _) (permitted _ identity alive)

theorem cancel_rewrites {now : Instant}
    (permitted : ∀ record, record.jobId = jobId → allowed record (cancelled now record)) :
    (store.cancel jobId now).2 = store ∨ Rewrites allowed store (store.cancel jobId now).2 := by
  unfold JobStore.cancel
  split
  · exact Or.inl rfl
  · rename_i job found
    obtain ⟨stored, identity⟩ := findById_stored found
    exact saveReplaced_rewrites stored rfl (permitted _ identity)

theorem releaseEach_rewrites (now : Instant) {jobs : List Job} (distinct : (jobs.map (·.record.jobId)).Nodup)
    (stored : ∀ job ∈ jobs, store.byId.get? job.record.jobId = some job) :
    RewritesAll (fun old new => isExpired now old = true ∧ new = released now old)
      store (releaseEach now jobs store).2 := by
  induction jobs generalizing store with
  | nil => exact .refl
  | cons job rest ih =>
    rw [List.map_cons, List.nodup_cons] at distinct
    unfold releaseEach
    have here := stored job (List.mem_cons_self ..)
    split
    · rename_i expired
      have sameId : (released now job.record).jobId = job.record.jobId := by
        unfold released
        split <;> rfl
      rcases saveReplaced_cases store job (released now) with
        ⟨raised, refused⟩ | ⟨new, record, written⟩
      · rw [refused]
      · rw [written]
        refine .head ⟨job, new, ?_, ⟨expired, record⟩, rfl⟩ (ih distinct.2 ?_)
        · rw [record, sameId]
          exact here
        · intro other member
          rw [get?_put, if_neg]
          · exact stored other (List.mem_cons_of_mem _ member)
          · rw [record, sameId]
            intro same
            exact distinct.1 (same ▸ List.mem_map_of_mem member)
    · exact ih distinct.2 fun other member =>
        stored other (List.mem_cons_of_mem _ member)

theorem release_rewrites (store : JobStore) (now : Instant) :
    RewritesAll (fun old new => isExpired now old = true ∧ new = released now old)
      store (store.releaseExpiredLeases now).2 := by
  have filed : ∀ entry ∈ store.byId.entries, entry.2.record.jobId = entry.1 := fun entry member =>
    store.keyed (Dict.get?_of_mem member)
  have keys : store.byId.values.map (·.record.jobId) = store.byId.entries.map Prod.fst := by
    rw [Dict.values, List.map_map]
    exact List.map_congr_left filed
  refine releaseEach_rewrites now (keys ▸ store.byId.nodup) ?_
  intro job member
  obtain ⟨jobId, stored⟩ := (Dict.mem_values_iff store.byId job).mp member
  rw [store.keyed stored]
  exact stored

end AiGovernance.Jobs
