import AiGovernance.Repositories.SqliteJobs
import AiGovernance.Semantics.Pool

/-!
# Concurrent SQL statements on a job row

Any number of calls of `SQLiteJobRepository` in flight, interleaved statement by
statement. `cancel`, `heartbeat` and `release_expired_leases` read a job and write
the whole row back, so a row may have changed in between. `RowsKept` is what every
statement keeps as long as the two that write a live copy back still find the row
running: keys stay, a cancelled row stays cancelled, a finished one finished.
-/

namespace AiGovernance.Jobs

open AiGovernance.Std Domain Repositories Semantics
open JobPersistenceMapper SqliteJobRepository

/-! ## Rows after a statement -/

/-- What becomes of a row: it keeps its keys, and finishing or cancelling it is final. -/
structure RowKept (row later : JobRecord) : Prop where
  key : uniqueKey later = uniqueKey row
  cancelled : row.status = .cancelled → later.status = .cancelled
  finished : row.status.isFinished = true → later.status.isFinished = true

/-- Every row is kept. -/
def RowsKept (table next : JobTable) : Prop :=
  ∀ jobId row, table.find? jobId = some row → ∃ later, next.find? jobId = some later ∧ RowKept row later

theorem rowsKept_refl (table : JobTable) : RowsKept table table :=
  fun _ row found => ⟨row, found, rfl, id, id⟩

theorem rowsKept_trans {first second third : JobTable} (left : RowsKept first second)
    (right : RowsKept second third) : RowsKept first third := by
  intro jobId row found
  obtain ⟨middle, foundMiddle, kept⟩ := left jobId row found
  obtain ⟨last, foundLast, keptLast⟩ := right jobId middle foundMiddle
  exact ⟨last, foundLast, keptLast.key.trans kept.key, keptLast.cancelled ∘ kept.cancelled,
    keptLast.finished ∘ kept.finished⟩

/-- A row with these keys is in the table. -/
def Known (table : JobTable) (record : JobRecord) : Prop :=
  ∃ row, table.find? record.jobId = some row ∧ uniqueKey row = uniqueKey record

variable {table : JobTable}

theorem Known.later {next : JobTable} {record : JobRecord} (known : Known table record) (kept : RowsKept table next) :
    Known next record := by
  obtain ⟨row, found, key⟩ := known
  obtain ⟨later, foundLater, rowKept⟩ := kept _ row found
  exact ⟨later, foundLater, rowKept.key.trans key⟩

theorem known_of_mem {row : JobRecord} (member : row ∈ table.rows) : Known table row :=
  ⟨row, JobTable.find?_eq_some_iff.mpr ⟨member, rfl⟩, rfl⟩

/-- The condition under which a row is written whole: a live copy replaces a running row. -/
def WritesLive (table : JobTable) : JobStatement → Prop
  | .insertOrReplace row =>
    row.status ≠ .cancelled → ∀ stored, table.find? row.jobId = some stored → stored.status = .running
  | _ => True

theorem update_rowsKept (condition : JobRecord → Bool) (change : JobTable.Assignment)
    (final : ∀ row, condition row = true → row.status ≠ .cancelled ∧
      (row.status.isFinished = true → (change.assign row).status.isFinished = true)) :
    RowsKept table (table.update condition change).2 := by
  intro jobId row found
  rw [JobTable.find?_update, found]
  refine ⟨_, rfl, ?_⟩
  dsimp only
  split
  · rename_i holds
    obtain ⟨alive, finished⟩ := final row holds
    exact ⟨change.keepsKey row, fun cancelled => absurd cancelled alive, finished⟩
  · exact ⟨rfl, id, id⟩

theorem insertOrReplace_rowsKept {row : JobRecord} (known : Known table row)
    (live : WritesLive table (.insertOrReplace row)) : RowsKept table (table.insertOrReplace row) := by
  obtain ⟨stored, foundStored, key⟩ := known
  obtain ⟨storedIn, storedId⟩ := JobTable.find?_eq_some_iff.mp foundStored
  intro jobId old found
  obtain ⟨oldIn, oldId⟩ := JobTable.find?_eq_some_iff.mp found
  by_cases same : jobId = row.jobId
  · obtain rfl : old = stored := by
      rw [same, foundStored] at found
      exact (Option.some.inj found).symm
    refine ⟨row, JobTable.find?_eq_some_iff.mpr ⟨?_, same.symm⟩, key.symm, ?_, ?_⟩
    · exact List.mem_append_right _ (List.mem_singleton_self row)
    · intro cancelled
      by_contra alive
      rw [live alive old foundStored] at cancelled
      cases cancelled
    · intro finished
      by_cases alive : row.status = .cancelled
      · rw [alive]
        rfl
      · rw [live alive old foundStored] at finished
        cases finished
  · refine ⟨old, JobTable.find?_eq_some_iff.mpr ⟨?_, oldId⟩, rfl, id, id⟩
    refine List.mem_append_left _ (List.mem_filter.mpr ⟨oldIn, ?_⟩)
    simp only [decide_eq_true_eq]
    -- The stored copy has the keys of the row, and no other row shares them.
    rintro (sameId | sameKey)
    · exact same (oldId.symm.trans sameId)
    · have different : old ≠ stored := by
        rintro rfl
        exact same (oldId.symm.trans storedId)
      exact JobTable.not_clashes oldIn storedIn different (Or.inr (sameKey.trans key.symm))

/-! ## The methods -/

section Methods

variable (compact : Json → String)

/-- Interference that keeps the rows, while live copies replace running rows only. -/
def rowDiscipline : Discipline sqlJobs JobTable where
  handler := JobTable.execute compact
  admits table _ statement := WritesLive table statement
  rely := RowsKept
  refl := rowsKept_refl
  trans := rowsKept_trans

/-- A method keeps the rows at every statement. -/
abbrev KeepsRows {α : Type} (method : Method α) (log : CommandLog sqlJobs JobTable) (table : JobTable) : Prop :=
  (rowDiscipline compact).Upholds (fun _ _ _ => True) method log table

variable {compact}

variable {α : Type}

theorem keepsRows_pure (value : α) (log : CommandLog sqlJobs JobTable) :
    KeepsRows compact (pure value) log table := fun _ _ => trivial

variable {log : CommandLog sqlJobs JobTable} {table : JobTable} {jobId : String} {now : Instant}

/-- A statement that leaves the table alone, then what follows on its answer. -/
theorem keepsRows_select {statement : JobStatement} {next : statement.Answer → Method α}
    (reads : ∀ table, (JobTable.execute compact statement table).2 = table)
    (continues : ∀ later answer, RowsKept table later →
      (JobTable.execute compact statement later).1 = .ok answer →
      KeepsRows compact (next answer) (log ++ [(later, statement)]) later) :
    KeepsRows compact (sql statement >>= next) log table := by
  refine Discipline.upholds_call_bind ?_ ?_ ?_
  · intro later related _
    exact (reads later).symm ▸ rowsKept_refl later
  · intro later answer after related _ outcome
    have same : after = later := by
      rw [← reads later]
      exact (congrArg Prod.snd outcome).symm
    rw [same]
    exact continues later answer related (congrArg Prod.fst outcome)
  · exact fun _ _ _ _ _ _ _ _ => trivial

theorem keepsRows_ofExcept {β : Type} {result : Except Raised β} {next : β → Method α}
    (continues : ∀ value, result = .ok value → KeepsRows compact (next value) log table) :
    KeepsRows compact (Program.ofExcept result >>= next) log table :=
  Discipline.upholds_ofExcept_bind continues fun _ _ _ _ => trivial

theorem keepsRows_loaded {row : Option JobRecord} {next : Option Job → Method α}
    (continues : ∀ job : Option Job, job.map (·.record) = row → KeepsRows compact (next job) log table) :
    KeepsRows compact (loaded row >>= next) log table := by
  cases row with
  | none => exact continues none rfl
  | some row =>
    cases created : fromPersistenceRecord row with
    | error raised =>
      have raises : (loaded (some row) >>= next) = Program.raise raised := by
        simp only [loaded, created]
        rfl
      rw [raises]
      exact fun _ _ => trivial
    | ok job =>
      have returns : (loaded (some row) >>= next) = next (some job) := by
        simp only [loaded, created]
        rfl
      rw [returns]
      exact continues (some job) (congrArg some (Checked.create_eq_ok_iff.mp created))

/-- A writing statement that keeps the rows, then what follows. -/
theorem keepsRows_write {statement : JobStatement} {next : statement.Answer → Method α}
    (stays : ∀ later, RowsKept table later → WritesLive later statement →
      RowsKept later (JobTable.execute compact statement later).2)
    (continues : ∀ later log answer, KeepsRows compact (next answer) log later) :
    KeepsRows compact (sql statement >>= next) log table :=
  Discipline.upholds_call_bind stays (fun _ _ _ _ _ _ => continues _ _ _)
    (fun _ _ _ _ _ _ _ _ => trivial)

theorem keepsRows_findById {next : Option Job → Method α}
    (continues : ∀ later log job, (∀ found ∈ job, Known later found.record) →
      KeepsRows compact (next job) log later) : KeepsRows compact (findById jobId >>= next) log table := by
  refine (?_ : KeepsRows compact (sql (.selectById jobId) >>= fun row => loaded row >>= next) log table)
  refine keepsRows_select (fun _ => rfl) fun later row _ answered => keepsRows_loaded fun job record => ?_
  refine continues later _ job fun found inside => ?_
  obtain rfl := inside
  have stored : later.find? jobId = some found.record := (Except.ok.inj answered).trans record.symm
  exact known_of_mem (JobTable.find?_eq_some_iff.mp stored).1

theorem keepsRows_save {job : Job} (known : Known table job.record) : KeepsRows compact (save job) log table := by
  unfold save
  refine keepsRows_select (fun _ => rfl) fun later row related _ => keepsRows_loaded fun existing _ => ?_
  split
  · exact fun _ _ => trivial
  · intro final after live
    refine ⟨insertOrReplace_rowsKept ((known.later related).later after) live, ?_⟩
    exact Discipline.upholds_ofExcept fun _ _ => trivial

theorem keepsRows_saveReplaced {job : Job} {change : JobRecord → JobRecord} (known : Known table job.record)
    (sameKeys : ∀ record, (change record).jobId = record.jobId ∧ uniqueKey (change record) = uniqueKey record) :
    KeepsRows compact (saveReplaced job change) log table := by
  refine keepsRows_ofExcept fun next replaced => keepsRows_save ?_
  rw [Checked.create_eq_ok_iff.mp replaced]
  obtain ⟨row, found, key⟩ := known
  obtain ⟨sameId, sameKey⟩ := sameKeys job.record
  exact ⟨row, by rw [sameId]; exact found, key.trans sameKey.symm⟩

/-! ## Every method -/

theorem acquire_keepsRows (workerId : String) (leaseSeconds : Int) (filter : ClaimFilter) :
    KeepsRows compact (acquireNextQueuedJob workerId leaseSeconds filter now) log table := by
  refine keepsRows_select (fun _ => rfl) fun later row _ _ => ?_
  cases row with
  | none => exact keepsRows_pure _ _
  | some row =>
    refine keepsRows_ofExcept fun job _ => keepsRows_write ?_ ?_
    · intro later _ _
      refine update_rowsKept _ _ fun row queued => ?_
      simp only [Bool.and_eq_true, decide_eq_true_eq] at queued
      simp [queued.2, JobStatus.isFinished]
    · intro later log updated
      split
      · exact keepsRows_pure _ _
      · refine keepsRows_select (fun _ => rfl) fun later row _ _ => ?_
        cases row with
        | none => exact keepsRows_pure _ _
        | some row => exact keepsRows_ofExcept fun _ _ => keepsRows_pure _ _

theorem heartbeat_keepsRows (workerId : String) (leaseSeconds : Int) :
    KeepsRows compact (heartbeat jobId workerId leaseSeconds now) log table := by
  refine keepsRows_findById fun later log job known => ?_
  cases job with
  | none => exact keepsRows_pure _ _
  | some job =>
    dsimp only
    split
    · exact keepsRows_pure _ _
    · exact keepsRows_saveReplaced (known job rfl) fun _ => ⟨rfl, rfl⟩

theorem cancel_keepsRows : KeepsRows compact (cancel jobId now) log table := by
  refine keepsRows_findById fun later log job known => ?_
  cases job with
  | none => exact keepsRows_pure _ _
  | some job => exact keepsRows_saveReplaced (known job rfl) fun _ => ⟨rfl, rfl⟩

theorem markSucceeded_keepsRows (resultRef : String) :
    KeepsRows compact (markSucceeded jobId resultRef now) log table := by
  refine keepsRows_write ?_ fun _ _ _ => keepsRows_pure _ _
  intro later _ _
  refine update_rowsKept _ _ fun row alive => ?_
  simp only [Bool.and_eq_true, decide_eq_true_eq] at alive
  exact ⟨alive.2, fun _ => rfl⟩

theorem markFailed_keepsRows (failureReason : String) :
    KeepsRows compact (markFailed jobId failureReason now) log table := by
  refine keepsRows_write ?_ fun _ _ _ => keepsRows_pure _ _
  intro later _ _
  refine update_rowsKept _ _ fun row alive => ?_
  simp only [Bool.and_eq_true, decide_eq_true_eq] at alive
  exact ⟨alive.2, fun _ => rfl⟩

theorem releaseEach_keepsRows (jobs : List Job) (known : ∀ job ∈ jobs, Known table job.record) :
    KeepsRows compact (releaseEach now jobs) log table := by
  induction jobs generalizing log table with
  | nil => exact keepsRows_pure _ _
  | cons job rest ih =>
    have others : ∀ job ∈ rest, Known table job.record := fun other inside =>
      known other (List.mem_cons_of_mem _ inside)
    unfold releaseEach
    split
    · have saves : KeepsRows compact (saveReplaced job (JobStore.released now)) log table := by
        refine keepsRows_saveReplaced (known job List.mem_cons_self) fun record => ?_
        unfold JobStore.released
        split <;> exact ⟨rfl, rfl⟩
      refine Discipline.upholds_bind ((saves.related (rowsKept_refl table)).mono ?_)
      rintro log result later ⟨related, -⟩
      cases result with
      | error raised => trivial
      | ok saved =>
        refine Discipline.upholds_bind ((ih fun other inside =>
          (others other inside).later related).mono ?_)
        rintro log result final -
        cases result with
        | error raised => trivial
        | ok count => exact keepsRows_pure _ _
    · exact ih others

theorem mapM_fromPersistenceRecord {rows : List JobRecord} {jobs : List Job}
    (loaded : rows.mapM fromPersistenceRecord = .ok jobs) : jobs.map (·.record) = rows := by
  induction rows generalizing jobs with
  | nil =>
    cases loaded
    rfl
  | cons row rest ih =>
    rw [List.mapM_cons] at loaded
    cases first : fromPersistenceRecord row with
    | error raised =>
      rw [first] at loaded
      cases loaded
    | ok job =>
      rw [first] at loaded
      cases later : rest.mapM fromPersistenceRecord with
      | error raised =>
        rw [later] at loaded
        cases loaded
      | ok others =>
        rw [later] at loaded
        cases loaded
        rw [List.map_cons, ih later, Checked.create_eq_ok_iff.mp first]

theorem release_keepsRows : KeepsRows compact (releaseExpiredLeases now) log table := by
  refine keepsRows_select (fun _ => rfl) fun later rows _ answered => ?_
  refine keepsRows_ofExcept fun jobs loaded => releaseEach_keepsRows jobs fun job inside => ?_
  have listed : rows = later.selectByStatus .running 1000 := (Except.ok.inj answered).symm
  have member : job.record ∈ rows := by
    rw [← mapM_fromPersistenceRecord loaded]
    exact List.mem_map_of_mem inside
  rw [listed] at member
  have inTable := List.mem_of_mem_take member
  rw [List.mem_insertionSort] at inTable
  exact known_of_mem (List.mem_of_mem_filter inTable)

end Methods

/-! ## Every interleaving -/

/-- The calls that may be in flight. -/
inductive RepositoryCall where
  | acquireNextQueuedJob (workerId : String) (leaseSeconds : Int) (filter : ClaimFilter) (now : Instant)
  | heartbeat (jobId workerId : String) (leaseSeconds : Int) (now : Instant)
  | markSucceeded (jobId resultRef : String) (now : Instant)
  | markFailed (jobId failureReason : String) (now : Instant)
  | cancel (jobId : String) (now : Instant)
  | releaseExpiredLeases (now : Instant)

/-- The statements of a call; what it returns is dropped. -/
def RepositoryCall.body : RepositoryCall → Method Unit
  | acquireNextQueuedJob workerId leaseSeconds filter now => do
      let _ ← SqliteJobRepository.acquireNextQueuedJob workerId leaseSeconds filter now
      pure ()
  | heartbeat jobId workerId leaseSeconds now => SqliteJobRepository.heartbeat jobId workerId leaseSeconds now
  | markSucceeded jobId resultRef now => SqliteJobRepository.markSucceeded jobId resultRef now
  | markFailed jobId failureReason now => SqliteJobRepository.markFailed jobId failureReason now
  | cancel jobId now => SqliteJobRepository.cancel jobId now
  | releaseExpiredLeases now => do
      let _ ← SqliteJobRepository.releaseExpiredLeases now
      pure ()

/-- Any number of calls on one table, their statements in any order that is admitted. -/
def repositoryCalls (compact : Json → String)
    (admits : JobTable → JobStatement → Prop) : Pool sqlJobs JobTable RepositoryCall Unit where
  handler := JobTable.execute compact
  body := RepositoryCall.body
  offered _ := True
  environment _ _ := False
  admits table _ statement := admits table statement

/-- A cancelled row stays cancelled, and a succeeded one is not queued again. -/
def Absorbing (table next : JobTable) : Prop :=
  ∀ jobId row, table.find? jobId = some row →
    (row.status = .cancelled → (next.find? jobId).any (·.status = .cancelled) = true) ∧
      (row.status = .succeeded → (next.find? jobId).any (·.status ≠ .queued) = true)

theorem RowsKept.absorbing {next : JobTable} (kept : RowsKept table next) : Absorbing table next := by
  intro jobId row found
  obtain ⟨later, foundLater, rowKept⟩ := kept jobId row found
  rw [foundLater]
  constructor
  · intro cancelled
    simpa using rowKept.cancelled cancelled
  · intro succeeded
    have finished := rowKept.finished (by rw [succeeded]; rfl)
    have unqueued : later.status ≠ .queued := by
      intro queued
      rw [queued] at finished
      cases finished
    simpa using unqueued

theorem body_keepsRows (compact : Json → String) (call : RepositoryCall) (log : CommandLog sqlJobs JobTable) :
    KeepsRows compact call.body log table := by
  cases call with
  | acquireNextQueuedJob workerId leaseSeconds filter now =>
    refine Discipline.upholds_bind ((acquire_keepsRows workerId leaseSeconds filter).mono ?_)
    rintro log (raised | job) later -
    · trivial
    · exact keepsRows_pure _ _
  | heartbeat jobId workerId leaseSeconds now =>
    exact heartbeat_keepsRows workerId leaseSeconds
  | markSucceeded jobId resultRef now => exact markSucceeded_keepsRows resultRef
  | markFailed jobId failureReason now => exact markFailed_keepsRows failureReason
  | cancel jobId now => exact cancel_keepsRows
  | releaseExpiredLeases now =>
    refine Discipline.upholds_bind ((release_keepsRows).mono ?_)
    rintro log (raised | released) later -
    · trivial
    · exact keepsRows_pure _ _

/-- A run of the calls keeps the rows, and every call in flight goes on keeping them. -/
theorem repositoryCalls_keep {compact : Json → String}
    {start final : Config sqlJobs JobTable RepositoryCall Unit}
    (reaches : (repositoryCalls compact WritesLive).Reaches start final)
    (keeping : ∀ thread ∈ start.threads, KeepsRows compact thread.program thread.log start.state) :
    RowsKept start.state final.state ∧
      ∀ thread ∈ final.threads, KeepsRows compact thread.program thread.log final.state := by
  refine Pool.upholds_of_reaches (rowDiscipline compact) (fun _ _ _ _ => True) (fun _ => True)
    rfl rfl (fun _ _ => trivial) ?_ ?_ reaches trivial keeping
  · exact fun call table _ _ => body_keepsRows compact call []
  · exact fun impossible => impossible.elim

/-- While every live copy that is written back replaces a running row, cancellation and
success are absorbing between any two states of a run. -/
theorem cancellation_absorbing (compact : Json → String) {table : JobTable}
    {middle final : Config sqlJobs JobTable RepositoryCall Unit}
    (first : (repositoryCalls compact WritesLive).Reaches ⟨table, []⟩ middle)
    (second : (repositoryCalls compact WritesLive).Reaches middle final) :
    Absorbing middle.state final.state := by
  obtain ⟨-, keeping⟩ := repositoryCalls_keep first (by simp)
  exact RowsKept.absorbing (repositoryCalls_keep second keeping).1

/-! ## A heartbeat and a cancellation -/

/-- A running job of `worker-1`. -/
def runningRow : JobRecord :=
  { jobId := "job-1", jobType := .evaluation, status := .running, inputRefs := [], inputHash := "hash-1"
    idempotencyKey := "evaluate-1", submittedBy := "analyst-1", attemptCount := 1, maxAttempts := 3
    resultRef := none, failureReason := none, leasedBy := some "worker-1"
    leaseExpiresAt := some ⟨300000000⟩, heartbeatAt := some ⟨0⟩, createdAt := ⟨0⟩, updatedAt := ⟨0⟩
    startedAt := some ⟨0⟩, completedAt := none, executionContext := none }

/-- The table that holds it. -/
def runningTable : JobTable := ⟨[runningRow], .utc, List.pairwise_singleton _ _⟩

/-- The heartbeat of the job and its cancellation enter. -/
def beatAndCancel : List (Pool.Move RepositoryCall) :=
  [.enter (.heartbeat "job-1" "worker-1" 300 ⟨1000000⟩), .enter (.cancel "job-1" ⟨2000000⟩)]

/-- The samples extract no array or object. -/
def plainCompact : Json → String := fun _ => ""

/-- One after the other: the heartbeat extends the running row, the cancellation ends it. -/
theorem cancellation_absorbing_sequential :
    ∃ middle final, (repositoryCalls plainCompact WritesLive).Reaches ⟨runningTable, []⟩ middle ∧
      (repositoryCalls plainCompact WritesLive).Reaches middle final ∧
      (final.state.find? "job-1").any (·.status = .cancelled) = true ∧
      Absorbing middle.state final.state := by
  have beats : (repositoryCalls plainCompact WritesLive).Reaches ⟨runningTable, []⟩
      ((repositoryCalls plainCompact WritesLive).play (beatAndCancel ++ [.issue 0, .issue 0, .issue 0])
        ⟨runningTable, []⟩) := by
    refine Pool.reaches_play ⟨trivial, trivial, trivial, trivial, fun _ stored found => ?_, trivial⟩
    obtain rfl : stored = runningRow := (Option.some.inj found).symm
    rfl
  have cancels : (repositoryCalls plainCompact WritesLive).Reaches
      ((repositoryCalls plainCompact WritesLive).play (beatAndCancel ++ [.issue 0, .issue 0, .issue 0])
        ⟨runningTable, []⟩)
      ((repositoryCalls plainCompact WritesLive).play [.issue 1, .issue 1, .issue 1] _) :=
    Pool.reaches_play ⟨trivial, trivial, fun alive => absurd rfl alive, trivial⟩
  exact ⟨_, _, beats, cancels, by decide +kernel, cancellation_absorbing plainCompact beats cancels⟩

/-- The heartbeat reads the running job, the cancellation commits, and the heartbeat writes
its copy back: the cancelled row runs again. -/
theorem heartbeat_revives_cancelled :
    ∃ middle final, (repositoryCalls plainCompact fun _ _ => True).Reaches ⟨runningTable, []⟩ middle ∧
      (repositoryCalls plainCompact fun _ _ => True).Reaches middle final ∧
      ¬ Absorbing middle.state final.state := by
  have free : ∀ moves config, (repositoryCalls plainCompact fun _ _ => True).Legal moves config :=
    Pool.legal_of_free (fun _ => trivial) (fun _ _ _ => trivial)
  refine ⟨_, _, Pool.reaches_play (free (beatAndCancel ++ [.issue 0, .issue 1, .issue 1, .issue 1]) _),
    Pool.reaches_play (free [.issue 0, .issue 0] _), fun absorbing => ?_⟩
  have stays := (absorbing "job-1" (JobStore.cancelled ⟨2000000⟩ runningRow) (by decide +kernel)).1 rfl
  have revived : (((repositoryCalls plainCompact fun _ _ => True).play [.issue 0, .issue 0]
      ((repositoryCalls plainCompact fun _ _ => True).play
        (beatAndCancel ++ [.issue 0, .issue 1, .issue 1, .issue 1]) ⟨runningTable, []⟩)).state.find?
          "job-1").any (·.status = .cancelled) = false := by
    decide +kernel
  rw [revived] at stays
  cases stays

end AiGovernance.Jobs
