import AiGovernance.Services.RuntimeAggregation
import AiGovernance.Std.Ranking
import Mathlib.Data.Prod.Lex

/-!
# Which executions the metrics of a window read

Baseline and observation share an instant, and both periods are read with their
endpoints. An execution created at the end of a period is read for it unless
ten thousand earlier ones were read before; so the two periods divide the
executions exactly where no execution is created at an end of a period, or the
limit leaves it out.
-/

namespace AiGovernance.Findings

open AiGovernance.Std Domain Repositories Services Ranking List

variable {stores : Stores} {scope : Scope} {start stop : Instant} {execution : AgentExecution}

/-! ## A period -/

/-- The executions a tenant sees. -/
def visibleExecutions (stores : Stores) (scope : Scope) : List AgentExecution :=
  stores.executions.byId.values.filter fun execution =>
    scope.sees execution.record.organizationId execution.record.projectId

/-- The key executions are listed by. -/
def listKey (execution : AgentExecution) : Nat ×ₗ String :=
  toLex (execution.record.createdAt.micros, execution.record.executionId)

/-- The executions created before the end of a period, but not before its start. -/
def within (stores : Stores) (scope : Scope) (start stop : Instant) : List AgentExecution :=
  Ranking.ascending listKey ((visibleExecutions stores scope).filter fun execution =>
    start ≤ execution.record.createdAt && execution.record.createdAt < stop)

/-- The executions created at an instant. -/
def createdAt (stores : Stores) (scope : Scope) (instant : Instant) : List AgentExecution :=
  Ranking.ascending listKey ((visibleExecutions stores scope).filter fun execution =>
    execution.record.createdAt = instant)

theorem mem_within : execution ∈ within stores scope start stop ↔
    execution ∈ visibleExecutions stores scope ∧ start ≤ execution.record.createdAt ∧
      execution.record.createdAt < stop := by
  unfold within
  rw [mem_ascending, mem_filter, Bool.and_eq_true, decide_eq_true_eq, decide_eq_true_eq]

theorem mem_createdAt {instant : Instant} : execution ∈ createdAt stores scope instant ↔
    execution ∈ visibleExecutions stores scope ∧ execution.record.createdAt = instant := by
  unfold createdAt
  rw [mem_ascending, mem_filter, decide_eq_true_eq]

theorem distinct_listKey (keep : AgentExecution → Bool) :
    (((visibleExecutions stores scope).filter keep).map listKey).Nodup := by
  apply List.Nodup.of_map fun key : Nat ×ₗ String => (ofLex key).2
  rw [map_map]
  have keys : stores.executions.byId.values.map (·.record.executionId) =
      stores.executions.byId.entries.map Prod.fst := by
    unfold Dict.values
    rw [map_map]
    exact map_congr_left fun entry member => stores.executions.keyed (Dict.get?_of_mem member)
  have ids : (stores.executions.byId.values.map (·.record.executionId)).Nodup := keys ▸ stores.executions.byId.nodup
  exact ids.sublist ((filter_sublist.trans filter_sublist).map _)

theorem insertionSort_listedBefore (executions : List AgentExecution) :
    executions.insertionSort ExecutionStore.listedBefore = ascending listKey executions := by
  have same : ExecutionStore.listedBefore = fun left right => listKey left ≤ listKey right := by
    funext left right
    apply propext
    unfold ExecutionStore.listedBefore listKey
    rw [Prod.Lex.toLex_le_toLex, Instant.lt_def]
    have equal : left.record.createdAt = right.record.createdAt ↔
        left.record.createdAt.micros = right.record.createdAt.micros :=
      ⟨congrArg Instant.micros, fun micros => congrArg Instant.mk micros⟩
    rw [equal]
  unfold ascending
  congr!

theorem nodup_within : (within stores scope start stop).Nodup :=
  perm_ascending.nodup_iff.mpr (List.Nodup.of_map _ (distinct_listKey _))

theorem nodup_createdAt {instant : Instant} : (createdAt stores scope instant).Nodup :=
  perm_ascending.nodup_iff.mpr (List.Nodup.of_map _ (distinct_listKey _))

theorem listKey_lt {left right : AgentExecution} (earlier : left.record.createdAt < right.record.createdAt) :
    listKey left < listKey right :=
  Prod.Lex.toLex_lt_toLex.mpr (Or.inl earlier)

/-- A period is read up to the limit, the executions created at its end last. -/
theorem executionsBetween_eq (ordered : start ≤ stop) : executionsBetween stores scope start stop =
    (within stores scope start stop ++ createdAt stores scope stop).take 10000 := by
  have closed : (stores.executions.byId.values.filter fun execution =>
      scope.sees execution.record.organizationId execution.record.projectId &&
        ExecutionStore.passes { createdAfter := some start, createdBefore := some stop, limit := 10000 } execution) =
      (visibleExecutions stores scope).filter fun execution =>
        start ≤ execution.record.createdAt && execution.record.createdAt ≤ stop := by
    unfold visibleExecutions
    rw [filter_filter]
    apply filter_congr
    intro execution _
    have after : (!decide (execution.record.createdAt < start)) = decide (start ≤ execution.record.createdAt) := by
      rw [← decide_not]
      exact decide_eq_decide.mpr Nat.not_lt
    have before : (!decide (stop < execution.record.createdAt)) = decide (execution.record.createdAt ≤ stop) := by
      rw [← decide_not]
      exact decide_eq_decide.mpr Nat.not_lt
    simp only [ExecutionStore.passes, Option.all_none, Option.all_some, Bool.true_and, decide_not, after, before]
    exact Bool.and_comm _ _
  have sorted : within stores scope start stop ++ createdAt stores scope stop =
      ascending listKey ((visibleExecutions stores scope).filter fun execution =>
        start ≤ execution.record.createdAt && execution.record.createdAt ≤ stop) := by
    have apart : ∀ left ∈ within stores scope start stop, ∀ right ∈ createdAt stores scope stop,
        listKey left < listKey right := by
      intro left early right late
      apply listKey_lt
      rw [(mem_createdAt.mp late).2]
      exact (mem_within.mp early).2.2
    apply eq_ascending
    · rw [perm_ext_iff_of_nodup]
      · intro execution
        rw [mem_append, mem_within, mem_createdAt, mem_filter, Bool.and_eq_true, decide_eq_true_eq,
          decide_eq_true_eq, ← and_or_left]
        apply and_congr_right
        intro _
        have equal : execution.record.createdAt = stop ↔ execution.record.createdAt.micros = stop.micros :=
          ⟨congrArg Instant.micros, fun micros => congrArg Instant.mk micros⟩
        rw [Instant.le_def] at ordered
        rw [equal, Instant.le_def, Instant.lt_def, Instant.le_def]
        omega
      · rw [nodup_append]
        refine ⟨nodup_within, nodup_createdAt, ?_⟩
        intro left early right late same
        exact absurd (apart left early right late) (same ▸ lt_irrefl _)
      · exact List.Nodup.of_map _ (distinct_listKey _)
    · rw [pairwise_append]
      exact ⟨strict_ascending (distinct_listKey _), strict_ascending (distinct_listKey _), apart⟩
  unfold executionsBetween ExecutionStore.list
  rw [closed, insertionSort_listedBefore, sorted]

theorem bounds_of_read (ordered : start ≤ stop) (read : execution ∈ executionsBetween stores scope start stop) :
    start ≤ execution.record.createdAt ∧ execution.record.createdAt ≤ stop := by
  rw [executionsBetween_eq ordered] at read
  rcases mem_append.mp (mem_of_mem_take read) with early | late
  · obtain ⟨-, after, before⟩ := mem_within.mp early
    exact ⟨after, Nat.le_of_lt before⟩
  · rw [(mem_createdAt.mp late).2]
    exact ⟨ordered, Nat.le_refl _⟩

/-- A period begins with the executions created at its start. -/
theorem within_eq_append (ordered : start < stop) :
    ∃ later, within stores scope start stop = createdAt stores scope start ++ later := by
  refine ⟨ascending listKey ((visibleExecutions stores scope).filter fun execution =>
    start < execution.record.createdAt && execution.record.createdAt < stop), ?_⟩
  symm
  have apart : ∀ left ∈ createdAt stores scope start, ∀ right ∈ ascending listKey
      ((visibleExecutions stores scope).filter fun execution =>
        start < execution.record.createdAt && execution.record.createdAt < stop), listKey left < listKey right := by
    intro left first right later
    apply listKey_lt
    rw [(mem_createdAt.mp first).2]
    rw [mem_ascending, mem_filter, Bool.and_eq_true, decide_eq_true_eq] at later
    exact later.2.1
  apply eq_ascending
  · rw [perm_ext_iff_of_nodup]
    · intro execution
      rw [mem_append, mem_createdAt, mem_ascending, mem_filter, mem_filter, Bool.and_eq_true,
        Bool.and_eq_true, decide_eq_true_eq, decide_eq_true_eq, decide_eq_true_eq, ← and_or_left]
      apply and_congr_right
      intro _
      have equal : execution.record.createdAt = start ↔ execution.record.createdAt.micros = start.micros :=
        ⟨congrArg Instant.micros, fun micros => congrArg Instant.mk micros⟩
      rw [Instant.lt_def] at ordered
      rw [equal, Instant.lt_def, Instant.lt_def, Instant.le_def]
      omega
    · rw [nodup_append]
      refine ⟨nodup_createdAt, perm_ascending.nodup_iff.mpr (List.Nodup.of_map _ (distinct_listKey _)), ?_⟩
      intro left first right later same
      exact absurd (apart left first right later) (same ▸ lt_irrefl _)
    · exact List.Nodup.of_map _ (distinct_listKey _)
  · rw [pairwise_append]
    exact ⟨strict_ascending (distinct_listKey _), strict_ascending (distinct_listKey _), apart⟩

/-! ## Two periods -/

/-- The limit does not cut into a period, and leaves out what is created at its end, if anything is. -/
def Sharp (stores : Stores) (scope : Scope) (start stop : Instant) : Prop :=
  (within stores scope start stop).length ≤ 10000 ∧
    (createdAt stores scope stop = [] ∨ (within stores scope start stop).length = 10000)

instance (stores : Stores) (scope : Scope) (start stop : Instant) : Decidable (Sharp stores scope start stop) :=
  inferInstanceAs (Decidable (_ ∧ _))

theorem Sharp.read_iff (sharp : Sharp stores scope start stop) (ordered : start ≤ stop) :
    execution ∈ executionsBetween stores scope start stop ↔ execution ∈ within stores scope start stop := by
  obtain ⟨fits, last⟩ := sharp
  have cut : (createdAt stores scope stop).take (10000 - (within stores scope start stop).length) = [] := by
    rw [take_eq_nil_iff]
    rcases last with nothing | full
    · exact Or.inr nothing
    · exact Or.inl (by omega)
  rw [executionsBetween_eq ordered, take_append, cut, append_nil, take_of_length_le fits]

/-- A period is sharp when all of it is read, and nothing that is created at its end. -/
theorem sharp_of_reads (ordered : start ≤ stop)
    (all : ∀ execution ∈ within stores scope start stop, execution ∈ executionsBetween stores scope start stop)
    (first : ∀ execution ∈ (createdAt stores scope stop).head?,
      execution ∉ executionsBetween stores scope start stop) : Sharp stores scope start stop := by
  have fits : (within stores scope start stop).length ≤ 10000 := by
    have inside : (within stores scope start stop).Subperm (executionsBetween stores scope start stop) :=
      subperm_of_subset nodup_within all
    rw [executionsBetween_eq ordered] at inside
    exact inside.length_le.trans (length_take_le _ _)
  refine ⟨fits, ?_⟩
  by_contra both
  rw [not_or] at both
  obtain ⟨head, rest, shape⟩ := exists_cons_of_ne_nil both.1
  obtain ⟨more, room⟩ := Nat.exists_eq_add_of_lt (lt_of_le_of_ne fits both.2)
  refine first head (by rw [shape]; rfl) ?_
  have space : 10000 - (within stores scope start stop).length = more + 1 := by omega
  rw [executionsBetween_eq ordered, take_append, shape, space, take_succ_cons]
  exact mem_append_right _ mem_cons_self

/-- An execution counts for exactly one of two adjoining periods if it was created in them, and for neither otherwise. -/
def CountedOnce (stores : Stores) (scope : Scope) (baselineStart observedStart observedEnd : Instant)
    (execution : AgentExecution) : Prop :=
  (baselineStart ≤ execution.record.createdAt ∧ execution.record.createdAt < observedEnd →
    (execution ∈ executionsBetween stores scope baselineStart observedStart ∧
        execution ∉ executionsBetween stores scope observedStart observedEnd) ∨
      (execution ∉ executionsBetween stores scope baselineStart observedStart ∧
        execution ∈ executionsBetween stores scope observedStart observedEnd)) ∧
  (¬ (baselineStart ≤ execution.record.createdAt ∧ execution.record.createdAt < observedEnd) →
    execution ∉ executionsBetween stores scope baselineStart observedStart ∧
      execution ∉ executionsBetween stores scope observedStart observedEnd)

instance (stores : Stores) (scope : Scope) (baselineStart observedStart observedEnd : Instant)
    (execution : AgentExecution) : Decidable (CountedOnce stores scope baselineStart observedStart observedEnd execution) :=
  inferInstanceAs (Decidable (_ ∧ _))

/-- Every execution a tenant sees is counted once exactly when both periods are sharp. -/
theorem periods_divide_iff (stores : Stores) (scope : Scope) (baselineStart observedStart observedEnd : Instant)
    (baseline : baselineStart ≤ observedStart) (observed : observedStart ≤ observedEnd) :
    (∀ execution ∈ visibleExecutions stores scope,
        CountedOnce stores scope baselineStart observedStart observedEnd execution) ↔
      Sharp stores scope baselineStart observedStart ∧ Sharp stores scope observedStart observedEnd := by
  constructor
  · intro divides
    have sharp : Sharp stores scope baselineStart observedStart := by
      apply sharp_of_reads baseline
      · intro execution early
        obtain ⟨visible, after, before⟩ := mem_within.mp early
        have unobserved : execution ∉ executionsBetween stores scope observedStart observedEnd :=
          fun read => Nat.not_le.mpr before (bounds_of_read observed read).1
        have inside : execution.record.createdAt < observedEnd := Nat.lt_of_lt_of_le before observed
        rcases (divides execution visible).1 ⟨after, inside⟩ with ⟨read, -⟩ | ⟨-, read⟩
        · exact read
        · exact absurd read unobserved
      · intro execution first read
        obtain ⟨visible, created⟩ := mem_createdAt.mp (mem_of_mem_head? first)
        by_cases room : observedStart < observedEnd
        · -- The first execution created at the shared instant is read for both periods.
          have twice : execution ∈ executionsBetween stores scope observedStart observedEnd := by
            obtain ⟨later, shape⟩ : ∃ later, within stores scope observedStart observedEnd =
                createdAt stores scope observedStart ++ later := within_eq_append room
            rw [executionsBetween_eq observed, shape, eq_cons_of_mem_head? first, cons_append, cons_append,
              take_succ_cons]
            exact mem_cons_self
          have inside : baselineStart ≤ execution.record.createdAt ∧ execution.record.createdAt < observedEnd := by
            rw [created]
            exact ⟨baseline, room⟩
          rcases (divides execution visible).1 inside with ⟨-, unobserved⟩ | ⟨unread, -⟩
          · exact unobserved twice
          · exact unread read
        · have outside : ¬ (baselineStart ≤ execution.record.createdAt ∧ execution.record.createdAt < observedEnd) := by
            rw [created]
            exact fun inside => room inside.2
          exact ((divides execution visible).2 outside).1 read
    refine ⟨sharp, ?_⟩
    apply sharp_of_reads observed
    · intro execution early
      obtain ⟨visible, after, before⟩ := mem_within.mp early
      have unread : execution ∉ executionsBetween stores scope baselineStart observedStart := by
        rw [sharp.read_iff baseline, mem_within]
        exact fun read => Nat.not_lt.mpr after read.2.2
      have inside : baselineStart ≤ execution.record.createdAt := Nat.le_trans baseline after
      rcases (divides execution visible).1 ⟨inside, before⟩ with ⟨read, -⟩ | ⟨-, read⟩
      · exact absurd read unread
      · exact read
    · intro execution first read
      obtain ⟨visible, created⟩ := mem_createdAt.mp (mem_of_mem_head? first)
      have outside : ¬ (baselineStart ≤ execution.record.createdAt ∧ execution.record.createdAt < observedEnd) := by
        rw [created]
        exact fun inside => Nat.lt_irrefl _ inside.2
      exact ((divides execution visible).2 outside).2 read
  · rintro ⟨sharpBaseline, sharpObserved⟩ execution visible
    unfold CountedOnce
    rw [sharpBaseline.read_iff baseline, sharpObserved.read_iff observed, mem_within, mem_within]
    rw [Instant.le_def] at baseline observed
    simp only [Instant.le_def, Instant.lt_def, visible, true_and]
    omega

/-! ## One execution in two periods -/

private def executionCreated (instant : Instant) : AgentExecutionRecord where
  executionId := "execution"
  organizationId := "org"
  projectId := none
  agentId := "agent"
  agentName := "Agent"
  agentVersion := "1"
  externalExecutionId := "external"
  runtimeProvider := "runtime"
  status := .running
  startedAt := instant
  completedAt := none
  correlationId := none
  parentExecutionId := none
  createdAt := instant
  updatedAt := instant
  metadata := []
  version := 1

private def createdInside : Stores :=
  { Stores.empty with executions := ExecutionStore.empty.save ⟨executionCreated ⟨15⟩, by decide +kernel⟩ }

private def createdBetween : Stores :=
  { Stores.empty with executions := ExecutionStore.empty.save ⟨executionCreated ⟨10⟩, by decide +kernel⟩ }

/-- An execution created inside the observed period counts for that period. -/
theorem periods_divide_inside : visibleExecutions createdInside ⟨"org", none⟩ ≠ [] ∧
    ∀ execution ∈ visibleExecutions createdInside ⟨"org", none⟩,
      CountedOnce createdInside ⟨"org", none⟩ ⟨0⟩ ⟨10⟩ ⟨20⟩ execution :=
  ⟨by decide +kernel,
    (periods_divide_iff createdInside ⟨"org", none⟩ ⟨0⟩ ⟨10⟩ ⟨20⟩ (by decide) (by decide)).mpr (by decide +kernel)⟩

/-- An execution created at the instant the periods share counts for both. -/
theorem counted_twice : ¬ (∀ (stores : Stores) (scope : Scope) (baselineStart observedStart observedEnd : Instant),
    baselineStart ≤ observedStart → observedStart ≤ observedEnd → ∀ execution ∈ visibleExecutions stores scope,
      CountedOnce stores scope baselineStart observedStart observedEnd execution) := by
  intro divides
  have once := divides createdBetween ⟨"org", none⟩ ⟨0⟩ ⟨10⟩ ⟨20⟩ (by decide) (by decide)
    ⟨executionCreated ⟨10⟩, by decide +kernel⟩ (by decide +kernel)
  revert once
  decide +kernel

/-! ## Counts of adjoining periods -/

/-- The sums of metrics of the same kind. -/
def plus (left right : Metrics) : Metrics := left.zipWith (fun one other => (one.1, one.2 + other.2)) right

/-- The metrics that only count. -/
def counts : MetricsRequest → Bool
  | .tool _ _ | .agentExecution _ | .evaluation _ | .policyDenial _ => true
  | .latency _ | .error _ => false

variable {primitives : Primitives} {request : MetricsRequest} {left right : List AgentExecution}
  {first middle last : Instant}

/-- Counts of executions read one after another add up. -/
theorem metrics_append (counting : counts request = true) : request.metrics primitives stores scope (left ++ right) =
    plus (request.metrics primitives stores scope left) (request.metrics primitives stores scope right) := by
  cases request with
  | latency _ | error _ => cases counting
  | _ =>
    simp [MetricsRequest.metrics, computeToolMetrics, computeAgentExecutionMetrics, computeEvaluationMetrics,
      computePolicyDenialMetrics, evidenceAmong, plus]

/-- Counts do not depend on the order of what is read. -/
theorem metrics_perm (counting : counts request = true) (perm : left.Perm right) :
    request.metrics primitives stores scope left = request.metrics primitives stores scope right := by
  have events (type : EventType) (cutoff : Option Instant) :
      (evidenceAmong stores scope type left cutoff).Perm (evidenceAmong stores scope type right cutoff) :=
    perm.flatMap_right _
  cases request with
  | latency _ | error _ => cases counting
  | agentExecution agentId =>
    simp only [MetricsRequest.metrics, computeAgentExecutionMetrics, (perm.filter _).length_eq,
      ((perm.filter _).filter _).length_eq]
  | _ =>
    simp only [MetricsRequest.metrics, computeToolMetrics, computeEvaluationMetrics, computePolicyDenialMetrics,
      ((events _ _).filter _).length_eq, (((events _ _).filter _).filter _).length_eq, (events _ _).length_eq]

/-- Below the limit a period inside another is read whole. -/
theorem executionsBetween_inside (before : first ≤ start) (ordered : start ≤ stop) (after : stop ≤ last)
    (below : (executionsBetween stores scope first last).length < 10000) :
    executionsBetween stores scope start stop = within stores scope start stop ++ createdAt stores scope stop := by
  have whole : (within stores scope first last ++ createdAt stores scope last).length < 10000 := by
    rw [executionsBetween_eq (Nat.le_trans before (Nat.le_trans ordered after)), length_take] at below
    omega
  have inside : (within stores scope start stop ++ createdAt stores scope stop).Subperm
      (within stores scope first last ++ createdAt stores scope last) := by
    apply subperm_of_subset
    · rw [nodup_append]
      refine ⟨nodup_within, nodup_createdAt, ?_⟩
      intro left early right late same
      rw [same] at early
      exact Nat.lt_irrefl _ ((mem_createdAt.mp late).2 ▸ (mem_within.mp early).2.2)
    · intro execution member
      rw [mem_append, mem_within, mem_createdAt] at member ⊢
      have equal : execution.record.createdAt = last ↔ execution.record.createdAt.micros = last.micros :=
        ⟨congrArg Instant.micros, fun micros => congrArg Instant.mk micros⟩
      rw [Instant.le_def] at before ordered after
      rcases member with ⟨visible, later, earlier⟩ | ⟨visible, same⟩
      · simp only [visible, true_and, equal, Instant.le_def, Instant.lt_def] at later earlier ⊢
        omega
      · have micros := congrArg Instant.micros same
        simp only [visible, true_and, equal, Instant.le_def, Instant.lt_def]
        omega
  rw [executionsBetween_eq ordered, take_of_length_le (Nat.le_of_lt (Nat.lt_of_le_of_lt inside.length_le whole))]

/-- Two adjoining periods divide the executions before the end of the second. -/
theorem perm_within_append (earlier : first ≤ middle) (later : middle ≤ last) :
    (within stores scope first middle ++ within stores scope middle last).Perm (within stores scope first last) := by
  rw [perm_ext_iff_of_nodup _ nodup_within]
  · intro execution
    rw [Instant.le_def] at earlier later
    simp only [mem_append, mem_within, Instant.le_def, Instant.lt_def, ← and_or_left]
    apply and_congr_right
    intro _
    omega
  · rw [nodup_append]
    refine ⟨nodup_within, nodup_within, ?_⟩
    intro left early right late same
    rw [same] at early
    exact Nat.not_lt.mpr (mem_within.mp late).2.1 (mem_within.mp early).2.2

/-- Below the limit the counts of two adjoining periods are those of the whole, and once more those of the instant
they share. -/
theorem counts_adjoin (earlier : first ≤ middle) (later : middle ≤ last)
    (below : (executionsBetween stores scope first last).length < 10000) (counting : counts request = true) :
    let adjoining := getMetrics primitives stores scope request first middle middle last
    let whole := getMetrics primitives stores scope request first last middle middle
    plus adjoining.1 adjoining.2 = plus whole.1 whole.2 := by
  have nothing : within stores scope middle middle = [] := by
    rw [eq_nil_iff_forall_not_mem]
    exact fun execution member => Nat.not_lt.mpr (mem_within.mp member).2.1 (mem_within.mp member).2.2
  have reads : (executionsBetween stores scope first middle ++ executionsBetween stores scope middle last).Perm
      (executionsBetween stores scope first last ++ executionsBetween stores scope middle middle) := by
    rw [executionsBetween_inside (Nat.le_refl _) earlier later below,
      executionsBetween_inside earlier later (Nat.le_refl _) below,
      executionsBetween_inside (Nat.le_refl _) (Nat.le_trans earlier later) (Nat.le_refl _) below,
      executionsBetween_inside earlier (Nat.le_refl _) later below, nothing, nil_append, append_assoc, append_assoc]
    refine Perm.trans ?_ ((perm_within_append earlier later).append_right _)
    rw [append_assoc]
    refine Perm.append_left _ (perm_append_comm.trans ?_)
    rw [append_assoc]
  dsimp only [getMetrics]
  rw [← metrics_append counting, ← metrics_append counting]
  exact metrics_perm counting reads

/-- The execution created at the shared instant is counted for it once more. -/
theorem counts_adjoin_between :
    let adjoining := getMetrics (.tabulated [] [] Primitives.noTexts Primitives.noValues) createdBetween ⟨"org", none⟩
      (.agentExecution "agent") ⟨0⟩ ⟨10⟩ ⟨10⟩ ⟨20⟩
    plus adjoining.1 adjoining.2 = [("total_executions", 2), ("failures", 0)] := by
  refine (counts_adjoin ?_ ?_ ?_ rfl).trans ?_ <;> decide +kernel

end AiGovernance.Findings
