import AiGovernance.Semantics.Pool

/-!
# What a trace tells

The states of a run in the order of its commands. Where every command and the
environment take the store to a related state, each state is related to every
later one; the commands a program has logged are in the trace; and what a
program obeys is known of each of its commands in the trace, together with the
states of the commands it issued before.
-/

namespace AiGovernance.Semantics

open List

variable {I : Interface} {S Call α : Type}

namespace Pool

/-- The store that a command of a trace leaves. -/
def left (pool : Pool I S Call α) (entry : Call × S × I.Command) : S := (pool.handler entry.2.2 entry.2.1).2

/-- A relation that every command of a trace, and the environment, go along. -/
structure Along (pool : Pool I S Call α) (trace : List (Call × S × I.Command)) (related : S → S → Prop) : Prop where
  refl : ∀ state, related state state
  trans : ∀ {first second third}, related first second → related second third → related first third
  environment : ∀ {state next}, pool.environment state next → related state next
  steps : ∀ entry ∈ trace, related entry.2.1 (pool.left entry)

variable {pool : Pool I S Call α} {start final : Config I S Call α} {trace : List (Call × S × I.Command)}
  {related : S → S → Prop}

theorem Along.earlier {entry : Call × S × I.Command} (along : pool.Along (trace ++ [entry]) related) :
    pool.Along trace related :=
  { along with steps := fun other member => along.steps other (mem_append_left _ member) }

theorem Runs.ordered (runs : pool.Runs start trace final) (along : pool.Along trace related) :
    related start.state final.state ∧
      (trace.Pairwise fun earlier later => related (pool.left earlier) later.2.1) ∧
      ∀ entry ∈ trace, related start.state entry.2.1 ∧ related (pool.left entry) final.state := by
  induction runs with
  | refl => exact ⟨along.refl _, .nil, nofun⟩
  | enter call _ offered ih => exact ih along
  | environment _ changed ih =>
    obtain ⟨whole, pairs, each⟩ := ih along
    refine ⟨along.trans whole (along.environment changed), pairs, ?_⟩
    intro entry member
    exact ⟨(each entry member).1, along.trans (each entry member).2 (along.environment changed)⟩
  | @issue trace config next call log command before issues ih =>
    obtain ⟨whole, pairs, each⟩ := ih along.earlier
    have last : pool.left (call, config.state, command) = next.state := issues.state.symm
    have step : related config.state next.state :=
      last ▸ along.steps (call, config.state, command) (mem_append_right _ (mem_singleton_self _))
    refine ⟨along.trans whole step, ?_, ?_⟩
    · refine pairwise_append.mpr ⟨pairs, pairwise_singleton _ _, ?_⟩
      intro entry member later singleton
      rw [mem_singleton.mp singleton]
      exact (each entry member).2
    · intro entry member
      rcases mem_append.mp member with earlier | singleton
      · exact ⟨(each entry earlier).1, along.trans (each entry earlier).2 step⟩
      · rw [mem_singleton.mp singleton, last]
        exact ⟨whole, along.refl _⟩

theorem Runs.logged (runs : pool.Runs start trace final) (unstarted : ∀ thread ∈ start.threads, thread.log = []) :
    ∀ thread ∈ final.threads, ∀ entry ∈ thread.log, (thread.call, entry.1, entry.2) ∈ trace := by
  induction runs with
  | refl =>
    intro thread member entry logged
    rw [unstarted thread member] at logged
    cases logged
  | enter call _ offered ih =>
    intro thread member entry logged
    rcases mem_append.mp member with old | new
    · exact ih thread old entry logged
    · rw [mem_singleton.mp new] at logged
      cases logged
  | environment _ changed ih => exact ih
  | @issue trace config next call log command _ issues ih =>
    obtain ⟨before, after, continuation, shape, -, rfl⟩ := issues
    intro thread member entry logged
    rcases mem_append.mp member with earlier | later
    · exact mem_append_left _ (ih thread (by simp [shape, earlier]) entry logged)
    · rcases mem_cons.mp later with rfl | other
      · rcases mem_append.mp logged with old | new
        · exact mem_append_left _
            (ih ⟨call, .perform command continuation, log⟩ (by simp [shape]) entry old)
        · rw [mem_singleton.mp new]
          simp
      · exact mem_append_left _ (ih thread (by simp [shape, other]) entry logged)

/-- The states in which a program has issued its commands are related in their order. -/
theorem Runs.log_ordered (runs : pool.Runs start trace final) (along : pool.Along trace related)
    (unstarted : start.threads = []) :
    ∀ thread ∈ final.threads,
      thread.log.Pairwise fun earlier later => related (pool.handler earlier.2 earlier.1).2 later.1 := by
  induction runs with
  | refl => simp [unstarted]
  | enter call _ offered ih =>
    intro thread member
    rcases mem_append.mp member with old | new
    · exact ih along thread old
    · rw [mem_singleton.mp new]
      exact .nil
  | environment _ changed ih => exact ih along
  | @issue trace config next call log command runs issues ih =>
    have earlier := ih along.earlier
    obtain ⟨before, after, continuation, shape, -, rfl⟩ := issues
    intro thread member
    rcases mem_append.mp member with left | later
    · exact earlier thread (by simp [shape, left])
    · rcases mem_cons.mp later with rfl | right
      · have acting : ⟨call, .perform command continuation, log⟩ ∈ config.threads := by simp [shape]
        refine pairwise_append.mpr ⟨earlier _ acting, pairwise_singleton _ _, ?_⟩
        intro entry logged last singleton
        rw [mem_singleton.mp singleton]
        have recorded := runs.logged (by simp [unstarted]) _ acting entry logged
        exact ((runs.ordered along.earlier).2.2 _ recorded).2
      · exact earlier thread (by simp [shape, right])

/-- Every command a program has issued was admitted after those before it. -/
theorem Runs.log_admitted (runs : pool.Runs start trace final) (unstarted : start.threads = []) :
    ∀ thread ∈ final.threads, ∀ earlier entry later, thread.log = earlier ++ entry :: later →
      pool.admits entry.1 earlier entry.2 := by
  induction runs with
  | refl => simp [unstarted]
  | enter call _ offered ih =>
    intro thread member earlier entry later logged
    rcases mem_append.mp member with old | new
    · exact ih thread old earlier entry later logged
    · rw [mem_singleton.mp new] at logged
      exact absurd logged (by simp)
  | environment _ changed ih => exact ih
  | @issue trace config next call log command runs issues ih =>
    obtain ⟨before, after, continuation, shape, admitted, rfl⟩ := issues
    intro thread member earlier entry later logged
    rcases mem_append.mp member with left | others
    · exact ih thread (by simp [shape, left]) earlier entry later logged
    · rcases mem_cons.mp others with rfl | right
      · rcases eq_nil_or_concat later with rfl | ⟨rest, last, rfl⟩
        · obtain ⟨rfl, last⟩ := append_inj' logged rfl
          obtain rfl := singleton_inj.mp last
          exact admitted
        · have whole : log ++ [(config.state, command)] = (earlier ++ entry :: rest) ++ [last] := by
            simpa using logged
          obtain ⟨prior, -⟩ := append_inj' whole rfl
          exact ih ⟨call, .perform command continuation, log⟩ (by simp [shape]) earlier entry rest
            prior
      · exact ih thread (by simp [shape, right]) earlier entry later logged

/-- A command of the trace was allowed by the rule of its call, after commands that left related states. -/
theorem Runs.explained (runs : pool.Runs start trace final) (along : pool.Along trace related)
    (rules : Call → CommandLog I S → I.Command → Prop)
    (entering : ∀ call, pool.offered call → Obeys pool.handler (rules call) (pool.body call) [])
    (unstarted : start.threads = []) :
    ∀ entry ∈ trace, pool.offered entry.1 ∧ ∃ log, rules entry.1 log entry.2.2 ∧
      ∀ logged ∈ log, (entry.1, logged.1, logged.2) ∈ trace ∧
        related (pool.left (entry.1, logged.1, logged.2)) entry.2.1 := by
  induction runs with
  | refl => nofun
  | enter call _ offered ih => exact ih along
  | environment _ changed ih => exact ih along
  | @issue trace config next call log command before issues ih =>
    intro entry member
    rcases mem_append.mp member with earlier | singleton
    · obtain ⟨offered, log, allowed, logged⟩ := ih along.earlier entry earlier
      exact ⟨offered, log, allowed, fun other within =>
        ⟨mem_append_left _ (logged other within).1, (logged other within).2⟩⟩
    · rw [mem_singleton.mp singleton]
      obtain ⟨continuation, thread⟩ := issues.mem
      have obeys := obeys_of_reaches rules entering before.reaches (by simp [unstarted]) _ thread
      have offered := offered_of_reaches before.reaches (by simp [unstarted]) _ thread
      refine ⟨offered, log, obeys.1, ?_⟩
      intro other within
      have recorded := before.logged (by simp [unstarted]) _ thread other within
      obtain ⟨-, -, each⟩ := before.ordered along.earlier
      exact ⟨mem_append_left _ recorded, (each _ recorded).2⟩

end Pool

end AiGovernance.Semantics
