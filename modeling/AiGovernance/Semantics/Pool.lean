import AiGovernance.Semantics.Program
import Mathlib.Logic.Relation

/-!
# Interleaved programs

A pool is one shared store and any number of programs in flight. A step is one
command of one program, a new program entering, or a change by the environment;
between two commands of a program everything else may happen. Each program
keeps the log of its own commands with the state each was issued in, so that a
property may speak about what a program saw.

`Discipline.Upholds` is the sequential proof obligation that survives
interleaving: whatever the others do within `rely`, each command stays within
`rely` and the final answer meets the postcondition. `Pool.upholds_of_reaches`
turns it into a statement about every reachable configuration.
-/

namespace AiGovernance.Semantics

open List

variable {I : Interface} {S Call α β : Type}

/-- The commands a program has issued, each with the state it was issued in. -/
abbrev CommandLog (I : Interface) (S : Type) := List (S × I.Command)

/-- A program in flight: the call it serves, what is left of it, and its log. -/
structure Thread (I : Interface) (S Call α : Type) where
  call : Call
  program : Program I α
  log : CommandLog I S

/-- The program has returned or raised. -/
def Thread.Finished (thread : Thread I S Call α) (result : Except I.Exception α) : Prop :=
  thread.program = Program.ofExcept result

/-- The shared state and every program in flight or finished. -/
structure Config (I : Interface) (S Call α : Type) where
  state : S
  threads : List (Thread I S Call α)

/-- What may happen to a shared store: the calls offered to it and their
programs, the environment's own changes, and the schedules that are considered. -/
structure Pool (I : Interface) (S Call α : Type) where
  handler : Handler I S
  body : Call → Program I α
  offered : Call → Prop
  environment : S → S → Prop
  admits : S → CommandLog I S → I.Command → Prop

namespace Pool

/-- One atomic step of a pool. -/
inductive Step (pool : Pool I S Call α) : Config I S Call α → Config I S Call α → Prop where
  | enter {state : S} {threads : List (Thread I S Call α)} (call : Call)
      (offered : pool.offered call) :
      Step pool ⟨state, threads⟩ ⟨state, threads ++ [⟨call, pool.body call, []⟩]⟩
  | environment {state next : S} {threads : List (Thread I S Call α)}
      (changed : pool.environment state next) :
      Step pool ⟨state, threads⟩ ⟨next, threads⟩
  | issue {state : S} {before after : List (Thread I S Call α)} {call : Call}
      {log : CommandLog I S} {command : I.Command}
      {next : Except I.Exception (I.Answer command) → Program I α}
      (admitted : pool.admits state log command) :
      Step pool ⟨state, before ++ ⟨call, .perform command next, log⟩ :: after⟩
        ⟨(pool.handler command state).2,
          before ++ ⟨call, next (pool.handler command state).1, log ++ [(state, command)]⟩ :: after⟩

/-- A step in which the program of a call issues a command. -/
def Issues (pool : Pool I S Call α) (config next : Config I S Call α) (call : Call)
    (log : CommandLog I S) (command : I.Command) : Prop :=
  ∃ before after continuation,
    config.threads = before ++ ⟨call, .perform command continuation, log⟩ :: after ∧
      pool.admits config.state log command ∧
      next = ⟨(pool.handler command config.state).2, before ++
        ⟨call, continuation (pool.handler command config.state).1, log ++ [(config.state, command)]⟩ ::
          after⟩

variable {pool : Pool I S Call α} {config next start final : Config I S Call α} {call : Call}

variable {log : CommandLog I S} {command : I.Command} {trace : List (Call × S × I.Command)}

/-- A step that leads to another state is an issued command or the environment's. -/
theorem Step.cases (step : pool.Step config next) :
    next.state = config.state ∨ pool.environment config.state next.state ∨
      ∃ call log command, pool.Issues config next call log command := by
  cases step with
  | enter call offered => exact Or.inl rfl
  | environment changed => exact Or.inr (Or.inl changed)
  | issue admitted => exact Or.inr (Or.inr ⟨_, _, _, _, _, _, rfl, admitted, rfl⟩)

theorem Issues.step (issues : pool.Issues config next call log command) : pool.Step config next := by
  obtain ⟨before, after, continuation, shape, admitted, rfl⟩ := issues
  obtain ⟨state, threads⟩ := config
  subst shape
  exact .issue admitted

theorem Issues.admitted (issues : pool.Issues config next call log command) :
    pool.admits config.state log command := by
  obtain ⟨_, _, _, -, admitted, -⟩ := issues
  exact admitted

theorem Issues.state (issues : pool.Issues config next call log command) :
    next.state = (pool.handler command config.state).2 := by
  obtain ⟨_, _, _, -, -, rfl⟩ := issues
  rfl

theorem Issues.mem (issues : pool.Issues config next call log command) :
    ∃ continuation, ⟨call, .perform command continuation, log⟩ ∈ config.threads := by
  obtain ⟨before, after, continuation, shape, -, -⟩ := issues
  exact ⟨continuation, by simp [shape]⟩

/-- Zero or more steps. -/
def Reaches (pool : Pool I S Call α) : Config I S Call α → Config I S Call α → Prop :=
  Relation.ReflTransGen pool.Step

/-- A run with the commands issued in it, in order: by which call, and in which state. -/
inductive Runs (pool : Pool I S Call α) (start : Config I S Call α) :
    List (Call × S × I.Command) → Config I S Call α → Prop where
  | refl : Runs pool start [] start
  | enter {trace : List (Call × S × I.Command)} {config : Config I S Call α} (call : Call)
      (before : Runs pool start trace config) (offered : pool.offered call) :
      Runs pool start trace ⟨config.state, config.threads ++ [⟨call, pool.body call, []⟩]⟩
  | environment {trace : List (Call × S × I.Command)} {config : Config I S Call α} {next : S}
      (before : Runs pool start trace config) (changed : pool.environment config.state next) :
      Runs pool start trace ⟨next, config.threads⟩
  | issue {trace : List (Call × S × I.Command)} {config next : Config I S Call α} {call : Call}
      {log : CommandLog I S} {command : I.Command} (before : Runs pool start trace config)
      (issues : pool.Issues config next call log command) :
      Runs pool start (trace ++ [(call, config.state, command)]) next

theorem Runs.reaches (runs : pool.Runs start trace final) : pool.Reaches start final := by
  induction runs with
  | refl => exact .refl
  | enter call _ offered ih => exact ih.tail (.enter call offered)
  | environment _ changed ih => exact ih.tail (.environment changed)
  | issue _ issues ih => exact ih.tail issues.step

/-- A call that has entered stays, in its place. -/
theorem calls_of_reaches (reaches : pool.Reaches start final) :
    ∃ joined, final.threads.map Thread.call = start.threads.map Thread.call ++ joined := by
  induction reaches with
  | refl => exact ⟨[], by simp⟩
  | tail _ step ih =>
    obtain ⟨joined, same⟩ := ih
    cases step with
    | enter call offered => exact ⟨joined ++ [call], by simp [same]⟩
    | environment changed => exact ⟨joined, same⟩
    | issue admitted => exact ⟨joined, by simpa using same⟩

/-- What holds of a program when it enters and after each of its commands holds of every program in flight. -/
theorem threads_of_reaches (holds : Call → Program I α → CommandLog I S → Prop)
    (entering : ∀ call, pool.offered call → holds call (pool.body call) [])
    (issuing : ∀ {call command next log} state, holds call (.perform command next) log →
      holds call (next (pool.handler command state).1) (log ++ [(state, command)]))
    (reaches : pool.Reaches start final)
    (initially : ∀ thread ∈ start.threads, holds thread.call thread.program thread.log) :
    ∀ thread ∈ final.threads, holds thread.call thread.program thread.log := by
  induction reaches with
  | refl => exact initially
  | tail _ step ih =>
    intro thread member
    cases step with
    | enter call offered =>
      rcases mem_append.mp member with old | new
      · exact ih thread old
      · obtain rfl := mem_singleton.mp new
        exact entering call offered
    | environment changed => exact ih thread member
    | @issue state before after call log command next admitted =>
      rcases mem_append.mp member with earlier | later
      · exact ih thread (mem_append_left _ earlier)
      · rcases mem_cons.mp later with rfl | other
        · exact issuing state (ih ⟨call, .perform command next, log⟩ (by simp))
        · exact ih thread (mem_append_right _ (mem_cons_of_mem _ other))

theorem offered_of_reaches (reaches : pool.Reaches start final)
    (initially : ∀ thread ∈ start.threads, pool.offered thread.call) :
    ∀ thread ∈ final.threads, pool.offered thread.call :=
  threads_of_reaches (fun call _ _ => pool.offered call) (fun _ offered => offered) (fun _ offered => offered) reaches
    initially

/-- What holds of the store at last, and did not at first, was brought about by a logged command. -/
theorem logged_of_reaches (appears : S → Prop)
    (environment : ∀ {state next}, pool.environment state next → appears next → appears state)
    (reaches : pool.Reaches start final) (absent : ¬ appears start.state) (present : appears final.state) :
    ∃ thread ∈ final.threads, ∃ entry ∈ thread.log,
      ¬ appears entry.1 ∧ appears (pool.handler entry.2 entry.1).2 := by
  induction reaches with
  | refl => exact absurd present absent
  | tail _ step ih =>
    cases step with
    | enter call offered =>
      obtain ⟨thread, member, logged⟩ := ih present
      exact ⟨thread, mem_append_left _ member, logged⟩
    | environment changed => exact ih (environment changed present)
    | @issue state before after call log command next admitted =>
      by_cases already : appears state
      · obtain ⟨thread, member, entry, logged, brought⟩ := ih already
        rcases mem_append.mp member with earlier | later
        · exact ⟨thread, mem_append_left _ earlier, entry, logged, brought⟩
        · rcases mem_cons.mp later with rfl | other
          · exact ⟨_, mem_append_right _ mem_cons_self, entry, mem_append_left _ logged, brought⟩
          · exact ⟨thread, mem_append_right _ (mem_cons_of_mem _ other), entry, logged, brought⟩
      · exact ⟨_, mem_append_right _ mem_cons_self, (state, command), by simp, already, present⟩

end Pool

/-- The interference a program must tolerate and must itself stay within. -/
structure Discipline (I : Interface) (S : Type) where
  handler : Handler I S
  admits : S → CommandLog I S → I.Command → Prop
  rely : S → S → Prop
  refl : ∀ state, rely state state
  trans : ∀ {first second third}, rely first second → rely second third → rely first third

namespace Discipline

variable (D : Discipline I S)

/-- Under interference within `rely`, every command stays within `rely` and the
outcome meets `post` in every state reached afterwards. -/
def Upholds (post : CommandLog I S → Except I.Exception α → S → Prop) :
    Program I α → CommandLog I S → S → Prop
  | .done value, log, state => ∀ later, D.rely state later → post log (.ok value) later
  | .raise exception, log, state =>
    ∀ later, D.rely state later → post log (.error exception) later
  | .perform command next, log, state =>
    ∀ later, D.rely state later → D.admits later log command →
      D.rely later (D.handler command later).2 ∧
        Upholds post (next (D.handler command later).1) (log ++ [(later, command)])
          (D.handler command later).2

variable {D} {post : CommandLog I S → Except I.Exception α → S → Prop} {program : Program I α}

variable {log : CommandLog I S} {state : S}

/-- The obligation survives any interference the program must tolerate. -/
theorem Upholds.of_rely {state later : S} (upholds : D.Upholds post program log state)
    (related : D.rely state later) : D.Upholds post program log later := by
  cases program with
  | done value => exact fun final after => upholds final (D.trans related after)
  | raise exception => exact fun final after => upholds final (D.trans related after)
  | perform command next => exact fun final after => upholds final (D.trans related after)

theorem Upholds.done {value : α} (upholds : D.Upholds post (.done value) log state) : post log (.ok value) state :=
  upholds state (D.refl state)

theorem Upholds.raise {exception : I.Exception} (upholds : D.Upholds post (.raise exception) log state) :
    post log (.error exception) state :=
  upholds state (D.refl state)

theorem Upholds.finished {thread : Thread I S Call α} {result : Except I.Exception α}
    (upholds : D.Upholds post thread.program thread.log state) (finished : thread.Finished result) :
    post thread.log result state := by
  unfold Thread.Finished at finished
  rw [finished] at upholds
  cases result with
  | ok value => exact upholds.done
  | error exception => exact upholds.raise

theorem Upholds.mono {weaker : CommandLog I S → Except I.Exception α → S → Prop}
    (upholds : D.Upholds post program log state)
    (implies : ∀ log result state, post log result state → weaker log result state) :
    D.Upholds weaker program log state := by
  induction program generalizing log state with
  | done value => exact fun later related => implies _ _ _ (upholds later related)
  | raise exception => exact fun later related => implies _ _ _ (upholds later related)
  | perform command next ih =>
    intro later related admitted
    obtain ⟨stays, rest⟩ := upholds later related admitted
    exact ⟨stays, ih _ rest⟩

theorem Upholds.related {start state : S} (before : D.rely start state) (upholds : D.Upholds post program log state) :
    D.Upholds (fun log result later => D.rely start later ∧ post log result later) program log state := by
  induction program generalizing log state with
  | done value => exact fun later after => ⟨D.trans before after, upholds later after⟩
  | raise exception => exact fun later after => ⟨D.trans before after, upholds later after⟩
  | perform command next ih =>
    intro later after admitted
    obtain ⟨stays, rest⟩ := upholds later after admitted
    exact ⟨stays, ih _ (D.trans (D.trans before after) stays) rest⟩

theorem upholds_call_bind {post : CommandLog I S → Except I.Exception β → S → Prop} {command : I.Command}
    {next : I.Answer command → Program I β}
    (stays : ∀ later, D.rely state later → D.admits later log command → D.rely later (D.handler command later).2)
    (answered : ∀ later answer after, D.rely state later → D.admits later log command →
      D.handler command later = (.ok answer, after) →
      D.Upholds post (next answer) (log ++ [(later, command)]) after)
    (raised : ∀ later exception after, D.rely state later → D.admits later log command →
      D.handler command later = (.error exception, after) →
      ∀ final, D.rely after final → post (log ++ [(later, command)]) (.error exception) final) :
    D.Upholds post (Program.call command >>= next) log state := by
  intro later related admitted
  refine ⟨stays later related admitted, ?_⟩
  rcases outcome : D.handler command later with ⟨result, after⟩
  cases result with
  | ok answer => exact answered later answer after related admitted outcome
  | error exception => exact raised later exception after related admitted outcome

theorem upholds_attempt_bind {post : CommandLog I S → Except I.Exception β → S → Prop} {command : I.Command}
    {next : Except I.Exception (I.Answer command) → Program I β}
    (stays : ∀ later, D.rely state later → D.admits later log command → D.rely later (D.handler command later).2)
    (continues : ∀ later answer after, D.rely state later → D.admits later log command →
      D.handler command later = (answer, after) →
      D.Upholds post (next answer) (log ++ [(later, command)]) after) :
    D.Upholds post (Program.attempt command >>= next) log state :=
  fun later related admitted =>
    ⟨stays later related admitted, continues later _ _ related admitted rfl⟩

theorem upholds_ofExcept_bind {post : CommandLog I S → Except I.Exception β → S → Prop}
    {result : Except I.Exception α} {next : α → Program I β}
    (value : ∀ value, result = .ok value → D.Upholds post (next value) log state)
    (raised : ∀ exception, result = .error exception →
      ∀ final, D.rely state final → post log (.error exception) final) :
    D.Upholds post (Program.ofExcept result >>= next) log state := by
  cases result with
  | ok computed => exact value computed rfl
  | error exception => exact raised exception rfl

theorem upholds_ofExcept {result : Except I.Exception α}
    (final : ∀ later, D.rely state later → post log result later) :
    D.Upholds post (Program.ofExcept result) log state := by
  cases result <;> exact final

/-- A first part that changes nothing, whatever it reads: what it returns is expected,
and what its commands keep true of the log still holds where it ends. -/
theorem upholds_within_bind {post : CommandLog I S → Except I.Exception β → S → Prop} {allowed : I.Command → Prop}
    {returns : α → Prop} {keeps : CommandLog I S → Prop} {next : α → Program I β}
    (within : program.Within allowed returns)
    (reads : ∀ command state, allowed command → (D.handler command state).2 = state)
    (grows : ∀ log state command, keeps log → allowed command → keeps (log ++ [(state, command)])) (kept : keeps log)
    (value : ∀ value log later, returns value → keeps log → D.rely state later →
      D.Upholds post (next value) log later)
    (raised : ∀ exception log later, keeps log → D.rely state later → post log (.error exception) later) :
    D.Upholds post (program >>= next) log state := by
  induction program generalizing log state with
  | done result => exact value result log state within kept (D.refl state)
  | raise exception => exact fun later related => raised exception log later kept related
  | perform command continuation ih =>
    intro later related admitted
    have unchanged := reads command later within.1
    rw [unchanged]
    refine ⟨D.refl later, ih _ (within.2 _)
      (grows log later command kept within.1) ?_ ?_⟩
    · exact fun result log final returned keeping after =>
        value result log final returned keeping (D.trans related after)
    · exact fun exception log final keeping after =>
        raised exception log final keeping (D.trans related after)

/-- A program whose commands all stay within `rely`, whatever it is answered, upholds what its log implies. -/
theorem upholds_of_within {allowed : I.Command → Prop} {returns : α → Prop} {keeps : CommandLog I S → Prop}
    (within : program.Within allowed returns)
    (stays : ∀ {command log state}, allowed command → keeps log → D.admits state log command →
      D.rely state (D.handler command state).2)
    (grows : ∀ log state command, keeps log → allowed command → keeps (log ++ [(state, command)])) (kept : keeps log)
    (final : ∀ log result later, keeps log → post log result later) : D.Upholds post program log state := by
  induction program generalizing log state with
  | done value => exact fun later _ => final log (.ok value) later kept
  | raise exception => exact fun later _ => final log (.error exception) later kept
  | perform command next ih =>
    intro later related admitted
    exact ⟨stays within.1 kept admitted, ih _ (within.2 _) (grows log later command kept within.1)⟩

theorem upholds_bind {post : CommandLog I S → Except I.Exception β → S → Prop} {next : α → Program I β}
    (upholds : D.Upholds (fun log result state =>
      match result with
      | .ok value => D.Upholds post (next value) log state
      | .error exception => post log (.error exception) state) program log state) :
    D.Upholds post (program >>= next) log state := by
  induction program generalizing log state with
  | done value => exact upholds.done
  | raise exception => exact upholds
  | perform command rest ih =>
    intro later related admitted
    obtain ⟨stays, continues⟩ := upholds later related admitted
    exact ⟨stays, ih _ continues⟩

theorem Upholds.map {labelled : CommandLog I S → Except I.Exception β → S → Prop} {relabel : α → β}
    (upholds : D.Upholds post program log state)
    (value : ∀ log value state, post log (.ok value) state → labelled log (.ok (relabel value)) state)
    (raised : ∀ log exception state, post log (.error exception) state → labelled log (.error exception) state) :
    D.Upholds labelled (program >>= fun value => pure (relabel value)) log state := by
  induction program generalizing log state with
  | done result => exact fun later related => value _ _ _ (upholds later related)
  | raise exception => exact fun later related => raised _ _ _ (upholds later related)
  | perform command rest ih =>
    intro later related admitted
    obtain ⟨stays, continues⟩ := upholds later related admitted
    exact ⟨stays, ih _ continues⟩

end Discipline

/-! ## Rules on what a program issues -/

/-- Whatever a command finds in the store, the rule allows it after the commands before it. -/
def Obeys (handler : Handler I S) (rule : CommandLog I S → I.Command → Prop) :
    Program I α → CommandLog I S → Prop
  | .done _, _ => True
  | .raise _, _ => True
  | .perform command next, log =>
    rule log command ∧
      ∀ state, Obeys handler rule (next (handler command state).1) (log ++ [(state, command)])

section Obeys

variable {handler : Handler I S} {rule : CommandLog I S → I.Command → Prop} {log : CommandLog I S}

theorem obeys_ofExcept (result : Except I.Exception α) :
    Obeys handler rule (Program.ofExcept result : Program I α) log := by
  cases result <;> trivial

theorem obeys_call {command : I.Command} (allowed : rule log command) :
    Obeys handler rule (Program.call command) log :=
  ⟨allowed, fun _ => obeys_ofExcept _⟩

theorem obeys_call_bind {command : I.Command} {next : I.Answer command → Program I β} (allowed : rule log command)
    (continues : ∀ state answer, (handler command state).1 = .ok answer →
      Obeys handler rule (next answer) (log ++ [(state, command)])) :
    Obeys handler rule (Program.call command >>= next) log := by
  refine ⟨allowed, fun state => ?_⟩
  cases answered : (handler command state).1 with
  | ok answer => exact continues state answer answered
  | error exception => trivial

/-- The second part of a sequence starts from some extension of the log. -/
theorem Obeys.bind {program : Program I α} {next : α → Program I β} (first : Obeys handler rule program log)
    (second : ∀ value later, log <+: later → Obeys handler rule (next value) later) :
    Obeys handler rule (program >>= next) log := by
  induction program generalizing log with
  | done value => exact second value log (prefix_refl log)
  | raise exception => trivial
  | perform command rest ih =>
    refine ⟨first.1, fun state => ih _ (first.2 state) fun value later extended => ?_⟩
    exact second value later ((prefix_append log _).trans extended)

theorem Obeys.caught {program : Program I α} (obeys : Obeys handler rule program log) :
    Obeys handler rule program.caught log := by
  induction program generalizing log with
  | done value => trivial
  | raise exception => trivial
  | perform command rest ih =>
    exact ⟨obeys.1, fun state => ih _ (obeys.2 state)⟩

/-- A program whose commands the rule allows at any time obeys it. -/
theorem obeys_of_within {allowed : I.Command → Prop} {returns : α → Prop} {program : Program I α}
    (within : program.Within allowed returns) (permits : ∀ log command, allowed command → rule log command) :
    Obeys handler rule program log := by
  induction program generalizing log with
  | done value => trivial
  | raise exception => trivial
  | perform command rest ih =>
    exact ⟨permits log command within.1, fun state => ih _ (within.2 _)⟩

/-- In every reachable configuration each program still obeys the rule of its call. -/
theorem Pool.obeys_of_reaches {pool : Pool I S Call α} (rules : Call → CommandLog I S → I.Command → Prop)
    (entering : ∀ call, pool.offered call → Obeys pool.handler (rules call) (pool.body call) [])
    {start final : Config I S Call α} (reaches : pool.Reaches start final)
    (initially : ∀ thread ∈ start.threads, Obeys pool.handler (rules thread.call) thread.program thread.log) :
    ∀ thread ∈ final.threads, Obeys pool.handler (rules thread.call) thread.program thread.log :=
  threads_of_reaches (fun call => Obeys pool.handler (rules call)) entering (fun state obeys => obeys.2 state) reaches
    initially

end Obeys

namespace Pool

section Schedules

variable (pool : Pool I S Call α) (free : ∀ state log command, pool.admits state log command)

include free

theorem reaches_run (before after : List (Thread I S Call α)) (call : Call) (program : Program I α)
    (log : CommandLog I S) (state : S) :
    ∃ final, pool.Reaches ⟨state, before ++ ⟨call, program, log⟩ :: after⟩
      ⟨(program.run pool.handler state).2,
        before ++ ⟨call, .ofExcept (program.run pool.handler state).1, final⟩ :: after⟩ := by
  induction program generalizing log state with
  | done value => exact ⟨log, .refl⟩
  | raise exception => exact ⟨log, .refl⟩
  | perform command next ih =>
    obtain ⟨final, reaches⟩ := ih _ (log ++ [(state, command)])
      (pool.handler command state).2
    exact ⟨final, .head (.issue (free state log command)) reaches⟩

theorem reaches_call (call : Call) (offered : pool.offered call) (state : S) (threads : List (Thread I S Call α)) :
    ∃ final, pool.Reaches ⟨state, threads⟩
      ⟨((pool.body call).run pool.handler state).2,
        threads ++ [⟨call, .ofExcept ((pool.body call).run pool.handler state).1, final⟩]⟩ := by
  obtain ⟨final, reaches⟩ := reaches_run pool free threads [] call (pool.body call) [] state
  exact ⟨final, .head (.enter call offered) reaches⟩

end Schedules

/-- One choice of a schedule: a call enters, or the program at an index issues its command. -/
inductive Move (Call : Type) where
  | enter (call : Call)
  | issue (index : Nat)

/-- Follow one choice; a finished program has no command to issue. -/
def move (pool : Pool I S Call α) : Move Call → Config I S Call α → Config I S Call α
  | .enter call, config => ⟨config.state, config.threads ++ [⟨call, pool.body call, []⟩]⟩
  | .issue index, config =>
    match config.threads.drop index with
    | ⟨call, .perform command next, log⟩ :: after =>
      ⟨(pool.handler command config.state).2,
        config.threads.take index ++
          ⟨call, next (pool.handler command config.state).1,
            log ++ [(config.state, command)]⟩ :: after⟩
    | _ => config

/-- Follow a schedule. -/
def play (pool : Pool I S Call α) (moves : List (Move Call)) (config : Config I S Call α) :
    Config I S Call α :=
  moves.foldl (fun config next => pool.move next config) config

/-- What a choice needs: an offered call, or an admitted command. -/
def Permits (pool : Pool I S Call α) : Move Call → Config I S Call α → Prop
  | .enter call, _ => pool.offered call
  | .issue index, config =>
    match config.threads.drop index with
    | ⟨_, .perform command _, log⟩ :: _ => pool.admits config.state log command
    | _ => True

/-- Every choice of a schedule is permitted where it is made. -/
def Legal (pool : Pool I S Call α) : List (Move Call) → Config I S Call α → Prop
  | [], _ => True
  | next :: rest, config => pool.Permits next config ∧ pool.Legal rest (pool.move next config)

variable {pool : Pool I S Call α} {start final : Config I S Call α}

/-- A permitted choice is a step, or changes nothing. -/
theorem reaches_move {next : Move Call} {config : Config I S Call α} (permitted : pool.Permits next config) :
    pool.Reaches config (pool.move next config) := by
  cases next with
  | enter call => exact .single (.enter call permitted)
  | issue index =>
    simp only [move, Permits] at permitted ⊢
    split
    · rename_i call command next log after shape
      rw [shape] at permitted
      have whole : config = ⟨config.state, config.threads.take index ++
          ⟨call, .perform command next, log⟩ :: after⟩ := by
        rw [← shape, take_append_drop]
      have step : pool.Step ⟨config.state, config.threads.take index ++
          ⟨call, .perform command next, log⟩ :: after⟩ _ := .issue permitted
      rw [← whole] at step
      exact .single step
    · exact .refl

theorem reaches_play {moves : List (Move Call)} {config : Config I S Call α} (legal : pool.Legal moves config) :
    pool.Reaches config (pool.play moves config) := by
  induction moves generalizing config with
  | nil => exact .refl
  | cons next rest ih =>
    exact (reaches_move legal.1).trans (ih legal.2)

/-- The command a choice issues, by which call and in which state. -/
def issued : Move Call → Config I S Call α → List (Call × S × I.Command)
  | .enter _, _ => []
  | .issue index, config =>
    match config.threads.drop index with
    | ⟨call, .perform command _, _⟩ :: _ => [(call, config.state, command)]
    | _ => []

/-- The commands a schedule issues. -/
def traced (pool : Pool I S Call α) : List (Move Call) → Config I S Call α → List (Call × S × I.Command)
  | [], _ => []
  | next :: rest, config => issued next config ++ pool.traced rest (pool.move next config)

theorem Runs.move {next : Move Call} {start config : Config I S Call α} {trace : List (Call × S × I.Command)}
    (runs : pool.Runs start trace config) (permitted : pool.Permits next config) :
    pool.Runs start (trace ++ issued next config) (pool.move next config) := by
  cases next with
  | enter call => simpa [issued, Pool.move] using runs.enter call permitted
  | issue index =>
    simp only [Pool.move, Permits, issued] at permitted ⊢
    split
    · rename_i call command continuation log after shape
      rw [shape] at permitted
      refine runs.issue ⟨_, after, continuation, ?_, permitted, rfl⟩
      rw [← shape, take_append_drop]
    · simpa using runs

/-- A legal schedule is a run with its commands. -/
theorem Runs.play {moves : List (Move Call)} {start config : Config I S Call α} {trace : List (Call × S × I.Command)}
    (runs : pool.Runs start trace config) (legal : pool.Legal moves config) :
    pool.Runs start (trace ++ pool.traced moves config) (pool.play moves config) := by
  induction moves generalizing config trace with
  | nil => simpa [traced, Pool.play] using runs
  | cons next rest ih =>
    simpa [traced, Pool.play] using ih (runs.move legal.1) legal.2

/-- Where everything is offered and admitted, every schedule is legal. -/
theorem legal_of_free (offered : ∀ call, pool.offered call)
    (admitted : ∀ state log command, pool.admits state log command) (moves : List (Move Call))
    (config : Config I S Call α) : pool.Legal moves config := by
  induction moves generalizing config with
  | nil => trivial
  | cons next rest ih =>
    refine ⟨?_, ih _⟩
    cases next with
    | enter call => exact offered call
    | issue index =>
      simp only [Permits]
      split
      · exact admitted _ _ _
      · trivial

/-- A test of every choice of a schedule. -/
def tested (pool : Pool I S Call α) (offers : Call → Bool) (admits : S → CommandLog I S → I.Command → Bool) :
    List (Move Call) → Config I S Call α → Bool
  | [], _ => true
  | .enter call :: rest, config => offers call && pool.tested offers admits rest (pool.move (.enter call) config)
  | .issue index :: rest, config =>
    (match config.threads.drop index with
      | ⟨_, .perform command _, log⟩ :: _ => admits config.state log command
      | _ => true) && pool.tested offers admits rest (pool.move (.issue index) config)

/-- A schedule that passes a test of offers and commands is legal. -/
theorem legal_of_tested {offers : Call → Bool} {admits : S → CommandLog I S → I.Command → Bool}
    (offered : ∀ call, offers call = true → pool.offered call)
    (admitted : ∀ state log command, admits state log command = true → pool.admits state log command)
    {moves : List (Move Call)} {config : Config I S Call α} (passes : pool.tested offers admits moves config = true) :
    pool.Legal moves config := by
  induction moves generalizing config with
  | nil => trivial
  | cons next rest ih =>
    cases next with
    | enter call =>
      simp only [tested, Bool.and_eq_true] at passes
      exact ⟨offered call passes.1, ih passes.2⟩
    | issue index =>
      simp only [tested, Bool.and_eq_true] at passes
      refine ⟨?_, ih passes.2⟩
      simp only [Permits]
      have passed := passes.1
      split at passed
      · exact admitted _ _ _ passed
      · trivial

/-- Programs that uphold their obligation on entry do so in every reachable
configuration, however their commands interleave. -/
theorem upholds_of_reaches (D : Discipline I S) (post : Call → CommandLog I S → Except I.Exception α → S → Prop)
    (invariant : S → Prop) (sameHandler : D.handler = pool.handler) (sameAdmits : D.admits = pool.admits)
    (kept : ∀ {state next}, D.rely state next → invariant state → invariant next)
    (entering : ∀ call state, invariant state → pool.offered call → D.Upholds (post call) (pool.body call) [] state)
    (environment : ∀ {state next}, pool.environment state next → D.rely state next)
    (reaches : pool.Reaches start final) (holds : invariant start.state)
    (initially : ∀ thread ∈ start.threads, D.Upholds (post thread.call) thread.program thread.log start.state) :
    D.rely start.state final.state ∧
      ∀ thread ∈ final.threads,
        D.Upholds (post thread.call) thread.program thread.log final.state := by
  induction reaches with
  | refl => exact ⟨D.refl _, initially⟩
  | tail _ step ih =>
    obtain ⟨related, upholding⟩ := ih
    cases step with
    | enter call offered =>
      refine ⟨related, fun thread member => ?_⟩
      rcases mem_append.mp member with old | new
      · exact upholding thread old
      · obtain rfl := mem_singleton.mp new
        exact entering call _ (kept related holds) offered
    | environment changed =>
      have within := environment changed
      exact ⟨D.trans related within, fun thread member =>
        (upholding thread member).of_rely within⟩
    | @issue state before after call log command next admitted =>
      have acting := upholding ⟨call, .perform command next, log⟩ (by simp)
      obtain ⟨stays, rest⟩ := acting state (D.refl state) (by rw [sameAdmits]; exact admitted)
      rw [sameHandler] at stays rest
      refine ⟨D.trans related stays, fun thread member => ?_⟩
      rcases mem_append.mp member with earlier | later
      · exact (upholding thread (mem_append_left _ earlier)).of_rely stays
      · rcases mem_cons.mp later with rfl | other
        · exact rest
        · refine (upholding thread ?_).of_rely stays
          exact mem_append_right _ (mem_cons_of_mem _ other)

end Pool

end AiGovernance.Semantics
