import AiGovernance.Semantics.Pool

/-!
# Parties of a pool

`Discipline` asks every program for the same thing. A `Contract` belongs to one
party: what it relies on between two of its commands, and what it promises of
each command it issues. The promise reads the store before and after the
command and the party's own log. Parties whose promises are within each other's
`rely` keep their contracts however their commands interleave
(`Pool.meets_of_reaches`).
-/

namespace AiGovernance.Semantics

open List

variable {I : Interface} {S Call α β : Type}

/-- What one party relies on and promises. -/
structure Contract (I : Interface) (S : Type) where
  handler : Handler I S
  admits : S → CommandLog I S → I.Command → Prop
  /-- What holds of every state. -/
  sound : S → Prop
  rely : S → S → Prop
  refl : ∀ state, rely state state
  trans : ∀ {first second third}, rely first second → rely second third → rely first third
  promise : S → CommandLog I S → I.Command → S → Prop

namespace Contract

variable (C : Contract I S)

/-- Under interference within `rely`, every command keeps the promise and the outcome meets
`post` in every state reached afterwards. -/
def Meets (post : CommandLog I S → Except I.Exception α → S → Prop) :
    Program I α → CommandLog I S → S → Prop
  | .done value, log, state => ∀ later, C.rely state later → C.sound later → post log (.ok value) later
  | .raise exception, log, state =>
    ∀ later, C.rely state later → C.sound later → post log (.error exception) later
  | .perform command next, log, state =>
    ∀ later, C.rely state later → C.sound later → C.admits later log command →
      C.promise later log command (C.handler command later).2 ∧
        Meets post (next (C.handler command later).1) (log ++ [(later, command)])
          (C.handler command later).2

variable {C} {post : CommandLog I S → Except I.Exception α → S → Prop}

variable {log : CommandLog I S} {state : S} {program : Program I α}

theorem Meets.of_rely {later : S} (meets : C.Meets post program log state) (related : C.rely state later) :
    C.Meets post program log later := by
  cases program with
  | done value => exact fun final after => meets final (C.trans related after)
  | raise exception => exact fun final after => meets final (C.trans related after)
  | perform command next => exact fun final after => meets final (C.trans related after)

theorem Meets.finished {thread : Thread I S Call α} {result : Except I.Exception α}
    (meets : C.Meets post thread.program thread.log state) (sound : C.sound state) (finished : thread.Finished result) :
    post thread.log result state := by
  unfold Thread.Finished at finished
  rw [finished] at meets
  cases result with
  | ok value => exact meets state (C.refl state) sound
  | error exception => exact meets state (C.refl state) sound

/-- It is enough to meet the contract from every sound state interference leads to. -/
theorem meets_of_sound (meets : ∀ later, C.rely state later → C.sound later → C.Meets post program log later) :
    C.Meets post program log state := by
  cases program with
  | done value => exact fun later related sound => meets later related sound later (C.refl later) sound
  | raise exception => exact fun later related sound => meets later related sound later (C.refl later) sound
  | perform command next =>
    exact fun later related sound => meets later related sound later (C.refl later) sound

theorem Meets.mono {weaker : CommandLog I S → Except I.Exception α → S → Prop} (meets : C.Meets post program log state)
    (implies : ∀ log result state, post log result state → weaker log result state) :
    C.Meets weaker program log state := by
  induction program generalizing log state with
  | done value => exact fun later related sound => implies _ _ _ (meets later related sound)
  | raise exception => exact fun later related sound => implies _ _ _ (meets later related sound)
  | perform command next ih =>
    intro later related sound admitted
    obtain ⟨promised, rest⟩ := meets later related sound admitted
    exact ⟨promised, ih _ rest⟩

/-- The outcome is only ever looked at in sound states. -/
theorem Meets.while_sound (meets : C.Meets post program log state) :
    C.Meets (fun log result state => C.sound state ∧ post log result state) program log state := by
  induction program generalizing log state with
  | done value => exact fun later related sound => ⟨sound, meets later related sound⟩
  | raise exception => exact fun later related sound => ⟨sound, meets later related sound⟩
  | perform command next ih =>
    intro later related sound admitted
    obtain ⟨promised, rest⟩ := meets later related sound admitted
    exact ⟨promised, ih _ rest⟩

theorem meets_pure {value : α} (final : ∀ later, C.rely state later → C.sound later → post log (.ok value) later) :
    C.Meets post (pure value) log state := final

theorem meets_raise {exception : I.Exception}
    (final : ∀ later, C.rely state later → C.sound later → post log (.error exception) later) :
    C.Meets post (Program.raise exception) log state := final

variable {post : CommandLog I S → Except I.Exception β → S → Prop}

theorem meets_ofExcept_bind {result : Except I.Exception α} {next : α → Program I β}
    (value : ∀ value, result = .ok value → C.Meets post (next value) log state)
    (raised : ∀ exception, result = .error exception →
      ∀ final, C.rely state final → C.sound final → post log (.error exception) final) :
    C.Meets post (Program.ofExcept result >>= next) log state := by
  cases result with
  | ok computed => exact value computed rfl
  | error exception => exact raised exception rfl

theorem meets_call_bind {command : I.Command} {next : I.Answer command → Program I β}
    (promised : ∀ later, C.rely state later → C.sound later → C.admits later log command →
      C.promise later log command (C.handler command later).2)
    (answered : ∀ later answer after, C.rely state later → C.sound later → C.admits later log command →
      C.handler command later = (.ok answer, after) →
      C.Meets post (next answer) (log ++ [(later, command)]) after)
    (raised : ∀ later exception after, C.rely state later → C.sound later →
      C.admits later log command → C.handler command later = (.error exception, after) →
      ∀ final, C.rely after final → C.sound final →
        post (log ++ [(later, command)]) (.error exception) final) :
    C.Meets post (Program.call command >>= next) log state := by
  intro later related sound admitted
  refine ⟨promised later related sound admitted, ?_⟩
  rcases outcome : C.handler command later with ⟨result, after⟩
  cases result with
  | ok answer => exact answered later answer after related sound admitted outcome
  | error exception => exact raised later exception after related sound admitted outcome

theorem meets_call {command : I.Command} {post : CommandLog I S → Except I.Exception (I.Answer command) → S → Prop}
    (promised : ∀ later, C.rely state later → C.sound later → C.admits later log command →
      C.promise later log command (C.handler command later).2)
    (final : ∀ later result after, C.rely state later → C.sound later → C.admits later log command →
      C.handler command later = (result, after) →
      ∀ final, C.rely after final → C.sound final → post (log ++ [(later, command)]) result final) :
    C.Meets post (Program.call command) log state := by
  intro later related sound admitted
  refine ⟨promised later related sound admitted, ?_⟩
  rcases outcome : C.handler command later with ⟨result, after⟩
  cases result with
  | ok answer => exact final later _ after related sound admitted outcome
  | error exception => exact final later _ after related sound admitted outcome

theorem meets_bind {next : α → Program I β} (meets : C.Meets (fun log result state =>
      match result with
      | .ok value => C.Meets post (next value) log state
      | .error exception => post log (.error exception) state) program log state) :
    C.Meets post (program >>= next) log state := by
  induction program generalizing log state with
  | done value => exact meets_of_sound meets
  | raise exception => exact meets
  | perform command rest ih =>
    intro later related sound admitted
    obtain ⟨promised, continues⟩ := meets later related sound admitted
    exact ⟨promised, ih _ continues⟩

theorem meets_caught {post : CommandLog I S → Except I.Exception (Except I.Exception α) → S → Prop}
    (meets : C.Meets (fun log result state => post log (.ok result) state) program log state) :
    C.Meets post program.caught log state := by
  induction program generalizing log state with
  | done value => exact meets
  | raise exception => exact meets
  | perform command rest ih =>
    intro later related sound admitted
    obtain ⟨promised, continues⟩ := meets later related sound admitted
    exact ⟨promised, ih _ continues⟩

/-- Each of two parties may rely on what the other promises. -/
def Compatible (left right : Contract I S) : Prop :=
  (∀ {state log command next}, left.sound state → left.promise state log command next →
      right.rely state next) ∧
    ∀ {state log command next}, right.sound state → right.promise state log command next →
      left.rely state next

theorem Compatible.symm {left right : Contract I S} (compatible : Compatible left right) :
    Compatible right left :=
  ⟨compatible.2, compatible.1⟩

end Contract

namespace Pool

/-- What a pool and the contracts of its calls have to do with each other. -/
structure Agreement (pool : Pool I S Call α) (contract : Call → Contract I S) (sound : S → Prop) :
    Prop where
  sameHandler : ∀ call, (contract call).handler = pool.handler
  sameAdmits : ∀ call, (contract call).admits = pool.admits
  sameSound : ∀ call, (contract call).sound = sound
  /-- Every promise, and the environment, keep the state sound. -/
  kept : ∀ call {state log command next}, sound state →
    (contract call).promise state log command next → sound next
  environment : ∀ {state next}, pool.environment state next → sound state →
    sound next ∧ ∀ call, (contract call).rely state next
  joining : ∀ call other, pool.offered call → Contract.Compatible (contract call) (contract other)

variable {contract : Call → Contract I S} {sound : S → Prop} {pool : Pool I S Call α}

/-- What a party that keeps its contract does with its next command. -/
theorem Agreement.acts (agreement : pool.Agreement contract sound) {call : Call} {command : I.Command}
    {post : CommandLog I S → Except I.Exception α → S → Prop} {log : CommandLog I S} {state : S}
    {next : Except I.Exception (I.Answer command) → Program I α}
    (meets : (contract call).Meets post (.perform command next) log state) (holds : sound state)
    (admitted : pool.admits state log command) :
    (contract call).promise state log command (pool.handler command state).2 ∧
      (contract call).Meets post (next (pool.handler command state).1) (log ++ [(state, command)])
        (pool.handler command state).2 := by
  have acting := meets state ((contract call).refl state) (by rwa [agreement.sameSound])
    (by rwa [agreement.sameAdmits])
  rwa [agreement.sameHandler] at acting

/-- A command that is issued where every party keeps its contract keeps the promise. -/
theorem Issues.promise (post : Call → CommandLog I S → Except I.Exception α → S → Prop)
    (agreement : pool.Agreement contract sound) {config next : Config I S Call α} {call : Call} {log : CommandLog I S}
    {command : I.Command} (issues : pool.Issues config next call log command) (holds : sound config.state)
    (meeting : ∀ thread ∈ config.threads,
      (contract thread.call).Meets (post thread.call) thread.program thread.log config.state) :
    (contract call).promise config.state log command next.state := by
  obtain ⟨before, after, continuation, shape, admitted, rfl⟩ := issues
  exact (agreement.acts (meeting ⟨call, .perform command continuation, log⟩ (by simp [shape])) holds admitted).1

section Reachable

variable (post : Call → CommandLog I S → Except I.Exception α → S → Prop) (agreement : pool.Agreement contract sound)
  (entering : ∀ call state, sound state → pool.offered call →
    (contract call).Meets (post call) (pool.body call) [] state) {start final : Config I S Call α}
  (reaches : pool.Reaches start final) (holds : sound start.state)
  (compatible : (start.threads.map Thread.call).Pairwise fun left right =>
    Contract.Compatible (contract left) (contract right)) (initially : ∀ thread ∈ start.threads,
    (contract thread.call).Meets (post thread.call) thread.program thread.log start.state)

include agreement entering reaches holds compatible initially

theorem meets_of_reaches : sound final.state ∧
      ((final.threads.map Thread.call).Pairwise fun left right =>
        Contract.Compatible (contract left) (contract right)) ∧
      ∀ thread ∈ final.threads,
        (contract thread.call).Meets (post thread.call) thread.program thread.log final.state := by
  induction reaches with
  | refl => exact ⟨holds, compatible, initially⟩
  | tail _ step ih =>
    obtain ⟨stateSound, apart, meeting⟩ := ih
    cases step with
    | enter call offered =>
      refine ⟨stateSound, ?_, fun thread member => ?_⟩
      · rw [map_append, pairwise_append]
        refine ⟨apart, pairwise_singleton _ _, fun left _ right member => ?_⟩
        rw [mem_singleton.mp member]
        exact (agreement.joining call left offered).symm
      · rcases mem_append.mp member with old | new
        · exact meeting thread old
        · obtain rfl := mem_singleton.mp new
          exact entering call _ stateSound offered
    | environment changed =>
      obtain ⟨nextSound, related⟩ := agreement.environment changed stateSound
      exact ⟨nextSound, apart, fun thread member => (meeting thread member).of_rely (related _)⟩
    | @issue state before after call log command next admitted =>
      obtain ⟨promised, rest⟩ :=
        agreement.acts (meeting ⟨call, .perform command next, log⟩ (by simp)) stateSound admitted
      refine ⟨agreement.kept call stateSound promised, ?_, ?_⟩
      · simpa using apart
      · have others : ∀ thread ∈ before ++ after, (contract thread.call).rely state
            (pool.handler command state).2 := by
          intro thread member
          have soundFor : (contract call).sound state := by rwa [agreement.sameSound]
          rw [map_append, map_cons, pairwise_append, pairwise_cons] at apart
          obtain ⟨-, ⟨ahead, -⟩, between⟩ := apart
          rcases mem_append.mp member with earlier | later
          · exact (between _ (mem_map_of_mem earlier) call (mem_cons_self ..)).2 soundFor promised
          · exact (ahead _ (mem_map_of_mem later)).1 soundFor promised
        intro thread member
        rcases mem_append.mp member with earlier | later
        · exact (meeting thread (mem_append_left _ earlier)).of_rely
            (others thread (mem_append_left _ earlier))
        · rcases mem_cons.mp later with rfl | other
          · exact rest
          · exact (meeting thread (mem_append_right _ (mem_cons_of_mem _ other))).of_rely
              (others thread (mem_append_right _ other))

/-- Along a run the store changes as the promises and the environment say. -/
theorem related_of_reaches (relation : S → S → Prop) (reflexive : ∀ state, relation state state)
    (transitive : ∀ {first second third}, relation first second → relation second third → relation first third)
    (promised : ∀ call {state log command next}, (contract call).promise state log command next →
      relation state next) (environment : ∀ {state next}, pool.environment state next → relation state next) :
    relation start.state final.state := by
  induction reaches with
  | refl => exact reflexive start.state
  | tail before step ih =>
    obtain ⟨stateSound, -, meeting⟩ :=
      meets_of_reaches post agreement entering before holds compatible initially
    refine transitive ih ?_
    rcases step.cases with same | changed | ⟨call, log, command, issues⟩
    · rw [same]
      exact reflexive _
    · exact environment changed
    · exact promised call (issues.promise post agreement stateSound meeting)

end Reachable

end Pool

end AiGovernance.Semantics
