import AiGovernance.Semantics.Pool

/-!
# Linearization

An object has operations that are atomic; a program performs one of them with
several commands. A `Simulation` says what the store of the commands stands for.
A program in flight is undecided until one of its commands, whatever others do
within `rely`, takes the object through its operation; from there on it is
decided, and ends with what the operation returned.
`Pool.exists_linearization` turns this into one order of the operations for a
whole run, which agrees with every answer and with real time.
-/

namespace AiGovernance.Semantics

open List

variable {I : Interface} {S Call α T : Type}

variable {config : Config I S Call α} {state : S} {before after : List (Thread I S Call α)}
  {result : Except I.Exception α} {old : Thread I S Call α}

/-- The operations in the order in which they happen: of which program, which call, and what it returns. -/
abbrev History (I : Interface) (Call α : Type) := List (Nat × Call × Except I.Exception α)

/-- The operations of a history, one after the other. -/
inductive Replays (atomic : Call → T → Except I.Exception α × T) (initial : T) : History I Call α → T → Prop where
  | nil : Replays atomic initial [] initial
  | snoc {history : History I Call α} {state : T} (index : Nat) (call : Call)
      (before : Replays atomic initial history state) :
      Replays atomic initial (history ++ [(index, call, (atomic call state).1)]) (atomic call state).2

section Replays

variable {atomic : Call → T → Except I.Exception α × T} {initial final : T}

theorem Replays.keeps {history : History I Call α} (replays : Replays atomic initial history final)
    (invariant : T → Prop) (operation : ∀ call state, invariant state → invariant (atomic call state).2)
    (initially : invariant initial) : invariant final := by
  induction replays with
  | nil => exact initially
  | snoc index call before ih => exact operation call _ ih

/-- A history goes through the state between two parts of it. -/
theorem Replays.split {first second : History I Call α} (replays : Replays atomic initial (first ++ second) final) :
    ∃ middle, Replays atomic initial first middle ∧ Replays atomic middle second final := by
  generalize joined : first ++ second = history at replays
  induction replays generalizing second with
  | nil =>
    obtain ⟨rfl, rfl⟩ := append_eq_nil_iff.mp joined
    exact ⟨initial, .nil, .nil⟩
  | @snoc history state index call before ih =>
    rcases eq_nil_or_concat second with rfl | ⟨rest, last, rfl⟩
    · rw [append_nil] at joined
      rw [joined]
      exact ⟨_, before.snoc index call, .nil⟩
    · rw [concat_eq_append, ← append_assoc] at joined
      obtain ⟨same, lastEntry⟩ := append_inj' joined rfl
      obtain ⟨middle, early, late⟩ := ih same
      rw [concat_eq_append, lastEntry]
      exact ⟨middle, early, late.snoc index call⟩

theorem Replays.at {past rest : History I Call α} {entry : Nat × Call × Except I.Exception α}
    (replays : Replays atomic initial (past ++ entry :: rest) final) :
    ∃ state, Replays atomic initial past state ∧ entry.2.2 = (atomic entry.2.1 state).1 ∧
      Replays atomic (atomic entry.2.1 state).2 rest final := by
  rw [append_cons] at replays
  obtain ⟨middle, early, late⟩ := replays.split
  generalize joined : past ++ [entry] = history at early
  cases early with
  | nil => simp at joined
  | @snoc history state index call before =>
    obtain ⟨rfl, last⟩ := append_inj' joined rfl
    obtain rfl := singleton_inj.mp last
    exact ⟨state, before, rfl, late⟩

end Replays

/-- What the store of the commands stands for. -/
structure Simulation (I : Interface) (S Call α T : Type) where
  handler : Handler I S
  atomic : Call → T → Except I.Exception α × T
  refines : S → T → Prop
  rely : S → S → Prop
  refl : ∀ state, rely state state
  trans : ∀ {first second third}, rely first second → rely second third → rely first third

namespace Simulation

variable (sim : Simulation I S Call α T)

/-- The operation has happened: the rest of the program changes nothing and ends with the result. -/
def Decided (result : Except I.Exception α) : Program I α → S → Prop
  | .done value, _ => result = .ok value
  | .raise exception, _ => result = .error exception
  | .perform command next, state =>
    ∀ later abstract, sim.rely state later → sim.refines later abstract →
      sim.rely later (sim.handler command later).2 ∧ sim.refines (sim.handler command later).2 abstract ∧
        Decided result (next (sim.handler command later).1) (sim.handler command later).2

/-- The operation has not happened: a command leaves it so, or makes it happen. -/
def Undecided (call : Call) : Program I α → S → Prop
  | .done _, _ => False
  | .raise _, _ => False
  | .perform command next, state =>
    ∀ later abstract, sim.rely state later → sim.refines later abstract →
      sim.rely later (sim.handler command later).2 ∧
        (sim.refines (sim.handler command later).2 abstract ∧
            Undecided call (next (sim.handler command later).1) (sim.handler command later).2 ∨
          sim.refines (sim.handler command later).2 (sim.atomic call abstract).2 ∧
            sim.Decided (sim.atomic call abstract).1 (next (sim.handler command later).1)
              (sim.handler command later).2)

variable {sim}

theorem Decided.of_rely {program : Program I α} {later : S} (decided : sim.Decided result program state)
    (related : sim.rely state later) : sim.Decided result program later := by
  cases program with
  | done value => exact decided
  | raise exception => exact decided
  | perform command next => exact fun final abstract after => decided final abstract (sim.trans related after)

theorem Undecided.of_rely {call : Call} {program : Program I α} {later : S}
    (undecided : sim.Undecided call program state) (related : sim.rely state later) :
    sim.Undecided call program later := by
  cases program with
  | done value => exact undecided
  | raise exception => exact undecided
  | perform command next => exact fun final abstract after => undecided final abstract (sim.trans related after)

theorem undecided_perform {call : Call} {command : I.Command}
    {next : Except I.Exception (I.Answer command) → Program I α}
    (each : ∀ later abstract, sim.rely state later → sim.refines later abstract →
      ∃ answer after, sim.handler command later = (answer, after) ∧ sim.rely later after ∧
        (sim.refines after abstract ∧ sim.Undecided call (next answer) after ∨
          sim.refines after (sim.atomic call abstract).2 ∧
            sim.Decided (sim.atomic call abstract).1 (next answer) after)) :
    sim.Undecided call (.perform command next) state := by
  intro later abstract related refines
  obtain ⟨answer, after, handled, rest⟩ := each later abstract related refines
  rw [handled]
  exact rest

theorem Decided.finished {decision : Except I.Exception α} {thread : Thread I S Call α}
    (decided : sim.Decided decision thread.program state) (finished : thread.Finished result) :
    result = decision := by
  unfold Thread.Finished at finished
  rw [finished] at decided
  cases result with
  | ok value => exact Eq.symm decided
  | error exception => exact Eq.symm decided

theorem Undecided.finished {call : Call} {thread : Thread I S Call α}
    (undecided : sim.Undecided call thread.program state) (finished : thread.Finished result) : False := by
  unfold Thread.Finished at finished
  rw [finished] at undecided
  cases result with
  | ok value => exact undecided
  | error exception => exact undecided

/-- A history of a configuration: it leads to what the store stands for, and the programs in it are the decided ones. -/
structure Linearizes (sim : Simulation I S Call α T) (initial : T) (config : Config I S Call α)
    (history : History I Call α) : Prop where
  replayed : ∃ abstract, Replays sim.atomic initial history abstract ∧ sim.refines config.state abstract
  once : (history.map Prod.fst).Nodup
  decided : ∀ entry ∈ history, ∃ thread, config.threads[entry.1]? = some thread ∧ thread.call = entry.2.1 ∧
    sim.Decided entry.2.2 thread.program config.state
  undecided : ∀ index thread, config.threads[index]? = some thread → index ∉ history.map Prod.fst →
    sim.Undecided thread.call thread.program config.state

section Step

variable {initial : T} {history : History I Call α}

theorem linearizes_start (unstarted : config.threads = []) (stands : sim.refines config.state initial) :
    sim.Linearizes initial config [] where
  replayed := ⟨initial, .nil, stands⟩
  once := List.Pairwise.nil
  decided := by
    intro entry member
    cases member
  undecided := by
    intro index thread found
    rw [unstarted, getElem?_nil] at found
    cases found

theorem Linearizes.index_lt (linearizes : sim.Linearizes initial config history) {index : Nat}
    (member : index ∈ history.map Prod.fst) : index < config.threads.length := by
  obtain ⟨entry, inHistory, rfl⟩ := mem_map.mp member
  obtain ⟨thread, found, -⟩ := linearizes.decided entry inHistory
  exact (List.getElem?_eq_some_iff.mp found).1

theorem Linearizes.enter {threads : List (Thread I S Call α)}
    (linearizes : sim.Linearizes initial ⟨state, threads⟩ history) {call : Call} {program : Program I α}
    (entering : sim.Undecided call program state) :
    sim.Linearizes initial ⟨state, threads ++ [⟨call, program, []⟩]⟩ history where
  replayed := linearizes.replayed
  once := linearizes.once
  decided := by
    intro entry member
    obtain ⟨thread, found, rest⟩ := linearizes.decided entry member
    exact ⟨thread, getElem?_append_left (List.getElem?_eq_some_iff.mp found).1 ▸ found, rest⟩
  undecided := by
    intro index thread found absent
    rcases Nat.lt_or_ge index threads.length with old | new
    · rw [getElem?_append_left old] at found
      exact linearizes.undecided index thread found absent
    · rw [getElem?_append_right new] at found
      obtain ⟨inside, same⟩ := List.getElem?_eq_some_iff.mp found
      simp only [length_singleton] at inside
      have first : index - threads.length = 0 := by omega
      simp only [first, getElem_cons_zero] at same
      rw [← same]
      exact entering

/-- The programs other than the one that issued a command. -/
theorem getElem?_replaced {threads : List (Thread I S Call α)} (new : Thread I S Call α)
    (shape : threads = before ++ old :: after) (index : Nat) :
    (before ++ new :: after)[index]? = if index = before.length then some new else threads[index]? := by
  have replaced : before ++ new :: after = threads.set before.length new := by
    rw [shape, set_append_right _ _ (Nat.le_refl _)]
    simp
  rw [replaced, getElem?_set]
  by_cases here : before.length = index
  · subst here
    simp [shape]
  · rw [if_neg here, if_neg (Ne.symm here)]

theorem Linearizes.issue_decided (linearizes : sim.Linearizes initial config history) {new : Thread I S Call α}
    (shape : config.threads = before ++ old :: after) (member : before.length ∈ history.map Prod.fst)
    (related : sim.rely config.state state) (sameCall : new.call = old.call)
    (kept : ∀ abstract, sim.refines config.state abstract → sim.refines state abstract)
    (continues : ∀ result, sim.Decided result old.program config.state → sim.Decided result new.program state) :
    sim.Linearizes initial ⟨state, before ++ new :: after⟩ history where
  replayed := by
    obtain ⟨abstract, replays, refines⟩ := linearizes.replayed
    exact ⟨abstract, replays, kept abstract refines⟩
  once := linearizes.once
  decided := by
    intro entry inHistory
    obtain ⟨thread, found, called, decided⟩ := linearizes.decided entry inHistory
    rw [getElem?_replaced new shape]
    split
    · rename_i here
      rw [here, shape, getElem?_append_right (Nat.le_refl _)] at found
      simp only [Nat.sub_self, getElem?_cons_zero, Option.some.injEq] at found
      subst found
      exact ⟨new, rfl, sameCall.trans called, continues _ decided⟩
    · exact ⟨thread, found, called, decided.of_rely related⟩
  undecided := by
    intro index thread found absent
    rw [getElem?_replaced new shape] at found
    split at found
    · rename_i here
      exact absurd (here ▸ member) absent
    · exact (linearizes.undecided index thread found absent).of_rely related

theorem Linearizes.issue_undecided (linearizes : sim.Linearizes initial config history) {new : Thread I S Call α}
    (shape : config.threads = before ++ old :: after) (absent : before.length ∉ history.map Prod.fst)
    (related : sim.rely config.state state) {abstract : T} (replays : Replays sim.atomic initial history abstract)
    (refines : sim.refines state abstract) (continues : sim.Undecided new.call new.program state) :
    sim.Linearizes initial ⟨state, before ++ new :: after⟩ history where
  replayed := ⟨abstract, replays, refines⟩
  once := linearizes.once
  decided := by
    intro entry inHistory
    obtain ⟨thread, found, called, decided⟩ := linearizes.decided entry inHistory
    rw [getElem?_replaced new shape, if_neg]
    · exact ⟨thread, found, called, decided.of_rely related⟩
    · intro here
      exact absent (here ▸ mem_map_of_mem inHistory)
  undecided := by
    intro index thread found outside
    rw [getElem?_replaced new shape] at found
    split at found
    · cases found
      exact continues
    · exact (linearizes.undecided index thread found outside).of_rely related

/-- A command by which the operation of its program happens. -/
theorem Linearizes.issue_deciding (linearizes : sim.Linearizes initial config history) {new : Thread I S Call α}
    (shape : config.threads = before ++ old :: after) (absent : before.length ∉ history.map Prod.fst)
    (related : sim.rely config.state state) {abstract : T} (replays : Replays sim.atomic initial history abstract)
    (refines : sim.refines state (sim.atomic new.call abstract).2)
    (continues : sim.Decided (sim.atomic new.call abstract).1 new.program state) :
    sim.Linearizes initial ⟨state, before ++ new :: after⟩
      (history ++ [(before.length, new.call, (sim.atomic new.call abstract).1)]) where
  replayed := ⟨_, .snoc before.length new.call replays, refines⟩
  once := by
    rw [map_append, nodup_append]
    refine ⟨linearizes.once, by simp, ?_⟩
    intro index member other singleton same
    rw [map_singleton, mem_singleton] at singleton
    rw [same, singleton] at member
    exact absent member
  decided := by
    intro entry inHistory
    rcases mem_append.mp inHistory with earlier | last
    · obtain ⟨thread, found, called, decided⟩ := linearizes.decided entry earlier
      rw [getElem?_replaced new shape, if_neg]
      · exact ⟨thread, found, called, decided.of_rely related⟩
      · intro here
        exact absent (here ▸ mem_map_of_mem earlier)
    · rw [mem_singleton.mp last, getElem?_replaced new shape, if_pos rfl]
      exact ⟨new, rfl, rfl, continues⟩
  undecided := by
    intro index thread found outside
    rw [map_append, mem_append, not_or] at outside
    rw [getElem?_replaced new shape] at found
    split at found
    · rename_i here
      exact absurd (by simp [here]) outside.2
    · exact (linearizes.undecided index thread found outside.1).of_rely related

end Step

end Simulation

namespace Pool

/-- What a pool and a simulation have to do with each other. -/
structure Simulates (pool : Pool I S Call α) (sim : Simulation I S Call α T) : Prop where
  sameHandler : sim.handler = pool.handler
  closed : ∀ state next, ¬ pool.environment state next
  entering : ∀ call state, pool.offered call → sim.Undecided call (pool.body call) state

variable {pool : Pool I S Call α} {sim : Simulation I S Call α T} {initial : T}

theorem linearizes_step (simulates : pool.Simulates sim) {next : Config I S Call α} {history : History I Call α}
    (linearizes : sim.Linearizes initial config history) (step : pool.Step config next) :
    ∃ more, sim.Linearizes initial next (history ++ more) ∧ sim.rely config.state next.state := by
  cases step with
  | enter call offered =>
    refine ⟨[], ?_, sim.refl _⟩
    rw [append_nil]
    exact linearizes.enter (simulates.entering call _ offered)
  | environment changed => exact absurd changed (simulates.closed _ _)
  | @issue state before after call log command continuation admitted =>
    rw [← simulates.sameHandler]
    obtain ⟨abstract, replays, refines⟩ := linearizes.replayed
    by_cases member : before.length ∈ history.map Prod.fst
    · obtain ⟨entry, inHistory, index⟩ := mem_map.mp member
      obtain ⟨thread, found, called, decided⟩ := linearizes.decided entry inHistory
      have acting : thread = ⟨call, .perform command continuation, log⟩ := by
        rw [index, getElem?_append_right (Nat.le_refl _)] at found
        simpa using found.symm
      rw [acting] at decided
      obtain ⟨related, -, -⟩ := decided state abstract (sim.refl _) refines
      refine ⟨[], ?_, related⟩
      rw [append_nil]
      refine linearizes.issue_decided rfl member related rfl ?_ ?_
      · exact fun other stands => (decided state other (sim.refl _) stands).2.1
      · exact fun result known => (known state abstract (sim.refl _) refines).2.2
    · have undecided := linearizes.undecided before.length ⟨call, .perform command continuation, log⟩
        (by simp) member
      obtain ⟨related, ⟨kept, continues⟩ | ⟨made, continues⟩⟩ := undecided state abstract (sim.refl _) refines
      · refine ⟨[], ?_, related⟩
        rw [append_nil]
        exact linearizes.issue_undecided rfl member related replays kept continues
      · exact ⟨_, @Simulation.Linearizes.issue_deciding _ _ _ _ _ _ _ before after _ sim initial history linearizes
          ⟨call, continuation (sim.handler command state).1, log ++ [(state, command)]⟩ rfl member related abstract
          replays made continues, related⟩

/-- The histories of a run, each a continuation of the one before it. -/
theorem exists_histories (simulates : pool.Simulates sim) {configs : Nat → Config I S Call α} {count : Nat}
    (steps : ∀ time < count, pool.Step (configs time) (configs (time + 1)))
    (initially : sim.Linearizes initial (configs 0) []) :
    ∃ histories : Nat → History I Call α, (∀ time ≤ count, sim.Linearizes initial (configs time) (histories time)) ∧
      ∀ earlier later, earlier ≤ later → later ≤ count →
        histories earlier <+: histories later ∧ sim.rely (configs earlier).state (configs later).state := by
  induction count with
  | zero =>
    refine ⟨fun _ => [], ?_, ?_⟩
    · intro time none
      rw [Nat.le_zero.mp none]
      exact initially
    · intro earlier later order none
      have last := Nat.le_zero.mp none
      subst last
      rw [Nat.le_zero.mp order]
      exact ⟨prefix_rfl, sim.refl _⟩
  | succ count ih =>
    obtain ⟨histories, each, grows⟩ := ih fun time before => steps time (by omega)
    obtain ⟨more, last, related⟩ := linearizes_step simulates (each count (Nat.le_refl _)) (steps count (by omega))
    refine ⟨fun time => if time ≤ count then histories time else histories count ++ more, ?_, ?_⟩
    · intro time inside
      by_cases old : time ≤ count
      · simp only [if_pos old]
        exact each time old
      · have new : time = count + 1 := by omega
        simp only [new, if_neg (show ¬ count + 1 ≤ count by omega)]
        exact last
    · intro earlier later order inside
      by_cases old : later ≤ count
      · simp only [if_pos old, if_pos (Nat.le_trans order old)]
        exact grows earlier later order old
      · have new : later = count + 1 := by omega
        simp only [if_neg old]
        by_cases before : earlier ≤ count
        · obtain ⟨prior, relatedBefore⟩ := grows earlier count before (Nat.le_refl _)
          simp only [if_pos before]
          exact ⟨prior.trans (prefix_append _ _), new ▸ sim.trans relatedBefore related⟩
        · have same : earlier = count + 1 := by omega
          simp only [if_neg before]
          exact ⟨prefix_rfl, by rw [same, new]; exact sim.refl _⟩

/-- One order of the operations of a run: executed atomically they give every program that has ended its answer, and
the order is that of real time. -/
structure Linearization (atomic : Call → T → Except I.Exception α × T) (initial : T)
    (configs : Nat → Config I S Call α) (count : Nat) (history : History I Call α) : Prop where
  replayed : ∃ abstract, Replays atomic initial history abstract
  once : (history.map Prod.fst).Nodup
  called : ∀ entry ∈ history, ∃ thread, (configs count).threads[entry.1]? = some thread ∧ thread.call = entry.2.1
  answered : ∀ index thread result, (configs count).threads[index]? = some thread → thread.Finished result →
    (index, thread.call, result) ∈ history
  /-- Whatever has ended at a time comes before whatever enters after it. -/
  ordered : ∀ time ≤ count, ∃ past future, history = past ++ future ∧
    (∀ index thread result, (configs time).threads[index]? = some thread → thread.Finished result →
      index ∈ past.map Prod.fst) ∧
    ∀ index ∈ past.map Prod.fst, index < (configs time).threads.length

/-- A run of programs that simulate atomic operations is linearizable. -/
theorem exists_linearization (simulates : pool.Simulates sim) {configs : Nat → Config I S Call α} {count : Nat}
    (steps : ∀ time < count, pool.Step (configs time) (configs (time + 1)))
    (initially : sim.Linearizes initial (configs 0) []) :
    (∃ history, Linearization sim.atomic initial configs count history) ∧
      ∀ earlier later, earlier ≤ later → later ≤ count → sim.rely (configs earlier).state (configs later).state := by
  obtain ⟨histories, each, grows⟩ := exists_histories simulates steps initially
  have ended : ∀ time ≤ count, ∀ index thread result, (configs time).threads[index]? = some thread →
      thread.Finished result → (index, thread.call, result) ∈ histories time := by
    intro time inside index thread result found finished
    by_cases member : index ∈ (histories time).map Prod.fst
    · obtain ⟨entry, inHistory, rfl⟩ := mem_map.mp member
      obtain ⟨same, stands, called, decided⟩ := (each time inside).decided entry inHistory
      rw [found] at stands
      cases stands
      rw [decided.finished finished, called]
      exact inHistory
    · exact ((each time inside).undecided index thread found member).finished finished |>.elim
  refine ⟨⟨histories count, ?_⟩, fun earlier later order inside => (grows earlier later order inside).2⟩
  have whole := each count (Nat.le_refl _)
  obtain ⟨abstract, replays, -⟩ := whole.replayed
  refine ⟨⟨abstract, replays⟩, whole.once, ?_, ended count (Nat.le_refl _), ?_⟩
  · intro entry member
    obtain ⟨thread, found, called, -⟩ := whole.decided entry member
    exact ⟨thread, found, called⟩
  · intro time inside
    obtain ⟨future, joined⟩ := (grows time count inside (Nat.le_refl _)).1
    refine ⟨histories time, future, joined.symm, ?_, fun index member => (each time inside).index_lt member⟩
    intro index thread result found finished
    exact mem_map_of_mem (ended time inside index thread result found finished)

/-! ## Schedules -/

/-- Every choice of a schedule finds a command to issue. -/
def acting (pool : Pool I S Call α) : List (Move Call) → Config I S Call α → Bool
  | [], _ => true
  | .enter call :: rest, config => pool.acting rest (pool.move (.enter call) config)
  | .issue index :: rest, config =>
    (match config.threads.drop index with
      | ⟨_, .perform _ _, _⟩ :: _ => true
      | _ => false) && pool.acting rest (pool.move (.issue index) config)

/-- A schedule is a run with a configuration for every time. -/
theorem steps_play {pool : Pool I S Call α} {moves : List (Move Call)} (legal : pool.Legal moves config)
    (acts : pool.acting moves config = true) :
    ∀ time < moves.length, pool.Step (pool.play (moves.take time) config) (pool.play (moves.take (time + 1)) config) := by
  induction moves generalizing config with
  | nil => exact fun time before => absurd before (Nat.not_lt_zero _)
  | cons next rest ih =>
    intro time before
    cases time with
    | zero =>
      cases next with
      | enter call => exact .enter call legal.1
      | issue index =>
        have permitted := legal.1
        simp only [acting, Bool.and_eq_true] at acts
        have acts := acts.1
        simp only [Permits] at permitted
        simp only [take_zero, take_succ_cons, play, foldl_cons, foldl_nil, move]
        split at acts
        · rename_i call command continuation log after dropped
          simp only [dropped] at permitted ⊢
          have shape : config.threads = config.threads.take index ++ ⟨call, .perform command continuation, log⟩ ::
              after := by
            rw [← dropped, take_append_drop]
          have step : pool.Step ⟨config.state, config.threads.take index ++
              ⟨call, .perform command continuation, log⟩ :: after⟩ _ := .issue permitted
          rw [← shape] at step
          exact step
        · cases acts
    | succ time =>
      have later : pool.acting rest (pool.move next config) = true := by
        cases next with
        | enter call => exact acts
        | issue index =>
          simp only [acting, Bool.and_eq_true] at acts
          exact acts.2
      exact ih legal.2 later time (Nat.lt_of_succ_lt_succ before)

end Pool

end AiGovernance.Semantics
