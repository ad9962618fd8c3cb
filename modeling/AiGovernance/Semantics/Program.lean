/-!
# Programs over a store interface

A service talks to its stores through commands; everything between two commands
is pure. `Program` is that shape: a tree of commands with one continuation per
possible answer, the raised exceptions included. One program text then has
several meanings: an undisturbed run (`run`, with the rules of `Ensures`), a run
in which commands may fail without effect (`AiGovernance.Semantics.Faults`), and
any interleaving with other programs (`AiGovernance.Semantics.Pool`). What holds
whatever the store answers is stated with `Within`.
-/

namespace AiGovernance.Semantics

/-- The commands of a store, the answer each gives, and the exceptions it may raise. -/
structure Interface where
  Command : Type
  Answer : Command → Type
  Exception : Type

/-- A computation that issues commands and continues on what they answer or raise. -/
inductive Program (I : Interface) (α : Type) : Type where
  | done (value : α)
  | raise (exception : I.Exception)
  | perform (command : I.Command)
      (next : Except I.Exception (I.Answer command) → Program I α)

/-- How a store with state `S` answers each command. -/
abbrev Handler (I : Interface) (S : Type) :=
  (command : I.Command) → S → Except I.Exception (I.Answer command) × S

namespace Program

variable {I : Interface} {S α β : Type}

variable {command : I.Command} {program : Program I α} {next : α → Program I β}

/-- Sequencing; a raised exception skips the continuation. -/
def bind : Program I α → (α → Program I β) → Program I β
  | .done value, next => next value
  | .raise exception, _ => .raise exception
  | .perform command rest, next => .perform command (fun answer => (rest answer).bind next)

instance : Monad (Program I) where
  pure := .done
  bind := bind

/-- Return the value or raise the exception of a computed result. -/
def ofExcept : Except I.Exception α → Program I α
  | .ok value => .done value
  | .error exception => .raise exception

/-- Issue a command and propagate what it raises. -/
def call (command : I.Command) : Program I (I.Answer command) := .perform command ofExcept

/-- Issue a command and catch what it raises. -/
def attempt (command : I.Command) : Program I (Except I.Exception (I.Answer command)) :=
  .perform command .done

/-- Run a program and hand what it raises to the caller. -/
def caught : Program I α → Program I (Except I.Exception α)
  | .done value => .done (.ok value)
  | .raise exception => .done (.error exception)
  | .perform command next => .perform command (fun answer => (next answer).caught)

/-- Run to the end with nothing else touching the store. -/
def run (handler : Handler I S) : Program I α → S → Except I.Exception α × S
  | .done value, state => (.ok value, state)
  | .raise exception, state => (.error exception, state)
  | .perform command next, state =>
    (next (handler command state).1).run handler (handler command state).2

@[simp] theorem done_bind (value : α) : (Program.done value : Program I α) >>= next = next value := rfl

@[simp] theorem pure_bind (value : α) : (pure value : Program I α) >>= next = next value := rfl

@[simp] theorem raise_bind (exception : I.Exception) :
    (Program.raise exception : Program I α) >>= next = .raise exception := rfl

theorem bind_assoc {γ : Type} (last : β → Program I γ) :
    program >>= next >>= last = program >>= fun value => next value >>= last := by
  induction program with
  | done value => rfl
  | raise exception => rfl
  | perform command rest ih =>
    exact congrArg (Program.perform command) (funext ih)

@[simp] theorem ofExcept_ok (value : α) :
    (ofExcept (.ok value) : Program I α) = .done value := rfl

@[simp] theorem ofExcept_error (exception : I.Exception) :
    (ofExcept (.error exception) : Program I α) = .raise exception := rfl

section Run

variable (handler : Handler I S)

@[simp] theorem run_done (value : α) (state : S) :
    (Program.done value : Program I α).run handler state = (.ok value, state) := rfl

@[simp] theorem run_pure (value : α) (state : S) :
    (pure value : Program I α).run handler state = (.ok value, state) := rfl

@[simp] theorem run_raise (exception : I.Exception) (state : S) :
    (Program.raise exception : Program I α).run handler state = (.error exception, state) := rfl

@[simp] theorem run_call (command : I.Command) (state : S) :
    (call command).run handler state = handler command state := by
  rcases answer : handler command state with ⟨result, next⟩
  cases result <;> simp [call, run, answer]

@[simp] theorem run_attempt (command : I.Command) (state : S) :
    (attempt command).run handler state =
      (.ok (handler command state).1, (handler command state).2) := rfl

@[simp] theorem run_ofExcept (result : Except I.Exception α) (state : S) :
    (ofExcept result).run handler state = (result, state) := by
  cases result <;> rfl

theorem run_caught (program : Program I α) (state : S) :
    program.caught.run handler state =
      (.ok (program.run handler state).1, (program.run handler state).2) := by
  induction program generalizing state with
  | done value => rfl
  | raise exception => rfl
  | perform command rest ih => exact ih _ _

theorem run_bind (program : Program I α) (next : α → Program I β) (state : S) :
    (program >>= next).run handler state =
      match program.run handler state with
      | (.ok value, after) => (next value).run handler after
      | (.error exception, after) => (.error exception, after) := by
  induction program generalizing state with
  | done value => rfl
  | raise exception => rfl
  | perform command rest ih =>
    exact ih (handler command state).1 (handler command state).2

@[simp] theorem run_map (program : Program I α) (relabel : α → β) (state : S) :
    (program >>= fun value => .done (relabel value)).run handler state =
      ((program.run handler state).1.map relabel, (program.run handler state).2) := by
  rw [run_bind]
  rcases program.run handler state with ⟨result, after⟩
  cases result <;> rfl

theorem run_read_bind {next : I.Answer command → Program I β} {state after : S} {answer : I.Answer command}
    (answered : handler command state = (.ok answer, after)) :
    (call command >>= next).run handler state = (next answer).run handler after := by
  rw [run_bind, run_call, answered]

theorem run_keeps {invariant : S → Prop}
    (kept : ∀ command state, invariant state → invariant (handler command state).2) (program : Program I α)
    {state : S} (holds : invariant state) : invariant (program.run handler state).2 := by
  induction program generalizing state with
  | done value => exact holds
  | raise exception => exact holds
  | perform command next ih => exact ih _ (kept command state holds)

end Run

/-! ## Whatever the store answers -/

/-- On any answers, every command issued is allowed and every value returned is expected. -/
def Within (allowed : I.Command → Prop) (returns : α → Prop) : Program I α → Prop
  | .done value => returns value
  | .raise _ => True
  | .perform command next => allowed command ∧ ∀ answer, (next answer).Within allowed returns

section Within

variable {allowed : I.Command → Prop} {returns : α → Prop}

@[simp] theorem within_done {value : α} :
    (Program.done value : Program I α).Within allowed returns ↔ returns value := Iff.rfl

@[simp] theorem within_pure {value : α} :
    (pure value : Program I α).Within allowed returns ↔ returns value := Iff.rfl

@[simp] theorem within_raise {exception : I.Exception} :
    (Program.raise exception : Program I α).Within allowed returns ↔ True := Iff.rfl

@[simp] theorem within_ofExcept {result : Except I.Exception α} :
    (ofExcept result : Program I α).Within allowed returns ↔
      ∀ value, result = .ok value → returns value := by
  cases result <;> simp

@[simp] theorem within_call {returns : I.Answer command → Prop} :
    (call command).Within allowed returns ↔ allowed command ∧ ∀ answer, returns answer := by
  simp only [call, Within, within_ofExcept]
  exact and_congr_right fun _ =>
    ⟨fun all answer => all (.ok answer) answer rfl, fun all _ answer _ => all answer⟩

@[simp] theorem within_bind {returns : β → Prop} :
    (program >>= next).Within allowed returns ↔
      program.Within allowed (fun value => (next value).Within allowed returns) := by
  induction program with
  | done value => rfl
  | raise exception => rfl
  | perform command continuation ih =>
    exact and_congr_right fun _ => forall_congr' ih

theorem within_call_bind {next : I.Answer command → Program I β} {returns : β → Prop} (permitted : allowed command)
    (rest : ∀ answer, (next answer).Within allowed returns) : (call command >>= next).Within allowed returns := by
  rw [within_bind, within_call]
  exact ⟨permitted, rest⟩

theorem within_attempt_bind {next : Except I.Exception (I.Answer command) → Program I β} {returns : β → Prop}
    (permitted : allowed command) (rest : ∀ answer, (next answer).Within allowed returns) :
    (attempt command >>= next).Within allowed returns :=
  ⟨permitted, rest⟩

theorem within_ofExcept_bind {result : Except I.Exception α} {returns : β → Prop}
    (rest : ∀ value, result = .ok value → (next value).Within allowed returns) :
    (ofExcept result >>= next).Within allowed returns := by
  rw [within_bind, within_ofExcept]
  exact rest

theorem Within.caught {returns : Except I.Exception α → Prop}
    (within : program.Within allowed (fun value => returns (.ok value)))
    (raised : ∀ exception, returns (.error exception)) : program.caught.Within allowed returns := by
  induction program with
  | done value => exact within
  | raise exception => exact raised exception
  | perform command next ih =>
    exact ⟨within.1, fun answer => ih answer (within.2 answer)⟩

theorem Within.mono {wider : I.Command → Prop} {weaker : α → Prop} (within : program.Within allowed returns)
    (permits : ∀ command, allowed command → wider command) (implies : ∀ value, returns value → weaker value) :
    program.Within wider weaker := by
  induction program with
  | done value => exact implies value within
  | raise exception => trivial
  | perform command next ih =>
    exact ⟨permits command within.1, fun answer => ih answer (within.2 answer)⟩

end Within

/-! ## Undisturbed runs -/

/-- The undisturbed run from `state` ends as `post` says. -/
def Ensures (handler : Handler I S) (program : Program I α) (state : S)
    (post : Except I.Exception α → S → Prop) : Prop :=
  post (program.run handler state).1 (program.run handler state).2

section Ensures

variable {handler : Handler I S} {state : S} {post : Except I.Exception α → S → Prop}

@[simp] theorem ensures_done {value : α} :
    (Program.done value).Ensures handler state post ↔ post (.ok value) state := Iff.rfl

@[simp] theorem ensures_pure {value : α} :
    (pure value : Program I α).Ensures handler state post ↔ post (.ok value) state := Iff.rfl

@[simp] theorem ensures_raise {exception : I.Exception} :
    (Program.raise exception).Ensures handler state post ↔ post (.error exception) state := Iff.rfl

@[simp] theorem ensures_ofExcept {result : Except I.Exception α} :
    (ofExcept result).Ensures handler state post ↔ post result state := by
  simp [Ensures]

@[simp] theorem ensures_call {post : Except I.Exception (I.Answer command) → S → Prop} :
    (call command).Ensures handler state post ↔
      post (handler command state).1 (handler command state).2 := by
  simp [Ensures]

theorem ensures_bind {post : Except I.Exception β → S → Prop} :
    (program >>= next).Ensures handler state post ↔
      program.Ensures handler state (fun result after =>
        match result with
        | .ok value => (next value).Ensures handler after post
        | .error exception => post (.error exception) after) := by
  unfold Ensures
  rw [run_bind]
  rcases program.run handler state with ⟨result, after⟩
  cases result <;> rfl

theorem ensures_call_bind {next : I.Answer command → Program I β} {post : Except I.Exception β → S → Prop}
    (answered : ∀ answer after, handler command state = (.ok answer, after) →
      (next answer).Ensures handler after post)
    (raised : ∀ exception after, handler command state = (.error exception, after) → post (.error exception) after) :
    (call command >>= next).Ensures handler state post := by
  rw [ensures_bind, ensures_call]
  rcases outcome : handler command state with ⟨result, after⟩
  cases result with
  | ok answer => exact answered answer after outcome
  | error exception => exact raised exception after outcome

theorem ensures_read_bind {next : I.Answer command → Program I β} {post : Except I.Exception β → S → Prop}
    {answer : I.Answer command} {after : S} (answered : handler command state = (.ok answer, after))
    (rest : (next answer).Ensures handler after post) : (call command >>= next).Ensures handler state post := by
  rw [ensures_bind, ensures_call, answered]
  exact rest

theorem ensures_attempt_bind {next : Except I.Exception (I.Answer command) → Program I β}
    {post : Except I.Exception β → S → Prop}
    (rest : (next (handler command state).1).Ensures handler (handler command state).2 post) :
    (attempt command >>= next).Ensures handler state post :=
  rest

theorem ensures_ofExcept_bind {result : Except I.Exception α} {post : Except I.Exception β → S → Prop}
    (value : ∀ value, result = .ok value → (next value).Ensures handler state post)
    (raised : ∀ exception, result = .error exception → post (.error exception) state) :
    (ofExcept result >>= next).Ensures handler state post := by
  cases result with
  | ok computed => exact value computed rfl
  | error exception => exact raised exception rfl

theorem Ensures.mono {weaker : Except I.Exception α → S → Prop} (ensured : program.Ensures handler state post)
    (implies : ∀ result after, post result after → weaker result after) : program.Ensures handler state weaker :=
  implies _ _ ensured

/-- A reflexive, transitive relation that every allowed command respects is
respected by every run of a program that issues only allowed commands; and what
the run returns is expected. -/
theorem Within.ensures {allowed : I.Command → Prop} {returns : α → Prop} (within : program.Within allowed returns)
    (handler : Handler I S) (relation : S → S → Prop) (reflexive : ∀ state, relation state state)
    (transitive : ∀ {first second third}, relation first second → relation second third → relation first third)
    (respects : ∀ command state, allowed command → relation state (handler command state).2) (state : S) :
    program.Ensures handler state (fun result after =>
      relation state after ∧ ∀ value, result = .ok value → returns value) := by
  induction program generalizing state with
  | done value =>
    refine ⟨reflexive state, ?_⟩
    rintro _ ⟨⟩
    exact within
  | raise exception =>
    refine ⟨reflexive state, ?_⟩
    rintro _ ⟨⟩
  | perform command next ih =>
    obtain ⟨related, returned⟩ := ih _ (within.2 _) (handler command state).2
    exact ⟨transitive (respects command state within.1) related, returned⟩

end Ensures

end Program

end AiGovernance.Semantics
