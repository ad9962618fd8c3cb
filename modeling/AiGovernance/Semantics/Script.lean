import AiGovernance.Semantics.Program

/-!
# Scripted faults

One run of a program in which a part of the commands fails as a script says: the
script names, call by call, what that part raises instead of acting. A script is
one behaviour of the service behind those commands, and a property stated for
every script holds for every behaviour.
-/

namespace AiGovernance.Semantics

variable {I : Interface} {S : Type}

/-- What each call of a service raises; `none` lets it act. -/
abbrev FaultScript (I : Interface) := Nat → Option I.Exception

/-- A store whose `served` commands follow a script; the calls made so far are counted. -/
def scripted (handler : Handler I S) (served : I.Command → Bool) (script : FaultScript I) : Handler I (S × Nat) :=
  fun command state =>
    if served command then
      match script state.2 with
      | some exception => (.error exception, state.1, state.2 + 1)
      | none => ((handler command state.1).1, (handler command state.1).2, state.2 + 1)
    else ((handler command state.1).1, (handler command state.1).2, state.2)

variable {handler : Handler I S} {served : I.Command → Bool} {script : FaultScript I}

variable {command : I.Command}

theorem scripted_acts (within : served command = true) {calls : Nat} (acts : script calls = none) (state : S) :
    scripted handler served script command (state, calls) =
      ((handler command state).1, (handler command state).2, calls + 1) := by
  unfold scripted
  rw [if_pos within]
  dsimp only
  rw [acts]

theorem scripted_fails (within : served command = true) {calls : Nat} {exception : I.Exception}
    (fails : script calls = some exception) (state : S) :
    scripted handler served script command (state, calls) = (.error exception, state, calls + 1) := by
  unfold scripted
  rw [if_pos within]
  dsimp only
  rw [fails]

/-! ## One failing call -/

/-- Only the call at one point fails. -/
def failsAt (point : Nat) (exception : I.Exception) : FaultScript I :=
  fun call => if call = point then some exception else none

theorem failsAt_self (point : Nat) (exception : I.Exception) :
    failsAt point exception point = some exception := if_pos rfl

theorem failsAt_of_ne {point call : Nat} (other : call ≠ point) (exception : I.Exception) :
    failsAt point exception call = none := if_neg other

namespace Program

variable {α : Type} {command : I.Command} {next : I.Answer command → Program I α}

variable {calls : Nat}

theorem run_scripted_acts (within : served command = true) (acts : script calls = none) {state after : S}
    {answer : I.Answer command} (answered : handler command state = (.ok answer, after)) :
    (call command >>= next).run (scripted handler served script) (state, calls) =
      (next answer).run (scripted handler served script) (after, calls + 1) := by
  apply run_read_bind
  rw [scripted_acts within acts, answered]

theorem run_scripted_refuses (within : served command = true) (acts : script calls = none) {state after : S}
    {exception : I.Exception} (refused : handler command state = (.error exception, after)) :
    (call command >>= next).run (scripted handler served script) (state, calls) =
      (.error exception, after, calls + 1) := by
  rw [run_bind, run_call, scripted_acts within acts, refused]

theorem run_scripted_fails (within : served command = true) {exception : I.Exception}
    (fails : script calls = some exception) (state : S) :
    (call command >>= next).run (scripted handler served script) (state, calls) =
      (.error exception, state, calls + 1) := by
  rw [run_bind, run_call, scripted_fails within fails]

end Program

end AiGovernance.Semantics
