import Mathlib.Data.List.Forall2

/-!
# Machines of atomic calls

A machine serves one call at a time. `after` and `answers` are what a sequence
of calls leaves and gives, and `Along` says that every call of a sequence meets
a condition in the state it is served in. An invariant and a relation of two
machines are proved one call at a time, and hold along a whole sequence.
-/

namespace AiGovernance.Semantics

/-- A component that serves its calls one at a time. -/
structure Machine (S Call Answer : Type) where
  serve : Call → S → Answer × S

namespace Machine

variable {S T Call Answer : Type}

section Single

variable (machine : Machine S Call Answer)

/-- The state a sequence of calls leaves. -/
def after : List Call → S → S
  | [], state => state
  | call :: rest, state => after rest (machine.serve call state).2

/-- The answers a sequence of calls is given. -/
def answers : List Call → S → List Answer
  | [], _ => []
  | call :: rest, state => (machine.serve call state).1 :: answers rest (machine.serve call state).2

/-- Every call meets the condition in the state it is served in. -/
def Along (condition : S → Call → Prop) : List Call → S → Prop
  | [], _ => True
  | call :: rest, state => condition state call ∧ Along condition rest (machine.serve call state).2

variable {machine} {condition : S → Call → Prop} {state : S}

@[simp] theorem after_append (earlier later : List Call) :
    machine.after (earlier ++ later) state = machine.after later (machine.after earlier state) := by
  induction earlier generalizing state with
  | nil => rfl
  | cons call rest ih => exact ih

@[simp] theorem along_append {earlier later : List Call} :
    machine.Along condition (earlier ++ later) state ↔
      machine.Along condition earlier state ∧ machine.Along condition later (machine.after earlier state) := by
  induction earlier generalizing state with
  | nil => exact (iff_of_eq (true_and _)).symm
  | cons call rest ih =>
    change condition state call ∧ machine.Along condition (rest ++ later) _ ↔ _
    rw [ih, ← and_assoc]
    rfl

theorem along_iff {calls : List Call} : machine.Along condition calls state ↔
    ∀ earlier call later, calls = earlier ++ call :: later → condition (machine.after earlier state) call := by
  constructor
  · rintro along earlier call later rfl
    exact (along_append.mp along).2.1
  · intro each
    induction calls generalizing state with
    | nil => trivial
    | cons call rest ih =>
      refine ⟨each [] call rest rfl, ih ?_⟩
      rintro earlier next later rfl
      exact each (call :: earlier) next later rfl

theorem Along.and {calls : List Call} {other : S → Call → Prop} (first : machine.Along condition calls state)
    (second : machine.Along other calls state) :
    machine.Along (fun state call => condition state call ∧ other state call) calls state := by
  rw [along_iff] at first second ⊢
  exact fun earlier call later whole => ⟨first earlier call later whole, second earlier call later whole⟩

theorem Along.invariant {calls : List Call} {invariant : S → Prop} (along : machine.Along condition calls state)
    (kept : ∀ {state call}, invariant state → condition state call → invariant (machine.serve call state).2)
    (initial : invariant state) : invariant (machine.after calls state) := by
  induction calls generalizing state with
  | nil => exact initial
  | cons call rest ih => exact ih along.2 (kept initial along.1)

theorem Along.related {calls : List Call} {invariant : S → Prop} {related : S → S → Prop}
    (along : machine.Along condition calls state)
    (kept : ∀ {state call}, invariant state → condition state call → invariant (machine.serve call state).2)
    (refl : ∀ state, related state state)
    (trans : ∀ {first second third}, related first second → related second third → related first third)
    (step : ∀ {state call}, invariant state → condition state call → related state (machine.serve call state).2)
    (initial : invariant state) : related state (machine.after calls state) := by
  induction calls generalizing state with
  | nil => exact refl state
  | cons call rest ih =>
    exact trans (step initial along.1) (ih along.2 (kept initial along.1))

/-- Two conditions that agree call by call, as long as either holds, agree along a whole sequence. -/
theorem Along.iff {calls : List Call} {invariant : S → Prop} {first second : S → Call → Prop}
    (along : machine.Along condition calls state)
    (agree : ∀ {state call}, invariant state → condition state call → (first state call ↔ second state call))
    (kept : ∀ {state call}, invariant state → condition state call → second state call →
      invariant (machine.serve call state).2)
    (initial : invariant state) : machine.Along first calls state ↔ machine.Along second calls state := by
  induction calls generalizing state with
  | nil => exact Iff.rfl
  | cons call rest ih =>
    have same := agree initial along.1
    constructor
    · rintro ⟨holds, others⟩
      have next := kept initial along.1 (same.mp holds)
      exact ⟨same.mp holds, (ih along.2 next).mp others⟩
    · rintro ⟨holds, others⟩
      have next := kept initial along.1 holds
      exact ⟨same.mpr holds, (ih along.2 next).mpr others⟩

end Single

section Pair

variable {Reply : Type} {left : Machine S Call Answer} {right : Machine T Call Reply} {condition : S → Call → Prop}
  {related : S → T → Prop} {same : Answer → Reply → Prop} {state : S} {other : T}

/-- Two machines that answer alike call by call answer a whole sequence alike. -/
theorem Along.simulates {calls : List Call} (along : left.Along condition calls state)
    (alike : ∀ {state other call}, related state other → condition state call →
      same (left.serve call state).1 (right.serve call other).1 ∧
        related (left.serve call state).2 (right.serve call other).2)
    (initial : related state other) :
    List.Forall₂ same (left.answers calls state) (right.answers calls other) ∧
      related (left.after calls state) (right.after calls other) := by
  induction calls generalizing state other with
  | nil => exact ⟨.nil, initial⟩
  | cons call rest ih =>
    obtain ⟨answer, next⟩ := alike initial along.1
    obtain ⟨answers, last⟩ := ih along.2 next
    exact ⟨.cons answer answers, last⟩

end Pair

end Machine

end AiGovernance.Semantics
