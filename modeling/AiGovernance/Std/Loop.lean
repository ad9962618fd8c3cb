import Mathlib.Logic.Function.Basic

/-!
# Loops with a measure

A `while` loop is a body that goes on with a new state or ends with a result.
Where a measure falls with every round, `Loop.complete` runs the body to its
end. Two loops whose bodies agree on every state they meet have the same result,
whatever their measures.
-/

namespace AiGovernance.Std.Loop

variable {S R : Type}

/-- So many rounds of a body. -/
def run (body : S → S ⊕ R) : Nat → S → Option R
  | 0, _ => none
  | rounds + 1, state =>
    match body state with
    | .inl next => run body rounds next
    | .inr result => some result

variable {result : R} {body : S → S ⊕ R} {rounds : Nat} {state : S}

theorem run_of_le {more : Nat} (ended : run body rounds state = some result) (enough : rounds ≤ more) :
    run body more state = some result := by
  induction rounds generalizing more state with
  | zero => cases ended
  | succ rounds ih =>
    obtain ⟨extra, rfl⟩ := Nat.exists_eq_add_of_le' enough
    rw [← Nat.add_assoc]
    unfold run at ended ⊢
    split at ended
    · exact ih ended (Nat.le_add_left rounds extra)
    · exact ended

variable {measure : S → Nat}

/-- As many rounds as the measure says are enough. -/
theorem run_isSome (falls : ∀ {state next}, body state = .inl next → measure next < measure state)
    (enough : measure state < rounds) : (run body rounds state).isSome := by
  induction rounds generalizing state with
  | zero => exact absurd enough (Nat.not_lt_zero _)
  | succ rounds ih =>
    unfold run
    split
    · rename_i next continues
      have less := falls continues
      exact ih (by omega)
    · rfl

/-- The result of a loop whose measure falls. -/
def complete (body : S → S ⊕ R) (measure : S → Nat)
    (falls : ∀ {state next}, body state = .inl next → measure next < measure state) (state : S) : R :=
  (run body (measure state + 1) state).get (run_isSome falls (Nat.lt_succ_self _))

theorem complete_eq (falls : ∀ {state next}, body state = .inl next → measure next < measure state)
    (ended : run body rounds state = some result) : complete body measure falls state = result := by
  have own : run body (measure state + 1) state = some (complete body measure falls state) :=
    (Option.some_get _).symm
  have far := run_of_le ended (Nat.le_max_left rounds (measure state + 1))
  have ownFar := run_of_le own (Nat.le_max_right rounds (measure state + 1))
  rw [ownFar] at far
  exact Option.some.inj far

theorem complete_again (falls : ∀ {state next}, body state = .inl next → measure next < measure state) {next : S}
    (continues : body state = .inl next) : complete body measure falls state = complete body measure falls next := by
  have ended : run body (measure next + 1 + 1) state = some (complete body measure falls next) := by
    rw [run, continues]
    exact (Option.some_get _).symm
  exact complete_eq falls ended

theorem complete_end (falls : ∀ {state next}, body state = .inl next → measure next < measure state)
    (ends : body state = .inr result) : complete body measure falls state = result := by
  have ended : run body 1 state = some result := by rw [run, ends]
  exact complete_eq falls ended

/-- The invariant rule: what every round keeps holds when the loop ends. -/
theorem complete_invariant (falls : ∀ {state next}, body state = .inl next → measure next < measure state)
    (invariant : S → Prop) (ensured : R → Prop)
    (kept : ∀ {state next}, invariant state → body state = .inl next → invariant next)
    (ends : ∀ {state result}, invariant state → body state = .inr result → ensured result) (holds : invariant state) :
    ensured (complete body measure falls state) := by
  generalize bound : measure state = left
  induction left using Nat.strongRecOn generalizing state with
  | ind left ih =>
    cases round : body state with
    | inl next =>
      rw [complete_again falls round]
      exact ih (measure next) (bound ▸ falls round) (kept holds round) rfl
    | inr result =>
      rw [complete_end falls round]
      exact ends holds round

section Lockstep

variable {body other : S → S ⊕ R} {invariant : S → Prop}
  (agree : ∀ {state}, invariant state → body state = other state)
  (kept : ∀ {state next}, invariant state → body state = .inl next → invariant next)

include agree kept

theorem run_congr {state : S} (holds : invariant state) (rounds : Nat) :
    run body rounds state = run other rounds state := by
  induction rounds generalizing state with
  | zero => rfl
  | succ rounds ih =>
    unfold run
    rw [← agree holds]
    split
    · rename_i next continues
      exact ih (kept holds continues)
    · rfl

/-- Bodies that agree wherever the loop comes give the same result. -/
theorem complete_congr {measure otherMeasure : S → Nat}
    (falls : ∀ {state next}, body state = .inl next → measure next < measure state)
    (otherFalls : ∀ {state next}, other state = .inl next → otherMeasure next < otherMeasure state)
    {state : S} (holds : invariant state) :
    complete body measure falls state = complete other otherMeasure otherFalls state := by
  have ended : run other (otherMeasure state + 1) state = some (complete other otherMeasure otherFalls state) :=
    (Option.some_get _).symm
  rw [← run_congr agree kept holds] at ended
  exact complete_eq falls ended

end Lockstep

end AiGovernance.Std.Loop
