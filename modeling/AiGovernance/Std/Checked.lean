/-!
# Records that carry their construction check

A frozen dataclass runs its checks when it is built, so no value of the class
violates them. `Checked violation` is the type of records for which the check
`violation` reports nothing; `Checked.create` is the only way in.
-/

namespace AiGovernance.Std

/-- A record together with the fact that its construction check passed. -/
structure Checked {Record Error : Type} (violation : Record → Option Error) where
  record : Record
  valid : violation record = none

namespace Checked

variable {Record Error : Type} {violation : Record → Option Error}

instance [DecidableEq Record] : DecidableEq (Checked violation) := fun left right =>
  decidable_of_iff (left.record = right.record)
    ⟨fun equal => by cases left; cases right; cases equal; rfl, fun equal => congrArg record equal⟩

/-- Checked records are equal exactly when the underlying records are. -/
@[ext] theorem ext {left right : Checked violation} (equal : left.record = right.record) :
    left = right := by
  cases left
  cases right
  cases equal
  rfl

/-- Run the construction check and raise what it reports. -/
def create (record : Record) : Except Error (Checked violation) :=
  match valid : violation record with
  | none => .ok ⟨record, valid⟩
  | some error => .error error

variable {record : Record}

theorem create_eq_ok_iff {checked : Checked violation} : create record = .ok checked ↔ checked.record = record := by
  unfold create
  constructor
  · intro created
    split at created
    · cases created
      rfl
    · cases created
  · rintro rfl
    split
    · rfl
    · rename_i error violated
      rw [checked.valid] at violated
      cases violated

/-- A created record is made of the fields it was given. -/
theorem created_induct {motive : Checked violation → Prop} {checked : Checked violation}
    (created : create record = .ok checked) (made : ∀ valid, motive ⟨record, valid⟩) : motive checked := by
  obtain ⟨fields, valid⟩ := checked
  have same : fields = record := create_eq_ok_iff.mp created
  subst same
  exact made valid

theorem create_of_valid (valid : violation record = none) : create record = .ok (⟨record, valid⟩ : Checked violation) :=
  create_eq_ok_iff.mpr rfl

theorem create_eq_error_iff {error : Error} :
    (create record : Except Error (Checked violation)) = .error error ↔
      violation record = some error := by
  unfold create
  split
  · simp [*]
  · simp [*]

end Checked

end AiGovernance.Std
