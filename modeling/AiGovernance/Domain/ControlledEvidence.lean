import AiGovernance.Domain.Replay

/-!
# Construction of a controlled evidence intervention

The checks of `ControlledEvidenceIntervention.__post_init__`, which end with the
digest of the other fields. A digest given to the constructor is compared if it
is not empty.
-/

namespace AiGovernance.Domain

open AiGovernance.Std

/-- An optional number as a value. -/
def ControlledEvidenceIntervention.numberValue (value : Option Int) : Json := (value.map .int).getD .null

namespace ControlledEvidenceIntervention

open ReplayManifestRecord (optionalValue)

/-- What the digest of an intervention is taken of. -/
def payload (intervention : ControlledEvidenceIntervention) : List (String × Json) :=
  [("strategy", .str intervention.strategy.value), ("strategy_version", .str intervention.strategyVersion),
    ("source", .str intervention.sourceEvidenceReference),
    ("counterfactual", optionalValue intervention.counterfactualEvidenceReference),
    ("target", optionalValue intervention.targetEventId), ("seed", numberValue intervention.seed),
    ("configuration", .obj intervention.configuration), ("policy_id", optionalValue intervention.policyId),
    ("policy_version", numberValue intervention.policyVersion),
    ("provider_id", optionalValue intervention.providerId),
    ("provider_version", optionalValue intervention.providerVersion),
    ("original_digest", optionalValue intervention.originalEvidenceDigest),
    ("counterfactual_digest", optionalValue intervention.counterfactualEvidenceDigest)]

/-- Which of the provenance fields are set. -/
def provenance (intervention : ControlledEvidenceIntervention) : List Bool :=
  [intervention.policyId.isSome, intervention.policyVersion.isSome, intervention.providerId.isSome,
    intervention.providerVersion.isSome, intervention.originalEvidenceDigest.isSome,
    intervention.counterfactualEvidenceDigest.isSome]

/-- The checks of the fields but the digest. -/
def violation (intervention : ControlledEvidenceIntervention) : Option Raised :=
  firstViolation [
    rejectIf (Text.isBlank intervention.strategyVersion || Text.isBlank intervention.sourceEvidenceReference)
      .valueError "Controlled evidence strategy_version and source evidence reference are required.",
    rejectIf (intervention.strategy = .replace &&
        intervention.counterfactualEvidenceReference.all Text.isBlank) .valueError
      "REPLACE requires a counterfactual evidence reference.",
    rejectIf (intervention.counterfactualEvidenceReference.any Text.isBlank) .valueError
      "Counterfactual evidence reference must not be blank.",
    rejectIf (intervention.targetEventId.any Text.isBlank) .valueError
      "Controlled evidence target event ID must not be blank.",
    rejectIf (intervention.provenance.any id && !intervention.provenance.all id) .valueError
      "Controlled evidence provenance must be complete when present.",
    rejectIf (intervention.policyVersion.any (· < 1)) .valueError
      "Controlled evidence policy version must be positive."]

variable (primitives : Primitives)

/-- The digest of the fields of an intervention. -/
def digest (intervention : ControlledEvidenceIntervention) : String :=
  primitives.stableDigest intervention.payload

/-- `ControlledEvidenceIntervention(…)`. -/
def create (given : ControlledEvidenceIntervention) : Except Raised ControlledEvidenceIntervention :=
  match violation given with
  | some raised => .error raised
  | none =>
    if given.interventionDigest ≠ "" ∧ given.interventionDigest ≠ digest primitives given then
      .error ⟨.valueError, "Controlled evidence intervention digest does not match content."⟩
    else .ok { given with interventionDigest := digest primitives given }

/-- An intervention given without a digest gets that of its fields. -/
theorem create_undigested {given : ControlledEvidenceIntervention} (valid : violation given = none)
    (undigested : given.interventionDigest = "") :
    create primitives given = .ok { given with interventionDigest := digest primitives given } := by
  unfold create
  rw [valid]
  exact if_neg fun both => both.1 undigested

/-- What the constructor returns, it accepts with its digest. -/
theorem create_created {given created : ControlledEvidenceIntervention}
    (built : create primitives given = .ok created) : create primitives created = .ok created := by
  unfold create at built
  split at built
  · cases built
  · rename_i valid
    split at built
    · cases built
    · cases built
      have same : violation { given with interventionDigest := digest primitives given } = none := valid
      have kept : digest primitives { given with interventionDigest := digest primitives given } =
        digest primitives given := rfl
      unfold create
      rw [same, kept]
      simp

end ControlledEvidenceIntervention

end AiGovernance.Domain
