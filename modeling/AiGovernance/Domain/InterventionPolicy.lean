import AiGovernance.Domain.Replay

/-!
# Evidence intervention policies

`EvidenceInterventionPolicy` of `domain/causal_audit/intervention_policy.py`
with its construction check and transitions. The digest is a function of the
content that it covers; it is computed where it is read.
-/

namespace AiGovernance.Interventions

open AiGovernance.Std Domain

/-- `EvidenceInterventionPolicyStatus`. -/
inductive PolicyStatus where
  | draft
  | active
  | retired
deriving DecidableEq

/-- What `_digest` covers. -/
structure PolicyContent where
  policyId : String
  version : Int
  organizationId : String
  projectId : Option String
  toolName : String
  schemaId : String
  schemaVersion : String
  providerId : String
  providerVersion : String
  allowedStrategies : List ControlledEvidenceStrategy
  strategyConfiguration : List (String × Json)
deriving DecidableEq

/-- The fields of `EvidenceInterventionPolicy`. -/
structure EvidenceInterventionPolicyRecord where
  content : PolicyContent
  status : PolicyStatus
  createdAt : Instant
  createdBy : String
  activatedAt : Option Instant := none
  activatedBy : Option String := none
  retiredAt : Option Instant := none
deriving DecidableEq

/-- A text of a policy that must not be blank. -/
def requirePolicy (name value : String) : Option Raised :=
  rejectIf (Text.isBlank value) .valueError ("Intervention policy " ++ name ++ " is required.")

/-- `EvidenceInterventionPolicy.__post_init__`. -/
def EvidenceInterventionPolicyRecord.violation (record : EvidenceInterventionPolicyRecord) : Option Raised :=
  firstViolation [
    requirePolicy "policy_id" record.content.policyId,
    requirePolicy "organization_id" record.content.organizationId,
    requirePolicy "tool_name" record.content.toolName,
    requirePolicy "schema_id" record.content.schemaId,
    requirePolicy "schema_version" record.content.schemaVersion,
    requirePolicy "provider_id" record.content.providerId,
    requirePolicy "provider_version" record.content.providerVersion,
    requirePolicy "created_by" record.createdBy,
    rejectIf (record.content.projectId.any Text.isBlank) .valueError
      "Intervention policy project_id must not be blank.",
    rejectIf (record.content.version < 1 || record.content.allowedStrategies.isEmpty) .valueError
      "Intervention policy version and strategies are required.",
    rejectIf (¬ record.content.allowedStrategies.Nodup) .valueError
      "Intervention policy strategies must be unique.",
    rejectIf (record.status = .active && (record.activatedAt.isNone || record.activatedBy.all (· = ""))) .valueError
      "Active intervention policies require activation evidence.",
    rejectIf (record.status = .retired && record.retiredAt.isNone) .valueError
      "Retired intervention policies require retired_at."]

/-- A policy version. -/
abbrev EvidenceInterventionPolicy := Checked EvidenceInterventionPolicyRecord.violation

namespace EvidenceInterventionPolicy

/-- `activate`. -/
def activate (policy : EvidenceInterventionPolicy) (actorId : String) (now : Instant) :
    Except Raised EvidenceInterventionPolicy :=
  match policy.record.status with
  | .active => .ok policy
  | .retired => .error ⟨.valueError, "Only draft intervention policies can be activated."⟩
  | .draft =>
    if Text.isBlank actorId then .error ⟨.valueError, "Policy activation requires an actor."⟩
    else Checked.create { policy.record with status := .active, activatedAt := some now, activatedBy := some actorId }

/-- `retire`. -/
def retire (policy : EvidenceInterventionPolicy) (now : Instant) : Except Raised EvidenceInterventionPolicy :=
  match policy.record.status with
  | .retired => .ok policy
  | .draft => .error ⟨.valueError, "Only active intervention policies can be retired."⟩
  | .active => Checked.create { policy.record with status := .retired, retiredAt := some now }

/-- `next_draft`. -/
def nextDraft (policy : EvidenceInterventionPolicy) (actorId : String) (now : Instant)
    (configuration : List (String × Json)) : Except Raised EvidenceInterventionPolicy :=
  if policy.record.status ≠ .active then
    .error ⟨.valueError, "Only an active policy can create an edited version."⟩
  else
    Checked.create {
      content := { policy.record.content with
        version := policy.record.content.version + 1
        strategyConfiguration := configuration }
      status := .draft
      createdAt := now
      createdBy := actorId }

end EvidenceInterventionPolicy

end AiGovernance.Interventions
