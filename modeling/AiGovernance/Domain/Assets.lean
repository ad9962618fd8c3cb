import AiGovernance.Domain.RuntimeCapabilities
import AiGovernance.Std.Catalogue

/-!
# Prompts and models

The records of the asset registries, `Prompt` and `Model`. Both are versions of
an asset of a tenant and live through the same states, and neither's checks ask
for the state: another state is always another record.
-/

namespace AiGovernance.Domain

open AiGovernance.Std

/-- `AssetProvenance`. -/
inductive AssetProvenance where
  | managed
  | observed
  | imported
deriving DecidableEq

namespace AssetProvenance

/-- The stored text of a provenance. -/
def value : AssetProvenance → String
  | .managed => "MANAGED"
  | .observed => "OBSERVED"
  | .imported => "IMPORTED"

end AssetProvenance

/-- `PromptStatus` and `ModelStatus` have the same members. -/
abbrev AssetStatus := VersionStatus

/-- The stored text of a status. -/
def AssetStatus.value : AssetStatus → String
  | .draft => "DRAFT"
  | .active => "ACTIVE"
  | .deprecated => "DEPRECATED"
  | .archived => "ARCHIVED"

/-- `_require_non_empty` of a record. -/
def requireRecordText (record name value : String) : Option Raised :=
  rejectIf (Text.isBlank value) .valueError (record ++ " " ++ name ++ " must not be empty.")

/-- The tenant of a record and the name it is known under there. -/
structure AssetName (N : Type) where
  organizationId : String
  projectId : String
  name : N
deriving DecidableEq

/-! ## Prompts -/

/-- The fields of `Prompt`. -/
structure PromptFields where
  promptId : String
  name : String
  version : String
  template : Option String
  variableNames : List String
  createdAt : Instant
  createdBy : String
  status : AssetStatus
  provenance : AssetProvenance := .managed
  sourceSystem : Option String := none
  sourceReference : Option String := none
  contentHash : Option String := none
  contentAvailable : Bool := true
  tenantId : String := "org_default"
  organizationId : String := "org_default"
  projectId : String := "project_default"
deriving DecidableEq

/-- `Prompt.__post_init__`. -/
def PromptFields.violation (prompt : PromptFields) : Option Raised :=
  firstViolation [
    requireRecordText "Prompt" "prompt_id" prompt.promptId,
    requireRecordText "Prompt" "name" prompt.name,
    requireRecordText "Prompt" "version" prompt.version,
    requireRecordText "Prompt" "created_by" prompt.createdBy,
    requireRecordText "Prompt" "tenant_id" prompt.tenantId,
    requireRecordText "Prompt" "organization_id" prompt.organizationId,
    requireRecordText "Prompt" "project_id" prompt.projectId,
    rejectIf (prompt.contentAvailable && prompt.template.isNone) .valueError
      "Prompt template is required when content is available.",
    rejectIf (prompt.template.any Text.isBlank) .valueError "Prompt template must not be empty when supplied.",
    rejectIf (!prompt.contentAvailable && prompt.template.isSome) .valueError
      "Prompt template cannot be supplied when content is unavailable.",
    if prompt.provenance = .managed then none
    else requireRecordText "Prompt" "source_system" (prompt.sourceSystem.getD ""),
    prompt.contentHash.bind (requireRecordText "Prompt" "content_hash"),
    rejectIf (!decide prompt.variableNames.Nodup) .valueError "Prompt variables must be unique."]

/-- `Prompt`: fields that pass the check. -/
abbrev Prompt := Checked PromptFields.violation

/-- What stays of a prompt when its status changes, beside its identity. -/
structure PromptContent where
  template : Option String
  variableNames : List String
  contentHash : Option String
  provenance : AssetProvenance
deriving DecidableEq

namespace Prompt

/-- `replace(prompt, status=status)`. -/
def withStatus (prompt : Prompt) (status : AssetStatus) : Prompt :=
  ⟨{ prompt.record with status }, prompt.valid⟩

/-- A prompt as a version of a catalogue. -/
def described : Described Prompt String (AssetName String) String PromptContent where
  key prompt := prompt.record.promptId
  asset prompt := ⟨prompt.record.organizationId, prompt.record.projectId, prompt.record.name⟩
  version prompt := prompt.record.version
  managed prompt := prompt.record.provenance = .managed
  content prompt :=
    ⟨prompt.record.template, prompt.record.variableNames, prompt.record.contentHash, prompt.record.provenance⟩
  status prompt := prompt.record.status
  withStatus := withStatus
  key_withStatus _ _ := rfl
  asset_withStatus _ _ := rfl
  version_withStatus _ _ := rfl
  managed_withStatus _ _ := rfl
  content_withStatus _ _ := rfl
  status_withStatus _ _ := rfl

end Prompt

/-! ## Models -/

/-- The fields of `Model`; a model without a capability snapshot is given the legacy one. -/
structure ModelFields where
  modelId : String
  provider : String
  modelName : String
  version : String
  parameters : List (String × Json)
  cost : Option (List (String × Rat))
  latency : Option Rat
  contextWindow : Int
  creator : String
  createdAt : Instant
  status : AssetStatus
  provenance : AssetProvenance := .managed
  sourceSystem : Option String := none
  sourceReference : Option String := none
  tenantId : String := "org_default"
  organizationId : String := "org_default"
  projectId : String := "project_default"
  runtimeCapabilities : ModelRuntimeCapabilitySnapshot
  providerModelId : Option String := none
deriving DecidableEq

/-- The check of one entry of a model's cost. -/
def costViolation (entry : String × Rat) : Option Raised :=
  (requireRecordText "Model" "cost key" entry.1).or
    (rejectIf (entry.2 < 0) .valueError "Model cost values must not be negative.")

/-- `Model.__post_init__`. -/
def ModelFields.violation (model : ModelFields) : Option Raised :=
  firstViolation ([
    requireRecordText "Model" "model_id" model.modelId,
    requireRecordText "Model" "provider" model.provider,
    requireRecordText "Model" "model_name" model.modelName,
    requireRecordText "Model" "version" model.version,
    requireRecordText "Model" "creator" model.creator,
    requireRecordText "Model" "tenant_id" model.tenantId,
    requireRecordText "Model" "organization_id" model.organizationId,
    requireRecordText "Model" "project_id" model.projectId,
    model.providerModelId.bind (requireRecordText "Model" "provider_model_id"),
    rejectIf (model.contextWindow ≤ 0) .valueError "Model context_window must be greater than zero.",
    rejectIf (model.latency.any (· < 0)) .valueError "Model latency must not be negative."] ++
    (model.cost.getD []).map costViolation ++ [
    if model.provenance = .managed then none
    else requireRecordText "Model" "source_system" (model.sourceSystem.getD "")])

/-- `Model`: fields that pass the check. -/
abbrev Model := Checked ModelFields.violation

/-- What stays of a model when its status changes, beside its identity. -/
structure ModelContent where
  parameters : List (String × Json)
  contextWindow : Int
  providerModelId : Option String
  provenance : AssetProvenance
deriving DecidableEq

namespace Model

/-- `replace(model, status=status)`. -/
def withStatus (model : Model) (status : AssetStatus) : Model :=
  ⟨{ model.record with status }, model.valid⟩

/-- A model as a version of a catalogue; its name is that of its provider and its own. -/
def described : Described Model String (AssetName (String × String)) String ModelContent where
  key model := model.record.modelId
  asset model :=
    ⟨model.record.organizationId, model.record.projectId, model.record.provider, model.record.modelName⟩
  version model := model.record.version
  managed model := model.record.provenance = .managed
  content model :=
    ⟨model.record.parameters, model.record.contextWindow, model.record.providerModelId, model.record.provenance⟩
  status model := model.record.status
  withStatus := withStatus
  key_withStatus _ _ := rfl
  asset_withStatus _ _ := rfl
  version_withStatus _ _ := rfl
  managed_withStatus _ _ := rfl
  content_withStatus _ _ := rfl
  status_withStatus _ _ := rfl

end Model

end AiGovernance.Domain
