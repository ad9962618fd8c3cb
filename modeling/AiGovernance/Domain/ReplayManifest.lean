import AiGovernance.Domain.RuntimeAuthorization

/-!
# Replay manifests

The evidence on whether an execution can be replayed
(`domain/replay/manifest.py`). A manifest keeps the digest of its own evidence;
the digest is a function of the other fields, so it is not a field here.
-/

namespace AiGovernance.Domain

open AiGovernance.Std

/-- `REPLAY_MANIFEST_SCHEMA_VERSION`. -/
def replayManifestSchemaVersion : String := "replay-manifest/v1"

/-- `ReplayManifestEligibility`. -/
inductive ReplayManifestEligibility where
  | eligible
  | ineligible
deriving DecidableEq

/-- The value of an eligibility. -/
def ReplayManifestEligibility.value : ReplayManifestEligibility → String
  | eligible => "ELIGIBLE"
  | ineligible => "INELIGIBLE"

/-- `ReplayManifestEligibility(value)`. -/
def ReplayManifestEligibility.ofValue (value : String) : Except Raised ReplayManifestEligibility :=
  if value = "ELIGIBLE" then .ok .eligible
  else if value = "INELIGIBLE" then .ok .ineligible
  else .error ⟨.valueError, "'" ++ value ++ "' is not a valid ReplayManifestEligibility"⟩

/-- `ReplayManifestReasonCode`. -/
inductive ReplayManifestReasonCode where
  | executionNotTerminal
  | missingReplayCapability
  | invalidReplayCapability
  | missingIsolationGuarantee
  | toolCallIdentityMissing
  | evidenceReferenceMissing
  | toolCallGraphInvalid
  | tenantScopeMismatch
deriving DecidableEq

namespace ReplayManifestReasonCode

/-- The value of a reason code. -/
def value : ReplayManifestReasonCode → String
  | executionNotTerminal => "EXECUTION_NOT_TERMINAL"
  | missingReplayCapability => "MISSING_REPLAY_CAPABILITY"
  | invalidReplayCapability => "INVALID_REPLAY_CAPABILITY"
  | missingIsolationGuarantee => "MISSING_ISOLATION_GUARANTEE"
  | toolCallIdentityMissing => "TOOL_CALL_IDENTITY_MISSING"
  | evidenceReferenceMissing => "EVIDENCE_REFERENCE_MISSING"
  | toolCallGraphInvalid => "TOOL_CALL_GRAPH_INVALID"
  | tenantScopeMismatch => "TENANT_SCOPE_MISMATCH"

/-- The reason codes. -/
def all : List ReplayManifestReasonCode :=
  [executionNotTerminal, missingReplayCapability, invalidReplayCapability, missingIsolationGuarantee,
    toolCallIdentityMissing, evidenceReferenceMissing, toolCallGraphInvalid, tenantScopeMismatch]

/-- `ReplayManifestReasonCode(value)`. -/
def ofValue (value : String) : Except Raised ReplayManifestReasonCode :=
  match all.find? (·.value = value) with
  | some code => .ok code
  | none => .error ⟨.valueError, "'" ++ value ++ "' is not a valid ReplayManifestReasonCode"⟩

@[simp] theorem ofValue_value (code : ReplayManifestReasonCode) : ofValue code.value = .ok code := by
  cases code <;> rfl

theorem value_of_ofValue {text : String} {code : ReplayManifestReasonCode} (read : ofValue text = .ok code) :
    code.value = text := by
  unfold ofValue at read
  split at read
  · rename_i found
    cases read
    simpa using List.find?_some found
  · cases read

end ReplayManifestReasonCode

@[simp] theorem ReplayManifestEligibility.ofValue_value (eligibility : ReplayManifestEligibility) :
    ofValue eligibility.value = .ok eligibility := by
  cases eligibility <;> rfl

theorem ReplayManifestEligibility.value_of_ofValue {text : String} {eligibility : ReplayManifestEligibility}
    (read : ofValue text = .ok eligibility) : eligibility.value = text := by
  unfold ofValue at read
  split at read
  · cases read
    symm
    assumption
  · split at read
    · cases read
      symm
      assumption
    · cases read

/-- The fields of `ReplayManifestReason`. -/
structure ReplayManifestReasonRecord where
  code : ReplayManifestReasonCode
  message : String
deriving DecidableEq

/-- `ReplayManifestReason.__post_init__`. -/
def ReplayManifestReasonRecord.violation (record : ReplayManifestReasonRecord) : Option Raised :=
  rejectIf (Text.isBlank record.message || decide (512 < record.message.length)) .valueError
    "Replay manifest reason must be bounded and non-blank."

/-- `ReplayManifestReason`. -/
abbrev ReplayManifestReason := Checked ReplayManifestReasonRecord.violation

/-- `ReplayManifestReason.to_dict`. -/
def ReplayManifestReason.toDict (reason : ReplayManifestReason) : Json :=
  .obj [("code", .str reason.record.code.value), ("message", .str reason.record.message)]

/-- The fields of `ReplayManifest` but `manifest_hash`. -/
structure ReplayManifestRecord where
  sourceExecutionId : String
  sourceExecutionStatus : String
  eligibility : ReplayManifestEligibility
  toolCallCount : Int
  evidenceReferenceCount : Int
  reasons : List ReplayManifestReason := []
  runtimeType : Option String := none
  adapterId : Option String := none
  adapterVersion : Option String := none
  replayReference : Option String := none
  isolationGuarantee : Option String := none
  schemaVersion : String := replayManifestSchemaVersion
deriving DecidableEq

namespace ReplayManifestRecord

/-- An identifying field of a manifest must be bounded and not blank. -/
def requireText (name value : String) : Option Raised :=
  rejectIf (Text.isBlank value || decide (256 < value.length)) .valueError
    ("Replay manifest " ++ name ++ " must be bounded and non-blank.")

/-- A capability field of a manifest must be bounded when it is present. -/
def requireOptional (name : String) (value : Option String) : Option Raised :=
  rejectIf (value.any fun value => Text.isBlank value || decide (512 < value.length)) .valueError
    ("Replay manifest " ++ name ++ " must be bounded when present.")

/-- The checks of `ReplayManifest.__post_init__` but that of the digest. -/
def violation (record : ReplayManifestRecord) : Option Raised :=
  firstViolation [
    rejectIf (record.schemaVersion ≠ replayManifestSchemaVersion) .valueError
      "Unsupported replay manifest schema version.",
    requireText "source_execution_id" record.sourceExecutionId,
    requireText "source_execution_status" record.sourceExecutionStatus,
    rejectIf (record.toolCallCount < 0 || record.evidenceReferenceCount < 0) .valueError
      "Replay manifest evidence counts must be non-negative.",
    rejectIf (record.eligibility = .eligible && !record.reasons.isEmpty) .valueError
      "An eligible replay manifest cannot contain ineligibility reasons.",
    rejectIf (record.eligibility = .ineligible && record.reasons.isEmpty) .valueError
      "An ineligible replay manifest requires an explicit reason.",
    requireOptional "runtime_type" record.runtimeType,
    requireOptional "adapter_id" record.adapterId,
    requireOptional "adapter_version" record.adapterVersion,
    requireOptional "replay_reference" record.replayReference,
    requireOptional "isolation_guarantee" record.isolationGuarantee,
    rejectIf (record.eligibility = .eligible &&
        !(record.runtimeType.isSome && record.adapterId.isSome && record.adapterVersion.isSome &&
          record.replayReference.isSome && record.isolationGuarantee.isSome)) .valueError
      "An eligible replay manifest requires capability and isolation evidence."]

/-- An optional text as a value. -/
def optionalValue (value : Option String) : Json := (value.map .str).getD .null

/-- `_payload_without_hash`. -/
def payload (record : ReplayManifestRecord) : List (String × Json) :=
  [("schema_version", .str record.schemaVersion), ("source_execution_id", .str record.sourceExecutionId),
    ("source_execution_status", .str record.sourceExecutionStatus), ("eligibility", .str record.eligibility.value),
    ("tool_call_count", .int record.toolCallCount), ("evidence_reference_count", .int record.evidenceReferenceCount),
    ("reasons", .arr (record.reasons.map ReplayManifestReason.toDict)),
    ("runtime_type", optionalValue record.runtimeType), ("adapter_id", optionalValue record.adapterId),
    ("adapter_version", optionalValue record.adapterVersion),
    ("replay_reference", optionalValue record.replayReference),
    ("isolation_guarantee", optionalValue record.isolationGuarantee)]

end ReplayManifestRecord

/-- `ReplayManifest`. -/
abbrev ReplayManifest := Checked ReplayManifestRecord.violation

namespace ReplayManifest

variable (primitives : Primitives)

/-- The field `manifest_hash` of a manifest. -/
def manifestHash (manifest : ReplayManifest) : String := primitives.stableDigest manifest.record.payload

/-- `ReplayManifest(…)`: the digest given is compared only if it is not empty. -/
def create (record : ReplayManifestRecord) (manifestHash : String) : Except Raised ReplayManifest := do
  let manifest ← Checked.create record
  if manifestHash ≠ "" ∧ manifestHash ≠ primitives.stableDigest record.payload then
    throw ⟨.valueError, "Replay manifest hash does not match its evidence."⟩
  return manifest

/-- `to_dict`. -/
def toDict (manifest : ReplayManifest) : List (String × Json) :=
  manifest.record.payload ++ [("manifest_hash", .str (manifestHash primitives manifest))]

/-- `_required_string`. -/
def requiredString (value : List (String × Json)) (name : String) : Except Raised String :=
  match Json.field value name with
  | none => .error ⟨.keyError, name⟩
  | some (.str text) => .ok text
  | some _ => .error ⟨.typeError, "Replay manifest " ++ name ++ " must be a string."⟩

/-- `_required_int`. -/
def requiredInt (value : List (String × Json)) (name : String) : Except Raised Int :=
  match Json.field value name with
  | none => .error ⟨.keyError, name⟩
  | some (.int number) => .ok number
  | some _ => .error ⟨.typeError, "Replay manifest " ++ name ++ " must be an integer."⟩

/-- `_optional_string(value.get(…))`. -/
def optionalString (value : List (String × Json)) (name : String) : Except Raised (Option String) :=
  match Json.field value name with
  | none => .ok none
  | some .null => .ok none
  | some (.str text) => .ok (some text)
  | some _ => .error ⟨.typeError, "Replay manifest values must be strings when present."⟩

/-- `_reason_from_mapping`. -/
def reasonFromMapping (value : Json) : Except Raised ReplayManifestReason := do
  match value with
  | .obj fields =>
    let code ← requiredString fields "code"
    let message ← requiredString fields "message"
    Checked.create { code := ← ReplayManifestReasonCode.ofValue code, message }
  | _ => throw ⟨.typeError, "Replay manifest reason must be a mapping."⟩

/-- `value.get("reasons", ())`. -/
def reasonItems (value : List (String × Json)) : Except Raised (List Json) :=
  match Json.field value "reasons" with
  | none => .ok []
  | some (.arr items) => .ok items
  | some _ => .error ⟨.typeError, "Replay manifest reasons must be a list."⟩

/-- The fields of a mapping. -/
def readRecord (value : List (String × Json)) : Except Raised ReplayManifestRecord := do
  let reasons ← reasonItems value
  let sourceExecutionId ← requiredString value "source_execution_id"
  let sourceExecutionStatus ← requiredString value "source_execution_status"
  let eligibility ← requiredString value "eligibility"
  let toolCallCount ← requiredInt value "tool_call_count"
  let evidenceReferenceCount ← requiredInt value "evidence_reference_count"
  let reasons ← reasons.mapM reasonFromMapping
  let runtimeType ← optionalString value "runtime_type"
  let adapterId ← optionalString value "adapter_id"
  let adapterVersion ← optionalString value "adapter_version"
  let replayReference ← optionalString value "replay_reference"
  let isolationGuarantee ← optionalString value "isolation_guarantee"
  let schemaVersion ← requiredString value "schema_version"
  let eligibility ← ReplayManifestEligibility.ofValue eligibility
  return {
    sourceExecutionId, sourceExecutionStatus, eligibility, toolCallCount, evidenceReferenceCount, reasons,
    runtimeType, adapterId, adapterVersion, replayReference, isolationGuarantee, schemaVersion }

/-- `from_dict`: every failure is the same error. -/
def fromDict (value : List (String × Json)) : Except Raised ReplayManifest :=
  let decoded : Except Raised ReplayManifest := do
    let record ← readRecord value
    create primitives record (← requiredString value "manifest_hash")
  decoded.mapError fun _ => ⟨.valueError, "Replay manifest is malformed."⟩

end ReplayManifest

end AiGovernance.Domain
