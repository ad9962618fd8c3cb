import AiGovernance.Domain.ReplayManifest
import AiGovernance.Std.Steps

/-!
# The digest of a replay manifest

What `from_dict` accepts. A serialised manifest gives back the manifest, and a
mapping that carries a digest is accepted only with that of its evidence. A
mapping whose `manifest_hash` is the empty text is accepted with any evidence.
-/

namespace AiGovernance.Replays

open AiGovernance.Std Domain ReplayManifest

namespace ReplayManifest

/-- A field of a mapping; an absent one is `None`. -/
def fieldOr (value : List (String × Json)) (name : String) : Json := (Json.field value name).getD .null

/-- The evidence in one reason of a mapping. -/
def reasonEvidence : Json → Json
  | .obj fields => .obj [("code", fieldOr fields "code"), ("message", fieldOr fields "message")]
  | other => other

/-- The evidence in the reasons of a mapping. -/
def reasonsEvidence (value : List (String × Json)) : Json :=
  match Json.field value "reasons" with
  | none => .arr []
  | some (.arr items) => .arr (items.map reasonEvidence)
  | some other => other

/-- The evidence fields of a mapping. -/
def evidence (value : List (String × Json)) : List (String × Json) :=
  [("schema_version", fieldOr value "schema_version"), ("source_execution_id", fieldOr value "source_execution_id"),
    ("source_execution_status", fieldOr value "source_execution_status"),
    ("eligibility", fieldOr value "eligibility"), ("tool_call_count", fieldOr value "tool_call_count"),
    ("evidence_reference_count", fieldOr value "evidence_reference_count"), ("reasons", reasonsEvidence value),
    ("runtime_type", fieldOr value "runtime_type"), ("adapter_id", fieldOr value "adapter_id"),
    ("adapter_version", fieldOr value "adapter_version"), ("replay_reference", fieldOr value "replay_reference"),
    ("isolation_guarantee", fieldOr value "isolation_guarantee")]

/-! ## What the decoders read -/

variable {name : String} {value : List (String × Json)}

theorem requiredString_eq_ok {text : String} :
    requiredString value name = .ok text ↔ Json.field value name = some (.str text) := by
  unfold requiredString
  constructor
  · intro read
    split at read
    · cases read
    · cases read
      assumption
    · cases read
  · intro found
    rw [found]

theorem requiredInt_eq_ok {number : Int} :
    requiredInt value name = .ok number ↔ Json.field value name = some (.int number) := by
  unfold requiredInt
  constructor
  · intro read
    split at read
    · cases read
    · cases read
      assumption
    · cases read
  · intro found
    rw [found]

theorem fieldOr_of_requiredString {text : String} (read : requiredString value name = .ok text) :
    fieldOr value name = .str text := by
  unfold fieldOr
  rw [requiredString_eq_ok.mp read]
  rfl

theorem fieldOr_of_requiredInt {number : Int} (read : requiredInt value name = .ok number) :
    fieldOr value name = .int number := by
  unfold fieldOr
  rw [requiredInt_eq_ok.mp read]
  rfl

theorem fieldOr_of_optionalString {text : Option String} (read : optionalString value name = .ok text) :
    fieldOr value name = ReplayManifestRecord.optionalValue text := by
  unfold fieldOr
  unfold optionalString at read
  split at read
  case h_1 absent =>
    cases read
    rw [absent]
    rfl
  case h_2 null =>
    cases read
    rw [null]
    rfl
  case h_3 found =>
    cases read
    rw [found]
    rfl
  case h_4 => cases read

/-- The reason read from a value keeps the evidence of the value. -/
theorem reasonEvidence_of_read {value : Json} {reason : ReplayManifestReason}
    (read : reasonFromMapping value = .ok reason) : reasonEvidence value = reason.toDict := by
  unfold reasonFromMapping at read
  split at read
  case h_2 => cases read
  case h_1 fields =>
    obtain ⟨code, readCode, read⟩ := bind_ok read
    obtain ⟨message, readMessage, read⟩ := bind_ok read
    obtain ⟨reasonCode, known, created⟩ := bind_ok read
    have same := Checked.create_eq_ok_iff.mp created
    change Json.obj [("code", fieldOr fields "code"), ("message", fieldOr fields "message")] = reason.toDict
    unfold ReplayManifestReason.toDict
    rw [same, fieldOr_of_requiredString readCode, fieldOr_of_requiredString readMessage,
      ReplayManifestReasonCode.value_of_ofValue known]

theorem payload_of_reasons {items : List Json} {reasons : List ReplayManifestReason}
    (read : items.mapM reasonFromMapping = .ok reasons) :
    items.map reasonEvidence = reasons.map ReplayManifestReason.toDict := by
  induction items generalizing reasons with
  | nil =>
    cases read
    rfl
  | cons item rest ih =>
    rw [List.mapM_cons] at read
    obtain ⟨reason, first, read⟩ := bind_ok read
    obtain ⟨others, remaining, read⟩ := bind_ok read
    cases read
    rw [List.map_cons, List.map_cons, reasonEvidence_of_read first, ih remaining]

theorem reasonsEvidence_of_read {items : List Json} {reasons : List ReplayManifestReason}
    (listed : reasonItems value = .ok items) (read : items.mapM reasonFromMapping = .ok reasons) :
    reasonsEvidence value = .arr (reasons.map ReplayManifestReason.toDict) := by
  rw [← payload_of_reasons read]
  unfold reasonItems at listed
  unfold reasonsEvidence
  split at listed
  case h_1 absent =>
    cases listed
    simp [absent]
  case h_2 found =>
    cases listed
    simp only [found]
  case h_3 => cases listed

/-- The payload of what is read from a mapping is the evidence of the mapping. -/
theorem payload_of_read {record : ReplayManifestRecord} (read : readRecord value = .ok record) :
    record.payload = evidence value := by
  unfold readRecord at read
  obtain ⟨items, listed, read⟩ := bind_ok read
  obtain ⟨sourceExecutionId, sourceExecution, read⟩ := bind_ok read
  obtain ⟨sourceExecutionStatus, status, read⟩ := bind_ok read
  obtain ⟨eligibilityText, eligibility, read⟩ := bind_ok read
  obtain ⟨toolCallCount, toolCalls, read⟩ := bind_ok read
  obtain ⟨evidenceReferenceCount, references, read⟩ := bind_ok read
  obtain ⟨reasons, explained, read⟩ := bind_ok read
  obtain ⟨runtimeType, runtime, read⟩ := bind_ok read
  obtain ⟨adapterId, adapter, read⟩ := bind_ok read
  obtain ⟨adapterVersion, version, read⟩ := bind_ok read
  obtain ⟨replayReference, reference, read⟩ := bind_ok read
  obtain ⟨isolationGuarantee, isolation, read⟩ := bind_ok read
  obtain ⟨schemaVersion, schema, read⟩ := bind_ok read
  obtain ⟨known, recognised, read⟩ := bind_ok read
  cases read
  unfold evidence
  rw [fieldOr_of_requiredString schema, fieldOr_of_requiredString sourceExecution,
    fieldOr_of_requiredString status, fieldOr_of_requiredString eligibility, fieldOr_of_requiredInt toolCalls,
    fieldOr_of_requiredInt references, reasonsEvidence_of_read listed explained,
    fieldOr_of_optionalString runtime, fieldOr_of_optionalString adapter, fieldOr_of_optionalString version,
    fieldOr_of_optionalString reference, fieldOr_of_optionalString isolation,
    ← ReplayManifestEligibility.value_of_ofValue recognised]
  rfl

/-! ## What a serialised manifest gives -/

@[simp] theorem reasonFromMapping_toDict (reason : ReplayManifestReason) :
    reasonFromMapping reason.toDict = .ok reason := by
  have code : requiredString [("code", .str reason.record.code.value), ("message", .str reason.record.message)]
      "code" = .ok reason.record.code.value := rfl
  have message : requiredString [("code", .str reason.record.code.value), ("message", .str reason.record.message)]
      "message" = .ok reason.record.message := rfl
  unfold reasonFromMapping ReplayManifestReason.toDict
  simp only [code, message, bind, Except.bind, ReplayManifestReasonCode.ofValue_value]
  exact Checked.create_eq_ok_iff.mpr rfl

theorem mapM_reasonFromMapping (reasons : List ReplayManifestReason) :
    (reasons.map ReplayManifestReason.toDict).mapM reasonFromMapping = .ok reasons :=
  mapM_readBack fun reason _ => reasonFromMapping_toDict reason

theorem optionalString_of_field {text : Option String}
    (found : Json.field value name = some (ReplayManifestRecord.optionalValue text)) :
    optionalString value name = .ok text := by
  unfold optionalString
  rw [found]
  cases text <;> rfl

/-- The payload of a record is read back, whatever follows it. -/
theorem readRecord_payload (record : ReplayManifestRecord) (rest : List (String × Json)) :
    readRecord (record.payload ++ rest) = .ok record := by
  have runtime : optionalString (record.payload ++ rest) "runtime_type" = .ok record.runtimeType :=
    optionalString_of_field rfl
  have adapter : optionalString (record.payload ++ rest) "adapter_id" = .ok record.adapterId :=
    optionalString_of_field rfl
  have version : optionalString (record.payload ++ rest) "adapter_version" = .ok record.adapterVersion :=
    optionalString_of_field rfl
  have reference : optionalString (record.payload ++ rest) "replay_reference" = .ok record.replayReference :=
    optionalString_of_field rfl
  have isolation : optionalString (record.payload ++ rest) "isolation_guarantee" = .ok record.isolationGuarantee :=
    optionalString_of_field rfl
  have reasons : reasonItems (record.payload ++ rest) = .ok (record.reasons.map ReplayManifestReason.toDict) := rfl
  have sourceExecution : requiredString (record.payload ++ rest) "source_execution_id" =
    .ok record.sourceExecutionId := rfl
  have status : requiredString (record.payload ++ rest) "source_execution_status" =
    .ok record.sourceExecutionStatus := rfl
  have eligibility : requiredString (record.payload ++ rest) "eligibility" = .ok record.eligibility.value := rfl
  have toolCalls : requiredInt (record.payload ++ rest) "tool_call_count" = .ok record.toolCallCount := rfl
  have references : requiredInt (record.payload ++ rest) "evidence_reference_count" =
    .ok record.evidenceReferenceCount := rfl
  have schema : requiredString (record.payload ++ rest) "schema_version" = .ok record.schemaVersion := rfl
  unfold readRecord
  rw [reasons, sourceExecution, status, eligibility, toolCalls, references, runtime, adapter, version, reference,
    isolation, schema]
  simp only [bind, Except.bind, mapM_reasonFromMapping, ReplayManifestEligibility.ofValue_value]
  rfl

/-- What is accepted: the record of the manifest is read, and the digest is empty or that of the manifest. -/
theorem fromDict_eq_ok {primitives : Primitives} {manifest : ReplayManifest} :
    fromDict primitives value = .ok manifest ↔
      readRecord value = .ok manifest.record ∧
        (Json.field value "manifest_hash" = some (.str "") ∨
          Json.field value "manifest_hash" = some (.str (manifestHash primitives manifest))) := by
  unfold fromDict
  constructor
  · intro decoded
    obtain ⟨made, built, same⟩ : ∃ made, (do
        let record ← readRecord value
        create primitives record (← requiredString value "manifest_hash")) = .ok made ∧ made = manifest := by
      revert decoded
      cases (do
        let record ← readRecord value
        create primitives record (← requiredString value "manifest_hash")) with
      | error raised => nofun
      | ok made => exact fun decoded => ⟨made, rfl, by cases decoded; rfl⟩
    subst same
    obtain ⟨record, read, built⟩ := bind_ok built
    obtain ⟨digest, carried, built⟩ := bind_ok built
    unfold create at built
    obtain ⟨checked, created, built⟩ := bind_ok built
    have fields := Checked.create_eq_ok_iff.mp created
    split at built
    · cases built
    · rename_i agrees
      cases built
      rw [fields]
      refine ⟨read, ?_⟩
      rw [requiredString_eq_ok.mp carried]
      unfold manifestHash
      rw [fields]
      by_cases empty : digest = ""
      · left
        rw [empty]
      · right
        rw [not_and, not_not] at agrees
        rw [agrees empty]
  · rintro ⟨read, carried⟩
    have valid : (Checked.create manifest.record : Except Raised ReplayManifest) = .ok manifest :=
      Checked.create_eq_ok_iff.mpr rfl
    rcases carried with empty | same
    · rw [read, requiredString_eq_ok.mpr empty]
      simp [bind, Except.bind, create, valid, Except.mapError, pure, Except.pure]
    · rw [read, requiredString_eq_ok.mpr same]
      simp [bind, Except.bind, create, valid, Except.mapError, pure, Except.pure, manifestHash]

theorem fromDict_error {primitives : Primitives} {raised : Raised}
    (rejected : fromDict primitives value = .error raised) :
    raised = ⟨.valueError, "Replay manifest is malformed."⟩ := by
  simp only [fromDict, Except.mapError] at rejected
  split at rejected
  · cases rejected
    rfl
  · cases rejected

theorem stableDigest_ne_empty (primitives : Primitives) (fields : List (String × Json)) :
    primitives.stableDigest fields ≠ "" := by
  intro empty
  have hex : Text.isHexDigest (primitives.stableDigest fields) = true := primitives.sha256Json_hex _
  rw [empty] at hex
  cases hex

/-! ## Serialisation keeps the evidence -/

/-- The names of the evidence fields. -/
def evidenceNames : List String :=
  ["schema_version", "source_execution_id", "source_execution_status", "eligibility", "tool_call_count",
    "evidence_reference_count", "reasons", "runtime_type", "adapter_id", "adapter_version", "replay_reference",
    "isolation_guarantee"]

theorem payload_eq_fields (record : ReplayManifestRecord) :
    record.payload = evidenceNames.map fun name => (name, fieldOr record.payload name) := rfl

@[simp] theorem sortKeys_optionalValue (value : Option String) :
    Json.sortKeys (ReplayManifestRecord.optionalValue value) = ReplayManifestRecord.optionalValue value := by
  cases value <;> rfl

theorem sortItems_reasons (reasons : List ReplayManifestReason) :
    Json.sortItems (reasons.map ReplayManifestReason.toDict) = reasons.map ReplayManifestReason.toDict := by
  induction reasons with
  | nil => rfl
  | cons reason rest ih =>
    rw [List.map_cons, Json.sortItems, ih]
    rfl

/-- Sorting the keys of a payload changes none of its values. -/
theorem fieldOr_sortFields (record : ReplayManifestRecord) :
    ∀ name ∈ evidenceNames, fieldOr (Json.sortFields record.payload) name = fieldOr record.payload name := by
  have reasons : Json.sortKeys (.arr (record.reasons.map ReplayManifestReason.toDict)) =
      .arr (record.reasons.map ReplayManifestReason.toDict) := by
    rw [Json.sortKeys, sortItems_reasons]
  intro name listed
  unfold fieldOr
  rw [Json.field_sortFields]
  simp only [evidenceNames, List.mem_cons, List.not_mem_nil, or_false] at listed
  rcases listed with rfl | rfl | rfl | rfl | rfl | rfl | rfl | rfl | rfl | rfl | rfl | rfl
  · rfl
  · rfl
  · rfl
  · rfl
  · rfl
  · rfl
  · exact reasons
  · exact sortKeys_optionalValue record.runtimeType
  · exact sortKeys_optionalValue record.adapterId
  · exact sortKeys_optionalValue record.adapterVersion
  · exact sortKeys_optionalValue record.replayReference
  · exact sortKeys_optionalValue record.isolationGuarantee

/-- Payloads that serialise alike are equal. -/
theorem payload_of_sorted {left right : ReplayManifestRecord}
    (same : Json.sortKeys (.obj left.payload) = Json.sortKeys (.obj right.payload)) :
    left.payload = right.payload := by
  have fields : Json.sortFields left.payload = Json.sortFields right.payload := Json.obj.inj same
  rw [payload_eq_fields left, payload_eq_fields right]
  refine List.map_congr_left fun name listed => ?_
  rw [← fieldOr_sortFields left name listed, fields, fieldOr_sortFields right name listed]

/-- SHA-256 tells two payloads apart when they serialise differently. -/
def TellsApart (primitives : Primitives) (left right : List (String × Json)) : Prop :=
  primitives.stableDigest left = primitives.stableDigest right →
    Json.sortKeys (.obj left) = Json.sortKeys (.obj right)

/-- A serialised manifest gives back the manifest. What is accepted carries the
digest of its evidence exactly when its `manifest_hash` is not empty. Evidence
changed under the digest of a manifest is rejected. -/
theorem integrity_iff (primitives : Primitives) :
    (∀ manifest, fromDict primitives (toDict primitives manifest) = .ok manifest) ∧
      (∀ value manifest, fromDict primitives value = .ok manifest →
        (Json.field value "manifest_hash" = some (.str (primitives.stableDigest (evidence value))) ↔
          Json.field value "manifest_hash" ≠ some (.str ""))) ∧
      ∀ manifest value, TellsApart primitives (evidence value) manifest.record.payload →
        Json.field value "manifest_hash" = Json.field (toDict primitives manifest) "manifest_hash" →
        evidence value ≠ manifest.record.payload →
        fromDict primitives value = .error ⟨.valueError, "Replay manifest is malformed."⟩ := by
  refine ⟨fun manifest => ?_, fun value manifest accepted => ?_, fun manifest value apart kept changed => ?_⟩
  · rw [fromDict_eq_ok]
    constructor
    · exact readRecord_payload manifest.record _
    · right
      rfl
  · obtain ⟨read, carried⟩ := fromDict_eq_ok.mp accepted
    rw [← payload_of_read read]
    constructor
    · intro same empty
      rw [empty] at same
      exact stableDigest_ne_empty primitives _ (Json.str.inj (Option.some.inj same)).symm
    · intro present
      exact carried.resolve_left present
  · cases decoded : fromDict primitives value with
    | error raised => rw [fromDict_error decoded]
    | ok accepted =>
      obtain ⟨read, carried⟩ := fromDict_eq_ok.mp decoded
      have digest : Json.field (toDict primitives manifest) "manifest_hash" =
        some (.str (manifestHash primitives manifest)) := rfl
      rw [kept, digest] at carried
      rw [← payload_of_read read] at apart changed
      rcases carried with empty | same
      · exact absurd (Json.str.inj (Option.some.inj empty)) (stableDigest_ne_empty primitives _)
      · have equal : manifestHash primitives manifest = manifestHash primitives accepted :=
          Json.str.inj (Option.some.inj same)
        exact absurd (payload_of_sorted (apart equal.symm)) changed

/-- A manifest of an execution that was still running. -/
def running : ReplayManifest :=
  ⟨{ sourceExecutionId := "execution-1", sourceExecutionStatus := "RUNNING", eligibility := .ineligible,
     toolCallCount := 2, evidenceReferenceCount := 2,
     reasons := [⟨{ code := .executionNotTerminal, message := "The execution is running." }, by decide +kernel⟩] },
    by decide +kernel⟩

/-- A count of tool calls changed in a serialised manifest. -/
def recounted (manifestHash : String) : List (String × Json) :=
  ({ running.record with toolCallCount := 3 } : ReplayManifestRecord).payload ++ [("manifest_hash", .str manifestHash)]

theorem integrity_recounted :
    fromDict (Primitives.tabulated [] [(Json.sortKeys (.obj running.record.payload),
        "aaaaaaaaaaaaaaaaaaaaaaaaaaaaaaaaaaaaaaaaaaaaaaaaaaaaaaaaaaaaaaaa")] (by simp) (by decide +kernel))
      (recounted "aaaaaaaaaaaaaaaaaaaaaaaaaaaaaaaaaaaaaaaaaaaaaaaaaaaaaaaaaaaaaaaa") =
      .error ⟨.valueError, "Replay manifest is malformed."⟩ := by
  refine (integrity_iff _).2.2 running _ ?_ ?_ ?_
  · intro same
    exact absurd same (by decide +kernel)
  · decide +kernel
  · decide +kernel

/-- A mapping with an empty digest is accepted with evidence no digest was made of. -/
theorem undigested_accepted :
    ∃ manifest, fromDict (Primitives.tabulated [] [] (by simp) (by simp)) (recounted "") = .ok manifest ∧
      Json.field (recounted "") "manifest_hash" ≠
        some (.str ((Primitives.tabulated [] [] (by simp) (by simp)).stableDigest (evidence (recounted "")))) := by
  refine ⟨⟨{ running.record with toolCallCount := 3 }, by decide +kernel⟩, ?_, by decide +kernel⟩
  rw [fromDict_eq_ok]
  constructor
  · exact readRecord_payload _ _
  · left
    rfl

end ReplayManifest

end AiGovernance.Replays
