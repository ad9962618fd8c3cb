import AiGovernance.Replays.Aggregate
import AiGovernance.Replays.ManifestIntegrity
import AiGovernance.Repositories.ReplayPersistence

/-!
# A stored replay is the replay

Reading the row of a replay gives the replay back, in whatever state the calls of
its transition methods left it: each document of the row is read as what it was
written from, and the digests of the intervention and the manifest still match.
-/

namespace AiGovernance.Replays

open AiGovernance.Std Domain
open Findings (memberOf readInstant readOptionalInstant readInstant_isoformat readOptionalInstant_isoformat)
open ReplayManifestRecord (optionalValue)
open ControlledEvidenceIntervention (numberValue)

namespace ReplayPersistenceMapper

/-! ## Enumerations -/

@[simp] theorem memberOf_status (status : ReplayStatus) :
    memberOf "ReplayStatus" replayStatuses ReplayStatus.value status.value = .ok status := by
  cases status <;> rfl

@[simp] theorem memberOf_mode (mode : ReplayMode) :
    memberOf "ReplayMode" [.full] modeValue (modeValue mode) = .ok mode := by
  cases mode
  rfl

@[simp] theorem memberOf_configurationSource (source : ReplayConfigurationSource) :
    memberOf "ReplayConfigurationSource" [.original] configurationSourceValue (configurationSourceValue source) =
      .ok source := by
  cases source
  rfl

@[simp] theorem memberOf_stage (stage : ReplayFailureStage) :
    memberOf "ReplayFailureStage" stages stageValue (stageValue stage) = .ok stage := by
  cases stage <;> rfl

@[simp] theorem memberOf_strategy (strategy : ControlledEvidenceStrategy) :
    memberOf "ControlledEvidenceStrategy" [.nullify, .replace, .perturb] ControlledEvidenceStrategy.value
      strategy.value = .ok strategy := by
  cases strategy <;> rfl

/-! ## Keys of a document -/

variable {data : List (String × Json)} {name : String}

theorem textItem_of_field {text : String} (found : Json.field data name = some (.str text)) :
    textItem data name = .ok text := by
  unfold textItem item
  rw [found]
  rfl

theorem optionalTextItem_of_field {text : Option String}
    (found : Json.field data name = some (optionalValue text)) : optionalTextItem data name = .ok text := by
  unfold optionalTextItem
  rw [found]
  cases text <;> rfl

theorem optionalNumberItem_of_field {number : Option Int}
    (found : Json.field data name = some (numberValue number)) : optionalNumberItem data name = .ok number := by
  unfold optionalNumberItem
  rw [found]
  cases number <;> rfl

theorem objectItem_of_field {fields : List (String × Json)}
    (found : Json.field data name = some (.obj fields)) : objectItem data name = .ok fields := by
  unfold objectItem
  rw [found]

theorem referencesItem_of_field {texts : List String} (found : Json.field data name = some (references texts)) :
    referencesItem data name = .ok texts := by
  unfold referencesItem
  rw [found]
  exact mapM_readBack fun _ _ => rfl

/-! ## Documents -/

variable {primitives : Primitives}

/-- The document of an intervention its constructor accepts gives the intervention. -/
theorem interventionFromData_intervention {given : ControlledEvidenceIntervention}
    (built : ControlledEvidenceIntervention.create primitives given = .ok given) :
    interventionFromData primitives (some (intervention (some given))) = .ok (some given) := by
  have strategy : textItem (interventionDocument given) "strategy" = .ok given.strategy.value :=
    textItem_of_field rfl
  have strategyVersion : textItem (interventionDocument given) "strategy_version" = .ok given.strategyVersion :=
    textItem_of_field rfl
  have source : textItem (interventionDocument given) "source_evidence_reference" =
    .ok given.sourceEvidenceReference := textItem_of_field rfl
  have target : optionalTextItem (interventionDocument given) "target_event_id" = .ok given.targetEventId :=
    optionalTextItem_of_field rfl
  have counterfactual : optionalTextItem (interventionDocument given) "counterfactual_evidence_reference" =
    .ok given.counterfactualEvidenceReference := optionalTextItem_of_field rfl
  have seed : optionalNumberItem (interventionDocument given) "seed" = .ok given.seed :=
    optionalNumberItem_of_field rfl
  have configured : objectItem (interventionDocument given) "configuration" = .ok given.configuration :=
    objectItem_of_field rfl
  have policyId : optionalTextItem (interventionDocument given) "policy_id" = .ok given.policyId :=
    optionalTextItem_of_field rfl
  have policyVersion : optionalNumberItem (interventionDocument given) "policy_version" = .ok given.policyVersion :=
    optionalNumberItem_of_field rfl
  have providerId : optionalTextItem (interventionDocument given) "provider_id" = .ok given.providerId :=
    optionalTextItem_of_field rfl
  have providerVersion : optionalTextItem (interventionDocument given) "provider_version" =
    .ok given.providerVersion := optionalTextItem_of_field rfl
  have original : optionalTextItem (interventionDocument given) "original_evidence_digest" =
    .ok given.originalEvidenceDigest := optionalTextItem_of_field rfl
  have substituted : optionalTextItem (interventionDocument given) "counterfactual_evidence_digest" =
    .ok given.counterfactualEvidenceDigest := optionalTextItem_of_field rfl
  have digest : optionalTextItem (interventionDocument given) "intervention_digest" =
    .ok (some given.interventionDigest) := optionalTextItem_of_field rfl
  unfold interventionFromData intervention
  dsimp only
  rw [strategy, strategyVersion, source, target, counterfactual, seed, configured, policyId, policyVersion, providerId,
    providerVersion, original, substituted, digest]
  simp only [bind, Except.bind, memberOf_strategy, Option.getD_some]
  rw [built]
  rfl

variable (primitives) in
theorem manifestFromData_manifest (manifest : Option ReplayManifest) :
    manifestFromData primitives (some ((manifest.map fun manifest =>
      Json.obj (Domain.ReplayManifest.toDict primitives manifest)).getD .null)) = .ok manifest := by
  cases manifest with
  | none => rfl
  | some manifest =>
    have read : Domain.ReplayManifest.fromDict primitives (Domain.ReplayManifest.toDict primitives manifest) =
        .ok manifest := by
      rw [ReplayManifest.fromDict_eq_ok]
      exact ⟨ReplayManifest.readRecord_payload manifest.record _, Or.inr rfl⟩
    unfold manifestFromData
    simp only [Option.map_some, Option.getD_some, read]
    rfl

theorem configurationFromData_configuration (given : ReplayConfiguration) (rest : List (String × Json)) :
    configurationFromData primitives (some (configuration primitives given ++ rest)) = .ok (some given) := by
  have workflowId : textItem (configuration primitives given ++ rest) "workflow_id" = .ok given.record.workflowId :=
    textItem_of_field rfl
  have workflowVersion : textItem (configuration primitives given ++ rest) "workflow_version" =
    .ok given.record.workflowVersion := textItem_of_field rfl
  have adapter : textItem (configuration primitives given ++ rest) "execution_adapter" =
    .ok given.record.executionAdapter := textItem_of_field rfl
  have input : textItem (configuration primitives given ++ rest) "input_snapshot_ref" =
    .ok given.record.inputSnapshotRef := textItem_of_field rfl
  have state : textItem (configuration primitives given ++ rest) "state_snapshot_ref" =
    .ok given.record.stateSnapshotRef := textItem_of_field rfl
  have artifacts : referencesItem (configuration primitives given ++ rest) "artifact_refs" =
    .ok given.record.artifactRefs := referencesItem_of_field rfl
  have prompts : referencesItem (configuration primitives given ++ rest) "prompt_refs" =
    .ok given.record.promptRefs := referencesItem_of_field rfl
  have models : referencesItem (configuration primitives given ++ rest) "model_refs" =
    .ok given.record.modelRefs := referencesItem_of_field rfl
  have datasets : referencesItem (configuration primitives given ++ rest) "dataset_refs" =
    .ok given.record.datasetRefs := referencesItem_of_field rfl
  have policies : referencesItem (configuration primitives given ++ rest) "policy_refs" =
    .ok given.record.policyRefs := referencesItem_of_field rfl
  have parameters : objectItem (configuration primitives given ++ rest) "runtime_parameters" =
    .ok given.record.runtimeParameters := objectItem_of_field rfl
  have source : textItem (configuration primitives given ++ rest) "configuration_source" =
    .ok (configurationSourceValue given.record.configurationSource) := textItem_of_field rfl
  have resolved : optionalTextItem (configuration primitives given ++ rest) "resolved_at" =
    .ok (given.record.resolvedAt.map Instant.isoformat) := optionalTextItem_of_field rfl
  have hash : textItem (configuration primitives given ++ rest) "configuration_hash" =
    .ok given.record.configurationHash := textItem_of_field rfl
  have manifestData : Json.field (configuration primitives given ++ rest) "replay_manifest" =
    some ((given.record.replayManifest.map fun manifest =>
      Json.obj (Domain.ReplayManifest.toDict primitives manifest)).getD .null) := rfl
  have manifest := manifestFromData_manifest primitives given.record.replayManifest
  have present : Json.field (configuration primitives given ++ rest) "workflow_id" ≠ none := nofun
  unfold configurationFromData
  dsimp only
  rw [if_neg present, workflowId, workflowVersion, adapter, input, state, artifacts, prompts, models, datasets, policies,
    parameters, source, resolved, hash, manifestData, manifest]
  simp only [bind, Except.bind, memberOf_configurationSource, readOptionalInstant_isoformat]
  have made : (Checked.create given.record : Except Raised ReplayConfiguration) = .ok given :=
    Checked.create_eq_ok_iff.mpr rfl
  simp only [made]
  rfl

theorem failureFromJson_failure (given : Option ReplayFailure) :
    failureFromJson (given.map fun failed => .obj (failure failed)) = .ok given := by
  cases given with
  | none => rfl
  | some given =>
    have code : textItem (failure given) "code" = .ok given.record.code := textItem_of_field rfl
    have message : textItem (failure given) "message" = .ok given.record.message := textItem_of_field rfl
    have stage : textItem (failure given) "stage" = .ok (stageValue given.record.stage) := textItem_of_field rfl
    have details : objectItem (failure given) "details" = .ok given.record.details := objectItem_of_field rfl
    have occurred : textItem (failure given) "occurred_at" = .ok given.record.occurredAt.isoformat :=
      textItem_of_field rfl
    have made : (Checked.create given.record : Except Raised ReplayFailure) = .ok given :=
      Checked.create_eq_ok_iff.mpr rfl
    simp only [failureFromJson, Option.map_some, code, message, stage, details, occurred, bind, Except.bind,
      memberOf_stage, readInstant_isoformat]
    simp only [made]
    rfl

/-! ## Rows -/

/-- An intervention is what its constructor returned. -/
def Built (primitives : Primitives) (intervention : ControlledEvidenceIntervention) : Prop :=
  ∃ given, ControlledEvidenceIntervention.create primitives given = .ok intervention

variable {replay : Replay}

theorem interventionFromData_column (built : ∀ intervention,
      replay.controlledEvidenceIntervention = some intervention → Built primitives intervention)
    {data : Option (List (String × Json))}
    (loaded : loadObject "configuration_json" (replayConfiguration primitives replay) = .ok data) :
    interventionFromData primitives (data.bind (Json.field · "controlled_evidence_intervention")) =
      .ok replay.controlledEvidenceIntervention := by
  have decoded : interventionFromData primitives (some (intervention replay.controlledEvidenceIntervention)) =
      .ok replay.controlledEvidenceIntervention := by
    cases carried : replay.controlledEvidenceIntervention with
    | none => rfl
    | some given =>
      obtain ⟨source, created⟩ := built given carried
      exact interventionFromData_intervention (ControlledEvidenceIntervention.create_created primitives created)
  unfold replayConfiguration at loaded
  cases configured : replay.configuration with
  | none =>
    rw [configured] at loaded
    cases carried : replay.controlledEvidenceIntervention with
    | none =>
      rw [carried] at loaded
      cases loaded
      rfl
    | some given =>
      rw [carried] at loaded decoded
      cases loaded
      exact decoded
  | some resolved =>
    rw [configured] at loaded
    cases loaded
    exact decoded

theorem configurationFromData_column {data : Option (List (String × Json))}
    (loaded : loadObject "configuration_json" (replayConfiguration primitives replay) = .ok data) :
    configurationFromData primitives data = .ok replay.configuration := by
  unfold replayConfiguration at loaded
  cases configured : replay.configuration with
  | none =>
    rw [configured] at loaded
    cases carried : replay.controlledEvidenceIntervention with
    | none =>
      rw [carried] at loaded
      cases loaded
      rfl
    | some given =>
      rw [carried] at loaded
      cases loaded
      rfl
  | some resolved =>
    rw [configured] at loaded
    cases loaded
    exact configurationFromData_configuration resolved _

variable (primitives) in
theorem loadObject_column (replay : Replay) :
    ∃ data, loadObject "configuration_json" (replayConfiguration primitives replay) = .ok data := by
  unfold replayConfiguration
  cases replay.configuration with
  | none =>
    cases replay.controlledEvidenceIntervention with
    | none => exact ⟨none, rfl⟩
    | some given => exact ⟨_, rfl⟩
  | some resolved => exact ⟨_, rfl⟩

theorem fromPersistenceRecord_toPersistenceRecord (built : ∀ intervention,
      replay.controlledEvidenceIntervention = some intervention → Built primitives intervention) :
    fromPersistenceRecord primitives (toPersistenceRecord primitives replay) = .ok replay := by
  obtain ⟨data, loaded⟩ := loadObject_column primitives replay
  unfold fromPersistenceRecord toPersistenceRecord
  dsimp only
  rw [loaded]
  dsimp only [bind, Except.bind]
  rw [configurationFromData_column loaded, failureFromJson_failure, interventionFromData_column built loaded]
  simp only [memberOf_status, memberOf_mode, readInstant_isoformat, readOptionalInstant_isoformat, loadObject]
  rfl

end ReplayPersistenceMapper

/-! ## Runs -/

theorem transition_intervention {replay next : Replay} {call : Transition}
    (moved : transition replay call = .ok next) :
    next.controlledEvidenceIntervention = replay.controlledEvidenceIntervention := by
  cases transits_of_ok moved <;> rfl

theorem after_intervention (replay : Replay) (calls : List Transition) :
    (after replay calls).controlledEvidenceIntervention = replay.controlledEvidenceIntervention := by
  induction calls generalizing replay with
  | nil => rfl
  | cons call rest ih =>
    have stepped : (step replay call).controlledEvidenceIntervention = replay.controlledEvidenceIntervention := by
      unfold step
      split
      · rename_i next moved
        exact transition_intervention moved
      · rfl
    exact (ih (step replay call)).trans stepped

/-- A replay a run of transitions reached, at the version its store gave it, is
read back from the row it is written to. -/
theorem replay_round_trip {primitives : Primitives} {request : Replay.Request} {draft : Replay}
    (created : Replay.create request = .ok draft)
    (built : ∀ intervention, request.controlledEvidenceIntervention = some intervention →
      ReplayPersistenceMapper.Built primitives intervention)
    (calls : List Transition) (version : Int) :
    ReplayPersistenceMapper.fromPersistenceRecord primitives
        (ReplayPersistenceMapper.toPersistenceRecord primitives { after draft calls with version := version }) =
      .ok { after draft calls with version := version } := by
  apply ReplayPersistenceMapper.fromPersistenceRecord_toPersistenceRecord
  intro intervention carried
  apply built intervention
  rw [← carried]
  unfold Replay.create at created
  split at created
  · cases created
  · cases created
    exact (after_intervention (Replay.draftOf request) calls).symm

/-- The evidence of a replayable execution. -/
def claimsManifest : ReplayManifest :=
  ⟨{ sourceExecutionId := "exec-1", sourceExecutionStatus := "COMPLETED", eligibility := .eligible,
     toolCallCount := 1, evidenceReferenceCount := 1, runtimeType := some "claims", adapterId := some "historical",
     adapterVersion := some "1", replayReference := some "trace-1", isolationGuarantee := some "sandbox" },
    by decide +kernel⟩

/-- A substitution of one piece of evidence. -/
def claimsSubstitution : ControlledEvidenceIntervention where
  strategy := .replace
  strategyVersion := "1"
  sourceEvidenceReference := "event:tool-1"
  counterfactualEvidenceReference := some "evidence:none"
  seed := some 7
  interventionDigest := ""

/-- The substitution with its digest. -/
def claimsIntervention (primitives : Primitives) : ControlledEvidenceIntervention :=
  { claimsSubstitution with interventionDigest := claimsSubstitution.digest primitives }

/-- The claims run with its intervention. -/
def claimsAudit (primitives : Primitives) : Replay.Request :=
  { claimsReplay with controlledEvidenceIntervention := some (claimsIntervention primitives) }

/-- The failure of an adapter. -/
def adapterFailure : ReplayFailure :=
  ⟨{ code := "ADAPTER_FAILED", message := "The adapter failed.", stage := .execution,
     details := [("attempt", .int 1)], occurredAt := ⟨63000000000000000⟩ }, by decide +kernel⟩

/-- A replay with a manifest that fails in its run. -/
def failedRun : List Transition :=
  let now : Instant := ⟨63000000000000000⟩
  [.markReady ⟨{ claimsConfiguration.record with replayManifest := some claimsManifest }, by decide +kernel⟩ now,
    .markQueued "job-1" now, .markRunning 1 now, .markExecutionFailed adapterFailure now]

theorem replay_round_trip_failed :
    let primitives := Primitives.tabulated [] [] (by simp) (by simp)
    let failed := after (Replay.draftOf (claimsAudit primitives)) failedRun
    failed.failure = some adapterFailure ∧
      ReplayPersistenceMapper.fromPersistenceRecord primitives
          (ReplayPersistenceMapper.toPersistenceRecord primitives { failed with version := 4 }) =
        .ok { failed with version := 4 } := by
  intro primitives failed
  have created : Replay.create (claimsAudit primitives) = .ok (Replay.draftOf (claimsAudit primitives)) := by
    decide +kernel
  refine ⟨by decide +kernel, replay_round_trip created ?_ failedRun 4⟩
  rintro intervention carried
  cases carried
  exact ⟨claimsSubstitution, ControlledEvidenceIntervention.create_undigested primitives (by decide +kernel) rfl⟩

end AiGovernance.Replays
