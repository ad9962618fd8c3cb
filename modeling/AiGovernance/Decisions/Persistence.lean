import AiGovernance.Decisions.Ledger
import AiGovernance.Repositories.SqliteGovernanceDecisions
import AiGovernance.Std.Steps

/-!
# The SQLite decision repository against the in-memory one

Calls in any order and number against both repositories. `Refines` relates the
dictionaries to the table, `Agrees` the ends of a call on either side. A row is
replaced with the explanation it is given, so a write that gives none loses the
one that is stored; two decisions of one creation time are listed in the other
order. Without these the answers are the same.
-/

namespace AiGovernance.Decisions

open AiGovernance.Std Domain GovernanceDecisionPersistenceMapper GovernanceDecision List DecisionStore

/-! ## What a row gives back -/

/-- The record read back: the keys of its metadata are sorted. -/
def sortedEvidence (reference : DecisionEvidenceReference) : DecisionEvidenceReference :=
  ⟨evidenceReferenceToDict reference, reference.valid⟩

/-- The record read back: the keys of its metadata are sorted. -/
def sortedPolicy (reference : DecisionPolicyReference) : DecisionPolicyReference :=
  ⟨policyReferenceToDict reference, reference.valid⟩

/-- The record read back: the keys of its metadata are sorted. -/
def sortedMissing (missing : MissingEvidence) : MissingEvidence := ⟨missingEvidenceToDict missing, missing.valid⟩

/-- The decision read back. -/
def GovernanceDecision.sorted (decision : GovernanceDecision) : GovernanceDecision where
  record := { decision.record with
    evidence := decision.record.evidence.map sortedEvidence
    policies := decision.record.policies.map sortedPolicy
    metadata := Json.sortFields decision.record.metadata }
  valid := by
    have checked := decision.valid
    unfold GovernanceDecisionRecord.violation at checked ⊢
    rw [List.isEmpty_map]
    exact checked

/-- The explanation read back. -/
def DecisionExplanation.sorted (explanation : DecisionExplanation) : DecisionExplanation where
  record := { explanation.record with
    evidenceReferences := explanation.record.evidenceReferences.map sortedEvidence
    policyReferences := explanation.record.policyReferences.map sortedPolicy
    missingEvidence := explanation.record.missingEvidence.map sortedMissing
    metadata := Json.sortFields explanation.record.metadata }
  valid := explanation.valid

theorem create_evidence (reference : DecisionEvidenceReference) :
    (Checked.create (evidenceReferenceToDict reference) : Except Raised DecisionEvidenceReference) =
      .ok (sortedEvidence reference) :=
  Checked.create_of_valid _

theorem create_policy (reference : DecisionPolicyReference) :
    (Checked.create (policyReferenceToDict reference) : Except Raised DecisionPolicyReference) =
      .ok (sortedPolicy reference) :=
  Checked.create_of_valid _

theorem create_missing (missing : MissingEvidence) :
    (Checked.create (missingEvidenceToDict missing) : Except Raised MissingEvidence) = .ok (sortedMissing missing) :=
  Checked.create_of_valid _

/-- A row gives back the decision it was written from. -/
theorem fromPersistenceRecord_written (decision : GovernanceDecision) (explanation : Option DecisionExplanation) :
    fromPersistenceRecord (toPersistenceRecord decision explanation) = .ok decision.sorted := by
  unfold fromPersistenceRecord toPersistenceRecord
  dsimp only
  rw [mapM_written fun reference _ => create_evidence reference, mapM_written fun reference _ => create_policy reference,
    Checked.create_of_valid decision.record.target.valid, Checked.create_of_valid decision.record.provenance.valid,
    Checked.create_of_valid decision.record.supersession.valid]
  exact Checked.create_of_valid decision.sorted.valid

/-- A row gives back the explanation it was written from. -/
theorem explanationFromPersistenceRecord_written (decision : GovernanceDecision)
    (explanation : Option DecisionExplanation) :
    explanationFromPersistenceRecord (toPersistenceRecord decision explanation) =
      .ok (explanation.map DecisionExplanation.sorted) := by
  cases explanation with
  | none => rfl
  | some explanation =>
    unfold explanationFromPersistenceRecord toPersistenceRecord explanationFromDict explanationToDict
    simp only [Option.map_some]
    rw [mapM_written fun reference _ => create_evidence reference,
      mapM_written fun reference _ => create_policy reference, mapM_written fun missing _ => create_missing missing]
    change Except.map some (Checked.create explanation.sorted.record) = _
    rw [Checked.create_of_valid explanation.sorted.valid]
    rfl

theorem toPersistenceRecord_sorted (decision : GovernanceDecision) (explanation : Option DecisionExplanation) :
    toPersistenceRecord decision.sorted explanation = toPersistenceRecord decision explanation := by
  have evidence : (decision.record.evidence.map sortedEvidence).map evidenceReferenceToDict =
      decision.record.evidence.map evidenceReferenceToDict := by
    rw [map_map]
    apply map_congr_left
    intro reference _
    simp only [Function.comp_apply, evidenceReferenceToDict, sortedEvidence, Json.sortFields_sortFields]
  have policies : (decision.record.policies.map sortedPolicy).map policyReferenceToDict =
      decision.record.policies.map policyReferenceToDict := by
    rw [map_map]
    apply map_congr_left
    intro reference _
    simp only [Function.comp_apply, policyReferenceToDict, sortedPolicy, Json.sortFields_sortFields]
  unfold toPersistenceRecord
  simp only [GovernanceDecision.sorted, evidence, policies, Json.sortFields_sortFields]

/-! ## Equality does not see the order of keys -/

theorem sameItems_map {Item : Type} {same : Item → Item → Bool} {sorted : Item → Item}
    (unseen : ∀ left right, same (sorted left) right = same left right) (lefts rights : List Item) :
    sameItems same (lefts.map sorted) rights = sameItems same lefts rights := by
  induction lefts generalizing rights with
  | nil => rfl
  | cons left rest ih =>
    cases rights with
    | nil => rfl
    | cons right rights => rw [map_cons, sameItems, sameItems, unseen, ih]

theorem sameItems_refl {Item : Type} {same : Item → Item → Bool} (refl : ∀ item, same item item = true)
    (items : List Item) : sameItems same items items = true := by
  induction items with
  | nil => rfl
  | cons item rest ih => rw [sameItems, refl, ih, Bool.and_self]

theorem sameFields_sortFields (left right : Metadata) :
    Json.sameFields (Json.sortFields left) right = Json.sameFields left right := by
  unfold Json.sameFields
  rw [Json.canonicalFields_sortFields]

theorem sameEvidence_sorted (left right : DecisionEvidenceReference) :
    sameEvidence (sortedEvidence left) right = sameEvidence left right :=
  congrArg₂ and rfl (sameFields_sortFields left.record.metadata right.record.metadata)

theorem samePolicy_sorted (left right : DecisionPolicyReference) :
    samePolicy (sortedPolicy left) right = samePolicy left right :=
  congrArg₂ and rfl (sameFields_sortFields left.record.metadata right.record.metadata)

theorem sameMissing_sorted (left right : MissingEvidence) :
    sameMissing (sortedMissing left) right = sameMissing left right :=
  congrArg₂ and rfl (sameFields_sortFields left.record.metadata right.record.metadata)

theorem sameEvidence_refl (reference : DecisionEvidenceReference) : sameEvidence reference reference = true := by
  simp [sameEvidence]

theorem samePolicy_refl (reference : DecisionPolicyReference) : samePolicy reference reference = true := by
  simp [samePolicy]

theorem sameMissing_refl (missing : MissingEvidence) : sameMissing missing missing = true := by
  simp [sameMissing]

theorem GovernanceDecision.sorted_same (left right : GovernanceDecision) :
    left.sorted.same right = left.same right :=
  congrArg₂ and (congrArg₂ and (congrArg₂ and rfl
    (sameItems_map sameEvidence_sorted left.record.evidence right.record.evidence))
    (sameItems_map samePolicy_sorted left.record.policies right.record.policies))
    (sameFields_sortFields left.record.metadata right.record.metadata)

theorem GovernanceDecision.same_refl (decision : GovernanceDecision) : decision.same decision = true := by
  simp [GovernanceDecision.same, sameItems_refl sameEvidence_refl, sameItems_refl samePolicy_refl]

theorem DecisionExplanation.sorted_same (left right : DecisionExplanation) :
    left.sorted.same right = left.same right :=
  congrArg₂ and (congrArg₂ and (congrArg₂ and (congrArg₂ and rfl
    (sameItems_map sameEvidence_sorted left.record.evidenceReferences right.record.evidenceReferences))
    (sameItems_map samePolicy_sorted left.record.policyReferences right.record.policyReferences))
    (sameItems_map sameMissing_sorted left.record.missingEvidence right.record.missingEvidence))
    (sameFields_sortFields left.record.metadata right.record.metadata)

theorem DecisionExplanation.same_refl (explanation : DecisionExplanation) : explanation.same explanation = true := by
  simp [DecisionExplanation.same, sameItems_refl sameEvidence_refl, sameItems_refl samePolicy_refl,
    sameItems_refl sameMissing_refl]

/-! ## The relation between the repositories -/

/-- A decision, or what its row gives back. -/
def Alike (other decision : GovernanceDecision) : Prop := other = decision ∨ other = decision.sorted

/-- The table holds a row for each stored decision, written from it and its explanation. -/
structure Refines (offset : Instant.Offset) (store : DecisionStore) (tables : DecisionTables) : Prop where
  rows : ∀ decisionId, tables.rows.get? decisionId =
    (store.get decisionId).map fun decision => toPersistenceRecord decision (store.getExplanation decisionId)
  explained : ∀ {decisionId}, store.get decisionId = none → store.getExplanation decisionId = none
  written : tables.offset = offset
  dated : ∀ {decisionId decision}, store.get decisionId = some decision → offset.Reads decision.createdAt

namespace Refines

variable {offset : Instant.Offset} {store : DecisionStore} {tables : DecisionTables}

theorem empty (offset : Instant.Offset) : Refines offset .empty (.empty offset) where
  rows _ := rfl
  explained _ := rfl
  written := rfl
  dated found := by cases found

theorem get (refines : Refines offset store tables) (decisionId : String) :
    tables.get decisionId = .ok ((store.get decisionId).map GovernanceDecision.sorted) := by
  unfold DecisionTables.get
  rw [refines.rows]
  cases store.get decisionId with
  | none => rfl
  | some decision =>
    simp only [Option.map_some, fromPersistenceRecord_written]
    rfl

theorem getExplanation (refines : Refines offset store tables) (decisionId : String) :
    tables.getExplanation decisionId = .ok ((store.getExplanation decisionId).map DecisionExplanation.sorted) := by
  unfold DecisionTables.getExplanation
  rw [refines.rows]
  cases found : store.get decisionId with
  | none =>
    rw [refines.explained found]
    rfl
  | some decision => simp only [Option.map_some, explanationFromPersistenceRecord_written]

end Refines

theorem getExplanation_put (store : DecisionStore) (decision : GovernanceDecision)
    (explanation : Option DecisionExplanation) (decisionId : String) :
    (store.put decision explanation).getExplanation decisionId =
      if decisionId = decision.record.decisionId ∧ explanation.isSome then explanation
      else store.getExplanation decisionId := by
  cases explanation with
  | none => simp [DecisionStore.getExplanation, DecisionStore.put]
  | some explanation =>
    change (store.explanations.set decision.record.decisionId explanation).get? decisionId = _
    rw [Dict.get?_set]
    simp only [Option.isSome_some, and_true]
    rfl

namespace Refines

variable {offset : Instant.Offset} {store : DecisionStore} {tables : DecisionTables}

/-- A row is written, and no explanation is lost by it. -/
theorem put (refines : Refines offset store tables) {decision other : GovernanceDecision} (alike : Alike other decision)
    {explanation : Option DecisionExplanation}
    (retained : explanation = none → store.getExplanation decision.record.decisionId = none)
    (dated : offset.Reads decision.createdAt) :
    Refines offset (store.put decision explanation)
      (tables.insertOrReplace (toPersistenceRecord other explanation)) := by
  have row : toPersistenceRecord other explanation = toPersistenceRecord decision explanation := by
    rcases alike with rfl | rfl
    · rfl
    · exact toPersistenceRecord_sorted decision explanation
  rw [row]
  refine ⟨fun decisionId => ?_, fun {decisionId} absent => ?_, refines.written, fun {decisionId stored} found => ?_⟩
  · rw [get_put, getExplanation_put]
    change (tables.rows.set decision.record.decisionId _).get? decisionId = _
    rw [Dict.get?_set]
    split
    · rename_i here
      subst here
      cases explanation with
      | none =>
        have nothing := retained rfl
        simp [nothing]
      | some explanation => simp
    · rename_i elsewhere
      simp only [elsewhere, false_and, if_false]
      exact refines.rows decisionId
  · rw [get_put] at absent
    rw [getExplanation_put]
    split at absent
    · cases absent
    · rename_i elsewhere
      simp only [elsewhere, false_and, if_false]
      exact refines.explained absent
  · rw [get_put] at found
    split at found
    · cases found
      exact dated
    · exact refines.dated found

theorem saveAudit (refines : Refines offset store tables) (record : DecisionAuditRecord) :
    Refines offset (store.saveAudit record) (tables.saveAudit record) :=
  ⟨refines.rows, refines.explained, refines.written, refines.dated⟩

end Refines

/-! ## Calls that end alike -/

/-- Both have raised the same, or both have returned related values. -/
inductive Answers {α β : Type} (related : β → α → Prop) : Except Raised β → Except Raised α → Prop
  | returned {left : β} {right : α} (alike : related left right) : Answers related (.ok left) (.ok right)
  | raised (exception : Raised) : Answers related (.error exception) (.error exception)

/-- The ends of one call on either side. -/
structure Agrees {α β : Type} (offset : Instant.Offset) (related : β → α → Prop)
    (inMemory : Outcome DecisionStore α) (sqlite : Outcome DecisionTables β) : Prop where
  answers : Answers related sqlite.1 inMemory.1
  refines : Refines offset inMemory.2 sqlite.2

section Agreement

variable {offset : Instant.Offset} {store : DecisionStore} {tables : DecisionTables} {ambient : DecisionAmbient}
  {decision : GovernanceDecision} {explanation : Option DecisionExplanation} {decisionId reason : String}

/-- Calls that go on from ends that agree. -/
theorem Agrees.andThen {α β γ δ : Type} {related : β → α → Prop} {after : δ → γ → Prop}
    {inMemory : Outcome DecisionStore α} {sqlite : Outcome DecisionTables β}
    {next : α → DecisionStore → Outcome DecisionStore γ} {other : β → DecisionTables → Outcome DecisionTables δ}
    (agrees : Agrees offset related inMemory sqlite)
    (goesOn : ∀ {left right store tables}, inMemory = (.ok right, store) → related left right →
      Refines offset store tables → Agrees offset after (next right store) (other left tables)) :
    Agrees offset after (inMemory.andThen next) (sqlite.andThen other) := by
  obtain ⟨inMemory, store⟩ := inMemory
  obtain ⟨sqlite, tables⟩ := sqlite
  obtain ⟨answers, refines⟩ := agrees
  cases answers with
  | returned alike => exact goesOn rfl alike refines
  | raised exception => exact ⟨.raised exception, refines⟩

theorem publish_agrees (refines : Refines offset store tables) (event : DecisionEvent) :
    Agrees offset Eq (store.publish ambient event) (tables.publish ambient event) := by
  unfold publish DecisionTables.publish
  cases ambient.publishing event with
  | some raised => exact ⟨.raised raised, refines⟩
  | none => exact ⟨.returned rfl, refines⟩

theorem recordAudit_agrees (refines : Refines offset store tables) (action : DecisionAuditAction)
    (provenance : DecisionProvenance) (metadata : Metadata) :
    Agrees offset Eq (store.recordAudit ambient action decisionId reason provenance metadata)
      (tables.recordAudit ambient action decisionId reason provenance metadata) := by
  unfold recordAudit DecisionTables.recordAudit
  cases auditRecord ambient action decisionId reason provenance metadata with
  | error raised => exact ⟨.raised raised, refines⟩
  | ok record => exact ⟨.returned rfl, refines.saveAudit record⟩

/-- One save of either side: the decision that the in-memory repository is given, or what its row gives back. -/
theorem saveDecision_agrees (refines : Refines offset store tables) {other : GovernanceDecision}
    {publishCreated enforceFinalized : Bool} (alike : Alike other decision)
    (exact : enforceFinalized = true → other = decision)
    (retained : explanation = none → (enforceFinalized = true → store.Open decision.record.decisionId) →
      store.getExplanation decision.record.decisionId = none)
    (dated : offset.Reads decision.createdAt) :
    Agrees offset Alike (store.saveDecision ambient decision explanation publishCreated enforceFinalized)
      (tables.saveDecision ambient other explanation publishCreated enforceFinalized) := by
  have named : other.record.decisionId = decision.record.decisionId := by
    rcases alike with rfl | rfl
    · rfl
    · rfl
  unfold saveDecision DecisionTables.saveDecision
  rw [named, refines.get, refines.getExplanation]
  cases found : store.get decision.record.decisionId with
  | none =>
    have written := @Refines.put _ _ _ refines _ _ alike explanation (fun _ => refines.explained found) dated
    cases publishCreated with
    | false => exact ⟨.returned alike, written⟩
    | true =>
      refine Agrees.andThen (publish_agrees written .created) fun _ _ refines => ?_
      exact ⟨.returned alike, refines⟩
  | some existing =>
    have final : existing.sorted.isFinalized = existing.isFinalized := rfl
    -- The explanation is fetched only when there is one to compare with.
    have fetched : (if (some existing.sorted).isSome && explanation.isSome then
        (.ok ((store.getExplanation decision.record.decisionId).map DecisionExplanation.sorted) :
          Except Raised (Option DecisionExplanation)) else .ok none) =
        .ok (if explanation.isSome then
          (store.getExplanation decision.record.decisionId).map DecisionExplanation.sorted else none) := by
      cases explanation with
      | none => rfl
      | some explanation => rfl
    simp only [Option.map_some, final]
    rw [fetched]
    dsimp only
    by_cases enforced : (enforceFinalized && existing.isFinalized) = true
    · rw [if_pos enforced, if_pos enforced]
      obtain rfl := exact (Bool.and_eq_true_iff.mp enforced).1
      have compared : (explanation.isNone || explanation.any fun given =>
          (if explanation.isSome then (store.getExplanation other.record.decisionId).map DecisionExplanation.sorted
            else none).any (·.same given)) =
          (explanation.isNone || explanation.any fun given =>
            (store.getExplanation other.record.decisionId).any (·.same given)) := by
        cases explanation with
        | none => rfl
        | some explanation =>
          cases store.getExplanation other.record.decisionId with
          | none => rfl
          | some stored => exact DecisionExplanation.sorted_same stored explanation
      rw [sorted_same, compared]
      unfold saveFinalized
      split
      · exact ⟨.returned alike, refines⟩
      · exact ⟨.raised _, refines⟩
    · rw [if_neg enforced, if_neg enforced]
      refine ⟨.returned alike, refines.put alike (fun absent => retained absent ?_) dated⟩
      intro enforces stored again
      rw [found] at again
      cases again
      simpa [enforces] using enforced

/-- Building a decision from sorted metadata is building it and sorting its metadata. -/
theorem create_sorted (record : GovernanceDecisionRecord) :
    (Checked.create { record with
        evidence := record.evidence.map sortedEvidence
        policies := record.policies.map sortedPolicy
        metadata := Json.sortFields record.metadata } : Except Raised GovernanceDecision) =
      (Checked.create record : Except Raised GovernanceDecision).map GovernanceDecision.sorted := by
  cases checked : record.violation with
  | none =>
    rw [Checked.create_of_valid checked]
    exact Checked.create_of_valid (GovernanceDecision.sorted ⟨record, checked⟩).valid
  | some raised =>
    rw [Checked.create_eq_error_iff.mpr checked]
    refine Checked.create_eq_error_iff.mpr ?_
    unfold GovernanceDecisionRecord.violation at checked ⊢
    rw [isEmpty_map]
    exact checked

theorem supersession_sorted (old newDecision : GovernanceDecision) :
    DecisionStore.supersession old.sorted newDecision reason =
      (DecisionStore.supersession old newDecision reason).map fun pair => (pair.1.sorted, pair.2) := by
  unfold DecisionStore.supersession
  have onward : old.sorted.supersedes = old.supersedes := rfl
  have named : old.sorted.record.decisionId = old.record.decisionId := rfl
  rw [onward, named]
  cases (Checked.create ⟨old.supersedes, some newDecision.record.decisionId, some reason⟩ :
    Except Raised DecisionSupersession) with
  | error raised => rfl
  | ok oldLinks =>
    have retired : (Checked.create { old.sorted.record with status := .superseded, supersession := oldLinks } :
        Except Raised GovernanceDecision) = _ :=
      create_sorted { old.record with status := .superseded, supersession := oldLinks }
    dsimp only at retired
    simp only [bind, Except.bind]
    rw [retired]
    cases (Checked.create { old.record with status := .superseded, supersession := oldLinks } :
      Except Raised GovernanceDecision) with
    | error raised => rfl
    | ok supersededOld =>
      simp only [Except.map]
      cases (Checked.create ⟨some old.record.decisionId, newDecision.supersededBy, some reason⟩ :
        Except Raised DecisionSupersession) with
      | error raised => rfl
      | ok newLinks =>
        dsimp only
        cases (Checked.create { newDecision.record with supersession := newLinks } :
          Except Raised GovernanceDecision) with
        | error raised => rfl
        | ok replacement => rfl

/-- The call replaces no row that has an explanation without giving one. -/
def DecisionCall.Retains (call : DecisionCall) (store : DecisionStore) : Prop :=
  match call with
  | .save decision =>
    store.Open decision.record.decisionId → store.getExplanation decision.record.decisionId = none
  | .saveWithExplanation _ _ => True
  | .supersede oldDecisionId newDecision reason =>
    ∀ old, store.get oldDecisionId = some old → Replaceable old newDecision reason →
      store.getExplanation oldDecisionId = none ∧
        (store.Open newDecision.record.decisionId → store.getExplanation newDecision.record.decisionId = none)
  | .archive decisionId _ =>
    ∀ decision, store.get decisionId = some decision → decision.record.status ≠ .archived →
      store.getExplanation decisionId = none

/-- The decision a call is given was created at an instant that the offset can write. -/
def DecisionCall.Dated (offset : Instant.Offset) : DecisionCall → Prop
  | .save decision | .saveWithExplanation decision _ | .supersede _ decision _ => offset.Reads decision.createdAt
  | .archive _ _ => True

variable {repr : String → String}

theorem writeSupersession_agrees (refines : Refines offset store tables)
    {supersededOld replacement : GovernanceDecision}
    (apart : replacement.record.decisionId ≠ supersededOld.record.decisionId)
    (retained : store.getExplanation supersededOld.record.decisionId = none)
    (replaced : store.Open replacement.record.decisionId → store.getExplanation replacement.record.decisionId = none)
    (dated : offset.Reads supersededOld.createdAt) (replacementDated : offset.Reads replacement.createdAt) :
    Agrees offset Alike (store.writeSupersession ambient reason supersededOld replacement)
      (tables.writeSupersession ambient reason supersededOld.sorted replacement) := by
  unfold writeSupersession DecisionTables.writeSupersession
  have first : Agrees offset Alike (store.saveDecision ambient supersededOld none false false)
      (tables.saveDecision ambient supersededOld.sorted none false false) :=
    saveDecision_agrees refines (Or.inr rfl) nofun (fun _ _ => retained) dated
  refine first.andThen fun {_ _ middle _} saved _ refines => ?_
  rw [saveDecision_plain] at saved
  cases saved
  have second : Agrees offset Alike
      ((store.put supersededOld none).saveDecision ambient replacement none true true) _ :=
    saveDecision_agrees refines (Or.inl rfl) (fun _ => rfl)
      (fun _ vacant => replaced fun existing found =>
        vacant rfl existing (by rw [get_put, if_neg apart, found]))
      replacementDated
  refine second.andThen fun _ alike refines => ?_
  refine (recordAudit_agrees refines .superseded _ _).andThen fun _ _ refines => ?_
  refine (publish_agrees refines .superseded).andThen fun _ _ refines => ?_
  exact ⟨.returned alike, refines⟩

theorem supersede_agrees (refines : Refines offset store tables) {oldDecisionId : String}
    {newDecision : GovernanceDecision}
    (retains : (DecisionCall.supersede oldDecisionId newDecision reason).Retains store)
    (dated : offset.Reads newDecision.createdAt) :
    Agrees offset Alike (store.supersede repr ambient oldDecisionId newDecision reason)
      (tables.supersede repr ambient oldDecisionId newDecision reason) := by
  unfold DecisionStore.supersede DecisionTables.supersede
  rw [refines.get]
  cases found : store.get oldDecisionId with
  | none => exact ⟨.raised _, refines⟩
  | some old =>
    have keyed : old.record.decisionId = oldDecisionId := store.keyed found
    have links : old.sorted.supersededBy = old.supersededBy := rfl
    simp only [Option.map_some, links]
    split
    · exact ⟨.raised _, refines⟩
    · rename_i unlinked
      have current : old.supersededBy = none := by simpa using unlinked
      rw [supersession_sorted]
      cases built : DecisionStore.supersession old newDecision reason with
      | error raised => exact ⟨.raised raised, refines⟩
      | ok pair =>
        obtain ⟨supersededOld, replacement⟩ := pair
        have superseding := supersession_ok built
        have passed := superseding.passed current
        obtain ⟨retained, replaced⟩ := retains old found passed
        have oldNamed : supersededOld.record.decisionId = old.record.decisionId :=
          congrArg (·.decisionId) superseding.retired
        have newNamed : replacement.record.decisionId = newDecision.record.decisionId :=
          congrArg (·.decisionId) superseding.taken
        have oldCreated : supersededOld.createdAt = old.createdAt :=
          congrArg (·.provenance.record.createdAt) superseding.retired
        have newCreated : replacement.createdAt = newDecision.createdAt :=
          congrArg (·.provenance.record.createdAt) superseding.taken
        apply writeSupersession_agrees refines
        · rw [oldNamed, newNamed]
          exact passed.apart
        · rw [oldNamed, keyed]
          exact retained
        · rw [newNamed]
          exact replaced
        · rw [oldCreated]
          exact refines.dated found
        · rw [newCreated]
          exact dated

theorem archive_agrees (refines : Refines offset store tables)
    (retains : (DecisionCall.archive decisionId reason).Retains store) :
    Agrees offset Alike (store.archive repr ambient decisionId reason)
      (tables.archive repr ambient decisionId reason) := by
  unfold DecisionStore.archive DecisionTables.archive
  rw [refines.get]
  cases found : store.get decisionId with
  | none => exact ⟨.raised _, refines⟩
  | some decision =>
    have keyed : decision.record.decisionId = decisionId := store.keyed found
    have status : decision.sorted.record.status = decision.record.status := rfl
    simp only [Option.map_some, status]
    split
    · exact ⟨.returned (Or.inr rfl), refines⟩
    · rename_i active
      have written : Agrees offset Alike
          (store.saveDecision ambient (archivedFrom decision ambient.now) none false false)
          (tables.saveDecision ambient (archivedFrom decision.sorted ambient.now) none false false) := by
        have dated : offset.Reads decision.createdAt := refines.dated found
        refine saveDecision_agrees refines (Or.inr rfl) nofun (fun _ _ => ?_) dated
        have retained := retains decision found active
        rw [← keyed] at retained
        exact retained
      refine written.andThen fun _ alike refines => ?_
      refine (recordAudit_agrees refines .archived _ _).andThen fun _ _ refines => ?_
      refine (publish_agrees refines .archived).andThen fun _ _ refines => ?_
      exact ⟨.returned alike, refines⟩

/-- One writing call that loses no explanation. -/
theorem run_agrees (refines : Refines offset store tables) {call : DecisionCall} (retains : call.Retains store)
    (dated : call.Dated offset) :
    Agrees offset Alike (call.run repr ambient store) (call.runTables repr ambient tables) := by
  cases call with
  | save decision =>
    exact saveDecision_agrees refines (Or.inl rfl) (fun _ => rfl) (fun _ vacant => retains (vacant rfl)) dated
  | saveWithExplanation decision explanation =>
    exact saveDecision_agrees refines (Or.inl rfl) (fun _ => rfl) nofun dated
  | supersede oldDecisionId newDecision reason => exact supersede_agrees refines retains dated
  | archive decisionId reason => exact archive_agrees refines retains

end Agreement

/-! ## Listings -/

section Listings

variable {offset : Instant.Offset} {store : DecisionStore} {tables : DecisionTables} {query : DecisionQuery}

/-- The decisions listed have creation times of their own. -/
def DecisionQuery.Apart (query : DecisionQuery) (store : DecisionStore) : Prop :=
  ∀ left ∈ store.decisions.values, ∀ right ∈ store.decisions.values, query.selects left = true →
    query.selects right = true → left.createdAt = right.createdAt → left = right

/-- The row of a stored decision. -/
def DecisionStore.row (store : DecisionStore) (decision : GovernanceDecision) : DecisionRow :=
  toPersistenceRecord decision (store.getExplanation decision.record.decisionId)

theorem Refines.values (refines : Refines offset store tables) :
    tables.rows.values.Perm (store.decisions.values.map store.row) := by
  apply Dict.values_perm_map
  intro decisionId
  rw [refines.rows decisionId]
  change (store.get decisionId).map _ = (store.get decisionId).map store.row
  cases found : store.get decisionId with
  | none => rfl
  | some decision =>
    have keyed : decision.record.decisionId = decisionId := store.keyed found
    simp only [Option.map_some, DecisionStore.row, keyed]

theorem selectsRow_row (decision : GovernanceDecision) :
    query.selectsRow (store.row decision) = query.selects decision := by
  cases query with
  | target targetType targetId => rfl
  | status wanted => rfl
  | correlationId wanted => rfl
  | requestId wanted => rfl
  | all => rfl

theorem created_eq_of_not_lt {left right : GovernanceDecision} (notBefore : ¬ left.createdAt < right.createdAt)
    (notAfter : ¬ right.createdAt < left.createdAt) : left.createdAt = right.createdAt := by
  rw [Instant.lt_def] at notBefore notAfter
  cases first : left.createdAt
  cases second : right.createdAt
  rw [first, second] at notBefore notAfter
  exact congrArg Instant.mk (Nat.le_antisymm (Nat.not_lt.mp notAfter) (Nat.not_lt.mp notBefore))

instance : Std.Total GovernanceDecision.sortedBefore where
  total left right := by
    unfold GovernanceDecision.sortedBefore
    by_cases before : left.createdAt < right.createdAt
    · exact Or.inr (Or.inl before)
    · by_cases after : right.createdAt < left.createdAt
      · exact Or.inl (Or.inl after)
      · have same := created_eq_of_not_lt before after
        rcases le_total left.record.decisionId right.record.decisionId with names | names
        · exact Or.inr (Or.inr ⟨same, names⟩)
        · exact Or.inl (Or.inr ⟨same.symm, names⟩)

instance : IsTrans GovernanceDecision GovernanceDecision.sortedBefore where
  trans first second third := by
    unfold GovernanceDecision.sortedBefore
    rintro (late | ⟨same, names⟩) (later | ⟨again, others⟩)
    · exact Or.inl (Nat.lt_trans later late)
    · exact Or.inl (by rw [again]; exact late)
    · exact Or.inl (by rw [← same]; exact later)
    · exact Or.inr ⟨again.trans same, others.trans names⟩

instance (offset : Instant.Offset) : Std.Total (DecisionRow.orderedBefore offset) where
  total left right := by
    unfold DecisionRow.orderedBefore
    have names := le_total left.decisionId right.decisionId
    rcases lt_trichotomy (offset.isoformat left.createdAt) (offset.isoformat right.createdAt) with less | same | more
    · exact Or.inr (Or.inl less)
    · rcases names with before | after
      · exact Or.inl (Or.inr ⟨same.symm, before⟩)
      · exact Or.inr (Or.inr ⟨same, after⟩)
    · exact Or.inl (Or.inl more)

instance (offset : Instant.Offset) : IsTrans DecisionRow (DecisionRow.orderedBefore offset) where
  trans first second third := by
    unfold DecisionRow.orderedBefore
    rintro (late | ⟨same, names⟩) (later | ⟨again, others⟩)
    · exact Or.inl (later.trans late)
    · exact Or.inl (by rw [again]; exact late)
    · exact Or.inl (by rw [← same]; exact later)
    · exact Or.inr ⟨again.trans same, names.trans others⟩

theorem Refines.sorted (refines : Refines offset store tables) (apart : query.Apart store) :
    (tables.rows.values.filter query.selectsRow).insertionSort (DecisionRow.orderedBefore tables.offset) =
      ((store.decisions.values.filter query.selects).insertionSort sortedBefore).map store.row := by
  have selected : (tables.rows.values.filter query.selectsRow).Perm
      ((store.decisions.values.filter query.selects).map store.row) := by
    have rows := refines.values.filter query.selectsRow
    rw [filter_map] at rows
    have same : query.selectsRow ∘ store.row = query.selects := funext (selectsRow_row)
    rw [same] at rows
    exact rows
  have perm : ((tables.rows.values.filter query.selectsRow).insertionSort
      (DecisionRow.orderedBefore tables.offset)).Perm
        (((store.decisions.values.filter query.selects).insertionSort sortedBefore).map
          store.row) :=
    (perm_insertionSort _ _).trans (selected.trans ((perm_insertionSort _ _).symm.map store.row))
  have stored : ∀ row ∈ ((store.decisions.values.filter query.selects).insertionSort
      sortedBefore).map store.row,
      ∃ decision, decision ∈ store.decisions.values ∧ query.selects decision = true ∧ store.row decision = row := by
    intro row member
    obtain ⟨decision, inside, same⟩ := mem_map.mp member
    rw [mem_insertionSort, mem_filter] at inside
    exact ⟨decision, inside.1, inside.2, same⟩
  -- Falling creation time orders both lists, and no two of the decisions share one.
  refine @List.Perm.eq_of_pairwise DecisionRow (fun left right => right.createdAt ≤ left.createdAt) _ _ ?_ ?_ ?_ perm
  · intro left right first second before after
    obtain ⟨decision, inside, chosen, rfl⟩ := stored left (perm.subset first)
    obtain ⟨other, otherInside, otherChosen, rfl⟩ := stored right second
    have created : decision.createdAt = other.createdAt :=
      created_eq_of_not_lt (Nat.not_lt.mpr before) (Nat.not_lt.mpr after)
    rw [apart decision inside other otherInside chosen otherChosen created]
  · have ordered := pairwise_insertionSort (DecisionRow.orderedBefore tables.offset)
      (tables.rows.values.filter query.selectsRow)
    refine ordered.imp_of_mem fun {left right} first second before => ?_
    obtain ⟨decision, inside, -, rfl⟩ := stored left (perm.subset first)
    obtain ⟨other, otherInside, -, rfl⟩ := stored right (perm.subset second)
    have reads : ∀ {decision}, decision ∈ store.decisions.values → offset.Reads decision.createdAt := by
      intro decision member
      obtain ⟨decisionId, found⟩ := (Dict.mem_values_iff _ _).mp member
      exact refines.dated found
    have dates : ∀ decision, (store.row decision).createdAt = decision.createdAt := fun _ => rfl
    rcases before with late | ⟨same, -⟩
    · rw [refines.written, dates, dates] at late
      exact Nat.le_of_lt ((Instant.Offset.isoformat_lt_iff (reads otherInside) (reads inside)).mp late)
    · rw [refines.written, dates, dates] at same
      have equal := (Instant.Offset.isoformat_inj (reads otherInside) (reads inside)).mp same
      exact Nat.le_of_eq (congrArg (·.micros) equal)
  · refine pairwise_map.mpr ?_
    refine (pairwise_insertionSort sortedBefore _).imp fun {left right} before => ?_
    rcases before with late | ⟨same, -⟩
    · exact Nat.le_of_lt late
    · exact Nat.le_of_eq (congrArg (·.micros) same)

theorem listing_agrees (refines : Refines offset store tables) (apart : query.Apart store) {limit : Int}
    (positive : 0 ≤ limit) :
    tables.listing query limit = .ok ((store.listing query limit).map GovernanceDecision.sorted) := by
  unfold DecisionTables.listing listing
  rw [refines.sorted apart, limitRows, if_pos positive, sliceTo, if_pos positive, ← map_take]
  exact mapM_written fun decision _ => fromPersistenceRecord_written decision _

end Listings

/-! ## Every sequence of calls -/

/-- The calls of the repository contract. -/
inductive DecisionRequest where
  | write (call : DecisionCall) (ambient : DecisionAmbient)
  | get (decisionId : String)
  | getExplanation (decisionId : String)
  | findByTarget (targetType : DecisionTargetType) (targetId : String) (limit : Int)
  | findByStatus (status : DecisionStatus) (limit : Int)
  | findByCorrelationId (correlationId : String) (limit : Int)
  | findByRequestId (requestId : String) (limit : Int)
  | list (limit : Int)

/-- What a call answers. -/
inductive DecisionAnswer where
  | written (result : Except Raised GovernanceDecision)
  | decision (result : Except Raised (Option GovernanceDecision))
  | explanation (result : Except Raised (Option DecisionExplanation))
  | listed (result : Except Raised (List GovernanceDecision))

namespace DecisionRequest

variable (repr : String → String)

/-- The in-memory repository. -/
def inMemory (request : DecisionRequest) (store : DecisionStore) : DecisionAnswer × DecisionStore :=
  match request with
  | .write call ambient =>
    let outcome := call.run repr ambient store
    (.written outcome.1, outcome.2)
  | .get decisionId => (.decision (.ok (store.get decisionId)), store)
  | .getExplanation decisionId => (.explanation (.ok (store.getExplanation decisionId)), store)
  | .findByTarget targetType targetId limit => (.listed (.ok (store.findByTarget targetType targetId limit)), store)
  | .findByStatus status limit => (.listed (.ok (store.findByStatus status limit)), store)
  | .findByCorrelationId correlationId limit =>
    (.listed (.ok (store.findByCorrelationId correlationId limit)), store)
  | .findByRequestId requestId limit => (.listed (.ok (store.findByRequestId requestId limit)), store)
  | .list limit => (.listed (.ok (store.list limit)), store)

/-- The SQLite repository. -/
def sqlite (request : DecisionRequest) (tables : DecisionTables) : DecisionAnswer × DecisionTables :=
  match request with
  | .write call ambient =>
    let outcome := call.runTables repr ambient tables
    (.written outcome.1, outcome.2)
  | .get decisionId => (.decision (tables.get decisionId), tables)
  | .getExplanation decisionId => (.explanation (tables.getExplanation decisionId), tables)
  | .findByTarget targetType targetId limit => (.listed (tables.findByTarget targetType targetId limit), tables)
  | .findByStatus status limit => (.listed (tables.findByStatus status limit), tables)
  | .findByCorrelationId correlationId limit => (.listed (tables.findByCorrelationId correlationId limit), tables)
  | .findByRequestId requestId limit => (.listed (tables.findByRequestId requestId limit), tables)
  | .list limit => (.listed (tables.list limit), tables)

/-- The answers of a sequence of calls. -/
def answersInMemory : List DecisionRequest → DecisionStore → List DecisionAnswer
  | [], _ => []
  | request :: rest, store =>
    (request.inMemory repr store).1 :: answersInMemory rest (request.inMemory repr store).2

/-- The answers of a sequence of calls. -/
def answersSqlite : List DecisionRequest → DecisionTables → List DecisionAnswer
  | [], _ => []
  | request :: rest, tables => (request.sqlite repr tables).1 :: answersSqlite rest (request.sqlite repr tables).2

end DecisionRequest

/-- Equal results, or the same exception. -/
def sameResult {Value : Type} (same : Value → Value → Bool) : Except Raised Value → Except Raised Value → Bool
  | .ok left, .ok right => same left right
  | .error left, .error right => left = right
  | _, _ => false

/-- Both absent, or both present and equal. -/
def sameOption {Value : Type} (same : Value → Value → Bool) : Option Value → Option Value → Bool
  | none, none => true
  | some left, some right => same left right
  | _, _ => false

/-- Equal answers. -/
def DecisionAnswer.same : DecisionAnswer → DecisionAnswer → Bool
  | .written left, .written right => sameResult GovernanceDecision.same left right
  | .decision left, .decision right => sameResult (sameOption GovernanceDecision.same) left right
  | .explanation left, .explanation right => sameResult (sameOption DecisionExplanation.same) left right
  | .listed left, .listed right => sameResult (sameItems GovernanceDecision.same) left right
  | _, _ => false

/-- A call that loses no explanation, lists no two decisions of one creation time and gives no negative limit. -/
def DecisionRequest.Kept (request : DecisionRequest) (store : DecisionStore) : Prop :=
  match request with
  | .write call _ => call.Retains store
  | .get _ | .getExplanation _ => True
  | .findByTarget targetType targetId limit => (DecisionQuery.target targetType targetId).Apart store ∧ 0 ≤ limit
  | .findByStatus status limit => (DecisionQuery.status status).Apart store ∧ 0 ≤ limit
  | .findByCorrelationId correlationId limit => (DecisionQuery.correlationId correlationId).Apart store ∧ 0 ≤ limit
  | .findByRequestId requestId limit => (DecisionQuery.requestId requestId).Apart store ∧ 0 ≤ limit
  | .list limit => DecisionQuery.all.Apart store ∧ 0 ≤ limit

/-- Every call of a sequence is of that kind where it is made. -/
def DecisionRequest.AllKept (repr : String → String) : List DecisionRequest → DecisionStore → Prop
  | [], _ => True
  | request :: rest, store => request.Kept store ∧ AllKept repr rest (request.inMemory repr store).2

/-- The decision a call is given was created at an instant that the offset can write. -/
def DecisionRequest.Dated (offset : Instant.Offset) : DecisionRequest → Prop
  | .write call _ => call.Dated offset
  | _ => True

section Requests

variable {repr : String → String} {offset : Instant.Offset} {store : DecisionStore} {tables : DecisionTables}

theorem sameResult_of_answers {left right : Except Raised GovernanceDecision} (answers : Answers Alike left right) :
    sameResult GovernanceDecision.same left right = true := by
  cases answers with
  | returned alike =>
    rcases alike with rfl | rfl
    · exact same_refl _
    · exact (sorted_same _ _).trans (same_refl _)
  | raised exception => simp [sameResult]

theorem sameOption_map {Value : Type} {same : Value → Value → Bool} {sorted : Value → Value}
    (unseen : ∀ value, same (sorted value) value = true) (value : Option Value) :
    sameOption same (value.map sorted) value = true := by
  cases value with
  | none => rfl
  | some value => exact unseen value

theorem sorted_same_self (decision : GovernanceDecision) : decision.sorted.same decision = true :=
  (decision.sorted_same decision).trans decision.same_refl

theorem sameListing (refines : Refines offset store tables) {query : DecisionQuery} {limit : Int}
    (kept : query.Apart store ∧ 0 ≤ limit) :
    sameResult (sameItems GovernanceDecision.same) (tables.listing query limit) (.ok (store.listing query limit)) =
      true := by
  rw [listing_agrees refines kept.1 kept.2]
  exact (sameItems_map sorted_same _ _).trans (sameItems_refl same_refl _)

theorem request_agrees {request : DecisionRequest} (refines : Refines offset store tables)
    (kept : request.Kept store) (dated : request.Dated offset) :
    (request.sqlite repr tables).1.same (request.inMemory repr store).1 = true ∧
      Refines offset (request.inMemory repr store).2 (request.sqlite repr tables).2 := by
  cases request with
  | write call ambient =>
    have agrees : Agrees offset Alike (call.run repr ambient store) (call.runTables repr ambient tables) :=
      run_agrees refines kept dated
    exact ⟨sameResult_of_answers agrees.answers, agrees.refines⟩
  | get decisionId =>
    refine ⟨?_, refines⟩
    change sameResult _ (tables.get decisionId) (.ok (store.get decisionId)) = true
    rw [refines.get]
    exact sameOption_map sorted_same_self _
  | getExplanation decisionId =>
    refine ⟨?_, refines⟩
    change sameResult _ (tables.getExplanation decisionId) (.ok (store.getExplanation decisionId)) = true
    rw [refines.getExplanation]
    exact sameOption_map (fun explanation => (explanation.sorted_same explanation).trans explanation.same_refl) _
  | findByTarget targetType targetId limit => exact ⟨sameListing refines kept, refines⟩
  | findByStatus status limit => exact ⟨sameListing refines kept, refines⟩
  | findByCorrelationId correlationId limit => exact ⟨sameListing refines kept, refines⟩
  | findByRequestId requestId limit => exact ⟨sameListing refines kept, refines⟩
  | list limit => exact ⟨sameListing refines kept, refines⟩

theorem requests_agree {requests : List DecisionRequest} (refines : Refines offset store tables)
    (kept : DecisionRequest.AllKept repr requests store) (dated : ∀ request ∈ requests, request.Dated offset) :
    List.Forall₂ (fun left right => left.same right = true) (DecisionRequest.answersSqlite repr requests tables)
      (DecisionRequest.answersInMemory repr requests store) := by
  induction requests generalizing store tables with
  | nil => exact .nil
  | cons request rest ih =>
    obtain ⟨same, related⟩ :=
      @request_agrees repr offset store tables request refines kept.1 (dated request (by simp))
    exact .cons same (ih related kept.2 fun other member => dated other (by simp [member]))

end Requests

/-- The SQLite repository answers as the in-memory one. -/
theorem sqlite_decisions_refine_inMemory (repr : String → String) (offset : Instant.Offset)
    (requests : List DecisionRequest) (dated : ∀ request ∈ requests, request.Dated offset)
    (kept : DecisionRequest.AllKept repr requests .empty) :
    List.Forall₂ (fun left right => left.same right = true)
      (DecisionRequest.answersSqlite repr requests (.empty offset))
      (DecisionRequest.answersInMemory repr requests .empty) :=
  requests_agree (Refines.empty offset) kept dated

/-- Why a decision was taken. -/
def explanationOf (decisionId : String) (valid : Text.isBlank decisionId = false) : DecisionExplanation :=
  ⟨⟨decisionId, "All gates passed", [], [], [], [], [("gate", .str "accuracy"), ("batch", .int 7)]⟩, by
    simp only [DecisionExplanationRecord.violation, firstViolation_eq_none, List.mem_cons, List.not_mem_nil, or_false,
      forall_eq_or_imp, forall_eq, requireNonEmpty_eq_none]
    exact ⟨valid, by decide +kernel⟩⟩

theorem named_decision : Text.isBlank "decision-1" = false := by decide +kernel

/-- An explained decision is saved. -/
def explainedSave : DecisionRequest :=
  .write (.saveWithExplanation (approval "decision-1" named_decision)
    (explanationOf "decision-1" named_decision)) (drawing "audit-1")

theorem explainedSave_dated : explainedSave.Dated .utc := by
  constructor
  · decide
  · decide

/-- An explained decision is saved, listed and read back. -/
theorem sqlite_decisions_refine_inMemory_explained :
    List.Forall₂ (fun left right => left.same right = true)
      (DecisionRequest.answersSqlite id [explainedSave, .list 50, .getExplanation "decision-1"] (.empty .utc))
      (DecisionRequest.answersInMemory id [explainedSave, .list 50, .getExplanation "decision-1"] .empty) := by
  apply sqlite_decisions_refine_inMemory
  · intro request member
    rcases mem_cons.mp member with rfl | later
    · exact explainedSave_dated
    · simp only [mem_cons, not_mem_nil, or_false] at later
      rcases later with rfl | rfl
      · trivial
      · trivial
  · refine ⟨trivial, ⟨?_, by decide⟩, trivial, trivial⟩
    have values : (explainedSave.inMemory id .empty).2.decisions.values =
        [approval "decision-1" (by decide +kernel)] := rfl
    intro left leftMember right rightMember _ _ _
    rw [values, mem_singleton] at leftMember rightMember
    rw [leftMember, rightMember]

/-- Archiving an explained decision: its row is replaced by one without the explanation. -/
theorem sqlite_decisions_diverge : ¬ ∀ (repr : String → String) (offset : Instant.Offset)
    (requests : List DecisionRequest), (∀ request ∈ requests, request.Dated offset) →
      List.Forall₂ (fun left right => left.same right = true)
        (DecisionRequest.answersSqlite repr requests (.empty offset))
        (DecisionRequest.answersInMemory repr requests .empty) := by
  intro refines
  have agreed := refines id .utc
    [explainedSave, .write (.archive "decision-1" "Withdrawn") (drawing "audit-2"), .getExplanation "decision-1"] (by
      intro request member
      rcases mem_cons.mp member with rfl | later
      · exact explainedSave_dated
      · simp only [mem_cons, not_mem_nil, or_false] at later
        rcases later with rfl | rfl
        · trivial
        · trivial)
  have last := agreed.get (i := 2) (by decide +kernel) (by decide +kernel)
  exact absurd last (by decide +kernel)

end AiGovernance.Decisions
