import AiGovernance.Repositories.GovernanceDecisions
import Mathlib.Logic.Relation
import Mathlib.Logic.Relator

/-!
# The decision ledger

Runs of saves, supersessions and archivals over one in-memory repository.
`Sound` is what holds of the store in every state and `Advance` what no call
takes back. The two saves of a supersession, the audit record and the event are
written one after the other, and nothing undoes the first when a later one is
refused: both hold along the runs whose calls are `Orderly`.
-/

namespace AiGovernance.Decisions

open AiGovernance.Std Domain GovernanceDecision

section Acyclic

variable {Node : Type} {link extended : Node → Node → Prop} {source target : Node}

/-- A path that uses one more edge ends where the edge does, when nothing leads on from there. -/
theorem transGen_extend (unlinked : ∀ next, ¬ link target next)
    (extends_link : ∀ a b, extended a b → link a b ∨ (a = source ∧ b = target)) {a b : Node}
    (path : Relation.TransGen extended a b) : Relation.TransGen link a b ∨ b = target := by
  induction path with
  | single edge =>
    rcases extends_link _ _ edge with old | ⟨-, here⟩
    · exact Or.inl (.single old)
    · exact Or.inr here
  | tail _ edge ih =>
    rcases extends_link _ _ edge with old | ⟨-, here⟩
    · rcases ih with path | rfl
      · exact Or.inl (path.tail old)
      · exact absurd old (unlinked _)
    · exact Or.inr here

/-- An edge to a node that nothing leads on from closes no cycle. -/
theorem acyclic_extend (acyclic : ∀ a, ¬ Relation.TransGen link a a) (unlinked : ∀ next, ¬ link target next)
    (apart : target ≠ source) (extends_link : ∀ a b, extended a b → link a b ∨ (a = source ∧ b = target))
    (a : Node) : ¬ Relation.TransGen extended a a := by
  intro cycle
  rcases transGen_extend unlinked extends_link cycle with old | rfl
  · exact acyclic a old
  · obtain ⟨next, first, -⟩ := Relation.TransGen.head'_iff.mp cycle
    rcases extends_link _ _ first with old | ⟨here, -⟩
    · exact unlinked next old
    · exact apart here

end Acyclic

variable {store after : DecisionStore} {decision supersededOld : GovernanceDecision} {decisionId reason : String}
  {explanation : Option DecisionExplanation}
  {ambient : DecisionAmbient}

/-- What a decision says: all but its status, its links, its metadata and its times. -/
def GovernanceDecision.content (decision : GovernanceDecision) :
    DecisionType × DecisionTarget × String × DecisionConfidenceLevel × List DecisionEvidenceReference ×
      List DecisionPolicyReference × DecisionProvenance :=
  (decision.record.decisionType, decision.record.target, decision.record.reason, decision.record.confidence,
    decision.record.evidence, decision.record.policies, decision.record.provenance)

/-- The decision carries no links. -/
def GovernanceDecision.Bare (decision : GovernanceDecision) : Prop :=
  decision.record.supersession = DecisionSupersession.empty

/-- The status is not one that only `supersede` and `archive` give. -/
def DecisionStatus.Given (status : DecisionStatus) : Prop := status ≠ .superseded ∧ status ≠ .archived

namespace DecisionStore

/-- The first decision is stored as superseded by the second. -/
def SupersededBy (store : DecisionStore) (oldId newId : String) : Prop :=
  ∃ decision, store.get oldId = some decision ∧ decision.supersededBy = some newId

/-- The first decision is stored as superseding the second. -/
def Supersedes (store : DecisionStore) (newId oldId : String) : Prop :=
  ∃ decision, store.get newId = some decision ∧ decision.supersedes = some oldId

/-- A step in the life of a decision is on record. -/
def Audited (store : DecisionStore) (decisionId : String) (action : DecisionAuditAction) (metadata : Metadata) :
    Prop :=
  ∃ auditId audit, store.audits.get? auditId = some audit ∧ audit.record.decisionId = decisionId ∧
    audit.record.action = action ∧ audit.record.metadata = metadata

/-- What holds of the store in every state. -/
structure Sound (store : DecisionStore) : Prop where
  symmetric : ∀ oldId newId, store.SupersededBy oldId newId ↔ store.Supersedes newId oldId
  acyclic : ∀ decisionId, ¬ Relation.TransGen store.SupersededBy decisionId decisionId
  linked : ∀ {decisionId decision}, store.get decisionId = some decision →
    decision.record.status = .superseded → ∃ newId, store.SupersededBy decisionId newId
  finalized : ∀ {oldId newId decision}, store.get oldId = some decision →
    decision.supersededBy = some newId → decision.isFinalized = true
  supersededAudited : ∀ {oldId newId}, store.SupersededBy oldId newId →
    store.Audited oldId .superseded [("superseded_by_decision_id", .str newId)]
  archivedAudited : ∀ {decisionId decision}, store.get decisionId = some decision →
    decision.record.status = .archived → store.Audited decisionId .archived []

/-- What no call takes back: finalized decisions keep what they say, and archived ones stay archived. -/
structure Advance (store later : DecisionStore) : Prop where
  finalized : ∀ {decisionId decision}, store.get decisionId = some decision → decision.isFinalized = true →
    ∃ kept, later.get decisionId = some kept ∧ kept.isFinalized = true ∧ kept.content = decision.content
  archived : ∀ {decisionId decision}, store.get decisionId = some decision → decision.record.status = .archived →
    ∃ kept, later.get decisionId = some kept ∧ kept.record.status = .archived

end DecisionStore

/-! ## Orderly calls -/

/-- The decision may be written as it is given: what it replaces under its identifier supersedes nothing, its status is
given, and the event of a new one is published. -/
structure Admissible (store : DecisionStore) (ambient : DecisionAmbient) (decision : GovernanceDecision) : Prop where
  replaceable : ∀ existing, store.get decision.record.decisionId = some existing → existing.supersedes = none
  status : decision.record.status.Given
  published : store.get decision.record.decisionId = none → ambient.publishing .created = none

/-- What is stored under an identifier, if anything, is not finalized. -/
def DecisionStore.Open (store : DecisionStore) (decisionId : String) : Prop :=
  ∀ existing, store.get decisionId = some existing → existing.isFinalized = false

/-- The tests that `supersede` makes before its first write pass. -/
structure Replaceable (old newDecision : GovernanceDecision) (reason : String) : Prop where
  current : old.supersededBy = none
  reason : Text.isBlank reason = false
  apart : newDecision.record.decisionId ≠ old.record.decisionId
  onward : old.supersedes ≠ some newDecision.record.decisionId

/-- The decisions a call is given carry no links. -/
def DecisionCall.Bare : DecisionCall → Prop
  | .save decision => decision.Bare
  | .saveWithExplanation decision _ => decision.Bare
  | .supersede _ newDecision _ => newDecision.Bare
  | .archive _ _ => True

/-- The call goes through once it has begun to write, and writes over no link. -/
def DecisionCall.Orderly (call : DecisionCall) (ambient : DecisionAmbient) (store : DecisionStore) : Prop :=
  match call with
  | .save decision | .saveWithExplanation decision _ =>
    store.Open decision.record.decisionId → Admissible store ambient decision
  | .supersede oldDecisionId newDecision reason =>
    ∀ old, store.get oldDecisionId = some old → Replaceable old newDecision reason →
      old.record.status ≠ .archived ∧ store.Open newDecision.record.decisionId ∧
        Admissible store ambient newDecision ∧ ambient.publishing .superseded = none
  | .archive decisionId reason =>
    ∀ decision, store.get decisionId = some decision → decision.record.status ≠ .archived →
      Text.isBlank reason = false ∧ ambient.publishing .archived = none

/-- The audit identifier is a new one, as `uuid4` draws it. -/
structure DecisionAmbient.Fresh (ambient : DecisionAmbient) (store : DecisionStore) : Prop where
  unused : store.audits.get? ambient.auditId = none
  written : Text.isBlank ambient.auditId = false

/-! ## What an orderly call does -/

/-- What a supersession finds and writes. -/
structure Supersession (store : DecisionStore) (old newDecision supersededOld replacement : GovernanceDecision)
    (audit : DecisionAuditRecord) : Prop where
  found : store.get old.record.decisionId = some old
  current : old.supersededBy = none
  active : old.record.status ≠ .archived
  apart : newDecision.record.decisionId ≠ old.record.decisionId
  vacant : store.Open newDecision.record.decisionId
  replaceable : ∀ existing, store.get newDecision.record.decisionId = some existing → existing.supersedes = none
  status : newDecision.record.status.Given
  retired : supersededOld.record = { old.record with
    status := .superseded, supersession := supersededOld.record.supersession }
  onward : supersededOld.supersedes = old.supersedes
  replaced : supersededOld.supersededBy = some newDecision.record.decisionId
  taken : replacement.record = { newDecision.record with supersession := replacement.record.supersession }
  replaces : replacement.supersedes = some old.record.decisionId
  last : replacement.supersededBy = none
  unused : store.audits.get? audit.record.auditId = none
  audited : audit.record.decisionId = old.record.decisionId ∧ audit.record.action = .superseded ∧
    audit.record.metadata = [("superseded_by_decision_id", .str newDecision.record.decisionId)]

/-- What an orderly call returns and leaves behind. -/
inductive Effect (store : DecisionStore) : Outcome DecisionStore GovernanceDecision → Prop
  | unchanged (result : Except Raised GovernanceDecision) : Effect store (result, store)
  | saved {decision : GovernanceDecision} (explanation : Option DecisionExplanation) (bare : decision.Bare)
      (vacant : store.Open decision.record.decisionId)
      (replaceable : ∀ existing, store.get decision.record.decisionId = some existing → existing.supersedes = none)
      (status : decision.record.status.Given) : Effect store (.ok decision, store.put decision explanation)
  | superseded {old newDecision supersededOld replacement : GovernanceDecision} {audit : DecisionAuditRecord}
      (written : Supersession store old newDecision supersededOld replacement audit) :
      Effect store (.ok replacement, ((store.put supersededOld none).put replacement none).saveAudit audit)
  | archived {decision : GovernanceDecision} {now : Instant} {audit : DecisionAuditRecord}
      (found : store.get decision.record.decisionId = some decision)
      (unused : store.audits.get? audit.record.auditId = none)
      (audited : audit.record.decisionId = decision.record.decisionId ∧ audit.record.action = .archived ∧
        audit.record.metadata = []) :
      Effect store (.ok (DecisionStore.archivedFrom decision now),
        (store.put (DecisionStore.archivedFrom decision now) none).saveAudit audit)

namespace DecisionStore

theorem get_put : (store.put decision explanation).get decisionId =
      if decisionId = decision.record.decisionId then some decision else store.get decisionId :=
  store.decisions.get?_set

@[simp] theorem get_saveAudit (record : DecisionAuditRecord) :
    (store.saveAudit record).get decisionId = store.get decisionId := rfl

theorem saveDecision_of_open (vacant : store.Open decision.record.decisionId)
    (published : store.get decision.record.decisionId = none → ambient.publishing .created = none) :
    store.saveDecision ambient decision explanation true true = (.ok decision, store.put decision explanation) := by
  unfold saveDecision
  cases found : store.get decision.record.decisionId with
  | some existing => simp [vacant existing found]
  | none => simp [publish, published found, Outcome.andThen]

/-- A save that enforces nothing and announces nothing writes the decision. -/
theorem saveDecision_plain :
    store.saveDecision ambient decision explanation false false = (.ok decision, store.put decision explanation) := by
  unfold saveDecision
  cases store.get decision.record.decisionId with
  | some existing => rfl
  | none => rfl

/-- A save over a finalized decision changes nothing. -/
theorem saveFinalized_store (store : DecisionStore) (existing decision : GovernanceDecision)
    (explanation : Option DecisionExplanation) : (store.saveFinalized existing decision explanation).2 = store := by
  unfold saveFinalized
  split
  · rfl
  · rfl

/-- A save whose decision is admissible where it is written. -/
theorem saveDecision_effect (bare : decision.Bare)
    (orderly : store.Open decision.record.decisionId → Admissible store ambient decision) :
    Effect store (store.saveDecision ambient decision explanation true true) := by
  by_cases vacant : store.Open decision.record.decisionId
  · have admissible := orderly vacant
    rw [saveDecision_of_open vacant admissible.published]
    exact .saved explanation bare vacant admissible.replaceable admissible.status
  · unfold Open at vacant
    push Not at vacant
    obtain ⟨existing, found, final⟩ := vacant
    have unchanged := store.saveFinalized_store existing decision explanation
    have saved : store.saveDecision ambient decision explanation true true =
        ((store.saveFinalized existing decision explanation).1, store) := by
      unfold saveDecision
      simp only [found, final, Bool.and_self, if_true]
      exact Prod.ext rfl unchanged
    rw [saved]
    exact .unchanged _

/-- What the audit record of a change holds, when the change gives a reason. -/
theorem recordAudit_ok (store : DecisionStore) (written : Text.isBlank ambient.auditId = false)
    (action : DecisionAuditAction) (named : Text.isBlank decisionId = false) (given : Text.isBlank reason = false)
    (provenance : DecisionProvenance) (metadata : Metadata) :
    ∃ audit : DecisionAuditRecord, audit.record.auditId = ambient.auditId ∧ audit.record.decisionId = decisionId ∧
      audit.record.action = action ∧ audit.record.metadata = metadata ∧
      store.recordAudit ambient action decisionId reason provenance metadata = (.ok (), store.saveAudit audit) := by
  have checked := provenance.valid
  simp only [DecisionProvenanceRecord.violation, firstViolation_eq_none, List.mem_cons, List.not_mem_nil, or_false,
    forall_eq_or_imp, forall_eq, requireNonEmpty_eq_none, requireOptionalNonEmpty_eq_none] at checked
  obtain ⟨producer, actor, correlation, request⟩ := checked
  have valid : DecisionAuditFields.violation {
      decisionId
      action
      producerId := provenance.record.producerId
      reason
      auditId := ambient.auditId
      actorId := provenance.record.actorId
      correlationId := provenance.record.correlationId
      requestId := provenance.record.requestId
      createdAt := ambient.auditedAt
      metadata } = none := by
    simp only [DecisionAuditFields.violation, firstViolation_eq_none, List.mem_cons, List.not_mem_nil, or_false,
      forall_eq_or_imp, forall_eq, requireNonEmpty_eq_none, requireOptionalNonEmpty_eq_none]
    exact ⟨written, named, producer, given, actor, correlation, request⟩
  refine ⟨⟨_, valid⟩, rfl, rfl, rfl, rfl, ?_⟩
  unfold recordAudit auditRecord
  rw [Checked.create_of_valid valid]

/-- The two decisions a supersession writes, and the tests it has passed. -/
structure Superseding (old newDecision : GovernanceDecision) (reason : String)
    (supersededOld replacement : GovernanceDecision) : Prop where
  passed : old.supersededBy = none → Replaceable old newDecision reason
  retired : supersededOld.record = { old.record with
    status := .superseded, supersession := supersededOld.record.supersession }
  onward : supersededOld.supersedes = old.supersedes
  replaced : supersededOld.supersededBy = some newDecision.record.decisionId
  taken : replacement.record = { newDecision.record with supersession := replacement.record.supersession }
  replaces : replacement.supersedes = some old.record.decisionId
  last : replacement.supersededBy = newDecision.supersededBy

theorem supersession_ok {old newDecision replacement : GovernanceDecision}
    (built : supersession old newDecision reason = .ok (supersededOld, replacement)) :
    Superseding old newDecision reason supersededOld replacement := by
  unfold supersession at built
  obtain ⟨oldLinks, oldLinked, built⟩ := bind_ok built
  obtain ⟨retired, retiredOk, built⟩ := bind_ok built
  obtain ⟨newLinks, newLinked, built⟩ := bind_ok built
  obtain ⟨taken, takenOk, built⟩ := bind_ok built
  cases built
  rw [Checked.create_eq_ok_iff] at oldLinked retiredOk newLinked takenOk
  have linksChecked := oldLinks.valid
  have oldChecked := supersededOld.valid
  rw [oldLinked] at linksChecked
  rw [retiredOk] at oldChecked
  simp only [DecisionSupersessionRecord.violation, firstViolation_eq_none, List.mem_cons, List.not_mem_nil, or_false,
    forall_eq_or_imp, forall_eq, requireOptionalNonEmpty_eq_none, rejectIf_eq_none, Option.some.injEq]
    at linksChecked
  simp only [GovernanceDecisionRecord.violation, firstViolation_eq_none, List.mem_cons, List.not_mem_nil, or_false,
    forall_eq_or_imp, forall_eq, oldLinked, rejectIf_eq_none, Option.some.injEq, decide_eq_false_iff_not]
    at oldChecked
  exact {
    passed := fun current => {
      current
      reason := linksChecked.2.2.1 reason rfl
      apart := oldChecked.2.2.2.2
      onward := by
        intro same
        have rejected := linksChecked.2.2.2
        simp [same] at rejected }
    retired := by rw [retiredOk]
    onward := by
      unfold supersedes
      rw [retiredOk, oldLinked]
      rfl
    replaced := by
      unfold supersededBy
      rw [retiredOk, oldLinked]
    taken := by rw [takenOk]
    replaces := by
      unfold supersedes
      rw [takenOk, newLinked]
    last := by
      unfold supersededBy
      rw [takenOk, newLinked]
      rfl }

theorem named_of_checked (decision : GovernanceDecision) : Text.isBlank decision.record.decisionId = false := by
  have checked := decision.valid
  simp only [GovernanceDecisionRecord.violation, firstViolation_eq_none, List.mem_cons, forall_eq_or_imp,
    requireNonEmpty_eq_none] at checked
  exact checked.1

/-- The writes of a supersession, when its audit record and its events go through. -/
theorem writeSupersession_ok {replacement : GovernanceDecision} (written : Text.isBlank ambient.auditId = false)
    (given : Text.isBlank reason = false) (apart : replacement.record.decisionId ≠ supersededOld.record.decisionId)
    (vacant : store.Open replacement.record.decisionId)
    (created : store.get replacement.record.decisionId = none → ambient.publishing .created = none)
    (announced : ambient.publishing .superseded = none) :
    ∃ audit : DecisionAuditRecord, audit.record.auditId = ambient.auditId ∧
      audit.record.decisionId = supersededOld.record.decisionId ∧ audit.record.action = .superseded ∧
      audit.record.metadata = [("superseded_by_decision_id", .str replacement.record.decisionId)] ∧
      store.writeSupersession ambient reason supersededOld replacement =
        (.ok replacement, ((store.put supersededOld none).put replacement none).saveAudit audit) := by
  have before : (store.put supersededOld none).get replacement.record.decisionId =
      store.get replacement.record.decisionId := by
    rw [get_put, if_neg apart]
  have second : (store.put supersededOld none).saveDecision ambient replacement none true true =
      (.ok replacement, (store.put supersededOld none).put replacement none) := by
    apply saveDecision_of_open
    · intro existing found
      rw [before] at found
      exact vacant existing found
    · intro absent
      rw [before] at absent
      exact created absent
  obtain ⟨audit, auditId, decisionId, action, metadata, recorded⟩ :=
    ((store.put supersededOld none).put replacement none).recordAudit_ok written .superseded
      (named_of_checked supersededOld) given replacement.record.provenance
      [("superseded_by_decision_id", .str replacement.record.decisionId)]
  refine ⟨audit, auditId, decisionId, action, metadata, ?_⟩
  unfold writeSupersession
  simp only [saveDecision_plain, Outcome.andThen, second, recorded, publish, announced]

variable {repr : String → String} {store : DecisionStore} {ambient : DecisionAmbient}

theorem supersede_effect {oldDecisionId : String} {newDecision : GovernanceDecision} (bare : newDecision.Bare)
    (fresh : ambient.Fresh store)
    (orderly : (DecisionCall.supersede oldDecisionId newDecision reason).Orderly ambient store) :
    Effect store (store.supersede repr ambient oldDecisionId newDecision reason) := by
  unfold supersede
  cases found : store.get oldDecisionId with
  | none => exact .unchanged _
  | some old =>
    have keyed : old.record.decisionId = oldDecisionId := store.keyed found
    subst keyed
    dsimp only
    split
    · exact .unchanged _
    · rename_i unlinked
      have current : old.supersededBy = none := by simpa using unlinked
      cases built : supersession old newDecision reason with
      | error raised => exact .unchanged _
      | ok pair =>
        obtain ⟨supersededOld, replacement⟩ := pair
        have superseding := supersession_ok built
        have passed := superseding.passed current
        obtain ⟨active, vacant, admissible, announced⟩ := orderly old found passed
        have oldNamed : supersededOld.record.decisionId = old.record.decisionId :=
          congrArg (·.decisionId) superseding.retired
        have newNamed : replacement.record.decisionId = newDecision.record.decisionId :=
          congrArg (·.decisionId) superseding.taken
        have last : replacement.supersededBy = none := by
          rw [superseding.last]
          unfold supersededBy
          rw [bare]
          rfl
        have apart : replacement.record.decisionId ≠ supersededOld.record.decisionId := by
          rw [oldNamed, newNamed]
          exact passed.apart
        rw [← newNamed] at vacant
        have published := admissible.published
        rw [← newNamed] at published
        obtain ⟨audit, auditId, decisionId, action, metadata, wrote⟩ :=
          writeSupersession_ok fresh.written passed.reason apart vacant published announced
        dsimp only
        rw [wrote]
        rw [newNamed] at vacant metadata
        rw [oldNamed] at decisionId
        exact .superseded {
          found
          current
          active
          apart := passed.apart
          vacant
          replaceable := admissible.replaceable
          status := admissible.status
          retired := superseding.retired
          onward := superseding.onward
          replaced := superseding.replaced
          taken := superseding.taken
          replaces := superseding.replaces
          last
          unused := by
            rw [auditId]
            exact fresh.unused
          audited := ⟨decisionId, action, metadata⟩ }

theorem archive_effect (fresh : ambient.Fresh store)
    (orderly : (DecisionCall.archive decisionId reason).Orderly ambient store) :
    Effect store (store.archive repr ambient decisionId reason) := by
  unfold archive
  cases found : store.get decisionId with
  | none => exact .unchanged _
  | some decision =>
    have keyed : decision.record.decisionId = decisionId := store.keyed found
    subst keyed
    dsimp only
    split
    · exact .unchanged _
    · rename_i active
      obtain ⟨given, announced⟩ := orderly decision found active
      obtain ⟨audit, auditId, named, action, metadata, recorded⟩ :=
        (store.put (archivedFrom decision ambient.now) none).recordAudit_ok fresh.written .archived
          (named_of_checked decision) given decision.record.provenance []
      simp only [saveDecision_plain, Outcome.andThen, recorded, publish, announced]
      exact .archived found (by rw [auditId]; exact fresh.unused) ⟨named, action, metadata⟩

/-- What an orderly call does. -/
theorem run_effect {call : DecisionCall} (bare : call.Bare) (fresh : ambient.Fresh store)
    (orderly : call.Orderly ambient store) : Effect store (call.run repr ambient store) := by
  cases call with
  | save decision => exact saveDecision_effect bare orderly
  | saveWithExplanation decision explanation => exact saveDecision_effect bare orderly
  | supersede oldDecisionId newDecision reason => exact supersede_effect bare fresh orderly
  | archive decisionId reason => exact archive_effect fresh orderly

end DecisionStore

/-! ## Every run -/

namespace DecisionStore

section Links

variable {store : DecisionStore} {decision : GovernanceDecision} {explanation : Option DecisionExplanation}

theorem supersededBy_put {oldId newId : String} : (store.put decision explanation).SupersededBy oldId newId ↔
    if oldId = decision.record.decisionId then decision.supersededBy = some newId
    else store.SupersededBy oldId newId := by
  unfold SupersededBy
  rw [get_put]
  split
  · simp
  · rfl

theorem supersedes_put {newId oldId : String} : (store.put decision explanation).Supersedes newId oldId ↔
    if newId = decision.record.decisionId then decision.supersedes = some oldId
    else store.Supersedes newId oldId := by
  unfold Supersedes
  rw [get_put]
  split
  · simp
  · rfl

/-- What is not finalized is superseded by nothing. -/
theorem Sound.unlinked (sound : Sound store) (vacant : store.Open decisionId) (newId : String) :
    ¬ store.SupersededBy decisionId newId := by
  rintro ⟨existing, found, linked⟩
  have final := sound.finalized found linked
  rw [vacant existing found] at final
  cases final

theorem Audited.saveAudit {action : DecisionAuditAction} {metadata : Metadata} {record : DecisionAuditRecord}
    (audited : store.Audited decisionId action metadata) (unused : store.audits.get? record.record.auditId = none) :
    (store.saveAudit record).Audited decisionId action metadata := by
  obtain ⟨auditId, audit, found, matching⟩ := audited
  exact ⟨auditId, audit, Dict.get?_set_of_some unused found, matching⟩

theorem audited_saveAudit (record : DecisionAuditRecord) :
    (store.saveAudit record).Audited record.record.decisionId record.record.action record.record.metadata :=
  ⟨record.record.auditId, record, Dict.get?_set_self _, rfl, rfl, rfl⟩

end Links

theorem Sound.empty : Sound empty where
  symmetric oldId newId := by
    constructor
    · rintro ⟨_, found, _⟩
      cases found
    · rintro ⟨_, found, _⟩
      cases found
  acyclic decisionId := by
    intro cycle
    obtain ⟨_, ⟨_, found, _⟩, _⟩ := Relation.TransGen.head'_iff.mp cycle
    cases found
  linked found := by cases found
  finalized found := by cases found
  supersededAudited := by
    rintro _ _ ⟨_, found, _⟩
    cases found
  archivedAudited found := by cases found

/-- A bare decision in the place of one without links adds no link and takes none away. -/
theorem Sound.saved (sound : Sound store) (explanation : Option DecisionExplanation) (bare : decision.Bare)
    (vacant : store.Open decision.record.decisionId)
    (replaceable : ∀ existing, store.get decision.record.decisionId = some existing → existing.supersedes = none)
    (status : decision.record.status.Given) : Sound (store.put decision explanation) := by
  have noSuccessor : decision.supersededBy = none := by
    unfold supersededBy
    rw [bare]
    rfl
  have noPredecessor : decision.supersedes = none := by
    unfold supersedes
    rw [bare]
    rfl
  have forward : ∀ oldId newId, (store.put decision explanation).SupersededBy oldId newId ↔
      store.SupersededBy oldId newId := by
    intro oldId newId
    rw [supersededBy_put]
    split
    · rename_i here
      subst here
      simp [noSuccessor, sound.unlinked vacant newId]
    · rfl
  have backward : ∀ newId oldId, (store.put decision explanation).Supersedes newId oldId ↔
      store.Supersedes newId oldId := by
    intro newId oldId
    rw [supersedes_put]
    split
    · rename_i here
      subst here
      constructor
      · intro linked
        rw [noPredecessor] at linked
        cases linked
      · rintro ⟨existing, found, linked⟩
        rw [replaceable existing found] at linked
        cases linked
    · rfl
  have same : (store.put decision explanation).SupersededBy = store.SupersededBy := by
    ext oldId newId
    exact forward oldId newId
  refine ⟨fun oldId newId => ?_, ?_, ?_, ?_, ?_, ?_⟩
  · rw [forward, backward]
    exact sound.symmetric oldId newId
  · rw [same]
    exact sound.acyclic
  · intro decisionId stored found superseded
    rw [get_put] at found
    rw [same]
    split at found
    · cases found
      exact absurd superseded status.1
    · exact sound.linked found superseded
  · intro oldId newId stored found linked
    rw [get_put] at found
    split at found
    · cases found
      rw [noSuccessor] at linked
      cases linked
    · exact sound.finalized found linked
  · intro oldId newId linked
    exact sound.supersededAudited ((forward oldId newId).mp linked)
  · intro decisionId stored found archived
    rw [get_put] at found
    split at found
    · cases found
      exact absurd archived status.2
    · exact sound.archivedAudited found archived

/-- A supersession adds the one link from the old decision to the new one. -/
theorem Sound.superseded {old newDecision replacement : GovernanceDecision} {audit : DecisionAuditRecord}
    (sound : Sound store) (supersession : Supersession store old newDecision supersededOld replacement audit) :
    Sound (((store.put supersededOld none).put replacement none).saveAudit audit) := by
  obtain ⟨found, current, -, apart, vacant, replaceable, status, retired, onward, replaced, taken, replaces, last,
    unused, auditDecision, auditAction, auditMetadata⟩ := supersession
  generalize written : ((store.put supersededOld none).put replacement none).saveAudit audit = after
  have oldNamed : supersededOld.record.decisionId = old.record.decisionId := congrArg (·.decisionId) retired
  have newNamed : replacement.record.decisionId = newDecision.record.decisionId := congrArg (·.decisionId) taken
  have get : ∀ decisionId, after.get decisionId =
      if decisionId = newDecision.record.decisionId then some replacement
      else if decisionId = old.record.decisionId then some supersededOld else store.get decisionId := by
    intro decisionId
    rw [← written, get_saveAudit, get_put, get_put, newNamed, oldNamed]
  have forward : ∀ oldId newId, after.SupersededBy oldId newId ↔
      store.SupersededBy oldId newId ∨ (oldId = old.record.decisionId ∧ newId = newDecision.record.decisionId) := by
    intro oldId newId
    rw [← written]
    change ((store.put supersededOld none).put replacement none).SupersededBy oldId newId ↔ _
    rw [supersededBy_put, supersededBy_put, newNamed, oldNamed]
    split
    · rename_i here
      subst here
      simp [last, sound.unlinked vacant newId, apart]
    · split
      · rename_i here
        subst here
        have unlinked : ¬ store.SupersededBy old.record.decisionId newId := by
          rintro ⟨stored, again, linked⟩
          rw [found] at again
          cases again
          rw [current] at linked
          cases linked
        simp [replaced, unlinked, eq_comm]
      · rename_i elsewhere
        simp [elsewhere]
  have backward : ∀ newId oldId, after.Supersedes newId oldId ↔
      store.Supersedes newId oldId ∨ (oldId = old.record.decisionId ∧ newId = newDecision.record.decisionId) := by
    intro newId oldId
    rw [← written]
    change ((store.put supersededOld none).put replacement none).Supersedes newId oldId ↔ _
    rw [supersedes_put, supersedes_put, newNamed, oldNamed]
    split
    · rename_i here
      subst here
      have unlinked : ¬ store.Supersedes newDecision.record.decisionId oldId := by
        rintro ⟨stored, again, linked⟩
        rw [replaceable stored again] at linked
        cases linked
      simp [replaces, unlinked, eq_comm]
    · rename_i elsewhere
      split
      · rename_i here
        subst here
        simp [onward, elsewhere, Supersedes, found]
      · simp [elsewhere]
  have kept : ∀ {decisionId action metadata}, store.Audited decisionId action metadata →
      after.Audited decisionId action metadata := by
    intro decisionId action metadata before
    rw [← written]
    have stands : ((store.put supersededOld none).put replacement none).Audited decisionId action metadata := before
    exact stands.saveAudit unused
  have recorded : after.Audited old.record.decisionId .superseded
      [("superseded_by_decision_id", .str newDecision.record.decisionId)] := by
    rw [← written, ← auditDecision, ← auditAction, ← auditMetadata]
    exact audited_saveAudit audit
  refine ⟨fun oldId newId => ?_, ?_, ?_, ?_, ?_, ?_⟩
  · rw [forward, backward, sound.symmetric]
  · exact acyclic_extend sound.acyclic (sound.unlinked vacant) apart fun a b => (forward a b).mp
  · intro decisionId stored stands superseded
    rw [get] at stands
    split at stands
    · cases stands
      rw [taken] at superseded
      exact absurd superseded status.1
    · split at stands
      · rename_i here
        exact ⟨newDecision.record.decisionId, (forward _ _).mpr (Or.inr ⟨here, rfl⟩)⟩
      · obtain ⟨newId, linked⟩ := sound.linked stands superseded
        exact ⟨newId, (forward _ _).mpr (Or.inl linked)⟩
  · intro oldId newId stored stands linked
    rw [get] at stands
    split at stands
    · cases stands
      rw [last] at linked
      cases linked
    · split at stands
      · cases stands
        unfold isFinalized
        rw [retired]
        rfl
      · exact sound.finalized stands linked
  · intro oldId newId linked
    rcases (forward oldId newId).mp linked with before | ⟨rfl, rfl⟩
    · exact kept (sound.supersededAudited before)
    · exact recorded
  · intro decisionId stored stands archived
    rw [get] at stands
    split at stands
    · cases stands
      rw [taken] at archived
      exact absurd archived status.2
    · split at stands
      · cases stands
        rw [retired] at archived
        cases archived
      · exact kept (sound.archivedAudited stands archived)

theorem Sound.archived {now : Instant} {audit : DecisionAuditRecord} (sound : Sound store)
    (found : store.get decision.record.decisionId = some decision)
    (unused : store.audits.get? audit.record.auditId = none)
    (audited : audit.record.decisionId = decision.record.decisionId ∧ audit.record.action = .archived ∧
      audit.record.metadata = []) : Sound ((store.put (archivedFrom decision now) none).saveAudit audit) := by
  obtain ⟨auditDecision, auditAction, auditMetadata⟩ := audited
  generalize written : (store.put (archivedFrom decision now) none).saveAudit audit = after
  have get : ∀ decisionId, after.get decisionId =
      if decisionId = decision.record.decisionId then some (archivedFrom decision now) else store.get decisionId := by
    intro decisionId
    rw [← written, get_saveAudit, get_put]
    rfl
  have forward : after.SupersededBy = store.SupersededBy := by
    ext oldId newId
    unfold SupersededBy
    rw [get]
    split
    · rename_i here
      subst here
      simp [found, supersededBy, archivedFrom]
    · rfl
  have backward : after.Supersedes = store.Supersedes := by
    ext newId oldId
    unfold Supersedes
    rw [get]
    split
    · rename_i here
      subst here
      simp [found, supersedes, archivedFrom]
    · rfl
  have kept : ∀ {decisionId action metadata}, store.Audited decisionId action metadata →
      after.Audited decisionId action metadata := by
    intro decisionId action metadata before
    rw [← written]
    have stands : (store.put (archivedFrom decision now) none).Audited decisionId action metadata := before
    exact stands.saveAudit unused
  have recorded : after.Audited decision.record.decisionId .archived [] := by
    rw [← written, ← auditDecision, ← auditAction, ← auditMetadata]
    exact audited_saveAudit audit
  refine ⟨?_, ?_, ?_, ?_, ?_, ?_⟩
  · rw [forward, backward]
    exact sound.symmetric
  · rw [forward]
    exact sound.acyclic
  · intro decisionId stored stands superseded
    rw [get] at stands
    rw [forward]
    split at stands
    · cases stands
      cases superseded
    · exact sound.linked stands superseded
  · intro oldId newId stored stands linked
    rw [get] at stands
    split at stands
    · cases stands
      rfl
    · exact sound.finalized stands linked
  · intro oldId newId linked
    rw [forward] at linked
    exact kept (sound.supersededAudited linked)
  · intro decisionId stored stands archived
    rw [get] at stands
    split at stands
    · rename_i here
      rw [here]
      exact recorded
    · exact kept (sound.archivedAudited stands archived)

theorem Sound.step {outcome : Outcome DecisionStore GovernanceDecision} (sound : Sound store)
    (does : Effect store outcome) : Sound outcome.2 := by
  cases does with
  | unchanged result => exact sound
  | saved explanation bare vacant replaceable status => exact sound.saved explanation bare vacant replaceable status
  | superseded written => exact sound.superseded written
  | archived found unused audited => exact sound.archived found unused audited

theorem Advance.refl (store : DecisionStore) : Advance store store where
  finalized found final := ⟨_, found, final, rfl⟩
  archived found archived := ⟨_, found, archived⟩

theorem Advance.trans {middle later : DecisionStore} (first : Advance store middle) (second : Advance middle later) :
    Advance store later where
  finalized found final := by
    obtain ⟨kept, there, stillFinal, same⟩ := first.finalized found final
    obtain ⟨last, ending, lastFinal, again⟩ := second.finalized there stillFinal
    exact ⟨last, ending, lastFinal, again.trans same⟩
  archived found archived := by
    obtain ⟨kept, there, still⟩ := first.archived found archived
    exact second.archived there still

theorem isFinalized_of_archived (archived : decision.record.status = .archived) : decision.isFinalized = true := by
  unfold isFinalized
  rw [archived]
  rfl

/-- Where decisions are linked, both ends are one to one. -/
theorem Sound.biUnique (sound : Sound store) : Relator.BiUnique store.SupersededBy := by
  constructor
  · intro first second newId left right
    obtain ⟨decision, found, linked⟩ := (sound.symmetric first newId).mp left
    obtain ⟨again, stands, relinked⟩ := (sound.symmetric second newId).mp right
    rw [found] at stands
    cases stands
    rw [linked] at relinked
    exact Option.some.inj relinked
  · rintro oldId first second ⟨decision, found, linked⟩ ⟨again, stands, relinked⟩
    rw [found] at stands
    cases stands
    rw [linked] at relinked
    exact Option.some.inj relinked

end DecisionStore

open DecisionStore in
theorem Effect.advance {outcome : Outcome DecisionStore GovernanceDecision} (does : Effect store outcome) :
    store.Advance outcome.2 := by
  cases does with
  | unchanged result => exact Advance.refl store
  | @saved decision explanation bare vacant replaceable status =>
    have kept : ∀ {decisionId stored}, store.get decisionId = some stored → stored.isFinalized = true →
        (store.put decision explanation).get decisionId = some stored := by
      intro decisionId stored found final
      rw [get_put, if_neg, found]
      rintro rfl
      rw [vacant stored found] at final
      cases final
    exact ⟨fun found final => ⟨_, kept found final, final, rfl⟩,
      fun found archived => ⟨_, kept found (isFinalized_of_archived archived), archived⟩⟩
  | @superseded old newDecision supersededOld replacement audit written =>
    obtain ⟨found, -, active, -, vacant, -, -, retired, -, -, taken, -, -, -, -⟩ := written
    have oldNamed : supersededOld.record.decisionId = old.record.decisionId := congrArg (·.decisionId) retired
    have newNamed : replacement.record.decisionId = newDecision.record.decisionId := congrArg (·.decisionId) taken
    have kept : ∀ {decisionId stored}, store.get decisionId = some stored → stored.isFinalized = true →
        (((store.put supersededOld none).put replacement none).saveAudit audit).get decisionId =
          if decisionId = old.record.decisionId then some supersededOld else some stored := by
      intro decisionId stored stands final
      rw [get_saveAudit, get_put, get_put, if_neg, oldNamed, stands]
      rintro rfl
      rw [newNamed] at stands
      rw [vacant stored stands] at final
      cases final
    refine ⟨fun {decisionId stored} stands final => ?_, fun {decisionId stored} stands archived => ?_⟩
    · by_cases here : decisionId = old.record.decisionId
      · subst here
        rw [found] at stands
        cases stands
        refine ⟨supersededOld, by rw [kept found final, if_pos rfl], ?_, ?_⟩
        · unfold isFinalized
          rw [retired]
          rfl
        · unfold content
          rw [retired]
      · exact ⟨stored, by rw [kept stands final, if_neg here], final, rfl⟩
    · refine ⟨stored, ?_, archived⟩
      rw [kept stands (isFinalized_of_archived archived), if_neg]
      rintro rfl
      rw [found] at stands
      cases stands
      exact active archived
  | @archived decision now audit found unused audited =>
    have kept : ∀ {decisionId stored}, store.get decisionId = some stored →
        ((store.put (archivedFrom decision now) none).saveAudit audit).get decisionId =
          if decisionId = decision.record.decisionId then some (archivedFrom decision now) else some stored := by
      intro decisionId stored stands
      rw [get_saveAudit, get_put, stands]
      rfl
    refine ⟨fun {decisionId stored} stands final => ?_, fun {decisionId stored} stands archived => ?_⟩
    · by_cases here : decisionId = decision.record.decisionId
      · subst here
        rw [found] at stands
        cases stands
        refine ⟨archivedFrom decision now, ?_, rfl, rfl⟩
        rw [kept found, if_pos rfl]
      · exact ⟨stored, by rw [kept stands, if_neg here], final, rfl⟩
    · by_cases here : decisionId = decision.record.decisionId
      · exact ⟨_, by rw [kept stands, if_pos here], rfl⟩
      · exact ⟨stored, by rw [kept stands, if_neg here], archived⟩

theorem Effect.raises {raised : Raised} (does : Effect store (.error raised, after)) : after = store := by
  cases does with
  | unchanged => rfl

/-- A call with a new audit identifier whose decisions carry no links. -/
inductive Step (repr : String → String) (admits : DecisionCall → DecisionAmbient → DecisionStore → Prop)
    (store : DecisionStore) : DecisionStore → Prop
  | call {call : DecisionCall} {ambient : DecisionAmbient} (bare : call.Bare) (fresh : ambient.Fresh store)
      (admitted : admits call ambient store) : Step repr admits store (call.run repr ambient store).2

/-- The contract of the ledger, at one state of a run and over the rest of it. -/
structure Ledger (repr : String → String) (admits : DecisionCall → DecisionAmbient → DecisionStore → Prop)
    (store : DecisionStore) : Prop where
  sound : store.Sound
  unique : Relator.BiUnique store.SupersededBy
  advance : ∀ later, Relation.ReflTransGen (Step repr admits) store later → store.Advance later
  raises : ∀ {call : DecisionCall} {ambient raised}, call.Bare → ambient.Fresh store →
    admits call ambient store → (call.run repr ambient store).1 = .error raised →
      (call.run repr ambient store).2 = store

theorem sound_of_run {repr : String → String}
    (run : Relation.ReflTransGen (Step repr DecisionCall.Orderly) .empty store) : store.Sound := by
  induction run with
  | refl => exact DecisionStore.Sound.empty
  | tail _ step ih =>
    obtain ⟨bare, fresh, orderly⟩ := step
    exact ih.step (DecisionStore.run_effect bare fresh orderly)

theorem advance_of_run {repr : String → String} {later : DecisionStore}
    (run : Relation.ReflTransGen (Step repr DecisionCall.Orderly) store later) : store.Advance later := by
  induction run with
  | refl => exact DecisionStore.Advance.refl store
  | tail _ step ih =>
    obtain ⟨bare, fresh, orderly⟩ := step
    exact ih.trans (DecisionStore.run_effect bare fresh orderly).advance

/-- Orderly calls keep the ledger. -/
theorem ledger_kept {repr : String → String} {store : DecisionStore}
    (run : Relation.ReflTransGen (Step repr DecisionCall.Orderly) .empty store) :
    Ledger repr DecisionCall.Orderly store where
  sound := sound_of_run run
  unique := (sound_of_run run).biUnique
  advance _ := advance_of_run
  raises {call ambient raised} bare fresh orderly failed := by
    have does : Effect store (call.run repr ambient store) := DecisionStore.run_effect bare fresh orderly
    have outcome : call.run repr ambient store = (.error raised, (call.run repr ambient store).2) :=
      Prod.ext failed rfl
    rw [outcome] at does
    exact does.raises

/-- An approval of one project. -/
def approval (decisionId : String) (valid : Text.isBlank decisionId = false) : GovernanceDecision :=
  ⟨{ decisionId
     decisionType := .approve
     status := .approved
     target := ⟨⟨.candidate, "candidate-1"⟩, by decide +kernel⟩
     reason := "Evaluation passed"
     confidence := .high
     evidence := [⟨⟨"evaluation", "evaluation-1", none, none, []⟩, by decide +kernel⟩]
     policies := []
     provenance := ⟨⟨.system, "policy-engine", none, none, none, ⟨0⟩⟩, by decide +kernel⟩
     supersession := .empty
     metadata := []
     finalizedAt := none
     archivedAt := none }, by
    simp only [GovernanceDecisionRecord.violation, firstViolation_eq_none, List.mem_cons, List.not_mem_nil, or_false,
      forall_eq_or_imp, forall_eq, requireNonEmpty_eq_none, rejectIf_eq_none]
    exact ⟨valid, by decide +kernel, rfl, decide_eq_false nofun, decide_eq_false nofun⟩⟩

/-- No publisher, and the audit identifier drawn. -/
def drawing (auditId : String) : DecisionAmbient := ⟨⟨1⟩, auditId, ⟨1⟩, fun _ => none⟩

/-- The approval of one decision identifier is saved. -/
def firstApproved : DecisionStore :=
  (DecisionStore.empty.save (drawing "audit-1") (approval "decision-1" (by decide +kernel))).2

/-- The approvals of two decision identifiers are saved. -/
def bothApproved : DecisionStore :=
  (firstApproved.save (drawing "audit-2") (approval "decision-2" (by decide +kernel))).2

theorem approval_admissible {auditId : String} (valid : Text.isBlank decisionId = false)
    (absent : store.get decisionId = none) :
    Admissible store (drawing auditId) (approval decisionId valid) where
  replaceable existing found := by
    have nothing : store.get decisionId = some existing := found
    rw [absent] at nothing
    cases nothing
  status := ⟨nofun, nofun⟩
  published _ := rfl

theorem firstApproved_step {admits : DecisionCall → DecisionAmbient → DecisionStore → Prop}
    (admitted : ∀ call ambient store, call.Orderly ambient store → admits call ambient store) :
    Step id admits .empty firstApproved := by
  apply @Step.call id admits .empty (.save (approval "decision-1" (by decide +kernel))) (drawing "audit-1")
  · rfl
  · exact ⟨rfl, by decide +kernel⟩
  · apply admitted
    intro _
    exact approval_admissible _ rfl

/-- An approval is saved and superseded by a new one. -/
theorem ledger_kept_superseded : Ledger id DecisionCall.Orderly
    ((DecisionCall.supersede "decision-1" (approval "decision-2" (by decide +kernel)) "New evidence").run id
      (drawing "audit-2") firstApproved).2 := by
  apply ledger_kept
  refine (Relation.ReflTransGen.single (firstApproved_step fun _ _ _ orderly => orderly)).tail (Step.call rfl ?_ ?_)
  · exact ⟨rfl, by decide +kernel⟩
  · intro old found passed
    have saved : firstApproved.get "decision-1" = some (approval "decision-1" (by decide +kernel)) := by rfl
    have absent : firstApproved.get "decision-2" = none := by rfl
    rw [saved] at found
    cases found
    refine ⟨nofun, ?_, approval_admissible _ absent, rfl⟩
    intro existing stored
    have nothing : firstApproved.get "decision-2" = some existing := stored
    rw [absent] at nothing
    cases nothing

/-- The replacement is an approval that stands already: the old decision is written as superseded, then the
replacement is refused. -/
theorem ledger_broken : ¬ ∀ store, Relation.ReflTransGen (Step id fun _ _ _ => True) .empty store →
    Ledger id (fun _ _ _ => True) store := by
  intro kept
  have second : Step id (fun _ _ _ => True) firstApproved bothApproved :=
    @Step.call id _ firstApproved (.save (approval "decision-2" (by decide +kernel))) (drawing "audit-2") rfl
      ⟨rfl, by decide +kernel⟩ trivial
  have ledger := kept bothApproved
    ((Relation.ReflTransGen.single (firstApproved_step fun _ _ _ _ => trivial)).tail second)
  have restored : ((DecisionCall.supersede "decision-1" (approval "decision-2" (by decide +kernel)) "New evidence").run
      id (drawing "audit-3") bothApproved).2 = bothApproved :=
    ledger.raises rfl ⟨rfl, by decide +kernel⟩ trivial rfl
  have links := congrArg (fun store => (store.get "decision-1").map (·.supersededBy)) restored
  exact absurd links (by decide +kernel)

end AiGovernance.Decisions
