import AiGovernance.Decisions.GovernanceDecision
import AiGovernance.Std.Dict

/-!
# The in-memory decision repository

`InMemoryGovernanceDecisionRepository`: decisions, explanations and audit
records, each in a dictionary of its own. A call that raises returns the store
it leaves behind. What an ontology publisher raises for an event is an argument
of the call; the payload it is given is not read back and left out.
-/

namespace AiGovernance.Decisions

open AiGovernance.Std Domain

/-- The dictionaries, every record under its own identifier. -/
structure DecisionStore where
  decisions : Dict String GovernanceDecision
  explanations : Dict String DecisionExplanation
  audits : Dict String DecisionAuditRecord
  keyed : ∀ {decisionId decision}, decisions.get? decisionId = some decision →
    decision.record.decisionId = decisionId

/-- The event types of `decisions/events.py`. -/
inductive DecisionEvent where
  | created
  | superseded
  | archived
deriving DecidableEq

/-- What a call draws from outside the store: the clock for `archived_at`, the identifier and the clock reading of
an audit record, and what publishing an event raises. -/
structure DecisionAmbient where
  now : Instant
  auditId : String
  auditedAt : Instant
  publishing : DecisionEvent → Option Raised

/-- The audit record of a change. -/
def auditRecord (ambient : DecisionAmbient) (action : DecisionAuditAction) (decisionId reason : String)
    (provenance : DecisionProvenance) (metadata : Metadata) : Except Raised DecisionAuditRecord :=
  Checked.create {
    decisionId
    action
    producerId := provenance.record.producerId
    reason
    auditId := ambient.auditId
    actorId := provenance.record.actorId
    correlationId := provenance.record.correlationId
    requestId := provenance.record.requestId
    createdAt := ambient.auditedAt
    metadata }

/-- A call that has ended, with the store it leaves. -/
abbrev Outcome (Store α : Type) := Except Raised α × Store

/-- Go on where a call has returned. -/
def Outcome.andThen {Store α β : Type} (outcome : Outcome Store α) (next : α → Store → Outcome Store β) :
    Outcome Store β :=
  match outcome with
  | (.ok value, store) => next value store
  | (.error raised, store) => (.error raised, store)

namespace DecisionStore

/-- A new repository. -/
def empty : DecisionStore := ⟨.empty, .empty, .empty, by simp⟩

/-- `get`. -/
def get (store : DecisionStore) (decisionId : String) : Option GovernanceDecision :=
  store.decisions.get? decisionId

/-- `get_explanation`. -/
def getExplanation (store : DecisionStore) (decisionId : String) : Option DecisionExplanation :=
  store.explanations.get? decisionId

/-- The two assignments of `_save`. -/
def put (store : DecisionStore) (decision : GovernanceDecision) (explanation : Option DecisionExplanation) :
    DecisionStore where
  decisions := store.decisions.set decision.record.decisionId decision
  explanations :=
    match explanation with
    | some explanation => store.explanations.set decision.record.decisionId explanation
    | none => store.explanations
  audits := store.audits
  keyed := store.decisions.keyed_set store.keyed rfl

/-- `save_audit`. -/
def saveAudit (store : DecisionStore) (record : DecisionAuditRecord) : DecisionStore :=
  { store with audits := store.audits.set record.record.auditId record }

/-- `_publish`. -/
def publish (store : DecisionStore) (ambient : DecisionAmbient) (event : DecisionEvent) : Outcome DecisionStore Unit :=
  match ambient.publishing event with
  | some raised => (.error raised, store)
  | none => (.ok (), store)

/-- What a save returns for a finalized decision that is stored already. -/
def saveFinalized (store : DecisionStore) (existing decision : GovernanceDecision)
    (explanation : Option DecisionExplanation) : Outcome DecisionStore GovernanceDecision :=
  if existing.same decision && (explanation.isNone || explanation.any fun given =>
      (store.getExplanation decision.record.decisionId).any (·.same given)) then
    (.ok decision, store)
  else (.error ⟨.decisionValidationError, "Finalized governance decision cannot be mutated."⟩, store)

/-- `_save`. -/
def saveDecision (store : DecisionStore) (ambient : DecisionAmbient) (decision : GovernanceDecision)
    (explanation : Option DecisionExplanation) (publishCreated enforceFinalized : Bool) :
    Outcome DecisionStore GovernanceDecision :=
  match store.get decision.record.decisionId with
  | some existing =>
    if enforceFinalized && existing.isFinalized then store.saveFinalized existing decision explanation
    else (.ok decision, store.put decision explanation)
  | none =>
    if publishCreated then
      ((store.put decision explanation).publish ambient .created).andThen fun _ store => (.ok decision, store)
    else (.ok decision, store.put decision explanation)

/-- `save`. -/
def save (store : DecisionStore) (ambient : DecisionAmbient) (decision : GovernanceDecision) :
    Outcome DecisionStore GovernanceDecision :=
  store.saveDecision ambient decision none true true

/-- `save_with_explanation`. -/
def saveWithExplanation (store : DecisionStore) (ambient : DecisionAmbient) (decision : GovernanceDecision)
    (explanation : DecisionExplanation) : Outcome DecisionStore GovernanceDecision :=
  store.saveDecision ambient decision (some explanation) true true

/-- Save the audit record of a change, once it is built. -/
def recordAudit (store : DecisionStore) (ambient : DecisionAmbient) (action : DecisionAuditAction)
    (decisionId reason : String) (provenance : DecisionProvenance) (metadata : Metadata) : Outcome DecisionStore Unit :=
  match auditRecord ambient action decisionId reason provenance metadata with
  | .ok record => (.ok (), store.saveAudit record)
  | .error raised => (.error raised, store)

/-- `superseded_old` and `replacement` of `supersede`. -/
def supersession (old new : GovernanceDecision) (reason : String) :
    Except Raised (GovernanceDecision × GovernanceDecision) := do
  let oldLinks : DecisionSupersession ← Checked.create
    ⟨old.supersedes, some new.record.decisionId, some reason⟩
  let supersededOld : GovernanceDecision ← Checked.create
    { old.record with status := .superseded, supersession := oldLinks }
  let newLinks : DecisionSupersession ← Checked.create
    ⟨some old.record.decisionId, new.supersededBy, some reason⟩
  let replacement : GovernanceDecision ← Checked.create { new.record with supersession := newLinks }
  .ok (supersededOld, replacement)

/-- The writes of `supersede`. -/
def writeSupersession (store : DecisionStore) (ambient : DecisionAmbient) (reason : String)
    (supersededOld replacement : GovernanceDecision) : Outcome DecisionStore GovernanceDecision :=
  (store.saveDecision ambient supersededOld none false false).andThen fun _ store =>
  (store.saveDecision ambient replacement none true true).andThen fun saved store =>
  (store.recordAudit ambient .superseded supersededOld.record.decisionId reason replacement.record.provenance
    [("superseded_by_decision_id", .str replacement.record.decisionId)]).andThen fun _ store =>
  (store.publish ambient .superseded).andThen fun _ store => (.ok saved, store)

section Repr

variable (repr : String → String)

/-- `supersede`; `repr` is the representation of a string in the messages. -/
def supersede (store : DecisionStore) (ambient : DecisionAmbient) (oldDecisionId : String)
    (newDecision : GovernanceDecision) (reason : String) : Outcome DecisionStore GovernanceDecision :=
  match store.get oldDecisionId with
  | none =>
    (.error ⟨.decisionValidationError, "Governance decision " ++ repr oldDecisionId ++ " does not exist."⟩, store)
  | some old =>
    if old.supersededBy.isSome then
      (.error ⟨.decisionValidationError,
        "Governance decision " ++ repr oldDecisionId ++ " is already superseded."⟩, store)
    else
      match supersession old newDecision reason with
      | .error raised => (.error raised, store)
      | .ok (supersededOld, replacement) => store.writeSupersession ambient reason supersededOld replacement

/-- `archived` of `archive`. -/
def archivedFrom (decision : GovernanceDecision) (now : Instant) : GovernanceDecision :=
  ⟨{ decision.record with status := .archived, archivedAt := some now }, decision.valid⟩

/-- `archive`. -/
def archive (store : DecisionStore) (ambient : DecisionAmbient) (decisionId reason : String) :
    Outcome DecisionStore GovernanceDecision :=
  match store.get decisionId with
  | none =>
    (.error ⟨.decisionValidationError, "Governance decision " ++ repr decisionId ++ " does not exist."⟩, store)
  | some decision =>
    if decision.record.status = .archived then (.ok decision, store)
    else
      (store.saveDecision ambient (archivedFrom decision ambient.now) none false false).andThen fun saved store =>
      (store.recordAudit ambient .archived decisionId reason decision.record.provenance []).andThen fun _ store =>
      (store.publish ambient .archived).andThen fun _ store => (.ok saved, store)

end Repr

end DecisionStore

/-! ## Listings -/

/-- The slice `[:limit]`; a negative limit counts from the end. -/
def sliceTo {Item : Type} (limit : Int) (items : List Item) : List Item :=
  if 0 ≤ limit then items.take limit.toNat else items.take (items.length - limit.natAbs)

/-- `provenance.created_at`. -/
def GovernanceDecision.createdAt (decision : GovernanceDecision) : Instant := decision.record.provenance.record.createdAt

/-- The order of `_sorted`, whose keys are the creation time and the identifier, both descending. -/
def GovernanceDecision.sortedBefore (left right : GovernanceDecision) : Prop :=
  right.createdAt < left.createdAt ∨
    right.createdAt = left.createdAt ∧ right.record.decisionId ≤ left.record.decisionId

instance (left right : GovernanceDecision) : Decidable (left.sortedBefore right) :=
  inferInstanceAs (Decidable (_ ∨ _))

/-- What the listings select. -/
inductive DecisionQuery where
  | target (targetType : DecisionTargetType) (targetId : String)
  | status (status : DecisionStatus)
  | correlationId (correlationId : String)
  | requestId (requestId : String)
  | all

/-- The condition of the generator expression a listing sorts. -/
def DecisionQuery.selects (query : DecisionQuery) (decision : GovernanceDecision) : Bool :=
  match query with
  | .target targetType targetId =>
    decision.record.target.record.targetType = targetType && decision.record.target.record.targetId = targetId
  | .status wanted => decision.record.status = wanted
  | .correlationId wanted => decision.record.provenance.record.correlationId = some wanted
  | .requestId wanted => decision.record.provenance.record.requestId = some wanted
  | .all => true

namespace DecisionStore

/-- `_sorted` of the decisions selected, cut at the limit. -/
def listing (store : DecisionStore) (query : DecisionQuery) (limit : Int) : List GovernanceDecision :=
  sliceTo limit ((store.decisions.values.filter query.selects).insertionSort GovernanceDecision.sortedBefore)

/-- `find_by_target`. -/
def findByTarget (store : DecisionStore) (targetType : DecisionTargetType) (targetId : String) (limit : Int) :
    List GovernanceDecision :=
  store.listing (.target targetType targetId) limit

/-- `find_by_status`. -/
def findByStatus (store : DecisionStore) (status : DecisionStatus) (limit : Int) : List GovernanceDecision :=
  store.listing (.status status) limit

/-- `find_by_correlation_id`. -/
def findByCorrelationId (store : DecisionStore) (correlationId : String) (limit : Int) : List GovernanceDecision :=
  store.listing (.correlationId correlationId) limit

/-- `find_by_request_id`. -/
def findByRequestId (store : DecisionStore) (requestId : String) (limit : Int) : List GovernanceDecision :=
  store.listing (.requestId requestId) limit

/-- `list`. -/
def list (store : DecisionStore) (limit : Int) : List GovernanceDecision := store.listing .all limit

end DecisionStore

/-! ## Calls -/

/-- The calls that write. -/
inductive DecisionCall where
  | save (decision : GovernanceDecision)
  | saveWithExplanation (decision : GovernanceDecision) (explanation : DecisionExplanation)
  | supersede (oldDecisionId : String) (newDecision : GovernanceDecision) (reason : String)
  | archive (decisionId reason : String)

/-- What a call does. -/
def DecisionCall.run (repr : String → String) (call : DecisionCall) (ambient : DecisionAmbient)
    (store : DecisionStore) : Outcome DecisionStore GovernanceDecision :=
  match call with
  | .save decision => store.save ambient decision
  | .saveWithExplanation decision explanation => store.saveWithExplanation ambient decision explanation
  | .supersede oldDecisionId newDecision reason => store.supersede repr ambient oldDecisionId newDecision reason
  | .archive decisionId reason => store.archive repr ambient decisionId reason

end AiGovernance.Decisions
