import AiGovernance.Authorization.Idempotence
import AiGovernance.Lifecycle.Ingestion
import AiGovernance.Services.Footprints

/-!
# Provenance of ALLOW decisions

`authorize` trusts whatever event it finds under its key. This module traces
every ALLOW it returns back to an evaluation that answered ALLOW, over any
history of calls in which no caller appends an authorization event of its own
under such a key, and shows that such an event is all a forgery takes.
-/

namespace AiGovernance.Authorization

open AiGovernance.Std Domain Decisions Repositories
open Semantics Services Lifecycle Program

variable {primitives : Primitives} {config : AuthorizationConfig} {call : AuthorizationCall}
  {stores after : Stores} {decision : RuntimeActionAuthorizationDecision}

/-! ## One call -/

/-- Served in this state, the call finds nothing under its key and computes the decision
through `_evaluate`. -/
def Evaluates (primitives : Primitives) (config : AuthorizationConfig) (call : AuthorizationCall)
    (stores : Stores) (decision : RuntimeActionAuthorizationDecision) : Prop :=
  stores.events.findByIdempotencyKey (tableKey call).1 (tableKey call).2 call.context.scope = none ∧
    ∃ execution correlationId,
      stores.executions.get call.request.record.executionId call.context.scope = some execution ∧
      resolveCorrelationId call execution = .ok correlationId ∧
      (evaluate primitives config call correlationId).run (inMemory primitives) stores =
        (.ok decision, stores)

theorem Evaluates.decidedFor (evaluates : Evaluates primitives config call stores decision) :
    DecidedFor primitives config call decision := by
  obtain ⟨-, execution, correlationId, -, -, evaluated⟩ := evaluates
  have within : (evaluate primitives config call correlationId).Within Consults
      (DecidedFor primitives config call) := evaluate_within
  have returned := (within.ensures (inMemory primitives) (fun _ _ => True) (fun _ => trivial)
    (fun _ _ => trivial) (fun _ _ _ => trivial) stores).2
  rw [evaluated] at returned
  exact returned decision rfl

theorem Evaluates.grounds (evaluates : Evaluates primitives config call stores decision)
    (allowed : decision.record.outcome = .allow) : Grounds stores call decision := by
  obtain ⟨-, execution, correlationId, -, -, evaluated⟩ := evaluates
  have grounded : (evaluate primitives config call correlationId).Ensures (inMemory primitives)
      stores (Grounded stores call) := evaluate_grounded
  unfold Program.Ensures at grounded
  rw [evaluated] at grounded
  exact grounded.2 decision rfl allowed

/-- How one undisturbed `authorize` call ends: the stores are as they were, or hold the
event of a decision it evaluated; and what it returns it evaluated itself or found
stored under its key. -/
structure Served (primitives : Primitives) (config : AuthorizationConfig) (call : AuthorizationCall)
    (stores : Stores) (result : Except Raised RuntimeActionAuthorizationDecision) (after : Stores) :
    Prop where
  stored : after = stores ∨ ∃ decision event,
    Evaluates primitives config call stores decision ∧
      Records primitives config call decision event ∧
      ∃ nothing : stores.events.tables.precheck event (some (tableKey call).1) = .ok none,
        after = { stores with
          events := stores.events.insert event (some (tableKey call).1)
            (EventTables.precheck_eq_none nothing).1 }
  returned : ∀ {decision}, result = .ok decision →
    Evaluates primitives config call stores decision ∨
      ∃ event, stores.events.tables.byIdempotency.get? (tableKey call) = some event ∧
        existingDecision primitives call.request call.context.actorId event = .ok decision

variable {event : AgentExecutionEvent}

/-- Handing back what is stored under the key leaves the stores as they were. -/
theorem served_existing (filed : stores.events.tables.byIdempotency.get? (tableKey call) = some event) :
    Served primitives config call stores
      (existingDecision primitives call.request call.context.actorId event) stores :=
  ⟨Or.inl rfl, fun returned => Or.inr ⟨event, filed, returned⟩⟩

theorem served_raise (raised : Raised) :
    Served primitives config call stores (.error raised) stores :=
  ⟨Or.inl rfl, fun impossible => (nomatch impossible)⟩

theorem served_evaluated (evaluates : Evaluates primitives config call stores decision) :
    Served primitives config call stores (.ok decision) stores :=
  ⟨Or.inl rfl, fun returned => Or.inl (Except.ok.inj returned ▸ evaluates)⟩

theorem recordDecision_served (evaluates : Evaluates primitives config call stores decision)
    (records : Records primitives config call decision event) :
    (recordDecision primitives call decision event).Ensures (inMemory primitives) stores
      (Served primitives config call stores) := by
  have execution : (tableKey call).2 = event.record.executionId := by
    rw [records.tableKey_eq]
  refine ensures_attempt_bind ?_
  rcases stores.events.save_cases event (some (tableKey call).1) with
    ⟨raised, saved, -⟩ | ⟨existing, saved, replayed⟩ | ⟨absent, saved, nothing⟩
  · change stores.events.save event
      (some (eventIdempotencyKey call.request.record.idempotencyKey)) = _ at saved
    simp only [inMemory, saved]
    split
    · refine ensures_read_bind rfl ?_
      split
      · rename_i existing found
        exact ensures_ofExcept.mpr (served_existing (Option.filter_eq_some_iff.mp found).1)
      · exact served_raise _
    · exact served_raise _
  · change stores.events.save event
      (some (eventIdempotencyKey call.request.record.idempotencyKey)) = _ at saved
    simp only [inMemory, saved]
    split
    · rename_i different
      rcases EventTables.precheck_eq_some replayed with ⟨byId, -⟩ | ⟨_, key, sameKey, filed, -⟩
      · exact absurd (stores.events.coherent.keyed byId) different
      · cases sameKey
        rw [← execution] at filed
        exact ensures_ofExcept.mpr (served_existing filed)
    · exact served_evaluated evaluates
  · change stores.events.save event
      (some (eventIdempotencyKey call.request.record.idempotencyKey)) = _ at saved
    simp only [inMemory, saved, ne_eq, not_true_eq_false, if_false]
    exact ⟨Or.inr ⟨decision, event, evaluates, records, nothing, rfl⟩,
      fun returned => Or.inl (Except.ok.inj returned ▸ evaluates)⟩

/-- One undisturbed `authorize` call. -/
theorem authorize_served (primitives : Primitives) (config : AuthorizationConfig)
    (call : AuthorizationCall) (stores : Stores) :
    (authorize primitives config call).Ensures (inMemory primitives) stores
      (Served primitives config call stores) := by
  refine ensures_read_bind rfl ?_
  split
  · exact served_raise _
  · rename_i execution found
    refine ensures_ofExcept_bind (fun correlationId resolved => ?_) fun _ _ => served_raise _
    refine ensures_read_bind rfl ?_
    split
    · rename_i existing filed
      exact ensures_ofExcept.mpr (served_existing (Option.filter_eq_some_iff.mp filed).1)
    · rename_i missing
      have grounded : (evaluate primitives config call correlationId).Ensures (inMemory primitives)
          stores (Grounded stores call) := evaluate_grounded
      unfold Program.Ensures at grounded
      refine ensures_bind.mpr ?_
      unfold Program.Ensures
      rcases evaluated : (evaluate primitives config call correlationId).run (inMemory primitives)
        stores with ⟨raised | decision, reached⟩
      · rw [evaluated] at grounded
        obtain rfl := grounded.1
        exact served_raise raised
      · rw [evaluated] at grounded
        obtain rfl := grounded.1
        have evaluates : Evaluates primitives config call reached decision :=
          ⟨missing, execution, correlationId, found, resolved, evaluated⟩
        refine ensures_bind.mpr (ensures_read_bind rfl ?_)
        refine ensures_ofExcept.mpr ?_
        split
        · rename_i event built
          exact recordDecision_served evaluates
            ⟨evaluates.decidedFor, _, Checked.create_eq_ok_iff.mp built⟩
        · exact served_raise _

/-! ## Histories -/

variable {platform : Platform} {entries : List Platform.Entry}

/-- Some `authorize` call of the history computed the decision through `_evaluate`. -/
def Originates (platform : Platform) (entries : List Platform.Entry)
    (decision : RuntimeActionAuthorizationDecision) : Prop :=
  ∃ origin ∈ entries, ∃ call, origin.call = .authorize call ∧
    Evaluates platform.primitives platform.config call origin.before decision

/-- Every ALLOW that could be read back from under an authorization key originates in the
history. -/
structure Traced (platform : Platform) (entries : List Platform.Entry) (events : EventStore) :
    Prop where
  origin : ∀ {key executionId event decision},
    events.tables.byIdempotency.get? (eventIdempotencyKey key, executionId) = some event →
    event.record.eventType = .runtimeActionAuthorization →
    storedDecision platform.primitives event = some decision →
    decision.record.outcome = .allow → Originates platform entries decision

/-- An `ingest_event` call that submits, under an authorization key of an execution that
nothing was stored under, an authorization event that reads back as an ALLOW decision. -/
def Forges (primitives : Primitives) (stores : Stores) : Call → Prop
  | .ingestEvent submission context ambient =>
    submission.eventType = .runtimeActionAuthorization ∧
      ∃ key execution event decision,
        submission.idempotencyKey = some (eventIdempotencyKey key) ∧
        stores.events.tables.byIdempotency.get?
          (eventIdempotencyKey key, submission.executionId) = none ∧
        stores.executions.get submission.executionId context.scope = some execution ∧
        event.record = submittedEvent submission context.scope ambient execution
          (stores.events.maxSequenceNumber submission.executionId context.scope + 1) ∧
        storedDecision primitives event = some decision ∧ decision.record.outcome = .allow
  | _ => False

variable {later : List Platform.Entry}

theorem Originates.append (originates : Originates platform entries decision) :
    Originates platform (entries ++ later) decision := by
  obtain ⟨origin, member, rest⟩ := originates
  exact ⟨origin, List.mem_append_left _ member, rest⟩

theorem Traced.of_newEvents {type : Option EventType} (traced : Traced platform entries stores.events)
    (new : NewEventsOf type stores after) (other : type ≠ some .runtimeActionAuthorization) :
    Traced platform (entries ++ later) after.events := by
  constructor
  intro key executionId event decision found authorization decoded allowed
  rcases new.filed found with old | typed
  · exact (traced.origin old authorization decoded allowed).append
  · rw [authorization] at typed
    exact absurd typed other

private theorem Traced.ingestEvent {submission : EventSubmission} {context : TenantContext} {ambient : Ambient}
    (traced : Traced platform entries stores.events)
    (honest : ¬ Forges platform.primitives stores (.ingestEvent submission context ambient))
    (accepted : Accepted stores submission context ambient event after) :
    Traced platform (entries ++ later) after.events := by
  constructor
  intro key executionId stored decision found authorization decoded allowed
  obtain ⟨execution, present, -, record⟩ := accepted.record
  obtain ⟨nothing, rfl⟩ := accepted.stored
  cases given : submission.idempotencyKey with
  | none =>
    simp only [given] at found
    exact (traced.origin found authorization decoded allowed).append
  | some newKey =>
    simp only [given, EventStore.byIdempotency_insert] at found
    split at found
    · rename_i here
      cases found
      obtain ⟨rfl, rfl⟩ := Prod.mk.inj here
      have free := (EventTables.precheck_eq_none nothing).2 _ given
      rw [accepted.executionId] at free
      exact absurd ⟨accepted.eventType ▸ authorization, key, execution, event, decision, given,
        free, present, record, decoded, allowed⟩ honest
    · exact (traced.origin found authorization decoded allowed).append

private theorem Traced.authorize {result : Except Raised RuntimeActionAuthorizationDecision}
    (traced : Traced platform entries stores.events)
    (served : Served platform.primitives platform.config call stores result after)
    {entry : Platform.Entry} (before : entry.before = stores) (called : entry.call = .authorize call) :
    Traced platform (entries ++ [entry]) after.events := by
  constructor
  intro key executionId event decision found authorization decoded allowed
  rcases served.stored with rfl | ⟨computed, written, evaluates, records, nothing, rfl⟩
  · exact (traced.origin found authorization decoded allowed).append
  · simp only [EventStore.byIdempotency_insert] at found
    split at found
    · cases found
      obtain rfl := Option.some.inj (records.storedDecision.symm.trans decoded)
      exact ⟨entry, by simp, call, called, before ▸ evaluates⟩
    · exact (traced.origin found authorization decoded allowed).append

/-- Serving one call that forges nothing keeps every stored ALLOW traced. -/
private theorem Traced.serve (traced : Traced platform entries stores.events) {call : Call}
    (honest : ¬ Forges platform.primitives stores call) :
    Traced platform (entries ++ [platform.serve stores call])
      (platform.serve stores call).after.events := by
  cases call with
  | ingestEvent submission context ambient =>
    have ingested := ingestEvent_ensures platform.primitives stores submission context ambient
    rw [platform.serve_of_operation rfl]
    rcases ingested with same | ⟨event, -, accepted⟩
    · rw [same]
      exact ⟨fun found authorization decoded allowed =>
        (traced.origin found authorization decoded allowed).append⟩
    · exact traced.ingestEvent honest accepted
  | authorize call =>
    have served := authorize_served platform.primitives platform.config call stores
    rw [platform.serve_of_operation rfl]
    exact traced.authorize served rfl rfl
  | _ => exact traced.of_newEvents (serve_newEventsOf platform stores _) nofun

theorem traced_of_history
    (history : platform.History (fun stores call => ¬ Forges platform.primitives stores call)
      entries stores) : Traced platform entries stores.events := by
  induction history with
  | start => exact ⟨fun found => nomatch found⟩
  | administer policies _ ih => exact ih
  | serve call honest _ ih => exact ih.serve honest

theorem existingDecision_eq_ok {request : RuntimeActionAuthorizationRequest} {actorId : String}
    (returned : existingDecision primitives request actorId event = .ok decision) :
    event.record.eventType = .runtimeActionAuthorization ∧
      storedDecision primitives event = some decision ∧
      decision.matchesRequest primitives request actorId = true := by
  unfold existingDecision at returned
  split at returned
  · cases returned
  · rename_i eligible
    simp only [not_or, Decidable.not_not] at eligible
    split at returned
    · cases returned
    · rename_i stored decoded
      split at returned
      · cases returned
      · rename_i matching
        cases returned
        exact ⟨eligible.1, decoded, by simpa using matching⟩

/-- The request of an actor who holds a delegation for the row. -/
def delegatedRequest : RuntimeActionAuthorizationRequest :=
  ⟨{ claimsRequest.record with
     delegationId := some "delegation-1"
     delegationVersion := some "1"
     delegationDigest := some
       "sha256:e9c82773f6c4460f54d6a79e41af5642bb6e394a2bd307f05b26219f0cffa220" }, by decide⟩

/-- The digests of both requests, of the delegation and of the start of the execution. -/
def updatePrimitives : Primitives :=
  .tabulated
    [claimsStartDigest]
    [(Json.sortKeys (.obj claimsRequest.fingerprintPayload),
        "65c2c592f0534b1027cd190e835a3f63790d8cd05034d445c4a8669af4495277"),
      (Json.sortKeys (.obj delegatedRequest.fingerprintPayload),
        "2560d69f14f94ee872599ba529e3a27ad907aaa349d3e7475465bebda1b89977"),
      (.obj [], "44136fa355b3678a1146ad16f7e8649e94fb4fc21fe77e8310c060f61caaff8a"),
      (.obj [("delegation_id", .str "delegation-1"), ("execution_id", .str "exec-1"),
          ("expires_at", .str "1997-05-24T16:00:00+00:00"), ("idempotency_key", .str "d-1"),
          ("issued_at", .str "1997-05-23T16:00:00+00:00"), ("issuer_id", .str "issuer-1"),
          ("organization_id", .str "org-1"),
          ("permissions", .arr [.obj [("action_id", .str "claims.update"),
            ("resource_references", .arr [.str "claims/1"]), ("resource_type", .str "sqlite.row")]]),
          ("project_id", .str "project-1"), ("runtime_actor_id", .str "agent-1"),
          ("schema_version", .str "runtime-action-delegation/v1"), ("version", .str "1")],
        "e9c82773f6c4460f54d6a79e41af5642bb6e394a2bd307f05b26219f0cffa220")]
    claimsStartDigest_hex (by decide)

/-- The services over those digests. -/
def updatePlatform : Platform := ⟨updatePrimitives, claimsConfig⟩

/-- A policy version with one rule: approve the update of claims. -/
def approvesUpdates (policyId : String) : PolicyVersionRecord :=
  { policyId
    version := "1"
    status := .active
    targetTypes := [.agentExecution]
    rules := [⟨{ ruleId := "rule-1"
                 name := "Updates"
                 conditions := [⟨⟨"action.id", .equals, .str "claims.update"⟩, by decide⟩]
                 effect := .approve
                 reasonTemplate := "Updates are approved."
                 priority := 0 }, by decide⟩] }

/-- One issuance policy and one authorization policy, both active. -/
def updatePolicies : PolicyStore where
  definitions := [
    ⟨"issuance", "org-1", "project-1", ⟨63000000000000000⟩,
      [("runtime_action_delegation_issuance",
        .obj [("purpose", .str "runtime_action_delegation_issuance")])]⟩,
    ⟨"updates", "org-1", "project-1", ⟨63000000000000000⟩,
      [("runtime_action_authorization",
        .obj [("purpose", .str "runtime_action_authorization"),
          ("registered_actions", .arr [.str "claims.update"]),
          ("registered_resource_types", .arr [.str "sqlite.row"])])]⟩]
  versions := [⟨approvesUpdates "issuance", by decide⟩, ⟨approvesUpdates "updates", by decide⟩]

/-- The issuer grants the update of one row to the agent. -/
def registrationCall : Call :=
  .register
    { executionId := "exec-1"
      runtimeActorId := "agent-1"
      permissions := [⟨⟨"claims.update", "sqlite.row", ["claims/1"]⟩, by decide⟩]
      expiresAt := ⟨63000086400000000⟩
      idempotencyKey := "d-1"
      context := ⟨claimsScope, "issuer-1", none⟩
      now := ⟨63000000000000000⟩
      delegationId := "delegation-1" }

/-- The agent asks to use the grant. -/
def delegatedCall : AuthorizationCall :=
  ⟨delegatedRequest, ⟨claimsScope, "agent-1", none⟩, ⟨63000000060000000⟩, "decision-1"⟩

/-- The stores once the execution has started. -/
def startedStores : Stores :=
  (updatePlatform.serve { Stores.empty with policies := updatePolicies } startCall).after

/-- The stores once the grant is registered. -/
def grantedStores : Stores := (updatePlatform.serve startedStores registrationCall).after

/-- The history of the delegated update. -/
theorem grantedStores_history {admits : Stores → Call → Prop}
    (started : admits { Stores.empty with policies := updatePolicies } startCall)
    (registered : admits startedStores registrationCall) :
    updatePlatform.History admits
      [updatePlatform.serve { Stores.empty with policies := updatePolicies } startCall,
        updatePlatform.serve startedStores registrationCall] grantedStores :=
  .serve registrationCall registered (.serve startCall started (.administer updatePolicies .start))

/-- An event that claims to be the decision on the request, appended by its own caller. -/
def forgedSubmission : EventSubmission where
  executionId := "exec-1"
  eventType := .runtimeActionAuthorization
  attributes := [
    ("authorization_schema_version", .str runtimeActionAuthorizationSchemaVersion),
    ("authorization_outcome", .str "ALLOW"),
    ("reason_code", .str "ALLOW_POLICY_MATCHED"),
    ("action_id", .str "claims.update"),
    ("resource_type", .str "sqlite.row"),
    ("resource_reference", .str "claims/1"),
    ("actor_id", .str "agent-1"),
    ("expires_at", .str "1997-05-24T16:00:00+00:00"),
    ("idempotency_key", .str "k-1"),
    ("request_fingerprint",
      .str "65c2c592f0534b1027cd190e835a3f63790d8cd05034d445c4a8669af4495277")]
  idempotencyKey := some "runtime-action-authorization:k-1"

/-- The call that appends it. -/
def forgingCall : Call :=
  .ingestEvent forgedSubmission ⟨claimsScope, "agent-1", none⟩ (claimsAmbient "event-2")

/-- The stores once the forged event is appended. -/
def forgedStores : Stores := (updatePlatform.serve startedStores forgingCall).after

end AiGovernance.Authorization
