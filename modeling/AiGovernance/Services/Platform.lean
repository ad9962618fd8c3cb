import AiGovernance.Services.Receipts
import AiGovernance.Services.RuntimeActionAuthorization
import AiGovernance.Services.RuntimeActionDelegation

/-!
# Histories of the platform

The three services over one set of in-memory repositories. A `History` is a
finite run of calls, each served to its end before the next one starts, with
policies administered in any way between calls. Every served call leaves an
entry that keeps the state before it, its result and the state after it.
-/

namespace AiGovernance.Services

open AiGovernance.Std Domain Repositories Semantics

/-- One call of a service operation with everything it draws from outside the stores. -/
inductive Call where
  | ingestStart (submission : StartSubmission) (context : TenantContext) (ambient : Ambient)
  | ingestEvent (submission : EventSubmission) (context : TenantContext) (ambient : Ambient)
  | ingestReceipt (submission : ReceiptSubmission) (context : TenantContext) (ambient : Ambient)
  | markCompleted (executionId : String) (status : AgentExecutionStatus) (context : TenantContext)
      (ambient : Ambient)
  | register (call : RegistrationCall)
  | revoke (call : RevocationCall)
  | authorize (call : AuthorizationCall)

/-- What a service operation returns. -/
inductive Response where
  | execution (execution : AgentExecution)
  | event (event : AgentExecutionEvent)
  | delegation (delegation : RuntimeActionDelegation)
  | decision (decision : RuntimeActionAuthorizationDecision)

/-- What the services are deployed with. -/
structure Platform where
  primitives : Primitives
  config : AuthorizationConfig

namespace Platform

variable (platform : Platform)

/-- The operation a call runs. -/
def operation : Call → Operation Response
  | .ingestStart submission context ambient =>
    Services.ingestStart platform.primitives submission context ambient >>= fun execution =>
      .done (.execution execution)
  | .ingestEvent submission context ambient =>
    Services.ingestEvent submission context ambient >>= fun event => .done (.event event)
  | .ingestReceipt submission context ambient =>
    ingestRuntimeActionExecutionReceipt platform.primitives submission context ambient >>=
      fun event => .done (.event event)
  | .markCompleted executionId status context ambient =>
    Services.markCompleted executionId status context ambient >>= fun execution =>
      .done (.execution execution)
  | .register call =>
    Services.register platform.primitives call >>= fun delegation => .done (.delegation delegation)
  | .revoke call => Services.revoke call >>= fun delegation => .done (.delegation delegation)
  | .authorize call =>
    Services.authorize platform.primitives platform.config call >>= fun decision =>
      .done (.decision decision)

/-- A served call: the state before it, its result, and the state after it. -/
structure Entry where
  before : Stores
  call : Call
  result : Except Raised Response
  after : Stores

/-- Whether a served call returned an ALLOW. -/
def Entry.allows (entry : Entry) : Bool :=
  match entry.result with
  | .ok (.decision decision) => decision.record.outcome = .allow
  | _ => false

theorem Entry.allows_iff {entry : Entry} :
    entry.allows = true ↔ ∃ decision, entry.result = .ok (.decision decision) ∧
      decision.record.outcome = .allow := by
  unfold Entry.allows
  split
  · rename_i decision returned
    simp [returned]
  · rename_i other
    simp only [Bool.false_eq_true, false_iff]
    rintro ⟨decision, returned, -⟩
    exact other decision returned

/-- The event a served call returned, if it returned one. -/
def Entry.event? (entry : Entry) : Option AgentExecutionEvent :=
  match entry.result with
  | .ok (.event event) => some event
  | _ => none

/-- Serve one call. -/
def serve (stores : Stores) (call : Call) : Entry :=
  let outcome := (platform.operation call).run (inMemory platform.primitives) stores
  ⟨stores, call, outcome.1, outcome.2⟩

variable {α : Type} {call : Call}

theorem serve_of_operation {program : Operation α} {wrap : α → Response}
    (wraps : platform.operation call = program >>= fun value => .done (wrap value)) (stores : Stores) :
    platform.serve stores call =
      ⟨stores, call, (program.run (inMemory platform.primitives) stores).1.map wrap,
        (program.run (inMemory platform.primitives) stores).2⟩ := by
  simp [serve, wraps]

variable {stores : Stores}

theorem returned_of_operation {program : Operation α} {wrap : α → Response}
    (wraps : platform.operation call = program >>= fun value => .done (wrap value))
    (injective : ∀ {left right}, wrap left = wrap right → left = right) {value : α}
    (returned : (platform.serve stores call).result = .ok (wrap value)) :
    (program.run (inMemory platform.primitives) stores).1 = .ok value := by
  rw [platform.serve_of_operation wraps] at returned
  cases answered : (program.run (inMemory platform.primitives) stores).1 with
  | error raised =>
    rw [answered] at returned
    cases returned
  | ok produced =>
    rw [answered] at returned
    rw [injective (Except.ok.inj returned)]

theorem raised_of_operation {program : Operation α} {wrap : α → Response}
    (wraps : platform.operation call = program >>= fun value => .done (wrap value)) {raised : Raised}
    (failed : (platform.serve stores call).result = .error raised) :
    (program.run (inMemory platform.primitives) stores).1 = .error raised := by
  rw [platform.serve_of_operation wraps] at failed
  cases answered : (program.run (inMemory platform.primitives) stores).1 with
  | error other =>
    rw [answered] at failed
    cases failed
    rfl
  | ok produced =>
    rw [answered] at failed
    cases failed

/-- The runs in which every call is admitted in the state it is served in. -/
inductive History (admits : Stores → Call → Prop) : List Entry → Stores → Prop where
  | start : History admits [] Stores.empty
  | administer {entries : List Entry} {stores : Stores} (policies : PolicyStore)
      (earlier : History admits entries stores) :
      History admits entries { stores with policies := policies }
  | serve {entries : List Entry} {stores : Stores} (call : Call) (admitted : admits stores call)
      (earlier : History admits entries stores) :
      History admits (entries ++ [platform.serve stores call]) (platform.serve stores call).after

variable {platform}

theorem History.entry {admits : Stores → Call → Prop} {entries : List Entry}
    (history : platform.History admits entries stores) {earlier later : List Entry} {entry : Entry}
    (split : entries = earlier ++ entry :: later) :
    ∃ before, platform.History admits earlier before ∧ admits before entry.call ∧
      entry = platform.serve before entry.call := by
  induction history generalizing earlier later with
  | start => simp at split
  | administer policies _ ih => exact ih split
  | @serve entries stores call admitted prior ih =>
    rcases List.eq_nil_or_concat later with rfl | ⟨rest, last, rfl⟩
    · obtain ⟨rfl, same⟩ := List.append_inj' split rfl
      obtain rfl := List.singleton_inj.mp same
      exact ⟨stores, prior, admitted, rfl⟩
    · rw [List.concat_eq_append, ← List.cons_append, ← List.append_assoc] at split
      obtain ⟨same, -⟩ := List.append_inj' split rfl
      exact ih same

end Platform

/-! ## The deployment of the worked runs -/

/-- Decisions that live five minutes, with a delegation repository. -/
def claimsConfig : AuthorizationConfig := ⟨300 * Instant.second, true, by decide⟩

/-- The tenant whose agent handles claims. -/
def claimsScope : Scope := ⟨"org-1", some "project-1"⟩

/-- What a permitted call of that tenant draws: the clock and the identifiers. -/
def claimsAmbient (eventId : String) : Ambient :=
  { permitted := true, now := ⟨63000000000000000⟩, executionId := "exec-1", eventId }

/-- The agent announces its run. -/
def claimsStart : StartSubmission where
  agentId := "agent-1"
  agentName := "Claims agent"
  agentVersion := "1"
  externalExecutionId := "run-1"
  runtimeProvider := "langgraph"

/-- The text the start is keyed by, with its digest. -/
def claimsStartDigest : String × String :=
  ("org-1:project-1:langgraph:run-1",
    "908588418d89d9389c347224a88fda853d8cd47eca7b83a7fc0dbdbf18852982")

/-- The call that starts the run. -/
def startCall : Call :=
  .ingestStart claimsStart ⟨claimsScope, "agent-1", none⟩ (claimsAmbient "event-1")

theorem claimsStartDigest_hex : ∀ entry ∈ [claimsStartDigest], Text.isHexDigest entry.2 = true := by decide

/-- The services over the digest of the start. -/
def claimsPlatform : Platform := ⟨.tabulated [claimsStartDigest] [] claimsStartDigest_hex Primitives.noValues, claimsConfig⟩

/-- The stores once the run has started. -/
def runningStores : Stores := (claimsPlatform.serve .empty startCall).after

end AiGovernance.Services
