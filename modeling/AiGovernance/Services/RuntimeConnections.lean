import AiGovernance.Repositories.RuntimeConnections

/-!
# The runtime connection service

`RuntimeConnectionService`: `update` and `test` read a connection, make a changed
one of it, and hand that to the repository. Provider policy, secret resolution,
the clock and what the store draws come with a call; what the language does with
texts and URLs is a parameter.
-/

namespace AiGovernance.Connections

open AiGovernance.Std Domain Semantics

/-- `str` of a value, and the scheme and network location `urlparse` finds. -/
structure ConnectionLanguage where
  str : Json → String
  urlparse : String → Except Raised (String × String)

/-- One entry of `_RUNTIME_CONNECTION_SCHEMAS`. -/
structure ConnectionSchema where
  settings : List String
  requiredSecretRefs : List String

/-- `_RUNTIME_CONNECTION_SCHEMAS`. -/
def runtimeConnectionSchemas : List (String × ConnectionSchema) :=
  [("openai", ⟨["base_url", "organization"], ["api_key"]⟩),
    ("anthropic", ⟨["base_url"], ["api_key"]⟩),
    ("custom", ⟨["base_url", "organization"], []⟩)]

/-- What a call meets: the providers its tenant allows, the secrets as they resolve, the clock, and the draws of its
save. -/
structure ConnectionMeets where
  allowedRuntimeProviders : Option (Except Raised (List String)) := none
  resolve : String → Except Raised String
  now : Instant
  draw : SaveDraw

/-- `allowed_provider_keys`. -/
def allowedProviderKeys (meets : ConnectionMeets) : Except Raised (List String) :=
  let supported := runtimeConnectionSchemas.map (·.1)
  match meets.allowedRuntimeProviders with
  | none => .ok supported
  | some providers => do
      let allowed := (← providers).filterMap runtimeModelProviderKey
      pure (supported.filter (· ∈ allowed))

/-- `", ".join(sorted(names))` of a set of names. -/
def joinSorted (names : List String) : String := ", ".intercalate (names.dedup.mergeSort (· ≤ ·))

/-- The check of a base URL. -/
def checkBaseUrl (language : ConnectionLanguage) (baseUrl : Option Json) : Except Raised Unit :=
  match baseUrl with
  | none | some .null => .ok ()
  | some baseUrl => do
      let (scheme, netloc) ← language.urlparse (language.str baseUrl)
      if scheme ∉ ["http", "https"] ∨ netloc = "" then
        .error ⟨.valueError, "Runtime connection base_url must be an absolute HTTP(S) URL."⟩
      else .ok ()

/-- The loop that resolves the secret references. -/
def resolveReferences (resolve : String → Except Raised String) : List (String × String) → Except Raised Unit
  | [] => .ok ()
  | (_, reference) :: rest => do
      let _ ← resolve reference
      resolveReferences resolve rest

/-- `_validate_configuration`. -/
def validateConfiguration (language : ConnectionLanguage) (meets : ConnectionMeets) (provider : String)
    (settings : List (String × Json)) (secretRefs : List (String × String)) (resolveSecretReferences : Bool) :
    Except Raised Unit := do
  let unavailable : Except Raised Unit := .error ⟨.runtimeConnectionProviderUnavailableError,
    "Runtime provider '" ++ provider ++ "' is not available in OSS runtime connections."⟩
  match runtimeModelProviderKey provider with
  | none => unavailable
  | some providerKey =>
    match runtimeConnectionSchemas.find? (·.1 = providerKey) with
    | none => unavailable
    | some (_, schema) =>
      let allowed ← allowedProviderKeys meets
      if providerKey ∉ allowed then
        throw ⟨.runtimeConnectionProviderNotAllowedError,
          "Runtime provider '" ++ providerKey ++ "' is not allowed in this tenant scope."⟩
      let unknown := (settings.map (·.1)).filter (· ∉ schema.settings)
      if unknown ≠ [] then
        throw ⟨.valueError, "Runtime connection settings contain unsupported fields: " ++ joinSorted unknown ++ "."⟩
      let missing := schema.requiredSecretRefs.filter (· ∉ secretRefs.map (·.1))
      if missing ≠ [] then
        throw ⟨.valueError, "Runtime connection requires secret references: " ++ joinSorted missing ++ "."⟩
      if providerKey = "custom" ∧
          Text.isBlank (language.str ((Json.field settings "base_url").getD (.str ""))) then
        throw ⟨.valueError, "Custom runtime connections require a base_url setting."⟩
      checkBaseUrl language (Json.field settings "base_url")
      if resolveSecretReferences then resolveReferences meets.resolve secretRefs

/-- The fields an update sets; an absent one stays. -/
structure ConnectionChanges where
  displayName : Option String := none
  settings : Option (List (String × Json)) := none
  secretRefs : Option (List (String × String)) := none
  enabled : Option Bool := none

/-- What `update` makes of the connection it has read. -/
def updated (language : ConnectionLanguage) (context : TenantContext) (meets : ConnectionMeets)
    (changes : ConnectionChanges) (existing : RuntimeConnection) : Except Raised RuntimeConnection := do
  let updated ← RuntimeConnection.create { existing.record with
    displayName := changes.displayName.getD existing.record.displayName
    settings := changes.settings.getD existing.record.settings
    secretRefs := changes.secretRefs.getD existing.record.secretRefs
    enabled := changes.enabled.getD existing.record.enabled
    updatedBy := context.actorId
    updatedAt := meets.now }
  validateConfiguration language meets updated.record.provider updated.record.settings updated.record.secretRefs
    updated.record.enabled
  pure updated

/-- The exceptions that `test` takes for a failed validation. -/
def failsTest (kind : ErrorKind) : Bool :=
  kind ∈ [.runtimeConnectionProviderUnavailableError, .runtimeConnectionProviderNotAllowedError, .valueError]

/-- A connection with the result of a test. -/
def withTestResult (context : TenantContext) (meets : ConnectionMeets) (connection : RuntimeConnection)
    (status : RuntimeConnectionTestStatus) (message : String) : Except Raised RuntimeConnection :=
  RuntimeConnection.create { connection.record with
    lastTestedAt := some meets.now
    lastTestStatus := status
    lastTestMessage := some message
    updatedBy := context.actorId
    updatedAt := meets.now }

/-- What `test` makes of the connection it has read. -/
def tested (language : ConnectionLanguage) (context : TenantContext) (meets : ConnectionMeets)
    (connection : RuntimeConnection) : Except Raised RuntimeConnection :=
  match validateConfiguration language meets connection.record.provider connection.record.settings
    connection.record.secretRefs true with
  | .ok () => withTestResult context meets connection .succeeded
      "Configuration and secret references resolved successfully."
  | .error raised =>
    if failsTest raised.kind then
      withTestResult context meets connection .failed "Configuration or secret-reference validation failed."
    else .error raised

/-- `get`. -/
def getConnection (runtimeConnectionId : String) (context : TenantContext) :
    Program connectionStorage RuntimeConnection := do
  let connection ← findConnection runtimeConnectionId context.scope.organizationId context.scope.projectId
  match connection with
  | some connection => pure connection
  | none => .raise ⟨.runtimeConnectionNotFoundError,
      "Runtime connection '" ++ runtimeConnectionId ++ "' was not found."⟩

/-- `update`. -/
def update (language : ConnectionLanguage) (runtimeConnectionId : String) (changes : ConnectionChanges)
    (context : TenantContext) (meets : ConnectionMeets) : Program connectionStorage RuntimeConnection := do
  let existing ← getConnection runtimeConnectionId context
  let updated ← Program.ofExcept (updated language context meets changes existing)
  saveConnection meets.draw updated

/-- `test`. -/
def test (language : ConnectionLanguage) (runtimeConnectionId : String) (context : TenantContext)
    (meets : ConnectionMeets) : Program connectionStorage RuntimeConnection := do
  let connection ← getConnection runtimeConnectionId context
  let tested ← Program.ofExcept (tested language context meets connection)
  saveConnection meets.draw tested

/-- A call of the service on a connection. -/
inductive ConnectionCall where
  | update (runtimeConnectionId : String) (changes : ConnectionChanges) (context : TenantContext)
      (meets : ConnectionMeets)
  | test (runtimeConnectionId : String) (context : TenantContext) (meets : ConnectionMeets)

namespace ConnectionCall

/-- What a call makes of the connection it has read. -/
def changed (language : ConnectionLanguage) : ConnectionCall → RuntimeConnection → Except Raised RuntimeConnection
  | .update _ changes context meets => updated language context meets changes
  | .test _ context meets => tested language context meets

/-- The program of a call. -/
def program (language : ConnectionLanguage) : ConnectionCall → Program connectionStorage RuntimeConnection
  | .update runtimeConnectionId changes context meets =>
    Connections.update language runtimeConnectionId changes context meets
  | .test runtimeConnectionId context meets => Connections.test language runtimeConnectionId context meets

/-- What a call names, and what its save draws. -/
def runtimeConnectionId : ConnectionCall → String
  | .update runtimeConnectionId .. => runtimeConnectionId
  | .test runtimeConnectionId .. => runtimeConnectionId

def context : ConnectionCall → TenantContext
  | .update _ _ context _ => context
  | .test _ context _ => context

def draw : ConnectionCall → SaveDraw
  | .update _ _ _ meets => meets.draw
  | .test _ _ meets => meets.draw

/-- The call is an update that enables the connection. -/
def Enables : ConnectionCall → Prop
  | .update _ changes _ _ => changes.enabled = some true
  | .test .. => False

instance : DecidablePred Enables
  | .update _ changes _ _ => inferInstanceAs (Decidable (changes.enabled = some true))
  | .test .. => inferInstanceAs (Decidable False)

/-- Both calls are a read, a change and a save. -/
theorem program_eq (language : ConnectionLanguage) (call : ConnectionCall) :
    call.program language = getConnection call.runtimeConnectionId call.context >>= fun existing =>
      Program.ofExcept (call.changed language existing) >>= saveConnection call.draw := by
  cases call <;> rfl

end ConnectionCall

end AiGovernance.Connections
