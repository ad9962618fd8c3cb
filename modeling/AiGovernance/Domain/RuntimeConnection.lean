import AiGovernance.Domain.AgentExecutionEvent
import Mathlib.Data.List.Infix

/-!
# Runtime connections

`RuntimeConnection` of `domain/runtime_connection.py`, and the provider names it
is given under (`domain/models/runtime_providers.py`). A connection is built
under the canonical key of its provider, so building one again changes nothing.
-/

namespace AiGovernance.Domain

open AiGovernance.Std

/-! ## Providers -/

/-- `RuntimeModelProvider`, by value. -/
def runtimeModelProviders : List String :=
  ["openai", "anthropic", "google_ai", "google_vertex_ai", "azure_openai", "azure_ai_foundry", "aws_bedrock",
    "aws_sagemaker", "mistral", "cohere", "xai", "deepseek", "ai21", "ibm_watsonx", "nvidia_nim",
    "huggingface_inference", "together", "groq", "fireworks", "perplexity", "ollama", "alibaba_qwen",
    "baidu_qianfan", "tencent_hunyuan", "moonshot", "minimax", "zhipu", "custom"]

/-- `_ALIASES`. -/
def providerAliases : List (String × String) :=
  [("google", "google_ai"), ("google_ai_studio", "google_ai"), ("gemini", "google_ai"),
    ("vertex_ai", "google_vertex_ai"), ("google_vertex", "google_vertex_ai"), ("azure", "azure_openai"),
    ("bedrock", "aws_bedrock"), ("amazon_bedrock", "aws_bedrock"), ("sagemaker", "aws_sagemaker"),
    ("amazon_sagemaker", "aws_sagemaker"), ("mistral_ai", "mistral"), ("ibm_watsonx_ai", "ibm_watsonx"),
    ("huggingface", "huggingface_inference"), ("hugging_face", "huggingface_inference"),
    ("together_ai", "together"), ("fireworks_ai", "fireworks"), ("alibaba_cloud_qwen", "alibaba_qwen"),
    ("baidu", "baidu_qianfan"), ("tencent", "tencent_hunyuan"), ("moonshot_ai", "moonshot"),
    ("zhipu_ai", "zhipu"), ("other", "custom")]

/-- `str.lower` on one character, as far as ASCII letters come of it: outside ASCII only the Kelvin sign and the
dotted capital I lower to one. -/
def lowerAscii (c : Char) : List Char :=
  if 65 ≤ c.toNat ∧ c.toNat ≤ 90 then [Char.ofNat (c.toNat + 32)]
  else if c.toNat = 0x212A then ['k']
  else if c.toNat = 0x130 then ['i', Char.ofNat 0x307]
  else [c]

/-- A character of `[a-z0-9]`. -/
def isProviderChar (c : Char) : Bool :=
  (97 ≤ c.toNat && c.toNat ≤ 122) || (48 ≤ c.toNat && c.toNat ≤ 57)

/-- `re.sub(r"[^a-z0-9]+", "_", text)`; the flag says that the run has its underscore already. -/
def collapseSeparators : Bool → List Char → List Char
  | _, [] => []
  | inRun, c :: rest =>
    if isProviderChar c then c :: collapseSeparators false rest
    else if inRun then collapseSeparators true rest
    else '_' :: collapseSeparators true rest

/-- `text.strip("_")`. -/
def stripUnderscores (text : List Char) : List Char :=
  ((text.dropWhile (· == '_')).reverse.dropWhile (· == '_')).reverse

/-- The text a provider is looked up under. -/
def normalizedProvider (value : String) : String :=
  String.ofList (stripUnderscores (collapseSeparators false ((Text.strip value).toList.flatMap lowerAscii)))

/-- `runtime_model_provider_key`. -/
def runtimeModelProviderKey (value : String) : Option String :=
  if Text.startsWith "custom_" (normalizedProvider value) then some "custom"
  else if normalizedProvider value ∈ runtimeModelProviders then some (normalizedProvider value)
  else (providerAliases.find? (·.1 = normalizedProvider value)).map (·.2)

/-! ## Connections -/

/-- `RuntimeConnectionTestStatus`. -/
inductive RuntimeConnectionTestStatus where
  | notTested
  | succeeded
  | failed
deriving DecidableEq

namespace RuntimeConnectionTestStatus

/-- The stored text of a status. -/
def value : RuntimeConnectionTestStatus → String
  | .notTested => "NOT_TESTED"
  | .succeeded => "SUCCEEDED"
  | .failed => "FAILED"

/-- `RuntimeConnectionTestStatus(text)`. -/
def ofValue (text : String) : Except Raised RuntimeConnectionTestStatus :=
  if text = "NOT_TESTED" then .ok .notTested
  else if text = "SUCCEEDED" then .ok .succeeded
  else if text = "FAILED" then .ok .failed
  else .error ⟨.valueError, "'" ++ text ++ "' is not a valid RuntimeConnectionTestStatus"⟩

end RuntimeConnectionTestStatus

/-- The fields of `RuntimeConnection`. -/
structure RuntimeConnectionFields where
  runtimeConnectionId : String
  displayName : String
  provider : String
  settings : List (String × Json)
  secretRefs : List (String × String)
  enabled : Bool
  organizationId : String
  projectId : Option String
  createdBy : String
  updatedBy : String
  createdAt : Instant
  updatedAt : Instant
  lastTestedAt : Option Instant := none
  lastTestStatus : RuntimeConnectionTestStatus := .notTested
  lastTestMessage : Option String := none
  version : Int := 1
deriving DecidableEq

/-- `_SUPPORTED_SECRET_REFERENCE_SCHEMES`. -/
def supportedSecretReferenceSchemes : List String := ["env://", "vault://", "aws-secretsmanager://", "keycloak://"]

/-- `_SENSITIVE_KEY_PARTS`. -/
def sensitiveKeyParts : List String := ["api_key", "apikey", "authorization", "password", "secret", "token"]

/-- `any(part in str(key).lower().replace("-", "_") for part in _SENSITIVE_KEY_PARTS)`. -/
def isSensitiveKey (key : String) : Bool :=
  let normalized := (key.toList.flatMap lowerAscii).map fun c => if c = '-' then '_' else c
  sensitiveKeyParts.any fun part => decide (part.toList <:+: normalized)

mutual

/-- The recursion of `_contains_sensitive_key`: only mappings are entered. -/
def holdsSensitiveKey : Json → Bool
  | .obj fields => containsSensitiveKey fields
  | .null | .bool _ | .int _ | .float _ | .str _ | .arr _ => false

/-- `_contains_sensitive_key`. -/
def containsSensitiveKey : List (String × Json) → Bool
  | [] => false
  | (key, value) :: rest => isSensitiveKey key || holdsSensitiveKey value || containsSensitiveKey rest

end

namespace RuntimeConnectionFields

/-- One of the texts that must not be blank. -/
def requireNonBlank (name value : String) : Option Raised :=
  rejectIf (Text.isBlank value) .valueError ("Runtime connection " ++ name ++ " must not be empty.")

/-- `RuntimeConnection.__post_init__`. -/
def violation (connection : RuntimeConnectionFields) : Option Raised :=
  firstViolation [
    requireNonBlank "runtime_connection_id" connection.runtimeConnectionId,
    requireNonBlank "display_name" connection.displayName,
    requireNonBlank "organization_id" connection.organizationId,
    requireNonBlank "created_by" connection.createdBy,
    requireNonBlank "updated_by" connection.updatedBy,
    rejectIf (connection.projectId.any Text.isBlank) .valueError "Runtime connection project_id must not be blank.",
    rejectIf (connection.version < 1) .valueError "Runtime connection version must be at least one.",
    rejectIf (connection.updatedAt.micros < connection.createdAt.micros) .valueError
      "Runtime connection updated_at must not precede created_at.",
    rejectIf (connection.lastTestedAt.any (·.micros < connection.createdAt.micros)) .valueError
      "Runtime connection last_tested_at must not precede created_at.",
    rejectIf (runtimeModelProviderKey connection.provider).isNone .valueError
      "Runtime connection provider must be a known runtime provider.",
    rejectIf (containsSensitiveKey connection.settings) .valueError
      "Runtime connection settings must not contain secrets; use secret_refs.",
    rejectIf (connection.secretRefs.any fun entry => Text.isBlank entry.1 ||
        !(supportedSecretReferenceSchemes.any fun scheme => Text.startsWith scheme entry.2)) .valueError
      ("Runtime connection secret_refs must use env://, vault://, " ++
        "aws-secretsmanager://, or keycloak:// references."),
    rejectIf (connection.lastTestMessage.any (·.length > 500)) .valueError
      "Runtime connection last_test_message must be at most 500 characters."]

/-- The provider by its canonical key. -/
def canonical (connection : RuntimeConnectionFields) : RuntimeConnectionFields :=
  { connection with provider := (runtimeModelProviderKey connection.provider).getD connection.provider }

@[simp] theorem canonical_enabled (connection : RuntimeConnectionFields) :
    connection.canonical.enabled = connection.enabled := by
  simp only [canonical]

end RuntimeConnectionFields

/-- `RuntimeConnection`: fields that pass the check. -/
abbrev RuntimeConnection := Checked RuntimeConnectionFields.violation

namespace RuntimeConnection

/-- The constructor: the provider is kept by its key. -/
def create (fields : RuntimeConnectionFields) : Except Raised RuntimeConnection :=
  Checked.create fields.canonical

theorem record_create {fields : RuntimeConnectionFields} {connection : RuntimeConnection}
    (created : create fields = .ok connection) : connection.record = fields.canonical :=
  Checked.create_eq_ok_iff.mp created

end RuntimeConnection

end AiGovernance.Domain
