import AiGovernance.Domain.RuntimeConnection

/-!
# Runtime capabilities

The capability contract a model version is registered with
(`domain/models/runtime_capabilities.py`), the profile a provider gets
(`resolve_runtime_capabilities`), and the check of a model's runtime defaults
against it. The bounds of every profile are whole numbers.
-/

namespace AiGovernance.Domain

open AiGovernance.Std

/-- `RuntimeCapabilityVerification`. -/
inductive RuntimeCapabilityVerification where
  | declared
  | verified
  | unverified
  | observed
deriving DecidableEq

/-- The type of a runtime parameter. -/
inductive CapabilityType where
  | number
  | integer
deriving DecidableEq

/-- `RuntimeParameterCapability`. -/
structure RuntimeParameterCapability where
  name : String
  supported : Bool
  valueType : CapabilityType
  minimum : Option Int := none
  maximum : Option Int := none
  default : Option Int := none
deriving DecidableEq

/-- `ModelRuntimeCapabilitySnapshot`. -/
structure ModelRuntimeCapabilitySnapshot where
  profileId : String
  profileVersion : String
  invocationContract : String
  verification : RuntimeCapabilityVerification
  parameters : List RuntimeParameterCapability
deriving DecidableEq

/-- `str.lower`, as far as it gives ASCII letters. -/
def lowerText (text : String) : String := String.ofList (text.toList.flatMap lowerAscii)

/-- The three parameters every declared profile describes. -/
def chatParameters (sampling : Bool) (hottest : Int) (standard : Option Int) : List RuntimeParameterCapability :=
  [{ name := "max_output_tokens", supported := true, valueType := .integer, minimum := some 1 },
    { name := "temperature", supported := sampling, valueType := .number, minimum := some 0, maximum := some hottest,
      default := standard },
    { name := "top_p", supported := sampling, valueType := .number, minimum := some 0, maximum := some 1,
      default := standard }]

/-- `resolve_runtime_capabilities`. -/
def resolveRuntimeCapabilities (provider modelName : String) : ModelRuntimeCapabilitySnapshot :=
  let providerKey := runtimeModelProviderKey provider
  let modelKey := lowerText (Text.strip modelName)
  if providerKey = some "openai" then
    let isReasoning := ["gpt-5", "o1", "o3", "o4"].any fun lead => Text.startsWith lead modelKey
    { profileId := if isReasoning then "openai-chat-completions-reasoning" else "openai-chat-completions-standard"
      profileVersion := "1"
      invocationContract := "openai-chat-completions"
      verification := .declared
      parameters := chatParameters (!isReasoning) 2 (some 1) }
  else if providerKey = some "custom" then
    { profileId := "openai-compatible-declared"
      profileVersion := "1"
      invocationContract := "openai-compatible-chat-completions"
      verification := .declared
      parameters := chatParameters true 2 none }
  else if providerKey = some "anthropic" then
    let supportsSampling := !(Text.startsWith "claude-opus-4-6" modelKey)
    { profileId := if supportsSampling then "anthropic-messages-standard" else "anthropic-messages-opus-4-6"
      profileVersion := "1"
      invocationContract := "anthropic-messages"
      verification := .declared
      parameters := chatParameters supportsSampling 1 (some 1) }
  else
    { profileId := providerKey.getD "None" ++ "-unverified"
      profileVersion := "1"
      invocationContract := "provider-specific"
      verification := .unverified
      parameters := [] }

/-- The names `_validate_runtime_defaults` expects in lower case. -/
def expectedParameterNames : List String := ["temperature", "top_p", "max_tokens", "max_output_tokens"]

/-- The number a value is, and whether it is an integer; a boolean is no number here. -/
def numberOf : Json → Option (Rat × Bool)
  | .int value => some (value, true)
  | .float value => some (value, false)
  | .null | .bool _ | .str _ | .arr _ | .obj _ => none

/-- One pass of the loop of `_validate_runtime_defaults`. -/
def validateRuntimeDefault (capabilities : ModelRuntimeCapabilitySnapshot) (suppliedName : String) (value : Json) :
    Except Raised Unit :=
  let raise (message : String) : Except Raised Unit :=
    .error ⟨.modelRuntimeParameterError, "Runtime parameter '" ++ suppliedName ++ "' " ++ message⟩
  let expectedName := lowerText suppliedName
  if expectedName ∈ expectedParameterNames ∧ suppliedName ≠ expectedName then
    raise ("is not recognized. Use '" ++ expectedName ++ "' with lowercase spelling.")
  else
    let name := if suppliedName = "max_tokens" then "max_output_tokens" else suppliedName
    match capabilities.parameters.find? (·.name = name) with
    | none => .ok ()
    | some capability =>
      if !capability.supported then
        raise ("is not supported by the " ++ capabilities.profileId ++ " capability profile.")
      else
        match numberOf value with
        | none => raise "must be a number."
        | some (number, isInteger) =>
          if capability.valueType = .integer ∧ isInteger = false then raise "must be an integer."
          else if capability.minimum.any fun minimum => number < minimum then
            raise ("must be at least " ++ toString (capability.minimum.getD 0) ++ ".")
          else if capability.maximum.any fun maximum => number > maximum then
            raise ("must be at most " ++ toString (capability.maximum.getD 0) ++ ".")
          else .ok ()

/-- `_validate_runtime_defaults`. -/
def validateRuntimeDefaults (parameters : List (String × Json)) (capabilities : ModelRuntimeCapabilitySnapshot) :
    Except Raised Unit :=
  if capabilities.verification = .unverified then .ok ()
  else parameters.forM fun entry => validateRuntimeDefault capabilities entry.1 entry.2

end AiGovernance.Domain
