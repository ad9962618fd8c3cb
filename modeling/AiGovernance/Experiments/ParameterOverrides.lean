import AiGovernance.Domain.Experiments
import AiGovernance.Std.Double

/-!
# Runtime parameters of a candidate

`ExperimentApiService.add_candidate` stores the parameters a candidate overrides
in its fields and their names in its metadata. A run merges the named fields into
the parameters of the model version (`_candidate_runtime_parameters`), and the
request builders of the providers read the output limit under two names. The
provider gets what the candidate overrides exactly when no other name stands in
the way and the field holds the value.
-/

namespace AiGovernance.Experiments

open AiGovernance.Std Domain

variable {builder : RequestBuilder} {model : Model}

/-! ## Conversions -/

/-- `float` and `int` of a text, and `str` of a value that is no text. -/
structure ParameterConversions where
  floatText : String → Option Rat
  intText : String → Option Int
  otherText : Json → String

namespace ParameterConversions

variable (conversions : ParameterConversions)

/-- `float(value)`. -/
def toFloat : Json → Except Raised Rat
  | .float value => .ok value
  | .bool value => .ok (if value then 1 else 0)
  | .int value =>
    (Double.ofInt value).elim (.error ⟨.overflowError, "int too large to convert to float"⟩) .ok
  | .str text =>
    (conversions.floatText text).elim
      (.error ⟨.valueError, "could not convert string to float: '" ++ text ++ "'"⟩) .ok
  | .null => .error ⟨.typeError, "float() argument must be a string or a real number, not 'NoneType'"⟩
  | .arr _ => .error ⟨.typeError, "float() argument must be a string or a real number, not 'list'"⟩
  | .obj _ => .error ⟨.typeError, "float() argument must be a string or a real number, not 'dict'"⟩

/-- `int(value)`. -/
def toInt : Json → Except Raised Int
  | .int value => .ok value
  | .bool value => .ok (if value then 1 else 0)
  | .float value => .ok (value.num.tdiv value.den)
  | .str text =>
    (conversions.intText text).elim
      (.error ⟨.valueError, "invalid literal for int() with base 10: '" ++ text ++ "'"⟩) .ok
  | .null => .error ⟨.typeError,
      "int() argument must be a string, a bytes-like object or a real number, not 'NoneType'"⟩
  | .arr _ => .error ⟨.typeError,
      "int() argument must be a string, a bytes-like object or a real number, not 'list'"⟩
  | .obj _ => .error ⟨.typeError,
      "int() argument must be a string, a bytes-like object or a real number, not 'dict'"⟩

/-- `str(value)`. -/
def toText : Json → String
  | .str text => text
  | value => conversions.otherText value

/-- The value of a key, unless it is absent or `None`. -/
def present (value : Option Json) : Option Json := value.filter (· ≠ .null)

/-- `_number`. -/
def number (value : Option Json) : Except Raised (Option Rat) :=
  match present value with
  | some value => (conversions.toFloat value).map some
  | none => .ok none

/-- `_integer`. -/
def integer (value : Option Json) : Except Raised (Option Int) :=
  match present value with
  | some value => (conversions.toInt value).map some
  | none => .ok none

end ParameterConversions

/-! ## Acceptance -/

/-- The arguments of `add_candidate`. -/
structure CandidateRequest where
  experimentId : String
  candidateName : String
  promptReference : String
  modelReference : String
  datasetReference : String
  providerName : Option String
  runtimeParameters : List (String × Json)
  runtimeParameterOverrides : Option (List String) := none
  providerInstallationId : Option String := none
  runtimeConnectionId : Option String := none
  metadata : Option (List (String × Json)) := none
  context : Option TenantContext := none

/-- What `add_candidate` asks of the other services. -/
structure CandidateServices where
  getExperiment : String → Option TenantContext → Except Raised Unit
  providerNameForCandidate : Option String → Option String → Option TenantContext → Except Raised String
  findModel : String → TenantContext → Except Raised (Option Model)
  validateRuntimeConnection : String → String → String → Option TenantContext → Except Raised Unit
  generateId : String
  now : Instant
  registerCandidate : ExperimentCandidate → Except Raised Unit

/-- An optional text that is not empty. -/
def givenText (text : Option String) : Option String := text.filter (· ≠ "")

/-- `_split_reference`. -/
def splitReference (reference : String) : Except Raised (String × String) :=
  let value := Text.strip reference
  if ':' ∉ value.toList then .ok (value, value)
  else
    let identifier := Text.strip (String.ofList (value.toList.takeWhile (· ≠ ':')))
    let version := Text.strip (String.ofList ((value.toList.dropWhile (· ≠ ':')).drop 1))
    if identifier = "" ∨ version = "" then
      .error ⟨.invalidExperimentRequestError, "Invalid version reference '" ++ reference ++ "'."⟩
    else .ok (identifier, version)

/-- `explicit_parameters`, sorted. -/
def CandidateRequest.explicitParameters (request : CandidateRequest) : List String :=
  (request.runtimeParameterOverrides.getD (request.runtimeParameters.map (·.1))).dedup.insertionSort (· ≤ ·)

/-- A runtime parameter of the request, or its default. -/
def CandidateRequest.parameter (request : CandidateRequest) (name : String) (default : Json) : Json :=
  (Dict.lookup request.runtimeParameters name).getD default

variable (conversions : ParameterConversions) (services : CandidateServices) (request : CandidateRequest)

/-- The model version both checks of `add_candidate` read. -/
def candidateModel (modelId modelVersion : String) (context : Option TenantContext) : Except Raised Model :=
  match context with
  | none => .error ⟨.invalidExperimentRequestError, "Candidate runtime parameters require a tenant-scoped runtime."⟩
  | some context => do
    match ← services.findModel modelId context with
    | none => .error ⟨.invalidExperimentRequestError, "Candidate references an unknown model version."⟩
    | some model =>
      if model.record.version ≠ modelVersion then
        .error ⟨.invalidExperimentRequestError, "Candidate references an unknown model version."⟩
      else .ok model

/-- `supports`. -/
def supports (capabilities : ModelRuntimeCapabilitySnapshot) (name : String) : Bool :=
  capabilities.parameters.any fun parameter => parameter.name = name && parameter.supported

/-- `_validate_candidate_runtime_parameters`. -/
def validateCandidateRuntimeParameters (modelId modelVersion : String) (explicitParameters : List String)
    (context : Option TenantContext) : Except Raised Unit := do
  let model ← candidateModel services modelId modelVersion context
  if model.record.runtimeCapabilities.verification = .unverified then .ok ()
  else
    let unsupported := explicitParameters.filter fun name =>
      !supports model.record.runtimeCapabilities (if name = "max_tokens" then "max_output_tokens" else name)
    if unsupported = [] then .ok ()
    else .error ⟨.invalidExperimentRequestError,
      "The selected model version does not support: " ++ ", ".intercalate unsupported ++ "."⟩

/-- `_model_requires_runtime_connection`. -/
def modelRequiresRuntimeConnection (modelId modelVersion : String) (context : Option TenantContext) :
    Except Raised Bool := do
  let model ← candidateModel services modelId modelVersion context
  .ok (["openai", "anthropic", "custom"].any fun key => runtimeModelProviderKey model.record.provider = some key)

/-- The two tests of `runtime_connection_id` in `add_candidate`. -/
def checkRuntimeConnection (model : String × String) : Except Raised Unit :=
  match givenText request.runtimeConnectionId with
  | some connection => services.validateRuntimeConnection connection model.1 model.2 request.context
  | none => do
    if ← modelRequiresRuntimeConnection services model.1 model.2 request.context then
      .error ⟨.invalidExperimentRequestError, "Candidate execution requires an active runtime connection."⟩
    else .ok ()

/-- The metadata a candidate is stored with. -/
def CandidateRequest.candidateMetadata : List (String × Json) :=
  let metadata := request.metadata.getD []
  let installed := match givenText request.providerInstallationId with
    | some installation => Dict.write metadata "provider_installation_id" (.str installation)
    | none => metadata
  let connected := match givenText request.runtimeConnectionId with
    | some connection => Dict.write installed "runtime_connection_id" (.str connection)
    | none => installed
  Dict.write connected "runtime_parameter_overrides" (.arr (request.explicitParameters.map .str))

/-- `create_candidate`, with the conversions of its arguments. -/
def createCandidate (providerName : String) (prompt model dataset : String × String) :
    Except Raised ExperimentCandidate := do
  let temperature ← conversions.toFloat (request.parameter "temperature" (.float 0))
  let topP ← conversions.toFloat (request.parameter "top_p" (.float 1))
  let maxTokens ← conversions.toInt (request.parameter "max_tokens" (.int 1024))
  let candidate ← Checked.create {
    candidateId := services.generateId
    experimentId := request.experimentId
    name := request.candidateName
    promptId := prompt.1
    promptVersion := prompt.2
    modelId := model.1
    modelVersion := model.2
    datasetId := dataset.1
    datasetVersion := dataset.2
    evaluationProvider := providerName
    temperature, topP, maxTokens
    metadata := request.candidateMetadata
    createdAt := services.now }
  services.registerCandidate candidate
  .ok candidate

/-- The `except` clauses of `add_candidate`. -/
def asRequestError (raised : Raised) : Raised :=
  if raised.kind = .experimentCandidateReferenceError then
    if "Experiment".toList <:+: raised.message.toList then ⟨.experimentNotFoundError, raised.message⟩
    else ⟨.invalidExperimentRequestError, raised.message⟩
  else if raised.kind = .experimentLifecycleError ∨ raised.kind = .valueError then
    ⟨.invalidExperimentRequestError, raised.message⟩
  else raised

/-- `add_candidate`. -/
def addCandidate : Except Raised ExperimentCandidate := do
  services.getExperiment request.experimentId request.context
  let providerName ←
    services.providerNameForCandidate request.providerName request.providerInstallationId request.context
  let prompt ← splitReference request.promptReference
  let model ← splitReference request.modelReference
  let dataset ← splitReference request.datasetReference
  validateCandidateRuntimeParameters services model.1 model.2 request.explicitParameters request.context
  checkRuntimeConnection services request model
  (createCandidate conversions services request providerName prompt model dataset).mapError asRequestError

/-! ## Execution -/

/-- The value a candidate has for a parameter. -/
def candidateValue (candidate : ExperimentCandidate) (name : String) : Option Json :=
  Dict.lookup [("temperature", .float candidate.record.temperature), ("top_p", .float candidate.record.topP),
    ("max_tokens", .int candidate.record.maxTokens)] name

/-- Write the named values over a dictionary. -/
def overwrite (values : String → Option Json) (names : List String) (parameters : List (String × Json)) :
    List (String × Json) :=
  names.foldl (fun parameters name => (values name).elim parameters (Dict.write parameters name)) parameters

/-- `_candidate_runtime_parameters`. -/
def candidateRuntimeParameters (candidate : ExperimentCandidate) (model : Model) : List (String × Json) :=
  let names := match Dict.lookup candidate.record.metadata "runtime_parameter_overrides" with
    | some (.arr overrides) => overrides.map conversions.toText
    | _ => ["temperature", "top_p", "max_tokens"]
  overwrite (candidateValue candidate) names model.record.parameters

/-- `ModelRuntimeRequest`, without the secrets of the connection. -/
structure ModelRuntimeRequest where
  provider : String
  modelIdentifier : String
  prompt : String
  parameters : List (String × Json)

/-- The arguments of the provider's call; the limit is under a key of its own. -/
structure ProviderArguments where
  model : String
  messages : List (String × String)
  temperature : Option Rat
  topP : Option Rat
  limit : Option (String × Int)

/-- `parameters.get("max_output_tokens", parameters.get("max_tokens"))`. -/
def outputLimit (parameters : List (String × Json)) : Option Json :=
  (Dict.lookup parameters "max_output_tokens").or (Dict.lookup parameters "max_tokens")

/-- `_openai_request_arguments`. -/
def openaiRequestArguments (runtime : ModelRuntimeRequest) : Except Raised ProviderArguments := do
  let temperature ← conversions.number (Dict.lookup runtime.parameters "temperature")
  let topP ← conversions.number (Dict.lookup runtime.parameters "top_p")
  let maxTokens ← conversions.integer (outputLimit runtime.parameters)
  let key := if runtimeModelProviderKey runtime.provider = some "openai" then "max_completion_tokens" else "max_tokens"
  .ok { model := runtime.modelIdentifier, messages := [("user", runtime.prompt)], temperature, topP
        limit := maxTokens.map (key, ·) }

/-- `_anthropic_request_arguments`. -/
def anthropicRequestArguments (runtime : ModelRuntimeRequest) : Except Raised ProviderArguments := do
  let maxTokens ← conversions.integer (outputLimit runtime.parameters)
  match maxTokens with
  | none => .error ⟨.candidateExecutionError,
      "The Anthropic runtime requires max output tokens in the managed model or candidate configuration."⟩
  | some limit => do
    let temperature ← conversions.number (Dict.lookup runtime.parameters "temperature")
    let topP ← conversions.number (Dict.lookup runtime.parameters "top_p")
    .ok { model := runtime.modelIdentifier, messages := [("user", runtime.prompt)], temperature, topP
          limit := some ("max_tokens", limit) }

/-- The two request builders. -/
inductive RequestBuilder where
  | openai
  | anthropic

/-- The arguments a builder makes of a request. -/
def RequestBuilder.arguments : RequestBuilder → ModelRuntimeRequest → Except Raised ProviderArguments
  | .openai => openaiRequestArguments conversions
  | .anthropic => anthropicRequestArguments conversions

/-- The request of one dataset item; `runtime_model_identifier` names the model. -/
def runtimeRequest (model : Model) (candidate : ExperimentCandidate) (prompt : String) : ModelRuntimeRequest where
  provider := model.record.provider
  modelIdentifier := (givenText model.record.providerModelId).getD model.record.modelName
  prompt
  parameters := candidateRuntimeParameters conversions candidate model

/-! ## The property -/

/-- The names of the governed parameters; the last two name the output limit. -/
def governedParameters : List String := ["temperature", "top_p", "max_tokens", "max_output_tokens"]

/-- The output limit the request gives as `max_tokens`. -/
def CandidateRequest.maxTokens : Json := request.parameter "max_tokens" (.int 1024)

/-- The output limit the request gives as `max_output_tokens`. -/
def CandidateRequest.maxOutputTokens : Json := request.parameter "max_output_tokens" request.maxTokens

/-- The output limit of a model version: the first of its names that has a value. -/
def ownLimit (parameters : List (String × Json)) : Option Json :=
  (ParameterConversions.present (Dict.lookup parameters "max_output_tokens")).or
    (ParameterConversions.present (Dict.lookup parameters "max_tokens"))

variable (candidate : ExperimentCandidate) (parameters : List (String × Json)) (arguments : ProviderArguments)

/-- The provider gets what the candidate overrides, and else what the model version has. -/
structure Governed : Prop where
  known : ∀ name ∈ request.explicitParameters, name ∈ governedParameters
  temperature : "temperature" ∈ request.explicitParameters → arguments.temperature = some candidate.record.temperature
  ownTemperature : "temperature" ∉ request.explicitParameters → ∀ value,
    conversions.number (Dict.lookup parameters "temperature") = .ok (some value) → arguments.temperature = some value
  topP : "top_p" ∈ request.explicitParameters → arguments.topP = some candidate.record.topP
  ownTopP : "top_p" ∉ request.explicitParameters → ∀ value,
    conversions.number (Dict.lookup parameters "top_p") = .ok (some value) → arguments.topP = some value
  maxTokens : "max_tokens" ∈ request.explicitParameters →
    arguments.limit.map (·.2) = some candidate.record.maxTokens
  maxOutputTokens : "max_output_tokens" ∈ request.explicitParameters →
    ∃ value, conversions.toInt request.maxOutputTokens = .ok value ∧ arguments.limit.map (·.2) = some value
  limit : "max_tokens" ∉ request.explicitParameters → "max_output_tokens" ∉ request.explicitParameters → ∀ value,
    conversions.integer (ownLimit parameters) = .ok (some value) → arguments.limit.map (·.2) = some value

/-- No other name hides an overridden limit, and every overridden name has a field. -/
structure Reaches : Prop where
  known : ∀ name ∈ request.explicitParameters, name ∈ governedParameters
  maxTokens : "max_tokens" ∈ request.explicitParameters → ∀ own,
    Dict.lookup parameters "max_output_tokens" = some own → conversions.toInt own = conversions.toInt request.maxTokens
  maxOutputTokens : "max_output_tokens" ∈ request.explicitParameters → ∃ standing value,
    (Dict.lookup parameters "max_output_tokens").or
        (if "max_tokens" ∈ request.explicitParameters then some request.maxTokens
          else Dict.lookup parameters "max_tokens") = some standing ∧
      conversions.toInt standing = .ok value ∧ conversions.toInt request.maxOutputTokens = .ok value
  limit : "max_tokens" ∉ request.explicitParameters → "max_output_tokens" ∉ request.explicitParameters →
    Dict.lookup parameters "max_output_tokens" = some .null →
      ∀ value, conversions.integer (Dict.lookup parameters "max_tokens") ≠ .ok (some value)

/-! ## Conversions that give a number -/

variable {conversions services request candidate parameters arguments} {given : Option Json}

namespace ParameterConversions

theorem integer_present (given : Option Json) : conversions.integer (present given) = conversions.integer given := by
  unfold integer present
  rw [Option.filter_filter]
  simp only [Bool.and_self]

theorem integer_eq_some {value : Int} :
    conversions.integer given = .ok (some value) ↔ ∃ own, given = some own ∧ conversions.toInt own = .ok value := by
  cases given with
  | none => simp [integer, present]
  | some own =>
    by_cases null : own = .null
    · subst null
      have empty : conversions.integer (some .null) = .ok none := rfl
      rw [empty]
      constructor
      · intro converted
        cases converted
      · rintro ⟨own, same, converted⟩
        cases same
        cases converted
    · simp only [integer, present, Option.filter_some, decide_eq_true null, if_true, Option.some.injEq, exists_eq_left']
      cases conversions.toInt own <;> simp [Except.map]

end ParameterConversions

/-! ## What acceptance stores and the builders send -/

theorem createCandidate_ok {providerName : String} {prompt model dataset : String × String}
    (created : createCandidate conversions services request providerName prompt model dataset = .ok candidate) :
    conversions.toInt request.maxTokens = .ok candidate.record.maxTokens ∧
      candidate.record.metadata = request.candidateMetadata := by
  obtain ⟨temperature, -, created⟩ := bind_ok created
  obtain ⟨topP, -, created⟩ := bind_ok created
  obtain ⟨maxTokens, converted, created⟩ := bind_ok created
  obtain ⟨stored, checked, created⟩ := bind_ok created
  obtain ⟨_, -, created⟩ := bind_ok created
  cases created
  rw [Checked.create_eq_ok_iff.mp checked]
  exact ⟨converted, rfl⟩

theorem addCandidate_ok (accepted : addCandidate conversions services request = .ok candidate) :
    conversions.toInt request.maxTokens = .ok candidate.record.maxTokens ∧
      candidate.record.metadata = request.candidateMetadata := by
  obtain ⟨_, -, accepted⟩ := bind_ok accepted
  obtain ⟨providerName, -, accepted⟩ := bind_ok accepted
  obtain ⟨prompt, -, accepted⟩ := bind_ok accepted
  obtain ⟨model, -, accepted⟩ := bind_ok accepted
  obtain ⟨dataset, -, accepted⟩ := bind_ok accepted
  obtain ⟨_, -, accepted⟩ := bind_ok accepted
  obtain ⟨_, -, accepted⟩ := bind_ok accepted
  cases created : createCandidate conversions services request providerName prompt model dataset with
  | error raised =>
    rw [created] at accepted
    cases accepted
  | ok stored =>
    rw [created] at accepted
    cases accepted
    exact createCandidate_ok created

theorem lookup_overwrite (values : String → Option Json) (names : List String) (key : String) :
    Dict.lookup (overwrite values names parameters) key =
      if key ∈ names then (values key).or (Dict.lookup parameters key) else Dict.lookup parameters key := by
  induction names generalizing parameters with
  | nil => rfl
  | cons name rest ih =>
    refine ih.trans ?_
    have written : Dict.lookup ((values name).elim parameters (Dict.write parameters name)) key =
        if key = name then (values key).or (Dict.lookup parameters key) else Dict.lookup parameters key := by
      cases value : values name with
      | none =>
        split
        · rename_i same
          rw [same, value]
          rfl
        · rfl
      | some value' =>
        refine (Dict.lookup_write).trans ?_
        split
        · rename_i same
          rw [same, value]
          rfl
        · rfl
    rw [written]
    by_cases same : key = name
    · rw [if_pos same, if_pos (List.mem_cons.mpr (.inl same))]
      cases values key <;> simp
    · simp only [List.mem_cons, same, false_or, if_false]

/-- The parameters of a run, read under one name. -/
theorem lookup_candidateRuntimeParameters (stored : candidate.record.metadata = request.candidateMetadata)
    (key : String) :
    Dict.lookup (candidateRuntimeParameters conversions candidate model) key =
      if key ∈ request.explicitParameters
        then (candidateValue candidate key).or (Dict.lookup model.record.parameters key)
      else Dict.lookup model.record.parameters key := by
  have named : Dict.lookup candidate.record.metadata "runtime_parameter_overrides" =
      some (.arr (request.explicitParameters.map .str)) := by
    rw [stored]
    unfold CandidateRequest.candidateMetadata
    rw [Dict.lookup_write, if_pos rfl]
  have texts : (request.explicitParameters.map .str).map conversions.toText = request.explicitParameters := by
    rw [List.map_map]
    exact List.map_id _
  unfold candidateRuntimeParameters
  rw [named]
  dsimp only
  rw [texts, lookup_overwrite]

/-- Both builders convert the same entries of the parameters. -/
theorem arguments_ok {runtime : ModelRuntimeRequest} (sent : builder.arguments conversions runtime = .ok arguments) :
    conversions.number (Dict.lookup runtime.parameters "temperature") = .ok arguments.temperature ∧
      conversions.number (Dict.lookup runtime.parameters "top_p") = .ok arguments.topP ∧
      conversions.integer (outputLimit runtime.parameters) = .ok (arguments.limit.map (·.2)) := by
  cases builder with
  | openai =>
    obtain ⟨temperature, first, sent⟩ := bind_ok sent
    obtain ⟨topP, second, sent⟩ := bind_ok sent
    obtain ⟨maxTokens, third, sent⟩ := bind_ok sent
    cases sent
    refine ⟨first, second, third.trans ?_⟩
    rw [Option.map_map]
    exact congrArg Except.ok Option.map_id'.symm
  | anthropic =>
    obtain ⟨maxTokens, third, sent⟩ := bind_ok sent
    cases maxTokens with
    | none => cases sent
    | some limit =>
      obtain ⟨temperature, first, sent⟩ := bind_ok sent
      obtain ⟨topP, second, sent⟩ := bind_ok sent
      cases sent
      exact ⟨first, second, third⟩

/-- What the builders convert, read off the request and the model version. -/
structure Sent (conversions : ParameterConversions) (request : CandidateRequest) (candidate : ExperimentCandidate)
    (parameters : List (String × Json)) (arguments : ProviderArguments) : Prop where
  maxTokens : conversions.toInt request.maxTokens = .ok candidate.record.maxTokens
  temperature : conversions.number (if "temperature" ∈ request.explicitParameters
    then some (.float candidate.record.temperature) else Dict.lookup parameters "temperature") =
      .ok arguments.temperature
  topP : conversions.number (if "top_p" ∈ request.explicitParameters
    then some (.float candidate.record.topP) else Dict.lookup parameters "top_p") = .ok arguments.topP
  limit : conversions.integer ((Dict.lookup parameters "max_output_tokens").or
    (if "max_tokens" ∈ request.explicitParameters then some (.int candidate.record.maxTokens)
      else Dict.lookup parameters "max_tokens")) = .ok (arguments.limit.map (·.2))

theorem sent_of_accepted {prompt : String} (accepted : addCandidate conversions services request = .ok candidate)
    (built : builder.arguments conversions (runtimeRequest conversions model candidate prompt) = .ok arguments) :
    Sent conversions request candidate model.record.parameters arguments := by
  obtain ⟨maxTokens, stored⟩ := addCandidate_ok accepted
  have read : ∀ key, Dict.lookup (candidateRuntimeParameters conversions candidate model) key = _ :=
    lookup_candidateRuntimeParameters stored
  obtain ⟨temperature, topP, limit⟩ := arguments_ok built
  refine ⟨maxTokens, ?_, ?_, ?_⟩
  · rw [← temperature]
    exact congrArg _ (read "temperature").symm
  · rw [← topP]
    exact congrArg _ (read "top_p").symm
  · rw [← limit]
    refine congrArg _ ?_
    refine (congrArg₂ Option.or ((read "max_output_tokens").trans (ite_self _)) (read "max_tokens")).symm

namespace Sent

variable (sent : Sent conversions request candidate parameters arguments)

include sent

theorem temperature_eq (overridden : "temperature" ∈ request.explicitParameters) :
    arguments.temperature = some candidate.record.temperature := by
  have converted := sent.temperature
  rw [if_pos overridden] at converted
  exact (Except.ok.inj converted).symm

theorem topP_eq (overridden : "top_p" ∈ request.explicitParameters) :
    arguments.topP = some candidate.record.topP := by
  have converted := sent.topP
  rw [if_pos overridden] at converted
  exact (Except.ok.inj converted).symm

/-- The limit in the request is the integer under the name the builder reads. -/
theorem limit_eq_some (value : Int) :
    arguments.limit.map (·.2) = some value ↔ ∃ own,
      (Dict.lookup parameters "max_output_tokens").or
          (if "max_tokens" ∈ request.explicitParameters then some request.maxTokens
            else Dict.lookup parameters "max_tokens") = some own ∧ conversions.toInt own = .ok value := by
  have converted := sent.limit
  have same : arguments.limit.map (·.2) = some value ↔ conversions.integer
      ((Dict.lookup parameters "max_output_tokens").or
        (if "max_tokens" ∈ request.explicitParameters then some (.int candidate.record.maxTokens)
          else Dict.lookup parameters "max_tokens")) = .ok (some value) := by
    rw [converted, Except.ok.injEq]
  rw [same, ParameterConversions.integer_eq_some]
  cases Dict.lookup parameters "max_output_tokens" with
  | some own => rfl
  | none =>
    by_cases overridden : "max_tokens" ∈ request.explicitParameters
    · rw [if_pos overridden, if_pos overridden]
      simp only [Option.none_or, Option.some.injEq, exists_eq_left', sent.maxTokens]
      rfl
    · rw [if_neg overridden, if_neg overridden]

/-- Without an override the builder misses the model's limit only behind an empty `max_output_tokens`. -/
theorem limit_iff (plain : "max_tokens" ∉ request.explicitParameters) :
    (∀ value, conversions.integer (ownLimit parameters) = .ok (some value) →
        arguments.limit.map (·.2) = some value) ↔
      (Dict.lookup parameters "max_output_tokens" = some .null →
        ∀ value, conversions.integer (Dict.lookup parameters "max_tokens") ≠ .ok (some value)) := by
  simp only [sent.limit_eq_some, if_neg plain]
  unfold ownLimit
  cases Dict.lookup parameters "max_output_tokens" with
  | none =>
    refine iff_of_true (fun value own => ?_) (fun absent => by cases absent)
    exact ParameterConversions.integer_eq_some.mp ((ParameterConversions.integer_present _).symm.trans own)
  | some first =>
    by_cases null : first = .null
    · subst null
      constructor
      · intro reached _ value own
        obtain ⟨other, same, converted⟩ := reached value ((ParameterConversions.integer_present _).trans own)
        cases same
        cases converted
      · intro missing value own
        exact absurd ((ParameterConversions.integer_present _).symm.trans own) (missing rfl value)
    · have shown : ParameterConversions.present (some first) = some first := by
        simp [ParameterConversions.present, null]
      rw [shown]
      exact iff_of_true (fun value own => ParameterConversions.integer_eq_some.mp own)
        (fun empty => absurd (Option.some.inj empty) null)

theorem governed_iff_reaches :
    Governed conversions request candidate parameters arguments ↔ Reaches conversions request parameters := by
  constructor
  · intro governed
    refine ⟨governed.known, ?_, ?_, ?_⟩
    · intro overridden own found
      obtain ⟨standing, same, converted⟩ := (sent.limit_eq_some _).mp (governed.maxTokens overridden)
      rw [found] at same
      cases same
      exact converted.trans sent.maxTokens.symm
    · intro overridden
      obtain ⟨value, given, limit⟩ := governed.maxOutputTokens overridden
      obtain ⟨standing, same, converted⟩ := (sent.limit_eq_some _).mp limit
      exact ⟨standing, value, same, converted, given⟩
    · intro plain other
      exact (sent.limit_iff plain).mp (governed.limit plain other)
  · intro reaches
    refine ⟨reaches.known, sent.temperature_eq, ?_, sent.topP_eq, ?_, ?_, ?_, ?_⟩
    · intro plain value own
      have converted := sent.temperature
      rw [if_neg plain, own] at converted
      exact (Except.ok.inj converted).symm
    · intro plain value own
      have converted := sent.topP
      rw [if_neg plain, own] at converted
      exact (Except.ok.inj converted).symm
    · intro overridden
      refine (sent.limit_eq_some _).mpr ?_
      cases found : Dict.lookup parameters "max_output_tokens" with
      | none => exact ⟨request.maxTokens, if_pos overridden, sent.maxTokens⟩
      | some own => exact ⟨own, rfl, (reaches.maxTokens overridden own found).trans sent.maxTokens⟩
    · intro overridden
      obtain ⟨standing, value, same, converted, given⟩ := reaches.maxOutputTokens overridden
      exact ⟨value, given, (sent.limit_eq_some _).mpr ⟨standing, same, converted⟩⟩
    · intro plain other
      exact (sent.limit_iff plain).mpr (reaches.limit plain other)

end Sent

/-- What an accepted candidate overrides reaches the provider exactly when no other name of the
output limit stands before it, its field holds it, and it has a field at all. -/
theorem overrides_reach_provider_iff {model : Model} {builder : RequestBuilder} {prompt : String}
    (accepted : addCandidate conversions services request = .ok candidate)
    (built : builder.arguments conversions (runtimeRequest conversions model candidate prompt) = .ok arguments) :
    Governed conversions request candidate model.record.parameters arguments ↔
      Reaches conversions request model.record.parameters :=
  (sent_of_accepted accepted built).governed_iff_reaches

/-! ### A limit under each name -/

/-- Conversions that read no text. -/
def textlessConversions : ParameterConversions := ⟨fun _ => none, fun _ => none, fun _ => ""⟩

/-- A model version of OpenAI without parameters. -/
def openaiModelFields : ModelFields where
  modelId := "model-1"
  provider := "openai"
  modelName := "gpt-4o"
  version := "1"
  parameters := []
  cost := none
  latency := none
  contextWindow := 8192
  creator := "user-1"
  createdAt := ⟨0⟩
  status := .draft
  runtimeCapabilities := resolveRuntimeCapabilities "openai" "gpt-4o"

theorem openaiModelFields_valid : openaiModelFields.violation = none := by
  decide +kernel

/-- The model version. -/
def openaiModel : Model := ⟨openaiModelFields, openaiModelFields_valid⟩

/-- Services that know the model version and accept every candidate. -/
def acceptingServices : CandidateServices where
  getExperiment _ _ := .ok ()
  providerNameForCandidate name _ _ := .ok (name.getD "")
  findModel _ _ := .ok (some openaiModel)
  validateRuntimeConnection _ _ _ _ := .ok ()
  generateId := "candidate-1"
  now := ⟨0⟩
  registerCandidate _ := .ok ()

/-- A request that sets the output limit under one name. -/
def limitRequest (name : String) : CandidateRequest where
  experimentId := "experiment-1"
  candidateName := "Short answers"
  promptReference := "prompt-1:1"
  modelReference := "model-1:1"
  datasetReference := "dataset-1:1"
  providerName := some "mock"
  runtimeParameters := [(name, .int 200)]
  runtimeConnectionId := some "connection-1"
  context := some ⟨⟨"org_default", some "project_default"⟩, "user-1", none⟩

/-- The candidate of the request. -/
def limitCandidateFields (name : String) (maxTokens : Int) : ExperimentCandidateFields where
  candidateId := "candidate-1"
  experimentId := "experiment-1"
  name := "Short answers"
  promptId := "prompt-1"
  promptVersion := "1"
  modelId := "model-1"
  modelVersion := "1"
  datasetId := "dataset-1"
  datasetVersion := "1"
  evaluationProvider := "mock"
  temperature := 0
  topP := 1
  maxTokens
  metadata := [("runtime_connection_id", .str "connection-1"), ("runtime_parameter_overrides", .arr [.str name])]
  createdAt := ⟨0⟩

theorem limitCandidateFields_valid :
    (limitCandidateFields "max_tokens" 200).violation = none ∧
      (limitCandidateFields "max_output_tokens" 1024).violation = none := by
  decide +kernel

/-- The candidate that names its limit `max_tokens`. -/
def shortCandidate : ExperimentCandidate := ⟨limitCandidateFields "max_tokens" 200, limitCandidateFields_valid.1⟩

/-- The candidate that names its limit `max_output_tokens`. -/
def unboundedCandidate : ExperimentCandidate :=
  ⟨limitCandidateFields "max_output_tokens" 1024, limitCandidateFields_valid.2⟩

/-- The arguments of the provider's call. -/
def openaiArguments (limit : Option (String × Int)) (temperature topP : Option Rat) : ProviderArguments where
  model := "gpt-4o"
  messages := [("user", "Question")]
  temperature
  topP
  limit

/-- A limit named `max_tokens` reaches the provider. -/
theorem overrides_reach_provider_iff_capped :
    Governed textlessConversions (limitRequest "max_tokens") shortCandidate []
      (openaiArguments (some ("max_completion_tokens", 200)) none none) := by
  have accepted : addCandidate textlessConversions acceptingServices (limitRequest "max_tokens") =
      .ok shortCandidate := rfl
  have built : RequestBuilder.openai.arguments textlessConversions
      (runtimeRequest textlessConversions openaiModel shortCandidate "Question") =
        .ok (openaiArguments (some ("max_completion_tokens", 200)) none none) := rfl
  refine (overrides_reach_provider_iff accepted built).mpr ⟨by decide, ?_, ?_, ?_⟩
  · intro _ own found
    cases found
  · intro named
    exact absurd named (by decide)
  · intro plain
    exact absurd (by decide) plain

/-- A limit named `max_output_tokens` is accepted and dropped. -/
theorem output_limit_dropped :
    addCandidate textlessConversions acceptingServices (limitRequest "max_output_tokens") = .ok unboundedCandidate ∧
      RequestBuilder.openai.arguments textlessConversions
          (runtimeRequest textlessConversions openaiModel unboundedCandidate "Question") =
        .ok (openaiArguments none none none) ∧
      ¬ Governed textlessConversions (limitRequest "max_output_tokens") unboundedCandidate
        openaiModel.record.parameters (openaiArguments none none none) := by
  refine ⟨rfl, rfl, fun governed => ?_⟩
  obtain ⟨value, -, sent⟩ := governed.maxOutputTokens (by decide)
  cases sent

end AiGovernance.Experiments
