import AiGovernance.Std.Dict
import AiGovernance.Std.Json
import AiGovernance.Std.Text

/-!
# Token validation

`AuthenticationService` of `tenancy/authentication.py`: the cache of signing keys
and the checks of a token. The base64 decoder, the JSON parser and the RSA
verification are parameters; a claim is any JSON value, and an access that the
language refuses on it is raised as what it is.
-/

namespace AiGovernance.Tenancy

open AiGovernance.Std

/-- What `validate` raises: `AuthenticationError` with its code, or an exception of the language. -/
inductive TokenError where
  | authentication (message code : String)
  | attributeError
  | typeError
  | unboundLocalError
deriving DecidableEq

/-- What validation takes from outside: `base64.urlsafe_b64decode` of padded text, `json.loads`, the text of a value,
and RSA verification under a modulus and an exponent. Where one of the first two raises it has no value, and where
verification raises it fails. -/
structure TokenPrimitives where
  Bytes : Type
  urlsafeB64decode : String → Option Bytes
  loads : Bytes → Option Json
  str : Json → String
  verify : (modulus exponent : Json) → (signature : Bytes) → (input : String) → Bool

/-- A value counts as true in a condition. -/
def truthy : Json → Bool
  | .null => false
  | .bool value => value
  | .int value => value ≠ 0
  | .float value => value ≠ 0
  | .str value => value ≠ ""
  | .arr items => !items.isEmpty
  | .obj fields => !fields.isEmpty

/-- A value can be the key of a dictionary. -/
def hashable : Json → Bool
  | .arr _ => false
  | .obj _ => false
  | _ => true

/-- `value.get(key)`. -/
def getField (value : Json) (key : String) : Except TokenError Json :=
  match value with
  | .obj fields => .ok ((Json.field fields key).getD .null)
  | _ => .error .attributeError

/-! ## Signing keys -/

/-- `_Jwk`. -/
structure Jwk where
  kid : Json
  n : Json
  e : Json
deriving DecidableEq

/-- `_JwksCache`: the keys by the value of their `kid`, and when they were fetched. -/
structure JwksCache where
  refreshSeconds : Int
  keys : Dict Json Jwk
  fetchedAt : Rat

namespace JwksCache

/-- A new cache. -/
def empty (refreshSeconds : Int) : JwksCache := ⟨refreshSeconds, .empty, 0⟩

/-- `is_expired`. -/
def isExpired (cache : JwksCache) (monotonic : Rat) : Bool := decide (cache.refreshSeconds ≤ monotonic - cache.fetchedAt)

/-- `get`. -/
def get (cache : JwksCache) (kid : Json) : Except TokenError (Option Jwk) :=
  if !truthy kid then .ok none
  else if hashable kid then .ok (cache.keys.get? kid.canonical)
  else .error .typeError

/-- What a loop over a value goes through. -/
def iterated : Json → Except TokenError (List Json)
  | .arr items => .ok items
  | .obj fields => .ok (fields.map fun field => .str field.1)
  | .str text => .ok (text.toList.map fun c => .str c.toString)
  | _ => .error .typeError

/-- The key that one entry of a JWKS describes. -/
def parseKey (entry : Json) : Except TokenError (Option Jwk) := do
  let kid ← getField entry "kid"
  let n ← getField entry "n"
  let e ← getField entry "e"
  if truthy kid && truthy n && truthy e then
    if hashable kid then .ok (some ⟨kid, n, e⟩) else .error .typeError
  else .ok none

/-- The loop of `set_from_jwks`; what was stored before an exception stays. -/
def storeKeys : List Json → Dict Json Jwk → Except TokenError Unit × Dict Json Jwk
  | [], keys => (.ok (), keys)
  | entry :: rest, keys =>
    match parseKey entry with
    | .ok (some key) => storeKeys rest (keys.set key.kid.canonical key)
    | .ok none => storeKeys rest keys
    | .error raised => (.error raised, keys)

/-- `jwks.get("keys", [])`, entry by entry. -/
def entries (jwks : Json) : Except TokenError (List Json) :=
  match jwks with
  | .obj fields => iterated ((Json.field fields "keys").getD (.arr []))
  | _ => .error .attributeError

/-- `set_from_jwks`. -/
def setFromJwks (cache : JwksCache) (jwks : Json) (monotonic : Rat) : Except TokenError Unit × JwksCache :=
  match entries jwks with
  | .error raised => (.error raised, { cache with keys := .empty })
  | .ok listed =>
    match storeKeys listed .empty with
    | (.error raised, keys) => (.error raised, { cache with keys })
    | (.ok (), keys) => (.ok (), { cache with keys, fetchedAt := monotonic })

end JwksCache

/-! ## The service -/

/-- `_base64url_decode`. -/
def base64urlDecode (primitives : TokenPrimitives) (value : String) : Option primitives.Bytes :=
  let padding := 4 - value.length % 4
  primitives.urlsafeB64decode (if padding = 4 then value else value ++ "".pushn '=' padding)

/-- `ActorType`. -/
inductive ActorType where
  | user
  | service
  | system
deriving DecidableEq

/-- `AuthenticatedPrincipal`, with the claims it was built from. -/
structure AuthenticatedPrincipal where
  subject : Json
  principalType : ActorType
  organizationId : Json
  clientId : Json
  issuer : String
deriving DecidableEq

/-- `AuthenticationService`. -/
structure AuthenticationService where
  issuer : String
  audience : Option String

/-- `AuthenticationService.__init__`. -/
def AuthenticationService.create (issuer : String) (audience : Option String) : AuthenticationService where
  issuer := String.ofList (issuer.toList.reverse.dropWhile (· = '/')).reverse
  audience := audience

/-- The characters of a text in upper case, as far as they become ASCII letters. -/
def upper (text : String) : String :=
  String.ofList (text.toList.flatMap fun c =>
    if c = 'ſ' then ['S'] else if c = 'ı' then ['I'] else if c = 'ﬅ' || c = 'ﬆ' then ['S', 'T'] else [c.toUpper])

/-- `_has_audience`. -/
def hasAudience (value : Json) (expected : String) : Bool :=
  match value with
  | .str text => text = expected
  | .arr items => items.contains (.str expected)
  | _ => false

/-- A token taken apart. -/
structure DecodedToken where
  header : Json
  payload : Json
  signingInput : String
  signature : String

/-- The two segments of a token that are JSON, and the third. -/
def decodeToken (primitives : TokenPrimitives) (token : String) : Except TokenError DecodedToken :=
  match Text.split '.' token with
  | [first, second, third] =>
    match (base64urlDecode primitives first).bind primitives.loads,
      (base64urlDecode primitives second).bind primitives.loads with
    | some header, some payload => .ok ⟨header, payload, first ++ "." ++ second, third⟩
    | _, _ => .error (.authentication "Malformed JWT: unable to decode token" "malformed_token")
  | _ => .error (.authentication "Malformed JWT: expected three dot-separated segments" "malformed_token")

/-- The number an `exp` claim has to be. -/
def expiry : Json → Option Rat
  | .int value => some value
  | .float value => some value
  | _ => none

/-- The checks before the key is resolved. -/
def checkClaims (service : AuthenticationService) (primitives : TokenPrimitives) (time : Rat) (token : DecodedToken) :
    Except TokenError Unit := do
  let alg ← getField token.header "alg"
  if alg ≠ .str "RS256" then
    .error (.authentication ("Unsupported JWT algorithm: " ++ primitives.str alg) "unsupported_algorithm")
  else do
    let issuer ← getField token.payload "iss"
    if issuer ≠ .str service.issuer then
      .error (.authentication ("JWT issuer mismatch: expected " ++ service.issuer ++ ", got " ++ primitives.str issuer)
        "invalid_issuer")
    else do
      let exp ← getField token.payload "exp"
      match expiry exp with
      | none => .error (.authentication "JWT missing expiry claim" "missing_claims")
      | some exp =>
        if exp < time then .error (.authentication "JWT has expired" "token_expired")
        else
          match service.audience with
          | none => .ok ()
          | some audience =>
            if audience = "" then .ok ()
            else do
              let aud ← getField token.payload "aud"
              if hasAudience aud audience then .ok ()
              else .error (.authentication ("JWT audience does not include " ++ audience) "invalid_audience")

/-- `_resolve_key`; `fetched` is what `_fetch_jwks` returns or raises if it is called. -/
def resolveKey (fetched : Except TokenError Json) (monotonic : Rat) (cache : JwksCache) (header : Json) :
    Except TokenError (Option Jwk) × JwksCache :=
  match getField header "kid" with
  | .error raised => (.error raised, cache)
  | .ok kid =>
    match cache.get kid with
    | .error raised => (.error raised, cache)
    | .ok (some key) => (.ok (some key), cache)
    | .ok none =>
      match fetched with
      | .error raised => (.error raised, cache)
      | .ok jwks =>
        match cache.setFromJwks jwks monotonic with
        | (.error raised, refreshed) => (.error raised, refreshed)
        | (.ok (), refreshed) => (refreshed.get kid, refreshed)

/-- The signature check. The name in its handler is bound only after the third segment is decoded and the input encoded. -/
def checkSignature (primitives : TokenPrimitives) (token : DecodedToken) (jwk : Jwk) : Except TokenError Unit :=
  match base64urlDecode primitives token.signature with
  | none => .error .unboundLocalError
  | some signature =>
    if token.signingInput.toList.any (128 ≤ ·.toNat) then .error .unboundLocalError
    else if primitives.verify jwk.n jwk.e signature token.signingInput then .ok ()
    else .error (.authentication "JWT signature verification failed" "invalid_signature")

/-- The principal of a verified token. -/
def buildPrincipal (service : AuthenticationService) (token : DecodedToken) : Except TokenError AuthenticatedPrincipal := do
  let subject ← getField token.payload "sub"
  if !truthy subject then .error (.authentication "JWT missing subject claim" "missing_claims")
  else
    match token.payload with
    | .obj fields =>
      match (Json.field fields "principal_type").getD (.str "USER") with
      | .str rawType => do
          let azp ← getField token.payload "azp"
          let organizationId ← getField token.payload "organization_id"
          .ok {
            subject
            principalType :=
              if upper rawType = "SERVICE" then .service else if upper rawType = "SYSTEM" then .system else .user
            organizationId
            clientId := if truthy azp then azp else (Json.field fields "client_id").getD (.str "")
            issuer := service.issuer }
      | _ => .error .attributeError
    | _ => .error .attributeError

/-- What `validate` does with the key it has resolved. -/
def concludeToken (service : AuthenticationService) (primitives : TokenPrimitives) (token : DecodedToken) :
    Option Jwk → Except TokenError AuthenticatedPrincipal
  | none => .error (.authentication "Unable to resolve signing key for JWT" "key_resolution_failed")
  | some jwk => do
      checkSignature primitives token jwk
      buildPrincipal service token

/-- The checks of `validate` before the key is resolved. -/
def admitToken (service : AuthenticationService) (primitives : TokenPrimitives) (time : Rat) (token : String) :
    Except TokenError DecodedToken := do
  let decoded ← decodeToken primitives token
  checkClaims service primitives time decoded
  .ok decoded

/-- `validate`. -/
def validate (service : AuthenticationService) (primitives : TokenPrimitives) (fetched : Except TokenError Json)
    (monotonic time : Rat) (cache : JwksCache) (token : String) :
    Except TokenError AuthenticatedPrincipal × JwksCache :=
  match admitToken service primitives time token with
  | .error raised => (.error raised, cache)
  | .ok decoded =>
    match resolveKey fetched monotonic cache decoded.header with
    | (.error raised, refreshed) => (.error raised, refreshed)
    | (.ok jwk, refreshed) => (concludeToken service primitives decoded jwk, refreshed)

end AiGovernance.Tenancy
