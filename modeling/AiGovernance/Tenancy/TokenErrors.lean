import AiGovernance.Tenancy.SigningKeys

/-!
# What a token can raise

A principal is only built from a token whose claims, key and signature are in
order. Which tokens raise something else than an authentication error depends on
the JSON types of a few of their parts.
-/

namespace AiGovernance.Tenancy

open AiGovernance.Std JwksCache

/-- A JWKS with its key objects. -/
def WellFormedJwks (jwks : Json) (entries : List Json) : Prop :=
  (∃ fields, jwks = .obj fields ∧ Json.field fields "keys" = some (.arr entries)) ∧
    ∀ entry ∈ entries, ∃ fields, entry = .obj fields

/-- The caches a service can have while one key set is published. -/
inductive ServedKeys (service : AuthenticationService) (primitives : TokenPrimitives) (jwks : Json) : JwksCache → Prop where
  | created (refreshSeconds : Int) : ServedKeys service primitives jwks (.empty refreshSeconds)
  | validated {cache : JwksCache} (monotonic time : Rat) (token : String)
      (before : ServedKeys service primitives jwks cache) :
      ServedKeys service primitives jwks (validate service primitives (.ok jwks) monotonic time cache token).2

/-- The claims of an admitted token. -/
structure Claims (service : AuthenticationService) (time : Rat) (header payload : List (String × Json)) : Prop where
  algorithm : Json.field header "alg" = some (.str "RS256")
  issuer : Json.field payload "iss" = some (.str service.issuer)
  unexpired : ∃ exp, (Json.field payload "exp").bind expiry = some exp ∧ time ≤ exp
  audience : ∀ audience, service.audience = some audience → audience ≠ "" →
    (Json.field payload "aud").any (hasAudience · audience) = true

/-- The type that the text of a claim names. -/
def namedType (rawType : String) : ActorType :=
  if upper rawType = "SERVICE" then .service else if upper rawType = "SYSTEM" then .system else .user

/-- The principal has a subject and carries the claims. -/
structure Carries (payload : List (String × Json)) (principal : AuthenticatedPrincipal) : Prop where
  subject : Json.field payload "sub" = some principal.subject
  named : truthy principal.subject = true
  issuer : Json.field payload "iss" = some (.str principal.issuer)
  organization : principal.organizationId = (Json.field payload "organization_id").getD .null
  client : principal.clientId =
    ((Json.field payload "azp").filter truthy).getD ((Json.field payload "client_id").getD (.str ""))
  type : ∃ rawType, (Json.field payload "principal_type").getD (.str "USER") = .str rawType ∧
    principal.principalType = namedType rawType

/-- The token has three segments, two of them JSON objects, and its claims, its key, its signature and the principal
are in order. -/
def Accepts (service : AuthenticationService) (primitives : TokenPrimitives) (jwks : Json) (time : Rat)
    (token : String) (principal : AuthenticatedPrincipal) : Prop :=
  ∃ first second third header payload kid key signature,
    Text.split '.' token = [first, second, third] ∧
    (base64urlDecode primitives first).bind primitives.loads = some (.obj header) ∧
    (base64urlDecode primitives second).bind primitives.loads = some (.obj payload) ∧
    Claims service time header payload ∧
    Json.field header "kid" = some kid ∧ key ∈ listedKeys jwks ∧ key.kid.canonical = kid.canonical ∧
    base64urlDecode primitives third = some signature ∧
    primitives.verify key.n key.e signature (first ++ "." ++ second) = true ∧
    Carries payload principal

/-- The outcome is a good result or an authentication error. -/
def Orderly {α : Type} (good : α → Prop) (outcome : Except TokenError α) : Prop :=
  (∀ result, outcome = .ok result → good result) ∧
    ∀ raised, outcome = .error raised → ∃ message code, raised = .authentication message code

/-! ## When a token is typed as the code expects -/

/-- The `kid` of a header. -/
def headerKid (header : List (String × Json)) : Json := (Json.field header "kid").getD .null

/-- The key of a `kid`: the cached one, or else the one that the published set stores. -/
def keyFor (cache : JwksCache) (entries : List Json) (kid : Json) : Option Jwk :=
  if truthy kid then
    (cache.keys.get? kid.canonical).or ((JwksCache.storeKeys entries .empty).2.get? kid.canonical)
  else none

/-- The `kid` can be looked up, and where the cache has no key for it every key object can be stored. -/
structure KidsTyped (cache : JwksCache) (entries : List Json) (kid : Json) : Prop where
  lookup : truthy kid = true → hashable kid = true
  listed : (truthy kid = true → cache.keys.get? kid.canonical = none) →
    ∀ entry ∈ entries, ∃ key, JwksCache.parseKey entry = .ok key

/-- The signature is base64 over ASCII text. -/
def SignatureTyped (primitives : TokenPrimitives) (token : DecodedToken) : Prop :=
  (base64urlDecode primitives token.signature).isSome = true ∧ token.signingInput.toList.any (128 ≤ ·.toNat) = false

/-- The type claim of a payload with a subject is text. -/
def PrincipalTyped (payload : List (String × Json)) : Prop :=
  (Json.field payload "sub").any truthy = true →
    ∃ rawType, (Json.field payload "principal_type").getD (.str "USER") = .str rawType

/-- The parts of an admitted token that are read are of the types the code expects. -/
structure AdmittedTyped (primitives : TokenPrimitives) (cache : JwksCache) (entries : List Json)
    (header payload : List (String × Json)) (token : DecodedToken) : Prop where
  kids : KidsTyped cache entries (headerKid header)
  signature : ∀ key, keyFor cache entries (headerKid header) = some key → SignatureTyped primitives token
  principal : ∀ key signature, keyFor cache entries (headerKid header) = some key →
    base64urlDecode primitives token.signature = some signature →
    primitives.verify key.n key.e signature token.signingInput = true → PrincipalTyped payload

/-- The header is an object; so is the payload, if the algorithm is right; and so on. -/
structure TokenTyped (service : AuthenticationService) (primitives : TokenPrimitives) (cache : JwksCache)
    (entries : List Json) (time : Rat) (token : DecodedToken) : Prop where
  header : ∃ header, token.header = .obj header
  payload : ∀ header, token.header = .obj header → Json.field header "alg" = some (.str "RS256") →
    ∃ payload, token.payload = .obj payload
  admitted : ∀ header payload, token.header = .obj header → token.payload = .obj payload →
    Claims service time header payload → AdmittedTyped primitives cache entries header payload token

/-! ## The checks, one after the other -/

section Checks

variable {service : AuthenticationService} {primitives : TokenPrimitives} {time : Rat} {α : Type} {good : α → Prop}

theorem orderly_ok {result : α} : Orderly good (.ok result) ↔ good result := by
  constructor
  · intro orderly
    exact orderly.1 result rfl
  · intro holds
    exact ⟨fun other same => Except.ok.inj same ▸ holds, nofun⟩

theorem orderly_authentication (message code : String) :
    Orderly good (.error (.authentication message code)) :=
  ⟨nofun, fun _ same => ⟨message, code, (Except.error.inj same).symm⟩⟩

theorem not_orderly_error {raised : TokenError} (other : ∀ message code, raised ≠ .authentication message code) :
    ¬ Orderly good (.error raised : Except TokenError α) := by
  intro orderly
  obtain ⟨message, code, same⟩ := orderly.2 raised rfl
  exact other message code same

theorem getD_null_eq_str {value : Option Json} {text : String} :
    value.getD .null = .str text ↔ value = some (.str text) := by
  cases value with
  | none => simp
  | some value => simp

theorem checkClaims_objects (header payload : List (String × Json)) (input signature : String) :
    (checkClaims service primitives time ⟨.obj header, .obj payload, input, signature⟩ = .ok () ∧
        Claims service time header payload) ∨
      ¬ Claims service time header payload ∧ ∃ message code,
        checkClaims service primitives time ⟨.obj header, .obj payload, input, signature⟩ =
          .error (.authentication message code) := by
  unfold checkClaims
  simp only [getField, bind, Except.bind]
  by_cases algorithm : (Json.field header "alg").getD .null = .str "RS256"
  · rw [if_neg (not_not_intro algorithm)]
    by_cases issued : (Json.field payload "iss").getD .null = .str service.issuer
    · rw [if_neg (not_not_intro issued)]
      cases number : expiry ((Json.field payload "exp").getD .null) with
      | none =>
        refine Or.inr ⟨fun claims => ?_, _, _, rfl⟩
        obtain ⟨exp, found, -⟩ := claims.unexpired
        obtain ⟨value, present, read⟩ := Option.bind_eq_some_iff.mp found
        rw [present, Option.getD_some, read] at number
        cases number
      | some exp =>
        have found : (Json.field payload "exp").bind expiry = some exp := by
          cases present : Json.field payload "exp" with
          | none =>
            rw [present] at number
            cases number
          | some value =>
            rw [present] at number
            exact number
        dsimp only
        by_cases expired : exp < time
        · rw [if_pos expired]
          refine Or.inr ⟨fun claims => ?_, _, _, rfl⟩
          obtain ⟨other, same, later⟩ := claims.unexpired
          rw [found] at same
          cases same
          exact absurd expired (not_lt.mpr later)
        · rw [if_neg expired]
          have settled (audience) : Claims service time header payload := ⟨getD_null_eq_str.mp algorithm,
            getD_null_eq_str.mp issued, ⟨exp, found, not_lt.mp expired⟩, audience⟩
          cases configured : service.audience with
          | none => exact Or.inl ⟨rfl, settled (by simp [configured])⟩
          | some audience =>
            dsimp only
            by_cases unset : audience = ""
            · rw [if_pos unset]
              exact Or.inl ⟨rfl, settled (by simp [configured, unset])⟩
            · rw [if_neg unset]
              have same : hasAudience ((Json.field payload "aud").getD .null) audience =
                  (Json.field payload "aud").any (hasAudience · audience) := by
                cases Json.field payload "aud" <;> rfl
              rw [same]
              by_cases included : (Json.field payload "aud").any (hasAudience · audience) = true
              · rw [if_pos included]
                refine Or.inl ⟨rfl, settled fun other expected _ => ?_⟩
                rw [configured] at expected
                exact Option.some.inj expected ▸ included
              · rw [if_neg included]
                exact Or.inr ⟨fun claims => included (claims.audience audience configured unset), _, _, rfl⟩
    · rw [if_pos issued]
      exact Or.inr ⟨fun claims => issued (getD_null_eq_str.mpr claims.issuer), _, _, rfl⟩
  · rw [if_pos algorithm]
    exact Or.inr ⟨fun claims => algorithm (getD_null_eq_str.mpr claims.algorithm), _, _, rfl⟩

/-- A header of another algorithm is refused before the payload is read. -/
theorem checkClaims_algorithm {header : List (String × Json)} (payload : Json) (input signature : String)
    (other : Json.field header "alg" ≠ some (.str "RS256")) : ∃ message code,
    checkClaims service primitives time ⟨.obj header, payload, input, signature⟩ =
      .error (.authentication message code) := by
  have differs : (Json.field header "alg").getD .null ≠ .str "RS256" := fun same => other (getD_null_eq_str.mp same)
  unfold checkClaims
  simp only [getField, bind, Except.bind]
  rw [if_pos differs]
  exact ⟨_, _, rfl⟩

/-- A payload that is no object is read under the right algorithm. -/
theorem checkClaims_payload {header : List (String × Json)} {payload : Json} (input signature : String)
    (algorithm : Json.field header "alg" = some (.str "RS256")) (other : ¬ ∃ fields, payload = .obj fields) :
    checkClaims service primitives time ⟨.obj header, payload, input, signature⟩ = .error .attributeError := by
  unfold checkClaims
  simp only [getField, bind, Except.bind]
  rw [if_neg (not_not_intro (getD_null_eq_str.mpr algorithm))]
  cases payload with
  | obj fields => exact absurd ⟨fields, rfl⟩ other
  | _ => rfl

/-- On a payload the principal is built exactly when its type claim is text. -/
theorem buildPrincipal_orderly {good : AuthenticatedPrincipal → Prop} (header : Json)
    {payload : List (String × Json)} (input signature : String)
    (issuer : Json.field payload "iss" = some (.str service.issuer))
    (enough : ∀ principal, Carries payload principal → good principal) :
    Orderly good (buildPrincipal service ⟨header, .obj payload, input, signature⟩) ↔ PrincipalTyped payload := by
  unfold buildPrincipal PrincipalTyped
  simp only [getField, bind, Except.bind]
  cases found : Json.field payload "sub" with
  | none => exact iff_of_true (orderly_authentication _ _) (by simp)
  | some subject =>
    rw [Option.getD_some, Option.any_some]
    by_cases named : truthy subject = true
    case neg =>
      rw [if_pos (by simpa using named)]
      exact iff_of_true (orderly_authentication _ _) fun set => absurd set named
    case pos =>
      rw [if_neg (by simpa using named), forall_prop_of_true named]
      cases typed : (Json.field payload "principal_type").getD (.str "USER") with
      | str rawType =>
        refine iff_of_true (orderly_ok.mpr (enough _ ?_)) ⟨rawType, rfl⟩
        refine ⟨found, named, issuer, rfl, ?_, rawType, typed, rfl⟩
        cases Json.field payload "azp" with
        | none => rfl
        | some azp => by_cases set : truthy azp = true <;> simp [Option.filter, set]
      | _ => exact iff_of_false (not_orderly_error nofun) nofun

theorem concludeToken_orderly {good : AuthenticatedPrincipal → Prop} (header : Json)
    {payload : List (String × Json)} (input segment : String) (key : Jwk)
    (issuer : Json.field payload "iss" = some (.str service.issuer))
    (enough : ∀ signature principal, base64urlDecode primitives segment = some signature →
      primitives.verify key.n key.e signature input = true → Carries payload principal → good principal) :
    Orderly good (concludeToken service primitives ⟨header, .obj payload, input, segment⟩ (some key)) ↔
      SignatureTyped primitives ⟨header, .obj payload, input, segment⟩ ∧
        ∀ signature, base64urlDecode primitives segment = some signature →
          primitives.verify key.n key.e signature input = true → PrincipalTyped payload := by
  unfold concludeToken checkSignature SignatureTyped
  simp only [bind, Except.bind]
  cases decoded : base64urlDecode primitives segment with
  | none => exact iff_of_false (not_orderly_error nofun) (by simp)
  | some signature =>
    dsimp only
    cases ascii : input.toList.any (128 ≤ ·.toNat) with
    | true => exact iff_of_false (not_orderly_error nofun) (by simp)
    | false =>
      rw [if_neg Bool.false_ne_true]
      by_cases verified : primitives.verify key.n key.e signature input = true
      · rw [if_pos verified]
        have built := buildPrincipal_orderly header input segment issuer
          fun principal carries => enough signature principal decoded verified carries
        constructor
        · intro orderly
          exact ⟨⟨rfl, rfl⟩, fun _ _ _ => built.mp orderly⟩
        · rintro ⟨-, typed⟩
          exact built.mpr (typed signature rfl verified)
      · rw [if_neg verified]
        refine iff_of_true (orderly_authentication _ _) ⟨⟨rfl, rfl⟩, fun other same accepted => ?_⟩
        cases same
        exact absurd accepted verified

end Checks

/-! ## Resolving the key -/

section Keys

variable {jwks : Json} {entries : List Json}

theorem WellFormedJwks.listed (wellFormed : WellFormedJwks jwks entries) : JwksCache.entries jwks = .ok entries := by
  obtain ⟨⟨fields, same, listed⟩, -⟩ := wellFormed
  unfold JwksCache.entries
  rw [same]
  dsimp only
  rw [listed]
  rfl

theorem parseKey_object (fields : List (String × Json)) :
    (∃ key, parseKey (.obj fields) = .ok key) ∨ parseKey (.obj fields) = .error .typeError := by
  unfold parseKey
  simp only [getField, bind, Except.bind]
  split
  · split
    · exact Or.inl ⟨_, rfl⟩
    · exact Or.inr rfl
  · exact Or.inl ⟨_, rfl⟩

/-- The key objects are stored, or one of them has a `kid` that cannot be a key. -/
theorem storeKeys_outcome (objects : ∀ entry ∈ entries, ∃ fields, entry = .obj fields) (keys : Dict Json Jwk) :
    ((∀ entry ∈ entries, ∃ key, parseKey entry = .ok key) ∧ (storeKeys entries keys).1 = .ok ()) ∨
      (¬ ∀ entry ∈ entries, ∃ key, parseKey entry = .ok key) ∧
        (storeKeys entries keys).1 = .error .typeError := by
  induction entries generalizing keys with
  | nil => exact Or.inl ⟨by simp, rfl⟩
  | cons entry rest ih =>
    obtain ⟨fields, rfl⟩ := objects _ List.mem_cons_self
    have later := ih fun other member => objects other (List.mem_cons_of_mem _ member)
    unfold storeKeys
    rcases parseKey_object fields with ⟨key, parsed⟩ | refused
    · simp only [List.forall_mem_cons, parsed, Except.ok.injEq, exists_eq', true_and]
      cases key with
      | none => exact later keys
      | some key => exact later (keys.set key.kid.canonical key)
    · simp only [List.forall_mem_cons, refused, reduceCtorEq, exists_false, false_and, not_false_eq_true, true_and,
        false_or]

theorem setFromJwks_stored (wellFormed : WellFormedJwks jwks entries) (cache : JwksCache) (monotonic : Rat) :
    (cache.setFromJwks jwks monotonic).1 = (storeKeys entries .empty).1 ∧
      (cache.setFromJwks jwks monotonic).2.keys = (storeKeys entries .empty).2 := by
  unfold setFromJwks
  rw [wellFormed.listed]
  rcases stored : storeKeys entries .empty with ⟨outcome, keys⟩
  cases outcome with
  | error raised => simp [stored]
  | ok done => simp [stored]

/-- A `kid` that the cache has no key for is looked up in the published set. -/
theorem resolveKey_missed (wellFormed : WellFormedJwks jwks entries) (monotonic : Rat) {cache : JwksCache}
    {header : List (String × Json)} (missed : cache.get (headerKid header) = .ok none)
    (lookup : truthy (headerKid header) = true → hashable (headerKid header) = true) :
    ((∀ entry ∈ entries, ∃ key, parseKey entry = .ok key) ∧
        (resolveKey (.ok jwks) monotonic cache (.obj header)).1 =
          .ok (if truthy (headerKid header) then
            (storeKeys entries .empty).2.get? (headerKid header).canonical else none)) ∨
      (¬ ∀ entry ∈ entries, ∃ key, parseKey entry = .ok key) ∧
        (resolveKey (.ok jwks) monotonic cache (.obj header)).1 = .error .typeError := by
  have named : getField (.obj header) "kid" = .ok (headerKid header) := rfl
  obtain ⟨outcome, keys⟩ := setFromJwks_stored wellFormed cache monotonic
  unfold resolveKey
  rw [named]
  dsimp only
  rw [missed]
  dsimp only
  rcases stored : cache.setFromJwks jwks monotonic with ⟨result, refreshed⟩
  rw [stored] at outcome keys
  rcases storeKeys_outcome wellFormed.2 .empty with ⟨typed, done⟩ | ⟨untyped, raised⟩
  · rw [done] at outcome
    cases outcome
    refine Or.inl ⟨typed, ?_⟩
    dsimp only
    unfold JwksCache.get
    rw [← keys]
    cases set : truthy (headerKid header) with
    | false => rfl
    | true =>
      rw [lookup set]
      rfl
  · rw [raised] at outcome
    cases outcome
    exact Or.inr ⟨untyped, rfl⟩

/-- The key of a header is resolved exactly when the `kid` values are typed. -/
theorem resolveKey_cases (wellFormed : WellFormedJwks jwks entries) (monotonic : Rat) (cache : JwksCache)
    (header : List (String × Json)) :
    (KidsTyped cache entries (headerKid header) ∧ (resolveKey (.ok jwks) monotonic cache (.obj header)).1 =
        .ok (keyFor cache entries (headerKid header))) ∨
      ¬ KidsTyped cache entries (headerKid header) ∧
        (resolveKey (.ok jwks) monotonic cache (.obj header)).1 = .error .typeError := by
  have named : getField (.obj header) "kid" = .ok (headerKid header) := rfl
  by_cases set : truthy (headerKid header) = true
  · by_cases lookup : hashable (headerKid header) = true
    · have looked : cache.get (headerKid header) = .ok (cache.keys.get? (headerKid header).canonical) := by
        unfold JwksCache.get
        rw [if_neg (by simpa using set), if_pos lookup]
      unfold keyFor
      rw [if_pos set]
      cases cached : cache.keys.get? (headerKid header).canonical with
      | some key =>
        rw [cached] at looked
        refine Or.inl ⟨⟨fun _ => lookup, fun missed => ?_⟩, ?_⟩
        · rw [missed set] at cached
          cases cached
        · unfold resolveKey
          rw [named]
          dsimp only
          rw [looked]
          rfl
      | none =>
        rw [cached] at looked
        rcases resolveKey_missed wellFormed monotonic looked fun _ => lookup with ⟨typed, resolved⟩ | ⟨untyped, raised⟩
        · rw [if_pos set] at resolved
          exact Or.inl ⟨⟨fun _ => lookup, fun _ => typed⟩, resolved⟩
        · exact Or.inr ⟨fun kids => untyped (kids.listed fun _ => cached), raised⟩
    · refine Or.inr ⟨fun kids => lookup (kids.lookup set), ?_⟩
      have refused : cache.get (headerKid header) = .error .typeError := by
        unfold JwksCache.get
        rw [if_neg (by simpa using set), if_neg lookup]
      unfold resolveKey
      rw [named]
      dsimp only
      rw [refused]
  · have missed : cache.get (headerKid header) = .ok none := by
      unfold JwksCache.get
      rw [if_pos (by simpa using set)]
    have unset : keyFor cache entries (headerKid header) = none := if_neg set
    rcases resolveKey_missed wellFormed monotonic missed fun held => absurd held set with
      ⟨typed, resolved⟩ | ⟨untyped, raised⟩
    · rw [if_neg set] at resolved
      exact Or.inl ⟨⟨fun held => absurd held set, fun _ => typed⟩, unset ▸ resolved⟩
    · exact Or.inr ⟨fun kids => untyped (kids.listed fun held => absurd held set), raised⟩

/-- Every stored key is listed, under its own `kid`. -/
def Filled (jwks : Json) (keys : Dict Json Jwk) : Prop :=
  ∀ kid key, keys.get? kid = some key → key ∈ listedKeys jwks ∧ key.kid.canonical = kid

theorem storeKeys_canonical {listed : List Json} {keys : Dict Json Jwk}
    (before : ∀ kid key, keys.get? kid = some key → key.kid.canonical = kid) :
    ∀ kid key, (storeKeys listed keys).2.get? kid = some key → key.kid.canonical = kid := by
  induction listed generalizing keys with
  | nil => exact before
  | cons entry rest ih =>
    unfold storeKeys
    split
    · rename_i parsed description
      refine ih fun kid key found => ?_
      rw [Dict.get?_set] at found
      split at found
      · rename_i same
        cases found
        exact same.symm
      · exact before kid key found
    · exact ih before
    · exact before

theorem filled_setFromJwks (cache : JwksCache) (wellFormed : WellFormedJwks jwks entries) (monotonic : Rat) :
    Filled jwks (cache.setFromJwks jwks monotonic).2.keys := by
  intro kid key found
  refine ⟨(setFromJwks_listed cache jwks monotonic).1 kid key found, ?_⟩
  rw [(setFromJwks_stored wellFormed cache monotonic).2] at found
  exact storeKeys_canonical (by simp) kid key found

theorem ServedKeys.filled {service : AuthenticationService} {primitives : TokenPrimitives} {cache : JwksCache}
    (wellFormed : WellFormedJwks jwks entries) (served : ServedKeys service primitives jwks cache) :
    Filled jwks cache.keys := by
  induction served with
  | created refreshSeconds => simp [Filled, empty]
  | @validated cache monotonic time token before ih =>
    rcases validated_cache service primitives ⟨monotonic, jwks, [], cache⟩ ⟨time, token⟩ with same | fetched
    · exact same ▸ ih
    · exact fetched ▸ filled_setFromJwks cache wellFormed monotonic

theorem keyFor_listed {cache : JwksCache} (wellFormed : WellFormedJwks jwks entries) (filled : Filled jwks cache.keys)
    {kid : Json} {key : Jwk} (resolved : keyFor cache entries kid = some key) :
    key ∈ listedKeys jwks ∧ key.kid.canonical = kid.canonical := by
  unfold keyFor at resolved
  split at resolved
  · rcases Option.or_eq_some_iff.mp resolved with cached | ⟨-, stored⟩
    · exact filled _ key cached
    · refine filled_setFromJwks (.empty 0) wellFormed 0 _ key ?_
      rw [(setFromJwks_stored wellFormed (.empty 0) 0).2]
      exact stored
  · cases resolved

theorem kid_of_keyFor {cache : JwksCache} {header : List (String × Json)} {key : Jwk}
    (resolved : keyFor cache entries (headerKid header) = some key) :
    Json.field header "kid" = some (headerKid header) := by
  unfold headerKid at resolved ⊢
  cases named : Json.field header "kid" with
  | none =>
    rw [named] at resolved
    cases resolved
  | some kid => rfl

end Keys

/-! ## Every token -/

theorem decodeToken_cases (primitives : TokenPrimitives) (token : String) :
    (∃ message code, decodeToken primitives token = .error (.authentication message code)) ∨
      ∃ first second third header payload, Text.split '.' token = [first, second, third] ∧
        (base64urlDecode primitives first).bind primitives.loads = some header ∧
        (base64urlDecode primitives second).bind primitives.loads = some payload ∧
        decodeToken primitives token = .ok ⟨header, payload, first ++ "." ++ second, third⟩ := by
  unfold decodeToken
  split
  · rename_i first second third segments
    split
    · rename_i header payload headed loaded
      exact Or.inr ⟨first, second, third, header, payload, segments, headed, loaded, rfl⟩
    · exact Or.inl ⟨_, _, rfl⟩
  · exact Or.inl ⟨_, _, rfl⟩

section Tokens

variable {service : AuthenticationService} {primitives : TokenPrimitives} {jwks : Json} {entries : List Json}
  {cache : JwksCache} {time : Rat}

/-- The outcome after decoding. -/
theorem orderly_of_decoded {good : AuthenticatedPrincipal → Prop} {token : String} {decoded : DecodedToken}
    (monotonic : Rat) (decodes : decodeToken primitives token = .ok decoded) :
    Orderly good (validate service primitives (.ok jwks) monotonic time cache token).1 ↔
      Orderly good (match checkClaims service primitives time decoded with
        | .error raised => .error raised
        | .ok () =>
          match (resolveKey (.ok jwks) monotonic cache decoded.header).1 with
          | .error raised => .error raised
          | .ok key => concludeToken service primitives decoded key) := by
  unfold validate admitToken
  simp only [decodes, bind, Except.bind]
  cases checkClaims service primitives time decoded with
  | error raised => rfl
  | ok done =>
    dsimp only
    rcases resolveKey (.ok jwks) monotonic cache decoded.header with ⟨outcome, refreshed⟩
    cases outcome <;> rfl

end Tokens

/-- The outside as far as a token with a list for a header needs it; bytes are named by their padded base64 text. -/
def listHeaderPrimitives : TokenPrimitives where
  Bytes := String
  urlsafeB64decode := some
  loads := fun bytes => if bytes = "W10=" then some (.arr []) else if bytes = "e30=" then some (.obj []) else none
  str := fun _ => ""
  verify := fun _ _ _ _ => false

theorem wellFormed_sampleJwks :
    WellFormedJwks sampleJwks [.obj [("kid", .str "key-1"), ("n", .str sampleModulus), ("e", .str "AQAB")]] :=
  ⟨⟨_, rfl, rfl⟩, fun _ member => ⟨_, List.mem_singleton.mp member⟩⟩

end AiGovernance.Tenancy
