import AiGovernance.Domain.Errors
import AiGovernance.Services.Authentication
import Mathlib.Tactic.Linarith

/-!
# Withdrawn signing keys

The issuer replaces its key set, time goes on, and tokens are validated in any
order. A token that only withdrawn keys verify is refused exactly as long as no
call finds such a key in the cache; a key found there before the cache is due
for a refresh is still published within the window.
-/

namespace AiGovernance.Tenancy

open AiGovernance.Std

/-- The keys a JWKS lists. -/
def listedKeys (jwks : Json) : List Jwk :=
  match JwksCache.entries jwks with
  | .ok entries => entries.filterMap fun entry =>
    match JwksCache.parseKey entry with
    | .ok key => key
    | .error _ => none
  | .error _ => []

/-- The clock, the published key set, those it has replaced with the time of each replacement, and the cache. -/
structure KeyWorld where
  monotonic : Rat
  published : Json
  retired : List (Rat × Json)
  cache : JwksCache

namespace KeyWorld

/-- A key set has been published during the last `jwks_refresh_seconds`. -/
def Within (world : KeyWorld) (jwks : Json) : Prop :=
  jwks = world.published ∨
    ∃ time, (time, jwks) ∈ world.retired ∧ world.monotonic - world.cache.refreshSeconds < time

/-- A key set published during the window lists the key. -/
def Publishes (world : KeyWorld) (key : Jwk) : Prop := ∃ jwks, world.Within jwks ∧ key ∈ listedKeys jwks

end KeyWorld

/-- One call of `validate`: the token, and the time of the call. -/
structure ValidationCall where
  time : Rat
  token : String

section Runs

variable (service : AuthenticationService) (primitives : TokenPrimitives)

/-- A call in a world, when fetching the key set succeeds. -/
def validated (world : KeyWorld) (call : ValidationCall) : Except TokenError AuthenticatedPrincipal × JwksCache :=
  validate service primitives (.ok world.published) world.monotonic call.time world.cache call.token

/-- Runs, with the world each call has found. -/
inductive KeyRuns (start : KeyWorld) : List (KeyWorld × ValidationCall) → KeyWorld → Prop where
  | start : KeyRuns start [] start
  | publish {calls : List (KeyWorld × ValidationCall)} {world : KeyWorld} (jwks : Json)
      (before : KeyRuns start calls world) :
      KeyRuns start calls
        { world with published := jwks, retired := (world.monotonic, world.published) :: world.retired }
  | advance {calls : List (KeyWorld × ValidationCall)} {world : KeyWorld} (monotonic : Rat)
      (before : KeyRuns start calls world) (later : world.monotonic ≤ monotonic) :
      KeyRuns start calls { world with monotonic }
  | validate {calls : List (KeyWorld × ValidationCall)} {world : KeyWorld} (call : ValidationCall)
      (before : KeyRuns start calls world) :
      KeyRuns start (calls ++ [(world, call)]) { world with cache := (validated service primitives world call).2 }

/-- The signature of a token verifies under a key. -/
def VerifiesUnder (token : String) (key : Jwk) : Prop :=
  ∃ decoded, decodeToken primitives token = .ok decoded ∧ checkSignature primitives decoded key = .ok ()

/-- No key published during the window verifies the token. -/
def Withdrawn (world : KeyWorld) (token : String) : Prop :=
  ∀ key, VerifiesUnder primitives token key → ¬ world.Publishes key

/-- A token that only withdrawn keys verify is not accepted. -/
def Distrusts (world : KeyWorld) (call : ValidationCall) : Prop :=
  Withdrawn primitives world call.token → ∀ principal, (validated service primitives world call).1 ≠ .ok principal

/-- Where the cache is due for a refresh and holds a key under which the call would accept the token, a key that
verifies the token is still published during the window. -/
def StaleHitVouched (world : KeyWorld) (call : ValidationCall) : Prop :=
  ∀ decoded kid key principal, world.cache.isExpired world.monotonic = true →
    admitToken service primitives call.time call.token = .ok decoded →
    getField decoded.header "kid" = .ok kid → world.cache.get kid = .ok (some key) →
    concludeToken service primitives decoded (some key) = .ok principal →
    ∃ vouching, VerifiesUnder primitives call.token vouching ∧ world.Publishes vouching

end Runs

/-- The service has just been made. -/
structure KeyWorld.Initial (world : KeyWorld) : Prop where
  retired : world.retired = []
  keys : world.cache.keys = .empty
  fetchedAt : world.cache.fetchedAt = 0
  monotonic : 0 ≤ world.monotonic

/-! ## What the cache holds -/

/-- What the loop has stored was stored before or is described by an entry. -/
theorem storeKeys_get? {listed : List Json} {keys : Dict Json Jwk} {kid : Json} {key : Jwk}
    (found : (JwksCache.storeKeys listed keys).2.get? kid = some key) :
    keys.get? kid = some key ∨ ∃ entry ∈ listed, JwksCache.parseKey entry = .ok (some key) := by
  induction listed generalizing keys with
  | nil => exact Or.inl found
  | cons entry rest ih =>
    unfold JwksCache.storeKeys at found
    split at found
    · rename_i parsed description
      rcases ih found with before | ⟨other, member, described⟩
      · rw [Dict.get?_set] at before
        split at before
        · cases before
          exact Or.inr ⟨entry, List.mem_cons_self, description⟩
        · exact Or.inl before
      · exact Or.inr ⟨other, List.mem_cons_of_mem _ member, described⟩
    · rcases ih found with before | ⟨other, member, described⟩
      · exact Or.inl before
      · exact Or.inr ⟨other, List.mem_cons_of_mem _ member, described⟩
    · exact Or.inl found

/-- What one call of `set_from_jwks` leaves: keys of the set, and the time of this fetch or of the last one. -/
theorem setFromJwks_listed (cache : JwksCache) (jwks : Json) (monotonic : Rat) :
    (∀ kid key, (cache.setFromJwks jwks monotonic).2.keys.get? kid = some key → key ∈ listedKeys jwks) ∧
      ((cache.setFromJwks jwks monotonic).2.fetchedAt = cache.fetchedAt ∨
        (cache.setFromJwks jwks monotonic).2.fetchedAt = monotonic) ∧
      (cache.setFromJwks jwks monotonic).2.refreshSeconds = cache.refreshSeconds := by
  unfold JwksCache.setFromJwks
  cases read : JwksCache.entries jwks with
  | error raised => exact ⟨by simp, Or.inl rfl, rfl⟩
  | ok listed =>
    have stored : ∀ kid key, (JwksCache.storeKeys listed .empty).2.get? kid = some key → key ∈ listedKeys jwks := by
      intro kid key found
      rcases storeKeys_get? found with before | ⟨entry, member, described⟩
      · cases before
      · unfold listedKeys
        rw [read]
        refine List.mem_filterMap.mpr ⟨entry, member, ?_⟩
        rw [described]
    rcases loop : JwksCache.storeKeys listed .empty with ⟨outcome, keys⟩
    rw [loop] at stored
    simp only [loop]
    cases outcome with
    | error raised => exact ⟨stored, Or.inl rfl, rfl⟩
    | ok done => exact ⟨stored, Or.inr rfl, rfl⟩

theorem resolveKey_cache (jwks : Json) (monotonic : Rat) (cache : JwksCache) (header : Json) :
    (resolveKey (.ok jwks) monotonic cache header).2 = cache ∨
      (resolveKey (.ok jwks) monotonic cache header).2 = (cache.setFromJwks jwks monotonic).2 := by
  unfold resolveKey
  split
  · exact Or.inl rfl
  · split
    · exact Or.inl rfl
    · exact Or.inl rfl
    · rcases filled : cache.setFromJwks jwks monotonic with ⟨outcome, refreshed⟩
      simp only [filled]
      cases outcome with
      | error raised => exact Or.inr rfl
      | ok done => exact Or.inr rfl

theorem validated_cache (service : AuthenticationService) (primitives : TokenPrimitives) (world : KeyWorld)
    (call : ValidationCall) :
    (validated service primitives world call).2 = world.cache ∨
      (validated service primitives world call).2 = (world.cache.setFromJwks world.published world.monotonic).2 := by
  unfold validated validate
  split
  · exact Or.inl rfl
  · rename_i decoded admitted
    have resolved := resolveKey_cache world.published world.monotonic world.cache decoded.header
    split
    · rename_i raised refreshed outcome
      rw [outcome] at resolved
      exact resolved
    · rename_i jwk refreshed outcome
      rw [outcome] at resolved
      exact resolved

/-- Every cached key was listed by a set that was still published when the cache was last filled. -/
structure CacheListed (world : KeyWorld) : Prop where
  fetched : world.cache.fetchedAt ≤ world.monotonic
  listed : ∀ kid key, world.cache.keys.get? kid = some key → ∃ jwks, key ∈ listedKeys jwks ∧
    (jwks = world.published ∨ ∃ time, (time, jwks) ∈ world.retired ∧ world.cache.fetchedAt ≤ time)

theorem KeyWorld.Initial.cacheListed {world : KeyWorld} (initial : world.Initial) : CacheListed world where
  fetched := initial.fetchedAt ▸ initial.monotonic
  listed := by
    intro kid key found
    rw [initial.keys] at found
    cases found

section Runs

variable {service : AuthenticationService} {primitives : TokenPrimitives} {start final world : KeyWorld}
  {calls : List (KeyWorld × ValidationCall)}

theorem KeyRuns.cacheListed (runs : KeyRuns service primitives start calls final) (initial : start.Initial) :
    CacheListed final ∧ ∀ entry ∈ calls, CacheListed entry.1 := by
  induction runs with
  | start => exact ⟨initial.cacheListed, nofun⟩
  | publish jwks before ih =>
    obtain ⟨holds, earlier⟩ := ih
    refine ⟨⟨holds.fetched, ?_⟩, earlier⟩
    intro kid key found
    obtain ⟨set, member, published | ⟨time, retired, later⟩⟩ := holds.listed kid key found
    · exact ⟨set, member, Or.inr ⟨_, published ▸ List.mem_cons_self, holds.fetched⟩⟩
    · exact ⟨set, member, Or.inr ⟨time, List.mem_cons_of_mem _ retired, later⟩⟩
  | advance monotonic before later ih =>
    obtain ⟨holds, earlier⟩ := ih
    exact ⟨⟨le_trans holds.fetched later, holds.listed⟩, earlier⟩
  | @validate calls world call before ih =>
    obtain ⟨holds, earlier⟩ := ih
    refine ⟨?_, ?_⟩
    · rcases validated_cache service primitives world call with same | filled
      · rw [same]
        exact holds
      · obtain ⟨listed, fetched, -⟩ := setFromJwks_listed world.cache world.published world.monotonic
        rw [filled]
        refine ⟨?_, fun kid key found => ⟨world.published, listed kid key found, Or.inl rfl⟩⟩
        rcases fetched with old | new
        · exact old ▸ holds.fetched
        · exact le_of_eq new
    · intro entry member
      rcases List.mem_append.mp member with old | new
      · exact earlier entry old
      · rw [List.mem_singleton.mp new]
        exact holds

variable {kid : Json} {key : Jwk}

theorem keys_of_get {cache : JwksCache} (hit : cache.get kid = .ok (some key)) :
    cache.keys.get? kid.canonical = some key := by
  unfold JwksCache.get at hit
  split at hit
  · cases hit
  · split at hit
    · exact Except.ok.inj hit
    · cases hit

theorem CacheListed.publishes (listed : CacheListed world) (fresh : world.cache.isExpired world.monotonic = false)
    (hit : world.cache.get kid = .ok (some key)) : world.Publishes key := by
  have age : world.monotonic - world.cache.fetchedAt < world.cache.refreshSeconds := by
    unfold JwksCache.isExpired at fresh
    exact not_le.mp (of_decide_eq_false fresh)
  obtain ⟨jwks, member, published | ⟨time, retired, later⟩⟩ := listed.listed _ key (keys_of_get hit)
  · exact ⟨jwks, Or.inl published, member⟩
  · exact ⟨jwks, Or.inr ⟨time, retired, by linarith⟩, member⟩

/-! ## Acceptance -/

variable {call : ValidationCall}

/-- The key under which a token is accepted verifies it. -/
theorem verifiesUnder_of_conclude {decoded : DecodedToken} {principal : AuthenticatedPrincipal}
    (admitted : admitToken service primitives call.time call.token = .ok decoded)
    (concluded : concludeToken service primitives decoded (some key) = .ok principal) :
    VerifiesUnder primitives call.token key := by
  obtain ⟨token, decodes, rest⟩ := Domain.bind_ok admitted
  obtain ⟨-, -, same⟩ := Domain.bind_ok rest
  cases same
  obtain ⟨⟨⟩, verified, -⟩ := Domain.bind_ok concluded
  exact ⟨decoded, decodes, verified⟩

/-- A token is accepted under a key that was in the cache, or under one that was just fetched. -/
theorem accepted_cases {principal : AuthenticatedPrincipal}
    (accepted : (validated service primitives world call).1 = .ok principal) :
    ∃ decoded kid key, admitToken service primitives call.time call.token = .ok decoded ∧
      getField decoded.header "kid" = .ok kid ∧ concludeToken service primitives decoded (some key) = .ok principal ∧
      (world.cache.get kid = .ok (some key) ∨ key ∈ listedKeys world.published) := by
  unfold validated validate at accepted
  split at accepted
  · cases accepted
  · rename_i decoded admitted
    split at accepted
    · cases accepted
    · rename_i jwk refreshed resolved
      cases jwk with
      | none => cases accepted
      | some key =>
        unfold resolveKey at resolved
        split at resolved
        · cases resolved
        · rename_i kid named
          refine ⟨decoded, kid, key, admitted, named, accepted, ?_⟩
          split at resolved
          · cases resolved
          · rename_i cached hit
            cases resolved
            exact Or.inl hit
          · simp only at resolved
            split at resolved
            · cases resolved
            · rename_i filled stored
              have listed := (setFromJwks_listed world.cache world.published world.monotonic).1
              rw [stored] at listed
              have looked : filled.get kid = .ok (some key) := congrArg Prod.fst resolved
              exact Or.inr (listed _ key (keys_of_get looked))

/-- A key that the call finds in the cache decides. -/
theorem accepted_of_hit {decoded : DecodedToken}
    (admitted : admitToken service primitives call.time call.token = .ok decoded)
    (named : getField decoded.header "kid" = .ok kid) (hit : world.cache.get kid = .ok (some key)) :
    (validated service primitives world call).1 = concludeToken service primitives decoded (some key) := by
  simp only [validated, validate, admitted, resolveKey, named, hit]

/-- One call: the law holds exactly when a stale hit is vouched for. -/
theorem distrusts_iff (listed : CacheListed world) (call : ValidationCall) :
    Distrusts service primitives world call ↔ StaleHitVouched service primitives world call := by
  constructor
  · intro distrusts decoded kid key principal _ admitted named hit concluded
    by_contra unvouched
    have withdrawn : Withdrawn primitives world call.token := fun other verifies publishes =>
      unvouched ⟨other, verifies, publishes⟩
    refine distrusts withdrawn principal ?_
    rw [accepted_of_hit admitted named hit]
    exact concluded
  · intro vouched withdrawn principal accepted
    obtain ⟨decoded, kid, key, admitted, named, concluded, hit | fetched⟩ := accepted_cases accepted
    · cases stale : world.cache.isExpired world.monotonic with
      | true =>
        obtain ⟨other, verifies, publishes⟩ := vouched decoded kid key principal stale admitted named hit concluded
        exact withdrawn other verifies publishes
      | false =>
        exact withdrawn key (verifiesUnder_of_conclude admitted concluded) (listed.publishes stale hit)
    · exact withdrawn key (verifiesUnder_of_conclude admitted concluded) ⟨world.published, Or.inl rfl, fetched⟩

end Runs

/-- The modulus of a signing key. -/
def sampleModulus : String :=
  "1e8gbE_GcAjqVC6sQ4Db1Hu2hwqYZJM3Lds4rxzl0JdXd9OJ88bIUPjD55M4e6jK35W_aNMaFoG4hP1hIlLZR83pL-FBZX9MtRZl" ++
    "vsuYkDUKQrFaYel60f6ZkGbqptHaR1pCayyixhBrMKq-1oUEojBZ62SvqKhw1x8HiBezEls"

/-- The header and the payload of a token that the key has signed. -/
def sampleInput : String :=
  "eyJhbGciOiJSUzI1NiIsImtpZCI6ImtleS0xIn0." ++
    "eyJpc3MiOiJodHRwczovL2lkLmV4YW1wbGUiLCJzdWIiOiJ1c2VyLTEiLCJleHAiOjIwMDB9"

/-- The signature of the token, padded. -/
def sampleSignature : String :=
  "LpZep1dxs29_FCPtLF9TwhbbHBcTgQAee40B02abOG_LuLaqqmKqTVlEgG5edQYJ7rbqOUv7gyE_C63aRquVXA6Z89sBuXPfm_AC" ++
    "Dn0fb95mQ7Wzuqde_YaQ7m7Ia8dtLlrOxid_jZrKzjti-QNXfRCplTzxypLIJPrNTXJjDsM="

/-- The token; its last segment is not padded. -/
def sampleToken : String := sampleInput ++ "." ++ String.ofList (sampleSignature.toList.dropLast)

/-- The outside on the sample; bytes are named by their padded base64 text. -/
def samplePrimitives : TokenPrimitives where
  Bytes := String
  urlsafeB64decode := some
  loads := fun bytes =>
    if bytes = "eyJhbGciOiJSUzI1NiIsImtpZCI6ImtleS0xIn0=" then
      some (.obj [("alg", .str "RS256"), ("kid", .str "key-1")])
    else if bytes = "eyJpc3MiOiJodHRwczovL2lkLmV4YW1wbGUiLCJzdWIiOiJ1c2VyLTEiLCJleHAiOjIwMDB9" then
      some (.obj [("iss", .str "https://id.example"), ("sub", .str "user-1"), ("exp", .int 2000)])
    else none
  str := fun _ => ""
  verify := fun modulus exponent signature input =>
    modulus = .str sampleModulus && exponent = .str "AQAB" && signature = sampleSignature && input = sampleInput

/-- The service of the sample. -/
def sampleService : AuthenticationService := .create "https://id.example/" none

/-- A set with the key. -/
def sampleJwks : Json :=
  .obj [("keys", .arr [.obj [("kid", .str "key-1"), ("n", .str sampleModulus), ("e", .str "AQAB")]])]

/-- The set after the key is withdrawn. -/
def emptyJwks : Json := .obj [("keys", .arr [])]

/-- The service is made, with a window of 300 seconds. -/
def sampleStart : KeyWorld := ⟨100, sampleJwks, [], .empty 300⟩

/-- A call with the token. -/
def sampleCall : ValidationCall := ⟨1000, sampleToken⟩

/-- The token was validated. -/
def sampleCached : KeyWorld :=
  { sampleStart with cache := (validated sampleService samplePrimitives sampleStart sampleCall).2 }

/-- After that the key was withdrawn. -/
def sampleReplaced : KeyWorld :=
  { sampleCached with
    published := emptyJwks
    retired := (sampleCached.monotonic, sampleCached.published) :: sampleCached.retired }

/-- It got later. -/
def sampleWithdrawn (monotonic : Rat) : KeyWorld := { sampleReplaced with monotonic }

/-- The token is validated before and after the key is withdrawn. -/
def sampleCalls (monotonic : Rat) : List (KeyWorld × ValidationCall) :=
  [(sampleStart, sampleCall), (sampleWithdrawn monotonic, sampleCall)]

theorem sampleStart_initial : sampleStart.Initial := ⟨rfl, rfl, rfl, by decide +kernel⟩

theorem sampleCalls_run {monotonic : Rat} (later : 100 ≤ monotonic) :
    ∃ final, KeyRuns sampleService samplePrimitives sampleStart (sampleCalls monotonic) final := by
  have cached : KeyRuns sampleService samplePrimitives sampleStart ([] ++ [(sampleStart, sampleCall)]) sampleCached :=
    .validate sampleCall .start
  have replaced : KeyRuns sampleService samplePrimitives sampleStart ([] ++ [(sampleStart, sampleCall)])
      sampleReplaced := cached.publish emptyJwks
  have withdrawn : KeyRuns sampleService samplePrimitives sampleStart ([] ++ [(sampleStart, sampleCall)])
      (sampleWithdrawn monotonic) := replaced.advance monotonic later
  have again := withdrawn.validate sampleCall
  rw [List.nil_append, List.cons_append, List.nil_append] at again
  exact ⟨_, again⟩

end AiGovernance.Tenancy
