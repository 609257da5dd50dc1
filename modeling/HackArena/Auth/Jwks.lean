import HackArena.Lib.Programs
import HackArena.Lib.Text
import HackArena.Services.Status

/-!
# Token validation against a key set

Tokens are validated with the keys of an endpoint. The keys are kept for
five minutes; one caller at a time refreshes them, under a lock, and falls
back to the old ones if that fails. The token library is a parameter.
-/

namespace HackArena.Auth

open Services

def jwksCacheTtlMs : ℕ := 300000

/-! ## Tokens -/

inductive Algorithm where
  | hs256 | hs384 | hs512 | es256 | es384 | rs256 | rs384 | rs512 | ps256 | ps384 | ps512 | edDsa
  deriving DecidableEq, Repr

structure JwtHeader where
  alg : Algorithm
  kid : Option String
  deriving DecidableEq, Repr

/-- The settings of a validation; a token needs an `exp` claim if required. -/
structure Validation where
  algorithm : Algorithm
  audience : List String
  issuers : List String
  validateExp : Bool
  requiresExp : Bool
  deriving DecidableEq, Repr

/-- The functions of the token library; `decode` reads the clock. -/
structure JwtLibrary (Key Claims : Type) where
  decodeHeader : String → Option JwtHeader
  fromEcComponents : (x y : String) → Option Key
  decode : (token : String) → Key → Validation → (nowSec : ℕ) → Except String Claims

/-! ## Keys -/

structure Jwk where
  kty : String
  kid : Option String
  crv : Option String
  x : Option String
  y : Option String
  deriving DecidableEq, Repr

structure Jwks where
  keys : List Jwk
  deriving DecidableEq, Repr

inductive JwkKeyType where
  | ec | other
  deriving DecidableEq, Repr

inductive JwkEcCurve where
  | p256 | other
  deriving DecidableEq, Repr

inductive JwtAlgorithm where
  | es256 | other
  deriving DecidableEq, Repr

/-- A key as the endpoint sends it; an unknown number is `none`. -/
structure GameTokenJwk where
  kty : Option JwkKeyType
  crv : Option JwkEcCurve
  alg : Option JwtAlgorithm
  kid : String
  x : String
  y : String
  deriving DecidableEq, Repr

def mapProtoJwk (entry : GameTokenJwk) : Option Jwk :=
  if entry.kty ≠ some .ec then none
  else if entry.crv ≠ some .p256 then none
  else if entry.alg ≠ some .es256 then none
  else
    let x := Text.trim entry.x
    let y := Text.trim entry.y
    if x = "" ∨ y = "" then none
    else
      let kid := Text.trim entry.kid
      some ⟨"EC", if kid = "" then none else some kid, some "P-256", some x, some y⟩

/-- The key set of a response, unless it has no key that can be used. -/
def usableKeys (entries : List GameTokenJwk) : Option Jwks :=
  let keys := entries.filterMap mapProtoJwk
  if keys.isEmpty then none else some ⟨keys⟩

section Keys

variable {Key Claims : Type} (lib : JwtLibrary Key Claims)

def jwkToKey (jwk : Jwk) : Except Status Key :=
  if jwk.kty ≠ "EC" then .error ⟨.unauthenticated, "unsupported jwk"⟩
  else if jwk.crv ≠ some "P-256" then .error ⟨.unauthenticated, "unsupported jwk curve"⟩
  else match jwk.x, jwk.y with
    | some x, some y =>
        match lib.fromEcComponents x y with
        | some key => .ok key
        | none => .error ⟨.unauthenticated, "invalid jwk"⟩
    | _, _ => .error ⟨.unauthenticated, "invalid jwk"⟩

end Keys

/-- The keys that are tried on a token: those with its `kid`, or all. -/
def candidates (header : JwtHeader) (jwks : Jwks) : List Jwk :=
  let named := match header.kid with
    | some kid => jwks.keys.filter fun jwk => jwk.kid = some kid
    | none => jwks.keys
  if named.isEmpty then jwks.keys else named

theorem mem_of_mem_candidates {header : JwtHeader} {jwks : Jwks} {jwk : Jwk}
    (h : jwk ∈ candidates header jwks) : jwk ∈ jwks.keys := by
  cases hkid : header.kid with
  | none =>
      rw [candidates, hkid] at h
      dsimp only at h
      rwa [ite_self] at h
  | some kid =>
      rw [candidates, hkid] at h
      dsimp only at h
      split at h
      · exact h
      · exact (List.mem_filter.mp h).1

theorem mapProtoJwk_of_usableKeys {entries : List GameTokenJwk} {jwks : Jwks}
    (h : usableKeys entries = some jwks) {jwk : Jwk} (hjwk : jwk ∈ jwks.keys) :
    ∃ entry ∈ entries, mapProtoJwk entry = some jwk := by
  unfold usableKeys at h
  dsimp only at h
  split at h
  · cases h
  · obtain rfl := Option.some.inj h
    exact List.mem_filterMap.mp hjwk

/-- Keys come from entries for ES256 on the curve P-256. -/
theorem es256_of_mapProtoJwk {entry : GameTokenJwk} {jwk : Jwk}
    (h : mapProtoJwk entry = some jwk) :
    entry.kty = some .ec ∧ entry.crv = some .p256 ∧ entry.alg = some .es256 := by
  unfold mapProtoJwk at h
  split at h
  · cases h
  · rename_i hkty
    split at h
    · cases h
    · rename_i hcrv
      split at h
      · cases h
      · rename_i halg
        exact ⟨not_not.mp hkty, not_not.mp hcrv, not_not.mp halg⟩

/-! ## The cache -/

inductive FetchError where
  | elapsed
  | status (status : Status)

structure JwksState where
  jwks : Option Jwks
  fetchedAt : Option ℕ
  locked : Bool
  now : ℕ

def JwksState.new : JwksState := ⟨none, none, false, 0⟩

/-- The calls on the cache, the fetch lock, the endpoint and the clock. A
fetch is sent by one call and awaited by the next. -/
inductive JwksOp where
  | readCache
  | lock
  | unlock
  | startFetch
  | awaitFetch
  | store (jwks : Jwks)
  | readStale
  | wallClock

/-- The cached keys with the time of their fetch, and the time of the read. -/
structure CacheRead where
  cached : Option (Jwks × ℕ)
  now : ℕ

abbrev JwksOp.Answer : JwksOp → Type
  | .readCache => CacheRead
  | .awaitFetch => Except FetchError (List GameTokenJwk)
  | .store _ => ℕ
  | .readStale => Option Jwks
  | .wallClock => ℕ
  | _ => Unit

structure JwksInput where
  now : ℕ
  response : Except FetchError (List GameTokenJwk)
  wallSec : ℕ

def JwksState.read (s : JwksState) (now : ℕ) : CacheRead :=
  ⟨s.jwks.bind fun jwks => s.fetchedAt.map fun fetchedAt => (jwks, fetchedAt), now⟩

def exec (s : JwksState) : (op : JwksOp) → JwksInput → JwksState × op.Answer
  | .readCache, i => ({ s with now := i.now }, s.read i.now)
  | .lock, i => ({ s with locked := true, now := i.now }, ())
  | .unlock, i => ({ s with locked := false, now := i.now }, ())
  | .startFetch, i => ({ s with now := i.now }, ())
  | .awaitFetch, i => ({ s with now := i.now }, i.response)
  | .store jwks, i =>
      ({ s with jwks := some jwks, fetchedAt := some i.now, now := i.now }, i.now)
  | .readStale, i => ({ s with now := i.now }, s.jwks)
  | .wallClock, i => ({ s with now := i.now }, i.wallSec)

abbrev JwksProg := Prog JwksOp JwksOp.Answer
abbrev JwksWorld := World JwksState JwksOp JwksOp.Answer

abbrev JwksOp.call (op : JwksOp) : JwksProg op.Answer := Prog.perform op

/-! ## The functions -/

/-- The cached keys, unless they are too old. -/
def CacheRead.fresh (read : CacheRead) : Option Jwks :=
  match read.cached with
  | some (jwks, fetchedAt) => if read.now - fetchedAt < jwksCacheTtlMs then some jwks else none
  | none => none

/-- `display` is the text of a status. -/
structure JwksConfig where
  audience : List String
  issuers : List String
  display : Status → String

def mapJwksFetchError (cfg : JwksConfig) (status : Status) : Status :=
  if status.code = .deadlineExceeded then ⟨.deadlineExceeded, "jwks fetch timed out"⟩
  else if status.code = .unavailable then ⟨.unavailable, "jwks fetch unavailable"⟩
  else ⟨.unavailable, "jwks fetch failed: " ++ cfg.display status⟩

def fetchJwks (cfg : JwksConfig) : JwksProg (Except Status Jwks) := do
  JwksOp.startFetch.call
  match ← JwksOp.awaitFetch.call with
  | .error .elapsed => return .error ⟨.deadlineExceeded, "jwks fetch timed out"⟩
  | .error (.status status) => return .error (mapJwksFetchError cfg status)
  | .ok entries =>
  match usableKeys entries with
  | none => return .error ⟨.unavailable, "jwks response did not contain usable keys"⟩
  | some jwks => return .ok jwks

/-- The part of `jwks` after the second look at the cache. -/
def refreshJwks (cfg : JwksConfig) : JwksProg (Except Status Jwks) := do
  match ← fetchJwks cfg with
  | .ok jwks => do
      let _ ← (JwksOp.store jwks).call
      return .ok jwks
  | .error err =>
  match ← JwksOp.readStale.call with
  | some jwks => return .ok jwks
  | none => return .error err

def jwks (cfg : JwksConfig) : JwksProg (Except Status Jwks) := do
  match (← JwksOp.readCache.call).fresh with
  | some jwks => return .ok jwks
  | none =>
  JwksOp.lock.call
  let result ← (do
    match (← JwksOp.readCache.call).fresh with
    | some jwks => return .ok jwks
    | none => refreshJwks cfg)
  JwksOp.unlock.call
  return result

section Decoding

variable {Key Claims : Type} (lib : JwtLibrary Key Claims) (cfg : JwksConfig)

/-- The validation that every key of the candidates is used with. -/
def validation (alg : Algorithm) : Validation := ⟨alg, cfg.audience, cfg.issuers, true, true⟩

/-- The loop over the candidates. -/
def tryKeys (token : String) (alg : Algorithm) : List Jwk → JwksProg (Except Status Claims)
  | [] => return .error ⟨.unauthenticated, "invalid jwt"⟩
  | jwk :: rest =>
      match jwkToKey lib jwk with
      | .error _ => tryKeys token alg rest
      | .ok key => do
          match lib.decode token key (validation cfg alg) (← JwksOp.wallClock.call) with
          | .ok claims => return .ok claims
          | .error _ => tryKeys token alg rest

def decodeClaims (token : String) : JwksProg (Except Status Claims) :=
  match lib.decodeHeader token with
  | none => return .error ⟨.unauthenticated, "invalid jwt"⟩
  | some header =>
      if header.alg ≠ .es256 then
        return .error ⟨.unauthenticated, "unsupported jwt algorithm"⟩
      else do
        match ← jwks cfg with
        | .error err => return .error err
        | .ok jwks =>
            if (candidates header jwks).isEmpty then
              return .error ⟨.unauthenticated, "no jwk keys available"⟩
            else tryKeys lib cfg token header.alg (candidates header jwks)

end Decoding

end HackArena.Auth
