import HackArena.Auth.Jwks

/-!
# The phases of a validation

What a validation has done so far puts it into a phase, and the phase says
what it may call next. From the log of all calls one sees which key set
was fetched last, when it was put into the cache, and how a validation
came by its keys.
-/

namespace HackArena.Auth

/-- The key set of a fetch, if it has succeeded. -/
def fetchedKeys : Except FetchError (List GameTokenJwk) → Option Jwks
  | .ok entries => usableKeys entries
  | .error _ => none

/-- From `held` to `settled` the thread holds the lock; in `expired` it has
seen that the cached keys are too old. -/
inductive JwksPhase where
  | idle
  | held
  | expired
  | fetching
  | fetched (jwks : Jwks)
  | failed
  | settled (got : Option Jwks)
  | obtained (jwks : Jwks)
  | refused
  deriving DecidableEq

namespace JwksPhase

def holdsLock : JwksPhase → Bool
  | .held | .expired | .fetching | .fetched _ | .failed | .settled _ => true
  | .idle | .obtained _ | .refused => false

def look (phase : JwksPhase) (fresh : Option Jwks) : JwksPhase :=
  match phase, fresh with
  | .idle, some jwks => .obtained jwks
  | .held, some jwks => .settled (some jwks)
  | .held, none => .expired
  | phase, _ => phase

def release : JwksPhase → JwksPhase
  | .settled (some jwks) => .obtained jwks
  | _ => .refused

def next (phase : JwksPhase) : (op : JwksOp) → op.Answer → JwksPhase
  | .readCache, read => phase.look read.fresh
  | .lock, _ => .held
  | .unlock, _ => phase.release
  | .startFetch, _ => .fetching
  | .awaitFetch, response => match fetchedKeys response with
      | some jwks => .fetched jwks
      | none => .failed
  | .store jwks, _ => .settled (some jwks)
  | .readStale, got => .settled got
  | .wallClock, _ => phase

def permits (phase : JwksPhase) : JwksOp → Prop
  | .readCache => phase = .idle ∨ phase = .held
  | .lock => phase = .idle
  | .unlock => ∃ got, phase = .settled got
  | .startFetch => phase = .expired
  | .awaitFetch => phase = .fetching
  | .store jwks => phase = .fetched jwks
  | .readStale => phase = .failed
  | .wallClock => ∃ jwks, phase = .obtained jwks

end JwksPhase

def jwksProtocol : Protocol JwksOp JwksOp.Answer JwksPhase where
  init := .idle
  next := JwksPhase.next
  permits := JwksPhase.permits

/-! ## The functions keep to the protocol -/

section Follows

variable {Key Claims : Type} {lib : JwtLibrary Key Claims} {cfg : JwksConfig} {token : String}

theorem refreshJwks_follows : (refreshJwks cfg).Follows jwksProtocol
    (fun result phase => phase = .settled result.toOption) .expired := by
  refine .bind (.call rfl fun _ => .call rfl fun response => ?_)
  rcases response with (_ | status) | entries
  · refine .call rfl fun got => ?_
    cases got <;> rfl
  · refine .call rfl fun got => ?_
    cases got <;> rfl
  · dsimp only [jwksProtocol, JwksPhase.next, fetchedKeys]
    cases usableKeys entries with
    | none =>
        refine .call rfl fun got => ?_
        cases got <;> rfl
    | some jwks => exact .call rfl fun _ => rfl

theorem jwks_follows : (jwks cfg).Follows jwksProtocol
    (fun result phase => ∀ jwks, result = .ok jwks → phase = .obtained jwks) .idle := by
  refine .call (Or.inl rfl) fun read => ?_
  dsimp only [jwksProtocol, JwksPhase.next]
  cases read.fresh with
  | some jwks =>
      intro jwks' hjwks
      rw [Except.ok.inj hjwks]
      rfl
  | none =>
      refine .call rfl fun _ => Prog.Follows.andThen (?_ : Prog.Follows jwksProtocol
        (fun result phase => phase = .settled result.toOption) _ _) ?_
      · refine .call (Or.inr rfl) fun read => ?_
        dsimp only [jwksProtocol, JwksPhase.next]
        cases read.fresh with
        | some jwks => rfl
        | none => exact refreshJwks_follows
      · rintro result phase rfl
        refine .call ⟨_, rfl⟩ fun _ jwks hjwks => ?_
        rw [hjwks]
        rfl

/-- The token has been verified with a key of the set. -/
structure VerifiedWith (lib : JwtLibrary Key Claims) (cfg : JwksConfig) (token : String)
    (claims : Claims) (jwk : Jwk) : Prop where
  header : ∃ header, lib.decodeHeader token = some header ∧ header.alg = .es256
  decoded : ∃ key nowSec, jwkToKey lib jwk = .ok key ∧
    lib.decode token key (validation cfg .es256) nowSec = .ok claims

theorem tryKeys_follows {header : JwtHeader} (hheader : lib.decodeHeader token = some header)
    (halg : header.alg = .es256) {jwks : Jwks} (keys : List Jwk)
    (hkeys : ∀ jwk ∈ keys, jwk ∈ jwks.keys) :
    (tryKeys lib cfg token header.alg keys).Follows jwksProtocol
      (fun result phase => ∀ claims, result = .ok claims → phase = .obtained jwks ∧
        ∃ jwk ∈ jwks.keys, VerifiedWith lib cfg token claims jwk) (.obtained jwks) := by
  induction keys with
  | nil => exact fun claims hclaims => nomatch hclaims
  | cons jwk rest ih =>
      obtain ⟨hjwk, hrest⟩ := List.forall_mem_cons.mp hkeys
      rw [tryKeys]
      cases hkey : jwkToKey lib jwk with
      | error err => exact ih hrest
      | ok key =>
          refine .call ⟨jwks, rfl⟩ fun nowSec => ?_
          cases hdecode : lib.decode token key (validation cfg header.alg) nowSec with
          | error err => exact ih hrest
          | ok claims =>
              intro claims' hclaims
              obtain rfl := Except.ok.inj hclaims
              refine ⟨rfl, jwk, hjwk, ⟨header, hheader, halg⟩, key, nowSec, hkey, ?_⟩
              rw [← halg]
              exact hdecode

/-- An accepted token has been verified with a key of the set that the
validation has obtained. -/
theorem decodeClaims_follows : (decodeClaims lib cfg token).Follows jwksProtocol
    (fun result phase => ∀ claims, result = .ok claims → ∃ jwks, phase = .obtained jwks ∧
      ∃ jwk ∈ jwks.keys, VerifiedWith lib cfg token claims jwk) .idle := by
  unfold decodeClaims
  cases hheader : lib.decodeHeader token with
  | none => exact fun claims hclaims => nomatch hclaims
  | some header =>
      dsimp only
      split
      · exact fun claims hclaims => nomatch hclaims
      · rename_i halg
        refine .andThen jwks_follows fun result phase hphase => ?_
        cases result with
        | error err => exact fun claims hclaims => nomatch hclaims
        | ok jwks =>
            rw [hphase jwks rfl]
            dsimp only
            split
            · exact fun claims hclaims => nomatch hclaims
            · refine (tryKeys_follows hheader (not_not.mp halg) (candidates header jwks)
                fun jwk => mem_of_mem_candidates).mono ?_
              intro result phase hpost claims hclaims
              exact ⟨jwks, hpost claims hclaims⟩

end Follows

/-! ## What the log tells -/

abbrev JwksEntry := Entry JwksOp JwksOp.Answer

def fetchedIn : JwksEntry → Option Jwks
  | ⟨_, .awaitFetch, response⟩ => fetchedKeys response
  | _ => none

/-- The key set that was fetched last. -/
def latestFetched (log : List JwksEntry) : Option Jwks := log.findSome? fetchedIn

def storedIn : JwksEntry → Option ℕ
  | ⟨_, .store _, fetchedAt⟩ => some fetchedAt
  | _ => none

/-- The time that was recorded for it. -/
def latestFetchTime (log : List JwksEntry) : Option ℕ := log.findSome? storedIn

def fetchFails : JwksEntry → Prop
  | ⟨_, .awaitFetch, response⟩ => fetchedKeys response = none
  | _ => False

/-- A refresh that the thread has made has failed. -/
def RefreshFailed (thread : ℕ) (log : List JwksEntry) : Prop :=
  ∃ e ∈ log, e.thread = thread ∧ fetchFails e

/-- The thread has sent a fetch and not got its answer. -/
def inFlight (thread : ℕ) : List JwksEntry → Bool
  | [] => false
  | e :: log =>
      if e.thread = thread then match e.op with
        | .startFetch => true
        | .awaitFetch => false
        | _ => inFlight thread log
      else inFlight thread log

/-- The call gives its thread the key set. -/
def gets : JwksEntry → Option Jwks
  | ⟨_, .readCache, read⟩ => read.fresh
  | ⟨_, .store jwks, _⟩ => some jwks
  | ⟨_, .readStale, got⟩ => got
  | _ => none

/-- The time at which the call is made. -/
def clockOf : JwksEntry → Option ℕ
  | ⟨_, .readCache, read⟩ => some read.now
  | ⟨_, .store _, now⟩ => some now
  | _ => none

/-- The key set was fetched less than the lifetime of the cache ago. -/
def Young (e : JwksEntry) (older : List JwksEntry) : Prop :=
  ∃ fetchedAt now, latestFetchTime (e :: older) = some fetchedAt ∧ clockOf e = some now ∧
    now - fetchedAt < jwksCacheTtlMs

/-- When the thread got the key set, it was the one fetched last, and young
unless a refresh of the thread had failed. -/
def Obtained (thread : ℕ) (log : List JwksEntry) (jwks : Jwks) : Prop :=
  ∃ newer e older, log = newer ++ e :: older ∧ e.thread = thread ∧ gets e = some jwks ∧
    latestFetched older = some jwks ∧ (Young e older ∨ RefreshFailed thread older)

section Log

variable {thread : ℕ} {log log' : List JwksEntry} {jwks : Jwks}

theorem RefreshFailed.mono (h : RefreshFailed thread log) (hlog : log <:+ log') :
    RefreshFailed thread log' := by
  obtain ⟨e, he, hrest⟩ := h
  exact ⟨e, hlog.subset he, hrest⟩

theorem Obtained.mono (h : Obtained thread log jwks) (hlog : log <:+ log') :
    Obtained thread log' jwks := by
  obtain ⟨newer, e, older, rfl, hrest⟩ := h
  obtain ⟨newest, rfl⟩ := hlog
  exact ⟨newest ++ newer, e, older, (List.append_assoc ..).symm, hrest⟩

/-- Every key of a fetched set is one for ES256 on the curve P-256. -/
theorem es256_of_latestFetched (h : latestFetched log = some jwks) {jwk : Jwk}
    (hjwk : jwk ∈ jwks.keys) : ∃ entry, mapProtoJwk entry = some jwk ∧
      entry.kty = some .ec ∧ entry.crv = some .p256 ∧ entry.alg = some .es256 := by
  obtain ⟨e, -, he⟩ := List.exists_of_findSome?_eq_some h
  obtain ⟨i, op, answer⟩ := e
  cases op with
  | awaitFetch =>
      cases answer with
      | error err => cases he
      | ok entries =>
          obtain ⟨entry, -, hentry⟩ := mapProtoJwk_of_usableKeys he hjwk
          exact ⟨entry, hentry, es256_of_mapProtoJwk hentry⟩
  | _ => cases he

end Log

end HackArena.Auth
