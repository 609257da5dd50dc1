import HackArena.Auth.JwksPhases

/-!
# Interleaved validations

Only the holder of the fetch lock refreshes the keys, and only after it has
seen under the lock that they are too old. From then on nobody else takes
keys from the cache, as the clock does not go back, so that the keys that
anybody gets are those fetched last.
-/

namespace HackArena.Auth

open Services GuardedRun

/-! ## The invariant -/

/-- The phase of one thread, with what the thread gets to. -/
abbrev Phases := ℕ → JwksPhase

/-- What a thread knows in its phase. -/
def Knows (s : JwksState) (log : List JwksEntry) (thread : ℕ) : JwksPhase → Prop
  | .expired | .fetching => (s.read s.now).fresh = none
  | .fetched jwks => (s.read s.now).fresh = none ∧ latestFetched log = some jwks
  | .failed => RefreshFailed thread log
  | .settled (some jwks) | .obtained jwks => Obtained thread log jwks
  | .idle | .held | .settled none | .refused => True

/-- The lock is held by at most one thread. -/
structure Locking (s : JwksState) (phases : Phases) : Prop where
  holds : ∀ i, (phases i).holdsLock = true → s.locked = true
  exclusive : ∀ i j, (phases i).holdsLock = true → (phases j).holdsLock = true → i = j

structure JwksInv (s : JwksState) (log : List JwksEntry) (phases : Phases) : Prop where
  locking : Locking s phases
  time : latestFetchTime log = s.fetchedAt
  latest : (∀ i jwks, phases i ≠ .fetched jwks) → latestFetched log = s.jwks
  threads : ∀ i, Knows s log i (phases i)
  flights : ∀ i, inFlight i log = true → phases i = .fetching

section Steps

variable {s s' : JwksState} {log : List JwksEntry} {phases : Phases} {i j : ℕ} {e : JwksEntry}
  {phase : JwksPhase}

/-- Keys that are too old do not become young again. -/
theorem fresh_read_mono {now now' : ℕ} (hnow : now ≤ now') (h : (s.read now).fresh = none) :
    (s.read now').fresh = none := by
  unfold JwksState.read CacheRead.fresh at h ⊢
  dsimp only at h ⊢
  split
  · rename_i jwks fetchedAt hcached
    rw [hcached] at h
    dsimp only at h
    split at h
    · cases h
    · rw [if_neg (by omega)]
  · rfl

theorem fresh_read_eq {now : ℕ} {jwks : Jwks} (h : (s.read now).fresh = some jwks) :
    s.jwks = some jwks ∧ ∃ fetchedAt, s.fetchedAt = some fetchedAt ∧
      now - fetchedAt < jwksCacheTtlMs := by
  unfold JwksState.read CacheRead.fresh at h
  cases hjwks : s.jwks with
  | none =>
      rw [hjwks] at h
      cases h
  | some cached =>
      cases hat : s.fetchedAt with
      | none =>
          rw [hjwks, hat] at h
          cases h
      | some fetchedAt =>
          rw [hjwks, hat] at h
          dsimp only [Option.bind_some, Option.map_some] at h
          split at h
          · rename_i hyoung
            exact ⟨h, fetchedAt, rfl, hyoung⟩
          · cases h

/-- What a thread without the lock knows is about the past. -/
theorem Knows.grow (h : Knows s log j phase) (hfree : phase.holdsLock = false) (e : JwksEntry) :
    Knows s' (e :: log) j phase := by
  cases phase with
  | obtained jwks => exact Obtained.mono h (List.suffix_cons e log)
  | idle | refused => trivial
  | _ => cases hfree

/-- A call that leaves the cache as it is, and is not the answer to a fetch. -/
theorem Knows.keep (h : Knows s log j phase) (hjwks : s'.jwks = s.jwks)
    (hat : s'.fetchedAt = s.fetchedAt) (hnow : s.now ≤ s'.now) (hfetch : fetchedIn e = none) :
    Knows s' (e :: log) j phase := by
  have hold (hold : (s.read s.now).fresh = none) : (s'.read s'.now).fresh = none := by
    have hread : s'.read s'.now = s.read s'.now := by
      rw [JwksState.read, JwksState.read, hjwks, hat]
    rw [hread]
    exact fresh_read_mono hnow hold
  have hlatest : latestFetched (e :: log) = latestFetched log := by
    rw [latestFetched, List.findSome?_cons, hfetch]
    rfl
  cases phase with
  | expired => exact hold h
  | fetching => exact hold h
  | fetched jwks => exact ⟨hold h.1, hlatest.trans h.2⟩
  | failed => exact RefreshFailed.mono h (List.suffix_cons e log)
  | settled got =>
      cases got with
      | none => trivial
      | some jwks => exact Obtained.mono h (List.suffix_cons e log)
  | obtained jwks => exact Obtained.mono h (List.suffix_cons e log)
  | idle | held | refused => trivial

theorem Locking.keep (h : Locking s phases) (hlocked : s'.locked = s.locked)
    (hphase : phase.holdsLock = (phases i).holdsLock) :
    Locking s' (Function.update phases i phase) := by
  have hholds : ∀ j, (Function.update phases i phase j).holdsLock = (phases j).holdsLock := by
    intro j
    by_cases hj : j = i
    · rw [hj, Function.update_self, hphase]
    · rw [Function.update_of_ne hj]
  refine ⟨fun j hj => ?_, fun j k hj hk => ?_⟩
  · rw [hlocked]
    exact h.holds j (hholds j ▸ hj)
  · exact h.exclusive j k (hholds j ▸ hj) (hholds k ▸ hk)

theorem Locking.acquire (h : Locking s phases) (hfree : s.locked = false)
    (hlocked : s'.locked = true) : Locking s' (Function.update phases i phase) := by
  have hnobody : ∀ j, j ≠ i → (Function.update phases i phase j).holdsLock ≠ true := by
    intro j hj hholds
    rw [Function.update_of_ne hj] at hholds
    rw [h.holds j hholds] at hfree
    cases hfree
  refine ⟨fun _ _ => hlocked, fun j k hj hk => ?_⟩
  have hji : j = i := by
    by_contra hne
    exact hnobody j hne hj
  have hki : k = i := by
    by_contra hne
    exact hnobody k hne hk
  rw [hji, hki]

theorem Locking.release (h : Locking s phases) (hholder : (phases i).holdsLock = true)
    (hphase : phase.holdsLock = false) : Locking s' (Function.update phases i phase) := by
  have hnobody : ∀ j, (Function.update phases i phase j).holdsLock ≠ true := by
    intro j hholds
    by_cases hj : j = i
    · rw [hj, Function.update_self, hphase] at hholds
      cases hholds
    · rw [Function.update_of_ne hj] at hholds
      exact hj (h.exclusive j i hholds hholder)
  exact ⟨fun j hj => (hnobody j hj).elim, fun j k hj _ => (hnobody j hj).elim⟩

/-- A call that leaves the cache as it is, and brings no keys. -/
theorem JwksInv.quiet (h : JwksInv s log phases) (he : e.thread = i) (hjwks : s'.jwks = s.jwks)
    (hat : s'.fetchedAt = s.fetchedAt) (hnow : s.now ≤ s'.now) (hfetch : fetchedIn e = none)
    (hstored : storedIn e = none) (hbefore : ∀ jwks, phases i ≠ .fetched jwks)
    (hlocking : Locking s' (Function.update phases i phase))
    (hknows : Knows s' (e :: log) i phase)
    (hflight : inFlight i (e :: log) = true → phase = .fetching) :
    JwksInv s' (e :: log) (Function.update phases i phase) := by
  refine ⟨hlocking, ?_, fun hnone => ?_, fun j => ?_, fun j hj => ?_⟩
  · rw [latestFetchTime, List.findSome?_cons, hstored, hat]
    exact h.time
  · rw [latestFetched, List.findSome?_cons, hfetch, hjwks]
    refine h.latest fun j jwks hj => ?_
    by_cases hji : j = i
    · exact hbefore jwks (hji ▸ hj)
    · refine hnone j jwks ?_
      rw [Function.update_of_ne hji]
      exact hj
  · by_cases hji : j = i
    · rw [hji, Function.update_self]
      exact hknows
    · rw [Function.update_of_ne hji]
      exact (h.threads j).keep hjwks hat hnow hfetch
  · by_cases hji : j = i
    · rw [hji] at hj ⊢
      rw [Function.update_self]
      exact hflight hj
    · rw [Function.update_of_ne hji]
      rw [inFlight, he, if_neg (Ne.symm hji)] at hj
      exact h.flights j hj

/-- A fetch has succeeded. -/
theorem JwksInv.fetched (h : JwksInv s log phases) (hphase : phases i = .fetching)
    {response : Except FetchError (List GameTokenJwk)} {jwks : Jwks}
    (hkeys : fetchedKeys response = some jwks) {now : ℕ} (hnow : s.now ≤ now) :
    JwksInv { s with now := now } (⟨i, .awaitFetch, response⟩ :: log)
      (Function.update phases i (.fetched jwks)) := by
  have hholder : (phases i).holdsLock = true := by rw [hphase]; rfl
  have hknows := h.threads i
  rw [hphase] at hknows
  refine ⟨h.locking.keep rfl hholder.symm, h.time, fun hnone => ?_, fun j => ?_, fun j hj => ?_⟩
  · exact (hnone i jwks (Function.update_self ..)).elim
  · by_cases hji : j = i
    · rw [hji, Function.update_self]
      exact ⟨fresh_read_mono hnow hknows, by rw [latestFetched, List.findSome?_cons, fetchedIn, hkeys]⟩
    · rw [Function.update_of_ne hji]
      refine (h.threads j).grow ?_ _
      by_contra hj
      exact hji (h.locking.exclusive j i (Bool.not_eq_false _ ▸ hj) hholder)
  · by_cases hji : j = i
    · rw [inFlight, if_pos hji.symm] at hj
      cases hj
    · rw [Function.update_of_ne hji]
      rw [inFlight, if_neg (Ne.symm hji)] at hj
      exact h.flights j hj

/-- The fetched keys are put into the cache. -/
theorem JwksInv.stored (h : JwksInv s log phases) {jwks : Jwks} (hphase : phases i = .fetched jwks)
    (now : ℕ) :
    JwksInv { s with jwks := some jwks, fetchedAt := some now, now := now }
      (⟨i, .store jwks, now⟩ :: log) (Function.update phases i (.settled (some jwks))) := by
  have hholder : (phases i).holdsLock = true := by rw [hphase]; rfl
  have hknows := h.threads i
  rw [hphase] at hknows
  refine ⟨h.locking.keep rfl hholder.symm, rfl, fun _ => hknows.2, fun j => ?_, fun j hj => ?_⟩
  · by_cases hji : j = i
    · rw [hji, Function.update_self]
      refine ⟨[], _, log, rfl, rfl, rfl, hknows.2, Or.inl ⟨now, now, rfl, rfl, ?_⟩⟩
      rw [Nat.sub_self]
      decide
    · rw [Function.update_of_ne hji]
      refine (h.threads j).grow ?_ _
      by_contra hj
      exact hji (h.locking.exclusive j i (Bool.not_eq_false _ ▸ hj) hholder)
  · by_cases hji : j = i
    · rw [inFlight, if_pos hji.symm] at hj
      have hflying := h.flights i (hji ▸ hj)
      rw [hphase] at hflying
      cases hflying
    · rw [Function.update_of_ne hji]
      rw [inFlight, if_neg (Ne.symm hji)] at hj
      exact h.flights j hj

/-- A call that is about no fetch, in a phase without one. -/
theorem JwksInv.noFlight (h : JwksInv s log phases) (hphase : phases i ≠ .fetching)
    (hsame : inFlight i (e :: log) = inFlight i log) :
    inFlight i (e :: log) = true → phase = .fetching := by
  intro hflight
  rw [hsame] at hflight
  exact (hphase (h.flights i hflight)).elim

theorem JwksInv.readCache (h : JwksInv s log phases) {now : ℕ} (hnow : s.now ≤ now)
    (hphase : phases i = .idle ∨ phases i = .held) :
    JwksInv { s with now := now } (⟨i, .readCache, s.read now⟩ :: log)
      (Function.update phases i ((phases i).look (s.read now).fresh)) := by
  have hflight (phase : JwksPhase) : inFlight i (⟨i, .readCache, s.read now⟩ :: log) = true →
      phase = .fetching := by
    refine h.noFlight ?_ (by rw [inFlight, if_pos rfl])
    rcases hphase with hphase | hphase <;> rw [hphase] <;> nofun
  have hgot (jwks : Jwks) (hfresh : (s.read now).fresh = some jwks) :
      Obtained i (⟨i, .readCache, s.read now⟩ :: log) jwks := by
    obtain ⟨hjwks, fetchedAt, hat, hyoung⟩ := fresh_read_eq hfresh
    have hlatest : latestFetched log = some jwks := by
      rw [← hjwks]
      refine h.latest fun j jwks' hj => ?_
      have hknows := h.threads j
      rw [hj] at hknows
      rw [fresh_read_mono hnow hknows.1] at hfresh
      cases hfresh
    exact ⟨[], _, log, rfl, rfl, hfresh, hlatest,
      Or.inl ⟨fetchedAt, now, h.time.trans hat, rfl, hyoung⟩⟩
  rcases hphase with hphase | hphase
  · cases hfresh : (s.read now).fresh with
    | none =>
        refine h.quiet rfl rfl rfl hnow rfl rfl (by rw [hphase]; nofun)
          (h.locking.keep rfl (by rw [hphase]; rfl)) ?_ (hflight _)
        rw [hphase]
        trivial
    | some jwks =>
        refine h.quiet rfl rfl rfl hnow rfl rfl (by rw [hphase]; nofun)
          (h.locking.keep rfl (by rw [hphase]; rfl)) ?_ (hflight _)
        rw [hphase]
        exact hgot jwks hfresh
  · cases hfresh : (s.read now).fresh with
    | none =>
        refine h.quiet rfl rfl rfl hnow rfl rfl (by rw [hphase]; nofun)
          (h.locking.keep rfl (by rw [hphase]; rfl)) ?_ (hflight _)
        rw [hphase]
        exact hfresh
    | some jwks =>
        refine h.quiet rfl rfl rfl hnow rfl rfl (by rw [hphase]; nofun)
          (h.locking.keep rfl (by rw [hphase]; rfl)) ?_ (hflight _)
        rw [hphase]
        exact hgot jwks hfresh

/-- Every call that the protocol permits keeps the invariant, if the lock is
free and the clock does not go back. -/
theorem JwksInv.exec (h : JwksInv s log phases) {op : JwksOp} {input : JwksInput}
    (hfree : op = .lock → s.locked = false) (hnow : s.now ≤ input.now)
    (hpermits : (phases i).permits op) :
    JwksInv (exec s op input).1 (⟨i, op, (exec s op input).2⟩ :: log)
      (Function.update phases i ((phases i).next op (exec s op input).2)) := by
  cases op with
  | readCache => exact h.readCache hnow hpermits
  | lock =>
      have hphase : phases i = .idle := hpermits
      exact h.quiet rfl rfl rfl hnow rfl rfl (by rw [hphase]; nofun)
        (h.locking.acquire (hfree rfl) rfl) trivial
        (h.noFlight (by rw [hphase]; nofun) (by rw [inFlight, if_pos rfl]))
  | unlock =>
      obtain ⟨got, hphase⟩ := hpermits
      have hknows := h.threads i
      rw [hphase] at hknows
      refine h.quiet rfl rfl rfl hnow rfl rfl (by rw [hphase]; nofun)
        (h.locking.release (by rw [hphase]; rfl) ?_) ?_
        (h.noFlight (by rw [hphase]; nofun) (by rw [inFlight, if_pos rfl]))
      · rw [hphase]
        cases got <;> rfl
      · rw [hphase]
        cases got with
        | none => trivial
        | some jwks => exact Obtained.mono hknows (List.suffix_cons _ log)
  | startFetch =>
      have hphase : phases i = .expired := hpermits
      have hknows := h.threads i
      rw [hphase] at hknows
      exact h.quiet rfl rfl rfl hnow rfl rfl (by rw [hphase]; nofun)
        (h.locking.keep rfl (by rw [hphase]; rfl)) (fresh_read_mono hnow hknows) fun _ => rfl
  | awaitFetch =>
      have hphase : phases i = .fetching := hpermits
      dsimp only [Auth.exec, JwksPhase.next]
      cases hkeys : fetchedKeys input.response with
      | some jwks => exact h.fetched hphase hkeys hnow
      | none =>
          refine h.quiet rfl rfl rfl hnow hkeys rfl (by rw [hphase]; nofun)
            (h.locking.keep rfl (by rw [hphase]; rfl)) ?_ ?_
          · exact ⟨_, List.mem_cons_self, rfl, hkeys⟩
          · rw [inFlight, if_pos rfl]
            nofun
  | store jwks => exact h.stored hpermits input.now
  | readStale =>
      have hphase : phases i = .failed := hpermits
      have hknows := h.threads i
      rw [hphase] at hknows
      refine h.quiet rfl rfl rfl hnow rfl rfl (by rw [hphase]; nofun)
        (h.locking.keep rfl (by rw [hphase]; rfl)) ?_
        (h.noFlight (by rw [hphase]; nofun) (by rw [inFlight, if_pos rfl]))
      dsimp only [Auth.exec, JwksPhase.next]
      cases hgot : s.jwks with
      | none => trivial
      | some jwks =>
          refine ⟨[], _, log, rfl, rfl, rfl, ?_, Or.inr hknows⟩
          rw [← hgot]
          refine h.latest fun j jwks' hj => ?_
          have hji : j = i := h.locking.exclusive j i (by rw [hj]; rfl) (by rw [hphase]; rfl)
          rw [hji, hphase] at hj
          cases hj
  | wallClock =>
      obtain ⟨jwks, hphase⟩ := hpermits
      have hknows := h.threads i
      rw [hphase] at hknows
      refine h.quiet rfl rfl rfl hnow rfl rfl (by rw [hphase]; nofun)
        (h.locking.keep rfl rfl) ?_
        (h.noFlight (by rw [hphase]; nofun) (by rw [inFlight, if_pos rfl]))
      dsimp only [JwksPhase.next]
      rw [hphase]
      exact Obtained.mono hknows (List.suffix_cons _ log)

end Steps

/-! ## Runs -/

/-- What a token says, and which keys have signed it. -/
structure TokenFacts (Key : Type) where
  signedBy : String → Key → Prop
  algorithm : String → Algorithm
  audience : String → List String
  issuer : String → Option String
  exp : String → Option ℕ

/-- The leeway for clocks that differ, in seconds. -/
def leewaySec : ℕ := 60

structure TokenFacts.Valid {Key : Type} (facts : TokenFacts Key) (token : String) (key : Key)
    (v : Validation) (nowSec : ℕ) : Prop where
  signature : facts.signedBy token key
  algorithm : facts.algorithm token = v.algorithm
  audience : ∃ aud ∈ facts.audience token, aud ∈ v.audience
  issuer : ∃ iss ∈ v.issuers, facts.issuer token = some iss
  expRequired : v.requiresExp = true → (facts.exp token).isSome = true
  expiry : v.validateExp = true → ∀ exp, facts.exp token = some exp → nowSec ≤ exp + leewaySec

/-- The library checks what it is told to. -/
def JwtLibrary.Checks {Key Claims : Type} (lib : JwtLibrary Key Claims) (facts : TokenFacts Key) :
    Prop :=
  ∀ token key v nowSec claims, lib.decode token key v nowSec = .ok claims →
    facts.Valid token key v nowSec

/-- The lock is given to one thread at a time; others wait. -/
def callIsFree (s : JwksState) : JwksOp → Bool
  | .lock => !s.locked
  | _ => true

def ClockRuns (w : JwksWorld) (_ : ℕ) (_ : JwksOp) (input : JwksInput) : Prop :=
  w.shared.now ≤ input.now

instance (w : JwksWorld) (i : ℕ) (op : JwksOp) (input : JwksInput) :
    Decidable (ClockRuns w i op input) := inferInstanceAs (Decidable (w.shared.now ≤ input.now))

section Runs

variable {Key Claims : Type} (lib : JwtLibrary Key Claims) (cfg : JwksConfig)
  (tokens : ℕ → String) (events : List (ℕ × JwksInput))

abbrev JwksPool (Claims : Type) := Pool JwksState JwksOp JwksOp.Answer (Except Status Claims)

/-- Every thread validates a token. -/
def validations : JwksPool Claims := Pool.start .new fun i => decodeClaims lib cfg (tokens i)

def poolAt (n : ℕ) : JwksPool Claims :=
  stateAt (Pool.waitStep exec callIsFree) (validations lib cfg tokens) events n

/-- The key is one of the set, usable, and the token is valid under it. -/
def AcceptedWith (facts : TokenFacts Key) (token : String) (jwks : Jwks) : Prop :=
  ∃ jwk ∈ jwks.keys,
    (∃ entry, mapProtoJwk entry = some jwk ∧ entry.kty = some .ec ∧ entry.crv = some .p256 ∧
      entry.alg = some .es256) ∧
    ∃ key nowSec, jwkToKey lib jwk = .ok key ∧
      facts.Valid token key (validation cfg .es256) nowSec

/-- Tokens are accepted with the latest keys, one fetch is in flight at a
time, and the cached keys give way to fetched ones only. -/
structure LatestKeys (facts : TokenFacts Key) : Prop where
  accepted : ∀ n i claims, (poolAt lib cfg tokens events n).threads i = .ret (.ok claims) →
    ∃ jwks, Obtained i (poolAt lib cfg tokens events n).world.log jwks ∧
      AcceptedWith lib cfg facts (tokens i) jwks
  oneFetch : ∀ n i j, inFlight i (poolAt lib cfg tokens events n).world.log = true →
    inFlight j (poolAt lib cfg tokens events n).world.log = true → i = j
  kept : ∀ n, (poolAt lib cfg tokens events (n + 1)).world.shared.jwks =
      (poolAt lib cfg tokens events n).world.shared.jwks ∨
    ∃ jwks, latestFetched (poolAt lib cfg tokens events n).world.log = some jwks ∧
      (poolAt lib cfg tokens events (n + 1)).world.shared.jwks = some jwks

def WorldInv (w : JwksWorld) : Prop :=
  JwksInv w.shared w.log fun i => jwksProtocol.stageOf i w.log

variable {lib cfg tokens events}

theorem worldInv_perform {w : JwksWorld} {i : ℕ} {op : JwksOp} {input : JwksInput}
    (h : WorldInv w) (hfree : callIsFree w.shared op = true) (hnow : w.shared.now ≤ input.now)
    (hpermits : jwksProtocol.permits (jwksProtocol.stageOf i w.log) op) :
    WorldInv (w.perform exec i op input) := by
  rw [WorldInv, Protocol.stages_perform exec (fun _ => jwksProtocol)]
  refine JwksInv.exec h ?_ hnow hpermits
  rintro rfl
  exact Bool.not_eq_true' _ ▸ hfree

theorem worldInv_start : WorldInv (validations lib cfg tokens).world where
  locking := ⟨nofun, nofun⟩
  time := rfl
  latest := fun _ => rfl
  threads := fun _ => trivial
  flights := nofun

theorem validations_followed : (validations lib cfg tokens).FollowedBy (fun _ => jwksProtocol)
    (fun _ _ => True) := fun _ => decodeClaims_follows.mono fun _ _ _ => trivial

variable (hclock : Along (Pool.Guarded ClockRuns) (Pool.waitStep exec callIsFree)
  (validations lib cfg tokens) events)

include hclock

theorem worldInv_poolAt (n : ℕ) : WorldInv (poolAt lib cfg tokens events n).world ∧
    (poolAt lib cfg tokens events n).FollowedBy (fun _ => jwksProtocol) (fun _ _ => True) :=
  validations_followed.invariant_guarded
    (fun _ _ _ _ hw hfree hnow hpermits => worldInv_perform hw hfree hnow hpermits)
    worldInv_start hclock n

theorem oneFetch (n i j : ℕ) (hi : inFlight i (poolAt lib cfg tokens events n).world.log = true)
    (hj : inFlight j (poolAt lib cfg tokens events n).world.log = true) : i = j := by
  obtain ⟨hinv, -⟩ := worldInv_poolAt hclock n
  refine hinv.locking.exclusive i j ?_ ?_
  · rw [hinv.flights i hi]
    rfl
  · rw [hinv.flights j hj]
    rfl

/-- Cached keys give way only to those fetched last. -/
theorem kept (n : ℕ) : (poolAt lib cfg tokens events (n + 1)).world.shared.jwks =
      (poolAt lib cfg tokens events n).world.shared.jwks ∨
    ∃ jwks, latestFetched (poolAt lib cfg tokens events n).world.log = some jwks ∧
      (poolAt lib cfg tokens events (n + 1)).world.shared.jwks = some jwks := by
  obtain ⟨hinv, hfollowed⟩ := worldInv_poolAt hclock n
  by_cases hn : n < events.length
  · have hsucc : poolAt lib cfg tokens events (n + 1) =
        (poolAt lib cfg tokens events n).waitStep exec callIsFree events[n] := stateAt_succ hn
    rw [hsucc]
    rcases Pool.waitStep_cases exec callIsFree (poolAt lib cfg tokens events n) events[n] with
      hsame | ⟨hstep, -⟩
    · exact Or.inl (by rw [hsame])
    · rw [hstep, Pool.step]
      have hthread := hfollowed events[n].1
      cases hprog : (poolAt lib cfg tokens events n).threads events[n].1 with
      | ret result => exact Or.inl rfl
      | call op next =>
          rw [hprog] at hthread
          cases op with
          | store jwks =>
              have hknows := hinv.threads events[n].1
              rw [hthread.1] at hknows
              exact Or.inr ⟨jwks, hknows.2, rfl⟩
          | _ => exact Or.inl rfl
  · refine Or.inl ?_
    have hlast : poolAt lib cfg tokens events (n + 1) = poolAt lib cfg tokens events n := by
      rw [poolAt, poolAt, stateAt_of_length_le (by omega), stateAt_of_length_le (by omega)]
    rw [hlast]

theorem accepted {facts : TokenFacts Key} (hlib : lib.Checks facts) {n i : ℕ} {claims : Claims}
    (hret : (poolAt lib cfg tokens events n).threads i = .ret (.ok claims)) :
    ∃ jwks, Obtained i (poolAt lib cfg tokens events n).world.log jwks ∧
      AcceptedWith lib cfg facts (tokens i) jwks := by
  obtain ⟨hinv, -⟩ := worldInv_poolAt hclock n
  have hstart : ((validations lib cfg tokens).threads i).Follows jwksProtocol _
      (jwksProtocol.stageOf i (validations lib cfg tokens).world.log) := decodeClaims_follows
  have hfollows := @Pool.follows_waitStateAt _ _ _ _ _ _ _ exec _ _ _ hstart callIsFree events n
  rw [poolAt] at hret
  rw [hret] at hfollows
  obtain ⟨jwks, hphase, jwk, hjwk, hverified⟩ := hfollows claims rfl
  have hknows := hinv.threads i
  rw [poolAt, hphase] at hknows
  refine ⟨jwks, hknows, jwk, hjwk, ?_, ?_⟩
  · obtain ⟨_, _, older, _, _, _, hlatest, -⟩ := hknows
    exact es256_of_latestFetched hlatest hjwk
  · obtain ⟨key, nowSec, hkey, hdecode⟩ := hverified.decoded
    exact ⟨key, nowSec, hkey, hlib _ _ _ _ _ hdecode⟩

end Runs

/-- In every run of validations, with fetches that succeed, fail or time out
and a clock that does not go back, tokens are accepted with a key of the set
that was fetched last when the validation obtained it. -/
theorem latest_keys {Key Claims : Type} (lib : JwtLibrary Key Claims) (facts : TokenFacts Key)
    (hlib : lib.Checks facts) (cfg : JwksConfig) (tokens : ℕ → String)
    (events : List (ℕ × JwksInput))
    (hclock : Along (Pool.Guarded ClockRuns) (Pool.waitStep exec callIsFree)
      (validations lib cfg tokens) events) :
    LatestKeys lib cfg tokens events facts :=
  ⟨fun _ _ _ hret => accepted hclock hlib hret, oneFetch hclock, kept hclock⟩

namespace TwoCallers

/-- A library for one token, signed by one key. -/
def library : JwtLibrary (String × String) Unit where
  decodeHeader token := if token = "t" then some ⟨.es256, some "k"⟩ else none
  fromEcComponents x y := some (x, y)
  decode token key v nowSec :=
    if token = "t" ∧ key = ("x", "y") ∧ v.algorithm = .es256 ∧ "game" ∈ v.audience ∧
      "arena" ∈ v.issuers ∧ nowSec ≤ 1000 + leewaySec then .ok () else .error "invalid"

def facts : TokenFacts (String × String) where
  signedBy token key := token = "t" ∧ key = ("x", "y")
  algorithm _ := .es256
  audience _ := ["game"]
  issuer _ := some "arena"
  exp _ := some 1000

theorem library_checks : library.Checks facts := by
  intro token key v nowSec claims hdecode
  simp only [library] at hdecode
  split at hdecode
  · rename_i h
    obtain ⟨htoken, hkey, halg, haud, hiss, hexp⟩ := h
    refine ⟨⟨htoken, hkey⟩, halg.symm, ⟨"game", List.mem_singleton_self _, haud⟩,
      ⟨"arena", hiss, rfl⟩, fun _ => rfl, fun _ exp hexp' => ?_⟩
    rw [← Option.some.inj hexp']
    exact hexp
  · cases hdecode

def config : JwksConfig := ⟨["game"], ["arena"], fun status => status.message⟩

/-- The endpoint answers with the key "k", or not in time. -/
def callAt (now : ℕ) (answers : Bool) : JwksInput :=
  ⟨now, if answers then .ok [⟨some .ec, some .p256, some .es256, "k", "x", "y"⟩]
    else .error .elapsed, 900⟩

/-- The first caller fetches the keys; five minutes later its fetch fails,
and the second caller falls back to them. -/
def events : List (ℕ × JwksInput) :=
  List.replicate 8 (0, callAt 10 true) ++ List.replicate 8 (1, callAt 400000 false)

theorem both_accepted :
    (∀ i < 2, ((poolAt library config (fun _ => "t") events 16).threads i).result? =
        some (.ok ())) ∧
      LatestKeys library config (fun _ => "t") events facts :=
  ⟨by decide +kernel, latest_keys library facts library_checks config (fun _ => "t") events
    (by decide +kernel)⟩

end TwoCallers

end HackArena.Auth
