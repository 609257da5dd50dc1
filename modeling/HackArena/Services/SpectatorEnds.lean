import HackArena.Lib.GuardedRun
import HackArena.Services.CleanupTargets
import HackArena.Services.SpectatorStream

/-!
# The end of spectator streams

A stream is started for a world that the engine runs. At each tick it looks
at the latest frame of the hub and ends when the frame does not show the
world; it ends too when the client is gone, and then it takes a car of its
instance with it.
-/

namespace HackArena.Services

open Boink HackArena.Runtime HackArena.Local GuardedRun

/-! ## Targets -/

inductive FrontendSpectatorTarget where
  | sandbox (sandboxId : String)
  | officialRace
  | localRace (raceId : String)
  deriving DecidableEq

def selectQuickJoinSandbox (runtimeState : EngineRuntimeState) (requestedSandboxId : String) :
    Except Status EngineActiveSandboxState :=
  match runtimeState.activeSandboxes with
  | [] => .error ⟨.failedPrecondition, "sandbox runtime is not active"⟩
  | first :: rest =>
      let requestedSandboxId := Text.trim requestedSandboxId
      if requestedSandboxId ≠ "" then
        match (first :: rest).find? fun entry => entry.sandboxId = requestedSandboxId with
        | some entry => .ok entry
        | none => .error ⟨.notFound,
            "sandbox runtime is not active for sandbox_id=" ++ requestedSandboxId⟩
      else if rest = [] then .ok first
      else .error ⟨.failedPrecondition,
        "sandbox_id is required when multiple sandbox sessions are active"⟩

def resolveStreamTarget (target : Option FrontendSpectatorTarget)
    (runtimeState : EngineRuntimeState) : Except Status EngineCommandTarget :=
  match target with
  | some (.sandbox sandboxId) =>
      if Text.isBlank sandboxId then
        .error ⟨.invalidArgument, "sandbox_id is required for sandbox spectator target"⟩
      else do
        let active ← selectQuickJoinSandbox runtimeState sandboxId
        return .sandbox active.sandboxId
  | some .officialRace =>
      if runtimeState.activityKind ≠ .officialRace then
        .error ⟨.failedPrecondition, "official race runtime is not active"⟩
      else .ok .officialRace
  | some (.localRace raceId) =>
      let raceId := Text.trim raceId
      if raceId = "" then
        .error ⟨.invalidArgument, "race_id is required for local race spectator target"⟩
      else if runtimeState.activeLocalRace.map (·.raceId) ≠ some raceId then
        .error ⟨.failedPrecondition, "local race runtime is not active"⟩
      else .ok (.localRace raceId)
  | none => .error ⟨.invalidArgument, "spectator target must be set"⟩

/-- The engine runs the race of the target; sandboxes are not looked at. -/
def runsRace : EngineCommandTarget → EngineRuntimeState → Bool
  | .officialRace, state => state.activityKind = .officialRace
  | .localRace raceId, state => state.activeLocalRace.any fun race => race.raceId = raceId
  | .sandbox _, _ => true

theorem runsRace_of_resolved {target : Option FrontendSpectatorTarget}
    {runtimeState : EngineRuntimeState} {world : EngineCommandTarget}
    (h : resolveStreamTarget target runtimeState = .ok world) : runsRace world runtimeState := by
  rcases target with _ | sandboxId | _ | raceId
  · cases h
  · dsimp only [resolveStreamTarget] at h
    split at h
    · cases h
    · obtain ⟨active, -, hworld⟩ := Except.bind_eq_ok.mp h
      cases hworld
      rfl
  · dsimp only [resolveStreamTarget] at h
    split at h
    · cases h
    · rename_i hkind
      cases h
      exact decide_eq_true (not_not.mp hkind)
  · dsimp only [resolveStreamTarget] at h
    split at h
    · cases h
    · split at h
      · cases h
      · rename_i hrace
        cases h
        obtain ⟨race, hactive, hraceId⟩ := Option.map_eq_some_iff.mp (not_not.mp hrace)
        rw [runsRace, hactive]
        exact decide_eq_true hraceId

theorem not_targetIsActive {world : EngineCommandTarget} {frame : RuntimeFrame}
    {state : EngineRuntimeState} (h : targetIsActive (some world) frame = false)
    (hstate : frame.runtimeState = some state) : runsRace world state = false := by
  cases world with
  | officialRace =>
      rw [targetIsActive, hstate] at h
      exact h
  | localRace raceId =>
      rw [targetIsActive, hstate] at h
      exact h
  | sandbox sandboxId => cases h

/-! ## The service -/

inductive StreamPhase where
  | starting | looping | ended
  deriving DecidableEq

/-- A stream that was started when the engine had changed its runtime
`startedAt` times. -/
structure FrontendStream where
  cfg : SpectatorConfig
  world : EngineCommandTarget
  cleanupInstanceUuid : Option String
  startedAt : ℕ
  phase : StreamPhase

/-- The engine with the states it has been in before, the latest first; the
runtime state that the hub has read last, and its latest frame, with the
number of changes there had been when they were read; and the streams. -/
structure FrontendService where
  engine : EngineRuntimeState
  past : List EngineRuntimeState
  reading : Option EngineRuntimeState
  readAt : ℕ
  frame : RuntimeFrame
  collectedAt : ℕ
  backend : Backend
  nextStreamId : ℕ
  activeStreams : Finset ℕ
  streams : HashMap ℕ FrontendStream

/-- A client is connected or not when an event is sent to it. -/
inductive FrontendEvent where
  | engineMoves (state : EngineRuntimeState)
  | readRuntime (readable : Bool)
  | publishFrame (frame : RuntimeFrame)
  | otherTasks (backend : Backend)
  | start (cfg : SpectatorConfig) (target : Option FrontendSpectatorTarget)
      (cleanupInstanceUuid : Option String)
  | settings (streamId : ℕ) (connected : Bool)
  | turn (streamId : ℕ) (connected : Bool) (inputs : ℕ → ServiceInput)

inductive TurnOutcome where
  | goesOn | disconnected | runtimeGone
  deriving DecidableEq

/-- One pass of the loop. -/
def spectatorTurn (world : EngineCommandTarget) (frame : RuntimeFrame) (connected : Bool) :
    TurnOutcome :=
  if targetIsActive (some world) frame then
    if connected then .goesOn else .disconnected
  else .runtimeGone

namespace FrontendService

def initial (engine : EngineRuntimeState) (backend : Backend) : FrontendService :=
  ⟨engine, [], none, 0, .default, 0, backend, 1, ∅, ∅⟩

def setPhase (s : FrontendService) (streamId : ℕ) (stream : FrontendStream) (phase : StreamPhase) :
    FrontendService :=
  { s with streams := s.streams.insert streamId { stream with phase := phase } }

/-- The end of a stream, with what is left of the backend. -/
def endStream (s : FrontendService) (streamId : ℕ) (stream : FrontendStream) (backend : Backend) :
    FrontendService :=
  { s.setPhase streamId stream .ended with
    activeStreams := s.activeStreams.erase streamId
    backend := backend }

/-- The handler, and the stream up to its first event. -/
def startStream (s : FrontendService) (cfg : SpectatorConfig)
    (target : Option FrontendSpectatorTarget) (cleanupInstanceUuid : Option String) :
    FrontendService :=
  match resolveStreamTarget target s.engine with
  | .error _ => s
  | .ok world =>
      { s with
        nextStreamId := (s.nextStreamId + 1) % 2 ^ 64
        activeStreams := insert s.nextStreamId s.activeStreams
        streams := s.streams.insert s.nextStreamId
          ⟨{ cfg with visibleTarget := some world }, world, cleanupInstanceUuid, s.past.length,
            .starting⟩ }

/-- The first event is sent. -/
def sendSettings (s : FrontendService) (streamId : ℕ) (connected : Bool) : FrontendService :=
  match s.streams.lookup streamId with
  | none => s
  | some stream =>
      if stream.phase ≠ .starting then s
      else if connected then s.setPhase streamId stream .looping
      else s.endStream streamId stream s.backend

def cleanedUp (s : FrontendService) (stream : FrontendStream) (inputs : ℕ → ServiceInput) :
    Backend :=
  ((Tasks.cleanupFrontendCars (some stream.world) stream.cleanupInstanceUuid).run
    (execCall stream.cfg.build) inputs s.backend).1

def takeTurn (s : FrontendService) (streamId : ℕ) (connected : Bool)
    (inputs : ℕ → ServiceInput) : FrontendService :=
  match s.streams.lookup streamId with
  | none => s
  | some stream =>
      if stream.phase ≠ .looping then s
      else
        match spectatorTurn stream.world s.frame connected with
        | .goesOn => s
        | .disconnected => s.endStream streamId stream (s.cleanedUp stream inputs)
        | .runtimeGone => s.endStream streamId stream s.backend

def step (s : FrontendService) : FrontendEvent → FrontendService
  | .engineMoves state => { s with engine := state, past := s.engine :: s.past }
  | .readRuntime readable =>
      { s with reading := if readable then some s.engine else none, readAt := s.past.length }
  | .publishFrame frame =>
      { s with frame := { frame with runtimeState := s.reading }, collectedAt := s.readAt }
  | .otherTasks backend => { s with backend := backend }
  | .start cfg target cleanupInstanceUuid => s.startStream cfg target cleanupInstanceUuid
  | .settings streamId connected => s.sendSettings streamId connected
  | .turn streamId connected inputs => s.takeTurn streamId connected inputs

end FrontendService

/-! ## Ends -/

/-- One of the maps that register a car has it. -/
def InCarMaps (s : RaceRuntimeStore) (carId : ℕ) : Prop :=
  carId ∈ s.knownCars ∨ carId ∈ s.carOwners ∨ carId ∈ s.carEngineIds ∨ carId ∈ s.carTargets

/-- The client of the stream is gone when the event is to be sent. -/
def FrontendEvent.Disconnects (streamId : ℕ) : FrontendEvent → Prop
  | .settings other connected | .turn other connected _ => other = streamId ∧ connected = false
  | _ => False

namespace FrontendService

/-- The state of the engine after this number of changes. -/
def Was (s : FrontendService) (moves : ℕ) (state : EngineRuntimeState) : Prop :=
  moves ≤ s.past.length ∧ (s.engine :: s.past)[s.past.length - moves]? = some state

/-- Since the stream was started the engine has left its race. -/
def HasLeft (s : FrontendService) (stream : FrontendStream) : Prop :=
  ∃ moves state, stream.startedAt < moves ∧ s.Was moves state ∧ runsRace stream.world state = false

/-- A car of the stream's instance is in the world of the stream. -/
def Owns (s : FrontendService) (stream : FrontendStream) (carId : ℕ) : Prop :=
  ∃ uuid, stream.cleanupInstanceUuid = some uuid ∧ OwnedIn s.backend.store uuid stream.world carId

def Live (s : FrontendService) (streamId : ℕ) (stream : FrontendStream) : Prop :=
  s.streams.lookup streamId = some stream ∧ stream.phase ≠ .ended

def Ends (s : FrontendService) (e : FrontendEvent) (streamId : ℕ) (stream : FrontendStream) :
    Prop :=
  s.Live streamId stream ∧ ∀ stream', ¬ (s.step e).Live streamId stream'

/-- A stream ends for a reason, and it leaves neither its entry nor a car. -/
structure EndsWell (s : FrontendService) (e : FrontendEvent) (streamId : ℕ)
    (stream : FrontendStream) : Prop where
  reason : e.Disconnects streamId ∨ s.HasLeft stream
  inactive : streamId ∉ (s.step e).activeStreams
  cars : ∀ carId, s.Owns stream carId → ¬ InCarMaps (s.step e).backend.store carId

/-- The latest frame has no runtime state, or one from before the stream. -/
def Stale (s : FrontendService) (stream : FrontendStream) : Prop :=
  s.frame.runtimeState = none ∨ s.collectedAt < stream.startedAt

/-- What a step needs that ends a stream. A frame that does not show the race
must not be stale, unless the engine has left the race all the same. The
instance must have no car in the world, but a client that disconnects in the
loop may leave one. -/
def EndsInOrder (s : FrontendService) : FrontendEvent → Prop
  | .settings streamId connected => ∀ stream, s.streams.lookup streamId = some stream →
      stream.phase = .starting → connected = false → ∀ carId, ¬ s.Owns stream carId
  | .turn streamId connected _ => ∀ stream, s.streams.lookup streamId = some stream →
      stream.phase = .looping →
      if targetIsActive (some stream.world) s.frame then
        connected = false → ∀ carId carId', s.Owns stream carId → s.Owns stream carId' →
          carId = carId'
      else (connected = true → s.Stale stream → s.HasLeft stream) ∧
        ∀ carId, ¬ s.Owns stream carId
  | _ => True

/-- The owners of the cars are iterated in an order that leaves none out. -/
def Iterates (s : FrontendService) : FrontendEvent → Prop
  | .turn _ _ inputs => ListsOwners s.backend.store (inputs 0).ownerOrder
  | _ => True

section Ending

variable {s : FrontendService} {streamId : ℕ} {stream : FrontendStream} {e : FrontendEvent}
  {backend : Backend}

theorem lookup_setPhase (s : FrontendService) (streamId other : ℕ) (stream : FrontendStream)
    (phase : StreamPhase) : (s.setPhase streamId stream phase).streams.lookup other =
      if other = streamId then some { stream with phase := phase } else s.streams.lookup other := by
  rw [setPhase, HashMap.lookup_insert_eq]

theorem ends_of_endStream (hlive : s.Live streamId stream)
    (hstep : s.step e = s.endStream streamId stream backend) : s.Ends e streamId stream := by
  refine ⟨hlive, fun stream' hlive' => hlive'.2 ?_⟩
  have hlookup := hlive'.1
  rw [hstep, endStream, lookup_setPhase, if_pos rfl] at hlookup
  rw [← Option.some.inj hlookup]

theorem lookup_endStream_ne {other : ℕ} (h : streamId ≠ other) :
    (s.endStream other stream backend).streams.lookup streamId = s.streams.lookup streamId := by
  rw [endStream, lookup_setPhase, if_neg h]

theorem lookup_sendSettings_ne {other : ℕ} (h : streamId ≠ other) (connected : Bool) :
    (s.sendSettings other connected).streams.lookup streamId = s.streams.lookup streamId := by
  unfold sendSettings
  split
  · rfl
  · split
    · rfl
    · split
      · rw [lookup_setPhase, if_neg h]
      · exact lookup_endStream_ne h

theorem lookup_takeTurn_ne {other : ℕ} (h : streamId ≠ other) (connected : Bool)
    (inputs : ℕ → ServiceInput) :
    (s.takeTurn other connected inputs).streams.lookup streamId = s.streams.lookup streamId := by
  unfold takeTurn
  split
  · rfl
  · split
    · rfl
    · split
      · rfl
      · exact lookup_endStream_ne h
      · exact lookup_endStream_ne h

theorem sendSettings_eq (h : s.streams.lookup streamId = some stream) (connected : Bool) :
    s.sendSettings streamId connected =
      if stream.phase ≠ .starting then s
      else if connected then s.setPhase streamId stream .looping
      else s.endStream streamId stream s.backend := by
  rw [sendSettings, h]

theorem takeTurn_eq (h : s.streams.lookup streamId = some stream) (connected : Bool)
    (inputs : ℕ → ServiceInput) :
    s.takeTurn streamId connected inputs =
      if stream.phase ≠ .looping then s
      else if targetIsActive (some stream.world) s.frame then
        if connected then s else s.endStream streamId stream (s.cleanedUp stream inputs)
      else s.endStream streamId stream s.backend := by
  rw [takeTurn, h]
  dsimp only
  split
  · rfl
  · unfold spectatorTurn
    by_cases hactive : targetIsActive (some stream.world) s.frame
    · cases connected <;> simp [hactive]
    · simp [hactive]

theorem live_of_phase {phase : StreamPhase} (h : s.streams.lookup streamId = some stream)
    (hphase : stream.phase = phase) (hne : phase ≠ .ended) : s.Live streamId stream :=
  ⟨h, hphase ▸ hne⟩

/-- A stream that does not see its race. -/
theorem step_turn_gone (h : s.streams.lookup streamId = some stream)
    (hphase : stream.phase = .looping)
    (hgone : ¬ targetIsActive (some stream.world) s.frame = true) (connected : Bool)
    (inputs : ℕ → ServiceInput) : s.step (.turn streamId connected inputs) =
      s.endStream streamId stream s.backend := by
  dsimp only [step]
  rw [takeTurn_eq h, if_neg (not_not.mpr hphase), if_neg hgone]

/-- Where a stream ends, and how. -/
theorem Ends.cases (h : s.Ends e streamId stream) :
    (e = .settings streamId false ∧ stream.phase = .starting ∧
      s.step e = s.endStream streamId stream s.backend) ∨
    (∃ connected inputs, e = .turn streamId connected inputs ∧ stream.phase = .looping ∧
      targetIsActive (some stream.world) s.frame = false ∧
      s.step e = s.endStream streamId stream s.backend) ∨
    ∃ inputs, e = .turn streamId false inputs ∧ stream.phase = .looping ∧
      targetIsActive (some stream.world) s.frame = true ∧
      s.step e = s.endStream streamId stream (s.cleanedUp stream inputs) := by
  obtain ⟨hlive, hgone⟩ := h
  have hstays : (s.step e).streams.lookup streamId ≠ s.streams.lookup streamId :=
    fun hlookup => hgone stream ⟨hlookup.trans hlive.1, hlive.2⟩
  cases e with
  | engineMoves state => exact absurd rfl hstays
  | readRuntime readable => exact absurd rfl hstays
  | publishFrame frame => exact absurd rfl hstays
  | otherTasks backend => exact absurd rfl hstays
  | start cfg target cleanupInstanceUuid =>
      dsimp only [step] at hgone hstays
      unfold startStream at hgone hstays
      split at hstays
      · exact absurd rfl hstays
      · rename_i world hworld
        rw [hworld] at hgone
        dsimp only at hgone hstays
        rw [HashMap.lookup_insert_eq] at hstays
        by_cases hid : streamId = s.nextStreamId
        · refine absurd ⟨?_, ?_⟩ (hgone ⟨{ cfg with visibleTarget := some world }, world,
            cleanupInstanceUuid, s.past.length, .starting⟩)
          · rw [HashMap.lookup_insert_eq, if_pos hid]
          · exact nofun
        · exact absurd (if_neg hid) hstays
  | settings other connected =>
      dsimp only [step] at hgone hstays ⊢
      by_cases hid : streamId = other
      · subst hid
        rw [sendSettings_eq hlive.1] at hgone hstays ⊢
        by_cases hphase : stream.phase = .starting
        · rw [if_neg (not_not.mpr hphase)] at hgone hstays ⊢
          cases connected with
          | true =>
              refine absurd ⟨?_, ?_⟩ (hgone { stream with phase := .looping })
              · rw [if_pos rfl, lookup_setPhase, if_pos rfl]
              · exact nofun
          | false => exact .inl ⟨rfl, hphase, rfl⟩
        · rw [if_pos hphase] at hstays
          exact absurd rfl hstays
      · exact absurd (lookup_sendSettings_ne hid connected) hstays
  | turn other connected inputs =>
      dsimp only [step] at hgone hstays ⊢
      by_cases hid : streamId = other
      · subst hid
        rw [takeTurn_eq hlive.1] at hstays ⊢
        by_cases hphase : stream.phase = .looping
        · rw [if_neg (not_not.mpr hphase)] at hstays ⊢
          by_cases hactive : targetIsActive (some stream.world) s.frame
          · rw [if_pos hactive] at hstays ⊢
            cases connected with
            | true => exact absurd rfl hstays
            | false => exact .inr (.inr ⟨inputs, rfl, hphase, hactive, rfl⟩)
          · rw [if_neg hactive]
            exact .inr (.inl ⟨connected, inputs, rfl, hphase, Bool.eq_false_iff.mpr hactive, rfl⟩)
        · rw [if_pos hphase] at hstays
          exact absurd rfl hstays
      · exact absurd (lookup_takeTurn_ne hid connected inputs) hstays

/-- What is left to be shown of a stream that ends. -/
theorem endsWell_iff (hstep : s.step e = s.endStream streamId stream backend) :
    s.EndsWell e streamId stream ↔ (e.Disconnects streamId ∨ s.HasLeft stream) ∧
      ∀ carId, s.Owns stream carId → ¬ InCarMaps backend.store carId := by
  constructor
  · intro h
    refine ⟨h.reason, fun carId howns => ?_⟩
    have hcars := h.cars carId howns
    rwa [hstep] at hcars
  · rintro ⟨hreason, hcars⟩
    refine ⟨hreason, ?_, fun carId howns => ?_⟩
    · rw [hstep]
      exact Finset.notMem_erase _ _
    · rw [hstep]
      exact hcars carId howns

theorem Owns.inCarMaps {carId : ℕ} (h : s.Owns stream carId) :
    InCarMaps s.backend.store carId := by
  obtain ⟨uuid, -, howned⟩ := h
  exact .inr (.inl (Finmap.mem_of_lookup_eq_some howned.owner))

/-- Without a clean-up there must be no car. -/
theorem kept_iff : (∀ carId, s.Owns stream carId → ¬ InCarMaps s.backend.store carId) ↔
    ∀ carId, ¬ s.Owns stream carId :=
  forall_congr' fun _ => ⟨fun h howns => h howns howns.inCarMaps, fun h howns => absurd howns h⟩

theorem not_inCarMaps_dropState (store : RaceRuntimeStore) (carId : ℕ) :
    ¬ InCarMaps (store.dropState carId) carId := by
  rw [dropState_eq]
  simp [InCarMaps]

/-- The clean-up takes one car. -/
theorem cleanedUp_iff {inputs : ℕ → ServiceInput}
    (hlists : ListsOwners s.backend.store (inputs 0).ownerOrder) :
    (∀ carId, s.Owns stream carId → ¬ InCarMaps (s.cleanedUp stream inputs).store carId) ↔
      ∀ carId carId', s.Owns stream carId → s.Owns stream carId' → carId = carId' := by
  cases huuid : stream.cleanupInstanceUuid with
  | none =>
      have hnone : ∀ carId, ¬ s.Owns stream carId := by
        rintro carId ⟨uuid, hsome, -⟩
        rw [huuid] at hsome
        cases hsome
      exact ⟨fun _ carId _ howns => absurd howns (hnone carId),
        fun _ carId howns => absurd howns (hnone carId)⟩
  | some uuid =>
      have howns : ∀ carId, s.Owns stream carId ↔
          OwnedIn s.backend.store uuid stream.world carId := by
        intro carId
        rw [Owns, huuid]
        simp
      have hcleaned : s.cleanedUp stream inputs =
          ((Tasks.cleanupFrontendCars (some stream.world) (some uuid)).run
            (execCall stream.cfg.build) inputs s.backend).1 := by
        rw [cleanedUp, huuid]
      have hcases : (∃ carId, resolvedCar stream.cfg.build uuid stream.world inputs s.backend =
            some carId ∧ OwnedIn s.backend.store uuid stream.world carId) ∨
          (∀ carId, ¬ OwnedIn s.backend.store uuid stream.world carId) ∧ _ :=
        resolvedCar_cases hlists
      rw [hcleaned, cleanedUp_store]
      rcases hcases with ⟨taken, hresolved, htaken⟩ | ⟨hfree, -⟩
      · rw [hresolved]
        have hothers : ∀ carId, s.Owns stream carId → carId ≠ taken →
            InCarMaps (s.backend.store.dropState taken) carId := by
          intro carId hcar hne
          have howner := (dropState_sameEntries (s := s.backend.store) hne).owner
          rw [((howns carId).mp hcar).owner] at howner
          exact .inr (.inl (Finmap.mem_of_lookup_eq_some howner))
        constructor
        · intro hgone
          have htakenOnly : ∀ carId, s.Owns stream carId → carId = taken := fun carId hcar =>
            by_contra fun hne => hgone carId hcar (hothers carId hcar hne)
          intro carId carId' hcar hcar'
          rw [htakenOnly carId hcar, htakenOnly carId' hcar']
        · intro hsame carId hcar
          rw [hsame carId taken hcar ((howns taken).mpr htaken)]
          exact not_inCarMaps_dropState _ _
      · have hnone : ∀ carId, ¬ s.Owns stream carId := fun carId hcar =>
          hfree carId ((howns carId).mp hcar)
        exact ⟨fun _ carId _ hcar => absurd hcar (hnone carId),
          fun _ carId hcar => absurd hcar (hnone carId)⟩

end Ending

/-! ## The latest frame -/

/-- What the hub has read is a state of the engine, and a stream was started
for a race that the engine ran then. -/
structure Informed (s : FrontendService) : Prop where
  reading : ∀ state, s.reading = some state → s.Was s.readAt state
  frame : ∀ state, s.frame.runtimeState = some state → s.Was s.collectedAt state
  started : ∀ streamId stream, s.streams.lookup streamId = some stream →
    ∃ state, s.Was stream.startedAt state ∧ runsRace stream.world state

section Frames

variable {s : FrontendService} {stream : FrontendStream} {moves : ℕ}
  {state state' : EngineRuntimeState}

theorem Was.unique (h : s.Was moves state) (h' : s.Was moves state') : state = state' :=
  Option.some.inj (h.2.symm.trans h'.2)

theorem was_now (s : FrontendService) : s.Was s.past.length s.engine :=
  ⟨Nat.le_refl _, by rw [Nat.sub_self]; rfl⟩

theorem Was.engineMoves (h : s.Was moves state) (next : EngineRuntimeState) :
    (s.step (.engineMoves next)).Was moves state := by
  obtain ⟨hle, hstate⟩ := h
  refine ⟨Nat.le_succ_of_le hle, ?_⟩
  dsimp only [step]
  rw [List.length_cons, Nat.succ_sub hle, List.getElem?_cons_succ]
  exact hstate

/-- A frame that is not stale tells the truth. -/
theorem Informed.hasLeft (h : s.Informed) {streamId : ℕ}
    (hstream : s.streams.lookup streamId = some stream) (hfresh : ¬ s.Stale stream)
    (hshown : targetIsActive (some stream.world) s.frame = false) : s.HasLeft stream := by
  rw [Stale, not_or, Nat.not_lt] at hfresh
  obtain ⟨state, hstate⟩ := Option.ne_none_iff_exists'.mp hfresh.1
  have hwas := h.frame state hstate
  have hgone := not_targetIsActive hshown hstate
  obtain ⟨first, hfirst, hruns⟩ := h.started streamId stream hstream
  rcases Nat.eq_or_lt_of_le hfresh.2 with heq | hlt
  · rw [heq] at hfirst
    rw [hfirst.unique hwas, hgone] at hruns
    cases hruns
  · exact ⟨s.collectedAt, state, hlt, hwas, hgone⟩

theorem informed_initial (engine : EngineRuntimeState) (backend : Backend) :
    (initial engine backend).Informed where
  reading _ h := by cases h
  frame _ h := by cases h
  started streamId stream h := by
    rw [initial, Finmap.lookup_empty] at h
    cases h

theorem Informed.setPhase (h : s.Informed) {streamId : ℕ}
    (hstream : s.streams.lookup streamId = some stream) (phase : StreamPhase) :
    (s.setPhase streamId stream phase).Informed where
  reading := h.reading
  frame := h.frame
  started other stream' hlookup := by
    rw [lookup_setPhase] at hlookup
    split at hlookup
    · obtain rfl := Option.some.inj hlookup
      exact h.started streamId stream hstream
    · exact h.started other stream' hlookup

theorem Informed.endStream (h : s.Informed) {streamId : ℕ}
    (hstream : s.streams.lookup streamId = some stream) (backend : Backend) :
    (s.endStream streamId stream backend).Informed where
  reading := h.reading
  frame := h.frame
  started := (h.setPhase hstream .ended).started

theorem Informed.startStream (h : s.Informed) (cfg : SpectatorConfig)
    (target : Option FrontendSpectatorTarget) (cleanupInstanceUuid : Option String) :
    (s.startStream cfg target cleanupInstanceUuid).Informed := by
  unfold FrontendService.startStream
  split
  · exact h
  · rename_i world hworld
    refine ⟨h.reading, h.frame, fun streamId stream' hlookup => ?_⟩
    dsimp only at hlookup
    rw [HashMap.lookup_insert_eq] at hlookup
    split at hlookup
    · obtain rfl := Option.some.inj hlookup
      exact ⟨s.engine, was_now s, runsRace_of_resolved hworld⟩
    · exact h.started streamId stream' hlookup

theorem Informed.step (h : s.Informed) (e : FrontendEvent) : (s.step e).Informed := by
  cases e with
  | engineMoves next =>
      refine ⟨fun state hstate => ?_, fun state hstate => ?_, fun streamId stream hstream => ?_⟩
      · exact (h.reading state hstate).engineMoves next
      · exact (h.frame state hstate).engineMoves next
      · obtain ⟨state, hwas, hruns⟩ := h.started streamId stream hstream
        exact ⟨state, hwas.engineMoves next, hruns⟩
  | readRuntime readable =>
      refine ⟨fun state hstate => ?_, h.frame, h.started⟩
      cases readable with
      | true =>
          cases hstate
          exact was_now s
      | false => cases hstate
  | publishFrame frame => exact ⟨h.reading, h.reading, h.started⟩
  | otherTasks backend => exact ⟨h.reading, h.frame, h.started⟩
  | start cfg target cleanupInstanceUuid => exact h.startStream cfg target cleanupInstanceUuid
  | settings streamId connected =>
      dsimp only [FrontendService.step]
      cases hlookup : s.streams.lookup streamId with
      | none =>
          rw [sendSettings, hlookup]
          exact h
      | some stream =>
          rw [sendSettings_eq hlookup]
          split
          · exact h
          · split
            · exact h.setPhase hlookup _
            · exact h.endStream hlookup _
  | turn streamId connected inputs =>
      dsimp only [FrontendService.step]
      cases hlookup : s.streams.lookup streamId with
      | none =>
          rw [takeTurn, hlookup]
          exact h
      | some stream =>
          rw [takeTurn_eq hlookup]
          split
          · exact h
          · split
            · split
              · exact h
              · exact h.endStream hlookup _
            · exact h.endStream hlookup _

/-- A step ends its streams well exactly when they end in order. -/
theorem Informed.endsWell_iff (h : s.Informed) {e : FrontendEvent} (hiterates : s.Iterates e) :
    (∀ streamId stream, s.Ends e streamId stream → s.EndsWell e streamId stream) ↔
      s.EndsInOrder e := by
  constructor
  · intro hall
    cases e with
    | settings streamId connected =>
        rintro stream hstream hphase rfl
        have hlive := live_of_phase hstream hphase (by decide)
        have hstep : s.step (.settings streamId false) =
            s.endStream streamId stream s.backend := by
          dsimp only [FrontendService.step]
          rw [sendSettings_eq hstream, if_neg (not_not.mpr hphase)]
          rfl
        have hwell := hall streamId stream (ends_of_endStream hlive hstep)
        exact kept_iff.mp ((FrontendService.endsWell_iff hstep).mp hwell).2
    | turn streamId connected inputs =>
        intro stream hstream hphase
        have hlive := live_of_phase hstream hphase (by decide)
        split
        · rename_i hactive
          rintro rfl
          have hstep : s.step (.turn streamId false inputs) =
              s.endStream streamId stream (s.cleanedUp stream inputs) := by
            dsimp only [FrontendService.step]
            rw [takeTurn_eq hstream, if_neg (not_not.mpr hphase), if_pos hactive]
            rfl
          have hwell := hall streamId stream (ends_of_endStream hlive hstep)
          exact (cleanedUp_iff hiterates).mp ((FrontendService.endsWell_iff hstep).mp hwell).2
        · rename_i hactive
          have hstep := step_turn_gone hstream hphase hactive connected inputs
          have hwell := (FrontendService.endsWell_iff hstep).mp
            (hall streamId stream (ends_of_endStream hlive hstep))
          refine ⟨fun hconnected _ => ?_, kept_iff.mp hwell.2⟩
          refine hwell.1.resolve_left fun hdisconnects => ?_
          rw [hconnected] at hdisconnects
          cases hdisconnects.2
    | _ => trivial
  · intro horder streamId stream hends
    rcases hends.cases with ⟨rfl, hphase, hstep⟩ |
      ⟨connected, inputs, rfl, hphase, hactive, hstep⟩ | ⟨inputs, rfl, hphase, hactive, hstep⟩
    · refine (FrontendService.endsWell_iff hstep).mpr ⟨.inl ⟨rfl, rfl⟩, ?_⟩
      exact kept_iff.mpr (horder stream hends.1.1 hphase rfl)
    · have hcond := horder stream hends.1.1 hphase
      rw [hactive, if_neg Bool.false_ne_true] at hcond
      refine (FrontendService.endsWell_iff hstep).mpr ⟨?_, kept_iff.mpr hcond.2⟩
      cases connected with
      | false => exact .inl ⟨rfl, rfl⟩
      | true =>
          by_cases hstale : s.Stale stream
          · exact .inr (hcond.1 rfl hstale)
          · exact .inr (h.hasLeft hends.1.1 hstale hactive)
    · have hcond := horder stream hends.1.1 hphase
      rw [hactive, if_pos rfl] at hcond
      refine (FrontendService.endsWell_iff hstep).mpr ⟨.inl ⟨rfl, rfl⟩, ?_⟩
      exact (cleanedUp_iff hiterates).mpr (hcond rfl)

end Frames

end FrontendService

/-- Along a run the streams end for a reason and leave no car behind exactly
when no stale frame ends one before the engine has left its race, and no car
is there to be left but the one of a client that disconnects in the loop. -/
theorem spectator_streams_end_well_iff (engine : EngineRuntimeState) (backend : Backend)
    (events : List FrontendEvent)
    (hiterates : Along FrontendService.Iterates FrontendService.step
      (FrontendService.initial engine backend) events) :
    Along (fun s e => ∀ streamId stream, s.Ends e streamId stream → s.EndsWell e streamId stream)
        FrontendService.step (FrontendService.initial engine backend) events ↔
      Along FrontendService.EndsInOrder FrontendService.step
        (FrontendService.initial engine backend) events := by
  refine hiterates.congr (I := FrontendService.Informed) ?_ ?_ ?_
  · intro s e hinformed _
    exact hinformed.step e
  · intro s e hinformed hiterates
    exact hinformed.endsWell_iff hiterates
  · exact FrontendService.informed_initial engine backend

namespace WatchedRace

def racing : EngineRuntimeState := ⟨0, .officialRace, "m", none, [], .noon, []⟩

/-- The instance "u" has a car in the official race. -/
def oneCar : Backend where
  store := { RaceRuntimeStore.new with
    nextPublicCarId := 2
    knownCars := {1}
    instanceCars := Finmap.insert "u" 1 ∅
    carOwners := Finmap.insert 1 "u" ∅
    carEngineIds := Finmap.insert 1 7 ∅
    carTargets := Finmap.insert 1 .officialRace ∅ }
  races := .new

def cfg : SpectatorConfig := Downgraded.asksForAll []

def inputs (_ : ℕ) : ServiceInput := sandboxInput

/-- A stream of the official race that has sent its first event. -/
def watch (uuid : Option String) : List FrontendEvent :=
  [.readRuntime true, .publishFrame .default, .start cfg (some .officialRace) uuid,
    .settings 1 true]

def watching (uuid : Option String) : FrontendService :=
  (watch uuid).foldl FrontendService.step (.initial racing oneCar)

def stream (uuid : Option String) : FrontendStream :=
  ⟨{ cfg with visibleTarget := some .officialRace }, .officialRace, uuid, 0, .looping⟩

theorem watching_stream (uuid : Option String) :
    (watching uuid).streams.lookup 1 = some (stream uuid) := by
  cases uuid <;> rfl

theorem owner_eq_one {carId : ℕ} {uuid : String}
    (h : OwnedIn oneCar.store uuid .officialRace carId) : carId = 1 := by
  have howner := h.owner
  simp only [oneCar, HashMap.lookup_insert_eq, Finmap.lookup_empty] at howner
  split at howner
  · assumption
  · cases howner

theorem oneCar_listed : ListsOwners oneCar.store (inputs 0).ownerOrder := by
  intro carId hmem
  rcases Finmap.mem_insert.mp hmem with rfl | hmem
  · exact List.mem_singleton_self _
  · exact absurd hmem Finmap.notMem_empty

theorem watching_frame (uuid : Option String) :
    targetIsActive (some .officialRace) (watching uuid).frame = true := by
  cases uuid <;> rfl

theorem watching_backend (uuid : Option String) : (watching uuid).backend = oneCar := by
  cases uuid <;> rfl

theorem watching_inOrder (uuid : Option String) :
    (watching uuid).EndsInOrder (.turn 1 false inputs) := by
  intro stream hstream _
  rw [watching_stream] at hstream
  obtain rfl := Option.some.inj hstream
  rw [WatchedRace.stream, if_pos (watching_frame uuid)]
  rintro - carId carId' ⟨_, -, hcar⟩ ⟨_, -, hcar'⟩
  rw [watching_backend] at hcar hcar'
  rw [owner_eq_one hcar, owner_eq_one hcar']

def unread : FrontendService :=
  [.readRuntime false, .publishFrame .default].foldl FrontendService.step (watching none)

def finished : FrontendService :=
  [.engineMoves { racing with activityKind := .none }, .readRuntime true,
    .publishFrame .default].foldl FrontendService.step (watching (some "u"))

theorem unread_ends :
    unread.Ends (.turn 1 true inputs) 1 (stream none) := by
  have hstream : unread.streams.lookup 1 = some (stream none) := watching_stream none
  apply FrontendService.ends_of_endStream
  · exact FrontendService.live_of_phase hstream rfl (by decide)
  · exact FrontendService.step_turn_gone hstream rfl (by decide) true inputs

theorem finished_step : finished.step (.turn 1 true inputs) =
    finished.endStream 1 (stream (some "u")) oneCar := by
  have hstream : finished.streams.lookup 1 = some (stream (some "u")) := watching_stream (some "u")
  exact FrontendService.step_turn_gone hstream rfl (by decide) true inputs

theorem finished_ends : finished.Ends (.turn 1 true inputs) 1 (stream (some "u")) :=
  FrontendService.ends_of_endStream
    (FrontendService.live_of_phase (watching_stream (some "u")) rfl (by decide)) finished_step

end WatchedRace

open WatchedRace FrontendService in
/-- The client leaves, and the car with it. -/
theorem watched_to_the_end :
    Along (fun s e => ∀ streamId stream, s.Ends e streamId stream → s.EndsWell e streamId stream)
      step (initial racing oneCar) (watch (some "u") ++ [.turn 1 false inputs]) := by
  refine (spectator_streams_end_well_iff racing oneCar _ ?_).mpr ?_
  · exact ⟨trivial, trivial, trivial, trivial, oneCar_listed, trivial⟩
  · refine ⟨trivial, trivial, trivial, ?_, ?_, trivial⟩
    · intro stream _ _ hconnected
      cases hconnected
    · exact watching_inOrder (some "u")

open WatchedRace FrontendService in
/-- A frame without the runtime state ends a stream while the engine runs the
race; and when the race is over, its stream leaves the car behind. -/
theorem watched_too_short :
    ¬ Along (fun s e => ∀ streamId stream, s.Ends e streamId stream →
        s.EndsWell e streamId stream) step (initial racing oneCar)
      (watch none ++ [.readRuntime false, .publishFrame .default, .turn 1 true inputs]) ∧
    ¬ Along (fun s e => ∀ streamId stream, s.Ends e streamId stream →
        s.EndsWell e streamId stream) step (initial racing oneCar)
      (watch (some "u") ++ [.engineMoves { racing with activityKind := .none },
        .readRuntime true, .publishFrame .default, .turn 1 true inputs]) := by
  constructor
  · rintro ⟨-, -, -, -, -, -, hturn, -⟩
    rcases (hturn 1 _ unread_ends).reason with hdisconnects | ⟨moves, state, hafter, hwas, -⟩
    · cases hdisconnects.2
    · exact absurd hwas.1 (Nat.not_le.mpr hafter)
  · rintro ⟨-, -, -, -, -, -, -, hturn, -⟩
    have howns : finished.Owns (stream (some "u")) 1 := ⟨"u", rfl, rfl, rfl⟩
    have hgone := ((endsWell_iff finished_step).mp (hturn 1 _ finished_ends)).2 1 howns
    exact hgone (.inl (Finset.mem_singleton_self 1))

end HackArena.Services
