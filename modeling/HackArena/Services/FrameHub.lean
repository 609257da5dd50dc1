import HackArena.Runtime.CarWorld
import HackArena.Runtime.EngineClient
import HackArena.Services.CarCalls
import HackArena.Services.SandboxJoin

/-!
# The frame hub

Each tick the hub reads every known car from its world into one frame,
and drops from the store the cars that the engine no longer knows. With
no other commands in between, every engine call sees the worker as the
previous call left it.
-/

namespace HackArena.Services

open Boink HackArena.Runtime

variable {E : Type}

structure RuntimeCarFrame where
  publicCarId : ℕ
  engineCarId : ℕ
  target : EngineCommandTarget
  state : VehicleState
  raceMetrics : Option VehicleRaceMetrics
  bestLapTimeMs : Option ℕ
  lastClientSeq : ℕ
  identity : Option RuntimeCarIdentity
  pitState : RuntimePitStateSnapshot
  controlsInput : RuntimeControlInputSnapshot

structure RuntimeFrame where
  tick : ℕ
  serverTimeMs : ℕ
  runtimeState : Option EngineRuntimeState
  cars : HashMap ℕ RuntimeCarFrame
  officialRaceDurationS : Option F32
  localRaceDurationS : HashMap String F32
  sandboxRaceDurationS : HashMap String F32
  officialLapLengthM : Option F32
  localRaceLapLengthM : HashMap String F32
  sandboxLapLengthM : HashMap String F32

/-- `RuntimeFrame::default()`. -/
def RuntimeFrame.default : RuntimeFrame := ⟨0, 0, none, ∅, none, ∅, ∅, none, ∅, ∅⟩

/-- The lap length caches hold the map they were read for. -/
structure FrameCollectorCache where
  officialMapId : Option String
  officialLapLengthM : Option F32
  sandboxLapLengthM : String → Option (String × F32)
  localRaceLapLengthM : String → Option (String × F32)
  bestLapTimeMs : HashMap ℕ ℕ

def FrameCollectorCache.default : FrameCollectorCache :=
  ⟨none, none, fun _ => none, fun _ => none, ∅⟩

/-- What one collection works on. -/
structure Hub (E : Type) where
  worker : Worker E
  store : RaceRuntimeStore
  cache : FrameCollectorCache
  frame : RuntimeFrame

/-! ## Durations and lap lengths -/

def insertSome {α : Type} (m : HashMap String α) (key : String) : Option α → HashMap String α
  | none => m
  | some value => m.insert key value

def collectOfficial (env : EngineEnv E) (runtimeState : EngineRuntimeState) (h : Hub E) : Hub E :=
  if runtimeState.activityKind ≠ .officialRace then h
  else
    let r := raceDurationIn env h.worker .officialRace
    let h := { h with
      worker := r.1
      frame := { h.frame with officialRaceDurationS := r.2.toOption } }
    let h :=
      if h.cache.officialMapId = some runtimeState.mapId then h
      else
        let t := trackDataIn env h.worker .officialRace
        { h with
          worker := t.1
          cache := { h.cache with
            officialMapId := some runtimeState.mapId
            officialLapLengthM := t.2.toOption.map fun data => max data.lapLengthM 1 } }
    { h with frame := { h.frame with officialLapLengthM := h.cache.officialLapLengthM } }

/-- The duration of a world and its cached lap length, read again when
the cache is for another map. A failed read keeps what is cached. -/
def readWorldTiming (env : EngineEnv E) (w : Worker E) (target : EngineCommandTarget)
    (mapId : String) (cached : Option (String × F32)) :
    Worker E × Option F32 × Option (String × F32) :=
  let d := raceDurationIn env w target
  if cached.map (·.1) = some mapId then (d.1, d.2.toOption, cached)
  else
    let t := trackDataIn env d.1 target
    (t.1, d.2.toOption, match t.2 with
      | .ok data => some (mapId, max data.lapLengthM 1)
      | .error _ => cached)

def collectLocalRace (env : EngineEnv E) (runtimeState : EngineRuntimeState) (h : Hub E) : Hub E :=
  match runtimeState.activeLocalRace with
  | none => { h with cache := { h.cache with localRaceLapLengthM := fun _ => none } }
  | some active =>
      let retained : String → Option (String × F32) := fun raceId =>
        if active.raceId = raceId then h.cache.localRaceLapLengthM raceId else none
      let r := readWorldTiming env h.worker (.localRace active.raceId) active.mapId
        (retained active.raceId)
      { h with
        worker := r.1
        cache := { h.cache with
          localRaceLapLengthM := Function.update retained active.raceId r.2.2 }
        frame := { h.frame with
          localRaceDurationS := insertSome h.frame.localRaceDurationS active.raceId r.2.1
          localRaceLapLengthM := insertSome h.frame.localRaceLapLengthM active.raceId
            (r.2.2.map (·.2)) } }

def collectSandbox (env : EngineEnv E) (h : Hub E) (active : EngineActiveSandboxState) : Hub E :=
  let r := readWorldTiming env h.worker (.sandbox active.sandboxId) active.mapId
    (h.cache.sandboxLapLengthM active.sandboxId)
  { h with
    worker := r.1
    cache := { h.cache with
      sandboxLapLengthM := Function.update h.cache.sandboxLapLengthM active.sandboxId r.2.2 }
    frame := { h.frame with
      sandboxRaceDurationS := insertSome h.frame.sandboxRaceDurationS active.sandboxId r.2.1
      sandboxLapLengthM := insertSome h.frame.sandboxLapLengthM active.sandboxId
        (r.2.2.map (·.2)) } }

/-- The active sandboxes are visited in their own order; the source goes
through a hash map of them, whose order nothing depends on. -/
def collectSandboxes (env : EngineEnv E) (runtimeState : EngineRuntimeState) (h : Hub E) : Hub E :=
  let h := { h with cache := { h.cache with
    sandboxLapLengthM := fun sandboxId =>
      if isSandboxActive runtimeState sandboxId then h.cache.sandboxLapLengthM sandboxId
      else none } }
  runtimeState.activeSandboxes.foldl (collectSandbox env) h

/-! ## One car -/

def isSandboxRuntimeNotActiveInvalidArgument : EngineWorkerError → Bool
  | .invalidArgument message =>
      Text.contains (Text.asciiLowercase message) "sandbox runtime is not active".toList
  | _ => false

/-- What the collector makes of an engine answer about a car. -/
inductive ReadOutcome (R : Type) where
  | got (value : R)
  | dropCar
  | unreadable

def readOutcome {R : Type} : Except EngineWorkerError R → ReadOutcome R
  | .ok value => .got value
  | .error (.engine .notFound) => .dropCar
  | .error err => if isSandboxRuntimeNotActiveInvalidArgument err then .dropCar else .unreadable

def Hub.dropCar (h : Hub E) (publicCarId : ℕ) : Hub E :=
  { h with
    store := h.store.removeCar publicCarId
    cache := { h.cache with bestLapTimeMs := h.cache.bestLapTimeMs.erase publicCarId } }

/-- Race metrics are read in the official and standalone builds. -/
def readRaceMetrics (b : Build) (env : EngineEnv E) (w : Worker E)
    (target : EngineCommandTarget) (engineCarId : ℕ) :
    Worker E × ReadOutcome (Option VehicleRaceMetrics) :=
  match b with
  | .local => (w, .got none)
  | .official | .standalone =>
      let r := readCarRaceMetricsIn env w target engineCarId
      (r.1, match r.2 with
        | .error (.engine .noData) => .got (some .default)
        | result => match readOutcome result with
          | .got metrics => .got (some metrics)
          | .dropCar => .dropCar
          | .unreadable => .got none)

def updateBestLap (b : Build) (cache : FrameCollectorCache) (publicCarId : ℕ)
    (raceMetrics : Option VehicleRaceMetrics) : FrameCollectorCache × Option ℕ :=
  match b with
  | .local => (cache, none)
  | .official | .standalone =>
      let current := cache.bestLapTimeMs.lookup publicCarId
      match raceMetrics.bind (·.lastLapTimeMs) with
      | none => (cache, current)
      | some lastLapTimeMs =>
          let next := match current with
            | none => lastLapTimeMs
            | some best => min best lastLapTimeMs
          ({ cache with bestLapTimeMs := cache.bestLapTimeMs.insert publicCarId next }, some next)

/-- Mount the planned tyre; `true` when the engine no longer knows the
car. Local builds do so for sandboxes and local races only. -/
def applyPitFixTire (b : Build) (env : EngineEnv E) (w : Worker E) (store : RaceRuntimeStore)
    (target : EngineCommandTarget) (publicCarId engineCarId : ℕ) (state : VehicleState) :
    Worker E × RaceRuntimeStore × Bool :=
  if b.isLocal ∧ target = .officialRace then (w, store, false)
  else
    match store.planPitFixTireApply publicCarId (runtimeTireTypeFromEngine state.tyreType)
        (completedPit state) with
    | (none, store) => (w, store, false)
    | (some desired, store) =>
        match engineTireTypeFromRuntime desired with
        | none => (w, store, false)
        | some tyreType =>
            match setCarTyreTypeIn env w target engineCarId tyreType with
            | (w, .ok ()) => (w, store.markPitFixTireApplied publicCarId desired, false)
            | (w, .error (.engine .notFound)) => (w, store, true)
            | (w, .error _) => (w, store, false)

/-- Hold a car still after a teleport or during an emergency stop. -/
def enforceIdle (env : EngineEnv E) (w : Worker E) (target : EngineCommandTarget)
    (engineCarId : ℕ) (pitState : RuntimePitStateSnapshot) (state : VehicleState) :
    Worker E × VehicleState :=
  if pitState.forceIdle = false then (w, state)
  else
    let brake : F32 := if 0 < pitState.emergencyLockRemainingMs then 1 else 0
    ((setControlsIn env w target engineCarId (Controls.new 0 brake (1 / 2) 0 0 .none)).1,
      { state with
        speed := 0
        engineRpm := 0
        gear := .neutral
        throttleApplied := 0
        brakeApplied := brake })

/-- The part of a car's collection after its state has been read. -/
def collectReadCar (b : Build) (env : EngineEnv E) (h : Hub E) (publicCarId engineCarId : ℕ)
    (target : EngineCommandTarget) (state : VehicleState) : Hub E :=
  match readRaceMetrics b env h.worker target engineCarId with
  | (w, .dropCar) => { h with worker := w }.dropCar publicCarId
  | (w, .unreadable) => { h with worker := w }
  | (w, .got raceMetrics) =>
      let best := updateBestLap b h.cache publicCarId raceMetrics
      let h := { h with worker := w, cache := best.1 }
      match applyPitFixTire b env h.worker h.store target publicCarId engineCarId state with
      | (w, store, true) => { h with worker := w, store := store }.dropCar publicCarId
      | (w, store, false) =>
          let pit := store.updatePitStateFromRuntime b publicCarId state raceMetrics
            h.frame.serverTimeMs
          let idle := enforceIdle env w target engineCarId pit.1 state
          let carFrame : RuntimeCarFrame :=
            { publicCarId := publicCarId
              engineCarId := engineCarId
              target := target
              state := idle.2
              raceMetrics := raceMetrics
              bestLapTimeMs := best.2
              lastClientSeq := pit.2.carLastClientSeq publicCarId
              identity := pit.2.carIdentity.lookup publicCarId
              pitState := pit.1
              controlsInput := pit.2.controlsInputSnapshot publicCarId }
          { h with
            worker := idle.1
            store := pit.2
            frame := { h.frame with cars := h.frame.cars.insert publicCarId carFrame } }

def collectCar (b : Build) (env : EngineEnv E) (h : Hub E) (publicCarId : ℕ) : Hub E :=
  match h.store.carTargets.lookup publicCarId with
  | none => h.dropCar publicCarId
  | some target =>
      match h.store.carEngineIds.lookup publicCarId with
      | none => h.dropCar publicCarId
      | some engineCarId =>
          let r := readCarStateIn env h.worker target engineCarId
          match readOutcome r.2 with
          | .dropCar => { h with worker := r.1 }.dropCar publicCarId
          | .unreadable => { h with worker := r.1 }
          | .got state =>
              collectReadCar b env { h with worker := r.1 } publicCarId engineCarId target state

def collectFrame (b : Build) (env : EngineEnv E) (w : Worker E) (store : RaceRuntimeStore)
    (cache : FrameCollectorCache) (tick nowMs : ℕ) : Hub E :=
  let h : Hub E := ⟨w, store, cache, { RuntimeFrame.default with
    tick := tick, serverTimeMs := nowMs, runtimeState := some w.state }⟩
  let h := collectSandboxes env w.state (collectLocalRace env w.state
    (collectOfficial env w.state h))
  h.store.knownCarIds.foldl (collectCar b env) h

/-! ## What a collection leaves alone -/

/-- The store is the same; the worker has executed world commands. -/
structure Timed (b : Build) (env : EngineEnv E) (h h' : Hub E) : Prop where
  worker : Commanded b env h.worker h'.worker
  store : h'.store = h.store

theorem readWorldTiming_commanded (b : Build) (env : EngineEnv E) (w : Worker E)
    (target : EngineCommandTarget) (mapId : String) (cached : Option (String × F32)) :
    Commanded b env w (readWorldTiming env w target mapId cached).1 := by
  rw [readWorldTiming]
  dsimp only
  split
  · exact raceDurationIn_commanded b env w target
  · exact (raceDurationIn_commanded b env w target).trans (trackDataIn_commanded b env _ target)

theorem collectOfficial_timed (b : Build) (env : EngineEnv E) (s : EngineRuntimeState)
    (h : Hub E) : Timed b env h (collectOfficial env s h) := by
  rw [collectOfficial]
  dsimp only
  split
  · exact ⟨.refl, rfl⟩
  · split
    · exact ⟨raceDurationIn_commanded b env _ _, rfl⟩
    · exact ⟨(raceDurationIn_commanded b env _ _).trans (trackDataIn_commanded b env _ _), rfl⟩

theorem collectLocalRace_timed (b : Build) (env : EngineEnv E) (s : EngineRuntimeState)
    (h : Hub E) : Timed b env h (collectLocalRace env s h) := by
  rw [collectLocalRace]
  split
  · exact ⟨.refl, rfl⟩
  · exact ⟨readWorldTiming_commanded b env _ _ _ _, rfl⟩

theorem foldl_collectSandbox_timed (b : Build) (env : EngineEnv E)
    (actives : List EngineActiveSandboxState) (h : Hub E) :
    Timed b env h (actives.foldl (collectSandbox env) h) := by
  induction actives generalizing h with
  | nil => exact ⟨.refl, rfl⟩
  | cons active actives ih =>
      have hfirst : Timed b env h (collectSandbox env h active) :=
        ⟨readWorldTiming_commanded b env _ _ _ _, rfl⟩
      have hrest := ih (collectSandbox env h active)
      exact ⟨hfirst.worker.trans hrest.worker, hrest.store.trans hfirst.store⟩

theorem collectSandboxes_timed (b : Build) (env : EngineEnv E) (s : EngineRuntimeState)
    (h : Hub E) : Timed b env h (collectSandboxes env s h) := by
  have hrest := foldl_collectSandbox_timed b env s.activeSandboxes
    { h with cache := { h.cache with
      sandboxLapLengthM := fun sandboxId =>
        if isSandboxActive s sandboxId then h.cache.sandboxLapLengthM sandboxId else none } }
  exact ⟨hrest.worker, hrest.store⟩

theorem readRaceMetrics_commanded (b : Build) (env : EngineEnv E) (w : Worker E)
    (target : EngineCommandTarget) (engineCarId : ℕ) :
    Commanded b env w (readRaceMetrics b env w target engineCarId).1 := by
  cases b with
  | «local» => exact .refl
  | official => exact readCarRaceMetricsIn_commanded _ env w target engineCarId
  | standalone => exact readCarRaceMetricsIn_commanded _ env w target engineCarId

theorem enforceIdle_commanded (b : Build) (env : EngineEnv E) (w : Worker E)
    (target : EngineCommandTarget) (engineCarId : ℕ) (pitState : RuntimePitStateSnapshot)
    (state : VehicleState) :
    Commanded b env w (enforceIdle env w target engineCarId pitState state).1 := by
  rw [enforceIdle]
  split
  · exact .refl
  · exact setControlsIn_commanded b env w target engineCarId _

/-- Mounting a tyre sends world commands and writes the car's pit state. -/
theorem applyPitFixTire_spec (b : Build) (env : EngineEnv E) (w : Worker E)
    (store : RaceRuntimeStore) (target : EngineCommandTarget) (publicCarId engineCarId : ℕ)
    (state : VehicleState) :
    Commanded b env w (applyPitFixTire b env w store target publicCarId engineCarId state).1 ∧
      PitWritten publicCarId store
        (applyPitFixTire b env w store target publicCarId engineCarId state).2.1 := by
  rw [applyPitFixTire]
  split
  · exact ⟨.refl, PitWritten.refl⟩
  · have hplan : PitWritten publicCarId store (store.planPitFixTireApply publicCarId
        (runtimeTireTypeFromEngine state.tyreType) (completedPit state)).2 :=
      Or.inr ⟨_, planPitFixTireApply_store ..⟩
    generalize store.planPitFixTireApply publicCarId (runtimeTireTypeFromEngine state.tyreType)
      (completedPit state) = plan at hplan ⊢
    obtain ⟨desired, planned⟩ := plan
    cases desired with
    | none => exact ⟨.refl, hplan⟩
    | some desired =>
        dsimp only
        split
        · exact ⟨.refl, hplan⟩
        · rename_i tyreType _
          have htouch := setCarTyreTypeIn_commanded b env w target engineCarId tyreType
          generalize setCarTyreTypeIn env w target engineCarId tyreType = r at htouch ⊢
          obtain ⟨w', result⟩ := r
          split
          · rename_i heq
            cases heq
            exact ⟨htouch, hplan.put _⟩
          · rename_i heq
            cases heq
            exact ⟨htouch, hplan⟩
          · rename_i heq
            cases heq
            exact ⟨htouch, hplan⟩

/-- What collecting one car does: world commands, and for the store a new
pit state of the car or its removal. -/
structure Collected (b : Build) (env : EngineEnv E) (publicCarId : ℕ) (h h' : Hub E) : Prop where
  worker : Commanded b env h.worker h'.worker
  store : CarWritten publicCarId h.store h'.store

theorem dropCar_collected {b : Build} {env : EngineEnv E} {publicCarId : ℕ} {h h' : Hub E}
    (hworker : Commanded b env h.worker h'.worker) (hstore : PitWritten publicCarId h.store h'.store) :
    Collected b env publicCarId h (h'.dropCar publicCarId) :=
  ⟨hworker, h'.store, hstore, Or.inr rfl⟩

theorem collectReadCar_collected (b : Build) (env : EngineEnv E) (h : Hub E)
    (publicCarId engineCarId : ℕ) (target : EngineCommandTarget) (state : VehicleState) :
    Collected b env publicCarId h (collectReadCar b env h publicCarId engineCarId target state) := by
  have hmetrics := readRaceMetrics_commanded b env h.worker target engineCarId
  rw [collectReadCar]
  generalize readRaceMetrics b env h.worker target engineCarId = r at hmetrics ⊢
  obtain ⟨w, outcome⟩ := r
  cases outcome with
  | dropCar => exact dropCar_collected hmetrics PitWritten.refl
  | unreadable => exact ⟨hmetrics, CarWritten.refl⟩
  | got raceMetrics =>
      dsimp only
      obtain ⟨htouch, hwritten⟩ := applyPitFixTire_spec b env w h.store target publicCarId
        engineCarId state
      generalize applyPitFixTire b env w h.store target publicCarId engineCarId state = t
        at htouch hwritten ⊢
      obtain ⟨w', store, dropped⟩ := t
      cases dropped with
      | true => exact dropCar_collected (hmetrics.trans htouch) hwritten
      | false =>
          exact ⟨(hmetrics.trans htouch).trans (enforceIdle_commanded b env _ _ _ _ _), _,
            hwritten.put _, Or.inl rfl⟩

theorem collectCar_collected (b : Build) (env : EngineEnv E) (h : Hub E) (publicCarId : ℕ) :
    Collected b env publicCarId h (collectCar b env h publicCarId) := by
  rw [collectCar]
  split
  · exact dropCar_collected .refl PitWritten.refl
  · rename_i target _
    split
    · exact dropCar_collected .refl PitWritten.refl
    · rename_i engineCarId _
      have hread := readCarStateIn_commanded b env h.worker target engineCarId
      dsimp only
      split
      · exact dropCar_collected hread PitWritten.refl
      · exact ⟨hread, CarWritten.refl⟩
      · rename_i state _
        have hrest := collectReadCar_collected b env
          { h with worker := (readCarStateIn env h.worker target engineCarId).1 } publicCarId
          engineCarId target state
        exact ⟨hread.trans hrest.worker, hrest.store⟩

theorem foldl_collectCar_spec (b : Build) (env : EngineEnv E) {cars : List ℕ} {carId : ℕ}
    (hcar : carId ∉ cars) (h : Hub E) :
    Commanded b env h.worker (cars.foldl (collectCar b env) h).worker ∧
      SameAt carId h.store (cars.foldl (collectCar b env) h).store := by
  induction cars generalizing h with
  | nil => exact ⟨.refl, SameAt.refl carId h.store⟩
  | cons first cars ih =>
      rw [List.mem_cons, not_or] at hcar
      have hfirst := collectCar_collected b env h first
      obtain ⟨hworker, hstore⟩ := ih hcar.2 (collectCar b env h first)
      exact ⟨hfirst.worker.trans hworker, (hfirst.store.sameAt hcar.1).trans hstore⟩

theorem foldl_collectCar_shrunk (b : Build) (env : EngineEnv E) (cars : List ℕ) (h : Hub E) :
    Shrunk h.store (cars.foldl (collectCar b env) h).store := by
  induction cars generalizing h with
  | nil => exact Shrunk.refl h.store
  | cons first cars ih =>
      exact (collectCar_collected b env h first).store.shrunk.trans
        (ih (collectCar b env h first))

/-! ## Cars of worlds that are gone -/

/-- None of the texts for a world that is gone is one the collector
recognises. -/
theorem goneMessages_not_recognised :
    ∀ message ∈ goneMessages,
      isSandboxRuntimeNotActiveInvalidArgument (.invalidArgument message) = false := by
  decide

theorem collectCar_gone (b : Build) (env : EngineEnv E) {h : Hub E} {carId engineCarId : ℕ}
    {target : EngineCommandTarget} (htarget : h.store.carTargets.lookup carId = some target)
    (hengine : h.store.carEngineIds.lookup carId = some engineCarId)
    (hgone : Gone h.worker target) : (collectCar b env h carId).store = h.store := by
  obtain ⟨message, hmessage, hcall⟩ := callIn_gone hgone (env.api.readVehicleState engineCarId)
  have hunread : readOutcome (R := VehicleState) (.error (.invalidArgument message)) =
      .unreadable := by
    simp [readOutcome, goneMessages_not_recognised message hmessage]
  rw [collectCar]
  rw [htarget]
  dsimp only
  rw [hengine]
  dsimp only
  rw [readCarStateIn]
  rw [hcall]
  dsimp only
  rw [hunread]

/-- The durations and lap lengths are read by world commands; after them
the known cars are visited in order. -/
theorem collectFrame_fold (b : Build) (env : EngineEnv E) (w : Worker E)
    (store : RaceRuntimeStore) (cache : FrameCollectorCache) (tick nowMs : ℕ) :
    ∃ h : Hub E, Commanded b env w h.worker ∧ h.store = store ∧
      collectFrame b env w store cache tick nowMs =
        store.knownCarIds.foldl (collectCar b env) h := by
  rw [collectFrame]
  dsimp only
  generalize hstart : (⟨w, store, cache, _⟩ : Hub E) = start
  have hofficial := collectOfficial_timed b env w.state start
  have hlocal := collectLocalRace_timed b env w.state (collectOfficial env w.state start)
  have hsandboxes := collectSandboxes_timed b env w.state
    (collectLocalRace env w.state (collectOfficial env w.state start))
  generalize collectSandboxes env w.state
    (collectLocalRace env w.state (collectOfficial env w.state start)) = h at hsandboxes ⊢
  have hstore : h.store = store := by
    rw [hsandboxes.store, hlocal.store, hofficial.store, ← hstart]
  have hworker : Commanded b env w h.worker := by
    have hrun := (hofficial.worker.trans hlocal.worker).trans hsandboxes.worker
    rwa [← hstart] at hrun
  exact ⟨h, hworker, hstore, by rw [hstore]⟩

theorem collectFrame_shrunk (b : Build) (env : EngineEnv E) (w : Worker E)
    (store : RaceRuntimeStore) (cache : FrameCollectorCache) (tick nowMs : ℕ) :
    Shrunk store (collectFrame b env w store cache tick nowMs).store := by
  obtain ⟨h, -, hstore, heq⟩ := collectFrame_fold b env w store cache tick nowMs
  rw [heq, ← hstore]
  exact foldl_collectCar_shrunk b env _ h

theorem collectFrame_unknown (b : Build) (env : EngineEnv E) (w : Worker E)
    {store : RaceRuntimeStore} (cache : FrameCollectorCache) (tick nowMs : ℕ) {carId : ℕ}
    (hunknown : carId ∉ store.knownCars) :
    SameAt carId store (collectFrame b env w store cache tick nowMs).store := by
  obtain ⟨h, -, hstore, heq⟩ := collectFrame_fold b env w store cache tick nowMs
  rw [heq]
  have hnot : carId ∉ store.knownCarIds := fun hmem => hunknown (mem_knownCarIds.mp hmem)
  exact hstore ▸ (foldl_collectCar_spec b env hnot h).2

/-- A known car is visited once; the rest of the collection neither sees
nor changes its entries. -/
theorem collectFrame_visit (b : Build) (env : EngineEnv E) (w : Worker E)
    {store : RaceRuntimeStore} (cache : FrameCollectorCache) (tick nowMs : ℕ) {carId : ℕ}
    (hknown : carId ∈ store.knownCars) :
    ∃ g : Hub E, Commanded b env w g.worker ∧ SameAt carId store g.store ∧
      SameAt carId (collectCar b env g carId).store
        (collectFrame b env w store cache tick nowMs).store := by
  obtain ⟨h, hworker, hstore, heq⟩ := collectFrame_fold b env w store cache tick nowMs
  obtain ⟨before, after, hsplit⟩ := List.append_of_mem (mem_knownCarIds.mpr hknown)
  have hnodup := knownCarIds_nodup store
  rw [heq]
  rw [hsplit] at hnodup ⊢
  have hbefore : carId ∉ before := fun hin =>
    (List.nodup_append.mp hnodup).2.2 carId hin carId List.mem_cons_self rfl
  have hafter : carId ∉ after :=
    (List.nodup_cons.mp (List.nodup_append.mp hnodup).2.1).1
  rw [List.foldl_append, List.foldl_cons]
  obtain ⟨hrun, hsame⟩ := foldl_collectCar_spec b env hbefore h
  have hlast := (foldl_collectCar_spec b env hafter
    (collectCar b env (before.foldl (collectCar b env) h) carId)).2
  exact ⟨before.foldl (collectCar b env) h, hworker.trans hrun, hstore ▸ hsame, hlast⟩

/-- A collection leaves a registered car of a world that is gone as it
is. -/
theorem collectFrame_keeps_gone (b : Build) (env : EngineEnv E) {w : Worker E}
    {store : RaceRuntimeStore} (cache : FrameCollectorCache) (tick nowMs : ℕ)
    {carId engineCarId : ℕ} {target : EngineCommandTarget} (hknown : carId ∈ store.knownCars)
    (htarget : store.carTargets.lookup carId = some target)
    (hengine : store.carEngineIds.lookup carId = some engineCarId) (hgone : Gone w target) :
    SameAt carId store (collectFrame b env w store cache tick nowMs).store := by
  obtain ⟨g, hworker, hsame, hlast⟩ := collectFrame_visit b env w cache tick nowMs hknown
  have hkept := collectCar_gone b env (hsame.target.trans htarget)
    (hsame.engineId.trans hengine) (hgone.worldTouch hworker.worldTouch)
  rw [hkept] at hlast
  exact hsame.trans hlast

theorem collectFrame_keeps (b : Build) (env : EngineEnv E) {w : Worker E}
    {store : RaceRuntimeStore} (cache : FrameCollectorCache) (tick nowMs : ℕ) {carId : ℕ}
    {target : EngineCommandTarget} (hgone : Gone w target)
    (htarget : store.carTargets.lookup carId = some target)
    (hstays : ¬ (carId ∈ store.knownCars ∧ store.carEngineIds.lookup carId = none)) :
    SameAt carId store (collectFrame b env w store cache tick nowMs).store := by
  by_cases hknown : carId ∈ store.knownCars
  · obtain ⟨engineCarId, hengine⟩ :=
      Option.ne_none_iff_exists'.mp fun hnone => hstays ⟨hknown, hnone⟩
    exact collectFrame_keeps_gone b env cache tick nowMs hknown htarget hengine hgone
  · exact collectFrame_unknown b env w cache tick nowMs hknown

/-- A collection drops a known car that has no engine id. -/
theorem collectFrame_drops_unregistered (b : Build) (env : EngineEnv E) (w : Worker E)
    {store : RaceRuntimeStore} (cache : FrameCollectorCache) (tick nowMs : ℕ) {carId : ℕ}
    {target : EngineCommandTarget} (hknown : carId ∈ store.knownCars)
    (htarget : store.carTargets.lookup carId = some target)
    (hengine : store.carEngineIds.lookup carId = none) :
    Swept (collectFrame b env w store cache tick nowMs).store carId := by
  obtain ⟨g, -, hsame, hlast⟩ := collectFrame_visit b env w cache tick nowMs hknown
  refine Swept.sameAt ?_ hlast
  rw [collectCar]
  rw [hsame.target, htarget]
  dsimp only
  rw [hsame.engineId, hengine]
  exact removeCar_swept g.store carId

/-- Of the cars of a world that is gone, those stay that are not known or
have an engine id. -/
theorem collectFrame_stays_iff (b : Build) (env : EngineEnv E) {w : Worker E}
    (store : RaceRuntimeStore) (cache : FrameCollectorCache) (tick nowMs : ℕ)
    {target : EngineCommandTarget} (hgone : Gone w target) (carId : ℕ) :
    (collectFrame b env w store cache tick nowMs).store.carTargets.lookup carId = some target ↔
      store.carTargets.lookup carId = some target ∧
        ¬ (carId ∈ store.knownCars ∧ store.carEngineIds.lookup carId = none) := by
  constructor
  · intro hafter
    have hbefore : store.carTargets.lookup carId = some target := by
      rcases (collectFrame_shrunk b env w store cache tick nowMs).target carId with hsame | hnone
      · exact hsame ▸ hafter
      · exact absurd (hafter.symm.trans hnone) (by simp)
    refine ⟨hbefore, fun ⟨hknown, hengine⟩ => ?_⟩
    have hswept := collectFrame_drops_unregistered b env w cache tick nowMs hknown hbefore hengine
    exact absurd (hafter.symm.trans hswept.target) (by simp)
  · rintro ⟨hbefore, hstays⟩
    exact (collectFrame_keeps b env cache tick nowMs hgone hbefore hstays).target.trans hbefore

/-- A known car whose sandbox or local race is gone is swept exactly when
the store has no engine id for it. A sandbox that is gone is off the car
counts, and off the list of a team, exactly when all its cars are such. -/
theorem gone_car_swept_iff (b : Build) (env : EngineEnv E) (w : Worker E)
    (store : RaceRuntimeStore) (cache : FrameCollectorCache) (tick nowMs : ℕ)
    (target : EngineCommandTarget) (hgone : Gone w target) :
    (∀ carId ∈ store.knownCars, store.carTargets.lookup carId = some target →
      (Swept (collectFrame b env w store cache tick nowMs).store carId ↔
        store.carEngineIds.lookup carId = none)) ∧
    ∀ sandboxId, target = .sandbox sandboxId →
      ((collectFrame b env w store cache tick nowMs).store.activeCarCountsBySandbox sandboxId =
          none ↔
        ∀ carId, store.carTargets.lookup carId = some target →
          carId ∈ store.knownCars ∧ store.carEngineIds.lookup carId = none) ∧
      ∀ teamId, Text.isBlank teamId = false →
        (sandboxId ∉ (collectFrame b env w store cache tick nowMs).store.joinedSandboxIdsForTeam
            teamId ↔
          ∀ carId, store.carTargets.lookup carId = some target →
            store.teamMatches teamId carId = true →
            carId ∈ store.knownCars ∧ store.carEngineIds.lookup carId = none) := by
  have hstays := collectFrame_stays_iff b env store cache tick nowMs hgone
  refine ⟨fun carId hknown htarget => ⟨fun hswept => ?_, ?_⟩, ?_⟩
  · by_contra hengine
    have hkept := (hstays carId).mpr ⟨htarget, fun h => hengine h.2⟩
    exact absurd (hkept.symm.trans hswept.target) (by simp)
  · exact collectFrame_drops_unregistered b env w cache tick nowMs hknown htarget
  · rintro sandboxId rfl
    constructor
    · rw [activeCarCountsBySandbox_eq_none]
      apply forall_congr'
      intro carId
      rw [Ne, hstays carId, not_and, not_not]
    · intro teamId hteam
      rw [mem_joinedSandboxIdsForTeam, and_iff_right hteam, not_exists]
      apply forall_congr'
      intro carId
      constructor
      · intro hnot htarget hmatches
        by_contra hstay
        have hsame := collectFrame_keeps b env cache tick nowMs hgone htarget hstay
        exact hnot ⟨hsame.target.trans htarget, (hsame.teamMatches teamId).trans hmatches⟩
      · rintro hall ⟨hafter, hmatches⟩
        obtain ⟨htarget, hstay⟩ := (hstays carId).mp hafter
        have hsame := collectFrame_keeps b env cache tick nowMs hgone htarget hstay
        exact hstay (hall htarget ((hsame.teamMatches teamId).symm.trans hmatches))

/-! ## A car that stays behind -/

/-- A sandbox is activated and joined. -/
def joined : Worker CarWorld × RaceRuntimeStore × Except Status (ℕ × String) :=
  localSandboxJoinImpl .standalone CarWorld.env
    (stepEvent .standalone (Worker.initial CarWorld)
      (.command CarWorld.env (.switchRuntime 0 .sandbox "track" (some "s") (some .noon) none)))
    RaceRuntimeStore.new "s" (fun _ => some .startLine) id (.ok .default)

/-- Then it is deactivated. -/
def deserted : Worker CarWorld :=
  stepEvent .standalone joined.1 (.command CarWorld.env (.deactivateSandbox 1 "s"))

theorem deserted_gone : Gone deserted (.sandbox "s") := by
  rw [Gone]
  decide

theorem joined_car_swept_iff :
    (Swept (collectFrame .standalone CarWorld.env deserted joined.2.1 .default 1 0).store 1 ↔
        joined.2.1.carEngineIds.lookup 1 = none) ∧
      ((collectFrame .standalone CarWorld.env deserted joined.2.1 .default 1 0).store
          |>.activeCarCountsBySandbox "s") ≠ none := by
  have hsweep := gone_car_swept_iff .standalone CarWorld.env deserted joined.2.1 .default 1 0
    (.sandbox "s") deserted_gone
  refine ⟨hsweep.1 1 (by decide) (by decide), fun hcount => ?_⟩
  have hcar := ((hsweep.2 "s" rfl).1.mp hcount 1 (by decide)).2
  exact absurd hcar (by decide)

/-- The car is known, its sandbox is gone, and the next collection leaves
it in the store. -/
theorem deserted_car_not_swept :
    1 ∈ joined.2.1.knownCars ∧ joined.2.1.carTargets.lookup 1 = some (.sandbox "s") ∧
      Gone deserted (.sandbox "s") ∧
      ¬ Swept (collectFrame .standalone CarWorld.env deserted joined.2.1 .default 1 0).store 1 := by
  refine ⟨by decide, by decide, deserted_gone, fun hswept => ?_⟩
  have hengine : joined.2.1.carEngineIds.lookup 1 = some 1 := by decide
  have hkept := collectFrame_keeps_gone .standalone CarWorld.env .default 1 0
    (by decide : 1 ∈ joined.2.1.knownCars)
    (by decide : joined.2.1.carTargets.lookup 1 = some (.sandbox "s")) hengine deserted_gone
  have hnone := hkept.engineId.symm.trans hswept.engineId
  exact absurd (hengine.symm.trans hnone) (by simp)

end HackArena.Services
