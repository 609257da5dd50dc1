import HackArena.Boink
import HackArena.Lib.KeyedList
import HackArena.Lib.Text

/-!
# State, errors and commands of the engine worker

The worker owns every engine world. `EngineRuntimeState` is the metadata
it hands out to clients; `Worker` adds the engine maps that must agree
with it. Builds differ in which commands exist and in which map ids they
accept, so the build is a parameter.
-/

namespace HackArena.Runtime

open Boink

/-- The three feature sets the server is compiled with. -/
inductive Build where
  | official | «local» | standalone
  deriving DecidableEq, Repr

/-- `feature = "local"`, which `standalone` implies. -/
def Build.isLocal : Build → Bool
  | .official => false
  | .local | .standalone => true

/-- The largest `u64`. -/
def u64Max : ℕ := 2 ^ 64 - 1

/-- `u64::saturating_add`. -/
def saturatingAdd (a b : ℕ) : ℕ := min (a + b) u64Max

def defaultMapId : String := "test"

def defaultGhostModeSettings : GhostModeSettings := ⟨false, 0, 0, 0, 0, 0, 0⟩

inductive EngineActivityKind where
  | none | officialRace | localRace | sandbox
  deriving DecidableEq, Repr

inductive EngineCommandTarget where
  | officialRace
  | localRace (raceId : String)
  | sandbox (sandboxId : String)
  deriving DecidableEq, Repr

inductive EngineRuntimeTimeOfDayPreset where
  | unspecified | morning | noon | evening | night
  deriving DecidableEq, Repr

inductive EngineRuntimeWeatherType where
  | clear | partlyCloudy | overcast | lightRain | mediumRain | heavyRain
  deriving DecidableEq, Repr

structure EngineRuntimeWeatherNow where
  weatherType : EngineRuntimeWeatherType
  temperatureC : ℤ
  deriving DecidableEq, Repr

structure EnginePendingSandboxActivation where
  activate : Bool
  sandboxId : String
  executeAtUnixMs : ℤ
  mapId : Option String
  timeOfDayPreset : Option EngineRuntimeTimeOfDayPreset
  ghostModeSettings : Option GhostModeSettings
  deriving DecidableEq, Repr

/-- `weatherNow` exists in local builds only; elsewhere it stays `none`. -/
structure EngineActiveSandboxState where
  sandboxId : String
  mapId : String
  timeOfDayPreset : EngineRuntimeTimeOfDayPreset
  weatherNow : Option EngineRuntimeWeatherNow
  deriving DecidableEq, Repr

structure EngineActiveLocalRaceState where
  raceId : String
  mapId : String
  timeOfDayPreset : EngineRuntimeTimeOfDayPreset
  weatherNow : Option EngineRuntimeWeatherNow
  deriving DecidableEq, Repr

structure EngineWorldSlot (E : Type) where
  engine : E
  ghostModeSettings : GhostModeSettings
  deriving DecidableEq

structure EngineRuntimeState where
  revision : ℕ
  activityKind : EngineActivityKind
  mapId : String
  activeLocalRace : Option EngineActiveLocalRaceState
  activeSandboxes : List EngineActiveSandboxState
  timeOfDayPreset : EngineRuntimeTimeOfDayPreset
  pendingSandboxActivations : List EnginePendingSandboxActivation
  deriving DecidableEq, Repr

inductive EngineWorkerError where
  | workerStopped
  | engine (err : BoinkError)
  | invalidArgument (message : String)
  | revisionMismatch (expected actual : ℕ)
  deriving DecidableEq, Repr

/-- Everything `run_worker` owns. A handle's step task lives exactly as
long as its map entry, so a handle is its slot. -/
structure Worker (E : Type) where
  officialEngine : Option (EngineWorldSlot E)
  localRaceEngines : HashMap String (EngineWorldSlot E)
  sandboxEngines : HashMap String (EngineWorldSlot E)
  state : EngineRuntimeState

/-- The idle worker that `spawn` starts with. -/
def Worker.initial (E : Type) : Worker E where
  officialEngine := none
  localRaceEngines := ∅
  sandboxEngines := ∅
  state :=
    { revision := 0
      activityKind := .none
      mapId := defaultMapId
      activeLocalRace := none
      activeSandboxes := []
      timeOfDayPreset := .unspecified
      pendingSandboxActivations := [] }

/-- `runtime_state.revision = runtime_state.revision.saturating_add(1)`. -/
def Worker.bump {E : Type} (w : Worker E) : Worker E :=
  { w with state := { w.state with revision := saturatingAdd w.state.revision 1 } }

/-- The commands that run one operation on the world of a target. -/
inductive SlotOp where
  | spawnCar
  | setControls (carId : ℕ) (controls : Controls)
  | readCarState (carId : ℕ)
  | readCarRaceMetrics (carId : ℕ)
  | readCarDimensions (carId : ℕ)
  | setCarBackToTrack (carId : ℕ)
  | setCarBeforeFinishLine (carId : ℕ)
  | setCarRandomOnTrack (carId : ℕ)
  | setCarAtStartPos (carId positionIndex : ℕ)
  | setCarToPitstop (carId : ℕ)
  | setCarTyreType (carId : ℕ) (tyreType : TyreType)
  | forceSetCarTyreType (carId : ℕ) (tyreType : TyreType)
  | getNumberOfStartPos
  | getTrackData
  | getRaceDuration
  | setGhostModeSettings (settings : GhostModeSettings)
  | despawnCar (carId : ℕ)

inductive EngineCommand where
  | slot (target : EngineCommandTarget) (op : SlotOp)
  | getRuntimeState
  | switchRuntime (expectedRevision : ℕ) (activityKind : EngineActivityKind) (mapId : String)
      (sandboxId : Option String) (timeOfDayPreset : Option EngineRuntimeTimeOfDayPreset)
      (ghostModeSettings : Option GhostModeSettings)
  | setRuntimeTimeOfDay (expectedRevision : ℕ) (sandboxId : Option String)
      (preset : EngineRuntimeTimeOfDayPreset)
  | setPendingSandboxActivation (expectedRevision : ℕ)
      (pending : EnginePendingSandboxActivation)
  | cancelPendingSandboxActivation (expectedRevision : ℕ) (sandboxId : String)
  | deactivateSandbox (expectedRevision : ℕ) (sandboxId : String)
  | activateLocalRace (expectedRevision : ℕ) (raceId mapId : String)
      (timeOfDayPreset : EngineRuntimeTimeOfDayPreset)
      (ghostModeSettings : Option GhostModeSettings)
  | deactivateLocalRace (expectedRevision : ℕ) (raceId : String)
  | bumpRevision (expectedRevision : ℕ)
  | setWeather (sandboxId : String) (weather : WeatherParams)
      (weatherNow : EngineRuntimeWeatherNow)

/-- The revision a command is conditional on, when it carries one. -/
def EngineCommand.expectedRevision? : EngineCommand → Option ℕ
  | .switchRuntime r .. | .setRuntimeTimeOfDay r .. | .setPendingSandboxActivation r ..
  | .cancelPendingSandboxActivation r .. | .deactivateSandbox r .. | .activateLocalRace r ..
  | .deactivateLocalRace r .. | .bumpRevision r => some r
  | .slot .. | .getRuntimeState | .setWeather .. => none

/-- What a world operation answers on success. -/
inductive SlotReply where
  | unit
  | carId (id : ℕ)
  | acceptedControls (accepted : AcceptedControls)
  | vehicleState (state : VehicleState)
  | raceMetrics (metrics : VehicleRaceMetrics)
  | dimensions (width depth : F32)
  | startPositions (count : ℕ)
  | trackData (data : TrackData)
  | raceDuration (seconds : F32)

/-- What is sent back on the command's reply channel. -/
inductive Reply where
  | slot (result : Except EngineWorkerError SlotReply)
  | runtime (result : Except EngineWorkerError EngineRuntimeState)
  | canceled (result : Except EngineWorkerError (EngineRuntimeState × Bool))

/-- The reply carries an error. -/
def Reply.isErr : Reply → Bool
  | .slot (.error _) | .runtime (.error _) | .canceled (.error _) => true
  | .slot (.ok _) | .runtime (.ok _) | .canceled (.ok _) => false

end HackArena.Runtime
