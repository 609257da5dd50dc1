import Mathlib.Algebra.Order.Ring.Unbundled.Rat

/-!
# The simulation engine behind the worker

The native engine is reached through a wrapper whose calls either answer
or fail with one of its error codes. The server never looks inside an
engine, so the engine is a type `E` with one function per wrapper call;
a call may change the engine whether or not it succeeds. Quantities of
type `f32` and `f64` are carried and compared as rationals.
-/

namespace HackArena.Boink

abbrev F32 := ℚ

/-- Version triple of the native library. -/
structure Version where
  major : ℕ
  minor : ℕ
  patch : ℕ
  deriving DecidableEq, Repr

inductive BoinkError where
  | nullHandle (func : String)
  | invalidCarModel (detail : String)
  | invalidString (detail : String)
  | invalidArg
  | bufferTooSmall
  | notFound
  | noData
  | conditionNotMet
  | unsupportedFormat
  | io
  | internal (detail : String)
  | ffiStatus (code : ℤ) (func : String)
  | incompatibleVersion (required actual : Version)
  | native (code : ℤ)
  deriving DecidableEq, Repr

structure GhostModeSettings where
  enabled : Bool
  enterSpeedMaxMps : F32
  exitSpeedMinMps : F32
  enterDelayMs : ℕ
  exitDelayMs : ℕ
  untilCompletedLaps : ℕ
  vehicleOverlapExitDelayMs : ℕ
  deriving DecidableEq, Repr

inductive GearShift where
  | none | upshift | downshift
  deriving DecidableEq, Repr

structure Controls where
  throttle : F32
  brake : F32
  brakeBalancer : F32
  differentialLock : F32
  steer : F32
  gearShift : GearShift
  deriving DecidableEq, Repr

/-- `f32::clamp`. -/
def clamp (x lo hi : F32) : F32 := if x < lo then lo else if hi < x then hi else x

/-- `Controls::new`: every demand is clamped to its range. -/
def Controls.new (throttle brake brakeBalancer differentialLock steer : F32)
    (gearShift : GearShift) : Controls :=
  ⟨clamp throttle 0 1, clamp brake 0 1, clamp brakeBalancer 0 1, clamp differentialLock 0 1,
    clamp steer (-1) 1, gearShift⟩

structure AcceptedControls where
  acceptedShift : GearShift
  deriving DecidableEq, Repr

inductive Gear where
  | reverse | neutral
  | forward (n : ℕ)
  deriving DecidableEq, Repr

inductive TyreType where
  | soft | hard | wet
  deriving DecidableEq, Repr

inductive PitstopZone where
  | none | enter | fix | exit
  deriving DecidableEq, Repr

/-- The bit of a zone in the zone mask. -/
def PitstopZone.bit : PitstopZone → ℕ
  | .none => 0
  | .enter => 1
  | .fix => 2
  | .exit => 4

structure VehiclePitstopState where
  zoneMask : ℕ
  wheelsInPitstop : ℕ
  deriving DecidableEq, Repr

def VehiclePitstopState.hasZone (s : VehiclePitstopState) (zone : PitstopZone) : Bool :=
  (s.zoneMask &&& zone.bit) != 0

def VehiclePitstopState.isInAnyZone (s : VehiclePitstopState) : Bool := s.zoneMask != 0

structure Vec3 where
  x : F32
  y : F32
  z : F32
  deriving DecidableEq, Repr

structure Quaternion where
  x : F32
  y : F32
  z : F32
  w : F32
  deriving DecidableEq, Repr

def Quaternion.identity : Quaternion := ⟨0, 0, 0, 1⟩

inductive GhostModePhase where
  | inactive | pendingEnter | active | pendingExit
  deriving DecidableEq, Repr

structure GhostModeRuntimeState where
  canCollideNow : Bool
  phase : GhostModePhase
  blockersMask : ℕ
  enterDelayRemainingMs : ℕ
  exitDelayRemainingMs : ℕ
  deriving DecidableEq, Repr

/-- `GhostModeRuntimeState::default()`. -/
def GhostModeRuntimeState.default : GhostModeRuntimeState := ⟨true, .inactive, 0, 0, 0⟩

/-- The part of a vehicle's state that the server reads, rewrites or sends
to clients. -/
structure VehicleState where
  vehicleId : ℕ
  chassisPosition : Vec3
  vehicleOrientation : Quaternion
  speed : F32
  engineRpm : F32
  gear : Gear
  throttleApplied : F32
  brakeApplied : F32
  wheelSpeeds : Vector F32 4
  frontWheelOrientationRad : Vector F32 2
  tyreHealth : Vector F32 4
  tyreTemperatureCelsius : Vector F32 4
  tyreSlip : Vector F32 4
  tyreType : TyreType
  ghostModeRuntime : GhostModeRuntimeState
  pitstopState : VehiclePitstopState
  deriving DecidableEq

structure VehicleRaceMetrics where
  completedLaps : ℕ
  lapProgressM : F32
  currentLapTimeMs : ℕ
  lastLapTimeMs : Option ℕ
  deriving DecidableEq, Repr

/-- `VehicleRaceMetrics::default()`. -/
def VehicleRaceMetrics.default : VehicleRaceMetrics := ⟨0, 0, 0, none⟩

structure WeatherParams where
  cloudiness : F32
  temperatureC : F32
  rainIntensity : F32
  deriving DecidableEq, Repr

/-- The track data the server computes with; the sampled geometry is left
out. -/
structure TrackData where
  mapId : String
  lapLengthM : ℚ
  deriving DecidableEq, Repr

/-- One wrapper call: the engine afterwards and the answer. -/
abbrev Call (E R : Type) := E → E × Except BoinkError R

/-- The calls of the engine wrapper that the server makes. -/
structure Api (E : Type) where
  step : E → E
  spawnVehicle : Call E ℕ
  despawnVehicle : ℕ → Call E Unit
  setControls : ℕ → Controls → Call E AcceptedControls
  readVehicleState : ℕ → Call E VehicleState
  readVehicleRaceMetrics : ℕ → Call E VehicleRaceMetrics
  getVehicleDimensions : ℕ → Call E (F32 × F32)
  setVehicleBackToTrack : ℕ → Call E Unit
  setVehicleBeforeFinishLine : ℕ → Call E Unit
  setVehicleRandomPos : ℕ → Call E Unit
  setVehicleAtStartPos : ℕ → ℕ → Call E Unit
  setVehicleToPitstop : ℕ → Call E Unit
  setVehicleTyreType : ℕ → TyreType → Call E Unit
  forceSetVehicleTyreType : ℕ → TyreType → Call E Unit
  getNumberOfStartPos : Call E ℕ
  trackData : Call E TrackData
  raceDuration : Call E F32
  setGhostModeSettings : GhostModeSettings → Call E Unit
  setWeather : WeatherParams → Call E Unit

end HackArena.Boink
