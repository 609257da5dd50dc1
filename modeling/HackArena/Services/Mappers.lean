import HackArena.Services.RuntimeStore

/-!
# What clients see of a car

The streams send the state of a car in three forms. A frontend sees all of
it; a participant sees its own car's pose and telemetry, and of another
car the pose and the ghost mode. Enumerations and history entries of the
messages have the shape of the server's own.
-/

namespace HackArena.Services

open Boink

structure CarKinematics where
  position : Vec3
  orientation : Quaternion
  deriving DecidableEq

def participantKinematicsFromState (state : VehicleState) : CarKinematics :=
  ⟨state.chassisPosition, state.vehicleOrientation⟩

/-! ## Ghost mode -/

inductive ProtoGhostModePhase where
  | inactive | active | pendingExit
  deriving DecidableEq, Repr

inductive GhostModeBlocker where
  | lapsRequirementNotMet | exitSpeedNotMet | exitDelayRunning | vehicleOverlapActive
  | overlapExitDelayRunning | inPit
  deriving DecidableEq, Repr

/-- The bit of a blocker in the blockers mask. -/
def GhostModeBlocker.bit : GhostModeBlocker → ℕ
  | .lapsRequirementNotMet => 1
  | .exitSpeedNotMet => 2
  | .exitDelayRunning => 4
  | .vehicleOverlapActive => 8
  | .overlapExitDelayRunning => 16
  | .inPit => 32

structure GhostModeState where
  canCollideNow : Bool
  phase : ProtoGhostModePhase
  blockers : List GhostModeBlocker
  exitDelayRemainingMs : ℕ
  deriving DecidableEq

def ghostModePhaseToProto : GhostModePhase → ProtoGhostModePhase
  | .inactive | .pendingEnter => .inactive
  | .active => .active
  | .pendingExit => .pendingExit

def ghostModeBlockersToProto (blockersMask : ℕ) : List GhostModeBlocker :=
  [.lapsRequirementNotMet, .exitSpeedNotMet, .exitDelayRunning, .vehicleOverlapActive,
    .overlapExitDelayRunning, .inPit].filter fun blocker => (blockersMask &&& blocker.bit) != 0

def ghostModeStateFromRuntime (runtime : GhostModeRuntimeState) : GhostModeState :=
  ⟨runtime.canCollideNow, ghostModePhaseToProto runtime.phase,
    ghostModeBlockersToProto runtime.blockersMask, runtime.exitDelayRemainingMs⟩

/-! ## Telemetry -/

structure PitRuntimeState where
  pitRequestActive : Bool
  emergencyLockRemainingMs : ℕ
  lastPitTimeMs : ℕ
  lastPitSource : RuntimePitEntrySource
  lastPitLap : ℕ
  deriving DecidableEq

structure CommandCooldownState where
  backToTrackRemainingMs : ℕ
  emergencyPitstopRemainingMs : ℕ
  deriving DecidableEq

structure CarParticipantState where
  lastAppliedClientSeq : ℕ
  speedMps : F32
  engineRpm : F32
  gear : ℤ
  ghostMode : GhostModeState
  pitstopZoneFlags : ℕ
  wheelsInPitstop : ℕ
  tireType : RuntimePitTireType
  tireWear : Option (Vector F32 4)
  tireTemperatureCelsius : Option (Vector F32 4)
  pitRuntime : PitRuntimeState
  pitHistory : List RuntimePitHistoryEntry
  nextPitTireType : RuntimePitTireType
  tireSlip : Option (Vector F32 4)
  commandCooldowns : CommandCooldownState
  deriving DecidableEq

def gearToProto : Gear → ℤ
  | .reverse => -1
  | .neutral => 0
  | .forward n => n

/-- Tyres without any signal are not reported; a value is always finite here. -/
def tireTelemetryFromState (state : VehicleState) : RuntimePitTireType × Option (Vector F32 4) ×
    Option (Vector F32 4) × Option (Vector F32 4) :=
  if (state.tyreHealth.all (· = 0)) && state.tyreTemperatureCelsius.all (· = 0) then
    (.unspecified, none, none, none)
  else
    let tireType : RuntimePitTireType := match state.tyreType with
      | .hard => .hard
      | .soft => .soft
      | .wet => .wet
    (tireType, some state.tyreHealth, some state.tyreTemperatureCelsius, some state.tyreSlip)

def pitRuntimeFromSnapshot (snapshot : RuntimePitStateSnapshot) : PitRuntimeState :=
  ⟨snapshot.pitRequestActive, snapshot.emergencyLockRemainingMs, snapshot.lastPitTimeMs,
    snapshot.lastPitSource, snapshot.lastPitLap⟩

def commandCooldownsFromSnapshot (snapshot : RuntimePitStateSnapshot) : CommandCooldownState :=
  ⟨snapshot.backToTrackRemainingMs, snapshot.emergencyPitstopRemainingMs⟩

def participantTelemetryFromState (state : VehicleState) (lastAppliedClientSeq : ℕ)
    (pitState : RuntimePitStateSnapshot) : CarParticipantState :=
  let tires := tireTelemetryFromState state
  { lastAppliedClientSeq := lastAppliedClientSeq
    speedMps := state.speed
    engineRpm := state.engineRpm
    gear := gearToProto state.gear
    ghostMode := ghostModeStateFromRuntime state.ghostModeRuntime
    pitstopZoneFlags := state.pitstopState.zoneMask
    wheelsInPitstop := state.pitstopState.wheelsInPitstop
    tireType := tires.1
    tireWear := tires.2.1
    tireTemperatureCelsius := tires.2.2.1
    pitRuntime := pitRuntimeFromSnapshot pitState
    pitHistory := pitState.history
    nextPitTireType := pitState.nextPitTireType
    tireSlip := tires.2.2.2
    commandCooldowns := commandCooldownsFromSnapshot pitState }

/-! ## The three forms -/

structure CarRenderState where
  wheelSpeeds : Vector F32 4
  frontLeftWheelOrientationRad : F32
  frontRightWheelOrientationRad : F32
  deriving DecidableEq

def renderStateFromState (state : VehicleState) : CarRenderState :=
  ⟨state.wheelSpeeds, state.frontWheelOrientationRad[0], state.frontWheelOrientationRad[1]⟩

structure FrontendCarFullState where
  carId : ℕ
  kinematics : CarKinematics
  telemetry : CarParticipantState
  render : CarRenderState
  inputThrottle : F32
  inputBrake : F32
  currentBrakeBalancer : F32
  currentDifferentialLock : F32
  frontendNextPitTireOverride : RuntimePitTireType
  currentLapElapsedMs : Option ℕ
  lastLapTimeMs : Option ℕ
  bestLapTimeMs : Option ℕ
  deriving DecidableEq

def frontendFullState (carId : ℕ) (state : VehicleState) (lastAppliedClientSeq : ℕ)
    (pitState : RuntimePitStateSnapshot) (controlsInput : RuntimeControlInputSnapshot)
    (currentLapElapsedMs lastLapTimeMs bestLapTimeMs : Option ℕ) : FrontendCarFullState :=
  ⟨carId, participantKinematicsFromState state,
    participantTelemetryFromState state lastAppliedClientSeq pitState,
    renderStateFromState state, controlsInput.inputThrottle, controlsInput.inputBrake,
    controlsInput.currentBrakeBalancer, controlsInput.currentDifferentialLock,
    pitState.frontendNextPitTireOverride, currentLapElapsedMs, lastLapTimeMs, bestLapTimeMs⟩

structure ParticipantSelfState where
  carId : ℕ
  kinematics : CarKinematics
  telemetry : CarParticipantState
  deriving DecidableEq

def participantSelfState (carId : ℕ) (state : VehicleState) (lastAppliedClientSeq : ℕ)
    (pitState : RuntimePitStateSnapshot) : ParticipantSelfState :=
  ⟨carId, participantKinematicsFromState state,
    participantTelemetryFromState state lastAppliedClientSeq pitState⟩

structure ParticipantOpponentState where
  carId : ℕ
  kinematics : CarKinematics
  ghostMode : GhostModeState
  deriving DecidableEq

def participantOpponentState (carId : ℕ) (state : VehicleState) : ParticipantOpponentState :=
  ⟨carId, participantKinematicsFromState state, ghostModeStateFromRuntime state.ghostModeRuntime⟩

end HackArena.Services
