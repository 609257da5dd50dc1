import HackArena.Lib.Programs
import HackArena.Services.LocalRaceAdmin
import HackArena.Services.ParticipantStream

/-!
# The calls of the services

The services run as tasks that share the runtime store and the local
race. Between two of its calls a task touches only its own variables, so
a task is a program over these calls. Every operation on a map of the
store is a call of its own; where a caller treats the removal of a car or
its joining as one operation, that is a call too. The engine, the clock,
the token service and the latest frame answer from outside.
-/

namespace HackArena.Services

open Boink HackArena.Runtime HackArena.Local

/-- What the engine answers to a world command that succeeds. -/
abbrev SlotOp.Answer : SlotOp → Type
  | .spawnCar | .getNumberOfStartPos => ℕ
  | .setControls .. => AcceptedControls
  | .readCarState _ => VehicleState
  | .readCarRaceMetrics _ => VehicleRaceMetrics
  | .readCarDimensions _ => F32 × F32
  | .getTrackData => TrackData
  | .getRaceDuration => F32
  | .setCarBackToTrack _ | .setCarBeforeFinishLine _ | .setCarRandomOnTrack _
  | .setCarAtStartPos .. | .setCarToPitstop _ | .setCarTyreType .. | .forceSetCarTyreType ..
  | .setGhostModeSettings _ | .despawnCar _ => Unit

/-- What is inserted for a car when it joins. -/
inductive CarEntry where
  | instanceCar (instanceUuid : String)
  | carOwner (instanceUuid : String)
  | identity (value : RuntimeCarIdentity)
  | known
  | lastClientSeq
  | engineId (engineCarId : ℕ)
  | target (value : EngineCommandTarget)
  deriving DecidableEq

def CarEntry.insert (s : RaceRuntimeStore) (carId : ℕ) : CarEntry → RaceRuntimeStore
  | .instanceCar uuid => { s with instanceCars := s.instanceCars.insert uuid carId }
  | .carOwner uuid => { s with carOwners := s.carOwners.insert carId uuid }
  | .identity value => { s with carIdentity := s.carIdentity.insert carId value }
  | .known => { s with knownCars := Insert.insert carId s.knownCars }
  | .lastClientSeq => { s with lastClientSeq := s.lastClientSeq.insert carId 0 }
  | .engineId engineCarId => { s with carEngineIds := s.carEngineIds.insert carId engineCarId }
  | .target value => { s with carTargets := s.carTargets.insert carId value }

/-- The maps `remove_car` erases a car from, in its order. -/
inductive CarErasure where
  | known | lastClientSeq | engineId | target | identity | pitState | controlsInput
  deriving DecidableEq

def CarErasure.erase (s : RaceRuntimeStore) (carId : ℕ) : CarErasure → RaceRuntimeStore
  | .known => { s with knownCars := s.knownCars.erase carId }
  | .lastClientSeq => { s with lastClientSeq := s.lastClientSeq.erase carId }
  | .engineId => { s with carEngineIds := s.carEngineIds.erase carId }
  | .target => { s with carTargets := s.carTargets.erase carId }
  | .identity => { s with carIdentity := s.carIdentity.erase carId }
  | .pitState => { s with carPitState := s.carPitState.erase carId }
  | .controlsInput => { s with carControlsInput := s.carControlsInput.erase carId }

/-- What a store call for one car answers. -/
abbrev CarCall.Answer : CarCall → Type
  | .planPitFixTireApply .. => Option RuntimePitTireType
  | .updatePitStateFromRuntime .. => RuntimePitStateSnapshot
  | .lastClientSeq _ | .setControlsInput .. | .setPitRequestActive _
  | .setNextTireFromFrontend _ | .setNextTireFromBot _ | .markPitFixTireApplied _
  | .markBackToTrackApplied _ | .markEmergencyPitstopRequested _ | .setActiveBotSlot _
  | .clearActiveBotSlot | .setBotSwitchInProgress _ => Unit

def CarCall.answer (b : Build) (s : RaceRuntimeStore) (carId : ℕ) :
    (call : CarCall) → call.Answer
  | .planPitFixTireApply currentTireType inStationaryFix =>
      (s.planPitFixTireApply carId currentTireType inStationaryFix).1
  | .updatePitStateFromRuntime state raceMetrics nowMs =>
      (s.updatePitStateFromRuntime b carId state raceMetrics nowMs).1
  | .lastClientSeq _ | .setControlsInput .. | .setPitRequestActive _
  | .setNextTireFromFrontend _ | .setNextTireFromBot _ | .markPitFixTireApplied _
  | .markBackToTrackApplied _ | .markEmergencyPitstopRequested _ | .setActiveBotSlot _
  | .clearActiveBotSlot | .setBotSwitchInProgress _ => ()

/-- The commands with a cooldown. -/
inductive CooldownCommand where
  | backToTrack | emergencyPitstop
  deriving DecidableEq, Repr

/-- The common fields of the responses to the unary commands. -/
structure CommandResponse where
  status : ParticipantCommandStatus
  appliesFromTick : ℕ
  rejectedReason : ParticipantCommandRejectReason
  cooldownRemainingMs : ℕ

/-- The writes of the race administration and of the lifecycle task. An
update reads the clock twice; `afterMs` is the second reading. -/
inductive RaceWrite where
  | setActiveRace (race : LocalRaceRuntimeInfo)
  | startCountdown (raceId : String) (countdownSeconds countdownEndMs afterMs : ℕ)
  | abort (raceId : String) (afterMs : ℕ)
  | clearActiveRace (raceId : String)
  | reconcileActiveRace
  | markFinishSoftFreezeApplied (raceId : String)

def RaceWrite.apply (s : LocalRaceState) (nowMs : ℕ) : RaceWrite → LocalRaceState
  | .setActiveRace race => Local.setActiveRace race nowMs
  | .startCountdown raceId countdownSeconds countdownEndMs afterMs =>
      (updateActiveRace s raceId (startUpdate countdownSeconds countdownEndMs) nowMs afterMs).1
  | .abort raceId afterMs => (updateActiveRace s raceId abortUpdate nowMs afterMs).1
  | .clearActiveRace raceId => (Local.clearActiveRace s raceId).1
  | .reconcileActiveRace => (Local.reconcileActiveRace s nowMs).1
  | .markFinishSoftFreezeApplied raceId => (Local.markFinishSoftFreezeApplied s raceId).1

inductive ServiceOp where
  | runtimeState
  | engine (target : EngineCommandTarget) (op : SlotOp)
  | latestFrame
  | streamInput (cfg : StreamConfig)
  | send (carId : ℕ) (frame : RuntimeFrame) (payload : ParticipantServerPayload) (sent : Bool)
  | respond (carId : ℕ) (frame : RuntimeFrame) (command : ParticipantCommandType)
      (response : CommandResponse)
  | localSpawnMode (sandboxId : String)
  | randomStartSlot (slots : ℕ)
  | identityFromToken
  | allocatePublicCarId
  | allocateLocalBotIndex (sandboxId userId : String)
  | insert (carId : ℕ) (entry : CarEntry)
  | erase (carId : ℕ) (erasure : CarErasure)
  | carOwnerEntries
  | takeOwner (carId : ℕ)
  | instanceCar (instanceUuid : String)
  | eraseInstanceCar (instanceUuid : String)
  | removeCar (carId : ℕ)
  | knownCarIds
  | carTarget (carId : ℕ)
  | carEngineId (carId : ℕ)
  | isBotSwitchInProgress (carId : ℕ)
  | car (carId : ℕ) (call : CarCall)
  | cooldownRemainingMs (command : CooldownCommand) (carId nowMs : ℕ)
  | activeRace
  | registerParticipant (raceId : String) (carId : ℕ) (displayName : String)
  | removeParticipant (carId : ℕ)
  | gameplayCommandsClosed (raceId : String)
  | raceWrite (write : RaceWrite)

abbrev ServiceOp.Answer : ServiceOp → Type
  | .runtimeState => Except EngineWorkerError EngineRuntimeState
  | .engine _ op => Except EngineWorkerError (SlotOp.Answer op)
  | .latestFrame => RuntimeFrame
  | .streamInput _ => StreamEnv × StreamInput
  | .carOwnerEntries => List (ℕ × String)
  | .localSpawnMode _ => Option LocalSandboxSpawnModeRecord
  | .identityFromToken => Except Status RuntimeCarIdentity
  | .randomStartSlot _ | .allocatePublicCarId | .allocateLocalBotIndex ..
  | .cooldownRemainingMs .. => ℕ
  | .takeOwner _ => Option String
  | .instanceCar _ | .carEngineId _ => Option ℕ
  | .knownCarIds => List ℕ
  | .carTarget _ => Option EngineCommandTarget
  | .isBotSwitchInProgress _ | .gameplayCommandsClosed _ => Bool
  | .car _ call => call.Answer
  | .activeRace => Option LocalRaceRuntimeInfo
  | .registerParticipant .. => Except LocalRaceStateError LocalRaceParticipantRecord
  | .send .. | .respond .. | .insert .. | .erase .. | .eraseInstanceCar _ | .removeCar _
  | .removeParticipant _ | .raceWrite _ => Unit

/-- What the tasks share. -/
structure Backend where
  store : RaceRuntimeStore
  races : LocalRaceState

/-- The answers from outside, at the time of one call. The store and the
race in the view of a stream's turn are the shared ones; the other
answers that the turn will get come with it. The owners of the cars are
iterated in an order of the map's own. -/
structure ServiceInput where
  runtimeState : Except EngineWorkerError EngineRuntimeState
  engine : EngineCommandTarget → (op : SlotOp) → Except EngineWorkerError (SlotOp.Answer op)
  frame : RuntimeFrame
  nowMs : ℕ
  turn : StreamEnv × StreamInput
  ownerOrder : List ℕ
  localSpawnMode : String → Option LocalSandboxSpawnModeRecord
  randomStartSlot : ℕ → ℕ
  identity : Except Status RuntimeCarIdentity

def RaceRuntimeStore.cooldownRemainingMs (s : RaceRuntimeStore) :
    CooldownCommand → ℕ → ℕ → ℕ
  | .backToTrack => s.backToTrackCooldownRemainingMs
  | .emergencyPitstop => s.emergencyPitstopCooldownRemainingMs

def execCall (b : Build) (s : Backend) :
    (op : ServiceOp) → ServiceInput → Backend × op.Answer
  | .runtimeState, input => (s, input.runtimeState)
  | .engine target op, input => (s, input.engine target op)
  | .latestFrame, input => (s, input.frame)
  | .streamInput _, input =>
      (s, { input.turn.1 with store := s.store, races := s.races }, input.turn.2)
  | .send .., _ | .respond .., _ => (s, ())
  | .localSpawnMode sandboxId, input => (s, input.localSpawnMode sandboxId)
  | .randomStartSlot slots, input => (s, input.randomStartSlot slots)
  | .identityFromToken, input => (s, input.identity)
  | .allocatePublicCarId, _ =>
      let r := s.store.allocatePublicCarId
      ({ s with store := r.2 }, r.1)
  | .allocateLocalBotIndex sandboxId userId, _ =>
      let r := s.store.allocateLocalBotIndex sandboxId userId
      ({ s with store := r.2 }, r.1)
  | .insert carId entry, _ => ({ s with store := entry.insert s.store carId }, ())
  | .erase carId erasure, _ => ({ s with store := erasure.erase s.store carId }, ())
  | .carOwnerEntries, input => (s, input.ownerOrder.filterMap fun carId =>
      (s.store.carOwners.lookup carId).map (carId, ·))
  | .takeOwner carId, _ =>
      ({ s with store := { s.store with carOwners := s.store.carOwners.erase carId } },
        s.store.carOwners.lookup carId)
  | .instanceCar uuid, _ => (s, s.store.instanceCars.lookup uuid)
  | .eraseInstanceCar uuid, _ =>
      ({ s with store := { s.store with instanceCars := s.store.instanceCars.erase uuid } }, ())
  | .removeCar carId, _ => ({ s with store := s.store.removeCar carId }, ())
  | .knownCarIds, _ => (s, s.store.knownCarIds)
  | .carTarget carId, _ => (s, s.store.carTargets.lookup carId)
  | .carEngineId carId, _ => (s, s.store.carEngineIds.lookup carId)
  | .isBotSwitchInProgress carId, _ => (s, s.store.isBotSwitchInProgress carId)
  | .car carId call, _ =>
      ({ s with store := call.apply b s.store carId }, call.answer b s.store carId)
  | .cooldownRemainingMs command carId nowMs, _ =>
      (s, s.store.cooldownRemainingMs command carId nowMs)
  | .activeRace, input => (s, Local.activeRace s.races input.nowMs)
  | .registerParticipant raceId carId displayName, input =>
      let r := Local.registerParticipant s.races raceId carId displayName input.nowMs
      ({ s with races := r.1 }, r.2)
  | .removeParticipant carId, _ => ({ s with races := Local.removeParticipant s.races carId }, ())
  | .gameplayCommandsClosed raceId, input =>
      (s, Local.gameplayCommandsClosed s.races raceId input.nowMs)
  | .raceWrite write, input => ({ s with races := write.apply s.races input.nowMs }, ())

/-- A task of the services that ends with a value of type `α`. -/
abbrev Task (α : Type) := Prog ServiceOp ServiceOp.Answer α

/-- Make one call. -/
abbrev ServiceOp.call (op : ServiceOp) : Task op.Answer := Prog.perform op

def inEngine (target : EngineCommandTarget) (op : SlotOp) :
    Task (Except EngineWorkerError (SlotOp.Answer op)) := (ServiceOp.engine target op).call

end HackArena.Services
