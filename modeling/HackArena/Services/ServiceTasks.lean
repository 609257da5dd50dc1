import HackArena.Services.ServiceCalls

/-!
# The tasks of the services

The functions of the services that work on the store of cars, as programs
over its calls: the joins, the clean-ups, the frame hub's pass over the
known cars, the unary commands and the participant stream.
-/

namespace HackArena.Services

open Boink HackArena.Runtime HackArena.Local

namespace Tasks

/-- How a task ended. -/
inductive TaskOutcome where
  | joined (carId : ℕ)
  | refused (status : Status)
  | done
  deriving DecidableEq, Repr

end Tasks

abbrev ServiceEntry := Entry ServiceOp ServiceOp.Answer

abbrev ServiceWorld := World Backend ServiceOp ServiceOp.Answer

abbrev ServicePool := Pool Backend ServiceOp ServiceOp.Answer Tasks.TaskOutcome

namespace Tasks

/-! ## Joins -/

def insertAll (carId : ℕ) : List CarEntry → Task Unit
  | [] => return
  | entry :: rest => do
      (ServiceOp.insert carId entry).call
      insertAll carId rest

/-- The last writes of every join. -/
def publish (carId engineCarId : ℕ) (target : EngineCommandTarget) : Task Unit :=
  insertAll carId [.known, .lastClientSeq, .engineId engineCarId, .target target]

def applyLocalSpawnMode (sandboxId : String) (target : EngineCommandTarget)
    (engineCarId : ℕ) : Task (Except Status Unit) := do
  match ← (ServiceOp.localSpawnMode sandboxId).call with
  | none => return .error ⟨.notFound,
      "local sandbox config not found for sandbox_id=" ++ sandboxId⟩
  | some .startLine =>
      return (← inEngine target (.setCarBeforeFinishLine engineCarId)).mapError mapWorkerErr
  | some .randomOnTrack =>
      return (← inEngine target (.setCarRandomOnTrack engineCarId)).mapError mapWorkerErr
  | some .inPit =>
      return (← inEngine target (.setCarToPitstop engineCarId)).mapError mapWorkerErr
  | some .randomStartSlot =>
      match ← inEngine target .getNumberOfStartPos with
      | .error err => return .error (mapWorkerErr err)
      | .ok 0 => return .error ⟨.failedPrecondition, "no start slots available for selected map"⟩
      | .ok slots =>
          let startSlot ← (ServiceOp.randomStartSlot slots).call
          return (← inEngine target (.setCarAtStartPos engineCarId startSlot)).mapError
            mapWorkerErr

/-- A car joins a sandbox: the two functions that do so differ in how they
place the car. The standalone build asks for no token. -/
def joinSandboxAt (b : Build)
    (place : String → EngineCommandTarget → ℕ → Task (Except Status Unit))
    (requestedSandboxId : String) : Task TaskOutcome := do
  match ← ServiceOp.runtimeState.call with
  | .error err => return .refused (mapWorkerErr err)
  | .ok runtimeState =>
  match selectLocalJoinSandbox runtimeState requestedSandboxId with
  | .error status => return .refused status
  | .ok active =>
  let target := EngineCommandTarget.sandbox active.sandboxId
  match ← inEngine target .spawnCar with
  | .error err => return .refused (mapWorkerErr err)
  | .ok engineCarId =>
  match ← place active.sandboxId target engineCarId with
  | .error status =>
      let _ ← inEngine target (.despawnCar engineCarId)
      return .refused status
  | .ok () =>
  let publicCarId ← ServiceOp.allocatePublicCarId.call
  match ← (if b = .standalone then pure (.ok .default) else ServiceOp.identityFromToken.call) with
  | .error status => return .refused status
  | .ok identity =>
  insertAll publicCarId (match identity.instanceUuid with
    | some uuid => [.instanceCar uuid, .carOwner uuid]
    | none => [])
  let localUserId := identity.subject.getD ("car-" ++ toString publicCarId)
  let index ← (ServiceOp.allocateLocalBotIndex active.sandboxId localUserId).call
  insertAll publicCarId [.identity { identity with localBotIndex := some index }]
  publish publicCarId engineCarId target
  return .joined publicCarId

def localSandboxJoinImpl (b : Build) (requestedSandboxId : String) : Task TaskOutcome :=
  joinSandboxAt b applyLocalSpawnMode requestedSandboxId

/-- `join_sandbox` of the quick join. -/
def joinSandbox (b : Build) (requestedSandboxId : String) : Task TaskOutcome :=
  joinSandboxAt b (fun sandboxId target engineCarId =>
    if b.isLocal then applyLocalSpawnMode sandboxId target engineCarId
    else do
      return (← inEngine target (.setCarBeforeFinishLine engineCarId)).mapError mapWorkerErr)
    requestedSandboxId

def mapLocalRaceStateErr : LocalRaceStateError → Status
  | .noActiveRace => ⟨.failedPrecondition, "local race runtime is not active"⟩
  | .raceMismatch => ⟨.notFound, "local race runtime is not active for requested race_id"⟩
  | .joinClosed => ⟨.failedPrecondition, "local race join is allowed only in staging phase"⟩
  | .participantLimitReached => ⟨.resourceExhausted, "local race participant limit reached"⟩

/-- The name shown for a participant. -/
def localRaceDisplayName (displayName : String) : String :=
  if Text.isBlank displayName then "Local bot"
  else String.ofList ((Text.trimChars displayName.toList).take 64)

def localRaceIdentity (displayName : String) (participantIndex : ℕ) : RuntimeCarIdentity :=
  { RuntimeCarIdentity.default with
    localRaceDisplayName := some displayName
    localRaceParticipantIndex := some participantIndex }

/-- The part of a local race join after the participant is registered. -/
def placeLocalRaceCar (raceId displayName : String) (engineCarId publicCarId : ℕ)
    (participant : LocalRaceParticipantRecord) : Task TaskOutcome := do
  let target := EngineCommandTarget.localRace raceId
  match ← inEngine target .getNumberOfStartPos with
  | .error err => return .refused (mapWorkerErr err)
  | .ok 0 => return .refused ⟨.failedPrecondition, "no start slots available for selected map"⟩
  | .ok slots =>
  let startSlot := (participant.participantIndex - 1) % slots + 1
  match ← inEngine target (.setCarAtStartPos engineCarId startSlot) with
  | .error err =>
      let _ ← inEngine target (.despawnCar engineCarId)
      (ServiceOp.removeParticipant publicCarId).call
      return .refused (mapWorkerErr err)
  | .ok () =>
  insertAll publicCarId [.identity (localRaceIdentity displayName participant.participantIndex)]
  publish publicCarId engineCarId target
  return .joined publicCarId

def localRaceJoinImpl (requestedRaceId requestedName : String) : Task TaskOutcome := do
  if Text.isBlank requestedRaceId then
    return .refused ⟨.invalidArgument, "race_id must be non-empty"⟩
  else
  let raceId := Text.trim requestedRaceId
  let displayName := localRaceDisplayName requestedName
  match ← ServiceOp.activeRace.call with
  | none => return .refused ⟨.failedPrecondition, "local race runtime is not active"⟩
  | some activeRace =>
  if activeRace.raceId ≠ raceId then
    return .refused ⟨.notFound, "local race runtime is not active for requested race_id"⟩
  else
  let target := EngineCommandTarget.localRace raceId
  match ← inEngine target .spawnCar with
  | .error err => return .refused (mapWorkerErr err)
  | .ok engineCarId =>
  let publicCarId ← ServiceOp.allocatePublicCarId.call
  match ← (ServiceOp.registerParticipant raceId publicCarId displayName).call with
  | .error err =>
      let _ ← inEngine target (.despawnCar engineCarId)
      return .refused (mapLocalRaceStateErr err)
  | .ok participant => placeLocalRaceCar raceId displayName engineCarId publicCarId participant

def officialRaceIdentity (teamId : String) (startPositionIndex : ℕ) : RuntimeCarIdentity :=
  { RuntimeCarIdentity.default with
    teamId := some teamId
    officialRaceStartPositionIndex := some startPositionIndex }

def registerOfficialRaceRuntimeCar (teamId : String)
    (publicCarId engineCarId startPositionIndex : ℕ) : Task Unit := do
  insertAll publicCarId [.identity (officialRaceIdentity teamId startPositionIndex)]
  publish publicCarId engineCarId .officialRace

/-- The launcher's part for one team up to the registration of its car. -/
def joinOfficialRace (teamId : String) (startPositionIndex : ℕ) : Task TaskOutcome := do
  match ← inEngine .officialRace .spawnCar with
  | .error err => return .refused (mapWorkerErr err)
  | .ok engineCarId =>
  let publicCarId ← ServiceOp.allocatePublicCarId.call
  registerOfficialRaceRuntimeCar teamId publicCarId engineCarId startPositionIndex
  return .joined publicCarId

def teamSandboxIdentity (userId teamId : String) : RuntimeCarIdentity :=
  { RuntimeCarIdentity.default with
    subject := some userId
    teamId := some teamId }

/-- The runtime part of a team's sandbox join: the car is taken back when
its bot container does not start. -/
def joinTeamSandbox (sandboxId userId teamId : String) (slotIndex : ℤ)
    (containerStarts : Bool) : Task TaskOutcome := do
  let target := EngineCommandTarget.sandbox sandboxId
  match ← inEngine target .spawnCar with
  | .error err => return .refused (mapWorkerErr err)
  | .ok engineCarId =>
  match ← inEngine target (.setCarBeforeFinishLine engineCarId) with
  | .error err =>
      let _ ← inEngine target (.despawnCar engineCarId)
      return .refused (mapWorkerErr err)
  | .ok () =>
  let publicCarId ← ServiceOp.allocatePublicCarId.call
  insertAll publicCarId [.identity (teamSandboxIdentity userId teamId)]
  (ServiceOp.car publicCarId (.setActiveBotSlot slotIndex)).call
  publish publicCarId engineCarId target
  if containerStarts then return .joined publicCarId
  else
    let _ ← inEngine target (.despawnCar engineCarId)
    (ServiceOp.removeCar publicCarId).call
    return .done

/-! ## Removals and clean-ups -/

def eraseAll (carId : ℕ) : List CarErasure → Task Unit
  | [] => return
  | erasure :: rest => do
      (ServiceOp.erase carId erasure).call
      eraseAll carId rest

/-- `remove_instance_mapping_for_car`, and the end of `remove_car`. -/
def removeInstanceMappingForCar (carId : ℕ) : Task Unit := do
  match ← (ServiceOp.takeOwner carId).call with
  | none => return
  | some ownerInstanceUuid =>
  if (← (ServiceOp.instanceCar ownerInstanceUuid).call) = some carId then
    (ServiceOp.eraseInstanceCar ownerInstanceUuid).call
  else return

/-- `RaceRuntimeStore::remove_car`, map by map. -/
def removeCar (carId : ℕ) : Task Unit := do
  eraseAll carId [.known, .lastClientSeq, .engineId, .target, .identity, .pitState,
    .controlsInput]
  removeInstanceMappingForCar carId

/-- The removal of the frontend spectator stream. -/
def removeCarState (carId : ℕ) : Task Unit := do
  eraseAll carId [.known, .lastClientSeq, .engineId, .target]
  removeInstanceMappingForCar carId

/-- A despawn may time out; what it answers is only logged. -/
def cleanupParticipantCar (b : Build) (publicCarId : ℕ) (target : EngineCommandTarget)
    (engineCarId : ℕ) : Task Unit := do
  let despawnThenRemove : Task Unit := do
    let _ ← inEngine target (.despawnCar engineCarId)
    (ServiceOp.removeCar publicCarId).call
  match target with
  | .officialRace => return
  | .localRace _ => despawnThenRemove
  | .sandbox _ =>
      match b with
      | .local | .standalone => despawnThenRemove
      | .official =>
          if ← (ServiceOp.isBotSwitchInProgress publicCarId).call then return
          else
            (ServiceOp.removeCar publicCarId).call
            let _ ← inEngine target (.despawnCar engineCarId)

def findOwned (ownerInstanceUuid : String) (target : EngineCommandTarget) :
    List (ℕ × String) → Task (Option ℕ)
  | [] => return none
  | (carId, owner) :: rest =>
      if owner ≠ ownerInstanceUuid then findOwned ownerInstanceUuid target rest
      else do
        if (← (ServiceOp.carTarget carId).call) = some target then return some carId
        else findOwned ownerInstanceUuid target rest

def resolveOwnedCleanupCar (ownerInstanceUuid : Option String)
    (cleanupTarget : Option EngineCommandTarget) : Task (Option ℕ) := do
  match ownerInstanceUuid with
  | none => return none
  | some ownerInstanceUuid =>
  match cleanupTarget with
  | none => (ServiceOp.instanceCar ownerInstanceUuid).call
  | some target =>
      match ← findOwned ownerInstanceUuid target (← ServiceOp.carOwnerEntries.call) with
      | some carId => return some carId
      | none => (ServiceOp.instanceCar ownerInstanceUuid).call

/-- Despawn and remove the car that a frontend clean-up has found. -/
def dropOwnedCar (publicCarId : ℕ) : Task Unit := do
  match ← (ServiceOp.carTarget publicCarId).call with
  | none => removeCarState publicCarId
  | some target =>
  match ← (ServiceOp.carEngineId publicCarId).call with
  | none => removeCarState publicCarId
  | some engineCarId =>
  let _ ← inEngine target (.despawnCar engineCarId)
  removeCarState publicCarId

def cleanupFrontendCars (cleanupTarget : Option EngineCommandTarget)
    (ownerInstanceUuid : Option String) : Task Unit := do
  match ← resolveOwnedCleanupCar ownerInstanceUuid cleanupTarget with
  | none => return
  | some publicCarId => dropOwnedCar publicCarId

/-! ## The frame hub -/

def raceMetricsOutcome (result : Except EngineWorkerError VehicleRaceMetrics) :
    ReadOutcome (Option VehicleRaceMetrics) :=
  match result with
  | .error (.engine .noData) => .got (some .default)
  | result =>
      match readOutcome result with
      | .got metrics => .got (some metrics)
      | .dropCar => .dropCar
      | .unreadable => .got none

/-- Race metrics are read in the official and standalone builds. -/
def readRaceMetrics (b : Build) (target : EngineCommandTarget) (engineCarId : ℕ) :
    Task (ReadOutcome (Option VehicleRaceMetrics)) := do
  match b with
  | .local => return .got none
  | .official | .standalone =>
      return raceMetricsOutcome (← inEngine target (.readCarRaceMetrics engineCarId))

/-- Mount the planned tyre; `true` when the engine no longer knows the
car. -/
def applyPitFixTire (b : Build) (target : EngineCommandTarget) (publicCarId engineCarId : ℕ)
    (state : VehicleState) : Task Bool := do
  if b.isLocal ∧ target = .officialRace then return false
  else
  match ← (ServiceOp.car publicCarId (.planPitFixTireApply
      (runtimeTireTypeFromEngine state.tyreType) (completedPit state))).call with
  | none => return false
  | some desired =>
  match engineTireTypeFromRuntime desired with
  | none => return false
  | some tyreType =>
  match ← inEngine target (.setCarTyreType engineCarId tyreType) with
  | .ok () =>
      (ServiceOp.car publicCarId (.markPitFixTireApplied desired)).call
      return false
  | .error (.engine .notFound) => return true
  | .error _ => return false

/-- The part of a car's collection after its state has been read. What the
hub reads last for the frame itself is left out. -/
def collectReadCar (b : Build) (remove : ℕ → Task Unit) (nowMs publicCarId engineCarId : ℕ)
    (target : EngineCommandTarget) (state : VehicleState) : Task Unit := do
  match ← readRaceMetrics b target engineCarId with
  | .dropCar => remove publicCarId
  | .unreadable => return
  | .got raceMetrics =>
  if ← applyPitFixTire b target publicCarId engineCarId state then remove publicCarId
  else
  let pitState ←
    (ServiceOp.car publicCarId (.updatePitStateFromRuntime state raceMetrics nowMs)).call
  if pitState.forceIdle then
    let brake : F32 := if 0 < pitState.emergencyLockRemainingMs then 1 else 0
    let _ ← inEngine target (.setControls engineCarId (Controls.new 0 brake (1 / 2) 0 0 .none))
  else return

/-- The hub's calls for one car; `remove` is the removal it uses. -/
def collectCar (b : Build) (remove : ℕ → Task Unit) (nowMs publicCarId : ℕ) : Task Unit := do
  match ← (ServiceOp.carTarget publicCarId).call with
  | none => remove publicCarId
  | some target =>
  match ← (ServiceOp.carEngineId publicCarId).call with
  | none => remove publicCarId
  | some engineCarId =>
  match readOutcome (← inEngine target (.readCarState engineCarId)) with
  | .dropCar => remove publicCarId
  | .unreadable => return
  | .got state => collectReadCar b remove nowMs publicCarId engineCarId target state

def collectCars (b : Build) (remove : ℕ → Task Unit) (nowMs : ℕ) : List ℕ → Task Unit
  | [] => return
  | publicCarId :: rest => do
      collectCar b remove nowMs publicCarId
      collectCars b remove nowMs rest

/-- The part of `collect_frame` that works on the store. -/
def collectFrame (b : Build) (remove : ℕ → Task Unit) (nowMs : ℕ) : Task Unit := do
  collectCars b remove nowMs (← ServiceOp.knownCarIds.call)

/-! ### The calls that place a car -/

/-- What the engine is asked while a car is placed. -/
def PlacingOp : SlotOp → Prop
  | .setCarBeforeFinishLine _ | .setCarRandomOnTrack _ | .setCarToPitstop _
  | .getNumberOfStartPos | .setCarAtStartPos .. => True
  | _ => False

theorem applyLocalSpawnMode_uses_of {P : ServiceOp → Prop} {sandboxId : String}
    {target : EngineCommandTarget} (hmode : P (.localSpawnMode sandboxId))
    (hslot : ∀ slots, P (.randomStartSlot slots))
    (hengine : ∀ op, PlacingOp op → P (.engine target op)) (engineCarId : ℕ) :
    (applyLocalSpawnMode sandboxId target engineCarId).Uses P := by
  refine .call hmode fun mode => ?_
  cases mode with
  | none => trivial
  | some mode =>
      cases mode with
      | randomStartSlot =>
          refine .call (hengine _ trivial) fun slots => ?_
          rcases slots with err | _ | slots
          · trivial
          · trivial
          · exact .call (hslot _) fun _ => .call (hengine _ trivial) fun _ => trivial
      | _ => exact .call (hengine _ trivial) fun _ => trivial

/-- The calls that place a car in its world. -/
def PlacingCall : ServiceOp → Prop
  | .localSpawnMode _ | .randomStartSlot _ | .engine .. => True
  | _ => False

theorem applyLocalSpawnMode_uses (sandboxId : String) (target : EngineCommandTarget)
    (engineCarId : ℕ) : (applyLocalSpawnMode sandboxId target engineCarId).Uses PlacingCall :=
  applyLocalSpawnMode_uses_of trivial (fun _ => trivial) (fun _ _ => trivial) engineCarId

/-- As `joinSandbox` places its car. -/
theorem quickJoinPlacing_uses (b : Build) (sandboxId : String) (target : EngineCommandTarget)
    (engineCarId : ℕ) :
    (if b.isLocal then applyLocalSpawnMode sandboxId target engineCarId
      else do
        return (← inEngine target (.setCarBeforeFinishLine engineCarId)).mapError
          mapWorkerErr : Task (Except Status Unit)).Uses PlacingCall := by
  split
  · exact applyLocalSpawnMode_uses sandboxId target engineCarId
  · exact .call trivial fun _ => trivial

/-! ### The calls of a pass -/

/-- The hub's own writes for a car. -/
def hubWrites : CarCall → Bool
  | .planPitFixTireApply .. | .markPitFixTireApplied _ | .updatePitStateFromRuntime .. => true
  | _ => false

/-- What a pass calls for the car: reads, the engine, and its own writes. -/
def OwnCarCall (carId : ℕ) : ServiceOp → Prop
  | .car other call => other = carId ∧ hubWrites call = true
  | .engine _ (.readCarState _) | .engine _ (.readCarRaceMetrics _)
  | .engine _ (.setCarTyreType ..) | .engine _ (.setControls ..)
  | .carTarget _ | .carEngineId _ => True
  | _ => False

theorem readRaceMetrics_uses (b : Build) (carId : ℕ) (target : EngineCommandTarget)
    (engineCarId : ℕ) :
    (readRaceMetrics b target engineCarId).Uses (OwnCarCall carId) := by
  cases b with
  | «local» => trivial
  | official => exact .call trivial fun _ => trivial
  | standalone => exact .call trivial fun _ => trivial

theorem applyPitFixTire_uses (b : Build) (target : EngineCommandTarget)
    (publicCarId engineCarId : ℕ) (state : VehicleState) :
    (applyPitFixTire b target publicCarId engineCarId state).Uses (OwnCarCall publicCarId) := by
  rw [applyPitFixTire]
  split
  · trivial
  · refine .call ⟨rfl, rfl⟩ fun desired => ?_
    cases desired with
    | none => trivial
    | some desired =>
        dsimp only
        split
        · trivial
        · refine .call trivial fun result => ?_
          split
          · exact .call ⟨rfl, rfl⟩ fun _ => trivial
          · trivial
          · trivial

/-- A pass over a car makes calls for the car, and at most removes it. -/
theorem collectCar_uses {P : ServiceOp → Prop} {remove : ℕ → Task Unit} {carId : ℕ}
    (hremove : (remove carId).Uses P) (hown : ∀ op, OwnCarCall carId op → P op) (b : Build)
    (nowMs : ℕ) : (collectCar b remove nowMs carId).Uses P := by
  refine .call (hown _ trivial) fun target => ?_
  cases target with
  | none => exact hremove
  | some target =>
  refine .call (hown _ trivial) fun engineCarId => ?_
  cases engineCarId with
  | none => exact hremove
  | some engineCarId =>
  refine .call (hown _ trivial) fun result => ?_
  split
  · exact hremove
  · trivial
  · rename_i state _
    refine ((readRaceMetrics_uses b carId target engineCarId).mono hown).bind fun metrics => ?_
    split
    · exact hremove
    · trivial
    · refine ((applyPitFixTire_uses b target carId engineCarId state).mono hown).bind
        fun dropped => ?_
      split
      · exact hremove
      · refine .call (hown _ ⟨rfl, rfl⟩) fun pitState => ?_
        split
        · exact .call (hown _ trivial) fun _ => trivial
        · trivial

theorem collectFrame_uses {P : ServiceOp → Prop} {remove : ℕ → Task Unit}
    (hremove : ∀ carId, (remove carId).Uses P) (hids : P .knownCarIds)
    (hown : ∀ carId op, OwnCarCall carId op → P op) (b : Build) (nowMs : ℕ) :
    (collectFrame b remove nowMs).Uses P := by
  refine .call hids fun ids => ?_
  induction ids with
  | nil => trivial
  | cons carId rest ih =>
      exact (collectCar_uses (hremove carId) (hown carId) b nowMs).bind fun _ => ih

/-! ## Unary commands

The caller's token has been resolved to a car before. -/

def setControlsDev (b : Build) (targetCarId clientSeq : ℕ) (controls : Controls) :
    Task TaskOutcome := do
  match ← (ServiceOp.carTarget targetCarId).call with
  | none => return .refused ⟨.notFound, "unknown car target"⟩
  | some target =>
  match ← (ServiceOp.carEngineId targetCarId).call with
  | none => return .refused ⟨.notFound, "unknown car target"⟩
  | some engineCarId =>
  let closed ← (match b.isLocal, target with
    | true, .localRace raceId => (ServiceOp.gameplayCommandsClosed raceId).call
    | _, _ => return false)
  if closed then
    return .refused ⟨.failedPrecondition,
      "standalone local race accepts gameplay commands only while running"⟩
  else
  match ← inEngine target (.setControls engineCarId controls) with
  | .error err => return .refused (mapWorkerErr err)
  | .ok _ =>
  (ServiceOp.car targetCarId (.lastClientSeq clientSeq)).call
  (ServiceOp.car targetCarId (.setControlsInput controls.throttle controls.brake
    controls.brakeBalancer controls.differentialLock)).call
  return .done

def respond (carId : ℕ) (frame : RuntimeFrame) (command : ParticipantCommandType)
    (status : ParticipantCommandStatus) (reason : ParticipantCommandRejectReason)
    (cooldownRemainingMs : ℕ) : Task TaskOutcome := do
  (ServiceOp.respond carId frame command
    ⟨status, frame.tick, reason, cooldownRemainingMs⟩).call
  return .done

def inPit (frame : RuntimeFrame) (carId : ℕ) : Bool :=
  match frame.cars.lookup carId with
  | some car => car.state.pitstopState.isInAnyZone
  | none => false

def backToTrack (publicCarId engineCarId : ℕ) (target : EngineCommandTarget) :
    Task TaskOutcome := do
  let frame ← ServiceOp.latestFrame.call
  let cooldownRemainingMs ←
    (ServiceOp.cooldownRemainingMs .backToTrack publicCarId frame.serverTimeMs).call
  if 0 < cooldownRemainingMs then
    respond publicCarId frame .backToTrack .rejected .cooldownActive cooldownRemainingMs
  else if inPit frame publicCarId then
    respond publicCarId frame .backToTrack .rejected .inPit 0
  else
  match ← inEngine target (.setCarBackToTrack engineCarId) with
  | .ok () =>
      (ServiceOp.car publicCarId (.markBackToTrackApplied frame.serverTimeMs)).call
      respond publicCarId frame .backToTrack .accepted .unspecified 0
  | .error _ => respond publicCarId frame .backToTrack .rejected .notAllowed 0

/-- The pit is looked at before the cooldown, the other way round than for
`back_to_track`. -/
def emergencyPitstop (publicCarId engineCarId : ℕ) (target : EngineCommandTarget) :
    Task TaskOutcome := do
  let frame ← ServiceOp.latestFrame.call
  if inPit frame publicCarId then
    respond publicCarId frame .emergencyPitstop .rejected .inPit 0
  else
  let cooldownRemainingMs ←
    (ServiceOp.cooldownRemainingMs .emergencyPitstop publicCarId frame.serverTimeMs).call
  if 0 < cooldownRemainingMs then
    respond publicCarId frame .emergencyPitstop .rejected .cooldownActive cooldownRemainingMs
  else
  match ← inEngine target (.setCarToPitstop engineCarId) with
  | .ok () =>
      (ServiceOp.car publicCarId (.markEmergencyPitstopRequested frame.serverTimeMs)).call
      respond publicCarId frame .emergencyPitstop .accepted .unspecified 0
  | .error _ => respond publicCarId frame .emergencyPitstop .rejected .notAllowed 0

/-- `request_pitstop`; its response has no further fields. -/
def requestPitstop (publicCarId : ℕ) (active : Bool) : Task TaskOutcome := do
  (ServiceOp.car publicCarId (.setPitRequestActive active)).call
  return .done

def setNextPitTireType (publicCarId : ℕ) (nextTireType : Raw RuntimePitTireType) :
    Task TaskOutcome := do
  let frame ← ServiceOp.latestFrame.call
  match nextTireType with
  | some tireType =>
      (ServiceOp.car publicCarId (.setNextTireFromFrontend tireType)).call
      respond publicCarId frame .setNextPitTireType .accepted .unspecified 0
  | none => respond publicCarId frame .setNextPitTireType .rejected .notAllowed 0

/-! ## The participant stream -/

def streamCall : StreamWrite → CarCall
  | .lastClientSeq clientSeq => .lastClientSeq clientSeq
  | .controlsInput throttle brake brakeBalancer differentialLock =>
      .setControlsInput throttle brake brakeBalancer differentialLock
  | .backToTrackApplied nowMs => .markBackToTrackApplied nowMs
  | .emergencyPitstopRequested nowMs => .markEmergencyPitstopRequested nowMs
  | .nextTireFromBot tireType => .setNextTireFromBot tireType

/-- One effect of a turn. The engine's answer is already part of the turn's
view; a terminal error is tried and not awaited. -/
def performEffect (cfg : StreamConfig) (frame : RuntimeFrame) : StreamEffect → Task Unit
  | .event _ payload sent => (ServiceOp.send cfg.selfPublicCarId frame payload sent).call
  | .terminal _ => return
  | .engine op => do
      let _ ← inEngine cfg.selfTarget op
  | .store write => do
      let _ ← (ServiceOp.car cfg.selfPublicCarId (streamCall write)).call
  | .cleanup _ =>
      cleanupParticipantCar cfg.build cfg.selfPublicCarId cfg.selfTarget cfg.selfEngineCarId

def performEffects (cfg : StreamConfig) (frame : RuntimeFrame) : List StreamEffect → Task Unit
  | [] => return
  | effect :: rest => do
      performEffect cfg frame effect
      performEffects cfg frame rest

/-- The next turns of a stream, as many as it gets inputs. -/
def streamLoop (cfg : StreamConfig) : ℕ → StreamState → Task TaskOutcome
  | 0, _ => return .done
  | n + 1, st => do
      let (env, input) ← (ServiceOp.streamInput cfg).call
      let turn := streamTurn cfg env st input
      performEffects cfg env.frame turn.effects
      if turn.ended then return .done else streamLoop cfg n turn.state

def runParticipantStream (cfg : StreamConfig) (inputs : ℕ) : Task TaskOutcome :=
  streamLoop cfg inputs .start

/-! ## The tasks about one car -/

/-- What can go on for a car at the same time: its participant stream, the
unary commands, the hub's processing and its removal. -/
inductive CarTask where
  | stream (cfg : StreamConfig) (inputs : ℕ)
  | setControlsDev (clientSeq : ℕ) (controls : Controls)
  | backToTrack (engineCarId : ℕ) (target : EngineCommandTarget)
  | requestPitstop (active : Bool)
  | emergencyPitstop (engineCarId : ℕ) (target : EngineCommandTarget)
  | setNextPitTireType (nextTireType : Raw RuntimePitTireType)
  | collectCar (nowMs : ℕ)
  | removeCar

/-- The store's operations, the removal among them, are single calls. -/
def CarTask.task (b : Build) (carId : ℕ) : CarTask → Task TaskOutcome
  | .stream cfg inputs =>
      runParticipantStream { cfg with build := b, selfPublicCarId := carId } inputs
  | .setControlsDev clientSeq controls => Tasks.setControlsDev b carId clientSeq controls
  | .backToTrack engineCarId target => Tasks.backToTrack carId engineCarId target
  | .requestPitstop active => Tasks.requestPitstop carId active
  | .emergencyPitstop engineCarId target => Tasks.emergencyPitstop carId engineCarId target
  | .setNextPitTireType nextTireType => Tasks.setNextPitTireType carId nextTireType
  | .collectCar nowMs => do
      Tasks.collectCar b (fun carId => (ServiceOp.removeCar carId).call) nowMs carId
      return .done
  | .removeCar => do
      (ServiceOp.removeCar carId).call
      return .done

/-- The tasks that run; a thread without a task has ended. -/
def carThreads (b : Build) (carId : ℕ) (tasks : ℕ → Option CarTask) : ℕ → Task TaskOutcome :=
  fun i => match tasks i with
    | some t => t.task b carId
    | none => return .done

/-! ## A willing world -/

/-- An engine that grants every command; the cars it spawns get the number
one. -/
def willingEngine : EngineCommandTarget → (op : SlotOp) →
    Except EngineWorkerError (SlotOp.Answer op)
  | _, .spawnCar => .ok 1
  | _, .getNumberOfStartPos => .ok 4
  | _, .setControls .. => .ok ⟨.none⟩
  | _, .readCarState _ => .ok (restingCar 0)
  | _, .readCarRaceMetrics _ => .ok .default
  | _, .readCarDimensions _ => .ok (2, 4)
  | _, .getTrackData => .ok ⟨"m", 1000⟩
  | _, .getRaceDuration => .ok 0
  | _, .setCarBackToTrack _ | _, .setCarBeforeFinishLine _ | _, .setCarRandomOnTrack _
  | _, .setCarAtStartPos .. | _, .setCarToPitstop _ | _, .setCarTyreType ..
  | _, .forceSetCarTyreType .. | _, .setGhostModeSettings _ | _, .despawnCar _ => .ok ()

/-- A frame without cars, at a time. -/
def frameAt (nowMs : ℕ) : RuntimeFrame := { RuntimeFrame.default with serverTimeMs := nowMs }

/-- The answers at a time, with an input for the participant stream. -/
def willingInput (nowMs : ℕ) (input : StreamInput) : ServiceInput where
  runtimeState := .error .workerStopped
  engine := willingEngine
  frame := frameAt nowMs
  nowMs := nowMs
  turn := (⟨frameAt nowMs, .new, .new, nowMs, .ok (2, 4), fun _ => .ok ⟨.none⟩, .ok (), .ok (),
    fun _ => true⟩, input)
  ownerOrder := []
  localSpawnMode := fun _ => none
  randomStartSlot := fun _ => 1
  identity := .ok .default

end Tasks

end HackArena.Services
