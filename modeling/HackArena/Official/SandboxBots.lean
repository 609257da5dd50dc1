import HackArena.Official.RaceBots

/-!
# The bots of the sandboxes

A team lets its bot join a sandbox, one at a time. The join first removes
what is left of earlier ones; then it spawns a car, registers it and starts
the container. In the pit the bot is switched to the slot that its team has
selected. The files of the log captures are left out. A status that is
written into a text stands there with its message only.
-/

namespace HackArena.Official.SandboxBots

open Boink HackArena.Runtime HackArena.Services HackArena.Official

/-! ## Errors -/

/-- `clip_for_error`. -/
def clipForError (value : String) : String :=
  let trimmed := Text.trim value
  if trimmed.isEmpty then "<empty>"
  else
    let totalChars := trimmed.length
    if totalChars ≤ 4000 then trimmed
    else
      String.ofList (trimmed.toList.take 2200) ++ "\n...[truncated " ++
        toString (totalChars - (2200 + 1600)) ++ " chars]...\n" ++
        String.ofList (trimmed.toList.drop (totalChars - 1600))

def isEngineResourceNotFound : EngineWorkerError → Bool
  | .engine .notFound => true
  | _ => false

/-- `is_sandbox_runtime_not_active`. -/
def isSandboxRuntimeNotActive (err : EngineWorkerError) : Bool :=
  isSandboxRuntimeNotActiveInvalidArgument err

/-! ## The clean-up -/

/-- What has been started for a join is taken back. Docker and the engine
may fail to. -/
def rollbackJoinRuntime (target : EngineCommandTarget) (publicCarId engineCarId : ℕ)
    (containerName : String) : OfficialProg Unit := do
  let _ ← (Op.docker (.rm containerName)).call
  let _ ← (Op.engine (.despawnCarWithin target engineCarId)).call
  (Op.store (.removeCar publicCarId)).call

/-- The car is that of a bot of the team. -/
def isTeamBot (teamId : String) (identity : RuntimeCarIdentity) : Bool :=
  identity.teamId.map Text.trim == some teamId && identity.activeBotSlot.isSome

def removeOrphan (publicCarId : ℕ) (target : EngineCommandTarget) : OfficialProg Bool := do
  match ← (Op.store (.carEngineId publicCarId)).call with
  | none => pure ()
  | some engineCarId => do
      let _ ← (Op.engine (.despawnCarWithin target engineCarId)).call
      pure ()
  (Op.store (.removeCar publicCarId)).call
  pure true

/-- The answer is whether the car has been removed. -/
def cleanupOrphanCar (teamId : String) (publicCarId : ℕ) : OfficialProg Bool := do
  match ← (Op.store (.carIdentity publicCarId)).call with
  | none => pure false
  | some identity =>
      if isTeamBot teamId identity = false then pure false
      else
        match ← (Op.store (.carTarget publicCarId)).call with
        | some (.sandbox sandboxId) => removeOrphan publicCarId (.sandbox sandboxId)
        | _ => pure false

def cleanupOrphanCars (teamId : String) : List ℕ → OfficialProg ℕ
  | [] => pure 0
  | publicCarId :: publicCarIds => do
      let removed ← cleanupOrphanCar teamId publicCarId
      let cleaned ← cleanupOrphanCars teamId publicCarIds
      pure (cleaned + if removed then 1 else 0)

def cleanupOrphanTeamSandboxCars (teamId : String) : OfficialProg ℕ := do
  let publicCarIds ← (Op.store .knownCarIds).call
  cleanupOrphanCars teamId publicCarIds

/-- The error of a despawn that is reported in the end: that the car or its
sandbox is gone is none, and the time of a despawn may be up. -/
def deferredStatus : Option (Except EngineWorkerError Unit) → Option Status
  | some (.error err) =>
      if isEngineResourceNotFound err || isSandboxRuntimeNotActive err then none
      else some (mapWorkerErr err)
  | _ => none

def cleanupJoinStateLocked (teamId : String) (join : TeamSandboxJoinState) : StatusProg Unit := do
  let _ ← liftM (Op.docker (.rm join.containerName)).call
  liftM (Op.outside (.stopLogCapture teamId)).call
  let despawned ← liftM
    (Op.engine (.despawnCarWithin (.sandbox join.sandboxId) join.engineCarId)).call
  liftM (Op.store (.removeCar join.publicCarId)).call
  liftM (Op.join (.remove teamId)).call
  match deferredStatus despawned with
  | some status => throw status
  | none => pure ()

/-! ## The join -/

inductive OfficialSandboxCommandStatus where
  | ok | failed
  deriving DecidableEq, Repr

structure JoinOfficialSandboxResponse where
  status : OfficialSandboxCommandStatus
  message : String
  deriving DecidableEq, Repr

def joinFailed (message : String) : JoinOfficialSandboxResponse := ⟨.failed, message⟩

/-- The id that the team service gives is trimmed, before it is cached and
used. -/
def teamIdFromTeam (value : String) : Except Status String :=
  let teamId := Text.trim value
  if teamId.isEmpty then
    .error ⟨.failedPrecondition, "GetTeamByUser returned empty team id"⟩
  else .ok teamId

def resolveTeamId (userId : String) : StatusProg String := do
  let value ← (Op.outside (.resolveTeamId userId)).call.orFail id
  ExceptT.mk (pure (teamIdFromTeam value))

def sandboxActive (runtime : EngineRuntimeState) (sandboxId : String) : Bool :=
  runtime.activeSandboxes.any fun sandbox => sandbox.sandboxId == sandboxId

/-- The store has the car that the entry names. -/
def runtimeCarPresent (join : TeamSandboxJoinState) : OfficialProg Bool := do
  let target ← (Op.store (.carTarget join.publicCarId)).call
  let engineId ← (Op.store (.carEngineId join.publicCarId)).call
  pure (target.isSome && engineId.isSome)

def cleanupStaleJoin (teamId : String) (join : TeamSandboxJoinState) : StatusProg Unit :=
  mapErr (cleanupJoinStateLocked teamId join) fun status =>
    ⟨.internal, "failed to cleanup stale join state: " ++ status.message⟩

/-- An entry of the team's bot from before: the answer is whether the bot is
still there. Otherwise the entry is cleaned up. -/
def checkExistingJoin (teamId : String) (runtime : EngineRuntimeState)
    (join : TeamSandboxJoinState) : StatusProg Bool := do
  let present ← liftM (runtimeCarPresent join)
  if sandboxActive runtime join.sandboxId && present then
    let running ← (Op.docker (.inspectRunning join.containerName)).call.orFail fun err =>
      ⟨.internal, "failed to verify existing team bot container: " ++ clipForError err⟩
    if running then pure true
    else do
      cleanupStaleJoin teamId join
      pure false
  else do
    cleanupStaleJoin teamId join
    pure false

/-- What a join is about, once all is checked. -/
structure JoinRequest where
  userId : String
  teamId : String
  sandboxId : String
  slotIndex : ℤ
  submissionId : String
  imageRef : String
  containerName : String

namespace JoinRequest

variable (r : JoinRequest)

def target : EngineCommandTarget := .sandbox r.sandboxId

def spec : BotSpec :=
  ⟨r.imageRef, r.containerName, r.teamId, r.submissionId, r.sandboxId, r.slotIndex⟩

def state (publicCarId engineCarId containerId : ℕ) : TeamSandboxJoinState :=
  ⟨r.sandboxId, r.slotIndex, publicCarId, engineCarId, r.containerName, .docker containerId⟩

def registerCar (publicCarId engineCarId : ℕ) : OfficialProg Unit := do
  (Op.store (.insert publicCarId (.identity { RuntimeCarIdentity.default with
    subject := some r.userId
    teamId := some r.teamId }))).call
  (Op.store (.car publicCarId (.setActiveBotSlot r.slotIndex))).call
  (Op.store (.insert publicCarId .known)).call
  (Op.store (.insert publicCarId .lastClientSeq)).call
  (Op.store (.insert publicCarId (.engineId engineCarId))).call
  (Op.store (.insert publicCarId (.target r.target))).call

/-- The container runs: its log is captured, the slot is persisted, and the
join is entered. -/
def enter (publicCarId engineCarId containerId : ℕ) : StatusProg JoinOfficialSandboxResponse := do
  match ← liftM (Op.outside (.startBotLogCapture r.teamId containerId)).call with
  | .error err => do
      liftM (Op.outside (.stopLogCapture r.teamId)).call
      liftM (rollbackJoinRuntime r.target publicCarId engineCarId r.containerName)
      pure (joinFailed ("failed to initialize bot log capture: " ++ clipForError err))
  | .ok _ =>
      match ← liftM (Op.repo (.upsertSelectedSlotIndex r.teamId r.slotIndex)).call with
      | .error err => do
          liftM (Op.outside (.stopLogCapture r.teamId)).call
          liftM (rollbackJoinRuntime r.target publicCarId engineCarId r.containerName)
          throw (internal "failed to persist selected slot on join" err)
      | .ok _ => do
          liftM (Op.join (.insert r.teamId (r.state publicCarId engineCarId containerId))).call
          liftM (Op.spawnMonitor ⟨.joinCommand, r.teamId, containerId⟩).call
          pure ⟨.ok, "joined official sandbox"⟩

def startContainer (publicCarId engineCarId : ℕ) : StatusProg JoinOfficialSandboxResponse := do
  match ← liftM (startBotContainer r.spec).run with
  | .error err => do
      liftM (rollbackJoinRuntime r.target publicCarId engineCarId r.containerName)
      pure (joinFailed ("failed to start bot container: " ++ clipForError err))
  | .ok containerId => r.enter publicCarId engineCarId containerId

def spawn : StatusProg JoinOfficialSandboxResponse := do
  let engineCarId ← (Op.engine (.spawnSandboxCar r.sandboxId)).call.orFail mapWorkerErr
  match ← liftM (Op.engine (.setCarBeforeFinishLine r.target engineCarId)).call with
  | .error err => do
      let _ ← liftM (Op.engine (.despawnCar r.target engineCarId)).call
      throw (mapWorkerErr err)
  | .ok _ => do
      let publicCarId ← liftM (Op.store .allocatePublicCarId).call
      liftM (r.registerCar publicCarId engineCarId)
      r.startContainer publicCarId engineCarId

end JoinRequest

/-- The last checks, and the join. -/
def joinSandbox (userId teamId sandboxId : String) (slotIndex : ℤ)
    (runtime : EngineRuntimeState) : StatusProg JoinOfficialSandboxResponse := do
  if sandboxActive runtime sandboxId = false then
    pure (joinFailed "sandbox runtime is not active for requested sandbox_id")
  else
    match ← (Op.repo (.getSucceededSubmissionForSlot teamId slotIndex)).call.orFail
        (internal "failed to resolve slot submission") with
    | none => pure (joinFailed "requested slot does not contain succeeded submission")
    | some slotSubmission =>
        match usableImageRef slotSubmission.imageRef with
        | none => pure (joinFailed "requested slot submission is missing image_ref")
        | some imageRef => do
            issueTokens teamId
            match officialBotContainerNameForTeam teamId with
            | .error err =>
                throw ⟨.failedPrecondition, "invalid team_id for container name: " ++ err⟩
            | .ok containerName =>
                JoinRequest.spawn ⟨userId, teamId, sandboxId, slotIndex,
                  slotSubmission.submissionId, imageRef, containerName⟩

/-- Under the lock. The orphans are cleaned up when the team has no entry,
which it has not at that point. -/
def joinLocked (userId teamId sandboxId : String) (slotIndex : ℤ) :
    StatusProg JoinOfficialSandboxResponse := do
  let runtime ← (Op.engine .runtimeState).call.orFail mapWorkerErr
  let existing ← liftM (Op.join (.get teamId)).call
  let joined ← match existing with
    | none => pure false
    | some join => checkExistingJoin teamId runtime join
  if joined then pure (joinFailed "team bot is already joined; leave first")
  else do
    let entry ← liftM (Op.join (.get teamId)).call
    if entry.isNone then
      let _ ← liftM (cleanupOrphanTeamSandboxCars teamId)
      joinSandbox userId teamId sandboxId slotIndex runtime
    else joinSandbox userId teamId sandboxId slotIndex runtime

def joinOfficialSandbox (sandboxId : String) (slot : ℤ) :
    StatusProg JoinOfficialSandboxResponse := do
  let userId ← (Op.outside .subject).call.orFail id
  let teamId ← resolveTeamId userId
  let sandboxId := Text.trim sandboxId
  if sandboxId.isEmpty then pure (joinFailed "sandbox_id must be non-empty")
  else if slot < 1 ∨ 3 < slot then pure (joinFailed "slot must be between 1 and 3")
  else ExceptT.mk (withLock .joinCommand (joinLocked userId teamId sandboxId slot).run)

/-! ## The slot switch -/

def selectedSubmission (teamId : String) (selectedSlot : ℤ) :
    ExceptT String OfficialProg (String × String) := do
  match ← (Op.repo (.getSucceededSubmissionForSlot teamId selectedSlot)).call.orFail
      fun _ => "failed to resolve selected slot submission" with
  | none => throw "selected slot does not contain succeeded submission"
  | some slotSubmission =>
      match usableImageRef slotSubmission.imageRef with
      | none => throw "selected slot submission is missing image_ref"
      | some imageRef => pure (slotSubmission.submissionId, imageRef)

/-- The tokens, the container and the log capture of a slot switch. -/
def switchContainer (teamId : String) (spec : BotSpec) : ExceptT String OfficialProg ℕ := do
  mapErr (issueTokens teamId) (·.message)
  let nowMs ← liftM (Op.outside .currentUnixMs).call
  liftM (Op.join (.setContainerId teamId (.switching nowMs))).call
  let containerId ← mapErr (startBotContainer spec) fun _ =>
    "failed to restart sandbox bot container for selected slot"
  liftM (Op.outside (.stopLogCapture teamId)).call
  (Op.outside (.startBotLogCapture teamId containerId)).call.orFail fun _ =>
    "failed to restart sandbox log capture after slot switch"
  pure containerId

/-- A switch that fails puts the container id back. -/
def applySelectedSlot (teamId : String) (join : TeamSandboxJoinState) (selectedSlot : ℤ) :
    ExceptT String OfficialProg Unit := do
  let (submissionId, imageRef) ← selectedSubmission teamId selectedSlot
  liftM (Op.store (.car join.publicCarId (.setBotSwitchInProgress true))).call
  let switchResult ← liftM (switchContainer teamId
    ⟨imageRef, join.containerName, teamId, submissionId, join.sandboxId, selectedSlot⟩).run
  liftM (Op.store (.car join.publicCarId (.setBotSwitchInProgress false))).call
  match switchResult with
  | .error err => do
      liftM (Op.join (.restoreContainerId teamId join.containerId)).call
      throw err
  | .ok containerId => do
      liftM (Op.join (.insert teamId { join with
        slotIndex := selectedSlot
        containerId := .docker containerId })).call
      liftM (Op.store (.car join.publicCarId (.setActiveBotSlot selectedSlot))).call
      liftM (Op.spawnMonitor ⟨.joinCommand, teamId, containerId⟩).call

def pendingSelectedSlot (teamId : String) : ExceptT String OfficialProg Unit := do
  match ← liftM (Op.join (.get teamId)).call with
  | none => pure ()
  | some join => do
      let inStationaryFix ← liftM (Op.store (.isInStationaryFix join.publicCarId)).call
      if inStationaryFix = false then pure ()
      else do
        let selectedSlot ← mapErr (resolveSelectedSlotIndex teamId (some join.slotIndex)) fun _ =>
          "failed to resolve selected slot"
        if selectedSlot = join.slotIndex then pure ()
        else applySelectedSlot teamId join selectedSlot

def tryApplyPendingSelectedSlotForTeam (teamId : String) : OfficialProg (Except String Unit) :=
  withLock .joinCommand (pendingSelectedSlot teamId).run

end HackArena.Official.SandboxBots
