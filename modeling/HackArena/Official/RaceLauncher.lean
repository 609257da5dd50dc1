import HackArena.Official.RaceBots

/-!
# The launcher of the official race

Two files signal that a race is to be prepared and to be started. The
launcher samples them on every tick. It launches the bots of the roster,
starts the race, records its results, and ends the session when its time
has elapsed or the runtime has left the race.
-/

namespace HackArena.Official

open Boink HackArena.Runtime HackArena.Services

structure LauncherConfig where
  teamsFilePath : String
  prepareSignalPath : String
  startSignalPath : String
  assetsDir : String

def LauncherConfig.ghostModeFile (cfg : LauncherConfig) : String :=
  cfg.assetsDir ++ "/official-race-ghost-mode.json"

/-! ## The clean-up of a session -/

def cleanupBot (teamId : String) (bot : TeamOfficialRaceBotState) : OfficialProg Unit := do
  (Op.bot (.remove teamId)).call
  let _ ← (Op.docker (.rm bot.containerName)).call
  let _ ← (Op.engine (.despawnCar .officialRace bot.engineCarId)).call
  (Op.store (.car bot.publicCarId .clearActiveBotSlot)).call
  (Op.store (.removeCar bot.publicCarId)).call

def cleanupBots : List (String × TeamOfficialRaceBotState) → OfficialProg Unit
  | [] => pure ()
  | (teamId, bot) :: bots => do
      cleanupBot teamId bot
      cleanupBots bots

def despawnStaleCar (engineCarId : Option ℕ) : OfficialProg Unit :=
  match engineCarId with
  | none => pure ()
  | some engineCarId => do
      let _ ← (Op.engine (.despawnCar .officialRace engineCarId)).call
      pure ()

def cleanupStaleCar (publicCarId : ℕ) : OfficialProg Unit := do
  let _ ← (Op.store (.carIdentity publicCarId)).call
  let engineCarId ← (Op.store (.carEngineId publicCarId)).call
  despawnStaleCar engineCarId
  (Op.store (.car publicCarId .clearActiveBotSlot)).call
  (Op.store (.removeCar publicCarId)).call

def cleanupStaleCars : List ℕ → OfficialProg Unit
  | [] => pure ()
  | publicCarId :: publicCarIds => do
      cleanupStaleCar publicCarId
      cleanupStaleCars publicCarIds

def cleanupOfficialRaceSessionLocked : OfficialProg Unit := do
  (Op.store .clearOfficialRaceSession).call
  let existingBots ← (Op.bot .entries).call
  cleanupBots existingBots
  let staleOfficialCars ← (Op.store .officialRaceCars).call
  cleanupStaleCars staleOfficialCars

/-- The runtime is left first; a switch that fails is passed over. -/
def switchToNone : OfficialProg Unit := do
  match ← (Op.engine .runtimeState).call with
  | .error _ => pure ()
  | .ok runtime =>
      if runtime.activityKind ≠ .officialRace then pure ()
      else do
        let _ ← (Op.engine (.switchRuntime runtime.revision .none runtime.mapId
          (some runtime.timeOfDayPreset) none)).call
        pure ()

def closeOfficialRaceSessionLocked : OfficialProg Unit := do
  switchToNone
  cleanupOfficialRaceSessionLocked

/-! ## The launch -/

inductive StartStatus where
  | started | skippedGridOverflow | skippedDuplicateTeam | skippedMissingSubmission
  | skippedRuntimeError | skippedTokenError | skippedContainerError
  deriving DecidableEq, Repr

structure OfficialRaceStartStats where
  totalListed : ℕ
  started : ℕ
  skippedGridOverflow : ℕ
  skippedDuplicateTeam : ℕ
  skippedMissingSubmission : ℕ
  skippedRuntimeError : ℕ
  skippedTokenError : ℕ
  skippedContainerError : ℕ
  deriving DecidableEq, Repr

def OfficialRaceStartStats.default : OfficialRaceStartStats := ⟨0, 0, 0, 0, 0, 0, 0, 0⟩

/-- Every team is listed, and counted once more for how it went. -/
def OfficialRaceStartStats.count (s : OfficialRaceStartStats) (status : StartStatus) :
    OfficialRaceStartStats :=
  let s := { s with totalListed := s.totalListed + 1 }
  match status with
  | .started => { s with started := s.started + 1 }
  | .skippedGridOverflow => { s with skippedGridOverflow := s.skippedGridOverflow + 1 }
  | .skippedDuplicateTeam => { s with skippedDuplicateTeam := s.skippedDuplicateTeam + 1 }
  | .skippedMissingSubmission => { s with skippedMissingSubmission := s.skippedMissingSubmission + 1 }
  | .skippedRuntimeError => { s with skippedRuntimeError := s.skippedRuntimeError + 1 }
  | .skippedTokenError => { s with skippedTokenError := s.skippedTokenError + 1 }
  | .skippedContainerError => { s with skippedContainerError := s.skippedContainerError + 1 }

/-- How the launch of one team went. -/
structure TeamOutcome where
  startStatus : StartStatus
  slotIndex : Option ℤ
  submissionId : Option String
  carId : Option ℕ
  containerId : Option ℕ
  deriving DecidableEq, Repr

/-- The values that the recorder writes into the entry later are left
out. -/
structure OfficialRaceTeamResultEntry where
  teamId : String
  rosterIndex : ℕ
  outcome : TeamOutcome
  deriving DecidableEq, Repr

structure OfficialRaceLaunchResult where
  stats : OfficialRaceStartStats
  teams : List OfficialRaceTeamResultEntry
  deriving DecidableEq, Repr

/-- The first slot from `slots` on whose submission has an image. -/
def resolveRunnableSlot (teamId : String) : List ℤ → StatusProg (Option (ℤ × String × String))
  | [] => pure none
  | slotIndex :: slots => do
      match ← (Op.repo (.getSucceededSubmissionForSlot teamId slotIndex)).call.orFail
          (internal ("failed to resolve slot submission for team " ++ teamId)) with
      | none => resolveRunnableSlot teamId slots
      | some slotSubmission =>
          match usableImageRef slotSubmission.imageRef with
          | none => resolveRunnableSlot teamId slots
          | some imageRef => pure (some (slotIndex, slotSubmission.submissionId, imageRef))

def resolveLowestRunnableSlotSubmission (teamId : String) :
    StatusProg (Option (ℤ × String × String)) :=
  resolveRunnableSlot teamId [1, 2, 3]

/-- A bot that is to be started, with its car on the grid. -/
structure GridBot where
  teamId : String
  slotIndex : ℤ
  submissionId : String
  imageRef : String
  publicCarId : ℕ
  engineCarId : ℕ
  positionIndex : ℕ

def GridBot.outcome (bot : GridBot) (status : StartStatus) (containerId : Option ℕ) : TeamOutcome :=
  ⟨status, some bot.slotIndex, some bot.submissionId, some bot.publicCarId, containerId⟩

def GridBot.spec (bot : GridBot) (containerName : String) : BotSpec :=
  ⟨bot.imageRef, containerName, bot.teamId, bot.submissionId, "official-race", bot.slotIndex⟩

def GridBot.state (bot : GridBot) (containerName : String) (containerId : ℕ) :
    TeamOfficialRaceBotState :=
  ⟨bot.publicCarId, bot.engineCarId, bot.positionIndex, bot.slotIndex, containerName,
    .docker containerId, bot.submissionId, bot.imageRef, 0⟩

/-- The car of a bot that cannot be started is taken back. -/
def GridBot.skip (bot : GridBot) (status : StartStatus) : OfficialProg TeamOutcome := do
  cleanupSpawnedOfficialRaceCar bot.publicCarId bot.engineCarId
  pure (bot.outcome status none)

/-- A slot that cannot be persisted is passed over. -/
def GridBot.enter (bot : GridBot) (containerName : String) (containerId : ℕ) :
    OfficialProg TeamOutcome := do
  let _ ← (Op.outside (.startBotLogCapture bot.teamId containerId)).call
  (Op.bot (.insert bot.teamId (bot.state containerName containerId))).call
  (Op.store (.car bot.publicCarId (.setActiveBotSlot bot.slotIndex))).call
  let _ ← (Op.repo (.upsertSelectedSlotIndex bot.teamId bot.slotIndex)).call
  (Op.spawnMonitor ⟨.prepareCommand, bot.teamId, containerId⟩).call
  pure (bot.outcome .started (some containerId))

def GridBot.startContainer (bot : GridBot) : OfficialProg TeamOutcome := do
  match officialBotContainerNameForTeam bot.teamId with
  | .error _ => bot.skip .skippedRuntimeError
  | .ok containerName =>
      match ← (startBotContainer (bot.spec containerName)).run with
      | .error _ => do
          let _ ← (Op.docker (.rm containerName)).call
          bot.skip .skippedContainerError
      | .ok containerId => bot.enter containerName containerId

def GridBot.start (bot : GridBot) : OfficialProg TeamOutcome := do
  match ← (Op.engine (.setCarAtStartPos .officialRace bot.engineCarId bot.positionIndex)).call with
  | .error _ => bot.skip .skippedRuntimeError
  | .ok _ =>
      match ← (issueTokens bot.teamId).run with
      | .error _ => bot.skip .skippedTokenError
      | .ok _ => bot.startContainer

def launchBot (teamId : String) (positionIndex : ℕ) (slotIndex : ℤ)
    (submissionId imageRef : String) : OfficialProg TeamOutcome := do
  match ← (Op.engine .spawnCar).call with
  | .error _ => pure ⟨.skippedRuntimeError, some slotIndex, some submissionId, none, none⟩
  | .ok engineCarId => do
      let publicCarId ← (Op.store .allocatePublicCarId).call
      registerOfficialRaceRuntimeCar teamId publicCarId engineCarId positionIndex
      GridBot.start ⟨teamId, slotIndex, submissionId, imageRef, publicCarId, engineCarId,
        positionIndex⟩

def launchTeam (startSlots positionIndex : ℕ) (seenTeams : List String) (teamId : String) :
    StatusProg TeamOutcome :=
  if startSlots < positionIndex then pure ⟨.skippedGridOverflow, none, none, none, none⟩
  else if teamId ∈ seenTeams then pure ⟨.skippedDuplicateTeam, none, none, none, none⟩
  else do
    match ← resolveLowestRunnableSlotSubmission teamId with
    | none => pure ⟨.skippedMissingSubmission, none, none, none, none⟩
    | some (slotIndex, submissionId, imageRef) =>
        liftM (launchBot teamId positionIndex slotIndex submissionId imageRef)

/-- The teams from the one at `index` on. -/
def launchTeams (startSlots : ℕ) : ℕ → List String → List String → OfficialRaceLaunchResult →
    StatusProg OfficialRaceLaunchResult
  | _, _, [], result => pure result
  | index, seenTeams, teamId :: teamIds, result => do
      if u32Max < index + 1 then throw ⟨.internal, "official race roster index overflow"⟩
      else do
        let outcome ← launchTeam startSlots (index + 1) seenTeams teamId
        launchTeams startSlots (index + 1) (teamId :: seenTeams) teamIds
          ⟨result.stats.count outcome.startStatus, result.teams ++ [⟨teamId, index + 1, outcome⟩]⟩

/-- The cars that are already on the grid are pinned to it by another task
in the meantime, which leaves everything here as it is. -/
def launchOfficialRaceSessionLocked (raceConfig : RaceConfigRecord) (teamIds : List String)
    (ghostModeSettings : Option GhostModeSettings) : StatusProg OfficialRaceLaunchResult := do
  liftM cleanupOfficialRaceSessionLocked
  let runtimeBefore ← (Op.engine .runtimeState).call.orFail mapWorkerErr
  (Op.engine (.switchRuntime runtimeBefore.revision .officialRace raceConfig.mapId
    (some raceConfig.timeOfDayPreset) ghostModeSettings)).call.orFail mapWorkerErr
  let startSlots ← (Op.engine (.getNumberOfStartPos .officialRace)).call.orFail mapWorkerErr
  if startSlots = 0 then
    throw ⟨.failedPrecondition, "official race map has no start slots"⟩
  else launchTeams startSlots 0 [] teamIds ⟨.default, []⟩

/-! ## The signal to prepare -/

/-- Blank lines and comments are left out; the end of a line is trimmed
away with the rest. -/
@[irreducible] def rosterTeamIds (content : String) : List String :=
  ((content.toList.splitOn '\n').map fun line => Text.trim (String.ofList line)).filter
    fun line => ¬ line.isEmpty ∧ line.toList.head? ≠ some '#'

def readOfficialRaceTeamIds (cfg : LauncherConfig) : StatusProg (List String) := do
  let content ← (Op.outside .readTeamsFile).call.orFail
    (internal ("failed to read official race team roster file " ++ cfg.teamsFilePath))
  pure (rosterTeamIds content)

@[irreducible] def validGhostMode (parsed : GhostModeSettings) : Bool :=
  0 ≤ parsed.enterSpeedMaxMps ∧ 0 ≤ parsed.exitSpeedMinMps ∧
    parsed.enterSpeedMaxMps ≤ parsed.exitSpeedMinMps

def readOfficialRaceGhostModeSettings (cfg : LauncherConfig) :
    StatusProg (Option GhostModeSettings) := do
  let found ← (Op.outside .ghostModeFileExists).call.orFail
    (internal ("failed to check official race ghost-mode settings file " ++ cfg.ghostModeFile))
  if found = false then pure none
  else do
    let parsed ← (Op.outside .readGhostModeFile).call.orFail id
    if validGhostMode parsed then pure (some parsed)
    else throw ⟨.invalidArgument, "invalid ghost mode settings in " ++ cfg.ghostModeFile ++
      ": require finite non-negative speeds and enter_speed_max_mps <= exit_speed_min_mps"⟩

/-- The part of a results recorder that says when it writes. -/
structure ResultsRecorder where
  nextWriteAfterMs : ℕ
  deriving DecidableEq, Repr

/-- The launch and the first results, under the lock. -/
def launchAndRecord (raceConfig : RaceConfigRecord) (teamIds : List String)
    (ghostModeSettings : Option GhostModeSettings) : StatusProg ResultsRecorder := do
  let _ ← launchOfficialRaceSessionLocked raceConfig teamIds ghostModeSettings
  let preparedAtMs ← liftM (Op.outside .currentUnixMs).call
  liftM (Op.store (.setOfficialRacePrepared raceConfig.raceName raceConfig.mapId
    raceConfig.raceDurationSec preparedAtMs)).call
  (Op.outside .writeSnapshot).call.orFail
    (internal "failed to write initial race results snapshot")
  pure ⟨preparedAtMs⟩

def handleOfficialRacePrepareSignal (cfg : LauncherConfig) : StatusProg ResultsRecorder := do
  let races ← (Op.outside .raceConfigs).call.orFail (internal "failed to load race configs")
  match races with
  | [] => throw ⟨.failedPrecondition, "official race launcher: no race config available"⟩
  | raceConfig :: _ => do
      let teamIds ← readOfficialRaceTeamIds cfg
      let ghostModeSettings ← readOfficialRaceGhostModeSettings cfg
      ExceptT.mk (withLock .prepareCommand
        (launchAndRecord raceConfig teamIds ghostModeSettings).run)

/-! ## The start -/

/-- A bot that cannot be refreshed stays as it is. Without the lock. -/
def refreshBot (teamId : String) (current : TeamOfficialRaceBotState) : OfficialProg Unit := do
  let restart : StatusProg ℕ := do
    issueTokens teamId
    mapErr (startBotContainerWithOptions (current.spec teamId) false)
      (internal "failed to refresh official-race bot container for start")
  match ← restart.run with
  | .error _ => pure ()
  | .ok containerId => do
      let _ ← (Op.outside (.startBotLogCapture teamId containerId)).call
      (Op.bot (.insert teamId
        { current with containerId := .docker containerId, autoRestartAttempts := 0 })).call
      (Op.store (.car current.publicCarId (.setActiveBotSlot current.slotIndex))).call
      (Op.spawnMonitor ⟨.prepareCommand, teamId, containerId⟩).call

def refreshBots : List (String × TeamOfficialRaceBotState) → OfficialProg Unit
  | [] => pure ()
  | (teamId, bot) :: bots => do
      refreshBot teamId bot
      refreshBots bots

def refreshOfficialRaceBotsBeforeStartLocked : OfficialProg Unit := do
  let bots ← (Op.bot .entries).call
  refreshBots bots

def forceHardTyre (bot : TeamOfficialRaceBotState) : OfficialProg Unit := do
  match ← (Op.engine (.forceSetCarTyreType .officialRace bot.engineCarId .hard)).call with
  | .error _ => pure ()
  | .ok _ => (Op.store (.car bot.publicCarId (.setNextTireFromFrontend .hard))).call

def forceHardTyres : List (String × TeamOfficialRaceBotState) → OfficialProg Unit
  | [] => pure ()
  | (_, bot) :: bots => do
      forceHardTyre bot
      forceHardTyres bots

def forceOfficialRaceHardTyres : OfficialProg Unit := do
  let bots ← (Op.bot .entries).call
  forceHardTyres bots

def keepGridPositions : List GridCar → OfficialProg Unit
  | [] => pure ()
  | car :: cars => do
      let _ ← (Op.engine
        (.setCarAtStartPos .officialRace car.engineCarId car.startPositionIndex)).call
      keepGridPositions cars

def keepOfficialRaceGridPositionsLocked : OfficialProg Unit := do
  let cars ← (Op.store .officialRaceGrid).call
  keepGridPositions cars

/-! ## Ticks -/

/-- The variables of the loop. -/
structure LauncherState where
  prepareSignalPresentPrev : Bool
  startSignalPresentPrev : Bool
  racePrepared : Bool
  raceStarted : Bool
  recorder : Option ResultsRecorder

namespace LauncherState

def initial : LauncherState := ⟨false, false, false, false, none⟩

def flags (st : LauncherState) : LauncherFlags :=
  ⟨st.raceStarted, st.racePrepared, st.recorder.isSome⟩

def prepared (st : LauncherState) (recorder : ResultsRecorder) : LauncherState :=
  { st with racePrepared := true, raceStarted := false, recorder := some recorder }

def ended (st : LauncherState) : LauncherState :=
  { st with racePrepared := false, raceStarted := false, recorder := none }

end LauncherState

/-- Final results that cannot be written are passed over. -/
def finalize (recorder : Option ResultsRecorder) : OfficialProg Unit :=
  match recorder with
  | none => pure ()
  | some _ => do
      let _ ← (Op.outside .currentUnixMs).call
      let _ ← (Op.outside .writeSnapshot).call
      pure ()

def onPrepareSignal (cfg : LauncherConfig) (st : LauncherState) : OfficialProg LauncherState := do
  finalize st.recorder
  match ← (handleOfficialRacePrepareSignal cfg).run with
  | .ok recorder => pure (st.prepared recorder)
  | .error _ => pure st.ended

/-- A start without a preparation prepares first; the flags stay when that
fails. -/
def implicitPrepare (cfg : LauncherConfig) (st : LauncherState) : OfficialProg LauncherState := do
  finalize st.recorder
  match ← (handleOfficialRacePrepareSignal cfg).run with
  | .ok recorder => pure (st.prepared recorder)
  | .error _ => pure { st with recorder := none }

def startRace (st : LauncherState) : OfficialProg LauncherState := do
  refreshOfficialRaceBotsBeforeStartLocked
  forceOfficialRaceHardTyres
  let frame ← Op.latestFrame.call
  (Op.store (.markOfficialRaceStarted frame.serverTimeMs)).call
  pure { st with raceStarted := true }

def ensurePrepared (cfg : LauncherConfig) (st : LauncherState) : OfficialProg LauncherState :=
  if st.racePrepared then pure st else implicitPrepare cfg st

def onStartSignal (cfg : LauncherConfig) (st : LauncherState) : OfficialProg LauncherState := do
  let st ← ensurePrepared cfg st
  if st.racePrepared ∧ st.raceStarted = false then startRace st else pure st

/-- The grid is kept until the race has started. -/
def pinGrid (st : LauncherState) : OfficialProg Unit :=
  if st.racePrepared ∧ st.raceStarted = false then keepOfficialRaceGridPositionsLocked else pure ()

/-- The time of a started race is up. -/
def raceDurationElapsed (st : LauncherState) : OfficialProg Bool :=
  if st.raceStarted then do
    let frame ← Op.latestFrame.call
    let remaining ← (Op.store (.officialRaceRemainingSec frame.serverTimeMs)).call
    pure (remaining.any fun value => value ≤ 0)
  else pure false

def recorderTick (recorder : ResultsRecorder) : OfficialProg ResultsRecorder := do
  let _ ← Op.latestFrame.call
  let nowMs ← (Op.outside .currentUnixMs).call
  if recorder.nextWriteAfterMs ≤ nowMs then do
    let _ ← (Op.outside .writeSnapshot).call
    pure ⟨saturatingAdd nowMs 1000⟩
  else pure recorder

def closeSession (st : LauncherState) : OfficialProg LauncherState := do
  finalize st.recorder
  withLock .prepareCommand closeOfficialRaceSessionLocked
  pure st.ended

/-- The session is given up when the latest frame does not show the
race. -/
def watchRuntime (st : LauncherState) (recorder : ResultsRecorder) : OfficialProg LauncherState := do
  let recorder ← recorderTick recorder
  let frame ← Op.latestFrame.call
  if frame.runtimeState.map (·.activityKind) = some .officialRace then
    pure { st with recorder := some recorder }
  else do
    finalize (some recorder)
    (Op.store .clearOfficialRaceSession).call
    pure st.ended

/-- The end of a tick, with whether the session has been closed. -/
def supervise (st : LauncherState) : OfficialProg (LauncherState × Bool) := do
  match st.recorder with
  | none => pure (st, false)
  | some recorder => do
      pinGrid st
      let elapsed ← raceDurationElapsed st
      if elapsed then do
        let st ← closeSession st
        pure (st, true)
      else do
        let st ← watchRuntime st recorder
        pure (st, false)

/-- A signal file that cannot be looked for counts as absent. -/
def sampleSignal (path : String) : OfficialProg Bool := do
  match ← (Op.outside (.signalPresent path)).call with
  | .error _ => pure false
  | .ok value => pure value

/-- A file that has appeared since the last tick. -/
def onEdge (present presentPrev : Bool) (act : LauncherState → OfficialProg LauncherState)
    (st : LauncherState) : OfficialProg LauncherState :=
  if present ∧ presentPrev = false then act st else pure st

/-- A tick on which the session is closed leaves the sampled signals out
of account. -/
def launcherTick (cfg : LauncherConfig) (st : LauncherState) : OfficialProg LauncherState := do
  let prepareSignalPresent ← sampleSignal cfg.prepareSignalPath
  let startSignalPresent ← sampleSignal cfg.startSignalPath
  let st ← onEdge prepareSignalPresent st.prepareSignalPresentPrev (onPrepareSignal cfg) st
  let st ← onEdge startSignalPresent st.startSignalPresentPrev (onStartSignal cfg) st
  let (st, closed) ← supervise st
  if closed then pure st
  else pure { st with
    prepareSignalPresentPrev := prepareSignalPresent
    startSignalPresentPrev := startSignalPresent }

def launcherLoop (cfg : LauncherConfig) : ℕ → LauncherState → OfficialProg Unit
  | 0, _ => pure ()
  | fuel + 1, st => do
      let shutdown ← (Op.nextTick st.flags).call
      if shutdown then do
        finalize st.recorder
        (Op.store .clearOfficialRaceSession).call
      else do
        let st ← launcherTick cfg st
        launcherLoop cfg fuel st

def officialRaceFileLauncher (cfg : LauncherConfig) (fuel : ℕ) : OfficialProg Unit := do
  (Op.store .clearOfficialRaceSession).call
  launcherLoop cfg fuel .initial

/-- The frame hub, as far as the launcher goes by its frames: a runtime
that cannot be read is left out of the frame. -/
def frameCollector : ℕ → OfficialProg Unit
  | 0 => pure ()
  | fuel + 1 => do
      let runtime ← (Op.engine .runtimeState).call
      (Op.publishFrame runtime.toOption).call
      frameCollector fuel

end HackArena.Official
