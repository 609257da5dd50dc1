import HackArena.Local.AdminSystem

/-!
# Local administration

The requests about configurations check or change one store and then the
other. A sandbox is activated with the configuration that is read first,
and the limit is checked on a runtime state that is read before the switch.
-/

namespace HackArena.Local

open Boink HackArena.Runtime HackArena.Services SandboxConfig

/-- The build, and how many sandboxes may be active. -/
structure LocalAdminEnv where
  build : Build
  maxActiveSandboxes : ℕ

/-! ## Responses -/

structure LocalActiveSandboxRuntimeInfo where
  sandboxId : String
  sandboxName : String
  mapId : String
  activeTimeOfDayPreset : EngineRuntimeTimeOfDayPreset
  timeOfDay : LocalTimeOfDaySettings
  ghostMode : Option GhostModeSettings
  weather : LocalWeatherSettings
  spawnMode : LocalSandboxSpawnMode
  startedAtUtc : Option Timestamp
  activePlayerCount : ℕ
  deriving DecidableEq

structure LocalRuntimeState where
  revision : ℕ
  serverTimeUtc : Timestamp
  activeSandboxes : List LocalActiveSandboxRuntimeInfo
  activeRace : Option LocalRaceRuntimeInfo
  deriving DecidableEq

inductive LocalResponse where
  | configs (revision : ℕ) (sandboxes : List LocalSandboxConfig)
  | config (revision : ℕ) (sandbox : LocalSandboxConfig)
  | deleted (revision : ℕ) (sandboxId : String)
  | timeOfDay (revision : ℕ) (sandboxId : String) (timeOfDay : LocalTimeOfDaySettings)
  | weather (revision : ℕ) (sandboxId : String) (weather : LocalWeatherSettings)
  | spawnMode (revision : ℕ) (sandboxId : String) (spawnMode : LocalSandboxSpawnMode)
  | activation (revision : ℕ) (activate : Bool) (sandboxId : String)
  | runtimeState (state : LocalRuntimeState)
  | race (reply : RaceReply)
  | done
  deriving DecidableEq

/-! ## Parts of requests -/

def checked {α : Type} (x : Except Status α) : LocalCall α := ExceptT.mk (pure x)

def checkedStore {α : Type} (x : Except ConfigStoreError α) : LocalCall α :=
  checked (x.mapError mapStoreErr)

def requireSandboxId (sandboxId : String) : LocalCall Unit :=
  checked (if Text.isBlank sandboxId then
    .error (invalidArgumentStatus "sandbox_id must be non-empty") else .ok ())

def readRuntime : LocalCall EngineRuntimeState :=
  (LocalOp.engine .runtimeState).call.orFail mapWorkerErr

def requireSandboxNotActive (sandboxId : String) : LocalCall Unit := do
  let runtime ← readRuntime
  if isSandboxActive runtime sandboxId then
    throw ⟨.failedPrecondition, "active sandbox cannot be modified"⟩
  else pure ()

/-- The change in the state, and then the file. -/
def commitChange (expectedRevision : ℕ) (c : ConfigChange) : LocalCall ℕ := do
  let revision ← (LocalOp.config (.change expectedRevision c)).call.orFail mapStoreErr
  (LocalOp.config .persist).call.orFail mapStoreErr
  return revision

def configFromProto (env : LocalAdminEnv) (config : Option LocalSandboxConfigInput) :
    LocalCall LocalSandboxConfigInputRecord := do
  let config ← checked (requireField invalidArgumentStatus "config" config)
  checkedStore (localSandboxInputFromProto env.build config)

def ensureMapReady (mapId : String) : LocalCall Unit :=
  (LocalOp.ensureMapReady mapId).call.orFail id

/-! ## The configurations -/

def getLocalSandboxConfigs : LocalCall LocalResponse := do
  let snapshot ← liftM (LocalOp.config .getSnapshot).call
  return .configs snapshot.revision (snapshot.sandboxes.map localSandboxToProto)

/-- The identifier is made from the configuration, the revision and the
time. -/
def createLocalSandboxConfig (env : LocalAdminEnv) (expectedRevision : ℕ)
    (config : Option LocalSandboxConfigInput) : LocalCall LocalResponse := do
  let config ← configFromProto env config
  let sandboxId ← liftM LocalOp.newId.call
  ensureMapReady config.mapId
  checkedStore (validateLocalSandboxConfigInput env.build config)
  let revision ← commitChange expectedRevision (.create ⟨sandboxId, config⟩)
  return .config revision (localSandboxToProto ⟨sandboxId, config⟩)

def updateLocalSandboxConfig (env : LocalAdminEnv) (expectedRevision : ℕ) (sandboxId : String)
    (config : Option LocalSandboxConfigInput) : LocalCall LocalResponse := do
  requireSandboxId sandboxId
  requireSandboxNotActive sandboxId
  let config ← configFromProto env config
  ensureMapReady config.mapId
  checkedStore (validateLocalSandboxConfigInput env.build config)
  let revision ← commitChange expectedRevision (.replace ⟨sandboxId, config⟩)
  return .config revision (localSandboxToProto ⟨sandboxId, config⟩)

def deleteLocalSandboxConfig (expectedRevision : ℕ) (sandboxId : String) :
    LocalCall LocalResponse := do
  requireSandboxId sandboxId
  requireSandboxNotActive sandboxId
  let revision ← commitChange expectedRevision (.delete sandboxId)
  liftM (LocalOp.startedAt (.remove sandboxId)).call
  return .deleted revision sandboxId

/-- Errors of the worker are only logged. -/
def setTimeOfDay (runtimeBefore : EngineRuntimeState) (sandboxId : String)
    (timeOfDay : TimeOfDaySettingsRecord) : LocalProg Unit :=
  if isSandboxActive runtimeBefore sandboxId then do
    let _ ← (LocalOp.engine (.setRuntimeTimeOfDay runtimeBefore.revision (some sandboxId)
      (resolveRuntimeTimeOfDayPreset timeOfDay))).call
    pure ()
  else pure ()

def applyTimeOfDayIfActive (sandboxId : String) (timeOfDay : TimeOfDaySettingsRecord) :
    LocalProg Unit := do
  match ← (LocalOp.engine .runtimeState).call with
  | .ok runtimeBefore => setTimeOfDay runtimeBefore sandboxId timeOfDay
  | .error _ => pure ()

def updateLocalSandboxTimeOfDay (expectedRevision : ℕ) (sandboxId : String)
    (timeOfDay : Option LocalTimeOfDaySettings) : LocalCall LocalResponse := do
  requireSandboxId sandboxId
  let timeOfDay ← checked (requireField invalidArgumentStatus "time_of_day" timeOfDay)
  let timeOfDay ← checked (localTimeOfDayFromProto timeOfDay)
  let revision ← commitChange expectedRevision (.setTimeOfDay sandboxId timeOfDay)
  liftM (applyTimeOfDayIfActive sandboxId timeOfDay)
  return .timeOfDay revision sandboxId (localTimeOfDayToProto timeOfDay)

def setWeatherOf (runtimeBefore : EngineRuntimeState) (sandboxId : String)
    (weather : WeatherSettingsRecord) : LocalProg Bool :=
  if isSandboxActive runtimeBefore sandboxId then do
    match ← (LocalOp.engine (.setSandboxWeather sandboxId (weatherParamsFromLocal weather)
        (runtimeWeatherNowFromLocal weather))).call with
    | .ok _ => pure true
    | .error _ => pure false
  else pure false

def applyWeatherIfActive (sandboxId : String) (weather : WeatherSettingsRecord) :
    LocalProg Bool := do
  match ← (LocalOp.engine .runtimeState).call with
  | .ok runtimeBefore => setWeatherOf runtimeBefore sandboxId weather
  | .error _ => pure false

def publishWeatherUpdated (sandboxId : String) : LocalProg Unit :=
  (LocalOp.weatherEvents (.publish ⟨sandboxId, .updated⟩)).call

def publishWeatherDeactivated (sandboxId : String) : LocalProg Unit :=
  (LocalOp.weatherEvents (.publish ⟨sandboxId, .deactivated⟩)).call

def publishIfApplied (applied : Bool) (sandboxId : String) : LocalProg Unit :=
  if applied then publishWeatherUpdated sandboxId else pure ()

def updateLocalSandboxWeather (expectedRevision : ℕ) (sandboxId : String)
    (weather : Option LocalWeatherSettings) : LocalCall LocalResponse := do
  requireSandboxId sandboxId
  let weather ← checked (requireField invalidArgumentStatus "weather" weather)
  let weather ← checked (localWeatherFromProto weather)
  checkedStore (validateLocalWeatherSettings weather)
  let revision ← commitChange expectedRevision (.setWeather sandboxId weather)
  let applied ← liftM (applyWeatherIfActive sandboxId weather)
  liftM (publishIfApplied applied sandboxId)
  return .weather revision sandboxId (localWeatherToProto weather)

def updateLocalSandboxSpawnMode (expectedRevision : ℕ) (sandboxId : String)
    (spawnMode : Raw LocalSandboxSpawnMode) : LocalCall LocalResponse := do
  requireSandboxId sandboxId
  let spawnMode ← checked (localSpawnModeFromProtoValue spawnMode)
  let revision ← commitChange expectedRevision (.setSpawnMode sandboxId spawnMode)
  return .spawnMode revision sandboxId (localSpawnModeToProto spawnMode)

/-! ## The sandboxes that run -/

def findLocalSandboxById (sandboxes : List LocalSandboxConfigRecord) (sandboxId : String) :
    Option LocalSandboxConfigRecord :=
  sandboxes.find? fun entry => entry.sandboxId = sandboxId

def requireLocalSandbox (sandboxes : List LocalSandboxConfigRecord) (sandboxId : String) :
    Except Status LocalSandboxConfigRecord :=
  match findLocalSandboxById sandboxes sandboxId with
  | none => .error ⟨.notFound, "local sandbox config not found: " ++ sandboxId⟩
  | some sandbox => .ok sandbox

/-- The number of active sandboxes is compared as a `u32`. -/
def checkSandboxLimit (env : LocalAdminEnv) (runtimeBefore : EngineRuntimeState)
    (sandboxId : String) : Except Status Unit :=
  if isSandboxActive runtimeBefore sandboxId = false ∧
      env.maxActiveSandboxes ≤ runtimeBefore.activeSandboxes.length % 2 ^ 32 then
    .error ⟨.failedPrecondition,
      "active sandbox limit reached (" ++ toString env.maxActiveSandboxes ++ ")"⟩
  else .ok ()

/-- A rollback that fails is only logged. -/
def rollBackActivation (runtimeAfter : EngineRuntimeState) (sandboxId : String) :
    LocalCall LocalResponse := do
  let _ ← liftM (LocalOp.engine (.deactivateSandbox runtimeAfter.revision sandboxId)).call
  throw ⟨.internal, "failed to apply local sandbox weather during activation"⟩

def finishActivation (runtimeAfter : EngineRuntimeState) (sandboxId : String) :
    LocalCall LocalResponse := do
  let nowNs ← liftM LocalOp.now.call
  liftM (LocalOp.startedAt (.insert sandboxId (utcTimestamp nowNs))).call
  liftM (publishWeatherUpdated sandboxId)
  return .activation runtimeAfter.revision true sandboxId

def activateLocalSandbox (env : LocalAdminEnv) (expectedRevision : ℕ) (sandboxId : String) :
    LocalCall LocalResponse := do
  let snapshot ← liftM (LocalOp.config .getSnapshot).call
  let sandbox ← checked (requireLocalSandbox snapshot.sandboxes sandboxId)
  ensureMapReady sandbox.config.mapId
  let runtimeBefore ← readRuntime
  checked (checkRevision runtimeBefore expectedRevision)
  checked (checkSandboxLimit env runtimeBefore sandbox.sandboxId)
  let runtimeAfter ← (LocalOp.engine (.switchRuntime expectedRevision .sandbox
    sandbox.config.mapId (some sandbox.sandboxId)
    (some (resolveRuntimeTimeOfDayPreset sandbox.config.timeOfDay))
    (some (engineGhostModeSettingsFromLocalRecord sandbox.config.ghostMode)))).call.orFail
      mapWorkerErr
  match ← liftM (LocalOp.engine (.setSandboxWeather sandbox.sandboxId
      (weatherParamsFromLocal sandbox.config.weather)
      (runtimeWeatherNowFromLocal sandbox.config.weather))).call with
  | .ok _ => finishActivation runtimeAfter sandbox.sandboxId
  | .error _ => rollBackActivation runtimeAfter sandbox.sandboxId

def deactivateLocalSandbox (expectedRevision : ℕ) (sandboxId : String) :
    LocalCall LocalResponse := do
  let runtimeAfter ← (LocalOp.engine
    (.deactivateSandbox expectedRevision sandboxId)).call.orFail mapWorkerErr
  liftM (LocalOp.startedAt (.remove sandboxId)).call
  liftM (publishWeatherDeactivated sandboxId)
  return .activation runtimeAfter.revision false sandboxId

def setLocalSandboxActivation (env : LocalAdminEnv) (expectedRevision : ℕ) (sandboxId : String)
    (activate : Bool) : LocalCall LocalResponse := do
  requireSandboxId sandboxId
  if activate then activateLocalSandbox env expectedRevision sandboxId
  else deactivateLocalSandbox expectedRevision sandboxId

/-! ## The runtime state -/

def localActiveSandboxRuntimeInfo (active : EngineActiveSandboxState)
    (record : LocalSandboxConfigRecord) (startedAt : HashMap String Timestamp)
    (counts : ActiveCarCounts) : LocalActiveSandboxRuntimeInfo where
  sandboxId := record.sandboxId
  sandboxName := record.config.sandboxName
  mapId := record.config.mapId
  activeTimeOfDayPreset := active.timeOfDayPreset
  timeOfDay := localTimeOfDayToProto record.config.timeOfDay
  ghostMode := record.config.ghostMode
  weather := localWeatherToProto record.config.weather
  spawnMode := localSpawnModeToProto record.config.spawnMode
  startedAtUtc := startedAt.lookup record.sandboxId
  activePlayerCount := (counts.bySandbox.lookup record.sandboxId).getD 0

/-- Active sandboxes without a configuration are left out. -/
def localActiveSandboxes (runtime : EngineRuntimeState)
    (sandboxes : List LocalSandboxConfigRecord) (startedAt : HashMap String Timestamp)
    (counts : ActiveCarCounts) : List LocalActiveSandboxRuntimeInfo :=
  runtime.activeSandboxes.filterMap fun active =>
    (findLocalSandboxById sandboxes active.sandboxId).map fun record =>
      localActiveSandboxRuntimeInfo active record startedAt counts

def countedRace (counts : ActiveCarCounts) (race : LocalRaceRuntimeInfo) : LocalRaceRuntimeInfo :=
  { race with joinedParticipantCount :=
      (counts.byLocalRace.lookup race.raceId).getD race.joinedParticipantCount }

def buildRuntimeState : LocalCall LocalRuntimeState := do
  let runtime ← readRuntime
  let snapshot ← liftM (LocalOp.config .getSnapshot).call
  let startedAt ← liftM (LocalOp.startedAt .read).call
  let counts ← liftM LocalOp.activeCarCounts.call
  let race ← liftM (LocalOp.races .activeRace).call
  let nowNs ← liftM LocalOp.now.call
  return ⟨runtime.revision, utcTimestamp nowNs,
    localActiveSandboxes runtime snapshot.sandboxes startedAt counts,
    race.map (countedRace counts)⟩

def getLocalRuntimeState : LocalCall LocalResponse := do
  let state ← buildRuntimeState
  return .runtimeState state

/-! ## The local race -/

def createLocalRace (expectedRevision : ℕ) (config : Option LocalRaceConfigInput) :
    LocalCall LocalResponse := do
  let plan ← checked (planLocalRace config)
  let raceId ← liftM LocalOp.newId.call
  let runtimeAfter ← (LocalOp.engine (.activateLocalRace expectedRevision raceId plan.1.mapId
    plan.2 plan.1.ghostMode)).call.orFail mapWorkerErr
  let nowNs ← liftM LocalOp.now.call
  let race := stagedRace plan.1 raceId plan.2 (unixMs nowNs)
  liftM (LocalOp.races (.setActiveRace race)).call
  return .race (.created runtimeAfter.revision race)

def requireRace (raceId : String) : Option LocalRaceRuntimeInfo →
    Except Status LocalRaceRuntimeInfo
  | none => .error ⟨.notFound, "no active local race"⟩
  | some race =>
      if race.raceId ≠ raceId then
        .error ⟨.notFound, "active local race id does not match request"⟩
      else .ok race

def requireStaging (race : LocalRaceRuntimeInfo) : Except Status Unit :=
  if race.phase ≠ .staging then .error ⟨.failedPrecondition,
    "local race countdown can be started only in staging phase"⟩
  else .ok ()

def startLocalRaceCountdown (expectedRevision : ℕ) (raceId : String) (countdownSeconds : ℕ) :
    LocalCall LocalResponse := do
  let runtimeBefore ← readRuntime
  checked (checkRevision runtimeBefore expectedRevision)
  let active ← liftM (LocalOp.races .activeRace).call
  let race ← checked (requireRace raceId active)
  checked (requireStaging race)
  let nowNs ← liftM LocalOp.now.call
  let countdownEndMs := saturatingAdd (unixMs nowNs) (countdownSeconds * 1000)
  let _ ← (LocalOp.races (.updateActiveRace raceId
    (startUpdate countdownSeconds countdownEndMs))).call.orFail mapStateErr
  let runtimeAfter ← (LocalOp.engine (.bumpRevision expectedRevision)).call.orFail mapWorkerErr
  return .race (.countdownStarted runtimeAfter.revision raceId (timestampFromMs countdownEndMs))

def abortLocalRace (expectedRevision : ℕ) (raceId : String) : LocalCall LocalResponse := do
  let runtimeBefore ← readRuntime
  checked (checkRevision runtimeBefore expectedRevision)
  let _ ← (LocalOp.races (.updateActiveRace raceId abortUpdate)).call.orFail mapStateErr
  let runtimeAfter ← (LocalOp.engine
    (.deactivateLocalRace expectedRevision raceId)).call.orFail mapWorkerErr
  return .race (.aborted runtimeAfter.revision raceId)

def requireFinal (race : LocalRaceRuntimeInfo) : Except Status LocalRacePhase :=
  match race.phase with
  | .finished => .ok .finished
  | .aborted => .ok .aborted
  | .unspecified | .staging | .countdown | .running => .error ⟨.failedPrecondition,
      "local race can be closed only when finished or aborted"⟩

def releaseLocalRace (expectedRevision : ℕ) (raceId : String) (phase : LocalRacePhase) :
    LocalCall EngineRuntimeState :=
  if phase = .finished then
    (LocalOp.engine (.deactivateLocalRace expectedRevision raceId)).call.orFail mapWorkerErr
  else (LocalOp.engine (.bumpRevision expectedRevision)).call.orFail mapWorkerErr

def closeLocalRace (expectedRevision : ℕ) (raceId : String) : LocalCall LocalResponse := do
  let active ← liftM (LocalOp.races .activeRace).call
  let race ← checked (requireRace raceId active)
  let phase ← checked (requireFinal race)
  let runtimeAfter ← releaseLocalRace expectedRevision raceId phase
  (LocalOp.races (.clearActiveRace raceId)).call.orFail mapStateErr
  return .race (.closed runtimeAfter.revision raceId)

/-! ## The lifecycle task -/

def bumpIfActive (runtime : EngineRuntimeState) (raceId : String) : LocalProg Unit :=
  if runtime.activeLocalRace.map (·.raceId) = some raceId then do
    let _ ← (LocalOp.engine (.bumpRevision runtime.revision)).call
    pure ()
  else pure ()

def bumpLocalRuntimeRevision (raceId : String) : LocalProg Unit := do
  match ← (LocalOp.engine .runtimeState).call with
  | .ok runtime => bumpIfActive runtime raceId
  | .error _ => pure ()

def finishedLocalRaceControls : Controls := .new 0 1 (1 / 2) 0 0 .none

/-- Every car is stopped, also after one of them could not be. -/
def freezeCars (raceId : String) : List ℕ → Bool → LocalProg Bool
  | [], allApplied => pure allApplied
  | engineCarId :: cars, allApplied => do
      match ← (LocalOp.engine (.slot (.localRace raceId)
          (.setControls engineCarId finishedLocalRaceControls))).call with
      | .ok _ => freezeCars raceId cars allApplied
      | .error _ => freezeCars raceId cars false

def applyFinishedLocalRaceSoftFreeze (raceId : String) : LocalProg Unit := do
  let cars ← (LocalOp.localRaceCars raceId).call
  let allApplied ← freezeCars raceId cars true
  if allApplied then do
    let _ ← (LocalOp.races (.markFinishSoftFreezeApplied raceId)).call
    pure ()
  else pure ()

def reconcileLocalRaceLifecycle : LocalProg Unit := do
  match ← (LocalOp.races .reconcileActiveRace).call with
  | some outcome => bumpLocalRuntimeRevision outcome.race.raceId
  | none => pure ()

def reconcileLocalRaceLifecycleTick : LocalProg Unit := do
  reconcileLocalRaceLifecycle
  match ← (LocalOp.races .finishedRacePendingSoftFreeze).call with
  | some race => applyFinishedLocalRaceSoftFreeze race.raceId
  | none => pure ()

/-! ## Tasks -/

/-- `car` and `simulate` are what the rest of the server does to the worlds. -/
inductive LocalTask where
  | getConfigs
  | createConfig (expectedRevision : ℕ) (config : Option LocalSandboxConfigInput)
  | updateConfig (expectedRevision : ℕ) (sandboxId : String)
      (config : Option LocalSandboxConfigInput)
  | deleteConfig (expectedRevision : ℕ) (sandboxId : String)
  | updateTimeOfDay (expectedRevision : ℕ) (sandboxId : String)
      (timeOfDay : Option LocalTimeOfDaySettings)
  | updateWeather (expectedRevision : ℕ) (sandboxId : String)
      (weather : Option LocalWeatherSettings)
  | updateSpawnMode (expectedRevision : ℕ) (sandboxId : String)
      (spawnMode : Raw LocalSandboxSpawnMode)
  | setActivation (expectedRevision : ℕ) (sandboxId : String) (activate : Bool)
  | getRuntimeState
  | createRace (expectedRevision : ℕ) (config : Option LocalRaceConfigInput)
  | startCountdown (expectedRevision : ℕ) (raceId : String) (countdownSeconds : ℕ)
  | abortRace (expectedRevision : ℕ) (raceId : String)
  | closeRace (expectedRevision : ℕ) (raceId : String)
  | lifecycleTick
  | car (target : EngineCommandTarget) (op : SlotOp)
  | simulate (target : EngineCommandTarget)

def LocalTask.run (env : LocalAdminEnv) : LocalTask → LocalCall LocalResponse
  | .getConfigs => getLocalSandboxConfigs
  | .createConfig expectedRevision config => createLocalSandboxConfig env expectedRevision config
  | .updateConfig expectedRevision sandboxId config =>
      updateLocalSandboxConfig env expectedRevision sandboxId config
  | .deleteConfig expectedRevision sandboxId => deleteLocalSandboxConfig expectedRevision sandboxId
  | .updateTimeOfDay expectedRevision sandboxId timeOfDay =>
      updateLocalSandboxTimeOfDay expectedRevision sandboxId timeOfDay
  | .updateWeather expectedRevision sandboxId weather =>
      updateLocalSandboxWeather expectedRevision sandboxId weather
  | .updateSpawnMode expectedRevision sandboxId spawnMode =>
      updateLocalSandboxSpawnMode expectedRevision sandboxId spawnMode
  | .setActivation expectedRevision sandboxId activate =>
      setLocalSandboxActivation env expectedRevision sandboxId activate
  | .getRuntimeState => getLocalRuntimeState
  | .createRace expectedRevision config => createLocalRace expectedRevision config
  | .startCountdown expectedRevision raceId countdownSeconds =>
      startLocalRaceCountdown expectedRevision raceId countdownSeconds
  | .abortRace expectedRevision raceId => abortLocalRace expectedRevision raceId
  | .closeRace expectedRevision raceId => closeLocalRace expectedRevision raceId
  | .lifecycleTick => do
      liftM reconcileLocalRaceLifecycleTick
      return .done
  | .car target op => do
      let _ ← liftM (LocalOp.engine (.slot target op)).call
      return .done
  | .simulate target => do
      liftM (LocalOp.simulate target).call
      return .done

abbrev LocalPool (E : Type) :=
  Pool (LocalAdminState E) LocalOp LocalOp.Answer (Except Status LocalResponse)

/-- The tasks, on a state. -/
def localStart {E : Type} (env : LocalAdminEnv) (tasks : ℕ → LocalTask) (s : LocalAdminState E) :
    LocalPool E :=
  Pool.start s fun i => ((tasks i).run env).run

/-- The server after `n` steps of a run. -/
def localRun {E : Type} (env : LocalAdminEnv) (tasks : ℕ → LocalTask) (s : LocalAdminState E)
    (events : List (ℕ × LocalInput E)) : ℕ → LocalPool E :=
  GuardedRun.stateAt (Pool.step (localExec env.build)) (localStart env tasks s) events

end HackArena.Local
