import HackArena.Admin.System

/-!
# The administration of sandboxes

Configurations live in the database, sandboxes that run and activations
that are scheduled in the engine worker. A request that changes a
configuration checks that the sandbox is not running, or tells the worker
of the change afterwards.
-/

namespace HackArena.Admin

open Boink HackArena.Runtime HackArena.Services

/-! ## Configurations in requests -/

/-- A speed that is not finite is `none`. -/
structure ProtoGhostModeSettings where
  enabled : Bool
  enterSpeedMaxMps : Option F32
  exitSpeedMinMps : Option F32
  enterDelayMs : ℕ
  exitDelayMs : ℕ
  untilCompletedLaps : ℕ
  vehicleOverlapExitDelayMs : ℕ
  deriving DecidableEq

structure ProtoSandboxConfigInput where
  sandboxName : String
  mapId : String
  timeOfDayPreset : Option EngineRuntimeTimeOfDayPreset
  ghostMode : Option ProtoGhostModeSettings
  deriving DecidableEq

def invalid {α : Type} (message : String) : Except Status α :=
  .error ⟨.invalidArgument, message⟩

def maxSandboxNameLenChars : ℕ := 64
def maxGhostDelayMs : ℕ := 600000
def maxGhostUntilCompletedLaps : ℕ := 100000

def validateSandboxName (sandboxName : String) : Except Status Unit :=
  let sandboxName := Text.trim sandboxName
  if sandboxName.toList = [] then invalid "sandbox_name must be non-empty"
  else if maxSandboxNameLenChars < sandboxName.toList.length then
    invalid ("sandbox_name must be at most " ++ toString maxSandboxNameLenChars ++ " characters")
  else .ok ()

def validateConfigMapId (mapId : String) : Except Status Unit :=
  let mapId := Text.trim mapId
  if mapId.toList = [] then invalid "map_id must be non-empty"
  else if mapId.toList.all fun c => Text.isAsciiAlphanumeric c || c == '-' || c == '_' then .ok ()
  else invalid "map_id contains invalid characters"

def validateSandboxNameAndMapId (sandboxName mapId : String) : Except Status Unit := do
  validateSandboxName sandboxName
  validateConfigMapId mapId

/-- Finite and not negative. -/
def requireSpeed (field : String) : Option F32 → Except Status F32
  | none => invalid ("ghost_mode." ++ field ++ " must be finite and >= 0")
  | some speed =>
      if speed < 0 then invalid ("ghost_mode." ++ field ++ " must be finite and >= 0")
      else .ok speed

def requireAtMost (field : String) (value limit : ℕ) : Except Status Unit :=
  if limit < value then invalid ("ghost_mode." ++ field ++ " must be <= " ++ toString limit)
  else .ok ()

def ghostModeFromProto (proto : ProtoGhostModeSettings) : Except Status GhostModeSettings := do
  let enterSpeedMaxMps ← requireSpeed "enter_speed_max_mps" proto.enterSpeedMaxMps
  let exitSpeedMinMps ← requireSpeed "exit_speed_min_mps" proto.exitSpeedMinMps
  if exitSpeedMinMps < enterSpeedMaxMps then
    invalid "ghost_mode.enter_speed_max_mps must be <= ghost_mode.exit_speed_min_mps"
  requireAtMost "enter_delay_ms" proto.enterDelayMs maxGhostDelayMs
  requireAtMost "exit_delay_ms" proto.exitDelayMs maxGhostDelayMs
  requireAtMost "vehicle_overlap_exit_delay_ms" proto.vehicleOverlapExitDelayMs maxGhostDelayMs
  requireAtMost "until_completed_laps" proto.untilCompletedLaps maxGhostUntilCompletedLaps
  return ⟨proto.enabled, enterSpeedMaxMps, exitSpeedMinMps, proto.enterDelayMs, proto.exitDelayMs,
    proto.untilCompletedLaps, proto.vehicleOverlapExitDelayMs⟩

def ghostModeOptFromProto : Option ProtoGhostModeSettings → Except Status (Option GhostModeSettings)
  | none => .ok none
  | some proto => (ghostModeFromProto proto).map some

def timeOfDayFromProto (field : String) :
    Option EngineRuntimeTimeOfDayPreset → Except Status EngineRuntimeTimeOfDayPreset
  | none => invalid ("invalid " ++ field)
  | some .unspecified => invalid (field ++ " must be specified")
  | some preset => .ok preset

def sandboxInputFromProto (input : ProtoSandboxConfigInput) :
    Except Status SandboxConfigInputRecord := do
  let timeOfDayPreset ← timeOfDayFromProto "time_of_day_preset" input.timeOfDayPreset
  let ghostMode ← ghostModeOptFromProto input.ghostMode
  validateSandboxNameAndMapId input.sandboxName input.mapId
  return ⟨input.sandboxName, input.mapId, timeOfDayPreset, ghostMode⟩

def sandboxConfigFromProto : Option ProtoSandboxConfigInput → Except Status SandboxConfigInputRecord
  | none => invalid "config is required"
  | some config => sandboxInputFromProto config

def requireSandboxId (sandboxId : String) : Except Status Unit :=
  if Text.isBlank sandboxId then invalid "sandbox_id must be non-empty" else .ok ()

def findSandboxById (sandboxes : List SandboxConfigRecord) (sandboxId : String) :
    Option SandboxConfigRecord :=
  sandboxes.find? fun entry => entry.sandboxId = sandboxId

def requireSandbox (sandboxes : List SandboxConfigRecord) (sandboxId : String) :
    Except Status SandboxConfigRecord :=
  match findSandboxById sandboxes sandboxId with
  | none => .error ⟨.notFound, "sandbox config not found: " ++ sandboxId⟩
  | some sandbox => .ok sandbox

def engineGhostModeSettingsFromRecord : Option GhostModeSettings → GhostModeSettings
  | none => defaultGhostModeSettings
  | some ghost => ghost

/-! ## Calls -/

def readSandboxes : AdminCall SandboxTable :=
  (AdminOp.sandboxes .getSnapshot).call.orFail SandboxConfigRepoError.status

def writeSandboxes (op : AdminProg (Except SandboxConfigRepoError ℕ)) : AdminCall ℕ := do
  let revision ← op.orFail SandboxConfigRepoError.status
  liftM (AdminOp.menu .invalidateSandboxes).call
  return revision

def readRuntime : AdminCall EngineRuntimeState :=
  (AdminOp.engine .runtimeState).call.orFail mapWorkerErr

def utcNow : AdminCall Timestamp := do
  let nowMs ← liftM AdminOp.currentUnixMs.call
  return unixMsToTimestamp nowMs

/-- The sandbox is running, as far as the worker's state tells. -/
def runsSandbox (runtime : EngineRuntimeState) (sandboxId : String) : Bool :=
  runtime.activityKind = .sandbox && isSandboxActive runtime sandboxId

def requireSandboxNotActive (sandboxId : String) : AdminCall Unit := do
  let runtime ← readRuntime
  if runsSandbox runtime sandboxId then
    throw ⟨.failedPrecondition, "active sandbox cannot be modified"⟩
  else pure ()

/-! ## The configurations -/

def getSandboxConfigs : AdminCall AdminResponse := do
  requireAdmin
  let snapshot ← readSandboxes
  return .sandboxConfigs snapshot.revision snapshot.value

/-- The identifier is made from the configuration, the revision and the
time. -/
def createSandboxConfig (expectedRevision : ℕ) (config : Option ProtoSandboxConfigInput) :
    AdminCall AdminResponse := do
  requireAdmin
  let config ← ExceptT.mk (pure (sandboxConfigFromProto config))
  let sandboxId ← liftM AdminOp.newUuid.call
  let revision ← writeSandboxes
    (AdminOp.sandboxes (.createConfig expectedRevision ⟨sandboxId, config⟩)).call
  return .sandboxConfig revision ⟨sandboxId, config⟩

def updateSandboxConfig (expectedRevision : ℕ) (sandboxId : String)
    (config : Option ProtoSandboxConfigInput) : AdminCall AdminResponse := do
  requireAdmin
  ExceptT.mk (pure (requireSandboxId sandboxId))
  requireSandboxNotActive sandboxId
  let config ← ExceptT.mk (pure (sandboxConfigFromProto config))
  let revision ← writeSandboxes
    (AdminOp.sandboxes (.updateConfig expectedRevision ⟨sandboxId, config⟩)).call
  return .sandboxConfig revision ⟨sandboxId, config⟩

def deleteSandboxConfig (expectedRevision : ℕ) (sandboxId : String) : AdminCall AdminResponse := do
  requireAdmin
  ExceptT.mk (pure (requireSandboxId sandboxId))
  requireSandboxNotActive sandboxId
  let revision ← writeSandboxes (AdminOp.sandboxes (.deleteConfig expectedRevision sandboxId)).call
  return .sandboxDeleted revision sandboxId

/-- An error of the worker is only logged. -/
def setTimeOfDay (runtimeBefore : EngineRuntimeState) (sandboxId : String)
    (preset : EngineRuntimeTimeOfDayPreset) : AdminProg Bool :=
  if runsSandbox runtimeBefore sandboxId then do
    match ← (AdminOp.engine
        (.setRuntimeTimeOfDay runtimeBefore.revision (some sandboxId) preset)).call with
    | .ok _ => pure true
    | .error _ => pure false
  else pure false

def applyTimeOfDay (sandboxId : String) (preset : EngineRuntimeTimeOfDayPreset) :
    AdminProg Bool := do
  match ← (AdminOp.engine .runtimeState).call with
  | .ok runtimeBefore => setTimeOfDay runtimeBefore sandboxId preset
  | .error _ => pure false

/-- The row that is read, with another time of day, is written back. -/
def updateSandboxTimeOfDay (expectedRevision : ℕ) (sandboxId : String)
    (preset : Option EngineRuntimeTimeOfDayPreset) : AdminCall AdminResponse := do
  requireAdmin
  ExceptT.mk (pure (requireSandboxId sandboxId))
  let preset ← ExceptT.mk (pure (timeOfDayFromProto "preset" preset))
  let snapshot ← readSandboxes
  let sandbox ← ExceptT.mk (pure (requireSandbox snapshot.value sandboxId))
  let updated : SandboxConfigRecord :=
    ⟨sandbox.sandboxId, { sandbox.config with timeOfDayPreset := preset }⟩
  let revision ← writeSandboxes (AdminOp.sandboxes (.updateConfig expectedRevision updated)).call
  let appliedToActiveRuntime ← liftM (applyTimeOfDay sandboxId preset)
  let appliedAtUtc ← utcNow
  return .sandboxTimeOfDay revision updated.sandboxId preset appliedAtUtc appliedToActiveRuntime

/-! ## The sandboxes that run -/

def scheduleActivation (expectedRevision : ℕ) (pending : EnginePendingSandboxActivation) :
    AdminCall AdminResponse := do
  let runtimeAfter ← (AdminOp.engine
    (.setPendingSandboxActivation expectedRevision pending)).call.orFail mapWorkerErr
  return .activation runtimeAfter.revision pending.activate pending.sandboxId
    (unixMsToTimestamp pending.executeAtUnixMs)

def activationOf (sandbox : SandboxConfigRecord) (executeAtUnixMs : ℤ) :
    EnginePendingSandboxActivation :=
  ⟨true, sandbox.sandboxId, executeAtUnixMs, some sandbox.config.mapId,
    some sandbox.config.timeOfDayPreset,
    some (engineGhostModeSettingsFromRecord sandbox.config.ghostMode)⟩

def deactivationOf (sandboxId : String) (executeAtUnixMs : ℤ) : EnginePendingSandboxActivation :=
  ⟨false, sandboxId, executeAtUnixMs, none, none, none⟩

def scheduleAt (expectedRevision : ℕ) (sandboxId : String) (activate : Bool)
    (executeAtUnixMs : ℤ) : AdminCall AdminResponse :=
  if activate then do
    let snapshot ← readSandboxes
    let sandbox ← ExceptT.mk (pure (requireSandbox snapshot.value sandboxId))
    scheduleActivation expectedRevision (activationOf sandbox executeAtUnixMs)
  else scheduleActivation expectedRevision (deactivationOf sandboxId executeAtUnixMs)

def scheduleLater (expectedRevision : ℕ) (sandboxId : String) (activate : Bool)
    (effectiveAtUtc : Timestamp) : AdminCall AdminResponse := do
  let executeAtUnixMs ← ExceptT.mk (pure (timestampToMs effectiveAtUtc))
  let now ← utcNow
  let nowUnixMs ← ExceptT.mk (pure (timestampToMs now))
  if executeAtUnixMs ≤ nowUnixMs then
    throw ⟨.invalidArgument, "effective_at_utc must be in the future"⟩
  else scheduleAt expectedRevision sandboxId activate executeAtUnixMs

def activateNow (expectedRevision : ℕ) (sandboxId : String) : AdminCall AdminResponse := do
  let snapshot ← readSandboxes
  let sandbox ← ExceptT.mk (pure (requireSandbox snapshot.value sandboxId))
  let runtimeAfter ← (AdminOp.engine (.switchRuntime expectedRevision .sandbox
    sandbox.config.mapId (some sandbox.sandboxId) (some sandbox.config.timeOfDayPreset)
    (some (engineGhostModeSettingsFromRecord sandbox.config.ghostMode)))).call.orFail mapWorkerErr
  let effectiveAtUtc ← utcNow
  return .activation runtimeAfter.revision true sandbox.sandboxId effectiveAtUtc

def deactivateNow (expectedRevision : ℕ) (sandboxId : String) : AdminCall AdminResponse := do
  let runtimeAfter ← (AdminOp.engine
    (.deactivateSandbox expectedRevision sandboxId)).call.orFail mapWorkerErr
  let effectiveAtUtc ← utcNow
  return .activation runtimeAfter.revision false sandboxId effectiveAtUtc

def scheduleOrSwitch (expectedRevision : ℕ) (sandboxId : String) (activate : Bool) :
    Option Timestamp → AdminCall AdminResponse
  | some effectiveAtUtc => scheduleLater expectedRevision sandboxId activate effectiveAtUtc
  | none =>
      if activate then activateNow expectedRevision sandboxId
      else deactivateNow expectedRevision sandboxId

def scheduleSandboxActivation (expectedRevision : ℕ) (sandboxId : String) (activate : Bool)
    (effectiveAtUtc : Option Timestamp) : AdminCall AdminResponse := do
  requireAdmin
  ExceptT.mk (pure (requireSandboxId sandboxId))
  scheduleOrSwitch expectedRevision sandboxId activate effectiveAtUtc

def cancelSandboxActivationSchedule (expectedRevision : ℕ) (sandboxId : String) :
    AdminCall AdminResponse := do
  requireAdmin
  ExceptT.mk (pure (requireSandboxId sandboxId))
  let answer ← (AdminOp.engine
    (.cancelPendingSandboxActivation expectedRevision sandboxId)).call.orFail mapWorkerErr
  return .scheduleCanceled answer.1.revision sandboxId answer.2

def adminSandboxRuntimeInfoFromRecord (record : SandboxConfigRecord)
    (activeTimeOfDayPreset : EngineRuntimeTimeOfDayPreset) : AdminSandboxRuntimeInfo :=
  ⟨record.sandboxId, record.config.sandboxName, record.config.mapId, activeTimeOfDayPreset,
    record.config.ghostMode⟩

/-- Active sandboxes without a configuration are left out. -/
def adminSandboxes (runtime : EngineRuntimeState) (sandboxes : List SandboxConfigRecord) :
    List AdminSandboxRuntimeInfo :=
  runtime.activeSandboxes.filterMap fun active =>
    (findSandboxById sandboxes active.sandboxId).map fun record =>
      adminSandboxRuntimeInfoFromRecord record active.timeOfDayPreset

def pendingSandboxOperationToProto (pending : EnginePendingSandboxActivation) :
    AdminPendingSandboxOperation :=
  ⟨pending.activate, pending.sandboxId, unixMsToTimestamp pending.executeAtUnixMs⟩

def adminSandboxMode (runtime : EngineRuntimeState) (sandboxes : List SandboxConfigRecord) :
    Option AdminSandboxRuntimeMode :=
  if runtime.activityKind = .sandbox then
    some ⟨adminSandboxes runtime sandboxes,
      runtime.pendingSandboxActivations.map pendingSandboxOperationToProto⟩
  else none

def getAdminRuntimeState : AdminCall AdminResponse := do
  requireAdmin
  let runtime ← readRuntime
  let snapshot ← readSandboxes
  let serverTimeUtc ← utcNow
  return .runtimeState runtime.revision serverTimeUtc (adminSandboxMode runtime snapshot.value)

inductive SandboxConfigRequest where
  | create (expectedRevision : ℕ) (config : Option ProtoSandboxConfigInput)
  | update (expectedRevision : ℕ) (sandboxId : String) (config : Option ProtoSandboxConfigInput)
  | delete (expectedRevision : ℕ) (sandboxId : String)
  | updateTimeOfDay (expectedRevision : ℕ) (sandboxId : String)
      (preset : Option EngineRuntimeTimeOfDayPreset)

def SandboxConfigRequest.handle : SandboxConfigRequest → AdminRequest
  | .create expectedRevision config => (createSandboxConfig expectedRevision config).run
  | .update expectedRevision sandboxId config =>
      (updateSandboxConfig expectedRevision sandboxId config).run
  | .delete expectedRevision sandboxId => (deleteSandboxConfig expectedRevision sandboxId).run
  | .updateTimeOfDay expectedRevision sandboxId preset =>
      (updateSandboxTimeOfDay expectedRevision sandboxId preset).run

inductive RuntimeAdminRequest where
  | getConfigs
  | scheduleActivation (expectedRevision : ℕ) (sandboxId : String) (activate : Bool)
      (effectiveAtUtc : Option Timestamp)
  | cancelActivationSchedule (expectedRevision : ℕ) (sandboxId : String)
  | getRuntimeState

def RuntimeAdminRequest.handle : RuntimeAdminRequest → AdminRequest
  | .getConfigs => getSandboxConfigs.run
  | .scheduleActivation expectedRevision sandboxId activate effectiveAtUtc =>
      (scheduleSandboxActivation expectedRevision sandboxId activate effectiveAtUtc).run
  | .cancelActivationSchedule expectedRevision sandboxId =>
      (cancelSandboxActivationSchedule expectedRevision sandboxId).run
  | .getRuntimeState => getAdminRuntimeState.run

end HackArena.Admin
