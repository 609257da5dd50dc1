import HackArena.Admin.RaceConfigRepo
import HackArena.Admin.SandboxConfigRepo
import HackArena.Lib.GenerationCache
import HackArena.Runtime.CarWorld

/-!
# The administration of the official backend

Admins change the calendar of races, the configurations of sandboxes and
the sandboxes that run; the public menu reads all three, two of them
through caches. Every call is one step, and the requests take turns between
their calls.
-/

namespace HackArena.Admin

open Boink HackArena.Runtime HackArena.Services

/-! ## Timestamps -/

structure Timestamp where
  seconds : ℤ
  nanos : ℤ
  deriving DecidableEq

def timestampToMs (timestamp : Timestamp) : Except Status ℤ :=
  if 0 ≤ timestamp.nanos ∧ timestamp.nanos < 1000000000 then
    match checkedI64 (timestamp.seconds * 1000) with
    | none => .error ⟨.outOfRange, "timestamp seconds overflow"⟩
    | some secondsMs =>
        match checkedI64 (secondsMs + timestamp.nanos / 1000000) with
        | none => .error ⟨.outOfRange, "timestamp overflow"⟩
        | some ms => .ok ms
  else .error ⟨.invalidArgument, "timestamp nanos must be in range 0..1_000_000_000"⟩

def unixMsToTimestamp (ms : ℤ) : Timestamp := ⟨ms / 1000, ms % 1000 * 1000000⟩

/-! ## The caches of the public menu -/

structure PublicUpcomingRaceSummary where
  raceName : String
  startTimeUtc : Timestamp
  raceDurationSec : ℕ
  deriving DecidableEq

abbrev MenuCache (α : Type) := Stamped (List α)

def MenuCache.default (α : Type) : MenuCache α := ⟨0, 0, []⟩

/-! ## Calls -/

inductive RaceConfigOp where
  | getSnapshot
  | createConfig (expectedRevision : ℕ) (race : RaceConfigRecord)
  | updateConfig (expectedRevision : ℕ) (race : RaceConfigRecord)
  | deleteConfig (expectedRevision : ℕ) (raceId : String)

abbrev RaceConfigOp.Answer : RaceConfigOp → Type
  | .getSnapshot => Except RaceConfigRepoError RaceCalendar
  | .createConfig .. | .updateConfig .. | .deleteConfig .. => Except RaceConfigRepoError ℕ

inductive SandboxConfigOp where
  | getSnapshot
  | createConfig (expectedRevision : ℕ) (sandbox : SandboxConfigRecord)
  | updateConfig (expectedRevision : ℕ) (sandbox : SandboxConfigRecord)
  | deleteConfig (expectedRevision : ℕ) (sandboxId : String)

abbrev SandboxConfigOp.Answer : SandboxConfigOp → Type
  | .getSnapshot => Except SandboxConfigRepoError SandboxTable
  | .createConfig .. | .updateConfig .. | .deleteConfig .. => Except SandboxConfigRepoError ℕ

/-- The caches of the menu, with the counters that invalidate them. -/
inductive MenuOp where
  | upcomingGeneration
  | invalidateUpcoming
  | readUpcoming
  | writeUpcoming (cache : MenuCache PublicUpcomingRaceSummary)
  | sandboxGeneration
  | invalidateSandboxes
  | readSandboxes
  | writeSandboxes (cache : MenuCache SandboxConfigRecord)

abbrev MenuOp.Answer : MenuOp → Type
  | .upcomingGeneration | .sandboxGeneration => ℕ
  | .invalidateUpcoming | .invalidateSandboxes | .writeUpcoming _ | .writeSandboxes _ => Unit
  | .readUpcoming => MenuCache PublicUpcomingRaceSummary
  | .readSandboxes => MenuCache SandboxConfigRecord

/-- The methods of the engine client that the administration uses. -/
inductive EngineOp where
  | runtimeState
  | switchRuntime (expectedRevision : ℕ) (activityKind : EngineActivityKind) (mapId : String)
      (sandboxId : Option String) (timeOfDayPreset : Option EngineRuntimeTimeOfDayPreset)
      (ghostModeSettings : Option GhostModeSettings)
  | setRuntimeTimeOfDay (expectedRevision : ℕ) (sandboxId : Option String)
      (preset : EngineRuntimeTimeOfDayPreset)
  | setPendingSandboxActivation (expectedRevision : ℕ)
      (pending : EnginePendingSandboxActivation)
  | cancelPendingSandboxActivation (expectedRevision : ℕ) (sandboxId : String)
  | deactivateSandbox (expectedRevision : ℕ) (sandboxId : String)

abbrev EngineOp.Answer : EngineOp → Type
  | .cancelPendingSandboxActivation .. => Except EngineWorkerError (EngineRuntimeState × Bool)
  | .runtimeState | .switchRuntime .. | .setRuntimeTimeOfDay .. | .setPendingSandboxActivation ..
  | .deactivateSandbox .. => Except EngineWorkerError EngineRuntimeState

inductive AdminOp where
  | isAdmin
  | newUuid
  | currentUnixMs
  | races (op : RaceConfigOp)
  | sandboxes (op : SandboxConfigOp)
  | menu (op : MenuOp)
  | engine (op : EngineOp)
  | engineTick

abbrev AdminOp.Answer : AdminOp → Type
  | .isAdmin => Except Status Bool
  | .newUuid => String
  | .currentUnixMs => ℤ
  | .races op => op.Answer
  | .sandboxes op => op.Answer
  | .menu op => op.Answer
  | .engine op => op.Answer
  | .engineTick => Unit

/-! ## Steps -/

/-- What is not determined by the state: how much time has passed, whether
the call fails and how, and what the engine worker needs from outside. -/
structure AdminInput (E : Type) where
  elapsedMs : ℕ
  fails : Bool
  status : Status
  raceError : RaceConfigRepoError
  sandboxError : SandboxConfigRepoError
  isAdmin : Bool
  uuid : String
  env : EngineEnv E
  dueEnvs : ℕ → EngineEnv E

structure AdminState (E : Type) where
  clockMs : ℤ
  calendar : RaceCalendar
  sandboxes : SandboxTable
  worker : Worker E
  upcomingGeneration : ℕ
  upcomingCache : MenuCache PublicUpcomingRaceSummary
  sandboxGeneration : ℕ
  sandboxCache : MenuCache SandboxConfigRecord

variable {E : Type}

/-- A transaction that fails leaves the table alone. -/
def execRaces (c : RaceCalendar) (i : AdminInput E) :
    (op : RaceConfigOp) → RaceCalendar × op.Answer
  | .getSnapshot => (c, if i.fails then .error i.raceError else .ok c.getSnapshot)
  | .createConfig expectedRevision race =>
      if i.fails then (c, .error i.raceError) else c.createConfig expectedRevision race
  | .updateConfig expectedRevision race =>
      if i.fails then (c, .error i.raceError) else c.updateConfig expectedRevision race
  | .deleteConfig expectedRevision raceId =>
      if i.fails then (c, .error i.raceError) else c.deleteConfig expectedRevision raceId

def execSandboxes (t : SandboxTable) (i : AdminInput E) :
    (op : SandboxConfigOp) → SandboxTable × op.Answer
  | .getSnapshot => (t, if i.fails then .error i.sandboxError else .ok t.getSnapshot)
  | .createConfig expectedRevision sandbox =>
      if i.fails then (t, .error i.sandboxError) else t.createConfig expectedRevision sandbox
  | .updateConfig expectedRevision sandbox =>
      if i.fails then (t, .error i.sandboxError) else t.updateConfig expectedRevision sandbox
  | .deleteConfig expectedRevision sandboxId =>
      if i.fails then (t, .error i.sandboxError) else t.deleteConfig expectedRevision sandboxId

def execMenu (s : AdminState E) : (op : MenuOp) → AdminState E × op.Answer
  | .upcomingGeneration => (s, s.upcomingGeneration)
  | .invalidateUpcoming => ({ s with upcomingGeneration := s.upcomingGeneration + 1 }, ())
  | .readUpcoming => (s, s.upcomingCache)
  | .writeUpcoming cache => ({ s with upcomingCache := cache }, ())
  | .sandboxGeneration => (s, s.sandboxGeneration)
  | .invalidateSandboxes => ({ s with sandboxGeneration := s.sandboxGeneration + 1 }, ())
  | .readSandboxes => (s, s.sandboxCache)
  | .writeSandboxes cache => ({ s with sandboxCache := cache }, ())

/-- The command is not handled by a worker that has stopped. -/
def execEngine (w : Worker E) (i : AdminInput E) : (op : EngineOp) → Worker E × op.Answer
  | .runtimeState => (w, if i.fails then .error .workerStopped else .ok w.state)
  | .switchRuntime expectedRevision activityKind mapId sandboxId preset ghost =>
      if i.fails then (w, .error .workerStopped)
      else switchRuntime .official i.env w expectedRevision activityKind mapId sandboxId
        (preset.getD w.state.timeOfDayPreset) ghost
  | .setRuntimeTimeOfDay expectedRevision sandboxId preset =>
      if i.fails then (w, .error .workerStopped)
      else setRuntimeTimeOfDay w expectedRevision sandboxId preset
  | .setPendingSandboxActivation expectedRevision pending =>
      if i.fails then (w, .error .workerStopped)
      else setPendingSandboxActivation w expectedRevision pending
  | .cancelPendingSandboxActivation expectedRevision sandboxId =>
      if i.fails then (w, .error .workerStopped)
      else cancelPendingSandboxActivation w expectedRevision sandboxId
  | .deactivateSandbox expectedRevision sandboxId =>
      if i.fails then (w, .error .workerStopped)
      else deactivateSandbox w expectedRevision sandboxId

def execNow (s : AdminState E) (i : AdminInput E) : (op : AdminOp) → AdminState E × op.Answer
  | .isAdmin => (s, if i.fails then .error i.status else .ok i.isAdmin)
  | .newUuid => (s, i.uuid)
  | .currentUnixMs => (s, s.clockMs)
  | .races op =>
      let r := execRaces s.calendar i op
      ({ s with calendar := r.1 }, r.2)
  | .sandboxes op =>
      let r := execSandboxes s.sandboxes i op
      ({ s with sandboxes := r.1 }, r.2)
  | .menu op => execMenu s op
  | .engine op =>
      let r := execEngine s.worker i op
      ({ s with worker := r.1 }, r.2)
  | .engineTick =>
      ({ s with
        worker := (maybeExecuteDuePendingSandboxActivation .official i.dueEnvs s.clockMs
          s.worker).1 }, ())

/-- Time passes before the call is executed. -/
def adminExec (s : AdminState E) (op : AdminOp) (i : AdminInput E) : AdminState E × op.Answer :=
  execNow { s with clockMs := s.clockMs + i.elapsedMs } i op

/-- Empty tables, an idle worker and caches as they are created. -/
def AdminState.initial (E : Type) (clockMs : ℤ) : AdminState E where
  clockMs := clockMs
  calendar := ⟨0, []⟩
  sandboxes := ⟨0, []⟩
  worker := Worker.initial E
  upcomingGeneration := 0
  upcomingCache := .default _
  sandboxGeneration := 0
  sandboxCache := .default _

/-- Nothing fails, and no time passes. -/
def AdminInput.works : AdminInput CarWorld where
  elapsedMs := 0
  fails := false
  status := ⟨.unavailable, "unavailable"⟩
  raceError := .stateMissing
  sandboxError := .stateMissing
  isAdmin := true
  uuid := "id"
  env := CarWorld.env
  dueEnvs _ := CarWorld.env

/-! ## Requests -/

structure AdminSandboxRuntimeInfo where
  sandboxId : String
  sandboxName : String
  mapId : String
  activeTimeOfDayPreset : EngineRuntimeTimeOfDayPreset
  ghostMode : Option GhostModeSettings
  deriving DecidableEq

structure AdminPendingSandboxOperation where
  activate : Bool
  sandboxId : String
  executeAtUtc : Timestamp
  deriving DecidableEq

structure AdminSandboxRuntimeMode where
  sandboxes : List AdminSandboxRuntimeInfo
  pendingSandboxOperations : List AdminPendingSandboxOperation
  deriving DecidableEq

inductive AdminResponse where
  | raceConfig (revision : ℕ) (raceId : String)
  | sandboxConfigs (revision : ℕ) (sandboxes : List SandboxConfigRecord)
  | sandboxConfig (revision : ℕ) (sandbox : SandboxConfigRecord)
  | sandboxDeleted (revision : ℕ) (sandboxId : String)
  | sandboxTimeOfDay (revision : ℕ) (sandboxId : String) (preset : EngineRuntimeTimeOfDayPreset)
      (appliedAtUtc : Timestamp) (appliedToActiveRuntime : Bool)
  | activation (revision : ℕ) (activate : Bool) (sandboxId : String) (effectiveAtUtc : Timestamp)
  | scheduleCanceled (revision : ℕ) (sandboxId : String) (canceled : Bool)
  | runtimeState (revision : ℕ) (serverTimeUtc : Timestamp)
      (sandboxMode : Option AdminSandboxRuntimeMode)
  | menuSandboxes (sandboxes : List SandboxConfigRecord)
  | menuUpcomingRaces (races : List PublicUpcomingRaceSummary)
  | ticked
  deriving DecidableEq

abbrev AdminProg := Prog AdminOp AdminOp.Answer
abbrev AdminWorld (E : Type) := World (AdminState E) AdminOp AdminOp.Answer
abbrev AdminEntry := Entry AdminOp AdminOp.Answer

/-- A request ends with a response or a status. -/
abbrev AdminRequest := AdminProg (Except Status AdminResponse)

abbrev AdminPool (E : Type) :=
  Pool (AdminState E) AdminOp AdminOp.Answer (Except Status AdminResponse)

/-- A part of a request. -/
abbrev AdminCall := ExceptT Status AdminProg

abbrev AdminOp.call (op : AdminOp) : AdminProg op.Answer := Prog.perform op

def requireAdmin : AdminCall Unit := do
  let isAdmin ← AdminOp.isAdmin.call.orFail id
  if isAdmin then pure () else throw ⟨.permissionDenied, "admin role required"⟩

end HackArena.Admin
