import HackArena.Lib.Broadcast
import HackArena.Lib.Programs
import HackArena.Local.SandboxConfigMappers
import HackArena.Runtime.CarWorld
import HackArena.Services.LocalRaceAdmin
import HackArena.Weather.Reported

/-!
# The administration of a local server

Configurations of sandboxes live in a store of their own, the sandboxes and
the race that run in the engine worker, and the race's progress in a third
place. Every call is one step, and the requests take turns between their
calls.
-/

namespace HackArena.Local

open Boink HackArena.Runtime HackArena.Services SandboxConfig
open HackArena.Weather (WeatherNow)

/-! ## Calls -/

/-- The store of configurations; a change is written to the file by a call
of its own. -/
inductive ConfigOp where
  | getSnapshot
  | change (expectedRevision : ℕ) (c : ConfigChange)
  | persist

abbrev ConfigOp.Answer : ConfigOp → Type
  | .getSnapshot => LocalSandboxConfigState
  | .change .. => Except ConfigStoreError ℕ
  | .persist => Except ConfigStoreError Unit

/-- The methods of the engine client that local administration uses. -/
inductive LocalEngineOp where
  | runtimeState
  | switchRuntime (expectedRevision : ℕ) (activityKind : EngineActivityKind) (mapId : String)
      (sandboxId : Option String) (timeOfDayPreset : Option EngineRuntimeTimeOfDayPreset)
      (ghostModeSettings : Option GhostModeSettings)
  | setRuntimeTimeOfDay (expectedRevision : ℕ) (sandboxId : Option String)
      (preset : EngineRuntimeTimeOfDayPreset)
  | deactivateSandbox (expectedRevision : ℕ) (sandboxId : String)
  | setSandboxWeather (sandboxId : String) (weather : WeatherParams)
      (weatherNow : EngineRuntimeWeatherNow)
  | activateLocalRace (expectedRevision : ℕ) (raceId mapId : String)
      (timeOfDayPreset : EngineRuntimeTimeOfDayPreset)
      (ghostModeSettings : Option GhostModeSettings)
  | deactivateLocalRace (expectedRevision : ℕ) (raceId : String)
  | bumpRevision (expectedRevision : ℕ)
  | slot (target : EngineCommandTarget) (op : SlotOp)

abbrev LocalEngineOp.Answer : LocalEngineOp → Type
  | .setSandboxWeather .. | .slot .. => Except EngineWorkerError SlotReply
  | .runtimeState | .switchRuntime .. | .setRuntimeTimeOfDay .. | .deactivateSandbox ..
  | .activateLocalRace .. | .deactivateLocalRace .. | .bumpRevision _ =>
      Except EngineWorkerError EngineRuntimeState

/-- The store of the local race. -/
inductive LocalRaceOp where
  | activeRace
  | setActiveRace (race : LocalRaceRuntimeInfo)
  | updateActiveRace (raceId : String) (update : LocalRaceRuntimeInfo → LocalRaceRuntimeInfo)
  | clearActiveRace (raceId : String)
  | reconcileActiveRace
  | finishedRacePendingSoftFreeze
  | markFinishSoftFreezeApplied (raceId : String)

abbrev LocalRaceOp.Answer : LocalRaceOp → Type
  | .activeRace | .finishedRacePendingSoftFreeze => Option LocalRaceRuntimeInfo
  | .setActiveRace _ => Unit
  | .updateActiveRace .. => Except LocalRaceStateError LocalRaceRuntimeInfo
  | .clearActiveRace _ | .markFinishSoftFreezeApplied _ => Except LocalRaceStateError Unit
  | .reconcileActiveRace => Option LocalRaceReconcileOutcome

/-- When the active sandboxes were started. -/
inductive StartedAtOp where
  | read
  | insert (sandboxId : String) (startedAtUtc : Timestamp)
  | remove (sandboxId : String)

abbrev StartedAtOp.Answer : StartedAtOp → Type
  | .read => HashMap String Timestamp
  | .insert .. | .remove _ => Unit

inductive LocalWeatherEventKind where
  | updated | deactivated
  deriving DecidableEq

structure LocalWeatherEvent where
  sandboxId : String
  kind : LocalWeatherEventKind
  deriving DecidableEq

/-- The hub of weather events; each stream has a receiver of its own. -/
inductive WeatherEventOp where
  | publish (event : LocalWeatherEvent)
  | subscribe (streamId : ℕ)
  | recv (streamId : ℕ)

abbrev WeatherEventOp.Answer : WeatherEventOp → Type
  | .publish _ | .subscribe _ => Unit
  | .recv _ => Except RecvError LocalWeatherEvent

/-- How many cars drive, by sandbox and by local race. -/
structure ActiveCarCounts where
  bySandbox : HashMap String ℕ
  byLocalRace : HashMap String ℕ

inductive LocalOp where
  | now
  | newId
  | ensureMapReady (mapId : String)
  | activeCarCounts
  | localRaceCars (raceId : String)
  | config (op : ConfigOp)
  | engine (op : LocalEngineOp)
  | races (op : LocalRaceOp)
  | startedAt (op : StartedAtOp)
  | weatherEvents (op : WeatherEventOp)
  | sendWeather (streamId : ℕ) (item : Except Status WeatherNow)
  | simulate (target : EngineCommandTarget)

abbrev LocalOp.Answer : LocalOp → Type
  | .now => ℕ
  | .newId => String
  | .ensureMapReady _ => Except Status Unit
  | .activeCarCounts => ActiveCarCounts
  | .localRaceCars _ => List ℕ
  | .config op => op.Answer
  | .engine op => op.Answer
  | .races op => op.Answer
  | .startedAt op => op.Answer
  | .weatherEvents op => op.Answer
  | .sendWeather .. => Bool
  | .simulate _ => Unit

/-! ## Steps -/

/-- What is not determined by the state: how much time passes before a call
and while it holds its lock, whether the call fails and how, the ids and the
cars that other parts hand out, and what the engine worker needs from
outside. -/
structure LocalInput (E : Type) where
  elapsedNs : ℕ
  heldNs : ℕ
  fails : Bool
  status : Status
  storeError : ConfigStoreError
  uuid : String
  carCounts : ActiveCarCounts
  raceCars : List ℕ
  env : EngineEnv E
  simulation : E → E

structure LocalAdminState (E : Type) where
  clockNs : ℕ
  config : LocalSandboxConfigState
  worker : Worker E
  races : LocalRaceState
  startedAt : HashMap String Timestamp
  weatherEvents : Broadcast LocalWeatherEvent

variable {E : Type}

/-- A failure to write the file leaves the change in the state. -/
def execConfig (s : LocalSandboxConfigState) (i : LocalInput E) :
    (op : ConfigOp) → LocalSandboxConfigState × op.Answer
  | .getSnapshot => (s, s)
  | .change expectedRevision c => s.change expectedRevision c
  | .persist => (s, if i.fails then .error i.storeError else .ok ())

/-- A command of an operation that the worker handles. -/
def handleEngine (b : Build) (w : Worker E) (env : EngineEnv E) :
    (op : LocalEngineOp) → Worker E × op.Answer
  | .runtimeState => (w, .ok w.state)
  | .switchRuntime expectedRevision activityKind mapId sandboxId preset ghost =>
      switchRuntime b env w expectedRevision activityKind mapId sandboxId
        (preset.getD w.state.timeOfDayPreset) ghost
  | .setRuntimeTimeOfDay expectedRevision sandboxId preset =>
      setRuntimeTimeOfDay w expectedRevision sandboxId preset
  | .deactivateSandbox expectedRevision sandboxId =>
      deactivateSandbox w expectedRevision sandboxId
  | .setSandboxWeather sandboxId weather weatherNow => setWeather env w sandboxId weather weatherNow
  | .activateLocalRace expectedRevision raceId mapId preset ghost =>
      activateLocalRace b env w expectedRevision raceId mapId preset ghost
  | .deactivateLocalRace expectedRevision raceId => deactivateLocalRace w expectedRevision raceId
  | .bumpRevision expectedRevision => bumpRevision w expectedRevision
  | .slot target op => withTargetSlotMut target w fun slot => runSlotOp b env.api slot op

/-- `EngineWorkerError::WorkerStopped`. -/
def LocalEngineOp.stopped : (op : LocalEngineOp) → op.Answer
  | .setSandboxWeather .. | .slot .. => .error .workerStopped
  | .runtimeState | .switchRuntime .. | .setRuntimeTimeOfDay .. | .deactivateSandbox ..
  | .activateLocalRace .. | .deactivateLocalRace .. | .bumpRevision _ => .error .workerStopped

/-- The command is not handled by a worker that has stopped. -/
def execEngine (b : Build) (w : Worker E) (i : LocalInput E) (op : LocalEngineOp) :
    Worker E × op.Answer :=
  if i.fails then (w, op.stopped) else handleEngine b w i.env op

def execRaces (s : LocalRaceState) (nowMs afterMs : ℕ) :
    (op : LocalRaceOp) → LocalRaceState × op.Answer
  | .activeRace => (s, activeRace s nowMs)
  | .setActiveRace race => (setActiveRace race nowMs, ())
  | .updateActiveRace raceId update => updateActiveRace s raceId update nowMs afterMs
  | .clearActiveRace raceId => clearActiveRace s raceId
  | .reconcileActiveRace => reconcileActiveRace s nowMs
  | .finishedRacePendingSoftFreeze => (s, finishedRacePendingSoftFreeze s nowMs)
  | .markFinishSoftFreezeApplied raceId => markFinishSoftFreezeApplied s raceId

def execStartedAt (m : HashMap String Timestamp) :
    (op : StartedAtOp) → HashMap String Timestamp × op.Answer
  | .read => (m, m)
  | .insert sandboxId startedAtUtc => (m.insert sandboxId startedAtUtc, ())
  | .remove sandboxId => (m.erase sandboxId, ())

/-- The capacity of the hub of weather events. -/
def weatherEventCapacity : ℕ := 128

def execWeatherEvents (c : Broadcast LocalWeatherEvent) :
    (op : WeatherEventOp) → Broadcast LocalWeatherEvent × op.Answer
  | .publish event => (c.send event, ())
  | .subscribe streamId => (c.subscribe streamId, ())
  | .recv streamId => c.recv weatherEventCapacity streamId

/-- `current_unix_ms` at a time. -/
def unixMs (clockNs : ℕ) : ℕ := clockNs / 1000000

/-- `utc_now_timestamp` at a time. -/
def utcTimestamp (clockNs : ℕ) : Timestamp := ⟨clockNs / 1000000000, clockNs % 1000000000⟩

def execLocalNow (b : Build) (s : LocalAdminState E) (i : LocalInput E) :
    (op : LocalOp) → LocalAdminState E × op.Answer
  | .now => (s, s.clockNs)
  | .newId => (s, i.uuid)
  | .ensureMapReady _ => (s, if i.fails then .error i.status else .ok ())
  | .activeCarCounts => (s, i.carCounts)
  | .localRaceCars _ => (s, i.raceCars)
  | .config op =>
      let r := execConfig s.config i op
      ({ s with config := r.1 }, r.2)
  | .engine op =>
      let r := execEngine b s.worker i op
      ({ s with worker := r.1 }, r.2)
  | .races op =>
      let r := execRaces s.races (unixMs s.clockNs) (unixMs (s.clockNs + i.heldNs)) op
      ({ s with races := r.1, clockNs := s.clockNs + i.heldNs }, r.2)
  | .startedAt op =>
      let r := execStartedAt s.startedAt op
      ({ s with startedAt := r.1 }, r.2)
  | .weatherEvents op =>
      let r := execWeatherEvents s.weatherEvents op
      ({ s with weatherEvents := r.1 }, r.2)
  -- a message cannot be sent to a client that has gone
  | .sendWeather .. => (s, !i.fails)
  | .simulate target => ({ s with worker := simulateWorld s.worker i.simulation target }, ())

/-- Time passes before the call is executed. -/
def localExec (b : Build) (s : LocalAdminState E) (op : LocalOp) (i : LocalInput E) :
    LocalAdminState E × op.Answer :=
  execLocalNow b { s with clockNs := s.clockNs + i.elapsedNs } i op

/-- What has been loaded from the file, an idle worker and no race. -/
def LocalAdminState.initial (E : Type) (clockNs : ℕ) (config : LocalSandboxConfigState) :
    LocalAdminState E :=
  ⟨clockNs, config, Worker.initial E, LocalRaceState.new, ∅, .empty⟩

/-- Nothing fails, and no time passes. -/
def LocalInput.works : LocalInput CarWorld where
  elapsedNs := 0
  heldNs := 0
  fails := false
  status := ⟨.unavailable, "unavailable"⟩
  storeError := .io "disk full"
  uuid := "id"
  carCounts := ⟨∅, ∅⟩
  raceCars := []
  env := CarWorld.env
  simulation := id

abbrev LocalProg := Prog LocalOp LocalOp.Answer
abbrev LocalAdminWorld (E : Type) := World (LocalAdminState E) LocalOp LocalOp.Answer
abbrev LocalEntry := Entry LocalOp LocalOp.Answer

/-- A part of a request. -/
abbrev LocalCall := ExceptT Status LocalProg

abbrev LocalOp.call (op : LocalOp) : LocalProg op.Answer := Prog.perform op

end HackArena.Local
