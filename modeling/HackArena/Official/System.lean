import HackArena.Lib.Programs
import HackArena.Official.BotRegistries
import HackArena.Official.BuildStreams
import HackArena.Official.RaceSession
import HackArena.Official.SubmissionRepo

/-!
# The official backend

The official race, the official sandboxes and the builds of submissions
share the store, the registries, docker, the repository and the engine.
Every call is one step; the tasks take turns between their calls.
-/

namespace HackArena.Official

open Boink HackArena.Runtime HackArena.Services

/-! ## Calls -/

/-- Calls that leave none of the modelled state changed. -/
inductive OutsideOp where
  | subject
  | resolveTeamId (userId : String)
  | newUuid
  | createDirAll (path : String)
  | writeFile (path : String)
  | prepareBuildContext (job : SubmissionBuildJob)
  | loadCachedWrapperAsset (repo releaseTag assetVersion : String)
  | resolveReleaseAsset (repo releaseTag assetVersion : String)
  | downloadReleaseAsset (repo assetName : String)
  | storeCachedWrapperAsset (repo releaseTag assetName : String)
  | installWrapper (assetName : String)
  | packageContext
  | spawnCommand (label : String)
  | waitChild (label : String)
  | readUntilNewline
  | deleteRegistryImage (imageRef : String)
  | deleteArtifacts (archivePath : String)
  | issueTeamBotToken (teamId : String)
  | issueWrapperAuthToken
  | signalPresent (path : String)
  | raceConfigs
  | readTeamsFile
  | ghostModeFileExists
  | readGhostModeFile
  | writeSnapshot
  | currentUnixMs
  | startBotLogCapture (teamId : String) (containerId : ℕ)
  | stopLogCapture (teamId : String)
  | logCaptureRunning (teamId : String)
  | sleep (delayMs : ℕ)
  deriving DecidableEq

abbrev OutsideOp.Answer : OutsideOp → Type
  | .subject | .resolveTeamId _ | .issueTeamBotToken _ | .issueWrapperAuthToken =>
      Except Status String
  | .newUuid => String
  | .currentUnixMs => ℕ
  | .logCaptureRunning _ => Bool
  | .stopLogCapture _ | .sleep _ => Unit
  | .createDirAll _ | .writeFile _ | .deleteRegistryImage _ | .deleteArtifacts _
  | .spawnCommand _ | .writeSnapshot | .startBotLogCapture .. => Except String Unit
  | .prepareBuildContext _ | .resolveReleaseAsset .. => Except PipelineError String
  | .loadCachedWrapperAsset .. => Except PipelineError (Option String)
  | .downloadReleaseAsset .. | .storeCachedWrapperAsset .. | .installWrapper _
  | .packageContext => Except PipelineError Unit
  | .waitChild _ => Except PipelineError Bool
  | .readUntilNewline => Except String (Option String)
  | .signalPresent _ | .ghostModeFileExists => Except String Bool
  | .raceConfigs => Except String (List RaceConfigRecord)
  | .readTeamsFile => Except String String
  | .readGhostModeFile => Except Status GhostModeSettings

def OutsideOp.answer (i : Input) : (op : OutsideOp) → op.Answer
  | .subject | .resolveTeamId _ | .issueTeamBotToken _ | .issueWrapperAuthToken =>
      i.statusResult i.text
  | .newUuid => i.text
  | .currentUnixMs => i.nowMs
  | .logCaptureRunning _ => i.present
  | .stopLogCapture _ | .sleep _ => ()
  | .createDirAll _ | .writeFile _ | .deleteRegistryImage _ | .deleteArtifacts _
  | .spawnCommand _ | .writeSnapshot | .startBotLogCapture .. => i.result ()
  | .prepareBuildContext _ | .resolveReleaseAsset .. => i.pipelineResult i.text
  | .loadCachedWrapperAsset .. => i.pipelineResult (if i.present then some i.text else none)
  | .downloadReleaseAsset .. | .storeCachedWrapperAsset .. | .installWrapper _
  | .packageContext => i.pipelineResult ()
  | .waitChild _ => i.pipelineResult i.present
  | .readUntilNewline => i.result (if i.present then some i.text else none)
  | .signalPresent _ | .ghostModeFileExists => i.result i.present
  | .raceConfigs => i.result i.races
  | .readTeamsFile => i.result i.text
  | .readGhostModeFile => i.statusResult i.ghostMode

inductive EngineOp where
  | runtimeState
  | switchRuntime (expectedRevision : ℕ) (activityKind : EngineActivityKind) (mapId : String)
      (timeOfDayPreset : Option EngineRuntimeTimeOfDayPreset)
      (ghostModeSettings : Option GhostModeSettings)
  | otherCommand
  | getNumberOfStartPos (target : EngineCommandTarget)
  | spawnCar
  | spawnSandboxCar (sandboxId : String)
  | setCarAtStartPos (target : EngineCommandTarget) (carId positionIndex : ℕ)
  | setCarBeforeFinishLine (target : EngineCommandTarget) (carId : ℕ)
  | setCarToPitstop (target : EngineCommandTarget) (carId : ℕ)
  | forceSetCarTyreType (target : EngineCommandTarget) (carId : ℕ) (tyreType : TyreType)
  | despawnCar (target : EngineCommandTarget) (carId : ℕ)
  | despawnCarWithin (target : EngineCommandTarget) (carId : ℕ)

abbrev EngineOp.Answer : EngineOp → Type
  | .runtimeState => Except EngineWorkerError EngineRuntimeState
  | .otherCommand => Unit
  | .getNumberOfStartPos _ | .spawnCar | .spawnSandboxCar _ => Except EngineWorkerError ℕ
  | .switchRuntime .. | .setCarAtStartPos .. | .setCarBeforeFinishLine .. | .setCarToPitstop ..
  | .forceSetCarTyreType .. | .despawnCar .. => Except EngineWorkerError Unit
  | .despawnCarWithin .. => Option (Except EngineWorkerError Unit)

/-- The runtime is the part of the engine worker that its clients see. A
switch to the race or to none leaves no sandbox active. -/
def engineExec (runtime : EngineRuntimeState) :
    (op : EngineOp) → Input → EngineRuntimeState × op.Answer
  | .runtimeState, i => (runtime, i.engineResult runtime)
  | .switchRuntime expectedRevision activityKind mapId timeOfDayPreset _, i =>
      if runtime.revision ≠ expectedRevision then
        (runtime, .error (.revisionMismatch expectedRevision runtime.revision))
      else
        (i.written runtime { runtime with
          revision := saturatingAdd runtime.revision 1
          activityKind := activityKind
          mapId := mapId
          activeLocalRace := none
          activeSandboxes := []
          timeOfDayPreset := timeOfDayPreset.getD .unspecified }, i.engineResult ())
  | .otherCommand, i => (i.runtime, ())
  | .getNumberOfStartPos _, i | .spawnCar, i | .spawnSandboxCar _, i =>
      (runtime, i.engineResult i.number)
  | .setCarAtStartPos .., i | .setCarBeforeFinishLine .., i | .setCarToPitstop .., i
  | .forceSetCarTyreType .., i | .despawnCar .., i => (runtime, i.engineResult ())
  | .despawnCarWithin .., i => (runtime, if i.elapsed then none else some (i.engineResult ()))

/-- The two locks of the two services. -/
inductive ServiceLock where
  | prepareCommand | joinCommand
  deriving DecidableEq, Repr

/-- A task that waits for the exit of a container, spawned and then taken
up. -/
structure ExitMonitor where
  lock : ServiceLock
  teamId : String
  containerId : ℕ
  deriving DecidableEq, Repr

/-- The variables of the launcher's loop that outlive a tick. -/
structure LauncherFlags where
  raceStarted : Bool
  racePrepared : Bool
  hasRecorder : Bool
  deriving DecidableEq, Repr

inductive Op where
  | outside (op : OutsideOp)
  | engine (op : EngineOp)
  | store (op : StoreOp)
  | docker (op : DockerOp)
  | join (op : JoinOp)
  | bot (op : BotOp)
  | repo (op : RepoOp)
  | build (op : BuildOp)
  | lock (which : ServiceLock)
  | unlock (which : ServiceLock)
  | latestFrame
  | publishFrame (runtimeState : Option EngineRuntimeState)
  | spawnMonitor (monitor : ExitMonitor)
  | takeMonitor (which : ServiceLock)
  | nextTick (flags : LauncherFlags)

abbrev Op.Answer : Op → Type
  | .outside op => op.Answer
  | .engine op => op.Answer
  | .store op => op.Answer
  | .docker op => op.Answer
  | .join op => op.Answer
  | .bot op => op.Answer
  | .repo op => op.Answer
  | .build op => op.Answer
  | .latestFrame => RuntimeFrame
  | .takeMonitor _ => Option ExitMonitor
  | .nextTick _ => Bool
  | .lock _ | .unlock _ | .publishFrame _ | .spawnMonitor _ => Unit

structure OfficialState where
  runtime : EngineRuntimeState
  store : RaceStore
  docker : Docker
  joins : JoinRegistry
  bots : BotRegistry
  repo : SubmissionRepo
  builds : BuildState
  held : ServiceLock → Bool
  frame : RuntimeFrame
  monitors : List ExitMonitor

def exec (s : OfficialState) : (op : Op) → Input → OfficialState × op.Answer
  | .outside op, i => (s, op.answer i)
  | .engine op, i =>
      let r := engineExec s.runtime op i
      ({ s with runtime := r.1 }, r.2)
  | .store op, _ =>
      let r := s.store.exec op
      ({ s with store := r.1 }, r.2)
  | .docker op, i =>
      let r := s.docker.exec op i
      ({ s with docker := r.1 }, r.2)
  | .join op, _ =>
      let r := s.joins.exec op
      ({ s with joins := r.1 }, r.2)
  | .bot op, _ =>
      let r := s.bots.exec op
      ({ s with bots := r.1 }, r.2)
  | .repo op, i =>
      let r := s.repo.exec op i
      ({ s with repo := r.1 }, r.2)
  | .build op, i =>
      let r := s.builds.exec op i
      ({ s with builds := r.1 }, r.2)
  | .lock which, _ => ({ s with held := Function.update s.held which true }, ())
  | .unlock which, _ => ({ s with held := Function.update s.held which false }, ())
  | .latestFrame, _ => (s, s.frame)
  | .publishFrame runtimeState, i =>
      ({ s with frame := { i.frame with runtimeState := runtimeState, serverTimeMs := i.nowMs } }, ())
  | .spawnMonitor monitor, _ => ({ s with monitors := s.monitors ++ [monitor] }, ())
  | .takeMonitor which, _ =>
      match s.monitors.find? fun m => m.lock = which with
      | none => (s, none)
      | some monitor => ({ s with monitors := s.monitors.erase monitor }, some monitor)
  | .nextTick _, i => (s, i.present)

abbrev OfficialProg := Prog Op Op.Answer
abbrev OfficialWorld := World OfficialState Op Op.Answer
abbrev OfficialPool := Pool OfficialState Op Op.Answer Unit

/-- A part of a task that can end with a status. -/
abbrev StatusProg := ExceptT Status OfficialProg

abbrev Op.call (op : Op) : OfficialProg op.Answer := Prog.perform op

def internal (context error : String) : Status := ⟨.internal, context ++ ": " ++ error⟩

/-- An error in other words. -/
def mapErr {α ε ε' : Type} (x : ExceptT ε OfficialProg α) (f : ε → ε') :
    ExceptT ε' OfficialProg α := x.run.orFail f

/-- The guard is dropped at the end, whatever the result is. -/
def withLock {α : Type} (which : ServiceLock) (p : OfficialProg α) : OfficialProg α := do
  (Op.lock which).call
  let result ← p
  (Op.unlock which).call
  pure result

/-- The call does not have to wait: a lock is free, and a channel or the
queue of builds is ready. -/
def Ready (s : OfficialState) (i : Input) : Op → Prop
  | .lock which => s.held which = false
  | .build op => s.builds.Ready i op
  | _ => True

instance (s : OfficialState) (i : Input) (op : Op) : Decidable (Ready s i op) :=
  match op with
  | .lock which => inferInstanceAs (Decidable (s.held which = false))
  | .build op => inferInstanceAs (Decidable (s.builds.Ready i op))
  | .outside _ | .engine _ | .store _ | .docker _ | .join _ | .bot _ | .repo _ | .unlock _
  | .latestFrame | .publishFrame _ | .spawnMonitor _ | .takeMonitor _ | .nextTick _ =>
      inferInstanceAs (Decidable True)

def OfficialState.initial (runtime : EngineRuntimeState) : OfficialState where
  runtime := runtime
  store := ⟨.cleared, .new⟩
  docker := ⟨∅, 0⟩
  joins := ∅
  bots := ∅
  repo := .empty
  builds := .empty
  held _ := false
  frame := .default
  monitors := []

end HackArena.Official
