import HackArena.Local.LocalRaceState
import HackArena.Runtime.EngineWorker
import HackArena.Services.Status

/-!
# Local race administration

Four requests move a race through its life. Each of them talks to the
engine worker and to the race store in turn, and between two awaits any
other request may run. A request is therefore kept with the stage it has
reached, and every stage is one step of the system.
-/

namespace HackArena.Services

open Boink HackArena.Runtime HackArena.Local

variable {E : Type}

/-! ## The configuration of a race -/

def defaultLocalRaceMaxParticipants : ℕ := 33

structure LocalRaceConfigInput where
  raceName : String
  mapId : String
  raceDurationSec : ℕ
  timeOfDay : Option LocalTimeOfDaySettings
  ghostMode : Option GhostModeSettings
  weather : Option LocalWeatherSettings
  maxParticipants : ℕ
  deriving DecidableEq, Repr

def normalizeConfig (config : LocalRaceConfigInput) : Except Status LocalRaceConfigInput :=
  let raceName := Text.trim config.raceName
  let mapId := Text.trim config.mapId
  if mapId = "" then .error ⟨.invalidArgument, "map_id must be non-empty"⟩
  else if ¬ mapId.toList.all Text.isAsciiAlphanumeric then
    .error ⟨.invalidArgument, "map_id must be an alphanumeric standalone storage key"⟩
  else if config.raceDurationSec = 0 then
    .error ⟨.invalidArgument, "race_duration_sec must be greater than zero"⟩
  else .ok { config with
    raceName := if raceName = "" then "Local race" else raceName
    mapId := mapId
    timeOfDay := config.timeOfDay.or (some ⟨some .fixedPreset, some .noon⟩)
    weather := config.weather.or (some ⟨some .clear, 20⟩)
    maxParticipants := if config.maxParticipants = 0 then defaultLocalRaceMaxParticipants
      else config.maxParticipants }

def resolveTimeOfDayPreset (value : LocalTimeOfDaySettings) :
    Except Status EngineRuntimeTimeOfDayPreset :=
  match value.mode, value.fixedPreset with
  | none, _ => .error ⟨.invalidArgument, "invalid time_of_day.mode"⟩
  | some .unspecified, _ => .error ⟨.invalidArgument, "time_of_day.mode must be specified"⟩
  | some _, none => .error ⟨.invalidArgument, "invalid time_of_day.fixed_preset"⟩
  | some _, some .unspecified =>
      .error ⟨.invalidArgument, "time_of_day.fixed_preset must be specified"⟩
  | some _, some preset => .ok preset

/-- What `create_local_race` settles before it calls the engine. -/
def planLocalRace (config : Option LocalRaceConfigInput) :
    Except Status (LocalRaceConfigInput × EngineRuntimeTimeOfDayPreset) :=
  match config with
  | none => .error ⟨.invalidArgument, "config is required"⟩
  | some config =>
      match normalizeConfig config with
      | .error status => .error status
      | .ok config =>
          match config.timeOfDay with
          | none => .error ⟨.invalidArgument, "time_of_day is required"⟩
          | some timeOfDay => (resolveTimeOfDayPreset timeOfDay).map fun preset => (config, preset)

def stagedRace (config : LocalRaceConfigInput) (raceId : String)
    (preset : EngineRuntimeTimeOfDayPreset) (nowMs : ℕ) : LocalRaceRuntimeInfo where
  raceId := raceId
  raceName := config.raceName
  mapId := config.mapId
  raceDurationSec := config.raceDurationSec
  timeOfDay := config.timeOfDay
  activeTimeOfDayPreset := preset
  ghostMode := config.ghostMode
  weather := config.weather
  phase := .staging
  createdAtUtc := some (timestampFromMs nowMs)
  countdownEndAtUtc := none
  runningStartedAtUtc := none
  plannedEndAtUtc := none
  joinedParticipantCount := 0
  maxParticipants := config.maxParticipants

/-! ## The checks and updates of the other requests -/

def mapStateErr : LocalRaceStateError → Status
  | .noActiveRace => ⟨.notFound, "no active local race"⟩
  | .raceMismatch => ⟨.notFound, "active local race id does not match request"⟩
  | .joinClosed => ⟨.failedPrecondition, "local race join is allowed only in staging phase"⟩
  | .participantLimitReached => ⟨.resourceExhausted, "local race participant limit reached"⟩

def checkRevision (s : EngineRuntimeState) (expectedRevision : ℕ) : Except Status Unit :=
  if s.revision ≠ expectedRevision then
    .error ⟨.failedPrecondition, "runtime revision mismatch: expected " ++
      toString expectedRevision ++ ", actual " ++ toString s.revision⟩
  else .ok ()

/-- A request reads the active race and insists on its own. -/
def readRace (s : LocalRaceState) (raceId : String) (nowMs : ℕ) :
    Except Status LocalRaceRuntimeInfo :=
  match activeRace s nowMs with
  | none => .error ⟨.notFound, "no active local race"⟩
  | some race =>
      if race.raceId ≠ raceId then
        .error ⟨.notFound, "active local race id does not match request"⟩
      else .ok race

def checkStaging (s : LocalRaceState) (raceId : String) (nowMs : ℕ) : Except Status Unit :=
  match readRace s raceId nowMs with
  | .error status => .error status
  | .ok race =>
      if race.phase ≠ .staging then .error ⟨.failedPrecondition,
        "local race countdown can be started only in staging phase"⟩
      else .ok ()

def startUpdate (countdownSeconds countdownEndMs : ℕ) (race : LocalRaceRuntimeInfo) :
    LocalRaceRuntimeInfo :=
  let countdownEnd := timestampFromMs countdownEndMs
  if countdownSeconds = 0 then
    { race with
      phase := .running
      countdownEndAtUtc := some countdownEnd
      runningStartedAtUtc := some countdownEnd
      plannedEndAtUtc := some (timestampFromMs
        (saturatingAdd countdownEndMs (race.raceDurationSec * 1000))) }
  else { race with phase := .countdown, countdownEndAtUtc := some countdownEnd }

def abortUpdate (race : LocalRaceRuntimeInfo) : LocalRaceRuntimeInfo :=
  { race with phase := .aborted }

/-- The final phase in which `close_local_race` finds its race. -/
def checkFinal (s : LocalRaceState) (raceId : String) (nowMs : ℕ) :
    Except Status LocalRacePhase :=
  match readRace s raceId nowMs with
  | .error status => .error status
  | .ok race =>
      match race.phase with
      | .finished => .ok .finished
      | .aborted => .ok .aborted
      | .unspecified | .staging | .countdown | .running => .error ⟨.failedPrecondition,
          "local race can be closed only when finished or aborted"⟩

/-! ## Requests and their stages -/

inductive RaceReply where
  | created (revision : ℕ) (race : LocalRaceRuntimeInfo)
  | countdownStarted (revision : ℕ) (raceId : String) (countdownEndAtUtc : Timestamp)
  | aborted (revision : ℕ) (raceId : String)
  | closed (revision : ℕ) (raceId : String)
  deriving DecidableEq, Repr

inductive RaceRequest where
  | activated (config : LocalRaceConfigInput) (raceId : String)
      (preset : EngineRuntimeTimeOfDayPreset) (revision : ℕ)
  | startAdmitted (expectedRevision : ℕ) (raceId : String) (countdownSeconds : ℕ)
  | startStaged (expectedRevision : ℕ) (raceId : String) (countdownSeconds countdownEndMs : ℕ)
  | startWritten (expectedRevision : ℕ) (raceId : String) (countdownEndMs : ℕ)
  | abortAdmitted (expectedRevision : ℕ) (raceId : String)
  | abortWritten (expectedRevision : ℕ) (raceId : String)
  | closeAdmitted (expectedRevision : ℕ) (raceId : String) (phase : LocalRacePhase)
  | closeReleased (raceId : String) (revision : ℕ)
  | answered (reply : Except Status RaceReply)

/-- `drawn` are the ids that `Uuid::new_v4` has returned. -/
structure RaceSystem (E : Type) where
  worker : Worker E
  races : LocalRaceState
  requests : ℕ → Option RaceRequest
  drawn : List String

def RaceSystem.initial (E : Type) : RaceSystem E :=
  ⟨Worker.initial E, LocalRaceState.new, fun _ => none, []⟩

def RaceSystem.put (s : RaceSystem E) (id : ℕ) (r : RaceRequest) : RaceSystem E :=
  { s with requests := Function.update s.requests id (some r) }

/-- The request moves on, or is answered with its error. -/
def RaceSystem.next {R : Type} (s : RaceSystem E) (id : ℕ) (result : Except Status R)
    (proceed : R → RaceRequest) : RaceSystem E :=
  s.put id (match result with
    | .error status => .answered (.error status)
    | .ok value => proceed value)

/-- Other parts of the server never activate or deactivate a local race. -/
def ForeignEvent : WorkerEvent E → Prop
  | .command _ (.activateLocalRace ..) | .command _ (.deactivateLocalRace ..) => False
  | _ => True

/-- `worker` stands for everything else that reaches the engine worker;
the last four events are joins, leaves and the lifecycle task. -/
inductive RaceEvent (E : Type) where
  | worker (ev : WorkerEvent E) (hforeign : ForeignEvent ev)
  | create (id : ℕ) (env : EngineEnv E) (expectedRevision : ℕ)
      (config : Option LocalRaceConfigInput) (raceId : String)
  | createSet (id createdMs nowMs : ℕ)
  | start (id expectedRevision : ℕ) (raceId : String) (countdownSeconds : ℕ)
  | startCheck (id readMs nowMs : ℕ)
  | startWrite (id beforeMs afterMs : ℕ)
  | startBump (id : ℕ)
  | abort (id expectedRevision : ℕ) (raceId : String)
  | abortWrite (id beforeMs afterMs : ℕ)
  | abortDeactivate (id : ℕ)
  | close (id expectedRevision : ℕ) (raceId : String) (nowMs : ℕ)
  | closeRelease (id : ℕ)
  | closeClear (id : ℕ)
  | register (raceId : String) (carId : ℕ) (displayName : String) (nowMs : ℕ)
  | remove (carId : ℕ)
  | reconcile (nowMs : ℕ)
  | markSoftFreeze (raceId : String)

def stepRace (b : Build) (s : RaceSystem E) : RaceEvent E → RaceSystem E
  | .worker ev _ => { s with worker := stepEvent b s.worker ev }
  | .create id env expectedRevision config raceId => match s.requests id with
      | none => match planLocalRace config with
          | .error status => s.put id (.answered (.error status))
          | .ok (config, preset) =>
              let r := activateLocalRace b env s.worker expectedRevision raceId config.mapId
                preset config.ghostMode
              let s := { s with worker := r.1, drawn := raceId :: s.drawn }
              s.next id (r.2.mapError mapWorkerErr) fun runtime =>
                .activated config raceId preset runtime.revision
      | some _ => s
  | .createSet id createdMs nowMs => match s.requests id with
      | some (.activated config raceId preset revision) =>
          let race := stagedRace config raceId preset createdMs
          { s.put id (.answered (.ok (.created revision race))) with
            races := setActiveRace race nowMs }
      | _ => s
  | .start id expectedRevision raceId countdownSeconds => match s.requests id with
      | none => s.next id (checkRevision s.worker.state expectedRevision) fun _ =>
          .startAdmitted expectedRevision raceId countdownSeconds
      | some _ => s
  | .startCheck id readMs nowMs => match s.requests id with
      | some (.startAdmitted expectedRevision raceId countdownSeconds) =>
          s.next id (checkStaging s.races raceId readMs) fun _ =>
            .startStaged expectedRevision raceId countdownSeconds
              (saturatingAdd nowMs (countdownSeconds * 1000))
      | _ => s
  | .startWrite id beforeMs afterMs => match s.requests id with
      | some (.startStaged expectedRevision raceId countdownSeconds countdownEndMs) =>
          let r := updateActiveRace s.races raceId
            (startUpdate countdownSeconds countdownEndMs) beforeMs afterMs
          { s with races := r.1 }.next id (r.2.mapError mapStateErr) fun _ =>
            .startWritten expectedRevision raceId countdownEndMs
      | _ => s
  | .startBump id => match s.requests id with
      | some (.startWritten expectedRevision raceId countdownEndMs) =>
          let r := bumpRevision s.worker expectedRevision
          { s with worker := r.1 }.next id (r.2.mapError mapWorkerErr) fun runtime =>
            .answered (.ok (.countdownStarted runtime.revision raceId
              (timestampFromMs countdownEndMs)))
      | _ => s
  | .abort id expectedRevision raceId => match s.requests id with
      | none => s.next id (checkRevision s.worker.state expectedRevision) fun _ =>
          .abortAdmitted expectedRevision raceId
      | some _ => s
  | .abortWrite id beforeMs afterMs => match s.requests id with
      | some (.abortAdmitted expectedRevision raceId) =>
          let r := updateActiveRace s.races raceId abortUpdate beforeMs afterMs
          { s with races := r.1 }.next id (r.2.mapError mapStateErr) fun _ =>
            .abortWritten expectedRevision raceId
      | _ => s
  | .abortDeactivate id => match s.requests id with
      | some (.abortWritten expectedRevision raceId) =>
          let r := deactivateLocalRace s.worker expectedRevision raceId
          { s with worker := r.1 }.next id (r.2.mapError mapWorkerErr) fun runtime =>
            .answered (.ok (.aborted runtime.revision raceId))
      | _ => s
  | .close id expectedRevision raceId nowMs => match s.requests id with
      | none => s.next id (checkFinal s.races raceId nowMs)
          (.closeAdmitted expectedRevision raceId)
      | some _ => s
  | .closeRelease id => match s.requests id with
      | some (.closeAdmitted expectedRevision raceId phase) =>
          -- an aborted race is taken to be out of the engine already
          let r := if phase = .finished then
              deactivateLocalRace s.worker expectedRevision raceId
            else bumpRevision s.worker expectedRevision
          { s with worker := r.1 }.next id (r.2.mapError mapWorkerErr) fun runtime =>
            .closeReleased raceId runtime.revision
      | _ => s
  | .closeClear id => match s.requests id with
      | some (.closeReleased raceId revision) =>
          let r := clearActiveRace s.races raceId
          { s with races := r.1 }.next id (r.2.mapError mapStateErr) fun _ =>
            .answered (.ok (.closed revision raceId))
      | _ => s
  | .register raceId carId displayName nowMs =>
      { s with races := (registerParticipant s.races raceId carId displayName nowMs).1 }
  | .remove carId => { s with races := removeParticipant s.races carId }
  | .reconcile nowMs => { s with races := (reconcileActiveRace s.races nowMs).1 }
  | .markSoftFreeze raceId => { s with races := (markFinishSoftFreezeApplied s.races raceId).1 }

/-- An id drawn for a race is none of those drawn before. -/
def FreshId (s : RaceSystem E) : RaceEvent E → Prop
  | .create _ _ _ _ raceId => raceId ∉ s.drawn
  | _ => True

end HackArena.Services
