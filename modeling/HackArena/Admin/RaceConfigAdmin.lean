import HackArena.Admin.System

/-!
# The administration of the race calendar

The calendar with the change is checked on a snapshot, and the change alone
is then written, on the condition that the revision is still that of the
snapshot.
-/

namespace HackArena.Admin

open Boink Domain.RaceConfig HackArena.Services

/-- The configuration in a request. An enumeration is `none` if its number
is not known. -/
structure ProtoRaceConfigInput where
  raceName : String
  startTimeUtc : Option Timestamp
  raceDurationSec : ℕ
  mapId : String
  startPlacementMode : Option StartPlacementMode
  pointsMultiplierFixed : Option F32
  timeOfDayPreset : Option RaceTimeOfDayPreset
  deriving DecidableEq

/-! ## Conversions -/

def raceInputFromProto (input : ProtoRaceConfigInput) : Except Status RaceConfigInputRecord := do
  let startTime ← match input.startTimeUtc with
    | none => .error ⟨.invalidArgument, "input.start_time_utc is required"⟩
    | some startTime => .ok startTime
  let startPlacementMode ← match input.startPlacementMode with
    | none => .error ⟨.invalidArgument, "invalid start_placement_mode"⟩
    | some mode => .ok mode
  let timeOfDayPreset ← match input.timeOfDayPreset with
    | none => .error ⟨.invalidArgument, "invalid time_of_day_preset"⟩
    | some preset => .ok preset
  if input.raceDurationSec = 0 then
    throw ⟨.invalidArgument, "input.race_duration_sec must be greater than 0"⟩
  let startsAtMs ← timestampToMs startTime
  return ⟨input.raceName, startsAtMs, input.raceDurationSec, input.mapId, startPlacementMode,
    input.pointsMultiplierFixed, timeOfDayPreset⟩

def endsAtMs (startsAtMs : ℤ) (raceDurationSec : ℕ) : Except Status ℤ :=
  match checkedI64 (raceDurationSec * 1000) with
  | none => .error ⟨.outOfRange, "race duration overflow"⟩
  | some durationMs =>
      match checkedI64 (startsAtMs + durationMs) with
      | none => .error ⟨.outOfRange, "race end time overflow"⟩
      | some endsAtMs => .ok endsAtMs

def repoScheduleEntryToDomain (entry : RaceConfigRecord) : Except Status ScheduleEntry := do
  let endsAtMs ← endsAtMs entry.config.startsAtMs entry.config.raceDurationSec
  return ⟨entry.raceId, entry.config.raceName, entry.config.startsAtMs, endsAtMs,
    entry.config.mapId, entry.config.startPlacementMode, entry.config.pointsMultiplierFixed,
    entry.config.timeOfDayPreset⟩

def repoScheduleToDomain : List RaceConfigRecord → Except Status (List ScheduleEntry)
  | [] => .ok []
  | entry :: entries => do
      let entry ← repoScheduleEntryToDomain entry
      let entries ← repoScheduleToDomain entries
      return entry :: entries

def mapDomainErrorToStatus (err : RaceConfigDomainError) : Status := ⟨.invalidArgument, err.text⟩

def validateCandidateSchedule (entries : List RaceConfigRecord) : Except Status Unit :=
  match repoScheduleToDomain entries with
  | .error err => .error err
  | .ok entries =>
      match validateSchedule entries with
      | .error err => .error (mapDomainErrorToStatus err)
      | .ok () => .ok ()

/-! ## Requests -/

def configFromProto (config : Option ProtoRaceConfigInput) : Except Status RaceConfigInputRecord :=
  match config with
  | none => .error ⟨.invalidArgument, "config is required"⟩
  | some config => raceInputFromProto config

/-- The calendar that the request goes by, if it has the revision that the
request expects. -/
def snapshotAt (expectedRevision : ℕ) : AdminCall RaceCalendar := do
  let snapshot ← (AdminOp.races .getSnapshot).call.orFail RaceConfigRepoError.status
  if expectedRevision = snapshot.revision then pure snapshot
  else throw ⟨.failedPrecondition, "race config revision mismatch: expected " ++
    toString expectedRevision ++ ", actual " ++ toString snapshot.revision⟩

def upcomingRaceWindowMs : ℤ := 60 * 60 * 1000

def isWithinUpcomingWindow (startMs nowMs : ℤ) : Bool :=
  nowMs ≤ startMs && startMs ≤ min (nowMs + upcomingRaceWindowMs) i64Max

/-- A change of a race that starts within the window. -/
def invalidatesUpcoming (oldStartMs newStartMs : Option ℤ) (nowMs : ℤ) : Bool :=
  oldStartMs.any (isWithinUpcomingWindow · nowMs) || newStartMs.any (isWithinUpcomingWindow · nowMs)

def invalidateIf (invalidates : Bool) : AdminProg Unit :=
  if invalidates then (AdminOp.menu .invalidateUpcoming).call else pure ()

def invalidateForChange (oldStartMs newStartMs : Option ℤ) : AdminProg Unit := do
  let nowMs ← AdminOp.currentUnixMs.call
  invalidateIf (invalidatesUpcoming oldStartMs newStartMs nowMs)

/-- The identifier is made from the configuration, the revision and the
time. -/
def createRaceConfig (expectedRevision : ℕ) (config : Option ProtoRaceConfigInput) :
    AdminCall AdminResponse := do
  requireAdmin
  let config ← ExceptT.mk (pure (configFromProto config))
  let raceId ← liftM AdminOp.newUuid.call
  let snapshot ← snapshotAt expectedRevision
  let candidate := sortByStartTime (snapshot.value ++ [⟨raceId, config⟩])
  ExceptT.mk (pure (validateCandidateSchedule candidate))
  let revision ← (AdminOp.races (.createConfig expectedRevision ⟨raceId, config⟩)).call.orFail
    RaceConfigRepoError.status
  liftM (invalidateForChange none (some config.startsAtMs))
  return .raceConfig revision raceId

def raceNotFound (raceId : String) : Status := ⟨.notFound, "race config not found: " ++ raceId⟩

/-- The first entry with the id gets the configuration. -/
def replaceConfig (races : List RaceConfigRecord) (raceId : String)
    (config : RaceConfigInputRecord) : List RaceConfigRecord :=
  races.replaceF fun entry => if entry.raceId = raceId then some ⟨entry.raceId, config⟩ else none

def findRace (races : List RaceConfigRecord) (raceId : String) : Except Status RaceConfigRecord :=
  match races.find? fun entry => entry.raceId = raceId with
  | none => .error (raceNotFound raceId)
  | some entry => .ok entry

def requireRaceId (raceId : String) : Except Status Unit :=
  if Text.isBlank raceId then .error ⟨.invalidArgument, "race_id must be non-empty"⟩ else .ok ()

def updateRaceConfig (expectedRevision : ℕ) (raceId : String)
    (config : Option ProtoRaceConfigInput) : AdminCall AdminResponse := do
  requireAdmin
  ExceptT.mk (pure (requireRaceId raceId))
  let config ← ExceptT.mk (pure (configFromProto config))
  let snapshot ← snapshotAt expectedRevision
  let previous ← ExceptT.mk (pure (findRace snapshot.value raceId))
  let candidate := sortByStartTime (replaceConfig snapshot.value raceId config)
  ExceptT.mk (pure (validateCandidateSchedule candidate))
  let revision ← (AdminOp.races (.updateConfig expectedRevision ⟨raceId, config⟩)).call.orFail
    RaceConfigRepoError.status
  liftM (invalidateForChange (some previous.config.startsAtMs) (some config.startsAtMs))
  return .raceConfig revision raceId

def deleteRaceConfig (expectedRevision : ℕ) (raceId : String) : AdminCall AdminResponse := do
  requireAdmin
  ExceptT.mk (pure (requireRaceId raceId))
  let snapshot ← snapshotAt expectedRevision
  let deleted ← ExceptT.mk (pure (findRace snapshot.value raceId))
  let revision ← (AdminOp.races (.deleteConfig expectedRevision raceId)).call.orFail
    RaceConfigRepoError.status
  liftM (invalidateForChange (some deleted.config.startsAtMs) none)
  return .raceConfig revision raceId

inductive RaceConfigRequest where
  | create (expectedRevision : ℕ) (config : Option ProtoRaceConfigInput)
  | update (expectedRevision : ℕ) (raceId : String) (config : Option ProtoRaceConfigInput)
  | delete (expectedRevision : ℕ) (raceId : String)

def RaceConfigRequest.handle : RaceConfigRequest → AdminRequest
  | .create expectedRevision config => (createRaceConfig expectedRevision config).run
  | .update expectedRevision raceId config => (updateRaceConfig expectedRevision raceId config).run
  | .delete expectedRevision raceId => (deleteRaceConfig expectedRevision raceId).run

end HackArena.Admin
