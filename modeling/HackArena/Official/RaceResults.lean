import HackArena.Lib.FileStore
import HackArena.Official.RaceLauncher

/-!
# The results of the official race

A recorder keeps the results of a race from its preparation to its end. On
every tick of the launcher it takes over what the latest frame shows of the
cars, and about once a second it writes the results to a file of the session
and to a file that always has the latest results. Each file is written beside
its place and then moved there.
-/

namespace HackArena.Official.RaceResults

open Boink HackArena.Runtime HackArena.Services

/-! ## Results -/

structure ResultEntry extends OfficialRaceTeamResultEntry where
  completedLaps : ℕ
  currentLapDistanceM : Option F32
  totalDistanceM : Option F32
  lastLapTimeMs : Option ℕ
  bestLapTimeMs : Option ℕ
  lapTimesMs : List ℕ
  hasStartedMoving : Bool
  lastRecordedCompletedLaps : ℕ
  initialLapProgressM : Option F32
  deriving DecidableEq, Repr

/-- The entry of a team when it has been launched. -/
def ResultEntry.launched (entry : OfficialRaceTeamResultEntry) : ResultEntry :=
  { entry with
    completedLaps := 0
    currentLapDistanceM := none
    totalDistanceM := none
    lastLapTimeMs := none
    bestLapTimeMs := none
    lapTimesMs := []
    hasStartedMoving := false
    lastRecordedCompletedLaps := 0
    initialLapProgressM := none }

structure OfficialRaceResultsFile where
  sessionId : String
  raceId : String
  raceName : String
  mapId : String
  startedAtUnixMs : ℕ
  finalizedAtUnixMs : Option ℕ
  status : String
  teams : List ResultEntry
  deriving DecidableEq, Repr

/-- What a frame shows of a car of the race: its metrics and best lap. -/
def raceCar (frame : RuntimeFrame) (carId : Option ℕ) : Option (VehicleRaceMetrics × Option ℕ) := do
  let carFrame ← frame.cars.lookup (← carId)
  if carFrame.target = .officialRace then
    let metrics ← carFrame.raceMetrics
    pure (metrics, carFrame.bestLapTimeMs)
  else none

/-- An entry, with what a frame shows of its car. -/
def ResultEntry.show (team : ResultEntry) (lapLengthM : F32) (metrics : VehicleRaceMetrics)
    (bestLapTimeMs : Option ℕ) : ResultEntry :=
  let lapProgressM := max metrics.lapProgressM 0
  let baseline := team.initialLapProgressM.getD lapProgressM
  let hasStartedMoving := team.hasStartedMoving || decide (0 < metrics.completedLaps) ||
    decide (1 < |lapProgressM - baseline|)
  let newLap := team.lastRecordedCompletedLaps < metrics.completedLaps
  { team with
    completedLaps := metrics.completedLaps
    initialLapProgressM := some baseline
    hasStartedMoving
    currentLapDistanceM := if hasStartedMoving then some lapProgressM else none
    totalDistanceM :=
      if hasStartedMoving then some (metrics.completedLaps * lapLengthM + lapProgressM) else none
    lastLapTimeMs := metrics.lastLapTimeMs
    bestLapTimeMs
    lapTimesMs :=
      if newLap then team.lapTimesMs ++ metrics.lastLapTimeMs.toList else team.lapTimesMs
    lastRecordedCompletedLaps :=
      if newLap then metrics.completedLaps else team.lastRecordedCompletedLaps }

def ResultEntry.refresh (team : ResultEntry) (frame : RuntimeFrame) : ResultEntry :=
  match raceCar frame team.outcome.carId with
  | none => team
  | some (metrics, bestLapTimeMs) =>
      team.show (max (frame.officialLapLengthM.getD 0) 0) metrics bestLapTimeMs

/-! ## Files -/

/-- A file in the directory of the results. -/
structure ResultPath where
  stem : String
  extension : String
  deriving DecidableEq, Repr

def ResultPath.json (stem : String) : ResultPath := ⟨stem, "json"⟩

def ResultPath.withExtension (path : ResultPath) (extension : String) : ResultPath :=
  { path with extension }

def ResultPath.display (resultsDir : String) (path : ResultPath) : String :=
  resultsDir ++ "/" ++ path.stem ++ "." ++ path.extension

inductive ResultsOp where
  | currentUnixMs
  | latestFrame
  | createDirAll
  | create (path : ResultPath)
  | write (path : ResultPath) (chunk : List UInt8)
  | rename (source target : ResultPath)
  | tryExists (path : ResultPath)
  | removeFile (path : ResultPath)

abbrev ResultsOp.Answer : ResultsOp → Type
  | .currentUnixMs => ℕ
  | .latestFrame => RuntimeFrame
  | .write .. => Except String ℕ
  | .tryExists _ => Except String Bool
  | _ => Except String Unit

/-- The time, the latest frame, whether a file call fails and how much of a
chunk is written. -/
structure ResultsInput where
  nowMs : ℕ
  frame : RuntimeFrame
  fails : Bool
  message : String
  count : ℕ

abbrev ResultsDisk := FileStore.Disk ResultPath

def resultsExec (d : ResultsDisk) (op : ResultsOp) (i : ResultsInput) : ResultsDisk × op.Answer :=
  match op with
  | .currentUnixMs => (d, i.nowMs)
  | .latestFrame => (d, i.frame)
  | .createDirAll => (d, if i.fails then .error i.message else .ok ())
  | .create path =>
      if i.fails then (d, .error i.message) else (d.create path i.nowMs, .ok ())
  | .write path chunk =>
      if i.fails then (d, .error i.message)
      else
        let written := chunk.take (max 1 i.count)
        (d.append path written i.nowMs, .ok written.length)
  | .rename source target =>
      if i.fails || (d.current source).isNone then (d, .error i.message)
      else (d.rename source target, .ok ())
  | .tryExists path => (d, if i.fails then .error i.message else .ok (d.current path).isSome)
  | .removeFile path =>
      if i.fails || (d.current path).isNone then (d, .error i.message)
      else (d.remove path, .ok ())

abbrev ResultsProg := Prog ResultsOp ResultsOp.Answer
abbrev ResultsCall := ExceptT String ResultsProg
abbrev ResultsOp.call (op : ResultsOp) : ResultsProg op.Answer := Prog.perform op

/-- Writes the rest of the bytes, in as many calls as it takes. -/
def writeAll (path : ResultPath) (raw : List UInt8) :
    (calls offset : ℕ) → ResultsProg (Except String Unit)
  | 0, _ => pure (.ok ())
  | calls + 1, offset =>
      if raw.length ≤ offset then pure (.ok ())
      else do
        match ← (ResultsOp.write path (raw.drop offset)).call with
        | .error message => pure (.error message)
        | .ok 0 => pure (.error "failed to write whole buffer")
        | .ok count => writeAll path raw calls (offset + count)

/-- `fs::write`. -/
def writeFile (path : ResultPath) (raw : List UInt8) : ResultsCall Unit := do
  (ResultsOp.create path).call.orFail id
  (writeAll path raw raw.length 0).orFail id

/-- The directory and the encoder of the results. -/
structure ResultsEnv where
  resultsDir : String
  encode : OfficialRaceResultsFile → Except String (List UInt8)

variable (env : ResultsEnv)

/-- What is tried when the file cannot be moved to its place. -/
def replaceFile (path : ResultPath) (initialErr : String) : ResultsProg (Except String Unit) := do
  let tmpPath := path.withExtension "tmp"
  let found ← (ResultsOp.tryExists path).call
  if found.toOption.getD false then do
    let _ ← (ResultsOp.removeFile path).call
    match ← (ResultsOp.rename tmpPath path).call with
    | .ok () => pure (.ok ())
    | .error replaceErr =>
        pure (.error ("failed to atomically replace race results JSON " ++
          path.display env.resultsDir ++ " (initial: " ++ initialErr ++ ", replace: " ++
          replaceErr ++ ")"))
  else do
    let _ ← (ResultsOp.removeFile tmpPath).call
    pure (.error ("failed to finalize race results JSON " ++ path.display env.resultsDir ++ ": " ++
      initialErr))

/-- The last step of a write. -/
def moveFile (path : ResultPath) : ResultsProg (Except String Unit) := do
  match ← (ResultsOp.rename (path.withExtension "tmp") path).call with
  | .ok () => pure (.ok ())
  | .error initialErr => replaceFile env path initialErr

def writeJsonAtomic (path : ResultPath) (payload : List UInt8) : ResultsCall Unit := do
  ResultsOp.createDirAll.call.orFail id
  writeFile (path.withExtension "tmp") payload
  ExceptT.mk (moveFile env path)

/-! ## The recorder -/

/-- A race that has been launched. -/
structure Session where
  raceConfig : RaceConfigRecord
  teams : List OfficialRaceTeamResultEntry
  deriving DecidableEq, Repr

def sessionIdOf (nowMs : ℕ) (raceId : String) : String :=
  toString nowMs ++ "_" ++ String.ofList (raceId.toList.map fun ch =>
    if Text.isAsciiAlphanumeric ch || ch == '-' || ch == '_' then ch else '_')

structure Recorder where
  sessionFile : ResultPath
  nextWriteAfterMs : ℕ
  data : OfficialRaceResultsFile
  deriving DecidableEq, Repr

def latestFile : ResultPath := .json "latest"

def Recorder.new (s : Session) (nowMs : ℕ) : Recorder where
  sessionFile := .json (sessionIdOf nowMs s.raceConfig.raceId)
  nextWriteAfterMs := nowMs
  data :=
    { sessionId := sessionIdOf nowMs s.raceConfig.raceId
      raceId := s.raceConfig.raceId
      raceName := s.raceConfig.raceName
      mapId := s.raceConfig.mapId
      startedAtUnixMs := nowMs
      finalizedAtUnixMs := none
      status := "running"
      teams := s.teams.map .launched }

def Recorder.refreshFromRuntime (r : Recorder) (frame : RuntimeFrame) : Recorder :=
  { r with data := { r.data with teams := r.data.teams.map (·.refresh frame) } }

def writeSnapshot (r : Recorder) : ResultsCall Unit := do
  let payload ← ExceptT.mk (pure (env.encode r.data))
  writeJsonAtomic env r.sessionFile payload
  writeJsonAtomic env latestFile payload

/-- A snapshot that cannot be written is passed over. -/
def tick (r : Recorder) : ResultsProg Recorder := do
  let frame ← ResultsOp.latestFrame.call
  let r := r.refreshFromRuntime frame
  let nowMs ← ResultsOp.currentUnixMs.call
  if r.nextWriteAfterMs ≤ nowMs then do
    let r := { r with nextWriteAfterMs := saturatingAdd nowMs 1000 }
    let _ ← (writeSnapshot env r).run
    pure r
  else pure r

def ticks (r : Recorder) : ℕ → ResultsProg Recorder
  | 0 => pure r
  | n + 1 => do ticks (← tick env r) n

def finalizeResults (r : Recorder) : ResultsProg Unit := do
  let nowMs ← ResultsOp.currentUnixMs.call
  let _ ← (writeSnapshot env { r with data :=
    { r.data with status := "finalized", finalizedAtUnixMs := some nowMs } }).run
  pure ()

/-- A recorder from its first snapshot, which has to succeed, over its ticks to
its last. -/
def recordSession (s : Session) (n : ℕ) : ResultsProg Unit := do
  let preparedAtMs ← ResultsOp.currentUnixMs.call
  let r := Recorder.new s preparedAtMs
  match ← (writeSnapshot env r).run with
  | .error _ => pure ()
  | .ok () => do finalizeResults env (← ticks env r n)

end HackArena.Official.RaceResults
