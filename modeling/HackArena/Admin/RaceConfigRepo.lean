import HackArena.Domain.RaceConfig
import HackArena.Lib.Versioned
import HackArena.Services.Status
import Mathlib.Data.List.Sort

/-!
# The repository of race configurations

Each operation is one transaction: it is refused and leaves everything as
it was, or it is committed with a revision that is larger by one.
-/

namespace HackArena.Admin

open Boink Domain.RaceConfig Services

/-- The range of an `i64`. -/
def i64Min : ℤ := -2 ^ 63

def i64Max : ℤ := 2 ^ 63 - 1

/-- The result of a checked operation on `i64`. -/
def checkedI64 (n : ℤ) : Option ℤ := if i64Min ≤ n ∧ n ≤ i64Max then some n else none

theorem eq_of_checkedI64 {n m : ℤ} (h : checkedI64 n = some m) : m = n := by
  unfold checkedI64 at h
  split at h
  · exact (Option.some.inj h).symm
  · cases h

structure RaceConfigInputRecord where
  raceName : String
  startsAtMs : ℤ
  raceDurationSec : ℕ
  mapId : String
  startPlacementMode : StartPlacementMode
  pointsMultiplierFixed : Option F32
  timeOfDayPreset : RaceTimeOfDayPreset
  deriving DecidableEq

structure RaceConfigRecord where
  raceId : String
  config : RaceConfigInputRecord
  deriving DecidableEq

inductive RaceConfigRepoError where
  | sqlx (message : String)
  | stateMissing
  | revisionMismatch (expected actual : ℕ)
  | alreadyExists (raceId : String)
  | notFound (raceId : String)
  | invalidStartPlacementMode
  | invalidTimeOfDayPreset
  | numericOutOfRange (raceId field : String)
  | revisionOverflow
  deriving DecidableEq, Repr

def RaceConfigRepoError.text : RaceConfigRepoError → String
  | .sqlx message => message
  | .stateMissing => "race config state row is missing"
  | .revisionMismatch expected actual =>
      "revision mismatch: expected " ++ toString expected ++ ", actual " ++ toString actual
  | .alreadyExists raceId => "race config already exists: " ++ raceId
  | .notFound raceId => "race config not found: " ++ raceId
  | .invalidStartPlacementMode => "start_placement_mode must be specified"
  | .invalidTimeOfDayPreset => "time_of_day_preset must be specified"
  | .numericOutOfRange raceId field =>
      "persisted numeric value is out of range for race: " ++ raceId ++ " (" ++ field ++ ")"
  | .revisionOverflow => "revision overflow"

def RaceConfigRepoError.code : RaceConfigRepoError → Code
  | .revisionMismatch .. => .failedPrecondition
  | .alreadyExists _ => .alreadyExists
  | .notFound _ => .notFound
  | .invalidStartPlacementMode | .invalidTimeOfDayPreset => .invalidArgument
  | .sqlx _ | .stateMissing | .numericOutOfRange .. | .revisionOverflow => .internal

def RaceConfigRepoError.status (err : RaceConfigRepoError) : Status := ⟨err.code, err.text⟩

/-- The table with its revision. -/
abbrev RaceCalendar := Versioned (List RaceConfigRecord)

/-- Ordered by start and id. -/
def StartsBefore (a b : RaceConfigRecord) : Prop :=
  a.config.startsAtMs < b.config.startsAtMs ∨
    a.config.startsAtMs = b.config.startsAtMs ∧ a.raceId ≤ b.raceId

instance : DecidableRel StartsBefore := fun _ _ => inferInstanceAs (Decidable (_ ∨ _ ∧ _))

def sortByStartTime (races : List RaceConfigRecord) : List RaceConfigRecord :=
  races.insertionSort StartsBefore

def computeEndsAtMs (startsAtMs : ℤ) (raceDurationSec : ℕ) (raceId : String) :
    Except RaceConfigRepoError ℤ :=
  match checkedI64 (raceDurationSec * 1000) with
  | none => .error (.numericOutOfRange raceId "race_duration_sec")
  | some durationMs =>
      match checkedI64 (startsAtMs + durationMs) with
      | none => .error (.numericOutOfRange raceId "ends_at_ms")
      | some endsAtMs => .ok endsAtMs

/-- What is checked of a row before it is written. -/
def checkRow (race : RaceConfigRecord) : Except RaceConfigRepoError Unit :=
  if race.config.startPlacementMode = .unspecified then .error .invalidStartPlacementMode
  else if race.config.timeOfDayPreset = .unspecified then .error .invalidTimeOfDayPreset
  else if 2 ^ 31 ≤ race.config.raceDurationSec then
    .error (.numericOutOfRange race.raceId "race_duration_sec")
  else (computeEndsAtMs race.config.startsAtMs race.config.raceDurationSec race.raceId).map
    fun _ => ()

abbrev RowsResult := Except RaceConfigRepoError (List RaceConfigRecord)

def insertRow (race : RaceConfigRecord) (races : List RaceConfigRecord) : RowsResult :=
  if races.any fun entry => entry.raceId = race.raceId then .error (.alreadyExists race.raceId)
  else (checkRow race).map fun _ => races ++ [race]

def replaceRow (race : RaceConfigRecord) (races : List RaceConfigRecord) : RowsResult :=
  if races.any fun entry => entry.raceId = race.raceId then
    (checkRow race).map fun _ =>
      races.map fun entry => if entry.raceId = race.raceId then race else entry
  else .error (.notFound race.raceId)

def deleteRow (raceId : String) (races : List RaceConfigRecord) : RowsResult :=
  if races.any fun entry => entry.raceId = raceId then
    .ok (races.filter fun entry => entry.raceId ≠ raceId)
  else .error (.notFound raceId)

namespace RaceCalendar

/-- A change of the rows in one transaction. -/
def transact (c : RaceCalendar) (expectedRevision : ℕ)
    (f : List RaceConfigRecord → RowsResult) : RaceCalendar × Except RaceConfigRepoError ℕ :=
  c.change i64Max.toNat expectedRevision (.revisionMismatch expectedRevision c.revision)
    .revisionOverflow f

def getSnapshot (c : RaceCalendar) : RaceCalendar := ⟨c.revision, sortByStartTime c.value⟩

def createConfig (c : RaceCalendar) (expectedRevision : ℕ) (race : RaceConfigRecord) :
    RaceCalendar × Except RaceConfigRepoError ℕ := c.transact expectedRevision (insertRow race)

def updateConfig (c : RaceCalendar) (expectedRevision : ℕ) (race : RaceConfigRecord) :
    RaceCalendar × Except RaceConfigRepoError ℕ := c.transact expectedRevision (replaceRow race)

def deleteConfig (c : RaceCalendar) (expectedRevision : ℕ) (raceId : String) :
    RaceCalendar × Except RaceConfigRepoError ℕ := c.transact expectedRevision (deleteRow raceId)

end RaceCalendar

end HackArena.Admin
