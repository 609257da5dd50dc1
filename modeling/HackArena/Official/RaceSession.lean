import HackArena.Official.Input
import HackArena.Services.ServiceCalls

/-!
# The race session in the runtime store

The store keeps a few values of the official race beside the tables of
cars: whether it has started, when, for how long, and what the public may
know of it. The launcher writes them, and everybody reads them.
-/

namespace HackArena.Official

open Boink HackArena.Runtime HackArena.Services

structure OfficialRacePublicStateSnapshot where
  raceName : String
  mapId : String
  preparedAtMs : ℕ
  deriving DecidableEq, Repr

structure OfficialRaceSession where
  started : Bool
  startedAtMs : ℕ
  durationSec : ℕ
  publicState : Option OfficialRacePublicStateSnapshot
  deriving DecidableEq, Repr

namespace OfficialRaceSession

def cleared : OfficialRaceSession := ⟨false, 0, 0, none⟩

def prepared (raceName mapId : String) (raceDurationSec preparedAtMs : ℕ) : OfficialRaceSession :=
  ⟨false, 0, raceDurationSec, some ⟨raceName, mapId, preparedAtMs⟩⟩

def markStarted (s : OfficialRaceSession) (startedAtMs : ℕ) : OfficialRaceSession :=
  { s with started := true, startedAtMs := startedAtMs }

/-- The remaining milliseconds as an `f32`, in seconds. -/
def remainingSec (s : OfficialRaceSession) (nowMs : ℕ) : Option F32 :=
  if s.started = false then none
  else if s.startedAtMs = 0 ∨ s.durationSec = 0 then none
  else
    let endMs := saturatingAdd s.startedAtMs (min (s.durationSec * 1000) u64Max)
    some (((endMs - nowMs : ℕ) : F32) / 1000)

end OfficialRaceSession

/-- A car with its engine id and its place on the grid. -/
structure GridCar where
  publicCarId : ℕ
  engineCarId : ℕ
  startPositionIndex : ℕ
  deriving DecidableEq, Repr

inductive StoreOp where
  | clearOfficialRaceSession
  | setOfficialRacePrepared (raceName mapId : String) (raceDurationSec preparedAtMs : ℕ)
  | markOfficialRaceStarted (startedAtMs : ℕ)
  | isOfficialRaceStarted
  | officialRaceRemainingSec (nowMs : ℕ)
  | allocatePublicCarId
  | insert (carId : ℕ) (entry : CarEntry)
  | car (carId : ℕ) (call : CarCall)
  | removeCar (carId : ℕ)
  | carTarget (carId : ℕ)
  | carEngineId (carId : ℕ)
  | carIdentity (carId : ℕ)
  | knownCarIds
  | isInStationaryFix (carId : ℕ)
  | officialRaceCars
  | officialRaceGrid

abbrev StoreOp.Answer : StoreOp → Type
  | .isOfficialRaceStarted | .isInStationaryFix _ => Bool
  | .officialRaceRemainingSec _ => Option F32
  | .allocatePublicCarId => ℕ
  | .carTarget _ => Option EngineCommandTarget
  | .carEngineId _ => Option ℕ
  | .carIdentity _ => Option RuntimeCarIdentity
  | .knownCarIds | .officialRaceCars => List ℕ
  | .officialRaceGrid => List GridCar
  | .clearOfficialRaceSession | .setOfficialRacePrepared .. | .markOfficialRaceStarted _
  | .insert .. | .car .. | .removeCar _ => Unit

structure RaceStore where
  session : OfficialRaceSession
  cars : RaceRuntimeStore

namespace RaceStore

variable (s : RaceStore)

/-- The cars whose target is the official race. -/
def officialRaceCars : List ℕ :=
  (s.cars.carTargets.toList.filter fun e => e.2 = .officialRace).map Prod.fst

def gridCar (carId : ℕ) : Option GridCar := do
  let engineCarId ← s.cars.carEngineIds.lookup carId
  let identity ← s.cars.carIdentity.lookup carId
  let startPositionIndex ← identity.officialRaceStartPositionIndex
  return ⟨carId, engineCarId, startPositionIndex⟩

def exec : (op : StoreOp) → RaceStore × op.Answer
  | .clearOfficialRaceSession => ({ s with session := .cleared }, ())
  | .setOfficialRacePrepared raceName mapId raceDurationSec preparedAtMs =>
      ({ s with session := .prepared raceName mapId raceDurationSec preparedAtMs }, ())
  | .markOfficialRaceStarted startedAtMs =>
      ({ s with session := s.session.markStarted startedAtMs }, ())
  | .isOfficialRaceStarted => (s, s.session.started)
  | .officialRaceRemainingSec nowMs => (s, s.session.remainingSec nowMs)
  | .allocatePublicCarId =>
      let r := s.cars.allocatePublicCarId
      ({ s with cars := r.2 }, r.1)
  | .insert carId entry => ({ s with cars := entry.insert s.cars carId }, ())
  | .car carId call => ({ s with cars := call.apply .official s.cars carId }, ())
  | .removeCar carId => ({ s with cars := s.cars.removeCar carId }, ())
  | .carTarget carId => (s, s.cars.carTargets.lookup carId)
  | .carEngineId carId => (s, s.cars.carEngineIds.lookup carId)
  | .carIdentity carId => (s, s.cars.carIdentity.lookup carId)
  | .knownCarIds => (s, s.cars.knownCarIds)
  | .isInStationaryFix carId => (s, (s.cars.pitState carId).inStationaryFix)
  | .officialRaceCars => (s, s.officialRaceCars)
  | .officialRaceGrid => (s, s.officialRaceCars.filterMap s.gridCar)

end RaceStore

end HackArena.Official
