import HackArena.Runtime.EngineWorker

/-!
# A concrete engine

An engine cut down to the vehicles it owns: it numbers them from one,
never reuses a number, and answers "not found" for any other. Concrete
runs of the worker are evaluated with it.
-/

namespace HackArena.Runtime

open Boink

structure CarWorld where
  issued : ℕ
  cars : List ℕ
  deriving DecidableEq, Repr

def CarWorld.fresh : CarWorld := ⟨0, []⟩

/-- A call about one vehicle. -/
def CarWorld.onCar {R : Type} (carId : ℕ) (f : CarWorld → CarWorld) (answer : R) :
    Call CarWorld R := fun e =>
  if carId ∈ e.cars then (f e, .ok answer) else (e, .error .notFound)

def CarWorld.parked (carId : ℕ) : VehicleState :=
  ⟨carId, ⟨0, 0, 0⟩, .identity, 0, 0, .neutral, 0, 0, .replicate 4 0, .replicate 2 0,
    .replicate 4 1, .replicate 4 20, .replicate 4 0, .hard, .default, ⟨0, 0⟩⟩

def CarWorld.api : Api CarWorld where
  step := id
  spawnVehicle := fun e => (⟨e.issued + 1, e.cars ++ [e.issued + 1]⟩, .ok (e.issued + 1))
  despawnVehicle := fun carId =>
    CarWorld.onCar carId (fun e => { e with cars := e.cars.erase carId }) ()
  setControls := fun carId controls => CarWorld.onCar carId id ⟨controls.gearShift⟩
  readVehicleState := fun carId => CarWorld.onCar carId id (CarWorld.parked carId)
  readVehicleRaceMetrics := fun carId => CarWorld.onCar carId id .default
  getVehicleDimensions := fun carId => CarWorld.onCar carId id (2, 5)
  setVehicleBackToTrack := fun carId => CarWorld.onCar carId id ()
  setVehicleBeforeFinishLine := fun carId => CarWorld.onCar carId id ()
  setVehicleRandomPos := fun carId => CarWorld.onCar carId id ()
  setVehicleAtStartPos := fun carId _ => CarWorld.onCar carId id ()
  setVehicleToPitstop := fun carId => CarWorld.onCar carId id ()
  setVehicleTyreType := fun carId _ => CarWorld.onCar carId id ()
  forceSetVehicleTyreType := fun carId _ => CarWorld.onCar carId id ()
  getNumberOfStartPos := fun e => (e, .ok 10)
  trackData := fun e => (e, .ok ⟨"test", 1000⟩)
  raceDuration := fun e => (e, .ok 600)
  setGhostModeSettings := fun _ e => (e, .ok ())
  setWeather := fun _ e => (e, .ok ())

/-- Every map loads. -/
def CarWorld.env : EngineEnv CarWorld := ⟨CarWorld.api, fun _ => .ok CarWorld.fresh⟩

end HackArena.Runtime
