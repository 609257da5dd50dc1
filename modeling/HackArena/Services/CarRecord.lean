import HackArena.Services.ServiceCalls

/-!
# The record of a car

The store spreads over many maps what it has of a car. The entries under
one number make up the record of that car. A call for one car writes its
record and leaves those of the others.
-/

namespace HackArena.Services

open Boink HackArena.Runtime

structure CarRecord where
  known : Prop
  lastClientSeq : Option ℕ
  owner : Option String
  engineId : Option ℕ
  target : Option EngineCommandTarget
  identity : Option RuntimeCarIdentity
  pitState : Option RuntimePitState
  controlsInput : Option RuntimeControlInputSnapshot

/-- No map has an entry. -/
def CarRecord.empty : CarRecord := ⟨False, none, none, none, none, none, none, none⟩

def RaceRuntimeStore.record (s : RaceRuntimeStore) (carId : ℕ) : CarRecord where
  known := carId ∈ s.knownCars
  lastClientSeq := s.lastClientSeq.lookup carId
  owner := s.carOwners.lookup carId
  engineId := s.carEngineIds.lookup carId
  target := s.carTargets.lookup carId
  identity := s.carIdentity.lookup carId
  pitState := s.carPitState.lookup carId
  controlsInput := s.carControlsInput.lookup carId

/-- What an insertion makes of the record. The instances are kept apart
from it. -/
def CarEntry.write (r : CarRecord) : CarEntry → CarRecord
  | .instanceCar _ => r
  | .carOwner uuid => { r with owner := some uuid }
  | .identity value => { r with identity := some value }
  | .known => { r with known := True }
  | .lastClientSeq => { r with lastClientSeq := some 0 }
  | .engineId engineCarId => { r with engineId := some engineCarId }
  | .target value => { r with target := some value }

variable {carId other : ℕ}

@[simp] theorem record_insert_self (s : RaceRuntimeStore) (carId : ℕ) (entry : CarEntry) :
    (entry.insert s carId).record carId = entry.write (s.record carId) := by
  cases entry <;> simp [CarEntry.insert, CarEntry.write, RaceRuntimeStore.record]

theorem record_insert_ne (s : RaceRuntimeStore) (hne : carId ≠ other) (entry : CarEntry) :
    (entry.insert s other).record carId = s.record carId := by
  cases entry <;> simp [CarEntry.insert, RaceRuntimeStore.record, hne, Finmap.lookup_insert_of_ne]

@[simp] theorem record_removeCar_self (s : RaceRuntimeStore) (carId : ℕ) :
    (s.removeCar carId).record carId = .empty := by
  rw [removeCar_eq]
  simp [RaceRuntimeStore.record, CarRecord.empty]

theorem record_removeCar_ne (s : RaceRuntimeStore) (hne : carId ≠ other) :
    (s.removeCar other).record carId = s.record carId := by
  rw [removeCar_eq]
  simp [RaceRuntimeStore.record, hne, Finmap.lookup_erase_ne]

@[simp] theorem record_modifyIdentity_self (s : RaceRuntimeStore) (carId : ℕ)
    (update : RuntimeCarIdentity → RuntimeCarIdentity) :
    (s.modifyIdentity carId update).record carId =
      { s.record carId with identity := (s.record carId).identity.map update } := by
  obtain ⟨identity, heq, hlookup⟩ := modifyIdentity_eq s carId update
  have hself := hlookup carId
  rw [if_pos rfl] at hself
  simp only [heq, RaceRuntimeStore.record, hself]

theorem record_car_ne (b : Build) (s : RaceRuntimeStore) (hne : carId ≠ other) (call : CarCall) :
    (call.apply b s other).record carId = s.record carId := by
  rcases call.apply_cases b s other with ⟨-, seq, heq⟩ | ⟨-, input, heq⟩ | ⟨-, state, heq⟩ |
    ⟨-, update, heq⟩ <;> rw [heq]
  · simp [RaceRuntimeStore.record, hne, Finmap.lookup_insert_of_ne]
  · simp [RaceRuntimeStore.record, hne, Finmap.lookup_insert_of_ne]
  · simp [RaceRuntimeStore.record, RaceRuntimeStore.putPitState, hne, Finmap.lookup_insert_of_ne]
  · obtain ⟨identity, heq, hlookup⟩ := modifyIdentity_eq s other update
    simp only [heq, RaceRuntimeStore.record, hlookup, if_neg hne]

@[simp] theorem record_allocatePublicCarId (s : RaceRuntimeStore) (carId : ℕ) :
    s.allocatePublicCarId.2.record carId = s.record carId := rfl

/-! ## The next number -/

@[simp] theorem nextPublicCarId_insert (s : RaceRuntimeStore) (carId : ℕ) (entry : CarEntry) :
    (entry.insert s carId).nextPublicCarId = s.nextPublicCarId := by
  cases entry <;> rfl

@[simp] theorem nextPublicCarId_removeCar (s : RaceRuntimeStore) (carId : ℕ) :
    (s.removeCar carId).nextPublicCarId = s.nextPublicCarId := by
  rw [removeCar_eq]

@[simp] theorem nextPublicCarId_car (b : Build) (s : RaceRuntimeStore) (carId : ℕ)
    (call : CarCall) : (call.apply b s carId).nextPublicCarId = s.nextPublicCarId := by
  rcases call.apply_cases b s carId with ⟨-, seq, heq⟩ | ⟨-, input, heq⟩ | ⟨-, state, heq⟩ |
    ⟨-, update, heq⟩ <;> rw [heq]
  · rfl
  · obtain ⟨identity, heq, -⟩ := modifyIdentity_eq s carId update
    rw [heq]

end HackArena.Services
