import HackArena.Services.RuntimeStore

/-!
# Calls on the store for one car

Everything the streams, the commands and the frame hub write about a car
that has joined goes through one of these calls. Most of them create the
entry they write to; those that rewrite the identity do not.
-/

namespace HackArena.Services

open Boink HackArena.Runtime

inductive CarCall where
  | lastClientSeq (clientSeq : ℕ)
  | setControlsInput (throttle brake brakeBalancer differentialLock : F32)
  | setPitRequestActive (active : Bool)
  | setNextTireFromFrontend (tireType : RuntimePitTireType)
  | setNextTireFromBot (tireType : RuntimePitTireType)
  | planPitFixTireApply (currentTireType : RuntimePitTireType) (inStationaryFix : Bool)
  | markPitFixTireApplied (tireType : RuntimePitTireType)
  | markBackToTrackApplied (nowMs : ℕ)
  | markEmergencyPitstopRequested (nowMs : ℕ)
  | setActiveBotSlot (slotIndex : ℤ)
  | clearActiveBotSlot
  | setBotSwitchInProgress (inProgress : Bool)
  | updatePitStateFromRuntime (state : VehicleState) (raceMetrics : Option VehicleRaceMetrics)
      (nowMs : ℕ)
  deriving DecidableEq

def CarCall.apply (b : Build) (s : RaceRuntimeStore) (carId : ℕ) : CarCall → RaceRuntimeStore
  | .lastClientSeq clientSeq => { s with lastClientSeq := s.lastClientSeq.insert carId clientSeq }
  | .setControlsInput throttle brake brakeBalancer differentialLock =>
      s.setControlsInput carId throttle brake brakeBalancer differentialLock
  | .setPitRequestActive active => s.setPitRequestActive carId active
  | .setNextTireFromFrontend tireType => s.setNextTireFromFrontend carId tireType
  | .setNextTireFromBot tireType => s.setNextTireFromBot carId tireType
  | .planPitFixTireApply currentTireType inStationaryFix =>
      (s.planPitFixTireApply carId currentTireType inStationaryFix).2
  | .markPitFixTireApplied tireType => s.markPitFixTireApplied carId tireType
  | .markBackToTrackApplied nowMs => s.markBackToTrackApplied carId nowMs
  | .markEmergencyPitstopRequested nowMs => s.markEmergencyPitstopRequested carId nowMs
  | .setActiveBotSlot slotIndex => s.setActiveBotSlot carId slotIndex
  | .clearActiveBotSlot => s.clearActiveBotSlot carId
  | .setBotSwitchInProgress inProgress => s.setBotSwitchInProgress carId inProgress
  | .updatePitStateFromRuntime state raceMetrics nowMs =>
      (s.updatePitStateFromRuntime b carId state raceMetrics nowMs).2

/-! ## Where a call writes -/

/-- The map whose entry a call creates when it is missing; the calls on
the identity create none. -/
inductive CarMap where
  | lastClientSeq | carControlsInput | carPitState
  deriving DecidableEq

def CarCall.creates : CarCall → Option CarMap
  | .lastClientSeq _ => some .lastClientSeq
  | .setControlsInput .. => some .carControlsInput
  | .setActiveBotSlot _ | .clearActiveBotSlot | .setBotSwitchInProgress _ => none
  | _ => some .carPitState

/-- Planning forgets what was applied once the car no longer stands in
the fix zone, and writes nothing new before. -/
theorem planPitFixTireApply_store (s : RaceRuntimeStore) (carId : ℕ)
    (currentTireType : RuntimePitTireType) (inStationaryFix : Bool) :
    (s.planPitFixTireApply carId currentTireType inStationaryFix).2 =
      s.putPitState carId (if inStationaryFix then s.pitState carId else
        { s.pitState carId with
          lastAppliedTyreInCurrentFix := none
          lastAppliedTireRevisionInCurrentFix := none }) := by
  cases inStationaryFix with
  | false => rfl
  | true =>
      rw [RaceRuntimeStore.planPitFixTireApply]
      simp only [Bool.true_eq_false, if_false, if_true]
      split
      · split <;> rfl
      · split <;> rfl

/-- A call writes one entry of its car in one map, or rewrites the
identity. -/
theorem CarCall.apply_cases (b : Build) (s : RaceRuntimeStore) (carId : ℕ) (call : CarCall) :
    (call.creates = some .lastClientSeq ∧ ∃ seq, call.apply b s carId =
        { s with lastClientSeq := s.lastClientSeq.insert carId seq }) ∨
      (call.creates = some .carControlsInput ∧ ∃ input, call.apply b s carId =
        { s with carControlsInput := s.carControlsInput.insert carId input }) ∨
      (call.creates = some .carPitState ∧ ∃ state, call.apply b s carId =
        s.putPitState carId state) ∨
      (call.creates = none ∧ ∃ update, call.apply b s carId = s.modifyIdentity carId update) := by
  cases call with
  | lastClientSeq clientSeq => exact Or.inl ⟨rfl, _, rfl⟩
  | setControlsInput throttle brake brakeBalancer differentialLock =>
      exact Or.inr (Or.inl ⟨rfl, _, rfl⟩)
  | planPitFixTireApply currentTireType inStationaryFix =>
      exact Or.inr (Or.inr (Or.inl ⟨rfl, _, planPitFixTireApply_store ..⟩))
  | setActiveBotSlot slotIndex => exact Or.inr (Or.inr (Or.inr ⟨rfl, _, rfl⟩))
  | clearActiveBotSlot => exact Or.inr (Or.inr (Or.inr ⟨rfl, _, rfl⟩))
  | setBotSwitchInProgress inProgress => exact Or.inr (Or.inr (Or.inr ⟨rfl, _, rfl⟩))
  | _ => exact Or.inr (Or.inr (Or.inl ⟨rfl, _, rfl⟩))

/-! ## Reading back -/

@[simp] theorem pitState_putPitState_self (s : RaceRuntimeStore) (carId : ℕ)
    (state : RuntimePitState) : (s.putPitState carId state).pitState carId = state := by
  simp [RaceRuntimeStore.pitState, RaceRuntimeStore.putPitState]

theorem pitState_putPitState_ne (s : RaceRuntimeStore) {carId other : ℕ} (hne : carId ≠ other)
    (state : RuntimePitState) : (s.putPitState other state).pitState carId = s.pitState carId := by
  simp [RaceRuntimeStore.pitState, RaceRuntimeStore.putPitState,
    Finmap.lookup_insert_of_ne _ hne]

/-- A rewritten identity, and everything else as it was. -/
theorem modifyIdentity_eq (s : RaceRuntimeStore) (carId : ℕ)
    (update : RuntimeCarIdentity → RuntimeCarIdentity) :
    ∃ identity, s.modifyIdentity carId update = { s with carIdentity := identity } ∧
      ∀ other, identity.lookup other = if other = carId
        then (s.carIdentity.lookup other).map update else s.carIdentity.lookup other := by
  rw [RaceRuntimeStore.modifyIdentity]
  split
  · rename_i hnone
    refine ⟨s.carIdentity, rfl, fun other => ?_⟩
    split
    · rename_i heq
      rw [heq, hnone]
      rfl
    · rfl
  · rename_i identity hsome
    refine ⟨_, rfl, fun other => ?_⟩
    rw [HashMap.lookup_insert_eq]
    split
    · rename_i heq
      rw [heq, hsome]
      rfl
    · rfl

@[simp] theorem modifyIdentity_pitState (s : RaceRuntimeStore) (carId other : ℕ)
    (update : RuntimeCarIdentity → RuntimeCarIdentity) :
    (s.modifyIdentity carId update).pitState other = s.pitState other := by
  obtain ⟨identity, heq, -⟩ := modifyIdentity_eq s carId update
  rw [heq]
  rfl

theorem modifyIdentity_lookup (s : RaceRuntimeStore) (carId : ℕ)
    (update : RuntimeCarIdentity → RuntimeCarIdentity) :
    (s.modifyIdentity carId update).carIdentity.lookup carId =
      (s.carIdentity.lookup carId).map update := by
  obtain ⟨identity, heq, hlookup⟩ := modifyIdentity_eq s carId update
  rw [heq, hlookup, if_pos rfl]

/-- No call registers or numbers a car. -/
theorem CarCall.apply_registry (b : Build) (s : RaceRuntimeStore) (carId : ℕ) (call : CarCall) :
    (call.apply b s carId).nextPublicCarId = s.nextPublicCarId ∧
      (call.apply b s carId).knownCars = s.knownCars ∧
      (call.apply b s carId).carTargets = s.carTargets := by
  rcases call.apply_cases b s carId with ⟨-, seq, heq⟩ | ⟨-, input, heq⟩ | ⟨-, state, heq⟩ |
    ⟨-, update, heq⟩ <;> rw [heq]
  · exact ⟨rfl, rfl, rfl⟩
  · exact ⟨rfl, rfl, rfl⟩
  · exact ⟨rfl, rfl, rfl⟩
  · obtain ⟨identity, heq, -⟩ := modifyIdentity_eq s carId update
    rw [heq]
    exact ⟨rfl, rfl, rfl⟩

/-- A call for another car leaves the pit state and the identity. -/
theorem CarCall.apply_other (b : Build) (s : RaceRuntimeStore) {carId other : ℕ}
    (hne : carId ≠ other) (call : CarCall) :
    (call.apply b s other).pitState carId = s.pitState carId ∧
      (call.apply b s other).carIdentity.lookup carId = s.carIdentity.lookup carId := by
  rcases call.apply_cases b s other with ⟨-, seq, heq⟩ | ⟨-, input, heq⟩ | ⟨-, state, heq⟩ |
    ⟨-, update, heq⟩ <;> rw [heq]
  · exact ⟨rfl, rfl⟩
  · exact ⟨rfl, rfl⟩
  · exact ⟨pitState_putPitState_ne s hne state, rfl⟩
  · obtain ⟨identity, heq, hlookup⟩ := modifyIdentity_eq s other update
    rw [modifyIdentity_pitState, heq, hlookup, if_neg hne]
    exact ⟨rfl, rfl⟩

/-- A car at rest on the hard tyres, with the given zones. -/
def restingCar (zoneMask : ℕ) : VehicleState :=
  ⟨1, ⟨0, 0, 0⟩, .identity, 0, 0, .neutral, 0, 0, .replicate 4 0, .replicate 2 0, .replicate 4 1,
    .replicate 4 80, .replicate 4 0, .hard, .default, ⟨zoneMask, 4⟩⟩

end HackArena.Services
