import HackArena.Runtime.WorkerTransition

/-!
# The client side of world commands

Each method of `EngineClient` sends one command and awaits its answer.
Run against the worker it is a call on the addressed world.
-/

namespace HackArena.Runtime

open Boink

variable {E : Type}

/-- Run one engine call on the world of a target. -/
def callIn {R : Type} (w : Worker E) (target : EngineCommandTarget) (call : Call E R) :
    Outcome E R :=
  withTargetSlotMut target w (callEngine call id)

def readCarStateIn (env : EngineEnv E) (w : Worker E) (target : EngineCommandTarget)
    (carId : ℕ) : Outcome E VehicleState := callIn w target (env.api.readVehicleState carId)

def readCarRaceMetricsIn (env : EngineEnv E) (w : Worker E) (target : EngineCommandTarget)
    (carId : ℕ) : Outcome E VehicleRaceMetrics :=
  callIn w target (env.api.readVehicleRaceMetrics carId)

def setControlsIn (env : EngineEnv E) (w : Worker E) (target : EngineCommandTarget)
    (carId : ℕ) (controls : Controls) : Outcome E AcceptedControls :=
  callIn w target (env.api.setControls carId controls)

def setCarTyreTypeIn (env : EngineEnv E) (w : Worker E) (target : EngineCommandTarget)
    (carId : ℕ) (tyreType : TyreType) : Outcome E Unit :=
  callIn w target (env.api.setVehicleTyreType carId tyreType)

def raceDurationIn (env : EngineEnv E) (w : Worker E) (target : EngineCommandTarget) :
    Outcome E F32 := callIn w target env.api.raceDuration

def trackDataIn (env : EngineEnv E) (w : Worker E) (target : EngineCommandTarget) :
    Outcome E TrackData := callIn w target env.api.trackData

def despawnCarIn (env : EngineEnv E) (w : Worker E) (target : EngineCommandTarget)
    (carId : ℕ) : Outcome E Unit := callIn w target (env.api.despawnVehicle carId)

def spawnCarIn (b : Build) (env : EngineEnv E) (w : Worker E) (target : EngineCommandTarget) :
    Outcome E ℕ := withTargetSlotMut target w (spawnCarOp b env.api)

theorem withTargetSlotMut_map {R S : Type} (w : Worker E) (target : EngineCommandTarget)
    (op : EngineWorldSlot E → EngineWorldSlot E × Except EngineWorkerError R) (f : R → S) :
    withTargetSlotMut target w (fun slot => ((op slot).1, (op slot).2.map f)) =
      ((withTargetSlotMut target w op).1, (withTargetSlotMut target w op).2.map f) := by
  unfold withTargetSlotMut
  split
  · split
    · rfl
    · split <;> rfl
  · split
    · rfl
    · split
      · rfl
      · split <;> rfl
  · split
    · rfl
    · split <;> rfl

/-- A method's answer is the command's reply. -/
theorem handleCommand_slot_call {R : Type} (b : Build) (env : EngineEnv E) (w : Worker E)
    (target : EngineCommandTarget) {op : SlotOp} {call : Call E R} {wrap : R → SlotReply}
    (hop : ∀ slot, runSlotOp b env.api slot op = callEngine call wrap slot) :
    handleCommand b env w (.slot target op) =
      ((callIn w target call).1, .slot ((callIn w target call).2.map wrap)) := by
  have hwrap : (fun slot => runSlotOp b env.api slot op) =
      fun slot => ((callEngine call id slot).1, (callEngine call id slot).2.map wrap) := by
    funext slot
    rw [hop]
    unfold callEngine
    dsimp only
    cases (call slot.engine).2 <;> rfl
  simp only [handleCommand, asSlot, hwrap, callIn]
  rw [withTargetSlotMut_map]

/-- The worker has executed some world commands. -/
def Commanded (b : Build) (env : EngineEnv E) : Worker E → Worker E → Prop :=
  Relation.ReflTransGen fun w w' => ∃ target op, w' = (handleCommand b env w (.slot target op)).1

theorem commanded_callIn {R : Type} {b : Build} {env : EngineEnv E} (w : Worker E)
    (target : EngineCommandTarget) (op : SlotOp) {call : Call E R} {wrap : R → SlotReply}
    (hop : ∀ slot, runSlotOp b env.api slot op = callEngine call wrap slot) :
    Commanded b env w (callIn w target call).1 :=
  .single ⟨target, op, by rw [handleCommand_slot_call b env w target hop]⟩

theorem readCarStateIn_commanded (b : Build) (env : EngineEnv E) (w : Worker E)
    (target : EngineCommandTarget) (carId : ℕ) :
    Commanded b env w (readCarStateIn env w target carId).1 :=
  commanded_callIn w target (.readCarState carId) fun _ => rfl

theorem readCarRaceMetricsIn_commanded (b : Build) (env : EngineEnv E) (w : Worker E)
    (target : EngineCommandTarget) (carId : ℕ) :
    Commanded b env w (readCarRaceMetricsIn env w target carId).1 :=
  commanded_callIn w target (.readCarRaceMetrics carId) fun _ => rfl

theorem setControlsIn_commanded (b : Build) (env : EngineEnv E) (w : Worker E)
    (target : EngineCommandTarget) (carId : ℕ) (controls : Controls) :
    Commanded b env w (setControlsIn env w target carId controls).1 :=
  commanded_callIn w target (.setControls carId controls) fun _ => rfl

theorem setCarTyreTypeIn_commanded (b : Build) (env : EngineEnv E) (w : Worker E)
    (target : EngineCommandTarget) (carId : ℕ) (tyreType : TyreType) :
    Commanded b env w (setCarTyreTypeIn env w target carId tyreType).1 :=
  commanded_callIn w target (.setCarTyreType carId tyreType) fun _ => rfl

theorem raceDurationIn_commanded (b : Build) (env : EngineEnv E) (w : Worker E)
    (target : EngineCommandTarget) : Commanded b env w (raceDurationIn env w target).1 :=
  commanded_callIn w target .getRaceDuration fun _ => rfl

theorem trackDataIn_commanded (b : Build) (env : EngineEnv E) (w : Worker E)
    (target : EngineCommandTarget) : Commanded b env w (trackDataIn env w target).1 :=
  commanded_callIn w target .getTrackData fun _ => rfl

theorem despawnCarIn_commanded (b : Build) (env : EngineEnv E) (w : Worker E)
    (target : EngineCommandTarget) (carId : ℕ) :
    Commanded b env w (despawnCarIn env w target carId).1 :=
  commanded_callIn w target (.despawnCar carId) fun _ => rfl

theorem spawnCarIn_commanded (b : Build) (env : EngineEnv E) (w : Worker E)
    (target : EngineCommandTarget) : Commanded b env w (spawnCarIn b env w target).1 := by
  refine .single ⟨target, .spawnCar, ?_⟩
  simp only [handleCommand, asSlot, spawnCarIn, runSlotOp]
  rw [withTargetSlotMut_map]

/-! ## Worlds that are gone -/

/-- The worker holds no world for a sandbox or a local race. -/
def Gone (w : Worker E) : EngineCommandTarget → Prop
  | .officialRace => False
  | .localRace raceId => raceId ∉ w.localRaceEngines
  | .sandbox sandboxId => sandboxId ∉ w.sandboxEngines

theorem WorldTouch.trans {u v w : Worker E} (huv : WorldTouch u v) (hvw : WorldTouch v w) :
    WorldTouch u w :=
  ⟨hvw.state.trans huv.state, hvw.official.trans huv.official,
    hvw.localRace.trans huv.localRace, hvw.sandbox.trans huv.sandbox⟩

theorem Commanded.worldTouch {b : Build} {env : EngineEnv E} {w w' : Worker E}
    (h : Commanded b env w w') : WorldTouch w w' := by
  induction h with
  | refl => exact WorldTouch.refl w
  | tail _ hlast ih =>
      obtain ⟨target, op, rfl⟩ := hlast
      exact ih.trans (withTargetSlotMut_worldTouch target _ _)

theorem Gone.worldTouch {w w' : Worker E} {target : EngineCommandTarget} (h : Gone w target)
    (ht : WorldTouch w w') : Gone w' target := by
  cases target with
  | officialRace => exact h
  | localRace raceId =>
      intro hmem
      rw [← Finmap.mem_keys, ht.localRace, Finmap.mem_keys] at hmem
      exact h hmem
  | sandbox sandboxId =>
      intro hmem
      rw [← Finmap.mem_keys, ht.sandbox, Finmap.mem_keys] at hmem
      exact h hmem

/-- The texts with which the worker refuses a target whose world is gone. -/
def goneMessages : List String :=
  ["race_id must be non-empty", "race_id does not match active local race session",
    "local race runtime is not active", "sandbox_id must be non-empty",
    "sandbox_id does not match active sandbox session"]

theorem callIn_gone {R : Type} {w : Worker E} {target : EngineCommandTarget} (h : Gone w target)
    (call : Call E R) :
    ∃ message ∈ goneMessages, callIn w target call = (w, .error (.invalidArgument message)) := by
  cases target with
  | officialRace => exact h.elim
  | localRace raceId =>
      have hnone := Finmap.lookup_eq_none.mpr h
      unfold callIn withTargetSlotMut
      dsimp only
      split
      · exact ⟨"race_id must be non-empty", by simp [goneMessages], rfl⟩
      · split
        · exact ⟨"race_id does not match active local race session", by simp [goneMessages], rfl⟩
        · rw [hnone]
          exact ⟨"local race runtime is not active", by simp [goneMessages], rfl⟩
  | sandbox sandboxId =>
      have hnone := Finmap.lookup_eq_none.mpr h
      unfold callIn withTargetSlotMut
      dsimp only
      split
      · exact ⟨"sandbox_id must be non-empty", by simp [goneMessages], rfl⟩
      · rw [hnone]
        exact ⟨"sandbox_id does not match active sandbox session", by simp [goneMessages], rfl⟩

end HackArena.Runtime
