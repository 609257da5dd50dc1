import HackArena.Runtime.EngineClient
import HackArena.Services.RuntimeStore
import HackArena.Services.Status

/-!
# Joining a local sandbox and leaving it

A join spawns an engine car, places it, takes a public car id and then
writes the store map by map. It is given here as it runs without
interruption; its writes are a list, so that they can also be taken one at
a time. Whether the clean-up of a participant does anything, and in which
order, depends on the build and the target.
-/

namespace HackArena.Services

open Boink HackArena.Runtime

variable {E : Type}

def selectLocalJoinSandbox (s : EngineRuntimeState) (requestedSandboxId : String) :
    Except Status EngineActiveSandboxState :=
  if s.activeSandboxes = [] then .error ⟨.failedPrecondition, "sandbox runtime is not active"⟩
  else
    let requested := Text.trim requestedSandboxId
    if Text.isBlank requestedSandboxId = false then
      match s.activeSandboxes.find? (fun entry => entry.sandboxId = requested) with
      | some entry => .ok entry
      | none => .error ⟨.notFound,
          "sandbox runtime is not active for sandbox_id=" ++ requested⟩
    else match s.activeSandboxes with
      | [entry] => .ok entry
      | _ => .error ⟨.failedPrecondition,
          "sandbox_id is required when multiple sandbox sessions are active"⟩

inductive LocalSandboxSpawnModeRecord where
  | startLine | randomOnTrack | inPit | randomStartSlot
  deriving DecidableEq, Repr

/-- The spawn mode comes from the sandbox's configuration, if it has one;
`startSlot` is the random number drawn for a random start slot. -/
def applyLocalSpawnMode (env : EngineEnv E) (w : Worker E) (sandboxId : String)
    (engineCarId : ℕ) (spawnMode : Option LocalSandboxSpawnModeRecord) (startSlot : ℕ → ℕ) :
    Worker E × Except Status Unit :=
  let target := EngineCommandTarget.sandbox sandboxId
  let answer (r : Outcome E Unit) : Worker E × Except Status Unit :=
    (r.1, r.2.mapError mapWorkerErr)
  match spawnMode with
  | none => (w, .error ⟨.notFound,
      "local sandbox config not found for sandbox_id=" ++ sandboxId⟩)
  | some .startLine =>
      answer (callIn w target (env.api.setVehicleBeforeFinishLine engineCarId))
  | some .randomOnTrack => answer (callIn w target (env.api.setVehicleRandomPos engineCarId))
  | some .inPit => answer (callIn w target (env.api.setVehicleToPitstop engineCarId))
  | some .randomStartSlot =>
      match callIn w target env.api.getNumberOfStartPos with
      | (w, .error err) => (w, .error (mapWorkerErr err))
      | (w, .ok 0) => (w, .error ⟨.failedPrecondition,
          "no start slots available for selected map"⟩)
      | (w, .ok slots) =>
          answer (callIn w target (env.api.setVehicleAtStartPos engineCarId (startSlot slots)))

theorem applyLocalSpawnMode_commanded (b : Build) (env : EngineEnv E) (w : Worker E)
    (sandboxId : String) (engineCarId : ℕ) (spawnMode : Option LocalSandboxSpawnModeRecord)
    (startSlot : ℕ → ℕ) :
    Commanded b env w
      (applyLocalSpawnMode env w sandboxId engineCarId spawnMode startSlot).1 := by
  unfold applyLocalSpawnMode
  cases spawnMode with
  | none => exact .refl
  | some mode =>
      cases mode with
      | startLine => exact commanded_callIn w _ (.setCarBeforeFinishLine engineCarId) fun _ => rfl
      | randomOnTrack => exact commanded_callIn w _ (.setCarRandomOnTrack engineCarId) fun _ => rfl
      | inPit => exact commanded_callIn w _ (.setCarToPitstop engineCarId) fun _ => rfl
      | randomStartSlot =>
          have hslots : Commanded b env w
              (callIn w (.sandbox sandboxId) env.api.getNumberOfStartPos).1 :=
            commanded_callIn w _ .getNumberOfStartPos fun _ => rfl
          dsimp only
          generalize callIn w (.sandbox sandboxId) env.api.getNumberOfStartPos = r at hslots ⊢
          obtain ⟨v, result⟩ := r
          split
          · rename_i heq
            cases heq
            exact hslots
          · rename_i heq
            cases heq
            exact hslots
          · rename_i slots _ heq
            cases heq
            exact hslots.trans (commanded_callIn v _
              (.setCarAtStartPos engineCarId (startSlot slots)) fun _ => rfl)

/-! ## The writes of a join -/

inductive StoreOp where
  | instanceCar (instanceUuid : String)
  | carOwner (instanceUuid : String)
  | setCarIdentity (sandboxId : String) (identity : RuntimeCarIdentity)
  | knownCar
  | lastClientSeq
  | carEngineId (engineCarId : ℕ)
  | carTarget (target : EngineCommandTarget)
  deriving DecidableEq

def StoreOp.apply (s : RaceRuntimeStore) (carId : ℕ) : StoreOp → RaceRuntimeStore
  | .instanceCar uuid => { s with instanceCars := s.instanceCars.insert uuid carId }
  | .carOwner uuid => { s with carOwners := s.carOwners.insert carId uuid }
  | .setCarIdentity sandboxId identity =>
      let userId := identity.subject.getD ("car-" ++ toString carId)
      let r := s.allocateLocalBotIndex sandboxId userId
      { r.2 with carIdentity :=
          r.2.carIdentity.insert carId { identity with localBotIndex := some r.1 } }
  | .knownCar => { s with knownCars := insert carId s.knownCars }
  | .lastClientSeq => { s with lastClientSeq := s.lastClientSeq.insert carId 0 }
  | .carEngineId engineCarId => { s with carEngineIds := s.carEngineIds.insert carId engineCarId }
  | .carTarget target => { s with carTargets := s.carTargets.insert carId target }

/-- The writes in source order. A token names the instance that owns the
car, except in the standalone build, where the identity is the default. -/
def joinOps (sandboxId : String) (engineCarId : ℕ) (identity : RuntimeCarIdentity) :
    List StoreOp :=
  (match identity.instanceUuid with
    | some uuid => [.instanceCar uuid, .carOwner uuid]
    | none => []) ++
  [.setCarIdentity sandboxId identity, .knownCar, .lastClientSeq, .carEngineId engineCarId,
    .carTarget (.sandbox sandboxId)]

/-- `local_sandbox_join_impl` with the token already checked: `identity`
is what the token says, or its rejection. -/
def localSandboxJoinImpl (b : Build) (env : EngineEnv E) (w : Worker E) (s : RaceRuntimeStore)
    (requestedSandboxId : String) (spawnMode : String → Option LocalSandboxSpawnModeRecord)
    (startSlot : ℕ → ℕ) (identity : Except Status RuntimeCarIdentity) :
    Worker E × RaceRuntimeStore × Except Status (ℕ × String) :=
  match selectLocalJoinSandbox w.state requestedSandboxId with
  | .error status => (w, s, .error status)
  | .ok active =>
      match spawnCarIn b env w (.sandbox active.sandboxId) with
      | (w, .error err) => (w, s, .error (mapWorkerErr err))
      | (w, .ok engineCarId) =>
          match applyLocalSpawnMode env w active.sandboxId engineCarId
              (spawnMode active.sandboxId) startSlot with
          | (w, .error status) =>
              ((despawnCarIn env w (.sandbox active.sandboxId) engineCarId).1, s, .error status)
          | (w, .ok ()) =>
              let r := s.allocatePublicCarId
              match identity with
              | .error status => (w, r.2, .error status)
              | .ok identity =>
                  (w, (joinOps active.sandboxId engineCarId identity).foldl
                    (fun s op => op.apply s r.1) r.2, .ok (r.1, active.mapId))

/-! ## Clean-up -/

/-- What a clean-up does with a car of a target. -/
inductive CleanupPlan where
  | keep | removeThenDespawn | despawnThenRemove
  deriving DecidableEq, Repr

def cleanupPlan (b : Build) (s : RaceRuntimeStore) (publicCarId : ℕ) :
    EngineCommandTarget → CleanupPlan
  | .sandbox _ =>
      match b with
      | .official => if s.isBotSwitchInProgress publicCarId then .keep else .removeThenDespawn
      | .local | .standalone => .despawnThenRemove
  | .officialRace => .keep
  | .localRace _ => .despawnThenRemove

end HackArena.Services
