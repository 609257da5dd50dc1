import HackArena.Services.FrameHub

/-!
# Joins, streams and the frame hub side by side

A join awaits the engine between its steps, and so do the streams, their
clean-ups and the frame hub; the store and the worker are shared. Every
stretch between two awaits, and every single write of a join, is one
step.
-/

namespace HackArena.Services

open Boink HackArena.Runtime

variable {E : Type}

/-- Requests under way, by what they hold. The steps of a clean-up are
two flags: a despawn that has timed out may still be executed after the
car has been removed. -/
inductive Request where
  | selected (sandboxId : String)
  | spawned (sandboxId : String) (engineCarId : ℕ)
  | misplaced (sandboxId : String) (engineCarId : ℕ)
  | placed (sandboxId : String) (engineCarId : ℕ)
  | allocated (sandboxId : String) (engineCarId publicCarId : ℕ)
  | registering (sandboxId : String) (engineCarId publicCarId : ℕ) (todo : List StoreOp)
  | streaming (publicCarId : ℕ) (target : EngineCommandTarget) (engineCarId : ℕ)
  | closing (publicCarId : ℕ) (target : EngineCommandTarget) (engineCarId : ℕ)
      (despawn remove : Bool)

structure Arena (E : Type) where
  worker : Worker E
  store : RaceRuntimeStore
  requests : ℕ → Option Request

def Arena.initial (E : Type) : Arena E := ⟨Worker.initial E, RaceRuntimeStore.new, fun _ => none⟩

def Arena.set (s : Arena E) (id : ℕ) (r : Option Request) : Arena E :=
  { s with requests := Function.update s.requests id r }

/-- The steps of the worker, of joins and streams between two awaits, and
of the frame hub. `forget` is a removal that the hub, or any other task,
decides on from what it has read earlier. -/
inductive ArenaEvent (E : Type) where
  | worker (ev : WorkerEvent E)
  | joinSelect (id : ℕ) (requestedSandboxId : String)
  | joinSpawn (id : ℕ) (env : EngineEnv E)
  | joinPlace (id : ℕ) (env : EngineEnv E) (spawnMode : Option LocalSandboxSpawnModeRecord)
      (startSlot : ℕ → ℕ)
  | joinDespawn (id : ℕ) (env : EngineEnv E)
  | joinAllocate (id : ℕ)
  | joinIdentify (id : ℕ) (identity : Option RuntimeCarIdentity)
  | joinStore (id : ℕ)
  | streamOpen (id publicCarId : ℕ)
  | streamEnd (id : ℕ)
  | cleanupDespawn (id : ℕ) (env : EngineEnv E)
  | cleanupExpire (id : ℕ)
  | cleanupRemove (id : ℕ)
  | collect (env : EngineEnv E) (cache : FrameCollectorCache) (nowMs publicCarId : ℕ)
  | forget (publicCarId : ℕ)

/-- A clean-up with something left to do. -/
def closingRequest (publicCarId : ℕ) (target : EngineCommandTarget) (engineCarId : ℕ)
    (despawn remove : Bool) : Option Request :=
  if despawn || remove then some (.closing publicCarId target engineCarId despawn remove)
  else none

def stepArena (b : Build) (s : Arena E) : ArenaEvent E → Arena E
  | .worker ev => { s with worker := stepEvent b s.worker ev }
  | .joinSelect id requested => match s.requests id with
      | none => match selectLocalJoinSandbox s.worker.state requested with
          | .ok active => s.set id (some (.selected active.sandboxId))
          | .error _ => s
      | some _ => s
  | .joinSpawn id env => match s.requests id with
      | some (.selected sandboxId) =>
          let r := spawnCarIn b env s.worker (.sandbox sandboxId)
          { s.set id (match r.2 with
              | .ok engineCarId => some (.spawned sandboxId engineCarId)
              | .error _ => none) with worker := r.1 }
      | _ => s
  | .joinPlace id env spawnMode startSlot => match s.requests id with
      | some (.spawned sandboxId engineCarId) =>
          let r := applyLocalSpawnMode env s.worker sandboxId engineCarId spawnMode startSlot
          { s.set id (some (match r.2 with
              | .ok () => .placed sandboxId engineCarId
              | .error _ => .misplaced sandboxId engineCarId)) with worker := r.1 }
      | _ => s
  | .joinDespawn id env => match s.requests id with
      | some (.misplaced sandboxId engineCarId) =>
          { s.set id none with
            worker := (despawnCarIn env s.worker (.sandbox sandboxId) engineCarId).1 }
      | _ => s
  | .joinAllocate id => match s.requests id with
      | some (.placed sandboxId engineCarId) =>
          let r := s.store.allocatePublicCarId
          { s.set id (some (.allocated sandboxId engineCarId r.1)) with store := r.2 }
      | _ => s
  | .joinIdentify id identity => match s.requests id with
      | some (.allocated sandboxId engineCarId publicCarId) =>
          s.set id (identity.map fun identity =>
            .registering sandboxId engineCarId publicCarId (joinOps sandboxId engineCarId identity))
      | _ => s
  | .joinStore id => match s.requests id with
      | some (.registering sandboxId engineCarId publicCarId (op :: todo)) =>
          { s.set id (some (.registering sandboxId engineCarId publicCarId todo)) with
            store := op.apply s.store publicCarId }
      | some (.registering _ _ _ []) => s.set id none
      | _ => s
  | .streamOpen id publicCarId => match s.requests id with
      | none =>
          match s.store.carTargets.lookup publicCarId,
              s.store.carEngineIds.lookup publicCarId with
          | some target, some engineCarId =>
              s.set id (some (.streaming publicCarId target engineCarId))
          | _, _ => s
      | some _ => s
  | .streamEnd id => match s.requests id with
      | some (.streaming publicCarId target engineCarId) =>
          match cleanupPlan b s.store publicCarId target with
          | .keep => s.set id none
          | .removeThenDespawn | .despawnThenRemove =>
              s.set id (closingRequest publicCarId target engineCarId true true)
      | _ => s
  | .cleanupDespawn id env => match s.requests id with
      | some (.closing publicCarId target engineCarId true remove) =>
          { s.set id (closingRequest publicCarId target engineCarId false remove) with
            worker := (despawnCarIn env s.worker target engineCarId).1 }
      | _ => s
  | .cleanupExpire id => match s.requests id with
      | some (.closing publicCarId target engineCarId true remove) =>
          s.set id (closingRequest publicCarId target engineCarId false remove)
      | _ => s
  | .cleanupRemove id => match s.requests id with
      | some (.closing publicCarId target engineCarId despawn true) =>
          { s.set id (closingRequest publicCarId target engineCarId despawn false) with
            store := s.store.removeCar publicCarId }
      | _ => s
  | .collect env cache nowMs publicCarId =>
      let h := collectCar b env ⟨s.worker, s.store, cache,
        { RuntimeFrame.default with serverTimeMs := nowMs }⟩ publicCarId
      { s with worker := h.worker, store := h.store }
  | .forget publicCarId => { s with store := s.store.removeCar publicCarId }

end HackArena.Services
