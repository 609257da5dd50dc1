import HackArena.Runtime.WorkerInvariants
import HackArena.Services.FrameHub
import Mathlib.Data.List.Sort
import Mathlib.Data.String.Basic
import Mathlib.Order.WithBot

/-!
# The sources of the achievement stream

The official race and every active sandbox is a source. A source is
described by the track data of its world, which is cached by source and
map. What a snapshot says of the vehicles of a source depends on the
centerline of that track data.
-/

namespace HackArena.Services.AchievementStream

open Boink HackArena.Runtime

inductive AchievementSourceKey where
  | officialRace
  | officialSandbox (sandboxId : String)
  deriving DecidableEq, Repr

namespace AchievementSourceKey

/-- The derived order: the race comes first. -/
def rank : AchievementSourceKey → WithBot String
  | .officialRace => ⊥
  | .officialSandbox sandboxId => sandboxId

theorem rank_injective : Function.Injective rank := by
  intro k k' h
  cases k with
  | officialRace =>
      cases k' with
      | officialRace => rfl
      | officialSandbox sandboxId => exact absurd h.symm WithBot.coe_ne_bot
  | officialSandbox sandboxId =>
      cases k' with
      | officialRace => exact absurd h WithBot.coe_ne_bot
      | officialSandbox sandboxId' => exact congrArg _ (WithBot.coe_injective h)

instance : LinearOrder AchievementSourceKey := LinearOrder.lift' rank rank_injective

def toEngineTarget : AchievementSourceKey → EngineCommandTarget
  | .officialRace => .officialRace
  | .officialSandbox sandboxId => .sandbox sandboxId

end AchievementSourceKey

structure ActiveSource where
  key : AchievementSourceKey
  mapId : String
  deriving DecidableEq

/-! ## Sorting by key -/

section Sorting

variable {α : Type} (key : α → AchievementSourceKey)

/-- Elements in the order of their keys. -/
def KeyLe (left right : α) : Prop := key left ≤ key right

instance : DecidableRel (KeyLe key) := fun _ _ => inferInstanceAs (Decidable (_ ≤ _))

instance : Std.Total (KeyLe key) := ⟨fun left right => le_total (key left) (key right)⟩

instance : IsTrans α (KeyLe key) := ⟨fun _ _ _ => le_trans⟩

def sortByKey (l : List α) : List α := l.insertionSort (KeyLe key)

variable {key}

theorem mem_sortByKey {x : α} {l : List α} : x ∈ sortByKey key l ↔ x ∈ l :=
  List.mem_insertionSort (KeyLe key)

/-- Distinct keys come out strictly increasing. -/
theorem sortByKey_strict {l : List α} (h : (l.map key).Nodup) :
    ((sortByKey key l).map key).Pairwise (· < ·) := by
  have hperm : (sortByKey key l).Perm l := List.perm_insertionSort (KeyLe key) l
  have hnodup : ((sortByKey key l).map key).Nodup := (hperm.map key).nodup_iff.mpr h
  have hsorted : (sortByKey key l).Pairwise (KeyLe key) := List.pairwise_insertionSort (KeyLe key) l
  have hle : ((sortByKey key l).map key).Pairwise (· ≤ ·) := List.pairwise_map.mpr hsorted
  exact (hle.and hnodup).imp fun h => lt_of_le_of_ne h.1 h.2

end Sorting

/-! ## Active sources -/

/-- A frame whose runtime state, if it could be read, is one of the worker. -/
structure HubFrame (E : Type) where
  frame : RuntimeFrame
  readFrom : ∀ runtimeState, frame.runtimeState = some runtimeState →
    ∃ evs : List (WorkerEvent E),
      runtimeState = (evs.foldl (stepEvent .official) (Worker.initial E)).state

def officialSources (s : EngineRuntimeState) : List ActiveSource :=
  if s.activityKind = .officialRace then [⟨.officialRace, s.mapId⟩] else []

def sandboxSources (s : EngineRuntimeState) : List ActiveSource :=
  s.activeSandboxes.map fun sandbox => ⟨.officialSandbox sandbox.sandboxId, sandbox.mapId⟩

def collectActiveSources (frame : RuntimeFrame) : List ActiveSource :=
  match frame.runtimeState with
  | none => []
  | some s => sortByKey ActiveSource.key (officialSources s ++ sandboxSources s)

variable {E : Type}

theorem activeSources_nodup {s : EngineRuntimeState}
    (h : (s.activeSandboxes.map (·.sandboxId)).Nodup) :
    ((officialSources s ++ sandboxSources s).map ActiveSource.key).Nodup := by
  have hsandboxes : (sandboxSources s).map ActiveSource.key =
      (s.activeSandboxes.map (·.sandboxId)).map .officialSandbox := by
    rw [sandboxSources, List.map_map, List.map_map]
    rfl
  have hinjective : Function.Injective AchievementSourceKey.officialSandbox := fun _ _ heq =>
    AchievementSourceKey.officialSandbox.inj heq
  rw [List.map_append, hsandboxes, officialSources]
  split
  · refine List.nodup_cons.mpr ⟨?_, h.map hinjective⟩
    simp
  · exact h.map hinjective

/-- The active sources of a frame come in the order of their keys. -/
theorem collectActiveSources_strict (f : HubFrame E) :
    ((collectActiveSources f.frame).map ActiveSource.key).Pairwise (· < ·) := by
  unfold collectActiveSources
  split
  · exact List.Pairwise.nil
  · rename_i s hs
    obtain ⟨evs, rfl⟩ := f.readFrom s hs
    exact sortByKey_strict (activeSources_nodup (sound_run .official evs).consistent.distinct)

/-! ## Descriptors -/

structure AchievementRuntimeSourceDescriptor where
  source : AchievementSourceKey
  mapId : String
  trackData : TrackData
  deriving DecidableEq

/-- The samples of the centerline stand for the track data that they have
been taken from. -/
structure SourceDescriptorCacheEntry where
  mapId : String
  trackData : TrackData
  centerlineGeometry : TrackData
  tagged : trackData.mapId = mapId ∧ centerlineGeometry.mapId = mapId

abbrev DescriptorCache := HashMap AchievementSourceKey SourceDescriptorCacheEntry

/-- What has been read of the world of a source is tagged with its map. -/
def SourceDescriptorCacheEntry.read (source : ActiveSource) (trackData : TrackData) :
    SourceDescriptorCacheEntry where
  mapId := source.mapId
  trackData := { trackData with mapId := source.mapId }
  centerlineGeometry := { trackData with mapId := source.mapId }
  tagged := ⟨rfl, rfl⟩

structure ResolvedSourceDescriptor where
  key : AchievementSourceKey
  mapId : String
  descriptor : AchievementRuntimeSourceDescriptor
  centerlineGeometry : TrackData
  describes : descriptor.source = key ∧ descriptor.mapId = mapId ∧
    descriptor.trackData.mapId = mapId
  tagged : centerlineGeometry.mapId = mapId

def SourceDescriptorCacheEntry.resolved (entry : SourceDescriptorCacheEntry)
    (key : AchievementSourceKey) : ResolvedSourceDescriptor where
  key := key
  mapId := entry.mapId
  descriptor := ⟨key, entry.mapId, entry.trackData⟩
  centerlineGeometry := entry.centerlineGeometry
  describes := ⟨rfl, rfl, entry.tagged.1⟩
  tagged := entry.tagged.2

def cachedDescriptor (cache : DescriptorCache) (source : ActiveSource) :
    Option ResolvedSourceDescriptor :=
  match cache.lookup source.key with
  | none => none
  | some cached =>
      if cached.mapId ≠ source.mapId then none else some (cached.resolved source.key)

/-- What other streams have put into the cache in the meantime, and what
the engine answers for a source. -/
structure SourceLookup where
  others : List (ActiveSource × TrackData)
  trackData : Except EngineWorkerError TrackData

def insertRead (cache : DescriptorCache) (source : ActiveSource) (trackData : TrackData) :
    DescriptorCache := cache.insert source.key (.read source trackData)

def resolveDescriptor (lookup : SourceLookup) (cache : DescriptorCache) (source : ActiveSource) :
    DescriptorCache × Option ResolvedSourceDescriptor :=
  let cache := lookup.others.foldl (fun c other => insertRead c other.1 other.2) cache
  match cachedDescriptor cache source with
  | some cached => (cache, some cached)
  | none =>
      match lookup.trackData with
      | .error _ => (cache, none)
      | .ok trackData =>
          (insertRead cache source trackData,
            some ((SourceDescriptorCacheEntry.read source trackData).resolved source.key))

def resolveSources (lookups : AchievementSourceKey → SourceLookup) :
    DescriptorCache → List ActiveSource → DescriptorCache × List ResolvedSourceDescriptor
  | cache, [] => (cache, [])
  | cache, source :: rest =>
      let first := resolveDescriptor (lookups source.key) cache source
      let others := resolveSources lookups first.1 rest
      (others.1, first.2.toList ++ others.2)

def resolveActiveDescriptors (lookups : AchievementSourceKey → SourceLookup)
    (cache : DescriptorCache) (frame : RuntimeFrame) :
    DescriptorCache × List ResolvedSourceDescriptor :=
  let resolved := resolveSources lookups cache (collectActiveSources frame)
  (resolved.1, sortByKey ResolvedSourceDescriptor.key resolved.2)

/-- A source is resolved under its key and its map. -/
theorem resolveDescriptor_source {lookup : SourceLookup} {cache : DescriptorCache}
    {source : ActiveSource} {resolved : ResolvedSourceDescriptor}
    (h : (resolveDescriptor lookup cache source).2 = some resolved) :
    source = ⟨resolved.key, resolved.mapId⟩ := by
  unfold resolveDescriptor at h
  dsimp only at h
  split at h
  · rename_i cached hcached
    obtain rfl := Option.some.inj h
    unfold cachedDescriptor at hcached
    split at hcached
    · cases hcached
    · split at hcached
      · cases hcached
      · rename_i entry _ hmap
        obtain rfl := Option.some.inj hcached
        rw [not_not] at hmap
        change source = ⟨source.key, entry.mapId⟩
        rw [hmap]
  · split at h
    · cases h
    · obtain rfl := Option.some.inj h
      rfl

theorem resolveSources_sublist (lookups : AchievementSourceKey → SourceLookup)
    (sources : List ActiveSource) (cache : DescriptorCache) :
    ((resolveSources lookups cache sources).2.map fun r => (⟨r.key, r.mapId⟩ : ActiveSource)).Sublist
      sources := by
  induction sources generalizing cache with
  | nil => exact List.Sublist.refl []
  | cons source rest ih =>
      rw [resolveSources, List.map_append]
      cases hfirst : (resolveDescriptor (lookups source.key) cache source).2 with
      | none => exact (ih _).cons source
      | some resolved =>
          rw [resolveDescriptor_source hfirst]
          exact (ih _).cons_cons _

/-- The resolved sources come in the order of their keys, and each is an
active source with its map. -/
theorem resolveActiveDescriptors_spec (lookups : AchievementSourceKey → SourceLookup)
    (cache : DescriptorCache) (f : HubFrame E) :
    (((resolveActiveDescriptors lookups cache f.frame).2.map (·.key)).Pairwise (· < ·)) ∧
      ∀ r ∈ (resolveActiveDescriptors lookups cache f.frame).2,
        (⟨r.key, r.mapId⟩ : ActiveSource) ∈ collectActiveSources f.frame := by
  have hsublist := resolveSources_sublist lookups (collectActiveSources f.frame) cache
  have hstrict := collectActiveSources_strict f
  constructor
  · refine sortByKey_strict (List.Pairwise.imp (fun h => ne_of_lt h) ?_)
    have hkeys := hstrict.sublist (hsublist.map ActiveSource.key)
    rwa [List.map_map] at hkeys
  · intro r hr
    exact hsublist.subset (List.mem_map_of_mem (mem_sortByKey.mp hr))

/-- The track data of every source can be read. -/
def Answered (lookups : AchievementSourceKey → SourceLookup) : Prop :=
  ∀ key, ∃ trackData, (lookups key).trackData = .ok trackData

theorem Answered.resolveSources {lookups : AchievementSourceKey → SourceLookup}
    (h : Answered lookups) (sources : List ActiveSource) (cache : DescriptorCache) :
    ((resolveSources lookups cache sources).2.map fun r => (⟨r.key, r.mapId⟩ : ActiveSource)) =
      sources := by
  induction sources generalizing cache with
  | nil => rfl
  | cons source rest ih =>
      have hsome : ((resolveDescriptor (lookups source.key) cache source).2).isSome := by
        obtain ⟨trackData, hdata⟩ := h source.key
        unfold resolveDescriptor
        dsimp only
        split
        · rfl
        · rw [hdata]
          rfl
      obtain ⟨resolved, hresolved⟩ := Option.isSome_iff_exists.mp hsome
      rw [AchievementStream.resolveSources, List.map_append, ih, hresolved,
        resolveDescriptor_source hresolved]
      rfl

structure AchievementTireWearPerWheel where
  frontLeft : F32
  frontRight : F32
  rearLeft : F32
  rearRight : F32
  deriving DecidableEq

/-- The pose and what is computed from it are left out. -/
structure AchievementVehicleState where
  carId : ℕ
  teamId : String
  completedLaps : ℕ
  speedMps : F32
  racePosition : ℕ
  gear : ℤ
  tireType : TyreType
  tireWear : AchievementTireWearPerWheel
  deriving DecidableEq

/-- The vehicles are placed along the centerline of `centerlineGeometry`. -/
structure AchievementSourceSnapshot where
  source : AchievementSourceKey
  centerlineGeometry : TrackData
  vehicles : List AchievementVehicleState
  deriving DecidableEq

def sourceMatchesTarget : AchievementSourceKey → EngineCommandTarget → Bool
  | .officialRace, .officialRace => true
  | .officialSandbox expected, .sandbox sandboxId => expected = sandboxId
  | _, _ => false

def tireWearFromHealth (health : F32) : F32 := clamp (1 - health) 0 1

def gearToProto : Gear → ℤ
  | .reverse => -1
  | .neutral => 0
  | .forward gear => gear

def completedLaps (car : RuntimeCarFrame) : ℕ :=
  (car.raceMetrics.map (·.completedLaps)).getD 0

def lapProgressM (car : RuntimeCarFrame) : F32 :=
  (car.raceMetrics.map (·.lapProgressM)).getD 0

def vehicleStateForAchievement (car : RuntimeCarFrame) (racePosition : ℕ) :
    AchievementVehicleState where
  carId := car.publicCarId
  teamId := (car.identity.bind (·.teamId)).getD "unknown"
  completedLaps := AchievementStream.completedLaps car
  speedMps := car.state.speed
  racePosition := racePosition
  gear := gearToProto car.state.gear
  tireType := car.state.tyreType
  tireWear := ⟨tireWearFromHealth car.state.tyreHealth[0], tireWearFromHealth car.state.tyreHealth[1],
    tireWearFromHealth car.state.tyreHealth[2], tireWearFromHealth car.state.tyreHealth[3]⟩

/-- More laps, then more progress, then the smaller id. -/
def AheadOf (left right : RuntimeCarFrame) : Prop :=
  completedLaps right < completedLaps left ∨ (completedLaps right = completedLaps left ∧
    (lapProgressM right < lapProgressM left ∨ (lapProgressM right = lapProgressM left ∧
      left.publicCarId ≤ right.publicCarId)))

instance : DecidableRel AheadOf := fun _ _ => inferInstanceAs (Decidable (_ ∨ _ ∧ (_ ∨ _ ∧ _)))

def buildSourceVehicles (frame : RuntimeFrame) (source : AchievementSourceKey) :
    List AchievementVehicleState :=
  let cars := (HashMap.values frame.cars).filter fun car => sourceMatchesTarget source car.target
  (cars.insertionSort AheadOf).mapIdx fun idx car => vehicleStateForAchievement car (idx + 1)

def buildSnapshot (frame : RuntimeFrame) (descriptors : List ResolvedSourceDescriptor) :
    List AchievementSourceSnapshot :=
  descriptors.map fun descriptor =>
    ⟨descriptor.key, descriptor.centerlineGeometry, buildSourceVehicles frame descriptor.key⟩

/-- The race positions of the vehicles of a source. -/
theorem buildSourceVehicles_positions (frame : RuntimeFrame) (source : AchievementSourceKey) :
    (buildSourceVehicles frame source).map (·.racePosition) =
      (List.range (buildSourceVehicles frame source).length).map (· + 1) := by
  apply List.ext_getElem
  · simp
  · intro n h₁ h₂
    simp [buildSourceVehicles, vehicleStateForAchievement]

end HackArena.Services.AchievementStream
