import HackArena.Runtime.LoadedMaps
import HackArena.Services.AchievementSources
import HackArena.Services.LapLengths

/-!
# Track data and the map it is kept for

The frame hub and the achievement streams keep track data under a map that
they have been shown, by the runtime state or by the latest frame. The data
itself is read later, from whatever world the target has by then. Here the
hub, any number of streams and the engine run side by side, and every
answered read is recorded with the map of the world that has answered it.
-/

namespace HackArena.Services

open Boink HackArena.Runtime

namespace TrackDataTags

open AchievementStream LapLengths

/-! ## The tasks -/

inductive TagOp where
  | timing (op : TimingOp)
  | publish (cache : FrameCollectorCache) (frame : RuntimeFrame)
  | latest
  | cached (source : ActiveSource)
  | trackData (source : ActiveSource)
  | insert (source : ActiveSource) (trackData : TrackData)
  | announce (descriptors : List ResolvedSourceDescriptor)

abbrev TagOp.Answer : TagOp → Type
  | .timing op => op.Answer
  | .publish .. => Unit
  | .latest => RuntimeFrame
  | .cached _ => Option ResolvedSourceDescriptor
  | .trackData _ => Except EngineWorkerError TrackData
  | .insert .. => Unit
  | .announce _ => Unit

abbrev TagTask (α : Type) := Prog TagOp TagOp.Answer α

abbrev TagOp.call (op : TagOp) : TagTask op.Answer := Prog.perform op

/-- The hub for a number of collections. The cars, which come last, are left
out. -/
def collectFrames (nowMs : ℕ → ℕ) : ℕ → ℕ → FrameCollectorCache → TagTask Unit
  | 0, _, _ => return
  | n + 1, tick, cache => do
      let r ← (collectTimings cache { RuntimeFrame.default with
        tick := tick, serverTimeMs := nowMs n }).embed TagOp.timing fun _ => id
      let _ ← (TagOp.publish r.1 r.2).call
      collectFrames nowMs n ((tick + 1) % 2 ^ 64) r.1

/-- The cache is locked for looking and for inserting, and free in between. -/
def resolveDescriptor (source : ActiveSource) : TagTask (Option ResolvedSourceDescriptor) := do
  match ← (TagOp.cached source).call with
  | some cached => return some cached
  | none =>
  match ← (TagOp.trackData source).call with
  | .error _ => return none
  | .ok trackData =>
      let _ ← (TagOp.insert source trackData).call
      return some ((SourceDescriptorCacheEntry.read source trackData).resolved source.key)

def resolveSources : List ActiveSource → TagTask (List ResolvedSourceDescriptor)
  | [] => return []
  | source :: rest => do
      let first ← resolveDescriptor source
      let others ← resolveSources rest
      return first.toList ++ others

/-- A stream for a number of snapshots. -/
def runStream : ℕ → TagTask Unit
  | 0 => return
  | n + 1 => do
      let frame ← TagOp.latest.call
      let resolved ← resolveSources (collectActiveSources frame)
      let _ ← (TagOp.announce (sortByKey ResolvedSourceDescriptor.key resolved)).call
      runStream n

/-! ## What they share -/

/-- Track data, with the map of the world that has answered with it. -/
structure TrackRead where
  mapId : String
  data : TrackData
  deriving DecidableEq

/-- `reading` is the runtime state that the hub has read last, `announced`
what the streams have told their clients, and `reads` what the engine has
answered. -/
structure TagState (E : Type) where
  worker : Worker (Loaded E)
  reading : Option EngineRuntimeState
  cache : FrameCollectorCache
  frame : RuntimeFrame
  descriptors : DescriptorCache
  announced : List ResolvedSourceDescriptor
  reads : List TrackRead

/-- What the worker does before a call reaches it; whether the call fails on
its way; and the environment in which it is answered. -/
structure TagInput (E : Type) where
  events : List (WorkerEvent E)
  fails : Option EngineWorkerError
  env : EngineEnv E

variable {E : Type}

def TagState.initial (E : Type) : TagState E where
  worker := Worker.initial (Loaded E)
  reading := none
  cache := .default
  frame := .default
  descriptors := ∅
  announced := []
  reads := []

def TagState.moved (b : Build) (s : TagState E) (input : TagInput E) : TagState E :=
  { s with worker :=
      input.events.foldl (fun w event => stepEvent b w (Loaded.event event)) s.worker }

def recordRead (reads : List TrackRead) : Except EngineWorkerError TrackData → Option String →
    List TrackRead
  | .ok data, some mapId => ⟨mapId, data⟩ :: reads
  | _, _ => reads

def TagState.readTrackData (s : TagState E) (input : TagInput E) (target : EngineCommandTarget) :
    TagState E × Except EngineWorkerError TrackData :=
  match input.fails with
  | some err => (s, .error err)
  | none =>
      let r := trackDataIn (Loaded.env input.env) s.worker target
      ({ s with
        worker := r.1
        reads := recordRead s.reads r.2 (s.worker.loadedMap? target) }, r.2)

def tagExec (b : Build) (s : TagState E) (op : TagOp) (input : TagInput E) :
    TagState E × op.Answer :=
  let s := s.moved b input
  match op with
  | .timing .runtimeState =>
      match input.fails with
      | some err => (s, .error err)
      | none => ({ s with reading := some s.worker.state }, .ok s.worker.state)
  | .timing (.raceDuration target) =>
      match input.fails with
      | some err => (s, .error err)
      | none =>
          let r := raceDurationIn (Loaded.env input.env) s.worker target
          ({ s with worker := r.1 }, r.2)
  | .timing (.trackData target) => s.readTrackData input target
  | .publish cache frame => ({ s with cache := cache, frame := frame }, ())
  | .latest => (s, s.frame)
  | .cached source => (s, cachedDescriptor s.descriptors source)
  | .trackData source => s.readTrackData input source.key.toEngineTarget
  | .insert source trackData =>
      ({ s with descriptors := insertRead s.descriptors source trackData }, ())
  | .announce descriptors => ({ s with announced := descriptors ++ s.announced }, ())

/-- The hub is the first task; the others are streams. -/
def tasks (nowMs : ℕ → ℕ) (turns : ℕ → ℕ) : ℕ → TagTask Unit
  | 0 => collectFrames nowMs (turns 0) 0 .default
  | i + 1 => runStream (turns (i + 1))

/-! ## What is kept, and what was read -/

def TagState.WasRead (s : TagState E) (mapId : String) (data : TrackData) : Prop :=
  (⟨mapId, data⟩ : TrackRead) ∈ s.reads

section Kept

variable (Read : String → TrackData → Prop)

def LapRead (lap : String × F32) : Prop := ∃ data, Read lap.1 data ∧ lap.2 = max data.lapLengthM 1

/-- Every cached lap length has been read on the map it is kept for. -/
structure LapsRead (cache : FrameCollectorCache) : Prop where
  official : ∀ mapId ∈ cache.officialMapId, ∀ lapLengthM ∈ cache.officialLapLengthM,
    LapRead Read (mapId, lapLengthM)
  localRace : ∀ raceId, ∀ lap ∈ cache.localRaceLapLengthM raceId, LapRead Read lap
  sandbox : ∀ sandboxId, ∀ lap ∈ cache.sandboxLapLengthM sandboxId, LapRead Read lap

def EntryRead (key : AchievementSourceKey) (entry : SourceDescriptorCacheEntry) : Prop :=
  ∃ data, Read entry.mapId data ∧ entry = .read ⟨key, entry.mapId⟩ data

def DescriptorRead (r : ResolvedSourceDescriptor) : Prop :=
  ∃ data, Read r.mapId data ∧ r = (SourceDescriptorCacheEntry.read ⟨r.key, r.mapId⟩ data).resolved
    r.key

end Kept

/-- Whatever is kept or announced under a map has been read from a world on
that map. -/
structure Truthful (s : TagState E) : Prop where
  laps : LapsRead s.WasRead s.cache
  descriptors : ∀ key, ∀ entry ∈ s.descriptors.lookup key, EntryRead s.WasRead key entry
  announced : ∀ r ∈ s.announced, DescriptorRead s.WasRead r

/-! ## When the map is still the same -/

/-- The maps that a runtime state shows for a target. -/
def shownMaps (s : EngineRuntimeState) : EngineCommandTarget → List String
  | .officialRace => if s.activityKind = .officialRace then [s.mapId] else []
  | .localRace raceId =>
      (s.activeLocalRace.toList.filter fun race => race.raceId = raceId).map (·.mapId)
  | .sandbox sandboxId =>
      (s.activeSandboxes.filter fun entry => entry.sandboxId = sandboxId).map (·.mapId)

/-- If the call is answered, the target has a world on the map by then. -/
def StillOn (b : Build) (s : TagState E) (input : TagInput E) (target : EngineCommandTarget)
    (mapId : String) : Prop :=
  ((s.moved b input).readTrackData input target).2.isOk = true →
    (s.moved b input).worker.state.map? target = some mapId

instance (b : Build) (s : TagState E) (input : TagInput E) (target : EngineCommandTarget)
    (mapId : String) : Decidable (StillOn b s input target mapId) :=
  inferInstanceAs (Decidable (_ → _))

/-- A read of track data finds the target on the map that it is read for: the
hub reads for the runtime state, a stream for its frame. -/
def ReadInTime (b : Build) (w : World (TagState E) TagOp TagOp.Answer) (_ : ℕ) (op : TagOp)
    (input : TagInput E) : Prop :=
  match op with
  | .timing (.trackData target) =>
      ∀ state ∈ w.shared.reading, ∀ mapId ∈ shownMaps state target,
        StillOn b w.shared input target mapId
  | .trackData source => StillOn b w.shared input source.key.toEngineTarget source.mapId
  | _ => True

instance (b : Build) (w : World (TagState E) TagOp TagOp.Answer) (i : ℕ) (op : TagOp)
    (input : TagInput E) : Decidable (ReadInTime b w i op input) :=
  match op with
  | .timing (.trackData target) => inferInstanceAs (Decidable (∀ state ∈ w.shared.reading,
      ∀ mapId ∈ shownMaps state target, StillOn b w.shared input target mapId))
  | .trackData source => inferInstanceAs (Decidable
      (StillOn b w.shared input source.key.toEngineTarget source.mapId))
  | .timing .runtimeState | .timing (.raceDuration _) | .publish .. | .latest | .cached _
  | .insert .. | .announce _ => .isTrue trivial

end TrackDataTags

end HackArena.Services
