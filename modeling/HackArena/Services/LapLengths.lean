import HackArena.Lib.Programs
import HackArena.Services.FrameHub

/-!
# The cached lap lengths of the frame hub

A collection reads the engine call by call, and the runtime may be
switched between any two calls. What a call finds is given by a view of
the engine of its own, so that the views of a history stand for any
interleaving of the collections with switches and for any pattern of
failing reads. The reads of the single cars follow and change none of the
lap lengths.
-/

namespace HackArena.Services

open Boink HackArena.Runtime

namespace LapLengths

/-! ## The collection up to the cars -/

inductive TimingOp where
  | runtimeState
  | raceDuration (target : EngineCommandTarget)
  | trackData (target : EngineCommandTarget)

abbrev TimingOp.Answer : TimingOp → Type
  | .runtimeState => Except EngineWorkerError EngineRuntimeState
  | .raceDuration _ => Except EngineWorkerError F32
  | .trackData _ => Except EngineWorkerError TrackData

abbrev Timing (α : Type) := Prog TimingOp TimingOp.Answer α

abbrev TimingOp.call (op : TimingOp) : Timing op.Answer := Prog.perform op

def collectOfficial (runtimeState : EngineRuntimeState) (cache : FrameCollectorCache)
    (frame : RuntimeFrame) : Timing (FrameCollectorCache × RuntimeFrame) := do
  if runtimeState.activityKind ≠ .officialRace then return (cache, frame)
  else
  let duration ← (TimingOp.raceDuration .officialRace).call
  let frame := { frame with officialRaceDurationS := duration.toOption }
  if cache.officialMapId = some runtimeState.mapId then
    return (cache, { frame with officialLapLengthM := cache.officialLapLengthM })
  else
  let data ← (TimingOp.trackData .officialRace).call
  let lapLengthM := data.toOption.map fun data => max data.lapLengthM 1
  return ({ cache with
      officialMapId := some runtimeState.mapId
      officialLapLengthM := lapLengthM },
    { frame with officialLapLengthM := lapLengthM })

/-- As for the local race and the sandboxes: a failed read keeps what is
cached, and the map it is cached for. -/
def readWorldTiming (target : EngineCommandTarget) (mapId : String)
    (cached : Option (String × F32)) : Timing (Option F32 × Option (String × F32)) := do
  let duration ← (TimingOp.raceDuration target).call
  if cached.map (·.1) = some mapId then return (duration.toOption, cached)
  else
  match ← (TimingOp.trackData target).call with
  | .ok data => return (duration.toOption, some (mapId, max data.lapLengthM 1))
  | .error _ => return (duration.toOption, cached)

def collectLocalRace (runtimeState : EngineRuntimeState) (cache : FrameCollectorCache)
    (frame : RuntimeFrame) : Timing (FrameCollectorCache × RuntimeFrame) := do
  match runtimeState.activeLocalRace with
  | none => return ({ cache with localRaceLapLengthM := fun _ => none }, frame)
  | some active =>
  let retained : String → Option (String × F32) := fun raceId =>
    if active.raceId = raceId then cache.localRaceLapLengthM raceId else none
  let r ← readWorldTiming (.localRace active.raceId) active.mapId (retained active.raceId)
  return ({ cache with localRaceLapLengthM := Function.update retained active.raceId r.2 },
    { frame with
      localRaceDurationS := insertSome frame.localRaceDurationS active.raceId r.1
      localRaceLapLengthM := insertSome frame.localRaceLapLengthM active.raceId
        (r.2.map (·.2)) })

def collectSandboxes (cache : FrameCollectorCache) (frame : RuntimeFrame) :
    List EngineActiveSandboxState → Timing (FrameCollectorCache × RuntimeFrame)
  | [] => return (cache, frame)
  | active :: rest => do
      let r ← readWorldTiming (.sandbox active.sandboxId) active.mapId
        (cache.sandboxLapLengthM active.sandboxId)
      collectSandboxes
        { cache with sandboxLapLengthM :=
            Function.update cache.sandboxLapLengthM active.sandboxId r.2 }
        { frame with
          sandboxRaceDurationS := insertSome frame.sandboxRaceDurationS active.sandboxId r.1
          sandboxLapLengthM := insertSome frame.sandboxLapLengthM active.sandboxId
            (r.2.map (·.2)) } rest

/-- The other worlds, after the official race. -/
def collectWorlds (runtimeState : EngineRuntimeState) (cache : FrameCollectorCache)
    (frame : RuntimeFrame) : Timing (FrameCollectorCache × RuntimeFrame) := do
  let r ← collectLocalRace runtimeState cache frame
  collectSandboxes
    { r.1 with sandboxLapLengthM := fun sandboxId =>
        if isSandboxActive runtimeState sandboxId then r.1.sandboxLapLengthM sandboxId else none }
    r.2 runtimeState.activeSandboxes

def collectActive (runtimeState : EngineRuntimeState) (cache : FrameCollectorCache)
    (frame : RuntimeFrame) : Timing (FrameCollectorCache × RuntimeFrame) := do
  let r ← collectOfficial runtimeState cache frame
  collectWorlds runtimeState r.1 r.2

/-- `collect_frame` up to the cars; the frame has its tick and its time. -/
def collectTimings (cache : FrameCollectorCache) (frame : RuntimeFrame) :
    Timing (FrameCollectorCache × RuntimeFrame) := do
  match ← TimingOp.runtimeState.call with
  | .error _ => return (cache, frame)
  | .ok runtimeState =>
      collectActive runtimeState cache { frame with runtimeState := some runtimeState }

/-! ## What the calls find -/

/-- The engine as one call finds it. Reading the state fails when there is
a `stateError`. -/
structure EngineView where
  state : EngineRuntimeState
  stateError : Option EngineWorkerError
  raceDuration : EngineCommandTarget → Except EngineWorkerError F32
  trackData : EngineCommandTarget → Except EngineWorkerError TrackData

namespace EngineView

variable (view : EngineView)

/-- The official world answers while the official race is active. -/
def ofWorld {R : Type} (answers : EngineCommandTarget → Except EngineWorkerError R) :
    EngineCommandTarget → Except EngineWorkerError R
  | .officialRace =>
      if view.state.activityKind ≠ .officialRace then
        .error (.invalidArgument "official race runtime is not active")
      else answers .officialRace
  | target => answers target

def answer : (op : TimingOp) → op.Answer
  | .runtimeState => match view.stateError with
      | some err => .error err
      | none => .ok view.state
  | .raceDuration target => view.ofWorld view.raceDuration target
  | .trackData target => view.ofWorld view.trackData target

/-- The map of the official race in the state that is read. -/
def officialMap : Option String :=
  match view.stateError with
  | some _ => none
  | none => if view.state.activityKind = .officialRace then some view.state.mapId else none

/-- The lap length as it is read for the official race. -/
def officialLapLength : Option F32 :=
  (view.ofWorld view.trackData .officialRace).toOption.map fun data => max data.lapLengthM 1

end EngineView

/-- Nothing is shared but the engine, and each call has its view of it. -/
def timingExec (_ : Unit) (op : TimingOp) (view : EngineView) : Unit × op.Answer :=
  ((), view.answer op)

/-- One collection, each of its calls with its view. -/
def collected (tick nowMs : ℕ) (cache : FrameCollectorCache) (views : ℕ → EngineView) :
    FrameCollectorCache × RuntimeFrame :=
  ((collectTimings cache { RuntimeFrame.default with
    tick := tick, serverTimeMs := nowMs }).run timingExec views ()).2

/-- The cache before a collection: `views j k` is what the `k`-th call of
the `j`-th collection finds. -/
def cacheAt (nowMs : ℕ → ℕ) (views : ℕ → ℕ → EngineView) : ℕ → FrameCollectorCache
  | 0 => .default
  | j + 1 => (collected ((j + 1) % 2 ^ 64) (nowMs j) (cacheAt nowMs views j) (views j)).1

def frameAt (nowMs : ℕ → ℕ) (views : ℕ → ℕ → EngineView) (j : ℕ) : RuntimeFrame :=
  (collected ((j + 1) % 2 ^ 64) (nowMs j) (cacheAt nowMs views j) (views j)).2

/-! ## The official part -/

/-- Nothing of the official race is changed. -/
def OfficialKept (cache : FrameCollectorCache) (frame : RuntimeFrame)
    (r : FrameCollectorCache × RuntimeFrame) : Prop :=
  r.1.officialMapId = cache.officialMapId ∧ r.1.officialLapLengthM = cache.officialLapLengthM ∧
  r.2.officialLapLengthM = frame.officialLapLengthM

section Kept

variable (runtimeState : EngineRuntimeState) (cache : FrameCollectorCache) (frame : RuntimeFrame)
  (views : ℕ → EngineView)

theorem collectLocalRace_kept : OfficialKept cache frame
    ((collectLocalRace runtimeState cache frame).run timingExec views ()).2 := by
  rw [collectLocalRace]
  split
  · exact ⟨rfl, rfl, rfl⟩
  · obtain ⟨k, hk⟩ := Prog.run_bind timingExec (readWorldTiming _ _ _) _ views ()
    rw [hk]
    exact ⟨rfl, rfl, rfl⟩

theorem collectSandboxes_kept (actives : List EngineActiveSandboxState) :
    OfficialKept cache frame
      ((collectSandboxes cache frame actives).run timingExec views ()).2 := by
  induction actives generalizing cache frame views with
  | nil => exact ⟨rfl, rfl, rfl⟩
  | cons active rest ih =>
      rw [collectSandboxes]
      obtain ⟨k, hk⟩ := Prog.run_bind timingExec (readWorldTiming _ _ _) _ views ()
      rw [hk]
      exact ih _ _ _

theorem collectWorlds_kept : OfficialKept cache frame
    ((collectWorlds runtimeState cache frame).run timingExec views ()).2 := by
  rw [collectWorlds]
  obtain ⟨k, hk⟩ := Prog.run_bind timingExec (collectLocalRace runtimeState cache frame) _ views ()
  rw [hk]
  obtain ⟨hmap, hlap, hframe⟩ := collectLocalRace_kept runtimeState cache frame views
  obtain ⟨hmap', hlap', hframe'⟩ := collectSandboxes_kept _ _ _ runtimeState.activeSandboxes
  exact ⟨hmap'.trans hmap, hlap'.trans hlap, hframe'.trans hframe⟩

end Kept

/-- The official part of a collection of which two calls are still to be
made. -/
theorem collectOfficial_run (runtimeState : EngineRuntimeState) (cache : FrameCollectorCache)
    (frame : RuntimeFrame) (views : ℕ → EngineView) :
    let r := ((collectOfficial runtimeState cache frame).run timingExec views ()).2
    if runtimeState.activityKind = .officialRace then
      r.1.officialMapId = some runtimeState.mapId ∧
      r.1.officialLapLengthM = (if cache.officialMapId = some runtimeState.mapId then
        cache.officialLapLengthM else (views 1).officialLapLength) ∧
      r.2.officialLapLengthM = r.1.officialLapLengthM
    else r.1 = cache := by
  rw [collectOfficial]
  by_cases hactive : runtimeState.activityKind = .officialRace
  · rw [if_neg (not_not_intro hactive), if_pos hactive]
    by_cases hcached : cache.officialMapId = some runtimeState.mapId
    · simp [hcached, Prog.run]
    · simp [hcached, Prog.run, timingExec, EngineView.answer, EngineView.officialLapLength]
  · rw [if_pos hactive, if_neg hactive]
    rfl

theorem collectActive_run (runtimeState : EngineRuntimeState) (cache : FrameCollectorCache)
    (frame : RuntimeFrame) (views : ℕ → EngineView) :
    let r := ((collectActive runtimeState cache frame).run timingExec views ()).2
    if runtimeState.activityKind = .officialRace then
      r.1.officialMapId = some runtimeState.mapId ∧
      r.1.officialLapLengthM = (if cache.officialMapId = some runtimeState.mapId then
        cache.officialLapLengthM else (views 1).officialLapLength) ∧
      r.2.officialLapLengthM = r.1.officialLapLengthM
    else r.1.officialMapId = cache.officialMapId ∧
      r.1.officialLapLengthM = cache.officialLapLengthM := by
  rw [collectActive]
  obtain ⟨k, hk⟩ := Prog.run_bind timingExec (collectOfficial runtimeState cache frame) _ views ()
  rw [hk]
  have hofficial := collectOfficial_run runtimeState cache frame views
  obtain ⟨hmap, hlap, hframe⟩ := collectWorlds_kept runtimeState
    ((collectOfficial runtimeState cache frame).run timingExec views ()).2.1
    ((collectOfficial runtimeState cache frame).run timingExec views ()).2.2
    (fun n => views (n + k))
  dsimp only at hofficial ⊢
  rw [hmap, hlap, hframe]
  by_cases hactive : runtimeState.activityKind = .officialRace
  · rw [if_pos hactive] at hofficial ⊢
    exact hofficial
  · rw [if_neg hactive] at hofficial ⊢
    rw [hofficial]
    exact ⟨rfl, rfl⟩

/-- What a collection does with the lap length of the official race. Its
third call is the read of the track data, if there is one. -/
theorem collected_official (tick nowMs : ℕ) (cache : FrameCollectorCache)
    (views : ℕ → EngineView) :
    let r := collected tick nowMs cache views
    match (views 0).officialMap with
    | none => r.1.officialMapId = cache.officialMapId ∧
        r.1.officialLapLengthM = cache.officialLapLengthM
    | some mapId => r.1.officialMapId = some mapId ∧
        r.1.officialLapLengthM = (if cache.officialMapId = some mapId then
          cache.officialLapLengthM else (views 2).officialLapLength) ∧
        r.2.officialLapLengthM = r.1.officialLapLengthM := by
  rw [collected, collectTimings]
  simp only [Prog.perform_bind, Prog.run, timingExec, EngineView.answer, EngineView.officialMap]
  cases (views 0).stateError with
  | some err => exact ⟨rfl, rfl⟩
  | none =>
      have hactive := collectActive_run (views 0).state cache { RuntimeFrame.default with
        tick := tick, serverTimeMs := nowMs, runtimeState := some (views 0).state }
        (fun n => views (n + 1))
      dsimp only at hactive ⊢
      by_cases hofficial : (views 0).state.activityKind = .officialRace
      · rw [if_pos hofficial] at hactive ⊢
        exact hactive
      · rw [if_neg hofficial] at hactive ⊢
        exact hactive

/-! ## Histories -/

section Histories

variable {nowMs : ℕ → ℕ} {views : ℕ → ℕ → EngineView}

/-- Of the first `n` collections, the last that saw the official race on
another map than before, with that map. -/
def lastChange (views : ℕ → ℕ → EngineView) : ℕ → Option (String × ℕ)
  | 0 => none
  | n + 1 =>
      match (views n 0).officialMap with
      | none => lastChange views n
      | some mapId =>
          if (lastChange views n).map (·.1) = some mapId then lastChange views n
          else some (mapId, n)

/-- The cache holds what the collection of the last change has read. -/
theorem cacheAt_official (n : ℕ) :
    (cacheAt nowMs views n).officialMapId = (lastChange views n).map (·.1) ∧
      (cacheAt nowMs views n).officialLapLengthM =
        (lastChange views n).bind fun change => (views change.2 2).officialLapLength := by
  induction n with
  | zero => exact ⟨rfl, rfl⟩
  | succ n ih =>
      have hcollected := collected_official ((n + 1) % 2 ^ 64) (nowMs n) (cacheAt nowMs views n)
        (views n)
      rw [cacheAt, lastChange]
      dsimp only at hcollected ⊢
      cases hmap : (views n 0).officialMap with
      | none =>
          rw [hmap] at hcollected
          exact ⟨hcollected.1.trans ih.1, hcollected.2.trans ih.2⟩
      | some mapId =>
          rw [hmap] at hcollected
          obtain ⟨hid, hlap, -⟩ := hcollected
          rw [ih.1] at hlap
          dsimp only
          split
          · rename_i hsame
            rw [if_pos hsame] at hlap
            exact ⟨hid.trans hsame.symm, hlap.trans ih.2⟩
          · rename_i hother
            rw [if_neg hother] at hlap
            exact ⟨hid, hlap⟩

/-- Track data of the official race is that of the map it is on. -/
def OfMaps (lapLength : String → F32) (view : EngineView) : Prop :=
  view.state.activityKind = .officialRace →
    ∀ data, view.trackData .officialRace = .ok data →
      data.lapLengthM = lapLength view.state.mapId

/-- A call for the track data finds the official race on a map with the lap
length of the given one, and is answered. -/
def WellRead (lapLength : String → F32) (mapId : String) (view : EngineView) : Prop :=
  view.state.activityKind = .officialRace ∧
  (∃ data, view.trackData .officialRace = .ok data) ∧
  max (lapLength view.state.mapId) 1 = max (lapLength mapId) 1

theorem officialLapLength_eq_iff {lapLength : String → F32} {view : EngineView}
    (hmaps : OfMaps lapLength view) (mapId : String) :
    view.officialLapLength = some (max (lapLength mapId) 1) ↔
      WellRead lapLength mapId view := by
  rw [EngineView.officialLapLength, EngineView.ofWorld, WellRead]
  by_cases hactive : view.state.activityKind = .officialRace
  · rw [if_neg (not_not_intro hactive)]
    cases hdata : view.trackData .officialRace with
    | error err => simp [Except.toOption]
    | ok data => simp [Except.toOption, hactive, hmaps hactive data hdata]
  · rw [if_pos hactive]
    exact iff_of_false (by simp [Except.toOption]) fun h => hactive h.1

/-- A frame of an official race has the lap length of its map exactly when
that was read well at the last change of the map that the hub has seen:
what was read then is not read again while the map stays the same. -/
theorem official_lap_length_as_last_read (lapLength : String → F32) (nowMs : ℕ → ℕ)
    (views : ℕ → ℕ → EngineView) (hmaps : ∀ n k, OfMaps lapLength (views n k)) (n : ℕ)
    (mapId : String) (hofficial : (views n 0).officialMap = some mapId) :
    (frameAt nowMs views n).officialLapLengthM = some (max (lapLength mapId) 1) ↔
      ∃ m, lastChange views (n + 1) = some (mapId, m) ∧
        WellRead lapLength mapId (views m 2) := by
  have hcollected := collected_official ((n + 1) % 2 ^ 64) (nowMs n) (cacheAt nowMs views n)
    (views n)
  rw [hofficial] at hcollected
  obtain ⟨hid, -, hframe⟩ := hcollected
  have hcache : (cacheAt nowMs views (n + 1)).officialMapId = (lastChange views (n + 1)).map (·.1) ∧
      (cacheAt nowMs views (n + 1)).officialLapLengthM =
        (lastChange views (n + 1)).bind fun change => (views change.2 2).officialLapLength :=
    cacheAt_official (n + 1)
  obtain ⟨hchange, hlap⟩ := hcache
  change (cacheAt nowMs views (n + 1)).officialMapId = some mapId at hid
  change (frameAt nowMs views n).officialLapLengthM =
    (cacheAt nowMs views (n + 1)).officialLapLengthM at hframe
  rw [hid] at hchange
  obtain ⟨⟨mapId', m⟩, hlast, hsame⟩ := Option.map_eq_some_iff.mp hchange.symm
  obtain rfl : mapId' = mapId := hsame
  rw [hframe, hlap, hlast, Option.bind_some, officialLapLength_eq_iff (hmaps m 2)]
  constructor
  · intro hread
    exact ⟨m, rfl, hread⟩
  · rintro ⟨m', hm', hread⟩
    obtain rfl : m = m' := congrArg Prod.snd (Option.some.inj hm')
    exact hread

end Histories

/-! ## Collections without a switch -/

section Undisturbed

variable {E : Type} (env : EngineEnv E) {views : ℕ → EngineView}

/-- When the calls find what a worker answers that nothing else commands in
between, the official part is the one of the undisturbed collection. -/
theorem collectOfficial_undisturbed (runtimeState : EngineRuntimeState) (h : Hub E)
    (hduration : (views 0).ofWorld (views 0).raceDuration .officialRace =
      (raceDurationIn env h.worker .officialRace).2)
    (hdata : (views 1).ofWorld (views 1).trackData .officialRace =
      (trackDataIn env (raceDurationIn env h.worker .officialRace).1 .officialRace).2) :
    ((collectOfficial runtimeState h.cache h.frame).run timingExec views ()).2 =
      ((Services.collectOfficial env runtimeState h).cache,
        (Services.collectOfficial env runtimeState h).frame) := by
  rw [collectOfficial, Services.collectOfficial]
  by_cases hactive : runtimeState.activityKind = .officialRace
  · by_cases hcached : h.cache.officialMapId = some runtimeState.mapId
    · simp [hactive, hcached, Prog.run, timingExec, EngineView.answer, hduration]
    · simp [hactive, hcached, Prog.run, timingExec, EngineView.answer, hduration, hdata]
  · simp [hactive, Prog.run]

theorem readWorldTiming_undisturbed (w : Worker E) (target : EngineCommandTarget)
    (mapId : String) (cached : Option (String × F32))
    (hduration : (views 0).ofWorld (views 0).raceDuration target =
      (raceDurationIn env w target).2)
    (hdata : (views 1).ofWorld (views 1).trackData target =
      (trackDataIn env (raceDurationIn env w target).1 target).2) :
    ((readWorldTiming target mapId cached).run timingExec views ()).2 =
      (Services.readWorldTiming env w target mapId cached).2 := by
  rw [readWorldTiming, Services.readWorldTiming]
  by_cases hcached : cached.map (·.1) = some mapId
  · simp [hcached, Prog.run, timingExec, EngineView.answer, hduration]
  · simp only [hcached, if_false, Prog.perform_bind, Prog.run, timingExec, EngineView.answer,
      hduration, hdata]
    cases (trackDataIn env (raceDurationIn env w target).1 target).2 with
    | error err => rfl
    | ok data => rfl

end Undisturbed

/-! ## Two histories -/

namespace OneRace

/-- An official race on a map, of which the track data is read. -/
def on (mapId : String) (lapLengthM : F32) : EngineView where
  state := ⟨0, .officialRace, mapId, none, [], .noon, []⟩
  stateError := none
  raceDuration := fun _ => .ok 0
  trackData := fun _ => .ok ⟨mapId, lapLengthM⟩

/-- The same race while its track data cannot be read. -/
def silent : EngineView := { on "a" 1000 with trackData := fun _ => .error .workerStopped }

def lapLength (mapId : String) : F32 := if mapId = "a" then 1000 else 2000

theorem on_ofMaps (mapId : String) : OfMaps lapLength (on mapId (lapLength mapId)) := by
  rintro - data hdata
  exact (congrArg TrackData.lapLengthM (Except.ok.inj hdata)).symm

/-- The engine answers all the time. -/
def steady (_ _ : ℕ) : EngineView := on "a" 1000

theorem steady_has_lap_length : (frameAt (fun _ => 0) steady 1).officialLapLengthM = some 1000 :=
  (official_lap_length_as_last_read lapLength (fun _ => 0) steady (fun _ _ => on_ofMaps "a") 1 "a"
    rfl).mpr ⟨0, rfl, rfl, ⟨_, rfl⟩, rfl⟩

/-- The first read of the track data fails, and then the engine answers. -/
def oneFailure (n k : ℕ) : EngineView := if n = 0 ∧ k = 2 then silent else on "a" 1000

/-- One failed read leaves the race without its lap length. -/
theorem failed_read_is_kept :
    (∀ n k, OfMaps lapLength (oneFailure n k)) ∧ (∀ k, oneFailure 1 k = on "a" 1000) ∧
    (frameAt (fun _ => 0) oneFailure 1).officialLapLengthM ≠ some (max (lapLength "a") 1) := by
  refine ⟨fun n k => ?_, fun k => rfl, by decide⟩
  rw [oneFailure]
  split
  · rintro - data hdata
    cases hdata
  · exact on_ofMaps "a"

end OneRace

end LapLengths

end HackArena.Services
