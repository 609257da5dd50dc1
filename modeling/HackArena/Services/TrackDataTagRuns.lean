import HackArena.Runtime.CarWorld
import HackArena.Services.TrackDataTags

/-!
# Track data that is read in time

A task remembers what it has read for a map, and keeps or announces nothing
else under that map. So all that is kept is true as long as every answered
read finds its target on the map that it is read for.
-/

namespace HackArena.Services

open Boink HackArena.Runtime GuardedRun

namespace TrackDataTags

open AchievementStream LapLengths

variable {E : Type}

/-! ## What a task has read -/

/-- The runtime state that a task has read last, the track data that it has
read for each map, and the descriptors that it has found. -/
structure TagStage where
  reading : Option EngineRuntimeState
  read : String → TrackData → Prop
  found : ResolvedSourceDescriptor → Prop

namespace TagStage

def start : TagStage := ⟨none, fun _ _ => False, fun _ => False⟩

/-- The track data has been read for these maps. -/
def tag (s : TagStage) (maps : String → Prop) (data : TrackData) : TagStage :=
  { s with read := fun mapId data' => s.read mapId data' ∨ maps mapId ∧ data' = data }

def next (s : TagStage) : (op : TagOp) → op.Answer → TagStage
  | .timing .runtimeState, .ok state => { s with reading := some state }
  | .timing (.trackData target), .ok data =>
      s.tag (fun mapId => ∃ state ∈ s.reading, mapId ∈ shownMaps state target) data
  | .cached _, some cached => { s with found := fun r => s.found r ∨ r = cached }
  | .trackData source, .ok data => s.tag (· = source.mapId) data
  | _, _ => s

def Knows (s : TagStage) (r : ResolvedSourceDescriptor) : Prop :=
  s.found r ∨ DescriptorRead s.read r

/-- The first task reads timings; everything kept has been read. -/
def permits (i : ℕ) (s : TagStage) : TagOp → Prop
  | .timing _ => i = 0
  | .publish cache _ => LapsRead s.read cache
  | .insert source data => s.read source.mapId data
  | .announce descriptors => ∀ r ∈ descriptors, s.Knows r
  | _ => True

/-- Nothing that was read is forgotten. -/
structure Grown (s s' : TagStage) : Prop where
  read : ∀ mapId data, s.read mapId data → s'.read mapId data
  found : ∀ r, s.found r → s'.found r

theorem Grown.refl (s : TagStage) : Grown s s := ⟨fun _ _ h => h, fun _ h => h⟩

theorem Grown.trans {s s' s'' : TagStage} (h : Grown s s') (h' : Grown s' s'') : Grown s s'' :=
  ⟨fun _ _ hread => h'.read _ _ (h.read _ _ hread), fun _ hfound => h'.found _ (h.found _ hfound)⟩

theorem grown_tag (s : TagStage) (maps : String → Prop) (data : TrackData) :
    Grown s (s.tag maps data) := ⟨fun _ _ h => Or.inl h, fun _ h => h⟩

end TagStage

def tagProtocol (i : ℕ) : Protocol TagOp TagOp.Answer TagStage where
  init := .start
  next := TagStage.next
  permits := TagStage.permits i

/-- What the hub does up to the cars, on its own. -/
def timingProtocol : Protocol TimingOp TimingOp.Answer TagStage where
  init := .start
  next s op answer := s.next (.timing op) answer
  permits _ _ := True

/-! ## More reads -/

section Mono

variable {Read Read' : String → TrackData → Prop}
  (hmono : ∀ mapId data, Read mapId data → Read' mapId data)

include hmono

theorem LapRead.mono {lap : String × F32} (h : LapRead Read lap) : LapRead Read' lap := by
  obtain ⟨data, hread, hlap⟩ := h
  exact ⟨data, hmono _ _ hread, hlap⟩

theorem LapsRead.mono {cache : FrameCollectorCache} (h : LapsRead Read cache) :
    LapsRead Read' cache where
  official := fun mapId hmap lap hlap => (h.official mapId hmap lap hlap).mono hmono
  localRace := fun raceId lap hlap => (h.localRace raceId lap hlap).mono hmono
  sandbox := fun sandboxId lap hlap => (h.sandbox sandboxId lap hlap).mono hmono

theorem EntryRead.mono {key : AchievementSourceKey} {entry : SourceDescriptorCacheEntry}
    (h : EntryRead Read key entry) : EntryRead Read' key entry := by
  obtain ⟨data, hread, hentry⟩ := h
  exact ⟨data, hmono _ _ hread, hentry⟩

theorem DescriptorRead.mono {r : ResolvedSourceDescriptor} (h : DescriptorRead Read r) :
    DescriptorRead Read' r := by
  obtain ⟨data, hread, hr⟩ := h
  exact ⟨data, hmono _ _ hread, hr⟩

end Mono

theorem lapsRead_default (Read : String → TrackData → Prop) : LapsRead Read .default where
  official := fun _ hmap => by cases hmap
  localRace := fun _ _ hlap => by cases hlap
  sandbox := fun _ _ hlap => by cases hlap

theorem TagStage.Knows.grown {s s' : TagStage} {r : ResolvedSourceDescriptor} (h : s.Knows r)
    (hgrown : s.Grown s') : s'.Knows r := by
  rcases h with hfound | hread
  · exact Or.inl (hgrown.found r hfound)
  · exact Or.inr (hread.mono hgrown.read)

/-! ## The hub -/

section Hub

variable {state : EngineRuntimeState} {cache : FrameCollectorCache} {frame : RuntimeFrame}
  {s : TagStage}

/-- The hub works on a runtime state, with what it has read. -/
structure Collecting (state : EngineRuntimeState) (s : TagStage) (cache : FrameCollectorCache) :
    Prop where
  reading : s.reading = some state
  laps : LapsRead s.read cache

theorem readWorldTiming_follows {target : EngineCommandTarget} {mapId : String}
    (hshown : mapId ∈ shownMaps state target) {cached : Option (String × F32)}
    (hreading : s.reading = some state) (hcached : ∀ lap ∈ cached, LapRead s.read lap) :
    (LapLengths.readWorldTiming target mapId cached).Follows timingProtocol
      (fun r s' => s'.reading = some state ∧ s.Grown s' ∧ ∀ lap ∈ r.2, LapRead s'.read lap) s := by
  refine Prog.Follows.call trivial fun duration => ?_
  by_cases hsame : cached.map (·.1) = some mapId
  · rw [if_pos hsame]
    exact ⟨hreading, .refl s, hcached⟩
  · rw [if_neg hsame]
    refine Prog.Follows.call trivial fun answer => ?_
    cases answer with
    | error err => exact ⟨hreading, .refl s, hcached⟩
    | ok data =>
        refine ⟨hreading, TagStage.grown_tag s _ data, fun lap hlap => ?_⟩
        obtain rfl : (mapId, max data.lapLengthM 1) = lap := Option.some.inj hlap
        exact ⟨data, Or.inr ⟨⟨state, hreading, hshown⟩, rfl⟩, rfl⟩

theorem collectOfficial_follows (h : Collecting state s cache) :
    (LapLengths.collectOfficial state cache frame).Follows timingProtocol
      (fun r s' => Collecting state s' r.1) s := by
  rw [LapLengths.collectOfficial]
  by_cases hactive : state.activityKind = .officialRace
  · rw [if_neg (not_not_intro hactive)]
    refine Prog.Follows.call trivial fun duration => ?_
    dsimp only
    by_cases hsame : cache.officialMapId = some state.mapId
    · rw [if_pos hsame]
      exact h
    · rw [if_neg hsame]
      refine Prog.Follows.call trivial fun answer => ?_
      cases answer with
      | error err =>
          refine ⟨h.reading, fun _ _ _ hlap => ?_, h.laps.localRace, h.laps.sandbox⟩
          cases hlap
      | ok data =>
          have hgrown := TagStage.grown_tag s
            (fun mapId => ∃ state ∈ s.reading, mapId ∈ shownMaps state .officialRace) data
          have hlaps := h.laps.mono hgrown.read
          refine ⟨h.reading, ?_, hlaps.localRace, hlaps.sandbox⟩
          intro mapId hmap lapLengthM hlap
          obtain rfl := Option.some.inj hmap
          obtain rfl := Option.some.inj hlap
          exact ⟨data, Or.inr ⟨⟨state, h.reading, by simp [shownMaps, hactive]⟩, rfl⟩, rfl⟩
  · rw [if_pos hactive]
    exact h

theorem collectLocalRace_follows (h : Collecting state s cache) :
    (LapLengths.collectLocalRace state cache frame).Follows timingProtocol
      (fun r s' => Collecting state s' r.1) s := by
  rw [LapLengths.collectLocalRace]
  cases hrace : state.activeLocalRace with
  | none =>
      refine ⟨h.reading, h.laps.official, fun _ _ hlap => ?_, h.laps.sandbox⟩
      cases hlap
  | some active =>
      have hretained : ∀ raceId, ∀ lap ∈ (if active.raceId = raceId then
          cache.localRaceLapLengthM raceId else none), LapRead s.read lap := by
        intro raceId lap hlap
        split at hlap
        · exact h.laps.localRace raceId lap hlap
        · cases hlap
      have hshown : active.mapId ∈ shownMaps state (.localRace active.raceId) := by
        simp [shownMaps, hrace]
      apply Prog.Follows.andThen (readWorldTiming_follows hshown h.reading (hretained _))
      rintro ⟨duration, lap⟩ s' ⟨hreading, hgrown, hlap⟩
      have hlaps := h.laps.mono hgrown.read
      refine ⟨hreading, hlaps.official, fun raceId => ?_, hlaps.sandbox⟩
      by_cases hid : raceId = active.raceId
      · subst hid
        dsimp only
        rw [Function.update_self]
        exact hlap
      · dsimp only
        rw [Function.update_of_ne hid]
        exact fun lap hmem => (hretained raceId lap hmem).mono hgrown.read

theorem collectSandboxes_follows {actives : List EngineActiveSandboxState}
    (hactives : ∀ active ∈ actives, active.mapId ∈ shownMaps state (.sandbox active.sandboxId))
    (h : Collecting state s cache) :
    (LapLengths.collectSandboxes cache frame actives).Follows timingProtocol
      (fun r s' => Collecting state s' r.1) s := by
  induction actives generalizing cache frame s with
  | nil => exact h
  | cons active rest ih =>
      rw [LapLengths.collectSandboxes]
      apply Prog.Follows.andThen (readWorldTiming_follows
        (hactives active List.mem_cons_self) h.reading (h.laps.sandbox active.sandboxId))
      rintro ⟨duration, lap⟩ s' ⟨hreading, hgrown, hlap⟩
      have hlaps := h.laps.mono hgrown.read
      apply ih (fun active' hmem => hactives active' (List.mem_cons_of_mem _ hmem))
      refine ⟨hreading, hlaps.official, hlaps.localRace, fun sandboxId => ?_⟩
      by_cases hid : sandboxId = active.sandboxId
      · subst hid
        dsimp only
        rw [Function.update_self]
        exact hlap
      · dsimp only
        rw [Function.update_of_ne hid]
        exact hlaps.sandbox sandboxId

theorem collectWorlds_follows (h : Collecting state s cache) :
    (LapLengths.collectWorlds state cache frame).Follows timingProtocol
      (fun r s' => Collecting state s' r.1) s := by
  apply Prog.Follows.andThen (collectLocalRace_follows h)
  intro r s' hr
  apply collectSandboxes_follows
  · intro active hmem
    simp only [shownMaps, List.mem_map, List.mem_filter, decide_eq_true_eq]
    exact ⟨active, ⟨hmem, rfl⟩, rfl⟩
  · refine ⟨hr.reading, hr.laps.official, hr.laps.localRace, fun sandboxId lap hlap => ?_⟩
    dsimp only at hlap
    split at hlap
    · exact hr.laps.sandbox sandboxId lap hlap
    · cases hlap

theorem collectTimings_follows (frame : RuntimeFrame) (h : LapsRead s.read cache) :
    (collectTimings cache frame).Follows timingProtocol (fun r s' => LapsRead s'.read r.1) s := by
  refine Prog.Follows.call trivial fun answer => ?_
  cases answer with
  | error err => exact h
  | ok state =>
      have hcollecting : Collecting state { s with reading := some state } cache := ⟨rfl, h⟩
      refine Prog.Follows.andThen (collectOfficial_follows hcollecting) fun r s' hr => ?_
      exact (collectWorlds_follows hr).mono fun _ _ hr' => hr'.laps

theorem collectFrames_follows (nowMs : ℕ → ℕ) (n tick : ℕ) (h : LapsRead s.read cache) :
    (collectFrames nowMs n tick cache).Follows (tagProtocol 0) (fun _ _ => True) s := by
  induction n generalizing tick cache s with
  | zero => trivial
  | succ n ih =>
      have hcollected : ((collectTimings cache { RuntimeFrame.default with
          tick := tick, serverTimeMs := nowMs n }).embed TagOp.timing fun _ => id).Follows
          (tagProtocol 0) (fun r s' => LapsRead s'.read r.1) s :=
        (collectTimings_follows _ h).embed (fun _ _ _ => rfl) fun _ _ _ => rfl
      refine Prog.Follows.andThen hcollected fun r s' hr => ?_
      exact Prog.Follows.call hr fun _ => ih _ hr

end Hub

/-! ## The streams -/

section Streams

variable {s : TagStage} {i : ℕ}

theorem resolveDescriptor_follows (source : ActiveSource) :
    (resolveDescriptor source).Follows (tagProtocol i)
      (fun found s' => s.Grown s' ∧ ∀ r ∈ found, s'.Knows r) s := by
  refine Prog.Follows.call trivial fun cached => ?_
  cases cached with
  | some cached =>
      refine ⟨⟨fun _ _ h => h, fun _ h => Or.inl h⟩, fun r hr => ?_⟩
      obtain rfl := Option.some.inj hr
      exact Or.inl (Or.inr rfl)
  | none =>
      refine Prog.Follows.call trivial fun answer => ?_
      cases answer with
      | error err => exact ⟨.refl s, fun r hr => by cases hr⟩
      | ok data =>
          refine Prog.Follows.call (Or.inr ⟨rfl, rfl⟩) fun _ => ?_
          refine ⟨TagStage.grown_tag s _ data, fun r hr => ?_⟩
          obtain rfl := Option.some.inj hr
          exact Or.inr ⟨data, Or.inr ⟨rfl, rfl⟩, rfl⟩

theorem resolveSources_follows (sources : List ActiveSource) :
    (resolveSources sources).Follows (tagProtocol i)
      (fun found s' => s.Grown s' ∧ ∀ r ∈ found, s'.Knows r) s := by
  induction sources generalizing s with
  | nil => exact ⟨.refl s, fun r hr => absurd hr List.not_mem_nil⟩
  | cons source rest ih =>
      apply Prog.Follows.andThen (resolveDescriptor_follows source)
      rintro first s' ⟨hfirst, hknown⟩
      apply Prog.Follows.andThen ih
      rintro others s'' ⟨hothers, hknown'⟩
      refine ⟨hfirst.trans hothers, fun r hr => ?_⟩
      rcases List.mem_append.mp hr with hr | hr
      · exact (hknown r (Option.mem_toList.mp hr)).grown hothers
      · exact hknown' r hr

theorem runStream_follows (n : ℕ) :
    (runStream n).Follows (tagProtocol i) (fun _ _ => True) s := by
  induction n generalizing s with
  | zero => trivial
  | succ n ih =>
      refine Prog.Follows.call trivial fun frame => ?_
      apply Prog.Follows.andThen (resolveSources_follows (collectActiveSources frame))
      rintro found s' ⟨-, hknown⟩
      refine Prog.Follows.call (fun r hr => ?_) fun _ => ih
      exact hknown r (mem_sortByKey.mp hr)

end Streams

theorem tasks_follow (nowMs : ℕ → ℕ) (turns : ℕ → ℕ) (s : TagState E) :
    (Pool.start s (tasks nowMs turns)).FollowedBy tagProtocol fun _ _ => True := by
  intro i
  cases i with
  | zero => exact collectFrames_follows nowMs (turns 0) 0 (lapsRead_default _)
  | succ i => exact runStream_follows (turns (i + 1))

/-! ## The invariant -/

/-- What the tasks have read has been answered on the maps they have read it
for. -/
structure TagInv (s : TagState E) (stages : ℕ → TagStage) : Prop where
  placed : Placed s.worker
  reading : ∀ state, (stages 0).reading = some state → s.reading = some state
  read : ∀ i mapId data, (stages i).read mapId data → s.WasRead mapId data
  found : ∀ i r, (stages i).found r → DescriptorRead s.WasRead r
  truthful : Truthful s

section Steps

variable {b : Build} {s s' : TagState E} {stages : ℕ → TagStage} {stage : TagStage} {i : ℕ}
  {input : TagInput E}

theorem tagInv_initial : TagInv (TagState.initial E) fun _ => .start where
  placed := placed_initial
  reading := fun _ h => by cases h
  read := fun _ _ _ h => h.elim
  found := fun _ _ h => h.elim
  truthful := {
    laps := lapsRead_default _
    descriptors := fun key entry h => by
      rw [TagState.initial, Finmap.lookup_empty] at h
      cases h
    announced := fun r h => absurd h List.not_mem_nil }

/-- What was read before is read. -/
theorem Truthful.grown (h : Truthful s) (hcache : s'.cache = s.cache)
    (hdescriptors : s'.descriptors = s.descriptors) (hannounced : s'.announced = s.announced)
    (hreads : s.reads ⊆ s'.reads) : Truthful s' := by
  have hmono : ∀ mapId data, s.WasRead mapId data → s'.WasRead mapId data :=
    fun _ _ hread => hreads hread
  refine ⟨?_, fun key entry hentry => ?_, fun r hr => ?_⟩
  · rw [hcache]
    exact h.laps.mono hmono
  · rw [hdescriptors] at hentry
    exact (h.descriptors key entry hentry).mono hmono
  · rw [hannounced] at hr
    exact (h.announced r hr).mono hmono

theorem TagInv.moved (h : TagInv s stages) (input : TagInput E) :
    TagInv (s.moved b input) stages :=
  ⟨h.placed.foldl input.events, h.reading, h.read, h.found,
    h.truthful.grown rfl rfl rfl (List.Subset.refl _)⟩

/-- A call of one task. -/
theorem TagInv.step (h : TagInv s stages) (hplaced : Placed s'.worker)
    (hreads : s.reads ⊆ s'.reads)
    (hreading : ∀ state, (Function.update stages i stage 0).reading = some state →
      s'.reading = some state)
    (hread : ∀ mapId data, stage.read mapId data →
      (stages i).read mapId data ∨ s'.WasRead mapId data)
    (hfound : ∀ r, stage.found r → (stages i).found r ∨ DescriptorRead s.WasRead r)
    (htruthful : Truthful s') : TagInv s' (Function.update stages i stage) := by
  have hmono : ∀ mapId data, s.WasRead mapId data → s'.WasRead mapId data :=
    fun _ _ hread => hreads hread
  refine ⟨hplaced, hreading, fun j mapId data hj => ?_, fun j r hj => ?_, htruthful⟩
  · by_cases hij : j = i
    · subst hij
      rw [Function.update_self] at hj
      rcases hread mapId data hj with hold | hnew
      · exact hmono _ _ (h.read j mapId data hold)
      · exact hnew
    · rw [Function.update_of_ne hij] at hj
      exact hmono _ _ (h.read j mapId data hj)
  · by_cases hij : j = i
    · subst hij
      rw [Function.update_self] at hj
      rcases hfound r hj with hold | hnew
      · exact (h.found j r hold).mono hmono
      · exact hnew.mono hmono
    · rw [Function.update_of_ne hij] at hj
      exact (h.found j r hj).mono hmono

/-- A call from which its task learns nothing. -/
theorem TagInv.kept (h : TagInv s stages) (hplaced : Placed s'.worker)
    (hreads : s.reads ⊆ s'.reads) (hreading : s'.reading = s.reading) (htruthful : Truthful s') :
    TagInv s' (Function.update stages i (stages i)) := by
  refine h.step hplaced hreads (fun state hstate => ?_) (fun _ _ hread => Or.inl hread)
    (fun _ hfound => Or.inl hfound) htruthful
  rw [Function.update_eq_self] at hstate
  rw [hreading]
  exact h.reading state hstate

/-- An answered read is recorded with the map that the state shows. -/
theorem readTrackData_cases (h : Placed s.worker) (input : TagInput E)
    (target : EngineCommandTarget) :
    (∃ err, (s.readTrackData input target).2 = .error err ∧
        Placed (s.readTrackData input target).1.worker ∧
        (s.readTrackData input target).1 = { s with
          worker := (s.readTrackData input target).1.worker }) ∨
      ∃ data mapId, (s.readTrackData input target).2 = .ok data ∧
        s.worker.state.map? target = some mapId ∧
        Placed (s.readTrackData input target).1.worker ∧
        (s.readTrackData input target).1 = { s with
          worker := (s.readTrackData input target).1.worker
          reads := ⟨mapId, data⟩ :: s.reads } := by
  unfold TagState.readTrackData
  cases input.fails with
  | some err => exact Or.inl ⟨err, rfl, h, rfl⟩
  | none =>
      have hplaced : Placed (trackDataIn (Loaded.env input.env) s.worker target).1 :=
        h.callIn target input.env.api.trackData
      cases hanswer : (trackDataIn (Loaded.env input.env) s.worker target).2 with
      | error err => exact Or.inl ⟨err, rfl, hplaced, by simp [hanswer, recordRead]⟩
      | ok data =>
          obtain ⟨mapId, hmap⟩ := loadedMap?_of_callIn hanswer
          exact Or.inr ⟨data, mapId, rfl, h.maps target mapId hmap, hplaced,
            by simp [hanswer, hmap, recordRead]⟩

/-- A read in time tells its task what the map has. -/
theorem TagInv.readTrackData (h : TagInv s stages) {target : EngineCommandTarget}
    (maps : String → Prop)
    (hin : ∀ mapId, maps mapId → (s.readTrackData input target).2.isOk = true →
      s.worker.state.map? target = some mapId)
    (hstage : ∀ data, (s.readTrackData input target).2 = .ok data →
      stage = (stages i).tag maps data)
    (herror : ∀ err, (s.readTrackData input target).2 = .error err → stage = stages i) :
    TagInv (s.readTrackData input target).1 (Function.update stages i stage) := by
  rcases readTrackData_cases h.placed input target with
    ⟨err, hanswer, hplaced, hsame⟩ | ⟨data, mapId, hanswer, hmap, hplaced, hread⟩
  · rw [herror err hanswer]
    refine h.kept hplaced ?_ ?_ ?_
    · rw [hsame]
      exact List.Subset.refl _
    · rw [hsame]
    · rw [hsame]
      exact h.truthful.grown rfl rfl rfl (List.Subset.refl _)
  · rw [hstage data hanswer]
    refine h.step hplaced ?_ (fun state hstate => ?_) (fun mapId' data' htag => ?_)
      (fun _ hfound => Or.inl hfound) ?_
    · rw [hread]
      exact List.subset_cons_self _ _
    · rw [hread]
      refine h.reading state ?_
      by_cases hi : 0 = i
      · subst hi
        rwa [Function.update_self] at hstate
      · rwa [Function.update_of_ne hi] at hstate
    · rcases htag with hold | ⟨hmaps, rfl⟩
      · exact Or.inl hold
      · have hshown := hin mapId' hmaps (by rw [hanswer]; rfl)
        obtain rfl : mapId = mapId' := Option.some.inj (hmap.symm.trans hshown)
        refine Or.inr ?_
        rw [hread]
        exact List.mem_cons_self
    · rw [hread]
      exact h.truthful.grown rfl rfl rfl (List.subset_cons_self _ _)

/-- What is found in the cache has been read. -/
theorem Truthful.cachedDescriptor (h : Truthful s) {source : ActiveSource}
    {r : ResolvedSourceDescriptor} (hcached : cachedDescriptor s.descriptors source = some r) :
    DescriptorRead s.WasRead r := by
  unfold AchievementStream.cachedDescriptor at hcached
  cases hlookup : s.descriptors.lookup source.key with
  | none =>
      rw [hlookup] at hcached
      cases hcached
  | some entry =>
      rw [hlookup] at hcached
      dsimp only at hcached
      split at hcached
      · cases hcached
      · obtain rfl := Option.some.inj hcached
        obtain ⟨data, hread, hentry⟩ := h.descriptors source.key entry hlookup
        refine ⟨data, hread, ?_⟩
        change entry.resolved source.key =
          (SourceDescriptorCacheEntry.read ⟨source.key, entry.mapId⟩ data).resolved source.key
        rw [← hentry]

/-- Every call of a task keeps the invariant, if it reads in time. -/
theorem tagInv_exec (h : TagInv s stages) {op : TagOp} (hpermits : (stages i).permits i op)
    (htime : ReadInTime b ⟨s, []⟩ i op input) :
    TagInv (tagExec b s op input).1
      (Function.update stages i ((stages i).next op (tagExec b s op input).2)) := by
  have hmoved := h.moved (b := b) input
  have hkept : TagInv (s.moved b input) (Function.update stages i (stages i)) :=
    hmoved.kept hmoved.placed (List.Subset.refl _) rfl hmoved.truthful
  cases op with
  | timing op =>
      obtain rfl : i = 0 := hpermits
      cases op with
      | runtimeState =>
          cases hfails : input.fails with
          | some err =>
              have hexec : tagExec b s (.timing .runtimeState) input =
                  (s.moved b input, .error err) := by simp [tagExec, hfails]
              rw [hexec]
              exact hkept
          | none =>
              have hexec : tagExec b s (.timing .runtimeState) input =
                  ({ s.moved b input with reading := some (s.moved b input).worker.state },
                    .ok (s.moved b input).worker.state) := by simp [tagExec, hfails]
              rw [hexec]
              refine hmoved.step hmoved.placed (List.Subset.refl _) (fun state hstate => ?_)
                (fun _ _ hread => Or.inl hread) (fun _ hfound => Or.inl hfound)
                (hmoved.truthful.grown rfl rfl rfl (List.Subset.refl _))
              rw [Function.update_self] at hstate
              exact hstate
      | raceDuration target =>
          cases hfails : input.fails with
          | some err =>
              have hexec : tagExec b s (.timing (.raceDuration target)) input =
                  (s.moved b input, .error err) := by simp [tagExec, hfails]
              rw [hexec]
              exact hkept
          | none =>
              have hworker : (tagExec b s (.timing (.raceDuration target)) input).1 =
                  { s.moved b input with worker := (raceDurationIn (Loaded.env input.env)
                    (s.moved b input).worker target).1 } := by simp [tagExec, hfails]
              rw [hworker]
              exact hmoved.kept (hmoved.placed.callIn target input.env.api.raceDuration)
                (List.Subset.refl _) rfl
                (hmoved.truthful.grown rfl rfl rfl (List.Subset.refl _))
      | trackData target =>
          apply hmoved.readTrackData fun mapId =>
            ∃ state ∈ (stages 0).reading, mapId ∈ shownMaps state target
          · rintro mapId ⟨state, hstate, hshown⟩ hok
            exact htime state (h.reading state hstate) mapId hshown hok
          · intro data hanswer
            change (stages 0).next (.timing (.trackData target))
              ((s.moved b input).readTrackData input target).2 = _
            rw [hanswer]
            rfl
          · intro err hanswer
            change (stages 0).next (.timing (.trackData target))
              ((s.moved b input).readTrackData input target).2 = _
            rw [hanswer]
            rfl
  | publish cache frame =>
      refine hmoved.kept hmoved.placed (List.Subset.refl _) rfl ⟨?_,
        hmoved.truthful.descriptors, hmoved.truthful.announced⟩
      exact LapsRead.mono (hmoved.read i) hpermits
  | latest => exact hkept
  | cached source =>
      cases hcached : cachedDescriptor s.descriptors source with
      | none =>
          have hexec : tagExec b s (.cached source) input = (s.moved b input, none) :=
            congrArg (Prod.mk _) hcached
          rw [hexec]
          exact hkept
      | some cached =>
          have hexec : tagExec b s (.cached source) input = (s.moved b input, some cached) :=
            congrArg (Prod.mk _) hcached
          rw [hexec]
          refine hmoved.step hmoved.placed (List.Subset.refl _) (fun state hstate => ?_)
            (fun _ _ hread => Or.inl hread) (fun r hfound => ?_) hmoved.truthful
          · refine hmoved.reading state ?_
            by_cases hi : 0 = i
            · subst hi
              rwa [Function.update_self] at hstate
            · rwa [Function.update_of_ne hi] at hstate
          · rcases hfound with hold | rfl
            · exact Or.inl hold
            · exact Or.inr (hmoved.truthful.cachedDescriptor hcached)
  | trackData source =>
      apply hmoved.readTrackData (· = source.mapId)
      · rintro mapId rfl hok
        exact htime hok
      · intro data hanswer
        change (stages i).next (.trackData source)
          ((s.moved b input).readTrackData input source.key.toEngineTarget).2 = _
        rw [hanswer]
        rfl
      · intro err hanswer
        change (stages i).next (.trackData source)
          ((s.moved b input).readTrackData input source.key.toEngineTarget).2 = _
        rw [hanswer]
        rfl
  | insert source trackData =>
      refine hmoved.kept hmoved.placed (List.Subset.refl _) rfl ⟨hmoved.truthful.laps,
        fun key entry hentry => ?_, hmoved.truthful.announced⟩
      change entry ∈ (s.descriptors.insert source.key (.read source trackData)).lookup key at hentry
      by_cases hkey : key = source.key
      · subst hkey
        rw [Finmap.lookup_insert] at hentry
        obtain rfl := Option.some.inj hentry
        exact ⟨trackData, hmoved.read i source.mapId trackData hpermits, rfl⟩
      · rw [Finmap.lookup_insert_of_ne _ hkey] at hentry
        exact hmoved.truthful.descriptors key entry hentry
  | announce descriptors =>
      refine hmoved.kept hmoved.placed (List.Subset.refl _) rfl ⟨hmoved.truthful.laps,
        hmoved.truthful.descriptors, fun r hr => ?_⟩
      rcases List.mem_append.mp hr with hr | hr
      · rcases hpermits r hr with hfound | hread
        · exact hmoved.found i r hfound
        · exact hread.mono (hmoved.read i)
      · exact hmoved.truthful.announced r hr

end Steps

/-! ## Runs -/

/-- The state after the first calls of a run. -/
def stateAfter (b : Build) (nowMs : ℕ → ℕ) (turns : ℕ → ℕ) (events : List (ℕ × TagInput E))
    (n : ℕ) : TagState E :=
  (stateAt (Pool.step (tagExec b)) (Pool.start (TagState.initial E) (tasks nowMs turns)) events
    n).world.shared

/-- While every answered read of track data finds its target on the map that
it is read for, nothing is kept or announced under the map of another world. -/
theorem track_data_under_its_map (b : Build) (nowMs : ℕ → ℕ) (turns : ℕ → ℕ)
    (events : List (ℕ × TagInput E))
    (htime : Along (Pool.Guarded (ReadInTime b)) (Pool.step (tagExec b))
      (Pool.start (TagState.initial E) (tasks nowMs turns)) events) (n : ℕ) :
    Truthful (stateAfter b nowMs turns events n) := by
  have hkept : ∀ (w : World (TagState E) TagOp TagOp.Answer) i op input,
      (TagInv w.shared fun j => (tagProtocol j).stageOf j w.log) → ReadInTime b w i op input →
        (tagProtocol i).permits ((tagProtocol i).stageOf i w.log) op →
          TagInv (w.perform (tagExec b) i op input).shared
            fun j => (tagProtocol j).stageOf j (w.perform (tagExec b) i op input).log := by
    intro w i op input hw hin hpermits
    rw [Protocol.stages_perform]
    exact tagInv_exec hw hpermits hin
  have hinv := (tasks_follow nowMs turns (TagState.initial E)).invariant hkept tagInv_initial htime n
  exact hinv.truthful

/-! ## One sandbox -/

/-- An engine with a lap of a kilometre on the first map and of two on any
other. -/
def lapEnv : EngineEnv CarWorld where
  api := { CarWorld.api with trackData := fun e => (e, .ok ⟨"", 1000 * e.issued⟩) }
  loadEngine := fun mapId => .ok ⟨if mapId = "a" then 1 else 2, []⟩

def activate (rev : ℕ) (mapId : String) : WorkerEvent CarWorld :=
  .command lapEnv (.switchRuntime rev .sandbox mapId (some "s") (some .noon) none)

def deactivate (rev : ℕ) : WorkerEvent CarWorld :=
  .command lapEnv (.deactivateSandbox rev "s")

/-- The hub makes a collection and a stream a snapshot. The worker does
`early` before the runtime state is read, and `late` before the track data. -/
def hubThenStream (early late : List (WorkerEvent CarWorld)) : List (ℕ × TagInput CarWorld) :=
  [(0, ⟨early, none, lapEnv⟩), (0, ⟨[], none, lapEnv⟩), (0, ⟨late, none, lapEnv⟩),
    (0, ⟨[], none, lapEnv⟩), (1, ⟨[], none, lapEnv⟩), (1, ⟨[], none, lapEnv⟩),
    (1, ⟨[], none, lapEnv⟩), (1, ⟨[], none, lapEnv⟩), (1, ⟨[], none, lapEnv⟩)]

/-- A sandbox that stays on its map. -/
theorem track_data_under_its_map_settled :
    (stateAfter .official id (fun _ => 1) (hubThenStream [activate 0 "a"] []) 9
      ).cache.sandboxLapLengthM "s" = some ("a", 1000) ∧
    Truthful (stateAfter .official id (fun _ => 1) (hubThenStream [activate 0 "a"] []) 9) :=
  ⟨by decide +kernel,
    track_data_under_its_map .official id (fun _ => 1) (hubThenStream [activate 0 "a"] [])
      (by decide +kernel) 9⟩

/-- A sandbox that is taken down and comes back on another map, after the hub
has been shown the first one: the hub and the streams keep the new lap under
the old map, and no world on the old map was ever asked. -/
theorem track_data_of_another_map :
    let s := stateAfter .official id (fun _ => 1)
      (hubThenStream [activate 0 "a"] [deactivate 1, activate 2 "b"]) 9
    s.cache.sandboxLapLengthM "s" = some ("a", 2000) ∧
    (s.descriptors.lookup (.officialSandbox "s")).map
      (fun entry => (entry.mapId, entry.trackData.lapLengthM)) = some ("a", 2000) ∧
    (∀ read ∈ s.reads, read.mapId = "b") ∧ ¬ Truthful s := by
  intro s
  have hcache : s.cache.sandboxLapLengthM "s" = some ("a", 2000) := by decide +kernel
  have hreads : ∀ read ∈ s.reads, read.mapId = "b" := by decide +kernel
  refine ⟨hcache, by decide +kernel, hreads, fun h => ?_⟩
  obtain ⟨data, hread, -⟩ := h.laps.sandbox "s" ("a", 2000) hcache
  exact absurd (hreads _ hread) (by decide : ("a" : String) ≠ "b")

end TrackDataTags

end HackArena.Services
