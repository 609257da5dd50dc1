import HackArena.Services.AchievementSources

/-!
# The achievement stream

Settings, a bootstrap and a snapshot come first. Every tick announces the
sources that the tick before did not have with the same map, and sends a
snapshot of all of them.
-/

namespace HackArena.Services.AchievementStream

open Boink HackArena.Runtime

variable {E : Type}

/-! ## Messages -/

inductive AchievementStreamClampReason where
  | none | serverLimit
  deriving DecidableEq, Repr

inductive AchievementPayload where
  | settings (requestedHz effectiveHz : ℕ) (clampReason : AchievementStreamClampReason)
  | bootstrap (sources : List AchievementRuntimeSourceDescriptor)
  | snapshot (tick serverTimeMs : ℕ) (sources : List AchievementSourceSnapshot)
  | topologyUpdate (upsertedSources : List AchievementRuntimeSourceDescriptor)
  deriving DecidableEq

def minStreamHz : ℕ := 1
def maxStreamHz : ℕ := 120

def effectiveStreamHz (requestedHz simulationHz : ℕ) : ℕ :=
  max minStreamHz (min requestedHz (min maxStreamHz (max simulationHz 1)))

def streamSettings (requestedHz simulationHz : ℕ) : AchievementPayload :=
  let effectiveHz := effectiveStreamHz requestedHz simulationHz
  .settings requestedHz effectiveHz (if effectiveHz = requestedHz then .none else .serverLimit)

/-! ## The stream -/

/-- What has been sent, the latest first. A stream that is not live has
ended, since a message could not be sent. -/
structure StreamRun where
  cache : DescriptorCache
  announcedSources : HashMap AchievementSourceKey String
  sent : List AchievementPayload
  live : Bool

def StreamRun.send (s : StreamRun) (payload : AchievementPayload) (delivered : Bool) : StreamRun :=
  if delivered then { s with sent := payload :: s.sent } else { s with live := false }

/-- One frame, what resolving its sources comes upon, and which messages are
delivered. The first tick sends the bootstrap in place of an update. -/
structure StreamTick (E : Type) where
  frame : HubFrame E
  lookups : AchievementSourceKey → SourceLookup
  topologyDelivered : Bool
  snapshotDelivered : Bool

def collectMaps (descriptors : List ResolvedSourceDescriptor) :
    HashMap AchievementSourceKey String :=
  descriptors.foldl (fun m entry => m.insert entry.key entry.mapId) ∅

def upsertedSources (announced : HashMap AchievementSourceKey String)
    (descriptors : List ResolvedSourceDescriptor) : List ResolvedSourceDescriptor :=
  descriptors.filter fun entry => announced.lookup entry.key ≠ some entry.mapId

def StreamRun.sendSnapshot (s : StreamRun) (t : StreamTick E)
    (descriptors : List ResolvedSourceDescriptor) : StreamRun :=
  if s.live then
    s.send (.snapshot t.frame.frame.tick t.frame.frame.serverTimeMs
      (buildSnapshot t.frame.frame descriptors)) t.snapshotDelivered
  else s

def StreamRun.sendTopology (s : StreamRun) (t : StreamTick E)
    (upserted : List ResolvedSourceDescriptor) : StreamRun :=
  if upserted = [] then s
  else s.send (.topologyUpdate (upserted.map (·.descriptor))) t.topologyDelivered

/-- One turn of the loop. -/
def StreamRun.tick (s : StreamRun) (t : StreamTick E) : StreamRun :=
  if s.live then
    let resolved := resolveActiveDescriptors t.lookups s.cache t.frame.frame
    let upserted := upsertedSources s.announcedSources resolved.2
    let s := { s with cache := resolved.1 }.sendTopology t upserted
    { s with announcedSources := collectMaps resolved.2 }.sendSnapshot t resolved.2
  else s

/-- Everything before the loop. -/
def StreamRun.start (requestedHz simulationHz : ℕ) (cache : DescriptorCache)
    (settingsDelivered : Bool) (t : StreamTick E) : StreamRun :=
  let s := StreamRun.send ⟨cache, ∅, [], true⟩ (streamSettings requestedHz simulationHz)
    settingsDelivered
  if s.live then
    let resolved := resolveActiveDescriptors t.lookups s.cache t.frame.frame
    let s : StreamRun :=
      { s with cache := resolved.1, announcedSources := collectMaps resolved.2 }
    (s.send (.bootstrap (resolved.2.map (·.descriptor))) t.topologyDelivered).sendSnapshot t
      resolved.2
  else s

/-- The stream after the frames of the ticks. -/
def runStream (requestedHz simulationHz : ℕ) (cache : DescriptorCache) (settingsDelivered : Bool)
    (first : StreamTick E) (ticks : List (StreamTick E)) : StreamRun :=
  ticks.foldl StreamRun.tick (.start requestedHz simulationHz cache settingsDelivered first)

/-! ## What a stream says -/

namespace AchievementPayload

/-- The sources that a message announces. -/
def announced : AchievementPayload → List AchievementRuntimeSourceDescriptor
  | .bootstrap sources | .topologyUpdate sources => sources
  | .settings .. | .snapshot .. => []

/-- A message after which the source is still known with its map. -/
def Keeps (key : AchievementSourceKey) (mapId : String) : AchievementPayload → Prop
  | .snapshot _ _ sources =>
      ∃ source ∈ sources, source.source = key ∧ source.centerlineGeometry.mapId = mapId
  | payload => ∀ descriptor ∈ payload.announced, descriptor.source = key →
      descriptor.mapId = mapId

/-- The source has been announced with the map, and since then it has been
in every snapshot and has not been announced with another one. -/
def Known (key : AchievementSourceKey) (mapId : String) : List AchievementPayload → Prop
  | [] => False
  | payload :: older =>
      (∃ descriptor ∈ payload.announced, descriptor.source = key ∧ descriptor.mapId = mapId) ∨
        (payload.Keeps key mapId ∧ Known key mapId older)

/-- The sources of the latest snapshot. -/
def lastSnapshot : List AchievementPayload → List AchievementSourceSnapshot
  | [] => []
  | .snapshot _ _ sources :: _ => sources
  | _ :: older => lastSnapshot older

/-- A snapshot in which every source is known and has its vehicles in the
race positions from one on. -/
structure SnapshotOk (older : List AchievementPayload) (sources : List AchievementSourceSnapshot) :
    Prop where
  ordered : (sources.map (·.source)).Pairwise (· < ·)
  known : ∀ source ∈ sources, Known source.source source.centerlineGeometry.mapId older
  positions : ∀ source ∈ sources, source.vehicles.map (·.racePosition) =
    (List.range source.vehicles.length).map (· + 1)

/-- An update of sources that the latest snapshot does not have with their
map. -/
structure TopologyOk (older : List AchievementPayload)
    (sources : List AchievementRuntimeSourceDescriptor) : Prop where
  ordered : (sources.map (·.source)).Pairwise (· < ·)
  nonempty : sources ≠ []
  fresh : ∀ descriptor ∈ sources, ∀ source ∈ lastSnapshot older,
    source.source = descriptor.source → source.centerlineGeometry.mapId ≠ descriptor.mapId

/-- A message that comes after the messages `older`, the latest first. -/
def Follows (older : List AchievementPayload) : AchievementPayload → Prop
  | .settings .. => older = []
  | .bootstrap sources =>
      (∃ requestedHz effectiveHz reason, older = [.settings requestedHz effectiveHz reason]) ∧
        (sources.map (·.source)).Pairwise (· < ·)
  | .snapshot _ _ sources => 2 ≤ older.length ∧ SnapshotOk older sources
  | .topologyUpdate sources => 2 ≤ older.length ∧ TopologyOk older sources

/-- Every message may come where it comes. -/
def Orderly : List AchievementPayload → Prop
  | [] => True
  | payload :: older => payload.Follows older ∧ Orderly older

end AchievementPayload

open AchievementPayload

/-- Both messages of the turn are delivered. -/
def StreamTick.Delivered (t : StreamTick E) : Prop :=
  t.topologyDelivered = true ∧ t.snapshotDelivered = true

def StreamTick.snapshot (t : StreamTick E) (descriptors : List ResolvedSourceDescriptor) :
    AchievementPayload :=
  .snapshot t.frame.frame.tick t.frame.frame.serverTimeMs (buildSnapshot t.frame.frame descriptors)

theorem foldl_insert_lookup {descriptors : List ResolvedSourceDescriptor}
    {m : HashMap AchievementSourceKey String} {key : AchievementSourceKey} {mapId : String}
    (h : (descriptors.foldl (fun m entry => m.insert entry.key entry.mapId) m).lookup key =
      some mapId) :
    (∃ r ∈ descriptors, r.key = key ∧ r.mapId = mapId) ∨ m.lookup key = some mapId := by
  induction descriptors generalizing m with
  | nil => exact Or.inr h
  | cons first rest ih =>
      rcases ih h with ⟨r, hr, hkey, hmap⟩ | hinserted
      · exact Or.inl ⟨r, List.mem_cons_of_mem first hr, hkey, hmap⟩
      · rw [HashMap.lookup_insert_eq] at hinserted
        split at hinserted
        · rename_i hkey
          exact Or.inl ⟨first, List.mem_cons_self, hkey.symm, Option.some.inj hinserted⟩
        · exact Or.inr hinserted

theorem collectMaps_lookup {descriptors : List ResolvedSourceDescriptor}
    {key : AchievementSourceKey} {mapId : String}
    (h : (collectMaps descriptors).lookup key = some mapId) :
    ∃ r ∈ descriptors, r.key = key ∧ r.mapId = mapId := by
  rcases foldl_insert_lookup h with hr | hempty
  · exact hr
  · simp at hempty

theorem foldl_insert_of_notMem {descriptors : List ResolvedSourceDescriptor}
    {m : HashMap AchievementSourceKey String} {key : AchievementSourceKey}
    (h : key ∉ descriptors.map (·.key)) :
    (descriptors.foldl (fun m entry => m.insert entry.key entry.mapId) m).lookup key =
      m.lookup key := by
  induction descriptors generalizing m with
  | nil => rfl
  | cons first rest ih =>
      rw [List.map_cons, List.mem_cons, not_or] at h
      rw [List.foldl_cons, ih h.2, HashMap.lookup_insert_eq, if_neg h.1]

theorem foldl_insert_of_mem {descriptors : List ResolvedSourceDescriptor}
    {m : HashMap AchievementSourceKey String} (h : (descriptors.map (·.key)).Nodup)
    {r : ResolvedSourceDescriptor} (hr : r ∈ descriptors) :
    (descriptors.foldl (fun m entry => m.insert entry.key entry.mapId) m).lookup r.key =
      some r.mapId := by
  induction descriptors generalizing m with
  | nil => cases hr
  | cons first rest ih =>
      rw [List.map_cons, List.nodup_cons] at h
      rcases List.mem_cons.mp hr with rfl | hr
      · rw [List.foldl_cons, foldl_insert_of_notMem h.1, HashMap.lookup_insert_eq, if_pos rfl]
      · exact ih h.2 hr

/-- The maps of descriptors with distinct keys. -/
theorem lookup_collectMaps_iff {descriptors : List ResolvedSourceDescriptor}
    (h : (descriptors.map (·.key)).Pairwise (· < ·)) {key : AchievementSourceKey}
    {mapId : String} :
    (collectMaps descriptors).lookup key = some mapId ↔
      ∃ r ∈ descriptors, r.key = key ∧ r.mapId = mapId := by
  constructor
  · exact collectMaps_lookup
  · rintro ⟨r, hr, rfl, rfl⟩
    exact foldl_insert_of_mem (h.imp fun hlt => ne_of_lt hlt) hr

theorem eq_of_key {descriptors : List ResolvedSourceDescriptor}
    (h : (descriptors.map (·.key)).Pairwise (· < ·)) {r r' : ResolvedSourceDescriptor}
    (hr : r ∈ descriptors) (hr' : r' ∈ descriptors) (hkey : r.key = r'.key) :
    r.mapId = r'.mapId := by
  have hfirst := (lookup_collectMaps_iff h).mpr ⟨r, hr, rfl, rfl⟩
  have hsecond := (lookup_collectMaps_iff h).mpr ⟨r', hr', rfl, rfl⟩
  rw [hkey, hsecond] at hfirst
  exact (Option.some.inj hfirst).symm

/-! ## One turn -/

/-- What holds of a stream between two turns. -/
structure StreamOk (s : StreamRun) : Prop where
  orderly : Orderly s.sent
  begun : s.live = true → 2 ≤ s.sent.length
  known : s.live = true → ∀ key mapId, s.announcedSources.lookup key = some mapId →
    Known key mapId s.sent
  latest : s.live = true → ∀ source ∈ lastSnapshot s.sent,
    s.announcedSources.lookup source.source = some source.centerlineGeometry.mapId

variable {s : StreamRun} {t : StreamTick E} {descriptors : List ResolvedSourceDescriptor}

theorem mem_buildSnapshot {frame : RuntimeFrame} {source : AchievementSourceSnapshot} :
    source ∈ buildSnapshot frame descriptors ↔ ∃ r ∈ descriptors,
      source = ⟨r.key, r.centerlineGeometry, buildSourceVehicles frame r.key⟩ := by
  simp [buildSnapshot, eq_comm]

theorem map_source_buildSnapshot (frame : RuntimeFrame) :
    (buildSnapshot frame descriptors).map (·.source) = descriptors.map (·.key) := by
  rw [buildSnapshot, List.map_map]
  rfl

theorem map_source_descriptor (descriptors : List ResolvedSourceDescriptor) :
    (descriptors.map (·.descriptor)).map (·.source) = descriptors.map (·.key) := by
  rw [List.map_map]
  exact List.map_congr_left fun r _ => r.describes.1

/-- A snapshot of sources that are known. -/
theorem snapshotOk_build {older : List AchievementPayload} (frame : RuntimeFrame)
    (hkeys : (descriptors.map (·.key)).Pairwise (· < ·))
    (hknown : ∀ r ∈ descriptors, Known r.key r.mapId older) :
    SnapshotOk older (buildSnapshot frame descriptors) where
  ordered := map_source_buildSnapshot frame ▸ hkeys
  known source hsource := by
    obtain ⟨r, hr, rfl⟩ := mem_buildSnapshot.mp hsource
    change Known r.key r.centerlineGeometry.mapId older
    exact r.tagged ▸ hknown r hr
  positions source hsource := by
    obtain ⟨r, hr, rfl⟩ := mem_buildSnapshot.mp hsource
    exact buildSourceVehicles_positions frame r.key

/-- The snapshot at the end of a turn. -/
theorem sendSnapshot_ok (hkeys : (descriptors.map (·.key)).Pairwise (· < ·))
    (horderly : Orderly s.sent) (hbegun : s.live = true → 2 ≤ s.sent.length)
    (hknown : s.live = true → ∀ r ∈ descriptors, Known r.key r.mapId s.sent) :
    StreamOk ({ s with announcedSources := collectMaps descriptors }.sendSnapshot t
      descriptors) := by
  unfold StreamRun.sendSnapshot
  split
  · rename_i hlive
    unfold StreamRun.send
    split
    · have hsnapshot := snapshotOk_build t.frame.frame hkeys (hknown hlive)
      refine ⟨⟨⟨hbegun hlive, hsnapshot⟩, horderly⟩, fun _ => ?_, fun _ key mapId hlookup => ?_,
        fun _ source hsource => ?_⟩
      · exact Nat.le_succ_of_le (hbegun hlive)
      · obtain ⟨r, hr, rfl, rfl⟩ := (lookup_collectMaps_iff hkeys).mp hlookup
        refine Or.inr ⟨⟨_, mem_buildSnapshot.mpr ⟨r, hr, rfl⟩, rfl, r.tagged⟩, hknown hlive r hr⟩
      · obtain ⟨r, hr, rfl⟩ := mem_buildSnapshot.mp hsource
        exact (lookup_collectMaps_iff hkeys).mpr ⟨r, hr, rfl, r.tagged.symm⟩
    · exact ⟨horderly, nofun, nofun, nofun⟩
  · rename_i hlive
    exact ⟨horderly, fun h => absurd h hlive, fun h => absurd h hlive, fun h => absurd h hlive⟩

/-- After the update every source is known. -/
theorem sendTopology_spec (h : StreamOk s) (hlive : s.live = true) (cache : DescriptorCache)
    (hkeys : (descriptors.map (·.key)).Pairwise (· < ·)) :
    let s' := { s with cache := cache }.sendTopology t
      (upsertedSources s.announcedSources descriptors)
    Orderly s'.sent ∧ (s'.live = true → 2 ≤ s'.sent.length) ∧
      (s'.live = true → ∀ r ∈ descriptors, Known r.key r.mapId s'.sent) := by
  have hmem : ∀ r, r ∈ upsertedSources s.announcedSources descriptors ↔
      r ∈ descriptors ∧ s.announcedSources.lookup r.key ≠ some r.mapId := by
    simp [upsertedSources]
  intro s'
  unfold s' StreamRun.sendTopology
  split
  · rename_i hnone
    refine ⟨h.orderly, fun _ => h.begun hlive, fun _ r hr => h.known hlive _ _ ?_⟩
    by_contra hnew
    exact List.ne_nil_of_mem ((hmem r).mpr ⟨hr, hnew⟩) hnone
  · rename_i hsome
    unfold StreamRun.send
    split
    · have htopology : TopologyOk s.sent
          ((upsertedSources s.announcedSources descriptors).map (·.descriptor)) := by
        refine ⟨?_, fun hnil => hsome (List.map_eq_nil_iff.mp hnil), ?_⟩
        · have hsublist : (upsertedSources s.announcedSources descriptors).Sublist descriptors :=
            List.filter_sublist
          rw [map_source_descriptor]
          exact hkeys.sublist (hsublist.map _)
        · intro descriptor hdescriptor source hsource hkey hmap
          obtain ⟨r, hr, rfl⟩ := List.mem_map.mp hdescriptor
          refine ((hmem r).mp hr).2 ?_
          rw [← r.describes.1, ← hkey, h.latest hlive source hsource, hmap, r.describes.2.1]
      refine ⟨⟨⟨h.begun hlive, htopology⟩, h.orderly⟩,
        fun _ => Nat.le_succ_of_le (h.begun hlive), fun _ r hr => ?_⟩
      by_cases hnew : s.announcedSources.lookup r.key = some r.mapId
      · refine Or.inr ⟨fun descriptor hdescriptor hkey => ?_, h.known hlive _ _ hnew⟩
        obtain ⟨r', hr', rfl⟩ := List.mem_map.mp hdescriptor
        rw [r'.describes.2.1]
        exact eq_of_key hkeys ((hmem r').mp hr').1 hr (r'.describes.1.symm.trans hkey)
      · exact Or.inl ⟨r.descriptor, List.mem_map_of_mem ((hmem r).mpr ⟨hr, hnew⟩), r.describes.1,
          r.describes.2.1⟩
    · exact ⟨h.orderly, nofun, nofun⟩

theorem StreamOk.tick (h : StreamOk s) (t : StreamTick E) : StreamOk (s.tick t) := by
  unfold StreamRun.tick
  split
  · rename_i hlive
    have hkeys := (resolveActiveDescriptors_spec t.lookups s.cache t.frame).1
    obtain ⟨horderly, hbegun, hknown⟩ := sendTopology_spec (t := t) h hlive
      (resolveActiveDescriptors t.lookups s.cache t.frame.frame).1 hkeys
    exact sendSnapshot_ok hkeys horderly hbegun hknown
  · exact h

end HackArena.Services.AchievementStream
