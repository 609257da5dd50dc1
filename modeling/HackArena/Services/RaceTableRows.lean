import HackArena.Services.RaceSessions

/-!
# The rows of the official race table

Between two resets the table shows every car it has seen, first the ones
that are active now and then the others. Three maps exchange the cars on
every call: the last active rows, the archive and the baselines.
-/

namespace HackArena.Services

open Boink HackArena.Runtime

/-! ## The order and the marks of the rows -/

theorem finalizeRows_positions (activeCount : ℕ) (rows : List OfficialRaceTableEntry) :
    (finalizeRows activeCount rows).map (·.position) =
      (List.range rows.length).map fun i => (i + 1) % 2 ^ 32 := by
  apply List.ext_getElem
  · simp [finalizeRows]
  · intro i h h'
    simp [finalizeRows]

theorem finalizeRows_append (active dnf : List OfficialRaceTableEntry) :
    finalizeRows active.length (active ++ dnf) = finalizeRows active.length active ++
      dnf.mapIdx fun i row => { row with
        position := (i + active.length + 1) % 2 ^ 32
        status := .dnf
        inPit := false } := by
  rw [finalizeRows, List.mapIdx_append, ← finalizeRows]
  simp

theorem mem_finalizeRows_active {active : List OfficialRaceTableEntry}
    {row : OfficialRaceTableEntry} (h : row ∈ finalizeRows active.length active) :
    row.status = .active := by
  obtain ⟨i, hi, rfl⟩ := List.mem_mapIdx.mp h
  simp [hi]

/-- The first row is the leader's. -/
theorem computeActiveRows_leader {cache : OfficialRaceCache} {elapsed : ℕ}
    {samples : List ActiveEntrySample} {row : OfficialRaceTableEntry}
    (h : (computeActiveRows cache elapsed samples).2.head? = some row) :
    row.gapToLeaderMs = some 0 ∧ row.lapsBehind = 0 := by
  cases samples with
  | nil => cases h
  | cons leader rest =>
      simp only [computeActiveRows, List.head?_cons, LeaderView.rows, if_true] at h
      obtain rfl := Option.some.inj h
      exact ⟨rfl, rfl⟩

theorem finalizeRows_head? {active : List OfficialRaceTableEntry} {row : OfficialRaceTableEntry}
    (h : (finalizeRows active.length active).head? = some row) :
    ∃ first, active.head? = some first ∧ row.gapToLeaderMs = first.gapToLeaderMs ∧
      row.lapsBehind = first.lapsBehind := by
  cases active with
  | nil => cases h
  | cons first rest =>
      simp only [finalizeRows, List.mapIdx_cons, List.head?_cons, Option.some.injEq] at h
      subst h
      exact ⟨first, rfl, rfl, rfl⟩

/-- Rows under their own cars are of different cars. -/
theorem values_carIds_nodup {rows : HashMap ℕ OfficialRaceTableEntry} (h : KeyedRows rows) :
    ((HashMap.values rows).map (·.carId)).Nodup := by
  have hkeys : (HashMap.values rows).map (·.carId) = HashMap.sortedKeys rows := by
    have hkey : ∀ carId ∈ HashMap.sortedKeys rows,
        ((rows.lookup carId).bind fun row => some row.carId) = some carId := by
      intro carId hcar
      obtain ⟨row, hrow⟩ := Finmap.mem_iff.mp (HashMap.mem_sortedKeys.mp hcar)
      rw [hrow, Option.bind_some, h carId row hrow]
    calc (HashMap.values rows).map (·.carId)
        = (HashMap.values rows).filterMap fun row => some row.carId := by simp
      _ = (HashMap.sortedKeys rows).filterMap fun carId =>
            (rows.lookup carId).bind fun row => some row.carId := HashMap.filterMap_values _ _
      _ = (HashMap.sortedKeys rows).filterMap some := List.filterMap_congr hkey
      _ = HashMap.sortedKeys rows := List.filterMap_some
  rw [hkeys]
  exact (HashMap.pairwise_sortedKeys rows).nodup

/-! ## Calls between resets -/

/-- What one call is given: a sample for every active car. -/
structure TableCall where
  sessionMarker : String
  raceElapsedMs : ℕ
  entries : List ActiveEntrySample
  distinct : (entries.map (·.row.carId)).Nodup

/-- The samples of a frame that holds each car under its number. -/
theorem frameSamples_distinct {frame : RuntimeFrame}
    (hcars : HashMap.Forall (fun carId car => car.publicCarId = carId) frame.cars) :
    ((frameSamples frame).map (·.row.carId)).Nodup := by
  have hsample : ∀ {car : RuntimeCarFrame} {sample : ActiveEntrySample},
      officialSampleOf (lapLengthMOf frame) car = some sample →
        sample.row.carId = car.publicCarId := by
    intro car sample h
    rw [officialSampleOf] at h
    split at h
    · cases h
    · obtain ⟨metrics, -, rfl⟩ := Option.map_eq_some_iff.mp h
      rfl
  rw [frameSamples, collectOfficialActiveEntries, List.map_filterMap, HashMap.filterMap_values]
  refine List.Nodup.filterMap ?_ (HashMap.pairwise_sortedKeys frame.cars).nodup
  intro carId carId' shown hshown hshown'
  obtain ⟨car, hcar, hid⟩ := Option.bind_eq_some_iff.mp hshown
  obtain ⟨car', hcar', hid'⟩ := Option.bind_eq_some_iff.mp hshown'
  obtain ⟨sample, hsampled, rfl⟩ := Option.map_eq_some_iff.mp hid
  obtain ⟨sample', hsampled', hsame⟩ := Option.map_eq_some_iff.mp hid'
  rw [hsample hsampled, hsample hsampled', hcars carId car hcar, hcars carId' car' hcar'] at hsame
  exact hsame.symm

def OfficialRaceCache.call (cache : OfficialRaceCache) (c : TableCall) :
    OfficialRaceCache × List OfficialRaceTableEntry :=
  computeOfficialRowsWithCache cache c.sessionMarker c.raceElapsedMs c.entries

/-- The cache, and the cars seen since its last reset. -/
structure RowsHistory where
  cache : OfficialRaceCache
  seen : Finset ℕ

def RowsHistory.initial : RowsHistory := ⟨.default, ∅⟩

def RowsHistory.step (s : RowsHistory) (c : TableCall) : RowsHistory where
  cache := (s.cache.call c).1
  seen := sampledIds c.entries ∪
    if s.cache.Resets c.sessionMarker c.raceElapsedMs then ∅ else s.seen

/-- The samples with the progress made since the car's baseline. -/
def OfficialRaceCache.normalized (cache : OfficialRaceCache) (c : TableCall) :
    List ActiveEntrySample :=
  (normalizeSamples (HashMap.retain (cache.baselinesAt c.sessionMarker c.raceElapsedMs)
    (· ∈ sampledIds c.entries)) c.entries).2

/-- `left` stands before `right`. -/
def StandsBefore (left right : ActiveEntrySample) : Prop :=
  right.progressTotalM < left.progressTotalM ∨
    left.progressTotalM = right.progressTotalM ∧ left.row.carId < right.row.carId

/-- The rows of a call: the active cars by their progress, then the other
cars seen, numbered through in 32 bits. -/
structure RowsInOrder (seen : Finset ℕ) (samples : List ActiveEntrySample)
    (rows : List OfficialRaceTableEntry) : Prop where
  once : (rows.map (·.carId)).Nodup
  cars : (rows.map (·.carId)).toFinset = seen
  positions : rows.map (·.position) = (List.range rows.length).map fun i => (i + 1) % 2 ^ 32
  ranked : ∃ (ranking : List ActiveEntrySample) (active dnf : List OfficialRaceTableEntry),
    rows = active ++ dnf ∧ ranking.Perm samples ∧ ranking.Pairwise StandsBefore ∧
    active.map (·.carId) = ranking.map (·.row.carId) ∧
    (∀ row ∈ active, row.status = .active) ∧
    (∀ row ∈ dnf, row.status = .dnf ∧ row.inPit = false) ∧
    ∀ row, active.head? = some row → row.gapToLeaderMs = some 0 ∧ row.lapsBehind = 0

section Calls

variable {cache : OfficialRaceCache} {c : TableCall}

theorem OfficialRaceCache.normalized_carIds :
    (cache.normalized c).map (·.row.carId) = c.entries.map (·.row.carId) :=
  normalizeSamples_carIds _ _

instance : Std.Total rankedBefore where
  total left right := by
    rcases lt_trichotomy left.progressTotalM right.progressTotalM with h | h | h
    · exact Or.inr (Or.inl h)
    · exact (Nat.le_total left.row.carId right.row.carId).imp (fun hle => Or.inr ⟨h, hle⟩)
        fun hle => Or.inr ⟨h.symm, hle⟩
    · exact Or.inl (Or.inl h)

instance : IsTrans ActiveEntrySample rankedBefore where
  trans left middle right := by
    rintro (h | ⟨h, hid⟩) (h' | ⟨h', hid'⟩)
    · exact Or.inl (h'.trans h)
    · exact Or.inl (h' ▸ h)
    · exact Or.inl (h ▸ h')
    · exact Or.inr ⟨h.trans h', hid.trans hid'⟩

/-- Different cars are ranked strictly. -/
theorem sortActiveEntries_standsBefore {samples : List ActiveEntrySample}
    (h : (samples.map (·.row.carId)).Nodup) :
    (sortActiveEntries samples).Pairwise StandsBefore := by
  have hsorted : (sortActiveEntries samples).Pairwise rankedBefore :=
    List.pairwise_insertionSort rankedBefore samples
  have hdistinct : ((sortActiveEntries samples).map (·.row.carId)).Nodup :=
    ((List.perm_insertionSort rankedBefore samples).map _).nodup_iff.mpr h
  refine (hsorted.and (List.pairwise_map.mp hdistinct)).imp ?_
  rintro left right ⟨hprogress | ⟨hprogress, hid⟩, hne⟩
  · exact Or.inl hprogress
  · exact Or.inr ⟨hprogress, lt_of_le_of_ne hid hne⟩

/-- The rows of a call in terms of the ranked samples and the archive. -/
theorem call_rows (cache : OfficialRaceCache) (c : TableCall) :
    ∃ trajectories : OfficialRaceCache,
      let active := (computeActiveRows trajectories c.raceElapsedMs
        (sortActiveEntries (cache.normalized c))).2
      (cache.call c).2 = finalizeRows active.length (active ++
        (HashMap.values (cache.call c).1.archivedDnfRows).insertionSort
          fun left right => left.carId ≤ right.carId) := by
  rw [OfficialRaceCache.normalized, ← reset_carStartProgressM]
  exact ⟨_, rfl⟩

/-- No active car is archived. -/
theorem call_archived (h : cache.Keyed) (c : TableCall) :
    KeyedRows (cache.call c).1.archivedDnfRows ∧
      ∀ carId ∈ (cache.call c).1.archivedDnfRows.keys, carId ∉ sampledIds c.entries := by
  obtain ⟨hkeyed, -⟩ := reset_keyed h c.sessionMarker c.raceElapsedMs
  obtain ⟨active, -, -, harch, -⟩ :=
    computeRows_shape cache c.sessionMarker c.raceElapsedMs c.entries
  obtain ⟨harchKeyed, harchKeys⟩ := archiveDropouts_spec hkeyed.active
    (hkeyed.archived.retain (· ∉ sampledIds c.entries)) (sampledIds c.entries)
  rw [← harch] at harchKeyed harchKeys
  refine ⟨harchKeyed, fun carId hcar => ?_⟩
  change carId ∈ (computeOfficialRowsWithCache cache c.sessionMarker c.raceElapsedMs
    c.entries).1.archivedDnfRows.keys at hcar
  rw [harchKeys, keys_retain_notMem, ← Finset.union_sdiff_distrib, Finset.mem_sdiff] at hcar
  exact hcar.2

theorem call_once (h : cache.Keyed) (c : TableCall) :
    ((cache.call c).2.map (·.carId)).Nodup := by
  obtain ⟨trajectories, hrows⟩ := call_rows cache c
  obtain ⟨hkeyed, hother⟩ := call_archived h c
  have hranked : ((sortActiveEntries (cache.normalized c)).map (·.row.carId)).Perm
      (c.entries.map (·.row.carId)) := by
    have hcars : (cache.normalized c).map (·.row.carId) = c.entries.map (·.row.carId) :=
      OfficialRaceCache.normalized_carIds
    rw [← hcars]
    exact (List.perm_insertionSort rankedBefore _).map _
  rw [hrows, finalizeRows_carIds, List.map_append, computeActiveRows_carIds]
  refine List.Nodup.append (hranked.nodup_iff.mpr c.distinct)
    (((List.perm_insertionSort _ _).map _).nodup_iff.mpr (values_carIds_nodup hkeyed)) ?_
  intro carId hactive hdnf
  refine hother carId ?_ (List.mem_toFinset.mpr (hranked.mem_iff.mp hactive))
  rw [← values_carIds hkeyed, List.mem_toFinset]
  exact ((List.perm_insertionSort _ _).map _).mem_iff.mp hdnf

theorem call_ranked (cache : OfficialRaceCache) (c : TableCall) :
    ∃ (ranking : List ActiveEntrySample) (active dnf : List OfficialRaceTableEntry),
      (cache.call c).2 = active ++ dnf ∧ ranking.Perm (cache.normalized c) ∧
      ranking.Pairwise StandsBefore ∧ active.map (·.carId) = ranking.map (·.row.carId) ∧
      (∀ row ∈ active, row.status = .active) ∧
      (∀ row ∈ dnf, row.status = .dnf ∧ row.inPit = false) ∧
      ∀ row, active.head? = some row → row.gapToLeaderMs = some 0 ∧ row.lapsBehind = 0 := by
  obtain ⟨trajectories, hrows⟩ := call_rows cache c
  dsimp only at hrows
  rw [finalizeRows_append] at hrows
  refine ⟨sortActiveEntries (cache.normalized c), _, _, hrows,
    List.perm_insertionSort rankedBefore _, ?_, ?_, fun row => mem_finalizeRows_active, ?_, ?_⟩
  · refine sortActiveEntries_standsBefore ?_
    rw [OfficialRaceCache.normalized_carIds]
    exact c.distinct
  · rw [finalizeRows_carIds, computeActiveRows_carIds]
  · intro row hrow
    obtain ⟨i, hi, rfl⟩ := List.mem_mapIdx.mp hrow
    exact ⟨rfl, rfl⟩
  · intro row hrow
    obtain ⟨first, hfirst, hgap, hlaps⟩ := finalizeRows_head? hrow
    rw [hgap, hlaps]
    exact computeActiveRows_leader hfirst

end Calls

/-! ## Runs -/

/-- The cars the cache knows are those seen since its last reset. -/
structure RowsHistory.Invariant (s : RowsHistory) : Prop where
  keyed : s.cache.Keyed
  known : s.cache.known = s.seen

theorem RowsHistory.seen_first (c : TableCall) :
    (RowsHistory.initial.step c).seen = sampledIds c.entries := by
  rw [RowsHistory.step]
  split
  · exact Finset.union_empty _
  · exact Finset.union_empty _

theorem RowsHistory.invariant_initial : RowsHistory.initial.Invariant :=
  ⟨⟨keyedRows_empty, keyedRows_empty⟩, rfl⟩

theorem RowsHistory.Invariant.known_call {s : RowsHistory} (h : s.Invariant) (c : TableCall) :
    (s.step c).cache.Keyed ∧ (s.step c).cache.known = (s.step c).seen ∧
      ((s.cache.call c).2.map (·.carId)).toFinset = (s.step c).seen := by
  obtain ⟨hkeyed, hknown, hcars⟩ :=
    computeRows_known h.keyed c.sessionMarker c.raceElapsedMs c.entries
  have hseen : (s.cache.call c).1.known = (s.step c).seen := by
    rw [RowsHistory.step, ← h.known]
    exact hknown
  exact ⟨hkeyed, hseen, hcars.trans hseen⟩

theorem RowsHistory.Invariant.step {s : RowsHistory} (h : s.Invariant) (c : TableCall) :
    (s.step c).Invariant :=
  ⟨(h.known_call c).1, (h.known_call c).2.1⟩

theorem RowsHistory.invariant_run (calls : List TableCall) :
    (calls.foldl RowsHistory.step .initial).Invariant := by
  suffices ∀ s : RowsHistory, s.Invariant → (calls.foldl RowsHistory.step s).Invariant from
    this _ RowsHistory.invariant_initial
  induction calls with
  | nil => exact fun s h => h
  | cons c rest ih => exact fun s h => ih (s.step c) (h.step c)

theorem call_positions (cache : OfficialRaceCache) (c : TableCall) :
    (cache.call c).2.map (·.position) =
      (List.range (cache.call c).2.length).map fun i => (i + 1) % 2 ^ 32 := by
  obtain ⟨trajectories, hrows⟩ := call_rows cache c
  rw [hrows, finalizeRows_positions]
  simp [finalizeRows]

/-- After any calls, the rows of the next one show every car seen since the
last reset once, the active ones first and ranked. -/
theorem rows_in_order (calls : List TableCall) (c : TableCall) :
    let s := calls.foldl RowsHistory.step .initial
    RowsInOrder (s.step c).seen (s.cache.normalized c) (s.cache.call c).2 := by
  intro s
  have hinv : s.Invariant := RowsHistory.invariant_run calls
  exact ⟨call_once hinv.keyed c, (hinv.known_call c).2.2, call_positions s.cache c,
    call_ranked s.cache c⟩

/-! ## More cars than positions -/

namespace ManyCars

/-- A car at the start. -/
def sample (carId : ℕ) : ActiveEntrySample :=
  sampleToOfficialEntry carId .default 1 none false

theorem carIds_map_sample (carIds : List ℕ) :
    (carIds.map sample).map (·.row.carId) = carIds := by
  rw [List.map_map]
  exact List.map_id _

/-- As many cars as there are numbers of 32 bits. -/
def call : TableCall where
  sessionMarker := "official-race:ring"
  raceElapsedMs := 0
  entries := (List.range (2 ^ 32)).map sample
  distinct := by
    rw [carIds_map_sample]
    exact List.nodup_range

theorem length_rows : (OfficialRaceCache.default.call call).2.length = 2 ^ 32 := by
  have hinv := RowsHistory.invariant_initial
  have honce := call_once hinv.keyed call
  have hcars := (hinv.known_call call).2.2
  have hseen : (RowsHistory.initial.step call).seen = Finset.range (2 ^ 32) := by
    rw [RowsHistory.seen_first, sampledIds, call, carIds_map_sample]
    ext carId
    simp
  rw [hseen] at hcars
  have hcard := congrArg Finset.card hcars
  rw [List.toFinset_card_of_nodup honce, Finset.card_range, List.length_map] at hcard
  exact hcard

/-- The last of so many rows has position zero. -/
theorem last_position_zero : (OfficialRaceCache.default.call call).2.map (·.position) ≠
    (List.range (OfficialRaceCache.default.call call).2.length).map (· + 1) := by
  intro h
  rw [call_positions, length_rows] at h
  have hlast := congrArg (fun l => l[2 ^ 32 - 1]?) h
  simp at hlast

end ManyCars

end HackArena.Services
