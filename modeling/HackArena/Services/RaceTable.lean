import HackArena.Services.FrameHub
import Mathlib.Data.List.Sort
import Mathlib.Data.Rat.Floor

/-!
# The official race table

A poll reads the latest frame. The cars of the official race that have
metrics are ranked by the progress they made since the table first saw
them; cars seen earlier in the session and missing now follow as rows
that did not finish. What the table remembers between polls is one
cache, guarded by a lock, so polls happen one after the other.
-/

namespace HackArena.Services

open Boink HackArena.Runtime

def TRAJECTORY_MAX_AGE_MS_OFFICIAL : ℕ := 24 * 60 * 60 * 1000
def GAP_DISABLED_LAPS_BEHIND_THRESHOLD : ℕ := 1
def TRAJECTORY_MIN_PROGRESS_DELTA_M : ℚ := 1 / 10
def TRAJECTORY_PROGRESS_EPSILON_M : ℚ := 1 / 1000
def TRAJECTORY_RESET_BACKTRACK_M : ℚ := 5
def START_PROGRESS_MOVED_EPSILON_M : ℚ := 1
def TEAM_NAME_FETCH_FAILED : String := "failed to fetch"

inductive RaceTableEntryStatus where
  | active | dnf
  deriving DecidableEq, Repr

structure TeamIdentity where
  teamId : String
  teamName : String
  deriving DecidableEq, Repr

structure OfficialRaceTableEntry where
  carId : ℕ
  team : Option TeamIdentity
  position : ℕ
  gapToLeaderMs : Option ℕ
  lapsBehind : ℕ
  inPit : Bool
  status : RaceTableEntryStatus
  deriving DecidableEq, Repr

structure ActiveEntrySample where
  row : OfficialRaceTableEntry
  completedLaps : ℕ
  progressTotalM : ℚ
  hideGapToLeader : Bool
  deriving DecidableEq, Repr

structure TrajectorySample where
  progressTotalM : ℚ
  raceElapsedMs : ℕ
  deriving DecidableEq, Repr

/-- A trajectory is kept oldest sample first. -/
structure OfficialRaceCache where
  sessionMarker : Option String
  lastRaceElapsedMs : Option ℕ
  lastActiveRows : HashMap ℕ OfficialRaceTableEntry
  archivedDnfRows : HashMap ℕ OfficialRaceTableEntry
  carTrajectories : HashMap ℕ (List TrajectorySample)
  lastComputedGapMs : HashMap ℕ ℕ
  carStartProgressM : HashMap ℕ ℚ

namespace OfficialRaceCache

/-- `OfficialRaceCache::default()`. -/
def default : OfficialRaceCache := ⟨none, none, ∅, ∅, ∅, ∅, ∅⟩

def resetRuntimeProgress (cache : OfficialRaceCache) : OfficialRaceCache :=
  { cache with
    lastRaceElapsedMs := none
    lastActiveRows := ∅
    archivedDnfRows := ∅
    carTrajectories := ∅
    lastComputedGapMs := ∅
    carStartProgressM := ∅ }

def resetIfSessionChanged (cache : OfficialRaceCache) (marker : String) : OfficialRaceCache :=
  if cache.sessionMarker = some marker then cache
  else { cache with sessionMarker := some marker }.resetRuntimeProgress

/-- The addition is on `u64`, and wraps. -/
def resetIfElapsedDropped (cache : OfficialRaceCache) (raceElapsedMs : ℕ) : OfficialRaceCache :=
  match cache.lastRaceElapsedMs with
  | none => cache
  | some prevElapsedMs =>
      if (raceElapsedMs + 100) % 2 ^ 64 < prevElapsedMs then cache.resetRuntimeProgress else cache

end OfficialRaceCache

/-! ## Samples of the active cars -/

def teamIdentityForOfficial (identity : Option RuntimeCarIdentity) : TeamIdentity :=
  let teamId := (identity.bind (·.teamId)).getD "unknown"
  ⟨teamId, teamId⟩

def sampleToOfficialEntry (publicCarId : ℕ) (metrics : VehicleRaceMetrics) (lapLengthM : ℚ)
    (identity : Option RuntimeCarIdentity) (inPit : Bool) : ActiveEntrySample :=
  { row :=
      { carId := publicCarId
        team := some (teamIdentityForOfficial identity)
        position := 0
        gapToLeaderMs := none
        lapsBehind := 0
        inPit := inPit
        status := .active }
    completedLaps := metrics.completedLaps
    progressTotalM := metrics.completedLaps * lapLengthM + max metrics.lapProgressM 0
    hideGapToLeader := metrics.lapProgressM < 0 }

def officialSampleOf (lapLengthM : ℚ) (car : RuntimeCarFrame) : Option ActiveEntrySample :=
  if car.target ≠ .officialRace then none
  else car.raceMetrics.map fun metrics =>
    sampleToOfficialEntry car.publicCarId metrics lapLengthM car.identity
      (car.state.pitstopState.hasZone .fix)

/-- The source goes through the frame's cars in the order of a hash map;
the samples are sorted before anything is made of their order. -/
def collectOfficialActiveEntries (frame : RuntimeFrame) (lapLengthM : ℚ) :
    List ActiveEntrySample :=
  (HashMap.values frame.cars).filterMap (officialSampleOf lapLengthM)

/-- The car's baseline is what the cache holds, else its progress now. -/
def normalizeSamples (baselines : HashMap ℕ ℚ) :
    List ActiveEntrySample → HashMap ℕ ℚ × List ActiveEntrySample
  | [] => (baselines, [])
  | sample :: rest =>
      let baseline := (baselines.lookup sample.row.carId).getD sample.progressTotalM
      let r := normalizeSamples (baselines.insert sample.row.carId baseline) rest
      (r.1, { sample with progressTotalM := max (sample.progressTotalM - baseline) 0 } :: r.2)

def normalizeActiveProgressFromStart (cache : OfficialRaceCache)
    (activeEntries : List ActiveEntrySample) (currentActiveIds : Finset ℕ) :
    OfficialRaceCache × List ActiveEntrySample :=
  let r := normalizeSamples (HashMap.retain cache.carStartProgressM (· ∈ currentActiveIds))
    activeEntries
  ({ cache with carStartProgressM := r.1 }, r.2)

/-- `left` may stand before `right`: more progress first, then the lower
car id. -/
def rankedBefore (left right : ActiveEntrySample) : Prop :=
  right.progressTotalM < left.progressTotalM ∨
    left.progressTotalM = right.progressTotalM ∧ left.row.carId ≤ right.row.carId

instance : DecidableRel rankedBefore := fun left right =>
  inferInstanceAs (Decidable (right.progressTotalM < left.progressTotalM ∨
    left.progressTotalM = right.progressTotalM ∧ left.row.carId ≤ right.row.carId))

def sortActiveEntries (entries : List ActiveEntrySample) : List ActiveEntrySample :=
  entries.insertionSort rankedBefore

/-! ## Trajectories -/

/-- The newest sample stays, however old. -/
def dropOldSamples (minKeepMs : ℕ) : List TrajectorySample → List TrajectorySample
  | front :: next :: rest =>
      if front.raceElapsedMs < minKeepMs then dropOldSamples minKeepMs (next :: rest)
      else front :: next :: rest
  | trajectory => trajectory

/-- A car set back by five metres or more starts its trajectory anew. -/
def clearOnBacktrack (progressTotalM : ℚ) (trajectory : List TrajectorySample) :
    List TrajectorySample :=
  match trajectory.getLast? with
  | none => trajectory
  | some last =>
      if progressTotalM + TRAJECTORY_PROGRESS_EPSILON_M < last.progressTotalM ∧
          TRAJECTORY_RESET_BACKTRACK_M ≤ last.progressTotalM - progressTotalM then []
      else trajectory

def shouldAppend (raceElapsedMs : ℕ) (progressTotalM : ℚ) (trajectory : List TrajectorySample) :
    Bool :=
  match trajectory.getLast? with
  | none => true
  | some last =>
      if raceElapsedMs ≤ last.raceElapsedMs ∨ progressTotalM ≤ last.progressTotalM then false
      else TRAJECTORY_MIN_PROGRESS_DELTA_M ≤ progressTotalM - last.progressTotalM

def updateTrajectory (raceElapsedMs : ℕ) (progressTotalM : ℚ)
    (trajectory : List TrajectorySample) : List TrajectorySample :=
  let trajectory := clearOnBacktrack progressTotalM trajectory
  let trajectory :=
    if shouldAppend raceElapsedMs progressTotalM trajectory then
      trajectory ++ [⟨progressTotalM, raceElapsedMs⟩]
    else trajectory
  dropOldSamples (raceElapsedMs - TRAJECTORY_MAX_AGE_MS_OFFICIAL) trajectory

def updateCarTrajectories (cache : OfficialRaceCache) (raceElapsedMs : ℕ)
    (activeEntries : List ActiveEntrySample) (currentActiveIds : Finset ℕ) : OfficialRaceCache :=
  { cache with
    carTrajectories := activeEntries.foldl
      (fun trajectories sample => trajectories.insert sample.row.carId
        (updateTrajectory raceElapsedMs sample.progressTotalM
          ((trajectories.lookup sample.row.carId).getD [])))
      (HashMap.retain cache.carTrajectories (· ∈ currentActiveIds)) }

/-- The binary search between `lo` and `hi` for the first sample that is
not behind the progress. -/
def searchUpper (trajectory : List TrajectorySample) (progressTotalM : ℚ) (lo hi : ℕ) : Option ℕ :=
  if lo < hi then
    let mid := lo + (hi - lo) / 2
    match trajectory[mid]? with
    | none => none
    | some sample =>
        if sample.progressTotalM < progressTotalM then
          searchUpper trajectory progressTotalM (mid + 1) hi
        else searchUpper trajectory progressTotalM lo mid
  else some lo
termination_by hi - lo

def interpolateLeaderTimeMs (trajectory : List TrajectorySample) (progressTotalM : ℚ) :
    Option ℚ := do
  let first ← trajectory.head?
  let last ← trajectory.getLast?
  if progressTotalM < first.progressTotalM ∨ last.progressTotalM < progressTotalM then none
  else
    let upperIdx ← searchUpper trajectory progressTotalM 0 (trajectory.length - 1)
    let upper ← trajectory[upperIdx]?
    if |upper.progressTotalM - progressTotalM| ≤ TRAJECTORY_PROGRESS_EPSILON_M then
      some upper.raceElapsedMs
    else if upperIdx = 0 then some upper.raceElapsedMs
    else
      let lower ← trajectory[upperIdx - 1]?
      let deltaProgress := upper.progressTotalM - lower.progressTotalM
      if deltaProgress ≤ TRAJECTORY_PROGRESS_EPSILON_M then some upper.raceElapsedMs
      else
        let ratio := clamp ((progressTotalM - lower.progressTotalM) / deltaProgress) 0 1
        let deltaTimeMs := upper.raceElapsedMs - lower.raceElapsedMs
        some (lower.raceElapsedMs + ratio * deltaTimeMs)

/-! ## Rows -/

/-- The leader, its trajectory and the time of the poll. -/
structure LeaderView where
  leader : ActiveEntrySample
  trajectory : Option (List TrajectorySample)
  raceElapsedMs : ℕ

def LeaderView.leaderHasMotion (view : LeaderView) : Bool :=
  view.trajectory.any (fun trajectory => 2 ≤ trajectory.length) &&
    START_PROGRESS_MOVED_EPSILON_M < view.leader.progressTotalM

def LeaderView.gapMs (view : LeaderView) (gaps : HashMap ℕ ℕ) (sample : ActiveEntrySample)
    (lapsBehind : ℕ) : Option ℕ :=
  if sample.hideGapToLeader then none
  else if GAP_DISABLED_LAPS_BEHIND_THRESHOLD < lapsBehind then none
  else if !view.leaderHasMotion then some 0
  else
    ((view.trajectory.bind fun trajectory =>
      interpolateLeaderTimeMs trajectory sample.progressTotalM).map fun leaderTimeMs =>
        (min (max ((view.raceElapsedMs : ℚ) - leaderTimeMs) 0) (u32Max : ℚ)).floor.toNat).or
      (gaps.lookup sample.row.carId)

/-- A row that is not the leader's, and the gaps remembered after it. -/
def LeaderView.followerRow (view : LeaderView) (gaps : HashMap ℕ ℕ) (sample : ActiveEntrySample) :
    HashMap ℕ ℕ × OfficialRaceTableEntry :=
  let lapsBehind := view.leader.completedLaps - sample.completedLaps
  let gapMs := view.gapMs gaps sample lapsBehind
  let gaps := if sample.hideGapToLeader then gaps.erase sample.row.carId else gaps
  let gaps := match gapMs with
    | none => gaps
    | some gap => gaps.insert sample.row.carId gap
  (gaps, { sample.row with lapsBehind := lapsBehind, gapToLeaderMs := gapMs })

def LeaderView.rows (view : LeaderView) :
    HashMap ℕ ℕ → List ActiveEntrySample → HashMap ℕ ℕ × List OfficialRaceTableEntry
  | gaps, [] => (gaps, [])
  | gaps, sample :: rest =>
      if sample.row.carId = view.leader.row.carId then
        let r := view.rows gaps rest
        (r.1, { sample.row with lapsBehind := 0, gapToLeaderMs := some 0 } :: r.2)
      else
        let row := view.followerRow gaps sample
        let r := view.rows row.1 rest
        (r.1, row.2 :: r.2)

def computeActiveRows (cache : OfficialRaceCache) (raceElapsedMs : ℕ)
    (activeEntries : List ActiveEntrySample) :
    HashMap ℕ ℕ × List OfficialRaceTableEntry :=
  match activeEntries.head? with
  | none => (cache.lastComputedGapMs, [])
  | some leader =>
      LeaderView.rows ⟨leader, cache.carTrajectories.lookup leader.row.carId, raceElapsedMs⟩
        cache.lastComputedGapMs activeEntries

/-- The row of a car that was active at the last poll and is not now is
archived, unless the archive has the car. -/
def archiveRow (currentActiveIds : Finset ℕ) (archived : HashMap ℕ OfficialRaceTableEntry)
    (entry : ℕ × OfficialRaceTableEntry) : HashMap ℕ OfficialRaceTableEntry :=
  if entry.1 ∈ currentActiveIds then archived
  else if entry.1 ∈ archived then archived
  else archived.insert entry.1 { entry.2 with status := .dnf }

def archiveDropouts (lastActiveRows archivedDnfRows : HashMap ℕ OfficialRaceTableEntry)
    (currentActiveIds : Finset ℕ) : HashMap ℕ OfficialRaceTableEntry :=
  (HashMap.toList lastActiveRows).foldl (archiveRow currentActiveIds) archivedDnfRows

def finalizeRows (activeCount : ℕ) (rows : List OfficialRaceTableEntry) :
    List OfficialRaceTableEntry :=
  rows.mapIdx fun idx row =>
    { row with
      position := (idx + 1) % 2 ^ 32
      status := if idx < activeCount then .active else .dnf
      inPit := if activeCount ≤ idx then false else row.inPit }

def computeOfficialRowsWithCache (cache : OfficialRaceCache) (sessionMarker : String)
    (raceElapsedMs : ℕ) (activeEntries : List ActiveEntrySample) :
    OfficialRaceCache × List OfficialRaceTableEntry :=
  let cache := (cache.resetIfSessionChanged sessionMarker).resetIfElapsedDropped raceElapsedMs
  let cache := { cache with lastRaceElapsedMs := some raceElapsedMs }
  let currentActiveIds := (activeEntries.map (·.row.carId)).toFinset
  let normalized := normalizeActiveProgressFromStart cache activeEntries currentActiveIds
  let activeEntries := sortActiveEntries normalized.2
  let cache := updateCarTrajectories normalized.1 raceElapsedMs activeEntries currentActiveIds
  let active := computeActiveRows cache raceElapsedMs activeEntries
  let archived := archiveDropouts cache.lastActiveRows
    (HashMap.retain cache.archivedDnfRows (· ∉ currentActiveIds)) currentActiveIds
  let cache := { cache with
    lastComputedGapMs := HashMap.retain active.1 (· ∈ currentActiveIds)
    carStartProgressM := HashMap.retain cache.carStartProgressM (· ∈ currentActiveIds)
    archivedDnfRows := archived
    lastActiveRows := active.2.foldl (fun rows row => rows.insert row.carId row) ∅ }
  let dnfRows := (HashMap.values archived).insertionSort fun left right => left.carId ≤ right.carId
  (cache, finalizeRows active.2.length (active.2 ++ dnfRows))

/-! ## A poll -/

/-- `as u64` cuts off the fraction and saturates. -/
def raceElapsedMsOf (frame : RuntimeFrame) : ℕ :=
  match frame.officialRaceDurationS with
  | none => 0
  | some durationS => min (max durationS 0 * 1000).floor.toNat u64Max

def lapLengthMOf (frame : RuntimeFrame) : ℚ := max (frame.officialLapLengthM.getD 1) 1

def sessionMarkerOf (runtimeState : EngineRuntimeState) : String :=
  "official-race:" ++ runtimeState.mapId

def buildOfficialRaceSnapshot (cache : OfficialRaceCache) (runtimeState : EngineRuntimeState)
    (frame : RuntimeFrame) : OfficialRaceCache × List OfficialRaceTableEntry :=
  computeOfficialRowsWithCache cache (sessionMarkerOf runtimeState) (raceElapsedMsOf frame)
    (collectOfficialActiveEntries frame (lapLengthMOf frame))

def resolveTeamName (teamId : String) (teamNames : Option (HashMap String String)) : String :=
  (teamNames.bind fun value => value.lookup teamId).getD TEAM_NAME_FETCH_FAILED

def applyTeamNames (teamNames : Option (HashMap String String))
    (entries : List OfficialRaceTableEntry) : List OfficialRaceTableEntry :=
  entries.map fun entry =>
    { entry with team := entry.team.map fun team =>
        { team with teamName := resolveTeamName team.teamId teamNames } }

/-- What a poll of the official race reads: the latest frame, and the
team names when the service that knows them answers. -/
structure TablePoll where
  frame : RuntimeFrame
  teamNames : Option (HashMap String String)

/-- `build_snapshot` for the official race. -/
def buildSnapshot (cache : OfficialRaceCache) (poll : TablePoll) :
    OfficialRaceCache × Except Status (List OfficialRaceTableEntry) :=
  match poll.frame.runtimeState with
  | none => (cache, .error ⟨.notFound, "runtime state is unavailable"⟩)
  | some runtimeState =>
      if runtimeState.activityKind ≠ .officialRace then
        (cache, .error
          ⟨.notFound, "official race session is not active for race-table target"⟩)
      else
        let r := buildOfficialRaceSnapshot cache runtimeState poll.frame
        (r.1, .ok (applyTeamNames poll.teamNames r.2))

/-! ## What a poll does to the cache and to the rows -/

/-- The poll finds the cache of another session, as far as the map and
the elapsed time tell. -/
def OfficialRaceCache.Resets (cache : OfficialRaceCache) (sessionMarker : String)
    (raceElapsedMs : ℕ) : Prop :=
  cache.sessionMarker ≠ some sessionMarker ∨
    cache.lastRaceElapsedMs.any fun prevElapsedMs => (raceElapsedMs + 100) % 2 ^ 64 < prevElapsedMs

instance (cache : OfficialRaceCache) (sessionMarker : String) (raceElapsedMs : ℕ) :
    Decidable (cache.Resets sessionMarker raceElapsedMs) :=
  inferInstanceAs (Decidable (_ ∨ _))

theorem reset_eq (cache : OfficialRaceCache) (marker : String) (elapsed : ℕ) :
    (cache.resetIfSessionChanged marker).resetIfElapsedDropped elapsed =
      if cache.Resets marker elapsed then
        { cache with sessionMarker := some marker }.resetRuntimeProgress
      else cache := by
  by_cases hmarker : cache.sessionMarker = some marker
  · have hsame : { cache with sessionMarker := some marker } = cache := by rw [← hmarker]
    have hkept : cache.resetIfSessionChanged marker = cache := by
      simp [OfficialRaceCache.resetIfSessionChanged, hmarker]
    rw [hsame, hkept]
    unfold OfficialRaceCache.resetIfElapsedDropped
    split
    next hlast => simp [OfficialRaceCache.Resets, hmarker, hlast]
    next prev hlast => simp [OfficialRaceCache.Resets, hmarker, hlast]
  · have hreset : cache.Resets marker elapsed := Or.inl hmarker
    rw [if_pos hreset]
    simp [OfficialRaceCache.resetIfSessionChanged, hmarker,
      OfficialRaceCache.resetIfElapsedDropped, OfficialRaceCache.resetRuntimeProgress]

theorem normalizeSamples_carIds (baselines : HashMap ℕ ℚ) (samples : List ActiveEntrySample) :
    (normalizeSamples baselines samples).2.map (·.row.carId) = samples.map (·.row.carId) := by
  induction samples generalizing baselines with
  | nil => rfl
  | cons sample rest ih => simp [normalizeSamples, ih]

theorem LeaderView.rows_carIds (view : LeaderView) (gaps : HashMap ℕ ℕ)
    (samples : List ActiveEntrySample) :
    (view.rows gaps samples).2.map (·.carId) = samples.map (·.row.carId) := by
  induction samples generalizing gaps with
  | nil => rfl
  | cons sample rest ih =>
      by_cases hlead : sample.row.carId = view.leader.row.carId
      · simp [LeaderView.rows, hlead, ih]
      · simp [LeaderView.rows, hlead, ih, LeaderView.followerRow]

theorem computeActiveRows_carIds (cache : OfficialRaceCache) (elapsed : ℕ)
    (samples : List ActiveEntrySample) :
    (computeActiveRows cache elapsed samples).2.map (·.carId) = samples.map (·.row.carId) := by
  cases samples with
  | nil => rfl
  | cons leader rest => exact LeaderView.rows_carIds _ _ _

theorem finalizeRows_carIds (activeCount : ℕ) (rows : List OfficialRaceTableEntry) :
    (finalizeRows activeCount rows).map (·.carId) = rows.map (·.carId) := by
  apply List.ext_getElem?
  intro i
  simp [finalizeRows, Function.comp_def]

/-- The cars of the rows with status active, first row first. -/
def activeOrder (rows : List OfficialRaceTableEntry) : List ℕ :=
  (rows.filter (·.status = .active)).map (·.carId)

theorem activeOrder_finalizeRows (active dnf : List OfficialRaceTableEntry) :
    activeOrder (finalizeRows active.length (active ++ dnf)) = active.map (·.carId) := by
  have hactive : ∀ row ∈ finalizeRows active.length active, row.status = .active := by
    intro row hrow
    obtain ⟨i, hi, rfl⟩ := List.mem_mapIdx.mp hrow
    simp [hi]
  have hdnf : ∀ row ∈ dnf.mapIdx fun i row =>
      { row with
        position := (i + active.length + 1) % 2 ^ 32
        status := if i + active.length < active.length then .active else .dnf
        inPit := if active.length ≤ i + active.length then false else row.inPit },
      row.status = .dnf := by
    intro row hrow
    obtain ⟨i, hi, rfl⟩ := List.mem_mapIdx.mp hrow
    simp
  rw [← finalizeRows_carIds active.length active, activeOrder, finalizeRows, List.mapIdx_append,
    List.filter_append, List.map_append, ← finalizeRows]
  rw [List.filter_eq_self.mpr (by simpa using hactive), List.filter_eq_nil_iff.mpr]
  · simp
  · intro row hrow
    simp [hdnf row hrow]

/-- The cars a list of samples shows. -/
def sampledIds (samples : List ActiveEntrySample) : Finset ℕ :=
  (samples.map (·.row.carId)).toFinset

/-- The baselines the poll starts from. -/
def OfficialRaceCache.baselinesAt (cache : OfficialRaceCache) (marker : String) (elapsed : ℕ) :
    HashMap ℕ ℚ :=
  if cache.Resets marker elapsed then ∅ else cache.carStartProgressM

theorem reset_carStartProgressM (cache : OfficialRaceCache) (marker : String) (elapsed : ℕ) :
    ((cache.resetIfSessionChanged marker).resetIfElapsedDropped elapsed).carStartProgressM =
      cache.baselinesAt marker elapsed := by
  rw [reset_eq, OfficialRaceCache.baselinesAt]
  split
  · rfl
  · rfl

theorem computeRows_activeOrder (cache : OfficialRaceCache) (marker : String) (elapsed : ℕ)
    (samples : List ActiveEntrySample) :
    activeOrder (computeOfficialRowsWithCache cache marker elapsed samples).2 =
      (sortActiveEntries (normalizeSamples
        (HashMap.retain (cache.baselinesAt marker elapsed) (· ∈ sampledIds samples))
        samples).2).map (·.row.carId) := by
  rw [← reset_carStartProgressM]
  exact (activeOrder_finalizeRows _ _).trans (computeActiveRows_carIds _ _ _)

theorem computeRows_carStartProgressM (cache : OfficialRaceCache) (marker : String)
    (elapsed : ℕ) (samples : List ActiveEntrySample) :
    (computeOfficialRowsWithCache cache marker elapsed samples).1.carStartProgressM =
      HashMap.retain (normalizeSamples
        (HashMap.retain (cache.baselinesAt marker elapsed) (· ∈ sampledIds samples)) samples).1
        (· ∈ sampledIds samples) := by
  rw [← reset_carStartProgressM]
  rfl

theorem applyTeamNames_carIds (teamNames : Option (HashMap String String))
    (rows : List OfficialRaceTableEntry) :
    (applyTeamNames teamNames rows).map (·.carId) = rows.map (·.carId) := by
  simp [applyTeamNames]

theorem activeOrder_applyTeamNames (teamNames : Option (HashMap String String))
    (rows : List OfficialRaceTableEntry) :
    activeOrder (applyTeamNames teamNames rows) = activeOrder rows := by
  simp [activeOrder, applyTeamNames, List.filter_map, Function.comp_def]

/-- The samples of the official race in a frame. -/
def frameSamples (frame : RuntimeFrame) : List ActiveEntrySample :=
  collectOfficialActiveEntries frame (lapLengthMOf frame)

/-- The polls of a frame are refused whatever the cache holds, and then
leave it alone, or they are answered from the samples of the frame. -/
theorem buildSnapshot_cases (frame : RuntimeFrame) :
    (∃ status, ∀ cache teamNames,
      buildSnapshot cache ⟨frame, teamNames⟩ = (cache, .error status)) ∨
    (∃ runtimeState ∈ frame.runtimeState, runtimeState.activityKind = .officialRace ∧
      ∀ cache teamNames, buildSnapshot cache ⟨frame, teamNames⟩ =
        ((buildOfficialRaceSnapshot cache runtimeState frame).1,
          .ok (applyTeamNames teamNames (buildOfficialRaceSnapshot cache runtimeState frame).2))) := by
  cases hstate : frame.runtimeState with
  | none =>
      left
      refine ⟨⟨.notFound, "runtime state is unavailable"⟩, ?_⟩
      intro cache teamNames
      simp [buildSnapshot, hstate]
  | some runtimeState =>
      by_cases hkind : runtimeState.activityKind = .officialRace
      · right
        refine ⟨runtimeState, rfl, hkind, ?_⟩
        intro cache teamNames
        simp [buildSnapshot, hstate, hkind]
      · left
        refine ⟨⟨.notFound, "official race session is not active for race-table target"⟩, ?_⟩
        intro cache teamNames
        simp [buildSnapshot, hstate, hkind]

/-- The cache after a poll. -/
def pollTable (cache : OfficialRaceCache) (poll : TablePoll) : OfficialRaceCache :=
  (buildSnapshot cache poll).1

/-- A poll during an official race, given the duration read and the lap
progress of each car. -/
def pollAt (durationS : Option F32) (progress : List (ℕ × F32)) : TablePoll where
  frame := { RuntimeFrame.default with
    runtimeState := some ⟨1, .officialRace, "ring", none, [], .unspecified, []⟩
    cars := progress.foldl (fun cars car => cars.insert car.1
      ⟨car.1, car.1, .officialRace, CarWorld.parked car.1,
        some { VehicleRaceMetrics.default with lapProgressM := car.2 }, none, 0, none, .default,
        .default⟩) ∅
    officialRaceDurationS := durationS }
  teamNames := none

end HackArena.Services
