import HackArena.Lib.GuardedRun
import HackArena.Services.RaceTable

/-!
# Which session the rows belong to

The table keeps the rows of cars that dropped out until it takes the
session to have changed: when the map differs, or the elapsed time falls.
A run of official sessions is a list of polls and of session starts; next
to the cache it records the cars that some poll of the session has seen.
-/

namespace HackArena.Services

open Boink HackArena.Runtime GuardedRun

/-! ## The cars of the rows -/

/-- Every row stands under its own car. -/
def KeyedRows (rows : HashMap ℕ OfficialRaceTableEntry) : Prop :=
  HashMap.Forall (fun carId row => row.carId = carId) rows

/-- The cars the cache has a row of. -/
def OfficialRaceCache.known (cache : OfficialRaceCache) : Finset ℕ :=
  cache.lastActiveRows.keys ∪ cache.archivedDnfRows.keys

structure OfficialRaceCache.Keyed (cache : OfficialRaceCache) : Prop where
  active : KeyedRows cache.lastActiveRows
  archived : KeyedRows cache.archivedDnfRows

theorem keyedRows_empty : KeyedRows ∅ := HashMap.forall_empty

theorem KeyedRows.insert {rows : HashMap ℕ OfficialRaceTableEntry} (h : KeyedRows rows)
    {carId : ℕ} {row : OfficialRaceTableEntry} (hrow : row.carId = carId) :
    KeyedRows (rows.insert carId row) := HashMap.Forall.insert h hrow

theorem KeyedRows.retain {rows : HashMap ℕ OfficialRaceTableEntry} (h : KeyedRows rows)
    (keep : ℕ → Prop) [DecidablePred keep] : KeyedRows (HashMap.retain rows keep) :=
  HashMap.Forall.retain h keep

theorem values_carIds {rows : HashMap ℕ OfficialRaceTableEntry} (h : KeyedRows rows) :
    ((HashMap.values rows).map (·.carId)).toFinset = rows.keys := by
  ext carId
  simp only [List.mem_toFinset, List.mem_map, HashMap.mem_values, Finmap.mem_keys, Finmap.mem_iff]
  constructor
  · rintro ⟨row, ⟨key, hkey⟩, rfl⟩
    rw [h key row hkey]
    exact ⟨row, hkey⟩
  · rintro ⟨row, hrow⟩
    exact ⟨row, ⟨carId, hrow⟩, h carId row hrow⟩

/-- The rows of the last poll, each under its car. -/
theorem insertRows_spec (active : List OfficialRaceTableEntry)
    (rows : HashMap ℕ OfficialRaceTableEntry) (h : KeyedRows rows) :
    let r := active.foldl (fun rows row => rows.insert row.carId row) rows
    KeyedRows r ∧ r.keys = rows.keys ∪ (active.map (·.carId)).toFinset := by
  induction active generalizing rows with
  | nil => exact ⟨h, by simp⟩
  | cons row rest ih =>
      obtain ⟨hkeyed, hkeys⟩ := ih (rows.insert row.carId row) (h.insert rfl)
      refine ⟨hkeyed, ?_⟩
      rw [List.foldl_cons, hkeys, HashMap.keys_insert]
      ext carId
      simp

theorem archiveRow_spec (active : Finset ℕ) {archived : HashMap ℕ OfficialRaceTableEntry}
    (h : KeyedRows archived) {entry : ℕ × OfficialRaceTableEntry}
    (hentry : entry.2.carId = entry.1) :
    KeyedRows (archiveRow active archived entry) ∧
      (archiveRow active archived entry).keys = archived.keys ∪ {entry.1} \ active := by
  unfold archiveRow
  split
  next hactive => exact ⟨h, by simp [hactive]⟩
  next hactive =>
    have hsingle : ({entry.1} : Finset ℕ) \ active = {entry.1} := by simpa using hactive
    rw [hsingle]
    split
    next hknown =>
      refine ⟨h, ?_⟩
      rw [Finset.union_eq_left.mpr]
      simpa [Finmap.mem_keys] using hknown
    next =>
      refine ⟨h.insert hentry, ?_⟩
      rw [HashMap.keys_insert, Finset.insert_eq, Finset.union_comm]

theorem archiveRows_spec (active : Finset ℕ) (entries : List (ℕ × OfficialRaceTableEntry))
    {archived : HashMap ℕ OfficialRaceTableEntry} (h : KeyedRows archived)
    (hentries : ∀ entry ∈ entries, entry.2.carId = entry.1) :
    KeyedRows (entries.foldl (archiveRow active) archived) ∧
      (entries.foldl (archiveRow active) archived).keys =
        archived.keys ∪ (entries.map Prod.fst).toFinset \ active := by
  induction entries generalizing archived with
  | nil => exact ⟨h, by simp⟩
  | cons entry rest ih =>
      obtain ⟨hkeyed, hkeys⟩ := archiveRow_spec active h (hentries entry List.mem_cons_self)
      obtain ⟨hkeyed', hkeys'⟩ := ih hkeyed fun other hother =>
        hentries other (List.mem_cons_of_mem entry hother)
      refine ⟨hkeyed', ?_⟩
      rw [List.foldl_cons, hkeys', hkeys, List.map_cons, List.toFinset_cons, Finset.insert_eq,
        Finset.union_sdiff_distrib, Finset.union_assoc]

/-- The archive gains the last rows of the cars that are not active. -/
theorem archiveDropouts_spec {lastActiveRows archived : HashMap ℕ OfficialRaceTableEntry}
    (hlast : KeyedRows lastActiveRows) (harch : KeyedRows archived) (active : Finset ℕ) :
    KeyedRows (archiveDropouts lastActiveRows archived active) ∧
      (archiveDropouts lastActiveRows archived active).keys =
        archived.keys ∪ lastActiveRows.keys \ active := by
  have hentries : ∀ entry ∈ HashMap.toList lastActiveRows, entry.2.carId = entry.1 :=
    fun entry hentry => hlast entry.1 entry.2 (HashMap.mem_toList.mp hentry)
  have hkeys : ((HashMap.toList lastActiveRows).map Prod.fst).toFinset = lastActiveRows.keys := by
    ext carId
    simp [HashMap.mem_toList, Finmap.mem_keys, Finmap.mem_iff]
  rw [← hkeys]
  exact archiveRows_spec active _ harch hentries

/-! ## One poll -/

/-- The cars the poll starts from. -/
def OfficialRaceCache.knownAt (cache : OfficialRaceCache) (marker : String) (elapsed : ℕ) :
    Finset ℕ :=
  if cache.Resets marker elapsed then ∅ else cache.known

theorem reset_keyed {cache : OfficialRaceCache} (h : cache.Keyed) (marker : String)
    (elapsed : ℕ) :
    ((cache.resetIfSessionChanged marker).resetIfElapsedDropped elapsed).Keyed ∧
      ((cache.resetIfSessionChanged marker).resetIfElapsedDropped elapsed).known =
        cache.knownAt marker elapsed := by
  rw [reset_eq, OfficialRaceCache.knownAt]
  split
  · exact ⟨⟨keyedRows_empty, keyedRows_empty⟩, rfl⟩
  · exact ⟨h, rfl⟩

theorem sortedSamples_carIds (baselines : HashMap ℕ ℚ) (samples : List ActiveEntrySample) :
    ((sortActiveEntries (normalizeSamples baselines samples).2).map (·.row.carId)).toFinset =
      sampledIds samples := by
  rw [sampledIds, ← normalizeSamples_carIds baselines samples]
  apply List.toFinset_eq_of_perm
  exact (List.perm_insertionSort rankedBefore _).map _

/-- The rows a poll returns are those of the active cars and the archive;
both are kept for the next poll. -/
theorem computeRows_shape (cache : OfficialRaceCache) (marker : String) (elapsed : ℕ)
    (samples : List ActiveEntrySample) :
    let before := (cache.resetIfSessionChanged marker).resetIfElapsedDropped elapsed
    let r := computeOfficialRowsWithCache cache marker elapsed samples
    ∃ active : List OfficialRaceTableEntry,
      (active.map (·.carId)).toFinset = sampledIds samples ∧
      r.1.lastActiveRows = active.foldl (fun rows row => rows.insert row.carId row) ∅ ∧
      r.1.archivedDnfRows = archiveDropouts before.lastActiveRows
        (HashMap.retain before.archivedDnfRows (· ∉ sampledIds samples)) (sampledIds samples) ∧
      r.2 = finalizeRows active.length (active ++ (HashMap.values r.1.archivedDnfRows).insertionSort
        fun left right => left.carId ≤ right.carId) := by
  refine ⟨_, ?_, rfl, rfl, rfl⟩
  rw [computeActiveRows_carIds]
  exact sortedSamples_carIds _ _

theorem keys_retain_notMem (rows : HashMap ℕ OfficialRaceTableEntry) (active : Finset ℕ) :
    (HashMap.retain rows (· ∉ active)).keys = rows.keys \ active := by
  ext carId
  simp [Finmap.mem_keys, HashMap.mem_retain]

/-- The cache after a poll knows the cars of the frame and those it
started from, and the rows are exactly theirs. -/
theorem computeRows_known {cache : OfficialRaceCache} (h : cache.Keyed) (marker : String)
    (elapsed : ℕ) (samples : List ActiveEntrySample) :
    let r := computeOfficialRowsWithCache cache marker elapsed samples
    r.1.Keyed ∧ r.1.known = sampledIds samples ∪ cache.knownAt marker elapsed ∧
      (r.2.map (·.carId)).toFinset = r.1.known := by
  intro r
  obtain ⟨hkeyed, hknown⟩ := reset_keyed h marker elapsed
  obtain ⟨active, hactive, hlast, harch, hrows⟩ := computeRows_shape cache marker elapsed samples
  obtain ⟨hlastKeyed, hlastKeys⟩ := insertRows_spec active ∅ keyedRows_empty
  obtain ⟨harchKeyed, harchKeys⟩ := archiveDropouts_spec hkeyed.active
    (hkeyed.archived.retain (· ∉ sampledIds samples)) (sampledIds samples)
  rw [← hlast, hactive] at hlastKeys
  rw [← hlast] at hlastKeyed
  rw [← harch, keys_retain_notMem] at harchKeys
  rw [← harch] at harchKeyed
  have hall : r.1.known = sampledIds samples ∪ cache.knownAt marker elapsed := by
    rw [← hknown, OfficialRaceCache.known, OfficialRaceCache.known, hlastKeys, harchKeys,
      Finmap.keys_empty, Finset.empty_union, ← Finset.union_sdiff_distrib,
      Finset.union_sdiff_self_eq_union, Finset.union_comm (Finmap.keys _)]
  refine ⟨⟨hlastKeyed, harchKeyed⟩, hall, ?_⟩
  rw [hrows, finalizeRows_carIds, List.map_append, List.toFinset_append, hactive,
    List.toFinset_eq_of_perm _ _ ((List.perm_insertionSort _ _).map _), values_carIds harchKeyed,
    OfficialRaceCache.known, hlastKeys, Finmap.keys_empty, Finset.empty_union]

theorem buildOfficialRaceSnapshot_known {cache : OfficialRaceCache} (h : cache.Keyed)
    (runtimeState : EngineRuntimeState) (frame : RuntimeFrame) :
    let r := buildOfficialRaceSnapshot cache runtimeState frame
    r.1.Keyed ∧
      r.1.known = sampledIds (frameSamples frame) ∪
        cache.knownAt (sessionMarkerOf runtimeState) (raceElapsedMsOf frame) ∧
      (r.2.map (·.carId)).toFinset = r.1.known :=
  computeRows_known h _ _ _

/-! ## Sessions and polls -/

inductive TableEvent where
  | sessionStarts
  | polled (poll : TablePoll)

/-- The cache, and the cars that some poll of the session has seen. -/
structure TableRun where
  cache : OfficialRaceCache
  seen : Finset ℕ

def TableRun.initial : TableRun := ⟨.default, ∅⟩

/-- The cars an answered poll sees. -/
def seenBy (cache : OfficialRaceCache) (poll : TablePoll) : Finset ℕ :=
  match (buildSnapshot cache poll).2 with
  | .ok _ => sampledIds (frameSamples poll.frame)
  | .error _ => ∅

def TableRun.step (s : TableRun) : TableEvent → TableRun
  | .sessionStarts => { s with seen := ∅ }
  | .polled poll => ⟨pollTable s.cache poll, s.seen ∪ seenBy s.cache poll⟩

/-- The rows of an answer are the cars that the session's polls have seen,
this one included. -/
def RowsAreSessionCars (s : TableRun) : TableEvent → Prop
  | .sessionStarts => True
  | .polled poll => ∀ rows, (buildSnapshot s.cache poll).2 = .ok rows →
      (rows.map (·.carId)).toFinset = s.seen ∪ seenBy s.cache poll

/-- The poll resets the cache exactly if no poll of the session has seen a
car, or else every car of the cache is in the frame. -/
def ResetsWithSession (s : TableRun) : TableEvent → Prop
  | .sessionStarts => True
  | .polled poll => ∀ runtimeState ∈ poll.frame.runtimeState,
      runtimeState.activityKind = .officialRace →
      s.cache.known ⊆ sampledIds (frameSamples poll.frame) ∨
        (s.cache.Resets (sessionMarkerOf runtimeState) (raceElapsedMsOf poll.frame) ↔ s.seen = ∅)

/-- Once a poll of the session has seen a car, the cache knows exactly the
cars that were seen. -/
structure TableRun.Invariant (s : TableRun) : Prop where
  keyed : s.cache.Keyed
  known : s.seen ≠ ∅ → s.cache.known = s.seen

theorem TableRun.invariant_initial : TableRun.initial.Invariant where
  keyed := ⟨keyedRows_empty, keyedRows_empty⟩
  known := fun h => (h rfl).elim

/-- What an answered poll does to the run. -/
theorem polled_spec {s : TableRun} (h : s.cache.Keyed) {frame : RuntimeFrame}
    (teamNames : Option (HashMap String String)) {runtimeState : EngineRuntimeState}
    (hok : ∀ cache teamNames, buildSnapshot cache ⟨frame, teamNames⟩ =
      ((buildOfficialRaceSnapshot cache runtimeState frame).1,
        .ok (applyTeamNames teamNames (buildOfficialRaceSnapshot cache runtimeState frame).2))) :
    (s.step (.polled ⟨frame, teamNames⟩)).cache.Keyed ∧
      (s.step (.polled ⟨frame, teamNames⟩)).seen = s.seen ∪ sampledIds (frameSamples frame) ∧
      (s.step (.polled ⟨frame, teamNames⟩)).cache.known = sampledIds (frameSamples frame) ∪
        s.cache.knownAt (sessionMarkerOf runtimeState) (raceElapsedMsOf frame) ∧
      (RowsAreSessionCars s (.polled ⟨frame, teamNames⟩) ↔
        (s.step (.polled ⟨frame, teamNames⟩)).cache.known = s.seen ∪
          sampledIds (frameSamples frame)) := by
  obtain ⟨hkeyed, hknown, hrows⟩ := buildOfficialRaceSnapshot_known h runtimeState frame
  have hseen : seenBy s.cache ⟨frame, teamNames⟩ = sampledIds (frameSamples frame) := by
    simp [seenBy, hok]
  refine ⟨?_, ?_, ?_, ?_⟩
  · simpa [TableRun.step, pollTable, hok] using hkeyed
  · simp [TableRun.step, hseen]
  · simpa [TableRun.step, pollTable, hok] using hknown
  · simp only [RowsAreSessionCars, hok, Except.ok.injEq, forall_eq', hseen, applyTeamNames_carIds,
      TableRun.step, pollTable, hrows]

theorem polled_refused (s : TableRun) {frame : RuntimeFrame}
    (teamNames : Option (HashMap String String)) {status : Status}
    (herr : ∀ cache teamNames, buildSnapshot cache ⟨frame, teamNames⟩ = (cache, .error status)) :
    s.step (.polled ⟨frame, teamNames⟩) = s ∧
      RowsAreSessionCars s (.polled ⟨frame, teamNames⟩) ∧
      ResetsWithSession s (.polled ⟨frame, teamNames⟩) := by
  refine ⟨?_, ?_, ?_⟩
  · simp [TableRun.step, pollTable, seenBy, herr]
  · simp [RowsAreSessionCars, herr]
  · intro runtimeState hstate hkind
    have hstate' : frame.runtimeState = some runtimeState := hstate
    have hpoll := herr s.cache teamNames
    simp [buildSnapshot, hstate', hkind] at hpoll

/-- The cars after a poll are the session's exactly if the poll resets the
cache when the session is new and only then, or if nothing depends on it. -/
theorem known_iff {seen known active : Finset ℕ} {resets : Prop} [Decidable resets]
    (hknown : seen ≠ ∅ → known = seen) :
    active ∪ (if resets then ∅ else known) = seen ∪ active ↔
      known ⊆ active ∨ (resets ↔ seen = ∅) := by
  by_cases hseen : seen = ∅
  · subst hseen
    by_cases hreset : resets
    · simp [hreset]
    · simp [hreset, Finset.union_eq_left]
  · rw [hknown hseen]
    by_cases hreset : resets
    · simp [hreset, hseen]
    · simp [hreset, hseen, Finset.union_comm]

theorem resetsWithSession_iff {s : TableRun} {frame : RuntimeFrame}
    {teamNames : Option (HashMap String String)} {runtimeState : EngineRuntimeState}
    (hstate : runtimeState ∈ frame.runtimeState)
    (hkind : runtimeState.activityKind = .officialRace) :
    ResetsWithSession s (.polled ⟨frame, teamNames⟩) ↔
      s.cache.known ⊆ sampledIds (frameSamples frame) ∨
        (s.cache.Resets (sessionMarkerOf runtimeState) (raceElapsedMsOf frame) ↔ s.seen = ∅) := by
  constructor
  · intro h
    exact h runtimeState hstate hkind
  · intro h other hother _
    rw [Option.mem_unique hother hstate]
    exact h

theorem rowsAreSessionCars_iff {s : TableRun} (h : s.Invariant) (event : TableEvent) :
    RowsAreSessionCars s event ↔ ResetsWithSession s event := by
  cases event with
  | sessionStarts => exact Iff.rfl
  | polled poll =>
      obtain ⟨frame, teamNames⟩ := poll
      obtain ⟨status, herr⟩ | ⟨runtimeState, hstate, hkind, hok⟩ := buildSnapshot_cases frame
      · obtain ⟨-, hrows, hresets⟩ := polled_refused s teamNames herr
        exact iff_of_true hrows hresets
      · obtain ⟨-, -, hknown, hrows⟩ := polled_spec h.keyed teamNames hok
        rw [hrows, hknown, resetsWithSession_iff hstate hkind]
        exact known_iff h.known

theorem TableRun.Invariant.step {s : TableRun} (h : s.Invariant) {event : TableEvent}
    (hresets : ResetsWithSession s event) : (s.step event).Invariant := by
  have hcars := (rowsAreSessionCars_iff h event).mpr hresets
  cases event with
  | sessionStarts => exact ⟨h.keyed, fun hne => (hne rfl).elim⟩
  | polled poll =>
      obtain ⟨frame, teamNames⟩ := poll
      obtain ⟨status, herr⟩ | ⟨runtimeState, hstate, hkind, hok⟩ := buildSnapshot_cases frame
      · rw [(polled_refused s teamNames herr).1]
        exact h
      · obtain ⟨hkeyed, hseen, -, hrows⟩ := polled_spec h.keyed teamNames hok
        refine ⟨hkeyed, fun _ => ?_⟩
        rw [hseen]
        exact hrows.mp hcars

/-- Over every run of sessions and polls, each answer shows exactly the
cars of its session if and only if each poll resets the cache exactly when
its session has shown no car yet, or finds every car of the cache in its
frame. -/
theorem rows_are_session_cars (events : List TableEvent) :
    Along RowsAreSessionCars TableRun.step .initial events ↔
      Along ResetsWithSession TableRun.step .initial events :=
  Along.congr_of_kept (G := fun _ _ => True) (along_of_forall fun _ _ => trivial)
    (fun _ _ h _ hresets => h.step hresets) (fun _ event h _ => rowsAreSessionCars_iff h event)
    TableRun.invariant_initial

/-- Two cars race for a minute, then the second drops out. -/
def dropoutRun : List TableEvent :=
  [.sessionStarts, .polled (pollAt (some 60) [(1, 50), (2, 40)]),
    .polled (pollAt (some 61) [(1, 60)])]

/-- A poll whose frame has no race duration. -/
def unreadPoll : TablePoll := pollAt none [(1, 70)]

/-- A frame without the race duration counts as elapsed time zero, which
resets the cache: the car that dropped out is gone from the rows. -/
theorem dropout_row_lost :
    (dropoutRun.foldl TableRun.step .initial).seen = {1, 2} ∧
      (buildSnapshot (dropoutRun.foldl TableRun.step .initial).cache unreadPoll).2.map
        (fun rows => rows.map (·.carId)) = .ok [1] ∧
      ¬ Along RowsAreSessionCars TableRun.step .initial (dropoutRun ++ [.polled unreadPoll]) := by
  have hseen : (dropoutRun.foldl TableRun.step .initial).seen = {1, 2} := by decide +kernel
  have hrows : (buildSnapshot (dropoutRun.foldl TableRun.step .initial).cache unreadPoll).2.map
      (fun rows => rows.map (·.carId)) = .ok [1] := by decide +kernel
  refine ⟨hseen, hrows, ?_⟩
  intro hrun
  have hlast := (along_append.mp hrun).2.1
  cases hanswer : (buildSnapshot (dropoutRun.foldl TableRun.step .initial).cache unreadPoll).2 with
  | error status =>
      rw [hanswer] at hrows
      cases hrows
  | ok rows =>
      have hcars := hlast rows hanswer
      rw [hanswer] at hrows
      have hids : rows.map (·.carId) = [1] := Except.ok.inj hrows
      rw [hids, hseen] at hcars
      have hmem : 2 ∈ ([1] : List ℕ).toFinset := by
        rw [hcars]
        simp
      simp at hmem

end HackArena.Services
