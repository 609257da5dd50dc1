import HackArena.Lib.GuardedRun
import HackArena.Services.RaceTable

/-!
# What the race table ranks by

A car's progress is counted from a baseline that the table takes at the
first poll that sees the car. While every baseline is taken at the race
start, the ranking is the one by distance covered, whatever was polled
before. A baseline taken later makes the ranking depend on the polls.
-/

namespace HackArena.Services

open Boink HackArena.Runtime GuardedRun

/-- The distance a car has covered, given the progress of each car at the
race start. A car pushed back behind its place has covered none. -/
def distanceCovered (start : ℕ → ℚ) (sample : ActiveEntrySample) : ℚ :=
  max (sample.progressTotalM - start sample.row.carId) 0

/-- `left` is ranked before `right` by distance covered, then by car id. -/
def AheadByDistance (start : ℕ → ℚ) (left right : ActiveEntrySample) : Prop :=
  distanceCovered start right < distanceCovered start left ∨
    distanceCovered start left = distanceCovered start right ∧ left.row.carId ≤ right.row.carId

instance (start : ℕ → ℚ) : DecidableRel (AheadByDistance start) := fun _ _ =>
  inferInstanceAs (Decidable (_ ∨ _))

/-- The cars of a frame in the order of the distance covered. -/
def distanceOrder (start : ℕ → ℚ) (frame : RuntimeFrame) : List ℕ :=
  ((frameSamples frame).insertionSort (AheadByDistance start)).map (·.row.carId)

/-- Every cached baseline is the car's progress at the race start. -/
def BaselinesAreStarts (start : ℕ → ℚ) (baselines : HashMap ℕ ℚ) : Prop :=
  HashMap.Forall (fun carId baseline => baseline = start carId) baselines

/-- A car whose baseline this poll takes, since the cache has none or is
reset, still is where it stood at the race start. -/
def RecordsAtStart (start : ℕ → ℚ) (cache : OfficialRaceCache) (poll : TablePoll) : Prop :=
  ∀ runtimeState ∈ poll.frame.runtimeState, runtimeState.activityKind = .officialRace →
    ∀ sample ∈ frameSamples poll.frame,
      cache.Resets (sessionMarkerOf runtimeState) (raceElapsedMsOf poll.frame) ∨
        sample.row.carId ∉ cache.carStartProgressM →
      sample.progressTotalM = start sample.row.carId

instance (start : ℕ → ℚ) (cache : OfficialRaceCache) (poll : TablePoll) :
    Decidable (RecordsAtStart start cache poll) :=
  inferInstanceAs (Decidable (∀ runtimeState ∈ poll.frame.runtimeState, _ → ∀ sample ∈ _, _ → _))

/-- The answer to a poll after earlier ones. -/
def answerAfter (cache : OfficialRaceCache) (polls : List TablePoll) (poll : TablePoll) :
    Except Status (List OfficialRaceTableEntry) :=
  (buildSnapshot (polls.foldl pollTable cache) poll).2

/-! ## Baselines -/

variable {start : ℕ → ℚ}

theorem baselinesAreStarts_empty : BaselinesAreStarts start ∅ := HashMap.forall_empty

theorem BaselinesAreStarts.retain {baselines : HashMap ℕ ℚ}
    (h : BaselinesAreStarts start baselines) (keep : ℕ → Prop) [DecidablePred keep] :
    BaselinesAreStarts start (HashMap.retain baselines keep) := HashMap.Forall.retain h keep

theorem BaselinesAreStarts.insert {baselines : HashMap ℕ ℚ}
    (h : BaselinesAreStarts start baselines) (carId : ℕ) :
    BaselinesAreStarts start (baselines.insert carId (start carId)) := HashMap.Forall.insert h rfl

/-- With right baselines, and new ones taken at the start, every sample's
progress becomes its distance covered. -/
theorem normalizeSamples_eq {baselines : HashMap ℕ ℚ} {samples : List ActiveEntrySample}
    (hbase : BaselinesAreStarts start baselines)
    (hnew : ∀ sample ∈ samples, sample.row.carId ∉ baselines →
      sample.progressTotalM = start sample.row.carId) :
    BaselinesAreStarts start (normalizeSamples baselines samples).1 ∧
      (normalizeSamples baselines samples).2 =
        samples.map fun sample => { sample with progressTotalM := distanceCovered start sample } := by
  induction samples generalizing baselines with
  | nil => exact ⟨hbase, rfl⟩
  | cons sample rest ih =>
      have hbaseline : (baselines.lookup sample.row.carId).getD sample.progressTotalM =
          start sample.row.carId := by
        cases hlook : baselines.lookup sample.row.carId with
        | none => exact hnew sample List.mem_cons_self (Finmap.lookup_eq_none.mp hlook)
        | some baseline => exact hbase _ _ hlook
      have hrest := ih (hbase.insert sample.row.carId) fun other hother hfree =>
        hnew other (List.mem_cons_of_mem sample hother) fun hmem =>
          hfree (Finmap.mem_insert.mpr (Or.inr hmem))
      simp only [normalizeSamples, hbaseline, List.map_cons, List.cons.injEq]
      exact ⟨hrest.1, rfl, hrest.2⟩

theorem sortActiveEntries_map (samples : List ActiveEntrySample) :
    (sortActiveEntries (samples.map fun sample =>
      { sample with progressTotalM := distanceCovered start sample })).map (·.row.carId) =
    (samples.insertionSort (AheadByDistance start)).map (·.row.carId) := by
  have hsort := List.map_insertionSort (r := AheadByDistance start) (s := rankedBefore)
    (fun sample => { sample with progressTotalM := distanceCovered start sample }) samples
    fun _ _ _ _ => Iff.rfl
  rw [sortActiveEntries, ← hsort, List.map_map]
  rfl

/-! ## One poll -/

theorem baselinesAt_areStarts {cache : OfficialRaceCache}
    (h : BaselinesAreStarts start cache.carStartProgressM) (marker : String) (elapsed : ℕ) :
    BaselinesAreStarts start (cache.baselinesAt marker elapsed) := by
  unfold OfficialRaceCache.baselinesAt
  split
  · exact baselinesAreStarts_empty
  · exact h

/-- The baselines a poll starts its own work from are right, and so are
those it takes. -/
theorem normalized_of_recordsAtStart {cache : OfficialRaceCache} {frame : RuntimeFrame}
    {teamNames : Option (HashMap String String)} {runtimeState : EngineRuntimeState}
    (hstate : runtimeState ∈ frame.runtimeState)
    (hkind : runtimeState.activityKind = .officialRace)
    (hbase : BaselinesAreStarts start cache.carStartProgressM)
    (hrec : RecordsAtStart start cache ⟨frame, teamNames⟩) :
    let r := normalizeSamples
      (HashMap.retain (cache.baselinesAt (sessionMarkerOf runtimeState) (raceElapsedMsOf frame))
        (· ∈ sampledIds (frameSamples frame)))
      (frameSamples frame)
    BaselinesAreStarts start r.1 ∧ r.2 = (frameSamples frame).map fun sample =>
      { sample with progressTotalM := distanceCovered start sample } := by
  apply normalizeSamples_eq
  · exact (baselinesAt_areStarts hbase _ _).retain _
  · intro sample hsample hfree
    apply hrec runtimeState hstate hkind sample hsample
    have hin : sample.row.carId ∈ sampledIds (frameSamples frame) :=
      List.mem_toFinset.mpr (List.mem_map_of_mem hsample)
    unfold OfficialRaceCache.baselinesAt at hfree
    split at hfree
    next hreset => exact Or.inl hreset
    next =>
      right
      intro hmem
      exact hfree (HashMap.mem_retain.mpr ⟨hmem, hin⟩)

theorem pollTable_baselines (cache : OfficialRaceCache) (poll : TablePoll)
    (hbase : BaselinesAreStarts start cache.carStartProgressM)
    (hrec : RecordsAtStart start cache poll) :
    BaselinesAreStarts start (pollTable cache poll).carStartProgressM := by
  obtain ⟨frame, teamNames⟩ := poll
  obtain ⟨status, herr⟩ | ⟨runtimeState, hstate, hkind, hok⟩ := buildSnapshot_cases frame
  · rw [pollTable, herr]
    exact hbase
  · rw [pollTable, hok, buildOfficialRaceSnapshot, computeRows_carStartProgressM]
    exact (normalized_of_recordsAtStart hstate hkind hbase hrec).1.retain _

theorem buildOfficialRaceSnapshot_order {cache : OfficialRaceCache} {frame : RuntimeFrame}
    {teamNames : Option (HashMap String String)} {runtimeState : EngineRuntimeState}
    (hstate : runtimeState ∈ frame.runtimeState)
    (hkind : runtimeState.activityKind = .officialRace)
    (hbase : BaselinesAreStarts start cache.carStartProgressM)
    (hrec : RecordsAtStart start cache ⟨frame, teamNames⟩) :
    activeOrder (buildOfficialRaceSnapshot cache runtimeState frame).2 =
      distanceOrder start frame := by
  have hnorm := (normalized_of_recordsAtStart hstate hkind hbase hrec).2
  rw [frameSamples] at hnorm
  rw [buildOfficialRaceSnapshot, computeRows_activeOrder, hnorm]
  exact sortActiveEntries_map _

/-! ## Two polling histories -/

/-- What the last poll of a history finds: right baselines, and new ones
taken at the start. -/
theorem Along.recordsAtStart_last {cache : OfficialRaceCache} {polls : List TablePoll}
    {poll : TablePoll} (hbase : BaselinesAreStarts start cache.carStartProgressM)
    (hrun : Along (RecordsAtStart start) pollTable cache (polls ++ [poll])) :
    BaselinesAreStarts start (polls.foldl pollTable cache).carStartProgressM ∧
      RecordsAtStart start (polls.foldl pollTable cache) poll := by
  obtain ⟨hpolls, hlast⟩ := along_append.mp hrun
  exact ⟨hpolls.invariant (I := fun cache => BaselinesAreStarts start cache.carStartProgressM)
    pollTable_baselines hbase, hlast.1⟩

/-- Two histories of polls within a session, each taking its baselines at
the race start, rank the cars of a frame alike: by distance covered, then
by car id. -/
theorem active_order_by_distance (start : ℕ → ℚ) (frame : RuntimeFrame)
    (cache₁ cache₂ : OfficialRaceCache) (polls₁ polls₂ : List TablePoll)
    (teamNames₁ teamNames₂ : Option (HashMap String String))
    (hbase₁ : BaselinesAreStarts start cache₁.carStartProgressM)
    (hbase₂ : BaselinesAreStarts start cache₂.carStartProgressM)
    (hrun₁ : Along (RecordsAtStart start) pollTable cache₁ (polls₁ ++ [⟨frame, teamNames₁⟩]))
    (hrun₂ : Along (RecordsAtStart start) pollTable cache₂ (polls₂ ++ [⟨frame, teamNames₂⟩])) :
    (answerAfter cache₁ polls₁ ⟨frame, teamNames₁⟩).map activeOrder =
        (answerAfter cache₂ polls₂ ⟨frame, teamNames₂⟩).map activeOrder ∧
      ∀ rows, answerAfter cache₁ polls₁ ⟨frame, teamNames₁⟩ = .ok rows →
        activeOrder rows = distanceOrder start frame := by
  obtain ⟨hright₁, hrec₁⟩ := Along.recordsAtStart_last hbase₁ hrun₁
  obtain ⟨hright₂, hrec₂⟩ := Along.recordsAtStart_last hbase₂ hrun₂
  obtain ⟨status, herr⟩ | ⟨runtimeState, hstate, hkind, hok⟩ := buildSnapshot_cases frame
  · simp only [answerAfter, herr, true_and]
    rintro rows ⟨⟩
  · have horder₁ := buildOfficialRaceSnapshot_order hstate hkind hright₁ hrec₁
    have horder₂ := buildOfficialRaceSnapshot_order hstate hkind hright₂ hrec₂
    simp only [answerAfter, hok, Except.map, activeOrder_applyTeamNames, horder₁, horder₂, true_and]
    rintro rows ⟨⟩
    rw [activeOrder_applyTeamNames, horder₁]

def gridPoll : TablePoll := pollAt (some 0) [(1, 0), (2, 0)]

def halfwayPoll : TablePoll := pollAt (some 30) [(1, 20), (2, 10)]

def latePoll : TablePoll := pollAt (some 60) [(1, 50), (2, 100)]

theorem late_order_by_distance :
    (answerAfter .default [gridPoll] latePoll).map activeOrder =
        (answerAfter .default [gridPoll, halfwayPoll] latePoll).map activeOrder ∧
      ∀ rows, answerAfter .default [gridPoll] latePoll = .ok rows →
        activeOrder rows = distanceOrder (fun _ => 0) latePoll.frame :=
  active_order_by_distance (fun _ => 0) latePoll.frame .default .default [gridPoll]
    [gridPoll, halfwayPoll] none none baselinesAreStarts_empty baselinesAreStarts_empty
    ⟨by decide +kernel, by decide +kernel, trivial⟩
    ⟨by decide +kernel, by decide +kernel, by decide +kernel, trivial⟩

/-- Both cars start from zero. A table first polled a minute into the race
takes its baselines there and shows the slower car in front. -/
theorem late_first_poll_order :
    (frameSamples gridPoll.frame).map (·.progressTotalM) = [0, 0] ∧
      distanceOrder (fun _ => 0) latePoll.frame = [2, 1] ∧
      (answerAfter .default [gridPoll] latePoll).map activeOrder = .ok [2, 1] ∧
      (answerAfter .default [] latePoll).map activeOrder = .ok [1, 2] := by
  refine ⟨?_, ?_, ?_, ?_⟩
  · decide +kernel
  · decide +kernel
  · decide +kernel
  · decide +kernel

end HackArena.Services
