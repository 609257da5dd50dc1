import HackArena.Services.RaceTable
import Mathlib.Tactic.Linarith
import Mathlib.Tactic.FieldSimp
import Mathlib.Tactic.Positivity

/-!
# The gap to the leader

The table keeps for every car where it was at which time, and reads off the
leader's samples when the leader was where another car is now. The samples
rise in progress and in time, so the time read off rises with the progress,
across the borders of the segments and the snap to the upper sample too.
-/

namespace HackArena.Services

open Boink HackArena.Runtime

/-! ## Trajectories -/

/-- At least the least distance further on, and later. -/
def Ahead (a b : TrajectorySample) : Prop :=
  a.progressTotalM + TRAJECTORY_MIN_PROGRESS_DELTA_M ≤ b.progressTotalM ∧
    a.raceElapsedMs < b.raceElapsedMs

/-- Every sample is ahead of the ones before it. -/
def Rising (trajectory : List TrajectorySample) : Prop := trajectory.Pairwise Ahead

section Rising

variable {a b c : TrajectorySample} {trajectory : List TrajectorySample}

theorem Ahead.progress_lt (h : Ahead a b) : a.progressTotalM < b.progressTotalM := by
  have hdelta : (0 : ℚ) < TRAJECTORY_MIN_PROGRESS_DELTA_M := by
    norm_num [TRAJECTORY_MIN_PROGRESS_DELTA_M]
  linarith [h.1]

theorem Ahead.trans (h : Ahead a b) (h' : Ahead b c) : Ahead a c :=
  ⟨by linarith [h.1, h'.progress_lt], h.2.trans h'.2⟩

theorem Rising.clearOnBacktrack (h : Rising trajectory) (progressTotalM : ℚ) :
    Rising (clearOnBacktrack progressTotalM trajectory) := by
  unfold Services.clearOnBacktrack
  split
  · exact h
  · split
    · exact List.Pairwise.nil
    · exact h

theorem shouldAppend_ahead {raceElapsedMs : ℕ} {progressTotalM : ℚ} {last : TrajectorySample}
    (hlast : trajectory.getLast? = some last)
    (h : shouldAppend raceElapsedMs progressTotalM trajectory = true) :
    Ahead last ⟨progressTotalM, raceElapsedMs⟩ := by
  rw [shouldAppend, hlast] at h
  dsimp only at h
  split at h
  · cases h
  · rename_i hfurther
    have hdelta := of_decide_eq_true h
    rw [not_or, not_le, not_le] at hfurther
    exact ⟨by linarith, hfurther.1⟩

theorem Rising.append (h : Rising trajectory) {last new : TrajectorySample}
    (hlast : trajectory.getLast? = some last) (hnew : Ahead last new) :
    Rising (trajectory ++ [new]) := by
  refine List.pairwise_append.mpr ⟨h, List.pairwise_singleton _ _, ?_⟩
  intro a ha b hb
  obtain rfl := List.mem_singleton.mp hb
  obtain ⟨before, rfl⟩ := List.getLast?_eq_some_iff.mp hlast
  rcases List.mem_append.mp ha with ha | ha
  · exact ((List.pairwise_append.mp h).2.2 a ha last List.mem_cons_self).trans hnew
  · obtain rfl := List.mem_singleton.mp ha
    exact hnew

theorem dropOldSamples_suffix (minKeepMs : ℕ) (trajectory : List TrajectorySample) :
    dropOldSamples minKeepMs trajectory <:+ trajectory := by
  fun_induction dropOldSamples minKeepMs trajectory with
  | case1 front next rest hold ih => exact ih.trans (List.suffix_cons _ _)
  | case2 front next rest hkept => exact List.suffix_rfl
  | case3 trajectory hshort => exact List.suffix_rfl

theorem Rising.updateTrajectory (h : Rising trajectory) (raceElapsedMs : ℕ)
    (progressTotalM : ℚ) : Rising (updateTrajectory raceElapsedMs progressTotalM trajectory) := by
  have hcleared := h.clearOnBacktrack progressTotalM
  rw [Services.updateTrajectory]
  refine List.Pairwise.sublist (dropOldSamples_suffix _ _).sublist ?_
  split
  · rename_i happend
    cases hlast : (Services.clearOnBacktrack progressTotalM trajectory).getLast? with
    | none =>
        rw [List.getLast?_eq_none_iff.mp hlast]
        exact List.pairwise_singleton _ _
    | some last => exact hcleared.append hlast (shouldAppend_ahead hlast happend)
  · exact hcleared

end Rising

/-- One call of `update_car_trajectories`. -/
structure TrajectoryUpdate where
  raceElapsedMs : ℕ
  activeEntries : List ActiveEntrySample
  currentActiveIds : Finset ℕ

def OfficialRaceCache.track (cache : OfficialRaceCache) (update : TrajectoryUpdate) :
    OfficialRaceCache :=
  updateCarTrajectories cache update.raceElapsedMs update.activeEntries update.currentActiveIds

/-- Every stored trajectory rises. -/
def RisingTrajectories (trajectories : HashMap ℕ (List TrajectorySample)) : Prop :=
  HashMap.Forall (fun _ trajectory => Rising trajectory) trajectories

theorem RisingTrajectories.track {cache : OfficialRaceCache}
    (h : RisingTrajectories cache.carTrajectories) (update : TrajectoryUpdate) :
    RisingTrajectories (cache.track update).carTrajectories := by
  rw [OfficialRaceCache.track, updateCarTrajectories]
  dsimp only
  have hretained : RisingTrajectories
      (HashMap.retain cache.carTrajectories (· ∈ update.currentActiveIds)) :=
    HashMap.Forall.retain h _
  generalize HashMap.retain cache.carTrajectories (· ∈ update.currentActiveIds) = trajectories
    at hretained ⊢
  induction update.activeEntries generalizing trajectories with
  | nil => exact hretained
  | cons sample rest ih =>
      refine ih _ (HashMap.Forall.insert hretained ?_)
      refine Rising.updateTrajectory ?_ _ _
      cases hstored : trajectories.lookup sample.row.carId with
      | none => exact List.Pairwise.nil
      | some trajectory => exact hretained _ _ hstored

/-! ## The search -/

section Search

variable {trajectory : List TrajectorySample} {x : ℚ}

theorem Rising.ahead (h : Rising trajectory) {i j : ℕ} (hij : i < j) {a b : TrajectorySample}
    (ha : trajectory[i]? = some a) (hb : trajectory[j]? = some b) : Ahead a b := by
  obtain ⟨hi, rfl⟩ := List.getElem?_eq_some_iff.mp ha
  obtain ⟨hj, rfl⟩ := List.getElem?_eq_some_iff.mp hb
  exact List.pairwise_iff_getElem.mp h i j hi hj hij

theorem Rising.elapsed_le (h : Rising trajectory) {i j : ℕ} (hij : i ≤ j) {a b : TrajectorySample}
    (ha : trajectory[i]? = some a) (hb : trajectory[j]? = some b) :
    a.raceElapsedMs ≤ b.raceElapsedMs := by
  rcases Nat.lt_or_eq_of_le hij with hlt | rfl
  · exact (h.ahead hlt ha hb).2.le
  · rw [ha] at hb
    exact (congrArg TrajectorySample.raceElapsedMs (Option.some.inj hb)).le

/-- The sample with the number is the first that is not behind the
progress. -/
structure FirstReached (trajectory : List TrajectorySample) (x : ℚ) (i : ℕ)
    (upper : TrajectorySample) : Prop where
  sample : trajectory[i]? = some upper
  reached : x ≤ upper.progressTotalM
  before : ∀ j a, j < i → trajectory[j]? = some a → a.progressTotalM < x

theorem searchUpper_spec (h : Rising trajectory) (lo hi : ℕ) (hle : lo ≤ hi)
    {last : TrajectorySample} (hlast : trajectory[hi]? = some last)
    (hreached : x ≤ last.progressTotalM)
    (hbefore : ∀ j a, j < lo → trajectory[j]? = some a → a.progressTotalM < x) :
    ∃ i upper, searchUpper trajectory x lo hi = some i ∧ FirstReached trajectory x i upper := by
  fun_induction searchUpper trajectory x lo hi generalizing last with
  | case1 lo hi hlt mid hnone =>
      obtain ⟨hhi, -⟩ := List.getElem?_eq_some_iff.mp hlast
      have hmid : mid < trajectory.length := by omega
      rw [List.getElem?_eq_getElem hmid] at hnone
      cases hnone
  | case2 lo hi hlt mid sample hsample hbehind ih =>
      refine ih (by omega) hlast hreached ?_
      intro j a hj ha
      rcases Nat.lt_or_eq_of_le (Nat.le_of_lt_succ hj) with hlt' | rfl
      · exact (h.ahead hlt' ha hsample).progress_lt.trans hbehind
      · rw [hsample] at ha
        obtain rfl := Option.some.inj ha
        exact hbehind
  | case3 lo hi hlt mid sample hsample hbehind ih =>
      exact ih (by omega) hsample (not_lt.mp hbehind) hbefore
  | case4 lo hi hge =>
      obtain rfl : lo = hi := by omega
      exact ⟨lo, last, rfl, hlast, hreached, hbefore⟩

/-- The sample before it; the first one itself if it is that. -/
theorem FirstReached.lower {i : ℕ} {upper : TrajectorySample}
    (h : FirstReached trajectory x i upper) : ∃ lower, trajectory[i - 1]? = some lower := by
  obtain ⟨hi, -⟩ := List.getElem?_eq_some_iff.mp h.sample
  exact ⟨_, List.getElem?_eq_getElem ((Nat.sub_le i 1).trans_lt hi)⟩

end Search

/-! ## The time read off -/

/-- The time read off between two samples. -/
def segmentTime (lower upper : TrajectorySample) (x : ℚ) : ℚ :=
  if upper.progressTotalM - x ≤ TRAJECTORY_PROGRESS_EPSILON_M then upper.raceElapsedMs
  else lower.raceElapsedMs + (x - lower.progressTotalM) /
    (upper.progressTotalM - lower.progressTotalM) * (upper.raceElapsedMs - lower.raceElapsedMs)

section Segment

variable {lower upper : TrajectorySample} {x y : ℚ}

/-- The share of the segment that is behind the progress. -/
theorem segmentRatio_mem (h : Ahead lower upper) (hlower : lower.progressTotalM ≤ x)
    (hupper : x ≤ upper.progressTotalM) :
    0 ≤ (x - lower.progressTotalM) / (upper.progressTotalM - lower.progressTotalM) ∧
      (x - lower.progressTotalM) / (upper.progressTotalM - lower.progressTotalM) ≤ 1 := by
  have hlength : 0 < upper.progressTotalM - lower.progressTotalM := by linarith [h.progress_lt]
  exact ⟨div_nonneg (by linarith) hlength.le, (div_le_one hlength).mpr (by linarith)⟩

theorem segmentTime_mem (h : Ahead lower upper) (hlower : lower.progressTotalM ≤ x)
    (hupper : x ≤ upper.progressTotalM) :
    (lower.raceElapsedMs : ℚ) ≤ segmentTime lower upper x ∧
      segmentTime lower upper x ≤ upper.raceElapsedMs := by
  have htime : (lower.raceElapsedMs : ℚ) < upper.raceElapsedMs := by exact_mod_cast h.2
  obtain ⟨hratio, hratio'⟩ := segmentRatio_mem h hlower hupper
  rw [segmentTime]
  split
  · exact ⟨htime.le, le_rfl⟩
  · constructor <;> nlinarith

theorem segmentTime_mono (h : Ahead lower upper) (hlower : lower.progressTotalM ≤ x)
    (hxy : x ≤ y) (hupper : y ≤ upper.progressTotalM) :
    segmentTime lower upper x ≤ segmentTime lower upper y := by
  have htime : (lower.raceElapsedMs : ℚ) < upper.raceElapsedMs := by exact_mod_cast h.2
  have hlength : 0 < upper.progressTotalM - lower.progressTotalM := by linarith [h.progress_lt]
  have hx := (segmentTime_mem h hlower (hxy.trans hupper)).2
  by_cases hy : upper.progressTotalM - y ≤ TRAJECTORY_PROGRESS_EPSILON_M
  · rwa [segmentTime.eq_def lower upper y, if_pos hy]
  · have hx' : ¬ upper.progressTotalM - x ≤ TRAJECTORY_PROGRESS_EPSILON_M := fun hsnap =>
      hy (by linarith)
    rw [segmentTime, segmentTime, if_neg hx', if_neg hy]
    have hratio : (x - lower.progressTotalM) / (upper.progressTotalM - lower.progressTotalM) ≤
        (y - lower.progressTotalM) / (upper.progressTotalM - lower.progressTotalM) :=
      div_le_div_of_nonneg_right (by linarith) hlength.le
    nlinarith

end Segment

section Interpolate

variable {trajectory : List TrajectorySample} {x y : ℚ}

/-- The progress lies between the first sample and the last. -/
def Covered (trajectory : List TrajectorySample) (x : ℚ) : Prop :=
  ∃ first last, trajectory.head? = some first ∧ trajectory.getLast? = some last ∧
    first.progressTotalM ≤ x ∧ x ≤ last.progressTotalM

theorem Covered.firstReached (h : Covered trajectory x) (hrising : Rising trajectory) :
    ∃ i upper, searchUpper trajectory x 0 (trajectory.length - 1) = some i ∧
      FirstReached trajectory x i upper := by
  obtain ⟨first, last, hfirst, hlast, -, hle⟩ := h
  rw [List.getLast?_eq_getElem?] at hlast
  exact searchUpper_spec hrising 0 _ (Nat.zero_le _) hlast hle fun j a hj =>
    absurd hj (Nat.not_lt_zero j)

/-- A covered progress that the first sample has reached is that sample's. -/
theorem Covered.eq_first (h : Covered trajectory x) {upper : TrajectorySample}
    (hreached : FirstReached trajectory x 0 upper) : x = upper.progressTotalM := by
  obtain ⟨first, last, hfirst, hlast, hge, -⟩ := h
  rw [List.head?_eq_getElem?, hreached.sample] at hfirst
  obtain rfl := Option.some.inj hfirst
  exact le_antisymm hreached.reached hge

/-- The time that is read off for a covered progress. -/
theorem interpolate_eq (hrising : Rising trajectory) {i : ℕ} {lower upper : TrajectorySample}
    (h : Covered trajectory x)
    (hsearch : searchUpper trajectory x 0 (trajectory.length - 1) = some i)
    (hreached : FirstReached trajectory x i upper) (hlower : trajectory[i - 1]? = some lower) :
    interpolateLeaderTimeMs trajectory x = some (segmentTime lower upper x) := by
  have hstart : i = 0 → x = upper.progressTotalM := by
    rintro rfl
    exact h.eq_first hreached
  obtain ⟨first, last, hfirst, hlast, hge, hle⟩ := h
  have hinside : ¬ (x < first.progressTotalM ∨ last.progressTotalM < x) := by
    rintro (hlt | hlt)
    · exact absurd hge hlt.not_ge
    · exact absurd hle hlt.not_ge
  have habs : |upper.progressTotalM - x| = upper.progressTotalM - x :=
    abs_of_nonneg (by linarith [hreached.reached])
  simp only [interpolateLeaderTimeMs, hfirst, hlast, Option.bind_eq_bind, Option.bind_some,
    if_neg hinside, hsearch, hreached.sample, habs]
  rw [segmentTime]
  by_cases hsnap : upper.progressTotalM - x ≤ TRAJECTORY_PROGRESS_EPSILON_M
  · rw [if_pos hsnap, if_pos hsnap]
  · rw [if_neg hsnap, if_neg hsnap]
    have hpositive : i ≠ 0 := by
      intro hzero
      rw [← hstart hzero, sub_self] at hsnap
      norm_num [TRAJECTORY_PROGRESS_EPSILON_M] at hsnap
    have hahead := hrising.ahead (Nat.sub_one_lt hpositive) hlower hreached.sample
    have hbehind := hreached.before (i - 1) lower (by omega) hlower
    have hlength : TRAJECTORY_PROGRESS_EPSILON_M <
        upper.progressTotalM - lower.progressTotalM := by
      have := hahead.1
      norm_num [TRAJECTORY_PROGRESS_EPSILON_M, TRAJECTORY_MIN_PROGRESS_DELTA_M] at this ⊢
      linarith
    have hratio : clamp ((x - lower.progressTotalM) /
        (upper.progressTotalM - lower.progressTotalM)) 0 1 =
        (x - lower.progressTotalM) / (upper.progressTotalM - lower.progressTotalM) := by
      obtain ⟨hnonneg, hle_one⟩ := segmentRatio_mem hahead hbehind.le hreached.reached
      rw [clamp, if_neg hnonneg.not_gt, if_neg hle_one.not_gt]
    simp only [if_neg hpositive, hlower, Option.bind_some, if_neg hlength.not_ge, hratio,
      Nat.cast_sub hahead.2.le]

theorem interpolate_eq_none_of_not_covered (h : ¬ Covered trajectory x) :
    interpolateLeaderTimeMs trajectory x = none := by
  rw [interpolateLeaderTimeMs]
  cases hfirst : trajectory.head? with
  | none => rfl
  | some first =>
      cases hlast : trajectory.getLast? with
      | none => rfl
      | some last =>
          have houtside : x < first.progressTotalM ∨ last.progressTotalM < x := by
            by_contra hinside
            rw [not_or, not_lt, not_lt] at hinside
            exact h ⟨first, last, hfirst, hlast, hinside⟩
          simp [houtside]

theorem Covered.interpolate (h : Covered trajectory x) (hrising : Rising trajectory) :
    ∃ i lower upper, trajectory[i - 1]? = some lower ∧ FirstReached trajectory x i upper ∧
      interpolateLeaderTimeMs trajectory x = some (segmentTime lower upper x) := by
  obtain ⟨i, upper, hsearch, hreached⟩ := h.firstReached hrising
  obtain ⟨lower, hlower⟩ := hreached.lower
  exact ⟨i, lower, upper, hlower, hreached, interpolate_eq hrising h hsearch hreached hlower⟩

theorem interpolate_eq_none_iff (hrising : Rising trajectory) :
    interpolateLeaderTimeMs trajectory x = none ↔ ¬ Covered trajectory x := by
  constructor
  · intro hnone hcovered
    obtain ⟨i, lower, upper, -, -, hsome⟩ := hcovered.interpolate hrising
    rw [hnone] at hsome
    cases hsome
  · exact interpolate_eq_none_of_not_covered

/-- The time lies between those of two neighbouring samples with the
progress between them; at the first sample both are the same. -/
def BetweenSamples (trajectory : List TrajectorySample) (x time : ℚ) : Prop :=
  ∃ i lower upper, trajectory[i - 1]? = some lower ∧ trajectory[i]? = some upper ∧
    lower.progressTotalM ≤ x ∧ x ≤ upper.progressTotalM ∧
    (lower.raceElapsedMs : ℚ) ≤ time ∧ time ≤ upper.raceElapsedMs

theorem Covered.segmentTime_mem (h : Covered trajectory x) (hrising : Rising trajectory) {i : ℕ}
    {lower upper : TrajectorySample} (hlower : trajectory[i - 1]? = some lower)
    (hreached : FirstReached trajectory x i upper) :
    lower.progressTotalM ≤ x ∧ (lower.raceElapsedMs : ℚ) ≤ segmentTime lower upper x ∧
      segmentTime lower upper x ≤ upper.raceElapsedMs := by
  by_cases hfirst : i = 0
  · subst hfirst
    obtain rfl : upper = lower := Option.some.inj (hreached.sample.symm.trans hlower)
    have hx : x = upper.progressTotalM := h.eq_first hreached
    have htime : segmentTime upper upper x = upper.raceElapsedMs := by
      rw [segmentTime, if_pos]
      rw [hx, sub_self]
      norm_num [TRAJECTORY_PROGRESS_EPSILON_M]
    exact ⟨hx.ge, htime.ge, htime.le⟩
  · have hbehind := hreached.before (i - 1) lower (by omega) hlower
    have hahead := hrising.ahead (Nat.sub_one_lt hfirst) hlower hreached.sample
    exact ⟨hbehind.le, Services.segmentTime_mem hahead hbehind.le hreached.reached⟩

theorem covered_of_interpolate {time : ℚ} (h : interpolateLeaderTimeMs trajectory x = some time) :
    Covered trajectory x := by
  by_contra hout
  rw [interpolate_eq_none_of_not_covered hout] at h
  cases h

theorem interpolate_between (hrising : Rising trajectory) {time : ℚ}
    (h : interpolateLeaderTimeMs trajectory x = some time) :
    BetweenSamples trajectory x time := by
  have hcovered := covered_of_interpolate h
  obtain ⟨i, lower, upper, hlower, hreached, hsome⟩ := hcovered.interpolate hrising
  obtain ⟨hbehind, hge, hle⟩ := hcovered.segmentTime_mem hrising hlower hreached
  obtain rfl := Option.some.inj (hsome.symm.trans h)
  exact ⟨i, lower, upper, hlower, hreached.sample, hbehind, hreached.reached, hge, hle⟩

/-- Further on, the time read off is no earlier. -/
theorem interpolate_mono (hrising : Rising trajectory) (hxy : x ≤ y) {time time' : ℚ}
    (hx : interpolateLeaderTimeMs trajectory x = some time)
    (hy : interpolateLeaderTimeMs trajectory y = some time') : time ≤ time' := by
  have hcovered := covered_of_interpolate hx
  have hcovered' := covered_of_interpolate hy
  obtain ⟨i, lower, upper, hlower, hreached, hsome⟩ := hcovered.interpolate hrising
  obtain ⟨j, lower', upper', hlower', hreached', hsome'⟩ := hcovered'.interpolate hrising
  obtain ⟨-, -, hle⟩ := hcovered.segmentTime_mem hrising hlower hreached
  obtain ⟨-, hge, -⟩ := hcovered'.segmentTime_mem hrising hlower' hreached'
  obtain rfl := Option.some.inj (hsome.symm.trans hx)
  obtain rfl := Option.some.inj (hsome'.symm.trans hy)
  rcases lt_trichotomy i j with hlt | rfl | hgt
  · -- the end of the first segment is not after the start of the second
    have hborder : (upper.raceElapsedMs : ℚ) ≤ lower'.raceElapsedMs := by
      exact_mod_cast hrising.elapsed_le (by omega) hreached.sample hlower'
    exact hle.trans (hborder.trans hge)
  · obtain rfl : lower = lower' := Option.some.inj (hlower.symm.trans hlower')
    obtain rfl : upper = upper' := Option.some.inj (hreached.sample.symm.trans hreached'.sample)
    by_cases hfirst : i = 0
    · subst hfirst
      obtain rfl : x = y := (hcovered.eq_first hreached).trans (hcovered'.eq_first hreached').symm
      exact le_rfl
    · exact segmentTime_mono (hrising.ahead (Nat.sub_one_lt hfirst) hlower hreached.sample)
        (hreached.before (i - 1) lower (by omega) hlower).le hxy hreached'.reached
  · have hbehind := hreached.before j upper' hgt hreached'.sample
    exact absurd hreached'.reached (hbehind.trans_le hxy).not_ge

end Interpolate

/-! ## The gaps -/

/-- The gap shown for a time read off. -/
def gapOf (raceElapsedMs : ℕ) (leaderTimeMs : ℚ) : ℕ :=
  (min (max ((raceElapsedMs : ℚ) - leaderTimeMs) 0) (u32Max : ℚ)).floor.toNat

theorem gapOf_anti (raceElapsedMs : ℕ) {time time' : ℚ} (h : time ≤ time') :
    gapOf raceElapsedMs time' ≤ gapOf raceElapsedMs time := by
  have hgap : min (max ((raceElapsedMs : ℚ) - time') 0) (u32Max : ℚ) ≤
      min (max ((raceElapsedMs : ℚ) - time) 0) (u32Max : ℚ) :=
    min_le_min_right _ (max_le_max_right _ (sub_le_sub_left h _))
  exact Int.toNat_le_toNat (Int.floor_le_floor hgap)

/-- What is read off a trajectory. -/
structure SoundGaps (trajectory : List TrajectorySample) : Prop where
  rising : Rising trajectory
  outside : ∀ x, interpolateLeaderTimeMs trajectory x = none ↔ ¬ Covered trajectory x
  between : ∀ x time, interpolateLeaderTimeMs trajectory x = some time →
    BetweenSamples trajectory x time
  mono : ∀ x y time time', x ≤ y → interpolateLeaderTimeMs trajectory x = some time →
    interpolateLeaderTimeMs trajectory y = some time' →
      time ≤ time' ∧ ∀ raceElapsedMs, gapOf raceElapsedMs time' ≤ gapOf raceElapsedMs time

theorem Rising.soundGaps {trajectory : List TrajectorySample} (h : Rising trajectory) :
    SoundGaps trajectory where
  rising := h
  outside _ := interpolate_eq_none_iff h
  between _ _ htime := interpolate_between h htime
  mono x y time time' hxy hx hy := by
    have hle := interpolate_mono h hxy hx hy
    exact ⟨hle, fun raceElapsedMs => gapOf_anti raceElapsedMs hle⟩

/-- After any updates, every stored trajectory rises, and the times and the
gaps that are read off it are in order. -/
theorem trajectories_sound (updates : List TrajectoryUpdate) :
    HashMap.Forall (fun _ trajectory => SoundGaps trajectory)
      (updates.foldl OfficialRaceCache.track .default).carTrajectories := by
  have hrising : ∀ cache : OfficialRaceCache, RisingTrajectories cache.carTrajectories →
      RisingTrajectories (updates.foldl OfficialRaceCache.track cache).carTrajectories := by
    induction updates with
    | nil => exact fun _ h => h
    | cons update rest ih => exact fun cache h => ih _ (h.track update)
  exact fun carId trajectory hstored =>
    (hrising .default HashMap.forall_empty carId trajectory hstored).soundGaps

/-! ## A gap that is not read off -/

namespace LastGap

/-- A car on a ring of a kilometre. -/
def sample (car : ℕ × ℚ) : ActiveEntrySample :=
  sampleToOfficialEntry car.1 { VehicleRaceMetrics.default with lapProgressM := car.2 } 1000 none
    false

def rowsAfter : OfficialRaceCache → List (ℕ × List (ℕ × ℚ)) → List OfficialRaceTableEntry
  | _, [] => []
  | cache, [(elapsed, cars)] =>
      (computeOfficialRowsWithCache cache "official-race:ring" elapsed (cars.map sample)).2
  | cache, (elapsed, cars) :: rest => rowsAfter
      (computeOfficialRowsWithCache cache "official-race:ring" elapsed (cars.map sample)).1 rest

/-- The leader has slowed down: its last sample is at ten metres, and the
second car is closer to it than that. -/
def calls : List (ℕ × List (ℕ × ℚ)) :=
  [(0, [(1, 0), (2, 0), (3, 0)]), (1000, [(1, 10), (2, 2), (3, 99 / 10)]),
    (1100, [(1, 201 / 20), (2, 501 / 50), (3, 99 / 10)])]

/-- A car that is further behind never shows a smaller gap. -/
def GapsInOrder (gaps : List (Option ℕ)) : Prop :=
  gaps.Pairwise fun nearer further => ∀ gap ∈ nearer, ∀ gap' ∈ further, gap ≤ gap'

/-- The second car still shows the gap it had before, and the third, which
is further behind, a smaller one. -/
theorem nearer_car_shows_larger_gap :
    (rowsAfter .default calls).map (·.carId) = [1, 2, 3] ∧
      ¬ GapsInOrder ((rowsAfter .default calls).map (·.gapToLeaderMs)) := by
  refine ⟨by decide +kernel, ?_⟩
  have hgaps : (rowsAfter .default calls).map (·.gapToLeaderMs) =
      [some 0, some 800, some 110] := by decide +kernel
  rw [hgaps]
  simp [GapsInOrder]

end LastGap

end HackArena.Services
