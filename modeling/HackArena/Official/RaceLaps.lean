import HackArena.Official.RaceResultRuns

/-!
# The laps in the results

What the results say of a car is read off the frames that showed it. A lap
time is taken from the first frame that shows a new number of laps, so that a
lap is recorded once, and is lost only if no frame was the first to show it.
-/

namespace HackArena.Official.RaceResults

open Boink HackArena.Runtime HackArena.Services

/-- The metrics of a car in the frames that show it in the race. -/
def metricsOf (carId : Option ℕ) (frames : List RuntimeFrame) : List VehicleRaceMetrics :=
  frames.filterMap fun frame => (raceCar frame carId).map Prod.fst

/-- The highest number of laps that is shown. -/
def highest (ms : List VehicleRaceMetrics) : ℕ := ms.foldl (fun n m => max n m.completedLaps) 0

/-- The first metrics with `n` laps or more. -/
def reached (ms : List VehicleRaceMetrics) (n : ℕ) : Option VehicleRaceMetrics :=
  ms.find? fun m => n ≤ m.completedLaps

/-- The time of the `n`-th lap, if the first metrics with `n` laps have just
these. -/
def lapTime (ms : List VehicleRaceMetrics) (n : ℕ) : Option ℕ :=
  match reached ms n with
  | none => none
  | some m => if m.completedLaps = n then m.lastLapTimeMs else none

def progressOf (m : VehicleRaceMetrics) : F32 := max m.lapProgressM 0

/-- The car has completed a lap, or is off the place where it was first seen. -/
def Moved (ms : List VehicleRaceMetrics) : Prop :=
  ∃ first ∈ ms.head?, ∃ m ∈ ms, 0 < m.completedLaps ∨ 1 < |progressOf m - progressOf first|

section Laps

variable {ms : List VehicleRaceMetrics} {m : VehicleRaceMetrics} {n : ℕ}

theorem highest_append (ms : List VehicleRaceMetrics) (m : VehicleRaceMetrics) :
    highest (ms ++ [m]) = max (highest ms) m.completedLaps := by
  simp [highest, List.foldl_append]

theorem reached_append (ms : List VehicleRaceMetrics) (m : VehicleRaceMetrics) (n : ℕ) :
    reached (ms ++ [m]) n =
      (reached ms n).or (if n ≤ m.completedLaps then some m else none) := by
  unfold reached
  rw [List.find?_append]
  congr 1
  by_cases h : n ≤ m.completedLaps <;> simp [h]

/-- Up to the highest number, every number of laps has been reached. -/
theorem reached_isSome (h : n ≤ highest ms) (hn : 0 < n) : (reached ms n).isSome = true := by
  induction ms using List.reverseRecOn with
  | nil =>
      change n ≤ 0 at h
      omega
  | append_singleton ms m ih =>
      rw [reached_append, Option.isSome_or, Bool.or_eq_true]
      rw [highest_append] at h
      rcases le_max_iff.mp h with hms | hm
      · exact Or.inl (ih hms)
      · exact Or.inr (by rw [if_pos hm]; rfl)

theorem reached_eq_none (h : highest ms < n) : reached ms n = none := by
  induction ms using List.reverseRecOn with
  | nil => rfl
  | append_singleton ms m ih =>
      rw [highest_append, max_lt_iff] at h
      rw [reached_append, ih h.1, if_neg (by omega)]
      rfl

theorem lapTime_append_of_le (h : n ≤ highest ms) (hn : 0 < n) :
    lapTime (ms ++ [m]) n = lapTime ms n := by
  have hreached : reached (ms ++ [m]) n = reached ms n := by
    rw [reached_append, Option.or_of_isSome (reached_isSome h hn)]
  rw [lapTime, lapTime, hreached]

theorem lapTime_append_of_lt (h : highest ms < n) :
    lapTime (ms ++ [m]) n = if m.completedLaps = n then m.lastLapTimeMs else none := by
  have hreached : reached (ms ++ [m]) n = if n ≤ m.completedLaps then some m else none := by
    rw [reached_append, reached_eq_none h, Option.none_or]
  rw [lapTime, hreached]
  by_cases hm : n ≤ m.completedLaps
  · rw [if_pos hm]
  · rw [if_neg hm, if_neg (by omega)]

/-- The times of the laps that have been shown first. -/
def lapTimes (ms : List VehicleRaceMetrics) : List ℕ :=
  (List.range' 1 (highest ms)).filterMap (lapTime ms)

theorem filterMap_range'_last (f : ℕ → Option ℕ) (start count : ℕ)
    (hf : ∀ n, start ≤ n → n < start + count → f n = none) :
    (List.range' start (count + 1)).filterMap f = (f (start + count)).toList := by
  have hnone : (List.range' start count).filterMap f = [] := by
    rw [List.filterMap_eq_nil_iff]
    intro n hn
    obtain ⟨hle, hlt⟩ := List.mem_range'_1.mp hn
    exact hf n hle hlt
  rw [List.range'_concat, List.filterMap_append, hnone, List.nil_append, Nat.one_mul]
  cases h : f (start + count) <;> simp [h]

theorem lapTimes_append (ms : List VehicleRaceMetrics) (m : VehicleRaceMetrics) :
    lapTimes (ms ++ [m]) = if highest ms < m.completedLaps then
      lapTimes ms ++ m.lastLapTimeMs.toList else lapTimes ms := by
  have hold : (List.range' 1 (highest ms)).filterMap (lapTime (ms ++ [m])) = lapTimes ms := by
    refine List.filterMap_congr fun n hn => ?_
    obtain ⟨hle, hlt⟩ := List.mem_range'_1.mp hn
    exact lapTime_append_of_le (by omega) hle
  split
  · rename_i hnew
    obtain ⟨count, hcount⟩ : ∃ count, m.completedLaps = highest ms + (count + 1) :=
      ⟨m.completedLaps - highest ms - 1, by omega⟩
    have hsplit : List.range' 1 (highest (ms ++ [m])) =
        List.range' 1 (highest ms) ++ List.range' (1 + highest ms) (count + 1) := by
      rw [highest_append, max_eq_right (by omega), hcount, ← List.range'_append_1]
    have hlast : (List.range' (1 + highest ms) (count + 1)).filterMap (lapTime (ms ++ [m])) =
        m.lastLapTimeMs.toList := by
      rw [filterMap_range'_last]
      · rw [lapTime_append_of_lt (by omega), if_pos (by omega)]
      · intro n hle hlt
        rw [lapTime_append_of_lt (by omega), if_neg (by omega)]
    rw [lapTimes, hsplit, List.filterMap_append, hold, hlast]
  · rename_i hsame
    rw [lapTimes, highest_append, max_eq_left (by omega), hold]

end Laps

section Moving

variable {ms : List VehicleRaceMetrics} {m : VehicleRaceMetrics}

theorem not_moved_nil : ¬ Moved [] := by
  rintro ⟨first, hfirst, -⟩
  simp at hfirst

theorem moved_append (ms : List VehicleRaceMetrics) (m : VehicleRaceMetrics) :
    Moved (ms ++ [m]) ↔ Moved ms ∨ 0 < m.completedLaps ∨
      1 < |progressOf m - ((ms.head?.map progressOf).getD (progressOf m))| := by
  cases ms with
  | nil => simp [Moved]
  | cons first ms =>
      simp only [Moved, List.cons_append, List.head?_cons, Option.mem_some_iff,
        exists_eq_left', Option.map_some, Option.getD_some, List.mem_cons, List.mem_append,
        List.not_mem_nil, or_false]
      constructor
      · rintro ⟨shown, hshown | hshown | rfl, h⟩
        · exact Or.inl ⟨shown, Or.inl hshown, h⟩
        · exact Or.inl ⟨shown, Or.inr hshown, h⟩
        · exact Or.inr h
      · rintro (⟨shown, hshown | hshown, h⟩ | h)
        · exact ⟨shown, Or.inl hshown, h⟩
        · exact ⟨shown, Or.inr (Or.inl hshown), h⟩
        · exact ⟨m, Or.inr (Or.inr rfl), h⟩

end Moving

/-! ## Entries -/

/-- An entry says what the metrics of its car have shown. -/
structure Says (entry : OfficialRaceTeamResultEntry) (ms : List VehicleRaceMetrics)
    (team : ResultEntry) : Prop where
  same : team.toOfficialRaceTeamResultEntry = entry
  lapTimes : team.lapTimesMs = lapTimes ms
  recorded : team.lastRecordedCompletedLaps = highest ms
  baseline : team.initialLapProgressM = ms.head?.map progressOf
  moving : team.hasStartedMoving = true ↔ Moved ms
  laps : team.completedLaps = (ms.getLast?.map (·.completedLaps)).getD 0
  lastLap : team.lastLapTimeMs = ms.getLast?.bind (·.lastLapTimeMs)
  distance : team.currentLapDistanceM =
    if team.hasStartedMoving then ms.getLast?.map progressOf else none

variable {entry : OfficialRaceTeamResultEntry} {ms : List VehicleRaceMetrics} {team : ResultEntry}

theorem says_launched : Says entry [] (.launched entry) where
  same := rfl
  lapTimes := rfl
  recorded := rfl
  baseline := rfl
  moving := ⟨fun h => absurd h Bool.false_ne_true, fun h => absurd h not_moved_nil⟩
  laps := rfl
  lastLap := rfl
  distance := rfl

theorem Says.show (h : Says entry ms team) (lapLengthM : F32) (m : VehicleRaceMetrics)
    (bestLapTimeMs : Option ℕ) :
    Says entry (ms ++ [m]) (team.show lapLengthM m bestLapTimeMs) where
  same := h.same
  lapTimes := by
    unfold ResultEntry.show
    rw [lapTimes_append, ← h.recorded, ← h.lapTimes]
  recorded := by
    unfold ResultEntry.show
    rw [highest_append, ← h.recorded]
    dsimp only
    split <;> omega
  baseline := by
    unfold ResultEntry.show
    dsimp only
    rw [h.baseline]
    cases ms <;> rfl
  moving := by
    unfold ResultEntry.show
    dsimp only
    rw [moved_append, ← h.moving, h.baseline, Bool.or_eq_true, Bool.or_eq_true,
      decide_eq_true_iff, decide_eq_true_iff, or_assoc]
    rfl
  laps := by
    rw [List.getLast?_concat]
    rfl
  lastLap := by
    rw [List.getLast?_concat]
    rfl
  distance := by
    rw [List.getLast?_concat]
    rfl

/-- A frame that does not show the car in the race says nothing of it. -/
theorem Says.refresh {frames : List RuntimeFrame}
    (h : Says entry (metricsOf entry.outcome.carId frames) team) (frame : RuntimeFrame) :
    Says entry (metricsOf entry.outcome.carId (frames ++ [frame])) (team.refresh frame) := by
  unfold metricsOf at h ⊢
  rw [List.filterMap_append]
  unfold ResultEntry.refresh
  rw [congrArg (·.outcome.carId) h.same]
  cases hcar : raceCar frame entry.outcome.carId with
  | none => simpa [hcar] using h
  | some car => simpa [hcar] using h.show _ car.1 car.2

theorem says_frames (entry : OfficialRaceTeamResultEntry) (frames : List RuntimeFrame) :
    Says entry (metricsOf entry.outcome.carId frames)
      (frames.foldl ResultEntry.refresh (.launched entry)) := by
  induction frames using List.reverseRecOn with
  | nil => exact says_launched
  | append_singleton frames frame ih =>
      rw [List.foldl_append]
      exact ih.refresh frame

theorem says_teams (teams : List OfficialRaceTeamResultEntry) (frames : List RuntimeFrame) :
    List.Forall₂ (fun entry team => Says entry (metricsOf entry.outcome.carId frames) team) teams
      (teams.map fun entry => frames.foldl ResultEntry.refresh (.launched entry)) := by
  rw [List.forall₂_map_right_iff]
  exact List.forall₂_same.mpr fun entry _ => says_frames entry frames

/-- Whatever frames a recorder sees: its results have the launched teams in
their order, each with the laps, the times and the distance that the metrics of
its car have shown. -/
theorem results_laps (s : Session) (startedAt : ℕ) (frames : List RuntimeFrame)
    (finalizedAt : Option ℕ) :
    List.Forall₂ (fun entry team => Says entry (metricsOf entry.outcome.carId frames) team)
      s.teams (s.results startedAt frames finalizedAt).teams :=
  says_teams s.teams frames

theorem refreshed_results (s : Session) (startedAt : ℕ) (frames : List RuntimeFrame) :
    (frames.foldl Recorder.refreshFromRuntime (.new s startedAt)).data =
      s.results startedAt frames none := by
  induction frames using List.reverseRecOn with
  | nil => rfl
  | append_singleton frames frame ih =>
      rw [List.foldl_append]
      exact refresh_results ih frame

/-- So it is for the recorder itself, which refreshes what it has with each
frame. -/
theorem refreshed_laps (s : Session) (startedAt : ℕ) (frames : List RuntimeFrame) :
    List.Forall₂ (fun entry team => Says entry (metricsOf entry.outcome.carId frames) team)
      s.teams (frames.foldl Recorder.refreshFromRuntime (.new s startedAt)).data.teams := by
  rw [refreshed_results]
  exact says_teams s.teams frames

end HackArena.Official.RaceResults
