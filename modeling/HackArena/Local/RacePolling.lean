import HackArena.Local.LocalRaceState

/-!
# How often the phase of a race is read

The phase is derived from the clock whenever it is read, one transition for
each reading. A countdown that has run out is read as a running race, also
when the race should be over by then; and the planned end of a race whose
start cannot be read is counted from the time of the reading.
-/

namespace HackArena.Local

open HackArena.Runtime

/-! ## Timestamps and milliseconds -/

/-- Every time of the clock is read back from its timestamp. -/
theorem timestampMs_timestampFromMs {ms : ℕ} (h : ms ≤ u64Max) :
    timestampMs (some (timestampFromMs ms)) = some ms := by
  have hmax : u64Max = 18446744073709551615 := rfl
  have hseconds : (timestampFromMs ms).seconds = ((ms / 1000 : ℕ) : ℤ) := by
    change min ((ms : ℤ) / 1000) (2 ^ 63 - 1) = _
    omega
  have hnanos : (timestampFromMs ms).nanos = ((ms % 1000 * 1000000 : ℕ) : ℤ) := rfl
  rw [timestampMs, hseconds, hnanos, if_neg (by omega), Int.toNat_natCast, Int.toNat_natCast,
    saturatingAdd]
  refine congrArg some ?_
  omega

theorem saturatingAdd_le (a b : ℕ) : saturatingAdd a b ≤ u64Max := Nat.min_le_right _ _

theorem reached_mono {t₁ t₂ : ℕ} (h : t₁ ≤ t₂) {value : Option Timestamp}
    (hreached : reached t₁ value = true) : reached t₂ value = true := by
  unfold reached at hreached ⊢
  cases hms : timestampMs value with
  | none => simp [hms] at hreached
  | some endMs =>
      have hle : endMs ≤ t₁ := by simpa [hms] using hreached
      simpa using hle.trans h

/-! ## The end of a race that starts -/

/-- The start of a race after its countdown. -/
def startMs (race : LocalRaceRuntimeInfo) : Option ℕ :=
  timestampMs (race.runningStartedAtUtc.or race.countdownEndAtUtc)

/-- The planned end; without one, the duration is counted from the start, or
from now when the start cannot be read. -/
def plannedEndMs (race : LocalRaceRuntimeInfo) (nowMs : ℕ) : Option ℕ :=
  match race.plannedEndAtUtc with
  | some plannedEnd => timestampMs (some plannedEnd)
  | none => some (saturatingAdd ((startMs race).getD nowMs) (race.raceDurationSec * 1000))

/-- The race of a countdown that has run out. -/
def startedRace (race : LocalRaceRuntimeInfo) (nowMs : ℕ) : LocalRaceRuntimeInfo :=
  { race with
    phase := .running
    runningStartedAtUtc := race.runningStartedAtUtc.or race.countdownEndAtUtc
    plannedEndAtUtc := race.plannedEndAtUtc.or (some (timestampFromMs
      (saturatingAdd ((startMs race).getD nowMs) (race.raceDurationSec * 1000)))) }

variable {race : LocalRaceRuntimeInfo} {nowMs t₁ t₂ : ℕ}

theorem normalize_countdown (hphase : race.phase = .countdown)
    (hend : reached nowMs race.countdownEndAtUtc = true) :
    normalizeRacePhaseAt race nowMs = startedRace race nowMs := by
  rw [normalizeRacePhaseAt, hphase]
  exact if_pos hend

theorem normalize_countdown_of_not_reached (hphase : race.phase = .countdown)
    (hend : reached nowMs race.countdownEndAtUtc = false) :
    normalizeRacePhaseAt race nowMs = race := by
  rw [normalizeRacePhaseAt, hphase]
  exact if_neg (by simp [hend])

theorem normalize_running (hphase : race.phase = .running) :
    normalizeRacePhaseAt race nowMs =
      if reached nowMs race.plannedEndAtUtc then { race with phase := .finished } else race := by
  rw [normalizeRacePhaseAt, hphase]

theorem normalize_of_settled (hcountdown : race.phase ≠ .countdown) (hrunning : race.phase ≠ .running) :
    normalizeRacePhaseAt race nowMs = race := by
  unfold normalizeRacePhaseAt
  split
  · contradiction
  · contradiction
  all_goals rfl

theorem timestampMs_startedRace (race : LocalRaceRuntimeInfo) (nowMs : ℕ) :
    timestampMs (startedRace race nowMs).plannedEndAtUtc = plannedEndMs race nowMs := by
  unfold startedRace plannedEndMs
  cases race.plannedEndAtUtc with
  | some plannedEnd => rfl
  | none => exact timestampMs_timestampFromMs (saturatingAdd_le _ _)

/-- A race is started alike at two times when its planned end is the same. -/
theorem startedRace_eq_iff :
    startedRace race t₁ = startedRace race t₂ ↔ plannedEndMs race t₁ = plannedEndMs race t₂ := by
  constructor
  · intro h
    rw [← timestampMs_startedRace, ← timestampMs_startedRace, h]
  · intro h
    unfold startedRace
    unfold plannedEndMs at h
    cases hplanned : race.plannedEndAtUtc with
    | some plannedEnd => rfl
    | none =>
        rw [hplanned] at h
        rw [Option.some.inj h]

/-- The planned end of a race that starts has come. -/
def Overdue (race : LocalRaceRuntimeInfo) (nowMs : ℕ) : Prop :=
  ∃ endMs ∈ plannedEndMs race nowMs, endMs ≤ nowMs

instance : Decidable (Overdue race nowMs) :=
  inferInstanceAs (Decidable (∃ endMs ∈ plannedEndMs race nowMs, endMs ≤ nowMs))

theorem overdue_iff :
    Overdue race nowMs ↔ reached nowMs (startedRace race nowMs).plannedEndAtUtc = true := by
  rw [Overdue, reached, timestampMs_startedRace]
  cases plannedEndMs race nowMs with
  | none => simp
  | some endMs => simp

/-! ## Reading twice -/

/-- The race is not reported as running at its planned end or later. -/
def ClosesInTime (race : LocalRaceRuntimeInfo) (nowMs : ℕ) : Prop :=
  ∀ s : LocalRaceState, s.active = some race →
    (∀ reported, activeRace s nowMs = some reported → reported.phase = .running →
      reached nowMs reported.plannedEndAtUtc = false) ∧
    (gameplayCommandsClosed s race.raceId nowMs = false →
      reached nowMs (normalizeRacePhaseAt race nowMs).plannedEndAtUtc = false)

/-- A countdown that has run out by the later time has not reached the planned
end of the race by then; and if it had run out by the earlier time, the race has
a planned end, or its start can be read, or its duration gives the same end
from both times. -/
structure PolledInTime (race : LocalRaceRuntimeInfo) (t₁ t₂ : ℕ) : Prop where
  beforeEnd : race.phase = .countdown → reached t₂ race.countdownEndAtUtc = true →
    ¬ Overdue race t₂
  sameEnd : race.phase = .countdown → reached t₁ race.countdownEndAtUtc = true →
    race.plannedEndAtUtc.isSome ∨ (startMs race).isSome ∨
      saturatingAdd t₁ (race.raceDurationSec * 1000) =
        saturatingAdd t₂ (race.raceDurationSec * 1000)

theorem plannedEndMs_eq_iff : plannedEndMs race t₁ = plannedEndMs race t₂ ↔
    (race.plannedEndAtUtc.isSome ∨ (startMs race).isSome ∨
      saturatingAdd t₁ (race.raceDurationSec * 1000) =
        saturatingAdd t₂ (race.raceDurationSec * 1000)) := by
  unfold plannedEndMs
  cases race.plannedEndAtUtc with
  | some plannedEnd => simp
  | none =>
      cases startMs race with
      | some start => simp
      | none => simp

/-- What is reported of the race at a time. -/
theorem closesInTime_iff : ClosesInTime race nowMs ↔
    ((normalizeRacePhaseAt race nowMs).phase = .running →
      reached nowMs (normalizeRacePhaseAt race nowMs).plannedEndAtUtc = false) := by
  constructor
  · intro h hrunning
    obtain ⟨-, hclosed⟩ := h ⟨some race, ∅, 1, false⟩ rfl
    refine hclosed ?_
    simp [gameplayCommandsClosed, LocalRaceState.find, hrunning]
  · intro h s hactive
    refine ⟨fun reported hreported hrunning => ?_, fun hclosed => h ?_⟩
    · rw [activeRace, hactive] at hreported
      obtain rfl := Option.some.inj hreported
      exact h hrunning
    · simpa [gameplayCommandsClosed, LocalRaceState.find, hactive] using hclosed

theorem closesInTime_iff_not_overdue :
    ClosesInTime race nowMs ↔ (race.phase = .countdown →
      reached nowMs race.countdownEndAtUtc = true → ¬ Overdue race nowMs) := by
  rw [closesInTime_iff]
  by_cases hcountdown : race.phase = .countdown
  · cases hend : reached nowMs race.countdownEndAtUtc with
    | true =>
        rw [normalize_countdown hcountdown hend, overdue_iff]
        simp [hcountdown, startedRace]
    | false =>
        rw [normalize_countdown_of_not_reached hcountdown hend]
        simp [hcountdown]
  · by_cases hrunning : race.phase = .running
    · rw [normalize_running hrunning]
      split <;> simp_all
    · rw [normalize_of_settled hcountdown hrunning]
      simp [hcountdown, hrunning]

/-- A race that was running at the first reading is read alike later. -/
theorem normalize_normalize_of_not_countdown (h : t₁ ≤ t₂) (hcountdown : race.phase ≠ .countdown) :
    normalizeRacePhaseAt (normalizeRacePhaseAt race t₁) t₂ = normalizeRacePhaseAt race t₂ := by
  by_cases hrunning : race.phase = .running
  · cases hend : reached t₁ race.plannedEndAtUtc with
    | true =>
        rw [normalize_running hrunning, normalize_running hrunning, if_pos hend,
          if_pos (reached_mono h hend)]
        exact normalize_of_settled nofun nofun
    | false =>
        have hsame : normalizeRacePhaseAt race t₁ = race := by
          rw [normalize_running hrunning, hend]
          rfl
        rw [hsame]
  · have hsame : normalizeRacePhaseAt race t₁ = race := normalize_of_settled hcountdown hrunning
    rw [hsame]

/-- After a countdown, the second reading does not see the end of the race. -/
theorem normalize_normalize_of_countdown (h : t₁ ≤ t₂) (hcountdown : race.phase = .countdown)
    (hend : reached t₁ race.countdownEndAtUtc = true) :
    normalizeRacePhaseAt (normalizeRacePhaseAt race t₁) t₂ = normalizeRacePhaseAt race t₂ ↔
      ¬ Overdue race t₂ ∧ (race.plannedEndAtUtc.isSome ∨ (startMs race).isSome ∨
        saturatingAdd t₁ (race.raceDurationSec * 1000) =
          saturatingAdd t₂ (race.raceDurationSec * 1000)) := by
  rw [normalize_countdown hcountdown hend, normalize_countdown hcountdown (reached_mono h hend),
    normalize_running rfl, overdue_iff, ← plannedEndMs_eq_iff, ← startedRace_eq_iff]
  constructor
  · intro heq
    cases hlate : reached t₂ (startedRace race t₁).plannedEndAtUtc with
    | true =>
        rw [hlate, if_pos rfl] at heq
        have hphase := congrArg LocalRaceRuntimeInfo.phase heq
        cases hphase
    | false =>
        rw [hlate] at heq
        have hsame : startedRace race t₁ = startedRace race t₂ := heq
        rw [hsame] at hlate
        exact ⟨by simp [hlate], hsame⟩
  · rintro ⟨hlate, hsame⟩
    rw [hsame, if_neg hlate]

/-- Reading a race twice is reading it once, and the race closes in time,
exactly when it is polled in time. -/
theorem polling_changes_nothing_iff (race : LocalRaceRuntimeInfo) {t₁ t₂ : ℕ} (h : t₁ ≤ t₂) :
    (normalizeRacePhaseAt (normalizeRacePhaseAt race t₁) t₂ = normalizeRacePhaseAt race t₂ ∧
      ClosesInTime race t₂) ↔ PolledInTime race t₁ t₂ := by
  rw [closesInTime_iff_not_overdue]
  by_cases hcountdown : race.phase = .countdown
  · cases hend : reached t₁ race.countdownEndAtUtc with
    | true =>
        rw [normalize_normalize_of_countdown h hcountdown hend]
        constructor
        · rintro ⟨⟨-, hsame⟩, hlate⟩
          exact ⟨hlate, fun _ _ => hsame⟩
        · rintro ⟨hlate, hsame⟩
          exact ⟨⟨hlate hcountdown (reached_mono h hend), hsame hcountdown hend⟩, hlate⟩
    | false =>
        rw [normalize_countdown_of_not_reached hcountdown hend]
        constructor
        · rintro ⟨-, hlate⟩
          exact ⟨hlate, fun _ hreached => by simp [hend] at hreached⟩
        · rintro ⟨hlate, -⟩
          exact ⟨rfl, hlate⟩
  · constructor
    · rintro ⟨-, hlate⟩
      exact ⟨hlate, fun hphase => absurd hphase hcountdown⟩
    · rintro ⟨hlate, -⟩
      exact ⟨normalize_normalize_of_not_countdown h hcountdown, hlate⟩

namespace LatePolling

/-- A race of a minute whose countdown ends after ten seconds. -/
def minuteRace : LocalRaceRuntimeInfo where
  raceId := "r1"
  raceName := "Race"
  mapId := "m1"
  raceDurationSec := 60
  timeOfDay := none
  activeTimeOfDayPreset := .noon
  ghostMode := none
  weather := none
  phase := .countdown
  createdAtUtc := some ⟨0, 0⟩
  countdownEndAtUtc := some ⟨10, 0⟩
  runningStartedAtUtc := none
  plannedEndAtUtc := none
  joinedParticipantCount := 0
  maxParticipants := 4

/-- Polled while it runs, the race is read alike a second later. -/
theorem polled_while_running :
    normalizeRacePhaseAt (normalizeRacePhaseAt minuteRace 20000) 21000 =
      normalizeRacePhaseAt minuteRace 21000 ∧ ClosesInTime minuteRace 21000 :=
  (polling_changes_nothing_iff minuteRace (by decide)).mpr
    ⟨by decide, fun _ _ => .inr (.inl (by decide))⟩

/-- First polled half a minute after its end, the race is running: commands are
open, and only the second reading at the same time sees that it has finished. -/
theorem polled_after_the_end :
    normalizeRacePhaseAt (normalizeRacePhaseAt minuteRace 100000) 100000 ≠
        normalizeRacePhaseAt minuteRace 100000 ∧
      (normalizeRacePhaseAt minuteRace 100000).phase = .running ∧
      reached 100000 (normalizeRacePhaseAt minuteRace 100000).plannedEndAtUtc = true ∧
      gameplayCommandsClosed ⟨some minuteRace, ∅, 1, false⟩ "r1" 100000 = false := by
  decide +kernel

end LatePolling

end HackArena.Local
