import HackArena.Domain.Weather
import HackArena.Runtime.EngineState

/-!
# The active local race

The store keeps one race and its participants under one lock. The phase
also depends on the clock: a countdown that has run out is a running
race, and a race past its planned end has finished. Readers normalize a
copy; writers normalize what is stored, before and after their update.
The clock is read anew each time, so every reading is an argument.
-/

namespace HackArena.Local

open Boink HackArena.Runtime

/-- `prost_types::Timestamp`. -/
structure Timestamp where
  seconds : ℤ
  nanos : ℤ
  deriving DecidableEq, Repr

def timestampFromMs (ms : ℕ) : Timestamp :=
  ⟨min (ms / 1000) (2 ^ 63 - 1), (ms % 1000) * 1000000⟩

def timestampMs : Option Timestamp → Option ℕ
  | none => none
  | some value =>
      if value.seconds < 0 ∨ value.nanos < 0 then none
      else some (saturatingAdd (min (value.seconds.toNat * 1000) u64Max)
        (value.nanos.toNat / 1000000))

inductive LocalRacePhase where
  | unspecified | staging | countdown | running | finished | aborted
  deriving DecidableEq, Repr

inductive LocalTimeOfDayMode where
  | unspecified | fixedPreset | autoByLocalTime
  deriving DecidableEq, Repr

/-- An enumeration read from a request; an unknown number is `none`. -/
abbrev Raw (α : Type) := Option α

structure LocalTimeOfDaySettings where
  mode : Raw LocalTimeOfDayMode
  fixedPreset : Raw EngineRuntimeTimeOfDayPreset
  deriving DecidableEq, Repr

structure LocalWeatherSettings where
  weatherType : Raw Domain.WeatherType
  temperatureC : ℤ
  deriving DecidableEq, Repr

structure LocalRaceRuntimeInfo where
  raceId : String
  raceName : String
  mapId : String
  raceDurationSec : ℕ
  timeOfDay : Option LocalTimeOfDaySettings
  activeTimeOfDayPreset : EngineRuntimeTimeOfDayPreset
  ghostMode : Option GhostModeSettings
  weather : Option LocalWeatherSettings
  phase : LocalRacePhase
  createdAtUtc : Option Timestamp
  countdownEndAtUtc : Option Timestamp
  runningStartedAtUtc : Option Timestamp
  plannedEndAtUtc : Option Timestamp
  joinedParticipantCount : ℕ
  maxParticipants : ℕ
  deriving DecidableEq, Repr

structure LocalRaceParticipantRecord where
  carId : ℕ
  displayName : String
  participantIndex : ℕ
  deriving DecidableEq, Repr

structure LocalRaceState where
  active : Option LocalRaceRuntimeInfo
  participants : HashMap ℕ LocalRaceParticipantRecord
  nextParticipantIndex : ℕ
  finishSoftFreezeApplied : Bool

def LocalRaceState.new : LocalRaceState := ⟨none, ∅, 0, false⟩

inductive LocalRaceStateError where
  | noActiveRace | raceMismatch | joinClosed | participantLimitReached
  deriving DecidableEq, Repr

structure LocalRaceReconcileOutcome where
  race : LocalRaceRuntimeInfo
  previousPhase : LocalRacePhase
  currentPhase : LocalRacePhase
  deriving DecidableEq, Repr

/-! ## The phase at a time -/

/-- The clock has reached the timestamp, if there is one. -/
def reached (nowMs : ℕ) (value : Option Timestamp) : Bool :=
  (timestampMs value).any fun endMs => decide (endMs ≤ nowMs)

def normalizeRacePhaseAt (race : LocalRaceRuntimeInfo) (nowMs : ℕ) : LocalRaceRuntimeInfo :=
  match race.phase with
  | .countdown =>
      if reached nowMs race.countdownEndAtUtc then
        let started := race.runningStartedAtUtc.or race.countdownEndAtUtc
        { race with
          phase := .running
          runningStartedAtUtc := started
          plannedEndAtUtc := race.plannedEndAtUtc.or
            (some (timestampFromMs (saturatingAdd ((timestampMs started).getD nowMs)
              (race.raceDurationSec * 1000)))) }
      else race
  | .running =>
      if reached nowMs race.plannedEndAtUtc then { race with phase := .finished } else race
  | .unspecified | .staging | .finished | .aborted => race

/-! ## The operations -/

def LocalRaceState.participantCount (s : LocalRaceState) : ℕ :=
  min s.participants.keys.card (2 ^ 32 - 1)

def joinedCountForRace (s : LocalRaceState) (raceId : String) : ℕ :=
  if s.active.map (·.raceId) = some raceId then s.participantCount else 0

/-- The copy of a race that is handed out. -/
def LocalRaceState.withCount (s : LocalRaceState) (race : LocalRaceRuntimeInfo) :
    LocalRaceRuntimeInfo :=
  { race with joinedParticipantCount := joinedCountForRace s race.raceId }

def activeRace (s : LocalRaceState) (nowMs : ℕ) : Option LocalRaceRuntimeInfo :=
  s.active.map fun race => s.withCount (normalizeRacePhaseAt race nowMs)

def setActiveRace (race : LocalRaceRuntimeInfo) (nowMs : ℕ) : LocalRaceState :=
  ⟨some (normalizeRacePhaseAt race nowMs), ∅, 1, false⟩

/-- The active race, if it has the given id. -/
def LocalRaceState.find (s : LocalRaceState) (raceId : String) :
    Except LocalRaceStateError LocalRaceRuntimeInfo :=
  match s.active with
  | none => .error .noActiveRace
  | some race => if race.raceId ≠ raceId then .error .raceMismatch else .ok race

def updateActiveRace (s : LocalRaceState) (raceId : String)
    (update : LocalRaceRuntimeInfo → LocalRaceRuntimeInfo) (beforeMs afterMs : ℕ) :
    LocalRaceState × Except LocalRaceStateError LocalRaceRuntimeInfo :=
  match s.find raceId with
  | .error err => (s, .error err)
  | .ok race =>
      let race := normalizeRacePhaseAt (update (normalizeRacePhaseAt race beforeMs)) afterMs
      let s := { s with active := some race }
      (s, .ok (s.withCount race))

def clearActiveRace (s : LocalRaceState) (raceId : String) :
    LocalRaceState × Except LocalRaceStateError Unit :=
  match s.find raceId with
  | .error err => (s, .error err)
  | .ok _ => (⟨none, ∅, 1, false⟩, .ok ())

/-- `race.joined_participant_count = participants.len()`. -/
def LocalRaceState.recount (s : LocalRaceState) : LocalRaceState :=
  { s with active := s.active.map fun race =>
      { race with joinedParticipantCount := s.participantCount } }

/-- The normalized race stays in the store also when the join is refused. -/
def registerParticipant (s : LocalRaceState) (raceId : String) (carId : ℕ)
    (displayName : String) (nowMs : ℕ) :
    LocalRaceState × Except LocalRaceStateError LocalRaceParticipantRecord :=
  match s.find raceId with
  | .error err => (s, .error err)
  | .ok race =>
      let race := normalizeRacePhaseAt race nowMs
      let s := { s with active := some race }
      if race.phase ≠ .staging then (s, .error .joinClosed)
      else if 0 < race.maxParticipants ∧ race.maxParticipants ≤ s.participantCount then
        (s, .error .participantLimitReached)
      else
        let participantIndex := max s.nextParticipantIndex 1
        let record : LocalRaceParticipantRecord := ⟨carId, displayName, participantIndex⟩
        let s := { s with
          nextParticipantIndex := min (participantIndex + 1) (2 ^ 32 - 1)
          participants := s.participants.insert carId record }
        (s.recount, .ok record)

def removeParticipant (s : LocalRaceState) (carId : ℕ) : LocalRaceState :=
  { s with participants := s.participants.erase carId }.recount

def reconcileActiveRace (s : LocalRaceState) (nowMs : ℕ) :
    LocalRaceState × Option LocalRaceReconcileOutcome :=
  match s.active with
  | none => (s, none)
  | some race =>
      let normalized := normalizeRacePhaseAt race nowMs
      if race = normalized then (s, none)
      else
        let s := { s with
          active := some normalized
          finishSoftFreezeApplied :=
            if normalized.phase = .finished then false else s.finishSoftFreezeApplied }
        (s, some ⟨s.withCount normalized, race.phase, normalized.phase⟩)

def finishedRacePendingSoftFreeze (s : LocalRaceState) (nowMs : ℕ) :
    Option LocalRaceRuntimeInfo :=
  match s.active with
  | none => none
  | some race =>
      if s.finishSoftFreezeApplied then none
      else
        let race := normalizeRacePhaseAt race nowMs
        if race.phase ≠ .finished then none else some (s.withCount race)

def markFinishSoftFreezeApplied (s : LocalRaceState) (raceId : String) :
    LocalRaceState × Except LocalRaceStateError Unit :=
  match s.find raceId with
  | .error err => (s, .error err)
  | .ok _ => ({ s with finishSoftFreezeApplied := true }, .ok ())

def gameplayCommandsClosed (s : LocalRaceState) (raceId : String) (nowMs : ℕ) : Bool :=
  match s.find raceId with
  | .error _ => false
  | .ok race => decide ((normalizeRacePhaseAt race nowMs).phase ≠ .running)

/-! ## The id of the active race -/

def LocalRaceState.activeId (s : LocalRaceState) : Option String := s.active.map (·.raceId)

@[simp] theorem normalizeRacePhaseAt_raceId (race : LocalRaceRuntimeInfo) (nowMs : ℕ) :
    (normalizeRacePhaseAt race nowMs).raceId = race.raceId := by
  rw [normalizeRacePhaseAt]
  split
  · split <;> rfl
  · split <;> rfl
  all_goals rfl

@[simp] theorem setActiveRace_activeId (race : LocalRaceRuntimeInfo) (nowMs : ℕ) :
    (setActiveRace race nowMs).activeId = some race.raceId := by
  simp [setActiveRace, LocalRaceState.activeId]

theorem find_ok {s : LocalRaceState} {raceId : String} {race : LocalRaceRuntimeInfo}
    (h : s.find raceId = .ok race) : s.active = some race ∧ race.raceId = raceId := by
  rw [LocalRaceState.find] at h
  split at h
  · cases h
  · split at h
    · cases h
    · rename_i hactive hid
      cases h
      exact ⟨hactive, not_not.mp hid⟩

theorem activeId_of_find {s : LocalRaceState} {raceId : String} {race : LocalRaceRuntimeInfo}
    (h : s.find raceId = .ok race) : s.activeId = some raceId := by
  obtain ⟨hactive, rfl⟩ := find_ok h
  simp [LocalRaceState.activeId, hactive]

/-- An update that keeps the id of the race keeps the active id. -/
theorem updateActiveRace_activeId {s : LocalRaceState} {raceId : String}
    {update : LocalRaceRuntimeInfo → LocalRaceRuntimeInfo}
    (hupdate : ∀ race, (update race).raceId = race.raceId) (beforeMs afterMs : ℕ) :
    (updateActiveRace s raceId update beforeMs afterMs).1.activeId = s.activeId := by
  rw [updateActiveRace]
  split
  · rfl
  · rename_i race hfind
    obtain ⟨hactive, -⟩ := find_ok hfind
    simp [LocalRaceState.activeId, hactive, hupdate]

theorem updateActiveRace_ok {s : LocalRaceState} {raceId : String}
    {update : LocalRaceRuntimeInfo → LocalRaceRuntimeInfo} {beforeMs afterMs : ℕ}
    {race : LocalRaceRuntimeInfo}
    (h : (updateActiveRace s raceId update beforeMs afterMs).2 = .ok race) :
    s.activeId = some raceId := by
  rw [updateActiveRace] at h
  split at h
  · cases h
  · rename_i hfind
    exact activeId_of_find hfind

/-- Clearing a race removes that race and no other. -/
theorem clearActiveRace_activeId (s : LocalRaceState) (raceId : String) :
    (clearActiveRace s raceId).1.activeId = s.activeId ∨
      s.activeId = some raceId ∧ (clearActiveRace s raceId).1.activeId = none := by
  rw [clearActiveRace]
  split
  · exact Or.inl rfl
  · rename_i hfind
    exact Or.inr ⟨activeId_of_find hfind, rfl⟩

@[simp] theorem recount_activeId (s : LocalRaceState) : s.recount.activeId = s.activeId := by
  simp [LocalRaceState.recount, LocalRaceState.activeId, Function.comp_def]

theorem registerParticipant_activeId (s : LocalRaceState) (raceId : String) (carId : ℕ)
    (displayName : String) (nowMs : ℕ) :
    (registerParticipant s raceId carId displayName nowMs).1.activeId = s.activeId := by
  rw [registerParticipant]
  split
  · rfl
  · rename_i race hfind
    obtain ⟨hactive, -⟩ := find_ok hfind
    have hid : ({ s with active := some (normalizeRacePhaseAt race nowMs) } :
        LocalRaceState).activeId = s.activeId := by
      simp [LocalRaceState.activeId, hactive]
    dsimp only
    split
    · exact hid
    · split
      · exact hid
      · rw [recount_activeId]
        exact hid

theorem removeParticipant_activeId (s : LocalRaceState) (carId : ℕ) :
    (removeParticipant s carId).activeId = s.activeId := by
  rw [removeParticipant, recount_activeId]
  rfl

theorem reconcileActiveRace_activeId (s : LocalRaceState) (nowMs : ℕ) :
    (reconcileActiveRace s nowMs).1.activeId = s.activeId := by
  rw [reconcileActiveRace]
  split
  · rfl
  · rename_i race hactive
    dsimp only
    split
    · rfl
    · simp [LocalRaceState.activeId, hactive]

theorem markFinishSoftFreezeApplied_activeId (s : LocalRaceState) (raceId : String) :
    (markFinishSoftFreezeApplied s raceId).1.activeId = s.activeId := by
  rw [markFinishSoftFreezeApplied]
  split <;> rfl

end HackArena.Local
