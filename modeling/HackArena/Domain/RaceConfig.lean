import HackArena.Boink
import HackArena.Lib.Text
import Mathlib.Data.List.Pairwise

/-!
# The rules of the race calendar

A calendar in the order of its starts is checked entry by entry. Every
entry is compared with the one before it only.
-/

namespace HackArena.Domain.RaceConfig

open Boink

inductive StartPlacementMode where
  | unspecified | random | scoreboard | reversedScoreboard
  deriving DecidableEq, Repr

inductive RaceTimeOfDayPreset where
  | unspecified | morning | noon | evening | night
  deriving DecidableEq, Repr

/-- A multiplier that is not finite is `none`. -/
structure RaceConfigInput where
  raceName : String
  startsAtMs : ℤ
  endsAtMs : ℤ
  mapId : String
  startPlacementMode : StartPlacementMode
  pointsMultiplierFixed : Option F32
  timeOfDayPreset : RaceTimeOfDayPreset
  deriving DecidableEq

structure ScheduleEntry where
  raceId : String
  config : RaceConfigInput
  deriving DecidableEq

inductive RaceConfigDomainError where
  | emptyRaceId (index : ℕ)
  | emptyRaceName (index : ℕ)
  | emptyMapId (index : ℕ)
  | unspecifiedStartPlacementMode (index : ℕ)
  | unspecifiedTimeOfDayPreset (index : ℕ)
  | invalidPointsMultiplier (index : ℕ)
  | invalidTimeWindow (index : ℕ) (start «end» : ℤ)
  | nonIncreasingStartTime (index : ℕ) (prev current : ℤ)
  | overlappingTimeWindow (index : ℕ) (prevEnd currentStart : ℤ)
  | duplicateRaceId (index : ℕ) (raceId : String)
  deriving DecidableEq, Repr

/-- The `Display` texts. -/
def RaceConfigDomainError.text : RaceConfigDomainError → String
  | .emptyRaceId index => "race_id must be non-empty at index " ++ toString index
  | .emptyRaceName index => "race_name must be non-empty at index " ++ toString index
  | .emptyMapId index => "map_id must be non-empty at index " ++ toString index
  | .unspecifiedStartPlacementMode index =>
      "start_placement_mode must be specified at index " ++ toString index
  | .unspecifiedTimeOfDayPreset index =>
      "time_of_day_preset must be specified at index " ++ toString index
  | .invalidPointsMultiplier index =>
      "points_multiplier_fixed must be positive and finite at index " ++ toString index
  | .invalidTimeWindow index start «end» =>
      "race time window must satisfy starts_at_ms < ends_at_ms at index " ++ toString index ++
        " (start=" ++ toString start ++ ", end=" ++ toString «end» ++ ")"
  | .nonIncreasingStartTime index prev current =>
      "schedule starts_at_ms must be strictly increasing at index " ++ toString index ++
        " (prev=" ++ toString prev ++ ", current=" ++ toString current ++ ")"
  | .overlappingTimeWindow index prevEnd currentStart =>
      "schedule entries must not overlap at index " ++ toString index ++
        " (prev_end=" ++ toString prevEnd ++ ", current_start=" ++ toString currentStart ++ ")"
  | .duplicateRaceId index raceId =>
      "race_id must be unique; duplicate \"" ++ raceId ++ "\" at index " ++ toString index

def validateInput (index : ℕ) (entry : RaceConfigInput) : Except RaceConfigDomainError Unit :=
  if Text.isBlank entry.raceName then .error (.emptyRaceName index)
  else if Text.isBlank entry.mapId then .error (.emptyMapId index)
  else if entry.startPlacementMode = .unspecified then
    .error (.unspecifiedStartPlacementMode index)
  else if entry.timeOfDayPreset = .unspecified then .error (.unspecifiedTimeOfDayPreset index)
  else if entry.pointsMultiplierFixed.any (0 < ·) = false then
    .error (.invalidPointsMultiplier index)
  else if entry.endsAtMs ≤ entry.startsAtMs then
    .error (.invalidTimeWindow index entry.startsAtMs entry.endsAtMs)
  else .ok ()

/-- The start and the end of the entry before. -/
def validateOrderingAndOverlap (index : ℕ) (startsAtMs : ℤ) :
    Option (ℤ × ℤ) → Except RaceConfigDomainError Unit
  | none => .ok ()
  | some (prevStart, prevEnd) =>
      if startsAtMs ≤ prevStart then .error (.nonIncreasingStartTime index prevStart startsAtMs)
      else if startsAtMs < prevEnd then
        .error (.overlappingTimeWindow index prevEnd startsAtMs)
      else .ok ()

/-- The entries from the one at `index` on. -/
def validateFrom (index : ℕ) (seenRaceIds : List String) (prev : Option (ℤ × ℤ)) :
    List ScheduleEntry → Except RaceConfigDomainError Unit
  | [] => .ok ()
  | entry :: entries => do
      if Text.isBlank entry.raceId then throw (.emptyRaceId index)
      if entry.raceId ∈ seenRaceIds then throw (.duplicateRaceId index entry.raceId)
      validateInput index entry.config
      validateOrderingAndOverlap index entry.config.startsAtMs prev
      validateFrom (index + 1) (entry.raceId :: seenRaceIds)
        (some (entry.config.startsAtMs, entry.config.endsAtMs)) entries

def validateSchedule (entries : List ScheduleEntry) : Except RaceConfigDomainError Unit :=
  validateFrom 0 [] none entries

/-! ## What the checks establish -/

theorem validateInput_ok {index : ℕ} {entry : RaceConfigInput}
    (h : validateInput index entry = .ok ()) : entry.startsAtMs < entry.endsAtMs := by
  unfold validateInput at h
  repeat' split at h
  all_goals first | omega | cases h

theorem validateOrderingAndOverlap_ok {index : ℕ} {startsAtMs prevStart prevEnd : ℤ}
    (h : validateOrderingAndOverlap index startsAtMs (some (prevStart, prevEnd)) = .ok ()) :
    prevEnd ≤ startsAtMs := by
  rw [validateOrderingAndOverlap] at h
  split at h
  · cases h
  · split at h
    · cases h
    · omega

/-- The checks of the first entry, and those of the rest. -/
theorem validateFrom_cons_ok {index : ℕ} {seenRaceIds : List String} {prev : Option (ℤ × ℤ)}
    {entry : ScheduleEntry} {entries : List ScheduleEntry}
    (h : validateFrom index seenRaceIds prev (entry :: entries) = .ok ()) :
    entry.raceId ∉ seenRaceIds ∧ validateInput index entry.config = .ok () ∧
      validateOrderingAndOverlap index entry.config.startsAtMs prev = .ok () ∧
      validateFrom (index + 1) (entry.raceId :: seenRaceIds)
        (some (entry.config.startsAtMs, entry.config.endsAtMs)) entries = .ok () := by
  rw [validateFrom] at h
  by_cases hblank : Text.isBlank entry.raceId = true
  · rw [if_pos hblank] at h
    cases h
  by_cases hseen : entry.raceId ∈ seenRaceIds
  · rw [if_neg hblank, if_pos hseen] at h
    cases h
  rw [if_neg hblank, if_neg hseen] at h
  cases hinput : validateInput index entry.config with
  | error err =>
      rw [hinput] at h
      cases h
  | ok _ =>
      cases horder : validateOrderingAndOverlap index entry.config.startsAtMs prev with
      | error err =>
          rw [hinput, horder] at h
          cases h
      | ok _ =>
          rw [hinput, horder] at h
          exact ⟨hseen, rfl, rfl, h⟩

/-- What the rest of an accepted calendar looks like from the entry before
it. -/
structure Accepted (seenRaceIds : List String) (prev : Option (ℤ × ℤ))
    (entries : List ScheduleEntry) : Prop where
  fresh : ∀ entry ∈ entries, entry.raceId ∉ seenRaceIds
  distinct : (entries.map (·.raceId)).Nodup
  window : ∀ entry ∈ entries, entry.config.startsAtMs < entry.config.endsAtMs
  after : ∀ p ∈ prev, ∀ entry ∈ entries, p.2 ≤ entry.config.startsAtMs
  ordered : entries.Pairwise fun a b => a.config.endsAtMs ≤ b.config.startsAtMs

/-- The end of an entry bounds the starts of all later ones, not only of the
next. -/
theorem Accepted.cons {seenRaceIds : List String} {prev : Option (ℤ × ℤ)}
    {entry : ScheduleEntry} {entries : List ScheduleEntry} (hfresh : entry.raceId ∉ seenRaceIds)
    (hwindow : entry.config.startsAtMs < entry.config.endsAtMs)
    (hafter : ∀ p ∈ prev, p.2 ≤ entry.config.startsAtMs)
    (h : Accepted (entry.raceId :: seenRaceIds)
      (some (entry.config.startsAtMs, entry.config.endsAtMs)) entries) :
    Accepted seenRaceIds prev (entry :: entries) where
  fresh e he := by
    rcases List.mem_cons.mp he with rfl | he
    · exact hfresh
    · exact fun hseen => h.fresh e he (List.mem_cons_of_mem _ hseen)
  distinct := by
    refine List.nodup_cons.mpr ⟨fun hmem => ?_, h.distinct⟩
    obtain ⟨e, he, hid⟩ := List.mem_map.mp hmem
    exact h.fresh e he (hid ▸ List.mem_cons_self)
  window e he := by
    rcases List.mem_cons.mp he with rfl | he
    · exact hwindow
    · exact h.window e he
  after p hp e he := by
    have hfirst := hafter p hp
    rcases List.mem_cons.mp he with rfl | he
    · exact hfirst
    · have hlater := h.after _ rfl e he
      dsimp only at hlater
      omega
  ordered := List.pairwise_cons.mpr ⟨fun e he => h.after _ rfl e he, h.ordered⟩

theorem accepted_of_validateFrom {index : ℕ} {seenRaceIds : List String}
    {prev : Option (ℤ × ℤ)} {entries : List ScheduleEntry}
    (h : validateFrom index seenRaceIds prev entries = .ok ()) :
    Accepted seenRaceIds prev entries := by
  induction entries generalizing index seenRaceIds prev with
  | nil => exact ⟨by simp, by simp, by simp, by simp, .nil⟩
  | cons entry entries ih =>
      obtain ⟨hfresh, hinput, horder, hrest⟩ := validateFrom_cons_ok h
      refine .cons hfresh (validateInput_ok hinput) ?_ (ih hrest)
      rintro ⟨prevStart, prevEnd⟩ hprev
      obtain rfl := Option.mem_def.mp hprev
      exact validateOrderingAndOverlap_ok horder

theorem accepted_of_validateSchedule {entries : List ScheduleEntry}
    (h : validateSchedule entries = .ok ()) : Accepted [] none entries :=
  accepted_of_validateFrom h

end HackArena.Domain.RaceConfig
