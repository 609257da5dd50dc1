import HackArena.Admin.MapIds
import HackArena.Runtime.CarWorld
import HackArena.Services.LocalRaceAdmin

/-!
# Race scenarios

A scenario file describes a race that the standalone server runs by itself.
The file is normalized first, and a request to create the race is made from
it; the race administration and the engine worker check the request once
more.
-/

namespace HackArena.Standalone

open Boink HackArena.Admin HackArena.Local HackArena.Runtime HackArena.Services

/-! ## Scenario files -/

/-- A float of a file; infinities and NaN are `none`. -/
abbrev ReadF32 := Option F32

structure RunRaceGhostModeFile where
  enabled : Bool
  enterSpeedMaxMps : ReadF32
  exitSpeedMinMps : ReadF32
  enterDelayMs : UInt32
  exitDelayMs : UInt32
  untilCompletedLaps : UInt32
  vehicleOverlapExitDelayMs : UInt32

/-- `RunRaceAutoBackToTrackFile` and `RunRaceAutoEmergencyPitFile`. -/
structure RunRaceAutoFile where
  speedKmhBelow : ReadF32
  stuckForSeconds : UInt32

structure RunRaceScenarioFile where
  mapId : String
  raceDurationSec : UInt32
  expectedParticipants : UInt32
  raceName : Option String
  countdownSeconds : Option UInt32
  maxParticipants : Option UInt32
  ghostMode : Option RunRaceGhostModeFile
  autoBackToTrack : Option RunRaceAutoFile
  autoEmergencyPit : Option RunRaceAutoFile

/-! ## Scenarios -/

/-- `RunRaceAutoBackToTrackConfig` and `RunRaceAutoEmergencyPitConfig`. -/
structure RunRaceAutoConfig where
  speedKmhBelow : F32
  stuckForSeconds : UInt32
  deriving DecidableEq

structure RunRaceScenario where
  mapId : String
  raceDurationSec : UInt32
  expectedParticipants : UInt32
  raceName : String
  countdownSeconds : UInt32
  maxParticipants : UInt32
  ghostMode : Option GhostModeSettings
  autoBackToTrack : Option RunRaceAutoConfig
  autoEmergencyPit : Option RunRaceAutoConfig
  deriving DecidableEq

/-- A speed of the ghost mode. -/
def normalizeGhostSpeed (field : String) : ReadF32 → Except String F32
  | some speed => if speed < 0 then .error ("ghost_mode." ++ field ++ " must be finite and >= 0")
      else .ok speed
  | none => .error ("ghost_mode." ++ field ++ " must be finite and >= 0")

def normalizeRunRaceGhostMode (file : RunRaceGhostModeFile) : Except String GhostModeSettings := do
  let enterSpeedMaxMps ← normalizeGhostSpeed "enter_speed_max_mps" file.enterSpeedMaxMps
  let exitSpeedMinMps ← normalizeGhostSpeed "exit_speed_min_mps" file.exitSpeedMinMps
  if exitSpeedMinMps < enterSpeedMaxMps then
    throw "ghost_mode.enter_speed_max_mps must be <= ghost_mode.exit_speed_min_mps"
  return ⟨file.enabled, enterSpeedMaxMps, exitSpeedMinMps, file.enterDelayMs.toNat,
    file.exitDelayMs.toNat, file.untilCompletedLaps.toNat, file.vehicleOverlapExitDelayMs.toNat⟩

/-- One of the two automations; `table` is its name in the file. -/
def normalizeAutoConfig (table : String) (file : RunRaceAutoFile) :
    Except String RunRaceAutoConfig :=
  match file.speedKmhBelow with
  | none => .error (table ++ ".speed_kmh_below must be greater than zero")
  | some speedKmhBelow =>
      if speedKmhBelow ≤ 0 then .error (table ++ ".speed_kmh_below must be greater than zero")
      else if file.stuckForSeconds = 0 then
        .error (table ++ ".stuck_for_seconds must be greater than zero")
      else .ok ⟨speedKmhBelow, file.stuckForSeconds⟩

def normalizeAutoBackToTrackConfig : RunRaceAutoFile → Except String RunRaceAutoConfig :=
  normalizeAutoConfig "auto_back_to_track"

def normalizeAutoEmergencyPitConfig : RunRaceAutoFile → Except String RunRaceAutoConfig :=
  normalizeAutoConfig "auto_emergency_pit"

def normalizeRunRaceScenario (file : RunRaceScenarioFile) : Except String RunRaceScenario := do
  let mapId := Text.trim file.mapId
  if mapId = "" then throw "map_id must be non-empty"
  if file.raceDurationSec = 0 then throw "race_duration_sec must be greater than zero"
  if file.expectedParticipants = 0 then throw "expected_participants must be greater than zero"
  let raceName := ((file.raceName.map Text.trim).filter (· ≠ "")).getD "Local race"
  let maxParticipants := file.maxParticipants.getD file.expectedParticipants
  if maxParticipants < file.expectedParticipants then
    throw "max_participants must be greater than or equal to expected_participants"
  let ghostMode ← file.ghostMode.mapM normalizeRunRaceGhostMode
  let autoBackToTrack ← file.autoBackToTrack.mapM normalizeAutoBackToTrackConfig
  let autoEmergencyPit ← file.autoEmergencyPit.mapM normalizeAutoEmergencyPitConfig
  return ⟨mapId, file.raceDurationSec, file.expectedParticipants, raceName,
    file.countdownSeconds.getD 0, maxParticipants, ghostMode, autoBackToTrack, autoEmergencyPit⟩

/-- The configuration that `run_race_controller` asks for. -/
def RunRaceScenario.createConfig (scenario : RunRaceScenario) : LocalRaceConfigInput where
  raceName := scenario.raceName
  mapId := scenario.mapId
  raceDurationSec := scenario.raceDurationSec.toNat
  timeOfDay := none
  ghostMode := scenario.ghostMode
  weather := none
  maxParticipants := scenario.maxParticipants.toNat

/-- What the normalization has made sure of. -/
structure RunRaceScenario.Normalized (scenario : RunRaceScenario) : Prop where
  mapId : scenario.mapId ≠ "" ∧ Text.trim scenario.mapId = scenario.mapId
  raceDurationSec : scenario.raceDurationSec ≠ 0
  expectedParticipants : scenario.expectedParticipants ≠ 0
  maxParticipants : scenario.expectedParticipants ≤ scenario.maxParticipants

theorem normalized_of_ok {file : RunRaceScenarioFile} {scenario : RunRaceScenario}
    (h : normalizeRunRaceScenario file = .ok scenario) : scenario.Normalized := by
  unfold normalizeRunRaceScenario at h
  dsimp only at h
  by_cases hmap : Text.trim file.mapId = ""
  · rw [if_pos hmap] at h
    cases h
  rw [if_neg hmap] at h
  by_cases hduration : file.raceDurationSec = 0
  · rw [if_pos hduration] at h
    cases h
  rw [if_neg hduration] at h
  by_cases hexpected : file.expectedParticipants = 0
  · rw [if_pos hexpected] at h
    cases h
  rw [if_neg hexpected] at h
  by_cases hmax : file.maxParticipants.getD file.expectedParticipants < file.expectedParticipants
  · rw [if_pos hmax] at h
    cases h
  rw [if_neg hmax] at h
  obtain ⟨ghostMode, -, h⟩ := Except.bind_eq_ok.mp h
  obtain ⟨autoBackToTrack, -, h⟩ := Except.bind_eq_ok.mp h
  obtain ⟨autoEmergencyPit, -, h⟩ := Except.bind_eq_ok.mp h
  cases h
  exact ⟨⟨hmap, Text.trim_trim _⟩, hduration, hexpected, UInt32.not_lt.mp hmax⟩

/-! ## Joining a staged race -/

/-- A participant asks to join at a time. -/
structure Join where
  carId : ℕ
  displayName : String
  nowMs : ℕ

def joinAll (s : LocalRaceState) (raceId : String) (joins : List Join) : LocalRaceState :=
  joins.foldl (fun s join => (registerParticipant s raceId join.carId join.displayName
    join.nowMs).1) s

/-- The race is staged, and these cars have joined it. -/
structure Staged (s : LocalRaceState) (raceId : String) (maxParticipants : ℕ)
    (carIds : Finset ℕ) : Prop where
  race : ∃ race, s.active = some race ∧ race.raceId = raceId ∧ race.phase = .staging ∧
    race.maxParticipants = maxParticipants
  cars : s.participants.keys = carIds

section Joining

variable {s : LocalRaceState} {raceId : String} {maxParticipants : ℕ} {carIds : Finset ℕ}

theorem Staged.register (h : Staged s raceId maxParticipants carIds)
    (hroom : carIds.card < maxParticipants) (join : Join) :
    (∃ record, (registerParticipant s raceId join.carId join.displayName join.nowMs).2 =
      .ok record) ∧
      Staged (registerParticipant s raceId join.carId join.displayName join.nowMs).1 raceId
        maxParticipants (insert join.carId carIds) := by
  obtain ⟨race, hactive, hid, hphase, hmax⟩ := h.race
  have hfind : s.find raceId = .ok race := by
    rw [LocalRaceState.find, hactive]
    exact if_neg (not_not.mpr hid)
  have hsame : normalizeRacePhaseAt race join.nowMs = race := by
    rw [normalizeRacePhaseAt, hphase]
  have hcount : s.participantCount ≤ carIds.card := by
    rw [← h.cars]
    exact min_le_left _ _
  have hfree : ¬ (0 < race.maxParticipants ∧ race.maxParticipants ≤ s.participantCount) := by
    omega
  have hresult : registerParticipant s raceId join.carId join.displayName join.nowMs =
      ({ s with
          active := some race
          nextParticipantIndex := min (max s.nextParticipantIndex 1 + 1) (2 ^ 32 - 1)
          participants := s.participants.insert join.carId
            ⟨join.carId, join.displayName, max s.nextParticipantIndex 1⟩ }.recount,
        .ok ⟨join.carId, join.displayName, max s.nextParticipantIndex 1⟩) := by
    unfold registerParticipant
    rw [hfind]
    dsimp only
    rw [hsame, if_neg (not_not.mpr hphase)]
    exact if_neg hfree
  rw [hresult]
  refine ⟨⟨_, rfl⟩, ⟨⟨_, rfl, hid, hphase, hmax⟩, ?_⟩⟩
  change (s.participants.insert join.carId _).keys = _
  rw [HashMap.keys_insert, h.cars]

/-- As long as there is room, all join. -/
theorem Staged.joinAll (h : Staged s raceId maxParticipants carIds) (joins : List Join)
    (hroom : carIds.card + joins.length ≤ maxParticipants) :
    Staged (joinAll s raceId joins) raceId maxParticipants
      (carIds ∪ (joins.map Join.carId).toFinset) := by
  induction joins generalizing s carIds with
  | nil => simpa [Standalone.joinAll] using h
  | cons join rest ih =>
      rw [List.length_cons] at hroom
      have hjoined := (h.register (by omega) join).2
      have hcard : (insert join.carId carIds).card ≤ carIds.card + 1 := Finset.card_insert_le ..
      have hrest := ih hjoined (by omega)
      rw [List.map_cons, List.toFinset_cons, Finset.union_insert, ← Finset.insert_union]
      exact hrest

end Joining

/-! ## Creating the race -/

/-- The race of a configuration takes this many participants, and is seen
to have them. -/
structure Admits (config : LocalRaceConfigInput) (expectedParticipants : UInt32) : Prop where
  joins : ∀ (raceId : String) (preset : EngineRuntimeTimeOfDayPreset) (createdMs nowMs : ℕ)
    (joins : List Join) (join : Join), joins.length < expectedParticipants.toNat →
      ∃ record, (registerParticipant
        (joinAll (setActiveRace (stagedRace config raceId preset createdMs) nowMs) raceId joins)
        raceId join.carId join.displayName join.nowMs).2 = .ok record
  count : ∀ (raceId : String) (preset : EngineRuntimeTimeOfDayPreset) (createdMs nowMs pollMs : ℕ)
    (joins : List Join), (joins.map Join.carId).Nodup → joins.length = expectedParticipants.toNat →
      ∃ race, activeRace
          (joinAll (setActiveRace (stagedRace config raceId preset createdMs) nowMs) raceId joins)
          pollMs = some race ∧
        race.raceId = raceId ∧ race.phase = .staging ∧
          expectedParticipants.toNat ≤ race.joinedParticipantCount

/-- The request of a scenario passes all the checks, with `engine` built for
its map, and its race takes the participants that are expected. -/
def Creatable {E : Type} (env : EngineEnv E) (engine : E) (scenario : RunRaceScenario) : Prop :=
  ∃ config preset, normalizeConfig scenario.createConfig = .ok config ∧
    (∃ timeOfDay, config.timeOfDay = some timeOfDay ∧
      resolveTimeOfDayPreset timeOfDay = .ok preset) ∧
    validateMapId .standalone config.mapId = .ok () ∧
    buildEngine .standalone env config.mapId = .ok engine ∧
    Admits config scenario.expectedParticipants

theorem staged_setActiveRace (config : LocalRaceConfigInput) (raceId : String)
    (preset : EngineRuntimeTimeOfDayPreset) (createdMs nowMs : ℕ) :
    Staged (setActiveRace (stagedRace config raceId preset createdMs) nowMs) raceId
      config.maxParticipants ∅ :=
  ⟨⟨_, rfl, rfl, rfl, rfl⟩, Finmap.keys_empty⟩

theorem admits_of_le {config : LocalRaceConfigInput} {expectedParticipants : UInt32}
    (h : expectedParticipants.toNat ≤ config.maxParticipants) :
    Admits config expectedParticipants := by
  constructor
  · intro raceId preset createdMs nowMs joins join hlength
    have hall := (staged_setActiveRace config raceId preset createdMs nowMs).joinAll joins
      (by rw [Finset.card_empty]; omega)
    have hcard : (∅ ∪ (joins.map Join.carId).toFinset).card ≤ joins.length := by
      rw [Finset.empty_union]
      exact (List.toFinset_card_le _).trans_eq (List.length_map _)
    exact (hall.register (by omega) join).1
  · intro raceId preset createdMs nowMs pollMs joins hnodup hlength
    have hall := (staged_setActiveRace config raceId preset createdMs nowMs).joinAll joins
      (by rw [Finset.card_empty]; omega)
    obtain ⟨race, hactive, hid, hphase, -⟩ := hall.race
    have hcard : (∅ ∪ (joins.map Join.carId).toFinset).card = expectedParticipants.toNat := by
      rw [Finset.empty_union, List.toFinset_card_of_nodup hnodup, List.length_map, hlength]
    have hsame : normalizeRacePhaseAt race pollMs = race := by
      rw [normalizeRacePhaseAt, hphase]
    have hread : activeRace (joinAll (setActiveRace (stagedRace config raceId preset createdMs)
        nowMs) raceId joins) pollMs = some (LocalRaceState.withCount (joinAll (setActiveRace
          (stagedRace config raceId preset createdMs) nowMs) raceId joins) race) := by
      rw [activeRace, hactive, Option.map_some, hsame]
    refine ⟨_, hread, hid, hphase, ?_⟩
    change _ ≤ joinedCountForRace _ race.raceId
    rw [joinedCountForRace, if_pos (by rw [hactive]; rfl), LocalRaceState.participantCount, hall.cars,
      hcard]
    exact le_min le_rfl (Nat.le_pred_of_lt expectedParticipants.toNat_lt)

section Theorem

variable {E : Type} {env : EngineEnv E} {engine : E} {file : RunRaceScenarioFile}
  {scenario : RunRaceScenario}

theorem normalizeConfig_ok {config : LocalRaceConfigInput} {request : LocalRaceConfigInput}
    (h : normalizeConfig request = .ok config) :
    (Text.trim request.mapId).toList.all Text.isAsciiAlphanumeric = true ∧
      config.mapId = Text.trim request.mapId := by
  unfold normalizeConfig at h
  dsimp only at h
  split at h
  · cases h
  · split at h
    · cases h
    · rename_i hall
      split at h
      · cases h
      · cases h
        exact ⟨not_not.mp hall, rfl⟩

/-- An accepted scenario whose map can be built can be created exactly if the
id of its map is alphanumeric. -/
theorem creatable_iff (hfile : normalizeRunRaceScenario file = .ok scenario)
    (hmap : env.loadEngine scenario.mapId = .ok engine) :
    Creatable env engine scenario ↔ scenario.mapId.toList.all Text.isAsciiAlphanumeric = true := by
  have hnormalized := normalized_of_ok hfile
  obtain ⟨hne, htrim⟩ := hnormalized.mapId
  constructor
  · rintro ⟨config, preset, hconfig, -⟩
    have hall := (normalizeConfig_ok hconfig).1
    rwa [RunRaceScenario.createConfig, htrim] at hall
  · intro hall
    have hduration : scenario.createConfig.raceDurationSec ≠ 0 := fun hzero =>
      hnormalized.raceDurationSec (UInt32.toNat_inj.mp hzero)
    have hexpected : scenario.expectedParticipants.toNat ≤ scenario.maxParticipants.toNat :=
      hnormalized.maxParticipants
    have hpositive : scenario.expectedParticipants.toNat ≠ 0 := fun hzero =>
      hnormalized.expectedParticipants (UInt32.toNat_inj.mp hzero)
    have hvalid : validateMapId .standalone scenario.mapId = .ok () := by
      rw [validateMapId_ok_iff]
      exact ⟨fun hnil => hne (String.toList_eq_nil_iff.mp hnil), List.all_eq_true.mp hall⟩
    refine ⟨{ scenario.createConfig with
        raceName := if Text.trim scenario.raceName = "" then "Local race"
          else Text.trim scenario.raceName
        timeOfDay := some ⟨some .fixedPreset, some .noon⟩
        weather := some ⟨some .clear, 20⟩ }, .noon, ?_, ⟨_, rfl, rfl⟩, hvalid, ?_, ?_⟩
    · have hmax : scenario.createConfig.maxParticipants ≠ 0 := fun hzero =>
        hpositive (Nat.le_zero.mp (hexpected.trans_eq hzero))
      have hid : Text.trim scenario.createConfig.mapId = scenario.mapId := htrim
      unfold normalizeConfig
      dsimp only
      rw [hid, if_neg hne, if_neg (not_not.mpr hall), if_neg hduration, if_neg hmax]
      rfl
    · change buildEngine .standalone env scenario.mapId = .ok engine
      rw [buildEngine, hvalid]
      exact hmap
    · exact admits_of_le hexpected

end Theorem

/-- A scenario for eight participants. -/
def scenarioFile (mapId : String) : RunRaceScenarioFile :=
  ⟨mapId, 60, 8, none, none, none, none, none, none⟩

def scenarioOf (mapId : String) : RunRaceScenario :=
  ⟨mapId, 60, 8, "Local race", 0, 8, none, none, none⟩

theorem ovalis04_creatable : Creatable CarWorld.env CarWorld.fresh (scenarioOf "ovalis04") :=
  (@creatable_iff _ CarWorld.env CarWorld.fresh (scenarioFile "ovalis04") (scenarioOf "ovalis04")
    (by decide +kernel) rfl).mpr (by decide +kernel)

/-- The scenario is accepted and the map loads, but no race can be created. -/
theorem ovalis_04_not_creatable :
    normalizeRunRaceScenario (scenarioFile "ovalis_04") = .ok (scenarioOf "ovalis_04") ∧
      CarWorld.env.loadEngine "ovalis_04" = .ok CarWorld.fresh ∧
        ¬ Creatable CarWorld.env CarWorld.fresh (scenarioOf "ovalis_04") := by
  refine ⟨by decide +kernel, rfl, ?_⟩
  rintro ⟨config, preset, hconfig, -⟩
  have hall := (normalizeConfig_ok hconfig).1
  exact absurd hall (by decide +kernel)

end HackArena.Standalone
