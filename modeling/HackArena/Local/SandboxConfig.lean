import HackArena.Lib.KeyedList
import HackArena.Lib.Text
import HackArena.Runtime.EngineState

/-!
# Local sandbox configurations

The records of the configuration file, what is checked of them, and the
changes that the store makes. Every change expects a revision and raises
it.
-/

namespace HackArena.Local.SandboxConfig

open Boink HackArena.Runtime

/-! ## Records -/

inductive TimeOfDayMode where
  | fixedPreset | autoByLocalTime
  deriving DecidableEq, Repr

inductive RuntimeTimeOfDayPresetRecord where
  | morning | noon | evening | night
  deriving DecidableEq, Repr

inductive WeatherTypeRecord where
  | clear | partlyCloudy | overcast | lightRain | mediumRain | heavyRain
  deriving DecidableEq, Repr

inductive SpawnModeRecord where
  | startLine | randomOnTrack | inPit | randomStartSlot
  deriving DecidableEq, Repr

structure TimeOfDaySettingsRecord where
  mode : TimeOfDayMode
  fixedPreset : RuntimeTimeOfDayPresetRecord
  deriving DecidableEq, Repr

structure WeatherSettingsRecord where
  weatherType : WeatherTypeRecord
  temperatureC : ℤ
  deriving DecidableEq, Repr

structure LocalSandboxConfigInputRecord where
  sandboxName : String
  mapId : String
  timeOfDay : TimeOfDaySettingsRecord
  ghostMode : Option GhostModeSettings
  weather : WeatherSettingsRecord
  spawnMode : SpawnModeRecord
  deriving DecidableEq, Repr

structure LocalSandboxConfigRecord where
  sandboxId : String
  config : LocalSandboxConfigInputRecord
  deriving DecidableEq, Repr

structure LocalSandboxConfigState where
  revision : ℕ
  sandboxes : List LocalSandboxConfigRecord
  deriving DecidableEq, Repr

/-- `LocalSandboxConfigState::default()`. -/
def LocalSandboxConfigState.default : LocalSandboxConfigState := ⟨0, []⟩

inductive ConfigStoreError where
  | io (message : String)
  | serde (message : String)
  | revisionMismatch (expected actual : ℕ)
  | alreadyExists (sandboxId : String)
  | notFound (sandboxId : String)
  | invalidConfig (message : String)
  deriving DecidableEq, Repr

/-- The `Display` texts. -/
def ConfigStoreError.text : ConfigStoreError → String
  | .io message => "io error: " ++ message
  | .serde message => "json error: " ++ message
  | .revisionMismatch expected actual =>
      "revision mismatch: expected " ++ toString expected ++ ", actual " ++ toString actual
  | .alreadyExists sandboxId => "local sandbox config already exists: " ++ sandboxId
  | .notFound sandboxId => "local sandbox config not found: " ++ sandboxId
  | .invalidConfig message => "invalid local sandbox config: " ++ message

/-! ## Checks -/

def maxSandboxNameLenChars : ℕ := 64
def maxGhostDelayMs : ℕ := 600000
def maxGhostUntilCompletedLaps : ℕ := 100000

def require (holds : Bool) (message : String) : Except ConfigStoreError Unit :=
  if holds then .ok () else .error (.invalidConfig message)

def isMapIdChar (b : Build) (c : Char) : Bool :=
  match b with
  | .standalone => Text.isAsciiAlphanumeric c
  | .official | .local => Text.isAsciiAlphanumeric c || c == '-' || c == '_'

def validateLocalWeatherSettings (settings : WeatherSettingsRecord) :
    Except ConfigStoreError Unit :=
  require (1 ≤ settings.temperatureC && settings.temperatureC ≤ 30)
    "weather.temperature_c must be in range 1..=30"

/-- Every preset of a record is one that is specified. -/
def validateTimeOfDaySettings (_settings : TimeOfDaySettingsRecord) :
    Except ConfigStoreError Unit := .ok ()

def validateGhostMode (ghost : GhostModeSettings) : Except ConfigStoreError Unit := do
  require (0 ≤ ghost.enterSpeedMaxMps) "ghost_mode.enter_speed_max_mps must be finite and >= 0"
  require (0 ≤ ghost.exitSpeedMinMps) "ghost_mode.exit_speed_min_mps must be finite and >= 0"
  require (ghost.enterSpeedMaxMps ≤ ghost.exitSpeedMinMps)
    "ghost_mode.enter_speed_max_mps must be <= ghost_mode.exit_speed_min_mps"
  require (ghost.enterDelayMs ≤ maxGhostDelayMs)
    ("ghost_mode.enter_delay_ms must be <= " ++ toString maxGhostDelayMs)
  require (ghost.exitDelayMs ≤ maxGhostDelayMs)
    ("ghost_mode.exit_delay_ms must be <= " ++ toString maxGhostDelayMs)
  require (ghost.vehicleOverlapExitDelayMs ≤ maxGhostDelayMs)
    ("ghost_mode.vehicle_overlap_exit_delay_ms must be <= " ++ toString maxGhostDelayMs)
  require (ghost.untilCompletedLaps ≤ maxGhostUntilCompletedLaps)
    ("ghost_mode.until_completed_laps must be <= " ++ toString maxGhostUntilCompletedLaps)

def validateLocalSandboxConfigInput (b : Build) (input : LocalSandboxConfigInputRecord) :
    Except ConfigStoreError Unit := do
  let sandboxName := (Text.trim input.sandboxName).toList
  require (!sandboxName.isEmpty) "sandbox_name must be non-empty"
  require (sandboxName.length ≤ maxSandboxNameLenChars)
    ("sandbox_name must be at most " ++ toString maxSandboxNameLenChars ++ " characters")
  let mapId := (Text.trim input.mapId).toList
  require (!mapId.isEmpty) "map_id must be non-empty"
  require (mapId.all (isMapIdChar b)) "map_id contains invalid characters"
  validateTimeOfDaySettings input.timeOfDay
  validateLocalWeatherSettings input.weather
  match input.ghostMode with
  | none => return ()
  | some ghost => validateGhostMode ghost

/-! ## Changes -/

/-- What is done to the list of sandboxes. -/
inductive ConfigChange where
  | create (sandbox : LocalSandboxConfigRecord)
  | replace (sandbox : LocalSandboxConfigRecord)
  | delete (sandboxId : String)
  | setTimeOfDay (sandboxId : String) (timeOfDay : TimeOfDaySettingsRecord)
  | setWeather (sandboxId : String) (weather : WeatherSettingsRecord)
  | setSpawnMode (sandboxId : String) (spawnMode : SpawnModeRecord)

/-- Rewrites the first sandbox with the id. -/
def rewriteSandbox (sandboxId : String) (f : LocalSandboxConfigRecord → LocalSandboxConfigRecord)
    (sandboxes : List LocalSandboxConfigRecord) :
    Except ConfigStoreError (List LocalSandboxConfigRecord) :=
  if sandboxes.any fun entry => entry.sandboxId = sandboxId then
    .ok (KeyedList.updateFirst (·.sandboxId) sandboxId f sandboxes)
  else .error (.notFound sandboxId)

def editConfig (sandboxId : String)
    (f : LocalSandboxConfigInputRecord → LocalSandboxConfigInputRecord) :
    List LocalSandboxConfigRecord → Except ConfigStoreError (List LocalSandboxConfigRecord) :=
  rewriteSandbox sandboxId fun current => { current with config := f current.config }

def ConfigChange.apply (sandboxes : List LocalSandboxConfigRecord) :
    ConfigChange → Except ConfigStoreError (List LocalSandboxConfigRecord)
  | .create sandbox =>
      if sandboxes.any fun entry => entry.sandboxId = sandbox.sandboxId then
        .error (.alreadyExists sandbox.sandboxId)
      else .ok (sandboxes ++ [sandbox])
  | .replace sandbox => rewriteSandbox sandbox.sandboxId (fun _ => sandbox) sandboxes
  | .delete sandboxId =>
      let kept := sandboxes.filter fun entry => entry.sandboxId ≠ sandboxId
      if kept.length = sandboxes.length then .error (.notFound sandboxId) else .ok kept
  | .setTimeOfDay sandboxId timeOfDay =>
      editConfig sandboxId (fun config => { config with timeOfDay := timeOfDay }) sandboxes
  | .setWeather sandboxId weather =>
      editConfig sandboxId (fun config => { config with weather := weather }) sandboxes
  | .setSpawnMode sandboxId spawnMode =>
      editConfig sandboxId (fun config => { config with spawnMode := spawnMode }) sandboxes

def ensureExpectedRevision (expectedRevision currentRevision : ℕ) : Except ConfigStoreError Unit :=
  if expectedRevision = currentRevision then .ok ()
  else .error (.revisionMismatch expectedRevision currentRevision)

/-- The section of a change under the write lock. -/
def LocalSandboxConfigState.change (s : LocalSandboxConfigState) (expectedRevision : ℕ)
    (c : ConfigChange) : LocalSandboxConfigState × Except ConfigStoreError ℕ :=
  match ensureExpectedRevision expectedRevision s.revision with
  | .error err => (s, .error err)
  | .ok () =>
      match c.apply s.sandboxes with
      | .error err => (s, .error err)
      | .ok sandboxes =>
          let revision := saturatingAdd s.revision 1
          (⟨revision, sandboxes⟩, .ok revision)

/-! ## What a change keeps -/

abbrev Distinct (sandboxes : List LocalSandboxConfigRecord) : Prop :=
  (sandboxes.map (·.sandboxId)).Nodup

theorem Distinct.rewrite {sandboxes changed : List LocalSandboxConfigRecord} {sandboxId : String}
    {f : LocalSandboxConfigRecord → LocalSandboxConfigRecord} (h : Distinct sandboxes)
    (hf : ∀ entry, entry.sandboxId = sandboxId → (f entry).sandboxId = sandboxId)
    (hchanged : rewriteSandbox sandboxId f sandboxes = .ok changed) : Distinct changed := by
  unfold rewriteSandbox at hchanged
  split at hchanged
  · obtain rfl := Except.ok.inj hchanged
    rwa [Distinct, KeyedList.map_key_updateFirst hf]
  · cases hchanged

theorem Distinct.edit {sandboxes changed : List LocalSandboxConfigRecord} {sandboxId : String}
    {f : LocalSandboxConfigInputRecord → LocalSandboxConfigInputRecord} (h : Distinct sandboxes)
    (hchanged : editConfig sandboxId f sandboxes = .ok changed) : Distinct changed :=
  h.rewrite (f := fun current => { current with config := f current.config })
    (fun _ hentry => hentry) hchanged

/-- Every change keeps the ids of the sandboxes distinct. -/
theorem Distinct.apply {sandboxes changed : List LocalSandboxConfigRecord} {c : ConfigChange}
    (h : Distinct sandboxes) (hchanged : c.apply sandboxes = .ok changed) : Distinct changed := by
  cases c with
  | create sandbox =>
      simp only [ConfigChange.apply] at hchanged
      split at hchanged
      · cases hchanged
      · rename_i hnew
        obtain rfl := Except.ok.inj hchanged
        rw [Distinct, List.map_append, List.nodup_append]
        refine ⟨h, List.nodup_singleton _, ?_⟩
        rintro id hid id' hid' rfl
        obtain ⟨entry, hentry, rfl⟩ := List.mem_map.mp hid
        have hsame : entry.sandboxId = sandbox.sandboxId := by simpa using hid'
        exact hnew (List.any_eq_true.mpr ⟨entry, hentry, by simpa using hsame⟩)
  | replace sandbox => exact h.rewrite (fun _ _ => rfl) hchanged
  | delete sandboxId =>
      simp only [ConfigChange.apply] at hchanged
      split at hchanged
      · cases hchanged
      · obtain rfl := Except.ok.inj hchanged
        exact KeyedList.nodup_map_filter h
  | setTimeOfDay sandboxId timeOfDay =>
      exact h.edit (f := fun config => { config with timeOfDay := timeOfDay }) hchanged
  | setWeather sandboxId weather =>
      exact h.edit (f := fun config => { config with weather := weather }) hchanged
  | setSpawnMode sandboxId spawnMode =>
      exact h.edit (f := fun config => { config with spawnMode := spawnMode }) hchanged

variable (s : LocalSandboxConfigState) (expectedRevision : ℕ) (c : ConfigChange)

/-- A change is refused and does nothing, or it finds the revision that it
expects and raises it. -/
theorem change_cases :
    (∃ err, s.change expectedRevision c = (s, .error err)) ∨
      ∃ sandboxes, expectedRevision = s.revision ∧ c.apply s.sandboxes = .ok sandboxes ∧
        s.change expectedRevision c =
          (⟨saturatingAdd s.revision 1, sandboxes⟩, .ok (saturatingAdd s.revision 1)) := by
  unfold LocalSandboxConfigState.change ensureExpectedRevision
  by_cases hrevision : expectedRevision = s.revision
  · rw [if_pos hrevision]
    cases happly : c.apply s.sandboxes with
    | error err => exact Or.inl ⟨err, rfl⟩
    | ok sandboxes => exact Or.inr ⟨sandboxes, hrevision, rfl, rfl⟩
  · rw [if_neg hrevision]
    exact Or.inl ⟨_, rfl⟩

theorem change_distinct (h : Distinct s.sandboxes) :
    Distinct (s.change expectedRevision c).1.sandboxes := by
  rcases change_cases s expectedRevision c with ⟨err, hrefused⟩ | ⟨sandboxes, -, happly, hchanged⟩
  · rwa [hrefused]
  · rw [hchanged]
    exact h.apply happly

end HackArena.Local.SandboxConfig
