import HackArena.Local.LocalRaceState
import HackArena.Local.SandboxConfig
import HackArena.Services.Status

/-!
# Local sandbox configurations in requests

Requests carry configurations as messages, the store keeps them as
records, and the engine has types of its own. The service and the store
check messages alike and word their errors differently.
-/

namespace HackArena.Local.SandboxConfig

open Boink HackArena.Runtime HackArena.Services

/-! ## Messages -/

inductive LocalSandboxSpawnMode where
  | unspecified | startLine | randomOnTrack | inPit | randomStartSlot
  deriving DecidableEq, Repr

structure LocalSandboxConfigInput where
  sandboxName : String
  mapId : String
  timeOfDay : Option LocalTimeOfDaySettings
  ghostMode : Option GhostModeSettings
  weather : Option LocalWeatherSettings
  spawnMode : Raw LocalSandboxSpawnMode
  deriving DecidableEq, Repr

structure LocalSandboxConfig where
  sandboxId : String
  config : Option LocalSandboxConfigInput
  deriving DecidableEq, Repr

/-! ## From messages -/

section FromProto

variable {ε : Type} (invalid : String → ε)

/-- An enumeration with a number that is known. -/
def enumFromI32 {α : Type} (field : String) : Raw α → Except ε α
  | none => .error (invalid ("invalid " ++ field))
  | some value => .ok value

def timeOfDayModeFromProto : LocalTimeOfDayMode → Except ε TimeOfDayMode
  | .fixedPreset => .ok .fixedPreset
  | .autoByLocalTime => .ok .autoByLocalTime
  | .unspecified => .error (invalid "time_of_day.mode must be specified")

/-- Only in the fixed mode does the preset have to be specified. -/
def fixedPresetFromProto (mode : TimeOfDayMode) :
    EngineRuntimeTimeOfDayPreset → Except ε RuntimeTimeOfDayPresetRecord
  | .unspecified => match mode with
      | .fixedPreset =>
          .error (invalid "time_of_day.fixed_preset must be specified for fixed mode")
      | .autoByLocalTime => .ok .noon
  | .morning => .ok .morning
  | .noon => .ok .noon
  | .evening => .ok .evening
  | .night => .ok .night

def timeOfDayFromProto (proto : LocalTimeOfDaySettings) : Except ε TimeOfDaySettingsRecord := do
  let mode ← enumFromI32 invalid "time_of_day.mode" proto.mode
  let mode ← timeOfDayModeFromProto invalid mode
  let fixedPreset ← enumFromI32 invalid "time_of_day.fixed_preset" proto.fixedPreset
  let fixedPreset ← fixedPresetFromProto invalid mode fixedPreset
  return ⟨mode, fixedPreset⟩

def weatherTypeFromProto : Domain.WeatherType → Except ε WeatherTypeRecord
  | .clear => .ok .clear
  | .partlyCloudy => .ok .partlyCloudy
  | .overcast => .ok .overcast
  | .lightRain => .ok .lightRain
  | .mediumRain => .ok .mediumRain
  | .heavyRain => .ok .heavyRain
  | .unspecified => .error (invalid "weather.weather_type must be specified")

def weatherFromProto (proto : LocalWeatherSettings) : Except ε WeatherSettingsRecord := do
  let weatherType ← enumFromI32 invalid "weather.weather_type" proto.weatherType
  let weatherType ← weatherTypeFromProto invalid weatherType
  return ⟨weatherType, proto.temperatureC⟩

def spawnModeFromProto : LocalSandboxSpawnMode → Except ε SpawnModeRecord
  | .startLine => .ok .startLine
  | .randomOnTrack => .ok .randomOnTrack
  | .inPit => .ok .inPit
  | .randomStartSlot => .ok .randomStartSlot
  | .unspecified => .error (invalid "spawn_mode must be specified")

def spawnModeFromProtoValue (value : Raw LocalSandboxSpawnMode) : Except ε SpawnModeRecord := do
  let mode ← enumFromI32 invalid "spawn_mode" value
  spawnModeFromProto invalid mode

def requireField {α : Type} (field : String) : Option α → Except ε α
  | none => .error (invalid (field ++ " is required"))
  | some value => .ok value

end FromProto

def invalidArgumentStatus (message : String) : Status := ⟨.invalidArgument, message⟩

/-! ### In the service -/

def localTimeOfDayFromProto : LocalTimeOfDaySettings → Except Status TimeOfDaySettingsRecord :=
  timeOfDayFromProto invalidArgumentStatus

def localWeatherFromProto : LocalWeatherSettings → Except Status WeatherSettingsRecord :=
  weatherFromProto invalidArgumentStatus

def localSpawnModeFromProtoValue : Raw LocalSandboxSpawnMode → Except Status SpawnModeRecord :=
  spawnModeFromProtoValue invalidArgumentStatus

/-! ### In the store -/

/-- The speeds are checked here, the delays when the record is validated. -/
def localGhostModeFromProto (proto : GhostModeSettings) :
    Except ConfigStoreError GhostModeSettings := do
  require (0 ≤ proto.enterSpeedMaxMps) "ghost_mode.enter_speed_max_mps must be finite and >= 0"
  require (0 ≤ proto.exitSpeedMinMps) "ghost_mode.exit_speed_min_mps must be finite and >= 0"
  require (proto.enterSpeedMaxMps ≤ proto.exitSpeedMinMps)
    "ghost_mode.enter_speed_max_mps must be <= ghost_mode.exit_speed_min_mps"
  return proto

def localGhostModeOptFromProto :
    Option GhostModeSettings → Except ConfigStoreError (Option GhostModeSettings)
  | none => .ok none
  | some proto => (localGhostModeFromProto proto).map some

def localSandboxInputFromProto (b : Build) (input : LocalSandboxConfigInput) :
    Except ConfigStoreError LocalSandboxConfigInputRecord := do
  let timeOfDay ← requireField .invalidConfig "time_of_day" input.timeOfDay
  let timeOfDay ← timeOfDayFromProto .invalidConfig timeOfDay
  let weather ← requireField .invalidConfig "weather" input.weather
  let weather ← weatherFromProto .invalidConfig weather
  let spawnMode ← spawnModeFromProtoValue .invalidConfig input.spawnMode
  let ghostMode ← localGhostModeOptFromProto input.ghostMode
  let record : LocalSandboxConfigInputRecord :=
    ⟨input.sandboxName, input.mapId, timeOfDay, ghostMode, weather, spawnMode⟩
  validateLocalSandboxConfigInput b record
  return record

/-! ## To messages -/

def TimeOfDayMode.toProto : TimeOfDayMode → LocalTimeOfDayMode
  | .fixedPreset => .fixedPreset
  | .autoByLocalTime => .autoByLocalTime

/-- The presets of messages are those of the engine. -/
def RuntimeTimeOfDayPresetRecord.toEngine :
    RuntimeTimeOfDayPresetRecord → EngineRuntimeTimeOfDayPreset
  | .morning => .morning
  | .noon => .noon
  | .evening => .evening
  | .night => .night

def localTimeOfDayToProto (settings : TimeOfDaySettingsRecord) : LocalTimeOfDaySettings :=
  ⟨some settings.mode.toProto, some settings.fixedPreset.toEngine⟩

def WeatherTypeRecord.toProto : WeatherTypeRecord → Domain.WeatherType
  | .clear => .clear
  | .partlyCloudy => .partlyCloudy
  | .overcast => .overcast
  | .lightRain => .lightRain
  | .mediumRain => .mediumRain
  | .heavyRain => .heavyRain

def localWeatherToProto (settings : WeatherSettingsRecord) : LocalWeatherSettings :=
  ⟨some settings.weatherType.toProto, settings.temperatureC⟩

def localSpawnModeToProto : SpawnModeRecord → LocalSandboxSpawnMode
  | .startLine => .startLine
  | .randomOnTrack => .randomOnTrack
  | .inPit => .inPit
  | .randomStartSlot => .randomStartSlot

def localSandboxInputToProto (input : LocalSandboxConfigInputRecord) : LocalSandboxConfigInput where
  sandboxName := input.sandboxName
  mapId := input.mapId
  timeOfDay := some (localTimeOfDayToProto input.timeOfDay)
  ghostMode := input.ghostMode
  weather := some (localWeatherToProto input.weather)
  spawnMode := some (localSpawnModeToProto input.spawnMode)

def localSandboxToProto (record : LocalSandboxConfigRecord) : LocalSandboxConfig :=
  ⟨record.sandboxId, some (localSandboxInputToProto record.config)⟩

/-! ## To the engine -/

/-- The mode is not looked at. -/
def resolveRuntimeTimeOfDayPreset (timeOfDay : TimeOfDaySettingsRecord) :
    EngineRuntimeTimeOfDayPreset := timeOfDay.fixedPreset.toEngine

def weatherParamsFromLocal (weather : WeatherSettingsRecord) : WeatherParams :=
  let params := Domain.engineParamsForWeatherType weather.weatherType.toProto
  ⟨params.cloudiness, weather.temperatureC, params.rainIntensity⟩

def WeatherTypeRecord.toRuntime : WeatherTypeRecord → EngineRuntimeWeatherType
  | .clear => .clear
  | .partlyCloudy => .partlyCloudy
  | .overcast => .overcast
  | .lightRain => .lightRain
  | .mediumRain => .mediumRain
  | .heavyRain => .heavyRain

def runtimeWeatherNowFromLocal (weather : WeatherSettingsRecord) : EngineRuntimeWeatherNow :=
  ⟨weather.weatherType.toRuntime, weather.temperatureC⟩

def engineGhostModeSettingsFromLocalRecord : Option GhostModeSettings → GhostModeSettings
  | none => defaultGhostModeSettings
  | some record => record

/-! ## Errors -/

def mapStoreErr (err : ConfigStoreError) : Status :=
  match err with
  | .revisionMismatch .. => ⟨.failedPrecondition, err.text⟩
  | .alreadyExists _ => ⟨.alreadyExists, err.text⟩
  | .notFound _ => ⟨.notFound, err.text⟩
  | .invalidConfig _ => ⟨.invalidArgument, err.text⟩
  | .io _ | .serde _ => ⟨.internal, err.text⟩

/-! ## There and back -/

section RoundTrips

variable {ε : Type} (invalid : String → ε)

@[simp] theorem timeOfDayFromProto_toProto (settings : TimeOfDaySettingsRecord) :
    timeOfDayFromProto invalid (localTimeOfDayToProto settings) = .ok settings := by
  obtain ⟨mode, fixedPreset⟩ := settings
  cases mode <;> cases fixedPreset <;> rfl

@[simp] theorem weatherFromProto_toProto (settings : WeatherSettingsRecord) :
    weatherFromProto invalid (localWeatherToProto settings) = .ok settings := by
  obtain ⟨weatherType, temperatureC⟩ := settings
  cases weatherType <;> rfl

@[simp] theorem spawnModeFromProtoValue_toProto (spawnMode : SpawnModeRecord) :
    spawnModeFromProtoValue invalid (some (localSpawnModeToProto spawnMode)) = .ok spawnMode := by
  cases spawnMode <;> rfl

end RoundTrips

theorem require_bind_eq_ok {α : Type} {holds : Bool} {message : String}
    {f : Unit → Except ConfigStoreError α} {a : α} :
    (require holds message >>= f) = .ok a ↔ holds = true ∧ f () = .ok a := by
  cases holds with
  | true => exact ⟨fun h => ⟨rfl, h⟩, fun h => h.2⟩
  | false => exact ⟨nofun, nofun⟩

/-- The speeds of ghost settings that are valid pass their own check. -/
theorem localGhostModeFromProto_of_valid {ghost : GhostModeSettings}
    (h : validateGhostMode ghost = .ok ()) : localGhostModeFromProto ghost = .ok ghost := by
  unfold validateGhostMode at h
  obtain ⟨henter, h⟩ := require_bind_eq_ok.mp h
  obtain ⟨hexit, h⟩ := require_bind_eq_ok.mp h
  obtain ⟨hordered, -⟩ := require_bind_eq_ok.mp h
  unfold localGhostModeFromProto
  rw [henter, hexit, hordered]
  rfl

theorem localGhostModeOptFromProto_of_valid {b : Build} {input : LocalSandboxConfigInputRecord}
    (h : validateLocalSandboxConfigInput b input = .ok ()) :
    localGhostModeOptFromProto input.ghostMode = .ok input.ghostMode := by
  unfold validateLocalSandboxConfigInput at h
  obtain ⟨-, h⟩ := require_bind_eq_ok.mp h
  obtain ⟨-, h⟩ := require_bind_eq_ok.mp h
  obtain ⟨-, h⟩ := require_bind_eq_ok.mp h
  obtain ⟨-, h⟩ := require_bind_eq_ok.mp h
  obtain ⟨-, h⟩ := require_bind_eq_ok.mp h
  cases hghost : input.ghostMode with
  | none => rfl
  | some ghost =>
      rw [hghost] at h
      rw [localGhostModeOptFromProto, localGhostModeFromProto_of_valid h]
      rfl

/-- A record that is valid is what its message is read as. -/
theorem localSandboxInputFromProto_toProto {b : Build} {input : LocalSandboxConfigInputRecord}
    (h : validateLocalSandboxConfigInput b input = .ok ()) :
    localSandboxInputFromProto b (localSandboxInputToProto input) = .ok input := by
  have hghost := localGhostModeOptFromProto_of_valid h
  obtain ⟨sandboxName, mapId, timeOfDay, ghostMode, weather, spawnMode⟩ := input
  simp only [localSandboxInputFromProto, localSandboxInputToProto, requireField,
    timeOfDayFromProto_toProto, weatherFromProto_toProto, spawnModeFromProtoValue_toProto, bind,
    Except.bind]
  dsimp only at hghost
  rw [hghost]
  dsimp only
  rw [h]
  rfl

end HackArena.Local.SandboxConfig
