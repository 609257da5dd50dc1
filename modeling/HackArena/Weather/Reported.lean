import HackArena.Runtime.WeatherSync
import HackArena.Weather.ScheduleAdmin

/-!
# The reported and the simulated weather

The weather that is reported is read off the entry in force; the engine is
given what belongs to the weather type of that entry. The temperatures are
the same only if the entry has the temperature of its type.
-/

namespace HackArena.Weather

open Boink Domain HackArena.Admin HackArena.Services
open HackArena.Runtime (WeatherSync.applyWeatherFromSchedule WeatherSync.paramsFor
  WeatherSync.resolve)

structure WeatherNow where
  weatherType : WeatherType
  temperatureC : ℤ
  deriving DecidableEq

def officialWeatherNowFromSchedule (schedule : List ScheduleEntry) (nowMs : ℤ) : WeatherNow :=
  match weatherAt schedule nowMs with
  | some entry => ⟨entry.weatherType, clampScheduleTemperatureC entry.temperatureC⟩
  | none => ⟨.unspecified, temperatureCForWeatherType .unspecified⟩

/-- The weather of an engine, with the type that was applied to it last. -/
structure AppliedWeather where
  lastApplied : Option WeatherType
  weather : WeatherParams
  held : ∀ weatherType, lastApplied = some weatherType →
    weather = WeatherSync.paramsFor weatherType

/-- Nothing has been applied yet. -/
def AppliedWeather.fresh (weather : WeatherParams) : AppliedWeather := ⟨none, weather, nofun⟩

theorem apply_weather (s : AppliedWeather) (schedule : List ScheduleEntry) (nowMs : ℤ) :
    let r := WeatherSync.applyWeatherFromSchedule (.ok schedule) nowMs (.ok ()) s.lastApplied
      s.weather
    r.1 = some (WeatherSync.resolve schedule nowMs) ∧
      r.2.1 = WeatherSync.paramsFor (WeatherSync.resolve schedule nowMs) := by
  unfold WeatherSync.applyWeatherFromSchedule
  dsimp only
  split
  · rename_i hlast
    exact ⟨hlast, s.held _ hlast⟩
  · exact ⟨rfl, rfl⟩

/-- The engine after `apply_weather_from_schedule`. -/
def AppliedWeather.apply (s : AppliedWeather) (schedule : List ScheduleEntry) (nowMs : ℤ) :
    AppliedWeather where
  lastApplied := (WeatherSync.applyWeatherFromSchedule (.ok schedule) nowMs (.ok ()) s.lastApplied
    s.weather).1
  weather := (WeatherSync.applyWeatherFromSchedule (.ok schedule) nowMs (.ok ()) s.lastApplied
    s.weather).2.1
  held weatherType h := by
    obtain ⟨htype, hweather⟩ := apply_weather s schedule nowMs
    rw [htype] at h
    rw [hweather, Option.some.inj h]

/-- The weather is what is reported: clouds and rain are those of the type,
and the temperature is the same. -/
structure Simulates (weather : WeatherParams) (now : WeatherNow) : Prop where
  cloudiness : weather.cloudiness = (engineParamsForWeatherType now.weatherType).cloudiness
  rainIntensity :
    weather.rainIntensity = (engineParamsForWeatherType now.weatherType).rainIntensity
  temperature : weather.temperatureC = now.temperatureC

theorem simulates_paramsFor_iff (weatherType : WeatherType) (temperatureC : ℤ) :
    Simulates (WeatherSync.paramsFor weatherType) ⟨weatherType, temperatureC⟩ ↔
      temperatureC = temperatureCForWeatherType weatherType := by
  constructor
  · intro h
    have htemperature : (engineParamsForWeatherType weatherType).temperatureC = temperatureC :=
      h.temperature
    rw [← cast_temperatureCForWeatherType] at htemperature
    exact_mod_cast htemperature.symm
  · rintro rfl
    exact ⟨rfl, rfl, (cast_temperatureCForWeatherType weatherType).symm⟩

/-- The engine is given the reported weather exactly at the times at which
no entry is in force or the entry has the temperature of its type. -/
theorem reported_simulated_iff {appEnv : AppEnv} {isAdmin : Except Status Bool}
    {fails : Option String} {table schedule : List ScheduleEntry}
    {request : List ProtoScheduleEntry}
    (h : replaceWeatherSchedule appEnv isAdmin fails table request = (schedule, .ok ()))
    (s : AppliedWeather) (nowMs : ℤ) :
    Simulates (s.apply schedule nowMs).weather (officialWeatherNowFromSchedule schedule nowMs) ↔
      ∀ entry, weatherAt schedule nowMs = some entry →
        entry.temperatureC = temperatureCForWeatherType entry.weatherType := by
  have hweather : (s.apply schedule nowMs).weather =
      WeatherSync.paramsFor (WeatherSync.resolve schedule nowMs) :=
    (apply_weather s schedule nowMs).2
  rw [hweather, officialWeatherNowFromSchedule, WeatherSync.resolve, weatherTypeAt]
  cases hentry : weatherAt schedule nowMs with
  | none =>
      have hclear : Simulates (WeatherSync.paramsFor .clear)
          ⟨.unspecified, temperatureCForWeatherType .unspecified⟩ :=
        (simulates_paramsFor_iff .unspecified _).mpr rfl
      exact iff_of_true hclear fun _ h => by cases h
  | some entry =>
      have hvalid := (accepted_of_replaced h).temperatures entry (weatherAt_mem hentry)
      change Simulates (WeatherSync.paramsFor entry.weatherType)
        ⟨entry.weatherType, clampScheduleTemperatureC entry.temperatureC⟩ ↔ _
      rw [simulates_paramsFor_iff, clamp_of_valid hvalid]
      constructor
      · intro htemperature other hother
        rw [← Option.some.inj hother]
        exact htemperature
      · intro hall
        exact hall entry rfl

namespace ColdClearDay

/-- One entry, clear and five degrees. -/
def request : List ProtoScheduleEntry := [⟨some ⟨0, 0⟩, some .clear, 5⟩]

def schedule : List ScheduleEntry := [⟨0, .clear, 5⟩]

theorem accepted : replaceWeatherSchedule .production (.ok true) none [] request =
    (schedule, .ok ()) := by decide

/-- Five degrees are reported, while the engine is given twenty. -/
theorem not_simulated :
    replaceWeatherSchedule .production (.ok true) none [] request = (schedule, .ok ()) ∧
      ¬ Simulates ((AppliedWeather.fresh ⟨0, 20, 0⟩).apply schedule 0).weather
        (officialWeatherNowFromSchedule schedule 0) := by
  refine ⟨accepted, fun h => ?_⟩
  have htemperature : (20 : F32) = 5 := h.temperature
  norm_num at htemperature

/-- The cold is over when the rain starts. -/
def rainyRequest : List ProtoScheduleEntry := request ++ [⟨some ⟨60, 0⟩, some .mediumRain, 14⟩]

def rainySchedule : List ScheduleEntry := schedule ++ [⟨60000, .mediumRain, 14⟩]

/-- The rain falls at the temperature of its type; before the first entry
nothing is in force. -/
theorem simulated_in_rain :
    Simulates ((AppliedWeather.fresh ⟨0, 20, 0⟩).apply rainySchedule 60000).weather
        (officialWeatherNowFromSchedule rainySchedule 60000) ∧
      Simulates ((AppliedWeather.fresh ⟨0, 20, 0⟩).apply rainySchedule (-1)).weather
        (officialWeatherNowFromSchedule rainySchedule (-1)) := by
  have haccepted : replaceWeatherSchedule .production (.ok true) none [] rainyRequest =
      (rainySchedule, .ok ()) := by decide
  constructor
  · refine (reported_simulated_iff haccepted (.fresh ⟨0, 20, 0⟩) 60000).mpr fun entry hentry => ?_
    obtain rfl : ⟨60000, .mediumRain, 14⟩ = entry := Option.some.inj hentry
    decide +kernel
  · exact (reported_simulated_iff haccepted (.fresh ⟨0, 20, 0⟩) (-1)).mpr nofun

end ColdClearDay

end HackArena.Weather
