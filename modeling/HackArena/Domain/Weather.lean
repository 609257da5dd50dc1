import HackArena.Boink
import Mathlib.Data.List.TakeWhile

/-!
# The weather schedule

A schedule is a list of entries ordered by start time; the entry in force
at a time is the last one that has started.
-/

namespace HackArena.Domain

open Boink

inductive WeatherType where
  | unspecified | clear | partlyCloudy | overcast | lightRain | mediumRain | heavyRain
  deriving DecidableEq, Repr

structure ScheduleEntry where
  startsAtMs : ℤ
  weatherType : WeatherType
  temperatureC : ℤ
  deriving DecidableEq, Repr

structure EngineWeatherParams where
  cloudiness : F32
  temperatureC : F32
  rainIntensity : F32
  deriving DecidableEq, Repr

def engineParamsForWeatherType : WeatherType → EngineWeatherParams
  | .unspecified | .clear => ⟨0, 20, 0⟩
  | .partlyCloudy => ⟨1 / 2, 18, 0⟩
  | .overcast => ⟨1, 16, 0⟩
  | .lightRain => ⟨4 / 5, 15, 3 / 10⟩
  | .mediumRain => ⟨19 / 20, 14, 3 / 5⟩
  | .heavyRain => ⟨1, 13, 17 / 20⟩

/-- The number of leading entries that satisfy `p`; on an ordered schedule
this is where `partition_point` ends. -/
def partitionPoint (p : ScheduleEntry → Bool) (entries : List ScheduleEntry) : ℕ :=
  (entries.takeWhile p).length

def weatherAt (entries : List ScheduleEntry) (timeMs : ℤ) : Option ScheduleEntry :=
  match partitionPoint (fun entry => decide (entry.startsAtMs ≤ timeMs)) entries with
  | 0 => none
  | idx + 1 => entries[idx]?

def weatherTypeAt (entries : List ScheduleEntry) (timeMs : ℤ) : Option WeatherType :=
  (weatherAt entries timeMs).map (·.weatherType)

end HackArena.Domain
