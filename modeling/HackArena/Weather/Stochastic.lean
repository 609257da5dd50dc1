import HackArena.Weather.Forecast

/-!
# Forecasts with noise

Every point of a forecast is changed at random, the more the farther ahead
it is. Points that have been published stay until the next slot begins.
-/

namespace HackArena.Weather

open Boink Domain HackArena.Admin

/-! ## Profiles -/

structure StochasticProfile where
  maxRainDelta : F32
  typeMismatchChance : F32
  maxTempDeltaC : F32

def lerp (start stop t : F32) : F32 := start + (stop - start) * t

def oneHourStochasticProfile : (bucketIdx : ℕ) → StochasticProfile
  | 0 => ⟨2 / 100, 0, 6 / 10⟩
  | 1 => ⟨3 / 100, 0, 9 / 10⟩
  | 2 => ⟨4 / 100, 3 / 100, 12 / 10⟩
  | 3 => ⟨5 / 100, 6 / 100, 16 / 10⟩
  | _ => ⟨6 / 100, 10 / 100, 2⟩

/-- `powf` is the power function on floats. -/
def twelveHoursStochasticProfile (powf : F32 → F32 → F32) (bucketIdx : ℕ) : StochasticProfile :=
  if bucketIdx = 0 then oneHourStochasticProfile 3
  else
    let progress := clampF32 (((min bucketIdx 12 - 1 : ℕ) : F32) / 11) 0 1
    let easedProgress := powf progress (23 / 10)
    let blendedProgress := clampF32 (35 / 100 * progress + (1 - 35 / 100) * easedProgress) 0 1
    let reference := oneHourStochasticProfile 4
    ⟨lerp reference.maxRainDelta (66 / 100) blendedProgress,
      lerp reference.typeMismatchChance (66 / 100) blendedProgress,
      lerp reference.maxTempDeltaC 6 blendedProgress⟩

def stochasticProfile (powf : F32 → F32 → F32) (preset : ForecastPreset) (bucketIdx : ℕ) :
    StochasticProfile :=
  match preset with
  | .oneHourStep15Min => oneHourStochasticProfile bucketIdx
  | .twelveHoursStep1Hour => twelveHoursStochasticProfile powf bucketIdx
  | .unspecified => ⟨0, 0, 0⟩

/-! ## Choosing a type -/

/-- What the generator of random numbers yields for one point. -/
structure Draws where
  rain : F32
  mismatch : Bool
  roll : ℕ
  temperature : F32

/-- `gen_range` over a closed range. -/
def genRange (lo hi drawn : F32) : F32 := max lo (min hi drawn)

def rainProbabilityBoundsForType : WeatherType → F32 × F32
  | .unspecified | .clear => (0, 1 / 4)
  | .partlyCloudy => (0, 4 / 10)
  | .overcast => (0, 1 / 2)
  | .lightRain | .mediumRain | .heavyRain => (1 / 2, 1)

def isTypeCompatibleWithProbability (weatherType : WeatherType) (rainProbability : F32) : Bool :=
  let bounds := rainProbabilityBoundsForType weatherType
  bounds.1 ≤ rainProbability && rainProbability ≤ bounds.2

def transitionCandidatesForType : WeatherType → List (WeatherType × ℕ)
  | .unspecified => [(.clear, 100)]
  | .clear => [(.partlyCloudy, 100)]
  | .partlyCloudy => [(.clear, 45), (.overcast, 45), (.lightRain, 10)]
  | .overcast => [(.partlyCloudy, 40), (.lightRain, 40), (.mediumRain, 20)]
  | .lightRain => [(.overcast, 40), (.mediumRain, 40), (.partlyCloudy, 15), (.heavyRain, 5)]
  | .mediumRain => [(.lightRain, 45), (.heavyRain, 35), (.overcast, 20)]
  | .heavyRain => [(.mediumRain, 100)]

def fallbackTypeForProbability (rainProbability : F32) : WeatherType :=
  if 1 / 2 ≤ rainProbability then .lightRain
  else if 5 / 100 ≤ rainProbability then .overcast
  else if 1 / 100 ≤ rainProbability then .partlyCloudy
  else .clear

def weatherTypeRank : WeatherType → ℕ
  | .unspecified | .clear => 0
  | .partlyCloudy => 1
  | .overcast => 2
  | .lightRain => 3
  | .mediumRain => 4
  | .heavyRain => 5

def weatherTypeDistance (a b : WeatherType) : ℕ :=
  max (weatherTypeRank a) (weatherTypeRank b) - min (weatherTypeRank a) (weatherTypeRank b)

def penaltyPct : (distance : ℕ) → ℕ
  | 0 => 100
  | 1 => 80
  | 2 => 35
  | _ => 10

def applySmoothingPenalty (candidates : List (WeatherType × ℕ)) :
    (prevOutputType : Option WeatherType) → List (WeatherType × ℕ)
  | none => candidates
  | some prevType => candidates.map fun candidate =>
      let adjusted := max (candidate.2 * penaltyPct (weatherTypeDistance prevType candidate.1)) 1 / 100
      (candidate.1, max adjusted 1)

/-- The candidate in whose share the roll falls. -/
def pickRolled : (candidates : List (WeatherType × ℕ)) → (roll : ℕ) → Option WeatherType
  | [], _ => none
  | (weatherType, weight) :: rest, roll =>
      if roll < weight then some weatherType else pickRolled rest (roll - weight)

def pickWeightedWeatherType (candidates : List (WeatherType × ℕ)) (roll : ℕ) : WeatherType :=
  let totalWeight := (candidates.map (·.2)).sum
  if totalWeight = 0 then .unspecified
  else match pickRolled candidates (roll % totalWeight) with
    | some weatherType => weatherType
    | none => (candidates.getLast?.map (·.1)).getD .unspecified

def chooseWeatherTypeForProbability (baseType : WeatherType) (rainProbability : F32)
    (profile : StochasticProfile) (prevOutputType : Option WeatherType) (draws : Draws) :
    WeatherType :=
  let compatible := (transitionCandidatesForType baseType).filter fun candidate =>
    isTypeCompatibleWithProbability candidate.1 rainProbability
  let smoothed := applySmoothingPenalty compatible prevOutputType
  if isTypeCompatibleWithProbability baseType rainProbability then
    if profile.typeMismatchChance ≤ 0 || !draws.mismatch then baseType
    else if compatible.isEmpty then baseType
    else pickWeightedWeatherType smoothed draws.roll
  else if !compatible.isEmpty then pickWeightedWeatherType smoothed draws.roll
  else fallbackTypeForProbability rainProbability

/-! ## Points -/

def cohereRainProbabilityAndType (point : ProtoForecastPoint) : ProtoForecastPoint :=
  let rainProbability := clampF32 point.rainProbability 0 1
  let bounds := rainProbabilityBoundsForType point.weatherType
  { point with rainProbability := clampF32 rainProbability bounds.1 bounds.2 }

def stochasticizePoint (powf : F32 → F32 → F32) (base : ProtoForecastPoint)
    (preset : ForecastPreset) (bucketIdx : ℕ) (prevOutputType : Option WeatherType)
    (draws : Draws) : ProtoForecastPoint :=
  let profile := stochasticProfile powf preset bucketIdx
  let rainDelta := genRange (-profile.maxRainDelta) profile.maxRainDelta draws.rain
  let rainProbability := clampF32 (base.rainProbability + rainDelta) 0 1
  let stochasticType := chooseWeatherTypeForProbability base.weatherType rainProbability profile
    prevOutputType draws
  let tempDeltaC := genRange (-profile.maxTempDeltaC) profile.maxTempDeltaC draws.temperature
  let baseTemperatureC := clampScheduleTemperatureC base.temperatureC
  let temperatureC := clampScheduleTemperatureC (roundF32 ((baseTemperatureC : F32) + tempDeltaC))
  cohereRainProbabilityAndType ⟨base.time, stochasticType, rainProbability, temperatureC⟩

def forecastPointTimeMs (point : ProtoForecastPoint) : Option ℤ := do
  let timestamp ← point.time
  let secondsMs ← checkedI64 (timestamp.seconds * 1000)
  checkedI64 (secondsMs + timestamp.nanos.tdiv 1000000)

def stochasticStepMs : ForecastPreset → Option ℤ
  | .oneHourStep15Min => some (15 * minuteMs)
  | .twelveHoursStep1Hour => some hourMs
  | .unspecified => none

/-- What was published for the time of a point: the last one, if there are
several. -/
def publishedFor (previousPoints : List ProtoForecastPoint) (point : ProtoForecastPoint) :
    Option ProtoForecastPoint := do
  let timeMs ← forecastPointTimeMs point
  previousPoints.reverse.find? fun prev => forecastPointTimeMs prev = some timeMs

/-- The loop of `stochasticize_forecast_points`; `reuse` says whether points
other than the first may stay as they are. -/
def stochasticizeFrom (powf : F32 → F32 → F32) (previousPoints : List ProtoForecastPoint)
    (preset : ForecastPreset) (draws : ℕ → Draws) (reuse : Bool) :
    (idx : ℕ) → (prevOutputType : Option WeatherType) → List ProtoForecastPoint →
      List ProtoForecastPoint
  | _, _, [] => []
  | idx, prevOutputType, point :: rest =>
      let published := if 0 < idx ∧ reuse then publishedFor previousPoints point else none
      let out := published.getD
        (stochasticizePoint powf point preset idx prevOutputType (draws idx))
      out :: stochasticizeFrom powf previousPoints preset draws reuse (idx + 1)
        (some out.weatherType) rest

def stochasticizeForecastPoints (powf : F32 → F32 → F32)
    (baselinePoints previousPoints : List ProtoForecastPoint) (preset : ForecastPreset)
    (nowMs : ℤ) (draws : ℕ → Draws) (allowNonFirstBucketReuse : Bool) :
    List ProtoForecastPoint :=
  let stepMs := (stochasticStepMs preset).getD minuteMs
  let isStepBoundary := nowMs % stepMs = 0
  stochasticizeFrom powf previousPoints preset draws (allowNonFirstBucketReuse && !isStepBoundary)
    0 none baselinePoints

end HackArena.Weather
