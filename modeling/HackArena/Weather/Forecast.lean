import HackArena.Admin.System
import HackArena.Weather.Schedule

/-!
# Forecasts

A forecast begins at a start time and goes on at the boundaries of its
slots. What is said of a slot is summed up over the stretches of the
schedule that lie in it.
-/

namespace HackArena.Weather

open Boink Domain HackArena.Admin HackArena.Services

def hourMs : ℤ := 60 * 60 * 1000
def minuteMs : ℤ := 60 * 1000

inductive ForecastPreset where
  | unspecified | oneHourStep15Min | twelveHoursStep1Hour
  deriving DecidableEq, Repr

structure ForecastPoint where
  timeMs : ℤ
  weatherType : WeatherType
  deriving DecidableEq

def clampF32 (x lo hi : F32) : F32 := if x < lo then lo else if hi < x then hi else x

def isRainType : WeatherType → Bool
  | .lightRain | .mediumRain | .heavyRain => true
  | _ => false

/-! ## Windows -/

section Windows

variable {α σ : Type}

/-- The loop over a window: `add` takes in what is in force from one time to
another, and the entries that are left tell what comes next. -/
def foldWindow (value : ScheduleEntry → α) (add : σ → α → ℤ → ℤ → σ) (endMs : ℤ) :
    List ScheduleEntry → (cursor : ℤ) → (current : α) → σ → σ
  | [], cursor, current, acc =>
      if cursor < endMs then add acc current cursor endMs else acc
  | entry :: rest, cursor, current, acc =>
      if cursor < endMs then
        let nextChange := min entry.startsAtMs endMs
        let acc := if cursor < nextChange then add acc current cursor nextChange else acc
        if endMs ≤ nextChange then acc
        else foldWindow value add endMs rest nextChange (value entry) acc
      else acc

end Windows

def startedBy (timeMs : ℤ) (entry : ScheduleEntry) : Bool := entry.startsAtMs ≤ timeMs

/-- The entries that start after the beginning of a window. -/
def upcomingEntries (entries : List ScheduleEntry) (startMs : ℤ) : List ScheduleEntry :=
  entries.drop (partitionPoint (startedBy startMs) entries)

def typeBefore (entries : List ScheduleEntry) (startMs : ℤ) : WeatherType :=
  (weatherTypeAt entries startMs).getD .unspecified

def addRain (rainMs : ℤ) (current : WeatherType) (fromMs toMs : ℤ) : ℤ :=
  if isRainType current then rainMs + (toMs - fromMs) else rainMs

def rainProbabilityForWindow (entries : List ScheduleEntry) (startMs endMs : ℤ) : F32 :=
  if endMs ≤ startMs then 0
  else if entries.isEmpty then 0
  else
    let rainMs := foldWindow (·.weatherType) addRain endMs (upcomingEntries entries startMs)
      startMs (typeBefore entries startMs) 0
    clampF32 ((rainMs : F32) / ((endMs - startMs : ℤ) : F32)) 0 1

/-- How long a type is in force, and since when. -/
structure TypeStats where
  weatherType : WeatherType
  durationMs : ℤ
  firstSeen : ℤ
  deriving DecidableEq

def addType : (stats : List TypeStats) → (current : WeatherType) → (fromMs toMs : ℤ) →
    List TypeStats
  | [], current, fromMs, toMs => [⟨current, toMs - fromMs, fromMs⟩]
  | slot :: stats, current, fromMs, toMs =>
      if slot.weatherType = current then
        { slot with durationMs := slot.durationMs + (toMs - fromMs) } :: stats
      else slot :: addType stats current fromMs toMs

def weatherTypeOrder : WeatherType → ℕ
  | .unspecified => 0
  | .clear => 1
  | .partlyCloudy => 2
  | .overcast => 3
  | .lightRain => 4
  | .mediumRain => 5
  | .heavyRain => 6

/-- The longer duration, then the earlier appearance, then the order of the
types. -/
def TypeStats.le (a b : TypeStats) : Bool :=
  a.durationMs < b.durationMs || (a.durationMs = b.durationMs &&
    (b.firstSeen < a.firstSeen || (b.firstSeen = a.firstSeen &&
      weatherTypeOrder b.weatherType ≤ weatherTypeOrder a.weatherType)))

/-- `max_by_key`: of equal elements the last one. -/
def maxStats : List TypeStats → Option TypeStats
  | [] => none
  | slot :: stats => some (stats.foldl (fun best next => if best.le next then next else best) slot)

def dominantWeatherTypeForWindow (entries : List ScheduleEntry) (startMs endMs : ℤ) : WeatherType :=
  if endMs ≤ startMs ∨ entries.isEmpty then .unspecified
  else
    let stats := foldWindow (·.weatherType) addType endMs (upcomingEntries entries startMs)
      startMs (typeBefore entries startMs) []
    ((maxStats stats).map (·.weatherType)).getD .unspecified

/-- The weighted sum of the temperatures, and the whole duration. -/
def addTemperature (acc : ℤ × ℤ) (currentTemp : ℤ) (fromMs toMs : ℤ) : ℤ × ℤ :=
  (acc.1 + currentTemp * (toMs - fromMs), acc.2 + (toMs - fromMs))

def averageTemperatureCForWindow (entries : List ScheduleEntry) (startMs endMs : ℤ) : Option ℤ :=
  if endMs ≤ startMs ∨ entries.isEmpty then none
  else match weatherAt entries startMs with
    | none => none
    | some entry =>
        let total := foldWindow (·.temperatureC) addTemperature endMs
          (upcomingEntries entries startMs) startMs entry.temperatureC (0, 0)
        if total.2 ≤ 0 then none
        else some (clampScheduleTemperatureC (roundF32 ((total.1 : F32) / (total.2 : F32))))

/-! ## Projection -/

/-- The horizon and the step. -/
def presetWindow : ForecastPreset → Except WeatherDomainError (ℤ × ℤ)
  | .oneHourStep15Min => .ok (hourMs, 15 * minuteMs)
  | .twelveHoursStep1Hour => .ok (12 * hourMs, hourMs)
  | .unspecified => .error .unspecifiedPreset

def checkedTime (timeMs : ℤ) : Except WeatherDomainError ℤ :=
  match checkedI64 timeMs with
  | none => .error .timestampOverflow
  | some timeMs => .ok timeMs

def nextAlignedBucketStart (timeMs stepMs : ℤ) : Except WeatherDomainError ℤ :=
  let rem := timeMs % stepMs
  checkedTime (timeMs + if rem = 0 then stepMs else stepMs - rem)

/-- The loop of `project_forecast`; `first` until the first point is made. -/
def projectFrom (entries : List ScheduleEntry) (endMs stepMs : ℤ) :
    (rounds : ℕ) → (first : Bool) → (timeMs : ℤ) → Except WeatherDomainError (List ForecastPoint)
  | 0, _, _ => .ok []
  | rounds + 1, first, timeMs =>
      if timeMs ≤ endMs then do
        let point := ((weatherTypeAt entries timeMs).map (ForecastPoint.mk timeMs)).toList
        let next ← if first then nextAlignedBucketStart timeMs stepMs
          else checkedTime (timeMs + stepMs)
        if endMs < next then return point
        let points ← projectFrom entries endMs stepMs rounds false next
        return point ++ points
      else .ok []

/-- There is a point at the start, and one at most in each step. -/
def projectForecast (entries : List ScheduleEntry) (startMs : ℤ) (preset : ForecastPreset) :
    Except WeatherDomainError (List ForecastPoint) := do
  validateSchedule entries .allowAnywhere
  let (horizonMs, stepMs) ← presetWindow preset
  let endMs ← checkedTime (startMs + horizonMs)
  projectFrom entries endMs stepMs ((horizonMs / stepMs).toNat + 2) true startMs

/-! ## Mapping -/

structure ProtoForecastPoint where
  time : Option Timestamp
  weatherType : WeatherType
  rainProbability : F32
  temperatureC : ℤ
  deriving DecidableEq

def presetStepMs : ForecastPreset → Except Status ℤ
  | .oneHourStep15Min => .ok (15 * minuteMs)
  | .twelveHoursStep1Hour => .ok hourMs
  | .unspecified => .error ⟨.invalidArgument, "forecast preset must be specified"⟩

def msToTimestamp (ms : ℤ) : Timestamp := ⟨ms / 1000, ms % 1000 * 1000000⟩

def forecastPointToProto (schedule : List ScheduleEntry) (timeMs bucketEndMs : ℤ) :
    ProtoForecastPoint :=
  let dominantType := dominantWeatherTypeForWindow schedule timeMs bucketEndMs
  let temperatureC := (averageTemperatureCForWindow schedule timeMs bucketEndMs).getD
    (temperatureCForWeatherType dominantType)
  ⟨some (msToTimestamp timeMs), dominantType, rainProbabilityForWindow schedule timeMs bucketEndMs,
    clampScheduleTemperatureC temperatureC⟩

/-- A slot ends where the next one begins, the last one after a step. -/
def mapPoints (schedule : List ScheduleEntry) (stepMs : ℤ) :
    List ForecastPoint → Except Status (List ProtoForecastPoint)
  | [] => .ok []
  | [point] =>
      match checkedI64 (point.timeMs + stepMs) with
      | none => .error ⟨.outOfRange, "forecast bucket end overflow"⟩
      | some bucketEndMs => .ok [forecastPointToProto schedule point.timeMs bucketEndMs]
  | point :: next :: rest => do
      let mapped ← mapPoints schedule stepMs (next :: rest)
      return forecastPointToProto schedule point.timeMs next.timeMs :: mapped

def forecastPointsToProto (points : List ForecastPoint) (schedule : List ScheduleEntry)
    (preset : ForecastPreset) : Except Status (List ProtoForecastPoint) := do
  let stepMs ← presetStepMs preset
  mapPoints schedule stepMs points

end HackArena.Weather
