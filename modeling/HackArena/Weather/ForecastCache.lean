import HackArena.Weather.Stochastic

/-!
# The cache of forecasts

The schedule is cached with a generation, and the forecasts are cached with
the minute and the generation that they belong to. Both caches are renewed
under a guard, one request at a time; they are read without it.
-/

namespace HackArena.Weather

open Boink Domain HackArena.Admin HackArena.Services

/-! ## What is cached -/

/-- The generation is an unsigned number of 64 bits. -/
structure CachedSchedule where
  entries : List ScheduleEntry
  refreshedAtMs : Option ℤ
  generation : ℕ
  deriving DecidableEq

structure CachedForecast where
  points : List ProtoForecastPoint
  minuteSlot : Option ℤ
  scheduleGeneration : Option ℕ
  deriving DecidableEq

structure CachedForecasts where
  oneHour : CachedForecast
  twelveHours : CachedForecast
  deriving DecidableEq

def CachedSchedule.default : CachedSchedule := ⟨[], none, 0⟩
def CachedForecast.default : CachedForecast := ⟨[], none, none⟩

def cachedForecastForPreset (cache : CachedForecasts) : ForecastPreset → Option CachedForecast
  | .oneHourStep15Min => some cache.oneHour
  | .twelveHoursStep1Hour => some cache.twelveHours
  | .unspecified => none

def CachedForecasts.put (cache : CachedForecasts) (cached : CachedForecast) :
    ForecastPreset → CachedForecasts
  | .oneHourStep15Min => { cache with oneHour := cached }
  | .twelveHoursStep1Hour => { cache with twelveHours := cached }
  | .unspecified => cache

def cacheMaxStalenessMs : ℤ := minuteMs

def isCacheStale (nowMs : ℤ) : Option ℤ → Bool
  | none => true
  | some refreshedAtMs => cacheMaxStalenessMs ≤ nowMs - refreshedAtMs

def CachedSchedule.usable (s : CachedSchedule) (nowMs : ℤ) : Bool :=
  !s.entries.isEmpty && !isCacheStale nowMs s.refreshedAtMs

def isForecastCacheFresh (cached : CachedForecast) (scheduleGeneration : ℕ) (nowMs : ℤ) : Bool :=
  !cached.points.isEmpty && cached.minuteSlot = some (nowMs / minuteMs) &&
    cached.scheduleGeneration = some scheduleGeneration

def wrappingSucc (generation : ℕ) : ℕ := (generation + 1) % 2 ^ 64

/-- The write of `refresh_cache_once`. -/
def CachedSchedule.refresh (s : CachedSchedule) (schedule : List ScheduleEntry) (nowMs : ℤ) :
    CachedSchedule :=
  ⟨schedule, some nowMs, if s.entries ≠ schedule then wrappingSucc s.generation else s.generation⟩

/-- What the service takes from elsewhere: the power function on floats, and
the text of a status. -/
structure ForecastEnv where
  powf : F32 → F32 → F32
  statusText : Status → String

/-- The write of `refresh_forecast_once`. -/
def CachedForecast.refresh (env : ForecastEnv) (cached : CachedForecast) (preset : ForecastPreset)
    (baselinePoints : List ProtoForecastPoint) (nowMs : ℤ) (scheduleGeneration : ℕ)
    (draws : ℕ → Draws) : CachedForecast :=
  let sameScheduleSnapshot := cached.scheduleGeneration = some scheduleGeneration
  ⟨stochasticizeForecastPoints env.powf baselinePoints cached.points preset nowMs draws
      sameScheduleSnapshot,
    some (nowMs / minuteMs), some scheduleGeneration⟩

/-! ## Calls -/

/-- Sections under a lock; `me` is the request that takes the guard. -/
inductive ForecastOp where
  | minuteStart
  | checkSchedule
  | recheckSchedule
  | readGeneration
  | readEntries
  | lockRefresh
  | unlockRefresh
  | getSchedule
  | storeSchedule (schedule : List ScheduleEntry)
  | readForecast (preset : ForecastPreset)
  | lockForecast (me : ℕ)
  | unlockForecast (me : ℕ)
  | storeForecast (preset : ForecastPreset) (baselinePoints : List ProtoForecastPoint) (nowMs : ℤ)
      (scheduleGeneration : ℕ)
  | replaceSchedule (schedule : List ScheduleEntry)

abbrev ForecastOp.Answer : ForecastOp → Type
  | .minuteStart => ℤ
  | .checkSchedule => Option ℕ
  | .recheckSchedule => Bool
  | .readGeneration => ℕ
  | .readEntries => CachedSchedule
  | .lockRefresh | .unlockRefresh | .storeSchedule _ => Unit
  | .lockForecast _ | .unlockForecast _ => Unit
  | .getSchedule => Except String (List ScheduleEntry)
  | .readForecast _ => Option CachedForecast
  | .storeForecast .. => Option (List ProtoForecastPoint)
  | .replaceSchedule _ => Except String Unit

/-- The time that passes before the call, whether the database fails, and
the random numbers. -/
structure ForecastInput where
  elapsedMs : ℕ
  fails : Option String
  draws : ℕ → Draws

structure ForecastState where
  nowMs : ℤ
  table : List ScheduleEntry
  schedule : CachedSchedule
  refreshing : Bool
  forecasts : CachedForecasts
  forecastRefreshing : Option ℕ

/-- The service as it is created. -/
def ForecastState.initial (nowMs : ℤ) (table : List ScheduleEntry) : ForecastState :=
  ⟨nowMs, table, .default, false, ⟨.default, .default⟩, none⟩

def forecastApply (env : ForecastEnv) (s : ForecastState) (op : ForecastOp) (i : ForecastInput) :
    ForecastState × op.Answer :=
  match op with
  | .minuteStart => (s, s.nowMs - s.nowMs % minuteMs)
  | .checkSchedule => (s, if s.schedule.usable s.nowMs then some s.schedule.generation else none)
  | .recheckSchedule => (s, s.schedule.usable s.nowMs)
  | .readGeneration => (s, s.schedule.generation)
  | .readEntries => (s, s.schedule)
  | .lockRefresh => ({ s with refreshing := true }, ())
  | .unlockRefresh => ({ s with refreshing := false }, ())
  | .getSchedule =>
      (s, match i.fails with
        | some message => .error message
        | none => .ok s.table)
  | .storeSchedule schedule => ({ s with schedule := s.schedule.refresh schedule s.nowMs }, ())
  | .readForecast preset => (s, cachedForecastForPreset s.forecasts preset)
  | .lockForecast me => ({ s with forecastRefreshing := some me }, ())
  | .unlockForecast _ => ({ s with forecastRefreshing := none }, ())
  | .storeForecast preset baselinePoints nowMs scheduleGeneration =>
      match cachedForecastForPreset s.forecasts preset with
      | none => (s, none)
      | some cached =>
          let stored := cached.refresh env preset baselinePoints nowMs scheduleGeneration i.draws
          ({ s with forecasts := s.forecasts.put stored preset }, some stored.points)
  | .replaceSchedule schedule =>
      match i.fails with
      | some message => (s, .error message)
      | none => ({ s with table := schedule }, .ok ())

/-- The clock never goes back. -/
def forecastExec (env : ForecastEnv) (s : ForecastState) (op : ForecastOp) (i : ForecastInput) :
    ForecastState × op.Answer :=
  forecastApply env { s with nowMs := s.nowMs + i.elapsedMs } op i

/-- The guards are taken when they are free. -/
def forecastFree (s : ForecastState) : ForecastOp → Bool
  | .lockRefresh => !s.refreshing
  | .lockForecast _ => s.forecastRefreshing.isNone
  | _ => true

/-! ## Requests -/

inductive ForecastError where
  | repo (message : String)
  | projection (err : WeatherDomainError)
  | mapping (err : Status)
  | unsupportedPreset (preset : ForecastPreset)

def ForecastPreset.debugText : ForecastPreset → String
  | .unspecified => "Unspecified"
  | .oneHourStep15Min => "ForecastPreset1HourStep15Min"
  | .twelveHoursStep1Hour => "ForecastPreset12HoursStep1Hour"

/-- The `Display` texts. -/
def ForecastError.text (env : ForecastEnv) : ForecastError → String
  | .repo message => message
  | .projection err => "forecast projection failed: " ++ err.text
  | .mapping err => "forecast mapping failed: " ++ env.statusText err
  | .unsupportedPreset preset => "unsupported forecast preset: " ++ preset.debugText

abbrev ForecastProg := Prog ForecastOp ForecastOp.Answer
abbrev ForecastCall := ExceptT ForecastError ForecastProg
abbrev ForecastOp.call (op : ForecastOp) : ForecastProg op.Answer := Prog.perform op

def refreshCacheOnce : ForecastCall Unit := do
  let schedule ← ForecastOp.getSchedule.call.orFail .repo
  liftM (ForecastOp.storeSchedule schedule).call

/-- What is done under the guard of the schedule. -/
def refreshCacheUnlessUsable : ForecastCall Unit := do
  if ← liftM ForecastOp.recheckSchedule.call then return ()
  else refreshCacheOnce

def refreshCacheSingleflight : ForecastCall Unit := do
  liftM ForecastOp.lockRefresh.call
  let result ← liftM refreshCacheUnlessUsable.run
  liftM ForecastOp.unlockRefresh.call
  ExceptT.mk (pure result)

def ensureScheduleCacheFresh : ForecastCall ℕ := do
  match ← liftM ForecastOp.checkSchedule.call with
  | some generation => return generation
  | none => do
      refreshCacheSingleflight
      liftM ForecastOp.readGeneration.call

/-- The projection of a schedule, as it is published. -/
def baselinePointsFor (schedule : List ScheduleEntry) (nowMs : ℤ) (preset : ForecastPreset) :
    Except ForecastError (List ProtoForecastPoint) :=
  match projectForecast schedule nowMs preset with
  | .error err => .error (.projection err)
  | .ok points =>
      match forecastPointsToProto points schedule preset with
      | .error err => .error (.mapping err)
      | .ok baselinePoints => .ok baselinePoints

def refreshForecastOnce (preset : ForecastPreset) (nowMs : ℤ) (scheduleGeneration : ℕ) :
    ForecastCall Unit := do
  let schedule ← liftM ForecastOp.readEntries.call
  let baselinePoints ← ExceptT.mk (pure (baselinePointsFor schedule.entries nowMs preset))
  match ← liftM
    (ForecastOp.storeForecast preset baselinePoints nowMs scheduleGeneration).call with
  | none => throw (.unsupportedPreset preset)
  | some _ => return ()

/-- What is done under the guard of the forecasts. -/
def refreshForecastUnlessFresh (preset : ForecastPreset) (nowMs : ℤ) : ForecastCall Unit := do
  let scheduleGeneration ← ensureScheduleCacheFresh
  match ← liftM (ForecastOp.readForecast preset).call with
  | none => throw (.unsupportedPreset preset)
  | some cached =>
      if isForecastCacheFresh cached scheduleGeneration nowMs then return ()
      else refreshForecastOnce preset nowMs scheduleGeneration

def refreshForecastSingleflight (me : ℕ) (preset : ForecastPreset) (nowMs : ℤ) :
    ForecastCall Unit := do
  liftM (ForecastOp.lockForecast me).call
  let result ← liftM (refreshForecastUnlessFresh preset nowMs).run
  liftM (ForecastOp.unlockForecast me).call
  ExceptT.mk (pure result)

/-- What `current_forecast` does when the cache is not fresh: the forecast is
read again after the guard has been released. -/
def refreshedForecast (env : ForecastEnv) (me : ℕ) (preset : ForecastPreset) (nowMs : ℤ) :
    ExceptT Status ForecastProg (List ProtoForecastPoint) := do
  (refreshForecastSingleflight me preset nowMs).run.orFail fun err =>
    (⟨.internal, "failed to compute weather forecast: " ++ err.text env⟩ : Status)
  match ← liftM (ForecastOp.readForecast preset).call with
  | none => throw ⟨.invalidArgument, "forecast preset must be specified"⟩
  | some cached => return cached.points

def currentForecast (env : ForecastEnv) (me : ℕ) (preset : ForecastPreset) :
    ExceptT Status ForecastProg (List ProtoForecastPoint) := do
  let nowMs ← liftM ForecastOp.minuteStart.call
  let scheduleGeneration ← ensureScheduleCacheFresh.run.orFail fun err =>
    (⟨.internal, "failed to load weather schedule: " ++ err.text env⟩ : Status)
  match ← liftM (ForecastOp.readForecast preset).call with
  | some cached =>
      if isForecastCacheFresh cached scheduleGeneration nowMs then return cached.points
      else refreshedForecast env me preset nowMs
  | none => refreshedForecast env me preset nowMs

/-- Errors are logged. -/
def runCacheRefreshLoop (me : ℕ) : (rounds : ℕ) → ForecastProg Unit
  | 0 => pure ()
  | rounds + 1 => do
      match ← refreshCacheSingleflight.run with
      | .error _ => runCacheRefreshLoop me rounds
      | .ok () => do
          let nowMs ← ForecastOp.minuteStart.call
          let _ ← (refreshForecastSingleflight me .oneHourStep15Min nowMs).run
          let _ ← (refreshForecastSingleflight me .twelveHoursStep1Hour nowMs).run
          runCacheRefreshLoop me rounds

inductive ForecastRequest where
  | currentForecast (preset : ForecastPreset)
  | refreshLoop (rounds : ℕ)
  | replaceSchedule (schedule : List ScheduleEntry)

inductive ForecastAnswer where
  | forecast (preset : ForecastPreset) (points : List ProtoForecastPoint)
  | done
  deriving DecidableEq

def ForecastRequest.run (env : ForecastEnv) (me : ℕ) :
    ForecastRequest → ExceptT Status ForecastProg ForecastAnswer
  | .currentForecast preset => do
      let points ← HackArena.Weather.currentForecast env me preset
      return .forecast preset points
  | .refreshLoop rounds => do
      liftM (runCacheRefreshLoop me rounds)
      return .done
  | .replaceSchedule schedule => do
      let _ ← liftM (ForecastOp.replaceSchedule schedule).call
      return .done

abbrev ForecastEntry := Entry ForecastOp ForecastOp.Answer
abbrev ForecastWorld := World ForecastState ForecastOp ForecastOp.Answer
abbrev ForecastPool := Pool ForecastState ForecastOp ForecastOp.Answer (Except Status ForecastAnswer)

def forecastStart (env : ForecastEnv) (requests : ℕ → ForecastRequest) (s : ForecastState) :
    ForecastPool := Pool.start s fun i => ((requests i).run env i).run

end HackArena.Weather
