import HackArena.Domain.Weather
import HackArena.Lib.GuardedRun
import Mathlib.Tactic.NormNum

/-!
# Weather synchronisation in the official build

All worlds share one `last_applied` value, while each world has its own
weather. A call holds the lock of its world from start to end and can be
interleaved with calls for other worlds at its awaits: reading the
schedule, and writing `last_applied`. Dropping a world cancels its call.
-/

namespace HackArena.Runtime.WeatherSync

open Boink Domain GuardedRun

inductive ApplyError where
  | repo (message : String)
  | engine (err : BoinkError)
  deriving DecidableEq, Repr

/-- The parameters handed to the engine for a weather type. -/
def paramsFor (weatherType : WeatherType) : WeatherParams :=
  let params := engineParamsForWeatherType weatherType
  ⟨params.cloudiness, params.temperatureC, params.rainIntensity⟩

/-- The weather type a call resolves from the schedule it has read. -/
def resolve (schedule : List ScheduleEntry) (nowMs : ℤ) : WeatherType :=
  (weatherTypeAt schedule nowMs).getD .clear

/-- The whole function, run without interruption: `last_applied`, the
weather of the engine, and the result. -/
def applyWeatherFromSchedule (schedule : Except String (List ScheduleEntry)) (nowMs : ℤ)
    (setWeather : Except BoinkError Unit) (lastApplied : Option WeatherType)
    (weather : WeatherParams) : Option WeatherType × WeatherParams × Except ApplyError Unit :=
  match schedule with
  | .error message => (lastApplied, weather, .error (.repo message))
  | .ok schedule =>
      let weatherType := resolve schedule nowMs
      if lastApplied = some weatherType then (lastApplied, weather, .ok ())
      else match setWeather with
        | .error err => (lastApplied, weather, .error (.engine err))
        | .ok () => (some weatherType, paramsFor weatherType, .ok ())

/-! ## Interleaved calls -/

/-- Between two awaits: the schedule is read, or the weather is set. -/
inductive Stage where
  | fetched | applied
  deriving DecidableEq, Repr

structure PendingCall where
  schedule : List ScheduleEntry
  nowMs : ℤ
  stage : Stage
  deriving DecidableEq, Repr

def PendingCall.weatherType (call : PendingCall) : WeatherType := resolve call.schedule call.nowMs

structure World where
  weather : WeatherParams
  call : Option PendingCall
  deriving DecidableEq, Repr

structure SyncState where
  lastApplied : Option WeatherType
  worlds : ℕ → Option World

def SyncState.initial : SyncState := ⟨none, fun _ => none⟩

def SyncState.put (s : SyncState) (id : ℕ) (world : World) : SyncState :=
  { s with worlds := Function.update s.worlds id (some world) }

/-- The segments of a call between its awaits, and the life of a world. -/
inductive SyncEvent where
  | create (id : ℕ)
  | drop (id : ℕ)
  | fetch (id : ℕ) (schedule : Except String (List ScheduleEntry)) (nowMs : ℤ)
  | compare (id : ℕ) (setWeather : Except BoinkError Unit)
  | record (id : ℕ)

/-- The world and the call of an event that continues a call at `stage`. -/
def SyncState.calling (s : SyncState) (id : ℕ) (stage : Stage) : Option (World × PendingCall) :=
  match s.worlds id with
  | some world =>
      match world.call with
      | some call => if call.stage = stage then some (world, call) else none
      | none => none
  | none => none

variable (defaultWeather : WeatherParams)

def stepSync (s : SyncState) : SyncEvent → SyncState
  | .create id => match s.worlds id with
      | none => s.put id ⟨defaultWeather, none⟩
      | some _ => s
  | .drop id => { s with worlds := Function.update s.worlds id none }
  | .fetch id schedule nowMs => match s.worlds id, schedule with
      | some ⟨weather, none⟩, .ok schedule => s.put id ⟨weather, some ⟨schedule, nowMs, .fetched⟩⟩
      | _, _ => s
  | .compare id setWeather => match s.calling id .fetched with
      | none => s
      | some (world, call) =>
          if s.lastApplied = some call.weatherType then s.put id { world with call := none }
          else match setWeather with
            | .error _ => s.put id { world with call := none }
            | .ok () => s.put id ⟨paramsFor call.weatherType, some { call with stage := .applied }⟩
  | .record id => match s.calling id .applied with
      | none => s
      | some (world, call) =>
          { s.put id { world with call := none } with lastApplied := some call.weatherType }

/-- The world and the call for which the event makes the function return
Ok: through the shortcut, or after the write. -/
def returnsOk (s : SyncState) : SyncEvent → Option (ℕ × PendingCall)
  | .compare id _ => match s.calling id .fetched with
      | some (_, call) => if s.lastApplied = some call.weatherType then some (id, call) else none
      | none => none
  | .record id => (s.calling id .applied).map fun r => (id, r.2)
  | .create _ | .drop _ | .fetch _ _ _ => none

/-- A call that returns Ok leaves its world with the weather of the
schedule at the call's time, or Clear where no entry covers it. -/
def Delivered (s : SyncState) (ev : SyncEvent) : Prop :=
  ∀ id call, returnsOk s ev = some (id, call) →
    ∃ world, (stepSync defaultWeather s ev).worlds id = some world ∧
      world.weather = paramsFor ((weatherTypeAt call.schedule call.nowMs).getD .clear)

/-- The shortcut is taken only for a world that has the weather already. -/
def ShortcutSound (s : SyncState) : SyncEvent → Prop
  | .compare id _ => ∀ world call, s.calling id .fetched = some (world, call) →
      s.lastApplied = some call.weatherType → world.weather = paramsFor call.weatherType
  | _ => True

/-- A call that waits to write `last_applied` has set its weather. -/
def AppliedOk (s : SyncState) : Prop :=
  ∀ id world call, s.calling id .applied = some (world, call) →
    world.weather = paramsFor call.weatherType

variable {defaultWeather}

theorem calling_put_self {s : SyncState} {id : ℕ} {world : World} {stage : Stage} :
    (s.put id world).calling id stage =
      match world.call with
      | some call => if call.stage = stage then some (world, call) else none
      | none => none := by
  simp [SyncState.calling, SyncState.put]

theorem calling_put_of_ne {s : SyncState} {id other : ℕ} {world : World} {stage : Stage}
    (h : other ≠ id) : (s.put id world).calling other stage = s.calling other stage := by
  simp [SyncState.calling, SyncState.put, h]

theorem calling_eq_some {s : SyncState} {id : ℕ} {stage : Stage} {world : World}
    {call : PendingCall} (h : s.calling id stage = some (world, call)) :
    s.worlds id = some world ∧ world.call = some call ∧ call.stage = stage := by
  rw [SyncState.calling] at h
  split at h
  · split at h
    · split at h
      · cases h
        exact ⟨by assumption, by assumption, by assumption⟩
      · cases h
    · cases h
  · cases h

theorem AppliedOk.put {s : SyncState} (h : AppliedOk s) {id : ℕ} {world : World}
    (hworld : ∀ call, world.call = some call → call.stage = .applied →
      world.weather = paramsFor call.weatherType) : AppliedOk (s.put id world) := by
  intro other world' call hcall
  by_cases hid : other = id
  · subst hid
    obtain ⟨hget, hpending, hstage⟩ := calling_eq_some hcall
    have heq : world = world' := by simpa [SyncState.put] using hget
    subst heq
    exact hworld call hpending hstage
  · rw [calling_put_of_ne hid] at hcall
    exact h other world' call hcall

theorem AppliedOk.stepSync {s : SyncState} (h : AppliedOk s) (ev : SyncEvent) :
    AppliedOk (stepSync defaultWeather s ev) := by
  cases ev with
  | create id =>
      simp only [WeatherSync.stepSync]
      split
      · exact h.put (by simp)
      · exact h
  | drop id =>
      intro other world call hcall
      by_cases hid : other = id
      · simp [WeatherSync.stepSync, SyncState.calling, hid] at hcall
      · apply h other world call
        simpa [WeatherSync.stepSync, SyncState.calling, hid] using hcall
  | fetch id schedule nowMs =>
      simp only [WeatherSync.stepSync]
      split
      · apply h.put
        intro call hcall hstage
        cases hcall
        cases hstage
      · exact h
  | compare id setWeather =>
      simp only [WeatherSync.stepSync]
      split
      · exact h
      · split
        · exact h.put (by simp)
        · split
          · exact h.put (by simp)
          · apply h.put
            intro call hcall _
            cases hcall
            rfl
  | record id =>
      simp only [WeatherSync.stepSync]
      split
      · exact h
      · rename_i world call hcall
        have hput : AppliedOk (s.put id { world with call := none }) := h.put (by simp)
        exact hput

theorem put_put (s : SyncState) (id : ℕ) (world world' : World) :
    (s.put id world).put id world' = s.put id world' := by
  simp [SyncState.put]

theorem put_self {s : SyncState} {id : ℕ} {world : World} (h : s.worlds id = some world) :
    s.put id world = s := by
  rw [SyncState.put]
  rw [← h, Function.update_eq_self]

/-- Its segments in a row are the function. -/
theorem foldl_segments_eq_apply {s : SyncState} {id : ℕ} {weather : WeatherParams}
    (hidle : s.worlds id = some ⟨weather, none⟩) (schedule : Except String (List ScheduleEntry))
    (nowMs : ℤ) (setWeather : Except BoinkError Unit) :
    [.fetch id schedule nowMs, .compare id setWeather, .record id].foldl
        (stepSync defaultWeather) s =
      { s.put id ⟨(applyWeatherFromSchedule schedule nowMs setWeather s.lastApplied weather).2.1,
          none⟩ with
        lastApplied :=
          (applyWeatherFromSchedule schedule nowMs setWeather s.lastApplied weather).1 } := by
  cases schedule with
  | error message =>
      simp [stepSync, hidle, SyncState.calling, applyWeatherFromSchedule, put_self hidle]
  | ok schedule =>
      have hlast (t : SyncState) (world : World) : (t.put id world).lastApplied = t.lastApplied :=
        rfl
      by_cases hsame : s.lastApplied = some (resolve schedule nowMs)
      · simp [stepSync, hidle, calling_put_self, hlast, hsame, PendingCall.weatherType, put_put,
          applyWeatherFromSchedule]
        rw [← hsame]
        rfl
      · cases setWeather with
        | error err =>
            simp [stepSync, hidle, calling_put_self, hlast, hsame, PendingCall.weatherType,
              put_put, applyWeatherFromSchedule]
            rfl
        | ok u =>
            simp [stepSync, hidle, calling_put_self, hlast, hsame, PendingCall.weatherType,
              put_put, applyWeatherFromSchedule]

theorem delivered_iff_shortcutSound {s : SyncState} (h : AppliedOk s) (ev : SyncEvent) :
    Delivered defaultWeather s ev ↔ ShortcutSound s ev := by
  cases ev with
  | create id => simp [Delivered, ShortcutSound, returnsOk]
  | drop id => simp [Delivered, ShortcutSound, returnsOk]
  | fetch id schedule nowMs => simp [Delivered, ShortcutSound, returnsOk]
  | compare id setWeather =>
      cases hcall : s.calling id .fetched with
      | none => simp [Delivered, ShortcutSound, returnsOk, hcall]
      | some r =>
          obtain ⟨world, call⟩ := r
          by_cases hlast : s.lastApplied = some call.weatherType
          · have hstep : (stepSync defaultWeather s (.compare id setWeather)).worlds id =
                some { world with call := none } := by
              simp [stepSync, hcall, hlast, SyncState.put]
            simp [Delivered, ShortcutSound, returnsOk, hcall, hlast, hstep,
              PendingCall.weatherType, resolve]
          · simp [Delivered, ShortcutSound, returnsOk, hcall, hlast]
  | record id =>
      refine iff_of_true ?_ trivial
      intro id' call hret
      cases hcall : s.calling id .applied with
      | none => simp [returnsOk, hcall] at hret
      | some r =>
          obtain ⟨world, call'⟩ := r
          obtain ⟨rfl, rfl⟩ : id = id' ∧ call' = call := by simpa [returnsOk, hcall] using hret
          refine ⟨{ world with call := none }, by simp [stepSync, hcall, SyncState.put], ?_⟩
          exact h id world call' hcall

/-- In every run, every call that returns Ok has delivered its weather
exactly when no call takes the shortcut for a world without it. -/
theorem weather_delivered_iff (defaultWeather : WeatherParams) (evs : List SyncEvent) :
    Along (Delivered defaultWeather) (stepSync defaultWeather) SyncState.initial evs ↔
      Along ShortcutSound (stepSync defaultWeather) SyncState.initial evs :=
  along_iff_of_invariant (fun _ ev h => h.stepSync ev)
    (fun _ ev h => delivered_iff_shortcutSound h ev)
    (by simp [AppliedOk, SyncState.calling, SyncState.initial])

/-- The first world records Clear; the second one is created afterwards,
finds it recorded, and keeps the weather it was created with. -/
theorem second_world_keeps_default :
    ¬ Along (Delivered ⟨1 / 2, 10, 0⟩) (stepSync ⟨1 / 2, 10, 0⟩) SyncState.initial
      [.create 0, .fetch 0 (.ok []) 0, .compare 0 (.ok ()), .record 0,
        .create 1, .fetch 1 (.ok []) 0, .compare 1 (.ok ())] := by
  intro h
  have hlast := h.get (n := 6) (by simp)
  obtain ⟨world, hworld, hweather⟩ := hlast 1 ⟨[], 0, .fetched⟩ (by decide)
  have heq : world = ⟨⟨1 / 2, 10, 0⟩, none⟩ := by
    have hstate : (stepSync ⟨1 / 2, 10, 0⟩ (stateAt (stepSync ⟨1 / 2, 10, 0⟩) SyncState.initial
        [.create 0, .fetch 0 (.ok []) 0, .compare 0 (.ok ()), .record 0,
          .create 1, .fetch 1 (.ok []) 0, .compare 1 (.ok ())] 6) (.compare 1 (.ok ()))).worlds 1 =
        some ⟨⟨1 / 2, 10, 0⟩, none⟩ := rfl
    exact Option.some.inj (hworld.symm.trans hstate)
  subst heq
  have htemp := congrArg WeatherParams.temperatureC hweather
  norm_num [paramsFor, weatherTypeAt, weatherAt, partitionPoint, engineParamsForWeatherType]
    at htemp

end HackArena.Runtime.WeatherSync
