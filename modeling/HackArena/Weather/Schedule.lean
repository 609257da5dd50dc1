import HackArena.Domain.Weather
import Mathlib.Data.List.Chain
import Mathlib.Data.Rat.Floor

/-!
# Accepted schedules

A schedule is accepted if its entries start one after the other. In
production only the last entry may leave the weather unspecified.
-/

namespace HackArena.Weather

open Boink Domain

/-! ## Temperatures -/

def scheduleTemperatureMinC : ℤ := 1
def scheduleTemperatureMaxC : ℤ := 30

/-- Half away from zero. -/
def roundF32 (x : F32) : ℤ := if 0 ≤ x then ⌊x + 1 / 2⌋ else ⌈x - 1 / 2⌉

def temperatureCForWeatherType (weatherType : WeatherType) : ℤ :=
  roundF32 (engineParamsForWeatherType weatherType).temperatureC

def isValidScheduleTemperatureC (temperatureC : ℤ) : Bool :=
  scheduleTemperatureMinC ≤ temperatureC && temperatureC ≤ scheduleTemperatureMaxC

def clampScheduleTemperatureC (temperatureC : ℤ) : ℤ :=
  if temperatureC < scheduleTemperatureMinC then scheduleTemperatureMinC
  else if scheduleTemperatureMaxC < temperatureC then scheduleTemperatureMaxC
  else temperatureC

theorem clamp_of_valid {temperatureC : ℤ} (h : isValidScheduleTemperatureC temperatureC = true) :
    clampScheduleTemperatureC temperatureC = temperatureC := by
  rw [isValidScheduleTemperatureC, Bool.and_eq_true, decide_eq_true_iff, decide_eq_true_iff] at h
  rw [clampScheduleTemperatureC, if_neg (by omega), if_neg (by omega)]

theorem roundF32_intCast (n : ℤ) : roundF32 n = n := by
  unfold roundF32
  split
  · rw [Int.floor_intCast_add, show ⌊(1 / 2 : F32)⌋ = 0 by norm_num, add_zero]
  · rw [sub_eq_add_neg, Int.ceil_intCast_add, show ⌈(-(1 / 2) : F32)⌉ = 0 by norm_num, add_zero]

/-- The temperatures of the weather types are whole degrees. -/
theorem cast_temperatureCForWeatherType (weatherType : WeatherType) :
    (temperatureCForWeatherType weatherType : F32) =
      (engineParamsForWeatherType weatherType).temperatureC := by
  have hwhole : ∃ n : ℤ, (engineParamsForWeatherType weatherType).temperatureC = n := by
    cases weatherType with
    | unspecified => exact ⟨20, rfl⟩
    | clear => exact ⟨20, rfl⟩
    | partlyCloudy => exact ⟨18, rfl⟩
    | overcast => exact ⟨16, rfl⟩
    | lightRain => exact ⟨15, rfl⟩
    | mediumRain => exact ⟨14, rfl⟩
    | heavyRain => exact ⟨13, rfl⟩
  obtain ⟨n, hn⟩ := hwhole
  rw [temperatureCForWeatherType, hn, roundF32_intCast]

/-! ## Validation -/

inductive AppEnv where
  | development | preprod | production
  deriving DecidableEq, Repr

inductive UnspecifiedPolicy where
  | allowAnywhere | allowOnlyTail
  deriving DecidableEq, Repr

def unspecifiedPolicyForEnv : AppEnv → UnspecifiedPolicy
  | .production => .allowOnlyTail
  | .development | .preprod => .allowAnywhere

inductive WeatherDomainError where
  | unspecifiedPreset
  | unspecifiedNotTail (index : ℕ)
  | nonIncreasingTimestamp (index : ℕ) (prev current : ℤ)
  | timestampOverflow
  deriving DecidableEq, Repr

/-- The `Display` texts. -/
def WeatherDomainError.text : WeatherDomainError → String
  | .unspecifiedPreset => "forecast preset must be specified"
  | .unspecifiedNotTail index =>
      "weather type unspecified is allowed only at the end in this environment (index " ++
        toString index ++ ")"
  | .nonIncreasingTimestamp index prev current =>
      "schedule timestamps must be strictly increasing at index " ++ toString index ++ " (prev=" ++
        toString prev ++ ", current=" ++ toString current ++ ")"
  | .timestampOverflow => "timestamp overflow while projecting forecast"

/-- The loop of `validate_schedule` from the entry `idx` on. -/
def validateFrom (policy : UnspecifiedPolicy) :
    (idx : ℕ) → (prev : Option ℤ) → List ScheduleEntry → Except WeatherDomainError Unit
  | _, _, [] => .ok ()
  | idx, prev, entry :: rest =>
      if entry.weatherType = .unspecified ∧ policy = .allowOnlyTail ∧ rest ≠ [] then
        .error (.unspecifiedNotTail idx)
      else match prev with
        | some prevTs =>
            if entry.startsAtMs ≤ prevTs then
              .error (.nonIncreasingTimestamp idx prevTs entry.startsAtMs)
            else validateFrom policy (idx + 1) (some entry.startsAtMs) rest
        | none => validateFrom policy (idx + 1) (some entry.startsAtMs) rest

def validateSchedule (entries : List ScheduleEntry) (policy : UnspecifiedPolicy) :
    Except WeatherDomainError Unit := validateFrom policy 0 none entries

/-- Every entry starts after the one before it. -/
def Increasing (entries : List ScheduleEntry) : Prop :=
  entries.IsChain fun a b => a.startsAtMs < b.startsAtMs

/-- Only the last entry is unspecified, where the policy asks for it. -/
def TailOnly (policy : UnspecifiedPolicy) (entries : List ScheduleEntry) : Prop :=
  policy = .allowOnlyTail → ∀ entry ∈ entries.dropLast, entry.weatherType ≠ .unspecified

theorem tailOnly_cons {policy : UnspecifiedPolicy} {entry : ScheduleEntry}
    {rest : List ScheduleEntry} :
    TailOnly policy (entry :: rest) ↔
      ¬ (entry.weatherType = .unspecified ∧ policy = .allowOnlyTail ∧ rest ≠ []) ∧
        TailOnly policy rest := by
  cases rest with
  | nil => simp [TailOnly]
  | cons next rest =>
      simp only [TailOnly, List.dropLast_cons_cons, List.mem_cons, forall_eq_or_imp]
      tauto

theorem validateFrom_ok_iff (policy : UnspecifiedPolicy) (entries : List ScheduleEntry) :
    ∀ (idx : ℕ) (prev : Option ℤ), validateFrom policy idx prev entries = .ok () ↔
      (∀ prevTs ∈ prev, ∀ entry ∈ entries.head?, prevTs < entry.startsAtMs) ∧
        Increasing entries ∧ TailOnly policy entries := by
  induction entries with
  | nil => simp [validateFrom, Increasing, TailOnly]
  | cons entry rest ih =>
      intro idx prev
      have hrest : validateFrom policy (idx + 1) (some entry.startsAtMs) rest = .ok () ↔
          Increasing (entry :: rest) ∧ TailOnly policy rest := by
        rw [ih]
        simp [Increasing, List.isChain_cons, and_assoc]
      rw [validateFrom.eq_def, tailOnly_cons]
      dsimp only
      by_cases htail : entry.weatherType = .unspecified ∧ policy = .allowOnlyTail ∧ rest ≠ []
      · simp [htail]
      · rw [if_neg htail]
        cases prev with
        | none => simp [hrest, htail]
        | some prevTs =>
            by_cases hle : entry.startsAtMs ≤ prevTs
            · simp [hle, not_lt.mpr hle]
            · simp [hle, hrest, htail, not_le.mp hle]

/-- What `validate_schedule` accepts. -/
theorem validateSchedule_ok_iff (entries : List ScheduleEntry) (policy : UnspecifiedPolicy) :
    validateSchedule entries policy = .ok () ↔ Increasing entries ∧ TailOnly policy entries := by
  rw [validateSchedule, validateFrom_ok_iff]
  simp

theorem weatherAt_mem {entries : List ScheduleEntry} {timeMs : ℤ} {entry : ScheduleEntry}
    (h : weatherAt entries timeMs = some entry) : entry ∈ entries := by
  rw [weatherAt] at h
  split at h
  · cases h
  · exact List.mem_of_getElem? h

end HackArena.Weather
