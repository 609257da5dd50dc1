import HackArena.Weather.Stochastic
import Mathlib.Tactic.Linarith
import Mathlib.Tactic.NormNum

/-!
# Coherence of forecasts with noise

The type of a point is chosen among those that its probability of rain
allows, so the point is drawn as it is published. Every point of a forecast
is drawn or was published before, and what was published before was drawn
by an earlier call; so all of them are within the bounds, whatever the
generator of random numbers yields.
-/

namespace HackArena.Weather

open Boink Domain HackArena.Admin

/-! ## Profiles -/

theorem clampF32_mem {lo hi : F32} (x : F32) (h : lo ≤ hi) :
    lo ≤ clampF32 x lo hi ∧ clampF32 x lo hi ≤ hi := by
  unfold clampF32
  split
  next => exact ⟨le_rfl, h⟩
  next hlo =>
    split
    next => exact ⟨h, le_rfl⟩
    next hhi => exact ⟨not_lt.mp hlo, not_lt.mp hhi⟩

theorem clampF32_eq_self {x lo hi : F32} (hlo : lo ≤ x) (hhi : x ≤ hi) : clampF32 x lo hi = x := by
  rw [clampF32, if_neg (not_lt.mpr hlo), if_neg (not_lt.mpr hhi)]

/-- The ranges to draw from are not empty, and the chance is one. -/
structure StochasticProfile.Valid (profile : StochasticProfile) : Prop where
  rain : 0 ≤ profile.maxRainDelta
  mismatch : 0 ≤ profile.typeMismatchChance ∧ profile.typeMismatchChance ≤ 1
  temperature : 0 ≤ profile.maxTempDeltaC

theorem oneHourStochasticProfile_valid (bucketIdx : ℕ) :
    (oneHourStochasticProfile bucketIdx).Valid := by
  unfold oneHourStochasticProfile
  split <;> exact ⟨by norm_num, by norm_num, by norm_num⟩

/-- Between two values, wherever the ease-in is. -/
theorem lerp_mem (start stop : F32) {t : F32} (h : start ≤ stop) (ht : 0 ≤ t ∧ t ≤ 1) :
    start ≤ lerp start stop t ∧ lerp start stop t ≤ stop := by
  have hlower : 0 ≤ (stop - start) * t := mul_nonneg (sub_nonneg.mpr h) ht.1
  have hupper : (stop - start) * t ≤ stop - start :=
    mul_le_of_le_one_right (sub_nonneg.mpr h) ht.2
  unfold lerp
  constructor <;> linarith

theorem twelveHoursStochasticProfile_valid (powf : F32 → F32 → F32) (bucketIdx : ℕ) :
    (twelveHoursStochasticProfile powf bucketIdx).Valid := by
  unfold twelveHoursStochasticProfile
  split
  next => exact oneHourStochasticProfile_valid 3
  next =>
    dsimp only
    set progress := clampF32 (((min bucketIdx 12 - 1 : ℕ) : F32) / 11) 0 1
    have hblended := clampF32_mem
      (35 / 100 * progress + (1 - 35 / 100) * powf progress (23 / 10)) zero_le_one
    have hrain := lerp_mem (oneHourStochasticProfile 4).maxRainDelta (66 / 100)
      (by norm_num [oneHourStochasticProfile]) hblended
    have hmismatch := lerp_mem (oneHourStochasticProfile 4).typeMismatchChance (66 / 100)
      (by norm_num [oneHourStochasticProfile]) hblended
    have htemp := lerp_mem (oneHourStochasticProfile 4).maxTempDeltaC 6
      (by norm_num [oneHourStochasticProfile]) hblended
    have hreference := oneHourStochasticProfile_valid 4
    exact ⟨hreference.rain.trans hrain.1,
      ⟨hreference.mismatch.1.trans hmismatch.1, hmismatch.2.trans (by norm_num)⟩,
      hreference.temperature.trans htemp.1⟩

theorem stochasticProfile_valid (powf : F32 → F32 → F32) (preset : ForecastPreset)
    (bucketIdx : ℕ) : (stochasticProfile powf preset bucketIdx).Valid := by
  cases preset with
  | oneHourStep15Min => exact oneHourStochasticProfile_valid bucketIdx
  | twelveHoursStep1Hour => exact twelveHoursStochasticProfile_valid powf bucketIdx
  | unspecified => exact ⟨le_rfl, ⟨le_rfl, zero_le_one⟩, le_rfl⟩

/-! ## Choosing a type -/

section Candidates

variable {candidates : List (WeatherType × ℕ)}

theorem pickRolled_isSome {roll : ℕ} (h : roll < (candidates.map (·.2)).sum) :
    (pickRolled candidates roll).isSome := by
  induction candidates generalizing roll with
  | nil => simp at h
  | cons candidate rest ih =>
      rw [List.map_cons, List.sum_cons] at h
      rw [pickRolled]
      split
      next => rfl
      next hge => exact ih (by omega)

theorem pickRolled_mem {roll : ℕ} {weatherType : WeatherType}
    (h : pickRolled candidates roll = some weatherType) : weatherType ∈ candidates.map (·.1) := by
  induction candidates generalizing roll with
  | nil => cases h
  | cons candidate rest ih =>
      rw [pickRolled] at h
      split at h
      next =>
        cases h
        exact List.mem_cons_self
      next => exact List.mem_cons_of_mem _ (ih h)

/-- The roll falls in the share of a candidate. -/
theorem pickWeightedWeatherType_mem (h : 0 < (candidates.map (·.2)).sum) (roll : ℕ) :
    pickWeightedWeatherType candidates roll ∈ candidates.map (·.1) := by
  obtain ⟨weatherType, hpicked⟩ :=
    Option.isSome_iff_exists.mp (pickRolled_isSome (Nat.mod_lt roll h))
  rw [pickWeightedWeatherType, if_neg h.ne', hpicked]
  exact pickRolled_mem hpicked

theorem sum_pos_of_weights (hne : candidates ≠ []) (h : ∀ candidate ∈ candidates, 0 < candidate.2) :
    0 < (candidates.map (·.2)).sum := by
  obtain ⟨candidate, rest, rfl⟩ := List.exists_cons_of_ne_nil hne
  rw [List.map_cons, List.sum_cons]
  exact Nat.add_pos_left (h candidate List.mem_cons_self) _

theorem applySmoothingPenalty_types (candidates : List (WeatherType × ℕ))
    (prevOutputType : Option WeatherType) :
    (applySmoothingPenalty candidates prevOutputType).map (·.1) = candidates.map (·.1) := by
  cases prevOutputType with
  | none => rfl
  | some prevType => rw [applySmoothingPenalty, List.map_map]; rfl

theorem applySmoothingPenalty_weights (prevOutputType : Option WeatherType)
    (h : ∀ candidate ∈ candidates, 0 < candidate.2) :
    ∀ candidate ∈ applySmoothingPenalty candidates prevOutputType, 0 < candidate.2 := by
  cases prevOutputType with
  | none => exact h
  | some prevType =>
      intro candidate hmem
      obtain ⟨before, -, rfl⟩ := List.mem_map.mp hmem
      exact lt_max_of_lt_right Nat.zero_lt_one

end Candidates

/-- The candidates that the probability of rain allows. -/
def compatibleCandidates (baseType : WeatherType) (rainProbability : F32) :
    List (WeatherType × ℕ) :=
  (transitionCandidatesForType baseType).filter fun candidate =>
    isTypeCompatibleWithProbability candidate.1 rainProbability

theorem transitionCandidatesForType_weights (baseType : WeatherType) :
    ∀ candidate ∈ transitionCandidatesForType baseType, 0 < candidate.2 := by
  cases baseType <;> simp [transitionCandidatesForType]

section Choice

variable {baseType : WeatherType} {rainProbability : F32}

/-- Whenever a type is picked, it is one of the candidates. -/
theorem picked_mem (hne : compatibleCandidates baseType rainProbability ≠ [])
    (prevOutputType : Option WeatherType) (roll : ℕ) :
    pickWeightedWeatherType (applySmoothingPenalty
        (compatibleCandidates baseType rainProbability) prevOutputType) roll ∈
      (compatibleCandidates baseType rainProbability).map (·.1) := by
  have hweights := applySmoothingPenalty_weights prevOutputType
    fun candidate hmem => transitionCandidatesForType_weights baseType candidate
      (List.mem_of_mem_filter (p := fun candidate =>
        isTypeCompatibleWithProbability candidate.1 rainProbability) hmem)
  have hsmoothed : applySmoothingPenalty (compatibleCandidates baseType rainProbability)
      prevOutputType ≠ [] := by
    intro hnil
    have htypes := applySmoothingPenalty_types (compatibleCandidates baseType rainProbability)
      prevOutputType
    rw [hnil] at htypes
    exact hne (List.map_eq_nil_iff.mp htypes.symm)
  have hmem := pickWeightedWeatherType_mem (sum_pos_of_weights hsmoothed hweights) roll
  rwa [applySmoothingPenalty_types] at hmem

theorem compatible_of_mem {weatherType : WeatherType}
    (h : weatherType ∈ (compatibleCandidates baseType rainProbability).map (·.1)) :
    isTypeCompatibleWithProbability weatherType rainProbability = true := by
  obtain ⟨candidate, hmem, rfl⟩ := List.mem_map.mp h
  exact (List.mem_filter.mp hmem).2

theorem isTypeCompatible_iff (weatherType : WeatherType) :
    isTypeCompatibleWithProbability weatherType rainProbability = true ↔
      (rainProbabilityBoundsForType weatherType).1 ≤ rainProbability ∧
        rainProbability ≤ (rainProbabilityBoundsForType weatherType).2 := by
  simp [isTypeCompatibleWithProbability]

theorem fallback_compatible (h0 : 0 ≤ rainProbability) (h1 : rainProbability ≤ 1) :
    isTypeCompatibleWithProbability (fallbackTypeForProbability rainProbability)
      rainProbability = true := by
  rw [isTypeCompatible_iff, fallbackTypeForProbability]
  split
  next h => exact ⟨h, h1⟩
  next h =>
    split
    next => exact ⟨h0, (not_le.mp h).le⟩
    next hovercast =>
      split
      next =>
        exact ⟨h0, (not_le.mp hovercast).le.trans (by norm_num [rainProbabilityBoundsForType])⟩
      next hcloudy =>
        exact ⟨h0, (not_le.mp hcloudy).le.trans (by norm_num [rainProbabilityBoundsForType])⟩

/-- The type is one that the probability allows, in whichever way it was
chosen. -/
theorem chosen_compatible (h0 : 0 ≤ rainProbability) (h1 : rainProbability ≤ 1)
    (profile : StochasticProfile) (prevOutputType : Option WeatherType) (draws : Draws) :
    isTypeCompatibleWithProbability
      (chooseWeatherTypeForProbability baseType rainProbability profile prevOutputType draws)
      rainProbability = true := by
  have hpicked : (compatibleCandidates baseType rainProbability).isEmpty = false →
      isTypeCompatibleWithProbability (pickWeightedWeatherType
        (applySmoothingPenalty (compatibleCandidates baseType rainProbability) prevOutputType)
        draws.roll) rainProbability = true := fun hne =>
    compatible_of_mem (picked_mem (List.isEmpty_eq_false_iff.mp hne) prevOutputType draws.roll)
  unfold chooseWeatherTypeForProbability
  dsimp only
  rw [← compatibleCandidates]
  split
  next hbase =>
    split
    next => exact hbase
    next =>
      split
      next => exact hbase
      next hne => exact hpicked (by simpa using hne)
  next =>
    split
    next hne => exact hpicked (by simpa using hne)
    next => exact fallback_compatible h0 h1

end Choice

/-! ## Points -/

/-- The probability of rain that is drawn for a point. -/
def drawnRainProbability (powf : F32 → F32 → F32) (base : ProtoForecastPoint)
    (preset : ForecastPreset) (bucketIdx : ℕ) (draws : Draws) : F32 :=
  let profile := stochasticProfile powf preset bucketIdx
  clampF32 (base.rainProbability + genRange (-profile.maxRainDelta) profile.maxRainDelta draws.rain)
    0 1

theorem drawnRainProbability_mem (powf : F32 → F32 → F32) (base : ProtoForecastPoint)
    (preset : ForecastPreset) (bucketIdx : ℕ) (draws : Draws) :
    0 ≤ drawnRainProbability powf base preset bucketIdx draws ∧
      drawnRainProbability powf base preset bucketIdx draws ≤ 1 :=
  clampF32_mem _ zero_le_one

/-- A probability that the type allows stays as it is. -/
theorem cohere_eq_self {point : ProtoForecastPoint}
    (h0 : 0 ≤ point.rainProbability) (h1 : point.rainProbability ≤ 1)
    (h : isTypeCompatibleWithProbability point.weatherType point.rainProbability = true) :
    cohereRainProbabilityAndType point = point := by
  obtain ⟨hlo, hhi⟩ := (isTypeCompatible_iff _).mp h
  unfold cohereRainProbabilityAndType
  dsimp only
  rw [clampF32_eq_self h0 h1, clampF32_eq_self hlo hhi]

theorem clampScheduleTemperatureC_mem (temperatureC : ℤ) :
    1 ≤ clampScheduleTemperatureC temperatureC ∧ clampScheduleTemperatureC temperatureC ≤ 30 := by
  unfold clampScheduleTemperatureC scheduleTemperatureMinC scheduleTemperatureMaxC
  split
  next => decide
  next =>
    split
    next => decide
    next => omega

/-- The point is within the bounds that its type sets. -/
structure Coherent (point : ProtoForecastPoint) : Prop where
  temperature : 1 ≤ point.temperatureC ∧ point.temperatureC ≤ 30
  rain : 0 ≤ point.rainProbability ∧ point.rainProbability ≤ 1
  bounds : (rainProbabilityBoundsForType point.weatherType).1 ≤ point.rainProbability ∧
    point.rainProbability ≤ (rainProbabilityBoundsForType point.weatherType).2

section Point

variable (powf : F32 → F32 → F32) (base : ProtoForecastPoint) (preset : ForecastPreset)
  (bucketIdx : ℕ) (prevOutputType : Option WeatherType) (draws : Draws)

/-- The point is published as it was drawn. -/
theorem stochasticizePoint_drawn :
    stochasticizePoint powf base preset bucketIdx prevOutputType draws =
      ⟨base.time,
        chooseWeatherTypeForProbability base.weatherType
          (drawnRainProbability powf base preset bucketIdx draws)
          (stochasticProfile powf preset bucketIdx) prevOutputType draws,
        drawnRainProbability powf base preset bucketIdx draws,
        (stochasticizePoint powf base preset bucketIdx prevOutputType draws).temperatureC⟩ := by
  have hdrawn := drawnRainProbability_mem powf base preset bucketIdx draws
  exact cohere_eq_self hdrawn.1 hdrawn.2
    (chosen_compatible hdrawn.1 hdrawn.2 _ prevOutputType draws)

theorem stochasticizePoint_coherent :
    Coherent (stochasticizePoint powf base preset bucketIdx prevOutputType draws) := by
  have hdrawn := drawnRainProbability_mem powf base preset bucketIdx draws
  have htemp : 1 ≤ (stochasticizePoint powf base preset bucketIdx prevOutputType
      draws).temperatureC ∧ (stochasticizePoint powf base preset bucketIdx prevOutputType
      draws).temperatureC ≤ 30 :=
    clampScheduleTemperatureC_mem _
  rw [stochasticizePoint_drawn]
  exact ⟨htemp, hdrawn, (isTypeCompatible_iff _).mp (chosen_compatible hdrawn.1 hdrawn.2 _ _ _)⟩

end Point

/-! ## Forecasts -/

/-- No two of the points have one time. -/
def DistinctTimes (points : List ProtoForecastPoint) : Prop :=
  (points.map forecastPointTimeMs).Pairwise fun time other => time = none ∨ time ≠ other

/-- What `publishedFor` finds is a point for this time. -/
theorem publishedFor_mem {previousPoints : List ProtoForecastPoint}
    {point prev : ProtoForecastPoint}
    (h : publishedFor previousPoints point = some prev) :
    prev ∈ previousPoints ∧ forecastPointTimeMs prev = forecastPointTimeMs point := by
  unfold publishedFor at h
  obtain ⟨timeMs, htime, hfound⟩ := Option.bind_eq_some_iff.mp h
  have hprev := List.find?_some hfound
  exact ⟨List.mem_reverse.mp (List.mem_of_find?_eq_some hfound),
    (of_decide_eq_true hprev).trans htime.symm⟩

theorem eq_of_distinctTimes {points : List ProtoForecastPoint} (h : DistinctTimes points)
    {point other : ProtoForecastPoint} (hpoint : point ∈ points) (hother : other ∈ points)
    {timeMs : ℤ} (htime : forecastPointTimeMs point = some timeMs)
    (hothertime : forecastPointTimeMs other = some timeMs) : point = other := by
  induction points with
  | nil => cases hpoint
  | cons first rest ih =>
      obtain ⟨hfirst, hrest⟩ := List.pairwise_cons.mp h
      have hlater : ∀ later ∈ rest, forecastPointTimeMs first = some timeMs →
          forecastPointTimeMs later ≠ some timeMs := by
        intro later hlater hfirsttime hlatertime
        rcases hfirst _ (List.mem_map_of_mem hlater) with hnone | hne
        · rw [hnone] at hfirsttime
          cases hfirsttime
        · exact hne (hfirsttime.trans hlatertime.symm)
      cases hpoint with
      | head =>
          cases hother with
          | head => rfl
          | tail _ hmem => exact absurd hothertime (hlater other hmem htime)
      | tail _ hmem =>
          cases hother with
          | head => exact absurd htime (hlater point hmem hothertime)
          | tail _ hmem' => exact ih hrest hmem hmem'

/-- Among points of distinct times the one for a time is found. -/
theorem publishedFor_of_mem {previousPoints : List ProtoForecastPoint}
    (h : DistinctTimes previousPoints) {point prev : ProtoForecastPoint}
    (hprev : prev ∈ previousPoints) {timeMs : ℤ} (htime : forecastPointTimeMs point = some timeMs)
    (hprevtime : forecastPointTimeMs prev = some timeMs) :
    publishedFor previousPoints point = some prev := by
  have hfound : (publishedFor previousPoints point).isSome := by
    rw [publishedFor, htime]
    exact List.find?_isSome.mpr ⟨prev, List.mem_reverse.mpr hprev, decide_eq_true hprevtime⟩
  obtain ⟨found, hfound⟩ := Option.isSome_iff_exists.mp hfound
  obtain ⟨hmem, hfoundtime⟩ := publishedFor_mem hfound
  rw [hfound, eq_of_distinctTimes h hmem hprev (hfoundtime.trans htime) hprevtime]

section Forecast

variable (powf : F32 → F32 → F32) (previousPoints : List ProtoForecastPoint)
  (preset : ForecastPreset) (draws : ℕ → Draws) (reuse : Bool)

theorem stochasticizeFrom_length (idx : ℕ) (prevOutputType : Option WeatherType)
    (points : List ProtoForecastPoint) :
    (stochasticizeFrom powf previousPoints preset draws reuse idx prevOutputType points).length =
      points.length := by
  induction points generalizing idx prevOutputType with
  | nil => rfl
  | cons point rest ih => rw [stochasticizeFrom, List.length_cons, List.length_cons, ih]

/-- What the loop puts at a place: what was published for the time of the
point, or a point that it draws. -/
theorem stochasticizeFrom_getElem? {points : List ProtoForecastPoint} {i : ℕ}
    {base : ProtoForecastPoint} (hbase : points[i]? = some base) (idx : ℕ)
    (prevOutputType : Option WeatherType) :
    ∃ before,
      (stochasticizeFrom powf previousPoints preset draws reuse idx prevOutputType points)[i]? =
        some ((if 0 < idx + i ∧ reuse then publishedFor previousPoints base else none).getD
          (stochasticizePoint powf base preset (idx + i) before (draws (idx + i)))) := by
  induction points generalizing i idx prevOutputType with
  | nil => cases hbase
  | cons point rest ih =>
      rw [stochasticizeFrom]
      cases i with
      | zero =>
          cases hbase
          exact ⟨prevOutputType, rfl⟩
      | succ i =>
          rw [List.getElem?_cons_succ] at hbase
          obtain ⟨before, hout⟩ := ih hbase (idx + 1) (some
            ((if 0 < idx ∧ reuse then publishedFor previousPoints point else none).getD
              (stochasticizePoint powf point preset idx prevOutputType (draws idx))).weatherType)
          rw [Nat.add_right_comm, Nat.add_assoc] at hout
          exact ⟨before, hout⟩

end Forecast

/-! ## Calls that feed each output back -/

/-- A call, without the points that were published before it. -/
structure StochasticCall where
  baselinePoints : List ProtoForecastPoint
  preset : ForecastPreset
  nowMs : ℤ
  draws : ℕ → Draws
  allowNonFirstBucketReuse : Bool

namespace StochasticCall

def output (powf : F32 → F32 → F32) (previousPoints : List ProtoForecastPoint)
    (call : StochasticCall) : List ProtoForecastPoint :=
  stochasticizeForecastPoints powf call.baselinePoints previousPoints call.preset call.nowMs
    call.draws call.allowNonFirstBucketReuse

def isStepBoundary (call : StochasticCall) : Bool :=
  call.nowMs % (stochasticStepMs call.preset).getD minuteMs = 0

end StochasticCall

/-- The points that are published after these calls. -/
def publishedAfter (powf : F32 → F32 → F32) (calls : List StochasticCall) :
    List ProtoForecastPoint :=
  calls.foldl (StochasticCall.output powf) []

/-- What a call yields for its baseline, and of the points published before
it. -/
structure CoherentOutput (powf : F32 → F32 → F32) (call : StochasticCall)
    (previousPoints output : List ProtoForecastPoint) : Prop where
  length : output.length = call.baselinePoints.length
  times : output.map forecastPointTimeMs = call.baselinePoints.map forecastPointTimeMs
  points : ∀ point ∈ output, Coherent point
  drawn : ∀ (idx : ℕ) (base out : ProtoForecastPoint), call.baselinePoints[idx]? = some base →
    output[idx]? = some out →
      (out ∈ previousPoints ∧ forecastPointTimeMs out = forecastPointTimeMs base) ∨
        ∃ before, out = stochasticizePoint powf base call.preset idx before (call.draws idx)
  reused : call.allowNonFirstBucketReuse = true → call.isStepBoundary = false →
    ∀ (idx : ℕ) (base prev : ProtoForecastPoint) (timeMs : ℤ), 0 < idx →
      call.baselinePoints[idx]? = some base → prev ∈ previousPoints →
        forecastPointTimeMs base = some timeMs → forecastPointTimeMs prev = some timeMs →
          output[idx]? = some prev

section Calls

variable (powf : F32 → F32 → F32) (previousPoints : List ProtoForecastPoint) {call : StochasticCall}

theorem output_getElem? {idx : ℕ} {base : ProtoForecastPoint}
    (hbase : call.baselinePoints[idx]? = some base) :
    ∃ before, (call.output powf previousPoints)[idx]? =
      some ((if 0 < idx ∧ (call.allowNonFirstBucketReuse && !call.isStepBoundary) = true then
        publishedFor previousPoints base else none).getD
          (stochasticizePoint powf base call.preset idx before (call.draws idx))) := by
  have hout := stochasticizeFrom_getElem? powf previousPoints call.preset call.draws
    (call.allowNonFirstBucketReuse && !call.isStepBoundary) hbase 0 none
  rwa [Nat.zero_add] at hout

/-- A point of the output was published before or is drawn. -/
theorem output_cases {idx : ℕ} {base out : ProtoForecastPoint}
    (hbase : call.baselinePoints[idx]? = some base)
    (hout : (call.output powf previousPoints)[idx]? = some out) :
    (out ∈ previousPoints ∧ forecastPointTimeMs out = forecastPointTimeMs base) ∨
      ∃ before, out = stochasticizePoint powf base call.preset idx before (call.draws idx) := by
  obtain ⟨before, hget⟩ := output_getElem? powf previousPoints hbase
  obtain rfl := Option.some.inj (hout.symm.trans hget)
  split
  next =>
    cases hpublished : publishedFor previousPoints base with
    | none => exact .inr ⟨before, rfl⟩
    | some prev => exact .inl (publishedFor_mem hpublished)
  next => exact .inr ⟨before, rfl⟩

theorem output_length : (call.output powf previousPoints).length = call.baselinePoints.length :=
  stochasticizeFrom_length powf previousPoints _ _ _ 0 none call.baselinePoints

theorem exists_base {idx : ℕ} {out : ProtoForecastPoint}
    (hout : (call.output powf previousPoints)[idx]? = some out) :
    ∃ base, call.baselinePoints[idx]? = some base := by
  obtain ⟨hlt, -⟩ := List.getElem?_eq_some_iff.mp hout
  rw [output_length] at hlt
  exact ⟨_, List.getElem?_eq_getElem hlt⟩

theorem forecastPointTimeMs_stochasticizePoint (base : ProtoForecastPoint) (preset : ForecastPreset)
    (bucketIdx : ℕ) (prevOutputType : Option WeatherType) (draws : Draws) :
    forecastPointTimeMs (stochasticizePoint powf base preset bucketIdx prevOutputType draws) =
      forecastPointTimeMs base := by
  rw [stochasticizePoint_drawn]
  rfl

theorem output_times :
    (call.output powf previousPoints).map forecastPointTimeMs =
      call.baselinePoints.map forecastPointTimeMs := by
  refine List.ext_getElem? fun idx => ?_
  rw [List.getElem?_map, List.getElem?_map]
  cases hbase : call.baselinePoints[idx]? with
  | none =>
      rw [List.getElem?_eq_none_iff] at hbase
      rw [List.getElem?_eq_none ((output_length powf previousPoints).trans_le hbase)]
  | some base =>
      obtain ⟨before, hget⟩ := output_getElem? powf previousPoints hbase
      rcases output_cases powf previousPoints hbase hget with ⟨-, htime⟩ | ⟨before', heq⟩
      · rw [hget, Option.map_some, htime, Option.map_some]
      · rw [hget, heq, Option.map_some, forecastPointTimeMs_stochasticizePoint, Option.map_some]

/-- One call. -/
theorem coherentOutput (hpoints : ∀ point ∈ previousPoints, Coherent point)
    (htimes : DistinctTimes previousPoints) :
    CoherentOutput powf call previousPoints (call.output powf previousPoints) := by
  refine ⟨output_length _ _, output_times _ _, ?_,
    fun idx base out hbase hout => output_cases powf previousPoints hbase hout, ?_⟩
  · intro point hmem
    obtain ⟨idx, hout⟩ := List.mem_iff_getElem?.mp hmem
    obtain ⟨base, hbase⟩ := exists_base powf previousPoints hout
    rcases output_cases powf previousPoints hbase hout with ⟨hpublished, -⟩ | ⟨before, rfl⟩
    · exact hpoints point hpublished
    · exact stochasticizePoint_coherent ..
  · intro hallowed hboundary idx base prev timeMs hidx hbase hprev htime hprevtime
    obtain ⟨before, hget⟩ := output_getElem? powf previousPoints hbase
    rw [hget, if_pos ⟨hidx, by rw [hallowed, hboundary]; rfl⟩,
      publishedFor_of_mem htimes hprev htime hprevtime, Option.getD_some]

end Calls

theorem publishedAfter_append (powf : F32 → F32 → F32) (earlier : List StochasticCall)
    (call : StochasticCall) :
    publishedAfter powf (earlier ++ [call]) = call.output powf (publishedAfter powf earlier) := by
  rw [publishedAfter, List.foldl_append]
  rfl

/-- What is published is within the bounds after any calls. -/
theorem publishedAfter_coherent (powf : F32 → F32 → F32) (calls : List StochasticCall)
    (h : ∀ call ∈ calls, DistinctTimes call.baselinePoints) :
    (∀ point ∈ publishedAfter powf calls, Coherent point) ∧
      DistinctTimes (publishedAfter powf calls) := by
  induction calls using List.reverseRecOn with
  | nil => exact ⟨fun point hmem => absurd hmem List.not_mem_nil, List.Pairwise.nil⟩
  | append_singleton earlier call ih =>
      obtain ⟨hpoints, htimes⟩ := ih fun c hc => h c (List.mem_append_left _ hc)
      have hout : CoherentOutput powf call _ _ :=
        coherentOutput powf (publishedAfter powf earlier) hpoints htimes
      rw [publishedAfter_append]
      refine ⟨hout.points, ?_⟩
      rw [DistinctTimes, hout.times]
      exact h call (List.mem_append_right _ List.mem_cons_self)

/-- Stochastic forecasts stay coherent along every sequence of calls that
feeds each output back. The generator is asked for nothing it cannot give,
and neither the last step nor a pick changes what was drawn. -/
theorem stochasticForecasts_coherent (powf : F32 → F32 → F32) (earlier : List StochasticCall)
    (call : StochasticCall)
    (h : ∀ other ∈ earlier ++ [call], DistinctTimes other.baselinePoints) :
    CoherentOutput powf call (publishedAfter powf earlier)
        (publishedAfter powf (earlier ++ [call])) ∧
      (∀ (preset : ForecastPreset) (bucketIdx : ℕ),
        (stochasticProfile powf preset bucketIdx).Valid) ∧
      (∀ (base : ProtoForecastPoint) (preset : ForecastPreset) (bucketIdx : ℕ)
        (prevOutputType : Option WeatherType) (draws : Draws),
        (stochasticizePoint powf base preset bucketIdx prevOutputType draws).rainProbability =
          drawnRainProbability powf base preset bucketIdx draws) ∧
      ∀ (baseType : WeatherType) (rainProbability : F32) (prevOutputType : Option WeatherType)
        (roll : ℕ), compatibleCandidates baseType rainProbability ≠ [] →
          pickWeightedWeatherType (applySmoothingPenalty
              (compatibleCandidates baseType rainProbability) prevOutputType) roll ∈
            (compatibleCandidates baseType rainProbability).map (·.1) := by
  obtain ⟨hpoints, htimes⟩ := publishedAfter_coherent powf earlier fun other hmem =>
    h other (List.mem_append_left _ hmem)
  refine ⟨?_, stochasticProfile_valid powf, ?_,
    fun baseType rainProbability prevOutputType roll hne => picked_mem hne prevOutputType roll⟩
  · rw [publishedAfter_append]
    exact coherentOutput powf _ hpoints htimes
  · intro base preset bucketIdx prevOutputType draws
    rw [stochasticizePoint_drawn]

/-- A forecast for two quarters of an hour. -/
def quartersCall (nowMs : ℤ) : StochasticCall where
  baselinePoints :=
    [⟨some ⟨900, 0⟩, .clear, 1 / 5, 20⟩, ⟨some ⟨1800, 0⟩, .partlyCloudy, 3 / 10, 18⟩]
  preset := .oneHourStep15Min
  nowMs := nowMs
  draws := fun _ => ⟨1, true, 0, 1⟩
  allowNonFirstBucketReuse := true

/-- A second within a quarter of an hour publishes the second point anew. -/
theorem quartersCall_coherent :
    CoherentOutput (fun x _ => x) (quartersCall 900001)
      (publishedAfter (fun x _ => x) [quartersCall 900000])
      (publishedAfter (fun x _ => x) [quartersCall 900000, quartersCall 900001]) :=
  (stochasticForecasts_coherent (fun x _ => x) [quartersCall 900000] (quartersCall 900001)
    (by unfold DistinctTimes; decide +kernel)).1

end HackArena.Weather
