import HackArena.Weather.ForecastPhases

/-!
# Runs of the cache of forecasts

A forecast stays in its slot until another one is stored under the guard.
That one has been projected from a schedule that is not older; whether its
minute is not earlier is left to the requests.
-/

namespace HackArena.Weather

open Domain GuardedRun HackArena.Services

variable {env : ForecastEnv}

/-! ## What a forecast has been made of -/

/-- Somebody has read the snapshot, and has stored the points for its
projection from the minute. -/
def Made (log : List ForecastEntry) (preset : ForecastPreset) (nowMs : ℤ)
    (snapshot : CachedSchedule) (points : List ProtoForecastPoint) : Prop :=
  ∃ j baselinePoints generation,
    (⟨j, .storeForecast preset baselinePoints nowMs generation, some points⟩ : ForecastEntry) ∈ log ∧
      (⟨j, .readEntries, snapshot⟩ : ForecastEntry) ∈ log ∧
      baselinePointsFor snapshot.entries nowMs preset = .ok baselinePoints

/-- The points have been projected from this minute or a later one, and from
this generation of the schedule or a later one. -/
def Projected (log : List ForecastEntry) (preset : ForecastPreset) (nowMs : ℤ) (generation : ℕ)
    (points : List ProtoForecastPoint) : Prop :=
  ∃ startMs snapshot, Made log preset startMs snapshot points ∧ nowMs ≤ startMs ∧
    generation ≤ snapshot.generation

/-- The cached forecast belongs to this minute and generation, or to later
ones. -/
def CachedForecast.Reaches (cached : CachedForecast) (nowMs : ℤ) (generation : ℕ) : Prop :=
  ∃ minute ∈ cached.minuteSlot, ∃ recorded ∈ cached.scheduleGeneration,
    nowMs / minuteMs ≤ minute ∧ generation ≤ recorded

/-- Nothing has been cached yet; or the points have been made for the minute
of the slot, from a schedule that is not older than its generation. -/
def SlotKnown (log : List ForecastEntry) (current : ℕ) (preset : ForecastPreset)
    (cached : CachedForecast) : Prop :=
  cached = .default ∨ ∃ startMs snapshot recorded, Made log preset startMs snapshot cached.points ∧
    startMs % minuteMs = 0 ∧ cached.minuteSlot = some (startMs / minuteMs) ∧
    cached.scheduleGeneration = some recorded ∧ recorded ≤ snapshot.generation ∧ recorded ≤ current

theorem Made.mono {log log' : List ForecastEntry} {preset : ForecastPreset} {nowMs : ℤ}
    {snapshot : CachedSchedule} {points : List ProtoForecastPoint}
    (h : Made log preset nowMs snapshot points) (hlog : log <:+ log') :
    Made log' preset nowMs snapshot points := by
  obtain ⟨j, baselinePoints, generation, hstore, hread, hpoints⟩ := h
  exact ⟨j, baselinePoints, generation, hlog.subset hstore, hlog.subset hread, hpoints⟩

theorem Projected.mono {log log' : List ForecastEntry} {preset : ForecastPreset} {nowMs : ℤ}
    {generation : ℕ} {points : List ProtoForecastPoint}
    (h : Projected log preset nowMs generation points) (hlog : log <:+ log') :
    Projected log' preset nowMs generation points := by
  obtain ⟨startMs, snapshot, hmade, hrest⟩ := h
  exact ⟨startMs, snapshot, hmade.mono hlog, hrest⟩

theorem SlotKnown.mono {log log' : List ForecastEntry} {current current' : ℕ}
    {preset : ForecastPreset} {cached : CachedForecast} (h : SlotKnown log current preset cached)
    (hlog : log <:+ log') (hcurrent : current ≤ current') :
    SlotKnown log' current' preset cached := by
  rcases h with hempty | ⟨startMs, snapshot, recorded, hmade, hminute, hslot, hrecorded, hold, hle⟩
  · exact Or.inl hempty
  · exact Or.inr ⟨startMs, snapshot, recorded, hmade.mono hlog, hminute, hslot, hrecorded, hold,
      hle.trans hcurrent⟩

/-- A slot that reaches a minute holds a forecast from that minute on. -/
theorem SlotKnown.projected {log : List ForecastEntry} {current generation : ℕ}
    {preset : ForecastPreset} {cached : CachedForecast} {nowMs : ℤ}
    (h : SlotKnown log current preset cached) (hreaches : cached.Reaches nowMs generation)
    (hnow : nowMs % minuteMs = 0) : Projected log preset nowMs generation cached.points := by
  obtain ⟨minute, hminute, recorded, hrecorded, hlater, hnewer⟩ := hreaches
  rcases h with rfl | ⟨startMs, snapshot, recorded', hmade, hstart, hslot, hgeneration, hold, -⟩
  · cases hminute
  · obtain rfl := Option.some.inj (hslot.symm.trans hminute)
    obtain rfl := Option.some.inj (hgeneration.symm.trans hrecorded)
    refine ⟨startMs, snapshot, hmade, ?_, hnewer.trans hold⟩
    unfold minuteMs at hnow hstart hlater
    omega

theorem reaches_of_fresh {cached : CachedForecast} {generation : ℕ} {nowMs : ℤ}
    (h : isForecastCacheFresh cached generation nowMs = true) : cached.Reaches nowMs generation := by
  simp only [isForecastCacheFresh, Bool.and_eq_true, decide_eq_true_eq] at h
  exact ⟨_, h.1.2, _, h.2, Int.le_refl _, Nat.le_refl _⟩

theorem CachedForecast.Reaches.mono {cached : CachedForecast} {generation generation' : ℕ}
    {nowMs : ℤ} (h : cached.Reaches nowMs generation) (hle : generation' ≤ generation) :
    cached.Reaches nowMs generation' := by
  obtain ⟨minute, hminute, recorded, hrecorded, hlater, hnewer⟩ := h
  exact ⟨minute, hminute, recorded, hrecorded, hlater, hle.trans hnewer⟩

/-! ## What is known of the requests -/

def HasSlot (w : ForecastWorld) (preset : ForecastPreset) (cached : CachedForecast) : Prop :=
  cachedForecastForPreset w.shared.forecasts preset = some cached

/-- The generation is one that the schedule has reached, and no forecast is
newer. -/
def Latest (w : ForecastWorld) (generation : ℕ) : Prop :=
  generation ≤ w.shared.schedule.generation ∧
    ∀ preset cached, HasSlot w preset cached → ∀ recorded ∈ cached.scheduleGeneration,
      recorded ≤ generation

def SlotReaches (w : ForecastWorld) (preset : ForecastPreset) (s : ForecastStage) : Prop :=
  ∃ nowMs generation cached, s.nowMs = some nowMs ∧ s.generation = some generation ∧
    HasSlot w preset cached ∧ cached.Reaches nowMs generation

/-- What is so in a phase of the request `i`. -/
def PhaseKnown (w : ForecastWorld) (i : ℕ) (s : ForecastStage) : ForecastPhase → Prop
  | .free => True
  | .guarded => w.shared.forecastRefreshing = some i
  | .renewed generation => w.shared.forecastRefreshing = some i ∧ Latest w generation ∧
      ∃ first ∈ s.generation, first ≤ generation
  | .projecting generation snapshot => w.shared.forecastRefreshing = some i ∧
      Latest w generation ∧ (∃ first ∈ s.generation, first ≤ generation) ∧
      generation ≤ snapshot.generation ∧ (⟨i, .readEntries, snapshot⟩ : ForecastEntry) ∈ w.log
  | .ready preset => w.shared.forecastRefreshing = some i ∧ SlotReaches w preset s
  | .refreshed preset => SlotReaches w preset s
  | .served preset points => ∃ nowMs ∈ s.nowMs, ∃ generation ∈ s.generation,
      Projected w.log preset nowMs generation points

structure StageKnown (w : ForecastWorld) (i : ℕ) (s : ForecastStage) : Prop where
  minute : ∀ nowMs ∈ s.nowMs, nowMs % minuteMs = 0
  generation : ∀ generation ∈ s.generation, generation ≤ w.shared.schedule.generation
  phase : PhaseKnown w i s s.phase

/-- What the cache and the requests have come to. -/
structure ForecastKnown (w : ForecastWorld) : Prop where
  slots : ∀ preset cached, HasSlot w preset cached →
    SlotKnown w.log w.shared.schedule.generation preset cached
  stages : ∀ i, StageKnown w i (forecastStage i w.log)

/-- What a step leaves to the request `i`: while it holds the guard, the
forecasts are its own. -/
structure Keeps (i : ℕ) (w w' : ForecastWorld) : Prop where
  log : w.log <:+ w'.log
  generation : w.shared.schedule.generation ≤ w'.shared.schedule.generation
  held : w.shared.forecastRefreshing = some i →
    w'.shared.forecastRefreshing = some i ∧ w'.shared.forecasts = w.shared.forecasts
  slots : ∀ preset cached, HasSlot w preset cached → ∃ cached', HasSlot w' preset cached' ∧
    ∀ nowMs generation, cached.Reaches nowMs generation → cached'.Reaches nowMs generation

variable {w w' : ForecastWorld} {i t : ℕ} {s : ForecastStage}

theorem Keeps.latest {generation : ℕ} (h : Keeps i w w')
    (hheld : w.shared.forecastRefreshing = some i) (hlatest : Latest w generation) :
    Latest w' generation := by
  obtain ⟨-, hsame⟩ := h.held hheld
  refine ⟨hlatest.1.trans h.generation, fun preset cached hslot => ?_⟩
  rw [HasSlot, hsame] at hslot
  exact hlatest.2 preset cached hslot

theorem Keeps.slotReaches {preset : ForecastPreset} (h : Keeps i w w')
    (hreaches : SlotReaches w preset s) : SlotReaches w' preset s := by
  obtain ⟨nowMs, generation, cached, hnow, hgeneration, hslot, hreached⟩ := hreaches
  obtain ⟨cached', hslot', hkept⟩ := h.slots preset cached hslot
  exact ⟨nowMs, generation, cached', hnow, hgeneration, hslot', hkept _ _ hreached⟩

theorem StageKnown.keep (hstage : StageKnown w i s) (h : Keeps i w w') : StageKnown w' i s := by
  refine ⟨hstage.minute, fun generation hg => (hstage.generation generation hg).trans h.generation,
    ?_⟩
  have hphase := hstage.phase
  cases hcase : s.phase with
  | free => trivial
  | guarded =>
      rw [hcase] at hphase
      exact (h.held hphase).1
  | renewed generation =>
      rw [hcase] at hphase
      obtain ⟨hheld, hlatest, hfirst⟩ := hphase
      exact ⟨(h.held hheld).1, h.latest hheld hlatest, hfirst⟩
  | projecting generation snapshot =>
      rw [hcase] at hphase
      obtain ⟨hheld, hlatest, hfirst, hold, hread⟩ := hphase
      exact ⟨(h.held hheld).1, h.latest hheld hlatest, hfirst, hold, h.log.subset hread⟩
  | ready preset =>
      rw [hcase] at hphase
      exact ⟨(h.held hphase.1).1, h.slotReaches hphase.2⟩
  | refreshed preset =>
      rw [hcase] at hphase
      exact h.slotReaches hphase
  | served preset points =>
      rw [hcase] at hphase
      obtain ⟨nowMs, hnow, generation, hgeneration, hprojected⟩ := hphase
      exact ⟨nowMs, hnow, generation, hgeneration, hprojected.mono h.log⟩

/-! ## Transitions -/

theorem latest_of_slots (hslots : ∀ preset cached, HasSlot w preset cached →
    SlotKnown w.log w.shared.schedule.generation preset cached) :
    Latest w w.shared.schedule.generation := by
  refine ⟨Nat.le_refl _, fun preset cached hslot recorded hrecorded => ?_⟩
  rcases hslots preset cached hslot with rfl | ⟨-, -, recorded', -, -, -, hsame, -, hle⟩
  · cases hrecorded
  · obtain rfl := Option.some.inj (hsame.symm.trans hrecorded)
    exact hle

/-- A generation is obtained, the first one or another. -/
theorem StageKnown.obtain (h : StageKnown w i s) (hlatest : Latest w w.shared.schedule.generation) :
    StageKnown w i (s.obtain w.shared.schedule.generation) := by
  have hphase := h.phase
  refine ⟨h.minute, fun generation hg => ?_, ?_⟩
  · obtain rfl := Option.some.inj hg
    cases hs : s.generation with
    | none => exact Nat.le_refl _
    | some first => exact h.generation first hs
  · -- in the phases after the first generation there is one already
    have hsame : ∀ first, s.generation = some first →
        s.generation.getD w.shared.schedule.generation = first := by
      intro first hfirst
      rw [hfirst]
      rfl
    unfold ForecastStage.obtain
    dsimp only
    cases hcase : s.phase with
    | free => trivial
    | guarded =>
        rw [hcase] at hphase
        refine ⟨hphase, hlatest, _, rfl, ?_⟩
        cases hs : s.generation with
        | none => exact Nat.le_refl _
        | some first => exact h.generation first hs
    | renewed generation =>
        rw [hcase] at hphase
        obtain ⟨hheld, hnew, first, hfirst, hle⟩ := hphase
        exact ⟨hheld, hnew, first, congrArg some (hsame first hfirst), hle⟩
    | projecting generation snapshot =>
        rw [hcase] at hphase
        obtain ⟨hheld, hnew, ⟨first, hfirst, hle⟩, hrest⟩ := hphase
        exact ⟨hheld, hnew, ⟨first, congrArg some (hsame first hfirst), hle⟩, hrest⟩
    | ready preset =>
        rw [hcase] at hphase
        obtain ⟨hheld, nowMs, first, cached, hnow, hfirst, hrest⟩ := hphase
        exact ⟨hheld, nowMs, first, cached, hnow, congrArg some (hsame first hfirst), hrest⟩
    | refreshed preset =>
        rw [hcase] at hphase
        obtain ⟨nowMs, first, cached, hnow, hfirst, hrest⟩ := hphase
        exact ⟨nowMs, first, cached, hnow, congrArg some (hsame first hfirst), hrest⟩
    | served preset points =>
        rw [hcase] at hphase
        obtain ⟨nowMs, hnow, first, hfirst, hprojected⟩ := hphase
        exact ⟨nowMs, hnow, first, congrArg some (hsame first hfirst), hprojected⟩

/-- The entries are read, at the present generation. -/
theorem StageKnown.snap (h : StageKnown w i s)
    (hread : (⟨i, .readEntries, w.shared.schedule⟩ : ForecastEntry) ∈ w.log) :
    StageKnown w i { s with phase := s.phase.snap w.shared.schedule } := by
  refine ⟨h.minute, h.generation, ?_⟩
  have hphase := h.phase
  cases hcase : s.phase with
  | renewed generation =>
      rw [hcase] at hphase
      obtain ⟨hheld, hlatest, hfirst⟩ := hphase
      exact ⟨hheld, hlatest, hfirst, hlatest.1, hread⟩
  | _ =>
      rw [hcase] at hphase
      exact hphase

/-- The cached forecast is read: it belongs to the request, or to what the
request has made of it. -/
theorem StageKnown.look {preset : ForecastPreset} {cached : CachedForecast} (h : StageKnown w i s)
    (hslots : ∀ preset cached, HasSlot w preset cached →
      SlotKnown w.log w.shared.schedule.generation preset cached)
    (hslot : HasSlot w preset cached) :
    StageKnown w i { s with phase := s.look preset cached } := by
  refine ⟨h.minute, h.generation, ?_⟩
  have hphase := h.phase
  have hknown := hslots preset cached hslot
  unfold ForecastStage.look
  split
  · rename_i nowMs generation hcase hnow hgeneration
    dsimp only
    split
    · rename_i hfresh
      exact ⟨nowMs, hnow, generation, hgeneration,
        hknown.projected (reaches_of_fresh hfresh) (h.minute nowMs hnow)⟩
    · trivial
  · rename_i generation nowMs hcase hnow
    rw [hcase] at hphase
    obtain ⟨hheld, hlatest, first, hfirst, hle⟩ := hphase
    dsimp only
    split
    · rename_i hfresh
      exact ⟨hheld, nowMs, first, cached, hnow, hfirst, hslot, (reaches_of_fresh hfresh).mono hle⟩
    · exact ⟨hheld, hlatest, first, hfirst, hle⟩
  · rename_i preset' hcase
    rw [hcase] at hphase
    dsimp only
    split
    · rename_i hpreset
      subst hpreset
      obtain ⟨nowMs, generation, cached', hnow, hgeneration, hslot', hreaches⟩ := hphase
      obtain rfl := Option.some.inj (hslot'.symm.trans hslot)
      exact ⟨nowMs, hnow, generation, hgeneration,
        hknown.projected hreaches (h.minute nowMs hnow)⟩
    · exact hphase
  · exact hphase

/-! ## Steps -/

/-- No forecast is stored over one of a later minute, and the generation is
not used up. -/
def forecastOrdered (w : ForecastWorld) (_ : ℕ) (op : ForecastOp) (_ : ForecastInput) : Bool :=
  match op with
  | .storeForecast preset _ nowMs _ =>
      ((cachedForecastForPreset w.shared.forecasts preset).bind (·.minuteSlot)).all fun minute =>
        minute ≤ nowMs / minuteMs
  | .storeSchedule schedule =>
      w.shared.schedule.entries = schedule || w.shared.schedule.generation + 1 < 2 ^ 64
  | _ => true

section Steps

variable {op : ForecastOp} {input : ForecastInput}

theorem forecastStage_self : forecastStage t (w.perform (forecastExec env) t op input).log =
    (forecastStage t w.log).next op (forecastExec env w.shared op input).2 :=
  Protocol.stageOf_perform_self (forecastExec env) _ w t op input

theorem forecastStage_other (hi : i ≠ t) :
    forecastStage i (w.perform (forecastExec env) t op input).log = forecastStage i w.log :=
  Protocol.stageOf_perform_ne (forecastExec env) _ w hi op input

/-- The stages after a step: the others are where they were. -/
theorem ForecastKnown.stages_perform (h : ForecastKnown w)
    (hkeeps : ∀ i ≠ t, Keeps i w (w.perform (forecastExec env) t op input))
    (hown : StageKnown (w.perform (forecastExec env) t op input) t
      ((forecastStage t w.log).next op (forecastExec env w.shared op input).2)) (i : ℕ) :
    StageKnown (w.perform (forecastExec env) t op input) i
      (forecastStage i (w.perform (forecastExec env) t op input).log) := by
  by_cases hi : i = t
  · subst hi
    rw [forecastStage_self]
    exact hown
  · rw [forecastStage_other hi]
    exact (h.stages i).keep (hkeeps i hi)

/-- A step that leaves the forecasts and their guard alone. -/
theorem ForecastKnown.same (h : ForecastKnown w)
    (hforecasts : (forecastExec env w.shared op input).1.forecasts = w.shared.forecasts)
    (hguard : (forecastExec env w.shared op input).1.forecastRefreshing =
      w.shared.forecastRefreshing)
    (hgeneration : w.shared.schedule.generation ≤
      (forecastExec env w.shared op input).1.schedule.generation)
    (hown : ∀ w', w' = w.perform (forecastExec env) t op input →
      (∀ preset cached, HasSlot w' preset cached →
        SlotKnown w'.log w'.shared.schedule.generation preset cached) →
      StageKnown w' t (forecastStage t w.log) → StageKnown w' t
        ((forecastStage t w.log).next op (forecastExec env w.shared op input).2)) :
    ForecastKnown (w.perform (forecastExec env) t op input) := by
  have hlog : w.log <:+ (w.perform (forecastExec env) t op input).log := List.suffix_cons _ _
  have hsame : (w.perform (forecastExec env) t op input).shared.forecasts = w.shared.forecasts :=
    hforecasts
  have hkeeps : ∀ i, Keeps i w (w.perform (forecastExec env) t op input) := by
    refine fun i => ⟨hlog, hgeneration, fun hheld => ⟨hguard.trans hheld, hsame⟩,
      fun preset cached hslot => ⟨cached, ?_, fun _ _ => id⟩⟩
    rw [HasSlot, hsame]
    exact hslot
  have hslots : ∀ preset cached, HasSlot (w.perform (forecastExec env) t op input) preset cached →
      SlotKnown (w.perform (forecastExec env) t op input).log
        (w.perform (forecastExec env) t op input).shared.schedule.generation preset cached := by
    intro preset cached hslot
    rw [HasSlot, hsame] at hslot
    exact (h.slots preset cached hslot).mono hlog hgeneration
  exact ⟨hslots, h.stages_perform (fun i _ => hkeeps i)
    (hown _ rfl hslots ((h.stages t).keep (hkeeps t)))⟩

/-- The guard is taken: nobody held it. -/
theorem ForecastKnown.locked (h : ForecastKnown w) (hfree : w.shared.forecastRefreshing = none)
    {who : ℕ} (hwho : who = t) :
    ForecastKnown (w.perform (forecastExec env) t (.lockForecast who) input) := by
  subst hwho
  have hlog : w.log <:+ (w.perform (forecastExec env) who (.lockForecast who) input).log :=
    List.suffix_cons _ _
  refine ⟨fun preset cached hslot => (h.slots preset cached hslot).mono hlog (Nat.le_refl _),
    h.stages_perform (fun i _ => ⟨hlog, Nat.le_refl _, fun hheld => ?_,
      fun preset cached hslot => ⟨cached, hslot, fun _ _ => id⟩⟩) ?_⟩
  · rw [hfree] at hheld
    cases hheld
  · exact ⟨(h.stages who).minute, (h.stages who).generation, rfl⟩

/-- The guard is released. -/
theorem ForecastKnown.unlocked (h : ForecastKnown w) {who : ℕ} (hwho : who = t)
    (hholds : (forecastStage t w.log).phase.holds = true) :
    ForecastKnown (w.perform (forecastExec env) t (.unlockForecast who) input) := by
  subst hwho
  have hlog : w.log <:+ (w.perform (forecastExec env) who (.unlockForecast who) input).log :=
    List.suffix_cons _ _
  have hphase := (h.stages who).phase
  have hheld : w.shared.forecastRefreshing = some who := by
    cases hcase : (forecastStage who w.log).phase <;> rw [hcase] at hphase hholds <;>
      first | exact hphase | exact hphase.1 | cases hholds
  refine ⟨fun preset cached hslot => (h.slots preset cached hslot).mono hlog (Nat.le_refl _),
    h.stages_perform (fun i hi => ⟨hlog, Nat.le_refl _, fun hother => ?_,
      fun preset cached hslot => ⟨cached, hslot, fun _ _ => id⟩⟩) ?_⟩
  · rw [hheld] at hother
    exact absurd (Option.some.inj hother).symm hi
  · refine ⟨(h.stages who).minute, (h.stages who).generation, ?_⟩
    change PhaseKnown _ who _ (forecastStage who w.log).phase.release
    cases hcase : (forecastStage who w.log).phase with
    | ready preset =>
        rw [hcase] at hphase
        exact hphase.2
    | _ => trivial

theorem cachedForecast_put (cache : CachedForecasts) (stored : CachedForecast)
    {preset : ForecastPreset} (hpreset : preset ≠ .unspecified) (preset' : ForecastPreset) :
    cachedForecastForPreset (cache.put stored preset) preset' =
      if preset' = preset then some stored else cachedForecastForPreset cache preset' := by
  cases preset <;> cases preset' <;> first | rfl | contradiction

/-- A forecast is stored: it is not older than the one before it. -/
theorem ForecastKnown.stored {preset : ForecastPreset} {baselinePoints : List ProtoForecastPoint}
    {nowMs : ℤ} {generation : ℕ} (h : ForecastKnown w)
    (hpermits : (forecastStage t w.log).Permits t
      (.storeForecast preset baselinePoints nowMs generation))
    (hordered : forecastOrdered w t (.storeForecast preset baselinePoints nowMs generation) input =
      true) :
    ForecastKnown (w.perform (forecastExec env) t
      (.storeForecast preset baselinePoints nowMs generation) input) := by
  obtain ⟨hnow, snapshot, hprojecting, hpoints⟩ := hpermits
  have hphase := (h.stages t).phase
  rw [hprojecting] at hphase
  obtain ⟨hheld, hlatest, ⟨first, hfirst, hle⟩, hold, hread⟩ := hphase
  cases hcached : cachedForecastForPreset w.shared.forecasts preset with
  | none =>
      have hexec : forecastExec env w.shared
          (.storeForecast preset baselinePoints nowMs generation) input =
            ({ w.shared with nowMs := w.shared.nowMs + input.elapsedMs }, none) := by
        simp only [forecastExec, forecastApply, hcached]
      refine h.same (by rw [hexec]) (by rw [hexec]) (by rw [hexec]) fun w' _ _ hown => ?_
      rw [hexec]
      exact hown
  | some cached =>
      set stored := cached.refresh env preset baselinePoints nowMs generation input.draws with hstored
      set op : ForecastOp := .storeForecast preset baselinePoints nowMs generation with hop
      have hexec : forecastExec env w.shared op input =
          ({ w.shared with
              nowMs := w.shared.nowMs + input.elapsedMs
              forecasts := w.shared.forecasts.put stored preset }, some stored.points) := by
        change forecastExec env w.shared
          (.storeForecast preset baselinePoints nowMs generation) input = _
        simp only [forecastExec, forecastApply, hcached, hstored]
      have hpreset : preset ≠ .unspecified := by
        rintro rfl
        cases hcached
      have hshared : (w.perform (forecastExec env) t op input).shared =
          { w.shared with
              nowMs := w.shared.nowMs + input.elapsedMs
              forecasts := w.shared.forecasts.put stored preset } := congrArg Prod.fst hexec
      have hslot : ∀ preset' cached', HasSlot (w.perform (forecastExec env) t op input) preset'
          cached' ↔ if preset' = preset then cached' = stored else HasSlot w preset' cached' := by
        intro preset' cached'
        rw [HasSlot, hshared, cachedForecast_put _ _ hpreset]
        split
        · rw [Option.some_inj, eq_comm]
        · rfl
      have hlog : w.log <:+ (w.perform (forecastExec env) t op input).log := List.suffix_cons _ _
      have hgeneration : (w.perform (forecastExec env) t op input).shared.schedule =
          w.shared.schedule := by rw [hshared]
      have hmade : Made (w.perform (forecastExec env) t op input).log preset nowMs snapshot
          stored.points := by
        refine ⟨t, baselinePoints, generation, ?_, hlog.subset hread, hpoints⟩
        change _ ∈ (⟨t, op, (forecastExec env w.shared op input).2⟩ : ForecastEntry) :: w.log
        rw [hexec]
        exact List.mem_cons_self
      -- the guard keeps the generations in order, the run the minutes
      have hlater : ∀ nowMs' generation', cached.Reaches nowMs' generation' →
          stored.Reaches nowMs' generation' := by
        rintro nowMs' generation' ⟨minute, hminute, recorded, hrecorded, hafter, hnewer⟩
        have hminutes : minute ≤ nowMs / minuteMs := by
          have hslotMinute : cached.minuteSlot = some minute := hminute
          simpa [forecastOrdered, hcached, hslotMinute, op] using hordered
        exact ⟨_, rfl, _, rfl, hafter.trans hminutes,
          hnewer.trans (hlatest.2 preset cached hcached recorded hrecorded)⟩
      refine ⟨fun preset' cached' hslot' => ?_, h.stages_perform (fun i hi => ⟨hlog, ?_, ?_, ?_⟩) ?_⟩
      · rw [hslot] at hslot'
        rw [hgeneration]
        split at hslot'
        · rename_i hsame
          subst hsame hslot'
          exact Or.inr ⟨nowMs, snapshot, generation, hmade, (h.stages t).minute nowMs hnow, rfl, rfl,
            hold, hlatest.1⟩
        · exact (h.slots preset' cached' hslot').mono hlog (Nat.le_refl _)
      · rw [hgeneration]
      · intro hother
        rw [hheld] at hother
        exact absurd (Option.some.inj hother).symm hi
      · intro preset' cached' hslot'
        by_cases hsame : preset' = preset
        · subst hsame
          obtain rfl := Option.some.inj (hslot'.symm.trans hcached)
          exact ⟨stored, (hslot _ _).mpr (by rw [if_pos rfl]), hlater⟩
        · exact ⟨cached', (hslot _ _).mpr (by rwa [if_neg hsame]), fun _ _ => id⟩
      · have hnext : (forecastStage t w.log).next op (forecastExec env w.shared op input).2 =
            { forecastStage t w.log with phase := .ready preset } := by
          rw [hexec]
          rfl
        rw [hnext]
        refine ⟨(h.stages t).minute, fun g hg => ?_, ?_⟩
        · rw [hgeneration]
          exact (h.stages t).generation g hg
        · refine ⟨?_, nowMs, first, stored, hnow, hfirst, (hslot _ _).mpr (by rw [if_pos rfl]),
            _, rfl, _, rfl, Int.le_refl _, hle⟩
          rw [hshared]
          exact hheld

theorem ForecastKnown.step (h : ForecastKnown w) (hfree : forecastFree w.shared op = true)
    (hordered : forecastOrdered w t op input = true)
    (hpermits : (forecastStage t w.log).Permits t op) :
    ForecastKnown (w.perform (forecastExec env) t op input) := by
  cases op with
  | minuteStart =>
      refine h.same rfl rfl (Nat.le_refl _) fun w' _ _ _ => ⟨fun nowMs hnow => ?_, nofun, trivial⟩
      obtain rfl := Option.some.inj hnow
      change (w.shared.nowMs + input.elapsedMs -
        (w.shared.nowMs + input.elapsedMs) % minuteMs) % minuteMs = 0
      unfold minuteMs
      omega
  | checkSchedule =>
      refine h.same rfl rfl (Nat.le_refl _) fun w' hw' hslots hown => ?_
      simp only [forecastExec, forecastApply]
      split
      · have hlatest := latest_of_slots hslots
        subst hw'
        exact hown.obtain hlatest
      · exact hown
  | readGeneration =>
      refine h.same rfl rfl (Nat.le_refl _) fun w' hw' hslots hown => ?_
      have hlatest := latest_of_slots hslots
      subst hw'
      exact hown.obtain hlatest
  | readEntries =>
      refine h.same rfl rfl (Nat.le_refl _) fun w' hw' _ hown => ?_
      subst hw'
      exact hown.snap List.mem_cons_self
  | readForecast preset =>
      refine h.same rfl rfl (Nat.le_refl _) fun w' hw' hslots hown => ?_
      cases hcached : cachedForecastForPreset w.shared.forecasts preset with
      | none =>
          simp only [forecastExec, forecastApply, hcached]
          exact hown
      | some cached =>
          have hslot : HasSlot w' preset cached := by
            subst hw'
            exact hcached
          simp only [forecastExec, forecastApply, hcached]
          exact hown.look hslots hslot
  | storeSchedule schedule =>
      refine h.same rfl rfl ?_ fun w' _ _ hown => hown
      change w.shared.schedule.generation ≤ (w.shared.schedule.refresh schedule _).generation
      unfold CachedSchedule.refresh wrappingSucc
      dsimp only
      split
      · rename_i hchanged
        have hroom : w.shared.schedule.generation + 1 < 2 ^ 64 := by
          simpa [forecastOrdered, hchanged] using hordered
        rw [Nat.mod_eq_of_lt hroom]
        exact Nat.le_succ _
      · exact Nat.le_refl _
  | lockForecast who => exact h.locked (Option.isNone_iff_eq_none.mp hfree) hpermits.1
  | unlockForecast who => exact h.unlocked hpermits.1 hpermits.2
  | storeForecast preset baselinePoints nowMs generation => exact h.stored hpermits hordered
  | replaceSchedule schedule =>
      cases hfails : input.fails with
      | none =>
          refine h.same ?_ ?_ ?_ fun w' _ _ hown => ?_ <;>
            simp only [forecastExec, forecastApply, hfails]
          · exact Nat.le_refl _
          · exact hown
      | some message =>
          refine h.same ?_ ?_ ?_ fun w' _ _ hown => ?_ <;>
            simp only [forecastExec, forecastApply, hfails]
          · exact Nat.le_refl _
          · exact hown
  | recheckSchedule => exact h.same rfl rfl (Nat.le_refl _) fun w' _ _ hown => hown
  | lockRefresh => exact h.same rfl rfl (Nat.le_refl _) fun w' _ _ hown => hown
  | unlockRefresh => exact h.same rfl rfl (Nat.le_refl _) fun w' _ _ hown => hown
  | getSchedule => exact h.same rfl rfl (Nat.le_refl _) fun w' _ _ hown => hown

end Steps

/-! ## Runs -/

/-- In every run in which no forecast is stored over one of a later minute,
a request that is answered with a forecast gets one that has been projected
from the minute of the request or a later one, and from the generation that
it has obtained or a later one. -/
theorem forecast_belongs (env : ForecastEnv) (requests : ℕ → ForecastRequest) (nowMs : ℤ)
    (table : List ScheduleEntry) (events : List (ℕ × ForecastInput))
    (hordered : Along (Pool.Guarded fun w i op input => forecastOrdered w i op input = true)
      (Pool.waitStep (forecastExec env) forecastFree)
      (forecastStart env requests (.initial nowMs table)) events) :
    let p := stateAt (Pool.waitStep (forecastExec env) forecastFree)
      (forecastStart env requests (.initial nowMs table)) events
    ∀ n i preset points, (p n).threads i = .ret (.ok (.forecast preset points)) →
      ∃ nowMs ∈ (forecastStage i (p n).world.log).nowMs,
        ∃ generation ∈ (forecastStage i (p n).world.log).generation,
          Projected (p n).world.log preset nowMs generation points := by
  intro p n i preset points hret
  have hfollowed : (forecastStart env requests (.initial nowMs table)).FollowedBy forecastProtocol
      ForecastEnded := fun i => forecastRequest_follows env (requests i)
  have hkept : ForecastKnown (p n).world ∧ (p n).FollowedBy forecastProtocol ForecastEnded := by
    refine hfollowed.invariant_guarded
      (fun w i op input hw hfree hguard hpermits => hw.step hfree hguard hpermits) ?_ hordered n
    refine ⟨fun preset cached hslot => Or.inl ?_, fun i => ⟨nofun, nofun, trivial⟩⟩
    cases preset with
    | unspecified => cases hslot
    | oneHourStep15Min => exact (Option.some.inj hslot).symm
    | twelveHoursStep1Hour => exact (Option.some.inj hslot).symm
  have hends := hkept.2 i
  rw [hret] at hends
  have hserved : (forecastStage i (p n).world.log).phase = .served preset points :=
    hends preset points rfl
  have hphase := (hkept.1.stages i).phase
  rw [hserved] at hphase
  exact hphase

namespace LateRefresh

def plain : ForecastEnv := ⟨fun x _ => x, fun status => status.message⟩

def table : List ScheduleEntry := [⟨0, .clear, 20⟩]

def requests : ℕ → ForecastRequest := fun _ => .currentForecast .oneHourStep15Min

def after (elapsedMs : ℕ) : ForecastInput := ⟨elapsedMs, none, fun _ => ⟨0, false, 0, 0⟩⟩

abbrev step : ForecastPool → ℕ × ForecastInput → ForecastPool :=
  Pool.waitStep (forecastExec plain) forecastFree

/-- Shortly before a full minute. -/
def start : ForecastPool := forecastStart plain requests (.initial 59999 table)

/-- The forecast from a time on, with nothing drawn. -/
def pointsFrom (startMs : ℤ) (later : List ℤ) : List ProtoForecastPoint :=
  (startMs :: later).map fun timeMs => ⟨some (msToTimestamp timeMs), .clear, 0, 20⟩

def firstPoints : List ProtoForecastPoint := pointsFrom 0 [900000, 1800000, 2700000, 3600000]

def laterPoints : List ProtoForecastPoint := pointsFrom 60000 [900000, 1800000, 2700000, 3600000]

/-- The first request is answered; the second one is of the next minute, and
stores its forecast over the first. -/
def inTurn : List (ℕ × ForecastInput) :=
  List.replicate 16 (0, after 0) ++ (1, after 1) :: List.replicate 15 (1, after 0)

theorem inTurn_belongs :
    (stateAt step start inTurn 32).threads 0 =
        .ret (.ok (.forecast .oneHourStep15Min firstPoints)) ∧
      (stateAt step start inTurn 32).threads 1 =
        .ret (.ok (.forecast .oneHourStep15Min laterPoints)) ∧
      ∃ nowMs ∈ (forecastStage 1 (stateAt step start inTurn 32).world.log).nowMs,
        ∃ generation ∈ (forecastStage 1 (stateAt step start inTurn 32).world.log).generation,
          Projected (stateAt step start inTurn 32).world.log .oneHourStep15Min nowMs generation
            laterPoints := by
  have hret : (stateAt step start inTurn 32).threads 1 =
      .ret (.ok (.forecast .oneHourStep15Min laterPoints)) :=
    Prog.eq_ret_of_result? (by decide +kernel)
  exact ⟨Prog.eq_ret_of_result? (by decide +kernel), hret,
    forecast_belongs plain requests 59999 table inTurn (by decide +kernel) 32 1 _ _ hret⟩

/-- The first request has read its minute; the second one begins in the next
minute and renews the forecast, the first one renews it after that, and then
the second one reads it. -/
def events : List (ℕ × ForecastInput) :=
  (0, after 0) :: (1, after 1) :: List.replicate 14 (1, after 0) ++
    List.replicate 9 (0, after 0) ++ [(1, after 0)]

/-- Nobody has stored the points for the minute or a later one. -/
def isEarlier (points : List ProtoForecastPoint) (minuteMs : ℤ) : ForecastEntry → Bool
  | ⟨_, .storeForecast _ _ nowMs _, some stored⟩ => stored ≠ points || nowMs < minuteMs
  | _ => true

/-- The request of the second minute is answered with the forecast of the
first one. -/
theorem serves_an_earlier_minute :
    (stateAt step start events 26).threads 1 =
        .ret (.ok (.forecast .oneHourStep15Min firstPoints)) ∧
      (forecastStage 1 (stateAt step start events 26).world.log).nowMs = some 60000 ∧
      ∀ generation, ¬ Projected (stateAt step start events 26).world.log .oneHourStep15Min 60000
        generation firstPoints := by
  refine ⟨Prog.eq_ret_of_result? (by decide +kernel), by decide +kernel, ?_⟩
  rintro generation ⟨startMs, snapshot, ⟨j, baselinePoints, recorded, hstore, -, -⟩, hlater, -⟩
  have hearlier : ∀ e ∈ (stateAt step start events 26).world.log,
      isEarlier firstPoints 60000 e = true := by
    decide +kernel
  have hstored := hearlier _ hstore
  simp only [isEarlier, ne_eq, not_true_eq_false, decide_false, Bool.false_or,
    decide_eq_true_eq] at hstored
  omega

end LateRefresh

end HackArena.Weather
