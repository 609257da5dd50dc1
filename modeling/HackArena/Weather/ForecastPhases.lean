import HackArena.Weather.ForecastCache

/-!
# The phases of a forecast

A request reads the minute and a generation of the schedule. It finds a
forecast that belongs to both, or it renews the forecast under the guard and
reads it again when it has released the guard.
-/

namespace HackArena.Weather

open Domain HackArena.Services

inductive ForecastPhase where
  | free
  | guarded
  | renewed (scheduleGeneration : ℕ)
  | projecting (scheduleGeneration : ℕ) (snapshot : CachedSchedule)
  | ready (preset : ForecastPreset)
  | refreshed (preset : ForecastPreset)
  | served (preset : ForecastPreset) (points : List ProtoForecastPoint)

/-- The guard of the forecasts is held. -/
def ForecastPhase.holds : ForecastPhase → Bool
  | .guarded | .renewed _ | .projecting .. | .ready _ => true
  | .free | .refreshed _ | .served .. => false

def ForecastPhase.renew (generation : ℕ) : ForecastPhase → ForecastPhase
  | .guarded => .renewed generation
  | phase => phase

def ForecastPhase.snap (snapshot : CachedSchedule) : ForecastPhase → ForecastPhase
  | .renewed generation => .projecting generation snapshot
  | phase => phase

def ForecastPhase.release : ForecastPhase → ForecastPhase
  | .ready preset => .refreshed preset
  | _ => .free

/-- The minute of the request, and the first generation it has obtained
since. -/
structure ForecastStage where
  nowMs : Option ℤ
  generation : Option ℕ
  phase : ForecastPhase

def ForecastStage.obtain (s : ForecastStage) (generation : ℕ) : ForecastStage :=
  { s with
    generation := some (s.generation.getD generation)
    phase := s.phase.renew generation }

/-- The cached forecast is read. -/
def ForecastStage.look (s : ForecastStage) (preset : ForecastPreset) (cached : CachedForecast) :
    ForecastPhase :=
  match s.phase, s.nowMs, s.generation with
  | .free, some nowMs, some generation =>
      if isForecastCacheFresh cached generation nowMs then .served preset cached.points else .free
  | .renewed generation, some nowMs, _ =>
      if isForecastCacheFresh cached generation nowMs then .ready preset else .renewed generation
  | .refreshed preset', _, _ =>
      if preset' = preset then .served preset cached.points else .refreshed preset'
  | phase, _, _ => phase

def ForecastStage.next (s : ForecastStage) : (op : ForecastOp) → op.Answer → ForecastStage
  | .minuteStart, nowMs => ⟨some nowMs, none, .free⟩
  | .checkSchedule, some generation => s.obtain generation
  | .readGeneration, generation => s.obtain generation
  | .readEntries, snapshot => { s with phase := s.phase.snap snapshot }
  | .readForecast preset, some cached => { s with phase := s.look preset cached }
  | .lockForecast _, () => { s with phase := .guarded }
  | .unlockForecast _, () => { s with phase := s.phase.release }
  | .storeForecast preset _ _ _, some _ => { s with phase := .ready preset }
  | _, _ => s

/-- Forecasts are stored under the guard only, and as they have been
projected. -/
def ForecastStage.Permits (me : ℕ) (s : ForecastStage) : ForecastOp → Prop
  | .minuteStart => s.phase.holds = false
  | .lockForecast who => who = me ∧ s.phase.holds = false ∧ ∃ nowMs, s.nowMs = some nowMs
  | .unlockForecast who => who = me ∧ s.phase.holds = true
  | .storeForecast preset baselinePoints nowMs scheduleGeneration =>
      s.nowMs = some nowMs ∧ ∃ snapshot, s.phase = .projecting scheduleGeneration snapshot ∧
        baselinePointsFor snapshot.entries nowMs preset = .ok baselinePoints
  | _ => True

def forecastProtocol (me : ℕ) : Protocol ForecastOp ForecastOp.Answer ForecastStage where
  init := ⟨none, none, .free⟩
  next := ForecastStage.next
  permits := ForecastStage.Permits me

abbrev forecastStage (i : ℕ) (log : List ForecastEntry) : ForecastStage :=
  (forecastProtocol i).stageOf i log

section Follows

open Prog

variable {me : ℕ} {s : ForecastStage} {preset : ForecastPreset} {nowMs : ℤ}

/-- The calls on the schedule that are no concern of the stage. -/
def ForecastOp.IsRefresh : ForecastOp → Prop
  | .recheckSchedule | .lockRefresh | .unlockRefresh | .getSchedule | .storeSchedule _ => True
  | _ => False

theorem refreshCacheSingleflight_uses :
    refreshCacheSingleflight.run.Uses ForecastOp.IsRefresh := by
  refine .bindExcept ⟨trivial, fun _ => trivial⟩ fun _ => ?_
  refine .bindExcept (.lift ?_) fun result => ?_
  · refine .bindExcept ⟨trivial, fun _ => trivial⟩ fun usable => ?_
    cases usable with
    | true => trivial
    | false =>
        refine .bindExcept (.orFail ⟨trivial, fun _ => trivial⟩) fun schedule => ?_
        exact ⟨trivial, fun _ => trivial⟩
  · refine .bindExcept ⟨trivial, fun _ => trivial⟩ fun _ => ?_
    cases result <;> trivial

theorem refreshCacheSingleflight_follows :
    refreshCacheSingleflight.run.Follows (forecastProtocol me)
      (Either (fun _ s' => s' = s) fun _ s' => s' = s) s := by
  refine Follows.mono (refreshCacheSingleflight_uses.follows fun op hop => ?_)
    fun result s' hs' => ?_
  · cases op <;> first | exact ⟨trivial, fun _ => rfl⟩ | cases hop
  · cases result <;> exact hs'

theorem ensureScheduleCacheFresh_follows :
    ensureScheduleCacheFresh.run.Follows (forecastProtocol me)
      (Either (fun generation s' => s' = s.obtain generation) fun _ s' => s' = s) s := by
  have hcheck : ForecastOp.checkSchedule.call.Follows (forecastProtocol me)
      (fun answer s' => s' = s.next .checkSchedule answer) s := ⟨trivial, fun _ => rfl⟩
  refine .bindExcept (.lift hcheck) fun answer s' hs' => ?_
  subst hs'
  cases answer with
  | some generation => exact rfl
  | none =>
      refine .bindExcept refreshCacheSingleflight_follows fun _ s' hs' => ?_
      subst hs'
      exact ⟨trivial, fun _ => rfl⟩

/-- The forecast of the preset is there, and the guard is held. -/
def ForecastStage.Ready (nowMs : ℤ) (preset : ForecastPreset) (s : ForecastStage) : Prop :=
  s.nowMs = some nowMs ∧ s.phase = .ready preset

/-- The guard is held. -/
def ForecastStage.Holding (nowMs : ℤ) (s : ForecastStage) : Prop :=
  s.nowMs = some nowMs ∧ s.phase.holds = true

theorem refreshForecastOnce_follows {generation : ℕ} (hnow : s.nowMs = some nowMs)
    (hphase : s.phase = .renewed generation) :
    (refreshForecastOnce preset nowMs generation).run.Follows (forecastProtocol me)
      (Either (fun _ s' => s'.Ready nowMs preset) fun _ s' => s'.Holding nowMs) s := by
  have hread : ForecastOp.readEntries.call.Follows (forecastProtocol me)
      (fun snapshot s' => s'.nowMs = some nowMs ∧ s'.phase = .projecting generation snapshot) s :=
    ⟨trivial, fun snapshot => ⟨hnow, congrArg (ForecastPhase.snap snapshot) hphase⟩⟩
  refine .bindExcept (.lift hread) fun snapshot s' hs' => ?_
  obtain ⟨hnow', hphase'⟩ := hs'
  have hholding : s'.Holding nowMs := ⟨hnow', by rw [hphase']; rfl⟩
  have hproject : (ExceptT.mk (pure (baselinePointsFor snapshot.entries nowMs preset)) :
      ForecastCall _).run.Follows (forecastProtocol me)
        (Either (fun baselinePoints s'' => s'' = s' ∧
          baselinePointsFor snapshot.entries nowMs preset = .ok baselinePoints)
          fun _ s'' => s''.Holding nowMs) s' :=
    Follows.ofExcept (fun _ _ => hholding) fun _ hpoints => ⟨rfl, hpoints⟩
  refine .bindExcept hproject fun baselinePoints s'' hs'' => ?_
  obtain ⟨rfl, hpoints⟩ := hs''
  refine ⟨⟨hnow', snapshot, hphase', hpoints⟩, fun answer => ?_⟩
  cases answer with
  | none => exact hholding
  | some points => exact ⟨hnow', rfl⟩

theorem refreshForecastUnlessFresh_follows (hnow : s.nowMs = some nowMs)
    (hphase : s.phase = .guarded) :
    (refreshForecastUnlessFresh preset nowMs).run.Follows (forecastProtocol me)
      (Either (fun _ s' => s'.Ready nowMs preset) fun _ s' => s'.Holding nowMs) s := by
  have hensure : ensureScheduleCacheFresh.run.Follows (forecastProtocol me)
      (Either (fun generation s' => s'.nowMs = some nowMs ∧ s'.phase = .renewed generation)
        fun _ s' => s'.Holding nowMs) s := by
    refine Follows.mono ensureScheduleCacheFresh_follows fun result s' hs' => ?_
    cases result with
    | ok generation =>
        obtain rfl := hs'
        exact ⟨hnow, congrArg (ForecastPhase.renew generation) hphase⟩
    | error err =>
        obtain rfl := hs'
        exact ⟨hnow, by rw [hphase]; rfl⟩
  refine .bindExcept hensure fun generation s' hs' => ?_
  obtain ⟨hnow', hphase'⟩ := hs'
  have hread : (ForecastOp.readForecast preset).call.Follows (forecastProtocol me)
      (fun answer s'' => s'' = s'.next (.readForecast preset) answer) s' :=
    ⟨trivial, fun _ => rfl⟩
  refine .bindExcept (.lift hread) fun answer s'' hs'' => ?_
  subst hs''
  cases answer with
  | none =>
      refine ⟨hnow', ?_⟩
      change s'.phase.holds = true
      rw [hphase']
      rfl
  | some cached =>
      have hlook : s'.look preset cached =
          if isForecastCacheFresh cached generation nowMs then .ready preset
          else .renewed generation := by
        rw [ForecastStage.look, hphase', hnow']
      dsimp only
      split
      · rename_i hfresh
        rw [if_pos hfresh] at hlook
        exact ⟨hnow', hlook⟩
      · rename_i hstale
        rw [if_neg hstale] at hlook
        exact refreshForecastOnce_follows hnow' hlook

theorem refreshForecastSingleflight_follows (hnow : s.nowMs = some nowMs)
    (hphase : s.phase.holds = false) :
    (refreshForecastSingleflight me preset nowMs).run.Follows (forecastProtocol me)
      (Either (fun _ s' => s'.nowMs = some nowMs ∧ s'.phase = .refreshed preset)
        fun _ s' => s'.nowMs = some nowMs ∧ s'.phase.holds = false) s := by
  have hlock : (ForecastOp.lockForecast me).call.Follows (forecastProtocol me)
      (fun _ s' => s'.nowMs = some nowMs ∧ s'.phase = .guarded) s :=
    ⟨⟨rfl, hphase, nowMs, hnow⟩, fun _ => ⟨hnow, rfl⟩⟩
  refine .bindExcept (.lift hlock) fun _ s' hs' => ?_
  refine .bindExcept (.lift (refreshForecastUnlessFresh_follows hs'.1 hs'.2))
    fun result s'' hs'' => ?_
  cases result with
  | ok u =>
      obtain ⟨hnow'', hready⟩ := hs''
      exact ⟨⟨rfl, by rw [hready]; rfl⟩, fun _ =>
        ⟨hnow'', congrArg ForecastPhase.release hready⟩⟩
  | error err =>
      refine ⟨⟨rfl, hs''.2⟩, fun _ => ⟨hs''.1, ?_⟩⟩
      change s''.phase.release.holds = false
      cases s''.phase <;> rfl

theorem refreshedForecast_follows (env : ForecastEnv) (hnow : s.nowMs = some nowMs)
    (hphase : s.phase.holds = false) :
    (refreshedForecast env me preset nowMs).run.Follows (forecastProtocol me)
      (Either (fun points s' => s'.phase = .served preset points) fun _ _ => True) s := by
  have hflight : (refreshForecastSingleflight me preset nowMs).run.Follows (forecastProtocol me)
      (Either (fun _ s' => s'.phase = .refreshed preset) fun _ _ => True) s := by
    refine Follows.mono (refreshForecastSingleflight_follows hnow hphase) fun result s' hs' => ?_
    cases result with
    | ok u => exact hs'.2
    | error err => trivial
  refine .bindExcept (Follows.orFail hflight) fun _ s' hs' => ?_
  refine ⟨trivial, fun answer => ?_⟩
  cases answer with
  | none => trivial
  | some cached =>
      change s'.look preset cached = _
      rw [ForecastStage.look, hs']
      exact if_pos rfl

theorem currentForecast_follows (env : ForecastEnv) :
    (currentForecast env me preset).run.Follows (forecastProtocol me)
      (Either (fun points s' => s'.phase = .served preset points) fun _ _ => True)
      ⟨none, none, .free⟩ := by
  have hminute : ForecastOp.minuteStart.call.Follows (forecastProtocol me)
      (fun nowMs s' => s' = ⟨some nowMs, none, .free⟩) ⟨none, none, .free⟩ :=
    ⟨rfl, fun _ => rfl⟩
  refine .bindExcept (.lift hminute) fun nowMs s hs => ?_
  subst hs
  have hensure : ensureScheduleCacheFresh.run.Follows (forecastProtocol me)
      (Either (fun generation s' => s' = ⟨some nowMs, some generation, .free⟩) fun _ _ => True)
      ⟨some nowMs, none, .free⟩ := by
    refine Follows.mono ensureScheduleCacheFresh_follows fun result s' hs' => ?_
    cases result with
    | ok generation => exact hs'
    | error err => trivial
  refine .bindExcept (Follows.orFail hensure) fun generation s' hs' => ?_
  subst hs'
  have hread : (ForecastOp.readForecast preset).call.Follows (forecastProtocol me)
      (fun answer s' => s' = ForecastStage.next ⟨some nowMs, some generation, .free⟩
        (.readForecast preset) answer) ⟨some nowMs, some generation, .free⟩ :=
    ⟨trivial, fun _ => rfl⟩
  refine .bindExcept (.lift hread) fun answer s' hs' => ?_
  subst hs'
  cases answer with
  | none => exact refreshedForecast_follows env rfl rfl
  | some cached =>
      dsimp only
      split
      · rename_i hfresh
        exact if_pos hfresh
      · rename_i hstale
        refine refreshedForecast_follows env rfl ?_
        change (if _ then _ else _ : ForecastPhase).holds = false
        rw [if_neg hstale]
        rfl

theorem runCacheRefreshLoop_follows (rounds : ℕ) : ∀ s : ForecastStage, s.phase.holds = false →
    (runCacheRefreshLoop me rounds).Follows (forecastProtocol me) (fun _ _ => True) s := by
  induction rounds with
  | zero => exact fun _ _ => trivial
  | succ rounds ih =>
      intro s hphase
      refine .andThen refreshCacheSingleflight_follows fun result s' hs' => ?_
      cases result with
      | error err =>
          obtain rfl := hs'
          exact ih s' hphase
      | ok u =>
          obtain rfl := hs'
          have hminute : ForecastOp.minuteStart.call.Follows (forecastProtocol me)
              (fun nowMs s'' => s'' = ⟨some nowMs, none, .free⟩) s' := ⟨hphase, fun _ => rfl⟩
          refine .andThen hminute fun nowMs s'' hs'' => ?_
          subst hs''
          have hboth : ∀ (preset : ForecastPreset) (s' : ForecastStage), s'.nowMs = some nowMs →
              s'.phase.holds = false →
              (refreshForecastSingleflight me preset nowMs).run.Follows (forecastProtocol me)
                (fun _ s'' => s''.nowMs = some nowMs ∧ s''.phase.holds = false) s' := by
            intro preset s' hnow hs'
            refine Follows.mono (refreshForecastSingleflight_follows hnow hs')
              fun result s'' hs'' => ?_
            cases result with
            | ok u => exact ⟨hs''.1, by rw [hs''.2]; rfl⟩
            | error err => exact hs''
          refine .andThen (hboth .oneHourStep15Min _ rfl rfl) fun _ s₁ hs₁ => ?_
          refine .andThen (hboth .twelveHoursStep1Hour s₁ hs₁.1 hs₁.2) fun _ s₂ hs₂ => ?_
          exact ih s₂ hs₂.2

/-- What a request ends with. -/
abbrev ForecastEnded : Except Status ForecastAnswer → ForecastStage → Prop :=
  Either (fun answer s => ∀ preset points, answer = .forecast preset points →
    s.phase = .served preset points) fun _ _ => True

theorem forecastRequest_follows (env : ForecastEnv) (request : ForecastRequest) :
    (request.run env me).run.Follows (forecastProtocol me) ForecastEnded ⟨none, none, .free⟩ := by
  cases request with
  | currentForecast preset =>
      refine .bindExcept (currentForecast_follows env) fun points s hs => ?_
      rintro _ _ ⟨rfl, rfl⟩
      exact hs
  | refreshLoop rounds =>
      refine .bindExcept (.lift (runCacheRefreshLoop_follows rounds _ rfl)) fun _ s _ => ?_
      rintro _ _ ⟨⟩
  | replaceSchedule schedule =>
      have hcall : (ForecastOp.replaceSchedule schedule).call.Follows (forecastProtocol me)
          (fun _ _ => True) ⟨none, none, .free⟩ := ⟨trivial, fun _ => trivial⟩
      refine .bindExcept (.lift hcall) fun _ s _ => ?_
      rintro _ _ ⟨⟩

end Follows

end HackArena.Weather
