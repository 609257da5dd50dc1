import HackArena.Official.RaceSession
import HackArena.Services.ParticipantStream

/-!
# The spectator stream of the frontend

The view of a stream is resolved from the scopes of the token and told to
the client in the first event. The snapshots that follow do not look at
it: they show every car of the chosen world in full.
-/

namespace HackArena.Services

open Boink HackArena.Runtime HackArena.Local HackArena.Official

def defaultStreamHz : ℕ := 20

/-! ## The stream -/

/-- The request of a stream with what it is resolved to; the server does
not start without a simulation rate. -/
structure SpectatorConfig where
  build : Build
  simulationHz : ℕ
  simulationHz_pos : 0 < simulationHz
  requestedHz : ℕ
  includeDebug : Bool
  requestedView : Raw SpectatorView
  viewNumber : SpectatorView → ℤ
  scopes : List String
  runtimeMapId : String
  visibleTarget : Option EngineCommandTarget

/-- What an iteration reads, and whether its event is taken. -/
structure SpectatorEnv where
  frame : RuntimeFrame
  session : OfficialRaceSession
  races : LocalRaceState
  nowMs : ℕ
  sent : Bool

structure FrontendSpectatorSnapshot where
  tick : ℕ
  serverTimeMs : ℕ
  cars : List FrontendCarFullState
  engineRaceElapsedSec : Option F32
  runtimeElapsedSec : Option F32
  raceLeaderCompletedLaps : Option ℕ
  runtimeRemainingSec : Option F32

inductive SpectatorEffect where
  | settings (value : StreamSettings) (sent : Bool)
  | snapshot (value : FrontendSpectatorSnapshot) (sent : Bool)
  | cleanup (reason : String)

def normalizeRequestedView : Raw SpectatorView → SpectatorView
  | none | some .unspecified => .public
  | some view => view

def resolveStreamRate (requestedHz simulationHz : ℕ) : ℕ × ℕ × StreamClampReason :=
  let requestedHz := if requestedHz = 0 then defaultStreamHz else requestedHz
  let maxHz := min maxStreamHz simulationHz
  let effectiveHz := max minStreamHz (min requestedHz maxHz)
  (requestedHz, effectiveHz, if effectiveHz = requestedHz then .none else .serverLimit)

def SpectatorConfig.view (cfg : SpectatorConfig) : SpectatorView × ViewDowngradeReason :=
  resolveView cfg.viewNumber (normalizeRequestedView cfg.requestedView) cfg.scopes

def frontendSettings (cfg : SpectatorConfig) : StreamSettings :=
  let rate := resolveStreamRate cfg.requestedHz cfg.simulationHz
  ⟨rate.1, rate.2.1, rate.2.2, cfg.view.1, cfg.view.2, cfg.runtimeMapId⟩

/-- The world of the stream is still there. -/
def targetIsActive (target : Option EngineCommandTarget) (frame : RuntimeFrame) : Bool :=
  match target with
  | some .officialRace =>
      frame.runtimeState.any fun state => state.activityKind = .officialRace
  | some (.localRace raceId) =>
      (frame.runtimeState.bind (·.activeLocalRace)).any fun race => race.raceId = raceId
  | some (.sandbox _) | none => true

def visibleCars (target : Option EngineCommandTarget) (frame : RuntimeFrame) :
    List RuntimeCarFrame :=
  (frame.cars.values.filter fun entry => match target with
    | some target => entry.target = target
    | none => true).insertionSort fun a b => a.publicCarId ≤ b.publicCarId

def raceLeaderCompletedLaps (target : Option EngineCommandTarget)
    (frameCars : List RuntimeCarFrame) : Option ℕ :=
  match target with
  | some .officialRace | some (.localRace _) =>
      some ((frameCars.map fun entry =>
        (entry.raceMetrics.map (·.completedLaps)).getD 0).foldl max 0)
  | some (.sandbox _) | none => none

def frontendCar (entry : RuntimeCarFrame) : FrontendCarFullState :=
  let currentLapElapsedMs := entry.raceMetrics.bind fun metrics =>
    if 0 < metrics.completedLaps ∨ 0 < metrics.lapProgressM ∨ 0 < metrics.currentLapTimeMs then
      some metrics.currentLapTimeMs
    else none
  frontendFullState entry.publicCarId entry.state entry.lastClientSeq entry.pitState
    entry.controlsInput currentLapElapsedMs (entry.raceMetrics.bind (·.lastLapTimeMs))
    entry.bestLapTimeMs

def spectatorDebug (cfg : SpectatorConfig) (frame : RuntimeFrame) : Option F32 :=
  if cfg.includeDebug then
    match cfg.visibleTarget with
    | some .officialRace => frame.officialRaceDurationS
    | some (.sandbox sandboxId) => frame.sandboxRaceDurationS.lookup sandboxId
    | some (.localRace raceId) => frame.localRaceDurationS.lookup raceId
    | none => none
  else none

def runtimeElapsedSec (target : Option EngineCommandTarget) (frame : RuntimeFrame) : Option F32 :=
  match target with
  | some (.sandbox sandboxId) => frame.sandboxRaceDurationS.lookup sandboxId
  | some (.localRace raceId) => frame.localRaceDurationS.lookup raceId
  | some .officialRace | none => none

def localRaceRemainingSec (env : SpectatorEnv) (raceId : String) (nowMs : ℕ) : Option F32 :=
  match activeRace env.races env.nowMs with
  | none => none
  | some race =>
      if race.raceId ≠ raceId then none
      else (timestampMs race.plannedEndAtUtc).map fun plannedEndMs =>
        ((plannedEndMs - nowMs : ℕ) : F32) / 1000

/-- The clock saturates at the largest `i64`, and so does the difference. -/
def officialSandboxPendingCloseRemainingSec (frame : RuntimeFrame) (sandboxId : String) :
    Option F32 :=
  frame.runtimeState.bind fun state =>
    let nowMs : ℤ := min frame.serverTimeMs (2 ^ 63 - 1)
    let closings := state.pendingSandboxActivations.filter fun activation =>
      activation.activate = false ∧ activation.sandboxId = sandboxId
    ((closings.map (·.executeAtUnixMs)).min?).map fun executeAtMs =>
      ((max 0 (min (executeAtMs - nowMs) (2 ^ 63 - 1)) : ℤ) : F32) / 1000

def runtimeRemainingSec (cfg : SpectatorConfig) (env : SpectatorEnv) : Option F32 :=
  match cfg.visibleTarget with
  | some .officialRace =>
      if cfg.build = .official then env.session.remainingSec env.frame.serverTimeMs else none
  | some (.sandbox sandboxId) =>
      if cfg.build = .official then officialSandboxPendingCloseRemainingSec env.frame sandboxId
      else none
  | some (.localRace raceId) =>
      if cfg.build.isLocal then localRaceRemainingSec env raceId env.frame.serverTimeMs else none
  | none => none

def spectatorSnapshot (cfg : SpectatorConfig) (env : SpectatorEnv) : FrontendSpectatorSnapshot :=
  let frameCars := visibleCars cfg.visibleTarget env.frame
  { tick := env.frame.tick
    serverTimeMs := env.frame.serverTimeMs
    cars := frameCars.map frontendCar
    engineRaceElapsedSec := spectatorDebug cfg env.frame
    runtimeElapsedSec := runtimeElapsedSec cfg.visibleTarget env.frame
    raceLeaderCompletedLaps := raceLeaderCompletedLaps cfg.visibleTarget frameCars
    runtimeRemainingSec := runtimeRemainingSec cfg env }

/-- The loop, until the world or the client is gone. -/
def spectatorTurns (cfg : SpectatorConfig) : List SpectatorEnv → List SpectatorEffect
  | [] => []
  | env :: rest =>
      if targetIsActive cfg.visibleTarget env.frame then
        .snapshot (spectatorSnapshot cfg env) env.sent ::
          if env.sent then spectatorTurns cfg rest else [.cleanup "disconnect"]
      else []

def runFrontendSpectatorStream (cfg : SpectatorConfig) (settingsSent : Bool)
    (envs : List SpectatorEnv) : List SpectatorEffect :=
  .settings (frontendSettings cfg) settingsSent ::
    if settingsSent then spectatorTurns cfg envs else []

/-! ## What a view covers -/

/-- The numbers of the views rise with what they show. -/
structure ViewOrder (viewNumber : SpectatorView → ℤ) : Prop where
  public_lt_team : viewNumber .public < viewNumber .team
  team_lt_all : viewNumber .team < viewNumber .all

/-- A view covers all cars, those of the viewer's team, or none. -/
def covers (viewerTeam : Option String) : SpectatorView → RuntimeCarFrame → Bool
  | .all, _ => true
  | .team, entry => (entry.identity.bind (·.teamId)).any fun team => viewerTeam = some team
  | .public, _ | .unspecified, _ => false

/-- The car without telemetry, control inputs, pit state and lap times. -/
def RuntimeCarFrame.redacted (entry : RuntimeCarFrame) : RuntimeCarFrame :=
  { entry with
    state := { entry.state with
      speed := 0, engineRpm := 0, gear := .neutral, throttleApplied := 0, brakeApplied := 0
      tyreHealth := .replicate 4 0, tyreTemperatureCelsius := .replicate 4 0
      tyreSlip := .replicate 4 0, tyreType := .hard, ghostModeRuntime := .default
      pitstopState := ⟨0, 0⟩ }
    raceMetrics := entry.raceMetrics.map fun metrics =>
      { metrics with currentLapTimeMs := 0, lastLapTimeMs := none }
    bestLapTimeMs := none
    lastClientSeq := 0
    pitState := .default
    controlsInput := .default }

def seenAs (viewerTeam : Option String) (view : SpectatorView) (entry : RuntimeCarFrame) :
    RuntimeCarFrame :=
  if covers viewerTeam view entry then entry else entry.redacted

/-- Two frames differ only in the private data of cars that the view does
not cover. -/
structure SameInView (viewerTeam : Option String) (view : SpectatorView) (f f' : RuntimeFrame) :
    Prop where
  rest : { f with cars := ∅ } = { f' with cars := ∅ }
  cars : ∀ carId, (f.cars.lookup carId).map (seenAs viewerTeam view) =
    (f'.cars.lookup carId).map (seenAs viewerTeam view)

/-- Iterations that differ only so. -/
structure SameIteration (viewerTeam : Option String) (view : SpectatorView)
    (env env' : SpectatorEnv) : Prop where
  frame : SameInView viewerTeam view env.frame env'.frame
  rest : { env with frame := .default } = { env' with frame := .default }

/-- What the stream sends is bounded by the view that it has announced. -/
def ViewBinds (cfg : SpectatorConfig) (viewerTeam : Option String) : Prop :=
  ∀ settingsSent envs envs', List.Forall₂ (SameIteration viewerTeam cfg.view.1) envs envs' →
    runFrontendSpectatorStream cfg settingsSent envs =
      runFrontendSpectatorStream cfg settingsSent envs'

section Views

variable {cfg : SpectatorConfig} {viewerTeam : Option String} {env env' : SpectatorEnv}

theorem view_all_iff (horder : ViewOrder cfg.viewNumber) :
    cfg.view.1 = .all ↔ "race.read.all" ∈ cfg.scopes ∧ cfg.requestedView = some .all := by
  have hpt := horder.public_lt_team
  have hta := horder.team_lt_all
  have hpa := hpt.trans hta
  have hrequested : normalizeRequestedView cfg.requestedView = .all ↔
      cfg.requestedView = some .all := by
    rcases cfg.requestedView with _ | view
    · simp [normalizeRequestedView]
    · cases view <;> simp [normalizeRequestedView]
  rw [← hrequested, SpectatorConfig.view, resolveView]
  have hproper : normalizeRequestedView cfg.requestedView ≠ .unspecified := by
    rcases cfg.requestedView with _ | view
    · simp [normalizeRequestedView]
    · cases view <;> simp [normalizeRequestedView]
  by_cases hall : "race.read.all" ∈ cfg.scopes
  · cases hview : normalizeRequestedView cfg.requestedView with
    | unspecified => exact absurd hview hproper
    | «public» => simp [hall, hpa.le]
    | team => simp [hall, hta.le]
    | all => simp [hall]
  · by_cases hteam : "race.read.team" ∈ cfg.scopes
    · cases hview : normalizeRequestedView cfg.requestedView with
      | unspecified => exact absurd hview hproper
      | «public» => simp [hall, hteam, hpt.le]
      | team => simp [hall, hteam]
      | all => simp [hall, hteam, not_le.mpr hta]
    · cases hview : normalizeRequestedView cfg.requestedView with
      | unspecified => exact absurd hview hproper
      | «public» => simp [hall, hteam]
      | team => simp [hall, hteam, not_le.mpr hpt]
      | all => simp [hall, hteam, not_le.mpr hpa]

/-- The view of all cars hides nothing. -/
theorem eq_of_sameIteration_all (h : SameIteration viewerTeam .all env env') : env = env' := by
  have hseen : seenAs viewerTeam .all = id := rfl
  have hcars : env.frame.cars = env'.frame.cars := by
    refine Finmap.ext_lookup fun carId => ?_
    simpa only [hseen, Option.map_id, id_eq] using h.frame.cars carId
  have hframe : env.frame = env'.frame := by
    have hrest := h.frame.rest
    rw [RuntimeFrame.mk.injEq] at hrest
    cases hf : env.frame
    cases hf' : env'.frame
    rw [hf, hf'] at hrest hcars
    simp_all
  have hrest := h.rest
  rw [SpectatorEnv.mk.injEq] at hrest
  cases env
  cases env'
  simp_all

theorem mem_visibleCars {target : Option EngineCommandTarget} {frame : RuntimeFrame}
    {entry : RuntimeCarFrame} : entry ∈ visibleCars target frame ↔
      (∃ carId, frame.cars.lookup carId = some entry) ∧
        ∀ world, target = some world → entry.target = world := by
  rw [visibleCars, List.mem_insertionSort, List.mem_filter, HashMap.mem_values]
  cases target <;> simp

def shownCar (target : Option EngineCommandTarget) (speed : F32) : RuntimeCarFrame :=
  ⟨1, 1, target.getD .officialRace, { restingCar 0 with speed := speed }, none, none, 0, none,
    .default, .default⟩

/-- A frame in which the world is there, with one car at a speed. -/
def shownFrame (target : Option EngineCommandTarget) (speed : F32) : RuntimeFrame :=
  let raceId := match target with
    | some (.localRace raceId) => raceId
    | some .officialRace | some (.sandbox _) | none => ""
  { RuntimeFrame.default with
    runtimeState := some ⟨0, .officialRace, "m", some ⟨raceId, "m", .noon, none⟩, [], .noon, []⟩
    cars := Finmap.insert 1 (shownCar target speed) ∅ }

def shown (target : Option EngineCommandTarget) (speed : F32) : SpectatorEnv :=
  ⟨shownFrame target speed, .cleared, .new, 0, true⟩

theorem shown_active (target : Option EngineCommandTarget) (speed : F32) :
    targetIsActive target (shownFrame target speed) = true := by
  rcases target with _ | _ | raceId | sandboxId
  · rfl
  · rfl
  · exact decide_eq_true rfl
  · rfl

/-- To a narrower view, the speed of the car is private. -/
theorem shown_same {view : SpectatorView} (hview : view ≠ .all)
    (target : Option EngineCommandTarget) (speed speed' : F32) :
    SameIteration viewerTeam view (shown target speed) (shown target speed') := by
  refine ⟨⟨rfl, fun carId => ?_⟩, rfl⟩
  have hhidden (speed : F32) : covers viewerTeam view (shownCar target speed) ≠ true := by
    cases view with
    | all => exact absurd rfl hview
    | unspecified | «public» | team => exact Bool.false_ne_true
  simp only [shown, shownFrame, HashMap.lookup_insert_eq, Finmap.lookup_empty]
  split
  · simp only [Option.map_some, seenAs]
    rw [if_neg (hhidden speed), if_neg (hhidden speed')]
    rfl
  · rfl

theorem speed_of_shown (target : Option EngineCommandTarget) {speed speed' : F32}
    (h : (visibleCars target (shownFrame target speed)).map frontendCar =
      (visibleCars target (shownFrame target speed')).map frontendCar) : speed = speed' := by
  have hlookup (speed : F32) (carId : ℕ) (entry : RuntimeCarFrame) :
      (shownFrame target speed).cars.lookup carId = some entry ↔
        carId = 1 ∧ shownCar target speed = entry := by
    simp only [shownFrame, HashMap.lookup_insert_eq, Finmap.lookup_empty]
    split <;> simp_all
  have hmem : shownCar target speed ∈ visibleCars target (shownFrame target speed) := by
    refine mem_visibleCars.mpr ⟨⟨1, (hlookup speed 1 _).mpr ⟨rfl, rfl⟩⟩, ?_⟩
    rintro world rfl
    rfl
  have hsent := List.mem_map_of_mem (f := frontendCar) hmem
  rw [h, List.mem_map] at hsent
  obtain ⟨entry, hentry, heq⟩ := hsent
  obtain ⟨⟨carId, hfound⟩, -⟩ := mem_visibleCars.mp hentry
  obtain ⟨-, rfl⟩ := (hlookup speed' carId entry).mp hfound
  exact (congrArg (fun car => car.telemetry.speedMps) heq).symm

/-- The snapshots do not depend on what is asked for or authorised. -/
theorem spectatorTurns_view (requestedView : Raw SpectatorView) (scopes : List String)
    (envs : List SpectatorEnv) :
    spectatorTurns { cfg with requestedView := requestedView, scopes := scopes } envs =
      spectatorTurns cfg envs := by
  induction envs with
  | nil => rfl
  | cons env rest ih =>
      rw [spectatorTurns, spectatorTurns, ih]
      rfl

theorem not_viewBinds (hview : cfg.view.1 ≠ .all) : ¬ ViewBinds cfg viewerTeam := by
  intro hbinds
  have hruns := hbinds true [shown cfg.visibleTarget 0] [shown cfg.visibleTarget 1]
    (.cons (shown_same hview _ 0 1) .nil)
  have hsnapshots := (List.cons.inj hruns).2
  simp only [spectatorTurns, if_true, shown, shown_active, List.cons.injEq,
    SpectatorEffect.snapshot.injEq] at hsnapshots
  have hspeed := speed_of_shown cfg.visibleTarget
    (congrArg FrontendSpectatorSnapshot.cars hsnapshots.1.1)
  exact absurd hspeed (by decide)

end Views

/-- What a stream sends is bounded by the view that it has announced exactly
when that is the view of all cars, asked for and authorised. -/
theorem view_binds_iff (cfg : SpectatorConfig) (horder : ViewOrder cfg.viewNumber)
    (viewerTeam : Option String) :
    ViewBinds cfg viewerTeam ↔
      "race.read.all" ∈ cfg.scopes ∧ cfg.requestedView = some .all := by
  rw [← view_all_iff horder]
  constructor
  · intro hbinds
    by_contra hview
    exact not_viewBinds hview hbinds
  · intro hview settingsSent envs envs' hsame
    rw [hview] at hsame
    have heq : envs = envs' := by
      induction hsame with
      | nil => rfl
      | cons hfirst _ ih => rw [eq_of_sameIteration_all hfirst, ih]
    rw [heq]

namespace Downgraded

def viewNumber : SpectatorView → ℤ
  | .unspecified => 0
  | .public => 1
  | .team => 2
  | .all => 3

theorem viewNumber_order : ViewOrder viewNumber := ⟨by decide, by decide⟩

/-- A request for all cars of the sandbox "s". -/
def asksForAll (scopes : List String) : SpectatorConfig :=
  ⟨.official, 60, by decide, 0, false, some .all, viewNumber, scopes, "m", some (.sandbox "s")⟩

theorem authorised_view_binds : ViewBinds (asksForAll ["race.read.all"]) none :=
  (view_binds_iff (asksForAll ["race.read.all"]) viewNumber_order none).mpr
    ⟨List.mem_singleton_self _, rfl⟩

/-- Without any scope the view is downgraded, and everything is sent. -/
theorem downgrade_hides_nothing :
    (asksForAll []).view = (.public, .notAuthorized) ∧ ¬ ViewBinds (asksForAll []) none ∧
      ∀ envs, spectatorTurns (asksForAll []) envs =
        spectatorTurns (asksForAll ["race.read.all"]) envs :=
  ⟨by decide, not_viewBinds (by decide),
    fun envs => @spectatorTurns_view (asksForAll ["race.read.all"]) (some .all) [] envs⟩

end Downgraded

end HackArena.Services
