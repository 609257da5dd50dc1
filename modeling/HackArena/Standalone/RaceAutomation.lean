import HackArena.Services.FrameHub
import HackArena.Standalone.RaceScenario

/-!
# Automation of a race

While a race runs, the controller polls the latest frame and gives a command
to the engine for each car that has been stuck for a while: one that stands
beside the pit is put back on the track, one that stands in it is served at
once. A timer for each car remembers since when it has been stuck.
-/

namespace HackArena.Standalone

open Boink HackArena.Runtime HackArena.Services

/-! ## Cars and commands -/

/-- `RunRaceAutoBackToTrackCarState` and `RunRaceAutoEmergencyPitCarState`. -/
structure AutoCarState where
  stuckSinceServerMs : Option ℕ
  acceptedCount : ℕ
  deriving DecidableEq

def AutoCarState.default : AutoCarState := ⟨none, 0⟩

inductive AutoCommand where
  | backToTrack
  | emergencyPit

namespace AutoCommand

/-- Where a car has to be for the command. -/
def concerns : AutoCommand → (inPit : Bool) → Bool
  | .backToTrack, inPit => !inPit
  | .emergencyPit, inPit => inPit

def cooldownRemainingMs : AutoCommand → RaceRuntimeStore → (carId nowMs : ℕ) → ℕ
  | .backToTrack, store => store.backToTrackCooldownRemainingMs
  | .emergencyPit, store => store.emergencyPitstopCooldownRemainingMs

/-- What is noted when the engine has accepted the command. -/
def mark : AutoCommand → RaceRuntimeStore → (carId nowMs : ℕ) → RaceRuntimeStore
  | .backToTrack, store => store.markBackToTrackApplied
  | .emergencyPit, store => store.markEmergencyPitstopRequested

end AutoCommand

/-- A command that was given to the engine, with the store as it was then. -/
structure AutoAction where
  carId : ℕ
  engineCarId : ℕ
  target : EngineCommandTarget
  store : RaceRuntimeStore
  accepted : Bool

structure AutoState where
  states : HashMap ℕ AutoCarState
  store : RaceRuntimeStore

namespace AutoState

def initial (store : RaceRuntimeStore) : AutoState := ⟨∅, store⟩

/-- `states.entry(car_id).or_default()`. -/
def car (s : AutoState) (carId : ℕ) : AutoCarState :=
  (s.states.lookup carId).getD AutoCarState.default

def put (s : AutoState) (carId : ℕ) (state : AutoCarState) : AutoState :=
  { s with states := s.states.insert carId state }

end AutoState

/-! ## One poll -/

section Poll

variable (command : AutoCommand) (raceId : String) (config : RunRaceAutoConfig)

def stuckWindowMs : ℕ := config.stuckForSeconds.toNat * 1000

/-- The loop body for one car; `answer` is what the engine says to the
command. -/
def visitCar (nowMs : ℕ) (s : AutoState) (car : RuntimeCarFrame)
    (answer : Except EngineWorkerError Unit) : AutoState × Option AutoAction :=
  if car.target ≠ .localRace raceId then (s, none)
  else
    let state := s.car car.publicCarId
    let inPit := car.state.pitstopState.isInAnyZone
    let reset := s.put car.publicCarId { state with stuckSinceServerMs := none }
    if !command.concerns inPit || decide (config.speedKmhBelow / (36 / 10) ≤ |car.state.speed|) then
      (reset, none)
    else match state.stuckSinceServerMs with
      | none => (s.put car.publicCarId { state with stuckSinceServerMs := some nowMs }, none)
      | some stuckSinceServerMs =>
          if nowMs - stuckSinceServerMs < stuckWindowMs config then
            (s.put car.publicCarId state, none)
          else if 0 < command.cooldownRemainingMs s.store car.publicCarId nowMs then (reset, none)
          else
            let action (accepted : Bool) : AutoAction :=
              ⟨car.publicCarId, car.engineCarId, car.target, s.store, accepted⟩
            match answer with
            | .ok () =>
                ({ s.put car.publicCarId ⟨none, min (state.acceptedCount + 1) (2 ^ 32 - 1)⟩ with
                    store := command.mark s.store car.publicCarId nowMs }, some (action true))
            | .error _ => (reset, some (action false))

/-- A frame as it is polled, with the order in which its cars are visited,
what others do to the store before each visit, and the engine's answers. A
frame has each car under its own id. -/
structure Poll where
  frame : RuntimeFrame
  cars : List RuntimeCarFrame
  others : (carId : ℕ) → RaceRuntimeStore → RaceRuntimeStore
  answers : (carId : ℕ) → Except EngineWorkerError Unit
  nodup : (cars.map RuntimeCarFrame.publicCarId).Nodup
  values : ∀ carId car, frame.cars.lookup carId = some car ↔ car ∈ cars ∧ car.publicCarId = carId

namespace Poll

def nowMs (p : Poll) : ℕ := p.frame.serverTimeMs

/-- Every frame that has its cars under their own ids can be polled. -/
theorem exists_of_keyed (frame : RuntimeFrame)
    (h : ∀ carId car, frame.cars.lookup carId = some car → car.publicCarId = carId)
    (others : ℕ → RaceRuntimeStore → RaceRuntimeStore)
    (answers : ℕ → Except EngineWorkerError Unit) :
    ∃ p : Poll, p.frame = frame ∧ p.others = others ∧ p.answers = answers := by
  have hnodup : ((frame.cars.keys.toList.filterMap frame.cars.lookup).map
      RuntimeCarFrame.publicCarId).Nodup := by
    rw [List.Nodup, List.pairwise_map, List.pairwise_filterMap]
    apply (Finset.nodup_toList frame.cars.keys).imp
    intro carId other hne car hcar otherCar hother heq
    exact hne ((h carId car hcar).symm.trans (heq.trans (h other otherCar hother)))
  have hvalues : ∀ carId car, frame.cars.lookup carId = some car ↔
      car ∈ frame.cars.keys.toList.filterMap frame.cars.lookup ∧ car.publicCarId = carId := by
    intro carId car
    rw [List.mem_filterMap]
    constructor
    · intro hlookup
      have hmem : carId ∈ frame.cars.keys := Finmap.mem_keys.mpr (Finmap.mem_of_lookup_eq_some hlookup)
      exact ⟨⟨carId, Finset.mem_toList.mpr hmem, hlookup⟩, h carId car hlookup⟩
    · rintro ⟨⟨other, -, hlookup⟩, rfl⟩
      rwa [h other car hlookup]
  exact ⟨⟨frame, _, others, answers, hnodup, hvalues⟩, rfl, rfl, rfl⟩

end Poll

/-- The visit of one car among the others. -/
def visitNext (p : Poll) (r : AutoState × List AutoAction) (car : RuntimeCarFrame) :
    AutoState × List AutoAction :=
  let s := { r.1 with store := p.others car.publicCarId r.1.store }
  let v := visitCar command raceId config p.nowMs s car (p.answers car.publicCarId)
  (v.1, r.2 ++ v.2.toList)

/-- One poll: the state afterwards and the commands given. -/
def applyAuto (p : Poll) (s : AutoState) : AutoState × List AutoAction :=
  p.cars.foldl (visitNext command raceId config p) (s, [])

end Poll

def applyAutoBackToTrack : String → RunRaceAutoConfig → Poll → AutoState →
    AutoState × List AutoAction :=
  applyAuto .backToTrack

def applyAutoEmergencyPit : String → RunRaceAutoConfig → Poll → AutoState →
    AutoState × List AutoAction :=
  applyAuto .emergencyPit

/-! ## The polls of a race -/

section Polls

variable (command : AutoCommand) (raceId : String) (config : RunRaceAutoConfig)

def stateAfter (s : AutoState) (polls : List Poll) : AutoState :=
  polls.foldl (fun s p => (applyAuto command raceId config p s).1) s

/-- The polls with the commands that each of them gave. -/
def history : AutoState → List Poll → List (Poll × List AutoAction)
  | _, [] => []
  | s, p :: rest =>
      (p, (applyAuto command raceId config p s).2) ::
        history (applyAuto command raceId config p s).1 rest

theorem stateAfter_concat (s : AutoState) (polls : List Poll) (p : Poll) :
    stateAfter command raceId config s (polls ++ [p]) =
      (applyAuto command raceId config p (stateAfter command raceId config s polls)).1 := by
  rw [stateAfter, List.foldl_append]
  rfl

theorem history_concat (s : AutoState) (polls : List Poll) (p : Poll) :
    history command raceId config s (polls ++ [p]) = history command raceId config s polls ++
      [(p, (applyAuto command raceId config p (stateAfter command raceId config s polls)).2)] := by
  induction polls generalizing s with
  | nil => rfl
  | cons first rest ih =>
      rw [List.cons_append, history, ih]
      rfl

end Polls

/-! ## What a visit does -/

section Visit

variable (command : AutoCommand) (raceId : String) (config : RunRaceAutoConfig)

/-- The car is slow, and where the command concerns it. -/
structure Stuck (command : AutoCommand) (config : RunRaceAutoConfig) (car : RuntimeCarFrame) :
    Prop where
  place : command.concerns car.state.pitstopState.isInAnyZone = true
  slow : |car.state.speed| < config.speedKmhBelow / (36 / 10)

@[simp] theorem AutoState.car_put (s : AutoState) (carId : ℕ) (state : AutoCarState) :
    (s.put carId state).car carId = state := by
  simp [AutoState.car, AutoState.put]

theorem AutoState.car_put_of_ne (s : AutoState) {carId other : ℕ} (h : other ≠ carId)
    (state : AutoCarState) : (s.put carId state).car other = s.car other := by
  rw [AutoState.car, AutoState.put, Finmap.lookup_insert_of_ne _ h, AutoState.car]

/-- What a visit makes of the state of its car, and the command it gives. -/
inductive Visited (command : AutoCommand) (raceId : String) (config : RunRaceAutoConfig)
    (nowMs : ℕ) (store : RaceRuntimeStore) (car : RuntimeCarFrame)
    (answer : Except EngineWorkerError Unit) (state : AutoCarState) :
    AutoCarState → Option AutoAction → Prop
  | elsewhere (htarget : car.target ≠ .localRace raceId) :
      Visited command raceId config nowMs store car answer state state none
  | moved (htarget : car.target = .localRace raceId) (hstuck : ¬ Stuck command config car) :
      Visited command raceId config nowMs store car answer state
        { state with stuckSinceServerMs := none } none
  | started (hstuck : Stuck command config car) (hsince : state.stuckSinceServerMs = none) :
      Visited command raceId config nowMs store car answer state
        { state with stuckSinceServerMs := some nowMs } none
  | waiting (hstuck : Stuck command config car) (sinceMs : ℕ)
      (hsince : state.stuckSinceServerMs = some sinceMs)
      (hearly : nowMs - sinceMs < stuckWindowMs config) :
      Visited command raceId config nowMs store car answer state state none
  | cooling (hcooldown : 0 < command.cooldownRemainingMs store car.publicCarId nowMs) :
      Visited command raceId config nowMs store car answer state
        { state with stuckSinceServerMs := none } none
  | acted (sinceMs : ℕ) (htarget : car.target = .localRace raceId)
      (hstuck : Stuck command config car) (hsince : state.stuckSinceServerMs = some sinceMs)
      (hwindow : stuckWindowMs config ≤ nowMs - sinceMs)
      (hcooldown : command.cooldownRemainingMs store car.publicCarId nowMs = 0) :
      Visited command raceId config nowMs store car answer state
        ⟨none, if answer.isOk then min (state.acceptedCount + 1) (2 ^ 32 - 1)
          else state.acceptedCount⟩
        (some ⟨car.publicCarId, car.engineCarId, car.target, store, answer.isOk⟩)

theorem visitCar_visited (nowMs : ℕ) (s : AutoState) (car : RuntimeCarFrame)
    (answer : Except EngineWorkerError Unit) :
    Visited command raceId config nowMs s.store car answer (s.car car.publicCarId)
      ((visitCar command raceId config nowMs s car answer).1.car car.publicCarId)
      (visitCar command raceId config nowMs s car answer).2 := by
  unfold visitCar
  by_cases htarget : car.target = .localRace raceId
  · rw [if_neg (not_not.mpr htarget)]
    dsimp only
    by_cases hmoves : (!command.concerns car.state.pitstopState.isInAnyZone ||
        decide (config.speedKmhBelow / (36 / 10) ≤ |car.state.speed|)) = true
    · rw [if_pos hmoves, AutoState.car_put]
      refine .moved htarget fun hstuck => ?_
      rw [hstuck.place, Bool.not_true, Bool.false_or, decide_eq_true_eq] at hmoves
      exact absurd hstuck.slow (not_lt.mpr hmoves)
    · rw [if_neg hmoves]
      have hstuck : Stuck command config car := by
        simp only [Bool.or_eq_true, Bool.not_eq_true', decide_eq_true_eq, not_or, not_le,
          Bool.not_eq_false] at hmoves
        exact ⟨hmoves.1, hmoves.2⟩
      cases hsince : (s.car car.publicCarId).stuckSinceServerMs with
      | none =>
          dsimp only
          rw [AutoState.car_put]
          exact .started hstuck hsince
      | some sinceMs =>
          dsimp only
          by_cases hearly : nowMs - sinceMs < stuckWindowMs config
          · rw [if_pos hearly, AutoState.car_put]
            exact .waiting hstuck sinceMs hsince hearly
          · rw [if_neg hearly]
            by_cases hcooldown : 0 < command.cooldownRemainingMs s.store car.publicCarId nowMs
            · rw [if_pos hcooldown, AutoState.car_put]
              exact .cooling hcooldown
            · rw [if_neg hcooldown]
              have hacted := @Visited.acted command raceId config nowMs s.store car answer
                (s.car car.publicCarId) sinceMs htarget hstuck hsince (not_lt.mp hearly)
                (Nat.eq_zero_of_not_pos hcooldown)
              cases answer with
              | ok _ =>
                  have hcar : ∀ store, ({ s.put car.publicCarId ⟨none,
                      min ((s.car car.publicCarId).acceptedCount + 1) (2 ^ 32 - 1)⟩ with
                        store := store } : AutoState).car car.publicCarId =
                      ⟨none, min ((s.car car.publicCarId).acceptedCount + 1) (2 ^ 32 - 1)⟩ :=
                    fun store => AutoState.car_put s car.publicCarId _
                  dsimp only
                  rw [hcar]
                  exact hacted
              | error _ =>
                  dsimp only
                  rw [AutoState.car_put]
                  exact hacted
  · rw [if_pos htarget]
    exact .elsewhere htarget

/-- The state of another car stays as it is. -/
theorem visitCar_other (nowMs : ℕ) (s : AutoState) (car : RuntimeCarFrame)
    (answer : Except EngineWorkerError Unit) {carId : ℕ} (h : carId ≠ car.publicCarId) :
    (visitCar command raceId config nowMs s car answer).1.car carId = s.car carId := by
  unfold visitCar
  dsimp only
  split
  · rfl
  · split
    · exact AutoState.car_put_of_ne s h _
    · split
      · exact AutoState.car_put_of_ne s h _
      · split
        · exact AutoState.car_put_of_ne s h _
        · split
          · exact AutoState.car_put_of_ne s h _
          · split
            · exact AutoState.car_put_of_ne s h _
            · exact AutoState.car_put_of_ne s h _

end Visit

/-! ## What a poll does -/

def actionsOf (carId : ℕ) (actions : List AutoAction) : List AutoAction :=
  actions.filter (·.carId = carId)

section PollStep

variable (command : AutoCommand) (raceId : String) (config : RunRaceAutoConfig) {p : Poll}

theorem visitCar_carId (nowMs : ℕ) (s : AutoState) (car : RuntimeCarFrame)
    (answer : Except EngineWorkerError Unit) :
    ∀ action ∈ (visitCar command raceId config nowMs s car answer).2,
      action.carId = car.publicCarId := by
  intro action haction
  have hvisited := visitCar_visited command raceId config nowMs s car answer
  rw [Option.mem_def.mp haction] at hvisited
  generalize (visitCar command raceId config nowMs s car answer).1.car car.publicCarId = after
    at hvisited
  cases hvisited with
  | acted => rfl

/-- The visits of other cars leave a car alone. -/
theorem foldl_visitNext_other {carId : ℕ} (cars : List RuntimeCarFrame)
    (h : ∀ car ∈ cars, carId ≠ car.publicCarId) (r : AutoState × List AutoAction) :
    (cars.foldl (visitNext command raceId config p) r).1.car carId = r.1.car carId ∧
      actionsOf carId (cars.foldl (visitNext command raceId config p) r).2 =
        actionsOf carId r.2 := by
  induction cars generalizing r with
  | nil => exact ⟨rfl, rfl⟩
  | cons car rest ih =>
      have hcar := h car List.mem_cons_self
      obtain ⟨hstate, hactions⟩ := ih (fun other hmem => h other (List.mem_cons_of_mem _ hmem))
        (visitNext command raceId config p r car)
      rw [List.foldl_cons, hstate, hactions]
      constructor
      · exact visitCar_other command raceId config p.nowMs _ car _ hcar
      · rw [visitNext, actionsOf, List.filter_append, actionsOf]
        apply List.append_right_eq_self.mpr
        rw [List.filter_eq_nil_iff]
        intro action haction
        rw [visitCar_carId command raceId config _ _ _ _ action (Option.mem_toList.mp haction)]
        simpa using hcar.symm

/-- A car that is in the frame is visited once. -/
theorem applyAuto_present {car : RuntimeCarFrame} (hmem : car ∈ p.cars) (s : AutoState) :
    ∃ store action, Visited command raceId config p.nowMs (p.others car.publicCarId store) car
        (p.answers car.publicCarId) (s.car car.publicCarId)
        ((applyAuto command raceId config p s).1.car car.publicCarId) action ∧
      actionsOf car.publicCarId (applyAuto command raceId config p s).2 = action.toList := by
  obtain ⟨before, later, hcars⟩ := List.append_of_mem hmem
  have hnodup := p.nodup
  rw [hcars, List.map_append, List.map_cons, List.nodup_append] at hnodup
  obtain ⟨-, hlater, hbefore⟩ := hnodup
  have hbefore' : ∀ other ∈ before, car.publicCarId ≠ other.publicCarId := fun other hother =>
    (hbefore _ (List.mem_map_of_mem hother) _ List.mem_cons_self).symm
  have hlater' : ∀ other ∈ later, car.publicCarId ≠ other.publicCarId := fun other hother heq =>
    (List.nodup_cons.mp hlater).1 (heq ▸ List.mem_map_of_mem hother)
  obtain ⟨hstate, hactions⟩ := foldl_visitNext_other command raceId config (p := p)
    before hbefore' (s, [])
  rw [applyAuto, hcars, List.foldl_append, List.foldl_cons]
  generalize before.foldl (visitNext command raceId config p) (s, []) = r at hstate hactions ⊢
  obtain ⟨hstate', hactions'⟩ := foldl_visitNext_other command raceId config (p := p)
    later hlater' (visitNext command raceId config p r car)
  rw [hstate', hactions']
  have hvisited := visitCar_visited command raceId config p.nowMs
    { r.1 with store := p.others car.publicCarId r.1.store } car (p.answers car.publicCarId)
  have hbeforeState : ({ r.1 with store := p.others car.publicCarId r.1.store } : AutoState).car
      car.publicCarId = s.car car.publicCarId := hstate
  rw [hbeforeState] at hvisited
  refine ⟨_, _, hvisited, ?_⟩
  change actionsOf _ (r.2 ++ Option.toList _) = _
  have hnone : actionsOf car.publicCarId r.2 = [] := hactions
  rw [actionsOf, List.filter_append, ← actionsOf, hnone, List.nil_append]
  apply List.filter_eq_self.mpr
  intro action haction
  exact decide_eq_true
    (visitCar_carId command raceId config _ _ _ _ action (Option.mem_toList.mp haction))

theorem applyAuto_absent {carId : ℕ} (h : ∀ car ∈ p.cars, carId ≠ car.publicCarId) (s : AutoState) :
    (applyAuto command raceId config p s).1.car carId = s.car carId ∧
      actionsOf carId (applyAuto command raceId config p s).2 = [] :=
  foldl_visitNext_other command raceId config p.cars h (s, [])

end PollStep

/-! ## The timer of a car -/

section Timer

variable (command : AutoCommand) (raceId : String) (config : RunRaceAutoConfig)

/-- A poll in which the car was stuck, if it was among the cars of the race,
and was given no command. -/
structure Calm (carId : ℕ) (entry : Poll × List AutoAction) : Prop where
  stuck : ∀ car, entry.1.frame.cars.lookup carId = some car → car.target = .localRace raceId →
    Stuck command config car
  alone : ∀ action ∈ entry.2, action.carId ≠ carId

/-- All polls from one at this time on were calm. -/
def CalmSince (carId : ℕ) (entries : List (Poll × List AutoAction)) (sinceMs : ℕ) : Prop :=
  ∃ before start rest, entries = before ++ start :: rest ∧ start.1.nowMs = sinceMs ∧
    ∀ entry ∈ start :: rest, Calm command raceId config carId entry

variable {command raceId config} {carId sinceMs : ℕ} {entries : List (Poll × List AutoAction)}
  {entry : Poll × List AutoAction}

theorem CalmSince.concat (h : CalmSince command raceId config carId entries sinceMs)
    (hcalm : Calm command raceId config carId entry) :
    CalmSince command raceId config carId (entries ++ [entry]) sinceMs := by
  obtain ⟨before, start, rest, rfl, htime, hall⟩ := h
  refine ⟨before, start, rest ++ [entry], by simp, htime, ?_⟩
  rw [← List.cons_append]
  intro other hmem
  rcases List.mem_append.mp hmem with hmem | hmem
  · exact hall other hmem
  · rwa [List.mem_singleton.mp hmem]

theorem Calm.since (hcalm : Calm command raceId config carId entry)
    (entries : List (Poll × List AutoAction)) :
    CalmSince command raceId config carId (entries ++ [entry]) entry.1.nowMs :=
  ⟨entries, entry, [], rfl, rfl, fun other hmem => by rwa [List.mem_singleton.mp hmem]⟩

theorem alone_of_actionsOf {actions : List AutoAction} (h : actionsOf carId actions = []) :
    ∀ action ∈ actions, action.carId ≠ carId := by
  intro action hmem heq
  have hin : action ∈ actionsOf carId actions := List.mem_filter.mpr ⟨hmem, decide_eq_true heq⟩
  rw [h] at hin
  cases hin

theorem Poll.absent_or_present (p : Poll) (carId : ℕ) :
    (∀ car ∈ p.cars, carId ≠ car.publicCarId) ∨
      ∃ car ∈ p.cars, car.publicCarId = carId ∧ p.frame.cars.lookup carId = some car := by
  by_cases h : ∃ car ∈ p.cars, car.publicCarId = carId
  · obtain ⟨car, hmem, hid⟩ := h
    exact Or.inr ⟨car, hmem, hid, (p.values carId car).mpr ⟨hmem, hid⟩⟩
  · exact Or.inl fun car hmem heq => h ⟨car, hmem, heq.symm⟩

theorem calm_of_absent {p : Poll} (h : ∀ car ∈ p.cars, carId ≠ car.publicCarId) (s : AutoState) :
    Calm command raceId config carId (p, (applyAuto command raceId config p s).2) where
  stuck car hlookup := absurd ((p.values carId car).mp hlookup).2.symm
    (h car ((p.values carId car).mp hlookup).1)
  alone := alone_of_actionsOf (applyAuto_absent command raceId config h s).2

/-- A running timer tells since when the car has been stuck and left alone. -/
theorem calmSince_timer (s : AutoState) (hs : s.states = ∅) (polls : List Poll) (carId : ℕ) :
    ∀ sinceMs ∈ ((stateAfter command raceId config s polls).car carId).stuckSinceServerMs,
      CalmSince command raceId config carId (history command raceId config s polls) sinceMs := by
  induction polls using List.reverseRecOn with
  | nil =>
      intro sinceMs hsince
      rw [stateAfter, List.foldl_nil, AutoState.car, hs, Finmap.lookup_empty] at hsince
      cases hsince
  | append_singleton polls p ih =>
      rw [stateAfter_concat, history_concat]
      generalize stateAfter command raceId config s polls = t at ih ⊢
      intro sinceMs hsince
      rcases p.absent_or_present carId with habsent | ⟨car, hmem, rfl, hlookup⟩
      · rw [(applyAuto_absent command raceId config habsent t).1] at hsince
        exact (ih sinceMs hsince).concat (calm_of_absent habsent t)
      · obtain ⟨store, action, hvisited, hactions⟩ := applyAuto_present command raceId config hmem t
        have hcalm : (car.target = .localRace raceId → Stuck command config car) → action = none →
            Calm command raceId config car.publicCarId
              (p, (applyAuto command raceId config p t).2) := by
          rintro hstuck rfl
          refine ⟨fun other hother htarget => ?_, alone_of_actionsOf hactions⟩
          obtain rfl := Option.some.inj (hlookup.symm.trans hother)
          exact hstuck htarget
        generalize (applyAuto command raceId config p t).1.car car.publicCarId = after
          at hsince hvisited
        cases hvisited with
        | elsewhere htarget =>
            exact (ih sinceMs hsince).concat (hcalm (fun htarget' => absurd htarget' htarget) rfl)
        | moved => cases hsince
        | started hstuck =>
            obtain rfl := Option.some.inj hsince
            exact (hcalm (fun _ => hstuck) rfl).since _
        | waiting hstuck => exact (ih sinceMs hsince).concat (hcalm (fun _ => hstuck) rfl)
        | cooling => cases hsince
        | acted => cases hsince

end Timer

/-! ## The count of a car -/

/-- The commands for a car that the engine has accepted. -/
def acceptedActions (carId : ℕ) (entries : List (Poll × List AutoAction)) : List AutoAction :=
  entries.flatMap fun entry => (actionsOf carId entry.2).filter (·.accepted)

section Count

variable {command : AutoCommand} {raceId : String} {config : RunRaceAutoConfig}

theorem acceptedActions_concat (carId : ℕ) (entries : List (Poll × List AutoAction))
    (entry : Poll × List AutoAction) :
    acceptedActions carId (entries ++ [entry]) =
      acceptedActions carId entries ++ (actionsOf carId entry.2).filter (·.accepted) := by
  rw [acceptedActions, List.flatMap_append, List.flatMap_singleton]
  rfl

/-- A visit counts the command that it gives, if the engine accepts it. -/
theorem Visited.count {nowMs n : ℕ} {store : RaceRuntimeStore} {car : RuntimeCarFrame}
    {answer : Except EngineWorkerError Unit} {state after : AutoCarState}
    {action : Option AutoAction}
    (h : Visited command raceId config nowMs store car answer state after action)
    (hn : state.acceptedCount = min n (2 ^ 32 - 1)) :
    after.acceptedCount = min (n + (action.toList.filter (·.accepted)).length) (2 ^ 32 - 1) := by
  cases h with
  | elsewhere | moved | started | waiting | cooling => exact hn
  | acted =>
      cases haccepted : answer.isOk with
      | true =>
          simp only [Option.toList_some, List.filter_cons_of_pos, List.filter_nil,
            List.length_singleton, if_true, hn]
          omega
      | false => simp [hn]

theorem acceptedCount_stateAfter (s : AutoState) (hs : s.states = ∅) (polls : List Poll)
    (carId : ℕ) :
    ((stateAfter command raceId config s polls).car carId).acceptedCount =
      min (acceptedActions carId (history command raceId config s polls)).length (2 ^ 32 - 1) := by
  induction polls using List.reverseRecOn with
  | nil =>
      rw [stateAfter, List.foldl_nil, AutoState.car, hs, Finmap.lookup_empty]
      rfl
  | append_singleton polls p ih =>
      rw [stateAfter_concat, history_concat, acceptedActions_concat, List.length_append]
      generalize stateAfter command raceId config s polls = t at ih ⊢
      rcases p.absent_or_present carId with habsent | ⟨car, hmem, rfl, -⟩
      · obtain ⟨hstate, hactions⟩ := applyAuto_absent command raceId config habsent t
        rw [hstate, hactions, ih]
        rfl
      · obtain ⟨store, action, hvisited, hactions⟩ := applyAuto_present command raceId config hmem t
        rw [hactions]
        exact hvisited.count ih

end Count

/-! ## Commands for stuck cars only -/

section Acting

variable (command : AutoCommand) (raceId : String) (config : RunRaceAutoConfig)

/-- The command was due: the car is stuck in this frame, there is no
cooldown, and for at least the window it has been stuck and left alone. -/
structure Due (entries : List (Poll × List AutoAction)) (p : Poll) (action : AutoAction) :
    Prop where
  stuck : ∃ car, p.frame.cars.lookup action.carId = some car ∧ car.target = .localRace raceId ∧
    Stuck command config car
  cooldown : command.cooldownRemainingMs action.store action.carId p.nowMs = 0
  window : ∃ sinceMs, CalmSince command raceId config action.carId entries sinceMs ∧
    sinceMs + stuckWindowMs config ≤ p.nowMs

variable {command raceId config}

theorem mem_history {s : AutoState} {polls : List Poll} {entry : Poll × List AutoAction}
    (h : entry ∈ history command raceId config s polls) : entry.1 ∈ polls := by
  induction polls generalizing s with
  | nil => cases h
  | cons p rest ih =>
      rw [history] at h
      cases h with
      | head => exact List.mem_cons_self
      | tail _ h => exact List.mem_cons_of_mem _ (ih h)

theorem due_of_mem {s : AutoState} (hs : s.states = ∅) {earlier : List Poll} {p : Poll}
    (htimes : ∀ other ∈ earlier, other.nowMs ≤ p.nowMs) {action : AutoAction}
    (haction : action ∈
      (applyAuto command raceId config p (stateAfter command raceId config s earlier)).2) :
    Due command raceId config (history command raceId config s earlier) p action := by
  have hcalm := @calmSince_timer command raceId config s hs earlier action.carId
  generalize stateAfter command raceId config s earlier = t at haction hcalm
  have hin : action ∈ actionsOf action.carId (applyAuto command raceId config p t).2 :=
    List.mem_filter.mpr ⟨haction, decide_eq_true rfl⟩
  rcases p.absent_or_present action.carId with habsent | ⟨car, hmem, hid, hlookup⟩
  · rw [(applyAuto_absent command raceId config habsent t).2] at hin
    cases hin
  · obtain ⟨store, given, hvisited, hactions⟩ := applyAuto_present command raceId config hmem t
    rw [← hid, hactions, Option.mem_toList] at hin
    obtain rfl : given = some action := hin
    generalize (applyAuto command raceId config p t).1.car car.publicCarId = after at hvisited
    cases hvisited with
    | acted sinceMs htarget hstuck hsince hwindow hcooldown =>
        rw [hid] at hsince
        have hsinceCalm := hcalm sinceMs hsince
        refine ⟨⟨car, hlookup, htarget, hstuck⟩, hcooldown, sinceMs, hsinceCalm, ?_⟩
        obtain ⟨before, start, rest, hentries, htime, -⟩ := hsinceCalm
        have hstart : start ∈ history command raceId config s earlier := by
          rw [hentries]
          exact List.mem_append_right _ List.mem_cons_self
        have hle := htimes start.1 (mem_history hstart)
        omega

end Acting

/-- In the polls of a race a command is given only when it is due, and the
count of a car is the number of commands that the engine has accepted for
it, up to the largest number it can hold. -/
theorem auto_due_and_counted (command : AutoCommand) (raceId : String) (config : RunRaceAutoConfig)
    (store : RaceRuntimeStore) (earlier : List Poll) (p : Poll)
    (htimes : (earlier ++ [p]).Pairwise fun first second => first.nowMs ≤ second.nowMs) :
    (∀ action ∈ (applyAuto command raceId config p
        (stateAfter command raceId config (.initial store) earlier)).2,
      Due command raceId config (history command raceId config (.initial store) earlier) p action) ∧
    ∀ carId, ((stateAfter command raceId config (.initial store) (earlier ++ [p])).car
        carId).acceptedCount =
      min (acceptedActions carId
        (history command raceId config (.initial store) (earlier ++ [p]))).length (2 ^ 32 - 1) := by
  refine ⟨fun action haction => due_of_mem rfl (fun other hmem => ?_) haction,
    fun carId => acceptedCount_stateAfter _ rfl _ carId⟩
  exact (List.pairwise_append.mp htimes).2.2 other hmem p List.mem_cons_self

/-! ## Polls of one car -/

/-- The first car, at some place and speed. -/
def carAt (target : EngineCommandTarget) (speed : F32) : RuntimeCarFrame :=
  ⟨1, 1, target, { CarWorld.parked 1 with speed := speed }, none, none, 0, none, .default, .default⟩

/-- A frame with this car only; someone resets the store before the visit,
and the engine accepts the command. -/
def pollAt (target : EngineCommandTarget) (speed : F32) (nowMs : ℕ) : Poll where
  frame := { RuntimeFrame.default with
    serverTimeMs := nowMs
    cars := (∅ : HashMap ℕ RuntimeCarFrame).insert 1 (carAt target speed) }
  cars := [carAt target speed]
  others := fun _ _ => .new
  answers := fun _ => .ok ()
  nodup := List.nodup_singleton _
  values := by
    intro carId car
    change ((∅ : HashMap ℕ RuntimeCarFrame).insert 1 (carAt target speed)).lookup carId =
      some car ↔ _
    by_cases hid : carId = 1
    · subst hid
      rw [Finmap.lookup_insert, List.mem_singleton, Option.some.injEq, eq_comm]
      exact ⟨fun h => ⟨h, by rw [h]; rfl⟩, And.left⟩
    · rw [Finmap.lookup_insert_of_ne _ hid, List.mem_singleton]
      refine iff_of_false (by simp) ?_
      rintro ⟨rfl, rfl⟩
      exact hid rfl

def oneSecondConfig : RunRaceAutoConfig := ⟨5, 1⟩

/-- A car that does not move is put back on the track after a second. -/
theorem auto_due_and_counted_parked :
    (applyAuto .backToTrack "r" oneSecondConfig (pollAt (.localRace "r") 0 1000)
        (stateAfter .backToTrack "r" oneSecondConfig (.initial .new)
          [pollAt (.localRace "r") 0 0])).2.map AutoAction.carId = [1] ∧
    ∀ action ∈ (applyAuto .backToTrack "r" oneSecondConfig (pollAt (.localRace "r") 0 1000)
        (stateAfter .backToTrack "r" oneSecondConfig (.initial .new)
          [pollAt (.localRace "r") 0 0])).2,
      Due .backToTrack "r" oneSecondConfig (history .backToTrack "r" oneSecondConfig (.initial .new)
        [pollAt (.localRace "r") 0 0]) (pollAt (.localRace "r") 0 1000) action :=
  ⟨by decide +kernel,
    (auto_due_and_counted .backToTrack "r" oneSecondConfig .new [pollAt (.localRace "r") 0 0]
      (pollAt (.localRace "r") 0 1000) (by simp [Poll.nowMs, pollAt])).1⟩

section Parked

variable {s : AutoState} {nowMs sinceMs : ℕ}

theorem parked_stuck : Stuck .backToTrack oneSecondConfig (carAt (.localRace "r") 0) :=
  ⟨rfl, by decide +kernel⟩

theorem parked_mem (nowMs : ℕ) :
    carAt (.localRace "r") 0 ∈ (pollAt (.localRace "r") 0 nowMs).cars := List.mem_cons_self

/-- A poll visits the parked car, with a new store and an engine that accepts. -/
theorem parked_visited (nowMs : ℕ) (s : AutoState) :
    ∃ action, actionsOf 1 (applyAuto .backToTrack "r" oneSecondConfig
        (pollAt (.localRace "r") 0 nowMs) s).2 = action.toList ∧
      Visited .backToTrack "r" oneSecondConfig nowMs .new (carAt (.localRace "r") 0) (.ok ())
        (s.car 1) ((applyAuto .backToTrack "r" oneSecondConfig
          (pollAt (.localRace "r") 0 nowMs) s).1.car 1) action := by
  obtain ⟨store, action, hvisited, hactions⟩ :=
    applyAuto_present .backToTrack "r" oneSecondConfig (parked_mem nowMs) s
  exact ⟨action, hactions, hvisited⟩

/-- A new store holds no cooldown. -/
theorem parked_no_cooldown (nowMs : ℕ) :
    ¬ 0 < AutoCommand.backToTrack.cooldownRemainingMs .new (carAt (.localRace "r") 0).publicCarId
      nowMs := by
  apply Nat.lt_irrefl

/-- A poll starts the timer of the parked car. -/
theorem parked_starts (h : (s.car 1).stuckSinceServerMs = none) :
    ((applyAuto .backToTrack "r" oneSecondConfig (pollAt (.localRace "r") 0 nowMs) s).1.car
        1).stuckSinceServerMs = some nowMs ∧
      actionsOf 1 (applyAuto .backToTrack "r" oneSecondConfig (pollAt (.localRace "r") 0 nowMs) s).2
        = [] := by
  obtain ⟨action, hactions, hvisited⟩ := parked_visited nowMs s
  rw [hactions]
  generalize (applyAuto .backToTrack "r" oneSecondConfig (pollAt (.localRace "r") 0 nowMs) s).1.car
    1 = after at hvisited ⊢
  cases hvisited with
  | elsewhere htarget => exact absurd rfl htarget
  | moved _ hstuck => exact absurd parked_stuck hstuck
  | started => exact ⟨rfl, rfl⟩
  | waiting _ _ hsince | acted _ _ _ hsince =>
      rw [h] at hsince
      cases hsince
  | cooling hcooldown => exact absurd hcooldown (parked_no_cooldown nowMs)

/-- A second later it is put back on the track. -/
theorem parked_acts (h : (s.car 1).stuckSinceServerMs = some sinceMs)
    (hnow : nowMs = sinceMs + 1000) :
    ((applyAuto .backToTrack "r" oneSecondConfig (pollAt (.localRace "r") 0 nowMs) s).1.car
        1).stuckSinceServerMs = none ∧
      ((actionsOf 1 (applyAuto .backToTrack "r" oneSecondConfig
        (pollAt (.localRace "r") 0 nowMs) s).2).filter (·.accepted)).length = 1 := by
  obtain ⟨action, hactions, hvisited⟩ := parked_visited nowMs s
  rw [hactions]
  generalize (applyAuto .backToTrack "r" oneSecondConfig (pollAt (.localRace "r") 0 nowMs) s).1.car
    1 = after at hvisited ⊢
  cases hvisited with
  | elsewhere htarget => exact absurd rfl htarget
  | moved _ hstuck => exact absurd parked_stuck hstuck
  | started _ hsince =>
      rw [h] at hsince
      cases hsince
  | waiting _ _ hsince hearly =>
      obtain rfl := Option.some.inj (h.symm.trans hsince)
      have hwindow : stuckWindowMs oneSecondConfig = 1000 := rfl
      omega
  | cooling hcooldown => exact absurd hcooldown (parked_no_cooldown nowMs)
  | acted => exact ⟨rfl, rfl⟩

end Parked

/-- Each second poll of the parked car gives a command. -/
def parkedPolls : ℕ → List Poll
  | 0 => []
  | n + 1 => parkedPolls n ++ [pollAt (.localRace "r") 0 (2000 * n)] ++
      [pollAt (.localRace "r") 0 (2000 * n + 1000)]

theorem parkedPolls_sorted (n : ℕ) :
    (parkedPolls n).Pairwise (fun first second => first.nowMs ≤ second.nowMs) ∧
      ∀ p ∈ parkedPolls n, p.nowMs ≤ 2000 * n := by
  induction n with
  | zero => exact ⟨List.Pairwise.nil, fun p hmem => absurd hmem List.not_mem_nil⟩
  | succ n ih =>
      obtain ⟨hsorted, hbound⟩ := ih
      have hlast : ∀ p ∈ parkedPolls n ++ [pollAt (.localRace "r") 0 (2000 * n)],
          p.nowMs ≤ 2000 * n := by
        intro p hmem
        rcases List.mem_append.mp hmem with hmem | hmem
        · exact hbound p hmem
        · rw [List.mem_singleton.mp hmem]
          exact le_rfl
      rw [parkedPolls]
      constructor
      · rw [List.pairwise_append]
        refine ⟨?_, List.pairwise_singleton _ _, fun p hmem second hsecond => ?_⟩
        · rw [List.pairwise_append]
          refine ⟨hsorted, List.pairwise_singleton _ _, fun p hmem second hsecond => ?_⟩
          rw [List.mem_singleton.mp hsecond]
          exact hbound p hmem
        · rw [List.mem_singleton.mp hsecond]
          exact (hlast p hmem).trans (Nat.le_add_right _ _)
      · intro p hmem
        rcases List.mem_append.mp hmem with hmem | hmem
        · exact (hlast p hmem).trans (by omega)
        · rw [List.mem_singleton.mp hmem]
          change 2000 * n + 1000 ≤ 2000 * (n + 1)
          omega

theorem parkedPolls_accepted (n : ℕ) :
    ((stateAfter .backToTrack "r" oneSecondConfig (.initial .new) (parkedPolls n)).car
        1).stuckSinceServerMs = none ∧
      (acceptedActions 1 (history .backToTrack "r" oneSecondConfig (.initial .new)
        (parkedPolls n))).length = n := by
  induction n with
  | zero => exact ⟨rfl, rfl⟩
  | succ n ih =>
      obtain ⟨hstart, hnone⟩ := @parked_starts _ (2000 * n) ih.1
      rw [← stateAfter_concat] at hstart
      obtain ⟨hstop, hone⟩ := @parked_acts _ (2000 * n + 1000) _ hstart rfl
      rw [← stateAfter_concat] at hstop
      refine ⟨hstop, ?_⟩
      rw [parkedPolls, history_concat, acceptedActions_concat, history_concat,
        acceptedActions_concat, hnone, List.filter_nil, List.append_nil, List.length_append, ih.2,
        hone]

/-- The count stops at the largest number it can hold. And a car of another
world is passed over, fast as it may be, and its timer goes on. -/
theorem auto_saturates_and_passes_over :
    (∃ polls : List Poll, polls.Pairwise (fun first second => first.nowMs ≤ second.nowMs) ∧
      ((stateAfter .backToTrack "r" oneSecondConfig (.initial .new) polls).car 1).acceptedCount ≠
        (acceptedActions 1
          (history .backToTrack "r" oneSecondConfig (.initial .new) polls)).length) ∧
    ∃ (earlier : List Poll) (p : Poll) (action : AutoAction),
      (earlier ++ [p]).Pairwise (fun first second => first.nowMs ≤ second.nowMs) ∧
      action ∈ (applyAuto .backToTrack "r" oneSecondConfig p
        (stateAfter .backToTrack "r" oneSecondConfig (.initial .new) earlier)).2 ∧
      ¬ ∃ before start rest, earlier = before ++ start :: rest ∧
        start.nowMs + stuckWindowMs oneSecondConfig ≤ p.nowMs ∧
          ∀ other ∈ start :: rest, ∀ car, other.frame.cars.lookup action.carId = some car →
            Stuck .backToTrack oneSecondConfig car := by
  constructor
  · refine ⟨parkedPolls (2 ^ 32), (parkedPolls_sorted _).1, ?_⟩
    rw [acceptedCount_stateAfter _ rfl, (parkedPolls_accepted _).2]
    decide
  · have hgiven : (applyAuto .backToTrack "r" oneSecondConfig (pollAt (.localRace "r") 0 1000)
        (stateAfter .backToTrack "r" oneSecondConfig (.initial .new)
          [pollAt (.localRace "r") 0 0, pollAt (.sandbox "s") 100 500])).2.map AutoAction.carId =
        [1] := by
      decide +kernel
    obtain ⟨action, haction, hcar⟩ := List.map_eq_singleton_iff.mp hgiven
    refine ⟨_, _, action, ?_, by rw [haction]; exact List.mem_singleton_self action, ?_⟩
    · simp [Poll.nowMs, pollAt]
    · rintro ⟨before, start, rest, hearlier, htime, hall⟩
      have hfast : ¬ Stuck .backToTrack oneSecondConfig (carAt (.sandbox "s") 100) := fun hstuck =>
        absurd hstuck.slow (by decide +kernel)
      have hlate : ¬ (pollAt (.sandbox "s") 100 500).nowMs + stuckWindowMs oneSecondConfig ≤
          (pollAt (.localRace "r") 0 1000).nowMs := by decide
      rcases List.cons_eq_append_iff.mp hearlier with ⟨rfl, hstart⟩ | ⟨before, rfl, hlater⟩
      · obtain ⟨rfl, rfl⟩ := List.cons.inj hstart
        refine hfast (hall _ (List.mem_cons_of_mem _ List.mem_cons_self) _ ?_)
        rw [hcar]
        rfl
      · rcases List.cons_eq_append_iff.mp hlater with ⟨rfl, hstart⟩ | ⟨before, rfl, hnone⟩
        · obtain ⟨rfl, -⟩ := List.cons.inj hstart
          exact hlate htime
        · cases before <;> cases hnone

end HackArena.Standalone
