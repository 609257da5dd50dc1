import HackArena.Services.ParticipantStream

/-!
# What a participant learns

Two runs of a participant stream are compared whose frames look the same
to the participant: its own car is the same, and of the other cars of its
world the pose and the ghost mode. The events are the same as soon as the
store says the same of the participant's own lock and cooldowns, which it
may know before any frame does.
-/

namespace HackArena.Services

open Boink HackArena.Runtime HackArena.Local

/-! ## Runs that look the same -/

/-- What a participant may see of another car. -/
structure OpponentView where
  carId : ℕ
  chassisPosition : Vec3
  vehicleOrientation : Quaternion
  ghostModeRuntime : GhostModeRuntimeState

/-- Only the other cars of the participant's world are seen. -/
def opponentView (cfg : StreamConfig) (entry : RuntimeCarFrame) : Option OpponentView :=
  if entry.publicCarId ≠ cfg.selfPublicCarId ∧ entry.target = cfg.selfTarget then
    some ⟨entry.publicCarId, entry.state.chassisPosition, entry.state.vehicleOrientation,
      entry.state.ghostModeRuntime⟩
  else none

structure SameFrame (cfg : StreamConfig) (f f' : RuntimeFrame) : Prop where
  tick : f.tick = f'.tick
  serverTimeMs : f.serverTimeMs = f'.serverTimeMs
  runtimeState : f.runtimeState = f'.runtimeState
  own : f.cars.lookup cfg.selfPublicCarId = f'.cars.lookup cfg.selfPublicCarId
  opponents : ∀ carId, (f.cars.lookup carId).bind (opponentView cfg) =
    (f'.cars.lookup carId).bind (opponentView cfg)

/-- Two turns with the same input, engine answers and fate of what is sent. -/
structure SameTurn (cfg : StreamConfig) (x y : StreamEnv × StreamInput) : Prop where
  input : x.2 = y.2
  frame : SameFrame cfg x.1.frame y.1.frame
  readCarDimensions : x.1.readCarDimensions = y.1.readCarDimensions
  setControls : x.1.setControls = y.1.setControls
  setCarBackToTrack : x.1.setCarBackToTrack = y.1.setCarBackToTrack
  setCarToPitstop : x.1.setCarToPitstop = y.1.setCarToPitstop
  sent : x.1.sent = y.1.sent

/-- The store says the same of the participant's own lock and cooldowns,
and its race is open in both or in neither. -/
structure SameOwnState (cfg : StreamConfig) (env env' : StreamEnv) : Prop where
  lock : (env.store.pitStateSnapshot cfg.selfPublicCarId
      env.frame.serverTimeMs).emergencyLockRemainingMs =
    (env'.store.pitStateSnapshot cfg.selfPublicCarId
      env'.frame.serverTimeMs).emergencyLockRemainingMs
  backToTrack : env.store.backToTrackCooldownRemainingMs cfg.selfPublicCarId
      env.frame.serverTimeMs =
    env'.store.backToTrackCooldownRemainingMs cfg.selfPublicCarId env'.frame.serverTimeMs
  emergencyPitstop : env.store.emergencyPitstopCooldownRemainingMs cfg.selfPublicCarId
      env.frame.serverTimeMs =
    env'.store.emergencyPitstopCooldownRemainingMs cfg.selfPublicCarId env'.frame.serverTimeMs
  gameplay : gameplayClosed cfg env = gameplayClosed cfg env'

/-- What a run sends to its client, in order. -/
def sentEvents (turns : List Turn) : List StreamEffect :=
  turns.flatMap fun turn => turn.effects.filter fun
    | .event .. | .terminal _ => true
    | _ => false

/-! ## One turn -/

section Turns

variable {cfg : StreamConfig} {env env' : StreamEnv} {st : StreamState} {f f' : RuntimeFrame}

/-- The opponents in a snapshot, as the participant sees them. -/
theorem opponentsOf_eq (cfg : StreamConfig) (f : RuntimeFrame) :
    opponentsOf cfg f = ((f.cars.values.filterMap (opponentView cfg)).insertionSort
      fun a b => a.carId ≤ b.carId).map fun view =>
        ⟨view.carId, ⟨view.chassisPosition, view.vehicleOrientation⟩,
          ghostModeStateFromRuntime view.ghostModeRuntime⟩ := by
  let view (entry : RuntimeCarFrame) : OpponentView :=
    ⟨entry.publicCarId, entry.state.chassisPosition, entry.state.vehicleOrientation,
      entry.state.ghostModeRuntime⟩
  have hviews : f.cars.values.filterMap (opponentView cfg) = (f.cars.values.filter fun entry =>
      entry.publicCarId ≠ cfg.selfPublicCarId ∧ entry.target = cfg.selfTarget).map view := by
    rw [← List.filterMap_eq_map', List.filterMap_filter]
    refine List.filterMap_congr fun entry _ => ?_
    simp only [opponentView, decide_eq_true_eq]
    rfl
  have hsort (l : List RuntimeCarFrame) :
      (l.map view).insertionSort (fun a b => a.carId ≤ b.carId) =
        (l.insertionSort fun a b => a.publicCarId ≤ b.publicCarId).map view :=
    (List.map_insertionSort _ _ view l fun _ _ _ _ => Iff.rfl).symm
  rw [hviews, hsort, List.map_map]
  rfl

theorem opponentsOf_congr (h : SameFrame cfg f f') : opponentsOf cfg f = opponentsOf cfg f' := by
  rw [opponentsOf_eq, opponentsOf_eq, HashMap.filterMap_values_congr h.opponents]

theorem onTick_congr (hframe : SameFrame cfg env.frame env'.frame) (hsent : env.sent = env'.sent) :
    onTick cfg env st = onTick cfg env' st := by
  have hsnapshot (car : RuntimeCarFrame) :
      participantSnapshot cfg env.frame car = participantSnapshot cfg env'.frame car := by
    rw [participantSnapshot, participantSnapshot, hframe.tick, hframe.serverTimeMs,
      opponentsOf_congr hframe]
  simp only [onTick, hframe.own, hsent, hsnapshot]

theorem inPit_congr (hframe : SameFrame cfg env.frame env'.frame) :
    inPit cfg env = inPit cfg env' := by
  rw [inPit, inPit, hframe.own]

/-- A turn answers by what is the same in both environments. -/
theorem streamTurn_congr {x y : StreamEnv × StreamInput} (h : SameTurn cfg x y)
    (hown : SameOwnState cfg x.1 y.1) :
    streamTurn cfg x.1 st x.2 = streamTurn cfg y.1 st y.2 := by
  obtain ⟨env, input⟩ := x
  obtain ⟨env', input'⟩ := y
  obtain ⟨rfl, hframe, hdimensions, hcontrols, hback, hpit, hsent⟩ := h
  dsimp only at hframe hdimensions hcontrols hback hpit hsent hown ⊢
  obtain ⟨hlock, hbackCooldown, hpitCooldown, hgameplay⟩ := hown
  rw [hframe.serverTimeMs] at hlock hbackCooldown hpitCooldown
  have hack (ack : ParticipantControlsAck) : sendAck env st ack = sendAck env' st ack := by
    rw [sendAck, sendAck, hsent]
  have hcommandAck (ack : ParticipantCommandAck) :
      sendCommandAck env st ack = sendCommandAck env' st ack := by
    rw [sendCommandAck, sendCommandAck, hsent]
  cases input with
  | tick => exact onTick_congr hframe hsent
  | message msg =>
      rcases msg with status | (_ | _ | payload)
      · rfl
      · rfl
      · rfl
      · cases payload with
        | init =>
            simp only [streamTurn, onPayload, onInit, hsent, hdimensions]
        | controls value =>
            simp only [streamTurn, onPayload, onControls, hgameplay, hlock, hcontrols,
              hframe.tick, hframe.serverTimeMs, hack]
        | backToTrack clientSeq =>
            simp only [streamTurn, onPayload, onBackToTrack, onCommand, rejectCommand,
              acceptCommand, hgameplay, hbackCooldown, hback, hframe.tick,
              hframe.serverTimeMs, inPit_congr hframe, hcommandAck]
        | emergencyPitstop clientSeq =>
            simp only [streamTurn, onPayload, onEmergencyPitstop, onCommand, rejectCommand,
              acceptCommand, hgameplay, hpitCooldown, hpit, hframe.tick,
              hframe.serverTimeMs, inPit_congr hframe, hcommandAck]
        | setNextPitTireType clientSeq nextTireType =>
            simp only [streamTurn, onPayload, onSetNextPitTireType, onCommand, rejectCommand,
              acceptCommand, hgameplay, hframe.tick, hcommandAck]

/-- Of the frame that it starts with, a stream reads the runtime state. -/
theorem streamTurn_startFrame (hstate : cfg.startFrame.runtimeState = f.runtimeState)
    (input : StreamInput) :
    streamTurn { cfg with startFrame := f } env st input = streamTurn cfg env st input := by
  have hsettings : participantSettings { cfg with startFrame := f } = participantSettings cfg := by
    simp only [participantSettings, resolveRuntimeMapId, hstate]
  cases input with
  | tick => rfl
  | message msg =>
      rcases msg with status | (_ | _ | payload)
      · rfl
      · rfl
      · rfl
      · cases payload with
        | init => simp only [streamTurn, onPayload, onInit, hsettings]
        | _ => rfl

end Turns

/-! ## Whole runs -/

/-- Two runs that look the same to the participant, with the same own state,
go through the same turns. -/
theorem streamTurns_congr {cfg : StreamConfig} {inputs inputs' : List (StreamEnv × StreamInput)}
    (h : List.Forall₂ (fun x y => SameTurn cfg x y ∧ SameOwnState cfg x.1 y.1) inputs inputs')
    (st : StreamState) : streamTurns cfg st inputs = streamTurns cfg st inputs' := by
  induction h generalizing st with
  | nil => rfl
  | cons hturn _ ih =>
      rw [streamTurns, streamTurns, streamTurn_congr hturn.1 hturn.2, ih]

theorem streamTurns_startFrame {cfg : StreamConfig} {f : RuntimeFrame}
    (hstate : cfg.startFrame.runtimeState = f.runtimeState)
    (inputs : List (StreamEnv × StreamInput)) (st : StreamState) :
    streamTurns { cfg with startFrame := f } st inputs = streamTurns cfg st inputs := by
  induction inputs generalizing st with
  | nil => rfl
  | cons x rest ih =>
      rw [streamTurns, streamTurns, streamTurn_startFrame hstate, ih]

/-- Two runs of a stream that look the same to the participant, and in which
the store and the race say the same of its own car, send the same events. -/
theorem participants_learn_nothing_private (cfg : StreamConfig) (f : RuntimeFrame)
    (hstart : SameFrame cfg cfg.startFrame f) (inputs inputs' : List (StreamEnv × StreamInput))
    (h : List.Forall₂ (fun x y => SameTurn cfg x y ∧ SameOwnState cfg x.1 y.1) inputs inputs') :
    sentEvents (runParticipantStream cfg inputs) =
      sentEvents (runParticipantStream { cfg with startFrame := f } inputs') := by
  rw [runParticipantStream, runParticipantStream, streamTurns_startFrame hstart.runtimeState,
    streamTurns_congr h]

namespace TwoRuns

def carAt (carId : ℕ) (target : EngineCommandTarget) (speed : F32) : RuntimeCarFrame :=
  ⟨carId, carId, target, { restingCar 0 with speed := speed }, none, none, 0, none, .default,
    .default⟩

/-- The own car with a slow opponent. -/
def slowFrame : RuntimeFrame :=
  { RuntimeFrame.default with
    cars := (Finmap.insert 2 (carAt 2 (.sandbox "s") 1) ∅).insert 1 (carAt 1 (.sandbox "s") 5) }

/-- The opponent is fast, and there is a car in another sandbox. -/
def fastFrame : RuntimeFrame :=
  { RuntimeFrame.default with
    cars := ((Finmap.insert 3 (carAt 3 (.sandbox "t") 9) ∅).insert 2
      (carAt 2 (.sandbox "s") 30)).insert 1 (carAt 1 (.sandbox "s") 5) }

def config : StreamConfig :=
  ⟨.standalone, 60, [], fun _ => 0, slowFrame, 1, 1, .sandbox "s"⟩

def answering (store : RaceRuntimeStore) (frame : RuntimeFrame) : StreamEnv :=
  ⟨frame, store, .new, 0, .ok (2, 5), fun controls => .ok ⟨controls.gearShift⟩, .ok (), .ok (),
    fun _ => true⟩

def driving (env : StreamEnv) : List (StreamEnv × StreamInput) :=
  [(env, .message (.ok (some (some .init)))), (env, .tick),
    (env, .message (.ok (some (some (.backToTrack 7)))))]

theorem slow_looks_fast : SameFrame config slowFrame fastFrame := by
  have hslow : slowFrame.cars.lookup 1 = some (carAt 1 (.sandbox "s") 5) :=
    Finmap.lookup_insert _
  have hfast : fastFrame.cars.lookup 1 = some (carAt 1 (.sandbox "s") 5) :=
    Finmap.lookup_insert _
  refine ⟨rfl, rfl, rfl, hslow.trans hfast.symm, fun carId => ?_⟩
  simp only [slowFrame, fastFrame, HashMap.lookup_insert_eq, Finmap.lookup_empty]
  split
  · rfl
  · split
    · rfl
    · split
      · rfl
      · rfl

/-- The speed of the opponent and the car in the other sandbox do not show. -/
theorem opponent_speed_hidden :
    sentEvents (runParticipantStream config (driving (answering .new slowFrame))) =
      sentEvents (runParticipantStream { config with startFrame := fastFrame }
        (driving (answering .new fastFrame))) := by
  have hturn (input : StreamInput) :
      SameTurn config (answering .new slowFrame, input) (answering .new fastFrame, input) ∧
        SameOwnState config (answering .new slowFrame) (answering .new fastFrame) :=
    ⟨⟨rfl, slow_looks_fast, rfl, rfl, rfl, rfl, rfl⟩, ⟨rfl, rfl, rfl, rfl⟩⟩
  exact participants_learn_nothing_private config fastFrame slow_looks_fast _ _
    (.cons (hturn _) (.cons (hturn _) (.cons (hturn _) .nil)))

/-- The store of a car that has just been put back to the track. -/
def coolingStore : RaceRuntimeStore := RaceRuntimeStore.new.markBackToTrackApplied 1 0

def commandStatuses (effects : List StreamEffect) : List ParticipantCommandStatus :=
  effects.filterMap fun
    | .event _ (.commandAck ack) _ => some ack.status
    | _ => none

/-- In one frame, the cooldown of the own car may be over or not. -/
theorem own_cooldown_shows :
    List.Forall₂ (SameTurn config) (driving (answering .new slowFrame))
        (driving (answering coolingStore slowFrame)) ∧
      sentEvents (runParticipantStream config (driving (answering .new slowFrame))) ≠
        sentEvents (runParticipantStream config (driving (answering coolingStore slowFrame))) := by
  have hframe : SameFrame config slowFrame slowFrame := ⟨rfl, rfl, rfl, rfl, fun _ => rfl⟩
  have hturn (input : StreamInput) : SameTurn config (answering .new slowFrame, input)
      (answering coolingStore slowFrame, input) := ⟨rfl, hframe, rfl, rfl, rfl, rfl, rfl⟩
  refine ⟨.cons (hturn _) (.cons (hturn _) (.cons (hturn _) .nil)), fun hsame => ?_⟩
  have haccepted : commandStatuses (sentEvents (runParticipantStream config
      (driving (answering .new slowFrame)))) = [.accepted] := by decide +kernel
  have hrejected : commandStatuses (sentEvents (runParticipantStream config
      (driving (answering coolingStore slowFrame)))) = [.rejected] := by decide +kernel
  rw [hsame, hrejected] at haccepted
  cases haccepted

end TwoRuns

end HackArena.Services
