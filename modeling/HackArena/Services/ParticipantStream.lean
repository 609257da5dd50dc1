import HackArena.Local.LocalRaceState
import HackArena.Services.FrameHub
import HackArena.Services.Mappers

/-!
# The participant stream

One task per participant reads the client's messages and a ticker, and
answers on an outgoing channel. An iteration of its loop is a turn: what
it sends, writes and calls, in order, and whether the loop goes on. Other
tasks run between the awaits, so each turn has its own view of the frame,
the store and the race, its own engine answers, and its own fate of what
it sends.
-/

namespace HackArena.Services

open Boink HackArena.Runtime HackArena.Local

def participantRequestedHz : ℕ := 30
def minStreamHz : ℕ := 1
def maxStreamHz : ℕ := 120

/-! ## Messages -/

inductive ProtoGearShift where
  | unspecified | none | upshift | downshift
  deriving DecidableEq, Repr

structure ParticipantControls where
  clientSeq : ℕ
  throttle : F32
  brake : F32
  brakeBalancer : F32
  differentialLock : F32
  steering : F32
  gearShift : Raw ProtoGearShift

inductive ParticipantClientPayload where
  | init
  | controls (value : ParticipantControls)
  | backToTrack (clientSeq : ℕ)
  | emergencyPitstop (clientSeq : ℕ)
  | setNextPitTireType (clientSeq : ℕ) (nextTireType : Raw RuntimePitTireType)

/-- What `select!` yields: `incoming.message()`, whose message may lack a
payload, or the ticker. -/
inductive StreamInput where
  | message (msg : Except Status (Option (Option ParticipantClientPayload)))
  | tick

inductive StreamClampReason where
  | none | serverLimit
  deriving DecidableEq, Repr

inductive SpectatorView where
  | unspecified | «public» | team | all
  deriving DecidableEq, Repr

inductive ViewDowngradeReason where
  | none | notAuthorized
  deriving DecidableEq, Repr

structure StreamSettings where
  requestedHz : ℕ
  effectiveHz : ℕ
  clampReason : StreamClampReason
  resolvedView : SpectatorView
  viewDowngradeReason : ViewDowngradeReason
  mapId : String

structure ParticipantControlsAck where
  clientSeq : ℕ
  appliesFromTick : ℕ
  acceptedShift : GearShift

inductive ParticipantCommandType where
  | backToTrack | emergencyPitstop | setNextPitTireType
  deriving DecidableEq, Repr

inductive ParticipantCommandStatus where
  | accepted | rejected
  deriving DecidableEq, Repr

inductive ParticipantCommandRejectReason where
  | unspecified | notAllowed | cooldownActive | inPit
  deriving DecidableEq, Repr

structure ParticipantCommandAck where
  clientSeq : ℕ
  commandType : ParticipantCommandType
  status : ParticipantCommandStatus
  appliesFromTick : ℕ
  rejectedReason : ParticipantCommandRejectReason
  cooldownRemainingMs : ℕ

structure ParticipantSnapshot where
  tick : ℕ
  serverTimeMs : ℕ
  self : ParticipantSelfState
  opponents : List ParticipantOpponentState

inductive ParticipantServerPayload where
  | settings (value : StreamSettings)
  | bootstrap (carDimensions : Option (F32 × F32))
  | ack (value : ParticipantControlsAck)
  | commandAck (value : ParticipantCommandAck)
  | snapshot (value : ParticipantSnapshot)

/-! ## What the stream is given -/

/-- The arguments of `run_participant_stream`; `startFrame` is the frame
it starts with, `viewNumber` the numbering of the views. -/
structure StreamConfig where
  build : Build
  simulationHz : ℕ
  scopes : List String
  viewNumber : SpectatorView → ℤ
  startFrame : RuntimeFrame
  selfPublicCarId : ℕ
  selfEngineCarId : ℕ
  selfTarget : EngineCommandTarget

structure StreamEnv where
  frame : RuntimeFrame
  store : RaceRuntimeStore
  races : LocalRaceState
  nowMs : ℕ
  readCarDimensions : Except EngineWorkerError (F32 × F32)
  setControls : Controls → Except EngineWorkerError AcceptedControls
  setCarBackToTrack : Except EngineWorkerError Unit
  setCarToPitstop : Except EngineWorkerError Unit
  /-- Whether the `n`-th event of the turn is taken by the channel. -/
  sent : ℕ → Bool

/-- The writes to the runtime store, all for the stream's own car. -/
inductive StreamWrite where
  | lastClientSeq (clientSeq : ℕ)
  | controlsInput (throttle brake brakeBalancer differentialLock : F32)
  | backToTrackApplied (nowMs : ℕ)
  | emergencyPitstopRequested (nowMs : ℕ)
  | nextTireFromBot (tireType : RuntimePitTireType)

inductive StreamEffect where
  | event (serverSeq : ℕ) (payload : ParticipantServerPayload) (sent : Bool)
  | terminal (status : Status)
  | engine (op : SlotOp)
  | store (write : StreamWrite)
  | cleanup (reason : String)

structure StreamState where
  initialized : Bool
  serverSeq : ℕ
  selfSeenOnce : Bool
  selfMissingTicks : ℕ

def StreamState.start : StreamState := ⟨false, 1, false, 0⟩

/-- After an event has taken the current number. -/
def StreamState.numbered (st : StreamState) : StreamState :=
  { st with serverSeq := saturatingAdd st.serverSeq 1 }

/-! ## Turns -/

structure Turn where
  state : StreamState
  effects : List StreamEffect
  ended : Bool

def Turn.proceed (st : StreamState) : Turn := ⟨st, [], false⟩

/-- `cleanup_participant_car(reason, ..).await; break;`. -/
def Turn.stop (st : StreamState) (reason : String) : Turn := ⟨st, [.cleanup reason], true⟩

def Turn.after (effects : List StreamEffect) (t : Turn) : Turn :=
  { t with effects := effects ++ t.effects }

/-- A terminal error, which is tried and not awaited, and the end. -/
def rejectStream (st : StreamState) (status : Status) (reason : String) : Turn :=
  (Turn.stop st reason).after [.terminal status]

/-- `send_participant_event`, and the end unless the event was taken. -/
def sendParticipantEvent (st : StreamState) (payload : ParticipantServerPayload) (sent : Bool)
    (reason : String) (next : StreamState → Turn) : Turn :=
  (if sent then next st.numbered else Turn.stop st.numbered reason).after
    [.event st.serverSeq payload sent]

/-! ### The effects of a turn -/

/-- Every effect of the turn has `P`. -/
def Turn.Only (P : StreamEffect → Prop) (t : Turn) : Prop := ∀ effect ∈ t.effects, P effect

section Only

variable {P : StreamEffect → Prop} {st : StreamState}

theorem Turn.only_proceed : (Turn.proceed st).Only P := by
  intro effect hmem
  cases hmem

theorem Turn.Only.after {t : Turn} {effects : List StreamEffect} (h : t.Only P)
    (heffects : ∀ effect ∈ effects, P effect) : (t.after effects).Only P := fun effect hmem =>
  (List.mem_append.mp hmem).elim (heffects effect) (h effect)

theorem Turn.only_stop {reason : String} (hcleanup : P (.cleanup reason)) :
    (Turn.stop st reason).Only P := by
  intro effect hmem
  rw [List.mem_singleton.mp hmem]
  exact hcleanup

theorem Turn.only_reject {status : Status} {reason : String} (hterminal : P (.terminal status))
    (hcleanup : P (.cleanup reason)) : (rejectStream st status reason).Only P :=
  (Turn.only_stop hcleanup).after (List.forall_mem_singleton.mpr hterminal)

theorem Turn.only_send {payload : ParticipantServerPayload} {sent : Bool} {reason : String}
    {next : StreamState → Turn} (hevent : P (.event st.serverSeq payload sent))
    (hcleanup : P (.cleanup reason)) (hnext : (next st.numbered).Only P) :
    (sendParticipantEvent st payload sent reason next).Only P := by
  refine Turn.Only.after ?_ (List.forall_mem_singleton.mpr hevent)
  split
  · exact hnext
  · exact Turn.only_stop hcleanup

end Only

/-! ## The opening -/

def resolveParticipantRate (simulationHz : ℕ) : ℕ × ℕ × StreamClampReason :=
  let requestedHz := participantRequestedHz
  let maxHz := min maxStreamHz (max simulationHz 1)
  let effectiveHz := max minStreamHz (min requestedHz maxHz)
  (requestedHz, effectiveHz, if effectiveHz = requestedHz then .none else .serverLimit)

def resolveView (viewNumber : SpectatorView → ℤ) (requestedView : SpectatorView)
    (scopes : List String) : SpectatorView × ViewDowngradeReason :=
  let allowedView : SpectatorView :=
    if "race.read.all" ∈ scopes then .all
    else if "race.read.team" ∈ scopes then .team
    else .public
  if viewNumber requestedView ≤ viewNumber allowedView then (requestedView, .none)
  else (allowedView, .notAuthorized)

def resolveRuntimeMapId (frame : RuntimeFrame) (visibleTarget : EngineCommandTarget) : String :=
  match frame.runtimeState with
  | none => ""
  | some runtimeState =>
      match visibleTarget with
      | .sandbox sandboxId =>
          match runtimeState.activeSandboxes.find? (fun entry => entry.sandboxId = sandboxId) with
          | some active => active.mapId
          | none => runtimeState.mapId
      | .localRace raceId =>
          match runtimeState.activeLocalRace with
          | some active => if active.raceId = raceId then active.mapId else runtimeState.mapId
          | none => runtimeState.mapId
      | .officialRace => runtimeState.mapId

def participantSettings (cfg : StreamConfig) : StreamSettings :=
  let rate := resolveParticipantRate cfg.simulationHz
  let view := resolveView cfg.viewNumber .team cfg.scopes
  ⟨rate.1, rate.2.1, rate.2.2, view.1, view.2,
    resolveRuntimeMapId cfg.startFrame cfg.selfTarget⟩

def maxInitialSelfMissingTicks (cfg : StreamConfig) : ℕ :=
  min ((resolveParticipantRate cfg.simulationHz).2.1 * 3) u32Max

def onInit (cfg : StreamConfig) (env : StreamEnv) (st : StreamState) : Turn :=
  if st.initialized then
    rejectStream st ⟨.invalidArgument, "participant init may be sent only once"⟩ "duplicate-init"
  else
    sendParticipantEvent { st with initialized := true } (.settings (participantSettings cfg))
      (env.sent 0) "initial-send-failed" fun st =>
        (sendParticipantEvent st (.bootstrap env.readCarDimensions.toOption) (env.sent 1)
          "bootstrap-send-failed" .proceed).after
            [.engine (.readCarDimensions cfg.selfEngineCarId)]

/-! ## Controls -/

def protoGearShiftToEngine : Raw ProtoGearShift → Except Status GearShift
  | none => .error ⟨.invalidArgument, "invalid gear_shift"⟩
  | some .unspecified | some .none => .ok .none
  | some .upshift => .ok .upshift
  | some .downshift => .ok .downshift

def controlsFromProto (value : ParticipantControls) : Except Status Controls :=
  (protoGearShiftToEngine value.gearShift).map
    (Controls.new value.throttle value.brake value.brakeBalancer value.differentialLock
      value.steering)

/-- Only a local race can be closed for gameplay. -/
def localRaceGameplayClosed (env : StreamEnv) : EngineCommandTarget → Bool
  | .localRace raceId => gameplayCommandsClosed env.races raceId env.nowMs
  | .officialRace | .sandbox _ => false

def gameplayClosed (cfg : StreamConfig) (env : StreamEnv) : Bool :=
  cfg.build.isLocal && localRaceGameplayClosed env cfg.selfTarget

def sendAck (env : StreamEnv) (st : StreamState) (ack : ParticipantControlsAck) : Turn :=
  sendParticipantEvent st (.ack ack) (env.sent 0) "ack-send-failed" .proceed

def onControls (cfg : StreamConfig) (env : StreamEnv) (st : StreamState)
    (value : ParticipantControls) : Turn :=
  if st.initialized = false then
    rejectStream st ⟨.invalidArgument, "first participant message must be init"⟩
      "controls-before-init"
  else match controlsFromProto value with
    | .error status => rejectStream st status "invalid-controls"
    | .ok requested =>
        if gameplayClosed cfg env then
          (sendAck env st ⟨value.clientSeq, env.frame.tick, .none⟩).after
            [.store (.lastClientSeq value.clientSeq), .store (.controlsInput 0 1 (1 / 2) 0)]
        else
          let pitState := env.store.pitStateSnapshot cfg.selfPublicCarId env.frame.serverTimeMs
          let applied := if 0 < pitState.emergencyLockRemainingMs then
            Controls.new 0 1 (1 / 2) 0 0 .none else requested
          Turn.after [.engine (.setControls cfg.selfEngineCarId applied)]
            (match env.setControls applied with
            | .error err => rejectStream st (mapWorkerErr err) "set-controls-failed"
            | .ok accepted =>
                (sendAck env st
                  ⟨value.clientSeq, env.frame.tick, accepted.acceptedShift⟩).after
                  [.store (.lastClientSeq value.clientSeq),
                    .store (.controlsInput requested.throttle requested.brake
                      requested.brakeBalancer requested.differentialLock)])

/-! ## Commands -/

def sendCommandAck (env : StreamEnv) (st : StreamState) (ack : ParticipantCommandAck) : Turn :=
  sendParticipantEvent st (.commandAck ack) (env.sent 0) "command-ack-send-failed" .proceed

def acceptCommand (env : StreamEnv) (st : StreamState) (clientSeq : ℕ)
    (commandType : ParticipantCommandType) : Turn :=
  sendCommandAck env st ⟨clientSeq, commandType, .accepted, env.frame.tick, .unspecified, 0⟩

def rejectCommand (env : StreamEnv) (st : StreamState) (clientSeq : ℕ)
    (commandType : ParticipantCommandType) (reason : ParticipantCommandRejectReason)
    (cooldownRemainingMs : ℕ) : Turn :=
  sendCommandAck env st
    ⟨clientSeq, commandType, .rejected, env.frame.tick, reason, cooldownRemainingMs⟩

/-- What every command begins with. -/
def onCommand (cfg : StreamConfig) (env : StreamEnv) (st : StreamState) (clientSeq : ℕ)
    (commandType : ParticipantCommandType) (run : Turn) : Turn :=
  if st.initialized = false then
    rejectStream st ⟨.invalidArgument, "first participant message must be init"⟩
      "command-before-init"
  else if gameplayClosed cfg env then rejectCommand env st clientSeq commandType .notAllowed 0
  else run

def inPit (cfg : StreamConfig) (env : StreamEnv) : Bool :=
  match env.frame.cars.lookup cfg.selfPublicCarId with
  | some car => car.state.pitstopState.isInAnyZone
  | none => false

def onBackToTrack (cfg : StreamConfig) (env : StreamEnv) (st : StreamState) (clientSeq : ℕ) :
    Turn :=
  onCommand cfg env st clientSeq .backToTrack <|
    let cooldownRemainingMs := env.store.backToTrackCooldownRemainingMs cfg.selfPublicCarId
      env.frame.serverTimeMs
    if 0 < cooldownRemainingMs then
      rejectCommand env st clientSeq .backToTrack .cooldownActive cooldownRemainingMs
    else if inPit cfg env then rejectCommand env st clientSeq .backToTrack .inPit 0
    else Turn.after [.engine (.setCarBackToTrack cfg.selfEngineCarId)]
      (match env.setCarBackToTrack with
      | .ok () => (acceptCommand env st clientSeq .backToTrack).after
          [.store (.backToTrackApplied env.frame.serverTimeMs)]
      | .error _ => rejectCommand env st clientSeq .backToTrack .notAllowed 0)

/-- Pit and cooldown are looked at in the official build only. -/
def onEmergencyPitstop (cfg : StreamConfig) (env : StreamEnv) (st : StreamState)
    (clientSeq : ℕ) : Turn :=
  onCommand cfg env st clientSeq .emergencyPitstop <|
    let cooldownRemainingMs := env.store.emergencyPitstopCooldownRemainingMs cfg.selfPublicCarId
      env.frame.serverTimeMs
    if cfg.build = .official ∧ inPit cfg env then
      rejectCommand env st clientSeq .emergencyPitstop .inPit 0
    else if cfg.build = .official ∧ 0 < cooldownRemainingMs then
      rejectCommand env st clientSeq .emergencyPitstop .cooldownActive cooldownRemainingMs
    else Turn.after [.engine (.setCarToPitstop cfg.selfEngineCarId)]
      (match env.setCarToPitstop with
      | .ok () => (acceptCommand env st clientSeq .emergencyPitstop).after
          (if cfg.build = .official then
            [.store (.emergencyPitstopRequested env.frame.serverTimeMs)] else [])
      | .error _ => rejectCommand env st clientSeq .emergencyPitstop .notAllowed 0)

def onSetNextPitTireType (cfg : StreamConfig) (env : StreamEnv) (st : StreamState)
    (clientSeq : ℕ) (nextTireType : Raw RuntimePitTireType) : Turn :=
  onCommand cfg env st clientSeq .setNextPitTireType <|
    match nextTireType with
    | some tireType => (acceptCommand env st clientSeq .setNextPitTireType).after
        [.store (.nextTireFromBot tireType)]
    | none => rejectCommand env st clientSeq .setNextPitTireType .notAllowed 0

/-! ## Ticks -/

def opponentsOf (cfg : StreamConfig) (frame : RuntimeFrame) : List ParticipantOpponentState :=
  let opponents := frame.cars.values.filter fun entry =>
    entry.publicCarId ≠ cfg.selfPublicCarId ∧ entry.target = cfg.selfTarget
  (opponents.insertionSort fun a b => a.publicCarId ≤ b.publicCarId).map fun entry =>
    participantOpponentState entry.publicCarId entry.state

def participantSnapshot (cfg : StreamConfig) (frame : RuntimeFrame) (car : RuntimeCarFrame) :
    ParticipantSnapshot :=
  ⟨frame.tick, frame.serverTimeMs, participantSelfState cfg.selfPublicCarId car.state
    car.lastClientSeq car.pitState, opponentsOf cfg frame⟩

def onTick (cfg : StreamConfig) (env : StreamEnv) (st : StreamState) : Turn :=
  if st.initialized = false then .proceed st
  else match env.frame.cars.lookup cfg.selfPublicCarId with
    | none =>
        let st := { st with selfMissingTicks := min (st.selfMissingTicks + 1) u32Max }
        if st.selfSeenOnce = false ∧ st.selfMissingTicks ≤ maxInitialSelfMissingTicks cfg then
          .proceed st
        else rejectStream st ⟨.notFound, "participant car is no longer active"⟩ "self-missing"
    | some car =>
        let st := { st with selfSeenOnce := true, selfMissingTicks := 0 }
        if car.target ≠ cfg.selfTarget then
          rejectStream st ⟨.failedPrecondition, "participant car target changed"⟩
            "self-target-changed"
        else if car.engineCarId ≠ cfg.selfEngineCarId then
          rejectStream st ⟨.failedPrecondition, "participant car engine mapping changed"⟩
            "self-engine-id-changed"
        else sendParticipantEvent st (.snapshot (participantSnapshot cfg env.frame car))
          (env.sent 0) "snapshot-send-failed" .proceed

/-! ## The loop -/

def onPayload (cfg : StreamConfig) (env : StreamEnv) (st : StreamState) :
    ParticipantClientPayload → Turn
  | .init => onInit cfg env st
  | .controls value => onControls cfg env st value
  | .backToTrack clientSeq => onBackToTrack cfg env st clientSeq
  | .emergencyPitstop clientSeq => onEmergencyPitstop cfg env st clientSeq
  | .setNextPitTireType clientSeq nextTireType =>
      onSetNextPitTireType cfg env st clientSeq nextTireType

def streamTurn (cfg : StreamConfig) (env : StreamEnv) (st : StreamState) : StreamInput → Turn
  | .message (.ok none) => .stop st "disconnect"
  | .message (.error status) => rejectStream st status "client-stream-error"
  | .message (.ok (some none)) =>
      rejectStream st ⟨.invalidArgument, "participant message payload is required"⟩
        "invalid-message-empty-payload"
  | .message (.ok (some (some payload))) => onPayload cfg env st payload
  | .tick => onTick cfg env st

/-- The turns of the loop, one for each input it gets to. -/
def streamTurns (cfg : StreamConfig) : StreamState → List (StreamEnv × StreamInput) → List Turn
  | _, [] => []
  | st, (env, input) :: rest =>
      let turn := streamTurn cfg env st input
      turn :: if turn.ended then [] else streamTurns cfg turn.state rest

def runParticipantStream (cfg : StreamConfig) (inputs : List (StreamEnv × StreamInput)) :
    List Turn :=
  streamTurns cfg .start inputs

end HackArena.Services
