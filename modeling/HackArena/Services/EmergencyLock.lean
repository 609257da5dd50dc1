import HackArena.Services.StoreInvariant

/-!
# The emergency lock

After an emergency pit stop a car is held by the brake for a while. Three
paths send controls to the engine: the participant stream and the idle
enforcement of the frame hub look at the lock, `set_controls_dev` does not.
-/

namespace HackArena.Services

open Boink HackArena.Runtime HackArena.Local Tasks

/-- The idle controls that hold a car by the brake. -/
def brakeHold : Controls := Controls.new 0 1 (1 / 2) 0 0 .none

/-- The emergency lock of the car is active at a time. -/
def Locked (s : RaceRuntimeStore) (carId nowMs : ℕ) : Prop :=
  0 < (s.pitStateSnapshot carId nowMs).emergencyLockRemainingMs

theorem remainingU32_pos {untilMs nowMs : ℕ} : 0 < remainingU32 untilMs nowMs ↔ nowMs < untilMs := by
  have hmax : 0 < u32Max := by decide
  rw [remainingU32]
  split <;> omega

theorem locked_iff {s : RaceRuntimeStore} {carId nowMs : ℕ} :
    Locked s carId nowMs ↔ nowMs < (s.pitState carId).emergencyLockUntilMs := by
  rw [Locked, RaceRuntimeStore.pitStateSnapshot, RaceRuntimeStore.pitState]
  cases s.carPitState.lookup carId with
  | none => simp [RuntimePitStateSnapshot.default, RuntimePitState.default]
  | some state => exact remainingU32_pos

/-! ## The requests of developers -/

structure SetControlsDevRequest where
  targetCarId : ℕ
  clientSeq : ℕ
  throttle : F32
  brake : F32
  steering : F32
  gearShift : Raw ProtoGearShift

def protoDevToControls (req : SetControlsDevRequest) : Except Status Controls :=
  (protoGearShiftToEngine req.gearShift).map
    (Controls.new req.throttle req.brake (1 / 2) 0 req.steering)

def setControlsDevRequest (b : Build) (req : SetControlsDevRequest) : Task TaskOutcome :=
  match protoDevToControls req with
  | .error status => return .refused status
  | .ok controls => setControlsDev b req.targetCarId req.clientSeq controls

/-- The request asks for nothing but the brake. -/
structure AsksForBrake (req : SetControlsDevRequest) : Prop where
  throttle : req.throttle ≤ 0
  brake : 1 ≤ req.brake
  steering : req.steering = 0
  gearShift : req.gearShift = some .unspecified ∨ req.gearShift = some .none

/-- A request about the car reaches the engine: the car has a target and an
engine id, and its local race, if any, is open for commands. -/
def DevForwards (b : Build) (s : Backend) (carId clockMs : ℕ) : Prop :=
  ∃ target engineCarId, s.store.carTargets.lookup carId = some target ∧
    s.store.carEngineIds.lookup carId = some engineCarId ∧
    (b.isLocal = true → ∀ raceId, target = .localRace raceId →
      gameplayCommandsClosed s.races raceId clockMs = false)

section Requests

variable {b : Build} {s : Backend} {req : SetControlsDevRequest} {controls : Controls}

theorem clamp_eq_lo {x lo hi : F32} (h : lo < hi) : clamp x lo hi = lo ↔ x ≤ lo := by
  rw [clamp]
  split
  · rename_i hlt
    exact iff_of_true rfl hlt.le
  · rename_i hle
    split
    · rename_i hgt
      exact iff_of_false h.ne' (not_le.mpr (h.trans hgt))
    · exact ⟨le_of_eq, fun hle' => le_antisymm hle' (not_lt.mp hle)⟩

theorem clamp_eq_hi {x lo hi : F32} (h : lo < hi) : clamp x lo hi = hi ↔ hi ≤ x := by
  rw [clamp]
  split
  · rename_i hlt
    exact iff_of_false h.ne (not_le.mpr (hlt.trans h))
  · split
    · rename_i hgt
      exact iff_of_true rfl hgt.le
    · rename_i hle
      exact ⟨ge_of_eq, fun hge => le_antisymm (not_lt.mp hle) hge⟩

theorem clamp_eq_mid {x y lo hi : F32} (hlo : lo < y) (hhi : y < hi) :
    clamp x lo hi = y ↔ x = y := by
  rw [clamp]
  split
  · rename_i hlt
    exact iff_of_false hlo.ne (hlt.trans hlo).ne
  · split
    · rename_i hgt
      exact iff_of_false hhi.ne' (hhi.trans hgt).ne'
    · exact Iff.rfl

theorem controls_eq_brakeHold (throttle brake steering : F32) (gearShift : GearShift) :
    Controls.new throttle brake (1 / 2) 0 steering gearShift = brakeHold ↔
      throttle ≤ 0 ∧ 1 ≤ brake ∧ steering = 0 ∧ gearShift = .none := by
  have hone : (0 : F32) < 1 := by decide
  have hmid : (-1 : F32) < 0 := by decide
  have hbrakeHold : brakeHold = ⟨0, 1, 1 / 2, 0, 0, .none⟩ := by decide +kernel
  have hbalance : clamp (1 / 2) 0 1 = 1 / 2 := by decide +kernel
  have hlock : clamp 0 0 1 = 0 := by decide
  rw [hbrakeHold, Controls.new, Controls.mk.injEq, hbalance, hlock, clamp_eq_lo hone,
    clamp_eq_hi hone, clamp_eq_mid hmid hone]
  simp

theorem protoDevToControls_eq_brakeHold (h : protoDevToControls req = .ok controls) :
    controls = brakeHold ↔ AsksForBrake req := by
  obtain ⟨gearShift, hgear, rfl⟩ : ∃ gearShift, protoGearShiftToEngine req.gearShift =
      .ok gearShift ∧ Controls.new req.throttle req.brake (1 / 2) 0 req.steering gearShift =
        controls := by
    rw [protoDevToControls] at h
    cases hgear : protoGearShiftToEngine req.gearShift with
    | error status =>
        rw [hgear] at h
        cases h
    | ok gearShift =>
        rw [hgear] at h
        exact ⟨gearShift, rfl, Except.ok.inj h⟩
  have hnone : gearShift = .none ↔
      req.gearShift = some .unspecified ∨ req.gearShift = some .none := by
    cases hraw : req.gearShift with
    | none =>
        rw [hraw] at hgear
        cases hgear
    | some shift =>
        rw [hraw] at hgear
        cases shift <;> cases hgear <;> simp
  rw [controls_eq_brakeHold, hnone]
  exact ⟨fun ⟨hthrottle, hbrake, hsteering, hshift⟩ => ⟨hthrottle, hbrake, hsteering, hshift⟩,
    fun ⟨hthrottle, hbrake, hsteering, hshift⟩ => ⟨hthrottle, hbrake, hsteering, hshift⟩⟩

/-- The controls that a call forwards have `P`; other calls forward none. -/
def ForwardsOnly (P : Controls → Prop) : ServiceOp → Prop
  | .engine _ (.setControls _ controls) => P controls
  | _ => True

/-- What is left of a request once its car has been found in an open race. -/
def acceptDev (target : EngineCommandTarget) (engineCarId targetCarId clientSeq : ℕ)
    (controls : Controls) : Task TaskOutcome := do
  match ← inEngine target (.setControls engineCarId controls) with
  | .error err => return .refused (mapWorkerErr err)
  | .ok _ =>
  (ServiceOp.car targetCarId (.lastClientSeq clientSeq)).call
  (ServiceOp.car targetCarId (.setControlsInput controls.throttle controls.brake
    controls.brakeBalancer controls.differentialLock)).call
  return .done

/-- The request looks whether the race of the car is open. -/
def localRaceClosed (b : Build) (target : EngineCommandTarget) : Task Bool :=
  match b.isLocal, target with
  | true, .localRace raceId => (ServiceOp.gameplayCommandsClosed raceId).call
  | _, _ => return false

theorem acceptDev_forwards_iff {P : Controls → Prop} (target : EngineCommandTarget)
    (engineCarId carId clientSeq : ℕ) (inputs : ℕ → ServiceInput) :
    (∀ op ∈ (acceptDev target engineCarId carId clientSeq controls).calls (execCall b) inputs s,
        ForwardsOnly P op) ↔ P controls := by
  refine ⟨fun h => h _ List.mem_cons_self, fun h op hop => ?_⟩
  have huses : (acceptDev target engineCarId carId clientSeq controls).Uses (ForwardsOnly P) := by
    refine .call h fun result => ?_
    cases result with
    | error err => trivial
    | ok accepted => exact .call trivial fun _ => .call trivial fun _ => trivial
  exact huses.calls _ _ _ op hop

theorem setControlsDev_eq (carId clientSeq : ℕ) :
    setControlsDev b carId clientSeq controls = (do
      match ← (ServiceOp.carTarget carId).call with
      | none => return .refused ⟨.notFound, "unknown car target"⟩
      | some target =>
      match ← (ServiceOp.carEngineId carId).call with
      | none => return .refused ⟨.notFound, "unknown car target"⟩
      | some engineCarId =>
      let closed ← localRaceClosed b target
      if closed then
        return .refused ⟨.failedPrecondition,
          "standalone local race accepts gameplay commands only while running"⟩
      else acceptDev target engineCarId carId clientSeq controls) := by
  refine congrArg (Prog.call _) (funext fun found => ?_)
  cases found with
  | none => rfl
  | some target =>
      refine congrArg (Prog.call _) (funext fun found => ?_)
      cases found with
      | none => rfl
      | some engineCarId =>
          refine congrArg₂ (· >>= ·) rfl (funext fun closed => ?_)
          cases closed with
          | true => rfl
          | false =>
              refine congrArg (Prog.call _) (funext fun result => ?_)
              cases result <;> rfl

theorem setControlsDev_forwards_iff {P : Controls → Prop} (carId clientSeq : ℕ)
    (inputs : ℕ → ServiceInput) :
    (∀ op ∈ (setControlsDev b carId clientSeq controls).calls (execCall b) inputs s,
        ForwardsOnly P op) ↔
      (DevForwards b s carId (inputs 2).nowMs → P controls) := by
  have haccept (target : EngineCommandTarget) (engineCarId : ℕ) (inputs : ℕ → ServiceInput) :
      (∀ op ∈ (acceptDev target engineCarId carId clientSeq controls).calls (execCall b) inputs s,
        ForwardsOnly P op) ↔ P controls := acceptDev_forwards_iff ..
  rw [setControlsDev_eq]
  cases htarget : s.store.carTargets.lookup carId with
  | none =>
      have hfirst : execCall b s (.carTarget carId) (inputs 0) = (s, none) :=
        Prod.ext rfl htarget
      simp only [ServiceOp.call, Prog.perform_bind, Prog.calls, hfirst]
      simp [Prog.calls, ForwardsOnly, DevForwards, htarget]
  | some target =>
      have hfirst : execCall b s (.carTarget carId) (inputs 0) = (s, some target) :=
        Prod.ext rfl htarget
      cases hengineId : s.store.carEngineIds.lookup carId with
      | none =>
          have hsecond : execCall b s (.carEngineId carId) (inputs 1) = (s, none) :=
            Prod.ext rfl hengineId
          simp only [ServiceOp.call, Prog.perform_bind, Prog.calls, hfirst, hsecond]
          simp [Prog.calls, ForwardsOnly, DevForwards, hengineId]
      | some engineCarId =>
          have hsecond : execCall b s (.carEngineId carId) (inputs 1) = (s, some engineCarId) :=
            Prod.ext rfl hengineId
          have hforwards : DevForwards b s carId (inputs 2).nowMs ↔ (b.isLocal = true →
              ∀ raceId, target = .localRace raceId →
                gameplayCommandsClosed s.races raceId (inputs 2).nowMs = false) := by
            simp [DevForwards, htarget, hengineId]
          simp only [ServiceOp.call, Prog.perform_bind, Prog.calls, hfirst, hsecond,
            List.forall_mem_cons]
          rw [hforwards]
          by_cases hgate : b.isLocal = true ∧ ∃ raceId, target = .localRace raceId
          · obtain ⟨hlocal, raceId, rfl⟩ := hgate
            have hthird : execCall b s (.gameplayCommandsClosed raceId) (inputs 2) =
                (s, gameplayCommandsClosed s.races raceId (inputs 2).nowMs) := rfl
            simp only [localRaceClosed, ServiceOp.call, hlocal, Prog.perform_bind, Prog.calls,
              hthird, List.forall_mem_cons]
            cases hclosed : gameplayCommandsClosed s.races raceId (inputs 2).nowMs with
            | true => simp [Prog.calls, ForwardsOnly, hclosed]
            | false =>
                refine ⟨fun h _ => (haccept _ _ _).mp h.2.2.2, fun h => ?_⟩
                refine ⟨trivial, trivial, trivial, (haccept _ _ _).mpr (h fun _ other heq => ?_)⟩
                cases heq
                exact hclosed
          · have hskips : b.isLocal = true → ∀ raceId, target = .localRace raceId →
                gameplayCommandsClosed s.races raceId (inputs 2).nowMs = false :=
              fun hlocal raceId htarget => (hgate ⟨hlocal, raceId, htarget⟩).elim
            have hopen : localRaceClosed b target = pure false := by
              unfold localRaceClosed
              split
              · rename_i raceId hlocal
                exact (hgate ⟨hlocal, raceId, rfl⟩).elim
              · rfl
            rw [hopen]
            exact ⟨fun h _ => (haccept _ _ _).mp h.2.2,
              fun h => ⟨trivial, trivial, (haccept _ _ _).mpr (h hskips)⟩⟩

end Requests

/-! ## The participant stream -/

section Stream

variable {cfg : StreamConfig} {env : StreamEnv} {st : StreamState}

/-- The same for the effects of a turn. -/
def ForwardsInTurn (P : Controls → Prop) : StreamEffect → Prop
  | .engine (.setControls _ controls) => P controls
  | _ => True

theorem only_rejectStream (status : Status) (reason : String) {P : Controls → Prop} :
    (rejectStream st status reason).Only (ForwardsInTurn P) := Turn.only_reject trivial trivial

theorem only_sendCommandAck (ack : ParticipantCommandAck) {P : Controls → Prop} :
    (sendCommandAck env st ack).Only (ForwardsInTurn P) :=
  Turn.only_send trivial trivial Turn.only_proceed

theorem onInit_forwards {P : Controls → Prop} : (onInit cfg env st).Only (ForwardsInTurn P) := by
  rw [onInit]
  split
  · exact only_rejectStream _ _
  · refine Turn.only_send trivial trivial (Turn.Only.after ?_ (List.forall_mem_singleton.mpr trivial))
    exact Turn.only_send trivial trivial Turn.only_proceed

theorem onControls_forwards {P : Controls → Prop}
    (hlocked : Locked env.store cfg.selfPublicCarId env.frame.serverTimeMs)
    (hhold : P brakeHold) (value : ParticipantControls) :
    (onControls cfg env st value).Only (ForwardsInTurn P) := by
  have hack (ack : ParticipantControlsAck) : (sendAck env st ack).Only (ForwardsInTurn P) :=
    Turn.only_send trivial trivial Turn.only_proceed
  rw [onControls]
  split
  · exact only_rejectStream _ _
  · split
    · exact only_rejectStream _ _
    · split
      · exact (hack _).after (by simp [ForwardsInTurn])
      · have hactive : 0 < (env.store.pitStateSnapshot cfg.selfPublicCarId
            env.frame.serverTimeMs).emergencyLockRemainingMs := hlocked
        dsimp only
        rw [if_pos hactive]
        refine Turn.Only.after ?_ (List.forall_mem_singleton.mpr hhold)
        split
        · exact only_rejectStream _ _
        · exact (hack _).after (by simp [ForwardsInTurn])

theorem onCommand_forwards {P : Controls → Prop} {run : Turn} (hrun : run.Only (ForwardsInTurn P))
    (clientSeq : ℕ) (type : ParticipantCommandType) :
    (onCommand cfg env st clientSeq type run).Only (ForwardsInTurn P) := by
  rw [onCommand]
  split
  · exact only_rejectStream _ _
  · split
    · exact only_sendCommandAck _
    · exact hrun

theorem onBackToTrack_forwards {P : Controls → Prop} (clientSeq : ℕ) :
    (onBackToTrack cfg env st clientSeq).Only (ForwardsInTurn P) := by
  refine onCommand_forwards ?_ clientSeq _
  dsimp only
  split
  · exact only_sendCommandAck _
  · split
    · exact only_sendCommandAck _
    · refine Turn.Only.after ?_ (List.forall_mem_singleton.mpr trivial)
      split
      · exact (only_sendCommandAck _).after (List.forall_mem_singleton.mpr trivial)
      · exact only_sendCommandAck _

theorem onEmergencyPitstop_forwards {P : Controls → Prop} (clientSeq : ℕ) :
    (onEmergencyPitstop cfg env st clientSeq).Only (ForwardsInTurn P) := by
  refine onCommand_forwards ?_ clientSeq _
  dsimp only
  split
  · exact only_sendCommandAck _
  · split
    · exact only_sendCommandAck _
    · refine Turn.Only.after ?_ (List.forall_mem_singleton.mpr trivial)
      split
      · refine (only_sendCommandAck _).after ?_
        split <;> simp [ForwardsInTurn]
      · exact only_sendCommandAck _

theorem onSetNextPitTireType_forwards {P : Controls → Prop} (clientSeq : ℕ)
    (nextTireType : Raw RuntimePitTireType) :
    (onSetNextPitTireType cfg env st clientSeq nextTireType).Only (ForwardsInTurn P) := by
  refine onCommand_forwards ?_ clientSeq _
  split
  · exact (only_sendCommandAck _).after (List.forall_mem_singleton.mpr trivial)
  · exact only_sendCommandAck _

theorem onTick_forwards {P : Controls → Prop} : (onTick cfg env st).Only (ForwardsInTurn P) := by
  rw [onTick]
  split
  · exact Turn.only_proceed
  · split
    · dsimp only
      split
      · exact Turn.only_proceed
      · exact only_rejectStream _ _
    · dsimp only
      split
      · exact only_rejectStream _ _
      · split
        · exact only_rejectStream _ _
        · exact Turn.only_send trivial trivial Turn.only_proceed

/-- A turn forwards the brake while the lock is active. -/
theorem streamTurn_forwards
    (hlocked : Locked env.store cfg.selfPublicCarId env.frame.serverTimeMs)
    (input : StreamInput) :
    (streamTurn cfg env st input).Only (ForwardsInTurn (· = brakeHold)) := by
  cases input with
  | tick => exact onTick_forwards
  | message msg =>
      rcases msg with status | (_ | _ | payload)
      · exact only_rejectStream _ _
      · exact Turn.only_stop trivial
      · exact only_rejectStream _ _
      · cases payload with
        | init => exact onInit_forwards
        | controls value => exact onControls_forwards (P := (· = brakeHold)) hlocked rfl value
        | backToTrack clientSeq => exact onBackToTrack_forwards clientSeq
        | emergencyPitstop clientSeq => exact onEmergencyPitstop_forwards clientSeq
        | setNextPitTireType clientSeq nextTireType =>
            exact onSetNextPitTireType_forwards clientSeq nextTireType

end Stream

/-! ## The frame hub -/

section Hub

variable {b : Build} {carId nowMs untilMs : ℕ}

/-- The lock of the car lasts until then. -/
def LockedUntil (carId untilMs : ℕ) (s : Backend) : Prop :=
  (s.store.pitState carId).emergencyLockUntilMs = untilMs

theorem trackFixSession_lock (entry : RuntimePitState) (state : VehicleState)
    (raceMetrics : Option VehicleRaceMetrics) (botSlot nowMs : ℕ) :
    (entry.trackFixSession state raceMetrics botSlot nowMs).emergencyLockUntilMs =
      entry.emergencyLockUntilMs := by
  cases hin : state.pitstopState.hasZone .fix <;> cases hwas : entry.wasInFixZone <;>
    cases hsession : entry.activeFixSession <;>
    simp [RuntimePitState.trackFixSession, RuntimePitState.pushHistory, hin, hwas, hsession]

theorem trackFullPit_lock (entry : RuntimePitState) (state : VehicleState)
    (raceMetrics : Option VehicleRaceMetrics) (nowMs : ℕ) :
    (entry.trackFullPit state raceMetrics nowMs).emergencyLockUntilMs =
      entry.emergencyLockUntilMs := by
  rw [RuntimePitState.trackFullPit]
  split <;> rfl

/-- The update of the hub keeps the lock, and shows it. -/
theorem updatePitStateFromRuntime_lock (s : RaceRuntimeStore) (state : VehicleState)
    (raceMetrics : Option VehicleRaceMetrics) :
    ((s.updatePitStateFromRuntime b carId state raceMetrics nowMs).2.pitState
        carId).emergencyLockUntilMs = (s.pitState carId).emergencyLockUntilMs ∧
      (s.updatePitStateFromRuntime b carId state raceMetrics
        nowMs).1.emergencyLockRemainingMs =
          remainingU32 (s.pitState carId).emergencyLockUntilMs nowMs := by
  have hofficial := trackFixSession_lock (s.pitState carId) state raceMetrics
    (s.currentBotSlotForHistory carId) nowMs
  have hlocal := trackFullPit_lock (s.pitState carId) state raceMetrics nowMs
  cases b with
  | official =>
      simp only [RaceRuntimeStore.updatePitStateFromRuntime, pitState_putPitState_self,
        RuntimePitState.snapshot]
      cases completedPit state <;> exact ⟨hofficial, congrArg (remainingU32 · nowMs) hofficial⟩
  | «local» | standalone =>
      simp only [RaceRuntimeStore.updatePitStateFromRuntime, pitState_putPitState_self,
        RuntimePitState.snapshot]
      cases completedPit state <;> exact ⟨hlocal, congrArg (remainingU32 · nowMs) hlocal⟩

/-- What a pass calls for the car keeps its lock. -/
theorem ownCarCall_keeps_lock (op : ServiceOp) (hop : OwnCarCall carId op) (s : Backend)
    (input : ServiceInput) (h : LockedUntil carId untilMs s) :
    LockedUntil carId untilMs (execCall b s op input).1 := by
  cases op with
  | car other call =>
      obtain ⟨rfl, hwrites⟩ := hop
      rw [← h]
      cases call with
      | planPitFixTireApply currentTireType inStationaryFix =>
          change ((s.store.planPitFixTireApply other currentTireType
            inStationaryFix).2.pitState other).emergencyLockUntilMs = _
          rw [planPitFixTireApply_store, pitState_putPitState_self]
          cases inStationaryFix <;> rfl
      | markPitFixTireApplied tireType =>
          change ((s.store.markPitFixTireApplied other tireType).pitState
            other).emergencyLockUntilMs = _
          rw [RaceRuntimeStore.markPitFixTireApplied, pitState_putPitState_self]
      | updatePitStateFromRuntime state raceMetrics nowMs =>
          exact (updatePitStateFromRuntime_lock s.store state raceMetrics).1
      | lastClientSeq | setControlsInput | setPitRequestActive | setNextTireFromFrontend
      | setNextTireFromBot | markBackToTrackApplied | markEmergencyPitstopRequested
      | setActiveBotSlot | clearActiveBotSlot | setBotSwitchInProgress => cases hwrites
  | engine | carTarget | carEngineId => exact h
  | _ => exact hop.elim

theorem readRaceMetrics_forwards (P : Controls → Prop) (target : EngineCommandTarget)
    (engineCarId : ℕ) : (Tasks.readRaceMetrics b target engineCarId).Uses (ForwardsOnly P) := by
  cases b with
  | «local» => trivial
  | official => exact .call trivial fun _ => trivial
  | standalone => exact .call trivial fun _ => trivial

theorem applyPitFixTire_forwards (P : Controls → Prop) (target : EngineCommandTarget)
    (publicCarId engineCarId : ℕ) (state : VehicleState) :
    (Tasks.applyPitFixTire b target publicCarId engineCarId state).Uses (ForwardsOnly P) := by
  rw [Tasks.applyPitFixTire]
  split
  · trivial
  · refine .call trivial fun desired => ?_
    cases desired with
    | none => trivial
    | some desired =>
        dsimp only
        split
        · trivial
        · refine .call trivial fun result => ?_
          split
          · exact .call trivial fun _ => trivial
          · trivial
          · trivial

/-- A pass over the car forwards the brake while the lock is active. -/
theorem collectCar_forwards {s : Backend} (hlocked : Locked s.store carId nowMs) :
    (Tasks.collectCar b (fun carId => (ServiceOp.removeCar carId).call) nowMs carId).Makes (execCall b)
      (ForwardsOnly (· = brakeHold)) s := by
  have hremove (t : Backend) : ((ServiceOp.removeCar carId).call : Task Unit).Makes (execCall b)
      (ForwardsOnly (· = brakeHold)) t := ⟨trivial, fun _ => trivial⟩
  rw [locked_iff] at hlocked
  refine .call trivial fun input => ?_
  split
  · exact hremove _
  · rename_i target _
    refine .call trivial fun input => ?_
    split
    · exact hremove _
    · rename_i engineCarId _
      refine .call trivial fun input => ?_
      split
      · exact hremove _
      · trivial
      · rename_i state _
        have hstart : LockedUntil carId (s.store.pitState carId).emergencyLockUntilMs s := rfl
        refine Prog.Makes.bind ((readRaceMetrics_forwards _ target engineCarId).makes _)
          ((readRaceMetrics_uses b carId target engineCarId).ensures ownCarCall_keeps_lock hstart)
          fun metrics t ht => ?_
        split
        · exact hremove _
        · trivial
        · refine Prog.Makes.bind ((applyPitFixTire_forwards _ target carId engineCarId state).makes _)
            ((applyPitFixTire_uses b target carId engineCarId state).ensures ownCarCall_keeps_lock
              ht) fun dropped t ht => ?_
          split
          · exact hremove _
          · rename_i raceMetrics _
            refine .call trivial fun input => ?_
            have hactive : 0 < (execCall b t (.car carId (.updatePitStateFromRuntime state
                raceMetrics nowMs)) input).2.emergencyLockRemainingMs := by
              change 0 < (t.store.updatePitStateFromRuntime b carId state raceMetrics
                nowMs).1.emergencyLockRemainingMs
              rw [(updatePitStateFromRuntime_lock t.store state raceMetrics).2, ht]
              exact remainingU32_pos.mpr hlocked
            split
            · exact .call rfl fun _ => trivial
            · trivial

end Hub

/-- Every path that forwards controls of the car forwards the brake. -/
structure LockBinds (b : Build) (s : Backend) (nowMs : ℕ) (req : SetControlsDevRequest)
    (inputs : ℕ → ServiceInput) : Prop where
  stream : ∀ (cfg : StreamConfig) (env : StreamEnv), cfg.selfPublicCarId = req.targetCarId →
    env.store = s.store → env.frame.serverTimeMs = nowMs → ∀ st input,
      (streamTurn cfg env st input).Only (ForwardsInTurn (· = brakeHold))
  hub : ∀ inputs, ∀ op ∈ (Tasks.collectCar b (fun carId => (ServiceOp.removeCar carId).call) nowMs
    req.targetCarId).calls (execCall b) inputs s, ForwardsOnly (· = brakeHold) op
  dev : ∀ op ∈ (setControlsDevRequest b req).calls (execCall b) inputs s,
    ForwardsOnly (· = brakeHold) op

theorem setControlsDevRequest_forwards_iff {b : Build} {s : Backend} {req : SetControlsDevRequest}
    (inputs : ℕ → ServiceInput) :
    (∀ op ∈ (setControlsDevRequest b req).calls (execCall b) inputs s,
        ForwardsOnly (· = brakeHold) op) ↔
      req.gearShift = none ∨ ¬ DevForwards b s req.targetCarId (inputs 2).nowMs ∨
        AsksForBrake req := by
  have hgear : (∃ status, protoDevToControls req = .error status) ↔ req.gearShift = none := by
    rw [protoDevToControls]
    rcases req.gearShift with _ | shift
    · exact iff_of_true ⟨_, rfl⟩ rfl
    · cases shift <;> simp [protoGearShiftToEngine, Except.map]
  rw [setControlsDevRequest]
  cases hcontrols : protoDevToControls req with
  | error status =>
      refine iff_of_true ?_ (Or.inl (hgear.mp ⟨status, hcontrols⟩))
      intro op hop
      cases hop
  | ok controls =>
      have hvalid : req.gearShift ≠ none := fun h => by
        obtain ⟨status, hstatus⟩ := hgear.mpr h
        rw [hcontrols] at hstatus
        cases hstatus
      dsimp only
      rw [setControlsDev_forwards_iff, protoDevToControls_eq_brakeHold hcontrols,
        or_iff_right hvalid, imp_iff_not_or]

/-- While the lock of a car is active, all paths hold it by the brake exactly
when the request of a developer is refused or asks for the brake itself. -/
theorem lock_binds_iff (b : Build) (s : Backend) (nowMs : ℕ) (req : SetControlsDevRequest)
    (inputs : ℕ → ServiceInput) (hlocked : Locked s.store req.targetCarId nowMs) :
    LockBinds b s nowMs req inputs ↔
      req.gearShift = none ∨ ¬ DevForwards b s req.targetCarId (inputs 2).nowMs ∨
        AsksForBrake req := by
  rw [← setControlsDevRequest_forwards_iff]
  refine ⟨LockBinds.dev, fun hdev => ⟨?_, ?_, hdev⟩⟩
  · rintro cfg env hcar hstore rfl st input
    refine streamTurn_forwards ?_ input
    rw [hcar, hstore]
    exact hlocked
  · exact (collectCar_forwards hlocked).calls

/-! ## A locked car drives off -/

namespace LockedCar

/-- Car 1 of the sandbox "s" after an emergency pit stop at 5 ms. -/
def stopped : Backend :=
  stepStore .local
    (stepStore .local ⟨.new, .new⟩ (.quickJoin "s", fun _ => sandboxInput))
    (.command 1 (.markEmergencyPitstopRequested 5), fun _ => sandboxInput)

def fullThrottle : SetControlsDevRequest := ⟨1, 1, 1, 0, 0, some .none⟩

theorem stopped_locked : Locked stopped.store fullThrottle.targetCarId 100 := by
  rw [locked_iff]
  decide +kernel

def braking : SetControlsDevRequest := ⟨1, 1, 0, 1, 0, some .none⟩

theorem braking_request_stays_locked :
    LockBinds .local stopped 100 braking (fun _ => sandboxInput) := by
  refine (lock_binds_iff .local stopped 100 braking _ stopped_locked).mpr (Or.inr (Or.inr ?_))
  exact ⟨le_refl _, le_refl _, rfl, Or.inr rfl⟩

/-- The request of a developer drives the locked car at full throttle. -/
theorem developer_drives_locked_car :
    Locked stopped.store fullThrottle.targetCarId 100 ∧
      ¬ LockBinds .local stopped 100 fullThrottle (fun _ => sandboxInput) := by
  refine ⟨stopped_locked, fun hbinds => ?_⟩
  rcases (setControlsDevRequest_forwards_iff _).mp hbinds.dev with hgear | hclosed | hbrake
  · cases hgear
  · refine hclosed ⟨.sandbox "s", 1, by decide +kernel, by decide +kernel, fun _ raceId hrace => ?_⟩
    cases hrace
  · exact absurd hbrake.throttle (by decide)

end LockedCar

end HackArena.Services
