import HackArena.Services.ServiceTasks

/-!
# The calls of the tasks about a car

What the streams, the commands, the frame hub and the removal of a car
call. The calls that start a cooldown, and the answers that accept a
command with one, are told apart from the plain calls.
-/

namespace HackArena.Services

open Boink HackArena.Runtime HackArena.Local Tasks

/-- The calls that the tasks about a car make on its entries. -/
def CarTaskCall (carId : ℕ) : ServiceOp → Prop
  | .car other _ | .removeCar other => other = carId
  | .insert .. | .erase .. | .takeOwner _ | .eraseInstanceCar _ => False
  | _ => True

/-- The cooldown that a call starts, and the time it starts it at. -/
def CarCall.cooldownMark : CarCall → Option (CooldownCommand × ℕ)
  | .markBackToTrackApplied nowMs => some (.backToTrack, nowMs)
  | .markEmergencyPitstopRequested nowMs => some (.emergencyPitstop, nowMs)
  | _ => none

/-- The command with a cooldown that an answer accepts. -/
def acceptedCommand : ParticipantCommandType → ParticipantCommandStatus → Option CooldownCommand
  | .backToTrack, .accepted => some .backToTrack
  | .emergencyPitstop, .accepted => some .emergencyPitstop
  | _, _ => none

/-- Calls that neither start a cooldown nor accept a command with one. -/
def PlainCall (carId : ℕ) : ServiceOp → Prop
  | .car other call => other = carId ∧ call.cooldownMark = none
  | .removeCar other => other = carId
  | .respond _ _ command response => acceptedCommand command response.status = none
  | .send _ _ (.commandAck ack) _ => acceptedCommand ack.commandType ack.status = none
  | .insert .. | .erase .. | .takeOwner _ | .eraseInstanceCar _ => False
  | _ => True

theorem PlainCall.carTaskCall {carId : ℕ} {op : ServiceOp} (h : PlainCall carId op) :
    CarTaskCall carId op := by
  cases op with
  | car other call => exact h.1
  | removeCar other => exact h
  | insert | erase | takeOwner | eraseInstanceCar => exact h.elim
  | _ => trivial

section Uses

variable (b : Build) (carId : ℕ)

/-! ## Tasks of plain calls -/

/-- A clean-up despawns the car and removes it. -/
theorem cleanupParticipantCar_uses {P : ServiceOp → Prop}
    (hdespawn : ∀ target engineCarId, P (.engine target (.despawnCar engineCarId)))
    (hremove : P (.removeCar carId)) (hswitch : P (.isBotSwitchInProgress carId))
    (target : EngineCommandTarget) (engineCarId : ℕ) :
    (Tasks.cleanupParticipantCar b carId target engineCarId).Uses P := by
  have hboth : (do
      let _ ← inEngine target (.despawnCar engineCarId)
      (ServiceOp.removeCar carId).call : Task Unit).Uses P :=
    .call (hdespawn target engineCarId) fun _ => ⟨hremove, fun _ => trivial⟩
  cases target with
  | officialRace => trivial
  | localRace raceId => exact hboth
  | sandbox sandboxId =>
      cases b with
      | «local» => exact hboth
      | standalone => exact hboth
      | official =>
          refine .call hswitch fun switching => ?_
          split
          · trivial
          · exact .call hremove fun _ => ⟨hdespawn _ engineCarId, fun _ => trivial⟩

theorem setControlsDev_uses (clientSeq : ℕ) (controls : Controls) :
    (Tasks.setControlsDev b carId clientSeq controls).Uses (PlainCall carId) := by
  refine .call trivial fun target => ?_
  cases target with
  | none => trivial
  | some target =>
  refine .call trivial fun engineCarId => ?_
  cases engineCarId with
  | none => trivial
  | some engineCarId =>
  refine Prog.Uses.bind ?_ fun closed => ?_
  · split
    · exact ⟨trivial, fun _ => trivial⟩
    · trivial
  · split
    · trivial
    · refine .call trivial fun result => ?_
      cases result with
      | error err => trivial
      | ok accepted => exact .call ⟨rfl, rfl⟩ fun _ => .call ⟨rfl, rfl⟩ fun _ => trivial

theorem requestPitstop_uses (active : Bool) :
    (Tasks.requestPitstop carId active).Uses (PlainCall carId) :=
  .call ⟨rfl, rfl⟩ fun _ => trivial

theorem setNextPitTireType_uses (nextTireType : Raw RuntimePitTireType) :
    (Tasks.setNextPitTireType carId nextTireType).Uses (PlainCall carId) := by
  refine .call trivial fun frame => ?_
  cases nextTireType with
  | none => exact .call rfl fun _ => trivial
  | some tireType => exact .call ⟨rfl, rfl⟩ fun _ => .call rfl fun _ => trivial

theorem collectCar_uses_plain (nowMs : ℕ) :
    (Tasks.collectCar b (fun carId => (ServiceOp.removeCar carId).call) nowMs carId).Uses
      (PlainCall carId) := by
  have hremove : (ServiceOp.removeCar carId).call.Uses (PlainCall carId) :=
    ⟨rfl, fun _ => trivial⟩
  refine collectCar_uses hremove (fun op hop => ?_) b nowMs
  cases op with
  | car other call =>
      obtain ⟨hcar, hwrites⟩ := hop
      refine ⟨hcar, ?_⟩
      cases call <;> first | rfl | cases hwrites
  | engine | carTarget | carEngineId => trivial
  | _ => exact hop.elim

theorem collectCarTask_uses (nowMs : ℕ) :
    ((CarTask.collectCar nowMs).task b carId).Uses (PlainCall carId) :=
  (collectCar_uses_plain b carId nowMs).bind fun _ => trivial

theorem removeCarTask_uses : (CarTask.removeCar.task b carId).Uses (PlainCall carId) :=
  .call rfl fun _ => trivial

/-! ## The stream and the commands with a cooldown -/

theorem performEffects_uses (cfg : StreamConfig) (frame : RuntimeFrame)
    (effects : List StreamEffect) :
    (performEffects cfg frame effects).Uses (CarTaskCall cfg.selfPublicCarId) := by
  induction effects with
  | nil => trivial
  | cons effect rest ih =>
      refine Prog.Uses.bind ?_ fun _ => ih
      cases effect with
      | event serverSeq payload sent => exact ⟨trivial, fun _ => trivial⟩
      | terminal status => trivial
      | engine op => exact .call trivial fun _ => trivial
      | store write => exact .call rfl fun _ => trivial
      | cleanup reason =>
          exact cleanupParticipantCar_uses (P := CarTaskCall cfg.selfPublicCarId) cfg.build _
            (fun _ _ => trivial) rfl trivial _ _

theorem streamLoop_uses (cfg : StreamConfig) (inputs : ℕ) (st : StreamState) :
    (streamLoop cfg inputs st).Uses (CarTaskCall cfg.selfPublicCarId) := by
  induction inputs generalizing st with
  | zero => trivial
  | succ n ih =>
      refine .call trivial fun turn => ?_
      refine (performEffects_uses cfg _ _).bind fun _ => ?_
      split
      · trivial
      · exact ih _

theorem respond_uses (frame : RuntimeFrame) (command : ParticipantCommandType)
    (status : ParticipantCommandStatus) (reason : ParticipantCommandRejectReason)
    (cooldownRemainingMs : ℕ) :
    (respond carId frame command status reason cooldownRemainingMs).Uses (CarTaskCall carId) :=
  .call trivial fun _ => trivial

theorem backToTrack_uses (engineCarId : ℕ) (target : EngineCommandTarget) :
    (Tasks.backToTrack carId engineCarId target).Uses (CarTaskCall carId) := by
  refine .call trivial fun frame => .call trivial fun cooldownRemainingMs => ?_
  split
  · exact respond_uses carId ..
  · split
    · exact respond_uses carId ..
    · refine .call trivial fun result => ?_
      cases result with
      | error err => exact respond_uses carId ..
      | ok value => exact .call rfl fun _ => respond_uses carId ..

theorem emergencyPitstop_uses (engineCarId : ℕ) (target : EngineCommandTarget) :
    (Tasks.emergencyPitstop carId engineCarId target).Uses (CarTaskCall carId) := by
  refine .call trivial fun frame => ?_
  split
  · exact respond_uses carId ..
  · refine .call trivial fun cooldownRemainingMs => ?_
    split
    · exact respond_uses carId ..
    · refine .call trivial fun result => ?_
      cases result with
      | error err => exact respond_uses carId ..
      | ok value => exact .call rfl fun _ => respond_uses carId ..

theorem CarTask.uses (t : CarTask) : (t.task b carId).Uses (CarTaskCall carId) := by
  have hplain : ∀ {p : Task TaskOutcome}, p.Uses (PlainCall carId) → p.Uses (CarTaskCall carId) :=
    fun h => h.mono fun _ => PlainCall.carTaskCall
  cases t with
  | stream cfg inputs =>
      exact streamLoop_uses { cfg with build := b, selfPublicCarId := carId } inputs .start
  | setControlsDev clientSeq controls =>
      exact hplain (setControlsDev_uses b carId clientSeq controls)
  | backToTrack engineCarId target => exact backToTrack_uses carId engineCarId target
  | requestPitstop active => exact hplain (requestPitstop_uses carId active)
  | emergencyPitstop engineCarId target => exact emergencyPitstop_uses carId engineCarId target
  | setNextPitTireType nextTireType => exact hplain (setNextPitTireType_uses carId nextTireType)
  | collectCar nowMs => exact hplain (collectCarTask_uses b carId nowMs)
  | removeCar => exact hplain (removeCarTask_uses b carId)

theorem carThreads_uses (tasks : ℕ → Option CarTask) (i : ℕ) :
    (carThreads b carId tasks i).Uses (CarTaskCall carId) := by
  unfold carThreads
  split
  · exact CarTask.uses b carId _
  · trivial

end Uses

end HackArena.Services
