import HackArena.Local.AdminRequests
import HackArena.Services.EmergencyLock

/-!
# Gameplay in a local race

The participants of a local race and its administration share the engine, the
store of cars and the race. A participant looks whether the race is open and
then sends a command; the lifecycle task stops the cars of a race that has
finished. What a thread has last looked at is its stage.
-/

namespace HackArena.Services

open Boink HackArena.Runtime HackArena.Local Tasks

/-! ## The system -/

inductive GameplayOp where
  | admin (op : LocalOp)
  | service (op : ServiceOp)

abbrev GameplayOp.Answer : GameplayOp → Type
  | .admin op => op.Answer
  | .service op => op.Answer

/-- The race is part of the administration. -/
structure GameplayState (E : Type) where
  admin : LocalAdminState E
  store : RaceRuntimeStore

/-- The cars of the store are iterated in an order of the map's own; the time
that passes before a call is that of `admin`. -/
structure GameplayInput (E : Type) where
  carOrder : List ℕ
  admin : LocalInput E
  service : ServiceInput

variable {E : Type}

/-- The engine id of a car that drives in the race. -/
def RaceRuntimeStore.localRaceCar (s : RaceRuntimeStore) (raceId : String) (carId : ℕ) : Option ℕ :=
  if s.carTargets.lookup carId = some (.localRace raceId) then s.carEngineIds.lookup carId else none

def RaceRuntimeStore.localRaceCars (s : RaceRuntimeStore) (order : List ℕ) (raceId : String) :
    List ℕ :=
  (order ++ s.carTargets.sortedKeys.filter (· ∉ order)).filterMap (s.localRaceCar raceId)

/-- The clock when the call is executed. -/
def GameplayState.clockAt (s : GameplayState E) (i : GameplayInput E) : ℕ :=
  s.admin.clockNs + i.admin.elapsedNs

def ServiceInput.atTime (i : ServiceInput) (nowMs : ℕ) : ServiceInput :=
  { i with nowMs := nowMs, turn := ({ i.turn.1 with nowMs := nowMs }, i.turn.2) }

/-- The cars that are stopped are those of the store. -/
def GameplayState.adminInput (s : GameplayState E) (i : GameplayInput E) : LocalOp → LocalInput E
  | .localRaceCars raceId => { i.admin with raceCars := s.store.localRaceCars i.carOrder raceId }
  | _ => i.admin

def gameplayExec (b : Build) (s : GameplayState E) :
    (op : GameplayOp) → GameplayInput E → GameplayState E × op.Answer
  | .admin op, i =>
      let r := localExec b s.admin op (s.adminInput i op)
      ({ s with admin := r.1 }, r.2)
  | .service op, i =>
      let r := execCall b ⟨s.store, s.admin.races⟩ op (i.service.atTime (unixMs (s.clockAt i)))
      (⟨{ s.admin with clockNs := s.clockAt i, races := r.1.races }, r.1.store⟩, r.2)

abbrev GameplayProg := Prog GameplayOp GameplayOp.Answer
abbrev GameplayWorld (E : Type) := World (GameplayState E) GameplayOp GameplayOp.Answer
abbrev GameplayEntry := Entry GameplayOp GameplayOp.Answer
abbrev GameplayPool (E : Type) := Pool (GameplayState E) GameplayOp GameplayOp.Answer Unit

/-! ## The tasks -/

/-- Participants, and those who move the race on. -/
inductive GameplayTask where
  | stream (cfg : StreamConfig) (inputs : ℕ)
  | setControlsDev (req : SetControlsDevRequest)
  | startCountdown (expectedRevision : ℕ) (raceId : String) (countdownSeconds : ℕ)
  | abortRace (expectedRevision : ℕ) (raceId : String)
  | lifecycleTick

def inAdmin {α : Type} (p : LocalProg α) : GameplayProg Unit := do
  let _ ← p.embed .admin fun _ => id

def inServices {α : Type} (p : Task α) : GameplayProg Unit := do
  let _ ← p.embed .service fun _ => id

def GameplayTask.run (b : Build) : GameplayTask → GameplayProg Unit
  | .stream cfg inputs => inServices (Tasks.runParticipantStream { cfg with build := b } inputs)
  | .setControlsDev req => inServices (setControlsDevRequest b req)
  | .startCountdown expectedRevision raceId countdownSeconds =>
      inAdmin (startLocalRaceCountdown expectedRevision raceId countdownSeconds).run
  | .abortRace expectedRevision raceId => inAdmin (abortLocalRace expectedRevision raceId).run
  | .lifecycleTick => inAdmin reconcileLocalRaceLifecycleTick

/-- The task starts the countdown of a race. -/
def GameplayTask.starts : GameplayTask → Bool
  | .startCountdown .. => true
  | _ => false

def gameplayStart (b : Build) (tasks : ℕ → GameplayTask) (s : GameplayState E) : GameplayPool E :=
  Pool.start s fun i => (tasks i).run b

/-- The server after `n` steps of a run. -/
def gameplayRun (b : Build) (tasks : ℕ → GameplayTask) (s : GameplayState E)
    (events : List (ℕ × GameplayInput E)) : ℕ → GameplayPool E :=
  GuardedRun.stateAt (Pool.step (gameplayExec b)) (gameplayStart b tasks s) events

/-! ## Stages -/

/-- The controls and commands of a participant. -/
def commands : SlotOp → Bool
  | .setControls .. | .setCarBackToTrack _ | .setCarToPitstop _ => true
  | _ => false

/-- What a thread knows of the race: it has found it open, it has found it
finished, or it is stopping the cars that it has listed. -/
inductive GameplayStage where
  | idle
  | cleared
  | due (raceId : String)
  | freezing (raceId : String) (todo : List ℕ) (allApplied : Bool)

namespace GameplayStage

def afterCheck (closed : Bool) : GameplayStage := if closed then .idle else .cleared

def serviceNext (raceId : String) (s : GameplayStage) : (op : ServiceOp) → op.Answer → GameplayStage
  | .gameplayCommandsClosed other, closed => if other = raceId then afterCheck closed else .idle
  | .streamInput _, (env, _) => afterCheck (gameplayCommandsClosed env.races raceId env.nowMs)
  | _, _ => s

def adminNext : GameplayStage → (op : LocalOp) → op.Answer → GameplayStage
  | .idle, .races .finishedRacePendingSoftFreeze, some race => .due race.raceId
  | .due raceId, .localRaceCars _, cars => .freezing raceId cars true
  | .freezing raceId (_ :: todo) allApplied, .engine (.slot ..), .ok _ =>
      .freezing raceId todo allApplied
  | .freezing raceId (_ :: todo) _, .engine (.slot ..), .error _ => .freezing raceId todo false
  | .freezing .., .races (.markFinishSoftFreezeApplied _), _ => .idle
  | s, _, _ => s

def next (raceId : String) (s : GameplayStage) : (op : GameplayOp) → op.Answer → GameplayStage
  | .admin op, answer => s.adminNext op answer
  | .service op, answer => s.serviceNext raceId op answer

end GameplayStage

/-- What a participant may call: a command to a car of the race only when the
race has been found open. -/
def ParticipantCall (raceId : String) (s : GameplayStage) : ServiceOp → Prop
  | .engine (.localRace other) op => other = raceId → commands op = true → s = .cleared
  | .engine .. | .send .. | .carTarget _ | .carEngineId _ | .isBotSwitchInProgress _ | .car ..
  | .removeCar _ | .gameplayCommandsClosed _ | .streamInput _ => True
  | _ => False

/-- The call neither stops a car nor decides about the race. -/
def standsBy : LocalOp → Bool
  | .now | .engine .runtimeState | .engine (.bumpRevision _) | .engine (.deactivateLocalRace ..)
  | .races .activeRace | .races .reconcileActiveRace => true
  | _ => false

/-- What the administration of the race may call. -/
inductive RaceCall (starts : Bool) : GameplayStage → LocalOp → Prop
  | standsBy {op : LocalOp} (h : standsBy op = true) : RaceCall starts .idle op
  | pending : RaceCall starts .idle (.races .finishedRacePendingSoftFreeze)
  | start (h : starts = true) (raceId : String) (countdownSeconds countdownEndMs : ℕ) :
      RaceCall starts .idle
        (.races (.updateActiveRace raceId (startUpdate countdownSeconds countdownEndMs)))
  | abort (raceId : String) : RaceCall starts .idle (.races (.updateActiveRace raceId abortUpdate))
  | list (raceId : String) : RaceCall starts (.due raceId) (.localRaceCars raceId)
  | freeze (raceId : String) (engineCarId : ℕ) (todo : List ℕ) (allApplied : Bool) :
      RaceCall starts (.freezing raceId (engineCarId :: todo) allApplied)
        (.engine (.slot (.localRace raceId) (.setControls engineCarId finishedLocalRaceControls)))
  | mark (raceId : String) :
      RaceCall starts (.freezing raceId [] true) (.races (.markFinishSoftFreezeApplied raceId))

def GameplayCall (raceId : String) (starts : Bool) (s : GameplayStage) : GameplayOp → Prop
  | .admin op => RaceCall starts s op
  | .service op => ParticipantCall raceId s op

def gameplayProtocol (raceId : String) (starts : Bool) :
    Protocol GameplayOp GameplayOp.Answer GameplayStage :=
  ⟨.idle, .next raceId, GameplayCall raceId starts⟩

abbrev participantProtocol (raceId : String) :
    Protocol ServiceOp ServiceOp.Answer GameplayStage :=
  ⟨.idle, .serviceNext raceId, ParticipantCall raceId⟩

abbrev raceProtocol (starts : Bool) : Protocol LocalOp LocalOp.Answer GameplayStage :=
  ⟨.idle, .adminNext, RaceCall starts⟩

/-! ## Participants -/

section Participants

open Prog GameplayStage

variable {raceId : String} {b : Build} {cfg : StreamConfig} {env : StreamEnv} {st : StreamState}

/-- A turn that sends the car no command. -/
def NoCommand : StreamEffect → Prop
  | .engine op => commands op = false
  | _ => True

theorem reject_noCommand (status : Status) (reason : String) :
    (rejectStream st status reason).Only NoCommand := Turn.only_reject trivial trivial

theorem onInit_noCommand : (onInit cfg env st).Only NoCommand := by
  rw [onInit]
  split
  · exact reject_noCommand _ _
  · refine Turn.only_send trivial trivial
      (Turn.Only.after ?_ (List.forall_mem_singleton.mpr rfl))
    exact Turn.only_send trivial trivial Turn.only_proceed

theorem onControls_noCommand (hclosed : gameplayClosed cfg env = true)
    (value : ParticipantControls) : (onControls cfg env st value).Only NoCommand := by
  rw [onControls]
  split
  · exact reject_noCommand _ _
  · split
    · exact reject_noCommand _ _
    · refine Turn.Only.after ?_ (by simp [NoCommand])
      exact Turn.only_send trivial trivial Turn.only_proceed

theorem onCommand_noCommand (hclosed : gameplayClosed cfg env = true) (clientSeq : ℕ)
    (commandType : ParticipantCommandType) (run : Turn) :
    (onCommand cfg env st clientSeq commandType run).Only NoCommand := by
  rw [onCommand]
  split
  · exact reject_noCommand _ _
  · exact Turn.only_send trivial trivial Turn.only_proceed

theorem onTick_noCommand : (onTick cfg env st).Only NoCommand := by
  rw [onTick]
  split
  · exact Turn.only_proceed
  · split
    · dsimp only
      split
      · exact Turn.only_proceed
      · exact reject_noCommand _ _
    · dsimp only
      split
      · exact reject_noCommand _ _
      · split
        · exact reject_noCommand _ _
        · exact Turn.only_send trivial trivial Turn.only_proceed

/-- In a closed race a turn sends no command. -/
theorem streamTurn_noCommand (hclosed : gameplayClosed cfg env = true) (input : StreamInput) :
    (streamTurn cfg env st input).Only NoCommand := by
  cases input with
  | tick => exact onTick_noCommand
  | message msg =>
      rcases msg with status | (_ | _ | payload)
      · exact reject_noCommand _ _
      · exact Turn.only_stop trivial
      · exact reject_noCommand _ _
      · cases payload with
        | init => exact onInit_noCommand
        | controls value => exact onControls_noCommand hclosed value
        | backToTrack clientSeq => exact onCommand_noCommand hclosed clientSeq _ _
        | emergencyPitstop clientSeq => exact onCommand_noCommand hclosed clientSeq _ _
        | setNextPitTireType clientSeq nextTireType =>
            exact onCommand_noCommand hclosed clientSeq _ _

/-- The call is permitted in the stage, and does not look at the race. -/
def Blind (raceId : String) (s : GameplayStage) (op : ServiceOp) : Prop :=
  ParticipantCall raceId s op ∧ ∀ answer, s.serviceNext raceId op answer = s

theorem follows_of_blind {α : Type} {s : GameplayStage} {p : Task α} (h : p.Uses (Blind raceId s)) :
    p.Follows (participantProtocol raceId) (fun _ s' => s' = s) s := h.follows fun _ hop => hop

theorem blind_engine {s : GameplayStage} {target : EngineCommandTarget} {op : SlotOp}
    (h : target = .localRace raceId → commands op = true → s = .cleared) :
    Blind raceId s (.engine target op) := by
  refine ⟨?_, fun _ => rfl⟩
  cases target with
  | localRace other =>
      intro hother hcommands
      exact h (congrArg _ hother) hcommands
  | officialRace | sandbox => trivial

theorem cleanup_blind (s : GameplayStage) (b : Build) (publicCarId : ℕ)
    (target : EngineCommandTarget) (engineCarId : ℕ) :
    (Tasks.cleanupParticipantCar b publicCarId target engineCarId).Uses (Blind raceId s) := by
  have hdespawn (target : EngineCommandTarget) :
      Blind raceId s (.engine target (.despawnCar engineCarId)) := blind_engine fun _ h => by cases h
  have hremove : Blind raceId s (.removeCar publicCarId) := ⟨trivial, fun _ => rfl⟩
  unfold Tasks.cleanupParticipantCar
  cases target with
  | officialRace => trivial
  | localRace other => exact .call (hdespawn _) fun _ => .call hremove fun _ => trivial
  | sandbox sandboxId =>
      cases b with
      | «local» => exact .call (hdespawn _) fun _ => .call hremove fun _ => trivial
      | standalone => exact .call (hdespawn _) fun _ => .call hremove fun _ => trivial
      | official =>
          refine .call ⟨trivial, fun _ => rfl⟩ fun switching => ?_
          cases switching with
          | true => trivial
          | false => exact .call hremove fun _ => .call (hdespawn _) fun _ => trivial

theorem performEffects_blind {s : GameplayStage} (frame : RuntimeFrame) {effects : List StreamEffect}
    (h : cfg.selfTarget = .localRace raceId → s ≠ .cleared → ∀ effect ∈ effects, NoCommand effect) :
    (performEffects cfg frame effects).Uses (Blind raceId s) := by
  induction effects with
  | nil => trivial
  | cons effect rest ih =>
      have hrest := ih fun htarget hs e he => h htarget hs e (List.mem_cons_of_mem effect he)
      refine Prog.Uses.bind ?_ fun _ => hrest
      cases effect with
      | event serverSeq payload sent => exact .call ⟨trivial, fun _ => rfl⟩ fun _ => trivial
      | terminal status => trivial
      | store write => exact .call ⟨trivial, fun _ => rfl⟩ fun _ => trivial
      | cleanup reason => exact cleanup_blind s _ _ _ _
      | engine op =>
          refine .call (blind_engine fun htarget hcommands => ?_) fun _ => trivial
          by_contra hs
          have hno : commands op = false := h htarget hs _ List.mem_cons_self
          rw [hno] at hcommands
          cases hcommands

theorem streamLoop_follows (hlocal : cfg.build.isLocal = true) (inputs : ℕ) (st : StreamState)
    (s : GameplayStage) :
    (streamLoop cfg inputs st).Follows (participantProtocol raceId) (fun _ _ => True) s := by
  induction inputs generalizing st s with
  | zero => trivial
  | succ inputs ih =>
      refine .call trivial ?_
      rintro ⟨env, input⟩
      have hgate : cfg.selfTarget = .localRace raceId →
          s.serviceNext raceId (.streamInput cfg) (env, input) ≠ .cleared →
          ∀ effect ∈ (streamTurn cfg env st input).effects, NoCommand effect := by
        intro htarget hs
        refine streamTurn_noCommand ?_ input
        rw [gameplayClosed, hlocal, htarget, localRaceGameplayClosed, Bool.true_and]
        by_contra hopen
        rw [Bool.not_eq_true] at hopen
        refine hs ?_
        change afterCheck (gameplayCommandsClosed env.races raceId env.nowMs) = .cleared
        rw [hopen]
        rfl
      refine (follows_of_blind (performEffects_blind env.frame hgate)).andThen fun _ s' _ => ?_
      split
      · trivial
      · exact ih _ s'

theorem acceptDev_follows {s : GameplayStage} {target : EngineCommandTarget}
    (h : target = .localRace raceId → s = .cleared) (engineCarId carId clientSeq : ℕ)
    (controls : Controls) :
    (acceptDev target engineCarId carId clientSeq controls).Uses (Blind raceId s) := by
  refine .call (blind_engine fun htarget _ => h htarget) fun result => ?_
  cases result with
  | error err => trivial
  | ok accepted =>
      exact .call ⟨trivial, fun _ => rfl⟩ fun _ => .call ⟨trivial, fun _ => rfl⟩ fun _ => trivial

theorem setControlsDevRequest_follows (hlocal : b.isLocal = true) (req : SetControlsDevRequest) :
    (setControlsDevRequest b req).Follows (participantProtocol raceId) (fun _ _ => True) .idle := by
  rw [setControlsDevRequest]
  cases protoDevToControls req with
  | error status => trivial
  | ok controls =>
      dsimp only
      rw [setControlsDev_eq]
      refine .call trivial fun target => ?_
      cases target with
      | none => trivial
      | some target =>
      refine .call trivial fun engineCarId => ?_
      cases engineCarId with
      | none => trivial
      | some engineCarId =>
      have haccept {s : GameplayStage} (h : target = .localRace raceId → s = .cleared) :
          (acceptDev target engineCarId req.targetCarId req.clientSeq controls).Follows
            (participantProtocol raceId) (fun _ _ => True) s :=
        (follows_of_blind (acceptDev_follows h _ _ _ _)).mono fun _ _ _ => trivial
      cases target with
      | officialRace | sandbox =>
          rw [localRaceClosed]
          · exact haccept fun h => by cases h
          · intro raceId _ h
            cases h
      | localRace other =>
          have hlooks : localRaceClosed b (.localRace other) =
              (ServiceOp.gameplayCommandsClosed other).call := by
            unfold localRaceClosed
            rw [hlocal]
          dsimp only
          rw [hlooks]
          refine .call trivial fun closed => ?_
          cases closed with
          | true => trivial
          | false =>
              refine haccept fun hother => ?_
              cases hother
              exact if_pos rfl

end Participants

/-! ## The administration of the race -/

section Administration

open Prog GameplayStage

variable {α β : Type} {starts : Bool}

/-- A part of a request that neither stops a car nor has found the race
finished. -/
abbrev Undecided (starts : Bool) (p : LocalCall α) : Prop :=
  p.run.Follows (raceProtocol starts) (Either (fun _ s => s = .idle) fun _ s => s = .idle) .idle

theorem standsBy_next {op : LocalOp} (h : standsBy op = true) (answer : op.Answer) :
    GameplayStage.idle.adminNext op answer = .idle := by
  cases op with
  | races op => cases op <;> first | rfl | cases h
  | _ => rfl

theorem undecided_of_uses {p : LocalCall α} (h : p.run.Uses (standsBy · = true)) :
    Undecided starts p := by
  refine Prog.Follows.mono (h.follows fun _ hop => ⟨.standsBy hop, standsBy_next hop⟩)
    fun result s hs => ?_
  cases result <;> exact hs

theorem standsBy_call {op : LocalOp} (h : standsBy op = true) :
    Uses (standsBy · = true) op.call := ⟨h, fun _ => trivial⟩

theorem Undecided.bind {p : LocalCall α} {f : α → LocalCall β} (hp : Undecided starts p)
    (hf : ∀ a, Undecided starts (f a)) : Undecided starts (p >>= f) :=
  .bindExcept hp fun a s hs => by
    rw [hs]
    exact hf a

theorem undecided_checked (x : Except Status α) : Undecided starts (checked x) :=
  undecided_of_uses trivial

theorem undecided_readRuntime : Undecided starts readRuntime :=
  undecided_of_uses (.orFail (standsBy_call rfl))

theorem undecided_update {raceId : String} {update : LocalRaceRuntimeInfo → LocalRaceRuntimeInfo}
    (h : RaceCall starts .idle (.races (.updateActiveRace raceId update))) :
    Undecided starts
      ((LocalOp.races (.updateActiveRace raceId update)).call.orFail mapStateErr) :=
  .orFail (.call h fun answer => by cases answer <;> rfl)

theorem startLocalRaceCountdown_follows (expectedRevision : ℕ) (raceId : String)
    (countdownSeconds : ℕ) :
    Undecided true (startLocalRaceCountdown expectedRevision raceId countdownSeconds) :=
  .bind undecided_readRuntime fun _ => .bind (undecided_checked _) fun _ =>
    .bind (undecided_of_uses (.lift (standsBy_call rfl))) fun _ =>
    .bind (undecided_checked _) fun _ => .bind (undecided_checked _) fun _ =>
    .bind (undecided_of_uses (.lift (standsBy_call rfl))) fun _ =>
    .bind (undecided_update (.start rfl raceId countdownSeconds _)) fun _ =>
    undecided_of_uses (.bindExcept (.orFail (standsBy_call rfl)) fun _ => trivial)

theorem abortLocalRace_follows (expectedRevision : ℕ) (raceId : String) :
    Undecided starts (abortLocalRace expectedRevision raceId) :=
  .bind undecided_readRuntime fun _ => .bind (undecided_checked _) fun _ =>
    .bind (undecided_update (.abort raceId)) fun _ =>
    undecided_of_uses (.bindExcept (.orFail (standsBy_call rfl)) fun _ => trivial)

theorem freezeCars_follows (raceId : String) (cars : List ℕ) (allApplied : Bool) :
    (freezeCars raceId cars allApplied).Follows (raceProtocol starts)
      (fun allApplied s => s = .freezing raceId [] allApplied)
      (.freezing raceId cars allApplied) := by
  induction cars generalizing allApplied with
  | nil => rfl
  | cons engineCarId cars ih =>
      refine .call (.freeze raceId engineCarId cars allApplied) fun answer => ?_
      cases answer with
      | ok reply => exact ih allApplied
      | error err => exact ih false

theorem applyFinishedLocalRaceSoftFreeze_follows (raceId : String) :
    (applyFinishedLocalRaceSoftFreeze raceId).Follows (raceProtocol starts) (fun _ _ => True)
      (.due raceId) := by
  refine .call (.list raceId) fun cars => (freezeCars_follows raceId cars true).andThen ?_
  rintro allApplied s rfl
  cases allApplied with
  | false => trivial
  | true => exact .call (.mark raceId) fun _ => trivial

theorem bumpLocalRuntimeRevision_uses (raceId : String) :
    (bumpLocalRuntimeRevision raceId).Uses (standsBy · = true) := by
  refine .call rfl fun answer => ?_
  cases answer with
  | error err => trivial
  | ok runtime =>
      change (bumpIfActive runtime raceId).Uses _
      unfold bumpIfActive
      split
      · exact .call rfl fun _ => trivial
      · trivial

theorem reconcileLocalRaceLifecycle_uses :
    reconcileLocalRaceLifecycle.Uses (standsBy · = true) := by
  refine .call rfl fun outcome => ?_
  cases outcome with
  | none => trivial
  | some outcome => exact bumpLocalRuntimeRevision_uses outcome.race.raceId

theorem lifecycleTick_follows :
    reconcileLocalRaceLifecycleTick.Follows (raceProtocol starts) (fun _ _ => True) .idle := by
  refine Prog.Follows.andThen (reconcileLocalRaceLifecycle_uses.follows fun _ hop =>
    ⟨.standsBy hop, standsBy_next hop⟩) ?_
  rintro _ s rfl
  refine .call .pending fun pending => ?_
  cases pending with
  | none => trivial
  | some race => exact applyFinishedLocalRaceSoftFreeze_follows race.raceId

end Administration

/-! ## The tasks -/

section Tasks

variable {raceId : String} {α : Type} {s : GameplayStage} {starts : Bool}

theorem inAdmin_follows {p : LocalProg α} {post : α → GameplayStage → Prop}
    (h : p.Follows (raceProtocol starts) post s) :
    (inAdmin p).Follows (gameplayProtocol raceId starts) (fun _ _ => True) s := by
  have hp : (p.embed GameplayOp.admin fun _ => id).Follows (gameplayProtocol raceId starts) post s :=
    h.embed (fun _ _ hop => hop) fun _ _ _ => rfl
  exact hp.andThen fun _ _ _ => trivial

theorem inServices_follows {p : Task α} {post : α → GameplayStage → Prop}
    (h : p.Follows (participantProtocol raceId) post s) :
    (inServices p).Follows (gameplayProtocol raceId starts) (fun _ _ => True) s := by
  have hp : (p.embed GameplayOp.service fun _ => id).Follows (gameplayProtocol raceId starts) post s :=
    h.embed (fun _ _ hop => hop) fun _ _ _ => rfl
  exact hp.andThen fun _ _ _ => trivial

theorem GameplayTask.follows {b : Build} (hlocal : b.isLocal = true) (task : GameplayTask) :
    (task.run b).Follows (gameplayProtocol raceId task.starts) (fun _ _ => True) .idle := by
  cases task with
  | stream cfg inputs => exact inServices_follows (streamLoop_follows hlocal inputs .start .idle)
  | setControlsDev req => exact inServices_follows (setControlsDevRequest_follows hlocal req)
  | startCountdown rev raceId seconds =>
      exact inAdmin_follows (startLocalRaceCountdown_follows rev raceId seconds)
  | abortRace rev raceId => exact inAdmin_follows (abortLocalRace_follows rev raceId)
  | lifecycleTick => exact inAdmin_follows lifecycleTick_follows

/-- Every thread follows the protocol of its task. -/
theorem gameplayStart_followed {b : Build} {E : Type} (hlocal : b.isLocal = true)
    (tasks : ℕ → GameplayTask) (s : GameplayState E) :
    (gameplayStart b tasks s).FollowedBy (fun i => gameplayProtocol raceId (tasks i).starts)
      fun _ _ => True := fun i => (tasks i).follows hlocal

end Tasks

end HackArena.Services
