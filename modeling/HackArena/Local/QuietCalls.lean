import HackArena.Local.AdminRequests

/-!
# Which requests reach the running sandboxes

Most calls leave the sandboxes that run as they are, or take them out. Three
requests make other calls: two change the time of day or the weather, and one
activates a sandbox.
-/

namespace HackArena.Local

open Boink HackArena.Runtime HackArena.Services SandboxConfig Prog

/-- The call neither changes how a sandbox runs nor asks for such a change. -/
def LocalOp.quiet : LocalOp → Bool
  | .config (.change _ (.setTimeOfDay ..)) | .config (.change _ (.setWeather ..)) => false
  | .engine (.switchRuntime ..) | .engine (.setRuntimeTimeOfDay ..)
  | .engine (.setSandboxWeather ..) => false
  | _ => true

/-- The call may add a sandbox to those that run. -/
def LocalOp.switches : LocalOp → Bool
  | .engine (.switchRuntime ..) => true
  | _ => false

theorem LocalOp.switches_of_quiet {op : LocalOp} (h : op.quiet = true) : op.switches = false := by
  cases op with
  | engine op => cases op <;> first | rfl | cases h
  | _ => rfl

variable {α : Type}

/-- A part of a request that makes quiet calls only. -/
abbrev Quiet (p : LocalCall α) : Prop := p.run.Uses (·.quiet)

theorem quiet_of_call {op : LocalOp} (h : op.quiet = true) : Uses (·.quiet) op.call :=
  ⟨h, fun _ => trivial⟩

theorem quiet_checked (x : Except Status α) : Quiet (checked x) := trivial

theorem quiet_checkedStore (x : Except ConfigStoreError α) : Quiet (checkedStore x) := trivial

theorem quiet_readRuntime : Quiet readRuntime := .orFail (quiet_of_call rfl)

theorem quiet_requireSandboxNotActive (sandboxId : String) :
    Quiet (requireSandboxNotActive sandboxId) := by
  refine .bindExcept quiet_readRuntime fun runtime => ?_
  split <;> trivial

theorem quiet_configFromProto (env : LocalAdminEnv) (config : Option LocalSandboxConfigInput) :
    Quiet (configFromProto env config) :=
  .bindExcept (quiet_checked _) fun _ => quiet_checkedStore _

theorem quiet_ensureMapReady (mapId : String) : Quiet (ensureMapReady mapId) :=
  .orFail (quiet_of_call rfl)

theorem quiet_commitChange {expectedRevision : ℕ} {c : ConfigChange}
    (h : (LocalOp.config (.change expectedRevision c)).quiet = true) :
    Quiet (commitChange expectedRevision c) :=
  .bindExcept (.orFail (quiet_of_call h)) fun _ =>
    .bindExcept (.orFail (quiet_of_call rfl)) fun _ => trivial

theorem quiet_buildRuntimeState : Quiet buildRuntimeState :=
  .bindExcept quiet_readRuntime fun _ =>
    .bindExcept (.lift (quiet_of_call rfl)) fun _ =>
    .bindExcept (.lift (quiet_of_call rfl)) fun _ =>
    .bindExcept (.lift (quiet_of_call rfl)) fun _ =>
    .bindExcept (.lift (quiet_of_call rfl)) fun _ =>
    .bindExcept (.lift (quiet_of_call rfl)) fun _ => trivial

theorem quiet_rollBackActivation (runtimeAfter : EngineRuntimeState) (sandboxId : String) :
    Quiet (rollBackActivation runtimeAfter sandboxId) :=
  .bindExcept (.lift (quiet_of_call rfl)) fun _ => trivial

theorem quiet_finishActivation (runtimeAfter : EngineRuntimeState) (sandboxId : String) :
    Quiet (finishActivation runtimeAfter sandboxId) :=
  .bindExcept (.lift (quiet_of_call rfl)) fun _ =>
    .bindExcept (.lift (quiet_of_call rfl)) fun _ =>
    .bindExcept (.lift (quiet_of_call rfl)) fun _ => trivial

theorem quiet_deactivateLocalSandbox (expectedRevision : ℕ) (sandboxId : String) :
    Quiet (deactivateLocalSandbox expectedRevision sandboxId) :=
  .bindExcept (.orFail (quiet_of_call rfl)) fun _ =>
    .bindExcept (.lift (quiet_of_call rfl)) fun _ =>
    .bindExcept (.lift (quiet_of_call rfl)) fun _ => trivial

theorem quiet_releaseLocalRace (expectedRevision : ℕ) (raceId : String) (phase : LocalRacePhase) :
    Quiet (releaseLocalRace expectedRevision raceId phase) := by
  unfold releaseLocalRace
  split
  · exact .orFail (quiet_of_call rfl)
  · exact .orFail (quiet_of_call rfl)

theorem quiet_bumpLocalRuntimeRevision (raceId : String) :
    (bumpLocalRuntimeRevision raceId).Uses (·.quiet) := by
  refine .call rfl fun answer => ?_
  cases answer with
  | error err => trivial
  | ok runtime =>
      change (bumpIfActive runtime raceId).Uses (·.quiet)
      unfold bumpIfActive
      split
      · exact .call rfl fun _ => trivial
      · trivial

theorem quiet_freezeCars (raceId : String) (cars : List ℕ) (allApplied : Bool) :
    (freezeCars raceId cars allApplied).Uses (·.quiet) := by
  induction cars generalizing allApplied with
  | nil => trivial
  | cons engineCarId cars ih =>
      refine .call rfl fun answer => ?_
      cases answer with
      | error err => exact ih false
      | ok reply => exact ih allApplied

theorem quiet_applyFinishedLocalRaceSoftFreeze (raceId : String) :
    (applyFinishedLocalRaceSoftFreeze raceId).Uses (·.quiet) := by
  refine .call rfl fun cars => .bind (quiet_freezeCars raceId cars true) fun allApplied => ?_
  split
  · exact .call rfl fun _ => trivial
  · trivial

theorem quiet_reconcileLocalRaceLifecycleTick :
    reconcileLocalRaceLifecycleTick.Uses (·.quiet) := by
  refine .bind (.call rfl fun outcome => ?_) fun _ => .call rfl fun race => ?_
  · cases outcome with
    | none => trivial
    | some outcome => exact quiet_bumpLocalRuntimeRevision outcome.race.raceId
  · cases race with
    | none => trivial
    | some race => exact quiet_applyFinishedLocalRaceSoftFreeze race.raceId

/-- The task is one of the three requests that change how a sandbox runs. -/
def LocalTask.reaches : LocalTask → Bool
  | .updateTimeOfDay .. | .updateWeather .. | .setActivation .. => true
  | _ => false

theorem quiet_task (env : LocalAdminEnv) {task : LocalTask} (h : task.reaches = false) :
    Quiet (task.run env) := by
  cases task with
  | updateTimeOfDay | updateWeather | setActivation => cases h
  | getConfigs => exact .bindExcept (.lift (quiet_of_call rfl)) fun _ => trivial
  | createConfig expectedRevision config =>
      exact .bindExcept (quiet_configFromProto env config) fun config =>
        .bindExcept (.lift (quiet_of_call rfl)) fun _ =>
        .bindExcept (quiet_ensureMapReady _) fun _ =>
        .bindExcept (quiet_checkedStore _) fun _ =>
        .bindExcept (quiet_commitChange rfl) fun _ => trivial
  | updateConfig expectedRevision sandboxId config =>
      exact .bindExcept (quiet_checked _) fun _ =>
        .bindExcept (quiet_requireSandboxNotActive sandboxId) fun _ =>
        .bindExcept (quiet_configFromProto env config) fun _ =>
        .bindExcept (quiet_ensureMapReady _) fun _ =>
        .bindExcept (quiet_checkedStore _) fun _ =>
        .bindExcept (quiet_commitChange rfl) fun _ => trivial
  | deleteConfig expectedRevision sandboxId =>
      exact .bindExcept (quiet_checked _) fun _ =>
        .bindExcept (quiet_requireSandboxNotActive sandboxId) fun _ =>
        .bindExcept (quiet_commitChange rfl) fun _ =>
        .bindExcept (.lift (quiet_of_call rfl)) fun _ => trivial
  | updateSpawnMode expectedRevision sandboxId spawnMode =>
      exact .bindExcept (quiet_checked _) fun _ =>
        .bindExcept (quiet_checked _) fun _ =>
        .bindExcept (quiet_commitChange rfl) fun _ => trivial
  | getRuntimeState => exact .bindExcept quiet_buildRuntimeState fun _ => trivial
  | createRace expectedRevision config =>
      exact .bindExcept (quiet_checked _) fun _ =>
        .bindExcept (.lift (quiet_of_call rfl)) fun _ =>
        .bindExcept (.orFail (quiet_of_call rfl)) fun _ =>
        .bindExcept (.lift (quiet_of_call rfl)) fun _ =>
        .bindExcept (.lift (quiet_of_call rfl)) fun _ => trivial
  | startCountdown expectedRevision raceId countdownSeconds =>
      exact .bindExcept quiet_readRuntime fun _ =>
        .bindExcept (quiet_checked _) fun _ =>
        .bindExcept (.lift (quiet_of_call rfl)) fun _ =>
        .bindExcept (quiet_checked _) fun _ =>
        .bindExcept (quiet_checked _) fun _ =>
        .bindExcept (.lift (quiet_of_call rfl)) fun _ =>
        .bindExcept (.orFail (quiet_of_call rfl)) fun _ =>
        .bindExcept (.orFail (quiet_of_call rfl)) fun _ => trivial
  | abortRace expectedRevision raceId =>
      exact .bindExcept quiet_readRuntime fun _ =>
        .bindExcept (quiet_checked _) fun _ =>
        .bindExcept (.orFail (quiet_of_call rfl)) fun _ =>
        .bindExcept (.orFail (quiet_of_call rfl)) fun _ => trivial
  | closeRace expectedRevision raceId =>
      exact .bindExcept (.lift (quiet_of_call rfl)) fun _ =>
        .bindExcept (quiet_checked _) fun _ =>
        .bindExcept (quiet_checked _) fun _ =>
        .bindExcept (quiet_releaseLocalRace _ _ _) fun _ =>
        .bindExcept (.orFail (quiet_of_call rfl)) fun _ => trivial
  | lifecycleTick => exact .bindExcept (.lift quiet_reconcileLocalRaceLifecycleTick) fun _ => trivial
  | car target op => exact .bindExcept (.lift (quiet_of_call rfl)) fun _ => trivial
  | simulate target => exact .bindExcept (.lift (quiet_of_call rfl)) fun _ => trivial

end HackArena.Local
