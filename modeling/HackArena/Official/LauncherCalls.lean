import HackArena.Official.RaceLauncher

/-!
# What the launcher calls

Most of what the launcher does has no bearing on the state of the session:
it does not write it, it samples no signal and it reads none of the files
that a preparation needs.
-/

namespace HackArena.Official

/-- A call that writes the session in the store. -/
def Op.writesSession : Op → Bool
  | .store .clearOfficialRaceSession | .store (.setOfficialRacePrepared ..)
  | .store (.markOfficialRaceStarted _) => true
  | _ => false

/-- A call in the course of which the launcher does not look at the state
of the session. -/
def Op.aside : Op → Bool
  | .store .clearOfficialRaceSession | .store (.setOfficialRacePrepared ..)
  | .store (.markOfficialRaceStarted _) | .store (.officialRaceRemainingSec _)
  | .outside .raceConfigs | .outside .readTeamsFile | .outside .ghostModeFileExists
  | .outside .readGhostModeFile | .outside .writeSnapshot | .outside (.signalPresent _)
  | .latestFrame | .nextTick _ => false
  | _ => true

section Uses

open Prog

variable {teamId : String}

theorem cleanupBot_uses (teamId : String) (bot : TeamOfficialRaceBotState) :
    (cleanupBot teamId bot).Uses (·.aside) :=
  .call rfl fun _ => .call rfl fun _ => .call rfl fun _ => .call rfl fun _ => ⟨rfl, fun _ => trivial⟩

theorem cleanupBots_uses (bots : List (String × TeamOfficialRaceBotState)) :
    (cleanupBots bots).Uses (·.aside) := by
  induction bots with
  | nil => trivial
  | cons bot bots ih => exact .bind (cleanupBot_uses bot.1 bot.2) fun _ => ih

theorem cleanupStaleCar_uses (publicCarId : ℕ) : (cleanupStaleCar publicCarId).Uses (·.aside) := by
  refine .call rfl fun _ => .call rfl fun engineCarId => .bind ?_ fun _ =>
    .call rfl fun _ => ⟨rfl, fun _ => trivial⟩
  cases engineCarId with
  | none => trivial
  | some engineCarId => exact .call rfl fun _ => trivial

theorem cleanupStaleCars_uses (publicCarIds : List ℕ) :
    (cleanupStaleCars publicCarIds).Uses (·.aside) := by
  induction publicCarIds with
  | nil => trivial
  | cons publicCarId publicCarIds ih => exact .bind (cleanupStaleCar_uses publicCarId) fun _ => ih

theorem switchToNone_uses : switchToNone.Uses (·.aside) := by
  refine .call rfl fun runtime => ?_
  cases runtime with
  | error e => trivial
  | ok runtime =>
      dsimp only
      split
      · trivial
      · exact .call rfl fun _ => trivial

theorem issueTokens_calls {P : Op → Prop} (hbot : P (.outside (.issueTeamBotToken teamId)))
    (hwrapper : P (.outside .issueWrapperAuthToken)) : (issueTokens teamId).run.Uses P :=
  .bindExcept (.orFail ⟨hbot, fun _ => trivial⟩) fun _ =>
    .bindExcept (.orFail ⟨hwrapper, fun _ => trivial⟩) fun _ => trivial

theorem issueTokens_uses (teamId : String) : (issueTokens teamId).run.Uses (·.aside) :=
  issueTokens_calls rfl rfl

theorem startBotContainerWithOptions_calls {P : Op → Prop} (hdocker : ∀ op, P (.docker op))
    (spec : BotSpec) (pullImage : Bool) :
    (startBotContainerWithOptions spec pullImage).run.Uses P := by
  refine .bindExcept (.orFail ⟨hdocker _, fun _ => trivial⟩) fun _ => .bindExcept ?_ fun _ =>
    .orFail ⟨hdocker _, fun _ => trivial⟩
  unfold pullBotImage
  split
  · exact .orFail ⟨hdocker _, fun _ => trivial⟩
  · trivial

theorem startBotContainerWithOptions_uses (spec : BotSpec) (pullImage : Bool) :
    (startBotContainerWithOptions spec pullImage).run.Uses (·.aside) :=
  startBotContainerWithOptions_calls (fun _ => rfl) spec pullImage

/-! ## What a preparation reads -/

section Reads

variable {P : Op → Prop} (cfg : LauncherConfig)

theorem readOfficialRaceTeamIds_calls (hteams : P (.outside .readTeamsFile)) :
    (readOfficialRaceTeamIds cfg).run.Uses P :=
  .bindExcept (.orFail ⟨hteams, fun _ => trivial⟩) fun _ => trivial

theorem readOfficialRaceGhostModeSettings_calls (hexists : P (.outside .ghostModeFileExists))
    (hread : P (.outside .readGhostModeFile)) :
    (readOfficialRaceGhostModeSettings cfg).run.Uses P := by
  refine .bindExcept (.orFail ⟨hexists, fun _ => trivial⟩) fun found => ?_
  split
  · trivial
  · refine .bindExcept (.orFail ⟨hread, fun _ => trivial⟩) fun parsed => ?_
    split <;> trivial

end Reads

/-! ## The launch -/

theorem registerOfficialRaceRuntimeCar_uses (teamId : String) (publicCarId engineCarId : ℕ)
    (startPositionIndex : ℕ) :
    (registerOfficialRaceRuntimeCar teamId publicCarId engineCarId startPositionIndex).Uses
      (·.aside) :=
  .call rfl fun _ => .call rfl fun _ => .call rfl fun _ => .call rfl fun _ => ⟨rfl, fun _ => trivial⟩

namespace GridBot

variable (bot : GridBot)

theorem skip_uses (status : StartStatus) : (bot.skip status).Uses (·.aside) :=
  .bind (.call rfl fun _ => ⟨rfl, fun _ => trivial⟩) fun _ => trivial

theorem enter_uses (containerName : String) (containerId : ℕ) :
    (bot.enter containerName containerId).Uses (·.aside) :=
  .call rfl fun _ => .call rfl fun _ => .call rfl fun _ => .call rfl fun _ => .call rfl fun _ =>
    trivial

theorem startContainer_uses : bot.startContainer.Uses (·.aside) := by
  unfold startContainer
  split
  · exact bot.skip_uses _
  · refine .bind (startBotContainerWithOptions_uses _ _) fun started => ?_
    cases started with
    | error e => exact .call rfl fun _ => bot.skip_uses _
    | ok containerId => exact bot.enter_uses _ _

theorem start_uses : bot.start.Uses (·.aside) := by
  refine .call rfl fun placed => ?_
  cases placed with
  | error e => exact bot.skip_uses _
  | ok _ =>
      refine .bind (issueTokens_uses _) fun tokens => ?_
      cases tokens with
      | error e => exact bot.skip_uses _
      | ok _ => exact bot.startContainer_uses

end GridBot

theorem launchBot_uses (teamId : String) (positionIndex : ℕ) (slotIndex : ℤ)
    (submissionId imageRef : String) :
    (launchBot teamId positionIndex slotIndex submissionId imageRef).Uses (·.aside) := by
  refine .call rfl fun spawned => ?_
  cases spawned with
  | error e => trivial
  | ok engineCarId =>
      exact .call rfl fun publicCarId => .bind (registerOfficialRaceRuntimeCar_uses ..) fun _ =>
        GridBot.start_uses _

theorem resolveRunnableSlot_calls {P : Op → Prop} (hrepo : ∀ op, P (.repo op)) (teamId : String)
    (slots : List ℤ) : (resolveRunnableSlot teamId slots).run.Uses P := by
  induction slots with
  | nil => trivial
  | cons slotIndex slots ih =>
      refine .bindExcept (.orFail ⟨hrepo _, fun _ => trivial⟩) fun slotSubmission => ?_
      cases slotSubmission with
      | none => exact ih
      | some slotSubmission =>
          dsimp only
          split
          · exact ih
          · trivial

theorem resolveRunnableSlot_uses (teamId : String) (slots : List ℤ) :
    (resolveRunnableSlot teamId slots).run.Uses (·.aside) :=
  resolveRunnableSlot_calls (fun _ => rfl) teamId slots

theorem launchTeam_uses (startSlots positionIndex : ℕ) (seenTeams : List String)
    (teamId : String) :
    (launchTeam startSlots positionIndex seenTeams teamId).run.Uses (·.aside) := by
  unfold launchTeam
  split
  · trivial
  · split
    · trivial
    · refine .bindExcept (resolveRunnableSlot_uses _ _) fun found => ?_
      cases found with
      | none => trivial
      | some found => exact .lift (launchBot_uses ..)

theorem launchTeams_uses (startSlots index : ℕ) (seenTeams teamIds : List String)
    (result : OfficialRaceLaunchResult) :
    (launchTeams startSlots index seenTeams teamIds result).run.Uses (·.aside) := by
  induction teamIds generalizing index seenTeams result with
  | nil => trivial
  | cons teamId teamIds ih =>
      unfold launchTeams
      split
      · trivial
      · exact .bindExcept (launchTeam_uses ..) fun outcome => ih ..

/-- The launch without the clean-up at its beginning. -/
theorem launch_uses (raceConfig : RaceConfigRecord) (teamIds : List String)
    (ghostModeSettings : Option Boink.GhostModeSettings) :
    ∃ rest : StatusProg OfficialRaceLaunchResult, rest.run.Uses (·.aside) ∧
      launchOfficialRaceSessionLocked raceConfig teamIds ghostModeSettings =
        (liftM cleanupOfficialRaceSessionLocked >>= fun _ => rest) := by
  refine ⟨_, ?_, rfl⟩
  refine .bindExcept (.orFail ⟨rfl, fun _ => trivial⟩) fun runtimeBefore => ?_
  refine .bindExcept (.orFail ⟨rfl, fun _ => trivial⟩) fun _ => ?_
  refine .bindExcept (.orFail ⟨rfl, fun _ => trivial⟩) fun startSlots => ?_
  split
  · trivial
  · exact launchTeams_uses ..

/-! ## The start -/

theorem refreshBot_uses (teamId : String) (current : TeamOfficialRaceBotState) :
    (refreshBot teamId current).Uses (·.aside) := by
  refine .bind (.bindExcept (issueTokens_uses teamId) fun _ =>
    .orFail (startBotContainerWithOptions_uses _ _)) fun restarted => ?_
  cases restarted with
  | error e => trivial
  | ok containerId =>
      exact .call rfl fun _ => .call rfl fun _ => .call rfl fun _ => ⟨rfl, fun _ => trivial⟩

theorem refreshBots_uses (bots : List (String × TeamOfficialRaceBotState)) :
    (refreshBots bots).Uses (·.aside) := by
  induction bots with
  | nil => trivial
  | cons bot bots ih => exact .bind (refreshBot_uses bot.1 bot.2) fun _ => ih

theorem refreshOfficialRaceBotsBeforeStartLocked_uses :
    refreshOfficialRaceBotsBeforeStartLocked.Uses (·.aside) :=
  .call rfl fun bots => refreshBots_uses bots

theorem forceHardTyres_uses (bots : List (String × TeamOfficialRaceBotState)) :
    (forceHardTyres bots).Uses (·.aside) := by
  induction bots with
  | nil => trivial
  | cons bot bots ih =>
      refine .bind (.call rfl fun forced => ?_) fun _ => ih
      cases forced with
      | error e => trivial
      | ok _ => exact ⟨rfl, fun _ => trivial⟩

theorem forceOfficialRaceHardTyres_uses : forceOfficialRaceHardTyres.Uses (·.aside) :=
  .call rfl fun bots => forceHardTyres_uses bots

theorem keepGridPositions_uses (cars : List GridCar) : (keepGridPositions cars).Uses (·.aside) := by
  induction cars with
  | nil => trivial
  | cons car cars ih => exact .call rfl fun _ => ih

theorem pinGrid_uses (st : LauncherState) : (pinGrid st).Uses (·.aside) := by
  unfold pinGrid
  split
  · exact .call rfl fun cars => keepGridPositions_uses cars
  · trivial

end Uses

end HackArena.Official
