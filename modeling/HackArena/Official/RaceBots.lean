import HackArena.Official.System

/-!
# The bots of the official race

A bot of the race has a car, a container and an entry in the registry. The
slot switches that teams have asked for are carried out while their cars
are in a stationary fix.
-/

namespace HackArena.Official

open Boink HackArena.Runtime HackArena.Services

/-! ## Containers -/

/-- What is known of a container before docker gives it an id. -/
structure BotSpec where
  imageRef : String
  containerName : String
  teamId : String
  submissionId : String
  sandboxId : String
  slotIndex : ℤ
  deriving DecidableEq, Repr

def BotSpec.container (spec : BotSpec) (id : ℕ) : Container :=
  ⟨id, spec.imageRef, spec.teamId, spec.submissionId, spec.sandboxId, spec.slotIndex⟩

def pullBotImage (pullImage : Bool) (imageRef : String) : ExceptT String OfficialProg Unit :=
  if pullImage then (Op.docker (.pull imageRef)).call.orFail id else pure ()

/-- The container that has the name is removed first. -/
def startBotContainerWithOptions (spec : BotSpec) (pullImage : Bool) :
    ExceptT String OfficialProg ℕ := do
  (Op.docker (.rm spec.containerName)).call.orFail id
  pullBotImage pullImage spec.imageRef
  (Op.docker (.run spec.containerName spec.container)).call.orFail id

def startBotContainer (spec : BotSpec) : ExceptT String OfficialProg ℕ :=
  startBotContainerWithOptions spec true

/-- The two tokens that a container gets. -/
def issueTokens (teamId : String) : StatusProg Unit := do
  let _ ← (Op.outside (.issueTeamBotToken teamId)).call.orFail id
  let _ ← (Op.outside .issueWrapperAuthToken).call.orFail id
  pure ()

def TeamOfficialRaceBotState.spec (bot : TeamOfficialRaceBotState) (teamId : String) : BotSpec :=
  ⟨bot.imageRef, bot.containerName, teamId, bot.submissionId, "official-race", bot.slotIndex⟩

/-! ## Cars -/

def registerOfficialRaceRuntimeCar (teamId : String) (publicCarId engineCarId : ℕ)
    (startPositionIndex : ℕ) : OfficialProg Unit := do
  (Op.store (.insert publicCarId (.identity { RuntimeCarIdentity.default with
    teamId := some teamId
    officialRaceStartPositionIndex := some startPositionIndex }))).call
  (Op.store (.insert publicCarId .known)).call
  (Op.store (.insert publicCarId .lastClientSeq)).call
  (Op.store (.insert publicCarId (.engineId engineCarId))).call
  (Op.store (.insert publicCarId (.target .officialRace))).call

/-- A car that cannot be despawned is removed all the same. -/
def cleanupSpawnedOfficialRaceCar (publicCarId engineCarId : ℕ) : OfficialProg Unit := do
  let _ ← (Op.engine (.despawnCar .officialRace engineCarId)).call
  (Op.store (.removeCar publicCarId)).call

/-! ## Slot switches -/

/-- `SubmissionRepo::resolve_selected_slot_index`. -/
def resolveSelectedSlotIndex (teamId : String) (loadedSlot : Option ℤ) :
    ExceptT String OfficialProg ℤ := do
  let persisted ← (Op.repo (.getSelectedSlotIndex teamId)).call.orFail id
  let filledSlots ← (Op.repo (.listFilledSucceededSlots teamId)).call.orFail id
  let visible := persisted.filter fun slot =>
    1 ≤ slot ∧ slot ≤ 3 ∧ (slot ∈ filledSlots ∨ some slot = loadedSlot)
  pure (visible.getD (loadedSlot.getD (filledSlots.head?.getD 1)))

def resolveSelectedSlotForTeam (teamId : String) : StatusProg ℤ := do
  let entry ← liftM (Op.bot (.get teamId)).call
  mapErr (resolveSelectedSlotIndex teamId (entry.map (·.slotIndex)))
    (internal "failed to resolve selected slot")

/-- An image reference that is there and not blank. -/
@[irreducible] def usableImageRef (imageRef : Option String) : Option String :=
  (imageRef.map Text.trim).filter fun value => !value.isEmpty

def resolveSlotSubmissionImage (teamId : String) (slotIndex : ℤ) : StatusProg (String × String) := do
  match ← (Op.repo (.getSucceededSubmissionForSlot teamId slotIndex)).call.orFail
      (internal "failed to resolve slot submission") with
  | none =>
      throw ⟨.failedPrecondition, "selected slot does not contain succeeded submission"⟩
  | some slotSubmission =>
      match usableImageRef slotSubmission.imageRef with
      | none => throw ⟨.failedPrecondition, "selected slot submission is missing image_ref"⟩
      | some imageRef => pure (slotSubmission.submissionId, imageRef)

/-- The tokens and the container of a slot switch. From the tokens on, the
entry says that the container is being switched. -/
def switchContainer (teamId : String) (spec : BotSpec) : StatusProg ℕ := do
  issueTokens teamId
  let frame ← liftM Op.latestFrame.call
  liftM (Op.bot (.setContainerId teamId (.switching frame.serverTimeMs))).call
  mapErr (startBotContainer spec)
    (internal "failed to restart official-race bot container for selected slot")

def applySelectedSlot (teamId : String) (bot : TeamOfficialRaceBotState) (selectedSlot : ℤ) :
    StatusProg Unit := do
  let (submissionId, imageRef) ← resolveSlotSubmissionImage teamId selectedSlot
  let target : TeamOfficialRaceBotState := { bot with
    slotIndex := selectedSlot
    submissionId := submissionId
    imageRef := imageRef
    autoRestartAttempts := 0 }
  liftM (Op.store (.car bot.publicCarId (.setBotSwitchInProgress true))).call
  let switchResult ← liftM (switchContainer teamId (target.spec teamId)).run
  liftM (Op.store (.car bot.publicCarId (.setBotSwitchInProgress false))).call
  match switchResult with
  | .error status => throw status
  | .ok containerId => do
      let _ ← liftM (Op.outside (.startBotLogCapture teamId containerId)).call
      liftM (Op.bot (.insert teamId { target with containerId := .docker containerId })).call
      liftM (Op.store (.car bot.publicCarId (.setActiveBotSlot selectedSlot))).call
      liftM (Op.spawnMonitor ⟨.prepareCommand, teamId, containerId⟩).call

def pendingSelectedSlot (teamId : String) : StatusProg Unit := do
  match ← liftM (Op.bot (.get teamId)).call with
  | none => pure ()
  | some bot => do
      let inStationaryFix ← liftM (Op.store (.isInStationaryFix bot.publicCarId)).call
      if inStationaryFix = false then pure ()
      else do
        let selectedSlot ← resolveSelectedSlotForTeam teamId
        if selectedSlot = bot.slotIndex then pure ()
        else applySelectedSlot teamId bot selectedSlot

def tryApplyPendingSelectedSlotForTeam (teamId : String) : OfficialProg (Except Status Unit) :=
  withLock .prepareCommand (pendingSelectedSlot teamId).run

end HackArena.Official
