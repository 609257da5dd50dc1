import HackArena.Runtime.EngineState
import Mathlib.Data.Finset.Sort

/-!
# The runtime store of the race services

The store keeps one concurrent map per kind of data about a car, keyed by
the public car id. The maps are written one at a time, so a car can be
present in some of them only.
-/

namespace HackArena.Services

open Boink HackArena.Runtime

def pitHistoryMaxEntries : ℕ := 32
def commandCooldownMs : ℕ := 30000
def emergencyPitLockMs : ℕ := 30000
def teleportIdleWindowMs : ℕ := 500

/-- The largest `u32`. -/
def u32Max : ℕ := 2 ^ 32 - 1

structure RuntimeCarIdentity where
  subject : Option String
  teamId : Option String
  instanceUuid : Option String
  localBotIndex : Option ℕ
  localRaceDisplayName : Option String
  localRaceParticipantIndex : Option ℕ
  officialRaceStartPositionIndex : Option ℕ
  activeBotSlot : Option ℤ
  botSwitchInProgress : Bool
  deriving DecidableEq, Repr

/-- `RuntimeCarIdentity::default()`. -/
def RuntimeCarIdentity.default : RuntimeCarIdentity :=
  ⟨none, none, none, none, none, none, none, none, false⟩

inductive RuntimePitTireType where
  | unspecified | hard | soft | wet
  deriving DecidableEq, Repr

inductive RuntimeNextTireMode where
  | auto | manual
  deriving DecidableEq, Repr

inductive RuntimePitEntrySource where
  | botDecision | requested | emergency
  deriving DecidableEq, Repr

structure RuntimePitHistoryEntry where
  pitTimeMs : ℕ
  lap : ℕ
  source : RuntimePitEntrySource
  tireTypeAfter : RuntimePitTireType
  tireTypeBefore : RuntimePitTireType
  tireWearBeforeRepair : Vector F32 4
  tireTemperatureBeforeCelsius : Vector F32 4
  tireTemperatureAfterCelsius : Vector F32 4
  botSlotBefore : ℕ
  botSlotAfter : ℕ
  deriving DecidableEq

structure RuntimeActiveFixSession where
  entryTimeMs : ℕ
  entryLap : ℕ
  source : RuntimePitEntrySource
  tireTypeBefore : RuntimePitTireType
  tireWearBeforeRepair : Vector F32 4
  tireTemperatureBeforeCelsius : Vector F32 4
  botSlotBefore : ℕ
  deriving DecidableEq

structure RuntimePitStateSnapshot where
  pitRequestActive : Bool
  emergencyLockRemainingMs : ℕ
  backToTrackRemainingMs : ℕ
  emergencyPitstopRemainingMs : ℕ
  forceIdle : Bool
  lastPitTimeMs : ℕ
  lastPitSource : RuntimePitEntrySource
  lastPitLap : ℕ
  frontendNextPitTireOverride : RuntimePitTireType
  nextPitTireType : RuntimePitTireType
  history : List RuntimePitHistoryEntry
  deriving DecidableEq

def RuntimePitStateSnapshot.default : RuntimePitStateSnapshot :=
  ⟨false, 0, 0, 0, false, 0, .botDecision, 0, .unspecified, .unspecified, []⟩

structure RuntimeControlInputSnapshot where
  inputThrottle : F32
  inputBrake : F32
  currentBrakeBalancer : F32
  currentDifferentialLock : F32
  deriving DecidableEq, Repr

def RuntimeControlInputSnapshot.default : RuntimeControlInputSnapshot := ⟨0, 0, 1 / 2, 0⟩

/-- `wasInFixZone` and `activeFixSession` exist in the official build only
and keep their defaults elsewhere. -/
structure RuntimePitState where
  pitRequestActive : Bool
  emergencyLockUntilMs : ℕ
  backToTrackCooldownUntilMs : ℕ
  emergencyPitstopCooldownUntilMs : ℕ
  forceIdleUntilMs : ℕ
  lastPitTimeMs : ℕ
  lastPitSource : RuntimePitEntrySource
  lastPitLap : ℕ
  nextTireMode : RuntimeNextTireMode
  botCachedNextTireType : Option RuntimePitTireType
  activeNextTireType : RuntimePitTireType
  nextPitTireRevision : ℕ
  history : List RuntimePitHistoryEntry
  wasInFixZone : Bool
  activeFixSession : Option RuntimeActiveFixSession
  wasFixStationaryFullPit : Bool
  lastAppliedTyreInCurrentFix : Option RuntimePitTireType
  lastAppliedTireRevisionInCurrentFix : Option ℕ
  emergencyIntentPending : Bool
  inStationaryFix : Bool
  deriving DecidableEq

def RuntimePitState.default : RuntimePitState where
  pitRequestActive := false
  emergencyLockUntilMs := 0
  backToTrackCooldownUntilMs := 0
  emergencyPitstopCooldownUntilMs := 0
  forceIdleUntilMs := 0
  lastPitTimeMs := 0
  lastPitSource := .botDecision
  lastPitLap := 0
  nextTireMode := .auto
  botCachedNextTireType := none
  activeNextTireType := .unspecified
  nextPitTireRevision := 0
  history := []
  wasInFixZone := false
  activeFixSession := none
  wasFixStationaryFullPit := false
  lastAppliedTyreInCurrentFix := none
  lastAppliedTireRevisionInCurrentFix := none
  emergencyIntentPending := false
  inStationaryFix := false

def remainingU32 (untilMs nowMs : ℕ) : ℕ :=
  if untilMs ≤ nowMs then 0 else min (untilMs - nowMs) u32Max

def RuntimePitState.snapshot (s : RuntimePitState) (nowMs : ℕ) : RuntimePitStateSnapshot where
  pitRequestActive := s.pitRequestActive
  emergencyLockRemainingMs := remainingU32 s.emergencyLockUntilMs nowMs
  backToTrackRemainingMs := remainingU32 s.backToTrackCooldownUntilMs nowMs
  emergencyPitstopRemainingMs := remainingU32 s.emergencyPitstopCooldownUntilMs nowMs
  forceIdle :=
    decide (nowMs < s.forceIdleUntilMs) || decide (0 < remainingU32 s.emergencyLockUntilMs nowMs)
  lastPitTimeMs := s.lastPitTimeMs
  lastPitSource := s.lastPitSource
  lastPitLap := s.lastPitLap
  frontendNextPitTireOverride := match s.nextTireMode with
    | .auto => .unspecified
    | .manual => s.activeNextTireType
  nextPitTireType := s.botCachedNextTireType.getD .unspecified
  history := s.history

/-- The prepared official race is left out: no modelled function reads
it. -/
structure RaceRuntimeStore where
  nextPublicCarId : ℕ
  knownCars : Finset ℕ
  lastClientSeq : HashMap ℕ ℕ
  instanceCars : HashMap String ℕ
  carOwners : HashMap ℕ String
  carEngineIds : HashMap ℕ ℕ
  carTargets : HashMap ℕ EngineCommandTarget
  carIdentity : HashMap ℕ RuntimeCarIdentity
  carPitState : HashMap ℕ RuntimePitState
  carControlsInput : HashMap ℕ RuntimeControlInputSnapshot
  localBotNextIndex : HashMap (String × String) ℕ

def RaceRuntimeStore.new : RaceRuntimeStore := ⟨1, ∅, ∅, ∅, ∅, ∅, ∅, ∅, ∅, ∅, ∅⟩

namespace RaceRuntimeStore

variable (s : RaceRuntimeStore)

/-- `fetch_add`: the id handed out and the store afterwards. -/
def allocatePublicCarId : ℕ × RaceRuntimeStore :=
  (s.nextPublicCarId, { s with nextPublicCarId := (s.nextPublicCarId + 1) % 2 ^ 64 })

def allocateLocalBotIndex (sandboxId userId : String) : ℕ × RaceRuntimeStore :=
  let index := (s.localBotNextIndex.lookup (sandboxId, userId)).getD 1
  (index, { s with localBotNextIndex :=
    s.localBotNextIndex.insert (sandboxId, userId) (min (index + 1) u32Max) })

def carLastClientSeq (carId : ℕ) : ℕ := (s.lastClientSeq.lookup carId).getD 0

def knownCarIds : List ℕ := s.knownCars.sort (· ≤ ·)

/-- The entry of the returned map for one sandbox. -/
def activeCarCountsBySandbox (sandboxId : String) : Option ℕ :=
  match (s.carTargets.keys.filter fun carId =>
      s.carTargets.lookup carId = some (.sandbox sandboxId)).card with
  | 0 => none
  | n + 1 => some (min (n + 1) u32Max)

/-- The entry of the returned map for one local race. -/
def activeCarCountsByLocalRace (raceId : String) : Option ℕ :=
  match (s.carTargets.keys.filter fun carId =>
      s.carTargets.lookup carId = some (.localRace raceId)).card with
  | 0 => none
  | n + 1 => some (min (n + 1) u32Max)

def teamMatches (teamId : String) (carId : ℕ) : Bool :=
  match (s.carIdentity.lookup carId).bind (·.teamId) with
  | none => false
  | some value => Text.trim value == Text.trim teamId

def joinedSandboxIdsForTeam (teamId : String) : Finset String :=
  if Text.isBlank teamId then ∅
  else s.carTargets.keys.biUnion fun carId =>
    match s.carTargets.lookup carId with
    | some (.sandbox sandboxId) => if s.teamMatches teamId carId then {sandboxId} else ∅
    | _ => ∅

def removeCar (carId : ℕ) : RaceRuntimeStore :=
  let t : RaceRuntimeStore := { s with
    knownCars := s.knownCars.erase carId
    lastClientSeq := s.lastClientSeq.erase carId
    carEngineIds := s.carEngineIds.erase carId
    carTargets := s.carTargets.erase carId
    carIdentity := s.carIdentity.erase carId
    carPitState := s.carPitState.erase carId
    carControlsInput := s.carControlsInput.erase carId
    carOwners := s.carOwners.erase carId }
  match s.carOwners.lookup carId with
  | none => t
  | some ownerInstanceUuid =>
      if s.instanceCars.lookup ownerInstanceUuid = some carId then
        { t with instanceCars := s.instanceCars.erase ownerInstanceUuid }
      else t

/-! ## Pit state -/

def pitState (carId : ℕ) : RuntimePitState := (s.carPitState.lookup carId).getD .default

/-- `car_pit_state.entry(car_id).or_default()` followed by a write. -/
def putPitState (carId : ℕ) (state : RuntimePitState) : RaceRuntimeStore :=
  { s with carPitState := s.carPitState.insert carId state }

def pitStateSnapshot (carId nowMs : ℕ) : RuntimePitStateSnapshot :=
  match s.carPitState.lookup carId with
  | none => .default
  | some state => state.snapshot nowMs

def setPitRequestActive (carId : ℕ) (active : Bool) : RaceRuntimeStore :=
  s.putPitState carId { s.pitState carId with pitRequestActive := active }

def setControlsInput (carId : ℕ) (throttle brake brakeBalancer differentialLock : F32) :
    RaceRuntimeStore :=
  { s with carControlsInput :=
      s.carControlsInput.insert carId ⟨throttle, brake, brakeBalancer, differentialLock⟩ }

def controlsInputSnapshot (carId : ℕ) : RuntimeControlInputSnapshot :=
  (s.carControlsInput.lookup carId).getD .default

def setNextTireFromFrontend (carId : ℕ) (tireType : RuntimePitTireType) : RaceRuntimeStore :=
  let entry := s.pitState carId
  let entry := match tireType with
    | .unspecified => { entry with
        nextTireMode := .auto
        activeNextTireType := entry.botCachedNextTireType.getD .unspecified }
    | .hard | .soft | .wet => { entry with
        nextTireMode := .manual
        activeNextTireType := tireType }
  s.putPitState carId { entry with
    nextPitTireRevision := saturatingAdd entry.nextPitTireRevision 1 }

def setNextTireFromBot (carId : ℕ) (tireType : RuntimePitTireType) : RaceRuntimeStore :=
  let entry := { s.pitState carId with botCachedNextTireType := some tireType }
  s.putPitState carId (match entry.nextTireMode with
    | .auto => { entry with
        activeNextTireType := tireType
        nextPitTireRevision := saturatingAdd entry.nextPitTireRevision 1 }
    | .manual => entry)

/-- The tyre to mount while the car stands in the fix zone, if any. -/
def planPitFixTireApply (carId : ℕ) (currentTireType : RuntimePitTireType)
    (inStationaryFix : Bool) : Option RuntimePitTireType × RaceRuntimeStore :=
  let entry := s.pitState carId
  if inStationaryFix = false then
    (none, s.putPitState carId { entry with
      lastAppliedTyreInCurrentFix := none
      lastAppliedTireRevisionInCurrentFix := none })
  else
    let desired := match entry.activeNextTireType with
      | .unspecified => currentTireType
      | value => value
    if entry.lastAppliedTyreInCurrentFix = some desired ∧
        entry.lastAppliedTireRevisionInCurrentFix = some entry.nextPitTireRevision then
      (none, s.putPitState carId entry)
    else (some desired, s.putPitState carId entry)

def markPitFixTireApplied (carId : ℕ) (tireType : RuntimePitTireType) : RaceRuntimeStore :=
  let entry := s.pitState carId
  s.putPitState carId { entry with
    lastAppliedTyreInCurrentFix := some tireType
    lastAppliedTireRevisionInCurrentFix := some entry.nextPitTireRevision }

def markBackToTrackApplied (carId nowMs : ℕ) : RaceRuntimeStore :=
  let entry := s.pitState carId
  s.putPitState carId { entry with
    backToTrackCooldownUntilMs :=
      max entry.backToTrackCooldownUntilMs (saturatingAdd nowMs commandCooldownMs)
    forceIdleUntilMs := max entry.forceIdleUntilMs (saturatingAdd nowMs teleportIdleWindowMs) }

/-- The last addition is a plain one and wraps in a release build. -/
def markEmergencyPitstopRequested (carId nowMs : ℕ) : RaceRuntimeStore :=
  let entry := s.pitState carId
  s.putPitState carId { entry with
    emergencyIntentPending := true
    emergencyPitstopCooldownUntilMs :=
      max entry.emergencyPitstopCooldownUntilMs (saturatingAdd nowMs commandCooldownMs)
    emergencyLockUntilMs :=
      max entry.emergencyLockUntilMs (saturatingAdd nowMs emergencyPitLockMs)
    forceIdleUntilMs :=
      max entry.forceIdleUntilMs ((nowMs + teleportIdleWindowMs) % 2 ^ 64) }

def backToTrackCooldownRemainingMs (carId nowMs : ℕ) : ℕ :=
  match s.carPitState.lookup carId with
  | none => 0
  | some entry => remainingU32 entry.backToTrackCooldownUntilMs nowMs

def emergencyPitstopCooldownRemainingMs (carId nowMs : ℕ) : ℕ :=
  match s.carPitState.lookup carId with
  | none => 0
  | some entry => remainingU32 entry.emergencyPitstopCooldownUntilMs nowMs

/-- `car_identity.get_mut(&car_id)`: without an entry nothing is written. -/
def modifyIdentity (carId : ℕ) (update : RuntimeCarIdentity → RuntimeCarIdentity) :
    RaceRuntimeStore :=
  match s.carIdentity.lookup carId with
  | none => s
  | some identity => { s with carIdentity := s.carIdentity.insert carId (update identity) }

def setActiveBotSlot (carId : ℕ) (slotIndex : ℤ) : RaceRuntimeStore :=
  s.modifyIdentity carId fun identity => { identity with activeBotSlot := some slotIndex }

def clearActiveBotSlot (carId : ℕ) : RaceRuntimeStore :=
  s.modifyIdentity carId fun identity => { identity with activeBotSlot := none }

def setBotSwitchInProgress (carId : ℕ) (inProgress : Bool) : RaceRuntimeStore :=
  s.modifyIdentity carId fun identity => { identity with botSwitchInProgress := inProgress }

def isBotSwitchInProgress (carId : ℕ) : Bool :=
  match s.carIdentity.lookup carId with
  | none => false
  | some identity => identity.botSwitchInProgress

end RaceRuntimeStore

def runtimeTireTypeFromEngine : TyreType → RuntimePitTireType
  | .hard => .hard
  | .soft => .soft
  | .wet => .wet

def engineTireTypeFromRuntime : RuntimePitTireType → Option TyreType
  | .hard => some .hard
  | .soft => some .soft
  | .wet => some .wet
  | .unspecified => none

/-- The car stands still in the fix zone with all wheels in the pit. -/
def completedPit (state : VehicleState) : Bool :=
  state.pitstopState.hasZone .fix && state.pitstopState.wheelsInPitstop == 4 &&
    decide (state.speed = 0)

/-- Why a pit stop that starts now was made. -/
def RuntimePitState.entrySource (entry : RuntimePitState) : RuntimePitEntrySource :=
  if entry.emergencyIntentPending then .emergency
  else if entry.pitRequestActive then .requested
  else .botDecision

def RuntimePitState.pushHistory (entry : RuntimePitState) (h : RuntimePitHistoryEntry) :
    RuntimePitState :=
  { entry with history := (h :: entry.history).take pitHistoryMaxEntries }

/-- Official build: a stop is the time between entering and leaving the
fix zone. -/
def RuntimePitState.trackFixSession (entry : RuntimePitState) (state : VehicleState)
    (raceMetrics : Option VehicleRaceMetrics) (botSlot nowMs : ℕ) : RuntimePitState :=
  let inFixZone := state.pitstopState.hasZone .fix
  let entry :=
    if inFixZone ∧ entry.wasInFixZone = false then
      { entry with
        activeFixSession := some
          { entryTimeMs := nowMs
            entryLap := (raceMetrics.map (·.completedLaps)).getD entry.lastPitLap
            source := entry.entrySource
            tireTypeBefore := runtimeTireTypeFromEngine state.tyreType
            tireWearBeforeRepair := state.tyreHealth
            tireTemperatureBeforeCelsius := state.tyreTemperatureCelsius
            botSlotBefore := botSlot }
        emergencyIntentPending := false
        pitRequestActive := false }
    else entry
  let entry :=
    if inFixZone = false ∧ entry.wasInFixZone then
      match entry.activeFixSession with
      | none => entry
      | some session =>
          { { entry with activeFixSession := none }.pushHistory
              { pitTimeMs := session.entryTimeMs
                lap := session.entryLap
                source := session.source
                tireTypeAfter := runtimeTireTypeFromEngine state.tyreType
                tireTypeBefore := session.tireTypeBefore
                tireWearBeforeRepair := session.tireWearBeforeRepair
                tireTemperatureBeforeCelsius := session.tireTemperatureBeforeCelsius
                tireTemperatureAfterCelsius := state.tyreTemperatureCelsius
                botSlotBefore := session.botSlotBefore
                botSlotAfter := botSlot } with
            lastPitTimeMs := nowMs
            lastPitSource := session.source
            lastPitLap := session.entryLap }
    else entry
  { entry with wasInFixZone := inFixZone }

/-- Other builds: a stop is the moment the car comes to rest in the fix
zone. -/
def RuntimePitState.trackFullPit (entry : RuntimePitState) (state : VehicleState)
    (raceMetrics : Option VehicleRaceMetrics) (nowMs : ℕ) : RuntimePitState :=
  if completedPit state ∧ entry.wasFixStationaryFullPit = false then
    let lap := (raceMetrics.map (·.completedLaps)).getD 0
    { entry.pushHistory
        { pitTimeMs := nowMs
          lap := lap
          source := entry.entrySource
          tireTypeAfter := entry.activeNextTireType
          tireTypeBefore := runtimeTireTypeFromEngine state.tyreType
          tireWearBeforeRepair := state.tyreHealth
          tireTemperatureBeforeCelsius := state.tyreTemperatureCelsius
          tireTemperatureAfterCelsius := state.tyreTemperatureCelsius
          botSlotBefore := 1
          botSlotAfter := 1 } with
      lastPitTimeMs := nowMs
      lastPitSource := entry.entrySource
      lastPitLap := lap
      emergencyIntentPending := false
      pitRequestActive := false }
  else entry

/-- The bot slot written to the pit history. -/
def RaceRuntimeStore.currentBotSlotForHistory (s : RaceRuntimeStore) (carId : ℕ) : ℕ :=
  match (s.carIdentity.lookup carId).bind (·.activeBotSlot) with
  | none => 1
  | some slot => (max slot 1).toNat

def RaceRuntimeStore.updatePitStateFromRuntime (b : Build) (s : RaceRuntimeStore) (carId : ℕ)
    (state : VehicleState) (raceMetrics : Option VehicleRaceMetrics) (nowMs : ℕ) :
    RuntimePitStateSnapshot × RaceRuntimeStore :=
  let entry := s.pitState carId
  let entry := match b with
    | .official => entry.trackFixSession state raceMetrics (s.currentBotSlotForHistory carId) nowMs
    | .local | .standalone => entry.trackFullPit state raceMetrics nowMs
  let entry :=
    if completedPit state then { entry with wasFixStationaryFullPit := true }
    else { entry with
      wasFixStationaryFullPit := false
      lastAppliedTyreInCurrentFix := none
      lastAppliedTireRevisionInCurrentFix := none }
  let entry := { entry with inStationaryFix := completedPit state }
  (entry.snapshot nowMs, s.putPitState carId entry)

/-! ## What the writers leave alone -/

/-- Two stores have the same entries for a car. -/
structure SameAt (carId : ℕ) (s t : RaceRuntimeStore) : Prop where
  known : carId ∈ t.knownCars ↔ carId ∈ s.knownCars
  engineId : t.carEngineIds.lookup carId = s.carEngineIds.lookup carId
  target : t.carTargets.lookup carId = s.carTargets.lookup carId
  identity : t.carIdentity.lookup carId = s.carIdentity.lookup carId
  pitState : t.carPitState.lookup carId = s.carPitState.lookup carId

theorem SameAt.refl (carId : ℕ) (s : RaceRuntimeStore) : SameAt carId s s :=
  ⟨Iff.rfl, rfl, rfl, rfl, rfl⟩

theorem SameAt.trans {carId : ℕ} {s t u : RaceRuntimeStore} (hst : SameAt carId s t)
    (htu : SameAt carId t u) : SameAt carId s u :=
  ⟨htu.known.trans hst.known, htu.engineId.trans hst.engineId, htu.target.trans hst.target,
    htu.identity.trans hst.identity, htu.pitState.trans hst.pitState⟩

theorem putPitState_sameAt (s : RaceRuntimeStore) {carId other : ℕ} (hne : carId ≠ other)
    (state : RuntimePitState) : SameAt carId s (s.putPitState other state) :=
  ⟨Iff.rfl, rfl, rfl, rfl, Finmap.lookup_insert_of_ne _ hne⟩

/-- Targets and engine ids are as before or dropped. -/
structure Shrunk (s t : RaceRuntimeStore) : Prop where
  target : ∀ carId, t.carTargets.lookup carId = s.carTargets.lookup carId ∨
    t.carTargets.lookup carId = none
  engineId : ∀ carId, t.carEngineIds.lookup carId = s.carEngineIds.lookup carId ∨
    t.carEngineIds.lookup carId = none

theorem Shrunk.refl (s : RaceRuntimeStore) : Shrunk s s :=
  ⟨fun _ => Or.inl rfl, fun _ => Or.inl rfl⟩

theorem Shrunk.trans {s t u : RaceRuntimeStore} (hst : Shrunk s t) (htu : Shrunk t u) :
    Shrunk s u := by
  constructor
  · intro carId
    rcases htu.target carId with hsame | hnone
    · rw [hsame]
      exact hst.target carId
    · exact Or.inr hnone
  · intro carId
    rcases htu.engineId carId with hsame | hnone
    · rw [hsame]
      exact hst.engineId carId
    · exact Or.inr hnone

theorem putPitState_shrunk (s : RaceRuntimeStore) (carId : ℕ) (state : RuntimePitState) :
    Shrunk s (s.putPitState carId state) := ⟨fun _ => Or.inl rfl, fun _ => Or.inl rfl⟩

/-- The instances without the one that points to the car as its owner. -/
def RaceRuntimeStore.instancesWithout (s : RaceRuntimeStore) (carId : ℕ) : HashMap String ℕ :=
  match s.carOwners.lookup carId with
  | none => s.instanceCars
  | some ownerInstanceUuid =>
      if s.instanceCars.lookup ownerInstanceUuid = some carId then
        s.instanceCars.erase ownerInstanceUuid
      else s.instanceCars

theorem removeCar_eq (s : RaceRuntimeStore) (carId : ℕ) :
    s.removeCar carId =
      { s with
        knownCars := s.knownCars.erase carId
        lastClientSeq := s.lastClientSeq.erase carId
        carEngineIds := s.carEngineIds.erase carId
        carTargets := s.carTargets.erase carId
        carIdentity := s.carIdentity.erase carId
        carPitState := s.carPitState.erase carId
        carControlsInput := s.carControlsInput.erase carId
        carOwners := s.carOwners.erase carId
        instanceCars := s.instancesWithout carId } := by
  rw [RaceRuntimeStore.removeCar, RaceRuntimeStore.instancesWithout]
  cases s.carOwners.lookup carId with
  | none => rfl
  | some uuid =>
      by_cases hpoints : s.instanceCars.lookup uuid = some carId
      · simp only [hpoints, if_true]
      · simp only [hpoints, if_false]

/-- No map of the store has an entry for the car. -/
structure Swept (s : RaceRuntimeStore) (carId : ℕ) : Prop where
  known : carId ∉ s.knownCars
  target : s.carTargets.lookup carId = none
  engineId : s.carEngineIds.lookup carId = none
  identity : s.carIdentity.lookup carId = none
  pitState : s.carPitState.lookup carId = none

theorem removeCar_swept (s : RaceRuntimeStore) (carId : ℕ) : Swept (s.removeCar carId) carId := by
  rw [removeCar_eq]
  constructor <;> simp

theorem removeCar_sameAt (s : RaceRuntimeStore) {carId other : ℕ} (hne : carId ≠ other) :
    SameAt carId s (s.removeCar other) := by
  rw [removeCar_eq]
  constructor <;> simp [hne, Finmap.lookup_erase_ne]

theorem removeCar_shrunk (s : RaceRuntimeStore) (carId : ℕ) : Shrunk s (s.removeCar carId) := by
  constructor
  · intro other
    by_cases heq : other = carId
    · exact Or.inr (heq ▸ (removeCar_swept s carId).target)
    · exact Or.inl (removeCar_sameAt s heq).target
  · intro other
    by_cases heq : other = carId
    · exact Or.inr (heq ▸ (removeCar_swept s carId).engineId)
    · exact Or.inl (removeCar_sameAt s heq).engineId

theorem Swept.sameAt {s t : RaceRuntimeStore} {carId : ℕ} (h : Swept s carId)
    (hsame : SameAt carId s t) : Swept t carId :=
  ⟨fun hmem => h.known (hsame.known.mp hmem), hsame.target.trans h.target,
    hsame.engineId.trans h.engineId, hsame.identity.trans h.identity,
    hsame.pitState.trans h.pitState⟩

/-- The pit state of the car is as before or written. -/
def PitWritten (carId : ℕ) (s t : RaceRuntimeStore) : Prop :=
  t = s ∨ ∃ state, t = s.putPitState carId state

theorem PitWritten.refl {carId : ℕ} {s : RaceRuntimeStore} : PitWritten carId s s := Or.inl rfl

theorem PitWritten.put {carId : ℕ} {s t : RaceRuntimeStore} (h : PitWritten carId s t)
    (state : RuntimePitState) : PitWritten carId s (t.putPitState carId state) := by
  rcases h with rfl | ⟨before, rfl⟩
  · exact Or.inr ⟨state, rfl⟩
  · refine Or.inr ⟨state, ?_⟩
    simp [RaceRuntimeStore.putPitState, Finmap.insert_insert]

/-- The pit state of the car is written, or the car is removed. -/
def CarWritten (carId : ℕ) (s t : RaceRuntimeStore) : Prop :=
  ∃ u, PitWritten carId s u ∧ (t = u ∨ t = u.removeCar carId)

theorem CarWritten.refl {carId : ℕ} {s : RaceRuntimeStore} : CarWritten carId s s :=
  ⟨s, PitWritten.refl, Or.inl rfl⟩

theorem CarWritten.sameAt {carId other : ℕ} {s t : RaceRuntimeStore} (h : CarWritten other s t)
    (hne : carId ≠ other) : SameAt carId s t := by
  obtain ⟨u, hput, hremove⟩ := h
  have hu : SameAt carId s u := by
    rcases hput with rfl | ⟨state, rfl⟩
    · exact SameAt.refl carId _
    · exact putPitState_sameAt s hne state
  rcases hremove with rfl | rfl
  · exact hu
  · exact hu.trans (removeCar_sameAt u hne)

theorem CarWritten.shrunk {carId : ℕ} {s t : RaceRuntimeStore} (h : CarWritten carId s t) :
    Shrunk s t := by
  obtain ⟨u, hput, hremove⟩ := h
  have hu : Shrunk s u := by
    rcases hput with rfl | ⟨state, rfl⟩
    · exact Shrunk.refl _
    · exact putPitState_shrunk s carId state
  rcases hremove with rfl | rfl
  · exact hu
  · exact hu.trans (removeCar_shrunk u carId)

theorem activeCarCountsBySandbox_eq_none {s : RaceRuntimeStore} {sandboxId : String} :
    s.activeCarCountsBySandbox sandboxId = none ↔
      ∀ carId, s.carTargets.lookup carId ≠ some (.sandbox sandboxId) := by
  have hcard : s.activeCarCountsBySandbox sandboxId = none ↔ (s.carTargets.keys.filter fun carId =>
      s.carTargets.lookup carId = some (.sandbox sandboxId)).card = 0 := by
    rw [RaceRuntimeStore.activeCarCountsBySandbox]
    split <;> simp [*]
  rw [hcard, Finset.card_eq_zero, Finset.filter_eq_empty_iff]
  constructor
  · intro h carId htarget
    exact h (Finmap.mem_keys.mpr (Finmap.mem_of_lookup_eq_some htarget)) htarget
  · intro h carId _
    exact h carId

theorem mem_joinedSandboxIdsForTeam {s : RaceRuntimeStore} {teamId sandboxId : String} :
    sandboxId ∈ s.joinedSandboxIdsForTeam teamId ↔ Text.isBlank teamId = false ∧
      ∃ carId, s.carTargets.lookup carId = some (.sandbox sandboxId) ∧
        s.teamMatches teamId carId = true := by
  rw [RaceRuntimeStore.joinedSandboxIdsForTeam]
  by_cases hblank : Text.isBlank teamId = true
  · simp [hblank]
  · rw [if_neg hblank, Finset.mem_biUnion]
    refine Iff.trans ?_ (and_iff_right (by simpa using hblank)).symm
    constructor
    · rintro ⟨carId, -, hmem⟩
      split at hmem
      · rename_i target htarget
        split at hmem
        · rename_i hteam
          obtain rfl := Finset.mem_singleton.mp hmem
          exact ⟨carId, htarget, hteam⟩
        · cases hmem
      · cases hmem
    · rintro ⟨carId, htarget, hteam⟩
      refine ⟨carId, Finmap.mem_keys.mpr (Finmap.mem_of_lookup_eq_some htarget), ?_⟩
      simp [htarget, hteam]

theorem SameAt.teamMatches {s t : RaceRuntimeStore} {carId : ℕ} (h : SameAt carId s t)
    (teamId : String) : t.teamMatches teamId carId = s.teamMatches teamId carId := by
  unfold RaceRuntimeStore.teamMatches
  rw [h.identity]

theorem mem_knownCarIds {s : RaceRuntimeStore} {carId : ℕ} :
    carId ∈ s.knownCarIds ↔ carId ∈ s.knownCars := Finset.mem_sort _

theorem knownCarIds_nodup (s : RaceRuntimeStore) : s.knownCarIds.Nodup := Finset.sort_nodup _ _

end HackArena.Services
