import HackArena.Runtime.EngineState
import Mathlib.Data.List.Sort

/-!
# The engine worker

Every function returns the worker together with its answer, so that what
a failing command has already changed would show. Building an engine is
the one step that depends on files and the native library: it is an
argument of each call, and may fail in any pattern.
-/

namespace HackArena.Runtime

open Boink

variable {E : Type}

/-- What a command needs from outside the worker: the engine wrapper and
the part of `build_engine` after the map id has been validated. -/
structure EngineEnv (E : Type) where
  api : Api E
  loadEngine : String → Except EngineWorkerError E

abbrev Outcome (E R : Type) := Worker E × Except EngineWorkerError R

def invalidArgument {R : Type} (w : Worker E) (message : String) : Outcome E R :=
  (w, .error (.invalidArgument message))

def revisionMismatch {R : Type} (w : Worker E) (expectedRevision : ℕ) : Outcome E R :=
  (w, .error (.revisionMismatch expectedRevision w.state.revision))

/-- The epilogue of a successful change: bump and answer with the state. -/
def commit (w : Worker E) : Outcome E EngineRuntimeState := (w.bump, .ok w.bump.state)

def validateMapId (b : Build) (mapId : String) : Except EngineWorkerError Unit :=
  if Text.isBlank mapId then .error (.invalidArgument "map_id must be non-empty")
  else match b with
    | .official | .standalone =>
        if mapId.toList.all Text.isAsciiAlphanumeric then .ok ()
        else .error (.invalidArgument "map_id(storage_key) must be alphanumeric")
    | .local =>
        if mapId.toList.all (fun c => Text.isAsciiAlphanumeric c || c == '-' || c == '_') then
          .ok ()
        else .error (.invalidArgument "map_id contains invalid characters")

def buildEngine (b : Build) (env : EngineEnv E) (mapId : String) :
    Except EngineWorkerError E :=
  match validateMapId b mapId with
  | .error err => .error err
  | .ok () => env.loadEngine mapId

/-- A fresh world: build the engine, then give it its ghost settings. -/
def newWorld (b : Build) (env : EngineEnv E) (mapId : String) (ghost : GhostModeSettings) :
    Except EngineWorkerError (EngineWorldSlot E) :=
  match buildEngine b env mapId with
  | .error err => .error err
  | .ok engine =>
      match env.api.setGhostModeSettings ghost engine with
      | (_, .error err) => .error (.engine err)
      | (engine, .ok ()) => .ok ⟨engine, ghost⟩

def isSandboxActive (s : EngineRuntimeState) (sandboxId : String) : Bool :=
  s.activeSandboxes.any (fun entry => entry.sandboxId = sandboxId)

/-- `pending_sandbox_activations.retain(|p| p.sandbox_id != sandbox_id)`. -/
def EngineRuntimeState.dropPending (s : EngineRuntimeState) (sandboxId : String) :
    EngineRuntimeState :=
  { s with pendingSandboxActivations :=
      s.pendingSandboxActivations.filter (fun p => p.sandboxId ≠ sandboxId) }

/-! ## What each accepted command writes -/

def Worker.enterNone (w : Worker E) (mapId : String)
    (preset : EngineRuntimeTimeOfDayPreset) : Worker E :=
  { w with
    officialEngine := none
    sandboxEngines := ∅
    state := { w.state with
      activityKind := .none
      mapId := mapId
      activeSandboxes := []
      timeOfDayPreset := preset } }

def Worker.enterOfficialRace (w : Worker E) (slot : EngineWorldSlot E) (mapId : String)
    (preset : EngineRuntimeTimeOfDayPreset) : Worker E :=
  { w with
    officialEngine := some slot
    sandboxEngines := ∅
    state := { w.state with
      activityKind := .officialRace
      mapId := mapId
      activeSandboxes := []
      timeOfDayPreset := preset } }

def Worker.enterSandbox (w : Worker E) (slot : EngineWorldSlot E) (sandboxId mapId : String)
    (preset : EngineRuntimeTimeOfDayPreset) : Worker E :=
  { w with
    sandboxEngines := w.sandboxEngines.insert sandboxId slot
    state := { w.state.dropPending sandboxId with
      activeSandboxes := KeyedList.upsert EngineActiveSandboxState.sandboxId
        ⟨sandboxId, mapId, preset, none⟩ w.state.activeSandboxes
      activityKind := .sandbox
      timeOfDayPreset := preset } }

def Worker.leaveSandbox (w : Worker E) (sandboxId : String) : Worker E :=
  let s : EngineRuntimeState := { w.state.dropPending sandboxId with
    activeSandboxes :=
      w.state.activeSandboxes.eraseP (fun entry => decide (entry.sandboxId = sandboxId)) }
  let w := { w with sandboxEngines := w.sandboxEngines.erase sandboxId, state := s }
  if s.activeSandboxes = [] ∧ s.activityKind = .sandbox then
    -- the last sandbox is gone: fall back to the local race, if there is one
    match s.activeLocalRace with
    | some race =>
        { w with
          officialEngine := none
          state := { s with
            activityKind := .localRace
            mapId := race.mapId
            timeOfDayPreset := race.timeOfDayPreset } }
    | none =>
        { w with
          officialEngine := none
          state := { s with activityKind := .none, timeOfDayPreset := .unspecified } }
  else w

def Worker.enterLocalRace (w : Worker E) (slot : EngineWorldSlot E) (raceId mapId : String)
    (preset : EngineRuntimeTimeOfDayPreset) : Worker E :=
  let s : EngineRuntimeState :=
    { w.state with activeLocalRace := some ⟨raceId, mapId, preset, none⟩ }
  { w with
    localRaceEngines := w.localRaceEngines.insert raceId slot
    state :=
      if s.activeSandboxes = [] ∧ s.activityKind ≠ .officialRace then
        { s with activityKind := .localRace, mapId := mapId, timeOfDayPreset := preset }
      else s }

def Worker.leaveLocalRace (w : Worker E) (raceId : String) : Worker E :=
  let s : EngineRuntimeState := { w.state with activeLocalRace := none }
  { w with
    localRaceEngines := w.localRaceEngines.erase raceId
    state :=
      if s.activeSandboxes = [] ∧ s.activityKind = .localRace then
        { s with activityKind := .none, timeOfDayPreset := .unspecified }
      else s }

def Worker.overrideTimeOfDay (w : Worker E) (sandboxId : String)
    (preset : EngineRuntimeTimeOfDayPreset) : Worker E :=
  { w with state := { w.state with
    activeSandboxes := KeyedList.updateFirst EngineActiveSandboxState.sandboxId sandboxId
      (fun entry => { entry with timeOfDayPreset := preset }) w.state.activeSandboxes
    timeOfDayPreset := preset } }

def Worker.putPending (w : Worker E) (pending : EnginePendingSandboxActivation) : Worker E :=
  { w with state := { w.state with
    pendingSandboxActivations := KeyedList.upsert EnginePendingSandboxActivation.sandboxId
      pending w.state.pendingSandboxActivations } }

def Worker.dropPending (w : Worker E) (sandboxId : String) : Worker E :=
  { w with state := w.state.dropPending sandboxId }

/-! ## The revisioned commands -/

def switchRuntime (b : Build) (env : EngineEnv E) (w : Worker E) (expectedRevision : ℕ)
    (activityKind : EngineActivityKind) (mapId : String) (sandboxId : Option String)
    (preset : EngineRuntimeTimeOfDayPreset) (ghost : Option GhostModeSettings) :
    Outcome E EngineRuntimeState :=
  if w.state.revision ≠ expectedRevision then revisionMismatch w expectedRevision
  else match activityKind with
    | .none =>
        match validateMapId b mapId with
        | .error err => (w, .error err)
        | .ok () => commit (w.enterNone mapId preset)
    | .officialRace =>
        match validateMapId b mapId with
        | .error err => (w, .error err)
        | .ok () =>
            let current := (w.officialEngine.map (·.ghostModeSettings)).getD
              defaultGhostModeSettings
            match newWorld b env mapId (ghost.getD current) with
            | .error err => (w, .error err)
            | .ok slot => commit (w.enterOfficialRace slot mapId preset)
    | .sandbox =>
        match sandboxId with
        | none => invalidArgument w "sandbox_id is required for sandbox runtime"
        | some sandboxId =>
            if Text.isBlank sandboxId then
              invalidArgument w "sandbox_id must be non-empty for sandbox runtime"
            else if preset = .unspecified then
              invalidArgument w "time_of_day_preset must be specified for sandbox runtime"
            else match validateMapId b mapId with
              | .error err => (w, .error err)
              | .ok () =>
                  if isSandboxActive w.state sandboxId then
                    invalidArgument w "sandbox_id is already active"
                  else match newWorld b env mapId (ghost.getD defaultGhostModeSettings) with
                    | .error err => (w, .error err)
                    | .ok slot => commit (w.enterSandbox slot sandboxId mapId preset)
    | .localRace =>
        invalidArgument w "local race runtime must be activated with ActivateLocalRace"

def deactivateSandbox (w : Worker E) (expectedRevision : ℕ) (sandboxId : String) :
    Outcome E EngineRuntimeState :=
  if w.state.revision ≠ expectedRevision then revisionMismatch w expectedRevision
  else if Text.isBlank sandboxId then
    invalidArgument w "sandbox_id must be non-empty for deactivation"
  else commit (w.leaveSandbox sandboxId)

def activateLocalRace (b : Build) (env : EngineEnv E) (w : Worker E) (expectedRevision : ℕ)
    (raceId mapId : String) (preset : EngineRuntimeTimeOfDayPreset)
    (ghost : Option GhostModeSettings) : Outcome E EngineRuntimeState :=
  if w.state.revision ≠ expectedRevision then revisionMismatch w expectedRevision
  else if Text.isBlank raceId then invalidArgument w "race_id must be non-empty"
  else if w.state.activeLocalRace.isSome then
    invalidArgument w "local race is already active"
  else if preset = .unspecified then
    invalidArgument w "time_of_day_preset must be specified for local race"
  else match validateMapId b mapId with
    | .error err => (w, .error err)
    | .ok () =>
        match newWorld b env mapId (ghost.getD defaultGhostModeSettings) with
        | .error err => (w, .error err)
        | .ok slot => commit (w.enterLocalRace slot raceId mapId preset)

def deactivateLocalRace (w : Worker E) (expectedRevision : ℕ) (raceId : String) :
    Outcome E EngineRuntimeState :=
  if w.state.revision ≠ expectedRevision then revisionMismatch w expectedRevision
  else if w.state.activeLocalRace.map (·.raceId) ≠ some raceId then
    invalidArgument w "race_id does not match active local race session"
  else commit (w.leaveLocalRace raceId)

def bumpRevision (w : Worker E) (expectedRevision : ℕ) : Outcome E EngineRuntimeState :=
  if w.state.revision ≠ expectedRevision then revisionMismatch w expectedRevision
  else commit w

def setRuntimeTimeOfDay (w : Worker E) (expectedRevision : ℕ) (sandboxId : Option String)
    (preset : EngineRuntimeTimeOfDayPreset) : Outcome E EngineRuntimeState :=
  if w.state.revision ≠ expectedRevision then revisionMismatch w expectedRevision
  else if w.state.activityKind ≠ .sandbox then
    invalidArgument w "sandbox time-of-day override requires active sandbox runtime"
  else if preset = .unspecified then invalidArgument w "time-of-day preset must be specified"
  else
    let apply (target : String) : Outcome E EngineRuntimeState :=
      if isSandboxActive w.state target then commit (w.overrideTimeOfDay target preset)
      else invalidArgument w "sandbox_id does not match active sandbox session"
    match sandboxId with
    | some sandboxId =>
        if Text.isBlank sandboxId then
          invalidArgument w "sandbox_id must be non-empty when provided"
        else apply sandboxId
    | none =>
        match w.state.activeSandboxes with
        | [entry] => apply entry.sandboxId
        | _ => invalidArgument w
            "sandbox_id is required when multiple sandbox sessions are active"

/-- The checks of `set_pending_sandbox_activation` after the revision. -/
def validatePending (s : EngineRuntimeState) (pending : EnginePendingSandboxActivation) :
    Except String Unit :=
  if Text.isBlank pending.sandboxId then
    .error "sandbox_id must be non-empty for pending activation/deactivation"
  else if pending.activate then
    if isSandboxActive s pending.sandboxId then .error "sandbox_id is already active"
    else match pending.mapId with
      | none => .error "map_id must be set for scheduled activation"
      | some mapId =>
          if Text.isBlank mapId then .error "map_id must be non-empty for scheduled activation"
          else match pending.timeOfDayPreset with
            | none => .error "time_of_day_preset must be set for scheduled activation"
            | some .unspecified =>
                .error "time_of_day_preset must be specified for scheduled activation"
            | some _ =>
                if pending.ghostModeSettings.isNone then
                  .error "ghost_mode_settings must be set for scheduled activation"
                else .ok ()
  else if pending.mapId.isSome ∨ pending.timeOfDayPreset.isSome ∨
      pending.ghostModeSettings.isSome then
    .error "scheduled deactivation must not include activation payload"
  else .ok ()

def setPendingSandboxActivation (w : Worker E) (expectedRevision : ℕ)
    (pending : EnginePendingSandboxActivation) : Outcome E EngineRuntimeState :=
  if w.state.revision ≠ expectedRevision then revisionMismatch w expectedRevision
  else match validatePending w.state pending with
    | .error message => invalidArgument w message
    | .ok () => commit (w.putPending pending)

def cancelPendingSandboxActivation (w : Worker E) (expectedRevision : ℕ) (sandboxId : String) :
    Outcome E (EngineRuntimeState × Bool) :=
  if w.state.revision ≠ expectedRevision then revisionMismatch w expectedRevision
  else if Text.isBlank sandboxId then
    invalidArgument w "sandbox_id must be non-empty for pending cancellation"
  else
    let beforeLen := w.state.pendingSandboxActivations.length
    let w := w.dropPending sandboxId
    let canceled := w.state.pendingSandboxActivations.length ≠ beforeLen
    let w := if canceled then w.bump else w
    (w, .ok (w.state, canceled))

/-! ## World operations -/

/-- Run `op` on the world that `target` addresses, if the worker has it. -/
def withTargetSlotMut {R : Type} (target : EngineCommandTarget) (w : Worker E)
    (op : EngineWorldSlot E → EngineWorldSlot E × Except EngineWorkerError R) : Outcome E R :=
  match target with
  | .officialRace =>
      if w.state.activityKind ≠ .officialRace then
        invalidArgument w "official race runtime is not active"
      else match w.officialEngine with
        | none => invalidArgument w "official race runtime is not active"
        | some slot => ({ w with officialEngine := some (op slot).1 }, (op slot).2)
  | .localRace raceId =>
      if Text.isBlank raceId then invalidArgument w "race_id must be non-empty"
      else if w.state.activeLocalRace.map (·.raceId) ≠ some raceId then
        invalidArgument w "race_id does not match active local race session"
      else match w.localRaceEngines.lookup raceId with
        | none => invalidArgument w "local race runtime is not active"
        | some slot =>
            ({ w with localRaceEngines := w.localRaceEngines.insert raceId (op slot).1 },
              (op slot).2)
  | .sandbox sandboxId =>
      if Text.isBlank sandboxId then invalidArgument w "sandbox_id must be non-empty"
      else match w.sandboxEngines.lookup sandboxId with
        | none => invalidArgument w "sandbox_id does not match active sandbox session"
        | some slot =>
            ({ w with sandboxEngines := w.sandboxEngines.insert sandboxId (op slot).1 },
              (op slot).2)

/-- `slot.engine.call(..).map_err(EngineWorkerError::Engine)`. -/
def callEngine {R S : Type} (call : Call E R) (wrap : R → S) (slot : EngineWorldSlot E) :
    EngineWorldSlot E × Except EngineWorkerError S :=
  ({ slot with engine := (call slot.engine).1 },
    match (call slot.engine).2 with
    | .error err => .error (.engine err)
    | .ok value => .ok (wrap value))

/-- Spawn a vehicle; the official build then forces the default tyre and
only logs a failure to do so. -/
def spawnCarOp (b : Build) (api : Api E) (slot : EngineWorldSlot E) :
    EngineWorldSlot E × Except EngineWorkerError ℕ :=
  match callEngine api.spawnVehicle id slot with
  | (slot, .error err) => (slot, .error err)
  | (slot, .ok carId) =>
      match b with
      | .official =>
          ((callEngine (api.forceSetVehicleTyreType carId .hard) id slot).1, .ok carId)
      | .local | .standalone => (slot, .ok carId)

def setGhostModeSettingsOp (api : Api E) (settings : GhostModeSettings)
    (slot : EngineWorldSlot E) : EngineWorldSlot E × Except EngineWorkerError Unit :=
  match callEngine (api.setGhostModeSettings settings) id slot with
  | (slot, .error err) => (slot, .error err)
  | (slot, .ok ()) => ({ slot with ghostModeSettings := settings }, .ok ())

def runSlotOp (b : Build) (api : Api E) (slot : EngineWorldSlot E) :
    SlotOp → EngineWorldSlot E × Except EngineWorkerError SlotReply
  | .spawnCar => ((spawnCarOp b api slot).1, (spawnCarOp b api slot).2.map .carId)
  | .setControls carId controls =>
      callEngine (api.setControls carId controls) .acceptedControls slot
  | .readCarState carId => callEngine (api.readVehicleState carId) .vehicleState slot
  | .readCarRaceMetrics carId => callEngine (api.readVehicleRaceMetrics carId) .raceMetrics slot
  | .readCarDimensions carId =>
      callEngine (api.getVehicleDimensions carId) (fun d => .dimensions d.1 d.2) slot
  | .setCarBackToTrack carId =>
      callEngine (api.setVehicleBackToTrack carId) (fun _ => .unit) slot
  | .setCarBeforeFinishLine carId =>
      callEngine (api.setVehicleBeforeFinishLine carId) (fun _ => .unit) slot
  | .setCarRandomOnTrack carId =>
      callEngine (api.setVehicleRandomPos carId) (fun _ => .unit) slot
  | .setCarAtStartPos carId positionIndex =>
      callEngine (api.setVehicleAtStartPos carId positionIndex) (fun _ => .unit) slot
  | .setCarToPitstop carId => callEngine (api.setVehicleToPitstop carId) (fun _ => .unit) slot
  | .setCarTyreType carId tyreType =>
      callEngine (api.setVehicleTyreType carId tyreType) (fun _ => .unit) slot
  | .forceSetCarTyreType carId tyreType =>
      callEngine (api.forceSetVehicleTyreType carId tyreType) (fun _ => .unit) slot
  | .getNumberOfStartPos => callEngine api.getNumberOfStartPos .startPositions slot
  | .getTrackData => callEngine api.trackData .trackData slot
  | .getRaceDuration => callEngine api.raceDuration .raceDuration slot
  | .setGhostModeSettings settings =>
      ((setGhostModeSettingsOp api settings slot).1,
        (setGhostModeSettingsOp api settings slot).2.map (fun _ => .unit))
  | .despawnCar carId => callEngine (api.despawnVehicle carId) (fun _ => .unit) slot

/-- `SetWeather`, sent in local builds: the world first, then the sandbox's
snapshot of it. -/
def setWeather (env : EngineEnv E) (w : Worker E) (sandboxId : String)
    (weather : WeatherParams) (weatherNow : EngineRuntimeWeatherNow) : Outcome E SlotReply :=
  match withTargetSlotMut (.sandbox sandboxId) w
      (callEngine (env.api.setWeather weather) fun _ => SlotReply.unit) with
  | (w, .error err) => (w, .error err)
  | (w, .ok _) =>
      if isSandboxActive w.state sandboxId then
        ({ w with state := { w.state with
            activeSandboxes := KeyedList.updateFirst EngineActiveSandboxState.sandboxId sandboxId
              (fun entry => { entry with weatherNow := some weatherNow })
              w.state.activeSandboxes } }, .ok .unit)
      else invalidArgument w "sandbox_id does not match active sandbox session"

def asRuntime (r : Outcome E EngineRuntimeState) : Worker E × Reply := (r.1, .runtime r.2)

def asSlot (r : Outcome E SlotReply) : Worker E × Reply := (r.1, .slot r.2)

def handleCommand (b : Build) (env : EngineEnv E) (w : Worker E) :
    EngineCommand → Worker E × Reply
  | .slot target op => asSlot (withTargetSlotMut target w fun slot => runSlotOp b env.api slot op)
  | .getRuntimeState => (w, .runtime (.ok w.state))
  | .switchRuntime expectedRevision activityKind mapId sandboxId preset ghost =>
      asRuntime (switchRuntime b env w expectedRevision activityKind mapId sandboxId
        (preset.getD w.state.timeOfDayPreset) ghost)
  | .setRuntimeTimeOfDay expectedRevision sandboxId preset =>
      asRuntime (setRuntimeTimeOfDay w expectedRevision sandboxId preset)
  | .setPendingSandboxActivation expectedRevision pending =>
      asRuntime (setPendingSandboxActivation w expectedRevision pending)
  | .cancelPendingSandboxActivation expectedRevision sandboxId =>
      let r := cancelPendingSandboxActivation w expectedRevision sandboxId
      (r.1, .canceled r.2)
  | .deactivateSandbox expectedRevision sandboxId =>
      asRuntime (deactivateSandbox w expectedRevision sandboxId)
  | .activateLocalRace expectedRevision raceId mapId preset ghost =>
      asRuntime (activateLocalRace b env w expectedRevision raceId mapId preset ghost)
  | .deactivateLocalRace expectedRevision raceId =>
      asRuntime (deactivateLocalRace w expectedRevision raceId)
  | .bumpRevision expectedRevision => asRuntime (bumpRevision w expectedRevision)
  | .setWeather sandboxId weather weatherNow =>
      asSlot (setWeather env w sandboxId weather weatherNow)

/-! ## Due pending activations -/

/-- The branch one due entry takes, named after its log line or error. -/
inductive DueOutcome where
  | skippedAlreadyActive (sandboxId : String)
  | missing (message : String)
  | failed (err : EngineWorkerError)
  | activated (sandboxId : String)
  | deactivated (sandboxId : String)
  deriving DecidableEq, Repr

/-- The error with which `?` leaves the pass at this entry. -/
def DueOutcome.error? : DueOutcome → Option EngineWorkerError
  | .missing message => some (.invalidArgument message)
  | .failed err => some err
  | .skippedAlreadyActive _ | .activated _ | .deactivated _ => none

def executeDueEntry (b : Build) (env : EngineEnv E) (w : Worker E)
    (pending : EnginePendingSandboxActivation) : Worker E × DueOutcome :=
  if pending.activate then
    if isSandboxActive w.state pending.sandboxId then
      (w.dropPending pending.sandboxId, .skippedAlreadyActive pending.sandboxId)
    else match pending.mapId, pending.timeOfDayPreset, pending.ghostModeSettings with
      | none, _, _ => (w, .missing "scheduled activation is missing map_id")
      | some _, none, _ => (w, .missing "scheduled activation is missing time_of_day_preset")
      | some _, some _, none =>
          (w, .missing "scheduled activation is missing ghost_mode_settings")
      | some mapId, some preset, some ghost =>
          match switchRuntime b env w w.state.revision .sandbox mapId (some pending.sandboxId)
              preset (some ghost) with
          | (w, .error err) => (w, .failed err)
          | (w, .ok _) => (w.dropPending pending.sandboxId, .activated pending.sandboxId)
  else match deactivateSandbox w w.state.revision pending.sandboxId with
    | (w, .error err) => (w, .failed err)
    | (w, .ok _) => (w.dropPending pending.sandboxId, .deactivated pending.sandboxId)

/-- The loop over the due entries, which are copies taken before it. -/
def executeDue (b : Build) (envs : ℕ → EngineEnv E) (w : Worker E) :
    List EnginePendingSandboxActivation → Worker E × List DueOutcome
  | [] => (w, [])
  | pending :: rest =>
      let r := executeDueEntry b (envs 0) w pending
      match r.2.error? with
      | some _ => (r.1, [r.2])
      | none =>
          let t := executeDue b (fun k => envs (k + 1)) r.1 rest
          (t.1, r.2 :: t.2)

def duePending (w : Worker E) (nowUnixMs : ℤ) : List EnginePendingSandboxActivation :=
  (w.state.pendingSandboxActivations.filter
    (fun entry => decide (entry.executeAtUnixMs ≤ nowUnixMs))).insertionSort
      (fun p q => p.executeAtUnixMs ≤ q.executeAtUnixMs)

def maybeExecuteDuePendingSandboxActivation (b : Build) (envs : ℕ → EngineEnv E)
    (nowUnixMs : ℤ) (w : Worker E) : Worker E × List DueOutcome :=
  executeDue b envs w (duePending w nowUnixMs)

/-! ## The worker loop -/

/-- One world advances by its own clock: the official world from the
worker's tick arms, every other world from its sandbox loop. -/
def simulateWorld (w : Worker E) (f : E → E) : EngineCommandTarget → Worker E
  | .officialRace =>
      if w.state.activityKind = .officialRace then
        { w with officialEngine := w.officialEngine.map fun s => { s with engine := f s.engine } }
      else w
  | .localRace raceId =>
      match w.localRaceEngines.lookup raceId with
      | none => w
      | some s => { w with localRaceEngines :=
          w.localRaceEngines.insert raceId { s with engine := f s.engine } }
  | .sandbox sandboxId =>
      match w.sandboxEngines.lookup sandboxId with
      | none => w
      | some s => { w with sandboxEngines :=
          w.sandboxEngines.insert sandboxId { s with engine := f s.engine } }

/-- The atomic steps of the worker and of the world loops. -/
inductive WorkerEvent (E : Type) where
  | command (env : EngineEnv E) (cmd : EngineCommand)
  | duePass (envs : ℕ → EngineEnv E) (nowUnixMs : ℤ)
  | simulate (target : EngineCommandTarget) (f : E → E)

def stepEvent (b : Build) (w : Worker E) : WorkerEvent E → Worker E
  | .command env cmd => (handleCommand b env w cmd).1
  | .duePass envs nowUnixMs => (maybeExecuteDuePendingSandboxActivation b envs nowUnixMs w).1
  | .simulate target f => simulateWorld w f target

/-- The arms of the `select!` in `run_worker`. A simulation tick and a
received command both end with a pass over the due entries. -/
inductive LoopArm (E : Type) where
  | tick (f : E → E) (envs : ℕ → EngineEnv E) (nowUnixMs : ℤ)
  | weatherTick (f : E → E)
  | received (env : EngineEnv E) (cmd : EngineCommand) (envs : ℕ → EngineEnv E) (nowUnixMs : ℤ)

def LoopArm.events : LoopArm E → List (WorkerEvent E)
  | .tick f envs nowUnixMs => [.simulate .officialRace f, .duePass envs nowUnixMs]
  | .weatherTick f => [.simulate .officialRace f]
  | .received env cmd envs nowUnixMs => [.command env cmd, .duePass envs nowUnixMs]

/-- The worker after its loop has taken the given arms. -/
def runWorker (b : Build) (arms : List (LoopArm E)) : Worker E :=
  (arms.flatMap LoopArm.events).foldl (stepEvent b) (Worker.initial E)

end HackArena.Runtime
