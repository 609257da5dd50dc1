import HackArena.Runtime.ActiveSandboxes
import HackArena.Runtime.EngineClient

/-!
# The maps of the worlds

An engine keeps the map that it was loaded with. The worker is run with
engines that remember this map, and the runtime state shows it for every
world that a command can reach.
-/

namespace HackArena.Runtime

open Boink

variable {E : Type}

/-! ## Engines that remember their map -/

/-- An engine and the map that it was built from. -/
structure Loaded (E : Type) where
  engine : E
  mapId : String
  deriving DecidableEq

namespace Loaded

def lift {R : Type} (f : Call E R) : Call (Loaded E) R := fun e =>
  (⟨(f e.engine).1, e.mapId⟩, (f e.engine).2)

def simulate (f : E → E) (e : Loaded E) : Loaded E := ⟨f e.engine, e.mapId⟩

def api (a : Api E) : Api (Loaded E) where
  step := simulate a.step
  spawnVehicle := lift a.spawnVehicle
  despawnVehicle := fun carId => lift (a.despawnVehicle carId)
  setControls := fun carId controls => lift (a.setControls carId controls)
  readVehicleState := fun carId => lift (a.readVehicleState carId)
  readVehicleRaceMetrics := fun carId => lift (a.readVehicleRaceMetrics carId)
  getVehicleDimensions := fun carId => lift (a.getVehicleDimensions carId)
  setVehicleBackToTrack := fun carId => lift (a.setVehicleBackToTrack carId)
  setVehicleBeforeFinishLine := fun carId => lift (a.setVehicleBeforeFinishLine carId)
  setVehicleRandomPos := fun carId => lift (a.setVehicleRandomPos carId)
  setVehicleAtStartPos := fun carId index => lift (a.setVehicleAtStartPos carId index)
  setVehicleToPitstop := fun carId => lift (a.setVehicleToPitstop carId)
  setVehicleTyreType := fun carId tyreType => lift (a.setVehicleTyreType carId tyreType)
  forceSetVehicleTyreType := fun carId tyreType => lift (a.forceSetVehicleTyreType carId tyreType)
  getNumberOfStartPos := lift a.getNumberOfStartPos
  trackData := lift a.trackData
  raceDuration := lift a.raceDuration
  setGhostModeSettings := fun settings => lift (a.setGhostModeSettings settings)
  setWeather := fun weather => lift (a.setWeather weather)

def env (e : EngineEnv E) : EngineEnv (Loaded E) where
  api := api e.api
  loadEngine := fun mapId => (e.loadEngine mapId).map fun engine => ⟨engine, mapId⟩

def event : WorkerEvent E → WorkerEvent (Loaded E)
  | .command e cmd => .command (env e) cmd
  | .duePass envs nowUnixMs => .duePass (fun k => env (envs k)) nowUnixMs
  | .simulate target f => .simulate target (simulate f)

end Loaded

theorem newWorld_mapId {b : Build} {env : EngineEnv E} {mapId : String}
    {ghost : GhostModeSettings} {slot : EngineWorldSlot (Loaded E)}
    (h : newWorld b (Loaded.env env) mapId ghost = .ok slot) : slot.engine.mapId = mapId := by
  unfold newWorld buildEngine at h
  cases hvalid : validateMapId b mapId with
  | error err => simp [hvalid] at h
  | ok u =>
      cases hload : env.loadEngine mapId with
      | error err => simp [hvalid, Loaded.env, hload, Except.map] at h
      | ok engine =>
          cases hghost : (env.api.setGhostModeSettings ghost engine).2 with
          | error err =>
              simp [hvalid, Loaded.env, hload, Except.map, Loaded.api, Loaded.lift, hghost] at h
          | ok u =>
              simp [hvalid, Loaded.env, hload, Except.map, Loaded.api, Loaded.lift, hghost] at h
              rw [← h]

/-! ## What is loaded and what is shown -/

/-- The world that a command for the target reaches. -/
def Worker.world? (w : Worker E) : EngineCommandTarget → Option (EngineWorldSlot E)
  | .officialRace => if w.state.activityKind = .officialRace then w.officialEngine else none
  | .localRace raceId => w.localRaceEngines.lookup raceId
  | .sandbox sandboxId => w.sandboxEngines.lookup sandboxId

/-- The map that the state shows for the world of a target. -/
def EngineRuntimeState.map? (s : EngineRuntimeState) : EngineCommandTarget → Option String
  | .officialRace => if s.activityKind = .officialRace then some s.mapId else none
  | .localRace raceId => (s.activeLocalRace.filter fun race => race.raceId = raceId).map (·.mapId)
  | .sandbox sandboxId => (s.activeSandbox? sandboxId).map (·.mapId)

def Worker.loadedMap? (w : Worker (Loaded E)) (target : EngineCommandTarget) : Option String :=
  (w.world? target).map (·.engine.mapId)

/-- Every world that can be reached is shown with the map it was built from. -/
def MapsShown (w : Worker (Loaded E)) : Prop :=
  ∀ target mapId, w.loadedMap? target = some mapId → w.state.map? target = some mapId

theorem mapsShown_initial : MapsShown (Worker.initial (Loaded E)) := by
  intro target mapId h
  cases target with
  | officialRace => cases h
  | localRace raceId => cases h
  | sandbox sandboxId => cases h

theorem MapsShown.congr {w w' : Worker (Loaded E)} (h : MapsShown w)
    (hloaded : ∀ target, w'.loadedMap? target = w.loadedMap? target)
    (hshown : ∀ target, w'.state.map? target = w.state.map? target) : MapsShown w' := by
  intro target mapId hmap
  rw [hshown]
  exact h target mapId (by rwa [← hloaded])

/-! ## World operations -/

/-- An operation on a world that leaves its map alone. -/
def KeepsMap {R : Type} (op : EngineWorldSlot (Loaded E) →
    EngineWorldSlot (Loaded E) × Except EngineWorkerError R) : Prop :=
  ∀ slot, (op slot).1.engine.mapId = slot.engine.mapId

theorem keepsMap_callEngine {R S : Type} (call : Call E R) (wrap : R → S) :
    KeepsMap (callEngine (Loaded.lift call) wrap) := fun _ => rfl

theorem keepsMap_runSlotOp (b : Build) (a : Api E) (op : SlotOp) :
    KeepsMap fun slot => runSlotOp b (Loaded.api a) slot op := by
  intro slot
  cases op with
  | spawnCar =>
      change (spawnCarOp b (Loaded.api a) slot).1.engine.mapId = _
      unfold spawnCarOp callEngine
      cases h : (a.spawnVehicle slot.engine.engine).2 with
      | error err => simp [Loaded.api, Loaded.lift, h]
      | ok carId => cases b <;> simp [Loaded.api, Loaded.lift, h]
  | setGhostModeSettings settings =>
      change (setGhostModeSettingsOp (Loaded.api a) settings slot).1.engine.mapId = _
      unfold setGhostModeSettingsOp callEngine
      cases h : (a.setGhostModeSettings settings slot.engine.engine).2 with
      | error err => simp [Loaded.api, Loaded.lift, h]
      | ok u => simp [Loaded.api, Loaded.lift, h]
  | _ => rfl

theorem lookup_insert_map {slots : HashMap String (EngineWorldSlot (Loaded E))} {key : String}
    {slot : EngineWorldSlot (Loaded E)} (hslot : slots.lookup key = some slot)
    {slot' : EngineWorldSlot (Loaded E)} (hsame : slot'.engine.mapId = slot.engine.mapId)
    (key' : String) :
    ((slots.insert key slot').lookup key').map (·.engine.mapId) =
      (slots.lookup key').map (·.engine.mapId) := by
  by_cases hkey : key' = key
  · subst hkey
    rw [Finmap.lookup_insert, hslot, Option.map_some, Option.map_some, hsame]
  · rw [Finmap.lookup_insert_of_ne _ hkey]

/-- Another world in the place of one that is loaded with the same map. -/
theorem loadedMap?_withTargetSlotMut {R : Type} (target : EngineCommandTarget)
    (w : Worker (Loaded E)) {op : EngineWorldSlot (Loaded E) →
      EngineWorldSlot (Loaded E) × Except EngineWorkerError R} (hop : KeepsMap op)
    (target' : EngineCommandTarget) :
    (withTargetSlotMut target w op).1.loadedMap? target' = w.loadedMap? target' := by
  cases target with
  | officialRace =>
      unfold withTargetSlotMut
      dsimp only
      split
      · rfl
      · cases hofficial : w.officialEngine with
        | none => rfl
        | some slot =>
            cases target' with
            | officialRace =>
                unfold Worker.loadedMap? Worker.world?
                dsimp only
                rw [hofficial]
                split
                · exact congrArg some (hop slot)
                · rfl
            | localRace raceId => rfl
            | sandbox sandboxId => rfl
  | localRace raceId =>
      unfold withTargetSlotMut
      dsimp only
      split
      · rfl
      · split
        · rfl
        · cases hslot : w.localRaceEngines.lookup raceId with
          | none => rfl
          | some slot =>
              cases target' with
              | localRace raceId' => exact lookup_insert_map hslot (hop slot) raceId'
              | officialRace => rfl
              | sandbox sandboxId => rfl
  | sandbox sandboxId =>
      unfold withTargetSlotMut
      dsimp only
      split
      · rfl
      · cases hslot : w.sandboxEngines.lookup sandboxId with
        | none => rfl
        | some slot =>
            cases target' with
            | sandbox sandboxId' => exact lookup_insert_map hslot (hop slot) sandboxId'
            | officialRace => rfl
            | localRace raceId => rfl

theorem MapsShown.withTargetSlotMut {R : Type} {w : Worker (Loaded E)} (h : MapsShown w)
    (target : EngineCommandTarget) {op : EngineWorldSlot (Loaded E) →
      EngineWorldSlot (Loaded E) × Except EngineWorkerError R} (hop : KeepsMap op) :
    MapsShown (withTargetSlotMut target w op).1 := by
  refine h.congr (loadedMap?_withTargetSlotMut target w hop) fun target' => ?_
  rw [(withTargetSlotMut_worldTouch target w op).state]

theorem MapsShown.simulateWorld {w : Worker (Loaded E)} (h : MapsShown w) (f : E → E)
    (target : EngineCommandTarget) :
    MapsShown (simulateWorld w (Loaded.simulate f) target) := by
  refine h.congr (fun target' => ?_) fun target' => ?_
  · cases target with
    | officialRace =>
        unfold Runtime.simulateWorld
        dsimp only
        split
        · cases target' with
          | officialRace =>
              unfold Worker.loadedMap? Worker.world?
              dsimp only
              cases w.officialEngine with
              | none => rfl
              | some slot => split <;> rfl
          | localRace raceId => rfl
          | sandbox sandboxId => rfl
        · rfl
    | localRace raceId =>
        unfold Runtime.simulateWorld
        dsimp only
        cases hslot : w.localRaceEngines.lookup raceId with
        | none => rfl
        | some slot =>
            cases target' with
            | localRace raceId' =>
                apply lookup_insert_map hslot
                rfl
            | officialRace => rfl
            | sandbox sandboxId => rfl
    | sandbox sandboxId =>
        unfold Runtime.simulateWorld
        dsimp only
        cases hslot : w.sandboxEngines.lookup sandboxId with
        | none => rfl
        | some slot =>
            cases target' with
            | sandbox sandboxId' =>
                apply lookup_insert_map hslot
                rfl
            | officialRace => rfl
            | localRace raceId => rfl
  · rw [(simulateWorld_worldTouch w (Loaded.simulate f) target).state]

/-! ## The updates -/

section Updates

variable {w : Worker (Loaded E)}

/-- Only the kind, the map, the local race and the maps of the sandboxes are
looked at. -/
theorem MapsShown.sameWorlds {w' : Worker (Loaded E)} (h : MapsShown w)
    (hofficial : w'.officialEngine = w.officialEngine)
    (hlocal : w'.localRaceEngines = w.localRaceEngines)
    (hsandbox : w'.sandboxEngines = w.sandboxEngines)
    (hkind : w'.state.activityKind = w.state.activityKind)
    (hmap : w'.state.mapId = w.state.mapId)
    (hrace : w'.state.activeLocalRace = w.state.activeLocalRace)
    (hactive : ∀ sandboxId, w'.state.map? (.sandbox sandboxId) =
      w.state.map? (.sandbox sandboxId)) : MapsShown w' := by
  refine h.congr (fun target => ?_) fun target => ?_
  · cases target <;>
      simp only [Worker.loadedMap?, Worker.world?, hofficial, hlocal, hsandbox, hkind]
  · cases target with
    | officialRace => simp only [EngineRuntimeState.map?, hkind, hmap]
    | localRace raceId => simp only [EngineRuntimeState.map?, hrace]
    | sandbox sandboxId => exact hactive sandboxId

theorem MapsShown.bump (h : MapsShown w) : MapsShown w.bump :=
  h.sameWorlds rfl rfl rfl rfl rfl rfl fun _ => rfl

theorem MapsShown.dropPending (h : MapsShown w) (sandboxId : String) :
    MapsShown (w.dropPending sandboxId) :=
  h.sameWorlds rfl rfl rfl rfl rfl rfl fun _ => rfl

theorem MapsShown.putPending (h : MapsShown w) (p : EnginePendingSandboxActivation) :
    MapsShown (w.putPending p) :=
  h.sameWorlds rfl rfl rfl rfl rfl rfl fun _ => rfl

theorem MapsShown.overrideTimeOfDay (h : MapsShown w) (sandboxId : String)
    (preset : EngineRuntimeTimeOfDayPreset) : MapsShown (w.overrideTimeOfDay sandboxId preset) := by
  refine h.sameWorlds rfl rfl rfl rfl rfl rfl fun j => ?_
  unfold EngineRuntimeState.map?
  dsimp only
  rw [overrideTimeOfDay_activeSandbox?]
  split
  · rw [Option.map_map]
    rfl
  · rfl

theorem MapsShown.showWeather (h : MapsShown w) (sandboxId : String)
    (weatherNow : EngineRuntimeWeatherNow) :
    MapsShown { w with state := w.state.showWeather sandboxId weatherNow } := by
  refine h.sameWorlds rfl rfl rfl rfl rfl rfl fun j => ?_
  unfold EngineRuntimeState.map?
  dsimp only
  rw [showWeather_activeSandbox?]
  split
  · rw [Option.map_map]
    rfl
  · rfl

theorem MapsShown.enterNone (h : MapsShown w) (mapId : String)
    (preset : EngineRuntimeTimeOfDayPreset) : MapsShown (w.enterNone mapId preset) := by
  intro target shown hloaded
  cases target with
  | officialRace => cases hloaded
  | localRace raceId => exact h (.localRace raceId) shown hloaded
  | sandbox sandboxId => cases hloaded

theorem MapsShown.enterOfficialRace (h : MapsShown w) {slot : EngineWorldSlot (Loaded E)}
    {mapId : String} (hslot : slot.engine.mapId = mapId) (preset : EngineRuntimeTimeOfDayPreset) :
    MapsShown (w.enterOfficialRace slot mapId preset) := by
  intro target shown hloaded
  cases target with
  | officialRace =>
      obtain rfl : slot.engine.mapId = shown := Option.some.inj hloaded
      rw [hslot]
      rfl
  | localRace raceId => exact h (.localRace raceId) shown hloaded
  | sandbox sandboxId => cases hloaded

theorem MapsShown.enterSandbox (h : MapsShown w) {slot : EngineWorldSlot (Loaded E)}
    {sandboxId mapId : String} (hslot : slot.engine.mapId = mapId)
    (preset : EngineRuntimeTimeOfDayPreset)
    (hinactive : isSandboxActive w.state sandboxId = false) :
    MapsShown (w.enterSandbox slot sandboxId mapId preset) := by
  intro target shown hloaded
  cases target with
  | officialRace => cases hloaded
  | localRace raceId => exact h (.localRace raceId) shown hloaded
  | sandbox j =>
      unfold EngineRuntimeState.map?
      dsimp only
      rw [enterSandbox_activeSandbox? hinactive]
      unfold Worker.loadedMap? Worker.world? Worker.enterSandbox at hloaded
      dsimp only at hloaded
      by_cases hj : j = sandboxId
      · subst hj
        rw [Finmap.lookup_insert, Option.map_some, Option.some.injEq] at hloaded
        rw [if_pos rfl, ← hloaded, hslot]
        rfl
      · rw [Finmap.lookup_insert_of_ne _ hj] at hloaded
        rw [if_neg hj]
        exact h (.sandbox j) shown hloaded

/-- The official race stays on its map, or it is not the official race that
runs any more. -/
def OfficialKept (w w' : Worker E) : Prop :=
  w'.state.activityKind ≠ .officialRace ∨ w'.state.activityKind = w.state.activityKind ∧
    w'.state.mapId = w.state.mapId ∧ w'.officialEngine = w.officialEngine

theorem leaveSandbox_officialKept (w : Worker E) (sandboxId : String) :
    OfficialKept w (w.leaveSandbox sandboxId) := by
  rw [Worker.leaveSandbox]
  dsimp only
  split
  · split <;> exact Or.inl fun h => by cases h
  · exact Or.inr ⟨rfl, rfl, rfl⟩

theorem enterLocalRace_officialKept (w : Worker E) (slot : EngineWorldSlot E)
    (raceId mapId : String) (preset : EngineRuntimeTimeOfDayPreset) :
    OfficialKept w (w.enterLocalRace slot raceId mapId preset) := by
  rw [Worker.enterLocalRace]
  dsimp only
  split
  · exact Or.inl fun h => by cases h
  · exact Or.inr ⟨rfl, rfl, rfl⟩

theorem leaveLocalRace_officialKept (w : Worker E) (raceId : String) :
    OfficialKept w (w.leaveLocalRace raceId) := by
  rw [Worker.leaveLocalRace]
  dsimp only
  split
  · exact Or.inl fun h => by cases h
  · exact Or.inr ⟨rfl, rfl, rfl⟩

theorem MapsShown.official {w' : Worker (Loaded E)} (h : MapsShown w) (hkept : OfficialKept w w')
    {shown : String} (hloaded : w'.loadedMap? .officialRace = some shown) :
    w'.state.map? .officialRace = some shown := by
  rcases hkept with hother | ⟨hkind, hmap, hofficial⟩
  · simp [Worker.loadedMap?, Worker.world?, hother] at hloaded
  · simp only [Worker.loadedMap?, Worker.world?, hkind, hofficial] at hloaded
    simp only [EngineRuntimeState.map?, hkind, hmap]
    exact h .officialRace shown hloaded

theorem MapsShown.leaveSandbox (h : MapsShown w) (hc : Consistent w) (sandboxId : String) :
    MapsShown (w.leaveSandbox sandboxId) := by
  obtain ⟨hsandboxes, hlocals, hrace⟩ := leaveSandbox_engines w sandboxId
  intro target shown hloaded
  cases target with
  | officialRace => exact h.official (leaveSandbox_officialKept w sandboxId) hloaded
  | localRace raceId =>
      simp only [Worker.loadedMap?, Worker.world?, hlocals] at hloaded
      simp only [EngineRuntimeState.map?, hrace]
      exact h (.localRace raceId) shown hloaded
  | sandbox j =>
      simp only [Worker.loadedMap?, Worker.world?, hsandboxes] at hloaded
      simp only [EngineRuntimeState.map?, leaveSandbox_activeSandbox? hc.distinct]
      by_cases hj : j = sandboxId
      · subst hj
        rw [Finmap.lookup_erase] at hloaded
        cases hloaded
      · rw [Finmap.lookup_erase_ne hj] at hloaded
        rw [if_neg hj]
        exact h (.sandbox j) shown hloaded

theorem MapsShown.enterLocalRace (h : MapsShown w) (hc : Consistent w)
    (hidle : w.state.activeLocalRace = none) {slot : EngineWorldSlot (Loaded E)} {mapId : String}
    (hslot : slot.engine.mapId = mapId) (raceId : String) (preset : EngineRuntimeTimeOfDayPreset) :
    MapsShown (w.enterLocalRace slot raceId mapId preset) := by
  intro target shown hloaded
  cases target with
  | officialRace =>
      exact h.official (enterLocalRace_officialKept w slot raceId mapId preset) hloaded
  | localRace raceId' =>
      have hempty : w.localRaceEngines = ∅ := by
        rw [← HashMap.keys_eq_empty, hc.localRace, hidle]
        rfl
      simp only [EngineRuntimeState.map?, enterLocalRace_activeLocalRace]
      unfold Worker.loadedMap? Worker.world? Worker.enterLocalRace at hloaded
      dsimp only at hloaded
      by_cases hid : raceId' = raceId
      · subst hid
        rw [Finmap.lookup_insert, Option.map_some, Option.some.injEq] at hloaded
        rw [← hloaded, hslot]
        simp
      · rw [Finmap.lookup_insert_of_ne _ hid, hempty] at hloaded
        cases hloaded
  | sandbox j =>
      simp only [EngineRuntimeState.map?, enterLocalRace_activeSandbox?]
      exact h (.sandbox j) shown hloaded

theorem MapsShown.leaveLocalRace (h : MapsShown w) (hc : Consistent w) {raceId : String}
    (hactive : w.state.activeLocalRace.map (·.raceId) = some raceId) :
    MapsShown (w.leaveLocalRace raceId) := by
  intro target shown hloaded
  cases target with
  | officialRace => exact h.official (leaveLocalRace_officialKept w raceId) hloaded
  | localRace raceId' =>
      have hempty : (w.leaveLocalRace raceId).localRaceEngines = ∅ := by
        rw [← HashMap.keys_eq_empty, (hc.leaveLocalRace hactive).localRace,
          leaveLocalRace_activeLocalRace]
        rfl
      simp only [Worker.loadedMap?, Worker.world?, hempty, Finmap.lookup_empty] at hloaded
      cases hloaded
  | sandbox j =>
      simp only [EngineRuntimeState.map?, leaveLocalRace_activeSandbox?]
      exact h (.sandbox j) shown hloaded

end Updates

/-! ## Whole runs -/

section Runs

variable {w : Worker (Loaded E)} (b : Build) (env : EngineEnv E)

theorem MapsShown.setWeather (h : MapsShown w) (sandboxId : String) (weather : WeatherParams)
    (weatherNow : EngineRuntimeWeatherNow) :
    MapsShown (setWeather (Loaded.env env) w sandboxId weather weatherNow).1 := by
  rw [Runtime.setWeather]
  have hworld : MapsShown (Runtime.withTargetSlotMut (.sandbox sandboxId) w
      (callEngine ((Loaded.env env).api.setWeather weather) fun _ => SlotReply.unit)).1 :=
    h.withTargetSlotMut (.sandbox sandboxId) (keepsMap_callEngine (env.api.setWeather weather) _)
  generalize Runtime.withTargetSlotMut (.sandbox sandboxId) w
    (callEngine ((Loaded.env env).api.setWeather weather) fun _ => SlotReply.unit) = r at hworld
  obtain ⟨w', result⟩ := r
  cases result with
  | error err => exact hworld
  | ok reply =>
      dsimp only
      split
      · exact hworld.showWeather sandboxId weatherNow
      · exact hworld

theorem MapsShown.switchRuntime (h : MapsShown w) (rev : ℕ) (kind : EngineActivityKind)
    (mapId : String) (sandboxId : Option String) (preset : EngineRuntimeTimeOfDayPreset)
    (ghost : Option GhostModeSettings) :
    MapsShown (switchRuntime b (Loaded.env env) w rev kind mapId sandboxId preset ghost).1 := by
  unfold Runtime.switchRuntime
  split
  · exact h
  · cases kind with
    | none =>
        dsimp only
        split
        · exact h
        · exact (h.enterNone mapId preset).bump
    | officialRace =>
        dsimp only
        split
        · exact h
        · split
          · exact h
          · rename_i slot hbuilt
            exact (h.enterOfficialRace (newWorld_mapId hbuilt) preset).bump
    | sandbox =>
        cases sandboxId with
        | none => exact h
        | some sandboxId =>
            dsimp only
            split
            · exact h
            · split
              · exact h
              · split
                · exact h
                · split
                  · exact h
                  · rename_i hactive
                    split
                    · exact h
                    · rename_i slot hbuilt
                      rw [Bool.not_eq_true] at hactive
                      exact (h.enterSandbox (newWorld_mapId hbuilt) preset hactive).bump
    | localRace => exact h

theorem MapsShown.activateLocalRace (h : MapsShown w) (hc : Consistent w) (rev : ℕ)
    (raceId mapId : String) (preset : EngineRuntimeTimeOfDayPreset)
    (ghost : Option GhostModeSettings) :
    MapsShown (activateLocalRace b (Loaded.env env) w rev raceId mapId preset ghost).1 := by
  unfold Runtime.activateLocalRace
  split
  · exact h
  · split
    · exact h
    · split
      · exact h
      · rename_i hidle
        split
        · exact h
        · split
          · exact h
          · split
            · exact h
            · rename_i slot hbuilt
              exact (h.enterLocalRace hc (by simpa using hidle) (newWorld_mapId hbuilt) raceId
                preset).bump

theorem MapsShown.deactivateSandbox (h : MapsShown w) (hc : Consistent w) (rev : ℕ)
    (sandboxId : String) : MapsShown (deactivateSandbox w rev sandboxId).1 := by
  rcases (deactivateSandbox_leaves w sandboxId rev).fst with hsame | hleft
  · rwa [hsame]
  · rw [hleft]
    exact (h.leaveSandbox hc sandboxId).bump

theorem MapsShown.deactivateLocalRace (h : MapsShown w) (hc : Consistent w) (rev : ℕ)
    (raceId : String) : MapsShown (deactivateLocalRace w rev raceId).1 := by
  rcases (deactivateLocalRace_leaves w rev raceId).fst with hsame | ⟨hactive, hleft⟩
  · rwa [hsame]
  · rw [hleft]
    exact (h.leaveLocalRace hc hactive).bump

theorem MapsShown.setRuntimeTimeOfDay (h : MapsShown w) (rev : ℕ) (sandboxId : Option String)
    (preset : EngineRuntimeTimeOfDayPreset) :
    MapsShown (setRuntimeTimeOfDay w rev sandboxId preset).1 := by
  have happly (target : String) : MapsShown
      (if isSandboxActive w.state target then commit (w.overrideTimeOfDay target preset)
        else invalidArgument w "sandbox_id does not match active sandbox session").1 := by
    split
    · exact (h.overrideTimeOfDay target preset).bump
    · exact h
  unfold Runtime.setRuntimeTimeOfDay
  split
  · exact h
  · split
    · exact h
    · split
      · exact h
      · cases sandboxId with
        | some sandboxId =>
            dsimp only
            split
            · exact h
            · exact happly sandboxId
        | none =>
            dsimp only
            split
            · exact happly _
            · exact h

theorem MapsShown.setPendingSandboxActivation (h : MapsShown w) (rev : ℕ)
    (p : EnginePendingSandboxActivation) : MapsShown (setPendingSandboxActivation w rev p).1 := by
  unfold Runtime.setPendingSandboxActivation
  split
  · exact h
  · split
    · exact h
    · exact (h.putPending p).bump

theorem MapsShown.cancelPendingSandboxActivation (h : MapsShown w) (rev : ℕ)
    (sandboxId : String) : MapsShown (cancelPendingSandboxActivation w rev sandboxId).1 := by
  unfold Runtime.cancelPendingSandboxActivation
  split
  · exact h
  · split
    · exact h
    · dsimp only
      split
      · exact (h.dropPending sandboxId).bump
      · exact h.dropPending sandboxId

theorem MapsShown.handleCommand (h : MapsShown w) (hc : Consistent w) (cmd : EngineCommand) :
    MapsShown (handleCommand b (Loaded.env env) w cmd).1 := by
  cases cmd with
  | slot target op => exact h.withTargetSlotMut target (keepsMap_runSlotOp b env.api op)
  | getRuntimeState => exact h
  | switchRuntime rev kind mapId sandboxId preset ghost =>
      exact h.switchRuntime b env rev kind mapId sandboxId _ ghost
  | setRuntimeTimeOfDay rev sandboxId preset => exact h.setRuntimeTimeOfDay rev sandboxId preset
  | setPendingSandboxActivation rev p => exact h.setPendingSandboxActivation rev p
  | cancelPendingSandboxActivation rev sandboxId =>
      exact h.cancelPendingSandboxActivation rev sandboxId
  | deactivateSandbox rev sandboxId => exact h.deactivateSandbox hc rev sandboxId
  | activateLocalRace rev raceId mapId preset ghost =>
      exact h.activateLocalRace b env hc rev raceId mapId preset ghost
  | deactivateLocalRace rev raceId => exact h.deactivateLocalRace hc rev raceId
  | bumpRevision rev =>
      change MapsShown (bumpRevision w rev).1
      unfold bumpRevision
      split
      · exact h
      · exact h.bump
  | setWeather sandboxId weather weatherNow => exact h.setWeather env sandboxId weather weatherNow

theorem MapsShown.executeDueEntry (h : MapsShown w) (hc : Consistent w)
    (p : EnginePendingSandboxActivation) :
    MapsShown (executeDueEntry b (Loaded.env env) w p).1 := by
  unfold Runtime.executeDueEntry
  split
  · split
    · exact h.dropPending p.sandboxId
    · split
      · exact h
      · exact h
      · exact h
      · rename_i mapId preset ghost _ _ _
        have hswitched := h.switchRuntime b env w.state.revision .sandbox mapId (some p.sandboxId)
          preset (some ghost)
        split
        · rename_i heq
          rwa [heq] at hswitched
        · rename_i heq
          rw [heq] at hswitched
          exact hswitched.dropPending p.sandboxId
  · have hleft := h.deactivateSandbox hc w.state.revision p.sandboxId
    split
    · rename_i heq
      rwa [heq] at hleft
    · rename_i heq
      rw [heq] at hleft
      exact hleft.dropPending p.sandboxId

theorem Consistent.changes {v v' : Worker E} (h : Consistent v)
    (hchanges : Relation.ReflTransGen Change v v') : Consistent v' := by
  induction hchanges with
  | refl => exact h
  | tail _ hlast ih => exact ih.change hlast

theorem MapsShown.executeDue (envs : ℕ → EngineEnv E) {ps : List EnginePendingSandboxActivation}
    (h : MapsShown w) (hc : Consistent w) (hdue : DueOk w ps) :
    MapsShown (executeDue b (fun k => Loaded.env (envs k)) w ps).1 := by
  induction ps generalizing envs w with
  | nil => exact h
  | cons p ps ih =>
      have hready := hdue.ready p List.mem_cons_self
      have hstep := executeDueEntry_dueStep b (Loaded.env (envs 0)) hready
      have hfirst := h.executeDueEntry b (envs 0) hc p
      rw [Runtime.executeDue]
      dsimp only
      split
      · exact hfirst
      · exact ih (fun k => envs (k + 1)) hfirst (hc.changes (hstep.reflTransGen hready))
          (hdue.step hstep)

theorem MapsShown.stepEvent (h : MapsShown w) (hs : Sound w) (ev : WorkerEvent E) :
    MapsShown (stepEvent b w (Loaded.event ev)) := by
  cases ev with
  | command env cmd => exact h.handleCommand b env hs.consistent cmd
  | duePass envs now => exact h.executeDue b envs hs.consistent (hs.queue.dueOk now)
  | simulate target f => exact h.simulateWorld f target

end Runs

/-- A worker in order, whose worlds are shown with their maps. -/
structure Placed (w : Worker (Loaded E)) : Prop where
  sound : Sound w
  maps : MapsShown w

theorem placed_initial : Placed (Worker.initial (Loaded E)) := ⟨sound_initial, mapsShown_initial⟩

theorem Placed.stepEvent {b : Build} {w : Worker (Loaded E)} (h : Placed w) (ev : WorkerEvent E) :
    Placed (stepEvent b w (Loaded.event ev)) :=
  ⟨h.sound.stepEvent _, h.maps.stepEvent b h.sound ev⟩

theorem Placed.foldl {b : Build} {w : Worker (Loaded E)} (h : Placed w)
    (evs : List (WorkerEvent E)) :
    Placed (evs.foldl (fun w ev => Runtime.stepEvent b w (Loaded.event ev)) w) := by
  rw [← GuardedRun.stateAt_length]
  exact GuardedRun.invariant_at (fun _ ev hw => hw.stepEvent ev) h _

theorem Placed.callIn {R : Type} {w : Worker (Loaded E)} (h : Placed w)
    (target : EngineCommandTarget) (call : Call E R) :
    Placed (Runtime.callIn w target (Loaded.lift call)).1 := by
  have htouch := withTargetSlotMut_worldTouch target w (callEngine (Loaded.lift call) id)
  have hstate : (Runtime.callIn w target (Loaded.lift call)).1.state = w.state := htouch.state
  refine ⟨⟨?_, h.sound.consistent.touch htouch.touch⟩, ?_⟩
  · rw [hstate]
    exact h.sound.queue
  · exact h.maps.withTargetSlotMut target (keepsMap_callEngine call id)

/-- Only a world that can be reached answers, and what it answers is what the
call is answered. -/
theorem world_of_callIn {R : Type} {w : Worker E} {target : EngineCommandTarget} {call : Call E R}
    {answer : R} (h : (callIn w target call).2 = .ok answer) :
    ∃ slot, w.world? target = some slot ∧ (callEngine call id slot).2 = .ok answer := by
  unfold callIn withTargetSlotMut at h
  unfold Worker.world?
  cases target with
  | officialRace =>
      dsimp only at h ⊢
      split at h
      · cases h
      · rename_i hkind
        rw [if_pos (not_not.mp hkind)]
        cases hslot : w.officialEngine with
        | none =>
            rw [hslot] at h
            cases h
        | some slot =>
            rw [hslot] at h
            exact ⟨slot, rfl, h⟩
  | localRace raceId =>
      dsimp only at h ⊢
      split at h
      · cases h
      · split at h
        · cases h
        · cases hslot : w.localRaceEngines.lookup raceId with
          | none =>
              rw [hslot] at h
              cases h
          | some slot =>
              rw [hslot] at h
              exact ⟨slot, rfl, h⟩
  | sandbox sandboxId =>
      dsimp only at h ⊢
      split at h
      · cases h
      · cases hslot : w.sandboxEngines.lookup sandboxId with
        | none =>
            rw [hslot] at h
            cases h
        | some slot =>
            rw [hslot] at h
            exact ⟨slot, rfl, h⟩

theorem loadedMap?_of_callIn {R : Type} {w : Worker (Loaded E)} {target : EngineCommandTarget}
    {call : Call (Loaded E) R} {answer : R} (h : (callIn w target call).2 = .ok answer) :
    ∃ mapId, w.loadedMap? target = some mapId := by
  obtain ⟨slot, hslot, -⟩ := world_of_callIn h
  exact ⟨slot.engine.mapId, by rw [Worker.loadedMap?, hslot, Option.map_some]⟩

/-! ## What the state says of the worlds -/

/-- What is shown is there: the worlds of a worker in order are those that its
state names. -/
theorem Sound.world_of_shown {w : Worker E} (h : Sound w) {target : EngineCommandTarget}
    {mapId : String} (hshown : w.state.map? target = some mapId) :
    ∃ slot, w.world? target = some slot := by
  cases target with
  | officialRace =>
      unfold EngineRuntimeState.map? at hshown
      dsimp only at hshown
      split at hshown
      · rename_i hkind
        obtain ⟨slot, hslot⟩ := Option.isSome_iff_exists.mp (h.consistent.official hkind)
        exact ⟨slot, by rw [Worker.world?, if_pos hkind, hslot]⟩
      · cases hshown
  | localRace raceId =>
      obtain ⟨race, hrace, -⟩ := Option.map_eq_some_iff.mp hshown
      obtain ⟨hactive, hid⟩ := Option.filter_eq_some_iff.mp hrace
      have hmem : raceId ∈ w.localRaceEngines := by
        rw [← Finmap.mem_keys, h.consistent.localRace, hactive, ← of_decide_eq_true hid]
        simp
      exact Finmap.mem_iff.mp hmem
  | sandbox sandboxId =>
      obtain ⟨entry, hentry, -⟩ := Option.map_eq_some_iff.mp hshown
      have hmem : sandboxId ∈ w.sandboxEngines := by
        rw [← Finmap.mem_keys, ← h.consistent.sandboxes, List.mem_toFinset]
        exact List.mem_map.mpr
          ⟨entry, KeyedList.mem_of_find hentry, KeyedList.key_of_find hentry⟩
      exact Finmap.mem_iff.mp hmem

/-- In a worker in order a map is shown for a target exactly when a world
loaded with it can be reached there. -/
theorem Placed.shown_iff_loaded {w : Worker (Loaded E)} (h : Placed w)
    (target : EngineCommandTarget) (mapId : String) :
    w.state.map? target = some mapId ↔ w.loadedMap? target = some mapId := by
  refine ⟨fun hshown => ?_, h.maps target mapId⟩
  obtain ⟨slot, hslot⟩ := h.sound.world_of_shown hshown
  have hloaded : w.loadedMap? target = some slot.engine.mapId := by
    rw [Worker.loadedMap?, hslot, Option.map_some]
  rw [hloaded, ← hshown]
  exact (h.maps target _ hloaded).symm

/-- Over every run the state shows a map for a target exactly when a world
that was loaded with this map can be reached there, and whatever a command
is answered comes from such a world. -/
theorem state_shows_loaded_maps (b : Build) (evs : List (WorkerEvent E)) :
    let w := evs.foldl (fun w ev => stepEvent b w (Loaded.event ev)) (Worker.initial (Loaded E))
    (∀ target mapId, w.state.map? target = some mapId ↔ w.loadedMap? target = some mapId) ∧
      ∀ (target : EngineCommandTarget) (R : Type) (call : Call E R) (answer : R),
        (callIn w target (Loaded.lift call)).2 = .ok answer →
          ∃ slot, w.world? target = some slot ∧
            w.state.map? target = some slot.engine.mapId ∧
            (call slot.engine.engine).2 = .ok answer := by
  intro w
  have hplaced : Placed w := placed_initial.foldl evs
  refine ⟨hplaced.shown_iff_loaded, fun target R call answer hanswer => ?_⟩
  obtain ⟨slot, hslot, hop⟩ := world_of_callIn hanswer
  have hloaded : w.loadedMap? target = some slot.engine.mapId := by
    rw [Worker.loadedMap?, hslot, Option.map_some]
  refine ⟨slot, hslot, hplaced.maps target _ hloaded, ?_⟩
  rw [callEngine] at hop
  dsimp only at hop
  cases hcall : (call slot.engine.engine).2 with
  | error err =>
      rw [Loaded.lift, hcall] at hop
      cases hop
  | ok value =>
      rw [Loaded.lift, hcall] at hop
      exact congrArg Except.ok (Except.ok.inj hop)

end HackArena.Runtime
