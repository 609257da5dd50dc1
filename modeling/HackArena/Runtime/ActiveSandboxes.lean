import HackArena.Runtime.WorkerInvariants

/-!
# The active sandboxes, one by one

What every update of the worker does to the entry of each sandbox. Most of
them leave all entries alone; the others change one of them.
-/

namespace HackArena.Runtime

open Boink

variable {E : Type}

/-- The entry of an active sandbox. -/
def EngineRuntimeState.activeSandbox? (s : EngineRuntimeState) (sandboxId : String) :
    Option EngineActiveSandboxState :=
  KeyedList.find EngineActiveSandboxState.sandboxId sandboxId s.activeSandboxes

theorem isSandboxActive_eq_isSome (s : EngineRuntimeState) (sandboxId : String) :
    isSandboxActive s sandboxId = (s.activeSandbox? sandboxId).isSome := by
  rw [Bool.eq_iff_iff]
  exact isSandboxActive_eq_true.trans KeyedList.find_isSome.symm

theorem isSandboxActive_of_activeSandbox? {s : EngineRuntimeState} {sandboxId : String}
    {entry : EngineActiveSandboxState} (h : s.activeSandbox? sandboxId = some entry) :
    isSandboxActive s sandboxId = true := by
  rw [isSandboxActive_eq_isSome, h]
  rfl

variable (w : Worker E) (sandboxId : String)

/-! ## The updates -/

@[simp] theorem bump_activeSandbox? (j : String) :
    w.bump.state.activeSandbox? j = w.state.activeSandbox? j := rfl

theorem enterSandbox_activeSandbox? {w : Worker E} {sandboxId : String}
    (hinactive : isSandboxActive w.state sandboxId = false) (slot : EngineWorldSlot E)
    (mapId : String) (preset : EngineRuntimeTimeOfDayPreset) (j : String) :
    (w.enterSandbox slot sandboxId mapId preset).state.activeSandbox? j =
      if j = sandboxId then some ⟨sandboxId, mapId, preset, none⟩
      else w.state.activeSandbox? j := by
  have hnot := isSandboxActive_eq_false.mp hinactive
  unfold EngineRuntimeState.activeSandbox? Worker.enterSandbox
  dsimp only
  rw [KeyedList.upsert_of_notMem hnot, KeyedList.find_append_singleton hnot]

theorem leaveSandbox_activeSandbox? {w : Worker E}
    (hdistinct : (w.state.activeSandboxes.map (·.sandboxId)).Nodup) (sandboxId j : String) :
    (w.leaveSandbox sandboxId).state.activeSandbox? j =
      if j = sandboxId then none else w.state.activeSandbox? j := by
  unfold EngineRuntimeState.activeSandbox?
  rw [leaveSandbox_activeSandboxes, KeyedList.find_eraseP hdistinct]

theorem overrideTimeOfDay_activeSandbox? (preset : EngineRuntimeTimeOfDayPreset) (j : String) :
    (w.overrideTimeOfDay sandboxId preset).state.activeSandbox? j =
      if j = sandboxId then
        (w.state.activeSandbox? j).map fun entry => { entry with timeOfDayPreset := preset }
      else w.state.activeSandbox? j :=
  KeyedList.find_updateFirst fun _ h => h

theorem enterLocalRace_activeSandbox? (slot : EngineWorldSlot E) (raceId mapId : String)
    (preset : EngineRuntimeTimeOfDayPreset) (j : String) :
    (w.enterLocalRace slot raceId mapId preset).state.activeSandbox? j =
      w.state.activeSandbox? j :=
  congrArg (KeyedList.find _ j) (enterLocalRace_pending w slot raceId mapId preset).2

theorem leaveLocalRace_activeSandbox? (raceId j : String) :
    (w.leaveLocalRace raceId).state.activeSandbox? j = w.state.activeSandbox? j :=
  congrArg (KeyedList.find _ j) (leaveLocalRace_pending w raceId).2

/-! ## The commands -/

theorem RefusedOr.fst {R : Worker E → Worker E → Prop} {w : Worker E} {rev : ℕ}
    {r : Outcome E EngineRuntimeState} (h : RefusedOr R w rev r) : r.1 = w ∨ R w r.1 := by
  rcases h with ⟨err, rfl⟩ | ⟨-, w', hw', rfl⟩
  · exact Or.inl rfl
  · exact Or.inr hw'

theorem deactivateSandbox_leaves (rev : ℕ) :
    RefusedOr (fun w w' => w' = (w.leaveSandbox sandboxId).bump) w rev
      (deactivateSandbox w rev sandboxId) := by
  apply refusedOr_guard
  intro hrev
  split
  · exact refused_of_error _
  · exact refusedOr_commit hrev rfl

/-- The weather that a world is given, in the entry of its sandbox. -/
def EngineRuntimeState.showWeather (s : EngineRuntimeState) (sandboxId : String)
    (weatherNow : EngineRuntimeWeatherNow) : EngineRuntimeState :=
  { s with
    activeSandboxes := KeyedList.updateFirst EngineActiveSandboxState.sandboxId sandboxId
      (fun entry => { entry with weatherNow := some weatherNow }) s.activeSandboxes }

theorem showWeather_activeSandbox? (s : EngineRuntimeState)
    (weatherNow : EngineRuntimeWeatherNow) (j : String) :
    (s.showWeather sandboxId weatherNow).activeSandbox? j =
      if j = sandboxId then
        (s.activeSandbox? j).map fun entry => { entry with weatherNow := some weatherNow }
      else s.activeSandbox? j :=
  KeyedList.find_updateFirst fun _ h => h

/-- The weather is refused and the state is as it was, or it is shown. -/
theorem setWeather_cases (env : EngineEnv E) (weather : WeatherParams)
    (weatherNow : EngineRuntimeWeatherNow) :
    (∃ err, (setWeather env w sandboxId weather weatherNow).2 = .error err ∧
        (setWeather env w sandboxId weather weatherNow).1.state = w.state) ∨
      ((setWeather env w sandboxId weather weatherNow).2 = .ok .unit ∧
        (setWeather env w sandboxId weather weatherNow).1.state =
          w.state.showWeather sandboxId weatherNow) := by
  rw [setWeather]
  have htouch := withTargetSlotMut_worldTouch (.sandbox sandboxId) w
    (callEngine (env.api.setWeather weather) fun _ => SlotReply.unit)
  cases hr : withTargetSlotMut (.sandbox sandboxId) w
      (callEngine (env.api.setWeather weather) fun _ => SlotReply.unit) with
  | mk w' result =>
      rw [hr] at htouch
      cases result with
      | error err => exact Or.inl ⟨err, rfl, htouch.state⟩
      | ok reply =>
          have hstate : w'.state = w.state := htouch.state
          dsimp only
          split
          · refine Or.inr ⟨rfl, ?_⟩
            change w'.state.showWeather sandboxId weatherNow = _
            rw [hstate]
          · exact Or.inl ⟨_, rfl, hstate⟩

end HackArena.Runtime
