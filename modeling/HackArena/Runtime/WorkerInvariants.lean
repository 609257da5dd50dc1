import HackArena.Runtime.PendingQueue
import Mathlib.Data.Finset.Option

/-!
# Agreement between the runtime state and the engine maps

`Consistent` ties the metadata to the worlds the worker holds. It is kept
by every change and touch; together with the order of the queue it is
what every reachable worker satisfies.
-/

namespace HackArena.Runtime

open Boink

variable {E : Type}

structure Consistent (w : Worker E) : Prop where
  distinct : (w.state.activeSandboxes.map (·.sandboxId)).Nodup
  sandboxes : (w.state.activeSandboxes.map (·.sandboxId)).toFinset = w.sandboxEngines.keys
  sandboxKind : w.state.activityKind = .sandbox ↔ w.state.activeSandboxes ≠ []
  localKind : w.state.activityKind = .localRace → w.state.activeLocalRace.isSome = true
  localRace : w.localRaceEngines.keys = (w.state.activeLocalRace.map (·.raceId)).toFinset
  official : w.state.activityKind = .officialRace → w.officialEngine.isSome = true

theorem consistent_initial : Consistent (Worker.initial E) where
  distinct := List.nodup_nil
  sandboxes := rfl
  sandboxKind := by simp [Worker.initial]
  localKind := by simp [Worker.initial]
  localRace := rfl
  official := by simp [Worker.initial]

theorem Consistent.bump {w : Worker E} (h : Consistent w) : Consistent w.bump :=
  ⟨h.distinct, h.sandboxes, h.sandboxKind, h.localKind, h.localRace, h.official⟩

/-- Only the active ids, the kind and the local race matter. -/
theorem Consistent.congr {w w' : Worker E} (h : Consistent w)
    (hids : w'.state.activeSandboxes.map (·.sandboxId) =
      w.state.activeSandboxes.map (·.sandboxId))
    (hkind : w'.state.activityKind = w.state.activityKind)
    (hrace : w'.state.activeLocalRace = w.state.activeLocalRace)
    (hofficial : w'.officialEngine.isSome = w.officialEngine.isSome)
    (hlocal : w'.localRaceEngines.keys = w.localRaceEngines.keys)
    (hsandbox : w'.sandboxEngines.keys = w.sandboxEngines.keys) : Consistent w' := by
  have hnil : w'.state.activeSandboxes = [] ↔ w.state.activeSandboxes = [] := by
    rw [← List.map_eq_nil_iff (f := EngineActiveSandboxState.sandboxId), hids,
      List.map_eq_nil_iff]
  constructor
  · rw [hids]
    exact h.distinct
  · rw [hids, hsandbox]
    exact h.sandboxes
  · rw [hkind, ne_eq, hnil]
    exact h.sandboxKind
  · rw [hkind, hrace]
    exact h.localKind
  · rw [hlocal, hrace]
    exact h.localRace
  · rw [hkind, hofficial]
    exact h.official

/-! ## What leaving a sandbox or a local race does -/

/-- The last sandbox leaves for the local race or for nothing, without an
official world; any other one leaves the rest alone. -/
theorem leaveSandbox_kind (w : Worker E) (sandboxId : String) :
    ((w.leaveSandbox sandboxId).state.activeSandboxes = [] ∧ w.state.activityKind = .sandbox ∧
      (w.leaveSandbox sandboxId).officialEngine = none ∧
      (w.leaveSandbox sandboxId).state.activityKind =
        if w.state.activeLocalRace.isSome then .localRace else .none) ∨
    (¬ ((w.leaveSandbox sandboxId).state.activeSandboxes = [] ∧
        w.state.activityKind = .sandbox) ∧
      (w.leaveSandbox sandboxId).officialEngine = w.officialEngine ∧
      (w.leaveSandbox sandboxId).state.activityKind = w.state.activityKind) := by
  rw [leaveSandbox_activeSandboxes]
  by_cases hlast : w.state.activeSandboxes.eraseP
      (fun entry => decide (entry.sandboxId = sandboxId)) = [] ∧ w.state.activityKind = .sandbox
  · refine Or.inl ⟨hlast.1, hlast.2, ?_⟩
    cases hrace : w.state.activeLocalRace with
    | none => simp [Worker.leaveSandbox, EngineRuntimeState.dropPending, hlast, hrace]
    | some race => simp [Worker.leaveSandbox, EngineRuntimeState.dropPending, hlast, hrace]
  · refine Or.inr ⟨hlast, ?_⟩
    rw [Worker.leaveSandbox]
    dsimp only
    split
    · rename_i hnil
      exact (hlast hnil).elim
    · exact ⟨rfl, rfl⟩

theorem leaveSandbox_engines (w : Worker E) (sandboxId : String) :
    (w.leaveSandbox sandboxId).sandboxEngines = w.sandboxEngines.erase sandboxId ∧
      (w.leaveSandbox sandboxId).localRaceEngines = w.localRaceEngines ∧
      (w.leaveSandbox sandboxId).state.activeLocalRace = w.state.activeLocalRace := by
  rw [Worker.leaveSandbox]
  dsimp only
  split
  · split <;> exact ⟨rfl, rfl, rfl⟩
  · exact ⟨rfl, rfl, rfl⟩

theorem enterLocalRace_kind (w : Worker E) (slot : EngineWorldSlot E) (raceId mapId : String)
    (preset : EngineRuntimeTimeOfDayPreset) :
    (w.enterLocalRace slot raceId mapId preset).state.activityKind =
      if w.state.activeSandboxes = [] ∧ w.state.activityKind ≠ .officialRace then .localRace
      else w.state.activityKind := by
  rw [Worker.enterLocalRace]
  dsimp only
  split <;> rfl

theorem leaveLocalRace_kind (w : Worker E) (raceId : String) :
    (w.leaveLocalRace raceId).state.activityKind =
      if w.state.activeSandboxes = [] ∧ w.state.activityKind = .localRace then .none
      else w.state.activityKind := by
  rw [Worker.leaveLocalRace]
  dsimp only
  split <;> rfl

theorem enterLocalRace_activeLocalRace (w : Worker E) (slot : EngineWorldSlot E)
    (raceId mapId : String) (preset : EngineRuntimeTimeOfDayPreset) :
    (w.enterLocalRace slot raceId mapId preset).state.activeLocalRace =
      some ⟨raceId, mapId, preset, none⟩ := by
  rw [Worker.enterLocalRace]
  dsimp only
  split <;> rfl

theorem leaveLocalRace_activeLocalRace (w : Worker E) (raceId : String) :
    (w.leaveLocalRace raceId).state.activeLocalRace = none := by
  rw [Worker.leaveLocalRace]
  dsimp only
  split <;> rfl

/-! ## Consistency is kept -/

theorem Consistent.enterSandbox {w : Worker E} (h : Consistent w) (slot : EngineWorldSlot E)
    {sandboxId : String} (mapId : String) (preset : EngineRuntimeTimeOfDayPreset)
    (hinactive : isSandboxActive w.state sandboxId = false) :
    Consistent (w.enterSandbox slot sandboxId mapId preset) where
  distinct := KeyedList.nodup_upsert h.distinct
  sandboxes := by
    ext id
    rw [List.mem_toFinset, mem_activeIds_enterSandbox slot mapId preset hinactive,
      ← List.mem_toFinset, h.sandboxes]
    simp [Worker.enterSandbox, HashMap.keys_insert]
  sandboxKind := by simp [Worker.enterSandbox, KeyedList.upsert_ne_nil]
  localKind := by simp [Worker.enterSandbox]
  localRace := h.localRace
  official := by simp [Worker.enterSandbox]

theorem Consistent.leaveSandbox {w : Worker E} (h : Consistent w) (sandboxId : String) :
    Consistent (w.leaveSandbox sandboxId) := by
  obtain ⟨hengines, hlocals, hrace⟩ := leaveSandbox_engines w sandboxId
  have hids : (w.leaveSandbox sandboxId).state.activeSandboxes.map (·.sandboxId) =
      (w.state.activeSandboxes.map (·.sandboxId)).erase sandboxId := by
    rw [leaveSandbox_activeSandboxes]
    exact KeyedList.map_eraseP_key h.distinct
  have hsandboxes : ((w.leaveSandbox sandboxId).state.activeSandboxes.map
      (·.sandboxId)).toFinset = (w.leaveSandbox sandboxId).sandboxEngines.keys := by
    ext id
    rw [hids, hengines, List.mem_toFinset, h.distinct.mem_erase_iff, ← List.mem_toFinset,
      h.sandboxes, Finmap.keys_erase, Finset.mem_erase]
  have hlocalRace : (w.leaveSandbox sandboxId).localRaceEngines.keys =
      ((w.leaveSandbox sandboxId).state.activeLocalRace.map (·.raceId)).toFinset := by
    rw [hlocals, hrace]
    exact h.localRace
  refine ⟨hids ▸ h.distinct.erase _, hsandboxes, ?_, ?_, hlocalRace, ?_⟩
  all_goals
    rcases leaveSandbox_kind w sandboxId with
      ⟨hnil, hwas, hofficial, hkind⟩ | ⟨hnot, hofficial, hkind⟩
  · rw [hkind, hnil]
    split <;> simp
  · rw [hkind]
    refine ⟨fun hsandbox hnil => hnot ⟨hnil, hsandbox⟩, fun hne => ?_⟩
    rw [h.sandboxKind]
    intro hnil
    rw [leaveSandbox_activeSandboxes, hnil] at hne
    exact hne rfl
  · rw [hkind, hrace]
    split
    · exact fun _ => by assumption
    · simp
  · rw [hkind, hrace]
    exact h.localKind
  · rw [hkind]
    split <;> simp
  · rw [hkind, hofficial]
    exact h.official

theorem Consistent.enterLocalRace {w : Worker E} (h : Consistent w) (slot : EngineWorldSlot E)
    (raceId mapId : String) (preset : EngineRuntimeTimeOfDayPreset)
    (hidle : w.state.activeLocalRace = none) :
    Consistent (w.enterLocalRace slot raceId mapId preset) := by
  have hactive := (enterLocalRace_pending w slot raceId mapId preset).2
  have hkind := enterLocalRace_kind w slot raceId mapId preset
  have hrace := enterLocalRace_activeLocalRace w slot raceId mapId preset
  have hempty : w.localRaceEngines.keys = ∅ := by
    rw [h.localRace, hidle]
    rfl
  refine ⟨hactive ▸ h.distinct, hactive ▸ h.sandboxes, ?_, fun _ => by rw [hrace]; rfl, ?_, ?_⟩
  · rw [hkind, hactive]
    split
    · rename_i hfree
      simp [hfree.1]
    · exact h.sandboxKind
  · rw [hrace]
    simp [Worker.enterLocalRace, HashMap.keys_insert, hempty]
  · rw [hkind]
    split
    · simp
    · exact h.official

theorem Consistent.leaveLocalRace {w : Worker E} (h : Consistent w) {raceId : String}
    (hactive : w.state.activeLocalRace.map (·.raceId) = some raceId) :
    Consistent (w.leaveLocalRace raceId) := by
  have hsame := (leaveLocalRace_pending w raceId).2
  have hkind := leaveLocalRace_kind w raceId
  have hrace := leaveLocalRace_activeLocalRace w raceId
  refine ⟨hsame ▸ h.distinct, hsame ▸ h.sandboxes, ?_, ?_, ?_, ?_⟩
  · rw [hkind, hsame]
    split
    · rename_i hlast
      simp [hlast.1]
    · exact h.sandboxKind
  · rw [hkind]
    split
    · simp
    · rename_i hlast
      intro hwas
      have hnil : w.state.activeSandboxes = [] := by
        by_contra hne
        exact absurd (h.sandboxKind.mpr hne) (by simp [hwas])
      exact (hlast ⟨hnil, hwas⟩).elim
  · rw [hrace]
    change (w.localRaceEngines.erase raceId).keys = _
    rw [Finmap.keys_erase, h.localRace, hactive]
    simp
  · rw [hkind]
    split
    · simp
    · exact h.official

theorem Consistent.change {w w' : Worker E} (h : Consistent w) (hchange : Change w w') :
    Consistent w' := by
  cases hchange with
  | enterNone mapId preset =>
      refine Consistent.bump ⟨List.nodup_nil, rfl, ?_, ?_, h.localRace, ?_⟩ <;>
        simp [Worker.enterNone]
  | enterSandbox slot sandboxId mapId preset hinactive =>
      exact (h.enterSandbox slot mapId preset hinactive).bump
  | tidy htidy =>
      cases htidy with
      | enterOfficialRace slot mapId preset =>
          refine Consistent.bump ⟨List.nodup_nil, rfl, ?_, ?_, h.localRace, ?_⟩ <;>
            simp [Worker.enterOfficialRace]
      | leaveSandbox sandboxId => exact (h.leaveSandbox sandboxId).bump
      | enterLocalRace slot raceId mapId preset hidle =>
          exact (h.enterLocalRace slot raceId mapId preset hidle).bump
      | leaveLocalRace raceId hactive => exact (h.leaveLocalRace hactive).bump
      | bump => exact h.bump
      | overrideTimeOfDay sandboxId preset =>
          exact (h.congr (overrideTimeOfDay_activeIds w sandboxId preset) rfl rfl rfl rfl rfl).bump
      | putPending p hpayload hinactive => exact h.congr rfl rfl rfl rfl rfl rfl
      | dropPending sandboxId => exact h.congr rfl rfl rfl rfl rfl rfl

theorem Touch.activityKind {w w' : Worker E} (h : Touch w w') :
    w'.state.activityKind = w.state.activityKind := by
  have hstrip := congrArg EngineRuntimeState.activityKind h.state
  exact hstrip

theorem Touch.activeLocalRace {w w' : Worker E} (h : Touch w w') :
    w'.state.activeLocalRace = w.state.activeLocalRace := by
  have hstrip := congrArg EngineRuntimeState.activeLocalRace h.state
  exact hstrip

theorem Consistent.touch {w w' : Worker E} (h : Consistent w) (ht : Touch w w') :
    Consistent w' :=
  h.congr ht.activeIds ht.activityKind ht.activeLocalRace ht.official ht.localRace ht.sandbox

/-- What every reachable worker satisfies. -/
structure Sound (w : Worker E) : Prop where
  queue : QueueOk w.state
  consistent : Consistent w

theorem sound_initial : Sound (Worker.initial E) := ⟨queueOk_initial, consistent_initial⟩

theorem Sound.stepEvent {b : Build} {w : Worker E} (h : Sound w) (ev : WorkerEvent E) :
    Sound (stepEvent b w ev) :=
  ⟨h.queue.stepEvent ev, stepEvent_invariant (fun _ _ h hc => h.change hc)
    (fun _ _ h ht => h.touch ht) b h.queue h.consistent ev⟩

theorem sound_run (b : Build) (evs : List (WorkerEvent E)) :
    Sound (evs.foldl (stepEvent b) (Worker.initial E)) := by
  rw [← GuardedRun.stateAt_length]
  exact GuardedRun.invariant_at (fun _ ev h => h.stepEvent ev) sound_initial _

/-- Whatever arms the loop of the worker takes, it is in a sound state. -/
theorem runWorker_sound (b : Build) (arms : List (LoopArm E)) : Sound (runWorker b arms) :=
  sound_run b (arms.flatMap LoopArm.events)

/-- In every reachable state the runtime state and the engine maps agree. -/
theorem worker_state_agrees (b : Build) (evs : List (WorkerEvent E)) :
    let w := evs.foldl (stepEvent b) (Worker.initial E)
    (w.state.activeSandboxes.map (·.sandboxId)).Nodup ∧
      (∀ id, id ∈ w.state.activeSandboxes.map (·.sandboxId) ↔ id ∈ w.sandboxEngines) ∧
      (w.state.activityKind = .sandbox ↔ w.state.activeSandboxes ≠ []) ∧
      (w.state.activityKind = .localRace → w.state.activeLocalRace.isSome = true) ∧
      (∀ raceId, w.state.activeLocalRace.map (·.raceId) = some raceId ↔
        w.localRaceEngines.keys = {raceId}) ∧
      (w.state.activeLocalRace = none → w.localRaceEngines = ∅) ∧
      (w.state.activityKind = .officialRace → w.officialEngine.isSome = true) := by
  intro w
  have h : Consistent w := (sound_run b evs).consistent
  refine ⟨h.distinct, fun id => ?_, h.sandboxKind, h.localKind, fun raceId => ?_, fun hnone => ?_,
    h.official⟩
  · rw [← List.mem_toFinset, h.sandboxes, Finmap.mem_keys]
  · rw [h.localRace]
    cases w.state.activeLocalRace with
    | none => simp
    | some race => simp
  · rw [← HashMap.keys_eq_empty, h.localRace, hnone]
    rfl

end HackArena.Runtime
