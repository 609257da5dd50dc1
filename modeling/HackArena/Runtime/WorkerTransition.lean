import HackArena.Runtime.EngineWorker
import HackArena.Lib.GuardedRun
import Mathlib.Logic.Relation

/-!
# What the worker can do to its state

Every event of the worker is one of three things: a touch, which changes
only the inside of worlds and the weather snapshots of active sandboxes;
a change, which advances the revision; or, for a pass over due entries, a
sequence of changes. The invariants are proved over
changes and touches, and never look at the command handlers again.
-/

namespace HackArena.Runtime

open Boink

variable {E : Type}

/-- The runtime state without the weather of its sandboxes. -/
def EngineRuntimeState.stripWeather (s : EngineRuntimeState) : EngineRuntimeState :=
  { s with activeSandboxes := s.activeSandboxes.map fun e => { e with weatherNow := none } }

structure Touch (w w' : Worker E) : Prop where
  state : w'.state.stripWeather = w.state.stripWeather
  official : w'.officialEngine.isSome = w.officialEngine.isSome
  localRace : w'.localRaceEngines.keys = w.localRaceEngines.keys
  sandbox : w'.sandboxEngines.keys = w.sandboxEngines.keys

theorem Touch.refl (w : Worker E) : Touch w w := ⟨rfl, rfl, rfl, rfl⟩

/-- The payload that an entry of the queue carries for its kind. -/
structure PayloadOk (p : EnginePendingSandboxActivation) : Prop where
  sandboxId : Text.isBlank p.sandboxId = false
  mapId : p.activate = true → ∃ m, p.mapId = some m ∧ Text.isBlank m = false
  preset : p.activate = true → ∃ t, p.timeOfDayPreset = some t ∧ t ≠ .unspecified
  ghost : p.activate = true → ∃ g, p.ghostModeSettings = some g
  bare : p.activate = false →
    p.mapId = none ∧ p.timeOfDayPreset = none ∧ p.ghostModeSettings = none

/-- The updates that never leave a world behind. -/
inductive Tidy (w : Worker E) : Worker E → Prop
  | enterOfficialRace (slot : EngineWorldSlot E) (mapId : String)
      (preset : EngineRuntimeTimeOfDayPreset) :
      Tidy w (w.enterOfficialRace slot mapId preset).bump
  | leaveSandbox (sandboxId : String) : Tidy w (w.leaveSandbox sandboxId).bump
  | enterLocalRace (slot : EngineWorldSlot E) (raceId mapId : String)
      (preset : EngineRuntimeTimeOfDayPreset) (hidle : w.state.activeLocalRace = none) :
      Tidy w (w.enterLocalRace slot raceId mapId preset).bump
  | leaveLocalRace (raceId : String)
      (hactive : w.state.activeLocalRace.map (·.raceId) = some raceId) :
      Tidy w (w.leaveLocalRace raceId).bump
  | bump : Tidy w w.bump
  | overrideTimeOfDay (sandboxId : String) (preset : EngineRuntimeTimeOfDayPreset) :
      Tidy w (w.overrideTimeOfDay sandboxId preset).bump
  | putPending (p : EnginePendingSandboxActivation) (hpayload : PayloadOk p)
      (hinactive : p.activate = true → isSandboxActive w.state p.sandboxId = false) :
      Tidy w (w.putPending p).bump
  | dropPending (sandboxId : String) : Tidy w (w.dropPending sandboxId).bump

/-- The ways in which the runtime state moves on, each with a bump. -/
inductive Change (w : Worker E) : Worker E → Prop
  | enterNone (mapId : String) (preset : EngineRuntimeTimeOfDayPreset) :
      Change w (w.enterNone mapId preset).bump
  | enterSandbox (slot : EngineWorldSlot E) (sandboxId mapId : String)
      (preset : EngineRuntimeTimeOfDayPreset)
      (hinactive : isSandboxActive w.state sandboxId = false) :
      Change w (w.enterSandbox slot sandboxId mapId preset).bump
  | tidy {w' : Worker E} (h : Tidy w w') : Change w w'

/-! ## The revisioned commands -/

/-- A command is refused without effect, or accepted at the expected
revision with an update in `R` that its answer shows. -/
def RefusedOr (R : Worker E → Worker E → Prop) (w : Worker E) (expectedRevision : ℕ)
    (r : Outcome E EngineRuntimeState) : Prop :=
  (∃ err, r = (w, .error err)) ∨
    (w.state.revision = expectedRevision ∧ ∃ w', R w w' ∧ r = (w', .ok w'.state))

section Refusal

variable {R S : Worker E → Worker E → Prop} {w : Worker E} {rev : ℕ}

theorem RefusedOr.mono (hRS : ∀ v v', R v v' → S v v') {r : Outcome E EngineRuntimeState}
    (h : RefusedOr R w rev r) : RefusedOr S w rev r :=
  h.imp_right fun ⟨hrev, w', hw', hr⟩ => ⟨hrev, w', hRS w w' hw', hr⟩

theorem refused_of_error (err : EngineWorkerError) : RefusedOr R w rev (w, .error err) :=
  Or.inl ⟨err, rfl⟩

/-- The guard every revisioned command starts with. -/
theorem refusedOr_guard {r : Outcome E EngineRuntimeState}
    (h : w.state.revision = rev → RefusedOr R w rev r) :
    RefusedOr R w rev
      (if w.state.revision ≠ rev then revisionMismatch w rev else r) := by
  by_cases hrev : w.state.revision = rev
  · rw [if_neg (not_not.mpr hrev)]
    exact h hrev
  · rw [if_pos hrev]
    exact refused_of_error _

theorem refusedOr_commit {w' : Worker E} (hrev : w.state.revision = rev) (h : R w w'.bump) :
    RefusedOr R w rev (commit w') :=
  Or.inr ⟨hrev, w'.bump, h, rfl⟩

end Refusal

/-- What an accepted switch to a sandbox has checked and built. -/
structure SandboxAdmitted (b : Build) (env : EngineEnv E) (w : Worker E) (sandboxId mapId : String)
    (preset : EngineRuntimeTimeOfDayPreset) (ghost : Option GhostModeSettings)
    (slot : EngineWorldSlot E) : Prop where
  named : Text.isBlank sandboxId = false
  specified : preset ≠ .unspecified
  mapped : validateMapId b mapId = .ok ()
  inactive : isSandboxActive w.state sandboxId = false
  built : newWorld b env mapId (ghost.getD defaultGhostModeSettings) = .ok slot

theorem switchRuntime_sandbox_cases (b : Build) (env : EngineEnv E) (w : Worker E)
    (sandboxId mapId : String) (preset : EngineRuntimeTimeOfDayPreset)
    (ghost : Option GhostModeSettings) :
    (∃ slot, SandboxAdmitted b env w sandboxId mapId preset ghost slot ∧
      switchRuntime b env w w.state.revision .sandbox mapId (some sandboxId) preset ghost =
        commit (w.enterSandbox slot sandboxId mapId preset)) ∨
    (∃ err, (∀ slot, ¬ SandboxAdmitted b env w sandboxId mapId preset ghost slot) ∧
      switchRuntime b env w w.state.revision .sandbox mapId (some sandboxId) preset ghost =
        (w, .error err)) := by
  rw [switchRuntime, if_neg (not_not.mpr rfl)]
  cases hname : Text.isBlank sandboxId with
  | true =>
      refine Or.inr ⟨_, fun slot h => ?_, rfl⟩
      simpa [hname] using h.named
  | false =>
      by_cases hpreset : preset = .unspecified
      · exact Or.inr ⟨_, fun slot h => h.specified hpreset, by simp [hpreset]; rfl⟩
      · cases hmap : validateMapId b mapId with
        | error err =>
            refine Or.inr ⟨err, fun slot h => ?_, by simp [hpreset]⟩
            simpa [hmap] using h.mapped
        | ok u =>
            cases hactive : isSandboxActive w.state sandboxId with
            | true =>
                refine Or.inr ⟨_, fun slot h => ?_, by simp [hpreset]; rfl⟩
                simpa [hactive] using h.inactive
            | false =>
                cases hworld : newWorld b env mapId (ghost.getD defaultGhostModeSettings) with
                | error err =>
                    refine Or.inr ⟨err, fun slot h => ?_, by simp [hpreset]⟩
                    simpa [hworld] using h.built
                | ok slot =>
                    exact Or.inl ⟨slot, ⟨hname, hpreset, hmap, hactive, hworld⟩,
                      by simp [hpreset]⟩

theorem switchRuntime_official_cases (b : Build) (env : EngineEnv E) (w : Worker E)
    (mapId : String) (sandboxId : Option String) (preset : EngineRuntimeTimeOfDayPreset)
    (ghost : Option GhostModeSettings) :
    (∃ err, switchRuntime b env w w.state.revision .officialRace mapId sandboxId preset ghost =
      (w, .error err)) ∨
    (∃ slot, switchRuntime b env w w.state.revision .officialRace mapId sandboxId preset ghost =
      commit (w.enterOfficialRace slot mapId preset)) := by
  rw [switchRuntime, if_neg (not_not.mpr rfl)]
  cases hmap : validateMapId b mapId with
  | error err => exact Or.inl ⟨err, rfl⟩
  | ok u =>
      cases hworld : newWorld b env mapId (ghost.getD
          ((w.officialEngine.map (·.ghostModeSettings)).getD defaultGhostModeSettings)) with
      | error err => exact Or.inl ⟨err, by simp [hworld]⟩
      | ok slot => exact Or.inr ⟨slot, by simp [hworld]⟩

theorem switchRuntime_cases (b : Build) (env : EngineEnv E) (w : Worker E) (rev : ℕ)
    (kind : EngineActivityKind) (mapId : String) (sandboxId : Option String)
    (preset : EngineRuntimeTimeOfDayPreset) (ghost : Option GhostModeSettings) :
    RefusedOr Change w rev (switchRuntime b env w rev kind mapId sandboxId preset ghost) := by
  by_cases hrev : w.state.revision = rev
  · subst hrev
    cases kind with
    | none =>
        rw [switchRuntime, if_neg (not_not.mpr rfl)]
        cases hmap : validateMapId b mapId with
        | error err => exact refused_of_error err
        | ok u => exact refusedOr_commit rfl (.enterNone mapId preset)
    | officialRace =>
        rcases switchRuntime_official_cases b env w mapId sandboxId preset ghost with
          ⟨err, heq⟩ | ⟨slot, heq⟩
        · rw [heq]
          exact refused_of_error err
        · rw [heq]
          exact refusedOr_commit rfl (.tidy (.enterOfficialRace slot mapId preset))
    | localRace =>
        rw [switchRuntime, if_neg (not_not.mpr rfl)]
        exact refused_of_error _
    | sandbox =>
        cases sandboxId with
        | none =>
            rw [switchRuntime, if_neg (not_not.mpr rfl)]
            exact refused_of_error _
        | some sandboxId =>
            rcases switchRuntime_sandbox_cases b env w sandboxId mapId preset ghost with
              ⟨slot, hadm, heq⟩ | ⟨err, _, heq⟩
            · rw [heq]
              exact refusedOr_commit rfl (.enterSandbox slot sandboxId mapId preset
                hadm.inactive)
            · rw [heq]
              exact refused_of_error err
  · unfold switchRuntime
    rw [if_pos hrev]
    exact refused_of_error _

theorem deactivateSandbox_cases (w : Worker E) (rev : ℕ) (sandboxId : String) :
    RefusedOr Tidy w rev (deactivateSandbox w rev sandboxId) := by
  apply refusedOr_guard
  intro hrev
  split
  · exact refused_of_error _
  · exact refusedOr_commit hrev (.leaveSandbox sandboxId)

theorem activateLocalRace_enters (b : Build) (env : EngineEnv E) (w : Worker E) (rev : ℕ)
    (raceId mapId : String) (preset : EngineRuntimeTimeOfDayPreset)
    (ghost : Option GhostModeSettings) :
    RefusedOr (fun w w' => w.state.activeLocalRace = none ∧
        ∃ slot, w' = (w.enterLocalRace slot raceId mapId preset).bump) w rev
      (activateLocalRace b env w rev raceId mapId preset ghost) := by
  apply refusedOr_guard
  intro hrev
  split
  · exact refused_of_error _
  · split
    · exact refused_of_error _
    · rename_i hidle
      split
      · exact refused_of_error _
      · split
        · exact refused_of_error _
        · split
          · exact refused_of_error _
          · exact refusedOr_commit hrev ⟨by simpa using hidle, _, rfl⟩

theorem activateLocalRace_cases (b : Build) (env : EngineEnv E) (w : Worker E) (rev : ℕ)
    (raceId mapId : String) (preset : EngineRuntimeTimeOfDayPreset)
    (ghost : Option GhostModeSettings) :
    RefusedOr Tidy w rev (activateLocalRace b env w rev raceId mapId preset ghost) := by
  apply (activateLocalRace_enters b env w rev raceId mapId preset ghost).mono
  rintro w _ ⟨hidle, slot, rfl⟩
  exact .enterLocalRace slot raceId mapId preset hidle

theorem deactivateLocalRace_leaves (w : Worker E) (rev : ℕ) (raceId : String) :
    RefusedOr (fun w w' => w.state.activeLocalRace.map (·.raceId) = some raceId ∧
      w' = (w.leaveLocalRace raceId).bump) w rev (deactivateLocalRace w rev raceId) := by
  apply refusedOr_guard
  intro hrev
  split
  · exact refused_of_error _
  · rename_i hactive
    exact refusedOr_commit hrev ⟨not_not.mp hactive, rfl⟩

theorem deactivateLocalRace_cases (w : Worker E) (rev : ℕ) (raceId : String) :
    RefusedOr Tidy w rev (deactivateLocalRace w rev raceId) := by
  apply (deactivateLocalRace_leaves w rev raceId).mono
  rintro w _ ⟨hactive, rfl⟩
  exact .leaveLocalRace raceId hactive

theorem bumpRevision_cases (w : Worker E) (rev : ℕ) :
    RefusedOr Tidy w rev (bumpRevision w rev) :=
  refusedOr_guard fun hrev => refusedOr_commit hrev .bump

theorem setRuntimeTimeOfDay_cases (w : Worker E) (rev : ℕ) (sandboxId : Option String)
    (preset : EngineRuntimeTimeOfDayPreset) :
    RefusedOr Tidy w rev (setRuntimeTimeOfDay w rev sandboxId preset) := by
  apply refusedOr_guard
  intro hrev
  have happly (target : String) : RefusedOr Tidy w rev
      (if isSandboxActive w.state target then commit (w.overrideTimeOfDay target preset)
        else invalidArgument w "sandbox_id does not match active sandbox session") := by
    split
    · exact refusedOr_commit hrev (.overrideTimeOfDay target preset)
    · exact refused_of_error _
  split
  · exact refused_of_error _
  · split
    · exact refused_of_error _
    · cases sandboxId with
      | some sandboxId =>
          dsimp only
          split
          · exact refused_of_error _
          · exact happly sandboxId
      | none =>
          dsimp only
          split
          · exact happly _
          · exact refused_of_error _

theorem validatePending_ok {s : EngineRuntimeState} {p : EnginePendingSandboxActivation}
    (h : validatePending s p = .ok ()) :
    PayloadOk p ∧ (p.activate = true → isSandboxActive s p.sandboxId = false) := by
  rw [validatePending] at h
  cases hname : Text.isBlank p.sandboxId with
  | true => simp [hname] at h
  | false =>
      cases hact : p.activate with
      | false =>
          have hbare : p.mapId = none ∧ p.timeOfDayPreset = none ∧
              p.ghostModeSettings = none := by
            simpa [hname, hact, not_or] using h
          refine ⟨⟨hname, ?_, ?_, ?_, fun _ => hbare⟩, ?_⟩ <;> simp [hact]
      | true =>
          cases hactive : isSandboxActive s p.sandboxId with
          | true => simp [hname, hact, hactive] at h
          | false =>
              cases hmap : p.mapId with
              | none => simp [hname, hact, hactive, hmap] at h
              | some m =>
                  cases hblank : Text.isBlank m with
                  | true => simp [hname, hact, hactive, hmap, hblank] at h
                  | false =>
                      have htail : ∃ t g, p.timeOfDayPreset = some t ∧ t ≠ .unspecified ∧
                          p.ghostModeSettings = some g := by
                        cases hpreset : p.timeOfDayPreset with
                        | none => simp [hname, hact, hactive, hmap, hblank, hpreset] at h
                        | some t =>
                            cases hghost : p.ghostModeSettings with
                            | none =>
                                cases t <;>
                                  simp [hname, hact, hactive, hmap, hblank, hpreset, hghost] at h
                            | some g =>
                                refine ⟨t, g, rfl, ?_, rfl⟩
                                rintro rfl
                                simp [hname, hact, hactive, hmap, hblank, hpreset] at h
                      obtain ⟨t, g, hpreset, hspec, hghost⟩ := htail
                      refine ⟨⟨hname, fun _ => ⟨m, hmap, hblank⟩, fun _ => ⟨t, hpreset, hspec⟩,
                        fun _ => ⟨g, hghost⟩, ?_⟩, fun _ => rfl⟩
                      simp [hact]

theorem setPendingSandboxActivation_cases (w : Worker E) (rev : ℕ)
    (p : EnginePendingSandboxActivation) :
    RefusedOr Tidy w rev (setPendingSandboxActivation w rev p) := by
  apply refusedOr_guard
  intro hrev
  cases hvalid : validatePending w.state p with
  | error message => exact refused_of_error _
  | ok u =>
      obtain ⟨hpayload, hinactive⟩ := validatePending_ok hvalid
      exact refusedOr_commit hrev (.putPending p hpayload hinactive)

theorem dropPending_eq_self {s : EngineRuntimeState} {sandboxId : String}
    (h : ∀ p ∈ s.pendingSandboxActivations, p.sandboxId ≠ sandboxId) :
    s.dropPending sandboxId = s := by
  have hfilter : s.pendingSandboxActivations.filter (fun p => p.sandboxId ≠ sandboxId) =
      s.pendingSandboxActivations := by
    rw [List.filter_eq_self]
    intro p hp
    simpa using h p hp
  rw [EngineRuntimeState.dropPending]
  rw [hfilter]

/-- Cancelling is refused, finds nothing to cancel, or is a change. -/
theorem cancelPendingSandboxActivation_cases (w : Worker E) (rev : ℕ) (sandboxId : String) :
    (∃ err, cancelPendingSandboxActivation w rev sandboxId = (w, .error err)) ∨
      (w.state.revision = rev ∧ ∃ w' canceled, (w' = w ∨ Tidy w w') ∧
        cancelPendingSandboxActivation w rev sandboxId = (w', .ok (w'.state, canceled))) := by
  rw [cancelPendingSandboxActivation]
  by_cases hrev : w.state.revision = rev
  · rw [if_neg (not_not.mpr hrev)]
    split
    · exact Or.inl ⟨_, rfl⟩
    · refine Or.inr ⟨hrev, ?_⟩
      by_cases hlen : (w.dropPending sandboxId).state.pendingSandboxActivations.length ≠
          w.state.pendingSandboxActivations.length
      · exact ⟨(w.dropPending sandboxId).bump, true, Or.inr (.dropPending sandboxId),
          by simp [hlen]⟩
      · have hkeep : ∀ p ∈ w.state.pendingSandboxActivations, p.sandboxId ≠ sandboxId := by
          have := List.length_filter_eq_length_iff.mp (not_not.mp hlen)
          simpa using this
        have hsame : w.dropPending sandboxId = w := by
          rw [Worker.dropPending]
          rw [dropPending_eq_self hkeep]
        exact ⟨w, false, Or.inl rfl, by simp [hsame]⟩
  · rw [if_pos hrev]
    exact Or.inl ⟨_, rfl⟩

/-- A revisioned command that is answered with an error has done nothing;
one that is answered Ok was sent at the current revision. -/
theorem handleCommand_revisioned (b : Build) (env : EngineEnv E) (w : Worker E)
    {cmd : EngineCommand} {rev : ℕ} (hcmd : cmd.expectedRevision? = some rev) :
    ((handleCommand b env w cmd).1 = w ∧ (handleCommand b env w cmd).2.isErr = true) ∨
      (w.state.revision = rev ∧ (handleCommand b env w cmd).2.isErr = false ∧
        ((handleCommand b env w cmd).1 = w ∨ Change w (handleCommand b env w cmd).1)) := by
  have hruntime {r : Outcome E EngineRuntimeState} (h : RefusedOr Change w rev r) :
      ((asRuntime r).1 = w ∧ (asRuntime r).2.isErr = true) ∨
        (w.state.revision = rev ∧ (asRuntime r).2.isErr = false ∧
          ((asRuntime r).1 = w ∨ Change w (asRuntime r).1)) := by
    rcases h with ⟨err, rfl⟩ | ⟨hrev, w', hchange, rfl⟩
    · exact Or.inl ⟨rfl, rfl⟩
    · exact Or.inr ⟨hrev, rfl, Or.inr hchange⟩
  cases cmd with
  | slot target op => simp [EngineCommand.expectedRevision?] at hcmd
  | getRuntimeState => simp [EngineCommand.expectedRevision?] at hcmd
  | setWeather sandboxId weather weatherNow => simp [EngineCommand.expectedRevision?] at hcmd
  | switchRuntime r kind mapId sandboxId preset ghost =>
      cases hcmd
      exact hruntime (switchRuntime_cases b env w rev kind mapId sandboxId _ ghost)
  | setRuntimeTimeOfDay r sandboxId preset =>
      cases hcmd
      exact hruntime ((setRuntimeTimeOfDay_cases w rev sandboxId preset).mono fun _ _ => .tidy)
  | setPendingSandboxActivation r pending =>
      cases hcmd
      exact hruntime ((setPendingSandboxActivation_cases w rev pending).mono fun _ _ => .tidy)
  | deactivateSandbox r sandboxId =>
      cases hcmd
      exact hruntime ((deactivateSandbox_cases w rev sandboxId).mono fun _ _ => .tidy)
  | activateLocalRace r raceId mapId preset ghost =>
      cases hcmd
      have hcases := activateLocalRace_cases b env w rev raceId mapId preset ghost
      exact hruntime (hcases.mono fun _ _ => .tidy)
  | deactivateLocalRace r raceId =>
      cases hcmd
      exact hruntime ((deactivateLocalRace_cases w rev raceId).mono fun _ _ => .tidy)
  | bumpRevision r =>
      cases hcmd
      exact hruntime ((bumpRevision_cases w rev).mono fun _ _ => .tidy)
  | cancelPendingSandboxActivation r sandboxId =>
      cases hcmd
      simp only [handleCommand]
      rcases cancelPendingSandboxActivation_cases w rev sandboxId with
        ⟨err, heq⟩ | ⟨hrev, w', canceled, hw', heq⟩
      · rw [heq]
        exact Or.inl ⟨rfl, rfl⟩
      · rw [heq]
        exact Or.inr ⟨hrev, rfl, hw'.imp_right .tidy⟩

/-! ## World operations -/

/-- A touch that leaves the runtime state alone. -/
structure WorldTouch (w w' : Worker E) : Prop where
  state : w'.state = w.state
  official : w'.officialEngine.isSome = w.officialEngine.isSome
  localRace : w'.localRaceEngines.keys = w.localRaceEngines.keys
  sandbox : w'.sandboxEngines.keys = w.sandboxEngines.keys

theorem WorldTouch.refl (w : Worker E) : WorldTouch w w := ⟨rfl, rfl, rfl, rfl⟩

theorem WorldTouch.touch {w w' : Worker E} (h : WorldTouch w w') : Touch w w' :=
  ⟨congrArg EngineRuntimeState.stripWeather h.state, h.official, h.localRace, h.sandbox⟩

theorem worldTouch_localRace {w : Worker E} {raceId : String} {slot : EngineWorldSlot E}
    (h : w.localRaceEngines.lookup raceId = some slot) (slot' : EngineWorldSlot E) :
    WorldTouch w { w with localRaceEngines := w.localRaceEngines.insert raceId slot' } :=
  ⟨rfl, rfl, HashMap.keys_insert_of_mem (Finmap.mem_of_lookup_eq_some h) slot', rfl⟩

theorem worldTouch_sandbox {w : Worker E} {sandboxId : String} {slot : EngineWorldSlot E}
    (h : w.sandboxEngines.lookup sandboxId = some slot) (slot' : EngineWorldSlot E) :
    WorldTouch w { w with sandboxEngines := w.sandboxEngines.insert sandboxId slot' } :=
  ⟨rfl, rfl, rfl, HashMap.keys_insert_of_mem (Finmap.mem_of_lookup_eq_some h) slot'⟩

theorem withTargetSlotMut_worldTouch {R : Type} (target : EngineCommandTarget) (w : Worker E)
    (op : EngineWorldSlot E → EngineWorldSlot E × Except EngineWorkerError R) :
    WorldTouch w (withTargetSlotMut target w op).1 := by
  cases target with
  | officialRace =>
      unfold withTargetSlotMut
      dsimp only
      split
      · exact WorldTouch.refl w
      · cases hofficial : w.officialEngine with
        | none => exact WorldTouch.refl w
        | some slot => exact ⟨rfl, by simp [hofficial], rfl, rfl⟩
  | localRace raceId =>
      unfold withTargetSlotMut
      dsimp only
      split
      · exact WorldTouch.refl w
      · split
        · exact WorldTouch.refl w
        · cases hslot : w.localRaceEngines.lookup raceId with
          | none => exact WorldTouch.refl w
          | some slot => exact worldTouch_localRace hslot _
  | sandbox sandboxId =>
      unfold withTargetSlotMut
      dsimp only
      split
      · exact WorldTouch.refl w
      · cases hslot : w.sandboxEngines.lookup sandboxId with
        | none => exact WorldTouch.refl w
        | some slot => exact worldTouch_sandbox hslot _

theorem stripWeather_setWeather (s : EngineRuntimeState) (sandboxId : String)
    (weatherNow : EngineRuntimeWeatherNow) :
    EngineRuntimeState.stripWeather { s with
      activeSandboxes := KeyedList.updateFirst EngineActiveSandboxState.sandboxId sandboxId
        (fun entry => { entry with weatherNow := some weatherNow }) s.activeSandboxes } =
      s.stripWeather := by
  have hstrip : (KeyedList.updateFirst EngineActiveSandboxState.sandboxId sandboxId
      (fun entry => { entry with weatherNow := some weatherNow }) s.activeSandboxes).map
        (fun e => { e with weatherNow := none }) =
      s.activeSandboxes.map (fun e => { e with weatherNow := none }) :=
    KeyedList.map_updateFirst fun _ => rfl
  simp only [EngineRuntimeState.stripWeather, hstrip]

theorem setWeather_touch (env : EngineEnv E) (w : Worker E) (sandboxId : String)
    (weather : WeatherParams) (weatherNow : EngineRuntimeWeatherNow) :
    Touch w (setWeather env w sandboxId weather weatherNow).1 := by
  rw [setWeather]
  have htouch := withTargetSlotMut_worldTouch (.sandbox sandboxId) w
    (callEngine (env.api.setWeather weather) fun _ => SlotReply.unit)
  cases hr : withTargetSlotMut (.sandbox sandboxId) w
      (callEngine (env.api.setWeather weather) fun _ => SlotReply.unit) with
  | mk w' result =>
      rw [hr] at htouch
      cases result with
      | error err => exact htouch.touch
      | ok reply =>
          dsimp only
          split
          · refine ⟨?_, htouch.official, htouch.localRace, htouch.sandbox⟩
            exact (stripWeather_setWeather _ _ _).trans htouch.touch.state
          · exact htouch.touch

theorem handleCommand_unrevisioned (b : Build) (env : EngineEnv E) (w : Worker E)
    {cmd : EngineCommand} (hcmd : cmd.expectedRevision? = none) :
    Touch w (handleCommand b env w cmd).1 := by
  cases cmd with
  | slot target op => exact (withTargetSlotMut_worldTouch target w _).touch
  | getRuntimeState => exact Touch.refl w
  | setWeather sandboxId weather weatherNow =>
      exact setWeather_touch env w sandboxId weather weatherNow
  | switchRuntime | setRuntimeTimeOfDay | setPendingSandboxActivation
  | cancelPendingSandboxActivation | deactivateSandbox | activateLocalRace
  | deactivateLocalRace | bumpRevision => simp [EngineCommand.expectedRevision?] at hcmd

theorem handleCommand_cases (b : Build) (env : EngineEnv E) (w : Worker E)
    (cmd : EngineCommand) :
    Touch w (handleCommand b env w cmd).1 ∨ Change w (handleCommand b env w cmd).1 := by
  cases hcmd : cmd.expectedRevision? with
  | none => exact Or.inl (handleCommand_unrevisioned b env w hcmd)
  | some rev =>
      rcases handleCommand_revisioned b env w hcmd with ⟨hsame, _⟩ | ⟨_, _, hsame | hchange⟩
      · rw [hsame]
        exact Or.inl (Touch.refl w)
      · rw [hsame]
        exact Or.inl (Touch.refl w)
      · exact Or.inr hchange

theorem simulateWorld_worldTouch (w : Worker E) (f : E → E) (target : EngineCommandTarget) :
    WorldTouch w (simulateWorld w f target) := by
  cases target with
  | officialRace =>
      unfold simulateWorld
      dsimp only
      split
      · exact ⟨rfl, by simp, rfl, rfl⟩
      · exact WorldTouch.refl w
  | localRace raceId =>
      unfold simulateWorld
      dsimp only
      cases hslot : w.localRaceEngines.lookup raceId with
      | none => exact WorldTouch.refl w
      | some slot => exact worldTouch_localRace hslot _
  | sandbox sandboxId =>
      unfold simulateWorld
      dsimp only
      cases hslot : w.sandboxEngines.lookup sandboxId with
      | none => exact WorldTouch.refl w
      | some slot => exact worldTouch_sandbox hslot _

end HackArena.Runtime
