import HackArena.Runtime.CarWorld
import HackArena.Runtime.WorkerInvariants

/-!
# Worlds that nobody runs

A world is orphaned when the worker holds it but neither steps it nor
resolves commands to it. Two switches orphan a world: activating a
sandbox, by command or on schedule, while the official race runs keeps
the official world, and switching to no activity keeps the world of an
active local race. No other event does, so a run stays free of orphans
exactly when it avoids these two.
-/

namespace HackArena.Runtime

open Boink

variable {E : Type}

structure NoOrphan (w : Worker E) : Prop where
  official : w.officialEngine.isSome = true → w.state.activityKind = .officialRace
  idle : w.state.activityKind = .none →
    w.officialEngine = none ∧ w.sandboxEngines = ∅ ∧ w.localRaceEngines = ∅

theorem noOrphan_initial : NoOrphan (Worker.initial E) :=
  ⟨by simp [Worker.initial], fun _ => ⟨rfl, rfl, rfl⟩⟩

theorem Consistent.activeSandboxes_eq_nil {w : Worker E} (h : Consistent w)
    (hkind : w.state.activityKind ≠ .sandbox) : w.state.activeSandboxes = [] := by
  by_contra hne
  exact hkind (h.sandboxKind.mpr hne)

theorem Consistent.localRaceEngines_eq_empty {w : Worker E} (h : Consistent w) :
    w.localRaceEngines = ∅ ↔ w.state.activeLocalRace = none := by
  rw [← HashMap.keys_eq_empty, h.localRace]
  cases w.state.activeLocalRace <;> simp

/-- In a consistent worker the idle clause is about the local race only. -/
theorem Consistent.noOrphan_iff {w : Worker E} (h : Consistent w) :
    NoOrphan w ↔ (w.officialEngine.isSome = true → w.state.activityKind = .officialRace) ∧
      (w.state.activityKind = .none → w.state.activeLocalRace = none) := by
  constructor
  · intro hno
    exact ⟨hno.official, fun hnone => h.localRaceEngines_eq_empty.mp (hno.idle hnone).2.2⟩
  · rintro ⟨hofficial, hrace⟩
    refine ⟨hofficial, fun hnone => ⟨?_, ?_, h.localRaceEngines_eq_empty.mpr (hrace hnone)⟩⟩
    · cases heng : w.officialEngine with
      | none => rfl
      | some slot => simpa [hnone] using hofficial (by simp [heng])
    · have hnil := h.activeSandboxes_eq_nil (by simp [hnone])
      rw [← HashMap.keys_eq_empty, ← h.sandboxes, hnil]
      rfl

/-! ## Single changes -/

theorem NoOrphan.congr {w w' : Worker E} (h : NoOrphan w)
    (hkind : w'.state.activityKind = w.state.activityKind)
    (hofficial : w'.officialEngine.isSome = w.officialEngine.isSome)
    (hlocal : w'.localRaceEngines.keys = w.localRaceEngines.keys)
    (hsandbox : w'.sandboxEngines.keys = w.sandboxEngines.keys) : NoOrphan w' := by
  refine ⟨by rw [hofficial, hkind]; exact h.official, fun hnone => ?_⟩
  obtain ⟨hnoOfficial, hnoSandbox, hnoLocal⟩ := h.idle (hkind ▸ hnone)
  refine ⟨?_, ?_, ?_⟩
  · simpa [hnoOfficial] using hofficial
  · rw [← HashMap.keys_eq_empty, hsandbox, hnoSandbox, Finmap.keys_empty]
  · rw [← HashMap.keys_eq_empty, hlocal, hnoLocal, Finmap.keys_empty]

theorem NoOrphan.tidy {w w' : Worker E} (h : NoOrphan w) (hc : Consistent w)
    (htidy : Tidy w w') : NoOrphan w' := by
  have hc' := hc.change (.tidy htidy)
  obtain ⟨hofficial, hrace⟩ := hc.noOrphan_iff.mp h
  rw [hc'.noOrphan_iff]
  cases htidy with
  | enterOfficialRace slot mapId preset =>
      simp [Worker.bump, Worker.enterOfficialRace]
  | leaveSandbox sandboxId =>
      have hsame := (leaveSandbox_engines w sandboxId).2.2
      simp only [Worker.bump]
      rcases leaveSandbox_kind w sandboxId with
        ⟨hnil, hwas, hnone, hkind⟩ | ⟨hnot, hsameOfficial, hkind⟩
      · rw [hnone, hkind, hsame]
        cases w.state.activeLocalRace <;> simp
      · rw [hsameOfficial, hkind, hsame]
        exact ⟨hofficial, hrace⟩
  | enterLocalRace slot raceId mapId preset hidle =>
      have hkind := enterLocalRace_kind w slot raceId mapId preset
      have heng : (w.enterLocalRace slot raceId mapId preset).officialEngine =
          w.officialEngine := rfl
      simp only [Worker.bump]
      rw [hkind, heng]
      split
      · rename_i hfree
        exact ⟨fun hsome => (hfree.2 (hofficial hsome)).elim, by simp⟩
      · rename_i hbusy
        refine ⟨hofficial, fun hnone => ?_⟩
        have hnil := hc.activeSandboxes_eq_nil (by simp [hnone])
        exact (hbusy ⟨hnil, by simp [hnone]⟩).elim
  | leaveLocalRace raceId hactive =>
      have hkind := leaveLocalRace_kind w raceId
      have heng : (w.leaveLocalRace raceId).officialEngine = w.officialEngine := rfl
      simp only [Worker.bump]
      rw [hkind, heng, leaveLocalRace_activeLocalRace]
      refine ⟨fun hsome => ?_, fun _ => rfl⟩
      rw [if_neg (by simp [hofficial hsome])]
      exact hofficial hsome
  | bump => exact ⟨hofficial, hrace⟩
  | overrideTimeOfDay sandboxId preset => exact ⟨hofficial, hrace⟩
  | putPending p hpayload hinactive => exact ⟨hofficial, hrace⟩
  | dropPending sandboxId => exact ⟨hofficial, hrace⟩

/-- Entering a sandbox orphans the official world exactly if it runs. -/
theorem noOrphan_enterSandbox_iff {w : Worker E} (h : NoOrphan w) (hc : Consistent w)
    (slot : EngineWorldSlot E) (sandboxId mapId : String)
    (preset : EngineRuntimeTimeOfDayPreset) :
    NoOrphan (w.enterSandbox slot sandboxId mapId preset).bump ↔
      w.state.activityKind ≠ .officialRace := by
  constructor
  · intro hno hkind
    have hsome : (w.enterSandbox slot sandboxId mapId preset).bump.officialEngine.isSome = true :=
      hc.official hkind
    simpa [Worker.bump, Worker.enterSandbox] using hno.official hsome
  · intro hkind
    refine ⟨fun hsome => (hkind (h.official hsome)).elim, ?_⟩
    simp [Worker.bump, Worker.enterSandbox]

/-- Entering no activity orphans the world of an active local race. -/
theorem noOrphan_enterNone_iff {w : Worker E} (hc : Consistent w) (mapId : String)
    (preset : EngineRuntimeTimeOfDayPreset) :
    NoOrphan (w.enterNone mapId preset).bump ↔ w.state.activeLocalRace = none := by
  have hc' := hc.change (.enterNone mapId preset)
  rw [hc'.noOrphan_iff]
  simp [Worker.bump, Worker.enterNone]

/-! ## A pass over due entries -/

/-- The first activation of the pass, if there is one, finds no world: the
pass ends there with its error. -/
def PassKeeps (b : Build) (envs : ℕ → EngineEnv E) : List EnginePendingSandboxActivation → Prop
  | [] => True
  | p :: ps =>
      if p.activate = true then ¬ Builds b (envs 0) p
      else PassKeeps b (fun k => envs (k + 1)) ps

/-- An active sandbox that no entry names keeps the activity on sandboxes
and the official world where it is. -/
theorem executeDue_stays_sandbox (b : Build) (envs : ℕ → EngineEnv E) {w : Worker E}
    {ps : List EnginePendingSandboxActivation} (h : DueOk w ps) {sandboxId : String}
    (hkind : w.state.activityKind = .sandbox)
    (hactive : sandboxId ∈ w.state.activeSandboxes.map (·.sandboxId))
    (hother : sandboxId ∉ ps.map (·.sandboxId)) :
    (executeDue b envs w ps).1.state.activityKind = .sandbox ∧
      (executeDue b envs w ps).1.officialEngine = w.officialEngine := by
  induction ps generalizing envs w with
  | nil => exact ⟨hkind, rfl⟩
  | cons p ps ih =>
      rw [List.map_cons, List.mem_cons, not_or] at hother
      have hready := h.ready p List.mem_cons_self
      have hstep := executeDueEntry_dueStep b (envs 0) hready
      have hrest := h.step hstep
      rw [executeDue]
      dsimp only
      generalize executeDueEntry b (envs 0) w p = r at hstep hrest ⊢
      cases hstep with
      | failed err hact hbuild => exact ⟨hkind, rfl⟩
      | activated slot mapId preset hact hbuild =>
          refine ih (fun k => envs (k + 1)) hrest rfl ?_ hother.2
          exact (mem_activeIds_enterSandbox slot mapId preset (hready.inactive hact)).mpr
            (Or.inr hactive)
      | deactivated hact =>
          have hkeep : sandboxId ∈ (w.leaveSandbox p.sandboxId).state.activeSandboxes.map
              (·.sandboxId) := by
            obtain ⟨entry, hentry, rfl⟩ := List.mem_map.mp hactive
            rw [leaveSandbox_activeSandboxes]
            refine List.mem_map_of_mem ((List.mem_eraseP_of_neg ?_).mpr hentry)
            simpa using hother.1
          rcases leaveSandbox_kind w p.sandboxId with ⟨hnil, -⟩ | ⟨-, hofficial, hsame⟩
          · simp [hnil] at hkeep
          · obtain ⟨hend, hengine⟩ :=
              ih (fun k => envs (k + 1)) hrest (hsame.trans hkind) hkeep hother.2
            exact ⟨hend, hengine.trans hofficial⟩

theorem executeDue_noOrphan_official (b : Build) (envs : ℕ → EngineEnv E) {w : Worker E}
    {ps : List EnginePendingSandboxActivation} (h : DueOk w ps) (hc : Consistent w)
    (hno : NoOrphan w) (hkind : w.state.activityKind = .officialRace) :
    NoOrphan (executeDue b envs w ps).1 ↔ PassKeeps b envs ps := by
  induction ps generalizing envs w with
  | nil => simpa [executeDue, PassKeeps] using hno
  | cons p ps ih =>
      have hready := h.ready p List.mem_cons_self
      have hstep := executeDueEntry_dueStep b (envs 0) hready
      have hrest := h.step hstep
      have hhead := (List.nodup_cons.mp h.distinct).1
      unfold executeDue PassKeeps
      dsimp only
      generalize executeDueEntry b (envs 0) w p = r at hstep hrest ⊢
      cases hstep with
      | failed err hact hbuild => simpa [DueOutcome.error?, hact, hbuild] using hno
      | activated slot mapId preset hact hbuild =>
          -- the rest of the pass cannot undo it: it names other sandboxes
          have hin := (mem_activeIds_enterSandbox slot mapId preset (hready.inactive hact)).mpr
            (Or.inl rfl)
          obtain ⟨hend, hengine⟩ := executeDue_stays_sandbox b (fun k => envs (k + 1)) hrest rfl
            hin hhead
          simp only [DueOutcome.error?, hact, hbuild, if_true, not_true, iff_false]
          intro hbad
          have hsome := hc.official hkind
          have hofficial := hbad.official (by rw [hengine]; exact hsome)
          exact absurd (hend.symm.trans hofficial) (by simp)
      | deactivated hact =>
          have htidy : Tidy w (w.leaveSandbox p.sandboxId).bump := .leaveSandbox p.sandboxId
          have hsame : (w.leaveSandbox p.sandboxId).bump.state.activityKind = .officialRace := by
            rcases leaveSandbox_kind w p.sandboxId with ⟨-, hwas, -⟩ | ⟨-, -, hsame⟩
            · exact absurd (hkind.symm.trans hwas) (by simp)
            · exact hsame.trans hkind
          have hiff := ih (fun k => envs (k + 1)) hrest (hc.change (.tidy htidy))
            (hno.tidy hc htidy) hsame
          simpa [DueOutcome.error?, hact] using hiff

theorem executeDue_noOrphan_other (b : Build) (envs : ℕ → EngineEnv E) {w : Worker E}
    {ps : List EnginePendingSandboxActivation} (h : DueOk w ps) (hc : Consistent w)
    (hno : NoOrphan w) (hkind : w.state.activityKind ≠ .officialRace) :
    NoOrphan (executeDue b envs w ps).1 := by
  induction ps generalizing envs w with
  | nil => exact hno
  | cons p ps ih =>
      have hready := h.ready p List.mem_cons_self
      have hstep := executeDueEntry_dueStep b (envs 0) hready
      have hrest := h.step hstep
      rw [executeDue]
      dsimp only
      generalize executeDueEntry b (envs 0) w p = r at hstep hrest ⊢
      cases hstep with
      | failed err hact hbuild => exact hno
      | activated slot mapId preset hact hbuild =>
          have hchange : Change w (w.enterSandbox slot p.sandboxId mapId preset).bump :=
            .enterSandbox slot p.sandboxId mapId preset (hready.inactive hact)
          have hnext := (noOrphan_enterSandbox_iff hno hc slot p.sandboxId mapId preset).mpr hkind
          exact ih (fun k => envs (k + 1)) hrest (hc.change hchange) hnext
            (by simp [Worker.bump, Worker.enterSandbox])
      | deactivated hact =>
          have htidy : Tidy w (w.leaveSandbox p.sandboxId).bump := .leaveSandbox p.sandboxId
          refine ih (fun k => envs (k + 1)) hrest (hc.change (.tidy htidy)) (hno.tidy hc htidy) ?_
          rcases leaveSandbox_kind w p.sandboxId with ⟨-, -, -, hend⟩ | ⟨-, -, hend⟩
          · simp only [Worker.bump]
            rw [hend]
            split <;> simp
          · simp only [Worker.bump]
            rw [hend]
            exact hkind

/-! ## Whole runs -/

/-- The event orphans no world: a sandbox is admitted only while no
official race runs, and a switch to no activity only without a local
race. -/
def Keeps (b : Build) (w : Worker E) : WorkerEvent E → Prop
  | .command env (.switchRuntime expectedRevision .sandbox mapId (some sandboxId) preset ghost) =>
      w.state.revision = expectedRevision →
        (∃ slot, SandboxAdmitted b env w sandboxId mapId (preset.getD w.state.timeOfDayPreset)
          ghost slot) → w.state.activityKind ≠ .officialRace
  | .command _ (.switchRuntime expectedRevision .none mapId _ _ _) =>
      w.state.revision = expectedRevision → validateMapId b mapId = .ok () →
        w.state.activeLocalRace = none
  | .duePass envs now =>
      w.state.activityKind = .officialRace → PassKeeps b envs (duePending w now)
  | _ => True

theorem refusedOr_tidy_noOrphan {w : Worker E} {rev : ℕ} {r : Outcome E EngineRuntimeState}
    (hno : NoOrphan w) (hc : Consistent w) (h : RefusedOr Tidy w rev r) : NoOrphan r.1 := by
  rcases h with ⟨err, rfl⟩ | ⟨-, w', htidy, rfl⟩
  · exact hno
  · exact hno.tidy hc htidy

theorem noOrphan_switchRuntime_iff {b : Build} {env : EngineEnv E} {w : Worker E}
    (hno : NoOrphan w) (hc : Consistent w) (rev : ℕ) (kind : EngineActivityKind) (mapId : String)
    (sandboxId : Option String) (preset : Option EngineRuntimeTimeOfDayPreset)
    (ghost : Option GhostModeSettings) :
    NoOrphan (switchRuntime b env w rev kind mapId sandboxId
        (preset.getD w.state.timeOfDayPreset) ghost).1 ↔
      Keeps b w (.command env (.switchRuntime rev kind mapId sandboxId preset ghost)) := by
  by_cases hrev : w.state.revision = rev
  · subst hrev
    cases kind with
    | none =>
        rw [switchRuntime, if_neg (not_not.mpr rfl)]
        cases hmap : validateMapId b mapId with
        | error err => simpa [Keeps, hmap] using hno
        | ok u => simpa [Keeps, hmap, commit] using noOrphan_enterNone_iff hc mapId _
    | officialRace =>
        rcases switchRuntime_official_cases b env w mapId sandboxId
          (preset.getD w.state.timeOfDayPreset) ghost with ⟨err, heq⟩ | ⟨slot, heq⟩
        · rw [heq]
          simpa [Keeps] using hno
        · rw [heq]
          simpa [Keeps, commit] using hno.tidy hc (.enterOfficialRace slot mapId _)
    | localRace =>
        rw [switchRuntime, if_neg (not_not.mpr rfl)]
        simpa [Keeps, invalidArgument] using hno
    | sandbox =>
        cases sandboxId with
        | none =>
            rw [switchRuntime, if_neg (not_not.mpr rfl)]
            simpa [Keeps, invalidArgument] using hno
        | some sandboxId =>
            rcases switchRuntime_sandbox_cases b env w sandboxId mapId
              (preset.getD w.state.timeOfDayPreset) ghost with ⟨slot, hadm, heq⟩ | ⟨err, hnot, heq⟩
            · rw [heq]
              simp only [Keeps, commit, true_imp_iff]
              rw [noOrphan_enterSandbox_iff hno hc slot sandboxId mapId _]
              exact ⟨fun hkind _ => hkind, fun hkeeps => hkeeps ⟨slot, hadm⟩⟩
            · rw [heq]
              simpa [Keeps, hnot] using hno
  · unfold switchRuntime
    rw [if_pos hrev]
    apply iff_of_true hno
    unfold Keeps
    split
    all_goals simp_all

theorem noOrphan_stepEvent_iff (b : Build) {w : Worker E} (ev : WorkerEvent E) (hs : Sound w)
    (hno : NoOrphan w) : NoOrphan (stepEvent b w ev) ↔ Keeps b w ev := by
  have hc := hs.consistent
  cases ev with
  | simulate target f =>
      have ht := (simulateWorld_worldTouch w f target).touch
      exact iff_of_true (hno.congr ht.activityKind ht.official ht.localRace ht.sandbox) trivial
  | duePass envs now =>
      have hdue := hs.queue.dueOk now
      by_cases hkind : w.state.activityKind = .officialRace
      · simp only [Keeps, hkind, true_imp_iff]
        exact executeDue_noOrphan_official b envs hdue hc hno hkind
      · exact iff_of_true (executeDue_noOrphan_other b envs hdue hc hno hkind)
          fun hofficial => (hkind hofficial).elim
  | command env cmd =>
      cases cmd with
      | switchRuntime rev kind mapId sandboxId preset ghost =>
          exact noOrphan_switchRuntime_iff hno hc rev kind mapId sandboxId preset ghost
      | slot target op =>
          have ht := (withTargetSlotMut_worldTouch target w
            fun slot => runSlotOp b env.api slot op).touch
          exact iff_of_true (hno.congr ht.activityKind ht.official ht.localRace ht.sandbox) trivial
      | getRuntimeState => exact iff_of_true hno trivial
      | setRuntimeTimeOfDay rev sandboxId preset =>
          exact iff_of_true (refusedOr_tidy_noOrphan hno hc
            (setRuntimeTimeOfDay_cases w rev sandboxId preset)) trivial
      | setPendingSandboxActivation rev pending =>
          exact iff_of_true (refusedOr_tidy_noOrphan hno hc
            (setPendingSandboxActivation_cases w rev pending)) trivial
      | cancelPendingSandboxActivation rev sandboxId =>
          refine iff_of_true ?_ trivial
          simp only [stepEvent, handleCommand]
          rcases cancelPendingSandboxActivation_cases w rev sandboxId with
            ⟨err, heq⟩ | ⟨-, w', canceled, rfl | htidy, heq⟩
          · rw [heq]
            exact hno
          · rw [heq]
            exact hno
          · rw [heq]
            exact hno.tidy hc htidy
      | deactivateSandbox rev sandboxId =>
          exact iff_of_true (refusedOr_tidy_noOrphan hno hc
            (deactivateSandbox_cases w rev sandboxId)) trivial
      | activateLocalRace rev raceId mapId preset ghost =>
          exact iff_of_true (refusedOr_tidy_noOrphan hno hc
            (activateLocalRace_cases b env w rev raceId mapId preset ghost)) trivial
      | deactivateLocalRace rev raceId =>
          exact iff_of_true (refusedOr_tidy_noOrphan hno hc
            (deactivateLocalRace_cases w rev raceId)) trivial
      | bumpRevision rev =>
          exact iff_of_true (refusedOr_tidy_noOrphan hno hc (bumpRevision_cases w rev)) trivial
      | setWeather sandboxId weather weatherNow =>
          have ht := setWeather_touch env w sandboxId weather weatherNow
          exact iff_of_true (hno.congr ht.activityKind ht.official ht.localRace ht.sandbox) trivial

/-- A run is free of orphaned worlds exactly when none of its events is a
switch that leaves one behind. -/
theorem no_orphan_world_iff (b : Build) (evs : List (WorkerEvent E)) :
    (∀ n, NoOrphan (GuardedRun.stateAt (stepEvent b) (Worker.initial E) evs n)) ↔
      GuardedRun.Along (Keeps b) (stepEvent b) (Worker.initial E) evs :=
  GuardedRun.forall_stateAt_iff_along (fun _ ev h => h.stepEvent ev)
    (fun _ ev hs hno => noOrphan_stepEvent_iff b ev hs hno) sound_initial noOrphan_initial

/-- The official race runs when a sandbox is activated: its world stays,
and nothing steps it any more. -/
theorem official_world_orphaned :
    ¬ NoOrphan ([.command CarWorld.env (.switchRuntime 0 .officialRace "track" none none none),
        .command CarWorld.env (.switchRuntime 1 .sandbox "track" (some "s") (some .noon) none)
      ].foldl (stepEvent .official) (Worker.initial CarWorld)) := by
  intro h
  have hkind := h.official (by decide)
  exact absurd hkind (by decide)

end HackArena.Runtime
