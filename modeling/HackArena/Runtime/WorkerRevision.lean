import HackArena.Runtime.PendingQueue

/-!
# Optimistic concurrency through the revision

Clients read the runtime state and send commands that are conditional on
the revision they have seen. Every change advances the revision and every
touch leaves all but the weather alone, so the revision identifies the
state until the counter saturates.
-/

namespace HackArena.Runtime

open Boink GuardedRun

variable {E : Type}

theorem leaveSandbox_revision (w : Worker E) (sandboxId : String) :
    (w.leaveSandbox sandboxId).state.revision = w.state.revision := by
  rw [Worker.leaveSandbox]
  dsimp only
  split
  · split <;> rfl
  · rfl

theorem enterLocalRace_revision (w : Worker E) (slot : EngineWorldSlot E) (raceId mapId : String)
    (preset : EngineRuntimeTimeOfDayPreset) :
    (w.enterLocalRace slot raceId mapId preset).state.revision = w.state.revision := by
  rw [Worker.enterLocalRace]
  dsimp only
  split <;> rfl

theorem leaveLocalRace_revision (w : Worker E) (raceId : String) :
    (w.leaveLocalRace raceId).state.revision = w.state.revision := by
  rw [Worker.leaveLocalRace]
  dsimp only
  split <;> rfl

theorem Tidy.revision {w w' : Worker E} (h : Tidy w w') :
    w'.state.revision = saturatingAdd w.state.revision 1 := by
  cases h with
  | enterOfficialRace slot mapId preset => rfl
  | leaveSandbox sandboxId =>
      exact congrArg (saturatingAdd · 1) (leaveSandbox_revision w sandboxId)
  | enterLocalRace slot raceId mapId preset hidle =>
      exact congrArg (saturatingAdd · 1) (enterLocalRace_revision w slot raceId mapId preset)
  | leaveLocalRace raceId hactive =>
      exact congrArg (saturatingAdd · 1) (leaveLocalRace_revision w raceId)
  | bump => rfl
  | overrideTimeOfDay sandboxId preset => rfl
  | putPending p hpayload hinactive => rfl
  | dropPending sandboxId => rfl

theorem Change.revision {w w' : Worker E} (h : Change w w') :
    w'.state.revision = saturatingAdd w.state.revision 1 := by
  cases h with
  | enterNone mapId preset => rfl
  | enterSandbox slot sandboxId mapId preset hinactive => rfl
  | tidy htidy => exact htidy.revision

theorem Touch.revision {w w' : Worker E} (h : Touch w w') :
    w'.state.revision = w.state.revision := by
  have hstrip := congrArg EngineRuntimeState.revision h.state
  exact hstrip

/-- The counter stays in range, which saturation needs to be monotone. -/
structure Revised (w : Worker E) : Prop where
  queue : QueueOk w.state
  bounded : w.state.revision ≤ u64Max

theorem revised_initial : Revised (Worker.initial E) := ⟨queueOk_initial, Nat.zero_le _⟩

theorem Revised.stepEvent {b : Build} {w : Worker E} (h : Revised w) (ev : WorkerEvent E) :
    Revised (stepEvent b w ev) := by
  refine ⟨h.queue.stepEvent ev, ?_⟩
  refine stepEvent_invariant (I := fun w : Worker E => w.state.revision ≤ u64Max) ?_ ?_ b h.queue
    h.bounded ev
  · intro v v' _ hchange
    rw [hchange.revision]
    exact Nat.min_le_right _ _
  · intro v v' hv htouch
    rw [htouch.revision]
    exact hv

/-- A later state has a larger revision, or the same one and the same
state up to weather, as long as the counter is not saturated. -/
structure Later (w w' : Worker E) : Prop where
  revision : w.state.revision ≤ w'.state.revision
  same : w.state.revision = w'.state.revision → w.state.revision < u64Max →
    w'.state.stripWeather = w.state.stripWeather

theorem Later.refl (w : Worker E) : Later w w := ⟨le_rfl, fun _ _ => rfl⟩

theorem Later.trans {u v w : Worker E} (huv : Later u v) (hvw : Later v w) : Later u w := by
  refine ⟨huv.revision.trans hvw.revision, fun heq hlt => ?_⟩
  have hle := huv.revision
  have hle' := hvw.revision
  have huv' : u.state.revision = v.state.revision := by omega
  have hvw' : v.state.revision = w.state.revision := by omega
  exact (hvw.same hvw' (by omega)).trans (huv.same huv' hlt)

theorem Touch.later {w w' : Worker E} (h : Touch w w') : Later w w' :=
  ⟨h.revision.ge, fun _ _ => h.state⟩

theorem Change.later {w w' : Worker E} (h : Change w w') (hw : w.state.revision ≤ u64Max) :
    Later w w' := by
  have hrev := h.revision
  rw [saturatingAdd] at hrev
  exact ⟨by omega, fun heq hlt => by omega⟩

theorem later_stepEvent {b : Build} {w : Worker E} (h : Revised w) (ev : WorkerEvent E) :
    Later w (stepEvent b w ev) := by
  -- carry the range along the changes of a pass
  have hrun : w.state.revision ≤ u64Max ∧ Later w w := ⟨h.bounded, Later.refl w⟩
  refine (stepEvent_invariant
    (I := fun v : Worker E => v.state.revision ≤ u64Max ∧ Later w v) ?_ ?_ b h.queue hrun ev).2
  · rintro v v' ⟨hv, hlater⟩ hchange
    refine ⟨?_, hlater.trans (hchange.later hv)⟩
    rw [hchange.revision]
    exact Nat.min_le_right _ _
  · rintro v v' ⟨hv, hlater⟩ htouch
    exact ⟨htouch.revision ▸ hv, hlater.trans htouch.later⟩

theorem stateAt_later (b : Build) (evs : List (WorkerEvent E)) {m n : ℕ} (hmn : m ≤ n) :
    Later (stateAt (stepEvent b) (Worker.initial E) evs m)
      (stateAt (stepEvent b) (Worker.initial E) evs n) :=
  stateAt_rel Later.refl (fun _ _ _ => Later.trans) (fun _ ev h => h.stepEvent ev)
    (fun _ ev h => later_stepEvent h ev) revised_initial hmn

/-- The command is answered Ok and has changed the runtime state. -/
def Succeeds (b : Build) (w : Worker E) (env : EngineEnv E) (cmd : EngineCommand) : Prop :=
  (handleCommand b env w cmd).2.isErr = false ∧ (handleCommand b env w cmd).1.state ≠ w.state

theorem Succeeds.revision {b : Build} {w : Worker E} {env : EngineEnv E} {cmd : EngineCommand}
    {r : ℕ} (h : Succeeds b w env cmd) (hcmd : cmd.expectedRevision? = some r) :
    w.state.revision = r ∧ (handleCommand b env w cmd).1.state.revision = saturatingAdd r 1 := by
  rcases handleCommand_revisioned b env w hcmd with ⟨-, herr⟩ | ⟨hrev, -, hsame | hchange⟩
  · exact absurd (herr.symm.trans h.1) (by simp)
  · exact (h.2 (congrArg Worker.state hsame)).elim
  · exact ⟨hrev, hrev ▸ hchange.revision⟩

/-- Of two commands with one expected revision, the earlier one that
succeeds makes the later one fail. -/
theorem succeeds_once {b : Build} {evs : List (WorkerEvent E)} {m n r : ℕ}
    {env env' : EngineEnv E} {cmd cmd' : EngineCommand} (hmn : m < n)
    (hm : evs[m]? = some (.command env cmd)) (hcmd : cmd.expectedRevision? = some r)
    (hcmd' : cmd'.expectedRevision? = some r) (hr : r < u64Max)
    (hfirst : Succeeds b (stateAt (stepEvent b) (Worker.initial E) evs m) env cmd) :
    ¬ Succeeds b (stateAt (stepEvent b) (Worker.initial E) evs n) env' cmd' := by
  intro hsecond
  obtain ⟨hlen, hget⟩ := List.getElem?_eq_some_iff.mp hm
  have hnext : (stateAt (stepEvent b) (Worker.initial E) evs (m + 1)).state.revision = r + 1 := by
    rw [stateAt_succ hlen, hget]
    have hrev := (hfirst.revision hcmd).2
    rw [saturatingAdd] at hrev
    exact hrev.trans (by omega)
  have hle := (stateAt_later b evs (by omega : m + 1 ≤ n)).revision
  have hsame := (hsecond.revision hcmd').1
  omega

/-- The revision orders the states of every run; a refused command does
nothing; of the commands sent at one revision at most one succeeds; and
one revision stands for one state, up to weather. -/
theorem revision_orders_runs (b : Build) (evs : List (WorkerEvent E)) :
    let w := stateAt (stepEvent b) (Worker.initial E) evs
    (∀ m n, m ≤ n → (w m).state.revision ≤ (w n).state.revision) ∧
      (∀ n env cmd, cmd.expectedRevision?.isSome = true →
        (handleCommand b env (w n) cmd).2.isErr = true →
          (handleCommand b env (w n) cmd).1 = w n) ∧
      (∀ r < u64Max, ∀ m n env env' cmd cmd', evs[m]? = some (.command env cmd) →
        evs[n]? = some (.command env' cmd') → cmd.expectedRevision? = some r →
        cmd'.expectedRevision? = some r → Succeeds b (w m) env cmd →
        Succeeds b (w n) env' cmd' → m = n) ∧
      (∀ m n, (w m).state.revision = (w n).state.revision →
        (w m).state.revision < u64Max →
          (w m).state.stripWeather = (w n).state.stripWeather) := by
  intro w
  refine ⟨fun m n hmn => (stateAt_later b evs hmn).revision, ?_, ?_, ?_⟩
  · intro n env cmd hcmd herr
    obtain ⟨r, hr⟩ := Option.isSome_iff_exists.mp hcmd
    rcases handleCommand_revisioned b env (w n) hr with ⟨hsame, -⟩ | ⟨-, hok, -⟩
    · exact hsame
    · exact absurd (herr.symm.trans hok) (by simp)
  · intro r hr m n env env' cmd cmd' hm hn hcmd hcmd' hsucc hsucc'
    rcases Nat.lt_trichotomy m n with hlt | heq | hgt
    · exact (succeeds_once hlt hm hcmd hcmd' hr hsucc hsucc').elim
    · exact heq
    · exact (succeeds_once hgt hn hcmd' hcmd hr hsucc' hsucc).elim
  · intro m n heq hlt
    rcases Nat.le_total m n with hmn | hnm
    · exact ((stateAt_later b evs hmn).same heq hlt).symm
    · exact (stateAt_later b evs hnm).same heq.symm (heq ▸ hlt)

end HackArena.Runtime
