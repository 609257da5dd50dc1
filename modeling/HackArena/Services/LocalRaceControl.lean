import HackArena.Lib.GuardedRun
import HackArena.Runtime.CarWorld
import HackArena.Runtime.WorkerTransition
import HackArena.Services.LocalRaceAdmin

/-!
# A local race stays under control

The engine worker and the race store each know of one local race. What
matters for their agreement is which race each of them has, and which
race a request under way has created, may still take out of the engine,
or is about to clear. This is an abstract machine on ids; the
administration requests refine it, and the agreement is an invariant of
the machine as long as no race is cleared that the engine still has.
-/

namespace HackArena.Services

open Boink HackArena.Runtime HackArena.Local GuardedRun

variable {E : Type}

/-! ## The machine on ids -/

/-- What a request under way is about to do with a race. -/
inductive Hold where
  | publish (raceId : String)
  | release (raceId : String)
  | clear (raceId : String)

structure RaceView where
  engine : Option String
  store : Option String
  holds : ℕ → Option Hold
  drawn : List String

/-- A request is about to store the race. -/
def RaceView.Pending (v : RaceView) (raceId : String) : Prop :=
  ∃ id, v.holds id = some (.publish raceId)

/-- One step. `aborted` is the branch of a close that leaves the engine
alone; in a `safe` step the engine has lost the race before. -/
inductive RaceView.Step (safe : Prop) (v : RaceView) : RaceView → Prop
  | keep (id : ℕ) (h : Option Hold) (drawn : List String) (hdrawn : v.drawn ⊆ drawn)
      (hnew : ∀ x, h = some x → v.holds id = some x ∨
        ∃ raceId, x = .release raceId ∧ v.store = some raceId)
      (hkept : ∀ raceId, v.holds id = some (.publish raceId) → h = some (.publish raceId)) :
      Step safe v { v with holds := Function.update v.holds id h, drawn := drawn }
  | activate (id : ℕ) (raceId : String) (hid : v.holds id = none) (hidle : v.engine = none)
      (hfresh : raceId ∉ v.drawn) :
      Step safe v ⟨some raceId, v.store,
        Function.update v.holds id (some (.publish raceId)), raceId :: v.drawn⟩
  | publish (id : ℕ) (raceId : String) (hid : v.holds id = some (.publish raceId)) :
      Step safe v { v with store := some raceId, holds := Function.update v.holds id none }
  | release (id : ℕ) (raceId : String) (h : Option Hold)
      (hid : v.holds id = some (.release raceId)) (hengine : v.engine = some raceId)
      (hnew : h = none ∨ h = some (.clear raceId)) :
      Step safe v { v with engine := none, holds := Function.update v.holds id h }
  | aborted (id : ℕ) (raceId : String) (hid : v.holds id = some (.release raceId))
      (hsafe : safe → v.engine ≠ some raceId) :
      Step safe v { v with holds := Function.update v.holds id (some (.clear raceId)) }
  | clear (id : ℕ) (raceId : String) (hid : v.holds id = some (.clear raceId))
      (hstore : v.store = some raceId) :
      Step safe v { v with store := none, holds := Function.update v.holds id none }

/-- A race is stored by the request that has drawn its id, once, before
anything else is done with it. -/
structure RaceView.IdsOk (v : RaceView) : Prop where
  stored : ∀ {raceId}, v.store = some raceId → raceId ∈ v.drawn ∧ ¬ v.Pending raceId
  published : ∀ {id raceId}, v.holds id = some (.publish raceId) → raceId ∈ v.drawn
  released : ∀ {id raceId}, v.holds id = some (.release raceId) →
    raceId ∈ v.drawn ∧ ¬ v.Pending raceId
  cleared : ∀ {id raceId}, v.holds id = some (.clear raceId) →
    raceId ∈ v.drawn ∧ ¬ v.Pending raceId
  single : ∀ {id id' raceId}, v.holds id = some (.publish raceId) →
    v.holds id' = some (.publish raceId) → id = id'

structure RaceView.Controlled (v : RaceView) : Prop where
  engine : ∀ {raceId}, v.engine = some raceId → v.store = some raceId ∨ v.Pending raceId
  pending : ∀ {raceId}, v.Pending raceId → v.engine = some raceId
  cleared : ∀ {id raceId}, v.holds id = some (.clear raceId) → v.engine ≠ some raceId

section Machine

variable {safe : Prop} {v v' : RaceView}

theorem update_eq_some {f : ℕ → Option Hold} {id id' : ℕ} {h : Option Hold} {x : Hold}
    (hx : Function.update f id h id' = some x) : id' = id ∧ h = some x ∨ f id' = some x := by
  by_cases heq : id' = id
  · rw [heq, Function.update_self] at hx
    exact Or.inl ⟨heq, hx⟩
  · rw [Function.update_of_ne heq] at hx
    exact Or.inr hx

theorem update_eq_publish {f : ℕ → Option Hold} {id id' : ℕ} {h : Option Hold} {raceId : String}
    (hp : f id' = some (.publish raceId))
    (hkept : f id = some (.publish raceId) → h = some (.publish raceId)) :
    Function.update f id h id' = some (.publish raceId) := by
  by_cases heq : id' = id
  · rw [heq, Function.update_self]
    exact hkept (heq ▸ hp)
  · rwa [Function.update_of_ne heq]

/-- Where the intent of a request comes from. -/
theorem RaceView.Step.holds (h : v.Step safe v') {id : ℕ} {x : Hold}
    (hx : v'.holds id = some x) :
    v.holds id = some x ∨ (∃ raceId, x = .release raceId ∧ v.store = some raceId) ∨
      (∃ raceId, x = .clear raceId ∧ v.holds id = some (.release raceId)) ∨
      (∃ raceId, x = .publish raceId ∧ raceId ∉ v.drawn ∧ raceId ∈ v'.drawn ∧
        ∀ other, v'.holds other = some x → other = id ∨ v.holds other = some x) := by
  cases h with
  | keep id' h drawn hdrawn hnew hkept =>
      rcases update_eq_some hx with ⟨rfl, hupd⟩ | hold
      · exact (hnew x hupd).imp_right Or.inl
      · exact Or.inl hold
  | activate id' raceId hid hidle hfresh =>
      rcases update_eq_some hx with ⟨rfl, hupd⟩ | hold
      · cases hupd
        refine Or.inr (Or.inr (Or.inr ⟨raceId, rfl, hfresh, List.mem_cons_self, ?_⟩))
        exact fun other hother => (update_eq_some hother).imp_left And.left
      · exact Or.inl hold
  | publish id' raceId hid =>
      rcases update_eq_some hx with ⟨-, hupd⟩ | hold
      · cases hupd
      · exact Or.inl hold
  | release id' raceId h hid hengine hnew =>
      rcases update_eq_some hx with ⟨rfl, hupd⟩ | hold
      · rcases hnew with rfl | rfl
        · cases hupd
        · cases hupd
          exact Or.inr (Or.inr (Or.inl ⟨raceId, rfl, hid⟩))
      · exact Or.inl hold
  | aborted id' raceId hid hsafe =>
      rcases update_eq_some hx with ⟨rfl, hupd⟩ | hold
      · cases hupd
        exact Or.inr (Or.inr (Or.inl ⟨raceId, rfl, hid⟩))
      · exact Or.inl hold
  | clear id' raceId hid hstore =>
      rcases update_eq_some hx with ⟨-, hupd⟩ | hold
      · cases hupd
      · exact Or.inl hold

theorem RaceView.Step.drawn (h : v.Step safe v') : v.drawn ⊆ v'.drawn := by
  cases h with
  | activate id raceId hid hidle hfresh => exact List.subset_cons_self _ _
  | keep id h drawn hdrawn hnew hkept => exact hdrawn
  | _ => exact List.Subset.refl _

/-- A step adds no pending race whose id was drawn before. -/
theorem RaceView.Step.pending (h : v.Step safe v') {raceId : String} (hp : v'.Pending raceId) :
    v.Pending raceId ∨ raceId ∉ v.drawn := by
  obtain ⟨id, hp⟩ := hp
  rcases h.holds hp with hold | ⟨_, heq, -⟩ | ⟨_, heq, -⟩ | ⟨_, heq, hfresh, -⟩
  · exact Or.inl ⟨id, hold⟩
  · cases heq
  · cases heq
  · cases heq
    exact Or.inr hfresh

/-- A race that is drawn and no longer pending stays so. -/
theorem RaceView.Step.settled (h : v.Step safe v') {raceId : String}
    (hr : raceId ∈ v.drawn ∧ ¬ v.Pending raceId) :
    raceId ∈ v'.drawn ∧ ¬ v'.Pending raceId := by
  refine ⟨h.drawn hr.1, fun hp => ?_⟩
  rcases h.pending hp with hold | hfresh
  · exact hr.2 hold
  · exact hfresh hr.1

/-- The request that stores a race is the only one that holds it, so the
race is settled afterwards. -/
theorem RaceView.IdsOk.stored_step (hv : v.IdsOk) (h : v.Step safe v') {raceId : String}
    (hs : v'.store = some raceId) : raceId ∈ v'.drawn ∧ ¬ v'.Pending raceId := by
  by_cases hsame : v.store = some raceId
  · exact h.settled (hv.stored hsame)
  · cases h with
    | publish id stored hid =>
        cases hs
        refine ⟨hv.published hid, ?_⟩
        rintro ⟨id', hp⟩
        change Function.update v.holds id none id' = _ at hp
        by_cases heq : id' = id
        · rw [heq, Function.update_self] at hp
          cases hp
        · rw [Function.update_of_ne heq] at hp
          exact heq (hv.single hp hid)
    | clear id cleared hid hstore => cases hs
    | _ => exact absurd hs hsame

theorem RaceView.IdsOk.step (hv : v.IdsOk) (h : v.Step safe v') : v'.IdsOk where
  stored := hv.stored_step h
  published := fun hx => by
    rcases h.holds hx with hold | ⟨_, heq, -⟩ | ⟨_, heq, -⟩ | ⟨_, heq, -, hdrawn, -⟩
    · exact h.drawn (hv.published hold)
    · cases heq
    · cases heq
    · cases heq
      exact hdrawn
  released := fun hx => by
    rcases h.holds hx with hold | ⟨_, heq, hstore⟩ | ⟨_, heq, -⟩ | ⟨_, heq, -⟩
    · exact h.settled (hv.released hold)
    · cases heq
      exact h.settled (hv.stored hstore)
    · cases heq
    · cases heq
  cleared := fun hx => by
    rcases h.holds hx with hold | ⟨_, heq, -⟩ | ⟨_, heq, hrelease⟩ | ⟨_, heq, -⟩
    · exact h.settled (hv.cleared hold)
    · cases heq
    · cases heq
      exact h.settled (hv.released hrelease)
    · cases heq
  single := fun hx hx' => by
    -- of two requests with one id, at most one can be new
    rcases h.holds hx with hold | ⟨_, heq, -⟩ | ⟨_, heq, -⟩ | ⟨_, heq, hfresh, -, hothers⟩
    · rcases h.holds hx' with hold' | ⟨_, heq, -⟩ | ⟨_, heq, -⟩ | ⟨_, heq, hfresh, -⟩
      · exact hv.single hold hold'
      · cases heq
      · cases heq
      · cases heq
        exact absurd (hv.published hold) hfresh
    · cases heq
    · cases heq
    · cases heq
      rcases hothers _ hx' with hsame | hold
      · exact hsame.symm
      · exact absurd (hv.published hold) hfresh

theorem RaceView.Controlled.step (hids : v.IdsOk) (hv : v.Controlled) (h : v.Step safe v')
    (hsafe : safe) : v'.Controlled := by
  cases h with
  | keep id h drawn hdrawn hnew hkept =>
      refine ⟨fun he => ?_, fun hp => ?_, fun hx => ?_⟩
      · exact (hv.engine he).imp_right fun ⟨id', hp⟩ => ⟨id', update_eq_publish hp (hkept _)⟩
      · obtain ⟨id', hp⟩ := hp
        rcases update_eq_some hp with ⟨-, hx⟩ | hx
        · rcases hnew _ hx with hold | ⟨_, heq, -⟩
          · exact hv.pending ⟨id, hold⟩
          · cases heq
        · exact hv.pending ⟨id', hx⟩
      · rcases update_eq_some hx with ⟨-, hx⟩ | hx
        · rcases hnew _ hx with hold | ⟨_, heq, -⟩
          · exact hv.cleared hold
          · cases heq
        · exact hv.cleared hx
  | activate id raceId hid hidle hfresh =>
      refine ⟨fun he => ?_, fun hp => ?_, fun hx he => ?_⟩
      · cases he
        exact Or.inr ⟨id, Function.update_self ..⟩
      · obtain ⟨id', hp⟩ := hp
        rcases update_eq_some hp with ⟨-, hx⟩ | hx
        · cases hx
          rfl
        · exact absurd (hv.pending ⟨id', hx⟩) (by simp [hidle])
      · cases he
        rcases update_eq_some hx with ⟨-, hx⟩ | hx
        · cases hx
        · exact hfresh (hids.cleared hx).1
  | publish id raceId hid =>
      have hengine := hv.pending ⟨id, hid⟩
      refine ⟨fun he => ?_, fun hp => ?_, fun hx => ?_⟩
      · exact Or.inl (hengine.symm.trans he)
      · obtain ⟨id', hp⟩ := hp
        rcases update_eq_some hp with ⟨-, hx⟩ | hx
        · cases hx
        · exact hv.pending ⟨id', hx⟩
      · rcases update_eq_some hx with ⟨-, hx⟩ | hx
        · cases hx
        · exact hv.cleared hx
  | release id raceId h hid hengine hnew =>
      refine ⟨by simp, fun {pending} hp => ?_, by simp⟩
      -- the engine can only have had the pending race
      obtain ⟨id', hp⟩ := hp
      have hp' : v.Pending pending := by
        rcases update_eq_some hp with ⟨-, hx⟩ | hx
        · rcases hnew with rfl | rfl <;> cases hx
        · exact ⟨id', hx⟩
      obtain rfl := Option.some.inj (hengine.symm.trans (hv.pending hp'))
      exact absurd hp' (hids.released hid).2
  | aborted id raceId hid hcond =>
      refine ⟨fun he => ?_, fun hp => ?_, fun hx => ?_⟩
      · refine (hv.engine he).imp_right fun ⟨id', hp⟩ => ⟨id', update_eq_publish hp ?_⟩
        exact fun hp => absurd (hp.symm.trans hid) (by simp)
      · obtain ⟨id', hp⟩ := hp
        rcases update_eq_some hp with ⟨-, hx⟩ | hx
        · cases hx
        · exact hv.pending ⟨id', hx⟩
      · rcases update_eq_some hx with ⟨-, hx⟩ | hx
        · cases hx
          exact hcond hsafe
        · exact hv.cleared hx
  | clear id raceId hid hstore =>
      refine ⟨fun he => Or.inr ?_, fun hp => ?_, fun hx => ?_⟩
      · rcases hv.engine he with hs | ⟨id', hp⟩
        · obtain rfl := Option.some.inj (hstore.symm.trans hs)
          exact absurd he (hv.cleared hid)
        · exact ⟨id', update_eq_publish hp fun hp => absurd (hp.symm.trans hid) (by simp)⟩
      · obtain ⟨id', hp⟩ := hp
        rcases update_eq_some hp with ⟨-, hx⟩ | hx
        · cases hx
        · exact hv.pending ⟨id', hx⟩
      · rcases update_eq_some hx with ⟨-, hx⟩ | hx
        · cases hx
        · exact hv.cleared hx

end Machine

/-! ## The requests refine the machine -/

def RaceRequest.hold : RaceRequest → Option Hold
  | .activated _ raceId _ _ => some (.publish raceId)
  | .abortWritten _ raceId | .closeAdmitted _ raceId _ => some (.release raceId)
  | .closeReleased raceId _ => some (.clear raceId)
  | .startAdmitted .. | .startStaged .. | .startWritten .. | .abortAdmitted .. | .answered _ =>
      none

/-- The race that the engine worker has. -/
def RaceSystem.engineRace (s : RaceSystem E) : Option String :=
  s.worker.state.activeLocalRace.map (·.raceId)

def RaceSystem.view (s : RaceSystem E) : RaceView where
  engine := s.engineRace
  store := s.races.activeId
  holds := fun id => (s.requests id).bind RaceRequest.hold
  drawn := s.drawn

/-- When a close has found its race aborted, not finished, and its
revision is accepted, the engine does not have the race any more. -/
def CloseSound (s : RaceSystem E) : RaceEvent E → Prop
  | .closeRelease id => ∀ expectedRevision raceId phase,
      s.requests id = some (.closeAdmitted expectedRevision raceId phase) → phase ≠ .finished →
        s.worker.state.revision = expectedRevision → s.engineRace ≠ some raceId
  | _ => True

section Foreign

variable (b : Build) (env : EngineEnv E) (w : Worker E)

theorem leaveSandbox_activeLocalRace (sandboxId : String) :
    (w.leaveSandbox sandboxId).state.activeLocalRace = w.state.activeLocalRace := by
  rw [Worker.leaveSandbox]
  dsimp only
  split
  · split <;> rfl
  · rfl

theorem switchRuntime_activeLocalRace (rev : ℕ) (kind : EngineActivityKind) (mapId : String)
    (sandboxId : Option String) (preset : EngineRuntimeTimeOfDayPreset)
    (ghost : Option GhostModeSettings) :
    (switchRuntime b env w rev kind mapId sandboxId preset ghost).1.state.activeLocalRace =
      w.state.activeLocalRace := by
  by_cases hrev : w.state.revision = rev
  · subst hrev
    cases kind with
    | none =>
        rw [switchRuntime, if_neg (not_not.mpr rfl)]
        cases hmap : validateMapId b mapId <;> rfl
    | officialRace =>
        rcases switchRuntime_official_cases b env w mapId sandboxId preset ghost with
          ⟨err, heq⟩ | ⟨slot, heq⟩
        · rw [heq]
        · rw [heq]
          rfl
    | localRace =>
        rw [switchRuntime, if_neg (not_not.mpr rfl)]
        rfl
    | sandbox =>
        cases sandboxId with
        | none =>
            rw [switchRuntime, if_neg (not_not.mpr rfl)]
            rfl
        | some sandboxId =>
            rcases switchRuntime_sandbox_cases b env w sandboxId mapId preset ghost with
              ⟨slot, -, heq⟩ | ⟨err, -, heq⟩
            · rw [heq]
              rfl
            · rw [heq]
  · unfold switchRuntime
    rw [if_pos hrev]
    rfl

theorem deactivateSandbox_activeLocalRace (rev : ℕ) (sandboxId : String) :
    (deactivateSandbox w rev sandboxId).1.state.activeLocalRace = w.state.activeLocalRace := by
  rw [deactivateSandbox]
  split
  · rfl
  · split
    · rfl
    · exact leaveSandbox_activeLocalRace w sandboxId

theorem setRuntimeTimeOfDay_activeLocalRace (rev : ℕ) (sandboxId : Option String)
    (preset : EngineRuntimeTimeOfDayPreset) :
    (setRuntimeTimeOfDay w rev sandboxId preset).1.state.activeLocalRace =
      w.state.activeLocalRace := by
  have happly (target : String) :
      (if isSandboxActive w.state target then commit (w.overrideTimeOfDay target preset)
        else invalidArgument w
          "sandbox_id does not match active sandbox session").1.state.activeLocalRace =
        w.state.activeLocalRace := by
    split <;> rfl
  rw [setRuntimeTimeOfDay]
  split
  · rfl
  · split
    · rfl
    · split
      · rfl
      · cases sandboxId with
        | some sandboxId =>
            dsimp only
            split
            · rfl
            · exact happly sandboxId
        | none =>
            dsimp only
            split
            · exact happly _
            · rfl

theorem handleCommand_activeLocalRace {cmd : EngineCommand}
    (h : ForeignEvent (.command env cmd)) :
    (handleCommand b env w cmd).1.state.activeLocalRace = w.state.activeLocalRace := by
  cases cmd with
  | slot target op =>
      exact congrArg _ (withTargetSlotMut_worldTouch target w _).state
  | getRuntimeState => rfl
  | switchRuntime rev kind mapId sandboxId preset ghost =>
      exact switchRuntime_activeLocalRace b env w rev kind mapId sandboxId _ ghost
  | setRuntimeTimeOfDay rev sandboxId preset =>
      exact setRuntimeTimeOfDay_activeLocalRace w rev sandboxId preset
  | setPendingSandboxActivation rev pending =>
      simp only [handleCommand, asRuntime, setPendingSandboxActivation]
      split
      · rfl
      · split <;> rfl
  | cancelPendingSandboxActivation rev sandboxId =>
      simp only [handleCommand, cancelPendingSandboxActivation]
      split
      · rfl
      · split
        · rfl
        · dsimp only
          split <;> rfl
  | deactivateSandbox rev sandboxId => exact deactivateSandbox_activeLocalRace w rev sandboxId
  | activateLocalRace rev raceId mapId preset ghost => exact h.elim
  | deactivateLocalRace rev raceId => exact h.elim
  | bumpRevision rev =>
      simp only [handleCommand, asRuntime, bumpRevision]
      split <;> rfl
  | setWeather sandboxId weather weatherNow =>
      have htouch := (setWeather_touch env w sandboxId weather weatherNow).state
      have hsame := congrArg EngineRuntimeState.activeLocalRace htouch
      exact hsame

theorem executeDueEntry_activeLocalRace (p : EnginePendingSandboxActivation) :
    (executeDueEntry b env w p).1.state.activeLocalRace = w.state.activeLocalRace := by
  rw [executeDueEntry]
  split
  · split
    · rfl
    · split
      · rfl
      · rfl
      · rfl
      · rename_i mapId preset ghost _ _ _
        have hswitch := switchRuntime_activeLocalRace b env w w.state.revision .sandbox mapId
          (some p.sandboxId) preset (some ghost)
        split <;> rename_i heq <;> rw [heq] at hswitch <;> exact hswitch
  · have hleave := deactivateSandbox_activeLocalRace w w.state.revision p.sandboxId
    split <;> rename_i heq <;> rw [heq] at hleave <;> exact hleave

theorem executeDue_activeLocalRace (envs : ℕ → EngineEnv E)
    (ps : List EnginePendingSandboxActivation) :
    (executeDue b envs w ps).1.state.activeLocalRace = w.state.activeLocalRace := by
  induction ps generalizing envs w with
  | nil => rfl
  | cons p ps ih =>
      have hentry := executeDueEntry_activeLocalRace b (envs 0) w p
      rw [executeDue]
      dsimp only
      split
      · exact hentry
      · exact (ih _ fun k => envs (k + 1)).trans hentry

theorem stepEvent_activeLocalRace {ev : WorkerEvent E} (h : ForeignEvent ev) :
    (stepEvent b w ev).state.activeLocalRace = w.state.activeLocalRace := by
  cases ev with
  | command env cmd => exact handleCommand_activeLocalRace b env w h
  | duePass envs now => exact executeDue_activeLocalRace b w envs _
  | simulate target f => exact congrArg _ (simulateWorld_worldTouch w f target).state

end Foreign

section Refinement

variable {b : Build} {safe : Prop} {s t : RaceSystem E} {id : ℕ}

theorem RaceSystem.view_put (s : RaceSystem E) (id : ℕ) (r : RaceRequest) :
    (s.put id r).view = { s.view with holds := Function.update s.view.holds id r.hold } := by
  have hholds : (s.put id r).view.holds = Function.update s.view.holds id r.hold := by
    funext id'
    by_cases heq : id' = id
    · simp [heq, RaceSystem.view, RaceSystem.put]
    · simp [heq, RaceSystem.view, RaceSystem.put]
  rw [← hholds]
  rfl

theorem view_holds {r : RaceRequest} (h : s.requests id = some r) : s.view.holds id = r.hold := by
  simp [RaceSystem.view, h]

/-- The request moves to a stage with no new intent. -/
theorem step_put {r : RaceRequest} (hview : t.view = { s.view with drawn := t.drawn })
    (hdrawn : s.drawn ⊆ t.drawn)
    (hnew : ∀ x, r.hold = some x → s.view.holds id = some x ∨
      ∃ raceId, x = .release raceId ∧ s.view.store = some raceId)
    (hkept : ∀ raceId, s.view.holds id ≠ some (.publish raceId)) :
    s.view.Step safe (t.put id r).view := by
  rw [RaceSystem.view_put, hview]
  exact .keep id r.hold t.drawn hdrawn hnew fun raceId h => absurd h (hkept raceId)

theorem step_next {R : Type} {result : Except Status R} {proceed : R → RaceRequest}
    (hview : t.view = s.view)
    (hnew : ∀ value, result = .ok value → ∀ x, (proceed value).hold = some x →
      s.view.holds id = some x ∨ ∃ raceId, x = .release raceId ∧ s.view.store = some raceId)
    (hkept : ∀ raceId, s.view.holds id ≠ some (.publish raceId)) :
    s.view.Step safe (t.next id result proceed).view := by
  have hdrawn : t.drawn = s.drawn := congrArg RaceView.drawn hview
  have hview' : t.view = { s.view with drawn := t.drawn } := by
    rw [hview, hdrawn]
    rfl
  have hsub : s.drawn ⊆ t.drawn := fun raceId h => hdrawn ▸ h
  cases hresult : result with
  | error status =>
      exact step_put hview' hsub (by simp [RaceRequest.hold]) hkept
  | ok value => exact step_put hview' hsub (hnew value hresult) hkept

theorem step_refl (hview : t.view = s.view) : s.view.Step safe t.view := by
  have hself : s.view = { s.view with
      holds := Function.update s.view.holds 0 (s.view.holds 0), drawn := s.drawn } := by
    rw [Function.update_eq_self]
    rfl
  rw [hview]
  nth_rewrite 2 [hself]
  exact .keep 0 (s.view.holds 0) s.drawn (List.Subset.refl _) (fun _ hx => Or.inl hx) fun _ hx => hx

theorem view_of_engine (w : Worker E)
    (h : w.state.activeLocalRace = s.worker.state.activeLocalRace) :
    ({ s with worker := w } : RaceSystem E).view = s.view := by
  simp [RaceSystem.view, RaceSystem.engineRace, h]

theorem view_of_races (races : LocalRaceState) (h : races.activeId = s.races.activeId) :
    ({ s with races := races } : RaceSystem E).view = s.view := by
  simp [RaceSystem.view, RaceSystem.engineRace, h]

theorem view_holds_none (h : s.requests id = none) : s.view.holds id = none := by
  simp [RaceSystem.view, h]

theorem step_create (b : Build) (env : EngineEnv E) (expectedRevision : ℕ)
    (config : Option LocalRaceConfigInput) {raceId : String} (hfresh : raceId ∉ s.drawn) :
    s.view.Step safe (stepRace b s (.create id env expectedRevision config raceId)).view := by
  simp only [stepRace]
  split
  · rename_i hnone
    have hhold := view_holds_none hnone
    have hkept : ∀ raceId, s.view.holds id ≠ some (.publish raceId) := by simp [hhold]
    split
    · exact step_put rfl (List.Subset.refl _) (by simp [RaceRequest.hold]) hkept
    · rename_i config preset _
      rcases activateLocalRace_enters b env s.worker expectedRevision raceId config.mapId preset
          config.ghostMode with ⟨err, heq⟩ | ⟨-, w', ⟨hidle, slot, rfl⟩, heq⟩
      · rw [heq]
        dsimp only [Except.mapError, RaceSystem.next]
        exact step_put rfl (List.subset_cons_self _ _) (by simp [RaceRequest.hold]) hkept
      · rw [heq]
        dsimp only [Except.mapError, RaceSystem.next]
        rw [RaceSystem.view_put]
        have hengine : ((s.worker.enterLocalRace slot raceId config.mapId
            preset).bump.state.activeLocalRace.map (·.raceId)) = some raceId := by
          unfold Worker.enterLocalRace Worker.bump
          dsimp only
          split <;> rfl
        have hnoRace : s.view.engine = none := by
          simp [RaceSystem.view, RaceSystem.engineRace, hidle]
        have hstep : s.view.Step safe _ := .activate id raceId hhold hnoRace hfresh
        simpa [RaceSystem.view, RaceSystem.engineRace, hengine, RaceRequest.hold] using hstep
  · exact step_refl rfl

/-- Taking the race out of the engine is refused without effect, or the
engine had it. -/
theorem step_release (expectedRevision : ℕ) {raceId : String}
    {proceed : EngineRuntimeState → RaceRequest}
    (hhold : s.view.holds id = some (.release raceId))
    (hproceed : ∀ runtime, (proceed runtime).hold = none ∨
      (proceed runtime).hold = some (.clear raceId)) :
    s.view.Step safe (({ s with
        worker := (deactivateLocalRace s.worker expectedRevision raceId).1 } : RaceSystem E).next id
      ((deactivateLocalRace s.worker expectedRevision raceId).2.mapError mapWorkerErr)
      proceed).view := by
  rcases deactivateLocalRace_leaves s.worker expectedRevision raceId with
    ⟨err, heq⟩ | ⟨-, w', ⟨hactive, rfl⟩, heq⟩
  · rw [heq]
    refine step_next rfl ?_ (by simp [hhold])
    intro value hvalue
    cases hvalue
  · rw [heq]
    dsimp only [Except.mapError, RaceSystem.next]
    rw [RaceSystem.view_put]
    have hgone : (s.worker.leaveLocalRace raceId).bump.state.activeLocalRace = none := by
      unfold Worker.leaveLocalRace Worker.bump
      dsimp only
      split <;> rfl
    have hview : ({ s with worker := (s.worker.leaveLocalRace raceId).bump } : RaceSystem E).view =
        { s.view with engine := none } := by
      simp [RaceSystem.view, RaceSystem.engineRace, hgone]
    rw [hview]
    exact .release id raceId _ hhold hactive (hproceed _)

theorem startUpdate_raceId (countdownSeconds countdownEndMs : ℕ) (race : LocalRaceRuntimeInfo) :
    (startUpdate countdownSeconds countdownEndMs race).raceId = race.raceId := by
  rw [startUpdate]
  split <;> rfl

theorem abortUpdate_raceId (race : LocalRaceRuntimeInfo) :
    (abortUpdate race).raceId = race.raceId := rfl

theorem bumpRevision_activeLocalRace (w : Worker E) (expectedRevision : ℕ) :
    (bumpRevision w expectedRevision).1.state.activeLocalRace = w.state.activeLocalRace := by
  rw [bumpRevision]
  split <;> rfl

/-- A close of an aborted race only bumps the revision. -/
theorem step_aborted {expectedRevision : ℕ} {raceId : String}
    (hhold : s.view.holds id = some (.release raceId))
    (hsafe : safe → s.worker.state.revision = expectedRevision → s.engineRace ≠ some raceId) :
    s.view.Step safe (({ s with worker := (bumpRevision s.worker expectedRevision).1 } :
        RaceSystem E).next id ((bumpRevision s.worker expectedRevision).2.mapError mapWorkerErr)
      fun runtime => .closeReleased raceId runtime.revision).view := by
  have hview := view_of_engine _ (bumpRevision_activeLocalRace s.worker expectedRevision)
  by_cases hrev : s.worker.state.revision = expectedRevision
  · have hok : bumpRevision s.worker expectedRevision =
        (s.worker.bump, .ok s.worker.bump.state) := by
      rw [bumpRevision, if_neg (not_not.mpr hrev)]
      rfl
    rw [hok] at hview ⊢
    dsimp only [Except.mapError, RaceSystem.next]
    rw [RaceSystem.view_put, hview]
    exact .aborted id raceId hhold fun h => hsafe h hrev
  · refine step_next hview ?_ (by simp [hhold])
    intro value hvalue
    rw [bumpRevision, if_pos hrev] at hvalue
    cases hvalue

theorem step_clear {raceId : String} {revision : ℕ}
    (hhold : s.view.holds id = some (.clear raceId)) :
    s.view.Step safe (({ s with races := (clearActiveRace s.races raceId).1 } : RaceSystem E).next
      id ((clearActiveRace s.races raceId).2.mapError mapStateErr)
      fun _ => .answered (.ok (.closed revision raceId))).view := by
  rcases clearActiveRace_activeId s.races raceId with hsame | ⟨hstore, hnone⟩
  · exact step_next (view_of_races _ hsame) (by simp [RaceRequest.hold]) (by simp [hhold])
  · have hview : ({ s with races := (clearActiveRace s.races raceId).1 } : RaceSystem E).view =
        { s.view with store := none } := by
      simp [RaceSystem.view, RaceSystem.engineRace, hnone]
    unfold RaceSystem.next
    rw [RaceSystem.view_put, hview]
    generalize (clearActiveRace s.races raceId).2.mapError mapStateErr = result
    cases result with
    | error status => exact .clear id raceId hhold hstore
    | ok value => exact .clear id raceId hhold hstore

/-- The race of a request that has read it is the stored one. -/
theorem checkFinal_ok {races : LocalRaceState} {raceId : String} {nowMs : ℕ}
    {phase : LocalRacePhase} (h : checkFinal races raceId nowMs = .ok phase) :
    races.activeId = some raceId ∧ (phase = .finished ∨ phase = .aborted) := by
  rw [checkFinal] at h
  split at h
  · cases h
  · rename_i race hread
    refine ⟨?_, ?_⟩
    · unfold readRace activeRace at hread
      cases hactive : races.active with
      | none =>
          rw [hactive] at hread
          cases hread
      | some stored =>
          rw [hactive] at hread
          dsimp only [Option.map] at hread
          split at hread
          · cases hread
          · rename_i hid
            have hsame : stored.raceId = raceId := by
              simpa [LocalRaceState.withCount] using hid
            simp [LocalRaceState.activeId, hactive, hsame]
    · split at h
      · cases h
        exact Or.inl rfl
      · cases h
        exact Or.inr rfl
      all_goals cases h

theorem stepRace_step (b : Build) {ev : RaceEvent E} (hfresh : FreshId s ev) :
    s.view.Step (CloseSound s ev) (stepRace b s ev).view := by
  have hidle {id : ℕ} (h : s.requests id = none) (raceId : String) :
      s.view.holds id ≠ some (.publish raceId) := by simp [view_holds_none h]
  cases ev with
  | worker ev hforeign =>
      exact step_refl (view_of_engine _ (stepEvent_activeLocalRace b s.worker hforeign))
  | create id env expectedRevision config raceId =>
      exact step_create b env expectedRevision config hfresh
  | createSet id createdMs nowMs =>
      simp only [stepRace]
      split
      · rename_i config raceId preset revision hrequest
        let race := stagedRace config raceId preset createdMs
        have hview : ({ s with races := setActiveRace race nowMs } : RaceSystem E).view =
            { s.view with store := some raceId } := by
          simp [RaceSystem.view, RaceSystem.engineRace, race, stagedRace]
        change s.view.Step _ (({ s with races := setActiveRace race nowMs } : RaceSystem E).put id
          (.answered (.ok (.created revision race)))).view
        rw [RaceSystem.view_put, hview]
        exact .publish id raceId (view_holds hrequest)
      · exact step_refl rfl
  | start id expectedRevision raceId countdownSeconds =>
      simp only [stepRace]
      split
      · rename_i hnone
        exact step_next rfl (by simp [RaceRequest.hold]) (hidle hnone)
      · exact step_refl rfl
  | startCheck id readMs nowMs =>
      simp only [stepRace]
      split
      · rename_i hrequest
        have hhold : s.view.holds id = none := by simp [view_holds hrequest, RaceRequest.hold]
        exact step_next rfl (by simp [RaceRequest.hold]) (by simp [hhold])
      · exact step_refl rfl
  | startWrite id beforeMs afterMs =>
      simp only [stepRace]
      split
      · rename_i hrequest
        exact step_next (view_of_races _ (updateActiveRace_activeId (startUpdate_raceId _ _) _ _))
          (by simp [RaceRequest.hold]) (by simp [view_holds hrequest, RaceRequest.hold])
      · exact step_refl rfl
  | startBump id =>
      simp only [stepRace]
      split
      · rename_i hrequest
        exact step_next (view_of_engine _ (bumpRevision_activeLocalRace _ _))
          (by simp [RaceRequest.hold]) (by simp [view_holds hrequest, RaceRequest.hold])
      · exact step_refl rfl
  | abort id expectedRevision raceId =>
      simp only [stepRace]
      split
      · rename_i hnone
        exact step_next rfl (by simp [RaceRequest.hold]) (hidle hnone)
      · exact step_refl rfl
  | abortWrite id beforeMs afterMs =>
      simp only [stepRace]
      split
      · rename_i expectedRevision raceId hrequest
        refine step_next (view_of_races _ (updateActiveRace_activeId abortUpdate_raceId _ _)) ?_
          (by simp [view_holds hrequest, RaceRequest.hold])
        intro value hvalue x hx
        cases hx
        refine Or.inr ⟨raceId, rfl, ?_⟩
        cases hresult : (updateActiveRace s.races raceId abortUpdate beforeMs afterMs).2 with
        | error err =>
            rw [hresult] at hvalue
            cases hvalue
        | ok race => exact updateActiveRace_ok hresult
      · exact step_refl rfl
  | abortDeactivate id =>
      simp only [stepRace]
      split
      · rename_i expectedRevision raceId hrequest
        exact step_release expectedRevision (view_holds hrequest) fun _ => Or.inl rfl
      · exact step_refl rfl
  | close id expectedRevision raceId nowMs =>
      simp only [stepRace]
      split
      · rename_i hnone
        refine step_next rfl ?_ (hidle hnone)
        intro phase hphase x hx
        cases hx
        exact Or.inr ⟨raceId, rfl, (checkFinal_ok hphase).1⟩
      · exact step_refl rfl
  | closeRelease id =>
      simp only [stepRace]
      split
      · rename_i expectedRevision raceId phase hrequest
        split
        · exact step_release expectedRevision (view_holds hrequest) fun _ => Or.inr rfl
        · rename_i hphase
          exact step_aborted (view_holds hrequest) fun hsound =>
            hsound expectedRevision raceId phase hrequest hphase
      · exact step_refl rfl
  | closeClear id =>
      simp only [stepRace]
      split
      · rename_i raceId revision hrequest
        exact step_clear (view_holds hrequest)
      · exact step_refl rfl
  | register raceId carId displayName nowMs =>
      exact step_refl (view_of_races _ (registerParticipant_activeId ..))
  | remove carId => exact step_refl (view_of_races _ (removeParticipant_activeId ..))
  | reconcile nowMs => exact step_refl (view_of_races _ (reconcileActiveRace_activeId ..))
  | markSoftFreeze raceId =>
      exact step_refl (view_of_races _ (markFinishSoftFreezeApplied_activeId ..))

end Refinement

/-! ## Whole runs -/

/-- A create or a close that has not been answered. -/
def RaceRequest.ofCreateOrClose : RaceRequest → Bool
  | .activated .. | .closeAdmitted .. | .closeReleased .. => true
  | .startAdmitted .. | .startStaged .. | .startWritten .. | .abortAdmitted .. | .abortWritten ..
  | .answered _ => false

/-- No create and no close is in flight. -/
def Quiet (s : RaceSystem E) : Prop :=
  ∀ id r, s.requests id = some r → r.ofCreateOrClose = false

/-- The race of the engine is the one that requests can find. -/
def Controllable (s : RaceSystem E) : Prop :=
  ∀ raceId, s.engineRace = some raceId →
    ∃ race, s.races.active = some race ∧ race.raceId = raceId

theorem idsOk_initial : (RaceSystem.initial E).view.IdsOk := by
  constructor <;> simp [RaceSystem.initial, RaceSystem.view, LocalRaceState.new,
    LocalRaceState.activeId]

theorem controlled_initial : (RaceSystem.initial E).view.Controlled := by
  constructor <;> simp [RaceSystem.initial, RaceSystem.view, RaceSystem.engineRace,
    RaceView.Pending, Worker.initial]

theorem RaceView.Controlled.controllable {s : RaceSystem E} (h : s.view.Controlled)
    (hquiet : Quiet s) : Controllable s := by
  intro raceId hengine
  rcases h.engine hengine with hstore | ⟨id, hpending⟩
  · exact Option.map_eq_some_iff.mp hstore
  · -- a pending race belongs to a create that is in flight
    obtain ⟨r, hr, hhold⟩ := Option.bind_eq_some_iff.mp hpending
    have hidle := hquiet id r hr
    cases r <;> simp [RaceRequest.hold, RaceRequest.ofCreateOrClose] at hhold hidle

/-- In every run in which no close skips the engine while it still has
the race, the engine's race can be controlled whenever no create or close
is in flight. -/
theorem local_race_controllable (b : Build) (evs : List (RaceEvent E))
    (hfresh : Along FreshId (stepRace b) (RaceSystem.initial E) evs)
    (hclose : Along CloseSound (stepRace b) (RaceSystem.initial E) evs) (n : ℕ) :
    Quiet (stateAt (stepRace b) (RaceSystem.initial E) evs n) →
      Controllable (stateAt (stepRace b) (RaceSystem.initial E) evs n) := by
  have hstep (s : RaceSystem E) (ev : RaceEvent E) (h : s.view.IdsOk ∧ s.view.Controlled)
      (hev : FreshId s ev ∧ CloseSound s ev) :
      (stepRace b s ev).view.IdsOk ∧ (stepRace b s ev).view.Controlled := by
    have hmove := stepRace_step b hev.1
    exact ⟨h.1.step hmove, h.2.step h.1 hmove hev.2⟩
  have hinv := (hfresh.and hclose).invariant_at hstep ⟨idsOk_initial, controlled_initial⟩ n
  exact hinv.2.controllable

/-! ## An abort that is overtaken -/

def raceConfig : LocalRaceConfigInput := ⟨"race", "track", 600, none, none, none, 0⟩

/-- A race is created and stored. -/
def creation : List (RaceEvent CarWorld) :=
  [.create 0 CarWorld.env 0 (some raceConfig) "r", .createSet 0 0 0]

/-- It is aborted and closed. -/
def abortAndClose : List (RaceEvent CarWorld) :=
  [.abort 1 1 "r", .abortWrite 1 0 0, .abortDeactivate 1, .close 2 2 "r" 0, .closeRelease 2,
    .closeClear 2]

theorem aborted_race_controllable :
    Quiet (stateAt (stepRace .standalone) (RaceSystem.initial CarWorld)
        (creation ++ abortAndClose) 8) ∧
      Controllable (stateAt (stepRace .standalone) (RaceSystem.initial CarWorld)
        (creation ++ abortAndClose) 8) := by
  have hquiet : Quiet (stateAt (stepRace .standalone) (RaceSystem.initial CarWorld)
      (creation ++ abortAndClose) 8) := by
    intro id r hr
    match id, hr with
    | 0, hr =>
        cases hr
        rfl
    | 1, hr =>
        cases hr
        rfl
    | 2, hr =>
        cases hr
        rfl
    | n + 3, hr => cases hr
  refine ⟨hquiet, local_race_controllable .standalone (creation ++ abortAndClose) ?_ ?_ 8 hquiet⟩
  · refine ⟨?_, trivial, trivial, trivial, trivial, trivial, trivial, trivial, trivial⟩
    simp [FreshId, RaceSystem.initial]
  · refine ⟨trivial, trivial, trivial, trivial, trivial, trivial, ?_, trivial, trivial⟩
    intro expectedRevision raceId phase _ _ _ hengine
    cases hengine

/-- A sandbox is activated between the two halves of an abort, which
bumps the revision. The race stays in the engine, and the close takes it
for gone. -/
def overtaken : List (RaceEvent CarWorld) :=
  creation ++ [.abort 1 1 "r", .abortWrite 1 0 0,
    .worker (.command CarWorld.env
      (.switchRuntime 1 .sandbox "track" (some "s") (some .noon) none)) trivial,
    .abortDeactivate 1, .close 2 2 "r" 0, .closeRelease 2, .closeClear 2]

theorem overtaken_race_uncontrollable :
    Along FreshId (stepRace .standalone) (RaceSystem.initial CarWorld) overtaken ∧
      Quiet (overtaken.foldl (stepRace .standalone) (RaceSystem.initial CarWorld)) ∧
      ¬ Controllable (overtaken.foldl (stepRace .standalone) (RaceSystem.initial CarWorld)) := by
  refine ⟨⟨?_, trivial, trivial, trivial, trivial, trivial, trivial, trivial, trivial, trivial⟩,
    ?_, ?_⟩
  · simp [FreshId, RaceSystem.initial]
  · intro id r hr
    match id, hr with
    | 0, hr =>
        cases hr
        rfl
    | 1, hr =>
        cases hr
        rfl
    | 2, hr =>
        cases hr
        rfl
    | n + 3, hr => cases hr
  · intro hcontrol
    obtain ⟨race, hactive, -⟩ := hcontrol "r" (by decide)
    cases hactive

end HackArena.Services
