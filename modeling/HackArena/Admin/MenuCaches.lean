import HackArena.Admin.PublicMenu

/-!
# The caches of the public menu

Both caches are filled and invalidated in the same way, the one from the
table of sandboxes, the other from the calendar of races.
-/

namespace HackArena.Admin

open HackArena.Runtime HackArena.Services

variable {E : Type}

/-! ## What the calls mean for the caches -/

def sandboxEvent : (op : AdminOp) → op.Answer →
    Option (CacheEvent SandboxTable (List SandboxConfigRecord))
  | .currentUnixMs, nowMs => some (.clock nowMs)
  | .sandboxes .getSnapshot, .ok snapshot => some (.load snapshot)
  | .menu .sandboxGeneration, current => some (.generation current)
  | .menu .invalidateSandboxes, _ => some .invalidate
  | .menu .readSandboxes, cache => some (.look cache)
  | .menu (.writeSandboxes cache), _ => some (.store cache)
  | _, _ => none

def upcomingEvent : (op : AdminOp) → op.Answer →
    Option (CacheEvent RaceCalendar (List PublicUpcomingRaceSummary))
  | .currentUnixMs, nowMs => some (.clock nowMs)
  | .races .getSnapshot, .ok snapshot => some (.load snapshot)
  | .menu .upcomingGeneration, current => some (.generation current)
  | .menu .invalidateUpcoming, _ => some .invalidate
  | .menu .readUpcoming, cache => some (.look cache)
  | .menu (.writeUpcoming cache), _ => some (.store cache)
  | _, _ => none

def sandboxCaching (E : Type) :
    CachedService (adminExec (E := E)) SandboxTable (List SandboxConfigRecord) where
  event := sandboxEvent
  generation := AdminState.sandboxGeneration
  cache := AdminState.sandboxCache
  build snapshot _ := snapshot.value
  ttlMs := sandboxConfigCacheTtlMs
  generation_exec s op input := by
    cases op with
    | menu op => cases op <;> rfl
    | sandboxes op => cases op <;> cases input with | mk _ fails => cases fails <;> rfl
    | _ => rfl
  cache_exec s op input := by
    cases op with
    | menu op => cases op <;> rfl
    | sandboxes op => cases op <;> cases input with | mk _ fails => cases fails <;> rfl
    | _ => rfl
  read s op input := by
    cases op with
    | menu op => cases op <;> trivial
    | sandboxes op => cases op <;> cases input with | mk _ fails => cases fails <;> trivial
    | _ => trivial

def upcomingCaching (E : Type) :
    CachedService (adminExec (E := E)) RaceCalendar (List PublicUpcomingRaceSummary) where
  event := upcomingEvent
  generation := AdminState.upcomingGeneration
  cache := AdminState.upcomingCache
  build snapshot nowMs := buildUpcomingRaces snapshot.value nowMs
  ttlMs := upcomingCacheTtlMs
  generation_exec s op input := by
    cases op with
    | menu op => cases op <;> rfl
    | races op => cases op <;> cases input with | mk _ fails => cases fails <;> rfl
    | _ => rfl
  cache_exec s op input := by
    cases op with
    | menu op => cases op <;> rfl
    | races op => cases op <;> cases input with | mk _ fails => cases fails <;> rfl
    | _ => rfl
  read s op input := by
    cases op with
    | menu op => cases op <;> trivial
    | races op => cases op <;> cases input with | mk _ fails => cases fails <;> trivial
    | _ => trivial

/-! ## Who fills the caches -/

inductive MenuList where
  | sandboxes | upcoming
  deriving DecidableEq

/-- The cache that a call fills. -/
def AdminOp.fills : AdminOp → Option MenuList
  | .menu (.writeSandboxes _) => some .sandboxes
  | .menu (.writeUpcoming _) => some .upcoming
  | _ => none

/-- A call that changes no table, no cache and no generation. -/
def AdminOp.quiet : AdminOp → Bool
  | .races .getSnapshot | .sandboxes .getSnapshot => true
  | .races _ | .sandboxes _ => false
  | .menu op =>
      match op with
      | .upcomingGeneration | .readUpcoming | .sandboxGeneration | .readSandboxes => true
      | .invalidateUpcoming | .writeUpcoming _ | .invalidateSandboxes | .writeSandboxes _ => false
  | _ => true

theorem AdminOp.fills_of_quiet {op : AdminOp} (h : op.quiet = true) : op.fills = none := by
  cases op with
  | menu op => cases op <;> first | rfl | cases h
  | _ => rfl

section Uses

open Prog

/-- A part of a request that changes nothing but the worker. -/
abbrev Quiet {α : Type} (p : AdminCall α) : Prop := p.run.Uses (·.quiet)

/-- A part of a request that fills no cache. -/
abbrev FillsNone {α : Type} (p : AdminCall α) : Prop := p.run.Uses (·.fills = none)

variable {α β : Type}

theorem Quiet.fillsNone {p : AdminCall α} (h : Quiet p) : FillsNone p :=
  Uses.mono h fun _ => AdminOp.fills_of_quiet

theorem quiet_of_call {op : AdminOp} (h : op.quiet = true) :
    Uses (·.quiet) op.call := ⟨h, fun _ => trivial⟩

theorem fillsNone_of_call {op : AdminOp} (h : op.fills = none) :
    Uses (·.fills = none) op.call := ⟨h, fun _ => trivial⟩

theorem quiet_check (x : Except Status α) : Quiet (ExceptT.mk (pure x)) := trivial

theorem quiet_requireAdmin : Quiet requireAdmin := by
  refine .bindExcept (.orFail (quiet_of_call rfl)) fun isAdmin => ?_
  split <;> trivial

theorem quiet_utcNow : Quiet utcNow :=
  .bindExcept (.lift (quiet_of_call rfl)) fun _ => trivial

theorem quiet_readSandboxes : Quiet readSandboxes := .orFail (quiet_of_call rfl)

theorem quiet_readRuntime : Quiet readRuntime := .orFail (quiet_of_call rfl)

theorem quiet_requireSandboxNotActive (sandboxId : String) :
    Quiet (requireSandboxNotActive sandboxId) := by
  refine .bindExcept quiet_readRuntime fun runtime => ?_
  split <;> trivial

theorem fillsNone_writeSandboxes {op : AdminProg (Except SandboxConfigRepoError ℕ)}
    (h : op.Uses (·.fills = none)) : FillsNone (writeSandboxes op) :=
  .bindExcept (.orFail h) fun _ => .bindExcept (.lift (fillsNone_of_call rfl)) fun _ => trivial

theorem fillsNone_invalidateForChange (oldStartMs newStartMs : Option ℤ) :
    (invalidateForChange oldStartMs newStartMs).Uses (·.fills = none) := by
  refine .call rfl fun nowMs => ?_
  unfold invalidateIf
  split
  · exact fillsNone_of_call rfl
  · trivial

theorem quiet_snapshotAt (expectedRevision : ℕ) : Quiet (snapshotAt expectedRevision) := by
  refine .bindExcept (.orFail (quiet_of_call rfl)) fun snapshot => ?_
  split <;> trivial

theorem raceConfigRequest_fillsNone (request : RaceConfigRequest) :
    request.handle.Uses (·.fills = none) := by
  cases request with
  | create expectedRevision config =>
      exact .bindExcept quiet_requireAdmin.fillsNone fun _ =>
        .bindExcept (quiet_check _).fillsNone fun _ =>
        .bindExcept (.lift (fillsNone_of_call rfl)) fun _ =>
        .bindExcept (quiet_snapshotAt _).fillsNone fun _ =>
        .bindExcept (quiet_check _).fillsNone fun _ =>
        .bindExcept (.orFail (fillsNone_of_call rfl)) fun _ =>
        .bindExcept (.lift (fillsNone_invalidateForChange _ _)) fun _ => trivial
  | update expectedRevision raceId config =>
      exact .bindExcept quiet_requireAdmin.fillsNone fun _ =>
        .bindExcept (quiet_check _).fillsNone fun _ =>
        .bindExcept (quiet_check _).fillsNone fun _ =>
        .bindExcept (quiet_snapshotAt _).fillsNone fun _ =>
        .bindExcept (quiet_check _).fillsNone fun _ =>
        .bindExcept (quiet_check _).fillsNone fun _ =>
        .bindExcept (.orFail (fillsNone_of_call rfl)) fun _ =>
        .bindExcept (.lift (fillsNone_invalidateForChange _ _)) fun _ => trivial
  | delete expectedRevision raceId =>
      exact .bindExcept quiet_requireAdmin.fillsNone fun _ =>
        .bindExcept (quiet_check _).fillsNone fun _ =>
        .bindExcept (quiet_snapshotAt _).fillsNone fun _ =>
        .bindExcept (quiet_check _).fillsNone fun _ =>
        .bindExcept (.orFail (fillsNone_of_call rfl)) fun _ =>
        .bindExcept (.lift (fillsNone_invalidateForChange _ _)) fun _ => trivial

theorem quiet_setTimeOfDay (runtimeBefore : EngineRuntimeState) (sandboxId : String)
    (preset : EngineRuntimeTimeOfDayPreset) :
    (setTimeOfDay runtimeBefore sandboxId preset).Uses (·.quiet) := by
  unfold setTimeOfDay
  split
  · refine .call rfl fun answer => ?_
    cases answer <;> trivial
  · trivial

theorem quiet_applyTimeOfDay (sandboxId : String) (preset : EngineRuntimeTimeOfDayPreset) :
    (applyTimeOfDay sandboxId preset).Uses (·.quiet) := by
  refine .call rfl fun answer => ?_
  cases answer with
  | ok runtimeBefore => exact quiet_setTimeOfDay runtimeBefore sandboxId preset
  | error err => trivial

theorem sandboxConfigRequest_fillsNone (request : SandboxConfigRequest) :
    request.handle.Uses (·.fills = none) := by
  cases request with
  | create expectedRevision config =>
      exact .bindExcept quiet_requireAdmin.fillsNone fun _ =>
        .bindExcept (quiet_check _).fillsNone fun _ =>
        .bindExcept (.lift (fillsNone_of_call rfl)) fun _ =>
        .bindExcept (fillsNone_writeSandboxes (fillsNone_of_call rfl)) fun _ => trivial
  | update expectedRevision sandboxId config =>
      exact .bindExcept quiet_requireAdmin.fillsNone fun _ =>
        .bindExcept (quiet_check _).fillsNone fun _ =>
        .bindExcept (quiet_requireSandboxNotActive _).fillsNone fun _ =>
        .bindExcept (quiet_check _).fillsNone fun _ =>
        .bindExcept (fillsNone_writeSandboxes (fillsNone_of_call rfl)) fun _ => trivial
  | delete expectedRevision sandboxId =>
      exact .bindExcept quiet_requireAdmin.fillsNone fun _ =>
        .bindExcept (quiet_check _).fillsNone fun _ =>
        .bindExcept (quiet_requireSandboxNotActive _).fillsNone fun _ =>
        .bindExcept (fillsNone_writeSandboxes (fillsNone_of_call rfl)) fun _ => trivial
  | updateTimeOfDay expectedRevision sandboxId preset =>
      exact .bindExcept quiet_requireAdmin.fillsNone fun _ =>
        .bindExcept (quiet_check _).fillsNone fun _ =>
        .bindExcept (quiet_check _).fillsNone fun _ =>
        .bindExcept quiet_readSandboxes.fillsNone fun _ =>
        .bindExcept (quiet_check _).fillsNone fun _ =>
        .bindExcept (fillsNone_writeSandboxes (fillsNone_of_call rfl)) fun _ =>
        .bindExcept (Quiet.fillsNone (.lift (quiet_applyTimeOfDay _ _))) fun _ =>
        .bindExcept quiet_utcNow.fillsNone fun _ => trivial

theorem quiet_scheduleActivation (expectedRevision : ℕ)
    (pending : EnginePendingSandboxActivation) :
    Quiet (scheduleActivation expectedRevision pending) :=
  .bindExcept (.orFail (quiet_of_call rfl)) fun _ => trivial

theorem quiet_scheduleAt (expectedRevision : ℕ) (sandboxId : String) (activate : Bool)
    (executeAtUnixMs : ℤ) :
    Quiet (scheduleAt expectedRevision sandboxId activate executeAtUnixMs) := by
  unfold scheduleAt
  split
  · exact .bindExcept quiet_readSandboxes fun _ =>
      .bindExcept (quiet_check _) fun _ => quiet_scheduleActivation _ _
  · exact quiet_scheduleActivation _ _

theorem quiet_scheduleLater (expectedRevision : ℕ) (sandboxId : String) (activate : Bool)
    (effectiveAtUtc : Timestamp) :
    Quiet (scheduleLater expectedRevision sandboxId activate effectiveAtUtc) := by
  refine .bindExcept (quiet_check _) fun _ => .bindExcept quiet_utcNow fun _ =>
    .bindExcept (quiet_check _) fun _ => ?_
  split
  · trivial
  · exact quiet_scheduleAt _ _ _ _

theorem quiet_activateNow (expectedRevision : ℕ) (sandboxId : String) :
    Quiet (activateNow expectedRevision sandboxId) :=
  .bindExcept quiet_readSandboxes fun _ => .bindExcept (quiet_check _) fun _ =>
    .bindExcept (.orFail (quiet_of_call rfl)) fun _ =>
    .bindExcept quiet_utcNow fun _ => trivial

theorem quiet_deactivateNow (expectedRevision : ℕ) (sandboxId : String) :
    Quiet (deactivateNow expectedRevision sandboxId) :=
  .bindExcept (.orFail (quiet_of_call rfl)) fun _ => .bindExcept quiet_utcNow fun _ => trivial

theorem quiet_scheduleOrSwitch (expectedRevision : ℕ) (sandboxId : String) (activate : Bool)
    (effectiveAtUtc : Option Timestamp) :
    Quiet (scheduleOrSwitch expectedRevision sandboxId activate effectiveAtUtc) := by
  cases effectiveAtUtc with
  | some effectiveAtUtc => exact quiet_scheduleLater _ _ _ _
  | none =>
      cases activate with
      | true => exact quiet_activateNow _ _
      | false => exact quiet_deactivateNow _ _

theorem runtimeAdminRequest_quiet (request : RuntimeAdminRequest) :
    request.handle.Uses (·.quiet) := by
  cases request with
  | getConfigs =>
      exact .bindExcept quiet_requireAdmin fun _ =>
        .bindExcept quiet_readSandboxes fun _ => trivial
  | scheduleActivation expectedRevision sandboxId activate effectiveAtUtc =>
      exact .bindExcept quiet_requireAdmin fun _ =>
        .bindExcept (quiet_check _) fun _ => quiet_scheduleOrSwitch _ _ _ _
  | cancelActivationSchedule expectedRevision sandboxId =>
      exact .bindExcept quiet_requireAdmin fun _ =>
        .bindExcept (quiet_check _) fun _ =>
        .bindExcept (.orFail (quiet_of_call rfl)) fun _ => trivial
  | getRuntimeState =>
      exact .bindExcept quiet_requireAdmin fun _ =>
        .bindExcept quiet_readRuntime fun _ =>
        .bindExcept quiet_readSandboxes fun _ =>
        .bindExcept quiet_utcNow fun _ => trivial

theorem menuSandboxConfigs_uses : menuSandboxConfigs.run.Uses (·.fills ≠ some .upcoming) := by
  refine .bindExcept (.lift ⟨nofun, fun _ => trivial⟩) fun nowMs =>
    .bindExcept (.lift ⟨nofun, fun _ => trivial⟩) fun generation =>
    .bindExcept (.lift ⟨nofun, fun _ => trivial⟩) fun cache => ?_
  split
  · trivial
  · exact .bindExcept (.orFail ⟨nofun, fun _ => trivial⟩) fun _ =>
      .bindExcept (.lift ⟨nofun, fun _ => trivial⟩) fun _ => trivial

theorem menuUpcomingRaces_uses : menuUpcomingRaces.run.Uses (·.fills ≠ some .sandboxes) := by
  refine .bindExcept (.lift ⟨nofun, fun _ => trivial⟩) fun nowMs =>
    .bindExcept (.lift ⟨nofun, fun _ => trivial⟩) fun generation =>
    .bindExcept (.lift ⟨nofun, fun _ => trivial⟩) fun cache => ?_
  split
  · trivial
  · exact .bindExcept (.orFail ⟨nofun, fun _ => trivial⟩) fun _ =>
      .bindExcept (.lift ⟨nofun, fun _ => trivial⟩) fun _ => trivial

end Uses

end HackArena.Admin
