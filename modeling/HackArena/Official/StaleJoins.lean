import HackArena.Official.SandboxJoins
import HackArena.Runtime.CarWorld
import HackArena.Runtime.EngineClient
import HackArena.Runtime.WorkerInvariants

/-!
# Entries of sandboxes that are gone

The engine worker deactivates a sandbox without telling the service whose
bots drive there. Their entries stay until the next join of the team comes
upon them. Here the calls of the service to the engine are answered by the
worker itself, so that the errors of a clean-up are those that the worker
has for a sandbox that it no longer knows.
-/

namespace HackArena.Official

open Boink HackArena.Runtime HackArena.Services

/-! ## The service with the worker -/

/-- What comes with a call; other clients of the worker send a command. -/
structure WorkerInput extends Input where
  command : EngineCommand

/-- A service whose calls to the engine go to the worker. -/
structure Backed (E : Type) where
  official : OfficialState
  worker : Worker E

section Worker

variable {E : Type} (env : EngineEnv E)

/-- The answer of the worker, which may have stopped. -/
def answered {R : Type} (i : WorkerInput) (w : Worker E) (r : Outcome E R) : Outcome E R :=
  if i.fails then (w, .error .workerStopped) else r

/-- A despawn that is given up may be carried out all the same. -/
def workerExec (w : Worker E) : (op : EngineOp) → WorkerInput → Worker E × op.Answer
  | .runtimeState, i => answered i w (w, .ok w.state)
  | .switchRuntime expectedRevision activityKind mapId timeOfDayPreset ghostModeSettings, i =>
      let r := switchRuntime .official env w expectedRevision activityKind mapId none
        (timeOfDayPreset.getD w.state.timeOfDayPreset) ghostModeSettings
      answered i w (r.1, r.2.map fun _ => ())
  | .otherCommand, i => ((handleCommand .official env w i.command).1, ())
  | .getNumberOfStartPos target, i => answered i w (callIn w target env.api.getNumberOfStartPos)
  | .spawnCar, i => answered i w (spawnCarIn .official env w .officialRace)
  | .spawnSandboxCar sandboxId, i =>
      answered i w (spawnCarIn .official env w (.sandbox sandboxId))
  | .setCarAtStartPos target carId positionIndex, i =>
      answered i w (callIn w target (env.api.setVehicleAtStartPos carId positionIndex))
  | .setCarBeforeFinishLine target carId, i =>
      answered i w (callIn w target (env.api.setVehicleBeforeFinishLine carId))
  | .setCarToPitstop target carId, i =>
      answered i w (callIn w target (env.api.setVehicleToPitstop carId))
  | .forceSetCarTyreType target carId tyreType, i =>
      answered i w (callIn w target (env.api.forceSetVehicleTyreType carId tyreType))
  | .despawnCar target carId, i => answered i w (despawnCarIn env w target carId)
  | .despawnCarWithin target carId, i =>
      let r := answered i w (despawnCarIn env w target carId)
      if i.elapsed then (if i.takesEffect then r.1 else w, none) else (r.1, some r.2)

/-- Every other call goes where it always goes. -/
def backedExec (s : Backed E) : (op : Op) → WorkerInput → Backed E × op.Answer
  | .engine op, i =>
      let r := workerExec env s.worker op i
      (⟨{ s.official with runtime := r.1.state }, r.1⟩, r.2)
  | op, i =>
      let r := exec s.official op i.toInput
      ({ s with official := r.1 }, r.2)

end Worker

/-- The calls that bring no world up or down and write no repository. -/
def Op.inWorlds : Op → Bool
  | .engine (.switchRuntime ..) | .engine .otherCommand | .repo _ => false
  | _ => true

def Op.ofJoins : Op → Bool
  | .join _ => true
  | _ => false

def Op.besideJoins (op : Op) : Prop := op.inWorlds = true ∧ op.ofJoins = false

namespace SandboxBots

section Cleanup

variable {E : Type} {env : EngineEnv E} {s : Backed E} {teamId : String}
  {join : TeamSandboxJoinState}

/-- The time of the despawn is up before the worker answers it. It counts as
long as the team has its entry. -/
def DespawnUnanswered (teamId : String) (s : Backed E) : Op → WorkerInput → Prop
  | .engine (.despawnCarWithin ..), i => s.official.joins.lookup teamId = none ∨ i.elapsed = true
  | _, _ => True

/-- What the worker says of a sandbox that is gone is no error that the
clean-up overlooks. -/
theorem deferredStatus_gone {message : String} (h : message ∈ goneMessages) :
    deferredStatus (some (.error (.invalidArgument message))) =
      some ⟨.invalidArgument, message⟩ := by
  revert message
  decide

theorem gone_of_inactive (hworker : Consistent s.worker) {sandboxId : String}
    (hinactive : isSandboxActive s.worker.state sandboxId = false) :
    Gone s.worker (.sandbox sandboxId) := by
  intro hmem
  rw [← Finmap.mem_keys, ← hworker.sandboxes, List.mem_toFinset] at hmem
  obtain ⟨entry, hentry, hid⟩ := List.mem_map.mp hmem
  have hactive : isSandboxActive s.worker.state sandboxId = true :=
    List.any_eq_true.mpr ⟨entry, hentry, by simpa using hid⟩
  rw [hinactive] at hactive
  cases hactive

/-! ### What stays the same -/

/-- The sandbox that is asked for has its world, and the repository is as
it was. -/
structure Stocked (sandboxId : String) (repo : SubmissionRepo) (s : Backed E) : Prop where
  world : sandboxId ∈ s.worker.sandboxEngines
  repo : s.official.repo = repo

/-- The team has no entry. -/
structure Free (teamId sandboxId : String) (repo : SubmissionRepo) (s : Backed E) : Prop
    extends Stocked sandboxId repo s where
  entry : s.official.joins.lookup teamId = none

variable {sandboxId : String} {repo : SubmissionRepo} {op : Op} {input : WorkerInput}

theorem answered_worldTouch {R : Type} {w : Worker E} {r : Outcome E R} (h : WorldTouch w r.1) :
    WorldTouch w (answered input w r).1 := by
  unfold answered
  split
  · exact WorldTouch.refl w
  · exact h

theorem workerExec_worldTouch (w : Worker E) {op : EngineOp} (hop : (Op.engine op).inWorlds = true) :
    WorldTouch w (workerExec env w op input).1 := by
  have hcall : ∀ {R : Type} target (call : EngineWorldSlot E → EngineWorldSlot E ×
      Except EngineWorkerError R), WorldTouch w (withTargetSlotMut target w call).1 :=
    fun target call => withTargetSlotMut_worldTouch target w call
  cases op with
  | switchRuntime | otherCommand => cases hop
  | runtimeState => exact answered_worldTouch (WorldTouch.refl w)
  | despawnCarWithin target carId =>
      have htouch : WorldTouch w (answered input w (despawnCarIn env w target carId)).1 :=
        answered_worldTouch (hcall _ _)
      simp only [workerExec]
      split
      · split
        · exact htouch
        · exact WorldTouch.refl w
      · exact htouch
  | _ => exact answered_worldTouch (hcall _ _)

theorem Stocked.kept (h : Stocked sandboxId repo s) (hop : op.inWorlds = true) :
    Stocked sandboxId repo (backedExec env s op input).1 := by
  cases op with
  | engine op =>
      have htouch : WorldTouch s.worker (workerExec env s.worker op input).1 :=
        workerExec_worldTouch s.worker hop
      refine ⟨?_, h.repo⟩
      rw [← Finmap.mem_keys]
      exact htouch.sandbox ▸ Finmap.mem_keys.mpr h.world
  | repo op => cases hop
  | takeMonitor which =>
      refine ⟨h.world, ?_⟩
      rw [← h.repo]
      simp only [backedExec, exec]
      split <;> rfl
  | _ => exact ⟨h.world, h.repo⟩

theorem Free.kept (h : Free teamId sandboxId repo s) (hop : op.inWorlds = true)
    (hjoins : op.ofJoins = false) : Free teamId sandboxId repo (backedExec env s op input).1 := by
  refine ⟨h.toStocked.kept hop, ?_⟩
  rw [← h.entry]
  cases op with
  | join op => cases hjoins
  | takeMonitor which =>
      simp only [backedExec, exec]
      split <;> rfl
  | _ => rfl

/-! ### The clean-up -/

variable {G H : Backed E → Op → WorkerInput → Prop} {α ε : Type}
  {post : Except ε α → Backed E → Prop}

theorem decides_lifted {f : op.Answer → ExceptT ε OfficialProg α}
    (hH : ∀ input, H s op input) (h : ∀ input, G s op input →
      (f (backedExec env s op input).2).run.Decides (backedExec env) G H post
        (backedExec env s op input).1) :
    ((liftM op.call : ExceptT ε OfficialProg op.Answer) >>= f).run.Decides
      (backedExec env) G H post s := by
  rw [Prog.run_lift_bind]
  exact .pass hH h

/-- The despawn of a car whose sandbox is gone leaves no error exactly when
it is given up. -/
theorem deferredStatus_despawn (hgone : Gone s.worker (.sandbox sandboxId)) (carId : ℕ) :
    (deferredStatus (backedExec env s
      (.engine (.despawnCarWithin (.sandbox sandboxId) carId)) input).2).isNone =
        input.elapsed := by
  obtain ⟨message, hmessage, hcall⟩ := callIn_gone hgone (env.api.despawnVehicle carId)
  simp only [backedExec, workerExec, answered, despawnCarIn, hcall]
  cases input.elapsed with
  | true => rfl
  | false =>
      cases input.fails with
      | true => rfl
      | false =>
          have hstatus := deferredStatus_gone hmessage
          exact congrArg Option.isNone hstatus

/-- The entry of a team whose sandbox is no longer there. -/
structure StaleEntry (s : Backed E) (teamId : String) (join : TeamSandboxJoinState) : Prop where
  worker : Consistent s.worker
  entry : s.official.joins.lookup teamId = some join
  inactive : isSandboxActive s.worker.state join.sandboxId = false

theorem cleanupJoinStateLocked_decides (h : StaleEntry s teamId join) :
    (cleanupJoinStateLocked teamId join).run.Decides (backedExec env) G
      (DespawnUnanswered teamId) Prog.Succeeds s := by
  have hgone := gone_of_inactive h.worker h.inactive
  refine decides_lifted (fun _ => trivial) fun i₁ _ => ?_
  refine decides_lifted (fun _ => trivial) fun i₂ _ => ?_
  rw [Prog.run_lift_bind]
  intro i₃ _
  have hstatus : (deferredStatus (backedExec env (backedExec env (backedExec env s
      (.docker (.rm join.containerName)) i₁).1 (.outside (.stopLogCapture teamId)) i₂).1
      (.engine (.despawnCarWithin (.sandbox join.sandboxId) join.engineCarId)) i₃).2).isNone =
        i₃.elapsed := deferredStatus_despawn hgone join.engineCarId
  refine ⟨fun hH => ?_, fun hno => ?_⟩
  · have helapsed : i₃.elapsed = true :=
      hH.resolve_left fun hnone => by cases hnone.symm.trans h.entry
    rw [helapsed, Option.isNone_iff_eq_none] at hstatus
    refine decides_lifted (fun _ => trivial) fun i₄ _ => ?_
    refine decides_lifted (fun _ => trivial) fun i₅ _ => ?_
    rw [hstatus]
    rfl
  · have hanswered : i₃.elapsed = false := by
      by_contra hne
      exact hno (.inr (Bool.eq_true_of_not_eq_false hne))
    rw [hanswered, Option.isNone_eq_false_iff, Option.isSome_iff_exists] at hstatus
    obtain ⟨status, hstatus⟩ := hstatus
    intro i₄ _ i₅ _
    rw [hstatus]
    exact fun hok => by cases hok

/-- Of the team no entry is left after a clean-up. -/
theorem cleanupJoinStateLocked_free (h : Stocked sandboxId repo s) :
    (cleanupJoinStateLocked teamId join).run.Ensures (backedExec env)
      (fun _ => Free teamId sandboxId repo) s := by
  intro i₁ i₂ i₃ i₄ i₅
  have hfree : Free teamId sandboxId repo (backedExec env (backedExec env (backedExec env
      (backedExec env (backedExec env s (.docker (.rm join.containerName)) i₁).1
        (.outside (.stopLogCapture teamId)) i₂).1
        (.engine (.despawnCarWithin (.sandbox join.sandboxId) join.engineCarId)) i₃).1
        (.store (.removeCar join.publicCarId)) i₄).1 (.join (.remove teamId)) i₅).1 :=
    ⟨((((h.kept rfl).kept rfl).kept rfl).kept rfl).kept rfl, Finmap.lookup_erase ..⟩
  cases deferredStatus (backedExec env (backedExec env (backedExec env s
      (.docker (.rm join.containerName)) i₁).1 (.outside (.stopLogCapture teamId)) i₂).1
      (.engine (.despawnCarWithin (.sandbox join.sandboxId) join.engineCarId)) i₃).2 with
  | none => exact hfree
  | some status => exact hfree

/-! ### The join -/

/-- Nothing fails, and the user is one of the team. -/
def Works (teamId : String) (_ : Backed E) : Op → WorkerInput → Prop
  | .outside (.resolveTeamId _), i => i.fails = false ∧ teamIdFromTeam i.text = .ok teamId
  | _, i => i.fails = false

/-- The engine of a world places the cars that it spawns. -/
def PlacesCars (api : Api E) : Prop :=
  ∀ slot, ∃ carId, (spawnCarOp .official api slot).2 = .ok carId ∧
    (api.setVehicleBeforeFinishLine carId (spawnCarOp .official api slot).1.engine).2 = .ok ()

/-- The slot of the team has a submission that can be started. -/
def Runnable (repo : SubmissionRepo) (teamId : String) (slotIndex : ℤ) : Prop :=
  ∃ row imageRef, repo.succeededInSlot teamId slotIndex = some row ∧
    usableImageRef row.imageRef = some imageRef

section Answers

variable {A : Type} {i : WorkerInput} (a : A) (h : i.fails = false)

include h

theorem result_ok : i.result a = .ok a := by rw [Input.result, h]; rfl

theorem statusResult_ok : i.statusResult a = .ok a := by rw [Input.statusResult, h]; rfl

theorem answered_ok {w : Worker E} (r : Outcome E A) : answered i w r = r := by
  rw [answered, h]
  rfl

/-- A container can be started under a name that is free. -/
theorem docker_run_ok {d : Docker} {name : String} (spec : ℕ → Container)
    (hfree : d.containers.lookup name = none) :
    (d.exec (.run name spec) i.toInput).2 = .ok d.nextId := by
  rw [Docker.exec, hfree]
  exact result_ok d.nextId h

end Answers

theorem withTargetSlotMut_sandbox {R : Type} {w : Worker E} {slot : EngineWorldSlot E}
    (hblank : Text.isBlank sandboxId = false) (hslot : w.sandboxEngines.lookup sandboxId = some slot)
    (call : EngineWorldSlot E → EngineWorldSlot E × Except EngineWorkerError R) :
    withTargetSlotMut (.sandbox sandboxId) w call =
      ({ w with sandboxEngines := w.sandboxEngines.insert sandboxId (call slot).1 },
        (call slot).2) := by
  simp [withTargetSlotMut, hblank, hslot]

/-- A call whose answer is known. -/
theorem decides_answer {f : op.Answer → ExceptT ε OfficialProg α}
    (hH : ∀ input, H s op input) (h : ∀ input, G s op input →
      ∃ answer, (backedExec env s op input).2 = answer ∧
        (f answer).run.Decides (backedExec env) G H post (backedExec env s op input).1) :
    ((liftM op.call : ExceptT ε OfficialProg op.Answer) >>= f).run.Decides
      (backedExec env) G H post s := by
  refine decides_lifted hH fun input hG => ?_
  obtain ⟨answer, hanswer, hrest⟩ := h input hG
  rw [hanswer]
  exact hrest

namespace JoinRequest

variable {r : JoinRequest} {publicCarId engineCarId : ℕ}

theorem enter_decides (containerId : ℕ) :
    (r.enter publicCarId engineCarId containerId).run.Decides (backedExec env)
      (Works teamId) (DespawnUnanswered teamId) (fun outcome _ => answersOk outcome = true) s := by
  refine decides_answer (fun _ => trivial) fun i₁ hworks₁ => ⟨.ok (), result_ok () hworks₁, ?_⟩
  refine decides_answer (fun _ => trivial) fun i₂ hworks₂ => ⟨.ok (), result_ok () hworks₂, ?_⟩
  refine decides_lifted (fun _ => trivial) fun i₃ _ => ?_
  refine decides_lifted (fun _ => trivial) fun i₄ _ => ?_
  rfl

/-- The name of the container is free once it has been removed. -/
theorem startBotContainer_decides (spec : BotSpec) :
    (startBotContainer spec).run.Decides (backedExec env) (Works teamId)
      (DespawnUnanswered teamId) Prog.Succeeds s := by
  refine Prog.Decides.callOk rfl (fun _ => trivial) fun i₁ hworks₁ =>
    ⟨(), result_ok () hworks₁, ?_⟩
  refine Prog.Decides.callOk rfl (fun _ => trivial) fun i₂ hworks₂ =>
    ⟨(), result_ok () hworks₂, ?_⟩
  refine Prog.Decides.orFail fun i₃ hworks₃ => ⟨fun _ => ?_, fun hno => absurd trivial hno⟩
  have hremoved : (i₁.written s.official.docker { s.official.docker with
      containers := s.official.docker.containers.erase spec.containerName }).containers =
        s.official.docker.containers.erase spec.containerName := by
    rw [Input.written, show i₁.fails = false from hworks₁]
    rfl
  have hfree := (congrArg (Finmap.lookup spec.containerName) hremoved).trans (Finmap.lookup_erase ..)
  have hrun := docker_run_ok hworks₃ spec.container hfree
  exact congrArg Except.isOk hrun

theorem startContainer_decides :
    (r.startContainer publicCarId engineCarId).run.Decides (backedExec env) (Works teamId)
      (DespawnUnanswered teamId) (fun outcome _ => answersOk outcome = true) s := by
  unfold startContainer
  rw [Prog.run_lift_bind]
  refine Prog.Decides.bind (startBotContainer_decides r.spec) (Prog.ensures_trivial _ _) ?_ ?_
  · intro started u _ hstarted
    cases started with
    | error err => cases hstarted
    | ok containerId => exact enter_decides containerId
  · intro started u hstarted
    cases started with
    | ok containerId => exact absurd rfl hstarted
    | error err => exact fun _ _ _ _ _ _ hok => by cases hok

theorem registerCar_uses (publicCarId engineCarId : ℕ) :
    (r.registerCar publicCarId engineCarId).Uses fun op =>
      ∀ (u : Backed E) input, DespawnUnanswered teamId u op input :=
  .call (fun _ _ => trivial) fun _ => .call (fun _ _ => trivial) fun _ =>
    .call (fun _ _ => trivial) fun _ => .call (fun _ _ => trivial) fun _ =>
      .call (fun _ _ => trivial) fun _ => ⟨fun _ _ => trivial, fun _ => trivial⟩

/-- The car is spawned in the world of the sandbox, and placed there. -/
theorem spawn_decides (hplaces : PlacesCars env.api) (hblank : Text.isBlank r.sandboxId = false)
    (hworld : r.sandboxId ∈ s.worker.sandboxEngines) :
    r.spawn.run.Decides (backedExec env) (Works teamId) (DespawnUnanswered teamId)
      (fun outcome _ => answersOk outcome = true) s := by
  obtain ⟨slot, hslot⟩ := Finmap.mem_iff.mp hworld
  obtain ⟨engineCarId, hspawned, hplaced⟩ := hplaces slot
  have hspawn := withTargetSlotMut_sandbox hblank hslot (spawnCarOp .official env.api)
  refine Prog.Decides.callOk rfl (fun _ => trivial) fun i₁ hworks₁ => ⟨engineCarId, ?_, ?_⟩
  · simp only [backedExec, workerExec, answered_ok hworks₁, spawnCarIn, hspawn, hspawned]
  refine decides_answer (fun _ => trivial) fun i₂ hworks₂ => ⟨.ok (), ?_, ?_⟩
  · have hplace := withTargetSlotMut_sandbox (w := { s.worker with
      sandboxEngines := s.worker.sandboxEngines.insert r.sandboxId
        (spawnCarOp .official env.api slot).1 }) hblank (Finmap.lookup_insert _)
      (callEngine (env.api.setVehicleBeforeFinishLine engineCarId) id)
    simp only [backedExec, workerExec, answered_ok hworks₁, answered_ok hworks₂, spawnCarIn,
      hspawn, callIn, target, hplace, callEngine, hplaced]
  refine decides_lifted (fun _ => trivial) fun i₃ _ => ?_
  rw [Prog.run_lift_bind]
  exact Prog.Decides.after (I := fun _ => True) (registerCar_uses _ _)
    (fun op hop u input _ => ⟨hop u input, trivial⟩) trivial fun _ u _ => startContainer_decides

end JoinRequest

theorem sandboxActive_eq (runtime : EngineRuntimeState) (sandboxId : String) :
    sandboxActive runtime sandboxId = isSandboxActive runtime sandboxId := by
  simp only [sandboxActive, isSandboxActive, beq_eq_decide]

/-- What a join takes for granted: the sandbox is active, the slot is
runnable and containers can be named. -/
structure Joinable (env : EngineEnv E) (s : Backed E) (teamId sandboxId : String) (slotIndex : ℤ)
    (containerName : String) : Prop where
  places : PlacesCars env.api
  name : officialBotContainerNameForTeam teamId = .ok containerName
  active : isSandboxActive s.worker.state sandboxId = true
  runnable : Runnable s.official.repo teamId slotIndex

theorem joinSandbox_decides {s₀ : Backed E} {slotIndex : ℤ} {containerName : String}
    (h : Joinable env s₀ teamId sandboxId slotIndex containerName)
    (hblank : Text.isBlank sandboxId = false) (hs : Stocked sandboxId s₀.official.repo s)
    (userId : String) :
    (joinSandbox userId teamId sandboxId slotIndex s₀.worker.state).run.Decides (backedExec env)
      (Works teamId) (DespawnUnanswered teamId) (fun outcome _ => answersOk outcome = true) s := by
  obtain ⟨row, imageRef, hrow, himage⟩ := h.runnable
  have hactive : ¬ sandboxActive s₀.worker.state sandboxId = false := by
    rw [sandboxActive_eq, h.active]
    decide
  rw [joinSandbox, if_neg hactive]
  refine Prog.Decides.callOk rfl (fun _ => trivial) fun i₁ hworks₁ =>
    ⟨some ⟨row.submissionId, row.imageRef⟩, ?_, ?_⟩
  · simp only [backedExec, exec, SubmissionRepo.exec, hs.repo, hrow, Option.map_some,
      result_ok _ hworks₁]
  dsimp only
  rw [himage]
  refine Prog.Decides.afterOk (issueTokens_calls (fun _ _ => trivial) fun _ _ => trivial) ?_
  refine Prog.EnsuresGiven.callOk rfl fun i₂ hworks₂ => ⟨i₂.text, statusResult_ok _ hworks₂, ?_⟩
  refine Prog.EnsuresGiven.callOk rfl fun i₃ hworks₃ => ⟨i₃.text, statusResult_ok _ hworks₃, ?_⟩
  refine ⟨(), rfl, ?_⟩
  rw [h.name]
  exact JoinRequest.spawn_decides h.places hblank hs.world

theorem removeOrphan_uses (publicCarId : ℕ) (target : EngineCommandTarget) :
    (removeOrphan publicCarId target).Uses Op.besideJoins := by
  refine .call ⟨rfl, rfl⟩ fun engineCarId => ?_
  cases engineCarId with
  | none => exact ⟨⟨rfl, rfl⟩, fun _ => trivial⟩
  | some engineCarId => exact .call ⟨rfl, rfl⟩ fun _ => ⟨⟨rfl, rfl⟩, fun _ => trivial⟩

theorem cleanupOrphanCar_uses (teamId : String) (publicCarId : ℕ) :
    (cleanupOrphanCar teamId publicCarId).Uses Op.besideJoins := by
  refine .call ⟨rfl, rfl⟩ fun identity => ?_
  cases identity with
  | none => trivial
  | some identity =>
      dsimp only
      split
      · trivial
      · refine .call ⟨rfl, rfl⟩ fun target => ?_
        split
        · exact removeOrphan_uses publicCarId _
        · trivial

theorem cleanupOrphanCars_uses (teamId : String) (publicCarIds : List ℕ) :
    (cleanupOrphanCars teamId publicCarIds).Uses Op.besideJoins := by
  induction publicCarIds with
  | nil => trivial
  | cons publicCarId publicCarIds ih =>
      exact .bind (cleanupOrphanCar_uses teamId publicCarId) fun _ => .bind ih fun _ => trivial

theorem Free.unanswered (h : Free teamId sandboxId repo s) :
    DespawnUnanswered teamId s op input := by
  unfold DespawnUnanswered
  split
  · exact .inl h.entry
  · trivial

theorem joinFree_decides {s₀ : Backed E} {slotIndex : ℤ} {containerName : String}
    (h : Joinable env s₀ teamId sandboxId slotIndex containerName)
    (hblank : Text.isBlank sandboxId = false) (hs : Free teamId sandboxId s₀.official.repo s)
    (userId : String) :
    (do
      let entry ← liftM (Op.join (.get teamId)).call
      if entry.isNone then
        let _ ← liftM (cleanupOrphanTeamSandboxCars teamId)
        joinSandbox userId teamId sandboxId slotIndex s₀.worker.state
      else joinSandbox userId teamId sandboxId slotIndex s₀.worker.state : StatusProg
        JoinOfficialSandboxResponse).run.Decides (backedExec env) (Works teamId)
          (DespawnUnanswered teamId) (fun outcome _ => answersOk outcome = true) s := by
  refine decides_lifted (fun _ => trivial) fun i₁ _ => ?_
  have hnoEntry : ((backedExec env s (.join (.get teamId)) i₁).2).isNone = true :=
    congrArg Option.isNone hs.entry
  rw [if_pos hnoEntry, Prog.run_lift_bind]
  have huses : (cleanupOrphanTeamSandboxCars teamId).Uses Op.besideJoins :=
    .call ⟨rfl, rfl⟩ fun publicCarIds => cleanupOrphanCars_uses teamId publicCarIds
  exact .after huses (fun op hop u input hu => ⟨hu.unanswered, hu.kept hop.1 hop.2⟩) hs
    fun _ u hu => joinSandbox_decides h hblank hu.toStocked userId

/-- The sandbox of the entry is not active, so that nothing is asked of
docker before the clean-up. -/
theorem checkExistingJoin_decides (h : StaleEntry s teamId join) {runtime : EngineRuntimeState}
    (hinactive : sandboxActive runtime join.sandboxId = false) :
    (checkExistingJoin teamId runtime join).run.Decides (backedExec env) G
      (DespawnUnanswered teamId) (fun outcome _ => outcome = .ok false) s := by
  have hclean : ∀ u : Backed E, StaleEntry u teamId join →
      (cleanupStaleJoin teamId join >>= fun _ => pure false).run.Decides (backedExec env) G
        (DespawnUnanswered teamId) (fun outcome _ => outcome = .ok false) u := by
    intro u hu
    refine Prog.Decides.bind (Prog.Decides.orFail (cleanupJoinStateLocked_decides hu))
      (Prog.ensures_trivial _ _) ?_ ?_
    · intro outcome t _ hok
      cases outcome with
      | error status => cases hok
      | ok _ => rfl
    · intro outcome t hfailed
      cases outcome with
      | ok _ => exact absurd rfl hfailed
      | error status => exact fun hok => by cases hok
  unfold checkExistingJoin
  rw [Prog.run_lift_bind]
  intro i₁ _
  refine ⟨fun _ => ?_, fun hno => absurd trivial hno⟩
  intro i₂ _
  refine ⟨fun _ => ?_, fun hno => absurd trivial hno⟩
  rw [hinactive]
  exact hclean _ ⟨h.worker, h.entry, h.inactive⟩

theorem checkExistingJoin_free (hs : Stocked sandboxId repo s) {runtime : EngineRuntimeState}
    (hinactive : sandboxActive runtime join.sandboxId = false) :
    (checkExistingJoin teamId runtime join).run.Ensures (backedExec env)
      (fun _ => Free teamId sandboxId repo) s := by
  unfold checkExistingJoin
  rw [Prog.run_lift_bind]
  intro i₁ i₂
  rw [hinactive]
  refine .bindExcept (.orFail (.mono (cleanupJoinStateLocked_free ((hs.kept rfl).kept rfl)) ?_))
  intro outcome u hu
  cases outcome with
  | error status => exact hu
  | ok _ => exact hu

variable {slotIndex : ℤ} {containerName : String}

theorem joinLocked_decides (hstale : StaleEntry s teamId join)
    (h : Joinable env s teamId sandboxId slotIndex containerName)
    (hblank : Text.isBlank sandboxId = false) (userId : String) :
    (joinLocked userId teamId sandboxId slotIndex).run.Decides (backedExec env) (Works teamId)
      (DespawnUnanswered teamId) (fun outcome _ => answersOk outcome = true) s := by
  have hinactive : sandboxActive s.worker.state join.sandboxId = false := by
    rw [sandboxActive_eq, hstale.inactive]
  have hstocked : Stocked sandboxId s.official.repo s := by
    refine ⟨?_, rfl⟩
    obtain ⟨entry, hentry, hid⟩ := List.any_eq_true.mp h.active
    rw [← Finmap.mem_keys, ← hstale.worker.sandboxes, List.mem_toFinset]
    exact List.mem_map.mpr ⟨entry, hentry, by simpa using hid⟩
  refine Prog.Decides.callOk rfl (fun _ => trivial) fun i₁ hworks₁ => ⟨s.worker.state, ?_, ?_⟩
  · simp only [backedExec, workerExec, answered_ok hworks₁]
  refine decides_answer (fun _ => trivial) fun i₂ _ => ⟨some join, hstale.entry, ?_⟩
  have hworker : (backedExec env (backedExec env s (.engine .runtimeState) i₁).1
      (.join (.get teamId)) i₂).1.worker = s.worker := by
    simp only [backedExec, workerExec, answered_ok hworks₁]
  have hstill : StaleEntry (backedExec env (backedExec env s (.engine .runtimeState) i₁).1
      (.join (.get teamId)) i₂).1 teamId join :=
    ⟨hworker.symm ▸ hstale.worker, hstale.entry, hworker.symm ▸ hstale.inactive⟩
  refine Prog.Decides.bind (checkExistingJoin_decides hstill hinactive)
    (checkExistingJoin_free ((hstocked.kept rfl).kept rfl) hinactive) ?_ ?_
  · rintro outcome u hfree rfl
    exact joinFree_decides h hblank hfree userId
  · intro outcome u hnot
    cases outcome with
    | error status => exact fun hok => by cases hok
    | ok joined =>
        cases joined with
        | false => exact absurd rfl hnot
        | true => exact fun hok => by cases hok

theorem isBlank_trim {value : String} (h : (Text.trim value).isEmpty = false) :
    Text.isBlank (Text.trim value) = false := by
  rw [Text.isBlank, ← h, Text.trim, String.toList_ofList, Text.trimChars_trimChars,
    Bool.eq_iff_iff, List.isEmpty_iff, String.isEmpty_iff, String.ofList_eq_empty_iff]

theorem joinOfficialSandbox_decides {requested : String} {slot : ℤ}
    (hstale : StaleEntry s teamId join)
    (h : Joinable env s teamId (Text.trim requested) slot containerName)
    (hname : (Text.trim requested).isEmpty = false) (hslot : 1 ≤ slot ∧ slot ≤ 3) :
    (joinOfficialSandbox requested slot).run.Decides (backedExec env) (Works teamId)
      (DespawnUnanswered teamId) (fun outcome _ => answersOk outcome = true) s := by
  refine Prog.Decides.callOk rfl (fun _ => trivial) fun i₁ hworks₁ =>
    ⟨i₁.text, statusResult_ok _ hworks₁, ?_⟩
  refine Prog.Decides.afterOk (.bindExcept (.orFail ⟨fun _ _ => trivial, fun _ => trivial⟩)
    fun _ => trivial) ?_
  refine Prog.EnsuresGiven.callOk rfl fun i₂ hworks₂ => ⟨i₂.text, statusResult_ok _ hworks₂.1, ?_⟩
  refine ⟨teamId, hworks₂.2, ?_⟩
  have hrange : ¬ (slot < 1 ∨ 3 < slot) := by omega
  dsimp only
  rw [hname, if_neg Bool.false_ne_true, if_neg hrange]
  refine Prog.Decides.pass (f := fun _ => _) (fun _ => trivial) fun i₃ _ => ?_
  have hlocked : StaleEntry (backedExec env (backedExec env (backedExec env s
      (.outside .subject) i₁).1 (.outside (.resolveTeamId i₁.text)) i₂).1
      (.lock .joinCommand) i₃).1 teamId join :=
    ⟨hstale.worker, hstale.entry, hstale.inactive⟩
  refine Prog.Decides.bind (joinLocked_decides hlocked
    ⟨h.places, h.name, h.active, h.runnable⟩ (isBlank_trim hname) i₁.text)
    (Prog.ensures_trivial _ _) ?_ ?_
  · exact fun outcome u _ hok => .pass (fun _ => trivial) fun _ _ => hok
  · exact fun outcome u hfailed _ _ => hfailed

/-- The clean-up of an entry whose sandbox is gone succeeds exactly when the
despawn of its car is given up: an answer of the worker, which does not know
the sandbox, is an error. A join that comes upon the entry fails with it,
though nothing else does. -/
theorem stale_join_cleaned_iff (hstale : StaleEntry s teamId join) :
    (∀ inputs, ((cleanupJoinStateLocked teamId join).run.run (backedExec env) inputs s).2.isOk =
        true ↔
      (cleanupJoinStateLocked teamId join).run.Meets (backedExec env) (DespawnUnanswered teamId)
        inputs s) ∧
    ∀ requested slot containerName inputs,
      Joinable env s teamId (Text.trim requested) slot containerName →
      (Text.trim requested).isEmpty = false → 1 ≤ slot ∧ slot ≤ 3 →
      (joinOfficialSandbox requested slot).run.Meets (backedExec env) (Works teamId) inputs s →
      (answersOk ((joinOfficialSandbox requested slot).run.run (backedExec env) inputs s).2 = true ↔
        (joinOfficialSandbox requested slot).run.Meets (backedExec env) (DespawnUnanswered teamId)
          inputs s) := by
  refine ⟨fun inputs => ?_, fun requested slot containerName inputs h hname hslot hworks => ?_⟩
  · exact (cleanupJoinStateLocked_decides (G := fun _ _ _ => True) hstale).run
      (Prog.meets_of_forall _ (fun _ _ _ => trivial) _ s)
  · exact (joinOfficialSandbox_decides hstale h hname hslot).run hworks

end Cleanup

/-! ## Two sandboxes, one of which is deactivated -/

namespace Deactivated

/-- The team "red" drives in the sandbox "a" when it is deactivated. -/
def events : List (WorkerEvent CarWorld) :=
  [.command CarWorld.env (.switchRuntime 0 .sandbox "monza" (some "a") (some .noon) none),
    .command CarWorld.env (.switchRuntime 1 .sandbox "monza" (some "b") (some .noon) none),
    .command CarWorld.env (.slot (.sandbox "a") .spawnCar),
    .command CarWorld.env (.deactivateSandbox 2 "a")]

def join : TeamSandboxJoinState := ⟨"a", 1, 7, 1, "ha3-official-bot-team-red", .docker 0⟩

def state : Backed CarWorld where
  worker := events.foldl (stepEvent .official) (Worker.initial CarWorld)
  official := { OfficialState.initial (Worker.initial CarWorld).state with
    joins := Finmap.insert "red" join ∅
    repo := ⟨[⟨"first", "red", .succeeded, some "registry/red:1", "first.zip"⟩],
      Finmap.insert ("red", 1) (some "first") ∅, ∅⟩ }

/-- Every call succeeds; whether the worker answers a despawn in time is
left open. -/
def works (elapsed : Bool) : WorkerInput where
  toInput := { Input.works with text := "red", elapsed := elapsed }
  command := .getRuntimeState

theorem works_works (elapsed : Bool) (u : Backed CarWorld) (op : Op) :
    Works "red" u op (works elapsed) := by
  unfold Works
  split
  · have hteam : teamIdFromTeam "red" = .ok "red" := by decide +kernel
    exact ⟨rfl, hteam⟩
  · rfl

theorem works_unanswered (u : Backed CarWorld) (op : Op) :
    DespawnUnanswered "red" u op (works true) := by
  unfold DespawnUnanswered
  split
  · exact .inr rfl
  · trivial

theorem state_stale : StaleEntry state "red" join :=
  ⟨(sound_run .official events).consistent, Finmap.lookup_insert _, by decide +kernel⟩

theorem carWorld_places : PlacesCars CarWorld.api := by
  intro slot
  refine ⟨slot.engine.issued + 1, rfl, ?_⟩
  have hcar : slot.engine.issued + 1 ∈ slot.engine.cars ++ [slot.engine.issued + 1] :=
    List.mem_append_right _ List.mem_cons_self
  simp [spawnCarOp, callEngine, CarWorld.api, CarWorld.onCar]

theorem state_joinable :
    Joinable CarWorld.env state "red" (Text.trim "b") 1 "ha3-official-bot-team-red" :=
  ⟨carWorld_places, by decide +kernel, by decide +kernel,
    ⟨"first", "red", .succeeded, some "registry/red:1", "first.zip"⟩, "registry/red:1",
    by decide +kernel, by decide +kernel⟩

end Deactivated

open Deactivated in
/-- The worker answers the despawn: the clean-up fails, and with it the join
of the sandbox that is active. -/
theorem stale_join_blocks :
    StaleEntry state "red" join ∧
      Joinable CarWorld.env state "red" (Text.trim "b") 1 "ha3-official-bot-team-red" ∧
      (joinOfficialSandbox "b" 1).run.Meets (backedExec CarWorld.env) (Works "red")
        (fun _ => works false) state ∧
      ((cleanupJoinStateLocked "red" join).run.run (backedExec CarWorld.env)
        (fun _ => works false) state).2 =
          .error ⟨.invalidArgument, "sandbox_id does not match active sandbox session"⟩ ∧
      ((joinOfficialSandbox "b" 1).run.run (backedExec CarWorld.env)
        (fun _ => works false) state).2 = .error ⟨.internal, "failed to cleanup stale join state: " ++
          "sandbox_id does not match active sandbox session"⟩ :=
  ⟨state_stale, state_joinable, Prog.meets_of_forall _ (fun u op _ => works_works false u op) _ _,
    by decide +kernel, by decide +kernel⟩

open Deactivated in
/-- The despawn is given up: the join enters the bot. -/
theorem stale_join_cleaned_unanswered :
    StaleEntry state "red" join ∧
      answersOk ((joinOfficialSandbox "b" 1).run.run (backedExec CarWorld.env)
        (fun _ => works true) state).2 = true :=
  ⟨state_stale, ((stale_join_cleaned_iff state_stale).2 "b" 1 "ha3-official-bot-team-red"
    (fun _ => works true) state_joinable (by decide +kernel) (by decide)
    (Prog.meets_of_forall _ (fun u op _ => works_works true u op) _ _)).mpr
      (Prog.meets_of_forall _ (fun u op _ => works_unanswered u op) _ _)⟩

end SandboxBots

end HackArena.Official
