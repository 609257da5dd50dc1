import HackArena.Services.ServiceTasks

/-!
# Joined cars and the frame hub

A join writes a car into the store map by map, and the frame hub drops
every known car that has no target or no engine id. A join makes the car
known before it writes the two, so a pass of the hub that looks in between
drops it. Passes that never look in between leave every joined car alone.
-/

namespace HackArena.Services

open Boink HackArena.Runtime HackArena.Local GuardedRun Tasks

/-- An entry of the car has been inserted. -/
def Wrote (w : ServiceWorld) (carId : ℕ) (entry : CarEntry) : Prop :=
  ∃ e ∈ w.log, e.op = .insert carId entry

/-- The car is known and its target has not been written yet. -/
def Publishing (carId : ℕ) (w : ServiceWorld) : Prop :=
  Wrote w carId .known ∧ ∀ target, ¬ Wrote w carId (.target target)

/-- The engine car that a world command is about. -/
def engineCarOf : SlotOp → Option ℕ
  | .setControls carId _ | .readCarState carId | .readCarRaceMetrics carId
  | .readCarDimensions carId | .setCarBackToTrack carId | .setCarBeforeFinishLine carId
  | .setCarRandomOnTrack carId | .setCarAtStartPos carId _ | .setCarToPitstop carId
  | .setCarTyreType carId _ | .forceSetCarTyreType carId _ | .despawnCar carId => some carId
  | .spawnCar | .getNumberOfStartPos | .getTrackData | .getRaceDuration
  | .setGhostModeSettings _ => none

/-- With these errors the engine says that it has no such car. -/
def NoSuchCar (err : EngineWorkerError) : Prop :=
  err = .engine .notFound ∨ isSandboxRuntimeNotActiveInvalidArgument err = true

/-- The car has been given this engine car. -/
def HasEngineCar (carId : ℕ) (target : EngineCommandTarget) (engineCarId : ℕ)
    (w : ServiceWorld) : Prop :=
  Wrote w carId (.target target) ∧ Wrote w carId (.engineId engineCarId)

/-- The engine does not deny that an engine car of the given car exists. -/
def EngineCarExists (carId : ℕ) (w : ServiceWorld) (_ : ℕ) (op : ServiceOp)
    (input : ServiceInput) : Prop :=
  match op with
  | .engine target op => ∀ engineCarId, engineCarOf op = some engineCarId →
      HasEngineCar carId target engineCarId w →
        ∀ err, input.engine target op = .error err → ¬ NoSuchCar err
  | _ => True

/-- The target or the engine id of the car is not looked up while the car
is being published. -/
def LooksOutside (carId : ℕ) (w : ServiceWorld) (_ : ℕ) (op : ServiceOp) (_ : ServiceInput) :
    Prop :=
  match op with
  | .carTarget other | .carEngineId other => other = carId → ¬ Publishing carId w
  | _ => True

/-- Known, with a target, an engine id and an identity. -/
structure Registered (s : RaceRuntimeStore) (carId : ℕ) : Prop where
  known : carId ∈ s.knownCars
  target : ∃ target, s.carTargets.lookup carId = some target
  engineId : ∃ engineCarId, s.carEngineIds.lookup carId = some engineCarId
  identity : ∃ identity, s.carIdentity.lookup carId = some identity

/-! ## What the calls do to a car's entries -/

/-- The entries that make a car registered are as before. -/
structure RegisteredAlike (carId : ℕ) (s t : RaceRuntimeStore) : Prop where
  known : carId ∈ t.knownCars ↔ carId ∈ s.knownCars
  target : t.carTargets.lookup carId = s.carTargets.lookup carId
  engineId : t.carEngineIds.lookup carId = s.carEngineIds.lookup carId
  identity : (∃ identity, t.carIdentity.lookup carId = some identity) ↔
    ∃ identity, s.carIdentity.lookup carId = some identity

theorem SameAt.registeredAlike {carId : ℕ} {s t : RaceRuntimeStore} (h : SameAt carId s t) :
    RegisteredAlike carId s t :=
  ⟨h.known, h.target, h.engineId, by rw [h.identity]⟩

theorem CarCall.registeredAlike (b : Build) (s : RaceRuntimeStore) (carId other : ℕ)
    (call : CarCall) : RegisteredAlike carId s (call.apply b s other) := by
  rcases call.apply_cases b s other with ⟨-, seq, heq⟩ | ⟨-, input, heq⟩ | ⟨-, state, heq⟩ |
    ⟨-, update, heq⟩ <;> rw [heq]
  · exact ⟨Iff.rfl, rfl, rfl, Iff.rfl⟩
  · exact ⟨Iff.rfl, rfl, rfl, Iff.rfl⟩
  · exact ⟨Iff.rfl, rfl, rfl, Iff.rfl⟩
  · obtain ⟨identity, hidentity, hlookup⟩ := modifyIdentity_eq s other update
    rw [hidentity]
    refine ⟨Iff.rfl, rfl, rfl, ?_⟩
    rw [hlookup carId]
    split
    · cases s.carIdentity.lookup carId <;> simp
    · exact Iff.rfl

theorem CarEntry.insert_registeredAlike (s : RaceRuntimeStore) {carId other : ℕ}
    (hne : carId ≠ other) (entry : CarEntry) :
    RegisteredAlike carId s (entry.insert s other) := by
  cases entry <;> constructor <;>
    simp [CarEntry.insert, hne, Finmap.lookup_insert_of_ne]

theorem CarErasure.erase_registeredAlike (s : RaceRuntimeStore) {carId other : ℕ}
    (hne : carId ≠ other) (erasure : CarErasure) :
    RegisteredAlike carId s (erasure.erase s other) := by
  cases erasure <;> constructor <;>
    simp [CarErasure.erase, hne, Finmap.lookup_erase_ne]

/-- Calls that neither insert nor remove entries of the car. -/
def LeavesRow (carId : ℕ) : ServiceOp → Prop
  | .insert other _ | .erase other _ | .removeCar other => carId ≠ other
  | _ => True

theorem execCall_registeredAlike (b : Build) (s : Backend) {carId : ℕ} {op : ServiceOp}
    (hop : LeavesRow carId op) (input : ServiceInput) :
    RegisteredAlike carId s.store (execCall b s op input).1.store := by
  cases op with
  | insert other entry => exact entry.insert_registeredAlike s.store hop
  | erase other erasure => exact erasure.erase_registeredAlike s.store hop
  | removeCar other => exact (removeCar_sameAt s.store hop).registeredAlike
  | car other call => exact call.registeredAlike b s.store carId other
  | _ => exact ⟨Iff.rfl, rfl, rfl, Iff.rfl⟩

/-! ## The invariant -/

section Invariant

variable {b : Build} {carId : ℕ} {w : ServiceWorld}

theorem wrote_perform {thread : ℕ} {op : ServiceOp} {input : ServiceInput} {other : ℕ}
    {entry : CarEntry} :
    Wrote (w.perform (execCall b) thread op input) other entry ↔
      op = .insert other entry ∨ Wrote w other entry := by
  simp [Wrote, World.perform]

theorem Wrote.mono {w' : ServiceWorld} {entry : CarEntry} (h : Wrote w carId entry)
    (hlog : w.log <:+ w'.log) : Wrote w' carId entry := by
  obtain ⟨e, he, hop⟩ := h
  exact ⟨e, hlog.subset he, hop⟩

theorem HasEngineCar.mono {w' : ServiceWorld} {target : EngineCommandTarget} {engineCarId : ℕ}
    (h : HasEngineCar carId target engineCarId w) (hlog : w.log <:+ w'.log) :
    HasEngineCar carId target engineCarId w' :=
  ⟨h.1.mono hlog, h.2.mono hlog⟩

theorem wrote_insert (w : ServiceWorld) (thread : ℕ) (input : ServiceInput) (other : ℕ)
    (entry : CarEntry) :
    Wrote (w.perform (execCall b) thread (.insert other entry) input) other entry :=
  wrote_perform.mpr (Or.inl rfl)

/-- The entries of the car are those that have been written. -/
structure RowOk (carId : ℕ) (w : ServiceWorld) : Prop where
  known : carId ∈ w.shared.store.knownCars ↔ Wrote w carId .known
  target : ∀ target, Wrote w carId (.target target) →
    ∃ target', w.shared.store.carTargets.lookup carId = some target' ∧
      Wrote w carId (.target target')
  engineId : ∀ engineCarId, Wrote w carId (.engineId engineCarId) →
    ∃ engineCarId', w.shared.store.carEngineIds.lookup carId = some engineCarId' ∧
      Wrote w carId (.engineId engineCarId')
  identity : ∀ identity, Wrote w carId (.identity identity) →
    ∃ identity', w.shared.store.carIdentity.lookup carId = some identity'
  ordered : ∀ target, Wrote w carId (.target target) →
    ∃ engineCarId, Wrote w carId (.engineId engineCarId)

/-- Nobody removes the car, and its target is written after its engine
id. -/
def KeepsCar (carId : ℕ) (w : ServiceWorld) (_ : ℕ) : ServiceOp → Prop
  | .erase other _ | .removeCar other => carId ≠ other
  | .insert other (.target _) =>
      other = carId → ∃ engineCarId, Wrote w carId (.engineId engineCarId)
  | _ => True

theorem RowOk.of_leavesRow (h : RowOk carId w) (op : ServiceOp) (hop : LeavesRow carId op)
    (thread : ℕ) (input : ServiceInput) :
    RowOk carId (w.perform (execCall b) thread op input) := by
  have halike := execCall_registeredAlike b w.shared hop input
  have hwrote : ∀ entry, Wrote (w.perform (execCall b) thread op input) carId entry ↔
      Wrote w carId entry := by
    intro entry
    rw [wrote_perform]
    refine or_iff_right ?_
    rintro rfl
    exact hop rfl
  constructor
  · rw [hwrote]
    exact halike.known.trans h.known
  · intro target hw
    obtain ⟨target', hlookup, hw'⟩ := h.target target ((hwrote _).mp hw)
    exact ⟨target', halike.target.trans hlookup, (hwrote _).mpr hw'⟩
  · intro engineCarId hw
    obtain ⟨engineCarId', hlookup, hw'⟩ := h.engineId engineCarId ((hwrote _).mp hw)
    exact ⟨engineCarId', halike.engineId.trans hlookup, (hwrote _).mpr hw'⟩
  · intro identity hw
    exact halike.identity.mpr (h.identity identity ((hwrote _).mp hw))
  · intro target hw
    obtain ⟨engineCarId, hw'⟩ := h.ordered target ((hwrote _).mp hw)
    exact ⟨engineCarId, (hwrote _).mpr hw'⟩

theorem RowOk.insert (h : RowOk carId w) (thread : ℕ) (entry : CarEntry)
    (hordered : ∀ target, entry = .target target →
      ∃ engineCarId, Wrote w carId (.engineId engineCarId)) (input : ServiceInput) :
    RowOk carId (w.perform (execCall b) thread (.insert carId entry) input) := by
  have hwrote : ∀ other, Wrote (w.perform (execCall b) thread (.insert carId entry) input)
      carId other ↔ entry = other ∨ Wrote w carId other := by
    intro other
    rw [wrote_perform]
    simp
  have hstore : (w.perform (execCall b) thread (.insert carId entry) input).shared.store =
      entry.insert w.shared.store carId := rfl
  constructor
  · rw [hwrote, hstore]
    cases entry <;> simp [CarEntry.insert, h.known]
  · intro target hw
    rw [hstore]
    rcases (hwrote _).mp hw with rfl | hold
    · exact ⟨target, by simp [CarEntry.insert], hw⟩
    · obtain ⟨target', hlookup, hw'⟩ := h.target target hold
      cases entry with
      | target value => exact ⟨value, by simp [CarEntry.insert], (hwrote _).mpr (Or.inl rfl)⟩
      | _ => exact ⟨target', hlookup, (hwrote _).mpr (Or.inr hw')⟩
  · intro engineCarId hw
    rw [hstore]
    rcases (hwrote _).mp hw with rfl | hold
    · exact ⟨engineCarId, by simp [CarEntry.insert], hw⟩
    · obtain ⟨engineCarId', hlookup, hw'⟩ := h.engineId engineCarId hold
      cases entry with
      | engineId value => exact ⟨value, by simp [CarEntry.insert], (hwrote _).mpr (Or.inl rfl)⟩
      | _ => exact ⟨engineCarId', hlookup, (hwrote _).mpr (Or.inr hw')⟩
  · intro identity hw
    rw [hstore]
    rcases (hwrote _).mp hw with rfl | hold
    · exact ⟨identity, by simp [CarEntry.insert]⟩
    · obtain ⟨identity', hlookup⟩ := h.identity identity hold
      cases entry with
      | identity value => exact ⟨value, by simp [CarEntry.insert]⟩
      | _ => exact ⟨identity', hlookup⟩
  · intro target hw
    have hengine : ∃ engineCarId, Wrote w carId (.engineId engineCarId) := by
      rcases (hwrote _).mp hw with heq | hold
      · exact hordered target heq
      · exact h.ordered target hold
    obtain ⟨engineCarId, hw'⟩ := hengine
    exact ⟨engineCarId, (hwrote _).mpr (Or.inr hw')⟩

/-- What the tasks of this module owe to a car. -/
def carDiscipline (b : Build) (carId : ℕ) :
    Discipline Backend ServiceOp ServiceOp.Answer ServiceInput (execCall b) where
  guard w thread op input := LooksOutside carId w thread op input ∧
    EngineCarExists carId w thread op input
  permits := KeepsCar carId
  inv := RowOk carId
  kept := by
    intro w thread op input hinv _ hpermits
    cases op with
    | insert other entry =>
        by_cases heq : other = carId
        · subst heq
          refine hinv.insert thread entry ?_ input
          rintro target rfl
          exact hpermits rfl
        · exact hinv.of_leavesRow (.insert other entry) (Ne.symm heq) thread input
    | erase other erasure => exact hinv.of_leavesRow (.erase other erasure) hpermits _ _
    | removeCar other => exact hinv.of_leavesRow (.removeCar other) hpermits _ _
    | _ =>
        refine hinv.of_leavesRow _ ?_ _ _
        trivial

/-! ## The joins -/

/-- Everything that makes the car registered has been written. -/
def Published (carId : ℕ) (w : ServiceWorld) : Prop :=
  Wrote w carId .known ∧ (∃ target, Wrote w carId (.target target)) ∧
    ∃ identity, Wrote w carId (.identity identity)

/-- What a task that has ended has done for the car. -/
def Settled (carId : ℕ) : TaskOutcome → ServiceWorld → Prop
  | .joined other, w => other = carId → Published carId w
  | .refused _, _ | .done, _ => True

theorem obeys_ret_refused {d : Discipline Backend ServiceOp ServiceOp.Answer ServiceInput
    (execCall b)} {thread : ℕ} (status : Status) :
    (Prog.ret (.refused status) : Task TaskOutcome).Obeys d thread (Settled carId) w :=
  fun _ _ _ => trivial

theorem insertAll_obeys {thread : ℕ} (other : ℕ) (entries : List CarEntry)
    (hentries : ∀ target, .target target ∉ entries) :
    (insertAll other entries).Obeys (carDiscipline b carId) thread
      (fun _ w' => ∀ entry ∈ entries, Wrote w' other entry) w := by
  induction entries generalizing w with
  | nil =>
      intro w' _ _ entry hentry
      cases hentry
  | cons entry rest ih =>
      have hrest : ∀ target, .target target ∉ rest := fun target hmem =>
        hentries target (List.mem_cons_of_mem entry hmem)
      intro w' input _ _ _
      have hpermits : KeepsCar carId w' thread (.insert other entry) := by
        cases entry with
        | target value => exact (hentries value List.mem_cons_self).elim
        | _ => trivial
      refine ⟨hpermits, ?_⟩
      refine ((ih hrest).frame (F := fun w => Wrote w other entry)
        (fun _ _ hlog h => h.mono hlog) (wrote_insert w' thread input other entry)).mono ?_
      rintro _ w'' _ ⟨hall, hentry⟩ entry' hmem
      rcases List.mem_cons.mp hmem with rfl | hmem
      · exact hentry
      · exact hall entry' hmem

/-- The last writes of a join, after its identity. -/
theorem publish_obeys {thread : ℕ} (other engineCarId : ℕ) (target : EngineCommandTarget)
    {identity : RuntimeCarIdentity} (hidentity : Wrote w other (.identity identity)) :
    (publish other engineCarId target).Obeys (carDiscipline b carId) thread
      (fun _ w' => Published other w') w := by
  refine .call fun w₁ input₁ ho₁ _ _ => ⟨trivial, ?_⟩
  refine .call fun w₂ input₂ ho₂ _ _ => ⟨trivial, ?_⟩
  refine .call fun w₃ input₃ ho₃ _ _ => ⟨trivial, ?_⟩
  refine .call fun w₄ input₄ ho₄ _ _ => ⟨?_, fun w₅ ho₅ _ => ?_⟩
  · rintro rfl
    exact ⟨engineCarId, (wrote_insert w₃ ..).mono ho₄.suffix⟩
  · have hgrown : w₂.log <:+ w₅.log :=
      (ho₃.suffix_perform.trans ho₄.suffix_perform).trans ho₅.suffix_perform
    have hknown : Wrote w₂ other .known := (wrote_insert w₁ ..).mono ho₂.suffix
    have hidentity₂ : Wrote w₂ other (.identity identity) :=
      (hidentity.mono ho₁.suffix).mono ho₂.suffix_perform
    exact ⟨hknown.mono hgrown, ⟨target, (wrote_insert w₄ ..).mono ho₅.suffix⟩,
      identity, hidentity₂.mono hgrown⟩

/-- Calls that every task may make at any time. -/
def HarmlessCall : ServiceOp → Prop
  | .insert .. | .erase .. | .removeCar _ => False
  | _ => True

theorem HarmlessCall.permitted {op : ServiceOp} (h : HarmlessCall op) (w : ServiceWorld)
    (thread : ℕ) : KeepsCar carId w thread op := by
  cases op with
  | insert | erase | removeCar => exact h.elim
  | _ => trivial

theorem PlacingCall.harmless {op : ServiceOp} (h : Tasks.PlacingCall op) : HarmlessCall op := by
  cases op with
  | insert | erase | removeCar => exact h.elim
  | _ => trivial

/-- The identity of a car is written and then the car is published. -/
theorem registration_obeys {thread : ℕ} (hinv : RowOk carId w) (other engineCarId : ℕ)
    (target : EngineCommandTarget) (identity : RuntimeCarIdentity) :
    (do
      insertAll other [.identity identity]
      publish other engineCarId target
      return .joined other : Task TaskOutcome).Obeys (carDiscipline b carId) thread
        (Settled carId) w := by
  refine .bind ((insertAll_obeys other _ (by simp)).mono ?_) hinv
  intro _ w hinv hentries
  have hidentity : Wrote w other (.identity identity) := hentries _ List.mem_cons_self
  refine .bind ((publish_obeys other engineCarId target hidentity).mono ?_) hinv
  rintro _ w _ hpublished w' hothers _ rfl
  obtain ⟨hknown, ⟨target, htarget⟩, identity, hidentity⟩ := hpublished
  exact ⟨hknown.mono hothers.suffix, ⟨target, htarget.mono hothers.suffix⟩, identity,
    hidentity.mono hothers.suffix⟩

theorem joinSandboxAt_obeys {thread : ℕ}
    {place : String → EngineCommandTarget → ℕ → Task (Except Status Unit)}
    (hplace : ∀ sandboxId target engineCarId, (place sandboxId target engineCarId).Uses
      HarmlessCall) (requestedSandboxId : String) :
    (joinSandboxAt b place requestedSandboxId).Obeys (carDiscipline b carId) thread
      (Settled carId) w := by
  have hharmless : ∀ op, HarmlessCall op → ∀ w, KeepsCar carId w thread op :=
    fun op hop w => hop.permitted w thread
  refine .free (fun _ => trivial) (fun runtimeState w _ => ?_) w
  cases runtimeState with
  | error err => exact obeys_ret_refused _
  | ok runtimeState =>
  dsimp only
  cases selectLocalJoinSandbox runtimeState requestedSandboxId with
  | error status => exact obeys_ret_refused _
  | ok active =>
  refine .free (fun _ => trivial) (fun spawned w hinv => ?_) w
  cases spawned with
  | error err => exact obeys_ret_refused _
  | ok engineCarId =>
  refine .bind (((hplace _ _ _).obeys hharmless w).mono ?_) hinv
  rintro placed w _ -
  cases placed with
  | error status => exact .free (fun _ => trivial) (fun _ w _ => obeys_ret_refused _) w
  | ok value =>
  refine .free (fun _ => trivial) (fun publicCarId w hinv => ?_) w
  have htoken : (if b = .standalone then pure (.ok .default)
      else ServiceOp.identityFromToken.call :
        Task (Except Status RuntimeCarIdentity)).Uses HarmlessCall := by
    split
    · trivial
    · exact ⟨trivial, fun _ => trivial⟩
  refine .bind ((htoken.obeys hharmless w).mono ?_) hinv
  rintro token w hinv -
  cases token with
  | error status => exact obeys_ret_refused _
  | ok identity =>
  refine .bind ((insertAll_obeys publicCarId _ ?_).mono ?_) hinv
  · intro target
    split <;> simp
  · intro _ w _ _
    exact .free (fun _ => trivial) (fun index w hinv => registration_obeys hinv _ _ _ _) w

theorem localRaceJoinImpl_obeys {thread : ℕ} (requestedRaceId requestedName : String) :
    (localRaceJoinImpl requestedRaceId requestedName).Obeys (carDiscipline b carId) thread
      (Settled carId) w := by
  rw [localRaceJoinImpl]
  split
  · exact obeys_ret_refused _
  · refine .free (fun _ => trivial) (fun active w _ => ?_) w
    cases active with
    | none => exact obeys_ret_refused _
    | some active =>
    dsimp only
    split
    · exact obeys_ret_refused _
    · refine .free (fun _ => trivial) (fun spawned w _ => ?_) w
      cases spawned with
      | error err => exact obeys_ret_refused _
      | ok engineCarId =>
      refine .free (fun _ => trivial) (fun publicCarId w _ => ?_) w
      refine .free (fun _ => trivial) (fun registered w _ => ?_) w
      cases registered with
      | error err => exact .free (fun _ => trivial) (fun _ w _ => obeys_ret_refused _) w
      | ok participant =>
      refine .free (fun _ => trivial) (fun slots w _ => ?_) w
      rcases slots with err | _ | slots
      · exact obeys_ret_refused _
      · exact obeys_ret_refused _
      · refine .free (fun _ => trivial) (fun placed w hinv => ?_) w
        cases placed with
        | error err =>
            exact .free (fun _ => trivial) (fun _ w _ =>
              .free (fun _ => trivial) (fun _ w _ => obeys_ret_refused _) w) w
        | ok value => exact registration_obeys hinv _ _ _ _

theorem joinOfficialRace_obeys {thread : ℕ} (teamId : String) (startPositionIndex : ℕ) :
    (joinOfficialRace teamId startPositionIndex).Obeys (carDiscipline b carId) thread
      (Settled carId) w := by
  refine .free (fun _ => trivial) (fun spawned w _ => ?_) w
  cases spawned with
  | error err => exact obeys_ret_refused _
  | ok engineCarId =>
  exact .free (fun _ => trivial) (fun publicCarId w hinv => registration_obeys hinv _ _ _ _) w

/-! ## The frame hub -/

theorem eraseAll_uses (thread : ℕ) {other : ℕ} (hne : carId ≠ other) (erasures : List CarErasure) :
    (eraseAll other erasures).Uses fun op => ∀ w, KeepsCar carId w thread op := by
  induction erasures with
  | nil => trivial
  | cons erasure rest ih => exact ⟨fun _ => hne, fun _ => ih⟩

theorem removeCar_uses (thread : ℕ) {other : ℕ} (hne : carId ≠ other) :
    (Tasks.removeCar other).Uses fun op => ∀ w, KeepsCar carId w thread op := by
  refine (eraseAll_uses thread hne _).bind fun _ => .call (fun _ => trivial) fun owner => ?_
  cases owner with
  | none => trivial
  | some uuid =>
      refine .call (fun _ => trivial) fun mapped => ?_
      split
      · exact ⟨fun _ => trivial, fun _ => trivial⟩
      · trivial

/-- A pass over another car. -/
theorem collectCar_keepsCar (thread : ℕ) {other : ℕ} (hne : carId ≠ other) (nowMs : ℕ) :
    (Tasks.collectCar b Tasks.removeCar nowMs other).Uses
      fun op => ∀ w, KeepsCar carId w thread op := by
  refine collectCar_uses (removeCar_uses thread hne) (fun op hop w => ?_) b nowMs
  cases op with
  | insert | erase | removeCar => exact hop.elim
  | _ => trivial

/-- A pass that has looked at the car while it was not being published
has found its target and its engine id. -/
theorem RowOk.looked (h : RowOk carId w) (hknown : Wrote w carId .known)
    (hlooked : ¬ Publishing carId w) :
    (∃ target, w.shared.store.carTargets.lookup carId = some target ∧
      Wrote w carId (.target target)) ∧
    ∃ engineCarId, w.shared.store.carEngineIds.lookup carId = some engineCarId ∧
      Wrote w carId (.engineId engineCarId) := by
  have hwritten : ∃ target, Wrote w carId (.target target) := by
    by_contra hnone
    exact hlooked ⟨hknown, fun target htarget => hnone ⟨target, htarget⟩⟩
  obtain ⟨target, htarget⟩ := hwritten
  obtain ⟨engineCarId, hengine⟩ := h.ordered target htarget
  exact ⟨h.target target htarget, h.engineId engineCarId hengine⟩

theorem readOutcome_dropCar {R : Type} {result : Except EngineWorkerError R}
    (h : readOutcome result = .dropCar) : ∃ err, result = .error err ∧ NoSuchCar err := by
  unfold readOutcome at h
  split at h
  · cases h
  · exact ⟨_, rfl, Or.inl rfl⟩
  · rename_i err _
    split at h
    · rename_i hinactive
      exact ⟨err, rfl, Or.inr hinactive⟩
    · cases h

theorem raceMetricsOutcome_dropCar {result : Except EngineWorkerError VehicleRaceMetrics}
    (h : raceMetricsOutcome result = .dropCar) : ∃ err, result = .error err ∧ NoSuchCar err := by
  unfold raceMetricsOutcome at h
  split at h
  · cases h
  · split at h
    · cases h
    · rename_i hdrop
      exact readOutcome_dropCar hdrop
    · cases h

section Pass

variable {thread engineCarId : ℕ} {target : EngineCommandTarget}

/-- The engine cars of the car are not denied, so nothing the engine
answers makes the hub drop it. -/
theorem readRaceMetrics_obeys (hcar : HasEngineCar carId target engineCarId w) :
    (Tasks.readRaceMetrics b target engineCarId).Obeys (carDiscipline b carId) thread
      (fun outcome _ => outcome ≠ .dropCar) w := by
  have hread : ∀ w' : ServiceWorld, ∀ input : ServiceInput, World.Others thread w w' →
      EngineCarExists carId w' thread (.engine target (.readCarRaceMetrics engineCarId)) input →
      raceMetricsOutcome (input.engine target (.readCarRaceMetrics engineCarId)) ≠ .dropCar := by
    intro w' input hothers hguard hdrop
    obtain ⟨err, herr, hno⟩ := raceMetricsOutcome_dropCar hdrop
    exact hguard engineCarId rfl (hcar.mono hothers.suffix) err herr hno
  cases b with
  | «local» => exact fun w' _ _ hdrop => by cases hdrop
  | official =>
      exact .call fun w' input hothers _ hguard =>
        ⟨trivial, fun _ _ _ => hread w' input hothers hguard.2⟩
  | standalone =>
      exact .call fun w' input hothers _ hguard =>
        ⟨trivial, fun _ _ _ => hread w' input hothers hguard.2⟩

theorem applyPitFixTire_obeys (hcar : HasEngineCar carId target engineCarId w)
    (state : VehicleState) :
    (Tasks.applyPitFixTire b target carId engineCarId state).Obeys (carDiscipline b carId) thread
      (fun dropped _ => dropped = false) w := by
  rw [Tasks.applyPitFixTire]
  split
  · exact fun _ _ _ => rfl
  · refine .call fun w₁ input₁ ho₁ _ _ => ⟨trivial, ?_⟩
    split
    · exact fun _ _ _ => rfl
    · split
      · exact fun _ _ _ => rfl
      · refine .call fun w₂ input₂ ho₂ _ hguard => ⟨trivial, ?_⟩
        split
        · refine .call fun _ _ _ _ _ => ⟨trivial, fun _ _ _ => rfl⟩
        · rename_i hanswer
          exact (hguard.2 engineCarId rfl ((hcar.mono ho₁.suffix).mono ho₂.suffix_perform) _ hanswer
            (Or.inl rfl)).elim
        · exact fun _ _ _ => rfl

theorem collectReadCar_obeys (hcar : HasEngineCar carId target engineCarId w)
    (hinv : RowOk carId w) (state : VehicleState) (nowMs : ℕ) :
    (Tasks.collectReadCar b Tasks.removeCar nowMs carId engineCarId target state).Obeys
      (carDiscipline b carId) thread (fun _ _ => True) w := by
  refine .bind (((readRaceMetrics_obeys hcar).frame (F := HasEngineCar carId target engineCarId)
    (fun _ _ hlog h => h.mono hlog) hcar).mono ?_) hinv
  rintro outcome w hinv ⟨hdrop, hcar⟩
  cases outcome with
  | dropCar => exact (hdrop rfl).elim
  | unreadable => exact fun _ _ _ => trivial
  | got raceMetrics =>
  refine .bind ((applyPitFixTire_obeys hcar state).mono ?_) hinv
  rintro dropped w _ rfl
  refine .free (fun _ => trivial) (fun pitState w _ => ?_) w
  split
  · exact .call fun _ _ _ _ _ => ⟨trivial, fun _ _ _ => trivial⟩
  · exact fun _ _ _ => trivial

/-- A pass over the car itself, once it is known, does not remove it. -/
theorem collectCar_obeys (hknown : Wrote w carId .known) (nowMs : ℕ) :
    (Tasks.collectCar b Tasks.removeCar nowMs carId).Obeys (carDiscipline b carId) thread
      (fun _ _ => True) w := by
  refine .call fun w₁ input₁ ho₁ hinv₁ hguard₁ => ⟨trivial, ?_⟩
  have hknown₁ := hknown.mono ho₁.suffix
  obtain ⟨⟨target, hlookup, htarget⟩, -⟩ := hinv₁.looked hknown₁ (hguard₁.1 rfl)
  have hanswer₁ : (execCall b w₁.shared (.carTarget carId) input₁).2 = some target := hlookup
  rw [hanswer₁]
  refine .call fun w₂ input₂ ho₂ hinv₂ hguard₂ => ⟨trivial, ?_⟩
  have hknown₂ : Wrote w₂ carId .known := hknown₁.mono ho₂.suffix_perform
  obtain ⟨-, engineCarId, hlookup₂, hengine⟩ := hinv₂.looked hknown₂ (hguard₂.1 rfl)
  have hcar : HasEngineCar carId target engineCarId w₂ :=
    ⟨htarget.mono ho₂.suffix_perform, hengine⟩
  have hanswer₂ : (execCall b w₂.shared (.carEngineId carId) input₂).2 = some engineCarId :=
    hlookup₂
  rw [hanswer₂]
  refine .call fun w₃ input₃ ho₃ hinv₃ hguard₃ => ⟨trivial, ?_⟩
  have hcar₃ := hcar.mono ho₃.suffix_perform
  split
  · rename_i hdrop
    obtain ⟨err, herr, hno⟩ := readOutcome_dropCar hdrop
    exact (hguard₃.2 engineCarId rfl hcar₃ err herr hno).elim
  · exact fun _ _ _ => trivial
  · have hinv := (carDiscipline b carId).kept w₃ thread _ input₃ hinv₃ hguard₃ trivial
    exact collectReadCar_obeys (hcar₃.mono (List.suffix_cons _ _)) hinv _ nowMs

theorem collectCars_obeys (nowMs : ℕ) (ids : List ℕ) (hinv : RowOk carId w)
    (hids : carId ∈ ids → Wrote w carId .known) :
    (Tasks.collectCars b Tasks.removeCar nowMs ids).Obeys (carDiscipline b carId) thread
      (fun _ _ => True) w := by
  induction ids generalizing w with
  | nil => exact fun _ _ _ => trivial
  | cons publicCarId rest ih =>
      have hfirst : (Tasks.collectCar b Tasks.removeCar nowMs publicCarId).Obeys
          (carDiscipline b carId) thread (fun _ _ => True) w := by
        by_cases heq : carId = publicCarId
        · subst heq
          exact collectCar_obeys (hids List.mem_cons_self) nowMs
        · exact (collectCar_keepsCar thread heq nowMs).obeys (fun op hop w => hop w) w
      refine .bind ((hfirst.frame (F := fun w => carId ∈ rest → Wrote w carId .known)
        (fun _ _ hlog h hmem => (h hmem).mono hlog)
        (fun hmem => hids (List.mem_cons_of_mem _ hmem))).mono ?_) hinv
      rintro _ w hinv ⟨-, hrest⟩
      exact ih hinv hrest

theorem collectFrame_obeys (nowMs : ℕ) :
    (Tasks.collectFrame b Tasks.removeCar nowMs).Obeys (carDiscipline b carId) thread
      (fun _ _ => True) w := by
  refine .call fun w₁ input₁ _ hinv hguard => ⟨trivial, ?_⟩
  have hinv' := (carDiscipline b carId).kept w₁ thread _ input₁ hinv hguard trivial
  refine collectCars_obeys nowMs _ hinv' fun hmem => ?_
  exact (hinv.known.mp (mem_knownCarIds.mp hmem)).mono (List.suffix_cons _ _)

end Pass

end Invariant

/-! ## Joins and collections side by side -/

/-- The four joins, and a collection of the frame hub. -/
inductive JoinTask where
  | localSandboxJoin (requestedSandboxId : String)
  | quickJoin (requestedSandboxId : String)
  | localRaceJoin (raceId displayName : String)
  | officialRegistration (teamId : String) (startPositionIndex : ℕ)
  | collectFrame (nowMs : ℕ)

def JoinTask.task (b : Build) : JoinTask → Task TaskOutcome
  | .localSandboxJoin requestedSandboxId => Tasks.localSandboxJoinImpl b requestedSandboxId
  | .quickJoin requestedSandboxId => joinSandbox b requestedSandboxId
  | .localRaceJoin raceId displayName => localRaceJoinImpl raceId displayName
  | .officialRegistration teamId startPositionIndex => joinOfficialRace teamId startPositionIndex
  | .collectFrame nowMs => do
      Tasks.collectFrame b Tasks.removeCar nowMs
      return .done

theorem JoinTask.obeys (b : Build) (carId thread : ℕ) (t : JoinTask) {w : ServiceWorld}
    (hinv : RowOk carId w) :
    (t.task b).Obeys (carDiscipline b carId) thread (Settled carId) w := by
  cases t with
  | localSandboxJoin requestedSandboxId =>
      exact joinSandboxAt_obeys (fun sandboxId target engineCarId =>
        (applyLocalSpawnMode_uses sandboxId target engineCarId).mono fun _ => PlacingCall.harmless)
        requestedSandboxId
  | quickJoin requestedSandboxId =>
      exact joinSandboxAt_obeys (fun sandboxId target engineCarId =>
        (quickJoinPlacing_uses b sandboxId target engineCarId).mono fun _ => PlacingCall.harmless)
        requestedSandboxId
  | localRaceJoin raceId displayName => exact localRaceJoinImpl_obeys raceId displayName
  | officialRegistration teamId startPositionIndex =>
      exact joinOfficialRace_obeys teamId startPositionIndex
  | collectFrame nowMs =>
      exact .bind ((collectFrame_obeys nowMs).mono fun _ _ _ _ _ _ _ => trivial) hinv

/-- A car that nothing has been written of. -/
theorem rowOk_start {s : Backend} {carId : ℕ} (hnew : carId ∉ s.store.knownCars) :
    RowOk carId ⟨s, []⟩ := by
  have hwrote : ∀ entry, ¬ Wrote (⟨s, []⟩ : ServiceWorld) carId entry := by
    rintro entry ⟨e, he, -⟩
    cases he
  constructor
  · exact iff_of_false hnew (hwrote _)
  · exact fun target h => (hwrote _ h).elim
  · exact fun engineCarId h => (hwrote _ h).elim
  · exact fun identity h => (hwrote _ h).elim
  · exact fun target h => (hwrote _ h).elim

theorem RowOk.registered {carId : ℕ} {w : ServiceWorld} (h : RowOk carId w)
    (hpublished : Published carId w) : Registered w.shared.store carId := by
  obtain ⟨hknown, ⟨target, htarget⟩, identity, hidentity⟩ := hpublished
  obtain ⟨target', htarget', -⟩ := h.target target htarget
  obtain ⟨engineCarId, hengine⟩ := h.ordered target htarget
  obtain ⟨engineCarId', hengine', -⟩ := h.engineId engineCarId hengine
  exact ⟨h.known.mpr hknown, ⟨target', htarget'⟩, ⟨engineCarId', hengine'⟩,
    h.identity identity hidentity⟩

/-- In every run in which the hub looks at the car outside its
publication only, a join that has ended leaves its car registered in
every later state, as long as the engine car exists. -/
theorem joined_car_kept (b : Build) (tasks : ℕ → JoinTask) (s : Backend) (carId : ℕ)
    (hnew : carId ∉ s.store.knownCars) (events : List (ℕ × ServiceInput))
    (hexists : Along (Pool.Guarded (EngineCarExists carId)) (Pool.step (execCall b))
      (.start s fun i => (tasks i).task b) events)
    (hlooks : Along (Pool.Guarded (LooksOutside carId)) (Pool.step (execCall b))
      (.start s fun i => (tasks i).task b) events) (n i : ℕ)
    (hjoined : (stateAt (Pool.step (execCall b)) (.start s fun i => (tasks i).task b) events
      n).threads i = .ret (.joined carId)) :
    Registered (stateAt (Pool.step (execCall b)) (.start s fun i => (tasks i).task b) events
      n).world.shared.store carId := by
  have hguard : Along (Pool.Guarded (carDiscipline b carId).guard) (Pool.step (execCall b))
      (.start s fun i => (tasks i).task b) events :=
    (hlooks.and hexists).of_invariant (I := fun _ => True) (fun _ _ _ _ => trivial)
      (fun _ _ _ h => Pool.guarded_and h.1 h.2) trivial
  have hstart : (Pool.start s fun i => (tasks i).task b).Disciplined (carDiscipline b carId)
      fun _ => Settled carId :=
    ⟨rowOk_start hnew, fun i => (tasks i).obeys b carId i (rowOk_start hnew)⟩
  have hend := hstart.stateAt hguard n
  exact hend.inv.registered (hend.post hjoined rfl)

/-! ## Two runs -/

/-- Thread 0 registers an official race car, thread 1 collects a frame. -/
def registrationAndPass : ℕ → JoinTask
  | 0 => .officialRegistration "t" 1
  | _ => .collectFrame 0

/-- The threads take turns in the given order, and the engine grants
everything. -/
def turns (order : List ℕ) : List (ℕ × ServiceInput) :=
  order.map fun i => (i, willingInput 0 .tick)

theorem willingEngine_ne_error (target : EngineCommandTarget) (op : SlotOp)
    (err : EngineWorkerError) : willingEngine target op ≠ .error err := by
  cases op <;> simp [willingEngine]

/-- A willing engine denies no car. -/
theorem turns_engineCarExists (b : Build) (carId : ℕ) (order : List ℕ) (p : ServicePool) :
    Along (Pool.Guarded (EngineCarExists carId)) (Pool.step (execCall b)) p (turns order) := by
  induction order generalizing p with
  | nil => trivial
  | cons i rest ih =>
      refine ⟨?_, ih _⟩
      unfold Pool.Guarded
      split
      · trivial
      · rename_i op _ _
        cases op with
        | engine target op =>
            intro engineCarId _ _ err herr
            exact (willingEngine_ne_error target op err herr).elim
        | _ => trivial


/-- Once the target is written, every look-up is outside the
publication. -/
theorem Wrote.looksOutside {b : Build} {carId : ℕ} {target : EngineCommandTarget}
    {p : ServicePool} (h : Wrote p.world carId (.target target))
    (events : List (ℕ × ServiceInput)) :
    Along (Pool.Guarded (LooksOutside carId)) (Pool.step (execCall b)) p events := by
  induction events generalizing p with
  | nil => trivial
  | cons event rest ih =>
      refine ⟨?_, ih (h.mono (p.log_suffix_step (execCall b) event))⟩
      have hnot : ¬ Publishing carId p.world := fun hpublishing => hpublishing.2 target h
      unfold Pool.Guarded
      split
      · trivial
      · rename_i op _ _
        cases op with
        | carTarget other => exact fun _ => hnot
        | carEngineId other => exact fun _ => hnot
        | _ => trivial

/-- The registration runs to its end before the pass begins. -/
theorem registered_before_pass :
    Registered (stateAt (Pool.step (execCall .official))
      (.start ⟨.new, .new⟩ fun i => (registrationAndPass i).task .official)
      (turns [0, 0, 0, 0, 0, 0, 0, 1, 1, 1, 1, 1, 1, 1]) 14).world.shared.store 1 := by
  refine joined_car_kept .official registrationAndPass ⟨.new, .new⟩ 1 (by decide) _
    (turns_engineCarExists _ _ _ _) ?_ 14 0 (Prog.eq_ret_of_result? (by decide +kernel))
  refine ⟨trivial, trivial, trivial, trivial, trivial, trivial, trivial, ?_⟩
  have htarget : Wrote (stateAt (Pool.step (execCall .official))
      (.start ⟨.new, .new⟩ fun i => (registrationAndPass i).task .official)
      (turns [0, 0, 0, 0, 0, 0, 0]) 7).world 1 (.target .officialRace) :=
    ⟨_, List.mem_cons_self, rfl⟩
  exact htarget.looksOutside _

/-- The pass looks at the car right after it has become known, finds no
target and removes it. The registration goes on to its end, and the car
stays unknown although its engine car exists. -/
theorem published_car_dropped :
    Along (Pool.Guarded (EngineCarExists 1)) (Pool.step (execCall .official))
      (.start ⟨.new, .new⟩ fun i => (registrationAndPass i).task .official)
      (turns [0, 0, 0, 0, 1, 1, 1, 1, 1, 1, 1, 1, 1, 1, 0, 0, 0]) ∧
    (stateAt (Pool.step (execCall .official))
      (.start ⟨.new, .new⟩ fun i => (registrationAndPass i).task .official)
      (turns [0, 0, 0, 0, 1, 1, 1, 1, 1, 1, 1, 1, 1, 1, 0, 0, 0]) 17).threads 0 =
        .ret (.joined 1) ∧
    ¬ Registered (stateAt (Pool.step (execCall .official))
      (.start ⟨.new, .new⟩ fun i => (registrationAndPass i).task .official)
      (turns [0, 0, 0, 0, 1, 1, 1, 1, 1, 1, 1, 1, 1, 1, 0, 0, 0]) 17).world.shared.store 1 := by
  refine ⟨turns_engineCarExists _ _ _ _, Prog.eq_ret_of_result? (by decide +kernel), fun h => ?_⟩
  exact absurd h.known (by decide +kernel)

end HackArena.Services
