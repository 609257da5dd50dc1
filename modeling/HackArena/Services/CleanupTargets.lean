import HackArena.Services.StoreInvariant

/-!
# The target of a clean-up

A frontend stream that ends looks for a car of its instance in the target of
the stream. When it finds none, it takes the car that the instance joined
with last, in whatever target that one is.
-/

namespace HackArena.Services

open Boink HackArena.Runtime HackArena.Local Tasks

/-- The instance owns the car, which is in the target. -/
structure OwnedIn (s : RaceRuntimeStore) (uuid : String) (target : EngineCommandTarget)
    (carId : ℕ) : Prop where
  owner : s.carOwners.lookup carId = some uuid
  target : s.carTargets.lookup carId = some target

/-- Every map has the same entry for the car, and the same instances point
to it. -/
structure SameEntries (s t : RaceRuntimeStore) (carId : ℕ) : Prop where
  known : carId ∈ t.knownCars ↔ carId ∈ s.knownCars
  lastClientSeq : t.lastClientSeq.lookup carId = s.lastClientSeq.lookup carId
  owner : t.carOwners.lookup carId = s.carOwners.lookup carId
  engineId : t.carEngineIds.lookup carId = s.carEngineIds.lookup carId
  target : t.carTargets.lookup carId = s.carTargets.lookup carId
  identity : t.carIdentity.lookup carId = s.carIdentity.lookup carId
  pitState : t.carPitState.lookup carId = s.carPitState.lookup carId
  controlsInput : t.carControlsInput.lookup carId = s.carControlsInput.lookup carId
  instances : ∀ uuid, t.instanceCars.lookup uuid = some carId ↔
    s.instanceCars.lookup uuid = some carId

theorem SameEntries.refl (s : RaceRuntimeStore) (carId : ℕ) : SameEntries s s carId :=
  ⟨Iff.rfl, rfl, rfl, rfl, rfl, rfl, rfl, rfl, fun _ => Iff.rfl⟩

/-- A clean-up has nothing to take from the car. -/
structure Traceless (s : RaceRuntimeStore) (carId : ℕ) : Prop where
  known : carId ∉ s.knownCars
  lastClientSeq : s.lastClientSeq.lookup carId = none
  owner : s.carOwners.lookup carId = none
  engineId : s.carEngineIds.lookup carId = none
  target : s.carTargets.lookup carId = none

/-! ## What is removed -/

section Removal

variable {s : RaceRuntimeStore} {carId other : ℕ}

theorem dropState_eq (s : RaceRuntimeStore) (carId : ℕ) :
    s.dropState carId = { s with
      knownCars := s.knownCars.erase carId
      lastClientSeq := s.lastClientSeq.erase carId
      carOwners := s.carOwners.erase carId
      carEngineIds := s.carEngineIds.erase carId
      carTargets := s.carTargets.erase carId
      instanceCars := s.instancesWithout carId } := by
  rw [RaceRuntimeStore.dropState, removeCar_eq]

/-- The instances that point to another car stay. -/
theorem instancesWithout_iff (hne : other ≠ carId) (uuid : String) :
    (s.instancesWithout carId).lookup uuid = some other ↔
      s.instanceCars.lookup uuid = some other := by
  refine ⟨fun h => (instancesWithout_lookup h).1, fun h => ?_⟩
  rw [RaceRuntimeStore.instancesWithout]
  split
  · exact h
  · rename_i owner howner
    split
    · rename_i hpoints
      rw [HashMap.lookup_erase_eq, if_neg]
      · exact h
      · rintro rfl
        exact hne (Option.some.inj (h.symm.trans hpoints))
    · exact h

theorem dropState_sameEntries (hne : other ≠ carId) :
    SameEntries s (s.dropState carId) other := by
  rw [dropState_eq]
  constructor
  case known => simp [hne]
  case instances => exact instancesWithout_iff hne
  all_goals simp [hne]

/-- The car keeps its entries only when it has none to lose. -/
theorem dropState_self_iff :
    SameEntries s (s.dropState carId) carId ↔ Traceless s carId := by
  rw [dropState_eq]
  constructor
  · intro h
    constructor
    · have hknown := h.known
      simpa using hknown
    · simpa using h.lastClientSeq.symm
    · simpa using h.owner.symm
    · simpa using h.engineId.symm
    · simpa using h.target.symm
  · intro h
    refine ⟨by simp [h.known], by simp [h.lastClientSeq], by simp [h.owner], by simp [h.engineId],
      by simp [h.target], rfl, rfl, rfl, fun uuid => ?_⟩
    simp [RaceRuntimeStore.instancesWithout, h.owner]

end Removal

/-! ## What is found -/

/-- Calls that leave the engine alone. -/
def StoreCall : ServiceOp → Prop
  | .engine .. => False
  | _ => True

section Found

variable {b : Build} {uuid : String} {target : EngineCommandTarget} {s : Backend}
  {inputs : ℕ → ServiceInput}

/-- A car of the instance in the target is found among the entries, or there
is none. -/
def FoundAmong (s : RaceRuntimeStore) (uuid : String) (target : EngineCommandTarget)
    (entries : List (ℕ × String)) : Option ℕ → Prop
  | some carId => (carId, uuid) ∈ entries ∧ s.carTargets.lookup carId = some target
  | none => ∀ carId, (carId, uuid) ∈ entries → s.carTargets.lookup carId ≠ some target

theorem FoundAmong.cons {s : RaceRuntimeStore} {entry : ℕ × String} {rest : List (ℕ × String)}
    {found : Option ℕ} (h : FoundAmong s uuid target rest found)
    (hskip : entry.2 = uuid → s.carTargets.lookup entry.1 ≠ some target) :
    FoundAmong s uuid target (entry :: rest) found := by
  cases found with
  | some carId => exact ⟨List.mem_cons_of_mem _ h.1, h.2⟩
  | none =>
      intro carId hmem
      rcases List.mem_cons.mp hmem with rfl | hmem
      · exact hskip rfl
      · exact h carId hmem

theorem findOwned_ensures (entries : List (ℕ × String)) :
    (findOwned uuid target entries).Ensures (execCall b)
      (fun found s' => s' = s ∧ FoundAmong s.store uuid target entries found) s := by
  induction entries with
  | nil => exact ⟨rfl, nofun⟩
  | cons entry rest ih =>
      rw [findOwned]
      split
      · rename_i hother
        exact ih.mono fun found _ h => ⟨h.1, h.2.cons fun howner => (hother howner).elim⟩
      · rename_i howner
        refine .call fun input => ?_
        have hanswer : (execCall b s (.carTarget entry.1) input).2 =
            s.store.carTargets.lookup entry.1 := rfl
        rw [hanswer]
        split
        · rename_i htarget
          refine ⟨rfl, ?_, htarget⟩
          rw [← not_not.mp howner]
          exact List.mem_cons_self
        · rename_i htarget
          exact Prog.Ensures.mono ih fun found _ h => ⟨h.1, h.2.cons fun _ => htarget⟩

/-- The owners are iterated in an order that leaves no car out. -/
def ListsOwners (s : RaceRuntimeStore) (order : List ℕ) : Prop := ∀ carId ∈ s.carOwners, carId ∈ order

/-- The car that a clean-up resolves to. -/
def resolvedCar (b : Build) (uuid : String) (target : EngineCommandTarget)
    (inputs : ℕ → ServiceInput) (s : Backend) : Option ℕ :=
  ((resolveOwnedCleanupCar (some uuid) (some target)).run (execCall b) inputs s).2

theorem resolvedCar_cases (h : ListsOwners s.store (inputs 0).ownerOrder) :
    (∃ carId, resolvedCar b uuid target inputs s = some carId ∧
      OwnedIn s.store uuid target carId) ∨
    (∀ carId, ¬ OwnedIn s.store uuid target carId) ∧
      resolvedCar b uuid target inputs s = s.store.instanceCars.lookup uuid := by
  let entries := (inputs 0).ownerOrder.filterMap fun carId =>
    (s.store.carOwners.lookup carId).map (carId, ·)
  have hentries (carId : ℕ) : (carId, uuid) ∈ entries ↔
      carId ∈ (inputs 0).ownerOrder ∧ s.store.carOwners.lookup carId = some uuid := by
    simp [entries]
  let rest : ℕ → ServiceInput := fun n => inputs (n + 1)
  let found := ((findOwned uuid target entries).run (execCall b) rest s).2
  obtain ⟨hstate, hfound⟩ : ((findOwned uuid target entries).run (execCall b) rest s).1 = s ∧
      FoundAmong s.store uuid target entries found :=
    (findOwned_ensures (b := b) entries).run rest
  let answer : Option ℕ → Task (Option ℕ)
    | some carId => return some carId
    | none => (ServiceOp.instanceCar uuid).call
  have hresolved : resolvedCar b uuid target inputs s =
      found.or (s.store.instanceCars.lookup uuid) := by
    obtain ⟨k, hk⟩ := Prog.run_bind (execCall b) (findOwned uuid target entries) answer rest s
    have hrun : resolvedCar b uuid target inputs s =
        ((findOwned uuid target entries >>= answer).run (execCall b) rest s).2 := rfl
    rw [hrun, hk, hstate]
    change ((answer found).run (execCall b) _ s).2 = _
    cases found with
    | some carId => rfl
    | none => rfl
  rw [hresolved]
  cases hcase : found with
  | some carId =>
      rw [hcase] at hfound
      exact Or.inl ⟨carId, rfl, ((hentries carId).mp hfound.1).2, hfound.2⟩
  | none =>
      rw [hcase] at hfound
      refine Or.inr ⟨fun carId howned => ?_, rfl⟩
      have hlisted := h carId (Finmap.mem_of_lookup_eq_some howned.owner)
      exact hfound carId ((hentries carId).mpr ⟨hlisted, howned.owner⟩) howned.target

theorem removeCarState_uses (carId : ℕ) : (Tasks.removeCarState carId).Uses StoreCall := by
  refine ⟨trivial, fun _ => ⟨trivial, fun _ => ⟨trivial, fun _ => ⟨trivial, fun _ => ?_⟩⟩⟩⟩
  refine .call trivial fun owner => ?_
  cases owner with
  | none => trivial
  | some owner =>
      refine .call trivial fun found => ?_
      split
      · exact .call trivial fun _ => trivial
      · trivial

/-- Only the engine's car of the resolved car is despawned. -/
theorem dropOwnedCar_despawns {carId engineCarId : ℕ} {world : EngineCommandTarget}
    (h : ServiceOp.engine world (.despawnCar engineCarId) ∈
      (dropOwnedCar carId).calls (execCall b) inputs s) :
    s.store.carTargets.lookup carId = some world ∧
      s.store.carEngineIds.lookup carId = some engineCarId := by
  have hremove (inputs : ℕ → ServiceInput) (t : Backend) : ServiceOp.engine world
      (.despawnCar engineCarId) ∉ (Tasks.removeCarState carId).calls (execCall b) inputs t :=
    fun hmem => (removeCarState_uses carId).calls (execCall b) inputs t _ hmem
  rcases List.mem_cons.mp h with heq | h
  · cases heq
  · have hfirst : (execCall b s (.carTarget carId) (inputs 0)).2 =
        s.store.carTargets.lookup carId := rfl
    dsimp only [Prog.bind] at h
    rw [hfirst] at h
    split at h
    · exact (hremove _ _ h).elim
    · rename_i target htarget
      rcases List.mem_cons.mp h with heq | h
      · cases heq
      · have hsecond : (execCall b (execCall b s (.carTarget carId) (inputs 0)).1
            (.carEngineId carId) (inputs 1)).2 = s.store.carEngineIds.lookup carId := rfl
        dsimp only [Prog.bind] at h
        rw [hsecond] at h
        split at h
        · exact (hremove _ _ h).elim
        · rename_i found hfound
          rcases List.mem_cons.mp h with heq | h
          · cases heq
            exact ⟨htarget, hfound⟩
          · exact (hremove _ _ h).elim

end Found

/-! ## The clean-up -/

/-- A clean-up takes a car only from its instance and its target: what it
despawns is such a car in the engine, every other car keeps its entries, and
at most one car loses them. -/
structure StaysInTarget (b : Build) (uuid : String) (target : EngineCommandTarget)
    (inputs : ℕ → ServiceInput) (s : Backend) : Prop where
  despawned : ∀ world engineCarId, ServiceOp.engine world (.despawnCar engineCarId) ∈
      (cleanupFrontendCars (some target) (some uuid)).calls (execCall b) inputs s →
    world = target ∧ ∃ carId, OwnedIn s.store uuid target carId ∧
      s.store.carEngineIds.lookup carId = some engineCarId
  kept : ∀ carId, ¬ OwnedIn s.store uuid target carId → SameEntries s.store
    ((cleanupFrontendCars (some target) (some uuid)).run (execCall b) inputs s).1.store carId
  single : ∃ carId, ∀ other, other ≠ carId → SameEntries s.store
    ((cleanupFrontendCars (some target) (some uuid)).run (execCall b) inputs s).1.store other

section Cleanup

variable {b : Build} {uuid : String} {target : EngineCommandTarget} {s : Backend}
  {inputs : ℕ → ServiceInput}

theorem cleanedUp_store :
    ((cleanupFrontendCars (some target) (some uuid)).run (execCall b) inputs s).1.store =
      match resolvedCar b uuid target inputs s with
      | none => s.store
      | some carId => s.store.dropState carId := by
  rw [cleanupFrontendCars_run]
  change Backend.store (match resolvedCar b uuid target inputs s with
    | none => s
    | some carId => { s with store := s.store.dropState carId }) = _
  cases resolvedCar b uuid target inputs s with
  | none => rfl
  | some carId => rfl

/-- What a clean-up despawns is the engine's car of the resolved one. -/
theorem cleanup_despawns {engineCarId : ℕ} {world : EngineCommandTarget}
    (h : ServiceOp.engine world (.despawnCar engineCarId) ∈
      (cleanupFrontendCars (some target) (some uuid)).calls (execCall b) inputs s) :
    ∃ carId, resolvedCar b uuid target inputs s = some carId ∧
      s.store.carTargets.lookup carId = some world ∧
      s.store.carEngineIds.lookup carId = some engineCarId := by
  have hread : ((resolveOwnedCleanupCar (some uuid) (some target)).run (execCall b) inputs
      s).1 = s := resolveOwnedCleanupCar_run inputs s
  let drop : Option ℕ → Task Unit
    | none => return
    | some publicCarId => dropOwnedCar publicCarId
  obtain ⟨k, hk⟩ := Prog.calls_bind (execCall b)
    (resolveOwnedCleanupCar (some uuid) (some target)) drop inputs s
  have hcalls : (cleanupFrontendCars (some target) (some uuid)).calls (execCall b) inputs s =
      (resolveOwnedCleanupCar (some uuid) (some target) >>= drop).calls (execCall b) inputs s := rfl
  rw [hcalls, hk, hread, List.mem_append] at h
  rcases h with h | h
  · exact ((resolveOwnedCleanupCar_uses (some uuid) (some target)).calls (execCall b) inputs s _
      h).elim
  · cases hfound : resolvedCar b uuid target inputs s with
    | none =>
        rw [← resolvedCar, hfound] at h
        cases h
    | some carId =>
        rw [← resolvedCar, hfound] at h
        obtain ⟨htarget, hengineId⟩ := dropOwnedCar_despawns h
        exact ⟨carId, rfl, htarget, hengineId⟩

end Cleanup

/-- A clean-up stays in its target exactly when the instance has a car there, or
joined last with no car from which anything could be taken. -/
theorem cleanup_stays_in_target_iff (b : Build) (uuid : String) (target : EngineCommandTarget)
    (inputs : ℕ → ServiceInput) (s : Backend) (h : ListsOwners s.store (inputs 0).ownerOrder) :
    StaysInTarget b uuid target inputs s ↔
      (∃ carId, OwnedIn s.store uuid target carId) ∨
        ∀ carId, s.store.instanceCars.lookup uuid = some carId → Traceless s.store carId := by
  have hcases : (∃ carId, resolvedCar b uuid target inputs s = some carId ∧
        OwnedIn s.store uuid target carId) ∨
      (∀ carId, ¬ OwnedIn s.store uuid target carId) ∧
        resolvedCar b uuid target inputs s = s.store.instanceCars.lookup uuid :=
    resolvedCar_cases h
  constructor
  · intro hstays
    by_contra hnot
    rw [not_or] at hnot
    obtain ⟨hnone, hlast⟩ := hnot
    apply hlast
    intro carId hinstance
    rcases hcases with
      ⟨owned, -, howned⟩ | ⟨hfree, hresolved⟩
    · exact (hnone ⟨owned, howned⟩).elim
    · have hkept := hstays.kept carId (hfree carId)
      rw [cleanedUp_store, hresolved, hinstance] at hkept
      exact dropState_self_iff.mp hkept
  · intro hcond
    rcases hcases with
      ⟨owned, hresolved, howned⟩ | ⟨hfree, hresolved⟩
    · refine ⟨fun world engineCarId hmem => ?_, fun carId hcar => ?_, owned, fun other hne => ?_⟩
      · obtain ⟨carId, hfound, htarget, hengineId⟩ := cleanup_despawns hmem
        obtain rfl := Option.some.inj (hresolved.symm.trans hfound)
        exact ⟨Option.some.inj (htarget.symm.trans howned.target), owned, howned, hengineId⟩
      · rw [cleanedUp_store, hresolved]
        exact dropState_sameEntries fun heq => hcar (heq ▸ howned)
      · rw [cleanedUp_store, hresolved]
        exact dropState_sameEntries hne
    · have hlast := hcond.resolve_left fun ⟨carId, hcar⟩ => hfree carId hcar
      have hsame (carId : ℕ) : SameEntries s.store ((cleanupFrontendCars (some target)
          (some uuid)).run (execCall b) inputs s).1.store carId := by
        rw [cleanedUp_store, hresolved]
        cases hinstance : s.store.instanceCars.lookup uuid with
        | none => exact .refl s.store carId
        | some last =>
            by_cases heq : carId = last
            · rw [heq]
              exact dropState_self_iff.mpr (hlast last hinstance)
            · exact dropState_sameEntries heq
      refine ⟨fun world engineCarId hmem => ?_, fun carId _ => hsame carId, 0, fun other _ =>
        hsame other⟩
      obtain ⟨carId, hfound, htarget, -⟩ := cleanup_despawns hmem
      rw [(hlast carId (hresolved.symm.trans hfound)).target] at htarget
      cases htarget

/-! ## A car in another target -/

namespace OtherTarget

/-- The instance "u" has one car, in the sandbox "s". -/
def joined : Backend := stepStore .local ⟨.new, .new⟩ (.quickJoin "s", fun _ => sandboxInput)

theorem joined_listed : ListsOwners joined.store sandboxInput.ownerOrder := by
  have hkeys : ∀ carId ∈ joined.store.carOwners.keys, carId ∈ sandboxInput.ownerOrder := by
    decide +kernel
  exact fun carId hmem => hkeys carId (Finmap.mem_keys.mpr hmem)

/-- The stream of the sandbox "s" takes the car. -/
theorem own_stream_stays :
    ListsOwners joined.store sandboxInput.ownerOrder ∧
      StaysInTarget .local "u" (.sandbox "s") (fun _ => sandboxInput) joined := by
  refine ⟨joined_listed, ?_⟩
  refine (cleanup_stays_in_target_iff .local "u" (.sandbox "s") (fun _ => sandboxInput) joined
    joined_listed).mpr (Or.inl ⟨1, ?_, ?_⟩)
  · decide +kernel
  · decide +kernel

/-- A stream of the same instance in the sandbox "t", where it has no car,
takes the car from the sandbox "s". -/
theorem other_stream_takes_car :
    ListsOwners joined.store sandboxInput.ownerOrder ∧
      ¬ StaysInTarget .local "u" (.sandbox "t") (fun _ => sandboxInput) joined := by
  refine ⟨joined_listed, fun hstays => ?_⟩
  have htarget : joined.store.carTargets.lookup 1 = some (.sandbox "s") := by decide +kernel
  have hkept := (hstays.kept 1 fun howned => by
    have hsame := Option.some.inj (htarget.symm.trans howned.target)
    exact absurd hsame (by decide)).known
  exact absurd hkept (by decide +kernel)

end OtherTarget

end HackArena.Services
