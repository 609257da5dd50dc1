import HackArena.Services.ServiceTasks

/-!
# The store between requests

With no two requests running at once, every map of the store speaks of
known cars only, and an instance points to a car that it owns. Joins,
clean-ups, collections and commands keep this, except for the clean-up of
the frontend spectator stream: its own removal forgets three of the maps.
-/

namespace HackArena.Services

open Boink HackArena.Runtime HackArena.Local GuardedRun Tasks

structure RepOk (s : RaceRuntimeStore) : Prop where
  engineId : s.carEngineIds.keys ⊆ s.knownCars
  target : s.carTargets.keys ⊆ s.knownCars
  identity : s.carIdentity.keys ⊆ s.knownCars
  pitState : s.carPitState.keys ⊆ s.knownCars
  controlsInput : s.carControlsInput.keys ⊆ s.knownCars
  lastClientSeq : s.lastClientSeq.keys ⊆ s.knownCars
  owner : s.carOwners.keys ⊆ s.knownCars
  instanceCar : ∀ uuid carId, s.instanceCars.lookup uuid = some carId →
    s.carOwners.lookup carId = some uuid

/-- The car has no entry in the maps that `remove_car_state` forgets. -/
structure Bare (s : RaceRuntimeStore) (carId : ℕ) : Prop where
  identity : s.carIdentity.lookup carId = none
  pitState : s.carPitState.lookup carId = none
  controlsInput : s.carControlsInput.lookup carId = none

/-! ## Keys and known cars -/

section Keys

variable {α : Type}

theorem keys_subset_insert {m : HashMap ℕ α} {known : Finset ℕ} (h : m.keys ⊆ known) {carId : ℕ}
    (hcar : carId ∈ known) (value : α) : (m.insert carId value).keys ⊆ known := by
  rw [HashMap.keys_insert]
  exact Finset.insert_subset hcar h

theorem keys_subset_erase {m : HashMap ℕ α} {known : Finset ℕ} (h : m.keys ⊆ known) (carId : ℕ) :
    (m.erase carId).keys ⊆ known.erase carId := by
  rw [Finmap.keys_erase]
  exact Finset.erase_subset_erase carId h

theorem keys_subset_erase_iff {m : HashMap ℕ α} {known : Finset ℕ} (h : m.keys ⊆ known)
    (carId : ℕ) : m.keys ⊆ known.erase carId ↔ m.lookup carId = none := by
  rw [Finset.subset_erase, Finmap.mem_keys, Finmap.lookup_eq_none]
  exact and_iff_right h

theorem lookup_eq_none_of_unknown {m : HashMap ℕ α} {known : Finset ℕ} (h : m.keys ⊆ known)
    {carId : ℕ} (hcar : carId ∉ known) : m.lookup carId = none :=
  Finmap.lookup_eq_none.mpr fun hmem => hcar (h (Finmap.mem_keys.mpr hmem))

theorem erase_eq_self_iff (m : HashMap ℕ α) (carId : ℕ) :
    m = m.erase carId ↔ m.lookup carId = none := by
  constructor
  · intro h
    rw [h]
    exact Finmap.lookup_erase carId m
  · intro h
    apply Finmap.ext_lookup
    intro other
    rw [HashMap.lookup_erase_eq]
    split
    · rename_i heq
      rw [heq, h]
    · rfl

end Keys

/-! ## Single calls -/

section Calls

variable {s : RaceRuntimeStore} {carId : ℕ}

theorem RepOk.call (h : RepOk s) (hcar : carId ∈ s.knownCars) (b : Build) (call : CarCall) :
    RepOk (call.apply b s carId) := by
  rcases call.apply_cases b s carId with ⟨-, seq, heq⟩ | ⟨-, input, heq⟩ | ⟨-, state, heq⟩ |
    ⟨-, update, heq⟩ <;> rw [heq]
  · exact { h with lastClientSeq := keys_subset_insert h.lastClientSeq hcar seq }
  · exact { h with controlsInput := keys_subset_insert h.controlsInput hcar input }
  · exact { h with pitState := keys_subset_insert h.pitState hcar state }
  · rw [RaceRuntimeStore.modifyIdentity]
    split
    · exact h
    · exact { h with identity := keys_subset_insert h.identity hcar _ }

theorem instancesWithout_lookup {uuid : String} {other : ℕ}
    (h : (s.instancesWithout carId).lookup uuid = some other) :
    s.instanceCars.lookup uuid = some other ∧
      (s.carOwners.lookup carId = some uuid → other ≠ carId) := by
  rw [RaceRuntimeStore.instancesWithout] at h
  split at h
  · rename_i hnone
    refine ⟨h, fun howner => ?_⟩
    rw [hnone] at howner
    cases howner
  · rename_i owner howner
    split at h
    · rw [HashMap.lookup_erase_eq] at h
      split at h
      · cases h
      · rename_i hne
        refine ⟨h, fun heq => ?_⟩
        rw [howner] at heq
        exact (hne (Option.some.inj heq).symm).elim
    · rename_i hother
      refine ⟨h, ?_⟩
      rintro heq rfl
      rw [howner] at heq
      obtain rfl := Option.some.inj heq
      exact hother h

theorem RepOk.mapped_without (h : RepOk s) {uuid : String} {other : ℕ}
    (hinstance : (s.instancesWithout carId).lookup uuid = some other) :
    (s.carOwners.erase carId).lookup other = some uuid := by
  obtain ⟨hbefore, hne⟩ := instancesWithout_lookup hinstance
  have howner := h.instanceCar uuid other hbefore
  rw [HashMap.lookup_erase_eq, if_neg]
  · exact howner
  · rintro rfl
    exact hne howner rfl

theorem RepOk.removeCar (h : RepOk s) (carId : ℕ) : RepOk (s.removeCar carId) := by
  rw [removeCar_eq]
  exact ⟨keys_subset_erase h.engineId carId, keys_subset_erase h.target carId,
    keys_subset_erase h.identity carId, keys_subset_erase h.pitState carId,
    keys_subset_erase h.controlsInput carId, keys_subset_erase h.lastClientSeq carId,
    keys_subset_erase h.owner carId, fun _ _ => h.mapped_without⟩

/-- What the frontend's removal leaves: the three maps as they were. -/
def RaceRuntimeStore.dropState (s : RaceRuntimeStore) (carId : ℕ) : RaceRuntimeStore :=
  { s.removeCar carId with
    carIdentity := s.carIdentity
    carPitState := s.carPitState
    carControlsInput := s.carControlsInput }

theorem dropState_eq_removeCar_iff (s : RaceRuntimeStore) (carId : ℕ) :
    s.dropState carId = s.removeCar carId ↔ Bare s carId := by
  have hidentity : (s.removeCar carId).carIdentity = s.carIdentity.erase carId := by
    rw [removeCar_eq]
  have hpit : (s.removeCar carId).carPitState = s.carPitState.erase carId := by
    rw [removeCar_eq]
  have hcontrols : (s.removeCar carId).carControlsInput = s.carControlsInput.erase carId := by
    rw [removeCar_eq]
  constructor
  · intro h
    refine ⟨?_, ?_, ?_⟩
    · rw [← erase_eq_self_iff, ← hidentity, ← h]
      rfl
    · rw [← erase_eq_self_iff, ← hpit, ← h]
      rfl
    · rw [← erase_eq_self_iff, ← hcontrols, ← h]
      rfl
  · intro h
    have hsame := ((erase_eq_self_iff _ _).mpr h.identity).trans hidentity.symm
    have hsame' := ((erase_eq_self_iff _ _).mpr h.pitState).trans hpit.symm
    have hsame'' := ((erase_eq_self_iff _ _).mpr h.controlsInput).trans hcontrols.symm
    rw [RaceRuntimeStore.dropState, hsame, hsame', hsame'']

/-- The frontend's removal keeps the invariant when it forgets nothing. -/
theorem RepOk.dropState_iff (h : RepOk s) (carId : ℕ) :
    RepOk (s.dropState carId) ↔ Bare s carId := by
  constructor
  · intro hdrop
    have hknown : (s.dropState carId).knownCars = s.knownCars.erase carId := by
      rw [RaceRuntimeStore.dropState, removeCar_eq]
    refine ⟨?_, ?_, ?_⟩
    · exact (keys_subset_erase_iff h.identity carId).mp (hknown ▸ hdrop.identity)
    · exact (keys_subset_erase_iff h.pitState carId).mp (hknown ▸ hdrop.pitState)
    · exact (keys_subset_erase_iff h.controlsInput carId).mp (hknown ▸ hdrop.controlsInput)
  · intro hbare
    rw [(dropState_eq_removeCar_iff s carId).mpr hbare]
    exact h.removeCar carId

end Calls

/-! ## A registration -/

section Registration

variable {s : RaceRuntimeStore} {carId : ℕ}

/-- A car that has just been given its number: only its owner, its
identity and its bot slot are in the store. -/
structure Arriving (s : RaceRuntimeStore) (carId : ℕ) : Prop where
  engineId : s.carEngineIds.keys ⊆ s.knownCars
  target : s.carTargets.keys ⊆ s.knownCars
  identity : s.carIdentity.keys ⊆ insert carId s.knownCars
  pitState : s.carPitState.keys ⊆ s.knownCars
  controlsInput : s.carControlsInput.keys ⊆ s.knownCars
  lastClientSeq : s.lastClientSeq.keys ⊆ s.knownCars
  owner : s.carOwners.keys ⊆ insert carId s.knownCars
  instanceCar : ∀ uuid other, s.instanceCars.lookup uuid = some other →
    s.carOwners.lookup other = some uuid

theorem RepOk.arriving (h : RepOk s) (carId : ℕ) : Arriving s carId :=
  { h with
    identity := h.identity.trans (Finset.subset_insert carId _)
    owner := h.owner.trans (Finset.subset_insert carId _) }

/-- The instance and the owner are written together, for a car of which
nothing is known. -/
theorem RepOk.own (h : RepOk s) (hnew : carId ∉ s.knownCars) (uuid : String) :
    Arriving ((CarEntry.carOwner uuid).insert ((CarEntry.instanceCar uuid).insert s carId) carId)
      carId := by
  refine { h.arriving carId with
    owner := keys_subset_insert (h.arriving carId).owner (Finset.mem_insert_self _ _) uuid
    instanceCar := ?_ }
  intro uuid' other hinstance
  have hnone := lookup_eq_none_of_unknown h.owner hnew
  simp only [CarEntry.insert] at hinstance ⊢
  rw [HashMap.lookup_insert_eq] at hinstance ⊢
  split at hinstance
  · rename_i heq
    obtain rfl := Option.some.inj hinstance
    rw [if_pos rfl, heq]
  · have howner := h.instanceCar uuid' other hinstance
    rw [if_neg]
    · exact howner
    · rintro rfl
      rw [hnone] at howner
      cases howner

theorem Arriving.identified (h : Arriving s carId) (identity : RuntimeCarIdentity) :
    Arriving ((CarEntry.identity identity).insert s carId) carId :=
  { h with identity := keys_subset_insert h.identity (Finset.mem_insert_self _ _) identity }

theorem Arriving.numberBot (h : Arriving s carId) (sandboxId userId : String) :
    Arriving (s.allocateLocalBotIndex sandboxId userId).2 carId :=
  ⟨h.1, h.2, h.3, h.4, h.5, h.6, h.7, h.8⟩

/-- The last writes of a join complete the car. -/
theorem Arriving.published (h : Arriving s carId) (engineCarId : ℕ)
    (target : EngineCommandTarget) :
    RepOk ([CarEntry.known, .lastClientSeq, .engineId engineCarId, .target target].foldl
      (fun s entry => entry.insert s carId) s) := by
  have hgrown := Finset.subset_insert carId s.knownCars
  have hself := Finset.mem_insert_self carId s.knownCars
  exact ⟨keys_subset_insert (h.engineId.trans hgrown) hself _,
    keys_subset_insert (h.target.trans hgrown) hself _, h.identity, h.pitState.trans hgrown,
    h.controlsInput.trans hgrown, keys_subset_insert (h.lastClientSeq.trans hgrown) hself _,
    h.owner, h.instanceCar⟩

theorem Arriving.call (h : Arriving s carId) (b : Build) (call : CarCall)
    (hcall : call.creates = none) : Arriving (call.apply b s carId) carId := by
  rcases call.apply_cases b s carId with ⟨hc, -⟩ | ⟨hc, -⟩ | ⟨hc, -⟩ | ⟨-, update, heq⟩
  · rw [hcall] at hc
    cases hc
  · rw [hcall] at hc
    cases hc
  · rw [hcall] at hc
    cases hc
  · rw [heq, RaceRuntimeStore.modifyIdentity]
    split
    · exact h
    · exact h.identified _

end Registration

/-! ## The tasks, each run alone -/

section Alone

variable {b : Build} {s : Backend}

/-- Calls that touch no map about cars. -/
def QuietCall : ServiceOp → Prop
  | .car .. | .allocatePublicCarId | .insert .. | .erase .. | .takeOwner _
  | .eraseInstanceCar _ | .removeCar _ => False
  | _ => True

theorem QuietCall.repOk {op : ServiceOp} (hop : QuietCall op) {s : Backend} {input : ServiceInput}
    (h : RepOk s.store) : RepOk (execCall b s op input).1.store := by
  cases op with
  | car | allocatePublicCarId | insert | erase | takeOwner | eraseInstanceCar | removeCar =>
      exact hop.elim
  | allocateLocalBotIndex => exact ⟨h.1, h.2, h.3, h.4, h.5, h.6, h.7, h.8⟩
  | _ => exact h

theorem QuietCall.known {op : ServiceOp} (hop : QuietCall op) (s : Backend)
    (input : ServiceInput) : (execCall b s op input).1.store.knownCars = s.store.knownCars ∧
      (execCall b s op input).1.store.nextPublicCarId = s.store.nextPublicCarId := by
  cases op with
  | car | allocatePublicCarId | insert | erase | takeOwner | eraseInstanceCar | removeCar =>
      exact hop.elim
  | _ => exact ⟨rfl, rfl⟩

/-- The next number to be given is not that of a known car. -/
def Ready (s : Backend) : Prop :=
  RepOk s.store ∧ s.store.nextPublicCarId ∉ s.store.knownCars

theorem QuietCall.ready {op : ServiceOp} (hop : QuietCall op) {s : Backend} (input : ServiceInput)
    (h : Ready s) : Ready (execCall b s op input).1 := by
  obtain ⟨hknown, hnext⟩ := hop.known (b := b) s input
  refine ⟨hop.repOk h.1, ?_⟩
  rw [hknown, hnext]
  exact h.2

/-- A car without any entry. -/
def Numbered (carId : ℕ) (s : Backend) : Prop := RepOk s.store ∧ carId ∉ s.store.knownCars

theorem QuietCall.numbered {op : ServiceOp} (hop : QuietCall op) {carId : ℕ} {s : Backend}
    (input : ServiceInput) (h : Numbered carId s) : Numbered carId (execCall b s op input).1 := by
  refine ⟨hop.repOk h.1, ?_⟩
  rw [(hop.known (b := b) s input).1]
  exact h.2

theorem Ready.allocate {s : Backend} (h : Ready s) (input : ServiceInput) :
    Numbered (execCall b s .allocatePublicCarId input).2
      (execCall b s .allocatePublicCarId input).1 :=
  ⟨⟨h.1.1, h.1.2, h.1.3, h.1.4, h.1.5, h.1.6, h.1.7, h.1.8⟩, h.2⟩

theorem insertAll_ensures {post : Backend → Prop} (carId : ℕ) (entries : List CarEntry)
    (h : post { s with store := entries.foldl (fun s entry => entry.insert s carId) s.store }) :
    (insertAll carId entries).Ensures (execCall b) (fun _ => post) s := by
  induction entries generalizing s with
  | nil => exact h
  | cons entry rest ih => exact fun input => ih h

/-- The identity of an arriving car is written and the car published. -/
theorem registration_ensures {carId : ℕ} (h : Arriving s.store carId)
    (identity : RuntimeCarIdentity) (engineCarId : ℕ) (target : EngineCommandTarget) :
    (do
      insertAll carId [.identity identity]
      publish carId engineCarId target
      return .joined carId : Task TaskOutcome).Ensures (execCall b)
        (fun _ s' => RepOk s'.store) s := by
  refine .bind (insertAll_ensures carId _ ?_)
  refine .bind (insertAll_ensures carId _ ?_)
  exact (h.identified identity).published engineCarId target

theorem joinSandboxAt_ensures
    {place : String → EngineCommandTarget → ℕ → Task (Except Status Unit)}
    (hplace : ∀ sandboxId target engineCarId, (place sandboxId target engineCarId).Uses
      QuietCall) (requestedSandboxId : String) (hs : Ready s) :
    (joinSandboxAt b place requestedSandboxId).Ensures (execCall b)
      (fun _ s' => RepOk s'.store) s := by
  refine .keep hs (QuietCall.ready (by trivial)) fun runtimeState s hs => ?_
  cases runtimeState with
  | error err => exact hs.1
  | ok runtimeState =>
  dsimp only
  cases selectLocalJoinSandbox runtimeState requestedSandboxId with
  | error status => exact hs.1
  | ok active =>
  refine .keep hs (QuietCall.ready (by trivial)) fun spawned s hs => ?_
  cases spawned with
  | error err => exact hs.1
  | ok engineCarId =>
  refine .bind (((hplace _ _ _).ensures (fun op hop s => hop.ready) hs).mono ?_)
  intro placed s hs
  cases placed with
  | error status => exact .keep hs (QuietCall.ready (by trivial)) fun _ _ hs => hs.1
  | ok value =>
  refine .call fun input => ?_
  have hnumbered := hs.allocate (b := b) input
  generalize (execCall b s .allocatePublicCarId input).2 = publicCarId at hnumbered ⊢
  generalize (execCall b s .allocatePublicCarId input).1 = s at hnumbered ⊢
  have htoken : (if b = .standalone then pure (.ok .default)
      else ServiceOp.identityFromToken.call :
        Task (Except Status RuntimeCarIdentity)).Uses QuietCall := by
    split
    · trivial
    · exact ⟨trivial, fun _ => trivial⟩
  refine .bind ((htoken.ensures (fun op hop s => hop.numbered) hnumbered).mono ?_)
  intro token s hs
  cases token with
  | error status => exact hs.1
  | ok identity =>
  dsimp only
  cases identity.instanceUuid with
  | none =>
      refine .bind (insertAll_ensures publicCarId _ ?_)
      refine .call fun input => registration_ensures ?_ _ _ _
      exact (hs.1.arriving publicCarId).numberBot _ _
  | some uuid =>
      refine .bind (insertAll_ensures publicCarId _ ?_)
      refine .call fun input => registration_ensures ?_ _ _ _
      exact (hs.1.own hs.2 uuid).numberBot _ _

theorem localRaceJoinImpl_ensures (requestedRaceId requestedName : String) (hs : Ready s) :
    (localRaceJoinImpl requestedRaceId requestedName).Ensures (execCall b)
      (fun _ s' => RepOk s'.store) s := by
  rw [localRaceJoinImpl]
  split
  · exact hs.1
  · refine .keep hs (QuietCall.ready (by trivial)) fun active s hs => ?_
    cases active with
    | none => exact hs.1
    | some active =>
    dsimp only
    split
    · exact hs.1
    · refine .keep hs (QuietCall.ready (by trivial)) fun spawned s hs => ?_
      cases spawned with
      | error err => exact hs.1
      | ok engineCarId =>
      refine .call fun input => ?_
      have hnumbered := hs.allocate (b := b) input
      generalize (execCall b s .allocatePublicCarId input).2 = publicCarId at hnumbered ⊢
      generalize (execCall b s .allocatePublicCarId input).1 = s at hnumbered ⊢
      refine .keep hnumbered (QuietCall.numbered (by trivial)) fun registered s hs => ?_
      cases registered with
      | error err => exact .keep hs (QuietCall.numbered (by trivial)) fun _ _ hs => hs.1
      | ok participant =>
      refine .keep hs (QuietCall.numbered (by trivial)) fun slots s hs => ?_
      rcases slots with err | _ | slots
      · exact hs.1
      · exact hs.1
      · refine .keep hs (QuietCall.numbered (by trivial)) fun placed s hs => ?_
        cases placed with
        | error err =>
            exact .keep hs (QuietCall.numbered (by trivial)) fun _ _ hs =>
              .keep hs (QuietCall.numbered (by trivial)) fun _ _ hs => hs.1
        | ok value => exact registration_ensures (hs.1.arriving publicCarId) _ _ _

theorem joinOfficialRace_ensures (teamId : String) (startPositionIndex : ℕ) (hs : Ready s) :
    (joinOfficialRace teamId startPositionIndex).Ensures (execCall b)
      (fun _ s' => RepOk s'.store) s := by
  refine .keep hs (QuietCall.ready (by trivial)) fun spawned s hs => ?_
  cases spawned with
  | error err => exact hs.1
  | ok engineCarId =>
  refine .call fun input => ?_
  exact registration_ensures ((hs.allocate (b := b) input).1.arriving _) _ _ _

theorem joinTeamSandbox_ensures (sandboxId userId teamId : String) (slotIndex : ℤ)
    (containerStarts : Bool) (hs : Ready s) :
    (joinTeamSandbox sandboxId userId teamId slotIndex containerStarts).Ensures (execCall b)
      (fun _ s' => RepOk s'.store) s := by
  refine .keep hs (QuietCall.ready (by trivial)) fun spawned s hs => ?_
  cases spawned with
  | error err => exact hs.1
  | ok engineCarId =>
  refine .keep hs (QuietCall.ready (by trivial)) fun placed s hs => ?_
  cases placed with
  | error err => exact .keep hs (QuietCall.ready (by trivial)) fun _ _ hs => hs.1
  | ok value =>
  refine .call fun input => ?_
  have hnumbered := hs.allocate (b := b) input
  generalize (execCall b s .allocatePublicCarId input).2 = publicCarId at hnumbered ⊢
  generalize (execCall b s .allocatePublicCarId input).1 = s at hnumbered ⊢
  refine .bind (insertAll_ensures publicCarId _ ?_)
  refine .call fun input => .bind (insertAll_ensures publicCarId _ ?_)
  have hidentified := (hnumbered.1.arriving publicCarId).identified
    (teamSandboxIdentity userId teamId)
  have hdone := (hidentified.call b (.setActiveBotSlot slotIndex) rfl).published engineCarId
    (.sandbox sandboxId)
  cases containerStarts with
  | true => exact hdone
  | false => exact fun _ _ => RepOk.removeCar hdone publicCarId

/-! ### Clean-ups -/

theorem cleanupParticipantCar_ensures (carId : ℕ) (target : EngineCommandTarget)
    (engineCarId : ℕ) (hs : RepOk s.store) :
    (Tasks.cleanupParticipantCar b carId target engineCarId).Ensures (execCall b)
      (fun _ s' => RepOk s'.store) s := by
  have hdespawn : (do
      let _ ← inEngine target (.despawnCar engineCarId)
      (ServiceOp.removeCar carId).call : Task Unit).Ensures (execCall b)
        (fun _ s' => RepOk s'.store) s := fun _ _ => hs.removeCar carId
  cases target with
  | officialRace => exact hs
  | localRace raceId => exact hdespawn
  | sandbox sandboxId =>
      cases b with
      | «local» => exact hdespawn
      | standalone => exact hdespawn
      | official =>
          refine .call fun input => ?_
          split
          · exact hs
          · exact fun _ _ => hs.removeCar carId

theorem removeInstanceMappingForCar_ensures (carId : ℕ) :
    (removeInstanceMappingForCar carId).Ensures (execCall b) (fun _ s' => s' = { s with
      store := { s.store with
        carOwners := s.store.carOwners.erase carId
        instanceCars := s.store.instancesWithout carId } }) s := by
  refine .call fun input => ?_
  have hanswer : (execCall b s (.takeOwner carId) input).2 = s.store.carOwners.lookup carId := rfl
  rw [hanswer, RaceRuntimeStore.instancesWithout]
  cases s.store.carOwners.lookup carId with
  | none => rfl
  | some uuid =>
      refine .call fun input' => ?_
      have hpoints : (execCall b (execCall b s (.takeOwner carId) input).1 (.instanceCar uuid)
          input').2 = s.store.instanceCars.lookup uuid := rfl
      rw [hpoints]
      by_cases howned : s.store.instanceCars.lookup uuid = some carId
      · simp only [howned, if_true]
        exact fun _ => rfl
      · simp only [howned, if_false]
        rfl

theorem removeCarState_ensures (carId : ℕ) :
    (Tasks.removeCarState carId).Ensures (execCall b)
      (fun _ s' => s' = { s with store := s.store.dropState carId }) s := by
  refine .bind fun _ _ _ _ => ?_
  refine (removeInstanceMappingForCar_ensures carId).mono fun _ t ht => ?_
  rw [ht, RaceRuntimeStore.dropState, removeCar_eq]
  rfl

/-- Calls that change nothing. -/
def ReadCall : ServiceOp → Prop
  | .carOwnerEntries | .carTarget _ | .carEngineId _ | .instanceCar _ | .engine .. => True
  | _ => False

theorem ReadCall.state_eq {op : ServiceOp} (hop : ReadCall op) (s : Backend)
    (input : ServiceInput) : (execCall b s op input).1 = s := by
  cases op with
  | carOwnerEntries | carTarget | carEngineId | instanceCar | engine => rfl
  | _ => exact hop.elim

/-- Calls that look up the cars of an instance. -/
def LookupCall : ServiceOp → Prop
  | .carOwnerEntries | .carTarget _ | .instanceCar _ => True
  | _ => False

theorem LookupCall.readCall (op : ServiceOp) (hop : LookupCall op) : ReadCall op := by
  cases op with
  | carOwnerEntries | carTarget | instanceCar => trivial
  | _ => exact hop.elim

theorem findOwned_uses (uuid : String) (target : EngineCommandTarget)
    (entries : List (ℕ × String)) : (findOwned uuid target entries).Uses LookupCall := by
  induction entries with
  | nil => trivial
  | cons entry rest ih =>
      rw [findOwned]
      split
      · exact ih
      · refine .call trivial fun found => ?_
        split
        · trivial
        · exact ih

theorem resolveOwnedCleanupCar_uses (ownerInstanceUuid : Option String)
    (cleanupTarget : Option EngineCommandTarget) :
    (resolveOwnedCleanupCar ownerInstanceUuid cleanupTarget).Uses LookupCall := by
  cases ownerInstanceUuid with
  | none => trivial
  | some uuid =>
      cases cleanupTarget with
      | none => exact ⟨trivial, fun _ => trivial⟩
      | some target =>
          refine .call trivial fun entries => (findOwned_uses uuid target _).bind fun found => ?_
          cases found with
          | none => exact ⟨trivial, fun _ => trivial⟩
          | some carId => trivial

theorem resolveOwnedCleanupCar_run {ownerInstanceUuid : Option String}
    {cleanupTarget : Option EngineCommandTarget} (inputs : ℕ → ServiceInput) (s : Backend) :
    ((resolveOwnedCleanupCar ownerInstanceUuid cleanupTarget).run (execCall b) inputs s).1 = s :=
  (((resolveOwnedCleanupCar_uses ownerInstanceUuid cleanupTarget).mono LookupCall.readCall).ensures
    (I := fun t => t = s) (fun _ hop t input ht => (hop.state_eq t input).trans ht) rfl).run inputs

theorem dropOwnedCar_ensures (carId : ℕ) :
    (dropOwnedCar carId).Ensures (execCall b)
      (fun _ s' => s' = { s with store := s.store.dropState carId }) s := by
  refine .call fun input => ?_
  split
  · exact removeCarState_ensures carId
  · refine .call fun input => ?_
    split
    · exact removeCarState_ensures carId
    · exact .call fun input => removeCarState_ensures carId

/-- The frontend's clean-up drops the car it has resolved to. -/
theorem cleanupFrontendCars_run (cleanupTarget : Option EngineCommandTarget)
    (ownerInstanceUuid : Option String) (inputs : ℕ → ServiceInput) (s : Backend) :
    ((cleanupFrontendCars cleanupTarget ownerInstanceUuid).run (execCall b) inputs s).1 =
      match ((resolveOwnedCleanupCar ownerInstanceUuid cleanupTarget).run (execCall b) inputs
        s).2 with
      | none => s
      | some carId => { s with store := s.store.dropState carId } := by
  have hread : ((resolveOwnedCleanupCar ownerInstanceUuid cleanupTarget).run (execCall b) inputs
      s).1 = s := resolveOwnedCleanupCar_run inputs s
  obtain ⟨k, hk⟩ := Prog.run_bind (execCall b)
    (resolveOwnedCleanupCar ownerInstanceUuid cleanupTarget) _ inputs s
  rw [cleanupFrontendCars, hk, hread]
  generalize ((resolveOwnedCleanupCar ownerInstanceUuid cleanupTarget).run (execCall b) inputs
    s).2 = resolved
  cases resolved with
  | none => rfl
  | some carId =>
      exact (dropOwnedCar_ensures carId).run _

/-! ### Collections -/

/-- The invariant holds, and the known cars are the given ones. -/
def Knows (known : Finset ℕ) (s : Backend) : Prop := RepOk s.store ∧ s.store.knownCars = known

/-- A car's own calls keep the invariant while the car is known. -/
theorem ownCarCall_knows {carId : ℕ} {known : Finset ℕ} (hcar : carId ∈ known) (op : ServiceOp)
    (hop : OwnCarCall carId op) (s : Backend) (input : ServiceInput) (h : Knows known s) :
    Knows known (execCall b s op input).1 := by
  obtain ⟨hrep, rfl⟩ := h
  cases op with
  | car other call =>
      obtain ⟨rfl, -⟩ := hop
      exact ⟨hrep.call hcar b call, (call.apply_registry b s.store other).2.1⟩
  | engine | carTarget | carEngineId => exact ⟨hrep, rfl⟩
  | _ => exact hop.elim

/-- After a car's collection at most the car itself is gone. -/
theorem collectCar_ensures {carId : ℕ} {known : Finset ℕ} (hcar : carId ∈ known) (nowMs : ℕ)
    (hs : Knows known s) :
    (Tasks.collectCar b (fun carId => (ServiceOp.removeCar carId).call) nowMs carId).Ensures
      (execCall b) (fun _ s' => Knows known s' ∨ Knows (known.erase carId) s') s := by
  have hremove : ∀ s, Knows known s → (ServiceOp.removeCar carId).call.Ensures (execCall b)
      (fun _ s' => Knows known s' ∨ Knows (known.erase carId) s') s := by
    rintro s ⟨hrep, rfl⟩ input
    refine Or.inr ⟨hrep.removeCar carId, ?_⟩
    change (s.store.removeCar carId).knownCars = _
    rw [removeCar_eq]
  refine .keep hs (fun input => ownCarCall_knows hcar _ (by trivial) _ input) fun target s hs => ?_
  cases target with
  | none => exact hremove s hs
  | some target =>
  refine .keep hs (fun input => ownCarCall_knows hcar _ (by trivial) _ input) fun engineCarId s hs => ?_
  cases engineCarId with
  | none => exact hremove s hs
  | some engineCarId =>
  refine .keep hs (fun input => ownCarCall_knows hcar _ (by trivial) _ input) fun result s hs => ?_
  split
  · exact hremove s hs
  · exact Or.inl hs
  · rename_i state _
    refine .bind (((readRaceMetrics_uses b carId target engineCarId).ensures
      (ownCarCall_knows hcar) hs).mono fun metrics s hs => ?_)
    split
    · exact hremove s hs
    · exact Or.inl hs
    · refine .bind (((applyPitFixTire_uses b target carId engineCarId state).ensures
        (ownCarCall_knows hcar) hs).mono fun dropped s hs => ?_)
      split
      · exact hremove s hs
      · refine .keep hs (fun input => ownCarCall_knows hcar _ (by exact ⟨rfl, rfl⟩) _ input)
          fun pitState s hs => ?_
        split
        · exact .keep hs (fun input => ownCarCall_knows hcar _ (by trivial) _ input)
            fun _ s hs => Or.inl hs
        · exact Or.inl hs

/-- The cars still to be visited are known, since each is visited once. -/
theorem collectCars_ensures (nowMs : ℕ) {ids : List ℕ} (hnodup : ids.Nodup)
    (hids : ∀ carId ∈ ids, carId ∈ s.store.knownCars) (hs : RepOk s.store) :
    (Tasks.collectCars b (fun carId => (ServiceOp.removeCar carId).call) nowMs ids).Ensures
      (execCall b) (fun _ s' => RepOk s'.store) s := by
  induction ids generalizing s with
  | nil => exact hs
  | cons carId rest ih =>
      rw [List.nodup_cons] at hnodup
      have hfirst := collectCar_ensures (b := b) (hids carId List.mem_cons_self) nowMs ⟨hs, rfl⟩
      refine .bind (hfirst.mono fun _ t ht => ?_)
      have hrest : ∀ other ∈ rest, other ∈ s.store.knownCars.erase carId := by
        intro other hother
        refine Finset.mem_erase.mpr ⟨?_, hids other (List.mem_cons_of_mem _ hother)⟩
        rintro rfl
        exact hnodup.1 hother
      rcases ht with ⟨hrep, hknown⟩ | ⟨hrep, hknown⟩
      · exact ih hnodup.2 (fun other hother => hknown ▸ Finset.mem_of_mem_erase (hrest other hother))
          hrep
      · exact ih hnodup.2 (fun other hother => hknown ▸ hrest other hother) hrep

end Alone

/-! ## Requests one after the other -/

/-- The requests that work on the store. The store call of a command may
come from any channel. -/
inductive StoreRequest where
  | localSandboxJoin (requestedSandboxId : String)
  | quickJoin (requestedSandboxId : String)
  | localRaceJoin (raceId displayName : String)
  | officialRegistration (teamId : String) (startPositionIndex : ℕ)
  | teamSandboxJoin (sandboxId userId teamId : String) (slotIndex : ℤ) (containerStarts : Bool)
  | cleanupParticipantCar (carId : ℕ) (target : EngineCommandTarget) (engineCarId : ℕ)
  | cleanupFrontendCars (cleanupTarget : Option EngineCommandTarget)
      (ownerInstanceUuid : Option String)
  | collectFrame (nowMs : ℕ)
  | command (carId : ℕ) (call : CarCall)

def StoreRequest.task (b : Build) : StoreRequest → Task TaskOutcome
  | .localSandboxJoin requestedSandboxId => Tasks.localSandboxJoinImpl b requestedSandboxId
  | .quickJoin requestedSandboxId => joinSandbox b requestedSandboxId
  | .localRaceJoin raceId displayName => localRaceJoinImpl raceId displayName
  | .officialRegistration teamId startPositionIndex => joinOfficialRace teamId startPositionIndex
  | .teamSandboxJoin sandboxId userId teamId slotIndex containerStarts =>
      joinTeamSandbox sandboxId userId teamId slotIndex containerStarts
  | .cleanupParticipantCar carId target engineCarId => do
      Tasks.cleanupParticipantCar b carId target engineCarId
      return .done
  | .cleanupFrontendCars cleanupTarget ownerInstanceUuid => do
      Tasks.cleanupFrontendCars cleanupTarget ownerInstanceUuid
      return .done
  | .collectFrame nowMs => do
      Tasks.collectFrame b (fun carId => (ServiceOp.removeCar carId).call) nowMs
      return .done
  | .command carId call => do
      let _ ← (ServiceOp.car carId call).call
      return .done

/-- A request runs to its end. -/
def stepStore (b : Build) (s : Backend) (event : StoreRequest × (ℕ → ServiceInput)) : Backend :=
  ((event.1.task b).run (execCall b) event.2 s).1

/-- Commands are addressed to known cars, and the number that a join would
give is not that of a known car. -/
def Admissible (s : Backend) (event : StoreRequest × (ℕ → ServiceInput)) : Prop :=
  match event.1 with
  | .localSandboxJoin _ | .quickJoin _ | .localRaceJoin .. | .officialRegistration ..
  | .teamSandboxJoin .. => s.store.nextPublicCarId ∉ s.store.knownCars
  | .command carId _ => carId ∈ s.store.knownCars
  | .cleanupParticipantCar .. | .cleanupFrontendCars .. | .collectFrame _ => True

/-- A frontend clean-up finds its car without an identity, a pit state and
controls. -/
def ForgetsNothing (b : Build) (s : Backend) (event : StoreRequest × (ℕ → ServiceInput)) : Prop :=
  match event.1 with
  | .cleanupFrontendCars cleanupTarget ownerInstanceUuid =>
      ∀ carId, ((resolveOwnedCleanupCar ownerInstanceUuid cleanupTarget).run (execCall b) event.2
        s).2 = some carId → Bare s.store carId
  | _ => True

section Requests

variable {b : Build} {s : Backend}

theorem PlacingCall.quiet {op : ServiceOp} (h : Tasks.PlacingCall op) : QuietCall op := by
  cases op with
  | car | allocatePublicCarId | insert | erase | takeOwner | eraseInstanceCar | removeCar =>
      exact h.elim
  | _ => trivial

/-- Every request but the frontend's clean-up keeps the invariant. -/
theorem task_ensures {request : StoreRequest} {inputs : ℕ → ServiceInput} (hs : RepOk s.store)
    (hadmissible : Admissible s (request, inputs))
    (hother : ∀ cleanupTarget owner, request ≠ .cleanupFrontendCars cleanupTarget owner) :
    (request.task b).Ensures (execCall b) (fun _ s' => RepOk s'.store) s := by
  cases request with
  | localSandboxJoin requestedSandboxId =>
      exact joinSandboxAt_ensures (fun sandboxId target engineCarId =>
        (applyLocalSpawnMode_uses sandboxId target engineCarId).mono fun _ => PlacingCall.quiet)
        requestedSandboxId ⟨hs, hadmissible⟩
  | quickJoin requestedSandboxId =>
      exact joinSandboxAt_ensures (fun sandboxId target engineCarId =>
        (quickJoinPlacing_uses b sandboxId target engineCarId).mono fun _ => PlacingCall.quiet)
        requestedSandboxId ⟨hs, hadmissible⟩
  | localRaceJoin raceId displayName =>
      exact localRaceJoinImpl_ensures raceId displayName ⟨hs, hadmissible⟩
  | officialRegistration teamId startPositionIndex =>
      exact joinOfficialRace_ensures teamId startPositionIndex ⟨hs, hadmissible⟩
  | teamSandboxJoin sandboxId userId teamId slotIndex containerStarts =>
      exact joinTeamSandbox_ensures sandboxId userId teamId slotIndex containerStarts
        ⟨hs, hadmissible⟩
  | cleanupParticipantCar carId target engineCarId =>
      exact .bind (cleanupParticipantCar_ensures carId target engineCarId hs)
  | cleanupFrontendCars cleanupTarget owner => exact (hother cleanupTarget owner rfl).elim
  | collectFrame nowMs =>
      refine .bind (.call fun input => ?_)
      exact collectCars_ensures nowMs (knownCarIds_nodup s.store)
        (fun carId hcar => mem_knownCarIds.mp hcar) hs
  | command carId call => exact .call fun _ => hs.call hadmissible b call

theorem stepStore_repOk_iff {event : StoreRequest × (ℕ → ServiceInput)} (hs : RepOk s.store)
    (hadmissible : Admissible s event) :
    RepOk (stepStore b s event).store ↔ ForgetsNothing b s event := by
  obtain ⟨request, inputs⟩ := event
  cases request with
  | cleanupFrontendCars cleanupTarget owner =>
      obtain ⟨k, hk⟩ := Prog.run_bind (execCall b) (Tasks.cleanupFrontendCars cleanupTarget owner)
        (fun _ => return TaskOutcome.done) inputs s
      have hstep : stepStore b s (.cleanupFrontendCars cleanupTarget owner, inputs) =
          ((Tasks.cleanupFrontendCars cleanupTarget owner).run (execCall b) inputs s).1 :=
        congrArg Prod.fst hk
      rw [hstep, cleanupFrontendCars_run, ForgetsNothing]
      dsimp only
      cases ((resolveOwnedCleanupCar owner cleanupTarget).run (execCall b) inputs s).2 with
      | none => exact iff_of_true hs fun _ h => nomatch h
      | some carId => simpa using hs.dropState_iff carId
  | _ =>
      refine iff_of_true ?_ trivial
      exact (task_ensures hs hadmissible (by simp)).run inputs

end Requests

theorem repOk_new : RepOk .new := by
  constructor <;> simp [RaceRuntimeStore.new]

/-- The invariant holds after every request exactly when no frontend
clean-up finds its car with an identity, a pit state or controls; and the
frontend's removal does what the store's own removal does exactly for such
cars. -/
theorem store_invariant_iff (b : Build) (races : LocalRaceState)
    (events : List (StoreRequest × (ℕ → ServiceInput)))
    (hadmissible : Along Admissible (stepStore b) ⟨.new, races⟩ events) :
    ((∀ n, RepOk (stateAt (stepStore b) ⟨.new, races⟩ events n).store) ↔
      Along (ForgetsNothing b) (stepStore b) ⟨.new, races⟩ events) ∧
    ∀ (s : Backend) (carId : ℕ) (inputs : ℕ → ServiceInput),
      ((Tasks.removeCarState carId).run (execCall b) inputs s).1.store =
        s.store.removeCar carId ↔ Bare s.store carId := by
  refine ⟨?_, fun s carId inputs => ?_⟩
  · exact hadmissible.forall_stateAt_iff (I := fun s => RepOk s.store)
      (fun s event hs hadm => stepStore_repOk_iff hs hadm) repOk_new
  · have hrun := (removeCarState_ensures (b := b) (s := s) carId).run inputs
    rw [hrun]
    exact dropState_eq_removeCar_iff s.store carId

/-! ## Two runs -/

/-- The instance "u" has one sandbox to join. -/
def sandboxInput : ServiceInput :=
  { willingInput 0 .tick with
    runtimeState := .ok ⟨0, .sandbox, "m", none, [⟨"s", "m", .noon, none⟩], .noon, []⟩
    ownerOrder := [1]
    localSpawnMode := fun _ => some .startLine
    identity := .ok { RuntimeCarIdentity.default with
      subject := some "p"
      instanceUuid := some "u" } }

theorem first_number_unknown :
    RaceRuntimeStore.new.nextPublicCarId ∉ RaceRuntimeStore.new.knownCars := by decide

/-- The car joins, drives and is cleaned up with its participant. -/
def joinedAndLeft : List (StoreRequest × (ℕ → ServiceInput)) :=
  [(.quickJoin "s", fun _ => sandboxInput), (.command 1 (.lastClientSeq 3), fun _ => sandboxInput),
    (.collectFrame 5, fun _ => sandboxInput),
    (.cleanupParticipantCar 1 (.sandbox "s") 1, fun _ => sandboxInput)]

theorem joined_and_left_repOk :
    RepOk (stateAt (stepStore .local) ⟨.new, .new⟩ joinedAndLeft 4).store := by
  refine (store_invariant_iff .local .new joinedAndLeft ?_).1.mpr ?_ 4
  · have hknown : 1 ∈ (stepStore .local ⟨.new, .new⟩
        (.quickJoin "s", fun _ => sandboxInput)).store.knownCars := by decide +kernel
    exact ⟨first_number_unknown, hknown, trivial, trivial, trivial⟩
  · exact ⟨trivial, trivial, trivial, trivial, trivial⟩

/-- The frontend stream of the instance disconnects: its clean-up removes
the car, whose identity stays behind. -/
theorem spectator_leaves_identity :
    Along Admissible (stepStore .local) ⟨.new, .new⟩
      [(.quickJoin "s", fun _ => sandboxInput),
        (.cleanupFrontendCars (some (.sandbox "s")) (some "u"), fun _ => sandboxInput)] ∧
    ¬ RepOk (stateAt (stepStore .local) ⟨.new, .new⟩
      [(.quickJoin "s", fun _ => sandboxInput),
        (.cleanupFrontendCars (some (.sandbox "s")) (some "u"), fun _ => sandboxInput)] 2).store ∧
    ((Tasks.removeCarState 1).run (execCall .local) (fun _ => sandboxInput)
        (stateAt (stepStore .local) ⟨.new, .new⟩
          [(.quickJoin "s", fun _ => sandboxInput)] 1)).1.store ≠
      (stateAt (stepStore .local) ⟨.new, .new⟩
        [(.quickJoin "s", fun _ => sandboxInput)] 1).store.removeCar 1 := by
  refine ⟨⟨first_number_unknown, trivial, trivial⟩, fun h => ?_, fun h => ?_⟩
  · exact absurd h.identity (by decide +kernel)
  · have hidentity := congrArg (fun s => s.carIdentity.lookup 1) h
    exact absurd hidentity (by decide +kernel)

end HackArena.Services
