import HackArena.Services.CarTaskCalls

/-!
# Removal and late writes

Most store calls for a car create the entry they write to. A stream, a
command or the frame hub that awaits the engine while the car is removed
therefore puts entries back. What is left of a removed car depends on one
thing: whether such a call comes after its last removal.
-/

namespace HackArena.Services

open Boink HackArena.Runtime HackArena.Local GuardedRun Tasks

/-- No map of the store has anything of the car. -/
structure Cleared (s : RaceRuntimeStore) (carId : ℕ) : Prop where
  lastClientSeq : s.lastClientSeq.lookup carId = none
  engineId : s.carEngineIds.lookup carId = none
  target : s.carTargets.lookup carId = none
  identity : s.carIdentity.lookup carId = none
  pitState : s.carPitState.lookup carId = none
  controlsInput : s.carControlsInput.lookup carId = none
  owner : s.carOwners.lookup carId = none
  instanceCar : ∀ uuid, s.instanceCars.lookup uuid ≠ some carId

/-- The instance that points to the car owns it. -/
def OwnerMapped (s : RaceRuntimeStore) (carId : ℕ) : Prop :=
  ∀ uuid, s.instanceCars.lookup uuid = some carId → s.carOwners.lookup carId = some uuid

/-- The car has been removed, and no call has created an entry of it
since. -/
def RemovedForGood (carId : ℕ) (log : List (Entry ServiceOp ServiceOp.Answer)) : Prop :=
  ∃ newer e older, log = newer ++ e :: older ∧ e.op = .removeCar carId ∧
    ∀ e' ∈ newer, ∀ call, e'.op = .car carId call → call.creates = none

/-! ## One call -/

section Call

variable {b : Build} {s : RaceRuntimeStore} {carId : ℕ}

theorem removeCar_cleared (h : OwnerMapped s carId) : Cleared (s.removeCar carId) carId := by
  rw [RaceRuntimeStore.removeCar]
  dsimp only
  split
  · rename_i hnone
    refine ⟨?_, ?_, ?_, ?_, ?_, ?_, ?_, fun uuid huuid => ?_⟩ <;> try simp
    rw [h uuid huuid] at hnone
    cases hnone
  · rename_i owner howner
    split
    · refine ⟨?_, ?_, ?_, ?_, ?_, ?_, ?_, fun uuid huuid => ?_⟩ <;> try simp
      dsimp only at huuid
      rw [HashMap.lookup_erase_eq] at huuid
      split at huuid
      · cases huuid
      · rename_i hne
        rw [h uuid huuid] at howner
        exact hne (Option.some.inj howner)
    · rename_i hother
      refine ⟨?_, ?_, ?_, ?_, ?_, ?_, ?_, fun uuid huuid => ?_⟩ <;> try simp
      have heq := h uuid huuid
      rw [howner] at heq
      obtain rfl := Option.some.inj heq
      exact hother huuid

/-- The call leaves an entry of the car, or changes nothing that was
cleared. -/
theorem CarCall.cleared_iff (b : Build) (s : RaceRuntimeStore) (carId : ℕ) (call : CarCall) :
    Cleared (call.apply b s carId) carId ↔ call.creates = none ∧ Cleared s carId := by
  rcases call.apply_cases b s carId with ⟨hcreates, seq, heq⟩ | ⟨hcreates, input, heq⟩ |
    ⟨hcreates, state, heq⟩ | ⟨hcreates, update, heq⟩ <;> rw [heq, hcreates]
  · refine iff_of_false (fun h => ?_) (by simp)
    simpa using h.lastClientSeq
  · refine iff_of_false (fun h => ?_) (by simp)
    simpa using h.controlsInput
  · refine iff_of_false (fun h => ?_) (by simp)
    simpa [RaceRuntimeStore.putPitState] using h.pitState
  · obtain ⟨identity, hidentity, hlookup⟩ := modifyIdentity_eq s carId update
    have hnone : identity.lookup carId = none ↔ s.carIdentity.lookup carId = none := by
      rw [hlookup, if_pos rfl, Option.map_eq_none_iff]
    rw [hidentity]
    constructor
    · exact fun h => ⟨rfl, ⟨h.1, h.2, h.3, hnone.mp h.4, h.5, h.6, h.7, h.8⟩⟩
    · rintro ⟨-, h⟩
      exact ⟨h.1, h.2, h.3, hnone.mpr h.4, h.5, h.6, h.7, h.8⟩

theorem CarCall.ownerMapped (h : OwnerMapped s carId) (call : CarCall) :
    OwnerMapped (call.apply b s carId) carId := by
  rcases call.apply_cases b s carId with ⟨-, seq, heq⟩ | ⟨-, input, heq⟩ | ⟨-, state, heq⟩ |
    ⟨-, update, heq⟩ <;> rw [heq]
  · exact h
  · exact h
  · exact h
  · obtain ⟨identity, hidentity, -⟩ := modifyIdentity_eq s carId update
    rw [hidentity]
    exact h

end Call

/-! ## The log -/

section Log

variable {carId : ℕ} {e : Entry ServiceOp ServiceOp.Answer}
  {log : List (Entry ServiceOp ServiceOp.Answer)}

theorem removedForGood_of_remove (he : e.op = .removeCar carId) :
    RemovedForGood carId (e :: log) :=
  ⟨[], e, log, rfl, he, by simp⟩

/-- Another call that comes last must create no entry of the car. -/
theorem removedForGood_cons (he : e.op ≠ .removeCar carId) :
    RemovedForGood carId (e :: log) ↔
      (∀ call, e.op = .car carId call → call.creates = none) ∧ RemovedForGood carId log := by
  constructor
  · rintro ⟨newer, r, older, heq, hr, hnewer⟩
    cases newer with
    | nil =>
        obtain ⟨rfl, -⟩ := List.cons.inj heq
        exact (he hr).elim
    | cons e' newer =>
        obtain ⟨rfl, rfl⟩ := List.cons.inj heq
        exact ⟨hnewer e List.mem_cons_self, newer, r, older, rfl, hr,
          fun e' he' => hnewer e' (List.mem_cons_of_mem _ he')⟩
  · rintro ⟨hlast, newer, r, older, rfl, hr, hnewer⟩
    refine ⟨e :: newer, r, older, rfl, hr, fun e' he' => ?_⟩
    rcases List.mem_cons.mp he' with rfl | he'
    · exact hlast
    · exact hnewer e' he'

end Log

/-! ## Every run -/

/-- What is left of the car depends on the log alone. -/
structure RemovalOk (carId : ℕ) (w : ServiceWorld) : Prop where
  mapped : OwnerMapped w.shared.store carId
  cleared : (∃ e ∈ w.log, e.op = .removeCar carId) →
    (Cleared w.shared.store carId ↔ RemovedForGood carId w.log)

/-- A call that touches no entry of the car. -/
theorem RemovalOk.of_store_eq {b : Build} {carId : ℕ} {w : ServiceWorld} (h : RemovalOk carId w)
    {thread : ℕ} {op : ServiceOp} {input : ServiceInput}
    (hcar : ∀ call, op ≠ .car carId call) (hremove : op ≠ .removeCar carId)
    (hcleared : Cleared (execCall b w.shared op input).1.store carId ↔
      Cleared w.shared.store carId)
    (hmapped : OwnerMapped (execCall b w.shared op input).1.store carId) :
    RemovalOk carId (w.perform (execCall b) thread op input) := by
  refine ⟨hmapped, ?_⟩
  rintro ⟨e, he, hop⟩
  rcases List.mem_cons.mp he with rfl | he
  · exact (hremove hop).elim
  · refine hcleared.trans ((h.cleared ⟨e, he, hop⟩).trans ?_)
    rw [World.perform, removedForGood_cons hremove]
    exact (and_iff_right fun call hcall => (hcar call hcall).elim).symm

/-- The tasks make no other calls. -/
def removalDiscipline (b : Build) (carId : ℕ) :
    Discipline Backend ServiceOp ServiceOp.Answer ServiceInput (execCall b) where
  guard _ _ _ _ := True
  permits _ _ := CarTaskCall carId
  inv := RemovalOk carId
  kept := by
    intro w thread op input hinv _ hop
    cases op with
    | car other call =>
        obtain rfl := hop
        have hne : ServiceOp.car other call ≠ .removeCar other := by simp
        refine ⟨call.ownerMapped hinv.mapped, ?_⟩
        rintro ⟨e, he, hremoved⟩
        rcases List.mem_cons.mp he with rfl | he
        · exact (hne hremoved).elim
        · rw [World.perform, removedForGood_cons hne, ← hinv.cleared ⟨e, he, hremoved⟩]
          refine (call.cleared_iff b w.shared.store other).trans (and_congr_left fun _ => ?_)
          constructor
          · rintro hcreates call' hcall
            cases hcall
            exact hcreates
          · exact fun h => h call rfl
    | removeCar other =>
        obtain rfl := hop
        have hcleared := removeCar_cleared hinv.mapped
        refine ⟨fun uuid huuid => (hcleared.instanceCar uuid huuid).elim, fun _ => ?_⟩
        exact iff_of_true hcleared (removedForGood_of_remove rfl)
    | insert | erase | takeOwner | eraseInstanceCar => exact hop.elim
    | allocatePublicCarId | allocateLocalBotIndex =>
        refine hinv.of_store_eq (by simp) (by simp) ?_ hinv.mapped
        exact ⟨fun h => ⟨h.1, h.2, h.3, h.4, h.5, h.6, h.7, h.8⟩,
          fun h => ⟨h.1, h.2, h.3, h.4, h.5, h.6, h.7, h.8⟩⟩
    | _ => exact hinv.of_store_eq (by simp) (by simp) Iff.rfl hinv.mapped

/-- In every state after a removal, nothing is left of the car exactly
when no call has created an entry of it since its last removal. -/
theorem removal_final_iff (b : Build) (carId : ℕ) (tasks : ℕ → Option CarTask) (s : Backend)
    (hmapped : OwnerMapped s.store carId) (events : List (ℕ × ServiceInput)) (n : ℕ)
    (hremoved : ∃ e ∈ (stateAt (Pool.step (execCall b)) (.start s (carThreads b carId tasks))
      events n).world.log, e.op = .removeCar carId) :
    Cleared (stateAt (Pool.step (execCall b)) (.start s (carThreads b carId tasks)) events
        n).world.shared.store carId ↔
      RemovedForGood carId (stateAt (Pool.step (execCall b))
        (.start s (carThreads b carId tasks)) events n).world.log := by
  have hstart : (Pool.start s (carThreads b carId tasks)).Disciplined
      (removalDiscipline b carId) fun _ _ _ => True := by
    refine ⟨⟨hmapped, ?_⟩, fun i => ?_⟩
    · rintro ⟨e, he, -⟩
      cases he
    · exact (carThreads_uses b carId tasks i).obeys (fun op hop _ => hop) _
  have hguard : Along (Pool.Guarded (removalDiscipline b carId).guard) (Pool.step (execCall b))
      (.start s (carThreads b carId tasks)) events := by
    refine along_of_forall fun p event => ?_
    unfold Pool.Guarded
    split <;> trivial
  exact (hstart.stateAt hguard n).inv.cleared hremoved

/-! ## Two runs -/

/-- A store in which car 1 drives in the official race. -/
def oneOfficialCar : RaceRuntimeStore :=
  [CarEntry.identity .default, .known, .lastClientSeq, .engineId 1, .target .officialRace].foldl
    (fun s entry => entry.insert s 1) .new

/-- Controls for the car, and its removal. -/
def controlsAndRemoval : ℕ → Option CarTask
  | 0 => some (.setControlsDev 7 (Controls.new 1 0 (1 / 2) 0 0 .none))
  | 1 => some .removeCar
  | _ => none

/-- The run in which the threads take turns in the given order. -/
def controlsRun (order : List ℕ) : ServicePool :=
  stateAt (Pool.step (execCall .official))
    (.start ⟨oneOfficialCar, .new⟩ (carThreads .official 1 controlsAndRemoval))
    (order.map fun i => (i, willingInput 0 .tick)) order.length

/-- The controls are set, and then the car is removed. -/
theorem removed_after_controls :
    Cleared (controlsRun [0, 0, 0, 0, 0, 1]).world.shared.store 1 := by
  refine (removal_final_iff .official 1 controlsAndRemoval ⟨oneOfficialCar, .new⟩ ?_ _ 6
    ⟨_, List.mem_cons_self, rfl⟩).mpr (removedForGood_of_remove rfl)
  intro uuid huuid
  exact absurd huuid (by simp [oneOfficialCar, CarEntry.insert, RaceRuntimeStore.new])

/-- The car is removed while the controls await the engine. When both have
ended, the sequence number and the controls of the car are in the store
again. -/
theorem controls_after_removal :
    (∀ i, ∃ outcome, (controlsRun [0, 0, 0, 1, 0, 0]).threads i = .ret outcome) ∧
      ¬ Cleared (controlsRun [0, 0, 0, 1, 0, 0]).world.shared.store 1 := by
  refine ⟨fun i => ?_, fun h => ?_⟩
  · rcases i with _ | _ | i
    · exact ⟨_, rfl⟩
    · exact ⟨_, rfl⟩
    · exact ⟨_, rfl⟩
  · exact absurd h.lastClientSeq (by decide +kernel)

end HackArena.Services
