import HackArena.Services.CarTaskCalls

/-!
# The participants of a local race

The race store records the participants, the runtime store the cars. A
join registers its car first and publishes it later; a disconnected car is
taken out of the runtime store. What a join has called so far determines
what the two stores have of its car.
-/

namespace HackArena.Services

open Boink HackArena.Runtime HackArena.Local GuardedRun Tasks

/-! ## The tasks -/

/-- What goes on around a local race: joins, the clean-ups of disconnected
cars, the passes of the frame hub, and the administration. -/
inductive RaceTask where
  | join (requestedRaceId requestedName : String)
  | cleanup (publicCarId : ℕ) (target : EngineCommandTarget) (engineCarId : ℕ)
  | collectFrame (nowMs : ℕ)
  | admin (write : RaceWrite)

def RaceTask.task (b : Build) : RaceTask → Task TaskOutcome
  | .join requestedRaceId requestedName => localRaceJoinImpl requestedRaceId requestedName
  | .cleanup publicCarId target engineCarId => do
      Tasks.cleanupParticipantCar b publicCarId target engineCarId
      return .done
  | .collectFrame nowMs => do
      Tasks.collectFrame b (fun carId => (ServiceOp.removeCar carId).call) nowMs
      return .done
  | .admin write => do
      (ServiceOp.raceWrite write).call
      return .done

def raceThreads (b : Build) (tasks : ℕ → Option RaceTask) : ℕ → Task TaskOutcome :=
  fun i => match tasks i with
    | some t => t.task b
    | none => return .done

/-- The race in the answer of `build_runtime_state`. The cars are counted
first, and the race is read later. -/
def buildRuntimeStateRace (counted read : Backend) (nowMs : ℕ) : Option LocalRaceRuntimeInfo :=
  (activeRace read.races nowMs).map fun race =>
    { race with joinedParticipantCount :=
        (counted.store.activeCarCountsByLocalRace race.raceId).getD race.joinedParticipantCount }

/-! ## The protocol of a join -/

/-- How far a join has come. A `stranded` join has been refused after its
registration, and left it behind. -/
inductive JoinStage where
  | fresh
  | allocated (carId : ℕ)
  | registered (raceId : String) (carId : ℕ)
  | published (raceId : String) (carId : ℕ)
  | withdrawn (raceId : String) (carId : ℕ)
  | stranded (raceId : String) (carId : ℕ)

namespace JoinStage

def carId : JoinStage → Option ℕ
  | .fresh => none
  | .allocated carId | .registered _ carId | .published _ carId | .withdrawn _ carId
  | .stranded _ carId => some carId

/-- The race and the car of a registration, whatever became of it. -/
def entered : JoinStage → Option (String × ℕ)
  | .fresh | .allocated _ => none
  | .registered raceId carId | .published raceId carId | .withdrawn raceId carId
  | .stranded raceId carId => some (raceId, carId)

/-- The registration that the race store still has. -/
def held : JoinStage → Option (String × ℕ)
  | .fresh | .allocated _ | .withdrawn .. => none
  | .registered raceId carId | .published raceId carId | .stranded raceId carId =>
      some (raceId, carId)

def withdraw : JoinStage → JoinStage
  | .registered raceId carId => .withdrawn raceId carId
  | stage => stage

/-- The start slots could not be counted. -/
def strand : JoinStage → JoinStage
  | .registered raceId carId => .stranded raceId carId
  | stage => stage

def next (stage : JoinStage) : (op : ServiceOp) → op.Answer → JoinStage
  | .allocatePublicCarId, (carId : ℕ) => .allocated carId
  | .registerParticipant raceId carId _, .ok _ => .registered raceId carId
  | .engine _ .getNumberOfStartPos, .error _ => stage.strand
  | .engine _ .getNumberOfStartPos, .ok (0 : ℕ) => stage.strand
  | .insert carId (.target (.localRace raceId)), _ => .published raceId carId
  | .removeParticipant _, _ => stage.withdraw
  | _, _ => stage

end JoinStage

/-- A join registers the car it has allocated, and then publishes it or
takes the registration back, which is its last call. -/
def joinProtocol : Protocol ServiceOp ServiceOp.Answer JoinStage where
  init := .fresh
  next := JoinStage.next
  permits stage op := (∀ raceId carId, stage ≠ .withdrawn raceId carId) ∧ match op with
    | .allocatePublicCarId => stage = .fresh
    | .registerParticipant _ carId _ => stage = .allocated carId
    | .removeParticipant carId => ∃ raceId, stage = .registered raceId carId
    | .insert carId (.target target) =>
        ∃ raceId, target = .localRace raceId ∧ stage = .registered raceId carId
    | .erase .. => False
    | _ => True

/-- How a task ends at a stage. -/
def JoinPost : TaskOutcome → JoinStage → Prop
  | .joined carId, stage => ∃ raceId, stage = .published raceId carId
  | .refused _, stage => ∀ raceId carId, stage ≠ .registered raceId carId ∧
      stage ≠ .published raceId carId
  | .done, stage => stage = .fresh

/-! ### The tasks follow it -/

theorem registered_ne_withdrawn {raceId : String} {carId : ℕ} :
    ∀ raceId' carId', JoinStage.registered raceId carId ≠ .withdrawn raceId' carId' := by simp

theorem placeLocalRaceCar_follows (raceId displayName : String) (engineCarId publicCarId : ℕ)
    (participant : LocalRaceParticipantRecord) :
    (placeLocalRaceCar raceId displayName engineCarId publicCarId participant).Follows
      joinProtocol JoinPost (.registered raceId publicCarId) := by
  refine .call ⟨registered_ne_withdrawn, trivial⟩ fun slots => ?_
  split
  · exact fun _ _ => ⟨nofun, nofun⟩
  · exact fun _ _ => ⟨nofun, nofun⟩
  · rename_i slots hslots
    obtain ⟨k, rfl⟩ := Nat.exists_eq_succ_of_ne_zero fun hzero => hslots (hzero ▸ rfl)
    refine .call ⟨registered_ne_withdrawn, trivial⟩ fun placed => ?_
    split
    · refine .call ⟨registered_ne_withdrawn, trivial⟩ fun _ => ?_
      exact .call ⟨registered_ne_withdrawn, raceId, rfl⟩ fun _ _ _ => ⟨nofun, nofun⟩
    · -- the last of the insertions is the one of the target
      refine .call ⟨registered_ne_withdrawn, trivial⟩ fun _ => ?_
      refine .call ⟨registered_ne_withdrawn, trivial⟩ fun _ => ?_
      refine .call ⟨registered_ne_withdrawn, trivial⟩ fun _ => ?_
      refine .call ⟨registered_ne_withdrawn, trivial⟩ fun _ => ?_
      exact .call ⟨registered_ne_withdrawn, raceId, rfl, rfl⟩ fun _ => ⟨raceId, rfl⟩

theorem localRaceJoinImpl_follows (requestedRaceId requestedName : String) :
    (localRaceJoinImpl requestedRaceId requestedName).Follows joinProtocol JoinPost .fresh := by
  rw [localRaceJoinImpl]
  split
  · exact fun _ _ => ⟨nofun, nofun⟩
  · refine .call ⟨nofun, trivial⟩ fun active => ?_
    cases active with
    | none => exact fun _ _ => ⟨nofun, nofun⟩
    | some active =>
        dsimp only
        split
        · exact fun _ _ => ⟨nofun, nofun⟩
        · refine .call ⟨nofun, trivial⟩ fun spawned => ?_
          cases spawned with
          | error err => exact fun _ _ => ⟨nofun, nofun⟩
          | ok engineCarId =>
              refine .call ⟨nofun, rfl⟩ fun publicCarId => .call ⟨nofun, rfl⟩ fun result => ?_
              cases result with
              | error err =>
                  exact .call ⟨nofun, trivial⟩ fun _ _ _ => ⟨nofun, nofun⟩
              | ok participant => exact placeLocalRaceCar_follows ..

/-- Calls that are no part of a join. -/
def OutsideJoin : ServiceOp → Prop
  | .allocatePublicCarId | .registerParticipant .. | .removeParticipant _ | .insert ..
  | .erase .. | .engine _ .getNumberOfStartPos => False
  | _ => True

theorem OutsideJoin.follows {α : Type} {p : Task α} (h : p.Uses OutsideJoin) :
    p.Follows joinProtocol (fun _ stage => stage = .fresh) .fresh := by
  refine h.follows fun op hop => ?_
  cases op with
  | allocatePublicCarId | registerParticipant | removeParticipant | insert | erase =>
      exact hop.elim
  | engine target op =>
      cases op with
      | getNumberOfStartPos => exact hop.elim
      | _ => exact ⟨⟨nofun, trivial⟩, fun _ => rfl⟩
  | _ => exact ⟨⟨nofun, trivial⟩, fun _ => rfl⟩

theorem RaceTask.follows (b : Build) (t : RaceTask) :
    (t.task b).Follows joinProtocol JoinPost .fresh := by
  cases t with
  | join requestedRaceId requestedName => exact localRaceJoinImpl_follows ..
  | cleanup publicCarId target engineCarId =>
      exact .bind (OutsideJoin.follows (cleanupParticipantCar_uses b publicCarId
        (fun _ _ => trivial) trivial trivial target engineCarId))
  | collectFrame nowMs =>
      have huses : (Tasks.collectFrame b (fun carId => (ServiceOp.removeCar carId).call)
          nowMs).Uses OutsideJoin := by
        refine collectFrame_uses (fun carId => ?_) trivial (fun carId op hop => ?_) b nowMs
        · exact ⟨trivial, fun _ => trivial⟩
        · cases op with
          | engine target op =>
              cases op with
              | getNumberOfStartPos => exact hop.elim
              | _ => trivial
          | allocatePublicCarId | registerParticipant | removeParticipant | insert | erase =>
              exact hop.elim
          | _ => trivial
      exact .bind (OutsideJoin.follows huses)
  | admin write => exact .call ⟨nofun, trivial⟩ fun _ => rfl

theorem raceThreads_followed (b : Build) (tasks : ℕ → Option RaceTask) (s : Backend) :
    (Pool.start s (raceThreads b tasks)).Followed joinProtocol JoinPost := by
  intro i
  change (raceThreads b tasks i).Follows joinProtocol JoinPost .fresh
  unfold raceThreads
  split
  · exact RaceTask.follows b _
  · rfl

/-! ## The books of the race store -/

/-- The places in the race are numbered from one, each once, and there are
no more of them than the race admits. -/
structure RaceBooks (s : LocalRaceState) : Prop where
  indexed : ∀ carId record, s.participants.lookup carId = some record →
    1 ≤ record.participantIndex ∧ record.participantIndex < s.nextParticipantIndex
  distinct : ∀ carId carId' record record', s.participants.lookup carId = some record →
    s.participants.lookup carId' = some record' →
    record.participantIndex = record'.participantIndex → carId = carId'
  few : s.participants.keys.card < max s.nextParticipantIndex 1
  counted : s.nextParticipantIndex ≤ u32Max
  within : ∀ race, s.active = some race → 0 < race.maxParticipants →
    s.participants.keys.card ≤ race.maxParticipants

section Books

variable {s : LocalRaceState}

theorem normalizeRacePhaseAt_maxParticipants (race : LocalRaceRuntimeInfo) (nowMs : ℕ) :
    (normalizeRacePhaseAt race nowMs).maxParticipants = race.maxParticipants := by
  rw [normalizeRacePhaseAt]
  split
  · split <;> rfl
  · split <;> rfl
  all_goals rfl

/-- Books in which only the race itself was rewritten. -/
theorem RaceBooks.rewrite (h : RaceBooks s) {t : LocalRaceState}
    (hparticipants : t.participants = s.participants)
    (hnext : t.nextParticipantIndex = s.nextParticipantIndex)
    (hactive : t.active.map (·.maxParticipants) = s.active.map (·.maxParticipants)) :
    RaceBooks t := by
  constructor
  · rw [hparticipants, hnext]
    exact h.indexed
  · rw [hparticipants]
    exact h.distinct
  · rw [hparticipants, hnext]
    exact h.few
  · rw [hnext]
    exact h.counted
  · intro race hrace hmax
    rw [hrace, Option.map_some] at hactive
    obtain ⟨old, hold, hsame⟩ := Option.map_eq_some_iff.mp hactive.symm
    rw [hparticipants, ← hsame]
    exact h.within old hold (hsame ▸ hmax)

/-- Books without participants. -/
theorem raceBooks_empty (active : Option LocalRaceRuntimeInfo) {next : ℕ} (hnext : next ≤ 1)
    (frozen : Bool) : RaceBooks ⟨active, ∅, next, frozen⟩ := by
  have hmax : 1 ≤ u32Max := by decide
  constructor
  · simp
  · simp
  · simp
  · exact hnext.trans hmax
  · simp

theorem updateActiveRace_cases (s : LocalRaceState) (raceId : String)
    {update : LocalRaceRuntimeInfo → LocalRaceRuntimeInfo}
    (hupdate : ∀ race, (update race).maxParticipants = race.maxParticipants)
    (beforeMs afterMs : ℕ) :
    ∃ active, (updateActiveRace s raceId update beforeMs afterMs).1 = { s with active := active } ∧
      active.map (·.maxParticipants) = s.active.map (·.maxParticipants) := by
  rw [updateActiveRace]
  split
  · exact ⟨s.active, rfl, rfl⟩
  · rename_i race hfind
    obtain ⟨hactive, -⟩ := find_ok hfind
    refine ⟨_, rfl, ?_⟩
    simp [hactive, normalizeRacePhaseAt_maxParticipants, hupdate]

theorem startUpdate_maxParticipants (countdownSeconds countdownEndMs : ℕ)
    (race : LocalRaceRuntimeInfo) :
    (startUpdate countdownSeconds countdownEndMs race).maxParticipants = race.maxParticipants := by
  rw [startUpdate]
  split <;> rfl

theorem RaceBooks.write (h : RaceBooks s) (write : RaceWrite) (nowMs : ℕ) :
    RaceBooks (write.apply s nowMs) := by
  cases write with
  | setActiveRace race => exact raceBooks_empty _ le_rfl _
  | startCountdown raceId countdownSeconds countdownEndMs afterMs =>
      obtain ⟨active, heq, hactive⟩ := updateActiveRace_cases s raceId
        (startUpdate_maxParticipants countdownSeconds countdownEndMs) nowMs afterMs
      rw [RaceWrite.apply, heq]
      exact h.rewrite rfl rfl hactive
  | abort raceId afterMs =>
      obtain ⟨active, heq, hactive⟩ := updateActiveRace_cases s raceId
        (fun _ => rfl : ∀ race, (abortUpdate race).maxParticipants = race.maxParticipants)
        nowMs afterMs
      rw [RaceWrite.apply, heq]
      exact h.rewrite rfl rfl hactive
  | clearActiveRace raceId =>
      rw [RaceWrite.apply, clearActiveRace]
      split
      · exact h
      · exact raceBooks_empty _ le_rfl _
  | reconcileActiveRace =>
      rw [RaceWrite.apply, reconcileActiveRace]
      split
      · exact h
      · rename_i race hactive
        dsimp only
        split
        · exact h
        · refine h.rewrite rfl rfl ?_
          simp [hactive, normalizeRacePhaseAt_maxParticipants]
  | markFinishSoftFreezeApplied raceId =>
      rw [RaceWrite.apply, markFinishSoftFreezeApplied]
      split
      · exact h
      · exact h.rewrite rfl rfl rfl

theorem recount_maxParticipants (s : LocalRaceState) :
    s.recount.active.map (·.maxParticipants) = s.active.map (·.maxParticipants) := by
  simp [LocalRaceState.recount, Function.comp_def]

/-- A registration that is granted takes the next place of the race; one
that is refused takes none. -/
theorem registerParticipant_cases (s : LocalRaceState) (raceId : String) (carId : ℕ)
    (displayName : String) (nowMs : ℕ) :
    let r := registerParticipant s raceId carId displayName nowMs
    r.1.active.map (·.maxParticipants) = s.active.map (·.maxParticipants) ∧
      ((∃ err, r.2 = .error err ∧ r.1.participants = s.participants ∧
          r.1.nextParticipantIndex = s.nextParticipantIndex) ∨
        ∃ record race, r.2 = .ok record ∧ s.active = some race ∧ race.raceId = raceId ∧
          (0 < race.maxParticipants → s.participantCount < race.maxParticipants) ∧
          record.participantIndex = max s.nextParticipantIndex 1 ∧
          r.1.participants = s.participants.insert carId record ∧
          r.1.nextParticipantIndex = min (record.participantIndex + 1) u32Max) := by
  rw [registerParticipant]
  split
  · exact ⟨rfl, Or.inl ⟨_, rfl, rfl, rfl⟩⟩
  · rename_i race hfind
    obtain ⟨hactive, hid⟩ := find_ok hfind
    have hmax : ((some (normalizeRacePhaseAt race nowMs)).map (·.maxParticipants) : Option ℕ) =
        s.active.map (·.maxParticipants) := by
      simp [hactive, normalizeRacePhaseAt_maxParticipants]
    dsimp only
    split
    · exact ⟨hmax, Or.inl ⟨_, rfl, rfl, rfl⟩⟩
    · split
      · exact ⟨hmax, Or.inl ⟨_, rfl, rfl, rfl⟩⟩
      · rename_i hfull
        refine ⟨(recount_maxParticipants _).trans hmax, Or.inr ⟨_, race, rfl, hactive, hid, ?_, rfl,
          rfl, rfl⟩⟩
        intro hpositive
        rw [normalizeRacePhaseAt_maxParticipants] at hfull
        exact Nat.lt_of_not_le fun hle => hfull ⟨hpositive, hle⟩

theorem RaceBooks.register (h : RaceBooks s) (hleft : s.nextParticipantIndex < u32Max)
    (raceId : String) (carId : ℕ) (displayName : String) (nowMs : ℕ) :
    RaceBooks (registerParticipant s raceId carId displayName nowMs).1 := by
  obtain ⟨hmax, hcases⟩ := registerParticipant_cases s raceId carId displayName nowMs
  rcases hcases with ⟨err, -, hparticipants, hnext⟩ | ⟨record, race, -, hactive, -, hroom, hindex,
    hparticipants, hnext⟩
  · exact h.rewrite hparticipants hnext hmax
  · have hu32 : 1 < u32Max := by decide
    have hnext' : (registerParticipant s raceId carId displayName nowMs).1.nextParticipantIndex =
        record.participantIndex + 1 := by
      rw [hnext, hindex]
      omega
    have hcard : (registerParticipant s raceId carId displayName nowMs).1.participants.keys.card ≤
        s.participants.keys.card + 1 := by
      rw [hparticipants, HashMap.keys_insert]
      exact Finset.card_insert_le _ _
    have hold : ∀ other record', s.participants.lookup other = some record' →
        1 ≤ record'.participantIndex ∧ record'.participantIndex < record.participantIndex := by
      intro other record' hlookup
      obtain ⟨hone, hlt⟩ := h.indexed other record' hlookup
      exact ⟨hone, by omega⟩
    have hfew := h.few
    constructor
    · intro other record' hlookup
      rw [hparticipants, HashMap.lookup_insert_eq] at hlookup
      rw [hnext']
      split at hlookup
      · obtain rfl := Option.some.inj hlookup
        omega
      · have hindices := hold other record' hlookup
        omega
    · intro other other' record₁ record₂ h₁ h₂ hsame
      rw [hparticipants, HashMap.lookup_insert_eq] at h₁ h₂
      split at h₁ <;> split at h₂
      · rename_i heq heq'
        rw [heq, heq']
      · obtain rfl := Option.some.inj h₁
        have hindices := hold other' record₂ h₂
        omega
      · obtain rfl := Option.some.inj h₂
        have hindices := hold other record₁ h₁
        omega
      · exact h.distinct other other' record₁ record₂ h₁ h₂ hsame
    · rw [hnext']
      omega
    · rw [hnext']
      omega
    · intro race' hrace' hpositive
      rw [hrace', hactive, Option.map_some, Option.map_some, Option.some.injEq] at hmax
      have hlt := hroom (hmax ▸ hpositive)
      have hcount : s.participantCount = s.participants.keys.card := by
        rw [LocalRaceState.participantCount]
        have hle : s.participants.keys.card ≤ 2 ^ 32 - 1 := by
          have hdef : u32Max = 2 ^ 32 - 1 := rfl
          omega
        exact min_eq_left hle
      omega

theorem RaceBooks.remove (h : RaceBooks s) (carId : ℕ) : RaceBooks (removeParticipant s carId) := by
  have hkeys : (s.participants.erase carId).keys.card ≤ s.participants.keys.card := by
    rw [Finmap.keys_erase]
    exact Finset.card_le_card (Finset.erase_subset _ _)
  have hlookup : ∀ other record, (s.participants.erase carId).lookup other = some record →
      s.participants.lookup other = some record := by
    intro other record hother
    rw [HashMap.lookup_erase_eq] at hother
    split at hother
    · cases hother
    · exact hother
  have hbooks : RaceBooks { s with participants := s.participants.erase carId } := by
    constructor
    · exact fun other record hother => h.indexed other record (hlookup other record hother)
    · exact fun other other' record record' h₁ h₂ =>
        h.distinct other other' record record' (hlookup _ _ h₁) (hlookup _ _ h₂)
    · exact hkeys.trans_lt h.few
    · exact h.counted
    · exact fun race hrace hpositive => hkeys.trans (h.within race hrace hpositive)
  exact hbooks.rewrite rfl rfl (recount_maxParticipants _)

end Books

/-! ## The two stores together -/

/-- The race and the car of a registration that was granted. -/
def registers : ServiceEntry → Option (String × ℕ)
  | ⟨_, .registerParticipant raceId carId _, .ok _⟩ => some (raceId, carId)
  | _ => none

/-- The race with this id has been the active one. -/
def WasSet (log : List ServiceEntry) (raceId : String) : Prop :=
  ∃ e ∈ log, ∃ race, e.op = .raceWrite (.setActiveRace race) ∧ race.raceId = raceId

/-- The car has joined the active race and has not been cleaned up since:
a join has registered it for the race, and was not refused in the end. -/
def JoinedCar (p : ServicePool) (carId : ℕ) : Prop :=
  ∃ newer e older raceId, p.world.log = newer ++ e :: older ∧
    registers e = some (raceId, carId) ∧ p.world.shared.races.activeId = some raceId ∧
    (∀ status, p.threads e.thread ≠ .ret (.refused status)) ∧
    ∀ e' ∈ newer, e'.op ≠ .removeCar carId

/-- No join of the active race is under way. -/
def JoinsSettled (p : ServicePool) : Prop :=
  ∀ e ∈ p.world.log, ∀ raceId carId, registers e = some (raceId, carId) →
    p.world.shared.races.activeId = some raceId → ∃ outcome, p.threads e.thread = .ret outcome

/-- No recorded car is taken out of the runtime store, and the engine tells
a registered join how many start slots there are. Race ids are drawn anew,
and the counters of cars and places do not run out. -/
def KeepsAccounts (w : ServiceWorld) (thread : ℕ) (op : ServiceOp) (input : ServiceInput) : Prop :=
  match op with
  | .removeCar carId => carId ∉ w.shared.races.participants
  | .engine target .getNumberOfStartPos =>
      (∃ e ∈ w.log, e.thread = thread ∧ registers e ≠ none) →
        ∃ slots, input.engine target .getNumberOfStartPos = .ok (slots + 1)
  | .raceWrite (.setActiveRace race) => ¬ WasSet w.log race.raceId
  | .registerParticipant .. => w.shared.races.nextParticipantIndex < u32Max
  | .allocatePublicCarId => w.shared.store.nextPublicCarId + 1 < 2 ^ 64
  | _ => True

abbrev joinStage (w : ServiceWorld) (thread : ℕ) : JoinStage := joinProtocol.stageOf thread w.log

/-- What the stages of the joins say about the two stores. -/
structure Accounts (w : ServiceWorld) : Prop where
  books : RaceBooks w.shared.races
  numbered : ∀ i carId, (joinStage w i).carId = some carId →
    carId < w.shared.store.nextPublicCarId
  unique : ∀ i j carId, (joinStage w i).carId = some carId → (joinStage w j).carId = some carId →
    i = j
  entered : ∀ e ∈ w.log, ∀ entry, registers e = some entry →
    (joinStage w e.thread).entered = some entry
  setBefore : ∀ i raceId carId, (joinStage w i).entered = some (raceId, carId) →
    WasSet w.log raceId
  activeSet : ∀ raceId, w.shared.races.activeId = some raceId → WasSet w.log raceId
  notStranded : ∀ i raceId carId, joinStage w i ≠ .stranded raceId carId
  members : ∀ carId, carId ∈ w.shared.races.participants ↔ ∃ i raceId,
    (joinStage w i).held = some (raceId, carId) ∧ w.shared.races.activeId = some raceId
  kept : ∀ i raceId carId, (joinStage w i).held = some (raceId, carId) →
    w.shared.races.activeId = some raceId → ∃ newer e older, w.log = newer ++ e :: older ∧
      e.thread = i ∧ registers e = some (raceId, carId) ∧ ∀ e' ∈ newer, e'.op ≠ .removeCar carId
  targets : ∀ carId raceId, w.shared.store.carTargets.lookup carId = some (.localRace raceId) →
    ∃ i, joinStage w i = .published raceId carId
  published : ∀ i raceId carId, joinStage w i = .published raceId carId →
    w.shared.races.activeId = some raceId →
    w.shared.store.carTargets.lookup carId = some (.localRace raceId)

section Keeping

variable {w w' : ServiceWorld} {e : ServiceEntry}

theorem WasSet.cons {raceId : String} {log : List ServiceEntry} (h : WasSet log raceId) :
    WasSet (e :: log) raceId := by
  obtain ⟨e', he', hset⟩ := h
  exact ⟨e', List.mem_cons_of_mem e he', hset⟩

theorem Accounts.participant (h : Accounts w) {i : ℕ} {raceId : String} {carId : ℕ}
    (hheld : (joinStage w i).held = some (raceId, carId))
    (hactive : w.shared.races.activeId = some raceId) : carId ∈ w.shared.races.participants :=
  (h.members carId).mpr ⟨i, raceId, hheld, hactive⟩

/-- A registration stays recorded while the stages stay as they are. -/
theorem Accounts.entered_cons (h : Accounts w) (hlog : w'.log = e :: w.log)
    (hstages : ∀ i, joinStage w' i = joinStage w i) (hregisters : registers e = none) :
    ∀ e' ∈ w'.log, ∀ entry, registers e' = some entry →
      (joinStage w' e'.thread).entered = some entry := by
  intro e' he' entry hentry
  rw [hlog, List.mem_cons] at he'
  rcases he' with rfl | he'
  · rw [hregisters] at hentry
    cases hentry
  · rw [hstages]
    exact h.entered e' he' entry hentry

/-- A car stays in its race's log while no call removes it. -/
theorem Accounts.kept_cons (h : Accounts w) (hlog : w'.log = e :: w.log) {i : ℕ}
    {raceId : String} {carId : ℕ} (hheld : (joinStage w i).held = some (raceId, carId))
    (hactive : w.shared.races.activeId = some raceId) (hremove : e.op ≠ .removeCar carId) :
    ∃ newer e' older, w'.log = newer ++ e' :: older ∧ e'.thread = i ∧
      registers e' = some (raceId, carId) ∧ ∀ e'' ∈ newer, e''.op ≠ .removeCar carId := by
  obtain ⟨newer, e', older, heq, hthread, hentry, hnewer⟩ := h.kept i raceId carId hheld hactive
  refine ⟨e :: newer, e', older, by rw [hlog, heq]; rfl, hthread, hentry, ?_⟩
  exact List.forall_mem_cons.mpr ⟨hremove, hnewer⟩

/-- A call that leaves the stages and the participants alone, and takes no
participant out of the runtime store. -/
theorem Accounts.frame (h : Accounts w) (hlog : w'.log = e :: w.log)
    (hstages : ∀ i, joinStage w' i = joinStage w i) (hregisters : registers e = none)
    (hremove : ∀ carId ∈ w.shared.races.participants, e.op ≠ .removeCar carId)
    (hbooks : RaceBooks w'.shared.races)
    (hmembers : w'.shared.races.participants = w.shared.races.participants)
    (hactive : w'.shared.races.activeId = w.shared.races.activeId)
    (hnext : w.shared.store.nextPublicCarId ≤ w'.shared.store.nextPublicCarId)
    (hless : ∀ carId target, w'.shared.store.carTargets.lookup carId = some target →
      w.shared.store.carTargets.lookup carId = some target)
    (hsame : ∀ carId ∈ w.shared.races.participants,
      w'.shared.store.carTargets.lookup carId = w.shared.store.carTargets.lookup carId) :
    Accounts w' := by
  constructor
  · exact hbooks
  · intro i carId hcar
    rw [hstages] at hcar
    exact (h.numbered i carId hcar).trans_le hnext
  · intro i j carId hi hj
    rw [hstages] at hi hj
    exact h.unique i j carId hi hj
  · exact h.entered_cons hlog hstages hregisters
  · intro i raceId carId hentered
    rw [hstages] at hentered
    rw [hlog]
    exact (h.setBefore i raceId carId hentered).cons
  · intro raceId hid
    rw [hactive] at hid
    rw [hlog]
    exact (h.activeSet raceId hid).cons
  · intro i raceId carId
    rw [hstages]
    exact h.notStranded i raceId carId
  · intro carId
    rw [hmembers, hactive, h.members carId]
    simp only [hstages]
  · intro i raceId carId hheld hid
    rw [hstages] at hheld
    rw [hactive] at hid
    exact h.kept_cons hlog hheld hid (hremove carId (h.participant hheld hid))
  · intro carId raceId htarget
    obtain ⟨i, hi⟩ := h.targets carId raceId (hless carId _ htarget)
    exact ⟨i, by rw [hstages, hi]⟩
  · intro i raceId carId hpublished hid
    rw [hstages] at hpublished
    rw [hactive] at hid
    have hmember := h.participant (congrArg JoinStage.held hpublished) hid
    rw [hsame carId hmember]
    exact h.published i raceId carId hpublished hid

theorem joinStage_perform (b : Build) (w : ServiceWorld) (i : ℕ) (op : ServiceOp)
    (input : ServiceInput) (j : ℕ) : joinStage (w.perform (execCall b) i op input) j =
      if j = i then (joinStage w i).next op (execCall b w.shared op input).2
      else joinStage w j := by
  split
  · rename_i hij
    subst hij
    exact joinProtocol.stageOf_perform_self (execCall b) w j op input
  · rename_i hij
    exact joinProtocol.stageOf_perform_ne (execCall b) w hij op input

/-- A call of a thread that changes the thread's stage only. -/
theorem Accounts.move (h : Accounts w) (hlog : w'.log = e :: w.log) {i : ℕ} {stage : JoinStage}
    (hstages : ∀ j, joinStage w' j = if j = i then stage else joinStage w j)
    (hremove : ∀ carId, e.op ≠ .removeCar carId)
    (hbooks : RaceBooks w'.shared.races)
    (hnumbered : ∀ carId, stage.carId = some carId →
      carId < w'.shared.store.nextPublicCarId ∧
        ((joinStage w i).carId = some carId ∨ w.shared.store.nextPublicCarId ≤ carId))
    (hnext : w.shared.store.nextPublicCarId ≤ w'.shared.store.nextPublicCarId)
    (hentry : ∀ entry, registers e = some entry → e.thread = i ∧ stage.entered = some entry)
    (hentered : ∀ entry, (joinStage w i).entered = some entry → stage.entered = some entry)
    (hset : ∀ raceId carId, stage.entered = some (raceId, carId) → WasSet w.log raceId)
    (hactive : w'.shared.races.activeId = w.shared.races.activeId)
    (hnotStranded : ∀ raceId carId, stage ≠ .stranded raceId carId)
    (hmembers : ∀ carId, carId ∈ w'.shared.races.participants ↔ ∃ j raceId,
      (if j = i then stage else joinStage w j).held = some (raceId, carId) ∧
        w.shared.races.activeId = some raceId)
    (hheld : ∀ entry, stage.held = some entry →
      (joinStage w i).held = some entry ∨ e.thread = i ∧ registers e = some entry)
    (htargets : ∀ carId raceId, w'.shared.store.carTargets.lookup carId = some (.localRace raceId) →
      ∃ j, (if j = i then stage else joinStage w j) = .published raceId carId)
    (hpublished : ∀ j raceId carId, (if j = i then stage else joinStage w j) =
      .published raceId carId → w.shared.races.activeId = some raceId →
      w'.shared.store.carTargets.lookup carId = some (.localRace raceId)) :
    Accounts w' := by
  constructor
  · exact hbooks
  · intro j carId hcar
    rw [hstages] at hcar
    split at hcar
    · exact (hnumbered carId hcar).1
    · exact (h.numbered j carId hcar).trans_le hnext
  · -- a car that is new to the thread is new to all
    have hother : ∀ j carId, j ≠ i → stage.carId = some carId →
        (joinStage w j).carId = some carId → j = i := by
      intro j carId hj hstage hcar
      rcases (hnumbered carId hstage).2 with hold | hle
      · exact h.unique j i carId hcar hold
      · exact absurd (h.numbered j carId hcar) (by omega)
    intro j k carId hj hk
    rw [hstages] at hj hk
    split at hj <;> split at hk
    · rename_i hji hki
      rw [hji, hki]
    · rename_i hji hki
      rw [hji, hother k carId hki hj hk]
    · rename_i hji hki
      rw [hki, hother j carId hji hk hj]
    · exact h.unique j k carId hj hk
  · intro e' he' entry hentry'
    rw [hlog, List.mem_cons] at he'
    rw [hstages]
    rcases he' with rfl | he'
    · obtain ⟨hthread, hstage⟩ := hentry entry hentry'
      rw [if_pos hthread, hstage]
    · split
      · rename_i hthread
        exact hentered entry (hthread ▸ h.entered e' he' entry hentry')
      · exact h.entered e' he' entry hentry'
  · intro j raceId carId hj
    rw [hstages] at hj
    rw [hlog]
    split at hj
    · exact (hset raceId carId hj).cons
    · exact (h.setBefore j raceId carId hj).cons
  · intro raceId hid
    rw [hactive] at hid
    rw [hlog]
    exact (h.activeSet raceId hid).cons
  · intro j raceId carId
    rw [hstages]
    split
    · exact hnotStranded raceId carId
    · exact h.notStranded j raceId carId
  · intro carId
    rw [hmembers carId, hactive]
    simp only [hstages]
  · intro j raceId carId hj hid
    rw [hstages] at hj
    rw [hactive] at hid
    split at hj
    · rename_i hji
      subst hji
      rcases hheld _ hj with hold | ⟨hthread, hnew⟩
      · exact h.kept_cons hlog hold hid (hremove carId)
      · exact ⟨[], e, w.log, hlog, hthread, hnew, by simp⟩
    · exact h.kept_cons hlog hj hid (hremove carId)
  · intro carId raceId htarget
    obtain ⟨j, hj⟩ := htargets carId raceId htarget
    exact ⟨j, by rw [hstages, hj]⟩
  · intro j raceId carId hj hid
    rw [hstages] at hj
    rw [hactive] at hid
    exact hpublished j raceId carId hj hid

variable {b : Build} {i : ℕ} {input : ServiceInput}

/-- The participants, when a thread that held none has moved on. -/
theorem Accounts.members_of_none (h : Accounts w) (hnone : (joinStage w i).held = none)
    (stage : JoinStage) (carId : ℕ) :
    (∃ j raceId, (if j = i then stage else joinStage w j).held = some (raceId, carId) ∧
        w.shared.races.activeId = some raceId) ↔
      (∃ raceId, stage.held = some (raceId, carId) ∧ w.shared.races.activeId = some raceId) ∨
        carId ∈ w.shared.races.participants := by
  rw [h.members carId]
  constructor
  · rintro ⟨j, raceId, hheld, hid⟩
    split at hheld
    · exact Or.inl ⟨raceId, hheld, hid⟩
    · exact Or.inr ⟨j, raceId, hheld, hid⟩
  · rintro (⟨raceId, hheld, hid⟩ | ⟨j, raceId, hheld, hid⟩)
    · exact ⟨i, raceId, by rwa [if_pos rfl], hid⟩
    · refine ⟨j, raceId, ?_, hid⟩
      rwa [if_neg]
      rintro rfl
      rw [hnone] at hheld
      cases hheld

/-- The targets, when a thread that has published nothing moves on. -/
theorem Accounts.targets_of_ne (h : Accounts w)
    (hunpublished : ∀ raceId carId, joinStage w i ≠ .published raceId carId) (stage : JoinStage)
    {raceId : String} {carId : ℕ}
    (htarget : w.shared.store.carTargets.lookup carId = some (.localRace raceId)) :
    ∃ j, (if j = i then stage else joinStage w j) = .published raceId carId := by
  obtain ⟨j, hj⟩ := h.targets carId raceId htarget
  refine ⟨j, ?_⟩
  rwa [if_neg]
  rintro rfl
  exact hunpublished raceId carId hj

theorem Accounts.published_of_ne (h : Accounts w) {stage : JoinStage}
    (hstage : ∀ raceId carId, stage ≠ .published raceId carId) {j : ℕ} {raceId : String}
    {carId : ℕ} (hj : (if j = i then stage else joinStage w j) = .published raceId carId)
    (hid : w.shared.races.activeId = some raceId) :
    w.shared.store.carTargets.lookup carId = some (.localRace raceId) := by
  split at hj
  · exact (hstage raceId carId hj).elim
  · exact h.published j raceId carId hj hid

theorem Accounts.allocate (h : Accounts w) (hfresh : joinStage w i = .fresh)
    (hleft : w.shared.store.nextPublicCarId + 1 < 2 ^ 64) :
    Accounts (w.perform (execCall b) i .allocatePublicCarId input) := by
  have hnext : (w.shared.store.nextPublicCarId + 1) % 2 ^ 64 =
      w.shared.store.nextPublicCarId + 1 := Nat.mod_eq_of_lt hleft
  refine h.move rfl (joinStage_perform b w i .allocatePublicCarId input) (by simp) h.books
    ?_ ?_ (by simp [registers]) (by simp [hfresh, JoinStage.entered])
    (by simp [JoinStage.next, JoinStage.entered]) rfl (by simp [JoinStage.next])
    (fun carId => ?_) (by simp [JoinStage.next, JoinStage.held])
    (fun carId raceId => h.targets_of_ne (by simp [hfresh]) _)
    (fun j raceId carId => h.published_of_ne (by simp [JoinStage.next]))
  · rintro carId hcar
    obtain rfl := Option.some.inj hcar
    change _ < (w.shared.store.nextPublicCarId + 1) % 2 ^ 64 ∧ _
    rw [hnext]
    exact ⟨Nat.lt_succ_self _, Or.inr le_rfl⟩
  · change _ ≤ (w.shared.store.nextPublicCarId + 1) % 2 ^ 64
    omega
  · rw [h.members_of_none (by rw [hfresh]; rfl)]
    simp [JoinStage.next, JoinStage.held, World.perform, execCall]

theorem Accounts.register (h : Accounts w) {raceId : String} {carId : ℕ} {displayName : String}
    (hstage : joinStage w i = .allocated carId)
    (hleft : w.shared.races.nextParticipantIndex < u32Max) :
    Accounts (w.perform (execCall b) i (.registerParticipant raceId carId displayName) input) := by
  have hbooks := h.books.register hleft raceId carId displayName input.nowMs
  have hactive := registerParticipant_activeId w.shared.races raceId carId displayName input.nowMs
  have hstages := joinStage_perform b w i (.registerParticipant raceId carId displayName) input
  obtain ⟨-, ⟨err, herr, hparticipants, -⟩ | ⟨record, race, hok, hrace, hid, -, -, hparticipants,
    -⟩⟩ := registerParticipant_cases w.shared.races raceId carId displayName input.nowMs
  · have hanswer : (execCall b w.shared (.registerParticipant raceId carId displayName) input).2 =
        .error err := herr
    refine h.frame rfl (fun j => ?_) ?_ (by simp) hbooks hparticipants hactive le_rfl
      (fun _ _ => id) (fun _ _ => rfl)
    · rw [hstages, hanswer]
      split
      · rename_i hji
        rw [hji]
        rfl
      · rfl
    · rw [hanswer]
      rfl
  · have hanswer : (execCall b w.shared (.registerParticipant raceId carId displayName) input).2 =
        .ok record := hok
    have hcurrent : w.shared.races.activeId = some raceId := by
      rw [LocalRaceState.activeId, hrace, Option.map_some, hid]
    rw [hanswer] at hstages
    refine h.move rfl hstages (by simp) hbooks ?_ le_rfl ?_ (by simp [hstage, JoinStage.entered])
      ?_ hactive (by simp [JoinStage.next]) (fun carId' => ?_) ?_
      (fun carId raceId => h.targets_of_ne (by simp [hstage]) _)
      (fun j raceId carId => h.published_of_ne (by simp [JoinStage.next]))
    · rintro carId' hcar
      obtain rfl := Option.some.inj hcar
      have hcar : (joinStage w i).carId = some carId := by rw [hstage]; rfl
      exact ⟨h.numbered i carId hcar, Or.inl hcar⟩
    · intro entry hentry
      rw [hanswer] at hentry
      exact ⟨rfl, hentry⟩
    · rintro raceId' carId' hentered
      cases hentered
      exact h.activeSet raceId hcurrent
    · rw [h.members_of_none (by rw [hstage]; rfl)]
      change carId' ∈ (registerParticipant w.shared.races raceId carId displayName
        input.nowMs).1.participants ↔ _
      rw [hparticipants, Finmap.mem_insert]
      refine or_congr_left ⟨?_, ?_⟩
      · rintro rfl
        exact ⟨raceId, rfl, hcurrent⟩
      · rintro ⟨raceId', hheld, -⟩
        cases hheld
        rfl
    · intro entry hheld
      rw [hanswer]
      exact Or.inr ⟨rfl, hheld⟩

theorem JoinStage.carId_of_held {stage : JoinStage} {raceId : String} {carId : ℕ}
    (h : stage.held = some (raceId, carId)) : stage.carId = some carId := by
  cases stage <;> cases h <;> rfl

theorem JoinStage.entered_of_held {stage : JoinStage} {entry : String × ℕ}
    (h : stage.held = some entry) : stage.entered = some entry := by
  cases stage <;> cases h <;> rfl

theorem Accounts.withdraw (h : Accounts w) {raceId : String} {carId : ℕ}
    (hstage : joinStage w i = .registered raceId carId) :
    Accounts (w.perform (execCall b) i (.removeParticipant carId) input) := by
  have hstages := joinStage_perform b w i (.removeParticipant carId) input
  rw [hstage] at hstages
  have hcar : (joinStage w i).carId = some carId := by rw [hstage]; rfl
  refine h.move rfl hstages (by simp) (h.books.remove carId) ?_ le_rfl (by simp [registers]) ?_ ?_
    (removeParticipant_activeId ..) (by simp [JoinStage.next, JoinStage.withdraw])
    (fun carId' => ?_) (by simp [JoinStage.next, JoinStage.withdraw, JoinStage.held])
    (fun carId raceId => h.targets_of_ne (by simp [hstage]) _)
    (fun j raceId carId => h.published_of_ne (by simp [JoinStage.next, JoinStage.withdraw]))
  · rintro carId' hcar'
    obtain rfl := Option.some.inj hcar'
    exact ⟨h.numbered i carId hcar, Or.inl hcar⟩
  · intro entry hentered
    rw [hstage] at hentered
    exact hentered
  · rintro raceId' carId' hentered
    cases hentered
    exact h.setBefore i raceId carId (by rw [hstage]; rfl)
  · change carId' ∈ (w.shared.races.participants.erase carId) ↔ _
    rw [Finmap.mem_erase, h.members carId']
    constructor
    · rintro ⟨hne, j, raceId', hheld, hid⟩
      refine ⟨j, raceId', ?_, hid⟩
      rwa [if_neg]
      rintro rfl
      rw [hstage] at hheld
      cases hheld
      exact hne rfl
    · rintro ⟨j, raceId', hheld, hid⟩
      split at hheld
      · cases hheld
      · rename_i hji
        refine ⟨?_, j, raceId', hheld, hid⟩
        rintro rfl
        exact hji (h.unique j i _ (JoinStage.carId_of_held hheld) hcar)

theorem Accounts.publish (h : Accounts w) {raceId : String} {carId : ℕ}
    (hstage : joinStage w i = .registered raceId carId) :
    Accounts (w.perform (execCall b) i (.insert carId (.target (.localRace raceId))) input) := by
  have hstages := joinStage_perform b w i (.insert carId (.target (.localRace raceId))) input
  have hcar : (joinStage w i).carId = some carId := by rw [hstage]; rfl
  have hlookup : ∀ carId', (w.perform (execCall b) i (.insert carId (.target (.localRace raceId)))
      input).shared.store.carTargets.lookup carId' = if carId' = carId
        then some (.localRace raceId) else w.shared.store.carTargets.lookup carId' :=
    fun carId' => HashMap.lookup_insert_eq ..
  refine h.move rfl hstages (by simp) h.books ?_ le_rfl (by simp [registers]) ?_ ?_ rfl
    (by simp [JoinStage.next]) (fun carId' => ?_) ?_ (fun carId' raceId' htarget => ?_)
    (fun j raceId' carId' hj hid => ?_)
  · rintro carId' hcar'
    obtain rfl := Option.some.inj hcar'
    exact ⟨h.numbered i carId hcar, Or.inl hcar⟩
  · intro entry hentered
    rw [hstage] at hentered
    exact hentered
  · rintro raceId' carId' hentered
    cases hentered
    exact h.setBefore i raceId carId (by rw [hstage]; rfl)
  · -- the registration is held as before
    rw [show (w.perform (execCall b) i (.insert carId (.target (.localRace raceId)))
      input).shared.races = w.shared.races from rfl, h.members carId']
    refine exists_congr fun j => exists_congr fun raceId' => and_congr_left fun _ => ?_
    split
    · rename_i hji
      rw [hji, hstage]
      rfl
    · rfl
  · intro entry hheld
    rw [hstage]
    exact Or.inl hheld
  · rw [hlookup] at htarget
    split at htarget
    · rename_i heq
      cases htarget
      exact ⟨i, by rw [if_pos rfl, heq]; rfl⟩
    · exact h.targets_of_ne (by simp [hstage]) _ htarget
  · rw [hlookup]
    split at hj
    · cases hj
      rw [if_pos rfl]
    · rename_i hji
      rw [if_neg, h.published j raceId' carId' hj hid]
      rintro rfl
      have hcar' : (joinStage w j).carId = some carId' := by rw [hj]; rfl
      exact hji (h.unique j i carId' hcar' hcar)

/-- A write after which no join belongs to the active race, if any. -/
theorem Accounts.renew (h : Accounts w) {write : RaceWrite}
    (hempty : (write.apply w.shared.races input.nowMs).participants = ∅)
    (hactive : ∀ raceId, (write.apply w.shared.races input.nowMs).activeId = some raceId →
      WasSet (w.perform (execCall b) i (.raceWrite write) input).log raceId ∧
        ¬ WasSet w.log raceId) :
    Accounts (w.perform (execCall b) i (.raceWrite write) input) := by
  have hstages : ∀ j, joinStage (w.perform (execCall b) i (.raceWrite write) input) j =
      joinStage w j := by
    intro j
    rw [joinStage_perform]
    split
    · rename_i hji
      rw [hji]
      rfl
    · rfl
  have hnone : ∀ j raceId carId, (joinStage w j).held = some (raceId, carId) →
      (w.perform (execCall b) i (.raceWrite write) input).shared.races.activeId ≠ some raceId :=
    fun j raceId carId hheld hid => (hactive raceId hid).2
      (h.setBefore j raceId carId (JoinStage.entered_of_held hheld))
  constructor
  · exact h.books.write write input.nowMs
  · intro j carId hcar
    rw [hstages] at hcar
    exact h.numbered j carId hcar
  · intro j k carId hj hk
    rw [hstages] at hj hk
    exact h.unique j k carId hj hk
  · exact h.entered_cons rfl hstages rfl
  · intro j raceId carId hentered
    rw [hstages] at hentered
    exact (h.setBefore j raceId carId hentered).cons
  · exact fun raceId hid => (hactive raceId hid).1
  · intro j raceId carId
    rw [hstages]
    exact h.notStranded j raceId carId
  · intro carId
    change carId ∈ (write.apply w.shared.races input.nowMs).participants ↔ _
    rw [hempty]
    refine iff_of_false (Finmap.notMem_empty) ?_
    rintro ⟨j, raceId, hheld, hid⟩
    rw [hstages] at hheld
    exact hnone j raceId carId hheld hid
  · intro j raceId carId hheld hid
    rw [hstages] at hheld
    exact (hnone j raceId carId hheld hid).elim
  · intro carId raceId htarget
    obtain ⟨j, hj⟩ := h.targets carId raceId htarget
    exact ⟨j, by rw [hstages, hj]⟩
  · intro j raceId carId hj hid
    rw [hstages] at hj
    exact (hnone j raceId carId (congrArg JoinStage.held hj) hid).elim

/-- A write sets a race, ends one, or leaves the participants alone. -/
theorem raceWrite_apply_cases (s : LocalRaceState) (nowMs : ℕ) (write : RaceWrite) :
    (∃ race, write = .setActiveRace race) ∨
      ((write.apply s nowMs).participants = ∅ ∧ (write.apply s nowMs).activeId = none) ∨
      ((write.apply s nowMs).participants = s.participants ∧
        (write.apply s nowMs).activeId = s.activeId) := by
  have hupdate : ∀ raceId (update : LocalRaceRuntimeInfo → LocalRaceRuntimeInfo) beforeMs afterMs,
      (updateActiveRace s raceId update beforeMs afterMs).1.participants = s.participants := by
    intro raceId update beforeMs afterMs
    rw [updateActiveRace]
    split <;> rfl
  cases write with
  | setActiveRace race => exact Or.inl ⟨race, rfl⟩
  | startCountdown raceId countdownSeconds countdownEndMs afterMs =>
      refine Or.inr (Or.inr ⟨hupdate .., updateActiveRace_activeId (fun race => ?_) ..⟩)
      rw [startUpdate]
      split <;> rfl
  | abort raceId afterMs =>
      have hid : ∀ race, (abortUpdate race).raceId = race.raceId := fun _ => rfl
      exact Or.inr (Or.inr ⟨hupdate .., updateActiveRace_activeId hid ..⟩)
  | clearActiveRace raceId =>
      rw [RaceWrite.apply, clearActiveRace]
      split
      · exact Or.inr (Or.inr ⟨rfl, rfl⟩)
      · exact Or.inr (Or.inl ⟨rfl, rfl⟩)
  | reconcileActiveRace =>
      refine Or.inr (Or.inr ⟨?_, reconcileActiveRace_activeId ..⟩)
      rw [RaceWrite.apply, reconcileActiveRace]
      split
      · rfl
      · dsimp only
        split <;> rfl
  | markFinishSoftFreezeApplied raceId =>
      refine Or.inr (Or.inr ⟨?_, markFinishSoftFreezeApplied_activeId ..⟩)
      rw [RaceWrite.apply, markFinishSoftFreezeApplied]
      split <;> rfl

/-- A call that leads to a registration has made it, or keeps one. -/
theorem JoinStage.next_eq_registered {stage : JoinStage} {op : ServiceOp} {answer : op.Answer}
    {raceId : String} {carId : ℕ} (h : stage.next op answer = .registered raceId carId) :
    stage = .registered raceId carId ∨ registers ⟨i, op, answer⟩ = some (raceId, carId) := by
  revert h
  fun_cases JoinStage.next stage op answer with
  | case1 => exact nofun
  | case2 =>
      rintro ⟨⟩
      exact Or.inr rfl
  | case3 | case4 => cases stage <;> simp [JoinStage.strand]
  | case5 => exact nofun
  | case6 => cases stage <;> simp [JoinStage.withdraw]
  | case7 => exact Or.inl

theorem exists_registers_of_stageOf {log : List ServiceEntry} {raceId : String} {carId : ℕ}
    (h : joinProtocol.stageOf i log = .registered raceId carId) :
    ∃ e ∈ log, e.thread = i ∧ registers e = some (raceId, carId) := by
  induction log with
  | nil => cases h
  | cons e log ih =>
      have hold : joinProtocol.stageOf i log = .registered raceId carId →
          ∃ e' ∈ e :: log, e'.thread = i ∧ registers e' = some (raceId, carId) := by
        intro hstage
        obtain ⟨e', he', hentry⟩ := ih hstage
        exact ⟨e', List.mem_cons_of_mem e he', hentry⟩
      rw [Protocol.stageOf] at h
      split at h
      · rename_i hthread
        rcases JoinStage.next_eq_registered (i := e.thread) h with hstage | hentry
        · exact hold hstage
        · exact ⟨e, List.mem_cons_self, hthread, hentry⟩
      · exact hold h

/-- A call that is no part of a join leaves the stages alone. -/
theorem joinStage_perform_of_next {op : ServiceOp}
    (h : (joinStage w i).next op (execCall b w.shared op input).2 = joinStage w i) (j : ℕ) :
    joinStage (w.perform (execCall b) i op input) j = joinStage w j := by
  rw [joinStage_perform]
  split
  · rename_i hji
    rw [hji, h]
  · rfl

theorem Accounts.countSlots (h : Accounts w) {target : EngineCommandTarget}
    (hguard : KeepsAccounts w i (.engine target .getNumberOfStartPos) input) :
    Accounts (w.perform (execCall b) i (.engine target .getNumberOfStartPos) input) := by
  refine h.frame rfl (joinStage_perform_of_next ?_) rfl (by simp) h.books rfl rfl le_rfl
    (fun _ _ => id) (fun _ _ => rfl)
  -- only a registered join could be stranded, and it gets its slots
  have hstrand : (∀ raceId carId, joinStage w i ≠ .registered raceId carId) →
      (joinStage w i).strand = joinStage w i := by
    intro hne
    generalize joinStage w i = stage at hne
    cases stage with
    | registered raceId carId => exact (hne raceId carId rfl).elim
    | _ => rfl
  by_cases hregistered : ∃ raceId carId, joinStage w i = .registered raceId carId
  · obtain ⟨raceId, carId, hstage⟩ := hregistered
    obtain ⟨e, he, hthread, hentry⟩ := exists_registers_of_stageOf hstage
    obtain ⟨slots, hslots⟩ := hguard ⟨e, he, hthread, by simp [hentry]⟩
    have hanswer : (execCall b w.shared (.engine target .getNumberOfStartPos) input).2 =
        .ok (slots + 1) := hslots
    rw [hanswer]
    rfl
  · push Not at hregistered
    generalize (execCall b w.shared (.engine target .getNumberOfStartPos) input).2 = answer
    cases answer with
    | error err => exact hstrand hregistered
    | ok slots =>
        cases slots with
        | zero => exact hstrand hregistered
        | succ k => rfl

theorem Accounts.removeCar (h : Accounts w) {carId : ℕ}
    (hguard : carId ∉ w.shared.races.participants) :
    Accounts (w.perform (execCall b) i (.removeCar carId) input) := by
  have hne : ∀ other ∈ w.shared.races.participants, other ≠ carId :=
    fun other hother heq => hguard (heq ▸ hother)
  refine h.frame rfl (joinStage_perform_of_next rfl) rfl ?_ h.books rfl rfl ?_ ?_ ?_
  · intro other hother heq
    exact hne other hother (ServiceOp.removeCar.inj heq).symm
  · change _ ≤ (w.shared.store.removeCar carId).nextPublicCarId
    rw [removeCar_eq]
  · intro other target hlookup
    change (w.shared.store.removeCar carId).carTargets.lookup other = some target at hlookup
    by_cases heq : other = carId
    · rw [heq, (removeCar_swept w.shared.store carId).target] at hlookup
      cases hlookup
    · rwa [(removeCar_sameAt w.shared.store heq).target] at hlookup
  · intro other hother
    exact (removeCar_sameAt w.shared.store (hne other hother)).target

theorem Accounts.write (h : Accounts w) {write : RaceWrite}
    (hguard : KeepsAccounts w i (.raceWrite write) input) :
    Accounts (w.perform (execCall b) i (.raceWrite write) input) := by
  rcases raceWrite_apply_cases w.shared.races input.nowMs write with ⟨race, rfl⟩ |
    ⟨hempty, hnone⟩ | ⟨hsame, hid⟩
  · refine h.renew rfl fun raceId hid => ?_
    have hraceId : race.raceId = raceId :=
      Option.some.inj ((setActiveRace_activeId race input.nowMs).symm.trans hid)
    subst hraceId
    exact ⟨⟨_, List.mem_cons_self, race, rfl, rfl⟩, hguard⟩
  · refine h.renew hempty fun raceId hid => ?_
    rw [hnone] at hid
    cases hid
  · exact h.frame rfl (joinStage_perform_of_next rfl) rfl (by simp)
      (h.books.write write input.nowMs) hsame hid le_rfl (fun _ _ => id) (fun _ _ => rfl)

theorem Accounts.perform (h : Accounts w) {op : ServiceOp} (hguard : KeepsAccounts w i op input)
    (hpermits : joinProtocol.permits (joinStage w i) op) :
    Accounts (w.perform (execCall b) i op input) := by
  -- everything that leaves both stores as they are in this respect
  have hother : (joinStage w i).next op (execCall b w.shared op input).2 = joinStage w i →
      registers ⟨i, op, (execCall b w.shared op input).2⟩ = none →
      (∀ carId, op ≠ .removeCar carId) →
      (execCall b w.shared op input).1.races = w.shared.races →
      (execCall b w.shared op input).1.store.nextPublicCarId = w.shared.store.nextPublicCarId →
      (execCall b w.shared op input).1.store.carTargets = w.shared.store.carTargets →
      Accounts (w.perform (execCall b) i op input) := by
    intro hnext hregisters hremove hraces hcount htargets
    refine h.frame rfl (joinStage_perform_of_next hnext) hregisters (fun carId _ => hremove carId)
      (hraces ▸ h.books) (congrArg _ hraces) (congrArg _ hraces) hcount.ge
      (fun carId target hlookup => ?_) (fun carId _ => ?_)
    · rw [← htargets]
      exact hlookup
    · exact congrArg (Finmap.lookup carId) htargets
  cases op with
  | allocatePublicCarId => exact h.allocate hpermits.2 hguard
  | registerParticipant raceId carId displayName => exact h.register hpermits.2 hguard
  | removeParticipant carId =>
      obtain ⟨raceId, hstage⟩ := hpermits.2
      exact h.withdraw hstage
  | insert carId entry =>
      cases entry with
      | target target =>
          obtain ⟨raceId, rfl, hstage⟩ := hpermits.2
          exact h.publish hstage
      | _ => exact hother rfl rfl nofun rfl rfl rfl
  | erase carId erasure => exact hpermits.2.elim
  | removeCar carId => exact h.removeCar hguard
  | raceWrite write => exact h.write hguard
  | engine target op =>
      cases op with
      | getNumberOfStartPos => exact h.countSlots hguard
      | _ => exact hother rfl rfl nofun rfl rfl rfl
  | car carId call =>
      obtain ⟨hcount, -, htargets⟩ := call.apply_registry b w.shared.store carId
      exact hother rfl rfl nofun rfl hcount htargets
  | _ => exact hother rfl rfl nofun rfl rfl rfl

end Keeping

/-! ## Every run -/

/-- The participants are the cars that have joined, they fit into the race
and are numbered apart, and the race store reports their number. -/
structure RaceAccounted (p : ServicePool) : Prop where
  joined : ∀ carId, carId ∈ p.world.shared.races.participants ↔ JoinedCar p carId
  within : ∀ race, p.world.shared.races.active = some race → 0 < race.maxParticipants →
    p.world.shared.races.participants.keys.card ≤ race.maxParticipants
  indexed : ∀ carId record, p.world.shared.races.participants.lookup carId = some record →
    1 ≤ record.participantIndex
  distinct : ∀ carId carId' record record',
    p.world.shared.races.participants.lookup carId = some record →
    p.world.shared.races.participants.lookup carId' = some record' →
    record.participantIndex = record'.participantIndex → carId = carId'
  reported : ∀ nowMs race, activeRace p.world.shared.races nowMs = some race →
    race.joinedParticipantCount = p.world.shared.races.participants.keys.card

section Runs

variable {p : ServicePool}

theorem RaceBooks.participantCount {s : LocalRaceState} (h : RaceBooks s) :
    s.participantCount = s.participants.keys.card := by
  rw [LocalRaceState.participantCount]
  have hfew := h.few
  have hcounted := h.counted
  have hu32 : u32Max = 2 ^ 32 - 1 := rfl
  exact min_eq_left (by omega)

theorem RaceBooks.activeRace_count {s : LocalRaceState} (h : RaceBooks s) {nowMs : ℕ}
    {race : LocalRaceRuntimeInfo} (hrace : activeRace s nowMs = some race) :
    s.activeId = some race.raceId ∧ race.joinedParticipantCount = s.participants.keys.card := by
  obtain ⟨stored, hstored, rfl⟩ := Option.map_eq_some_iff.mp hrace
  have hid : s.activeId = some stored.raceId := by rw [LocalRaceState.activeId, hstored]; rfl
  refine ⟨?_, ?_⟩
  · simpa [LocalRaceState.withCount] using hid
  · have hsame : s.active.map (·.raceId) = some (normalizeRacePhaseAt stored nowMs).raceId := by
      rw [normalizeRacePhaseAt_raceId]
      exact hid
    rw [LocalRaceState.withCount]
    dsimp only
    rw [joinedCountForRace, if_pos hsame, h.participantCount]

/-- A join whose registration is held has not been refused. -/
theorem Accounts.not_refused (h : Accounts p.world) (hfollowed : p.Followed joinProtocol JoinPost)
    {i : ℕ} {entry : String × ℕ} (hheld : (joinStage p.world i).held = some entry)
    (status : Status) : p.threads i ≠ .ret (.refused status) := by
  intro hret
  have hpost := hfollowed i
  rw [hret] at hpost
  have hstranded := h.notStranded i
  unfold joinStage at hheld hstranded
  generalize joinProtocol.stageOf i p.world.log = stage at hheld hstranded hpost
  cases stage with
  | fresh | allocated | withdrawn => cases hheld
  | registered raceId carId => exact (hpost raceId carId).1 rfl
  | published raceId carId => exact (hpost raceId carId).2 rfl
  | stranded raceId carId => exact hstranded raceId carId rfl

/-- The registration of a join that was not refused is held. -/
theorem held_of_entered (hfollowed : p.Followed joinProtocol JoinPost) {i : ℕ}
    {entry : String × ℕ} (hentered : (joinStage p.world i).entered = some entry)
    (hnot : ∀ status, p.threads i ≠ .ret (.refused status)) :
    (joinStage p.world i).held = some entry := by
  have hfollows := hfollowed i
  unfold joinStage at hentered ⊢
  generalize joinProtocol.stageOf i p.world.log = stage at hentered hfollows ⊢
  cases stage with
  | fresh | allocated => cases hentered
  | registered | published | stranded => exact hentered
  | withdrawn raceId carId =>
      -- nothing is called after the withdrawal
      cases hprog : p.threads i with
      | call op next =>
          rw [hprog] at hfollows
          exact (hfollows.1.1 raceId carId rfl).elim
      | ret outcome =>
          rw [hprog] at hfollows
          cases outcome with
          | joined carId' =>
              obtain ⟨raceId', hstage⟩ := hfollows
              cases hstage
          | refused status => exact (hnot status hprog).elim
          | done => cases hfollows

theorem Accounts.raceAccounted (h : Accounts p.world)
    (hfollowed : p.Followed joinProtocol JoinPost) : RaceAccounted p := by
  refine ⟨fun carId => ⟨fun hmember => ?_, ?_⟩, h.books.within,
    fun carId record hlookup => (h.books.indexed carId record hlookup).1, h.books.distinct,
    fun nowMs race hrace => (h.books.activeRace_count hrace).2⟩
  · obtain ⟨i, raceId, hheld, hid⟩ := (h.members carId).mp hmember
    obtain ⟨newer, e, older, hlog, hthread, hentry, hnewer⟩ := h.kept i raceId carId hheld hid
    refine ⟨newer, e, older, raceId, hlog, hentry, hid, fun status => ?_, hnewer⟩
    rw [hthread]
    exact h.not_refused hfollowed hheld status
  · rintro ⟨newer, e, older, raceId, hlog, hentry, hid, hnot, -⟩
    have hentered := h.entered e (by simp [hlog]) _ hentry
    exact h.participant (held_of_entered hfollowed hentered hnot) hid

/-- While no join is under way, the cars of the active race are its
participants. -/
theorem Accounts.targets_iff (h : Accounts p.world) (hfollowed : p.Followed joinProtocol JoinPost)
    (hsettled : JoinsSettled p) {raceId : String}
    (hid : p.world.shared.races.activeId = some raceId) (carId : ℕ) :
    p.world.shared.store.carTargets.lookup carId = some (.localRace raceId) ↔
      carId ∈ p.world.shared.races.participants := by
  constructor
  · intro htarget
    obtain ⟨i, hi⟩ := h.targets carId raceId htarget
    exact h.participant (congrArg JoinStage.held hi) hid
  · intro hmember
    obtain ⟨i, raceId', hheld, hid'⟩ := (h.members carId).mp hmember
    obtain rfl : raceId' = raceId := Option.some.inj (hid'.symm.trans hid)
    obtain ⟨newer, e, older, hlog, rfl, hentry, -⟩ := h.kept i raceId' carId hheld hid
    obtain ⟨outcome, hret⟩ := hsettled e (by simp [hlog]) raceId' carId hentry hid
    have hpost := hfollowed e.thread
    rw [hret] at hpost
    cases outcome with
    | refused status => exact (h.not_refused hfollowed hheld status hret).elim
    | joined carId' =>
        obtain ⟨raceId, hstage⟩ := hpost
        rw [joinStage, hstage] at hheld
        cases hheld
        exact h.published e.thread raceId' carId hstage hid
    | done =>
        have hfresh : joinStage p.world e.thread = .fresh := hpost
        rw [hfresh] at hheld
        cases hheld

/-- The cars counted for the active race are its participants. -/
theorem Accounts.counts (h : Accounts p.world) (hfollowed : p.Followed joinProtocol JoinPost)
    (hsettled : JoinsSettled p) {raceId : String}
    (hid : p.world.shared.races.activeId = some raceId) :
    (p.world.shared.store.activeCarCountsByLocalRace raceId).getD
        p.world.shared.races.participants.keys.card =
      p.world.shared.races.participants.keys.card := by
  have hcars : (p.world.shared.store.carTargets.keys.filter fun carId =>
      p.world.shared.store.carTargets.lookup carId = some (.localRace raceId)) =
      p.world.shared.races.participants.keys := by
    ext carId
    rw [Finset.mem_filter, Finmap.mem_keys, Finmap.mem_keys,
      ← h.targets_iff hfollowed hsettled hid carId]
    exact ⟨And.right, fun htarget => ⟨Finmap.mem_of_lookup_eq_some htarget, htarget⟩⟩
  rw [RaceRuntimeStore.activeCarCountsByLocalRace, hcars]
  have hfew := h.books.few
  have hcounted := h.books.counted
  have hu32 : 1 ≤ u32Max := by decide
  cases hcard : p.world.shared.races.participants.keys.card with
  | zero => rfl
  | succ n =>
      change min (n + 1) u32Max = n + 1
      omega

theorem accounts_start : Accounts ⟨⟨.new, .new⟩, []⟩ := by
  have hmember : ∀ carId, carId ∉ LocalRaceState.new.participants := fun carId =>
    Finmap.notMem_empty
  have hid : LocalRaceState.new.activeId = none := rfl
  have hfresh : ∀ i, joinStage ⟨⟨.new, .new⟩, []⟩ i = .fresh := fun _ => rfl
  constructor
  · exact raceBooks_empty none (by decide) false
  · simp [hfresh, JoinStage.carId]
  · simp [hfresh, JoinStage.carId]
  · simp
  · simp [hfresh, JoinStage.entered]
  · simp [hid]
  · simp [hfresh]
  · simp [hfresh, JoinStage.held, hmember]
  · simp [hfresh, JoinStage.held]
  · simp [RaceRuntimeStore.new]
  · simp [hfresh]

end Runs

/-- The state after the first `n` steps of a server that starts empty. -/
def raceRun (b : Build) (tasks : ℕ → Option RaceTask) (events : List (ℕ × ServiceInput)) (n : ℕ) :
    ServicePool :=
  stateAt (Pool.step (execCall b)) (.start ⟨.new, .new⟩ (raceThreads b tasks)) events n

/-- In a run that takes no recorded car away and tells every registered
join its slots, the accounts are right in every state. The report of
`build_runtime_state` is right when it counts the cars while no join is
under way, and the participants stay the same until it reads the race. -/
theorem local_race_accounting (b : Build) (tasks : ℕ → Option RaceTask)
    (events : List (ℕ × ServiceInput))
    (hguard : Along (Pool.Guarded KeepsAccounts) (Pool.step (execCall b))
      (.start ⟨.new, .new⟩ (raceThreads b tasks)) events) :
    (∀ n, RaceAccounted (raceRun b tasks events n)) ∧
      ∀ m n nowMs race, JoinsSettled (raceRun b tasks events m) →
        (raceRun b tasks events n).world.shared.races.activeId =
          (raceRun b tasks events m).world.shared.races.activeId →
        (raceRun b tasks events n).world.shared.races.participants =
          (raceRun b tasks events m).world.shared.races.participants →
        buildRuntimeStateRace (raceRun b tasks events m).world.shared
          (raceRun b tasks events n).world.shared nowMs = some race →
        race.joinedParticipantCount =
          (raceRun b tasks events n).world.shared.races.participants.keys.card := by
  have hstart := raceThreads_followed b tasks ⟨.new, .new⟩
  have hfollowed : ∀ n, (raceRun b tasks events n).Followed joinProtocol JoinPost :=
    fun n => hstart.stateAt events n
  have haccounts : ∀ n, Accounts (raceRun b tasks events n).world := fun n =>
    hstart.invariant (fun w i op input hw hg hpermits => hw.perform hg hpermits) accounts_start
      hguard n
  refine ⟨fun n => (haccounts n).raceAccounted (hfollowed n), ?_⟩
  intro m n nowMs race hsettled hid hsame hreport
  obtain ⟨read, hread, rfl⟩ := Option.map_eq_some_iff.mp hreport
  obtain ⟨hreadId, hcount⟩ := (haccounts n).books.activeRace_count hread
  have hcounts := (haccounts m).counts (hfollowed m) hsettled (hid.symm.trans hreadId)
  rw [← hsame] at hcounts
  dsimp only
  rw [hcount]
  exact hcounts

/-! ## Two runs -/

/-- A race for one driver is set up, the driver joins, and the connection
is lost. -/
def oneDriver : ℕ → Option RaceTask
  | 0 => some (.admin (.setActiveRace (stagedRace ⟨"race", "m", 60, none, none, none, 1⟩ "r" .noon 0)))
  | 1 => some (.join "r" "bot")
  | 2 => some (.cleanup 1 (.localRace "r") 1)
  | _ => none

/-- The steps of the threads in the given order. -/
def raceSteps (order : List ℕ) : List (ℕ × ServiceInput) :=
  order.map fun i => (i, willingInput 0 .tick)

def driverJoins : List (ℕ × ServiceInput) := raceSteps [0, 1, 1, 1, 1, 1, 1, 1, 1, 1, 1, 1]

theorem driver_joined_accounted :
    RaceAccounted (raceRun .standalone oneDriver driverJoins 12) ∧
      1 ∈ (raceRun .standalone oneDriver driverJoins 12).world.shared.races.participants := by
  refine ⟨(local_race_accounting .standalone oneDriver driverJoins ?_).1 12, by decide +kernel⟩
  refine ⟨?_, trivial, trivial, ?_, ?_, fun _ => ⟨3, rfl⟩, trivial, trivial, trivial, trivial,
    trivial, trivial, trivial⟩
  · rintro ⟨e, he, -⟩
    cases he
  · change (1 : ℕ) + 1 < 2 ^ 64
    omega
  · change (1 : ℕ) < u32Max
    decide

/-- The clean-up takes the car out of the runtime store and leaves its
place in the race taken. -/
theorem driver_lost_place_taken :
    ¬ RaceAccounted (raceRun .standalone oneDriver (driverJoins ++ raceSteps [2, 2]) 14) := by
  intro h
  have hmember : 1 ∈ (raceRun .standalone oneDriver (driverJoins ++ raceSteps [2, 2])
      14).world.shared.races.participants := by decide +kernel
  obtain ⟨newer, e, older, raceId, hlog, hentry, -, -, hnewer⟩ := (h.joined 1).mp hmember
  cases newer with
  | nil =>
      obtain ⟨rfl, -⟩ := List.cons.inj hlog
      cases hentry
  | cons last newer =>
      obtain ⟨rfl, -⟩ := List.cons.inj hlog
      exact hnewer _ List.mem_cons_self rfl

end HackArena.Services
