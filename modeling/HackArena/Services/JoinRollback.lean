import HackArena.Services.LocalRaceParticipants

/-!
# What a refused join leaves behind

A join spawns a car in the engine before it knows whether the join will
succeed. A join that is refused afterwards has to take the car back, and
with it what it has written. The cars of the engine's worlds stand beside
the shared state here.
-/

namespace HackArena.Services

open Boink HackArena.Runtime HackArena.Local

namespace Tasks

structure JoinState where
  backend : Backend
  cars : EngineCommandTarget → Finset ℕ

/-- The cars in the engine's worlds after a call with its answer. -/
def carsAfter (cars : EngineCommandTarget → Finset ℕ) :
    (op : ServiceOp) → op.Answer → EngineCommandTarget → Finset ℕ
  | .engine target .spawnCar, .ok carId =>
      Function.update cars target (insert carId (cars target))
  | .engine target (.despawnCar carId), .ok () =>
      Function.update cars target ((cars target).erase carId)
  | _, _ => cars

def joinExec (b : Build) (s : JoinState) (op : ServiceOp) (input : ServiceInput) :
    JoinState × op.Answer :=
  let r := execCall b s.backend op input
  (⟨r.1, carsAfter s.cars op r.2⟩, r.2)

/-- The engine gives every car a number of its own, and despawns a car when
asked to. -/
def Reliable (s : JoinState) : ServiceOp → ServiceInput → Prop
  | .engine target .spawnCar, input =>
      ∀ carId, input.engine target .spawnCar = .ok carId → carId ∉ s.cars target
  | .engine target (.despawnCar carId), input =>
      input.engine target (.despawnCar carId) = .ok ()
  | _, _ => True

/-- The two failures after which a join takes nothing back do not happen:
a token is accepted, and the world of a local race has start slots. -/
def Recoverable (_ : JoinState) : ServiceOp → ServiceInput → Prop
  | .identityFromToken, input => ∃ identity, input.identity = .ok identity
  | .engine (.localRace raceId) .getNumberOfStartPos, input =>
      ∃ slots, input.engine (.localRace raceId) .getNumberOfStartPos = .ok (slots + 1)
  | _, _ => True

end Tasks

/-- Some map of the store has an entry for the car. -/
def RaceRuntimeStore.Mentions (s : RaceRuntimeStore) (carId : ℕ) : Prop :=
  carId ∈ s.knownCars ∨ carId ∈ s.lastClientSeq ∨ carId ∈ s.carOwners ∨
  carId ∈ s.carEngineIds ∨ carId ∈ s.carTargets ∨ carId ∈ s.carIdentity ∨
  carId ∈ s.carPitState ∨ carId ∈ s.carControlsInput ∨
  ∃ uuid, s.instanceCars.lookup uuid = some carId

namespace Tasks

/-- The next number to be given is that of no car. -/
def NumberIsNew (s : JoinState) : Prop :=
  ¬ s.backend.store.Mentions s.backend.store.nextPublicCarId ∧
  s.backend.store.nextPublicCarId ∉ s.backend.races.participants

/-- The engine's cars, the participants and the store are as before, except
for the next number to be given. -/
structure Untouched (s t : JoinState) : Prop where
  cars : t.cars = s.cars
  store : { t.backend.store with
    nextPublicCarId := s.backend.store.nextPublicCarId } = s.backend.store
  participants : t.backend.races.participants = s.backend.races.participants

/-- A refused join leaves nothing behind, not even a mention of the number
that its car was to get. -/
def AllOrNothing (s : JoinState) (outcome : TaskOutcome) (t : JoinState) : Prop :=
  ∀ status, outcome = .refused status →
    Untouched s t ∧ ¬ t.backend.store.Mentions s.backend.store.nextPublicCarId

/-- The joins of one car. -/
inductive CarJoin where
  | sandbox (requestedSandboxId : String)
  | quick (requestedSandboxId : String)
  | localRace (requestedRaceId requestedName : String)

def CarJoin.task (b : Build) : CarJoin → Task TaskOutcome
  | .sandbox requestedSandboxId => localSandboxJoinImpl b requestedSandboxId
  | .quick requestedSandboxId => joinSandbox b requestedSandboxId
  | .localRace requestedRaceId requestedName => localRaceJoinImpl requestedRaceId requestedName

/-! ## The calls of a join -/

section Calls

variable {b : Build} {s t : JoinState} {α β : Type} {post : α → JoinState → Prop}

/-- The calls that read, or that place a car, and after whose failure the
join takes the car back. -/
def AskingCall : ServiceOp → Prop
  | .runtimeState | .activeRace | .localSpawnMode _ | .randomStartSlot _ => True
  | .engine (.sandbox _) op => PlacingOp op
  | .engine _ (.setCarAtStartPos ..) => True
  | _ => False

theorem AskingCall.eq {op : ServiceOp} (hop : AskingCall op) (s : JoinState)
    (input : ServiceInput) : (joinExec b s op input).1 = s := by
  cases op with
  | runtimeState | activeRace | localSpawnMode | randomStartSlot => rfl
  | engine target op => cases op <;> first | rfl | cases target <;> exact hop.elim
  | _ => exact hop.elim

theorem AskingCall.recoverable {op : ServiceOp} (hop : AskingCall op) (s : JoinState)
    (input : ServiceInput) : Recoverable s op input := by
  cases op with
  | runtimeState | activeRace | localSpawnMode | randomStartSlot => trivial
  | engine target op => cases target <;> cases op <;> trivial
  | _ => exact hop.elim

theorem decides_ask {op : ServiceOp} (hop : AskingCall op) {f : op.Answer → Task α}
    (h : ∀ answer, (f answer).Decides (joinExec b) Reliable Recoverable post s) :
    (op.call >>= f).Decides (joinExec b) Reliable Recoverable post s := by
  refine .pass (hop.recoverable s) fun input _ => ?_
  rw [hop.eq s input]
  exact h _

theorem decides_asking {p : Task β} (hp : p.Uses AskingCall) {f : β → Task α}
    (h : ∀ answer, (f answer).Decides (joinExec b) Reliable Recoverable post s) :
    (p >>= f).Decides (joinExec b) Reliable Recoverable post s := by
  exact .after (I := fun t => t = s) hp (fun op hop t input ht =>
    ⟨hop.recoverable t input, (hop.eq t input).trans ht⟩) rfl fun answer t ht => ht ▸ h answer

/-- The new car is in its world. -/
def JoinState.withCar (s : JoinState) (target : EngineCommandTarget) (engineCarId : ℕ) :
    JoinState :=
  { s with cars := Function.update s.cars target (insert engineCarId (s.cars target)) }

theorem decides_spawn {target : EngineCommandTarget}
    {f : Except EngineWorkerError ℕ → Task α}
    (hrefused : ∀ err, (f (.error err)).Decides (joinExec b) Reliable Recoverable post s)
    (hspawned : ∀ engineCarId, engineCarId ∉ s.cars target →
      (f (.ok engineCarId)).Decides (joinExec b) Reliable Recoverable post
        (s.withCar target engineCarId)) :
    (inEngine target .spawnCar >>= f).Decides (joinExec b) Reliable Recoverable post s := by
  refine .pass (fun input => ?_) fun input hreliable => ?_
  · cases target <;> trivial
  · simp only [joinExec, execCall]
    cases hspawn : input.engine target .spawnCar with
    | error err => exact hrefused err
    | ok engineCarId => exact hspawned engineCarId (hreliable engineCarId hspawn)

/-- The despawn of the new car leaves the cars that were there before. -/
theorem decides_despawn {t : JoinState} {target : EngineCommandTarget} {engineCarId : ℕ}
    (hnew : engineCarId ∉ s.cars target) (ht : t.cars = (s.withCar target engineCarId).cars)
    {f : Except EngineWorkerError Unit → Task α}
    (h : (f (.ok ())).Decides (joinExec b) Reliable Recoverable post
      { t with cars := s.cars }) :
    (inEngine target (.despawnCar engineCarId) >>= f).Decides (joinExec b) Reliable Recoverable
      post t := by
  refine .pass (fun input => ?_) fun input hreliable => ?_
  · cases target <;> trivial
  · have hdone : input.engine target (.despawnCar engineCarId) = .ok () := hreliable
    have hcars : Function.update t.cars target ((t.cars target).erase engineCarId) = s.cars := by
      simp only [ht, JoinState.withCar]
      rw [Function.update_self, Function.update_idem, Finset.erase_insert hnew,
        Function.update_eq_self]
    simp only [joinExec, execCall, hdone, carsAfter, hcars]
    exact h

end Calls

/-! ## The joins -/

section Joins

variable {b : Build} {s t : JoinState}

theorem Untouched.refl (s : JoinState) : Untouched s s := ⟨rfl, rfl, rfl⟩

theorem Untouched.allOrNothing (hnew : NumberIsNew s) (h : Untouched s t)
    (outcome : TaskOutcome) : AllOrNothing s outcome t := by
  refine fun status _ => ⟨h, fun hmentions => hnew.1 ?_⟩
  rw [← h.store]
  exact hmentions

/-- A car that stays in the engine. -/
theorem not_allOrNothing {target : EngineCommandTarget} {engineCarId : ℕ}
    (hnew : engineCarId ∉ s.cars target) (ht : t.cars = (s.withCar target engineCarId).cars)
    (status : Status) : ¬ AllOrNothing s (.refused status) t := by
  intro h
  have hmem : engineCarId ∈ t.cars target := by
    simp [ht, JoinState.withCar]
  rw [(h status rfl).1.cars] at hmem
  exact hnew hmem

/-- The writes of a join that has succeeded. -/
def JoinWrite : ServiceOp → Prop
  | .insert .. | .allocateLocalBotIndex .. => True
  | _ => False

theorem insertAll_uses (carId : ℕ) (entries : List CarEntry) :
    (insertAll carId entries).Uses JoinWrite := by
  induction entries with
  | nil => trivial
  | cons entry rest ih => exact ⟨trivial, fun _ => ih⟩

/-- Nothing is asked of a join that ends with its writes. -/
theorem decides_writes {p : Task Unit} (hp : p.Uses JoinWrite) {f : Unit → Task TaskOutcome}
    (h : ∀ t, (f ()).Decides (joinExec b) Reliable Recoverable (AllOrNothing s) t) :
    (p >>= f).Decides (joinExec b) Reliable Recoverable (AllOrNothing s) t := by
  refine .after (I := fun _ => True) hp (fun op hop t input _ => ⟨?_, trivial⟩) trivial
    fun _ t _ => h t
  cases op with
  | insert | allocateLocalBotIndex => trivial
  | _ => exact hop.elim

theorem decides_registration (carId : ℕ) (identity : RuntimeCarIdentity) (engineCarId : ℕ)
    (target : EngineCommandTarget) :
    (do
      insertAll carId [.identity identity]
      publish carId engineCarId target
      return .joined carId : Task TaskOutcome).Decides (joinExec b) Reliable Recoverable
        (AllOrNothing s) t :=
  decides_writes (insertAll_uses _ _) fun _ => decides_writes (insertAll_uses _ _)
    fun _ _ h => by cases h

/-- The end of a sandbox join, once the token has been accepted. -/
theorem decides_joined (carId : ℕ) (sandboxId : String) (identity : RuntimeCarIdentity)
    (engineCarId : ℕ) (target : EngineCommandTarget) :
    (do
      insertAll carId (match identity.instanceUuid with
        | some uuid => [.instanceCar uuid, .carOwner uuid]
        | none => [])
      let index ← (ServiceOp.allocateLocalBotIndex sandboxId
        (identity.subject.getD ("car-" ++ toString carId))).call
      insertAll carId [.identity { identity with localBotIndex := some index }]
      publish carId engineCarId target
      return .joined carId : Task TaskOutcome).Decides (joinExec b) Reliable Recoverable
        (AllOrNothing s) t :=
  decides_writes (insertAll_uses _ _) fun _ => .pass (fun _ => trivial) fun _ _ =>
    decides_registration carId _ engineCarId target

theorem joinSandboxAt_decides
    {place : String → EngineCommandTarget → ℕ → Task (Except Status Unit)}
    (hplace : ∀ sandboxId engineCarId,
      (place sandboxId (.sandbox sandboxId) engineCarId).Uses AskingCall)
    (hnew : NumberIsNew s) (requestedSandboxId : String) :
    (joinSandboxAt b place requestedSandboxId).Decides (joinExec b) Reliable Recoverable
      (AllOrNothing s) s := by
  have huntouched := (Untouched.refl s).allOrNothing hnew
  refine decides_ask (show AskingCall .runtimeState from trivial) fun runtimeState => ?_
  cases runtimeState with
  | error err => exact huntouched _
  | ok runtimeState =>
  dsimp only
  cases selectLocalJoinSandbox runtimeState requestedSandboxId with
  | error status => exact huntouched _
  | ok active =>
  refine decides_spawn (fun err => huntouched _) fun engineCarId hcar => ?_
  refine decides_asking (hplace _ _) fun placed => ?_
  cases placed with
  | error status =>
      exact decides_despawn hcar rfl (huntouched _)
  | ok value =>
  refine .pass (fun _ => trivial) fun input _ => ?_
  -- from here on the car has a number, and only the token can be refused
  by_cases hb : b = .standalone
  · rw [if_pos hb]
    exact decides_joined _ active.sandboxId .default engineCarId _
  · rw [if_neg hb]
    intro answers _
    refine ⟨fun ⟨identity, hidentity⟩ => ?_, fun hrefused => ?_⟩
    · simp only [joinExec, execCall, hidentity]
      exact decides_joined _ active.sandboxId identity engineCarId _
    · simp only [joinExec, execCall]
      cases hidentity : answers.identity with
      | error status =>
          change ¬ AllOrNothing s (.refused status) _
          refine not_allOrNothing hcar ?_ status
          rfl
      | ok identity => exact (hrefused ⟨identity, hidentity⟩).elim

theorem applyLocalSpawnMode_asking (sandboxId : String) (engineCarId : ℕ) :
    (applyLocalSpawnMode sandboxId (.sandbox sandboxId) engineCarId).Uses AskingCall :=
  applyLocalSpawnMode_uses_of trivial (fun _ => trivial) (fun _ hop => hop) engineCarId

theorem placeLocalRaceCar_decides {engineCarId publicCarId : ℕ} {raceId : String}
    (hnew : NumberIsNew s) (hcar : engineCarId ∉ s.cars (.localRace raceId))
    (hcars : t.cars = (s.withCar (.localRace raceId) engineCarId).cars)
    (hstore : { t.backend.store with
      nextPublicCarId := s.backend.store.nextPublicCarId } = s.backend.store)
    (hparticipants : t.backend.races.participants.erase publicCarId =
      s.backend.races.participants)
    (displayName : String) (participant : LocalRaceParticipantRecord) :
    (placeLocalRaceCar raceId displayName engineCarId publicCarId participant).Decides
      (joinExec b) Reliable Recoverable (AllOrNothing s) t := by
  intro slots _
  refine ⟨fun ⟨n, hslots⟩ => ?_, fun hnone => ?_⟩
  · simp only [joinExec, execCall, hslots]
    refine decides_ask (show AskingCall (.engine (.localRace raceId) (.setCarAtStartPos ..))
      from trivial) fun placed => ?_
    cases placed with
    | error err =>
        refine decides_despawn hcar hcars (.pass (fun _ => trivial) fun _ _ => ?_)
        refine Untouched.allOrNothing hnew ?_ _
        exact ⟨rfl, hstore, hparticipants⟩
    | ok value => exact decides_registration _ _ _ _
  · simp only [joinExec, execCall]
    cases hslots : slots.engine (.localRace raceId) .getNumberOfStartPos with
    | error err =>
        change ¬ AllOrNothing s (.refused _) _
        exact not_allOrNothing hcar hcars _
    | ok n =>
        cases n with
        | zero =>
            change ¬ AllOrNothing s (.refused _) _
            exact not_allOrNothing hcar hcars _
        | succ n => exact (hnone ⟨n, hslots⟩).elim

theorem localRaceJoinImpl_decides (hnew : NumberIsNew s)
    (requestedRaceId requestedName : String) :
    (localRaceJoinImpl requestedRaceId requestedName).Decides (joinExec b) Reliable Recoverable
      (AllOrNothing s) s := by
  have huntouched := (Untouched.refl s).allOrNothing hnew
  rw [localRaceJoinImpl]
  split
  · exact huntouched _
  · refine decides_ask (show AskingCall .activeRace from trivial) fun active => ?_
    cases active with
    | none => exact huntouched _
    | some active =>
    dsimp only
    split
    · exact huntouched _
    · refine decides_spawn (fun err => huntouched _) fun engineCarId hcar => ?_
      refine .pass (fun _ => trivial) fun numbered _ => .pass (fun _ => trivial) fun input _ => ?_
      obtain ⟨-, ⟨err, herr, hparticipants, -⟩ |
        ⟨participant, race, hok, -, -, -, -, hparticipants, -⟩⟩ :=
          registerParticipant_cases s.backend.races (Text.trim requestedRaceId)
            s.backend.store.nextPublicCarId (localRaceDisplayName requestedName) input.nowMs
      · simp only [joinExec, execCall, RaceRuntimeStore.allocatePublicCarId, JoinState.withCar,
          carsAfter, herr]
        refine decides_despawn hcar ?_ ?_
        · rfl
        · refine Untouched.allOrNothing hnew ?_ _
          exact ⟨rfl, rfl, hparticipants⟩
      · simp only [joinExec, execCall, RaceRuntimeStore.allocatePublicCarId, JoinState.withCar,
          carsAfter, hok]
        refine placeLocalRaceCar_decides hnew hcar ?_ ?_ ?_ _ participant
        · rfl
        · rfl
        · simp only [hparticipants]
          exact HashMap.erase_insert_of_notMem hnew.2 participant

/-- A join of a car that is refused leaves the engine, the store and the
race as they were, exactly when the two failures that are not undone do not
happen in it. -/
theorem refused_join_leaves_nothing (b : Build) (join : CarJoin) (s : JoinState)
    (hnew : NumberIsNew s) (inputs : ℕ → ServiceInput)
    (hreliable : (join.task b).Meets (joinExec b) Reliable inputs s) :
    AllOrNothing s ((join.task b).run (joinExec b) inputs s).2
        ((join.task b).run (joinExec b) inputs s).1 ↔
      (join.task b).Meets (joinExec b) Recoverable inputs s := by
  have hdecides : (join.task b).Decides (joinExec b) Reliable Recoverable (AllOrNothing s) s := by
    cases join with
    | sandbox requestedSandboxId =>
        exact joinSandboxAt_decides applyLocalSpawnMode_asking hnew requestedSandboxId
    | quick requestedSandboxId =>
        rw [CarJoin.task, joinSandbox]
        refine joinSandboxAt_decides (fun sandboxId engineCarId => ?_) hnew requestedSandboxId
        split
        · exact applyLocalSpawnMode_asking sandboxId engineCarId
        · exact .call trivial fun _ => trivial
    | localRace requestedRaceId requestedName =>
        exact localRaceJoinImpl_decides hnew requestedRaceId requestedName
  exact hdecides.run hreliable

end Joins

/-! ## Refused joins -/

namespace RefusedJoin

/-- A sandbox is active, and a local race waits for its drivers. -/
def world : JoinState where
  backend := ⟨.new,
    Local.setActiveRace (stagedRace ⟨"race", "m", 60, none, none, none, 2⟩ "r" .noon 0) 0⟩
  cars := fun _ => ∅

def answers : ServiceInput :=
  { willingInput 0 .tick with
    runtimeState := .ok ⟨0, .sandbox, "m", none, [⟨"s", "m", .noon, none⟩], .noon, []⟩
    localSpawnMode := fun _ => some .startLine }

def invalidToken : ServiceInput :=
  { answers with identity := .error ⟨.unauthenticated, "missing x-ha3-game-token"⟩ }

/-- The sandbox has no configuration, so the car is not placed. -/
def notPlaced : ServiceInput := { answers with localSpawnMode := fun _ => none }

theorem number_is_new : NumberIsNew world := by
  refine ⟨?_, by decide⟩
  rintro (h | h | h | h | h | h | h | h | ⟨uuid, h⟩)
  case inr.inr.inr.inr.inr.inr.inr.inr =>
    rw [show world.backend.store.instanceCars = ∅ from rfl, Finmap.lookup_empty] at h
    cases h
  all_goals exact absurd h (by decide)

/-- A car that cannot be placed is taken back. -/
theorem not_placed_is_taken_back :
    AllOrNothing world (((CarJoin.sandbox "s").task .local).run (joinExec .local)
        (fun _ => notPlaced) world).2
      (((CarJoin.sandbox "s").task .local).run (joinExec .local) (fun _ => notPlaced) world).1 :=
  (refused_join_leaves_nothing .local (.sandbox "s") world number_is_new (fun _ => notPlaced)
    ⟨trivial, fun _ _ => Finset.notMem_empty _, trivial, rfl, trivial⟩).mpr
      ⟨trivial, trivial, trivial, trivial, trivial⟩

/-- A car whose token is rejected stays in its sandbox. -/
theorem invalid_token_leaves_car : NumberIsNew world ∧
    ((CarJoin.sandbox "s").task .local).Meets (joinExec .local) Reliable
      (fun _ => invalidToken) world ∧
    ¬ AllOrNothing world (((CarJoin.sandbox "s").task .local).run (joinExec .local)
        (fun _ => invalidToken) world).2
      (((CarJoin.sandbox "s").task .local).run (joinExec .local)
        (fun _ => invalidToken) world).1 := by
  refine ⟨number_is_new, ⟨trivial, fun _ _ => Finset.notMem_empty _, trivial, trivial, trivial,
    trivial, trivial⟩, fun h => ?_⟩
  have hcars := congrFun (h _ rfl).1.cars (.sandbox "s")
  exact absurd hcars (by decide)

end RefusedJoin

end Tasks

end HackArena.Services
