import HackArena.Official.Books
import HackArena.Official.SandboxBots

/-!
# Joins of sandboxes

A join takes away what is left of earlier bots of the team, then it spawns a
car, registers it, starts the container and enters the bot. Up to the car
the books have nothing new; from then on a failing step takes the car back,
and a join that comes to its end has entered the only bot of the team.
-/

namespace HackArena.Official.SandboxBots

open Boink HackArena.Runtime HackArena.Services HackArena.Official

/-! ## The books of a join -/

/-- The record is that of a car that a bot of the team drives in a
sandbox. -/
structure TeamBotCar (teamId : String) (r : CarRecord) : Prop where
  known : r.known
  target : ∃ sandboxId, r.target = some (.sandbox sandboxId)
  identity : ∃ identity, r.identity = some identity ∧
    identity.teamId.map Text.trim = some teamId ∧ identity.activeBotSlot.isSome = true

/-- No bot of the team has a car. -/
def NoBot (teamId : String) (b : Books) : Prop :=
  ∀ carId, ¬ TeamBotCar teamId (b.cars.record carId)

/-- Every car has the record that it had, or none. -/
def CarsWithin (s t : RaceRuntimeStore) : Prop :=
  ∀ carId, t.record carId = s.record carId ∨ t.record carId = .empty

/-- No car, no entry and no capture has come up. -/
structure NothingNew (b₀ b : Books) : Prop where
  cars : CarsWithin b₀.cars b.cars
  joins : ∀ teamId join, b.joins.lookup teamId = some join → b₀.joins.lookup teamId = some join
  captures : b.captures = ∅

/-- There is no car yet that has to be taken back. -/
structure Clean (b₀ b : Books) : Prop extends NothingNew b₀ b where
  left : b.left = []

/-- Nothing is left of a join, unless its car could not be despawned. -/
structure NoTrace (b₀ b : Books) : Prop extends NothingNew b₀ b where
  left : b.despawned → b.left = []

/-- The entry names the one car that a bot of the team has, which is the one
car that has been spawned. -/
structure NamesTheBot (teamId : String) (join : TeamSandboxJoinState) (b : Books) : Prop where
  only : ∀ carId, TeamBotCar teamId (b.cars.record carId) ↔ carId = join.publicCarId
  engineId : (b.cars.record join.publicCarId).engineId = some join.engineCarId
  target : (b.cars.record join.publicCarId).target = some (.sandbox join.sandboxId)
  left : b.left = [(.sandbox join.sandboxId, join.engineCarId)]

def Joined (teamId : String) (b : Books) : Prop :=
  ∃ join, b.joins.lookup teamId = some join ∧ NamesTheBot teamId join b

def answersOk : Except Status JoinOfficialSandboxResponse → Bool
  | .ok response => response.status == .ok
  | .error _ => false

/-- All or nothing. -/
structure JoinEnd (teamId : String) (b₀ : Books)
    (outcome : Except Status JoinOfficialSandboxResponse) (b : Books) : Prop where
  joined : answersOk outcome = true → Joined teamId b
  failed : answersOk outcome = false → NoTrace b₀ b

theorem CarsWithin.trans {s t u : RaceRuntimeStore} (h : CarsWithin s t) (h' : CarsWithin t u) :
    CarsWithin s u := by
  intro carId
  rcases h' carId with hsame | hempty
  · rw [hsame]
    exact h carId
  · exact .inr hempty

theorem CarsWithin.removeCar {s t : RaceRuntimeStore} (h : CarsWithin s t) (carId : ℕ) :
    CarsWithin s (t.removeCar carId) := by
  refine h.trans fun other => ?_
  by_cases hsame : other = carId
  · exact .inr (hsame ▸ record_removeCar_self t other)
  · exact .inl (record_removeCar_ne t hsame)

theorem not_teamBotCar_empty (teamId : String) : ¬ TeamBotCar teamId .empty := fun h => h.known

section Books

variable {b₀ b : Books} {teamId : String}

/-- At most the team has a capture, and that one is stopped. -/
theorem erase_eq_empty {captures : HashMap String ℕ}
    (h : ∀ other, other ≠ teamId → captures.lookup other = none) : captures.erase teamId = ∅ := by
  refine Finmap.ext_lookup fun other => ?_
  rw [HashMap.lookup_erase_eq]
  split
  · rfl
  · exact h other ‹_›

theorem Clean.noTrace (h : Clean b₀ b) : NoTrace b₀ b := ⟨h.toNothingNew, fun _ => h.left⟩

theorem NoTrace.joinEnd {outcome : Except Status JoinOfficialSandboxResponse} (h : NoTrace b₀ b)
    (houtcome : answersOk outcome = false) : JoinEnd teamId b₀ outcome b :=
  ⟨fun hok => absurd (houtcome.symm.trans hok) (by decide), fun _ => h⟩

end Books

/-! ## The clean-up of an entry -/

section Calls

variable {α ε : Type} {post : α → OfficialWorld → Prop} {w : OfficialWorld} {b₀ : Books}
  {carId : ℕ}

/-- A call in a program that can fail. -/
theorem ensures_lifted {op : Op} {f : op.Answer → ExceptT ε OfficialProg α}
    {post : Except ε α → OfficialWorld → Prop}
    (h : (op.call >>= fun answer => (f answer).run).Ensures (World.record exec) post w) :
    ((liftM op.call : ExceptT ε OfficialProg op.Answer) >>= f).run.Ensures
      (World.record exec) post w := h

theorem ensures_carIdentity {f : Option RuntimeCarIdentity → OfficialProg α}
    (h : ∀ w', books w' = books w →
      (f ((books w).cars.record carId).identity).Ensures (World.record exec) post w') :
    ((Op.store (.carIdentity carId)).call >>= f).Ensures (World.record exec) post w :=
  .call fun input => h _ (books_record_quiet rfl w input)

theorem ensures_carTarget {f : Option EngineCommandTarget → OfficialProg α}
    (h : ∀ w', books w' = books w →
      (f ((books w).cars.record carId).target).Ensures (World.record exec) post w') :
    ((Op.store (.carTarget carId)).call >>= f).Ensures (World.record exec) post w :=
  .call fun input => h _ (books_record_quiet rfl w input)

theorem ensures_knownCarIds {f : List ℕ → OfficialProg α}
    (h : ∀ w', books w' = books w →
      (f (books w).cars.knownCarIds).Ensures (World.record exec) post w') :
    ((Op.store .knownCarIds).call >>= f).Ensures (World.record exec) post w :=
  .call fun input => h _ (books_record_quiet rfl w input)

theorem cleanupJoinStateLocked_clean (h : Clean b₀ (books w)) (teamId : String)
    (join : TeamSandboxJoinState) :
    (cleanupJoinStateLocked teamId join).run.Ensures (World.record exec) (fun _ w' =>
      Clean b₀ (books w') ∧ (books w').joins.lookup teamId = none) w := by
  refine ensures_lifted (ensures_quiet rfl fun _ w₁ h₁ => ?_)
  refine ensures_lifted (ensures_stopCapture fun w₂ h₂ => ?_)
  refine ensures_lifted (ensures_despawn_none rfl (by rw [h₂, h₁]; exact h.left)
    fun despawned w₃ h₃ => ?_)
  refine ensures_lifted (ensures_removeCar fun w₄ h₄ => ?_)
  refine ensures_lifted (ensures_join fun w₅ h₅ => ?_)
  have hclean : Clean b₀ (books w₅) ∧ (books w₅).joins.lookup teamId = none := by
    rw [h₅, h₄, h₃, h₂, h₁]
    refine ⟨⟨⟨h.cars.removeCar _, fun other join hjoin => ?_, ?_⟩, h.left⟩, ?_⟩
    · rw [JoinRegistry.exec, HashMap.lookup_erase_eq] at hjoin
      split at hjoin
      · cases hjoin
      · exact h.joins other join hjoin
    · exact erase_eq_empty fun _ _ => by rw [h.captures]; rfl
    · exact Finmap.lookup_erase ..
  cases deferredStatus despawned <;> exact hclean

/-- A stale entry has been cleaned up, or the bot is still there. -/
def Checked (b₀ : Books) (teamId : String) (outcome : Except Status Bool) (b : Books) : Prop :=
  Clean b₀ b ∧ (outcome = .ok false → b.joins.lookup teamId = none)

theorem cleanupStaleJoin_checked (h : Clean b₀ (books w)) (teamId : String)
    (join : TeamSandboxJoinState) :
    (cleanupStaleJoin teamId join >>= fun _ => pure false).run.Ensures (World.record exec)
      (fun outcome w' => Checked b₀ teamId outcome (books w')) w := by
  refine .bindExcept (.orFail (.mono (cleanupJoinStateLocked_clean h teamId join) ?_))
  rintro outcome w' ⟨hclean, hnone⟩
  cases outcome with
  | error status => exact ⟨hclean, fun hfalse => by cases hfalse⟩
  | ok _ => exact ⟨hclean, fun _ => hnone⟩

theorem checkExistingJoin_checked (h : Clean b₀ (books w)) (teamId : String)
    (runtime : EngineRuntimeState) (join : TeamSandboxJoinState) :
    (checkExistingJoin teamId runtime join).run.Ensures (World.record exec)
      (fun outcome w' => Checked b₀ teamId outcome (books w')) w := by
  have hpresent : (runtimeCarPresent join).Uses (·.quiet) :=
    ⟨rfl, fun _ => ⟨rfl, fun _ => trivial⟩⟩
  have herror : ∀ e w', books w' = books w → Checked b₀ teamId (.error e) (books w') :=
    fun e w' hw' => ⟨hw' ▸ h, fun hfalse => by cases hfalse⟩
  refine ensures_try (.lift hpresent) herror fun present w₁ h₁ => ?_
  split
  · refine ensures_try (.orFail ⟨rfl, fun _ => trivial⟩) (fun e w₂ h₂ => herror e w₂ (h₂.trans h₁))
      fun running w₂ h₂ => ?_
    have hclean : Clean b₀ (books w₂) := (h₂.trans h₁) ▸ h
    cases running with
    | true => exact ⟨hclean, fun hfalse => by cases hfalse⟩
    | false => exact cleanupStaleJoin_checked hclean teamId join
  · exact cleanupStaleJoin_checked (h₁ ▸ h) teamId join

/-! ## The clean-up of orphans -/

/-- Of the cars with these numbers none is that of a bot of the team any
more, and nothing but cars has been removed. -/
structure OrphansRemoved (teamId : String) (carIds : List ℕ) (b b' : Books) : Prop where
  cars : CarsWithin b.cars b'.cars
  removed : ∀ carId ∈ carIds, ¬ TeamBotCar teamId (b'.cars.record carId)
  others : b' = { b with cars := b'.cars }

theorem OrphansRemoved.none {teamId : String} {carId : ℕ} {b : Books}
    (h : ¬ TeamBotCar teamId (b.cars.record carId)) : OrphansRemoved teamId [carId] b b :=
  ⟨fun _ => .inl rfl, fun _ hother => List.mem_singleton.mp hother ▸ h, rfl⟩

theorem removeOrphan_removed (hleft : (books w).left = []) (teamId : String)
    (target : EngineCommandTarget) :
    (removeOrphan carId target).Ensures (World.record exec) (fun _ w' =>
      OrphansRemoved teamId [carId] (books w) (books w')) w := by
  have hremove : ∀ w₁, books w₁ = books w →
      ((Op.store (.removeCar carId)).call >>= fun _ => pure true).Ensures (World.record exec)
        (fun _ w' => OrphansRemoved teamId [carId] (books w) (books w')) w₁ := by
    intro w₁ h₁
    refine ensures_removeCar fun w₂ h₂ => ?_
    show OrphansRemoved teamId [carId] (books w) (books w₂)
    rw [h₂, h₁]
    refine ⟨CarsWithin.removeCar (fun _ => .inl rfl) carId, fun other hother => ?_, rfl⟩
    rw [List.mem_singleton.mp hother, record_removeCar_self]
    exact not_teamBotCar_empty teamId
  refine ensures_quiet rfl fun engineCarId w₁ h₁ => ?_
  cases engineCarId with
  | none => exact hremove w₁ h₁
  | some engineCarId =>
      exact ensures_despawn_none rfl (h₁ ▸ hleft) fun _ w₂ h₂ => hremove w₂ (h₂.trans h₁)

theorem cleanupOrphanCar_removed (hleft : (books w).left = []) (teamId : String) (carId : ℕ) :
    (cleanupOrphanCar teamId carId).Ensures (World.record exec) (fun _ w' =>
      OrphansRemoved teamId [carId] (books w) (books w')) w := by
  have hkeep : ∀ w', books w' = books w → ¬ TeamBotCar teamId ((books w).cars.record carId) →
      OrphansRemoved teamId [carId] (books w) (books w') := by
    intro w' hw' hnot
    rw [hw']
    exact .none hnot
  refine ensures_carIdentity fun w₁ h₁ => ?_
  cases hidentity : ((books w).cars.record carId).identity with
  | none =>
      refine hkeep w₁ h₁ fun hcar => ?_
      obtain ⟨identity, hsome, -⟩ := hcar.identity
      rw [hidentity] at hsome
      cases hsome
  | some identity =>
      dsimp only
      split
      · rename_i hother
        refine hkeep w₁ h₁ fun hcar => ?_
        obtain ⟨identity', hsome, hteam, hslot⟩ := hcar.identity
        obtain rfl := Option.some.inj (hidentity.symm.trans hsome)
        rw [isTeamBot, hteam, hslot] at hother
        simp at hother
      · refine ensures_carTarget fun w₂ h₂ => ?_
        rw [h₁]
        cases htarget : ((books w).cars.record carId).target with
        | none =>
            refine hkeep w₂ (h₂.trans h₁) fun hcar => ?_
            obtain ⟨sandboxId, hsandbox⟩ := hcar.target
            rw [htarget] at hsandbox
            cases hsandbox
        | some target =>
            cases target with
            | sandbox sandboxId =>
                have hremoved : (removeOrphan carId (.sandbox sandboxId)).Ensures (World.record exec)
                    (fun _ w' => OrphansRemoved teamId [carId] (books w₂) (books w')) w₂ :=
                  removeOrphan_removed (by rw [h₂, h₁]; exact hleft) teamId (.sandbox sandboxId)
                rw [h₂, h₁] at hremoved
                exact hremoved
            | _ =>
                refine hkeep w₂ (h₂.trans h₁) fun hcar => ?_
                obtain ⟨sandboxId, hsandbox⟩ := hcar.target
                rw [htarget] at hsandbox
                cases hsandbox

theorem cleanupOrphanCars_removed (teamId : String) (carIds : List ℕ) {w : OfficialWorld}
    (hleft : (books w).left = []) : (cleanupOrphanCars teamId carIds).Ensures (World.record exec)
      (fun _ w' => OrphansRemoved teamId carIds (books w) (books w')) w := by
  induction carIds generalizing w with
  | nil => exact ⟨fun _ => .inl rfl, fun _ hmem => absurd hmem List.not_mem_nil, rfl⟩
  | cons carId carIds ih =>
      refine .bind (.mono (cleanupOrphanCar_removed hleft teamId carId) fun _ w₁ hfirst => ?_)
      have hleft₁ : (books w₁).left = [] := by rw [hfirst.others]; exact hleft
      refine .bind (.mono (ih hleft₁) fun _ w' hrest => ?_)
      refine ⟨hfirst.cars.trans hrest.cars, fun other hmem => ?_, ?_⟩
      · rcases List.mem_cons.mp hmem with rfl | hmem
        · rcases hrest.cars other with hsame | hempty
          · rw [hsame]
            exact hfirst.removed other List.mem_cons_self
          · rw [hempty]
            exact not_teamBotCar_empty teamId
        · exact hrest.removed other hmem
      · rw [hrest.others, hfirst.others]

theorem cleanupOrphanTeamSandboxCars_noBot (h : Clean b₀ (books w)) (teamId : String) :
    (cleanupOrphanTeamSandboxCars teamId).Ensures (World.record exec) (fun _ w' =>
      Clean b₀ (books w') ∧ NoBot teamId (books w')) w := by
  refine ensures_knownCarIds fun w₁ h₁ => ?_
  refine .mono (cleanupOrphanCars_removed teamId _ (h₁ ▸ h.left)) fun _ w' hremoved => ?_
  rw [h₁] at hremoved
  refine ⟨?_, fun carId hcar => ?_⟩
  · rw [hremoved.others]
    exact ⟨⟨h.cars.trans hremoved.cars, h.joins, h.captures⟩, h.left⟩
  · by_cases hknown : ((books w).cars.record carId).known
    · exact hremoved.removed carId (mem_knownCarIds.mpr hknown) hcar
    · rcases hremoved.cars carId with hsame | hempty
      · exact hknown (hsame ▸ hcar.known)
      · exact not_teamBotCar_empty teamId (hempty ▸ hcar)

/-! ## The car of the join -/

namespace JoinRequest

/-- The car has been spawned and registered, and it is the only one that a
bot of the team has. -/
structure Registered (r : JoinRequest) (b₀ : Books) (publicCarId engineCarId : ℕ) (b : Books) :
    Prop where
  cars : CarsWithin b₀.cars (b.cars.removeCar publicCarId)
  only : ∀ carId, TeamBotCar r.teamId (b.cars.record carId) ↔ carId = publicCarId
  engineId : (b.cars.record publicCarId).engineId = some engineCarId
  target : (b.cars.record publicCarId).target = some r.target
  joins : ∀ teamId join, b.joins.lookup teamId = some join → b₀.joins.lookup teamId = some join
  left : b.left = [(r.target, engineCarId)]

variable {r : JoinRequest} {publicCarId engineCarId : ℕ}

theorem rollback_noTrace (h : r.Registered b₀ publicCarId engineCarId (books w))
    (hcaptures : (books w).captures = ∅) :
    (rollbackJoinRuntime r.target publicCarId engineCarId r.containerName).Ensures
      (World.record exec) (fun _ w' => NoTrace b₀ (books w')) w := by
  refine ensures_quiet rfl fun _ w₁ h₁ => ?_
  refine ensures_despawn_last rfl (h₁ ▸ h.left) fun _ w₂ despawned left hdone h₂ => ?_
  refine ensures_removeCar (f := Prog.ret) fun w₃ h₃ => ?_
  show NoTrace b₀ (books w₃)
  rw [h₃, h₂, h₁]
  exact ⟨⟨h.cars, h.joins, hcaptures⟩, fun hdespawned => (hdone hdespawned).2⟩

/-- The capture of the log is taken back first. -/
theorem stopAndRollback_joinEnd (h : r.Registered b₀ publicCarId engineCarId (books w))
    (hcaptures : (books w).captures.erase r.teamId = ∅)
    (outcome : Except Status JoinOfficialSandboxResponse) (houtcome : answersOk outcome = false) :
    ((Op.outside (.stopLogCapture r.teamId)).call >>= fun _ =>
      rollbackJoinRuntime r.target publicCarId engineCarId r.containerName >>= fun _ =>
        pure outcome).Ensures (World.record exec)
      (fun outcome w' => JoinEnd r.teamId b₀ outcome (books w')) w := by
  refine ensures_stopCapture fun w₁ h₁ => ?_
  have hregistered : r.Registered b₀ publicCarId engineCarId (books w₁) := by
    rw [h₁]
    exact ⟨h.cars, h.only, h.engineId, h.target, h.joins, h.left⟩
  exact .bind (.mono (rollback_noTrace hregistered (by rw [h₁]; exact hcaptures))
    fun _ w' hnone => hnone.joinEnd houtcome)

theorem enter_joinEnd (h : r.Registered b₀ publicCarId engineCarId (books w))
    (hcaptures : (books w).captures = ∅) (containerId : ℕ) :
    (r.enter publicCarId engineCarId containerId).run.Ensures (World.record exec)
      (fun outcome w' => JoinEnd r.teamId b₀ outcome (books w')) w := by
  refine ensures_lifted (ensures_startCapture (fun err w₁ h₁ => ?_) fun w₁ h₁ => ?_)
  · exact stopAndRollback_joinEnd (h₁ ▸ h) (erase_eq_empty fun _ _ => by rw [h₁, hcaptures]; rfl) _ rfl
  · refine ensures_lifted (ensures_quiet rfl fun persisted w₂ h₂ => ?_)
    have hbooks := h₂.trans h₁
    have hregistered : r.Registered b₀ publicCarId engineCarId (books w₂) := by
      rw [hbooks]
      exact ⟨h.cars, h.only, h.engineId, h.target, h.joins, h.left⟩
    cases persisted with
    | error err =>
        refine stopAndRollback_joinEnd hregistered (erase_eq_empty fun other hother => ?_) _ rfl
        rw [hbooks, hcaptures]
        exact Finmap.lookup_insert_of_ne _ hother
    | ok _ =>
        refine ensures_lifted (ensures_join fun w₃ h₃ => ensures_lifted (ensures_quiet rfl
          fun _ w₄ h₄ => ?_))
        refine ⟨fun _ => ?_, fun hfailed => by cases hfailed⟩
        rw [h₄, h₃]
        exact ⟨r.state publicCarId engineCarId containerId, Finmap.lookup_insert _,
          hregistered.only, hregistered.engineId, hregistered.target, hregistered.left⟩

/-- The registration writes the record of the car that has been spawned. -/
theorem registerCar_registered {b : Books} (h : Clean b₀ b) (hnone : NoBot r.teamId b)
    (htrim : Text.trim r.teamId = r.teamId) (hw : books w = { b with
      cars := b.cars.allocatePublicCarId.2
      left := [(r.target, engineCarId)] }) :
    (r.registerCar b.cars.nextPublicCarId engineCarId).Ensures (World.record exec) (fun _ w' =>
      r.Registered b₀ b.cars.nextPublicCarId engineCarId (books w') ∧
        (books w').captures = ∅) w := by
  refine ensures_insert fun w₁ h₁ => ensures_car fun w₂ h₂ => ensures_insert fun w₃ h₃ =>
    ensures_insert fun w₄ h₄ => ensures_insert fun w₅ h₅ =>
    ensures_insert (f := Prog.ret) fun w₆ h₆ => ?_
  show r.Registered b₀ _ engineCarId (books w₆) ∧ (books w₆).captures = ∅
  generalize hnumber : b.cars.nextPublicCarId = publicCarId at *
  have hbooks : books w₆ = { books w with cars := (books w₆).cars } := by
    rw [h₆, h₅, h₄, h₃, h₂, h₁]
  have hothers : ∀ carId, carId ≠ publicCarId →
      (books w₆).cars.record carId = b.cars.record carId := by
    intro carId hne
    simp only [h₆, h₅, h₄, h₃, h₂, h₁, hw, record_insert_ne _ hne, record_car_ne _ _ hne,
      record_allocatePublicCarId]
  have hown : ∃ r₀ : CarRecord, (books w₆).cars.record publicCarId = { r₀ with
      known := True
      identity := some { RuntimeCarIdentity.default with
        subject := some r.userId
        teamId := some r.teamId
        activeBotSlot := some r.slotIndex }
      engineId := some engineCarId
      target := some r.target } := by
    simp only [h₆, h₅, h₄, h₃, h₂, h₁, hw, record_insert_self, CarEntry.write, CarCall.apply,
      RaceRuntimeStore.setActiveBotSlot, record_modifyIdentity_self]
    exact ⟨{ b.cars.record publicCarId with lastClientSeq := some 0 }, rfl⟩
  obtain ⟨r₀, hown⟩ := hown
  rw [hbooks, hw]
  refine ⟨⟨fun carId => ?_, fun carId => ?_, ?_, ?_, h.joins, rfl⟩, h.captures⟩
  · by_cases hsame : carId = publicCarId
    · exact .inr (hsame ▸ record_removeCar_self _ _)
    · rw [record_removeCar_ne _ hsame, hothers carId hsame]
      exact h.cars carId
  · by_cases hsame : carId = publicCarId
    · refine iff_of_true ?_ hsame
      rw [hsame]
      dsimp only
      rw [hown]
      exact ⟨trivial, ⟨r.sandboxId, rfl⟩, _, rfl, congrArg some htrim, rfl⟩
    · refine iff_of_false ?_ hsame
      dsimp only
      rw [hothers carId hsame]
      exact hnone carId
  · exact congrArg CarRecord.engineId hown
  · exact congrArg CarRecord.target hown

theorem startContainer_joinEnd (h : r.Registered b₀ publicCarId engineCarId (books w))
    (hcaptures : (books w).captures = ∅) :
    (r.startContainer publicCarId engineCarId).run.Ensures (World.record exec)
      (fun outcome w' => JoinEnd r.teamId b₀ outcome (books w')) w := by
  refine .bindExcept (.lift (.mono (Prog.Uses.ensures (I := fun w' => books w' = books w)
    (startBotContainerWithOptions_calls (P := (·.quiet)) (fun _ => rfl) _ _)
    (fun op hop w' input hw' => (books_record_quiet hop w' input).trans hw') rfl) ?_))
  intro started w₁ h₁
  cases started with
  | error err =>
      refine .bindExcept (.lift (.mono (rollback_noTrace (h₁ ▸ h) (by rw [h₁, hcaptures])) ?_))
      exact fun _ w' hnone => hnone.joinEnd rfl
  | ok containerId => exact enter_joinEnd (h₁ ▸ h) (by rw [h₁, hcaptures]) containerId

theorem spawn_joinEnd (h : Clean b₀ (books w)) (hnone : NoBot r.teamId (books w))
    (htrim : Text.trim r.teamId = r.teamId) :
    r.spawn.run.Ensures (World.record exec)
      (fun outcome w' => JoinEnd r.teamId b₀ outcome (books w')) w := by
  refine .bindExcept (.orFail (ensures_spawn (f := Prog.ret) (fun cars answer => ?_)
    fun spawned w₁ h₁ => ?_))
  · cases answer <;> exact ⟨trivial, rfl⟩
  cases spawned with
  | error err => exact NoTrace.joinEnd (h₁ ▸ h.noTrace) rfl
  | ok engineCarId =>
      have hleft : (books w₁).left = [(r.target, engineCarId)] := by
        rw [h₁]
        exact congrArg ([(r.target, engineCarId)] ++ ·) h.left
      refine ensures_lifted (ensures_quiet rfl fun placed w₂ h₂ => ?_)
      cases placed with
      | error err =>
          refine ensures_lifted (ensures_despawn_last rfl (h₂ ▸ hleft)
            fun _ w₃ despawned left hdone h₃ => ?_)
          refine NoTrace.joinEnd ?_ rfl
          rw [h₃, h₂, h₁]
          exact ⟨⟨h.cars, h.joins, h.captures⟩, fun hdespawned => (hdone hdespawned).2⟩
      | ok _ =>
          refine ensures_lifted (ensures_allocate fun w₃ h₃ => ?_)
          have hnumber : (books w₂).cars = (books w).cars := by rw [h₂, h₁]
          rw [hnumber]
          refine .bindExcept (.lift (.mono (registerCar_registered h hnone htrim ?_) ?_))
          · rw [h₃, h₂, h₁]
            exact congrArg (fun left => { books w with
              cars := (books w).cars.allocatePublicCarId.2, left := left })
              (congrArg ([(r.target, engineCarId)] ++ ·) h.left)
          · exact fun _ w₄ hboth => startContainer_joinEnd hboth.1 hboth.2

end JoinRequest

/-! ## The join -/

theorem joinSandbox_joinEnd {teamId : String} (h : Clean b₀ (books w))
    (hnone : NoBot teamId (books w)) (htrim : Text.trim teamId = teamId)
    (userId sandboxId : String) (slotIndex : ℤ) (runtime : EngineRuntimeState) :
    (joinSandbox userId teamId sandboxId slotIndex runtime).run.Ensures (World.record exec)
      (fun outcome w' => JoinEnd teamId b₀ outcome (books w')) w := by
  have hend : ∀ w', books w' = books w → ∀ outcome, answersOk outcome = false →
      JoinEnd teamId b₀ outcome (books w') :=
    fun w' hw' outcome houtcome => NoTrace.joinEnd (hw' ▸ h.noTrace) houtcome
  unfold joinSandbox
  split
  · exact hend w rfl _ rfl
  · refine ensures_try (.orFail ⟨rfl, fun _ => trivial⟩) (fun e w₁ h₁ => hend w₁ h₁ _ rfl)
      fun slotSubmission w₁ h₁ => ?_
    cases slotSubmission with
    | none => exact hend w₁ h₁ _ rfl
    | some slotSubmission =>
        dsimp only
        cases usableImageRef slotSubmission.imageRef with
        | none => exact hend w₁ h₁ _ rfl
        | some imageRef =>
            refine ensures_try (issueTokens_calls rfl rfl)
              (fun e w₂ h₂ => hend w₂ (h₂.trans h₁) _ rfl) fun _ w₂ h₂ => ?_
            have hw₂ := h₂.trans h₁
            cases officialBotContainerNameForTeam teamId with
            | error err => exact hend w₂ hw₂ _ rfl
            | ok containerName =>
                have hclean : Clean b₀ (books w₂) := hw₂ ▸ h
                have hnone₂ : NoBot teamId (books w₂) := hw₂ ▸ hnone
                exact JoinRequest.spawn_joinEnd (r := ⟨userId, teamId, sandboxId, slotIndex,
                  slotSubmission.submissionId, imageRef, containerName⟩) hclean hnone₂ htrim

/-- The join of a team that has no entry. -/
theorem joinFree_joinEnd {teamId : String} (h : Clean b₀ (books w))
    (hfree : (books w).joins.lookup teamId = none) (htrim : Text.trim teamId = teamId)
    (userId sandboxId : String) (slotIndex : ℤ) (runtime : EngineRuntimeState) :
    (do
      let entry ← liftM (Op.join (.get teamId)).call
      if entry.isNone then
        let _ ← liftM (cleanupOrphanTeamSandboxCars teamId)
        joinSandbox userId teamId sandboxId slotIndex runtime
      else joinSandbox userId teamId sandboxId slotIndex runtime : StatusProg
        JoinOfficialSandboxResponse).run.Ensures (World.record exec)
          (fun outcome w' => JoinEnd teamId b₀ outcome (books w')) w := by
  refine ensures_lifted (ensures_join fun w₁ h₁ => ?_)
  have hclean : Clean b₀ (books w₁) := by
    rw [h₁]
    exact h
  have hnoEntry : (((books w).joins.exec (.get teamId)).2).isNone = true := by
    rw [JoinRegistry.exec, hfree]
    rfl
  rw [if_pos hnoEntry]
  refine .bindExcept (.lift (.mono (cleanupOrphanTeamSandboxCars_noBot hclean teamId) ?_))
  rintro - w₂ ⟨hclean, hnone⟩
  exact joinSandbox_joinEnd hclean hnone htrim userId sandboxId slotIndex runtime

theorem joinLocked_joinEnd {teamId : String} (h : Clean b₀ (books w))
    (htrim : Text.trim teamId = teamId) (userId sandboxId : String) (slotIndex : ℤ) :
    (joinLocked userId teamId sandboxId slotIndex).run.Ensures (World.record exec)
      (fun outcome w' => JoinEnd teamId b₀ outcome (books w')) w := by
  refine ensures_try (.orFail ⟨rfl, fun _ => trivial⟩)
    (fun e w₁ h₁ => NoTrace.joinEnd (h₁ ▸ h.noTrace) rfl) fun runtime w₁ h₁ => ?_
  refine ensures_lifted (ensures_join fun w₂ h₂ => ?_)
  have hclean : Clean b₀ (books w₂) := by
    rw [h₂, h₁]
    exact h
  have hjoins : (books w₂).joins = (books w₁).joins := by rw [h₂]; rfl
  rw [show ((books w₁).joins.exec (.get teamId)).2 = (books w₁).joins.lookup teamId from rfl]
  cases hjoin : (books w₁).joins.lookup teamId with
  | none => exact joinFree_joinEnd hclean (hjoins ▸ hjoin) htrim userId sandboxId slotIndex runtime
  | some join =>
      refine .bindExcept (.mono (checkExistingJoin_checked hclean teamId runtime join) ?_)
      rintro outcome w₃ ⟨hclean₃, hfree⟩
      cases outcome with
      | error status => exact hclean₃.noTrace.joinEnd rfl
      | ok joined =>
          cases joined with
          | true => exact hclean₃.noTrace.joinEnd rfl
          | false =>
              exact joinFree_joinEnd hclean₃ (hfree rfl) htrim userId sandboxId slotIndex runtime

/-- The team that the team service has given for the user. -/
def ResolvedAs (log : OfficialLog) (teamId : String) : Prop :=
  ∃ userId value, (⟨0, .outside (.resolveTeamId userId), .ok value⟩ : Entry Op Op.Answer) ∈ log ∧
    teamIdFromTeam value = .ok teamId

theorem trim_of_teamIdFromTeam {value teamId : String} (h : teamIdFromTeam value = .ok teamId) :
    Text.trim teamId = teamId := by
  unfold teamIdFromTeam at h
  dsimp only at h
  split at h
  · cases h
  · cases h
    exact Text.trim_trim value

theorem resolveTeamId_resolved (userId : String) :
    (resolveTeamId userId).run.Ensures (World.record exec) (fun outcome w' =>
      books w' = books w ∧ ∀ teamId, outcome = .ok teamId →
        ResolvedAs w'.log teamId ∧ Text.trim teamId = teamId) w := by
  refine .bindExcept (.orFail fun input => ?_)
  have hbooks : books (w.record exec (.outside (.resolveTeamId userId)) input).1 = books w :=
    books_record_quiet rfl w input
  cases hanswer : (w.record exec (.outside (.resolveTeamId userId)) input).2 with
  | error status => exact ⟨hbooks, fun teamId hteam => by cases hteam⟩
  | ok value =>
      refine ⟨hbooks, fun teamId hteam => ⟨⟨userId, value, ?_, hteam⟩,
        trim_of_teamIdFromTeam hteam⟩⟩
      rw [← hanswer]
      exact List.mem_cons_self

end Calls

/-- How a join ends: if it answers that all is well, its team has been
resolved and has the bot. -/
structure JoinAnswered (b₀ : Books) (outcome : Except Status JoinOfficialSandboxResponse)
    (w : OfficialWorld) : Prop where
  joined : answersOk outcome = true → ∃ teamId, ResolvedAs w.log teamId ∧ Joined teamId (books w)
  failed : answersOk outcome = false → NoTrace b₀ (books w)

theorem joinOfficialSandbox_answered (sandboxId : String) (slot : ℤ) (s : OfficialState) :
    (joinOfficialSandbox sandboxId slot).run.Ensures (World.record exec)
      (JoinAnswered (books ⟨s, []⟩)) ⟨s, []⟩ := by
  have hstart : Clean (books ⟨s, []⟩) (books ⟨s, []⟩) :=
    ⟨⟨fun _ => .inl rfl, fun _ _ hjoin => hjoin, rfl⟩, rfl⟩
  have hend : ∀ w, books w = books ⟨s, []⟩ → ∀ outcome, answersOk outcome = false →
      JoinAnswered (books ⟨s, []⟩) outcome w := fun w hw outcome houtcome =>
    ⟨fun hok => absurd (houtcome.symm.trans hok) (by decide), fun _ => hw ▸ hstart.noTrace⟩
  refine ensures_try (.orFail ⟨rfl, fun _ => trivial⟩) (fun e w₁ h₁ => hend w₁ h₁ _ rfl)
    fun userId w₁ h₁ => ?_
  refine .bindExcept (.mono (resolveTeamId_resolved userId) ?_)
  rintro outcome w₂ ⟨h₂, hresolved⟩
  have hw₂ := h₂.trans h₁
  cases outcome with
  | error status => exact hend w₂ hw₂ _ rfl
  | ok teamId =>
      dsimp only [Prog.Either]
      split
      · exact hend w₂ hw₂ _ rfl
      · split
        · exact hend w₂ hw₂ _ rfl
        · obtain ⟨hlog, htrim⟩ := hresolved teamId rfl
          have hlocked : (withLock .joinCommand (joinLocked userId teamId (Text.trim sandboxId)
              slot).run).Ensures (World.record exec) (fun outcome w' =>
                JoinEnd teamId (books ⟨s, []⟩) outcome (books w')) w₂ := by
            refine ensures_quiet rfl fun _ w₃ h₃ => ?_
            have hclean : Clean (books ⟨s, []⟩) (books w₃) := by
              rw [h₃, hw₂]
              exact hstart
            refine .bind (.mono (joinLocked_joinEnd hclean htrim userId _ slot)
              fun outcome w₄ hjoin => ?_)
            refine ensures_quiet rfl fun _ w₅ h₅ => ?_
            show JoinEnd teamId _ outcome (books w₅)
            rw [h₅]
            exact hjoin
          have hkeep : ∀ (w : OfficialWorld) op input, ResolvedAs w.log teamId →
              ResolvedAs (w.record exec op input).1.log teamId :=
            fun w op input ⟨user, value, hmem, hteam⟩ =>
              ⟨user, value, List.mem_cons_of_mem _ hmem, hteam⟩
          refine .mono (hlocked.frame hkeep hlog) ?_
          rintro outcome w' ⟨hjoin, hlog⟩
          exact ⟨fun hok => ⟨teamId, hlog, hjoin.joined hok⟩, hjoin.failed⟩

/-- A join is all or nothing: when it answers that all is well, the entry of
the team names the one car that a bot of the team has; otherwise the store,
the joins and the captures have nothing new, and nor has the engine, unless
it has failed to despawn a car. -/
theorem join_all_or_nothing (sandboxId : String) (slot : ℤ) (s : OfficialState)
    (inputs : ℕ → Input) :
    JoinAnswered (books ⟨s, []⟩)
      ((joinOfficialSandbox sandboxId slot).run.run (World.record exec) inputs ⟨s, []⟩).2
      ((joinOfficialSandbox sandboxId slot).run.run (World.record exec) inputs ⟨s, []⟩).1 :=
  (joinOfficialSandbox_answered sandboxId slot s).run inputs

end HackArena.Official.SandboxBots
