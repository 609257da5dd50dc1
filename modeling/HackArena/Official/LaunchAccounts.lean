import HackArena.Official.Books

/-!
# The accounts of a launch

A launch goes down the roster and lists every team with how it went. It
counts the teams by how they went, enters the bots that have been started in
the registry, and takes back the cars of the others. The books show that
list, counters, registry, store and engine agree in the end.
-/

namespace HackArena.Official

open Boink HackArena.Runtime HackArena.Services

/-! ## One bot -/

namespace GridBot

/-- What the launch of a bot makes of the books; `cars` are the cars beside
its own. -/
inductive Launched (bot : GridBot) (b : Books) (cars : List EngineCar) :
    TeamOutcome → Books → Prop
  | takenBack {status : StartStatus} (hstatus : status ≠ .started) {despawned : Prop}
      {left : List EngineCar} (hleft : despawned → b.despawned ∧ left = cars) :
      Launched bot b cars (bot.outcome status none)
        { b with cars := b.cars.removeCar bot.publicCarId, left := left, despawned := despawned }
  | entered (containerName : String) (containerId : ℕ) (captures : HashMap String ℕ) :
      Launched bot b cars (bot.outcome .started (some containerId))
        { b with
          bots := b.bots.insert bot.teamId (bot.state containerName containerId)
          cars := b.cars.setActiveBotSlot bot.publicCarId bot.slotIndex
          captures := captures }

variable {bot : GridBot} {w : OfficialWorld} {b : Books} {cars : List EngineCar}

theorem skip_launched (hw : books w = b)
    (hleft : b.left = (.officialRace, bot.engineCarId) :: cars) {status : StartStatus}
    (hstatus : status ≠ .started) : (bot.skip status).Ensures (World.record exec)
      (fun outcome w' => bot.Launched b cars outcome (books w')) w := by
  subst hw
  refine .bind (ensures_despawn_last rfl hleft fun _ w₁ despawned left hdone h₁ => ?_)
  refine ensures_removeCar fun w₂ h₂ => ?_
  rw [h₁] at h₂
  show bot.Launched (books w) cars _ (books w₂)
  rw [h₂]
  exact .takenBack hstatus hdone

theorem enter_launched (hw : books w = b) (containerName : String) (containerId : ℕ) :
    (bot.enter containerName containerId).Ensures (World.record exec)
      (fun outcome w' => bot.Launched b cars outcome (books w')) w := by
  subst hw
  refine ensures_capture fun _ w₁ captures h₁ => ensures_bot fun w₂ h₂ => ensures_car fun w₃ h₃ =>
    ensures_quiet rfl fun _ w₄ h₄ => ensures_quiet rfl fun _ w₅ h₅ => ?_
  show bot.Launched (books w) cars _ (books w₅)
  rw [h₅, h₄, h₃, h₂, h₁]
  exact .entered containerName containerId captures

theorem startContainer_launched (hw : books w = b)
    (hleft : b.left = (.officialRace, bot.engineCarId) :: cars) :
    bot.startContainer.Ensures (World.record exec)
      (fun outcome w' => bot.Launched b cars outcome (books w')) w := by
  unfold startContainer
  split
  · exact skip_launched hw hleft (by decide)
  · refine ensures_part (startBotContainerWithOptions_calls (fun _ => rfl) _ _)
      fun started w₁ h₁ => ?_
    cases started with
    | error err =>
        exact ensures_quiet rfl fun _ w₂ h₂ => skip_launched (h₂.trans (h₁.trans hw)) hleft (by decide)
    | ok containerId => exact enter_launched (h₁.trans hw) _ containerId

theorem start_launched (hw : books w = b)
    (hleft : b.left = (.officialRace, bot.engineCarId) :: cars) :
    bot.start.Ensures (World.record exec)
      (fun outcome w' => bot.Launched b cars outcome (books w')) w := by
  refine ensures_quiet rfl fun placed w₁ h₁ => ?_
  cases placed with
  | error err => exact skip_launched (h₁.trans hw) hleft (by decide)
  | ok _ =>
      refine ensures_part (issueTokens_calls rfl rfl) fun tokens w₂ h₂ => ?_
      cases tokens with
      | error err => exact skip_launched (h₂.trans (h₁.trans hw)) hleft (by decide)
      | ok _ => exact startContainer_launched (h₂.trans (h₁.trans hw)) hleft

end GridBot

/-! ## One team -/

/-- Between two stores one number has been given, and only its record has
been written. -/
structure NumberGiven (s t : RaceRuntimeStore) : Prop where
  next : t.nextPublicCarId = (s.nextPublicCarId + 1) % 2 ^ 64
  others : ∀ carId, carId ≠ s.nextPublicCarId → t.record carId = s.record carId

/-- The car that has been spawned for a team is registered. -/
structure RegisteredAs (s t : RaceRuntimeStore) (engineCarId : ℕ) : Prop
    extends NumberGiven s t where
  target : (t.record s.nextPublicCarId).target = some .officialRace
  engineId : (t.record s.nextPublicCarId).engineId = some engineCarId

/-- What the launch of a team makes of the books. -/
inductive TeamStep (startSlots positionIndex : ℕ) (seenTeams : List String) (teamId : String)
    (b : Books) : TeamOutcome → Books → Prop
  | noCar {outcome : TeamOutcome} (hstatus : outcome.startStatus ≠ .started)
      (hcar : outcome.carId = none) : TeamStep startSlots positionIndex seenTeams teamId b outcome b
  | takenBack {outcome : TeamOutcome} {b' : Books} (hstatus : outcome.startStatus ≠ .started)
      (hcar : outcome.carId = some b.cars.nextPublicCarId) (hcars : NumberGiven b.cars b'.cars)
      (hgone : b'.cars.record b.cars.nextPublicCarId = .empty) (hbots : b'.bots = b.bots)
      (hleft : b'.despawned → b.despawned ∧ b'.left = b.left) :
      TeamStep startSlots positionIndex seenTeams teamId b outcome b'
  | entered {outcome : TeamOutcome} {b' : Books} (bot : TeamOfficialRaceBotState)
      (hstatus : outcome.startStatus = .started) (hcar : outcome.carId = some bot.publicCarId)
      (hnumber : bot.publicCarId = b.cars.nextPublicCarId)
      (hposition : bot.startPositionIndex = positionIndex) (hslots : positionIndex ≤ startSlots)
      (hnew : teamId ∉ seenTeams) (hcars : RegisteredAs b.cars b'.cars bot.engineCarId)
      (hbots : b'.bots = Finmap.insert teamId bot b.bots)
      (hleft : b'.left = (.officialRace, bot.engineCarId) :: b.left)
      (hdespawned : b'.despawned = b.despawned) :
      TeamStep startSlots positionIndex seenTeams teamId b outcome b'

variable {w : OfficialWorld}

theorem NumberGiven.removeCar {s t : RaceRuntimeStore} (h : NumberGiven s t) :
    NumberGiven s (t.removeCar s.nextPublicCarId) :=
  ⟨(nextPublicCarId_removeCar t _).trans h.next, fun carId hne =>
    (record_removeCar_ne t hne).trans (h.others carId hne)⟩

theorem RegisteredAs.setActiveBotSlot {s t : RaceRuntimeStore} {engineCarId : ℕ}
    (h : RegisteredAs s t engineCarId) (slotIndex : ℤ) :
    RegisteredAs s (t.setActiveBotSlot s.nextPublicCarId slotIndex) engineCarId where
  next := (nextPublicCarId_car .official t _ (.setActiveBotSlot slotIndex)).trans h.next
  others carId hne :=
    (record_car_ne .official t hne (.setActiveBotSlot slotIndex)).trans (h.others carId hne)
  target := by
    rw [RaceRuntimeStore.setActiveBotSlot, record_modifyIdentity_self]
    exact h.target
  engineId := by
    rw [RaceRuntimeStore.setActiveBotSlot, record_modifyIdentity_self]
    exact h.engineId

/-- The registration writes the five entries of the car's record. -/
theorem register_registered {α : Type} {post : α → OfficialWorld → Prop}
    {f : Unit → OfficialProg α} {b : Books} (teamId : String) (engineCarId positionIndex : ℕ)
    (hcars : (books w).cars = b.cars.allocatePublicCarId.2)
    (h : ∀ w' cars, RegisteredAs b.cars cars engineCarId → books w' = { books w with cars := cars } →
      (f ()).Ensures (World.record exec) post w') :
    (registerOfficialRaceRuntimeCar teamId b.cars.nextPublicCarId engineCarId positionIndex >>=
      f).Ensures (World.record exec) post w := by
  refine .bind (ensures_insert fun w₁ h₁ => ensures_insert fun w₂ h₂ => ensures_insert fun w₃ h₃ =>
    ensures_insert fun w₄ h₄ => ensures_insert (f := Prog.ret) fun w₅ h₅ => ?_)
  refine h w₅ _ ⟨⟨?_, fun carId hne => ?_⟩, ?_, ?_⟩ (h₅.trans (by rw [h₄, h₃, h₂, h₁]))
  all_goals simp only [hcars]
  · simp [RaceRuntimeStore.allocatePublicCarId]
  · simp [record_insert_ne _ hne]
  · simp [CarEntry.write]
  · simp [CarEntry.write]

theorem launchBot_step {b : Books} (hw : books w = b) {startSlots positionIndex : ℕ}
    {seenTeams : List String} {teamId : String} (slotIndex : ℤ) (submissionId imageRef : String)
    (hslots : positionIndex ≤ startSlots) (hnew : teamId ∉ seenTeams) :
    (launchBot teamId positionIndex slotIndex submissionId imageRef).Ensures (World.record exec)
      (fun outcome w' => TeamStep startSlots positionIndex seenTeams teamId b outcome (books w'))
      w := by
  refine ensures_spawn (fun cars answer => ?_) fun spawned w₁ h₁ => ?_
  · cases answer <;> exact ⟨trivial, rfl⟩
  cases spawned with
  | error err =>
      show TeamStep startSlots positionIndex seenTeams teamId b _ (books w₁)
      rw [h₁, hw]
      exact .noCar (fun hstarted => by cases hstarted) rfl
  | ok engineCarId =>
      refine ensures_allocate fun w₂ h₂ => ?_
      rw [h₁, hw] at h₂
      have hnumber : (books w₁).cars.nextPublicCarId = b.cars.nextPublicCarId := by rw [h₁, hw]
      rw [hnumber]
      refine register_registered teamId engineCarId positionIndex (by rw [h₂])
        fun w₃ cars hregistered h₃ => ?_
      rw [h₂] at h₃
      refine .mono (GridBot.start_launched h₃ rfl) fun outcome w' hlaunched => ?_
      generalize books w' = b' at hlaunched ⊢
      cases hlaunched with
      | takenBack hstatus hleft =>
          exact .takenBack hstatus rfl hregistered.toNumberGiven.removeCar
            (record_removeCar_self _ _) rfl hleft
      | entered containerName containerId captures =>
          exact .entered _ rfl rfl rfl rfl hslots hnew (hregistered.setActiveBotSlot slotIndex) rfl
            rfl rfl

theorem launchTeam_step {b : Books} (hw : books w = b) (startSlots positionIndex : ℕ)
    (seenTeams : List String) (teamId : String) :
    (launchTeam startSlots positionIndex seenTeams teamId).run.Ensures (World.record exec)
      (fun outcome w' => ∀ value, outcome = .ok value →
        TeamStep startSlots positionIndex seenTeams teamId b value (books w')) w := by
  have hnoCar : ∀ w', books w' = b → ∀ status : StartStatus, status ≠ .started →
      TeamStep startSlots positionIndex seenTeams teamId b ⟨status, none, none, none, none⟩
        (books w') := fun w' hw' status hstatus => hw' ▸ .noCar hstatus rfl
  unfold launchTeam
  split
  · intro value hvalue
    cases hvalue
    exact hnoCar w hw _ (by decide)
  · rename_i hslots
    split
    · intro value hvalue
      cases hvalue
      exact hnoCar w hw _ (by decide)
    · rename_i hnew
      refine ensures_try (resolveRunnableSlot_calls (fun _ => rfl) _ _)
        (fun status w' _ value hvalue => by cases hvalue) fun found w₁ h₁ => ?_
      cases found with
      | none =>
          intro value hvalue
          cases hvalue
          exact hnoCar w₁ (h₁.trans hw) _ (by decide)
      | some found =>
          refine .lift (.mono (launchBot_step (h₁.trans hw) _ _ _ (not_lt.mp hslots) hnew) ?_)
          intro outcome w' hstep value hvalue
          cases hvalue
          exact hstep

/-! ## The roster -/

/-- The numbers that the store gives, one after the other. -/
def numberAfter (first : ℕ) : ℕ → ℕ
  | 0 => first
  | k + 1 => (numberAfter first k + 1) % 2 ^ 64

theorem numberAfter_succ (first k : ℕ) : numberAfter first (k + 1) = (first + k + 1) % 2 ^ 64 := by
  induction k with
  | zero => rfl
  | succ k ih =>
      rw [numberAfter, ih]
      omega

/-- A number comes again after `2 ^ 64` others at the earliest. -/
theorem numberAfter_ne {first j k : ℕ} (hjk : j < k) (hk : k < 2 ^ 64) :
    numberAfter first j ≠ numberAfter first k := by
  cases k with
  | zero => omega
  | succ k =>
      cases j with
      | zero =>
          rw [numberAfter_succ, numberAfter]
          omega
      | succ j =>
          rw [numberAfter_succ, numberAfter_succ]
          omega

def startedTeams (teams : List OfficialRaceTeamResultEntry) : List String :=
  (teams.filter fun e => e.outcome.startStatus = .started).map (·.teamId)

/-- The engine's car of the bot that is registered for a team. -/
def botCar (bots : BotRegistry) (teamId : String) : Option EngineCar :=
  (bots.lookup teamId).map fun bot => (.officialRace, bot.engineCarId)

/-- The registry, the store and the engine agree with the list of teams. -/
structure Accounted (startSlots : ℕ) (teams : List OfficialRaceTeamResultEntry) (b : Books) :
    Prop where
  distinct : (startedTeams teams).Nodup
  placed : ∀ e ∈ teams, e.outcome.startStatus = .started → e.rosterIndex ≤ startSlots ∧
    ∃ bot, b.bots.lookup e.teamId = some bot ∧ bot.startPositionIndex = e.rosterIndex ∧
      e.outcome.carId = some bot.publicCarId
  registered : ∀ teamId, teamId ∈ b.bots ↔ teamId ∈ startedTeams teams
  onTrack : ∀ carId, (b.cars.record carId).target = some .officialRace ↔
    ∃ teamId bot, b.bots.lookup teamId = some bot ∧ bot.publicCarId = carId
  engineId : ∀ teamId bot, b.bots.lookup teamId = some bot →
    (b.cars.record bot.publicCarId).engineId = some bot.engineCarId
  takenBack : ∀ e ∈ teams, e.outcome.startStatus ≠ .started →
    ∀ carId, e.outcome.carId = some carId → b.cars.record carId = .empty
  left : b.despawned → b.left = (startedTeams teams).reverse.filterMap (botCar b.bots)

/-- The accounts up to some place in the roster, with the numbers that the
cars have got. -/
structure Ledger (startSlots first : ℕ) (teams : List OfficialRaceTeamResultEntry) (b : Books) :
    Prop extends Accounted startSlots teams b where
  numbers : teams.filterMap (·.outcome.carId) =
    (List.range (teams.filterMap (·.outcome.carId)).length).map (numberAfter first)
  next : b.cars.nextPublicCarId = numberAfter first (teams.filterMap (·.outcome.carId)).length

section Ledger

variable {startSlots first : ℕ} {teams : List OfficialRaceTeamResultEntry} {b b' : Books}
  {teamId : String} {outcome : TeamOutcome}

theorem mem_startedTeams : teamId ∈ startedTeams teams ↔
    ∃ e ∈ teams, e.outcome.startStatus = .started ∧ e.teamId = teamId := by
  simp [startedTeams, and_assoc]

theorem startedTeams_append (e : OfficialRaceTeamResultEntry) :
    startedTeams (teams ++ [e]) =
      startedTeams teams ++ if e.outcome.startStatus = .started then [e.teamId] else [] := by
  by_cases hstarted : e.outcome.startStatus = .started <;> simp [startedTeams, hstarted]

namespace Ledger

theorem carId_ne_next (h : Ledger startSlots first teams b) (hlength : teams.length < 2 ^ 64)
    {e : OfficialRaceTeamResultEntry} (he : e ∈ teams) {carId : ℕ}
    (hcar : e.outcome.carId = some carId) : carId ≠ b.cars.nextPublicCarId := by
  have hmem : carId ∈ teams.filterMap (·.outcome.carId) := List.mem_filterMap.mpr ⟨e, he, hcar⟩
  have hle := List.length_filterMap_le (fun e : OfficialRaceTeamResultEntry => e.outcome.carId) teams
  rw [h.numbers] at hmem
  obtain ⟨j, hj, rfl⟩ := List.mem_map.mp hmem
  rw [h.next]
  exact numberAfter_ne (List.mem_range.mp hj) (by omega)

/-- The number of a registered bot has been given before. -/
theorem bot_ne_next (h : Ledger startSlots first teams b) (hlength : teams.length < 2 ^ 64)
    {bot : TeamOfficialRaceBotState} (hbot : b.bots.lookup teamId = some bot) :
    bot.publicCarId ≠ b.cars.nextPublicCarId := by
  have hstarted := (h.registered teamId).mp (Finmap.mem_of_lookup_eq_some hbot)
  obtain ⟨e, he, hstatus, rfl⟩ := mem_startedTeams.mp hstarted
  obtain ⟨-, bot', hlookup, -, hcar⟩ := h.placed e he hstatus
  obtain rfl := Option.some.inj (hlookup.symm.trans hbot)
  exact h.carId_ne_next hlength he hcar

/-- The numbers after one more number has been given. -/
theorem numbers_given (h : Ledger startSlots first teams b) (hcars : NumberGiven b.cars b'.cars)
    {e : OfficialRaceTeamResultEntry} (hcar : e.outcome.carId = some b.cars.nextPublicCarId) :
    (teams ++ [e]).filterMap (·.outcome.carId) =
        (List.range ((teams ++ [e]).filterMap (·.outcome.carId)).length).map (numberAfter first) ∧
      b'.cars.nextPublicCarId =
        numberAfter first ((teams ++ [e]).filterMap (·.outcome.carId)).length := by
  have hlist : (teams ++ [e]).filterMap (·.outcome.carId) =
      teams.filterMap (·.outcome.carId) ++ [b.cars.nextPublicCarId] := by
    rw [List.filterMap_append, List.filterMap_cons, hcar, List.filterMap_nil]
  rw [hlist, List.length_append, List.length_singleton]
  constructor
  · rw [List.range_succ, List.map_append, ← h.numbers, h.next]
    rfl
  · rw [hcars.next, h.next]
    rfl

/-- A team without a car changes nothing but the list. -/
theorem noCar (h : Ledger startSlots first teams b) {e : OfficialRaceTeamResultEntry}
    (hstatus : e.outcome.startStatus ≠ .started) (hcar : e.outcome.carId = none) :
    Ledger startSlots first (teams ++ [e]) b := by
  have hstarted : startedTeams (teams ++ [e]) = startedTeams teams := by
    rw [startedTeams_append, if_neg hstatus, List.append_nil]
  have hlist : (teams ++ [e]).filterMap (·.outcome.carId) =
      teams.filterMap (·.outcome.carId) := by
    rw [List.filterMap_append, List.filterMap_cons, hcar, List.filterMap_nil, List.append_nil]
  refine ⟨⟨hstarted ▸ h.distinct, fun e' he' hstatus' => ?_, hstarted ▸ h.registered, h.onTrack,
    h.engineId, fun e' he' hstatus' carId hcarId => ?_, hstarted ▸ h.left⟩, ?_, ?_⟩
  · rcases List.mem_append.mp he' with he' | he'
    · exact h.placed e' he' hstatus'
    · rw [List.mem_singleton.mp he'] at hstatus'
      exact absurd hstatus' hstatus
  · rcases List.mem_append.mp he' with he' | he'
    · exact h.takenBack e' he' hstatus' carId hcarId
    · rw [List.mem_singleton.mp he', hcar] at hcarId
      cases hcarId
  · rw [hlist]
    exact h.numbers
  · rw [hlist]
    exact h.next

/-- A car that is taken back leaves a number that is no longer in use. -/
theorem takenBack_step (h : Ledger startSlots first teams b) (hlength : teams.length < 2 ^ 64)
    {e : OfficialRaceTeamResultEntry} (hstatus : e.outcome.startStatus ≠ .started)
    (hcar : e.outcome.carId = some b.cars.nextPublicCarId) (hcars : NumberGiven b.cars b'.cars)
    (hgone : b'.cars.record b.cars.nextPublicCarId = .empty) (hbots : b'.bots = b.bots)
    (hleft : b'.despawned → b.despawned ∧ b'.left = b.left) :
    Ledger startSlots first (teams ++ [e]) b' := by
  have hstarted : startedTeams (teams ++ [e]) = startedTeams teams := by
    rw [startedTeams_append, if_neg hstatus, List.append_nil]
  obtain ⟨hnumbers, hnext⟩ := h.numbers_given hcars hcar
  refine ⟨⟨hstarted ▸ h.distinct, fun e' he' hstatus' => ?_, hstarted ▸ hbots ▸ h.registered,
    fun carId => ?_, fun teamId bot hbot => ?_, fun e' he' hstatus' carId hcarId => ?_,
    fun hdone => ?_⟩, hnumbers, hnext⟩
  · rw [hbots]
    rcases List.mem_append.mp he' with he' | he'
    · exact h.placed e' he' hstatus'
    · rw [List.mem_singleton.mp he'] at hstatus'
      exact absurd hstatus' hstatus
  · rw [hbots]
    by_cases hsame : carId = b.cars.nextPublicCarId
    · rw [hsame, hgone]
      refine iff_of_false (fun htarget => by cases htarget) ?_
      rintro ⟨teamId, bot, hbot, hnumber⟩
      exact h.bot_ne_next hlength hbot hnumber
    · rw [hcars.others carId hsame]
      exact h.onTrack carId
  · rw [hbots] at hbot
    rw [hcars.others _ (h.bot_ne_next hlength hbot)]
    exact h.engineId teamId bot hbot
  · rcases List.mem_append.mp he' with he' | he'
    · rw [hcars.others carId (h.carId_ne_next hlength he' hcarId)]
      exact h.takenBack e' he' hstatus' carId hcarId
    · rw [List.mem_singleton.mp he', hcar] at hcarId
      obtain rfl := Option.some.inj hcarId
      exact hgone
  · obtain ⟨hbefore, hsame⟩ := hleft hdone
    rw [hsame, hbots, hstarted]
    exact h.left hbefore

/-- A bot that is entered adds its team to the registry. -/
theorem entered (h : Ledger startSlots first teams b) (hlength : teams.length < 2 ^ 64)
    {e : OfficialRaceTeamResultEntry} (bot : TeamOfficialRaceBotState)
    (hstatus : e.outcome.startStatus = .started) (hcar : e.outcome.carId = some bot.publicCarId)
    (hnumber : bot.publicCarId = b.cars.nextPublicCarId)
    (hposition : bot.startPositionIndex = e.rosterIndex) (hslots : e.rosterIndex ≤ startSlots)
    (hnew : e.teamId ∉ teams.map (·.teamId))
    (hcars : RegisteredAs b.cars b'.cars bot.engineCarId)
    (hbots : b'.bots = Finmap.insert e.teamId bot b.bots)
    (hleft : b'.left = (.officialRace, bot.engineCarId) :: b.left)
    (hdespawned : b'.despawned = b.despawned) :
    Ledger startSlots first (teams ++ [e]) b' := by
  have hstarted : startedTeams (teams ++ [e]) = startedTeams teams ++ [e.teamId] := by
    rw [startedTeams_append, if_pos hstatus]
  have hfresh : e.teamId ∉ startedTeams teams := by
    intro hmem
    obtain ⟨e', he', -, hteam⟩ := mem_startedTeams.mp hmem
    exact hnew (List.mem_map.mpr ⟨e', he', hteam⟩)
  have hlookup : ∀ teamId, b'.bots.lookup teamId =
      if teamId = e.teamId then some bot else b.bots.lookup teamId := by
    intro teamId
    rw [hbots]
    exact HashMap.lookup_insert_eq b.bots e.teamId teamId bot
  have hother : ∀ teamId ∈ startedTeams teams, teamId ≠ e.teamId :=
    fun teamId hmem hsame => hfresh (hsame ▸ hmem)
  obtain ⟨hnumbers, hnext⟩ := h.numbers_given hcars.toNumberGiven (hcar.trans (by rw [hnumber]))
  refine ⟨⟨?_, fun e' he' hstatus' => ?_, fun teamId => ?_, fun carId => ?_,
    fun teamId bot' hbot' => ?_, fun e' he' hstatus' carId hcarId => ?_, fun hdone => ?_⟩,
    hnumbers, hnext⟩
  · rw [hstarted]
    exact List.nodup_append.mpr ⟨h.distinct, List.nodup_singleton _, fun t ht t' ht' heq =>
      hother t ht (heq.trans (List.mem_singleton.mp ht'))⟩
  · rcases List.mem_append.mp he' with he' | he'
    · obtain ⟨hbound, bot', hbot', hrest⟩ := h.placed e' he' hstatus'
      have hne := hother e'.teamId (mem_startedTeams.mpr ⟨e', he', hstatus', rfl⟩)
      exact ⟨hbound, bot', by rw [hlookup, if_neg hne, hbot'], hrest⟩
    · obtain rfl := List.mem_singleton.mp he'
      exact ⟨hslots, bot, by rw [hlookup, if_pos rfl], hposition, hcar⟩
  · rw [hbots, Finmap.mem_insert, h.registered, hstarted, List.mem_append, List.mem_singleton,
      or_comm]
  · by_cases hsame : carId = b.cars.nextPublicCarId
    · rw [hsame]
      exact iff_of_true hcars.target ⟨e.teamId, bot, by rw [hlookup, if_pos rfl], hnumber⟩
    · rw [hcars.others carId hsame, h.onTrack]
      constructor
      · rintro ⟨teamId, bot', hbot', hcarId⟩
        have hne := hother teamId ((h.registered teamId).mp (Finmap.mem_of_lookup_eq_some hbot'))
        exact ⟨teamId, bot', by rw [hlookup, if_neg hne, hbot'], hcarId⟩
      · rintro ⟨teamId, bot', hbot', hcarId⟩
        rw [hlookup] at hbot'
        split at hbot'
        · obtain rfl := Option.some.inj hbot'
          exact absurd (hcarId.symm.trans hnumber) hsame
        · exact ⟨teamId, bot', hbot', hcarId⟩
  · rw [hlookup] at hbot'
    split at hbot'
    · obtain rfl := Option.some.inj hbot'
      rw [hnumber]
      exact hcars.engineId
    · rw [hcars.others _ (h.bot_ne_next hlength hbot')]
      exact h.engineId teamId bot' hbot'
  · rcases List.mem_append.mp he' with he' | he'
    · rw [hcars.others carId (h.carId_ne_next hlength he' hcarId)]
      exact h.takenBack e' he' hstatus' carId hcarId
    · rw [List.mem_singleton.mp he'] at hstatus'
      exact absurd hstatus hstatus'
  · have hsame : (startedTeams teams).reverse.filterMap (botCar b'.bots) =
        (startedTeams teams).reverse.filterMap (botCar b.bots) :=
      List.filterMap_congr fun teamId hmem => by
        rw [botCar, hlookup, if_neg (hother teamId (List.mem_reverse.mp hmem)), botCar]
    have hown : botCar b'.bots e.teamId = some (.officialRace, bot.engineCarId) := by
      rw [botCar, hlookup, if_pos rfl, Option.map_some]
    rw [hleft, hstarted, List.reverse_append, List.reverse_singleton, List.singleton_append,
      List.filterMap_cons, hown, hsame, h.left (hdespawned ▸ hdone)]

theorem step (h : Ledger startSlots first teams b) (hlength : teams.length < 2 ^ 64)
    {positionIndex : ℕ} {seenTeams : List String}
    (hseen : ∀ t, t ∈ seenTeams ↔ t ∈ teams.map (·.teamId))
    (hstep : TeamStep startSlots positionIndex seenTeams teamId b outcome b') :
    Ledger startSlots first (teams ++ [⟨teamId, positionIndex, outcome⟩]) b' := by
  cases hstep with
  | noCar hstatus hcar => exact h.noCar hstatus hcar
  | takenBack hstatus hcar hcars hgone hbots hleft =>
      exact h.takenBack_step hlength hstatus hcar hcars hgone hbots hleft
  | entered bot hstatus hcar hnumber hposition hslots hnew hcars hbots hleft hdespawned =>
      exact h.entered hlength bot hstatus hcar hnumber hposition hslots
        (fun hmem => hnew ((hseen teamId).mpr hmem)) hcars hbots hleft hdespawned

end Ledger

end Ledger

/-! ## The list and the counters -/

def OfficialRaceStartStats.of (s : OfficialRaceStartStats) : StartStatus → ℕ
  | .started => s.started
  | .skippedGridOverflow => s.skippedGridOverflow
  | .skippedDuplicateTeam => s.skippedDuplicateTeam
  | .skippedMissingSubmission => s.skippedMissingSubmission
  | .skippedRuntimeError => s.skippedRuntimeError
  | .skippedTokenError => s.skippedTokenError
  | .skippedContainerError => s.skippedContainerError

/-- The seven counters together. -/
def OfficialRaceStartStats.sum (s : OfficialRaceStartStats) : ℕ :=
  s.started + s.skippedGridOverflow + s.skippedDuplicateTeam + s.skippedMissingSubmission +
    s.skippedRuntimeError + s.skippedTokenError + s.skippedContainerError

/-- The list follows the roster, and the counters follow the list. -/
structure Listed (teamIds : List String) (result : OfficialRaceLaunchResult) : Prop where
  teams : result.teams.map (·.teamId) = teamIds
  rosterIndex : result.teams.map (·.rosterIndex) = List.range' 1 teamIds.length
  total : result.stats.totalListed = teamIds.length
  sum : result.stats.sum = result.stats.totalListed
  counted : ∀ status, result.stats.of status =
    result.teams.countP fun e => e.outcome.startStatus = status

theorem OfficialRaceStartStats.of_count (s : OfficialRaceStartStats) (status other : StartStatus) :
    (s.count status).of other = s.of other + if status = other then 1 else 0 := by
  cases status <;> cases other <;> rfl

theorem OfficialRaceStartStats.sum_count (s : OfficialRaceStartStats) (status : StartStatus) :
    (s.count status).sum = s.sum + 1 := by
  cases status <;> simp only [OfficialRaceStartStats.count, OfficialRaceStartStats.sum] <;> omega

theorem OfficialRaceStartStats.totalListed_count (s : OfficialRaceStartStats)
    (status : StartStatus) : (s.count status).totalListed = s.totalListed + 1 := by
  cases status <;> rfl

theorem listed_nil : Listed [] ⟨.default, []⟩ :=
  ⟨rfl, rfl, rfl, rfl, fun status => by cases status <;> rfl⟩

theorem Listed.length {teamIds : List String} {result : OfficialRaceLaunchResult}
    (h : Listed teamIds result) : result.teams.length = teamIds.length := by
  rw [← h.teams, List.length_map]

theorem Listed.step {teamIds : List String} {result : OfficialRaceLaunchResult}
    (h : Listed teamIds result) (teamId : String) (outcome : TeamOutcome) :
    Listed (teamIds ++ [teamId]) ⟨result.stats.count outcome.startStatus,
      result.teams ++ [⟨teamId, teamIds.length + 1, outcome⟩]⟩ := by
  refine ⟨?_, ?_, ?_, ?_, fun status => ?_⟩
  · rw [List.map_append, h.teams]
    rfl
  · rw [List.map_append, h.rosterIndex, List.length_append, List.length_singleton,
      List.range'_concat]
    simp [Nat.add_comm]
  · rw [OfficialRaceStartStats.totalListed_count, h.total, List.length_append,
      List.length_singleton]
  · rw [OfficialRaceStartStats.sum_count, OfficialRaceStartStats.totalListed_count, h.sum]
  · rw [OfficialRaceStartStats.of_count, h.counted, List.countP_append, List.countP_singleton]
    simp

/-! ## The run over the roster -/

theorem launchTeams_accounted {startSlots first : ℕ} {before seenTeams : List String}
    {result : OfficialRaceLaunchResult} {w : OfficialWorld} (teamIds : List String)
    (hlisted : Listed before result) (hledger : Ledger startSlots first result.teams (books w))
    (hseen : ∀ t, t ∈ seenTeams ↔ t ∈ before) :
    (launchTeams startSlots before.length seenTeams teamIds result).run.Ensures (World.record exec)
      (fun outcome w' => ∀ value, outcome = .ok value →
        Listed (before ++ teamIds) value ∧
          Ledger startSlots first value.teams (books w')) w := by
  induction teamIds generalizing before seenTeams result w with
  | nil =>
      intro value hvalue
      cases hvalue
      rw [List.append_nil]
      exact ⟨hlisted, hledger⟩
  | cons teamId teamIds ih =>
      unfold launchTeams
      split
      · exact fun value hvalue => by cases hvalue
      · rename_i hindex
        have hlength : result.teams.length < 2 ^ 64 := by
          rw [hlisted.length]
          unfold u32Max at hindex
          omega
        refine .bindExcept (.mono (launchTeam_step rfl ..) fun outcome w' hstep => ?_)
        cases outcome with
        | error status => exact fun value hvalue => by cases hvalue
        | ok outcome =>
            have hnext := hledger.step hlength (fun t => by rw [hseen, hlisted.teams])
              (hstep outcome rfl)
            have hseen' : ∀ t, t ∈ teamId :: seenTeams ↔ t ∈ before ++ [teamId] := by
              intro t
              simp [hseen, or_comm]
            have hrest := ih (hlisted.step teamId outcome) hnext hseen'
            rw [List.length_append, List.length_singleton, List.append_assoc] at hrest
            exact hrest

/-! ## The clean-up -/

/-- The bots of the teams have been removed. -/
structure BotsRemoved (teamIds : List String) (b b' : Books) : Prop where
  left : b'.left = []
  bots : ∀ teamId ∈ b'.bots, teamId ∈ b.bots ∧ teamId ∉ teamIds

theorem cleanupBots_removed (bots : List (String × TeamOfficialRaceBotState)) {w : OfficialWorld}
    (hleft : (books w).left = []) : (cleanupBots bots).Ensures (World.record exec)
      (fun _ w' => BotsRemoved (bots.map Prod.fst) (books w) (books w')) w := by
  induction bots generalizing w with
  | nil => exact ⟨hleft, fun teamId hmem => ⟨hmem, List.not_mem_nil⟩⟩
  | cons bot bots ih =>
      refine .bind (ensures_bot fun w₁ h₁ => ensures_quiet rfl fun _ w₂ h₂ =>
        ensures_despawn_none rfl (by rw [h₂, h₁]; exact hleft) fun _ w₃ h₃ => ensures_car fun w₄ h₄ =>
        ensures_removeCar (f := Prog.ret) fun w₅ h₅ => ?_)
      have hbots : (books w₅).bots = Finmap.erase bot.1 (books w).bots := by
        rw [h₅, h₄, h₃, h₂, h₁]
        rfl
      show (cleanupBots bots).Ensures (World.record exec) _ w₅
      refine .mono (ih (by rw [h₅, h₄, h₃, h₂, h₁]; exact hleft)) fun _ w' hrest => ?_
      refine ⟨hrest.left, fun teamId hmem => ?_⟩
      obtain ⟨hbefore, hother⟩ := hrest.bots teamId hmem
      rw [hbots, Finmap.mem_erase] at hbefore
      exact ⟨hbefore.2, by simpa [hbefore.1] using hother⟩

/-- The cars have been removed, and no car has got to the track. -/
structure CarsRemoved (carIds : List ℕ) (b b' : Books) : Prop where
  left : b'.left = []
  bots : b'.bots = b.bots
  onTrack : ∀ carId, (b'.cars.record carId).target = some .officialRace →
    (b.cars.record carId).target = some .officialRace ∧ carId ∉ carIds

theorem cleanupStaleCar_removed (carId : ℕ) {w : OfficialWorld} (hleft : (books w).left = []) :
    (cleanupStaleCar carId).Ensures (World.record exec)
      (fun _ w' => CarsRemoved [carId] (books w) (books w')) w := by
  have hremove : ∀ w₁, books w₁ = books w →
      ((Op.store (.car carId .clearActiveBotSlot)).call >>= fun _ =>
        (Op.store (.removeCar carId)).call).Ensures (World.record exec)
          (fun _ w' => CarsRemoved [carId] (books w) (books w')) w₁ := by
    intro w₁ h₁
    refine ensures_car fun w₂ h₂ => ensures_removeCar (f := Prog.ret) fun w₃ h₃ => ?_
    show CarsRemoved [carId] (books w) (books w₃)
    rw [h₃, h₂, h₁]
    refine ⟨hleft, rfl, fun other htarget => ?_⟩
    dsimp only at htarget
    by_cases hsame : other = carId
    · rw [hsame, record_removeCar_self] at htarget
      cases htarget
    · rw [record_removeCar_ne _ hsame, record_car_ne _ _ hsame] at htarget
      exact ⟨htarget, fun hmem => hsame (List.mem_singleton.mp hmem)⟩
  refine ensures_quiet rfl fun _ w₁ h₁ => ensures_quiet rfl fun engineCarId w₂ h₂ => .bind ?_
  have hw₂ : books w₂ = books w := h₂.trans h₁
  cases engineCarId with
  | none => exact hremove w₂ hw₂
  | some engineCarId =>
      exact ensures_despawn_none rfl (by rw [hw₂]; exact hleft) fun _ w₃ h₃ =>
        hremove w₃ (h₃.trans hw₂)

theorem cleanupStaleCars_removed (carIds : List ℕ) {w : OfficialWorld}
    (hleft : (books w).left = []) : (cleanupStaleCars carIds).Ensures (World.record exec)
      (fun _ w' => CarsRemoved carIds (books w) (books w')) w := by
  induction carIds generalizing w with
  | nil => exact ⟨hleft, rfl, fun carId htarget => ⟨htarget, List.not_mem_nil⟩⟩
  | cons carId carIds ih =>
      refine .bind (.mono (cleanupStaleCar_removed carId hleft) fun _ w₁ hfirst => ?_)
      refine .mono (ih hfirst.left) fun _ w' hrest => ?_
      refine ⟨hrest.left, hrest.bots.trans hfirst.bots, fun other htarget => ?_⟩
      obtain ⟨hmiddle, hother⟩ := hrest.onTrack other htarget
      obtain ⟨hbefore, hne⟩ := hfirst.onTrack other hmiddle
      exact ⟨hbefore, fun hmem => (List.mem_cons.mp hmem).elim
        (fun heq => hne (List.mem_singleton.mpr heq)) hother⟩

theorem mem_officialRaceCars {s : RaceStore} {carId : ℕ} :
    carId ∈ s.officialRaceCars ↔ (s.cars.record carId).target = some .officialRace := by
  simp [RaceStore.officialRaceCars, RaceRuntimeStore.record, HashMap.mem_toList]

/-- After the clean-up no bot is registered and no car is on the track. -/
theorem cleanup_ledger {w : OfficialWorld} (hleft : (books w).left = []) :
    cleanupOfficialRaceSessionLocked.Ensures (World.record exec) (fun _ w' =>
      ∀ startSlots, Ledger startSlots (books w').cars.nextPublicCarId [] (books w')) w := by
  refine ensures_quiet rfl fun _ w₁ h₁ => ensures_bot fun w₂ h₂ => ?_
  have hleft₂ : (books w₂).left = [] := by rw [h₂, h₁]; exact hleft
  refine .bind (.mono (cleanupBots_removed _ hleft₂) fun _ w₃ hbots => ?_)
  refine .call fun input => ?_
  have hw₄ : books (w₃.record exec (.store .officialRaceCars) input).1 = books w₃ :=
    books_record_quiet rfl w₃ input
  refine .mono (cleanupStaleCars_removed _ (by rw [hw₄]; exact hbots.left)) fun _ w' hcars => ?_
  rw [hw₄] at hcars
  have hempty : (books w').bots = ∅ := by
    refine Finmap.ext_lookup fun teamId => ?_
    rw [Finmap.lookup_empty, Finmap.lookup_eq_none, hcars.bots]
    intro hmem
    obtain ⟨hbefore, hother⟩ := hbots.bots teamId hmem
    have hsame : (books w₂).bots = (books w₁).bots := by rw [h₂]; rfl
    rw [hsame] at hbefore
    obtain ⟨bot, hbot⟩ := Finmap.mem_iff.mp hbefore
    exact hother (List.mem_map.mpr ⟨(teamId, bot), HashMap.mem_toList.mpr hbot, rfl⟩)
  have hnoBot : ∀ teamId bot, (books w').bots.lookup teamId ≠ some bot := by
    intro teamId bot hbot
    rw [hempty, Finmap.lookup_empty] at hbot
    cases hbot
  intro startSlots
  refine ⟨⟨List.nodup_nil, fun e he => (by cases he), fun teamId => ?_, fun carId => ?_,
    fun teamId bot hbot => absurd hbot (hnoBot teamId bot), fun e he => (by cases he),
    fun _ => hcars.left⟩, rfl, rfl⟩
  · rw [hempty]
    exact iff_of_false Finmap.notMem_empty List.not_mem_nil
  · refine iff_of_false (fun htarget => ?_) ?_
    · obtain ⟨hbefore, hother⟩ := hcars.onTrack carId htarget
      exact hother (mem_officialRaceCars.mpr hbefore)
    · rintro ⟨teamId, bot, hbot, -⟩
      exact hnoBot teamId bot hbot

/-! ## The launch -/

/-- The engine has given the number of start slots. -/
def SlotsCounted (startSlots : ℕ) (log : OfficialLog) : Prop :=
  (⟨0, .engine (.getNumberOfStartPos .officialRace), .ok startSlots⟩ : Entry Op Op.Answer) ∈ log

/-- How a launch that succeeds ends. -/
def LaunchDone (teamIds : List String) (w : OfficialWorld) (result : OfficialRaceLaunchResult) :
    Prop :=
  Listed teamIds result ∧
    ∃ startSlots, SlotsCounted startSlots w.log ∧ Accounted startSlots result.teams (books w)

theorem launch_done (raceConfig : RaceConfigRecord) (teamIds : List String)
    (ghostModeSettings : Option GhostModeSettings) (s : OfficialState) :
    (launchOfficialRaceSessionLocked raceConfig teamIds ghostModeSettings).run.Ensures
      (World.record exec) (fun outcome w => ∀ result, outcome = .ok result →
        LaunchDone teamIds w result) ⟨s, []⟩ := by
  refine .bindExcept (.lift (.mono (cleanup_ledger rfl) fun _ w₁ hledger => ?_))
  refine ensures_try (.orFail ⟨rfl, fun _ => trivial⟩) (fun e w' _ result hresult => by cases hresult)
    fun runtimeBefore w₂ h₂ => ?_
  refine ensures_try (.orFail ⟨rfl, fun _ => trivial⟩) (fun e w' _ result hresult => by cases hresult)
    fun _ w₃ h₃ => ?_
  refine .bindExcept (.orFail fun input => ?_)
  have hbooks : books (w₃.record exec (.engine (.getNumberOfStartPos .officialRace)) input).1 =
      books w₁ := (books_record_quiet rfl w₃ input).trans (h₃.trans h₂)
  cases hanswer : (w₃.record exec (.engine (.getNumberOfStartPos .officialRace)) input).2 with
  | error err => exact fun result hresult => by cases hresult
  | ok startSlots =>
      have hcounted : SlotsCounted startSlots
          (w₃.record exec (.engine (.getNumberOfStartPos .officialRace)) input).1.log := by
        rw [SlotsCounted, ← hanswer]
        exact List.mem_cons_self
      show (if startSlots = 0 then throw _ else launchTeams startSlots 0 [] teamIds
        ⟨.default, []⟩ : StatusProg OfficialRaceLaunchResult).run.Ensures _ _ _
      split
      · exact fun result hresult => by cases hresult
      · have hteams := launchTeams_accounted teamIds listed_nil (hbooks ▸ hledger startSlots)
          (fun _ => Iff.rfl)
        refine .mono (hteams.frame (I := fun w => SlotsCounted startSlots w.log)
          (fun _ _ _ => List.mem_cons_of_mem _) hcounted) ?_
        intro outcome w' hboth result hresult
        obtain ⟨hlisted, hfinal⟩ := hboth.1 result hresult
        exact ⟨hlisted, startSlots, hboth.2, hfinal.toAccounted⟩

/-- A launch that succeeds lists every team of the roster once and in order,
counts each of them once, and has exactly the started teams in the registry,
each with a car of its own on the start position of its place in the roster.
The cars of the other teams are gone from the store, and from the engine too
unless a despawn has failed. -/
theorem launch_accounted (raceConfig : RaceConfigRecord) (teamIds : List String)
    (ghostModeSettings : Option GhostModeSettings) (s : OfficialState) (inputs : ℕ → Input)
    (result : OfficialRaceLaunchResult)
    (hresult : ((launchOfficialRaceSessionLocked raceConfig teamIds ghostModeSettings).run.run
      (World.record exec) inputs ⟨s, []⟩).2 = .ok result) :
    LaunchDone teamIds ((launchOfficialRaceSessionLocked raceConfig teamIds
      ghostModeSettings).run.run (World.record exec) inputs ⟨s, []⟩).1 result :=
  (launch_done raceConfig teamIds ghostModeSettings s).run inputs result hresult

namespace SmallLaunch

/-- Two teams have a submission. -/
def repo : SubmissionRepo where
  submissions := [⟨"1", "a", .succeeded, some "image-1", "path-1"⟩,
    ⟨"2", "b", .succeeded, some "image-2", "path-2"⟩]
  teamSubmissionSlots := Finmap.insert ("a", 1) (some "1") (Finmap.singleton ("b", 1) (some "2"))
  teamSelectedSlots := ∅

def before : OfficialState :=
  { OfficialState.initial ⟨0, .none, "m", none, [], .noon, []⟩ with repo := repo }

/-- The map has four start slots, and the car of the second team cannot be
placed. -/
def inputs (n : ℕ) : Input :=
  { Input.works with number := if n = 5 then 4 else n, fails := n = 33 }

def launch : OfficialWorld × Except Status OfficialRaceLaunchResult :=
  (launchOfficialRaceSessionLocked ⟨"r", "race", "m", 60, .noon⟩ ["a", "a", "b", "c", "d"]
    none).run.run (World.record exec) inputs ⟨before, []⟩

def statuses : Except Status OfficialRaceLaunchResult → List StartStatus
  | .error _ => []
  | .ok result => result.teams.map (·.outcome.startStatus)

theorem small_launch_accounted : ∃ result, launch.2 = .ok result ∧
    result.teams.map (·.outcome.startStatus) = [.started, .skippedDuplicateTeam,
      .skippedRuntimeError, .skippedMissingSubmission, .skippedGridOverflow] ∧
    LaunchDone ["a", "a", "b", "c", "d"] launch.1 result := by
  have hstatuses : statuses launch.2 = [.started, .skippedDuplicateTeam, .skippedRuntimeError,
      .skippedMissingSubmission, .skippedGridOverflow] := by decide +kernel
  cases hlaunch : launch.2 with
  | error status =>
      rw [hlaunch] at hstatuses
      cases hstatuses
  | ok result =>
      rw [hlaunch] at hstatuses
      exact ⟨result, rfl, hstatuses, launch_accounted _ _ _ _ inputs result hlaunch⟩

end SmallLaunch

end HackArena.Official
