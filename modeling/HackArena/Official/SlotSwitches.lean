import HackArena.Official.Books
import HackArena.Official.SandboxBots

/-!
# Slot switches that fail

Two services switch the bot of a team to another slot while its car stands
in the pit. Both mark the entry of the team as being switched before they
start the container, and the car as long as the switch takes. What of it a
switch that fails leaves behind is compared here.
-/

namespace HackArena.Official

open Boink HackArena.Runtime HackArena.Services

inductive SwitchService where
  | race | sandbox
  deriving DecidableEq, Repr

def isError {ε α : Type} : Except ε α → Bool
  | .error _ => true
  | .ok _ => false

namespace SwitchService

/-- `try_apply_pending_selected_slot_for_team` of the service. The answer is
whether it has failed. -/
def trySwitch : SwitchService → String → OfficialProg Bool
  | .race, teamId => do
      let result ← tryApplyPendingSelectedSlotForTeam teamId
      pure (isError result)
  | .sandbox, teamId => do
      let result ← SandboxBots.tryApplyPendingSelectedSlotForTeam teamId
      pure (isError result)

abbrev Entry : SwitchService → Type
  | .race => TeamOfficialRaceBotState
  | .sandbox => TeamSandboxJoinState

def lookup (bots : BotRegistry) (joins : JoinRegistry) (teamId : String) :
    (service : SwitchService) → Option service.Entry
  | .race => bots.lookup teamId
  | .sandbox => joins.lookup teamId

/-- The entry of a team in the registry of the service. -/
def entry (service : SwitchService) (s : OfficialState) (teamId : String) : Option service.Entry :=
  service.lookup s.bots s.joins teamId

/-- The car of a team's bot. -/
def car : SwitchService → OfficialState → String → Option ℕ
  | .race, s, teamId => (s.bots.lookup teamId).map (·.publicCarId)
  | .sandbox, s, teamId => (s.joins.lookup teamId).map (·.publicCarId)

end SwitchService

/-- The team has the same entry as before, and its car is not marked
otherwise. -/
structure SwitchUndone (service : SwitchService) (teamId : String) (s t : OfficialState) :
    Prop where
  entry : service.entry t teamId = service.entry s teamId
  flag : ∀ carId, service.car s teamId = some carId →
    t.store.cars.isBotSwitchInProgress carId = s.store.cars.isBotSwitchInProgress carId

def beginsSwitch : Op → Bool
  | .store (.car _ (.setBotSwitchInProgress true)) => true
  | _ => false

def dockerFails : (op : Op) → op.Answer → Bool
  | .docker (.rm _), answer | .docker (.pull _), answer => isError answer
  | .docker (.run ..), answer => isError answer
  | _, _ => false

/-- The container of a switch has not been started. -/
def dockerFailed (log : OfficialLog) : Bool := log.any fun e => dockerFails e.op e.answer

def switchBegun (log : OfficialLog) : Bool := log.any fun e => beginsSwitch e.op

/-- The failures that leave nothing behind: the car is not marked already
when the switch begins, and the official race has not come to docker, unless
the entry already has the mark that it would get. -/
structure LeavesNoMark (service : SwitchService) (teamId : String) (s : OfficialState)
    (log : OfficialLog) : Prop where
  flag : switchBegun log = true → ∀ carId, service.car s teamId = some carId →
    s.store.cars.isBotSwitchInProgress carId = false
  container : service = .race → dockerFailed log = true → ∀ bot, s.bots.lookup teamId = some bot →
    bot.containerId = .switching s.frame.serverTimeMs

/-! ## What the calls of a switch write -/

@[ext]
structure SwitchView where
  cars : RaceRuntimeStore
  bots : BotRegistry
  joins : JoinRegistry
  frame : RuntimeFrame
  begun : Bool
  failed : Bool

def switchView (w : OfficialWorld) : SwitchView where
  cars := w.shared.store.cars
  bots := w.shared.bots
  joins := w.shared.joins
  frame := w.shared.frame
  begun := switchBegun w.log
  failed := dockerFailed w.log

/-- A call that a switch makes beside its writes and its docker commands. -/
def Op.calm : Op → Bool
  | .outside _ => true
  | .docker _ | .publishFrame _ => false
  | op => op.quiet

theorem switchView_calm {op : Op} (hop : op.calm = true) (w : OfficialWorld) (input : Input) :
    switchView (w.record exec op input).1 = switchView w := by
  cases op with
  | store op => cases op <;> first | rfl | cases hop
  | bot op => cases op <;> first | rfl | cases hop
  | join op => cases op <;> first | rfl | cases hop
  | takeMonitor which =>
      refine SwitchView.ext ?_ ?_ ?_ ?_ rfl rfl <;>
      · simp only [switchView, World.record, World.perform, exec]
        split <;> rfl
  | docker => cases hop
  | publishFrame => cases hop
  | _ => rfl

section Calls

variable {α β ε : Type} {post : α → OfficialWorld → Prop} {w : OfficialWorld}

theorem switch_part {p : OfficialProg β} {f : β → OfficialProg α} (hp : p.Uses (·.calm))
    (h : ∀ b w', switchView w' = switchView w → (f b).Ensures (World.record exec) post w') :
    (p >>= f).Ensures (World.record exec) post w :=
  .same (fun _ hop w input => switchView_calm hop w input) hp h

theorem switch_try {x : ExceptT ε OfficialProg β} {g : β → ExceptT ε OfficialProg α}
    {post : Except ε α → OfficialWorld → Prop} (hx : x.run.Uses (·.calm))
    (herror : ∀ e w', switchView w' = switchView w → post (.error e) w')
    (h : ∀ b w', switchView w' = switchView w →
      (g b).run.Ensures (World.record exec) post w') :
    (x >>= g).run.Ensures (World.record exec) post w :=
  .sameExcept (fun _ hop w input => switchView_calm hop w input) hx herror h

/-- The mark of a car is set or taken away. -/
theorem switchView_mark (w : OfficialWorld) (carId : ℕ) (inProgress : Bool) (input : Input) :
    switchView (w.record exec (.store (.car carId (.setBotSwitchInProgress inProgress))) input).1 =
      { switchView w with
        cars := (switchView w).cars.setBotSwitchInProgress carId inProgress
        begun := inProgress || (switchView w).begun } := by
  cases inProgress <;> rfl

/-- The docker commands have succeeded, or one of them has failed. -/
def ContainerStarted (v : SwitchView) (r : Except ε β) (w : OfficialWorld) : Prop :=
  ∃ failed, switchView w = { v with failed := failed } ∧ (isError r = true → failed = true)

theorem ContainerStarted.bind {x : ExceptT ε OfficialProg α} {g : α → ExceptT ε OfficialProg β}
    (hx : ∀ w, x.run.Ensures (World.record exec) (ContainerStarted (switchView w)) w)
    (hg : ∀ a w, (g a).run.Ensures (World.record exec) (ContainerStarted (switchView w)) w)
    (w : OfficialWorld) :
    (x >>= g).run.Ensures (World.record exec) (ContainerStarted (switchView w)) w := by
  refine .bindExcept (.mono (hx w) fun r w₁ hr => ?_)
  obtain ⟨failed, h₁, herror⟩ := hr
  cases r with
  | error e => exact ⟨failed, h₁, fun _ => herror rfl⟩
  | ok a =>
      refine .mono (hg a w₁) fun r' w₂ hr' => ?_
      obtain ⟨failed', h₂, herror'⟩ := hr'
      exact ⟨failed', by rw [h₂, h₁], herror'⟩

/-- A docker command, with whether it has failed. -/
theorem docker_started {p : OfficialProg (Except String β)} {f : String → ε}
    (hp : ∀ w, p.Ensures (World.record exec) (fun r w' => switchView w' =
      { switchView w with failed := isError r || (switchView w).failed }) w) (w : OfficialWorld) :
    (p.orFail f).run.Ensures (World.record exec) (ContainerStarted (switchView w)) w := by
  refine .orFail (.mono (hp w) fun r w' hw' => ?_)
  cases r with
  | error err => exact ⟨true, hw', fun _ => rfl⟩
  | ok b => exact ⟨_, hw', fun herror => by cases herror⟩

theorem startBotContainer_started (spec : BotSpec) (w : OfficialWorld) :
    (startBotContainer spec).run.Ensures (World.record exec)
      (ContainerStarted (switchView w)) w :=
  ContainerStarted.bind
    (docker_started (p := (Op.docker (.rm spec.containerName)).call) fun _ _ => rfl)
    (fun _ => ContainerStarted.bind
      (docker_started (p := (Op.docker (.pull spec.imageRef)).call) fun _ _ => rfl)
      fun _ => docker_started (p := (Op.docker (.run spec.containerName spec.container)).call)
        fun _ _ => rfl) w

end Calls

/-! ## How a switch fails -/

theorem isBotSwitchInProgress_set (s : RaceRuntimeStore) (carId : ℕ) (inProgress : Bool) :
    (s.setBotSwitchInProgress carId inProgress).isBotSwitchInProgress carId =
      (inProgress && (s.carIdentity.lookup carId).isSome) := by
  obtain ⟨identity, heq, hlookup⟩ := modifyIdentity_eq s carId
    fun identity => { identity with botSwitchInProgress := inProgress }
  have hself := hlookup carId
  rw [if_pos rfl] at hself
  rw [RaceRuntimeStore.setBotSwitchInProgress, heq]
  unfold RaceRuntimeStore.isBotSwitchInProgress
  dsimp only
  rw [hself]
  cases s.carIdentity.lookup carId <;> simp

/-- The entry is the one that a failed container start leaves. -/
def MarkKept (teamId : String) (s : OfficialState) : Prop :=
  ∀ bot, s.bots.lookup teamId = some bot → bot.containerId = .switching s.frame.serverTimeMs

/-- What a switch that fails leaves of the view: it fails before it begins,
or it has begun and has taken the mark of the car away in the end. -/
inductive FailedView (service : SwitchService) (teamId : String) (s : OfficialState)
    (v : SwitchView) : SwitchView → Prop
  | before : FailedView service teamId s v v
  | begun {carId : ℕ} {cars : RaceRuntimeStore} {bots : BotRegistry} {joins : JoinRegistry}
      {failed : Bool} (hcar : service.car s teamId = some carId)
      (hflag : cars.isBotSwitchInProgress carId = false)
      (hentry : service.lookup bots joins teamId = service.entry s teamId ↔
        (service = .race → failed = true → MarkKept teamId s)) :
      FailedView service teamId s v ⟨cars, bots, joins, v.frame, true, failed⟩

theorem FailedView.undone_iff {service : SwitchService} {teamId : String} {s : OfficialState}
    {w : OfficialWorld} (h : FailedView service teamId s (switchView ⟨s, []⟩) (switchView w)) :
    SwitchUndone service teamId s w.shared ↔ LeavesNoMark service teamId s w.log := by
  generalize hv : switchView w = v at h
  cases h with
  | before =>
      have hcars : w.shared.store.cars = s.store.cars := congrArg SwitchView.cars hv
      have hbots : w.shared.bots = s.bots := congrArg SwitchView.bots hv
      have hjoins : w.shared.joins = s.joins := congrArg SwitchView.joins hv
      have hbegun : switchBegun w.log = false := congrArg SwitchView.begun hv
      have hfailed : dockerFailed w.log = false := congrArg SwitchView.failed hv
      refine iff_of_true ⟨?_, fun carId _ => by rw [hcars]⟩ ⟨?_, ?_⟩
      · rw [SwitchService.entry, SwitchService.entry, hbots, hjoins]
      · rw [hbegun]
        exact fun h => by cases h
      · rw [hfailed]
        exact fun _ h => by cases h
  | @begun carId cars bots joins failed hcar hflag hentry =>
      have hcars : w.shared.store.cars = cars := congrArg SwitchView.cars hv
      have hbots : w.shared.bots = bots := congrArg SwitchView.bots hv
      have hjoins : w.shared.joins = joins := congrArg SwitchView.joins hv
      have hbegun : switchBegun w.log = true := congrArg SwitchView.begun hv
      have hfailed : dockerFailed w.log = failed := congrArg SwitchView.failed hv
      rw [← hcars] at hflag
      rw [← hbots, ← hjoins, ← hfailed] at hentry
      constructor
      · intro h
        refine ⟨fun _ other hother => ?_, fun hrace hdocker => hentry.mp h.entry hrace hdocker⟩
        obtain rfl := Option.some.inj (hcar.symm.trans hother)
        exact (h.flag carId hcar).symm.trans hflag
      · intro h
        refine ⟨hentry.mpr fun hrace hdocker => h.container hrace hdocker, fun other hother => ?_⟩
        obtain rfl := Option.some.inj (hcar.symm.trans hother)
        rw [hflag, h.flag hbegun carId hcar]

theorem lookup_modifyEntry {α : Type} {m : HashMap String α} {teamId : String} {entry : α}
    (h : m.lookup teamId = some entry) (f : α → α) :
    (modifyEntry m teamId f).lookup teamId = some (f entry) := by
  rw [modifyEntry, h]
  exact Finmap.lookup_insert m

/-- The mark changes the entry, unless the entry has it already. -/
theorem marked_eq_iff {teamId : String} {s : OfficialState} {bot : TeamOfficialRaceBotState}
    (hbot : s.bots.lookup teamId = some bot) :
    (modifyEntry s.bots teamId fun bot =>
      { bot with containerId := .switching s.frame.serverTimeMs }).lookup teamId =
        s.bots.lookup teamId ↔ MarkKept teamId s := by
  rw [lookup_modifyEntry hbot, hbot]
  constructor
  · intro hsame bot' hbot'
    obtain rfl := Option.some.inj (hbot.symm.trans hbot')
    exact (congrArg TeamOfficialRaceBotState.containerId (Option.some.inj hsame)).symm
  · intro hkept
    rw [← hkept bot hbot]

/-! ## The two services -/

section Services

variable {α ε : Type} {teamId : String} {w : OfficialWorld} {v : SwitchView}

/-- The lock is taken and given back. -/
theorem withLock_failedView {service : SwitchService} {s : OfficialState}
    {p : OfficialProg (Except ε α)} (which : ServiceLock)
    (h : ∀ w, switchView w = switchView ⟨s, []⟩ → p.Ensures (World.record exec)
      (fun r w' => isError r = true →
        FailedView service teamId s (switchView ⟨s, []⟩) (switchView w')) w) :
    (withLock which p).Ensures (World.record exec)
      (fun r w' => isError r = true →
        FailedView service teamId s (switchView ⟨s, []⟩) (switchView w')) ⟨s, []⟩ := by
  refine switch_part (p := (Op.lock which).call) ⟨rfl, fun _ => trivial⟩ fun _ w₁ h₁ => ?_
  refine .bind (.mono (h w₁ h₁) fun r w₂ hr => ?_)
  refine switch_part (p := (Op.unlock which).call) ⟨rfl, fun _ => trivial⟩ fun _ w₃ h₃ => ?_
  intro herror
  rw [h₃]
  exact hr herror

/-- The entries with the mark of a switch. -/
def markedBots (v : SwitchView) (teamId : String) : BotRegistry :=
  modifyEntry v.bots teamId fun bot =>
    { bot with containerId := .switching v.frame.serverTimeMs }

theorem switchContainer_failed (spec : BotSpec) (hw : switchView w = v) :
    (switchContainer teamId spec).run.Ensures (World.record exec) (fun r w' =>
      isError r = true → switchView w' = v ∨
        switchView w' = { v with bots := markedBots v teamId, failed := true }) w := by
  refine switch_try (issueTokens_calls rfl rfl) (fun e w₁ h₁ _ => Or.inl (h₁.trans hw))
    fun _ w₁ h₁ => ?_
  refine .bindExcept (.lift fun input₁ => .bindExcept (.lift fun input₂ => ?_))
  have hmarked : switchView (((w₁.record exec .latestFrame input₁).1.record exec
      (.bot (.setContainerId teamId (.switching w₁.shared.frame.serverTimeMs))) input₂).1) =
        { v with bots := markedBots v teamId } := by
    have hw₁ := h₁.trans hw
    rw [← hw₁]
    rfl
  refine .orFail (.mono (startBotContainer_started spec _) fun r w₂ hr => ?_)
  obtain ⟨failed, h₂, hfailed⟩ := hr
  cases r with
  | ok containerId => exact fun herror => by cases herror
  | error err =>
      intro _
      right
      rw [h₂, hfailed rfl]
      exact congrArg (fun v : SwitchView => { v with failed := true }) hmarked

theorem resolveSlotSubmissionImage_calls {P : Op → Prop} (hrepo : ∀ op, P (.repo op))
    (teamId : String) (slotIndex : ℤ) :
    (resolveSlotSubmissionImage teamId slotIndex).run.Uses P := by
  refine .bindExcept (.orFail ⟨hrepo _, fun _ => trivial⟩) fun slotSubmission => ?_
  cases slotSubmission with
  | none => trivial
  | some slotSubmission =>
      dsimp only
      split <;> trivial

theorem resolveSelectedSlotIndex_calls {P : Op → Prop} (hrepo : ∀ op, P (.repo op))
    (teamId : String) (loadedSlot : Option ℤ) :
    (resolveSelectedSlotIndex teamId loadedSlot).run.Uses P :=
  .bindExcept (.orFail ⟨hrepo _, fun _ => trivial⟩) fun _ =>
    .bindExcept (.orFail ⟨hrepo _, fun _ => trivial⟩) fun _ => trivial

theorem applySelectedSlot_failedView {s : OfficialState} {bot : TeamOfficialRaceBotState}
    (hbot : s.bots.lookup teamId = some bot) (selectedSlot : ℤ)
    (hw : switchView w = switchView ⟨s, []⟩) :
    (applySelectedSlot teamId bot selectedSlot).run.Ensures (World.record exec)
      (fun r w' => isError r = true →
        FailedView .race teamId s (switchView ⟨s, []⟩) (switchView w')) w := by
  have hcar : SwitchService.race.car s teamId = some bot.publicCarId := by
    rw [SwitchService.car, hbot, Option.map_some]
  refine switch_try (resolveSlotSubmissionImage_calls (fun _ => rfl) teamId selectedSlot)
    (fun e w₁ h₁ _ => (h₁.trans hw) ▸ .before) fun found w₁ h₁ => ?_
  refine .bindExcept (.lift fun input => ?_)
  have h₂ : switchView (w₁.record exec
      (.store (.car bot.publicCarId (.setBotSwitchInProgress true))) input).1 =
        { switchView ⟨s, []⟩ with
          cars := s.store.cars.setBotSwitchInProgress bot.publicCarId true
          begun := true } := by
    rw [switchView_mark, h₁, hw]
    rfl
  refine .bindExcept (.lift (.mono (switchContainer_failed _ h₂) fun result w₃ hresult => ?_))
  refine .bindExcept (.lift fun input => ?_)
  cases result with
  | error status =>
      intro _
      have hflag : ∀ t : RaceRuntimeStore, (t.setBotSwitchInProgress bot.publicCarId
          false).isBotSwitchInProgress bot.publicCarId = false := fun t => by
        rw [isBotSwitchInProgress_set, Bool.false_and]
      show FailedView .race teamId s _ (switchView (w₃.record exec _ input).1)
      rw [switchView_mark]
      rcases hresult rfl with h₃ | h₃ <;> rw [h₃]
      · exact .begun hcar (hflag _) (iff_of_true rfl fun _ hfailed => by cases hfailed)
      · exact .begun hcar (hflag _)
          ((marked_eq_iff hbot).trans ⟨fun h _ _ => h, fun h => h rfl rfl⟩)
  | ok containerId =>
      refine .bindExcept (.lift fun _ => .bindExcept (.lift fun _ => .bindExcept (.lift fun _ => ?_)))
      exact .lift fun _ herror => by cases herror

theorem pendingSelectedSlot_failedView {s : OfficialState} (teamId : String)
    (hw : switchView w = switchView ⟨s, []⟩) :
    (pendingSelectedSlot teamId).run.Ensures (World.record exec) (fun r w' => isError r = true →
      FailedView .race teamId s (switchView ⟨s, []⟩) (switchView w')) w := by
  refine .bindExcept (.lift fun input => ?_)
  have hview : switchView (w.record exec (.bot (.get teamId)) input).1 =
      switchView ⟨s, []⟩ := (switchView_calm rfl w input).trans hw
  have hanswer : (w.record exec (.bot (.get teamId)) input).2 = s.bots.lookup teamId :=
    congrArg (fun v : SwitchView => v.bots.lookup teamId) hw
  rw [hanswer]
  cases hbot : s.bots.lookup teamId with
  | none => exact fun herror => by cases herror
  | some bot =>
      refine switch_try (.lift ⟨rfl, fun _ => trivial⟩) (fun e w₁ h₁ _ => ?_)
        fun inStationaryFix w₁ h₁ => ?_
      · rw [h₁, hview]
        exact .before
      · show (if inStationaryFix = false then pure () else _ : StatusProg Unit).run.Ensures _ _ _
        split
        · exact fun herror => by cases herror
        · have hresolve : (resolveSelectedSlotForTeam teamId).run.Uses (·.calm) :=
            .bindExcept (.lift ⟨rfl, fun _ => trivial⟩) fun _ =>
              .orFail (resolveSelectedSlotIndex_calls (fun _ => rfl) teamId _)
          refine switch_try hresolve (fun e w₂ h₂ _ => ?_) fun selectedSlot w₂ h₂ => ?_
          · rw [h₂, h₁, hview]
            exact .before
          · split
            · exact fun herror => by cases herror
            · exact applySelectedSlot_failedView hbot selectedSlot (h₂.trans (h₁.trans hview))

end Services

namespace SandboxBots

variable {teamId : String} {w : OfficialWorld} {v : SwitchView}

/-- The mark of a switch, if the switch has come that far. -/
def Marked (teamId : String) (joins joins' : JoinRegistry) : Prop :=
  joins' = joins ∨ ∃ atMs, joins' = modifyEntry joins teamId fun join =>
    { join with containerId := .switching atMs }

theorem switchContainer_marked (spec : BotSpec) (hw : switchView w = v) :
    (switchContainer teamId spec).run.Ensures (World.record exec) (fun r w' =>
      isError r = true → ∃ joins failed, Marked teamId v.joins joins ∧
        switchView w' = { v with joins := joins, failed := failed }) w := by
  refine switch_try (.orFail (issueTokens_calls rfl rfl))
    (fun e w₁ h₁ _ => ⟨v.joins, v.failed, Or.inl rfl, h₁.trans hw⟩) fun _ w₁ h₁ => ?_
  refine .bindExcept (.lift fun input₁ => .bindExcept (.lift fun input₂ => ?_))
  have hmarked : switchView (((w₁.record exec (.outside .currentUnixMs) input₁).1.record exec
      (.join (.setContainerId teamId (.switching input₁.nowMs))) input₂).1) =
        { v with joins := modifyEntry v.joins teamId fun join =>
            { join with containerId := .switching input₁.nowMs } } := by
    have hw₁ := h₁.trans hw
    rw [← hw₁]
    rfl
  refine .bindExcept (.orFail (.mono (startBotContainer_started spec _) fun r w₂ hr => ?_))
  obtain ⟨failed, h₂, -⟩ := hr
  have h₂' := h₂.trans (congrArg (fun v : SwitchView => { v with failed := failed }) hmarked)
  cases r with
  | error err => exact fun _ => ⟨_, failed, Or.inr ⟨_, rfl⟩, h₂'⟩
  | ok containerId =>
      refine .bindExcept (.lift fun input₃ => .bindExcept (.orFail fun input₄ => ?_))
      have h₄ : switchView (((w₂.record exec (.outside (.stopLogCapture teamId)) input₃).1.record
          exec (.outside (.startBotLogCapture teamId containerId)) input₄).1) = switchView w₂ :=
        (switchView_calm rfl _ _).trans (switchView_calm rfl _ _)
      cases (((w₂.record exec (.outside (.stopLogCapture teamId)) input₃).1.record exec
          (.outside (.startBotLogCapture teamId containerId)) input₄).2 : Except String Unit) with
      | error err => exact fun _ => ⟨_, failed, Or.inr ⟨_, rfl⟩, h₄.trans h₂'⟩
      | ok _ => exact fun herror => by cases herror

theorem selectedSubmission_calls {P : Op → Prop} (hrepo : ∀ op, P (.repo op)) (teamId : String)
    (slotIndex : ℤ) : (selectedSubmission teamId slotIndex).run.Uses P := by
  refine .bindExcept (.orFail ⟨hrepo _, fun _ => trivial⟩) fun slotSubmission => ?_
  cases slotSubmission with
  | none => trivial
  | some slotSubmission =>
      dsimp only
      split <;> trivial

theorem switchView_restore (w : OfficialWorld) (teamId : String) (containerId : ContainerId)
    (input : Input) :
    switchView (w.record exec (.join (.restoreContainerId teamId containerId)) input).1 =
      { switchView w with joins := modifyEntry (switchView w).joins teamId fun entry =>
          if entry.containerId.isSwitching then { entry with containerId := containerId }
          else entry } := rfl

/-- The entry that has been put back. -/
theorem restored_lookup {joins joins' : JoinRegistry} {join : TeamSandboxJoinState}
    (hjoin : joins.lookup teamId = some join) (hmarked : Marked teamId joins joins') :
    (modifyEntry joins' teamId fun entry =>
      if entry.containerId.isSwitching then { entry with containerId := join.containerId }
      else entry).lookup teamId = joins.lookup teamId := by
  rcases hmarked with rfl | ⟨atMs, rfl⟩
  · rw [lookup_modifyEntry hjoin, hjoin]
    split <;> rfl
  · rw [lookup_modifyEntry (lookup_modifyEntry hjoin _), hjoin]
    rfl

theorem applySelectedSlot_failedView {s : OfficialState} {join : TeamSandboxJoinState}
    (hjoin : s.joins.lookup teamId = some join) (selectedSlot : ℤ)
    (hw : switchView w = switchView ⟨s, []⟩) :
    (applySelectedSlot teamId join selectedSlot).run.Ensures (World.record exec)
      (fun r w' => isError r = true →
        FailedView .sandbox teamId s (switchView ⟨s, []⟩) (switchView w')) w := by
  have hcar : SwitchService.sandbox.car s teamId = some join.publicCarId := by
    rw [SwitchService.car, hjoin, Option.map_some]
  refine switch_try (selectedSubmission_calls (fun _ => rfl) teamId selectedSlot)
    (fun e w₁ h₁ _ => (h₁.trans hw) ▸ .before) fun found w₁ h₁ => ?_
  refine .bindExcept (.lift fun input => ?_)
  have h₂ : switchView (w₁.record exec
      (.store (.car join.publicCarId (.setBotSwitchInProgress true))) input).1 =
        { switchView ⟨s, []⟩ with
          cars := s.store.cars.setBotSwitchInProgress join.publicCarId true
          begun := true } := by
    rw [switchView_mark, h₁, hw]
    rfl
  refine .bindExcept (.lift (.mono (switchContainer_marked _ h₂) fun result w₃ hresult => ?_))
  refine .bindExcept (.lift fun input => ?_)
  cases result with
  | error err =>
      refine .bindExcept (.lift fun input' => fun _ => ?_)
      obtain ⟨joins, failed, hmarked, h₃⟩ := hresult rfl
      have hflag : ∀ t : RaceRuntimeStore, (t.setBotSwitchInProgress join.publicCarId
          false).isBotSwitchInProgress join.publicCarId = false := fun t => by
        rw [isBotSwitchInProgress_set, Bool.false_and]
      show FailedView .sandbox teamId s _
        (switchView ((w₃.record exec _ input).1.record exec _ input').1)
      rw [switchView_restore, switchView_mark, h₃]
      exact .begun hcar (hflag _)
        (iff_of_true (restored_lookup hjoin hmarked) fun hrace => by cases hrace)
  | ok containerId =>
      refine .bindExcept (.lift fun _ => .bindExcept (.lift fun _ => ?_))
      exact .lift fun _ herror => by cases herror

theorem pendingSelectedSlot_failedView {s : OfficialState} (teamId : String)
    (hw : switchView w = switchView ⟨s, []⟩) :
    (pendingSelectedSlot teamId).run.Ensures (World.record exec) (fun r w' => isError r = true →
      FailedView .sandbox teamId s (switchView ⟨s, []⟩) (switchView w')) w := by
  refine .bindExcept (.lift fun input => ?_)
  have hview : switchView (w.record exec (.join (.get teamId)) input).1 =
      switchView ⟨s, []⟩ := (switchView_calm rfl w input).trans hw
  have hanswer : (w.record exec (.join (.get teamId)) input).2 = s.joins.lookup teamId :=
    congrArg (fun v : SwitchView => v.joins.lookup teamId) hw
  rw [hanswer]
  cases hjoin : s.joins.lookup teamId with
  | none => exact fun herror => by cases herror
  | some join =>
      refine switch_try (.lift ⟨rfl, fun _ => trivial⟩) (fun e w₁ h₁ _ => ?_)
        fun inStationaryFix w₁ h₁ => ?_
      · rw [h₁, hview]
        exact .before
      · show (if inStationaryFix = false then pure () else _ :
          ExceptT String OfficialProg Unit).run.Ensures _ _ _
        split
        · exact fun herror => by cases herror
        · refine switch_try (.orFail (resolveSelectedSlotIndex_calls (fun _ => rfl) teamId _))
            (fun e w₂ h₂ _ => ?_) fun selectedSlot w₂ h₂ => ?_
          · rw [h₂, h₁, hview]
            exact .before
          · split
            · exact fun herror => by cases herror
            · exact applySelectedSlot_failedView hjoin selectedSlot (h₂.trans (h₁.trans hview))

end SandboxBots

/-! ## What makes a switch fail -/

/-- A token cannot be issued, or a docker command of the start fails. -/
def startFails : (op : Op) → op.Answer → Bool
  | .outside (.issueTeamBotToken _), answer | .outside .issueWrapperAuthToken, answer =>
      isError answer
  | op, answer => dockerFails op answer

def startFailed (log : OfficialLog) : Bool := log.any fun e => startFails e.op e.answer

/-- A call that is no part of the start of a container. -/
def Op.besideContainer : Op → Bool
  | .docker _ | .outside (.issueTeamBotToken _) | .outside .issueWrapperAuthToken => false
  | _ => true

theorem startFailed_besideContainer {op : Op} (hop : op.besideContainer = true) (w : OfficialWorld)
    (input : Input) : startFailed (w.record exec op input).1.log = startFailed w.log := by
  have hnot : startFails op (w.record exec op input).2 = false := by
    cases op with
    | docker => cases hop
    | outside op => cases op <;> first | rfl | cases hop
    | _ => rfl
  exact (congrArg (· || startFailed w.log) hnot).trans (Bool.false_or _)

section Reports

variable {α β ε ε' : Type}

/-- A program in which a failed start is an error. -/
def Reports (x : ExceptT ε OfficialProg α) : Prop :=
  ∀ w, startFailed w.log = false → x.run.Ensures (World.record exec)
    (fun r w' => startFailed w'.log = true → isError r = true) w

theorem Reports.bind {x : ExceptT ε OfficialProg α} {g : α → ExceptT ε OfficialProg β}
    (hx : Reports x) (hg : ∀ a, Reports (g a)) : Reports (x >>= g) := by
  refine fun w hw => .bindExcept (.mono (hx w hw) fun r w' hr => ?_)
  cases r with
  | error e => exact fun _ => rfl
  | ok a => exact hg a w' (Bool.eq_false_iff.mpr fun hfailed => by cases hr hfailed)

theorem Reports.mapErr {x : ExceptT ε OfficialProg α} (hx : Reports x) (f : ε → ε') :
    Reports (mapErr x f) := by
  refine fun w hw => .orFail (.mono (hx w hw) fun r w' hr => ?_)
  cases r with
  | error e => exact fun _ => rfl
  | ok a => exact fun hfailed => by cases hr hfailed

theorem reports_of_uses {x : ExceptT ε OfficialProg α} (hx : x.run.Uses (·.besideContainer)) :
    Reports x := by
  refine fun w hw => .mono (hx.ensures (I := fun w => startFailed w.log = false) ?_ hw)
    fun r w' hw' hfailed => absurd (hw'.symm.trans hfailed) Bool.false_ne_true
  exact fun op hop w input hw => (startFailed_besideContainer hop w input).trans hw

theorem reports_beside {op : Op} (hop : op.besideContainer = true) :
    Reports (liftM op.call : ExceptT ε OfficialProg op.Answer) :=
  reports_of_uses (.lift ⟨hop, fun _ => trivial⟩)

/-- A call of the start, whose error is the program's. -/
theorem reports_call {p : OfficialProg (Except ε α)} {f : ε → ε'}
    (hp : ∀ w, p.Ensures (World.record exec)
      (fun r w' => startFailed w'.log = (isError r || startFailed w.log)) w) :
    Reports (p.orFail f) := by
  refine fun w hw => .orFail (.mono (hp w) fun r w' hr => ?_)
  cases r with
  | error e => exact fun _ => rfl
  | ok a => exact fun hfailed => absurd (hw.symm.trans (hr.symm.trans hfailed)) Bool.false_ne_true

theorem issueTokens_reports (teamId : String) : Reports (issueTokens teamId) :=
  .bind (reports_call fun _ _ => rfl) fun _ =>
    .bind (reports_call fun _ _ => rfl) fun _ => reports_of_uses trivial

theorem startBotContainer_reports (spec : BotSpec) : Reports (startBotContainer spec) :=
  .bind (reports_call fun _ _ => rfl) fun _ =>
    .bind (reports_call fun _ _ => rfl) fun _ => reports_call fun _ _ => rfl

/-- The error of the start comes after the mark has been taken away. -/
theorem reports_marked {start : ExceptT ε OfficialProg α} (hstart : Reports start) (carId : ℕ)
    {finish : Except ε α → ExceptT ε OfficialProg β}
    (herror : ∀ e w, (finish (.error e)).run.Ensures (World.record exec)
      (fun r _ => isError r = true) w)
    (hok : ∀ a, Reports (finish (.ok a))) :
    Reports (do
      liftM (Op.store (.car carId (.setBotSwitchInProgress true))).call
      let result ← liftM start.run
      liftM (Op.store (.car carId (.setBotSwitchInProgress false))).call
      finish result) := by
  refine .bind (reports_beside rfl) fun _ w hw => ?_
  refine .bindExcept (.lift (.mono (hstart w hw) fun r w' hr => ?_))
  cases r with
  | error e =>
      refine .bindExcept (.lift fun input => ?_)
      show (finish (.error e)).run.Ensures _ _ (World.record exec w' _ input).1
      exact .mono (herror e _) fun _ _ h _ => h
  | ok a =>
      have hw' : startFailed w'.log = false :=
        Bool.eq_false_iff.mpr fun hfailed => by cases hr hfailed
      exact Reports.bind
        (reports_beside rfl : Reports (liftM
          (Op.store (.car carId (.setBotSwitchInProgress false))).call))
        (fun _ => hok a) w' hw'

theorem pendingSelectedSlot_reports (teamId : String) : Reports (pendingSelectedSlot teamId) := by
  refine .bind (reports_beside rfl) fun bot => ?_
  cases bot with
  | none => exact reports_of_uses trivial
  | some bot =>
      refine .bind (reports_beside rfl) fun inStationaryFix => ?_
      split
      · exact reports_of_uses trivial
      · refine .bind (reports_of_uses (.bindExcept (.lift ⟨rfl, fun _ => trivial⟩) fun _ =>
          .orFail (resolveSelectedSlotIndex_calls (fun _ => rfl) teamId _))) fun selectedSlot => ?_
        split
        · exact reports_of_uses trivial
        · refine .bind (reports_of_uses (resolveSlotSubmissionImage_calls (fun _ => rfl) teamId _))
            fun found => reports_marked ?_ _ (fun _ _ => rfl) fun containerId => ?_
          · exact .bind (issueTokens_reports teamId) fun _ =>
              .bind (reports_beside rfl) fun _ =>
                .bind (reports_beside rfl) fun _ =>
                  (startBotContainer_reports _).mapErr _
          · exact .bind (reports_beside rfl) fun _ =>
              .bind (reports_beside rfl) fun _ =>
                .bind (reports_beside rfl) fun _ =>
                  reports_beside rfl

namespace SandboxBots

theorem pendingSelectedSlot_reports (teamId : String) : Reports (pendingSelectedSlot teamId) := by
  refine .bind (reports_beside rfl) fun join => ?_
  cases join with
  | none => exact reports_of_uses trivial
  | some join =>
      refine .bind (reports_beside rfl) fun inStationaryFix => ?_
      split
      · exact reports_of_uses trivial
      · refine .bind (reports_of_uses (.orFail
          (resolveSelectedSlotIndex_calls (fun _ => rfl) teamId _))) fun selectedSlot => ?_
        split
        · exact reports_of_uses trivial
        · refine .bind (reports_of_uses (selectedSubmission_calls (fun _ => rfl) teamId _))
            fun found => reports_marked ?_ _ (fun _ _ _ => rfl) fun containerId => ?_
          · exact .bind ((issueTokens_reports teamId).mapErr _) fun _ =>
              .bind (reports_beside rfl) fun _ =>
                .bind (reports_beside rfl) fun _ =>
                  .bind ((startBotContainer_reports _).mapErr _) fun _ =>
                    .bind (reports_beside rfl) fun _ =>
                      .bind (reports_of_uses (.orFail ⟨rfl, fun _ => trivial⟩)) fun _ =>
                        reports_of_uses trivial
          · exact .bind (reports_beside rfl) fun _ =>
              .bind (reports_beside rfl) fun _ =>
                reports_beside rfl

end SandboxBots

theorem withLock_reports {x : ExceptT ε OfficialProg α} (which : ServiceLock) (hx : Reports x)
    {w : OfficialWorld} (hw : startFailed w.log = false) :
    (withLock which x.run).Ensures (World.record exec)
      (fun r w' => startFailed w'.log = true → isError r = true) w := by
  refine .call fun _ => .bind (.mono (hx _ hw) fun r w' hr => ?_)
  exact .call fun _ => hr

/-- A switch whose token, wrapper token or docker command fails has failed. -/
theorem switch_fails_of_startFailed (service : SwitchService) (teamId : String) (s : OfficialState)
    (inputs : ℕ → Input) (hfailed : startFailed
      ((service.trySwitch teamId).run (World.record exec) inputs ⟨s, []⟩).1.log = true) :
    ((service.trySwitch teamId).run (World.record exec) inputs ⟨s, []⟩).2 = true := by
  have hreports : (service.trySwitch teamId).Ensures (World.record exec)
      (fun failed w => startFailed w.log = true → failed = true) ⟨s, []⟩ := by
    cases service with
    | race => exact .bind (withLock_reports .prepareCommand (pendingSelectedSlot_reports teamId) rfl)
    | sandbox => exact .bind (withLock_reports .joinCommand
        (SandboxBots.pendingSelectedSlot_reports teamId) rfl)
  exact hreports.run inputs hfailed

end Reports

/-! ## Failing switches -/

/-- A switch that fails leaves the entry of the team and the mark of its car
as they were, unless it is one of the official race whose container cannot
be started, or the car has been marked before. -/
theorem failed_switch_undone_iff (service : SwitchService) (teamId : String) (s : OfficialState)
    (inputs : ℕ → Input)
    (hfailed : ((service.trySwitch teamId).run (World.record exec) inputs ⟨s, []⟩).2 = true) :
    SwitchUndone service teamId s
        ((service.trySwitch teamId).run (World.record exec) inputs ⟨s, []⟩).1.shared ↔
      LeavesNoMark service teamId s
        ((service.trySwitch teamId).run (World.record exec) inputs ⟨s, []⟩).1.log := by
  have hview : (service.trySwitch teamId).Ensures (World.record exec) (fun failed w =>
      failed = true → FailedView service teamId s (switchView ⟨s, []⟩) (switchView w)) ⟨s, []⟩ := by
    cases service with
    | race => exact .bind (withLock_failedView .prepareCommand fun w hw =>
        pendingSelectedSlot_failedView teamId hw)
    | sandbox => exact .bind (withLock_failedView .joinCommand fun w hw =>
        SandboxBots.pendingSelectedSlot_failedView teamId hw)
  exact (hview.run inputs hfailed).undone_iff

namespace PulledInVain

/-- The team has a submission in two slots, and has selected the second. -/
def repo : SubmissionRepo where
  submissions := [⟨"1", "a", .succeeded, some "image-1", "path-1"⟩,
    ⟨"2", "a", .succeeded, some "image-2", "path-2"⟩]
  teamSubmissionSlots := Finmap.insert ("a", 1) (some "1") (Finmap.singleton ("a", 2) (some "2"))
  teamSelectedSlots := Finmap.singleton "a" 2

/-- The car of the bot stands in the pit. -/
def cars : RaceRuntimeStore :=
  { RaceRuntimeStore.new with
    carIdentity := Finmap.singleton 1
      { RuntimeCarIdentity.default with teamId := some "a", activeBotSlot := some 1 }
    carPitState := Finmap.singleton 1 { RuntimePitState.default with inStationaryFix := true } }

/-- The bot of the first slot runs in the race or in a sandbox. -/
def before (service : SwitchService) : OfficialState :=
  { OfficialState.initial ⟨1, .none, "m", none, [], .noon, []⟩ with
    store := ⟨.cleared, cars⟩
    repo := repo
    bots := if service = .race then Finmap.singleton "a"
      ⟨1, 5, 1, 1, "ha3-official-bot-team-a", .docker 0, "1", "image-1", 0⟩ else ∅
    joins := if service = .sandbox then Finmap.singleton "a"
      ⟨"s", 1, 1, 5, "ha3-official-bot-team-a", .docker 0⟩ else ∅ }

/-- Docker cannot pull the image of the second slot. -/
def inputs (service : SwitchService) (n : ℕ) : Input :=
  { Input.works with fails := n = if service = .race then 13 else 12 }

def after (service : SwitchService) : OfficialWorld × Bool :=
  (service.trySwitch "a").run (World.record exec) (inputs service) ⟨before service, []⟩

theorem pulled_in_vain_undone : (after .sandbox).2 = true ∧
    SwitchUndone .sandbox "a" (before .sandbox) (after .sandbox).1.shared := by
  have hfailed : (after .sandbox).2 = true := by decide +kernel
  refine ⟨hfailed, (failed_switch_undone_iff .sandbox "a" _ _ hfailed).mpr
    ⟨fun _ carId hcar => ?_, fun hrace => by cases hrace⟩⟩
  obtain rfl : 1 = carId := Option.some.inj hcar
  decide +kernel

/-- The entry of the race still names a container that there will never be. -/
theorem pulled_in_vain_kept : (after .race).2 = true ∧
    ((after .race).1.shared.bots.lookup "a").map (·.containerId) = some (.switching 0) ∧
    ¬ SwitchUndone .race "a" (before .race) (after .race).1.shared := by
  have hkept : ((after .race).1.shared.bots.lookup "a").map (·.containerId) =
      some (.switching 0) := by decide +kernel
  refine ⟨by decide +kernel, hkept, fun h => ?_⟩
  have hentry : (after .race).1.shared.bots.lookup "a" = (before .race).bots.lookup "a" := h.entry
  rw [hentry] at hkept
  exact absurd hkept (by decide +kernel)

end PulledInVain

end HackArena.Official
