import HackArena.Services.CarRemoval

/-!
# The cooldown of a command

A command with a cooldown is checked against the store, sent to the
engine, and marked in the store when the engine has granted it. The
engine is awaited in between, so two requests can both pass the check
before either is marked.
-/

namespace HackArena.Services

open Boink HackArena.Runtime HackArena.Local GuardedRun Tasks

section Observations

variable (command : CooldownCommand) (carId : ℕ)

/-- The frame time at which a call marks the command for the car. -/
def markedAt : ServiceOp → Option ℕ
  | .car other call => match call.cooldownMark with
      | some (marked, nowMs) => if other = carId ∧ marked = command then some nowMs else none
      | none => none
  | _ => none

/-- The frame time of a command that an answer accepts. A response that
the channel did not take counts as well. -/
def acceptedAt : ServiceOp → Option ℕ
  | .respond other frame type response =>
      if other = carId ∧ acceptedCommand type response.status = some command
        then some frame.serverTimeMs else none
  | .send other frame (.commandAck ack) _ =>
      if other = carId ∧ acceptedCommand ack.commandType ack.status = some command
        then some frame.serverTimeMs else none
  | _ => none

/-- The call reads the cooldown: on its own, or at the beginning of a
turn of the stream. -/
def checks : ServiceOp → Bool
  | .cooldownRemainingMs checked other _ => checked = command ∧ other = carId
  | .streamInput cfg => cfg.selfPublicCarId = carId
  | _ => false

/-- The frame time at which a call has found the cooldown over. -/
def passedAt : ServiceEntry → Option ℕ
  | ⟨_, .cooldownRemainingMs checked other nowMs, (answer : ℕ)⟩ =>
      if checked = command ∧ other = carId ∧ answer = 0 then some nowMs else none
  | ⟨_, .streamInput cfg, (env, _)⟩ =>
      let nowMs := env.frame.serverTimeMs
      if cfg.selfPublicCarId = carId ∧ env.store.cooldownRemainingMs command carId nowMs = 0
        then some nowMs else none
  | _ => none

def marks (log : List ServiceEntry) : List ℕ := log.filterMap fun e => markedAt command carId e.op

/-- The frame times of the accepted commands. -/
def accepted (log : List ServiceEntry) : List ℕ :=
  log.filterMap fun e => acceptedAt command carId e.op

/-- The calls made since the thread last read the cooldown. -/
def sinceCheck (thread : ℕ) (log : List ServiceEntry) : List ServiceEntry :=
  log.takeWhile fun e => !(e.thread = thread && checks command carId e.op)

/-- The mark that the thread has made with its last call. -/
def pendingAt (thread : ℕ) (log : List ServiceEntry) : Option ℕ :=
  (log.find? fun e => e.thread = thread).bind fun e => markedAt command carId e.op

/-- The car has not been removed after a mark; a removal forgets the
cooldown. -/
def KeptSinceMarks (log : List ServiceEntry) : Prop :=
  ∀ newer e older, log = newer ++ e :: older → e.op = .removeCar carId →
    marks command carId older = []

/-- A mark is made on what its thread has checked: no other request has
been marked since, the car has not been removed, and the end of the
cooldown can be counted. -/
def MarkedAsChecked (w : ServiceWorld) (thread : ℕ) (op : ServiceOp) (_ : ServiceInput) : Prop :=
  ∀ nowMs, markedAt command carId op = some nowMs →
    marks command carId (sinceCheck command carId thread w.log) = [] ∧
      KeptSinceMarks command carId w.log ∧ nowMs + commandCooldownMs ≤ u64Max

end Observations

/-- Two times with a cooldown between them, in either order. -/
def Apart (t t' : ℕ) : Prop := t + commandCooldownMs ≤ t' ∨ t' + commandCooldownMs ≤ t

/-! ## The stored cooldown -/

/-- The end of the cooldown in the store. -/
def RaceRuntimeStore.cooldownUntilMs (s : RaceRuntimeStore) (carId : ℕ) : CooldownCommand → ℕ
  | .backToTrack => (s.pitState carId).backToTrackCooldownUntilMs
  | .emergencyPitstop => (s.pitState carId).emergencyPitstopCooldownUntilMs

theorem remainingU32_eq_zero_iff {untilMs nowMs : ℕ} :
    remainingU32 untilMs nowMs = 0 ↔ untilMs ≤ nowMs := by
  have hmax : 0 < u32Max := by decide
  rw [remainingU32]
  split <;> omega

theorem cooldownRemainingMs_eq_zero_iff {s : RaceRuntimeStore} {command : CooldownCommand}
    {carId nowMs : ℕ} :
    s.cooldownRemainingMs command carId nowMs = 0 ↔ s.cooldownUntilMs carId command ≤ nowMs := by
  cases hlookup : s.carPitState.lookup carId with
  | none =>
      cases command <;>
        simp [RaceRuntimeStore.cooldownRemainingMs, RaceRuntimeStore.cooldownUntilMs,
          RaceRuntimeStore.backToTrackCooldownRemainingMs,
          RaceRuntimeStore.emergencyPitstopCooldownRemainingMs, RaceRuntimeStore.pitState,
          hlookup, RuntimePitState.default]
  | some entry =>
      cases command <;>
        simp [RaceRuntimeStore.cooldownRemainingMs, RaceRuntimeStore.cooldownUntilMs,
          RaceRuntimeStore.backToTrackCooldownRemainingMs,
          RaceRuntimeStore.emergencyPitstopCooldownRemainingMs, RaceRuntimeStore.pitState,
          hlookup, remainingU32_eq_zero_iff]

/-- The cooldown part of a pit state. -/
def RuntimePitState.cooldowns (entry : RuntimePitState) : ℕ × ℕ :=
  (entry.backToTrackCooldownUntilMs, entry.emergencyPitstopCooldownUntilMs)

theorem cooldownUntilMs_congr {s t : RaceRuntimeStore} {carId : ℕ}
    (h : (t.pitState carId).cooldowns = (s.pitState carId).cooldowns)
    (command : CooldownCommand) :
    t.cooldownUntilMs carId command = s.cooldownUntilMs carId command := by
  cases command with
  | backToTrack => exact congrArg Prod.fst h
  | emergencyPitstop => exact congrArg Prod.snd h

theorem trackFixSession_cooldowns (entry : RuntimePitState) (state : VehicleState)
    (raceMetrics : Option VehicleRaceMetrics) (slot nowMs : ℕ) :
    (entry.trackFixSession state raceMetrics slot nowMs).cooldowns = entry.cooldowns := by
  cases hin : state.pitstopState.hasZone .fix <;> cases hwas : entry.wasInFixZone <;>
    cases hsession : entry.activeFixSession <;>
    simp [RuntimePitState.trackFixSession, RuntimePitState.cooldowns,
      RuntimePitState.pushHistory, hin, hwas, hsession]

/-- No other call moves the end of a cooldown. -/
theorem CarCall.cooldowns_of_plain {call : CarCall} (h : call.cooldownMark = none)
    (s : RaceRuntimeStore) (carId : ℕ) :
    ((call.apply .official s carId).pitState carId).cooldowns = (s.pitState carId).cooldowns := by
  cases call with
  | markBackToTrackApplied nowMs => cases h
  | markEmergencyPitstopRequested nowMs => cases h
  | lastClientSeq clientSeq => rfl
  | setControlsInput throttle brake brakeBalancer differentialLock => rfl
  | setPitRequestActive active =>
      simp [CarCall.apply, RaceRuntimeStore.setPitRequestActive, RuntimePitState.cooldowns]
  | setNextTireFromFrontend tireType =>
      cases tireType <;>
        simp [CarCall.apply, RaceRuntimeStore.setNextTireFromFrontend, RuntimePitState.cooldowns]
  | setNextTireFromBot tireType =>
      cases hmode : (s.pitState carId).nextTireMode <;>
        simp [CarCall.apply, RaceRuntimeStore.setNextTireFromBot, RuntimePitState.cooldowns, hmode]
  | planPitFixTireApply currentTireType inStationaryFix =>
      rw [CarCall.apply, planPitFixTireApply_store, pitState_putPitState_self]
      cases inStationaryFix <;> rfl
  | markPitFixTireApplied tireType =>
      simp [CarCall.apply, RaceRuntimeStore.markPitFixTireApplied, RuntimePitState.cooldowns]
  | setActiveBotSlot slotIndex => exact congrArg _ (modifyIdentity_pitState ..)
  | clearActiveBotSlot => exact congrArg _ (modifyIdentity_pitState ..)
  | setBotSwitchInProgress inProgress => exact congrArg _ (modifyIdentity_pitState ..)
  | updatePitStateFromRuntime state raceMetrics nowMs =>
      have hsession := trackFixSession_cooldowns (s.pitState carId) state raceMetrics
        (s.currentBotSlotForHistory carId) nowMs
      simp only [CarCall.apply, RaceRuntimeStore.updatePitStateFromRuntime,
        pitState_putPitState_self]
      cases completedPit state <;> exact hsession

/-- A mark moves the end of its own cooldown, and at least to its own
end. -/
theorem CarCall.cooldownUntilMs_of_mark {call : CarCall} {marked : CooldownCommand} {nowMs : ℕ}
    (h : call.cooldownMark = some (marked, nowMs)) (b : Build) (s : RaceRuntimeStore)
    (carId : ℕ) (command : CooldownCommand) :
    (call.apply b s carId).cooldownUntilMs carId command =
      if marked = command
        then max (s.cooldownUntilMs carId command) (saturatingAdd nowMs commandCooldownMs)
        else s.cooldownUntilMs carId command := by
  cases call with
  | markBackToTrackApplied nowMs' =>
      cases h
      cases command <;>
        simp [CarCall.apply, RaceRuntimeStore.markBackToTrackApplied,
          RaceRuntimeStore.cooldownUntilMs]
  | markEmergencyPitstopRequested nowMs' =>
      cases h
      cases command <;>
        simp [CarCall.apply, RaceRuntimeStore.markEmergencyPitstopRequested,
          RaceRuntimeStore.cooldownUntilMs]
  | _ => cases h

/-! ## Growing the log -/

section Log

variable {command : CooldownCommand} {carId : ℕ} {e : ServiceEntry} {log : List ServiceEntry}

theorem marks_cons : marks command carId (e :: log) =
    (markedAt command carId e.op).toList ++ marks command carId log := by
  rw [marks, List.filterMap_cons]
  cases markedAt command carId e.op <;> rfl

theorem accepted_cons : accepted command carId (e :: log) =
    (acceptedAt command carId e.op).toList ++ accepted command carId log := by
  rw [accepted, List.filterMap_cons]
  cases acceptedAt command carId e.op <;> rfl

theorem marks_append {newer older : List ServiceEntry} :
    marks command carId (newer ++ older) =
      marks command carId newer ++ marks command carId older :=
  List.filterMap_append

theorem pendingAt_cons {thread : ℕ} : pendingAt command carId thread (e :: log) =
    if e.thread = thread then markedAt command carId e.op
      else pendingAt command carId thread log := by
  rw [pendingAt, List.find?_cons]
  by_cases hthread : e.thread = thread <;> simp [hthread, pendingAt]

theorem mem_marks_of_pendingAt {thread t : ℕ}
    (h : pendingAt command carId thread log = some t) : t ∈ marks command carId log := by
  obtain ⟨e, hfind, hmark⟩ := Option.bind_eq_some_iff.mp h
  exact List.mem_filterMap.mpr ⟨e, List.mem_of_find?_eq_some hfind, hmark⟩

theorem KeptSinceMarks.suffix {older : List ServiceEntry} (h : KeptSinceMarks command carId log)
    (hsuffix : older <:+ log) : KeptSinceMarks command carId older := by
  obtain ⟨newer, rfl⟩ := hsuffix
  rintro newer' e older' rfl
  exact h (newer ++ newer') e older' (List.append_assoc ..).symm

end Log

/-- The thread's last reading found the cooldown over at `t`. -/
def Checked (command : CooldownCommand) (carId thread t : ℕ) (log : List ServiceEntry) : Prop :=
  ∃ e older, log = sinceCheck command carId thread log ++ e :: older ∧
    passedAt command carId e = some t

section Checks

variable {command : CooldownCommand} {carId thread t : ℕ} {e : ServiceEntry}
  {log : List ServiceEntry}

theorem checked_cons_self (hthread : e.thread = thread) (hpassed : passedAt command carId e = some t)
    (hchecks : checks command carId e.op = true) :
    Checked command carId thread t (e :: log) := by
  refine ⟨e, log, ?_, hpassed⟩
  simp [sinceCheck, hthread, hchecks]

theorem Checked.cons (h : Checked command carId thread t log)
    (he : e.thread ≠ thread ∨ checks command carId e.op = false) :
    Checked command carId thread t (e :: log) := by
  obtain ⟨e', older, hlog, hpassed⟩ := h
  refine ⟨e', older, ?_, hpassed⟩
  have hgrown : sinceCheck command carId thread (e :: log) =
      e :: sinceCheck command carId thread log := by
    rcases he with he | he <;> simp [sinceCheck, he]
  rw [hgrown, List.cons_append, ← hlog]

theorem Checked.append {newer : List ServiceEntry} (h : Checked command carId thread t log)
    (hnewer : ∀ e ∈ newer, e.thread ≠ thread) :
    Checked command carId thread t (newer ++ log) := by
  induction newer with
  | nil => exact h
  | cons e newer ih =>
      refine Checked.cons (ih fun e' he' => hnewer e' (List.mem_cons_of_mem _ he')) (Or.inl ?_)
      exact hnewer e List.mem_cons_self

theorem pendingAt_append {newer : List ServiceEntry} (hnewer : ∀ e ∈ newer, e.thread ≠ thread) :
    pendingAt command carId thread (newer ++ log) = pendingAt command carId thread log := by
  induction newer with
  | nil => rfl
  | cons e newer ih =>
      rw [List.cons_append, pendingAt_cons, if_neg (hnewer e List.mem_cons_self)]
      exact ih fun e' he' => hnewer e' (List.mem_cons_of_mem _ he')

end Checks

/-! ## The invariant -/

/-- Every mark is covered by the stored cooldown and by every later check
that passed. The accepted commands have been marked, and with the marks
whose answers are still to come they are all apart. -/
structure CooldownOk (command : CooldownCommand) (carId : ℕ) (w : ServiceWorld) : Prop where
  stored : KeptSinceMarks command carId w.log → ∀ t ∈ marks command carId w.log,
    t + commandCooldownMs ≤ w.shared.store.cooldownUntilMs carId command
  checked : ∀ newer e older t, w.log = newer ++ e :: older → passedAt command carId e = some t →
    KeptSinceMarks command carId older → ∀ t' ∈ marks command carId older,
      t' + commandCooldownMs ≤ t
  marked : ∀ t ∈ accepted command carId w.log, t ∈ marks command carId w.log
  apart : (accepted command carId w.log).Pairwise Apart
  pending : ∀ i t, pendingAt command carId i w.log = some t →
    ∀ t' ∈ accepted command carId w.log, Apart t t'
  pendings : ∀ i j t t', i ≠ j → pendingAt command carId i w.log = some t →
    pendingAt command carId j w.log = some t' → Apart t t'

section Invariant

variable {command : CooldownCommand} {carId thread : ℕ} {w : ServiceWorld} {op : ServiceOp}
  {input : ServiceInput}

/-- A check that passes does so against the stored cooldown. -/
theorem passedAt_perform {t : ℕ}
    (h : passedAt command carId ⟨thread, op, (execCall .official w.shared op input).2⟩ = some t) :
    w.shared.store.cooldownUntilMs carId command ≤ t := by
  cases op with
  | cooldownRemainingMs checked other nowMs =>
      simp only [passedAt, Option.ite_none_right_eq_some, Option.some.injEq] at h
      obtain ⟨⟨rfl, rfl, hzero⟩, rfl⟩ := h
      exact cooldownRemainingMs_eq_zero_iff.mp hzero
  | streamInput cfg =>
      simp only [passedAt, Option.ite_none_right_eq_some, Option.some.injEq] at h
      obtain ⟨⟨-, hzero⟩, rfl⟩ := h
      exact cooldownRemainingMs_eq_zero_iff.mp hzero
  | _ => cases h

/-- Before a mark that is made as checked, every mark is long past. -/
theorem CooldownOk.before_mark (h : CooldownOk command carId w) {t : ℕ}
    (hchecked : Checked command carId thread t w.log)
    (hmarked : marks command carId (sinceCheck command carId thread w.log) = [])
    (hkept : KeptSinceMarks command carId w.log) :
    ∀ t' ∈ marks command carId w.log, t' + commandCooldownMs ≤ t := by
  obtain ⟨e, older, hlog, hpassed⟩ := hchecked
  intro t' ht'
  rw [hlog, marks_append, hmarked, List.nil_append, marks_cons] at ht'
  have hplain : markedAt command carId e.op = none := by
    obtain ⟨i, op, answer⟩ := e
    cases op <;> first | rfl | cases hpassed
  rw [hplain] at ht'
  refine h.checked _ e older t hlog hpassed (hkept.suffix ?_) t' ht'
  rw [hlog]
  exact (List.suffix_cons e older).trans (List.suffix_append _ _)

theorem CooldownOk.checked_perform (h : CooldownOk command carId w) :
    ∀ newer e older t, (w.perform (execCall .official) thread op input).log = newer ++ e :: older →
      passedAt command carId e = some t → KeptSinceMarks command carId older →
        ∀ t' ∈ marks command carId older, t' + commandCooldownMs ≤ t := by
  intro newer e older t hlog hpassed hkept t' ht'
  cases newer with
  | nil =>
      obtain ⟨rfl, rfl⟩ := List.cons.inj hlog
      exact (h.stored hkept t' ht').trans (passedAt_perform hpassed)
  | cons e' newer =>
      obtain ⟨-, hlog⟩ := List.cons.inj hlog
      exact h.checked newer e older t hlog hpassed hkept t' ht'

/-- What a call leaves of the stored cooldown. -/
theorem execCall_cooldownUntilMs (hop : CarTaskCall carId op) (hremove : op ≠ .removeCar carId) :
    (execCall .official w.shared op input).1.store.cooldownUntilMs carId command =
      match markedAt command carId op with
      | some t => max (w.shared.store.cooldownUntilMs carId command)
          (saturatingAdd t commandCooldownMs)
      | none => w.shared.store.cooldownUntilMs carId command := by
  cases op with
  | car other call =>
      obtain rfl : other = carId := hop
      change (call.apply .official w.shared.store other).cooldownUntilMs other command = _
      cases hmark : call.cooldownMark with
      | none =>
          rw [cooldownUntilMs_congr (CarCall.cooldowns_of_plain hmark w.shared.store other)]
          simp [markedAt, hmark]
      | some marked =>
          obtain ⟨marked, nowMs⟩ := marked
          rw [CarCall.cooldownUntilMs_of_mark hmark]
          by_cases hcommand : marked = command <;> simp [markedAt, hmark, hcommand]
  | removeCar other => exact (hremove (congrArg _ hop)).elim
  | insert | erase | takeOwner | eraseInstanceCar => exact hop.elim
  | _ => rfl

theorem CooldownOk.stored_perform (h : CooldownOk command carId w) (hop : CarTaskCall carId op)
    (htime : ∀ t, markedAt command carId op = some t → t + commandCooldownMs ≤ u64Max) :
    KeptSinceMarks command carId (w.perform (execCall .official) thread op input).log →
      ∀ t ∈ marks command carId (w.perform (execCall .official) thread op input).log,
        t + commandCooldownMs ≤ (w.perform (execCall .official) thread op
          input).shared.store.cooldownUntilMs carId command := by
  intro hkept t ht
  rw [World.perform, marks_cons, List.mem_append, Option.mem_toList] at ht
  by_cases hremove : op = .removeCar carId
  · subst hremove
    -- nothing was marked before the removal
    have hnone := hkept [] _ w.log rfl rfl
    rw [hnone] at ht
    simp [markedAt] at ht
  · have hbefore := h.stored (hkept.suffix (List.suffix_cons _ _))
    change _ ≤ (execCall .official w.shared op input).1.store.cooldownUntilMs carId command
    rw [execCall_cooldownUntilMs hop hremove]
    rcases ht with ht | ht
    · have hle := htime t ht
      dsimp only at ht
      rw [ht]
      exact le_max_of_le_right (by rw [saturatingAdd]; omega)
    · have hle := hbefore t ht
      split
      · exact le_max_of_le_left hle
      · exact hle

theorem acceptedAt_of_markedAt {t : ℕ} (h : markedAt command carId op = some t) :
    acceptedAt command carId op = none := by
  cases op with
  | car other call => rfl
  | _ => cases h

/-- After a mark, the thread's answer is the one that is still to come. -/
theorem CooldownOk.mark (h : CooldownOk command carId w) (hop : CarTaskCall carId op) {t : ℕ}
    (hmark : markedAt command carId op = some t)
    (hpast : ∀ t' ∈ marks command carId w.log, t' + commandCooldownMs ≤ t)
    (htime : t + commandCooldownMs ≤ u64Max) :
    CooldownOk command carId (w.perform (execCall .official) thread op input) := by
  have haccepted : accepted command carId (w.perform (execCall .official) thread op input).log =
      accepted command carId w.log := by
    rw [World.perform, accepted_cons, acceptedAt_of_markedAt hmark]
    rfl
  have hpending : ∀ i t', pendingAt command carId i
      (w.perform (execCall .official) thread op input).log = some t' →
      i = thread ∧ t' = t ∨ i ≠ thread ∧ pendingAt command carId i w.log = some t' := by
    intro i t' ht'
    rw [World.perform, pendingAt_cons] at ht'
    split at ht'
    · rename_i hthread
      exact Or.inl ⟨hthread.symm, Option.some.inj (ht'.symm.trans hmark)⟩
    · rename_i hthread
      exact Or.inr ⟨fun hi => hthread hi.symm, ht'⟩
  refine ⟨h.stored_perform hop fun t' ht' => ?_, h.checked_perform, ?_, ?_, ?_, ?_⟩
  · obtain rfl := Option.some.inj (ht'.symm.trans hmark)
    exact htime
  · intro t' ht'
    rw [haccepted] at ht'
    rw [World.perform, marks_cons]
    exact List.mem_append_right _ (h.marked t' ht')
  · rw [haccepted]
    exact h.apart
  · intro i t₁ ht₁ t₂ ht₂
    rw [haccepted] at ht₂
    rcases hpending i t₁ ht₁ with ⟨-, rfl⟩ | ⟨-, hold⟩
    · exact Or.inr (hpast t₂ (h.marked t₂ ht₂))
    · exact h.pending i t₁ hold t₂ ht₂
  · intro i j t₁ t₂ hij ht₁ ht₂
    rcases hpending i t₁ ht₁ with ⟨hi, rfl⟩ | ⟨-, hold₁⟩ <;>
      rcases hpending j t₂ ht₂ with ⟨hj, rfl⟩ | ⟨-, hold₂⟩
    · exact (hij (hi.trans hj.symm)).elim
    · exact Or.inr (hpast t₂ (mem_marks_of_pendingAt hold₂))
    · exact Or.inl (hpast t₁ (mem_marks_of_pendingAt hold₁))
    · exact h.pendings i j t₁ t₂ hij hold₁ hold₂

/-- Another call leaves no mark of its thread to be answered. -/
theorem pendingAt_perform_of_plain (hmark : markedAt command carId op = none) {i t : ℕ}
    (h : pendingAt command carId i (w.perform (execCall .official) thread op input).log = some t) :
    i ≠ thread ∧ pendingAt command carId i w.log = some t := by
  rw [World.perform, pendingAt_cons] at h
  split at h
  · rw [hmark] at h
    cases h
  · rename_i hthread
    exact ⟨fun hi => hthread hi.symm, h⟩

theorem marks_perform_of_plain (hmark : markedAt command carId op = none) :
    marks command carId (w.perform (execCall .official) thread op input).log =
      marks command carId w.log := by
  rw [World.perform, marks_cons, hmark]
  rfl

/-- The answer to the thread's own mark. -/
theorem CooldownOk.accept (h : CooldownOk command carId w) (hop : CarTaskCall carId op) {t : ℕ}
    (hmark : markedAt command carId op = none) (haccept : acceptedAt command carId op = some t)
    (hown : pendingAt command carId thread w.log = some t) :
    CooldownOk command carId (w.perform (execCall .official) thread op input) := by
  have haccepted : accepted command carId (w.perform (execCall .official) thread op input).log =
      t :: accepted command carId w.log := by
    rw [World.perform, accepted_cons, haccept]
    rfl
  refine ⟨h.stored_perform hop (by simp [hmark]), h.checked_perform, ?_, ?_, ?_, ?_⟩
  · rw [haccepted, marks_perform_of_plain hmark]
    exact List.forall_mem_cons.mpr ⟨mem_marks_of_pendingAt hown, h.marked⟩
  · rw [haccepted]
    exact List.pairwise_cons.mpr ⟨h.pending thread t hown, h.apart⟩
  · intro i t₁ ht₁
    obtain ⟨hi, hold⟩ := pendingAt_perform_of_plain hmark ht₁
    rw [haccepted]
    exact List.forall_mem_cons.mpr ⟨h.pendings i thread t₁ t hi hold hown, h.pending i t₁ hold⟩
  · intro i j t₁ t₂ hij ht₁ ht₂
    exact h.pendings i j t₁ t₂ hij (pendingAt_perform_of_plain hmark ht₁).2
      (pendingAt_perform_of_plain hmark ht₂).2

theorem CooldownOk.plain (h : CooldownOk command carId w) (hop : CarTaskCall carId op)
    (hmark : markedAt command carId op = none) (haccept : acceptedAt command carId op = none) :
    CooldownOk command carId (w.perform (execCall .official) thread op input) := by
  have haccepted : accepted command carId (w.perform (execCall .official) thread op input).log =
      accepted command carId w.log := by
    rw [World.perform, accepted_cons, haccept]
    rfl
  refine ⟨h.stored_perform hop (by simp [hmark]), h.checked_perform, ?_, ?_, ?_, ?_⟩
  · rw [haccepted, marks_perform_of_plain hmark]
    exact h.marked
  · rw [haccepted]
    exact h.apart
  · intro i t₁ ht₁
    rw [haccepted]
    exact h.pending i t₁ (pendingAt_perform_of_plain hmark ht₁).2
  · intro i j t₁ t₂ hij ht₁ ht₂
    exact h.pendings i j t₁ t₂ hij (pendingAt_perform_of_plain hmark ht₁).2
      (pendingAt_perform_of_plain hmark ht₂).2

end Invariant

/-- A thread marks what it has found over, and accepts what it has just
marked. -/
def AnswersItsMarks (command : CooldownCommand) (carId : ℕ) (w : ServiceWorld) (thread : ℕ)
    (op : ServiceOp) : Prop :=
  CarTaskCall carId op ∧
    (∀ t, markedAt command carId op = some t → Checked command carId thread t w.log) ∧
    ∀ t, acceptedAt command carId op = some t → pendingAt command carId thread w.log = some t

def cooldownDiscipline (command : CooldownCommand) (carId : ℕ) :
    Discipline Backend ServiceOp ServiceOp.Answer ServiceInput (execCall .official) where
  guard := MarkedAsChecked command carId
  permits := AnswersItsMarks command carId
  inv := CooldownOk command carId
  kept := by
    rintro w thread op input hinv hguard ⟨hop, hmarks, haccepts⟩
    cases hmark : markedAt command carId op with
    | some t =>
        obtain ⟨hsince, hkept, htime⟩ := hguard t hmark
        exact hinv.mark hop hmark (hinv.before_mark (hmarks t hmark) hsince hkept) htime
    | none =>
        cases haccept : acceptedAt command carId op with
        | some t => exact hinv.accept hop hmark haccept (haccepts t haccept)
        | none => exact hinv.plain hop hmark haccept

/-! ## The tasks -/

section Threads

variable {command : CooldownCommand} {carId thread : ℕ} {w w' : ServiceWorld}

theorem Checked.others {t : ℕ} (h : Checked command carId thread t w.log)
    (hothers : World.Others thread w w') : Checked command carId thread t w'.log := by
  obtain ⟨newer, hlog, hnewer⟩ := hothers
  rw [hlog]
  exact h.append hnewer

theorem pendingAt_others (hothers : World.Others thread w w') :
    pendingAt command carId thread w'.log = pendingAt command carId thread w.log := by
  obtain ⟨newer, hlog, hnewer⟩ := hothers
  rw [hlog, pendingAt_append hnewer]

theorem PlainCall.observed {op : ServiceOp} (h : PlainCall carId op) :
    markedAt command carId op = none ∧ acceptedAt command carId op = none := by
  cases op with
  | car other call => exact ⟨by simp [markedAt, h.2], rfl⟩
  | respond other frame type response =>
      have hplain : acceptedCommand type response.status = none := h
      exact ⟨rfl, by simp [acceptedAt, hplain]⟩
  | send other frame payload sent =>
      cases payload with
      | commandAck ack =>
          have hplain : acceptedCommand ack.commandType ack.status = none := h
          exact ⟨rfl, by simp [acceptedAt, hplain]⟩
      | _ => exact ⟨rfl, rfl⟩
  | _ => exact ⟨rfl, rfl⟩

theorem PlainCall.permitted {op : ServiceOp} (h : PlainCall carId op) (w : ServiceWorld) :
    AnswersItsMarks command carId w thread op := by
  have hobserved : markedAt command carId op = none ∧ acceptedAt command carId op = none :=
    h.observed
  exact ⟨h.carTaskCall, by simp [hobserved.1], by simp [hobserved.2]⟩

theorem obeys_of_plain {α : Type} {p : Task α} (h : p.Uses (PlainCall carId)) (w : ServiceWorld) :
    p.Obeys (cooldownDiscipline command carId) thread (fun _ _ => True) w :=
  h.obeys (fun _ hop w => hop.permitted w) w

/-- A check that passed holds for its thread. -/
theorem checked_of_cooldownRemainingMs {nowMs : ℕ} {input : ServiceInput}
    (h : ¬ 0 < (execCall .official w.shared
      (.cooldownRemainingMs command carId nowMs) input).2) :
    Checked command carId thread nowMs (w.perform (execCall .official) thread
      (.cooldownRemainingMs command carId nowMs) input).log := by
  refine checked_cons_self rfl ?_ (by simp [checks])
  have hzero := Nat.eq_zero_of_not_pos h
  simpa [passedAt] using hzero

/-- The end of a command that the engine has granted. -/
theorem markThenAnswer_obeys {call : CarCall} {marked : CooldownCommand} {t : ℕ}
    (hmark : call.cooldownMark = some (marked, t)) {answer : ServiceOp}
    (hplain : CarTaskCall carId answer) (hnone : markedAt command carId answer = none)
    (haccept : ∀ t', acceptedAt command carId answer = some t' → command = marked ∧ t' = t)
    (hchecked : command = marked → Checked command carId thread t w.log) {β : Type}
    {next : answer.Answer → Task β} {post : β → ServiceWorld → Prop}
    (hnext : ∀ a w, CooldownOk command carId w →
      (next a).Obeys (cooldownDiscipline command carId) thread post w) :
    (Prog.perform (.car carId call) >>= fun _ => Prog.perform answer >>= next).Obeys
      (cooldownDiscipline command carId) thread post w := by
  refine .call fun w₁ input₁ hothers₁ hinv₁ hguard₁ => ?_
  have hpermits : AnswersItsMarks command carId w₁ thread (.car carId call) := by
    refine ⟨rfl, fun t' ht' => ?_, fun t' ht' => by cases ht'⟩
    simp only [markedAt, hmark, true_and, Option.ite_none_right_eq_some,
      Option.some.injEq] at ht'
    obtain ⟨rfl, rfl⟩ := ht'
    exact (hchecked rfl).others hothers₁
  refine ⟨hpermits, .call fun w₂ input₂ hothers₂ hinv₂ hguard₂ => ?_⟩
  have hanswer : AnswersItsMarks command carId w₂ thread answer := by
    refine ⟨hplain, by simp [hnone], fun t' ht' => ?_⟩
    obtain ⟨rfl, rfl⟩ := haccept t' ht'
    rw [pendingAt_others hothers₂, World.perform, pendingAt_cons]
    simp [markedAt, hmark]
  exact ⟨hanswer, hnext _ _ ((cooldownDiscipline command carId).kept _ _ _ _ hinv₂ hguard₂
    hanswer)⟩

theorem respondAccepted_obeys {call : CarCall} {marked : CooldownCommand} {frame : RuntimeFrame}
    (hmark : call.cooldownMark = some (marked, frame.serverTimeMs))
    {type : ParticipantCommandType} (htype : acceptedCommand type .accepted = some marked)
    (hchecked : command = marked → Checked command carId thread frame.serverTimeMs w.log) :
    (Prog.perform (.car carId call) >>= fun _ =>
      respond carId frame type .accepted .unspecified 0 : Task TaskOutcome).Obeys
        (cooldownDiscipline command carId) thread (fun _ _ => True) w := by
  refine markThenAnswer_obeys hmark (by trivial) rfl (fun t' ht' => ?_) hchecked
    fun _ _ _ _ _ _ => trivial
  simp only [acceptedAt, htype, true_and, Option.ite_none_right_eq_some, Option.some.injEq] at ht'
  exact ⟨ht'.1.symm, ht'.2.symm⟩

theorem respondRejected_obeys (frame : RuntimeFrame) (type : ParticipantCommandType)
    (reason : ParticipantCommandRejectReason) (cooldownRemainingMs : ℕ) (w : ServiceWorld) :
    (respond carId frame type .rejected reason cooldownRemainingMs).Obeys
      (cooldownDiscipline command carId) thread (fun _ _ => True) w := by
  have hplain : acceptedCommand type .rejected = none := by cases type <;> rfl
  have huses : (respond carId frame type .rejected reason cooldownRemainingMs).Uses
      (PlainCall carId) := .call hplain fun _ => trivial
  exact obeys_of_plain huses w

theorem backToTrack_obeys (engineCarId : ℕ) (target : EngineCommandTarget) (w : ServiceWorld) :
    (Tasks.backToTrack carId engineCarId target).Obeys (cooldownDiscipline command carId) thread
      (fun _ _ => True) w := by
  refine .free (fun w => PlainCall.permitted (by trivial) w) (fun frame w _ => ?_) w
  refine .call fun w₁ input₁ _ _ _ => ⟨PlainCall.permitted (by trivial) w₁, ?_⟩
  split
  · exact respondRejected_obeys _ _ _ _ _
  · split
    · exact respondRejected_obeys _ _ _ _ _
    · rename_i hover _
      refine .call fun w₂ input₂ hothers₂ _ _ => ⟨PlainCall.permitted (by trivial) w₂, ?_⟩
      split
      · refine respondAccepted_obeys rfl rfl ?_
        rintro rfl
        exact ((checked_of_cooldownRemainingMs hover).others hothers₂).cons (Or.inr rfl)
      · exact respondRejected_obeys _ _ _ _ _

theorem emergencyPitstop_obeys (engineCarId : ℕ) (target : EngineCommandTarget)
    (w : ServiceWorld) :
    (Tasks.emergencyPitstop carId engineCarId target).Obeys (cooldownDiscipline command carId)
      thread (fun _ _ => True) w := by
  refine .free (fun w => PlainCall.permitted (by trivial) w) (fun frame w _ => ?_) w
  split
  · exact respondRejected_obeys _ _ _ _ _
  · refine .call fun w₁ input₁ _ _ _ => ⟨PlainCall.permitted (by trivial) w₁, ?_⟩
    split
    · exact respondRejected_obeys _ _ _ _ _
    · rename_i hover
      refine .call fun w₂ input₂ hothers₂ _ _ => ⟨PlainCall.permitted (by trivial) w₂, ?_⟩
      split
      · refine respondAccepted_obeys rfl rfl ?_
        rintro rfl
        exact ((checked_of_cooldownRemainingMs hover).others hothers₂).cons (Or.inr rfl)
      · exact respondRejected_obeys _ _ _ _ _

end Threads

/-! ## The turns of the stream -/

/-- Effects that neither start a cooldown nor accept a command with
one. -/
def PlainEffect : StreamEffect → Prop
  | .event _ (.commandAck ack) _ => acceptedCommand ack.commandType ack.status = none
  | .store write => (streamCall write).cooldownMark = none
  | _ => True

def Turn.Plain (t : Turn) : Prop := ∀ e ∈ t.effects, PlainEffect e

/-- The turn grants a command whose cooldown it has found over. -/
def Turn.Grants (cfg : StreamConfig) (env : StreamEnv) (t : Turn) : Prop :=
  ∃ command op write serverSeq ack sent rest,
    t.effects = .engine op :: .store write :: .event serverSeq (.commandAck ack) sent :: rest ∧
    (streamCall write).cooldownMark = some (command, env.frame.serverTimeMs) ∧
    acceptedCommand ack.commandType ack.status = some command ∧
    env.store.cooldownRemainingMs command cfg.selfPublicCarId env.frame.serverTimeMs = 0 ∧
    ∀ e ∈ rest, PlainEffect e

section Turns

variable {cfg : StreamConfig} {env : StreamEnv} {st : StreamState}

theorem plain_proceed : (Turn.proceed st).Plain := by simp [Turn.Plain, Turn.proceed]

theorem plain_stop (reason : String) : (Turn.stop st reason).Plain := by
  simp [Turn.Plain, Turn.stop, PlainEffect]

theorem Turn.Plain.after {t : Turn} (h : t.Plain) {effects : List StreamEffect}
    (heffects : ∀ e ∈ effects, PlainEffect e) : (t.after effects).Plain := by
  intro e he
  rcases List.mem_append.mp he with he | he
  · exact heffects e he
  · exact h e he

theorem plain_rejectStream (status : Status) (reason : String) :
    (rejectStream st status reason).Plain :=
  (plain_stop reason).after (by simp [PlainEffect])

theorem plain_sendParticipantEvent {payload : ParticipantServerPayload} {sent : Bool}
    {reason : String} {next : StreamState → Turn}
    (hpayload : PlainEffect (.event st.serverSeq payload sent)) (hnext : ∀ st, (next st).Plain) :
    (sendParticipantEvent st payload sent reason next).Plain := by
  rw [sendParticipantEvent]
  refine Turn.Plain.after ?_ (by simpa using hpayload)
  split
  · exact hnext _
  · exact plain_stop reason

theorem plain_rejectCommand (clientSeq : ℕ) (type : ParticipantCommandType)
    (reason : ParticipantCommandRejectReason) (cooldownRemainingMs : ℕ) :
    (rejectCommand env st clientSeq type reason cooldownRemainingMs).Plain := by
  refine plain_sendParticipantEvent ?_ fun _ => plain_proceed
  cases type <;> rfl

theorem grants_acceptCommand {command : CooldownCommand} {op : SlotOp} {write : StreamWrite}
    (hmark : (streamCall write).cooldownMark = some (command, env.frame.serverTimeMs))
    {type : ParticipantCommandType} (htype : acceptedCommand type .accepted = some command)
    (hover : env.store.cooldownRemainingMs command cfg.selfPublicCarId env.frame.serverTimeMs = 0)
    (clientSeq : ℕ) :
    (((acceptCommand env st clientSeq type).after [.store write]).after [.engine op]).Grants
      cfg env := by
  rw [acceptCommand, sendCommandAck, sendParticipantEvent]
  refine ⟨command, op, write, _, _, _, _, rfl, hmark, htype, hover, ?_⟩
  split
  · exact plain_proceed
  · exact plain_stop _

theorem onCommand_cases {run : Turn} (hrun : run.Plain ∨ run.Grants cfg env) (clientSeq : ℕ)
    (type : ParticipantCommandType) :
    (onCommand cfg env st clientSeq type run).Plain ∨
      (onCommand cfg env st clientSeq type run).Grants cfg env := by
  rw [onCommand]
  split
  · exact Or.inl (plain_rejectStream _ _)
  · split
    · exact Or.inl (plain_rejectCommand _ _ _ _)
    · exact hrun

theorem onBackToTrack_cases (clientSeq : ℕ) :
    (onBackToTrack cfg env st clientSeq).Plain ∨
      (onBackToTrack cfg env st clientSeq).Grants cfg env := by
  refine onCommand_cases ?_ clientSeq _
  dsimp only
  split
  · exact Or.inl (plain_rejectCommand _ _ _ _)
  · rename_i hover
    split
    · exact Or.inl (plain_rejectCommand _ _ _ _)
    · split
      · have hzero : env.store.cooldownRemainingMs .backToTrack cfg.selfPublicCarId
            env.frame.serverTimeMs = 0 := Nat.eq_zero_of_not_pos hover
        exact Or.inr (grants_acceptCommand rfl rfl hzero clientSeq)
      · exact Or.inl ((plain_rejectCommand _ _ _ _).after (by simp [PlainEffect]))

theorem onEmergencyPitstop_cases (hofficial : cfg.build = .official) (clientSeq : ℕ) :
    (onEmergencyPitstop cfg env st clientSeq).Plain ∨
      (onEmergencyPitstop cfg env st clientSeq).Grants cfg env := by
  refine onCommand_cases ?_ clientSeq _
  simp only [hofficial, true_and, if_true]
  split
  · exact Or.inl (plain_rejectCommand _ _ _ _)
  · split
    · exact Or.inl (plain_rejectCommand _ _ _ _)
    · rename_i hover
      split
      · have hzero : env.store.cooldownRemainingMs .emergencyPitstop cfg.selfPublicCarId
            env.frame.serverTimeMs = 0 := Nat.eq_zero_of_not_pos hover
        exact Or.inr (grants_acceptCommand rfl rfl hzero clientSeq)
      · exact Or.inl ((plain_rejectCommand _ _ _ _).after (by simp [PlainEffect]))

theorem plain_onInit : (onInit cfg env st).Plain := by
  rw [onInit]
  split
  · exact plain_rejectStream _ _
  · refine plain_sendParticipantEvent (by trivial) fun st => ?_
    exact (plain_sendParticipantEvent (by trivial) fun _ => plain_proceed).after
      (by simp [PlainEffect])

theorem plain_onControls (value : ParticipantControls) : (onControls cfg env st value).Plain := by
  have hack : ∀ ack, (sendAck env st ack).Plain := fun ack =>
    plain_sendParticipantEvent (by trivial) fun _ => plain_proceed
  rw [onControls]
  split
  · exact plain_rejectStream _ _
  · split
    · exact plain_rejectStream _ _
    · split
      · exact (hack _).after (by simp [PlainEffect, streamCall, CarCall.cooldownMark])
      · refine Turn.Plain.after ?_ (by simp [PlainEffect])
        split
        · exact plain_rejectStream _ _
        · exact (hack _).after (by simp [PlainEffect, streamCall, CarCall.cooldownMark])

theorem plain_onTick : (onTick cfg env st).Plain := by
  rw [onTick]
  split
  · exact plain_proceed
  · split
    · dsimp only
      split
      · exact plain_proceed
      · exact plain_rejectStream _ _
    · dsimp only
      split
      · exact plain_rejectStream _ _
      · split
        · exact plain_rejectStream _ _
        · exact plain_sendParticipantEvent (by trivial) fun _ => plain_proceed

theorem onSetNextPitTireType_cases (clientSeq : ℕ) (nextTireType : Raw RuntimePitTireType) :
    (onSetNextPitTireType cfg env st clientSeq nextTireType).Plain ∨
      (onSetNextPitTireType cfg env st clientSeq nextTireType).Grants cfg env := by
  refine onCommand_cases (Or.inl ?_) clientSeq _
  cases nextTireType with
  | none => exact plain_rejectCommand _ _ _ _
  | some tireType =>
      refine Turn.Plain.after ?_ (by simp [PlainEffect, streamCall, CarCall.cooldownMark])
      exact plain_sendParticipantEvent rfl fun _ => plain_proceed

/-- A turn in the official build starts no cooldown, or it grants one
command whose cooldown it has found over. -/
theorem streamTurn_cases (hofficial : cfg.build = .official) (input : StreamInput) :
    (streamTurn cfg env st input).Plain ∨ (streamTurn cfg env st input).Grants cfg env := by
  cases input with
  | tick => exact Or.inl plain_onTick
  | message msg =>
      rcases msg with status | (_ | _ | payload)
      · exact Or.inl (plain_rejectStream _ _)
      · exact Or.inl (plain_stop _)
      · exact Or.inl (plain_rejectStream _ _)
      · cases payload with
        | init => exact Or.inl plain_onInit
        | controls value => exact Or.inl (plain_onControls value)
        | backToTrack clientSeq => exact onBackToTrack_cases clientSeq
        | emergencyPitstop clientSeq => exact onEmergencyPitstop_cases hofficial clientSeq
        | setNextPitTireType clientSeq nextTireType =>
            exact onSetNextPitTireType_cases clientSeq nextTireType

end Turns

/-! ## Every run -/

section Runs

variable {command : CooldownCommand} {carId thread : ℕ}

theorem performEffects_uses_plain (cfg : StreamConfig) (frame : RuntimeFrame)
    {effects : List StreamEffect} (heffects : ∀ e ∈ effects, PlainEffect e) :
    (performEffects cfg frame effects).Uses (PlainCall cfg.selfPublicCarId) := by
  induction effects with
  | nil => trivial
  | cons effect rest ih =>
      obtain ⟨hplain, hrest⟩ := List.forall_mem_cons.mp heffects
      refine Prog.Uses.bind ?_ fun _ => ih hrest
      cases effect with
      | event serverSeq payload sent =>
          refine ⟨?_, fun _ => trivial⟩
          cases payload with
          | commandAck ack => exact hplain
          | _ => trivial
      | terminal status => trivial
      | engine op => exact .call trivial fun _ => trivial
      | store write => exact .call ⟨rfl, hplain⟩ fun _ => trivial
      | cleanup reason =>
          exact cleanupParticipantCar_uses (P := PlainCall cfg.selfPublicCarId) cfg.build _
            (fun _ _ => trivial) rfl trivial _ _

/-- The effects of a turn, after the turn has read the store. -/
theorem performEffects_obeys {cfg : StreamConfig} {env : StreamEnv} {t : Turn}
    (hturn : t.Plain ∨ t.Grants cfg env) {w : ServiceWorld}
    (hchecked : ∀ command, env.store.cooldownRemainingMs command cfg.selfPublicCarId
      env.frame.serverTimeMs = 0 →
        Checked command cfg.selfPublicCarId thread env.frame.serverTimeMs w.log) :
    (performEffects cfg env.frame t.effects).Obeys
      (cooldownDiscipline command cfg.selfPublicCarId) thread (fun _ _ => True) w := by
  rcases hturn with hplain | ⟨granted, op, write, serverSeq, ack, sent, rest, heffects, hmark,
    haccept, hover, hrest⟩
  · exact obeys_of_plain (performEffects_uses_plain cfg env.frame hplain) w
  · rw [heffects]
    refine .call fun w₁ input₁ hothers₁ _ _ => ⟨PlainCall.permitted (by trivial) w₁, ?_⟩
    have hanswer : ∀ t', acceptedAt command cfg.selfPublicCarId (.send cfg.selfPublicCarId
        env.frame (.commandAck ack) sent) = some t' →
        command = granted ∧ t' = env.frame.serverTimeMs := by
      intro t' ht'
      simp only [acceptedAt, haccept, true_and, Option.ite_none_right_eq_some,
        Option.some.injEq] at ht'
      exact ⟨ht'.1.symm, ht'.2.symm⟩
    refine markThenAnswer_obeys hmark (by trivial) rfl hanswer (fun hcommand => ?_) fun _ w _ =>
      obeys_of_plain (performEffects_uses_plain cfg env.frame hrest) w
    subst hcommand
    exact ((hchecked command hover).others hothers₁).cons (Or.inr rfl)

theorem streamLoop_obeys {cfg : StreamConfig} (hofficial : cfg.build = .official) (inputs : ℕ)
    (st : StreamState) (w : ServiceWorld) :
    (streamLoop cfg inputs st).Obeys (cooldownDiscipline command cfg.selfPublicCarId) thread
      (fun _ _ => True) w := by
  induction inputs generalizing st w with
  | zero => exact fun _ _ _ => trivial
  | succ n ih =>
      refine .call fun w₁ input₁ _ hinv hguard => ?_
      have hpermits : AnswersItsMarks command cfg.selfPublicCarId w₁ thread (.streamInput cfg) :=
        PlainCall.permitted (by trivial) w₁
      refine ⟨hpermits, ?_⟩
      refine .bind (.mono (performEffects_obeys (streamTurn_cases hofficial _) ?_) ?_)
        ((cooldownDiscipline command cfg.selfPublicCarId).kept _ _ _ _ hinv hguard hpermits)
      · intro checked hover
        refine checked_cons_self rfl ?_ (by simp [checks])
        simpa [passedAt] using hover
      · intro _ w₂ _ _
        split
        · exact fun _ _ _ => trivial
        · exact ih _ _

theorem carThreads_obeys (tasks : ℕ → Option CarTask) (i : ℕ) (w : ServiceWorld) :
    (carThreads .official carId tasks i).Obeys (cooldownDiscipline command carId) i
      (fun _ _ => True) w := by
  unfold carThreads
  split
  · rename_i t _
    cases t with
    | stream cfg inputs =>
        have hofficial : ({ cfg with build := .official, selfPublicCarId := carId } :
          StreamConfig).build = .official := rfl
        exact streamLoop_obeys hofficial inputs .start w
    | setControlsDev clientSeq controls =>
        exact obeys_of_plain (setControlsDev_uses .official carId clientSeq controls) w
    | backToTrack engineCarId target => exact backToTrack_obeys engineCarId target w
    | requestPitstop active => exact obeys_of_plain (requestPitstop_uses carId active) w
    | emergencyPitstop engineCarId target => exact emergencyPitstop_obeys engineCarId target w
    | setNextPitTireType nextTireType =>
        exact obeys_of_plain (setNextPitTireType_uses carId nextTireType) w
    | collectCar nowMs =>
        exact obeys_of_plain (collectCarTask_uses .official carId nowMs) w
    | removeCar => exact obeys_of_plain (removeCarTask_uses .official carId) w
  · exact fun _ _ _ => trivial

/-- In a run in which every mark is made as it was checked, any two
accepted commands are at least a cooldown apart, whatever channels they
came through. -/
theorem accepted_commands_apart (command : CooldownCommand) (carId : ℕ)
    (tasks : ℕ → Option CarTask) (s : Backend) (events : List (ℕ × ServiceInput))
    (hguard : Along (Pool.Guarded (MarkedAsChecked command carId)) (Pool.step (execCall .official))
      (.start s (carThreads .official carId tasks)) events) (n : ℕ) :
    (accepted command carId (stateAt (Pool.step (execCall .official))
      (.start s (carThreads .official carId tasks)) events n).world.log).Pairwise Apart := by
  have hstart : (Pool.start s (carThreads .official carId tasks)).Disciplined
      (cooldownDiscipline command carId) fun _ _ _ => True := by
    refine ⟨⟨?_, ?_, ?_, ?_, ?_, ?_⟩, fun i => carThreads_obeys tasks i _⟩
    · exact fun _ t ht => by cases ht
    · intro newer e older t hlog
      cases newer <;> cases hlog
    · exact fun t ht => by cases ht
    · exact List.Pairwise.nil
    · exact fun i t ht => by cases ht
    · exact fun i j t t' _ ht => by cases ht
  exact (hstart.stateAt hguard n).inv.apart

end Runs

/-! ## Two runs -/

def isRemoval (carId : ℕ) : ServiceOp → Bool
  | .removeCar other => other = carId
  | _ => false

theorem keptSinceMarks_of_no_removal {command : CooldownCommand} {carId : ℕ}
    {log : List ServiceEntry} (h : (log.all fun e => !isRemoval carId e.op) = true) :
    KeptSinceMarks command carId log := by
  rintro newer e older rfl he
  have hnot := List.all_eq_true.mp h e (by simp)
  rw [he] at hnot
  simp [isRemoval] at hnot

/-- The car's stream with two inputs, and a request of its team. -/
def streamAndRequest : ℕ → Option CarTask
  | 0 => some (.stream ⟨.official, 60, [], fun _ => 0, .default, 1, 1, .officialRace⟩ 2)
  | 1 => some (.backToTrack 1 .officialRace)
  | _ => none

/-- Calls of the stream's turn for a message, at a time. -/
def turnCalls (nowMs : ℕ) (payload : ParticipantClientPayload) (calls : ℕ) :
    List (ℕ × ServiceInput) :=
  .replicate calls (0, willingInput nowMs (.message (.ok (some (some payload)))))

/-- All calls of the request, at a time. -/
def requestCalls (nowMs : ℕ) : List (ℕ × ServiceInput) :=
  .replicate 5 (1, willingInput nowMs .tick)

def cooldownRun (events : List (ℕ × ServiceInput)) : ServicePool :=
  stateAt (Pool.step (execCall .official))
    (.start ⟨oneOfficialCar, .new⟩ (carThreads .official 1 streamAndRequest)) events events.length

/-- The request comes when the cooldown that the stream has started is
over. -/
def calmCommands : List (ℕ × ServiceInput) :=
  turnCalls 0 .init 4 ++ turnCalls 1000 (.backToTrack 1) 4 ++ requestCalls 31000

theorem calm_commands_apart :
    (accepted .backToTrack 1 (cooldownRun calmCommands).world.log).Pairwise Apart ∧
      accepted .backToTrack 1 (cooldownRun calmCommands).world.log = [31000, 1000] := by
  refine ⟨accepted_commands_apart .backToTrack 1 streamAndRequest ⟨oneOfficialCar, .new⟩
    calmCommands ?_ _, by decide +kernel⟩
  have hplain : ∀ {w : ServiceWorld} {i : ℕ} {op : ServiceOp}, markedAt .backToTrack 1 op = none →
      MarkedAsChecked .backToTrack 1 w i op (willingInput 0 .tick) := by
    intro w i op hnone t ht
    rw [hnone] at ht
    cases ht
  refine ⟨hplain rfl, hplain rfl, hplain rfl, hplain rfl, hplain rfl, hplain rfl, ?_, hplain rfl,
    hplain rfl, hplain rfl, hplain rfl, ?_, hplain rfl, trivial⟩
  · rintro t ht
    cases ht
    exact ⟨rfl, keptSinceMarks_of_no_removal (by decide +kernel), by decide⟩
  · rintro t ht
    cases ht
    exact ⟨rfl, keptSinceMarks_of_no_removal (by decide +kernel), by decide⟩

/-- The request is made and answered while the stream awaits the engine
for the same command. Both are accepted at the same frame time. -/
theorem commands_accepted_together :
    ¬ (accepted .backToTrack 1 (cooldownRun (turnCalls 0 .init 4 ++
      turnCalls 1000 (.backToTrack 1) 1 ++ requestCalls 1000 ++
        turnCalls 1000 (.backToTrack 1) 3)).world.log).Pairwise Apart := by
  have htimes : accepted .backToTrack 1 (cooldownRun (turnCalls 0 .init 4 ++
      turnCalls 1000 (.backToTrack 1) 1 ++ requestCalls 1000 ++
        turnCalls 1000 (.backToTrack 1) 3)).world.log = [1000, 1000] := by decide +kernel
  rw [htimes, List.pairwise_pair]
  rintro (h | h) <;> exact absurd h (by decide)

end HackArena.Services
