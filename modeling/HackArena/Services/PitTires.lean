import HackArena.Lib.GuardedRun
import HackArena.Services.CarCalls

/-!
# Changing tyres in the pit

While a car stands in the fix zone, every pass of the frame hub plans the
tyre to mount, asks the engine for it and then marks it as applied. The
engine call is awaited, so the driver and the bot can change the wish
between the plan and the mark. The mark writes down the revision of the
wish at that moment, not the one the plan was made from.
-/

namespace HackArena.Services

open Boink HackArena.Runtime GuardedRun

/-- Where the hub is with the car. `applying` waits for the engine and
remembers the revision the plan was made from; both later stages hold the
vehicle state read in this pass. -/
inductive FixStage where
  | idle
  | applying (state : VehicleState) (tireType : RuntimePitTireType) (revision : ℕ)
  | applied (state : VehicleState)

/-- One car in the pit. `owed` says that the wish has changed since the
last plan for the car in the zone; the program has no such variable. -/
structure FixPit where
  store : RaceRuntimeStore
  stage : FixStage
  owed : Bool

def FixPit.start (store : RaceRuntimeStore) : FixPit := ⟨store, .idle, false⟩

/-- The steps of the two writers and, in their order, those of one pass
of the hub; `answer` is what the engine says to the new tyre. -/
inductive FixEvent where
  | frontend (tireType : RuntimePitTireType)
  | bot (tireType : RuntimePitTireType)
  | plan (state : VehicleState)
  | answer (result : Except EngineWorkerError Unit)
  | update (raceMetrics : Option VehicleRaceMetrics) (nowMs : ℕ)

section Car

variable (b : Build) (carId : ℕ)

/-- The tyre asked for and the revision of the request. -/
def FixPit.wish (s : FixPit) : RuntimePitTireType × ℕ :=
  ((s.store.pitState carId).activeNextTireType, (s.store.pitState carId).nextPitTireRevision)

/-- A request that changes the wish is owed a plan. -/
def FixPit.request (s : FixPit) (store : RaceRuntimeStore) : FixPit :=
  let s' : FixPit := { s with store := store }
  if s'.wish carId = s.wish carId then s' else { s' with owed := true }

def stepFix (s : FixPit) : FixEvent → FixPit
  | .frontend tireType => s.request carId (s.store.setNextTireFromFrontend carId tireType)
  | .bot tireType => s.request carId (s.store.setNextTireFromBot carId tireType)
  | .plan state => match s.stage with
      | .idle =>
          let r := s.store.planPitFixTireApply carId (runtimeTireTypeFromEngine state.tyreType)
            (completedPit state)
          let stage := match r.1.bind fun tireType =>
              (engineTireTypeFromRuntime tireType).map fun _ => tireType with
            | some tireType => .applying state tireType (s.wish carId).2
            | none => .applied state
          -- a plan in the zone settles what is owed, and so does leaving it
          ⟨r.2, stage, false⟩
      | .applying .. | .applied _ => s
  | .answer result => match s.stage with
      | .applying state tireType _ => match result with
          | .ok () => { s with
              store := s.store.markPitFixTireApplied carId tireType
              stage := .applied state }
          | .error (.engine .notFound) => ⟨s.store.removeCar carId, .idle, false⟩
          | .error _ => { s with stage := .applied state }
      | .idle | .applied _ => s
  | .update raceMetrics nowMs => match s.stage with
      | .applied state =>
          { store := (s.store.updatePitStateFromRuntime b carId state raceMetrics nowMs).2
            stage := .idle
            owed := s.owed && completedPit state }
      | .idle | .applying .. => s

/-! ## The requests are honoured -/

/-- A plan for the car in the zone takes up what is owed, and a mark
writes down no newer revision than the plan was made from. -/
def HonoursRequests (s : FixPit) : FixEvent → Prop
  | .plan state => s.stage = .idle → completedPit state = true → s.owed = true →
      (s.store.planPitFixTireApply carId (runtimeTireTypeFromEngine state.tyreType) true).1 ≠ none
  | .answer (.ok ()) => ∀ state tireType revision, s.stage = .applying state tireType revision →
      ∀ recorded, ((stepFix b carId s (.answer (.ok ()))).store.pitState carId
        ).lastAppliedTireRevisionInCurrentFix = some recorded → recorded ≤ revision
  | _ => True

/-- No request has changed the wish between the plan and its mark. -/
def MarkedUndisturbed (s : FixPit) : FixEvent → Prop
  | .answer (.ok ()) => ∀ state tireType revision, s.stage = .applying state tireType revision →
      s.owed = false
  | _ => True

/-- The revision counter can still count the request. -/
def RevisionLeft (s : FixPit) : FixEvent → Prop
  | .frontend _ | .bot _ => (s.wish carId).2 < u64Max
  | _ => True

end Car

/-! ## What each step does to the revisions -/

section Steps

variable {b : Build} {carId : ℕ}

def RaceRuntimeStore.tireRevision (s : RaceRuntimeStore) (carId : ℕ) : ℕ :=
  (s.pitState carId).nextPitTireRevision

def RaceRuntimeStore.appliedRevision (s : RaceRuntimeStore) (carId : ℕ) : Option ℕ :=
  (s.pitState carId).lastAppliedTireRevisionInCurrentFix

/-- A request that can be counted keeps the wish or counts it. -/
theorem setNextTireFromFrontend_wish {s : FixPit} (hleft : (s.wish carId).2 < u64Max)
    (tireType : RuntimePitTireType) :
    let store := s.store.setNextTireFromFrontend carId tireType
    store.tireRevision carId = s.store.tireRevision carId + 1 ∧
      store.appliedRevision carId = s.store.appliedRevision carId := by
  have hlt : (s.store.pitState carId).nextPitTireRevision + 1 ≤ u64Max := hleft
  cases tireType <;>
    simp [RaceRuntimeStore.setNextTireFromFrontend, RaceRuntimeStore.tireRevision,
      RaceRuntimeStore.appliedRevision, saturatingAdd, hlt]

theorem setNextTireFromBot_wish {s : FixPit} (hleft : (s.wish carId).2 < u64Max)
    (tireType : RuntimePitTireType) :
    let store := s.store.setNextTireFromBot carId tireType
    (store.tireRevision carId = s.store.tireRevision carId + 1 ∨
        ({ s with store := store } : FixPit).wish carId = s.wish carId) ∧
      store.appliedRevision carId = s.store.appliedRevision carId := by
  have hlt : (s.store.pitState carId).nextPitTireRevision + 1 ≤ u64Max := hleft
  cases hmode : (s.store.pitState carId).nextTireMode <;>
    simp [RaceRuntimeStore.setNextTireFromBot, RaceRuntimeStore.tireRevision,
      RaceRuntimeStore.appliedRevision, FixPit.wish, saturatingAdd, hlt, hmode]

theorem planPitFixTireApply_revisions (s : RaceRuntimeStore) (carId : ℕ)
    (current : RuntimePitTireType) (inFix : Bool) :
    let store := (s.planPitFixTireApply carId current inFix).2
    store.tireRevision carId = s.tireRevision carId ∧
      (store.appliedRevision carId = s.appliedRevision carId ∨
        store.appliedRevision carId = none) := by
  rw [planPitFixTireApply_store]
  cases inFix <;>
    simp [RaceRuntimeStore.tireRevision, RaceRuntimeStore.appliedRevision]

/-- A plan for a car in the zone is made unless the wish is applied in its
present revision. -/
theorem planPitFixTireApply_ne_none {s : RaceRuntimeStore} (current : RuntimePitTireType)
    (h : s.appliedRevision carId ≠ some (s.tireRevision carId)) :
    (s.planPitFixTireApply carId current true).1 ≠ none := by
  rw [RaceRuntimeStore.planPitFixTireApply]
  simp only [Bool.true_eq_false, if_false]
  rw [if_neg fun hboth => h hboth.2]
  simp

theorem markPitFixTireApplied_revisions (s : RaceRuntimeStore) (carId : ℕ)
    (tireType : RuntimePitTireType) :
    let store := s.markPitFixTireApplied carId tireType
    store.tireRevision carId = s.tireRevision carId ∧
      store.appliedRevision carId = some (s.tireRevision carId) := by
  simp [RaceRuntimeStore.markPitFixTireApplied, RaceRuntimeStore.tireRevision,
    RaceRuntimeStore.appliedRevision]

/-- The tyre part of a pit state. -/
def RuntimePitState.tireRevisions (entry : RuntimePitState) : ℕ × Option ℕ :=
  (entry.nextPitTireRevision, entry.lastAppliedTireRevisionInCurrentFix)

theorem trackFixSession_tireRevisions (entry : RuntimePitState) (state : VehicleState)
    (raceMetrics : Option VehicleRaceMetrics) (slot nowMs : ℕ) :
    (entry.trackFixSession state raceMetrics slot nowMs).tireRevisions = entry.tireRevisions := by
  cases hin : state.pitstopState.hasZone .fix <;> cases hwas : entry.wasInFixZone <;>
    cases hsession : entry.activeFixSession <;>
    simp [RuntimePitState.trackFixSession, RuntimePitState.tireRevisions,
      RuntimePitState.pushHistory, hin, hwas, hsession]

theorem trackFullPit_tireRevisions (entry : RuntimePitState) (state : VehicleState)
    (raceMetrics : Option VehicleRaceMetrics) (nowMs : ℕ) :
    (entry.trackFullPit state raceMetrics nowMs).tireRevisions = entry.tireRevisions := by
  rw [RuntimePitState.trackFullPit]
  split <;> rfl

theorem updatePitStateFromRuntime_revisions (s : RaceRuntimeStore) (carId : ℕ)
    (state : VehicleState) (raceMetrics : Option VehicleRaceMetrics) (nowMs : ℕ) :
    let store := (s.updatePitStateFromRuntime b carId state raceMetrics nowMs).2
    store.tireRevision carId = s.tireRevision carId ∧
      (store.appliedRevision carId = s.appliedRevision carId ∨
        store.appliedRevision carId = none) := by
  have htracked : ∀ entry : RuntimePitState,
      entry.tireRevisions = (s.pitState carId).tireRevisions →
      entry.nextPitTireRevision = s.tireRevision carId ∧
        (entry.lastAppliedTireRevisionInCurrentFix = s.appliedRevision carId ∨
          entry.lastAppliedTireRevisionInCurrentFix = none) :=
    fun entry h => ⟨congrArg Prod.fst h, Or.inl (congrArg Prod.snd h)⟩
  simp only [RaceRuntimeStore.updatePitStateFromRuntime, RaceRuntimeStore.tireRevision,
    RaceRuntimeStore.appliedRevision, pitState_putPitState_self]
  cases b with
  | official =>
      have hsame := htracked _ (trackFixSession_tireRevisions (s.pitState carId) state raceMetrics
        (s.currentBotSlotForHistory carId) nowMs)
      cases completedPit state
      · exact ⟨hsame.1, Or.inr rfl⟩
      · exact hsame
  | «local» | standalone =>
      have hsame := htracked _ (trackFullPit_tireRevisions (s.pitState carId) state raceMetrics
        nowMs)
      cases completedPit state
      · exact ⟨hsame.1, Or.inr rfl⟩
      · exact hsame

theorem removeCar_revisions (s : RaceRuntimeStore) (carId : ℕ) :
    (s.removeCar carId).appliedRevision carId = none := by
  rw [RaceRuntimeStore.appliedRevision, RaceRuntimeStore.pitState,
    (removeCar_swept s carId).pitState]
  rfl

end Steps

/-! ## The invariant -/

/-- No applied revision is ahead of the wish. What is owed is not applied,
and during a plan the wish has moved on exactly when something is owed. -/
structure FixOk (carId : ℕ) (s : FixPit) : Prop where
  behind : ∀ r, s.store.appliedRevision carId = some r → r ≤ s.store.tireRevision carId
  owed : s.owed = true → s.store.appliedRevision carId ≠ some (s.store.tireRevision carId)
  planned : ∀ state tireType revision, s.stage = .applying state tireType revision →
    (∀ r, s.store.appliedRevision carId = some r → r ≤ revision) ∧
    revision ≤ s.store.tireRevision carId ∧
    (s.owed = true ↔ revision < s.store.tireRevision carId)

section Invariant

variable {b : Build} {carId : ℕ} {s : FixPit}

theorem fixOk_start {store : RaceRuntimeStore} (h : store.appliedRevision carId = none) :
    FixOk carId (FixPit.start store) := by
  constructor
  · simp [FixPit.start, h]
  · simp [FixPit.start]
  · simp [FixPit.start]

theorem FixOk.request (h : FixOk carId s) {store : RaceRuntimeStore}
    (hwish : store.tireRevision carId = s.store.tireRevision carId + 1 ∨
      ({ s with store := store } : FixPit).wish carId = s.wish carId)
    (happlied : store.appliedRevision carId = s.store.appliedRevision carId) :
    FixOk carId (s.request carId store) := by
  rw [FixPit.request]
  dsimp only
  split
  · rename_i hsame
    have hrevision : store.tireRevision carId = s.store.tireRevision carId :=
      congrArg Prod.snd hsame
    constructor
    · simpa [happlied, hrevision] using h.behind
    · simpa [happlied, hrevision] using h.owed
    · simpa [happlied, hrevision] using h.planned
  · rename_i hchanged
    have hrevision := hwish.resolve_right hchanged
    constructor
    · intro r hr
      have hle := h.behind r (happlied ▸ hr)
      dsimp only
      omega
    · intro _ heq
      have hle := h.behind _ (happlied ▸ heq)
      dsimp only at hle
      omega
    · intro state tireType revision hstage
      obtain ⟨hbefore, hle, -⟩ := h.planned state tireType revision hstage
      dsimp only
      refine ⟨fun r hr => hbefore r (happlied ▸ hr), by omega, fun _ => by omega, fun _ => rfl⟩

theorem FixOk.plan (h : FixOk carId s) {store : RaceRuntimeStore} {stage : FixStage}
    (hrevision : store.tireRevision carId = s.store.tireRevision carId)
    (happlied : store.appliedRevision carId = s.store.appliedRevision carId ∨
      store.appliedRevision carId = none)
    (hstage : ∀ state tireType revision, stage = .applying state tireType revision →
      revision = s.store.tireRevision carId) :
    FixOk carId ⟨store, stage, false⟩ := by
  have hbehind : ∀ r, store.appliedRevision carId = some r → r ≤ store.tireRevision carId := by
    intro r hr
    rw [hrevision]
    rcases happlied with hsame | hnone
    · exact h.behind r (hsame ▸ hr)
    · rw [hnone] at hr
      cases hr
  constructor
  · exact hbehind
  · simp
  · intro state tireType revision heq
    obtain rfl := hstage state tireType revision heq
    rw [← hrevision]
    exact ⟨hbehind, le_rfl, by simp⟩

/-- A step that does not disturb a plan keeps the invariant. -/
theorem FixOk.step (h : FixOk carId s) (ev : FixEvent) (hleft : RevisionLeft carId s ev)
    (hmark : MarkedUndisturbed s ev) : FixOk carId (stepFix b carId s ev) := by
  cases ev with
  | frontend tireType =>
      have hwish := setNextTireFromFrontend_wish hleft tireType
      exact h.request (Or.inl hwish.1) hwish.2
  | bot tireType =>
      have hwish := setNextTireFromBot_wish hleft tireType
      exact h.request hwish.1 hwish.2
  | plan state =>
      rw [stepFix]
      split
      · have hplan := planPitFixTireApply_revisions s.store carId
          (runtimeTireTypeFromEngine state.tyreType) (completedPit state)
        apply h.plan hplan.1 hplan.2
        intro state' tireType revision hstage
        split at hstage
        · cases hstage
          rfl
        · cases hstage
      · exact h
      · exact h
  | answer result =>
      rw [stepFix]
      cases hstage : s.stage with
      | idle => exact h
      | applied state => exact h
      | applying state tireType revision =>
          dsimp only
          split
          · have howed := hmark state tireType revision hstage
            have hrevisions := markPitFixTireApplied_revisions s.store carId tireType
            constructor
            · intro r hr
              dsimp only at hr
              rw [hrevisions.2] at hr
              cases hr
              exact hrevisions.1.ge
            · simp [howed]
            · simp
          · constructor
            · simp [removeCar_revisions]
            · simp
            · simp
          · exact ⟨h.behind, h.owed, by simp⟩
  | update raceMetrics nowMs =>
      rw [stepFix]
      split
      · rename_i state hstage
        have hupdate := updatePitStateFromRuntime_revisions (b := b) s.store carId state
          raceMetrics nowMs
        constructor
        · intro r hr
          dsimp only at hr ⊢
          rw [hupdate.1]
          rcases hupdate.2 with hsame | hnone
          · exact h.behind r (hsame ▸ hr)
          · rw [hnone] at hr
            cases hr
        · intro howed heq
          dsimp only at howed heq
          have hs : s.owed = true := (Bool.and_eq_true_iff.mp howed).1
          rw [hupdate.1] at heq
          rcases hupdate.2 with hsame | hnone
          · exact h.owed hs (hsame ▸ heq)
          · rw [hnone] at heq
            cases heq
        · simp
      · exact h
      · exact h

/-- An event honours the requests exactly when it does not mark over
one. -/
theorem FixOk.honours_iff (h : FixOk carId s) (ev : FixEvent) :
    HonoursRequests b carId s ev ↔ MarkedUndisturbed s ev := by
  cases ev with
  | frontend tireType => exact Iff.rfl
  | bot tireType => exact Iff.rfl
  | update raceMetrics nowMs => exact Iff.rfl
  | plan state =>
      refine iff_of_true (fun _ _ howed => ?_) trivial
      exact planPitFixTireApply_ne_none _ (h.owed howed)
  | answer result =>
      cases result with
      | error err => exact Iff.rfl
      | ok value =>
          apply forall_congr'
          intro state
          apply forall_congr'
          intro tireType
          apply forall_congr'
          intro revision
          apply forall_congr'
          intro hstage
          obtain ⟨-, hle, howed⟩ := h.planned state tireType revision hstage
          have hrecorded : ((stepFix b carId s (.answer (.ok ()))).store.pitState carId
              ).lastAppliedTireRevisionInCurrentFix = some (s.store.tireRevision carId) := by
            rw [stepFix, hstage]
            exact (markPitFixTireApplied_revisions s.store carId tireType).2
          rw [hrecorded]
          simp only [Option.some.injEq, forall_eq']
          rw [← Bool.not_eq_true, howed, Nat.not_lt]

end Invariant

/-- While the revisions can be counted, every request is honoured exactly
when none falls between a plan and its mark. -/
theorem requests_honoured_iff (b : Build) (carId : ℕ) (store : RaceRuntimeStore)
    (hnew : store.carPitState.lookup carId = none) (evs : List FixEvent)
    (hleft : Along (RevisionLeft carId) (stepFix b carId) (.start store) evs) :
    Along (HonoursRequests b carId) (stepFix b carId) (.start store) evs ↔
      Along MarkedUndisturbed (stepFix b carId) (.start store) evs := by
  have hstart : FixOk carId (FixPit.start store) := by
    apply fixOk_start
    rw [RaceRuntimeStore.appliedRevision, RaceRuntimeStore.pitState, hnew]
    rfl
  exact hleft.congr_of_kept (fun s ev hs hleft hmark => hs.step ev hleft hmark)
    (fun s ev hs _ => hs.honours_iff ev) hstart

/-- A car stands in the zone, a tyre is asked for, planned and mounted,
and then another one is asked for. -/
def calmStop : List FixEvent :=
  [.frontend .soft, .plan (restingCar 2), .answer (.ok ()), .update none 5, .bot .wet,
    .frontend .wet, .plan (restingCar 2)]

theorem calm_stop_honoured :
    Along (HonoursRequests .official 1) (stepFix .official 1) (.start .new) calmStop := by
  apply (requests_honoured_iff .official 1 .new rfl calmStop ?_).mpr
  · refine ⟨trivial, trivial, ?_, trivial, trivial, trivial, trivial, trivial⟩
    intro state tireType revision _
    rfl
  · refine ⟨?_, trivial, trivial, trivial, ?_, ?_, trivial, trivial⟩ <;>
      rw [RevisionLeft] <;> decide

/-- The same tyre is asked for once more while the first one is being
mounted. The mark takes over the revision of the second request, and the
next pass in the zone plans nothing. -/
theorem second_request_lost :
    ¬ Along (HonoursRequests .official 1) (stepFix .official 1) (.start .new)
      [.frontend .soft, .plan (restingCar 2), .frontend .soft, .answer (.ok ()), .update none 5,
        .plan (restingCar 2)] := by
  rintro ⟨-, -, -, -, -, hplan, -⟩
  exact hplan rfl rfl rfl (by decide)

end HackArena.Services
