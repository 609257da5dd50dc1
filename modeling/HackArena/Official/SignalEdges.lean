import HackArena.Official.RaceStarted

/-!
# Signals that appear

The launcher acts on a signal file on the tick on which it has appeared. It
compares the sample of the tick with one that it remembers. A tick that
closes the session does not renew what is remembered, so the next tick may
compare with a sample that is not the last.
-/

namespace HackArena.Official

open GuardedRun HackArena.Runtime HackArena.Services

/-! ## Ticks, as the calls show them -/

inductive Signal where
  | prepare | start
  deriving DecidableEq, Repr

/-- The variables at the beginning of a tick, the samples, and how often a
preparation and a start were begun. -/
structure TickLog where
  flags : LauncherFlags
  prepare : Option Bool
  start : Option Bool
  preparations : ℕ
  starts : ℕ
  closed : Bool
  deriving DecidableEq, Repr

namespace TickLog

def begun (flags : LauncherFlags) : TickLog := ⟨flags, none, none, 0, 0, false⟩

/-- The file for the preparation is the first that is sampled. -/
def sample (t : TickLog) (present : Bool) : TickLog :=
  match t.prepare with
  | none => { t with prepare := some present }
  | some _ => { t with start := some present }

def found (t : TickLog) : Signal → Bool
  | .prepare => t.prepare.getD false
  | .start => t.start.getD false

end TickLog

/-- The ticks after a call, the latest first. -/
def tickNext : List TickLog → (op : Op) → op.Answer → List TickLog
  | ts, .nextTick flags, shutdown => if shutdown then ts else .begun flags :: ts
  | t :: ts, .outside (.signalPresent _), .ok present => t.sample present :: ts
  | t :: ts, .outside (.signalPresent _), .error _ => t.sample false :: ts
  | t :: ts, .outside .raceConfigs, _ => { t with preparations := t.preparations + 1 } :: ts
  | t :: ts, .store (.markOfficialRaceStarted _), _ => { t with starts := t.starts + 1 } :: ts
  | t :: ts, .store (.officialRaceRemainingSec _), remaining =>
      { t with closed := t.closed || remaining.any fun value => value ≤ 0 } :: ts
  | ts, _, _ => ts

/-- What the tick before has sampled. -/
def lastFound (ts : List TickLog) (signal : Signal) : Bool :=
  (ts.head?.map fun t => t.found signal).getD false

/-- What the last tick has sampled that did not close the session. -/
def remembered (ts : List TickLog) (signal : Signal) : Bool :=
  (ts.find? fun t => !t.closed).any fun t => t.found signal

/-- The file was absent on the tick before. -/
def appeared (t : TickLog) (ts : List TickLog) (signal : Signal) : Bool :=
  t.found signal && !lastFound ts signal

/-- What the launcher goes by. -/
def noticed (t : TickLog) (ts : List TickLog) (signal : Signal) : Bool :=
  t.found signal && !remembered ts signal

/-! ## Acting on edges -/

section Edges

variable (edge : TickLog → List TickLog → Signal → Bool)

/-- Nothing is begun in the tick without a signal for it. -/
structure OnlyOnEdges (t : TickLog) (ts : List TickLog) : Prop where
  preparations : t.preparations ≤ (edge t ts .prepare).toNat + (edge t ts .start).toNat
  starts : t.starts ≤ (edge t ts .start).toNat

/-- In a tick that is over, each of the signals was acted upon. A signal to
start does nothing if the race has started, and ends with the preparation
if that fails. -/
structure ActsOnEdges (t : TickLog) (ts : List TickLog) : Prop extends OnlyOnEdges edge t ts where
  prepare : edge t ts .prepare = true → 1 ≤ t.preparations
  start : edge t ts .start = true → t.starts = 1 ∨
    t.preparations = (edge t ts .prepare).toNat + 1 ∨
      edge t ts .prepare = false ∧ t.flags.raceStarted = true

/-- Every tick acts on its own edges. -/
def ActedOn : List TickLog → Prop
  | [] => True
  | t :: ts => ActsOnEdges edge t ts ∧ ActedOn ts

/-- So far: the latest tick may not be over. -/
def Triggered : List TickLog → Prop
  | [] => True
  | t :: ts => OnlyOnEdges edge t ts ∧ ActedOn edge ts

end Edges

/-- Each time a file is sampled as present after it was absent, the tick
acts on it, and no tick does so otherwise. -/
structure EdgeTriggered (ts : List TickLog) : Prop where
  triggered : Triggered appeared ts

/-- When a file is present, the sample that is remembered of it is the
last. -/
def Settled : List TickLog → Prop
  | [] => True
  | t :: ts =>
      (∀ signal, t.found signal = true → remembered ts signal = lastFound ts signal) ∧ Settled ts

theorem noticed_eq_appeared {t : TickLog} {ts : List TickLog}
    (h : ∀ signal, t.found signal = true → remembered ts signal = lastFound ts signal)
    (signal : Signal) : noticed t ts signal = appeared t ts signal := by
  rw [noticed, appeared]
  cases hfound : t.found signal with
  | false => rfl
  | true => rw [h signal hfound]

section Congr

variable {edge edge' : TickLog → List TickLog → Signal → Bool} {t : TickLog} {ts : List TickLog}

theorem OnlyOnEdges.congr (h : OnlyOnEdges edge t ts)
    (hedge : ∀ signal, edge t ts signal = edge' t ts signal) : OnlyOnEdges edge' t ts :=
  ⟨by simpa only [hedge] using h.preparations, by simpa only [hedge] using h.starts⟩

theorem ActsOnEdges.congr (h : ActsOnEdges edge t ts)
    (hedge : ∀ signal, edge t ts signal = edge' t ts signal) : ActsOnEdges edge' t ts :=
  ⟨h.toOnlyOnEdges.congr hedge, by simpa only [hedge] using h.prepare,
    by simpa only [hedge] using h.start⟩

end Congr

/-- What the launcher notices is what has appeared, as long as the samples
are settled. -/
theorem actedOn_of_settled {ts : List TickLog} (h : ActedOn noticed ts) (hsettled : Settled ts) :
    ActedOn appeared ts := by
  induction ts with
  | nil => trivial
  | cons t ts ih => exact ⟨h.1.congr (noticed_eq_appeared hsettled.1), ih h.2 hsettled.2⟩

theorem edgeTriggered_of_settled {ts : List TickLog} (h : Triggered noticed ts)
    (hsettled : Settled ts) : EdgeTriggered ts := by
  constructor
  cases ts with
  | nil => trivial
  | cons t ts =>
      exact ⟨h.1.congr (noticed_eq_appeared hsettled.1), actedOn_of_settled h.2 hsettled.2⟩

/-! ## The launcher -/

/-- No call of the launcher may come without a signal, and no tick may end
with one left. -/
def signalProtocol : Protocol Op Op.Answer (List TickLog) where
  init := []
  next := tickNext
  permits ts op := Triggered noticed ts → ∀ answer, Triggered noticed (tickNext ts op answer)

/-- A call that the log of a tick does not show. -/
def Op.besideSignals : Op → Bool
  | .nextTick _ | .outside (.signalPresent _) | .outside .raceConfigs
  | .store (.markOfficialRaceStarted _) | .store (.officialRaceRemainingSec _) => false
  | _ => true

section Follows

open Prog

variable {α : Type} {t : TickLog} {ts : List TickLog}

theorem besideSignals_of_aside {op : Op} (h : op.aside = true) : op.besideSignals = true := by
  unfold Op.aside at h
  split at h <;> simp_all [Op.besideSignals]

theorem tickNext_of_besideSignals {op : Op} (h : op.besideSignals = true) (answer : op.Answer) :
    tickNext ts op answer = ts := by
  unfold tickNext
  split <;> simp_all [Op.besideSignals]

theorem beside_follows {p : OfficialProg α} (h : p.Uses (·.besideSignals)) :
    p.Follows signalProtocol (fun _ ts' => ts' = ts) ts :=
  h.follows fun _ hop =>
    ⟨fun hts answer => by rwa [tickNext_of_besideSignals hop], tickNext_of_besideSignals hop⟩

theorem asideSignals_follows {p : OfficialProg α} (h : p.Uses (·.aside)) :
    p.Follows signalProtocol (fun _ ts' => ts' = ts) ts :=
  beside_follows (h.mono fun _ => besideSignals_of_aside)

theorem finalize_besideSignals (recorder : Option ResultsRecorder) :
    (finalize recorder).Uses (·.besideSignals) := by
  cases recorder with
  | none => trivial
  | some recorder => exact .call rfl fun _ => .call rfl fun _ => trivial

theorem cleanup_besideSignals :
    cleanupOfficialRaceSessionLocked.Uses (·.besideSignals) := by
  refine .call rfl fun _ => .call rfl fun bots => ?_
  refine .bind ((cleanupBots_uses bots).mono fun _ => besideSignals_of_aside) fun _ => ?_
  exact .call rfl fun cars => (cleanupStaleCars_uses cars).mono fun _ => besideSignals_of_aside

theorem closeSession_edges (st : LauncherState) :
    (closeSession st).Follows signalProtocol (fun st' ts' => st' = st.ended ∧ ts' = ts) ts := by
  refine Prog.Follows.andThen (beside_follows (finalize_besideSignals _)) fun _ _ h1 => ?_
  subst h1
  refine Prog.Follows.andThen (beside_follows (.call rfl fun _ => .bind (.bind
    (switchToNone_uses.mono fun _ => besideSignals_of_aside) fun _ => cleanup_besideSignals)
    fun _ => .call rfl fun _ => trivial)) fun _ _ h2 => ⟨rfl, h2⟩

/-- A session that is given up for the sake of the frame is not closed. -/
theorem watchRuntime_edges (st : LauncherState) (recorder : ResultsRecorder)
    (hst : st.raceStarted = true → st.racePrepared = true) :
    (watchRuntime st recorder).Follows signalProtocol
      (fun st' ts' => ts' = ts ∧ st'.prepareSignalPresentPrev = st.prepareSignalPresentPrev ∧
        st'.startSignalPresentPrev = st.startSignalPresentPrev ∧
        (st'.raceStarted = true → st'.racePrepared = true)) ts := by
  have htick : (recorderTick recorder).Uses (·.besideSignals) := by
    refine .call rfl fun _ => .call rfl fun nowMs => ?_
    split
    · exact .call rfl fun _ => trivial
    · trivial
  refine Prog.Follows.andThen (beside_follows htick) fun recorder' _ h1 => ?_
  subst h1
  refine .call (fun hts _ => hts) fun frame => ?_
  split
  · exact ⟨rfl, rfl, rfl, hst⟩
  · refine Prog.Follows.andThen (beside_follows (finalize_besideSignals _)) fun _ _ h2 => ?_
    subst h2
    exact .call (fun hts _ => hts) fun _ => ⟨rfl, rfl, rfl, fun hs => by cases hs⟩

theorem launchAndRecord_besideSignals (raceConfig : RaceConfigRecord) (teamIds : List String)
    (ghostModeSettings : Option Boink.GhostModeSettings) :
    (launchAndRecord raceConfig teamIds ghostModeSettings).run.Uses (·.besideSignals) := by
  obtain ⟨rest, huses, hlaunch⟩ := launch_uses raceConfig teamIds ghostModeSettings
  unfold launchAndRecord
  rw [hlaunch]
  refine .bindExcept (.bindExcept (.lift cleanup_besideSignals) fun _ =>
    huses.mono fun _ => besideSignals_of_aside) fun _ => ?_
  refine .bindExcept (.lift ⟨rfl, fun _ => trivial⟩) fun _ => ?_
  refine .bindExcept (.lift ⟨rfl, fun _ => trivial⟩) fun _ => ?_
  exact .bindExcept (.orFail ⟨rfl, fun _ => trivial⟩) fun _ => trivial

/-- A preparation is begun once, for the edges that allow it. -/
theorem prepareSignal_follows (cfg : LauncherConfig)
    (hedge : t.preparations + 1 ≤
      (noticed t ts .prepare).toNat + (noticed t ts .start).toNat) :
    (handleOfficialRacePrepareSignal cfg).run.Follows signalProtocol
      (fun _ ts' => ts' = { t with preparations := t.preparations + 1 } :: ts) (t :: ts) := by
  have hraces : (Op.outside .raceConfigs).call.Follows signalProtocol
      (Either (fun _ ts' => ts' = { t with preparations := t.preparations + 1 } :: ts)
        fun _ ts' => ts' = { t with preparations := t.preparations + 1 } :: ts) (t :: ts) := by
    refine ⟨fun hts _ => ⟨⟨hedge, hts.1.starts⟩, hts.2⟩, fun races => ?_⟩
    cases races with
    | error e => rfl
    | ok races => rfl
  refine Prog.Follows.mono (Prog.Follows.bindExcept (Prog.Follows.orFail hraces)
    fun races ts' h1 => ?_) fun result ts' h => by cases result <;> exact h
  subst h1
  cases races with
  | nil => rfl
  | cons raceConfig races =>
      refine Prog.Follows.mono (beside_follows (.bindExcept
        (readOfficialRaceTeamIds_calls cfg rfl) fun teamIds => .bindExcept
        (readOfficialRaceGhostModeSettings_calls cfg rfl rfl) fun ghostMode => .call rfl fun _ =>
          .bind (launchAndRecord_besideSignals raceConfig teamIds ghostMode) fun _ =>
            .call rfl fun _ => trivial)) fun result ts' h => ?_
      cases result <;> exact h

/-! ## Ticks -/

/-- The variables that outlive a tick are as they were. -/
structure Remembers (st st' : LauncherState) : Prop where
  prepare : st'.prepareSignalPresentPrev = st.prepareSignalPresentPrev
  start : st'.startSignalPresentPrev = st.startSignalPresentPrev
  started : st'.raceStarted = true → st'.racePrepared = true

section Ticks

variable {st : LauncherState} {flags : LauncherFlags} {prepare start : Bool}

/-- The stage in a tick whose samples have been taken. -/
def tickAt (flags : LauncherFlags) (prepare start : Bool) (ts : List TickLog)
    (preparations starts : ℕ) (closed : Bool) : List TickLog :=
  ⟨flags, some prepare, some start, preparations, starts, closed⟩ :: ts

theorem onPrepareSignal_edges (cfg : LauncherConfig)
    (hedge : noticed ⟨flags, some prepare, some start, 0, 0, false⟩ ts .prepare = true) :
    (onPrepareSignal cfg st).Follows signalProtocol
      (fun st' ts' => ts' = tickAt flags prepare start ts 1 0 false ∧ Remembers st st' ∧
        st'.raceStarted = false)
      (tickAt flags prepare start ts 0 0 false) := by
  refine Prog.Follows.andThen (beside_follows (finalize_besideSignals _)) fun _ _ h1 => ?_
  subst h1
  have hallowed : 0 + 1 ≤ (noticed ⟨flags, some prepare, some start, 0, 0, false⟩ ts .prepare).toNat +
      (noticed ⟨flags, some prepare, some start, 0, 0, false⟩ ts .start).toNat := by
    rw [hedge]
    exact Nat.le_add_right 1 _
  refine Prog.Follows.andThen (prepareSignal_follows cfg hallowed) fun result _ h2 => ?_
  subst h2
  cases result with
  | error e => exact ⟨rfl, ⟨rfl, rfl, fun hstarted => by cases hstarted⟩, rfl⟩
  | ok recorder => exact ⟨rfl, ⟨rfl, rfl, fun hstarted => by cases hstarted⟩, rfl⟩

/-- The preparation that a start without one begins. -/
theorem ensurePrepared_edges (cfg : LauncherConfig) {preparations : ℕ}
    (hst : st.raceStarted = true → st.racePrepared = true)
    (hallowed : preparations + 1 ≤
      (noticed ⟨flags, some prepare, some start, preparations, 0, false⟩ ts .prepare).toNat +
        (noticed ⟨flags, some prepare, some start, preparations, 0, false⟩ ts .start).toNat) :
    (ensurePrepared cfg st).Follows signalProtocol
      (fun st' ts' => Remembers st st' ∧
        (st.racePrepared = true ∧ st' = st ∧
            ts' = tickAt flags prepare start ts preparations 0 false ∨
          st'.raceStarted = false ∧
            ts' = tickAt flags prepare start ts (preparations + 1) 0 false))
      (tickAt flags prepare start ts preparations 0 false) := by
  unfold ensurePrepared
  split
  · rename_i hprepared
    exact ⟨⟨rfl, rfl, hst⟩, .inl ⟨hprepared, rfl, rfl⟩⟩
  · rename_i hprepared
    refine Prog.Follows.andThen (beside_follows (finalize_besideSignals _)) fun _ _ h1 => ?_
    subst h1
    refine Prog.Follows.andThen (prepareSignal_follows cfg hallowed) fun result _ h2 => ?_
    subst h2
    cases result with
    | error e =>
        have hstarted : st.raceStarted = false := by
          cases hs : st.raceStarted with
          | false => rfl
          | true => exact absurd (hst hs) hprepared
        exact ⟨⟨rfl, rfl, hst⟩, .inr ⟨hstarted, rfl⟩⟩
    | ok recorder => exact ⟨⟨rfl, rfl, fun hs => by cases hs⟩, .inr ⟨rfl, rfl⟩⟩

theorem startRace_edges {preparations : ℕ} (hst : st.racePrepared = true)
    (hedge : noticed ⟨flags, some prepare, some start, preparations, 0, false⟩ ts .start = true) :
    (startRace st).Follows signalProtocol
      (fun st' ts' => ts' = tickAt flags prepare start ts preparations 1 false ∧
        Remembers st st')
      (tickAt flags prepare start ts preparations 0 false) := by
  refine Prog.Follows.andThen (asideSignals_follows refreshOfficialRaceBotsBeforeStartLocked_uses)
    fun _ _ h1 => ?_
  subst h1
  refine Prog.Follows.andThen (asideSignals_follows forceOfficialRaceHardTyres_uses)
    fun _ _ h2 => ?_
  subst h2
  refine .call (fun hts _ => hts) fun frame => ?_
  refine .call (fun hts _ => ⟨⟨hts.1.preparations, ?_⟩, hts.2⟩) fun _ => ?_
  · change 1 ≤ (noticed ⟨flags, some prepare, some start, preparations, 0, false⟩ ts .start).toNat
    rw [hedge]
    exact Nat.le_refl 1
  · exact ⟨rfl, rfl, rfl, fun _ => hst⟩

/-- The signal to start does nothing in a started race. -/
theorem onStartSignal_edges (cfg : LauncherConfig) {preparations : ℕ}
    (hst : st.raceStarted = true → st.racePrepared = true)
    (hedge : noticed ⟨flags, some prepare, some start, preparations, 0, false⟩ ts .start = true)
    (hpreparations : preparations =
      (noticed ⟨flags, some prepare, some start, preparations, 0, false⟩ ts .prepare).toNat) :
    (onStartSignal cfg st).Follows signalProtocol
      (fun st' ts' => Remembers st st' ∧ ∃ preparations' starts,
        ts' = tickAt flags prepare start ts preparations' starts false ∧
        preparations ≤ preparations' ∧ preparations' ≤ preparations + 1 ∧ starts ≤ 1 ∧
        (starts = 1 ∨ preparations' = preparations + 1 ∨ st.raceStarted = true))
      (tickAt flags prepare start ts preparations 0 false) := by
  have hallowed : preparations + 1 ≤
      (noticed ⟨flags, some prepare, some start, preparations, 0, false⟩ ts .prepare).toNat +
        (noticed ⟨flags, some prepare, some start, preparations, 0, false⟩ ts .start).toNat := by
    rw [hedge, ← hpreparations]
    exact Nat.le_refl _
  refine Prog.Follows.andThen (ensurePrepared_edges cfg hst hallowed) fun st1 ts1 h1 => ?_
  obtain ⟨hremembers, hcases⟩ := h1
  split
  · rename_i hready
    rcases hcases with ⟨-, -, rfl⟩ | ⟨-, rfl⟩
    · refine Prog.Follows.mono (startRace_edges hready.1 hedge) fun st' ts' h => ?_
      obtain ⟨rfl, hafter⟩ := h
      exact ⟨⟨hafter.prepare.trans hremembers.prepare, hafter.start.trans hremembers.start,
        hafter.started⟩, preparations, 1, rfl, Nat.le_refl _, Nat.le_succ _, Nat.le_refl 1, .inl rfl⟩
    · refine Prog.Follows.mono (startRace_edges hready.1 hedge) fun st' ts' h => ?_
      obtain ⟨rfl, hafter⟩ := h
      exact ⟨⟨hafter.prepare.trans hremembers.prepare, hafter.start.trans hremembers.start,
        hafter.started⟩, preparations + 1, 1, rfl, Nat.le_succ _, Nat.le_refl _, Nat.le_refl 1,
        .inl rfl⟩
  · rename_i hidle
    rcases hcases with ⟨hprepared, rfl, rfl⟩ | ⟨-, rfl⟩
    · refine ⟨hremembers, preparations, 0, rfl, Nat.le_refl _, Nat.le_succ _, Nat.zero_le 1,
        .inr (.inr ?_)⟩
      cases hs : st1.raceStarted with
      | true => rfl
      | false => exact absurd ⟨hprepared, hs⟩ hidle
    · exact ⟨hremembers, preparations + 1, 0, rfl, Nat.le_succ _, Nat.le_refl _, Nat.zero_le 1,
        .inr (.inl rfl)⟩

/-- The end of a tick begins nothing. It is known whether it closes the
session. -/
theorem supervise_edges (hst : st.raceStarted = true → st.racePrepared = true)
    {preparations starts : ℕ} :
    (supervise st).Follows signalProtocol
      (fun r ts' => ts' = tickAt flags prepare start ts preparations starts r.2 ∧
        Remembers st r.1)
      (tickAt flags prepare start ts preparations starts false) := by
  unfold supervise
  split
  · exact ⟨rfl, rfl, rfl, hst⟩
  · rename_i recorder _
    refine Prog.Follows.andThen (asideSignals_follows (pinGrid_uses st)) fun _ _ h1 => ?_
    subst h1
    refine Prog.Follows.andThen (?_ : Prog.Follows signalProtocol (fun elapsed ts' =>
      ts' = tickAt flags prepare start ts preparations starts elapsed) _ _) fun elapsed _ h2 => ?_
    · unfold raceDurationElapsed
      split
      · refine .call (fun hts _ => hts) fun frame => ?_
        refine .call (fun hts _ => ⟨⟨hts.1.preparations, hts.1.starts⟩, hts.2⟩) fun remaining => ?_
        rfl
      · rfl
    · subst h2
      cases elapsed with
      | true =>
          refine Prog.Follows.andThen (closeSession_edges st) fun st' _ h3 => ?_
          obtain ⟨rfl, rfl⟩ := h3
          exact ⟨rfl, rfl, rfl, fun hs => by cases hs⟩
      | false =>
          refine Prog.Follows.andThen (watchRuntime_edges st recorder hst) fun st' _ h3 => ?_
          obtain ⟨rfl, hprepare, hstart, hstarted⟩ := h3
          exact ⟨rfl, hprepare, hstart, hstarted⟩

theorem sampleSignal_edges (path : String) (ht : t.preparations = 0 ∧ t.starts = 0) :
    (sampleSignal path).Follows signalProtocol
      (fun present ts' => ts' = t.sample present :: ts) (t :: ts) := by
  have hsampled : ∀ present, Triggered noticed (t :: ts) →
      Triggered noticed (t.sample present :: ts) := by
    intro present hts
    have hnone : (t.sample present).preparations = 0 ∧ (t.sample present).starts = 0 := by
      rw [TickLog.sample]
      split <;> exact ht
    refine ⟨⟨?_, ?_⟩, hts.2⟩
    · rw [hnone.1]
      exact Nat.zero_le _
    · rw [hnone.2]
      exact Nat.zero_le _
  refine .call (fun hts answer => ?_) fun value => ?_
  · cases answer with
    | error e => exact hsampled false hts
    | ok present => exact hsampled present hts
  · cases value with
    | error e => rfl
    | ok present => rfl

/-- Between two ticks the launcher remembers what the log shows, and the
last tick has acted on what was noticed. -/
structure Between (st : LauncherState) (ts : List TickLog) : Prop where
  prepare : st.prepareSignalPresentPrev = remembered ts .prepare
  start : st.startSignalPresentPrev = remembered ts .start
  started : st.raceStarted = true → st.racePrepared = true
  acted : ∀ t ts', ts = t :: ts' → ActsOnEdges noticed t ts'

theorem remembered_closed {t : TickLog} (h : t.closed = true) (signal : Signal) :
    remembered (t :: ts) signal = remembered ts signal := by
  simp [remembered, h]

theorem remembered_open {t : TickLog} (h : t.closed = false) (signal : Signal) :
    remembered (t :: ts) signal = t.found signal := by
  simp [remembered, h]

theorem onPrepareEdge (cfg : LauncherConfig) (h : Between st ts) :
    (onEdge prepare st.prepareSignalPresentPrev (onPrepareSignal cfg) st).Follows signalProtocol
      (fun st' ts' => Remembers st st' ∧
        ts' = tickAt flags prepare start ts (prepare && !remembered ts .prepare).toNat 0 false ∧
        ((prepare && !remembered ts .prepare) = false ∧ st' = st ∨ st'.raceStarted = false))
      (tickAt flags prepare start ts 0 0 false) := by
  unfold onEdge
  rw [h.prepare]
  split
  · rename_i hedge
    have hnoticed : (prepare && !remembered ts .prepare) = true := by simp [hedge]
    refine Prog.Follows.mono (onPrepareSignal_edges cfg hnoticed) fun st' ts' h' => ?_
    obtain ⟨rfl, hremembers, hstarted⟩ := h'
    rw [hnoticed]
    exact ⟨hremembers, rfl, .inr hstarted⟩
  · rename_i hidle
    have hnoticed : (prepare && !remembered ts .prepare) = false := by
      cases prepare with
      | false => rfl
      | true =>
          cases hr : remembered ts .prepare with
          | false => exact absurd ⟨rfl, hr⟩ hidle
          | true => rfl
    rw [hnoticed]
    exact ⟨⟨rfl, rfl, h.started⟩, rfl, .inl ⟨rfl, rfl⟩⟩

/-- What is left of a tick acts on the signal to start, and on nothing
else. -/
theorem onStartEdge (cfg : LauncherConfig) {startPrev : Bool}
    (hst : st.raceStarted = true → st.racePrepared = true)
    (hprev : startPrev = remembered ts .start)
    (hstarted : (prepare && !remembered ts .prepare) = false ∧ st.raceStarted = flags.raceStarted ∨
      st.raceStarted = false) :
    (onEdge start startPrev (onStartSignal cfg) st).Follows signalProtocol
      (fun st' ts' => Remembers st st' ∧ ∃ preparations starts,
        ts' = tickAt flags prepare start ts preparations starts false ∧
        ∀ closed, ActsOnEdges noticed
          ⟨flags, some prepare, some start, preparations, starts, closed⟩ ts)
      (tickAt flags prepare start ts (prepare && !remembered ts .prepare).toNat 0 false) := by
  have hprepare : (prepare && !remembered ts .prepare) = true →
      1 ≤ (prepare && !remembered ts .prepare).toNat := by
    intro hedge
    rw [hedge]
    exact Nat.le_refl 1
  unfold onEdge
  rw [hprev]
  split
  · rename_i hedge
    have hnoticed : (start && !remembered ts .start) = true := by simp [hedge]
    refine Prog.Follows.mono (onStartSignal_edges cfg hst hnoticed rfl) fun st' ts' h' => ?_
    obtain ⟨hremembers, preparations, starts, rfl, hmin, hmax, hstarts, hcases⟩ := h'
    refine ⟨hremembers, preparations, starts, rfl, fun closed => ?_⟩
    have hone : (start && !remembered ts .start).toNat = 1 := by rw [hnoticed]; rfl
    refine ⟨⟨?_, ?_⟩, fun hedge' => (hprepare hedge').trans hmin, fun _ => ?_⟩
    · change preparations ≤ (prepare && !remembered ts .prepare).toNat +
        (start && !remembered ts .start).toNat
      rw [hone]
      exact hmax
    · change starts ≤ (start && !remembered ts .start).toNat
      rw [hone]
      exact hstarts
    · rcases hcases with hstart | hfailed | hbefore
      · exact .inl hstart
      · exact .inr (.inl hfailed)
      · rcases hstarted with ⟨hnone, hflags⟩ | hnot
        · exact .inr (.inr ⟨hnone, hflags.symm.trans hbefore⟩)
        · rw [hnot] at hbefore
          cases hbefore
  · rename_i hidle
    have hnoticed : (start && !remembered ts .start) = false := by
      cases start with
      | false => rfl
      | true =>
          cases hr : remembered ts .start with
          | false => exact absurd ⟨rfl, hr⟩ hidle
          | true => rfl
    refine ⟨⟨rfl, rfl, hst⟩, _, 0, rfl, fun closed => ?_⟩
    refine ⟨⟨Nat.le_add_right _ _, Nat.zero_le _⟩, hprepare, fun hedge => ?_⟩
    change (start && !remembered ts .start) = true at hedge
    rw [hnoticed] at hedge
    cases hedge

theorem launcherTick_edges (cfg : LauncherConfig) (h : Between st ts) :
    (launcherTick cfg st).Follows signalProtocol Between (.begun st.flags :: ts) := by
  refine Prog.Follows.andThen (sampleSignal_edges _ ⟨rfl, rfl⟩) fun prepare _ h1 => ?_
  subst h1
  refine Prog.Follows.andThen (sampleSignal_edges _ ⟨rfl, rfl⟩) fun start _ h2 => ?_
  subst h2
  change Prog.Follows signalProtocol Between _ (tickAt st.flags prepare start ts 0 0 false)
  refine Prog.Follows.andThen (onPrepareEdge cfg h) fun st1 _ h3 => ?_
  obtain ⟨hremembers1, rfl, hcases⟩ := h3
  have hstarted : (prepare && !remembered ts .prepare) = false ∧
      st1.raceStarted = st.flags.raceStarted ∨ st1.raceStarted = false :=
    hcases.imp (fun hsame => ⟨hsame.1, by rw [hsame.2]; rfl⟩) id
  refine Prog.Follows.andThen (onStartEdge cfg hremembers1.started
    (hremembers1.start.trans h.start) hstarted) fun st2 _ h4 => ?_
  obtain ⟨hremembers2, preparations, starts, rfl, hacts⟩ := h4
  refine Prog.Follows.andThen (supervise_edges hremembers2.started) fun r _ h5 => ?_
  obtain ⟨st3, closed⟩ := r
  obtain ⟨rfl, hremembers3⟩ := h5
  dsimp only at hremembers3 ⊢
  have hacted : ∀ t ts', tickAt st.flags prepare start ts preparations starts closed = t :: ts' →
      ActsOnEdges noticed t ts' := by
    intro t ts' heq
    obtain ⟨rfl, rfl⟩ := List.cons.inj heq
    exact hacts closed
  split
  · rename_i hclosed
    refine ⟨?_, ?_, hremembers3.started, hacted⟩
    · rw [tickAt, remembered_closed hclosed, hremembers3.prepare, hremembers2.prepare,
        hremembers1.prepare, h.prepare]
    · rw [tickAt, remembered_closed hclosed, hremembers3.start, hremembers2.start,
        hremembers1.start, h.start]
  · rename_i hopen
    have hopen' : closed = false := by simpa using hopen
    refine ⟨?_, ?_, hremembers3.started, hacted⟩
    · rw [tickAt, remembered_open hopen']
      rfl
    · rw [tickAt, remembered_open hopen']
      rfl

end Ticks

theorem launcherLoop_edges (cfg : LauncherConfig) (fuel : ℕ) {st : LauncherState}
    (h : Between st ts) :
    (launcherLoop cfg fuel st).Follows signalProtocol (fun _ _ => True) ts := by
  induction fuel generalizing st ts with
  | zero => trivial
  | succ fuel ih =>
      refine .call (fun hts shutdown => ?_) fun shutdown => ?_
      · cases shutdown with
        | true => exact hts
        | false =>
            have hfresh : OnlyOnEdges noticed (.begun st.flags) ts := ⟨Nat.zero_le _, Nat.zero_le _⟩
            cases ts with
            | nil => exact ⟨hfresh, trivial⟩
            | cons t ts => exact ⟨hfresh, h.acted t ts rfl, hts.2⟩
      · split
        · rename_i hshutdown
          subst hshutdown
          exact Prog.Follows.andThen (beside_follows (finalize_besideSignals _)) fun _ _ _ =>
            ⟨fun hts _ => hts, fun _ => trivial⟩
        · rename_i hgoes
          obtain rfl : shutdown = false := by simpa using hgoes
          exact Prog.Follows.andThen (launcherTick_edges cfg h) fun st' ts' h' => ih h'

theorem officialRaceFileLauncher_edges (cfg : LauncherConfig) (fuel : ℕ) :
    (officialRaceFileLauncher cfg fuel).Follows signalProtocol (fun _ _ => True)
      signalProtocol.init :=
  .call (fun hts _ => hts) fun _ => launcherLoop_edges cfg fuel
    ⟨rfl, rfl, (fun h => by cases h), fun _ _ h => by cases h⟩

end Follows

/-! ## Runs -/

/-- The ticks of the launcher in a log. -/
def launcherTicks (log : List (Entry Op Op.Answer)) : List TickLog := signalProtocol.stageOf 0 log

def signalProtocols : ℕ → Protocol Op Op.Answer (List TickLog)
  | 0 => signalProtocol
  | _ + 1 => Protocol.only (fun op => op.writesSession = false) []

theorem launcherThreads_signals (cfg : LauncherConfig) (fuel : ℕ) (others : ℕ → OtherTask)
    (s : OfficialState) :
    (Pool.start s (launcherThreads cfg fuel others)).FollowedBy signalProtocols
      fun _ _ => True := by
  intro i
  cases i with
  | zero => exact officialRaceFileLauncher_edges cfg fuel
  | succ i => exact (others i).2.follows_only []

/-- In every run, each tick acts on what the launcher notices. -/
theorem launcherTicks_triggered (cfg : LauncherConfig) (fuel : ℕ) (others : ℕ → OtherTask)
    (s : OfficialState) (events : List (ℕ × Input)) (n : ℕ) :
    Triggered noticed (launcherTicks (stateAt (Pool.step exec)
      (Pool.start s (launcherThreads cfg fuel others)) events n).world.log) := by
  have hkept : ∀ (w : OfficialWorld) (i : ℕ) (op : Op) (input : Input),
      Triggered noticed (launcherTicks w.log) → True →
      (signalProtocols i).permits ((signalProtocols i).stageOf i w.log) op →
      Triggered noticed (launcherTicks (w.perform exec i op input).log) := by
    intro w i op input hw _ hpermits
    cases i with
    | zero =>
        rw [launcherTicks, Protocol.stageOf_perform_self]
        exact hpermits hw _
    | succ i =>
        rw [launcherTicks, Protocol.stageOf_perform_ne exec signalProtocol w
          (Nat.succ_ne_zero i).symm]
        exact hw
  have hguard : ∀ (p : OfficialPool) (event : ℕ × Input),
      Pool.Guarded (fun _ _ _ _ => True) p event := by
    intro p event
    rw [Pool.Guarded]
    split <;> trivial
  exact (launcherThreads_signals cfg fuel others s).invariant hkept trivial
    (along_of_forall hguard) n

/-- In every run in which the samples are settled, each appearance of a
signal file is acted upon on the tick on which it is first sampled, and
nothing is prepared or started on any other tick. -/
theorem signals_edge_triggered (cfg : LauncherConfig) (fuel : ℕ) (others : ℕ → OtherTask)
    (s : OfficialState) (events : List (ℕ × Input)) (n : ℕ)
    (hsettled : Settled (launcherTicks (stateAt (Pool.step exec)
      (Pool.start s (launcherThreads cfg fuel others)) events n).world.log)) :
    EdgeTriggered (launcherTicks (stateAt (Pool.step exec)
      (Pool.start s (launcherThreads cfg fuel others)) events n).world.log) :=
  edgeTriggered_of_settled (launcherTicks_triggered cfg fuel others s events n) hsettled

instance decidableForallSignal (P : Signal → Prop) [DecidablePred P] :
    Decidable (∀ signal, P signal) :=
  decidable_of_iff (P .prepare ∧ P .start)
    ⟨fun h signal => by cases signal; exact h.1; exact h.2, fun h => ⟨h _, h _⟩⟩

instance decidableSettled : DecidablePred Settled
  | [] => .isTrue trivial
  | t :: ts =>
      have := decidableSettled ts
      inferInstanceAs (Decidable ((∀ signal, t.found signal = true →
        remembered ts signal = lastFound ts signal) ∧ Settled ts))

namespace OneRace

/-- A frame of a minute later. -/
def minute : Input := { works with nowMs := 62000 }

/-- The signal to start prepares and starts the race, and is gone on the
next tick. -/
def raced : List (ℕ × Input) :=
  [(0, works), (0, works), (0, works), (0, signal)] ++ List.replicate 13 (0, works) ++
    List.replicate 2 (1, works) ++ List.replicate 19 (0, works)

/-- The next frame closes the session. -/
def calm : List (ℕ × Input) :=
  raced ++ List.replicate 2 (1, minute) ++ List.replicate 17 (0, works)

theorem calm_edge_triggered :
    EdgeTriggered (launcherTicks (stateAt (Pool.step exec) start calm calm.length).world.log) :=
  signals_edge_triggered cfg 5 others _ calm calm.length (by decide +kernel)

/-- The file appears on the tick that closes the session, and is still
there on the next. -/
def restarted : List (ℕ × Input) :=
  raced ++ List.replicate 2 (1, minute) ++ [(0, works), (0, works), (0, signal)] ++
    List.replicate 11 (0, works) ++ [(0, works), (0, works), (0, signal)] ++
    List.replicate 20 (0, works)

/-- Another race is prepared and started, although the file has not
appeared since the first. -/
theorem restarted_not_edge_triggered :
    launcherTicks (stateAt (Pool.step exec) start restarted restarted.length).world.log =
        [⟨⟨false, false, false⟩, some false, some true, 1, 1, false⟩,
          ⟨⟨true, true, true⟩, some false, some true, 0, 0, true⟩,
          ⟨⟨true, true, true⟩, some false, some false, 0, 0, false⟩,
          ⟨⟨false, false, false⟩, some false, some true, 1, 1, false⟩] ∧
      ¬ EdgeTriggered
        (launcherTicks (stateAt (Pool.step exec) start restarted restarted.length).world.log) := by
  have hticks : launcherTicks
      (stateAt (Pool.step exec) start restarted restarted.length).world.log =
        [⟨⟨false, false, false⟩, some false, some true, 1, 1, false⟩,
          ⟨⟨true, true, true⟩, some false, some true, 0, 0, true⟩,
          ⟨⟨true, true, true⟩, some false, some false, 0, 0, false⟩,
          ⟨⟨false, false, false⟩, some false, some true, 1, 1, false⟩] := by
    decide +kernel
  refine ⟨hticks, ?_⟩
  rw [hticks]
  intro h
  exact absurd h.triggered.1.starts (by decide)

end OneRace

end HackArena.Official
