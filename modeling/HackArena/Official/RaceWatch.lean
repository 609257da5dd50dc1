import HackArena.Official.RaceStarted

/-!
# When the launcher gives up a session

A session that is held is given up when the process shuts down, when the
signal to prepare has come again, when its time has elapsed, or when the
frame that the launcher looks at does not show the race. The last of these
says something about the engine only if the frame is not older than the
session.
-/

namespace HackArena.Official

open GuardedRun HackArena.Runtime

/-- A session is recorded in the store, and is held from the first results
on. -/
inductive SessionHold where
  | none | recorded | held
  deriving DecidableEq, Repr

/-- What the launcher has to do with the session, whether the present tick
has had a reason to give it up, whether the signal to prepare has been
sampled in it and how it was found last, and the runtime state in the latest
frame read. -/
structure WatchStage where
  hold : SessionHold
  excused : Bool
  sampled : Bool
  present : Bool
  frame : Option EngineRuntimeState

namespace WatchStage

def initial : WatchStage := ⟨.none, false, false, false, none⟩

/-- The file for the preparation is the first that is sampled. -/
def sample (s : WatchStage) (present : Bool) : WatchStage :=
  if s.sampled then s
  else { s with
    sampled := true
    present := present
    excused := s.excused || (present && !s.present) }

def written (s : WatchStage) (ok : Bool) : WatchStage :=
  match s.hold with
  | .recorded => { s with hold := if ok then .held else .none }
  | _ => s

def next (s : WatchStage) : (op : Op) → op.Answer → WatchStage
  | .nextTick _, shutdown => { s with excused := shutdown, sampled := false }
  | .outside (.signalPresent _), .ok present => s.sample present
  | .outside (.signalPresent _), .error _ => s.sample false
  | .outside .raceConfigs, _ | .store .clearOfficialRaceSession, _ => { s with hold := .none }
  | .store (.setOfficialRacePrepared ..), _ => { s with hold := .recorded, excused := false }
  | .outside .writeSnapshot, .ok _ => s.written true
  | .outside .writeSnapshot, .error _ => s.written false
  | .store (.officialRaceRemainingSec _), remaining =>
      { s with excused := s.excused || remaining.any fun value => value ≤ 0 }
  | .latestFrame, frame => { s with frame := frame.runtimeState }
  | _, _ => s

/-- The latest frame shows the race. -/
def ShowsRace (s : WatchStage) : Prop := s.frame.map (·.activityKind) = some .officialRace

end WatchStage

/-- The session ends with this call, or another one is prepared. -/
def Op.givesUp : Op → Bool
  | .store .clearOfficialRaceSession | .outside .raceConfigs => true
  | _ => false

def watchProtocol : Protocol Op Op.Answer WatchStage where
  init := .initial
  next := WatchStage.next
  permits s op := op.givesUp = true → s.hold = .held →
    s.excused = true ∨ op = .store .clearOfficialRaceSession ∧ ¬ s.ShowsRace

section Follows

open Prog

variable {α : Type} {s s' : WatchStage}

/-- Nothing but the latest frame has changed. -/
def Same (s s' : WatchStage) : Prop := ∃ frame, s' = { s with frame := frame }

theorem Same.refl (s : WatchStage) : Same s s := ⟨s.frame, rfl⟩

/-- A call that leaves all but the latest frame, as long as no session is
recorded without results. -/
def Op.besideWatch : Op → Bool
  | .latestFrame | .outside .writeSnapshot | .outside .readTeamsFile
  | .outside .ghostModeFileExists | .outside .readGhostModeFile => true
  | op => op.aside

theorem besideWatch_of_aside {op : Op} (h : op.aside = true) : op.besideWatch = true := by
  unfold Op.besideWatch
  split
  all_goals first | rfl | exact h

theorem next_of_aside {op : Op} (h : op.aside = true) (answer : op.Answer) :
    s.next op answer = s := by
  unfold WatchStage.next
  split <;> simp_all [Op.aside]

theorem written_of_ne (h : s.hold ≠ .recorded) (ok : Bool) : s.written ok = s := by
  unfold WatchStage.written
  split
  · rename_i hrecorded
    exact absurd hrecorded h
  · rfl

theorem permits_of_besideWatch {op : Op} (h : op.besideWatch = true) :
    watchProtocol.permits s op := by
  intro hgives
  unfold Op.givesUp at hgives
  split at hgives <;> simp_all [Op.besideWatch, Op.aside]

theorem same_of_besideWatch {op : Op} (h : op.besideWatch = true) (hhold : s.hold ≠ .recorded)
    (hs : Same s s') (answer : op.Answer) : Same s (watchProtocol.next s' op answer) := by
  obtain ⟨frame, rfl⟩ := hs
  unfold Op.besideWatch at h
  split at h
  · exact ⟨_, rfl⟩
  · refine ⟨frame, ?_⟩
    cases answer with
    | error e => exact written_of_ne (s := { s with frame := frame }) hhold false
    | ok _ => exact written_of_ne (s := { s with frame := frame }) hhold true
  · exact ⟨frame, rfl⟩
  · exact ⟨frame, rfl⟩
  · exact ⟨frame, rfl⟩
  · exact ⟨frame, next_of_aside h answer⟩

theorem besideWatch_follows {p : OfficialProg α} (h : p.Uses (·.besideWatch))
    (hhold : s.hold ≠ .recorded) : p.Follows watchProtocol (fun _ => Same s) s :=
  h.follows_keeping (fun _ _ hop hs =>
    ⟨permits_of_besideWatch hop, same_of_besideWatch hop hhold hs⟩) (Same.refl s)

theorem asideWatch_follows {p : OfficialProg α} (h : p.Uses (·.aside)) :
    p.Follows watchProtocol (fun _ s' => s' = s) s :=
  h.follows fun _ hop =>
    ⟨permits_of_besideWatch (besideWatch_of_aside hop), next_of_aside hop⟩

/-! ## Ends and preparations -/

/-- The samples of the tick are as they were, and the session is held as
`hold` says. -/
structure Sampled (s : WatchStage) (hold : SessionHold) (s' : WatchStage) : Prop where
  hold : s'.hold = hold
  sampled : s'.sampled = s.sampled
  present : s'.present = s.present

theorem Same.sampled (h : Same s s') : Sampled s s.hold s' := by
  obtain ⟨frame, rfl⟩ := h
  exact ⟨rfl, rfl, rfl⟩

theorem Sampled.trans {s'' : WatchStage} {hold hold' : SessionHold} (h : Sampled s hold s')
    (h' : Sampled s' hold' s'') : Sampled s hold' s'' :=
  ⟨h'.hold, h'.sampled.trans h.sampled, h'.present.trans h.present⟩

theorem cleanup_watch (hexcused : s.hold = .held → s.excused = true) :
    cleanupOfficialRaceSessionLocked.Follows watchProtocol (fun _ => Sampled s .none) s := by
  refine .call (fun _ hheld => Or.inl (hexcused hheld)) fun _ => ?_
  refine .call (permits_of_besideWatch rfl) fun bots => ?_
  refine Prog.Follows.andThen (asideWatch_follows (cleanupBots_uses bots)) fun _ _ h1 => ?_
  subst h1
  refine .call (permits_of_besideWatch rfl) fun cars => ?_
  refine Prog.Follows.mono (asideWatch_follows (cleanupStaleCars_uses cars)) fun _ _ h2 => ?_
  subst h2
  exact ⟨rfl, rfl, rfl⟩

theorem finalize_watch (recorder : Option ResultsRecorder) (hhold : s.hold ≠ .recorded) :
    (finalize recorder).Follows watchProtocol (fun _ s' => s' = s) s := by
  cases recorder with
  | none => rfl
  | some recorder =>
      refine .call (permits_of_besideWatch rfl) fun _ => ?_
      refine .call (permits_of_besideWatch rfl) fun written => ?_
      cases written with
      | error e => exact written_of_ne hhold false
      | ok _ => exact written_of_ne hhold true

theorem closeSession_watch (st : LauncherState) (hhold : s.hold ≠ .recorded)
    (hexcused : s.excused = true) :
    (closeSession st).Follows watchProtocol (fun st' s' => st' = st.ended ∧ Sampled s .none s')
      s := by
  refine Prog.Follows.andThen (finalize_watch _ hhold) fun _ s1 h1 => ?_
  subst h1
  refine Prog.Follows.andThen (?_ : Prog.Follows watchProtocol (fun _ => Sampled s1 .none) _ _)
    fun _ s' h => ⟨rfl, h⟩
  refine .call (permits_of_besideWatch rfl) fun _ => ?_
  refine Prog.Follows.andThen (?_ : Prog.Follows watchProtocol (fun _ => Sampled s1 .none) _ _)
    fun _ s' h => .call (permits_of_besideWatch rfl) fun _ => h
  refine Prog.Follows.andThen (asideWatch_follows switchToNone_uses) fun _ s2 h2 => ?_
  subst h2
  exact cleanup_watch fun _ => hexcused

/-- A preparation that succeeds has a session held, and one that fails
none. -/
abbrev Held (s : WatchStage) {ε : Type} : Except ε α → WatchStage → Prop :=
  Either (fun _ => Sampled s .held) (fun _ => Sampled s .none)

theorem launchAndRecord_watch (raceConfig : RaceConfigRecord) (teamIds : List String)
    (ghostModeSettings : Option Boink.GhostModeSettings) (hnone : s.hold = .none) :
    (launchAndRecord raceConfig teamIds ghostModeSettings).run.Follows watchProtocol (Held s)
      s := by
  obtain ⟨rest, huses, hlaunch⟩ := launch_uses raceConfig teamIds ghostModeSettings
  unfold launchAndRecord
  rw [hlaunch]
  refine .bindExcept (?_ : Prog.Follows watchProtocol
    (Either (fun _ => Sampled s .none) fun _ => Sampled s .none) _ _) fun _ s1 h1 => ?_
  · refine .bindExcept (Prog.Follows.lift (cleanup_watch fun hheld => by simp [hnone] at hheld))
      fun _ s1 h1 => ?_
    refine Prog.Follows.mono (asideWatch_follows huses) fun result s2 h2 => ?_
    subst h2
    cases result with
    | error e => exact h1
    | ok result => exact h1
  · have hnow : (Op.outside .currentUnixMs).call.Follows watchProtocol (fun _ s2 => s2 = s1) s1 :=
      ⟨permits_of_besideWatch rfl, fun _ => rfl⟩
    refine .bindExcept (Prog.Follows.lift hnow) fun preparedAtMs s2 h2 => ?_
    subst h2
    have hrecorded : (Op.store (.setOfficialRacePrepared raceConfig.raceName raceConfig.mapId
        raceConfig.raceDurationSec preparedAtMs)).call.Follows watchProtocol
          (fun _ => Sampled s .recorded) s2 :=
      ⟨nofun, fun _ => ⟨rfl, h1.sampled, h1.present⟩⟩
    refine .bindExcept (Prog.Follows.lift hrecorded) fun _ s3 h3 => ?_
    have hwritten : (Op.outside .writeSnapshot).call.Follows watchProtocol (Held s) s3 := by
      refine ⟨permits_of_besideWatch rfl, fun written => ?_⟩
      cases written with
      | error e =>
          change Sampled s .none (s3.written false)
          rw [WatchStage.written, h3.hold]
          exact ⟨rfl, h3.sampled, h3.present⟩
      | ok _ =>
          change Sampled s .held (s3.written true)
          rw [WatchStage.written, h3.hold]
          exact ⟨rfl, h3.sampled, h3.present⟩
    exact .bindExcept (Prog.Follows.orFail hwritten) fun _ s4 h4 => h4

/-- What a preparation reads before it takes the lock. -/
theorem read_watch {p : StatusProg α} (h : p.run.Uses (·.besideWatch)) {s0 : WatchStage}
    (hs : Sampled s0 .none s) :
    p.run.Follows watchProtocol (Either (fun _ => Sampled s0 .none) fun _ => Sampled s0 .none)
      s := by
  refine Prog.Follows.mono (besideWatch_follows h (by rw [hs.hold]; nofun)) fun result s' h' => ?_
  have hsampled := hs.trans h'.sampled
  rw [hs.hold] at hsampled
  cases result with
  | error e => exact hsampled
  | ok a => exact hsampled

theorem handleOfficialRacePrepareSignal_watch (cfg : LauncherConfig)
    (hexcused : s.hold = .held → s.excused = true) :
    (handleOfficialRacePrepareSignal cfg).run.Follows watchProtocol (Held s) s := by
  have hraces : (Op.outside .raceConfigs).call.Follows watchProtocol
      (Either (fun _ => Sampled s .none) fun _ => Sampled s .none) s := by
    refine ⟨fun _ hheld => Or.inl (hexcused hheld), fun races => ?_⟩
    cases races with
    | error e => exact ⟨rfl, rfl, rfl⟩
    | ok races => exact ⟨rfl, rfl, rfl⟩
  refine .bindExcept (Prog.Follows.orFail hraces) fun races s1 h1 => ?_
  cases races with
  | nil => exact h1
  | cons raceConfig races =>
      refine .bindExcept (read_watch (readOfficialRaceTeamIds_calls cfg rfl) h1) fun teamIds s2 h2 => ?_
      refine .bindExcept (read_watch (readOfficialRaceGhostModeSettings_calls cfg rfl rfl) h2)
        fun ghostMode s3 h3 => ?_
      refine .call (permits_of_besideWatch rfl) fun _ => ?_
      refine Prog.Follows.andThen (launchAndRecord_watch raceConfig teamIds ghostMode h3.hold)
        fun result s4 h4 => ?_
      refine .call (permits_of_besideWatch rfl) fun _ => ?_
      cases result with
      | error e => exact h3.trans h4
      | ok recorder => exact h3.trans h4

/-! ## Ticks -/

/-- The variables of the launcher go with the stage, after the sample of
the tick has been taken. -/
structure Watching (present : Bool) (st : LauncherState) (s : WatchStage) : Prop where
  hold : s.hold ≠ .recorded
  prepared : s.hold = .held → st.racePrepared = true
  recorder : st.racePrepared = true → st.recorder.isSome = true
  sampled : s.sampled = true
  present : s.present = present

section Ticks

variable {present : Bool} {st : LauncherState}

theorem Watching.same (h : Watching present st s) (hs : Same s s') : Watching present st s' := by
  obtain ⟨frame, rfl⟩ := hs
  exact ⟨h.hold, h.prepared, h.recorder, h.sampled, h.present⟩

theorem Watching.ended (h : Watching present st s) (hs : Sampled s .none s') :
    Watching present st.ended s' where
  hold := by rw [hs.hold]; nofun
  prepared := by rw [hs.hold]; nofun
  recorder := nofun
  sampled := hs.sampled.trans h.sampled
  present := hs.present.trans h.present

theorem Watching.heldBy (h : Watching present st s) (hs : Sampled s .held s')
    (recorder : ResultsRecorder) : Watching present (st.prepared recorder) s' where
  hold := by rw [hs.hold]; nofun
  prepared _ := rfl
  recorder _ := rfl
  sampled := hs.sampled.trans h.sampled
  present := hs.present.trans h.present

theorem onPrepareSignal_watch (cfg : LauncherConfig) (h : Watching present st s)
    (hexcused : s.hold = .held → s.excused = true) :
    (onPrepareSignal cfg st).Follows watchProtocol (Watching present) s := by
  refine Prog.Follows.andThen (finalize_watch _ h.hold) fun _ _ h1 => ?_
  subst h1
  refine Prog.Follows.andThen (handleOfficialRacePrepareSignal_watch cfg hexcused)
    fun result s2 h2 => ?_
  cases result with
  | error e => exact h.ended h2
  | ok recorder => exact h.heldBy h2 recorder

theorem implicitPrepare_watch (cfg : LauncherConfig) (h : Watching present st s)
    (hst : st.racePrepared = false) :
    (implicitPrepare cfg st).Follows watchProtocol (Watching present) s := by
  refine Prog.Follows.andThen (finalize_watch _ h.hold) fun _ s1 h1 => ?_
  subst h1
  have hfree : s1.hold = .held → s1.excused = true := fun hheld => by
    rw [h.prepared hheld] at hst
    cases hst
  refine Prog.Follows.andThen (handleOfficialRacePrepareSignal_watch cfg hfree)
    fun result s2 h2 => ?_
  cases result with
  | error e =>
      have hended := h.ended h2
      exact ⟨hended.hold, fun hheld => absurd (hended.prepared hheld) nofun,
        fun hprepared => absurd (hst.symm.trans hprepared) nofun, hended.sampled, hended.present⟩
  | ok recorder => exact h.heldBy h2 recorder

theorem startRace_watch (h : Watching present st s) :
    (startRace st).Follows watchProtocol (Watching present) s := by
  refine Prog.Follows.andThen (asideWatch_follows refreshOfficialRaceBotsBeforeStartLocked_uses)
    fun _ _ h1 => ?_
  subst h1
  refine Prog.Follows.andThen (asideWatch_follows forceOfficialRaceHardTyres_uses) fun _ _ h2 => ?_
  subst h2
  refine .call (permits_of_besideWatch rfl) fun frame => ?_
  exact .call nofun fun _ => ⟨h.hold, h.prepared, h.recorder, h.sampled, h.present⟩

theorem onStartSignal_watch (cfg : LauncherConfig) (h : Watching present st s) :
    (onStartSignal cfg st).Follows watchProtocol (Watching present) s := by
  refine Prog.Follows.andThen (?_ : Prog.Follows _ (Watching present) _ _) fun st' s' h' => ?_
  · unfold ensurePrepared
    split
    · exact h
    · rename_i hst
      exact implicitPrepare_watch cfg h (by simpa using hst)
  · split
    · exact startRace_watch h'
    · exact h'

theorem recorderTick_watch (recorder : ResultsRecorder) (hhold : s.hold ≠ .recorded) :
    (recorderTick recorder).Follows watchProtocol (fun _ => Same s) s := by
  refine besideWatch_follows (.call rfl fun _ => .call rfl fun nowMs => ?_) hhold
  split
  · exact .call rfl fun _ => trivial
  · trivial

/-- The frame that is looked at is the one that the stage records. -/
theorem watchRuntime_watch (recorder : ResultsRecorder) (h : Watching present st s) :
    (watchRuntime st recorder).Follows watchProtocol (Watching present) s := by
  refine Prog.Follows.andThen (recorderTick_watch recorder h.hold) fun recorder' s1 h1 => ?_
  have hwatching := h.same h1
  refine .call (permits_of_besideWatch rfl) fun frame => ?_
  split
  · exact ⟨hwatching.hold, hwatching.prepared, fun _ => rfl, hwatching.sampled, hwatching.present⟩
  · rename_i hshows
    refine Prog.Follows.andThen (finalize_watch (s := watchProtocol.next s1 .latestFrame frame)
      (some recorder') hwatching.hold) fun _ _ h2 => ?_
    subst h2
    exact .call (fun _ _ => Or.inr ⟨rfl, hshows⟩) fun _ => hwatching.ended ⟨rfl, rfl, rfl⟩

theorem raceDurationElapsed_watch (h : Watching present st s) :
    (raceDurationElapsed st).Follows watchProtocol
      (fun elapsed s' => Watching present st s' ∧ (elapsed = true → s'.excused = true)) s := by
  unfold raceDurationElapsed
  split
  · refine .call (permits_of_besideWatch rfl) fun frame => ?_
    refine .call nofun fun remaining => ?_
    refine ⟨⟨h.hold, h.prepared, h.recorder, h.sampled, h.present⟩, fun helapsed => ?_⟩
    change (s.excused || remaining.any fun value => value ≤ 0) = true
    rw [helapsed, Bool.or_true]
  · exact ⟨h, nofun⟩

theorem supervise_watch (h : Watching present st s) :
    (supervise st).Follows watchProtocol
      (fun r s' => Watching present r.1 s' ∧ (r.2 = true → s'.hold = .none)) s := by
  unfold supervise
  split
  · exact ⟨h, nofun⟩
  · rename_i recorder _
    refine Prog.Follows.andThen (asideWatch_follows (pinGrid_uses st)) fun _ _ h1 => ?_
    subst h1
    refine Prog.Follows.andThen (raceDurationElapsed_watch h) fun elapsed s1 h2 => ?_
    cases elapsed with
    | true =>
        refine Prog.Follows.andThen (closeSession_watch st h2.1.hold (h2.2 rfl)) fun st' s2 h3 => ?_
        obtain ⟨rfl, hs⟩ := h3
        exact ⟨h2.1.ended hs, fun _ => hs.hold⟩
    | false =>
        exact Prog.Follows.andThen (watchRuntime_watch recorder h2.1) fun _ _ h3 => ⟨h3, nofun⟩

theorem onEdge_watch (presentPrev sample : Bool)
    {act : LauncherState → OfficialProg LauncherState} (h : Watching present st s)
    (hact : sample = true → presentPrev = false →
      (act st).Follows watchProtocol (Watching present) s) :
    (onEdge sample presentPrev act st).Follows watchProtocol (Watching present) s := by
  unfold onEdge
  split
  · rename_i hedge
    exact hact hedge.1 hedge.2
  · exact h

end Ticks

/-- Between two ticks the launcher remembers the sample of the last. -/
structure Waiting (st : LauncherState) (s : WatchStage) : Prop where
  hold : s.hold ≠ .recorded
  prepared : s.hold = .held → st.racePrepared = true
  recorder : st.racePrepared = true → st.recorder.isSome = true
  present : s.hold = .held → st.prepareSignalPresentPrev = s.present

theorem sampleSignal_watch (path : String) (s : WatchStage) :
    (sampleSignal path).Follows watchProtocol (fun present s' => s' = s.sample present) s := by
  refine .call nofun fun value => ?_
  cases value with
  | error e => rfl
  | ok value => rfl

theorem launcherTick_watch (cfg : LauncherConfig) {st : LauncherState} (h : Waiting st s)
    (hsampled : s.sampled = false) :
    (launcherTick cfg st).Follows watchProtocol Waiting s := by
  refine Prog.Follows.andThen (sampleSignal_watch _ s) fun prepare _ h1 => ?_
  refine Prog.Follows.andThen (sampleSignal_watch _ _) fun start _ h2 => ?_
  have hsample : s.sample prepare = { s with
      sampled := true
      present := prepare
      excused := s.excused || (prepare && !s.present) } := by
    rw [WatchStage.sample, if_neg (by simp [hsampled])]
  rw [h1, hsample, WatchStage.sample, if_pos rfl] at h2
  subst h2
  have hwatching : Watching prepare st { s with
      sampled := true
      present := prepare
      excused := s.excused || (prepare && !s.present) } :=
    ⟨h.hold, h.prepared, h.recorder, rfl, rfl⟩
  refine Prog.Follows.andThen (onEdge_watch _ _ hwatching fun hprepare hprev => ?_)
    fun st1 _ h3 => ?_
  · refine onPrepareSignal_watch cfg hwatching fun hheld => ?_
    have hpresent : s.present = false := (h.present hheld).symm.trans hprev
    simp [hprepare, hpresent]
  · refine Prog.Follows.andThen (onEdge_watch _ _ h3 fun _ _ => onStartSignal_watch cfg h3)
      fun st2 _ h4 => ?_
    refine Prog.Follows.andThen (supervise_watch h4) fun r s' h5 => ?_
    obtain ⟨st3, closed⟩ := r
    obtain ⟨hwatch, hclosed⟩ := h5
    dsimp only
    split
    · rename_i hc
      exact ⟨hwatch.hold, hwatch.prepared, hwatch.recorder, fun hheld => by
        rw [hclosed hc] at hheld
        cases hheld⟩
    · exact ⟨hwatch.hold, hwatch.prepared, hwatch.recorder, fun _ => hwatch.present.symm⟩

theorem launcherLoop_watch (cfg : LauncherConfig) (fuel : ℕ) {st : LauncherState}
    (h : Waiting st s) :
    (launcherLoop cfg fuel st).Follows watchProtocol (fun _ _ => True) s := by
  induction fuel generalizing st s with
  | zero => trivial
  | succ fuel ih =>
      refine .call nofun fun shutdown => ?_
      split
      · rename_i hshutdown
        refine Prog.Follows.andThen (finalize_watch (s := { s with
          excused := shutdown, sampled := false }) _ h.hold) fun _ _ h1 => ?_
        subst h1
        exact ⟨fun _ _ => Or.inl hshutdown, fun _ => trivial⟩
      · have hwaiting : Waiting st { s with excused := shutdown, sampled := false } :=
          ⟨h.hold, h.prepared, h.recorder, h.present⟩
        exact Prog.Follows.andThen (launcherTick_watch cfg hwaiting rfl) fun st' s' h' => ih h'

theorem officialRaceFileLauncher_watch (cfg : LauncherConfig) (fuel : ℕ) :
    (officialRaceFileLauncher cfg fuel).Follows watchProtocol (fun _ _ => True)
      watchProtocol.init := by
  refine .call nofun fun _ => launcherLoop_watch cfg fuel ?_
  exact ⟨nofun, nofun, nofun, nofun⟩

end Follows

/-! ## What has been read since a session was recorded -/

def Op.recordsSession : Op → Bool
  | .store (.setOfficialRacePrepared ..) => true
  | _ => false

def runtimeRead? : (op : Op) → op.Answer → Option EngineRuntimeState
  | .engine .runtimeState, .ok runtime => some runtime
  | _, _ => none

/-- The sessions recorded so far. -/
def sessionsPrepared (log : List (Entry Op Op.Answer)) : ℕ :=
  log.countP fun e => e.op.recordsSession

/-- The runtime states that the engine has answered with since the last
session was recorded. -/
def readsSince : List (Entry Op Op.Answer) → List EngineRuntimeState
  | [] => []
  | e :: log =>
      if e.op.recordsSession then [] else (runtimeRead? e.op e.answer).toList ++ readsSince log

theorem exists_entry_of_mem_readsSince {log : List (Entry Op Op.Answer)}
    {runtime : EngineRuntimeState} (h : runtime ∈ readsSince log) :
    ∃ newer e older, log = newer ++ e :: older ∧ runtimeRead? e.op e.answer = some runtime ∧
      sessionsPrepared older = sessionsPrepared log := by
  induction log with
  | nil => simp [readsSince] at h
  | cons e log ih =>
      rw [readsSince] at h
      split at h
      · simp at h
      · rename_i hspares
        have hsame : sessionsPrepared (e :: log) = sessionsPrepared log :=
          List.countP_cons_of_neg hspares
        rcases List.mem_append.mp h with hread | hrest
        · exact ⟨[], e, log, rfl, Option.mem_toList.mp hread, hsame.symm⟩
        · obtain ⟨newer, e', older, rfl, hread, hprepared⟩ := ih hrest
          exact ⟨e :: newer, e', older, rfl, hread, hprepared.trans hsame.symm⟩

/-- The engine answers with the runtime that it has. -/
theorem runtime_of_read {s : OfficialState} {op : Op} {input : Input}
    {runtime : EngineRuntimeState}
    (h : runtimeRead? op (exec s op input).2 = some runtime) : s.runtime = runtime := by
  unfold runtimeRead? at h
  split at h
  · rename_i hanswer
    obtain rfl := Option.some.inj h
    change input.engineResult s.runtime = .ok _ at hanswer
    unfold Input.engineResult at hanswer
    split at hanswer
    · cases hanswer
    · exact Except.ok.inj hanswer
  · cases h

/-! ## Runs -/

def watchStage (w : OfficialWorld) : WatchStage := watchProtocol.stageOf 0 w.log

/-- When the launcher ends a session for the sake of the frame alone, the
frame shows a runtime that has been read since the session was
recorded. -/
def FreshFrame (w : OfficialWorld) (i : ℕ) (op : Op) (_ : Input) : Prop :=
  i = 0 → op.givesUp = true → (watchStage w).hold = .held → (watchStage w).excused = false →
    ∃ runtime ∈ readsSince w.log, (watchStage w).frame = some runtime

instance (w : OfficialWorld) (i : ℕ) (op : Op) (input : Input) :
    Decidable (FreshFrame w i op input) :=
  inferInstanceAs (Decidable (i = 0 → _ → _ → _ → _))

/-- The runtime was not that of the race, in a state of the run with the
same session. -/
def LeftRace (p : OfficialPool) (events : List (ℕ × Input)) (n : ℕ) : Prop :=
  ∃ m < n, sessionsPrepared (stateAt (Pool.step exec) p events m).world.log =
      sessionsPrepared (stateAt (Pool.step exec) p events n).world.log ∧
    (stateAt (Pool.step exec) p events m).world.shared.runtime.activityKind ≠ .officialRace

instance (p : OfficialPool) (events : List (ℕ × Input)) (n : ℕ) :
    Decidable (LeftRace p events n) :=
  inferInstanceAs (Decidable (∃ m, m < n ∧ _))

/-- If the launcher gives up a session with its call, then this tick has a
reason to, or the runtime has left the race since it was prepared. -/
def GivesUpWhenOver (p : OfficialPool) (events : List (ℕ × Input)) (n : ℕ) : Prop :=
  let q := stateAt (Pool.step exec) p events n
  events[n]?.map Prod.fst = some 0 → ∀ op ∈ (q.threads 0).next?, op.givesUp = true →
    (watchStage q.world).hold = .held → (watchStage q.world).excused = true ∨ LeftRace p events n

def watchProtocols : ℕ → Protocol Op Op.Answer WatchStage
  | 0 => watchProtocol
  | _ + 1 => Protocol.only (fun op => op.writesSession = false) .initial

theorem launcherThreads_watch (cfg : LauncherConfig) (fuel : ℕ) (others : ℕ → OtherTask)
    (s : OfficialState) :
    (Pool.start s (launcherThreads cfg fuel others)).FollowedBy watchProtocols
      fun _ _ => True := by
  intro i
  cases i with
  | zero => exact officialRaceFileLauncher_watch cfg fuel
  | succ i => exact (others i).2.follows_only WatchStage.initial

/-- What has been read since the session was recorded was the runtime of
an earlier state. -/
theorem leftRace_of_read {s : OfficialState} {threads : ℕ → OfficialProg Unit}
    {events : List (ℕ × Input)} {n : ℕ} {runtime : EngineRuntimeState}
    (hread : runtime ∈
      readsSince (stateAt (Pool.step exec) (Pool.start s threads) events n).world.log)
    (hleft : runtime.activityKind ≠ .officialRace) :
    LeftRace (Pool.start s threads) events n := by
  obtain ⟨newer, e, older, hlog, he, hprepared⟩ := exists_entry_of_mem_readsSince hread
  obtain ⟨m, hm, holder, input, hanswer⟩ := Pool.exists_state_of_log exec rfl hlog
  rw [← hanswer] at he
  refine ⟨m, hm, by rw [holder, hprepared], ?_⟩
  rwa [runtime_of_read he]

/-- In a run in which the launcher goes by fresh frames, it gives up a
session only when it is over. -/
theorem officialRace_givesUpWhenOver (cfg : LauncherConfig) (fuel : ℕ) (others : ℕ → OtherTask)
    (s : OfficialState) {events : List (ℕ × Input)}
    (hfresh : Along (Pool.Guarded FreshFrame) (Pool.step exec)
      (Pool.start s (launcherThreads cfg fuel others)) events) (n : ℕ) :
    GivesUpWhenOver (Pool.start s (launcherThreads cfg fuel others)) events n := by
  unfold GivesUpWhenOver
  intro q hevent op hop hgives hheld
  have hn : n < events.length := by
    by_contra hn
    rw [List.getElem?_eq_none (Nat.le_of_not_lt hn)] at hevent
    cases hevent
  have hguard := hfresh.get hn
  have hlauncher : (q.threads 0).Follows watchProtocol (fun _ _ => True) (watchStage q.world) :=
    (launcherThreads_watch cfg fuel others s).stateAt events n 0
  have hthread : events[n].1 = 0 := by
    rw [List.getElem?_eq_getElem hn] at hevent
    exact Option.some.inj hevent
  cases hprog : q.threads 0 with
  | ret a =>
      rw [hprog] at hop
      cases hop
  | call op' next =>
      rw [hprog] at hop hlauncher
      obtain rfl := Option.some.inj hop
      rw [Pool.Guarded, hthread, hprog] at hguard
      rcases hlauncher.1 hgives hheld with hexcused | ⟨-, hshows⟩
      · exact Or.inl hexcused
      · by_cases hexcused : (watchStage q.world).excused = true
        · exact Or.inl hexcused
        · obtain ⟨runtime, hread, hframe⟩ := hguard rfl hgives hheld (by simpa using hexcused)
          refine Or.inr (leftRace_of_read hread fun hrace => hshows ?_)
          rw [WatchStage.ShowsRace, hframe, Option.map_some, hrace]

namespace OneRace

/-- The runtime is switched away, once. -/
def leave : OfficialProg Unit := do
  let _ ← (Op.engine (.switchRuntime 1 .none "" none none)).call
  pure ()

/-- Frames are collected, and the runtime is switched. -/
def watched (i : ℕ) : OtherTask :=
  if i = 1 then ⟨leave, .call rfl fun _ => trivial⟩ else others i

def watchedStart : OfficialPool :=
  Pool.start (OfficialState.initial works.runtime) (launcherThreads cfg 5 watched)

/-- The runtime is switched away after a frame with the race, the next frame
says so, and the launcher looks at that one. -/
def left : List (ℕ × Input) :=
  started ++ [(2, works), (1, works), (1, works)] ++ List.replicate 12 (0, works)

theorem left_givesUpWhenOver : (watchStage (left.foldl (Pool.step exec) watchedStart).world).hold =
      .none ∧ ∀ n, GivesUpWhenOver watchedStart left n :=
  ⟨by decide +kernel, officialRace_givesUpWhenOver cfg 5 watched _ (by decide +kernel)⟩

/-- Both signals come on the first tick, and no frame is collected. -/
def unseen : List (ℕ × Input) :=
  [(0, works), (0, works), (0, signal), (0, signal)] ++ List.replicate 40 (0, works)

/-- The frame is older than the session, which is given up on the tick on
which it was prepared. -/
theorem unseen_not_givesUpWhenOver : ¬ GivesUpWhenOver start unseen 30 := by
  intro h
  have hnext : ((stateAt (Pool.step exec) start unseen 30).threads 0).next?.any
      Op.givesUp = true := by decide +kernel
  obtain ⟨op, hop, hgives⟩ := (Option.any_eq_true _ _).mp hnext
  have hstage : (watchStage (stateAt (Pool.step exec) start unseen 30).world).hold = .held ∧
      (watchStage (stateAt (Pool.step exec) start unseen 30).world).excused = false := by
    decide +kernel
  have hleft : ¬ LeftRace start unseen 30 := by decide +kernel
  rcases h rfl op hop hgives hstage.1 with hexcused | hleaves
  · exact absurd (hstage.2.symm.trans hexcused) (by decide)
  · exact hleft hleaves

end OneRace

end HackArena.Official
