import HackArena.Official.LauncherCalls

/-!
# A started race has its launcher

Whether the race has started is written into the store, and the launcher
keeps it in a variable of its own beside the recorder. The two agree at
the end of every tick as long as no preparation fails before it has
cleaned up a race that is under way.
-/

namespace HackArena.Official

open GuardedRun HackArena.Services

/-- A preparation ends with this answer before it has come to the
clean-up. -/
def Op.failsToPrepare : (op : Op) → op.Answer → Bool
  | .outside .raceConfigs, .ok races => races.isEmpty
  | .outside .raceConfigs, .error _ | .outside .readTeamsFile, .error _
  | .outside .ghostModeFileExists, .error _ | .outside .readGhostModeFile, .error _ => true
  | .outside .readGhostModeFile, .ok parsed => !validGhostMode parsed
  | _, _ => false

def Op.startedAfter : Op → Bool → Bool
  | .store .clearOfficialRaceSession, _ | .store (.setOfficialRacePrepared ..), _ => false
  | .store (.markOfficialRaceStarted _), _ => true
  | _, started => started

/-- Whether the race has started, as the calls of the launcher leave it.
Nothing is said any more once a preparation has failed in a started
race. -/
def startedProtocol : Protocol Op Op.Answer (Option Bool) where
  init := some false
  next stage op answer := stage.bind fun started =>
    if op.failsToPrepare answer && started then none else some (op.startedAfter started)
  permits stage op := ∀ flags, op = .nextTick flags → stage = some true →
    flags.raceStarted = true ∧ flags.hasRecorder = true

/-- A call that neither writes the session nor prepares one. -/
def Op.besideStart : Op → Bool
  | .store .clearOfficialRaceSession | .store (.setOfficialRacePrepared ..)
  | .store (.markOfficialRaceStarted _) | .outside .raceConfigs | .outside .readTeamsFile
  | .outside .ghostModeFileExists | .outside .readGhostModeFile | .nextTick _ => false
  | _ => true

section Follows

open Prog

variable {α : Type} {stage : Option Bool}

theorem besideStart_of_aside {op : Op} (h : op.aside = true) : op.besideStart = true := by
  unfold Op.aside at h
  split at h <;> simp_all [Op.besideStart]

theorem permits_of_besideStart {op : Op} (h : op.besideStart = true) :
    startedProtocol.permits stage op ∧
      ∀ answer, startedProtocol.next stage op answer = stage := by
  have hfails : ∀ answer, op.failsToPrepare answer = false := by
    intro answer
    unfold Op.failsToPrepare
    split <;> simp_all [Op.besideStart]
  have hafter : ∀ started, op.startedAfter started = started := by
    intro started
    unfold Op.startedAfter
    split <;> simp_all [Op.besideStart]
  refine ⟨?_, fun answer => ?_⟩
  · rintro flags rfl
    cases h
  · cases stage with
    | none => rfl
    | some started => simp [startedProtocol, hfails, hafter]

theorem besideStart_follows {p : OfficialProg α} (h : p.Uses (·.besideStart)) :
    p.Follows startedProtocol (fun _ s => s = stage) stage :=
  h.follows fun _ hop => permits_of_besideStart hop

theorem aside_follows {p : OfficialProg α} (h : p.Uses (·.aside)) :
    p.Follows startedProtocol (fun _ s => s = stage) stage :=
  besideStart_follows (h.mono fun _ => besideStart_of_aside)

/-- The race has not started, or nothing is said. -/
def NotStarted (stage : Option Bool) : Prop := stage ≠ some true

theorem notStarted_cleared :
    NotStarted (startedProtocol.next stage (.store .clearOfficialRaceSession) ()) := by
  cases stage with
  | none => exact nofun
  | some started => simp [NotStarted, startedProtocol, Op.failsToPrepare, Op.startedAfter]

/-! ## The end of a session -/

theorem cleanup_follows : cleanupOfficialRaceSessionLocked.Follows startedProtocol
    (fun _ s => NotStarted s) stage := by
  refine .call (by rintro flags ⟨⟩) fun _ => ?_
  refine .call (permits_of_besideStart rfl).1 fun bots => ?_
  rw [(permits_of_besideStart rfl).2]
  refine Prog.Follows.andThen (aside_follows (cleanupBots_uses bots)) fun _ _ h1 => ?_
  subst h1
  refine .call (permits_of_besideStart rfl).1 fun cars => ?_
  rw [(permits_of_besideStart rfl).2]
  refine Prog.Follows.mono (aside_follows (cleanupStaleCars_uses cars)) fun _ _ h2 => ?_
  subst h2
  exact notStarted_cleared

theorem finalize_uses (recorder : Option ResultsRecorder) :
    (finalize recorder).Uses (·.besideStart) := by
  cases recorder with
  | none => trivial
  | some recorder => exact .call rfl fun _ => .call rfl fun _ => trivial

theorem closeSession_follows (st : LauncherState) : (closeSession st).Follows startedProtocol
    (fun st' s => NotStarted s ∧ st' = st.ended) stage := by
  refine Prog.Follows.andThen (besideStart_follows (finalize_uses _)) fun _ _ h1 => ?_
  subst h1
  refine Prog.Follows.andThen (?_ : Prog.Follows startedProtocol (fun _ => NotStarted) _ _)
    fun _ s h2 => ⟨h2, rfl⟩
  refine .call (permits_of_besideStart rfl).1 fun _ => ?_
  rw [(permits_of_besideStart rfl).2]
  refine Prog.Follows.andThen (?_ : Prog.Follows startedProtocol (fun _ => NotStarted) _ _)
    fun _ s h3 => ?_
  · exact Prog.Follows.andThen (aside_follows switchToNone_uses) fun _ _ _ => cleanup_follows
  · refine .call (permits_of_besideStart rfl).1 fun _ => ?_
    rw [(permits_of_besideStart rfl).2]
    exact h3

/-! ## The preparation -/

/-- However it goes, the race has not started afterwards. -/
abbrev Unstarted {ε : Type} : Except ε α → Option Bool → Prop :=
  Either (fun _ => NotStarted) (fun _ => NotStarted)

theorem launchAndRecord_follows (raceConfig : RaceConfigRecord) (teamIds : List String)
    (ghostModeSettings : Option Boink.GhostModeSettings) :
    (launchAndRecord raceConfig teamIds ghostModeSettings).run.Follows startedProtocol Unstarted
      stage := by
  obtain ⟨rest, huses, hlaunch⟩ := launch_uses raceConfig teamIds ghostModeSettings
  unfold launchAndRecord
  rw [hlaunch]
  refine .bindExcept (?_ : Prog.Follows startedProtocol Unstarted _ _) fun _ s h1 => ?_
  · refine .bindExcept (Prog.Follows.lift cleanup_follows) fun _ s h => ?_
    refine Prog.Follows.mono (aside_follows huses) fun result s' hs => ?_
    subst hs
    cases result with
    | error e => exact h
    | ok a => exact h
  · refine .bindExcept (Prog.Follows.lift (?_ : Prog.Follows _ (fun _ => NotStarted) _ _))
      fun _ s h2 => ?_
    · refine ⟨(permits_of_besideStart rfl).1, fun _ => ?_⟩
      rw [(permits_of_besideStart rfl).2]
      exact h1
    · refine .bindExcept (Prog.Follows.lift (?_ : Prog.Follows _ (fun _ => NotStarted) _ _))
        fun _ s h3 => ?_
      · refine ⟨by rintro flags ⟨⟩, fun _ => ?_⟩
        cases s with
        | none => exact nofun
        | some started =>
            change NotStarted (some false)
            simp [NotStarted]
      · refine .bindExcept (Prog.Follows.orFail (?_ : Prog.Follows _ Unstarted _ _))
          fun _ s h4 => h4
        refine ⟨(permits_of_besideStart rfl).1, fun written => ?_⟩
        rw [(permits_of_besideStart rfl).2]
        cases written with
        | error e => exact h3
        | ok _ => exact h3

/-- After a read that fails nothing can have started. -/
theorem notStarted_of_fails {op : Op} {answer : op.Answer}
    (hfails : op.failsToPrepare answer = true)
    (hsame : ∀ started, op.startedAfter started = started) :
    NotStarted (startedProtocol.next stage op answer) := by
  cases stage with
  | none => exact nofun
  | some started =>
      cases started with
      | false => simp [NotStarted, startedProtocol, hsame]
      | true => simp [NotStarted, startedProtocol, hfails]

/-- A part of the preparation before the clean-up. -/
abbrev Early {ε : Type} : Except ε α → Option Bool → Prop :=
  Either (fun _ _ => True) (fun _ => NotStarted)

theorem readOfficialRaceTeamIds_follows (cfg : LauncherConfig) :
    (readOfficialRaceTeamIds cfg).run.Follows startedProtocol Early stage := by
  refine .bindExcept (Prog.Follows.orFail (?_ : Prog.Follows _ Early _ _)) fun _ _ _ => trivial
  refine ⟨by rintro flags ⟨⟩, fun content => ?_⟩
  cases content with
  | error e => exact notStarted_of_fails rfl fun _ => rfl
  | ok content => trivial

theorem readOfficialRaceGhostModeSettings_follows (cfg : LauncherConfig) :
    (readOfficialRaceGhostModeSettings cfg).run.Follows startedProtocol Early stage := by
  refine .bindExcept (Prog.Follows.orFail (?_ : Prog.Follows _ Early _ _)) fun found s _ => ?_
  · refine ⟨by rintro flags ⟨⟩, fun found => ?_⟩
    cases found with
    | error e => exact notStarted_of_fails rfl fun _ => rfl
    | ok found => trivial
  · cases found with
    | false => trivial
    | true =>
        have hread : (Op.outside .readGhostModeFile).call.Follows startedProtocol
            (Either (fun parsed s => validGhostMode parsed = false → NotStarted s)
              fun _ => NotStarted) s := by
          refine ⟨by rintro flags ⟨⟩, fun parsed => ?_⟩
          cases parsed with
          | error e => exact notStarted_of_fails rfl fun _ => rfl
          | ok parsed => exact fun hinvalid =>
              notStarted_of_fails (by simp [Op.failsToPrepare, hinvalid]) fun _ => rfl
        refine .bindExcept (Prog.Follows.orFail hread) fun parsed s hparsed => ?_
        split
        · trivial
        · rename_i hinvalid
          exact hparsed (by simpa using hinvalid)

theorem handleOfficialRacePrepareSignal_follows (cfg : LauncherConfig) :
    (handleOfficialRacePrepareSignal cfg).run.Follows startedProtocol Unstarted stage := by
  have hraces : (Op.outside .raceConfigs).call.Follows startedProtocol
      (Either (fun races s => races = [] → NotStarted s) fun _ => NotStarted) stage := by
    refine ⟨by rintro flags ⟨⟩, fun races => ?_⟩
    cases races with
    | error e => exact notStarted_of_fails rfl fun _ => rfl
    | ok races => exact fun hnil =>
        notStarted_of_fails (by simp [Op.failsToPrepare, hnil]) fun _ => rfl
  refine .bindExcept (Prog.Follows.orFail hraces) fun races s hnil => ?_
  cases races with
  | nil => exact hnil rfl
  | cons raceConfig races =>
      refine .bindExcept (readOfficialRaceTeamIds_follows cfg) fun teamIds s _ => ?_
      refine .bindExcept (readOfficialRaceGhostModeSettings_follows cfg) fun ghostMode s _ => ?_
      refine .call (permits_of_besideStart rfl).1 fun _ => ?_
      rw [(permits_of_besideStart rfl).2]
      refine Prog.Follows.andThen (launchAndRecord_follows raceConfig teamIds ghostMode)
        fun result s h => ?_
      refine .call (permits_of_besideStart rfl).1 fun _ => ?_
      rw [(permits_of_besideStart rfl).2]
      exact h

/-! ## Ticks -/

/-- The variables of the launcher go with the stage. -/
structure Armed (st : LauncherState) (stage : Option Bool) : Prop where
  started : stage = some true → st.raceStarted = true ∧ st.recorder.isSome = true
  prepared : st.racePrepared = true → st.recorder.isSome = true

theorem armed_of_notStarted {st : LauncherState} (h : NotStarted stage)
    (hprepared : st.racePrepared = true → st.recorder.isSome = true) : Armed st stage :=
  ⟨fun hstarted => absurd hstarted h, hprepared⟩

theorem armed_ended (st : LauncherState) (h : NotStarted stage) : Armed st.ended stage :=
  armed_of_notStarted h nofun

theorem armed_prepared (st : LauncherState) (recorder : ResultsRecorder) (h : NotStarted stage) :
    Armed (st.prepared recorder) stage := armed_of_notStarted h fun _ => rfl

theorem onPrepareSignal_follows (cfg : LauncherConfig) (st : LauncherState) :
    (onPrepareSignal cfg st).Follows startedProtocol Armed stage := by
  refine Prog.Follows.andThen (besideStart_follows (finalize_uses _)) fun _ _ _ => ?_
  refine Prog.Follows.andThen (handleOfficialRacePrepareSignal_follows cfg) fun result s h => ?_
  cases result with
  | error e => exact armed_ended st h
  | ok recorder => exact armed_prepared st recorder h

theorem implicitPrepare_follows (cfg : LauncherConfig) (st : LauncherState)
    (hst : st.racePrepared = false) :
    (implicitPrepare cfg st).Follows startedProtocol Armed stage := by
  refine Prog.Follows.andThen (besideStart_follows (finalize_uses _)) fun _ _ _ => ?_
  refine Prog.Follows.andThen (handleOfficialRacePrepareSignal_follows cfg) fun result s h => ?_
  cases result with
  | error e => exact armed_of_notStarted h fun hprepared => by simp [hst] at hprepared
  | ok recorder => exact armed_prepared st recorder h

theorem startRace_follows (st : LauncherState) (hst : st.racePrepared = true)
    (harmed : Armed st stage) : (startRace st).Follows startedProtocol Armed stage := by
  refine Prog.Follows.andThen (aside_follows refreshOfficialRaceBotsBeforeStartLocked_uses)
    fun _ _ h1 => ?_
  subst h1
  refine Prog.Follows.andThen (aside_follows forceOfficialRaceHardTyres_uses) fun _ _ h2 => ?_
  subst h2
  refine .call (permits_of_besideStart rfl).1 fun frame => ?_
  rw [(permits_of_besideStart rfl).2]
  refine .call (by rintro flags ⟨⟩) fun _ => ?_
  exact ⟨fun _ => ⟨rfl, harmed.prepared hst⟩, harmed.prepared⟩

theorem onStartSignal_follows (cfg : LauncherConfig) (st : LauncherState)
    (harmed : Armed st stage) : (onStartSignal cfg st).Follows startedProtocol Armed stage := by
  refine Prog.Follows.andThen (?_ : Prog.Follows _ Armed _ _) fun st' s h => ?_
  · unfold ensurePrepared
    split
    · exact harmed
    · rename_i hst
      exact implicitPrepare_follows cfg st (by simpa using hst)
  · split
    · rename_i hst
      exact startRace_follows st' hst.1 h
    · exact h

theorem recorderTick_uses (recorder : ResultsRecorder) :
    (recorderTick recorder).Uses (·.besideStart) := by
  refine .call rfl fun _ => .call rfl fun nowMs => ?_
  split
  · exact .call rfl fun _ => trivial
  · trivial

theorem watchRuntime_follows (st : LauncherState) (recorder : ResultsRecorder)
    (harmed : Armed st stage) :
    (watchRuntime st recorder).Follows startedProtocol Armed stage := by
  refine Prog.Follows.andThen (besideStart_follows (recorderTick_uses recorder))
    fun recorder' _ h1 => ?_
  subst h1
  refine .call (permits_of_besideStart rfl).1 fun frame => ?_
  rw [(permits_of_besideStart rfl).2]
  split
  · exact ⟨fun hstarted => ⟨(harmed.started hstarted).1, rfl⟩, fun _ => rfl⟩
  · refine Prog.Follows.andThen (besideStart_follows (finalize_uses _)) fun _ _ h2 => ?_
    subst h2
    exact .call (by rintro flags ⟨⟩) fun _ => armed_ended st notStarted_cleared

theorem raceDurationElapsed_uses (st : LauncherState) :
    (raceDurationElapsed st).Uses (·.besideStart) := by
  unfold raceDurationElapsed
  split
  · exact .call rfl fun _ => .call rfl fun _ => trivial
  · trivial

theorem supervise_follows (st : LauncherState) (harmed : Armed st stage) :
    (supervise st).Follows startedProtocol (fun r => Armed r.1) stage := by
  unfold supervise
  split
  · exact harmed
  · rename_i recorder _
    refine Prog.Follows.andThen (aside_follows (pinGrid_uses st)) fun _ _ h1 => ?_
    subst h1
    refine Prog.Follows.andThen (besideStart_follows (raceDurationElapsed_uses st))
      fun elapsed _ h2 => ?_
    subst h2
    cases elapsed with
    | true =>
        refine Prog.Follows.andThen (closeSession_follows st) fun st' s h => ?_
        obtain ⟨hs, rfl⟩ := h
        exact armed_ended st hs
    | false => exact Prog.Follows.andThen (watchRuntime_follows st recorder harmed) fun _ _ h => h

theorem sampleSignal_uses (path : String) : (sampleSignal path).Uses (·.besideStart) := by
  refine .call rfl fun value => ?_
  cases value with
  | error e => trivial
  | ok value => trivial

theorem onEdge_follows (present presentPrev : Bool)
    {act : LauncherState → OfficialProg LauncherState} {st : LauncherState}
    (harmed : Armed st stage) (hact : (act st).Follows startedProtocol Armed stage) :
    (onEdge present presentPrev act st).Follows startedProtocol Armed stage := by
  unfold onEdge
  split
  · exact hact
  · exact harmed

theorem launcherTick_follows (cfg : LauncherConfig) (st : LauncherState)
    (harmed : Armed st stage) : (launcherTick cfg st).Follows startedProtocol Armed stage := by
  refine Prog.Follows.andThen (besideStart_follows (sampleSignal_uses _)) fun prepare _ h1 => ?_
  subst h1
  refine Prog.Follows.andThen (besideStart_follows (sampleSignal_uses _)) fun start _ h2 => ?_
  subst h2
  refine Prog.Follows.andThen (onEdge_follows _ _ harmed (onPrepareSignal_follows cfg st))
    fun st1 _ h3 => ?_
  refine Prog.Follows.andThen (onEdge_follows _ _ h3 (onStartSignal_follows cfg st1 h3))
    fun st2 _ h4 => ?_
  refine Prog.Follows.andThen (supervise_follows st2 h4) fun r _ h5 => ?_
  obtain ⟨st3, closed⟩ := r
  dsimp only
  split
  · exact h5
  · exact ⟨h5.started, h5.prepared⟩

theorem launcherLoop_follows (cfg : LauncherConfig) (fuel : ℕ) (st : LauncherState)
    (harmed : Armed st stage) :
    (launcherLoop cfg fuel st).Follows startedProtocol (fun _ _ => True) stage := by
  induction fuel generalizing st stage with
  | zero => trivial
  | succ fuel ih =>
      refine .call ?_ fun shutdown => ?_
      · rintro flags ⟨⟩ hstarted
        exact harmed.started hstarted
      · have hstage : startedProtocol.next stage (.nextTick st.flags) shutdown = stage := by
          cases stage with
          | none => rfl
          | some started => simp [startedProtocol, Op.failsToPrepare, Op.startedAfter]
        rw [hstage]
        split
        · exact Prog.Follows.andThen (besideStart_follows (finalize_uses _)) fun _ _ _ =>
            ⟨by rintro flags ⟨⟩, fun _ => trivial⟩
        · exact Prog.Follows.andThen (launcherTick_follows cfg st harmed) fun st' _ h => ih st' h

theorem officialRaceFileLauncher_follows (cfg : LauncherConfig) (fuel : ℕ) :
    (officialRaceFileLauncher cfg fuel).Follows startedProtocol (fun _ _ => True)
      startedProtocol.init := by
  refine .call (by rintro flags ⟨⟩) fun _ => launcherLoop_follows cfg fuel .initial ?_
  exact ⟨nofun, nofun⟩

end Follows

/-! ## Runs -/

/-- A task beside the launcher. -/
abbrev OtherTask := { p : OfficialProg Unit // p.Uses fun op => op.writesSession = false }

/-- The launcher is the first of the threads. -/
def launcherThreads (cfg : LauncherConfig) (fuel : ℕ) (others : ℕ → OtherTask) :
    ℕ → OfficialProg Unit
  | 0 => officialRaceFileLauncher cfg fuel
  | i + 1 => (others i).1

/-- A preparation of the launcher fails before its clean-up only when no
race has started. -/
def PreparesInTime (w : OfficialWorld) (i : ℕ) (op : Op) (input : Input) : Prop :=
  i = 0 → op.failsToPrepare (exec w.shared op input).2 = true →
    w.shared.store.session.started = false

instance (w : OfficialWorld) (i : ℕ) (op : Op) (input : Input) :
    Decidable (PreparesInTime w i op input) :=
  inferInstanceAs (Decidable (i = 0 → _ → _))

def Op.tickFlags? : Op → Option LauncherFlags
  | .nextTick flags => some flags
  | _ => none

/-- At the end of a tick a started race has its launcher, with the
recorder. -/
def RaceArmed (p : OfficialPool) : Prop :=
  ∀ flags ∈ (p.threads 0).next?.bind Op.tickFlags?, p.world.shared.store.session.started = true →
    flags.raceStarted = true ∧ flags.hasRecorder = true

def startedProtocols : ℕ → Protocol Op Op.Answer (Option Bool)
  | 0 => startedProtocol
  | _ + 1 => Protocol.only (fun op => op.writesSession = false) none

theorem launcherThreads_follow (cfg : LauncherConfig) (fuel : ℕ) (others : ℕ → OtherTask)
    (s : OfficialState) :
    (Pool.start s (launcherThreads cfg fuel others)).FollowedBy startedProtocols
      fun _ _ => True := by
  intro i
  cases i with
  | zero => exact officialRaceFileLauncher_follows cfg fuel
  | succ i => exact (others i).2.follows_only none

theorem started_exec (s : OfficialState) (op : Op) (input : Input) :
    (exec s op input).1.store.session.started = op.startedAfter s.store.session.started := by
  cases op with
  | store op => cases op <;> rfl
  | takeMonitor which =>
      simp only [exec]
      split <;> rfl
  | _ => rfl

/-- The launcher knows what the store says. -/
def StartKnown (w : OfficialWorld) : Prop :=
  startedProtocol.stageOf 0 w.log = some w.shared.store.session.started

theorem StartKnown.step {w : OfficialWorld} {i : ℕ} {op : Op} {input : Input} (h : StartKnown w)
    (hprepare : PreparesInTime w i op input)
    (hpermits : (startedProtocols i).permits ((startedProtocols i).stageOf i w.log) op) :
    StartKnown (w.perform exec i op input) := by
  have hstarted : (w.perform exec i op input).shared.store.session.started =
      op.startedAfter w.shared.store.session.started := started_exec w.shared op input
  unfold StartKnown
  rw [hstarted]
  cases i with
  | zero =>
      rw [Protocol.stageOf_perform_self, h]
      simpa [startedProtocol] using hprepare rfl
  | succ i =>
      rw [Protocol.stageOf_perform_ne exec startedProtocol w (Nat.succ_ne_zero i).symm, h]
      have hafter : ∀ started, op.startedAfter started = started := by
        intro started
        have hspares : op.writesSession = false := hpermits
        unfold Op.startedAfter
        split <;> simp_all [Op.writesSession]
      rw [hafter]

/-- In every state of a run in which no preparation fails early in a
started race, a started race has its launcher. -/
theorem officialRace_armed (cfg : LauncherConfig) (fuel : ℕ) (others : ℕ → OtherTask)
    {s : OfficialState} (hs : s.store.session.started = false) {events : List (ℕ × Input)}
    (hprepare : Along (Pool.Guarded PreparesInTime) (Pool.step exec)
      (Pool.start s (launcherThreads cfg fuel others)) events) (n : ℕ) :
    RaceArmed (stateAt (Pool.step exec) (Pool.start s (launcherThreads cfg fuel others))
      events n) := by
  have hfollowed := launcherThreads_follow cfg fuel others s
  have hknown : StartKnown (stateAt (Pool.step exec)
      (Pool.start s (launcherThreads cfg fuel others)) events n).world := by
    refine hfollowed.invariant (fun _ _ _ _ hw hg hpermits => hw.step hg hpermits) ?_ hprepare n
    change some false = some s.store.session.started
    rw [hs]
  have hlauncher : ((stateAt (Pool.step exec) (Pool.start s (launcherThreads cfg fuel others))
      events n).threads 0).Follows startedProtocol (fun _ _ => True) (startedProtocol.stageOf 0
        (stateAt (Pool.step exec) (Pool.start s (launcherThreads cfg fuel others))
          events n).world.log) := hfollowed.stateAt events n 0
  intro flags hflags hstarted
  cases hprog : (stateAt (Pool.step exec) (Pool.start s (launcherThreads cfg fuel others))
      events n).threads 0 with
  | ret a =>
      rw [hprog] at hflags
      cases hflags
  | call op next =>
      rw [hprog] at hflags hlauncher
      have hop : op = .nextTick flags := by
        change Op.tickFlags? op = some flags at hflags
        unfold Op.tickFlags? at hflags
        split at hflags
        · rw [Option.some.inj hflags]
        · cases hflags
      refine hlauncher.1 flags hop ?_
      rw [← hstarted]
      exact hknown

/-! ### A race without bots -/

namespace OneRace

def cfg : LauncherConfig :=
  ⟨"assets/teams.txt", "assets/.prepare", "assets/.start", "assets"⟩

def race : RaceConfigRecord := ⟨"race", "Race", "map", 60, .noon⟩

def works : Input := { Input.works with races := [race] }

/-- There is a signal file. -/
def signal : Input := { works with present := true }

theorem frameCollector_uses (fuel : ℕ) :
    (frameCollector fuel).Uses fun op => op.writesSession = false := by
  induction fuel with
  | zero => trivial
  | succ fuel ih => exact .call rfl fun _ => .call rfl fun _ => ih

/-- Frames are collected besides. -/
def others : ℕ → OtherTask
  | 0 => ⟨frameCollector 2, frameCollector_uses 2⟩
  | _ => ⟨pure (), trivial⟩

def start : OfficialPool :=
  Pool.start (OfficialState.initial works.runtime) (launcherThreads cfg 5 others)

def run (events : List (ℕ × Input)) : OfficialPool := events.foldl (Pool.step exec) start

/-- Both signals come on the first tick, and the next frame shows the
race. -/
def started : List (ℕ × Input) :=
  [(0, works), (0, works), (0, signal), (0, signal)] ++ List.replicate 13 (0, works) ++
    List.replicate 2 (1, works) ++ List.replicate 11 (0, works)

/-- The flags at the end of a tick, with what the store says. -/
def armedIn (events : List (ℕ × Input)) : Option LauncherFlags × Bool :=
  (((run events).threads 0).next?.bind Op.tickFlags?,
    (run events).world.shared.store.session.started)

theorem started_armed : armedIn started = (some ⟨true, true, true⟩, true) ∧
    ∀ n, RaceArmed (stateAt (Pool.step exec) start started n) :=
  ⟨by decide +kernel, officialRace_armed cfg 5 others rfl (by decide +kernel)⟩

/-- Two ticks later there is a new signal to prepare, and the race
configurations cannot be loaded. -/
def broken : List (ℕ × Input) :=
  started ++ List.replicate 9 (0, works) ++ [(0, signal), (0, works), (0, works), (0, works),
    (0, { works with fails := true })]

/-- The race goes on without its launcher. -/
theorem broken_not_armed : ¬ RaceArmed (run broken) := by
  intro h
  have hbroken : armedIn broken = (some ⟨false, false, false⟩, true) := by decide +kernel
  obtain ⟨hflags, hstarted⟩ := Prod.mk.inj hbroken
  exact absurd (h _ hflags hstarted).1 (by decide)

end OneRace

end HackArena.Official
