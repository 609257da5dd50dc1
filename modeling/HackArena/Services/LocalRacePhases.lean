import HackArena.Services.LocalRaceControl
import Mathlib.Data.List.Chain

/-!
# The phases of a local race

A write to the active race happens under one lock, but it assigns the
phase several times: the race is normalized to the clock, updated, and
normalized again. `phaseTrace` lists these values. Normalizing only moves
forward, so what a run does to the phase is decided by what the starts
and aborts overwrite.
-/

namespace HackArena.Services

open Boink HackArena.Runtime HackArena.Local GuardedRun

variable {E : Type}

/-- The steps a phase may take; staging turns into running at once when
the countdown is empty. -/
inductive PhaseStep (immediate : Prop) : LocalRacePhase → LocalRacePhase → Prop
  | stay (phase : LocalRacePhase) : PhaseStep immediate phase phase
  | countdown : PhaseStep immediate .staging .countdown
  | start (h : immediate) : PhaseStep immediate .staging .running
  | running : PhaseStep immediate .countdown .running
  | finished : PhaseStep immediate .running .finished
  | abort (phase : LocalRacePhase) (h : phase ≠ .finished ∧ phase ≠ .aborted) :
      PhaseStep immediate phase .aborted

/-- The values of the race while an update holds the lock. -/
def updateTrace (race : LocalRaceRuntimeInfo)
    (update : LocalRaceRuntimeInfo → LocalRaceRuntimeInfo) (beforeMs afterMs : ℕ) :
    List LocalRaceRuntimeInfo :=
  let before := normalizeRacePhaseAt race beforeMs
  [race, before, update before, normalizeRacePhaseAt (update before) afterMs]

/-- The values that an event gives to the phase of the active race, the
old one first. -/
def phaseTrace (s : RaceSystem E) : RaceEvent E → List LocalRacePhase
  | .createSet id createdMs nowMs => match s.requests id, s.races.active with
      | some (.activated config raceId preset _), some race =>
          -- a new race, unless it has the id of the old one
          if race.raceId = raceId then
            [race.phase, (normalizeRacePhaseAt (stagedRace config raceId preset createdMs)
              nowMs).phase]
          else []
      | _, _ => []
  | .startWrite id beforeMs afterMs => match s.requests id with
      | some (.startStaged _ raceId countdownSeconds countdownEndMs) =>
          match s.races.find raceId with
          | .ok race => (updateTrace race (startUpdate countdownSeconds countdownEndMs) beforeMs
              afterMs).map (·.phase)
          | .error _ => []
      | _ => []
  | .abortWrite id beforeMs afterMs => match s.requests id with
      | some (.abortAdmitted _ raceId) =>
          match s.races.find raceId with
          | .ok race => (updateTrace race abortUpdate beforeMs afterMs).map (·.phase)
          | .error _ => []
      | _ => []
  | .register raceId _ _ nowMs => match s.races.find raceId with
      | .ok race => [race.phase, (normalizeRacePhaseAt race nowMs).phase]
      | .error _ => []
  | .reconcile nowMs => match s.races.active with
      | some race => [race.phase, (normalizeRacePhaseAt race nowMs).phase]
      | none => []
  | _ => []

/-- The event writes a start with an empty countdown. -/
def StartsAtOnce (s : RaceSystem E) : RaceEvent E → Prop
  | .startWrite id _ _ => ∃ expectedRevision raceId countdownEndMs,
      s.requests id = some (.startStaged expectedRevision raceId 0 countdownEndMs)
  | _ => False

/-- Every assignment of the event moves the phase forward. -/
def PhaseForward (s : RaceSystem E) (ev : RaceEvent E) : Prop :=
  (phaseTrace s ev).IsChain (PhaseStep (StartsAtOnce s ev))

/-- What a start may find: a countdown may not be put in the place of a
race that runs or has ended. -/
def StartAdmissible (countdownSeconds : ℕ) (phase : LocalRacePhase) : Prop :=
  phase = .staging ∨ phase = .countdown ∨ countdownSeconds = 0 ∧ phase = .running

/-- A start finds a phase it may overwrite, and an abort does not find a
finished race. -/
def WriteAdmissible (s : RaceSystem E) : RaceEvent E → Prop
  | .startWrite id beforeMs _ => ∀ expectedRevision raceId countdownSeconds countdownEndMs race,
      s.requests id = some (.startStaged expectedRevision raceId countdownSeconds countdownEndMs) →
        s.races.find raceId = .ok race →
          StartAdmissible countdownSeconds (normalizeRacePhaseAt race beforeMs).phase
  | .abortWrite id beforeMs _ => ∀ expectedRevision raceId race,
      s.requests id = some (.abortAdmitted expectedRevision raceId) →
        s.races.find raceId = .ok race →
          (normalizeRacePhaseAt race beforeMs).phase ≠ .finished
  | _ => True

/-! ## One event -/

theorem normalize_forward (immediate : Prop) (race : LocalRaceRuntimeInfo) (nowMs : ℕ) :
    PhaseStep immediate race.phase (normalizeRacePhaseAt race nowMs).phase := by
  rw [normalizeRacePhaseAt]
  split
  · rename_i hphase
    split
    · rw [hphase]
      exact .running
    · exact .stay _
  · rename_i hphase
    split
    · rw [hphase]
      exact .finished
    · exact .stay _
  all_goals exact .stay _

/-- Normalizing is forward, so an update is as good as its own step. -/
theorem updateTrace_chain {immediate : Prop} (race : LocalRaceRuntimeInfo)
    (update : LocalRaceRuntimeInfo → LocalRaceRuntimeInfo) (beforeMs afterMs : ℕ) :
    ((updateTrace race update beforeMs afterMs).map (·.phase)).IsChain (PhaseStep immediate) ↔
      PhaseStep immediate (normalizeRacePhaseAt race beforeMs).phase
        (update (normalizeRacePhaseAt race beforeMs)).phase := by
  simp only [updateTrace, List.map_cons, List.map_nil, List.isChain_cons_cons,
    List.isChain_singleton, and_true]
  constructor
  · exact fun h => h.2.1
  · exact fun h => ⟨normalize_forward _ race beforeMs, h, normalize_forward _ _ afterMs⟩

theorem startUpdate_phase (countdownSeconds countdownEndMs : ℕ) (race : LocalRaceRuntimeInfo) :
    (startUpdate countdownSeconds countdownEndMs race).phase =
      if countdownSeconds = 0 then .running else .countdown := by
  rw [startUpdate]
  split <;> rfl

theorem start_step_iff (countdownSeconds : ℕ) (phase : LocalRacePhase) :
    PhaseStep (countdownSeconds = 0) phase
        (if countdownSeconds = 0 then .running else .countdown) ↔
      StartAdmissible countdownSeconds phase := by
  rw [StartAdmissible]
  by_cases hzero : countdownSeconds = 0
  · rw [if_pos hzero]
    constructor
    · intro h
      cases h with
      | stay => exact Or.inr (Or.inr ⟨hzero, rfl⟩)
      | start _ => exact Or.inl rfl
      | running => exact Or.inr (Or.inl rfl)
    · rintro (rfl | rfl | ⟨-, rfl⟩)
      · exact .start hzero
      · exact .running
      · exact .stay _
  · rw [if_neg hzero]
    constructor
    · intro h
      cases h with
      | stay => exact Or.inr (Or.inl rfl)
      | countdown => exact Or.inl rfl
    · rintro (rfl | rfl | ⟨hzero', -⟩)
      · exact .countdown
      · exact .stay _
      · exact absurd hzero' hzero

theorem abort_step_iff (immediate : Prop) (phase : LocalRacePhase) :
    PhaseStep immediate phase .aborted ↔ phase ≠ .finished := by
  constructor
  · intro h
    cases h with
    | stay => simp
    | abort _ hfinal => exact hfinal.1
  · intro h
    by_cases haborted : phase = .aborted
    · rw [haborted]
      exact .stay _
    · exact .abort phase ⟨h, haborted⟩

theorem PhaseStep.congr {p q : Prop} (h : p ↔ q) : PhaseStep p = PhaseStep q := by
  rw [propext h]

theorem phaseForward_startWrite (s : RaceSystem E) (id beforeMs afterMs : ℕ) :
    PhaseForward s (.startWrite id beforeMs afterMs) ↔
      WriteAdmissible s (.startWrite id beforeMs afterMs) := by
  rw [PhaseForward]
  simp only [phaseTrace, WriteAdmissible]
  split
  · rename_i expectedRevision raceId countdownSeconds countdownEndMs hrequest
    have himmediate : StartsAtOnce s (.startWrite id beforeMs afterMs) ↔
        countdownSeconds = 0 := by
      constructor
      · rintro ⟨_, _, _, hzero⟩
        rw [hrequest] at hzero
        cases hzero
        rfl
      · rintro rfl
        exact ⟨_, _, _, hrequest⟩
    rw [PhaseStep.congr himmediate]
    cases hfind : s.races.find raceId with
    | error err =>
        apply iff_of_true .nil
        intro _ _ _ _ race hreq hrace
        rw [hrequest] at hreq
        cases hreq
        rw [hfind] at hrace
        cases hrace
    | ok race =>
        rw [updateTrace_chain, startUpdate_phase, start_step_iff]
        constructor
        · intro h _ _ _ _ race' hreq hrace
          rw [hrequest] at hreq
          cases hreq
          rw [hfind] at hrace
          cases hrace
          exact h
        · exact fun h => h _ _ _ _ race hrequest hfind
  · rename_i hnone
    apply iff_of_true .nil
    intro _ _ _ _ _ hreq
    exact absurd hreq (hnone _ _ _ _)

theorem phaseForward_abortWrite (s : RaceSystem E) (id beforeMs afterMs : ℕ) :
    PhaseForward s (.abortWrite id beforeMs afterMs) ↔
      WriteAdmissible s (.abortWrite id beforeMs afterMs) := by
  rw [PhaseForward]
  simp only [phaseTrace, WriteAdmissible]
  split
  · rename_i expectedRevision raceId hrequest
    cases hfind : s.races.find raceId with
    | error err =>
        apply iff_of_true .nil
        intro _ _ race hreq hrace
        rw [hrequest] at hreq
        cases hreq
        rw [hfind] at hrace
        cases hrace
    | ok race =>
        rw [updateTrace_chain]
        refine (abort_step_iff _ _).trans ⟨?_, fun h => h _ _ race hrequest hfind⟩
        intro h _ _ race' hreq hrace
        rw [hrequest] at hreq
        cases hreq
        rw [hfind] at hrace
        cases hrace
        exact h
  · rename_i hnone
    apply iff_of_true .nil
    intro _ _ _ hreq
    exact absurd hreq (hnone _ _)

theorem phaseForward_createSet {s : RaceSystem E} (hids : s.view.IdsOk)
    (id createdMs nowMs : ℕ) : PhaseForward s (.createSet id createdMs nowMs) := by
  rw [PhaseForward]
  simp only [phaseTrace]
  split
  · rename_i config raceId preset revision race hrequest hactive
    -- the id of a race that is being created is new to the store
    have hne : race.raceId ≠ raceId := by
      rintro rfl
      have hstore : s.view.store = some race.raceId := by
        simp [RaceSystem.view, LocalRaceState.activeId, hactive]
      exact (hids.stored hstore).2 ⟨id, view_holds hrequest⟩
    rw [if_neg hne]
    exact .nil
  · exact .nil

/-- An event moves the phase forward exactly when what it overwrites is
admissible. -/
theorem phaseForward_iff {s : RaceSystem E} (hids : s.view.IdsOk) (ev : RaceEvent E) :
    PhaseForward s ev ↔ WriteAdmissible s ev := by
  cases ev with
  | startWrite id beforeMs afterMs => exact phaseForward_startWrite s id beforeMs afterMs
  | abortWrite id beforeMs afterMs => exact phaseForward_abortWrite s id beforeMs afterMs
  | createSet id createdMs nowMs =>
      exact iff_of_true (phaseForward_createSet hids id createdMs nowMs) trivial
  | register raceId carId displayName nowMs =>
      refine iff_of_true ?_ trivial
      simp only [PhaseForward, phaseTrace]
      split
      · exact .cons_cons (normalize_forward _ _ nowMs) (.singleton _)
      · exact .nil
  | reconcile nowMs =>
      refine iff_of_true ?_ trivial
      simp only [PhaseForward, phaseTrace]
      split
      · exact .cons_cons (normalize_forward _ _ nowMs) (.singleton _)
      · exact .nil
  | worker | create | start | startCheck | startBump | abort | abortDeactivate | close
  | closeRelease | closeClear | remove | markSoftFreeze => exact iff_of_true .nil trivial

/-! ## The trace is what the store goes through -/

/-- The trace leads from one phase to the other. -/
def Leads (trace : List LocalRacePhase) (old new : LocalRacePhase) : Prop :=
  trace = [] ∧ new = old ∨ trace.head? = some old ∧ trace.getLast? = some new

theorem leads_nil {s : LocalRaceState} {race race' : LocalRaceRuntimeInfo}
    (h : s.active = some race) (h' : s.active = some race') :
    Leads [] race.phase race'.phase := by
  obtain rfl := Option.some.inj (h.symm.trans h')
  exact Or.inl ⟨rfl, rfl⟩

theorem updateActiveRace_leads {s : LocalRaceState} {raceId : String}
    {update : LocalRaceRuntimeInfo → LocalRaceRuntimeInfo} {beforeMs afterMs : ℕ}
    {race race' : LocalRaceRuntimeInfo} (hactive : s.active = some race)
    (hactive' : (updateActiveRace s raceId update beforeMs afterMs).1.active = some race') :
    Leads (match s.find raceId with
      | .ok race => (updateTrace race update beforeMs afterMs).map (·.phase)
      | .error _ => []) race.phase race'.phase := by
  rw [updateActiveRace] at hactive'
  cases hfind : s.find raceId with
  | error err =>
      rw [hfind] at hactive'
      exact leads_nil hactive hactive'
  | ok stored =>
      rw [hfind] at hactive'
      cases hactive'
      obtain rfl := Option.some.inj (hactive.symm.trans (find_ok hfind).1)
      exact Or.inr ⟨rfl, rfl⟩

theorem recount_phase {s : LocalRaceState} {race race' : LocalRaceRuntimeInfo}
    (hactive : s.active = some race) (hactive' : s.recount.active = some race') :
    race'.phase = race.phase := by
  simp only [LocalRaceState.recount, hactive, Option.map_some, Option.some.injEq] at hactive'
  rw [← hactive']

theorem registerParticipant_leads {s : LocalRaceState} {raceId : String} {carId : ℕ}
    {displayName : String} {nowMs : ℕ} {race race' : LocalRaceRuntimeInfo}
    (hactive : s.active = some race)
    (hactive' : (registerParticipant s raceId carId displayName nowMs).1.active = some race') :
    Leads (match s.find raceId with
      | .ok race => [race.phase, (normalizeRacePhaseAt race nowMs).phase]
      | .error _ => []) race.phase race'.phase := by
  rw [registerParticipant] at hactive'
  cases hfind : s.find raceId with
  | error err =>
      rw [hfind] at hactive'
      exact leads_nil hactive hactive'
  | ok stored =>
      rw [hfind] at hactive'
      obtain rfl := Option.some.inj (hactive.symm.trans (find_ok hfind).1)
      have hphase : race'.phase = (normalizeRacePhaseAt race nowMs).phase := by
        dsimp only at hactive'
        split at hactive'
        · cases hactive'
          rfl
        · split at hactive'
          · cases hactive'
            rfl
          · exact recount_phase rfl hactive'
      exact Or.inr ⟨rfl, by rw [hphase]; rfl⟩

theorem reconcileActiveRace_leads {s : LocalRaceState} {nowMs : ℕ}
    {race race' : LocalRaceRuntimeInfo} (hactive : s.active = some race)
    (hactive' : (reconcileActiveRace s nowMs).1.active = some race') :
    Leads [race.phase, (normalizeRacePhaseAt race nowMs).phase] race.phase race'.phase := by
  rw [reconcileActiveRace] at hactive'
  rw [hactive] at hactive'
  dsimp only at hactive'
  refine Or.inr ⟨rfl, ?_⟩
  split at hactive'
  · rename_i hsame
    obtain rfl := Option.some.inj (hactive.symm.trans hactive')
    rw [← hsame]
    rfl
  · cases hactive'
    rfl

/-- While a race stays active, the trace of an event leads from its phase
before to its phase after. -/
theorem phaseTrace_leads (b : Build) {s : RaceSystem E} {ev : RaceEvent E}
    {race race' : LocalRaceRuntimeInfo} (hactive : s.races.active = some race)
    (hactive' : (stepRace b s ev).races.active = some race') (hid : race'.raceId = race.raceId) :
    Leads (phaseTrace s ev) race.phase race'.phase := by
  cases ev with
  | createSet id createdMs nowMs =>
      simp only [stepRace] at hactive'
      split at hactive'
      · rename_i config raceId preset revision hrequest
        cases hactive'
        have hsame : race.raceId = raceId := by
          rw [← hid, normalizeRacePhaseAt_raceId]
          rfl
        simp only [phaseTrace, hrequest, hactive, if_pos hsame]
        exact Or.inr ⟨rfl, rfl⟩
      · rename_i hnone
        have hnil : phaseTrace s (.createSet id createdMs nowMs) = [] := by
          simp only [phaseTrace]
          split
          · rename_i hrequest _
            exact absurd hrequest (hnone _ _ _ _)
          · rfl
        rw [hnil]
        exact leads_nil hactive hactive'
  | startWrite id beforeMs afterMs =>
      simp only [stepRace] at hactive'
      split at hactive'
      · rename_i hrequest
        simp only [phaseTrace, hrequest]
        exact updateActiveRace_leads hactive hactive'
      · simp only [phaseTrace]
        exact leads_nil hactive hactive'
  | abortWrite id beforeMs afterMs =>
      simp only [stepRace] at hactive'
      split at hactive'
      · rename_i hrequest
        simp only [phaseTrace, hrequest]
        exact updateActiveRace_leads hactive hactive'
      · simp only [phaseTrace]
        exact leads_nil hactive hactive'
  | register raceId carId displayName nowMs => exact registerParticipant_leads hactive hactive'
  | reconcile nowMs =>
      simp only [phaseTrace, hactive]
      exact reconcileActiveRace_leads hactive hactive'
  | remove carId =>
      let removed : LocalRaceState :=
        { s.races with participants := s.races.participants.erase carId }
      have hremoved : removed.active = some race := hactive
      exact Or.inl ⟨rfl, recount_phase hremoved hactive'⟩
  | closeClear id =>
      simp only [stepRace] at hactive'
      split at hactive'
      · simp only [RaceSystem.next, RaceSystem.put, clearActiveRace] at hactive'
        split at hactive'
        · exact leads_nil hactive hactive'
        · cases hactive'
      · exact leads_nil hactive hactive'
  | markSoftFreeze raceId =>
      simp only [stepRace, markFinishSoftFreezeApplied] at hactive'
      split at hactive' <;> exact leads_nil hactive hactive'
  | create id env expectedRevision config raceId =>
      simp only [stepRace] at hactive'
      split at hactive'
      · split at hactive' <;> exact leads_nil hactive hactive'
      · exact leads_nil hactive hactive'
  | worker ev hforeign => exact leads_nil hactive hactive'
  | start | startCheck | startBump | abort | abortDeactivate | close
  | closeRelease =>
      simp only [stepRace] at hactive'
      split at hactive' <;> exact leads_nil hactive hactive'

/-! ## Whole runs -/

def FinalPhase (phase : LocalRacePhase) : Prop := phase = .finished ∨ phase = .aborted

theorem PhaseStep.final {immediate : Prop} {old new : LocalRacePhase}
    (h : PhaseStep immediate old new) (hfinal : FinalPhase old) : new = old := by
  cases h with
  | stay => rfl
  | abort _ hnot => exact (hfinal.elim hnot.1 hnot.2).elim
  | countdown | start | running | finished => rcases hfinal with h | h <;> cases h

/-- A forward trace that starts in a final phase stays in it. -/
theorem leads_final {immediate : Prop} {trace : List LocalRacePhase} {old new : LocalRacePhase}
    (hchain : trace.IsChain (PhaseStep immediate)) (h : Leads trace old new)
    (hfinal : FinalPhase old) : new = old := by
  rcases h with ⟨-, heq⟩ | ⟨hhead, hlast⟩
  · exact heq
  · induction trace generalizing old with
    | nil => cases hhead
    | cons phase rest ih =>
        cases hhead
        cases rest with
        | nil => exact (Option.some.inj hlast).symm
        | cons next rest =>
            obtain ⟨hstep, hrest⟩ := List.isChain_cons_cons.mp hchain
            have hsame := hstep.final hfinal
            subst hsame
            exact ih hrest hfinal rfl hlast

/-- The race store after the first `n` events. -/
def racesAt (b : Build) (evs : List (RaceEvent E)) (n : ℕ) : LocalRaceState :=
  (stateAt (stepRace b) (RaceSystem.initial E) evs n).races

/-- As long as a race stays active, it keeps a final phase. -/
def FinalKept (b : Build) (evs : List (RaceEvent E)) : Prop :=
  ∀ raceId m n, m ≤ n → (∀ k, m ≤ k → k ≤ n → (racesAt b evs k).activeId = some raceId) →
    ∀ race, (racesAt b evs m).active = some race → FinalPhase race.phase →
      ∃ race', (racesAt b evs n).active = some race' ∧ race'.phase = race.phase

theorem finalKept_of_forward {b : Build} {evs : List (RaceEvent E)}
    (h : Along PhaseForward (stepRace b) (RaceSystem.initial E) evs) : FinalKept b evs := by
  intro raceId m n hmn hstays race hrace hfinal
  induction hmn with
  | refl => exact ⟨race, hrace, rfl⟩
  | @step n hmn ih =>
      obtain ⟨mid, hmid, hphase⟩ := ih fun k hk hkn => hstays k hk (Nat.le_succ_of_le hkn)
      by_cases hn : n < evs.length
      · obtain ⟨race', hrace', hid'⟩ :=
          Option.map_eq_some_iff.mp (hstays (n + 1) (Nat.le_succ_of_le hmn) le_rfl)
        refine ⟨race', hrace', ?_⟩
        have hid : mid.raceId = raceId := by
          have hstay := hstays n hmn (Nat.le_succ n)
          rw [LocalRaceState.activeId, hmid] at hstay
          exact Option.some.inj hstay
        rw [racesAt, stateAt_succ hn] at hrace'
        have hleads := phaseTrace_leads b hmid hrace' (hid'.trans hid.symm)
        rw [leads_final (h.get hn) hleads (hphase ▸ hfinal), hphase]
      · have hsame : racesAt b evs (n + 1) = racesAt b evs n := by
          rw [racesAt, racesAt, stateAt_of_length_le (by omega), stateAt_of_length_le (by omega)]
        exact ⟨mid, hsame ▸ hmid, hphase⟩

/-- In every run, phases only move forward and final phases are kept
exactly when every start and every abort finds a phase it may overwrite. -/
theorem race_phases_forward_iff (b : Build) (evs : List (RaceEvent E))
    (hfresh : Along FreshId (stepRace b) (RaceSystem.initial E) evs) :
    Along PhaseForward (stepRace b) (RaceSystem.initial E) evs ∧ FinalKept b evs ↔
      Along WriteAdmissible (stepRace b) (RaceSystem.initial E) evs := by
  have hiff : Along PhaseForward (stepRace b) (RaceSystem.initial E) evs ↔
      Along WriteAdmissible (stepRace b) (RaceSystem.initial E) evs :=
    hfresh.congr (I := fun s : RaceSystem E => s.view.IdsOk)
      (fun s ev h hev => h.step (stepRace_step b hev)) (fun s ev h _ => phaseForward_iff h ev)
      idsOk_initial
  constructor
  · exact fun h => hiff.mp h.1
  · exact fun h => ⟨hiff.mpr h, finalKept_of_forward (hiff.mpr h)⟩

/-! ## A start that comes too late -/

/-- A countdown of five seconds, and the race runs. -/
def countdown : List (RaceEvent CarWorld) :=
  [.start 1 1 "r" 5, .startCheck 1 0 0, .startWrite 1 0 0, .startBump 1, .reconcile 5000]

theorem countdown_forward_iff :
    Along PhaseForward (stepRace .standalone) (RaceSystem.initial CarWorld)
        (creation ++ countdown) ∧ FinalKept .standalone (creation ++ countdown) ↔
      Along WriteAdmissible (stepRace .standalone) (RaceSystem.initial CarWorld)
        (creation ++ countdown) := by
  refine race_phases_forward_iff .standalone (creation ++ countdown)
    ⟨?_, trivial, trivial, trivial, trivial, trivial, trivial, trivial⟩
  simp [FreshId, RaceSystem.initial]

/-- The race is aborted between the staging check of a start and its
write. -/
def lateStart : List (RaceEvent CarWorld) :=
  creation ++ [.start 1 1 "r" 5, .startCheck 1 0 0, .abort 2 1 "r", .abortWrite 2 0 0,
    .abortDeactivate 2, .startWrite 1 0 0]

theorem aborted_race_restarted :
    Along FreshId (stepRace .standalone) (RaceSystem.initial CarWorld) lateStart ∧
      ¬ (Along PhaseForward (stepRace .standalone) (RaceSystem.initial CarWorld) lateStart ∧
        FinalKept .standalone lateStart) := by
  refine ⟨⟨?_, trivial, trivial, trivial, trivial, trivial, trivial, trivial, trivial⟩, ?_⟩
  · simp [FreshId, RaceSystem.initial]
  · rintro ⟨hforward, -⟩
    have hlast := hforward.get (n := 7) (by simp [lateStart, creation])
    have htrace : phaseTrace (stateAt (stepRace .standalone) (RaceSystem.initial CarWorld)
        lateStart 7) (.startWrite 1 0 0) = [.aborted, .aborted, .countdown, .countdown] := by
      decide
    change (phaseTrace _ (.startWrite 1 0 0)).IsChain _ at hlast
    rw [htrace, List.isChain_cons_cons, List.isChain_cons_cons] at hlast
    obtain ⟨-, hrestart, -⟩ := hlast
    cases hrestart

end HackArena.Services
