import HackArena.Local.RacePolling
import HackArena.Services.Gameplay

/-!
# Commands while the race runs

A participant that has found the race open may send its command when the race
is over, and an administrator that has found it in staging may start it again
when it has finished. In the runs in which neither happens, every command
reaches the engine while the race runs, and the cars that the lifecycle task has
stopped stay so.
-/

namespace HackArena.Services

open Boink GuardedRun HackArena.Runtime HackArena.Local

variable {E : Type}

/-! ## What is said about a run -/

/-- The phase that the race with the id has at a time. -/
def phaseAt (s : LocalRaceState) (raceId : String) (nowMs : ℕ) : Option LocalRacePhase :=
  match s.find raceId with
  | .ok race => some (normalizeRacePhaseAt race nowMs).phase
  | .error _ => none

/-- A control or command of a participant for a car of the race. -/
def commandsCar (raceId : String) : GameplayOp → Bool
  | .service (.engine target op) => decide (target = .localRace raceId) && commands op
  | _ => false

/-- The engine has applied what the call asks for. -/
def GameplayOp.applied : (op : GameplayOp) → op.Answer → Bool
  | .service (.engine ..), .ok _ => true
  | .admin (.engine (.slot ..)), .ok _ => true
  | _, _ => false

/-- A command that the engine applies reaches it while the race runs. -/
def CommandWhileRunning (b : Build) (raceId : String) (w : GameplayWorld E) (_ : ℕ)
    (op : GameplayOp) (i : GameplayInput E) : Prop :=
  commandsCar raceId op = true → op.applied (gameplayExec b w.shared op i).2 = true →
    phaseAt w.shared.admin.races raceId (unixMs (w.shared.clockAt i)) = some .running

instance (b : Build) (raceId : String) (w : GameplayWorld E) (i : ℕ) (op : GameplayOp)
    (input : GameplayInput E) : Decidable (CommandWhileRunning b raceId w i op input) :=
  inferInstanceAs (Decidable (_ → _ → _ = _))

/-- The controls that the engine has applied to the car with a call. -/
def controlsIn (raceId : String) (engineCarId : ℕ) : GameplayEntry → Option Controls
  | ⟨_, .service (.engine target (.setControls id controls)), .ok _⟩ =>
      if target = .localRace raceId ∧ id = engineCarId then some controls else none
  | ⟨_, .admin (.engine (.slot target (.setControls id controls))), .ok _⟩ =>
      if target = .localRace raceId ∧ id = engineCarId then some controls else none
  | _ => none

def lastControls (raceId : String) (engineCarId : ℕ) (log : List GameplayEntry) : Option Controls :=
  log.findSome? (controlsIn raceId engineCarId)

/-- `mark_finish_soft_freeze_applied` has succeeded. -/
def marksFreeze (raceId : String) : GameplayEntry → Bool
  | ⟨_, .admin (.races (.markFinishSoftFreezeApplied other)), .ok _⟩ => other = raceId
  | _ => false

/-- A car of the race is in the store. -/
def InRace (s : RaceRuntimeStore) (raceId : String) (engineCarId : ℕ) : Prop :=
  ∃ carId, s.localRaceCar raceId carId = some engineCarId

/-- Every car of the race that is still in the store, but for some, has been
stopped last. -/
def StoppedBut (raceId : String) (todo : List ℕ) (s : RaceRuntimeStore) (log : List GameplayEntry) :
    Prop :=
  ∀ engineCarId, InRace s raceId engineCarId → engineCarId ∈ todo ∨
    lastControls raceId engineCarId log = some finishedLocalRaceControls

/-- Once the freeze has been marked as applied, the cars have been stopped. -/
def StoppedOnceMarked (raceId : String) (w : GameplayWorld E) : Prop :=
  w.log.any (marksFreeze raceId) = true → ∀ engineCarId, InRace w.shared.store raceId engineCarId →
    lastControls raceId engineCarId w.log = some finishedLocalRaceControls

/-! ## Undisturbed runs -/

/-- The call aborts the race. -/
def aborts : GameplayEntry → Bool
  | ⟨_, .admin (.races (.updateActiveRace ..)), .ok race⟩ => race.phase = .aborted
  | _ => false

/-- The call looks whether the race is open. -/
def looks : GameplayOp → Bool
  | .service (.streamInput _) | .service (.gameplayCommandsClosed _) => true
  | _ => false

/-- The race has been aborted since the thread last looked. -/
def abortedSince (thread : ℕ) : List GameplayEntry → Bool
  | [] => false
  | e :: log =>
      if e.thread = thread ∧ looks e.op = true then false else aborts e || abortedSince thread log

/-- The call writes an update of the race. -/
def updates (raceId : String) : GameplayOp → Bool
  | .admin (.races (.updateActiveRace other _)) => other = raceId
  | _ => false

/-- The planned end that is stored for the race has come. -/
def pastEnd (s : LocalRaceState) (nowMs : ℕ) : Bool :=
  reached nowMs (s.active.bind (·.plannedEndAtUtc))

/-- Between the look of a participant and its command the race is not aborted
and does not reach its end; and a countdown is started in a race that is still
in staging. -/
structure Undisturbed (b : Build) (tasks : ℕ → GameplayTask) (raceId : String) (w : GameplayWorld E)
    (thread : ℕ) (op : GameplayOp) (i : GameplayInput E) : Prop where
  command : commandsCar raceId op = true → op.applied (gameplayExec b w.shared op i).2 = true →
    abortedSince thread w.log = false ∧
      pastEnd w.shared.admin.races (unixMs (w.shared.clockAt i)) = false
  start : (tasks thread).starts = true → updates raceId op = true →
    phaseAt w.shared.admin.races raceId (unixMs (w.shared.clockAt i)) = some .staging

instance (b : Build) (tasks : ℕ → GameplayTask) (raceId : String) (w : GameplayWorld E)
    (thread : ℕ) (op : GameplayOp) (i : GameplayInput E) :
    Decidable (Undisturbed b tasks raceId w thread op i) :=
  decidable_of_iff _ ⟨fun h : _ ∧ _ => ⟨h.1, h.2⟩, fun h => ⟨h.command, h.start⟩⟩

/-! ## The phase of a race -/

section Phases

variable {race : LocalRaceRuntimeInfo} {nowMs t₁ t₂ : ℕ}

/-- The race has begun, and if it has finished, its end has come. -/
def Going (race : LocalRaceRuntimeInfo) (nowMs : ℕ) : Prop :=
  race.phase = .countdown ∧ reached nowMs race.countdownEndAtUtc = true ∨ race.phase = .running ∨
    race.phase = .finished ∧ reached nowMs race.plannedEndAtUtc = true

/-- The race has ended, or is about to be found finished. -/
def Over (race : LocalRaceRuntimeInfo) (nowMs : ℕ) : Prop :=
  race.phase = .aborted ∨ race.phase = .finished ∨
    race.phase = .running ∧ reached nowMs race.plannedEndAtUtc = true

/-- What stays true of a race as time passes and the race is read. -/
structure Lasting (P : LocalRaceRuntimeInfo → ℕ → Prop) : Prop where
  later : ∀ {race t₁ t₂}, t₁ ≤ t₂ → P race t₁ → P race t₂
  normalized : ∀ {race nowMs}, P race nowMs → P (normalizeRacePhaseAt race nowMs) nowMs

theorem normalize_running_of_not_reached (hphase : race.phase = .running)
    (hend : reached nowMs race.plannedEndAtUtc = false) : normalizeRacePhaseAt race nowMs = race := by
  rw [normalize_running hphase, hend]
  rfl

theorem normalize_running_of_reached (hphase : race.phase = .running)
    (hend : reached nowMs race.plannedEndAtUtc = true) :
    normalizeRacePhaseAt race nowMs = { race with phase := .finished } := by
  rw [normalize_running hphase, if_pos hend]

theorem normalize_finished (hphase : race.phase = .finished) :
    normalizeRacePhaseAt race nowMs = race :=
  normalize_of_settled (by simp [hphase]) (by simp [hphase])

theorem normalize_aborted (hphase : race.phase = .aborted) :
    normalizeRacePhaseAt race nowMs = race :=
  normalize_of_settled (by simp [hphase]) (by simp [hphase])

theorem lasting_going : Lasting Going where
  later := by
    rintro race t₁ t₂ hle (⟨hphase, hend⟩ | hphase | ⟨hphase, hend⟩)
    · exact Or.inl ⟨hphase, reached_mono hle hend⟩
    · exact Or.inr (Or.inl hphase)
    · exact Or.inr (Or.inr ⟨hphase, reached_mono hle hend⟩)
  normalized := by
    rintro race nowMs (⟨hphase, hend⟩ | hphase | ⟨hphase, hend⟩)
    · rw [normalize_countdown hphase hend]
      exact Or.inr (Or.inl rfl)
    · cases hend : reached nowMs race.plannedEndAtUtc with
      | true =>
          rw [normalize_running_of_reached hphase hend]
          exact Or.inr (Or.inr ⟨rfl, hend⟩)
      | false =>
          rw [normalize_running_of_not_reached hphase hend]
          exact Or.inr (Or.inl hphase)
    · rw [normalize_finished hphase]
      exact Or.inr (Or.inr ⟨hphase, hend⟩)

theorem lasting_over : Lasting Over where
  later := by
    rintro race t₁ t₂ hle (hphase | hphase | ⟨hphase, hend⟩)
    · exact Or.inl hphase
    · exact Or.inr (Or.inl hphase)
    · exact Or.inr (Or.inr ⟨hphase, reached_mono hle hend⟩)
  normalized := by
    rintro race nowMs (hphase | hphase | ⟨hphase, hend⟩)
    · rw [normalize_aborted hphase]
      exact Or.inl hphase
    · rw [normalize_finished hphase]
      exact Or.inr (Or.inl hphase)
    · rw [normalize_running_of_reached hphase hend]
      exact Or.inr (Or.inl rfl)

/-- What is read as the phase decides where the race is. -/
theorem going_of_running (h : (normalizeRacePhaseAt race nowMs).phase = .running) :
    Going race nowMs := by
  by_cases hcountdown : race.phase = .countdown
  · refine Or.inl ⟨hcountdown, ?_⟩
    by_contra hend
    rw [normalize_countdown_of_not_reached hcountdown (by simpa using hend), hcountdown] at h
    cases h
  · by_cases hrunning : race.phase = .running
    · exact Or.inr (Or.inl hrunning)
    · rw [normalize_of_settled hcountdown hrunning] at h
      exact (hrunning h).elim

theorem over_of_finished (h : (normalizeRacePhaseAt race nowMs).phase = .finished) :
    Over race nowMs := by
  by_cases hrunning : race.phase = .running
  · refine Or.inr (Or.inr ⟨hrunning, ?_⟩)
    by_contra hend
    rw [normalize_running_of_not_reached hrunning (by simpa using hend), hrunning] at h
    cases h
  · by_cases hcountdown : race.phase = .countdown
    · cases hend : reached nowMs race.countdownEndAtUtc with
      | true =>
          rw [normalize_countdown hcountdown hend] at h
          cases h
      | false =>
          rw [normalize_countdown_of_not_reached hcountdown hend, hcountdown] at h
          cases h
    · rw [normalize_of_settled hcountdown hrunning] at h
      exact Or.inr (Or.inl h)

theorem Over.phase (h : Over race nowMs) : (normalizeRacePhaseAt race nowMs).phase = .aborted ∨
    (normalizeRacePhaseAt race nowMs).phase = .finished := by
  rcases h with hphase | hphase | ⟨hphase, hend⟩
  · rw [normalize_aborted hphase]
    exact Or.inl hphase
  · rw [normalize_finished hphase]
    exact Or.inr hphase
  · rw [normalize_running_of_reached hphase hend]
    exact Or.inr rfl

theorem Going.phase (h : Going race nowMs) : (normalizeRacePhaseAt race nowMs).phase = .running ∨
    (normalizeRacePhaseAt race nowMs).phase = .finished ∧
      reached nowMs race.plannedEndAtUtc = true := by
  rcases h with ⟨hphase, hend⟩ | hphase | ⟨hphase, hend⟩
  · rw [normalize_countdown hphase hend]
    exact Or.inl rfl
  · cases hend : reached nowMs race.plannedEndAtUtc with
    | true =>
        rw [normalize_running_of_reached hphase hend]
        exact Or.inr ⟨rfl, rfl⟩
    | false =>
        rw [normalize_running_of_not_reached hphase hend]
        exact Or.inl hphase
  · rw [normalize_finished hphase]
    exact Or.inr ⟨hphase, hend⟩

end Phases

/-! ## The race in the store -/

section Race

variable {s : LocalRaceState} {raceId : String} {nowMs : ℕ}

theorem activeId_congr {s t : LocalRaceState} (h : s.active = t.active) :
    s.activeId = t.activeId := congrArg (Option.map _) h

theorem active_of_activeId (h : s.activeId = some raceId) :
    ∃ race, s.active = some race ∧ s.find raceId = .ok race := by
  obtain ⟨race, hactive, rfl⟩ := Option.map_eq_some_iff.mp h
  exact ⟨race, hactive, by simp [LocalRaceState.find, hactive]⟩

theorem phaseAt_eq (h : s.activeId = some raceId) {race : LocalRaceRuntimeInfo}
    (hactive : s.active = some race) :
    phaseAt s raceId nowMs = some (normalizeRacePhaseAt race nowMs).phase := by
  obtain ⟨race', hactive', hfind⟩ := active_of_activeId h
  obtain rfl := Option.some.inj (hactive.symm.trans hactive')
  rw [phaseAt, hfind]

theorem reconcileActiveRace_active (s : LocalRaceState) (nowMs : ℕ) :
    (reconcileActiveRace s nowMs).1.active =
      s.active.map fun race => normalizeRacePhaseAt race nowMs := by
  unfold reconcileActiveRace
  cases hactive : s.active with
  | none => exact hactive
  | some race =>
      dsimp only
      split
      · rename_i hsame
        rw [hactive, Option.map_some, ← hsame]
      · rfl

theorem markFinishSoftFreezeApplied_active (s : LocalRaceState) (raceId : String) :
    (markFinishSoftFreezeApplied s raceId).1.active = s.active := by
  rw [markFinishSoftFreezeApplied]
  split <;> rfl

/-- An update is refused, or writes the race read before and after it. -/
theorem updateActiveRace_outcome (s : LocalRaceState) (raceId : String)
    (update : LocalRaceRuntimeInfo → LocalRaceRuntimeInfo) (beforeMs afterMs : ℕ) :
    (updateActiveRace s raceId update beforeMs afterMs).1 = s ∨
    ∃ race, s.active = some race ∧ race.raceId = raceId ∧
      (updateActiveRace s raceId update beforeMs afterMs).1.active =
        some (normalizeRacePhaseAt (update (normalizeRacePhaseAt race beforeMs)) afterMs) ∧
      ∃ updated, (updateActiveRace s raceId update beforeMs afterMs).2 = .ok updated ∧
        updated.phase =
          (normalizeRacePhaseAt (update (normalizeRacePhaseAt race beforeMs)) afterMs).phase := by
  unfold updateActiveRace
  cases hfind : s.find raceId with
  | error err => exact Or.inl rfl
  | ok race =>
      obtain ⟨hactive, hid⟩ := find_ok hfind
      exact Or.inr ⟨race, hactive, hid, rfl, _, rfl, rfl⟩

/-- What is known of the race. -/
def RaceHas (P : LocalRaceRuntimeInfo → ℕ → Prop) (s : LocalAdminState E) : Prop :=
  ∀ race, s.races.active = some race → P race (unixMs s.clockNs)

theorem unixMs_mono {t₁ t₂ : ℕ} (h : t₁ ≤ t₂) : unixMs t₁ ≤ unixMs t₂ := Nat.div_le_div_right h

theorem RaceHas.later {P : LocalRaceRuntimeInfo → ℕ → Prop} (hP : Lasting P)
    {s s' : LocalAdminState E} (h : RaceHas P s) (hraces : s'.races.active = s.races.active)
    (hclock : s.clockNs ≤ s'.clockNs) : RaceHas P s' := by
  intro race hactive
  rw [hraces] at hactive
  exact hP.later (unixMs_mono hclock) (h race hactive)

end Race

/-! ## What a call keeps -/

/-- What the threads know of the race, its cars and their controls is not
undone by a call, unless it aborts the race. -/
structure CallKeeps (raceId : String) (s s' : GameplayState E) (e : GameplayEntry) : Prop where
  active : s'.admin.races.activeId = s.admin.races.activeId
  ended : RaceHas Over s.admin → RaceHas Over s'.admin
  going : aborts e = false → RaceHas Going s.admin → RaceHas Going s'.admin
  shrunk : Shrunk s.store s'.store
  controls : RaceHas Over s.admin → ∀ engineCarId controls,
    controlsIn raceId engineCarId e = some controls → controls = finishedLocalRaceControls

section Calls

variable {b : Build} {raceId : String} {s : GameplayState E} {input : GameplayInput E}
  {e : GameplayEntry}

theorem clockNs_localExec_le (b : Build) (s : LocalAdminState E) (op : LocalOp)
    (i : LocalInput E) : s.clockNs ≤ (localExec b s op i).1.clockNs := by
  cases op with
  | races op =>
      change s.clockNs ≤ s.clockNs + i.elapsedNs + i.heldNs
      omega
  | _ => exact Nat.le_add_right s.clockNs i.elapsedNs

/-- A call that leaves the race and sets no controls. -/
theorem CallKeeps.of_same {s' : GameplayState E} (hraces : s'.admin.races = s.admin.races)
    (hclock : s.admin.clockNs ≤ s'.admin.clockNs) (hstore : Shrunk s.store s'.store)
    (hcontrols : ∀ engineCarId controls, controlsIn raceId engineCarId e = some controls →
      controls = finishedLocalRaceControls) : CallKeeps raceId s s' e where
  active := by rw [hraces]
  ended h := h.later lasting_over (by rw [hraces]) hclock
  going _ h := h.later lasting_going (by rw [hraces]) hclock
  shrunk := hstore
  controls _ := hcontrols

theorem controlsIn_races (raceId : String) (engineCarId thread : ℕ) (op : LocalRaceOp)
    (answer : op.Answer) :
    controlsIn raceId engineCarId ⟨thread, .admin (.races op), answer⟩ = none := rfl

theorem controlsIn_slot {engineCarId thread id : ℕ} {target : EngineCommandTarget}
    {controls sent : Controls}
    {answer : (GameplayOp.admin (.engine (.slot target (.setControls id sent)))).Answer}
    (h : controlsIn raceId engineCarId
      ⟨thread, .admin (.engine (.slot target (.setControls id sent))), answer⟩ = some controls) :
    controls = sent := by
  cases answer with
  | error err => cases h
  | ok reply =>
      dsimp only [controlsIn] at h
      split at h
      · exact (Option.some.inj h).symm
      · cases h

/-- A call to the race that writes nothing to it. -/
theorem CallKeeps.of_races {op : LocalRaceOp} {thread : ℕ}
    {answer : (GameplayOp.admin (.races op)).Answer}
    (h : (execRaces s.admin.races (unixMs (s.clockAt input))
      (unixMs (s.clockAt input + input.admin.heldNs)) op).1.active = s.admin.races.active) :
    CallKeeps raceId s (gameplayExec b s (.admin (.races op)) input).1
      ⟨thread, .admin (.races op), answer⟩ where
  active := activeId_congr h
  ended hover := hover.later lasting_over h (clockNs_localExec_le b s.admin _ _)
  going _ hgoing := hgoing.later lasting_going h (clockNs_localExec_le b s.admin _ _)
  shrunk := Shrunk.refl s.store
  controls _ engineCarId controls hcontrols := by
    rw [controlsIn_races] at hcontrols
    cases hcontrols

/-- The race is read, and what is read is stored. -/
theorem RaceHas.reconcile {P : LocalRaceRuntimeInfo → ℕ → Prop} (hP : Lasting P)
    {s : LocalAdminState E} {i : LocalInput E} (h : RaceHas P s) :
    RaceHas P (localExec b s (.races .reconcileActiveRace) i).1 := by
  intro race hactive
  change (reconcileActiveRace s.races (unixMs (s.clockNs + i.elapsedNs))).1.active = some race
    at hactive
  rw [reconcileActiveRace_active] at hactive
  obtain ⟨before, hbefore, rfl⟩ := Option.map_eq_some_iff.mp hactive
  have hlater := hP.later (unixMs_mono (Nat.le_add_right s.clockNs i.elapsedNs)) (h before hbefore)
  exact hP.later (unixMs_mono (Nat.le_add_right _ _)) (hP.normalized hlater)

theorem CallKeeps.reconcile (thread : ℕ)
    (answer : (GameplayOp.admin (.races .reconcileActiveRace)).Answer) :
    CallKeeps raceId s (gameplayExec b s (.admin (.races .reconcileActiveRace)) input).1
      ⟨thread, .admin (.races .reconcileActiveRace), answer⟩ where
  active := reconcileActiveRace_activeId s.admin.races _
  ended hover := hover.reconcile (b := b) lasting_over
  going _ hgoing := hgoing.reconcile (b := b) lasting_going
  shrunk := Shrunk.refl s.store
  controls _ engineCarId controls hcontrols := by
    rw [controlsIn_races] at hcontrols
    cases hcontrols

/-- What an update keeps of the race that it is about. -/
theorem RaceHas.update {P : LocalRaceRuntimeInfo → ℕ → Prop} {s : LocalAdminState E}
    {i : LocalInput E} {other : String} {update : LocalRaceRuntimeInfo → LocalRaceRuntimeInfo}
    (hP : Lasting P) (h : RaceHas P s)
    (hupdate : ∀ race, s.races.active = some race → race.raceId = other →
      P race (unixMs (s.clockNs + i.elapsedNs)) →
      P (update (normalizeRacePhaseAt race (unixMs (s.clockNs + i.elapsedNs))))
        (unixMs (s.clockNs + i.elapsedNs + i.heldNs))) :
    RaceHas P (localExec b s (.races (.updateActiveRace other update)) i).1 := by
  have hclock := clockNs_localExec_le b s (.races (.updateActiveRace other update)) i
  rcases updateActiveRace_outcome s.races other update (unixMs (s.clockNs + i.elapsedNs))
    (unixMs (s.clockNs + i.elapsedNs + i.heldNs)) with hsame | ⟨race, hactive, hid, hwritten, -⟩
  · exact h.later hP (congrArg LocalRaceState.active hsame) hclock
  · intro race' hrace'
    obtain rfl := Option.some.inj (hwritten.symm.trans hrace')
    have hnow := hP.later (unixMs_mono (Nat.le_add_right s.clockNs i.elapsedNs)) (h race hactive)
    exact hP.normalized (hupdate race hactive hid hnow)

/-- An abort that the log does not show has been refused. -/
theorem CallKeeps.abort (thread : ℕ) (other : String) :
    CallKeeps raceId s (gameplayExec b s (.admin (.races (.updateActiveRace other abortUpdate))) input).1
      ⟨thread, .admin (.races (.updateActiveRace other abortUpdate)),
        (gameplayExec b s (.admin (.races (.updateActiveRace other abortUpdate))) input).2⟩ where
  active := updateActiveRace_activeId
    (fun race => (rfl : (abortUpdate race).raceId = race.raceId)) _ _
  ended hover := hover.update (b := b) lasting_over fun _ _ _ _ => Or.inl rfl
  going hkept hgoing := by
    have hclock := clockNs_localExec_le b s.admin (.races (.updateActiveRace other abortUpdate))
      input.admin
    rcases updateActiveRace_outcome s.admin.races other abortUpdate (unixMs (s.clockAt input))
      (unixMs (s.clockAt input + input.admin.heldNs)) with
      hsame | ⟨race, -, -, -, updated, hanswer, hphase⟩
    · exact hgoing.later lasting_going (congrArg LocalRaceState.active hsame) hclock
    · have haborted : updated.phase = .aborted := by
        rw [hphase, normalize_aborted rfl]
        rfl
      have hlogged : (gameplayExec b s
          (.admin (.races (.updateActiveRace other abortUpdate))) input).2 = .ok updated := hanswer
      rw [hlogged] at hkept
      simp [aborts, haborted] at hkept
  shrunk := Shrunk.refl s.store
  controls _ engineCarId controls hcontrols := by
    rw [controlsIn_races] at hcontrols
    cases hcontrols

/-- A race in staging has neither begun nor ended. -/
theorem not_staging {race : LocalRaceRuntimeInfo} {nowMs : ℕ}
    (h : Going race nowMs ∨ Over race nowMs) :
    (normalizeRacePhaseAt race nowMs).phase ≠ .staging := by
  intro hstaging
  rcases h with hgoing | hover
  · rcases hgoing.phase with hphase | ⟨hphase, -⟩ <;> rw [hphase] at hstaging <;> cases hstaging
  · rcases hover.phase with hphase | hphase <;> rw [hphase] at hstaging <;> cases hstaging

theorem CallKeeps.start (thread : ℕ) (other : String) (countdownSeconds countdownEndMs : ℕ)
    (hactive : s.admin.races.activeId = some raceId)
    (hstaging : other = raceId →
      phaseAt s.admin.races raceId (unixMs (s.clockAt input)) = some .staging)
    (answer : (GameplayOp.admin (.races (.updateActiveRace other
      (startUpdate countdownSeconds countdownEndMs)))).Answer) :
    CallKeeps raceId s (gameplayExec b s (.admin (.races (.updateActiveRace other
        (startUpdate countdownSeconds countdownEndMs)))) input).1
      ⟨thread, .admin (.races (.updateActiveRace other
        (startUpdate countdownSeconds countdownEndMs))), answer⟩ := by
  have hnot (race : LocalRaceRuntimeInfo) (hrace : s.admin.races.active = some race)
      (hid : race.raceId = other) :
      ¬ (Going race (unixMs (s.clockAt input)) ∨ Over race (unixMs (s.clockAt input))) := by
    intro h
    have hother : other = raceId := by
      rw [LocalRaceState.activeId, hrace] at hactive
      exact hid.symm.trans (Option.some.inj hactive)
    have hphase := hstaging hother
    rw [phaseAt_eq hactive hrace] at hphase
    exact not_staging h (Option.some.inj hphase)
  constructor
  · refine updateActiveRace_activeId (fun race => ?_) _ _
    rw [startUpdate]
    split <;> rfl
  · exact fun hover => hover.update (b := b) lasting_over fun race hrace hid h =>
      (hnot race hrace hid (Or.inr h)).elim
  · exact fun _ hgoing => hgoing.update (b := b) lasting_going fun race hrace hid h =>
      (hnot race hrace hid (Or.inl h)).elim
  · exact Shrunk.refl s.store
  · intro _ engineCarId controls hcontrols
    rw [controlsIn_races] at hcontrols
    cases hcontrols

/-- A call that stands by, or asks for what is to be done. -/
theorem CallKeeps.standsBy {op : LocalOp} (hop : standsBy op = true) (thread : ℕ)
    (answer : op.Answer) :
    CallKeeps raceId s (gameplayExec b s (.admin op) input).1 ⟨thread, .admin op, answer⟩ := by
  have hplain (h : (localExec b s.admin op (s.adminInput input op)).1.races = s.admin.races)
      (hcontrols : ∀ engineCarId,
        controlsIn raceId engineCarId ⟨thread, .admin op, answer⟩ = none) :
      CallKeeps raceId s (gameplayExec b s (.admin op) input).1 ⟨thread, .admin op, answer⟩ :=
    .of_same h (clockNs_localExec_le b s.admin op _) (Shrunk.refl s.store)
      fun engineCarId controls h => by
        rw [hcontrols engineCarId] at h
        cases h
  cases op with
  | races op =>
      cases op with
      | activeRace => exact .of_races rfl
      | reconcileActiveRace => exact .reconcile thread answer
      | _ => cases hop
  | now => exact hplain rfl fun _ => rfl
  | engine op =>
      cases op with
      | runtimeState | bumpRevision | deactivateLocalRace => exact hplain rfl fun _ => rfl
      | _ => cases hop
  | _ => cases hop

/-- A call of the administration of the race. -/
theorem CallKeeps.raceCall {starts : Bool} {stage : GameplayStage} {op : LocalOp}
    (hcall : RaceCall starts stage op) (thread : ℕ)
    (hactive : s.admin.races.activeId = some raceId)
    (hstart : starts = true → updates raceId (.admin op) = true →
      phaseAt s.admin.races raceId (unixMs (s.clockAt input)) = some .staging) :
    CallKeeps raceId s (gameplayExec b s (.admin op) input).1
      ⟨thread, .admin op, (gameplayExec b s (.admin op) input).2⟩ := by
  cases hcall with
  | standsBy hop => exact .standsBy hop thread _
  | pending => exact .of_races rfl
  | start hstarts other countdownSeconds countdownEndMs =>
      exact .start thread other countdownSeconds countdownEndMs hactive
        (fun hother => hstart hstarts (decide_eq_true hother)) _
  | abort other => exact .abort thread other
  | list other =>
      exact .of_same rfl (Nat.le_add_right _ _) (Shrunk.refl s.store) fun _ _ h => by cases h
  | freeze other engineCarId todo allApplied =>
      exact .of_same rfl (Nat.le_add_right _ _) (Shrunk.refl s.store) fun id controls h =>
        controlsIn_slot h
  | mark other => exact .of_races (markFinishSoftFreezeApplied_active s.admin.races other)

theorem carCall_shrunk (b : Build) (s : RaceRuntimeStore) (carId : ℕ) (call : CarCall) :
    Shrunk s (call.apply b s carId) := by
  rcases call.apply_cases b s carId with ⟨-, seq, heq⟩ | ⟨-, sent, heq⟩ | ⟨-, state, heq⟩ |
    ⟨-, update, heq⟩ <;> rw [heq]
  · exact ⟨fun _ => Or.inl rfl, fun _ => Or.inl rfl⟩
  · exact ⟨fun _ => Or.inl rfl, fun _ => Or.inl rfl⟩
  · exact putPitState_shrunk s carId state
  · obtain ⟨identity, heq, -⟩ := modifyIdentity_eq s carId update
    rw [heq]
    exact ⟨fun _ => Or.inl rfl, fun _ => Or.inl rfl⟩

/-- No command is applied in a race that is over. -/
theorem CallKeeps.command (target : EngineCommandTarget) (op : SlotOp) (thread : ℕ)
    (hactive : s.admin.races.activeId = some raceId)
    (hrunning : commandsCar raceId (.service (.engine target op)) = true →
      GameplayOp.applied (.service (.engine target op)) (input.service.engine target op) = true →
      phaseAt s.admin.races raceId (unixMs (s.clockAt input)) = some .running) :
    CallKeeps raceId s (gameplayExec b s (.service (.engine target op)) input).1
      ⟨thread, .service (.engine target op), input.service.engine target op⟩ where
  active := rfl
  ended h := h.later lasting_over rfl (Nat.le_add_right _ _)
  going _ h := h.later lasting_going rfl (Nat.le_add_right _ _)
  shrunk := Shrunk.refl s.store
  controls hover engineCarId controls h := by
    obtain ⟨race, hrace, -⟩ := active_of_activeId hactive
    have hover := lasting_over.later (unixMs_mono (Nat.le_add_right s.admin.clockNs
      input.admin.elapsedNs)) (hover race hrace)
    have hnot : ¬ phaseAt s.admin.races raceId (unixMs (s.clockAt input)) = some .running := by
      rw [phaseAt_eq hactive hrace]
      intro hphase
      have hnow := Option.some.inj hphase
      change (normalizeRacePhaseAt race (unixMs (s.admin.clockNs + input.admin.elapsedNs))).phase =
        .running at hnow
      rcases hover.phase with hended | hended <;> rw [hended] at hnow <;> cases hnow
    generalize input.service.engine target op = answer at h hrunning
    cases op with
    | setControls id sent =>
        cases answer with
        | error err => cases h
        | ok accepted =>
            dsimp only [controlsIn] at h
            split at h
            · rename_i htarget
              exact (hnot (hrunning (by simp [commandsCar, htarget.1, commands]) rfl)).elim
            · cases h
    | _ => cases h

/-- A call of a participant. -/
theorem CallKeeps.participantCall {stage : GameplayStage} {op : ServiceOp}
    (hcall : ParticipantCall raceId stage op) (thread : ℕ)
    (hactive : s.admin.races.activeId = some raceId)
    (hrunning : commandsCar raceId (.service op) = true →
      GameplayOp.applied (.service op) (gameplayExec b s (.service op) input).2 = true →
      phaseAt s.admin.races raceId (unixMs (s.clockAt input)) = some .running) :
    CallKeeps raceId s (gameplayExec b s (.service op) input).1
      ⟨thread, .service op, (gameplayExec b s (.service op) input).2⟩ := by
  have hclock : s.admin.clockNs ≤ s.clockAt input := Nat.le_add_right _ _
  cases op with
  | engine target op => exact .command target op thread hactive hrunning
  | car carId call =>
      exact .of_same rfl hclock (carCall_shrunk b s.store carId call) fun _ _ h => by cases h
  | removeCar carId =>
      exact .of_same rfl hclock (removeCar_shrunk s.store carId) fun _ _ h => by cases h
  | send | carTarget | carEngineId | isBotSwitchInProgress | gameplayCommandsClosed
  | streamInput => exact .of_same rfl hclock (Shrunk.refl s.store) fun _ _ h => by cases h
  | _ => exact hcall.elim

end Calls

/-! ## The invariant -/

/-- What a thread knows in its stage. -/
def GameplayStage.Known (raceId : String) (s : GameplayState E) (log : List GameplayEntry)
    (thread : ℕ) : GameplayStage → Prop
  | .idle => True
  | .cleared => abortedSince thread log = false → RaceHas Going s.admin
  | .due other => other = raceId ∧ RaceHas Over s.admin
  | .freezing other todo allApplied => other = raceId ∧ RaceHas Over s.admin ∧
      (allApplied = true → StoppedBut raceId todo s.store log)

structure GameplayInv (raceId : String) (s : GameplayState E) (log : List GameplayEntry)
    (stages : ℕ → GameplayStage) : Prop where
  active : s.admin.races.activeId = some raceId
  known : ∀ i, (stages i).Known raceId s log i
  held : log.any (marksFreeze raceId) = true →
    RaceHas Over s.admin ∧ StoppedBut raceId [] s.store log

section Steps

open GameplayStage

variable {raceId : String} {s s' : GameplayState E} {log : List GameplayEntry}
  {stages : ℕ → GameplayStage} {stage : GameplayStage} {e : GameplayEntry} {b : Build}
  {input : GameplayInput E} {thread : ℕ}

theorem Shrunk.inRace {s t : RaceRuntimeStore} (h : Shrunk s t) {engineCarId : ℕ}
    (hcar : InRace t raceId engineCarId) : InRace s raceId engineCarId := by
  obtain ⟨carId, hcar⟩ := hcar
  refine ⟨carId, ?_⟩
  unfold RaceRuntimeStore.localRaceCar at hcar ⊢
  split at hcar
  · rename_i htarget
    rcases h.target carId with hsame | hnone
    · rw [if_pos (hsame ▸ htarget)]
      rcases h.engineId carId with hid | hnone
      · rw [← hid]
        exact hcar
      · rw [hnone] at hcar
        cases hcar
    · rw [hnone] at htarget
      cases htarget
  · cases hcar

theorem lastControls_cons (raceId : String) (engineCarId : ℕ) (e : GameplayEntry)
    (log : List GameplayEntry) : lastControls raceId engineCarId (e :: log) =
      (controlsIn raceId engineCarId e).or (lastControls raceId engineCarId log) := by
  rw [lastControls, List.findSome?_cons]
  cases controlsIn raceId engineCarId e <;> rfl

/-- Cars that have been stopped stay so. -/
theorem StoppedBut.kept {todo : List ℕ} (h : StoppedBut raceId todo s.store log)
    (hkeeps : CallKeeps raceId s s' e) (hover : RaceHas Over s.admin) :
    StoppedBut raceId todo s'.store (e :: log) := by
  intro engineCarId hcar
  refine (h engineCarId (hkeeps.shrunk.inRace hcar)).imp id fun hlast => ?_
  rw [lastControls_cons]
  cases hset : controlsIn raceId engineCarId e with
  | none => exact hlast
  | some controls => exact congrArg some (hkeeps.controls hover engineCarId controls hset)

/-- A call that is no look of the thread leaves what it knows. -/
theorem GameplayStage.Known.kept (h : stage.Known raceId s log thread)
    (hkeeps : CallKeeps raceId s s' e) (hlook : ¬ (e.thread = thread ∧ looks e.op = true)) :
    stage.Known raceId s' (e :: log) thread := by
  cases stage with
  | idle => trivial
  | cleared =>
      intro haborted
      rw [abortedSince, if_neg hlook, Bool.or_eq_false_iff] at haborted
      exact hkeeps.going haborted.1 (h haborted.2)
  | due other => exact ⟨h.1, hkeeps.ended h.2⟩
  | freezing other todo allApplied =>
      exact ⟨h.1, hkeeps.ended h.2.1, fun happlied => (h.2.2 happlied).kept hkeeps h.2.1⟩

/-- One call, of which its thread draws the right conclusion. -/
theorem GameplayInv.step (h : GameplayInv raceId s log stages) (hkeeps : CallKeeps raceId s s' e)
    (hmine : stage.Known raceId s' (e :: log) e.thread)
    (hmark : marksFreeze raceId e = true →
      RaceHas Over s.admin ∧ StoppedBut raceId [] s.store log) :
    GameplayInv raceId s' (e :: log) (Function.update stages e.thread stage) := by
  refine ⟨hkeeps.active.trans h.active, fun j => ?_, fun hmarked => ?_⟩
  · by_cases hj : j = e.thread
    · subst hj
      rwa [Function.update_self]
    · rw [Function.update_of_ne hj]
      exact (h.known j).kept hkeeps fun hlook => hj hlook.1.symm
  · have hbefore : RaceHas Over s.admin ∧ StoppedBut raceId [] s.store log := by
      rw [List.any_cons, Bool.or_eq_true] at hmarked
      exact hmarked.elim hmark h.held
    exact ⟨hkeeps.ended hbefore.1, hbefore.2.kept hkeeps hbefore.1⟩

theorem going_of_open (hactive : s.admin.races.activeId = some raceId) {nowMs : ℕ}
    (hopen : gameplayCommandsClosed s.admin.races raceId nowMs = false) :
    ∀ race, s.admin.races.active = some race → Going race nowMs := by
  intro race hrace
  obtain ⟨race', hrace', hfind⟩ := active_of_activeId hactive
  obtain rfl := Option.some.inj (hrace.symm.trans hrace')
  rw [gameplayCommandsClosed, hfind] at hopen
  exact going_of_running (by simpa using hopen)

theorem known_afterCheck (hactive : s.admin.races.activeId = some raceId)
    (hraces : s'.admin.races = s.admin.races) :
    (afterCheck (gameplayCommandsClosed s.admin.races raceId
      (unixMs s'.admin.clockNs))).Known raceId s' log thread := by
  cases hopen : gameplayCommandsClosed s.admin.races raceId (unixMs s'.admin.clockNs) with
  | true => trivial
  | false =>
      intro _ race hrace
      rw [hraces] at hrace
      exact going_of_open hactive hopen race hrace

/-- What a participant knows after a call. -/
theorem known_serviceNext (h : stage.Known raceId s log thread)
    (hactive : s.admin.races.activeId = some raceId) {op : ServiceOp}
    (hkeeps : CallKeeps raceId s (gameplayExec b s (.service op) input).1
      ⟨thread, .service op, (gameplayExec b s (.service op) input).2⟩) :
    (stage.serviceNext raceId op (gameplayExec b s (.service op) input).2).Known raceId
      (gameplayExec b s (.service op) input).1
      (⟨thread, .service op, (gameplayExec b s (.service op) input).2⟩ :: log) thread := by
  cases op with
  | gameplayCommandsClosed other =>
      change (if other = raceId then afterCheck (gameplayCommandsClosed s.admin.races other
        (unixMs (s.clockAt input))) else .idle : GameplayStage).Known _ _ _ _
      split
      · rename_i hother
        subst hother
        exact known_afterCheck hactive rfl
      · trivial
  | streamInput cfg => exact known_afterCheck hactive rfl
  | _ => exact h.kept hkeeps fun hlook => Bool.noConfusion hlook.2

/-- A participant's call. -/
theorem GameplayInv.participantCall (h : GameplayInv raceId s log stages) {op : ServiceOp}
    (hcall : ParticipantCall raceId (stages thread) op)
    (hrunning : commandsCar raceId (.service op) = true →
      GameplayOp.applied (.service op) (gameplayExec b s (.service op) input).2 = true →
      phaseAt s.admin.races raceId (unixMs (s.clockAt input)) = some .running) :
    GameplayInv raceId (gameplayExec b s (.service op) input).1
      (⟨thread, .service op, (gameplayExec b s (.service op) input).2⟩ :: log)
      (Function.update stages thread ((stages thread).serviceNext raceId op
        (gameplayExec b s (.service op) input).2)) := by
  have hkeeps := CallKeeps.participantCall hcall thread h.active hrunning
  exact h.step hkeeps (known_serviceNext (h.known thread) h.active hkeeps) nofun

theorem mem_localRaceCars {s : RaceRuntimeStore} {order : List ℕ} {engineCarId : ℕ} :
    engineCarId ∈ s.localRaceCars order raceId ↔ InRace s raceId engineCarId := by
  simp only [RaceRuntimeStore.localRaceCars, List.mem_filterMap, InRace]
  refine exists_congr fun carId => and_iff_right_of_imp fun hcar => ?_
  have hkey : carId ∈ s.carTargets := by
    by_contra hnone
    rw [RaceRuntimeStore.localRaceCar, Finmap.lookup_eq_none.mpr hnone, if_neg nofun] at hcar
    cases hcar
  by_cases hordered : carId ∈ order
  · exact List.mem_append_left _ hordered
  · exact List.mem_append_right _ (List.mem_filter.mpr
      ⟨HashMap.mem_sortedKeys.mpr hkey, decide_eq_true hordered⟩)

/-- The race that is to be stopped is over. -/
theorem over_of_pending (hactive : s.admin.races.activeId = some raceId) {nowMs : ℕ}
    {pending : LocalRaceRuntimeInfo}
    (h : finishedRacePendingSoftFreeze s.admin.races nowMs = some pending) :
    pending.raceId = raceId ∧ ∀ race, s.admin.races.active = some race → Over race nowMs := by
  obtain ⟨race, hrace, hfind⟩ := active_of_activeId hactive
  rw [finishedRacePendingSoftFreeze, hrace] at h
  dsimp only at h
  split at h
  · cases h
  · split at h
    · cases h
    · rename_i hfinished
      obtain rfl := Option.some.inj h
      refine ⟨(normalizeRacePhaseAt_raceId race nowMs).trans (find_ok hfind).2, ?_⟩
      rintro race' hrace'
      obtain rfl := Option.some.inj (hrace.symm.trans hrace')
      exact over_of_finished (not_not.mp hfinished)

/-- One more car has been stopped. -/
theorem StoppedBut.freeze {engineCarId : ℕ} {todo : List ℕ}
    (h : StoppedBut raceId (engineCarId :: todo) s.store (e :: log))
    (hset : controlsIn raceId engineCarId e = some finishedLocalRaceControls) :
    StoppedBut raceId todo s.store (e :: log) := by
  intro other hcar
  rcases h other hcar with hmem | hlast
  · rcases List.mem_cons.mp hmem with rfl | hmem
    · refine Or.inr ?_
      rw [lastControls_cons, hset]
      rfl
    · exact Or.inl hmem
  · exact Or.inr hlast

/-- What the administration knows after a call. -/
theorem known_adminNext {starts : Bool} {op : LocalOp} (hcall : RaceCall starts stage op)
    (h : stage.Known raceId s log thread) (hactive : s.admin.races.activeId = some raceId)
    (hkeeps : CallKeeps raceId s (gameplayExec b s (.admin op) input).1
      ⟨thread, .admin op, (gameplayExec b s (.admin op) input).2⟩) :
    (stage.adminNext op (gameplayExec b s (.admin op) input).2).Known raceId
      (gameplayExec b s (.admin op) input).1
      (⟨thread, .admin op, (gameplayExec b s (.admin op) input).2⟩ :: log) thread := by
  cases hcall with
  | standsBy hop =>
      rw [standsBy_next hop]
      trivial
  | start | abort => trivial
  | mark other => trivial
  | pending =>
      change (GameplayStage.idle.adminNext (.races .finishedRacePendingSoftFreeze)
        (finishedRacePendingSoftFreeze s.admin.races (unixMs (s.clockAt input)))).Known _ _ _ _
      cases hpending : finishedRacePendingSoftFreeze s.admin.races (unixMs (s.clockAt input)) with
      | none => trivial
      | some race =>
          obtain ⟨hid, hover⟩ := over_of_pending hactive hpending
          exact ⟨hid, fun race hrace => lasting_over.later
            (unixMs_mono (Nat.le_add_right _ input.admin.heldNs)) (hover race hrace)⟩
  | list other =>
      refine ⟨h.1, hkeeps.ended h.2, fun _ engineCarId hcar => Or.inl ?_⟩
      obtain ⟨rfl, -⟩ := h
      exact mem_localRaceCars.mpr hcar
  | freeze other engineCarId todo allApplied =>
      obtain ⟨rfl, hover, hstopped⟩ := h
      generalize (gameplayExec b s (.admin (.engine (.slot (.localRace other)
        (.setControls engineCarId finishedLocalRaceControls)))) input).2 = answer at hkeeps ⊢
      cases answer with
      | error err => exact ⟨rfl, hkeeps.ended hover, nofun⟩
      | ok reply =>
          refine ⟨rfl, hkeeps.ended hover, fun happlied => ?_⟩
          exact ((hstopped happlied).kept hkeeps hover).freeze (if_pos ⟨rfl, rfl⟩)

/-- A freeze is marked as applied when every car has been stopped. -/
theorem stopped_of_mark {starts : Bool} {op : LocalOp} (hcall : RaceCall starts stage op)
    (h : stage.Known raceId s log thread) {answer : op.Answer}
    (hmark : marksFreeze raceId ⟨thread, .admin op, answer⟩ = true) :
    RaceHas Over s.admin ∧ StoppedBut raceId [] s.store log := by
  cases hcall with
  | mark other => exact ⟨h.2.1, h.2.2 rfl⟩
  | standsBy hop =>
      cases op with
      | races op => cases op <;> first | exact Bool.noConfusion hop | exact Bool.noConfusion hmark
      | _ => exact Bool.noConfusion hmark
  | _ => exact Bool.noConfusion hmark

/-- A call of the administration. -/
theorem GameplayInv.raceCall (h : GameplayInv raceId s log stages) {starts : Bool} {op : LocalOp}
    (hcall : RaceCall starts (stages thread) op)
    (hstart : starts = true → updates raceId (.admin op) = true →
      phaseAt s.admin.races raceId (unixMs (s.clockAt input)) = some .staging) :
    GameplayInv raceId (gameplayExec b s (.admin op) input).1
      (⟨thread, .admin op, (gameplayExec b s (.admin op) input).2⟩ :: log)
      (Function.update stages thread ((stages thread).adminNext op
        (gameplayExec b s (.admin op) input).2)) := by
  have hkeeps := CallKeeps.raceCall (b := b) hcall thread h.active hstart
  exact h.step hkeeps (known_adminNext hcall (h.known thread) h.active hkeeps)
    (stopped_of_mark hcall (h.known thread))

end Steps

/-! ## Runs -/

section Runs

variable {b : Build} {tasks : ℕ → GameplayTask} {raceId : String}

abbrev protocols (raceId : String) (tasks : ℕ → GameplayTask) (i : ℕ) :
    Protocol GameplayOp GameplayOp.Answer GameplayStage :=
  gameplayProtocol raceId (tasks i).starts

def GameplayOk (raceId : String) (tasks : ℕ → GameplayTask) (w : GameplayWorld E) : Prop :=
  GameplayInv raceId w.shared w.log fun i => (protocols raceId tasks i).stageOf i w.log

/-- A participant that sends a command knows that the race is going. -/
theorem commandWhileRunning_of_undisturbed {w : GameplayWorld E} {i : ℕ} {op : GameplayOp}
    {input : GameplayInput E} (h : GameplayOk raceId tasks w)
    (hguard : Undisturbed b tasks raceId w i op input)
    (hcall : (protocols raceId tasks i).permits ((protocols raceId tasks i).stageOf i w.log) op) :
    CommandWhileRunning b raceId w i op input := by
  intro hcommand happlied
  obtain ⟨haborted, hend⟩ := hguard.command hcommand happlied
  obtain ⟨race, hrace, -⟩ := active_of_activeId h.active
  have hcleared : (protocols raceId tasks i).stageOf i w.log = .cleared := by
    cases op with
    | admin op => cases hcommand
    | service op =>
        cases op with
        | engine target op =>
            obtain ⟨htarget, hcommands⟩ := Bool.and_eq_true_iff.mp hcommand
            obtain rfl := of_decide_eq_true htarget
            exact hcall rfl hcommands
        | _ => cases hcommand
  have hknown := h.known i
  rw [hcleared] at hknown
  have hgoing := lasting_going.later (unixMs_mono (Nat.le_add_right w.shared.admin.clockNs
    input.admin.elapsedNs)) (hknown haborted race hrace)
  rw [phaseAt_eq h.active hrace]
  refine congrArg some (hgoing.phase.resolve_right fun hfinished => ?_)
  rw [pastEnd, hrace] at hend
  exact Bool.noConfusion (hfinished.2.symm.trans hend)

theorem GameplayOk.perform {w : GameplayWorld E} {i : ℕ} {op : GameplayOp}
    {input : GameplayInput E} (h : GameplayOk raceId tasks w)
    (hguard : Undisturbed b tasks raceId w i op input)
    (hcall : (protocols raceId tasks i).permits ((protocols raceId tasks i).stageOf i w.log) op) :
    GameplayOk raceId tasks (w.perform (gameplayExec b) i op input) := by
  have hrunning := commandWhileRunning_of_undisturbed h hguard hcall
  rw [GameplayOk, Protocol.stages_perform]
  cases op with
  | admin op => exact GameplayInv.raceCall h hcall hguard.start
  | service op => exact GameplayInv.participantCall h hcall hrunning

theorem gameplayOk_start {s : GameplayState E} (hactive : s.admin.races.activeId = some raceId) :
    GameplayOk raceId tasks (⟨s, []⟩ : GameplayWorld E) :=
  ⟨hactive, fun _ => trivial, nofun⟩

/-- In an undisturbed run every command that the engine applies for a car of the
race reaches it while the race runs; and once the freeze has been marked as
applied, every car of the race that is still in the store has been stopped
last, and stays so. -/
theorem commands_only_while_running (hlocal : b.isLocal = true) (tasks : ℕ → GameplayTask)
    {s : GameplayState E} (hactive : s.admin.races.activeId = some raceId)
    {events : List (ℕ × GameplayInput E)}
    (hguard : Along (Pool.Guarded (Undisturbed b tasks raceId)) (Pool.step (gameplayExec b))
      (gameplayStart b tasks s) events) :
    Along (Pool.Guarded (CommandWhileRunning b raceId)) (Pool.step (gameplayExec b))
        (gameplayStart b tasks s) events ∧
      ∀ n, StoppedOnceMarked raceId (gameplayRun b tasks s events n).world := by
  have hfollowed : (gameplayStart b tasks s).FollowedBy (protocols raceId tasks) fun _ _ => True :=
    gameplayStart_followed hlocal tasks s
  have hstart : GameplayOk raceId tasks (gameplayStart b tasks s).world := gameplayOk_start hactive
  have hkept : ∀ (w : GameplayWorld E) i op input, GameplayOk raceId tasks w →
      Undisturbed b tasks raceId w i op input →
      (protocols raceId tasks i).permits ((protocols raceId tasks i).stageOf i w.log) op →
        GameplayOk raceId tasks (w.perform (gameplayExec b) i op input) :=
    fun _ _ _ _ h hundisturbed hcall => h.perform hundisturbed hcall
  constructor
  · exact hfollowed.along hkept (fun _ _ _ _ h hundisturbed hcall =>
      commandWhileRunning_of_undisturbed h hundisturbed hcall) hstart hguard
  · intro n hmarked engineCarId hcar
    have hn := hfollowed.invariant hkept hstart hguard n
    exact ((hn.held hmarked).2 engineCarId hcar).resolve_left nofun

end Runs

/-! ## A car drives on after the race -/

namespace DrivesOn

/-- A race that runs until 70 s. -/
def race : LocalRaceRuntimeInfo :=
  { LatePolling.minuteRace with
    phase := .running
    runningStartedAtUtc := some ⟨10, 0⟩
    plannedEndAtUtc := some ⟨70, 0⟩ }

/-- The race and its car, at 60 s. -/
def admin : LocalAdminState CarWorld :=
  [LocalOp.engine (.activateLocalRace 0 "r1" "m1" .noon none), .races (.setActiveRace race),
    .engine (.slot (.localRace "r1") .spawnCar)].foldl
      (fun s op => (localExec .local s op .works).1) (.initial CarWorld 60000000000 ⟨0, []⟩)

def start : GameplayState CarWorld where
  admin := admin
  store := CarEntry.insert (CarEntry.insert .new 1 (.engineId 1)) 1 (.target (.localRace "r1"))

def tasks : ℕ → GameplayTask
  | 0 => .setControlsDev LockedCar.fullThrottle
  | _ => .lifecycleTick

/-- Some time passes before a call. -/
def after (seconds : ℕ) : GameplayInput CarWorld where
  carOrder := []
  admin := { LocalInput.works with elapsedNs := seconds * 1000000000 }
  service := Tasks.willingInput 0 .tick

/-- The request sends its controls before the race has ended, and the tick
stops the car. -/
def inTime : List (ℕ × GameplayInput CarWorld) :=
  [(0, after 0), (0, after 0), (0, after 0), (0, after 1), (1, after 10), (1, after 0), (1, after 0),
    (1, after 0), (1, after 0), (1, after 0), (1, after 0)]

/-- The request finds the race open, and sends its controls after the tick has
stopped the car. -/
def tooLate : List (ℕ × GameplayInput CarWorld) :=
  [(0, after 0), (0, after 0), (0, after 0), (1, after 10), (1, after 0), (1, after 0), (1, after 0),
    (1, after 0), (1, after 0), (1, after 0), (0, after 0)]

theorem stops_in_time :
    Along (Pool.Guarded (CommandWhileRunning .local "r1")) (Pool.step (gameplayExec .local))
        (gameplayStart .local tasks start) inTime ∧
      ∀ n, StoppedOnceMarked "r1" (gameplayRun .local tasks start inTime n).world :=
  commands_only_while_running rfl tasks (by decide +kernel) (by decide +kernel)

/-- The controls reach a race that has finished, and undo the freeze. -/
theorem drives_on :
    ¬ Along (Pool.Guarded (CommandWhileRunning .local "r1")) (Pool.step (gameplayExec .local))
        (gameplayStart .local tasks start) tooLate ∧
      ¬ StoppedOnceMarked "r1" (gameplayRun .local tasks start tooLate 11).world := by
  constructor
  · intro halong
    have hlast : ¬ Pool.Guarded (CommandWhileRunning .local "r1")
        (gameplayRun .local tasks start tooLate 10) (0, after 0) := by decide +kernel
    exact hlast (halong.get (by decide))
  · intro hstopped
    have hcar : InRace (gameplayRun .local tasks start tooLate 11).world.shared.store "r1" 1 :=
      ⟨1, by decide +kernel⟩
    have hlast := hstopped (by decide +kernel) 1 hcar
    revert hlast
    decide +kernel

end DrivesOn

end HackArena.Services
