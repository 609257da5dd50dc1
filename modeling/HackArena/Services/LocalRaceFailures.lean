import HackArena.Services.LocalRaceControl

/-!
# Requests that fail

A start and an abort write the race store before the compare-and-set of the
engine, which may be refused. What an answer of failure has left behind is
therefore decided at that last step: a request has changed nothing exactly
when no write of its own is followed by a refusal.
-/

namespace HackArena.Services

open Boink HackArena.Runtime HackArena.Local GuardedRun

variable {E : Type}

/-! ## The steps of a request -/

/-- The request that an event takes further. -/
def RaceEvent.request? : RaceEvent E → Option ℕ
  | .create id .. | .createSet id .. | .start id .. | .startCheck id .. | .startWrite id ..
  | .startBump id | .abort id .. | .abortWrite id .. | .abortDeactivate id | .close id ..
  | .closeRelease id | .closeClear id => some id
  | .worker .. | .register .. | .remove .. | .reconcile .. | .markSoftFreeze .. => none

/-- The event is a step of a creation, a start or an abort. -/
def RaceEvent.OfCall (id : ℕ) : RaceEvent E → Prop
  | .create i .. | .createSet i .. | .start i .. | .startCheck i .. | .startWrite i ..
  | .startBump i | .abort i .. | .abortWrite i .. | .abortDeactivate i => i = id
  | _ => False

/-- The event is the write of a start or an abort, and the store is another
one after it. -/
def Rewrites (id : ℕ) (s : RaceSystem E) : RaceEvent E → Prop
  | .startWrite i beforeMs afterMs => i = id ∧
      ∃ expectedRevision raceId countdownSeconds countdownEndMs,
        s.requests id =
          some (.startStaged expectedRevision raceId countdownSeconds countdownEndMs) ∧
        (updateActiveRace s.races raceId (startUpdate countdownSeconds countdownEndMs) beforeMs
          afterMs).1 ≠ s.races
  | .abortWrite i beforeMs afterMs => i = id ∧ ∃ expectedRevision raceId,
      s.requests id = some (.abortAdmitted expectedRevision raceId) ∧
      (updateActiveRace s.races raceId abortUpdate beforeMs afterMs).1 ≠ s.races
  | _ => False

/-- The event is the compare-and-set of a start or an abort, and the engine
refuses it: the revision is another one, or the race is not in the engine. -/
def Refused (id : ℕ) (s : RaceSystem E) : RaceEvent E → Prop
  | .startBump i => i = id ∧ ∃ expectedRevision raceId countdownEndMs,
      s.requests id = some (.startWritten expectedRevision raceId countdownEndMs) ∧
      s.worker.state.revision ≠ expectedRevision
  | .abortDeactivate i => i = id ∧ ∃ expectedRevision raceId,
      s.requests id = some (.abortWritten expectedRevision raceId) ∧
      (s.worker.state.revision ≠ expectedRevision ∨
        s.worker.state.activeLocalRace.map (·.raceId) ≠ some raceId)
  | _ => False

/-- The request has succeeded or can no longer fail. -/
def RaceRequest.Sure : RaceRequest → Prop
  | .activated .. | .answered (.ok _) => True
  | _ => False

def RaceRequest.Failed : RaceRequest → Prop
  | .answered (.error _) => True
  | _ => False

theorem RaceRequest.Failed.answer {r : RaceRequest} (h : r.Failed) :
    ∃ status, r = .answered (.error status) := by
  cases r with
  | answered reply =>
      cases reply with
      | error status => exact ⟨status, rfl⟩
      | ok reply => exact h.elim
  | activated | startAdmitted | startStaged | startWritten | abortAdmitted | abortWritten
  | closeAdmitted | closeReleased => exact h.elim

/-- The request has written the store and has yet to call the engine. -/
def RaceRequest.Written : RaceRequest → Prop
  | .startWritten .. | .abortWritten .. => True
  | _ => False

/-- The event changes the race store or the local race of the engine. -/
def ChangesRace (b : Build) (s : RaceSystem E) (ev : RaceEvent E) : Prop :=
  (stepRace b s ev).races ≠ s.races ∨
    (stepRace b s ev).worker.state.activeLocalRace ≠ s.worker.state.activeLocalRace

section Steps

variable {b : Build} {s : RaceSystem E} {ev : RaceEvent E} {id : ℕ} {r : RaceRequest}
  {rev countdownEndMs : ℕ} {raceId : String}

theorem put_requests_self (s : RaceSystem E) (id : ℕ) (r : RaceRequest) :
    (s.put id r).requests id = some r := Function.update_self ..

theorem put_requests_ne (s : RaceSystem E) {id i : ℕ} (h : id ≠ i) (r : RaceRequest) :
    (s.put i r).requests id = s.requests id := Function.update_of_ne h ..

theorem requests_of_ne (h : ev.request? ≠ some id) :
    (stepRace b s ev).requests id = s.requests id := by
  cases ev with
  | worker | register | remove | reconcile | markSoftFreeze => rfl
  | create i | createSet i | start i | startCheck i | startWrite i | startBump i | abort i
  | abortWrite i | abortDeactivate i | close i | closeRelease i | closeClear i =>
      have hne : id ≠ i := fun heq => h (heq ▸ rfl)
      simp only [stepRace]
      split
      · first
        | exact put_requests_ne s hne _
        | (split <;> exact put_requests_ne _ hne _)
      · rfl

theorem sure_step (h : s.requests id = some r) (hsure : r.Sure) :
    ∃ r', (stepRace b s ev).requests id = some r' ∧ r'.Sure := by
  by_cases hown : ev.request? = some id
  · cases r with
    | activated config raceId preset revision =>
        cases ev <;> simp only [RaceEvent.request?, Option.some.injEq, reduceCtorEq] at hown <;>
          subst hown <;> simp [stepRace, h, RaceRequest.Sure, put_requests_self]
    | answered reply =>
        have hkeep : (stepRace b s ev).requests id = some (.answered reply) := by
          cases ev <;> simp only [RaceEvent.request?, Option.some.injEq, reduceCtorEq] at hown <;>
            subst hown <;> simp [stepRace, h]
        exact ⟨_, hkeep, hsure⟩
    | startAdmitted | startStaged | startWritten | abortAdmitted | abortWritten | closeAdmitted
    | closeReleased => exact hsure.elim
  · exact ⟨r, (requests_of_ne hown).trans h, hsure⟩

theorem bump_next (h : s.requests id = some (.startWritten rev raceId countdownEndMs)) :
    ∃ r', (stepRace b s (.startBump id)).requests id = some r' ∧
      (s.worker.state.revision ≠ rev → r'.Failed) ∧ (s.worker.state.revision = rev → r'.Sure) := by
  simp only [stepRace, h]
  refine ⟨_, put_requests_self .., ?_⟩
  by_cases hrev : s.worker.state.revision = rev
  · simp [bumpRevision, hrev, commit, Except.mapError, RaceRequest.Sure]
  · simp [bumpRevision, hrev, revisionMismatch, Except.mapError, RaceRequest.Failed]

theorem deactivate_next (h : s.requests id = some (.abortWritten rev raceId)) :
    ∃ r', (stepRace b s (.abortDeactivate id)).requests id = some r' ∧
      (s.worker.state.revision ≠ rev ∨
        s.worker.state.activeLocalRace.map (·.raceId) ≠ some raceId → r'.Failed) ∧
      (s.worker.state.revision = rev →
        s.worker.state.activeLocalRace.map (·.raceId) = some raceId → r'.Sure) := by
  simp only [stepRace, h]
  refine ⟨_, put_requests_self .., ?_⟩
  by_cases hrev : s.worker.state.revision = rev
  · by_cases hrace : s.worker.state.activeLocalRace.map (·.raceId) = some raceId
    · simp [deactivateLocalRace, hrev, hrace, commit, Except.mapError, RaceRequest.Sure]
    · simp [deactivateLocalRace, hrev, hrace, invalidArgument, Except.mapError,
        RaceRequest.Failed]
  · simp [deactivateLocalRace, hrev, revisionMismatch, Except.mapError, RaceRequest.Failed]

theorem refused_step (h : Refused id s ev) :
    ∃ r, (stepRace b s ev).requests id = some r ∧ r.Failed := by
  cases ev with
  | startBump i =>
      obtain ⟨rfl, rev, raceId, countdownEndMs, hr, hrev⟩ := h
      obtain ⟨r', hr', hfailed, -⟩ := bump_next (b := b) hr
      exact ⟨r', hr', hfailed hrev⟩
  | abortDeactivate i =>
      obtain ⟨rfl, rev, raceId, hr, hrefused⟩ := h
      obtain ⟨r', hr', hfailed, -⟩ := deactivate_next (b := b) hr
      exact ⟨r', hr', hfailed hrefused⟩
  | worker | register | remove | reconcile | markSoftFreeze | create | createSet | start
  | startCheck | startWrite | abort | abortWrite | close | closeRelease | closeClear =>
      exact h.elim

/-- A request that has written waits, unless its compare-and-set succeeds or
is refused. -/
theorem written_step (h : s.requests id = some r) (hwritten : r.Written)
    (haccepted : ¬ Refused id s ev) :
    ∃ r', (stepRace b s ev).requests id = some r' ∧ (r'.Written ∨ r'.Sure) := by
  have hkeep (hsame : (stepRace b s ev).requests id = some r) :
      ∃ r', (stepRace b s ev).requests id = some r' ∧ (r'.Written ∨ r'.Sure) :=
    ⟨r, hsame, Or.inl hwritten⟩
  by_cases hown : ev.request? = some id
  · cases r with
    | startWritten rev raceId countdownEndMs =>
        cases ev with
        | startBump i =>
            cases hown
            obtain ⟨r', hr', -, hsure⟩ := bump_next (b := b) h
            have hrev : s.worker.state.revision = rev := by
              by_contra hne
              exact haccepted ⟨rfl, rev, raceId, countdownEndMs, h, hne⟩
            exact ⟨r', hr', Or.inr (hsure hrev)⟩
        | worker | register | remove | reconcile | markSoftFreeze => cases hown
        | create i | createSet i | start i | startCheck i | startWrite i | abort i | abortWrite i
        | abortDeactivate i | close i | closeRelease i | closeClear i =>
            cases hown
            exact hkeep (by simp [stepRace, h])
    | abortWritten rev raceId =>
        cases ev with
        | abortDeactivate i =>
            cases hown
            obtain ⟨r', hr', -, hsure⟩ := deactivate_next (b := b) h
            have hfree : ¬ (s.worker.state.revision ≠ rev ∨
                s.worker.state.activeLocalRace.map (·.raceId) ≠ some raceId) :=
              fun hrefused => haccepted ⟨rfl, rev, raceId, h, hrefused⟩
            rw [not_or, not_not, not_not] at hfree
            exact ⟨r', hr', Or.inr (hsure hfree.1 hfree.2)⟩
        | worker | register | remove | reconcile | markSoftFreeze => cases hown
        | create i | createSet i | start i | startCheck i | startWrite i | startBump i | abort i
        | abortWrite i | close i | closeRelease i | closeClear i =>
            cases hown
            exact hkeep (by simp [stepRace, h])
    | activated | answered | startAdmitted | startStaged | abortAdmitted | closeAdmitted
    | closeReleased => exact hwritten.elim
  · exact hkeep ((requests_of_ne hown).trans h)

/-- An update of the race store that fails leaves it alone. -/
theorem updateActiveRace_refused_or (races : LocalRaceState) (raceId : String)
    (update : LocalRaceRuntimeInfo → LocalRaceRuntimeInfo) (beforeMs afterMs : ℕ) :
    (∃ err, updateActiveRace races raceId update beforeMs afterMs = (races, .error err)) ∨
      ∃ races' race, updateActiveRace races raceId update beforeMs afterMs = (races', .ok race) := by
  rw [updateActiveRace]
  split
  · exact Or.inl ⟨_, rfl⟩
  · exact Or.inr ⟨_, _, rfl⟩

theorem create_step {env : EngineEnv E} {config : Option LocalRaceConfigInput}
    (h : ChangesRace b s (.create id env rev config raceId)) :
    ∃ r, (stepRace b s (.create id env rev config raceId)).requests id = some r ∧ r.Sure := by
  rw [ChangesRace] at h
  simp only [stepRace] at h ⊢
  cases hrequest : s.requests id with
  | some r =>
      rw [hrequest] at h
      simp at h
  | none =>
      rw [hrequest] at h
      cases hplan : planLocalRace config with
      | error status =>
          rw [hplan] at h
          simp [RaceSystem.put] at h
      | ok plan =>
          rw [hplan] at h
          dsimp only at h ⊢
          refine ⟨_, put_requests_self .., ?_⟩
          rcases activateLocalRace_cases b env s.worker rev raceId plan.1.mapId plan.2
            plan.1.ghostMode with ⟨err, heq⟩ | ⟨-, w', -, heq⟩
          · rw [heq] at h
            simp [RaceSystem.next, RaceSystem.put] at h
          · rw [heq]
            trivial

theorem deactivate_step (h : ChangesRace b s (.abortDeactivate id)) :
    ∃ r, (stepRace b s (.abortDeactivate id)).requests id = some r ∧ r.Sure := by
  rw [ChangesRace] at h
  simp only [stepRace] at h ⊢
  split at h
  · rename_i rev raceId hrequest
    refine ⟨_, put_requests_self .., ?_⟩
    rcases deactivateLocalRace_cases s.worker rev raceId with ⟨err, heq⟩ | ⟨-, w', -, heq⟩
    · rw [heq] at h
      simp [RaceSystem.next, RaceSystem.put] at h
    · rw [heq]
      trivial
  · simp at h

/-- What a step of a call changes, it changes for good or with a write. -/
theorem changes_step (hev : ev.OfCall id) (h : ChangesRace b s ev) :
    ∃ r, (stepRace b s ev).requests id = some r ∧
      (r.Sure ∨ r.Written ∧ Rewrites id s ev) := by
  cases ev with
  | create i env rev config raceId =>
      cases hev
      obtain ⟨r, hr, hsure⟩ := create_step h
      exact ⟨r, hr, Or.inl hsure⟩
  | createSet i createdMs nowMs =>
      cases hev
      rw [ChangesRace] at h
      simp only [stepRace] at h ⊢
      split at h
      · exact ⟨_, put_requests_self .., Or.inl trivial⟩
      · simp at h
  | startWrite i beforeMs afterMs =>
      cases hev
      rw [ChangesRace] at h
      simp only [stepRace] at h ⊢
      split at h
      · rename_i rev raceId countdownSeconds countdownEndMs hrequest
        have hrewrites := h.resolve_right fun hworker => hworker rfl
        refine ⟨_, put_requests_self .., Or.inr ⟨?_, rfl, rev, raceId, countdownSeconds,
          countdownEndMs, hrequest, hrewrites⟩⟩
        rcases updateActiveRace_refused_or s.races raceId (startUpdate countdownSeconds countdownEndMs)
          beforeMs afterMs with ⟨err, heq⟩ | ⟨races', race, heq⟩
        · exact absurd (congrArg Prod.fst heq) hrewrites
        · rw [heq]
          trivial
      · simp at h
  | abortWrite i beforeMs afterMs =>
      cases hev
      rw [ChangesRace] at h
      simp only [stepRace] at h ⊢
      split at h
      · rename_i rev raceId hrequest
        have hrewrites := h.resolve_right fun hworker => hworker rfl
        refine ⟨_, put_requests_self .., Or.inr ⟨?_, rfl, rev, raceId, hrequest, hrewrites⟩⟩
        rcases updateActiveRace_refused_or s.races raceId abortUpdate beforeMs afterMs with
          ⟨err, heq⟩ | ⟨races', race, heq⟩
        · exact absurd (congrArg Prod.fst heq) hrewrites
        · rw [heq]
          trivial
      · simp at h
  | abortDeactivate i =>
      cases hev
      obtain ⟨r, hr, hsure⟩ := deactivate_step h
      exact ⟨r, hr, Or.inl hsure⟩
  | startBump i =>
      exfalso
      simp only [ChangesRace, stepRace] at h
      split at h
      · simp [RaceSystem.next, RaceSystem.put, bumpRevision_activeLocalRace] at h
      · simp at h
  | start i | startCheck i | abort i =>
      exfalso
      simp only [ChangesRace, stepRace] at h
      split at h <;> simp [RaceSystem.next, RaceSystem.put] at h
  | worker | register | remove | reconcile | markSoftFreeze | close | closeRelease | closeClear =>
      exact hev.elim

/-- A write that changes the store is a step of its call. -/
theorem rewrites_step (h : Rewrites id s ev) : ev.OfCall id ∧ ChangesRace b s ev := by
  cases ev with
  | startWrite i beforeMs afterMs =>
      obtain ⟨rfl, rev, raceId, countdownSeconds, countdownEndMs, hrequest, hrewrites⟩ := h
      refine ⟨rfl, Or.inl ?_⟩
      simp only [stepRace, hrequest]
      exact hrewrites
  | abortWrite i beforeMs afterMs =>
      obtain ⟨rfl, rev, raceId, hrequest, hrewrites⟩ := h
      refine ⟨rfl, Or.inl ?_⟩
      simp only [stepRace, hrequest]
      exact hrewrites
  | worker | register | remove | reconcile | markSoftFreeze | create | createSet | start
  | startCheck | startBump | abort | abortDeactivate | close | closeRelease | closeClear =>
      exact h.elim

end Steps

/-! ## Whole runs -/

/-- The system after the first `n` events. -/
def raceSystemAt (b : Build) (evs : List (RaceEvent E)) (n : ℕ) : RaceSystem E :=
  stateAt (stepRace b) (RaceSystem.initial E) evs n

/-- A call that has been answered with an error has changed neither the race
store nor the local race of the engine, in none of its steps. -/
def FailedCallsChangeNothing (b : Build) (evs : List (RaceEvent E)) : Prop :=
  ∀ id n, n ≤ evs.length →
    (∃ status, (raceSystemAt b evs n).requests id = some (.answered (.error status))) →
    ∀ m ev, m < n → evs[m]? = some ev → ev.OfCall id →
      (raceSystemAt b evs (m + 1)).races = (raceSystemAt b evs m).races ∧
      (raceSystemAt b evs (m + 1)).worker.state.activeLocalRace =
        (raceSystemAt b evs m).worker.state.activeLocalRace

/-- No call whose write has changed the race store is refused by the engine. -/
def WritesConfirmed (b : Build) (evs : List (RaceEvent E)) : Prop :=
  ∀ id m n ev ev', m < n → evs[m]? = some ev → evs[n]? = some ev' →
    Rewrites id (raceSystemAt b evs m) ev → ¬ Refused id (raceSystemAt b evs n) ev'

section Runs

variable {b : Build} {evs : List (RaceEvent E)} {id m n : ℕ}

theorem raceSystemAt_succ {ev : RaceEvent E} (h : evs[n]? = some ev) :
    raceSystemAt b evs (n + 1) = stepRace b (raceSystemAt b evs n) ev := by
  obtain ⟨hn, rfl⟩ := List.getElem?_eq_some_iff.mp h
  exact stateAt_succ hn

theorem sure_at (hmn : m ≤ n) (hn : n ≤ evs.length)
    (hstart : ∃ r, (raceSystemAt b evs m).requests id = some r ∧ r.Sure) :
    ∃ r, (raceSystemAt b evs n).requests id = some r ∧ r.Sure := by
  induction hmn with
  | refl => exact hstart
  | @step n _ ih =>
      obtain ⟨r, hr, hsure⟩ := ih (by omega)
      rw [raceSystemAt_succ (List.getElem?_eq_getElem hn)]
      exact sure_step hr hsure

/-- A request that has written does not fail before the engine refuses it. -/
theorem written_at (hmn : m ≤ n) (hn : n ≤ evs.length)
    (hstart : ∃ r, (raceSystemAt b evs m).requests id = some r ∧ r.Written)
    (haccepted : ∀ k ev, m ≤ k → evs[k]? = some ev → ¬ Refused id (raceSystemAt b evs k) ev) :
    ∃ r, (raceSystemAt b evs n).requests id = some r ∧ (r.Written ∨ r.Sure) := by
  induction hmn with
  | refl =>
      obtain ⟨r, hr, hwritten⟩ := hstart
      exact ⟨r, hr, Or.inl hwritten⟩
  | @step n hmn ih =>
      have hev : evs[n]? = some evs[n] := List.getElem?_eq_getElem hn
      obtain ⟨r, hr, hwritten | hsure⟩ := ih (by omega)
      · rw [raceSystemAt_succ hev]
        exact written_step hr hwritten (haccepted n _ hmn hev)
      · rw [raceSystemAt_succ hev]
        obtain ⟨r', hr', hsure'⟩ :
            ∃ r', (stepRace b (raceSystemAt b evs n) evs[n]).requests id = some r' ∧ r'.Sure :=
          sure_step hr hsure
        exact ⟨r', hr', Or.inr hsure'⟩

end Runs

/-- In every run, a call that fails has changed nothing exactly when every
write that changes the race store is confirmed by the engine. -/
theorem failed_calls_change_nothing_iff (b : Build) (evs : List (RaceEvent E)) :
    FailedCallsChangeNothing b evs ↔ WritesConfirmed b evs := by
  constructor
  · intro h id m n ev ev' hmn hev hev' hrewrites hrefused
    obtain ⟨hcall, hchanges⟩ := rewrites_step (b := b) hrewrites
    obtain ⟨r, hr, hfailed⟩ := refused_step (b := b) hrefused
    rw [← raceSystemAt_succ hev'] at hr
    have hn : n < evs.length := (List.getElem?_eq_some_iff.mp hev').1
    have hanswer : ∃ status, (raceSystemAt b evs (n + 1)).requests id =
        some (.answered (.error status)) := by
      obtain ⟨status, rfl⟩ := hfailed.answer
      exact ⟨status, hr⟩
    obtain ⟨hraces, hengine⟩ := h id (n + 1) hn hanswer m ev (by omega) hev hcall
    rw [raceSystemAt_succ hev] at hraces hengine
    exact hchanges.elim (· hraces) (· hengine)
  · intro h id n hn hanswer m ev hmn hev hcall
    by_contra hchanged
    have hchanges : ChangesRace b (raceSystemAt b evs m) ev := by
      rw [raceSystemAt_succ hev, not_and_or] at hchanged
      exact hchanged
    obtain ⟨status, hstatus⟩ := hanswer
    obtain ⟨r, hr, hsure | ⟨hwritten, hrewrites⟩⟩ := changes_step hcall hchanges
    · rw [← raceSystemAt_succ hev] at hr
      obtain ⟨r', hr', hsure'⟩ := sure_at hmn hn ⟨r, hr, hsure⟩
      rw [hstatus] at hr'
      cases hr'
      exact hsure'
    · rw [← raceSystemAt_succ hev] at hr
      obtain ⟨r', hr', hwritten' | hsure'⟩ := written_at hmn hn ⟨r, hr, hwritten⟩
        fun k ev' hk hev' => h id m k ev ev' (by omega) hev hev' hrewrites
      · rw [hstatus] at hr'
        cases hr'
        exact hwritten'
      · rw [hstatus] at hr'
        cases hr'
        exact hsure'

/-! ## A start that is overtaken -/

/-- A sandbox is activated between the write of a start and its bump. -/
def overtakenStart : List (RaceEvent CarWorld) :=
  creation ++ [.start 1 1 "r" 5, .startCheck 1 0 0, .startWrite 1 0 0,
    .worker (.command CarWorld.env
      (.switchRuntime 1 .sandbox "track" (some "s") (some .noon) none)) trivial,
    .startBump 1]

/-- The start is refused, and yet the race counts down. -/
theorem refused_start_changes_race : ¬ FailedCallsChangeNothing .standalone overtakenStart := by
  intro h
  have hanswer : (raceSystemAt .standalone overtakenStart 7).requests 1 =
      some (.answered (.error (mapWorkerErr (.revisionMismatch 1 2)))) := rfl
  obtain ⟨hraces, -⟩ := h 1 7 le_rfl ⟨_, hanswer⟩ 4 (.startWrite 1 0 0) (by decide) rfl rfl
  have hphase := congrArg (fun races => races.active.map (·.phase)) hraces
  exact absurd hphase (by decide +kernel)

end HackArena.Services
