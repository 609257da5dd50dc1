import HackArena.Runtime.ActiveSandboxes
import HackArena.Runtime.CarWorld

/-!
# A pass over the due entries

A pass executes the due entries in the order of their times, and leaves its
loop at the first one that fails. What it has executed by then is in effect;
every entry behind stays in the queue, and the next pass meets the same
failing entry first. So no entry is held up exactly when those that fail are
the last ones.
-/

namespace HackArena.Runtime

open Boink

variable {E : Type}

/-- The scheduled activation cannot build its world. -/
def Fails (b : Build) (env : EngineEnv E) (p : EnginePendingSandboxActivation) : Prop :=
  p.activate = true ∧ ¬ Builds b env p

/-- The sandbox of the entry is as the entry wants it. -/
structure InEffect (s : EngineRuntimeState) (p : EnginePendingSandboxActivation) : Prop where
  active : p.activate = true → ∃ mapId preset, p.mapId = some mapId ∧
    p.timeOfDayPreset = some preset ∧
    s.activeSandbox? p.sandboxId = some ⟨p.sandboxId, mapId, preset, none⟩
  inactive : p.activate = false → s.activeSandbox? p.sandboxId = none

/-- Only the entry of its own sandbox matters. -/
theorem InEffect.congr {s t : EngineRuntimeState} {p : EnginePendingSandboxActivation}
    (h : InEffect s p) (hsame : t.activeSandbox? p.sandboxId = s.activeSandbox? p.sandboxId) :
    InEffect t p := by
  constructor
  · rw [hsame]
    exact h.active
  · rw [hsame]
    exact h.inactive

/-- The entry has been executed: it is in effect and no longer queued. -/
structure Executed (s : EngineRuntimeState) (p : EnginePendingSandboxActivation) : Prop where
  effect : InEffect s p
  gone : ∀ q ∈ s.pendingSandboxActivations, q.sandboxId ≠ p.sandboxId

/-! ## One entry -/

/-- What an entry that does not fail leaves behind. -/
structure EntryDone (w w' : Worker E) (p : EnginePendingSandboxActivation) : Prop where
  consistent : Consistent w'
  effect : InEffect w'.state p
  pending : w'.state.pendingSandboxActivations =
    w.state.pendingSandboxActivations.filter (fun q => q.sandboxId ≠ p.sandboxId)
  others : ∀ j, j ≠ p.sandboxId → w'.state.activeSandbox? j = w.state.activeSandbox? j

theorem executeDueEntry_cases (b : Build) (env : EngineEnv E) {w : Worker E}
    {p : EnginePendingSandboxActivation} (h : Ready w p) (hc : Consistent w) :
    (Fails b env p ∧ ∃ err, executeDueEntry b env w p = (w, .failed err)) ∨
    (¬ Fails b env p ∧ (executeDueEntry b env w p).2.error? = none ∧
      EntryDone w (executeDueEntry b env w p).1 p) := by
  cases hact : p.activate with
  | false =>
      rw [executeDueEntry_deactivates b env h hact]
      refine Or.inr ⟨fun hfails => by simp [Fails, hact] at hfails, rfl, ?_⟩
      have hentry := leaveSandbox_activeSandbox? hc.distinct p.sandboxId
      exact
        { consistent := (hc.leaveSandbox p.sandboxId).bump
          effect := ⟨fun hactive => by simp [hact] at hactive, fun _ => by simp [hentry]⟩
          pending := leaveSandbox_pending w p.sandboxId
          others := fun j hj => by simp [hentry, hj] }
  | true =>
      rcases executeDueEntry_activates b env h hact with
        ⟨hbuild, slot, mapId, preset, hmapId, hpreset, heq⟩ | ⟨hbuild, hfailed⟩
      · rw [heq]
        refine Or.inr ⟨fun hfails => hfails.2 hbuild, rfl, ?_⟩
        have hinactive := h.inactive hact
        have hentry := enterSandbox_activeSandbox? hinactive slot mapId preset
        exact
          { consistent := (hc.enterSandbox slot mapId preset hinactive).bump
            effect := ⟨fun _ => ⟨mapId, preset, hmapId, hpreset, by simp [hentry]⟩,
              fun hnot => by simp [hact] at hnot⟩
            pending := rfl
            others := fun j hj => by simp [hentry, hj] }
      · exact Or.inl ⟨⟨hact, hbuild⟩, hfailed⟩

/-! ## The loop -/

/-- A pass that executed the entries of `ran` and stopped before `rest`. -/
structure StoppedAt (b : Build) (env : EngineEnv E) (w w' : Worker E)
    (ran rest : List EnginePendingSandboxActivation) : Prop where
  succeeded : ∀ p ∈ ran, ¬ Fails b env p
  stopped : ∀ p ∈ rest.head?, Fails b env p
  effect : ∀ p ∈ ran, InEffect w'.state p
  pending : w'.state.pendingSandboxActivations =
    w.state.pendingSandboxActivations.filter (fun q => q.sandboxId ∉ ran.map (·.sandboxId))
  others : ∀ j, j ∉ ran.map (·.sandboxId) → w'.state.activeSandbox? j = w.state.activeSandbox? j

theorem StoppedAt.before {b : Build} {env : EngineEnv E} (w : Worker E)
    {ps : List EnginePendingSandboxActivation} (h : ∀ p ∈ ps.head?, Fails b env p) :
    StoppedAt b env w w [] ps :=
  ⟨nofun, h, nofun, by simp, fun _ _ => rfl⟩

theorem StoppedAt.after {b : Build} {env : EngineEnv E} {w v w' : Worker E}
    {p : EnginePendingSandboxActivation} {ran rest : List EnginePendingSandboxActivation}
    (hfirst : EntryDone w v p) (hsucceeded : ¬ Fails b env p)
    (hnew : p.sandboxId ∉ ran.map (·.sandboxId)) (h : StoppedAt b env v w' ran rest) :
    StoppedAt b env w w' (p :: ran) rest where
  succeeded := List.forall_mem_cons.mpr ⟨hsucceeded, h.succeeded⟩
  stopped := h.stopped
  effect := List.forall_mem_cons.mpr ⟨hfirst.effect.congr (h.others _ hnew), h.effect⟩
  pending := by
    rw [h.pending, hfirst.pending, List.filter_filter]
    refine List.filter_congr fun q _ => ?_
    rw [List.map_cons, Bool.and_comm, ← Bool.decide_and]
    exact decide_eq_decide.mpr (by rw [List.mem_cons, not_or])
  others := by
    intro j hj
    rw [List.map_cons, List.mem_cons, not_or] at hj
    rw [h.others j hj.2, hfirst.others j hj.1]

theorem executeDue_stoppedAt (b : Build) (env : EngineEnv E) {w : Worker E}
    {ps : List EnginePendingSandboxActivation} (h : DueOk w ps) (hc : Consistent w) :
    ∃ ran rest, ps = ran ++ rest ∧
      StoppedAt b env w (executeDue b (fun _ => env) w ps).1 ran rest := by
  induction ps generalizing w with
  | nil => exact ⟨[], [], rfl, .before w nofun⟩
  | cons p ps ih =>
      have hready := h.ready p List.mem_cons_self
      have hstep := executeDueEntry_dueStep b env hready
      rw [executeDue]
      rcases executeDueEntry_cases b env hready hc with ⟨hfails, err, heq⟩ | ⟨hok, hnone, hdone⟩
      · refine ⟨[], p :: ps, rfl, ?_⟩
        rw [heq]
        exact .before w fun q hq => Option.some.inj hq ▸ hfails
      · obtain ⟨ran, rest, rfl, hrest⟩ := ih (h.step hstep) hdone.consistent
        have hnew : p.sandboxId ∉ (ran ++ rest).map (·.sandboxId) :=
          (List.nodup_cons.mp h.distinct).1
        rw [List.map_append, List.mem_append, not_or] at hnew
        refine ⟨p :: ran, rest, rfl, ?_⟩
        simp only [hnone]
        exact .after hdone hok hnew.1 hrest

/-! ## The pass -/

/-- What a pass owes to the queue: every due entry that does not fail is
executed, and what is not due stays. -/
structure PassServes (b : Build) (env : EngineEnv E) (nowUnixMs : ℤ) (w w' : Worker E) : Prop where
  executed : ∀ p ∈ w.state.pendingSandboxActivations, p.executeAtUnixMs ≤ nowUnixMs →
    ¬ Fails b env p → Executed w'.state p
  kept : w'.state.pendingSandboxActivations.filter (fun p => nowUnixMs < p.executeAtUnixMs) =
    w.state.pendingSandboxActivations.filter (fun p => nowUnixMs < p.executeAtUnixMs)

/-- Of two due entries, the one that runs first fails only if the other one
fails, too. Entries run in the order of their times, and at equal times in the
order of the queue. -/
def FailuresRunLast (b : Build) (env : EngineEnv E) (nowUnixMs : ℤ)
    (queue : List EnginePendingSandboxActivation) : Prop :=
  queue.Pairwise fun p q => p.executeAtUnixMs ≤ nowUnixMs → q.executeAtUnixMs ≤ nowUnixMs →
    (p.executeAtUnixMs ≤ q.executeAtUnixMs → Fails b env p → Fails b env q) ∧
    (q.executeAtUnixMs < p.executeAtUnixMs → Fails b env q → Fails b env p)

theorem failuresRunLast_iff {b : Build} {env : EngineEnv E} {nowUnixMs : ℤ} {w : Worker E} :
    FailuresRunLast b env nowUnixMs w.state.pendingSandboxActivations ↔
      (duePending w nowUnixMs).Pairwise fun p q => Fails b env p → Fails b env q := by
  rw [duePending, KeyedList.pairwise_insertionSort, List.pairwise_filter]
  simp [FailuresRunLast]

theorem StoppedAt.pairwise_iff {b : Build} {env : EngineEnv E} {w w' : Worker E}
    {ran rest : List EnginePendingSandboxActivation} (h : StoppedAt b env w w' ran rest) :
    ((ran ++ rest).Pairwise fun p q => Fails b env p → Fails b env q) ↔
      ∀ q ∈ rest, Fails b env q := by
  constructor
  · intro hpairwise q hq
    cases rest with
    | nil => cases hq
    | cons p rest =>
        have hp := h.stopped p rfl
        have hrest := (List.pairwise_append.mp hpairwise).2.1
        rcases List.mem_cons.mp hq with rfl | hq
        · exact hp
        · exact (List.pairwise_cons.mp hrest).1 q hq hp
  · intro hall
    refine List.pairwise_append.mpr ⟨?_, ?_, fun p hp q _ hfails => ?_⟩
    · exact List.pairwise_of_forall_mem_list fun p hp q _ hfails =>
        (h.succeeded p hp hfails).elim
    · exact List.pairwise_of_forall_mem_list fun p _ q hq _ => hall q hq
    · exact (h.succeeded p hp hfails).elim

/-- A pass serves the queue when all entries behind the one it stopped at
fail, too. -/
theorem StoppedAt.serves_iff {b : Build} {env : EngineEnv E} {nowUnixMs : ℤ} {w w' : Worker E}
    {ran rest : List EnginePendingSandboxActivation} (hqueue : QueueOk w.state)
    (hdue : duePending w nowUnixMs = ran ++ rest) (h : StoppedAt b env w w' ran rest) :
    PassServes b env nowUnixMs w w' ↔ ∀ q ∈ rest, Fails b env q := by
  have hmem (p : EnginePendingSandboxActivation) : p ∈ ran ∨ p ∈ rest ↔
      p ∈ w.state.pendingSandboxActivations ∧ p.executeAtUnixMs ≤ nowUnixMs := by
    rw [← List.mem_append, ← hdue]
    exact mem_duePending
  have hdistinct := (hqueue.dueOk nowUnixMs).distinct
  rw [hdue, List.map_append] at hdistinct
  constructor
  · intro hserves q hq
    by_contra hok
    have hqueued := (hmem q).mp (.inr hq)
    have hgone := (hserves.executed q hqueued.1 hqueued.2 hok).gone q
    rw [h.pending, List.mem_filter] at hgone
    refine hgone ⟨hqueued.1, decide_eq_true fun hran => ?_⟩ rfl
    exact List.disjoint_of_nodup_append hdistinct hran (List.mem_map_of_mem hq)
  · intro hall
    refine ⟨fun p hp hpdue hok => ?_, ?_⟩
    · have hran : p ∈ ran :=
        ((hmem p).mpr ⟨hp, hpdue⟩).resolve_right fun hrest => hok (hall p hrest)
      refine ⟨h.effect p hran, fun q hq heq => ?_⟩
      rw [h.pending, List.mem_filter, decide_eq_true_eq, heq] at hq
      exact hq.2 (List.mem_map_of_mem hran)
    · rw [h.pending, List.filter_filter]
      refine List.filter_congr fun q hq => ?_
      rw [Bool.and_eq_left_iff_imp]
      intro hnotdue
      refine decide_eq_true fun hran => ?_
      obtain ⟨p, hp, heq⟩ := List.mem_map.mp hran
      obtain ⟨hpqueued, hpdue⟩ := (hmem p).mp (.inl hp)
      have hsame : p = q := List.inj_on_of_nodup_map hqueue.distinct hpqueued hq heq
      rw [hsame] at hpdue
      exact absurd (of_decide_eq_true hnotdue) (not_lt.mpr hpdue)

theorem pass_serves_iff (b : Build) (env : EngineEnv E) (nowUnixMs : ℤ) {w : Worker E}
    (h : Sound w) :
    PassServes b env nowUnixMs w
        (maybeExecuteDuePendingSandboxActivation b (fun _ => env) nowUnixMs w).1 ↔
      FailuresRunLast b env nowUnixMs w.state.pendingSandboxActivations := by
  obtain ⟨ran, rest, hdue, hstopped⟩ :=
    executeDue_stoppedAt b env (h.queue.dueOk nowUnixMs) h.consistent
  rw [failuresRunLast_iff, hdue, hstopped.pairwise_iff]
  exact hstopped.serves_iff h.queue hdue

/-- In every reachable state, a pass serves the queue exactly when the entries
that fail are the last ones it runs. -/
theorem due_pass_serves_iff (b : Build) (evs : List (WorkerEvent E)) (env : EngineEnv E)
    (nowUnixMs : ℤ) :
    let w := evs.foldl (stepEvent b) (Worker.initial E)
    PassServes b env nowUnixMs w
        (maybeExecuteDuePendingSandboxActivation b (fun _ => env) nowUnixMs w).1 ↔
      FailuresRunLast b env nowUnixMs w.state.pendingSandboxActivations :=
  pass_serves_iff b env nowUnixMs (sound_run b evs)

/-! ## A map that is gone -/

namespace LostMap

/-- The track of one map has been deleted. -/
def lostEnv : EngineEnv CarWorld where
  api := CarWorld.api
  loadEngine mapId :=
    if mapId = "lost" then .error (.invalidArgument "track is missing") else .ok CarWorld.fresh

def scheduled (sandboxId mapId : String) (executeAtUnixMs : ℤ) : EnginePendingSandboxActivation :=
  ⟨true, sandboxId, executeAtUnixMs, some mapId, some .noon, some defaultGhostModeSettings⟩

/-- Two activations are accepted; the first one cannot build its world. -/
def scheduling : List (WorkerEvent CarWorld) :=
  [.command lostEnv (.setPendingSandboxActivation 0 (scheduled "a" "lost" 10)),
    .command lostEnv (.setPendingSandboxActivation 1 (scheduled "b" "track" 20))]

/-- The pass starves the second activation, whose map can be built. -/
theorem second_activation_starves :
    let w := scheduling.foldl (stepEvent .official) (Worker.initial CarWorld)
    ¬ PassServes .official lostEnv 30 w
        (maybeExecuteDuePendingSandboxActivation .official (fun _ => lostEnv) 30 w).1 := by
  intro w hserves
  have hbuilds : Builds .official lostEnv (scheduled "b" "track" 20) :=
    ⟨"track", defaultGhostModeSettings, ⟨CarWorld.fresh, defaultGhostModeSettings⟩, rfl, rfl,
      by decide⟩
  have hqueued : scheduled "b" "track" 20 ∈ w.state.pendingSandboxActivations := by decide
  obtain ⟨mapId, preset, -, -, hactive⟩ :=
    (hserves.executed _ hqueued (by decide) fun hfails => hfails.2 hbuilds).effect.active rfl
  have hinactive : (maybeExecuteDuePendingSandboxActivation .official (fun _ => lostEnv) 30
      w).1.state.activeSandbox? "b" = none := by decide
  exact absurd (hinactive.symm.trans hactive) nofun

end LostMap

end HackArena.Runtime
