import HackArena.Runtime.WorkerTransition

/-!
# The queue of pending sandbox activations

Entries name distinct sandboxes, carry the payload of their kind, and an
activation names a sandbox that is not active. A pass works on copies of
the due entries; since these are distinct, executing one of them never
makes another one's sandbox active, so every entry finds what it needs.
-/

namespace HackArena.Runtime

open Boink

variable {E : Type}

structure QueueOk (s : EngineRuntimeState) : Prop where
  distinct : (s.pendingSandboxActivations.map (·.sandboxId)).Nodup
  payload : ∀ p ∈ s.pendingSandboxActivations, PayloadOk p
  inactive : ∀ p ∈ s.pendingSandboxActivations, p.activate = true →
    isSandboxActive s p.sandboxId = false

theorem isSandboxActive_eq_true {s : EngineRuntimeState} {sandboxId : String} :
    isSandboxActive s sandboxId = true ↔ sandboxId ∈ s.activeSandboxes.map (·.sandboxId) := by
  simp [isSandboxActive]

theorem isSandboxActive_eq_false {s : EngineRuntimeState} {sandboxId : String} :
    isSandboxActive s sandboxId = false ↔ sandboxId ∉ s.activeSandboxes.map (·.sandboxId) := by
  rw [← Bool.not_eq_true, isSandboxActive_eq_true]

theorem queueOk_initial : QueueOk (Worker.initial E).state :=
  ⟨List.nodup_nil, by simp [Worker.initial], by simp [Worker.initial]⟩

/-! ## What a change does to the active ids and to the queue -/

/-- A shorter queue over fewer active sandboxes is still in order. -/
theorem QueueOk.mono {s t : EngineRuntimeState} (h : QueueOk s)
    (hpending : List.Sublist t.pendingSandboxActivations s.pendingSandboxActivations)
    (hactive : ∀ id, id ∈ t.activeSandboxes.map (·.sandboxId) →
      id ∈ s.activeSandboxes.map (·.sandboxId)) : QueueOk t := by
  refine ⟨h.distinct.sublist (hpending.map _), fun p hp => h.payload p (hpending.subset hp), ?_⟩
  intro p hp hact
  rw [isSandboxActive_eq_false]
  intro hmem
  exact isSandboxActive_eq_false.mp (h.inactive p (hpending.subset hp) hact) (hactive _ hmem)

theorem mem_dropPending {s : EngineRuntimeState} {sandboxId : String}
    {p : EnginePendingSandboxActivation} :
    p ∈ (s.dropPending sandboxId).pendingSandboxActivations ↔
      p ∈ s.pendingSandboxActivations ∧ p.sandboxId ≠ sandboxId := by
  simp [EngineRuntimeState.dropPending]

theorem dropPending_sublist (s : EngineRuntimeState) (sandboxId : String) :
    List.Sublist (s.dropPending sandboxId).pendingSandboxActivations
      s.pendingSandboxActivations := List.filter_sublist

theorem leaveSandbox_pending (w : Worker E) (sandboxId : String) :
    (w.leaveSandbox sandboxId).state.pendingSandboxActivations =
      (w.state.dropPending sandboxId).pendingSandboxActivations := by
  rw [Worker.leaveSandbox]
  dsimp only
  split
  · cases (w.state.dropPending sandboxId).activeLocalRace <;> rfl
  · rfl

theorem leaveSandbox_activeSandboxes (w : Worker E) (sandboxId : String) :
    (w.leaveSandbox sandboxId).state.activeSandboxes =
      w.state.activeSandboxes.eraseP (fun entry => decide (entry.sandboxId = sandboxId)) := by
  rw [Worker.leaveSandbox]
  dsimp only
  split
  · cases (w.state.dropPending sandboxId).activeLocalRace <;> rfl
  · rfl

theorem enterLocalRace_pending (w : Worker E) (slot : EngineWorldSlot E) (raceId mapId : String)
    (preset : EngineRuntimeTimeOfDayPreset) :
    (w.enterLocalRace slot raceId mapId preset).state.pendingSandboxActivations =
        w.state.pendingSandboxActivations ∧
      (w.enterLocalRace slot raceId mapId preset).state.activeSandboxes =
        w.state.activeSandboxes := by
  rw [Worker.enterLocalRace]
  dsimp only
  split <;> exact ⟨rfl, rfl⟩

theorem leaveLocalRace_pending (w : Worker E) (raceId : String) :
    (w.leaveLocalRace raceId).state.pendingSandboxActivations =
        w.state.pendingSandboxActivations ∧
      (w.leaveLocalRace raceId).state.activeSandboxes = w.state.activeSandboxes := by
  rw [Worker.leaveLocalRace]
  dsimp only
  split <;> exact ⟨rfl, rfl⟩

theorem mem_activeIds_leaveSandbox {w : Worker E} {sandboxId id : String}
    (h : id ∈ (w.leaveSandbox sandboxId).state.activeSandboxes.map (·.sandboxId)) :
    id ∈ w.state.activeSandboxes.map (·.sandboxId) := by
  rw [leaveSandbox_activeSandboxes] at h
  exact (List.eraseP_sublist.map _).subset h

theorem mem_activeIds_enterSandbox {w : Worker E} (slot : EngineWorldSlot E)
    {sandboxId id : String} (mapId : String) (preset : EngineRuntimeTimeOfDayPreset)
    (hinactive : isSandboxActive w.state sandboxId = false) :
    id ∈ (w.enterSandbox slot sandboxId mapId preset).state.activeSandboxes.map (·.sandboxId) ↔
      id = sandboxId ∨ id ∈ w.state.activeSandboxes.map (·.sandboxId) := by
  have hnot := isSandboxActive_eq_false.mp hinactive
  simp only [Worker.enterSandbox]
  rw [KeyedList.upsert_of_notMem hnot, List.map_append, List.mem_append]
  simp [or_comm]

theorem overrideTimeOfDay_activeIds (w : Worker E) (sandboxId : String)
    (preset : EngineRuntimeTimeOfDayPreset) :
    (w.overrideTimeOfDay sandboxId preset).state.activeSandboxes.map (·.sandboxId) =
      w.state.activeSandboxes.map (·.sandboxId) :=
  KeyedList.map_updateFirst fun _ => rfl

theorem QueueOk.change {w w' : Worker E} (h : QueueOk w.state) (hchange : Change w w') :
    QueueOk w'.state := by
  cases hchange with
  | enterNone mapId preset =>
      exact h.mono (List.Sublist.refl _) (by simp [Worker.bump, Worker.enterNone])
  | enterSandbox slot sandboxId mapId preset hinactive =>
      refine ⟨h.distinct.sublist ((dropPending_sublist w.state sandboxId).map _), ?_, ?_⟩
      · intro p hp
        exact h.payload p (mem_dropPending.mp hp).1
      · intro p hp hact
        obtain ⟨hold, hne⟩ := mem_dropPending.mp hp
        rw [isSandboxActive_eq_false]
        intro hmem
        rcases (mem_activeIds_enterSandbox slot mapId preset hinactive).mp hmem with heq | hmem
        · exact hne heq
        · exact isSandboxActive_eq_false.mp (h.inactive p hold hact) hmem
  | tidy htidy =>
      cases htidy with
      | enterOfficialRace slot mapId preset =>
          exact h.mono (List.Sublist.refl _) (by simp [Worker.bump, Worker.enterOfficialRace])
      | leaveSandbox sandboxId =>
          refine h.mono ?_ fun id hid => mem_activeIds_leaveSandbox hid
          have hpending := leaveSandbox_pending w sandboxId
          simpa only [Worker.bump, hpending] using dropPending_sublist w.state sandboxId
      | enterLocalRace slot raceId mapId preset hidle =>
          obtain ⟨hpending, hactive⟩ := enterLocalRace_pending w slot raceId mapId preset
          refine h.mono ?_ ?_
          · simp only [Worker.bump, hpending, List.Sublist.refl]
          · simp only [Worker.bump, hactive, imp_self, implies_true]
      | leaveLocalRace raceId hrace =>
          obtain ⟨hpending, hactive⟩ := leaveLocalRace_pending w raceId
          refine h.mono ?_ ?_
          · simp only [Worker.bump, hpending, List.Sublist.refl]
          · simp only [Worker.bump, hactive, imp_self, implies_true]
      | bump => exact h.mono (List.Sublist.refl _) fun _ hid => hid
      | overrideTimeOfDay sandboxId preset =>
          refine h.mono (List.Sublist.refl _) fun id hid => ?_
          rw [← overrideTimeOfDay_activeIds w sandboxId preset]
          exact hid
      | putPending p hpayload hinactive =>
          have hmem {q : EnginePendingSandboxActivation}
              (hq : q ∈ (w.putPending p).state.pendingSandboxActivations) :
              q = p ∨ q ∈ w.state.pendingSandboxActivations :=
            ((KeyedList.mem_upsert h.distinct).mp hq).imp_right And.left
          refine ⟨KeyedList.nodup_upsert h.distinct, ?_, ?_⟩
          · intro q hq
            rcases hmem hq with rfl | hq
            · exact hpayload
            · exact h.payload q hq
          · intro q hq hact
            rcases hmem hq with rfl | hq
            · exact hinactive hact
            · exact h.inactive q hq hact
      | dropPending sandboxId =>
          exact h.mono (dropPending_sublist w.state sandboxId) fun _ hid => hid

theorem Touch.activeIds {w w' : Worker E} (h : Touch w w') :
    w'.state.activeSandboxes.map (·.sandboxId) = w.state.activeSandboxes.map (·.sandboxId) := by
  have hstrip := congrArg (fun s => s.activeSandboxes.map (·.sandboxId)) h.state
  simpa [EngineRuntimeState.stripWeather, Function.comp_def] using hstrip

theorem Touch.pending {w w' : Worker E} (h : Touch w w') :
    w'.state.pendingSandboxActivations = w.state.pendingSandboxActivations := by
  have hstrip := congrArg EngineRuntimeState.pendingSandboxActivations h.state
  exact hstrip

theorem QueueOk.touch {w w' : Worker E} (h : QueueOk w.state) (htouch : Touch w w') :
    QueueOk w'.state :=
  h.mono (htouch.pending ▸ List.Sublist.refl _) fun _ hid => htouch.activeIds ▸ hid

/-! ## One pass over the due entries -/

/-- What an entry finds when its turn comes. -/
structure Ready (w : Worker E) (p : EnginePendingSandboxActivation) : Prop where
  payload : PayloadOk p
  inactive : p.activate = true → isSandboxActive w.state p.sandboxId = false

/-- The world that a scheduled activation asks for can be built. -/
def Builds (b : Build) (env : EngineEnv E) (p : EnginePendingSandboxActivation) : Prop :=
  ∃ mapId ghost slot, p.mapId = some mapId ∧ p.ghostModeSettings = some ghost ∧
    newWorld b env mapId ghost = .ok slot

theorem validateMapId_of_newWorld {b : Build} {env : EngineEnv E} {mapId : String}
    {ghost : GhostModeSettings} {slot : EngineWorldSlot E}
    (h : newWorld b env mapId ghost = .ok slot) : validateMapId b mapId = .ok () := by
  cases hmap : validateMapId b mapId with
  | error err => simp [newWorld, buildEngine, hmap] at h
  | ok u => rfl

theorem dropPending_of_dropped {w : Worker E} {sandboxId : String}
    (h : w.state.pendingSandboxActivations =
      (w.state.dropPending sandboxId).pendingSandboxActivations) :
    w.dropPending sandboxId = w := by
  rw [Worker.dropPending]
  rw [dropPending_eq_self]
  intro p hp
  rw [h] at hp
  exact (mem_dropPending.mp hp).2

theorem dropPending_idem (s : EngineRuntimeState) (sandboxId : String) :
    ((s.dropPending sandboxId).dropPending sandboxId).pendingSandboxActivations =
      (s.dropPending sandboxId).pendingSandboxActivations :=
  congrArg EngineRuntimeState.pendingSandboxActivations
    (dropPending_eq_self fun _ hp => (mem_dropPending.mp hp).2)

theorem enterSandbox_dropPending (w : Worker E) (slot : EngineWorldSlot E)
    (sandboxId mapId : String) (preset : EngineRuntimeTimeOfDayPreset) :
    (w.enterSandbox slot sandboxId mapId preset).bump.dropPending sandboxId =
      (w.enterSandbox slot sandboxId mapId preset).bump :=
  dropPending_of_dropped (dropPending_idem w.state sandboxId).symm

theorem leaveSandbox_dropPending (w : Worker E) (sandboxId : String) :
    (w.leaveSandbox sandboxId).bump.dropPending sandboxId = (w.leaveSandbox sandboxId).bump := by
  apply dropPending_of_dropped
  have hpending : (w.leaveSandbox sandboxId).bump.state.pendingSandboxActivations =
      (w.state.dropPending sandboxId).pendingSandboxActivations := leaveSandbox_pending w sandboxId
  simp only [EngineRuntimeState.dropPending] at hpending ⊢
  rw [hpending, List.filter_filter]
  simp

/-- The three ways in which a ready entry ends. -/
inductive DueStep (b : Build) (env : EngineEnv E) (w : Worker E)
    (p : EnginePendingSandboxActivation) : Worker E × DueOutcome → Prop
  | failed (err : EngineWorkerError) (hact : p.activate = true) (hbuild : ¬ Builds b env p) :
      DueStep b env w p (w, .failed err)
  | activated (slot : EngineWorldSlot E) (mapId : String) (preset : EngineRuntimeTimeOfDayPreset)
      (hact : p.activate = true) (hbuild : Builds b env p) :
      DueStep b env w p ((w.enterSandbox slot p.sandboxId mapId preset).bump,
        .activated p.sandboxId)
  | deactivated (hact : p.activate = false) :
      DueStep b env w p ((w.leaveSandbox p.sandboxId).bump, .deactivated p.sandboxId)

theorem executeDueEntry_deactivates (b : Build) (env : EngineEnv E) {w : Worker E}
    {p : EnginePendingSandboxActivation} (h : Ready w p) (hact : p.activate = false) :
    executeDueEntry b env w p =
      ((w.leaveSandbox p.sandboxId).bump, .deactivated p.sandboxId) := by
  have heq : executeDueEntry b env w p =
      ((w.leaveSandbox p.sandboxId).bump.dropPending p.sandboxId, .deactivated p.sandboxId) := by
    simp [executeDueEntry, hact, deactivateSandbox, h.payload.sandboxId, commit]
  rw [heq, leaveSandbox_dropPending]

/-- A ready activation is executed when its world can be built, else it fails
and changes nothing. -/
theorem executeDueEntry_activates (b : Build) (env : EngineEnv E) {w : Worker E}
    {p : EnginePendingSandboxActivation} (h : Ready w p) (hact : p.activate = true) :
    (Builds b env p ∧ ∃ slot mapId preset, p.mapId = some mapId ∧
      p.timeOfDayPreset = some preset ∧ executeDueEntry b env w p =
        ((w.enterSandbox slot p.sandboxId mapId preset).bump, .activated p.sandboxId)) ∨
    (¬ Builds b env p ∧ ∃ err, executeDueEntry b env w p = (w, .failed err)) := by
  obtain ⟨mapId, hmapId, -⟩ := h.payload.mapId hact
  obtain ⟨preset, hpreset, hspecified⟩ := h.payload.preset hact
  obtain ⟨ghost, hghost⟩ := h.payload.ghost hact
  have hinactive := h.inactive hact
  rcases switchRuntime_sandbox_cases b env w p.sandboxId mapId preset (some ghost) with
    ⟨slot, hadm, hswitch⟩ | ⟨err, hnot, hswitch⟩
  · have heq : executeDueEntry b env w p =
        ((w.enterSandbox slot p.sandboxId mapId preset).bump.dropPending p.sandboxId,
          .activated p.sandboxId) := by
      simp [executeDueEntry, hact, hinactive, hmapId, hpreset, hghost, hswitch, commit]
    rw [enterSandbox_dropPending] at heq
    exact Or.inl ⟨⟨mapId, ghost, slot, hmapId, hghost, hadm.built⟩, slot, mapId, preset, hmapId,
      hpreset, heq⟩
  · have heq : executeDueEntry b env w p = (w, .failed err) := by
      simp [executeDueEntry, hact, hinactive, hmapId, hpreset, hghost, hswitch]
    refine Or.inr ⟨?_, err, heq⟩
    rintro ⟨mapId', ghost', slot, hmapId', hghost', hbuilt⟩
    obtain rfl : mapId = mapId' := Option.some.inj (hmapId.symm.trans hmapId')
    obtain rfl : ghost = ghost' := Option.some.inj (hghost.symm.trans hghost')
    exact hnot slot ⟨h.payload.sandboxId, hspecified, validateMapId_of_newWorld hbuilt,
      hinactive, hbuilt⟩

theorem executeDueEntry_dueStep (b : Build) (env : EngineEnv E) {w : Worker E}
    {p : EnginePendingSandboxActivation} (h : Ready w p) :
    DueStep b env w p (executeDueEntry b env w p) := by
  cases hact : p.activate with
  | false =>
      rw [executeDueEntry_deactivates b env h hact]
      exact .deactivated hact
  | true =>
      rcases executeDueEntry_activates b env h hact with
        ⟨hbuild, slot, mapId, preset, -, -, heq⟩ | ⟨hbuild, err, heq⟩
      · rw [heq]
        exact .activated slot mapId preset hact hbuild
      · rw [heq]
        exact .failed err hact hbuild

/-- A due step is no step or a change. -/
theorem DueStep.reflTransGen {b : Build} {env : EngineEnv E} {w : Worker E}
    {p : EnginePendingSandboxActivation} {r : Worker E × DueOutcome} (h : Ready w p)
    (hstep : DueStep b env w p r) : Relation.ReflTransGen Change w r.1 := by
  cases hstep with
  | failed err hact hbuild => exact .refl
  | activated slot mapId preset hact hbuild =>
      exact .single (.enterSandbox slot p.sandboxId mapId preset (h.inactive hact))
  | deactivated hact => exact .single (.tidy (.leaveSandbox p.sandboxId))

/-- The copies a pass still has to execute. -/
structure DueOk (w : Worker E) (ps : List EnginePendingSandboxActivation) : Prop where
  distinct : (ps.map (·.sandboxId)).Nodup
  ready : ∀ p ∈ ps, Ready w p

/-- Executing one copy leaves the others ready: they name other sandboxes. -/
theorem DueOk.step {b : Build} {env : EngineEnv E} {w : Worker E}
    {p : EnginePendingSandboxActivation} {ps : List EnginePendingSandboxActivation}
    {r : Worker E × DueOutcome} (h : DueOk w (p :: ps)) (hstep : DueStep b env w p r) :
    DueOk r.1 ps := by
  have hhead := h.ready p List.mem_cons_self
  have hnodup : p.sandboxId ∉ ps.map (·.sandboxId) ∧ (ps.map (·.sandboxId)).Nodup :=
    List.nodup_cons.mp h.distinct
  refine ⟨hnodup.2, fun q hq => ?_⟩
  have hready := h.ready q (List.mem_cons_of_mem p hq)
  refine ⟨hready.payload, fun hact => ?_⟩
  have hold := isSandboxActive_eq_false.mp (hready.inactive hact)
  cases hstep with
  | failed err hact' hbuild => exact hready.inactive hact
  | activated slot mapId preset hact' hbuild =>
      rw [isSandboxActive_eq_false]
      intro hmem
      rcases (mem_activeIds_enterSandbox slot mapId preset (hhead.inactive hact')).mp hmem with
        heq | hmem
      · exact hnodup.1 (heq ▸ List.mem_map_of_mem hq)
      · exact hold hmem
  | deactivated hact' =>
      rw [isSandboxActive_eq_false]
      exact fun hmem => hold (mem_activeIds_leaveSandbox hmem)

/-- The outcomes that a pass over a queue in order can have. -/
def DueOutcome.Regular (o : DueOutcome) : Prop :=
  (∀ sandboxId, o ≠ .skippedAlreadyActive sandboxId) ∧ ∀ message, o ≠ .missing message

theorem DueStep.regular {b : Build} {env : EngineEnv E} {w : Worker E}
    {p : EnginePendingSandboxActivation} {r : Worker E × DueOutcome}
    (h : DueStep b env w p r) : r.2.Regular := by
  cases h <;> exact ⟨by simp, by simp⟩

theorem executeDue_spec (b : Build) (envs : ℕ → EngineEnv E) {w : Worker E}
    {ps : List EnginePendingSandboxActivation} (h : DueOk w ps) :
    Relation.ReflTransGen Change w (executeDue b envs w ps).1 ∧
      ∀ o ∈ (executeDue b envs w ps).2, o.Regular := by
  induction ps generalizing envs w with
  | nil => exact ⟨.refl, by simp [executeDue]⟩
  | cons p ps ih =>
      have hready := h.ready p List.mem_cons_self
      have hstep := executeDueEntry_dueStep b (envs 0) hready
      have hfirst := hstep.reflTransGen hready
      obtain ⟨hrest, hregular⟩ := ih (fun k => envs (k + 1)) (h.step hstep)
      rw [executeDue]
      dsimp only
      split
      · exact ⟨hfirst, by simpa using hstep.regular⟩
      · refine ⟨hfirst.trans hrest, fun o ho => ?_⟩
        rcases List.mem_cons.mp ho with rfl | ho
        · exact hstep.regular
        · exact hregular o ho

theorem mem_duePending {w : Worker E} {now : ℤ} {p : EnginePendingSandboxActivation} :
    p ∈ duePending w now ↔
      p ∈ w.state.pendingSandboxActivations ∧ p.executeAtUnixMs ≤ now := by
  simp [duePending, List.mem_insertionSort]

theorem QueueOk.dueOk {w : Worker E} (h : QueueOk w.state) (now : ℤ) :
    DueOk w (duePending w now) := by
  constructor
  · have hperm := (List.perm_insertionSort (fun p q : EnginePendingSandboxActivation =>
      p.executeAtUnixMs ≤ q.executeAtUnixMs) (w.state.pendingSandboxActivations.filter
        (fun entry => decide (entry.executeAtUnixMs ≤ now)))).map (·.sandboxId)
    exact hperm.nodup_iff.mpr (KeyedList.nodup_map_filter h.distinct)
  · intro p hp
    have hmem := (mem_duePending.mp hp).1
    exact ⟨h.payload p hmem, h.inactive p hmem⟩

/-! ## Whole runs -/

/-- From a queue in order, every event is a touch or a sequence of
changes. -/
theorem stepEvent_cases (b : Build) {w : Worker E} (h : QueueOk w.state) (ev : WorkerEvent E) :
    Touch w (stepEvent b w ev) ∨ Relation.ReflTransGen Change w (stepEvent b w ev) := by
  cases ev with
  | command env cmd => exact (handleCommand_cases b env w cmd).imp_right .single
  | duePass envs now => exact Or.inr (executeDue_spec b envs (h.dueOk now)).1
  | simulate target f => exact Or.inl (simulateWorld_worldTouch w f target).touch

/-- Invariants of the worker: kept by changes and touches, hence by every
event that finds the queue in order. -/
theorem stepEvent_invariant {I : Worker E → Prop}
    (hchange : ∀ w w', I w → Change w w' → I w')
    (htouch : ∀ w w', I w → Touch w w' → I w')
    (b : Build) {w : Worker E} (hqueue : QueueOk w.state) (h : I w) (ev : WorkerEvent E) :
    I (stepEvent b w ev) := by
  rcases stepEvent_cases b hqueue ev with ht | hrun
  · exact htouch _ _ h ht
  · generalize stepEvent b w ev = w' at hrun
    induction hrun with
    | refl => exact h
    | tail _ hlast ih => exact hchange _ _ ih hlast

theorem QueueOk.stepEvent {b : Build} {w : Worker E} (h : QueueOk w.state) (ev : WorkerEvent E) :
    QueueOk (stepEvent b w ev).state :=
  stepEvent_invariant (I := fun w : Worker E => QueueOk w.state) (fun _ _ h hc => h.change hc)
    (fun _ _ h ht => h.touch ht) b h h ev

theorem queueOk_run (b : Build) (evs : List (WorkerEvent E)) :
    QueueOk (evs.foldl (stepEvent b) (Worker.initial E)).state := by
  rw [← GuardedRun.stateAt_length]
  exact GuardedRun.invariant_at (I := fun w : Worker E => QueueOk w.state)
    (fun _ ev h => QueueOk.stepEvent h ev) queueOk_initial _

/-- In every reachable state the queue is in order, and a pass at any
time meets neither an active sandbox nor an incomplete entry. -/
theorem pending_queue_well_formed (b : Build) (evs : List (WorkerEvent E)) :
    let w := evs.foldl (stepEvent b) (Worker.initial E)
    (w.state.pendingSandboxActivations.map (·.sandboxId)).Nodup ∧
      (∀ p ∈ w.state.pendingSandboxActivations, p.activate = true →
        (∃ mapId, p.mapId = some mapId ∧ Text.isBlank mapId = false) ∧
        (∃ preset, p.timeOfDayPreset = some preset ∧ preset ≠ .unspecified) ∧
        p.ghostModeSettings.isSome = true ∧
        isSandboxActive w.state p.sandboxId = false) ∧
      (∀ p ∈ w.state.pendingSandboxActivations, p.activate = false →
        p.mapId = none ∧ p.timeOfDayPreset = none ∧ p.ghostModeSettings = none) ∧
      ∀ (envs : ℕ → EngineEnv E) (now : ℤ),
        ∀ o ∈ (maybeExecuteDuePendingSandboxActivation b envs now w).2,
          (∀ sandboxId, o ≠ .skippedAlreadyActive sandboxId) ∧
            ∀ message, o ≠ .missing message := by
  intro w
  have hqueue : QueueOk w.state := queueOk_run b evs
  refine ⟨hqueue.distinct, ?_, fun p hp => (hqueue.payload p hp).bare, ?_⟩
  · intro p hp hact
    have hpayload := hqueue.payload p hp
    refine ⟨hpayload.mapId hact, hpayload.preset hact, ?_, hqueue.inactive p hp hact⟩
    exact Option.isSome_iff_exists.mpr (hpayload.ghost hact)
  · intro envs now
    exact (executeDue_spec b envs (hqueue.dueOk now)).2

end HackArena.Runtime
