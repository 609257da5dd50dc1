import HackArena.Runtime.CarWorld
import HackArena.Runtime.EngineClient
import HackArena.Runtime.WorkerInvariants
import Mathlib.Data.Set.Basic

/-!
# Engine car ids across the life of a world

An engine hands out ids that are new to that instance, and only to that
instance: a sandbox that is activated again starts over. `Grows` says
that every sandbox world present before and after is the same instance
and still knows the ids it has issued.
-/

namespace HackArena.Runtime

open Boink

variable {E : Type} (issued : E → Set ℕ)

/-- What the engine promises about the ids it hands out. -/
structure IssuesIds (b : Build) (api : Api E) : Prop where
  spawn : ∀ e e' carId, api.spawnVehicle e = (e', .ok carId) →
    carId ∉ issued e ∧ carId ∈ issued e'
  keeps : ∀ slot op, issued slot.engine ⊆ issued (runSlotOp b api slot op).1.engine
  weather : ∀ params e, issued e ⊆ issued (api.setWeather params e).1

def EventIssuesIds (b : Build) : WorkerEvent E → Prop
  | .command env _ => IssuesIds issued b env.api
  | .duePass _ _ => True
  | .simulate _ f => ∀ e, issued e ⊆ issued (f e)

def Grows (w w' : Worker E) : Prop :=
  ∀ sandboxId slot slot', w.sandboxEngines.lookup sandboxId = some slot →
    w'.sandboxEngines.lookup sandboxId = some slot' → issued slot.engine ⊆ issued slot'.engine

/-- A world is the same before and after, or it is missing on one side. -/
def Stable (w w' : Worker E) : Prop :=
  ∀ sandboxId, w'.sandboxEngines.lookup sandboxId = w.sandboxEngines.lookup sandboxId ∨
    w.sandboxEngines.lookup sandboxId = none ∨ w'.sandboxEngines.lookup sandboxId = none

variable {issued} {b : Build} {env : EngineEnv E} {w w' : Worker E}

theorem Stable.of_eq (h : w'.sandboxEngines = w.sandboxEngines) : Stable w w' :=
  fun _ => Or.inl (by rw [h])

theorem Stable.grows (h : Stable w w') : Grows issued w w' := by
  intro sandboxId slot slot' hslot hslot'
  rcases h sandboxId with hsame | hnone | hnone
  · rw [hsame, hslot] at hslot'
    cases hslot'
    exact Set.Subset.rfl
  · exact absurd (hslot.symm.trans hnone) (by simp)
  · exact absurd (hslot'.symm.trans hnone) (by simp)

theorem Grows.refl (w : Worker E) : Grows issued w w := (Stable.of_eq rfl).grows

/-! ## Calls on a world -/

/-- Replacing the world of a target by what an operation makes of it. -/
theorem withTargetSlotMut_grows {R : Type} (target : EngineCommandTarget) (w : Worker E)
    {op : EngineWorldSlot E → EngineWorldSlot E × Except EngineWorkerError R}
    (hop : ∀ slot, issued slot.engine ⊆ issued (op slot).1.engine) :
    Grows issued w (withTargetSlotMut target w op).1 := by
  cases target with
  | officialRace =>
      unfold withTargetSlotMut
      dsimp only
      split
      · exact Grows.refl w
      · split
        · exact Grows.refl w
        · exact (Stable.of_eq rfl).grows
  | localRace raceId =>
      unfold withTargetSlotMut
      dsimp only
      split
      · exact Grows.refl w
      · split
        · exact Grows.refl w
        · split
          · exact Grows.refl w
          · exact (Stable.of_eq rfl).grows
  | sandbox sandboxId =>
      unfold withTargetSlotMut
      dsimp only
      split
      · exact Grows.refl w
      · split
        · exact Grows.refl w
        · rename_i slot hslot
          intro other old new hold hnew
          rw [HashMap.lookup_insert_eq] at hnew
          split at hnew
          · rename_i heq
            subst heq
            cases hnew
            rw [hslot] at hold
            cases hold
            exact hop slot
          · rw [hold] at hnew
            cases hnew
            exact Set.Subset.rfl

theorem Grows.trans_of_worldTouch {u v w : Worker E} (huv : Grows issued u v)
    (hvw : Grows issued v w) (ht : WorldTouch u v) : Grows issued u w := by
  intro sandboxId slot slot' hslot hslot'
  have hmem : sandboxId ∈ v.sandboxEngines := by
    rw [← Finmap.mem_keys, ht.sandbox, Finmap.mem_keys]
    exact Finmap.mem_of_lookup_eq_some hslot
  obtain ⟨mid, hmid⟩ := Finmap.mem_iff.mp hmem
  exact (huv sandboxId slot mid hslot hmid).trans (hvw sandboxId mid slot' hmid hslot')

theorem Commanded.grows (hapi : IssuesIds issued b env.api) (h : Commanded b env w w') :
    Grows issued w w' := by
  induction h with
  | refl => exact Grows.refl w
  | tail hrun hlast ih =>
      obtain ⟨target, op, rfl⟩ := hlast
      rename_i v
      have hrun' : Commanded b env w v := hrun
      have hstep : Grows issued v (handleCommand b env v (.slot target op)).1 :=
        withTargetSlotMut_grows target v fun slot => hapi.keeps slot op
      exact ih.trans_of_worldTouch hstep hrun'.worldTouch

theorem Commanded.sound (hs : Sound w) (h : Commanded b env w w') : Sound w' := by
  induction h with
  | refl => exact hs
  | tail _ hlast ih =>
      obtain ⟨target, op, rfl⟩ := hlast
      exact ih.stepEvent (.command env (.slot target op))

/-- The id of a spawned car comes from the engine's own spawn; the official
build then forces a tyre. -/
theorem spawnCarOp_ok {api : Api E} {slot : EngineWorldSlot E} {carId : ℕ}
    (h : (spawnCarOp b api slot).2 = .ok carId) :
    ∃ engine, api.spawnVehicle slot.engine = (engine, .ok carId) ∧
      ((spawnCarOp b api slot).1 = { slot with engine := engine } ∨
        (spawnCarOp b api slot).1 =
          (runSlotOp b api { slot with engine := engine }
            (.forceSetCarTyreType carId .hard)).1) := by
  cases hspawn : api.spawnVehicle slot.engine with
  | mk engine result =>
      cases result with
      | error err => simp [spawnCarOp, callEngine, hspawn] at h
      | ok newId =>
          cases b with
          | official =>
              obtain rfl : newId = carId := by simpa [spawnCarOp, callEngine, hspawn] using h
              exact ⟨engine, rfl, Or.inr (by simp [spawnCarOp, callEngine, hspawn, runSlotOp])⟩
          | «local» =>
              obtain rfl : newId = carId := by simpa [spawnCarOp, callEngine, hspawn] using h
              exact ⟨engine, rfl, Or.inl (by simp [spawnCarOp, callEngine, hspawn])⟩
          | standalone =>
              obtain rfl : newId = carId := by simpa [spawnCarOp, callEngine, hspawn] using h
              exact ⟨engine, rfl, Or.inl (by simp [spawnCarOp, callEngine, hspawn])⟩

/-- A car that is spawned gets an id its world had not issued. -/
theorem spawnCarIn_issues (hapi : IssuesIds issued b env.api) {sandboxId : String} {carId : ℕ}
    (h : spawnCarIn b env w (.sandbox sandboxId) = (w', .ok carId)) :
    ∃ slot slot', w.sandboxEngines.lookup sandboxId = some slot ∧
      w'.sandboxEngines.lookup sandboxId = some slot' ∧
      carId ∉ issued slot.engine ∧ carId ∈ issued slot'.engine := by
  unfold spawnCarIn withTargetSlotMut at h
  dsimp only at h
  split at h
  · cases h
  · split at h
    · cases h
    · rename_i slot hslot
      obtain ⟨hw', hcar⟩ := Prod.mk.inj h
      subst hw'
      refine ⟨slot, (spawnCarOp b env.api slot).1, hslot, by simp, ?_⟩
      obtain ⟨engine, hspawn, hend⟩ := spawnCarOp_ok hcar
      obtain ⟨hfresh, hissued⟩ := hapi.spawn slot.engine engine carId hspawn
      refine ⟨hfresh, ?_⟩
      rcases hend with hend | hend
      · rw [hend]
        exact hissued
      · rw [hend]
        exact hapi.keeps _ _ hissued

/-! ## Whole events -/

theorem Change.stable (hc : Consistent w) (h : Change w w') : Stable w w' := by
  cases h with
  | enterNone mapId preset =>
      exact fun _ => Or.inr (Or.inr (by simp [Worker.bump, Worker.enterNone]))
  | enterSandbox slot sandboxId mapId preset hinactive =>
      intro other
      by_cases heq : other = sandboxId
      · refine Or.inr (Or.inl ?_)
        rw [heq, Finmap.lookup_eq_none, ← Finmap.mem_keys, ← hc.sandboxes, List.mem_toFinset]
        exact isSandboxActive_eq_false.mp hinactive
      · exact Or.inl (Finmap.lookup_insert_of_ne _ heq)
  | tidy htidy =>
      cases htidy with
      | enterOfficialRace slot mapId preset =>
          exact fun _ => Or.inr (Or.inr (by simp [Worker.bump, Worker.enterOfficialRace]))
      | leaveSandbox sandboxId =>
          intro other
          have hengines : (w.leaveSandbox sandboxId).bump.sandboxEngines =
              w.sandboxEngines.erase sandboxId := (leaveSandbox_engines w sandboxId).1
          rw [hengines, HashMap.lookup_erase_eq]
          split
          · exact Or.inr (Or.inr rfl)
          · exact Or.inl rfl
      | enterLocalRace slot raceId mapId preset hidle => exact Stable.of_eq rfl
      | leaveLocalRace raceId hactive => exact Stable.of_eq rfl
      | bump => exact Stable.of_eq rfl
      | overrideTimeOfDay sandboxId preset => exact Stable.of_eq rfl
      | putPending p hpayload hinactive => exact Stable.of_eq rfl
      | dropPending sandboxId => exact Stable.of_eq rfl

theorem DueStep.lookup_of_ne {p : EnginePendingSandboxActivation} {r : Worker E × DueOutcome}
    (h : DueStep b env w p r) {sandboxId : String} (hne : sandboxId ≠ p.sandboxId) :
    r.1.sandboxEngines.lookup sandboxId = w.sandboxEngines.lookup sandboxId := by
  cases h with
  | failed err hact hbuild => rfl
  | activated slot mapId preset hact hbuild => exact Finmap.lookup_insert_of_ne _ hne
  | deactivated hact =>
      have hengines : (w.leaveSandbox p.sandboxId).bump.sandboxEngines =
          w.sandboxEngines.erase p.sandboxId := (leaveSandbox_engines w p.sandboxId).1
      rw [hengines]
      exact Finmap.lookup_erase_ne hne

theorem executeDue_lookup_of_notMem (envs : ℕ → EngineEnv E)
    {ps : List EnginePendingSandboxActivation} (h : DueOk w ps) {sandboxId : String}
    (hnot : sandboxId ∉ ps.map (·.sandboxId)) :
    (executeDue b envs w ps).1.sandboxEngines.lookup sandboxId =
      w.sandboxEngines.lookup sandboxId := by
  induction ps generalizing envs w with
  | nil => rfl
  | cons p ps ih =>
      rw [List.map_cons, List.mem_cons, not_or] at hnot
      have hstep := executeDueEntry_dueStep b (envs 0) (h.ready p List.mem_cons_self)
      have hfirst := hstep.lookup_of_ne hnot.1
      have hrest := ih (fun k => envs (k + 1)) (h.step hstep) hnot.2
      rw [executeDue]
      dsimp only
      split
      · exact hfirst
      · exact hrest.trans hfirst

/-- A pass names each sandbox once, so it never replaces a world. -/
theorem executeDue_stable (envs : ℕ → EngineEnv E) {ps : List EnginePendingSandboxActivation}
    (h : DueOk w ps) (hc : Consistent w) : Stable w (executeDue b envs w ps).1 := by
  induction ps generalizing envs w with
  | nil => exact Stable.of_eq rfl
  | cons p ps ih =>
      have hready := h.ready p List.mem_cons_self
      have hstep := executeDueEntry_dueStep b (envs 0) hready
      have hdue := h.step hstep
      have hhead := (List.nodup_cons.mp h.distinct).1
      rw [executeDue]
      dsimp only
      generalize executeDueEntry b (envs 0) w p = r at hstep hdue ⊢
      have hchange : r.1 = w ∨ Change w r.1 := by
        cases hstep with
        | failed err hact hbuild => exact Or.inl rfl
        | activated slot mapId preset hact hbuild =>
            exact Or.inr (.enterSandbox slot p.sandboxId mapId preset (hready.inactive hact))
        | deactivated hact => exact Or.inr (.tidy (.leaveSandbox p.sandboxId))
      have hone : Stable w r.1 := by
        rcases hchange with hsame | hchange
        · rw [hsame]
          exact Stable.of_eq rfl
        · exact hchange.stable hc
      have hc' : Consistent r.1 := by
        rcases hchange with hsame | hchange
        · rw [hsame]
          exact hc
        · exact hc.change hchange
      split
      · exact hone
      · intro sandboxId
        by_cases heq : sandboxId = p.sandboxId
        · have hsame := executeDue_lookup_of_notMem (b := b) (fun k => envs (k + 1)) hdue hhead
          rw [heq]
          simpa only [hsame] using hone p.sandboxId
        · have hsame := hstep.lookup_of_ne heq
          have hrest := ih (fun k => envs (k + 1)) hdue hc' sandboxId
          rwa [hsame] at hrest

theorem setWeather_grows (hapi : IssuesIds issued b env.api) (sandboxId : String)
    (weather : WeatherParams) (weatherNow : EngineRuntimeWeatherNow) :
    Grows issued w (setWeather env w sandboxId weather weatherNow).1 := by
  have hcall : Grows issued w (withTargetSlotMut (.sandbox sandboxId) w
      (callEngine (env.api.setWeather weather) fun _ => SlotReply.unit)).1 :=
    withTargetSlotMut_grows _ w fun slot => hapi.weather weather slot.engine
  rw [setWeather]
  generalize withTargetSlotMut (.sandbox sandboxId) w
    (callEngine (env.api.setWeather weather) fun _ => SlotReply.unit) = r at hcall ⊢
  obtain ⟨v, result⟩ := r
  cases result with
  | error err => exact hcall
  | ok reply =>
      dsimp only
      split <;> exact hcall

theorem simulateWorld_grows (target : EngineCommandTarget) {f : E → E}
    (hf : ∀ e, issued e ⊆ issued (f e)) : Grows issued w (simulateWorld w f target) := by
  cases target with
  | officialRace =>
      unfold simulateWorld
      dsimp only
      split <;> exact (Stable.of_eq rfl).grows
  | localRace raceId =>
      unfold simulateWorld
      dsimp only
      split <;> exact (Stable.of_eq rfl).grows
  | sandbox sandboxId =>
      unfold simulateWorld
      dsimp only
      split
      · exact Grows.refl w
      · rename_i slot hslot
        intro other old new hold hnew
        rw [HashMap.lookup_insert_eq] at hnew
        split at hnew
        · rename_i heq
          subst heq
          cases hnew
          rw [hslot] at hold
          cases hold
          exact hf slot.engine
        · rw [hold] at hnew
          cases hnew
          exact Set.Subset.rfl

theorem stepEvent_grows (hs : Sound w) {ev : WorkerEvent E} (hev : EventIssuesIds issued b ev) :
    Grows issued w (stepEvent b w ev) := by
  cases ev with
  | duePass envs now => exact (executeDue_stable envs (hs.queue.dueOk now) hs.consistent).grows
  | simulate target f => exact simulateWorld_grows target hev
  | command env cmd =>
      cases hcmd : cmd.expectedRevision? with
      | some rev =>
          rcases handleCommand_revisioned b env w hcmd with ⟨hsame, -⟩ | ⟨-, -, hsame | hchange⟩
          · exact (Stable.of_eq (by rw [stepEvent, hsame])).grows
          · exact (Stable.of_eq (by rw [stepEvent, hsame])).grows
          · exact (hchange.stable hs.consistent).grows
      | none =>
          cases cmd with
          | slot target op => exact withTargetSlotMut_grows target w fun slot => hev.keeps slot op
          | getRuntimeState => exact Grows.refl w
          | setWeather sandboxId weather weatherNow =>
              exact setWeather_grows hev sandboxId weather weatherNow
          | switchRuntime | setRuntimeTimeOfDay | setPendingSandboxActivation
          | cancelPendingSandboxActivation | deactivateSandbox | activateLocalRace
          | deactivateLocalRace | bumpRevision => simp [EngineCommand.expectedRevision?] at hcmd

/-! ## The concrete engine -/

theorem CarWorld.onCar_issued {R : Type} (carId : ℕ) (f : CarWorld → CarWorld) (answer : R)
    (e : CarWorld) (hf : (f e).issued = e.issued) :
    (CarWorld.onCar carId f answer e).1.issued = e.issued := by
  rw [CarWorld.onCar]
  split
  · exact hf
  · rfl

/-- The cars that the concrete engine has numbered. -/
def CarWorld.numbered (e : CarWorld) : Set ℕ := {n | n ≤ e.issued}

theorem CarWorld.numbered_mono {e e' : CarWorld} (h : e.issued ≤ e'.issued) :
    CarWorld.numbered e ⊆ CarWorld.numbered e' := fun _ hn => le_trans hn h

theorem carWorld_issuesIds (b : Build) : IssuesIds CarWorld.numbered b CarWorld.api where
  spawn := by
    rintro e e' carId h
    cases h
    refine ⟨?_, ?_⟩
    · simp [CarWorld.numbered]
    · simp [CarWorld.numbered]
  keeps := by
    intro slot op
    apply CarWorld.numbered_mono
    cases op with
    | spawnCar =>
        cases b with
        | official =>
            have hforce := CarWorld.onCar_issued (slot.engine.issued + 1) id ()
              ⟨slot.engine.issued + 1, slot.engine.cars ++ [slot.engine.issued + 1]⟩ rfl
            exact (Nat.le_succ _).trans hforce.ge
        | «local» => exact Nat.le_succ _
        | standalone => exact Nat.le_succ _
    | getNumberOfStartPos => exact le_rfl
    | getTrackData => exact le_rfl
    | getRaceDuration => exact le_rfl
    | setGhostModeSettings settings => exact le_rfl
    | _ => exact (CarWorld.onCar_issued _ _ _ _ rfl).ge
  weather := fun _ _ => Set.Subset.rfl

end HackArena.Runtime
