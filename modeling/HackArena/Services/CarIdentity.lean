import HackArena.Runtime.EngineIds
import HackArena.Services.Arena

/-!
# Public cars and engine cars

The store identifies an engine car by its sandbox and its engine id, and
so do joins, streams and clean-ups while they are under way. The engine
id belongs to one instance of the sandbox's world, and the pair outlives
it. As long as a sandbox is only activated when nothing refers to it any
more, a pair names one car; otherwise the next join may be given an id
that an old car still carries.
-/

namespace HackArena.Services

open Boink HackArena.Runtime GuardedRun

variable {E : Type}

/-! ## Who holds which engine car -/

/-- The sandbox and the engine id that a request holds on to. -/
def Request.car : Request → Option (String × ℕ)
  | .spawned sandboxId engineCarId | .misplaced sandboxId engineCarId
  | .placed sandboxId engineCarId | .allocated sandboxId engineCarId _
  | .registering sandboxId engineCarId _ _ => some (sandboxId, engineCarId)
  | .streaming _ (.sandbox sandboxId) engineCarId
  | .closing _ (.sandbox sandboxId) engineCarId _ _ => some (sandboxId, engineCarId)
  | .selected _ | .streaming _ _ _ | .closing _ _ _ _ _ => none

def Request.publicCar : Request → Option ℕ
  | .allocated _ _ publicCarId | .registering _ _ publicCarId _
  | .streaming publicCarId _ _ | .closing publicCarId _ _ _ _ => some publicCarId
  | .selected _ | .spawned _ _ | .misplaced _ _ | .placed _ _ => none

/-- The public car a request is for, or the request itself while it has
none. -/
def Request.owner (id : ℕ) (q : Request) : ℕ ⊕ ℕ :=
  match q.publicCar with
  | some publicCarId => .inl publicCarId
  | none => .inr id

inductive Holds (s : Arena E) (sandboxId : String) (engineCarId : ℕ) : ℕ ⊕ ℕ → Prop
  | car {publicCarId : ℕ} (htarget : s.store.carTargets.lookup publicCarId =
      some (.sandbox sandboxId))
      (hengine : s.store.carEngineIds.lookup publicCarId = some engineCarId) :
      Holds s sandboxId engineCarId (.inl publicCarId)
  | request {id : ℕ} {q : Request} (hq : s.requests id = some q)
      (hcar : q.car = some (sandboxId, engineCarId)) :
      Holds s sandboxId engineCarId (q.owner id)

/-- The store or a request mentions the public car. -/
def Refers (s : Arena E) (publicCarId : ℕ) : Prop :=
  publicCarId ∈ s.store.carTargets ∨ publicCarId ∈ s.store.carEngineIds ∨
    ∃ id q, s.requests id = some q ∧ q.publicCar = some publicCarId

/-- Nothing is handed out while something refers to it: a sandbox is
activated only when no car, join, stream or clean-up is left from before,
and a public id is only issued when it is not in use. -/
def Fresh (b : Build) (s : Arena E) : ArenaEvent E → Prop
  | .worker ev => ∀ sandboxId, sandboxId ∉ s.worker.sandboxEngines →
      sandboxId ∈ (stepEvent b s.worker ev).sandboxEngines →
        ∀ engineCarId owner, ¬ Holds s sandboxId engineCarId owner
  | .joinAllocate _ => ¬ Refers s s.store.nextPublicCarId
  | _ => True

def ArenaEvent.IssuesIds (issued : E → Set ℕ) (b : Build) : ArenaEvent E → Prop
  | .worker ev => EventIssuesIds issued b ev
  | .joinSpawn _ env | .joinPlace _ env _ _ | .joinDespawn _ env | .cleanupDespawn _ env
  | .collect env _ _ _ => Runtime.IssuesIds issued b env.api
  | .joinSelect _ _ | .joinAllocate _ | .joinIdentify _ _ | .joinStore _ | .streamOpen _ _
  | .streamEnd _ | .cleanupExpire _ | .cleanupRemove _ | .forget _ => True

/-! ## The invariant -/

/-- A join that has a public id, with the writes it has left. -/
structure Joining where
  sandboxId : String
  engineCarId : ℕ
  publicCarId : ℕ
  todo : List StoreOp

def Request.joining : Request → Option Joining
  | .allocated sandboxId engineCarId publicCarId => some ⟨sandboxId, engineCarId, publicCarId, []⟩
  | .registering sandboxId engineCarId publicCarId todo =>
      some ⟨sandboxId, engineCarId, publicCarId, todo⟩
  | .selected _ | .spawned _ _ | .misplaced _ _ | .placed _ _ | .streaming _ _ _
  | .closing _ _ _ _ _ => none

/-- A write of target or engine id writes the join's own. -/
def StoreOp.Fits (sandboxId : String) (engineCarId : ℕ) : StoreOp → Prop
  | .carEngineId e => e = engineCarId
  | .carTarget target => target = .sandbox sandboxId
  | .instanceCar _ | .carOwner _ | .setCarIdentity _ _ | .knownCar | .lastClientSeq => True

/-- What the store has of a joining car is the join's own. -/
structure JoinOk (store : RaceRuntimeStore) (j : Joining) : Prop where
  target : ∀ target, store.carTargets.lookup j.publicCarId = some target →
    target = .sandbox j.sandboxId
  engineId : ∀ e, store.carEngineIds.lookup j.publicCarId = some e → e = j.engineCarId
  todo : ∀ op ∈ j.todo, op.Fits j.sandboxId j.engineCarId

structure ArenaInv (issued : E → Set ℕ) (s : Arena E) : Prop where
  sound : Sound s.worker
  issued : ∀ {sandboxId engineCarId owner slot}, Holds s sandboxId engineCarId owner →
    s.worker.sandboxEngines.lookup sandboxId = some slot → engineCarId ∈ issued slot.engine
  unique : ∀ {sandboxId engineCarId owner owner'}, Holds s sandboxId engineCarId owner →
    Holds s sandboxId engineCarId owner' → owner = owner'
  joining : ∀ {id q j}, s.requests id = some q → q.joining = some j → JoinOk s.store j
  single : ∀ {id id' q q' j j'}, s.requests id = some q → s.requests id' = some q' →
    q.joining = some j → q'.joining = some j' → j.publicCarId = j'.publicCarId → id = id'
  sandboxOnly : ∀ {publicCarId target}, s.store.carTargets.lookup publicCarId = some target →
    ∃ sandboxId, target = .sandbox sandboxId

theorem arenaInv_initial (issued : E → Set ℕ) : ArenaInv issued (Arena.initial E) where
  sound := sound_initial
  issued := by
    intro sandboxId engineCarId owner slot h
    cases h with
    | car htarget hengine => simp [Arena.initial, RaceRuntimeStore.new] at htarget
    | request hq hcar => simp [Arena.initial] at hq
  unique := by
    intro sandboxId engineCarId owner owner' h
    cases h with
    | car htarget hengine => simp [Arena.initial, RaceRuntimeStore.new] at htarget
    | request hq hcar => simp [Arena.initial] at hq
  joining := by simp [Arena.initial]
  single := by simp [Arena.initial]
  sandboxOnly := by simp [Arena.initial, RaceRuntimeStore.new]

theorem joining_publicCar {q : Request} {j : Joining} (h : q.joining = some j) :
    q.car = some (j.sandboxId, j.engineCarId) ∧ q.publicCar = some j.publicCarId := by
  cases q <;> simp only [Request.joining, Option.some.injEq, reduceCtorEq] at h
  all_goals
    subst h
    exact ⟨rfl, rfl⟩

theorem Shrunk.joinOk {s t : RaceRuntimeStore} {j : Joining} (h : JoinOk s j) (hst : Shrunk s t) :
    JoinOk t j := by
  refine ⟨fun target htarget => ?_, fun e hengine => ?_, h.todo⟩
  · rcases hst.target j.publicCarId with hsame | hnone
    · exact h.target target (hsame ▸ htarget)
    · exact absurd (htarget.symm.trans hnone) (by simp)
  · rcases hst.engineId j.publicCarId with hsame | hnone
    · exact h.engineId e (hsame ▸ hengine)
    · exact absurd (hengine.symm.trans hnone) (by simp)

section Update

variable {issued : E → Set ℕ} {s s' : Arena E} {id : ℕ} {r : Option Request}

/-- Replacing one request over a shrunk store adds at most the car of the
new request. -/
theorem holds_update (hreq : s'.requests = Function.update s.requests id r)
    (hstore : Shrunk s.store s'.store) {sandboxId : String} {engineCarId : ℕ} {owner : ℕ ⊕ ℕ}
    (h : Holds s' sandboxId engineCarId owner) :
    Holds s sandboxId engineCarId owner ∨
      ∃ q, r = some q ∧ q.car = some (sandboxId, engineCarId) ∧ owner = q.owner id := by
  cases h with
  | @car publicCarId htarget hengine =>
      refine Or.inl (.car ?_ ?_)
      · rcases hstore.target publicCarId with hsame | hnone
        · exact hsame ▸ htarget
        · exact absurd (htarget.symm.trans hnone) (by simp)
      · rcases hstore.engineId publicCarId with hsame | hnone
        · exact hsame ▸ hengine
        · exact absurd (hengine.symm.trans hnone) (by simp)
  | @request other q hq hcar =>
      rw [hreq] at hq
      by_cases heq : other = id
      · subst heq
        rw [Function.update_self] at hq
        exact Or.inr ⟨q, hq, hcar, rfl⟩
      · rw [Function.update_of_ne heq] at hq
        exact Or.inl (.request hq hcar)

/-- The new request holds on to a car it already had, and a join it
continues is the one that was there. -/
structure Continues (s : Arena E) (id : ℕ) (q : Request) : Prop where
  holds : ∀ {sandboxId engineCarId}, q.car = some (sandboxId, engineCarId) →
    Holds s sandboxId engineCarId (q.owner id)
  joins : ∀ {j}, q.joining = some j → JoinOk s.store j ∧
    ∃ q₀ j₀, s.requests id = some q₀ ∧ q₀.joining = some j₀ ∧ j₀.publicCarId = j.publicCarId

theorem ArenaInv.single_update (h : ArenaInv issued s)
    (hreq : s'.requests = Function.update s.requests id r)
    (hnew : ∀ q j, r = some q → q.joining = some j →
      ∃ q₀ j₀, s.requests id = some q₀ ∧ q₀.joining = some j₀ ∧ j₀.publicCarId = j.publicCarId)
    {a a' : ℕ} {q q' : Request} {j j' : Joining} (hq : s'.requests a = some q)
    (hq' : s'.requests a' = some q') (hj : q.joining = some j) (hj' : q'.joining = some j')
    (heq : j.publicCarId = j'.publicCarId) : a = a' := by
  -- every joining request of the new state stands for one of the old state
  have hold {a : ℕ} {q : Request} {j : Joining} (hq : s'.requests a = some q)
      (hj : q.joining = some j) :
      ∃ q₀ j₀, s.requests a = some q₀ ∧ q₀.joining = some j₀ ∧
        j₀.publicCarId = j.publicCarId := by
    rw [hreq] at hq
    by_cases ha : a = id
    · subst ha
      rw [Function.update_self] at hq
      exact hnew q j hq hj
    · rw [Function.update_of_ne ha] at hq
      exact ⟨q, j, hq, hj, rfl⟩
  obtain ⟨q₀, j₀, hq₀, hj₀, hcar₀⟩ := hold hq hj
  obtain ⟨q₁, j₁, hq₁, hj₁, hcar₁⟩ := hold hq' hj'
  exact h.single hq₀ hq₁ hj₀ hj₁ (hcar₀.trans (heq.trans hcar₁.symm))

/-- The same when the new request has a public id that no joining request
has. -/
theorem ArenaInv.single_fresh (h : ArenaInv issued s)
    (hreq : s'.requests = Function.update s.requests id r)
    (hnew : ∀ {q j}, r = some q → q.joining = some j → ∀ {a q₀ j₀}, s.requests a = some q₀ →
      q₀.joining = some j₀ → j₀.publicCarId ≠ j.publicCarId)
    {a a' : ℕ} {q q' : Request} {j j' : Joining} (hq : s'.requests a = some q)
    (hq' : s'.requests a' = some q') (hj : q.joining = some j) (hj' : q'.joining = some j')
    (heq : j.publicCarId = j'.publicCarId) : a = a' := by
  rw [hreq] at hq hq'
  by_cases ha : a = id
  · by_cases ha' : a' = id
    · rw [ha, ha']
    · rw [ha, Function.update_self] at hq
      rw [Function.update_of_ne ha'] at hq'
      exact (hnew hq hj hq' hj' heq.symm).elim
  · rw [Function.update_of_ne ha] at hq
    by_cases ha' : a' = id
    · rw [ha', Function.update_self] at hq'
      exact (hnew hq' hj' hq hj heq).elim
    · rw [Function.update_of_ne ha'] at hq'
      exact h.single hq hq' hj hj' heq

theorem joining_update (hreq : s'.requests = Function.update s.requests id r)
    (hold : ∀ {a q j}, a ≠ id → s.requests a = some q → q.joining = some j → JoinOk s'.store j)
    (hnew : ∀ {q j}, r = some q → q.joining = some j → JoinOk s'.store j)
    {a : ℕ} {q : Request} {j : Joining} (hq : s'.requests a = some q) (hj : q.joining = some j) :
    JoinOk s'.store j := by
  rw [hreq] at hq
  by_cases ha : a = id
  · subst ha
    rw [Function.update_self] at hq
    exact hnew hq hj
  · rw [Function.update_of_ne ha] at hq
    exact hold ha hq hj

/-- The step rule: the worlds are the same instances, the store has only
lost entries, and the request of `id` goes on with what it had. -/
theorem ArenaInv.update (h : ArenaInv issued s) (hsound : Sound s'.worker)
    (hreq : s'.requests = Function.update s.requests id r)
    (hstore : Shrunk s.store s'.store) (htouch : WorldTouch s.worker s'.worker)
    (hgrows : Grows issued s.worker s'.worker)
    (hnew : ∀ q, r = some q → Continues s id q) : ArenaInv issued s' := by
  have hholds {sandboxId : String} {engineCarId : ℕ} {owner : ℕ ⊕ ℕ}
      (hh : Holds s' sandboxId engineCarId owner) : Holds s sandboxId engineCarId owner := by
    rcases holds_update hreq hstore hh with hold | ⟨q, hr, hcar, rfl⟩
    · exact hold
    · exact (hnew q hr).holds hcar
  constructor
  · exact hsound
  · intro sandboxId engineCarId owner slot' hh hslot'
    have hmem : sandboxId ∈ s.worker.sandboxEngines := by
      rw [← Finmap.mem_keys, ← htouch.sandbox, Finmap.mem_keys]
      exact Finmap.mem_of_lookup_eq_some hslot'
    obtain ⟨slot, hslot⟩ := Finmap.mem_iff.mp hmem
    exact hgrows sandboxId slot slot' hslot hslot' (h.issued (hholds hh) hslot)
  · intro sandboxId engineCarId owner owner' hh hh'
    exact h.unique (hholds hh) (hholds hh')
  · exact joining_update hreq (fun _ hq hj => hstore.joinOk (h.joining hq hj))
      fun hr hj => hstore.joinOk ((hnew _ hr).joins hj).1
  · intro a a' q q' j j' hq hq' hj hj' heq
    exact h.single_update hreq (fun q j hr hj => ((hnew q hr).joins hj).2) hq hq' hj hj' heq
  · intro publicCarId target htarget
    rcases hstore.target publicCarId with hsame | hnone
    · exact h.sandboxOnly (hsame ▸ htarget)
    · exact absurd (htarget.symm.trans hnone) (by simp)

theorem continues_self {q : Request} (h : ArenaInv issued s) (hq : s.requests id = some q) :
    Continues s id q :=
  ⟨fun hcar => .request hq hcar, fun hj => ⟨h.joining hq hj, q, _, hq, hj, rfl⟩⟩

/-- A request that keeps car and owner of an older one, and joins no
more. -/
theorem continues_of_car {q q₀ : Request} (hq₀ : s.requests id = some q₀)
    (hcar : ∀ x, q.car = some x → q₀.car = some x) (howner : q.owner id = q₀.owner id)
    (hjoin : q.joining = none) : Continues s id q := by
  refine ⟨fun hq => ?_, fun hj => ?_⟩
  · rw [howner]
    exact .request hq₀ (hcar _ hq)
  · exact absurd (hjoin.symm.trans hj) (by simp)

/-- The step rule for a request that has talked to the worker. -/
theorem ArenaInv.command {b : Build} {env : EngineEnv E} (h : ArenaInv issued s)
    (hapi : Runtime.IssuesIds issued b env.api)
    (hreq : s'.requests = Function.update s.requests id r)
    (hstore : Shrunk s.store s'.store) (hworker : Commanded b env s.worker s'.worker)
    (hnew : ∀ q, r = some q → Continues s id q) : ArenaInv issued s' :=
  h.update (hworker.sound h.sound) hreq hstore hworker.worldTouch (hworker.grows hapi) hnew

/-- The step rule for a request that has not. -/
theorem ArenaInv.quiet (h : ArenaInv issued s) (hworker : s'.worker = s.worker)
    (hreq : s'.requests = Function.update s.requests id r)
    (hstore : Shrunk s.store s'.store) (hnew : ∀ q, r = some q → Continues s id q) :
    ArenaInv issued s' := by
  refine h.update (hworker ▸ h.sound) hreq hstore ?_ ?_ hnew
  · rw [hworker]
    exact WorldTouch.refl _
  · rw [hworker]
    exact Grows.refl _

end Update

/-! ## The events -/

section Events

variable {issued : E → Set ℕ} {b : Build} {s : Arena E}

theorem ArenaInv.workerStep (h : ArenaInv issued s) {ev : WorkerEvent E}
    (hev : EventIssuesIds issued b ev) (hfresh : Fresh b s (.worker ev)) :
    ArenaInv issued (stepArena b s (.worker ev)) := by
  have hholds {sandboxId : String} {engineCarId : ℕ} {owner : ℕ ⊕ ℕ}
      (hh : Holds (stepArena b s (.worker ev)) sandboxId engineCarId owner) :
      Holds s sandboxId engineCarId owner := by
    cases hh with
    | car htarget hengine => exact .car htarget hengine
    | request hq hcar => exact .request hq hcar
  refine ⟨h.sound.stepEvent ev, ?_, ?_, h.joining, h.single, h.sandboxOnly⟩
  · intro sandboxId engineCarId owner slot' hh hslot'
    cases hslot : s.worker.sandboxEngines.lookup sandboxId with
    | some slot =>
        exact stepEvent_grows h.sound hev sandboxId slot slot' hslot hslot'
          (h.issued (hholds hh) hslot)
    | none =>
        -- the world is new, so nothing may refer to its sandbox
        have hnot := Finmap.lookup_eq_none.mp hslot
        have hmem : sandboxId ∈ (stepEvent b s.worker ev).sandboxEngines :=
          Finmap.mem_of_lookup_eq_some hslot'
        exact (hfresh sandboxId hnot hmem engineCarId owner (hholds hh)).elim
  · intro sandboxId engineCarId owner owner' hh hh'
    exact h.unique (hholds hh) (hholds hh')

theorem ArenaInv.joinSpawn (h : ArenaInv issued s) (id : ℕ) {env : EngineEnv E}
    (hapi : Runtime.IssuesIds issued b env.api) :
    ArenaInv issued (stepArena b s (.joinSpawn id env)) := by
  simp only [stepArena]
  split
  · rename_i sandboxId hrequest
    have hcommanded := spawnCarIn_commanded b env s.worker (.sandbox sandboxId)
    cases hspawn : spawnCarIn b env s.worker (.sandbox sandboxId) with
    | mk w' result =>
        rw [hspawn] at hcommanded
        cases result with
        | error err => exact h.command hapi rfl (Shrunk.refl _) hcommanded (by simp)
        | ok engineCarId =>
            obtain ⟨slot, slot', hslot, hslot', hunissued, hissued⟩ :=
              spawnCarIn_issues hapi hspawn
            have hreq : ({ s.set id (some (.spawned sandboxId engineCarId)) with
                worker := w' } : Arena E).requests =
                Function.update s.requests id (some (.spawned sandboxId engineCarId)) := rfl
            -- every older holder of the sandbox has an id the world had issued
            have hcases {sid : String} {e : ℕ} {owner : ℕ ⊕ ℕ}
                (hh : Holds { s.set id (some (.spawned sandboxId engineCarId)) with
                  worker := w' } sid e owner) :
                Holds s sid e owner ∨ sid = sandboxId ∧ e = engineCarId ∧ owner = .inr id := by
              rcases holds_update hreq (Shrunk.refl _) hh with hold | ⟨q, hq, hcar, howner⟩
              · exact Or.inl hold
              · cases hq
                cases hcar
                exact Or.inr ⟨rfl, rfl, howner⟩
            have hnone {owner : ℕ ⊕ ℕ} : ¬ Holds s sandboxId engineCarId owner :=
              fun hold => hunissued (h.issued hold hslot)
            refine ⟨hcommanded.sound h.sound, ?_, ?_, ?_, ?_, h.sandboxOnly⟩
            · intro sid e owner new hh hnew
              rcases hcases hh with hold | ⟨rfl, rfl, rfl⟩
              · have hmem : sid ∈ s.worker.sandboxEngines := by
                  rw [← Finmap.mem_keys, ← hcommanded.worldTouch.sandbox, Finmap.mem_keys]
                  exact Finmap.mem_of_lookup_eq_some hnew
                obtain ⟨old, hold'⟩ := Finmap.mem_iff.mp hmem
                exact hcommanded.grows hapi sid old new hold' hnew (h.issued hold hold')
              · obtain rfl : slot' = new := Option.some.inj (hslot'.symm.trans hnew)
                exact hissued
            · intro sid e owner owner' hh hh'
              rcases hcases hh with hold | ⟨rfl, rfl, rfl⟩
              · rcases hcases hh' with hold' | ⟨rfl, rfl, rfl⟩
                · exact h.unique hold hold'
                · exact (hnone hold).elim
              · rcases hcases hh' with hold' | ⟨-, -, rfl⟩
                · exact (hnone hold').elim
                · rfl
            · refine joining_update hreq (fun _ hq hj => h.joining hq hj) fun hr hj => ?_
              cases hr
              cases hj
            · intro a a' q q' j j' hq hq' hj hj' heq
              refine h.single_update hreq (fun q j hr hj => ?_) hq hq' hj hj' heq
              cases hr
              cases hj
  · exact h

theorem holds_inr {id : ℕ} {sandboxId : String} {engineCarId : ℕ}
    (h : Holds s sandboxId engineCarId (.inr id)) : ∃ q, s.requests id = some q ∧
      q.publicCar = none := by
  generalize howner : (Sum.inr id : ℕ ⊕ ℕ) = owner at h
  cases h with
  | car htarget hengine => cases howner
  | @request other q hq hcar =>
      rw [Request.owner] at howner
      split at howner
      · cases howner
      · rename_i hpublic
        cases howner
        exact ⟨q, hq, hpublic⟩

theorem ArenaInv.joinAllocate (h : ArenaInv issued s) (id : ℕ)
    (hfresh : Fresh b s (.joinAllocate id)) :
    ArenaInv issued (stepArena b s (.joinAllocate id)) := by
  simp only [stepArena]
  split
  · rename_i sandboxId engineCarId hrequest
    have hheld : Holds s sandboxId engineCarId (.inr id) := .request hrequest rfl
    obtain ⟨htarget, hengine, hrequests⟩ :
        s.store.nextPublicCarId ∉ s.store.carTargets ∧
          s.store.nextPublicCarId ∉ s.store.carEngineIds ∧
          ¬ ∃ id q, s.requests id = some q ∧ q.publicCar = some s.store.nextPublicCarId := by
      simpa only [Fresh, Refers, not_or] using hfresh
    have hreq : ({ s.set id (some (.allocated sandboxId engineCarId s.store.nextPublicCarId)) with
        store := s.store.allocatePublicCarId.2 } : Arena E).requests =
        Function.update s.requests id
          (some (.allocated sandboxId engineCarId s.store.nextPublicCarId)) := rfl
    have hstore : Shrunk s.store s.store.allocatePublicCarId.2 :=
      ⟨fun _ => Or.inl rfl, fun _ => Or.inl rfl⟩
    -- the pair passes from the request to its public car; nobody else had it
    have hcases {sid : String} {e : ℕ} {owner : ℕ ⊕ ℕ}
        (hh : Holds { s.set id (some (.allocated sandboxId engineCarId
          s.store.nextPublicCarId)) with store := s.store.allocatePublicCarId.2 } sid e owner) :
        (Holds s sid e owner ∧ ¬ (sid = sandboxId ∧ e = engineCarId)) ∨
          sid = sandboxId ∧ e = engineCarId ∧ owner = .inl s.store.nextPublicCarId := by
      rcases holds_update hreq hstore hh with hold | ⟨q, hq, hcar, howner⟩
      · refine Or.inl ⟨hold, ?_⟩
        rintro ⟨rfl, rfl⟩
        obtain rfl := h.unique hheld hold
        obtain ⟨q, hq, hpublic⟩ := holds_inr hh
        have heq : q = .allocated sid e s.store.nextPublicCarId := by
          simpa [Arena.set] using hq.symm
        subst heq
        cases hpublic
      · cases hq
        cases hcar
        exact Or.inr ⟨rfl, rfl, howner⟩
    refine ⟨h.sound, ?_, ?_, ?_, ?_, h.sandboxOnly⟩
    · intro sid e owner slot hh hslot
      rcases hcases hh with ⟨hold, -⟩ | ⟨rfl, rfl, -⟩
      · exact h.issued hold hslot
      · exact h.issued hheld hslot
    · intro sid e owner owner' hh hh'
      rcases hcases hh with ⟨hold, hne⟩ | ⟨rfl, rfl, rfl⟩
      · rcases hcases hh' with ⟨hold', -⟩ | ⟨hsid, he, -⟩
        · exact h.unique hold hold'
        · exact (hne ⟨hsid, he⟩).elim
      · rcases hcases hh' with ⟨-, hne⟩ | ⟨-, -, rfl⟩
        · exact (hne ⟨rfl, rfl⟩).elim
        · rfl
    · refine joining_update hreq (fun _ hq hj => ?_) fun hr hj => ?_
      · exact hstore.joinOk (h.joining hq hj)
      · cases hr
        cases hj
        refine ⟨fun target hlookup => ?_, fun e hlookup => ?_, by simp⟩
        · exact (htarget (Finmap.mem_of_lookup_eq_some hlookup)).elim
        · exact (hengine (Finmap.mem_of_lookup_eq_some hlookup)).elim
    · intro a a' q q' j j' hq hq' hj hj' heq
      refine h.single_fresh hreq (fun hr hj => ?_) hq hq' hj hj' heq
      cases hr
      cases hj
      -- no other join has the new public id
      intro a q₀ j₀ hq₀ hj₀ hcar
      refine hrequests ⟨a, q₀, hq₀, ?_⟩
      rw [(joining_publicCar hj₀).2, hcar]
  · exact h

/-- A write of a join leaves every target and engine id alone, or sets the
car's own to the join's. -/
theorem apply_lookup (store : RaceRuntimeStore) {op : StoreOp} {sandboxId : String}
    {engineCarId : ℕ} (hfits : op.Fits sandboxId engineCarId) (publicCarId c : ℕ) :
    ((op.apply store publicCarId).carTargets.lookup c = store.carTargets.lookup c ∨
      c = publicCarId ∧
        (op.apply store publicCarId).carTargets.lookup c = some (.sandbox sandboxId)) ∧
    ((op.apply store publicCarId).carEngineIds.lookup c = store.carEngineIds.lookup c ∨
      c = publicCarId ∧
        (op.apply store publicCarId).carEngineIds.lookup c = some engineCarId) := by
  cases op with
  | carEngineId e =>
      obtain rfl : e = engineCarId := hfits
      refine ⟨Or.inl rfl, ?_⟩
      by_cases hc : c = publicCarId
      · subst hc
        exact Or.inr ⟨rfl, Finmap.lookup_insert _⟩
      · exact Or.inl (Finmap.lookup_insert_of_ne _ hc)
  | carTarget target =>
      obtain rfl : target = .sandbox sandboxId := hfits
      refine ⟨?_, Or.inl rfl⟩
      by_cases hc : c = publicCarId
      · subst hc
        exact Or.inr ⟨rfl, Finmap.lookup_insert _⟩
      · exact Or.inl (Finmap.lookup_insert_of_ne _ hc)
  | instanceCar uuid => exact ⟨Or.inl rfl, Or.inl rfl⟩
  | carOwner uuid => exact ⟨Or.inl rfl, Or.inl rfl⟩
  | setCarIdentity sandboxId identity => exact ⟨Or.inl rfl, Or.inl rfl⟩
  | knownCar => exact ⟨Or.inl rfl, Or.inl rfl⟩
  | lastClientSeq => exact ⟨Or.inl rfl, Or.inl rfl⟩

theorem ArenaInv.joinStore (h : ArenaInv issued s) (id : ℕ) :
    ArenaInv issued (stepArena b s (.joinStore id)) := by
  simp only [stepArena]
  split
  · rename_i sandboxId engineCarId publicCarId op todo hrequest
    have hjoin := h.joining hrequest rfl
    have hfits : op.Fits sandboxId engineCarId := hjoin.todo op List.mem_cons_self
    have hheld : Holds s sandboxId engineCarId (.inl publicCarId) := .request hrequest rfl
    have hlookup := apply_lookup s.store hfits publicCarId
    have hreq : ({ s.set id (some (.registering sandboxId engineCarId publicCarId todo)) with
        store := op.apply s.store publicCarId } : Arena E).requests =
        Function.update s.requests id
          (some (.registering sandboxId engineCarId publicCarId todo)) := rfl
    have htarget {c : ℕ} {target : EngineCommandTarget}
        (hc : (op.apply s.store publicCarId).carTargets.lookup c = some target) :
        s.store.carTargets.lookup c = some target ∨
          c = publicCarId ∧ target = .sandbox sandboxId := by
      rcases (hlookup c).1 with hsame | ⟨hcar, hset⟩
      · exact Or.inl (hsame ▸ hc)
      · exact Or.inr ⟨hcar, Option.some.inj (hc.symm.trans hset)⟩
    have hengine {c e : ℕ} (hc : (op.apply s.store publicCarId).carEngineIds.lookup c = some e) :
        s.store.carEngineIds.lookup c = some e ∨ c = publicCarId ∧ e = engineCarId := by
      rcases (hlookup c).2 with hsame | ⟨hcar, hset⟩
      · exact Or.inl (hsame ▸ hc)
      · exact Or.inr ⟨hcar, Option.some.inj (hc.symm.trans hset)⟩
    have hholds {sid : String} {e : ℕ} {owner : ℕ ⊕ ℕ}
        (hh : Holds { s.set id (some (.registering sandboxId engineCarId publicCarId todo)) with
          store := op.apply s.store publicCarId } sid e owner) : Holds s sid e owner := by
      cases hh with
      | @car c hct hce =>
          by_cases hc : c = publicCarId
          · -- both entries are the join's own
            subst hc
            obtain rfl : sandboxId = sid := by
              rcases htarget hct with hold | ⟨-, heq⟩
              · have heq := hjoin.target _ hold
                cases heq
                rfl
              · cases heq
                rfl
            obtain rfl : engineCarId = e := by
              rcases hengine hce with hold | ⟨-, heq⟩
              · exact (hjoin.engineId _ hold).symm
              · exact heq.symm
            exact hheld
          · refine .car ?_ ?_
            · exact (htarget hct).resolve_right fun hright => hc hright.1
            · exact (hengine hce).resolve_right fun hright => hc hright.1
      | @request other q hq hcar =>
          rw [hreq] at hq
          by_cases ho : other = id
          · subst ho
            rw [Function.update_self] at hq
            cases hq
            cases hcar
            exact hheld
          · rw [Function.update_of_ne ho] at hq
            exact .request hq hcar
    refine ⟨h.sound, fun hh hslot => h.issued (hholds hh) hslot,
      fun hh hh' => h.unique (hholds hh) (hholds hh'), ?_, ?_, ?_⟩
    · refine joining_update hreq (fun hne hq hj => ?_) fun hr hj => ?_
      · rename_i a q j
        -- another join has another public car
        have hcar : j.publicCarId ≠ publicCarId := fun heq =>
          hne (h.single hq hrequest hj rfl heq)
        have hold := h.joining hq hj
        refine ⟨fun target hc => hold.target target ?_, fun e hc => hold.engineId e ?_, hold.todo⟩
        · exact (htarget hc).resolve_right fun hright => hcar hright.1
        · exact (hengine hc).resolve_right fun hright => hcar hright.1
      · cases hr
        cases hj
        refine ⟨fun target hc => ?_, fun e hc => ?_, fun op hop => hjoin.todo op ?_⟩
        · exact (htarget hc).elim (hjoin.target target) And.right
        · exact (hengine hc).elim (hjoin.engineId e) And.right
        · exact List.mem_cons_of_mem _ hop
    · intro a a' q q' j j' hq hq' hj hj' heq
      refine h.single_update hreq (fun q j hr hj => ?_) hq hq' hj hj' heq
      cases hr
      cases hj
      exact ⟨_, _, hrequest, rfl, rfl⟩
    · intro c target hc
      rcases htarget hc with hold | ⟨-, heq⟩
      · exact h.sandboxOnly hold
      · exact ⟨sandboxId, heq⟩
  · exact h.quiet rfl rfl (Shrunk.refl _) (by simp)
  · exact h

theorem joinOps_fits (sandboxId : String) (engineCarId : ℕ) (identity : RuntimeCarIdentity) :
    ∀ op ∈ joinOps sandboxId engineCarId identity, op.Fits sandboxId engineCarId := by
  rw [joinOps]
  cases identity.instanceUuid <;> simp [StoreOp.Fits]

theorem ArenaInv.joinIdentify (h : ArenaInv issued s) (id : ℕ)
    (identity : Option RuntimeCarIdentity) :
    ArenaInv issued (stepArena b s (.joinIdentify id identity)) := by
  simp only [stepArena]
  split
  · rename_i sandboxId engineCarId publicCarId hrequest
    refine h.quiet rfl rfl (Shrunk.refl _) fun q hq => ?_
    obtain ⟨identity, -, rfl⟩ := Option.map_eq_some_iff.mp hq
    have hold := h.joining hrequest rfl
    have hheld : Holds s sandboxId engineCarId (.inl publicCarId) := .request hrequest rfl
    refine ⟨fun hcar => ?_, fun hj => ?_⟩
    · cases hcar
      exact hheld
    cases hj
    exact ⟨⟨hold.target, hold.engineId, joinOps_fits sandboxId engineCarId identity⟩,
      _, _, hrequest, rfl, rfl⟩
  · exact h

/-- What is left of a clean-up holds on to its car. -/
theorem continues_closing {id c e : ℕ} {target : EngineCommandTarget} {despawn remove : Bool}
    {q₀ q : Request} (hq₀ : s.requests id = some q₀)
    (hcar : q₀.car = (Request.closing c target e despawn remove).car)
    (hpublic : q₀.publicCar = some c) (hq : closingRequest c target e despawn remove = some q) :
    Continues s id q := by
  rw [closingRequest] at hq
  split at hq
  · cases hq
    refine continues_of_car hq₀ (fun x hx => hcar.trans hx) ?_ rfl
    unfold Request.owner
    rw [hpublic]
    rfl
  · cases hq

theorem closing_car (c e c' e' : ℕ) (target : EngineCommandTarget) (d r d' r' : Bool)
    (he : e = e') : (Request.closing c target e d r).car =
      (Request.closing c' target e' d' r').car := by
  subst he
  cases target <;> rfl

theorem ArenaInv.step (h : ArenaInv issued s) {ev : ArenaEvent E} (hev : ev.IssuesIds issued b)
    (hfresh : Fresh b s ev) : ArenaInv issued (stepArena b s ev) := by
  cases ev with
  | worker ev => exact h.workerStep hev hfresh
  | joinSpawn id env => exact h.joinSpawn id hev
  | joinAllocate id => exact h.joinAllocate id hfresh
  | joinStore id => exact h.joinStore id
  | joinIdentify id identity => exact h.joinIdentify id identity
  | joinSelect id requested =>
      simp only [stepArena]
      split
      · split
        · refine h.quiet rfl rfl (Shrunk.refl _) fun q hq => ?_
          cases hq
          refine ⟨fun hcar => ?_, fun hj => ?_⟩
          · cases hcar
          · cases hj
        · exact h
      · exact h
  | joinPlace id env spawnMode startSlot =>
      simp only [stepArena]
      split
      · rename_i sandboxId engineCarId hrequest
        refine h.command hev rfl (Shrunk.refl _)
          (applyLocalSpawnMode_commanded b env _ _ _ spawnMode startSlot) fun q hq => ?_
        cases hq
        split <;> exact continues_of_car hrequest (fun x hx => hx) rfl rfl
      · exact h
  | joinDespawn id env =>
      simp only [stepArena]
      split
      · exact h.command hev rfl (Shrunk.refl _) (despawnCarIn_commanded b env _ _ _) (by simp)
      · exact h
  | streamOpen id publicCarId =>
      simp only [stepArena]
      split
      · split
        · rename_i target engineCarId htarget hengine
          refine h.quiet rfl rfl (Shrunk.refl _) fun q hq => ?_
          cases hq
          obtain ⟨sandboxId, rfl⟩ := h.sandboxOnly htarget
          refine ⟨fun hcar => ?_, fun hj => ?_⟩
          · cases hcar
            exact .car htarget hengine
          · cases hj
        · exact h
      · exact h
  | streamEnd id =>
      simp only [stepArena]
      split
      · rename_i publicCarId target engineCarId hrequest
        have hcar : (Request.streaming publicCarId target engineCarId).car =
            (Request.closing publicCarId target engineCarId true true).car := by
          cases target <;> rfl
        split
        · exact h.quiet rfl rfl (Shrunk.refl _) (by simp)
        · exact h.quiet rfl rfl (Shrunk.refl _) fun q hq => continues_closing hrequest hcar rfl hq
        · exact h.quiet rfl rfl (Shrunk.refl _) fun q hq => continues_closing hrequest hcar rfl hq
      · exact h
  | cleanupDespawn id env =>
      simp only [stepArena]
      split
      · rename_i hrequest
        exact h.command hev rfl (Shrunk.refl _) (despawnCarIn_commanded b env _ _ _) fun q hq =>
          continues_closing hrequest (closing_car _ _ _ _ _ _ _ _ _ rfl) rfl hq
      · exact h
  | cleanupExpire id =>
      simp only [stepArena]
      split
      · rename_i hrequest
        exact h.quiet rfl rfl (Shrunk.refl _) fun q hq =>
          continues_closing hrequest (closing_car _ _ _ _ _ _ _ _ _ rfl) rfl hq
      · exact h
  | cleanupRemove id =>
      simp only [stepArena]
      split
      · rename_i hrequest
        exact h.quiet rfl rfl (removeCar_shrunk _ _) fun q hq =>
          continues_closing hrequest (closing_car _ _ _ _ _ _ _ _ _ rfl) rfl hq
      · exact h
  | collect env cache nowMs publicCarId =>
      have hcollected := collectCar_collected b env (⟨s.worker, s.store, cache,
        { RuntimeFrame.default with serverTimeMs := nowMs }⟩ : Hub E) publicCarId
      have hself : s.requests = Function.update s.requests 0 (s.requests 0) :=
        (Function.update_eq_self 0 s.requests).symm
      exact h.command hev hself hcollected.store.shrunk hcollected.worker
        fun q hq => continues_self h hq
  | forget publicCarId =>
      have hself : s.requests = Function.update s.requests 0 (s.requests 0) :=
        (Function.update_eq_self 0 s.requests).symm
      exact h.quiet rfl hself (removeCar_shrunk _ _) fun q hq => continues_self h hq

end Events

/-! ## Whole runs -/

/-- No two known cars have one target and one engine id. -/
def Injective (s : Arena E) : Prop :=
  ∀ c c' target engineCarId, c ∈ s.store.knownCars → c' ∈ s.store.knownCars →
    s.store.carTargets.lookup c = some target → s.store.carTargets.lookup c' = some target →
    s.store.carEngineIds.lookup c = some engineCarId →
    s.store.carEngineIds.lookup c' = some engineCarId → c = c'

/-- The engine car that a clean-up is about to despawn belongs to no other
public car, and to no join. -/
def CleanupSafe (s : Arena E) : ArenaEvent E → Prop
  | .cleanupDespawn id _ => ∀ publicCarId sandboxId engineCarId remove,
      s.requests id = some (.closing publicCarId (.sandbox sandboxId) engineCarId true remove) →
        ∀ owner, Holds s sandboxId engineCarId owner → owner = .inl publicCarId
  | _ => True

theorem ArenaInv.injective {issued : E → Set ℕ} {s : Arena E} (h : ArenaInv issued s) :
    Injective s := by
  intro c c' target engineCarId _ _ htarget htarget' hengine hengine'
  obtain ⟨sandboxId, rfl⟩ := h.sandboxOnly htarget
  exact Sum.inl.inj (h.unique (.car htarget hengine) (.car htarget' hengine'))

theorem ArenaInv.cleanupSafe {issued : E → Set ℕ} {s : Arena E} (h : ArenaInv issued s)
    (ev : ArenaEvent E) : CleanupSafe s ev := by
  cases ev with
  | cleanupDespawn id env =>
      intro publicCarId sandboxId engineCarId remove hrequest owner hold
      exact h.unique hold (.request hrequest rfl)
  | _ => trivial

/-- As long as no sandbox is activated again while something still refers
to it, no two known cars share target and engine id, and no clean-up
despawns the engine car of another public car. -/
theorem car_identity_injective (issued : E → Set ℕ) (b : Build) (evs : List (ArenaEvent E))
    (hengine : ∀ ev ∈ evs, ev.IssuesIds issued b)
    (hfresh : Along (Fresh b) (stepArena b) (Arena.initial E) evs) :
    (∀ n, Injective (stateAt (stepArena b) (Arena.initial E) evs n)) ∧
      Along CleanupSafe (stepArena b) (Arena.initial E) evs := by
  have hrun := hfresh.and_mem hengine
  have hstep (s : Arena E) (ev : ArenaEvent E) (h : ArenaInv issued s)
      (hev : ev.IssuesIds issued b ∧ Fresh b s ev) : ArenaInv issued (stepArena b s ev) :=
    h.step hev.1 hev.2
  refine ⟨fun n => ?_, ?_⟩
  · exact (hrun.invariant_at hstep (arenaInv_initial issued) n).injective
  · exact hrun.of_invariant hstep (fun _ ev h _ => h.cleanupSafe ev) (arenaInv_initial issued)

/-! ## A sandbox that comes back -/

/-- One join from selection to its last write. -/
def joinEvents (id : ℕ) : List (ArenaEvent CarWorld) :=
  [.joinSelect id "s", .joinSpawn id CarWorld.env,
    .joinPlace id CarWorld.env (some .startLine) (fun n => n), .joinAllocate id,
    .joinIdentify id (some .default)] ++ List.replicate 6 (.joinStore id)

def activation (revision : ℕ) : ArenaEvent CarWorld :=
  .worker (.command CarWorld.env
    (.switchRuntime revision .sandbox "track" (some "s") (some .noon) none))

def deactivation (revision : ℕ) : ArenaEvent CarWorld :=
  .worker (.command CarWorld.env (.deactivateSandbox revision "s"))

theorem joinEvents_issuesIds (id : ℕ) :
    ∀ ev ∈ joinEvents id, ev.IssuesIds CarWorld.numbered .standalone := by
  have hapi := carWorld_issuesIds .standalone
  intro ev hev
  simp only [joinEvents, List.replicate, List.mem_append, List.mem_cons, List.not_mem_nil,
    or_false] at hev
  rcases hev with (rfl | rfl | rfl | rfl | rfl) | rfl | rfl | rfl | rfl | rfl | rfl <;>
    first
    | exact hapi
    | trivial

theorem worker_issuesIds (cmd : EngineCommand) :
    (ArenaEvent.worker (.command CarWorld.env cmd)).IssuesIds CarWorld.numbered .standalone :=
  carWorld_issuesIds .standalone

/-- The request whose step the event is. -/
def ArenaEvent.request : ArenaEvent E → Option ℕ
  | .worker _ | .collect _ _ _ _ | .forget _ => none
  | .joinSelect id _ | .joinSpawn id _ | .joinPlace id _ _ _ | .joinDespawn id _
  | .joinAllocate id | .joinIdentify id _ | .joinStore id | .streamOpen id _ | .streamEnd id
  | .cleanupDespawn id _ | .cleanupExpire id | .cleanupRemove id => some id

theorem requests_step_of_ne {b : Build} {s : Arena E} {ev : ArenaEvent E} {id : ℕ}
    (h : ev.request ≠ some id) : (stepArena b s ev).requests id = s.requests id := by
  have hset (id' : ℕ) (hne : id' ≠ id) (r : Option Request) :
      (s.set id' r).requests id = s.requests id := by simp [Arena.set, hne.symm]
  cases ev with
  | worker | collect | forget => rfl
  | _ id' =>
      have hne : id' ≠ id := fun heq => h (congrArg some heq)
      simp only [stepArena]
      repeat' split
      all_goals
        first
        | exact hset id' hne _
        | rfl

/-- Nobody holds a car, or no sandbox is activated; a public id is new to
the store and to the requests 0 and 1. -/
def FreshHere (s : Arena CarWorld) : ArenaEvent CarWorld → Prop
  | .worker ev => (s.store.carTargets.keys = ∅ ∧ s.requests 0 = none ∧ s.requests 1 = none) ∨
      (stepEvent .standalone s.worker ev).sandboxEngines.keys ⊆ s.worker.sandboxEngines.keys
  | .joinAllocate _ => s.store.nextPublicCarId ∉ s.store.carTargets ∧
      s.store.nextPublicCarId ∉ s.store.carEngineIds ∧
      (s.requests 0).bind Request.publicCar ≠ some s.store.nextPublicCarId ∧
      (s.requests 1).bind Request.publicCar ≠ some s.store.nextPublicCarId
  | _ => True

instance (s : Arena CarWorld) (ev : ArenaEvent CarWorld) : Decidable (FreshHere s ev) := by
  unfold FreshHere
  split <;> infer_instance

theorem FreshHere.fresh {s : Arena CarWorld} {ev : ArenaEvent CarWorld} (h : FreshHere s ev)
    (hrest : ∀ id, 2 ≤ id → s.requests id = none) : Fresh .standalone s ev := by
  have hcases {id : ℕ} {q : Request} (hq : s.requests id = some q) : id = 0 ∨ id = 1 := by
    by_contra hid
    rw [hrest id (by omega)] at hq
    cases hq
  cases ev with
  | worker ev =>
      intro sandboxId hbefore hafter engineCarId owner hold
      rcases h with ⟨htargets, hzero, hone⟩ | hsubset
      · cases hold with
        | @car publicCarId htarget hengine =>
            have hmem := Finmap.mem_keys.mpr (Finmap.mem_of_lookup_eq_some htarget)
            rw [htargets] at hmem
            cases hmem
        | request hq hcar =>
            rcases hcases hq with rfl | rfl
            · cases hzero.symm.trans hq
            · cases hone.symm.trans hq
      · exact hbefore (Finmap.mem_keys.mp (hsubset (Finmap.mem_keys.mpr hafter)))
  | joinAllocate id =>
      obtain ⟨htarget, hengine, hzero, hone⟩ := h
      rintro (htarget' | hengine' | ⟨id, q, hq, hcar⟩)
      · exact htarget htarget'
      · exact hengine hengine'
      · rcases hcases hq with rfl | rfl
        · exact hzero (by rw [hq, Option.bind_some, hcar])
        · exact hone (by rw [hq, Option.bind_some, hcar])
  | _ => trivial

/-- Two cars are in the store, and both have a stream. -/
def bothJoined : List (ArenaEvent CarWorld) :=
  [activation 0] ++ joinEvents 0 ++ joinEvents 1 ++ [.streamOpen 0 1, .streamOpen 1 2]

/-- The first car is cleaned up while the world is there, the second one
after it is gone; then the sandbox comes back and is joined again. -/
def returning : List (ArenaEvent CarWorld) :=
  bothJoined ++ [.streamEnd 0, .cleanupDespawn 0 CarWorld.env, .cleanupRemove 0, deactivation 1,
    .streamEnd 1, .cleanupDespawn 1 CarWorld.env, .cleanupRemove 1, activation 2] ++ joinEvents 0

theorem returning_issuesIds :
    ∀ ev ∈ returning, ev.IssuesIds CarWorld.numbered .standalone := by
  intro ev hev
  simp only [returning, bothJoined, List.mem_append, List.mem_cons, List.not_mem_nil,
    or_false] at hev
  rcases hev with ((((rfl | hjoin) | hjoin) | rfl | rfl) |
    rfl | rfl | rfl | rfl | rfl | rfl | rfl | rfl) | hjoin
  all_goals
    first
    | exact joinEvents_issuesIds _ ev hjoin
    | exact carWorld_issuesIds .standalone
    | trivial

theorem returning_fresh :
    Along (Fresh .standalone) (stepArena .standalone) (Arena.initial CarWorld) returning := by
  have hhere : Along FreshHere (stepArena .standalone) (Arena.initial CarWorld) returning := by
    decide +kernel
  have hrequests : ∀ ev ∈ returning, ∀ id ∈ ev.request, id < 2 := by decide +kernel
  refine (hhere.and_mem hrequests).of_invariant
    (I := fun s => ∀ id, 2 ≤ id → s.requests id = none) (fun s ev hs hev id hid => ?_)
    (fun s ev hs hev => hev.2.fresh hs) fun _ _ => rfl
  rw [requests_step_of_ne fun hev' => absurd (hev.1 id hev') (not_lt.mpr hid)]
  exact hs id hid

theorem returned_identity_injective :
    (((bothJoined.foldl (stepArena .standalone)
        (Arena.initial CarWorld)).store.carEngineIds.lookup 1 = some 1 ∧
      (bothJoined.foldl (stepArena .standalone)
        (Arena.initial CarWorld)).store.carEngineIds.lookup 2 = some 2) ∧
      (returning.foldl (stepArena .standalone)
        (Arena.initial CarWorld)).store.carEngineIds.lookup 3 = some 1 ∧
      (returning.foldl (stepArena .standalone)
        (Arena.initial CarWorld)).store.carEngineIds.lookup 1 = none) ∧
    (∀ n, Injective (stateAt (stepArena .standalone) (Arena.initial CarWorld) returning n)) ∧
      Along CleanupSafe (stepArena .standalone) (Arena.initial CarWorld) returning :=
  ⟨⟨⟨by decide +kernel, by decide +kernel⟩, by decide +kernel, by decide +kernel⟩,
    car_identity_injective CarWorld.numbered .standalone returning returning_issuesIds
      returning_fresh⟩

/-- A sandbox is joined, taken down and activated again, and joined once
more: its second world numbers cars from one, like the first, and the
first car is still in the store. -/
def rejoining : List (ArenaEvent CarWorld) :=
  [activation 0] ++ joinEvents 0 ++ [deactivation 1, activation 2] ++ joinEvents 0

theorem rejoined_cars_clash :
    (∀ ev ∈ rejoining, ev.IssuesIds CarWorld.numbered .standalone) ∧
      ¬ Injective (rejoining.foldl (stepArena .standalone) (Arena.initial CarWorld)) := by
  refine ⟨fun ev hev => ?_, fun hinj => ?_⟩
  · simp only [rejoining, List.mem_append, List.mem_cons, List.not_mem_nil, or_false] at hev
    rcases hev with ((rfl | hjoin) | rfl | rfl) | hjoin
    · exact worker_issuesIds _
    · exact joinEvents_issuesIds 0 ev hjoin
    · exact worker_issuesIds _
    · exact worker_issuesIds _
    · exact joinEvents_issuesIds 0 ev hjoin
  · have hclash := hinj 1 2 (.sandbox "s") 1 (by decide +kernel) (by decide +kernel)
      (by decide +kernel) (by decide +kernel) (by decide +kernel) (by decide +kernel)
    exact absurd hclash (by decide)

end HackArena.Services
