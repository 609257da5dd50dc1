import HackArena.Local.QuietCalls
import HackArena.Runtime.ActiveSandboxes
import HackArena.Runtime.WorkerRevision

/-!
# How many local sandboxes may be active

Nothing but a switch adds a sandbox to those that are active. A switch
carries the revision of the state on which the limit was checked, and is
refused at any other revision; so the check still holds when the switch is
made, until the counter of revisions has come to its end.
-/

namespace HackArena.Runtime

variable {E : Type}

theorem leaveSandbox_length_le (w : Worker E) (sandboxId : String) :
    (w.leaveSandbox sandboxId).state.activeSandboxes.length ≤ w.state.activeSandboxes.length := by
  rw [leaveSandbox_activeSandboxes]
  exact List.length_eraseP_le

/-- The updates that leave no world behind add no sandbox either. -/
theorem Tidy.length_le {w w' : Worker E} (h : Tidy w w') :
    w'.state.activeSandboxes.length ≤ w.state.activeSandboxes.length := by
  cases h with
  | enterOfficialRace slot mapId preset => exact Nat.zero_le _
  | leaveSandbox sandboxId => exact leaveSandbox_length_le w sandboxId
  | enterLocalRace slot raceId mapId preset hidle =>
      exact (congrArg List.length (enterLocalRace_pending w slot raceId mapId preset).2).le
  | leaveLocalRace raceId hactive =>
      exact (congrArg List.length (leaveLocalRace_pending w raceId).2).le
  | bump => exact Nat.le_refl _
  | overrideTimeOfDay sandboxId preset => exact (KeyedList.length_updateFirst).le
  | putPending p hpayload hinactive => exact Nat.le_refl _
  | dropPending sandboxId => exact Nat.le_refl _

/-- The state without its weather shows which sandboxes are active. -/
theorem map_sandboxId_of_stripWeather {s t : EngineRuntimeState}
    (h : s.stripWeather = t.stripWeather) :
    s.activeSandboxes.map (·.sandboxId) = t.activeSandboxes.map (·.sandboxId) := by
  have hids := congrArg (fun u => u.activeSandboxes.map (·.sandboxId)) h
  simpa [EngineRuntimeState.stripWeather, Function.comp_def] using hids

theorem length_of_stripWeather {s t : EngineRuntimeState} (h : s.stripWeather = t.stripWeather) :
    s.activeSandboxes.length = t.activeSandboxes.length := by
  have hlength := congrArg List.length (map_sandboxId_of_stripWeather h)
  simpa using hlength

theorem isSandboxActive_of_stripWeather {s t : EngineRuntimeState}
    (h : s.stripWeather = t.stripWeather) (sandboxId : String) :
    isSandboxActive s sandboxId = isSandboxActive t sandboxId := by
  have hany := congrArg (List.any · fun id => decide (id = sandboxId))
    (map_sandboxId_of_stripWeather h)
  simpa [isSandboxActive, List.any_map, Function.comp_def] using hany

/-- The number of active sandboxes after a sandbox has been admitted. -/
theorem enterSandbox_length {w : Worker E} {sandboxId : String}
    (hinactive : isSandboxActive w.state sandboxId = false) (slot : EngineWorldSlot E)
    (mapId : String) (preset : EngineRuntimeTimeOfDayPreset) :
    (w.enterSandbox slot sandboxId mapId preset).state.activeSandboxes.length =
      w.state.activeSandboxes.length + 1 := by
  have hnew := isSandboxActive_eq_false.mp hinactive
  have hupsert := KeyedList.upsert_of_notMem
    (x := (⟨sandboxId, mapId, preset, none⟩ : EngineActiveSandboxState)) hnew
  exact (congrArg List.length hupsert).trans List.length_append

end HackArena.Runtime

namespace HackArena.Local

open Boink GuardedRun HackArena.Runtime HackArena.Services SandboxConfig Prog

variable {E : Type}

/-! ## What a call does to the worker -/

/-- A call that does not switch touches the worker, or tidies it. -/
theorem handleEngine_cases (b : Build) (w : Worker E) (env : EngineEnv E) {op : LocalEngineOp}
    (hop : (LocalOp.engine op).switches = false) :
    Touch w (handleEngine b w env op).1 ∨ Tidy w (handleEngine b w env op).1 := by
  have htidy {rev : ℕ} {r : Outcome E EngineRuntimeState} (h : RefusedOr Tidy w rev r) :
      Touch w r.1 ∨ Tidy w r.1 :=
    h.fst.imp_left fun hsame => by
      rw [hsame]
      exact Touch.refl w
  cases op with
  | runtimeState => exact Or.inl (Touch.refl w)
  | switchRuntime => cases hop
  | setRuntimeTimeOfDay rev sandboxId preset =>
      exact htidy (setRuntimeTimeOfDay_cases w rev sandboxId preset)
  | deactivateSandbox rev sandboxId => exact htidy (deactivateSandbox_cases w rev sandboxId)
  | setSandboxWeather sandboxId weather weatherNow =>
      exact Or.inl (setWeather_touch env w sandboxId weather weatherNow)
  | activateLocalRace rev raceId mapId preset ghost =>
      exact htidy (activateLocalRace_cases b env w rev raceId mapId preset ghost)
  | deactivateLocalRace rev raceId => exact htidy (deactivateLocalRace_cases w rev raceId)
  | bumpRevision rev => exact htidy (bumpRevision_cases w rev)
  | slot target op => exact Or.inl (withTargetSlotMut_worldTouch target w _).touch

theorem worker_localExec_cases (b : Build) (s : LocalAdminState E) (input : LocalInput E)
    {op : LocalOp} (hop : op.switches = false) :
    Touch s.worker (localExec b s op input).1.worker ∨
      Tidy s.worker (localExec b s op input).1.worker := by
  cases op with
  | engine op =>
      change Touch s.worker (execEngine b s.worker input op).1 ∨
        Tidy s.worker (execEngine b s.worker input op).1
      unfold execEngine
      split
      · exact Or.inl (Touch.refl _)
      · exact handleEngine_cases b s.worker input.env hop
  | simulate target => exact Or.inl (simulateWorld_worldTouch s.worker _ target).touch
  | now | newId | ensureMapReady | activeCarCounts | localRaceCars | config | races | startedAt
  | weatherEvents | sendWeather => exact Or.inl (Touch.refl _)

/-- A switch to a sandbox does nothing, or admits the sandbox at the revision
that it expects. -/
theorem worker_switchRuntime_cases (b : Build) (s : LocalAdminState E) (input : LocalInput E)
    (rev : ℕ) (mapId sandboxId : String) (preset : Option EngineRuntimeTimeOfDayPreset)
    (ghost : Option GhostModeSettings) :
    (localExec b s (.engine (.switchRuntime rev .sandbox mapId (some sandboxId) preset ghost))
        input).1.worker = s.worker ∨
      (s.worker.state.revision = rev ∧ isSandboxActive s.worker.state sandboxId = false ∧
        ∃ slot t, (localExec b s (.engine (.switchRuntime rev .sandbox mapId (some sandboxId)
          preset ghost)) input).1.worker = (s.worker.enterSandbox slot sandboxId mapId t).bump) := by
  change (execEngine b s.worker input _).1 = s.worker ∨ (_ ∧ _ ∧ ∃ slot t,
    (execEngine b s.worker input _).1 = (s.worker.enterSandbox slot sandboxId mapId t).bump)
  unfold execEngine
  split
  · exact Or.inl rfl
  · by_cases hrev : s.worker.state.revision = rev
    · subst hrev
      rcases switchRuntime_sandbox_cases b input.env s.worker sandboxId mapId
        (preset.getD s.worker.state.timeOfDayPreset) ghost with
        ⟨slot, hadmitted, hswitch⟩ | ⟨err, -, hswitch⟩
      · exact Or.inr ⟨rfl, hadmitted.inactive, slot, _, congrArg Prod.fst hswitch⟩
      · exact Or.inl (congrArg Prod.fst hswitch)
    · refine Or.inl ?_
      change (switchRuntime b input.env s.worker rev .sandbox mapId (some sandboxId) _ ghost).1 = _
      rw [switchRuntime, if_pos hrev]
      rfl

/-! ## What a task has seen -/

/-- The runtime state that has been seen last. -/
def seenNext (seen : Option EngineRuntimeState) :
    (op : LocalOp) → op.Answer → Option EngineRuntimeState
  | .engine .runtimeState, .ok state => some state
  | _, _ => seen

/-- The state has the revision, and is below the limit unless the sandbox is
active in it. -/
structure RoomFor (limit rev : ℕ) (sandboxId : String) (state : EngineRuntimeState) : Prop where
  revision : state.revision = rev
  room : isSandboxActive state sandboxId = true ∨ state.activeSandboxes.length % 2 ^ 32 < limit

def LimitPermits (limit : ℕ) (seen : Option EngineRuntimeState) : LocalOp → Prop
  | .engine (.switchRuntime rev kind _ sandboxId _ _) =>
      kind = .sandbox ∧ ∃ id ∈ sandboxId, ∃ state ∈ seen, RoomFor limit rev id state
  | _ => True

/-- A sandbox is switched to when the state that has been seen leaves room
for it. -/
def limitProtocol (limit : ℕ) : Protocol LocalOp LocalOp.Answer (Option EngineRuntimeState) where
  init := none
  next := seenNext
  permits := LimitPermits limit

section Following

variable {α : Type} {limit : ℕ} {seen : Option EngineRuntimeState}

theorem limitPermits_of_switches {op : LocalOp} (h : op.switches = false) :
    LimitPermits limit seen op := by
  cases op with
  | engine op => cases op <;> trivial
  | _ => trivial

theorem limit_of_uses {p : LocalCall α} (h : p.run.Uses (·.switches = false)) :
    p.run.Follows (limitProtocol limit) (Either (fun _ _ => True) fun _ _ => True) seen := by
  have hfollows := h.follows_keeping (P := limitProtocol limit) (I := fun _ => True)
    (fun _ _ hop _ => ⟨limitPermits_of_switches hop, fun _ => trivial⟩) (s := seen) trivial
  refine Prog.Follows.mono hfollows fun result _ _ => ?_
  cases result <;> trivial

theorem limit_quiet {p : LocalCall α} (h : Quiet p) :
    p.run.Follows (limitProtocol limit) (Either (fun _ _ => True) fun _ _ => True) seen :=
  limit_of_uses (Uses.mono h fun _ => LocalOp.switches_of_quiet)

theorem limit_readRuntime :
    readRuntime.run.Follows (limitProtocol limit)
      (Either (fun runtime seen => seen = some runtime) fun _ _ => True) seen := by
  refine Prog.Follows.orFail ⟨trivial, fun answer => ?_⟩
  cases answer with
  | error err => trivial
  | ok runtime => rfl

theorem roomFor_of_checks {env : LocalAdminEnv} {runtime : EngineRuntimeState} {rev : ℕ}
    {sandboxId : String} (hrev : checkRevision runtime rev = .ok ())
    (hlimit : checkSandboxLimit env runtime sandboxId = .ok ()) :
    RoomFor env.maxActiveSandboxes rev sandboxId runtime := by
  refine ⟨?_, ?_⟩
  · by_contra hne
    rw [checkRevision, if_pos hne] at hrev
    cases hrev
  · by_cases hactive : isSandboxActive runtime sandboxId = true
    · exact Or.inl hactive
    · refine Or.inr (Nat.lt_of_not_le fun hfull => ?_)
      rw [checkSandboxLimit, if_pos ⟨Bool.eq_false_iff.mpr hactive, hfull⟩] at hlimit
      cases hlimit

theorem limit_checked (x : Except Status α) :
    (checked x).run.Follows (limitProtocol limit)
      (Either (fun a seen' => seen' = seen ∧ x = .ok a) fun _ _ => True) seen :=
  .ofExcept (fun _ _ => trivial) fun _ hx => ⟨rfl, hx⟩

theorem limit_switchRuntime {rev : ℕ} {mapId sandboxId : String}
    {preset : Option EngineRuntimeTimeOfDayPreset} {ghost : Option GhostModeSettings}
    {runtime : EngineRuntimeState} (hseen : seen = some runtime)
    (hroom : RoomFor limit rev sandboxId runtime) :
    ((LocalOp.engine (.switchRuntime rev .sandbox mapId (some sandboxId) preset ghost)).call.orFail
      mapWorkerErr).run.Follows (limitProtocol limit)
        (Either (fun _ _ => True) fun _ _ => True) seen := by
  refine Prog.Follows.orFail ⟨⟨rfl, sandboxId, rfl, runtime, hseen, hroom⟩, fun answer => ?_⟩
  cases answer <;> trivial

theorem activateLocalSandbox_follows (env : LocalAdminEnv) (rev : ℕ) (sandboxId : String) :
    (activateLocalSandbox env rev sandboxId).run.Follows (limitProtocol env.maxActiveSandboxes)
      (Either (fun _ _ => True) fun _ _ => True) seen := by
  refine .bindExcept (limit_quiet (.lift (quiet_of_call rfl))) fun snapshot s1 _ =>
    .bindExcept (limit_quiet (quiet_checked _)) fun sandbox s2 _ =>
    .bindExcept (limit_quiet (quiet_ensureMapReady _)) fun _ s3 _ =>
    .bindExcept limit_readRuntime fun runtimeBefore s4 hseen =>
    .bindExcept (limit_checked _) fun _ s5 hrev =>
    .bindExcept (limit_checked _) fun _ s6 hlimit =>
    .bindExcept (limit_switchRuntime (hlimit.1.trans (hrev.1.trans hseen))
      (roomFor_of_checks hrev.2 hlimit.2)) fun runtimeAfter s7 _ =>
    .bindExcept (limit_of_uses (.lift ⟨rfl, fun _ => trivial⟩)) fun answer s8 _ => ?_
  cases answer with
  | ok reply => exact limit_quiet (quiet_finishActivation _ _)
  | error err => exact limit_quiet (quiet_rollBackActivation _ _)

theorem uses_commitChange (rev : ℕ) (c : ConfigChange) :
    (commitChange rev c).run.Uses (·.switches = false) :=
  .bindExcept (.orFail ⟨rfl, fun _ => trivial⟩) fun _ =>
    .bindExcept (.orFail ⟨rfl, fun _ => trivial⟩) fun _ => trivial

theorem uses_applyTimeOfDayIfActive (sandboxId : String) (timeOfDay : TimeOfDaySettingsRecord) :
    (applyTimeOfDayIfActive sandboxId timeOfDay).Uses (·.switches = false) := by
  refine .call rfl fun answer => ?_
  cases answer with
  | error err => trivial
  | ok runtime =>
      change (setTimeOfDay runtime sandboxId timeOfDay).Uses (·.switches = false)
      unfold setTimeOfDay
      split
      · exact .call rfl fun _ => trivial
      · trivial

theorem uses_applyWeatherIfActive (sandboxId : String) (weather : WeatherSettingsRecord) :
    (applyWeatherIfActive sandboxId weather).Uses (·.switches = false) := by
  refine .call rfl fun answer => ?_
  cases answer with
  | error err => trivial
  | ok runtime =>
      change (setWeatherOf runtime sandboxId weather).Uses (·.switches = false)
      unfold setWeatherOf
      split
      · refine .call rfl fun answer => ?_
        cases answer <;> trivial
      · trivial

theorem uses_publishIfApplied (applied : Bool) (sandboxId : String) :
    (publishIfApplied applied sandboxId).Uses (·.switches = false) := by
  cases applied with
  | false => trivial
  | true => exact .call rfl fun _ => trivial

theorem task_follows_limit (env : LocalAdminEnv) (task : LocalTask) :
    (task.run env).run.Follows (limitProtocol env.maxActiveSandboxes)
      (Either (fun _ _ => True) fun _ _ => True) seen := by
  cases hreaches : task.reaches with
  | false => exact limit_quiet (quiet_task env hreaches)
  | true =>
      cases task with
      | updateTimeOfDay rev sandboxId timeOfDay =>
          exact limit_of_uses (.bindExcept trivial fun _ => .bindExcept trivial fun _ =>
            .bindExcept trivial fun _ => .bindExcept (uses_commitChange _ _) fun _ =>
            .bindExcept (.lift (uses_applyTimeOfDayIfActive _ _)) fun _ => trivial)
      | updateWeather rev sandboxId weather =>
          exact limit_of_uses (.bindExcept trivial fun _ => .bindExcept trivial fun _ =>
            .bindExcept trivial fun _ => .bindExcept trivial fun _ =>
            .bindExcept (uses_commitChange _ _) fun _ =>
            .bindExcept (.lift (uses_applyWeatherIfActive _ _)) fun _ =>
            .bindExcept (.lift (uses_publishIfApplied _ _)) fun _ => trivial)
      | setActivation rev sandboxId activate =>
          refine .bindExcept (limit_quiet (quiet_checked _)) fun _ _ _ => ?_
          cases activate with
          | true => exact activateLocalSandbox_follows env rev sandboxId
          | false => exact limit_quiet (quiet_deactivateLocalSandbox rev sandboxId)
      | getConfigs | createConfig | updateConfig | deleteConfig | updateSpawnMode
      | getRuntimeState | createRace | startCountdown | abortRace | closeRace | lifecycleTick
      | car | simulate => cases hreaches

end Following

/-! ## Runs -/

abbrev seenBy (limit i : ℕ) (log : List LocalEntry) : Option EngineRuntimeState :=
  (limitProtocol limit).stageOf i log

/-- What has been seen was so at a time, and the worker has moved on since. -/
def WasSeen (w : Worker E) (state : EngineRuntimeState) : Prop :=
  ∃ earlier : Worker E, earlier.state = state ∧ Later earlier w

structure LimitKept (limit : ℕ) (w : LocalAdminWorld E) : Prop where
  bounded : w.shared.worker.state.revision ≤ u64Max
  below : w.shared.worker.state.activeSandboxes.length ≤ limit
  seen : ∀ i, ∀ state ∈ seenBy limit i w.log, WasSeen w.shared.worker state

/-- The counter of revisions has not come to its end when a sandbox is switched
to. -/
def BeforeLastRevision (w : LocalAdminWorld E) (_i : ℕ) (op : LocalOp) (_input : LocalInput E) :
    Prop := op.switches = true → w.shared.worker.state.revision < u64Max

instance (w : LocalAdminWorld E) (i : ℕ) (op : LocalOp) (input : LocalInput E) :
    Decidable (BeforeLastRevision w i op input) := by
  unfold BeforeLastRevision
  infer_instance

/-- A runtime state that is read is that of the worker. -/
theorem answer_runtimeState {b : Build} {s : LocalAdminState E} {input : LocalInput E}
    {state : EngineRuntimeState}
    (h : (localExec b s (.engine .runtimeState) input).2 = .ok state) : state = s.worker.state := by
  change (execEngine b s.worker input .runtimeState).2 = .ok state at h
  unfold execEngine at h
  split at h
  · cases h
  · exact (Except.ok.inj h).symm

/-- A task sees what it has seen before, or the state of the worker. -/
theorem seenBy_perform {limit : ℕ} {b : Build} {w : LocalAdminWorld E} {i : ℕ} {op : LocalOp}
    {input : LocalInput E} {state : EngineRuntimeState}
    (h : state ∈ seenBy limit i (w.perform (localExec b) i op input).log) :
    state ∈ seenBy limit i w.log ∨ state = w.shared.worker.state := by
  rw [seenBy, Protocol.stageOf_perform_self] at h
  change state ∈ seenNext _ op (localExec b w.shared op input).2 at h
  cases op with
  | engine op =>
      cases op with
      | runtimeState =>
          cases hanswer : (localExec b w.shared (.engine .runtimeState) input).2 with
          | error err =>
              rw [hanswer] at h
              exact Or.inl h
          | ok read =>
              rw [hanswer] at h
              obtain rfl := Option.some.inj h
              exact Or.inr (answer_runtimeState hanswer)
      | switchRuntime | setRuntimeTimeOfDay | deactivateSandbox | setSandboxWeather
      | activateLocalRace | deactivateLocalRace | bumpRevision | slot => exact Or.inl h
  | now | newId | ensureMapReady | activeCarCounts | localRaceCars | config | races | startedAt
  | weatherEvents | sendWeather | simulate => exact Or.inl h

/-- The limit that has been checked on an earlier state of the same revision
still leaves room. -/
theorem LimitKept.room {limit : ℕ} (hlimit : limit < 2 ^ 32) {w : LocalAdminWorld E}
    (h : LimitKept limit w) {i rev : ℕ} {sandboxId : String} {state : EngineRuntimeState}
    (hseen : state ∈ seenBy limit i w.log) (hroom : RoomFor limit rev sandboxId state)
    (hrev : w.shared.worker.state.revision = rev) (hlt : rev < u64Max)
    (hinactive : isSandboxActive w.shared.worker.state sandboxId = false) :
    w.shared.worker.state.activeSandboxes.length < limit := by
  obtain ⟨earlier, rfl, hlater⟩ := h.seen i state hseen
  have hsame : earlier.state.revision = w.shared.worker.state.revision :=
    hroom.revision.trans hrev.symm
  have hstrip := hlater.same hsame (by rw [hroom.revision]; exact hlt)
  have hlength := length_of_stripWeather hstrip
  have hbelow := h.below
  rcases hroom.room with hactive | hfree
  · rw [← isSandboxActive_of_stripWeather hstrip, hinactive] at hactive
    cases hactive
  · rw [← hlength, Nat.mod_eq_of_lt (by omega)] at hfree
    exact hfree

/-- The worker moves on, and stays within the limit. -/
theorem LimitKept.moves {limit : ℕ} (hlimit : limit < 2 ^ 32) {b : Build} {w : LocalAdminWorld E}
    (h : LimitKept limit w) {i : ℕ} {op : LocalOp} {input : LocalInput E}
    (hguard : BeforeLastRevision w i op input)
    (hpermits : LimitPermits limit (seenBy limit i w.log) op) :
    Later w.shared.worker (localExec b w.shared op input).1.worker ∧
      (localExec b w.shared op input).1.worker.state.revision ≤ u64Max ∧
      (localExec b w.shared op input).1.worker.state.activeSandboxes.length ≤ limit := by
  have hchange {w' : Worker E} (hw' : Change w.shared.worker w') :
      Later w.shared.worker w' ∧ w'.state.revision ≤ u64Max :=
    ⟨hw'.later h.bounded, by rw [hw'.revision]; exact Nat.min_le_right _ _⟩
  cases hop : op.switches with
  | false =>
      rcases worker_localExec_cases b w.shared input hop with htouch | htidy
      · exact ⟨htouch.later, htouch.revision ▸ h.bounded,
          (length_of_stripWeather htouch.state).symm ▸ h.below⟩
      · obtain ⟨hlater, hbounded⟩ := hchange (.tidy htidy)
        exact ⟨hlater, hbounded, htidy.length_le.trans h.below⟩
  | true =>
      cases op with
      | engine op =>
          cases op with
          | switchRuntime rev kind mapId sandboxId preset ghost =>
              obtain ⟨rfl, id, hid, state, hseen, hroom⟩ := hpermits
              obtain rfl := Option.mem_def.mp hid
              rcases worker_switchRuntime_cases b w.shared input rev mapId id preset ghost with
                hsame | ⟨hrev, hinactive, slot, t, hadmitted⟩
              · rw [hsame]
                exact ⟨Later.refl _, h.bounded, h.below⟩
              · rw [hadmitted]
                obtain ⟨hlater, hbounded⟩ := hchange (.enterSandbox slot id mapId t hinactive)
                refine ⟨hlater, hbounded, ?_⟩
                have hroom' := h.room hlimit hseen hroom hrev (hrev ▸ hguard rfl) hinactive
                exact (enterSandbox_length hinactive slot mapId t).trans_le hroom'
          | runtimeState | setRuntimeTimeOfDay | deactivateSandbox | setSandboxWeather
          | activateLocalRace | deactivateLocalRace | bumpRevision | slot => cases hop
      | now | newId | ensureMapReady | activeCarCounts | localRaceCars | config | races
      | startedAt | weatherEvents | sendWeather | simulate => cases hop

theorem LimitKept.step {limit : ℕ} (hlimit : limit < 2 ^ 32) {b : Build} {w : LocalAdminWorld E}
    (h : LimitKept limit w) {i : ℕ} {op : LocalOp} {input : LocalInput E}
    (hguard : BeforeLastRevision w i op input)
    (hpermits : LimitPermits limit (seenBy limit i w.log) op) :
    LimitKept limit (w.perform (localExec b) i op input) := by
  obtain ⟨hlater, hbounded, hbelow⟩ := h.moves (b := b) hlimit hguard hpermits
  have hkept {state : EngineRuntimeState} (hstate : WasSeen w.shared.worker state) :
      WasSeen (localExec b w.shared op input).1.worker state := by
    obtain ⟨earlier, hearlier, hbefore⟩ := hstate
    exact ⟨earlier, hearlier, hbefore.trans hlater⟩
  refine ⟨hbounded, hbelow, fun j state hseen => ?_⟩
  by_cases hij : j = i
  · subst hij
    rcases seenBy_perform hseen with hbefore | hnow
    · exact hkept (h.seen j state hbefore)
    · exact ⟨w.shared.worker, hnow.symm, hlater⟩
  · rw [seenBy, Protocol.stageOf_perform_ne (localExec b) (limitProtocol limit) w hij]
      at hseen
    exact hkept (h.seen j state hseen)

/-- No interleaving of the tasks makes more sandboxes active than may be, as
long as no sandbox is switched to at the last revision there is. -/
theorem activeSandboxes_length_le (env : LocalAdminEnv) (hmax : env.maxActiveSandboxes < 2 ^ 32)
    (tasks : ℕ → LocalTask) (s : LocalAdminState E)
    (hrevision : s.worker.state.revision ≤ u64Max) (hempty : s.worker.state.activeSandboxes = [])
    (events : List (ℕ × LocalInput E))
    (hguard : Along (Pool.Guarded BeforeLastRevision) (Pool.step (localExec env.build))
      (localStart env tasks s) events) (n : ℕ) :
    (localRun env tasks s events n).world.shared.worker.state.activeSandboxes.length ≤
      env.maxActiveSandboxes := by
  have hfollowed : (localStart env tasks s).Followed (limitProtocol env.maxActiveSandboxes)
      (Either (fun _ _ => True) fun _ _ => True) := fun i => task_follows_limit env (tasks i)
  have hstart : LimitKept env.maxActiveSandboxes (localStart env tasks s).world := by
    refine ⟨hrevision, ?_, fun i state hseen => by cases hseen⟩
    change s.worker.state.activeSandboxes.length ≤ env.maxActiveSandboxes
    rw [hempty]
    exact Nat.zero_le _
  have hkept : LimitKept env.maxActiveSandboxes (localRun env tasks s events n).world :=
    hfollowed.invariant (fun w i op input hw hg hpermits => hw.step hmax hg hpermits) hstart hguard n
  exact hkept.below

namespace TwoActivations

def record (sandboxId : String) : LocalSandboxConfigRecord :=
  ⟨sandboxId, ⟨"sandbox", "map", ⟨.fixedPreset, .noon⟩, none, ⟨.clear, 20⟩, .startLine⟩⟩

/-- Only one sandbox may be active. -/
def env : LocalAdminEnv := ⟨.local, 1⟩

/-- A server at a revision. -/
def stateAtRevision (revision : ℕ) : LocalAdminState CarWorld :=
  let idle := LocalAdminState.initial CarWorld 0 ⟨0, [record "a", record "b"]⟩
  { idle with worker := { idle.worker with state := { idle.worker.state with
    revision := revision } } }

/-- Two requests that expect the same revision. -/
def tasksAt (revision : ℕ) : ℕ → LocalTask
  | 0 => .setActivation revision "a" true
  | _ => .setActivation revision "b" true

/-- Both requests make their checks, and then both switch. -/
def events : List (ℕ × LocalInput CarWorld) :=
  [0, 0, 0, 1, 1, 1, 0, 1, 0, 0, 0, 1, 1, 1].map fun i => (i, .works)

theorem one_is_refused :
    (localRun env (tasksAt 0) (stateAtRevision 0) events
        14).world.shared.worker.state.activeSandboxes.length = 1 ∧
      (localRun env (tasksAt 0) (stateAtRevision 0) events
        14).world.shared.worker.state.activeSandboxes.length ≤ env.maxActiveSandboxes :=
  ⟨by decide +kernel, activeSandboxes_length_le env (by decide) (tasksAt 0) (stateAtRevision 0)
    (by decide) rfl events (by decide +kernel) 14⟩

/-- At the last revision the two requests are both admitted. -/
theorem both_are_admitted :
    (stateAtRevision u64Max).worker.state.activeSandboxes = [] ∧
      env.maxActiveSandboxes < (localRun env (tasksAt u64Max) (stateAtRevision u64Max) events
        14).world.shared.worker.state.activeSandboxes.length := by
  refine ⟨rfl, ?_⟩
  decide +kernel

end TwoActivations

end HackArena.Local
