import HackArena.Local.SandboxLimit
import HackArena.Local.WeatherStream

/-!
# Streams of local weather among administrators

What a stream holds to be the weather is the weather, or the stream has an
event to receive, or an administrator owes it one. Only an activation that is
taken back changes a sandbox and owes nothing.
-/

namespace HackArena.Local

open Boink GuardedRun HackArena.Runtime HackArena.Services
open HackArena.Weather (WeatherNow)

variable {E : Type}

/-! ## What a call does -/

theorem weatherNowOf_congr {s t : EngineRuntimeState} {sandboxId : String}
    (h : s.activeSandbox? sandboxId = t.activeSandbox? sandboxId) :
    weatherNowOf s sandboxId = weatherNowOf t sandboxId := by
  unfold weatherNowOf
  rw [h]

theorem isSandboxActive_of_weatherNowOf {s : EngineRuntimeState} {sandboxId : String}
    {now : WeatherNow} (h : weatherNowOf s sandboxId = .ok now) :
    isSandboxActive s sandboxId = true := by
  unfold weatherNowOf at h
  cases hentry : s.activeSandbox? sandboxId with
  | none =>
      rw [hentry] at h
      cases h
  | some active => exact isSandboxActive_of_activeSandbox? hentry

section Calls

variable {b : Build} {s : LocalAdminState E} {input : LocalInput E}

theorem localExec_calm (b : Build) (s : LocalAdminState E) (input : LocalInput E) {op : LocalOp}
    (hcalm : op.calm = true) :
    (localExec b s op input).1.worker = s.worker ∧
      (localExec b s op input).1.weatherEvents = s.weatherEvents := by
  cases op with
  | engine op =>
      cases op with
      | runtimeState =>
          refine ⟨?_, rfl⟩
          change (execEngine b s.worker input .runtimeState).1 = s.worker
          unfold execEngine
          split <;> rfl
      | _ => cases hcalm
  | weatherEvents | sendWeather | simulate | newId | activeCarCounts | localRaceCars | races =>
      cases hcalm
  | now | ensureMapReady | config | startedAt => exact ⟨rfl, rfl⟩

theorem consistent_localExec (b : Build) (input : LocalInput E) (op : LocalOp)
    (h : Consistent s.worker) (hop : op.switches = false) :
    Consistent (localExec b s op input).1.worker := by
  rcases worker_localExec_cases b s input hop with htouch | htidy
  · exact h.touch htouch
  · exact h.change (.tidy htidy)

/-- The weather is refused, or shown. -/
theorem localExec_setSandboxWeather (sandboxId : String) (weather : WeatherParams)
    (weatherNow : EngineRuntimeWeatherNow) :
    (∃ err, (localExec b s (.engine (.setSandboxWeather sandboxId weather weatherNow)) input).2 =
        .error err ∧
      (localExec b s (.engine (.setSandboxWeather sandboxId weather weatherNow))
        input).1.worker.state = s.worker.state) ∨
    ((localExec b s (.engine (.setSandboxWeather sandboxId weather weatherNow)) input).2 =
        .ok .unit ∧
      (localExec b s (.engine (.setSandboxWeather sandboxId weather weatherNow))
        input).1.worker.state = s.worker.state.showWeather sandboxId weatherNow) := by
  cases hfails : input.fails with
  | true =>
      refine Or.inl ⟨.workerStopped, ?_⟩
      simp [localExec, execLocalNow, execEngine, hfails, LocalEngineOp.stopped]
  | false =>
      simpa [localExec, execLocalNow, execEngine, hfails, handleEngine] using
        setWeather_cases s.worker sandboxId input.env weather weatherNow

/-- A deactivation is refused, or takes the sandbox out. -/
theorem localExec_deactivateSandbox (rev : ℕ) (sandboxId : String) :
    (∃ err, (localExec b s (.engine (.deactivateSandbox rev sandboxId)) input).2 = .error err ∧
      (localExec b s (.engine (.deactivateSandbox rev sandboxId)) input).1.worker = s.worker) ∨
    ((∃ state, (localExec b s (.engine (.deactivateSandbox rev sandboxId)) input).2 = .ok state) ∧
      (localExec b s (.engine (.deactivateSandbox rev sandboxId)) input).1.worker =
        (s.worker.leaveSandbox sandboxId).bump) := by
  cases hfails : input.fails with
  | true =>
      refine Or.inl ⟨.workerStopped, ?_⟩
      simp [localExec, execLocalNow, execEngine, hfails, LocalEngineOp.stopped]
  | false =>
      have hexec : (localExec b s (.engine (.deactivateSandbox rev sandboxId)) input).2 =
            (deactivateSandbox s.worker rev sandboxId).2 ∧
          (localExec b s (.engine (.deactivateSandbox rev sandboxId)) input).1.worker =
            (deactivateSandbox s.worker rev sandboxId).1 := by
        simp [localExec, execLocalNow, execEngine, hfails, handleEngine]
      rw [hexec.1, hexec.2]
      rcases deactivateSandbox_leaves s.worker sandboxId rev with ⟨err, hr⟩ | ⟨-, w', rfl, hr⟩
      · exact Or.inl ⟨err, congrArg Prod.snd hr, congrArg Prod.fst hr⟩
      · exact Or.inr ⟨⟨_, congrArg Prod.snd hr⟩, congrArg Prod.fst hr⟩

end Calls

/-! ## The invariant -/

/-- The weather that a stream holds to be current. -/
def WeatherStage.known : WeatherStage → Option WeatherNow
  | .read _ now => some now
  | .watching last => some last
  | _ => none

/-- The stages of all threads. -/
abbrev WeatherStages := ℕ → WeatherStage

/-- An event about the sandbox is on its way to a stream. -/
def AboutPending (s : LocalAdminState E) (i : ℕ) (sandboxId : String) : Prop :=
  s.weatherEvents.Pending weatherEventCapacity (fun event => event.sandboxId = sandboxId) i

/-- The weather is current, or a stream will be told otherwise. -/
def UpToDate (i : ℕ) (sandboxId : String) (s : LocalAdminState E) (stages : WeatherStages)
    (last : WeatherNow) : Prop :=
  weatherNowOf s.worker.state sandboxId = .ok last ∨ AboutPending s i sandboxId ∨
    ∃ j, stages j = .owes sandboxId

structure WeatherInv (i : ℕ) (sandboxId : String) (s : LocalAdminState E)
    (stages : WeatherStages) : Prop where
  consistent : Consistent s.worker
  fresh : ∀ last, (stages i).known = some last → UpToDate i sandboxId s stages last

section Steps

variable {i j : ℕ} {sandboxId : String} {s s' : LocalAdminState E} {stages : WeatherStages}
  {stage : WeatherStage} {last : WeatherNow} {b : Build} {input : LocalInput E}

/-- What one thread's call does to what keeps a stream up to date. -/
theorem UpToDate.step (h : UpToDate i sandboxId s stages last)
    (hweather : weatherNowOf s.worker.state sandboxId = .ok last →
      UpToDate i sandboxId s' (Function.update stages j stage) last)
    (hpending : AboutPending s i sandboxId → AboutPending s' i sandboxId)
    (howes : stages j = .owes sandboxId →
      UpToDate i sandboxId s' (Function.update stages j stage) last) :
    UpToDate i sandboxId s' (Function.update stages j stage) last := by
  rcases h with hnow | hqueue | ⟨k, hk⟩
  · exact hweather hnow
  · exact Or.inr (Or.inl (hpending hqueue))
  · by_cases hkj : k = j
    · exact howes (hkj ▸ hk)
    · exact Or.inr (Or.inr ⟨k, by rw [Function.update_of_ne hkj]; exact hk⟩)

/-- A call of another thread. -/
theorem WeatherInv.other (h : WeatherInv i sandboxId s stages) (hij : i ≠ j)
    (hconsistent : Consistent s'.worker)
    (hfresh : ∀ last, (stages i).known = some last → UpToDate i sandboxId s stages last →
      UpToDate i sandboxId s' (Function.update stages j stage) last) :
    WeatherInv i sandboxId s' (Function.update stages j stage) := by
  refine ⟨hconsistent, fun last hknown => ?_⟩
  rw [Function.update_of_ne hij] at hknown
  exact hfresh last hknown (h.fresh last hknown)

/-- A call that leaves the weather of the sandbox as it is, and the hub. -/
theorem WeatherInv.frame (h : WeatherInv i sandboxId s stages) (hij : i ≠ j)
    (hconsistent : Consistent s'.worker)
    (hentry : s'.worker.state.activeSandbox? sandboxId = s.worker.state.activeSandbox? sandboxId)
    (hevents : s'.weatherEvents = s.weatherEvents)
    (howes : stages j = .owes sandboxId → stage = .owes sandboxId) :
    WeatherInv i sandboxId s' (Function.update stages j stage) := by
  refine h.other hij hconsistent fun last _ hlast => hlast.step (fun hnow => Or.inl ?_) ?_ ?_
  · rwa [weatherNowOf_congr hentry]
  · intro hqueue
    unfold AboutPending
    rwa [hevents]
  · intro hj
    exact Or.inr (Or.inr ⟨j, by rw [Function.update_self]; exact howes hj⟩)

/-- The thread owes the sandbox an event from now on. -/
theorem WeatherInv.owing (h : WeatherInv i sandboxId s stages) (hij : i ≠ j)
    (hconsistent : Consistent s'.worker) :
    WeatherInv i sandboxId s' (Function.update stages j (.owes sandboxId)) :=
  h.other hij hconsistent fun _ _ _ =>
    Or.inr (Or.inr ⟨j, Function.update_self ..⟩)

/-- A change of the entry of one sandbox, of which its thread owes an event. -/
theorem WeatherInv.changed (h : WeatherInv i sandboxId s stages) (hij : i ≠ j)
    (hconsistent : Consistent s'.worker) {changed : String}
    (hentry : sandboxId ≠ changed →
      s'.worker.state.activeSandbox? sandboxId = s.worker.state.activeSandbox? sandboxId)
    (hevents : s'.weatherEvents = s.weatherEvents) (hidle : stages j ≠ .owes sandboxId) :
    WeatherInv i sandboxId s' (Function.update stages j (.owes changed)) := by
  by_cases hsame : sandboxId = changed
  · subst hsame
    exact h.owing hij hconsistent
  · exact h.frame hij hconsistent (hentry hsame) hevents fun hj => (hidle hj).elim

theorem WeatherInv.setWeather (h : WeatherInv i sandboxId s stages) (hij : i ≠ j)
    (hstage : stages j = .idle ∨ ∃ switched, stages j = .switched switched) (changed : String)
    (weather : WeatherParams) (weatherNow : EngineRuntimeWeatherNow) :
    WeatherInv i sandboxId
      (localExec b s (.engine (.setSandboxWeather changed weather weatherNow)) input).1
      (Function.update stages j ((stages j).adminNext
        (.engine (.setSandboxWeather changed weather weatherNow))
        (localExec b s (.engine (.setSandboxWeather changed weather weatherNow)) input).2)) := by
  have hidle : stages j ≠ .owes sandboxId := by
    rcases hstage with hstage | ⟨switched, hstage⟩ <;> rw [hstage] <;> nofun
  have hconsistent := consistent_localExec b input
    (.engine (.setSandboxWeather changed weather weatherNow)) h.consistent rfl
  rcases localExec_setSandboxWeather changed weather weatherNow with
    ⟨err, hanswer, hstate⟩ | ⟨hanswer, hstate⟩
  · exact h.frame hij hconsistent (by rw [hstate]) rfl fun hj => (hidle hj).elim
  · have hnext : (stages j).adminNext (.engine (.setSandboxWeather changed weather weatherNow))
        (localExec b s (.engine (.setSandboxWeather changed weather weatherNow)) input).2 =
          .owes changed := by
      rw [hanswer]
      rcases hstage with hstage | ⟨switched, hstage⟩ <;> rw [hstage] <;> rfl
    rw [hnext]
    refine h.changed hij hconsistent (fun hne => ?_) rfl hidle
    rw [hstate, showWeather_activeSandbox?, if_neg hne]

/-- A deactivation that is answered. -/
def LocalOp.takesOut : (op : LocalOp) → op.Answer → Bool
  | .engine (.deactivateSandbox ..), .ok _ => true
  | _, _ => false

/-- A sandbox that is taken out without an event has no stream that counts on
it. -/
theorem WeatherInv.deactivate (h : WeatherInv i sandboxId s stages) (hij : i ≠ j) (rev : ℕ)
    {taken : String} (hstage : stages j = .idle ∨ stages j = .refused taken)
    (hunseen : stages j = .refused sandboxId →
      LocalOp.takesOut (.engine (.deactivateSandbox rev taken))
        (localExec b s (.engine (.deactivateSandbox rev taken)) input).2 = true →
      (stages i).known = none) :
    WeatherInv i sandboxId
      (localExec b s (.engine (.deactivateSandbox rev taken)) input).1
      (Function.update stages j ((stages j).adminNext (.engine (.deactivateSandbox rev taken))
        (localExec b s (.engine (.deactivateSandbox rev taken)) input).2)) := by
  have hidle : stages j ≠ .owes sandboxId := by
    rcases hstage with hstage | hstage <;> rw [hstage] <;> nofun
  have hconsistent := consistent_localExec b input (.engine (.deactivateSandbox rev taken))
    h.consistent rfl
  have hentry (hworker : (localExec b s (.engine (.deactivateSandbox rev taken)) input).1.worker =
      (s.worker.leaveSandbox taken).bump) (hne : sandboxId ≠ taken) :
      (localExec b s (.engine (.deactivateSandbox rev taken)) input).1.worker.state.activeSandbox?
        sandboxId = s.worker.state.activeSandbox? sandboxId := by
    rw [hworker, bump_activeSandbox?, leaveSandbox_activeSandbox? h.consistent.distinct,
      if_neg hne]
  rcases localExec_deactivateSandbox rev taken with ⟨err, hanswer, hworker⟩ |
    ⟨⟨state, hanswer⟩, hworker⟩
  · exact h.frame hij hconsistent (by rw [hworker]) rfl fun hj => (hidle hj).elim
  · rcases hstage with hstage | hstage
    · rw [hstage, hanswer]
      exact h.changed hij hconsistent (hentry hworker) rfl hidle
    · by_cases hsame : sandboxId = taken
      · subst hsame
        refine h.other hij hconsistent fun last hknown _ => ?_
        rw [hunseen hstage (by rw [hanswer]; rfl)] at hknown
        cases hknown
      · exact h.frame hij hconsistent (hentry hworker hsame) rfl fun hj => (hidle hj).elim

/-- A sandbox that is switched to was not active, so that no weather of it was
current. -/
theorem WeatherInv.switchRuntime (h : WeatherInv i sandboxId s stages) (hij : i ≠ j)
    (hstage : stages j = .idle) (rev : ℕ) (mapId entered : String)
    (preset : Option EngineRuntimeTimeOfDayPreset) (ghost : Option GhostModeSettings) :
    WeatherInv i sandboxId (localExec b s (.engine (.switchRuntime rev .sandbox mapId
      (some entered) preset ghost)) input).1 (Function.update stages j stage) := by
  have howes : stages j ≠ .owes sandboxId := by rw [hstage]; nofun
  rcases worker_switchRuntime_cases b s input rev mapId entered preset ghost with
    hsame | ⟨-, hinactive, slot, t, hentered⟩
  · exact h.frame hij (hsame ▸ h.consistent) (by rw [hsame]) rfl fun hj => (howes hj).elim
  · have hconsistent := h.consistent.change (.enterSandbox slot entered mapId t hinactive)
    refine h.other hij (hentered ▸ hconsistent) fun last _ hlast => hlast.step (fun hnow => ?_) id
      fun hj => (howes hj).elim
    have hne : sandboxId ≠ entered := by
      rintro rfl
      rw [isSandboxActive_of_weatherNowOf hnow] at hinactive
      cases hinactive
    refine Or.inl ?_
    rw [hentered, ← hnow]
    refine weatherNowOf_congr ?_
    rw [bump_activeSandbox?, enterSandbox_activeSandbox? hinactive, if_neg hne]

theorem WeatherInv.publish (h : WeatherInv i sandboxId s stages) (hij : i ≠ j)
    {event : LocalWeatherEvent} (hstage : stages j = .owes event.sandboxId) :
    WeatherInv i sandboxId (localExec b s (.weatherEvents (.publish event)) input).1
      (Function.update stages j stage) := by
  refine h.other hij h.consistent fun last _ hlast => hlast.step Or.inl (fun hqueue => ?_)
    fun hj => Or.inr (Or.inl ?_)
  · exact Broadcast.Pending.send hqueue event
  · rw [hstage] at hj
    exact Broadcast.pending_send s.weatherEvents i (WeatherStage.owes.inj hj)

/-- A call of an administrator. -/
theorem WeatherInv.adminCall (h : WeatherInv i sandboxId s stages) (hij : i ≠ j) {op : LocalOp}
    (hcall : AdminCall (stages j) op)
    (hunseen : stages j = .refused sandboxId → op.takesOut (localExec b s op input).2 = true →
      (stages i).known = none) :
    WeatherInv i sandboxId (localExec b s op input).1
      (Function.update stages j ((stages j).adminNext op (localExec b s op input).2)) := by
  generalize hstage : stages j = stage at hcall
  cases hcall with
  | calmIdle hcalm =>
      obtain ⟨hworker, hevents⟩ := localExec_calm b s input hcalm
      rw [(adminNext_calm hcalm _).1]
      exact h.frame hij (hworker ▸ h.consistent) (by rw [hworker]) hevents fun hj => hstage ▸ hj
  | calmOwing hcalm =>
      obtain ⟨hworker, hevents⟩ := localExec_calm b s input hcalm
      rw [(adminNext_calm hcalm _).2]
      exact h.frame hij (hworker ▸ h.consistent) (by rw [hworker]) hevents fun hj => hstage ▸ hj
  | switchRuntime rev mapId entered preset ghost =>
      exact h.switchRuntime hij hstage rev mapId entered preset ghost
  | setWeather changed weather weatherNow =>
      exact hstage ▸ h.setWeather hij (Or.inl hstage) changed weather weatherNow
  | setFirstWeather changed weather weatherNow =>
      exact hstage ▸ h.setWeather hij (Or.inr ⟨changed, hstage⟩) changed weather weatherNow
  | deactivate rev taken => exact hstage ▸ h.deactivate hij rev (Or.inl hstage) hunseen
  | rollBack rev taken => exact hstage ▸ h.deactivate hij rev (Or.inr hstage) hunseen
  | publish event => exact h.publish hij hstage

/-- What is read to be the weather is the weather. -/
theorem known_afterRead {watched : String} {held : Option WeatherNow} {now : WeatherNow}
    {answer : Except EngineWorkerError EngineRuntimeState}
    (h : (WeatherStage.afterRead watched held answer).known = some now) :
    ∃ runtime, answer = .ok runtime ∧ weatherNowOf runtime watched = .ok now := by
  cases answer with
  | error err => cases h
  | ok runtime =>
      refine ⟨runtime, rfl, ?_⟩
      dsimp only [WeatherStage.afterRead] at h
      cases hnow : weatherNowOf runtime watched with
      | error status =>
          rw [hnow] at h
          cases h
      | ok read =>
          rw [hnow] at h
          dsimp only [WeatherStage.holding] at h
          split at h <;> exact congrArg _ (Option.some.inj h)

theorem known_afterRecv {watched : String} {held now : WeatherNow}
    {answer : Except RecvError LocalWeatherEvent}
    (h : (WeatherStage.afterRecv watched held answer).known = some now) :
    held = now ∧ ∃ event, answer = .ok event ∧ event.sandboxId ≠ watched := by
  rcases answer with (_ | skipped) | event
  · cases h
  · cases h
  · dsimp only [WeatherStage.afterRecv] at h
    split at h
    · rename_i hother
      exact ⟨Option.some.inj h, event, rfl, hother⟩
    · split at h <;> cases h

/-- A stream never owes an event. -/
theorem StreamCall.not_owes {op : LocalOp} (h : StreamCall j stage op) (watched : String) :
    stage ≠ .owes watched := by
  cases h <;> nofun

/-- Streams leave the worker alone. -/
theorem StreamCall.worker {op : LocalOp} (h : StreamCall j stage op) (b : Build)
    (s : LocalAdminState E) (input : LocalInput E) :
    (localExec b s op input).1.worker = s.worker := by
  cases h with
  | readFirst | reread => exact (localExec_calm b s input rfl).1
  | subscribe | send | fail | recv => rfl

/-- Streams have receivers of their own. -/
theorem StreamCall.pending {op : LocalOp} (h : StreamCall j stage op) (hij : i ≠ j)
    (hqueue : AboutPending s i sandboxId) :
    AboutPending (localExec b s op input).1 i sandboxId := by
  cases h with
  | subscribe => exact hqueue.congr (Broadcast.unread_move_of_ne hij (Nat.le_refl _))
  | recv last => exact hqueue.congr (Broadcast.unread_recv_of_ne hij)
  | readFirst | reread | send | fail => exact hqueue

/-- A call of another stream. -/
theorem WeatherInv.otherStream (h : WeatherInv i sandboxId s stages) (hij : i ≠ j) {op : LocalOp}
    (hcall : StreamCall j (stages j) op) :
    WeatherInv i sandboxId (localExec b s op input).1 (Function.update stages j stage) := by
  have hworker := hcall.worker b s input
  refine h.other hij (hworker ▸ h.consistent) fun last _ hlast => hlast.step (fun hnow => Or.inl ?_)
    (hcall.pending hij) fun hj => (hcall.not_owes sandboxId hj).elim
  rwa [hworker]

/-- A call of the stream itself. -/
theorem WeatherInv.ownCall (h : WeatherInv i sandboxId s stages) {op : LocalOp}
    (hcall : StreamCall i (stages i) op) :
    WeatherInv i sandboxId (localExec b s op input).1 (Function.update stages i
      ((stages i).streamNext sandboxId op (localExec b s op input).2)) := by
  have hworker := hcall.worker b s input
  have hnot := hcall.not_owes sandboxId
  refine ⟨hworker ▸ h.consistent, fun last hknown => ?_⟩
  rw [Function.update_self] at hknown
  -- what has been read is current, and what was known before still is so
  have hread {held : Option WeatherNow}
      (hknown : (WeatherStage.afterRead sandboxId held
        (localExec b s (.engine .runtimeState) input).2).known = some last) :
      weatherNowOf s.worker.state sandboxId = .ok last := by
    obtain ⟨runtime, hanswer, hnow⟩ := known_afterRead hknown
    rwa [answer_runtimeState hanswer] at hnow
  have hkeep (hbefore : (stages i).known = some last)
      (hpending : AboutPending s i sandboxId →
        AboutPending (localExec b s op input).1 i sandboxId) :
      UpToDate i sandboxId (localExec b s op input).1 (Function.update stages i
        ((stages i).streamNext sandboxId op (localExec b s op input).2)) last :=
    (h.fresh last hbefore).step (fun hnow => Or.inl (by rwa [hworker])) hpending
      fun hj => (hnot hj).elim
  generalize hstage : stages i = stage at hcall hknown hkeep
  cases hcall with
  | subscribe => cases hknown
  | readFirst => exact Or.inl (by rw [hworker]; exact hread hknown)
  | reread held => exact Or.inl (by rw [hworker]; exact hread hknown)
  | @send held now hnew =>
      refine hkeep ?_ id
      cases hsent : (localExec b s (.sendWeather i (.ok now)) input).2 with
      | false =>
          rw [hsent] at hknown
          cases hknown
      | true =>
          rw [hsent] at hknown
          exact hknown
  | fail status => cases hknown
  | recv held =>
      obtain ⟨rfl, event, hanswer, hother⟩ := known_afterRecv hknown
      exact hkeep rfl fun hqueue => hqueue.recv hanswer hother

end Steps

/-! ## What a stream has sent -/

def LocalOp.sentWeather : LocalOp → Option WeatherNow
  | .sendWeather _ (.ok weather) => some weather
  | _ => none

/-- What a thread has sent, the latest first. -/
def sentBy (i : ℕ) (log : List LocalEntry) : List WeatherNow :=
  log.filterMap fun e => if e.thread = i then e.op.sentWeather else none

/-- What a stream in the stage has sent last. -/
def WeatherStage.sent : WeatherStage → Option WeatherNow
  | .read last _ => last
  | .watching last | .told last => some last
  | _ => none

/-- No weather is sent twice in a row, and the stage of a stream that goes on
tells which one was sent last. -/
structure SentInv (sent : List WeatherNow) (stage : WeatherStage) : Prop where
  noRepeat : sent.IsChain (· ≠ ·)
  last : stage ≠ .ended → sent.head? = stage.sent

section Sending

variable {i : ℕ} {sandboxId : String} {sent : List WeatherNow} {stage : WeatherStage}

theorem sent_afterRead (held : Option WeatherNow)
    (answer : Except EngineWorkerError EngineRuntimeState) :
    WeatherStage.afterRead sandboxId held answer = .ended ∨
      (WeatherStage.afterRead sandboxId held answer).sent = held := by
  cases answer with
  | error err => exact Or.inl rfl
  | ok runtime =>
      dsimp only [WeatherStage.afterRead]
      cases weatherNowOf runtime sandboxId with
      | error status => exact Or.inl rfl
      | ok now =>
          refine Or.inr ?_
          dsimp only [WeatherStage.holding]
          split
          · rename_i hsame
            exact hsame.symm
          · rfl

theorem sent_afterRecv (held : WeatherNow) (answer : Except RecvError LocalWeatherEvent) :
    WeatherStage.afterRecv sandboxId held answer = .ended ∨
      (WeatherStage.afterRecv sandboxId held answer).sent = some held := by
  rcases answer with (_ | skipped) | event
  · exact Or.inl rfl
  · exact Or.inr rfl
  · dsimp only [WeatherStage.afterRecv]
    split
    · exact Or.inr rfl
    · split
      · exact Or.inl rfl
      · exact Or.inr rfl

/-- A call that sends no weather. -/
theorem SentInv.silent (h : SentInv sent stage) (hgoes : stage ≠ .ended) {stage' : WeatherStage}
    (hstage : stage' = .ended ∨ stage'.sent = stage.sent) : SentInv sent stage' := by
  refine ⟨h.noRepeat, fun hne => ?_⟩
  rcases hstage with hended | hsame
  · exact (hne hended).elim
  · rw [hsame]
    exact h.last hgoes

theorem SentInv.call (h : SentInv sent stage) {op : LocalOp} (hcall : StreamCall i stage op)
    (answer : op.Answer) :
    SentInv (op.sentWeather.toList ++ sent) (stage.streamNext sandboxId op answer) := by
  cases hcall with
  | subscribe => exact h.silent nofun (Or.inr rfl)
  | readFirst => exact h.silent nofun (sent_afterRead none answer)
  | reread held => exact h.silent nofun (sent_afterRead (some held) answer)
  | recv held => exact h.silent nofun (sent_afterRecv held answer)
  | fail status => exact ⟨h.noRepeat, fun hne => (hne rfl).elim⟩
  | @send held now hnew =>
      have hlast : sent.head? = held := h.last nofun
      refine ⟨List.isChain_cons.mpr ⟨fun earlier hearlier => ?_, h.noRepeat⟩, fun hne => ?_⟩
      · rintro rfl
        exact hnew (hlast.symm.trans hearlier)
      · have hsent : answer = true := by
          cases answer with
          | false => exact (hne rfl).elim
          | true => rfl
        subst hsent
        rfl

end Sending

/-! ## Runs -/

/-- A receiver waits for the next event. -/
def weatherCallIsFree (s : LocalAdminState E) : LocalOp → Bool
  | .weatherEvents (.recv streamId) => !(s.weatherEvents.unread streamId).isEmpty
  | _ => true

section Runs

variable (env : LocalAdminEnv) (tasks : ℕ → WeatherTask)

/-- The tasks, on a server that has just been started. -/
def weatherStart (E : Type) (clockNs : ℕ) (config : SandboxConfig.LocalSandboxConfigState) :
    LocalPool E :=
  Pool.start (.initial E clockNs config) fun i => ((tasks i).run env i).run

def weatherRun (clockNs : ℕ) (config : SandboxConfig.LocalSandboxConfigState)
    (events : List (ℕ × LocalInput E)) : ℕ → LocalPool E :=
  stateAt (Pool.waitStep (localExec env.build) weatherCallIsFree)
    (weatherStart env tasks E clockNs config) events

abbrev weatherStage (i : ℕ) (log : List LocalEntry) : WeatherStage :=
  (weatherProtocol i (tasks i)).stageOf i log

/-- No activation of the sandbox is taken back after its weather was refused
while the stream holds the weather of the sandbox. A deactivation that fails
takes nothing back. -/
def KeptForStream (b : Build) (i : ℕ) (sandboxId : String) (w : LocalAdminWorld E) (j : ℕ)
    (op : LocalOp) (input : LocalInput E) : Prop :=
  weatherStage tasks j w.log = .refused sandboxId →
    op.takesOut (localExec b w.shared op input).2 = true → (weatherStage tasks i w.log).known = none

instance (b : Build) (i : ℕ) (sandboxId : String) (w : LocalAdminWorld E) (j : ℕ) (op : LocalOp)
    (input : LocalInput E) : Decidable (KeptForStream tasks b i sandboxId w j op input) :=
  inferInstanceAs (Decidable (_ = _ → _ = _ → _ = _))

def LocalOp.isRecv : LocalOp → Bool
  | .weatherEvents (.recv _) => true
  | _ => false

/-- A request of an administrator has begun and has not ended. -/
def RequestInFlight (p : LocalPool E) (j : ℕ) : Prop :=
  (tasks j).watched = none ∧ (∃ e ∈ p.world.log, e.thread = j) ∧ (p.threads j).result? = none

/-- The stream waits for an event, there is none, and no request is in
flight. -/
structure Settled (i : ℕ) (p : LocalPool E) : Prop where
  waiting : (p.threads i).next?.any LocalOp.isRecv = true
  empty : p.world.shared.weatherEvents.unread i = []
  rest : ∀ j, ¬ RequestInFlight tasks p j

/-- The sandbox is active, and its weather is what the stream has sent last. -/
structure ShowsWeather (i : ℕ) (sandboxId : String) (p : LocalPool E) : Prop where
  active : isSandboxActive p.world.shared.worker.state sandboxId = true
  current : ∃ now, weatherNowOf p.world.shared.worker.state sandboxId = .ok now ∧
    (sentBy i p.world.log).head? = some now

/-- No weather is sent twice in a row. -/
def SendsChanges (i : ℕ) (p : LocalPool E) : Prop := (sentBy i p.world.log).IsChain (· ≠ ·)

variable {env tasks} {clockNs : ℕ} {config : SandboxConfig.LocalSandboxConfigState}
  {events : List (ℕ × LocalInput E)} {i : ℕ} {sandboxId : String}

/-- What every thread ends with. -/
abbrev WeatherFollowed (tasks : ℕ → WeatherTask) (p : LocalPool E) : Prop :=
  ∀ i, (p.threads i).Follows (weatherProtocol i (tasks i)) (fun _ => EndsClear (tasks i))
    (weatherStage tasks i p.world.log)

theorem weatherStart_followed : WeatherFollowed tasks (weatherStart env tasks E clockNs config) :=
  fun i => weatherTask_follows env i (tasks i)

theorem weatherRun_followed (n : ℕ) :
    WeatherFollowed tasks (weatherRun env tasks clockNs config events n) :=
  fun i => Pool.follows_waitStateAt (weatherStart_followed i) weatherCallIsFree events n

theorem weatherProtocol_stream {me : ℕ} {task : WeatherTask} (h : task.watched = some sandboxId) :
    weatherProtocol me task = streamProtocol me sandboxId := by
  unfold weatherProtocol
  rw [h]

theorem weatherProtocol_admin {me : ℕ} {task : WeatherTask} (h : task.watched = none) :
    weatherProtocol me task = adminProtocol := by
  unfold weatherProtocol
  rw [h]

/-- What the stream has sent, and its stage. -/
def SentWell (tasks : ℕ → WeatherTask) (i : ℕ) (w : LocalAdminWorld E) : Prop :=
  SentInv (sentBy i w.log) (weatherStage tasks i w.log)

theorem SentWell.perform (hstream : (tasks i).watched = some sandboxId) {w : LocalAdminWorld E}
    (h : SentWell tasks i w) {j : ℕ} {op : LocalOp} {input : LocalInput E}
    (hpermits : (weatherProtocol j (tasks j)).permits (weatherStage tasks j w.log) op) :
    SentWell tasks i (w.perform (localExec env.build) j op input) := by
  unfold SentWell
  by_cases hij : i = j
  · subst hij
    have hsent : sentBy i (w.perform (localExec env.build) i op input).log =
        op.sentWeather.toList ++ sentBy i w.log := by
      rw [sentBy, World.perform, List.filterMap_cons, if_pos rfl]
      cases op.sentWeather <;> rfl
    rw [SentWell, weatherStage, weatherProtocol_stream hstream] at h
    rw [weatherStage, weatherProtocol_stream hstream] at hpermits
    rw [hsent, weatherStage, Protocol.stageOf_perform_self, weatherProtocol_stream hstream]
    exact h.call hpermits _
  · have hsent : sentBy i (w.perform (localExec env.build) j op input).log = sentBy i w.log := by
      rw [sentBy, World.perform, List.filterMap_cons, if_neg (Ne.symm hij)]
      rfl
    rw [hsent, weatherStage, Protocol.stageOf_perform_ne _ _ w hij]
    exact h

theorem sentWell_start (hstream : (tasks i).watched = some sandboxId) :
    SentWell tasks i (weatherStart env tasks E clockNs config).world := by
  refine ⟨List.isChain_nil, fun _ => ?_⟩
  have hinit : weatherStage tasks i [] = .idle := by
    rw [weatherStage, weatherProtocol_stream hstream]
    rfl
  change none = (weatherStage tasks i []).sent
  rw [hinit]
  rfl

theorem weatherStart_followedBy : (weatherStart env tasks E clockNs config).FollowedBy
    (fun i => weatherProtocol i (tasks i)) fun _ _ => True :=
  fun i => Prog.Follows.mono (weatherTask_follows env i (tasks i)) fun _ _ _ => trivial

theorem sentWell_weatherRun (hstream : (tasks i).watched = some sandboxId) (n : ℕ) :
    SentWell tasks i (weatherRun env tasks clockNs config events n).world :=
  (weatherStart_followedBy.invariant_waiting
    (fun _ _ _ _ hw _ hpermits => SentWell.perform hstream hw hpermits)
    (sentWell_start hstream) events n).1

/-- What the stream holds, in the world. -/
def WeatherKept (tasks : ℕ → WeatherTask) (i : ℕ) (sandboxId : String) (w : LocalAdminWorld E) :
    Prop :=
  WeatherInv i sandboxId w.shared fun j => weatherStage tasks j w.log

theorem WeatherKept.perform (hstream : (tasks i).watched = some sandboxId) {w : LocalAdminWorld E}
    (h : WeatherKept tasks i sandboxId w) {j : ℕ} {op : LocalOp} {input : LocalInput E}
    (hguard : KeptForStream tasks env.build i sandboxId w j op input)
    (hpermits : (weatherProtocol j (tasks j)).permits (weatherStage tasks j w.log) op) :
    WeatherKept tasks i sandboxId (w.perform (localExec env.build) j op input) := by
  rw [WeatherKept, Protocol.stages_perform (localExec env.build)
    (fun j => weatherProtocol j (tasks j)) w j op input]
  cases htask : (tasks j).watched with
  | none =>
      have hij : i ≠ j := by
        rintro rfl
        rw [hstream] at htask
        cases htask
      have hcall {stage : WeatherStage} (hp : (weatherProtocol j (tasks j)).permits stage op) :
          AdminCall stage op := by rwa [weatherProtocol_admin htask] at hp
      have hnext (stage : WeatherStage) (answer : op.Answer) :
          (weatherProtocol j (tasks j)).next stage op answer = stage.adminNext op answer := by
        rw [weatherProtocol_admin htask]
      rw [hnext]
      exact WeatherInv.adminCall h hij (hcall hpermits) hguard
  | some watched =>
      have hcall {stage : WeatherStage} (hp : (weatherProtocol j (tasks j)).permits stage op) :
          StreamCall j stage op := by rwa [weatherProtocol_stream htask] at hp
      have hnext (stage : WeatherStage) (answer : op.Answer) :
          (weatherProtocol j (tasks j)).next stage op answer =
            stage.streamNext watched op answer := by
        rw [weatherProtocol_stream htask]
      rw [hnext]
      by_cases hij : i = j
      · subst hij
        obtain rfl := Option.some.inj (hstream.symm.trans htask)
        exact WeatherInv.ownCall h (hcall hpermits)
      · exact WeatherInv.otherStream h hij (hcall hpermits)

theorem weatherKept_start (hstream : (tasks i).watched = some sandboxId) :
    WeatherKept tasks i sandboxId (weatherStart env tasks E clockNs config).world := by
  refine ⟨consistent_initial, fun last hknown => ?_⟩
  have hinit : weatherStage tasks i [] = .idle := by
    rw [weatherStage, weatherProtocol_stream hstream]
    rfl
  change (weatherStage tasks i []).known = some last at hknown
  rw [hinit] at hknown
  cases hknown

/-- Streams owe nothing. -/
theorem stream_not_owes (me thread : ℕ) (watched : String) (log : List LocalEntry) :
    (streamProtocol me watched).stageOf thread log ≠ .owes sandboxId := by
  induction log with
  | nil => exact nofun
  | cons e log ih =>
      rw [Protocol.stageOf]
      split
      · exact WeatherStage.streamNext_ne_owes ih e.op e.answer
      · exact ih

/-- Who is at rest owes no event. -/
theorem not_owes_of_rest {p : LocalPool E} (hfollowed : WeatherFollowed tasks p) {j : ℕ}
    (hrest : ¬ RequestInFlight tasks p j) : weatherStage tasks j p.world.log ≠ .owes sandboxId := by
  cases htask : (tasks j).watched with
  | some watched =>
      rw [weatherStage, weatherProtocol_stream htask]
      exact stream_not_owes j j watched p.world.log
  | none =>
      have hidle : weatherStage tasks j p.world.log = .idle := by
        by_cases hseen : ∃ e ∈ p.world.log, e.thread = j
        · obtain ⟨result, hresult⟩ := Option.ne_none_iff_exists'.mp
            fun hnone => hrest ⟨htask, hseen, hnone⟩
          have hends := hfollowed j
          rw [Prog.eq_ret_of_result? hresult] at hends
          exact hends htask
        · rw [weatherStage, Protocol.stageOf_of_unseen _ fun e he hj => hseen ⟨e, he, hj⟩,
            weatherProtocol_admin htask]
      rw [hidle]
      exact nofun

/-- A settled stream has sent the weather of its sandbox. -/
theorem showsWeather_of_settled (hstream : (tasks i).watched = some sandboxId) {p : LocalPool E}
    (hfollowed : WeatherFollowed tasks p) (hkept : WeatherKept tasks i sandboxId p.world)
    (hsent : SentWell tasks i p.world) (hsettled : Settled tasks i p) :
    ShowsWeather i sandboxId p := by
  have hstage : ∃ last, weatherStage tasks i p.world.log = .watching last := by
    have hi := hfollowed i
    have hwaiting := hsettled.waiting
    cases hprog : p.threads i with
    | ret result =>
        rw [hprog] at hwaiting
        cases hwaiting
    | call op next =>
        rw [hprog] at hwaiting hi
        have hcall := hi.1
        rw [weatherStage, weatherProtocol_stream hstream] at hcall ⊢
        generalize (streamProtocol i sandboxId).stageOf i p.world.log = stage at hcall
        cases hcall with
        | recv last => exact ⟨last, rfl⟩
        | subscribe | readFirst | reread | send | fail => cases hwaiting
  obtain ⟨last, hlast⟩ := hstage
  have hnow : weatherNowOf p.world.shared.worker.state sandboxId = .ok last := by
    rcases hkept.fresh last (by rw [hlast]; rfl) with hnow | hpending | ⟨j, hj⟩
    · exact hnow
    · exact (Broadcast.not_pending_of_unread hsettled.empty hpending).elim
    · exact (not_owes_of_rest hfollowed (hsettled.rest j) hj).elim
  refine ⟨isSandboxActive_of_weatherNowOf hnow, last, hnow, ?_⟩
  have hhead := hsent.last (by rw [hlast]; exact nofun)
  rw [hlast] at hhead
  exact hhead

end Runs

/-- In every run a stream sends no weather twice in a row. Unless an activation
of its sandbox is taken back under it, the sandbox is active and its weather is
the one sent last whenever the stream has no event to receive and no request is
in flight. -/
theorem stream_shows_weather (env : LocalAdminEnv) (tasks : ℕ → WeatherTask) (clockNs : ℕ)
    (config : SandboxConfig.LocalSandboxConfigState) (events : List (ℕ × LocalInput E)) {i : ℕ}
    {sandboxId : String} {turns : ℕ} (hstream : tasks i = .stream sandboxId turns) :
    (∀ n, SendsChanges i (weatherRun env tasks clockNs config events n)) ∧
      (Along (Pool.Guarded (KeptForStream tasks env.build i sandboxId))
        (Pool.waitStep (localExec env.build) weatherCallIsFree)
        (weatherStart env tasks E clockNs config) events →
      ∀ n, Settled tasks i (weatherRun env tasks clockNs config events n) →
        ShowsWeather i sandboxId (weatherRun env tasks clockNs config events n)) := by
  have hwatched : (tasks i).watched = some sandboxId := by rw [hstream]; rfl
  refine ⟨fun n => (sentWell_weatherRun hwatched n).noRepeat, fun hkept n hsettled => ?_⟩
  have hinv : WeatherKept tasks i sandboxId (weatherRun env tasks clockNs config events n).world :=
    (weatherStart_followedBy.invariant_guarded
      (fun _ _ _ _ hw _ hguard hpermits => WeatherKept.perform hwatched hw hguard hpermits)
      (weatherKept_start hwatched) hkept n).1
  exact showsWeather_of_settled hwatched (weatherRun_followed n) hinv
    (sentWell_weatherRun hwatched n) hsettled

namespace TakenBack

def env : LocalAdminEnv := ⟨.local, 1⟩

/-- One sandbox, with clear weather. -/
def config : SandboxConfig.LocalSandboxConfigState :=
  ⟨0, [⟨"a", ⟨"sandbox", "map", ⟨.fixedPreset, .noon⟩, none, ⟨.clear, 20⟩, .startLine⟩⟩]⟩

/-- The sandbox is activated, gets heavy rain, and is watched. -/
def tasks : ℕ → WeatherTask
  | 0 => .setActivation 0 "a" true
  | 1 => .updateWeather 0 "a" (some ⟨some .heavyRain, 15⟩)
  | _ => .stream "a" 5

/-- The engine of a world refuses its weather. -/
def refusing : LocalInput CarWorld :=
  { LocalInput.works with
    env := ⟨{ CarWorld.api with setWeather := fun _ e => (e, .error .notFound) },
      fun _ => .ok CarWorld.fresh⟩ }

/-- The sandbox is switched to, given its new weather by the second request,
and watched; then the engine takes the weather of the activation, or refuses
it. -/
def events (last : LocalInput CarWorld) : List (ℕ × LocalInput CarWorld) :=
  ([0, 0, 0, 0, 1, 1, 1, 1, 1, 2, 2, 2].map fun i => (i, .works)) ++
    [(0, last), (0, .works), (0, .works), (0, .works), (2, .works), (2, .works), (2, .works)]

abbrev runWith (last : LocalInput CarWorld) : LocalPool CarWorld :=
  weatherRun env tasks 0 config (events last) 19

theorem settled_of_ended {p : LocalPool CarWorld}
    (hwaiting : (p.threads 2).next?.any LocalOp.isRecv = true)
    (hempty : (p.world.shared.weatherEvents.unread 2).isEmpty = true)
    (hended : ∀ j < 2, (p.threads j).result?.isSome = true) : Settled tasks 2 p := by
  refine ⟨hwaiting, List.isEmpty_iff.mp hempty, ?_⟩
  rintro j ⟨hadmin, -, hnone⟩
  by_cases hj : j < 2
  · have hsome := hended j hj
    rw [hnone] at hsome
    cases hsome
  · obtain ⟨k, rfl⟩ := Nat.exists_eq_add_of_le' (Nat.le_of_not_lt hj)
    cases hadmin

theorem settled (last : LocalInput CarWorld)
    (h : last = .works ∨ last = refusing) : Settled tasks 2 (runWith last) := by
  rcases h with rfl | rfl
  · exact settled_of_ended (by decide +kernel) (by decide +kernel) (by decide +kernel)
  · exact settled_of_ended (by decide +kernel) (by decide +kernel) (by decide +kernel)

/-- The weather of the activation reaches the stream. -/
theorem activation_reaches_stream : ShowsWeather 2 "a" (runWith .works) :=
  (stream_shows_weather env tasks 0 config (events .works) rfl).2 (by decide +kernel) 19
    (settled .works (Or.inl rfl))

/-- The activation is taken back, and the stream waits for ever. -/
theorem stream_outlives_sandbox :
    Settled tasks 2 (runWith refusing) ∧ ¬ ShowsWeather 2 "a" (runWith refusing) := by
  refine ⟨settled refusing (Or.inr rfl), fun hshows => ?_⟩
  have hinactive : isSandboxActive (runWith refusing).world.shared.worker.state "a" = false := by
    decide +kernel
  rw [hshows.active] at hinactive
  cases hinactive

end TakenBack

end HackArena.Local
