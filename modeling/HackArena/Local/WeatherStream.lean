import HackArena.Local.AdminRequests
import HackArena.Runtime.ActiveSandboxes

/-!
# The stream of local weather

A stream subscribes to the weather events, sends the weather of its sandbox,
and then reads it again after every event about the sandbox, or when it has
missed events. The weather is sent again only if it is another.
-/

namespace HackArena.Local

open Boink Domain HackArena.Runtime HackArena.Services SandboxConfig
open HackArena.Weather (WeatherNow)

/-! ## The weather of a sandbox -/

def runtimeWeatherTypeToProto : EngineRuntimeWeatherType → WeatherType
  | .clear => .clear
  | .partlyCloudy => .partlyCloudy
  | .overcast => .overcast
  | .lightRain => .lightRain
  | .mediumRain => .mediumRain
  | .heavyRain => .heavyRain

def noActiveSandbox : Status :=
  ⟨.notFound, "active sandbox session not found for weather target"⟩

/-- What `local_weather_now` makes of a runtime state. -/
def weatherNowOf (runtime : EngineRuntimeState) (sandboxId : String) : Except Status WeatherNow :=
  match runtime.activeSandbox? sandboxId with
  | none => .error noActiveSandbox
  | some active =>
      match active.weatherNow with
      | none => .error ⟨.failedPrecondition,
          "weather runtime snapshot is unavailable for active sandbox"⟩
      | some snapshot =>
          .ok ⟨runtimeWeatherTypeToProto snapshot.weatherType, snapshot.temperatureC⟩

def localWeatherNow (sandboxId : String) : LocalCall WeatherNow := do
  let runtime ← readRuntime
  checked (weatherNowOf runtime sandboxId)

/-! ## The stream -/

section Stream

variable (streamId : ℕ) (sandboxId : String)

/-- The weather that has been sent last, or `none` for a stream that ends. -/
def sendIfChanged (lastNow now : WeatherNow) : LocalProg (Option WeatherNow) :=
  if now = lastNow then pure (some lastNow)
  else do
    let sent ← (LocalOp.sendWeather streamId (.ok now)).call
    return if sent then some now else none

def endWith (status : Status) : LocalProg (Option WeatherNow) := do
  let _ ← (LocalOp.sendWeather streamId (.error status)).call
  return none

/-- What is done after an update and after a lag. -/
def resync (lastNow : WeatherNow) : LocalProg (Option WeatherNow) := do
  match ← (localWeatherNow sandboxId).run with
  | .ok now => sendIfChanged streamId lastNow now
  | .error status => endWith streamId status

def onWeatherEvent (lastNow : WeatherNow) :
    Except RecvError LocalWeatherEvent → LocalProg (Option WeatherNow)
  | .ok event =>
      if event.sandboxId ≠ sandboxId then pure (some lastNow)
      else if event.kind = .deactivated then endWith streamId noActiveSandbox
      else resync streamId sandboxId lastNow
  | .error (.lagged _) => resync streamId sandboxId lastNow
  | .error .closed => pure none

/-- The loop of the stream, for a number of turns. -/
def followWeather : (turns : ℕ) → WeatherNow → LocalProg Unit
  | 0, _ => pure ()
  | turns + 1, lastNow => do
      let received ← (LocalOp.weatherEvents (.recv streamId)).call
      match ← onWeatherEvent streamId sandboxId lastNow received with
      | some lastNow => followWeather turns lastNow
      | none => pure ()

def startFollowing (turns : ℕ) (initial : WeatherNow) : LocalProg Unit := do
  let sent ← (LocalOp.sendWeather streamId (.ok initial)).call
  if sent then followWeather streamId sandboxId turns initial else pure ()

def streamWeatherUpdatesLocal (turns : ℕ) : LocalCall LocalResponse := do
  liftM (LocalOp.weatherEvents (.subscribe streamId)).call
  let initial ← localWeatherNow sandboxId
  liftM (startFollowing streamId sandboxId turns initial)
  return .done

end Stream

/-- The tasks that change the weather of sandboxes or follow it. -/
inductive WeatherTask where
  | setActivation (expectedRevision : ℕ) (sandboxId : String) (activate : Bool)
  | updateWeather (expectedRevision : ℕ) (sandboxId : String)
      (weather : Option LocalWeatherSettings)
  | stream (sandboxId : String) (turns : ℕ)

def WeatherTask.run (env : LocalAdminEnv) (me : ℕ) : WeatherTask → LocalCall LocalResponse
  | .setActivation expectedRevision sandboxId activate =>
      setLocalSandboxActivation env expectedRevision sandboxId activate
  | .updateWeather expectedRevision sandboxId weather =>
      updateLocalSandboxWeather expectedRevision sandboxId weather
  | .stream sandboxId turns => streamWeatherUpdatesLocal me sandboxId turns

/-- The sandbox of a stream. -/
def WeatherTask.watched : WeatherTask → Option String
  | .stream sandboxId _ => some sandboxId
  | _ => none

/-! ## Stages

An administrator owes an event between the change and its publication. -/

inductive WeatherStage where
  | idle
  | switched (sandboxId : String)
  | refused (sandboxId : String)
  | owes (sandboxId : String)
  | subscribed
  | read (last : Option WeatherNow) (now : WeatherNow)
  | watching (last : WeatherNow)
  | told (last : WeatherNow)
  | ended
  deriving DecidableEq

namespace WeatherStage

def adminNext : WeatherStage → (op : LocalOp) → op.Answer → WeatherStage
  | .idle, .engine (.switchRuntime _ _ _ (some sandboxId) _ _), .ok _ => .switched sandboxId
  | .idle, .engine (.setSandboxWeather sandboxId ..), .ok _ => .owes sandboxId
  | .idle, .engine (.deactivateSandbox _ sandboxId), .ok _ => .owes sandboxId
  | .switched _, .engine (.setSandboxWeather sandboxId ..), .ok _ => .owes sandboxId
  | .switched _, .engine (.setSandboxWeather sandboxId ..), .error _ => .refused sandboxId
  | .refused _, .engine (.deactivateSandbox ..), _ => .idle
  | .owes _, .weatherEvents (.publish _), _ => .idle
  | s, _, _ => s

/-- The weather is sent when it is not the last one that was sent. -/
def holding (last : Option WeatherNow) (now : WeatherNow) : WeatherStage :=
  if last = some now then .watching now else .read last now

def afterRead (sandboxId : String) (last : Option WeatherNow) :
    Except EngineWorkerError EngineRuntimeState → WeatherStage
  | .ok runtime =>
      match weatherNowOf runtime sandboxId with
      | .ok now => holding last now
      | .error _ => .ended
  | .error _ => .ended

def afterRecv (sandboxId : String) (last : WeatherNow) :
    Except RecvError LocalWeatherEvent → WeatherStage
  | .ok event =>
      if event.sandboxId ≠ sandboxId then .watching last
      else if event.kind = .deactivated then .ended
      else .told last
  | .error (.lagged _) => .told last
  | .error .closed => .ended

def streamNext (sandboxId : String) : WeatherStage → (op : LocalOp) → op.Answer → WeatherStage
  | .idle, .weatherEvents (.subscribe _), _ => .subscribed
  | .subscribed, .engine .runtimeState, answer => afterRead sandboxId none answer
  | .told last, .engine .runtimeState, answer => afterRead sandboxId (some last) answer
  | .read _ now, .sendWeather .., sent => if sent then .watching now else .ended
  | .watching last, .weatherEvents (.recv _), answer => afterRecv sandboxId last answer
  | s, _, _ => s

theorem afterRead_ne_owes (watched sandboxId : String) (last : Option WeatherNow)
    (answer : Except EngineWorkerError EngineRuntimeState) :
    afterRead watched last answer ≠ .owes sandboxId := by
  cases answer with
  | error err => exact nofun
  | ok runtime =>
      dsimp only [afterRead]
      cases weatherNowOf runtime watched with
      | error status => exact nofun
      | ok now =>
          dsimp only [holding]
          split <;> exact nofun

theorem afterRecv_ne_owes (watched sandboxId : String) (last : WeatherNow)
    (answer : Except RecvError LocalWeatherEvent) :
    afterRecv watched last answer ≠ .owes sandboxId := by
  rcases answer with (_ | skipped) | event
  · exact nofun
  · exact nofun
  · dsimp only [afterRecv]
    split
    · exact nofun
    · split <;> exact nofun

theorem streamNext_ne_owes {watched sandboxId : String} {s : WeatherStage}
    (h : s ≠ .owes sandboxId) (op : LocalOp) (answer : op.Answer) :
    s.streamNext watched op answer ≠ .owes sandboxId := by
  unfold streamNext
  split
  · exact nofun
  · exact afterRead_ne_owes watched sandboxId none _
  · exact afterRead_ne_owes watched sandboxId _ _
  · split <;> exact nofun
  · exact afterRecv_ne_owes watched sandboxId _ _
  · exact h

end WeatherStage

/-- The call touches neither the worker nor the hub. -/
def LocalOp.calm : LocalOp → Bool
  | .now | .ensureMapReady _ | .config _ | .engine .runtimeState | .startedAt _ => true
  | _ => false

/-- What an administrator may call. -/
inductive AdminCall : WeatherStage → LocalOp → Prop
  | calmIdle {op : LocalOp} (h : op.calm = true) : AdminCall .idle op
  | calmOwing {sandboxId : String} {op : LocalOp} (h : op.calm = true) :
      AdminCall (.owes sandboxId) op
  | switchRuntime (rev : ℕ) (mapId sandboxId : String)
      (preset : Option EngineRuntimeTimeOfDayPreset) (ghost : Option GhostModeSettings) :
      AdminCall .idle (.engine (.switchRuntime rev .sandbox mapId (some sandboxId) preset ghost))
  | setWeather (sandboxId : String) (weather : WeatherParams)
      (weatherNow : EngineRuntimeWeatherNow) :
      AdminCall .idle (.engine (.setSandboxWeather sandboxId weather weatherNow))
  | setFirstWeather (sandboxId : String) (weather : WeatherParams)
      (weatherNow : EngineRuntimeWeatherNow) :
      AdminCall (.switched sandboxId) (.engine (.setSandboxWeather sandboxId weather weatherNow))
  | deactivate (rev : ℕ) (sandboxId : String) :
      AdminCall .idle (.engine (.deactivateSandbox rev sandboxId))
  | rollBack (rev : ℕ) (sandboxId : String) :
      AdminCall (.refused sandboxId) (.engine (.deactivateSandbox rev sandboxId))
  | publish (event : LocalWeatherEvent) :
      AdminCall (.owes event.sandboxId) (.weatherEvents (.publish event))

/-- What a stream may call. -/
inductive StreamCall (me : ℕ) : WeatherStage → LocalOp → Prop
  | subscribe : StreamCall me .idle (.weatherEvents (.subscribe me))
  | readFirst : StreamCall me .subscribed (.engine .runtimeState)
  | reread (last : WeatherNow) : StreamCall me (.told last) (.engine .runtimeState)
  | send {last : Option WeatherNow} {now : WeatherNow} (hnew : last ≠ some now) :
      StreamCall me (.read last now) (.sendWeather me (.ok now))
  | fail (status : Status) : StreamCall me .ended (.sendWeather me (.error status))
  | recv (last : WeatherNow) : StreamCall me (.watching last) (.weatherEvents (.recv me))

abbrev adminProtocol : Protocol LocalOp LocalOp.Answer WeatherStage := ⟨.idle, .adminNext, AdminCall⟩

abbrev streamProtocol (me : ℕ) (sandboxId : String) :
    Protocol LocalOp LocalOp.Answer WeatherStage :=
  ⟨.idle, .streamNext sandboxId, StreamCall me⟩

def weatherProtocol (me : ℕ) (task : WeatherTask) : Protocol LocalOp LocalOp.Answer WeatherStage :=
  match task.watched with
  | none => adminProtocol
  | some sandboxId => streamProtocol me sandboxId

/-! ## Administrators -/

section Administrators

open Prog

variable {α : Type}

theorem adminNext_calm {op : LocalOp} (hcalm : op.calm = true) (answer : op.Answer) :
    WeatherStage.adminNext .idle op answer = .idle ∧
      ∀ sandboxId, WeatherStage.adminNext (.owes sandboxId) op answer = .owes sandboxId := by
  cases op with
  | engine op => cases op <;> first | exact ⟨rfl, fun _ => rfl⟩ | cases hcalm
  | weatherEvents | sendWeather | simulate | newId | activeCarCounts | localRaceCars | races =>
      cases hcalm
  | now | ensureMapReady | config | startedAt => exact ⟨rfl, fun _ => rfl⟩

/-- A part that an administrator begins and ends without owing an event. -/
abbrev Clear (p : LocalCall α) : Prop :=
  p.run.Follows adminProtocol (Either (fun _ s => s = .idle) fun _ s => s = .idle) .idle

theorem clear_of_calm {p : LocalCall α} (h : p.run.Uses (·.calm)) : Clear p := by
  refine Prog.Follows.mono (h.follows fun op hop => ⟨.calmIdle hop, fun answer =>
    (adminNext_calm hop answer).1⟩) fun result s' hs' => ?_
  cases result <;> exact hs'

theorem Clear.bind {β : Type} {p : LocalCall α} {f : α → LocalCall β} (hp : Clear p)
    (hf : ∀ a, Clear (f a)) : Clear (p >>= f) :=
  .bindExcept hp fun a s' hs' => by
    rw [hs']
    exact hf a

theorem calm_call {op : LocalOp} (h : op.calm = true) : Uses (·.calm) op.call :=
  ⟨h, fun _ => trivial⟩

theorem clear_checked (x : Except Status α) : Clear (checked x) := clear_of_calm trivial

theorem clear_readRuntime : Clear readRuntime := clear_of_calm (.orFail (calm_call rfl))

theorem clear_commitChange (rev : ℕ) (c : ConfigChange) : Clear (commitChange rev c) :=
  clear_of_calm (.bindExcept (.orFail (calm_call rfl)) fun _ =>
    .bindExcept (.orFail (calm_call rfl)) fun _ => trivial)

/-- After the weather has been applied an event is owed. -/
theorem applyWeatherIfActive_follows (sandboxId : String) (weather : WeatherSettingsRecord) :
    (applyWeatherIfActive sandboxId weather).Follows adminProtocol
      (fun applied s => s = if applied then .owes sandboxId else .idle) .idle := by
  refine .call (.calmIdle rfl) fun answer => ?_
  cases answer with
  | error err => rfl
  | ok runtime =>
      change (setWeatherOf runtime sandboxId weather).Follows adminProtocol _ _
      unfold setWeatherOf
      split
      · refine .call (.setWeather sandboxId _ _) fun answer => ?_
        cases answer <;> rfl
      · rfl

theorem publishIfApplied_follows (applied : Bool) (sandboxId : String) :
    (publishIfApplied applied sandboxId).Follows adminProtocol (fun _ s => s = .idle)
      (if applied then .owes sandboxId else .idle) := by
  cases applied with
  | false => rfl
  | true => exact .call (.publish ⟨sandboxId, .updated⟩) fun _ => rfl

theorem clear_updateLocalSandboxWeather (rev : ℕ) (sandboxId : String)
    (weather : Option LocalWeatherSettings) :
    Clear (updateLocalSandboxWeather rev sandboxId weather) := by
  refine .bind (clear_checked _) fun _ => .bind (clear_checked _) fun _ =>
    .bind (clear_checked _) fun weather => .bind (clear_checked _) fun _ =>
    .bind (clear_commitChange _ _) fun revision => ?_
  refine .bindExcept (.lift (applyWeatherIfActive_follows sandboxId weather)) ?_
  rintro applied s rfl
  refine .bindExcept (.lift (publishIfApplied_follows applied sandboxId)) ?_
  rintro _ s rfl
  rfl

theorem deactivateSandbox_follows (rev : ℕ) (sandboxId : String) :
    ((LocalOp.engine (.deactivateSandbox rev sandboxId)).call.orFail mapWorkerErr).run.Follows
      adminProtocol (Either (fun _ s => s = .owes sandboxId) fun _ s => s = .idle) .idle := by
  refine .orFail (.call (.deactivate rev sandboxId) fun answer => ?_)
  cases answer <;> rfl

theorem clear_deactivateLocalSandbox (rev : ℕ) (sandboxId : String) :
    Clear (deactivateLocalSandbox rev sandboxId) := by
  refine .bindExcept (deactivateSandbox_follows rev sandboxId) ?_
  rintro runtime s rfl
  exact .call (.calmOwing rfl) fun _ => .call (.publish ⟨sandboxId, .deactivated⟩) fun _ => rfl

theorem switchRuntime_follows (rev : ℕ) (mapId sandboxId : String)
    (preset : Option EngineRuntimeTimeOfDayPreset) (ghost : Option GhostModeSettings) :
    ((LocalOp.engine (.switchRuntime rev .sandbox mapId (some sandboxId) preset
      ghost)).call.orFail mapWorkerErr).run.Follows adminProtocol
        (Either (fun _ s => s = .switched sandboxId) fun _ s => s = .idle) .idle := by
  refine .orFail (.call (.switchRuntime rev mapId sandboxId preset ghost) fun answer => ?_)
  cases answer <;> rfl

theorem finishActivation_follows (runtime : EngineRuntimeState) (sandboxId : String) :
    (finishActivation runtime sandboxId).run.Follows adminProtocol
      (Either (fun _ s => s = .idle) fun _ s => s = .idle) (.owes sandboxId) :=
  .call (.calmOwing rfl) fun _ => .call (.calmOwing rfl) fun _ =>
    .call (.publish ⟨sandboxId, .updated⟩) fun _ => rfl

theorem rollBackActivation_follows (runtime : EngineRuntimeState) (sandboxId : String) :
    (rollBackActivation runtime sandboxId).run.Follows adminProtocol
      (Either (fun _ s => s = .idle) fun _ s => s = .idle) (.refused sandboxId) :=
  .call (.rollBack runtime.revision sandboxId) fun _ => rfl

theorem clear_activateLocalSandbox (env : LocalAdminEnv) (rev : ℕ) (sandboxId : String) :
    Clear (activateLocalSandbox env rev sandboxId) := by
  refine .bind (clear_of_calm (.lift (calm_call rfl))) fun snapshot =>
    .bind (clear_checked _) fun sandbox => .bind (clear_of_calm (.orFail (calm_call rfl))) fun _ =>
    .bind clear_readRuntime fun runtimeBefore => .bind (clear_checked _) fun _ =>
    .bind (clear_checked _) fun _ => ?_
  refine .bindExcept (switchRuntime_follows ..) ?_
  rintro runtimeAfter s rfl
  refine .call (.setFirstWeather ..) fun answer => ?_
  cases answer with
  | ok reply => exact finishActivation_follows runtimeAfter sandbox.sandboxId
  | error err => exact rollBackActivation_follows runtimeAfter sandbox.sandboxId

theorem clear_setLocalSandboxActivation (env : LocalAdminEnv) (rev : ℕ) (sandboxId : String)
    (activate : Bool) : Clear (setLocalSandboxActivation env rev sandboxId activate) := by
  refine .bind (clear_checked _) fun _ => ?_
  cases activate with
  | true => exact clear_activateLocalSandbox env rev sandboxId
  | false => exact clear_deactivateLocalSandbox rev sandboxId

end Administrators

/-! ## Streams -/

section Streams

open Prog WeatherStage

variable {me : ℕ} {sandboxId : String}

/-- A stream that goes on is watching, with what it has sent last. -/
def GoesOn (next : Option WeatherNow) (s : WeatherStage) : Prop :=
  ∀ last, next = some last → s = .watching last

theorem endWith_follows (status : Status) :
    (endWith me status).Follows (streamProtocol me sandboxId) GoesOn .ended :=
  .call (.fail status) fun _ => nofun

/-- What is read decides whether a stream goes on. -/
theorem localWeatherNow_follows {s : WeatherStage} {last : Option WeatherNow}
    (hcall : StreamCall me s (.engine .runtimeState))
    (hnext : ∀ answer, s.streamNext sandboxId (.engine .runtimeState) answer =
      afterRead sandboxId last answer) :
    (localWeatherNow sandboxId).run.Follows (streamProtocol me sandboxId)
      (Either (fun now s' => s' = holding last now) fun _ s' => s' = .ended) s := by
  refine .call hcall fun answer => ?_
  change Follows _ _ _ (s.streamNext sandboxId (.engine .runtimeState) answer)
  rw [hnext]
  cases answer with
  | error err => rfl
  | ok runtime =>
      dsimp only [afterRead]
      change (checked (weatherNowOf runtime sandboxId)).run.Follows (streamProtocol me sandboxId) _ _
      cases weatherNowOf runtime sandboxId with
      | error status => rfl
      | ok now => rfl

theorem sendIfChanged_follows (lastNow now : WeatherNow) :
    (sendIfChanged me lastNow now).Follows (streamProtocol me sandboxId) GoesOn
      (holding (some lastNow) now) := by
  unfold sendIfChanged holding
  by_cases hsame : now = lastNow
  · subst hsame
    rw [if_pos rfl, if_pos rfl]
    rintro last ⟨⟩
    rfl
  · have hnew : some lastNow ≠ some now := fun h => hsame (Option.some.inj h).symm
    rw [if_neg hsame, if_neg hnew]
    refine .call (.send hnew) fun sent => ?_
    cases sent with
    | false => exact nofun
    | true =>
        rintro last ⟨⟩
        rfl

theorem resync_follows (lastNow : WeatherNow) :
    (resync me sandboxId lastNow).Follows (streamProtocol me sandboxId) GoesOn
      (.told lastNow) := by
  refine .andThen (localWeatherNow_follows (.reread lastNow) fun _ => rfl) fun result s hs => ?_
  cases result with
  | error status =>
      obtain rfl := hs
      exact endWith_follows status
  | ok now =>
      obtain rfl := hs
      exact sendIfChanged_follows lastNow now

theorem onWeatherEvent_follows (lastNow : WeatherNow)
    (received : Except RecvError LocalWeatherEvent) :
    (onWeatherEvent me sandboxId lastNow received).Follows (streamProtocol me sandboxId) GoesOn
      (afterRecv sandboxId lastNow received) := by
  rcases received with (_ | skipped) | event
  · exact nofun
  · exact resync_follows lastNow
  · unfold onWeatherEvent afterRecv
    dsimp only
    by_cases hother : event.sandboxId ≠ sandboxId
    · rw [if_pos hother, if_pos hother]
      rintro last ⟨⟩
      rfl
    · rw [if_neg hother, if_neg hother]
      by_cases hkind : event.kind = .deactivated
      · rw [if_pos hkind, if_pos hkind]
        exact endWith_follows _
      · rw [if_neg hkind, if_neg hkind]
        exact resync_follows lastNow

theorem followWeather_follows (turns : ℕ) (lastNow : WeatherNow) :
    (followWeather me sandboxId turns lastNow).Follows (streamProtocol me sandboxId)
      (fun _ _ => True) (.watching lastNow) := by
  induction turns generalizing lastNow with
  | zero => trivial
  | succ turns ih =>
      refine .call (.recv lastNow) fun received =>
        .andThen (onWeatherEvent_follows lastNow received) fun next s hs => ?_
      cases next with
      | none => trivial
      | some last =>
          rw [hs last rfl]
          exact ih last

theorem startFollowing_follows (turns : ℕ) (initial : WeatherNow) :
    (startFollowing me sandboxId turns initial).Follows (streamProtocol me sandboxId)
      (fun _ _ => True) (.read none initial) := by
  refine .call (.send nofun) fun sent => ?_
  cases sent with
  | false => trivial
  | true => exact followWeather_follows turns initial

theorem streamWeatherUpdatesLocal_follows (turns : ℕ) :
    (streamWeatherUpdatesLocal me sandboxId turns).run.Follows (streamProtocol me sandboxId)
      (Either (fun _ _ => True) fun _ _ => True) .idle := by
  refine .call .subscribe fun _ => .andThen (localWeatherNow_follows .readFirst fun _ => rfl)
    fun result s hs => ?_
  cases result with
  | error status => trivial
  | ok initial =>
      obtain rfl := hs
      exact .bindExcept (.lift (startFollowing_follows turns initial)) fun _ _ _ =>
        .pureExcept trivial

end Streams

/-- An administrator that has ended owes nothing. -/
def EndsClear (task : WeatherTask) (s : WeatherStage) : Prop := task.watched = none → s = .idle

theorem weatherTask_follows (env : LocalAdminEnv) (me : ℕ) (task : WeatherTask) :
    (task.run env me).run.Follows (weatherProtocol me task) (fun _ => EndsClear task)
      (weatherProtocol me task).init := by
  have hclear {p : LocalCall LocalResponse} (h : Clear p) (hadmin : task.watched = none) :
      p.run.Follows adminProtocol (fun _ => EndsClear task) .idle := by
    refine Prog.Follows.mono h fun result s hs _ => ?_
    cases result <;> exact hs
  cases task with
  | setActivation rev sandboxId activate =>
      exact hclear (clear_setLocalSandboxActivation env rev sandboxId activate) rfl
  | updateWeather rev sandboxId weather =>
      exact hclear (clear_updateLocalSandboxWeather rev sandboxId weather) rfl
  | stream sandboxId turns =>
      exact Prog.Follows.mono (streamWeatherUpdatesLocal_follows turns) fun _ _ _ => nofun

end HackArena.Local
