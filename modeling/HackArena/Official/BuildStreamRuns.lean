import HackArena.Official.BuildStreamProtocol

/-!
# Runs of the build streams

Handlers, the worker, pumps and clients take turns in any order. In every
run that keeps the order and the room of the streams, each client gets its
stream from the announcement to the one final event, and no client can
keep the worker waiting.
-/

namespace HackArena.Official

open GuardedRun

abbrev OfficialEntry := Entry Op Op.Answer

/-- The queue has taken the job. -/
def Enqueued (log : List OfficialEntry) (job : SubmissionBuildJob) : Prop :=
  ∃ thread, (⟨thread, .build (.enqueue job), true⟩ : OfficialEntry) ∈ log

/-- The tasks beside the worker. Others may do what they like, except with
the builds. -/
inductive BuildTask where
  | submit (req : SubmitBuildRequest)
  | pump (fuel : ℕ)
  | client (eventsTx reads : ℕ)
  | other (p : { p : OfficialProg Unit // p.Uses Op.offStream })

def BuildTask.prog (cfg : BuildConfig) : BuildTask → OfficialProg Unit
  | .submit req => do
      let _ ← submitBuildStream cfg req
      pure ()
  | .pump fuel => pumpCommandOutput fuel
  | .client eventsTx reads => streamClient eventsTx reads
  | .other p => p.1

/-- The worker is the first of the threads. -/
def buildThreads (cfg : BuildConfig) (fuel : ℕ) (tasks : ℕ → BuildTask) : ℕ → OfficialProg Unit
  | 0 => submissionWorker cfg fuel
  | i + 1 => (tasks i).prog cfg

/-! ## What holds of a stream -/

/-- The first event announces the job of the stream, only the last one can
be final, and it is once there is nobody left who sends. A client that
hangs up gets no further events. -/
structure StreamOrdered (log : List OfficialEntry) (eventsTx : ℕ) (c : EventChannel) : Prop where
  first : ∀ event ∈ c.sent.head?, ∃ job, Enqueued log job ∧ job.eventsTx = eventsTx ∧
    event = .started job.submissionId
  last : ∀ event ∈ c.sent.dropLast, event.isFinished = false
  ended : c.senders = [] → c.closed ∨ c.EndsFinished

def StreamsOrdered (w : OfficialWorld) : Prop :=
  ∀ eventsTx, ∀ c ∈ w.shared.builds.channel? eventsTx, StreamOrdered w.log eventsTx c

def Op.workerSend? : Op → Option ℕ
  | .build (.send .worker eventsTx _) => some eventsTx
  | _ => none

/-- The worker does not wait for a place in a channel outside the time
limit of a build. -/
def WorkerFree (p : OfficialPool) : Prop :=
  ∀ i, ∀ eventsTx ∈ (p.threads i).next?.bind Op.workerSend?,
    ∀ c ∈ p.world.shared.builds.channel? eventsTx, c.HasRoom

def InOrder (s : OfficialState) (input : Input) : Op → Prop
  | .build op => s.builds.InOrder input op
  | _ => True

instance (s : OfficialState) (input : Input) (op : Op) : Decidable (InOrder s input op) :=
  match op with
  | .build op => inferInstanceAs (Decidable (s.builds.InOrder input op))
  | .outside _ | .engine _ | .store _ | .docker _ | .join _ | .bot _ | .repo _ | .lock _ | .unlock _
  | .latestFrame | .publishFrame _ | .spawnMonitor _ | .takeMonitor _ | .nextTick _ =>
      inferInstanceAs (Decidable True)

/-! ## The invariant along a run -/

def buildPhases (w : OfficialWorld) (i : ℕ) : BuildPhase := buildProtocol.stageOf i w.log

def BuildsGood (w : OfficialWorld) : Prop :=
  ∃ stages, StreamInv (Enqueued w.log) (buildPhases w) stages w.shared.builds

theorem buildPhases_perform (w : OfficialWorld) (i : ℕ) (op : Op) (input : Input) :
    buildPhases (w.perform exec i op input) = Function.update (buildPhases w) i
      ((buildPhases w i).next op (exec w.shared op input).2) := by
  funext j
  rcases eq_or_ne j i with rfl | hne
  · rw [Function.update_self]
    exact Protocol.stageOf_perform_self exec buildProtocol w j op input
  · rw [Function.update_of_ne hne]
    exact Protocol.stageOf_perform_ne exec buildProtocol w hne op input

theorem Enqueued.mono {log : List OfficialEntry} {e : OfficialEntry} {job : SubmissionBuildJob}
    (h : Enqueued log job) : Enqueued (e :: log) job :=
  h.imp fun _ hmem => List.mem_cons_of_mem e hmem

theorem BuildsGood.step {w : OfficialWorld} {i : ℕ} {op : Op} {input : Input} (h : BuildsGood w)
    (horder : InOrder w.shared input op) (hpermits : (buildPhases w i).Permits op) :
    BuildsGood (w.perform exec i op input) := by
  obtain ⟨stages, hinv⟩ := h
  have himp : ∀ job, Enqueued w.log job → Enqueued (w.perform exec i op input).log job :=
    fun _ => Enqueued.mono
  unfold BuildsGood
  rw [buildPhases_perform]
  cases op with
  | build op =>
      refine hinv.exec hpermits horder himp fun job hop hgone => ⟨i, ?_⟩
      subst hop
      have hanswer : (w.shared.builds.exec (.enqueue job) input).2 = true := by
        simp [BuildState.exec, hgone]
      rw [← hanswer]
      exact List.mem_cons_self
  | repo op =>
      cases op with
      | markBuilding submissionId =>
          cases hanswer : (exec w.shared (.repo (.markBuilding submissionId)) input).2 with
          | error e => exact (hinv.mono himp).keep
          | ok _ => exact (hinv.mono himp).startPipeline
      | _ => exact (hinv.mono himp).keep
  | takeMonitor which =>
      have hbuilds : (exec w.shared (.takeMonitor which) input).1.builds = w.shared.builds := by
        simp only [exec]
        split <;> rfl
      have hkeep := (hinv.mono himp).keep (i := i)
      rwa [← hbuilds] at hkeep
  | _ => exact (hinv.mono himp).keep

theorem BuildsGood.ordered {w : OfficialWorld} (h : BuildsGood w) : StreamsOrdered w := by
  obtain ⟨stages, hinv⟩ := h
  intro eventsTx c hc
  have hgood := hinv.good eventsTx c hc
  exact ⟨hgood.first, hgood.last, hgood.ended⟩

/-- A task at a stage that allows a final event has the room for it. -/
theorem BuildsGood.hasRoom {w : OfficialWorld} (h : BuildsGood w) {i eventsTx : ℕ}
    (hphase : buildPhases w i = .settling eventsTx ∨ buildPhases w i = .reported eventsTx) :
    ∀ c ∈ w.shared.builds.channel? eventsTx, c.HasRoom := by
  obtain ⟨stages, hinv⟩ := h
  intro c hc
  have hgood := hinv.good eventsTx c hc
  rcases hphase with hphase | hphase
  · exact (hgood.settling (hinv.stands_at hphase).1).imp id fun hroom => by omega
  · exact (hgood.reported (hinv.stands_at hphase).1).imp id fun hroom => by omega

theorem BuildsGood.workerFree {p : OfficialPool} {post : Unit → BuildPhase → Prop}
    (h : BuildsGood p.world) (hfollowed : p.Followed buildProtocol post) : WorkerFree p := by
  intro i eventsTx hsend
  have hi := hfollowed i
  cases hprog : p.threads i with
  | ret a =>
      rw [hprog] at hsend
      cases hsend
  | call op next =>
      rw [hprog] at hsend hi
      obtain ⟨hpermits, -⟩ := hi
      change Op.workerSend? op = some eventsTx at hsend
      unfold Op.workerSend? at hsend
      split at hsend
      · rename_i tx event
        obtain rfl := Option.some.inj hsend
        refine h.hasRoom (i := i) ?_
        cases event with
        | started => exact hpermits.elim
        | log => exact Or.inl hpermits
        | finished => exact hpermits
      · cases hsend

theorem buildThreads_follow (cfg : BuildConfig) (fuel : ℕ) (tasks : ℕ → BuildTask) (i : ℕ) :
    (buildThreads cfg fuel tasks i).Follows buildProtocol (fun _ _ => True) .idle := by
  cases i with
  | zero => exact Prog.Follows.mono (submissionWorker_follows cfg fuel) fun _ _ _ => trivial
  | succ i =>
      change ((tasks i).prog cfg).Follows buildProtocol (fun _ _ => True) .idle
      cases tasks i with
      | submit req =>
          exact Prog.Follows.andThen (submitBuildStream_follows cfg req) fun _ _ _ => trivial
      | pump fuel => exact pumpCommandOutput_follows fuel
      | client eventsTx reads =>
          exact Prog.Follows.mono ((streamClient_uses reads).follows fun _ hop =>
            permits_of_ofClient hop) fun _ _ _ => trivial
      | other p =>
          exact Prog.Follows.mono (p.2.follows fun _ hop => permits_of_offStream hop)
            fun _ _ _ => trivial

theorem BuildsGood.initial {s : OfficialState} (hs : s.builds = .empty)
    (threads : ℕ → OfficialProg Unit) : BuildsGood (Pool.start s threads).world := by
  refine ⟨fun _ => ⟨.unborn, 0, .absent, 0⟩, ?_⟩
  change StreamInv _ (fun _ => .idle) _ s.builds
  rw [hs]
  exact {
    stands := fun _ => trivial
    unborn := fun _ _ => ⟨rfl, rfl⟩
    queue := by simp [BuildState.empty]
    nodup := List.nodup_nil
    good := by simp [BuildState.empty]
    pumps := ⟨nofun, nofun, by simp [BuildState.empty]⟩ }

/-- In every state of a run that keeps the order and the room of the
streams, the streams are ordered and the worker is free. -/
theorem buildStreams_ordered (cfg : BuildConfig) (fuel : ℕ) (tasks : ℕ → BuildTask)
    {s : OfficialState} (hs : s.builds = .empty) {events : List (ℕ × Input)}
    (horder : Along (Pool.Guarded fun w _ op input => InOrder w.shared input op) (Pool.step exec)
      (Pool.start s (buildThreads cfg fuel tasks)) events) (n : ℕ) :
    StreamsOrdered (stateAt (Pool.step exec) (Pool.start s (buildThreads cfg fuel tasks))
      events n).world ∧
    WorkerFree (stateAt (Pool.step exec) (Pool.start s (buildThreads cfg fuel tasks))
      events n) := by
  have hfollowed : (Pool.start s (buildThreads cfg fuel tasks)).Followed buildProtocol
      fun _ _ => True := buildThreads_follow cfg fuel tasks
  have hgood : BuildsGood (stateAt (Pool.step exec) (Pool.start s (buildThreads cfg fuel tasks))
      events n).world :=
    hfollowed.invariant (fun _ _ _ _ hw horder' hpermits => hw.step horder' hpermits)
      (BuildsGood.initial hs _) horder n
  exact ⟨hgood.ordered, hgood.workerFree (hfollowed.stateAt events n)⟩

/-! ### One build -/

namespace OneBuild

def cfg : BuildConfig where
  registry := "registry"
  submissionBuildTimeoutSec := 600
  archiveMaxMb := 64
  wrapperGhOwner := "owner"
  wrapperGhRepo _ := "wrapper"

def req : SubmitBuildRequest := ⟨some .python, "v1", some 1, 10⟩

/-- Every call succeeds. -/
def works : Input := { Input.works with text := "s1" }

/-- There is a line to read. -/
def line : Input := { works with present := true }

/-- The time of the build is up. -/
def elapsed : Input := { works with elapsed := true }

def tasks : ℕ → BuildTask
  | 0 => .submit req
  | 1 => .pump 200
  | 2 => .pump 1
  | _ => .client 0 200

def start : OfficialPool :=
  Pool.start (OfficialState.initial works.runtime) (buildThreads cfg 2 tasks)

def run (events : List (ℕ × Input)) : OfficialPool := events.foldl (Pool.step exec) start

/-- What has been sent to the client, and how much of it it has read. -/
def stream (events : List (ℕ × Input)) : Option (List BuildEvent × ℕ) :=
  ((run events).world.shared.builds.channel? 0).map fun c => (c.sent, c.received)

/-- The first of the remote commands fails. -/
def inOrder : List (ℕ × Input) :=
  List.replicate 13 (1, works) ++ List.replicate 18 (0, works) ++ List.replicate 3 (2, works) ++
    List.replicate 3 (3, works) ++ List.replicate 8 (0, works) ++ List.replicate 8 (4, works)

/-- The client gets the whole stream. -/
theorem inOrder_ordered :
    stream inOrder = some ([.started "s1", .log "[context/python] resolved run config: s1",
      .log "[wrapper-fetch/python] resolving release asset",
      .log "[wrapper-fetch/python] downloading \x60s1\x60 from owner/wrapper",
      .log "[wrapper-fetch/python] cached \x60s1\x60",
      .log "[wrapper-fetch/python] wrapper wheel prepared",
      .log "build failed: scp failed (stdout: )", .finished false], 8) ∧
    ∀ n, StreamsOrdered (stateAt (Pool.step exec) start inOrder n).world ∧
      WorkerFree (stateAt (Pool.step exec) start inOrder n) :=
  ⟨by decide +kernel, buildStreams_ordered cfg 2 tasks rfl (by decide +kernel)⟩

/-- The worker has taken the job before the handler announces it. -/
def overtaken : List (ℕ × Input) := List.replicate 11 (1, works) ++ List.replicate 4 (0, works)

/-- The client does not read, one command writes 122 lines and then the
time of the build is up. -/
def unread : List (ℕ × Input) :=
  List.replicate 13 (1, works) ++ List.replicate 18 (0, works) ++ [(2, works)] ++
    List.replicate 244 (2, line) ++ [(0, elapsed), (0, works)]

/-- The first event is a line of the log, and the worker waits for a
client that does not read. -/
theorem oneBuild_not_ordered :
    (Along (Pool.Guarded fun w _ op input => Ready w.shared input op) (Pool.step exec) start
        overtaken ∧ ¬ StreamsOrdered (run overtaken).world) ∧
    (Along (Pool.Guarded fun w _ op input => Ready w.shared input op) (Pool.step exec) start
        unread ∧ ¬ WorkerFree (run unread)) := by
  refine ⟨⟨by decide +kernel, fun h => ?_⟩, ⟨by decide +kernel, fun h => ?_⟩⟩
  · have hstream : stream overtaken =
        some ([.log "[context/python] resolved run config: s1"], 0) := by decide +kernel
    obtain ⟨c, hc, hsent⟩ := Option.map_eq_some_iff.mp hstream
    obtain ⟨hsent, -⟩ := Prod.mk.inj hsent
    obtain ⟨job, -, -, hstarted⟩ := (h 0 c hc).first (.log _) (by rw [hsent]; rfl)
    cases hstarted
  · have hfull : ((run unread).world.shared.builds.channel? 0).map (fun c => decide c.HasRoom) =
        some false := by decide +kernel
    obtain ⟨c, hc, hroom⟩ := Option.map_eq_some_iff.mp hfull
    exact of_decide_eq_false hroom (h 0 0 (by decide +kernel) c hc)

end OneBuild

end HackArena.Official
