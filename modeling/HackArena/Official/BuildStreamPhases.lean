import HackArena.Official.SubmissionBuilds

/-!
# Where a task stands in a build stream

The handler of a request makes a channel, queues the job, announces it and
hands out the receiver. The worker takes a job, runs its pipeline within
the time limit, and settles it with one or two more events. A pump sends
lines from when it is taken up until it ends.
-/

namespace HackArena.Official

/-- The worker settles a job before its pipeline and after it. -/
inductive BuildPhase where
  | idle
  | preparing (eventsTx : ℕ)
  | queued (job : SubmissionBuildJob)
  | announced (eventsTx : ℕ)
  | settling (eventsTx : ℕ)
  | piping (eventsTx : ℕ)
  | reported (eventsTx : ℕ)
  | finished (eventsTx : ℕ)
  | pumping (task eventsTx : ℕ)
  deriving DecidableEq

namespace BuildPhase

def startPipeline : BuildPhase → BuildPhase
  | .settling eventsTx => .piping eventsTx
  | phase => phase

def next (phase : BuildPhase) : (op : Op) → op.Answer → BuildPhase
  | .build .channel, eventsTx => .preparing eventsTx
  | .build (.enqueue job), accepted => if accepted then .queued job else phase
  | .build (.send .handler eventsTx _), _ => .announced eventsTx
  | .build (.respond _), _ | .build (.discard _), _ | .build (.dropJob _), _
  | .build (.endPump ..), _ => .idle
  | .build .nextJob, some job => .settling job.eventsTx
  | .build .takePump, some taken => .pumping taken.1 taken.2.eventsTx
  | .build (.timeoutEnds eventsTx), _ => .settling eventsTx
  | .build (.send .worker eventsTx (.log _)), _ => .reported eventsTx
  | .build (.send .worker eventsTx (.finished _)), _ => .finished eventsTx
  | .repo (.markBuilding _), .ok _ => phase.startPipeline
  | _, _ => phase

def Permits (phase : BuildPhase) : Op → Prop
  | .build .channel | .build .nextJob | .build .takePump => phase = .idle
  | .build (.enqueue job) => phase = .preparing job.eventsTx
  | .build (.discard eventsTx) => phase = .preparing eventsTx
  | .build (.send .handler eventsTx event) => ∃ job, phase = .queued job ∧
      eventsTx = job.eventsTx ∧ event = .started job.submissionId
  | .build (.respond eventsTx) => phase = .announced eventsTx
  | .build (.send .worker _ (.started _)) => False
  | .build (.send .worker eventsTx (.log _)) => phase = .settling eventsTx
  | .build (.send .worker eventsTx (.finished _)) =>
      phase = .settling eventsTx ∨ phase = .reported eventsTx
  | .build (.send .pump eventsTx event) => ∃ task line, phase = .pumping task eventsTx ∧
      event = .log line
  | .build (.sendTimed eventsTx event) => phase = .piping eventsTx ∧ ∃ line, event = .log line
  | .build (.timeoutEnds eventsTx) | .build (.spawnPump eventsTx _) => phase = .piping eventsTx
  | .build (.dropJob eventsTx) => phase = .finished eventsTx
  | .build (.endPump task eventsTx _) => phase = .pumping task eventsTx
  | _ => True

end BuildPhase

def buildProtocol : Protocol Op Op.Answer BuildPhase where
  init := .idle
  next := BuildPhase.next
  permits := BuildPhase.Permits

/-- A call that has nothing to do with build streams. -/
def Op.offStream : Op → Prop
  | .build _ | .repo (.markBuilding _) => False
  | _ => True

/-- What the pipeline of a job calls within its time. -/
def Op.inPipeline (eventsTx : ℕ) : Op → Prop
  | .build (.sendTimed tx event) => tx = eventsTx ∧ ∃ line, event = .log line
  | .build (.spawnPump tx _) => tx = eventsTx
  | .build (.joinPump _) => True
  | op => op.offStream

/-- What a pump calls for its lines. -/
def Op.ofPump (eventsTx : ℕ) : Op → Prop
  | .build (.send .pump tx event) => tx = eventsTx ∧ ∃ line, event = .log line
  | op => op.offStream

/-- What a client calls. -/
def Op.ofClient : Op → Prop
  | .build (.recv _) | .build (.dropReceiver _) => True
  | _ => False

section Steps

variable {op : Op} {phase : BuildPhase} {eventsTx : ℕ}

theorem permits_of_offStream (h : op.offStream) :
    buildProtocol.permits phase op ∧ ∀ answer, buildProtocol.next phase op answer = phase := by
  cases op with
  | build op => exact h.elim
  | repo op =>
      cases op with
      | markBuilding => exact h.elim
      | _ => exact ⟨trivial, fun _ => rfl⟩
  | _ => exact ⟨trivial, fun _ => rfl⟩

theorem permits_of_inPipeline (h : op.inPipeline eventsTx) :
    buildProtocol.permits (.piping eventsTx) op ∧
      ∀ answer, buildProtocol.next (.piping eventsTx) op answer = .piping eventsTx := by
  cases op with
  | build op =>
      cases op with
      | sendTimed tx event =>
          obtain ⟨rfl, hline⟩ := h
          exact ⟨⟨rfl, hline⟩, fun _ => rfl⟩
      | spawnPump tx label =>
          obtain rfl := h
          exact ⟨rfl, fun _ => rfl⟩
      | joinPump => exact ⟨trivial, fun _ => rfl⟩
      | _ => exact h.elim
  | repo op => exact permits_of_offStream h
  | _ => exact ⟨trivial, fun _ => rfl⟩

theorem permits_of_ofPump (task : ℕ) (h : op.ofPump eventsTx) :
    buildProtocol.permits (.pumping task eventsTx) op ∧
      ∀ answer, buildProtocol.next (.pumping task eventsTx) op answer = .pumping task eventsTx := by
  cases op with
  | build op =>
      cases op with
      | send sender tx event =>
          cases sender with
          | pump =>
              obtain ⟨rfl, line, rfl⟩ := h
              exact ⟨⟨task, line, rfl, rfl⟩, fun _ => rfl⟩
          | _ => exact h.elim
      | _ => exact h.elim
  | repo op => exact permits_of_offStream h
  | _ => exact ⟨trivial, fun _ => rfl⟩

theorem permits_of_ofClient (h : op.ofClient) :
    buildProtocol.permits phase op ∧ ∀ answer, buildProtocol.next phase op answer = phase := by
  cases op with
  | build op =>
      cases op with
      | recv | dropReceiver => exact ⟨trivial, fun _ => rfl⟩
      | _ => exact h.elim
  | _ => exact h.elim

end Steps

/-! ## The handler -/

theorem loadedSlotForTeamForActiveRuntime_uses (teamId : String) :
    (loadedSlotForTeamForActiveRuntime teamId).Uses Op.offStream := by
  refine .call trivial fun runtime => ?_
  cases runtime with
  | error e => trivial
  | ok runtime =>
      dsimp only
      split
      · exact ⟨trivial, fun _ => trivial⟩
      · exact ⟨trivial, fun _ => trivial⟩
      · trivial
      · trivial

section Programs

open Prog

variable {eventsTx : ℕ} {phase : BuildPhase} {α ε ε' : Type}

/-- The task is still where it was, whatever has come of it. -/
abbrev Still (phase : BuildPhase) : Except ε α → BuildPhase → Prop :=
  Either (fun _ ph => ph = phase) (fun _ ph => ph = phase)

theorem offStream_follows {f : ε → ε'} {p : OfficialProg (Except ε α)} (h : p.Uses Op.offStream) :
    (p.orFail f).run.Follows buildProtocol (Still phase) phase := by
  refine Prog.Follows.orFail
    (Prog.Follows.mono (h.follows fun _ hop => permits_of_offStream hop) ?_)
  rintro (e | a) _ rfl
  · rfl
  · rfl

theorem offStream_lift {p : OfficialProg α} (h : p.Uses Op.offStream) :
    (liftM p : ExceptT ε OfficialProg α).run.Follows buildProtocol (Still phase) phase :=
  Prog.Follows.lift (h.follows fun _ hop => permits_of_offStream hop)

/-- A queued job is that of the channel. -/
def QueuedPost (eventsTx : ℕ) : Except Status SubmissionBuildJob → BuildPhase → Prop :=
  Either (fun job ph => ph = .queued job ∧ job.eventsTx = eventsTx)
    (fun _ ph => ph = .preparing eventsTx)

theorem enqueue_follows (job : SubmissionBuildJob) :
    (Op.build (.enqueue job)).call.Follows buildProtocol
      (fun accepted ph => ph = if accepted then .queued job else .preparing job.eventsTx)
      (.preparing job.eventsTx) := ⟨rfl, fun _ => rfl⟩

theorem queueSubmission_follows (req : CheckedRequest) (teamId : String) :
    (queueSubmission req teamId eventsTx).run.Follows buildProtocol (QueuedPost eventsTx)
      (.preparing eventsTx) := by
  refine .bindExcept (offStream_lift ⟨trivial, fun _ => trivial⟩) fun submissionId _ h1 => ?_
  subst h1
  refine .bindExcept (offStream_follows ⟨trivial, fun _ => trivial⟩) fun _ _ h2 => ?_
  subst h2
  refine .bindExcept (offStream_follows ⟨trivial, fun _ => trivial⟩) fun _ _ h3 => ?_
  subst h3
  refine .bindExcept (offStream_follows ⟨trivial, fun _ => trivial⟩) fun _ _ h4 => ?_
  subst h4
  refine .bindExcept (offStream_follows ⟨trivial, fun _ => trivial⟩) fun _ _ h5 => ?_
  subst h5
  refine .bindExcept (.lift (enqueue_follows _)) fun accepted _ h6 => ?_
  subst h6
  cases accepted with
  | true => exact ⟨rfl, rfl⟩
  | false => rfl

theorem submitJob_follows (req : CheckedRequest) (userId : String) :
    (submitJob req userId eventsTx).run.Follows buildProtocol (QueuedPost eventsTx)
      (.preparing eventsTx) := by
  refine .bindExcept (offStream_follows ⟨trivial, fun _ => trivial⟩) fun teamId _ h1 => ?_
  subst h1
  refine .bindExcept (offStream_lift (loadedSlotForTeamForActiveRuntime_uses teamId))
    fun loadedSlot _ h2 => ?_
  subst h2
  split
  · rfl
  · refine .bindExcept (offStream_follows ⟨trivial, fun _ => trivial⟩) fun selected _ h3 => ?_
    subst h3
    split
    · rfl
    · exact queueSubmission_follows req teamId

theorem submitBuildStream_follows (cfg : BuildConfig) (req : SubmitBuildRequest) :
    (submitBuildStream cfg req).Follows buildProtocol (fun _ ph => ph = .idle) .idle := by
  refine .call trivial fun user => ?_
  cases user with
  | error status => rfl
  | ok userId =>
      dsimp only
      cases req.check cfg with
      | error status => rfl
      | ok checked =>
          refine .call rfl fun eventsTx => ?_
          refine Prog.Follows.andThen (submitJob_follows checked userId) fun result phase h => ?_
          cases result with
          | error status =>
              obtain rfl := h
              exact .call rfl fun _ => rfl
          | ok job =>
              obtain ⟨rfl, rfl⟩ := h
              exact .call ⟨job, rfl, rfl, rfl⟩ fun _ => .call rfl fun _ => rfl

/-! ## The pipeline -/

theorem emitLogLine_uses (line : String) :
    (emitLogLine eventsTx line).run.Uses (Op.inPipeline eventsTx) :=
  Prog.Uses.orFail ⟨⟨rfl, line, rfl⟩, fun _ => trivial⟩

theorem runCommandStreaming_uses (label : String) :
    (runCommandStreaming label eventsTx).run.Uses (Op.inPipeline eventsTx) := by
  refine .bindExcept (.orFail ⟨trivial, fun _ => trivial⟩) fun _ => ?_
  refine .bindExcept (.lift ⟨rfl, fun _ => trivial⟩) fun stdoutTask => ?_
  refine .bindExcept (.lift ⟨rfl, fun _ => trivial⟩) fun stderrTask => ?_
  refine .bindExcept (.orFail ⟨trivial, fun _ => trivial⟩) fun success => ?_
  refine .bindExcept (.orFail ⟨trivial, fun _ => trivial⟩) fun stdoutText => ?_
  refine .bindExcept (.orFail ⟨trivial, fun _ => trivial⟩) fun stderrText => ?_
  split
  · trivial
  · split
    · exact .bindExcept (emitLogLine_uses _) fun _ => trivial
    · trivial

theorem runCommands_uses (labels : List String) :
    (runCommands eventsTx labels).run.Uses (Op.inPipeline eventsTx) := by
  induction labels with
  | nil => trivial
  | cons label labels ih => exact .bindExcept (runCommandStreaming_uses label) fun _ => ih

theorem cleanupRemote_uses : (cleanupRemote eventsTx).run.Uses (Op.inPipeline eventsTx) := by
  refine Prog.Uses.bind (runCommandStreaming_uses _) fun result => ?_
  rcases result with (_ | _) | _
  · trivial
  · trivial
  · trivial

theorem fetchWrapperAsset_uses (cfg : BuildConfig) (job : SubmissionBuildJob)
    (label releaseTag assetVersion : String) :
    (fetchWrapperAsset cfg job label releaseTag assetVersion).run.Uses
      (Op.inPipeline job.eventsTx) := by
  refine .bindExcept (.orFail ⟨trivial, fun _ => trivial⟩) fun cached => ?_
  cases cached with
  | some name => exact .bindExcept (emitLogLine_uses _) fun _ => trivial
  | none =>
      refine .bindExcept (emitLogLine_uses _) fun _ => ?_
      refine .bindExcept (.orFail ⟨trivial, fun _ => trivial⟩) fun assetName => ?_
      refine .bindExcept (emitLogLine_uses _) fun _ => ?_
      refine .bindExcept (.orFail ⟨trivial, fun _ => trivial⟩) fun _ => ?_
      refine .bindExcept (.orFail ⟨trivial, fun _ => trivial⟩) fun _ => ?_
      exact .bindExcept (emitLogLine_uses _) fun _ => trivial

theorem prepareWrapper_uses (cfg : BuildConfig) (job : SubmissionBuildJob)
    (label prepared : String) :
    (prepareWrapper cfg job label prepared).run.Uses (Op.inPipeline job.eventsTx) := by
  unfold prepareWrapper
  split
  · trivial
  · refine .bindExcept (fetchWrapperAsset_uses cfg job label _ _) fun assetName => ?_
    exact .bindExcept (.orFail ⟨trivial, fun _ => trivial⟩) fun _ => emitLogLine_uses _

theorem runRemoteBuildPipeline_uses (cfg : BuildConfig) (job : SubmissionBuildJob) :
    (runRemoteBuildPipeline cfg job).run.Uses (Op.inPipeline job.eventsTx) := by
  unfold runRemoteBuildPipeline
  split
  · trivial
  · refine .bindExcept (.orFail ⟨trivial, fun _ => trivial⟩) fun runConfig => ?_
    cases wrapperLabel job.wrapperKind with
    | none => trivial
    | some label =>
        refine .bindExcept (emitLogLine_uses _) fun _ => ?_
        refine .bindExcept (prepareWrapper_uses cfg job _ _) fun _ => ?_
        refine .bindExcept (.orFail ⟨trivial, fun _ => trivial⟩) fun _ => ?_
        refine .bindExcept (runCommands_uses remoteCommands) fun _ => ?_
        exact .bindExcept cleanupRemote_uses fun _ => trivial

/-! ## The worker -/

theorem cleanupOrphan_uses (candidate : OrphanedSubmissionRecord) :
    (cleanupOrphan candidate).Uses Op.offStream := by
  unfold cleanupOrphan
  cases candidate.imageRef with
  | none => exact ⟨trivial, fun _ => trivial⟩
  | some imageRef =>
      refine .call trivial fun deleted => ?_
      cases deleted with
      | error e => trivial
      | ok _ => exact .call trivial fun _ => .call trivial fun _ => trivial

theorem cleanupOrphans_uses (candidates : List OrphanedSubmissionRecord) :
    (cleanupOrphans candidates).Uses Op.offStream := by
  induction candidates with
  | nil => trivial
  | cons candidate candidates ih => exact .bind (cleanupOrphan_uses candidate) fun _ => ih

theorem cleanupOrphanedTeamSubmissions_uses (teamId keepSubmissionId : String) :
    (cleanupOrphanedTeamSubmissions teamId keepSubmissionId).Uses Op.offStream := by
  refine .call trivial fun candidates => ?_
  cases candidates with
  | error e => trivial
  | ok candidates => exact cleanupOrphans_uses candidates

theorem pipelineWithinTimeout_follows (cfg : BuildConfig) (job : SubmissionBuildJob) :
    (pipelineWithinTimeout cfg job).run.Follows buildProtocol (Still (.settling job.eventsTx))
      (.piping job.eventsTx) := by
  unfold pipelineWithinTimeout
  refine Prog.Follows.andThen ((runRemoteBuildPipeline_uses cfg job).follows fun op hop =>
    permits_of_inPipeline hop) fun result _ h => ?_
  subst h
  refine .call rfl fun _ => ?_
  cases result with
  | error e => rfl
  | ok imageRef => rfl

theorem markBuilding_follows (submissionId : String) :
    (Op.repo (.markBuilding submissionId)).call.Follows buildProtocol
      (Either (fun _ ph => ph = .piping eventsTx) (fun _ ph => ph = .settling eventsTx))
      (.settling eventsTx) := by
  refine ⟨trivial, fun marked => ?_⟩
  cases marked with
  | error e => rfl
  | ok _ => rfl

theorem processSubmissionJob_follows (cfg : BuildConfig) (job : SubmissionBuildJob) :
    (processSubmissionJob cfg job).run.Follows buildProtocol
      (Either (fun _ ph => ph = .finished job.eventsTx) (fun _ ph => ph = .settling job.eventsTx))
      (.settling job.eventsTx) := by
  refine Prog.Follows.bindExcept (.orFail (markBuilding_follows job.submissionId)) fun _ _ h1 => ?_
  subst h1
  refine Prog.Follows.bindExcept (pipelineWithinTimeout_follows cfg job) fun imageRef _ h2 => ?_
  subst h2
  refine Prog.Follows.bindExcept (offStream_follows ⟨trivial, fun _ => trivial⟩) fun _ _ h3 => ?_
  subst h3
  refine Prog.Follows.bindExcept (offStream_lift (cleanupOrphanedTeamSubmissions_uses _ _))
    fun _ _ h4 => ?_
  subst h4
  exact .lift ⟨Or.inl rfl, fun _ => rfl⟩

theorem handleJob_follows (cfg : BuildConfig) (job : SubmissionBuildJob) :
    (handleJob cfg job).Follows buildProtocol (fun _ ph => ph = .finished job.eventsTx)
      (.settling job.eventsTx) := by
  refine Prog.Follows.andThen (processSubmissionJob_follows cfg job) fun result _ h => ?_
  cases result with
  | ok _ => exact h
  | error message =>
      obtain rfl := h
      exact .call rfl fun _ => .call trivial fun _ => ⟨Or.inr rfl, fun _ => rfl⟩

theorem submissionWorker_follows (cfg : BuildConfig) (fuel : ℕ) :
    (submissionWorker cfg fuel).Follows buildProtocol (fun _ ph => ph = .idle) .idle := by
  induction fuel with
  | zero => rfl
  | succ fuel ih =>
      refine .call rfl fun taken => ?_
      cases taken with
      | none => rfl
      | some job =>
          refine Prog.Follows.andThen (handleJob_follows cfg job) fun _ _ h => ?_
          subst h
          exact .call rfl fun _ => ih

/-! ## Pumps and clients -/

theorem pumpLines_uses (label : String) (fuel : ℕ) (collected : String) :
    (pumpLines eventsTx label fuel collected).Uses (Op.ofPump eventsTx) := by
  induction fuel generalizing collected with
  | zero => trivial
  | succ fuel ih =>
      refine .call trivial fun read => ?_
      rcases read with _ | (_ | raw)
      · trivial
      · trivial
      · dsimp only
        split
        · exact ih collected
        · exact .call ⟨rfl, _, rfl⟩ fun _ => ih _

theorem pumpCommandOutput_follows (fuel : ℕ) :
    (pumpCommandOutput fuel).Follows buildProtocol (fun _ _ => True) .idle := by
  refine .call rfl fun taken => ?_
  cases taken with
  | none => trivial
  | some taken =>
      refine Prog.Follows.andThen ((pumpLines_uses taken.2.label fuel "").follows fun op hop =>
        permits_of_ofPump taken.1 hop) fun result _ h => ?_
      subst h
      cases result with
      | none => trivial
      | some result => exact ⟨rfl, fun _ => trivial⟩

theorem streamClient_uses (reads : ℕ) : (streamClient eventsTx reads).Uses Op.ofClient := by
  induction reads with
  | zero => exact ⟨trivial, fun _ => trivial⟩
  | succ reads ih =>
      refine .call trivial fun event => ?_
      cases event with
      | none => trivial
      | some event => exact ih

end Programs

end HackArena.Official
