import HackArena.Official.System

/-!
# Builds of submissions

A request for a build is checked, recorded and queued; its handler then
announces it and hands the stream of events to the client. The worker
takes one job at a time. The pipeline of a job runs within a time limit
and streams the output of its commands through tasks of their own.
-/

namespace HackArena.Official

open HackArena.Runtime HackArena.Services

structure BuildConfig where
  registry : String
  submissionBuildTimeoutSec : ℕ
  archiveMaxMb : ℕ
  wrapperGhOwner : String
  wrapperGhRepo : WrapperKind → String

/-- The wrapper kind is absent when its number is none of the enumeration;
of the archive only the size is used. -/
structure SubmitBuildRequest where
  wrapperKind : Option WrapperKind
  wrapperVersion : String
  slot : Option ℤ
  archiveLen : ℕ
  deriving DecidableEq, Repr

/-! ## The handler

The functions on texts are irreducible: a proof that follows a task up to
its next call does not run them. -/

/-- The slot of the bot that runs for the team, in the registry that goes
with the activity of the runtime. -/
def loadedSlotForTeamForActiveRuntime (teamId : String) : OfficialProg (Option ℤ) := do
  match ← (Op.engine .runtimeState).call with
  | .error _ => pure none
  | .ok runtime =>
      match runtime.activityKind with
      | .sandbox => do
          let entry ← (Op.join (.get teamId)).call
          pure (entry.map (·.slotIndex))
      | .officialRace => do
          let entry ← (Op.bot (.get teamId)).call
          pure (entry.map (·.slotIndex))
      | .localRace | .none => pure none

/-- A request without the checks that need no call. -/
structure CheckedRequest where
  wrapperKind : WrapperKind
  wrapperVersion : String
  slotIndex : ℤ

@[irreducible] def SubmitBuildRequest.check (cfg : BuildConfig) (req : SubmitBuildRequest) :
    Except Status CheckedRequest :=
  match req.wrapperKind with
  | none => .error ⟨.invalidArgument, "invalid wrapper_kind"⟩
  | some wrapperKind =>
      if wrapperKind ≠ .python ∧ wrapperKind ≠ .csharp ∧ wrapperKind ≠ .jsTs then
        .error ⟨.invalidArgument, "only WRAPPER_KIND_PYTHON, WRAPPER_KIND_CSHARP and " ++
          "WRAPPER_KIND_JS_TS are supported in MVP"⟩
      else if Text.isBlank req.wrapperVersion then
        .error ⟨.invalidArgument, "wrapper_version must be non-empty"⟩
      else
        match req.slot with
        | none => .error ⟨.failedPrecondition, "slot must be set and must be between 1 and 3"⟩
        | some slotIndex =>
            if slotIndex < 1 ∨ 3 < slotIndex then
              .error ⟨.failedPrecondition, "slot must be set and must be between 1 and 3"⟩
            else if req.archiveLen = 0 then
              .error ⟨.invalidArgument, "user_archive_tar_gz must be non-empty"⟩
            else if cfg.archiveMaxMb * 1024 * 1024 < req.archiveLen then
              .error ⟨.resourceExhausted, "archive exceeds SUBMISSION_ARCHIVE_MAX_MB (" ++
                toString cfg.archiveMaxMb ++ " MB)"⟩
            else .ok ⟨wrapperKind, Text.trim req.wrapperVersion, slotIndex⟩

/-- The row, the slots and the job of a request. -/
def queueSubmission (req : CheckedRequest) (teamId : String) (eventsTx : ℕ) :
    StatusProg SubmissionBuildJob := do
  let submissionId ← liftM (Op.outside .newUuid).call
  (Op.outside (.createDirAll submissionId)).call.orFail
    (internal "failed to create submission directory")
  (Op.outside (.writeFile submissionId)).call.orFail
    (internal "failed to persist submission archive")
  (Op.repo (.createSubmission submissionId teamId submissionId)).call.orFail
    (internal "failed to persist submission")
  (Op.repo (.ensureTeamSlots teamId)).call.orFail (internal "failed to ensure team slots")
  let job : SubmissionBuildJob :=
    ⟨submissionId, teamId, req.slotIndex, req.wrapperKind, req.wrapperVersion, submissionId, eventsTx⟩
  let queued ← liftM (Op.build (.enqueue job)).call
  if queued then pure job else throw ⟨.unavailable, "submission worker is unavailable"⟩

/-- From the resolution of the team on. -/
def submitJob (req : CheckedRequest) (userId : String) (eventsTx : ℕ) :
    StatusProg SubmissionBuildJob := do
  let teamId ← (Op.outside (.resolveTeamId userId)).call.orFail id
  let loadedSlot ← liftM (loadedSlotForTeamForActiveRuntime teamId)
  if some req.slotIndex = loadedSlot then
    throw ⟨.failedPrecondition, "requested slot is currently loaded"⟩
  else do
    let persistedSelectedSlot ← (Op.repo (.getSelectedSlotIndex teamId)).call.orFail
      (internal "failed to resolve selected slot")
    if loadedSlot.isSome ∧ persistedSelectedSlot = some req.slotIndex ∧
        persistedSelectedSlot ≠ loadedSlot then
      throw ⟨.failedPrecondition, "requested slot is selected for pending pit switch"⟩
    else queueSubmission req teamId eventsTx

/-- Both ends of the channel are dropped with an error. Otherwise the
receiver goes out with the response, after the first event. -/
def submitBuildStream (cfg : BuildConfig) (req : SubmitBuildRequest) :
    OfficialProg (Except Status ℕ) := do
  match ← (Op.outside .subject).call with
  | .error status => pure (.error status)
  | .ok userId =>
  match req.check cfg with
  | .error status => pure (.error status)
  | .ok checked => do
  let eventsTx ← (Op.build .channel).call
  match ← (submitJob checked userId eventsTx).run with
  | .error status => do
      (Op.build (.discard eventsTx)).call
      pure (.error status)
  | .ok job => do
      (Op.build (.send .handler eventsTx (.started job.submissionId))).call
      (Op.build (.respond eventsTx)).call
      pure (.ok eventsTx)

/-! ## The pipeline -/

abbrev PipelineProg := ExceptT PipelineError OfficialProg

@[irreducible] def formatImageRef (registry teamId submissionId : String) : Except String String := do
  let registry := String.ofList ((Text.trimChars registry.toList).rdropWhile (· == '/'))
  if registry.isEmpty then throw "REGISTRY must be non-empty"
  else
    let team ← sanitizeTagComponent teamId
    let submission ← sanitizeTagComponent submissionId
    return registry ++ "/ha3/team-" ++ team ++ ":submission-" ++ submission

@[irreducible] def normalizeWrapperVersion (raw : String) : Except String (String × String) :=
  let trimmed := Text.trim raw
  if trimmed.isEmpty then .error "wrapper_version must be non-empty"
  else
    let assetVersion := String.ofList (trimmed.toList.dropWhile (· == 'v'))
    if assetVersion.isEmpty then
      .error "wrapper_version must contain version after optional `v` prefix"
    else .ok ("v" ++ assetVersion, assetVersion)

/-- Any of the texts is part of the output. -/
def mentions (output : List Char) (texts : List String) : Bool :=
  texts.any fun text => Text.contains output text.toList

@[irreducible] def sshErrorHint (stderr : String) : Option String :=
  let lower := Text.asciiLowercase stderr
  if mentions lower ["permission denied (publickey)"] then
    some "SSH auth failed: upload matching public key to builder root/.ssh/authorized_keys"
  else if mentions lower ["identity file"] && mentions lower ["not accessible", "no such file"] then
    some "SSH key file is missing or unreadable (BUILDER_SSH_KEY_PATH)"
  else if mentions lower ["host key verification failed",
      "remote host identification has changed"] then
    some "SSH host key verification failed (known_hosts mismatch)"
  else if mentions lower ["no basic auth credentials", "push access denied",
      "authorization failed"] then
    some "Registry auth failed on builder (docker login required on builder host)"
  else if mentions lower ["could not resolve hostname"] then
    some "SSH host resolution failed for BUILDER_HOST"
  else none

def emitLogLine (eventsTx : ℕ) (line : String) : PipelineProg Unit :=
  (Op.build (.sendTimed eventsTx (.log line))).call.orFail id

/-- Both output streams are pumped by tasks of their own, which are left
behind if the wait for the command or for the first of them ends with an
error. -/
def runCommandStreaming (label : String) (eventsTx : ℕ) : PipelineProg Unit := do
  (Op.outside (.spawnCommand label)).call.orFail
    fun e => .failed ("failed to spawn " ++ label ++ ": " ++ e)
  let stdoutTask ← liftM (Op.build (.spawnPump eventsTx (label ++ "/stdout"))).call
  let stderrTask ← liftM (Op.build (.spawnPump eventsTx (label ++ "/stderr"))).call
  let success ← (Op.outside (.waitChild label)).call.orFail id
  let stdoutText ← (Op.build (.joinPump stdoutTask)).call.orFail id
  let stderrText ← (Op.build (.joinPump stderrTask)).call.orFail id
  if success then pure ()
  else
    match sshErrorHint stderrText with
    | some hint => do
        emitLogLine eventsTx ("[" ++ label ++ "] " ++ hint)
        throw (.failed (label ++ " failed: " ++ hint))
    | none => throw (.failed (label ++ " failed (stdout: " ++ stdoutText ++ ")"))

def runCommands (eventsTx : ℕ) : List String → PipelineProg Unit
  | [] => pure ()
  | label :: labels => do
      runCommandStreaming label eventsTx
      runCommands eventsTx labels

/-- The label of a wrapper in log lines, and its last one. -/
def wrapperLabel : WrapperKind → Option (String × String)
  | .python => some ("python", "wrapper wheel prepared")
  | .csharp => some ("csharp", "wrapper package prepared")
  | .jsTs => some ("ts", "wrapper package prepared")
  | .cpp | .unspecified => none

def fetchWrapperAsset (cfg : BuildConfig) (job : SubmissionBuildJob) (label : String)
    (releaseTag assetVersion : String) : PipelineProg String := do
  let repo := cfg.wrapperGhRepo job.wrapperKind
  let log := fun line => emitLogLine job.eventsTx ("[wrapper-fetch/" ++ label ++ "] " ++ line)
  match ← (Op.outside (.loadCachedWrapperAsset repo releaseTag assetVersion)).call.orFail id with
  | some cachedName => do
      log ("cache hit `" ++ cachedName ++ "`")
      pure cachedName
  | none => do
      log "resolving release asset"
      let assetName ← (Op.outside (.resolveReleaseAsset repo releaseTag assetVersion)).call.orFail id
      log ("downloading `" ++ assetName ++ "` from " ++ cfg.wrapperGhOwner ++ "/" ++ repo)
      (Op.outside (.downloadReleaseAsset repo assetName)).call.orFail id
      (Op.outside (.storeCachedWrapperAsset repo releaseTag assetName)).call.orFail id
      log ("cached `" ++ assetName ++ "`")
      pure assetName

/-- `prepare_python_wrapper_wheel` and its two siblings. -/
def prepareWrapper (cfg : BuildConfig) (job : SubmissionBuildJob) (label prepared : String) :
    PipelineProg Unit :=
  match normalizeWrapperVersion job.wrapperVersion with
  | .error e => throw (.failed e)
  | .ok (releaseTag, assetVersion) => do
      let assetName ← fetchWrapperAsset cfg job label releaseTag assetVersion
      (Op.outside (.installWrapper assetName)).call.orFail id
      emitLogLine job.eventsTx ("[wrapper-fetch/" ++ label ++ "] " ++ prepared)

def remoteCommands : List String :=
  ["scp", "ssh/prepare", "ssh/docker-build", "ssh/verify-image", "ssh/docker-push"]

/-- A remote cleanup that fails is passed over, but not one that is cut
off by the time limit. -/
def cleanupRemote (eventsTx : ℕ) : PipelineProg Unit :=
  ExceptT.mk do
    match ← (runCommandStreaming "ssh/cleanup" eventsTx).run with
    | .error .elapsed => pure (.error .elapsed)
    | .error (.failed _) | .ok () => pure (.ok ())

def runRemoteBuildPipeline (cfg : BuildConfig) (job : SubmissionBuildJob) : PipelineProg String :=
  match formatImageRef cfg.registry job.teamId job.submissionId with
  | .error e => throw (.failed e)
  | .ok imageRef => do
      let runConfig ← (Op.outside (.prepareBuildContext job)).call.orFail id
      match wrapperLabel job.wrapperKind with
      | none => throw (.failed "unsupported wrapper kind")
      | some (label, prepared) => do
          emitLogLine job.eventsTx ("[context/" ++ label ++ "] resolved run config: " ++ runConfig)
          prepareWrapper cfg job label prepared
          (Op.outside .packageContext).call.orFail id
          runCommands job.eventsTx remoteCommands
          cleanupRemote job.eventsTx
          pure imageRef

/-! ## The worker -/

/-- A submission whose image cannot be deleted is left alone. -/
def cleanupOrphan (candidate : OrphanedSubmissionRecord) : OfficialProg Unit := do
  match candidate.imageRef with
  | none => do
      let _ ← (Op.outside (.deleteArtifacts candidate.archivePath)).call
      pure ()
  | some imageRef =>
      match ← (Op.outside (.deleteRegistryImage imageRef)).call with
      | .error _ => pure ()
      | .ok () => do
          let _ ← (Op.repo (.clearImageRef candidate.submissionId)).call
          let _ ← (Op.outside (.deleteArtifacts candidate.archivePath)).call
          pure ()

def cleanupOrphans : List OrphanedSubmissionRecord → OfficialProg Unit
  | [] => pure ()
  | candidate :: candidates => do
      cleanupOrphan candidate
      cleanupOrphans candidates

def cleanupOrphanedTeamSubmissions (teamId keepSubmissionId : String) : OfficialProg Unit := do
  match ← (Op.repo (.listOrphanedSucceededSubmissions teamId keepSubmissionId)).call with
  | .error _ => pure ()
  | .ok candidates => cleanupOrphans candidates

/-- How the pipeline ends for the job. -/
def pipelineMessage (timeoutSec : ℕ) : PipelineError → String
  | .elapsed => "submission build timed out after " ++ toString timeoutSec ++ " seconds"
  | .failed e => e

/-- The pipeline is dropped where it waits when its time is up; whether it
has ended or has been dropped, the time limit ends with it. -/
def pipelineWithinTimeout (cfg : BuildConfig) (job : SubmissionBuildJob) :
    ExceptT String OfficialProg String :=
  ExceptT.mk do
    let result ← (runRemoteBuildPipeline cfg job).run
    (Op.build (.timeoutEnds job.eventsTx)).call
    match result with
    | .error e => pure (.error (pipelineMessage cfg.submissionBuildTimeoutSec e))
    | .ok imageRef => pure (.ok imageRef)

def processSubmissionJob (cfg : BuildConfig) (job : SubmissionBuildJob) :
    ExceptT String OfficialProg Unit := do
  (Op.repo (.markBuilding job.submissionId)).call.orFail
    ("failed to mark submission as building: " ++ ·)
  let imageRef ← pipelineWithinTimeout cfg job
  (Op.repo (.markSucceededAndAssignSlot job.submissionId job.teamId job.slotIndex imageRef)).call.orFail
    fun e => "failed to mark submission succeeded and assign slot team_id=" ++ job.teamId ++
      " slot_index=" ++ toString job.slotIndex ++ ": " ++ e
  liftM (cleanupOrphanedTeamSubmissions job.teamId job.submissionId)
  liftM (Op.build (.send .worker job.eventsTx (.finished true))).call

def reportFailure (job : SubmissionBuildJob) (message : String) : OfficialProg Unit := do
  (Op.build (.send .worker job.eventsTx (.log ("build failed: " ++ message)))).call
  let _ ← (Op.repo (.markFailed job.submissionId message)).call
  (Op.build (.send .worker job.eventsTx (.finished false))).call

def handleJob (cfg : BuildConfig) (job : SubmissionBuildJob) : OfficialProg Unit := do
  match ← (processSubmissionJob cfg job).run with
  | .ok () => pure ()
  | .error message => reportFailure job message

def submissionWorker (cfg : BuildConfig) : ℕ → OfficialProg Unit
  | 0 => pure ()
  | fuel + 1 => do
      match ← (Op.build .nextJob).call with
      | none => pure ()
      | some job => do
          handleJob cfg job
          (Op.build (.dropJob job.eventsTx)).call
          submissionWorker cfg fuel

/-! ## Pumps and clients -/

/-- `trim_end_matches(['\r', '\n'])`. -/
@[irreducible] def trimLineEnd (raw : String) : String :=
  String.ofList (raw.toList.rdropWhile fun c => c == '\r' || c == '\n')

/-- The loop over the lines of an output stream. -/
def pumpLines (eventsTx : ℕ) (label : String) : ℕ → String →
    OfficialProg (Option (Except String String))
  | 0, _ => pure none
  | fuel + 1, collected => do
      match ← (Op.outside .readUntilNewline).call with
      | .error e => pure (some (.error e))
      | .ok none => pure (some (.ok collected))
      | .ok (some raw) =>
          let line := trimLineEnd raw
          if line.isEmpty then pumpLines eventsTx label fuel collected
          else do
            let collected := if collected.isEmpty then line else collected ++ "\n" ++ line
            (Op.build (.send .pump eventsTx (.log ("[" ++ label ++ "] " ++ line)))).call
            pumpLines eventsTx label fuel collected

/-- One task that has been spawned. -/
def pumpCommandOutput (fuel : ℕ) : OfficialProg Unit := do
  match ← (Op.build .takePump).call with
  | none => pure ()
  | some (task, pump) => do
      match ← pumpLines pump.eventsTx pump.label fuel "" with
      | none => pure ()
      | some result => (Op.build (.endPump task pump.eventsTx result)).call

/-- A client reads a number of events at most, and hangs up. -/
def streamClient (eventsTx : ℕ) : ℕ → OfficialProg Unit
  | 0 => (Op.build (.dropReceiver eventsTx)).call
  | reads + 1 => do
      match ← (Op.build (.recv eventsTx)).call with
      | none => pure ()
      | some _ => streamClient eventsTx reads

end HackArena.Official
