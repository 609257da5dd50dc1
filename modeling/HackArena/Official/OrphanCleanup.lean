import HackArena.Official.BuildStreamRuns
import HackArena.Official.ImageRefs

/-!
# The clean-up of submissions

A build that has taken its slot is followed by a clean-up: the worker lists
the succeeded submissions of the team that no slot is assigned to, and
deletes their images and archives. Meanwhile handlers create and queue
further submissions. A submission is in the care of one task or of the queue
until it is assigned; once it is neither assigned nor in anyone's care it
stays so, and only such a submission is cleaned up.
-/

namespace HackArena.Official

open GuardedRun

/-! ## Images of two submissions -/

/-- The last colon is in front of the submission's tag. -/
theorem formatImageRef_tag {registry teamId submissionId imageRef : String}
    (h : formatImageRef registry teamId submissionId = .ok imageRef) :
    ∃ before, Text.rsplitOnce ':' imageRef.toList =
      some (before, "submission-".toList ++ (Text.trim submissionId).toList) := by
  unfold formatImageRef at h
  dsimp only at h
  split at h
  · cases h
  · obtain ⟨team, -, h⟩ := Except.bind_eq_ok.mp h
    obtain ⟨tag, htag, h⟩ := Except.bind_eq_ok.mp h
    obtain ⟨rfl, -, hchars⟩ := sanitizeTagComponent_ok htag
    obtain rfl := Except.ok.inj h
    have hcolon : ':' ∉ "submission-".toList ++ (Text.trim submissionId).toList := by
      intro hmem
      rcases List.mem_append.mp hmem with hmem | hmem
      · exact absurd hmem (by decide)
      · exact absurd (hchars _ hmem) (by decide)
    generalize String.ofList _ = host
    refine ⟨host.toList ++ "/ha3/team-".toList ++ team.toList, ?_⟩
    rw [← Text.rsplitOnce_append hcolon]
    congr 1
    simp

theorem formatImageRef_inj {registry teamId teamId' submissionId submissionId' imageRef : String}
    (hid : Text.trim submissionId = submissionId) (hid' : Text.trim submissionId' = submissionId')
    (h : formatImageRef registry teamId submissionId = .ok imageRef)
    (h' : formatImageRef registry teamId' submissionId' = .ok imageRef) :
    submissionId = submissionId' := by
  obtain ⟨before, hbefore⟩ := formatImageRef_tag h
  obtain ⟨before', hbefore'⟩ := formatImageRef_tag h'
  rw [hbefore, hid, hid'] at hbefore'
  have htails := (Prod.mk.inj (Option.some.inj hbefore')).2
  exact String.ext (List.append_cancel_left htails)

/-! ## The repository -/

/-- The ids that the service makes have no blanks around them. -/
structure RowSound (registry : String) (row : SubmissionRow) : Prop where
  id : Text.trim row.submissionId = row.submissionId
  archive : row.archivePath = row.submissionId
  image : ∀ imageRef ∈ row.imageRef,
    formatImageRef registry row.teamId row.submissionId = .ok imageRef

namespace SubmissionRepo

variable {registry : String} {r : SubmissionRepo}

def ids (r : SubmissionRepo) : List String := r.submissions.map (·.submissionId)

structure Sound (registry : String) (r : SubmissionRepo) : Prop where
  rows : ∀ row ∈ r.submissions, RowSound registry row
  nodup : r.ids.Nodup
  slots : ∀ submissionId, r.usedInSlot submissionId → submissionId ∈ r.ids

theorem usedInSlot_iff {submissionId : String} :
    r.usedInSlot submissionId ↔ ∃ slot, r.teamSubmissionSlots.lookup slot = some (some submissionId) := by
  constructor
  · rintro ⟨slot, -, hslot⟩
    exact ⟨slot, hslot⟩
  · rintro ⟨slot, hslot⟩
    have hmem : slot ∈ r.teamSubmissionSlots := Finmap.mem_of_lookup_eq_some hslot
    exact ⟨slot, Finmap.mem_keys.mpr hmem, hslot⟩

/-- A slot gets another submission, or none. -/
theorem usedInSlot_insert {slot : String × ℤ} {entry : Option String} {submissionId : String}
    (h : SubmissionRepo.usedInSlot
      { r with teamSubmissionSlots := r.teamSubmissionSlots.insert slot entry } submissionId) :
    entry = some submissionId ∨ r.usedInSlot submissionId := by
  obtain ⟨slot', hslot'⟩ := usedInSlot_iff.mp h
  change (r.teamSubmissionSlots.insert slot entry).lookup slot' = _ at hslot'
  rw [HashMap.lookup_insert_eq] at hslot'
  split at hslot'
  · exact Or.inl (Option.some.inj hslot')
  · exact Or.inr (usedInSlot_iff.mpr ⟨slot', hslot'⟩)

/-! ### Rows that are rewritten -/

variable {submissionId : String} {f : SubmissionRow → SubmissionRow}

theorem mem_update {row : SubmissionRow} : row ∈ (r.update submissionId f).submissions ↔
    ∃ old ∈ r.submissions, (if old.submissionId = submissionId then f old else old) = row :=
  List.mem_map

theorem ids_update (hf : ∀ row, (f row).submissionId = row.submissionId) :
    (r.update submissionId f).ids = r.ids := by
  rw [ids, ids, update, List.map_map]
  refine List.map_congr_left fun row _ => ?_
  dsimp only [Function.comp]
  split
  · exact hf row
  · rfl

theorem Sound.update (h : r.Sound registry) (hf : ∀ row, (f row).submissionId = row.submissionId)
    (hrow : ∀ row ∈ r.submissions, row.submissionId = submissionId → RowSound registry row →
      RowSound registry (f row)) : (r.update submissionId f).Sound registry where
  rows row hmem := by
    obtain ⟨old, hold, rfl⟩ := mem_update.mp hmem
    split
    · rename_i hid
      exact hrow old hold hid (h.rows old hold)
    · exact h.rows old hold
  nodup := by
    rw [ids_update hf]
    exact h.nodup
  slots id hused := by
    rw [ids_update hf]
    exact h.slots id hused

/-! ### What the queries see of a submission -/

/-- The submission of a team has not succeeded yet, and no slot is assigned
to it. -/
structure Open (r : SubmissionRepo) (submissionId teamId : String) : Prop where
  row : ∃ row ∈ r.submissions, row.submissionId = submissionId ∧ row.teamId = teamId ∧
    row.status ≠ .succeeded
  unused : ¬ r.usedInSlot submissionId

theorem Open.mem_ids {teamId : String} (h : r.Open submissionId teamId) : submissionId ∈ r.ids := by
  obtain ⟨row, hrow, rfl, -⟩ := h.row
  exact List.mem_map_of_mem hrow

/-- A row that is rewritten belongs to the same team, and does not succeed
by it. -/
theorem Open.update {id teamId : String} (h : r.Open id teamId)
    (hf : ∀ row, (f row).submissionId = row.submissionId ∧ (f row).teamId = row.teamId)
    (hstatus : ∀ row, row.status ≠ .succeeded → (f row).status ≠ .succeeded ∨ id ≠ submissionId) :
    (r.update submissionId f).Open id teamId where
  row := by
    obtain ⟨row, hrow, rfl, rfl, hopen⟩ := h.row
    refine ⟨_, mem_update.mpr ⟨row, hrow, rfl⟩, ?_⟩
    split
    · rename_i hid
      exact ⟨(hf row).1, (hf row).2, (hstatus row hopen).resolve_right fun hne => hne hid⟩
    · exact ⟨rfl, rfl, hopen⟩
  unused := h.unused

end SubmissionRepo

/-! ## In whose care a submission is -/

/-- A submission that is created is in the care of its handler, and then in
that of the worker that has taken its job. -/
inductive Custody where
  | idle
  | named (submissionId : String)
  | created (submissionId teamId : String)
  | building (job : SubmissionBuildJob)
  | cleaning (candidates : List OrphanedSubmissionRecord)

namespace Custody

def next (c : Custody) : (op : Op) → op.Answer → Custody
  | .outside .newUuid, submissionId => .named submissionId
  | .repo (.createSubmission submissionId teamId _), .ok _ => .created submissionId teamId
  | .build (.enqueue _), _ => .idle
  | .build .nextJob, some job => .building job
  | .build .nextJob, none => .idle
  | .repo (.markSucceededAndAssignSlot ..), _ => .idle
  | .repo (.listOrphanedSucceededSubmissions ..), .ok candidates => .cleaning candidates
  | _, _ => c

def Permits (registry : String) (c : Custody) : Op → Prop
  | .repo (.createSubmission submissionId _ archivePath) =>
      c = .named submissionId ∧ archivePath = submissionId
  | .build (.enqueue job) =>
      c = .created job.submissionId job.teamId ∧ job.archivePath = job.submissionId
  | .repo (.markSucceededAndAssignSlot submissionId teamId _ imageRef) =>
      ∃ job, c = .building job ∧ submissionId = job.submissionId ∧ teamId = job.teamId ∧
        formatImageRef registry job.teamId job.submissionId = .ok imageRef
  | .outside (.deleteRegistryImage imageRef) => ∃ candidates, c = .cleaning candidates ∧
      ∃ candidate ∈ candidates, candidate.imageRef = some imageRef
  | .outside (.deleteArtifacts archivePath) => ∃ candidates, c = .cleaning candidates ∧
      ∃ candidate ∈ candidates, candidate.archivePath = archivePath
  | _ => True

/-- The submission in the task's care, with its team. -/
def holds : Custody → Option (String × String)
  | .created submissionId teamId => some (submissionId, teamId)
  | .building job => some (job.submissionId, job.teamId)
  | .idle | .named _ | .cleaning _ => none

end Custody

def custodyProtocol (registry : String) : Protocol Op Op.Answer Custody where
  init := .idle
  next := Custody.next
  permits := Custody.Permits registry

/-- A call that creates, queues, assigns and deletes no submission. -/
def Op.besideSubmissions : Op → Prop
  | .outside .newUuid | .outside (.deleteRegistryImage _) | .outside (.deleteArtifacts _)
  | .build (.enqueue _) | .build .nextJob
  | .repo (.createSubmission ..) | .repo (.markSucceededAndAssignSlot ..)
  | .repo (.listOrphanedSucceededSubmissions ..) => False
  | _ => True

theorem permits_of_besideSubmissions {registry : String} {op : Op} (h : op.besideSubmissions)
    (c : Custody) : (custodyProtocol registry).permits c op ∧
      ∀ answer, (custodyProtocol registry).next c op answer = c := by
  cases op with
  | outside op =>
      cases op with
      | newUuid | deleteRegistryImage | deleteArtifacts => exact h.elim
      | _ => exact ⟨trivial, fun _ => rfl⟩
  | build op =>
      cases op with
      | enqueue | nextJob => exact h.elim
      | _ => exact ⟨trivial, fun _ => rfl⟩
  | repo op =>
      cases op with
      | createSubmission | markSucceededAndAssignSlot | listOrphanedSucceededSubmissions =>
          exact h.elim
      | _ => exact ⟨trivial, fun _ => rfl⟩
  | _ => exact ⟨trivial, fun _ => rfl⟩

section Programs

open Prog

variable {registry : String} {c : Custody} {α ε ε' : Type}

/-- The task is where it was, unless it has failed. -/
abbrev Stays (c : Custody) : Except ε α → Custody → Prop :=
  Either (fun _ c' => c' = c) (fun _ _ => True)

abbrev Anyhow : Except ε α → Custody → Prop := fun _ _ => True

theorem anyhow {x : ExceptT ε OfficialProg α}
    (h : x.run.Follows (custodyProtocol registry)
      (Either (fun _ _ => True) fun _ _ => True) c) :
    x.run.Follows (custodyProtocol registry) Anyhow c :=
  h.mono fun _ _ _ => trivial

/-- A part after which any custody will do. -/
theorem then_anyhow {x : ExceptT ε OfficialProg α} {f : α → ExceptT ε OfficialProg β}
    (h : x.run.Follows (custodyProtocol registry)
      (Either (fun _ _ => True) fun _ _ => True) c)
    (hf : ∀ a c', (f a).run.Follows (custodyProtocol registry)
      (Either (fun _ _ => True) fun _ _ => True) c') :
    (x >>= f).run.Follows (custodyProtocol registry)
      (Either (fun _ _ => True) fun _ _ => True) c :=
  h.bindExcept fun a c' _ => hf a c'

theorem besideSubmissions_follows {p : OfficialProg α} (h : p.Uses Op.besideSubmissions) :
    p.Follows (custodyProtocol registry) (fun _ c' => c' = c) c :=
  h.follows fun _ hop => permits_of_besideSubmissions hop c

theorem beside_stays {x : ExceptT ε OfficialProg α} (h : x.run.Uses Op.besideSubmissions) :
    x.run.Follows (custodyProtocol registry) (Stays c) c := by
  refine Prog.Follows.mono (besideSubmissions_follows h) ?_
  rintro (e | a) c' rfl
  · trivial
  · rfl

theorem beside_orFail {f : ε → ε'} {p : OfficialProg (Except ε α)}
    (h : p.Uses Op.besideSubmissions) :
    (p.orFail f).run.Follows (custodyProtocol registry) (Stays c) c := beside_stays (.orFail h)

theorem beside_lift {p : OfficialProg α} (h : p.Uses Op.besideSubmissions) :
    (liftM p : ExceptT ε OfficialProg α).run.Follows (custodyProtocol registry) (Stays c) c :=
  beside_stays (.lift h)

theorem call_beside {op : Op} (h : op.besideSubmissions) : op.call.Uses Op.besideSubmissions :=
  ⟨h, fun _ => trivial⟩

/-! ### The handler -/

theorem createSubmission_follows (submissionId teamId context : String) :
    ((Op.repo (.createSubmission submissionId teamId submissionId)).call.orFail
      (internal context)).run.Follows (custodyProtocol registry)
      (Stays (.created submissionId teamId)) (.named submissionId) := by
  refine Prog.Follows.orFail ⟨⟨rfl, rfl⟩, fun created => ?_⟩
  cases created with
  | error e => trivial
  | ok _ => rfl

theorem queueSubmission_custody (req : CheckedRequest) (teamId : String) (eventsTx : ℕ) :
    (queueSubmission req teamId eventsTx).run.Follows (custodyProtocol registry) Anyhow .idle := by
  apply anyhow
  have hnewUuid : (perform (Op.outside .newUuid)).Follows
      (custodyProtocol registry) (fun submissionId c => c = .named submissionId) .idle :=
    ⟨trivial, fun _ => rfl⟩
  refine .bindExcept hnewUuid.lift fun submissionId _ h1 => ?_
  subst h1
  refine .bindExcept (beside_orFail (call_beside trivial)) fun _ _ h2 => ?_
  subst h2
  refine .bindExcept (beside_orFail (call_beside trivial)) fun _ _ h3 => ?_
  subst h3
  refine .bindExcept (createSubmission_follows _ _ _) fun _ _ h4 => ?_
  subst h4
  refine .bindExcept (beside_orFail (call_beside trivial)) fun _ _ h5 => ?_
  subst h5
  refine then_anyhow (.lift ⟨⟨rfl, rfl⟩, fun _ => trivial⟩) fun accepted _ => ?_
  cases accepted <;> trivial

theorem loadedSlotForTeamForActiveRuntime_beside (teamId : String) :
    (loadedSlotForTeamForActiveRuntime teamId).Uses Op.besideSubmissions := by
  refine .call trivial fun runtime => ?_
  cases runtime with
  | error e => trivial
  | ok runtime =>
      dsimp only
      split
      · exact ⟨trivial, fun _ => trivial⟩
      · exact ⟨trivial, fun _ => trivial⟩
      · trivial
      · trivial

theorem submitJob_custody (req : CheckedRequest) (userId : String) (eventsTx : ℕ) :
    (submitJob req userId eventsTx).run.Follows (custodyProtocol registry) Anyhow .idle := by
  apply anyhow
  refine .bindExcept (beside_orFail (call_beside trivial)) fun teamId _ h1 => ?_
  subst h1
  refine .bindExcept (beside_lift (loadedSlotForTeamForActiveRuntime_beside teamId))
    fun loadedSlot _ h2 => ?_
  subst h2
  split
  · trivial
  · refine .bindExcept (beside_orFail (call_beside trivial)) fun selected _ h3 => ?_
    subst h3
    split
    · trivial
    · exact Prog.Follows.mono (queueSubmission_custody req teamId eventsTx) fun r _ _ => by
        cases r <;> trivial

theorem submitBuildStream_custody (cfg : BuildConfig) (req : SubmitBuildRequest) :
    (submitBuildStream cfg req).Follows (custodyProtocol registry) (fun _ _ => True) .idle := by
  refine .call trivial fun user => ?_
  cases user with
  | error status => trivial
  | ok userId =>
      dsimp only
      cases req.check cfg with
      | error status => trivial
      | ok checked =>
          refine .call trivial fun eventsTx => ?_
          refine Prog.Follows.andThen (submitJob_custody checked userId eventsTx) fun result _ _ => ?_
          cases result with
          | error status => exact ⟨trivial, fun _ => trivial⟩
          | ok job => exact ⟨trivial, fun _ => ⟨trivial, fun _ => trivial⟩⟩

/-! ### The pipeline -/

variable {eventsTx : ℕ}

theorem emitLogLine_beside (line : String) :
    (emitLogLine eventsTx line).run.Uses Op.besideSubmissions := Prog.Uses.orFail (call_beside trivial)

theorem runCommandStreaming_beside (label : String) :
    (runCommandStreaming label eventsTx).run.Uses Op.besideSubmissions := by
  refine .bindExcept (.orFail (call_beside trivial)) fun _ => ?_
  refine .bindExcept (.lift (call_beside trivial)) fun stdoutTask => ?_
  refine .bindExcept (.lift (call_beside trivial)) fun stderrTask => ?_
  refine .bindExcept (.orFail (call_beside trivial)) fun success => ?_
  refine .bindExcept (.orFail (call_beside trivial)) fun stdoutText => ?_
  refine .bindExcept (.orFail (call_beside trivial)) fun stderrText => ?_
  split
  · trivial
  · split
    · exact .bindExcept (emitLogLine_beside _) fun _ => trivial
    · trivial

theorem runCommands_beside (labels : List String) :
    (runCommands eventsTx labels).run.Uses Op.besideSubmissions := by
  induction labels with
  | nil => trivial
  | cons label labels ih => exact .bindExcept (runCommandStreaming_beside label) fun _ => ih

theorem cleanupRemote_beside : (cleanupRemote eventsTx).run.Uses Op.besideSubmissions := by
  refine Prog.Uses.bind (runCommandStreaming_beside _) fun result => ?_
  rcases result with (_ | _) | _
  · trivial
  · trivial
  · trivial

theorem prepareWrapper_beside (cfg : BuildConfig) (job : SubmissionBuildJob)
    (label prepared : String) :
    (prepareWrapper cfg job label prepared).run.Uses Op.besideSubmissions := by
  have hfetch : ∀ releaseTag assetVersion,
      (fetchWrapperAsset cfg job label releaseTag assetVersion).run.Uses Op.besideSubmissions := by
    intro releaseTag assetVersion
    refine .bindExcept (.orFail (call_beside trivial)) fun cached => ?_
    cases cached with
    | some name => exact .bindExcept (emitLogLine_beside _) fun _ => trivial
    | none =>
        refine .bindExcept (emitLogLine_beside _) fun _ => ?_
        refine .bindExcept (.orFail (call_beside trivial)) fun assetName => ?_
        refine .bindExcept (emitLogLine_beside _) fun _ => ?_
        refine .bindExcept (.orFail (call_beside trivial)) fun _ => ?_
        refine .bindExcept (.orFail (call_beside trivial)) fun _ => ?_
        exact .bindExcept (emitLogLine_beside _) fun _ => trivial
  unfold prepareWrapper
  split
  · trivial
  · refine .bindExcept (hfetch _ _) fun assetName => ?_
    exact .bindExcept (.orFail (call_beside trivial)) fun _ => emitLogLine_beside _

/-- The pipeline touches no submission, and ends with the image of its own. -/
theorem runRemoteBuildPipeline_custody (cfg : BuildConfig) (job : SubmissionBuildJob) :
    (runRemoteBuildPipeline cfg job).run.Follows (custodyProtocol registry)
      (Either (fun imageRef c' => c' = c ∧
        formatImageRef cfg.registry job.teamId job.submissionId = .ok imageRef)
        fun _ _ => True) c := by
  unfold runRemoteBuildPipeline
  split
  · trivial
  · rename_i imageRef hformat
    refine .bindExcept (beside_orFail (call_beside trivial)) fun runConfig _ h1 => ?_
    subst h1
    cases wrapperLabel job.wrapperKind with
    | none => trivial
    | some label =>
        refine .bindExcept (beside_stays (emitLogLine_beside _)) fun _ _ h2 => ?_
        subst h2
        refine .bindExcept (beside_stays (prepareWrapper_beside cfg job _ _)) fun _ _ h3 => ?_
        subst h3
        refine .bindExcept (beside_orFail (call_beside trivial)) fun _ _ h4 => ?_
        subst h4
        refine .bindExcept (beside_stays (runCommands_beside remoteCommands)) fun _ _ h5 => ?_
        subst h5
        refine .bindExcept (beside_stays cleanupRemote_beside) fun _ _ h6 => ?_
        subst h6
        exact ⟨rfl, hformat⟩

/-! ### The worker -/

theorem cleanupOrphan_custody {candidates : List OrphanedSubmissionRecord}
    {candidate : OrphanedSubmissionRecord} (hmem : candidate ∈ candidates) :
    (cleanupOrphan candidate).Follows (custodyProtocol registry)
      (fun _ c' => c' = .cleaning candidates) (.cleaning candidates) := by
  have hartifacts : (custodyProtocol registry).permits (.cleaning candidates)
      (.outside (.deleteArtifacts candidate.archivePath)) :=
    ⟨candidates, rfl, candidate, hmem, rfl⟩
  unfold cleanupOrphan
  split
  · exact .call hartifacts fun _ => rfl
  · rename_i imageRef himage
    refine .call ⟨candidates, rfl, candidate, hmem, himage⟩ fun deleted => ?_
    cases deleted with
    | error e => rfl
    | ok _ => exact .call trivial fun _ => .call hartifacts fun _ => rfl

theorem cleanupOrphans_custody {candidates rest : List OrphanedSubmissionRecord}
    (hsub : rest ⊆ candidates) :
    (cleanupOrphans rest).Follows (custodyProtocol registry) (fun _ c' => c' = .cleaning candidates)
      (.cleaning candidates) := by
  induction rest with
  | nil => rfl
  | cons candidate rest ih =>
      refine Prog.Follows.andThen (cleanupOrphan_custody (hsub List.mem_cons_self)) fun _ _ h => ?_
      subst h
      exact ih fun _ hmem => hsub (List.mem_cons_of_mem _ hmem)

theorem cleanupOrphanedTeamSubmissions_custody (teamId keepSubmissionId : String) :
    (cleanupOrphanedTeamSubmissions teamId keepSubmissionId).Follows (custodyProtocol registry)
      (fun _ _ => True) c := by
  refine .call trivial fun answer => ?_
  cases answer with
  | error e => trivial
  | ok candidates =>
      exact Prog.Follows.mono (cleanupOrphans_custody (List.Subset.refl candidates))
        fun _ _ _ => trivial

theorem processSubmissionJob_custody (cfg : BuildConfig) (job : SubmissionBuildJob) :
    (processSubmissionJob cfg job).run.Follows (custodyProtocol cfg.registry) Anyhow
      (.building job) := by
  apply anyhow
  refine .bindExcept (beside_orFail (call_beside trivial)) fun _ _ h1 => ?_
  subst h1
  refine Prog.Follows.bindExcept (?_ : Prog.Follows _ (Either (fun imageRef c' => c' = .building job ∧
    formatImageRef cfg.registry job.teamId job.submissionId = .ok imageRef) _) _ _)
    fun imageRef _ h2 => ?_
  · refine Prog.Follows.andThen (runRemoteBuildPipeline_custody cfg job) fun result c' h => ?_
    refine .call trivial fun _ => ?_
    cases result with
    | error e => trivial
    | ok imageRef => exact h
  obtain ⟨rfl, hformat⟩ := h2
  refine then_anyhow
    (Prog.Follows.orFail ⟨⟨job, rfl, rfl, rfl, hformat⟩, fun r => by cases r <;> trivial⟩)
    fun _ _ => ?_
  refine then_anyhow (.lift (cleanupOrphanedTeamSubmissions_custody _ _)) fun _ _ => ?_
  exact .lift ⟨trivial, fun _ => trivial⟩

theorem submissionWorker_custody (cfg : BuildConfig) (fuel : ℕ) :
    (submissionWorker cfg fuel).Follows (custodyProtocol cfg.registry) (fun _ _ => True) c := by
  induction fuel generalizing c with
  | zero => trivial
  | succ fuel ih =>
      refine .call trivial fun taken => ?_
      cases taken with
      | none => trivial
      | some job =>
          refine Prog.Follows.andThen (?_ : Prog.Follows _ (fun _ _ => True) _ _) fun _ _ _ =>
            .call trivial fun _ => ih
          refine Prog.Follows.andThen (processSubmissionJob_custody cfg job) fun result c' _ => ?_
          cases result with
          | ok _ => trivial
          | error message =>
              exact .call trivial fun _ => .call trivial fun _ => ⟨trivial, fun _ => trivial⟩

end Programs

end HackArena.Official
