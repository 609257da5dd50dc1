import HackArena.Official.Input
import Mathlib.Data.String.Basic

/-!
# The submission repository

Two tables and a third one: the submissions of the teams, the slots that
they are assigned to, and the slot that a team has selected. A statement
that fails may have been carried out all the same. The columns that no
modelled query reads are left out.
-/

namespace HackArena.Official

open HackArena

inductive SubmissionStatusRecord where
  | queued | building | succeeded | failed
  deriving DecidableEq, Repr

structure SubmissionRow where
  submissionId : String
  teamId : String
  status : SubmissionStatusRecord
  imageRef : Option String
  archivePath : String
  deriving DecidableEq, Repr

/-- The submissions in the order of their creation. A slot that has never
been assigned has a row without a submission. -/
structure SubmissionRepo where
  submissions : List SubmissionRow
  teamSubmissionSlots : HashMap (String × ℤ) (Option String)
  teamSelectedSlots : HashMap String ℤ

def SubmissionRepo.empty : SubmissionRepo := ⟨[], ∅, ∅⟩

structure SucceededTeamSlotSubmissionRecord where
  submissionId : String
  imageRef : Option String
  deriving DecidableEq, Repr

structure OrphanedSubmissionRecord where
  submissionId : String
  imageRef : Option String
  archivePath : String
  deriving DecidableEq, Repr

inductive RepoOp where
  | createSubmission (submissionId teamId archivePath : String)
  | markBuilding (submissionId : String)
  | markSucceededAndAssignSlot (submissionId teamId : String) (slotIndex : ℤ) (imageRef : String)
  | markFailed (submissionId errorMessage : String)
  | ensureTeamSlots (teamId : String)
  | getSelectedSlotIndex (teamId : String)
  | upsertSelectedSlotIndex (teamId : String) (slotIndex : ℤ)
  | listFilledSucceededSlots (teamId : String)
  | getSucceededSubmissionForSlot (teamId : String) (slotIndex : ℤ)
  | listOrphanedSucceededSubmissions (teamId keepSubmissionId : String)
  | clearImageRef (submissionId : String)

abbrev RepoOp.Answer : RepoOp → Type
  | .getSelectedSlotIndex _ => Except String (Option ℤ)
  | .listFilledSucceededSlots _ => Except String (List ℤ)
  | .getSucceededSubmissionForSlot .. => Except String (Option SucceededTeamSlotSubmissionRecord)
  | .listOrphanedSucceededSubmissions .. => Except String (List OrphanedSubmissionRecord)
  | .createSubmission .. | .markBuilding _ | .markSucceededAndAssignSlot .. | .markFailed ..
  | .ensureTeamSlots _ | .upsertSelectedSlotIndex .. | .clearImageRef _ => Except String Unit

namespace SubmissionRepo

variable (r : SubmissionRepo)

def find (submissionId : String) : Option SubmissionRow :=
  r.submissions.find? (·.submissionId == submissionId)

/-- Rewrite the row of a submission. -/
def update (submissionId : String) (f : SubmissionRow → SubmissionRow) : SubmissionRepo :=
  { r with submissions := r.submissions.map fun row =>
      if row.submissionId = submissionId then f row else row }

/-- The submission that a slot is assigned to. -/
def assigned (teamId : String) (slotIndex : ℤ) : Option String :=
  (r.teamSubmissionSlots.lookup (teamId, slotIndex)).join

/-- The row of the succeeded submission that a slot is assigned to. -/
def succeededInSlot (teamId : String) (slotIndex : ℤ) : Option SubmissionRow :=
  ((r.assigned teamId slotIndex).bind r.find).filter (·.status == .succeeded)

def usedInSlot (submissionId : String) : Prop :=
  ∃ slot ∈ r.teamSubmissionSlots.keys, r.teamSubmissionSlots.lookup slot = some (some submissionId)

instance (submissionId : String) : Decidable (r.usedInSlot submissionId) :=
  inferInstanceAs (Decidable (∃ slot ∈ r.teamSubmissionSlots.keys,
    r.teamSubmissionSlots.lookup slot = some (some submissionId)))

def orphans (teamId keepSubmissionId : String) : List OrphanedSubmissionRecord :=
  (r.submissions.filter fun row => row.teamId = teamId ∧ row.status = .succeeded ∧
    row.submissionId ≠ keepSubmissionId ∧ ¬ r.usedInSlot row.submissionId).map fun row =>
      ⟨row.submissionId, row.imageRef, row.archivePath⟩

/-- Both tables are written in one transaction. -/
def markSucceededAndAssignSlot (submissionId teamId : String) (slotIndex : ℤ) (imageRef : String) :
    Except String SubmissionRepo :=
  if (r.find submissionId).all fun row => row.teamId ≠ teamId then
    .error "submission not found for success update"
  else if (r.teamSubmissionSlots.lookup (teamId, slotIndex)).isNone then
    .error "team slot not found for assignment"
  else
    let r := r.update submissionId fun row =>
      { row with status := .succeeded, imageRef := some imageRef }
    .ok { r with teamSubmissionSlots :=
      r.teamSubmissionSlots.insert (teamId, slotIndex) (some submissionId) }

/-- `ON CONFLICT DO NOTHING`. -/
def ensureSlot (teamId : String) (slotIndex : ℤ) : SubmissionRepo :=
  if (r.teamSubmissionSlots.lookup (teamId, slotIndex)).isSome then r
  else { r with teamSubmissionSlots := r.teamSubmissionSlots.insert (teamId, slotIndex) none }

def slotIndexes : List ℤ := [1, 2, 3]

def ensureTeamSlots (teamId : String) : SubmissionRepo :=
  slotIndexes.foldl (fun r slotIndex => r.ensureSlot teamId slotIndex) r

def exec (r : SubmissionRepo) : (op : RepoOp) → Input → SubmissionRepo × op.Answer
  | .createSubmission submissionId teamId archivePath, i =>
      if (r.find submissionId).isSome then (r, .error i.error)
      else
        let row : SubmissionRow := ⟨submissionId, teamId, .queued, none, archivePath⟩
        (i.written r { r with submissions := r.submissions ++ [row] }, i.result ())
  | .markBuilding submissionId, i =>
      (i.written r (r.update submissionId fun row => { row with status := .building }), i.result ())
  | .markSucceededAndAssignSlot submissionId teamId slotIndex imageRef, i =>
      match r.markSucceededAndAssignSlot submissionId teamId slotIndex imageRef with
      | .error e => (r, .error e)
      | .ok r' => (i.written r r', i.result ())
  | .markFailed submissionId _, i =>
      (i.written r (r.update submissionId fun row => { row with status := .failed }), i.result ())
  | .ensureTeamSlots teamId, i => (i.written r (r.ensureTeamSlots teamId), i.result ())
  | .getSelectedSlotIndex teamId, i => (r, i.result (r.teamSelectedSlots.lookup teamId))
  | .upsertSelectedSlotIndex teamId slotIndex, i =>
      (i.written r { r with teamSelectedSlots := r.teamSelectedSlots.insert teamId slotIndex },
        i.result ())
  | .listFilledSucceededSlots teamId, i =>
      (r, i.result (slotIndexes.filter fun slotIndex => (r.succeededInSlot teamId slotIndex).isSome))
  | .getSucceededSubmissionForSlot teamId slotIndex, i =>
      (r, i.result ((r.succeededInSlot teamId slotIndex).map fun row =>
        ⟨row.submissionId, row.imageRef⟩))
  | .listOrphanedSucceededSubmissions teamId keepSubmissionId, i =>
      (r, i.result (r.orphans teamId keepSubmissionId))
  | .clearImageRef submissionId, i =>
      (i.written r (r.update submissionId fun row => { row with imageRef := none }), i.result ())

end SubmissionRepo

end HackArena.Official
