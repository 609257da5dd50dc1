import HackArena.Lib.Versioned
import HackArena.Runtime.EngineState
import HackArena.Services.Status
import Mathlib.Data.List.Sort

/-!
# The repository of sandbox configurations

Built like the repository of races: a table whose revision every committed
transaction advances.
-/

namespace HackArena.Admin

open Boink HackArena.Runtime HackArena.Services

structure SandboxConfigInputRecord where
  sandboxName : String
  mapId : String
  timeOfDayPreset : EngineRuntimeTimeOfDayPreset
  ghostMode : Option GhostModeSettings
  deriving DecidableEq

structure SandboxConfigRecord where
  sandboxId : String
  config : SandboxConfigInputRecord
  deriving DecidableEq

inductive SandboxConfigRepoError where
  | sqlx (message : String)
  | stateMissing
  | revisionMismatch (expected actual : ℕ)
  | alreadyExists (sandboxId : String)
  | notFound (sandboxId : String)
  | invalidTimeOfDayPreset
  | partialGhostData (sandboxId : String)
  | numericOutOfRange (sandboxId : String)
  | revisionOverflow
  deriving DecidableEq, Repr

def SandboxConfigRepoError.text : SandboxConfigRepoError → String
  | .sqlx message => message
  | .stateMissing => "sandbox config state row is missing"
  | .revisionMismatch expected actual =>
      "revision mismatch: expected " ++ toString expected ++ ", actual " ++ toString actual
  | .alreadyExists sandboxId => "sandbox config already exists: " ++ sandboxId
  | .notFound sandboxId => "sandbox config not found: " ++ sandboxId
  | .invalidTimeOfDayPreset => "time_of_day_preset must be specified"
  | .partialGhostData sandboxId =>
      "persisted ghost mode data is partial for sandbox: " ++ sandboxId
  | .numericOutOfRange sandboxId =>
      "persisted numeric value is out of range for sandbox: " ++ sandboxId
  | .revisionOverflow => "revision overflow"

def SandboxConfigRepoError.code : SandboxConfigRepoError → Code
  | .revisionMismatch .. => .failedPrecondition
  | .alreadyExists _ => .alreadyExists
  | .notFound _ => .notFound
  | .invalidTimeOfDayPreset => .invalidArgument
  | .sqlx _ | .stateMissing | .partialGhostData _ | .numericOutOfRange _ | .revisionOverflow =>
      .internal

def SandboxConfigRepoError.status (err : SandboxConfigRepoError) : Status := ⟨err.code, err.text⟩

abbrev SandboxTable := Versioned (List SandboxConfigRecord)

/-- The check of a row before it is written. -/
def checkSandboxRow (sandbox : SandboxConfigRecord) : Except SandboxConfigRepoError Unit :=
  if sandbox.config.timeOfDayPreset = .unspecified then .error .invalidTimeOfDayPreset
  else .ok ()

abbrev SandboxRows := Except SandboxConfigRepoError (List SandboxConfigRecord)

def insertSandbox (sandbox : SandboxConfigRecord) (sandboxes : List SandboxConfigRecord) :
    SandboxRows :=
  if sandboxes.any fun entry => entry.sandboxId = sandbox.sandboxId then
    .error (.alreadyExists sandbox.sandboxId)
  else (checkSandboxRow sandbox).map fun _ => sandboxes ++ [sandbox]

def replaceSandbox (sandbox : SandboxConfigRecord) (sandboxes : List SandboxConfigRecord) :
    SandboxRows :=
  if sandboxes.any fun entry => entry.sandboxId = sandbox.sandboxId then
    (checkSandboxRow sandbox).map fun _ =>
      sandboxes.map fun entry => if entry.sandboxId = sandbox.sandboxId then sandbox else entry
  else .error (.notFound sandbox.sandboxId)

def deleteSandbox (sandboxId : String) (sandboxes : List SandboxConfigRecord) : SandboxRows :=
  if sandboxes.any fun entry => entry.sandboxId = sandboxId then
    .ok (sandboxes.filter fun entry => entry.sandboxId ≠ sandboxId)
  else .error (.notFound sandboxId)

namespace SandboxTable

def transact (t : SandboxTable) (expectedRevision : ℕ)
    (f : List SandboxConfigRecord → SandboxRows) : SandboxTable × Except SandboxConfigRepoError ℕ :=
  t.change (2 ^ 63 - 1) expectedRevision (.revisionMismatch expectedRevision t.revision)
    .revisionOverflow f

/-- Ordered by id. -/
def getSnapshot (t : SandboxTable) : SandboxTable :=
  ⟨t.revision, t.value.insertionSort fun a b => a.sandboxId ≤ b.sandboxId⟩

def createConfig (t : SandboxTable) (expectedRevision : ℕ) (sandbox : SandboxConfigRecord) :
    SandboxTable × Except SandboxConfigRepoError ℕ :=
  t.transact expectedRevision (insertSandbox sandbox)

def updateConfig (t : SandboxTable) (expectedRevision : ℕ) (sandbox : SandboxConfigRecord) :
    SandboxTable × Except SandboxConfigRepoError ℕ :=
  t.transact expectedRevision (replaceSandbox sandbox)

def deleteConfig (t : SandboxTable) (expectedRevision : ℕ) (sandboxId : String) :
    SandboxTable × Except SandboxConfigRepoError ℕ :=
  t.transact expectedRevision (deleteSandbox sandboxId)

end SandboxTable

end HackArena.Admin
