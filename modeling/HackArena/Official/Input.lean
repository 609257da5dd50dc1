import HackArena.Services.FrameHub
import HackArena.Services.Status

/-!
# Answers from outside

The official backend calls docker, a database, the engine worker, token
services and files, and it is scheduled in any order. What none of the
modelled state determines comes with each call.
-/

namespace HackArena.Official

open Boink HackArena.Runtime HackArena.Services

structure RaceConfigRecord where
  raceId : String
  raceName : String
  mapId : String
  raceDurationSec : ℕ
  timeOfDayPreset : EngineRuntimeTimeOfDayPreset
  deriving DecidableEq, Repr

structure Input where
  /-- The call fails. -/
  fails : Bool
  /-- A call that fails has done its work all the same. -/
  takesEffect : Bool
  /-- The time of the build is up before the call is over. -/
  elapsed : Bool
  error : String
  status : Status
  engineError : EngineWorkerError
  /-- A token, a file, a line of output, an id. -/
  text : String
  /-- Whether there is a file, a line or a shutdown, and whether a container runs. -/
  present : Bool
  number : ℕ
  exitCode : ℤ
  nowMs : ℕ
  /-- What other commands leave of the runtime. -/
  runtime : EngineRuntimeState
  frame : RuntimeFrame
  races : List RaceConfigRecord
  ghostMode : GhostModeSettings

section Answers

variable {α : Type} (i : Input) (a : α)

def Input.result : Except String α := if i.fails then .error i.error else .ok a

def Input.statusResult : Except Status α := if i.fails then .error i.status else .ok a

def Input.engineResult : Except EngineWorkerError α :=
  if i.fails then .error i.engineError else .ok a

/-- The state after a call that may fail with or without effect. -/
def Input.written (before after : α) : α := if i.fails && !i.takesEffect then before else after

end Answers

/-- The pipeline of a build ends with an error of its own, or is dropped
where it waits when its time is up. -/
inductive PipelineError where
  | elapsed
  | failed (error : String)
  deriving DecidableEq, Repr

def Input.pipelineResult {α : Type} (i : Input) (a : α) : Except PipelineError α :=
  if i.elapsed then .error .elapsed
  else if i.fails then .error (.failed i.error)
  else .ok a

/-- Every call succeeds, and there is nothing to see. -/
def Input.works : Input where
  fails := false
  takesEffect := true
  elapsed := false
  error := ""
  status := ⟨.unavailable, ""⟩
  engineError := .workerStopped
  text := ""
  present := false
  number := 1
  exitCode := 0
  nowMs := 1000
  runtime := ⟨0, .none, "", none, [], .unspecified, []⟩
  frame := .default
  races := []
  ghostMode := defaultGhostModeSettings

end HackArena.Official
