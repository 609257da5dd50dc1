import HackArena.Official.Input
import Mathlib.Data.String.Basic

/-!
# The registries of bots and the containers

The bots of the teams run in docker containers. A container is started
and removed by its name, which comes from the team alone. Two registries
record what runs for a team: the joins of official sandboxes and the bots
of the official race.
-/

namespace HackArena.Official

open HackArena

/-! ## Containers -/

/-- What an entry records as its container: an id that docker gave, or one
of the two texts that stand for a container still to come. -/
inductive ContainerId where
  | docker (n : ℕ)
  | switching (atMs : ℕ)
  | awaitingSlotSwitch (atMs : ℕ)
  deriving DecidableEq, Repr

structure Container where
  id : ℕ
  imageRef : String
  teamId : String
  submissionId : String
  sandboxId : String
  slotIndex : ℤ
  deriving DecidableEq, Repr

def sanitizeTagComponent (value : String) : Except String String :=
  let value := Text.trim value
  if value.isEmpty then .error "tag component cannot be empty"
  else if value.toList.all fun c => Text.isAsciiAlphanumeric c || c == '-' || c == '_' then .ok value
  else .error "tag component contains unsupported characters"

@[irreducible] def officialBotContainerNameForTeam (teamId : String) : Except String String := do
  let teamComponent ← sanitizeTagComponent teamId
  return "ha3-official-bot-team-" ++ teamComponent

/-- The docker commands; a container is described to `run` by all but its
id. -/
inductive DockerOp where
  | rm (name : String)
  | pull (imageRef : String)
  | run (name : String) (spec : ℕ → Container)
  | wait (containerId : ℕ)
  | inspectRunning (name : String)

abbrev DockerOp.Answer : DockerOp → Type
  | .rm _ | .pull _ => Except String Unit
  | .run .. => Except String ℕ
  | .wait _ => Except String ℤ
  | .inspectRunning _ => Except String Bool

structure Docker where
  containers : HashMap String Container
  nextId : ℕ

def Docker.exec (d : Docker) : (op : DockerOp) → Input → Docker × op.Answer
  | .rm name, i =>
      (i.written d { d with containers := d.containers.erase name }, i.result ())
  | .pull _, i => (d, i.result ())
  | .run name spec, i =>
      if (d.containers.lookup name).isSome then (d, .error i.error)
      else
        (i.written d ⟨d.containers.insert name (spec d.nextId), d.nextId + 1⟩, i.result d.nextId)
  | .wait _, i => (d, i.result i.exitCode)
  | .inspectRunning name, i =>
      (d, i.result (i.present && (d.containers.lookup name).isSome))

/-! ## Registries -/

structure TeamSandboxJoinState where
  sandboxId : String
  slotIndex : ℤ
  publicCarId : ℕ
  engineCarId : ℕ
  containerName : String
  containerId : ContainerId
  deriving DecidableEq, Repr

structure TeamOfficialRaceBotState where
  publicCarId : ℕ
  engineCarId : ℕ
  startPositionIndex : ℕ
  slotIndex : ℤ
  containerName : String
  containerId : ContainerId
  submissionId : String
  imageRef : String
  autoRestartAttempts : ℕ
  deriving DecidableEq, Repr

/-- The operations on the registry of sandbox joins. The container id is
written in place when a slot switch begins, and put back if it fails. -/
inductive JoinOp where
  | get (teamId : String)
  | teamIds
  | insert (teamId : String) (join : TeamSandboxJoinState)
  | setContainerId (teamId : String) (containerId : ContainerId)
  | restoreContainerId (teamId : String) (containerId : ContainerId)
  | remove (teamId : String)

abbrev JoinOp.Answer : JoinOp → Type
  | .get _ => Option TeamSandboxJoinState
  | .teamIds => List String
  | .insert .. | .setContainerId .. | .restoreContainerId .. | .remove _ => Unit

abbrev JoinRegistry := HashMap String TeamSandboxJoinState

/-- `get_mut`: without an entry nothing is written. -/
def modifyEntry {α : Type} (m : HashMap String α) (teamId : String) (f : α → α) :
    HashMap String α :=
  match m.lookup teamId with
  | none => m
  | some entry => m.insert teamId (f entry)

def ContainerId.isSwitching : ContainerId → Bool
  | .switching _ => true
  | _ => false

def JoinRegistry.exec (m : JoinRegistry) : (op : JoinOp) → JoinRegistry × op.Answer
  | .get teamId => (m, m.lookup teamId)
  | .teamIds => (m, m.sortedKeys)
  | .insert teamId join => (Finmap.insert teamId join m, ())
  | .setContainerId teamId containerId =>
      (modifyEntry m teamId fun join => { join with containerId := containerId }, ())
  | .restoreContainerId teamId containerId =>
      (modifyEntry m teamId fun join =>
        if join.containerId.isSwitching then { join with containerId := containerId } else join, ())
  | .remove teamId => (Finmap.erase teamId m, ())

/-- The operations on the registry of race bots. A bot that cannot be
restarted is left waiting for another slot, if its entry still has the
container that has exited. -/
inductive BotOp where
  | get (teamId : String)
  | entries
  | insert (teamId : String) (bot : TeamOfficialRaceBotState)
  | setContainerId (teamId : String) (containerId : ContainerId)
  | awaitSlotSwitch (teamId : String) (exitedContainerId : ContainerId) (nowMs : ℕ)
  | remove (teamId : String)

abbrev BotOp.Answer : BotOp → Type
  | .get _ => Option TeamOfficialRaceBotState
  | .entries => List (String × TeamOfficialRaceBotState)
  | .awaitSlotSwitch .. => Bool
  | .insert .. | .setContainerId .. | .remove _ => Unit

abbrev BotRegistry := HashMap String TeamOfficialRaceBotState

def BotRegistry.exec (m : BotRegistry) : (op : BotOp) → BotRegistry × op.Answer
  | .get teamId => (m, m.lookup teamId)
  | .entries => (m, m.toList)
  | .insert teamId bot => (Finmap.insert teamId bot m, ())
  | .setContainerId teamId containerId =>
      (modifyEntry m teamId fun bot => { bot with containerId := containerId }, ())
  | .awaitSlotSwitch teamId exitedContainerId nowMs =>
      match m.lookup teamId with
      | none => (m, false)
      | some bot =>
          if bot.containerId = exitedContainerId then
            (Finmap.insert teamId
              { bot with containerId := .awaitingSlotSwitch nowMs, autoRestartAttempts := 0 } m,
              true)
          else (m, false)
  | .remove teamId => (Finmap.erase teamId m, ())

end HackArena.Official
