import HackArena.Lib.FileWrite
import HackArena.Lib.Programs
import HackArena.Local.SandboxConfig

/-!
# The store of local sandbox configurations

A change is made under the write lock of the state. The file is written
afterwards, under the read lock, from the state as it is then; several
requests may write at the same time.
-/

namespace HackArena.Local.SandboxConfig

open Boink HackArena.Runtime

/-! ## What the store is built with -/

/-- The encoder and the decoder of the file, and whether its path has a
parent. -/
structure StoreEnv where
  build : Build
  hasParent : Bool
  encode : LocalSandboxConfigState → Except String (List UInt8)
  decode : List UInt8 → Except String LocalSandboxConfigState

/-- What has been encoded is not empty and is decoded again. -/
structure StoreEnv.RoundTrips (env : StoreEnv) : Prop where
  nonempty : ∀ s raw, env.encode s = .ok raw → raw ≠ []
  decode_encode : ∀ s raw, env.encode s = .ok raw → env.decode raw = .ok s

/-- What is loaded from the file, if there is one. -/
def load (env : StoreEnv) : Option (List UInt8) → Except ConfigStoreError LocalSandboxConfigState
  | none => .ok .default
  | some raw =>
      if raw.isEmpty then .ok .default
      else match env.decode raw with
        | .error message => .error (.serde message)
        | .ok s => .ok s

/-! ## Calls -/

/-- Calls on the lock carry the request that holds it. -/
inductive StoreOp where
  | change (expectedRevision : ℕ) (c : ConfigChange)
  | getSnapshot
  | lockRead (reader : ℕ)
  | createDirAll
  | openFile
  | write (chunk : List UInt8) (offset : ℕ)
  | release (reader : ℕ)

abbrev StoreOp.Answer : StoreOp → Type
  | .change .. => Except ConfigStoreError ℕ
  | .getSnapshot | .lockRead _ => LocalSandboxConfigState
  | .createDirAll | .openFile => Except String Unit
  | .write .. => Except String ℕ
  | .release _ => Unit

/-- Whether a file operation fails, and how much of a chunk is written. -/
structure StoreInput where
  fails : Bool
  message : String
  count : ℕ

structure StoreState where
  state : LocalSandboxConfigState
  readers : List ℕ
  file : Option (List UInt8)

def storeExec (s : StoreState) (op : StoreOp) (i : StoreInput) : StoreState × op.Answer :=
  match op with
  | .change expectedRevision c =>
      let r := s.state.change expectedRevision c
      ({ s with state := r.1 }, r.2)
  | .getSnapshot => (s, s.state)
  | .lockRead reader => ({ s with readers := reader :: s.readers }, s.state)
  | .createDirAll => (s, if i.fails then .error i.message else .ok ())
  | .openFile => if i.fails then (s, .error i.message) else ({ s with file := some [] }, .ok ())
  | .write chunk offset =>
      if i.fails then (s, .error i.message)
      else
        let written := chunk.take (max 1 i.count)
        ({ s with file := s.file.map fun content => FileWrite.overlay content written offset },
          .ok written.length)
  | .release reader => ({ s with readers := s.readers.erase reader }, ())

/-- The write lock is free when nobody reads. -/
def storeFree (s : StoreState) : StoreOp → Bool
  | .change .. => s.readers.isEmpty
  | _ => true

/-! ## Requests -/

abbrev StoreProg := Prog StoreOp StoreOp.Answer
abbrev StoreCall := ExceptT ConfigStoreError StoreProg
abbrev StoreOp.call (op : StoreOp) : StoreProg op.Answer := Prog.perform op

/-- Writes from the offset on, in as many calls as it takes. -/
def writeAll (raw : List UInt8) : (calls offset : ℕ) → StoreProg (Except String Unit)
  | 0, _ => pure (.ok ())
  | calls + 1, offset =>
      if raw.length ≤ offset then pure (.ok ())
      else do
        match ← (StoreOp.write (raw.drop offset) offset).call with
        | .error message => pure (.error message)
        | .ok 0 => pure (.error "failed to write whole buffer")
        | .ok count => writeAll raw calls (offset + count)

def writeFile (raw : List UInt8) : StoreCall Unit := do
  StoreOp.openFile.call.orFail .io
  (writeAll raw raw.length 0).orFail .io

/-- What is done while the lock is held. -/
def persistState (env : StoreEnv) (s : LocalSandboxConfigState) : StoreCall Unit :=
  match env.encode s with
  | .error message => throw (.serde message)
  | .ok raw =>
      if env.hasParent then do
        StoreOp.createDirAll.call.orFail .io
        writeFile raw
      else writeFile raw

def persist (env : StoreEnv) (me : ℕ) : StoreCall Unit := do
  let s ← liftM (StoreOp.lockRead me).call
  let result ← liftM (persistState env s).run
  liftM (StoreOp.release me).call
  ExceptT.mk (pure result)

inductive StoreAnswer where
  | revision (revision : ℕ)
  | snapshot (s : LocalSandboxConfigState)
  | created
  deriving DecidableEq

def commit (env : StoreEnv) (me expectedRevision : ℕ) (c : ConfigChange) : StoreCall StoreAnswer := do
  let revision ← (StoreOp.change expectedRevision c).call.orFail id
  persist env me
  return .revision revision

def check (x : Except ConfigStoreError Unit) : StoreCall Unit := ExceptT.mk (pure x)

/-- `create` is what `load_or_create` does when there is no file. -/
inductive StoreRequest where
  | create
  | getSnapshot
  | createConfig (expectedRevision : ℕ) (sandbox : LocalSandboxConfigRecord)
  | updateConfig (expectedRevision : ℕ) (sandbox : LocalSandboxConfigRecord)
  | deleteConfig (expectedRevision : ℕ) (sandboxId : String)
  | updateTimeOfDay (expectedRevision : ℕ) (sandboxId : String)
      (timeOfDay : TimeOfDaySettingsRecord)
  | updateWeather (expectedRevision : ℕ) (sandboxId : String) (weather : WeatherSettingsRecord)
  | updateSpawnMode (expectedRevision : ℕ) (sandboxId : String) (spawnMode : SpawnModeRecord)

def StoreRequest.run (env : StoreEnv) (me : ℕ) : StoreRequest → StoreCall StoreAnswer
  | .create => do
      persist env me
      return .created
  | .getSnapshot => do
      let s ← liftM StoreOp.getSnapshot.call
      return .snapshot s
  | .createConfig expectedRevision sandbox => do
      check (validateLocalSandboxConfigInput env.build sandbox.config)
      commit env me expectedRevision (.create sandbox)
  | .updateConfig expectedRevision sandbox => do
      check (validateLocalSandboxConfigInput env.build sandbox.config)
      commit env me expectedRevision (.replace sandbox)
  | .deleteConfig expectedRevision sandboxId =>
      commit env me expectedRevision (.delete sandboxId)
  | .updateTimeOfDay expectedRevision sandboxId timeOfDay =>
      commit env me expectedRevision (.setTimeOfDay sandboxId timeOfDay)
  | .updateWeather expectedRevision sandboxId weather => do
      check (validateLocalWeatherSettings weather)
      commit env me expectedRevision (.setWeather sandboxId weather)
  | .updateSpawnMode expectedRevision sandboxId spawnMode =>
      commit env me expectedRevision (.setSpawnMode sandboxId spawnMode)

abbrev StoreEntry := Entry StoreOp StoreOp.Answer
abbrev StoreWorld := World StoreState StoreOp StoreOp.Answer
abbrev StorePool := Pool StoreState StoreOp StoreOp.Answer (Except ConfigStoreError StoreAnswer)

/-- The requests, on what has been loaded. -/
def storeStart (env : StoreEnv) (requests : ℕ → StoreRequest) (s : LocalSandboxConfigState)
    (file : Option (List UInt8)) : StorePool :=
  Pool.start ⟨s, [], file⟩ fun i => ((requests i).run env i).run

/-! ## Writing, step by step -/

/-- How far a request has come with its write. -/
inductive WriteStage where
  | resting
  | changed
  | locked (s : LocalSandboxConfigState)
  | writing (s : LocalSandboxConfigState) (offset : ℕ)
  | done (succeeded : Bool)

/-- What the state is written as. -/
def encoded (env : StoreEnv) (s : LocalSandboxConfigState) : List UInt8 :=
  (env.encode s).toOption.getD []

def WriteStage.opened : WriteStage → WriteStage
  | .locked s => .writing s 0
  | stage => stage

def WriteStage.advance (count : ℕ) : WriteStage → WriteStage
  | .writing s offset => .writing s (offset + count)
  | stage => stage

def WriteStage.released (env : StoreEnv) : WriteStage → WriteStage
  | .writing s offset => .done ((encoded env s).length ≤ offset)
  | .locked _ => .done false
  | stage => stage

def WriteStage.next (env : StoreEnv) (stage : WriteStage) : (op : StoreOp) → op.Answer → WriteStage
  | .change .., .ok _ => .changed
  | .lockRead _, s => .locked s
  | .openFile, .ok () => stage.opened
  | .write .., .ok count => stage.advance count
  | .release _, () => stage.released env
  | _, _ => stage

/-- A request changes the state once, and then writes what it has read. -/
def WriteStage.Permits (env : StoreEnv) (me : ℕ) (stage : WriteStage) : StoreOp → Prop
  | .change .. => stage = .resting
  | .getSnapshot | .createDirAll => True
  | .lockRead reader => reader = me ∧ (stage = .resting ∨ stage = .changed)
  | .openFile => ∃ s raw, stage = .locked s ∧ env.encode s = .ok raw
  | .write chunk offset => ∃ s, stage = .writing s offset ∧ chunk = (encoded env s).drop offset
  | .release reader => reader = me ∧ ((∃ s, stage = .locked s) ∨ ∃ s offset, stage = .writing s offset)

def writeProtocol (env : StoreEnv) (me : ℕ) : Protocol StoreOp StoreOp.Answer WriteStage where
  init := .resting
  next := WriteStage.next env
  permits := WriteStage.Permits env me

abbrev writeStage (env : StoreEnv) (i : ℕ) (log : List StoreEntry) : WriteStage :=
  (writeProtocol env i).stageOf i log

def WriteStage.isLocked : WriteStage → Bool
  | .locked _ => true
  | _ => false

/-- The call with which a request comes to the file: it opens the file, or
it gives up before that. -/
def WriteStage.comes (stage : WriteStage) : (op : StoreOp) → op.Answer → Bool
  | .openFile, .ok () => true
  | .release _, () => stage.isLocked
  | _, _ => false

/-- Whose write came to the file last. -/
def lastWrite (env : StoreEnv) : List StoreEntry → Option ℕ
  | [] => none
  | e :: log =>
      if (writeStage env e.thread log).comes e.op e.answer then some e.thread
      else lastWrite env log

end HackArena.Local.SandboxConfig
