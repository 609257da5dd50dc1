import HackArena.HashCache.Sidecar
import HackArena.HashCache.SidecarPath
import HackArena.Lib.FileStore
import HackArena.Lib.Programs

/-!
# The hash cache

`get_or_compute` looks for a hash in memory, then in the sidecar, and
else hashes the file. It looks at the file's size and modification time
before and after, and keeps the hash if both looks agree. Calls for one
path exclude each other by a lock; whoever writes the files takes none.
-/

namespace HackArena.HashCache

open FileStore

/-! ## Calls -/

structure Metadata where
  modified : SystemTime
  size : ℕ
  deriving DecidableEq, Repr

structure MemEntry where
  mtime : SystemTime
  size : ℕ
  hash : List UInt8
  deriving DecidableEq, Repr

def BUF_SIZE : ℕ := 128 * 1024

/-- The calls on the locks, the memory and the disk. A file that has been
opened is read from the versions it has had since. -/
inductive CacheOp where
  | lock (path : Path)
  | unlock (path : Path)
  | memGet (path : Path)
  | memInsert (path : Path) (entry : MemEntry)
  | memRemove (path : Path)
  | metadata (path : Path)
  | openFile (path : Path)
  | readChunk (path : Path) (opened offset : ℕ)
  | read (path : Path)
  | createDirAll (path : Path)
  | create (path : Path)
  | writeAll (path : Path) (bytes : List UInt8)
  | flush (path : Path)
  | removeFile (path : Path)
  | rename (path target : Path)
  | rewrite (path : Path) (version : Option File)

abbrev CacheOp.Answer : CacheOp → Type
  | .memGet _ => Option MemEntry
  | .metadata _ => Option Metadata
  | .openFile _ => Option ℕ
  | .readChunk .. | .read _ => Option (List UInt8)
  | .create _ | .writeAll .. | .flush _ | .removeFile _ | .rename .. => Bool
  | _ => Unit

structure CacheState where
  disk : Disk Path
  mem : Path → Option MemEntry
  locked : Path → Bool

/-- What a call depends on besides the state: whether it fails and what a
failed write has left, which version an open file is read from and how
many bytes a read yields, and the clock. -/
structure CacheInput where
  fails : Bool
  kept : ℕ
  version : ℕ
  length : ℕ
  now : SystemTime

/-- The bytes that one `read` yields from an open file: at least one
before its end. -/
def readFrom (v : Option File) (offset length : ℕ) : List UInt8 :=
  match v with
  | some f => (f.content.drop offset).take (max 1 (min length BUF_SIZE))
  | none => []

def exec (s : CacheState) : (op : CacheOp) → CacheInput → CacheState × op.Answer
  | .lock path, _ => ({ s with locked := Function.update s.locked path true }, ())
  | .unlock path, _ => ({ s with locked := Function.update s.locked path false }, ())
  | .memGet path, _ => (s, s.mem path)
  | .memInsert path entry, _ => ({ s with mem := Function.update s.mem path (some entry) }, ())
  | .memRemove path, _ => ({ s with mem := Function.update s.mem path none }, ())
  | .metadata path, i =>
      (s, if i.fails then none else (s.disk.current path).map fun f => ⟨f.modified, f.content.length⟩)
  | .openFile path, i =>
      (s, if i.fails then none
        else (s.disk.current path).map fun _ => (s.disk.versions path).length)
  | .readChunk path opened offset, i =>
      (s, if i.fails then none
        else ((s.disk.since path opened)[i.version]?).map fun v => readFrom v offset i.length)
  | .read path, i => (s, if i.fails then none else (s.disk.current path).map File.content)
  | .createDirAll _, _ => (s, ())
  | .create path, i =>
      if i.fails then (s, false) else ({ s with disk := s.disk.create path i.now }, true)
  | .writeAll path bytes, i =>
      if i.fails then ({ s with disk := s.disk.append path (bytes.take i.kept) i.now }, false)
      else ({ s with disk := s.disk.append path bytes i.now }, true)
  | .flush _, i => (s, !i.fails)
  | .removeFile path, i =>
      if i.fails then (s, false) else ({ s with disk := s.disk.remove path }, true)
  | .rename path target, i =>
      if i.fails then (s, false) else ({ s with disk := s.disk.rename path target }, true)
  | .rewrite path version, _ => ({ s with disk := s.disk.put path version }, ())

abbrev CacheProg := Prog CacheOp CacheOp.Answer
abbrev CacheWorld := World CacheState CacheOp CacheOp.Answer

abbrev CacheOp.call (op : CacheOp) : CacheProg op.Answer := Prog.perform op

/-! ## The functions of the cache -/

/-- How a call ends; a call can also be left in the middle of a file. -/
inductive Outcome where
  | ok (hash : List UInt8)
  | failed
  | unfinished
  deriving DecidableEq, Repr

section Functions

variable (sidecarDir : Option Path) (sha256 : List UInt8 → Digest)

/-- The loop of `compute_sha256`, with the bytes it has fed to the
hasher. -/
def readLoop (path : Path) (opened : ℕ) : ℕ → List UInt8 → CacheProg Outcome
  | 0, _ => pure .unfinished
  | fuel + 1, got => do
      match ← (CacheOp.readChunk path opened got.length).call with
      | none => pure .failed
      | some [] => pure (.ok (sha256 got))
      | some chunk => readLoop path opened fuel (got ++ chunk)

def computeSha256 (path : Path) (fuel : ℕ) : CacheProg Outcome := do
  match ← (CacheOp.openFile path).call with
  | none => pure .failed
  | some opened => readLoop sha256 path opened fuel []

def tryReadSidecar (path : Path) (metadata : Metadata) : CacheProg (Option (List UInt8)) :=
  match sidecarPathFor sidecarDir path with
  | none => pure none
  | some sidecar => do
      match ← (CacheOp.read sidecar).call with
      | none => pure none
      | some bytes => pure (parseSidecar bytes metadata.modified metadata.size)

/-- The writes to the temporary file, up to the first that fails. -/
def writeParts (tmp : Path) : List (List UInt8) → CacheProg Bool
  | [] => pure true
  | part :: parts => do
      if ← (CacheOp.writeAll tmp part).call then writeParts tmp parts else pure false

def writeSidecar (path : Path) (metadata : Metadata) (hash : List UInt8) : CacheProg Bool :=
  match sidecarPathFor sidecarDir path with
  | none => pure true
  | some sidecar => do
      (CacheOp.createDirAll sidecar.dropLast).call
      let tmp := sidecarTmp sidecar
      if ← (CacheOp.create tmp).call then
        if ← writeParts tmp (sidecarParts metadata.modified metadata.size hash) then
          if ← (CacheOp.flush tmp).call then
            let _ ← (CacheOp.removeFile sidecar).call
            (CacheOp.rename tmp sidecar).call
          else pure false
        else pure false
      else pure false

/-- `get_or_compute` under the lock, once neither the memory nor the
sidecar has given a hash. -/
def computeAndKeep (path : Path) (metadata : Metadata) (fuel : ℕ) : CacheProg Outcome := do
  match ← computeSha256 sha256 path fuel with
  | .ok hash =>
      match ← (CacheOp.metadata path).call with
      | none => pure .failed
      | some metadata2 =>
          if !sameMtime metadata.modified metadata2.modified || metadata.size != metadata2.size then
            pure (.ok hash)
          else do
            let _ ← writeSidecar sidecarDir path metadata2 hash
            (CacheOp.memInsert path ⟨metadata2.modified, metadata2.size, hash⟩).call
            pure (.ok hash)
  | other => pure other

def lookUpOrCompute (path : Path) (fuel : ℕ) : CacheProg Outcome := do
  match ← (CacheOp.metadata path).call with
  | none => pure .failed
  | some metadata => do
      match ← (CacheOp.memGet path).call with
      | some e =>
          if sameMtime e.mtime metadata.modified && e.size == metadata.size then pure (.ok e.hash)
          else afterMemory metadata
      | none => afterMemory metadata
where
  afterMemory (metadata : Metadata) : CacheProg Outcome := do
    match ← tryReadSidecar sidecarDir path metadata with
    | some hash => do
        (CacheOp.memInsert path ⟨metadata.modified, metadata.size, hash⟩).call
        pure (.ok hash)
    | none => computeAndKeep sidecarDir sha256 path metadata fuel

def getOrCompute (path : Path) (fuel : ℕ) : CacheProg Outcome := do
  (CacheOp.lock path).call
  match ← lookUpOrCompute sidecarDir sha256 path fuel with
  | .unfinished => pure .unfinished
  | outcome => do
      (CacheOp.unlock path).call
      pure outcome

def invalidate (path : Path) : CacheProg Outcome := do
  (CacheOp.memRemove path).call
  pure .unfinished

/-- Someone else writes, replaces or removes files. -/
def rewriteFiles : List (Path × Option File) → CacheProg Outcome
  | [] => pure .unfinished
  | (path, version) :: rest => do
      (CacheOp.rewrite path version).call
      rewriteFiles rest

/-- What a thread does. -/
inductive Task where
  | getOrCompute (path : Path) (fuel : ℕ)
  | invalidate (path : Path)
  | rewrite (changes : List (Path × Option File))

def Task.program : Task → CacheProg Outcome
  | .getOrCompute path fuel => HashCache.getOrCompute sidecarDir sha256 path fuel
  | .invalidate path => HashCache.invalidate path
  | .rewrite changes => rewriteFiles changes

end Functions

end HackArena.HashCache
