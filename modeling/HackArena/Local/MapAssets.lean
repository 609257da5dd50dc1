import HackArena.Lib.FileStore
import HackArena.Lib.Programs
import HackArena.Lib.Text
import HackArena.Services.Status

/-!
# The local cache of maps

A local backend copies the assets of a map from the remote backend into a
directory: three small files that come with one answer, the model of the
map, and the model of its animation if it has one. Each file is written
under a temporary name and moved in place. A call that finds the first
four files in place asks the remote nothing.
-/

namespace HackArena.Local.MapAssets

open FileStore HackArena.Services

/-! ## The files -/

inductive AssetKind where
  | minimapSvg | mapJson | minimapJson | mainGlb | animationGlb
  deriving DecidableEq, Repr

def AssetKind.suffix : AssetKind → String
  | .minimapSvg => ".minimap.svg"
  | .mapJson => ".json"
  | .minimapJson => ".minimap.json"
  | .mainGlb => ".glb"
  | .animationGlb => ".animation.glb"

/-- A file of the cache directory, in place or temporary. -/
structure CacheFile where
  mapId : String
  kind : AssetKind
  tmp : Bool
  deriving DecidableEq, Repr

def fileEnding (kind : AssetKind) (tmp : Bool) : String :=
  kind.suffix ++ (if tmp then ".tmp" else "")

def CacheFile.name (f : CacheFile) : String := f.mapId ++ fileEnding f.kind f.tmp

def CacheFile.path (cacheDir : String) (f : CacheFile) : String := cacheDir ++ "/" ++ f.name

def asset (mapId : String) (kind : AssetKind) : CacheFile := ⟨mapId, kind, false⟩

def tmpPathFor (f : CacheFile) : CacheFile := { f with tmp := true }

def sanitizeMapId (mapId : String) : Except Status String :=
  let chars := Text.trimChars mapId.toList
  if chars = [] then .error ⟨.invalidArgument, "map_id is required"⟩
  else if chars.all fun c => Text.isAsciiAlphanumeric c || c == '-' || c == '_' then
    .ok (String.ofList chars)
  else .error ⟨.invalidArgument, "map_id contains invalid characters"⟩

/-! ## The remote backend and the calls -/

/-- What the remote backend offers for a map. -/
structure RemoteMap where
  mapId : String
  minimapSvg : List UInt8
  mainMetadataJson : List UInt8
  minimapMetadataJson : List UInt8
  mainGlb : Option (List UInt8)
  animationGlb : Option (List UInt8)
  deriving DecidableEq, Repr

def RemoteMap.asset (r : RemoteMap) : AssetKind → Option (List UInt8)
  | .minimapSvg => some r.minimapSvg
  | .mapJson => some r.mainMetadataJson
  | .minimapJson => some r.minimapMetadataJson
  | .mainGlb => r.mainGlb
  | .animationGlb => r.animationGlb

abbrev Remote := String → Option RemoteMap

def Remote.asset (remote : Remote) (mapId : String) (kind : AssetKind) : Option (List UInt8) :=
  (remote mapId).bind (RemoteMap.asset · kind)

/-- How a request ends, within its time or not. -/
inductive Reply (α : Type) where
  | timedOut
  | refused (status : Status)
  | ok (a : α)

structure GlbChunk where
  offset : ℕ
  data : List UInt8
  eof : Bool
  deriving DecidableEq, Repr

inductive MapOp where
  | lock (mapId : String)
  | unlock
  | exists (file : CacheFile)
  | readToken
  | fetchToken
  | writeToken (token : String)
  | getSyncMeta (mapId : String)
  | openStream (mapId : String) (kind : AssetKind)
  | message (mapId : String) (kind : AssetKind)
  | write (file : CacheFile) (bytes : List UInt8)
  | create (file : CacheFile)
  | writeAll (file : CacheFile) (bytes : List UInt8)
  | flush (file : CacheFile)
  | removeFile (file : CacheFile)
  | rename (file target : CacheFile)

abbrev MapOp.Answer : MapOp → Type
  | .exists _ => Bool
  | .readToken => Option String
  | .fetchToken => Except String String
  | .getSyncMeta _ => Reply RemoteMap
  | .openStream .. => Reply Unit
  | .message .. => Except String (Option GlbChunk)
  | .write .. | .create _ | .writeAll .. | .flush _ | .rename .. => Except String Unit
  | _ => Unit

structure MapState where
  disk : Disk CacheFile
  authToken : Option String
  locked : Bool

/-- What a call depends on besides the state: whether it fails, in what
way and with what left of a write; which part of an asset the next message
of a stream brings, or whether the stream ends; the token and the clock. -/
structure MapInput where
  fails : Bool
  timesOut : Bool
  status : Status
  error : String
  kept : ℕ
  ends : Bool
  offset : ℕ
  length : ℕ
  eof : Bool
  token : String
  now : ℤ

def ioResult (i : MapInput) : Except String Unit := if i.fails then .error i.error else .ok ()

def MapInput.reply {α : Type} (i : MapInput) (offered : Option α) : Reply α :=
  if i.timesOut then .timedOut
  else if i.fails then .refused i.status
  else match offered with
    | none => .refused ⟨.notFound, i.error⟩
    | some a => .ok a

/-- A part of the asset; the last one may say so. -/
def chunkOf (content : List UInt8) (i : MapInput) : GlbChunk :=
  ⟨i.offset, (content.drop i.offset).take i.length,
    i.eof && decide (content.length ≤ i.offset + i.length)⟩

section Calls

variable (remote : Remote)

def exec (s : MapState) : (op : MapOp) → MapInput → MapState × op.Answer
  | .lock _, _ => ({ s with locked := true }, ())
  | .unlock, _ => ({ s with locked := false }, ())
  | .exists file, i => (s, !i.fails && (s.disk.current file).isSome)
  | .readToken, _ => (s, s.authToken)
  | .fetchToken, i => (s, if i.fails then .error i.error else .ok i.token)
  | .writeToken token, _ => ({ s with authToken := some token }, ())
  | .getSyncMeta mapId, i => (s, i.reply (remote mapId))
  | .openStream mapId kind, i => (s, i.reply ((remote.asset mapId kind).map fun _ => ()))
  | .message mapId kind, i =>
      (s, if i.fails then .error i.error
        else if i.ends then .ok none
        else .ok ((remote.asset mapId kind).map fun content => chunkOf content i))
  | .write file bytes, i =>
      let written := if i.fails then bytes.take i.kept else bytes
      ({ s with disk := (s.disk.create file i.now).append file written i.now }, ioResult i)
  | .create file, i =>
      (if i.fails then s else { s with disk := s.disk.create file i.now }, ioResult i)
  | .writeAll file bytes, i =>
      let written := if i.fails then bytes.take i.kept else bytes
      ({ s with disk := s.disk.append file written i.now }, ioResult i)
  | .flush _, i => (s, ioResult i)
  | .removeFile file, i => (if i.fails then s else { s with disk := s.disk.remove file }, ())
  | .rename file target, i =>
      (if i.fails then s else { s with disk := s.disk.rename file target }, ioResult i)

end Calls

abbrev MapProg := Prog MapOp MapOp.Answer
abbrev MapWorld := World MapState MapOp MapOp.Answer

abbrev MapOp.call (op : MapOp) : MapProg op.Answer := Prog.perform op

/-! ## Requests to the remote backend -/

def mapTokenFetchError (message : String) : Status :=
  if Text.contains message.toList "login required".toList then ⟨.unauthenticated, message⟩
  else ⟨.unavailable, "failed to get auth token for map sync: " ++ message⟩

def isAuthError (status : Status) : Bool :=
  status.code == .unauthenticated || status.code == .permissionDenied

def refreshToken : MapProg (Except Status String) := do
  match ← MapOp.fetchToken.call with
  | .error message => pure (.error (mapTokenFetchError message))
  | .ok token => do
      (MapOp.writeToken token).call
      pure (.ok token)

def tokenOrFetch : MapProg (Except Status String) := do
  match ← MapOp.readToken.call with
  | some token => pure (.ok token)
  | none => refreshToken

/-- `MetadataValue::try_from` takes visible ASCII. -/
def attachAuthCookie (token : String) : Except Status Unit :=
  if ("auth_token=" ++ token).toList.all fun c => (32 ≤ c.toNat && c.toNat < 127) || c == '\t' then
    .ok ()
  else .error ⟨.unauthenticated, "invalid auth token cookie"⟩

/-- A request with the token, tried once more with a new one if the first
is not accepted. Both requests for the assets of a map are made so. -/
def request {α : Type} (send : MapProg (Reply α)) (timeoutMessage : String) :
    MapProg (Except Status α) := do
  match ← tokenOrFetch with
  | .error status => pure (.error status)
  | .ok token =>
  match attachAuthCookie token with
  | .error status => pure (.error status)
  | .ok () => do
  match ← send with
  | .timedOut => pure (.error ⟨.deadlineExceeded, timeoutMessage⟩)
  | .ok a => pure (.ok a)
  | .refused status =>
      if isAuthError status then do
        match ← refreshToken with
        | .error status => pure (.error status)
        | .ok token =>
        match attachAuthCookie token with
        | .error status => pure (.error status)
        | .ok () => do
        match ← send with
        | .timedOut => pure (.error ⟨.deadlineExceeded, timeoutMessage⟩)
        | .refused status => pure (.error status)
        | .ok a => pure (.ok a)
      else pure (.error status)

/-! ## Copying a map -/

/-- How a call ends; it can also be left in the middle of a stream. -/
inductive SyncOutcome where
  | ok
  | err (status : Status)
  | unfinished
  deriving DecidableEq, Repr

section Functions

variable (cacheDir : String)

def replaceFileAtomically (file : CacheFile) : MapProg SyncOutcome := do
  (MapOp.removeFile file).call
  match ← (MapOp.rename (tmpPathFor file) file).call with
  | .ok () => pure .ok
  | .error e => pure (.err ⟨.internal, "failed to replace file " ++ file.path cacheDir ++ ": " ++ e⟩)

def writeBytesAtomically (file : CacheFile) (bytes : List UInt8) : MapProg SyncOutcome := do
  match ← (MapOp.write (tmpPathFor file) bytes).call with
  | .error e => pure (.err ⟨.internal, "failed to write temp file " ++
      (tmpPathFor file).path cacheDir ++ ": " ++ e⟩)
  | .ok () => replaceFileAtomically cacheDir file

/-- The loop over the messages of a stream. -/
def receiveChunks (mapId : String) (kind : AssetKind) : ℕ → ℕ → MapProg SyncOutcome
  | 0, _ => pure .unfinished
  | fuel + 1, expectedOffset => do
      match ← (MapOp.message mapId kind).call with
      | .error e => pure (.err ⟨.unavailable, "failed to receive GLB stream chunk: " ++ e⟩)
      | .ok none => pure .ok
      | .ok (some chunk) =>
          if chunk.offset ≠ expectedOffset then
            pure (.err ⟨.failedPrecondition, "invalid GLB stream chunk offset"⟩)
          else do
            match ← (MapOp.writeAll (tmpPathFor (asset mapId kind)) chunk.data).call with
            | .error e => pure (.err ⟨.internal, "failed to write GLB chunk: " ++ e⟩)
            | .ok () =>
                if chunk.eof then pure .ok
                else receiveChunks mapId kind fuel (expectedOffset + chunk.data.length)

def streamGlbToCache (mapId : String) (kind : AssetKind) (required : Bool) (fuel : ℕ) :
    MapProg SyncOutcome := do
  let target := asset mapId kind
  match ← request (MapOp.openStream mapId kind).call "map glb stream request timed out" with
  | .error status =>
      if !required && status.code == .notFound then pure .ok else pure (.err status)
  | .ok () => do
      match ← (MapOp.create (tmpPathFor target)).call with
      | .error e => pure (.err ⟨.internal, "failed to create temp GLB file: " ++ e⟩)
      | .ok () => do
          match ← receiveChunks mapId kind fuel 0 with
          | .ok => do
              match ← (MapOp.flush (tmpPathFor target)).call with
              | .error e => pure (.err ⟨.internal, "failed to flush GLB file: " ++ e⟩)
              | .ok () => replaceFileAtomically cacheDir target
          | other => pure other

/-- The files that make a map complete, in the order of the check. -/
def requiredKinds : List AssetKind := [.mainGlb, .mapJson, .minimapJson, .minimapSvg]

def filesExist (mapId : String) : List AssetKind → MapProg Bool
  | [] => pure true
  | kind :: kinds => do
      if ← (MapOp.exists (asset mapId kind)).call then filesExist mapId kinds else pure false

def requiredFilesExist (mapId : String) : MapProg Bool := filesExist mapId requiredKinds

/-- What one step after the other does until one fails. -/
def inTurn : List (MapProg SyncOutcome) → MapProg SyncOutcome
  | [] => pure .ok
  | step :: steps => do
      match ← step with
      | .ok => inTurn steps
      | other => pure other

/-- `ensure_map_cached` once it has the lock and has not found the files. -/
def syncMap (mapId : String) (fuel : ℕ) : MapProg SyncOutcome := do
  match ← request (MapOp.getSyncMeta mapId).call "map sync metadata request timed out" with
  | .error status => pure (.err status)
  | .ok syncMeta =>
      if Text.trim syncMeta.mapId ≠ mapId then
        pure (.err ⟨.failedPrecondition, "map sync metadata map_id mismatch"⟩)
      else
        inTurn [
          writeBytesAtomically cacheDir (asset mapId .minimapSvg) syncMeta.minimapSvg,
          writeBytesAtomically cacheDir (asset mapId .mapJson) syncMeta.mainMetadataJson,
          writeBytesAtomically cacheDir (asset mapId .minimapJson) syncMeta.minimapMetadataJson,
          streamGlbToCache cacheDir mapId .mainGlb true fuel,
          streamGlbToCache cacheDir mapId .animationGlb false fuel]

def ensureMapCached (rawMapId : String) (fuel : ℕ) : MapProg SyncOutcome :=
  match sanitizeMapId rawMapId with
  | .error status => pure (.err status)
  | .ok mapId => do
      if ← requiredFilesExist mapId then pure .ok
      else do
        (MapOp.lock mapId).call
        if ← requiredFilesExist mapId then do
          MapOp.unlock.call
          pure .ok
        else do
          match ← syncMap cacheDir mapId fuel with
          | .unfinished => pure .unfinished
          | outcome => do
              MapOp.unlock.call
              pure outcome

end Functions

end HackArena.Local.MapAssets
