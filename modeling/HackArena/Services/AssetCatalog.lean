import HackArena.Lib.KeyedList
import HackArena.Lib.Programs
import HackArena.Lib.Text
import HackArena.Lib.UnixPaths
import HackArena.Services.AssetStream
import Mathlib.Data.List.Sort

/-!
# The catalog of map assets

The official and the standalone backend keep the assets of each map in a
directory of its own, a bundle. The name of the directory is the id that clients
use; within it the files are named after the internal id of the map. Bundles are
looked up in the file system for every request, except that what has been found
out of a bundle is cached for two minutes.
-/

namespace HackArena.Services.AssetCatalog

open Prog

/-! ## Bundles -/

abbrev FsPath := List Char

def localMarkerFile : String := ".local"

def mapBundleMetaCacheTtlMs : ℕ := 120000

inductive MapAssetKind where
  | unspecified | mainGlb | animationGlb | minimapSvg
  deriving DecidableEq, Repr

inductive MimeType where
  | gltfBinary | imageSvgXml
  deriving DecidableEq, Repr

structure MapAssetMeta where
  kind : MapAssetKind
  contentType : MimeType
  sizeBytes : ℕ
  contentHash : String
  deriving DecidableEq, Repr

structure Vector3 where
  x : Boink.F32
  y : Boink.F32
  z : Boink.F32
  deriving DecidableEq, Repr

structure HelicopterViewMetadata where
  ellipseCenterWorld : Option Vector3
  ellipseSemiAxisXM : Boink.F32
  ellipseSemiAxisZM : Boink.F32
  ellipseRotationRad : Boink.F32
  desiredArcOffsetTowardsM : Boink.F32
  desiredArcOffsetAwayM : Boink.F32
  deriving DecidableEq, Repr

/-- The file of a minimap has what clients are told of it. -/
structure MinimapMetadata where
  viewBoxMinX : ℚ
  viewBoxMinY : ℚ
  viewBoxWidth : ℚ
  viewBoxHeight : ℚ
  originWorldX : ℚ
  originWorldZ : ℚ
  rotationRad : ℚ
  scaleSvgUnitsPerMeter : ℚ
  deriving DecidableEq, Repr

structure MapMetadataJson where
  name : String
  lapLengthMeters : Boink.F32
  followCameraAnchorPositions : List Vector3
  helicopterView : Option HelicopterViewMetadata
  deriving DecidableEq, Repr

structure MapMetadata where
  mapId : String
  mapName : String
  totalLengthM : Boink.F32
  followCameraAnchorPositions : List Vector3
  helicopterView : Option HelicopterViewMetadata
  deriving DecidableEq, Repr

def MapMetadata.ofJson (mapId : String) (value : MapMetadataJson) : MapMetadata where
  mapId
  mapName := value.name
  totalLengthM := value.lapLengthMeters
  followCameraAnchorPositions := value.followCameraAnchorPositions
  helicopterView := value.helicopterView

structure MapAssetBundleMeta where
  mapId : String
  mainGlb : MapAssetMeta
  animationGlb : Option MapAssetMeta
  minimapSvg : MapAssetMeta
  minimapMetadata : MinimapMetadata
  mapMetadata : MapMetadata
  deriving DecidableEq, Repr

structure MapCatalogEntry where
  mapId : String
  displayName : String
  deriving DecidableEq, Repr

/-- The readers of the two JSON files. -/
structure Libraries where
  parseMinimap : String → Option MinimapMetadata
  parseMap : String → Option MapMetadataJson

/-! ## Names -/

def isInternalMapIdChar (c : Char) : Bool := Text.isAsciiAlphanumeric c || c == '-' || c == '_'

def sanitizeInternalMapId (id : String) : Except Status Unit :=
  if !id.toList.all isInternalMapIdChar then .error ⟨.invalidArgument, "invalid internal map id"⟩
  else .ok ()

def isValidStorageKey (storageKey : String) : Bool :=
  storageKey.toList.all Text.isAsciiAlphanumeric

def validateRequestedMapId (rawMapId : String) : Except Status String :=
  let mapId := Text.trim rawMapId
  if mapId = "" then .error ⟨.invalidArgument, "map_id is required"⟩
  else if !isValidStorageKey mapId then
    .error ⟨.invalidArgument, "map_id(storage_key) must be alphanumeric"⟩
  else .ok mapId

/-- `str::strip_suffix`. -/
def stripSuffix (name suffix : List Char) : Option (List Char) :=
  if suffix.isSuffixOf name then some (name.take (name.length - suffix.length)) else none

def internalMapIdFromMainGlbName (fileName : String) : Option String :=
  if !".glb".toList.isSuffixOf fileName.toList ||
      ".animation.glb".toList.isSuffixOf fileName.toList then none
  else (stripSuffix fileName.toList ".glb".toList).map String.ofList

def joinName (dir : FsPath) (name : String) : FsPath :=
  UnixPath.join UnixPath.chars dir name.toList

def resolveMainGlbPath (root : FsPath) (internalMapId : String) : FsPath :=
  joinName root (internalMapId ++ ".glb")

def resolveAnimationGlbPath (root : FsPath) (internalMapId : String) : FsPath :=
  joinName root (internalMapId ++ ".animation.glb")

def resolveMinimapSvgPath (root : FsPath) (internalMapId : String) : FsPath :=
  joinName root (internalMapId ++ ".minimap.svg")

def resolveMinimapMetadataPath (root : FsPath) (internalMapId : String) : FsPath :=
  joinName root (internalMapId ++ ".minimap.json")

def resolveMapMetadataPath (root : FsPath) (internalMapId : String) : FsPath :=
  joinName root (internalMapId ++ ".json")

def contentTypeForKind : MapAssetKind → Except Status MimeType
  | .mainGlb | .animationGlb => .ok .gltfBinary
  | .minimapSvg => .ok .imageSvgXml
  | .unspecified => .error ⟨.invalidArgument, "map asset kind is required"⟩

def resolvePathForKind (root : FsPath) (internalMapId : String) :
    MapAssetKind → Except Status FsPath
  | .mainGlb => .ok (resolveMainGlbPath root internalMapId)
  | .animationGlb => .ok (resolveAnimationGlbPath root internalMapId)
  | .minimapSvg => .ok (resolveMinimapSvgPath root internalMapId)
  | .unspecified => .error ⟨.invalidArgument, "map asset kind is required"⟩

inductive MapGlbKind where
  | unspecified | main | animation
  deriving DecidableEq, Repr

def resolvePathForGlbKind (root : FsPath) (internalMapId : String) :
    MapGlbKind → Except Status FsPath
  | .main => .ok (resolveMainGlbPath root internalMapId)
  | .animation => .ok (resolveAnimationGlbPath root internalMapId)
  | .unspecified => .error ⟨.invalidArgument, "glb kind is required"⟩

structure MapBundlePaths where
  storageKey : String
  internalMapId : String
  bundleDir : FsPath
  mainGlbPath : FsPath
  animationGlbPath : FsPath
  minimapSvgPath : FsPath
  minimapMetadataPath : FsPath
  mapMetadataPath : FsPath
  localMarkerPath : FsPath
  deriving DecidableEq, Repr

def bundlePaths (storageKey internalMapId : String) (bundleDir : FsPath) : MapBundlePaths where
  storageKey
  internalMapId
  bundleDir
  mainGlbPath := resolveMainGlbPath bundleDir internalMapId
  animationGlbPath := resolveAnimationGlbPath bundleDir internalMapId
  minimapSvgPath := resolveMinimapSvgPath bundleDir internalMapId
  minimapMetadataPath := resolveMinimapMetadataPath bundleDir internalMapId
  mapMetadataPath := resolveMapMetadataPath bundleDir internalMapId
  localMarkerPath := joinName bundleDir localMarkerFile

/-! ## Calls -/

inductive FileType where
  | file | dir | other
  deriving DecidableEq, Repr

/-- What a directory gives next: an error, or an entry whose type can be looked
up or not and whose name is a text or not. -/
inductive DirItem where
  | failed
  | entry (fileType : Option FileType) (fileName : Option String)
  deriving DecidableEq, Repr

structure FileMeta where
  isDir : Bool
  len : ℕ
  deriving DecidableEq, Repr

structure CachedMapBundleMeta where
  bundle : MapAssetBundleMeta
  cachedAt : ℕ
  deriving DecidableEq, Repr

inductive AssetOp where
  | now
  | cached (mapId : String) (now : ℕ)
  | cachedOrRemove (mapId : String) (now : ℕ)
  | store (mapId : String) (bundle : MapAssetBundleMeta)
  | metadata (path : FsPath)
  | readDir (path : FsPath)
  | isFile (path : FsPath)
  | read (path : FsPath)
  | readToString (path : FsPath)
  | hash (path : FsPath)
  deriving DecidableEq, Repr

/-- The time at which a bundle is stored is read with the lock held. -/
abbrev AssetOp.Answer : AssetOp → Type
  | .now => ℕ
  | .cached .. | .cachedOrRemove .. => Option MapAssetBundleMeta
  | .store .. => ℕ
  | .metadata _ => Except IoError FileMeta
  | .readDir _ => Except IoError (List DirItem)
  | .isFile _ => Bool
  | .read _ => Except IoError (List UInt8)
  | .readToString _ => Except IoError String
  | .hash _ => Option String

/-- What the clock and the file system say to a call. -/
structure AssetInput where
  elapsed : ℕ
  metadata : Except IoError FileMeta
  items : Except IoError (List DirItem)
  isFile : Bool
  bytes : Except IoError (List UInt8)
  text : Except IoError String
  hash : Option String

structure AssetState where
  now : ℕ
  cache : HashMap String CachedMapBundleMeta

def AssetState.initial (now : ℕ) : AssetState := ⟨now, ∅⟩

/-- The bundle in the cache, unless it is too old at `now`. -/
def AssetState.young (s : AssetState) (mapId : String) (now : ℕ) : Option MapAssetBundleMeta :=
  ((s.cache.lookup mapId).filter fun entry =>
    now - entry.cachedAt < mapBundleMetaCacheTtlMs).map (·.bundle)

def assetExec (s : AssetState) (op : AssetOp) (i : AssetInput) : AssetState × op.Answer :=
  let now := s.now + i.elapsed
  match op with
  | .now => ({ s with now }, now)
  | .cached mapId readAt => ({ s with now }, s.young mapId readAt)
  | .cachedOrRemove mapId readAt =>
      match s.young mapId readAt with
      | some bundle => ({ s with now }, some bundle)
      | none => (⟨now, s.cache.erase mapId⟩, none)
  | .store mapId bundle => (⟨now, s.cache.insert mapId ⟨bundle, now⟩⟩, now)
  | .metadata _ => ({ s with now }, i.metadata)
  | .readDir _ => ({ s with now }, i.items)
  | .isFile _ => ({ s with now }, i.isFile)
  | .read _ => ({ s with now }, i.bytes)
  | .readToString _ => ({ s with now }, i.text)
  | .hash _ => ({ s with now }, i.hash)

abbrev AssetProg := Prog AssetOp AssetOp.Answer
abbrev AssetCall := ExceptT Status AssetProg

abbrev AssetOp.call (op : AssetOp) : AssetProg op.Answer := perform op

/-! ## Looking up a bundle -/

def ioStatusOr (missing failed : Status) : IoError → Status
  | .notFound => missing
  | .other => failed

def inspectError : Status := ⟨.internal, "failed to inspect map asset bundle"⟩

def bundleNotFound : Status := ⟨.notFound, "map asset bundle not found"⟩

/-- The internal id in the name of a main asset, if it can be one. -/
def candidateId (fileName : Option String) : Option String :=
  (fileName.bind internalMapIdFromMainGlbName).filter fun id => (sanitizeInternalMapId id).isOk

/-- The loop over the entries of a bundle. -/
def findInternalMapId : Option String → List DirItem → Except Status (Option String)
  | found, [] => .ok found
  | _, .failed :: _ => .error inspectError
  | _, .entry none _ :: _ => .error inspectError
  | found, .entry (some .file) fileName :: items =>
      match candidateId fileName with
      | none => findInternalMapId found items
      | some candidate =>
          if found.isSome then
            .error ⟨.failedPrecondition, "map bundle contains multiple main glb files"⟩
          else findInternalMapId (some candidate) items
  | found, .entry (some _) _ :: items => findInternalMapId found items

/-- The paths are looked at in turn, up to the first that is no file. -/
def allFiles : List FsPath → AssetProg Bool
  | [] => pure true
  | path :: paths => do
      if ← (AssetOp.isFile path).call then allFiles paths else pure false

def bundleIsComplete (bundle : MapBundlePaths) : AssetProg Bool :=
  allFiles [bundle.mainGlbPath, bundle.minimapSvgPath, bundle.minimapMetadataPath,
    bundle.mapMetadataPath]

/-- The bundle that is made of the entries of its directory. -/
def bundleOf (storageKey : String) (bundleDir : FsPath) (items : List DirItem) :
    AssetCall MapBundlePaths := do
  let found ← ExceptT.mk (pure (findInternalMapId none items))
  let internalMapId ← ExceptT.mk (pure (found.elim (.error
    ⟨.failedPrecondition, "map bundle does not contain main glb"⟩) .ok))
  let bundle := bundlePaths storageKey internalMapId bundleDir
  let complete ← liftM (bundleIsComplete bundle)
  if complete then pure bundle
  else throw ⟨.failedPrecondition, "map bundle is incomplete"⟩

variable (tracksDir : FsPath)

def resolveOfficialBundlePaths (storageKey : String) : AssetCall MapBundlePaths := do
  let bundleDir := joinName tracksDir storageKey
  let bundleMeta ← (AssetOp.metadata bundleDir).call.orFail (ioStatusOr bundleNotFound inspectError)
  if bundleMeta.isDir then do
    let items ← (AssetOp.readDir bundleDir).call.orFail fun _ => inspectError
    bundleOf storageKey bundleDir items
  else throw bundleNotFound

/-! ## What is in a bundle -/

def buildAssetMeta (kind : MapAssetKind) (path : FsPath) : AssetCall MapAssetMeta := do
  let contentType ← ExceptT.mk (pure (contentTypeForKind kind))
  let fsMeta ← (AssetOp.metadata path).call.orFail (ioStatusOr mapAssetNotFound
    ⟨.internal, "failed to read map asset metadata"⟩)
  let hash ← (AssetOp.hash path).call
  let contentHash ← ExceptT.mk (pure (hash.elim (.error
    ⟨.internal, "failed to hash map asset"⟩) .ok))
  pure { kind, contentType, sizeBytes := fsMeta.len, contentHash }

variable (lib : Libraries)

def parseMinimapMetadata (raw : String) : Except Status MinimapMetadata :=
  (lib.parseMinimap raw).elim
    (.error ⟨.failedPrecondition, "invalid minimap metadata json"⟩) .ok

def readMinimapMetadata (path : FsPath) : AssetCall MinimapMetadata := do
  let raw ← (AssetOp.readToString path).call.orFail (ioStatusOr
    ⟨.notFound, "map minimap metadata not found"⟩
    ⟨.internal, "failed to read minimap metadata"⟩)
  ExceptT.mk (pure (parseMinimapMetadata lib raw))

def parseMapMetadata (publicMapId raw : String) : Except Status MapMetadata :=
  match lib.parseMap raw with
  | none => .error ⟨.failedPrecondition, "invalid map metadata json"⟩
  | some parsed =>
      if Text.trim parsed.name = "" then
        .error ⟨.failedPrecondition, "map metadata map_name must be non-empty"⟩
      else .ok (.ofJson publicMapId parsed)

def readMapMetadata (publicMapId : String) (path : FsPath) : AssetCall MapMetadata := do
  let raw ← (AssetOp.readToString path).call.orFail (ioStatusOr
    ⟨.notFound, "map metadata not found"⟩ ⟨.internal, "failed to read map metadata"⟩)
  ExceptT.mk (pure (parseMapMetadata lib publicMapId raw))

/-- A map need not have an animation. -/
def buildAnimationMeta (path : FsPath) : AssetCall (Option MapAssetMeta) := do
  match ← liftM (AssetOp.metadata path).call with
  | .ok _ => do pure (some (← buildAssetMeta .animationGlb path))
  | .error .notFound => pure none
  | .error .other => throw ⟨.internal, "failed to read map asset metadata"⟩

def buildBundle (mapId : String) (paths : MapBundlePaths) : AssetCall MapAssetBundleMeta := do
  let mainGlb ← buildAssetMeta .mainGlb paths.mainGlbPath
  let minimapSvg ← buildAssetMeta .minimapSvg paths.minimapSvgPath
  let minimapMetadata ← readMinimapMetadata lib paths.minimapMetadataPath
  let mapMetadata ← readMapMetadata lib mapId paths.mapMetadataPath
  let animationGlb ← buildAnimationMeta paths.animationGlbPath
  pure { mapId, mainGlb, animationGlb, minimapSvg, minimapMetadata, mapMetadata }

/-- The cache is looked at again with the lock for writing held. -/
def tryGetCachedBundleMeta (mapId : String) : AssetProg (Option MapAssetBundleMeta) := do
  let now ← AssetOp.now.call
  match ← (AssetOp.cached mapId now).call with
  | some bundle => pure (some bundle)
  | none => (AssetOp.cachedOrRemove mapId now).call

/-! ## Requests -/

def readBundle (mapId : String) : AssetCall MapAssetBundleMeta := do
  let paths ← resolveOfficialBundlePaths tracksDir mapId
  buildBundle lib mapId paths

def getMapAssetBundleMeta (rawMapId : String) : AssetCall MapAssetBundleMeta := do
  let mapId ← ExceptT.mk (pure (validateRequestedMapId rawMapId))
  match ← liftM (tryGetCachedBundleMeta mapId) with
  | some bundle => pure bundle
  | none => do
      let bundle ← readBundle tracksDir lib mapId
      let _ ← (AssetOp.store mapId bundle).call
      pure bundle

structure MapAssetSyncMeta where
  mapId : String
  minimapSvg : List UInt8
  mainMetadataJson : List UInt8
  minimapMetadataJson : List UInt8
  deriving DecidableEq, Repr

def readBytes (path : FsPath) (missing failed : Status) : AssetCall (List UInt8) :=
  (AssetOp.read path).call.orFail (ioStatusOr missing failed)

def getMapAssetSyncMeta (rawMapId : String) : AssetCall MapAssetSyncMeta := do
  let mapId ← ExceptT.mk (pure (validateRequestedMapId rawMapId))
  let paths ← resolveOfficialBundlePaths tracksDir mapId
  let minimapSvg ← readBytes paths.minimapSvgPath ⟨.notFound, "map minimap svg not found"⟩
    ⟨.internal, "failed to read minimap svg"⟩
  let mainMetadataJson ← readBytes paths.mapMetadataPath
    ⟨.notFound, "map metadata json not found"⟩ ⟨.internal, "failed to read map metadata json"⟩
  let minimapMetadataJson ← readBytes paths.minimapMetadataPath
    ⟨.notFound, "map minimap metadata json not found"⟩
    ⟨.internal, "failed to read map minimap metadata json"⟩
  pure { mapId, minimapSvg, mainMetadataJson, minimapMetadataJson }

/-- The file that is sent, with its length. -/
def locateAsset (rawMapId : String) (resolve : FsPath → String → Except Status FsPath)
    (missing : Status) : AssetCall (FsPath × ℕ) := do
  let mapId ← ExceptT.mk (pure (validateRequestedMapId rawMapId))
  let paths ← resolveOfficialBundlePaths tracksDir mapId
  let path ← ExceptT.mk (pure (resolve paths.bundleDir paths.internalMapId))
  let fsMeta ← (AssetOp.metadata path).call.orFail (ioStatus missing)
  pure (path, fsMeta.len)

/-- `get_map_asset`, before the file is opened. -/
def getMapAssetFile (rawMapId : String) (kind : MapAssetKind) : AssetCall (FsPath × ℕ) :=
  locateAsset tracksDir rawMapId (fun root id => resolvePathForKind root id kind) mapAssetNotFound

/-- `stream_map_asset_glb`, before the file is opened. -/
def streamMapAssetGlbFile (rawMapId : String) (kind : MapGlbKind) : AssetCall (FsPath × ℕ) :=
  locateAsset tracksDir rawMapId (fun root id => resolvePathForGlbKind root id kind) mapGlbNotFound

/-- Errors for which a bundle is passed over. -/
def isSkipped (status : Status) : Bool :=
  status.code = .notFound ∨ status.code = .failedPrecondition

/-- The value of a call, unless its error is one that is passed over. -/
def skipping {α : Type} (x : AssetCall α) : AssetCall (Option α) :=
  ExceptT.mk do
    match ← x.run with
    | .ok a => pure (.ok (some a))
    | .error status => if isSkipped status then pure (.ok none) else pure (.error status)

/-- The key that a directory stands for. -/
def storageKeyOf (fileName : Option String) : Option String :=
  (fileName.map Text.trim).filter isValidStorageKey

/-- Whether the bundle is marked, where that matters. -/
def hasMarker (onlyLocalMarked : Bool) (bundle : MapBundlePaths) : AssetProg Bool :=
  if onlyLocalMarked then (AssetOp.isFile bundle.localMarkerPath).call else pure true

/-- What the catalog says of a bundle that has been found. -/
def describeBundle (onlyLocalMarked : Bool) (bundle : MapBundlePaths) :
    AssetCall (Option MapCatalogEntry) := do
  let marked ← liftM (hasMarker onlyLocalMarked bundle)
  if marked then do
    let mapMetadata ← skipping (readMapMetadata lib bundle.storageKey bundle.mapMetadataPath)
    pure (mapMetadata.map fun value => ⟨bundle.storageKey, value.mapName⟩)
  else pure none

/-- One bundle of the catalog, if it belongs there. -/
def catalogEntry (onlyLocalMarked : Bool) (storageKey : String) :
    AssetCall (Option MapCatalogEntry) := do
  match ← skipping (resolveOfficialBundlePaths tracksDir storageKey) with
  | none => pure none
  | some bundle => describeBundle lib onlyLocalMarked bundle

def listError : Status := ⟨.internal, "failed to list maps"⟩

/-- The loop over the entries of the directory of all tracks. -/
def catalogEntries (onlyLocalMarked : Bool) : List DirItem → AssetCall (List MapCatalogEntry)
  | [] => pure []
  | .failed :: _ => throw listError
  | .entry none _ :: _ => throw listError
  | .entry (some .dir) fileName :: items =>
      match storageKeyOf fileName with
      | none => catalogEntries onlyLocalMarked items
      | some storageKey => do
          let entry ← catalogEntry tracksDir lib onlyLocalMarked storageKey
          let maps ← catalogEntries onlyLocalMarked items
          pure (entry.toList ++ maps)
  | .entry (some _) _ :: items => catalogEntries onlyLocalMarked items

def sortMaps (maps : List MapCatalogEntry) : List MapCatalogEntry :=
  maps.insertionSort fun a b => a.mapId ≤ b.mapId

/-- `list_maps` of the official backend lists the marked bundles only; that of
the standalone backend and `list_all_maps` list all of them. -/
def listOfficialMaps (onlyLocalMarked : Bool) : AssetCall (List MapCatalogEntry) := do
  let items ← (AssetOp.readDir tracksDir).call.orFail fun _ => listError
  let maps ← catalogEntries tracksDir lib onlyLocalMarked items
  pure (sortMaps maps)

inductive AssetRequest where
  | listMaps (onlyLocalMarked : Bool)
  | bundleMeta (rawMapId : String)
  | syncMeta (rawMapId : String)
  | asset (rawMapId : String) (kind : MapAssetKind)
  | glb (rawMapId : String) (kind : MapGlbKind)

inductive AssetReply where
  | maps (maps : List MapCatalogEntry)
  | bundle (bundle : MapAssetBundleMeta)
  | sync (sync : MapAssetSyncMeta)
  | file (path : FsPath) (len : ℕ)

def AssetRequest.answer : AssetRequest → AssetCall AssetReply
  | .listMaps onlyLocalMarked => do
      pure (.maps (← listOfficialMaps tracksDir lib onlyLocalMarked))
  | .bundleMeta rawMapId => do pure (.bundle (← getMapAssetBundleMeta tracksDir lib rawMapId))
  | .syncMeta rawMapId => do pure (.sync (← getMapAssetSyncMeta tracksDir rawMapId))
  | .asset rawMapId kind => do
      let file ← getMapAssetFile tracksDir rawMapId kind
      pure (.file file.1 file.2)
  | .glb rawMapId kind => do
      let file ← streamMapAssetGlbFile tracksDir rawMapId kind
      pure (.file file.1 file.2)

end HackArena.Services.AssetCatalog
