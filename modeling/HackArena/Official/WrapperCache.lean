import HackArena.Official.SubmissionBuilds
import HackArena.Official.TeamStorage

/-!
# The cache of the wrappers

The package of a wrapper is an asset of a release. A package that has been
downloaded is kept in a directory that is named after the repository and the
tag of the release, and a later build takes it from there by its name.
-/

namespace HackArena.Official

/-! ## Releases -/

structure GitHubReleaseAsset where
  id : ℕ
  name : String
  deriving DecidableEq

/-- The service with the releases of each repository, by their tags, and
with the content of each asset. -/
structure GitHub where
  release : (repo releaseTag : String) → Option (List GitHubReleaseAsset)
  asset : (repo : String) → (id : ℕ) → List UInt8

/-- A release with this tag has an asset of this name with these bytes. -/
def GitHub.Offers (github : GitHub) (repo releaseTag name : String) (bytes : List UInt8) : Prop :=
  ∃ assets, github.release repo releaseTag = some assets ∧
    ∃ asset ∈ assets, asset.name = name ∧ github.asset repo asset.id = bytes

/-! ## Calls -/

inductive ReadDirError where
  | notFound
  | other (message : String)
  deriving DecidableEq

abbrev CacheDir := List String

/-- `install` is what is done with the package in the build context. -/
inductive CacheOp where
  | log (line : String)
  | readDir (dir : CacheDir)
  | read (dir : CacheDir) (name : String)
  | fetchRelease (repo releaseTag : String)
  | downloadAsset (repo : String) (asset : GitHubReleaseAsset)
  | createDirAll (dir : CacheDir)
  | write (dir : CacheDir) (name : String) (bytes : List UInt8)
  | install (assetName : String) (bytes : List UInt8)

def CacheOp.Answer : CacheOp → Type
  | .log _ => Unit
  | .readDir _ => Except ReadDirError (List String)
  | .read _ _ | .downloadAsset _ _ => Except String (List UInt8)
  | .fetchRelease _ _ => Except String (List GitHubReleaseAsset)
  | .createDirAll _ | .write _ _ _ | .install _ _ => Except String Unit

abbrev CacheProg := ExceptT String (Prog CacheOp CacheOp.Answer)

def CacheOp.call (op : CacheOp) : Prog CacheOp CacheOp.Answer op.Answer := Prog.perform op

def emitBuildLogLine (line : String) : CacheProg Unit := liftM (CacheOp.log line).call

/-! ## The cache -/

def wrapperCacheDir (repo releaseTag : String) : CacheDir :=
  [".submissions", "wrapper-cache", sanitizeStorageComponent repo,
    sanitizeStorageComponent releaseTag]

def display (dir : CacheDir) : String := String.intercalate "/" dir

/-- All that is in the directory are files. -/
def listCachedWrapperFiles (repo releaseTag : String) : CacheProg (List String) :=
  let cacheDir := wrapperCacheDir repo releaseTag
  ExceptT.mk do
    match ← (CacheOp.readDir cacheDir).call with
    | .ok files => pure (.ok files)
    | .error .notFound => pure (.ok [])
    | .error (.other _) =>
        pure (.error ("wrapper-fetch: failed to open cache directory " ++ display cacheDir))

/-- `str::eq_ignore_ascii_case`. -/
def eqIgnoreAsciiCase (a b : String) : Bool := Text.asciiLowercase a == Text.asciiLowercase b

def loadCachedWrapperAssetExact (repo releaseTag expectedName : String) :
    CacheProg (Option (String × List UInt8)) := do
  let files ← listCachedWrapperFiles repo releaseTag
  match files.find? (eqIgnoreAsciiCase · expectedName) with
  | none => pure none
  | some fileName => do
      let cacheDir := wrapperCacheDir repo releaseTag
      let bytes ← (CacheOp.read cacheDir fileName).call.orFail fun _ =>
        "wrapper-fetch: failed to read cached asset " ++ display (cacheDir ++ [fileName])
      pure (some (fileName, bytes))

def isCsharpAssetNameMatch (assetName assetVersion : String) : Bool :=
  let assetVersion := Text.asciiLowercase assetVersion
  let name := Text.asciiLowercase assetName
  let expectedLegacyPrefix := "hackarena3-".toList ++ assetVersion
  let expectedDottedName := "hackarena3.wrapper.csharp.".toList ++ assetVersion ++ ".nupkg".toList
  ".nupkg".toList.isSuffixOf name &&
    (expectedLegacyPrefix.isPrefixOf name || name == expectedDottedName)

def loadCachedCsharpWrapperAsset (repo releaseTag assetVersion : String) :
    CacheProg (Option (String × List UInt8)) := do
  let files ← listCachedWrapperFiles repo releaseTag
  let candidates := files.filter (isCsharpAssetNameMatch · assetVersion)
  match candidates.insertionSort (· ≤ ·) with
  | [] => pure none
  | selected :: _ => do
      let cacheDir := wrapperCacheDir repo releaseTag
      let bytes ← (CacheOp.read cacheDir selected).call.orFail fun _ =>
        "wrapper-fetch: failed to read cached C# package " ++ display (cacheDir ++ [selected])
      pure (some (selected, bytes))

def storeCachedWrapperAsset (repo releaseTag assetName : String) (bytes : List UInt8) :
    CacheProg Unit := do
  if '/' ∈ assetName.toList ∨ '\\' ∈ assetName.toList then
    throw "wrapper-fetch: asset name contains invalid path separators"
  let cacheDir := wrapperCacheDir repo releaseTag
  (CacheOp.createDirAll cacheDir).call.orFail fun _ =>
    "wrapper-fetch: failed to create cache directory " ++ display cacheDir
  (CacheOp.write cacheDir assetName bytes).call.orFail fun _ =>
    "wrapper-fetch: failed to write cache file " ++ display (cacheDir ++ [assetName])

/-! ## Preparations -/

inductive WrapperLanguage where
  | python | csharp | typescript
  deriving DecidableEq

namespace WrapperLanguage

/-- The name in log lines. -/
def label : WrapperLanguage → String
  | .python => "python"
  | .csharp => "csharp"
  | .typescript => "ts"

def preparedLine : WrapperLanguage → String
  | .python => "wrapper wheel prepared"
  | .csharp | .typescript => "wrapper package prepared"

/-- The name of the asset, of which C# has several. -/
def expectedName : WrapperLanguage → (assetVersion : String) → Option String
  | .python, assetVersion => some ("hackarena3-" ++ assetVersion ++ "-py3-none-any.whl")
  | .csharp, _ => none
  | .typescript, assetVersion => some ("hackarena3-wrapper-ts-" ++ assetVersion ++ ".tgz")

/-- The files and assets that are taken for the package of the version. -/
def accepts (language : WrapperLanguage) (assetVersion name : String) : Bool :=
  match language.expectedName assetVersion with
  | some expectedName => eqIgnoreAsciiCase name expectedName
  | none => isCsharpAssetNameMatch name assetVersion

def load (language : WrapperLanguage) (repo releaseTag assetVersion : String) :
    CacheProg (Option (String × List UInt8)) :=
  match language.expectedName assetVersion with
  | some expectedName => loadCachedWrapperAssetExact repo releaseTag expectedName
  | none => loadCachedCsharpWrapperAsset repo releaseTag assetVersion

end WrapperLanguage

/-- The only one of the assets that are taken for the package. -/
def selectOnly (candidates : List GitHubReleaseAsset) (noneMessage manyMessage : String) :
    Except String GitHubReleaseAsset :=
  match candidates with
  | [] => .error noneMessage
  | [asset] => .ok asset
  | _ => .error (manyMessage ++ String.intercalate ", " (candidates.map (·.name)))

def selectPythonReleaseAsset (assets : List GitHubReleaseAsset) (assetVersion releaseTag : String) :
    Except String GitHubReleaseAsset :=
  match assets.find? fun entry => WrapperLanguage.python.accepts assetVersion entry.name with
  | some asset => .ok asset
  | none => .error ("wrapper-fetch: release `" ++ releaseTag ++ "` does not contain asset `" ++
      "hackarena3-" ++ assetVersion ++ "-py3-none-any.whl`")

def selectCsharpReleaseAsset (assets : List GitHubReleaseAsset) (assetVersion releaseTag : String) :
    Except String GitHubReleaseAsset :=
  selectOnly (assets.filter fun entry => WrapperLanguage.csharp.accepts assetVersion entry.name)
    ("wrapper-fetch: release `" ++ releaseTag ++ "` does not contain a C# package matching `" ++
      "hackarena3-" ++ assetVersion ++ "*.nupkg` or `HackArena3.Wrapper.CSharp." ++ assetVersion ++
      ".nupkg`")
    ("wrapper-fetch: release `" ++ releaseTag ++ "` has multiple matching C# packages: ")

def selectTypescriptReleaseAsset (assets : List GitHubReleaseAsset)
    (assetVersion releaseTag : String) : Except String GitHubReleaseAsset :=
  selectOnly (assets.filter fun entry => WrapperLanguage.typescript.accepts assetVersion entry.name)
    ("wrapper-fetch: release `" ++ releaseTag ++ "` does not contain TypeScript package `" ++
      "hackarena3-wrapper-ts-" ++ assetVersion ++ ".tgz`")
    ("wrapper-fetch: release `" ++ releaseTag ++ "` has multiple matching TypeScript packages: ")

def WrapperLanguage.select : WrapperLanguage → List GitHubReleaseAsset →
    (assetVersion releaseTag : String) → Except String GitHubReleaseAsset
  | .python => selectPythonReleaseAsset
  | .csharp => selectCsharpReleaseAsset
  | .typescript => selectTypescriptReleaseAsset

section Preparing

variable (owner : String) (language : WrapperLanguage) (repo : String)

def wrapperLog (line : String) : CacheProg Unit :=
  emitBuildLogLine ("[wrapper-fetch/" ++ language.label ++ "] " ++ line)

/-- A package that is not in the cache. -/
def downloadWrapper (releaseTag assetVersion : String) : CacheProg (String × List UInt8) := do
  wrapperLog language "resolving release asset"
  let assets ← (CacheOp.fetchRelease repo releaseTag).call.orFail id
  let asset ← ExceptT.mk (pure (language.select assets assetVersion releaseTag))
  wrapperLog language ("downloading `" ++ asset.name ++ "` from " ++ owner ++ "/" ++ repo)
  let downloaded ← (CacheOp.downloadAsset repo asset).call.orFail id
  storeCachedWrapperAsset repo releaseTag asset.name downloaded
  wrapperLog language ("cached `" ++ asset.name ++ "`")
  pure (asset.name, downloaded)

/-- `prepare_python_wrapper_wheel` and its two siblings. -/
def prepareWrapperPackage (wrapperVersion : String) : CacheProg Unit := do
  let (releaseTag, assetVersion) ← ExceptT.mk (pure (normalizeWrapperVersion wrapperVersion))
  let (assetName, packageBytes) ←
    match ← language.load repo releaseTag assetVersion with
    | some (cachedName, cachedBytes) => do
        wrapperLog language ("cache hit `" ++ cachedName ++ "`")
        pure (cachedName, cachedBytes)
    | none => downloadWrapper owner language repo releaseTag assetVersion
  (CacheOp.install assetName packageBytes).call.orFail id
  wrapperLog language language.preparedLine

def preparePythonWrapperWheel (wrapperVersion : String) : CacheProg Unit :=
  prepareWrapperPackage owner .python repo wrapperVersion

def prepareCsharpWrapperPackage (wrapperVersion : String) : CacheProg Unit :=
  prepareWrapperPackage owner .csharp repo wrapperVersion

def prepareTypescriptWrapperPackage (wrapperVersion : String) : CacheProg Unit :=
  prepareWrapperPackage owner .typescript repo wrapperVersion

end Preparing

end HackArena.Official
