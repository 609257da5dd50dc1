import HackArena.Lib.ShellLists
import HackArena.Lib.Utf8Parts
import HackArena.Official.RemoteScripts
import HackArena.Official.SubmissionDockerfiles

/-!
# Projects of C# submissions

The projects in an archive are found by the extension of their files, and
the Dockerfile restores and builds each of them. The path of a project is
quoted for the shell, and the command it is in is a part of the Dockerfile.
-/

namespace HackArena.Official

open UnixPath ShellWords

/-! ## Files -/

/-- A name in a directory. -/
structure FileName where
  bytes : List UInt8
  nul : 0 ∉ bytes
  slash : 47 ∉ bytes
  deriving DecidableEq

mutual

inductive SourceTree where
  | file | special
  | directory (entries : SourceEntries)

/-- The entries of a directory, in the order in which they are read. -/
inductive SourceEntries where
  | nil
  | cons (name : FileName) (tree : SourceTree) (rest : SourceEntries)

end

def SourceTree.isDir : SourceTree → Bool
  | .directory _ => true
  | .file | .special => false

def SourceEntries.find (name : List UInt8) : SourceEntries → Option SourceTree
  | .nil => none
  | .cons other tree rest => if other.bytes = name then some tree else rest.find name

/-- What is at a path. -/
def SourceTree.at (tree : SourceTree) : List (Component Char) → Option SourceTree
  | [] | [.curDir] => some tree
  | .normal segment :: rest =>
      match tree with
      | .directory entries => (entries.find (Utf8.encode segment)).bind fun t => t.at rest
      | .file | .special => none
  | _ => none

def asciiLowercaseByte (b : UInt8) : UInt8 := if 65 ≤ b ∧ b ≤ 90 then b + 32 else b

/-- `Path::extension` of a name. -/
def extension (name : List UInt8) : Option (List UInt8) :=
  (Text.rsplitOnce 46 name).bind fun parts => if parts.1 = [] then none else some parts.2

def isCsproj (name : FileName) : Bool :=
  (extension name.bytes).any fun ext => ext.map asciiLowercaseByte = Utf8.encode "csproj".toList

mutual

/-- The paths of the projects, with what is above. -/
def csprojFilesOf (above : List UInt8) (name : FileName) : SourceTree → List (List UInt8)
  | .file => if isCsproj name then [above ++ name.bytes] else []
  | .special => []
  | .directory entries => csprojFilesIn (above ++ name.bytes ++ [47]) entries

def csprojFilesIn (above : List UInt8) : SourceEntries → List (List UInt8)
  | .nil => []
  | .cons name tree rest => csprojFilesOf above name tree ++ csprojFilesIn above rest

end

def csprojFiles : SourceTree → List (List UInt8)
  | .directory entries => csprojFilesIn [] entries
  | .file | .special => []

/-- How a project is listed. -/
def projectName (path : List UInt8) : String :=
  Text.replaceChar (String.ofList (Utf8.fromUtf8Lossy path)) '\\' "/"

def discoverCsprojRelativePaths (sourceDir : SourceTree) : List String :=
  ((csprojFiles sourceDir).map projectName).insertionSort (· ≤ ·)

/-! ## Configurations -/

structure WrapperRun where
  entrypoint : Option (List String)
  sourceDir : Option String
  deriving DecidableEq

structure WrapperManifest where
  run : Option WrapperRun
  runtimeVersion : Option String
  deriving DecidableEq

structure CsharpRunConfig where
  entrypoint : List String
  sourceDir : String
  runtimeVersion : String
  csprojPaths : List String
  deriving DecidableEq

def normalizeManifestEntrypoint (entrypoint : List String) : Except String (List String) :=
  let trimmedEntrypoint := (entrypoint.map Text.trim).filter (· ≠ "")
  if trimmedEntrypoint = [] then .error "manifest run.entrypoint must not be empty"
  else .ok trimmedEntrypoint

def normalizeDotnetRuntimeVersion (raw : String) : Except String String :=
  let version := Text.trim raw
  if version = "" then .error "manifest runtime.version must not be empty when provided"
  else if version.toList.all fun c => Text.isAsciiAlphanumeric c || c == '.' || c == '-' then
    .ok version
  else .error "manifest runtime.version contains unsupported characters"

/-- A field that is given is checked. -/
def checkGiven {α β : Type} (check : α → Except String β) : Option α → Except String (Option β)
  | none => .ok none
  | some a => (check a).map some

def formatPathSample (paths : List String) (limit : ℕ) : String :=
  if paths = [] then "<empty archive>"
  else String.intercalate ", " (paths.take limit) ++ if limit < paths.length then ", ..." else ""

def noProjects (sourceDirFromManifest : Bool) (sourceDir : String)
    (extractedEntries : List String) : String :=
  let sample := formatPathSample extractedEntries 20
  if sourceDirFromManifest then
    "archive validation failed: no .csproj files found under run.source_dir `" ++ sourceDir ++
      "`. Extracted entries sample: " ++ sample
  else "archive validation failed: no .csproj files found under default run.source_dir `src` or " ++
    "archive root. Extracted entries sample: " ++ sample

/-- The projects below the directory of the sources. Without one in the
manifest those at the root do, too. -/
def findProjects (userDirPath : String) (userDir : SourceTree) (sourceDirFromManifest : Bool)
    (sourceDir : String) : Except String (String × List String) :=
  let missing := "run.source_dir `" ++ sourceDir ++ "` does not exist in archive (expected `" ++
    userDirPath ++ "/" ++ sourceDir ++ "`)"
  match userDir.at (components chars sourceDir.toList) with
  | some sourcePath =>
      if sourcePath.isDir then
        let csprojPaths := discoverCsprojRelativePaths sourcePath
        if csprojPaths = [] ∧ sourceDirFromManifest = false then
          let rootCsprojPaths := discoverCsprojRelativePaths userDir
          if rootCsprojPaths = [] then .ok (sourceDir, csprojPaths) else .ok (".", rootCsprojPaths)
        else .ok (sourceDir, csprojPaths)
      else .error missing
  | none => .error missing

/-- The run of an archive that was extracted to a path. -/
def resolveCsharpRunConfig (userDirPath : String) (userDir : SourceTree)
    (manifest : Option WrapperManifest) (extractedEntries : List String) :
    Except String CsharpRunConfig := do
  let run := manifest.bind (·.run)
  let sourceDirFromManifest ←
    checkGiven normalizeManifestSourceDir (run.bind (·.sourceDir))
  let manifestEntrypoint ← checkGiven normalizeManifestEntrypoint (run.bind (·.entrypoint))
  let runtimeVersion ←
    checkGiven normalizeDotnetRuntimeVersion (manifest.bind (·.runtimeVersion))
  let (sourceDir, csprojPaths) ← findProjects userDirPath userDir sourceDirFromManifest.isSome
    (sourceDirFromManifest.getD "src")
  match csprojPaths with
  | [] => .error (noProjects sourceDirFromManifest.isSome sourceDir extractedEntries)
  | selectedCsproj :: _ =>
      return {
        entrypoint := manifestEntrypoint.getD
          ["dotnet", "run", "--project", "/app/user/" ++ sourceDir ++ "/" ++ selectedCsproj]
        sourceDir := sourceDir
        runtimeVersion := runtimeVersion.getD "8.0"
        csprojPaths := csprojPaths }

/-! ## The Dockerfile -/

def projectPath (sourceDir project : String) : String :=
  "/app/user/" ++ sourceDir ++ "/" ++ project

def restoreCommand (absoluteProjectPath : String) : String :=
  "dotnet restore " ++ shellEscapeSingle absoluteProjectPath ++
    " --source /app/wrappers --source https://api.nuget.org/v3/index.json"

def buildCommand (absoluteProjectPath : String) : String :=
  "dotnet build " ++ shellEscapeSingle absoluteProjectPath ++ " -c Release --no-restore"

def commandChain (command : String → String) (runConfig : CsharpRunConfig) : String :=
  String.intercalate " && \\\n    "
    (runConfig.csprojPaths.map fun project => command (projectPath runConfig.sourceDir project))

def csharpDockerfileLines (packageFileName : String) (runConfig : CsharpRunConfig) :
    List String :=
  ["FROM mcr.microsoft.com/dotnet/sdk:" ++ runConfig.runtimeVersion,
    "WORKDIR /app",
    "COPY wrappers/" ++ packageFileName ++ " /app/wrappers/" ++ packageFileName,
    "COPY user /app/user",
    "RUN " ++ commandChain restoreCommand runConfig,
    "RUN " ++ commandChain buildCommand runConfig,
    "ENTRYPOINT " ++ jsonStrings runConfig.entrypoint]

def buildCsharpDockerfile (packageFileName : String) (runConfig : CsharpRunConfig) :
    Except String String :=
  if runConfig.entrypoint = [] then .error "manifest run.entrypoint must be non-empty"
  else .ok (dockerfileText (csharpDockerfileLines packageFileName runConfig))

/-! ## What a configuration has -/

/-- A character of a directory or of a version. -/
def isPathChar (c : Char) : Bool := isTagChar c || c == '/' || c == '.'

structure Resolved (userDir : SourceTree) (runConfig : CsharpRunConfig) : Prop where
  tree : ∃ tree, userDir.at (components chars runConfig.sourceDir.toList) = some tree ∧
    runConfig.csprojPaths = discoverCsprojRelativePaths tree
  projects : runConfig.csprojPaths ≠ []
  sourceDir : ∀ c ∈ runConfig.sourceDir.toList, isPathChar c = true
  runtimeVersion : ∀ c ∈ runConfig.runtimeVersion.toList, isPathChar c = true

theorem findProjects_ok {userDirPath : String} {userDir : SourceTree} {given : Bool}
    {sourceDir sourceDir' : String} {projects : List String}
    (h : findProjects userDirPath userDir given sourceDir = .ok (sourceDir', projects)) :
    (sourceDir' = sourceDir ∨ sourceDir' = ".") ∧
      ∃ tree, userDir.at (components chars sourceDir'.toList) = some tree ∧
        projects = discoverCsprojRelativePaths tree := by
  unfold findProjects at h
  split at h
  · rename_i sourcePath hsource
    split at h
    · dsimp only at h
      split at h
      · split at h
        · obtain ⟨rfl, rfl⟩ := Prod.mk.inj (Except.ok.inj h)
          exact ⟨Or.inl rfl, sourcePath, hsource, rfl⟩
        · obtain ⟨rfl, rfl⟩ := Prod.mk.inj (Except.ok.inj h)
          exact ⟨Or.inr rfl, userDir, rfl, rfl⟩
      · obtain ⟨rfl, rfl⟩ := Prod.mk.inj (Except.ok.inj h)
        exact ⟨Or.inl rfl, sourcePath, hsource, rfl⟩
    · cases h
  · cases h

theorem isPathChar_of_mem_sourceDir {segments : List (List Char)}
    (h : ∀ segment ∈ segments, IsSegment segment) :
    ∀ c ∈ ['/'].intercalate segments, isPathChar c = true := by
  induction segments with
  | nil => exact nofun
  | cons segment rest ih =>
      obtain ⟨hsegment, hrest⟩ := List.forall_mem_cons.mp h
      have hfirst : ∀ c ∈ segment, isPathChar c = true := fun c hc => by
        simp [isPathChar, hsegment.2 c hc]
      cases rest with
      | nil =>
          rw [List.intercalate_singleton]
          exact hfirst
      | cons next rest =>
          rw [List.intercalate_cons_cons]
          simp only [List.forall_mem_append]
          exact ⟨⟨hfirst, by simp [isPathChar]⟩, ih hrest⟩

theorem checkGiven_ok {α β : Type} {check : α → Except String β} {o : Option α} {o' : Option β}
    (h : checkGiven check o = .ok o') {b : β} (hb : o' = some b) : ∃ a, check a = .ok b := by
  subst hb
  cases o with
  | none => cases h
  | some a =>
      rw [checkGiven] at h
      cases hcheck : check a with
      | error message =>
          rw [hcheck] at h
          cases h
      | ok b' =>
          rw [hcheck] at h
          obtain rfl := Option.some.inj (Except.ok.inj h)
          exact ⟨a, hcheck⟩

theorem normalizeDotnetRuntimeVersion_ok {raw version : String}
    (h : normalizeDotnetRuntimeVersion raw = .ok version) :
    ∀ c ∈ version.toList, isPathChar c = true := by
  dsimp only [normalizeDotnetRuntimeVersion] at h
  split at h
  · cases h
  · split at h
    · rename_i hall
      obtain rfl := Except.ok.inj h
      intro c hc
      have hchar := List.all_eq_true.mp hall c hc
      simp only [Bool.or_eq_true] at hchar
      rcases hchar with (halnum | hdot) | hhyphen
      · simp [isPathChar, isTagChar, halnum]
      · simp [isPathChar, hdot]
      · simp [isPathChar, isTagChar, hhyphen]
    · cases h

theorem resolved_of_ok {userDirPath : String} {userDir : SourceTree}
    {manifest : Option WrapperManifest} {extractedEntries : List String}
    {runConfig : CsharpRunConfig}
    (h : resolveCsharpRunConfig userDirPath userDir manifest extractedEntries = .ok runConfig) :
    Resolved userDir runConfig := by
  unfold resolveCsharpRunConfig at h
  dsimp only at h
  obtain ⟨given, hgiven, h⟩ := Except.bind_eq_ok.mp h
  obtain ⟨entrypoint, -, h⟩ := Except.bind_eq_ok.mp h
  obtain ⟨version, hversion, h⟩ := Except.bind_eq_ok.mp h
  obtain ⟨⟨sourceDir, projects⟩, hfound, h⟩ := Except.bind_eq_ok.mp h
  obtain ⟨hsourceDir, htree⟩ := findProjects_ok hfound
  have hgivenChars : ∀ c ∈ (given.getD "src").toList, isPathChar c = true := by
    cases hvalue : given with
    | none => exact List.all_eq_true.mp (by decide)
    | some value =>
        obtain ⟨raw, hraw⟩ := checkGiven_ok hgiven hvalue
        obtain ⟨segments, -, hsegments, rfl⟩ := normalizeManifestSourceDir_ok hraw
        rw [Option.getD_some, String.toList_ofList]
        exact isPathChar_of_mem_sourceDir hsegments
  have hsourceChars : ∀ c ∈ sourceDir.toList, isPathChar c = true := by
    rcases hsourceDir with rfl | rfl
    · exact hgivenChars
    · exact List.all_eq_true.mp (by decide)
  have hversionChars : ∀ c ∈ (version.getD "8.0").toList, isPathChar c = true := by
    cases hvalue : version with
    | none => exact List.all_eq_true.mp (by decide)
    | some value =>
        obtain ⟨raw, hraw⟩ := checkGiven_ok hversion hvalue
        exact normalizeDotnetRuntimeVersion_ok hraw
  dsimp only at h
  split at h
  · cases h
  · obtain rfl := Except.ok.inj h
    exact ⟨htree, List.cons_ne_nil _ _, hsourceChars, hversionChars⟩

/-! ## Names of projects -/

mutual

theorem nul_notMem_csprojFilesOf {above : List UInt8} (habove : 0 ∉ above) (name : FileName) :
    (tree : SourceTree) → ∀ path ∈ csprojFilesOf above name tree, 0 ∉ path
  | .file => by
      rw [csprojFilesOf]
      split
      · simp [habove, name.nul]
      · exact nofun
  | .special => nofun
  | .directory entries => by
      rw [csprojFilesOf]
      exact nul_notMem_csprojFilesIn (by simp [habove, name.nul]) entries

theorem nul_notMem_csprojFilesIn {above : List UInt8} (habove : 0 ∉ above) :
    (entries : SourceEntries) → ∀ path ∈ csprojFilesIn above entries, 0 ∉ path
  | .nil => nofun
  | .cons name tree rest => by
      rw [csprojFilesIn]
      intro path hpath
      rcases List.mem_append.mp hpath with hpath | hpath
      · exact nul_notMem_csprojFilesOf habove name tree path hpath
      · exact nul_notMem_csprojFilesIn habove rest path hpath

end

theorem nul_notMem_csprojFiles (tree : SourceTree) : ∀ path ∈ csprojFiles tree, 0 ∉ path := by
  cases tree with
  | directory entries => exact nul_notMem_csprojFilesIn List.not_mem_nil entries
  | _ => exact nofun

theorem projectName_toList (path : List UInt8) : (projectName path).toList =
    (Utf8.fromUtf8Lossy path).flatMap fun c => if c = '\\' then ['/'] else [c] := by
  have hlossy : (String.ofList (Utf8.fromUtf8Lossy path)).toList = Utf8.fromUtf8Lossy path :=
    String.toList_ofList
  rw [projectName, Text.replaceChar, hlossy]
  exact String.toList_ofList

theorem mem_projectName {path : List UInt8} {c : Char} (h : c ∈ (projectName path).toList) :
    c = '/' ∨ (c ≠ '\\' ∧ c ∈ Utf8.fromUtf8Lossy path) := by
  rw [projectName_toList] at h
  obtain ⟨d, hd, hc⟩ := List.mem_flatMap.mp h
  split at hc
  · exact Or.inl (List.mem_singleton.mp hc)
  · rename_i hslash
    obtain rfl := List.mem_singleton.mp hc
    exact Or.inr ⟨hslash, hd⟩

theorem slash_notMem_projectName (path : List UInt8) : '\\' ∉ (projectName path).toList :=
  fun h => (mem_projectName h).elim (by decide) fun h => h.1 rfl

theorem byte_mem_of_projectName {path : List UInt8} {c : Char} (hc : c.toNat < 128)
    (hslash : c ≠ '/') (h : c ∈ (projectName path).toList) : UInt8.ofNat c.toNat ∈ path :=
  Utf8.ascii_mem_of_mem_fromUtf8Lossy hc ((mem_projectName h).resolve_left hslash).2

/-- A path that the Dockerfile can have as it is. -/
def IsPlainPath (path : List UInt8) : Prop :=
  ∃ text, path = Utf8.encode text ∧ '\\' ∉ text ∧ '\n' ∉ text

theorem projectName_encode {text : List Char} (h : '\\' ∉ text) :
    projectName (Utf8.encode text) = String.ofList text := by
  rw [← String.toList_inj, projectName_toList, Utf8.fromUtf8Lossy_encode, String.toList_ofList]
  induction text with
  | nil => rfl
  | cons c text ih =>
      obtain ⟨hc, htext⟩ := not_or.mp (List.mem_cons.not.mp h)
      rw [List.flatMap_cons, if_neg (Ne.symm hc), ih htext]
      rfl

/-! ## The instructions -/

/-- The words of a project's command. -/
def projectArgs (verb : String) (options : List String) (path : String) : List String :=
  "dotnet" :: verb :: path :: options

def projectLine (verb : String) (options : List String) (path : String) : Line :=
  ⟨.bare "dotnet", .bare verb :: .quoted path :: options.map .bare, none⟩

def restoreOptions : List String :=
  ["--source", "/app/wrappers", "--source", "https://api.nuget.org/v3/index.json"]

def buildOptions : List String := ["-c", "Release", "--no-restore"]

theorem restoreCommand_toList (path : String) :
    (restoreCommand path).toList = (projectLine "restore" restoreOptions path).chars := by
  unfold restoreCommand
  simp [shellEscapeSingle_eq, projectLine, restoreOptions, Line.chars, Arg.chars]

theorem buildCommand_toList (path : String) :
    (buildCommand path).toList = (projectLine "build" buildOptions path).chars := by
  unfold buildCommand
  simp [shellEscapeSingle_eq, projectLine, buildOptions, Line.chars, Arg.chars]

/-- A command whose other words need no quotes. -/
structure IsProjectCommand (command : String → String) (verb : String) (options : List String) :
    Prop where
  chars : ∀ path, (command path).toList = (projectLine verb options path).chars
  bare : ∀ text ∈ "dotnet" :: verb :: options, (Arg.bare text).Readable

theorem readable_of_all {texts : List String}
    (h : (texts.all fun text => decide (text ≠ "") && text.toList.all isPlain) = true) :
    ∀ text ∈ texts, (Arg.bare text).Readable := by
  intro text htext
  have htext' := List.all_eq_true.mp h text htext
  rw [Bool.and_eq_true, decide_eq_true_iff, List.all_eq_true] at htext'
  exact htext'

theorem isProjectCommand_restore : IsProjectCommand restoreCommand "restore" restoreOptions where
  chars := restoreCommand_toList
  bare := readable_of_all (by decide +kernel)

theorem isProjectCommand_build : IsProjectCommand buildCommand "build" buildOptions where
  chars := buildCommand_toList
  bare := readable_of_all (by decide +kernel)

variable {command : String → String} {verb : String} {options : List String}

theorem mem_projectLine (h : IsProjectCommand command verb options) {path : String} {c : Char}
    (hc : c ∈ (projectLine verb options path).chars) :
    c ∈ path.toList ∨ c ∈ [' ', '\'', '"'] ∨ isPlain c = true := by
  have hbare : ∀ text ∈ "dotnet" :: verb :: options, ∀ d ∈ text.toList, isPlain d = true :=
    fun text htext => (h.bare text htext).2
  simp only [Line.chars, projectLine, Arg.chars, List.flatMap_cons, Option.elim_none,
    List.append_nil, List.mem_append, List.mem_cons, List.mem_flatMap, List.mem_map] at hc
  rcases hc with hc | (rfl | hc) | (rfl | hc) | ⟨_, ⟨text, htext, rfl⟩, rfl | hc⟩
  · exact Or.inr (Or.inr (hbare _ (by simp) c hc))
  · exact Or.inr (Or.inl (by simp))
  · exact Or.inr (Or.inr (hbare _ (by simp) c hc))
  · exact Or.inr (Or.inl (by simp))
  · rw [quoted, List.mem_append, List.mem_cons, List.mem_flatMap, List.mem_singleton] at hc
    rcases hc with (rfl | ⟨d, hd, hc⟩) | rfl
    · exact Or.inr (Or.inl (by simp))
    · split at hc
      · have hsubset : ("'\"'\"'".toList.all fun x => [' ', '\'', '"'].contains x) = true := by
          decide
        refine Or.inr (Or.inl ?_)
        simpa using List.all_eq_true.mp hsubset c hc
      · rw [List.mem_singleton.mp hc]
        exact Or.inl hd
    · exact Or.inr (Or.inl (by simp))
  · exact Or.inr (Or.inl (by simp))
  · exact Or.inr (Or.inr (hbare _ (by simp [htext]) c hc))

theorem isUnbroken_projectLine (h : IsProjectCommand command verb options) {path : String}
    (hpath : Dockerfile.IsUnbroken path.toList) :
    Dockerfile.IsUnbroken (projectLine verb options path).chars := by
  constructor
  · intro hc
    rcases mem_projectLine h hc with hc | hc | hc
    · exact hpath.1 hc
    · exact absurd hc (by decide)
    · exact absurd hc (by decide)
  · intro hc
    rcases mem_projectLine h hc with hc | hc | hc
    · exact hpath.2 hc
    · exact absurd hc (by decide)
    · exact absurd hc (by decide)

/-- The instruction that runs a command for each project. -/
def runLine (verb : String) (options : List String) (paths : List String) : List Char :=
  "RUN ".toList ++ andChars (paths.map (projectLine verb options))

def commandsOfRun (line : List Char) : Option (List (List String)) :=
  (line.dropPrefix? "RUN ".toList).bind andCommands

theorem commandsOfRun_runLine (h : IsProjectCommand command verb options) {paths : List String}
    (hne : paths ≠ []) (hpaths : ∀ path ∈ paths, '\x00' ∉ path.toList) :
    commandsOfRun (runLine verb options paths) = some (paths.map (projectArgs verb options)) := by
  have hdrop : (runLine verb options paths).dropPrefix? "RUN ".toList =
      some (andChars (paths.map (projectLine verb options))) :=
    Text.dropPrefix_eq_some_iff.mpr rfl
  rw [commandsOfRun, hdrop, Option.bind_some, andCommands_andChars]
  · rw [List.map_map]
    congr 1
    refine List.map_congr_left fun path _ => ?_
    simp [projectLine, projectArgs, Line.command, Arg.value, Function.comp_def]
  · simpa using hne
  · intro l hl
    obtain ⟨path, hpath, rfl⟩ := List.mem_map.mp hl
    refine ⟨h.bare _ (by simp), ?_, fun _ hstdout => by cases hstdout⟩
    intro a ha
    simp only [projectLine, List.mem_cons, List.mem_map] at ha
    rcases ha with rfl | rfl | ⟨text, htext, rfl⟩
    · exact h.bare _ (by simp)
    · exact hpaths path hpath
    · exact h.bare _ (by simp [htext])
  · intro l hl
    obtain ⟨path, -, rfl⟩ := List.mem_map.mp hl
    rfl
  · intro l hl
    obtain ⟨path, -, rfl⟩ := List.mem_map.mp hl
    change (!reservedWords.contains "dotnet") = true
    decide

theorem readsAs_commandChain (h : IsProjectCommand command verb options)
    {runConfig : CsharpRunConfig} (hpaths : ∀ project ∈ runConfig.csprojPaths,
      Dockerfile.IsUnbroken (projectPath runConfig.sourceDir project).toList) :
    Dockerfile.ReadsAs ("RUN " ++ commandChain command runConfig).toList
      (runLine verb options
        (runConfig.csprojPaths.map (projectPath runConfig.sourceDir))) := by
  have hcommands : (runConfig.csprojPaths.map fun project =>
      command (projectPath runConfig.sourceDir project)).map String.toList =
      ((runConfig.csprojPaths.map (projectPath runConfig.sourceDir)).map
        (projectLine verb options)).map Line.chars := by
    simp only [List.map_map]
    exact List.map_congr_left fun project _ => h.chars _
  have hparts : ∀ p ∈ ((runConfig.csprojPaths.map (projectPath runConfig.sourceDir)).map
      (projectLine verb options)).map Line.chars, Dockerfile.IsUnbroken p := by
    intro p hp
    simp only [List.map_map, List.mem_map, Function.comp_apply] at hp
    obtain ⟨project, hproject, rfl⟩ := hp
    exact isUnbroken_projectLine h (hpaths project hproject)
  have hsep : " && \\\n    ".toList =
      [' ', '&', '&', ' '] ++ '\\' :: '\n' :: [' ', ' ', ' ', ' '] := by decide
  rw [String.toList_append, commandChain, String.toList_intercalate, hcommands, hsep, runLine,
    andChars_eq_intercalate]
  apply Dockerfile.readsAs_continued
  · constructor <;> decide
  · constructor <;> decide
  · constructor <;> decide
  · exact hparts

theorem newline_notMem_jsonChar (c : Char) : '\n' ∉ jsonChar c := by
  have hdigit : ∀ n < 16, '\n' ≠ hexDigit n := by decide
  unfold jsonChar
  split_ifs with h1 h2 h3 h4 h5 h6 h7 h8
  · decide
  · decide
  · decide
  · decide
  · decide
  · decide
  · decide
  · have hhigh := hdigit (c.toNat / 16) (by omega)
    have hlow := hdigit (c.toNat % 16) (by omega)
    simp [hhigh, hlow]
  · simpa using Ne.symm h3

theorem newline_notMem_jsonStrings (values : List String) :
    '\n' ∉ (jsonStrings values).toList := by
  have hstring : ∀ s : String, '\n' ∉ jsonString s := by
    intro s hs
    simp only [jsonString, List.mem_append, List.mem_cons, List.mem_flatMap] at hs
    rcases hs with (hs | ⟨c, -, hc⟩) | hs
    · exact absurd hs (by decide)
    · exact newline_notMem_jsonChar c hc
    · exact absurd hs (by decide)
  have hjoined : '\n' ∉ [','].intercalate (values.map jsonString) := by
    induction values with
    | nil => exact List.not_mem_nil
    | cons s values ih =>
        cases values with
        | nil => simpa using hstring s
        | cons t values =>
            rw [List.map_cons, List.map_cons, List.intercalate_cons_cons, List.mem_append,
              List.mem_append, not_or, not_or]
            exact ⟨⟨hstring s, by decide⟩, ih⟩
  rw [jsonStrings, String.toList_ofList]
  simp only [List.mem_append, List.mem_cons, not_or]
  exact ⟨⟨by decide, hjoined⟩, by decide⟩

theorem getLast_jsonStrings (values : List String) :
    (jsonStrings values).toList.getLast? = some ']' := by
  rw [jsonStrings, String.toList_ofList, List.getLast?_concat]

/-! ## Reading the Dockerfile -/

/-- The instruction runs the command once for each path. -/
def RunsEach (line : Option (List Char)) (verb : String) (options : List String)
    (paths : List (List UInt8)) : Prop :=
  ∃ words : List String, (words.map fun word => Utf8.encode word.toList).Perm paths ∧
    line.bind commandsOfRun = some (words.map (projectArgs verb options))

def csharpKeywords : List String := ["FROM", "WORKDIR", "COPY", "COPY", "RUN", "RUN", "ENTRYPOINT"]

/-- The text has the seven instructions, and each path is restored and built
as it is. -/
structure ReadsAsBuild (text : String) (paths : List (List UInt8)) : Prop where
  keywords : (Dockerfile.logicalLines text.toList).map Dockerfile.keyword =
    csharpKeywords.map fun keyword => some keyword.toList
  restores : RunsEach (Dockerfile.logicalLines text.toList)[4]? "restore" restoreOptions paths
  builds : RunsEach (Dockerfile.logicalLines text.toList)[5]? "build" buildOptions paths

/-- The projects below a directory of the archive. -/
def projectFiles (userDir : SourceTree) (sourceDir : String) : List (List UInt8) :=
  ((userDir.at (components chars sourceDir.toList)).map csprojFiles).getD []

/-- Where a file is in the image. -/
def absolutePath (sourceDir : String) (path : List UInt8) : List UInt8 :=
  Utf8.encode ("/app/user/" ++ sourceDir ++ "/").toList ++ path

theorem dockerfileText_toList (lines : List String) :
    (dockerfileText lines).toList = (lines.map String.toList).flatMap (· ++ ['\n']) := by
  rw [dockerfileText, String.toList_join, List.flatMap_map, List.flatMap_map]
  refine List.flatMap_congr fun line _ => ?_
  rw [String.toList_append]
  rfl

theorem isUnbroken_of_pathChars {text : List Char} (h : ∀ c ∈ text, isPathChar c = true) :
    Dockerfile.IsUnbroken text :=
  ⟨fun hc => absurd (h _ hc) (by decide), fun hc => absurd (h _ hc) (by decide)⟩

theorem logicalLines_csharpDockerfile {packageFileName : String} {runConfig : CsharpRunConfig}
    (hname : Dockerfile.IsUnbroken packageFileName.toList)
    (hversion : ∀ c ∈ runConfig.runtimeVersion.toList, isPathChar c = true)
    (hpaths : ∀ project ∈ runConfig.csprojPaths,
      Dockerfile.IsUnbroken (projectPath runConfig.sourceDir project).toList) :
    Dockerfile.logicalLines
        (dockerfileText (csharpDockerfileLines packageFileName runConfig)).toList =
      [("FROM mcr.microsoft.com/dotnet/sdk:" ++ runConfig.runtimeVersion).toList,
        "WORKDIR /app".toList,
        ("COPY wrappers/" ++ packageFileName ++ " /app/wrappers/" ++ packageFileName).toList,
        "COPY user /app/user".toList,
        runLine "restore" restoreOptions
          (runConfig.csprojPaths.map (projectPath runConfig.sourceDir)),
        runLine "build" buildOptions
          (runConfig.csprojPaths.map (projectPath runConfig.sourceDir)),
        ("ENTRYPOINT " ++ jsonStrings runConfig.entrypoint).toList] := by
  rw [dockerfileText_toList]
  apply Dockerfile.logicalLines_of_forall₂
  refine .cons ?_ (.cons ?_ (.cons ?_ (.cons ?_ (.cons (readsAs_commandChain
    isProjectCommand_restore hpaths) (.cons (readsAs_commandChain isProjectCommand_build hpaths)
      (.cons ?_ .nil))))))
  · rw [String.toList_append]
    apply Dockerfile.readsAs_unbroken
    · have hfrom : Dockerfile.IsUnbroken "FROM mcr.microsoft.com/dotnet/sdk:".toList := by
        constructor <;> decide
      exact Dockerfile.isUnbroken_append.mpr ⟨hfrom, isUnbroken_of_pathChars hversion⟩
    · simp
  · apply Dockerfile.readsAs_unbroken
    · constructor <;> decide
    · decide
  · have hfirst : Dockerfile.IsUnbroken "COPY wrappers/".toList := by constructor <;> decide
    have hsecond : Dockerfile.IsUnbroken " /app/wrappers/".toList := by constructor <;> decide
    rw [String.toList_append, String.toList_append, String.toList_append]
    apply Dockerfile.readsAs_unbroken
    · rw [Dockerfile.isUnbroken_append, Dockerfile.isUnbroken_append,
        Dockerfile.isUnbroken_append]
      exact ⟨⟨⟨hfirst, hname⟩, hsecond⟩, hname⟩
    · simp
  · apply Dockerfile.readsAs_unbroken
    · constructor <;> decide
    · decide
  · rw [String.toList_append]
    apply Dockerfile.readsAs_self
    · rw [List.mem_append, not_or]
      exact ⟨by decide, newline_notMem_jsonStrings _⟩
    · simp
    · rw [List.getLast?_append, getLast_jsonStrings]
      decide

/-! ## Which projects are read as they are -/

theorem projectPath_toList (sourceDir project : String) :
    (projectPath sourceDir project).toList =
      ("/app/user/" ++ sourceDir ++ "/").toList ++ project.toList := by
  rw [projectPath, String.toList_append]

theorem isUnbroken_above {sourceDir : String}
    (h : ∀ c ∈ sourceDir.toList, isPathChar c = true) :
    ∀ c ∈ ("/app/user/" ++ sourceDir ++ "/").toList, isPathChar c = true := by
  have hfirst : ("/app/user/".toList.all isPathChar) = true := by decide
  have hlast : ("/".toList.all isPathChar) = true := by decide
  rw [String.toList_append, String.toList_append]
  simp only [List.forall_mem_append]
  exact ⟨⟨List.all_eq_true.mp hfirst, h⟩, List.all_eq_true.mp hlast⟩

theorem Resolved.csprojPaths_perm {userDir : SourceTree} {runConfig : CsharpRunConfig}
    (h : Resolved userDir runConfig) :
    runConfig.csprojPaths.Perm ((projectFiles userDir runConfig.sourceDir).map projectName) := by
  obtain ⟨tree, hat, hprojects⟩ := h.tree
  rw [hprojects, projectFiles, hat]
  exact List.perm_insertionSort _ _

theorem Resolved.nul_notMem {userDir : SourceTree} {runConfig : CsharpRunConfig}
    (h : Resolved userDir runConfig) :
    ∀ path ∈ projectFiles userDir runConfig.sourceDir, 0 ∉ path := by
  obtain ⟨tree, hat, -⟩ := h.tree
  rw [projectFiles, hat]
  exact nul_notMem_csprojFiles tree

/-- If no path has a newline, the instructions are these, and each command
gets the listed names of the projects. -/
theorem Resolved.runsEach {userDir : SourceTree} {runConfig : CsharpRunConfig}
    (h : Resolved userDir runConfig) (hcommand : IsProjectCommand command verb options) :
    commandsOfRun (runLine verb options
        (runConfig.csprojPaths.map (projectPath runConfig.sourceDir))) =
      some ((runConfig.csprojPaths.map (projectPath runConfig.sourceDir)).map
        (projectArgs verb options)) := by
  apply commandsOfRun_runLine hcommand
  · simpa using h.projects
  · intro path hpath hnul
    obtain ⟨project, hproject, rfl⟩ := List.mem_map.mp hpath
    obtain ⟨file, hfile, rfl⟩ := List.mem_map.mp (h.csprojPaths_perm.mem_iff.mp hproject)
    rw [projectPath_toList] at hnul
    rcases List.mem_append.mp hnul with hnul | hnul
    · exact absurd (isUnbroken_above h.sourceDir _ hnul) (by decide)
    · exact h.nul_notMem file hfile (byte_mem_of_projectName (by decide) (by decide) hnul)

theorem Resolved.isUnbroken {userDir : SourceTree} {runConfig : CsharpRunConfig}
    (h : Resolved userDir runConfig)
    (hfiles : ∀ path ∈ projectFiles userDir runConfig.sourceDir, 10 ∉ path) :
    ∀ project ∈ runConfig.csprojPaths,
      Dockerfile.IsUnbroken (projectPath runConfig.sourceDir project).toList := by
  intro project hproject
  obtain ⟨file, hfile, rfl⟩ := List.mem_map.mp (h.csprojPaths_perm.mem_iff.mp hproject)
  rw [projectPath_toList, Dockerfile.isUnbroken_append]
  refine ⟨isUnbroken_of_pathChars (isUnbroken_above h.sourceDir), fun hc => ?_,
    slash_notMem_projectName file⟩
  exact hfiles file hfile (byte_mem_of_projectName (by decide) (by decide) hc)

/-- The word of a path that is read somewhere on a line has no newline. -/
theorem newline_notMem_of_runsEach {line : List Char} (hline : '\n' ∉ line)
    {paths : List (List UInt8)} (h : RunsEach (some line) verb options paths) :
    ∀ path ∈ paths, 10 ∉ path := by
  obtain ⟨words, hperm, hruns⟩ := h
  rw [Option.bind_some, commandsOfRun] at hruns
  obtain ⟨rest, hrest, hcommands⟩ := Option.bind_eq_some_iff.mp hruns
  have hline' : '\n' ∉ rest := by
    rw [Text.dropPrefix_eq_some_iff.mp hrest] at hline
    exact fun hc => hline (List.mem_append_right _ hc)
  intro path hpath hten
  obtain ⟨word, hword, rfl⟩ := List.mem_map.mp (hperm.mem_iff.mpr hpath)
  have hnewline : '\n' ∈ word.toList := by
    by_contra hnot
    have hbyte : UInt8.ofNat 10 ∉ Utf8.encode word.toList :=
      Utf8.ascii_notMem_encode (by decide) fun c hc heq => by
        have hc10 : c = '\n' := Char.ext (UInt32.toNat_inj.mp heq)
        exact hnot (hc10 ▸ hc)
    exact hbyte hten
  refine hline' (mem_of_andCommands hcommands (List.mem_map_of_mem hword) ?_ hnewline (by decide))
  simp [projectArgs]

/-- The listed names are the projects' own only if these are texts without
back-slashes. -/
theorem Resolved.isPlainPath_of_perm {userDir : SourceTree} {runConfig : CsharpRunConfig}
    (h : Resolved userDir runConfig)
    (hfiles : ∀ path ∈ projectFiles userDir runConfig.sourceDir, 10 ∉ path)
    (hperm : ((runConfig.csprojPaths.map (projectPath runConfig.sourceDir)).map fun word =>
      Utf8.encode word.toList).Perm
        ((projectFiles userDir runConfig.sourceDir).map (absolutePath runConfig.sourceDir))) :
    ∀ path ∈ projectFiles userDir runConfig.sourceDir, IsPlainPath path := by
  intro path hpath
  have hmem := hperm.mem_iff.mpr (List.mem_map_of_mem hpath)
  simp only [List.map_map, List.mem_map, Function.comp_apply] at hmem
  obtain ⟨project, hproject, heq⟩ := hmem
  obtain ⟨file, hfile, rfl⟩ := List.mem_map.mp (h.csprojPaths_perm.mem_iff.mp hproject)
  rw [projectPath_toList, Utf8.encode_append, absolutePath] at heq
  have hsame : path = Utf8.encode (projectName file).toList := (List.append_cancel_left heq).symm
  refine ⟨_, hsame, slash_notMem_projectName file, fun hc => ?_⟩
  exact hfiles file hfile (byte_mem_of_projectName (by decide) (by decide) hc)

theorem Resolved.perm_of_isPlainPath {userDir : SourceTree} {runConfig : CsharpRunConfig}
    (h : Resolved userDir runConfig)
    (hfiles : ∀ path ∈ projectFiles userDir runConfig.sourceDir, IsPlainPath path) :
    ((runConfig.csprojPaths.map (projectPath runConfig.sourceDir)).map fun word =>
      Utf8.encode word.toList).Perm
        ((projectFiles userDir runConfig.sourceDir).map (absolutePath runConfig.sourceDir)) := by
  have hperm := (h.csprojPaths_perm.map (projectPath runConfig.sourceDir)).map
    fun word => Utf8.encode word.toList
  have hsame : (((projectFiles userDir runConfig.sourceDir).map projectName).map
      (projectPath runConfig.sourceDir)).map (fun word => Utf8.encode word.toList) =
      (projectFiles userDir runConfig.sourceDir).map (absolutePath runConfig.sourceDir) := by
    simp only [List.map_map]
    refine List.map_congr_left fun path hpath => ?_
    obtain ⟨text, rfl, hslash, -⟩ := hfiles path hpath
    rw [Function.comp_apply, Function.comp_apply, projectPath_toList, projectName_encode hslash,
      String.toList_ofList, Utf8.encode_append, absolutePath]
  exact hsame ▸ hperm

theorem newline_notMem_of_isPlainPath {path : List UInt8} (h : IsPlainPath path) : 10 ∉ path := by
  obtain ⟨text, rfl, -, hnewline⟩ := h
  refine Utf8.ascii_notMem_encode (n := 10) (by decide) fun c hc heq => ?_
  have hc10 : c = '\n' := Char.ext (UInt32.toNat_inj.mp heq)
  exact hnewline (hc10 ▸ hc)

/-- The Dockerfile is what it is meant to be exactly when the path of every
project is a text without back-slashes and newlines. The name of the package
comes with the release. -/
theorem csharp_dockerfile_reads_iff (userDirPath : String) (userDir : SourceTree)
    (manifest : Option WrapperManifest) (extractedEntries : List String)
    (packageFileName text : String) (runConfig : CsharpRunConfig)
    (hname : Dockerfile.IsUnbroken packageFileName.toList)
    (hconfig : resolveCsharpRunConfig userDirPath userDir manifest extractedEntries =
      .ok runConfig)
    (htext : buildCsharpDockerfile packageFileName runConfig = .ok text) :
    ReadsAsBuild text
        ((projectFiles userDir runConfig.sourceDir).map (absolutePath runConfig.sourceDir)) ↔
      ∀ path ∈ projectFiles userDir runConfig.sourceDir, IsPlainPath path := by
  have hresolved := resolved_of_ok hconfig
  have htext' : text = dockerfileText (csharpDockerfileLines packageFileName runConfig) := by
    unfold buildCsharpDockerfile at htext
    split at htext
    · cases htext
    · exact (Except.ok.inj htext).symm
  subst htext'
  have hlines := fun hfiles => logicalLines_csharpDockerfile hname hresolved.runtimeVersion
    (hresolved.isUnbroken hfiles)
  constructor
  · intro hreads
    have hfiles : ∀ path ∈ projectFiles userDir runConfig.sourceDir, 10 ∉ path := by
      intro path hpath hten
      have hruns := hreads.restores
      cases hline : (Dockerfile.logicalLines (dockerfileText
          (csharpDockerfileLines packageFileName runConfig)).toList)[4]? with
      | none =>
          rw [hline] at hruns
          obtain ⟨words, -, hnone⟩ := hruns
          cases hnone
      | some line =>
          rw [hline] at hruns
          have hfree : '\n' ∉ line := Dockerfile.newline_notMem_readLines List.not_mem_nil line
            (List.mem_of_getElem? hline)
          exact newline_notMem_of_runsEach hfree hruns _ (List.mem_map_of_mem hpath)
            (List.mem_append_right _ hten)
    apply hresolved.isPlainPath_of_perm hfiles
    obtain ⟨words, hperm, hruns⟩ := hreads.restores
    have hline : (Dockerfile.logicalLines (dockerfileText
        (csharpDockerfileLines packageFileName runConfig)).toList)[4]? =
        some (runLine "restore" restoreOptions
          (runConfig.csprojPaths.map (projectPath runConfig.sourceDir))) := by
      rw [hlines hfiles]
      rfl
    rw [hline, Option.bind_some, hresolved.runsEach isProjectCommand_restore] at hruns
    have hinjective : Function.Injective (projectArgs "restore" restoreOptions) := by
      intro a b hab
      simpa [projectArgs] using hab
    rw [List.map_injective_iff.mpr hinjective (Option.some.inj hruns)]
    exact hperm
  · intro hplain
    have hfiles : ∀ path ∈ projectFiles userDir runConfig.sourceDir, 10 ∉ path :=
      fun path hpath => newline_notMem_of_isPlainPath (hplain path hpath)
    have hperm := hresolved.perm_of_isPlainPath hplain
    refine ⟨?_, ⟨_, hperm, ?_⟩, ⟨_, hperm, ?_⟩⟩
    · rw [hlines hfiles, String.toList_append, String.toList_append, String.toList_append,
        String.toList_append, String.toList_append]
      rfl
    · rw [hlines hfiles]
      exact hresolved.runsEach isProjectCommand_restore
    · rw [hlines hfiles]
      exact hresolved.runsEach isProjectCommand_build

/-! ## Two archives -/

def srcName : FileName := ⟨Utf8.encode "src".toList, by decide +kernel, by decide +kernel⟩

def projectEntries : List FileName → SourceEntries
  | [] => .nil
  | name :: rest => .cons name .file (projectEntries rest)

/-- An archive with these projects. -/
def projectArchive (names : List FileName) : SourceTree :=
  .directory (.cons srcName (.directory (projectEntries names)) .nil)

def projectConfig (selected : String) (others : List String) : CsharpRunConfig where
  entrypoint := ["dotnet", "run", "--project", "/app/user/src/" ++ selected]
  sourceDir := "src"
  runtimeVersion := "8.0"
  csprojPaths := selected :: others

def quoteName : FileName := ⟨Utf8.encode "it's.csproj".toList, by decide +kernel, by decide +kernel⟩

def blankName : FileName := ⟨Utf8.encode "My Bot.csproj".toList, by decide +kernel, by decide +kernel⟩

/-- A name with a quote and one with a blank, which are listed the other way around. -/
theorem csharp_dockerfile_reads_iff_quoted :
    ReadsAsBuild
      (dockerfileText (csharpDockerfileLines "hackarena3.nupkg"
        (projectConfig "My Bot.csproj" ["it's.csproj"])))
      ((projectFiles (projectArchive [quoteName, blankName]) "src").map (absolutePath "src")) :=
  (csharp_dockerfile_reads_iff "/ctx/user" (projectArchive [quoteName, blankName]) none []
    "hackarena3.nupkg" _ (projectConfig "My Bot.csproj" ["it's.csproj"])
    (by constructor <;> decide) (by decide +kernel) rfl).mpr (by
      have hfiles : projectFiles (projectArchive [quoteName, blankName]) "src" =
          [Utf8.encode "it's.csproj".toList, Utf8.encode "My Bot.csproj".toList] := by
        decide +kernel
      change ∀ path ∈ projectFiles (projectArchive [quoteName, blankName]) "src", IsPlainPath path
      rw [hfiles]
      intro path hpath
      rcases List.mem_pair.mp hpath with hpath | hpath
      · exact ⟨_, hpath, by decide, by decide⟩
      · exact ⟨_, hpath, by decide, by decide⟩)

def userRoot : String := "a\nUSER root\nb.csproj"

def userRootName : FileName := ⟨Utf8.encode userRoot.toList, by decide +kernel, by decide +kernel⟩

/-- The archive is accepted, and so is the configuration; the name of the
project puts an instruction of its own into the Dockerfile. -/
theorem userRoot_not_reads :
    ((extractArchiveSecure (Utf8.encode "/ctx/user".toList)
        [.ok ⟨.regular, Utf8.encode "src/a\nUSER root\nb.csproj".toList⟩]).run.run archiveExec
      (fun _ => ⟨fun _ => true, some (some []), none⟩)
      (contextTree (Utf8.encode "/ctx/user".toList))).2 = .ok ["src/a\nUSER root\nb.csproj"] ∧
    resolveCsharpRunConfig "/ctx/user" (projectArchive [userRootName]) none [] =
      .ok (projectConfig userRoot []) ∧
    "USER root".toList ∈ Dockerfile.logicalLines (dockerfileText
      (csharpDockerfileLines "hackarena3.nupkg" (projectConfig userRoot []))).toList ∧
    ¬ ReadsAsBuild
      (dockerfileText (csharpDockerfileLines "hackarena3.nupkg" (projectConfig userRoot [])))
      ((projectFiles (projectArchive [userRootName]) "src").map (absolutePath "src")) := by
  have hlines : (Dockerfile.logicalLines (dockerfileText
      (csharpDockerfileLines "hackarena3.nupkg" (projectConfig userRoot []))).toList)[5]? =
      some "USER root".toList := by
    rw [dockerfileText_toList]
    decide +kernel
  refine ⟨by decide +kernel, by decide +kernel, List.mem_of_getElem? hlines, fun h => ?_⟩
  -- the instruction stands where the projects are built
  have hkeyword := congrArg (·[5]?) h.keywords
  rw [List.getElem?_map, hlines] at hkeyword
  revert hkeyword
  decide

end HackArena.Official
