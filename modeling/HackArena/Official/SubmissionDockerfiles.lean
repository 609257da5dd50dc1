import HackArena.Lib.Dockerfile
import HackArena.Official.SubmissionArchives
import HackArena.Official.SubmissionManifests

/-!
# Dockerfiles of submissions

The context of a build is the unpacked archive with a Dockerfile that is
written for it. What the team has chosen goes into the Dockerfile: the
directory of the sources, the projects and the command that starts the bot.
-/

namespace HackArena.Official

open UnixPath

/-! ## JSON -/

def hexDigit (n : ℕ) : Char := (Nat.toDigits 16 n).headD '0'

/-- How `serde_json` writes a character of a string. -/
def jsonChar (c : Char) : List Char :=
  if c = '"' then ['\\', '"']
  else if c = '\\' then ['\\', '\\']
  else if c = '\n' then ['\\', 'n']
  else if c = '\r' then ['\\', 'r']
  else if c = '\t' then ['\\', 't']
  else if c.toNat = 8 then ['\\', 'b']
  else if c.toNat = 12 then ['\\', 'f']
  else if c.toNat < 32 then ['\\', 'u', '0', '0', hexDigit (c.toNat / 16), hexDigit (c.toNat % 16)]
  else [c]

def jsonString (s : String) : List Char := '"' :: s.toList.flatMap jsonChar ++ ['"']

def jsonStrings (values : List String) : String :=
  String.ofList ('[' :: [','].intercalate (values.map jsonString) ++ [']'])

/-! ## Python -/

structure PythonRunConfig where
  entrypoint : List String
  sourceDir : String
  deriving DecidableEq, Repr

def copyUserLine (sourceDir : String) : String := "COPY user/" ++ sourceDir ++ " /app/src"

def pythonDockerfileLines (wheelFileName sourceDir cmdJson : String) : List String :=
  ["FROM python:3.10-slim",
    "WORKDIR /app",
    "RUN apt-get update && apt-get install -y --no-install-recommends \\",
    "    libfreetype6 \\",
    "    libpng16-16 \\",
    "    libgomp1 \\",
    "    libglib2.0-0 \\",
    "    libgl1 \\",
    "    libxrender1 \\",
    "    libxext6 \\",
    "    libsm6 \\",
    "    fonts-dejavu-core \\",
    "    && rm -rf /var/lib/apt/lists/*",
    "ENV PYTHONUNBUFFERED=1 PYTHONPATH=/app/src MPLBACKEND=Agg",
    "COPY wheels/" ++ wheelFileName ++ " /app/wheels/" ++ wheelFileName,
    "COPY user/requirements.txt /app/requirements.txt",
    "RUN pip install --no-cache-dir /app/wheels/" ++ wheelFileName,
    "RUN pip install --no-cache-dir -r /app/requirements.txt",
    copyUserLine sourceDir,
    "ENTRYPOINT " ++ cmdJson]

def dockerfileText (lines : List String) : String := String.join (lines.map (· ++ "\n"))

def buildPythonDockerfile (wheelFileName : String) (runConfig : PythonRunConfig) :
    Except String String :=
  if runConfig.entrypoint = [] then .error "manifest run.entrypoint must be non-empty"
  else .ok (dockerfileText (pythonDockerfileLines wheelFileName runConfig.sourceDir
    (jsonStrings runConfig.entrypoint)))

/-! ## The instruction that copies the sources -/

def IsPlainChar (c : Char) : Prop :=
  Dockerfile.isBlank c = false ∧ Dockerfile.isSpecial c = false

theorem isPlainChar_of_isTagChar {c : Char} (h : isTagChar c = true) : IsPlainChar c := by
  have hothers : (" \t$\\\"'[]*?".toList.all fun d => !isTagChar d) = true := by decide
  have hne : c ∉ " \t$\\\"'[]*?".toList := fun hc => by
    have hnot := List.all_eq_true.mp hothers c hc
    rw [h] at hnot
    cases hnot
  constructor
  · simp only [Dockerfile.isBlank, Bool.or_eq_false_iff, beq_eq_false_iff_ne]
    exact ⟨fun heq => hne (by simp [heq]), fun heq => hne (by simp [heq])⟩
  · rw [Dockerfile.isSpecial, List.contains_eq_mem, decide_eq_false_iff_not]
    exact fun hc => hne (List.mem_cons_of_mem _ (List.mem_cons_of_mem _ hc))

theorem isPlainChar_of_mem_sourceDir {segments : List (List Char)}
    (h : ∀ segment ∈ segments, IsSegment segment) :
    ∀ c ∈ ['/'].intercalate segments, IsPlainChar c := by
  induction segments with
  | nil => exact nofun
  | cons segment rest ih =>
      obtain ⟨hsegment, hrest⟩ := List.forall_mem_cons.mp h
      have hfirst : ∀ c ∈ segment, IsPlainChar c := fun c hc =>
        isPlainChar_of_isTagChar (hsegment.2 c hc)
      cases rest with
      | nil =>
          rw [List.intercalate_singleton]
          exact hfirst
      | cons next rest =>
          rw [List.intercalate_cons_cons]
          intro c hc
          rcases List.mem_append.mp hc with hc | hc
          · rcases List.mem_append.mp hc with hc | hc
            · exact hfirst c hc
            · rw [List.mem_singleton.mp hc]
              constructor <;> decide
          · exact ih hrest c hc

/-- There is one source, the directory itself. -/
theorem copySources_copyUserLine {sourceDir : List Char} (h : ∀ c ∈ sourceDir, IsPlainChar c) :
    Dockerfile.copySources (copyUserLine (String.ofList sourceDir)).toList =
      some ["user/".toList ++ sourceDir] := by
  have hwords : Dockerfile.words (copyUserLine (String.ofList sourceDir)).toList =
      ["COPY".toList, "user/".toList ++ sourceDir, "/app/src".toList] := by
    have hdir : (String.ofList sourceDir).toList = sourceDir := String.toList_ofList
    have hfirst : "COPY user/".toList = "COPY".toList ++ ' ' :: "user/".toList := by decide
    have hlast : " /app/src".toList = ' ' :: "/app/src".toList := by decide
    have hline : (copyUserLine (String.ofList sourceDir)).toList =
        "COPY".toList ++ ' ' :: (("user/".toList ++ sourceDir) ++ ' ' :: "/app/src".toList) := by
      rw [copyUserLine, String.toList_append, String.toList_append, hdir, hfirst, hlast]
      simp only [List.append_assoc, List.cons_append]
    have hsource : ∀ c ∈ "user/".toList ++ sourceDir, Dockerfile.isBlank c = false := by
      have huser : ("user/".toList.all fun c => !Dockerfile.isBlank c) = true := by decide
      intro c hc
      rcases List.mem_append.mp hc with hc | hc
      · simpa using List.all_eq_true.mp huser c hc
      · exact (h c hc).1
    rw [hline, Dockerfile.words, Dockerfile.readWords_word (by simp [Dockerfile.isBlank]) (by simp),
      Dockerfile.readWords_word hsource (by simp),
      Dockerfile.readWords_last (by simp [Dockerfile.isBlank]) (by simp)]
  have hplain : ("user/".toList ++ sourceDir).all (fun c => !Dockerfile.isSpecial c) = true := by
    rw [List.all_append, Bool.and_eq_true]
    refine ⟨by decide, List.all_eq_true.mpr fun c hc => ?_⟩
    rw [(h c hc).2]
    rfl
  unfold Dockerfile.copySources
  rw [hwords]
  refine if_pos ⟨rfl, Nat.le_refl 2, ?_⟩
  rw [List.all_cons, List.all_cons, hplain]
  rfl

/-! ## Submissions stay in their directory -/

/-- What is unpacked and what is copied. -/
structure StaysInUserDir (t : FileTree) (userDir : List UInt8)
    (entries : List (Except String ArchiveEntry)) (inputs : ℕ → ArchiveInput) : Prop where
  below : ∀ path, ((extractArchiveSecure userDir entries).run.run archiveExec inputs t).1 path ≠
    t path → components bytes userDir <+: path ∧ path ≠ components bytes userDir
  plain : ∀ path, ((extractArchiveSecure userDir entries).run.run archiveExec inputs t).1 path ≠
    t path → ∃ node, ((extractArchiveSecure userDir entries).run.run archiveExec inputs t).1 path =
      some node ∧ ∀ flag, node ≠ .special flag
  stops : ∀ before bad after, entries = before ++ bad :: after → Refused bad →
    ((extractArchiveSecure userDir entries).run.run archiveExec inputs t).1 =
      ((extractArchiveSecure userDir before).run.run archiveExec inputs t).1 ∧
    ∃ message, ((extractArchiveSecure userDir entries).run.run archiveExec inputs t).2 =
      .error message
  sources : ∀ raw sourceDir, normalizeManifestSourceDir raw = .ok sourceDir →
    ∃ segments, segments ≠ [] ∧ (∀ segment ∈ segments, IsSegment segment) ∧
      sourceDir.toList = ['/'].intercalate segments ∧
      components bytes (join bytes userDir (Utf8.encode sourceDir.toList)) =
        components bytes userDir ++ segments.map (fun segment => .normal (Utf8.encode segment)) ∧
      Dockerfile.copySources (copyUserLine sourceDir).toList =
        some ["user/".toList ++ sourceDir.toList]

/-- Whatever the archive and the manifest, nothing is made outside of the
directory, and nothing but files and directories; an entry that is refused
is the last one; and the directory of the sources is one below, which is
copied as a whole. -/
theorem submission_stays_in_user_dir {t : FileTree} {userDir : List UInt8}
    (h : IsUserDir t userDir) (entries : List (Except String ArchiveEntry))
    (inputs : ℕ → ArchiveInput) : StaysInUserDir t userDir entries inputs := by
  have honly := extractArchiveSecure_onlyBelow h entries inputs
  refine ⟨fun path hnew => ?_, fun path hnew => ?_, ?_, ?_⟩
  · obtain ⟨hbelow, hne, -⟩ := honly.new path hnew
    exact ⟨hbelow, hne⟩
  · obtain ⟨-, -, hdirectory | ⟨content, hfile⟩⟩ := honly.new path hnew
    · exact ⟨.directory, hdirectory, fun flag => nofun⟩
    · exact ⟨.file content, hfile, fun flag => nofun⟩
  · rintro before bad after rfl hbad
    exact extractEntries_refused hbad userDir before after [] inputs t
  · intro raw sourceDir hraw
    obtain ⟨segments, hne, hsegments, rfl⟩ := normalizeManifestSourceDir_ok hraw
    rw [String.toList_ofList]
    exact ⟨segments, hne, hsegments, rfl, components_join_sourceDir h.nonempty hsegments,
      copySources_copyUserLine (isPlainChar_of_mem_sourceDir hsegments)⟩

/-- A tree with the directory of the user and the ones above it. -/
def contextTree (userDir : List UInt8) : FileTree := fun path =>
  if path <+: components bytes userDir ∧ path ≠ [] then some .directory else none

theorem submission_stays_in_user_dir_link :
    StaysInUserDir (contextTree (Utf8.encode "/ctx/user".toList)) (Utf8.encode "/ctx/user".toList)
      [.ok ⟨.regular, Utf8.encode "src/main.py".toList⟩, .ok ⟨.other 50, Utf8.encode "a".toList⟩]
      fun _ => ⟨fun _ => true, some (some []), none⟩ :=
  submission_stays_in_user_dir ⟨by decide, fun _ habove hne => if_pos ⟨habove, hne⟩⟩ _ _

end HackArena.Official
