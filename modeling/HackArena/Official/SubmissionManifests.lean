import HackArena.Lib.Programs
import HackArena.Lib.UnixPaths
import HackArena.Official.TeamStorage

/-!
# Manifests of submissions

The manifest in an archive may name the directory of the sources, the
command that starts the bot and the version of the runtime. The directory
is written in many ways; it becomes a relative path of plain names.
-/

namespace HackArena.Official

open UnixPath

/-! ## The directory of the sources -/

/-- `trim_start_matches("./")`. -/
def trimStartDotSlash : List Char → List Char
  | '.' :: '/' :: cs => trimStartDotSlash cs
  | cs => cs

def stripUserPrefix (trimmed : List Char) : Except String (List Char) :=
  match trimmed.dropPrefix? "user/".toList with
  | some stripped =>
      if (Text.trimChars stripped).isEmpty then
        .error "manifest run.source_dir `user/` is invalid"
      else .ok stripped
  | none => .ok trimmed

def sourceDirParts : List (Component Char) → Except String (List (List Char))
  | [] => .ok []
  | .normal segment :: rest =>
      if segment = [] then .error "manifest run.source_dir contains empty path segment"
      else if segment.all isTagChar then (sourceDirParts rest).map (segment :: ·)
      else .error "manifest run.source_dir contains unsupported characters"
  | .curDir :: rest => sourceDirParts rest
  | .parentDir :: _ => .error "manifest run.source_dir must not contain `..`"
  | .rootDir :: _ => .error "manifest run.source_dir must be a relative path"

def normalizeManifestSourceDir (raw : String) : Except String String :=
  let normalizedSlashes := (Text.trimChars raw.toList).map fun c => if c = '\\' then '/' else c
  let trimmed := (trimStartDotSlash normalizedSlashes).dropWhile (· == '/')
  if trimmed = [] then .error "manifest run.source_dir must not be empty"
  else do
    let withoutUserPrefix ← stripUserPrefix trimmed
    let parts ← sourceDirParts (components chars withoutUserPrefix)
    if parts = [] then .error "manifest run.source_dir must not be empty"
    else .ok (String.ofList (['/'].intercalate parts))

/-- A segment of letters, digits, hyphens and underscores. -/
def IsSegment (segment : List Char) : Prop := segment ≠ [] ∧ ∀ c ∈ segment, isTagChar c = true

theorem sourceDirParts_ok {path : List (Component Char)} {parts : List (List Char)}
    (h : sourceDirParts path = .ok parts) : ∀ segment ∈ parts, IsSegment segment := by
  induction path generalizing parts with
  | nil =>
      obtain rfl := Except.ok.inj h
      exact nofun
  | cons c rest ih =>
      cases c with
      | rootDir => cases h
      | parentDir => cases h
      | curDir => exact ih h
      | normal segment =>
          rw [sourceDirParts] at h
          split at h
          · cases h
          · rename_i hne
            split at h
            · rename_i hall
              cases hrest : sourceDirParts rest with
              | error message =>
                  rw [hrest] at h
                  cases h
              | ok others =>
                  rw [hrest] at h
                  obtain rfl := Except.ok.inj h
                  exact List.forall_mem_cons.mpr ⟨⟨hne, List.all_eq_true.mp hall⟩, ih hrest⟩
            · cases h

theorem normalizeManifestSourceDir_ok {raw sourceDir : String}
    (h : normalizeManifestSourceDir raw = .ok sourceDir) :
    ∃ segments, segments ≠ [] ∧ (∀ segment ∈ segments, IsSegment segment) ∧
      sourceDir = String.ofList (['/'].intercalate segments) := by
  dsimp only [normalizeManifestSourceDir] at h
  split at h
  · cases h
  · obtain ⟨stripped, -, h⟩ := Except.bind_eq_ok.mp h
    obtain ⟨parts, hparts, h⟩ := Except.bind_eq_ok.mp h
    split at h
    · cases h
    · rename_i hne
      exact ⟨parts, hne, sourceDirParts_ok hparts, (Except.ok.inj h).symm⟩

/-! ## Segments as names of directories -/

theorem isTagChar_ne {c : Char} {n : ℕ} (h : isTagChar c = true)
    (hn : isTagChar (Char.ofNat n) = false) : c.toNat ≠ n := by
  rintro rfl
  rw [Char.ofNat_toNat, h] at hn
  cases hn

theorem IsSegment.isName {segment : List Char} (h : IsSegment segment) :
    IsName bytes (Utf8.encode segment) := by
  have hslash : (47 : UInt8) ∉ Utf8.encode segment :=
    Utf8.ascii_notMem_encode (by decide) fun c hc => isTagChar_ne (h.2 c hc) (by decide)
  have hdot : (46 : UInt8) ∉ Utf8.encode segment :=
    Utf8.ascii_notMem_encode (by decide) fun c hc => isTagChar_ne (h.2 c hc) (by decide)
  refine ⟨hslash, fun hnil => h.1 (Utf8.encode_eq_nil hnil), ?_, ?_⟩
  · intro heq
    rw [heq] at hdot
    exact hdot List.mem_cons_self
  · intro heq
    rw [heq] at hdot
    exact hdot List.mem_cons_self

theorem encode_intercalate (segments : List (List Char)) :
    Utf8.encode (['/'].intercalate segments) =
      [bytes.sep].intercalate (segments.map Utf8.encode) := by
  induction segments with
  | nil => rfl
  | cons segment rest ih =>
      cases rest with
      | nil => simp
      | cons next rest =>
          rw [List.map_cons, List.map_cons, List.intercalate_cons_cons,
            List.intercalate_cons_cons, Utf8.encode_append, Utf8.encode_append, ih]
          rfl

/-- The directory of the sources lies below the one that it is joined to. -/
theorem components_join_sourceDir {userDir : List UInt8} (hdir : userDir ≠ [])
    {segments : List (List Char)} (h : ∀ segment ∈ segments, IsSegment segment) :
    components bytes (join bytes userDir (Utf8.encode (['/'].intercalate segments))) =
      components bytes userDir ++
        segments.map fun segment => .normal (Utf8.encode segment) := by
  have hnames : ∀ name ∈ segments.map Utf8.encode, IsName bytes name := by
    intro name hname
    obtain ⟨segment, hsegment, rfl⟩ := List.mem_map.mp hname
    exact (h segment hsegment).isName
  rw [encode_intercalate, components_join (head_intercalate hnames) hdir,
    body_intercalate hnames, List.map_map]
  rfl

end HackArena.Official
