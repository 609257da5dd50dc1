import HackArena.Lib.Programs
import HackArena.Lib.UnixPaths

/-!
# Archives of submissions

The archive that a team submits is unpacked into the directory of the user,
one entry after the other. Only files and directories are unpacked, and
only at paths that are relative and do not go up.
-/

namespace HackArena.Official

open UnixPath

/-! ## Entries -/

/-- The type of an entry of an archive; all but two are left together. -/
inductive EntryType where
  | regular | directory
  | other (flag : UInt8)
  deriving DecidableEq

def EntryType.isDir (kind : EntryType) : Bool := kind = .directory
def EntryType.isFile (kind : EntryType) : Bool := kind = .regular

structure ArchiveEntry where
  entryType : EntryType
  path : List UInt8
  deriving DecidableEq

abbrev Location := List (Component UInt8)

/-- `Path::display`. -/
def displayPath (path : List UInt8) : String := String.ofList (Utf8.fromUtf8Lossy path)

def validateComponents : Location → Except String Unit
  | [] => .ok ()
  | .normal value :: rest =>
      if value = [] then .error "archive contains empty path segment" else validateComponents rest
  | .curDir :: rest => validateComponents rest
  | .rootDir :: _ | .parentDir :: _ => .error "archive contains non-relative path"

def validateRelativeArchivePath (path : List UInt8) : Except String Unit :=
  if path = [] then .error "archive contains empty path entry"
  else validateComponents (components bytes path)

/-! ## The file system -/

inductive Node where
  | directory
  | file (content : List UInt8)
  | special (flag : UInt8)
  deriving DecidableEq

abbrev FileTree := Location → Option Node

inductive ArchiveOp where
  | createDirAll (path : Location)
  | unpack (entryType : EntryType) (path : Location)

abbrev ArchiveOp.Answer (_ : ArchiveOp) : Type := Except String Unit

/-- What the file system and the archive bring in: which directories can be
made, and what an unpacked entry leaves at its path, if anything: a file, or
a directory without content. -/
structure ArchiveInput where
  mayCreate : Location → Bool
  left : Option (Option (List UInt8))
  fails : Option String

/-- No name on a disk has a null byte. -/
def isWritable (path : Location) : Bool := path.all fun c =>
  match c with
  | .normal segment => !segment.contains 0
  | _ => true

namespace FileTree

variable (t : FileTree)

def isDirectory (path : Location) : Bool := path = [] || t path = some .directory

/-- The missing ones of the directories `path`, of which `above` is there. -/
def createDirs (mayCreate : Location → Bool) (above : Location) :
    FileTree → Location → FileTree × Bool
  | t, [] => (t, true)
  | t, c :: path =>
      match t (above ++ [c]) with
      | some .directory => createDirs mayCreate (above ++ [c]) t path
      | some _ => (t, false)
      | none =>
          if isWritable [c] && mayCreate (above ++ [c]) then
            createDirs mayCreate (above ++ [c])
              (Function.update t (above ++ [c]) (some .directory)) path
          else (t, false)

/-- What an entry becomes. -/
def nodeOf : EntryType → Option (List UInt8) → Node
  | .other flag, _ => .special flag
  | _, some content => .file content
  | _, none => .directory

/-- An entry replaces what is at its path, unless that is a directory. -/
def unpack (entryType : EntryType) (path : Location) (input : ArchiveInput) : FileTree :=
  if isWritable path && t.isDirectory path.dropLast && !t.isDirectory path then
    match input.left with
    | none => t
    | some content => Function.update t path (some (nodeOf entryType content))
  else t

end FileTree

def archiveExec (t : FileTree) (op : ArchiveOp) (input : ArchiveInput) :
    FileTree × op.Answer :=
  match op with
  | .createDirAll path =>
      let made := FileTree.createDirs input.mayCreate [] t path
      (made.1, if made.2 then .ok () else .error "cannot create directory")
  | .unpack entryType path =>
      (t.unpack entryType path input, input.fails.elim (.ok ()) .error)

/-! ## Extraction -/

abbrev ArchiveProg := Prog ArchiveOp ArchiveOp.Answer
abbrev ExtractCall := ExceptT String ArchiveProg

def createDirAll (path : Location) (message : String) : ExtractCall Unit :=
  (Prog.perform (.createDirAll path) : ArchiveProg _).orFail fun _ => message

def createParent (destination : Location) : ExtractCall Unit :=
  match parent destination with
  | none => pure ()
  | some parent => createDirAll parent "failed to create directory"

def unpackEntry (entryType : EntryType) (destination : Location) : ExtractCall Unit :=
  (Prog.perform (.unpack entryType destination) : ArchiveProg _).orFail
    fun _ => "failed to unpack file"

/-- One entry, with the name under which it is listed. -/
def extractEntry (userDir : List UInt8) (entry : ArchiveEntry) : ExtractCall String :=
  let relativePath := displayPath entry.path
  if !(entry.entryType.isDir || entry.entryType.isFile) then
    throw ("archive contains unsupported entry type for path `" ++ relativePath ++ "`")
  else do
    ExceptT.mk (pure (validateRelativeArchivePath entry.path))
    let destination := join bytes userDir entry.path
    if !startsWith bytes destination userDir then
      throw ("archive entry `" ++ relativePath ++ "` resolved outside user directory")
    else if entry.entryType.isDir then do
      createDirAll (components bytes destination) "failed to create directory"
      return relativePath ++ "/"
    else do
      createParent (components bytes destination)
      unpackEntry entry.entryType (components bytes destination)
      return relativePath

/-- An entry that cannot be read ends the extraction. -/
def extractEntries (userDir : List UInt8) (extracted : List String) :
    List (Except String ArchiveEntry) → ExtractCall (List String)
  | [] => pure extracted
  | .error _ :: _ => throw "failed to read archive entry"
  | .ok entry :: entries => do
      let name ← extractEntry userDir entry
      extractEntries userDir (extracted ++ [name]) entries

def extractArchiveSecure (userDir : List UInt8) (entries : List (Except String ArchiveEntry)) :
    ExtractCall (List String) :=
  extractEntries userDir [] entries

/-! ## What is accepted -/

theorem of_validateComponents {path : Location} (h : validateComponents path = .ok ()) :
    .rootDir ∉ path ∧ .parentDir ∉ path := by
  induction path with
  | nil => exact ⟨List.not_mem_nil, List.not_mem_nil⟩
  | cons c rest ih =>
      cases c with
      | rootDir => cases h
      | parentDir => cases h
      | curDir =>
          obtain ⟨hroot, hparent⟩ := ih h
          simp [hroot, hparent]
      | normal value =>
          rw [validateComponents] at h
          split at h
          · cases h
          · obtain ⟨hroot, hparent⟩ := ih h
            simp [hroot, hparent]

/-- What is joined to the directory stays in it. -/
theorem components_destination {userDir path : List UInt8} (hdir : userDir ≠ [])
    (h : validateRelativeArchivePath path = .ok ()) :
    components bytes (join bytes userDir path) = components bytes userDir ++ body bytes path := by
  refine components_join (fun hhead => ?_) hdir
  unfold validateRelativeArchivePath at h
  split at h
  · cases h
  · exact (of_validateComponents h).1 (rootDir_mem_of_head hhead)

/-- A call that stays in the directory `base`, or makes sure that it is
there. -/
def ArchiveOp.Within (base : Location) : ArchiveOp → Prop
  | .createDirAll path => base <+: path ∨ path <+: base
  | .unpack entryType path => entryType = .regular ∧ base <+: path

section Uses

open Prog

variable {base destination : Location} {α : Type}

theorem createDirAll_uses {path : Location} {message : String}
    (h : base <+: path ∨ path <+: base) :
    (createDirAll path message).run.Uses (ArchiveOp.Within base) :=
  .orFail ⟨h, fun _ => trivial⟩

theorem createParent_uses (h : base <+: destination) :
    (createParent destination).run.Uses (ArchiveOp.Within base) := by
  unfold createParent
  split
  · trivial
  · rename_i above habove
    apply createDirAll_uses
    have hdrop : above = destination.dropLast := by
      unfold parent at habove
      split at habove
      · cases habove
      · cases habove
      · exact (Option.some.inj habove).symm
    obtain ⟨rest, rfl⟩ := h
    rw [hdrop]
    by_cases hrest : rest = []
    · subst hrest
      rw [List.append_nil]
      exact Or.inr (List.dropLast_prefix base)
    · rw [List.dropLast_append_of_ne_nil hrest]
      exact Or.inl (List.prefix_append _ _)

/-- What follows a check that has passed. -/
theorem check_uses {x : Except String Unit} {f : Unit → ExtractCall α}
    (hf : x = .ok () → (f ()).run.Uses (ArchiveOp.Within base)) :
    ((ExceptT.mk (pure x) : ExtractCall Unit) >>= f).run.Uses (ArchiveOp.Within base) := by
  cases x with
  | error message => trivial
  | ok _ => exact hf rfl

theorem extractEntry_uses {userDir : List UInt8} (hdir : userDir ≠ []) (entry : ArchiveEntry) :
    (extractEntry userDir entry).run.Uses (ArchiveOp.Within (components bytes userDir)) := by
  unfold extractEntry
  dsimp only
  split
  · trivial
  · rename_i hkind
    refine check_uses fun hvalid => ?_
    have hbelow : components bytes userDir <+:
        components bytes (join bytes userDir entry.path) := by
      rw [components_destination hdir hvalid]
      exact List.prefix_append _ _
    split
    · trivial
    · split
      · exact .bindExcept (createDirAll_uses (Or.inl hbelow)) fun _ => trivial
      · rename_i hnotDir
        have hregular : entry.entryType = .regular := by
          simpa [hnotDir, EntryType.isFile] using hkind
        exact .bindExcept (createParent_uses hbelow) fun _ =>
          .bindExcept (.orFail ⟨⟨hregular, hbelow⟩, fun _ => trivial⟩) fun _ => trivial

theorem extractEntries_uses {userDir : List UInt8} (hdir : userDir ≠ [])
    (entries : List (Except String ArchiveEntry)) (extracted : List String) :
    (extractEntries userDir extracted entries).run.Uses
      (ArchiveOp.Within (components bytes userDir)) := by
  induction entries generalizing extracted with
  | nil => trivial
  | cons entry entries ih =>
      cases entry with
      | error message => trivial
      | ok entry => exact .bindExcept (extractEntry_uses hdir entry) fun name => ih _

end Uses

/-! ## The directory of the user -/

/-- The directory is there. -/
structure IsUserDir (t : FileTree) (userDir : List UInt8) : Prop where
  nonempty : userDir ≠ []
  there : ∀ path, path <+: components bytes userDir → path ≠ [] → t path = some .directory

/-- Whatever is new lies below `base` and is a directory or a file. -/
structure OnlyBelow (base : Location) (t₀ t : FileTree) : Prop where
  there : ∀ path, path <+: base → path ≠ [] → t path = some .directory
  new : ∀ path, t path ≠ t₀ path → base <+: path ∧ path ≠ base ∧
    (t path = some .directory ∨ ∃ content, t path = some (.file content))

namespace OnlyBelow

variable {base path : Location} {t₀ t : FileTree}

theorem update (h : OnlyBelow base t₀ t) (hbelow : base <+: path) (hne : path ≠ base) {node : Node}
    (hnode : node = .directory ∨ ∃ content, node = .file content) :
    OnlyBelow base t₀ (Function.update t path (some node)) where
  there above habove hpath := by
    have hother : above ≠ path := by
      rintro rfl
      exact hne (hbelow.eq_of_length_le habove.length_le).symm
    rw [Function.update_of_ne hother]
    exact h.there above habove hpath
  new other hother := by
    by_cases heq : other = path
    · subst heq
      rw [Function.update_self]
      refine ⟨hbelow, hne, ?_⟩
      rcases hnode with rfl | ⟨content, rfl⟩
      · exact Or.inl rfl
      · exact Or.inr ⟨content, rfl⟩
    · rw [Function.update_of_ne heq] at hother ⊢
      exact h.new other hother

/-- Only directories below `base` can be missing. -/
theorem createDirs (h : OnlyBelow base t₀ t) {mayCreate : Location → Bool} {above : Location}
    (hpath : base <+: above ++ path ∨ above ++ path <+: base) :
    OnlyBelow base t₀ (FileTree.createDirs mayCreate above t path).1 := by
  induction path generalizing t above with
  | nil => exact h
  | cons c path ih =>
      have hnext : base <+: (above ++ [c]) ++ path ∨ (above ++ [c]) ++ path <+: base := by
        rwa [List.append_assoc, List.singleton_append]
      rw [FileTree.createDirs]
      split
      · exact ih h hnext
      · exact h
      · rename_i hmissing
        have hnot : ¬ above ++ [c] <+: base := fun habove => by
          rw [h.there _ habove (by simp)] at hmissing
          cases hmissing
        have hbelow : base <+: above ++ [c] := by
          rcases hnext with hbase | hbase
          · exact (List.prefix_or_prefix_of_prefix hbase
              (List.prefix_append (above ++ [c]) path)).resolve_right hnot
          · exact absurd ((List.prefix_append (above ++ [c]) path).trans hbase) hnot
        split
        · refine ih (h.update hbelow ?_ (Or.inl rfl)) hnext
          rintro rfl
          exact hnot (List.prefix_refl _)
        · exact h

theorem unpack (h : OnlyBelow base t₀ t) (hbase : base ≠ []) {input : ArchiveInput}
    (hbelow : base <+: path) : OnlyBelow base t₀ (t.unpack .regular path input) := by
  unfold FileTree.unpack
  split
  · rename_i hfree
    split
    · exact h
    · rename_i content _
      refine h.update hbelow ?_ ?_
      · rintro rfl
        have hthere := h.there path (List.prefix_refl _) hbase
        simp [FileTree.isDirectory, hthere] at hfree
      · cases content with
        | none => exact Or.inl rfl
        | some content => exact Or.inr ⟨content, rfl⟩
  · exact h

theorem exec (h : OnlyBelow base t₀ t) (hbase : base ≠ []) {op : ArchiveOp}
    (hop : op.Within base) (input : ArchiveInput) :
    OnlyBelow base t₀ (archiveExec t op input).1 := by
  cases op with
  | createDirAll path => exact h.createDirs hop
  | unpack entryType path =>
      obtain ⟨rfl, hbelow⟩ := hop
      exact h.unpack hbase hbelow

end OnlyBelow

theorem IsUserDir.onlyBelow {t : FileTree} {userDir : List UInt8} (h : IsUserDir t userDir) :
    OnlyBelow (components bytes userDir) t t where
  there := h.there
  new _ hnew := absurd rfl hnew

theorem extractArchiveSecure_onlyBelow {t : FileTree} {userDir : List UInt8}
    (h : IsUserDir t userDir) (entries : List (Except String ArchiveEntry))
    (inputs : ℕ → ArchiveInput) : OnlyBelow (components bytes userDir) t
      ((extractArchiveSecure userDir entries).run.run archiveExec inputs t).1 := by
  have huses := extractEntries_uses h.nonempty entries []
  have hensures := huses.ensures (I := OnlyBelow (components bytes userDir) t)
    (fun op hop u input hu => hu.exec (components_ne_nil h.nonempty) hop input) h.onlyBelow
  exact hensures.run inputs

/-! ## Entries that are refused -/

/-- The entry cannot be read, is neither a file nor a directory, or has a
path that is not accepted. -/
def Refused : Except String ArchiveEntry → Prop
  | .error _ => True
  | .ok entry => (entry.entryType ≠ .regular ∧ entry.entryType ≠ .directory) ∨
      validateRelativeArchivePath entry.path ≠ .ok ()

/-- One program fails where the other ends. -/
def FailsAfter {α β : Type} (p : ExtractCall α) (q : ExtractCall β) : Prop :=
  ∀ inputs t, (p.run.run archiveExec inputs t).1 = (q.run.run archiveExec inputs t).1 ∧
    ∃ message, (p.run.run archiveExec inputs t).2 = .error message

theorem failsAfter_throw {α β : Type} (message : String) (q : Except String β) :
    FailsAfter (throw message : ExtractCall α) (ExceptT.mk (pure q)) :=
  fun _ _ => ⟨rfl, message, rfl⟩

theorem FailsAfter.bind {α β γ : Type} {x : ExtractCall γ} {f : γ → ExtractCall α}
    {g : γ → ExtractCall β} (h : ∀ c, FailsAfter (f c) (g c)) : FailsAfter (x >>= f) (x >>= g) := by
  change ArchiveProg (Except String γ) at x
  induction x with
  | ret r =>
      cases r with
      | ok c => exact h c
      | error message => exact fun _ _ => ⟨rfl, message, rfl⟩
  | call op next ih => exact fun inputs t => ih _ (fun n => inputs (n + 1)) _

theorem exists_extractEntry_eq (userDir : List UInt8) {entry : ArchiveEntry}
    (h : Refused (.ok entry)) : ∃ message, extractEntry userDir entry = throw message := by
  unfold extractEntry
  dsimp only
  split
  · exact ⟨_, rfl⟩
  · rename_i hkind
    rcases h with ⟨hregular, hdirectory⟩ | hpath
    · simp [EntryType.isDir, EntryType.isFile, hregular, hdirectory] at hkind
    · cases hvalid : validateRelativeArchivePath entry.path with
      | error message => exact ⟨message, rfl⟩
      | ok _ => exact absurd hvalid hpath

/-- After a refused entry none is extracted. -/
theorem extractEntries_refused {bad : Except String ArchiveEntry} (h : Refused bad)
    (userDir : List UInt8) (before after : List (Except String ArchiveEntry))
    (extracted : List String) :
    FailsAfter (extractEntries userDir extracted (before ++ bad :: after))
      (extractEntries userDir extracted before) := by
  induction before generalizing extracted with
  | nil =>
      cases bad with
      | error message => exact failsAfter_throw _ _
      | ok entry =>
          obtain ⟨message, hthrow⟩ := exists_extractEntry_eq userDir h
          have hentry : extractEntries userDir extracted (.ok entry :: after) =
              extractEntry userDir entry >>= fun name =>
                extractEntries userDir (extracted ++ [name]) after := rfl
          rw [List.nil_append, hentry, hthrow]
          exact failsAfter_throw message (.ok extracted)
  | cons entry before ih =>
      cases entry with
      | error message => exact failsAfter_throw _ _
      | ok entry => exact .bind fun name => ih _

end HackArena.Official
