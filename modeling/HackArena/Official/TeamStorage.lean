import HackArena.Lib.TextParts
import HackArena.Official.BotRegistries

/-!
# The storage of a team

The archives that a team submits and the logs of its bots are kept in
directories that are named after the team. What cannot stand in the name of
a directory is replaced in the id of the team, and underscores at the ends of
the outcome are taken off.
-/

namespace HackArena.Official

/-! ## The directories -/

def isTagChar (c : Char) : Bool := Text.isAsciiAlphanumeric c || c == '-' || c == '_'

def storageChar (c : Char) : Char := if isTagChar c then c else '_'

/-- `sanitize_storage_component`, for the sandboxes and for the race. -/
def sanitizeStorageComponent (value : String) : String :=
  let sanitized := value.toList.map storageChar
  let trimmed := Text.trimMatches (· == '_') sanitized
  if trimmed.isEmpty then "unknown" else String.ofList trimmed

/-- The components of a path below the root of the submissions. -/
def teamLogsDir (submissionsRoot : List String) (teamId : String) : List String :=
  submissionsRoot ++ [sanitizeStorageComponent teamId, "logs"]

def archiveDir (submissionsRoot : List String) (teamId submissionId : String) : List String :=
  submissionsRoot ++
    [sanitizeStorageComponent teamId, "submissions", sanitizeStorageComponent submissionId]

/-! ## Names of directories -/

/-- The text is one component of a path, and it names neither the directory
itself nor the one above. -/
structure IsPathComponent (name : String) : Prop where
  nonempty : name ≠ ""
  slash : '/' ∉ name.toList
  nul : '\x00' ∉ name.toList
  dot : name ≠ "."
  dotdot : name ≠ ".."

theorem isTagChar_storageChar (c : Char) : isTagChar (storageChar c) = true := by
  unfold storageChar
  split
  · assumption
  · decide

theorem isPathComponent_of_tagChars {name : String} (hne : name ≠ "")
    (h : ∀ c ∈ name.toList, isTagChar c = true) : IsPathComponent name where
  nonempty := hne
  slash hc := absurd (h _ hc) (by decide)
  nul hc := absurd (h _ hc) (by decide)
  dot heq := absurd (h '.' (by simp [heq])) (by decide)
  dotdot heq := absurd (h '.' (by simp [heq])) (by decide)

theorem sanitizeStorageComponent_isPathComponent (value : String) :
    IsPathComponent (sanitizeStorageComponent value) := by
  dsimp only [sanitizeStorageComponent]
  split
  · have hunknown : ("unknown".toList.all isTagChar) = true := by decide
    exact isPathComponent_of_tagChars (by decide) (List.all_eq_true.mp hunknown)
  · rename_i hne
    refine isPathComponent_of_tagChars ?_ fun c hc => ?_
    · simpa using hne
    · rw [String.toList_ofList] at hc
      obtain ⟨d, -, rfl⟩ := List.mem_map.mp (Text.trimMatches_subset _ _ hc)
      exact isTagChar_storageChar d

/-! ## Ids that share their storage -/

theorem sanitizeTagComponent_ok {value v : String} (h : sanitizeTagComponent value = .ok v) :
    v = Text.trim value ∧ v ≠ "" ∧ ∀ c ∈ v.toList, isTagChar c = true := by
  dsimp only [sanitizeTagComponent] at h
  split at h
  · cases h
  · rename_i hne
    split at h
    · rename_i hall
      injection h with hv
      subst hv
      exact ⟨rfl, by simpa using hne, List.all_eq_true.mp hall⟩
    · cases h

/-- The id is this text between underscores, of which there may be none. -/
def AroundIs (core id : String) : Prop :=
  ∃ l r, id.toList = l ++ core.toList ++ r ∧ (∀ c ∈ l, c = '_') ∧ ∀ c ∈ r, c = '_'

def IsTeamId (id : String) : Prop := ∃ v, sanitizeTagComponent id = .ok v

/-- No directory of one team is a directory of the other. -/
structure KeptApart (a b : String) : Prop where
  names : sanitizeStorageComponent a ≠ sanitizeStorageComponent b
  logs : ∀ root, teamLogsDir root a ≠ teamLogsDir root b
  archives : ∀ root x y, archiveDir root a x ≠ archiveDir root b y

/-- The ids differ in underscores at their ends only, or one has nothing but
underscores and the other is the default apart from them. -/
def SharesStorage (u v : String) : Prop :=
  (∃ core, AroundIs core u ∧ AroundIs core v) ∨
    (AroundIs "" u ∧ AroundIs "unknown" v) ∨ (AroundIs "unknown" u ∧ AroundIs "" v)

def stem (id : String) : List Char := Text.trimMatches (· == '_') id.toList

def storageName (stem : List Char) : String :=
  if stem.isEmpty then "unknown" else String.ofList stem

theorem AroundIs.stem_eq {core id : String} (h : AroundIs core id) : stem id = stem core := by
  obtain ⟨l, r, hid, hl, hr⟩ := h
  rw [stem, hid]
  exact Text.trimMatches_around (by simpa using hl) (by simpa using hr)

theorem aroundIs_stem (id : String) : AroundIs (String.ofList (stem id)) id := by
  obtain ⟨l, r, hid, hl, hr⟩ := Text.exists_eq_trimMatches (· == '_') id.toList
  refine ⟨l, r, ?_, by simpa using hl, by simpa using hr⟩
  rw [String.toList_ofList]
  exact hid

theorem aroundIs_iff {core id : String} (hcore : stem core = core.toList) :
    AroundIs core id ↔ stem id = core.toList := by
  constructor
  · intro h
    rw [h.stem_eq, hcore]
  · intro h
    have haround := aroundIs_stem id
    rwa [h, String.ofList_toList] at haround

theorem sharesStorage_iff (u v : String) :
    SharesStorage u v ↔ stem u = stem v ∨ (stem u = [] ∧ stem v = "unknown".toList) ∨
      (stem u = "unknown".toList ∧ stem v = []) := by
  have hcore : (∃ core, AroundIs core u ∧ AroundIs core v) ↔ stem u = stem v := by
    constructor
    · rintro ⟨core, hu, hv⟩
      rw [hu.stem_eq, hv.stem_eq]
    · intro heq
      have haround := aroundIs_stem v
      rw [← heq] at haround
      exact ⟨_, aroundIs_stem u, haround⟩
  have hempty : stem "" = "".toList := by decide
  have hunknown : stem "unknown" = "unknown".toList := by decide
  rw [SharesStorage, hcore, aroundIs_iff hempty, aroundIs_iff hempty, aroundIs_iff hunknown,
    aroundIs_iff hunknown]
  rfl

theorem storageName_eq_iff (s t : List Char) :
    storageName s = storageName t ↔
      s = t ∨ (s = [] ∧ t = "unknown".toList) ∨ (s = "unknown".toList ∧ t = []) := by
  have hname : ∀ u : List Char, (storageName u).toList = if u = [] then "unknown".toList else u := by
    intro u
    cases u with
    | nil => rfl
    | cons c cs => simp [storageName]
  rw [← String.toList_inj, hname, hname]
  generalize hdefault : "unknown".toList = default
  have hne : default ≠ [] := hdefault ▸ by decide
  by_cases hs : s = [] <;> by_cases ht : t = [] <;> simp [hs, ht, hne, eq_comm]

theorem isTagChar_of_isWhitespace {c : Char} (h : Text.isWhitespace c) : isTagChar c = false := by
  rw [Bool.eq_false_iff]
  intro htag
  have hbounds : 45 ≤ c.toNat ∧ c.toNat ≤ 122 := by
    simp only [isTagChar, Bool.or_eq_true, beq_iff_eq] at htag
    rcases htag with (halphanumeric | rfl) | rfl
    · have hletter := Text.bounds_of_isAsciiAlphanumeric halphanumeric
      omega
    · decide
    · decide
  have hblank := Text.bounds_of_isWhitespace h
  omega

/-- What is white space becomes underscores, which are taken off with the
others. -/
theorem sanitizeStorageComponent_eq {value v : String} (h : sanitizeTagComponent value = .ok v) :
    sanitizeStorageComponent value = storageName (stem v) := by
  obtain ⟨rfl, -, htags⟩ := sanitizeTagComponent_ok h
  rw [Text.trim, String.toList_ofList] at htags
  have hblank : ∀ c, Text.isWhitespace c → storageChar c == '_' := by
    intro c hc
    rw [storageChar, isTagChar_of_isWhitespace hc]
    rfl
  have hsame : (Text.trimChars value.toList).map storageChar = Text.trimChars value.toList := by
    conv_rhs => rw [← List.map_id (Text.trimChars value.toList)]
    exact List.map_congr_left fun c hc => if_pos (htags c hc)
  have hstem : Text.trimMatches (· == '_') (value.toList.map storageChar) =
      stem (Text.trim value) := by
    rw [Text.trimMatches_map_trimMatches value.toList hblank, ← Text.trimChars_eq, hsame, stem,
      Text.trim, String.toList_ofList]
  rw [sanitizeStorageComponent, hstem]
  rfl

theorem keptApart_iff (a b : String) :
    KeptApart a b ↔ sanitizeStorageComponent a ≠ sanitizeStorageComponent b := by
  refine ⟨KeptApart.names, fun hne => ⟨hne, fun root heq => hne ?_, fun root x y heq => hne ?_⟩⟩
  · exact (List.cons.inj (List.append_cancel_left heq)).1
  · exact (List.cons.inj (List.append_cancel_left heq)).1

theorem IsTeamId.keptApart_iff {a b : String} (ha : IsTeamId a) (hb : IsTeamId b) :
    KeptApart a b ↔ ¬ SharesStorage (Text.trim a) (Text.trim b) := by
  obtain ⟨u, hu⟩ := ha
  obtain ⟨v, hv⟩ := hb
  rw [Official.keptApart_iff, sanitizeStorageComponent_eq hu, sanitizeStorageComponent_eq hv,
    ← (sanitizeTagComponent_ok hu).1, ← (sanitizeTagComponent_ok hv).1, sharesStorage_iff, Ne,
    storageName_eq_iff]

/-- Teams with different ids have directories of their own, unless the ids
differ in the underscores that are taken off only. -/
theorem storage_apart_iff (value a b : String) (ha : IsTeamId a) (hb : IsTeamId b) :
    IsPathComponent (sanitizeStorageComponent value) ∧
      ((Text.trim a ≠ Text.trim b → KeptApart a b) ↔
        (Text.trim a ≠ Text.trim b → ¬ SharesStorage (Text.trim a) (Text.trim b))) :=
  ⟨sanitizeStorageComponent_isPathComponent value, imp_congr_right fun _ => ha.keptApart_iff hb⟩

theorem storage_apart_red_blue : KeptApart "red" "blue" := by
  have hred : IsTeamId "red" := ⟨"red", by decide +kernel⟩
  have hblue : IsTeamId "blue" := ⟨"blue", by decide +kernel⟩
  refine (storage_apart_iff "red" "red" "blue" hred hblue).2.mpr (fun _ => ?_) (by decide +kernel)
  rw [sharesStorage_iff]
  decide +kernel

/-- The logs of a team with an underscore at the start of its id are kept
with those of the team without it. -/
theorem storage_shared_underscore :
    IsTeamId "_red" ∧ IsTeamId "red" ∧ Text.trim "_red" ≠ Text.trim "red" ∧
      ¬ KeptApart "_red" "red" ∧ teamLogsDir ["submissions"] "_red" = teamLogsDir ["submissions"] "red" := by
  refine ⟨⟨"_red", by decide +kernel⟩, ⟨"red", by decide +kernel⟩, by decide +kernel, ?_,
    by decide +kernel⟩
  rw [keptApart_iff]
  decide +kernel

end HackArena.Official
