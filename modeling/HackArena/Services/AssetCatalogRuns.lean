import HackArena.Lib.LogMoments
import HackArena.Lib.RecordedCalls
import HackArena.Services.AssetCatalog

/-!
# What the catalog answers

No request leads out of the directory of the tracks. What is told of a bundle
has been read from the files of a complete one, by this request or by the one
whose bundle is in the cache; and that one was stored less than two minutes before
the time at which this request asked for it. Every map in a list is one whose
bundle has been found complete for it.
-/

namespace HackArena.Services.AssetCatalog

open GuardedRun LogMoments Prog

abbrev AssetEntry := Entry AssetOp AssetOp.Answer
abbrev AssetLog := List AssetEntry
abbrev AssetWorld := World AssetState AssetOp AssetOp.Answer
abbrev AssetPool := Pool AssetState AssetOp AssetOp.Answer (Except Status AssetReply)

/-! ## Paths -/

section Paths

open UnixPath

/-- The path is the directory, or leads into it by one or two names. -/
def Inside (dir path : FsPath) : Prop :=
  ∃ names : List (List Char), names.length ≤ 2 ∧
    components chars path = components chars dir ++ names.map .normal

/-- A name that can follow a directory without leading out of it. -/
def Plain (name : List Char) : Prop := name = [] ∨ IsName chars name

theorem components_join_isName {base name : List Char} (h : IsName chars name) :
    components chars (join chars base name) = components chars base ++ [.normal name] := by
  have hrelative : name.head? ≠ some chars.sep := fun hhead =>
    h.sep (List.mem_of_mem_head? hhead)
  by_cases hbase : base = []
  · subst hbase
    have hjoin : join chars [] name = name := by
      unfold join
      rw [if_neg hrelative, if_pos (Or.inl rfl), List.nil_append]
    have hdot : (Lines.split chars.sep name).head? ≠ some [chars.dot] := by
      rw [Lines.split_of_notMem h.sep]
      exact fun heq => h.dot (Option.some.inj heq)
    rw [hjoin, components, if_neg hrelative, if_neg hdot, body_of_isName h]
    simp [components, body, Lines.split, Lines.complete, segmentOf]
  · rw [components_join hrelative hbase, body_of_isName h]

theorem components_join_nil (base : List Char) :
    components chars (join chars base []) = components chars base := by
  by_cases hbase : base = []
  · subst hbase
    rfl
  · rw [components_join (by simp) hbase, body_nil, List.append_nil]

/-- A plain name adds one component at most. -/
theorem components_join_plain (base : List Char) {name : List Char} (h : Plain name) :
    ∃ names : List (List Char), names.length ≤ 1 ∧
      components chars (join chars base name) = components chars base ++ names.map .normal := by
  rcases h with rfl | h
  · exact ⟨[], Nat.zero_le _, by simp [components_join_nil]⟩
  · exact ⟨[name], le_rfl, components_join_isName h⟩

theorem inside_self (dir : FsPath) : Inside dir dir := ⟨[], Nat.zero_le _, by simp⟩

theorem inside_join {dir : FsPath} {name : String} (h : Plain name.toList) :
    Inside dir (joinName dir name) := by
  obtain ⟨names, hlen, heq⟩ := components_join_plain dir h
  exact ⟨names, by omega, heq⟩

theorem inside_join_join {dir : FsPath} {key name : String} (hkey : Plain key.toList)
    (hname : Plain name.toList) : Inside dir (joinName (joinName dir key) name) := by
  obtain ⟨names, hlen, heq⟩ := components_join_plain dir hkey
  obtain ⟨names', hlen', heq'⟩ := components_join_plain (joinName dir key) hname
  refine ⟨names ++ names', by rw [List.length_append]; omega, ?_⟩
  rw [joinName, heq', joinName, heq, List.map_append, List.append_assoc]

end Paths

section Names

open UnixPath

theorem not_special_of_isAsciiAlphanumeric {c : Char} (h : Text.isAsciiAlphanumeric c = true) :
    c ≠ '/' ∧ c ≠ '.' := by
  constructor
  · rintro rfl
    exact absurd h (by decide)
  · rintro rfl
    exact absurd h (by decide)

/-- Without separators and dots a text is a name, if it is not empty. -/
theorem plain_of_forall {name : List Char} (h : ∀ c ∈ name, c ≠ '/' ∧ c ≠ '.') : Plain name := by
  by_cases hname : name = []
  · exact Or.inl hname
  · refine Or.inr ⟨fun hsep => (h _ hsep).1 rfl, hname, ?_, ?_⟩
    · rintro rfl
      exact (h '.' List.mem_cons_self).2 rfl
    · rintro rfl
      exact (h '.' List.mem_cons_self).2 rfl

theorem plain_storageKey {storageKey : String} (h : isValidStorageKey storageKey = true) :
    Plain storageKey.toList :=
  plain_of_forall fun c hc => not_special_of_isAsciiAlphanumeric (List.all_eq_true.mp h c hc)

/-- A longer ending without separators makes a name of an internal id. -/
theorem plain_append {id : String} (hid : ∀ c ∈ id.toList, isInternalMapIdChar c = true)
    {ending : String} (hsep : '/' ∉ ending.toList) (hlen : 3 ≤ ending.toList.length) :
    Plain (id ++ ending).toList := by
  rw [String.toList_append]
  have hlong : 3 ≤ (id.toList ++ ending.toList).length := by
    rw [List.length_append]
    omega
  refine Or.inr ⟨fun hmem => ?_, fun heq => ?_, fun heq => ?_, fun heq => ?_⟩
  · rcases List.mem_append.mp hmem with hmem | hmem
    · exact absurd (hid _ hmem) (by decide)
    · exact hsep hmem
  all_goals
    rw [heq] at hlong
    simp at hlong

theorem validateRequestedMapId_ok {rawMapId mapId : String}
    (h : validateRequestedMapId rawMapId = .ok mapId) :
    mapId = Text.trim rawMapId ∧ mapId ≠ "" ∧ isValidStorageKey mapId = true := by
  unfold validateRequestedMapId at h
  dsimp only at h
  by_cases hempty : Text.trim rawMapId = ""
  · rw [if_pos hempty] at h
    cases h
  · rw [if_neg hempty] at h
    by_cases hkey : isValidStorageKey (Text.trim rawMapId) = true
    · rw [if_neg (by simp [hkey])] at h
      obtain rfl := Except.ok.inj h
      exact ⟨rfl, hempty, hkey⟩
    · rw [if_pos (by simp [hkey])] at h
      cases h

theorem storageKeyOf_eq_some {fileName : Option String} {storageKey : String}
    (h : storageKeyOf fileName = some storageKey) :
    ∃ name, fileName = some name ∧ Text.trim name = storageKey ∧
      isValidStorageKey storageKey = true := by
  obtain ⟨hname, hvalid⟩ := Option.filter_eq_some_iff.mp h
  obtain ⟨name, hfile, htrim⟩ := Option.map_eq_some_iff.mp hname
  exact ⟨name, hfile, htrim, hvalid⟩

theorem candidateId_eq_some {fileName : Option String} {id : String}
    (h : candidateId fileName = some id) : ∀ c ∈ id.toList, isInternalMapIdChar c = true := by
  obtain ⟨-, hok⟩ := Option.filter_eq_some_iff.mp h
  unfold sanitizeInternalMapId at hok
  split at hok
  · cases hok
  · rename_i hall
    simpa using hall

theorem findInternalMapId_chars {items : List DirItem} {found : Option String} {id : String}
    (hfound : ∀ other, found = some other → ∀ c ∈ other.toList, isInternalMapIdChar c = true)
    (h : findInternalMapId found items = .ok (some id)) :
    ∀ c ∈ id.toList, isInternalMapIdChar c = true := by
  induction items generalizing found with
  | nil => exact hfound id (Except.ok.inj h)
  | cons item items ih =>
      cases item with
      | failed => cases h
      | entry fileType fileName =>
          cases fileType with
          | none => cases h
          | some fileType =>
              cases fileType with
              | file =>
                  rw [findInternalMapId] at h
                  cases hid : candidateId fileName with
                  | none =>
                      rw [hid] at h
                      exact ih hfound h
                  | some candidate =>
                      rw [hid] at h
                      dsimp only at h
                      split at h
                      · cases h
                      · refine ih (fun other hother => ?_) h
                        obtain rfl := Option.some.inj hother
                        exact candidateId_eq_some hid
              | dir => exact ih hfound h
              | other => exact ih hfound h

end Names

/-! ## What has been found -/

section Statements

variable (lib : Libraries) (tracksDir : FsPath) (thread : ℕ)

/-- The entries have a single main asset, and with it all that a bundle needs. -/
def Complete (storageKey : String) (items : List DirItem) (paths : MapBundlePaths)
    (log : AssetLog) : Prop :=
  ∃ internalMapId, findInternalMapId none items = .ok (some internalMapId) ∧
    paths = bundlePaths storageKey internalMapId (joinName tracksDir storageKey) ∧
    ∀ path ∈ [paths.mainGlbPath, paths.minimapSvgPath, paths.minimapMetadataPath,
      paths.mapMetadataPath], ⟨thread, .isFile path, true⟩ ∈ log

/-- A complete bundle was found in its directory. -/
def Bundled (storageKey : String) (paths : MapBundlePaths) (log : AssetLog) : Prop :=
  ∃ items, ⟨thread, .readDir (joinName tracksDir storageKey), .ok items⟩ ∈ log ∧
    Complete tracksDir thread storageKey items paths log

def AssetRead (kind : MapAssetKind) (path : FsPath) (value : MapAssetMeta) (log : AssetLog) :
    Prop :=
  value.kind = kind ∧ contentTypeForKind kind = .ok value.contentType ∧
    (∃ isDir, ⟨thread, .metadata path, .ok ⟨isDir, value.sizeBytes⟩⟩ ∈ log) ∧
    ⟨thread, .hash path, some value.contentHash⟩ ∈ log

/-- The animation was found, or found to be missing. -/
def AnimationRead (path : FsPath) (value : Option MapAssetMeta) (log : AssetLog) : Prop :=
  match value with
  | none => ⟨thread, .metadata path, .error .notFound⟩ ∈ log
  | some value => AssetRead thread .animationGlb path value log

/-- A text was read that stands for the value. -/
def TextRead {α : Type} (parse : String → Except Status α) (path : FsPath) (value : α)
    (log : AssetLog) : Prop :=
  ∃ raw, ⟨thread, .readToString path, .ok raw⟩ ∈ log ∧ parse raw = .ok value

structure Contents (mapId : String) (paths : MapBundlePaths) (bundle : MapAssetBundleMeta)
    (log : AssetLog) : Prop where
  id : bundle.mapId = mapId
  mainGlb : AssetRead thread .mainGlb paths.mainGlbPath bundle.mainGlb log
  minimapSvg : AssetRead thread .minimapSvg paths.minimapSvgPath bundle.minimapSvg log
  minimapMetadata : TextRead thread (parseMinimapMetadata lib) paths.minimapMetadataPath
    bundle.minimapMetadata log
  mapMetadata : TextRead thread (parseMapMetadata lib mapId) paths.mapMetadataPath
    bundle.mapMetadata log
  animationGlb : AnimationRead thread paths.animationGlbPath bundle.animationGlb log

def BundleRead (mapId : String) (bundle : MapAssetBundleMeta) (log : AssetLog) : Prop :=
  ∃ paths, Bundled tracksDir thread mapId paths log ∧ Contents lib thread mapId paths bundle log

/-- The path that a call is about. -/
def AssetOp.path? : AssetOp → Option FsPath
  | .metadata path | .readDir path | .isFile path | .read path | .readToString path
  | .hash path => some path
  | .now | .cached .. | .cachedOrRemove .. | .store .. => none

/-- Calls stay inside the directory, and what is stored has been read. -/
structure Permits (log : AssetLog) (op : AssetOp) : Prop where
  inside : ∀ path ∈ op.path?, Inside tracksDir path
  store : ∀ mapId bundle, op = .store mapId bundle →
    BundleRead lib tracksDir thread mapId bundle log

/-- The map is in the directory with a complete bundle, marked if it has to be. -/
def Listed (onlyLocalMarked : Bool) (entry : MapCatalogEntry) (log : AssetLog) : Prop :=
  ∃ paths, Bundled tracksDir thread entry.mapId paths log ∧
    (onlyLocalMarked = true → ⟨thread, .isFile paths.localMarkerPath, true⟩ ∈ log) ∧
    ∃ value, TextRead thread (parseMapMetadata lib entry.mapId) paths.mapMetadataPath value log ∧
      value.mapName = entry.displayName

/-- The key that an item of a directory stands for. -/
def DirItem.storageKey : DirItem → Option String
  | .entry (some .dir) fileName => storageKeyOf fileName
  | _ => none

/-- A list is made of items of the directory. -/
def Catalogued (onlyLocalMarked : Bool) (maps : List MapCatalogEntry) (log : AssetLog) : Prop :=
  (maps.Pairwise fun a b => a.mapId ≤ b.mapId) ∧
    (∀ entry ∈ maps, Listed lib tracksDir thread onlyLocalMarked entry log) ∧
    ∃ items, ⟨thread, .readDir tracksDir, .ok items⟩ ∈ log ∧
      (maps.map (·.mapId)).Subperm (items.filterMap DirItem.storageKey)

/-- Who stores which bundle of the map, and at what time. -/
def stores (mapId : String) : AssetEntry → Option (ℕ × MapAssetBundleMeta × ℕ)
  | ⟨reader, .store id bundle, storedAt⟩ =>
      if id = mapId then some (reader, bundle, storedAt) else none
  | _ => none

/-- The bundle is the one that was stored last for the map, by a request that
had read it, and less than two minutes before `now`. -/
def Recent (mapId : String) (now : ℕ) (bundle : MapAssetBundleMeta) (log : AssetLog) : Prop :=
  ∃ reader storedAt older, latest (stores mapId) log = some ((reader, bundle, storedAt), older) ∧
    BundleRead lib tracksDir reader mapId bundle older ∧ now < storedAt + mapBundleMetaCacheTtlMs

/-- A call that gives a bundle out of the cache. -/
def hit : AssetEntry → Option (String × ℕ × MapAssetBundleMeta)
  | ⟨_, .cached mapId now, answer⟩ | ⟨_, .cachedOrRemove mapId now, answer⟩ =>
      Option.map (fun bundle => (mapId, now, bundle)) answer
  | _ => none

/-- The request has been given the bundle out of the cache for the time that it
has read, and it was recent when it was given out. -/
def FromCache (mapId : String) (bundle : MapAssetBundleMeta) (log : AssetLog) : Prop :=
  ∃ now e, ⟨thread, .now, now⟩ ∈ log ∧ e.thread = thread ∧ hit e = some (mapId, now, bundle) ∧
    When e (Recent lib tracksDir mapId now bundle) log

def Located (rawMapId : String) (resolve : FsPath → String → Except Status FsPath) (path : FsPath)
    (len : ℕ) (log : AssetLog) : Prop :=
  ∃ paths isDir, Bundled tracksDir thread (Text.trim rawMapId) paths log ∧
    resolve paths.bundleDir paths.internalMapId = .ok path ∧
    ⟨thread, .metadata path, .ok ⟨isDir, len⟩⟩ ∈ log

structure Synced (rawMapId : String) (value : MapAssetSyncMeta) (log : AssetLog) : Prop where
  id : value.mapId = Text.trim rawMapId
  files : ∃ paths, Bundled tracksDir thread (Text.trim rawMapId) paths log ∧
    ⟨thread, .read paths.minimapSvgPath, .ok value.minimapSvg⟩ ∈ log ∧
    ⟨thread, .read paths.mapMetadataPath, .ok value.mainMetadataJson⟩ ∈ log ∧
    ⟨thread, .read paths.minimapMetadataPath, .ok value.minimapMetadataJson⟩ ∈ log

/-- What stands behind a reply. -/
def Vouched (log : AssetLog) : AssetRequest → AssetReply → Prop
  | .listMaps onlyLocalMarked, .maps maps =>
      Catalogued lib tracksDir thread onlyLocalMarked maps log
  | .bundleMeta rawMapId, .bundle bundle =>
      BundleRead lib tracksDir thread (Text.trim rawMapId) bundle log ∨
        FromCache lib tracksDir thread (Text.trim rawMapId) bundle log
  | .syncMeta rawMapId, .sync value => Synced tracksDir thread rawMapId value log
  | .asset rawMapId kind, .file path len => Located tracksDir thread rawMapId
      (fun root id => resolvePathForKind root id kind) path len log
  | .glb rawMapId kind, .file path len => Located tracksDir thread rawMapId
      (fun root id => resolvePathForGlbKind root id kind) path len log
  | _, _ => False

end Statements

section Growing

variable {lib : Libraries} {tracksDir : FsPath} {thread : ℕ} {log log' : AssetLog}
  {paths : MapBundlePaths} {path : FsPath}

theorem Bundled.mono {storageKey : String} (h : Bundled tracksDir thread storageKey paths log)
    (hlog : log ⊆ log') : Bundled tracksDir thread storageKey paths log' := by
  obtain ⟨items, hread, id, hfind, hpaths, hfiles⟩ := h
  exact ⟨items, hlog hread, id, hfind, hpaths, fun path hpath =>
    hlog (hfiles path hpath)⟩

theorem AssetRead.mono {kind : MapAssetKind} {value : MapAssetMeta}
    (h : AssetRead thread kind path value log) (hlog : log ⊆ log') :
    AssetRead thread kind path value log' := by
  obtain ⟨hkind, htype, ⟨isDir, hmeta⟩, hhash⟩ := h
  exact ⟨hkind, htype, ⟨isDir, hlog hmeta⟩, hlog hhash⟩

theorem AnimationRead.mono {value : Option MapAssetMeta}
    (h : AnimationRead thread path value log) (hlog : log ⊆ log') :
    AnimationRead thread path value log' := by
  cases value with
  | none => exact hlog h
  | some value => exact AssetRead.mono h hlog

theorem TextRead.mono {α : Type} {parse : String → Except Status α} {value : α}
    (h : TextRead thread parse path value log) (hlog : log ⊆ log') :
    TextRead thread parse path value log' := by
  obtain ⟨raw, hread, hparse⟩ := h
  exact ⟨raw, hlog hread, hparse⟩

theorem BundleRead.mono {mapId : String} {bundle : MapAssetBundleMeta}
    (h : BundleRead lib tracksDir thread mapId bundle log) (hlog : log ⊆ log') :
    BundleRead lib tracksDir thread mapId bundle log' := by
  obtain ⟨paths, hbundled, hcontents⟩ := h
  exact ⟨paths, hbundled.mono hlog, hcontents.id, hcontents.mainGlb.mono hlog,
    hcontents.minimapSvg.mono hlog, hcontents.minimapMetadata.mono hlog,
    hcontents.mapMetadata.mono hlog, hcontents.animationGlb.mono hlog⟩

theorem Listed.mono {onlyLocalMarked : Bool} {entry : MapCatalogEntry}
    (h : Listed lib tracksDir thread onlyLocalMarked entry log) (hlog : log ⊆ log') :
    Listed lib tracksDir thread onlyLocalMarked entry log' := by
  obtain ⟨paths, hbundled, hmarked, value, hread, hname⟩ := h
  exact ⟨paths, hbundled.mono hlog, fun honly => hlog (hmarked honly), value,
    hread.mono hlog, hname⟩

/-- All the files of a bundle are in the directory. -/
theorem inside_bundlePaths {storageKey id : String} {items : List DirItem}
    (hkey : isValidStorageKey storageKey = true)
    (hfind : findInternalMapId none items = .ok (some id))
    (hpaths : paths = bundlePaths storageKey id (joinName tracksDir storageKey)) :
    ∀ path ∈ [paths.mainGlbPath, paths.minimapSvgPath, paths.minimapMetadataPath,
      paths.mapMetadataPath, paths.animationGlbPath, paths.localMarkerPath],
      Inside tracksDir path := by
  subst hpaths
  have hid := findInternalMapId_chars (fun other hother => by cases hother) hfind
  have hjoin : ∀ name : String, Plain name.toList →
      Inside tracksDir (joinName (joinName tracksDir storageKey) name) := fun name hname =>
    inside_join_join (plain_storageKey hkey) hname
  simp only [List.forall_mem_cons, bundlePaths]
  refine ⟨hjoin _ ?_, hjoin _ ?_, hjoin _ ?_, hjoin _ ?_, hjoin _ ?_, hjoin _ ?_,
    fun path hpath => by cases hpath⟩
  all_goals first
    | exact plain_append hid (by decide) (by decide)
    | exact Or.inr ⟨by decide, by decide, by decide, by decide⟩

end Growing

/-! ## What the calls find -/

section Finding

variable {lib : Libraries} {tracksDir : FsPath} {thread : ℕ}

/-- A call about a path in the directory. -/
theorem permits_inside {log : AssetLog} {op : AssetOp} {path : FsPath} (hop : op.path? = some path)
    (h : Inside tracksDir path) : Permits lib tracksDir thread log op where
  inside path' hpath' := by
    rw [hop] at hpath'
    obtain rfl := Option.some.inj hpath'
    exact h
  store mapId bundle heq := by
    subst heq
    cases hop

theorem allFiles_finds {paths : List FsPath} (h : ∀ path ∈ paths, Inside tracksDir path) :
    Finds thread (Permits lib tracksDir thread)
      (fun complete log => complete = true → ∀ path ∈ paths, ⟨thread, .isFile path, true⟩ ∈ log)
      (liftM (allFiles paths) : AssetCall Bool) := by
  intro log
  apply Follows.lift
  induction paths generalizing log with
  | nil => exact ⟨List.suffix_refl log, fun _ path hpath => by cases hpath⟩
  | cons path paths ih =>
      obtain ⟨hpath, hpaths⟩ := List.forall_mem_cons.mp h
      refine .call (permits_inside rfl hpath) fun isFile => ?_
      cases isFile with
      | false => exact ⟨List.suffix_cons _ _, fun hfalse => by cases hfalse⟩
      | true =>
          refine Follows.mono (ih hpaths _) fun complete log' hr => ?_
          refine ⟨(List.suffix_cons _ _).trans hr.1, fun hcomplete => ?_⟩
          exact List.forall_mem_cons.mpr ⟨hr.1.subset List.mem_cons_self, hr.2 hcomplete⟩

/-- A call whose error ends the request. -/
theorem metadata_finds {path : FsPath} (h : Inside tracksDir path) (f : IoError → Status) :
    Finds thread (Permits lib tracksDir thread)
      (fun value log => ⟨thread, .metadata path, .ok value⟩ ∈ log)
      ((AssetOp.metadata path).call.orFail f) :=
  Finds.asked (fun _ => permits_inside rfl h) fun _ _ _ hr => by
    obtain rfl := hr
    exact List.mem_cons_self

theorem readDir_finds {path : FsPath} (h : Inside tracksDir path) (f : IoError → Status) :
    Finds thread (Permits lib tracksDir thread)
      (fun items log => ⟨thread, .readDir path, .ok items⟩ ∈ log)
      ((AssetOp.readDir path).call.orFail f) :=
  Finds.asked (fun _ => permits_inside rfl h) fun _ _ _ hr => by
    obtain rfl := hr
    exact List.mem_cons_self

theorem readToString_finds {path : FsPath} (h : Inside tracksDir path) (f : IoError → Status) :
    Finds thread (Permits lib tracksDir thread)
      (fun raw log => ⟨thread, .readToString path, .ok raw⟩ ∈ log)
      ((AssetOp.readToString path).call.orFail f) :=
  Finds.asked (fun _ => permits_inside rfl h) fun _ _ _ hr => by
    obtain rfl := hr
    exact List.mem_cons_self

theorem read_finds {path : FsPath} (h : Inside tracksDir path) (f : IoError → Status) :
    Finds thread (Permits lib tracksDir thread)
      (fun bytes log => ⟨thread, .read path, .ok bytes⟩ ∈ log)
      ((AssetOp.read path).call.orFail f) :=
  Finds.asked (fun _ => permits_inside rfl h) fun _ _ _ hr => by
    obtain rfl := hr
    exact List.mem_cons_self

theorem bundleOf_finds {storageKey : String} (hkey : isValidStorageKey storageKey = true)
    (items : List DirItem) :
    Finds thread (Permits lib tracksDir thread) (Complete tracksDir thread storageKey items)
      (bundleOf storageKey (joinName tracksDir storageKey) items) := by
  refine (Finds.ofExcept fun found hfound _ => hfound).after fun found hfound => ?_
  refine (Finds.ofExcept fun id hid _ => hid).after fun id hid => ?_
  have hfind : findInternalMapId none items = .ok (some id) := by
    cases found with
    | none => cases hid
    | some other =>
        obtain rfl := Except.ok.inj hid
        exact hfound
  have hinside := @inside_bundlePaths tracksDir _ _ _ _ hkey hfind rfl
  refine (allFiles_finds fun path hpath =>
    hinside path (List.mem_append_left [_, _] hpath)).bind fun complete log hcomplete => ?_
  cases complete with
  | false => trivial
  | true => exact ⟨List.suffix_refl log, id, hfind, rfl, hcomplete rfl⟩

theorem resolve_finds {storageKey : String} (hkey : isValidStorageKey storageKey = true) :
    Finds thread (Permits lib tracksDir thread)
      (Bundled tracksDir thread storageKey) (resolveOfficialBundlePaths tracksDir storageKey) := by
  have hdir : Inside tracksDir (joinName tracksDir storageKey) :=
    inside_join (plain_storageKey hkey)
  refine (metadata_finds hdir _).bind fun bundleMeta log _ => ?_
  split
  · exact (readDir_finds hdir _).keep (fun _ _ _ hlog h => hlog.subset h) (fun items _ _ =>
      (bundleOf_finds hkey items).mono fun _ _ hfound hitems => ⟨items, hitems, hfound⟩) log
  · trivial

theorem hash_finds {path : FsPath} (h : Inside tracksDir path) :
    Finds thread (Permits lib tracksDir thread)
      (fun hash log => ⟨thread, .hash path, hash⟩ ∈ log)
      (liftM (AssetOp.hash path).call : AssetCall (Option String)) := fun _ =>
  .call (permits_inside rfl h) fun _ => ⟨List.suffix_cons _ _, List.mem_cons_self⟩

theorem buildAssetMeta_finds {path : FsPath} (h : Inside tracksDir path) (kind : MapAssetKind) :
    Finds thread (Permits lib tracksDir thread) (AssetRead thread kind path)
      (buildAssetMeta kind path) := by
  refine (Finds.ofExcept fun contentType htype _ => htype).after fun contentType htype => ?_
  refine (metadata_finds h _).keep (fun _ _ _ hlog h => hlog.subset h) fun fsMeta _ _ => ?_
  refine (hash_finds h).bind fun hash log hhash => ?_
  cases hash with
  | none => trivial
  | some contentHash =>
      exact ⟨List.suffix_refl log, fun hmeta => ⟨rfl, htype, ⟨fsMeta.isDir, hmeta⟩, hhash⟩⟩

/-- A text that is read, and what it stands for. -/
theorem textRead_finds {α : Type} {path : FsPath} (h : Inside tracksDir path) (f : IoError → Status)
    (parse : String → Except Status α) :
    Finds thread (Permits lib tracksDir thread) (TextRead thread parse path)
      (do ExceptT.mk (pure (parse (← (AssetOp.readToString path).call.orFail f)))) :=
  (readToString_finds h f).keep (fun _ _ _ hlog h => hlog.subset h) fun raw _ _ =>
    Finds.ofExcept fun _ hparse _ hread => ⟨raw, hread, hparse⟩

theorem buildAnimationMeta_finds {path : FsPath} (h : Inside tracksDir path) :
    Finds thread (Permits lib tracksDir thread) (AnimationRead thread path)
      (buildAnimationMeta path) := by
  intro log
  refine Follows.call (permits_inside rfl h) fun answer => ?_
  cases answer with
  | ok _ =>
      have hfinds : Finds thread (Permits lib tracksDir thread) (AnimationRead thread path)
          (do pure (some (← buildAssetMeta .animationGlb path)) : AssetCall _) :=
        (buildAssetMeta_finds h .animationGlb).map fun _ _ hvalue => hvalue
      refine Follows.mono (hfinds _) fun r log' hr => ?_
      cases r with
      | ok value => exact ⟨(List.suffix_cons _ _).trans hr.1, hr.2⟩
      | error e => trivial
  | error e =>
      cases e with
      | notFound => exact ⟨List.suffix_cons _ _, List.mem_cons_self⟩
      | other => trivial

theorem buildBundle_finds {storageKey : String} {paths : MapBundlePaths} {items : List DirItem}
    {id : String} (hkey : isValidStorageKey storageKey = true)
    (hfind : findInternalMapId none items = .ok (some id))
    (hpaths : paths = bundlePaths storageKey id (joinName tracksDir storageKey)) (mapId : String) :
    Finds thread (Permits lib tracksDir thread) (Contents lib thread mapId paths)
      (buildBundle lib mapId paths) := by
  have hinside := inside_bundlePaths hkey hfind hpaths
  simp only [List.forall_mem_cons] at hinside
  obtain ⟨hmain, hsvg, hminimap, hmap, hanimation, -⟩ := hinside
  refine (buildAssetMeta_finds hmain .mainGlb).keep (fun _ _ _ hlog h => h.mono hlog.subset)
    fun mainGlb _ _ => ?_
  refine (buildAssetMeta_finds hsvg .minimapSvg).keep (fun _ _ _ hlog h => h.mono hlog.subset)
    fun minimapSvg _ _ => ?_
  refine Finds.keep (textRead_finds hminimap _ (parseMinimapMetadata lib))
    (fun _ _ _ hlog h => h.mono hlog.subset) fun minimapMetadata _ _ => ?_
  refine Finds.keep (textRead_finds hmap _ (parseMapMetadata lib mapId))
    (fun _ _ _ hlog h => h.mono hlog.subset) fun mapMetadata _ _ => ?_
  exact (buildAnimationMeta_finds hanimation).map fun animationGlb _ hanimationGlb hmapMetadata
    hminimapMetadata hminimapSvg hmainGlb => ⟨rfl, hmainGlb, hminimapSvg, hminimapMetadata,
      hmapMetadata, hanimationGlb⟩

/-- The bundle comes from the cache, or has been read. -/
def Got (lib : Libraries) (tracksDir : FsPath) (thread : ℕ) (mapId : String)
    (bundle : MapAssetBundleMeta) (log : AssetLog) : Prop :=
  BundleRead lib tracksDir thread mapId bundle log ∨ ∃ now, ⟨thread, .now, now⟩ ∈ log ∧
    (⟨thread, .cached mapId now, some bundle⟩ ∈ log ∨
      ⟨thread, .cachedOrRemove mapId now, some bundle⟩ ∈ log)

theorem permits_cache {log : AssetLog} {op : AssetOp} (hop : op.path? = none)
    (hstore : ∀ mapId bundle, op ≠ .store mapId bundle) :
    Permits lib tracksDir thread log op where
  inside path' hpath' := by
    rw [hop] at hpath'
    cases hpath'
  store mapId bundle heq := absurd heq (hstore mapId bundle)

theorem tryGetCached_finds (mapId : String) :
    Finds thread (Permits lib tracksDir thread)
      (fun found log => ∀ bundle, found = some bundle → Got lib tracksDir thread mapId bundle log)
      (liftM (tryGetCachedBundleMeta mapId) : AssetCall _) := by
  intro log
  apply Follows.lift
  refine .call (permits_cache rfl fun _ _ h => by cases h) fun now => ?_
  refine .call (permits_cache rfl fun _ _ h => by cases h) fun found => ?_
  have hgrow : log <:+ ⟨thread, .cached mapId now, found⟩ :: ⟨thread, .now, now⟩ :: log :=
    (List.suffix_cons _ _).trans (List.suffix_cons _ _)
  cases found with
  | some bundle =>
      refine ⟨hgrow, fun bundle' hbundle => Or.inr ⟨now, ?_, Or.inl ?_⟩⟩
      · exact List.mem_cons_of_mem _ List.mem_cons_self
      · obtain rfl := Option.some.inj hbundle
        exact List.mem_cons_self
  | none =>
      refine .call (permits_cache rfl fun _ _ h => by cases h) fun found => ?_
      refine ⟨hgrow.trans (List.suffix_cons _ _), fun bundle hbundle => Or.inr ⟨now, ?_, Or.inr ?_⟩⟩
      · exact List.mem_cons_of_mem _ (List.mem_cons_of_mem _ List.mem_cons_self)
      · obtain rfl := hbundle
        exact List.mem_cons_self

theorem readBundle_finds {mapId : String} (hkey : isValidStorageKey mapId = true) :
    Finds thread (Permits lib tracksDir thread) (BundleRead lib tracksDir thread mapId)
      (readBundle tracksDir lib mapId) := by
  refine (resolve_finds hkey).keep (fun _ _ _ hlog h => h.mono hlog.subset) fun paths _ hpaths => ?_
  obtain ⟨items, -, id, hfind, heq, -⟩ := hpaths
  exact (buildBundle_finds hkey hfind heq mapId).mono fun bundle log hcontents hbundled =>
    ⟨paths, hbundled, hcontents⟩

theorem getMapAssetBundleMeta_finds (rawMapId : String) :
    Finds thread (Permits lib tracksDir thread) (Got lib tracksDir thread (Text.trim rawMapId))
      (getMapAssetBundleMeta tracksDir lib rawMapId) := by
  refine (Finds.ofExcept fun mapId hmapId _ => validateRequestedMapId_ok hmapId).after ?_
  rintro _ ⟨rfl, -, hkey⟩
  refine (tryGetCached_finds _).bind fun found log hfound => ?_
  cases found with
  | some bundle => exact ⟨List.suffix_refl log, hfound bundle rfl⟩
  | none =>
      refine (readBundle_finds hkey).bind (fun bundle log hread => ?_) log
      have hpermits : Permits lib tracksDir thread log (.store (Text.trim rawMapId) bundle) := by
        refine ⟨fun path hpath => (by cases hpath), fun mapId bundle' heq => ?_⟩
        obtain ⟨rfl, rfl⟩ := AssetOp.store.inj heq
        exact hread
      exact .call hpermits fun _ =>
        ⟨List.suffix_cons _ _, Or.inl (hread.mono (List.subset_cons_self _ _))⟩

theorem getMapAssetSyncMeta_finds (rawMapId : String) :
    Finds thread (Permits lib tracksDir thread) (Synced tracksDir thread rawMapId)
      (getMapAssetSyncMeta tracksDir rawMapId) := by
  refine (Finds.ofExcept fun mapId hmapId _ => validateRequestedMapId_ok hmapId).after ?_
  rintro _ ⟨rfl, -, hkey⟩
  refine (resolve_finds hkey).keep (fun _ _ _ hlog h => h.mono hlog.subset) fun paths _ hpaths => ?_
  obtain ⟨items, -, id, hfind, heq, -⟩ := hpaths
  have hinside := inside_bundlePaths hkey hfind heq
  simp only [List.forall_mem_cons] at hinside
  obtain ⟨-, hsvg, hminimap, hmap, -⟩ := hinside
  refine Finds.keep (read_finds hsvg _) (fun _ _ _ hlog h => hlog.subset h)
    fun minimapSvg _ _ => ?_
  refine Finds.keep (read_finds hmap _) (fun _ _ _ hlog h => hlog.subset h) fun mapJson _ _ => ?_
  exact Finds.map (read_finds hminimap _) fun minimapJson _ hminimapJson hmapJson hminimapSvg
    hbundled => ⟨rfl, paths, hbundled, hminimapSvg, hmapJson, hminimapJson⟩

/-- What the kind of an asset can be resolved to are files of the bundle. -/
def Resolves (resolve : FsPath → String → Except Status FsPath) : Prop :=
  ∀ root id path, resolve root id = .ok path → path = resolveMainGlbPath root id ∨
    path = resolveAnimationGlbPath root id ∨ path = resolveMinimapSvgPath root id

theorem resolves_kind (kind : MapAssetKind) :
    Resolves fun root id => resolvePathForKind root id kind := by
  intro root id path h
  cases kind with
  | unspecified => cases h
  | mainGlb => exact Or.inl (Except.ok.inj h).symm
  | animationGlb => exact Or.inr (Or.inl (Except.ok.inj h).symm)
  | minimapSvg => exact Or.inr (Or.inr (Except.ok.inj h).symm)

theorem resolves_glbKind (kind : MapGlbKind) :
    Resolves fun root id => resolvePathForGlbKind root id kind := by
  intro root id path h
  cases kind with
  | unspecified => cases h
  | main => exact Or.inl (Except.ok.inj h).symm
  | animation => exact Or.inr (Or.inl (Except.ok.inj h).symm)

theorem Resolves.inside {resolve : FsPath → String → Except Status FsPath}
    (h : Resolves resolve) {storageKey id : String} {items : List DirItem} {path : FsPath}
    (hkey : isValidStorageKey storageKey = true)
    (hfind : findInternalMapId none items = .ok (some id))
    (hpath : resolve (joinName tracksDir storageKey) id = .ok path) : Inside tracksDir path := by
  have hid := findInternalMapId_chars (fun other hother => by cases hother) hfind
  have hjoin : ∀ ending : String, '/' ∉ ending.toList → 3 ≤ ending.toList.length →
      Inside tracksDir (joinName (joinName tracksDir storageKey) (id ++ ending)) :=
    fun ending hsep hlen => inside_join_join (plain_storageKey hkey) (plain_append hid hsep hlen)
  rcases h _ _ _ hpath with rfl | rfl | rfl
  · exact hjoin ".glb" (by decide) (by decide)
  · exact hjoin ".animation.glb" (by decide) (by decide)
  · exact hjoin ".minimap.svg" (by decide) (by decide)

theorem locateAsset_finds (rawMapId : String) {resolve : FsPath → String → Except Status FsPath}
    (hresolve : Resolves resolve) (missing : Status) :
    Finds thread (Permits lib tracksDir thread)
      (fun file => Located tracksDir thread rawMapId resolve file.1 file.2)
      (locateAsset tracksDir rawMapId resolve missing) := by
  refine (Finds.ofExcept fun mapId hmapId _ => validateRequestedMapId_ok hmapId).after ?_
  rintro _ ⟨rfl, -, hkey⟩
  refine (resolve_finds hkey).keep (fun _ _ _ hlog h => h.mono hlog.subset) fun paths _ hpaths => ?_
  obtain ⟨items, -, id, hfind, heq, -⟩ := hpaths
  refine (Finds.ofExcept fun path hpath _ => hpath).after fun path hpath => ?_
  have hmem : Inside tracksDir path := by
    subst heq
    dsimp only [bundlePaths] at hpath
    exact hresolve.inside hkey hfind hpath
  exact (metadata_finds hmem _).map fun fsMeta _ hmeta hbundled =>
    ⟨paths, fsMeta.isDir, hbundled, hpath, hmeta⟩

/-! ## Lists -/

section Lists

variable {onlyLocalMarked : Bool}

theorem skipping_finds {α : Type} {x : AssetCall α} {post : α → AssetLog → Prop}
    (h : Finds thread (Permits lib tracksDir thread) post x) :
    Finds thread (Permits lib tracksDir thread)
      (fun found log => ∀ a, found = some a → post a log) (skipping x) := by
  intro log
  refine Follows.andThen (Follows.grows (h log)) fun r log' hr => ?_
  cases r with
  | ok a =>
      refine ⟨hr.1, fun a' ha' => ?_⟩
      obtain rfl := Option.some.inj ha'
      exact hr.2.2
  | error status =>
      dsimp only
      split
      · exact ⟨hr.1, fun a ha => by cases ha⟩
      · trivial

theorem hasMarker_finds {paths : MapBundlePaths} (h : Inside tracksDir paths.localMarkerPath) :
    Finds thread (Permits lib tracksDir thread)
      (fun marked log => marked = true → onlyLocalMarked = true →
        ⟨thread, .isFile paths.localMarkerPath, true⟩ ∈ log)
      (liftM (hasMarker onlyLocalMarked paths) : AssetCall Bool) := by
  intro log
  apply Follows.lift
  cases onlyLocalMarked with
  | false => exact ⟨List.suffix_refl log, fun _ hfalse => by cases hfalse⟩
  | true =>
      refine .call (permits_inside rfl h) fun isFile => ⟨List.suffix_cons _ _, ?_⟩
      rintro rfl -
      exact List.mem_cons_self

theorem describeBundle_finds {paths : MapBundlePaths}
    (hmarker : Inside tracksDir paths.localMarkerPath)
    (hmap : Inside tracksDir paths.mapMetadataPath) :
    Finds thread (Permits lib tracksDir thread)
      (fun found log => ∀ entry, found = some entry →
        Bundled tracksDir thread paths.storageKey paths log →
        entry.mapId = paths.storageKey ∧ Listed lib tracksDir thread onlyLocalMarked entry log)
      (describeBundle lib onlyLocalMarked paths) := by
  refine (hasMarker_finds hmarker).keep (fun _ _ _ hlog h hmarked honly =>
    hlog.subset (h hmarked honly)) fun marked _ _ => ?_
  cases marked with
  | false => exact Finds.pure fun log _ entry hentry => by cases hentry
  | true =>
      refine (skipping_finds (textRead_finds hmap _ (parseMapMetadata lib paths.storageKey))).map
        fun found log hfound hmarked entry hentry hbundled => ?_
      obtain ⟨value, rfl, rfl⟩ := Option.map_eq_some_iff.mp hentry
      exact ⟨rfl, paths, hbundled, hmarked rfl, value, hfound value rfl, rfl⟩

/-- A bundle that belongs there, under the key it was looked up with. -/
theorem catalogEntry_finds {storageKey : String} (hkey : isValidStorageKey storageKey = true) :
    Finds thread (Permits lib tracksDir thread)
      (fun found log => ∀ entry, found = some entry → entry.mapId = storageKey ∧
        Listed lib tracksDir thread onlyLocalMarked entry log)
      (catalogEntry tracksDir lib onlyLocalMarked storageKey) := by
  refine (skipping_finds (resolve_finds hkey)).keep (fun _ _ _ hlog h paths hpaths =>
    (h paths hpaths).mono hlog.subset) fun found _ hfound => ?_
  cases found with
  | none => exact Finds.pure fun log _ entry hentry => by cases hentry
  | some paths =>
      obtain ⟨items, -, id, hfind, heq, -⟩ := hfound paths rfl
      have hinside := inside_bundlePaths hkey hfind heq
      simp only [List.forall_mem_cons] at hinside
      obtain ⟨-, -, -, hmap, -, hmarker, -⟩ := hinside
      have hkeyed : paths.storageKey = storageKey := by rw [heq, bundlePaths]
      refine (describeBundle_finds hmarker hmap).mono fun found log h hbundled entry hentry => ?_
      rw [hkeyed] at h
      exact h entry hentry (hbundled paths rfl)

/-- What the loop has listed, of the items it has come by. -/
def Collected (lib : Libraries) (tracksDir : FsPath) (thread : ℕ) (onlyLocalMarked : Bool)
    (items : List DirItem) (maps : List MapCatalogEntry) (log : AssetLog) : Prop :=
  (∀ entry ∈ maps, Listed lib tracksDir thread onlyLocalMarked entry log) ∧
    (maps.map (·.mapId)).Sublist (items.filterMap DirItem.storageKey)

theorem catalogEntries_finds (items : List DirItem) :
    Finds thread (Permits lib tracksDir thread)
      (Collected lib tracksDir thread onlyLocalMarked items)
      (catalogEntries tracksDir lib onlyLocalMarked items) := by
  induction items with
  | nil => exact Finds.pure fun log => ⟨fun entry hentry => (by cases hentry), List.Sublist.refl _⟩
  | cons item items ih =>
      have hpassed (hitem : item.storageKey = none) : Finds thread (Permits lib tracksDir thread)
          (Collected lib tracksDir thread onlyLocalMarked (item :: items))
          (catalogEntries tracksDir lib onlyLocalMarked items) := by
        refine ih.mono fun maps log h => ⟨h.1, ?_⟩
        rw [List.filterMap_cons_none hitem]
        exact h.2
      match item with
      | .failed => exact Finds.throw
      | .entry none _ => exact Finds.throw
      | .entry (some .file) _ => exact hpassed rfl
      | .entry (some .other) _ => exact hpassed rfl
      | .entry (some .dir) fileName =>
          rw [catalogEntries]
          cases hkey : storageKeyOf fileName with
          | none => exact hpassed hkey
          | some storageKey =>
              obtain ⟨_, -, -, hvalid⟩ := storageKeyOf_eq_some hkey
              refine (catalogEntry_finds hvalid).keep (fun _ _ _ hlog h entry hentry =>
                ⟨(h entry hentry).1, (h entry hentry).2.mono hlog.subset⟩) fun found _ _ => ?_
              have hitem : DirItem.storageKey (.entry (some .dir) fileName) = some storageKey :=
                hkey
              refine ih.map fun maps log h hfound => ?_
              unfold Collected
              rw [List.filterMap_cons_some hitem]
              cases found with
              | none => exact ⟨h.1, h.2.cons storageKey⟩
              | some entry =>
                  obtain ⟨hid, hlisted⟩ := hfound entry rfl
                  refine ⟨List.forall_mem_cons.mpr ⟨hlisted, h.1⟩, ?_⟩
                  rw [Option.toList_some, List.singleton_append, List.map_cons, hid]
                  exact h.2.cons_cons storageKey

theorem sortMaps_perm (maps : List MapCatalogEntry) : (sortMaps maps).Perm maps :=
  List.perm_insertionSort _ maps

theorem sortMaps_sorted (maps : List MapCatalogEntry) :
    (sortMaps maps).Pairwise fun a b => a.mapId ≤ b.mapId := by
  have : Std.Total fun a b : MapCatalogEntry => a.mapId ≤ b.mapId :=
    ⟨fun a b => String.le_total a.mapId b.mapId⟩
  have : IsTrans MapCatalogEntry fun a b => a.mapId ≤ b.mapId := ⟨fun _ _ _ => String.le_trans⟩
  exact List.pairwise_insertionSort _ maps

theorem Collected.sorted {items : List DirItem} {maps : List MapCatalogEntry} {log : AssetLog}
    (h : Collected lib tracksDir thread onlyLocalMarked items maps log)
    (hread : ⟨thread, .readDir tracksDir, .ok items⟩ ∈ log) :
    Catalogued lib tracksDir thread onlyLocalMarked (sortMaps maps) log := by
  refine ⟨sortMaps_sorted maps, fun entry hentry => h.1 entry ?_, items, hread, ?_⟩
  · exact (sortMaps_perm maps).subset hentry
  · exact ((sortMaps_perm maps).map _).subperm.trans h.2.subperm

theorem listOfficialMaps_finds :
    Finds thread (Permits lib tracksDir thread)
      (Catalogued lib tracksDir thread onlyLocalMarked)
      (listOfficialMaps tracksDir lib onlyLocalMarked) :=
  (readDir_finds (inside_self tracksDir) _).keep (fun _ _ _ hlog h => hlog.subset h)
    fun items _ _ => (catalogEntries_finds items).map fun _ _ h hread => h.sorted hread

end Lists

end Finding

/-! ## Requests at the same time -/

section Main

variable (lib : Libraries) (tracksDir : FsPath) (requests : ℕ → AssetRequest)

/-- What a request has found when it comes to a reply. -/
def Found (thread : ℕ) (log : AssetLog) : AssetRequest → AssetReply → Prop
  | .bundleMeta rawMapId, .bundle bundle =>
      Got lib tracksDir thread (Text.trim rawMapId) bundle log
  | request, reply => Vouched lib tracksDir thread log request reply

theorem answer_finds (thread : ℕ) (request : AssetRequest) :
    Finds thread (Permits lib tracksDir thread)
      (fun reply log => Found lib tracksDir thread log request reply)
      (request.answer tracksDir lib) := by
  cases request with
  | listMaps onlyLocalMarked => exact listOfficialMaps_finds.map fun _ _ h => h
  | bundleMeta rawMapId => exact (getMapAssetBundleMeta_finds rawMapId).map fun _ _ h => h
  | syncMeta rawMapId => exact (getMapAssetSyncMeta_finds rawMapId).map fun _ _ h => h
  | asset rawMapId kind =>
      exact (locateAsset_finds rawMapId (resolves_kind kind) _).map fun _ _ h => h
  | glb rawMapId kind =>
      exact (locateAsset_finds rawMapId (resolves_glbKind kind) _).map fun _ _ h => h

/-- The cache has what was stored last, which had been read; and what it has given
out was recent. -/
structure Sound (w : AssetWorld) : Prop where
  cached : ∀ mapId entry, w.shared.cache.lookup mapId = some entry →
    ∃ reader older,
      latest (stores mapId) w.log = some ((reader, entry.bundle, entry.cachedAt), older) ∧
      BundleRead lib tracksDir reader mapId entry.bundle older
  answered : ∀ e ∈ w.log, ∀ mapId now bundle, hit e = some (mapId, now, bundle) →
    When e (Recent lib tracksDir mapId now bundle) w.log

variable {lib tracksDir requests}

theorem young_eq_some {s : AssetState} {mapId : String} {now : ℕ} {bundle : MapAssetBundleMeta}
    (h : s.young mapId now = some bundle) : ∃ entry, s.cache.lookup mapId = some entry ∧
      entry.bundle = bundle ∧ now < entry.cachedAt + mapBundleMetaCacheTtlMs := by
  obtain ⟨entry, hentry, hbundle⟩ := Option.map_eq_some_iff.mp h
  obtain ⟨hlookup, hage⟩ := Option.filter_eq_some_iff.mp hentry
  have hlt := of_decide_eq_true hage
  have hpos : 0 < mapBundleMetaCacheTtlMs := by decide
  exact ⟨entry, hlookup, hbundle, by omega⟩

theorem cachedOrRemove_exec (s : AssetState) (mapId : String) (now : ℕ) (i : AssetInput) :
    (assetExec s (.cachedOrRemove mapId now) i).2 = s.young mapId now := by
  unfold assetExec
  cases hyoung : s.young mapId now with
  | some bundle => simp [hyoung]
  | none => simp [hyoung]

/-- A call gives out what is young in the cache. -/
theorem hit_exec {s : AssetState} {thread : ℕ} {op : AssetOp} {i : AssetInput} {mapId : String}
    {now : ℕ} {bundle : MapAssetBundleMeta}
    (h : hit ⟨thread, op, (assetExec s op i).2⟩ = some (mapId, now, bundle)) :
    s.young mapId now = some bundle := by
  have hyoung : ∀ mapId' now', (s.young mapId' now').map (fun b => (mapId', now', b)) =
      some (mapId, now, bundle) → s.young mapId now = some bundle := by
    intro mapId' now' heq
    obtain ⟨bundle', hbundle, hpair⟩ := Option.map_eq_some_iff.mp heq
    simp only [Prod.mk.injEq] at hpair
    obtain ⟨rfl, rfl, rfl⟩ := hpair
    exact hbundle
  cases op with
  | cached mapId' now' => exact hyoung mapId' now' h
  | cachedOrRemove mapId' now' =>
      rw [cachedOrRemove_exec] at h
      exact hyoung mapId' now' h
  | _ => cases h

/-- A call leaves the entries of the cache alone, or makes one of its own. -/
theorem lookup_exec {s : AssetState} {op : AssetOp} {i : AssetInput} {mapId : String}
    {entry : CachedMapBundleMeta} (h : (assetExec s op i).1.cache.lookup mapId = some entry)
    (thread : ℕ) :
    (s.cache.lookup mapId = some entry ∧ stores mapId ⟨thread, op, (assetExec s op i).2⟩ = none) ∨
      op = .store mapId entry.bundle ∧ stores mapId ⟨thread, op, (assetExec s op i).2⟩ =
        some (thread, entry.bundle, entry.cachedAt) := by
  cases op with
  | cachedOrRemove mapId' now' =>
      refine Or.inl ⟨?_, rfl⟩
      unfold assetExec at h
      dsimp only at h
      split at h
      · exact h
      · dsimp only at h
        rw [HashMap.lookup_erase_eq] at h
        split at h
        · cases h
        · exact h
  | store mapId' bundle =>
      unfold assetExec at h
      dsimp only at h
      rw [HashMap.lookup_insert_eq] at h
      split at h
      · rename_i heq
        subst heq
        obtain rfl := Option.some.inj h
        exact Or.inr ⟨rfl, if_pos rfl⟩
      · rename_i hne
        exact Or.inl ⟨h, if_neg fun heq => hne heq.symm⟩
  | _ => exact Or.inl ⟨h, rfl⟩

theorem Sound.perform {w : AssetWorld} (h : Sound lib tracksDir w) {thread : ℕ} {op : AssetOp}
    (hop : ∀ mapId bundle, op = .store mapId bundle →
      BundleRead lib tracksDir thread mapId bundle w.log) (i : AssetInput) :
    Sound lib tracksDir (w.perform assetExec thread op i) where
  cached mapId entry hentry := by
    rcases lookup_exec hentry thread with ⟨hold, hnone⟩ | ⟨rfl, hsome⟩
    · obtain ⟨reader, older, hlatest, hread⟩ := h.cached mapId entry hold
      exact ⟨reader, older, (latest_cons_of_none hnone).trans hlatest, hread⟩
    · exact ⟨thread, w.log, latest_cons_of_some hsome, hop mapId entry.bundle rfl⟩
  answered e he mapId now bundle hhit := by
    rcases List.mem_cons.mp he with rfl | he
    · obtain ⟨entry, hlookup, rfl, hlt⟩ := young_eq_some (hit_exec hhit)
      obtain ⟨reader, older, hlatest, hread⟩ := h.cached mapId entry hlookup
      exact .here ⟨reader, entry.cachedAt, older, hlatest, hread, hlt⟩
    · exact (h.answered e he mapId now bundle hhit).mono (List.suffix_cons _ _)

theorem Sound.initial (now : ℕ) : Sound lib tracksDir ⟨AssetState.initial now, []⟩ where
  cached mapId entry hentry := by
    rw [AssetState.initial, Finmap.lookup_empty] at hentry
    cases hentry
  answered e he := by cases he

/-- What a request has found by its own calls is in the log of all calls. -/
theorem Found.vouched {w : AssetWorld} {thread : ℕ} {request : AssetRequest} {reply : AssetReply}
    {own : AssetLog} (hfound : Found lib tracksDir thread own request reply)
    (h : Sound lib tracksDir w) (hown : own ⊆ w.log) :
    Vouched lib tracksDir thread w.log request reply := by
  cases request with
  | listMaps onlyLocalMarked =>
      cases reply with
      | maps maps =>
          obtain ⟨hsorted, hlisted, items, hread, hsub⟩ := hfound
          exact ⟨hsorted, fun entry hentry => (hlisted entry hentry).mono hown, items, hown hread,
            hsub⟩
      | _ => cases hfound
  | bundleMeta rawMapId =>
      cases reply with
      | bundle bundle =>
          rcases hfound with hread | ⟨now, hnow, hcached⟩
          · exact Or.inl (hread.mono hown)
          · refine Or.inr ?_
            rcases hcached with hcached | hcached
            · exact ⟨now, _, hown hnow, rfl, rfl, h.answered _ (hown hcached) _ now bundle rfl⟩
            · exact ⟨now, _, hown hnow, rfl, rfl, h.answered _ (hown hcached) _ now bundle rfl⟩
      | _ => cases hfound
  | syncMeta rawMapId =>
      cases reply with
      | sync value =>
          obtain ⟨hid, paths, hbundled, hsvg, hmap, hminimap⟩ := hfound
          exact ⟨hid, paths, hbundled.mono hown, hown hsvg, hown hmap, hown hminimap⟩
      | _ => cases hfound
  | asset rawMapId kind =>
      cases reply with
      | file path len =>
          obtain ⟨paths, isDir, hbundled, hpath, hmeta⟩ := hfound
          exact ⟨paths, isDir, hbundled.mono hown, hpath, hown hmeta⟩
      | _ => cases hfound
  | glb rawMapId kind =>
      cases reply with
      | file path len =>
          obtain ⟨paths, isDir, hbundled, hpath, hmeta⟩ := hfound
          exact ⟨paths, isDir, hbundled.mono hown, hpath, hown hmeta⟩
      | _ => cases hfound

/-- The service before its first request, at the time `now`. -/
abbrev startAssets (lib : Libraries) (tracksDir : FsPath) (requests : ℕ → AssetRequest)
    (now : ℕ) : AssetPool :=
  Pool.start (AssetState.initial now) fun thread => ((requests thread).answer tracksDir lib).run

abbrev assetRun (lib : Libraries) (tracksDir : FsPath) (requests : ℕ → AssetRequest) (now : ℕ)
    (events : List (ℕ × AssetInput)) (n : ℕ) : AssetPool :=
  stateAt (Pool.step assetExec) (startAssets lib tracksDir requests now) events n

/-- A permitted call of a thread is a sound one. -/
theorem Sound.kept {w : AssetWorld} (h : Sound lib tracksDir w) {thread : ℕ} {op : AssetOp}
    (hop : (Protocol.recording thread (Permits lib tracksDir thread)).permits
      ((Protocol.recording thread (Permits lib tracksDir thread)).stageOf thread w.log) op)
    (i : AssetInput) : Sound lib tracksDir (w.perform assetExec thread op i) := by
  rw [Protocol.stageOf_recording] at hop
  exact h.perform (fun mapId bundle heq =>
    (hop.store mapId bundle heq).mono (List.filter_subset_self _)) i

variable (lib tracksDir requests)

/-- However requests overlap and whatever the file system says, none of them leaves the
directory of the tracks, and what they reply has been read from its bundles. -/
theorem assets_vouched (now : ℕ) (events : List (ℕ × AssetInput)) :
    Along (Pool.Guarded fun _ _ op _ => ∀ path ∈ op.path?, Inside tracksDir path)
      (Pool.step assetExec) (startAssets lib tracksDir requests now) events ∧
    ∀ n thread reply,
      (assetRun lib tracksDir requests now events n).threads thread = .ret (.ok reply) →
        Vouched lib tracksDir thread (assetRun lib tracksDir requests now events n).world.log
          (requests thread) reply := by
  have hfollowed : (startAssets lib tracksDir requests now).FollowedBy
      (fun thread => Protocol.recording thread (Permits lib tracksDir thread)) fun _ _ => True :=
    Pool.start_recorded (fun thread => answer_finds lib tracksDir thread (requests thread)) _
  have hfree := Pool.along_free assetExec (startAssets lib tracksDir requests now) events
  have hkept (w : AssetWorld) (i : ℕ) (op : AssetOp) (input : AssetInput)
      (hw : Sound lib tracksDir w) (_ : True)
      (hop : (Protocol.recording i (Permits lib tracksDir i)).permits
        ((Protocol.recording i (Permits lib tracksDir i)).stageOf i w.log) op) :
      Sound lib tracksDir (w.perform assetExec i op input) := hw.kept hop input
  refine ⟨?_, fun n thread reply hreply => ?_⟩
  · exact hfollowed.along hkept (fun _ _ _ _ _ _ hop => hop.inside) (Sound.initial now) hfree
  · have hsound : Sound lib tracksDir (assetRun lib tracksDir requests now events n).world :=
      hfollowed.invariant hkept (Sound.initial now) hfree n
    have hfound : Found lib tracksDir thread _ (requests thread) reply :=
      Pool.found assetExec (fun thread => answer_finds lib tracksDir thread (requests thread)) rfl
        hreply
    exact hfound.vouched hsound (List.filter_subset_self _)

end Main

end HackArena.Services.AssetCatalog
