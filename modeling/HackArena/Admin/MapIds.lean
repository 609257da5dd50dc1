import HackArena.Admin.SandboxAdmin
import HackArena.Lib.TextParts
import HackArena.Local.MapAssets
import HackArena.Local.SandboxConfigMappers

/-!
# Map ids on their way to the engine

The id of a map is checked where a configuration is accepted, where the
map is asked for, and by the engine worker. All but the worker remove the
white space around it first, and the configurations keep it as it was
given.
-/

namespace HackArena.Admin

open HackArena.Local.MapAssets HackArena.Local.SandboxConfig HackArena.Runtime HackArena.Services

/-! ## What the validators accept -/

/-- A text with at least one character, and only with characters of a kind. -/
def IsId (p : Char → Bool) (mapId : String) : Prop :=
  mapId.toList ≠ [] ∧ ∀ c ∈ mapId.toList, p c = true

def isInternalChar (c : Char) : Bool := Text.isAsciiAlphanumeric c || c == '-' || c == '_'

/-- The characters that the worker of a build accepts. -/
def isEngineChar : Build → Char → Bool
  | .official | .standalone => Text.isAsciiAlphanumeric
  | .local => isInternalChar

theorem isWhitespace_of_isInternalChar {c : Char} (h : isInternalChar c = true) :
    Text.isWhitespace c = false := by
  rw [Bool.eq_false_iff]
  intro hblank
  have hends := Text.bounds_of_isWhitespace hblank
  simp only [isInternalChar, Bool.or_eq_true, beq_iff_eq] at h
  rcases h with (halphanumeric | rfl) | rfl
  · have hletter := Text.bounds_of_isAsciiAlphanumeric halphanumeric
    omega
  · exact absurd hends (by decide)
  · exact absurd hends (by decide)

theorem isInternalChar_of_isEngineChar {b : Build} {c : Char} (h : isEngineChar b c = true) :
    isInternalChar c = true := by
  cases b with
  | «local» => exact h
  | official | standalone =>
      rw [isEngineChar] at h
      rw [isInternalChar, h]
      rfl

theorem IsId.mono {p q : Char → Bool} {mapId : String} (h : IsId p mapId)
    (hpq : ∀ c, p c = true → q c = true) : IsId q mapId :=
  ⟨h.1, fun c hc => hpq c (h.2 c hc)⟩

/-- An id has no white space that could be removed. -/
theorem IsId.trim_eq {mapId : String} (h : IsId isInternalChar mapId) : Text.trim mapId = mapId := by
  rw [Text.trim, Text.trimChars_of_forall fun c hc => isWhitespace_of_isInternalChar (h.2 c hc),
    String.ofList_toList]

theorem ok_iff_all {ε : Type} (p : Char → Bool) (chars : List Char) (err : ε) :
    (if chars.all p then .ok () else .error err : Except ε Unit) = .ok () ↔
      ∀ c ∈ chars, p c = true := by
  by_cases hall : chars.all p = true
  · exact iff_of_true (if_pos hall) (List.all_eq_true.mp hall)
  · rw [if_neg hall]
    exact iff_of_false (fun h => by cases h) fun h => hall (List.all_eq_true.mpr h)

theorem isBlank_iff {mapId : String} : Text.isBlank mapId = true ↔ (Text.trim mapId).toList = [] := by
  rw [Text.isBlank, Text.trim, String.toList_ofList, List.isEmpty_iff]

theorem validateMapId_ok_iff {b : Build} {mapId : String} :
    validateMapId b mapId = .ok () ↔ IsId (isEngineChar b) mapId := by
  by_cases hblank : Text.isBlank mapId = true
  · unfold validateMapId
    rw [if_pos hblank]
    refine iff_of_false (fun h => by cases h) fun h => h.1 ?_
    have htrim := (h.mono fun _ => isInternalChar_of_isEngineChar).trim_eq
    rw [← htrim]
    exact isBlank_iff.mp hblank
  · unfold validateMapId
    rw [if_neg hblank]
    have hne : mapId.toList ≠ [] := by
      intro hnil
      rw [Text.isBlank, hnil] at hblank
      exact hblank rfl
    rw [IsId, and_iff_right hne]
    cases b <;> exact ok_iff_all _ _ _

theorem sanitizeMapId_ok_iff {raw mapId : String} :
    sanitizeMapId raw = .ok mapId ↔ mapId = Text.trim raw ∧ IsId isInternalChar (Text.trim raw) := by
  have htrim : Text.trim raw = String.ofList (Text.trimChars raw.toList) := rfl
  rw [htrim, IsId, String.toList_ofList]
  unfold sanitizeMapId
  dsimp only
  split
  · rename_i hnil
    exact iff_of_false (fun h => by cases h) fun h => h.2.1 hnil
  · rename_i hne
    split
    · rename_i hall
      rw [and_iff_left ⟨hne, List.all_eq_true.mp hall⟩, Except.ok.injEq]
      exact eq_comm
    · rename_i hall
      exact iff_of_false (fun h => by cases h) fun h => hall (List.all_eq_true.mpr h.2.2)

theorem validateConfigMapId_ok_iff {mapId : String} :
    validateConfigMapId mapId = .ok () ↔ IsId isInternalChar (Text.trim mapId) := by
  unfold validateConfigMapId
  dsimp only
  by_cases hnil : (Text.trim mapId).toList = []
  · rw [if_pos hnil]
    exact iff_of_false (fun h => by cases h) fun h => h.1 hnil
  · rw [if_neg hnil, IsId, and_iff_right hnil]
    exact ok_iff_all _ _ _

/-- The check of the asset service, which answers with the id it found. -/
def validateRequestedMapId (b : Build) (rawMapId : String) : Except Status String :=
  let mapId := Text.trim rawMapId
  if mapId.toList = [] then .error ⟨.invalidArgument, "map_id is required"⟩
  else match b with
    | .official | .standalone =>
        if mapId.toList.all Text.isAsciiAlphanumeric then .ok mapId
        else .error ⟨.invalidArgument, "map_id(storage_key) must be alphanumeric"⟩
    | .local =>
        if mapId.toList.all isInternalChar then .ok mapId
        else .error ⟨.invalidArgument, "invalid internal map id"⟩

/-- An id that the worker accepts is accepted as it is by everyone else. -/
theorem accepted_of_validateMapId {b : Build} {mapId : String} (h : validateMapId b mapId = .ok ()) :
    Text.trim mapId = mapId ∧ sanitizeMapId mapId = .ok mapId ∧
      validateConfigMapId mapId = .ok () ∧ validateRequestedMapId b mapId = .ok mapId := by
  have hid := validateMapId_ok_iff.mp h
  have hinternal := hid.mono fun _ => isInternalChar_of_isEngineChar
  have htrim := hinternal.trim_eq
  refine ⟨htrim, sanitizeMapId_ok_iff.mpr ?_, validateConfigMapId_ok_iff.mpr ?_, ?_⟩
  · exact ⟨htrim.symm, htrim.symm ▸ hinternal⟩
  · exact htrim.symm ▸ hinternal
  · have hall := List.all_eq_true.mpr hid.2
    unfold validateRequestedMapId
    dsimp only
    rw [htrim, if_neg hid.1]
    cases b <;> exact if_pos hall

/-! ## What the configurations keep -/

theorem isId_of_validateLocal {b : Build} {input : LocalSandboxConfigInputRecord}
    (h : validateLocalSandboxConfigInput b input = .ok ()) :
    IsId (isMapIdChar b) (Text.trim input.mapId) := by
  unfold validateLocalSandboxConfigInput at h
  obtain ⟨-, h⟩ := require_bind_eq_ok.mp h
  obtain ⟨-, h⟩ := require_bind_eq_ok.mp h
  obtain ⟨hne, h⟩ := require_bind_eq_ok.mp h
  obtain ⟨hall, -⟩ := require_bind_eq_ok.mp h
  refine ⟨fun hnil => ?_, List.all_eq_true.mp hall⟩
  rw [hnil] at hne
  cases hne

/-- The record has the id of the message, which has been checked without the
white space around it. -/
theorem localSandboxInput_mapId {b : Build} {input : LocalSandboxConfigInput}
    {record : LocalSandboxConfigInputRecord}
    (h : localSandboxInputFromProto b input = .ok record) :
    record.mapId = input.mapId ∧ IsId (isMapIdChar b) (Text.trim input.mapId) := by
  unfold localSandboxInputFromProto at h
  obtain ⟨_, -, h⟩ := Except.bind_eq_ok.mp h
  obtain ⟨timeOfDay, -, h⟩ := Except.bind_eq_ok.mp h
  obtain ⟨_, -, h⟩ := Except.bind_eq_ok.mp h
  obtain ⟨weather, -, h⟩ := Except.bind_eq_ok.mp h
  obtain ⟨spawnMode, -, h⟩ := Except.bind_eq_ok.mp h
  obtain ⟨ghostMode, -, h⟩ := Except.bind_eq_ok.mp h
  obtain ⟨_, hvalid, h⟩ := Except.bind_eq_ok.mp h
  obtain rfl := Except.ok.inj h
  have hid := isId_of_validateLocal hvalid
  exact ⟨rfl, hid⟩

theorem sandboxInput_mapId {input : ProtoSandboxConfigInput} {record : SandboxConfigInputRecord}
    (h : sandboxInputFromProto input = .ok record) :
    record.mapId = input.mapId ∧ IsId isInternalChar (Text.trim input.mapId) := by
  unfold sandboxInputFromProto at h
  obtain ⟨timeOfDayPreset, -, h⟩ := Except.bind_eq_ok.mp h
  obtain ⟨ghostMode, -, h⟩ := Except.bind_eq_ok.mp h
  obtain ⟨_, hvalid, h⟩ := Except.bind_eq_ok.mp h
  obtain ⟨_, -, hmapId⟩ := Except.bind_eq_ok.mp hvalid
  obtain rfl := Except.ok.inj h
  exact ⟨rfl, validateConfigMapId_ok_iff.mp hmapId⟩

/-- The file from which the worker of a local backend builds a world. -/
def localTrackGlb (localTracksCacheDir mapId : String) : String :=
  localTracksCacheDir ++ "/" ++ (mapId ++ ".glb")

/-- The id can be activated: the worker takes it as it is, and the copy of
the map that is made for it is the file that the worker reads. -/
structure Activates (b : Build) (mapId : String) : Prop where
  accepted : validateMapId b mapId = .ok ()
  fetched : ∃ fetched, sanitizeMapId mapId = .ok fetched ∧
    ∀ cacheDir, (asset fetched .mainGlb).path cacheDir = localTrackGlb cacheDir mapId

theorem activates_iff {b : Build} {mapId : String} :
    Activates b mapId ↔ validateMapId b mapId = .ok () := by
  refine ⟨fun h => h.accepted, fun h => ⟨h, mapId, ?_, fun cacheDir => rfl⟩⟩
  exact (accepted_of_validateMapId h).2.1

theorem isEngineChar_of_isMapIdChar {b : Build} (hb : b.isLocal = true) {c : Char}
    (h : isMapIdChar b c = true) : isEngineChar b c = true := by
  cases b with
  | official => cases hb
  | «local» | standalone => exact h

theorem isAsciiAlphanumeric_of_isInternalChar {c : Char} (h : isInternalChar c = true)
    (hdash : c ≠ '-') (hunderscore : c ≠ '_') : Text.isAsciiAlphanumeric c = true := by
  simp only [isInternalChar, Bool.or_eq_true, beq_iff_eq] at h
  rcases h with (halphanumeric | hdash') | hunderscore'
  · exact halphanumeric
  · exact absurd hdash' hdash
  · exact absurd hunderscore' hunderscore

theorem local_activates_iff {b : Build} (hb : b.isLocal = true) {input : LocalSandboxConfigInput}
    {record : LocalSandboxConfigInputRecord}
    (h : localSandboxInputFromProto b input = .ok record) :
    Activates b record.mapId ↔ Text.trim input.mapId = input.mapId := by
  obtain ⟨hmapId, hid⟩ := localSandboxInput_mapId h
  rw [activates_iff, hmapId]
  refine ⟨fun haccepted => (accepted_of_validateMapId haccepted).1, fun htrim => ?_⟩
  rw [htrim] at hid
  exact validateMapId_ok_iff.mpr (hid.mono fun _ => isEngineChar_of_isMapIdChar hb)

theorem official_accepts_iff {input : ProtoSandboxConfigInput} {record : SandboxConfigInputRecord}
    (h : sandboxInputFromProto input = .ok record) :
    validateMapId .official record.mapId = .ok () ↔
      Text.trim input.mapId = input.mapId ∧ '-' ∉ input.mapId.toList ∧ '_' ∉ input.mapId.toList := by
  obtain ⟨hmapId, hid⟩ := sandboxInput_mapId h
  rw [hmapId]
  constructor
  · intro haccepted
    have hengine := validateMapId_ok_iff.mp haccepted
    refine ⟨(accepted_of_validateMapId haccepted).1, fun hdash => ?_, fun hunderscore => ?_⟩
    · exact absurd (hengine.2 _ hdash) (by decide)
    · exact absurd (hengine.2 _ hunderscore) (by decide)
  · rintro ⟨htrim, hdash, hunderscore⟩
    rw [htrim] at hid
    refine validateMapId_ok_iff.mpr ⟨hid.1, fun c hc => ?_⟩
    exact isAsciiAlphanumeric_of_isInternalChar (hid.2 c hc) (fun hc' => hdash (hc' ▸ hc))
      fun hc' => hunderscore (hc' ▸ hc)

/-- Which ids of accepted configurations can be activated: locally those
without white space around them, and on the official backend those of them
that also have neither a dash nor an underscore. -/
theorem accepted_configs_activate_iff (b : Build) (localInput : LocalSandboxConfigInput)
    (localRecord : LocalSandboxConfigInputRecord) (input : ProtoSandboxConfigInput)
    (record : SandboxConfigInputRecord) :
    (b.isLocal = true → localSandboxInputFromProto b localInput = .ok localRecord →
      (Activates b localRecord.mapId ↔ Text.trim localInput.mapId = localInput.mapId)) ∧
    (sandboxInputFromProto input = .ok record →
      (validateMapId .official record.mapId = .ok () ↔
        Text.trim input.mapId = input.mapId ∧
          '-' ∉ input.mapId.toList ∧ '_' ∉ input.mapId.toList)) :=
  ⟨fun hb h => local_activates_iff hb h, fun h => official_accepts_iff h⟩

def localConfig (mapId : String) : LocalSandboxConfigInput :=
  ⟨"box", mapId, some ⟨some .fixedPreset, some .noon⟩, none, some ⟨some .clear, 20⟩,
    some .startLine⟩

def localRecord (mapId : String) : LocalSandboxConfigInputRecord :=
  ⟨"box", mapId, ⟨.fixedPreset, .noon⟩, none, ⟨.clear, 20⟩, .startLine⟩

def officialConfig (mapId : String) : ProtoSandboxConfigInput := ⟨"box", mapId, some .noon, none⟩

theorem accepted_configs_activate_plain :
    Activates .local "map-1" ∧ validateMapId .official "map1" = .ok () := by
  have hlocal : localSandboxInputFromProto .local (localConfig "map-1") =
      .ok (localRecord "map-1") := by decide +kernel
  have hofficial : sandboxInputFromProto (officialConfig "map1") =
      .ok ⟨"box", "map1", .noon, none⟩ := by decide +kernel
  have hactivate := accepted_configs_activate_iff .local (localConfig "map-1")
    (localRecord "map-1") (officialConfig "map1") ⟨"box", "map1", .noon, none⟩
  exact ⟨(hactivate.1 rfl hlocal).mpr (by decide +kernel),
    (hactivate.2 hofficial).mpr (by decide +kernel)⟩

/-- White space around an id is overlooked when the configuration is
accepted, and a dash is accepted on the official backend. -/
theorem accepted_configs_stuck :
    (localSandboxInputFromProto .local (localConfig " map") = .ok (localRecord " map") ∧
      validateMapId .local " map" = .error (.invalidArgument "map_id contains invalid characters")) ∧
    (sandboxInputFromProto (officialConfig "map-1") = .ok ⟨"box", "map-1", .noon, none⟩ ∧
      validateMapId .official "map-1" =
        .error (.invalidArgument "map_id(storage_key) must be alphanumeric")) := by
  decide +kernel

end HackArena.Admin
