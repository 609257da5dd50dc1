import HackArena.Lib.TextParts
import HackArena.Official.SubmissionBuilds
import HackArena.Official.TeamStorage

/-!
# References to images

The image of a submission is pushed under a reference that is made of the
registry, the team and the submission. The clean-up takes the reference apart
again and asks the registry's host to delete the image.
-/

namespace HackArena.Official

/-! ## Reading a reference -/

structure ParsedImageRef where
  registryHost : String
  repository : String
  tag : String
  deriving DecidableEq, Repr

/-- One scheme in front is left out. -/
def normalized (cs : List Char) : List Char :=
  ((cs.dropPrefix? "http://".toList).or (cs.dropPrefix? "https://".toList)).getD cs

def parseImageRef (imageRef : String) : Except String ParsedImageRef :=
  let trimmed := Text.trimChars imageRef.toList
  if trimmed.isEmpty then .error "image_ref is empty"
  else
    match Text.splitOnce '/' (normalized trimmed) with
    | none => .error "image_ref must contain registry host and repository"
    | some (registryHost, repositoryWithTag) =>
      if (Text.trimChars registryHost).isEmpty then .error "image_ref registry host is empty"
      else
        match Text.rsplitOnce ':' repositoryWithTag with
        | none => .error "image_ref must contain tag"
        | some (repository, tag) =>
          if (Text.trimChars repository).isEmpty then .error "image_ref repository is empty"
          else if (Text.trimChars tag).isEmpty then .error "image_ref tag is empty"
          else .ok ⟨String.ofList (Text.trimChars registryHost),
            String.ofList (Text.trimChars repository), String.ofList (Text.trimChars tag)⟩

def registryApiBaseUrl (registryHost : String) : Except String String :=
  let trimmed := (Text.trimChars registryHost.toList).rdropWhile (· == '/')
  if trimmed.isEmpty then .error "registry host is empty"
  else if "http://".toList.isPrefixOf trimmed || "https://".toList.isPrefixOf trimmed then
    .ok (String.ofList trimmed)
  else .ok ("http://" ++ String.ofList trimmed)

/-- The address at which `delete_registry_image_by_ref` asks for the
image. -/
def manifestUrl (imageRef : String) : Except String String := do
  let parsed ← parseImageRef imageRef
  let registryBaseUrl ← registryApiBaseUrl parsed.registryHost
  return registryBaseUrl ++ "/v2/" ++ parsed.repository ++ "/manifests/" ++ parsed.tag

/-! ## The registry -/

/-- The host of a registry, with its port. -/
def registryHost (registry : String) : String :=
  String.ofList ((normalized registry.toList).takeWhile (· != '/'))

/-- What follows the host and one slash, without the slashes at the end. -/
def registryPath (registry : String) : String :=
  String.ofList (((normalized registry.toList).dropWhile (· != '/')).tail.rdropWhile (· == '/'))

def teamRepository (registry team : String) : String :=
  if registryPath registry = "" then "ha3/team-" ++ team
  else registryPath registry ++ "/ha3/team-" ++ team

section Registry

variable {r pre s t : List Char}

/-- The slash that follows a registry completes no scheme. -/
theorem dropPrefix_followed (hpre : pre = "http://".toList ∨ pre = "https://".toList)
    (hr : r.dropPrefix? pre = none) :
    (r.rdropWhile (· == '/') ++ '/' :: 'h' :: t).dropPrefix? pre = none := by
  rw [Text.dropPrefix_eq_none_iff] at hr ⊢
  intro hprefix
  have hkept : r.rdropWhile (· == '/') <+: r := List.rdropWhile_prefix ..
  rcases List.prefix_or_prefix_of_prefix hprefix (List.prefix_append _ _) with hle | hle
  · exact hr (hle.trans hkept)
  · have hlast := List.rdropWhile_last_not (· == '/') r
    generalize r.rdropWhile (· == '/') = kept at *
    have hhttp : "http://".toList = ['h', 't', 't', 'p', ':', '/', '/'] := by decide
    have hhttps : "https://".toList = ['h', 't', 't', 'p', 's', ':', '/', '/'] := by decide
    rw [← List.mem_inits] at hle
    rcases hpre with rfl | rfl
    · rw [hhttp] at hprefix hle
      simp only [List.inits, List.map_cons, List.map_nil, List.mem_cons, List.not_mem_nil,
        or_false] at hle
      rcases hle with rfl | rfl | rfl | rfl | rfl | rfl | rfl | rfl <;> simp at hprefix hlast
    · rw [hhttps] at hprefix hle
      simp only [List.inits, List.map_cons, List.map_nil, List.mem_cons, List.not_mem_nil,
        or_false] at hle
      rcases hle with rfl | rfl | rfl | rfl | rfl | rfl | rfl | rfl | rfl <;> simp at hprefix hlast

theorem normalized_append (cs : List Char) :
    normalized ("http://".toList ++ cs) = cs ∧ normalized ("https://".toList ++ cs) = cs := by
  constructor
  · rw [normalized, Text.dropPrefix_eq_some_iff.mpr rfl]
    rfl
  · have hnone : ("https://".toList ++ cs).dropPrefix? "http://".toList = none :=
      Text.dropPrefix_eq_none_iff.mpr (by simp)
    rw [normalized, hnone, Text.dropPrefix_eq_some_iff.mpr rfl]
    rfl

theorem rdropWhile_ne_nil_of_takeWhile (h : r.takeWhile (· != '/') ≠ []) :
    r.rdropWhile (· == '/') ≠ [] := by
  rw [Ne, List.rdropWhile_eq_nil_iff]
  intro hall
  obtain ⟨c, hc⟩ := List.exists_mem_of_ne_nil _ h
  have hne := List.mem_takeWhile_imp hc
  rw [bne, hall c (List.takeWhile_subset _ hc)] at hne
  exact absurd hne (by decide)

theorem normalized_followed (hhost : (normalized r).takeWhile (· != '/') ≠ []) :
    normalized (r.rdropWhile (· == '/') ++ '/' :: 'h' :: t) =
      (normalized r).rdropWhile (· == '/') ++ '/' :: 'h' :: t := by
  have hcut := rdropWhile_ne_nil_of_takeWhile hhost
  cases hhttp : r.dropPrefix? "http://".toList with
  | some s =>
    obtain rfl := Text.dropPrefix_eq_some_iff.mp hhttp
    rw [(normalized_append s).1] at hcut ⊢
    rw [Text.rdropWhile_append_of_ne_nil hcut, List.append_assoc, (normalized_append _).1]
  | none =>
    cases hhttps : r.dropPrefix? "https://".toList with
    | some s =>
      obtain rfl := Text.dropPrefix_eq_some_iff.mp hhttps
      rw [(normalized_append s).2] at hcut ⊢
      rw [Text.rdropWhile_append_of_ne_nil hcut, List.append_assoc, (normalized_append _).2]
    | none =>
      have hsame : normalized r = r := by
        rw [normalized, hhttp, hhttps]
        rfl
      rw [hsame, normalized, dropPrefix_followed (.inl rfl) hhttp,
        dropPrefix_followed (.inr rfl) hhttps]
      rfl

/-- Behind the host there is the path of the registry, if it has one. -/
theorem rdropWhile_append_slash :
    r.rdropWhile (· == '/') ++ '/' :: t =
      r.takeWhile (· != '/') ++ '/' ::
        (if (r.dropWhile (· != '/')).tail.rdropWhile (· == '/') = [] then t
          else (r.dropWhile (· != '/')).tail.rdropWhile (· == '/') ++ '/' :: t) := by
  have hall : ∀ c ∈ r.takeWhile (· != '/'), (c == '/') = false := fun c hc => by
    simpa using List.mem_takeWhile_imp hc
  have hkept : (r.takeWhile (· != '/')).rdropWhile (· == '/') = r.takeWhile (· != '/') :=
    List.rdropWhile_eq_self_iff.mpr fun hne => by simp [hall _ (List.getLast_mem hne)]
  have hparts : r = r.takeWhile (· != '/') ++ r.dropWhile (· != '/') :=
    List.takeWhile_append_dropWhile.symm
  cases hrest : r.dropWhile (· != '/') with
  | nil =>
    rw [hrest, List.append_nil] at hparts
    conv_lhs => rw [hparts, hkept]
    simp
  | cons c path =>
    obtain rfl : c = '/' := by
      have hhead := List.head_dropWhile_not (· != '/') (l := r) (by simp [hrest])
      simpa [hrest] using hhead
    rw [hrest] at hparts
    rw [List.tail_cons]
    split
    · rename_i hslashes
      have hslash : ∀ d ∈ '/' :: path, d == '/' := by
        simpa using hslashes
      conv_lhs => rw [hparts, Text.rdropWhile_append_of_forall hslash, hkept]
    · rename_i hpath
      have hcut : r.rdropWhile (· == '/') =
          r.takeWhile (· != '/') ++ '/' :: path.rdropWhile (· == '/') := by
        conv_lhs => rw [hparts]
        rw [List.append_cons, Text.rdropWhile_append_of_ne_nil hpath, ← List.append_cons]
      rw [hcut, List.append_assoc, List.cons_append]

/-- The reference without its scheme: the host, and behind the first slash the
rest, below the path of the registry. -/
theorem normalized_image (hhost : (normalized r).takeWhile (· != '/') ≠ [])
    (ht : t.head? = some 'h') :
    normalized (r.rdropWhile (· == '/') ++ '/' :: t) =
      (normalized r).takeWhile (· != '/') ++ '/' ::
        (if ((normalized r).dropWhile (· != '/')).tail.rdropWhile (· == '/') = [] then t
          else ((normalized r).dropWhile (· != '/')).tail.rdropWhile (· == '/') ++ '/' :: t) := by
  obtain ⟨u, rfl⟩ := List.head?_eq_some_iff.mp ht
  rw [normalized_followed hhost, rdropWhile_append_slash]

theorem normalized_subset (cs : List Char) : normalized cs ⊆ cs := by
  have hdrop : ∀ pre s, cs.dropPrefix? pre = some s → s ⊆ cs := by
    intro pre s hs
    rw [Text.dropPrefix_eq_some_iff.mp hs]
    exact List.subset_append_right ..
  rw [normalized]
  cases hhttp : cs.dropPrefix? "http://".toList with
  | some s => exact hdrop _ s hhttp
  | none =>
    cases hhttps : cs.dropPrefix? "https://".toList with
    | some s => exact hdrop _ s hhttps
    | none => exact List.Subset.refl cs

end Registry

/-! ## The round trip -/

theorem parseImageRef_ok {imageRef : String} {host repository tag : List Char}
    (hblank : ∀ c ∈ imageRef.toList, Text.isWhitespace c = false)
    (himage : normalized imageRef.toList = host ++ '/' :: (repository ++ ':' :: tag))
    (hslash : '/' ∉ host) (hcolon : ':' ∉ tag) (hhost : host ≠ []) (hrepository : repository ≠ [])
    (htag : tag ≠ []) :
    parseImageRef imageRef =
      .ok ⟨String.ofList host, String.ofList repository, String.ofList tag⟩ := by
  have hpart : ∀ part : List Char, part ⊆ host ++ '/' :: (repository ++ ':' :: tag) →
      Text.trimChars part = part := fun part hsub =>
    Text.trimChars_of_forall fun c hc => hblank c (normalized_subset _ (himage ▸ hsub hc))
  have hne : imageRef.toList ≠ [] := by
    intro hnil
    have hnothing : normalized [] = [] := by decide
    rw [hnil, hnothing] at himage
    simp at himage
  have hhost' : Text.trimChars host = host := hpart host fun c hc => by simp [hc]
  have hrepository' : Text.trimChars repository = repository :=
    hpart repository fun c hc => by simp [hc]
  have htag' : Text.trimChars tag = tag := hpart tag fun c hc => by simp [hc]
  simp only [parseImageRef, Text.trimChars_of_forall hblank, himage, Text.splitOnce_append hslash,
    Text.rsplitOnce_append hcolon, hhost', hrepository', htag', List.isEmpty_iff, hne, hhost,
    hrepository, htag, if_false]

section RoundTrip

variable {registry teamId submissionId team submission : String}

theorem formatImageRef_eq (hblank : ∀ c ∈ registry.toList, Text.isWhitespace c = false)
    (hhost : registryHost registry ≠ "") (hteam : sanitizeTagComponent teamId = .ok team)
    (hsubmission : sanitizeTagComponent submissionId = .ok submission) :
    formatImageRef registry teamId submissionId =
      .ok (String.ofList (registry.toList.rdropWhile (· == '/')) ++ "/ha3/team-" ++ team ++
        ":submission-" ++ submission) := by
  have hkept : registry.toList.rdropWhile (· == '/') ≠ [] := by
    intro hnil
    have hslashes := List.rdropWhile_eq_nil_iff.mp hnil
    refine rdropWhile_ne_nil_of_takeWhile (r := normalized registry.toList) ?_
      (List.rdropWhile_eq_nil_iff.mpr fun c hc => hslashes c (normalized_subset _ hc))
    simpa [registryHost] using hhost
  unfold formatImageRef
  rw [Text.trimChars_of_forall hblank, hteam, hsubmission]
  simp [hkept]
  rfl

theorem teamRepository_toList :
    (teamRepository registry team).toList =
      if (registryPath registry).toList = [] then "ha3/team-".toList ++ team.toList
      else (registryPath registry).toList ++ '/' :: ("ha3/team-".toList ++ team.toList) := by
  by_cases hpath : registryPath registry = ""
  · rw [teamRepository, if_pos hpath, hpath]
    simp
  · rw [teamRepository, if_neg hpath, if_neg (by simpa using hpath)]
    simp

theorem parseImageRef_formatted (hblank : ∀ c ∈ registry.toList, Text.isWhitespace c = false)
    (hhost : registryHost registry ≠ "") (hteam : sanitizeTagComponent teamId = .ok team)
    (hsubmission : sanitizeTagComponent submissionId = .ok submission) :
    parseImageRef (String.ofList (registry.toList.rdropWhile (· == '/')) ++ "/ha3/team-" ++ team ++
        ":submission-" ++ submission) =
      .ok ⟨registryHost registry, teamRepository registry team, "submission-" ++ submission⟩ := by
  obtain ⟨-, -, hteam'⟩ := sanitizeTagComponent_ok hteam
  obtain ⟨-, -, hsubmission'⟩ := sanitizeTagComponent_ok hsubmission
  have hhost' : (normalized registry.toList).takeWhile (· != '/') ≠ [] := by
    simpa [registryHost] using hhost
  have himage : (String.ofList (registry.toList.rdropWhile (· == '/')) ++ "/ha3/team-" ++ team ++
      ":submission-" ++ submission).toList =
      registry.toList.rdropWhile (· == '/') ++ '/' ::
        ("ha3/team-".toList ++ team.toList ++ ':' :: ("submission-".toList ++ submission.toList)) := by
    simp
  generalize (String.ofList (registry.toList.rdropWhile (· == '/')) ++ "/ha3/team-" ++ team ++
    ":submission-" ++ submission) = imageRef at himage ⊢
  have hliterals : (("ha3/team-".toList ++ "submission-".toList).all
      fun c => Text.isWhitespace c == false) = true := by decide
  rw [List.all_append, Bool.and_eq_true, List.all_eq_true, List.all_eq_true] at hliterals
  have htag : ∀ c, isTagChar c = true → Text.isWhitespace c = false := fun c hc => by
    by_contra hblank
    rw [isTagChar_of_isWhitespace (by simpa using hblank)] at hc
    cases hc
  have hblank' : ∀ c ∈ imageRef.toList, Text.isWhitespace c = false := by
    intro c hc
    rw [himage] at hc
    simp only [List.mem_cons, List.mem_append] at hc
    rcases hc with hc | rfl | (hc | hc) | rfl | hc | hc
    · exact hblank c ((List.rdropWhile_prefix ..).subset hc)
    · decide
    · exact eq_of_beq (hliterals.1 c hc)
    · exact htag c (hteam' c hc)
    · decide
    · exact eq_of_beq (hliterals.2 c hc)
    · exact htag c (hsubmission' c hc)
  have hparts : normalized imageRef.toList = (normalized registry.toList).takeWhile (· != '/') ++
      '/' :: ((teamRepository registry team).toList ++
        ':' :: ("submission-".toList ++ submission.toList)) := by
    have hpath : (registryPath registry).toList =
        ((normalized registry.toList).dropWhile (· != '/')).tail.rdropWhile (· == '/') :=
      String.toList_ofList
    rw [himage, normalized_image hhost' (by rfl), teamRepository_toList, hpath]
    generalize "ha3/team-".toList = repositories
    generalize "submission-".toList = tags
    split <;> simp only [List.append_assoc, List.cons_append]
  have hslash : '/' ∉ (normalized registry.toList).takeWhile (· != '/') := fun hmem =>
    absurd (List.mem_takeWhile_imp hmem) (by decide)
  have hcolon : ':' ∉ "submission-".toList ++ submission.toList := by
    intro hmem
    rcases List.mem_append.mp hmem with hmem | hmem
    · exact absurd hmem (by decide)
    · exact absurd (hsubmission' _ hmem) (by decide)
  have hrepository : (teamRepository registry team).toList ≠ [] := by
    rw [teamRepository_toList]
    split
    · exact List.append_ne_nil_of_left_ne_nil (by decide) _
    · exact List.append_ne_nil_of_right_ne_nil _ (List.cons_ne_nil _ _)
  have hread := parseImageRef_ok hblank' hparts hslash hcolon hhost' hrepository
    (List.append_ne_nil_of_left_ne_nil (by decide) _)
  rw [String.ofList_append, String.ofList_toList, String.ofList_toList, String.ofList_toList] at hread
  exact hread

theorem registryApiBaseUrl_registryHost
    (hblank : ∀ c ∈ registry.toList, Text.isWhitespace c = false) (hhost : registryHost registry ≠ "") :
    registryApiBaseUrl (registryHost registry) = .ok ("http://" ++ registryHost registry) := by
  have hmem : ∀ c ∈ (registryHost registry).toList, c ∈ registry.toList ∧ c ≠ '/' := by
    intro c hc
    rw [registryHost, String.toList_ofList] at hc
    exact ⟨normalized_subset _ (List.takeWhile_subset _ hc), by simpa using List.mem_takeWhile_imp hc⟩
  generalize registryHost registry = host at hhost hmem ⊢
  have hkept : host.toList.rdropWhile (· == '/') = host.toList :=
    List.rdropWhile_eq_self_iff.mpr fun hne => by simp [(hmem _ (List.getLast_mem hne)).2]
  have hscheme : ∀ pre : List Char, '/' ∈ pre → pre.isPrefixOf host.toList = false := by
    intro pre hpre
    rw [Bool.eq_false_iff]
    intro hprefix
    exact (hmem _ ((List.isPrefixOf_iff_prefix.mp hprefix).subset hpre)).2 rfl
  have hne : host.toList.isEmpty = false := by simpa using hhost
  simp only [registryApiBaseUrl, Text.trimChars_of_forall fun c hc => hblank c (hmem c hc).1, hkept,
    hne, hscheme _ (show '/' ∈ "http://".toList by decide),
    hscheme _ (show '/' ∈ "https://".toList by decide), String.ofList_toList]
  rfl

end RoundTrip

/-- The image that is pushed for a submission is the one that the clean-up
asks the registry for. -/
theorem imageRef_roundTrip (registry teamId submissionId team submission : String)
    (hblank : ∀ c ∈ registry.toList, Text.isWhitespace c = false)
    (hhost : registryHost registry ≠ "") (hteam : sanitizeTagComponent teamId = .ok team)
    (hsubmission : sanitizeTagComponent submissionId = .ok submission) :
    ∃ imageRef, formatImageRef registry teamId submissionId = .ok imageRef ∧
      parseImageRef imageRef =
        .ok ⟨registryHost registry, teamRepository registry team, "submission-" ++ submission⟩ ∧
      manifestUrl imageRef =
        .ok ("http://" ++ registryHost registry ++ "/v2/" ++ teamRepository registry team ++
          "/manifests/" ++ ("submission-" ++ submission)) := by
  have hparsed := parseImageRef_formatted hblank hhost hteam hsubmission
  refine ⟨_, formatImageRef_eq hblank hhost hteam hsubmission, hparsed, ?_⟩
  rw [manifestUrl, hparsed]
  simp only [bind, Except.bind, registryApiBaseUrl_registryHost hblank hhost]
  rfl

/-- A registry with a scheme, a port, a path and a slash at the end. -/
theorem imageRef_roundTrip_port :
    ∃ imageRef, formatImageRef "https://reg:5000/a/" " red" "42" = .ok imageRef ∧
      parseImageRef imageRef = .ok ⟨"reg:5000", "a/ha3/team-red", "submission-42"⟩ := by
  have hhost : registryHost "https://reg:5000/a/" = "reg:5000" := by decide +kernel
  have hrepository : teamRepository "https://reg:5000/a/" "red" = "a/ha3/team-red" := by
    decide +kernel
  have hblank : ("https://reg:5000/a/".toList.all fun c => Text.isWhitespace c == false) = true := by
    decide +kernel
  obtain ⟨imageRef, hformat, hparse, -⟩ :=
    imageRef_roundTrip "https://reg:5000/a/" " red" "42" "red" "42"
      (fun c hc => eq_of_beq (List.all_eq_true.mp hblank c hc))
      (by decide +kernel) (by decide +kernel) (by decide +kernel)
  exact ⟨imageRef, hformat, by rw [hparse, hhost, hrepository]; rfl⟩

end HackArena.Official
