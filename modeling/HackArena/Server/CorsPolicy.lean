import HackArena.Lib.ByteLines
import HackArena.Lib.TextParts
import HackArena.Runtime.EngineState

/-!
# Allowed origins

The setting `CORS_ALLOWED_ORIGINS` is read twice: a guard asks whether it
allows any origin, and a parser turns it into the policy that the server
applies. Both go by the parts between the commas; a text that has commas
but no part is told apart by the parser only, and a wildcard among other
parts by the guard only.
-/

namespace HackArena.Server

open HackArena.Runtime

/-- `tower_http::cors::AllowOrigin`. -/
inductive AllowOrigin where
  | any
  | list (origins : List String)
  | mirrorRequest
  deriving DecidableEq, Repr

/-- What a call comes to. -/
inductive Loaded (α : Type) where
  | ok (value : α)
  | err (message : String)
  | panicked
  deriving DecidableEq, Repr

/-- `?` on a call. -/
def Loaded.map {α β : Type} (f : α → β) : Loaded α → Loaded β
  | .ok value => .ok (f value)
  | .err message => .err message
  | .panicked => .panicked

/-- `HeaderValue::from_str`, with the text of its error, and how `{:?}`
shows a string. -/
structure HeaderText where
  parse : String → Except String Unit
  debug : String → String

/-- `AllowOrigin::list` takes no wildcard. -/
def AllowOrigin.ofList (origins : List String) : Loaded AllowOrigin :=
  if "*" ∈ origins then .panicked else .ok (.list origins)

/-- The end of `parse_allow_origin`. -/
def AllowOrigin.ofParsed : Except String (List String) → Loaded AllowOrigin
  | .error e => .err e
  | .ok [] => .ok .any
  | .ok (origin :: rest) => AllowOrigin.ofList (origin :: rest)

section Config

variable (headers : HeaderText)

/-- The loop of `parse_allow_origin` over the parts between the commas. -/
def parseOrigins : List (List Char) → Except String (List String)
  | [] => .ok []
  | part :: rest =>
      let s := String.ofList (Text.trimChars part)
      if s = "" then parseOrigins rest
      else match headers.parse s with
        | .error e => .error ("Invalid CORS origin " ++ headers.debug s ++ ": " ++ e)
        | .ok () => (parseOrigins rest).map (s :: ·)

def parseAllowOrigin (raw : String) : Loaded AllowOrigin :=
  if Text.isBlank raw || Text.trim raw == "*" then .ok .any
  else AllowOrigin.ofParsed (parseOrigins headers (Lines.split ',' raw.toList))

def corsAllowAny : (rawAllowOrigins : Option String) → Bool
  | none => true
  | some raw => Text.isBlank raw || Text.trim raw == "*" ||
      (Lines.split ',' raw.toList).any fun entry => Text.trim (String.ofList entry) == "*"

structure CorsConfig where
  allowOrigin : AllowOrigin
  corsAllowAny : Bool
  deriving DecidableEq, Repr

/-- What `Config::load` makes of the setting. -/
def loadCors (b : Build) (isProduction : Bool) (rawAllowOrigins : Option String) :
    Loaded CorsConfig :=
  let allowAny := corsAllowAny rawAllowOrigins
  let parsed (raw : String) : Loaded CorsConfig :=
    (parseAllowOrigin headers raw).map (CorsConfig.mk · allowAny)
  match b with
  | .standalone => match rawAllowOrigins with
      | some raw => if Text.isBlank raw then .ok ⟨.any, allowAny⟩ else parsed raw
      | none => .ok ⟨.any, allowAny⟩
  | .local | .official =>
      if b = .local ∧ allowAny then
        .err "CORS_ALLOWED_ORIGINS must contain explicit origins in local mode"
      else match isProduction, rawAllowOrigins with
        | true, none => .err "CORS_ALLOWED_ORIGINS must be set in production"
        | false, none => .ok ⟨.any, allowAny⟩
        | isProduction, some raw =>
            if isProduction && Text.isBlank raw then
              .err "CORS_ALLOWED_ORIGINS cannot be empty in production"
            else parsed raw

/-- The policy that the server applies. -/
def corsLayer (b : Build) (cfg : CorsConfig) : AllowOrigin :=
  if b = .standalone ∧ cfg.corsAllowAny then .mirrorRequest else cfg.allowOrigin

end Config

/-! ## The entries of the setting -/

/-- The trimmed parts between the commas that are not empty. -/
def entriesOf (parts : List (List Char)) : List String :=
  (parts.map fun part => String.ofList (Text.trimChars part)).filter (· ≠ "")

def entries (rawAllowOrigins : Option String) : List String :=
  rawAllowOrigins.elim [] fun raw => entriesOf (Lines.split ',' raw.toList)

section Entries

variable {raw : String}

theorem comma_notMem_of_trimChars (h : ',' ∉ Text.trimChars raw.toList) : ',' ∉ raw.toList := by
  obtain ⟨l, r, hcs, hl, hr⟩ := Text.exists_eq_trimMatches Text.isWhitespace raw.toList
  rw [← Text.trimChars_eq] at hcs
  intro hmem
  rw [hcs, List.mem_append, List.mem_append] at hmem
  rcases hmem with (hmem | hmem) | hmem
  · exact absurd (hl _ hmem) (by decide)
  · exact h hmem
  · exact absurd (hr _ hmem) (by decide)

/-- A text without commas, once it is trimmed, is the only part. -/
theorem entries_of_trimChars {trimmed : List Char} (h : Text.trimChars raw.toList = trimmed)
    (hcomma : ',' ∉ trimmed) :
    entries (some raw) = [String.ofList trimmed].filter (· ≠ "") := by
  rw [← h] at hcomma ⊢
  rw [entries, Option.elim, Lines.split_of_notMem (comma_notMem_of_trimChars hcomma)]
  rfl

theorem entries_of_isBlank (h : Text.isBlank raw) : entries (some raw) = [] :=
  entries_of_trimChars (List.isEmpty_iff.mp h) List.not_mem_nil

theorem entries_of_wildcard (h : Text.trim raw = "*") : entries (some raw) = ["*"] := by
  have htrim : Text.trimChars raw.toList = ['*'] := by
    have hlist := congrArg String.toList h
    rwa [Text.trim, String.toList_ofList] at hlist
  exact entries_of_trimChars htrim (by decide)

theorem wildcard_mem_entries_iff :
    "*" ∈ entries (some raw) ↔
      (Lines.split ',' raw.toList).any (fun entry => Text.trim (String.ofList entry) == "*") := by
  simp [entries, entriesOf, Text.trim]

end Entries

/-! ## The two readings -/

section Readings

variable {headers : HeaderText} {raw : String}

/-- Some entry is no header value. -/
def Unreadable (headers : HeaderText) (raw : String) : Prop :=
  ∃ entry ∈ entries (some raw), ∃ e, headers.parse entry = .error e

theorem parseOrigins_ok {parts : List (List Char)}
    (h : ∀ entry ∈ entriesOf parts, headers.parse entry = .ok ()) :
    parseOrigins headers parts = .ok (entriesOf parts) := by
  induction parts with
  | nil => rfl
  | cons part rest ih =>
      rw [parseOrigins]
      by_cases hempty : String.ofList (Text.trimChars part) = ""
      · have hrest : entriesOf (part :: rest) = entriesOf rest := by
          rw [entriesOf, List.map_cons, List.filter_cons_of_neg (by simpa using hempty)]
          rfl
        rw [if_pos hempty, hrest]
        exact ih fun entry hmem => h entry (hrest ▸ hmem)
      · have hrest : entriesOf (part :: rest) =
            String.ofList (Text.trimChars part) :: entriesOf rest := by
          rw [entriesOf, List.map_cons, List.filter_cons_of_pos (by simpa using hempty)]
          rfl
        rw [hrest, List.forall_mem_cons] at h
        rw [if_neg hempty, hrest, h.1, ih h.2]
        rfl

theorem parseOrigins_error {parts : List (List Char)} {entry e : String}
    (hmem : entry ∈ entriesOf parts) (he : headers.parse entry = .error e) :
    ∃ message, parseOrigins headers parts = .error message := by
  induction parts with
  | nil => cases hmem
  | cons part rest ih =>
      rw [parseOrigins]
      by_cases hempty : String.ofList (Text.trimChars part) = ""
      · rw [if_pos hempty]
        rw [entriesOf, List.map_cons, List.filter_cons_of_neg (by simpa using hempty)] at hmem
        exact ih hmem
      · rw [if_neg hempty]
        rw [entriesOf, List.map_cons, List.filter_cons_of_pos (by simpa using hempty)] at hmem
        cases hparse : headers.parse (String.ofList (Text.trimChars part)) with
        | error e' => exact ⟨_, rfl⟩
        | ok _ =>
            have hrest : entry ∈ entriesOf rest := by
              rcases List.mem_cons.mp hmem with rfl | hmem
              · rw [hparse] at he
                cases he
              · exact hmem
            obtain ⟨message, hmessage⟩ := ih hrest
            exact ⟨message, by rw [hmessage]; rfl⟩

/-- What the parser makes of a text. -/
theorem parseAllowOrigin_cases (headers : HeaderText) (raw : String) :
    ((Text.isBlank raw ∨ Text.trim raw = "*") ∧ parseAllowOrigin headers raw = .ok .any) ∨
      (Unreadable headers raw ∧ ∃ e, parseAllowOrigin headers raw = .err e) ∨
        (¬ Unreadable headers raw ∧ ¬ Text.isBlank raw ∧ Text.trim raw ≠ "*" ∧
          parseAllowOrigin headers raw = if entries (some raw) = [] then .ok .any
            else AllowOrigin.ofList (entries (some raw))) := by
  by_cases hblank : Text.isBlank raw = true ∨ Text.trim raw = "*"
  · refine Or.inl ⟨hblank, ?_⟩
    rw [parseAllowOrigin, if_pos (by simpa using hblank)]
  · refine Or.inr ?_
    have hparse : parseAllowOrigin headers raw =
        AllowOrigin.ofParsed (parseOrigins headers (Lines.split ',' raw.toList)) := by
      rw [parseAllowOrigin, if_neg (by simpa using hblank)]
    obtain ⟨hnotBlank, hnotWildcard⟩ := not_or.mp hblank
    by_cases hread : Unreadable headers raw
    · obtain ⟨entry, hmem, e, he⟩ := hread
      obtain ⟨message, hmessage⟩ := parseOrigins_error hmem he
      exact Or.inl ⟨⟨entry, hmem, e, he⟩, message, by rw [hparse, hmessage]; rfl⟩
    · have hok : ∀ entry ∈ entries (some raw), headers.parse entry = .ok () := by
        intro entry hmem
        cases hentry : headers.parse entry with
        | ok _ => rfl
        | error e => exact absurd ⟨entry, hmem, e, hentry⟩ hread
      refine Or.inr ⟨hread, hnotBlank, hnotWildcard, ?_⟩
      rw [hparse, parseOrigins_ok hok]
      change AllowOrigin.ofParsed (.ok (entries (some raw))) = _
      cases entries (some raw) with
      | nil => rfl
      | cons origin rest => rfl

end Readings

/-! ## Agreement -/

/-- Nothing is listed, or everything is allowed. -/
def WantsAny (rawAllowOrigins : Option String) : Prop :=
  entries rawAllowOrigins = [] ∨ "*" ∈ entries rawAllowOrigins

/-- The guard and the parser read the setting alike. -/
structure ReadsAlike (headers : HeaderText) (rawAllowOrigins : Option String) : Prop where
  guard : corsAllowAny rawAllowOrigins = true ↔ WantsAny rawAllowOrigins
  parser : ∀ raw ∈ rawAllowOrigins, parseAllowOrigin headers raw ≠ .panicked ∧
    ∀ allowOrigin, parseAllowOrigin headers raw = .ok allowOrigin →
      (WantsAny rawAllowOrigins → allowOrigin = .any) ∧
        (¬ WantsAny rawAllowOrigins → allowOrigin = .list (entries rawAllowOrigins))
  explicit : ∀ (isProduction : Bool) (cfg : CorsConfig),
    loadCors headers .local isProduction rawAllowOrigins = .ok cfg → corsLayer .local cfg ≠ .any
  listed : ∀ (b : Build) (isProduction : Bool),
    loadCors headers b isProduction rawAllowOrigins ≠ .panicked

/-- A text with no entries is blank, and a wildcard stands alone unless the
text is refused anyway. -/
structure Settled (headers : HeaderText) (raw : String) : Prop where
  nonempty : entries (some raw) = [] → Text.isBlank raw
  alone : "*" ∈ entries (some raw) → Text.trim raw = "*" ∨ Unreadable headers raw

section Agreement

variable {headers : HeaderText} {raw : String}

theorem corsAllowAny_iff :
    corsAllowAny (some raw) = true ↔
      Text.isBlank raw ∨ "*" ∈ entries (some raw) := by
  rw [wildcard_mem_entries_iff, corsAllowAny, Bool.or_eq_true, Bool.or_eq_true, beq_iff_eq]
  constructor
  · rintro ((hblank | hwildcard) | hmem)
    · exact Or.inl hblank
    · refine Or.inr (wildcard_mem_entries_iff.mp ?_)
      rw [entries_of_wildcard hwildcard]
      exact List.mem_cons_self
    · exact Or.inr hmem
  · rintro (hblank | hmem)
    · exact Or.inl (Or.inl hblank)
    · exact Or.inr hmem

theorem wantsAny_of_short (h : Text.isBlank raw ∨ Text.trim raw = "*") : WantsAny (some raw) := by
  rcases h with h | h
  · exact Or.inl (entries_of_isBlank h)
  · refine Or.inr ?_
    rw [entries_of_wildcard h]
    exact List.mem_cons_self

/-- On a text that is settled the parser yields what is wanted. -/
theorem Settled.parser (h : Settled headers raw) :
    parseAllowOrigin headers raw ≠ .panicked ∧
      ∀ allowOrigin, parseAllowOrigin headers raw = .ok allowOrigin →
        (WantsAny (some raw) → allowOrigin = .any) ∧
          (¬ WantsAny (some raw) → allowOrigin = .list (entries (some raw))) := by
  rcases parseAllowOrigin_cases headers raw with
    ⟨hshort, hparse⟩ | ⟨-, e, hparse⟩ | ⟨hread, hblank, hwildcard, hparse⟩
  · refine ⟨by simp [hparse], fun allowOrigin hok => ?_⟩
    rw [hparse, Loaded.ok.injEq] at hok
    exact ⟨fun _ => hok.symm, fun hnot => absurd (wantsAny_of_short hshort) hnot⟩
  · exact ⟨by simp [hparse], fun allowOrigin hok => by simp [hparse] at hok⟩
  · have hsome : entries (some raw) ≠ [] := fun hnil => hblank (h.nonempty hnil)
    have halone : "*" ∉ entries (some raw) := fun hmem =>
      (h.alone hmem).elim hwildcard hread
    rw [if_neg hsome, AllowOrigin.ofList, if_neg halone] at hparse
    refine ⟨by simp [hparse], fun allowOrigin hok => ?_⟩
    rw [hparse, Loaded.ok.injEq] at hok
    exact ⟨fun hwants => absurd hwants (not_or.mpr ⟨hsome, halone⟩), fun _ => hok.symm⟩

/-- The setting is refused, or nothing is set, or the parser decides. In the
local build the guard has let it pass. -/
theorem loadCors_cases (headers : HeaderText) (b : Build) (isProduction : Bool)
    (rawAllowOrigins : Option String) :
    (∃ e, loadCors headers b isProduction rawAllowOrigins = .err e) ∨
      (b ≠ .local ∧ ∃ cfg, loadCors headers b isProduction rawAllowOrigins = .ok cfg) ∨
        ((b = .local → corsAllowAny rawAllowOrigins = false) ∧ ∃ raw ∈ rawAllowOrigins,
          loadCors headers b isProduction rawAllowOrigins = (parseAllowOrigin headers raw).map
            (CorsConfig.mk · (corsAllowAny rawAllowOrigins))) := by
  cases b with
  | standalone =>
      cases rawAllowOrigins with
      | none => exact Or.inr (Or.inl ⟨by decide, _, rfl⟩)
      | some raw =>
          by_cases hblank : Text.isBlank raw = true
          · exact Or.inr (Or.inl ⟨by decide, _, if_pos hblank⟩)
          · exact Or.inr (Or.inr ⟨fun hb => absurd hb (by decide), raw, rfl, if_neg hblank⟩)
  | official =>
      cases rawAllowOrigins with
      | none =>
          cases isProduction with
          | true => exact Or.inl ⟨_, rfl⟩
          | false => exact Or.inr (Or.inl ⟨by decide, _, rfl⟩)
      | some raw =>
          by_cases hblank : (isProduction && Text.isBlank raw) = true
          · refine Or.inl ⟨"CORS_ALLOWED_ORIGINS cannot be empty in production", ?_⟩
            simp only [loadCors, reduceCtorEq, false_and, if_false, if_pos hblank]
          · refine Or.inr (Or.inr ⟨fun hb => absurd hb (by decide), raw, rfl, ?_⟩)
            simp only [loadCors, reduceCtorEq, false_and, if_false, if_neg hblank]
  | «local» =>
      by_cases hallow : corsAllowAny rawAllowOrigins = true
      · exact Or.inl ⟨_, if_pos ⟨rfl, hallow⟩⟩
      · cases rawAllowOrigins with
        | none => exact absurd rfl hallow
        | some raw =>
            by_cases hblank : (isProduction && Text.isBlank raw) = true
            · refine Or.inl ⟨"CORS_ALLOWED_ORIGINS cannot be empty in production", ?_⟩
              simp only [loadCors, true_and, if_neg hallow, if_pos hblank]
            · refine Or.inr (Or.inr ⟨fun _ => Bool.eq_false_iff.mpr hallow, raw, rfl, ?_⟩)
              simp only [loadCors, true_and, if_neg hallow, if_neg hblank]

/-- The guard and the parser read the setting alike exactly if its text is
settled. -/
theorem readsAlike_iff (headers : HeaderText) (rawAllowOrigins : Option String) :
    ReadsAlike headers rawAllowOrigins ↔ ∀ raw ∈ rawAllowOrigins, Settled headers raw := by
  constructor
  · rintro h raw hraw
    obtain rfl : rawAllowOrigins = some raw := hraw
    refine ⟨fun hnil => ?_, fun hmem => ?_⟩
    · rcases corsAllowAny_iff.mp (h.guard.mpr (Or.inl hnil)) with hblank | hmem
      · exact hblank
      · rw [hnil] at hmem
        cases hmem
    · rcases parseAllowOrigin_cases headers raw with
        ⟨hblank | hwildcard, -⟩ | ⟨hread, -⟩ | ⟨-, -, -, hparse⟩
      · rw [entries_of_isBlank hblank] at hmem
        cases hmem
      · exact Or.inl hwildcard
      · exact Or.inr hread
      · rw [if_neg (List.ne_nil_of_mem hmem), AllowOrigin.ofList, if_pos hmem] at hparse
        exact absurd hparse (h.parser raw rfl).1
  · intro h
    have hguard : corsAllowAny rawAllowOrigins = true ↔ WantsAny rawAllowOrigins := by
      cases rawAllowOrigins with
      | none => exact ⟨fun _ => Or.inl rfl, fun _ => rfl⟩
      | some raw =>
          rw [corsAllowAny_iff]
          exact ⟨Or.imp_left entries_of_isBlank, Or.imp_left (h raw rfl).nonempty⟩
    refine ⟨hguard, ?_, ?_, ?_⟩
    · rintro raw hraw
      obtain rfl : rawAllowOrigins = some raw := hraw
      exact (h raw rfl).parser
    · intro isProduction cfg hload
      rcases loadCors_cases headers .local isProduction rawAllowOrigins with
        ⟨e, herr⟩ | ⟨hb, -⟩ | ⟨hallow, raw, hraw, hparsed⟩
      · rw [herr] at hload
        cases hload
      · exact absurd rfl hb
      · obtain rfl : rawAllowOrigins = some raw := hraw
        have hwants : ¬ WantsAny (some raw) := fun hwants => by
          rw [hguard.mpr hwants] at hallow
          cases hallow rfl
        rw [hparsed] at hload
        cases hparse : parseAllowOrigin headers raw with
        | err e =>
            rw [hparse] at hload
            cases hload
        | panicked =>
            rw [hparse] at hload
            cases hload
        | ok allowOrigin =>
            rw [hparse] at hload
            cases hload
            change allowOrigin ≠ .any
            rw [((h raw rfl).parser.2 allowOrigin hparse).2 hwants]
            simp
    · intro b isProduction hload
      rcases loadCors_cases headers b isProduction rawAllowOrigins with
        ⟨e, herr⟩ | ⟨-, cfg, hok⟩ | ⟨-, raw, hraw, hparsed⟩
      · rw [herr] at hload
        cases hload
      · rw [hok] at hload
        cases hload
      · have hparse := (h raw hraw).parser.1
        rw [hparsed] at hload
        cases hresult : parseAllowOrigin headers raw with
        | ok allowOrigin =>
            rw [hresult] at hload
            cases hload
        | err e =>
            rw [hresult] at hload
            cases hload
        | panicked => exact hparse hresult

end Agreement

/-- A comma alone passes the guard of the local server and allows any
origin. -/
theorem comma_not_readsAlike : ¬ ReadsAlike ⟨fun _ => .ok (), id⟩ (some ",") := by
  intro h
  have hload : loadCors ⟨fun _ => .ok (), id⟩ .local false (some ",") = .ok ⟨.any, false⟩ := by
    decide +kernel
  exact h.explicit false _ hload rfl

end HackArena.Server
