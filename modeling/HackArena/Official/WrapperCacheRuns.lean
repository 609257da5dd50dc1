import HackArena.Lib.GuardedRun
import HackArena.Official.WrapperCache

/-!
# Histories of the wrapper cache

One build after the other prepares its package. A preparation is cut off by
the call that fails; a file whose writing stops is left with the bytes
written so far.
-/

namespace HackArena.Official

open GuardedRun

/-! ## The files -/

/-- The directories below the root of the submissions, each with its files. -/
structure WrapperCache where
  dirs : HashMap CacheDir (HashMap String (List UInt8))

namespace WrapperCache

def empty : WrapperCache := ⟨∅⟩

def file (cache : WrapperCache) (dir : CacheDir) (name : String) : Option (List UInt8) :=
  (cache.dirs.lookup dir).bind (·.lookup name)

def createDir (cache : WrapperCache) (dir : CacheDir) : WrapperCache :=
  ⟨cache.dirs.insert dir ((cache.dirs.lookup dir).getD ∅)⟩

def put (cache : WrapperCache) (dir : CacheDir) (name : String) (bytes : List UInt8) :
    WrapperCache :=
  ⟨cache.dirs.insert dir (((cache.dirs.lookup dir).getD ∅).insert name bytes)⟩

@[simp] theorem file_empty (dir : CacheDir) (name : String) : empty.file dir name = none := rfl

theorem file_createDir (cache : WrapperCache) (dir dir' : CacheDir) (name : String) :
    (cache.createDir dir).file dir' name = cache.file dir' name := by
  unfold file createDir
  rw [HashMap.lookup_insert_eq]
  by_cases hdir : dir' = dir
  · subst hdir
    rw [if_pos rfl]
    cases cache.dirs.lookup dir' <;> rfl
  · rw [if_neg hdir]

theorem file_put (cache : WrapperCache) (dir dir' : CacheDir) (name name' : String)
    (bytes : List UInt8) : (cache.put dir name bytes).file dir' name' =
      if dir' = dir ∧ name' = name then some bytes else cache.file dir' name' := by
  unfold file put
  rw [HashMap.lookup_insert_eq]
  by_cases hdir : dir' = dir
  · subst hdir
    rw [if_pos rfl, Option.bind_some, HashMap.lookup_insert_eq]
    by_cases hname : name' = name
    · rw [if_pos hname, if_pos ⟨rfl, hname⟩]
    · rw [if_neg hname, if_neg fun h => hname h.2]
      cases cache.dirs.lookup dir' <;> rfl
  · rw [if_neg hdir, if_neg fun h => hdir h.1]

end WrapperCache

/-! ## How calls are answered -/

/-- What happens at a call: the order in which a directory is read, and the
number of bytes after which a write stops, if it stops. -/
inductive CacheInput where
  | works
  | lists (names : List String)
  | fails
  | stops (written : ℕ)
  deriving DecidableEq

def readDirAnswer (files : Option (HashMap String (List UInt8))) (input : CacheInput) :
    Except ReadDirError (List String) :=
  match files with
  | none => .error .notFound
  | some files =>
      match input with
      | .lists names =>
          if names.Nodup ∧ names.toFinset = files.keys then .ok names
          else .error (.other "failed to read the directory")
      | _ => .error (.other "failed to read the directory")

/-- The answer of a call that may fail whatever it is asked. -/
def answerIf {α : Type} (input : CacheInput) (answer : Option α) : Except String α :=
  if input = .works then answer.elim (.error "not found") .ok else .error "failed"

theorem answerIf_eq_ok {α : Type} {input : CacheInput} {answer : Option α} {a : α}
    (h : answerIf input answer = .ok a) : answer = some a := by
  unfold answerIf at h
  split at h
  · cases answer with
    | none => cases h
    | some b => exact congrArg some (Except.ok.inj h)
  · cases h

variable (github : GitHub)

def cacheExec (cache : WrapperCache) :
    (op : CacheOp) → CacheInput → WrapperCache × op.Answer
  | .log _, _ => (cache, ())
  | .readDir dir, input => (cache, readDirAnswer (cache.dirs.lookup dir) input)
  | .read dir name, input => (cache, answerIf input (cache.file dir name))
  | .fetchRelease repo releaseTag, input =>
      (cache, answerIf input (github.release repo releaseTag))
  | .downloadAsset repo asset, input => (cache, answerIf input (some (github.asset repo asset.id)))
  | .createDirAll dir, input =>
      if input = .works then (cache.createDir dir, .ok ()) else (cache, .error "failed")
  | .write dir name bytes, input =>
      match input with
      | .works => (cache.put dir name bytes, .ok ())
      | .stops written => (cache.put dir name (bytes.take written), .error "failed")
      | .lists _ | .fails => (cache, .error "failed")
  | .install _ _, input => (cache, answerIf input (some ()))

/-- The write does not stop with a part of the bytes in the file. -/
def WritesWhole (_ : WrapperCache) : CacheOp → CacheInput → Prop
  | .write _ _ bytes, .stops written => bytes.length ≤ written
  | _, _ => True

instance : ∀ cache op input, Decidable (WritesWhole cache op input) := by
  intro cache op input
  unfold WritesWhole
  split <;> infer_instance

/-! ## Histories -/

/-- A preparation, with the inputs that its calls get. -/
structure Preparation where
  owner : String
  language : WrapperLanguage
  repo : String
  wrapperVersion : String
  inputs : ℕ → CacheInput

namespace Preparation

def prog (p : Preparation) : CacheProg Unit :=
  prepareWrapperPackage p.owner p.language p.repo p.wrapperVersion

def step (cache : WrapperCache) (p : Preparation) : WrapperCache :=
  (p.prog.run.run (cacheExec github) p.inputs cache).1

/-- The tag of the release that is asked for, and the version in the names
of its assets. -/
def Asks (p : Preparation) (releaseTag assetVersion : String) : Prop :=
  normalizeWrapperVersion p.wrapperVersion = .ok (releaseTag, assetVersion)

/-- What the preparation downloads when the cache has nothing for it. -/
def Fetches (p : Preparation) (releaseTag assetVersion name : String) (bytes : List UInt8) :
    Prop :=
  p.Asks releaseTag assetVersion ∧ ∃ assets asset,
    github.release p.repo releaseTag = some assets ∧
    p.language.select assets assetVersion releaseTag = .ok asset ∧ asset.name = name ∧
    github.asset p.repo asset.id = bytes

/-- What the other one downloads is something that this one takes for its own
package, though it asks for a different release. -/
def Mistakes (p other : Preparation) : Prop :=
  ∃ releaseTag assetVersion otherTag otherVersion name bytes,
    p.Asks releaseTag assetVersion ∧ other.Fetches github otherTag otherVersion name bytes ∧
    (p.repo, releaseTag) ≠ (other.repo, otherTag) ∧
    wrapperCacheDir p.repo releaseTag = wrapperCacheDir other.repo otherTag ∧
    p.language.accepts assetVersion name

/-- A hit in the cache is a complete asset of the release that is asked
for, under its name. -/
def HitsTruthful (cache : WrapperCache) (p : Preparation) : Prop :=
  ∀ releaseTag assetVersion, p.Asks releaseTag assetVersion → ∀ inputs name bytes,
    ((p.language.load p.repo releaseTag assetVersion).run.run (cacheExec github) inputs cache).2 =
      .ok (some (name, bytes)) → github.Offers p.repo releaseTag name bytes

end Preparation

variable {github}

theorem selectOnly_eq_ok {candidates : List GitHubReleaseAsset} {noneMessage manyMessage : String}
    {asset : GitHubReleaseAsset} (h : selectOnly candidates noneMessage manyMessage = .ok asset) :
    asset ∈ candidates := by
  unfold selectOnly at h
  split at h
  · cases h
  · cases h
    exact List.mem_singleton_self _
  · cases h

theorem WrapperLanguage.select_mem {language : WrapperLanguage} {assets : List GitHubReleaseAsset}
    {assetVersion releaseTag : String} {asset : GitHubReleaseAsset}
    (h : language.select assets assetVersion releaseTag = .ok asset) : asset ∈ assets := by
  cases language with
  | python =>
      unfold select selectPythonReleaseAsset at h
      dsimp only at h
      split at h
      · rename_i found hfound
        cases h
        exact List.mem_of_find?_eq_some hfound
      · cases h
  | csharp => exact List.mem_of_mem_filter (selectOnly_eq_ok h)
  | typescript => exact List.mem_of_mem_filter (selectOnly_eq_ok h)

theorem Preparation.Fetches.offers {p : Preparation} {releaseTag assetVersion name : String}
    {bytes : List UInt8} (h : p.Fetches github releaseTag assetVersion name bytes) :
    github.Offers p.repo releaseTag name bytes := by
  obtain ⟨-, assets, asset, hrelease, hselect, hname, hbytes⟩ := h
  exact ⟨assets, hrelease, asset, WrapperLanguage.select_mem hselect, hname, hbytes⟩

/-! ## What a preparation writes -/

/-- A write is of what the preparation downloads. -/
def Writes (github : GitHub) (p : Preparation) : CacheOp → Prop
  | .write dir name bytes => ∃ releaseTag assetVersion, dir = wrapperCacheDir p.repo releaseTag ∧
      p.Fetches github releaseTag assetVersion name bytes
  | _ => True

/-- The call is none that changes the cache. -/
def Reads : CacheOp → Prop
  | .createDirAll _ | .write _ _ _ => False
  | _ => True

theorem Reads.writes {p : Preparation} {op : CacheOp} (h : Reads op) : Writes github p op := by
  cases op with
  | write dir name bytes => exact h.elim
  | _ => trivial

theorem CacheOp.call_uses {Q : CacheOp → Prop} {op : CacheOp} (h : Q op) : op.call.Uses Q :=
  ⟨h, fun _ => trivial⟩

theorem listCachedWrapperFiles_reads (repo releaseTag : String) :
    (listCachedWrapperFiles repo releaseTag).run.Uses Reads := by
  refine Prog.Uses.call trivial fun answer => ?_
  rcases answer with (_ | message) | files <;> trivial

theorem load_reads (language : WrapperLanguage) (repo releaseTag assetVersion : String) :
    (language.load repo releaseTag assetVersion).run.Uses Reads := by
  unfold WrapperLanguage.load
  split
  · refine Prog.Uses.bindExcept (listCachedWrapperFiles_reads _ _) fun files => ?_
    split
    · trivial
    · exact Prog.Uses.bindExcept (Prog.Uses.orFail (CacheOp.call_uses trivial)) fun _ => trivial
  · refine Prog.Uses.bindExcept (listCachedWrapperFiles_reads _ _) fun files => ?_
    dsimp only
    split
    · trivial
    · exact Prog.Uses.bindExcept (Prog.Uses.orFail (CacheOp.call_uses trivial)) fun _ => trivial

theorem wrapperLog_reads (language : WrapperLanguage) (line : String) :
    (wrapperLog language line).run.Uses Reads := Prog.Uses.lift (CacheOp.call_uses trivial)

section Steps

variable {p : Preparation} {releaseTag assetVersion : String} {cache : WrapperCache}

theorem storeCachedWrapperAsset_writes {name : String} {bytes : List UInt8}
    (h : p.Fetches github releaseTag assetVersion name bytes) :
    (storeCachedWrapperAsset p.repo releaseTag name bytes).run.Uses (Writes github p) := by
  unfold storeCachedWrapperAsset
  dsimp only
  split
  · trivial
  · refine Prog.Uses.bindExcept (Prog.Uses.orFail (CacheOp.call_uses trivial)) fun _ => ?_
    exact Prog.Uses.orFail (CacheOp.call_uses ⟨releaseTag, assetVersion, rfl, h⟩)

theorem wrapperLog_writes (p : Preparation) (line : String) :
    (wrapperLog p.language line).run.Uses (Writes github p) :=
  (wrapperLog_reads p.language line).mono fun _ => Reads.writes

theorem downloadWrapper_writes (hasks : p.Asks releaseTag assetVersion) :
    (downloadWrapper p.owner p.language p.repo releaseTag assetVersion).run.Makes
      (cacheExec github) (Writes github p) cache := by
  refine Prog.Makes.afterExcept ((wrapperLog_writes p _).makes _) fun _ t => ?_
  refine Prog.Makes.bindExcept (fun assets _ => github.release p.repo releaseTag = some assets)
    ((Prog.Uses.orFail (CacheOp.call_uses trivial)).makes _) ?_ fun assets t hassets => ?_
  · refine Prog.Ensures.orFail fun input => ?_
    generalize hanswer : (cacheExec github t (.fetchRelease p.repo releaseTag) input).2 = answer
    cases answer with
    | error e => trivial
    | ok assets => exact answerIf_eq_ok hanswer
  refine Prog.Makes.bindExcept (fun asset _ =>
    p.language.select assets assetVersion releaseTag = .ok asset) trivial ?_
    fun asset t hselect => ?_
  · generalize hchoice : p.language.select assets assetVersion releaseTag = choice
    cases choice with
    | error e => trivial
    | ok asset => exact rfl
  refine Prog.Makes.afterExcept ((wrapperLog_writes p _).makes _) fun _ t => ?_
  refine Prog.Makes.bindExcept (fun bytes _ => github.asset p.repo asset.id = bytes)
    ((Prog.Uses.orFail (CacheOp.call_uses trivial)).makes _) ?_ fun bytes t hbytes => ?_
  · refine Prog.Ensures.orFail fun input => ?_
    generalize hanswer : (cacheExec github t (.downloadAsset p.repo asset) input).2 = answer
    cases answer with
    | error e => trivial
    | ok bytes => exact Option.some.inj (answerIf_eq_ok hanswer)
  have hfetches : p.Fetches github releaseTag assetVersion asset.name bytes :=
    ⟨hasks, assets, asset, hassets, hselect, rfl, hbytes⟩
  refine Prog.Uses.makes ?_ t
  refine Prog.Uses.bindExcept (storeCachedWrapperAsset_writes hfetches) fun _ => ?_
  exact Prog.Uses.bindExcept (wrapperLog_writes p _) fun _ => trivial

theorem prog_writes (p : Preparation) (cache : WrapperCache) :
    p.prog.run.Makes (cacheExec github) (Writes github p) cache := by
  have hinstall : ∀ package : String × List UInt8,
      ((CacheOp.install package.1 package.2).call.orFail id >>= fun _ =>
        wrapperLog p.language p.language.preparedLine).run.Uses (Writes github p) := fun package =>
    Prog.Uses.bindExcept (Prog.Uses.orFail (CacheOp.call_uses trivial)) fun _ =>
      wrapperLog_writes p _
  unfold Preparation.prog prepareWrapperPackage
  refine Prog.Makes.bindExcept (fun asked _ => p.Asks asked.1 asked.2) trivial ?_
    fun asked t hasks => ?_
  · generalize hasked : normalizeWrapperVersion p.wrapperVersion = asked
    cases asked with
    | error e => trivial
    | ok asked => exact hasked
  refine Prog.Makes.afterExcept (((load_reads _ _ _ _).mono fun _ => Reads.writes).makes _)
    fun hit t => ?_
  cases hit with
  | some cached =>
      refine Prog.Makes.afterExcept ((wrapperLog_writes p _).makes _) fun _ u => ?_
      exact (hinstall cached).makes u
  | none =>
      exact Prog.Makes.afterExcept (downloadWrapper_writes hasks) fun package u =>
        (hinstall package).makes u

theorem cacheExec_reads {op : CacheOp} (h : Reads op) (cache : WrapperCache) (input : CacheInput) :
    (cacheExec github cache op input).1 = cache := by
  cases op with
  | createDirAll dir => exact h.elim
  | write dir name bytes => exact h.elim
  | _ => rfl

theorem read_ensures {dir : CacheDir} {name : String} {f : String → String} :
    ((CacheOp.read dir name).call.orFail f).run.Ensures (cacheExec github)
      (Prog.Either (fun bytes _ => cache.file dir name = some bytes) fun _ _ => True) cache := by
  refine Prog.Ensures.orFail fun input => ?_
  generalize hanswer : (cacheExec github cache (.read dir name) input).2 = answer
  cases answer with
  | error e => trivial
  | ok bytes => exact answerIf_eq_ok hanswer

/-- What a hit in the cache is. -/
def HitIs (cache : WrapperCache) (language : WrapperLanguage) (dir : CacheDir)
    (assetVersion : String) : Option (String × List UInt8) → Prop
  | none => True
  | some (name, bytes) => language.accepts assetVersion name ∧ cache.file dir name = some bytes

theorem listed_ensures {β : Type} {repo : String} {f : List String → CacheProg β}
    {post : Except String β → WrapperCache → Prop} (herror : ∀ e, post (.error e) cache)
    (h : ∀ files, (f files).run.Ensures (cacheExec github) post cache) :
    (listCachedWrapperFiles repo releaseTag >>= f).run.Ensures (cacheExec github) post cache := by
  have hsame : ∀ op, Reads op → ∀ (s : WrapperCache) input,
      id (cacheExec github s op input).1 = id s := fun _ => cacheExec_reads
  refine Prog.Ensures.sameExcept hsame (listCachedWrapperFiles_reads _ _) ?_ ?_
  · rintro e u rfl
    exact herror e
  · rintro files u rfl
    exact h files

variable (github cache) in
theorem load_ensures (language : WrapperLanguage) (repo releaseTag assetVersion : String) :
    (language.load repo releaseTag assetVersion).run.Ensures (cacheExec github)
      (Prog.Either (fun hit _ => HitIs cache language (wrapperCacheDir repo releaseTag)
        assetVersion hit) fun _ _ => True) cache := by
  unfold WrapperLanguage.load
  split
  · rename_i expectedName hexpected
    refine listed_ensures (fun _ => trivial) fun files => ?_
    split
    · trivial
    · rename_i fileName hfound
      have hname : eqIgnoreAsciiCase fileName expectedName = true := by
        simpa only using List.find?_some hfound
      refine Prog.Ensures.bindExcept (read_ensures.mono fun r u hr => ?_)
      cases r with
      | error e => trivial
      | ok bytes =>
          refine ⟨?_, hr⟩
          unfold WrapperLanguage.accepts
          rw [hexpected]
          exact hname
  · rename_i hexpected
    refine listed_ensures (fun _ => trivial) fun files => ?_
    dsimp only
    split
    · trivial
    · rename_i selected rest hsorted
      have hmem : selected ∈ files.filter (isCsharpAssetNameMatch · assetVersion) := by
        rw [← List.mem_insertionSort (· ≤ ·), hsorted]
        exact List.mem_cons_self
      refine Prog.Ensures.bindExcept (read_ensures.mono fun r u hr => ?_)
      cases r with
      | error e => trivial
      | ok bytes =>
          refine ⟨?_, hr⟩
          unfold WrapperLanguage.accepts
          rw [hexpected]
          exact (List.mem_filter.mp hmem).2

end Steps

/-! ## Every file is known -/

/-- Every file is something that one of the preparations downloads. -/
def Known (github : GitHub) (history : List Preparation) (cache : WrapperCache) : Prop :=
  ∀ dir name bytes, cache.file dir name = some bytes → ∃ p ∈ history, ∃ releaseTag assetVersion,
    dir = wrapperCacheDir p.repo releaseTag ∧
      p.Fetches github releaseTag assetVersion name bytes

section Histories

variable {history : List Preparation} {cache : WrapperCache} {p : Preparation}

theorem known_empty : Known github history .empty := by
  intro dir name bytes h
  cases h

theorem Known.put {dir : CacheDir} {name : String} {bytes : List UInt8}
    (h : Known github history cache) (hp : p ∈ history)
    (hwrites : Writes github p (.write dir name bytes)) :
    Known github history (cache.put dir name bytes) := by
  intro dir' name' bytes' hfile
  rw [WrapperCache.file_put] at hfile
  split at hfile
  · rename_i hsame
    obtain ⟨rfl, rfl⟩ := hsame
    obtain rfl := Option.some.inj hfile
    exact ⟨p, hp, hwrites⟩
  · exact h dir' name' bytes' hfile

theorem Known.exec (hp : p ∈ history) (cache : WrapperCache) (op : CacheOp) (input : CacheInput)
    (hwrites : Writes github p op) (hwhole : WritesWhole cache op input)
    (h : Known github history cache) :
    Known github history (cacheExec github cache op input).1 := by
  cases op with
  | createDirAll dir =>
      dsimp only [cacheExec]
      split
      · intro dir' name bytes hfile
        rw [WrapperCache.file_createDir] at hfile
        exact h dir' name bytes hfile
      · exact h
  | write dir name bytes =>
      cases input with
      | works => exact h.put hp hwrites
      | stops written =>
          have htake : bytes.take written = bytes := List.take_of_length_le hwhole
          dsimp only [cacheExec]
          rw [htake]
          exact h.put hp hwrites
      | lists names => exact h
      | fails => exact h
  | _ => exact h

theorem Known.step (hp : p ∈ history)
    (hwhole : p.prog.run.Meets (cacheExec github) WritesWhole p.inputs cache)
    (h : Known github history cache) : Known github history (Preparation.step github cache p) :=
  Prog.Makes.keeps (cacheExec github) (Known.exec hp) (prog_writes p cache) hwhole h

theorem Known.hitsTruthful (h : Known github history cache)
    (hnames : ∀ other ∈ history, ¬ p.Mistakes github other) : p.HitsTruthful github cache := by
  intro releaseTag assetVersion hasks inputs name bytes hload
  have hhit := (load_ensures github cache p.language p.repo releaseTag assetVersion).run inputs
  rw [hload] at hhit
  obtain ⟨haccepts, hfile⟩ := hhit
  obtain ⟨other, hother, otherTag, otherVersion, hdir, hfetches⟩ := h _ _ _ hfile
  by_cases hrelease : (p.repo, releaseTag) = (other.repo, otherTag)
  · obtain ⟨hrepo, rfl⟩ := Prod.mk.inj hrelease
    rw [hrepo]
    exact hfetches.offers
  · exact absurd ⟨releaseTag, assetVersion, otherTag, otherVersion, name, bytes, hasks, hfetches,
      hrelease, hdir, haccepts⟩ (hnames other hother)

variable (github) in
/-- As long as no write stops with a part of a file, and no preparation
takes for its own what another one downloads from a different release, the
hits in the cache are right. -/
theorem wrapperCache_truthful (history : List Preparation)
    (hwhole : Along (fun cache p => p.prog.run.Meets (cacheExec github) WritesWhole p.inputs cache)
      (Preparation.step github) .empty history)
    (hnames : ∀ p ∈ history, ∀ other ∈ history, ¬ p.Mistakes github other) :
    Along (fun cache p => p.HitsTruthful github cache) (Preparation.step github) .empty
      history := by
  have hrun := hwhole.and_mem (R := fun p => p ∈ history) fun p hp => hp
  refine hrun.of_invariant (I := Known github history) ?_ ?_ known_empty
  · intro cache p hknown hp
    exact hknown.step hp.1 hp.2
  · intro cache p hknown hp
    exact hknown.hitsTruthful (hnames p hp.1)

end Histories

theorem not_mistakes_of_same {p other : Preparation} (hrepo : p.repo = other.repo)
    (hversion : normalizeWrapperVersion p.wrapperVersion =
      normalizeWrapperVersion other.wrapperVersion) : ¬ p.Mistakes github other := by
  rintro ⟨releaseTag, assetVersion, otherTag, otherVersion, name, bytes, hasks, hfetches, hne, -⟩
  have hother := hfetches.1
  unfold Preparation.Asks at hasks hother
  rw [hversion, hother] at hasks
  cases hasks
  exact hne (by rw [hrepo])

namespace CsharpReleases

/-- A repository with one release, which has one package. -/
def releases : GitHub where
  release repo releaseTag :=
    if repo = "wrapper-csharp" ∧ releaseTag = "v1" then some [⟨7, "hackarena3-1.nupkg"⟩] else none
  asset _ id := if id = 7 then [80, 75] else []

def prepare (wrapperVersion : String) (inputs : ℕ → CacheInput) : Preparation :=
  ⟨"hackarena", .csharp, "wrapper-csharp", wrapperVersion, inputs⟩

def works (_ : ℕ) : CacheInput := .works

/-- The cache is read first and has the package. -/
def hits (n : ℕ) : CacheInput := if n = 0 then .lists ["hackarena3-1.nupkg"] else .works

/-- The seventh call is the one that writes the file. -/
def stopsEarly (n : ℕ) : CacheInput := if n = 6 then .stops 1 else .works

end CsharpReleases

open CsharpReleases in
theorem wrapperCache_truthful_twice :
    Along (fun cache p => p.HitsTruthful releases cache) (Preparation.step releases) .empty
      [prepare "1" works, prepare " v1" hits] := by
  apply wrapperCache_truthful
  · decide +kernel
  · have hone : normalizeWrapperVersion " v1" = normalizeWrapperVersion "1" := by decide +kernel
    have hsame : ∀ p ∈ [prepare "1" works, prepare " v1" hits], p.repo = "wrapper-csharp" ∧
        normalizeWrapperVersion p.wrapperVersion = normalizeWrapperVersion "1" :=
      List.forall_mem_cons.mpr ⟨⟨rfl, rfl⟩, List.forall_mem_singleton.mpr ⟨rfl, hone⟩⟩
    intro p hp other hother
    apply not_mistakes_of_same
    · rw [(hsame p hp).1, (hsame other hother).1]
    · rw [(hsame p hp).2, (hsame other hother).2]

open CsharpReleases in
/-- A build reads what a failed build has left of a file, and a build for
one version gets the package of another. -/
theorem wrapperCache_untruthful :
    ¬ Along (fun cache p => p.HitsTruthful releases cache) (Preparation.step releases) .empty
      [prepare "1" stopsEarly, prepare "1" hits] ∧
    ¬ Along (fun cache p => p.HitsTruthful releases cache) (Preparation.step releases) .empty
      [prepare "1" works, prepare "1." hits] := by
  have hrelease : ∀ bytes, ¬ releases.Offers "wrapper-csharp" "v1." "hackarena3-1.nupkg" bytes := by
    rintro bytes ⟨assets, hassets, -⟩
    have hnone : releases.release "wrapper-csharp" "v1." = none := by decide
    rw [hnone] at hassets
    cases hassets
  have hpart : ¬ releases.Offers "wrapper-csharp" "v1" "hackarena3-1.nupkg" [80] := by
    rintro ⟨assets, hassets, asset, hmem, -, hbytes⟩
    have hsome : releases.release "wrapper-csharp" "v1" = some [⟨7, "hackarena3-1.nupkg"⟩] := by
      decide
    rw [hsome] at hassets
    cases hassets
    obtain rfl := List.mem_singleton.mp hmem
    exact absurd hbytes (by decide)
  have hversion : normalizeWrapperVersion "1" = .ok ("v1", "1") := by decide +kernel
  have hdotted : normalizeWrapperVersion "1." = .ok ("v1.", "1.") := by decide +kernel
  constructor
  · rintro ⟨-, htruthful, -⟩
    exact hpart (htruthful "v1" "1" hversion hits _ _ (by decide +kernel))
  · rintro ⟨-, htruthful, -⟩
    exact hrelease _ (htruthful "v1." "1." hdotted hits _ [80, 75] (by decide +kernel))

end HackArena.Official
