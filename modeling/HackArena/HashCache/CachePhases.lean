import HackArena.HashCache.Cache

/-!
# The phases of a call

What a call has done so far puts it into a phase, and the phase says what
it may do next. A hash gets into memory in two ways: it has been read from
a sidecar, or the file has been read to its end and its metadata were the
same before and after.
-/

namespace HackArena.HashCache

open FileStore

/-- Where a thread stands. `metadata` are those of the first look, or of
the second once both have agreed; `got` is what has been read so far. -/
inductive Phase where
  | idle
  | held (path : Path)
  | looked (path : Path) (metadata : Metadata)
  | sidecarRead (path : Path) (metadata : Metadata) (bytes : List UInt8)
  | hashing (path : Path) (metadata : Metadata) (opened : ℕ) (got : List UInt8)
  | hashed (path : Path) (metadata : Metadata) (opened : ℕ) (got : List UInt8)
  | agreed (path : Path) (metadata : Metadata) (got : List UInt8)
  | writing (path : Path) (metadata : Metadata) (got written : List UInt8)
  deriving DecidableEq

namespace Phase

/-- The path whose lock the thread holds. -/
def path : Phase → Option Path
  | .idle => none
  | .held path | .looked path _ | .sidecarRead path _ _ | .hashing path _ _ _
  | .hashed path _ _ _ | .agreed path _ _ | .writing path _ _ _ => some path

/-- What the thread has found out before it opens the file. -/
def firstLook : Phase → Option (Path × Metadata)
  | .looked path metadata | .sidecarRead path metadata _ => some (path, metadata)
  | _ => none

/-- The file that the thread is hashing, until it looks at it again. -/
def reads : Phase → Option (Path × Metadata × ℕ)
  | .hashing path metadata opened _ | .hashed path metadata opened _ =>
      some (path, metadata, opened)
  | _ => none

theorem path_of_firstLook {phase : Phase} {path : Path} {m : Metadata}
    (h : phase.firstLook = some (path, m)) : phase.path = some path := by
  cases phase with
  | looked | sidecarRead =>
      simp only [Phase.firstLook, Option.some.injEq, Prod.mk.injEq] at h
      rw [← h.1]
      rfl
  | _ => cases h

/-- What the thread keeps the hash of. -/
def keeps : Phase → Option (Path × Metadata × List UInt8)
  | .agreed path metadata got | .writing path metadata got _ => some (path, metadata, got)
  | _ => none

theorem path_of_keeps {phase : Phase} {path : Path} {m : Metadata} {got : List UInt8}
    (h : phase.keeps = some (path, m, got)) : phase.path = some path := by
  cases phase with
  | agreed | writing =>
      simp only [Phase.keeps, Option.some.injEq, Prod.mk.injEq] at h
      rw [← h.1]
      rfl
  | _ => cases h

def look (phase : Phase) (metadata : Metadata) : Phase :=
  match phase with
  | .held path => .looked path metadata
  | .hashed path before opened got =>
      if sameMtime before.modified metadata.modified ∧ before.size = metadata.size then
        .agreed path metadata got
      else .hashed path before opened got
  | phase => phase

def readOn (phase : Phase) (chunk : List UInt8) : Phase :=
  match phase with
  | .hashing path metadata opened got =>
      if chunk = [] then .hashed path metadata opened got
      else .hashing path metadata opened (got ++ chunk)
  | phase => phase

def wrote (phase : Phase) (bytes : List UInt8) (ok : Bool) : Phase :=
  match phase with
  | .writing path metadata got written =>
      if ok then .writing path metadata got (written ++ bytes) else .agreed path metadata got
  | phase => phase

def next (phase : Phase) : (op : CacheOp) → op.Answer → Phase
  | .lock path, _ => .held path
  | .unlock _, _ => .idle
  | .metadata _, some metadata => phase.look metadata
  | .read _, some bytes => match phase with
      | .looked path metadata => .sidecarRead path metadata bytes
      | phase => phase
  | .openFile _, some opened => match phase.firstLook with
      | some (path, metadata) => .hashing path metadata opened []
      | none => phase
  | .readChunk .., some chunk => phase.readOn chunk
  | .create _, true => match phase with
      | .agreed path metadata got => .writing path metadata got []
      | phase => phase
  | .writeAll _ bytes, ok => phase.wrote bytes ok
  | .rename .., _ => match phase with
      | .writing path metadata got _ => .agreed path metadata got
      | phase => phase
  | _, _ => phase

end Phase

section Protocol

variable (sidecarDir : Option Path) (sha256 : List UInt8 → Digest) (Assets : Path → Prop)

/-- The hash that a thread may put into memory for a path. -/
def MayInsert (phase : Phase) (path : Path) (entry : MemEntry) : Prop :=
  (∃ got, phase.keeps = some (path, ⟨entry.mtime, entry.size⟩, got) ∧ entry.hash = sha256 got) ∨
    ∃ bytes, phase = .sidecarRead path ⟨entry.mtime, entry.size⟩ bytes ∧
      parseSidecar bytes entry.mtime entry.size = some entry.hash

/-- What a thread may do in a phase. Only assets are hashed, and only
assets are rewritten from outside. -/
def Permits (phase : Phase) : CacheOp → Prop
  | .lock path => phase = .idle ∧ Assets path
  | .unlock path => phase.path = some path
  | .memGet _ | .memRemove _ | .createDirAll _ | .flush _ => True
  | .memInsert path entry => MayInsert sha256 phase path entry
  | .metadata path => phase.path = some path
  | .openFile path => ∃ metadata, phase.firstLook = some (path, metadata)
  | .readChunk path opened offset => ∃ metadata got,
      phase = .hashing path metadata opened got ∧ offset = got.length
  | .read file => ∃ path metadata, phase = .looked path metadata ∧
      sidecarPathFor sidecarDir path = some file
  | .create file => ∃ path metadata got sidecar, phase = .agreed path metadata got ∧
      sidecarPathFor sidecarDir path = some sidecar ∧ file = sidecarTmp sidecar
  | .writeAll file _ => ∃ path metadata got written sidecar,
      phase = .writing path metadata got written ∧
        sidecarPathFor sidecarDir path = some sidecar ∧ file = sidecarTmp sidecar
  | .removeFile file => ∃ path metadata got written, phase = .writing path metadata got written ∧
      sidecarPathFor sidecarDir path = some file
  | .rename file target => ∃ path metadata got written,
      phase = .writing path metadata got written ∧
        sidecarPathFor sidecarDir path = some target ∧ file = sidecarTmp target ∧
        written = sidecarBytes metadata.modified metadata.size (sha256 got)
  | .rewrite path _ => phase = .idle ∧ Assets path

def cacheProtocol : Protocol CacheOp CacheOp.Answer Phase where
  init := .idle
  next := Phase.next
  permits := Permits sidecarDir sha256 Assets

/-- The task is about assets. -/
def Task.On : Task → Prop
  | .getOrCompute path _ => Assets path
  | .invalidate _ => True
  | .rewrite changes => ∀ change ∈ changes, Assets change.1

end Protocol

/-! ## The functions keep to the protocol -/

section Follows

variable {sidecarDir : Option Path} {sha256 : List UInt8 → Digest} {Assets : Path → Prop}
  {path : Path} {metadata : Metadata}

/-- How the computation of a hash ends. -/
def HashPost (sha256 : List UInt8 → Digest) (path : Path) (metadata : Metadata) (outcome : Outcome)
    (phase : Phase) : Prop :=
  phase.path = some path ∧ ∀ hash, outcome = .ok hash →
    ∃ opened got, phase = .hashed path metadata opened got ∧ hash = sha256 got

theorem readLoop_follows (opened fuel : ℕ) (got : List UInt8) :
    (readLoop sha256 path opened fuel got).Follows (cacheProtocol sidecarDir sha256 Assets)
      (HashPost sha256 path metadata) (.hashing path metadata opened got) := by
  induction fuel generalizing got with
  | zero => exact ⟨rfl, nofun⟩
  | succ fuel ih =>
      refine .call ⟨metadata, got, rfl, rfl⟩ fun answer => ?_
      match answer with
      | none => exact ⟨rfl, nofun⟩
      | some [] =>
          refine ⟨rfl, fun hash hhash => ⟨opened, got, rfl, ?_⟩⟩
          exact (Outcome.ok.inj hhash).symm
      | some (b :: chunk) => exact ih (got ++ b :: chunk)

theorem computeSha256_follows {phase : Phase} (hphase : phase.firstLook = some (path, metadata))
    (fuel : ℕ) : (computeSha256 sha256 path fuel).Follows
      (cacheProtocol sidecarDir sha256 Assets) (HashPost sha256 path metadata) phase := by
  have hpath := Phase.path_of_firstLook hphase
  refine .call ⟨metadata, hphase⟩ fun answer => ?_
  cases answer with
  | none => exact ⟨hpath, nofun⟩
  | some opened =>
      have hnext : (cacheProtocol sidecarDir sha256 Assets).next phase (.openFile path)
          (some opened) = .hashing path metadata opened [] := by
        simp [cacheProtocol, Phase.next, hphase]
      rw [hnext]
      exact readLoop_follows opened fuel []

theorem writeParts_follows {sidecar : Path} {got : List UInt8} {tmp : Path}
    (hsidecar : sidecarPathFor sidecarDir path = some sidecar) (htmp : tmp = sidecarTmp sidecar)
    (parts : List (List UInt8)) (written : List UInt8) :
    (writeParts tmp parts).Follows (cacheProtocol sidecarDir sha256 Assets)
      (fun ok phase => phase.keeps = some (path, metadata, got) ∧
        (ok = true → phase = .writing path metadata got (written ++ parts.flatten)))
      (.writing path metadata got written) := by
  induction parts generalizing written with
  | nil => exact ⟨rfl, fun _ => by simp⟩
  | cons part parts ih =>
      refine .call ⟨path, metadata, got, written, sidecar, rfl, hsidecar, htmp⟩ fun ok => ?_
      cases ok with
      | false => exact ⟨rfl, nofun⟩
      | true =>
          have hrest := ih (written ++ part)
          rw [List.append_assoc, ← List.flatten_cons] at hrest
          exact hrest

theorem writeSidecar_follows (got : List UInt8) :
    (writeSidecar sidecarDir path metadata (sha256 got)).Follows
      (cacheProtocol sidecarDir sha256 Assets)
      (fun _ phase => phase.keeps = some (path, metadata, got)) (.agreed path metadata got) := by
  unfold writeSidecar
  split
  · rfl
  · rename_i sidecar hsidecar
    refine .call trivial fun _ => .call ⟨path, metadata, got, sidecar, rfl, hsidecar, rfl⟩
      fun created => ?_
    cases created with
    | false => rfl
    | true =>
        refine .andThen (writeParts_follows hsidecar rfl _ []) ?_
        rintro ok phase ⟨hkeeps, hok⟩
        cases ok with
        | false => exact hkeeps
        | true =>
            obtain rfl := hok rfl
            refine .call trivial fun flushed => ?_
            cases flushed with
            | false => exact hkeeps
            | true =>
                refine .call ⟨path, metadata, got, _, rfl, hsidecar⟩ fun _ => ?_
                exact ⟨⟨path, metadata, got, _, rfl, hsidecar, rfl, rfl⟩, fun _ => rfl⟩

theorem computeAndKeep_follows {phase : Phase} (hphase : phase.firstLook = some (path, metadata))
    (fuel : ℕ) : (computeAndKeep sidecarDir sha256 path metadata fuel).Follows
      (cacheProtocol sidecarDir sha256 Assets) (fun _ phase' => phase'.path = some path) phase := by
  refine .andThen (computeSha256_follows hphase fuel) ?_
  rintro outcome phase' ⟨hpath, hok⟩
  cases outcome with
  | failed | unfinished => exact hpath
  | ok hash =>
      obtain ⟨opened, got, rfl, rfl⟩ := hok hash rfl
      refine .call rfl fun answer => ?_
      cases answer with
      | none => rfl
      | some metadata2 =>
          have hnext : (cacheProtocol sidecarDir sha256 Assets).next
              (.hashed path metadata opened got) (.metadata path) (some metadata2) =
                (Phase.hashed path metadata opened got).look metadata2 := rfl
          rw [hnext, Phase.look]
          by_cases hsame : sameMtime metadata.modified metadata2.modified ∧
              metadata.size = metadata2.size
          · have hcode : (!sameMtime metadata.modified metadata2.modified ||
                metadata.size != metadata2.size) = false := by simp [hsame]
            simp only [hcode, Bool.false_eq_true, if_false, if_pos hsame]
            refine .andThen (writeSidecar_follows got) ?_
            intro _ phase' hkeeps
            exact .call (Or.inl ⟨got, hkeeps, rfl⟩) fun _ => Phase.path_of_keeps hkeeps
          · have hcode : (!sameMtime metadata.modified metadata2.modified ||
                metadata.size != metadata2.size) = true := by
              simpa [imp_iff_not_or] using hsame
            simp only [hcode, if_true, if_neg hsame]
            rfl

theorem lookUpOrCompute_follows (fuel : ℕ) :
    (lookUpOrCompute sidecarDir sha256 path fuel).Follows (cacheProtocol sidecarDir sha256 Assets)
      (fun _ phase => phase.path = some path) (.held path) := by
  have hafter (metadata : Metadata) :
      (lookUpOrCompute.afterMemory sidecarDir sha256 path fuel metadata).Follows
        (cacheProtocol sidecarDir sha256 Assets) (fun _ phase => phase.path = some path)
        (.looked path metadata) := by
    unfold lookUpOrCompute.afterMemory tryReadSidecar
    cases hsidecar : sidecarPathFor sidecarDir path with
    | none => exact computeAndKeep_follows rfl fuel
    | some sidecar =>
        refine .bind (.call ⟨path, metadata, rfl, hsidecar⟩ fun answer => ?_)
        cases answer with
        | none => exact computeAndKeep_follows rfl fuel
        | some bytes =>
            cases hparse : parseSidecar bytes metadata.modified metadata.size with
            | none =>
                dsimp only
                rw [hparse]
                exact computeAndKeep_follows rfl fuel
            | some hash =>
                dsimp only
                rw [hparse]
                exact .call (Or.inr ⟨bytes, rfl, hparse⟩) fun _ => rfl
  refine .call rfl fun answer => ?_
  cases answer with
  | none => rfl
  | some metadata =>
      refine .call trivial fun hit => ?_
      cases hit with
      | none => exact hafter metadata
      | some entry =>
          dsimp only
          split
          · rfl
          · exact hafter metadata

theorem getOrCompute_follows (hpath : Assets path) (fuel : ℕ) :
    (getOrCompute sidecarDir sha256 path fuel).Follows (cacheProtocol sidecarDir sha256 Assets)
      (fun _ _ => True) .idle := by
  refine .call ⟨rfl, hpath⟩ fun _ => .andThen (lookUpOrCompute_follows fuel) ?_
  intro outcome phase hphase
  cases outcome with
  | unfinished => trivial
  | ok | failed => exact .call hphase fun _ => trivial

theorem rewriteFiles_follows {changes : List (Path × Option File)}
    (h : ∀ change ∈ changes, Assets change.1) :
    (rewriteFiles changes).Follows (cacheProtocol sidecarDir sha256 Assets) (fun _ _ => True)
      .idle := by
  induction changes with
  | nil => trivial
  | cons change changes ih =>
      refine .call ⟨rfl, h change List.mem_cons_self⟩ fun _ => ?_
      exact ih fun other hother => h other (List.mem_cons_of_mem change hother)

theorem Task.follows {t : Task} (h : t.On Assets) :
    (t.program sidecarDir sha256).Follows (cacheProtocol sidecarDir sha256 Assets)
      (fun _ _ => True) .idle := by
  cases t with
  | getOrCompute path fuel => exact getOrCompute_follows h fuel
  | invalidate path => exact .call trivial fun _ => trivial
  | rewrite changes => exact rewriteFiles_follows h

end Follows

end HackArena.HashCache
