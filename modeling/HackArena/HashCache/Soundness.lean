import HackArena.HashCache.CachePhases
import Mathlib.Data.List.Infix

/-!
# Soundness of the hash cache

An entry in memory holds the hash of what the file contained at the size
and the time in the entry. Nothing else is promised of the sidecars than
that none of them is accepted. A hash computed while the file changes is
discarded, as long as no change brings the size and the second back that
the call has seen first.
-/

namespace HackArena.HashCache

open FileStore GuardedRun

/-! ## What is kept and what is assumed -/

/-- The version of a file has these metadata, up to the second. -/
def Shows (m : Metadata) (v : Option File) : Prop :=
  ∃ f, v = some f ∧ f.content.length = m.size ∧ sameMtime m.modified f.modified = true

/-- Versions of an asset that agree in size and second agree. -/
def Determined (Assets : Path → Prop) (d : Disk Path) : Prop :=
  ∀ path f g, Assets path → some f ∈ d.versions path → some g ∈ d.versions path →
    f.content.length = g.content.length → sameMtime f.modified g.modified = true →
    f.content = g.content

/-- Some version of the file has these metadata and this hash. -/
def HashOf (sha256 : List UInt8 → Digest) (d : Disk Path) (path : Path) (m : Metadata)
    (hash : List UInt8) : Prop :=
  ∃ f, some f ∈ d.versions path ∧ f.content.length = m.size ∧
    sameMtime m.modified f.modified = true ∧ hash = sha256 f.content

/-- Every entry in memory has the hash of the version it was made for. -/
def MemSound (sha256 : List UInt8 → Digest) (s : CacheState) : Prop :=
  ∀ path e, s.mem path = some e → HashOf sha256 s.disk path ⟨e.mtime, e.size⟩ e.hash

/-- No two assets have the same sidecar name, and no asset stands where a
sidecar or its temporary file belongs. -/
structure Unshared (sidecarDir : Option Path) (Assets : Path → Prop) : Prop where
  names : ∀ a b, Assets a → Assets b → SameSidecarName sidecarDir a b → a = b
  assets : ∀ a b sidecar, Assets a → Assets b → sidecarPathFor sidecarDir b = some sidecar →
    a ≠ sidecar ∧ a ≠ sidecarTmp sidecar

theorem sameMtime_symm {a b : SystemTime} (h : sameMtime a b = true) : sameMtime b a = true := by
  obtain ⟨secs, ha, hb⟩ := sameMtime_iff.mp h
  exact sameMtime_iff.mpr ⟨secs, hb, ha⟩

theorem sameMtime_trans {a b c : SystemTime} (h : sameMtime a b = true)
    (h' : sameMtime b c = true) : sameMtime a c = true := by
  obtain ⟨secs, ha, hb⟩ := sameMtime_iff.mp h
  obtain ⟨secs', hb', hc⟩ := sameMtime_iff.mp h'
  have hsecs : secs = secs' := Option.some.inj (hb.symm.trans hb')
  exact sameMtime_iff.mpr ⟨secs, ha, hsecs ▸ hc⟩

theorem Shows.of_versions {Assets : Path → Prop} {d : Disk Path} (hd : Determined Assets d)
    {path : Path} (hasset : Assets path) {m : Metadata} {f : File} {v : Option File}
    (hf : some f ∈ d.versions path) (hv : v ∈ d.versions path) (hshows : Shows m (some f))
    (hv' : Shows m v) : v.map File.content = some f.content := by
  obtain ⟨f', hf', hsize, htime⟩ := hshows
  obtain rfl := Option.some.inj hf'
  obtain ⟨g, rfl, hsize', htime'⟩ := hv'
  have hcontent := hd path g f hasset hv hf (hsize'.trans hsize.symm)
    (sameMtime_trans (sameMtime_symm htime') htime)
  rw [Option.map_some, hcontent]

/-! ## The files of different assets -/

section Sidecars

variable {sidecarDir : Option Path} {Assets : Path → Prop} (h : Unshared sidecarDir Assets)
  {a b sidecar sidecar' : Path}

include h

theorem Unshared.sidecar_eq (ha : Assets a) (hsidecar : sidecarPathFor sidecarDir a = some sidecar) :
    ∃ dir x, x ≠ [] ∧ sidecar = dir ++ [x ++ 46 :: ascii "sha256"] :=
  exists_sidecar_eq hsidecar (h.assets a a sidecar ha ha hsidecar).1

theorem Unshared.sidecar_ne (ha : Assets a) (hb : Assets b) (hne : a ≠ b)
    (hsidecar : sidecarPathFor sidecarDir a = some sidecar) :
    sidecarPathFor sidecarDir b ≠ some sidecar := by
  intro hsidecar'
  cases hx : a.fileName with
  | none =>
      cases sidecarDir with
      | some dir => simp [sidecarPathFor, hx] at hsidecar
      | none =>
          rw [sidecarPathFor, Path.withExtension, hx] at hsidecar
          exact (h.assets a b sidecar ha hb hsidecar').1 (Option.some.inj hsidecar)
  | some x =>
      cases hy : b.fileName with
      | none =>
          cases sidecarDir with
          | some dir => simp [sidecarPathFor, hy] at hsidecar'
          | none =>
              rw [sidecarPathFor, Path.withExtension, hy] at hsidecar'
              exact (h.assets b a sidecar hb ha hsidecar).1 (Option.some.inj hsidecar')
      | some y =>
          have hsame := (sidecarPathFor_eq_iff hx hy).mp (hsidecar.trans hsidecar'.symm)
          exact hne (h.names a b ha hb hsame)

theorem Unshared.tmp_ne_sidecar (ha : Assets a) (hb : Assets b)
    (hsidecar : sidecarPathFor sidecarDir a = some sidecar)
    (hsidecar' : sidecarPathFor sidecarDir b = some sidecar') : sidecarTmp sidecar ≠ sidecar' := by
  obtain ⟨dir, x, hx, rfl⟩ := h.sidecar_eq ha hsidecar
  obtain ⟨dir', x', -, rfl⟩ := h.sidecar_eq hb hsidecar'
  exact sidecarTmp_ne hx

theorem Unshared.tmp_ne_tmp (ha : Assets a) (hb : Assets b) (hne : a ≠ b)
    (hsidecar : sidecarPathFor sidecarDir a = some sidecar)
    (hsidecar' : sidecarPathFor sidecarDir b = some sidecar') :
    sidecarTmp sidecar ≠ sidecarTmp sidecar' := by
  intro htmp
  obtain ⟨dir, x, hx, hdir⟩ := h.sidecar_eq ha hsidecar
  obtain ⟨dir', x', hx', hdir'⟩ := h.sidecar_eq hb hsidecar'
  rw [hdir, hdir'] at htmp
  obtain ⟨rfl, rfl⟩ := sidecarTmp_injective hx hx' htmp
  exact h.sidecar_ne ha hb hne hsidecar (hsidecar'.trans (by rw [hdir, hdir']))

end Sidecars

/-! ## What holds of a thread -/

def Rejected (bytes : List UInt8) : Prop := ∀ now size, parseSidecar bytes now size = none

/-- A file that is open for hashing: either it has looked all the time as
it did first, or it does not look so now. -/
structure OpenSince (d : Disk Path) (path : Path) (m : Metadata) (opened : ℕ) : Prop where
  opened_le : opened ≤ (d.versions path).length
  still : (∀ v ∈ d.since path opened, Shows m v) ∨ ¬ Shows m (d.current path)

/-- The file has had only this content since it was opened. -/
def Constant (d : Disk Path) (path : Path) (opened : ℕ) (content : List UInt8) : Prop :=
  ∀ v ∈ d.since path opened, v.map File.content = some content

def Described (sidecarDir : Option Path) (sha256 : List UInt8 → Digest) (d : Disk Path) :
    Phase → Prop
  | .sidecarRead _ _ bytes => Rejected bytes
  | .hashing path m opened got => OpenSince d path m opened ∧
      ∀ content, Constant d path opened content → got = content.take got.length
  | .hashed path m opened got => OpenSince d path m opened ∧
      ∀ content, Constant d path opened content → got = content
  | .agreed path m got => HashOf sha256 d path m (sha256 got)
  | .writing path m got written => HashOf sha256 d path m (sha256 got) ∧
      ∀ sidecar, sidecarPathFor sidecarDir path = some sidecar →
        (d.current (sidecarTmp sidecar)).map File.content = some written
  | _ => True

section Threads

variable {sidecarDir : Option Path} {sha256 : List UInt8 → Digest} {d d' : Disk Path}
  {path : Path} {m : Metadata} {opened : ℕ}

theorem HashOf.mono (hgrow : d.versions path <:+ d'.versions path) {hash : List UInt8}
    (h : HashOf sha256 d path m hash) : HashOf sha256 d' path m hash := by
  obtain ⟨f, hf, hrest⟩ := h
  exact ⟨f, hgrow.subset hf, hrest⟩

theorem OpenSince.congr (hversions : d'.versions path = d.versions path)
    (h : OpenSince d path m opened) : OpenSince d' path m opened := by
  refine ⟨hversions ▸ h.opened_le, ?_⟩
  rw [Disk.since_congr hversions, Disk.current_congr hversions]
  exact h.still

theorem Constant.congr (hversions : d'.versions path = d.versions path) {content : List UInt8}
    (h : Constant d' path opened content) : Constant d path opened content := by
  rwa [Constant, Disk.since_congr hversions] at h

/-- A thread is concerned with its asset and the temporary file of its
sidecar only. -/
theorem Described.frame {phase : Phase}
    (hpath : ∀ path, phase.path = some path → d'.versions path = d.versions path)
    (htmp : ∀ path sidecar, phase.path = some path → sidecarPathFor sidecarDir path = some sidecar →
      d'.versions (sidecarTmp sidecar) = d.versions (sidecarTmp sidecar))
    (h : Described sidecarDir sha256 d phase) : Described sidecarDir sha256 d' phase := by
  cases phase with
  | idle | held | looked => trivial
  | sidecarRead => exact h
  | hashing path m opened got =>
      exact ⟨h.1.congr (hpath path rfl), fun content hconstant =>
        h.2 content (hconstant.congr (hpath path rfl))⟩
  | hashed path m opened got =>
      exact ⟨h.1.congr (hpath path rfl), fun content hconstant =>
        h.2 content (hconstant.congr (hpath path rfl))⟩
  | agreed path m got => exact HashOf.mono (hpath path rfl ▸ List.suffix_refl _) h
  | writing path m got written =>
      refine ⟨h.1.mono (hpath path rfl ▸ List.suffix_refl _), fun sidecar hsidecar => ?_⟩
      rw [Disk.current_congr (htmp path sidecar rfl hsidecar)]
      exact h.2 sidecar hsidecar

theorem Described.hashOf {phase : Phase} {got : List UInt8}
    (h : Described sidecarDir sha256 d phase) (hkeeps : phase.keeps = some (path, m, got)) :
    HashOf sha256 d path m (sha256 got) := by
  cases phase with
  | agreed =>
      simp only [Phase.keeps, Option.some.injEq, Prod.mk.injEq] at hkeeps
      obtain ⟨rfl, rfl, rfl⟩ := hkeeps
      exact h
  | writing =>
      simp only [Phase.keeps, Option.some.injEq, Prod.mk.injEq] at hkeeps
      obtain ⟨rfl, rfl, rfl⟩ := hkeeps
      exact h.1
  | _ => cases hkeeps

theorem OpenSince.of_open {f : File} (h : d.current path = some f) :
    OpenSince d path m (d.versions path).length := by
  refine ⟨le_rfl, ?_⟩
  by_cases hshows : Shows m (some f)
  · exact Or.inl fun v hv => Disk.mem_since_length h hv ▸ hshows
  · exact Or.inr (h ▸ hshows)

/-- A new version of the open file, which does not bring back what has
been there. -/
theorem OpenSince.put (h : OpenSince d path m opened) {v : Option File}
    (hreturn : (∃ u ∈ d.since path opened, ¬ Shows m u) → ¬ Shows m v) :
    OpenSince (d.put path v) path m opened := by
  refine ⟨?_, ?_⟩
  · rw [Disk.versions_put_self, List.length_cons]
    exact h.opened_le.trans (Nat.le_succ _)
  · rw [Disk.since_put_self h.opened_le, Disk.current_put_self]
    by_cases hall : ∀ u ∈ d.since path opened, Shows m u
    · by_cases hv : Shows m v
      · exact Or.inl (List.forall_mem_cons.mpr ⟨hv, hall⟩)
      · exact Or.inr hv
    · push Not at hall
      exact Or.inr (hreturn hall)

theorem Constant.of_put (hopened : opened ≤ (d.versions path).length) {v : Option File}
    {content : List UInt8} (h : Constant (d.put path v) path opened content) :
    Constant d path opened content := by
  rw [Constant, Disk.since_put_self hopened] at h
  exact fun u hu => h u (List.mem_cons_of_mem v hu)

/-- What a read yields of a file whose content has not changed. -/
theorem readFrom_of_constant {content : List UInt8} {got : List UInt8} {v : Option File}
    (hv : v.map File.content = some content) (hgot : got = content.take got.length)
    (length : ℕ) :
    got ++ readFrom v got.length length =
        content.take (got ++ readFrom v got.length length).length ∧
      (readFrom v got.length length = [] → got = content) := by
  obtain ⟨f, rfl, rfl⟩ := Option.map_eq_some_iff.mp hv
  have hle : got.length ≤ f.content.length := by
    have hlength := congrArg List.length hgot
    rw [List.length_take] at hlength
    omega
  have hchunk : readFrom (some f) got.length length =
      (f.content.drop got.length).take (max 1 (min length BUF_SIZE)) := rfl
  constructor
  · have htake : ∀ n, got ++ (f.content.drop got.length).take n =
        f.content.take (got.length + n) := by
      intro n
      conv_lhs => rw [hgot]
      rw [List.length_take, Nat.min_eq_left hle, List.take_add]
    rw [hchunk, htake, List.length_take]
    exact List.take_eq_take_min
  · intro hnil
    rw [hchunk, List.take_eq_nil_iff] at hnil
    rcases hnil with hzero | hdrop
    · omega
    · rw [List.drop_eq_nil_iff] at hdrop
      rw [hgot, List.take_of_length_le hdrop]

end Threads

/-! ## The invariant -/

/-- The calls under way exclude each other path by path, and each knows
what its phase says. -/
structure CacheInv (sidecarDir : Option Path) (sha256 : List UInt8 → Digest) (Assets : Path → Prop)
    (s : CacheState) (phases : ℕ → Phase) : Prop where
  holds : ∀ i path, (phases i).path = some path → Assets path ∧ s.locked path = true
  exclusive : ∀ i j path, (phases i).path = some path → (phases j).path = some path → i = j
  memory : MemSound sha256 s
  sidecars : ∀ asset sidecar f, Assets asset → sidecarPathFor sidecarDir asset = some sidecar →
    s.disk.current sidecar = some f → Rejected f.content
  threads : ∀ i, Described sidecarDir sha256 s.disk (phases i)

section Steps

variable {sidecarDir : Option Path} {sha256 : List UInt8 → Digest} {Assets : Path → Prop}
  {s s' : CacheState} {phases : ℕ → Phase} {i : ℕ} {phase : Phase}

/-- A call that changes neither the disk nor the locks, nor the path that
the thread is concerned with. -/
theorem CacheInv.read (h : CacheInv sidecarDir sha256 Assets s phases)
    (hdisk : s'.disk = s.disk) (hlocked : s'.locked = s.locked) (hmem : MemSound sha256 s')
    (hpath : phase.path = (phases i).path)
    (hphase : Described sidecarDir sha256 s.disk phase) :
    CacheInv sidecarDir sha256 Assets s' (Function.update phases i phase) := by
  have hpaths : ∀ j, (Function.update phases i phase j).path = (phases j).path := by
    intro j
    by_cases hj : j = i
    · rw [hj, Function.update_self, hpath]
    · rw [Function.update_of_ne hj]
  refine ⟨fun j path hj => ?_, fun j k path hj hk => ?_, hmem, ?_, fun j => ?_⟩
  · rw [hlocked]
    exact h.holds j path (hpaths j ▸ hj)
  · exact h.exclusive j k path (hpaths j ▸ hj) (hpaths k ▸ hk)
  · rw [hdisk]
    exact h.sidecars
  · rw [hdisk]
    by_cases hj : j = i
    · rw [hj, Function.update_self]
      exact hphase
    · rw [Function.update_of_ne hj]
      exact h.threads j

/-- A thread changes the sidecar of its asset or the temporary file. -/
theorem CacheInv.write (hunshared : Unshared sidecarDir Assets)
    (h : CacheInv sidecarDir sha256 Assets s phases) {path sidecar : Path}
    (hholds : (phases i).path = some path) (hsidecar : sidecarPathFor sidecarDir path = some sidecar)
    {disk : Disk Path} (hgrow : ∀ p, s.disk.versions p <:+ disk.versions p)
    (hother : ∀ p, p ≠ sidecar → p ≠ sidecarTmp sidecar → disk.versions p = s.disk.versions p)
    (hrejected : ∀ f, disk.current sidecar = some f → Rejected f.content)
    (hpath : phase.path = some path) (hphase : Described sidecarDir sha256 disk phase) :
    CacheInv sidecarDir sha256 Assets { s with disk := disk } (Function.update phases i phase) := by
  have hasset := (h.holds i path hholds).1
  have hpaths : ∀ j, (Function.update phases i phase j).path = (phases j).path := by
    intro j
    by_cases hj : j = i
    · rw [hj, Function.update_self, hpath, hholds]
    · rw [Function.update_of_ne hj]
  refine ⟨fun j p hj => h.holds j p (hpaths j ▸ hj),
    fun j k p hj hk => h.exclusive j k p (hpaths j ▸ hj) (hpaths k ▸ hk),
    fun p e he => (h.memory p e he).mono (hgrow p), ?_, fun j => ?_⟩
  · intro asset other f hasset' hother' hf
    by_cases heq : asset = path
    · subst heq
      obtain rfl := Option.some.inj (hsidecar.symm.trans hother')
      exact hrejected f hf
    · have hne : other ≠ sidecar := fun hsame =>
        hunshared.sidecar_ne hasset' hasset heq hother' (hsame ▸ hsidecar)
      have hne' := hunshared.tmp_ne_sidecar hasset hasset' hsidecar hother'
      rw [Disk.current_congr (hother other hne hne'.symm)] at hf
      exact h.sidecars asset other f hasset' hother' hf
  · by_cases hj : j = i
    · rw [hj, Function.update_self]
      exact hphase
    · rw [Function.update_of_ne hj]
      refine (h.threads j).frame (fun p hp => ?_) fun p other hp hother' => ?_
      · obtain ⟨hne, hne'⟩ := hunshared.assets p path sidecar (h.holds j p hp).1 hasset hsidecar
        exact hother p hne hne'
      · have hp' := (h.holds j p hp).1
        have hdistinct : p ≠ path := by
          rintro rfl
          exact hj (h.exclusive j i p hp hholds)
        refine hother _ (hunshared.tmp_ne_sidecar hp' hasset hother' hsidecar) ?_
        exact hunshared.tmp_ne_tmp hp' hasset hdistinct hother' hsidecar

/-- Someone else rewrites an asset. -/
theorem CacheInv.rewrite (hunshared : Unshared sidecarDir Assets)
    (h : CacheInv sidecarDir sha256 Assets s phases) {path : Path} (hasset : Assets path)
    {version : Option File}
    (hreturn : ∀ j m opened, (phases j).reads = some (path, m, opened) →
      (∃ u ∈ s.disk.since path opened, ¬ Shows m u) → ¬ Shows m version) :
    CacheInv sidecarDir sha256 Assets { s with disk := s.disk.put path version } phases := by
  have hgrow : ∀ p, s.disk.versions p <:+ (s.disk.put path version).versions p := by
    intro p
    by_cases hp : p = path
    · rw [hp, Disk.versions_put_self]
      exact List.suffix_cons _ _
    · rw [Disk.versions_put_ne hp]
  have hsidecar : ∀ asset sidecar, Assets asset → sidecarPathFor sidecarDir asset = some sidecar →
      sidecar ≠ path ∧ sidecarTmp sidecar ≠ path := by
    intro asset sidecar hasset' hsidecar
    obtain ⟨hne, hne'⟩ := hunshared.assets path asset sidecar hasset hasset' hsidecar
    exact ⟨hne.symm, hne'.symm⟩
  refine ⟨h.holds, h.exclusive, fun p e he => (h.memory p e he).mono (hgrow p), ?_, fun j => ?_⟩
  · intro asset sidecar f hasset' hpathFor hf
    rw [Disk.current_put_ne (hsidecar asset sidecar hasset' hpathFor).1] at hf
    exact h.sidecars asset sidecar f hasset' hpathFor hf
  · have hj := h.threads j
    by_cases hsame : (phases j).path = some path
    · have hreturn' := hreturn j
      have hholds := h.holds j
      cases hphase : phases j with
      | idle | held | looked => trivial
      | sidecarRead =>
          rw [hphase] at hj
          exact hj
      | hashing p m opened got =>
          rw [hphase] at hj hsame hreturn'
          obtain rfl := Option.some.inj hsame
          exact ⟨hj.1.put (hreturn' m opened rfl), fun content hconstant =>
            hj.2 content (hconstant.of_put hj.1.opened_le)⟩
      | hashed p m opened got =>
          rw [hphase] at hj hsame hreturn'
          obtain rfl := Option.some.inj hsame
          exact ⟨hj.1.put (hreturn' m opened rfl), fun content hconstant =>
            hj.2 content (hconstant.of_put hj.1.opened_le)⟩
      | agreed p m got =>
          rw [hphase] at hj
          exact HashOf.mono (hgrow p) hj
      | writing p m got written =>
          rw [hphase] at hj hholds
          refine ⟨hj.1.mono (hgrow p), fun sidecar hpathFor => ?_⟩
          rw [Disk.current_put_ne (hsidecar p sidecar (hholds p rfl).1 hpathFor).2]
          exact hj.2 sidecar hpathFor
    · refine hj.frame (fun p hp => ?_) fun p sidecar hp hpathFor => ?_
      · refine Disk.versions_put_ne ?_
        rintro rfl
        exact hsame hp
      · exact Disk.versions_put_ne (hsidecar p sidecar (h.holds j p hp).1 hpathFor).2

end Steps

/-! ## Every permitted call keeps it -/

section Calls

variable {sidecarDir : Option Path} {sha256 : List UInt8 → Digest} {Assets : Path → Prop}
  {s : CacheState} {phases : ℕ → Phase} {i : ℕ}

/-- No rewrite brings the metadata back that a call has seen before it
opened the file, once the file has looked otherwise since. -/
def NoReturn (phases : ℕ → Phase) (d : Disk Path) : CacheOp → Prop
  | .rewrite path version => ∀ j m opened, (phases j).reads = some (path, m, opened) →
      (∃ u ∈ d.since path opened, ¬ Shows m u) → ¬ Shows m version
  | _ => True

theorem metadata_eq_some {path : Path} {input : CacheInput} {seen : Metadata}
    (h : (exec s (.metadata path) input).2 = some seen) :
    ∃ f, s.disk.current path = some f ∧ ⟨f.modified, f.content.length⟩ = seen := by
  simp only [exec] at h
  split at h
  · cases h
  · exact Option.map_eq_some_iff.mp h

theorem openFile_eq_some {path : Path} {input : CacheInput} {opened : ℕ}
    (h : (exec s (.openFile path) input).2 = some opened) :
    ∃ f, s.disk.current path = some f ∧ (s.disk.versions path).length = opened := by
  simp only [exec] at h
  split at h
  · cases h
  · exact Option.map_eq_some_iff.mp h

theorem readChunk_eq_some {path : Path} {input : CacheInput} {opened offset : ℕ}
    {chunk : List UInt8} (h : (exec s (.readChunk path opened offset) input).2 = some chunk) :
    ∃ v ∈ s.disk.since path opened, readFrom v offset input.length = chunk := by
  simp only [exec] at h
  split at h
  · cases h
  · obtain ⟨v, hv, rfl⟩ := Option.map_eq_some_iff.mp h
    exact ⟨v, List.mem_of_getElem? hv, rfl⟩

theorem read_eq_some {file : Path} {input : CacheInput} {bytes : List UInt8}
    (h : (exec s (.read file) input).2 = some bytes) :
    ∃ f, s.disk.current file = some f ∧ f.content = bytes := by
  simp only [exec] at h
  split at h
  · cases h
  · exact Option.map_eq_some_iff.mp h

/-- The lock that a call waits for. -/
def CacheOp.awaits : CacheOp → Option Path
  | .lock path => some path
  | _ => none

/-- A lock is given to one thread at a time. -/
def LockFree (s : CacheState) (op : CacheOp) : Prop := ∀ path ∈ op.awaits, s.locked path = false

instance (s : CacheState) (op : CacheOp) : Decidable (LockFree s op) :=
  inferInstanceAs (Decidable (∀ path ∈ op.awaits, s.locked path = false))

theorem CacheInv.lock (h : CacheInv sidecarDir sha256 Assets s phases) {path : Path}
    (hasset : Assets path) (hfree : s.locked path = false) :
    CacheInv sidecarDir sha256 Assets { s with locked := Function.update s.locked path true }
      (Function.update phases i (.held path)) := by
  have hfree' : ∀ j, (phases j).path ≠ some path := fun j hj => by
    have hlocked := (h.holds j path hj).2
    rw [hfree] at hlocked
    cases hlocked
  refine ⟨fun j p hj => ?_, fun j k p hj hk => ?_, h.memory, h.sidecars, fun j => ?_⟩
  · by_cases hij : j = i
    · rw [hij, Function.update_self] at hj
      obtain rfl := Option.some.inj hj
      exact ⟨hasset, Function.update_self ..⟩
    · rw [Function.update_of_ne hij] at hj
      refine ⟨(h.holds j p hj).1, ?_⟩
      have hp : p ≠ path := fun heq => hfree' j (heq ▸ hj)
      change Function.update s.locked path true p = true
      rw [Function.update_of_ne hp]
      exact (h.holds j p hj).2
  · by_cases hij : j = i
    · by_cases hik : k = i
      · rw [hij, hik]
      · rw [hij, Function.update_self] at hj
        rw [Function.update_of_ne hik] at hk
        exact absurd (hk.trans hj.symm) (hfree' k)
    · by_cases hik : k = i
      · rw [Function.update_of_ne hij] at hj
        rw [hik, Function.update_self] at hk
        exact absurd (hj.trans hk.symm) (hfree' j)
      · rw [Function.update_of_ne hij] at hj
        rw [Function.update_of_ne hik] at hk
        exact h.exclusive j k p hj hk
  · by_cases hij : j = i
    · rw [hij, Function.update_self]
      trivial
    · rw [Function.update_of_ne hij]
      exact h.threads j

theorem CacheInv.unlock (h : CacheInv sidecarDir sha256 Assets s phases) {path : Path}
    (hphase : (phases i).path = some path) :
    CacheInv sidecarDir sha256 Assets { s with locked := Function.update s.locked path false }
      (Function.update phases i .idle) := by
  have hne : ∀ j p, (Function.update phases i .idle j).path = some p →
      j ≠ i ∧ (phases j).path = some p := by
    intro j p hj
    by_cases hij : j = i
    · rw [hij, Function.update_self] at hj
      cases hj
    · rw [Function.update_of_ne hij] at hj
      exact ⟨hij, hj⟩
  refine ⟨fun j p hj => ?_, fun j k p hj hk => ?_, h.memory, h.sidecars, fun j => ?_⟩
  · obtain ⟨hij, hj⟩ := hne j p hj
    refine ⟨(h.holds j p hj).1, ?_⟩
    have hp : p ≠ path := by
      rintro rfl
      exact hij (h.exclusive j i p hj hphase)
    change Function.update s.locked path false p = true
    rw [Function.update_of_ne hp]
    exact (h.holds j p hj).2
  · exact h.exclusive j k p (hne j p hj).2 (hne k p hk).2
  · by_cases hij : j = i
    · rw [hij, Function.update_self]
      trivial
    · rw [Function.update_of_ne hij]
      exact h.threads j

theorem CacheInv.memInsert (h : CacheInv sidecarDir sha256 Assets s phases) {path : Path}
    {entry : MemEntry} (hinsert : MayInsert sha256 (phases i) path entry) :
    MemSound sha256 { s with mem := Function.update s.mem path (some entry) } := by
  have hthread := h.threads i
  intro p e he
  change Function.update s.mem path (some entry) p = some e at he
  by_cases hp : p = path
  · rw [hp, Function.update_self] at he
    obtain rfl := Option.some.inj he
    rw [hp]
    rcases hinsert with ⟨got, hkeeps, hhash⟩ | ⟨bytes, hphase, hparse⟩
    · rw [hhash]
      exact hthread.hashOf hkeeps
    · -- no sidecar is accepted
      rw [hphase] at hthread
      rw [hthread entry.mtime entry.size] at hparse
      cases hparse
  · rw [Function.update_of_ne hp] at he
    exact h.memory p e he

/-- When both looks agree, the file has not changed since it was opened. -/
theorem CacheInv.constant (h : CacheInv sidecarDir sha256 Assets s phases)
    (hdet : Determined Assets s.disk) {path : Path} {m : Metadata} {opened : ℕ}
    {got : List UInt8} (hphase : phases i = .hashed path m opened got)
    (hshows : Shows m (s.disk.current path)) :
    Constant s.disk path opened got ∧ ∃ f, s.disk.current path = some f ∧ f.content = got := by
  have hthread := h.threads i
  have hasset := h.holds i path (by rw [hphase]; rfl)
  rw [hphase] at hthread
  obtain ⟨f, hf, hsize, htime⟩ := hshows
  have hshows' : Shows m (some f) := ⟨f, rfl, hsize, htime⟩
  have hconstant : Constant s.disk path opened f.content := by
    intro v hv
    rcases hthread.1.still with hall | hnot
    · exact Shows.of_versions hdet hasset.1 (Disk.some_mem_versions hf)
        (Disk.since_subset opened hv) hshows' (hall v hv)
    · exact absurd (hf ▸ hshows') hnot
  obtain rfl := hthread.2 f.content hconstant
  exact ⟨hconstant, f, hf, rfl⟩

theorem CacheInv.metadata (h : CacheInv sidecarDir sha256 Assets s phases)
    (hdet : Determined Assets s.disk) {path : Path} (hpath : (phases i).path = some path)
    {f : File} (hf : s.disk.current path = some f) :
    ((phases i).look ⟨f.modified, f.content.length⟩).path = (phases i).path ∧
      Described sidecarDir sha256 s.disk ((phases i).look ⟨f.modified, f.content.length⟩) := by
  have hthread := h.threads i
  cases hphase : phases i with
  | held | idle => exact ⟨rfl, trivial⟩
  | looked | sidecarRead | hashing | agreed | writing =>
      rw [hphase] at hthread
      exact ⟨rfl, hthread⟩
  | hashed p m opened got =>
      rw [hphase] at hthread
      obtain rfl : p = path := by
        rw [hphase] at hpath
        exact Option.some.inj hpath
      rw [Phase.look]
      split
      · rename_i hagree
        have hshows : Shows m (s.disk.current p) := ⟨f, hf, hagree.2.symm, hagree.1⟩
        obtain ⟨-, g, hg, rfl⟩ := h.constant hdet hphase hshows
        obtain rfl := Option.some.inj (hf.symm.trans hg)
        have htime : sameMtime f.modified f.modified = true :=
          sameMtime_trans (sameMtime_symm hagree.1) hagree.1
        exact ⟨rfl, f, Disk.some_mem_versions hf, rfl, htime, rfl⟩
      · exact ⟨rfl, hthread⟩

theorem CacheInv.readChunk (h : CacheInv sidecarDir sha256 Assets s phases) {path : Path}
    {m : Metadata} {opened : ℕ} {got : List UInt8} (hphase : phases i = .hashing path m opened got)
    {v : Option File} (hv : v ∈ s.disk.since path opened) (length : ℕ) :
    ((phases i).readOn (readFrom v got.length length)).path = (phases i).path ∧
      Described sidecarDir sha256 s.disk ((phases i).readOn (readFrom v got.length length)) := by
  have hthread := h.threads i
  rw [hphase] at hthread ⊢
  have hread (content : List UInt8) (hconstant : Constant s.disk path opened content) :=
    readFrom_of_constant (hconstant v hv) (hthread.2 content hconstant) length
  rw [Phase.readOn]
  split
  · rename_i hnil
    exact ⟨rfl, hthread.1, fun content hconstant => (hread content hconstant).2 hnil⟩
  · exact ⟨rfl, hthread.1, fun content hconstant => (hread content hconstant).1⟩

/-- A file that is written or removed outright. -/
theorem versions_suffix {d d' : Disk Path} {p : Path}
    (hother : ∀ q, q ≠ p → d'.versions q = d.versions q)
    (hgrow : d.versions p <:+ d'.versions p) (q : Path) : d.versions q <:+ d'.versions q := by
  by_cases hq : q = p
  · exact hq ▸ hgrow
  · rw [hother q hq]

variable (hunshared : Unshared sidecarDir Assets)
  (h : CacheInv sidecarDir sha256 Assets s phases)

include hunshared h

/-- The writes of a thread to the temporary file. -/
theorem CacheInv.writeTmp {path sidecar : Path} (hholds : (phases i).path = some path)
    (hsidecar : sidecarPathFor sidecarDir path = some sidecar) {version : File} {phase : Phase}
    (hpath : phase.path = some path)
    (hphase : Described sidecarDir sha256 (s.disk.put (sidecarTmp sidecar) (some version)) phase) :
    CacheInv sidecarDir sha256 Assets
      { s with disk := s.disk.put (sidecarTmp sidecar) (some version) }
      (Function.update phases i phase) := by
  have hasset := (h.holds i path hholds).1
  have hne := hunshared.tmp_ne_sidecar hasset hasset hsidecar hsidecar
  refine h.write hunshared hholds hsidecar (versions_suffix (p := sidecarTmp sidecar) ?_ ?_) ?_ ?_
    hpath hphase
  · exact fun q hq => Disk.versions_put_ne hq
  · rw [Disk.versions_put_self]
    exact List.suffix_cons _ _
  · exact fun p _ hp => Disk.versions_put_ne hp
  · intro f hf
    rw [Disk.current_put_ne hne.symm] at hf
    exact h.sidecars path sidecar f hasset hsidecar hf

theorem CacheInv.hashOf_put {path sidecar : Path} {m : Metadata} {got : List UInt8}
    (hholds : (phases i).path = some path)
    (hsidecar : sidecarPathFor sidecarDir path = some sidecar) {version : Option File}
    (hhash : HashOf sha256 s.disk path m (sha256 got)) :
    HashOf sha256 (s.disk.put (sidecarTmp sidecar) version) path m (sha256 got) := by
  have hasset := (h.holds i path hholds).1
  have hne := (hunshared.assets path path sidecar hasset hasset hsidecar).2
  exact hhash.mono (by rw [Disk.versions_put_ne hne])

/-- The bytes get to the temporary file, whether or not the write is
reported to have failed. -/
theorem CacheInv.writeAll {path sidecar : Path} {m : Metadata} {got written : List UInt8}
    (hphase : phases i = .writing path m got written)
    (hsidecar : sidecarPathFor sidecarDir path = some sidecar) (bytes : List UInt8)
    (now : SystemTime) {phase : Phase}
    (hnext : phase = .writing path m got (written ++ bytes) ∨ phase = .agreed path m got) :
    CacheInv sidecarDir sha256 Assets
      { s with disk := s.disk.append (sidecarTmp sidecar) bytes now }
      (Function.update phases i phase) := by
  have hthread := h.threads i
  have hholds : (phases i).path = some path := by rw [hphase]; rfl
  rw [hphase] at hthread
  obtain ⟨f, hf, hcontent⟩ := Option.map_eq_some_iff.mp (hthread.2 sidecar hsidecar)
  have happend : s.disk.append (sidecarTmp sidecar) bytes now =
      s.disk.put (sidecarTmp sidecar) (some ⟨f.content ++ bytes, now⟩) := by
    rw [Disk.append, hf]
  rw [happend]
  refine h.writeTmp hunshared hholds hsidecar (by rcases hnext with rfl | rfl <;> rfl) ?_
  have hhash : HashOf sha256
      (s.disk.put (sidecarTmp sidecar) (some ⟨f.content ++ bytes, now⟩)) path m (sha256 got) :=
    h.hashOf_put hunshared hholds hsidecar hthread.1
  rcases hnext with rfl | rfl
  · refine ⟨hhash, fun other hother => ?_⟩
    obtain rfl := Option.some.inj (hsidecar.symm.trans hother)
    rw [Disk.current_put_self, Option.map_some, hcontent]
  · exact hhash

theorem CacheInv.removeFile {path sidecar : Path} {m : Metadata} {got written : List UInt8}
    (hphase : phases i = .writing path m got written)
    (hsidecar : sidecarPathFor sidecarDir path = some sidecar) :
    CacheInv sidecarDir sha256 Assets { s with disk := s.disk.remove sidecar }
      (Function.update phases i (phases i)) := by
  have hthread := h.threads i
  have hholds : (phases i).path = some path := by rw [hphase]; rfl
  have hasset := (h.holds i path hholds).1
  obtain ⟨hne, hne'⟩ := hunshared.assets path path sidecar hasset hasset hsidecar
  have htmp := hunshared.tmp_ne_sidecar hasset hasset hsidecar hsidecar
  refine h.write hunshared hholds hsidecar (versions_suffix (p := sidecar) ?_ ?_) ?_ ?_ hholds ?_
  · exact fun q hq => Disk.versions_remove_ne hq
  · unfold Disk.remove
    split
    · rw [Disk.versions_put_self]
      exact List.suffix_cons _ _
    · exact List.suffix_refl _
  · exact fun p hp _ => Disk.versions_remove_ne hp
  · intro f hf
    unfold Disk.remove at hf
    split at hf
    · rw [Disk.current_put_self] at hf
      cases hf
    · exact h.sidecars path sidecar f hasset hsidecar hf
  · refine hthread.frame (fun p hp => ?_) fun p other hp hother => ?_
    · obtain rfl := Option.some.inj (hholds.symm.trans hp)
      exact Disk.versions_remove_ne hne
    · obtain rfl := Option.some.inj (hholds.symm.trans hp)
      obtain rfl := Option.some.inj (hsidecar.symm.trans hother)
      exact Disk.versions_remove_ne htmp

/-- The whole temporary file becomes the sidecar; it is not accepted. -/
theorem CacheInv.rename {path sidecar : Path} {m : Metadata} {got : List UInt8}
    (hphase : phases i =
      .writing path m got (sidecarBytes m.modified m.size (sha256 got)))
    (hsidecar : sidecarPathFor sidecarDir path = some sidecar) :
    CacheInv sidecarDir sha256 Assets
      { s with disk := s.disk.rename (sidecarTmp sidecar) sidecar }
      (Function.update phases i (.agreed path m got)) := by
  have hthread := h.threads i
  have hholds : (phases i).path = some path := by rw [hphase]; rfl
  have hasset := (h.holds i path hholds).1
  rw [hphase] at hthread
  obtain ⟨f, hf, hcontent⟩ := Option.map_eq_some_iff.mp (hthread.2 sidecar hsidecar)
  obtain ⟨hne, hne'⟩ := hunshared.assets path path sidecar hasset hasset hsidecar
  have htmp := hunshared.tmp_ne_sidecar hasset hasset hsidecar hsidecar
  have hversions : ∀ p, s.disk.versions p <:+
      (s.disk.rename (sidecarTmp sidecar) sidecar).versions p := by
    intro p
    rw [Disk.rename, hf]
    simp only [if_neg htmp]
    by_cases hp : p = sidecarTmp sidecar
    · rw [hp, Disk.versions_put_self, Disk.versions_put_ne htmp]
      exact List.suffix_cons _ _
    · rw [Disk.versions_put_ne hp]
      by_cases hp' : p = sidecar
      · rw [hp', Disk.versions_put_self]
        exact List.suffix_cons _ _
      · rw [Disk.versions_put_ne hp']
  refine h.write hunshared hholds hsidecar hversions ?_ ?_ rfl ?_
  · exact fun p hp hp' => Disk.versions_rename_ne hp' hp
  · intro g hg
    rw [Disk.current_rename hf htmp] at hg
    obtain rfl := Option.some.inj hg
    rw [hcontent]
    exact fun now size => parseSidecar_sidecarBytes (sha256 got).2 m.modified now m.size size
  · exact hthread.1.mono (hversions path)

/-- What a call keeps that its phase permits. -/
theorem CacheInv.step (hdet : Determined Assets s.disk) {op : CacheOp}
    (hfree : LockFree s op) (hreturn : NoReturn phases s.disk op)
    (hpermits : Permits sidecarDir sha256 Assets (phases i) op) (input : CacheInput) :
    CacheInv sidecarDir sha256 Assets (exec s op input).1
      (Function.update phases i ((phases i).next op (exec s op input).2)) := by
  have hthread := h.threads i
  have hstay : CacheInv sidecarDir sha256 Assets s (Function.update phases i (phases i)) :=
    h.read rfl rfl h.memory rfl hthread
  cases op with
  | lock path => exact h.lock hpermits.2 (hfree path rfl)
  | unlock path => exact h.unlock hpermits
  | memGet path => exact hstay
  | createDirAll path => exact hstay
  | flush path => exact hstay
  | memInsert path entry => exact h.read rfl rfl (h.memInsert hpermits) rfl hthread
  | memRemove path =>
      refine h.read rfl rfl (fun p e he => ?_) rfl hthread
      by_cases hp : p = path
      · subst hp
        exact absurd ((Function.update_self ..).symm.trans he) nofun
      · exact h.memory p e ((Function.update_of_ne hp ..).symm.trans he)
  | metadata path =>
      cases hanswer : (exec s (.metadata path) input).2 with
      | none => exact hstay
      | some seen =>
          obtain ⟨f, hf, rfl⟩ := metadata_eq_some hanswer
          obtain ⟨hpath, hphase⟩ := h.metadata hdet hpermits hf
          exact h.read rfl rfl h.memory hpath hphase
  | openFile path =>
      obtain ⟨m, hlook⟩ := hpermits
      cases hanswer : (exec s (.openFile path) input).2 with
      | none => exact hstay
      | some opened =>
          obtain ⟨f, hf, rfl⟩ := openFile_eq_some hanswer
          have hnext : (phases i).next (.openFile path) (some (s.disk.versions path).length) =
              .hashing path m (s.disk.versions path).length [] := by
            simp only [Phase.next, hlook]
          rw [hnext]
          exact h.read rfl rfl h.memory (Phase.path_of_firstLook hlook).symm
            ⟨OpenSince.of_open hf, fun _ _ => by simp⟩
  | readChunk path opened offset =>
      obtain ⟨m, got, hphase, rfl⟩ := hpermits
      cases hanswer : (exec s (.readChunk path opened got.length) input).2 with
      | none => exact hstay
      | some chunk =>
          obtain ⟨v, hv, rfl⟩ := readChunk_eq_some hanswer
          obtain ⟨hpath, hdescribed⟩ := h.readChunk hphase hv input.length
          exact h.read rfl rfl h.memory hpath hdescribed
  | read file =>
      obtain ⟨path, m, hphase, hsidecar⟩ := hpermits
      have hasset := (h.holds i path (by rw [hphase]; rfl)).1
      cases hanswer : (exec s (.read file) input).2 with
      | none => exact hstay
      | some bytes =>
          obtain ⟨f, hf, rfl⟩ := read_eq_some hanswer
          have hnext : (phases i).next (.read file) (some f.content) =
              .sidecarRead path m f.content := by
            rw [hphase]
            rfl
          rw [hnext]
          exact h.read rfl rfl h.memory (by rw [hphase]; rfl)
            (h.sidecars path file f hasset hsidecar hf)
  | create file =>
      obtain ⟨path, m, got, sidecar, hphase, hsidecar, rfl⟩ := hpermits
      have hholds : (phases i).path = some path := by rw [hphase]; rfl
      cases hfails : input.fails with
      | true =>
          simp only [exec, hfails, if_true]
          exact hstay
      | false =>
          rw [hphase] at hthread
          simp only [exec, hfails]
          rw [hphase]
          refine h.writeTmp hunshared hholds hsidecar rfl ?_
          refine ⟨h.hashOf_put hunshared hholds hsidecar hthread, fun other hother => ?_⟩
          obtain rfl := Option.some.inj (hsidecar.symm.trans hother)
          rw [Disk.current_put_self]
          rfl
  | writeAll file bytes =>
      obtain ⟨path, m, got, written, sidecar, hphase, hsidecar, rfl⟩ := hpermits
      cases hfails : input.fails with
      | true =>
          simp only [exec, hfails, if_true]
          exact h.writeAll hunshared hphase hsidecar _ _ (Or.inr (by rw [hphase]; rfl))
      | false =>
          simp only [exec, hfails]
          exact h.writeAll hunshared hphase hsidecar _ _ (Or.inl (by rw [hphase]; rfl))
  | removeFile file =>
      obtain ⟨path, m, got, written, hphase, hsidecar⟩ := hpermits
      cases hfails : input.fails with
      | true =>
          simp only [exec, hfails, if_true]
          exact hstay
      | false =>
          simp only [exec, hfails]
          exact h.removeFile hunshared hphase hsidecar
  | rename file target =>
      obtain ⟨path, m, got, written, hphase, hsidecar, rfl, rfl⟩ := hpermits
      have hnext : ∀ ok, (phases i).next (.rename (sidecarTmp target) target) ok =
          .agreed path m got := fun ok => by rw [hphase]; rfl
      cases hfails : input.fails with
      | true =>
          simp only [exec, hfails, if_true]
          rw [hnext]
          rw [hphase] at hthread
          exact h.read rfl rfl h.memory (by rw [hphase]; rfl) hthread.1
      | false =>
          simp only [exec, hfails]
          rw [hnext]
          exact h.rename hunshared hphase hsidecar
  | rewrite path version =>
      have hrewrite := h.rewrite hunshared hpermits.2 hreturn
      have hnext : Function.update phases i (phases i) = phases := Function.update_eq_self i phases
      exact hnext.symm ▸ hrewrite

end Calls

/-! ## Runs -/

section Runs

variable (sidecarDir : Option Path) (sha256 : List UInt8 → Digest) (Assets : Path → Prop)

abbrev CachePool := Pool CacheState CacheOp CacheOp.Answer Outcome

/-- The phases of the threads. -/
def phases (w : CacheWorld) (i : ℕ) : Phase :=
  (cacheProtocol sidecarDir sha256 Assets).stageOf i w.log

/-- A cache without entries, over a disk on which no sidecar is accepted. -/
structure Started (s : CacheState) : Prop where
  mem : ∀ path, s.mem path = none
  unlocked : ∀ path, s.locked path = false
  sidecars : ∀ asset sidecar f, Assets asset → sidecarPathFor sidecarDir asset = some sidecar →
    s.disk.current sidecar = some f → Rejected f.content

/-- A call that finds the metadata unchanged, and keeps the hash of what
it has read, has read what the file contained all the time. -/
def KeepsUnchanged (w : CacheWorld) (i : ℕ) : CacheOp → Prop
  | .metadata path => ∀ m opened got,
      phases sidecarDir sha256 Assets w i = .hashed path m opened got →
      Shows m (w.shared.disk.current path) → Constant w.shared.disk path opened got
  | _ => True

variable {sidecarDir sha256 Assets}

theorem Started.inv {s : CacheState} (h : Started sidecarDir Assets s) :
    CacheInv sidecarDir sha256 Assets s fun _ => .idle where
  holds i path hpath := by cases hpath
  exclusive i j path hpath := by cases hpath
  memory path e he := by
    rw [h.mem path] at he
    cases he
  sidecars := h.sidecars
  threads i := trivial

theorem phases_perform (w : CacheWorld) (i : ℕ) (op : CacheOp) (input : CacheInput) :
    phases sidecarDir sha256 Assets (w.perform exec i op input) =
      Function.update (phases sidecarDir sha256 Assets w) i
        ((phases sidecarDir sha256 Assets w i).next op (exec w.shared op input).2) := by
  funext j
  by_cases hj : j = i
  · subst hj
    rw [Function.update_self]
    exact Protocol.stageOf_perform_self exec _ w j op input
  · rw [Function.update_of_ne hj]
    exact Protocol.stageOf_perform_ne exec _ w hj op input

/-- The versions only ever grow in number. -/
theorem versions_suffix_exec (s : CacheState) (op : CacheOp) (input : CacheInput) (p : Path) :
    s.disk.versions p <:+ (exec s op input).1.disk.versions p := by
  have hput : ∀ (d : Disk Path) q v, d.versions p <:+ (d.put q v).versions p := by
    intro d q v
    by_cases hq : p = q
    · rw [hq, Disk.versions_put_self]
      exact List.suffix_cons _ _
    · rw [Disk.versions_put_ne hq]
  have happend : ∀ q bytes now, s.disk.versions p <:+ (s.disk.append q bytes now).versions p := by
    intro q bytes now
    unfold Disk.append
    split
    · exact hput _ _ _
    · exact List.suffix_refl _
  cases op with
  | create path =>
      simp only [exec]
      split
      · exact List.suffix_refl _
      · exact hput _ _ _
  | writeAll path bytes =>
      simp only [exec]
      split
      · exact happend _ _ _
      · exact happend _ _ _
  | removeFile path =>
      simp only [exec]
      split
      · exact List.suffix_refl _
      · unfold Disk.remove
        split
        · exact hput _ _ _
        · exact List.suffix_refl _
  | rename path target =>
      simp only [exec]
      split
      · exact List.suffix_refl _
      · unfold Disk.rename
        split
        · split
          · exact List.suffix_refl _
          · exact (hput _ _ _).trans (hput _ _ _)
        · exact List.suffix_refl _
  | rewrite path version => exact hput _ _ _
  | _ => exact List.suffix_refl _

theorem determined_of_step {p : CachePool} {event : ℕ × CacheInput}
    (h : Determined Assets (p.step exec event).world.shared.disk) :
    Determined Assets p.world.shared.disk := by
  have hgrow : ∀ path, p.world.shared.disk.versions path <:+
      (p.step exec event).world.shared.disk.versions path := by
    intro path
    unfold Pool.step
    split
    · exact List.suffix_refl _
    · exact versions_suffix_exec _ _ _ _
  exact fun path f g hasset hf hg =>
    h path f g hasset ((hgrow path).subset hf) ((hgrow path).subset hg)

/-- In every run in which no two assets share a sidecar's name and no
rewrite undoes another one under a call that hashes the file, the entries
are sound, only hashes of unchanged files are kept, and every asset has
its own sidecar. -/
theorem hashCache_sound (hunshared : Unshared sidecarDir Assets) {s : CacheState}
    (hstart : Started sidecarDir Assets s) {tasks : ℕ → Task} (htasks : ∀ i, (tasks i).On Assets)
    {events : List (ℕ × CacheInput)}
    (hdet : Determined Assets (events.foldl (Pool.step exec)
      (Pool.start s fun i => (tasks i).program sidecarDir sha256)).world.shared.disk)
    (hfree : Along (Pool.Guarded fun w _ op _ => LockFree w.shared op) (Pool.step exec)
      (Pool.start s fun i => (tasks i).program sidecarDir sha256) events)
    (hreturn : Along (Pool.Guarded fun w _ op _ =>
        NoReturn (phases sidecarDir sha256 Assets w) w.shared.disk op) (Pool.step exec)
      (Pool.start s fun i => (tasks i).program sidecarDir sha256) events) :
    (∀ n, MemSound sha256 (stateAt (Pool.step exec)
      (Pool.start s fun i => (tasks i).program sidecarDir sha256) events n).world.shared) ∧
    Along (Pool.Guarded fun w i op _ => KeepsUnchanged sidecarDir sha256 Assets w i op)
      (Pool.step exec) (Pool.start s fun i => (tasks i).program sidecarDir sha256) events ∧
    ∀ a b sidecar, Assets a → Assets b → a ≠ b → sidecarPathFor sidecarDir a = some sidecar →
      sidecarPathFor sidecarDir b ≠ some sidecar := by
  let pool := Pool.start s fun i => (tasks i).program sidecarDir sha256
  let I : CachePool → Prop := fun p =>
    CacheInv sidecarDir sha256 Assets p.world.shared (phases sidecarDir sha256 Assets p.world) ∧
      p.Followed (cacheProtocol sidecarDir sha256 Assets) fun _ _ => True
  have hinit : I pool := ⟨hstart.inv, fun i => Task.follows (htasks i)⟩
  have hguard := (along_of_last (I := fun p : CachePool => Determined Assets p.world.shared.disk)
    (fun _ _ => determined_of_step) hdet).2.and (hfree.and hreturn)
  have hstep : ∀ (p : CachePool) (event : ℕ × CacheInput), I p →
      (Determined Assets p.world.shared.disk ∧
        Pool.Guarded (fun w _ op _ => LockFree w.shared op) p event ∧
        Pool.Guarded (fun w _ op _ =>
          NoReturn (phases sidecarDir sha256 Assets w) w.shared.disk op) p event) →
      I (p.step exec event) := by
    rintro p ⟨i, input⟩ ⟨hinv, hfollowed⟩ ⟨hdet', hfree', hreturn'⟩
    refine ⟨?_, hfollowed.step _⟩
    have hi := hfollowed i
    rw [Pool.Guarded] at hfree' hreturn'
    rw [Pool.step]
    cases hprog : p.threads i with
    | ret outcome => exact hinv
    | call op next =>
        rw [hprog] at hi hfree' hreturn'
        have hnext := hinv.step hunshared hdet' hfree' hreturn' hi.1 input
        rw [← phases_perform] at hnext
        exact hnext
  refine ⟨fun n => (hguard.invariant_at hstep hinit n).1.memory, ?_,
    fun a b sidecar ha hb hne hsidecar => hunshared.sidecar_ne ha hb hne hsidecar⟩
  refine hguard.of_invariant hstep ?_ hinit
  rintro p ⟨i, input⟩ ⟨hinv, -⟩ ⟨hdet', -⟩
  unfold Pool.Guarded
  split
  · trivial
  · rename_i op next hprog
    cases op with
    | metadata path =>
        exact fun m opened got hphase hshows => (hinv.constant hdet' hphase hshows).1
    | _ => trivial

end Runs

/-! ### A map and its metadata -/

namespace MapBundle

def glb : Path := [ascii "maps", ascii "m.glb"]
def json : Path := [ascii "maps", ascii "m.json"]
def minimap : Path := [ascii "maps", ascii "m.minimap.svg"]

/-- Two states of the model, written within the same second. -/
def version : File := ⟨[1], 5000000000⟩
def draft : File := ⟨[2, 2], 5400000000⟩

def drawing : File := ⟨[3], 5000000000⟩

def disk : Disk Path :=
  ⟨Function.update (Function.update (fun _ => []) glb [some version]) minimap [some drawing]⟩

def start : CacheState := ⟨disk, fun _ => none, fun _ => false⟩

def works : CacheInput := ⟨false, 0, 0, 8, 6000000000⟩
def fails : CacheInput := ⟨true, 0, 0, 8, 6000000000⟩

/-- While the model is hashed, the draft is put in its place; another call
hashes the draft. The minimap is hashed meanwhile, and its entry dropped
at the end. -/
def redrawn : ℕ → Task
  | 0 => .getOrCompute glb 3
  | 1 => .rewrite [(glb, some draft)]
  | 2 => .getOrCompute glb 3
  | 3 => .getOrCompute minimap 2
  | 4 => .invalidate minimap
  | _ => .rewrite []

/-- The first call has read one byte of the model when the draft comes,
and reads on in the draft. The second one cannot create its sidecar. -/
def redrawing : List (ℕ × CacheInput) :=
  [(0, works), (0, works), (3, works), (3, works), (0, works), (0, works), (0, works), (0, works),
    (1, works)] ++ List.replicate 4 (0, works) ++ List.replicate 9 (2, works) ++ [(2, fails)] ++
    List.replicate 18 (3, works) ++ List.replicate 2 (2, works) ++ [(4, works)]

/-- The model is hashed, while the draft is put in its place and the model
back again. -/
def hashAndSwap : ℕ → Task
  | 0 => .getOrCompute glb 3
  | 1 => .rewrite [(glb, some draft), (glb, some version)]
  | _ => .rewrite []

def swapping : List (ℕ × CacheInput) :=
  [(0, works), (0, works), (0, works), (0, works), (1, works), (0, works), (0, works), (0, works),
    (1, works), (0, works), (0, works), (0, fails), (0, works), (0, works)]

def run (sha256 : List UInt8 → Digest) (tasks : ℕ → Task) (events : List (ℕ × CacheInput)) :
    CachePool :=
  events.foldl (Pool.step exec) (Pool.start start fun i => (tasks i).program none sha256)

/-- The assets of the bundle that have a sidecar of their own. -/
def Hashed (path : Path) : Prop := path = glb ∨ path = minimap

theorem unshared : Unshared none Hashed where
  names := by
    rintro a b (rfl | rfl) (rfl | rfl) ⟨x, y, hx, hy, -, hstem⟩
    · rfl
    · obtain rfl := Option.some.inj hx
      obtain rfl := Option.some.inj hy
      exact absurd (hstem rfl).2 (by decide)
    · obtain rfl := Option.some.inj hx
      obtain rfl := Option.some.inj hy
      exact absurd (hstem rfl).2 (by decide)
    · rfl
  assets := by
    rintro a b sidecar (rfl | rfl) (rfl | rfl) hsidecar
    all_goals
      obtain rfl := Option.some.inj hsidecar
      decide

theorem started : Started none Hashed start where
  mem _ := rfl
  unlocked _ := rfl
  sidecars := by
    rintro asset sidecar f (rfl | rfl) hsidecar hf
    all_goals
      obtain rfl := Option.some.inj hsidecar
      cases hf

/-- A digest that keeps the first bytes. -/
def firstBytes (bytes : List UInt8) : Digest :=
  ⟨(bytes ++ List.replicate 32 0).take 32, by simp [SHA256_LEN]⟩

theorem determined : Determined Hashed (run firstBytes redrawn redrawing).world.shared.disk := by
  have hglb : (run firstBytes redrawn redrawing).world.shared.disk.versions glb =
      [some draft, some version] := by decide +kernel
  have hminimap : (run firstBytes redrawn redrawing).world.shared.disk.versions minimap =
      [some drawing] := by decide +kernel
  rintro path f g (rfl | rfl) hf hg hsize -
  · rw [hglb] at hf hg
    have hf' : f = draft ∨ f = version := by simpa using hf
    have hg' : g = draft ∨ g = version := by simpa using hg
    rcases hf' with rfl | rfl <;> rcases hg' with rfl | rfl
    · rfl
    · exact absurd hsize (by decide)
    · exact absurd hsize (by decide)
    · rfl
  · rw [hminimap, List.mem_singleton] at hf hg
    rw [Option.some.inj (hf.trans hg.symm)]

/-- A rewrite gives the file a size that no call has seen that is hashing
a file. -/
def sizeApart (w : CacheWorld) : CacheOp → Bool
  | .rewrite _ (some f) => w.log.all fun e =>
      (phases none firstBytes Hashed w e.thread).reads.all fun r => r.2.1.size != f.content.length
  | _ => true

theorem noReturn_of_sizeApart {w : CacheWorld} {op : CacheOp} (h : sizeApart w op = true) :
    NoReturn (phases none firstBytes Hashed w) w.shared.disk op := by
  cases op with
  | rewrite path version =>
      rintro j m opened hreads - ⟨f, rfl, hsize, -⟩
      by_cases hseen : ∃ e ∈ w.log, e.thread = j
      · obtain ⟨e, he, rfl⟩ := hseen
        have hapart := List.all_eq_true.mp h e he
        rw [hreads, Option.all_some, bne_iff_ne] at hapart
        exact hapart hsize.symm
      · push Not at hseen
        rw [phases, Protocol.stageOf_of_unseen _ hseen] at hreads
        cases hreads
  | _ => trivial

theorem noReturn : Along (Pool.Guarded fun w _ op _ =>
      NoReturn (phases none firstBytes Hashed w) w.shared.disk op) (Pool.step exec)
    (Pool.start start fun i => (redrawn i).program none firstBytes) redrawing := by
  have hapart : Along (Pool.Guarded fun w _ op _ => sizeApart w op = true) (Pool.step exec)
      (Pool.start start fun i => (redrawn i).program none firstBytes) redrawing := by
    decide +kernel
  refine hapart.mono ?_
  rintro p ⟨i, input⟩ h
  unfold Pool.Guarded at h ⊢
  split
  · trivial
  · rename_i op next hprog
    rw [hprog] at h
    exact noReturn_of_sizeApart h

theorem tasks_on (i : ℕ) : (redrawn i).On Hashed := by
  rcases i with _ | _ | _ | _ | _ | i
  · exact Or.inl rfl
  · exact List.forall_mem_singleton.mpr (Or.inl rfl)
  · exact Or.inl rfl
  · exact Or.inr rfl
  · trivial
  · exact List.forall_mem_nil _

/-- What the first call has read belongs to no version; it is returned, but
the hash of the draft is kept. The minimap has a sidecar of its own. -/
theorem redrawn_sound :
    (((run firstBytes redrawn redrawing).threads 0).result? = some (.ok (firstBytes [1, 2])) ∧
      (run firstBytes redrawn redrawing).world.shared.mem glb =
        some ⟨draft.modified, 2, firstBytes [2, 2]⟩ ∧
      (run firstBytes redrawn (redrawing.dropLast)).world.shared.mem minimap =
        some ⟨drawing.modified, 1, firstBytes [3]⟩ ∧
      (run firstBytes redrawn redrawing).world.shared.mem minimap = none) ∧
      (∀ n, MemSound firstBytes (stateAt (Pool.step exec)
        (Pool.start start fun i => (redrawn i).program none firstBytes) redrawing n).world.shared) ∧
      Along (Pool.Guarded fun w i op _ => KeepsUnchanged none firstBytes Hashed w i op)
        (Pool.step exec) (Pool.start start fun i => (redrawn i).program none firstBytes)
        redrawing ∧
      ∀ a b sidecar, Hashed a → Hashed b → a ≠ b → sidecarPathFor none a = some sidecar →
        sidecarPathFor none b ≠ some sidecar :=
  ⟨⟨by decide +kernel, by decide +kernel, by decide +kernel, by decide +kernel⟩,
    hashCache_sound unshared started tasks_on determined (by decide +kernel) noReturn⟩

/-- The model and its metadata share a sidecar, and the hash of the draft
is kept for the model. -/
theorem glb_not_sound :
    (glb ≠ json ∧ sidecarPathFor none glb = sidecarPathFor none json) ∧
      ¬ MemSound firstBytes (run firstBytes hashAndSwap swapping).world.shared := by
  refine ⟨by decide, fun h => ?_⟩
  have hmem : (run firstBytes hashAndSwap swapping).world.shared.mem glb =
      some ⟨version.modified, 1, firstBytes [2, 2]⟩ := by decide +kernel
  have hversions : (run firstBytes hashAndSwap swapping).world.shared.disk.versions glb =
      [some version, some draft, some version] := by decide +kernel
  obtain ⟨f, hf, hsize, -, hhash⟩ := h glb _ hmem
  rw [hversions] at hf
  have hcontent : f = version ∨ f = draft ∨ f = version := by simpa using hf
  rcases hcontent with rfl | rfl | rfl
  · exact absurd hhash (by decide +kernel)
  · exact absurd hsize (by decide)
  · exact absurd hhash (by decide +kernel)

end MapBundle

end HackArena.HashCache
