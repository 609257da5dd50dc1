import HackArena.Lib.ByteLines

/-!
# Where the sidecars are

The sidecar of an asset has the asset's name with `.sha256` in a directory
of sidecars, if there is one. Without such a directory it stands beside
the asset, and `.sha256` takes the place of the asset's extension.
-/

namespace HackArena.HashCache

/-- A path as its components, each in bytes. -/
abbrev Path := List (List UInt8)

def ascii (s : String) : List UInt8 := Utf8.encode s.toList

def Path.fileName (p : Path) : Option (List UInt8) :=
  p.getLast?.filter fun name => name ∉ [[], ascii "/", ascii ".", ascii ".."]

/-- A file name up to its last dot, unless nothing stands before it. -/
def fileStem (name : List UInt8) : List UInt8 :=
  match name.reverse.dropWhile (· ≠ 46) with
  | [] => name
  | _ :: before => if before = [] then name else before.reverse

def Path.withExtension (p : Path) (extension : List UInt8) : Path :=
  match p.fileName with
  | none => p
  | some name => p.dropLast ++ [fileStem name ++ 46 :: extension]

def toStringLossy (name : List UInt8) : List UInt8 := Utf8.encode (Utf8.fromUtf8Lossy name)

/-- The sidecar of an asset, in a directory of its own or beside it. -/
def sidecarPathFor (sidecarDir : Option Path) (asset : Path) : Option Path :=
  match sidecarDir with
  | some dir => asset.fileName.map fun name => dir ++ [toStringLossy name ++ ascii ".sha256"]
  | none => some (asset.withExtension (ascii "sha256"))

def sidecarTmp (sidecar : Path) : Path := sidecar.withExtension (ascii "sha256.tmp")


/-! ## Extensions -/

theorem fileStem_append {x extension : List UInt8} (hx : x ≠ []) (hdot : 46 ∉ extension) :
    fileStem (x ++ 46 :: extension) = x := by
  have hreverse : (x ++ 46 :: extension).reverse = extension.reverse ++ 46 :: x.reverse := by
    simp
  have hdrop : (extension.reverse ++ 46 :: x.reverse).dropWhile (· ≠ 46) = 46 :: x.reverse := by
    rw [List.dropWhile_append_of_pos]
    · rfl
    · intro b hb
      have hne : b ≠ 46 := fun heq => hdot (heq ▸ List.mem_reverse.mp hb)
      simpa using hne
  simp only [fileStem, hreverse, hdrop]
  rw [if_neg (by simpa using hx), List.reverse_reverse]

theorem Path.fileName_append {dir : Path} {name : List UInt8} (h : 2 < name.length) :
    Path.fileName (dir ++ [name]) = some name := by
  have hlast : (dir ++ [name]).getLast? = some name := by simp
  have hshort : ∀ special ∈ [[], ascii "/", ascii ".", ascii ".."], special.length ≤ 2 := by decide
  have hname : name ∉ [[], ascii "/", ascii ".", ascii ".."] := fun hmem =>
    absurd (hshort name hmem) (by omega)
  rw [fileName, hlast, Option.filter_some_pos (by simpa using hname)]

theorem Path.fileName_ne_nil {p : Path} {name : List UInt8} (h : p.fileName = some name) :
    name ≠ [] := by
  rintro rfl
  simp [fileName, Option.filter_eq_some_iff] at h

theorem Path.withExtension_append {dir : Path} {x old extension : List UInt8} (hx : x ≠ [])
    (hold : 2 < old.length) (hdot : 46 ∉ old) :
    Path.withExtension (dir ++ [x ++ 46 :: old]) extension = dir ++ [x ++ 46 :: extension] := by
  have hname : Path.fileName (dir ++ [x ++ 46 :: old]) = some (x ++ 46 :: old) :=
    fileName_append (by rw [List.length_append, List.length_cons]; omega)
  rw [withExtension, hname]
  simp only [List.dropLast_concat, fileStem_append hx hdot]

theorem toStringLossy_ne_nil {name : List UInt8} (h : name ≠ []) : toStringLossy name ≠ [] := by
  intro hnil
  have hlossy := Utf8.encode_eq_nil hnil
  rw [Utf8.fromUtf8Lossy, List.map_eq_nil_iff] at hlossy
  cases name with
  | nil => exact h rfl
  | cons first rest =>
      rw [Utf8.decode] at hlossy
      split at hlossy
      · cases hlossy
      · cases hlossy

theorem fileStem_ne_nil {name : List UInt8} (h : name ≠ []) : fileStem name ≠ [] := by
  unfold fileStem
  split
  · exact h
  · split
    · exact h
    · rename_i hbefore
      simpa using hbefore

/-! ## Sidecars and their temporary files -/

/-- The two assets have the same name as far as the name of a sidecar
depends on it. -/
def SameSidecarName (sidecarDir : Option Path) (a b : Path) : Prop :=
  ∃ x y, a.fileName = some x ∧ b.fileName = some y ∧
    (sidecarDir.isSome → toStringLossy x = toStringLossy y) ∧
    (sidecarDir = none → a.dropLast = b.dropLast ∧ fileStem x = fileStem y)

variable {sidecarDir : Option Path} {a b sidecar sidecar' : Path}

theorem sidecarPathFor_of_fileName {name : List UInt8} (hname : a.fileName = some name) :
    ∃ dir x, x ≠ [] ∧ sidecarPathFor sidecarDir a = some (dir ++ [x ++ 46 :: ascii "sha256"]) := by
  have hne := Path.fileName_ne_nil hname
  cases sidecarDir with
  | some dir =>
      refine ⟨dir, toStringLossy name, toStringLossy_ne_nil hne, ?_⟩
      rw [sidecarPathFor, hname]
      rfl
  | none =>
      refine ⟨a.dropLast, fileStem name, fileStem_ne_nil hne, ?_⟩
      rw [sidecarPathFor, Path.withExtension, hname]

/-- Every asset that is not its own sidecar has a file name, or no sidecar. -/
theorem exists_sidecar_eq (h : sidecarPathFor sidecarDir a = some sidecar) (hne : a ≠ sidecar) :
    ∃ dir x, x ≠ [] ∧ sidecar = dir ++ [x ++ 46 :: ascii "sha256"] := by
  cases hname : a.fileName with
  | some name =>
      obtain ⟨dir, x, hx, hsidecar⟩ := @sidecarPathFor_of_fileName sidecarDir a _ hname
      exact ⟨dir, x, hx, Option.some.inj (h.symm.trans hsidecar)⟩
  | none =>
      cases sidecarDir with
      | some dir => simp [sidecarPathFor, hname] at h
      | none =>
          rw [sidecarPathFor, Path.withExtension, hname] at h
          exact absurd (Option.some.inj h) hne

theorem sidecarPathFor_eq_iff {x y : List UInt8} (hx : a.fileName = some x)
    (hy : b.fileName = some y) :
    sidecarPathFor sidecarDir a = sidecarPathFor sidecarDir b ↔ SameSidecarName sidecarDir a b := by
  have hsame : SameSidecarName sidecarDir a b ↔
      (sidecarDir.isSome → toStringLossy x = toStringLossy y) ∧
      (sidecarDir = none → a.dropLast = b.dropLast ∧ fileStem x = fileStem y) := by
    simp [SameSidecarName, hx, hy]
  rw [hsame]
  cases sidecarDir with
  | some dir => simp [sidecarPathFor, hx, hy]
  | none =>
      simp only [sidecarPathFor, Path.withExtension, hx, hy, Option.some.injEq]
      constructor
      · intro h
        obtain ⟨hdir, hname⟩ := List.append_inj' h rfl
        exact ⟨by simp, fun _ => ⟨hdir, List.append_cancel_right (List.singleton_injective hname)⟩⟩
      · rintro ⟨-, h⟩
        obtain ⟨hdir, hstem⟩ := h trivial
        rw [hdir, hstem]

theorem sidecarTmp_append {dir : Path} {x : List UInt8} (hx : x ≠ []) :
    sidecarTmp (dir ++ [x ++ 46 :: ascii "sha256"]) = dir ++ [x ++ 46 :: ascii "sha256.tmp"] :=
  Path.withExtension_append hx (by decide) (by decide)

/-- The temporary file of a sidecar is no sidecar. -/
theorem sidecarTmp_ne {dir dir' : Path} {x x' : List UInt8} (hx : x ≠ []) :
    sidecarTmp (dir ++ [x ++ 46 :: ascii "sha256"]) ≠ dir' ++ [x' ++ 46 :: ascii "sha256"] := by
  rw [sidecarTmp_append hx]
  intro heq
  have hlast := (List.append_inj' heq rfl).2
  have hbytes := congrArg (fun names : Path => names.flatten.getLast?) hlast
  simp [show ascii "sha256.tmp" = [115, 104, 97, 50, 53, 54, 46, 116, 109, 112] from rfl,
    show ascii "sha256" = [115, 104, 97, 50, 53, 54] from rfl] at hbytes

theorem sidecarTmp_injective {dir dir' : Path} {x x' : List UInt8} (hx : x ≠ []) (hx' : x' ≠ [])
    (h : sidecarTmp (dir ++ [x ++ 46 :: ascii "sha256"]) =
      sidecarTmp (dir' ++ [x' ++ 46 :: ascii "sha256"])) : dir = dir' ∧ x = x' := by
  rw [sidecarTmp_append hx, sidecarTmp_append hx'] at h
  obtain ⟨hdir, hname⟩ := List.append_inj' h rfl
  exact ⟨hdir, List.append_cancel_right (List.singleton_injective hname)⟩

end HackArena.HashCache
