import Mathlib.Data.Int.Notation
import Mathlib.Data.List.TakeDrop
import Mathlib.Data.Nat.Notation
import Mathlib.Logic.Function.Basic

/-!
# Files and their versions

A disk keeps, for every path, all the versions of the file there, so that
one can say what a reader may have seen and what a path ever held. The
present file is the latest version; a path without a file has the version
`none`. A file that stays open is read from its version at the time it was
opened or from a later one: the former if the file is replaced, the latter
if it is written in place.
-/

namespace FileStore

structure File where
  content : List UInt8
  modified : ℤ
  deriving DecidableEq, Repr

/-- The versions of the file at each path, the latest first. -/
structure Disk (κ : Type*) where
  versions : κ → List (Option File)

namespace Disk

variable {κ : Type*}

def empty : Disk κ := ⟨fun _ => []⟩

def current (d : Disk κ) (p : κ) : Option File := (d.versions p).head?.join

/-- The versions from the `n`-th one on. -/
def since (d : Disk κ) (p : κ) (n : ℕ) : List (Option File) :=
  (d.versions p).take ((d.versions p).length + 1 - n)

section Versions

variable {d : Disk κ} {p : κ}

theorem since_subset (n : ℕ) : d.since p n ⊆ d.versions p := List.take_subset _ _

theorem since_length (d : Disk κ) (p : κ) :
    d.since p (d.versions p).length = (d.versions p).take 1 := by
  rw [since]
  congr 1
  omega

theorem exists_versions {f : File} (h : d.current p = some f) :
    ∃ older, d.versions p = some f :: older := by
  rw [current] at h
  cases hversions : d.versions p with
  | nil => simp [hversions] at h
  | cons latest older =>
      rw [hversions] at h
      simp only [List.head?_cons, Option.join_some] at h
      exact ⟨older, by rw [h]⟩

theorem some_mem_versions {f : File} (h : d.current p = some f) : some f ∈ d.versions p := by
  obtain ⟨older, hversions⟩ := exists_versions h
  exact hversions ▸ List.mem_cons_self

theorem mem_since_length {f : File} (h : d.current p = some f) {u : Option File}
    (hu : u ∈ d.since p (d.versions p).length) : u = some f := by
  obtain ⟨older, hversions⟩ := exists_versions h
  rw [since_length, hversions] at hu
  simpa using hu

theorem current_congr {d' : Disk κ} (h : d'.versions p = d.versions p) :
    d'.current p = d.current p := by rw [current, current, h]

theorem since_congr {d' : Disk κ} (h : d'.versions p = d.versions p) (n : ℕ) :
    d'.since p n = d.since p n := by rw [since, since, h]

end Versions

variable [DecidableEq κ]

def put (d : Disk κ) (p : κ) (v : Option File) : Disk κ :=
  ⟨Function.update d.versions p (v :: d.versions p)⟩

def create (d : Disk κ) (p : κ) (now : ℤ) : Disk κ := d.put p (some ⟨[], now⟩)

def append (d : Disk κ) (p : κ) (bytes : List UInt8) (now : ℤ) : Disk κ :=
  match d.current p with
  | some f => d.put p (some ⟨f.content ++ bytes, now⟩)
  | none => d

def remove (d : Disk κ) (p : κ) : Disk κ :=
  if (d.current p).isSome then d.put p none else d

def rename (d : Disk κ) (p q : κ) : Disk κ :=
  match d.current p with
  | some f => if p = q then d else (d.put q (some f)).put p none
  | none => d

variable {d : Disk κ} {p q : κ} {v : Option File}

@[simp] theorem versions_put_self : (d.put p v).versions p = v :: d.versions p := by simp [put]

@[simp] theorem versions_put_ne (h : q ≠ p) : (d.put p v).versions q = d.versions q := by
  simp [put, h]

@[simp] theorem current_put_self : (d.put p v).current p = v := by simp [current]

@[simp] theorem current_put_ne (h : q ≠ p) : (d.put p v).current q = d.current q := by
  simp [current, h]

/-- A new version is seen by everyone who has the file open. -/
theorem since_put_self {n : ℕ} (h : n ≤ (d.versions p).length) :
    (d.put p v).since p n = v :: d.since p n := by
  have hlength : (d.versions p).length + 1 + 1 - n = (d.versions p).length + 1 - n + 1 := by omega
  rw [since, versions_put_self, List.length_cons, hlength, List.take_succ_cons]
  rfl

/-! What one operation leaves at the other paths. -/

theorem versions_remove_ne (h : q ≠ p) : (d.remove p).versions q = d.versions q := by
  unfold remove
  split
  · exact versions_put_ne h
  · rfl

theorem versions_rename_ne {r : κ} (hp : r ≠ p) (hq : r ≠ q) :
    (d.rename p q).versions r = d.versions r := by
  unfold rename
  split
  · split
    · rfl
    · rw [versions_put_ne hp, versions_put_ne hq]
  · rfl

theorem current_append {f : File} (h : d.current p = some f) (bytes : List UInt8) (now : ℤ) :
    (d.append p bytes now).current p = some ⟨f.content ++ bytes, now⟩ := by
  rw [append, h, current_put_self]

theorem current_rename {f : File} (h : d.current p = some f) (hne : p ≠ q) :
    (d.rename p q).current q = some f := by
  have hq : q ≠ p := hne.symm
  rw [rename, h]
  simp [hne, hq]

end Disk

end FileStore
