import HackArena.Lib.ByteLines

/-!
# Paths of a Unix file system

A path is a text that separators cut into components. Empty parts and
single dots are dropped, except that a single dot at the beginning counts.
What a relative path without double dots is joined to stays in front of it.
-/

namespace UnixPath

/-- The separator of components and the dot. -/
structure Alphabet (α : Type*) where
  sep : α
  dot : α
  distinct : sep ≠ dot

def bytes : Alphabet UInt8 := ⟨47, 46, by decide⟩

def chars : Alphabet Char := ⟨'/', '.', by decide⟩

inductive Component (α : Type*) where
  | rootDir | curDir | parentDir
  | normal (segment : List α)
  deriving DecidableEq

variable {α : Type*} [DecidableEq α] (A : Alphabet α)

def segmentOf (part : List α) : Option (Component α) :=
  if part = [] ∨ part = [A.dot] then none
  else if part = [A.dot, A.dot] then some .parentDir
  else some (.normal part)

/-- The components that do not depend on where the path begins. -/
def body (path : List α) : List (Component α) :=
  (Lines.split A.sep path).filterMap (segmentOf A)

/-- `Path::components`. -/
def components (path : List α) : List (Component α) :=
  if path.head? = some A.sep then .rootDir :: body A path
  else if (Lines.split A.sep path).head? = some [A.dot] then .curDir :: body A path
  else body A path

/-- `Path::join`. -/
def join (base path : List α) : List α :=
  if path.head? = some A.sep then path
  else if base = [] ∨ base.getLast? = some A.sep then base ++ path
  else base ++ A.sep :: path

/-- `Path::starts_with`. -/
def startsWith (path base : List α) : Bool := (components A base).isPrefixOf (components A path)

/-- `Path::parent`, on the components. -/
def parent (path : List (Component α)) : Option (List (Component α)) :=
  match path.getLast? with
  | none | some .rootDir => none
  | some _ => some path.dropLast

variable {A} {path base : List α}

/-! ## Joining -/

theorem split_append_cons (xs ys : List α) :
    Lines.split A.sep (xs ++ A.sep :: ys) = Lines.split A.sep xs ++ Lines.split A.sep ys := by
  have hcomplete := @Lines.complete_append _ _ A.sep xs (A.sep :: ys)
  rw [Lines.split, hcomplete, Lines.complete_append_of_notMem (Lines.sep_notMem_rest xs)]
  simp [Lines.split, Lines.complete]

theorem body_append_sep (xs ys : List α) :
    body A (xs ++ A.sep :: ys) = body A xs ++ body A ys := by
  rw [body, split_append_cons, List.filterMap_append, body, body]

@[simp] theorem body_nil : body A [] = [] := by
  simp [body, Lines.split, Lines.complete, segmentOf]

/-- The separator between the parts is there or is put there. -/
theorem exists_join_eq (hrelative : path.head? ≠ some A.sep) (hbase : base ≠ []) :
    ∃ front, join A base path = front ++ A.sep :: path ∧
      (base = front ∨ base = front ++ [A.sep]) := by
  unfold join
  rw [if_neg hrelative]
  split
  · rename_i hlast
    obtain ⟨front, last, rfl⟩ := List.eq_nil_or_concat base |>.resolve_left hbase
    have heq : last = A.sep := by simpa using hlast
    subst heq
    exact ⟨front, by simp, Or.inr List.concat_eq_append⟩
  · exact ⟨base, rfl, Or.inl rfl⟩

theorem components_append_sep {front : List α} (hfront : front ≠ []) :
    components A (front ++ A.sep :: path) = components A front ++ body A path := by
  have hhead : (front ++ A.sep :: path).head? = front.head? :=
    List.head?_append_of_ne_nil front hfront
  have hfirst : (Lines.split A.sep (front ++ A.sep :: path)).head? =
      (Lines.split A.sep front).head? := by
    rw [split_append_cons]
    apply List.head?_append_of_ne_nil
    simp [Lines.split]
  unfold components
  rw [hhead, hfirst, body_append_sep]
  split
  · rfl
  · split <;> rfl

theorem components_join (hrelative : path.head? ≠ some A.sep) (hbase : base ≠ []) :
    components A (join A base path) = components A base ++ body A path := by
  obtain ⟨front, hjoin, rfl | rfl⟩ := exists_join_eq hrelative hbase
  · rw [hjoin, components_append_sep hbase]
  · rw [hjoin]
    by_cases hfront : front = []
    · subst hfront
      simp [components, body, Lines.split, Lines.complete, segmentOf]
    · rw [components_append_sep hfront, components_append_sep hfront, body_nil, List.append_nil]

theorem rootDir_mem_of_head (h : path.head? = some A.sep) : .rootDir ∈ components A path := by
  rw [components, if_pos h]
  exact List.mem_cons_self

theorem exists_split_cons {c : α} (hc : c ≠ A.sep) (cs : List α) :
    ∃ part parts, Lines.split A.sep (c :: cs) = (c :: part) :: parts := by
  rw [Lines.split, Lines.complete, if_neg hc]
  cases hlines : (Lines.complete A.sep cs).1 with
  | nil => exact ⟨_, _, rfl⟩
  | cons line lines => exact ⟨_, _, rfl⟩

theorem components_ne_nil (h : path ≠ []) : components A path ≠ [] := by
  obtain ⟨c, cs, rfl⟩ := List.exists_cons_of_ne_nil h
  by_cases hc : c = A.sep
  · subst hc
    simp [components]
  · obtain ⟨part, parts, hsplit⟩ := exists_split_cons hc cs
    have hhead : (c :: cs).head? ≠ some A.sep := by simpa using hc
    rw [components, if_neg hhead]
    split
    · exact List.cons_ne_nil _ _
    · rename_i hdot
      rw [hsplit, List.head?_cons, Option.some.injEq] at hdot
      have hsegment : ∃ component, segmentOf A (c :: part) = some component := by
        rw [segmentOf, if_neg (not_or.mpr ⟨List.cons_ne_nil _ _, hdot⟩)]
        split
        · exact ⟨_, rfl⟩
        · exact ⟨_, rfl⟩
      obtain ⟨component, hcomponent⟩ := hsegment
      rw [body, hsplit, List.filterMap_cons, hcomponent]
      exact List.cons_ne_nil _ _

/-! ## Names -/

/-- The text is a single component of a path. -/
structure IsName (A : Alphabet α) (segment : List α) : Prop where
  sep : A.sep ∉ segment
  nonempty : segment ≠ []
  dot : segment ≠ [A.dot]
  dots : segment ≠ [A.dot, A.dot]

theorem body_of_isName {segment : List α} (h : IsName A segment) :
    body A segment = [.normal segment] := by
  rw [body, Lines.split_of_notMem h.sep, List.filterMap_cons, segmentOf,
    if_neg (not_or.mpr ⟨h.nonempty, h.dot⟩), if_neg h.dots]
  rfl

/-- Names that separators join are found again. -/
theorem body_intercalate {segments : List (List α)} (h : ∀ s ∈ segments, IsName A s) :
    body A ([A.sep].intercalate segments) = segments.map .normal := by
  induction segments with
  | nil => exact body_nil
  | cons segment rest ih =>
      obtain ⟨hname, hrest⟩ := List.forall_mem_cons.mp h
      cases rest with
      | nil =>
          rw [List.intercalate_singleton]
          exact body_of_isName hname
      | cons next rest =>
          rw [List.intercalate_cons_cons, List.append_assoc, List.singleton_append,
            body_append_sep, body_of_isName hname, ih hrest]
          rfl

omit [DecidableEq α] in
theorem head_intercalate {segments : List (List α)} (h : ∀ s ∈ segments, IsName A s) :
    ([A.sep].intercalate segments).head? ≠ some A.sep := by
  cases segments with
  | nil => exact nofun
  | cons segment rest =>
      obtain ⟨hname, -⟩ := List.forall_mem_cons.mp h
      obtain ⟨c, cs, rfl⟩ := List.exists_cons_of_ne_nil hname.nonempty
      have hc : c ≠ A.sep := fun heq => hname.sep (heq ▸ List.mem_cons_self)
      cases rest <;> simpa [List.intercalate] using hc

end UnixPath
