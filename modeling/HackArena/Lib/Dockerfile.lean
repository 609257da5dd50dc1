import Mathlib.Data.List.Basic

/-!
# Dockerfiles

A Dockerfile is read as logical lines: a newline ends an instruction unless
it is preceded by a back-slash, and then both are taken out. The words of an
instruction are what stands between blanks.
-/

namespace Dockerfile

/-! ## Logical lines -/

/-- The line so far is carried along, and whether a back-slash has come
last. -/
def readLines (line : List Char) (slash : Bool) : List Char → List (List Char)
  | [] => [line ++ if slash then ['\\'] else []].filter (· ≠ [])
  | c :: cs =>
      if c = '\n' then
        if slash then readLines line false cs else line :: readLines [] false cs
      else if c = '\\' then readLines (line ++ if slash then ['\\'] else []) true cs
      else readLines ((line ++ if slash then ['\\'] else []) ++ [c]) false cs

def logicalLines (text : List Char) : List (List Char) := readLines [] false text

variable {line part rest : List Char}

theorem readLines_append (hnewline : '\n' ∉ part) (hslash : '\\' ∉ part) :
    readLines line false (part ++ rest) = readLines (line ++ part) false rest := by
  induction part generalizing line with
  | nil => rw [List.nil_append, List.append_nil]
  | cons c part ih =>
      obtain ⟨hc, hpart⟩ := not_or.mp (List.mem_cons.not.mp hnewline)
      obtain ⟨hc', hpart'⟩ := not_or.mp (List.mem_cons.not.mp hslash)
      rw [List.cons_append, readLines, if_neg (Ne.symm hc), if_neg (Ne.symm hc'),
        ih hpart hpart']
      simp

@[simp] theorem readLines_newline : readLines line false ('\n' :: rest) =
    line :: readLines [] false rest := rfl

@[simp] theorem readLines_continued : readLines line false ('\\' :: '\n' :: rest) =
    readLines line false rest := by simp [readLines]

/-- Text that does not end with a back-slash may have others. -/
theorem readLines_ended {slash : Bool} (hnewline : '\n' ∉ part)
    (hlast : if part = [] then slash = false else part.getLast? ≠ some '\\') :
    readLines line slash (part ++ '\n' :: rest) =
      (line ++ (if slash then ['\\'] else []) ++ part) :: readLines [] false rest := by
  induction part generalizing line slash with
  | nil =>
      obtain rfl : slash = false := hlast
      simp
  | cons c part ih =>
      obtain ⟨hc, hpart⟩ := not_or.mp (List.mem_cons.not.mp hnewline)
      rw [if_neg (List.cons_ne_nil _ _)] at hlast
      rw [List.cons_append, readLines, if_neg (Ne.symm hc)]
      have hrest : part ≠ [] → part.getLast? ≠ some '\\' := fun hne => by
        rwa [List.getLast?_cons_of_ne_nil hne] at hlast
      by_cases hc' : c = '\\'
      · subst hc'
        rw [if_pos rfl, ih hpart]
        · simp
        · split
          · rename_i hnil
            subst hnil
            simp at hlast
          · exact hrest ‹_›
      · rw [if_neg hc', ih hpart]
        · simp
        · split
          · rfl
          · exact hrest ‹_›

theorem newline_notMem_readLines {slash : Bool} {text : List Char} (hline : '\n' ∉ line) :
    ∀ l ∈ readLines line slash text, '\n' ∉ l := by
  induction text generalizing line slash with
  | nil =>
      intro l hl
      obtain rfl := List.mem_singleton.mp (List.mem_of_mem_filter hl)
      cases slash <;> simpa using hline
  | cons c text ih =>
      rw [readLines]
      split
      · split
        · exact ih hline
        · exact List.forall_mem_cons.mpr ⟨hline, ih List.not_mem_nil⟩
      · rename_i hc
        split
        · exact ih (by cases slash <;> simpa using hline)
        · exact ih (by cases slash <;> simpa [Ne.symm hc] using hline)

/-! ## Lines that are written -/

/-- The text, up to its newline, is the one instruction. -/
def ReadsAs (text line : List Char) : Prop :=
  ∀ rest, readLines [] false (text ++ '\n' :: rest) = line :: readLines [] false rest

theorem readsAs_self (hnewline : '\n' ∉ part) (hne : part ≠ [])
    (hlast : part.getLast? ≠ some '\\') :
    ReadsAs part part := by
  intro rest
  have hpart : if part = [] then false = false else part.getLast? ≠ some '\\' := by
    rwa [if_neg hne]
  have hread : readLines [] false (part ++ '\n' :: rest) =
      ([] ++ [] ++ part) :: readLines [] false rest := readLines_ended hnewline hpart
  exact hread

/-- The text neither ends nor continues a line. -/
def IsUnbroken (part : List Char) : Prop := '\n' ∉ part ∧ '\\' ∉ part

theorem isUnbroken_append {front : List Char} :
    IsUnbroken (front ++ part) ↔ IsUnbroken front ∧ IsUnbroken part := by
  simp only [IsUnbroken, List.mem_append, not_or]
  tauto

theorem readsAs_unbroken (h : IsUnbroken part) (hne : part ≠ []) : ReadsAs part part :=
  readsAs_self h.1 hne fun hlast => h.2 (List.mem_of_getLast? hlast)

/-- Parts that are continued on the next line make up one instruction. -/
theorem readsAs_continued {front before indent : List Char} (hfront : IsUnbroken front)
    (hbefore : IsUnbroken before) (hindent : IsUnbroken indent) {parts : List (List Char)}
    (h : ∀ p ∈ parts, IsUnbroken p) :
    ReadsAs (front ++ (before ++ '\\' :: '\n' :: indent).intercalate parts)
      (front ++ (before ++ indent).intercalate parts) := by
  intro rest
  have hread : ∀ line : List Char,
      readLines line false
          ((before ++ '\\' :: '\n' :: indent).intercalate parts ++ '\n' :: rest) =
        (line ++ (before ++ indent).intercalate parts) :: readLines [] false rest := by
    induction parts with
    | nil => simp
    | cons p parts ih =>
        intro line
        obtain ⟨⟨hnewline, hslash⟩, hparts⟩ := List.forall_mem_cons.mp h
        cases parts with
        | nil =>
            rw [List.intercalate_singleton, List.intercalate_singleton,
              readLines_append hnewline hslash, readLines_newline]
        | cons q parts =>
            rw [List.intercalate_cons_cons, List.intercalate_cons_cons]
            simp only [List.append_assoc, List.cons_append]
            rw [readLines_append hnewline hslash, readLines_append hbefore.1 hbefore.2,
              readLines_continued, readLines_append hindent.1 hindent.2, ih hparts]
            simp
  rw [List.append_assoc, readLines_append hfront.1 hfront.2, hread, List.nil_append]

theorem logicalLines_of_forall₂ {texts lines : List (List Char)}
    (h : List.Forall₂ ReadsAs texts lines) :
    logicalLines (texts.flatMap (· ++ ['\n'])) = lines := by
  induction h with
  | nil => rfl
  | cons hread _ ih =>
      rw [List.flatMap_cons, List.append_assoc, List.singleton_append, logicalLines, hread]
      exact congrArg _ ih

/-! ## Words -/

def isBlank (c : Char) : Bool := c == ' ' || c == '\t'

def readWords (word : List Char) : List Char → List (List Char)
  | [] => [word].filter (· ≠ [])
  | c :: cs =>
      if isBlank c then [word].filter (· ≠ []) ++ readWords [] cs
      else readWords (word ++ [c]) cs

def words (line : List Char) : List (List Char) := readWords [] line

/-- The name of an instruction. -/
def keyword (line : List Char) : Option (List Char) := (words line).head?

theorem readWords_append {word : List Char} (h : ∀ c ∈ part, isBlank c = false) :
    readWords word (part ++ rest) = readWords (word ++ part) rest := by
  induction part generalizing word with
  | nil => rw [List.nil_append, List.append_nil]
  | cons c part ih =>
      obtain ⟨hc, hpart⟩ := List.forall_mem_cons.mp h
      rw [List.cons_append, readWords, hc, if_neg Bool.false_ne_true, ih hpart]
      simp

theorem readWords_word (h : ∀ c ∈ part, isBlank c = false) (hne : part ≠ []) :
    readWords [] (part ++ ' ' :: rest) = part :: readWords [] rest := by
  rw [readWords_append h, List.nil_append, readWords, if_pos (by decide),
    List.filter_cons_of_pos (by simpa using hne)]
  rfl

theorem readWords_last (h : ∀ c ∈ part, isBlank c = false) (hne : part ≠ []) :
    readWords [] part = [part] := by
  have hread : readWords [] (part ++ []) = readWords ([] ++ part) [] := readWords_append h
  rw [List.append_nil, List.nil_append] at hread
  rw [hread, readWords, List.filter_cons_of_pos (by simpa using hne)]
  rfl

/-- Characters that are read as something else, or match several names. -/
def isSpecial (c : Char) : Bool := "$\\\"'[]*?".toList.contains c

/-- The sources of a COPY instruction without flags and special characters. -/
def copySources (line : List Char) : Option (List (List Char)) :=
  match words line with
  | keyword :: args =>
      if keyword = "COPY".toList ∧ 2 ≤ args.length ∧
          args.all (fun arg => arg.head? ≠ some '-' && arg.all (!isSpecial ·)) then
        some args.dropLast
      else none
  | [] => none

end Dockerfile
