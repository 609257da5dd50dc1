import HackArena.Lib.Text

/-!
# Parts of a text

A text is stripped of characters at its ends, and it is cut at the first or
at the last occurrence of a character.
-/

namespace Text

/-! ## Stripping both ends -/

section Trim

variable {α : Type*} {p : α → Bool} {l m r : List α}

/-- `str::trim_matches`. -/
def trimMatches (p : α → Bool) (cs : List α) : List α := (cs.dropWhile p).rdropWhile p

theorem trimChars_eq (cs : List Char) : trimChars cs = trimMatches isWhitespace cs := rfl

theorem rdropWhile_append_of_forall (hr : ∀ c ∈ r, p c) :
    (m ++ r).rdropWhile p = m.rdropWhile p := by
  induction r using List.reverseRecOn with
  | nil => rw [List.append_nil]
  | append_singleton r c ih =>
    rw [← List.append_assoc, List.rdropWhile_concat_pos _ _ _ (hr c (by simp))]
    exact ih fun d hd => hr d (List.mem_append_left _ hd)

theorem rdropWhile_append_of_ne_nil (hr : r.rdropWhile p ≠ []) :
    (m ++ r).rdropWhile p = m ++ r.rdropWhile p := by
  induction r using List.reverseRecOn with
  | nil => exact absurd (List.rdropWhile_nil p) hr
  | append_singleton r c ih =>
    by_cases hc : p c
    · rw [List.rdropWhile_concat_pos _ _ _ hc] at hr ⊢
      rw [← List.append_assoc, List.rdropWhile_concat_pos _ _ _ hc, ih hr]
    · rw [← List.append_assoc, List.rdropWhile_concat_neg _ _ _ hc,
        List.rdropWhile_concat_neg _ _ _ hc, List.append_assoc]

theorem exists_eq_rdropWhile_append (p : α → Bool) (cs : List α) :
    ∃ r, cs = cs.rdropWhile p ++ r ∧ ∀ c ∈ r, p c :=
  ⟨cs.rtakeWhile p, (List.rdropWhile_append_rtakeWhile ..).symm, fun _ => List.mem_rtakeWhile_imp⟩

theorem trimMatches_around (hl : ∀ c ∈ l, p c) (hr : ∀ c ∈ r, p c) :
    trimMatches p (l ++ m ++ r) = trimMatches p m := by
  rw [trimMatches, List.append_assoc, List.dropWhile_append_of_pos hl, trimMatches]
  by_cases hm : m.dropWhile p = []
  · have hall : ∀ c ∈ m ++ r, p c := by
      intro c hc
      rcases List.mem_append.mp hc with hc | hc
      · exact List.dropWhile_eq_nil_iff.mp hm c hc
      · exact hr c hc
    rw [hm, List.dropWhile_eq_nil_iff.mpr hall]
  · obtain ⟨d, ds, hds⟩ := List.exists_cons_of_ne_nil hm
    rw [List.dropWhile_append, hds]
    exact rdropWhile_append_of_forall hr

theorem exists_eq_trimMatches (p : α → Bool) (cs : List α) :
    ∃ l r, cs = l ++ trimMatches p cs ++ r ∧ (∀ c ∈ l, p c) ∧ ∀ c ∈ r, p c := by
  obtain ⟨r, hr, hall⟩ := exists_eq_rdropWhile_append p (cs.dropWhile p)
  refine ⟨cs.takeWhile p, r, ?_, fun _ => List.mem_takeWhile_imp, hall⟩
  rw [List.append_assoc, trimMatches, ← hr, List.takeWhile_append_dropWhile]

theorem trimMatches_subset (p : α → Bool) (cs : List α) : trimMatches p cs ⊆ cs := by
  obtain ⟨l, r, hcs, -, -⟩ := exists_eq_trimMatches p cs
  intro c hc
  rw [hcs]
  exact List.mem_append_left _ (List.mem_append_right _ hc)

/-- Characters that are mapped to ones that are stripped may stay at the
ends. -/
theorem trimMatches_map_trimMatches {β : Type*} {f : α → β} {q : β → Bool} (cs : List α)
    (h : ∀ c, p c → q (f c)) : trimMatches q (cs.map f) = trimMatches q ((trimMatches p cs).map f) := by
  obtain ⟨l, r, hcs, hl, hr⟩ := exists_eq_trimMatches p cs
  have hmapped : ∀ ds : List α, (∀ c ∈ ds, p c) → ∀ d ∈ ds.map f, q d := by
    intro ds hds d hd
    obtain ⟨c, hc, rfl⟩ := List.mem_map.mp hd
    exact h c (hds c hc)
  conv_lhs => rw [hcs, List.map_append, List.map_append]
  exact trimMatches_around (hmapped l hl) (hmapped r hr)

end Trim

/-! ## Cutting -/

section Split

variable {α : Type*} [DecidableEq α] {d : α} {l m r : List α}

theorem dropPrefix_eq_some_iff : l.dropPrefix? r = some m ↔ l = r ++ m := by
  simp only [List.dropPrefix?_eq_some_iff, beq_iff_eq, exists_eq_right]

theorem dropPrefix_eq_none_iff : l.dropPrefix? r = none ↔ ¬ r <+: l := by
  rw [Option.eq_none_iff_forall_ne_some]
  constructor
  · rintro h ⟨m, hm⟩
    exact h m (dropPrefix_eq_some_iff.mpr hm.symm)
  · intro h m hm
    exact h ⟨m, (dropPrefix_eq_some_iff.mp hm).symm⟩

/-- `str::split_once`. -/
def splitOnce (d : α) : List α → Option (List α × List α)
  | [] => none
  | c :: cs => if c = d then some ([], cs) else (splitOnce d cs).map (Prod.map (c :: ·) id)

/-- `str::rsplit_once`. -/
def rsplitOnce (d : α) (cs : List α) : Option (List α × List α) :=
  (splitOnce d cs.reverse).map fun parts => (parts.2.reverse, parts.1.reverse)

theorem splitOnce_append (h : d ∉ l) : splitOnce d (l ++ d :: r) = some (l, r) := by
  induction l with
  | nil => rw [List.nil_append, splitOnce, if_pos rfl]
  | cons c l ih =>
    rw [List.mem_cons, not_or] at h
    rw [List.cons_append, splitOnce, if_neg (Ne.symm h.1), ih h.2]
    rfl

theorem rsplitOnce_append (h : d ∉ r) : rsplitOnce d (l ++ d :: r) = some (l, r) := by
  have hreverse : (l ++ d :: r).reverse = r.reverse ++ d :: l.reverse := by simp
  rw [rsplitOnce, hreverse, splitOnce_append (List.mem_reverse.not.mpr h), Option.map_some,
    List.reverse_reverse, List.reverse_reverse]

end Split

/-! ## Letters, digits and white space -/

theorem bounds_of_isAsciiAlphanumeric {c : Char} (h : isAsciiAlphanumeric c) :
    48 ≤ c.toNat ∧ c.toNat ≤ 122 := by
  simp only [isAsciiAlphanumeric, Bool.or_eq_true, Bool.and_eq_true, decide_eq_true_eq,
    Char.le_def, UInt32.le_iff_toNat_le] at h
  rcases h with (hdigit | hupper) | hlower
  · change 48 ≤ c.toNat ∧ c.toNat ≤ 57 at hdigit
    omega
  · change 65 ≤ c.toNat ∧ c.toNat ≤ 90 at hupper
    omega
  · change 97 ≤ c.toNat ∧ c.toNat ≤ 122 at hlower
    omega

theorem bounds_of_isWhitespace {c : Char} (h : isWhitespace c) :
    c.toNat ≤ 32 ∨ 133 ≤ c.toNat := by
  simp only [isWhitespace, Bool.or_eq_true, Bool.and_eq_true, decide_eq_true_eq, beq_iff_eq] at h
  omega

/-! ## Replacing -/

/-- `str::replace` of a character. -/
def replaceChar (s : String) (d : Char) (replacement : String) : String :=
  String.ofList (s.toList.flatMap fun c => if c = d then replacement.toList else [c])

end Text
