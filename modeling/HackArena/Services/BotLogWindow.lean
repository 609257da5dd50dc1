import HackArena.Lib.Windows
import HackArena.Services.BotLogs
import Mathlib.Algebra.GroupWithZero.Nat

/-!
# The window of a log's snapshot

The snapshot reads the whole file and keeps the last lines that are within
both limits. It drops lines at the front after each line read; what is kept
in the end are the last lines of the whole file that fit.
-/

namespace HackArena.Services

open HackArena.Runtime Window

/-- The limits of a snapshot. -/
def FitsSnapshot (lines : List (List Char)) : Prop :=
  lines.length ≤ OFFICIAL_BOT_LOG_MAX_LINES ∧
    (lines.map List.length).sum ≤ OFFICIAL_BOT_LOG_MAX_CHARS

instance : DecidablePred FitsSnapshot := fun _ => inferInstanceAs (Decidable (_ ∧ _))

theorem fitsSnapshot_nil : FitsSnapshot [] := ⟨Nat.zero_le _, Nat.zero_le _⟩

theorem FitsSnapshot.of_append {lines : List (List Char)} {line : List Char}
    (h : FitsSnapshot (lines ++ [line])) : FitsSnapshot lines := by
  obtain ⟨hlines, hchars⟩ := h
  rw [List.length_append] at hlines
  rw [List.map_append, List.sum_append] at hchars
  exact ⟨(Nat.le_add_right _ _).trans hlines, (Nat.le_add_right _ _).trans hchars⟩

/-- The last characters of a line. -/
def lastChars (line : List Char) : List Char :=
  line.drop (line.length - OFFICIAL_BOT_LOG_MAX_CHARS)

theorem truncateLineTail_eq (line : List Char) :
    truncateLineTail line OFFICIAL_BOT_LOG_MAX_CHARS =
      (lastChars line, (lastChars line).length,
        decide (OFFICIAL_BOT_LOG_MAX_CHARS < line.length)) := by
  rw [truncateLineTail, lastChars]
  split
  next hshort =>
    rw [Nat.sub_eq_zero_of_le hshort, List.drop_zero, decide_eq_false (Nat.not_lt_of_le hshort)]
  next hlong =>
    have hlength : (line.drop (line.length - OFFICIAL_BOT_LOG_MAX_CHARS)).length =
        OFFICIAL_BOT_LOG_MAX_CHARS := by
      rw [List.length_drop]
      omega
    rw [hlength, decide_eq_true (Nat.lt_of_not_le hlong)]

theorem length_lastChars_le (line : List Char) :
    (lastChars line).length ≤ OFFICIAL_BOT_LOG_MAX_CHARS := by
  rw [lastChars, List.length_drop]
  omega

theorem fitsSnapshot_lastChars (line : List Char) : FitsSnapshot [lastChars line] := by
  constructor
  · rw [List.length_singleton, OFFICIAL_BOT_LOG_MAX_LINES]
    omega
  · rw [List.map_singleton, List.sum_singleton]
    exact length_lastChars_le line

/-! ## The loop that drops lines -/

/-- The line is put at the end; it may not fit yet. -/
def BotLogsWindow.pushBack (w : BotLogsWindow) (rawLine : List Char) : BotLogsWindow :=
  let r := truncateLineTail rawLine OFFICIAL_BOT_LOG_MAX_CHARS
  ⟨w.window ++ [(r.1, r.2.1)], saturatingAdd w.totalChars r.2.1, w.truncated || r.2.2⟩

theorem pushBack_eq (w : BotLogsWindow) (rawLine : List Char) :
    w.pushBack rawLine =
      ⟨w.window ++ [(lastChars rawLine, (lastChars rawLine).length)],
        saturatingAdd w.totalChars (lastChars rawLine).length,
        w.truncated || decide (OFFICIAL_BOT_LOG_MAX_CHARS < rawLine.length)⟩ := by
  rw [BotLogsWindow.pushBack, truncateLineTail_eq]

/-- The windows that the loop goes through. -/
inductive Popping (w : BotLogsWindow) : BotLogsWindow → Prop
  | start : Popping w w
  | pop {line : List Char × ℕ} {rest : List (List Char × ℕ)} {totalChars : ℕ} {truncated : Bool}
      (before : Popping w ⟨line :: rest, totalChars, truncated⟩)
      (exceeds : OFFICIAL_BOT_LOG_MAX_LINES < (line :: rest).length ∨
        OFFICIAL_BOT_LOG_MAX_CHARS < totalChars) :
      Popping w ⟨rest, totalChars - line.2, true⟩

theorem popping_popOverLimits {w : BotLogsWindow} (window : List (List Char × ℕ))
    (totalChars : ℕ) (truncated : Bool) (h : Popping w ⟨window, totalChars, truncated⟩) :
    Popping w (popOverLimits window totalChars truncated) := by
  induction window generalizing totalChars truncated with
  | nil => exact h
  | cons line rest ih =>
      rw [popOverLimits]
      split
      next exceeds => exact ih _ _ (h.pop exceeds)
      next => exact h

/-- Every line is with the number of its characters, and the total is
their sum. -/
structure BotLogsWindow.Counted (w : BotLogsWindow) : Prop where
  counts : ∀ line ∈ w.window, line.2 = line.1.length
  total : w.totalChars = (w.window.map fun line => line.1.length).sum

theorem BotLogsWindow.Counted.over_iff {w : BotLogsWindow} (h : w.Counted) :
    OFFICIAL_BOT_LOG_MAX_LINES < w.window.length ∨ OFFICIAL_BOT_LOG_MAX_CHARS < w.totalChars ↔
      ¬ FitsSnapshot (w.window.map Prod.fst) := by
  rw [FitsSnapshot, List.length_map, List.map_map, h.total, not_and_or, not_le, not_le]
  rfl

theorem BotLogsWindow.Counted.pop {line : List Char × ℕ} {rest : List (List Char × ℕ)}
    {totalChars : ℕ} {truncated : Bool}
    (h : BotLogsWindow.Counted ⟨line :: rest, totalChars, truncated⟩) :
    BotLogsWindow.Counted ⟨rest, totalChars - line.2, true⟩ := by
  refine ⟨fun other hother => h.counts other (List.mem_cons_of_mem line hother), ?_⟩
  have htotal := h.total
  have hline := h.counts line List.mem_cons_self
  simp only [List.map_cons, List.sum_cons] at htotal ⊢
  omega

/-- The loop keeps the last lines that fit. -/
theorem popOverLimits_shrink (window : List (List Char × ℕ)) (totalChars : ℕ) (truncated : Bool)
    (h : BotLogsWindow.Counted ⟨window, totalChars, truncated⟩) :
    let w := popOverLimits window totalChars truncated
    w.Counted ∧ w.window.map Prod.fst = shrink FitsSnapshot (window.map Prod.fst) ∧
      w.truncated = (truncated || decide (w.window.length < window.length)) := by
  induction window generalizing totalChars truncated with
  | nil => exact ⟨h, rfl, by simp [popOverLimits]⟩
  | cons line rest ih =>
      have hover := h.over_iff
      rw [popOverLimits, List.map_cons, shrink, ← List.map_cons]
      by_cases hfits : FitsSnapshot ((line :: rest).map Prod.fst)
      · rw [if_pos hfits, if_neg fun exceeds => hover.mp exceeds hfits]
        exact ⟨h, rfl, by simp⟩
      · rw [if_neg hfits, if_pos (hover.mpr hfits)]
        obtain ⟨hcounted, hkept, htruncated⟩ := ih _ _ h.pop
        refine ⟨hcounted, hkept, ?_⟩
        have hshorter := (popOverLimits_spec rest (totalChars - line.2) true).1.length_le
        rw [htruncated, Bool.true_or, List.length_cons,
          decide_eq_true (Nat.lt_succ_of_le hshorter), Bool.or_true]

/-! ## The window over the lines read -/

/-- The window after the lines were read. -/
structure TailWindow (rawLines : List (List Char)) (w : BotLogsWindow) : Prop where
  counted : w.Counted
  longest : Longest FitsSnapshot (w.window.map Prod.fst) (rawLines.map lastChars)
  truncated : w.truncated = true ↔ w.window.length < rawLines.length ∨
    ∃ line ∈ rawLines, OFFICIAL_BOT_LOG_MAX_CHARS < line.length

section Push

variable {rawLines : List (List Char)} {w : BotLogsWindow}

theorem TailWindow.totalChars_le (h : TailWindow rawLines w) :
    w.totalChars ≤ OFFICIAL_BOT_LOG_MAX_CHARS := by
  have hfits := h.longest.fits.2
  rw [List.map_map] at hfits
  rw [h.counted.total]
  exact hfits

theorem limits_le_u64Max : OFFICIAL_BOT_LOG_MAX_CHARS + OFFICIAL_BOT_LOG_MAX_CHARS ≤ u64Max := by
  decide +kernel

/-- The sum is far from where it would saturate. -/
theorem TailWindow.pushBack_counted (h : TailWindow rawLines w) (rawLine : List Char) :
    (w.pushBack rawLine).Counted := by
  have hsum : saturatingAdd w.totalChars (lastChars rawLine).length =
      w.totalChars + (lastChars rawLine).length :=
    Nat.min_eq_left ((Nat.add_le_add h.totalChars_le (length_lastChars_le rawLine)).trans
      limits_le_u64Max)
  rw [pushBack_eq, hsum]
  constructor
  · intro line hline
    rcases List.mem_append.mp hline with hbefore | hnew
    · exact h.counted.counts line hbefore
    · rw [List.mem_singleton.mp hnew]
  · rw [List.map_append, List.sum_append, ← h.counted.total, List.map_singleton,
      List.sum_singleton]

theorem TailWindow.push (h : TailWindow rawLines w) (rawLine : List Char) :
    TailWindow (rawLines ++ [rawLine]) (pushRawLine w rawLine) := by
  obtain ⟨hcounted, hkept, htruncated⟩ :
      (pushRawLine w rawLine).Counted ∧
        (pushRawLine w rawLine).window.map Prod.fst =
          shrink FitsSnapshot ((w.pushBack rawLine).window.map Prod.fst) ∧
        (pushRawLine w rawLine).truncated = ((w.pushBack rawLine).truncated ||
          decide ((pushRawLine w rawLine).window.length < (w.pushBack rawLine).window.length)) :=
    popOverLimits_shrink _ _ _ (h.pushBack_counted rawLine)
  generalize pushRawLine w rawLine = pushed at hcounted hkept htruncated ⊢
  rw [pushBack_eq, List.map_append, List.map_singleton] at hkept
  have hlongest : Longest FitsSnapshot (pushed.window.map Prod.fst)
      (rawLines.map lastChars ++ [lastChars rawLine]) := by
    simp only [hkept]
    exact h.longest.push fitsSnapshot_nil (fun _ _ => FitsSnapshot.of_append) (lastChars rawLine)
  have hshorter : (pushed.window.map Prod.fst).length ≤
      (w.window.map Prod.fst ++ [lastChars rawLine]).length := by
    simp only [hkept]
    exact (longest_shrink fitsSnapshot_nil _).suffix.length_le
  refine ⟨hcounted, by rwa [List.map_append], ?_⟩
  have hflag : pushed.truncated = true ↔
      (w.truncated = true ∨ OFFICIAL_BOT_LOG_MAX_CHARS < rawLine.length) ∨
        pushed.window.length < w.window.length + 1 := by
    rw [htruncated, pushBack_eq, Bool.or_eq_true, Bool.or_eq_true, decide_eq_true_iff,
      decide_eq_true_iff, List.length_append, List.length_singleton]
  have hbefore := h.longest.suffix.length_le
  rw [List.length_map, List.length_map] at hbefore
  rw [List.length_append, List.length_map, List.length_map, List.length_singleton] at hshorter
  rw [hflag, h.truncated, List.length_append, List.length_singleton]
  constructor
  · rintro (((hdropped | ⟨line, hline, hcut⟩) | hcut) | hdropped)
    · exact .inl (by omega)
    · exact .inr ⟨line, List.mem_append_left _ hline, hcut⟩
    · exact .inr ⟨rawLine, List.mem_append_right _ List.mem_cons_self, hcut⟩
    · exact .inl (by omega)
  · rintro (hdropped | ⟨line, hline, hcut⟩)
    · by_cases hfirst : w.window.length < rawLines.length
      · exact .inl (.inl (.inl hfirst))
      · exact .inr (by omega)
    · rcases List.mem_append.mp hline with hold | hnew
      · exact .inl (.inl (.inr ⟨line, hold, hcut⟩))
      · rw [List.mem_singleton.mp hnew] at hcut
        exact .inl (.inr hcut)

theorem tailWindow_foldl (rawLines : List (List Char)) :
    TailWindow rawLines (rawLines.foldl pushRawLine ⟨[], 0, false⟩) := by
  induction rawLines using List.reverseRecOn with
  | nil =>
      refine ⟨⟨fun _ h => absurd h List.not_mem_nil, rfl⟩, ?_, by simp⟩
      exact longest_shrink fitsSnapshot_nil []
  | append_singleton rawLines rawLine ih =>
      rw [List.foldl_append]
      exact ih.push rawLine

/-- While lines are dropped the total is right, and the line just read
stays at the end. -/
theorem TailWindow.popping (h : TailWindow rawLines w) {rawLine : List Char} {v : BotLogsWindow}
    (hv : Popping (w.pushBack rawLine) v) :
    v.Counted ∧ (v.window.map Prod.fst).getLast? = some (lastChars rawLine) := by
  induction hv with
  | start =>
      refine ⟨h.pushBack_counted rawLine, ?_⟩
      rw [pushBack_eq, List.map_append, List.map_singleton, List.getLast?_concat]
  | @pop line rest totalChars truncated before exceeds ih =>
      obtain ⟨hcounted, hlast⟩ := ih
      refine ⟨hcounted.pop, ?_⟩
      cases rest with
      | nil =>
          -- the line alone is within the limits
          have hline : [line].map Prod.fst = [lastChars rawLine] := by
            rw [List.map_singleton] at hlast ⊢
            exact congrArg (fun line => [line]) (Option.some.inj hlast)
          have hfits := fitsSnapshot_lastChars rawLine
          rw [← hline] at hfits
          exact absurd hfits (hcounted.over_iff.mp exceeds)
      | cons next rest =>
          rwa [List.map_cons, List.map_cons, List.getLast?_cons_cons, ← List.map_cons] at hlast

end Push

/-- The snapshot has the last lines of the file that are within the limits,
each cut to its last characters if it is too long. While the file is read
the total is that of the window, and no line is dropped when it is read. -/
theorem snapshot_keeps_last_lines (rawLines : List (List Char)) :
    let w : BotLogsWindow := rawLines.foldl pushRawLine ⟨[], 0, false⟩
    TailWindow rawLines w ∧
      (∀ rawLine v, Popping (w.pushBack rawLine) v →
        v.Counted ∧ (v.window.map Prod.fst).getLast? = some (lastChars rawLine)) ∧
      (∀ rawLine, Popping (w.pushBack rawLine) (pushRawLine w rawLine)) ∧
      ∀ fileSizeBytes content, readLines content = some rawLines →
        readTailBotLogsSnapshot fileSizeBytes content =
          some ⟨w.window.map Prod.fst, w.truncated, fileSizeBytes⟩ := by
  intro w
  have htail : TailWindow rawLines w := tailWindow_foldl rawLines
  refine ⟨htail, fun rawLine v => htail.popping, ?_, ?_⟩
  · intro rawLine
    exact popping_popOverLimits _ _ _ .start
  · intro fileSizeBytes content hread
    rw [readTailBotLogsSnapshot, hread]
    rfl

end HackArena.Services
