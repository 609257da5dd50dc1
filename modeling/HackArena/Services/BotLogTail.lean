import HackArena.Lib.Utf8Parts
import HackArena.Services.BotLogs

/-!
# Polls of a growing log

The lines that the polls return depend on where the bytes were split only
through the characters that a split cuts: each poll decodes the bytes it
reads on their own.
-/

namespace HackArena.Services

open Utf8

/-- What the bot appends before a poll, and while the poll is between the
size of the file and its content. -/
structure PollBytes where
  beforeSize : List UInt8
  beforeContent : List UInt8
  deriving DecidableEq, Repr

def PollBytes.bytes (p : PollBytes) : List UInt8 := p.beforeSize ++ p.beforeContent

/-- The lines that successive polls return. -/
def pollLines (content : List UInt8) (offset : ℕ) (pendingTail : List Char) :
    List PollBytes → List (List Char)
  | [] => []
  | p :: polls =>
      let r := readAppendedBotLogLines (content ++ p.beforeSize).length (content ++ p.bytes)
        offset pendingTail
      r.1 ++ pollLines (content ++ p.bytes) r.2.1 r.2.2 polls

/-- One poll that reads everything. -/
def wholePoll (polls : List PollBytes) : PollBytes := ⟨polls.flatMap PollBytes.bytes, []⟩

/-! ## Where the splits are -/

/-- The text of the bytes read at once; a character is marked if a poll
ends within it. -/
def markedText (chunks : List (List UInt8)) : List (Char × Bool) :=
  (decodeMarked (cells chunks)).map fun part => (part.1.getD '\uFFFD', part.2)

def markedLines (chunks : List (List UInt8)) : List (List (Char × Bool)) :=
  (Lines.complete ('\n', false) (markedText chunks)).1

def dropMarkedReturn (line : List (Char × Bool)) : List (Char × Bool) :=
  if line.getLast? = some ('\r', false) then line.dropLast else line

/-- The characters of the line that are sent hide the splits. -/
def HidesSplits (line : List (Char × Bool)) : Prop :=
  SplitsHidden '\uFFFD' OFFICIAL_BOT_LOG_MAX_CHARS (dropMarkedReturn line).reverse

/-! ## The polls, read as one text -/

def sentLine (line : List Char) : List Char := cutLine (dropCarriageReturn line)

theorem pollLines_eq (content : List UInt8) {pendingTail : List Char} (hpending : '\n' ∉ pendingTail)
    (polls : List PollBytes) :
    pollLines content content.length pendingTail polls =
      (Lines.complete '\n'
        (pendingTail ++ (polls.map PollBytes.bytes).flatMap fromUtf8Lossy)).1.map sentLine := by
  induction polls generalizing content pendingTail with
  | nil =>
      rw [List.map_nil, List.flatMap_nil, Lines.complete_append_of_notMem hpending]
      rfl
  | cons p polls ih =>
      have hstart : ¬ (content ++ p.beforeSize).length < content.length := by
        rw [List.length_append]
        omega
      rw [pollLines, readAppendedBotLogLines]
      simp only [if_neg hstart, List.drop_left]
      rw [List.map_cons, List.flatMap_cons]
      split
      next hempty =>
        rw [hempty, List.append_nil, List.nil_append, ih content hpending, fromUtf8Lossy_nil,
          List.nil_append]
      next =>
        rw [← List.length_append, ih _ (Lines.sep_notMem_rest _), ← List.append_assoc,
          Lines.complete_append (pendingTail ++ fromUtf8Lossy p.bytes), List.map_append]
        rfl

theorem polls_decoded (content : List UInt8) (polls : List PollBytes) :
    pollLines content content.length [] polls =
      (Lines.complete '\n'
        ((decodeChunks (cells (polls.map PollBytes.bytes))).map (·.getD '\uFFFD'))).1.map
          sentLine := by
  rw [pollLines_eq content List.not_mem_nil, decodeChunks_cells, List.nil_append, List.map_flatMap]
  rfl

/-! ## Marks -/

theorem unmark_markedText (chunks : List (List UInt8)) :
    unmark (markedText chunks) = fromUtf8Lossy chunks.flatten := by
  have hparts := decodeMarked_parts (cells chunks)
  rw [cells_bytes] at hparts
  rw [fromUtf8Lossy, ← hparts]
  simp [unmark, markedText]

theorem spread_markedText (chunks : List (List UInt8)) :
    Spread '\uFFFD' (markedText chunks)
      ((decodeChunks (cells chunks)).map (·.getD '\uFFFD')) :=
  (spread_decodeChunks (cells chunks)).map (·.getD '\uFFFD')

/-- The ends of lines are single bytes, which no poll cuts. -/
theorem not_marked {chunks : List (List UInt8)} {c : Char} (hc : c.utf8Size = 1)
    (hr : c ≠ '\uFFFD') : (c, true) ∉ markedText chunks := by
  intro hmem
  obtain ⟨⟨part, mark⟩, hpart, heq⟩ := List.mem_map.mp hmem
  obtain ⟨hchar, rfl⟩ := Prod.mk.inj heq
  cases part with
  | none => exact hr hchar.symm
  | some c' =>
      obtain rfl : c' = c := hchar
      have hlong := one_lt_utf8Size_of_marked hpart
      omega

theorem spread_dropReturn {line : List (Char × Bool)} {line' : List Char}
    (h : Spread '\uFFFD' line line') :
    Spread '\uFFFD' (dropMarkedReturn line) (dropCarriageReturn line') := by
  rcases List.eq_nil_or_concat line with rfl | ⟨start, last, rfl⟩
  · cases h
    exact .nil
  · rw [List.concat_eq_append] at h ⊢
    obtain ⟨start', hstart, hlast⟩ := h.concat_cases
    rcases last with ⟨c, mark⟩
    rcases hlast with ⟨rfl, rfl⟩ | ⟨rfl, k, hk, rfl⟩
    · by_cases hreturn : c = '\r'
      · simpa [dropMarkedReturn, dropCarriageReturn, hreturn] using hstart
      · simpa [dropMarkedReturn, dropCarriageReturn, hreturn] using h
    · have hreplaced : (start' ++ List.replicate k '\uFFFD').getLast? = some '\uFFFD' := by
        obtain ⟨k, rfl⟩ : ∃ i, k = i + 1 := ⟨k - 1, by omega⟩
        rw [List.replicate_succ', ← List.append_assoc, List.getLast?_concat]
      have hkept : dropCarriageReturn (start' ++ List.replicate k '\uFFFD') =
          start' ++ List.replicate k '\uFFFD' := by
        rw [dropCarriageReturn, hreplaced, if_neg (by decide)]
      simpa [dropMarkedReturn, hkept] using h

theorem unmark_dropReturn {line : List (Char × Bool)} (h : ('\r', true) ∉ line) :
    unmark (dropMarkedReturn line) = dropCarriageReturn (unmark line) := by
  rcases List.eq_nil_or_concat line with rfl | ⟨start, last, rfl⟩
  · rfl
  · rw [List.concat_eq_append] at h ⊢
    rcases last with ⟨c, mark⟩
    by_cases hreturn : c = '\r'
    · have hmark : mark = false := by
        cases mark with
        | false => rfl
        | true => exact absurd (by simp [hreturn]) h
      simp [dropMarkedReturn, dropCarriageReturn, hreturn, hmark]
    · simp [dropMarkedReturn, dropCarriageReturn, hreturn]

/-- A line is sent up to its last characters. -/
theorem cutLine_eq (line : List Char) :
    cutLine line = (line.reverse.take OFFICIAL_BOT_LOG_MAX_CHARS).reverse := by
  rw [cutLine, truncateLineTail]
  split
  next hshort => rw [List.take_of_length_le (by simpa using hshort), List.reverse_reverse]
  next => rw [List.take_reverse, List.reverse_reverse]

theorem sentLine_eq_iff {line : List (Char × Bool)} {line' : List Char}
    (h : Spread '\uFFFD' line line') (hreturn : ('\r', true) ∉ line) :
    sentLine line' = sentLine (unmark line) ↔ HidesSplits line := by
  have hspread := (spread_dropReturn h).reverse
  have hplain : unmark (dropMarkedReturn line).reverse =
      (dropCarriageReturn (unmark line)).reverse := by
    rw [← unmark_dropReturn hreturn, unmark, List.map_reverse]
    rfl
  rw [sentLine, sentLine, cutLine_eq, cutLine_eq, List.reverse_inj, ← hplain, HidesSplits]
  exact hspread.take_eq_iff OFFICIAL_BOT_LOG_MAX_CHARS

/-! ## All polls together -/

theorem map_eq_map_iff_of_forall₂ {α β γ : Type*} {f : α → γ} {g : β → γ} {Q : α → Prop}
    {xs : List α} {ys : List β} (h : List.Forall₂ (fun x y => g y = f x ↔ Q x) xs ys) :
    ys.map g = xs.map f ↔ ∀ x ∈ xs, Q x := by
  induction h with
  | nil => simp
  | cons hxy h ih => simp [hxy, ih]

/-- Successive polls return the lines that one poll of all the bytes
returns exactly when, in each of these lines, what is sent hides that a
poll ended within a character. -/
theorem polls_return_whole_lines_iff (content : List UInt8) (polls : List PollBytes) :
    pollLines content content.length [] polls =
        pollLines content content.length [] [wholePoll polls] ↔
      ∀ line ∈ markedLines (polls.map PollBytes.bytes), HidesSplits line := by
  have hfeed : ('\n', true) ∉ markedText (polls.map PollBytes.bytes) :=
    not_marked rfl (by decide)
  have hreturn : ∀ line ∈ markedLines (polls.map PollBytes.bytes), ('\r', true) ∉ line :=
    fun line hline hmem => not_marked rfl (by decide) (Lines.mem_of_mem_complete hline hmem)
  have hwhole : pollLines content content.length [] [wholePoll polls] =
      (markedLines (polls.map PollBytes.bytes)).map fun line => sentLine (unmark line) := by
    have htext : (polls.map PollBytes.bytes).flatten = (wholePoll polls).bytes := by
      rw [wholePoll, PollBytes.bytes, List.append_nil, List.flatMap_def]
    rw [pollLines_eq content List.not_mem_nil, List.map_singleton, List.flatMap_singleton,
      List.nil_append, ← htext, ← unmark_markedText, complete_unmark hfeed, List.map_map]
    rfl
  rw [hwhole, polls_decoded]
  apply map_eq_map_iff_of_forall₂
  obtain ⟨hlines, -⟩ := (spread_markedText (polls.map PollBytes.bytes)).complete (by decide) hfeed
  rw [List.forall₂_iff_get] at hlines ⊢
  refine ⟨hlines.1, fun i hi hi' => ?_⟩
  exact sentLine_eq_iff (hlines.2 i hi hi') (hreturn _ (List.get_mem _ _))

/-- The second byte of a letter is read by a second poll. -/
theorem letter_cut_by_poll :
    ¬ ∀ (content : List UInt8) (polls : List PollBytes),
      pollLines content content.length [] polls =
        pollLines content content.length [] [wholePoll polls] := by
  intro h
  have hcut := h [] [⟨[0xC3], []⟩, ⟨[0xA9, 10], []⟩]
  revert hcut
  decide +kernel

end HackArena.Services
