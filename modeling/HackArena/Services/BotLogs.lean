import HackArena.Lib.ByteLines
import HackArena.Lib.GuardedRun
import HackArena.Services.Status

/-!
# The stream of a bot's log

A stream of a bot's log sends the last lines of the file, then polls the
file for lines appended since. The bot goes on writing meanwhile: the size
of the file, which the polls resume from, and its content are read one
after the other, and so are they at each poll.
-/

namespace HackArena.Services

open HackArena.Runtime GuardedRun

def OFFICIAL_BOT_LOG_MAX_LINES : ℕ := 5000
def OFFICIAL_BOT_LOG_MAX_CHARS : ℕ := 200000

/-! ## Reading the file -/

structure BotLogsSnapshot where
  lines : List (List Char)
  truncated : Bool
  fileSizeBytes : ℕ
  deriving DecidableEq, Repr

def truncateLineTail (line : List Char) (maxChars : ℕ) : List Char × ℕ × Bool :=
  let charCount := line.length
  if charCount ≤ maxChars then (line, charCount, false)
  else (line.drop (charCount - maxChars), maxChars, true)

/-- A line as the reader sends it. -/
def cutLine (line : List Char) : List Char := (truncateLineTail line OFFICIAL_BOT_LOG_MAX_CHARS).1

def dropCarriageReturn (line : List Char) : List Char :=
  if line.getLast? = some '\r' then line.dropLast else line

structure BotLogsWindow where
  window : List (List Char × ℕ)
  totalChars : ℕ
  truncated : Bool
  deriving DecidableEq, Repr

/-- The lines that no longer fit leave the window at its front. -/
def popOverLimits : List (List Char × ℕ) → ℕ → Bool → BotLogsWindow
  | [], totalChars, truncated => ⟨[], totalChars, truncated⟩
  | line :: rest, totalChars, truncated =>
      if OFFICIAL_BOT_LOG_MAX_LINES < (line :: rest).length ∨
          OFFICIAL_BOT_LOG_MAX_CHARS < totalChars then
        popOverLimits rest (totalChars - line.2) true
      else ⟨line :: rest, totalChars, truncated⟩

def pushRawLine (w : BotLogsWindow) (rawLine : List Char) : BotLogsWindow :=
  let r := truncateLineTail rawLine OFFICIAL_BOT_LOG_MAX_CHARS
  popOverLimits (w.window ++ [(r.1, r.2.1)]) (saturatingAdd w.totalChars r.2.1)
    (w.truncated || r.2.2)

/-- `BufReader::lines` up to the end of the file. A last line without a
line feed counts, and one that is not UTF-8 is an error. -/
def readLines (content : List UInt8) : Option (List (List Char)) := do
  let r := Lines.complete 10 content
  let lines ← r.1.mapM fun line => (Utf8.fromUtf8 line).map dropCarriageReturn
  if r.2 = [] then some lines
  else
    let last ← Utf8.fromUtf8 r.2
    some (lines ++ [last])

/-- The size is read before the content. -/
def readTailBotLogsSnapshot (fileSizeBytes : ℕ) (content : List UInt8) : Option BotLogsSnapshot :=
  (readLines content).map fun rawLines =>
    let w := rawLines.foldl pushRawLine ⟨[], 0, false⟩
    ⟨w.window.map Prod.fst, w.truncated, fileSizeBytes⟩

/-- The lines read, the new offset and the new remainder. An offset is a
position in a file, which the saturation of its sum never reaches. -/
def readAppendedBotLogLines (fileSizeBytes : ℕ) (content : List UInt8) (offset : ℕ)
    (pendingTail : List Char) : List (List Char) × ℕ × List Char :=
  let start := if fileSizeBytes < offset then (0, []) else (offset, pendingTail)
  let bytes := content.drop start.1
  if bytes = [] then ([], start.1, start.2)
  else
    let r := Lines.complete '\n' (start.2 ++ Utf8.fromUtf8Lossy bytes)
    (r.1.map fun line => cutLine (dropCarriageReturn line), start.1 + bytes.length, r.2)

/-! ## The stream and the writer -/

/-- Where the stream stands between two accesses to the file. -/
inductive LogReader where
  | opened
  | sized (fileSizeBytes : ℕ)
  | refused (status : Status)
  | streaming (offset : ℕ) (pendingTail : List Char)
  | polling (fileSizeBytes offset : ℕ) (pendingTail : List Char)
  deriving DecidableEq, Repr

/-- The file, the reader, and what the client was sent. -/
structure LogStream where
  content : List UInt8
  reader : LogReader
  snapshot : Option BotLogsSnapshot
  streamed : List (List Char)
  deriving DecidableEq

/-- The bot appends bytes, or the reader makes its next access. -/
inductive LogEvent where
  | append (bytes : List UInt8)
  | read
  deriving DecidableEq, Repr

def LogStream.opened (content : List UInt8) : LogStream := ⟨content, .opened, none, []⟩

/-- A read to the end of the file returns what the file holds when its end
is met; the file only grows, so earlier parts of the read agree with it. -/
def LogStream.read (s : LogStream) : LogStream :=
  match s.reader with
  | .opened => { s with reader := .sized s.content.length }
  | .sized fileSizeBytes =>
      match readTailBotLogsSnapshot fileSizeBytes s.content with
      | none =>
          { s with reader := .refused ⟨.internal, "failed to read official team bot logs"⟩ }
      | some snapshot =>
          { s with
            reader := .streaming snapshot.fileSizeBytes []
            snapshot := some snapshot }
  | .refused _ => s
  | .streaming offset pendingTail =>
      { s with reader := .polling s.content.length offset pendingTail }
  | .polling fileSizeBytes offset pendingTail =>
      let r := readAppendedBotLogLines fileSizeBytes s.content offset pendingTail
      { s with
        reader := .streaming r.2.1 r.2.2
        streamed := s.streamed ++ r.1 }

def LogStream.step (s : LogStream) : LogEvent → LogStream
  | .append bytes => { s with content := s.content ++ bytes }
  | .read => s.read

/-! ## What is to be delivered -/

/-- The lines of a file: those a line feed ends. -/
def logLines (content : List UInt8) : List (List Char) :=
  (Lines.complete 10 content).1.map fun line => dropCarriageReturn (Utf8.fromUtf8Lossy line)

/-- The snapshot and the lines streamed after it are the lines of the file,
or the last of them when the snapshot says so, each cut to its last
characters if it is too long. -/
structure DeliversLines (snapshot : BotLogsSnapshot) (streamed lines : List (List Char)) :
    Prop where
  suffix : (snapshot.lines ++ streamed).IsSuffix (lines.map cutLine)
  whole : snapshot.truncated = false → snapshot.lines ++ streamed = lines.map cutLine

def LogStream.Delivered (s : LogStream) : Prop :=
  ∃ snapshot, s.snapshot = some snapshot ∧
    DeliversLines snapshot s.streamed (logLines s.content)

/-- After the snapshot and after each poll the file has been delivered, as
far as it was read. -/
def DeliversLog (s : LogStream) : LogEvent → Prop
  | .append _ => True
  | .read =>
      match s.reader with
      | .sized _ => s.read.Delivered
      | .polling .. => s.read.Delivered
      | _ => True

/-- The snapshot is read when the file has the size read before, and ends
with a line feed; a poll reads up to the end of a character. -/
def ReadsWholeLines (s : LogStream) : LogEvent → Prop
  | .append _ => True
  | .read =>
      match s.reader with
      | .sized fileSizeBytes => s.content.length = fileSizeBytes ∧
          (∀ b ∈ s.content.getLast?, b = 10) ∧ Utf8.IsText s.content
      | .polling .. => Utf8.IsText s.content
      | _ => True

instance : (s : LogStream) → (event : LogEvent) → Decidable (ReadsWholeLines s event)
  | _, .append _ => .isTrue trivial
  | ⟨_, .opened, _, _⟩, .read => .isTrue trivial
  | ⟨_, .sized _, _, _⟩, .read => inferInstanceAs (Decidable (_ ∧ (∀ b ∈ _, b = 10) ∧ _))
  | ⟨_, .refused _, _, _⟩, .read => .isTrue trivial
  | ⟨_, .streaming .., _, _⟩, .read => .isTrue trivial
  | ⟨_, .polling .., _, _⟩, .read => inferInstanceAs (Decidable (Utf8.IsText _))

/-! ## The window of the snapshot -/

theorem cutLine_of_length_le {line : List Char} (h : line.length ≤ OFFICIAL_BOT_LOG_MAX_CHARS) :
    cutLine line = line := by
  simp [cutLine, truncateLineTail, h]

/-- The window keeps its last lines; it was cut short if it lost one. -/
theorem popOverLimits_spec (window : List (List Char × ℕ)) (totalChars : ℕ) (truncated : Bool) :
    let w := popOverLimits window totalChars truncated
    w.window.IsSuffix window ∧
      (w.truncated = false → w.window = window ∧ truncated = false) := by
  induction window generalizing totalChars truncated with
  | nil => exact ⟨List.suffix_rfl, fun h => ⟨rfl, h⟩⟩
  | cons line rest ih =>
      rw [popOverLimits]
      split
      · obtain ⟨hsuffix, hwhole⟩ := ih (totalChars - line.2) true
        refine ⟨hsuffix.trans (List.suffix_cons line rest), ?_⟩
        intro h
        exact absurd (hwhole h).2 (by simp)
      · exact ⟨List.suffix_rfl, fun h => ⟨rfl, h⟩⟩

/-- The window holds the last of the lines pushed, and all of them unless
it says otherwise. -/
structure BotLogsWindow.Holds (w : BotLogsWindow) (lines : List (List Char)) : Prop where
  suffix : (w.window.map Prod.fst).IsSuffix (lines.map cutLine)
  whole : w.truncated = false → w.window.map Prod.fst = lines.map cutLine

theorem BotLogsWindow.Holds.pushRawLine {w : BotLogsWindow} {lines : List (List Char)}
    (h : w.Holds lines) (rawLine : List Char) :
    (pushRawLine w rawLine).Holds (lines ++ [rawLine]) := by
  let r := truncateLineTail rawLine OFFICIAL_BOT_LOG_MAX_CHARS
  obtain ⟨hsuffix, hwhole⟩ := popOverLimits_spec (w.window ++ [(r.1, r.2.1)])
    (saturatingAdd w.totalChars r.2.1) (w.truncated || r.2.2)
  have hpushed : (w.window ++ [(r.1, r.2.1)]).map Prod.fst =
      w.window.map Prod.fst ++ [cutLine rawLine] := by
    simp [r, cutLine]
  have hlines : (lines ++ [rawLine]).map cutLine = lines.map cutLine ++ [cutLine rawLine] := by
    simp
  constructor
  · have hmap := hsuffix.map Prod.fst
    rw [hpushed] at hmap
    rw [hlines]
    exact hmap.trans (List.suffix_append_self_iff.mpr h.suffix)
  · intro htrunc
    obtain ⟨hwindow, hbefore⟩ := hwhole htrunc
    rw [Bool.or_eq_false_iff] at hbefore
    have hkept := congrArg (List.map Prod.fst) hwindow
    rw [hpushed, h.whole hbefore.1] at hkept
    rw [hlines]
    exact hkept

theorem holds_foldl (rawLines : List (List Char)) :
    (rawLines.foldl pushRawLine ⟨[], 0, false⟩).Holds rawLines := by
  induction rawLines using List.reverseRecOn with
  | nil => exact ⟨List.suffix_rfl, fun _ => rfl⟩
  | append_singleton rawLines rawLine ih =>
      rw [List.foldl_append]
      exact ih.pushRawLine rawLine

/-! ## Reading text -/

/-- The lines of a text that a line feed ends. -/
def textLines (text : List Char) : List (List Char) :=
  (Lines.complete '\n' text).1.map dropCarriageReturn

theorem logLines_encode (text : List Char) : logLines (Utf8.encode text) = textLines text := by
  simp only [logLines, textLines, Utf8.complete_encode, List.map_map]
  apply List.map_congr_left
  intro line _
  simp [Utf8.fromUtf8Lossy_encode]

theorem mapM_fromUtf8_encode (lines : List (List Char)) :
    (lines.map Utf8.encode).mapM (fun line => (Utf8.fromUtf8 line).map dropCarriageReturn) =
      some (lines.map dropCarriageReturn) := by
  induction lines with
  | nil => rfl
  | cons line lines ih => simp [Utf8.fromUtf8_encode, ih]

/-- A text that ends with a line feed, read from a file, is its lines. -/
theorem readLines_encode {text : List Char} (h : ∀ b ∈ (Utf8.encode text).getLast?, b = 10) :
    (Lines.complete '\n' text).2 = [] ∧ readLines (Utf8.encode text) = some (textLines text) := by
  have hrest : (Lines.complete '\n' text).2 = [] := by
    have hbytes := Lines.complete_rest_eq_nil h
    rw [Utf8.complete_encode] at hbytes
    exact Utf8.encode_eq_nil hbytes
  refine ⟨hrest, ?_⟩
  simp only [readLines, Utf8.complete_encode, mapM_fromUtf8_encode, hrest, Utf8.encode_nil]
  rfl

theorem readTailBotLogsSnapshot_encode {text : List Char}
    (h : ∀ b ∈ (Utf8.encode text).getLast?, b = 10) (fileSizeBytes : ℕ) :
    ∃ snapshot, readTailBotLogsSnapshot fileSizeBytes (Utf8.encode text) = some snapshot ∧
      snapshot.fileSizeBytes = fileSizeBytes ∧ DeliversLines snapshot [] (textLines text) := by
  have hholds := holds_foldl (textLines text)
  rw [readTailBotLogsSnapshot, (readLines_encode h).2]
  refine ⟨_, rfl, rfl, ?_, ?_⟩
  · rw [List.append_nil]
    exact hholds.suffix
  · rw [List.append_nil]
    exact hholds.whole

/-- What a poll reads after a text: the lines that the text appended to it
completes, and the new remainder. -/
theorem readAppendedBotLogLines_encode (text appended : List Char) {fileSizeBytes : ℕ}
    (hsize : (Utf8.encode text).length ≤ fileSizeBytes) :
    ∃ lines, readAppendedBotLogLines fileSizeBytes (Utf8.encode (text ++ appended))
        (Utf8.encode text).length (Lines.complete '\n' text).2 =
          (lines.map cutLine, (Utf8.encode (text ++ appended)).length,
            (Lines.complete '\n' (text ++ appended)).2) ∧
      textLines (text ++ appended) = textLines text ++ lines := by
  have hdrop : (Utf8.encode (text ++ appended)).drop (Utf8.encode text).length =
      Utf8.encode appended := by
    rw [Utf8.encode_append, List.drop_left]
  have hstart : ¬ fileSizeBytes < (Utf8.encode text).length := by omega
  simp only [readAppendedBotLogLines, if_neg hstart, hdrop]
  split
  next hempty =>
    have happended := Utf8.encode_eq_nil hempty
    exact ⟨[], by simp [happended], by simp [happended]⟩
  next =>
    refine ⟨((Lines.complete '\n' ((Lines.complete '\n' text).2 ++ appended)).1.map
      dropCarriageReturn), ?_, ?_⟩
    · rw [Utf8.fromUtf8Lossy_encode, Lines.complete_append text appended, Utf8.encode_append,
        List.length_append, List.map_map]
      rfl
    · rw [textLines, Lines.complete_append, List.map_append]
      rfl

/-! ## Runs -/

/-- The text that the reader has read is a beginning of the file; its
lines were sent, and what follows them is remembered. -/
def LogStream.CaughtUp (s : LogStream) (offset : ℕ) (pendingTail : List Char) : Prop :=
  ∃ text snapshot, (Utf8.encode text).IsPrefix s.content ∧ s.snapshot = some snapshot ∧
    offset = (Utf8.encode text).length ∧ pendingTail = (Lines.complete '\n' text).2 ∧
    DeliversLines snapshot s.streamed (textLines text)

def LogStream.Invariant (s : LogStream) : Prop :=
  match s.reader with
  | .opened => s.streamed = []
  | .sized _ => s.streamed = []
  | .refused _ => True
  | .streaming offset pendingTail => s.CaughtUp offset pendingTail
  | .polling fileSizeBytes offset pendingTail =>
      offset ≤ fileSizeBytes ∧ s.CaughtUp offset pendingTail

theorem LogStream.CaughtUp.append {s : LogStream} {offset : ℕ} {pendingTail : List Char}
    (h : s.CaughtUp offset pendingTail) (bytes : List UInt8) :
    LogStream.CaughtUp { s with content := s.content ++ bytes } offset pendingTail := by
  obtain ⟨text, snapshot, hprefix, hrest⟩ := h
  exact ⟨text, snapshot, hprefix.trans (List.prefix_append s.content bytes), hrest⟩

theorem DeliversLines.append {snapshot : BotLogsSnapshot} {streamed lines : List (List Char)}
    (h : DeliversLines snapshot streamed lines) (more : List (List Char)) :
    DeliversLines snapshot (streamed ++ more.map cutLine) (lines ++ more) := by
  constructor
  · rw [← List.append_assoc, List.map_append]
    exact List.suffix_append_self_iff.mpr h.suffix
  · intro htrunc
    rw [← List.append_assoc, List.map_append, h.whole htrunc]

/-- A poll that reads up to the end of a character catches up with the
file. -/
theorem LogStream.CaughtUp.poll {s : LogStream} {fileSizeBytes offset : ℕ}
    {pendingTail : List Char} (h : s.CaughtUp offset pendingTail) (hsize : offset ≤ fileSizeBytes)
    (hreader : s.reader = .polling fileSizeBytes offset pendingTail)
    (htext : Utf8.IsText s.content) : s.read.Invariant ∧ s.read.Delivered := by
  obtain ⟨before, snapshot, ⟨bytes, hbytes⟩, hsnapshot, hoffset, htail, hdelivers⟩ := h
  obtain ⟨whole, hwhole⟩ := htext
  obtain ⟨appended, rfl, -⟩ := Utf8.exists_of_encode_append_eq (hbytes.trans hwhole)
  rw [hoffset] at hsize
  obtain ⟨lines, hread, hlines⟩ := readAppendedBotLogLines_encode before appended hsize
  rw [← hwhole, ← hoffset, ← htail] at hread
  have hstep : s.read = { s with
      reader := .streaming s.content.length (Lines.complete '\n' (before ++ appended)).2
      streamed := s.streamed ++ lines.map cutLine } := by
    simp only [LogStream.read, hreader, hread]
  have hall := hdelivers.append lines
  rw [← hlines] at hall
  rw [hstep]
  constructor
  · exact ⟨before ++ appended, snapshot, hwhole ▸ List.prefix_rfl, hsnapshot, by rw [hwhole], rfl,
      hall⟩
  · refine ⟨snapshot, hsnapshot, ?_⟩
    dsimp only
    rw [hwhole, logLines_encode]
    exact hall

/-- A snapshot of whole lines, of a file of the size read before. -/
theorem LogStream.snapshot_of_wholeLines {s : LogStream} {fileSizeBytes : ℕ}
    (hreader : s.reader = .sized fileSizeBytes) (hstreamed : s.streamed = [])
    (hsize : s.content.length = fileSizeBytes) (hlast : ∀ b ∈ s.content.getLast?, b = 10)
    (htext : Utf8.IsText s.content) : s.read.Invariant ∧ s.read.Delivered := by
  obtain ⟨text, htext⟩ := htext
  rw [htext] at hlast hsize
  obtain ⟨snapshot, hread, hfile, hdelivers⟩ := readTailBotLogsSnapshot_encode hlast fileSizeBytes
  have hstep : s.read = { s with
      reader := .streaming fileSizeBytes []
      snapshot := some snapshot } := by
    simp only [LogStream.read, hreader, htext, hread, hfile]
  rw [← hstreamed] at hdelivers
  rw [hstep]
  constructor
  · exact ⟨text, snapshot, htext ▸ List.prefix_rfl, rfl, hsize.symm, (readLines_encode hlast).1.symm,
      hdelivers⟩
  · refine ⟨snapshot, rfl, ?_⟩
    dsimp only
    rw [htext, logLines_encode]
    exact hdelivers

theorem LogStream.invariant_append {s : LogStream} (h : s.Invariant) (bytes : List UInt8) :
    (s.step (.append bytes)).Invariant := by
  unfold LogStream.Invariant at h ⊢
  simp only [LogStream.step]
  split at h
  next hreader => simpa only [hreader] using h
  next hreader => simpa only [hreader] using h
  next => simp only
  next hreader => simpa only [hreader] using h.append bytes
  next hreader => simpa only [hreader] using ⟨h.1, h.2.append bytes⟩

/-- One access of the reader, as the condition asks. -/
theorem LogStream.invariant_read {s : LogStream} (h : s.Invariant)
    (hreads : ReadsWholeLines s .read) : s.read.Invariant ∧ DeliversLog s .read := by
  unfold LogStream.Invariant at h
  simp only [ReadsWholeLines] at hreads
  simp only [DeliversLog]
  cases hreader : s.reader with
  | opened =>
      rw [hreader] at h
      exact ⟨by simpa [LogStream.read, hreader, LogStream.Invariant] using h, trivial⟩
  | sized fileSizeBytes =>
      rw [hreader] at h hreads
      exact snapshot_of_wholeLines hreader h hreads.1 hreads.2.1 hreads.2.2
  | refused status => exact ⟨by simp [LogStream.read, hreader, LogStream.Invariant], trivial⟩
  | streaming offset pendingTail =>
      rw [hreader] at h
      refine ⟨?_, trivial⟩
      obtain ⟨text, snapshot, hprefix, hsnapshot, hoffset, hrest⟩ := h
      have hsize : offset ≤ s.content.length := hoffset ▸ hprefix.length_le
      simp only [LogStream.read, hreader, LogStream.Invariant]
      exact ⟨hsize, text, snapshot, hprefix, hsnapshot, hoffset, hrest⟩
  | polling fileSizeBytes offset pendingTail =>
      rw [hreader] at h hreads
      exact h.2.poll h.1 hreader hreads

/-- Over every growth of the log and every order of writes and reads, the
client is sent the lines of the file, if the snapshot and the polls each
read whole lines and whole characters. A line within the limit is sent as
it is. -/
theorem bot_log_delivered (content : List UInt8) (events : List LogEvent)
    (h : Along ReadsWholeLines LogStream.step (.opened content) events) :
    Along DeliversLog LogStream.step (.opened content) events ∧
      ∀ line : List Char, line.length ≤ OFFICIAL_BOT_LOG_MAX_CHARS → cutLine line = line := by
  refine ⟨?_, fun line => cutLine_of_length_le⟩
  apply h.of_invariant (I := LogStream.Invariant)
  · intro s event hs hreads
    cases event with
    | append bytes => exact LogStream.invariant_append hs bytes
    | read => exact (LogStream.invariant_read hs hreads).1
  · intro s event hs hreads
    cases event with
    | append bytes => trivial
    | read => exact (LogStream.invariant_read hs hreads).2
  · rfl

def bytesOf (text : String) : List UInt8 := Utf8.encode text.toList

/-- The snapshot is taken between two lines; a later line comes in two
parts, the second after a poll. -/
theorem calm_log_delivered :
    let events := [.read, .read, .append (bytesOf "b\r\nc"), .read, .read,
      .append (bytesOf "d\n"), .read, .read]
    Along DeliversLog LogStream.step (.opened (bytesOf "a\n")) events ∧
      ∀ line : List Char, line.length ≤ OFFICIAL_BOT_LOG_MAX_CHARS → cutLine line = line :=
  bot_log_delivered (bytesOf "a\n") _ (by decide +kernel)

/-- The snapshot is taken in the middle of a line, which is then completed
before the first poll. -/
def midLineRun : List LogEvent := [.read, .read, .append (bytesOf "c\n"), .read]

/-- The beginning of the line was sent with the snapshot, and its end is
streamed as a line of its own. -/
theorem line_split_by_snapshot :
    let before := midLineRun.foldl LogStream.step (.opened (bytesOf "ab"))
    before.read.snapshot = some ⟨["ab".toList], false, 2⟩ ∧
      before.read.streamed = ["c".toList] ∧
      logLines before.read.content = ["abc".toList] ∧
      ¬ Along DeliversLog LogStream.step (.opened (bytesOf "ab")) (midLineRun ++ [.read]) := by
  intro before
  have hsnapshot : before.read.snapshot = some ⟨["ab".toList], false, 2⟩ := by decide +kernel
  have hstreamed : before.read.streamed = ["c".toList] := by decide +kernel
  have hlines : logLines before.read.content = ["abc".toList] := by decide +kernel
  refine ⟨hsnapshot, hstreamed, hlines, ?_⟩
  intro hrun
  have hreader : before.reader = .polling 4 2 [] := by decide +kernel
  have hread : DeliversLog before .read := (along_append.mp hrun).2.1
  simp only [DeliversLog, hreader] at hread
  obtain ⟨snapshot, hsome, hdelivers⟩ := hread
  rw [hsnapshot] at hsome
  cases hsome
  have hwhole := hdelivers.whole rfl
  rw [hstreamed, hlines] at hwhole
  simp at hwhole

end HackArena.Services
