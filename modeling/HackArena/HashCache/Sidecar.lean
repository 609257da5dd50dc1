import HackArena.Lib.ByteLines
import HackArena.Lib.Text

/-!
# The sidecar of a hash

The cache keeps the hash of a file in a sidecar, together with the size
and the modification second for which it was computed. The layout is
`[32B raw hash][\n][size][\n][mtime_secs]`, with decimal numbers. The
writer puts a line feed after the hash; the reader takes the size from
the first line of what follows the 32 bytes.
-/

namespace HackArena.HashCache

def SHA256_LEN : ℕ := 32

/-- A `SystemTime`, in nanoseconds since the Unix epoch. -/
abbrev SystemTime := ℤ

def mtimeSecs (t : SystemTime) : Option ℕ :=
  if 0 ≤ t then some (t.toNat / 1000000000) else none

def sameMtime (a b : SystemTime) : Bool :=
  match mtimeSecs a, mtimeSecs b with
  | some x, some y => x == y
  | _, _ => false

theorem sameMtime_iff {a b : SystemTime} :
    sameMtime a b ↔ ∃ secs, mtimeSecs a = some secs ∧ mtimeSecs b = some secs := by
  cases ha : mtimeSecs a with
  | none => simp [sameMtime, ha]
  | some x =>
      cases hb : mtimeSecs b with
      | none => simp [sameMtime, ha, hb]
      | some y => simpa [sameMtime, ha, hb] using eq_comm

/-- A SHA-256 digest. -/
abbrev Digest := {bytes : List UInt8 // bytes.length = SHA256_LEN}

/-! ## The writer -/

def decimal (n : ℕ) : List UInt8 := Utf8.encode (Nat.toDigits 10 n)

/-- The byte strings that `write_sidecar` writes, one after the other. -/
def sidecarParts (mtime : SystemTime) (size : ℕ) (hash : List UInt8) : List (List UInt8) :=
  [hash, [10], decimal size, [10], decimal ((mtimeSecs mtime).getD 0)]

def sidecarBytes (mtime : SystemTime) (size : ℕ) (hash : List UInt8) : List UInt8 :=
  (sidecarParts mtime size hash).flatten

/-! ## The reader -/

/-- The number in a line. -/
def sidecarNumber (line : List Char) : Option ℕ :=
  if line = [] then none else Text.parseU64 line

/-- What `try_read_sidecar` makes of the bytes it has read. -/
def parseSidecar (bytes : List UInt8) (mtimeNow : SystemTime) (sizeNow : ℕ) :
    Option (List UInt8) :=
  if bytes.length < SHA256_LEN then none
  else
    let hash := bytes.take SHA256_LEN
    let text := Utf8.fromUtf8Lossy (bytes.drop SHA256_LEN)
    let lines := (Lines.split '\n' text).map Text.trimChars
    let sizeOk := (lines[0]?.bind sidecarNumber).any fun sz => sz == sizeNow
    let mtimeOk := (lines[1]?.bind sidecarNumber).any fun secs =>
      (mtimeSecs mtimeNow).any fun nowSecs => nowSecs == secs
    if sizeOk && mtimeOk then some hash else none

variable {hash : List UInt8}

/-- The first line is empty if a line feed follows the hash. -/
theorem parseSidecar_lineFeed (hhash : hash.length = SHA256_LEN) (rest : List UInt8)
    (now : SystemTime) (size : ℕ) : parseSidecar (hash ++ 10 :: rest) now size = none := by
  have htext : Utf8.fromUtf8Lossy (10 :: rest) = '\n' :: Utf8.fromUtf8Lossy rest := by
    have hdecode := Utf8.decode_encodeChar_append '\n' rest
    have hbyte : String.utf8EncodeChar '\n' = [10] := by decide
    rw [hbyte, List.singleton_append] at hdecode
    rw [Utf8.fromUtf8Lossy, hdecode]
    rfl
  have hdrop : (hash ++ 10 :: rest).drop SHA256_LEN = 10 :: rest := by
    rw [← hhash, List.drop_left]
  have hempty : sidecarNumber (Text.trimChars []) = none := rfl
  simp [parseSidecar, hdrop, htext, Lines.split_cons_sep, hempty]

theorem parseSidecar_sidecarBytes (hhash : hash.length = SHA256_LEN) (mtime now : SystemTime)
    (size sizeNow : ℕ) : parseSidecar (sidecarBytes mtime size hash) now sizeNow = none :=
  parseSidecar_lineFeed hhash _ now sizeNow

/-! ## The round trip -/

/-- A sidecar gives the hash back for the same size and second, and is
rejected for any others. -/
structure RoundTrips (hash : Digest) (mtime : SystemTime) (size : ℕ) : Prop where
  accepted : ∀ now, mtimeSecs now = mtimeSecs mtime →
    parseSidecar (sidecarBytes mtime size hash) now size = some hash
  rejected : ∀ now sizeNow, sizeNow ≠ size ∨ mtimeSecs now ≠ mtimeSecs mtime →
    parseSidecar (sidecarBytes mtime size hash) now sizeNow = none

/-- No sidecar that the writer produces is accepted. -/
theorem not_roundTrips (hash : Digest) (mtime : SystemTime) (size : ℕ) :
    ¬ RoundTrips hash mtime size := by
  intro h
  have haccepted := h.accepted mtime rfl
  rw [parseSidecar_sidecarBytes hash.2] at haccepted
  cases haccepted

/-- The sidecar of a file of one byte, modified at the epoch. -/
theorem not_roundTrips_epoch : ¬ RoundTrips ⟨List.replicate 32 7, rfl⟩ 0 1 := by
  intro h
  have haccepted := h.accepted 0 rfl
  have hlength : (List.replicate 32 (7 : UInt8)).length = SHA256_LEN := rfl
  have hnone := parseSidecar_sidecarBytes hlength 0 0 1 1
  exact Option.some_ne_none _ (haccepted.symm.trans hnone)

end HackArena.HashCache
