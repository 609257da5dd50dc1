import Mathlib.Data.List.Basic

/-!
# Lines of a UTF-8 byte stream

A stream is cut into lines at a separator, and decoded from UTF-8. Cutting
commutes with appending, once what follows the last separator is carried
over to the next part; it commutes with decoding as well, since the byte
of the separator occurs in no other character.
-/

namespace Lines

variable {α β : Type*} [DecidableEq α] [DecidableEq β]

/-- The lines that a separator ends, without it, and what follows the last
separator. -/
def complete (sep : α) : List α → List (List α) × List α
  | [] => ([], [])
  | x :: xs =>
      let r := complete sep xs
      if x = sep then ([] :: r.1, r.2)
      else
        match r.1 with
        | [] => ([], x :: r.2)
        | line :: lines => ((x :: line) :: lines, r.2)

variable {sep : α}

theorem complete_append (xs ys : List α) :
    complete sep (xs ++ ys) =
      ((complete sep xs).1 ++ (complete sep ((complete sep xs).2 ++ ys)).1,
        (complete sep ((complete sep xs).2 ++ ys)).2) := by
  induction xs with
  | nil => rfl
  | cons x xs ih =>
      rw [List.cons_append, complete, complete, ih]
      by_cases hx : x = sep
      · simp [hx]
      · cases hlines : (complete sep xs).1 with
        | nil => simp [hx, complete]
        | cons line lines => simp [hx]

/-- Text without a separator extends the first line, if there is one. -/
theorem complete_append_of_notMem {xs : List α} (h : sep ∉ xs) (ys : List α) :
    complete sep (xs ++ ys) =
      match (complete sep ys).1 with
      | [] => ([], xs ++ (complete sep ys).2)
      | line :: lines => ((xs ++ line) :: lines, (complete sep ys).2) := by
  induction xs with
  | nil => cases hlines : (complete sep ys).1 <;> simp [Prod.ext_iff, hlines]
  | cons x xs ih =>
      have hx : x ≠ sep := fun heq => h (heq ▸ List.mem_cons_self)
      rw [List.cons_append, complete, ih fun hmem => h (List.mem_cons_of_mem x hmem), if_neg hx]
      cases (complete sep ys).1 with
      | nil => rfl
      | cons line lines => rfl

theorem sep_notMem_rest (xs : List α) : sep ∉ (complete sep xs).2 := by
  induction xs with
  | nil => simp [complete]
  | cons x xs ih =>
      rw [complete]
      by_cases hx : x = sep
      · simpa [hx] using ih
      · cases hlines : (complete sep xs).1 with
        | nil => simp [hx, Ne.symm hx, ih]
        | cons line lines => simpa [hx] using ih

theorem mem_of_mem_complete {xs line : List α} (hline : line ∈ (complete sep xs).1) {x : α}
    (hx : x ∈ line) : x ∈ xs := by
  induction xs generalizing line with
  | nil => cases hline
  | cons y xs ih =>
      rw [complete] at hline
      by_cases hy : y = sep
      · rw [if_pos hy] at hline
        rcases List.mem_cons.mp hline with rfl | hline
        · cases hx
        · exact List.mem_cons_of_mem y (ih hline hx)
      · rw [if_neg hy] at hline
        cases hlines : (complete sep xs).1 with
        | nil => rw [hlines] at hline; cases hline
        | cons first lines =>
            rw [hlines] at hline ih
            rcases List.mem_cons.mp hline with rfl | hline
            · rcases List.mem_cons.mp hx with rfl | hx
              · exact List.mem_cons_self
              · exact List.mem_cons_of_mem y (ih List.mem_cons_self hx)
            · exact List.mem_cons_of_mem y (ih (List.mem_cons_of_mem first hline) hx)

/-- Text that ends with a separator leaves nothing over. -/
theorem complete_rest_eq_nil {xs : List α} (h : ∀ x ∈ xs.getLast?, x = sep) :
    (complete sep xs).2 = [] := by
  rcases List.eq_nil_or_concat xs with rfl | ⟨init, last, rfl⟩
  · rfl
  · have hlast : last = sep := h last (by simp)
    rw [List.concat_eq_append, complete_append, complete_append_of_notMem (sep_notMem_rest init),
      hlast]
    simp [complete]

/-- Cutting before or after a translation in which only the separator
yields the other separator. -/
theorem complete_flatMap {f : α → List β} {sep' : β} (hsep : f sep = [sep'])
    (hother : ∀ x, x ≠ sep → sep' ∉ f x) (xs : List α) :
    complete sep' (xs.flatMap f) =
      ((complete sep xs).1.map (·.flatMap f), (complete sep xs).2.flatMap f) := by
  induction xs with
  | nil => rfl
  | cons x xs ih =>
      rw [List.flatMap_cons]
      by_cases hx : x = sep
      · rw [hx, hsep, List.singleton_append, complete, complete, ih]
        simp
      · rw [complete_append_of_notMem (hother x hx), ih, complete, if_neg hx]
        cases (complete sep xs).1 with
        | nil => rfl
        | cons line lines => rfl

/-- All the parts between the separators, as `str::split` yields them. -/
def split (sep : α) (xs : List α) : List (List α) := (complete sep xs).1 ++ [(complete sep xs).2]

theorem split_of_notMem {xs : List α} (h : sep ∉ xs) : split sep xs = [xs] := by
  have hcomplete := complete_append_of_notMem h []
  rw [List.append_nil] at hcomplete
  rw [split, hcomplete]
  simp [complete]

theorem split_cons_sep (xs : List α) : split sep (sep :: xs) = [] :: split sep xs := by
  simp [split, complete]

end Lines

namespace Utf8

def encode (text : List Char) : List UInt8 := text.flatMap String.utf8EncodeChar

def isContinuation (b : UInt8) : Bool := 0x80 ≤ b && b ≤ 0xBF

/-- The second bytes that may follow a first byte of a sequence of three
or four. -/
def mayFollow (first second : UInt8) : Bool :=
  if first = 0xE0 then 0xA0 ≤ second && second ≤ 0xBF
  else if first = 0xED then 0x80 ≤ second && second ≤ 0x9F
  else if first = 0xF0 then 0x90 ≤ second && second ≤ 0xBF
  else if first = 0xF4 then 0x80 ≤ second && second ≤ 0x8F
  else isContinuation second

/-- The bytes after the first that belong to the same ill-formed part: as
many as could have begun a character. -/
def illFormedTail (first : UInt8) : List UInt8 → ℕ
  | [] => 0
  | second :: rest =>
      if 0xE0 ≤ first ∧ first ≤ 0xEF then if mayFollow first second then 1 else 0
      else if 0xF0 ≤ first ∧ first ≤ 0xF4 then
        if mayFollow first second then if rest.head?.any isContinuation then 2 else 1 else 0
      else 0

/-- The characters of a byte sequence, with `none` for each ill-formed
part. -/
def decode : List UInt8 → List (Option Char)
  | [] => []
  | first :: rest =>
      match (first :: rest).toByteArray.utf8DecodeChar? 0 with
      | some c => some c :: decode (rest.drop (c.utf8Size - 1))
      | none => none :: decode (rest.drop (illFormedTail first rest))
termination_by bytes => bytes.length
decreasing_by
  · simp only [List.length_drop, List.length_cons]
    omega
  · simp only [List.length_drop, List.length_cons]
    omega

/-- `String::from_utf8_lossy`. -/
def fromUtf8Lossy (bytes : List UInt8) : List Char := (decode bytes).map (·.getD '\uFFFD')

/-- `String::from_utf8`. -/
def fromUtf8 (bytes : List UInt8) : Option (List Char) := (decode bytes).mapM id

theorem decode_encodeChar_append (c : Char) (rest : List UInt8) :
    decode (String.utf8EncodeChar c ++ rest) = some c :: decode rest := by
  have hlength := String.length_utf8EncodeChar c
  have hpos := Char.utf8Size_pos c
  have hchar : (String.utf8EncodeChar c ++ rest).toByteArray.utf8DecodeChar? 0 = some c := by
    rw [List.toByteArray_append]
    exact ByteArray.utf8DecodeChar?_utf8EncodeChar_append
  cases hbytes : String.utf8EncodeChar c with
  | nil =>
      rw [hbytes, List.length_nil] at hlength
      omega
  | cons first tail =>
      rw [hbytes, List.length_cons] at hlength
      rw [hbytes, List.cons_append] at hchar
      rw [List.cons_append, decode, hchar]
      have htail : c.utf8Size - 1 = tail.length := by omega
      simp only [htail, List.drop_left]

theorem decode_encode_append (text : List Char) (rest : List UInt8) :
    decode (encode text ++ rest) = text.map some ++ decode rest := by
  induction text with
  | nil => rfl
  | cons c text ih =>
      rw [encode, List.flatMap_cons, List.append_assoc, decode_encodeChar_append, ← encode, ih]
      rfl

theorem decode_encode (text : List Char) : decode (encode text) = text.map some := by
  have h := decode_encode_append text []
  simpa [decode] using h

theorem fromUtf8Lossy_encode (text : List Char) : fromUtf8Lossy (encode text) = text := by
  rw [fromUtf8Lossy, decode_encode, List.map_map]
  exact List.map_id text

theorem fromUtf8_encode (text : List Char) : fromUtf8 (encode text) = some text := by
  rw [fromUtf8, decode_encode]
  induction text with
  | nil => rfl
  | cons c text ih => simp [ih]

@[simp] theorem encode_nil : encode [] = [] := rfl

theorem encode_eq_nil {text : List Char} (h : encode text = []) : text = [] := by
  have hdecode := decode_encode text
  rw [h, decode] at hdecode
  exact List.map_eq_nil_iff.mp hdecode.symm

theorem encode_append (first second : List Char) :
    encode (first ++ second) = encode first ++ encode second := List.flatMap_append

/-- What follows the encoding of a text, within the encoding of a longer
one, encodes the rest of the longer one. -/
theorem exists_of_encode_append_eq {first whole : List Char} {bytes : List UInt8}
    (h : encode first ++ bytes = encode whole) :
    ∃ second, whole = first ++ second ∧ bytes = encode second := by
  have hdecode : first.map some ++ decode bytes = whole.map some := by
    rw [← decode_encode_append, h, decode_encode]
  obtain ⟨before, second, rfl, hbefore, -⟩ := List.map_eq_append_iff.mp hdecode.symm
  have hfirst : before = first :=
    List.map_injective_iff.mpr (fun _ _ => Option.some.inj) hbefore
  subst hfirst
  refine ⟨second, rfl, ?_⟩
  rw [encode_append] at h
  exact List.append_cancel_left h

theorem ofNat_ne_ofNat {m n : ℕ} (hm : m < 256) (h : n % 256 ≠ m) :
    UInt8.ofNat m ≠ UInt8.ofNat n := by
  intro heq
  have hnat := congrArg UInt8.toNat heq
  simp only [UInt8.toNat_ofNat', Nat.reducePow] at hnat
  omega

/-- The bytes are a text, up to the end of a character. -/
def IsText (bytes : List UInt8) : Prop := ∃ text, bytes = encode text

theorem isText_iff {bytes : List UInt8} :
    encode (fromUtf8Lossy bytes) = bytes ↔ IsText bytes := by
  constructor
  · intro h
    exact ⟨fromUtf8Lossy bytes, h.symm⟩
  · rintro ⟨text, rfl⟩
    rw [fromUtf8Lossy_encode]

instance (bytes : List UInt8) : Decidable (IsText bytes) := decidable_of_iff _ isText_iff

/-- The byte of an ASCII character encodes no other character. -/
theorem ascii_notMem_encodeChar {c : Char} {n : ℕ} (hn : n < 128) (h : c.toNat ≠ n) :
    UInt8.ofNat n ∉ String.utf8EncodeChar c := by
  have hval : c.val.toNat ≠ n := h
  simp only [String.utf8EncodeChar]
  split
  · simp only [List.mem_singleton]
    exact ofNat_ne_ofNat (by omega) (by omega)
  · -- in longer sequences every byte is at least 128
    split
    · simp only [List.mem_cons, List.not_mem_nil, or_false, not_or]
      exact ⟨ofNat_ne_ofNat (by omega) (by omega), ofNat_ne_ofNat (by omega) (by omega)⟩
    · split
      · simp only [List.mem_cons, List.not_mem_nil, or_false, not_or]
        exact ⟨ofNat_ne_ofNat (by omega) (by omega), ofNat_ne_ofNat (by omega) (by omega),
          ofNat_ne_ofNat (by omega) (by omega)⟩
      · simp only [List.mem_cons, List.not_mem_nil, or_false, not_or]
        exact ⟨ofNat_ne_ofNat (by omega) (by omega), ofNat_ne_ofNat (by omega) (by omega),
          ofNat_ne_ofNat (by omega) (by omega), ofNat_ne_ofNat (by omega) (by omega)⟩

theorem lineFeed_notMem_encodeChar {c : Char} (h : c ≠ '\n') :
    10 ∉ String.utf8EncodeChar c :=
  ascii_notMem_encodeChar (by decide) fun h10 => h (Char.ext (UInt32.toNat_inj.mp h10))

theorem ascii_notMem_encode {text : List Char} {n : ℕ} (hn : n < 128)
    (h : ∀ c ∈ text, c.toNat ≠ n) : UInt8.ofNat n ∉ encode text := by
  intro hmem
  obtain ⟨c, hc, hbyte⟩ := List.mem_flatMap.mp hmem
  exact ascii_notMem_encodeChar hn (h c hc) hbyte

theorem complete_encode (text : List Char) :
    Lines.complete 10 (encode text) =
      ((Lines.complete '\n' text).1.map encode, encode (Lines.complete '\n' text).2) :=
  Lines.complete_flatMap (f := String.utf8EncodeChar) rfl (fun _ => lineFeed_notMem_encodeChar)
    text

end Utf8
