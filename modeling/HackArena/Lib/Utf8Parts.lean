import HackArena.Lib.ByteLines

/-!
# Decoding a byte stream in chunks

A byte stream that arrives in chunks can be decoded as a whole or chunk by
chunk. The parts of the two decodings, characters and ill-formed sequences,
are the same up to those that a chunk boundary cuts: such a part becomes at
least two ill-formed sequences. What a reader of the last characters sees of
this is decided exactly.
-/

namespace Utf8

/-! ## Parts -/

/-- The character that a byte and those after it begin with. -/
def firstChar? (first : UInt8) (rest : List UInt8) : Option Char :=
  (first :: rest).toByteArray.utf8DecodeChar? 0

/-- The bytes after the first that belong to the same part. -/
def tailSize (first : UInt8) (rest : List UInt8) : ℕ :=
  match firstChar? first rest with
  | some c => c.utf8Size - 1
  | none => illFormedTail first rest

theorem tailSize_of_some {first : UInt8} {rest : List UInt8} {c : Char}
    (h : firstChar? first rest = some c) : tailSize first rest = c.utf8Size - 1 := by
  rw [tailSize, h]

theorem tailSize_of_none {first : UInt8} {rest : List UInt8} (h : firstChar? first rest = none) :
    tailSize first rest = illFormedTail first rest := by
  rw [tailSize, h]

@[simp] theorem decode_nil : decode [] = [] := by
  rw [decode]

@[simp] theorem fromUtf8Lossy_nil : fromUtf8Lossy [] = [] := by
  rw [fromUtf8Lossy, decode_nil, List.map_nil]

theorem decode_cons (first : UInt8) (rest : List UInt8) :
    decode (first :: rest) =
      firstChar? first rest :: decode (rest.drop (tailSize first rest)) := by
  rw [decode]
  cases hchar : firstChar? first rest with
  | none =>
      rw [firstChar?] at hchar
      rw [tailSize_of_none hchar]
      simp only [hchar]
  | some c =>
      rw [firstChar?] at hchar
      rw [tailSize_of_some hchar]
      simp only [hchar]

/-- Induction along the parts of a byte sequence. -/
theorem parts_induction {motive : List UInt8 → Prop} (nil : motive [])
    (cons : ∀ first rest, motive (rest.drop (tailSize first rest)) → motive (first :: rest))
    (bytes : List UInt8) : motive bytes := by
  induction hlength : bytes.length using Nat.strongRecOn generalizing bytes with
  | _ n ih =>
      cases bytes with
      | nil => exact nil
      | cons first rest =>
          apply cons
          apply ih (rest.drop (tailSize first rest)).length _ _ rfl
          rw [← hlength, List.length_drop, List.length_cons]
          omega

theorem firstChar?_eq_some_iff {first : UInt8} {rest : List UInt8} {c : Char} :
    firstChar? first rest = some c ↔
      ∃ after, first :: rest = String.utf8EncodeChar c ++ after := by
  constructor
  · intro h
    obtain ⟨after, hafter⟩ := ByteArray.exists_of_utf8DecodeChar?_eq_some h
    refine ⟨after.data.toList, ?_⟩
    have hlist := congrArg (fun bytes : ByteArray => bytes.data.toList) hafter
    simpa using hlist
  · rintro ⟨after, hafter⟩
    rw [firstChar?, hafter, List.toByteArray_append]
    exact ByteArray.utf8DecodeChar?_utf8EncodeChar_append

theorem encodeChar_of_ascii {c : Char} (hc : c.toNat < 128) :
    String.utf8EncodeChar c = [UInt8.ofNat c.toNat] := by
  have hval : c.val.toNat ≤ 127 := Nat.le_of_lt_succ hc
  simp only [String.utf8EncodeChar, hval, if_true]
  rfl

theorem ascii_mem_of_mem_decode {c : Char} (hc : c.toNat < 128) {bytes : List UInt8}
    (h : some c ∈ decode bytes) : UInt8.ofNat c.toNat ∈ bytes := by
  induction bytes using parts_induction with
  | nil =>
      rw [decode_nil] at h
      cases h
  | cons first rest ih =>
      rw [decode_cons] at h
      rcases List.mem_cons.mp h with hfirst | hrest
      · obtain ⟨after, hafter⟩ := firstChar?_eq_some_iff.mp hfirst.symm
        rw [hafter, encodeChar_of_ascii hc]
        exact List.mem_append_left _ (List.mem_singleton_self _)
      · exact List.mem_cons_of_mem _ (List.mem_of_mem_drop (ih hrest))

/-- An ASCII character that is read has not been put in for something
else. -/
theorem ascii_mem_of_mem_fromUtf8Lossy {c : Char} (hc : c.toNat < 128) {bytes : List UInt8}
    (h : c ∈ fromUtf8Lossy bytes) : UInt8.ofNat c.toNat ∈ bytes := by
  obtain ⟨part, hpart, heq⟩ := List.mem_map.mp h
  cases part with
  | none =>
      rw [← heq] at hc
      exact absurd hc (by decide)
  | some d =>
      obtain rfl : d = c := heq
      exact ascii_mem_of_mem_decode hc hpart

/-! ## The bytes of a character -/

theorem toNat_ofNat_of_lt {n : ℕ} (h : n < 256) : (UInt8.ofNat n).toNat = n := by
  rw [UInt8.toNat_ofNat', Nat.mod_eq_of_lt h]

theorem isContinuation_iff {b : UInt8} :
    isContinuation b = true ↔ 0x80 ≤ b.toNat ∧ b.toNat ≤ 0xBF := by
  simp [isContinuation, UInt8.le_iff_toNat_le]

theorem mayFollow_iff {first second : UInt8} :
    mayFollow first second = true ↔
      0x80 ≤ second.toNat ∧ second.toNat ≤ 0xBF ∧
      (first.toNat = 0xE0 → 0xA0 ≤ second.toNat) ∧ (first.toNat = 0xED → second.toNat ≤ 0x9F) ∧
      (first.toNat = 0xF0 → 0x90 ≤ second.toNat) ∧ (first.toNat = 0xF4 → second.toNat ≤ 0x8F) := by
  simp only [mayFollow, ← UInt8.toNat_inj]
  split
  next h => simp [UInt8.le_iff_toNat_le] at h ⊢; omega
  next h1 =>
    split
    next h => simp [UInt8.le_iff_toNat_le] at h ⊢; omega
    next h2 =>
      split
      next h => simp [UInt8.le_iff_toNat_le] at h ⊢; omega
      next h3 =>
        split
        next h => simp [UInt8.le_iff_toNat_le] at h ⊢; omega
        next h4 => rw [isContinuation_iff]; simp at h1 h2 h3 h4; omega

theorem encodeChar_shape (c : Char) :
    (∃ a, String.utf8EncodeChar c = [a] ∧ a.toNat < 0x80) ∨
      (∃ a b, String.utf8EncodeChar c = [a, b] ∧ 0xC0 ≤ a.toNat ∧ a.toNat < 0xE0 ∧
        isContinuation b = true) ∨
      (∃ a b d, String.utf8EncodeChar c = [a, b, d] ∧ 0xE0 ≤ a.toNat ∧ a.toNat ≤ 0xEF ∧
        mayFollow a b = true ∧ isContinuation d = true) ∨
      ∃ a b d e, String.utf8EncodeChar c = [a, b, d, e] ∧ 0xF0 ≤ a.toNat ∧ a.toNat ≤ 0xF4 ∧
        mayFollow a b = true ∧ isContinuation d = true ∧ isContinuation e = true := by
  have hvalid : c.val.toNat < 0xD800 ∨ 0xDFFF < c.val.toNat ∧ c.val.toNat < 0x110000 := c.valid
  simp only [String.utf8EncodeChar]
  generalize c.val.toNat = v at hvalid
  simp only [isContinuation_iff, mayFollow_iff]
  split
  · refine .inl ⟨_, rfl, ?_⟩
    rw [toNat_ofNat_of_lt (by omega)]
    omega
  · split
    · refine .inr (.inl ⟨_, _, rfl, ?_⟩)
      rw [toNat_ofNat_of_lt (by omega), toNat_ofNat_of_lt (by omega)]
      omega
    · split
      · refine .inr (.inr (.inl ⟨_, _, _, rfl, ?_⟩))
        rw [toNat_ofNat_of_lt (by omega), toNat_ofNat_of_lt (by omega),
          toNat_ofNat_of_lt (by omega)]
        omega
      · refine .inr (.inr (.inr ⟨_, _, _, _, rfl, ?_⟩))
        rw [toNat_ofNat_of_lt (by omega), toNat_ofNat_of_lt (by omega),
          toNat_ofNat_of_lt (by omega), toNat_ofNat_of_lt (by omega)]
        omega

/-! ## The bytes of a part -/

theorem isContinuation_of_mayFollow {first second : UInt8} (h : mayFollow first second = true) :
    isContinuation second = true := by
  rw [mayFollow_iff] at h
  exact isContinuation_iff.mpr ⟨h.1, h.2.1⟩

theorem isContinuation_of_mem_illFormedTail {first : UInt8} {rest : List UInt8} :
    ∀ b ∈ rest.take (illFormedTail first rest), isContinuation b = true := by
  cases rest with
  | nil => simp
  | cons second rest =>
      rw [illFormedTail]
      split
      · split
        next hfollows => simpa using isContinuation_of_mayFollow hfollows
        next => simp
      · split
        · split
          next hfollows =>
            cases rest with
            | nil => simpa using isContinuation_of_mayFollow hfollows
            | cons third rest =>
                cases hthird : isContinuation third with
                | false => simpa [hthird] using isContinuation_of_mayFollow hfollows
                | true => simpa [hthird] using isContinuation_of_mayFollow hfollows
          next => simp
        · simp

theorem isContinuation_of_mem_tail {first : UInt8} {rest : List UInt8} :
    ∀ b ∈ rest.take (tailSize first rest), isContinuation b = true := by
  cases hchar : firstChar? first rest with
  | none =>
      rw [tailSize_of_none hchar]
      exact isContinuation_of_mem_illFormedTail
  | some c =>
      obtain ⟨after, hafter⟩ := firstChar?_eq_some_iff.mp hchar
      rw [tailSize_of_some hchar, ← String.length_utf8EncodeChar]
      rcases encodeChar_shape c with ⟨a, hbytes, -⟩ | ⟨a, b, hbytes, -, -, hb⟩ |
        ⟨a, b, d, hbytes, -, -, hb, hd⟩ | ⟨a, b, d, e, hbytes, -, -, hb, hd, he⟩
      · simp [hbytes]
      · rw [hbytes] at hafter ⊢
        obtain ⟨-, rfl⟩ := List.cons.inj hafter
        simpa using hb
      · rw [hbytes] at hafter ⊢
        obtain ⟨-, rfl⟩ := List.cons.inj hafter
        simpa using ⟨isContinuation_of_mayFollow hb, hd⟩
      · rw [hbytes] at hafter ⊢
        obtain ⟨-, rfl⟩ := List.cons.inj hafter
        simpa using ⟨isContinuation_of_mayFollow hb, hd, he⟩

/-- A continuation byte begins no character. -/
theorem part_of_isContinuation {b : UInt8} (h : isContinuation b = true) (rest : List UInt8) :
    firstChar? b rest = none ∧ tailSize b rest = 0 := by
  rw [isContinuation_iff] at h
  have hchar : firstChar? b rest = none := by
    rw [Option.eq_none_iff_forall_ne_some]
    intro c hsome
    obtain ⟨after, hafter⟩ := firstChar?_eq_some_iff.mp hsome
    rcases encodeChar_shape c with ⟨a, hbytes, ha⟩ | ⟨a, d, hbytes, ha, -⟩ |
      ⟨a, d, e, hbytes, ha, -⟩ | ⟨a, d, e, f, hbytes, ha, -⟩
    all_goals
      rw [hbytes] at hafter
      obtain ⟨rfl, -⟩ := List.cons.inj hafter
      omega
  refine ⟨hchar, ?_⟩
  rw [tailSize_of_none hchar]
  cases rest with
  | nil => rfl
  | cons second rest =>
      have hthree : ¬ (0xE0 ≤ b ∧ b ≤ 0xEF) := by
        simp only [UInt8.le_iff_toNat_le, UInt8.reduceToNat]
        omega
      have hfour : ¬ (0xF0 ≤ b ∧ b ≤ 0xF4) := by
        simp only [UInt8.le_iff_toNat_le, UInt8.reduceToNat]
        omega
      rw [illFormedTail, if_neg hthree, if_neg hfour]

theorem illFormedTail_le (first : UInt8) (rest : List UInt8) :
    illFormedTail first rest ≤ rest.length := by
  cases rest with
  | nil => exact Nat.le_refl 0
  | cons second rest =>
      rw [illFormedTail, List.length_cons]
      cases rest with
      | nil =>
          simp only [List.head?_nil, Option.any_none]
          grind
      | cons third rest =>
          rw [List.length_cons]
          grind

theorem tailSize_le (first : UInt8) (rest : List UInt8) : tailSize first rest ≤ rest.length := by
  cases hchar : firstChar? first rest with
  | none =>
      rw [tailSize_of_none hchar]
      exact illFormedTail_le first rest
  | some c =>
      obtain ⟨after, hafter⟩ := firstChar?_eq_some_iff.mp hchar
      have hlength := congrArg List.length hafter
      rw [List.length_cons, List.length_append, String.length_utf8EncodeChar] at hlength
      rw [tailSize_of_some hchar]
      omega

/-! ## Cutting a part short -/

/-- A character is still there when bytes are added. -/
theorem firstChar?_take_eq_some {first : UInt8} {rest : List UInt8} {k : ℕ} {c : Char}
    (h : firstChar? first (rest.take k) = some c) : firstChar? first rest = some c := by
  obtain ⟨after, hafter⟩ := firstChar?_eq_some_iff.mp h
  refine firstChar?_eq_some_iff.mpr ⟨after ++ rest.drop k, ?_⟩
  rw [← List.append_assoc, ← hafter, List.cons_append, List.take_append_drop]

theorem firstChar?_take_of_none {first : UInt8} {rest : List UInt8}
    (h : firstChar? first rest = none) (k : ℕ) : firstChar? first (rest.take k) = none := by
  cases hchar : firstChar? first (rest.take k) with
  | none => rfl
  | some c => rw [firstChar?_take_eq_some hchar] at h; cases h

theorem illFormedTail_take_of_le {first : UInt8} {rest : List UInt8} {k : ℕ}
    (h : illFormedTail first rest ≤ k) :
    illFormedTail first (rest.take k) = illFormedTail first rest := by
  rcases rest with _ | ⟨second, rest⟩
  · rw [List.take_nil]
  · rcases k with _ | k
    · rw [List.take_zero, Nat.le_zero.mp h]
      rfl
    · rcases k with _ | k
      · simp only [illFormedTail, List.take_succ_cons, List.take_zero] at h ⊢
        grind
      · rcases rest with _ | ⟨third, rest⟩ <;> rfl

theorem illFormedTail_take_of_lt {first : UInt8} {rest : List UInt8} {k : ℕ}
    (h : k < illFormedTail first rest) : illFormedTail first (rest.take k) = k := by
  rcases k with _ | k
  · rw [List.take_zero]
    rfl
  · rcases rest with _ | ⟨second, rest⟩
    · exact absurd h (Nat.not_lt_zero _)
    · rcases k with _ | k
      · simp only [illFormedTail, List.take_succ_cons, List.take_zero] at h ⊢
        grind
      · simp only [illFormedTail] at h
        grind

/-- Bytes from the end of the part on do not matter. -/
theorem part_take_of_le {first : UInt8} {rest : List UInt8} {k : ℕ}
    (h : tailSize first rest ≤ k) :
    firstChar? first (rest.take k) = firstChar? first rest ∧
      tailSize first (rest.take k) = tailSize first rest := by
  cases hchar : firstChar? first rest with
  | none =>
      rw [tailSize_of_none hchar] at h ⊢
      have htake := firstChar?_take_of_none hchar k
      refine ⟨htake, ?_⟩
      rw [tailSize_of_none htake]
      exact illFormedTail_take_of_le h
  | some c =>
      rw [tailSize_of_some hchar] at h ⊢
      have htake : firstChar? first (rest.take k) = some c := by
        obtain ⟨after, hafter⟩ := firstChar?_eq_some_iff.mp hchar
        refine firstChar?_eq_some_iff.mpr
          ⟨after.take (k + 1 - (String.utf8EncodeChar c).length), ?_⟩
        have hfits : (String.utf8EncodeChar c).length ≤ k + 1 := by
          rw [String.length_utf8EncodeChar]
          omega
        rw [← List.take_succ_cons, hafter, List.take_append, List.take_of_length_le hfits]
      exact ⟨htake, tailSize_of_some htake⟩

/-- The beginning of a character is one ill-formed part. -/
theorem illFormedTail_take_encodeChar {first : UInt8} {rest after : List UInt8} {c : Char}
    (hbytes : first :: rest = String.utf8EncodeChar c ++ after) {k : ℕ}
    (h : k < (String.utf8EncodeChar c).length - 1) : illFormedTail first (rest.take k) = k := by
  rcases k with _ | k
  · rw [List.take_zero]
    rfl
  · rcases encodeChar_shape c with ⟨a, hshape, -⟩ | ⟨a, b, hshape, -⟩ |
      ⟨a, b, d, hshape, hlow, hhigh, hb, -⟩ | ⟨a, b, d, e, hshape, hlow, hhigh, hb, hd, -⟩
    · simp [hshape] at h
    · simp [hshape] at h
    · rw [hshape] at hbytes h
      obtain ⟨rfl, rfl⟩ := List.cons.inj hbytes
      obtain rfl : k = 0 := by
        simp only [List.length_cons, List.length_nil] at h
        omega
      have hthree : 0xE0 ≤ first ∧ first ≤ 0xEF := by
        simp only [UInt8.le_iff_toNat_le, UInt8.reduceToNat]
        exact ⟨hlow, hhigh⟩
      simp [illFormedTail, hthree, hb]
    · rw [hshape] at hbytes h
      obtain ⟨rfl, rfl⟩ := List.cons.inj hbytes
      have hthree : ¬ (0xE0 ≤ first ∧ first ≤ 0xEF) := by
        simp only [UInt8.le_iff_toNat_le, UInt8.reduceToNat]
        omega
      have hfour : 0xF0 ≤ first ∧ first ≤ 0xF4 := by
        simp only [UInt8.le_iff_toNat_le, UInt8.reduceToNat]
        exact ⟨hlow, hhigh⟩
      have hk : k = 0 ∨ k = 1 := by
        simp only [List.length_cons, List.length_nil] at h
        omega
      rcases hk with rfl | rfl
      · simp [illFormedTail, hthree, hfour, hb]
      · simp [illFormedTail, hthree, hfour, hb, hd]

/-- A part that is cut short is ill-formed, and goes up to the cut. -/
theorem part_take_of_lt {first : UInt8} {rest : List UInt8} {k : ℕ}
    (h : k < tailSize first rest) :
    firstChar? first (rest.take k) = none ∧ tailSize first (rest.take k) = k := by
  have hlong := tailSize_le first rest
  cases hchar : firstChar? first rest with
  | none =>
      rw [tailSize_of_none hchar] at h
      have htake := firstChar?_take_of_none hchar k
      rw [tailSize_of_none htake]
      exact ⟨htake, illFormedTail_take_of_lt h⟩
  | some c =>
      rw [tailSize_of_some hchar] at h
      have htake : firstChar? first (rest.take k) = none := by
        cases hcut : firstChar? first (rest.take k) with
        | none => rfl
        | some c' =>
            -- the character would be the same, and does not fit
            obtain rfl : c' = c := by
              rw [firstChar?_take_eq_some hcut] at hchar
              exact Option.some.inj hchar
            have hfits := tailSize_le first (rest.take k)
            rw [tailSize_of_some hcut, List.length_take] at hfits
            omega
      refine ⟨htake, ?_⟩
      rw [tailSize_of_none htake]
      obtain ⟨after, hafter⟩ := firstChar?_eq_some_iff.mp hchar
      rw [← String.length_utf8EncodeChar] at h
      exact illFormedTail_take_encodeChar hafter h

/-! ## Chunks -/

section Marks

variable {α : Type*}

/-- The items, without their marks. -/
def unmark (items : List (α × Bool)) : List α := items.map Prod.fst

def anyMarked (items : List (α × Bool)) : Bool := items.any Prod.snd

@[simp] theorem unmark_nil : unmark ([] : List (α × Bool)) = [] := rfl

@[simp] theorem unmark_cons (item : α × Bool) (items : List (α × Bool)) :
    unmark (item :: items) = item.1 :: unmark items := rfl

@[simp] theorem unmark_append (items more : List (α × Bool)) :
    unmark (items ++ more) = unmark items ++ unmark more := List.map_append

@[simp] theorem unmark_unmarked (items : List α) : unmark (items.map (·, false)) = items := by
  rw [unmark, List.map_map]
  exact List.map_id items

@[simp] theorem length_unmark (items : List (α × Bool)) : (unmark items).length = items.length :=
  List.length_map _

theorem unmark_take (items : List (α × Bool)) (n : ℕ) :
    unmark (items.take n) = (unmark items).take n := List.map_take

theorem unmark_drop (items : List (α × Bool)) (n : ℕ) :
    unmark (items.drop n) = (unmark items).drop n := List.map_drop

end Marks

/-- The bytes of a list of chunks; each chunk's first byte is marked. -/
def cells : List (List UInt8) → List (UInt8 × Bool)
  | [] => []
  | [] :: chunks => cells chunks
  | (b :: bytes) :: chunks => (b, true) :: (bytes.map (·, false) ++ cells chunks)

theorem cells_bytes (chunks : List (List UInt8)) :
    unmark (cells chunks) = chunks.flatten := by
  fun_induction cells chunks with
  | case1 => rfl
  | case2 chunks ih => simpa using ih
  | case3 b bytes chunks ih => simp [ih]

/-- The parts of a byte sequence; a part is marked if one of its bytes
after the first is. -/
def decodeMarked : List (UInt8 × Bool) → List (Option Char × Bool)
  | [] => []
  | (first, _) :: rest =>
      let size := tailSize first (unmark rest)
      (firstChar? first (unmark rest), anyMarked (rest.take size)) ::
        decodeMarked (rest.drop size)
termination_by bytes => bytes.length
decreasing_by
  simp only [List.length_drop, List.length_cons]
  omega

@[simp] theorem decodeMarked_nil : decodeMarked [] = [] := by
  rw [decodeMarked]

theorem decodeMarked_parts (bytes : List (UInt8 × Bool)) :
    unmark (decodeMarked bytes) = decode (unmark bytes) := by
  fun_induction decodeMarked bytes with
  | case1 => simp
  | case2 first mark rest size ih =>
      rw [unmark_cons, ih, unmark_cons, decode_cons, unmark_drop]

/-- The bytes before the next marked one. -/
def own (bytes : List (UInt8 × Bool)) : List UInt8 :=
  unmark (bytes.takeWhile fun b => !b.2)

/-- The parts, each decoded from the bytes of its own chunk. -/
def decodeChunks : List (UInt8 × Bool) → List (Option Char)
  | [] => []
  | (first, _) :: rest =>
      firstChar? first (own rest) :: decodeChunks (rest.drop (tailSize first (own rest)))
termination_by bytes => bytes.length
decreasing_by
  simp only [List.length_drop, List.length_cons]
  omega

@[simp] theorem decodeChunks_nil : decodeChunks [] = [] := by
  rw [decodeChunks]

theorem takeWhile_cells (chunks : List (List UInt8)) :
    (cells chunks).takeWhile (fun b => !b.2) = [] := by
  fun_induction cells chunks with
  | case1 => rfl
  | case2 chunks ih => exact ih
  | case3 b bytes chunks ih => rfl

theorem own_append_cells (bytes : List UInt8) (chunks : List (List UInt8)) :
    own (bytes.map (·, false) ++ cells chunks) = bytes := by
  have hbytes : ∀ b ∈ bytes.map (·, false), (!b.2) = true := by simp
  rw [own, List.takeWhile_append_of_pos hbytes, takeWhile_cells, List.append_nil,
    unmark_unmarked]

theorem decodeChunks_cells_append (bytes : List UInt8) (chunks : List (List UInt8)) :
    decodeChunks (bytes.map (·, false) ++ cells chunks) =
      decode bytes ++ decodeChunks (cells chunks) := by
  induction bytes using parts_induction with
  | nil => simp
  | cons first rest ih =>
      have hsize := tailSize_le first rest
      rw [List.map_cons, List.cons_append, decodeChunks, own_append_cells, decode_cons,
        List.cons_append, ← ih, List.map_drop, List.drop_append_of_le_length (by simpa using hsize)]

/-- Chunk by chunk. -/
theorem decodeChunks_cells (chunks : List (List UInt8)) :
    decodeChunks (cells chunks) = chunks.flatMap decode := by
  fun_induction cells chunks with
  | case1 => simp
  | case2 chunks ih => simpa using ih
  | case3 b bytes chunks ih =>
      rw [List.flatMap_cons, ← ih, ← decodeChunks_cells_append, List.map_cons, List.cons_append,
        decodeChunks, decodeChunks]

/-! ## Marked items that multiply -/

/-- The items, in which each marked one has become several of `r`. -/
inductive Spread {α : Type*} (r : α) : List (α × Bool) → List α → Prop
  | nil : Spread r [] []
  | kept {a : α} {xs : List (α × Bool)} {ys : List α} (h : Spread r xs ys) :
      Spread r ((a, false) :: xs) (a :: ys)
  | split {a : α} {xs : List (α × Bool)} {ys : List α} {k : ℕ} (hk : 2 ≤ k) (h : Spread r xs ys) :
      Spread r ((a, true) :: xs) (List.replicate k r ++ ys)

theorem own_eq_take (rest : List (UInt8 × Bool)) :
    own rest = (unmark rest).take (own rest).length := by
  have hprefix := List.prefix_iff_eq_take.mp (List.takeWhile_prefix (l := rest) fun b => !b.2)
  rw [own, length_unmark, ← unmark_take, ← hprefix]

/-- A part that goes beyond its first byte's chunk has a marked byte. -/
theorem anyMarked_take {rest : List (UInt8 × Bool)} {n : ℕ} (h : (own rest).length < n)
    (hn : n ≤ rest.length) : anyMarked (rest.take n) = true := by
  induction rest generalizing n with
  | nil => exact absurd hn (Nat.not_le_of_lt (Nat.zero_lt_of_lt h))
  | cons b rest ih =>
      rcases n with _ | n
      · cases h
      · rcases b with ⟨b, _ | _⟩
        · have hrest : (own rest).length < n := by simpa [own] using h
          simpa [anyMarked] using ih hrest (Nat.le_of_succ_le_succ hn)
        · rfl

theorem anyMarked_take_of_le {rest : List (UInt8 × Bool)} {n : ℕ} (h : n ≤ (own rest).length) :
    anyMarked (rest.take n) = false := by
  induction rest generalizing n with
  | nil => simp [anyMarked]
  | cons b rest ih =>
      rcases n with _ | n
      · rfl
      · rcases b with ⟨b, _ | _⟩
        · have hrest : n ≤ (own rest).length := by simpa [own] using h
          simpa [anyMarked] using ih hrest
        · simp [own] at h

/-- Continuation bytes at the beginning of a chunk are ill-formed one by
one. -/
theorem decodeChunks_continuations {n : ℕ} {bytes : List (UInt8 × Bool)}
    (hn : n ≤ bytes.length) (h : ∀ b ∈ (unmark bytes).take n, isContinuation b = true) :
    decodeChunks bytes = List.replicate n none ++ decodeChunks (bytes.drop n) := by
  induction n generalizing bytes with
  | zero => rfl
  | succ n ih =>
      rcases bytes with _ | ⟨⟨b, mark⟩, rest⟩
      · cases hn
      · rw [unmark_cons, List.take_succ_cons] at h
        obtain ⟨hchar, hsize⟩ := part_of_isContinuation (h b List.mem_cons_self) (own rest)
        have hrest := ih (Nat.le_of_succ_le_succ hn) fun b' hb' =>
          h b' (List.mem_cons_of_mem b hb')
        rw [decodeChunks, hchar, hsize, List.drop_zero, hrest]
        rfl

/-- A part that a chunk boundary cuts becomes several ill-formed ones. -/
theorem spread_decodeChunks (bytes : List (UInt8 × Bool)) :
    Spread none (decodeMarked bytes) (decodeChunks bytes) := by
  induction hlength : bytes.length using Nat.strongRecOn generalizing bytes with
  | _ n ih =>
      rcases bytes with _ | ⟨⟨first, mark⟩, rest⟩
      · simpa using Spread.nil
      · have hshorter : ∀ k, (rest.drop k).length < n := by
          intro k
          rw [← hlength, List.length_drop, List.length_cons]
          omega
        have hsize := tailSize_le first (unmark rest)
        rw [length_unmark] at hsize
        have hown := own_eq_take rest
        rw [decodeMarked, decodeChunks]
        rcases Nat.lt_or_ge (own rest).length (tailSize first (unmark rest)) with hcut | hwhole
        · -- the rest of the part is spread over the following chunks
          obtain ⟨hchar, hend⟩ := part_take_of_lt hcut
          rw [← hown] at hchar hend
          have hmore : decodeChunks (rest.drop (own rest).length) =
              List.replicate (tailSize first (unmark rest) - (own rest).length) none ++
                decodeChunks (rest.drop (tailSize first (unmark rest))) := by
            rw [decodeChunks_continuations (n := tailSize first (unmark rest) - (own rest).length),
              List.drop_drop, Nat.add_sub_cancel' (Nat.le_of_lt hcut)]
            · rw [List.length_drop]
              omega
            · intro b hb
              rw [unmark_drop, List.take_drop, Nat.add_sub_cancel' (Nat.le_of_lt hcut)] at hb
              exact isContinuation_of_mem_tail b (List.mem_of_mem_drop hb)
          rw [hchar, hend, hmore, anyMarked_take hcut hsize, ← List.cons_append,
            ← List.replicate_succ]
          exact .split (by omega) (ih _ (hshorter _) _ rfl)
        · obtain ⟨hchar, hend⟩ := part_take_of_le hwhole
          rw [← hown] at hchar hend
          rw [hchar, hend, anyMarked_take_of_le hwhole]
          exact .kept (ih _ (hshorter _) _ rfl)

/-- A marked part has more than one byte. -/
theorem one_lt_utf8Size_of_marked {bytes : List (UInt8 × Bool)} {c : Char}
    (h : (some c, true) ∈ decodeMarked bytes) : 1 < c.utf8Size := by
  fun_induction decodeMarked bytes with
  | case1 => cases h
  | case2 first mark rest size ih =>
      rcases List.mem_cons.mp h with hfirst | hrest
      · obtain ⟨hchar, hmark⟩ := Prod.mk.inj hfirst
        by_contra hone
        have hsize : size = 0 := by
          change tailSize first (unmark rest) = 0
          rw [tailSize_of_some hchar.symm]
          omega
        change true = anyMarked (rest.take size) at hmark
        rw [hsize] at hmark
        cases hmark
      · exact ih hrest

namespace Spread

variable {α β : Type*} {r : α} {xs : List (α × Bool)} {ys : List α}

theorem map (f : α → β) (h : Spread r xs ys) :
    Spread (f r) (xs.map fun x => (f x.1, x.2)) (ys.map f) := by
  induction h with
  | nil => exact .nil
  | kept h ih => exact .kept ih
  | split hk h ih =>
      rw [List.map_append, List.map_replicate]
      exact .split hk ih

theorem append {xs' : List (α × Bool)} {ys' : List α} (h : Spread r xs ys)
    (h' : Spread r xs' ys') : Spread r (xs ++ xs') (ys ++ ys') := by
  induction h with
  | nil => exact h'
  | kept h ih => exact .kept ih
  | split hk h ih =>
      rw [List.append_assoc]
      exact .split hk ih

theorem reverse (h : Spread r xs ys) : Spread r xs.reverse ys.reverse := by
  induction h with
  | nil => exact .nil
  | kept h ih =>
      rw [List.reverse_cons, List.reverse_cons]
      exact ih.append (.kept .nil)
  | @split a xs ys k hk h ih =>
      have hlast : Spread r [(a, true)] (List.replicate k r) := by
        simpa using Spread.split (a := a) hk .nil
      rw [List.reverse_cons, List.reverse_append, List.reverse_replicate]
      exact ih.append hlast

/-- The last item. -/
theorem concat_cases {x : α × Bool} (h : Spread r (xs ++ [x]) ys) :
    ∃ ys', Spread r xs ys' ∧
      ((x.2 = false ∧ ys = ys' ++ [x.1]) ∨
        x.2 = true ∧ ∃ k, 2 ≤ k ∧ ys = ys' ++ List.replicate k r) := by
  have hreverse := h.reverse
  rw [List.reverse_append, List.reverse_singleton, List.singleton_append] at hreverse
  generalize hlist : ys.reverse = zs at hreverse
  obtain rfl := List.reverse_eq_iff.mp hlist
  cases hreverse with
  | kept hkept =>
      rename_i a zs
      refine ⟨zs.reverse, ?_, .inl ⟨rfl, List.reverse_cons⟩⟩
      simpa using hkept.reverse
  | split hk hsplit =>
      rename_i a zs k
      refine ⟨zs.reverse, ?_, .inr ⟨rfl, k, hk, ?_⟩⟩
      · simpa using hsplit.reverse
      · rw [List.reverse_append, List.reverse_replicate]

/-! ### Lines -/

variable [DecidableEq α] {sep : α}

/-- The lines of the two are related one by one. -/
theorem complete (h : Spread r xs ys) (hr : sep ≠ r) (hsep : (sep, true) ∉ xs) :
    List.Forall₂ (Spread r) (Lines.complete (sep, false) xs).1 (Lines.complete sep ys).1 ∧
      Spread r (Lines.complete (sep, false) xs).2 (Lines.complete sep ys).2 := by
  induction h with
  | nil => exact ⟨.nil, .nil⟩
  | @kept a xs ys h ih =>
      obtain ⟨hlines, hrest⟩ := ih fun hmem => hsep (List.mem_cons_of_mem _ hmem)
      rw [Lines.complete, Lines.complete]
      generalize Lines.complete (sep, false) xs = marked at hlines hrest ⊢
      generalize Lines.complete sep ys = plain at hlines hrest ⊢
      obtain ⟨markedLines, markedRest⟩ := marked
      obtain ⟨lines, rest⟩ := plain
      dsimp only at hlines hrest ⊢
      by_cases ha : a = sep
      · rw [if_pos ha, if_pos (by rw [ha])]
        exact ⟨.cons .nil hlines, hrest⟩
      · rw [if_neg ha, if_neg fun heq => ha (Prod.mk.inj heq).1]
        cases hlines with
        | nil => exact ⟨.nil, .kept hrest⟩
        | cons hline hlines => exact ⟨.cons (.kept hline) hlines, hrest⟩
  | @split a xs ys k hk h ih =>
      obtain ⟨hlines, hrest⟩ := ih fun hmem => hsep (List.mem_cons_of_mem _ hmem)
      have hnone : sep ∉ List.replicate k r := fun hmem => hr (List.eq_of_mem_replicate hmem)
      rw [Lines.complete, Lines.complete_append_of_notMem hnone, if_neg fun heq => by cases heq]
      generalize Lines.complete (sep, false) xs = marked at hlines hrest ⊢
      generalize Lines.complete sep ys = plain at hlines hrest ⊢
      obtain ⟨markedLines, markedRest⟩ := marked
      obtain ⟨lines, rest⟩ := plain
      dsimp only at hlines hrest ⊢
      cases hlines with
      | nil => exact ⟨.nil, .split hk hrest⟩
      | cons hline hlines => exact ⟨.cons (.split hk hline) hlines, hrest⟩

end Spread

theorem complete_unmark {α : Type*} [DecidableEq α] {sep : α} {xs : List (α × Bool)}
    (hsep : (sep, true) ∉ xs) :
    Lines.complete sep (unmark xs) =
      ((Lines.complete (sep, false) xs).1.map unmark,
        unmark (Lines.complete (sep, false) xs).2) := by
  induction xs with
  | nil => rfl
  | cons x xs ih =>
      rw [unmark_cons, Lines.complete, Lines.complete,
        ih fun hmem => hsep (List.mem_cons_of_mem x hmem)]
      have hiff : x.1 = sep ↔ x = (sep, false) := by
        constructor
        · intro hx
          rcases x with ⟨a, _ | _⟩
          · exact congrArg (·, false) hx
          · obtain rfl : a = sep := hx
            exact absurd List.mem_cons_self hsep
        · intro hx
          rw [hx]
      by_cases hx : x.1 = sep
      · simp [hiff.mp hx]
      · rw [if_neg hx, if_neg fun heq => hx (hiff.mpr heq)]
        cases (Lines.complete (sep, false) xs).1 with
        | nil => rfl
        | cons line lines => rfl

/-! ## The last items -/

/-- Read from the end, the first `n` items do not tell that the marked ones
have become several of `r`: none of them is marked, or from the first
marked one on all are `r`. -/
def SplitsHidden {α : Type*} (r : α) : ℕ → List (α × Bool) → Prop
  | 0, _ => True
  | _ + 1, [] => True
  | n + 1, (_, false) :: rest => SplitsHidden r n rest
  | n + 1, (a, true) :: rest => (a :: unmark rest).take (n + 1) = List.replicate (n + 1) r

namespace Spread

variable {α : Type*} {r : α} {xs : List (α × Bool)} {ys : List α}

theorem take_eq_replicate (h : Spread r xs ys) {n : ℕ}
    (hr : (unmark xs).take n = List.replicate n r) : ys.take n = List.replicate n r := by
  induction h generalizing n with
  | nil => exact hr
  | @kept a xs ys h ih =>
      rcases n with _ | n
      · rfl
      · rw [unmark_cons, List.take_succ_cons, List.replicate_succ] at hr
        obtain ⟨ha, hrest⟩ := List.cons.inj hr
        rw [List.take_succ_cons, List.replicate_succ, ih hrest, ← ha]
  | @split a xs ys k hk h ih =>
      rcases n with _ | n
      · rfl
      · rw [unmark_cons, List.take_succ_cons, List.replicate_succ] at hr
        obtain ⟨-, hrest⟩ := List.cons.inj hr
        have hshort : ys.take (n + 1 - k) = List.replicate (n + 1 - k) r := by
          have hcut := congrArg (List.take (n + 1 - k)) (ih hrest)
          rw [List.take_take, List.take_replicate, Nat.min_eq_left (by omega)] at hcut
          exact hcut
        rw [List.take_append, List.length_replicate, List.take_replicate, hshort,
          List.replicate_append_replicate]
        congr 1
        omega

/-- Items that were shifted by some `r` and have not changed are `r`. -/
theorem replicate_of_shifted (h : Spread r xs ys) {n j : ℕ} (hj : 1 ≤ j)
    (hsame : (List.replicate j r ++ ys).take n = (unmark xs).take n) :
    (unmark xs).take n = List.replicate n r := by
  induction h generalizing n j with
  | nil =>
      rcases n with _ | n
      · rfl
      · have hlength := congrArg List.length hsame
        simp at hlength
        omega
  | @kept a xs ys h ih =>
      rcases n with _ | n
      · rfl
      · obtain ⟨j, rfl⟩ : ∃ i, j = i + 1 := ⟨j - 1, by omega⟩
        rw [List.replicate_succ, List.cons_append, List.take_succ_cons, unmark_cons,
          List.take_succ_cons] at hsame
        obtain ⟨rfl, hrest⟩ := List.cons.inj hsame
        rw [unmark_cons, List.take_succ_cons, List.replicate_succ]
        congr 1
        apply ih (Nat.le_add_left 1 j)
        rw [← hrest, List.replicate_succ', List.append_assoc]
        rfl
  | @split a xs ys k hk h ih =>
      rcases n with _ | n
      · rfl
      · obtain ⟨j, rfl⟩ : ∃ i, j = i + 1 := ⟨j - 1, by omega⟩
        rw [List.replicate_succ, List.cons_append, List.take_succ_cons, unmark_cons,
          List.take_succ_cons] at hsame
        obtain ⟨rfl, hrest⟩ := List.cons.inj hsame
        rw [unmark_cons, List.take_succ_cons, List.replicate_succ]
        congr 1
        apply ih (Nat.le_add_left_of_le (by omega) : 1 ≤ j + k)
        rw [← hrest, ← List.append_assoc, List.replicate_append_replicate]

theorem take_eq_iff (h : Spread r xs ys) (n : ℕ) :
    ys.take n = (unmark xs).take n ↔ SplitsHidden r n xs := by
  induction h generalizing n with
  | nil => rcases n with _ | n <;> simp [SplitsHidden]
  | @kept a xs ys h ih =>
      rcases n with _ | n
      · simp [SplitsHidden]
      · rw [unmark_cons, List.take_succ_cons, List.take_succ_cons, List.cons_inj_right]
        exact ih n
  | @split a xs ys k hk h ih =>
      rcases n with _ | n
      · simp [SplitsHidden]
      · have hspread : Spread r ((a, true) :: xs) (List.replicate k r ++ ys) := .split hk h
        obtain ⟨k, rfl⟩ : ∃ i, k = i + 1 := ⟨k - 1, by omega⟩
        constructor
        · intro hsame
          rw [List.replicate_succ, List.cons_append, List.take_succ_cons, unmark_cons,
            List.take_succ_cons] at hsame
          obtain ⟨rfl, hrest⟩ := List.cons.inj hsame
          have hshifted := h.replicate_of_shifted (by omega) hrest
          change (r :: unmark xs).take (n + 1) = List.replicate (n + 1) r
          rw [List.take_succ_cons, hshifted, List.replicate_succ]
        · intro hr
          change (unmark ((a, true) :: xs)).take (n + 1) = List.replicate (n + 1) r at hr
          rw [hr]
          exact hspread.take_eq_replicate hr

end Spread

end Utf8
