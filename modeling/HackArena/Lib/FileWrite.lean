import Mathlib.Data.List.GetD
import Mathlib.Data.Nat.Notation

/-!
# Writing a file in place

A file that is open for writing is written in pieces at growing offsets. A
piece beyond the end leaves a gap of zeros. Writers that write the same
bytes do not disturb each other: what one of them has written up to its
offset stays right.
-/

namespace FileWrite

/-- The content after the bytes `chunk` have been written at `offset`. -/
def overlay (content chunk : List UInt8) (offset : ℕ) : List UInt8 :=
  (List.range (max content.length (offset + chunk.length))).map fun j =>
    if offset ≤ j ∧ j < offset + chunk.length then chunk.getD (j - offset) 0 else content.getD j 0

variable {content chunk raw : List UInt8} {offset done count : ℕ}

theorem length_overlay :
    (overlay content chunk offset).length = max content.length (offset + chunk.length) := by
  rw [overlay, List.length_map, List.length_range]

theorem getD_overlay {j : ℕ} (hj : j < max content.length (offset + chunk.length)) :
    (overlay content chunk offset).getD j 0 =
      if offset ≤ j ∧ j < offset + chunk.length then chunk.getD (j - offset) 0
      else content.getD j 0 := by
  have hlength : j < (overlay content chunk offset).length := by rwa [length_overlay]
  rw [List.getD_eq_getElem _ _ hlength]
  simp [overlay]

/-- A piece of the bytes that are being written. -/
def piece (raw : List UInt8) (offset count : ℕ) : List UInt8 := (raw.drop offset).take count

theorem length_piece : (piece raw offset count).length = min count (raw.length - offset) := by
  rw [piece, List.length_take, List.length_drop]

theorem getD_piece {i : ℕ} (hi : i < (piece raw offset count).length) :
    (piece raw offset count).getD i 0 = raw.getD (offset + i) 0 := by
  have hraw : offset + i < raw.length := by
    rw [length_piece] at hi
    omega
  rw [List.getD_eq_getElem _ _ hi, List.getD_eq_getElem _ _ hraw]
  simp [piece]

/-- The first `done` bytes are those of `raw`, and there are not more bytes
than in `raw`. -/
structure Covers (raw : List UInt8) (done : ℕ) (content : List UInt8) : Prop where
  bound : done ≤ content.length
  length : content.length ≤ raw.length
  same : ∀ j < done, content.getD j 0 = raw.getD j 0

theorem covers_empty (raw : List UInt8) : Covers raw 0 [] :=
  ⟨Nat.le_refl 0, Nat.zero_le _, fun j hj => absurd hj (Nat.not_lt_zero j)⟩

/-- A piece that somebody writes where it belongs. -/
theorem Covers.overlay (h : Covers raw done content) (hoffset : offset ≤ raw.length) :
    Covers raw done (overlay content (piece raw offset count) offset) := by
  have hbound := h.bound
  have hlength := h.length
  have hpiece : (piece raw offset count).length = min count (raw.length - offset) := length_piece
  refine ⟨?_, ?_, fun j hj => ?_⟩
  · rw [length_overlay]
    omega
  · rw [length_overlay]
    omega
  · rw [getD_overlay (by omega)]
    split
    · rename_i hinside
      rw [getD_piece (by omega), Nat.add_sub_cancel' hinside.1]
    · exact h.same j hj

/-- The next piece of the writer itself. -/
theorem Covers.advance (h : Covers raw done content) :
    Covers raw (done + (piece raw done count).length)
      (FileWrite.overlay content (piece raw done count) done) := by
  have hbound := h.bound
  have hlength := h.length
  have hpiece : (piece raw done count).length = min count (raw.length - done) := length_piece
  refine ⟨?_, ?_, fun j hj => ?_⟩
  · rw [length_overlay]
    omega
  · rw [length_overlay]
    omega
  · rw [getD_overlay (by omega)]
    split
    · rename_i hinside
      rw [getD_piece (by omega), Nat.add_sub_cancel' hinside.1]
    · rename_i houtside
      exact h.same j (by omega)

theorem Covers.eq_of_done (h : Covers raw raw.length content) : content = raw := by
  have hlength : content.length = raw.length := Nat.le_antisymm h.length h.bound
  apply List.ext_getElem hlength
  intro j hj hj'
  have hsame := h.same j hj'
  rwa [List.getD_eq_getElem _ _ hj, List.getD_eq_getElem _ _ hj'] at hsame

theorem covers_take (h : done ≤ raw.length) : Covers raw done (raw.take done) where
  bound := Nat.le_of_eq (List.length_take_of_le h).symm
  length := List.length_take_le' _ _
  same j hj := by
    rw [List.getD_eq_getElem?_getD, List.getD_eq_getElem?_getD, List.getElem?_take_of_lt hj]

theorem Covers.eq_take (h : Covers raw done content) (hlength : content.length = done) :
    content = raw.take done := by
  have hraw := h.length
  refine List.ext_getElem (by rw [List.length_take]; omega) fun j hj hj' => ?_
  have hsame := h.same j (hlength ▸ hj)
  have hj'' : j < raw.length := Nat.lt_of_lt_of_le hj hraw
  rw [List.getD_eq_getElem _ _ hj, List.getD_eq_getElem _ _ hj''] at hsame
  rw [hsame, List.getElem_take]

/-- A single writer goes from one beginning of the bytes to the next. -/
theorem overlay_take (h : done ≤ raw.length) :
    overlay (raw.take done) (piece raw done count) done =
      raw.take (done + (piece raw done count).length) := by
  refine (covers_take h).advance.eq_take ?_
  rw [length_overlay, List.length_take, Nat.min_eq_left h]
  omega

end FileWrite
