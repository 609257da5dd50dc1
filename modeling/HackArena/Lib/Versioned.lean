import Mathlib.Order.Basic

/-!
# Values with a revision

A value carries a revision that every change advances. Whoever has read
both can change the value on the condition that the revision is still the
one read. As long as every change advances the revision, an old revision
stands for one value only.
-/

structure Versioned (α : Type*) where
  revision : ℕ
  value : α
  deriving DecidableEq

namespace Versioned

variable {α ε : Type*}

/-- A change, whatever the value becomes. -/
def put (v : Versioned α) (value : α) : Versioned α := ⟨v.revision + 1, value⟩

@[simp] theorem put_revision (v : Versioned α) (value : α) :
    (v.put value).revision = v.revision + 1 := rfl

@[simp] theorem put_value (v : Versioned α) (value : α) : (v.put value).value = value := rfl

/-- `old` has been read at some time before. -/
structure Seen (v old : Versioned α) : Prop where
  le : old.revision ≤ v.revision
  same : old.revision = v.revision → old = v

theorem Seen.refl (v : Versioned α) : v.Seen v := ⟨Nat.le_refl _, fun _ => rfl⟩

theorem Seen.put {v old : Versioned α} (h : v.Seen old) (value : α) : (v.put value).Seen old := by
  have hle := h.le
  refine ⟨Nat.le_succ_of_le hle, fun heq => ?_⟩
  rw [put_revision] at heq
  omega

/-- What has been read is still there if the revision is. -/
theorem Seen.eq_of_revision {v old : Versioned α} (h : v.Seen old)
    (hrevision : v.revision = old.revision) : v = old := (h.same hrevision.symm).symm

/-- A change on the condition that the revision is the expected one and has
room to grow. -/
def change (v : Versioned α) (limit expected : ℕ) (mismatch overflow : ε)
    (f : α → Except ε α) : Versioned α × Except ε ℕ :=
  if expected ≠ v.revision then (v, .error mismatch)
  else match f v.value with
    | .error err => (v, .error err)
    | .ok value =>
        if limit ≤ v.revision then (v, .error overflow)
        else (v.put value, .ok (v.revision + 1))

/-- A change has been refused and has done nothing, or the revision was the
expected one. -/
theorem change_cases (v : Versioned α) (limit expected : ℕ) (mismatch overflow : ε)
    (f : α → Except ε α) :
    (∃ err, v.change limit expected mismatch overflow f = (v, .error err)) ∨
      ∃ value, expected = v.revision ∧ f v.value = .ok value ∧
        v.change limit expected mismatch overflow f = (v.put value, .ok (v.revision + 1)) := by
  unfold change
  split
  · exact Or.inl ⟨_, rfl⟩
  · rename_i hexpected
    cases hvalue : f v.value with
    | error err => exact Or.inl ⟨err, rfl⟩
    | ok value =>
        dsimp only
        split
        · exact Or.inl ⟨_, rfl⟩
        · exact Or.inr ⟨value, not_not.mp hexpected, rfl, rfl⟩

end Versioned
