import Mathlib.Data.List.Basic

/-!
# Moments of a log

A log has its latest entry first. What had been logged when an entry came is
the log behind it, and what was written last is found by going back to the
first entry that writes.
-/

namespace LogMoments

variable {E α : Type*}

/-- When the entry was logged, `P` held of what had been logged before. -/
def When (e : E) (P : List E → Prop) (log : List E) : Prop := ∃ older, e :: older <:+ log ∧ P older

/-- What the latest entry writes that writes anything, and the log behind
it. -/
def latest (writes : E → Option α) : List E → Option (α × List E)
  | [] => none
  | e :: older =>
      match writes e with
      | some a => some (a, older)
      | none => latest writes older

variable {e : E} {P : List E → Prop} {log log' : List E}

theorem When.mono (h : When e P log) (hlog : log <:+ log') : When e P log' := by
  obtain ⟨older, hsuffix, hP⟩ := h
  exact ⟨older, hsuffix.trans hlog, hP⟩

theorem When.here (h : P log) : When e P (e :: log) := ⟨log, List.suffix_refl _, h⟩

section Latest

variable {writes : E → Option α} {a : α}

theorem latest_cons_of_none (h : writes e = none) :
    latest writes (e :: log) = latest writes log := by
  rw [latest, h]

theorem latest_cons_of_some (h : writes e = some a) :
    latest writes (e :: log) = some (a, log) := by
  rw [latest, h]

end Latest

end LogMoments
