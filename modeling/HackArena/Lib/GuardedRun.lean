import Mathlib.Data.List.Basic

/-!
# Runs of a step function

A system is a step function on states and events. A run is a list of
events; its `n`-th state is the fold over the first `n` of them.
`Along P` says that every event of the run happens in a state in which
`P` holds of it, which serves both as a guard on the run and as a
property observed while it unfolds.
-/

namespace GuardedRun

variable {σ ε : Type*} {step : σ → ε → σ} {s : σ} {evs : List ε}

/-- The state reached after the first `n` events. -/
def stateAt (step : σ → ε → σ) (s : σ) (evs : List ε) (n : ℕ) : σ :=
  (evs.take n).foldl step s

@[simp] theorem stateAt_zero : stateAt step s evs 0 = s := rfl

theorem stateAt_length : stateAt step s evs evs.length = evs.foldl step s := by
  rw [stateAt, List.take_length]

theorem stateAt_succ {n : ℕ} (hn : n < evs.length) :
    stateAt step s evs (n + 1) = step (stateAt step s evs n) evs[n] := by
  rw [stateAt, List.take_add_one, List.getElem?_eq_getElem hn, Option.toList_some,
    List.foldl_append]
  rfl

theorem stateAt_of_length_le {n : ℕ} (hn : evs.length ≤ n) :
    stateAt step s evs n = evs.foldl step s := by
  rw [stateAt, List.take_of_length_le hn]

/-- Every event happens in a state in which `P` holds of it. -/
def Along (P : σ → ε → Prop) (step : σ → ε → σ) : σ → List ε → Prop
  | _, [] => True
  | s, e :: es => P s e ∧ Along P step (step s e) es

variable {P Q : σ → ε → Prop} {I : σ → Prop}

@[simp] theorem along_nil : Along P step s [] := trivial

@[simp] theorem along_cons {e : ε} {es : List ε} :
    Along P step s (e :: es) ↔ P s e ∧ Along P step (step s e) es := Iff.rfl

instance decidableAlong [∀ t e, Decidable (P t e)] :
    (s : σ) → (evs : List ε) → Decidable (Along P step s evs)
  | _, [] => .isTrue trivial
  | s, e :: es =>
      have := decidableAlong (step s e) es
      inferInstanceAs (Decidable (P s e ∧ Along P step (step s e) es))

theorem along_append {xs ys : List ε} :
    Along P step s (xs ++ ys) ↔ Along P step s xs ∧ Along P step (xs.foldl step s) ys := by
  induction xs generalizing s with
  | nil => simp
  | cons e es ih => simp [ih, and_assoc]

theorem Along.take (h : Along P step s evs) (n : ℕ) : Along P step s (evs.take n) := by
  rw [← List.take_append_drop n evs] at h
  exact (along_append.mp h).1

theorem Along.get (h : Along P step s evs) {n : ℕ} (hn : n < evs.length) :
    P (stateAt step s evs n) evs[n] := by
  rw [← List.take_append_drop n evs, List.drop_eq_getElem_cons hn] at h
  exact (along_append.mp h).2.1

/-- A property of every event of the run can be added to the guard. -/
theorem Along.and_mem {R : ε → Prop} (h : Along P step s evs) (hmem : ∀ e ∈ evs, R e) :
    Along (fun t e => R e ∧ P t e) step s evs := by
  induction evs generalizing s with
  | nil => trivial
  | cons e es ih =>
      have hrest := ih h.2 fun e' he' => hmem e' (List.mem_cons_of_mem e he')
      exact ⟨⟨hmem e List.mem_cons_self, h.1⟩, hrest⟩

theorem Along.and (hP : Along P step s evs) (hQ : Along Q step s evs) :
    Along (fun t e => P t e ∧ Q t e) step s evs := by
  induction evs generalizing s with
  | nil => trivial
  | cons e es ih => exact ⟨⟨hP.1, hQ.1⟩, ih hP.2 hQ.2⟩

theorem along_of_forall (h : ∀ t e, P t e) : Along P step s evs := by
  induction evs generalizing s with
  | nil => trivial
  | cons e es ih => exact ⟨h s e, ih⟩

/-- A property kept by every admissible event holds at the end of an
admissible run. -/
theorem Along.invariant (hstep : ∀ t e, I t → P t e → I (step t e))
    (hs : I s) (h : Along P step s evs) : I (evs.foldl step s) := by
  induction evs generalizing s with
  | nil => exact hs
  | cons e es ih => exact ih (hstep s e hs h.1) h.2

theorem Along.invariant_at (hstep : ∀ t e, I t → P t e → I (step t e))
    (hs : I s) (h : Along P step s evs) (n : ℕ) : I (stateAt step s evs n) :=
  (h.take n).invariant hstep hs

/-- The unguarded rule: what every event keeps holds in every state. -/
theorem invariant_at (hstep : ∀ t e, I t → I (step t e)) (hs : I s) (n : ℕ) :
    I (stateAt step s evs n) :=
  Along.invariant_at (P := fun _ _ => True) (fun t e ht _ => hstep t e ht) hs
    (along_of_forall fun _ _ => trivial) n

/-- What an invariant makes true of each event is true along the run. -/
theorem Along.of_invariant (hstep : ∀ t e, I t → P t e → I (step t e))
    (himp : ∀ t e, I t → P t e → Q t e) (hs : I s) (h : Along P step s evs) :
    Along Q step s evs := by
  induction evs generalizing s with
  | nil => trivial
  | cons e es ih => exact ⟨himp s e hs h.1, ih (hstep s e hs h.1) h.2⟩

theorem Along.mono (himp : ∀ t e, P t e → Q t e) (h : Along P step s evs) : Along Q step s evs :=
  h.of_invariant (I := fun _ => True) (fun _ _ _ _ => trivial) (fun t e _ => himp t e) trivial

/-- What holds at the end of a run, and cannot come about during it, holds
from the beginning on. -/
theorem along_of_last (hback : ∀ t e, I (step t e) → I t) (h : I (evs.foldl step s)) :
    I s ∧ Along (fun t _ => I t) step s evs := by
  induction evs generalizing s with
  | nil => exact ⟨h, trivial⟩
  | cons e es ih =>
      obtain ⟨hnext, hrest⟩ := ih h
      exact ⟨hback s e hnext, hback s e hnext, hrest⟩

/-- Two event properties that an invariant of the guarded run makes
equivalent hold along the same guarded runs. -/
theorem Along.congr {G : σ → ε → Prop} (hG : Along G step s evs)
    (hstep : ∀ t e, I t → G t e → I (step t e))
    (hiff : ∀ t e, I t → G t e → (P t e ↔ Q t e)) (hs : I s) :
    Along P step s evs ↔ Along Q step s evs := by
  induction evs generalizing s with
  | nil => exact Iff.rfl
  | cons e es ih =>
      exact and_congr (hiff s e hs hG.1) (ih hG.2 (hstep s e hs hG.1))

theorem along_iff_of_invariant (hstep : ∀ t e, I t → I (step t e))
    (hiff : ∀ t e, I t → (P t e ↔ Q t e)) (hs : I s) :
    Along P step s evs ↔ Along Q step s evs :=
  Along.congr (G := fun _ _ => True) (along_of_forall fun _ _ => trivial)
    (fun t e ht _ => hstep t e ht) (fun t e ht _ => hiff t e ht) hs

/-- As `Along.congr`, with an invariant that only the events with `Q`
keep. -/
theorem Along.congr_of_kept {G : σ → ε → Prop} (hG : Along G step s evs)
    (hstep : ∀ t e, I t → G t e → Q t e → I (step t e))
    (hiff : ∀ t e, I t → G t e → (P t e ↔ Q t e)) (hs : I s) :
    Along P step s evs ↔ Along Q step s evs := by
  induction evs generalizing s with
  | nil => exact Iff.rfl
  | cons e es ih =>
      constructor
      · rintro ⟨hP, hrest⟩
        have hQ := (hiff s e hs hG.1).mp hP
        exact ⟨hQ, (ih hG.2 (hstep s e hs hG.1 hQ)).mp hrest⟩
      · rintro ⟨hQ, hrest⟩
        exact ⟨(hiff s e hs hG.1).mpr hQ, (ih hG.2 (hstep s e hs hG.1 hQ)).mpr hrest⟩

/-- When an event keeps `I` exactly if it is admissible, `I` holds in
every state exactly if the run is admissible. -/
theorem forall_stateAt_iff_along {J : σ → Prop} (hJ : ∀ t e, J t → J (step t e))
    (hiff : ∀ t e, J t → I t → (I (step t e) ↔ P t e)) (hs : J s) (hI : I s) :
    (∀ n, I (stateAt step s evs n)) ↔ Along P step s evs := by
  induction evs generalizing s with
  | nil => simpa [stateAt] using hI
  | cons e es ih =>
      have hrest := ih (hJ s e hs)
      constructor
      · intro h
        have hnext : I (step s e) := h 1
        exact ⟨(hiff s e hs hI).mp hnext, (hrest hnext).mp fun n => h (n + 1)⟩
      · rintro ⟨hP, hes⟩ n
        have hnext := (hiff s e hs hI).mpr hP
        cases n with
        | zero => exact hI
        | succ n => exact (hrest hnext).mpr hes n

/-- The same for the runs that a guard admits. -/
theorem Along.forall_stateAt_iff {G : σ → ε → Prop} (hG : Along G step s evs)
    (hiff : ∀ t e, I t → G t e → (I (step t e) ↔ P t e)) (hI : I s) :
    (∀ n, I (stateAt step s evs n)) ↔ Along P step s evs := by
  induction evs generalizing s with
  | nil => simpa [stateAt] using hI
  | cons e es ih =>
      constructor
      · intro h
        have hnext : I (step s e) := h 1
        exact ⟨(hiff s e hI hG.1).mp hnext, (ih hG.2 hnext).mp fun n => h (n + 1)⟩
      · rintro ⟨hP, hes⟩ n
        have hnext := (hiff s e hI hG.1).mpr hP
        cases n with
        | zero => exact hI
        | succ n => exact (ih hG.2 hnext).mpr hes n

/-- A preorder that every event respects from states with the invariant
relates any earlier state of a run to any later one. -/
theorem stateAt_rel {R : σ → σ → Prop} (hrefl : ∀ t, R t t)
    (htrans : ∀ t u v, R t u → R u v → R t v)
    (hinv : ∀ t e, I t → I (step t e)) (hstep : ∀ t e, I t → R t (step t e))
    (hs : I s) {m n : ℕ} (hmn : m ≤ n) :
    R (stateAt step s evs m) (stateAt step s evs n) := by
  induction hmn with
  | refl => exact hrefl _
  | @step n _ ih =>
      by_cases hn : n < evs.length
      · rw [stateAt_succ hn]
        exact htrans _ _ _ ih (hstep _ _ (invariant_at hinv hs n))
      · rw [stateAt_of_length_le (by omega : evs.length ≤ n + 1),
          ← stateAt_of_length_le (Nat.not_lt.mp hn)]
        exact ih

end GuardedRun
