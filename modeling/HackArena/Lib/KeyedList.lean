import Mathlib.Data.List.Nodup
import Mathlib.Data.Finmap
import Mathlib.Data.List.Sort

/-!
# Keyed lists and finite maps

A vector whose elements carry a key is searched and rewritten by that
key: replace the first element with the key or append, rewrite the first
element with a key in place, remove by key. The lemmas say what each
does to the list of keys and to membership.
-/

namespace KeyedList

variable {α κ : Type*} [DecidableEq κ] (key : α → κ)

/-- Replace the first element that has the key of `x`, else append `x`. -/
def upsert (x : α) : List α → List α
  | [] => [x]
  | y :: ys => if key y = key x then x :: ys else y :: upsert x ys

/-- Rewrite the first element with key `k`. -/
def updateFirst (k : κ) (f : α → α) : List α → List α
  | [] => []
  | y :: ys => if key y = k then f y :: ys else y :: updateFirst k f ys

variable {key} {x y : α} {l : List α} {k : κ} {f : α → α}

theorem map_key_upsert_of_mem (h : key x ∈ l.map key) :
    (upsert key x l).map key = l.map key := by
  induction l with
  | nil => simp at h
  | cons y ys ih =>
      by_cases hy : key y = key x
      · simp [upsert, hy]
      · have hmem : key x ∈ ys.map key := by
          rcases List.mem_cons.mp h with hk | hk
          · exact (hy hk.symm).elim
          · exact hk
        simp [upsert, hy, ih hmem]

theorem upsert_of_notMem (h : key x ∉ l.map key) : upsert key x l = l ++ [x] := by
  induction l with
  | nil => rfl
  | cons y ys ih =>
      simp only [List.map_cons, List.mem_cons, not_or] at h
      simp [upsert, Ne.symm h.1, ih h.2]

theorem upsert_ne_nil : upsert key x l ≠ [] := by
  cases l with
  | nil => simp [upsert]
  | cons y ys => by_cases hy : key y = key x <;> simp [upsert, hy]

theorem nodup_upsert (h : (l.map key).Nodup) : ((upsert key x l).map key).Nodup := by
  by_cases hx : key x ∈ l.map key
  · rwa [map_key_upsert_of_mem hx]
  · rw [upsert_of_notMem hx, List.map_append, List.nodup_append]
    refine ⟨h, by simp, ?_⟩
    intro a ha b hb hab
    have hb' : b = key x := by simpa using hb
    exact hx (hb' ▸ hab ▸ ha)

/-- With distinct keys, an upsert keeps exactly the elements with another
key and adds the new one. -/
theorem mem_upsert (h : (l.map key).Nodup) :
    y ∈ upsert key x l ↔ y = x ∨ (y ∈ l ∧ key y ≠ key x) := by
  induction l with
  | nil => simp [upsert]
  | cons z zs ih =>
      rw [List.map_cons, List.nodup_cons] at h
      by_cases hz : key z = key x
      · have hother : ∀ w ∈ zs, key w ≠ key x := fun w hw hk =>
          h.1 (hz ▸ hk ▸ List.mem_map_of_mem hw)
        simp only [upsert, hz, if_true, List.mem_cons]
        constructor
        · rintro (rfl | hy)
          · exact Or.inl rfl
          · exact Or.inr ⟨Or.inr hy, hother y hy⟩
        · rintro (rfl | ⟨rfl | hy, hk⟩)
          · exact Or.inl rfl
          · exact (hk hz).elim
          · exact Or.inr hy
      · simp only [upsert, hz, if_false, List.mem_cons, ih h.2]
        constructor
        · rintro (rfl | rfl | ⟨hy, hk⟩)
          · exact Or.inr ⟨Or.inl rfl, hz⟩
          · exact Or.inl rfl
          · exact Or.inr ⟨Or.inr hy, hk⟩
        · rintro (rfl | ⟨rfl | hy, hk⟩)
          · exact Or.inr (Or.inl rfl)
          · exact Or.inl rfl
          · exact Or.inr (Or.inr ⟨hy, hk⟩)

theorem map_updateFirst {β : Type*} {g : α → β} (hf : ∀ a, g (f a) = g a) :
    (updateFirst key k f l).map g = l.map g := by
  induction l with
  | nil => rfl
  | cons y ys ih =>
      by_cases hy : key y = k
      · simp [updateFirst, hy, hf]
      · simp [updateFirst, hy, ih]

theorem length_updateFirst : (updateFirst key k f l).length = l.length := by
  induction l with
  | nil => rfl
  | cons y ys ih =>
      by_cases hy : key y = k
      · simp [updateFirst, hy]
      · simp [updateFirst, hy, ih]

/-- Rewriting an element under its key. -/
theorem map_key_updateFirst (hf : ∀ a, key a = k → key (f a) = k) :
    (updateFirst key k f l).map key = l.map key := by
  induction l with
  | nil => rfl
  | cons y ys ih =>
      by_cases hy : key y = k
      · simp [updateFirst, hy, hf y hy]
      · simp [updateFirst, hy, ih]

/-- With distinct keys, removing the first element with a key removes the
key. -/
theorem map_eraseP_key (h : (l.map key).Nodup) :
    (l.eraseP fun a => decide (key a = k)).map key = (l.map key).erase k := by
  induction l with
  | nil => rfl
  | cons y ys ih =>
      rw [List.map_cons, List.nodup_cons] at h
      by_cases hy : key y = k
      · simp [hy]
      · have hne : (key y == k) = false := by simpa using hy
        rw [List.eraseP_cons_of_neg (by simpa using hy), List.map_cons, ih h.2, List.map_cons,
          List.erase_cons, hne]
        rfl

omit [DecidableEq κ] in
theorem nodup_map_filter {p : α → Bool} (h : (l.map key).Nodup) :
    ((l.filter p).map key).Nodup :=
  h.sublist (List.filter_sublist.map key)

/-! ### Looking up -/

variable (key) in
/-- The first element with the key. -/
def find (k : κ) (l : List α) : Option α := l.find? fun a => decide (key a = k)

variable {j : κ}

theorem key_of_find (h : find key k l = some x) : key x = k := by
  simpa using List.find?_some h

theorem mem_of_find (h : find key k l = some x) : x ∈ l := List.mem_of_find?_eq_some h

theorem find_eq_none : find key k l = none ↔ k ∉ l.map key := by
  simp [find, List.find?_eq_none]

theorem find_isSome : (find key k l).isSome = true ↔ k ∈ l.map key := by
  rw [Option.isSome_iff_ne_none, ne_eq, find_eq_none, not_not]

theorem find_append_singleton (hnew : key x ∉ l.map key) :
    find key j (l ++ [x]) = if j = key x then some x else find key j l := by
  unfold find
  rw [List.find?_append]
  split
  · rename_i hj
    subst hj
    have hnone : l.find? (fun a => decide (key a = key x)) = none := find_eq_none.mpr hnew
    simp [hnone]
  · rename_i hj
    simp [Ne.symm hj]

theorem find_updateFirst (hf : ∀ a, key a = k → key (f a) = k) :
    find key j (updateFirst key k f l) = if j = k then (find key j l).map f else find key j l := by
  induction l with
  | nil => simp [find, updateFirst]
  | cons y ys ih =>
      unfold find at ih ⊢
      by_cases hy : key y = k
      · by_cases hj : j = k
        · rw [updateFirst, if_pos hy, if_pos hj, hj]
          simp [hy, hf y hy]
        · have hfy : key (f y) ≠ j := fun h => hj (h.symm.trans (hf y hy))
          have hyj : key y ≠ j := fun h => hj (h.symm.trans hy)
          rw [updateFirst, if_pos hy, if_neg hj, List.find?_cons_of_neg (by simpa using hfy),
            List.find?_cons_of_neg (by simpa using hyj)]
      · rw [updateFirst, if_neg hy, List.find?_cons, List.find?_cons, ih]
        by_cases hyj : key y = j
        · have hj : j ≠ k := fun h => hy (hyj.trans h)
          simp [hyj, hj]
        · simp [hyj]

theorem find_eraseP (h : (l.map key).Nodup) :
    find key j (l.eraseP fun a => decide (key a = k)) = if j = k then none else find key j l := by
  induction l with
  | nil => simp [find]
  | cons y ys ih =>
      rw [List.map_cons, List.nodup_cons] at h
      have ih := ih h.2
      unfold find at ih ⊢
      by_cases hy : key y = k
      · rw [List.eraseP_cons_of_pos (by simpa using hy)]
        by_cases hj : j = k
        · rw [if_pos hj, hj]
          exact find_eq_none.mpr (hy ▸ h.1)
        · have hyj : key y ≠ j := fun heq => hj (heq.symm.trans hy)
          simp [hj, hyj]
      · rw [List.eraseP_cons_of_neg (by simpa using hy), List.find?_cons, List.find?_cons, ih]
        by_cases hyj : key y = j
        · have hj : j ≠ k := fun heq => hy (hyj.trans heq)
          simp [hyj, hj]
        · simp [hyj]

end KeyedList

/-! ## Sorting by a key -/

namespace KeyedList

variable {α κ : Type*} [LinearOrder κ] {key : α → κ}

theorem pairwise_orderedInsert {S : α → α → Prop} {a : α} {l : List α}
    (hl : l.Pairwise fun b c => key b ≤ key c) :
    (l.orderedInsert (fun b c => key b ≤ key c) a).Pairwise S ↔
      (∀ b ∈ l, (key a ≤ key b → S a b) ∧ (key b < key a → S b a)) ∧ l.Pairwise S := by
  induction l with
  | nil => simp
  | cons b l ih =>
      obtain ⟨hfirst, hrest⟩ := List.pairwise_cons.mp hl
      by_cases hab : key a ≤ key b
      · have hle : ∀ c ∈ b :: l, key a ≤ key c := by
          intro c hc
          rcases List.mem_cons.mp hc with rfl | hc
          · exact hab
          · exact hab.trans (hfirst c hc)
        rw [List.orderedInsert, if_pos hab, List.pairwise_cons]
        refine and_congr_left fun _ => forall₂_congr fun c hc => ?_
        simp [hle c hc]
      · rw [List.orderedInsert, if_neg hab, List.pairwise_cons, ih hrest]
        simp only [List.mem_orderedInsert, List.forall_mem_cons, forall_eq_or_imp,
          List.pairwise_cons, hab, not_le.mp hab]
        tauto

/-- A sort by a key is stable: it swaps two entries only when their keys are out of order. -/
theorem pairwise_insertionSort {S : α → α → Prop} {l : List α} :
    (l.insertionSort fun b c => key b ≤ key c).Pairwise S ↔
      l.Pairwise fun b c => (key b ≤ key c → S b c) ∧ (key c < key b → S c b) := by
  induction l with
  | nil => simp
  | cons a l ih =>
      have hsorted : (l.insertionSort fun b c => key b ≤ key c).Pairwise
          fun b c => key b ≤ key c := by
        have : Std.Total (fun b c : α => key b ≤ key c) := ⟨fun b c => le_total (key b) (key c)⟩
        have : IsTrans α (fun b c : α => key b ≤ key c) := ⟨fun _ _ _ => le_trans⟩
        exact List.pairwise_insertionSort _ l
      rw [List.insertionSort_cons, pairwise_orderedInsert hsorted, ih, List.pairwise_cons]
      simp [List.mem_insertionSort]

end KeyedList

/-- A finite map from keys to values of one type. -/
abbrev HashMap (κ : Type*) (α : Type*) := Finmap fun _ : κ => α

namespace HashMap

variable {κ α : Type*} [DecidableEq κ]

theorem lookup_insert_eq (m : HashMap κ α) (k j : κ) (v : α) :
    Finmap.lookup j (m.insert k v) = if j = k then some v else m.lookup j := by
  by_cases h : j = k
  · subst h
    simp
  · simp [h, Finmap.lookup_insert_of_ne m h]

theorem lookup_erase_eq (m : HashMap κ α) (k j : κ) :
    Finmap.lookup j (m.erase k) = if j = k then none else m.lookup j := by
  by_cases h : j = k
  · subst h
    simp
  · simp [h, Finmap.lookup_erase_ne h]

/-- A new key is taken back. -/
theorem erase_insert_of_notMem {m : HashMap κ α} {k : κ} (h : k ∉ m) (v : α) :
    (m.insert k v).erase k = m := by
  refine Finmap.ext_lookup fun j => ?_
  rw [lookup_erase_eq, lookup_insert_eq]
  by_cases hj : j = k
  · subst hj
    rw [if_pos rfl, Finmap.lookup_eq_none.mpr h]
  · rw [if_neg hj, if_neg hj]

theorem keys_insert (m : HashMap κ α) (k : κ) (v : α) :
    (m.insert k v).keys = Insert.insert k m.keys := by
  ext j
  simp [Finmap.mem_keys]

theorem keys_insert_of_mem {m : HashMap κ α} {k : κ} (h : k ∈ m) (v : α) :
    (m.insert k v).keys = m.keys := by
  rw [keys_insert, Finset.insert_eq_of_mem (Finmap.mem_keys.mpr h)]

omit [DecidableEq κ] in
theorem nodupKeys_filter {m : HashMap κ α} {p : (Σ _ : κ, α) → Prop} [DecidablePred p] :
    (m.entries.filter p).NodupKeys := by
  apply Multiset.nodup_keys.mp
  exact Multiset.nodup_of_le (Multiset.map_le_map (Multiset.filter_le p m.entries))
    m.nodupKeys.nodup_keys

/-- The entries whose key is kept. -/
def retain (m : HashMap κ α) (keep : κ → Prop) [DecidablePred keep] : HashMap κ α :=
  ⟨m.entries.filter fun e => keep e.1, nodupKeys_filter⟩

theorem lookup_retain (m : HashMap κ α) (keep : κ → Prop) [DecidablePred keep] (k : κ) :
    Finmap.lookup k (m.retain keep) = if keep k then m.lookup k else none := by
  apply Option.ext
  intro v
  have hmem : v ∈ Finmap.lookup k (m.retain keep) ↔ Sigma.mk k v ∈ m.entries ∧ keep k := by
    rw [Finmap.mem_lookup_iff, retain, Multiset.mem_filter]
  rw [← Option.mem_def, hmem, ← Finmap.mem_lookup_iff]
  by_cases hk : keep k
  · simp [hk]
  · simp [hk]

theorem mem_retain {m : HashMap κ α} {keep : κ → Prop} [DecidablePred keep] {k : κ} :
    k ∈ m.retain keep ↔ k ∈ m ∧ keep k := by
  rw [Finmap.mem_iff, Finmap.mem_iff]
  simp only [lookup_retain]
  by_cases hk : keep k
  · simp [hk]
  · simp [hk]

/-- `p` holds of every entry. -/
def Forall (p : κ → α → Prop) (m : HashMap κ α) : Prop := ∀ k v, m.lookup k = some v → p k v

theorem forall_empty {p : κ → α → Prop} : Forall p ∅ := by
  intro k v h
  simp at h

theorem Forall.insert {p : κ → α → Prop} {m : HashMap κ α} (h : Forall p m) {k : κ} {v : α}
    (hv : p k v) : Forall p (m.insert k v) := by
  intro j w hlook
  rw [lookup_insert_eq] at hlook
  split at hlook
  next heq =>
    rw [heq, ← Option.some.inj hlook]
    exact hv
  next => exact h j w hlook

theorem Forall.retain {p : κ → α → Prop} {m : HashMap κ α} (h : Forall p m) (keep : κ → Prop)
    [DecidablePred keep] : Forall p (retain m keep) := by
  intro k v hlook
  rw [lookup_retain] at hlook
  split at hlook
  · exact h k v hlook
  · cases hlook

section Ordered

variable [LinearOrder κ]

/-- The keys in ascending order, sorted by insertion, so that the list of
a small map evaluates. -/
def sortedKeys (m : HashMap κ α) : List κ :=
  Quot.liftOn m.keys.val (List.insertionSort (· ≤ ·)) fun l₁ l₂ (hperm : l₁.Perm l₂) =>
    (((List.perm_insertionSort (· ≤ ·) l₁).trans hperm).trans
      (List.perm_insertionSort (· ≤ ·) l₂).symm).eq_of_pairwise'
        (List.pairwise_insertionSort (· ≤ ·) l₁) (List.pairwise_insertionSort (· ≤ ·) l₂)

omit [DecidableEq κ] in
theorem mem_sortedKeys {m : HashMap κ α} {k : κ} : k ∈ sortedKeys m ↔ k ∈ m := by
  rw [← Finmap.mem_keys, ← Finset.mem_val, sortedKeys]
  induction m.keys.val using Quot.inductionOn with
  | h l => exact List.mem_insertionSort (· ≤ ·)

/-- The entries in the order of their keys. -/
def toList (m : HashMap κ α) : List (κ × α) :=
  (sortedKeys m).filterMap fun k => (m.lookup k).map fun v => (k, v)

theorem mem_toList {m : HashMap κ α} {k : κ} {v : α} :
    (k, v) ∈ toList m ↔ m.lookup k = some v := by
  simp only [toList, List.mem_filterMap, mem_sortedKeys, Option.map_eq_some_iff, Prod.mk.injEq]
  constructor
  · rintro ⟨j, -, w, hw, rfl, rfl⟩
    exact hw
  · intro hv
    exact ⟨k, Finmap.mem_of_lookup_eq_some hv, v, hv, rfl, rfl⟩

/-- The values in the order of their keys. -/
def values (m : HashMap κ α) : List α := (toList m).map Prod.snd

theorem mem_values {m : HashMap κ α} {v : α} : v ∈ values m ↔ ∃ k, m.lookup k = some v := by
  simp only [values, List.mem_map, Prod.exists, exists_eq_right, mem_toList]

omit [DecidableEq κ] in
theorem pairwise_sortedKeys (m : HashMap κ α) : (sortedKeys m).Pairwise (· < ·) := by
  rw [sortedKeys]
  have hnodup : m.keys.val.Nodup := m.keys.nodup
  revert hnodup
  induction m.keys.val using Quot.inductionOn with
  | h l =>
      intro hnodup
      have hsorted := List.pairwise_insertionSort (· ≤ ·) l
      have hdistinct := (List.perm_insertionSort (· ≤ ·) l).nodup_iff.mpr hnodup
      exact (hsorted.and hdistinct).imp fun ⟨hle, hne⟩ => lt_of_le_of_ne hle hne

theorem filterMap_values (m : HashMap κ α) {β : Type*} (g : α → Option β) :
    (values m).filterMap g = (sortedKeys m).filterMap fun k => (m.lookup k).bind g := by
  rw [values, toList, List.map_filterMap, List.filterMap_filterMap]
  refine List.filterMap_congr fun k _ => ?_
  cases m.lookup k <;> rfl

/-- A reading of the values in the order of their keys sees nothing but
what it picks from each. -/
theorem filterMap_values_congr {m m' : HashMap κ α} {β : Type*} {g : α → Option β}
    (h : ∀ k, (m.lookup k).bind g = (m'.lookup k).bind g) :
    (values m).filterMap g = (values m').filterMap g := by
  have hpicked (m : HashMap κ α) : (values m).filterMap g =
      ((sortedKeys m).filter fun k => ((m.lookup k).bind g).isSome).filterMap
        fun k => (m.lookup k).bind g := by
    rw [filterMap_values, List.filterMap_filter]
    refine List.filterMap_congr fun k _ => ?_
    cases (m.lookup k).bind g <;> rfl
  have hmem (m : HashMap κ α) (k : κ) : k ∈ ((sortedKeys m).filter fun k =>
      ((m.lookup k).bind g).isSome) ↔ ((m.lookup k).bind g).isSome = true := by
    rw [List.mem_filter, mem_sortedKeys, and_iff_right_iff_imp]
    intro hsome
    cases hlookup : m.lookup k with
    | none =>
        rw [hlookup] at hsome
        cases hsome
    | some v => exact Finmap.mem_of_lookup_eq_some hlookup
  have hsorted (m : HashMap κ α) : ((sortedKeys m).filter fun k =>
      ((m.lookup k).bind g).isSome).Pairwise (· < ·) := (pairwise_sortedKeys m).filter _
  have hsame : ((sortedKeys m).filter fun k => ((m.lookup k).bind g).isSome) =
      (sortedKeys m').filter fun k => ((m'.lookup k).bind g).isSome := by
    have hperm : ((sortedKeys m).filter fun k => ((m.lookup k).bind g).isSome).Perm
        ((sortedKeys m').filter fun k => ((m'.lookup k).bind g).isSome) := by
      refine (List.perm_ext_iff_of_nodup (hsorted m).nodup (hsorted m').nodup).mpr fun k => ?_
      rw [hmem, hmem, h]
    exact hperm.eq_of_pairwise' (hsorted m) (hsorted m')
  rw [hpicked m, hpicked m', hsame]
  exact List.filterMap_congr fun k _ => h k

end Ordered

theorem keys_eq_empty {m : HashMap κ α} : m.keys = ∅ ↔ m = ∅ := by
  constructor
  · intro h
    apply Finmap.ext_lookup
    intro k
    rw [Finmap.lookup_empty, Finmap.lookup_eq_none, ← Finmap.mem_keys, h]
    simp
  · rintro rfl
    exact Finmap.keys_empty

end HashMap
