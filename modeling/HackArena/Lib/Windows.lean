import Mathlib.Data.List.Infix

/-!
# The last items that fit

A window over a list that grows at its end keeps as many of the last items
as a condition allows. It is enough to drop items from its front after each
new one, if the condition holds of a list whenever it holds of a longer one.
-/

namespace Window

variable {α : Type*} (P : List α → Prop)

/-- The longest end of the list with the property. -/
structure Longest (kept items : List α) : Prop where
  suffix : kept <:+ items
  fits : P kept
  longest : ∀ other, other <:+ items → P other → other.length ≤ kept.length

/-- Drops items from the front until the rest has the property. -/
def shrink [DecidablePred P] : List α → List α
  | [] => []
  | x :: xs => if P (x :: xs) then x :: xs else shrink xs

variable {P} {kept items : List α}

theorem Longest.suffix_of_fits (h : Longest P kept items) {other : List α}
    (hother : other <:+ items) (hfits : P other) : other <:+ kept :=
  List.suffix_of_suffix_length_le hother h.suffix (h.longest other hother hfits)

variable [DecidablePred P]

theorem longest_shrink (hnil : P []) (items : List α) : Longest P (shrink P items) items := by
  induction items with
  | nil => exact ⟨List.suffix_rfl, hnil, fun other hother _ => hother.length_le⟩
  | cons x xs ih =>
      rw [shrink]
      by_cases hfits : P (x :: xs)
      · rw [if_pos hfits]
        exact ⟨List.suffix_rfl, hfits, fun other hother _ => hother.length_le⟩
      · rw [if_neg hfits]
        refine ⟨ih.suffix.trans (List.suffix_cons x xs), ih.fits, ?_⟩
        intro other hother hother_fits
        rcases List.suffix_cons_iff.mp hother with rfl | hshorter
        · exact absurd hother_fits hfits
        · exact ih.longest other hshorter hother_fits

/-- A new item is put at the end of the window. -/
theorem Longest.push (h : Longest P kept items) (hnil : P [])
    (hclosed : ∀ xs x, P (xs ++ [x]) → P xs) (x : α) :
    Longest P (shrink P (kept ++ [x])) (items ++ [x]) := by
  have hshrunk := longest_shrink hnil (kept ++ [x])
  refine ⟨hshrunk.suffix.trans (List.suffix_append_self_iff.mpr h.suffix), hshrunk.fits, ?_⟩
  intro other hother hfits
  refine hshrunk.longest other ?_ hfits
  rcases List.eq_nil_or_concat other with rfl | ⟨init, last, rfl⟩
  · exact List.nil_suffix
  · rw [List.concat_eq_append] at hother hfits ⊢
    obtain ⟨before, hbefore⟩ := hother
    rw [← List.append_assoc] at hbefore
    obtain ⟨hinit, hlast⟩ := List.append_inj' hbefore rfl
    rw [hlast]
    have hkept := h.suffix_of_fits ⟨before, hinit⟩ (hclosed init last hfits)
    exact List.suffix_append_self_iff.mpr hkept

end Window
