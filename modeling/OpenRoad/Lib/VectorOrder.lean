import Mathlib.Tactic

/-! Comparisons of vectors: in every place, and in the first place that differs. -/

namespace OpenRoad.Lib.VectorOrder

variable {ι α : Type} [LinearOrder α] {a b : ι → α}

def Below (a b : ι → α) : Prop := ∀ i, a i < b i

instance [Fintype ι] : DecidableRel (@Below ι α _) := fun a b =>
  inferInstanceAs (Decidable (∀ i, a i < b i))

lemma not_below_iff : ¬ Below a b ↔ ∃ i, b i ≤ a i := by
  simp only [Below, not_forall, not_lt]

variable [LinearOrder ι]

def FirstBelow (a b : ι → α) : Prop := ∃ i, (∀ j, j < i → a j = b j) ∧ a i < b i

instance [Fintype ι] : DecidableRel (@FirstBelow ι α _ _) := fun a b =>
  inferInstanceAs (Decidable (∃ i, (∀ j, j < i → a j = b j) ∧ a i < b i))

def FirstDecides (a b : ι → α) : Prop :=
  ∀ i, (∀ j, j < i → a j = b j) → a i < b i → ∀ j, i < j → a j ≤ b j

lemma firstDecides_of_le (le : ∀ i, a i ≤ b i) : FirstDecides a b := fun _ _ _ j _ => le j

lemma firstBelow_total [WellFoundedLT ι] (a b : ι → α) :
    a = b ∨ FirstBelow a b ∨ FirstBelow b a := by
  by_cases same : a = b
  · exact .inl same
  · have some : {i | a i ≠ b i}.Nonempty := Function.ne_iff.mp same
    rcases wellFounded_lt.has_min {i | a i ≠ b i} some with ⟨i, differ, first⟩
    have before : ∀ j, j < i → a j = b j := by
      intro j less
      by_contra earlier
      exact first j earlier less
    rcases lt_or_gt_of_ne differ with below | above
    · exact .inr (.inl ⟨i, before, below⟩)
    · exact .inr (.inr ⟨i, fun j less => (before j less).symm, above⟩)

lemma FirstDecides.le_of_firstBelow (decides : FirstDecides a b) (below : FirstBelow a b)
    (i : ι) : a i ≤ b i := by
  rcases below with ⟨first, before, below⟩
  rcases lt_trichotomy i first with earlier | here | later
  · exact (before i earlier).le
  · rw [here]
    exact below.le
  · exact decides first before below i later

lemma FirstDecides.le [WellFoundedLT ι] (decides : FirstDecides a b)
    (kept : ¬ FirstBelow b a) (i : ι) : a i ≤ b i := by
  rcases firstBelow_total a b with same | below | above
  · rw [same]
  · exact decides.le_of_firstBelow below i
  · exact absurd above kept

end OpenRoad.Lib.VectorOrder
