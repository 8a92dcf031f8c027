import Mathlib.Tactic

/-! The least and the greatest of some values. -/

namespace OpenRoad.Lib

variable {α β : Type} [LinearOrder α] [LinearOrder β]

structure Spans (values : List α) (lo hi : α) : Prop where
  low : lo ∈ values
  high : hi ∈ values
  within : ∀ a ∈ values, lo ≤ a ∧ a ≤ hi

variable {values : List α} {lo hi lo' hi' : α}

lemma Spans.unique (spans : Spans values lo hi) (spans' : Spans values lo' hi') :
    lo = lo' ∧ hi = hi' :=
  ⟨le_antisymm (spans.within lo' spans'.low).1 (spans'.within lo spans.low).1,
    le_antisymm (spans'.within hi spans.high).2 (spans.within hi' spans'.high).2⟩

lemma spans_congr {others : List α} (same : ∀ a, a ∈ values ↔ a ∈ others) :
    Spans values lo hi ↔ Spans others lo hi := by
  constructor
  · intro spans
    exact ⟨(same lo).mp spans.low, (same hi).mp spans.high,
      fun a member => spans.within a ((same a).mpr member)⟩
  · intro spans
    exact ⟨(same lo).mpr spans.low, (same hi).mpr spans.high,
      fun a member => spans.within a ((same a).mp member)⟩

lemma spans_two {a b : α} (le : a ≤ b) (two : ∀ c, c ∈ values ↔ c = a ∨ c = b) :
    Spans values a b := by
  refine ⟨(two a).mpr (.inl rfl), (two b).mpr (.inr rfl), ?_⟩
  intro c member
  rcases (two c).mp member with rfl | rfl
  · exact ⟨le_rfl, le⟩
  · exact ⟨le, le_rfl⟩

lemma Spans.ne_nil (spans : Spans values lo hi) : values ≠ [] :=
  List.ne_nil_of_mem spans.low

end OpenRoad.Lib
