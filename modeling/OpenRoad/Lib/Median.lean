import Mathlib.Algebra.Order.BigOperators.Group.List
import Mathlib.Algebra.Order.Group.Abs
import Mathlib.Data.List.Sort
import Mathlib.Tactic.Abel

/-! The sum of the distances to an even number of points is least between the two middle ones. -/

namespace OpenRoad.Lib

open List

variable {G : Type} [AddCommGroup G] [LinearOrder G]

/-- The sum of the distances from `x` to the points. -/
def spread (points : List G) (x : G) : G := (points.map fun point => |x - point|).sum

@[simp] lemma spread_nil (x : G) : spread [] x = 0 := rfl

@[simp] lemma spread_cons (point : G) (points : List G) (x : G) :
    spread (point :: points) x = |x - point| + spread points x := rfl

lemma spread_append (front back : List G) (x : G) :
    spread (front ++ back) x = spread front x + spread back x := by
  simp only [spread, map_append, sum_append]

lemma spread_perm {points points' : List G} (perm : points.Perm points') (x : G) :
    spread points x = spread points' x :=
  (perm.map _).sum_eq

variable [IsOrderedAddMonoid G]

lemma le_spread_lower (points : List G) (x : G) :
    points.length • x - points.sum ≤ spread points x := by
  induction points with
  | nil => simp
  | cons point points ih =>
    have step : (point :: points).length • x - (point :: points).sum =
        (x - point) + (points.length • x - points.sum) := by
      simp only [length_cons, sum_cons, add_nsmul, one_nsmul]
      abel
    rw [step, spread_cons]
    exact add_le_add (le_abs_self _) ih

lemma le_spread_upper (points : List G) (x : G) :
    points.sum - points.length • x ≤ spread points x := by
  induction points with
  | nil => simp
  | cons point points ih =>
    have step : (point :: points).sum - (point :: points).length • x =
        -(x - point) + (points.sum - points.length • x) := by
      simp only [length_cons, sum_cons, add_nsmul, one_nsmul]
      abel
    rw [step, spread_cons]
    exact add_le_add (neg_le_abs _) ih

lemma spread_of_lower {points : List G} {x : G} (below : ∀ point ∈ points, point ≤ x) :
    spread points x = points.length • x - points.sum := by
  induction points with
  | nil => simp
  | cons point points ih =>
    have first := below point mem_cons_self
    rw [spread_cons, ih fun other member => below other (mem_cons_of_mem point member),
      abs_of_nonneg (sub_nonneg.mpr first)]
    simp only [length_cons, sum_cons, add_nsmul, one_nsmul]
    abel

lemma spread_of_upper {points : List G} {x : G} (above : ∀ point ∈ points, x ≤ point) :
    spread points x = points.sum - points.length • x := by
  induction points with
  | nil => simp
  | cons point points ih =>
    have first := above point mem_cons_self
    rw [spread_cons, ih fun other member => above other (mem_cons_of_mem point member),
      abs_of_nonpos (sub_nonpos.mpr first)]
    simp only [length_cons, sum_cons, add_nsmul, one_nsmul]
    abel

lemma spread_le_of_halves {lower upper : List G} {x : G} (same : lower.length = upper.length)
    (below : ∀ point ∈ lower, point ≤ x) (above : ∀ point ∈ upper, x ≤ point) (y : G) :
    spread (lower ++ upper) x ≤ spread (lower ++ upper) y := by
  calc spread (lower ++ upper) x
      = (lower.length • x - lower.sum) + (upper.sum - upper.length • x) := by
        rw [spread_append, spread_of_lower below, spread_of_upper above]
    _ = (lower.length • y - lower.sum) + (upper.sum - upper.length • y) := by
        rw [same]
        abel
    _ ≤ spread lower y + spread upper y := add_le_add (le_spread_lower _ _) (le_spread_upper _ _)
    _ = spread (lower ++ upper) y := (spread_append _ _ _).symm

lemma spread_le_of_middle {points : List G} {half : Nat} {x low high : G}
    (sorted : points.Pairwise (· ≤ ·)) (even : points.length = half + half)
    (isLow : points[half - 1]? = some low) (isHigh : points[half]? = some high)
    (above : low ≤ x) (below : x ≤ high) (y : G) : spread points x ≤ spread points y := by
  have halves : points.take half ++ points.drop half = points := take_append_drop _ _
  rw [← halves]
  apply spread_le_of_halves
  · rw [length_take, length_drop, even]
    omega
  · intro point member
    rcases mem_iff_getElem?.mp member with ⟨i, found⟩
    have inHalf : i < half := by
      by_contra beyond
      rw [getElem?_take_eq_none (not_lt.mp beyond)] at found
      cases found
    rw [getElem?_take_of_lt inHalf] at found
    have ordered : point ≤ low := by
      rcases Nat.lt_or_ge i (half - 1) with early | last
      · rw [pairwise_iff_getElem] at sorted
        rcases List.getElem?_eq_some_iff.mp found with ⟨bound, rfl⟩
        rcases List.getElem?_eq_some_iff.mp isLow with ⟨bound', rfl⟩
        exact sorted i (half - 1) bound bound' early
      · have same : i = half - 1 := by omega
        rw [same, isLow] at found
        exact (Option.some.inj found).symm.le
    exact ordered.trans above
  · intro point member
    rcases mem_iff_getElem?.mp member with ⟨i, found⟩
    rw [getElem?_drop] at found
    have ordered : high ≤ point := by
      rcases Nat.eq_zero_or_pos i with first | later
      · rw [first, Nat.add_zero, isHigh] at found
        exact (Option.some.inj found).le
      · rw [pairwise_iff_getElem] at sorted
        rcases List.getElem?_eq_some_iff.mp found with ⟨bound, rfl⟩
        rcases List.getElem?_eq_some_iff.mp isHigh with ⟨bound', rfl⟩
        exact sorted half (half + i) bound' bound (by omega)
    exact below.trans ordered

end OpenRoad.Lib
