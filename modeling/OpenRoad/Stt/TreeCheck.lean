import OpenRoad.Odb.Transform

/-! `SteinerTreeBuilder::checkTree` and the crossings of a tree. -/

namespace OpenRoad.Stt

open OpenRoad.Odb (Point Rect)

def rectAreaZero (rect : Rect) : Bool := rect.xlo = rect.xhi && rect.ylo = rect.yhi

def isCorner (rect : Rect) (x y : Int) : Bool :=
  (rect.xlo = x && rect.ylo = y) || (rect.xlo = x && rect.yhi = y) ||
    (rect.xhi = x && rect.ylo = y) || (rect.xhi = x && rect.yhi = y)

def shareCorner (rect1 rect2 : Rect) : Bool :=
  isCorner rect1 rect2.xlo rect2.ylo || isCorner rect1 rect2.xlo rect2.yhi ||
    isCorner rect1 rect2.xhi rect2.ylo || isCorner rect1 rect2.xhi rect2.yhi

def intersects (rect r : Rect) : Bool :=
  r.xhi ≥ rect.xlo && r.xlo ≤ rect.xhi && r.yhi ≥ rect.ylo && r.ylo ≤ rect.yhi

structure Branch where
  x : Int
  y : Int
  n : Nat

/-- The edge of a branch goes to its neighbour `n`. -/
structure Tree where
  deg : Int
  branch : List Branch
  linked : ∀ b ∈ branch, b.n < branch.length

namespace Tree

variable (tree : Tree)

abbrev Node := Fin tree.branch.length

def point (i : tree.Node) : Point := ⟨(tree.branch.get i).x, (tree.branch.get i).y⟩

def neighbor (i : tree.Node) : tree.Node :=
  ⟨(tree.branch.get i).n, tree.linked _ (List.get_mem _ i)⟩

def rect (i : tree.Node) : Rect :=
  Rect.init (tree.point i).x (tree.point i).y (tree.point (tree.neighbor i)).x
    (tree.point (tree.neighbor i)).y

def checkFails (i j : tree.Node) : Bool :=
  !rectAreaZero (tree.rect i) && !rectAreaZero (tree.rect j) &&
    intersects (tree.rect i) (tree.rect j) && !shareCorner (tree.rect i) (tree.rect j)

def checkTree : Bool :=
  tree.deg > 100 || (List.finRange _).all fun i => (List.finRange _).all fun j =>
    !(i < j && tree.checkFails i j)

def Merged : tree.Node → tree.Node → Prop :=
  Relation.EqvGen fun i j => j = tree.neighbor i ∧ tree.point i = tree.point j

def SharesNode (i j : tree.Node) : Prop :=
  ∃ a ∈ [i, tree.neighbor i], ∃ b ∈ [j, tree.neighbor j], tree.Merged a b

def Nonzero (i : tree.Node) : Prop := rectAreaZero (tree.rect i) = false

def Crosses (i j : tree.Node) : Prop :=
  tree.Nonzero i ∧ tree.Nonzero j ∧ ¬ tree.SharesNode i j ∧
    intersects (tree.rect i) (tree.rect j) = true

lemma isCorner_iff (r : Rect) (x y : Int) :
    isCorner r x y = true ↔ (x = r.xlo ∨ x = r.xhi) ∧ (y = r.ylo ∨ y = r.yhi) := by
  simp only [isCorner, Bool.or_eq_true, Bool.and_eq_true, decide_eq_true_eq]
  grind

lemma shareCorner_iff (r s : Rect) :
    shareCorner r s = true ↔ ∃ x y, isCorner r x y = true ∧ isCorner s x y = true := by
  simp only [shareCorner, Bool.or_eq_true, isCorner_iff s]
  constructor
  · rintro (((corner | corner) | corner) | corner)
    · exact ⟨_, _, corner, .inl rfl, .inl rfl⟩
    · exact ⟨_, _, corner, .inl rfl, .inr rfl⟩
    · exact ⟨_, _, corner, .inr rfl, .inl rfl⟩
    · exact ⟨_, _, corner, .inr rfl, .inr rfl⟩
  · rintro ⟨x, y, corner, rfl | rfl, rfl | rfl⟩ <;> simp [corner]

variable {tree} {i j : tree.Node}

lemma end_isCorner {a : tree.Node} (isEnd : a ∈ [i, tree.neighbor i]) :
    isCorner (tree.rect i) (tree.point a).x (tree.point a).y = true := by
  simp only [isCorner_iff, rect, Rect.init]
  simp only [List.mem_cons, List.not_mem_nil, or_false] at isEnd
  obtain rfl | rfl := isEnd
  · omega
  · omega

lemma merged_point {a b : tree.Node} (merged : tree.Merged a b) : tree.point a = tree.point b := by
  induction merged with
  | rel _ _ zero => exact zero.2
  | refl => rfl
  | symm _ _ _ ih => exact ih.symm
  | trans _ _ _ _ _ first second => exact first.trans second

lemma shareCorner_of_sharesNode (shares : tree.SharesNode i j) :
    shareCorner (tree.rect i) (tree.rect j) = true := by
  obtain ⟨a, isEnd, b, isOther, merged⟩ := shares
  have same := end_isCorner isOther
  rw [← merged_point merged] at same
  exact (shareCorner_iff _ _).mpr ⟨_, _, end_isCorner isEnd, same⟩

lemma rect_upright (i : tree.Node) :
    (tree.rect i).xlo ≤ (tree.rect i).xhi ∧ (tree.rect i).ylo ≤ (tree.rect i).yhi :=
  ⟨min_le_max, min_le_max⟩

lemma intersects_of_shareCorner (corner : shareCorner (tree.rect i) (tree.rect j) = true) :
    intersects (tree.rect i) (tree.rect j) = true := by
  obtain ⟨x, y, first, second⟩ := (shareCorner_iff _ _).mp corner
  rw [isCorner_iff] at first second
  obtain ⟨wideI, highI⟩ := rect_upright i
  obtain ⟨wideJ, highJ⟩ := rect_upright j
  simp only [intersects, Bool.and_eq_true, decide_eq_true_eq]
  omega

lemma checkTree_iff (low : tree.deg ≤ 100) :
    tree.checkTree = true ↔ ∀ i j, i < j → tree.checkFails i j = false := by
  simp only [checkTree, low.not_gt, decide_false, Bool.false_or, List.all_eq_true,
    List.mem_finRange, true_implies, Bool.not_eq_true', Bool.and_eq_false_imp, decide_eq_true_eq]

lemma checkFails_iff : tree.checkFails i j = true ↔ tree.Nonzero i ∧ tree.Nonzero j ∧
    intersects (tree.rect i) (tree.rect j) = true ∧
    shareCorner (tree.rect i) (tree.rect j) = false := by
  simp [checkFails, Nonzero, and_assoc]

lemma crosses_of_checkFails (fails : tree.checkFails i j = true) : tree.Crosses i j := by
  obtain ⟨first, second, meet, noCorner⟩ := checkFails_iff.mp fails
  refine ⟨first, second, ?_, meet⟩
  intro shares
  rw [shareCorner_of_sharesNode shares] at noCorner
  contradiction

theorem tree_check_iff (tree : Tree) (low : tree.deg ≤ 100) :
    (tree.checkTree = true ↔ ∀ i j, i < j → ¬ tree.Crosses i j) ↔
      (∀ i j, i < j → tree.Nonzero i → tree.Nonzero j →
        shareCorner (tree.rect i) (tree.rect j) = true → tree.SharesNode i j) ∨
      ∃ i j, i < j ∧ tree.Nonzero i ∧ tree.Nonzero j ∧
        intersects (tree.rect i) (tree.rect j) = true ∧
        shareCorner (tree.rect i) (tree.rect j) = false := by
  simp only [← checkFails_iff]
  rw [checkTree_iff low]
  by_cases accepted : ∀ i j, i < j → tree.checkFails i j = false
  · have noFail : ¬ ∃ i j, i < j ∧ tree.checkFails i j = true := by
      rintro ⟨i, j, below, fails⟩
      simp [accepted i j below] at fails
    rw [iff_true_left accepted, or_iff_left noFail]
    constructor
    · intro clear i j below first second corner
      by_contra apart
      exact clear i j below ⟨first, second, apart, intersects_of_shareCorner corner⟩
    · intro joined i j below crossing
      obtain ⟨first, second, apart, meet⟩ := crossing
      apply apart (joined i j below first second _)
      by_contra noCorner
      exact noFail ⟨i, j, below, checkFails_iff.mpr ⟨first, second, meet, by simpa using noCorner⟩⟩
  · simp only [not_forall, Bool.not_eq_false] at accepted
    obtain ⟨i, j, below, fails⟩ := accepted
    apply iff_of_true
    · apply iff_of_false
      · intro all
        simp [all i j below] at fails
      · intro clear
        exact clear i j below (crosses_of_checkFails fails)
    · exact .inr ⟨i, j, below, fails⟩

/-- Three edges in a row around two bends. -/
def bentTree : Tree := ⟨4, [⟨0, 0, 1⟩, ⟨4, 0, 1⟩, ⟨4, 4, 1⟩, ⟨9, 9, 2⟩], by decide⟩

lemma bentTree_joined : ∀ i j : bentTree.Node, i < j → rectAreaZero (bentTree.rect i) = false →
    rectAreaZero (bentTree.rect j) = false →
    shareCorner (bentTree.rect i) (bentTree.rect j) = true →
    ∃ a ∈ [i, bentTree.neighbor i], a ∈ [j, bentTree.neighbor j] := by decide

theorem tree_check_sample : bentTree.checkTree = true ↔
    ∀ i j, i < j → ¬ bentTree.Crosses i j := by
  apply (tree_check_iff bentTree (by decide)).mpr
  left
  intro i j below first second corner
  obtain ⟨a, isEnd, isOther⟩ := bentTree_joined i j below first second corner
  exact ⟨a, isEnd, a, isOther, .refl a⟩

def cornerTree : Tree := ⟨4, [⟨0, 0, 0⟩, ⟨2, 2, 0⟩, ⟨2, 0, 1⟩, ⟨4, -2, 2⟩], by decide⟩

theorem crossing_accepted : cornerTree.checkTree = true ∧
    ¬ ∀ i j, i < j → ¬ cornerTree.Crosses i j := by
  refine ⟨by decide, ?_⟩
  intro clear
  have apart : ∀ a ∈ [⟨1, by decide⟩, cornerTree.neighbor ⟨1, by decide⟩],
      ∀ b ∈ [⟨3, by decide⟩, cornerTree.neighbor ⟨3, by decide⟩],
      cornerTree.point a ≠ cornerTree.point b := by decide
  apply clear ⟨1, by decide⟩ ⟨3, by decide⟩ (by decide)
  refine ⟨rfl, rfl, ?_, rfl⟩
  rintro ⟨a, isEnd, b, isOther, merged⟩
  exact apart a isEnd b isOther (merged_point merged)

end Tree

end OpenRoad.Stt
