import OpenRoad.Viewer.SpatialIndex

/-! The planes of the frustum from the view and the projection matrix, and what the test of a box
against them says of the points of the box. -/

namespace OpenRoad.Viewer

open List

section Planes

variable {K : Type} [Field K] [LinearOrder K]

/-- Element `(row, col)` is at `col * 4 + row`. -/
abbrev Matrix16 (K : Type) := Fin 16 → K

def at16 (row col : Fin 4) : Fin 16 := ⟨col.val * 4 + row.val, by omega⟩

/-- The product of `OsgScene::updateFrustum`. -/
def viewProjection (viewMatrix projectionMatrix : Matrix16 K) : Matrix16 K := fun i =>
  ∑ k : Fin 4, projectionMatrix (at16 ⟨i.val % 4, by omega⟩ k) *
    viewMatrix (at16 k ⟨i.val / 4, by omega⟩)

/-- A plane is left as it is unless its normal has some length; `sqrt` is that of the library. -/
def Plane.normalize (sqrt : K → K) (plane : Plane K) : Plane K :=
  let len := sqrt (plane.nx * plane.nx + plane.ny * plane.ny + plane.nz * plane.nz)
  if len > 1 / 1000000 then
    ⟨plane.nx / len, plane.ny / len, plane.nz / len, plane.offset / len⟩
  else plane

/-- Left, right, bottom, top, near and far. -/
def extractPlanes (matrix : Matrix16 K) : List (Plane K) :=
  [⟨matrix 3 + matrix 0, matrix 7 + matrix 4, matrix 11 + matrix 8, matrix 15 + matrix 12⟩,
    ⟨matrix 3 - matrix 0, matrix 7 - matrix 4, matrix 11 - matrix 8, matrix 15 - matrix 12⟩,
    ⟨matrix 3 + matrix 1, matrix 7 + matrix 5, matrix 11 + matrix 9, matrix 15 + matrix 13⟩,
    ⟨matrix 3 - matrix 1, matrix 7 - matrix 5, matrix 11 - matrix 9, matrix 15 - matrix 13⟩,
    ⟨matrix 3 + matrix 2, matrix 7 + matrix 6, matrix 11 + matrix 10, matrix 15 + matrix 14⟩,
    ⟨matrix 3 - matrix 2, matrix 7 - matrix 6, matrix 11 - matrix 10, matrix 15 - matrix 14⟩]

def setFromMatrix (sqrt : K → K) (matrix : Matrix16 K) : Frustum K where
  planes := (extractPlanes matrix).map (Plane.normalize sqrt)
  six := by rw [length_map]; rfl

end Planes

section Clip

variable {K : Type} [Field K]

def toMatrix (matrix : Matrix16 K) : Matrix (Fin 4) (Fin 4) K :=
  Matrix.of fun row col => matrix (at16 row col)

variable (viewMatrix projectionMatrix : Matrix16 K)

lemma toMatrix_viewProjection :
    toMatrix (viewProjection viewMatrix projectionMatrix) =
      toMatrix projectionMatrix * toMatrix viewMatrix := by
  have row : ∀ row col : Fin 4, (at16 row col).val % 4 = row.val := by decide
  have col : ∀ row col : Fin 4, (at16 row col).val / 4 = col.val := by decide
  apply Matrix.ext
  intro i j
  simp only [toMatrix, viewProjection, Matrix.mul_apply, Matrix.of_apply, row, col, Fin.eta]

def transformed (matrix : Matrix16 K) (p : Vec3 K) : Fin 4 → K :=
  (toMatrix matrix).mulVec ![p.x, p.y, p.z, 1]

lemma transformed_row (matrix : Matrix16 K) (p : Vec3 K) (row : Fin 4) :
    transformed matrix p row =
      matrix (at16 row 0) * p.x + matrix (at16 row 1) * p.y + matrix (at16 row 2) * p.z +
        matrix (at16 row 3) := by
  simp [transformed, Matrix.mulVec, dotProduct, toMatrix, Fin.sum_univ_four]

def Plane.value (plane : Plane K) (p : Vec3 K) : K :=
  plane.nx * p.x + plane.ny * p.y + plane.nz * p.z + plane.offset

lemma extractPlanes_value (matrix : Matrix16 K) (p : Vec3 K) :
    (extractPlanes matrix).map (fun plane => plane.value p) =
      [transformed matrix p 3 + transformed matrix p 0,
        transformed matrix p 3 - transformed matrix p 0,
        transformed matrix p 3 + transformed matrix p 1,
        transformed matrix p 3 - transformed matrix p 1,
        transformed matrix p 3 + transformed matrix p 2,
        transformed matrix p 3 - transformed matrix p 2] := by
  simp only [extractPlanes, map_cons, map_nil, Plane.value, transformed_row, at16,
    List.cons.injEq, and_true]
  refine ⟨?_, ?_, ?_, ?_, ?_, ?_⟩ <;> · simp; ring

def clipCoordinates (viewMatrix projectionMatrix : Matrix16 K) (p : Vec3 K) : Fin 4 → K :=
  (toMatrix projectionMatrix * toMatrix viewMatrix).mulVec ![p.x, p.y, p.z, 1]

lemma transformed_viewProjection (p : Vec3 K) :
    transformed (viewProjection viewMatrix projectionMatrix) p =
      clipCoordinates viewMatrix projectionMatrix p := by
  rw [transformed, clipCoordinates, toMatrix_viewProjection]

variable [LinearOrder K] [IsStrictOrderedRing K]

def InClip (viewMatrix projectionMatrix : Matrix16 K) (p : Vec3 K) : Prop :=
  let clip := clipCoordinates viewMatrix projectionMatrix p
  (-clip 3 ≤ clip 0 ∧ clip 0 ≤ clip 3) ∧ (-clip 3 ≤ clip 1 ∧ clip 1 ≤ clip 3) ∧
    (-clip 3 ≤ clip 2 ∧ clip 2 ≤ clip 3)

lemma inClip_iff (p : Vec3 K) :
    InClip viewMatrix projectionMatrix p ↔
      ∀ plane ∈ extractPlanes (viewProjection viewMatrix projectionMatrix), 0 ≤ plane.value p := by
  have bound : ∀ w c : K, -w ≤ c ∧ c ≤ w ↔ 0 ≤ w + c ∧ 0 ≤ w - c := by
    intro w c
    rw [sub_nonneg, neg_le_iff_add_nonneg']
  have values := extractPlanes_value (viewProjection viewMatrix projectionMatrix) p
  calc InClip viewMatrix projectionMatrix p
    _ ↔ ∀ value ∈ (extractPlanes (viewProjection viewMatrix projectionMatrix)).map
        fun plane => plane.value p, 0 ≤ value := by
      rw [values, transformed_viewProjection]
      simp only [InClip, bound, forall_mem_cons, not_mem_nil, false_implies,
        implies_true, and_true, and_assoc]
    _ ↔ _ := forall_mem_map

end Clip

section Boxes

variable {K : Type} [Field K] [LinearOrder K]

def AABB.Contains (box : AABB K) (p : Vec3 K) : Prop :=
  (box.min.x ≤ p.x ∧ p.x ≤ box.max.x) ∧ (box.min.y ≤ p.y ∧ p.y ≤ box.max.y) ∧
    (box.min.z ≤ p.z ∧ p.z ≤ box.max.z)

def Plane.dist (plane : Plane K) (box : AABB K) : K := plane.value box.center

def Plane.radius (plane : Plane K) (box : AABB K) : K :=
  |plane.nx * box.halfExtent.x| + |plane.ny * box.halfExtent.y| + |plane.nz * box.halfExtent.z|

lemma testPlanes_cons (box : AABB K) (plane : Plane K) (planes : List (Plane K))
    (allInside : Bool) :
    testPlanes box.center box.halfExtent (plane :: planes) allInside =
      if plane.dist box < -plane.radius box then .Outside
      else testPlanes box.center box.halfExtent planes
        (if plane.dist box < plane.radius box then false else allInside) := rfl

lemma testPlanes_outside {box : AABB K} {planes : List (Plane K)} {allInside : Bool}
    (outside : testPlanes box.center box.halfExtent planes allInside = .Outside) :
    ∃ plane ∈ planes, plane.dist box < -plane.radius box := by
  induction planes generalizing allInside with
  | nil => cases allInside <;> cases outside
  | cons plane planes ih =>
    rw [testPlanes_cons] at outside
    split at outside
    · rename_i beyond
      exact ⟨plane, mem_cons_self, beyond⟩
    · rcases ih outside with ⟨later, member, beyond⟩
      exact ⟨later, mem_cons_of_mem _ member, beyond⟩

lemma testPlanes_inside {box : AABB K} {planes : List (Plane K)} {allInside : Bool}
    (inside : testPlanes box.center box.halfExtent planes allInside = .Inside) :
    allInside = true ∧ ∀ plane ∈ planes, plane.radius box ≤ plane.dist box := by
  induction planes generalizing allInside with
  | nil =>
    cases allInside with
    | false => cases inside
    | true => exact ⟨rfl, nofun⟩
  | cons plane planes ih =>
    rw [testPlanes_cons] at inside
    split at inside
    · cases inside
    · rcases ih inside with ⟨kept, later⟩
      split at kept
      · cases kept
      · rename_i notCrossed
        exact ⟨kept, forall_mem_cons.mpr ⟨not_lt.mp notCrossed, later⟩⟩

variable [IsStrictOrderedRing K]

lemma abs_mul_sub_middle_le (n : K) {low high x : K} (above : low ≤ x) (below : x ≤ high) :
    |n * (x - (low + high) / 2)| ≤ |n * ((high - low) / 2)| := by
  rw [abs_mul, abs_mul]
  apply mul_le_mul_of_nonneg_left _ (abs_nonneg n)
  have width : 0 ≤ (high - low) / 2 := by linarith
  rw [abs_of_nonneg width, abs_le]
  constructor
  · linarith
  · linarith

lemma Plane.abs_value_sub_dist_le (plane : Plane K) {box : AABB K} {p : Vec3 K}
    (inside : box.Contains p) : |plane.value p - plane.dist box| ≤ plane.radius box := by
  rcases inside with ⟨⟨lowX, highX⟩, ⟨lowY, highY⟩, lowZ, highZ⟩
  have difference : plane.value p - plane.dist box =
      plane.nx * (p.x - box.center.x) + plane.ny * (p.y - box.center.y) +
        plane.nz * (p.z - box.center.z) := by
    rw [dist, value, value]
    ring
  have xs := abs_mul_sub_middle_le plane.nx lowX highX
  have ys := abs_mul_sub_middle_le plane.ny lowY highY
  have zs := abs_mul_sub_middle_le plane.nz lowZ highZ
  calc |plane.value p - plane.dist box|
    _ ≤ |plane.nx * (p.x - box.center.x)| + |plane.ny * (p.y - box.center.y)| +
        |plane.nz * (p.z - box.center.z)| := by
      rw [difference]
      exact abs_add_three _ _ _
    _ ≤ plane.radius box := add_le_add (add_le_add xs ys) zs

variable {frustum : Frustum K} {box : AABB K} {p : Vec3 K}

lemma testBox_outside (outside : frustum.testBox box = .Outside) (inside : box.Contains p) :
    ∃ plane ∈ frustum.planes, plane.value p < 0 := by
  rcases testPlanes_outside outside with ⟨plane, member, beyond⟩
  have near := (abs_le.mp (plane.abs_value_sub_dist_le inside)).2
  exact ⟨plane, member, by linarith⟩

lemma testBox_inside (within : frustum.testBox box = .Inside) (inside : box.Contains p) :
    ∀ plane ∈ frustum.planes, 0 ≤ plane.value p := by
  intro plane member
  have far := (testPlanes_inside within).2 plane member
  have near := (abs_le.mp (plane.abs_value_sub_dist_le inside)).1
  linarith

lemma value_normalize_nonneg (sqrt : K → K) (plane : Plane K) (p : Vec3 K) :
    0 ≤ (plane.normalize sqrt).value p ↔ 0 ≤ plane.value p := by
  rw [Plane.normalize]
  generalize sqrt _ = len
  split
  · rename_i long
    have positive : 0 < len := lt_trans (by norm_num) long
    have scaled : Plane.value ⟨plane.nx / len, plane.ny / len, plane.nz / len,
        plane.offset / len⟩ p = plane.value p / len := by
      rw [Plane.value, Plane.value]
      ring
    rw [scaled, div_nonneg_iff]
    simp [positive.le, positive.not_ge]
  · rfl

lemma setFromMatrix_nonneg (sqrt : K → K) (matrix : Matrix16 K) (p : Vec3 K) :
    (∀ plane ∈ (setFromMatrix sqrt matrix).planes, 0 ≤ plane.value p) ↔
      ∀ plane ∈ extractPlanes matrix, 0 ≤ plane.value p := by
  simp only [setFromMatrix, forall_mem_map, value_normalize_nonneg]

end Boxes

/-- The box lies outside or inside the view volume when the test says so. -/
theorem frustum_classification_sound (viewMatrix projectionMatrix : Matrix16 ℝ) (box : AABB ℝ) :
    let frustum := setFromMatrix Real.sqrt (viewProjection viewMatrix projectionMatrix)
    (frustum.testBox box = .Outside →
        ∀ p, box.Contains p → ¬ InClip viewMatrix projectionMatrix p) ∧
      (frustum.testBox box = .Inside →
        ∀ p, box.Contains p → InClip viewMatrix projectionMatrix p) := by
  intro frustum
  constructor
  · intro outside p inside within
    rcases testBox_outside outside inside with ⟨plane, member, negative⟩
    have all := (setFromMatrix_nonneg Real.sqrt _ p).mpr ((inClip_iff _ _ p).mp within)
    exact absurd (all plane member) negative.not_ge
  · intro test p inside
    exact (inClip_iff _ _ p).mpr ((setFromMatrix_nonneg Real.sqrt _ p).mp
      (testBox_inside test inside))

end OpenRoad.Viewer
