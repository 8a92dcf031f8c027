import Mathlib.Tactic

/-! The octree of boxes that culls by frustum and by box, in exact arithmetic. -/

namespace OpenRoad.Viewer

open List

variable {K : Type} [Field K] [LinearOrder K]

structure Vec3 (K : Type) where
  x : K
  y : K
  z : K
  deriving DecidableEq

structure AABB (K : Type) where
  min : Vec3 K
  max : Vec3 K
  deriving DecidableEq

namespace AABB

def intersects (box other : AABB K) : Bool :=
  !(decide (other.min.x > box.max.x) || decide (other.max.x < box.min.x) ||
    decide (other.min.y > box.max.y) || decide (other.max.y < box.min.y) ||
    decide (other.min.z > box.max.z) || decide (other.max.z < box.min.z))

def center (box : AABB K) : Vec3 K :=
  ⟨(box.min.x + box.max.x) / 2, (box.min.y + box.max.y) / 2, (box.min.z + box.max.z) / 2⟩

def halfExtent (box : AABB K) : Vec3 K :=
  ⟨(box.max.x - box.min.x) / 2, (box.max.y - box.min.y) / 2, (box.max.z - box.min.z) / 2⟩

def expand (box other : AABB K) : AABB K where
  min := ⟨Min.min box.min.x other.min.x, Min.min box.min.y other.min.y,
    Min.min box.min.z other.min.z⟩
  max := ⟨Max.max box.max.x other.max.x, Max.max box.max.y other.max.y,
    Max.max box.max.z other.max.z⟩

def origin : AABB K := ⟨⟨0, 0, 0⟩, ⟨0, 0, 0⟩⟩

end AABB

inductive FrustumTest where
  | Outside | Inside | Intersect
  deriving DecidableEq

structure Plane (K : Type) where
  nx : K
  ny : K
  nz : K
  offset : K

structure Frustum (K : Type) where
  planes : List (Plane K)
  six : planes.length = 6

/-- The loop of `Frustum::testBox` over the planes that are left. -/
def testPlanes (boxCenter boxHalf : Vec3 K) : List (Plane K) → Bool → FrustumTest
  | [], allInside => if allInside then .Inside else .Intersect
  | plane :: planes, allInside =>
    let dist := plane.nx * boxCenter.x + plane.ny * boxCenter.y + plane.nz * boxCenter.z +
      plane.offset
    let radius := |plane.nx * boxHalf.x| + |plane.ny * boxHalf.y| + |plane.nz * boxHalf.z|
    if dist < -radius then .Outside
    else testPlanes boxCenter boxHalf planes (if dist < radius then false else allInside)

def Frustum.testBox (frustum : Frustum K) (box : AABB K) : FrustumTest :=
  testPlanes box.center box.halfExtent frustum.planes true

/-- `null` is the null pointer of a child that has no objects. -/
inductive OctreeNode (K : Type) where
  | null
  | leaf (box : AABB K) (objectIds : List String)
  | inner (box : AABB K) (children : Fin 8 → OctreeNode K)

def childBounds (box : AABB K) (i : Fin 8) : AABB K :=
  let center := box.center
  let xMax := i.val.testBit 0
  let yMax := i.val.testBit 1
  let zMax := i.val.testBit 2
  { min := ⟨if xMax then center.x else box.min.x, if yMax then center.y else box.min.y,
      if zMax then center.z else box.min.z⟩
    max := ⟨if xMax then box.max.x else center.x, if yMax then box.max.y else center.y,
      if zMax then box.max.z else center.z⟩ }

/-- The octant of `node` that the centre of a box falls into. -/
def childIdx (node box : AABB K) : Fin 8 :=
  let center := node.center
  let boxCenter := box.center
  let x : Fin 8 := if boxCenter.x ≥ center.x then 1 else 0
  let y : Fin 8 := if boxCenter.y ≥ center.y then 2 else 0
  let z : Fin 8 := if boxCenter.z ≥ center.z then 4 else 0
  x + y + z

abbrev Objects (K : Type) := List (String × AABB K)

def childObjects (node : AABB K) (objects : Objects K) (i : Fin 8) : Objects K :=
  objects.filter fun object => childIdx node object.2 = i

/-- `levels` is `maxDepth_ - depth`. -/
def buildRecursive (node : AABB K) (objects : Objects K) : Nat → OctreeNode K
  | 0 => .leaf node (objects.map Prod.fst)
  | levels + 1 =>
    if objects.length ≤ 1 then .leaf node (objects.map Prod.fst)
    else .inner node fun i =>
      if childObjects node objects i = [] then .null
      else buildRecursive (childBounds node i) (childObjects node objects i) levels

def margin (low high : K) : K :=
  let margin := (high - low) / 100
  if margin < 1 / 10000 then 1 else margin

def worldBounds (objects : Objects K) : AABB K :=
  let bounds := objects.foldl (fun bounds object => bounds.expand object.2) AABB.origin
  let x := margin bounds.min.x bounds.max.x
  let y := margin bounds.min.y bounds.max.y
  let z := margin bounds.min.z bounds.max.z
  { min := ⟨bounds.min.x - x, bounds.min.y - y, bounds.min.z - z⟩
    max := ⟨bounds.max.x + x, bounds.max.y + y, bounds.max.z + z⟩ }

/-- `SpatialIndex::build`; the result is its root. -/
def build (objects : Objects K) (maxDepth : Int) : OctreeNode K :=
  if objects = [] then .null
  else buildRecursive (worldBounds objects) objects maxDepth.toNat

def queryFrustumRecursive (frustum : Frustum K) : OctreeNode K → List String
  | .null => []
  | .leaf box objectIds =>
    match frustum.testBox box with
    | .Outside => []
    | _ => objectIds
  | .inner box children =>
    match frustum.testBox box with
    | .Outside => []
    | .Inside => (List.finRange 8).flatMap fun i => queryFrustumRecursive frustum (children i)
    | .Intersect => (List.finRange 8).flatMap fun i => queryFrustumRecursive frustum (children i)

def getObjectsInFrustum (root : OctreeNode K) (frustum : Frustum K) : List String :=
  queryFrustumRecursive frustum root

def queryBoxRecursive (query : AABB K) : OctreeNode K → List String
  | .null => []
  | .leaf box objectIds => if box.intersects query then objectIds else []
  | .inner box children =>
    if box.intersects query then
      (List.finRange 8).flatMap fun i => queryBoxRecursive query (children i)
    else []

def getObjectsInBox (root : OctreeNode K) (query : AABB K) : List String :=
  queryBoxRecursive query root

def gather (keep : AABB K → Bool) : OctreeNode K → List String
  | .null => []
  | .leaf box objectIds => if keep box then objectIds else []
  | .inner box children =>
    if keep box then (List.finRange 8).flatMap fun i => gather keep (children i) else []

def Frustum.keeps (frustum : Frustum K) (box : AABB K) : Bool :=
  decide (frustum.testBox box ≠ .Outside)

lemma getObjectsInFrustum_gather (root : OctreeNode K) (frustum : Frustum K) :
    getObjectsInFrustum root frustum = gather frustum.keeps root := by
  rw [getObjectsInFrustum]
  induction root with
  | null => rfl
  | leaf box objectIds =>
    rw [queryFrustumRecursive, gather, Frustum.keeps]
    cases frustum.testBox box <;> rfl
  | inner box children ih =>
    rw [queryFrustumRecursive, gather, Frustum.keeps]
    simp only [ih]
    cases frustum.testBox box <;> rfl

omit [Field K] in
lemma getObjectsInBox_gather (root : OctreeNode K) (query : AABB K) :
    getObjectsInBox root query = gather (·.intersects query) root := by
  rw [getObjectsInBox]
  induction root with
  | null => rfl
  | leaf box objectIds => rfl
  | inner box children ih =>
    rw [queryBoxRecursive, gather]
    simp only [ih]

/-- The octant `depth` levels below `node` that the centre of a box falls into. -/
def octant (box : AABB K) : AABB K → Nat → AABB K
  | node, 0 => node
  | node, depth + 1 => octant box (childBounds node (childIdx node box)) depth

def octantPath (box : AABB K) : AABB K → Nat → List (Fin 8)
  | _, 0 => []
  | node, depth + 1 =>
    childIdx node box :: octantPath box (childBounds node (childIdx node box)) depth

/-- The objects whose centres fall into the same octant as that of `box`. -/
def sameOctant (objects : Objects K) (node box : AABB K) (depth : Nat) : Objects K :=
  objects.filter fun object => octantPath object.2 node depth = octantPath box node depth

def OctantsKept (keep : AABB K → Bool) (objects : Objects K) (node box : AABB K) (levels : Nat) :
    Prop :=
  ∀ depth ≤ levels, (∀ above < depth, 2 ≤ (sameOctant objects node box above).length) →
    keep (octant box node depth) = true

variable {keep : AABB K → Bool}

variable (objects : Objects K) (node box : AABB K)

lemma sameOctant_zero :
    sameOctant objects node box 0 = objects := by
  apply filter_eq_self.mpr
  intro object _
  simp only [octantPath, decide_true]

lemma sameOctant_succ (depth : Nat) :
    sameOctant objects node box (depth + 1) =
      sameOctant (childObjects node objects (childIdx node box))
        (childBounds node (childIdx node box)) box depth := by
  rw [sameOctant, sameOctant, childObjects, filter_filter]
  apply filter_congr
  intro object _
  by_cases same : childIdx node object.2 = childIdx node box
  · simp [octantPath, same]
  · simp [octantPath, same]

lemma octantsKept_of_few (levels : Nat) (few : objects.length ≤ 1 ∨ levels = 0) :
    OctantsKept keep objects node box levels ↔ keep node = true := by
  constructor
  · intro kept
    exact kept 0 (Nat.zero_le levels) fun above below => absurd below (Nat.not_lt_zero above)
  · intro kept depth bound crowded
    cases depth with
    | zero => exact kept
    | succ depth =>
      have many := crowded 0 (Nat.succ_pos depth)
      rw [sameOctant_zero] at many
      omega

lemma octantsKept_succ (levels : Nat) (many : 2 ≤ objects.length) :
    OctantsKept keep objects node box (levels + 1) ↔ keep node = true ∧
      OctantsKept keep (childObjects node objects (childIdx node box))
        (childBounds node (childIdx node box)) box levels := by
  constructor
  · intro kept
    refine ⟨kept 0 (Nat.zero_le _) fun above below => absurd below (Nat.not_lt_zero above), ?_⟩
    intro depth bound crowded
    apply kept (depth + 1) (Nat.succ_le_succ bound)
    intro above below
    cases above with
    | zero =>
      rw [sameOctant_zero]
      exact many
    | succ above =>
      rw [sameOctant_succ]
      exact crowded above (Nat.lt_of_succ_lt_succ below)
  · rintro ⟨kept, below⟩ depth bound crowded
    cases depth with
    | zero => exact kept
    | succ depth =>
      apply below depth (Nat.le_of_succ_le_succ bound)
      intro above less
      have same := crowded (above + 1) (Nat.succ_lt_succ less)
      rwa [sameOctant_succ] at same

omit [Field K] [LinearOrder K] in
lemma gather_leaf (node : AABB K) (objects : Objects K) (id : String) :
    id ∈ gather keep (.leaf node (objects.map Prod.fst)) ↔
      ∃ box, (id, box) ∈ objects ∧ keep node = true := by
  rw [gather]
  split
  · rename_i kept
    simp [kept]
  · rename_i dropped
    simp [dropped]

lemma mem_gather (node : AABB K) (objects : Objects K) (levels : Nat) (id : String) :
    id ∈ gather keep (buildRecursive node objects levels) ↔
      ∃ box, (id, box) ∈ objects ∧ OctantsKept keep objects node box levels := by
  induction levels generalizing node objects with
  | zero =>
    rw [buildRecursive, gather_leaf]
    simp only [octantsKept_of_few objects node _ 0 (Or.inr rfl)]
  | succ levels ih =>
    rw [buildRecursive]
    by_cases few : objects.length ≤ 1
    · rw [if_pos few, gather_leaf]
      simp only [octantsKept_of_few objects node _ (levels + 1) (Or.inl few)]
    · rw [if_neg few]
      have many : 2 ≤ objects.length := by omega
      simp only [octantsKept_succ objects node _ levels many]
      have child : ∀ i : Fin 8, id ∈ gather keep
          (if childObjects node objects i = [] then OctreeNode.null
            else buildRecursive (childBounds node i) (childObjects node objects i) levels) ↔
          ∃ box, (id, box) ∈ objects ∧ childIdx node box = i ∧
            OctantsKept keep (childObjects node objects i) (childBounds node i) box levels := by
        intro i
        have member : ∀ box, (id, box) ∈ childObjects node objects i ↔
            (id, box) ∈ objects ∧ childIdx node box = i := by
          intro box
          simp only [childObjects, mem_filter, decide_eq_true_eq]
        split
        · rename_i empty
          constructor
          · intro inNull
            cases inNull
          · rintro ⟨box, there, inChild, _⟩
            have absurdMember := (member box).mpr ⟨there, inChild⟩
            rw [empty] at absurdMember
            cases absurdMember
        · rw [ih]
          simp only [member, and_assoc]
      rw [gather]
      by_cases kept : keep node = true
      · rw [if_pos kept, mem_flatMap]
        constructor
        · rintro ⟨i, _, found⟩
          rcases (child i).mp found with ⟨box, there, rfl, below⟩
          exact ⟨box, there, kept, below⟩
        · rintro ⟨box, there, _, below⟩
          exact ⟨childIdx node box, mem_finRange _, (child _).mpr ⟨box, there, rfl, below⟩⟩
      · rw [if_neg kept]
        constructor
        · intro inNil
          cases inNil
        · rintro ⟨box, _, keptNode, _⟩
          exact absurd keptNode kept

def Complete (keep : AABB K → Bool) (objects : Objects K) (ids : List String) : Prop :=
  ∀ object ∈ objects, keep object.2 = true → object.1 ∈ ids

def OctantsAgree (keep : AABB K → Bool) (objects : Objects K) (maxDepth : Int) : Prop :=
  ∀ object ∈ objects, keep object.2 = true → ∃ box, (object.1, box) ∈ objects ∧
    OctantsKept keep objects (worldBounds objects) box maxDepth.toNat

lemma complete_gather (keep : AABB K → Bool) (objects : Objects K) (maxDepth : Int) :
    Complete keep objects (gather keep (build objects maxDepth)) ↔
      OctantsAgree keep objects maxDepth := by
  rw [build]
  split
  · rename_i empty
    subst empty
    exact iff_of_true (fun object there => by cases there) (fun object there => by cases there)
  · simp only [Complete, OctantsAgree, mem_gather]

/-- Both queries find everything they should exactly if no octant on the way to an object is
pruned. -/
theorem queries_complete (objects : Objects K) (maxDepth : Int) : (∀ frustum : Frustum K,
      Complete frustum.keeps objects (getObjectsInFrustum (build objects maxDepth) frustum) ↔
        OctantsAgree frustum.keeps objects maxDepth) ∧
    ∀ query : AABB K,
      Complete (·.intersects query) objects (getObjectsInBox (build objects maxDepth) query) ↔
        OctantsAgree (·.intersects query) objects maxDepth := by
  constructor
  · intro frustum
    rw [getObjectsInFrustum_gather]
    exact complete_gather frustum.keeps objects maxDepth
  · intro query
    rw [getObjectsInBox_gather]
    exact complete_gather (·.intersects query) objects maxDepth

/-! A wire whose centre lies in the upper half, seen from its lower end. -/

def AABB.Ordered (box : AABB K) : Prop :=
  box.min.x ≤ box.max.x ∧ box.min.y ≤ box.max.y ∧ box.min.z ≤ box.max.z

def sampleObjects : Objects ℚ :=
  [("wire", ⟨⟨-100, 0, 0⟩, ⟨80, 1, 1⟩⟩), ("via", ⟨⟨-10, 0, 0⟩, ⟨-9, 1, 1⟩⟩)]

def sampleFrustum : Frustum ℚ where
  planes := [⟨1, 0, 0, 90⟩, ⟨-1, 0, 0, -80⟩, ⟨0, 1, 0, 0⟩, ⟨0, -1, 0, 1⟩, ⟨0, 0, 1, 0⟩, ⟨0, 0, -1, 1⟩]
  six := rfl

theorem straddling_object_culled :
    ¬ ∀ objects : Objects ℚ, (∀ object ∈ objects, object.2.Ordered) → ∀ maxDepth : Int,
      (∀ frustum : Frustum ℚ, ∀ object ∈ objects, frustum.testBox object.2 ≠ .Outside →
        object.1 ∈ getObjectsInFrustum (build objects maxDepth) frustum) ∧
      ∀ query : AABB ℚ, ∀ object ∈ objects, object.2.intersects query →
        object.1 ∈ getObjectsInBox (build objects maxDepth) query := by
  intro allComplete
  have ordered : ∀ object ∈ sampleObjects, object.2.Ordered := by
    intro object there
    rcases List.mem_pair.mp there with rfl | rfl <;> norm_num [AABB.Ordered]
  have found := (allComplete sampleObjects ordered 6).1 sampleFrustum _ List.mem_cons_self
    (by with_unfolding_all decide)
  have missing : "wire" ∉ getObjectsInFrustum (build sampleObjects 6) sampleFrustum := by
    with_unfolding_all decide
  exact missing found

end OpenRoad.Viewer
