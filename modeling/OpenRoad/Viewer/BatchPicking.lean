import OpenRoad.Viewer.BatchGeometry

/-! Picking in a batch: which object a triangle was generated for. -/

namespace OpenRoad.Viewer

open Lib List Function
open Option hiding map_id' map_map pure_def

namespace BatchGeometry

variable {type : ObjectType} {object : ObjectRecord} {geometry : BatchGeometry}

def lookup (verts : List (Vec3 ℚ)) (triple : Nat × Nat × Nat) : Option (Vec3 ℚ × Vec3 ℚ × Vec3 ℚ) := do
  return (← verts[triple.1]?, ← verts[triple.2.1]?, ← verts[triple.2.2]?)

def trianglesOf (type : ObjectType) (object : ObjectRecord) : List (Vec3 ℚ × Vec3 ℚ × Vec3 ℚ) :=
  if batchVerticesOf type object = [] then []
  else (boxTriangles 0).filterMap (lookup (batchVerticesOf type object))

lemma lookup_some {verts : List (Vec3 ℚ)} {triple : Nat × Nat × Nat}
    {corners : Vec3 ℚ × Vec3 ℚ × Vec3 ℚ} :
    lookup verts triple = some corners ↔ verts[triple.1]? = some corners.1 ∧
      verts[triple.2.1]? = some corners.2.1 ∧ verts[triple.2.2]? = some corners.2.2 := by
  simp only [lookup, bind_eq_bind, bind_eq_some_iff, Option.pure_def,
    some.injEq]
  constructor
  · rintro ⟨a, isA, b, isB, c, isC, rfl⟩
    exact ⟨isA, isB, isC⟩
  · rintro ⟨isA, isB, isC⟩
    exact ⟨_, isA, _, isB, _, isC, rfl⟩

lemma lookup_append {verts : List (Vec3 ℚ)} (more : List (Vec3 ℚ)) {triple : Nat × Nat × Nat}
    (found : (lookup verts triple).isSome) : lookup (verts ++ more) triple = lookup verts triple := by
  rcases isSome_iff_exists.mp found with ⟨corners, isSome⟩
  rw [isSome]
  rcases lookup_some.mp isSome with ⟨a, b, c⟩
  apply lookup_some.mpr
  refine ⟨?_, ?_, ?_⟩
  · rw [List.getElem?_append_left (List.getElem?_eq_some_iff.mp a).1, a]
  · rw [List.getElem?_append_left (List.getElem?_eq_some_iff.mp b).1, b]
  · rw [List.getElem?_append_left (List.getElem?_eq_some_iff.mp c).1, c]

lemma boxTriangles_shift (verts more : List (Vec3 ℚ)) :
    (boxTriangles verts.length).map (lookup (verts ++ more)) =
      (boxTriangles 0).map (lookup more) := by
  have place : ∀ k, (verts ++ more)[verts.length + k]? = more[k]? := by
    intro k
    rw [List.getElem?_append_right (Nat.le_add_right _ _), Nat.add_sub_cancel_left]
  simp only [boxTriangles, map_flatMap, map_cons, map_nil, lookup, Nat.add_assoc,
    place, Nat.zero_add]

lemma length_boxTriangles (vertOffset : Nat) : (boxTriangles vertOffset).length = 12 := rfl

lemma batchVerticesOf_box (type : ObjectType) (object : ObjectRecord) :
    batchVerticesOf type object = [] ∨
      ∃ x y z0 x1 y1 z1, batchVerticesOf type object = boxFaces x y z0 x1 y1 z1 := by
  rw [batchVerticesOf]
  split
  · exact Or.inr ⟨_, _, _, _, _, _, rfl⟩
  · rw [appendWireToBatch]
    split
    · exact Or.inl rfl
    · exact Or.inr ⟨_, _, _, _, _, _, rfl⟩

lemma boxFaces_triangles (x y z0 x1 y1 z1 : ℚ) :
    (boxTriangles 0).map (lookup (boxFaces x y z0 x1 y1 z1)) =
      ((boxTriangles 0).filterMap (lookup (boxFaces x y z0 x1 y1 z1))).map some := rfl

lemma trianglesOf_map (some' : batchVerticesOf type object ≠ []) :
    (boxTriangles 0).map (lookup (batchVerticesOf type object)) =
      (trianglesOf type object).map some := by
  rw [trianglesOf, if_neg some']
  rcases batchVerticesOf_box type object with empty | ⟨x, y, z0, x1, y1, z1, isBox⟩
  · exact absurd empty some'
  · rw [isBox]
    exact boxFaces_triangles x y z0 x1 y1 z1

lemma length_trianglesOf (some' : batchVerticesOf type object ≠ []) :
    (trianglesOf type object).length = 12 := by
  rw [trianglesOf, if_neg some']
  rcases batchVerticesOf_box type object with empty | ⟨x, y, z0, x1, y1, z1, isBox⟩
  · exact absurd empty some'
  · rw [isBox]
    rfl

/-- What a geometry holds after some objects are drawn. -/
structure Filled (type : ObjectType) (drawn : List ObjectRecord) (geometry : BatchGeometry) :
    Prop where
  triangles : ∃ triples, geometry.tris = flatTriples triples ∧
    triples.map (lookup geometry.verts) = (drawn.flatMap (trianglesOf type)).map some
  tro : geometry.tro = (geometry.primitives.map BatchPrimitive.triCount).sum
  ranges : Consecutive BatchPrimitive.triStart BatchPrimitive.triCount 0 geometry.primitives
  marks : (geometry.primitives.map fun p => (p.objectId, p.triCount)) =
    drawn.map fun object => (object.objectId, (trianglesOf type object).length)

lemma empty_filled (type : ObjectType) : Filled type [] empty where
  triangles := ⟨[], rfl, rfl⟩
  tro := rfl
  ranges := trivial
  marks := rfl

lemma append_filled {drawn : List ObjectRecord} (filled : Filled type drawn geometry)
    (object : ObjectRecord) : Filled type (drawn ++ [object]) (geometry.append type object) := by
  rcases filled.triangles with ⟨triples, isFlat, looked⟩
  have found : ∀ triple ∈ triples, (lookup geometry.verts triple).isSome := by
    intro triple member
    have inAll : lookup geometry.verts triple ∈ (drawn.flatMap (trianglesOf type)).map some := by
      rw [← looked]
      exact mem_map_of_mem member
    rcases List.mem_map.mp inAll with ⟨corners, _, isSome⟩
    rw [← isSome, isSome_some]
  have kept : triples.map (lookup (geometry.verts ++ batchVerticesOf type object)) =
      (drawn.flatMap (trianglesOf type)).map some := by
    rw [← looked]
    apply map_congr_left
    intro triple member
    exact lookup_append _ (found triple member)
  have count : (geometry.append type object).primitives =
      geometry.primitives ++ [⟨object.objectId, geometry.tro, (trianglesOf type object).length⟩] ∧
      (geometry.append type object).tro = geometry.tro + (trianglesOf type object).length ∧
      ∃ triples', (geometry.append type object).tris = flatTriples triples' ∧
        triples'.map (lookup (geometry.append type object).verts) =
          ((drawn ++ [object]).flatMap (trianglesOf type)).map some := by
    by_cases noVertices : batchVerticesOf type object = []
    · have noTriangles : trianglesOf type object = [] := by rw [trianglesOf, if_pos noVertices]
      simp only [append, if_pos noVertices, Nat.sub_self, Nat.zero_div, noTriangles,
        length_nil, Nat.add_zero, true_and]
      refine ⟨triples, isFlat, ?_⟩
      rw [kept, flatMap_append, flatMap_singleton, noTriangles, append_nil]
    · have sizes : 3 * 12 / 3 = 12 := rfl
      have twelve : ((geometry.tris ++ flatTriples (boxTriangles geometry.verts.length)).length -
          geometry.tris.length) / 3 = (trianglesOf type object).length := by
        rw [length_append, Nat.add_sub_cancel_left, length_flatTriples, length_boxTriangles,
          length_trianglesOf noVertices, sizes]
      simp only [append, if_neg noVertices, twelve, true_and]
      refine ⟨triples ++ boxTriangles geometry.verts.length, ?_, ?_⟩
      · rw [flatTriples_append, isFlat]
      · rw [map_append, kept, boxTriangles_shift, trianglesOf_map noVertices, ← map_append,
          flatMap_append, flatMap_singleton]
  refine ⟨count.2.2, ?_, ?_, ?_⟩
  · rw [count.1, count.2.1, filled.tro, map_append, sum_append, map_singleton,
      sum_singleton]
  · rw [count.1]
    exact filled.ranges.concat (filled.tro.trans (Nat.zero_add _).symm)
  · rw [count.1, map_append, filled.marks, map_append]
    rfl

lemma fill_filled (hidden : String → Bool) (type : ObjectType) (objects : List ObjectRecord) :
    Filled type (objects.filter fun object => !hidden object.objectId)
      (fill hidden type objects) := by
  induction objects using List.reverseRecOn with
  | nil => exact empty_filled type
  | append_singleton objects object ih =>
    rw [fill, foldl_append, filter_append]
    simp only [foldl_cons, foldl_nil]
    cases isHidden : hidden object.objectId with
    | true =>
      simp only [filter_cons, isHidden, Bool.not_true, Bool.false_eq_true, if_false,
        if_true, filter_nil, append_nil]
      exact ih
    | false =>
      simp only [filter_cons, isHidden, Bool.not_false, Bool.false_eq_true, if_false,
        if_true, filter_nil]
      exact append_filled ih object

variable {drawn : List ObjectRecord}

def generated (type : ObjectType) (drawn : List ObjectRecord) :
    List (String × Vec3 ℚ × Vec3 ℚ × Vec3 ℚ) :=
  drawn.flatMap fun object => (trianglesOf type object).map fun corners => (object.objectId, corners)

lemma generated_corners (type : ObjectType) (drawn : List ObjectRecord) :
    (generated type drawn).map Prod.snd = drawn.flatMap (trianglesOf type) := by
  rw [generated, map_flatMap]
  simp only [map_map, comp_def, map_id']

lemma generated_ids (type : ObjectType) (drawn : List ObjectRecord) :
    (generated type drawn).map Prod.fst = drawn.flatMap fun object =>
      List.replicate (trianglesOf type object).length object.objectId := by
  rw [generated, map_flatMap]
  simp only [map_map, comp_def, map_const']

lemma Filled.triangle_eq (filled : Filled type drawn geometry) (t : Nat) :
    geometry.triangle t = (generated type drawn)[t]?.map Prod.snd := by
  rcases filled.triangles with ⟨triples, isFlat, looked⟩
  have corners := congrArg (fun list => list[t]?) looked
  simp only [List.getElem?_map] at corners
  rw [← List.getElem?_map, generated_corners]
  rcases getElem?_flatTriples triples t with ⟨first, second, third⟩
  rw [triangle, isFlat, first, second, third]
  cases isTriple : triples[t]? with
  | none =>
    rw [isTriple, map_none, eq_comm, map_eq_none_iff] at corners
    rw [corners]
    rfl
  | some triple =>
    rw [isTriple, map_some] at corners
    rcases map_eq_some_iff.mp corners.symm with ⟨isCorners, found, isLookup⟩
    rw [found]
    exact isLookup.symm

lemma Filled.triangleCount_eq (filled : Filled type drawn geometry) :
    geometry.tris.length = 3 * (generated type drawn).length ∧
      geometry.triangleCount = (generated type drawn).length := by
  rcases filled.triangles with ⟨triples, isFlat, looked⟩
  have count : triples.length = (generated type drawn).length := by
    calc triples.length = (triples.map (lookup geometry.verts)).length := (length_map _).symm
      _ = (drawn.flatMap (trianglesOf type)).length := by rw [looked, length_map]
      _ = (generated type drawn).length := by rw [← generated_corners, length_map]
  rw [triangleCount, isFlat, length_flatTriples, count]
  exact ⟨rfl, Nat.mul_div_cancel_left _ (by norm_num)⟩

lemma Filled.find_eq (filled : Filled type drawn geometry) (t : Nat) :
    geometry.findObjectIdByTri t = (generated type drawn)[t]?.map Prod.fst := by
  have counted := filled.ranges.rangeAt_eq t
  rw [Nat.zero_add] at counted
  rw [findObjectIdByTri, counted, ← List.getElem?_map, ← List.getElem?_map, generated_ids,
    map_flatMap]
  simp only [map_replicate]
  have blocks := congrArg (List.flatMap fun mark : String × Nat => List.replicate mark.2 mark.1)
    filled.marks
  simp only [flatMap_map] at blocks
  rw [blocks]

lemma Filled.partition (filled : Filled type drawn geometry) :
    (geometry.primitives.map BatchPrimitive.triCount).sum = geometry.triangleCount := by
  have counts := congrArg (List.map Prod.snd) filled.marks
  simp only [map_map, comp_def] at counts
  rw [filled.triangleCount_eq.2, counts, ← length_map Prod.fst, generated_ids,
    length_flatMap]
  simp only [length_replicate]

def boxCorners (lo hi : Vec3 ℚ) : List (Vec3 ℚ) :=
  [⟨lo.x, lo.y, lo.z⟩, ⟨hi.x, lo.y, lo.z⟩, ⟨lo.x, hi.y, lo.z⟩, ⟨hi.x, hi.y, lo.z⟩,
    ⟨lo.x, lo.y, hi.z⟩, ⟨hi.x, lo.y, hi.z⟩, ⟨lo.x, hi.y, hi.z⟩, ⟨hi.x, hi.y, hi.z⟩]

def clampedCorners (object : ObjectRecord) : List (Vec3 ℚ) :=
  boxCorners object.bboxMin ⟨object.bboxMin.x + batchWidth object,
    object.bboxMin.y + batchHeight object, object.bboxMin.z + clampedDepth object⟩

/-- The range of an object: twelve triangles over the corners of its box. -/
structure Owns (geometry : BatchGeometry) (object : ObjectRecord) (primitive : BatchPrimitive) :
    Prop where
  member : primitive ∈ geometry.primitives
  id : primitive.objectId = object.objectId
  only : ∀ other ∈ geometry.primitives, other.objectId = object.objectId → other = primitive
  twelve : primitive.triCount = 12
  corners : ∀ corner, corner ∈ clampedCorners object ↔ ∃ t triangle, primitive.triStart ≤ t ∧
    t < primitive.triStart + primitive.triCount ∧ geometry.triangle t = some triangle ∧
    (corner = triangle.1 ∨ corner = triangle.2.1 ∨ corner = triangle.2.2)

lemma mem_boxTriangles (x y z0 x1 y1 z1 : ℚ) (corner : Vec3 ℚ) :
    corner ∈ boxCorners ⟨x, y, z0⟩ ⟨x1, y1, z1⟩ ↔
      ∃ triangle ∈ (boxTriangles 0).filterMap (lookup (boxFaces x y z0 x1 y1 z1)),
        corner = triangle.1 ∨ corner = triangle.2.1 ∨ corner = triangle.2.2 := by
  have triangles : (boxTriangles 0).filterMap (lookup (boxFaces x y z0 x1 y1 z1)) =
      [(⟨x, y, z0⟩, ⟨x1, y, z0⟩, ⟨x1, y1, z0⟩), (⟨x, y, z0⟩, ⟨x1, y1, z0⟩, ⟨x, y1, z0⟩),
        (⟨x, y, z1⟩, ⟨x, y1, z1⟩, ⟨x1, y1, z1⟩), (⟨x, y, z1⟩, ⟨x1, y1, z1⟩, ⟨x1, y, z1⟩),
        (⟨x, y, z0⟩, ⟨x, y, z1⟩, ⟨x1, y, z1⟩), (⟨x, y, z0⟩, ⟨x1, y, z1⟩, ⟨x1, y, z0⟩),
        (⟨x1, y, z0⟩, ⟨x1, y, z1⟩, ⟨x1, y1, z1⟩), (⟨x1, y, z0⟩, ⟨x1, y1, z1⟩, ⟨x1, y1, z0⟩),
        (⟨x1, y1, z0⟩, ⟨x1, y1, z1⟩, ⟨x, y1, z1⟩), (⟨x1, y1, z0⟩, ⟨x, y1, z1⟩, ⟨x, y1, z0⟩),
        (⟨x, y1, z0⟩, ⟨x, y1, z1⟩, ⟨x, y, z1⟩), (⟨x, y1, z0⟩, ⟨x, y, z1⟩, ⟨x, y, z0⟩)] := rfl
  rw [triangles]
  simp only [boxCorners, mem_cons, not_mem_nil, or_false, exists_eq_or_imp,
    exists_eq_left]
  tauto

lemma boxFaces_ne_nil (x y z0 x1 y1 z1 : ℚ) : boxFaces x y z0 x1 y1 z1 ≠ [] :=
  cons_ne_nil _ _

lemma mem_trianglesOf (hasBbox : object.hasBbox = true) (batched : object.batched = true)
    (corner : Vec3 ℚ) : corner ∈ clampedCorners object ↔ ∃ triangle ∈ trianglesOf object.type object,
      corner = triangle.1 ∨ corner = triangle.2.1 ∨ corner = triangle.2.2 := by
  have isBox := batchVertices_eq hasBbox batched
  rw [batchVertices] at isBox
  rw [trianglesOf, isBox, if_neg (boxFaces_ne_nil _ _ _ _ _ _)]
  exact mem_boxTriangles _ _ _ _ _ _ corner

lemma Filled.owns (filled : Filled type drawn geometry)
    (unique : (drawn.map ObjectRecord.objectId).Nodup) (member : object ∈ drawn)
    (isType : object.type = type) (batched : object.batched = true)
    (hasBbox : object.hasBbox = true) : ∃ primitive, Owns geometry object primitive := by
  rcases append_of_mem member with ⟨before, after, rfl⟩
  have marks := filled.marks
  rw [map_append, map_cons, map_eq_append_iff] at marks
  rcases marks with ⟨first, rest, isPrimitives, marksFirst, marksRest⟩
  rcases List.map_eq_cons_iff.mp marksRest with ⟨primitive, last, isRest, mark, _⟩
  rw [isRest] at isPrimitives
  rw [Prod.mk.injEq] at mark
  have isBox := batchVertices_eq hasBbox batched
  rw [batchVertices, isType] at isBox
  have twelve : (trianglesOf type object).length = 12 := by
    apply length_trianglesOf
    rw [isBox]
    exact boxFaces_ne_nil _ _ _ _ _ _
  have startsAt : primitive.triStart =
      (before.map fun other => (trianglesOf type other).length).sum := by
    have consecutive := filled.ranges
    rw [isPrimitives] at consecutive
    have counts := congrArg (List.map Prod.snd) marksFirst
    simp only [map_map, comp_def] at counts
    rw [consecutive.start_eq, Nat.zero_add, counts]
  have triangles : ∀ k < 12, geometry.triangle (primitive.triStart + k) =
      (trianglesOf type object)[k]? := by
    intro k inBox
    rw [filled.triangle_eq, ← List.getElem?_map, generated_corners, startsAt]
    exact getElem?_block (trianglesOf type) (by rw [twelve]; exact inBox)
  have there : primitive ∈ geometry.primitives := by
    rw [isPrimitives]
    exact mem_append_right _ mem_cons_self
  have idsNodup : (geometry.primitives.map BatchPrimitive.objectId).Nodup := by
    have ids := congrArg (List.map Prod.fst) filled.marks
    simp only [map_map, comp_def] at ids
    rw [ids]
    exact unique
  refine ⟨primitive, there, mark.1, ?_, mark.2.trans twelve, ?_⟩
  · intro other isOther sameId
    exact inj_on_of_nodup_map idsNodup isOther there (sameId.trans mark.1.symm)
  · intro corner
    rw [mem_trianglesOf hasBbox batched, isType, mark.2, twelve]
    constructor
    · rintro ⟨triangle, isTriangle, isCorner⟩
      rcases List.getElem?_of_mem isTriangle with ⟨k, found⟩
      have inBox : k < 12 := twelve ▸ (List.getElem?_eq_some_iff.mp found).1
      exact ⟨primitive.triStart + k, triangle, by omega, by omega,
        (triangles k inBox).trans found, isCorner⟩
    · rintro ⟨t, triangle, past, inRange, found, isCorner⟩
      have isPlace : t = primitive.triStart + (t - primitive.triStart) := by omega
      rw [isPlace, triangles _ (by omega)] at found
      exact ⟨triangle, mem_of_getElem? found, isCorner⟩

/-- The ranges of a batch are those of its triangles, and picking gives the object of a triangle. -/
structure Exact (hidden : String → Bool) (type : ObjectType) (objects : List ObjectRecord)
    (geometry : BatchGeometry) : Prop where
  consecutive : Consecutive BatchPrimitive.triStart BatchPrimitive.triCount 0 geometry.primitives
  partition : (geometry.primitives.map BatchPrimitive.triCount).sum = geometry.triangleCount
  whole : geometry.tris.length = 3 * geometry.triangleCount
  owned : ∀ object ∈ objects, hidden object.objectId = false → object.hasBbox = true →
    ∃ primitive, Owns geometry object primitive
  count : geometry.triangleCount =
    (generated type (objects.filter fun object => !hidden object.objectId)).length
  picked : ∀ t, geometry.findObjectIdByTri t =
      (generated type (objects.filter fun object => !hidden object.objectId))[t]?.map Prod.fst ∧
    geometry.triangle t =
      (generated type (objects.filter fun object => !hidden object.objectId))[t]?.map Prod.snd
  null : ∀ t, geometry.findObjectIdByTri t = none ↔ geometry.triangleCount ≤ t

lemma fill_exact {hidden : String → Bool} {objects : List ObjectRecord}
    (unique : (objects.map ObjectRecord.objectId).Nodup)
    (filed : ∀ object ∈ objects, object.type = type ∧ object.batched = true) :
    Exact hidden type objects (fill hidden type objects) := by
  have filled := fill_filled hidden type objects
  have count := filled.triangleCount_eq
  refine ⟨filled.ranges, filled.partition, count.1.trans (by rw [count.2]), ?_, count.2,
    fun t => ⟨filled.find_eq t, filled.triangle_eq t⟩, ?_⟩
  · intro object member shown hasBbox
    apply filled.owns _ _ (filed object member).1 (filed object member).2 hasBbox
    · exact unique.sublist (List.filter_sublist.map _)
    · rw [mem_filter, shown]
      exact ⟨member, rfl⟩
  · intro t
    rw [filled.find_eq, map_eq_none_iff, List.getElem?_eq_none_iff, count.2]

end BatchGeometry

namespace BatchView

open BatchGeometry OsgScene

variable {view : BatchView} {scene : OsgScene} {key : BatchKey}

/-- Every geometry is the one of its batch for the ids that are hidden now. -/
structure Fresh (view : BatchView) : Prop where
  built : ∀ key, view.built key = (view.scene.frame key).map fun held =>
    .fill view.scene.hiddenObjects key.type held.1
  unique : ∀ key held, view.scene.frame key = some held → (held.1.map ObjectRecord.objectId).Nodup
  filed : ∀ key held, view.scene.frame key = some held → ∀ object ∈ held.1,
    (object.type = key.type ∧ object.batched = true) ∧
      view.scene.objectIdToBatchKey object.objectId = some key

lemma fill_congr {hidden hidden' : String → Bool} (type : ObjectType) {objects : List ObjectRecord}
    (agree : ∀ object ∈ objects, hidden' object.objectId = hidden object.objectId) :
    fill hidden' type objects = fill hidden type objects := by
  rw [BatchGeometry.fill, BatchGeometry.fill]
  apply foldl_ext
  intro geometry object member
  rw [agree object member]

lemma fill_shown (hidden : String → Bool) (type : ObjectType) (objects : List ObjectRecord) :
    fill hidden type (objects.filter fun object => !hidden object.objectId) =
      fill hidden type objects := by
  rw [BatchGeometry.fill, BatchGeometry.fill, foldl_filter]
  apply foldl_ext
  intro geometry object _
  cases hidden object.objectId with
  | true => rfl
  | false => rfl

lemma rebuilt_eq (built : BatchKey → Option BatchGeometry) (scene : OsgScene) (key : BatchKey) :
    rebuilt built scene key = update built key ((scene.frame key).map fun held =>
      .fill scene.hiddenObjects key.type held.1) := by
  rw [rebuilt, frame, Option.map_map]
  rfl

lemma fresh_kept (fresh : Fresh view) (same : SameFrames scene view.scene)
    (agree : ∀ id key, view.scene.objectIdToBatchKey id = some key →
      scene.hiddenObjects id = view.scene.hiddenObjects id) : Fresh ⟨scene, view.built⟩ where
  built := by
    intro key
    dsimp only
    rw [fresh.built key, same.frames key]
    cases isFrame : view.scene.frame key with
    | none => rfl
    | some held =>
      rw [map_some, map_some]
      congr 1
      symm
      apply fill_congr
      intro object member
      exact agree _ key (fresh.filed key held isFrame object member).2
  unique := by
    intro key held isFrame
    rw [same.frames key] at isFrame
    exact fresh.unique key held isFrame
  filed := by
    intro key held isFrame
    rw [same.frames key] at isFrame
    rw [same.keys]
    exact fresh.filed key held isFrame

lemma fresh_rebuilt (fresh : Fresh view) (same : SameFrames scene view.scene) (key : BatchKey)
    (agree : ∀ id other, view.scene.objectIdToBatchKey id = some other → other ≠ key →
      scene.hiddenObjects id = view.scene.hiddenObjects id) :
    Fresh ⟨scene, rebuilt view.built scene key⟩ where
  built := by
    intro other
    dsimp only
    rw [rebuilt_eq]
    by_cases isKey : other = key
    · rw [isKey, update_self]
    · rw [update_of_ne isKey, fresh.built other, same.frames other]
      cases isFrame : view.scene.frame other with
      | none => rfl
      | some held =>
        rw [map_some, map_some]
        congr 1
        symm
        apply fill_congr
        intro object member
        exact agree _ other (fresh.filed other held isFrame object member).2 isKey
  unique := by
    intro key held isFrame
    rw [same.frames key] at isFrame
    exact fresh.unique key held isFrame
  filed := by
    intro key held isFrame
    rw [same.frames key] at isFrame
    rw [same.keys]
    exact fresh.filed key held isFrame

lemma setObjectVisible_fresh (fresh : Fresh view) (objectId : String) (visible : Bool) :
    Fresh (view.setObjectVisible objectId visible) := by
  have same := setObjectVisible_sameFrames view.scene objectId visible
  rw [setObjectVisible]
  cases isFiled : view.scene.objectIdToBatchKey objectId with
  | some key =>
    apply fresh_rebuilt fresh same
    intro id other filedAt different
    refine (setObjectVisible_other objectId visible id ?_).1
    intro isId
    rw [isId, isFiled, some.injEq] at filedAt
    exact different filedAt.symm
  | none =>
    apply fresh_kept fresh same
    intro id key filedAt
    refine (setObjectVisible_other objectId visible id ?_).1
    intro isId
    rw [isId, isFiled] at filedAt
    cases filedAt

lemma restoreSelection_fresh (fresh : Fresh view) :
    Fresh view.restoreSelection ∧ view.restoreSelection.scene = view.scene.restoreSelection := by
  have same := (restoreSelection_sameFrames view.scene).1
  rw [restoreSelection]
  cases isPrevious : view.scene.previousKey with
  | some key =>
    refine ⟨fresh_rebuilt fresh same key ?_, rfl⟩
    intro id other filedAt different
    rw [restoreSelection_hidden, if_neg]
    rintro ⟨_, rfl⟩
    rw [previousKey] at isPrevious
    split at isPrevious
    · cases isPrevious
    · rw [filedAt, some.injEq] at isPrevious
      exact different isPrevious
  | none =>
    refine ⟨fresh_kept fresh same ?_, rfl⟩
    intro id key _
    rw [restoreSelection_hidden, isPrevious, if_neg (by simp)]

lemma setSelectedObject_fresh (fresh : Fresh view) (objectId : String) :
    Fresh (view.setSelectedObject objectId) := by
  rcases restoreSelection_fresh fresh with ⟨restored, isScene⟩
  have same : SameFrames (view.scene.setSelectedObject objectId) view.restoreSelection.scene := by
    have before := (restoreSelection_sameFrames view.scene).1
    have after := (setSelectedObject_sameFrames view.scene objectId).1
    rw [isScene]
    exact ⟨fun key => (after.frames key).trans (before.frames key).symm,
      after.keys.trans before.keys.symm, after.layers.trans before.layers.symm,
      after.pending.trans before.pending.symm⟩
  have keys : view.restoreSelection.scene.objectIdToBatchKey = view.scene.objectIdToBatchKey := by
    rw [isScene]
    exact (restoreSelection_sameFrames view.scene).1.keys
  have hidden := setSelectedObject_hidden view.scene objectId
  rw [← isScene] at hidden
  simp only [setSelectedObject]
  split
  · rename_i isEmpty
    apply fresh_kept restored same
    intro id key _
    rw [hidden, if_neg (by simp [isEmpty])]
  · split
    · rename_i key isFiled
      apply fresh_rebuilt restored same
      intro id other filedAt different
      rw [hidden, if_neg]
      rintro ⟨_, _, rfl⟩
      rw [filedAt, some.injEq] at isFiled
      exact different isFiled
    · rename_i isUnfiled
      apply fresh_kept restored same
      intro id key _
      rw [keys] at isUnfiled
      rw [hidden, if_neg (by simp [isUnfiled])]

lemma rebuildBatch_fresh (fresh : Fresh view) (key : BatchKey) : Fresh (view.rebuildBatch key) := by
  apply fresh_rebuilt fresh (rebuildBatch_sameFrames view.scene key)
  intro id other _ _
  rw [rebuildBatch_hidden]

lemma after_fresh (fresh : Fresh view) (call : BatchCall) : Fresh (view.after call) := by
  cases call with
  | setObjectVisible objectId visible => exact setObjectVisible_fresh fresh objectId visible
  | setSelectedObject objectId => exact setSelectedObject_fresh fresh objectId
  | rebuildBatch key => exact rebuildBatch_fresh fresh key

lemma index_ids (index : String → Option ObjectRecord) (objects : List ObjectRecord)
    (named : ∀ id record, index id = some record → record.objectId = id) :
    ((objects.filterMap fun object => index object.objectId).map ObjectRecord.objectId).Sublist
      (objects.map ObjectRecord.objectId) := by
  induction objects with
  | nil => exact List.Sublist.refl []
  | cons object objects ih =>
    rw [filterMap_cons, map_cons]
    cases found : index object.objectId with
    | none => exact ih.cons _
    | some record =>
      rw [map_cons, named _ record found]
      exact ih.cons_cons _

lemma loadSnapshot_fresh (scene : OsgScene) {snapshot : SceneSnapshot}
    (unique : snapshot.UniqueIds) : Fresh (loadSnapshot scene snapshot) := by
  have consistent := loadSnapshot_consistent scene snapshot unique
  have rest := loadedFrom_rest scene snapshot
  have isBatch : ∀ key batch, (scene.loadSnapshot snapshot).layerBatches key = some batch →
      batch.objects = ((scene.loadedFrom snapshot).groupObjects snapshot.objects key).filter
        fun object => !(scene.loadedFrom snapshot).hiddenObjects object.objectId := by
    intro key batch found
    rw [loadSnapshot_eq] at found
    simp only [buildBatches] at found
    split at found
    · rw [← some.inj found]
    · cases found
  refine ⟨?_, ?_, ?_⟩
  · intro key
    dsimp only [loadSnapshot]
    rw [frame, Option.map_map]
    cases found : (scene.loadSnapshot snapshot).layerBatches key with
    | none => rfl
    | some batch =>
      have hidden : (scene.loadSnapshot snapshot).hiddenObjects =
          (scene.loadedFrom snapshot).hiddenObjects := rfl
      simp only [map_some, comp]
      rw [isBatch key batch found, hidden, fill_shown]
  · intro key held isFrame
    rcases map_eq_some_iff.mp isFrame with ⟨batch, found, rfl⟩
    have named : ∀ id record, (scene.loadedFrom snapshot).objectIndexById id = some record →
        record.objectId = id := by
      intro id record isRecord
      rw [index_rest rest] at isRecord
      exact (indexBy_some isRecord).2
    dsimp only
    rw [isBatch key batch found]
    apply List.Nodup.sublist _ unique
    calc List.Sublist _ (((scene.loadedFrom snapshot).groupObjects snapshot.objects key).map
          ObjectRecord.objectId) := List.filter_sublist.map _
      List.Sublist _ _ := index_ids _ _ named
      List.Sublist _ _ := List.filter_sublist.map _
  · intro key held isFrame object member
    rcases map_eq_some_iff.mp isFrame with ⟨batch, found, rfl⟩
    have its := consistent.filed.batches key batch found object member
    rcases consistent.filed.keys _ key its.2.2 with ⟨record, isRecord, sameId, _, isKey⟩
    have same := record_unique consistent.filed.unique isRecord its.1 sameId
    rw [same] at isKey
    exact ⟨⟨by rw [isKey]; rfl, its.2.1⟩, its.2.2⟩

lemma run_fresh (scene : OsgScene) {snapshot : SceneSnapshot} (unique : snapshot.UniqueIds)
    (calls : List BatchCall) : Fresh (run after (loadSnapshot scene snapshot) calls) :=
  run_invariant (fun _ call _ fresh => after_fresh fresh call) (fun _ _ => trivial)
    (loadSnapshot_fresh scene unique)

/-- Ranges partition the triangles, and picking gives the object that a triangle was generated for.
-/
theorem batch_picking_exact (scene : OsgScene) (snapshot : SceneSnapshot) (calls : List BatchCall)
    (unique : snapshot.UniqueIds) (key : BatchKey) (batch : LayerBatch)
    (found : (run after (loadSnapshot scene snapshot) calls).scene.layerBatches key = some batch) :
    ∃ geometry, (run after (loadSnapshot scene snapshot) calls).built key = some geometry ∧
      Exact (run after (loadSnapshot scene snapshot) calls).scene.hiddenObjects key.type
        batch.objects geometry := by
  have fresh := run_fresh scene unique calls
  have isFrame : (run after (loadSnapshot scene snapshot) calls).scene.frame key =
      some (batch.objects, batch.nodeMask) := by
    rw [frame, found, Option.map_some]
  refine ⟨_, by rw [fresh.built key, isFrame, Option.map_some], ?_⟩
  exact fill_exact (fresh.unique key _ isFrame) fun object member =>
    (fresh.filed key _ isFrame object member).1

/-- Two wires of one batch, of which `b` is selected and then given up. -/
def selectedWire : BatchView :=
  run after (loadSnapshot (.new (flatFrustum 0) false false) (twoLayers "m1"))
    [.setSelectedObject "b", .setSelectedObject ""]

theorem batch_picking_exact_sample :
    ∃ geometry, selectedWire.built ⟨"m1", .Wire⟩ = some geometry ∧
      Exact selectedWire.scene.hiddenObjects .Wire [sampleWire "a" "m1", sampleWire "b" "m1"]
        geometry :=
  batch_picking_exact _ (twoLayers "m1") _ (twoLayers_unique "m1" _ mem_cons_self) ⟨"m1", .Wire⟩
    ⟨[sampleWire "a" "m1", sampleWire "b" "m1"],
      [(sampleWire "a" "m1", 12), (sampleWire "b" "m1", 12)], true⟩ (by decide)

example : (selectedWire.built ⟨"m1", .Wire⟩).map (fun geometry =>
    (geometry.findObjectIdByTri 11, geometry.findObjectIdByTri 12)) = some (some "a", some "b") := by
  decide

end BatchView

end OpenRoad.Viewer
