import OpenRoad.Lib.Extents
import OpenRoad.Viewer.NodeGeometry
import OpenRoad.Viewer.SceneBuilder

/-! Where the geometry of a node lies. -/

namespace OpenRoad.Viewer

open Lib List

def boxCenter (object : ObjectRecord) : Vec3 ℚ :=
  ⟨(object.bboxMin.x + object.bboxMax.x) / 2, (object.bboxMin.y + object.bboxMax.y) / 2,
    (object.bboxMin.z + object.bboxMax.z) / 2⟩

def Centered (object : ObjectRecord) : Prop :=
  object.transform = [1, 0, 0, 0, 0, 1, 0, 0, 0, 0, 1, 0, (boxCenter object).x, (boxCenter object).y,
    (boxCenter object).z, 1]

structure Covers (vertices : List (Vec3 ℚ)) (lo hi : Vec3 ℚ) : Prop where
  x : Spans (vertices.map Vec3.x) lo.x hi.x
  y : Spans (vertices.map Vec3.y) lo.y hi.y
  z : Spans (vertices.map Vec3.z) lo.z hi.z

def AxisMatches (lo hi min max : ℚ) : Prop :=
  lo = min ∧ (hi = max ∨ (max - min < 1 / 100 ∧ hi = min + 1 / 100))

structure Matches (object : ObjectRecord) (lo hi : Vec3 ℚ) : Prop where
  x : AxisMatches lo.x hi.x object.bboxMin.x object.bboxMax.x
  y : AxisMatches lo.y hi.y object.bboxMin.y object.bboxMax.y
  z : AxisMatches lo.z hi.z object.bboxMin.z object.bboxMax.z

section

variable (stof : String → Option ℚ) (length : Vec2 → ℚ)

/-- The node is drawn where the record says, and where its batch draws it if it has one. -/
def DrawnInPlace (object : ObjectRecord) (layer : Option LayerRecord) : Prop :=
  ∃ fuel vertices lo hi, createSceneObject stof length fuel object layer = some vertices ∧
    Covers vertices lo hi ∧ Matches object lo hi ∧
    (object.batched = true → Covers (batchVertices object) lo hi)

/-- Points of the plane that fill the box in x and y. -/
def InPlane (points : List Vec2) (object : ObjectRecord) : Prop :=
  (∃ lo hi, Spans (points.map Prod.fst) lo hi ∧
    AxisMatches lo hi object.bboxMin.x object.bboxMax.x) ∧
  ∃ lo hi, Spans (points.map Prod.snd) lo hi ∧ AxisMatches lo hi object.bboxMin.y object.bboxMax.y

def clampedWidth (object : ObjectRecord) : ℚ := max (1 / 100) (object.bboxMax.x - object.bboxMin.x)

def clampedHeight (object : ObjectRecord) : ℚ := max (1 / 100) (object.bboxMax.y - object.bboxMin.y)

def clampedDepth (object : ObjectRecord) : ℚ := max (1 / 100) (object.bboxMax.z - object.bboxMin.z)

def wireStrips (object : ObjectRecord) (layer : LayerRecord) : List Vec2 :=
  (strips length (layer.lineWidth * (1 / 2))
    (parsePolylinePoints stof object.geometryRef)).flatten.map
      (· + (object.bboxMax.x, object.bboxMax.y))

def localPolygon (object : ObjectRecord) : List Vec2 :=
  (parsePolylinePoints stof object.geometryRef).map fun point =>
    point - ((boxCenter object).x, (boxCenter object).y)

/-- A box needs nothing, unless its offset leaves the center in; points have to fill the box. -/
def PlacedInPlane (object : ObjectRecord) (layer : Option LayerRecord) : Prop :=
  let points := parsePolylinePoints stof object.geometryRef
  match object.type with
  | .Inst | .Pin | .Bump | .Via | .Drc => True
  | .Blockage => 3 ≤ points.length →
    (∃ fuel, (triangulatePolygon (localPolygon stof object) fuel).isSome) ∧ InPlane points object
  | .Wire => (2 / 100 ≤ clampedWidth object ∨ 2 / 100 ≤ clampedHeight object) ∧
    ∃ onLayer, layer = some onLayer ∧ (2 ≤ points.length →
      Spans ((wireStrips stof length object onLayer).map Prod.fst) object.bboxMin.x
        (object.bboxMin.x + clampedWidth object) ∧
      Spans ((wireStrips stof length object onLayer).map Prod.snd) object.bboxMin.y
        (object.bboxMin.y + clampedHeight object))
  | .Track => InPlane (inPairs points) object
  | .Text | .Unknown => (boxCenter object).x = 0 ∧ (boxCenter object).y = 0

end

variable {object : ObjectRecord} {lo hi lo' hi' : Vec3 ℚ} {vertices : List (Vec3 ℚ)}

lemma Covers.unique (covers : Covers vertices lo hi) (covers' : Covers vertices lo' hi') :
    lo = lo' ∧ hi = hi' := by
  rcases covers.x.unique covers'.x with ⟨lowX, highX⟩
  rcases covers.y.unique covers'.y with ⟨lowY, highY⟩
  rcases covers.z.unique covers'.z with ⟨lowZ, highZ⟩
  cases lo
  cases hi
  cases lo'
  cases hi'
  simp only at lowX highX lowY highY lowZ highZ
  simp only [lowX, highX, lowY, highY, lowZ, highZ, and_self]

lemma covers_iff (covers : Covers vertices lo hi) :
    Covers vertices lo' hi' ↔ lo' = lo ∧ hi' = hi := by
  constructor
  · intro covers'
    exact covers'.unique covers
  · rintro ⟨rfl, rfl⟩
    exact covers

lemma covers_boxFaces {x y z0 x1 y1 z1 : ℚ} (leX : x ≤ x1) (leY : y ≤ y1) (leZ : z0 ≤ z1) :
    Covers (boxFaces x y z0 x1 y1 z1) ⟨x, y, z0⟩ ⟨x1, y1, z1⟩ := by
  constructor
  · apply spans_two leX
    intro c
    simp only [boxFaces, map_cons, map_nil, mem_cons, not_mem_nil, or_false]
    tauto
  · apply spans_two leY
    intro c
    simp only [boxFaces, map_cons, map_nil, mem_cons, not_mem_nil, or_false]
    tauto
  · apply spans_two leZ
    intro c
    simp only [boxFaces, map_cons, map_nil, mem_cons, not_mem_nil, or_false]
    tauto

lemma axisMatches_clamped (min max' : ℚ) :
    AxisMatches min (min + max (1 / 100) (max' - min)) min max' := by
  refine ⟨rfl, ?_⟩
  rcases lt_or_ge (max' - min) (1 / 100) with small | large
  · rw [max_eq_left small.le]
    exact Or.inr ⟨small, rfl⟩
  · rw [max_eq_right large]
    exact Or.inl (by ring)

lemma axisMatches_center (min max' depth : ℚ) (isDepth : depth = max (1 / 100) (max' - min)) :
    AxisMatches ((min + max') / 2) ((min + max') / 2 + depth) min max' ↔ min = max' := by
  constructor
  · rintro ⟨low, _⟩
    linarith
  · rintro rfl
    rw [isDepth]
    have center : (min + min) / 2 = min := by ring
    rw [center]
    exact axisMatches_clamped min min

def shift (center point : Vec3 ℚ) : Vec3 ℚ :=
  ⟨point.x + center.x, point.y + center.y, point.z + center.z⟩

lemma preMult_centered (centered : Centered object) :
    preMult object.transform = shift (boxCenter object) := by
  funext point
  rw [centered]
  simp [preMult, shift]

lemma translation_centered (centered : Centered object) :
    translationX object = (boxCenter object).x ∧ translationY object = (boxCenter object).y ∧
      translationZ object = (boxCenter object).z := by
  rw [translationX, translationY, translationZ, centered]
  exact ⟨rfl, rfl, rfl⟩

section

variable {stof : String → Option ℚ} {length : Vec2 → ℚ} {layer : Option LayerRecord}

variable {locals : List (Vec3 ℚ)}

lemma drawnInPlace_iff (centered : Centered object)
    (draws : ∀ fuel, attachObjectGeometry stof length fuel object layer = some locals)
    (covers : Covers (locals.map (shift (boxCenter object))) lo hi) :
    DrawnInPlace stof length object layer ↔
      Matches object lo hi ∧ (object.batched = true → Covers (batchVertices object) lo hi) := by
  have created : ∀ fuel, createSceneObject stof length fuel object layer =
      some (locals.map (shift (boxCenter object))) := by
    intro fuel
    rw [createSceneObject, draws fuel, Option.map_some, preMult_centered centered]
  constructor
  · rintro ⟨fuel, vertices, low, high, drawn, covers', isMatch, batch⟩
    rw [created fuel, Option.some.injEq] at drawn
    rw [← drawn] at covers'
    rcases (covers_iff covers).mp covers' with ⟨rfl, rfl⟩
    exact ⟨isMatch, batch⟩
  · rintro ⟨isMatch, batch⟩
    exact ⟨0, _, lo, hi, created 0, covers, isMatch, batch⟩

def raisedLow (object : ObjectRecord) : Vec3 ℚ :=
  ⟨object.bboxMin.x, object.bboxMin.y, (boxCenter object).z⟩

def raisedHigh (object : ObjectRecord) : Vec3 ℚ :=
  ⟨object.bboxMin.x + clampedWidth object, object.bboxMin.y + clampedHeight object,
    (boxCenter object).z + clampedDepth object⟩

lemma clamped_nonneg (size : ℚ) : 0 ≤ max (1 / 100) size :=
  le_max_of_le_left (by norm_num)

lemma createBox_covers (center : Vec3 ℚ) (x y : ℚ) {width height depth : ℚ} (width_nonneg : 0 ≤ width)
    (height_nonneg : 0 ≤ height) (depth_nonneg : 0 ≤ depth) :
    Covers ((createBoxGeometry x y width height depth).map (shift center))
      ⟨x + center.x, y + center.y, center.z⟩
      ⟨x + center.x + width, y + center.y + height, center.z + depth⟩ := by
  have moved : (createBoxGeometry x y width height depth).map (shift center) =
      boxFaces (x + center.x) (y + center.y) center.z (x + center.x + width)
        (y + center.y + height) (center.z + depth) := by
    simp only [createBoxGeometry, boxFaces, shift, map_cons, map_nil, zero_add,
      add_right_comm _ _ center.x, add_right_comm _ _ center.y, add_comm depth]
  rw [moved]
  exact covers_boxFaces (le_add_of_nonneg_right width_nonneg)
    (le_add_of_nonneg_right height_nonneg) (le_add_of_nonneg_right depth_nonneg)

lemma centeredBox_covers (object : ObjectRecord) :
    Covers ((createBoxGeometry (object.bboxMin.x - (boxCenter object).x)
      (object.bboxMin.y - (boxCenter object).y) (clampedWidth object) (clampedHeight object)
      (clampedDepth object)).map (shift (boxCenter object))) (raisedLow object)
      (raisedHigh object) := by
  have covers := createBox_covers (boxCenter object) (object.bboxMin.x - (boxCenter object).x)
    (object.bboxMin.y - (boxCenter object).y) (clamped_nonneg (object.bboxMax.x - object.bboxMin.x))
    (clamped_nonneg (object.bboxMax.y - object.bboxMin.y))
    (clamped_nonneg (object.bboxMax.z - object.bboxMin.z))
  simp only [sub_add_cancel] at covers
  exact covers

lemma raised_matches_iff : AxisMatches (boxCenter object).z
    ((boxCenter object).z + clampedDepth object) object.bboxMin.z object.bboxMax.z ↔
    object.bboxMin.z = object.bboxMax.z :=
  axisMatches_center _ _ _ rfl

lemma matches_raised : Matches object (raisedLow object) (raisedHigh object) ↔
    object.bboxMin.z = object.bboxMax.z := by
  constructor
  · intro isMatch
    exact raised_matches_iff.mp isMatch.z
  · intro flat
    exact ⟨axisMatches_clamped _ _, axisMatches_clamped _ _, raised_matches_iff.mpr flat⟩

def batchWidth (object : ObjectRecord) : ℚ :=
  if clampedWidth object < 2 / 100 ∧ clampedHeight object < 2 / 100 ∧ object.type = .Wire then 2 / 100
  else clampedWidth object

def batchHeight (object : ObjectRecord) : ℚ :=
  if clampedWidth object < 2 / 100 ∧ clampedHeight object < 2 / 100 ∧ object.type = .Wire then 2 / 100
  else clampedHeight object

lemma batchVertices_eq (hasBbox : object.hasBbox = true) (batched : object.batched = true) :
    batchVertices object = boxFaces object.bboxMin.x object.bboxMin.y object.bboxMin.z
      (object.bboxMin.x + batchWidth object) (object.bboxMin.y + batchHeight object)
      (object.bboxMin.z + clampedDepth object) := by
  rw [batchVertices, batchVerticesOf]
  split
  · rename_i isVia
    have notWire : object.type ≠ .Wire := by
      rw [isVia]
      decide
    rw [batchWidth, batchHeight, if_neg fun hairline => notWire hairline.2.2,
      if_neg fun hairline => notWire hairline.2.2]
    rfl
  · rename_i notVia
    have isWire : object.type = .Wire := by
      rw [ObjectRecord.batched, Bool.or_eq_true, decide_eq_true_eq, decide_eq_true_eq] at batched
      exact batched.resolve_right notVia
    rw [appendWireToBatch, if_neg (by simp [hasBbox]), batchWidth, batchHeight]
    simp only [isWire, and_true]
    change appendBoxToBatch _ _ (if clampedWidth object < 2 / 100 ∧ clampedHeight object < 2 / 100
      then max (clampedWidth object) (2 / 100) else clampedWidth object)
      (if clampedWidth object < 2 / 100 ∧ clampedHeight object < 2 / 100
      then max (clampedHeight object) (2 / 100) else clampedHeight object)
      (clampedDepth object) _ = _
    by_cases hairline : clampedWidth object < 2 / 100 ∧ clampedHeight object < 2 / 100
    · rw [if_pos hairline, if_pos hairline, if_pos hairline, if_pos hairline,
        max_eq_right hairline.1.le, max_eq_right hairline.2.le]
      rfl
    · rw [if_neg hairline, if_neg hairline, if_neg hairline, if_neg hairline]
      rfl

lemma batch_covers (hasBbox : object.hasBbox = true) (batched : object.batched = true) :
    Covers (batchVertices object) object.bboxMin
      ⟨object.bboxMin.x + batchWidth object, object.bboxMin.y + batchHeight object,
        object.bboxMin.z + clampedDepth object⟩ := by
  have nonneg : 0 ≤ batchWidth object ∧ 0 ≤ batchHeight object := by
    constructor
    · rw [batchWidth]
      split
      · norm_num
      · exact clamped_nonneg _
    · rw [batchHeight]
      split
      · norm_num
      · exact clamped_nonneg _
  rw [batchVertices_eq hasBbox batched]
  exact covers_boxFaces (le_add_of_nonneg_right nonneg.1) (le_add_of_nonneg_right nonneg.2)
    (le_add_of_nonneg_right (clamped_nonneg _))

lemma center_flat (flat : object.bboxMin.z = object.bboxMax.z) :
    (boxCenter object).z = object.bboxMin.z := by
  rw [boxCenter, ← flat]
  ring

lemma notHairline
    (wide : object.type = .Wire → 2 / 100 ≤ clampedWidth object ∨ 2 / 100 ≤ clampedHeight object) :
    ¬ (clampedWidth object < 2 / 100 ∧ clampedHeight object < 2 / 100 ∧ object.type = .Wire) := by
  rintro ⟨narrow, low, isWire⟩
  rcases wide isWire with wider | higher
  · exact absurd narrow wider.not_gt
  · exact absurd low higher.not_gt

lemma batch_raised_iff (hasBbox : object.hasBbox = true) (batched : object.batched = true)
    (flat : object.bboxMin.z = object.bboxMax.z) :
    Covers (batchVertices object) (raisedLow object) (raisedHigh object) ↔
      (object.type = .Wire → 2 / 100 ≤ clampedWidth object ∨ 2 / 100 ≤ clampedHeight object) := by
  have low : raisedLow object = object.bboxMin := by rw [raisedLow, center_flat flat]
  have high : raisedHigh object = ⟨object.bboxMin.x + batchWidth object,
      object.bboxMin.y + batchHeight object, object.bboxMin.z + clampedDepth object⟩ ↔
      clampedWidth object = batchWidth object ∧ clampedHeight object = batchHeight object := by
    rw [raisedHigh, center_flat flat, Vec3.mk.injEq, add_right_inj, add_right_inj]
    simp only [and_true]
  rw [covers_iff (batch_covers hasBbox batched), high]
  simp only [low, true_and]
  rw [batchWidth, batchHeight]
  constructor
  · rintro ⟨width, height⟩ isWire
    by_contra hairline
    rw [not_or, not_le, not_le] at hairline
    rw [if_pos ⟨hairline.1, hairline.2, isWire⟩] at width
    exact hairline.1.ne width
  · intro wide
    rw [if_neg (notHairline wide), if_neg (notHairline wide)]
    exact ⟨rfl, rfl⟩

lemma wide_of_axisMatches
    (isMatch : AxisMatches object.bboxMin.x (object.bboxMin.x + batchWidth object) object.bboxMin.x
      object.bboxMax.x) (isWire : object.type = .Wire) :
    2 / 100 ≤ clampedWidth object ∨ 2 / 100 ≤ clampedHeight object := by
  by_contra hairline
  rw [not_or, not_le, not_le] at hairline
  have widened : batchWidth object = 2 / 100 := by
    rw [batchWidth, if_pos ⟨hairline.1, hairline.2, isWire⟩]
  have narrow : object.bboxMax.x - object.bboxMin.x < 2 / 100 :=
    (le_max_right _ _).trans_lt hairline.1
  rw [widened] at isMatch
  rcases isMatch.2 with isMax | ⟨_, isLeast⟩
  · linarith
  · linarith

lemma box_inPlace_iff (centered : Centered object) (hasBbox : object.hasBbox = true)
    (draws : ∀ fuel, attachObjectGeometry stof length fuel object layer =
      some (createBoxGeometry (object.bboxMin.x - (boxCenter object).x)
        (object.bboxMin.y - (boxCenter object).y) (clampedWidth object) (clampedHeight object)
        (clampedDepth object))) :
    DrawnInPlace stof length object layer ↔ object.bboxMin.z = object.bboxMax.z ∧
      (object.type = .Wire → 2 / 100 ≤ clampedWidth object ∨ 2 / 100 ≤ clampedHeight object) := by
  rw [drawnInPlace_iff centered draws (centeredBox_covers object), matches_raised]
  refine and_congr_right fun flat => ?_
  by_cases batched : object.batched = true
  · rw [← batch_raised_iff hasBbox batched flat]
    exact ⟨fun all => all batched, fun holds _ => holds⟩
  · refine iff_of_true (fun isBatched => absurd isBatched batched) fun isWire => ?_
    rw [ObjectRecord.batched, isWire] at batched
    exact absurd rfl batched

lemma boxGeometry_centered (centered : Centered object) (hasBbox : object.hasBbox = true)
    (defaultDepth : ℚ) :
    boxGeometry (computeLocalBoxParamsFromBbox object defaultDepth true) =
      createBoxGeometry (object.bboxMin.x - (boxCenter object).x)
        (object.bboxMin.y - (boxCenter object).y) (clampedWidth object) (clampedHeight object)
        (clampedDepth object) := by
  rcases translation_centered centered with ⟨x, y, _⟩
  rw [computeLocalBoxParamsFromBbox, if_neg (by simp [hasBbox]), if_pos rfl, if_pos rfl, x, y]
  rfl

/-- The vertices are the points at the bottom and at the top of a body, relative to its center. -/
def Extrudes (object : ObjectRecord) (thickness : ℚ) (points : List Vec2)
    (locals : List (Vec3 ℚ)) : Prop :=
  ∀ vertex, vertex ∈ locals ↔ ∃ point ∈ points,
    vertex = ⟨point.1 - (boxCenter object).x, point.2 - (boxCenter object).y, 0⟩ ∨
    vertex = ⟨point.1 - (boxCenter object).x, point.2 - (boxCenter object).y, thickness⟩

variable {points : List Vec2} {thickness : ℚ}

lemma Extrudes.mem_shift (extrudes : Extrudes object thickness points locals) (vertex : Vec3 ℚ) :
    vertex ∈ locals.map (shift (boxCenter object)) ↔ ∃ point ∈ points,
      vertex = ⟨point.1, point.2, (boxCenter object).z⟩ ∨
      vertex = ⟨point.1, point.2, (boxCenter object).z + thickness⟩ := by
  rw [mem_map]
  constructor
  · rintro ⟨start, member, rfl⟩
    rcases (extrudes start).mp member with ⟨point, isPoint, rfl | rfl⟩
    · exact ⟨point, isPoint, Or.inl (by simp only [shift, sub_add_cancel, zero_add])⟩
    · exact ⟨point, isPoint, Or.inr (by simp only [shift, sub_add_cancel, add_comm thickness])⟩
  · rintro ⟨point, isPoint, rfl | rfl⟩
    · exact ⟨_, (extrudes _).mpr ⟨point, isPoint, Or.inl rfl⟩,
        by simp only [shift, sub_add_cancel, zero_add]⟩
    · exact ⟨_, (extrudes _).mpr ⟨point, isPoint, Or.inr rfl⟩,
        by simp only [shift, sub_add_cancel, add_comm thickness]⟩

lemma Extrudes.mem_coordinate (extrudes : Extrudes object thickness points locals)
    (get : Vec3 ℚ → ℚ) (getPoint : Vec2 → ℚ)
    (same : ∀ point z, get ⟨point.1, point.2, z⟩ = getPoint point) (a : ℚ) :
    a ∈ (locals.map (shift (boxCenter object))).map get ↔ a ∈ points.map getPoint := by
  rw [mem_map, mem_map]
  constructor
  · rintro ⟨vertex, member, rfl⟩
    rcases (extrudes.mem_shift vertex).mp member with ⟨point, isPoint, rfl | rfl⟩
    · exact ⟨point, isPoint, (same _ _).symm⟩
    · exact ⟨point, isPoint, (same _ _).symm⟩
  · rintro ⟨point, isPoint, rfl⟩
    exact ⟨_, (extrudes.mem_shift _).mpr ⟨point, isPoint, Or.inl rfl⟩, same _ _⟩

lemma Extrudes.covers_iff (nonneg : 0 ≤ thickness)
    (extrudes : Extrudes object thickness points locals) :
    Covers (locals.map (shift (boxCenter object))) lo hi ↔
      Spans (points.map Prod.fst) lo.x hi.x ∧ Spans (points.map Prod.snd) lo.y hi.y ∧
      lo.z = (boxCenter object).z ∧ hi.z = (boxCenter object).z + thickness := by
  have xs := extrudes.mem_coordinate Vec3.x Prod.fst fun _ _ => rfl
  have ys := extrudes.mem_coordinate Vec3.y Prod.snd fun _ _ => rfl
  have zs : points ≠ [] → Spans ((locals.map (shift (boxCenter object))).map Vec3.z)
      (boxCenter object).z ((boxCenter object).z + thickness) := by
    intro notEmpty
    rcases exists_mem_of_ne_nil _ notEmpty with ⟨first, isThere⟩
    apply spans_two (le_add_of_nonneg_right nonneg)
    intro a
    rw [mem_map]
    constructor
    · rintro ⟨vertex, member, rfl⟩
      rcases (extrudes.mem_shift vertex).mp member with ⟨point, isPoint, rfl | rfl⟩
      · exact Or.inl rfl
      · exact Or.inr rfl
    · rintro (rfl | rfl)
      · exact ⟨_, (extrudes.mem_shift _).mpr ⟨first, isThere, Or.inl rfl⟩, rfl⟩
      · exact ⟨_, (extrudes.mem_shift _).mpr ⟨first, isThere, Or.inr rfl⟩, rfl⟩
  constructor
  · intro covers
    have spans := (spans_congr xs).mp covers.x
    have notEmpty : points ≠ [] := fun empty => spans.ne_nil (by rw [empty, map_nil])
    rcases covers.z.unique (zs notEmpty) with ⟨low, high⟩
    exact ⟨spans, (spans_congr ys).mp covers.y, low, high⟩
  · rintro ⟨x, y, low, high⟩
    have notEmpty : points ≠ [] := fun empty => x.ne_nil (by rw [empty, map_nil])
    refine ⟨(spans_congr xs).mpr x, (spans_congr ys).mpr y, ?_⟩
    rw [low, high]
    exact zs notEmpty

lemma extruded_inPlace_iff (centered : Centered object)
    (nonneg : 0 ≤ thickness) (notBatched : object.batched = false)
    (extrudes : ∀ fuel locals, attachObjectGeometry stof length fuel object layer = some locals →
      Extrudes object thickness points locals) :
    DrawnInPlace stof length object layer ↔
      (∃ fuel, (attachObjectGeometry stof length fuel object layer).isSome = true) ∧
      InPlane points object ∧ AxisMatches (boxCenter object).z ((boxCenter object).z + thickness)
        object.bboxMin.z object.bboxMax.z := by
  constructor
  · rintro ⟨fuel, vertices, lo, hi, drawn, covers, isMatch, _⟩
    rw [createSceneObject, preMult_centered centered, Option.map_eq_some_iff] at drawn
    rcases drawn with ⟨locals, draws, rfl⟩
    rcases ((extrudes fuel locals draws).covers_iff nonneg).mp covers with ⟨x, y, low, high⟩
    refine ⟨⟨fuel, by rw [draws, Option.isSome_some]⟩,
      ⟨⟨lo.x, hi.x, x, isMatch.x⟩, lo.y, hi.y, y, isMatch.y⟩, ?_⟩
    rw [← high, ← low]
    exact isMatch.z
  · rintro ⟨⟨fuel, ends⟩, ⟨⟨lowX, highX, x, matchX⟩, lowY, highY, y, matchY⟩, matchZ⟩
    rcases Option.isSome_iff_exists.mp ends with ⟨locals, draws⟩
    refine ⟨fuel, locals.map (shift (boxCenter object)), ⟨lowX, lowY, (boxCenter object).z⟩,
      ⟨highX, highY, (boxCenter object).z + thickness⟩, ?_, ?_, ⟨matchX, matchY, matchZ⟩, ?_⟩
    · rw [createSceneObject, preMult_centered centered, draws, Option.map_some]
    · exact ((extrudes fuel locals draws).covers_iff nonneg).mpr ⟨x, y, rfl, rfl⟩
    · intro batched
      rw [notBatched] at batched
      exact absurd batched Bool.false_ne_true

lemma extruded_batched_iff (centered : Centered object) (hasBbox : object.hasBbox = true)
    (isWire : object.type = .Wire)
    (draws : ∀ fuel, attachObjectGeometry stof length fuel object layer = some locals)
    (extrudes : Extrudes object (clampedDepth object) points locals) :
    DrawnInPlace stof length object layer ↔ object.bboxMin.z = object.bboxMax.z ∧
      (2 / 100 ≤ clampedWidth object ∨ 2 / 100 ≤ clampedHeight object) ∧
      Spans (points.map Prod.fst) object.bboxMin.x (object.bboxMin.x + clampedWidth object) ∧
      Spans (points.map Prod.snd) object.bboxMin.y (object.bboxMin.y + clampedHeight object) := by
  have batched : object.batched = true := by
    rw [ObjectRecord.batched, isWire]
    rfl
  constructor
  · rintro ⟨fuel, vertices, lo, hi, drawn, covers, isMatch, batch⟩
    rw [createSceneObject, draws fuel, Option.map_some, preMult_centered centered,
      Option.some.injEq] at drawn
    rw [← drawn, extrudes.covers_iff (clamped_nonneg _)] at covers
    rcases covers with ⟨x, y, low, _⟩
    rcases (covers_iff (batch_covers hasBbox batched)).mp (batch batched) with ⟨rfl, rfl⟩
    have flat : object.bboxMin.z = object.bboxMax.z := by
      simp only [boxCenter] at low
      linarith
    have wide := wide_of_axisMatches isMatch.x isWire
    rw [batchWidth, if_neg (notHairline fun _ => wide)] at x
    rw [batchHeight, if_neg (notHairline fun _ => wide)] at y
    exact ⟨flat, wide, x, y⟩
  · rintro ⟨flat, wide, x, y⟩
    have spanned : Covers (locals.map (shift (boxCenter object))) (raisedLow object)
        (raisedHigh object) :=
      (extrudes.covers_iff (clamped_nonneg _)).mpr ⟨x, y, rfl, rfl⟩
    exact (drawnInPlace_iff centered draws spanned).mpr ⟨matches_raised.mpr flat,
      fun _ => (batch_raised_iff hasBbox batched flat).mpr fun _ => wide⟩

end

end OpenRoad.Viewer
