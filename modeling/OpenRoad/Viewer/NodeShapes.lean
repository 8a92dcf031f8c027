import Mathlib.Data.List.GetD
import OpenRoad.Viewer.NodePlacement

/-! Which objects both ways of drawing put where their record says. -/

namespace OpenRoad.Viewer

open Lib List

section

variable {poly : List Vec2} {idx : List Nat} {tris : List Triangle}

def Triangle.CornersIn (tri : Triangle) (poly : List Vec2) : Prop :=
  tri.a ∈ poly ∧ tri.b ∈ poly ∧ tri.c ∈ poly

lemma vertexAt_mem (inside : ∀ k ∈ idx, k < poly.length) {p : Nat} (inRange : p < idx.length) :
    vertexAt poly idx p ∈ poly := by
  have index := inside idx[p] (getElem_mem inRange)
  rw [vertexAt, getD_eq_getElem _ _ inRange, getD_eq_getElem _ _ index]
  exact getElem_mem index

lemma prevIndex_lt {size p : Nat} (inRange : p < size) : prevIndex size p < size := by
  rw [prevIndex]
  split <;> omega

lemma nextIndex_lt {size p : Nat} (inRange : p < size) : nextIndex size p < size := by
  rw [nextIndex]
  split <;> omega

lemma triangleAt_cornersIn (inside : ∀ k ∈ idx, k < poly.length) {p : Nat}
    (inRange : p < idx.length) : (triangleAt poly idx p).CornersIn poly :=
  ⟨vertexAt_mem inside (prevIndex_lt inRange), vertexAt_mem inside inRange,
    vertexAt_mem inside (nextIndex_lt inRange)⟩

lemma clip_ends {fuel i : Nat} {rest : List Nat × List Triangle} (inside : ∀ k ∈ idx, k < poly.length)
    (large : 3 ≤ idx.length) (inRange : i < idx.length) (corners : ∀ tri ∈ tris, tri.CornersIn poly)
    (ends : clip poly fuel i idx tris = some rest) :
    rest.1.length = 3 ∧ (∀ k ∈ rest.1, k < poly.length) ∧ ∀ tri ∈ rest.2, tri.CornersIn poly := by
  induction fuel generalizing i idx tris with
  | zero =>
    rw [clip] at ends
    cases ends
  | succ fuel ih =>
    rw [clip] at ends
    split at ends
    · rename_i isMore
      split at ends
      · have shorter : (idx.eraseIdx i).length = idx.length - 1 :=
          length_eraseIdx_of_lt inRange
        apply ih _ _ _ _ ends
        · intro k member
          exact inside k (mem_of_mem_eraseIdx member)
        · omega
        · omega
        · intro tri member
          rcases mem_append.mp member with before | last
          · exact corners tri before
          · rw [mem_singleton.mp last]
            exact triangleAt_cornersIn inside inRange
      · exact ih inside large (Nat.mod_lt _ (by omega)) corners ends
    · rename_i isLast
      rw [Option.some.injEq] at ends
      rw [← ends]
      exact ⟨by simp only; omega, inside, corners⟩

lemma triangulatePolygon_corners {fuel : Nat} (large : 3 ≤ poly.length)
    (ends : triangulatePolygon poly fuel = some tris) :
    tris ≠ [] ∧ ∀ tri ∈ tris, tri.CornersIn poly := by
  rw [triangulatePolygon, if_neg (by omega), Option.map_eq_some_iff] at ends
  rcases ends with ⟨rest, clipped, rfl⟩
  have inside : ∀ k ∈ range poly.length, k < poly.length := fun k => mem_range.mp
  rcases clip_ends inside (by rw [length_range]; exact large)
    (by rw [length_range]; omega) (fun tri member => absurd member not_mem_nil) clipped
    with ⟨three, restInside, corners⟩
  rw [if_pos three]
  refine ⟨fun empty => cons_ne_nil _ _ (append_eq_nil_iff.mp empty).2, ?_⟩
  intro tri member
  rcases mem_append.mp member with before | last
  · exact corners tri before
  · rw [mem_singleton.mp last]
    exact ⟨vertexAt_mem restInside (by omega), vertexAt_mem restInside (by omega),
      vertexAt_mem restInside (by omega)⟩

end

section

variable {stof : String → Option ℚ} {length : Vec2 → ℚ} {object : ObjectRecord}

lemma mem_side {points : List Vec2} {point : Vec2} (member : point ∈ points) :
    ∃ next, (point, next) ∈ points.zip (points.rotate 1) := by
  rcases getElem_of_mem member with ⟨i, inRange, rfl⟩
  have inRotated : i < (points.rotate 1).length := by rwa [length_rotate]
  have inZip : i < (points.zip (points.rotate 1)).length := by
    rw [length_zip, length_rotate, min_self]
    exact inRange
  refine ⟨(points.rotate 1)[i], ?_⟩
  have atPlace : (points.zip (points.rotate 1))[i] = (points[i], (points.rotate 1)[i]) :=
    getElem_zip
  rw [← atPlace]
  exact getElem_mem inZip

lemma mem_createPolygonGeometry {fuel : Nat} {points : List Vec2} {thickness : ℚ}
    {locals : List (Vec3 ℚ)} (large : 3 ≤ points.length)
    (draws : createPolygonGeometry fuel points thickness = some locals) (vertex : Vec3 ℚ) :
    vertex ∈ locals ↔
      ∃ point ∈ points, vertex = ⟨point.1, point.2, 0⟩ ∨ vertex = ⟨point.1, point.2, thickness⟩ := by
  rw [createPolygonGeometry, if_neg (by omega), Option.map_eq_some_iff] at draws
  rcases draws with ⟨tris, triangulated, rfl⟩
  rcases triangulatePolygon_corners large triangulated with ⟨notEmpty, corners⟩
  rw [if_neg (by rw [List.isEmpty_iff]; exact notEmpty), mem_append, mem_flatMap,
    mem_flatMap]
  simp only [mem_cons, not_mem_nil, or_false]
  constructor
  · rintro (⟨tri, member, isCorner⟩ | ⟨side, member, isCorner⟩)
    · rcases corners tri member with ⟨a, b, c⟩
      rcases isCorner with rfl | rfl | rfl | rfl | rfl | rfl
      · exact ⟨_, a, Or.inl rfl⟩
      · exact ⟨_, b, Or.inl rfl⟩
      · exact ⟨_, c, Or.inl rfl⟩
      · exact ⟨_, a, Or.inr rfl⟩
      · exact ⟨_, b, Or.inr rfl⟩
      · exact ⟨_, c, Or.inr rfl⟩
    · have first := (of_mem_zip (a := side.1) (b := side.2) member).1
      have second := mem_rotate.mp (of_mem_zip (a := side.1) (b := side.2) member).2
      rcases isCorner with rfl | rfl | rfl | rfl | rfl | rfl
      · exact ⟨_, first, Or.inl rfl⟩
      · exact ⟨_, second, Or.inl rfl⟩
      · exact ⟨_, first, Or.inr rfl⟩
      · exact ⟨_, second, Or.inl rfl⟩
      · exact ⟨_, second, Or.inr rfl⟩
      · exact ⟨_, first, Or.inr rfl⟩
  · rintro ⟨point, member, isVertex⟩
    rcases mem_side member with ⟨next, isSide⟩
    refine Or.inr ⟨(point, next), isSide, ?_⟩
    rcases isVertex with rfl | rfl
    · exact Or.inl rfl
    · exact Or.inr (Or.inr (Or.inl rfl))

lemma stripCorners_sub (halfWidth : ℚ) (start finish offset : Vec2) :
    stripCorners length halfWidth (start - offset) (finish - offset) =
      (stripCorners length halfWidth start finish).map (· - offset) := by
  simp only [stripCorners, sub_sub_sub_cancel_right]
  split
  · rfl
  · simp only [map_cons, map_nil, sub_right_comm, sub_add_eq_add_sub]

lemma strips_sub (halfWidth : ℚ) (offset : Vec2) (points : List Vec2) :
    strips length halfWidth (points.map (· - offset)) =
      (strips length halfWidth points).map (List.map (· - offset)) := by
  induction points with
  | nil => rfl
  | cons start rest ih =>
    cases rest with
    | nil => rfl
    | cons finish rest =>
      simp only [map_cons] at ih ⊢
      rw [strips, strips, ih, stripCorners_sub, map_cons]

variable {layer : Option LayerRecord}

section

variable (centered : Centered object)
include centered

lemma wire_extrudes (onLayer : LayerRecord) {thickness : ℚ} :
    Extrudes object thickness (wireStrips stof length object onLayer)
      ((strips length (onLayer.lineWidth * (1 / 2))
        ((parsePolylinePoints stof object.geometryRef).map (· -
          (object.bboxMin.x - translationX object, object.bboxMin.y - translationY object)))).flatMap
        fun corners => corners.map (fun corner => ⟨corner.1, corner.2, 0⟩) ++
          corners.map fun corner => ⟨corner.1, corner.2, thickness⟩) := by
  rcases translation_centered centered with ⟨x, y, _⟩
  have offX : ∀ a, a - (object.bboxMin.x - (boxCenter object).x) =
      a + object.bboxMax.x - (boxCenter object).x := by
    intro a
    simp only [boxCenter]
    ring
  have offY : ∀ a, a - (object.bboxMin.y - (boxCenter object).y) =
      a + object.bboxMax.y - (boxCenter object).y := by
    intro a
    simp only [boxCenter]
    ring
  intro vertex
  rw [strips_sub, x, y, flatMap_map, mem_flatMap]
  simp only [wireStrips, mem_map, mem_append, mem_flatten,
    exists_exists_and_eq_and, Prod.fst_sub, Prod.snd_sub, offX, offY, Prod.fst_add, Prod.snd_add]
  constructor
  · rintro ⟨corners, isStrip, ⟨corner, isCorner, rfl⟩ | ⟨corner, isCorner, rfl⟩⟩
    · exact ⟨corner, ⟨corners, isStrip, isCorner⟩, Or.inl rfl⟩
    · exact ⟨corner, ⟨corners, isStrip, isCorner⟩, Or.inr rfl⟩
  · rintro ⟨corner, ⟨corners, isStrip, isCorner⟩, rfl | rfl⟩
    · exact ⟨corners, isStrip, Or.inl ⟨corner, isCorner, rfl⟩⟩
    · exact ⟨corners, isStrip, Or.inr ⟨corner, isCorner, rfl⟩⟩

section

variable (hasBbox : object.hasBbox = true)
include hasBbox

lemma boxed_inPlace_iff (notWire : object.type ≠ .Wire) (defaultDepth : ℚ)
    (draws : ∀ fuel, attachObjectGeometry stof length fuel object layer =
      some (boxGeometry (computeLocalBoxParamsFromBbox object defaultDepth true))) :
    DrawnInPlace stof length object layer ↔ object.bboxMin.z = object.bboxMax.z := by
  have draws' : ∀ fuel, attachObjectGeometry stof length fuel object layer =
      some (createBoxGeometry (object.bboxMin.x - (boxCenter object).x)
        (object.bboxMin.y - (boxCenter object).y) (clampedWidth object) (clampedHeight object)
        (clampedDepth object)) := by
    intro fuel
    rw [draws, boxGeometry_centered centered hasBbox]
  rw [box_inPlace_iff centered hasBbox draws']
  exact and_iff_left fun isWire => absurd isWire notWire

lemma unknown_inPlace_iff (notBatched : object.batched = false)
    (draws : ∀ fuel, attachObjectGeometry stof length fuel object layer =
      some (boxGeometry (computeLocalBoxParamsFromBbox object (1 / 5) false))) :
    DrawnInPlace stof length object layer ↔ object.bboxMin.z = object.bboxMax.z ∧
      (boxCenter object).x = 0 ∧ (boxCenter object).y = 0 := by
  have draws' : ∀ fuel, attachObjectGeometry stof length fuel object layer =
      some (createBoxGeometry object.bboxMin.x object.bboxMin.y (clampedWidth object)
        (clampedHeight object) (clampedDepth object)) := by
    intro fuel
    rw [draws, computeLocalBoxParamsFromBbox, if_neg (by simp [hasBbox])]
    simp only [boxGeometry, Bool.false_eq_true, if_false, sub_zero]
    rfl
  have covers := createBox_covers (boxCenter object) object.bboxMin.x object.bboxMin.y
    (clamped_nonneg (object.bboxMax.x - object.bboxMin.x))
    (clamped_nonneg (object.bboxMax.y - object.bboxMin.y))
    (clamped_nonneg (object.bboxMax.z - object.bboxMin.z))
  rw [drawnInPlace_iff centered draws' covers, notBatched]
  constructor
  · rintro ⟨isMatch, _⟩
    exact ⟨raised_matches_iff.mp isMatch.z, add_eq_left.mp isMatch.x.1, add_eq_left.mp isMatch.y.1⟩
  · rintro ⟨flat, x, y⟩
    refine ⟨⟨?_, ?_, raised_matches_iff.mpr flat⟩, fun isBatched => by cases isBatched⟩
    · rw [x, add_zero]
      exact axisMatches_clamped _ _
    · rw [y, add_zero]
      exact axisMatches_clamped _ _

lemma polygon_inPlace_iff (isBlockage : object.type = .Blockage)
    (large : 3 ≤ (parsePolylinePoints stof object.geometryRef).length) :
    DrawnInPlace stof length object layer ↔ object.bboxMin.z = object.bboxMax.z ∧
      (∃ fuel, (triangulatePolygon (localPolygon stof object) fuel).isSome = true) ∧
      InPlane (parsePolylinePoints stof object.geometryRef) object := by
  have largeLocal : 3 ≤ (localPolygon stof object).length := by
    rw [localPolygon, length_map]
    exact large
  have draws : ∀ fuel, attachObjectGeometry stof length fuel object layer =
      createPolygonGeometry fuel (localPolygon stof object) (clampedDepth object) := by
    intro fuel
    rcases translation_centered centered with ⟨x, y, _⟩
    simp only [attachObjectGeometry, isBlockage, if_pos large, hasBbox, if_true, x, y]
    rfl
  have notBatched : object.batched = false := by
    rw [ObjectRecord.batched, isBlockage]
    rfl
  have extrudes : ∀ fuel locals, attachObjectGeometry stof length fuel object layer = some locals →
      Extrudes object (clampedDepth object) (parsePolylinePoints stof object.geometryRef) locals := by
    intro fuel locals drawn vertex
    rw [draws] at drawn
    rw [mem_createPolygonGeometry largeLocal drawn, localPolygon]
    simp only [mem_map, exists_exists_and_eq_and, Prod.fst_sub, Prod.snd_sub]
  have ends : ∀ fuel, (attachObjectGeometry stof length fuel object layer).isSome =
      (triangulatePolygon (localPolygon stof object) fuel).isSome := by
    intro fuel
    rw [draws, createPolygonGeometry, if_neg (by omega), Option.isSome_map]
  rw [extruded_inPlace_iff centered (clamped_nonneg _) notBatched extrudes]
  simp only [ends]
  constructor
  · rintro ⟨triangulated, inPlane, raised⟩
    exact ⟨raised_matches_iff.mp raised, triangulated, inPlane⟩
  · rintro ⟨flat, triangulated, inPlane⟩
    exact ⟨triangulated, inPlane, raised_matches_iff.mpr flat⟩

lemma track_inPlace_iff (isTrack : object.type = .Track) :
    DrawnInPlace stof length object layer ↔ object.bboxMin.z = object.bboxMax.z ∧
      InPlane (inPairs (parsePolylinePoints stof object.geometryRef)) object := by
  rcases translation_centered centered with ⟨x, y, z⟩
  have level : (object.bboxMin.z + object.bboxMax.z) * (1 / 2) - (boxCenter object).z = 0 := by
    simp only [boxCenter]
    ring
  have draws : ∀ fuel, attachObjectGeometry stof length fuel object layer =
      some ((inPairs (parsePolylinePoints stof object.geometryRef)).map fun point =>
        ⟨point.1 - (boxCenter object).x, point.2 - (boxCenter object).y, 0⟩) := by
    intro fuel
    simp only [attachObjectGeometry, isTrack, hasBbox, if_true, x, y, z, level]
  have notBatched : object.batched = false := by
    rw [ObjectRecord.batched, isTrack]
    rfl
  have extrudes : ∀ fuel locals, attachObjectGeometry stof length fuel object layer = some locals →
      Extrudes object 0 (inPairs (parsePolylinePoints stof object.geometryRef)) locals := by
    intro fuel locals drawn vertex
    rw [draws, Option.some.injEq] at drawn
    rw [← drawn]
    simp only [mem_map, or_self, eq_comm]
  have flat : AxisMatches (boxCenter object).z ((boxCenter object).z + 0) object.bboxMin.z
      object.bboxMax.z ↔ object.bboxMin.z = object.bboxMax.z := by
    simp only [boxCenter, add_zero]
    constructor
    · rintro ⟨low, _⟩
      linarith
    · intro same
      rw [← same]
      exact ⟨by ring, Or.inl (by ring)⟩
  rw [extruded_inPlace_iff centered le_rfl notBatched extrudes, flat]
  constructor
  · rintro ⟨_, inPlane, isFlat⟩
    exact ⟨isFlat, inPlane⟩
  · rintro ⟨isFlat, inPlane⟩
    exact ⟨⟨0, by rw [draws, Option.isSome_some]⟩, inPlane, isFlat⟩

lemma wire_inPlace_iff (isWire : object.type = .Wire) :
    DrawnInPlace stof length object layer ↔ object.bboxMin.z = object.bboxMax.z ∧
      PlacedInPlane stof length object layer := by
  simp only [PlacedInPlane, isWire]
  cases layer with
  | none =>
    have draws : ∀ fuel, attachObjectGeometry stof length fuel object none = some [] := by
      intro fuel
      simp only [attachObjectGeometry, isWire, createPolylineGeometry]
    constructor
    · rintro ⟨fuel, vertices, lo, hi, drawn, covers, _⟩
      rw [createSceneObject, draws, Option.map_some, map_nil, Option.some.injEq] at drawn
      rw [← drawn] at covers
      exact absurd rfl covers.x.ne_nil
    · rintro ⟨_, _, onLayer, isNone, _⟩
      cases isNone
  | some onLayer =>
    rcases translation_centered centered with ⟨x, y, _⟩
    by_cases short : (parsePolylinePoints stof object.geometryRef).length < 2
    · have draws : ∀ fuel, attachObjectGeometry stof length fuel object (some onLayer) =
          some (createBoxGeometry (object.bboxMin.x - (boxCenter object).x)
            (object.bboxMin.y - (boxCenter object).y) (clampedWidth object)
            (clampedHeight object) (clampedDepth object)) := by
        intro fuel
        simp only [attachObjectGeometry, isWire, createPolylineGeometry, hasBbox, if_true,
          if_pos short, not_true_eq_false, if_false, x, y]
        rfl
      rw [box_inPlace_iff centered hasBbox draws]
      refine and_congr_right fun _ => ?_
      constructor
      · intro wide
        exact ⟨wide isWire, onLayer, rfl, fun long => absurd short long.not_gt⟩
      · rintro ⟨wide, _⟩ _
        exact wide
    · have draws : ∀ fuel, attachObjectGeometry stof length fuel object (some onLayer) =
          some ((strips length (onLayer.lineWidth * (1 / 2))
            ((parsePolylinePoints stof object.geometryRef).map (· -
              (object.bboxMin.x - translationX object,
                object.bboxMin.y - translationY object)))).flatMap
            fun corners => corners.map (fun corner => ⟨corner.1, corner.2, 0⟩) ++
              corners.map fun corner => ⟨corner.1, corner.2, clampedDepth object⟩) := by
        intro fuel
        simp only [attachObjectGeometry, isWire, createPolylineGeometry, hasBbox, if_true,
          if_neg short]
        rfl
      rw [extruded_batched_iff centered hasBbox isWire draws (wire_extrudes centered onLayer)]
      refine and_congr_right fun _ => and_congr_right fun _ => ?_
      constructor
      · intro spans
        exact ⟨onLayer, rfl, fun _ => spans⟩
      · rintro ⟨_, same, spans⟩
        rw [Option.some.injEq] at same
        rw [same]
        exact spans (not_lt.mp short)

end

end

/-- An object is drawn in place just when its box is flat and its points are those of the box. -/
theorem drawn_in_place_iff (stof : String → Option ℚ) (length : Vec2 → ℚ) (object : ObjectRecord)
    (layer : Option LayerRecord) (centered : Centered object) (hasBbox : object.hasBbox = true) :
    DrawnInPlace stof length object layer ↔ object.bboxMin.z = object.bboxMax.z ∧
      PlacedInPlane stof length object layer := by
  have boxed : ∀ depth, object.type ≠ .Wire → (∀ fuel, attachObjectGeometry stof length fuel object
      layer = some (boxGeometry (computeLocalBoxParamsFromBbox object depth true))) →
      PlacedInPlane stof length object layer → (DrawnInPlace stof length object layer ↔
        object.bboxMin.z = object.bboxMax.z ∧ PlacedInPlane stof length object layer) := by
    intro depth notWire draws placed
    rw [boxed_inPlace_iff centered hasBbox notWire depth draws]
    exact (and_iff_left placed).symm
  cases isType : object.type with
  | Inst =>
    apply boxed (3 / 10) (by rw [isType]; decide)
    · intro fuel
      simp only [attachObjectGeometry, isType]
    · simp only [PlacedInPlane, isType]
  | Pin | Bump =>
    apply boxed (3 / 10) (by rw [isType]; decide)
    · intro fuel
      simp only [attachObjectGeometry, isType, hasBbox]
    · simp only [PlacedInPlane, isType]
  | Via | Drc =>
    apply boxed (1 / 20) (by rw [isType]; decide)
    · intro fuel
      simp only [attachObjectGeometry, isType]
    · simp only [PlacedInPlane, isType]
  | Blockage =>
    by_cases large : 3 ≤ (parsePolylinePoints stof object.geometryRef).length
    · rw [polygon_inPlace_iff centered hasBbox isType large]
      simp only [PlacedInPlane, isType, large, forall_const]
    · apply boxed (3 / 10) (by rw [isType]; decide)
      · intro fuel
        simp only [attachObjectGeometry, isType, if_neg large]
      · simp only [PlacedInPlane, isType]
        exact fun isLarge => absurd isLarge large
  | Wire => exact wire_inPlace_iff centered hasBbox isType
  | Track =>
    rw [track_inPlace_iff centered hasBbox isType]
    simp only [PlacedInPlane, isType]
  | Text | Unknown =>
    rw [unknown_inPlace_iff centered hasBbox (by rw [ObjectRecord.batched, isType]; rfl)
      fun fuel => by simp only [attachObjectGeometry, isType]]
    simp only [PlacedInPlane, isType]

end

def squareInst (height : ℚ) : ObjectRecord where
  objectId := "inst"
  type := .Inst
  layerId := "instance"
  groupId := ""
  visible := true
  transform := [1, 0, 0, 0, 0, 1, 0, 0, 0, 0, 1, 0, 1 / 2, 1 / 2, height / 2, 1]
  bboxMin := ⟨0, 0, 0⟩
  bboxMax := ⟨1, 1, height⟩
  hasBbox := true
  geometryRef := ""
  styleRef := "INV"
  displayName := "inst"
  isHorizontal := true

lemma squareInst_centered (height : ℚ) : Centered (squareInst height) := by
  simp [Centered, boxCenter, squareInst]

theorem drawn_in_place_iff_flat : DrawnInPlace (fun _ => none) (fun _ => 0) (squareInst 0) none :=
  (drawn_in_place_iff _ _ (squareInst 0) none (squareInst_centered 0) rfl).mpr ⟨rfl, trivial⟩

/-- A node of height 1 is drawn from 1/2 to 3/2. -/
theorem instance_drawn_raised : Centered (squareInst 1) ∧ (squareInst 1).hasBbox = true ∧
      Covers (((createSceneObject (fun _ => none) (fun _ => 0) 0 (squareInst 1) none).getD []))
        ⟨0, 0, 1 / 2⟩ ⟨1, 1, 3 / 2⟩ ∧
      ¬ DrawnInPlace (fun _ => none) (fun _ => 0) (squareInst 1) none := by
  refine ⟨squareInst_centered 1, rfl, ?_, ?_⟩
  · have drawn : (createSceneObject (fun _ => none) (fun _ => 0) 0 (squareInst 1) none).getD [] =
        boxFaces 0 0 (1 / 2) 1 1 (3 / 2) := by with_unfolding_all decide
    rw [drawn]
    exact covers_boxFaces (by norm_num) (by norm_num) (by norm_num)
  · rw [boxed_inPlace_iff (squareInst_centered 1) rfl (by decide) (3 / 10) fun _ => rfl]
    decide

end OpenRoad.Viewer
