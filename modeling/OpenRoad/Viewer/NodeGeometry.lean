import OpenRoad.Viewer.SceneTypes
import Mathlib.Tactic

/-! The geometry of an object: as a node of its own, and in a batch. Colours and normals are left
out. -/

namespace OpenRoad.Viewer

section

abbrev Vec2 := ℚ × ℚ

structure Triangle where
  a : Vec2
  b : Vec2
  c : Vec2
deriving DecidableEq

section

variable (poly : List Vec2)

def prevIndex (size p : Nat) : Nat := if p = 0 then size - 1 else p - 1

def nextIndex (size p : Nat) : Nat := if size ≤ p + 1 then 0 else p + 1

def vertexAt (idx : List Nat) (p : Nat) : Vec2 := poly.getD (idx.getD p 0) 0

def cross (va vb vc : Vec2) : ℚ :=
  (vb.1 - va.1) * (vc.2 - va.2) - (vb.2 - va.2) * (vc.1 - va.1)

def strictlyInside (va vb vc pt : Vec2) : Bool :=
  let w0 := ((va.2 - vc.2) * (pt.1 - vc.1) + (vc.1 - va.1) * (pt.2 - vc.2)) /
    ((va.2 - vc.2) * (vb.1 - vc.1) + (vc.1 - va.1) * (vb.2 - vc.2))
  let w1 := ((vc.2 - va.2) * (pt.1 - va.1) + (va.1 - vc.1) * (pt.2 - va.2)) /
    ((vc.2 - va.2) * (vb.1 - va.1) + (va.1 - vc.1) * (vb.2 - va.2))
  let w2 := 1 - w0 - w1
  0 < w0 ∧ 0 < w1 ∧ 0 < w2

def isEar (idx : List Nat) (p : Nat) : Bool :=
  let a := prevIndex idx.length p
  let c := nextIndex idx.length p
  let va := vertexAt poly idx a
  let vb := vertexAt poly idx p
  let vc := vertexAt poly idx c
  cross va vb vc < 0 ∧ ∀ i < idx.length, i ≠ a → i ≠ p → i ≠ c →
    strictlyInside va vb vc (vertexAt poly idx i) = false

def triangleAt (idx : List Nat) (p : Nat) : Triangle :=
  ⟨vertexAt poly idx (prevIndex idx.length p), vertexAt poly idx p,
    vertexAt poly idx (nextIndex idx.length p)⟩

def clip : Nat → Nat → List Nat → List Triangle → Option (List Nat × List Triangle)
  | 0, _, _, _ => none
  | fuel + 1, i, idx, tris =>
    if 3 < idx.length ∧ i < idx.length * 10 then
      if isEar poly idx i then
        clip fuel (i - 1) (idx.eraseIdx i) (tris ++ [triangleAt poly idx i])
      else clip fuel ((i + 1) % idx.length) idx tris
    else some (idx, tris)

def triangulatePolygon (fuel : Nat) : Option (List Triangle) :=
  if poly.length < 3 then some []
  else
    (clip poly fuel 0 (List.range poly.length) []).map fun rest =>
      if rest.1.length = 3 then
        rest.2 ++ [⟨vertexAt poly rest.1 0, vertexAt poly rest.1 1, vertexAt poly rest.1 2⟩]
      else rest.2

end

end

/-- The faces of a box, four vertices each. -/
def boxFaces (x y z0 x1 y1 z1 : ℚ) : List (Vec3 ℚ) :=
  let p000 : Vec3 ℚ := ⟨x, y, z0⟩
  let p100 : Vec3 ℚ := ⟨x1, y, z0⟩
  let p110 : Vec3 ℚ := ⟨x1, y1, z0⟩
  let p010 : Vec3 ℚ := ⟨x, y1, z0⟩
  let p001 : Vec3 ℚ := ⟨x, y, z1⟩
  let p101 : Vec3 ℚ := ⟨x1, y, z1⟩
  let p111 : Vec3 ℚ := ⟨x1, y1, z1⟩
  let p011 : Vec3 ℚ := ⟨x, y1, z1⟩
  [p000, p100, p110, p010, p001, p011, p111, p101, p000, p001, p101, p100,
    p100, p101, p111, p110, p110, p111, p011, p010, p010, p011, p001, p000]

def createBoxGeometry (x y width height depth : ℚ) : List (Vec3 ℚ) :=
  boxFaces x y 0 (x + width) (y + height) depth

def appendBoxToBatch (x y w h d zOffset : ℚ) : List (Vec3 ℚ) :=
  boxFaces x y zOffset (x + w) (y + h) (zOffset + d)

def appendWireToBatch (object : ObjectRecord) (zOffset : ℚ) : List (Vec3 ℚ) :=
  if ¬ object.hasBbox then []
  else
    let wireW := max (1 / 100) (object.bboxMax.x - object.bboxMin.x)
    let wireH := max (1 / 100) (object.bboxMax.y - object.bboxMin.y)
    let wireD := max (1 / 100) (object.bboxMax.z - object.bboxMin.z)
    let minVisible := 2 / 100
    let hairline := wireW < minVisible ∧ wireH < minVisible
    appendBoxToBatch object.bboxMin.x object.bboxMin.y
      (if hairline then max wireW minVisible else wireW)
      (if hairline then max wireH minVisible else wireH) wireD zOffset

/-- What an object adds to the vertices of a batch of some type, in the coordinates of the world. -/
def batchVerticesOf (type : ObjectType) (object : ObjectRecord) : List (Vec3 ℚ) :=
  if type = .Via then
    appendBoxToBatch object.bboxMin.x object.bboxMin.y
      (max (1 / 100) (object.bboxMax.x - object.bboxMin.x))
      (max (1 / 100) (object.bboxMax.y - object.bboxMin.y))
      (max (1 / 100) (object.bboxMax.z - object.bboxMin.z)) object.bboxMin.z
  else appendWireToBatch object object.bboxMin.z

def batchVertices (object : ObjectRecord) : List (Vec3 ℚ) := batchVerticesOf object.type object

structure LocalBoxParams where
  width : ℚ
  height : ℚ
  depth : ℚ
  xOffset : ℚ
  yOffset : ℚ

def translationX (object : ObjectRecord) : ℚ := object.transform.getD 12 0

def translationY (object : ObjectRecord) : ℚ := object.transform.getD 13 0

def translationZ (object : ObjectRecord) : ℚ := object.transform.getD 14 0

/-- The least depth is 0.01 wherever this is called. -/
def computeLocalBoxParamsFromBbox (object : ObjectRecord) (defaultDepth : ℚ)
    (offsetFromTransform : Bool) : LocalBoxParams :=
  if ¬ object.hasBbox then ⟨1, 1, defaultDepth, 0, 0⟩
  else
    { width := max (1 / 100) (object.bboxMax.x - object.bboxMin.x)
      height := max (1 / 100) (object.bboxMax.y - object.bboxMin.y)
      depth := max (1 / 100) (object.bboxMax.z - object.bboxMin.z)
      xOffset := object.bboxMin.x - if offsetFromTransform then translationX object else 0
      yOffset := object.bboxMin.y - if offsetFromTransform then translationY object else 0 }

def boxGeometry (params : LocalBoxParams) : List (Vec3 ℚ) :=
  createBoxGeometry params.xOffset params.yOffset params.width params.height params.depth

section

-- The library's numbers of strings, `none` where it throws, and its lengths of vectors.
variable (stof : String → Option ℚ) (length : Vec2 → ℚ)

/-- What follows the first `poly:`. -/
def afterPoly : List Char → Option (List Char)
  | [] => none
  | c :: rest =>
    if "poly:".toList.isPrefixOf (c :: rest) then some (rest.drop 4) else afterPoly rest

/-- A token without a comma, or with a number that cannot be read, is passed over. -/
def parsePoint (token : List Char) : Option Vec2 :=
  match token.dropWhile (· ≠ ',') with
  | [] => none
  | _ :: after => do
    let x ← stof (String.ofList (token.takeWhile (· ≠ ',')))
    let y ← stof (String.ofList after)
    some (x, y)

def parsePolylinePoints (geometryRef : String) : List Vec2 :=
  match afterPoly geometryRef.toList with
  | none => []
  | some text => (text.splitOn ';').filterMap (parsePoint stof)

/-- The corners of the strip along a segment, unless the segment is too short. -/
def stripCorners (halfWidth : ℚ) (start finish : Vec2) : List Vec2 :=
  let direction := finish - start
  if length direction ≤ 1 / 10000 then []
  else
    let unit : Vec2 := (direction.1 / length direction, direction.2 / length direction)
    let offset : Vec2 := (-unit.2 * halfWidth, unit.1 * halfWidth)
    [start - offset, start + offset, finish + offset, finish - offset]

def strips (halfWidth : ℚ) : List Vec2 → List (List Vec2)
  | start :: finish :: rest =>
    stripCorners length halfWidth start finish :: strips halfWidth (finish :: rest)
  | _ => []

/-- Without a layer, a wire is not displayed. -/
def createPolylineGeometry (object : ObjectRecord) (layer : Option LayerRecord)
    (xOffset yOffset : ℚ) : List (Vec3 ℚ) :=
  match layer with
  | none => []
  | some layer =>
    let thickness :=
      if object.hasBbox then max (1 / 100) (object.bboxMax.z - object.bboxMin.z)
      else max (1 / 100) (layer.lineWidth * (1 / 2))
    let points := parsePolylinePoints stof object.geometryRef
    if points.length < 2 then
      if ¬ object.hasBbox then []
      else
        createBoxGeometry xOffset yOffset (max (1 / 100) (object.bboxMax.x - object.bboxMin.x))
          (max (1 / 100) (object.bboxMax.y - object.bboxMin.y)) thickness
    else
      (strips length (layer.lineWidth * (1 / 2))
        (points.map fun point => point - (xOffset, yOffset))).flatMap fun corners =>
          corners.map (fun corner => ⟨corner.1, corner.2, 0⟩) ++
            corners.map fun corner => ⟨corner.1, corner.2, thickness⟩

/-- `none` where the triangulation runs out of fuel. -/
def createPolygonGeometry (fuel : Nat) (points : List Vec2) (thickness : ℚ) :
    Option (List (Vec3 ℚ)) :=
  if points.length < 3 then some []
  else
    (triangulatePolygon points fuel).map fun tris =>
      if tris.isEmpty then []
      else
        (tris.flatMap fun tri =>
          [⟨tri.a.1, tri.a.2, 0⟩, ⟨tri.b.1, tri.b.2, 0⟩, ⟨tri.c.1, tri.c.2, 0⟩,
            ⟨tri.a.1, tri.a.2, thickness⟩, ⟨tri.b.1, tri.b.2, thickness⟩,
            ⟨tri.c.1, tri.c.2, thickness⟩]) ++
        (points.zip (points.rotate 1)).flatMap fun side =>
          [⟨side.1.1, side.1.2, 0⟩, ⟨side.2.1, side.2.2, 0⟩, ⟨side.1.1, side.1.2, thickness⟩,
            ⟨side.2.1, side.2.2, 0⟩, ⟨side.2.1, side.2.2, thickness⟩,
            ⟨side.1.1, side.1.2, thickness⟩]

def inPairs : List Vec2 → List Vec2
  | start :: finish :: rest => start :: finish :: inPairs rest
  | _ => []

/-- The vertices of the drawable in the geode of an object, in the coordinates of its node. -/
def attachObjectGeometry (fuel : Nat) (object : ObjectRecord) (layer : Option LayerRecord) :
    Option (List (Vec3 ℚ)) :=
  match object.type with
  | .Inst => some (boxGeometry (computeLocalBoxParamsFromBbox object (3 / 10) true))
  | .Blockage =>
    let points := parsePolylinePoints stof object.geometryRef
    if 3 ≤ points.length then
      let thickness :=
        if object.hasBbox then max (1 / 100) (object.bboxMax.z - object.bboxMin.z) else 3 / 10
      createPolygonGeometry fuel
        (points.map fun point => point - (translationX object, translationY object)) thickness
    else some (boxGeometry (computeLocalBoxParamsFromBbox object (3 / 10) true))
  | .Pin | .Bump =>
    let params := computeLocalBoxParamsFromBbox object (3 / 10) true
    match object.hasBbox, layer with
    | false, some layer =>
      some (boxGeometry { params with depth := max (layer.lineWidth * (1 / 2)) (1 / 20) })
    | _, _ => some (boxGeometry params)
  | .Wire =>
    let xOffset := if object.hasBbox then object.bboxMin.x - translationX object else 0
    let yOffset := if object.hasBbox then object.bboxMin.y - translationY object else 0
    some (createPolylineGeometry stof length object layer xOffset yOffset)
  | .Via => some (boxGeometry (computeLocalBoxParamsFromBbox object (1 / 20) true))
  | .Drc => some (boxGeometry (computeLocalBoxParamsFromBbox object (1 / 20) true))
  | .Track =>
    let z := if object.hasBbox then
        (object.bboxMin.z + object.bboxMax.z) * (1 / 2) - translationZ object
      else 0
    some ((inPairs (parsePolylinePoints stof object.geometryRef)).map fun point =>
      ⟨point.1 - translationX object, point.2 - translationY object, z⟩)
  | .Text | .Unknown =>
    some (boxGeometry (computeLocalBoxParamsFromBbox object (1 / 5) false))

/-- A point as a row vector, times the matrix of a node. -/
def preMult (transform : List ℚ) (point : Vec3 ℚ) : Vec3 ℚ :=
  let entry (i : Nat) : ℚ := transform.getD i 0
  let column (i : Nat) : ℚ :=
    point.x * entry i + point.y * entry (4 + i) + point.z * entry (8 + i) + entry (12 + i)
  ⟨column 0 / column 3, column 1 / column 3, column 2 / column 3⟩

/-- The vertices of the node of `createSceneObject`, in the coordinates of the world. -/
def createSceneObject (fuel : Nat) (object : ObjectRecord) (layer : Option LayerRecord) :
    Option (List (Vec3 ℚ)) :=
  (attachObjectGeometry stof length fuel object layer).map fun vertices =>
    vertices.map (preMult object.transform)

end

end OpenRoad.Viewer
