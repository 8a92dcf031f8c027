import OpenRoad.Lib.Ranges
import OpenRoad.Viewer.NodePlacement
import OpenRoad.Viewer.UserVisibility

/-! The vertices, triangles and ranges of the batches, as the scene builds them and builds them
again. -/

namespace OpenRoad.Viewer

open Lib

structure BatchPrimitive where
  objectId : String
  triStart : Nat
  triCount : Nat
  deriving DecidableEq

/-- `tro` counts the triangles of the ranges so far. -/
structure BatchGeometry where
  verts : List (Vec3 ℚ)
  tris : List Nat
  primitives : List BatchPrimitive
  tro : Nat

namespace BatchGeometry

def empty : BatchGeometry := ⟨[], [], [], 0⟩

def boxTriangles (vertOffset : Nat) : List (Nat × Nat × Nat) :=
  (List.range 6).flatMap fun f =>
    let b := vertOffset + f * 4
    [(b, b + 1, b + 2), (b, b + 2, b + 3)]

/-- One turn of both loops. Both functions that append add the vertices of a box and its triangles, or
nothing. -/
def append (geometry : BatchGeometry) (type : ObjectType) (object : ObjectRecord) : BatchGeometry :=
  let tb := geometry.tris.length
  let vertOffset := geometry.verts.length
  let vertices := batchVerticesOf type object
  let tris := if vertices = [] then geometry.tris
    else geometry.tris ++ flatTriples (boxTriangles vertOffset)
  let nt := (tris.length - tb) / 3
  { verts := geometry.verts ++ vertices
    tris := tris
    primitives := geometry.primitives ++ [⟨object.objectId, geometry.tro, nt⟩]
    tro := geometry.tro + nt }

/-- The loops of `buildBatches` and `rebuildBatch` over the objects of a batch. -/
def fill (hidden : String → Bool) (type : ObjectType) (objects : List ObjectRecord) :
    BatchGeometry :=
  objects.foldl (fun geometry object =>
    if hidden object.objectId then geometry else geometry.append type object) empty

def findObjectIdByTri (geometry : BatchGeometry) (triIdx : Nat) : Option String :=
  (rangeAt BatchPrimitive.triStart BatchPrimitive.triCount geometry.primitives triIdx).map
    BatchPrimitive.objectId

def triangleCount (geometry : BatchGeometry) : Nat := geometry.tris.length / 3

/-- The corners of a triangle of the geometry. -/
def triangle (geometry : BatchGeometry) (t : Nat) : Option (Vec3 ℚ × Vec3 ℚ × Vec3 ℚ) := do
  let a ← geometry.tris[3 * t]?
  let b ← geometry.tris[3 * t + 1]?
  let c ← geometry.tris[3 * t + 2]?
  return (← geometry.verts[a]?, ← geometry.verts[b]?, ← geometry.verts[c]?)

end BatchGeometry

structure BatchView where
  scene : OsgScene
  built : BatchKey → Option BatchGeometry

inductive BatchCall where
  | setObjectVisible (objectId : String) (visible : Bool)
  | setSelectedObject (objectId : String)
  | rebuildBatch (key : BatchKey)

namespace BatchView

/-- Only `loadSnapshot` calls `buildBatches`, which goes through the objects of each group. -/
def loadSnapshot (scene : OsgScene) (snapshot : SceneSnapshot) : BatchView where
  scene := scene.loadSnapshot snapshot
  built := fun key => ((scene.loadSnapshot snapshot).layerBatches key).map fun _ =>
    .fill (scene.loadedFrom snapshot).hiddenObjects key.type
      ((scene.loadedFrom snapshot).groupObjects snapshot.objects key)

def rebuilt (built : BatchKey → Option BatchGeometry) (scene : OsgScene) (key : BatchKey) :
    BatchKey → Option BatchGeometry :=
  Function.update built key ((scene.layerBatches key).map fun batch =>
    .fill scene.hiddenObjects key.type batch.objects)

def rebuildBatch (view : BatchView) (key : BatchKey) : BatchView :=
  let scene := view.scene.rebuildBatch key
  ⟨scene, rebuilt view.built scene key⟩

def setObjectVisible (view : BatchView) (objectId : String) (visible : Bool) : BatchView :=
  let scene := view.scene.setObjectVisible objectId visible
  match view.scene.objectIdToBatchKey objectId with
  | some key => ⟨scene, rebuilt view.built scene key⟩
  | none => ⟨scene, view.built⟩

def restoreSelection (view : BatchView) : BatchView :=
  let scene := view.scene.restoreSelection
  match view.scene.previousKey with
  | some key => ⟨scene, rebuilt view.built scene key⟩
  | none => ⟨scene, view.built⟩

def setSelectedObject (view : BatchView) (objectId : String) : BatchView :=
  let restored := view.restoreSelection
  let scene := view.scene.setSelectedObject objectId
  if objectId = "" then ⟨scene, restored.built⟩
  else match restored.scene.objectIdToBatchKey objectId with
    | some key => ⟨scene, rebuilt restored.built scene key⟩
    | none => ⟨scene, restored.built⟩

def after (view : BatchView) : BatchCall → BatchView
  | .setObjectVisible objectId visible => view.setObjectVisible objectId visible
  | .setSelectedObject objectId => view.setSelectedObject objectId
  | .rebuildBatch key => view.rebuildBatch key

end BatchView

end OpenRoad.Viewer
