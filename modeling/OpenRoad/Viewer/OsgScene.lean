import OpenRoad.Lib.Runs
import OpenRoad.Viewer.SceneTypes

/-! The scene of the OSG backend: individual nodes, batches of wires and vias, hidden ids, lazy
loading and the selection. A pointer to a record of the snapshot is the record, since the snapshot
stays as it is while the scene holds it; materials, labels and axes are left out. -/

namespace OpenRoad.Viewer

open OpenRoad.Lib Function

/-- An `OsgSceneObject`; `node` is the record its node was built from, or the null pointer of a
placeholder for a batched object. -/
structure SceneObject where
  node : Option ObjectRecord
  visible : Bool
  deriving DecidableEq

/-- The key `layerId_type` of a batch, before it is put together. -/
structure BatchKey where
  layerId : String
  type : ObjectType
  deriving DecidableEq

/-- `static_cast<int>`, in decimal. -/
def ObjectType.text : ObjectType → String
  | .Wire => "0"
  | .Via => "1"
  | .Inst => "2"
  | .Pin => "3"
  | .Drc => "4"
  | .Blockage => "5"
  | .Track => "6"
  | .Bump => "7"
  | .Text => "8"
  | .Unknown => "9"

def BatchKey.text (key : BatchKey) : String := key.layerId ++ "_" ++ key.type.text

/-- `primitives` are the drawn records with their numbers of triangles. -/
structure LayerBatch where
  objects : List ObjectRecord
  primitives : List (ObjectRecord × Nat)
  nodeMask : Bool
  deriving DecidableEq

structure OsgScene where
  objectsById : String → Option SceneObject
  objectLayerById : String → Option String
  layers : String → Option LayerRecord
  highlightNodes : Finset String
  previousSelectedId : String
  selectedObjectId : String
  hiddenObjects : String → Bool
  spatialIndex : OctreeNode ℚ
  currentFrustum : Frustum ℚ
  frustumCullingEnabled : Bool
  lazyLoadEnabled : Bool
  pendingObjects : Option (List ObjectRecord)
  loadedObjectIds : Finset String
  objectIndexById : String → Option ObjectRecord
  layerBatches : BatchKey → Option LayerBatch
  objectIdToBatchKey : String → Option BatchKey

namespace OsgScene

def new (frustum : Frustum ℚ) (frustumCullingEnabled lazyLoadEnabled : Bool) : OsgScene where
  objectsById := fun _ => none
  objectLayerById := fun _ => none
  layers := fun _ => none
  highlightNodes := ∅
  previousSelectedId := ""
  selectedObjectId := ""
  hiddenObjects := fun _ => false
  spatialIndex := .null
  currentFrustum := frustum
  frustumCullingEnabled := frustumCullingEnabled
  lazyLoadEnabled := lazyLoadEnabled
  pendingObjects := none
  loadedObjectIds := ∅
  objectIndexById := fun _ => none
  layerBatches := fun _ => none
  objectIdToBatchKey := fun _ => none

/-- The hidden ids, the loaded ids, the spatial index and the selected id stay. -/
def clear (scene : OsgScene) : OsgScene :=
  { scene with
    objectsById := fun _ => none
    objectLayerById := fun _ => none
    layers := fun _ => none
    highlightNodes := ∅
    previousSelectedId := ""
    pendingObjects := none
    objectIndexById := fun _ => none
    layerBatches := fun _ => none
    objectIdToBatchKey := fun _ => none }

def isLayerVisible (scene : OsgScene) (layerId : String) : Bool :=
  match scene.layers layerId with
  | some layer => layer.visible
  | none => true

/-- `createSceneObject` and `addObject`. -/
def addSceneObject (scene : OsgScene) (object : ObjectRecord) : OsgScene :=
  let layer := scene.layers object.layerId
  { scene with
    objectsById := update scene.objectsById object.objectId
      (some ⟨some object, layer.all LayerRecord.visible && object.visible⟩)
    objectLayerById := update scene.objectLayerById object.objectId (some object.layerId) }

/-- The triangles that `appendBoxToBatch` or `appendWireToBatch` adds. -/
def triangles (object : ObjectRecord) : Nat :=
  if object.type = .Via then 12 else if object.hasBbox then 12 else 0

def primitivesOf (hidden : String → Bool) (objects : List ObjectRecord) : List (ObjectRecord × Nat) :=
  (objects.filter fun object => !hidden object.objectId).map fun object => (object, triangles object)

def rebuildBatch (scene : OsgScene) (key : BatchKey) : OsgScene :=
  match scene.layerBatches key with
  | none => scene
  | some batch =>
    { scene with
      layerBatches := update scene.layerBatches key
        (some { batch with primitives := primitivesOf scene.hiddenObjects batch.objects }) }

/-- The records of a group of `buildBatches`. -/
def groupObjects (scene : OsgScene) (objects : List ObjectRecord) (key : BatchKey) :
    List ObjectRecord :=
  (objects.filter fun object => object.batched && (⟨object.layerId, object.type⟩ : BatchKey) = key)
    |>.filterMap fun object => scene.objectIndexById object.objectId

/-- The key under which `buildBatches` files an object: it is indexed, not hidden and on a layer. -/
def batchKeyOf (scene : OsgScene) (objects : List ObjectRecord) (id : String) : Option BatchKey := do
  let object ← objects.find? fun object => object.batched && object.objectId = id
  let key : BatchKey := ⟨object.layerId, object.type⟩
  if scene.hiddenObjects id = false ∧ (scene.objectIndexById id).isSome ∧
      (scene.layers object.layerId).isSome then some key else none

/-- The groups do not depend on one another, so that each key and each id is filed by itself. -/
def buildBatches (scene : OsgScene) (objects : List ObjectRecord) : OsgScene :=
  let batch (key : BatchKey) : Option LayerBatch :=
    let kept := (scene.groupObjects objects key).filter fun object =>
      !scene.hiddenObjects object.objectId
    if (scene.layers key.layerId).isSome ∧ ∃ object ∈ kept, triangles object ≠ 0 then
      some ⟨kept, kept.map fun object => (object, triangles object), true⟩
    else none
  let key := scene.batchKeyOf objects
  { scene with
    layerBatches := batch
    objectIdToBatchKey := key
    objectsById := fun id => match scene.objectsById id, key id with
      | none, some _ => some ⟨none, true⟩
      | found, _ => found
    objectLayerById := fun id => match scene.objectsById id, key id with
      | none, some found => some found.layerId
      | _, _ => scene.objectLayerById id }

def kMaxObjectsPerFrame : Nat := 50000

def loadObject (scene : OsgScene) (objectId : String) : OsgScene :=
  if objectId ∈ scene.loadedObjectIds then scene
  else match scene.objectIndexById objectId with
    | none => scene
    | some object =>
      let loaded := { scene with loadedObjectIds := insert objectId scene.loadedObjectIds }
      if object.batched then loaded
      else if scene.hiddenObjects objectId then loaded
      else if (scene.objectLayerById objectId).any fun layer => !scene.isLayerVisible layer then
        loaded
      else loaded.addSceneObject object

def distance (object : ObjectRecord) : ℚ :=
  if object.hasBbox then
    object.bboxMin.x * object.bboxMin.x + object.bboxMin.y * object.bboxMin.y +
      object.bboxMin.z * object.bboxMin.z
  else 0

/-- The loop that stops where the load cap is reached. -/
def capped (loaded : Finset String) : List String → Nat → List String
  | [], _ => []
  | id :: ids, pendingNew =>
    if id ∈ loaded then id :: capped loaded ids pendingNew
    else if pendingNew ≥ kMaxObjectsPerFrame then []
    else id :: capped loaded ids (pendingNew + 1)

/-- Objects outside `visibleSet` that have an entry lose it. -/
def unload (scene : OsgScene) (visibleSet : List String) : OsgScene :=
  let gone (id : String) : Bool :=
    id ∈ scene.loadedObjectIds ∧ id ∉ visibleSet ∧ (scene.objectsById id).isSome
  { scene with
    objectsById := fun id => if gone id then none else scene.objectsById id
    objectLayerById := fun id => if gone id then none else scene.objectLayerById id
    loadedObjectIds := scene.loadedObjectIds.filter fun id => gone id = false }

def ensureObjectsInFrustum (scene : OsgScene) : OsgScene :=
  match scene.pendingObjects with
  | none => scene
  | some pending =>
    if ¬ scene.frustumCullingEnabled ∨ pending = [] then scene
    else
      let visibleIds := getObjectsInFrustum scene.spatialIndex scene.currentFrustum
      if 98 * pending.length ≤ 100 * visibleIds.length then
        if scene.loadedObjectIds.card < pending.length then visibleIds.foldl loadObject scene
        else scene
      else
        let objectDistances := visibleIds.filterMap fun id =>
          (scene.objectIndexById id).map fun object => (id, distance object)
        let sorted := (objectDistances.mergeSort fun a b => decide (a.2 ≤ b.2)).map Prod.fst
        let inOrder := capped scene.loadedObjectIds sorted 0
        inOrder.foldl loadObject (scene.unload inOrder)

/-- `updateFrustum`, with the planes it computes. -/
def updateFrustum (scene : OsgScene) (frustum : Frustum ℚ) : OsgScene :=
  if scene.frustumCullingEnabled then { scene with currentFrustum := frustum } else scene

/-- `addObject` for every object that is not drawn in a batch. -/
def loadAll (scene : OsgScene) (object : ObjectRecord) : OsgScene :=
  let loaded := { scene with loadedObjectIds := insert object.objectId scene.loadedObjectIds }
  if object.batched then loaded else loaded.addSceneObject object

def objectBoxes (objects : List ObjectRecord) : Objects ℚ :=
  objects.filterMap fun object =>
    if object.hasBbox then some (object.objectId, ⟨object.bboxMin, object.bboxMax⟩) else none

/-- `map[key(item)] = item` for every item. -/
def indexBy {α : Type} (key : α → String) (items : List α) : String → Option α :=
  items.foldl (fun found item => update found (key item) (some item)) fun _ => none

def loadSnapshot (scene : OsgScene) (snapshot : SceneSnapshot) : OsgScene :=
  let boxes := objectBoxes snapshot.objects
  let indexed := { scene.clear with
    layers := indexBy LayerRecord.layerId snapshot.layers
    pendingObjects := some snapshot.objects
    loadedObjectIds := ∅
    objectIndexById := indexBy ObjectRecord.objectId snapshot.objects
    spatialIndex := if scene.frustumCullingEnabled ∧ boxes ≠ [] then build boxes 6
      else scene.spatialIndex }
  let loaded := if scene.lazyLoadEnabled then indexed.ensureObjectsInFrustum
    else snapshot.objects.foldl loadAll indexed
  loaded.buildBatches snapshot.objects

def setObjectVisible (scene : OsgScene) (objectId : String) (visible : Bool) : OsgScene :=
  match scene.objectIdToBatchKey objectId with
  | some key =>
    let hidden := update scene.hiddenObjects objectId (!visible)
    let cleaned := if (scene.objectsById objectId).isSome then
        { scene with
          hiddenObjects := hidden
          objectsById := update scene.objectsById objectId none
          objectLayerById := update scene.objectLayerById objectId none
          loadedObjectIds := scene.loadedObjectIds.erase objectId }
      else { scene with hiddenObjects := hidden }
    cleaned.rebuildBatch key
  | none =>
    match scene.objectsById objectId with
    | none => scene
    | some object =>
      let layerIsVisible := match scene.objectLayerById objectId with
        | some layer => scene.isLayerVisible layer
        | none => true
      let actuallyVisible := visible && layerIsVisible
      { scene with
        objectsById := update scene.objectsById objectId
          (some { object with visible := actuallyVisible })
        hiddenObjects := update scene.hiddenObjects objectId (!actuallyVisible) }

def isObjectVisible (scene : OsgScene) (objectId : String) : Bool :=
  !scene.hiddenObjects objectId

def individual (scene : OsgScene) (layerId id : String) : Bool :=
  (scene.objectsById id).isSome ∧ scene.objectLayerById id = some layerId ∧
    (scene.objectIdToBatchKey id).isNone

/-- The batches whose key starts with `layerId_`. -/
def startsWith (key : BatchKey) (layerId : String) : Prop :=
  (layerId ++ "_").toList <+: key.text.toList

instance (key : BatchKey) (layerId : String) : Decidable (startsWith key layerId) := by
  unfold startsWith
  infer_instance

/-- The loops do not depend on the order of ids and keys, so that each is done by itself. -/
def setLayerVisible (scene : OsgScene) (layerId : String) (visible : Bool) : OsgScene :=
  match scene.layers layerId with
  | none => scene
  | some layer =>
    let hidden := fun id => if scene.individual layerId id then !visible else scene.hiddenObjects id
    { scene with
      layers := update scene.layers layerId (some { layer with visible := visible })
      hiddenObjects := hidden
      objectsById := fun id => if scene.individual layerId id then
          (scene.objectsById id).map fun object => { object with visible := visible }
        else scene.objectsById id
      layerBatches := fun key => (scene.layerBatches key).map fun batch =>
        if startsWith key layerId then
          { batch with
            nodeMask := visible
            primitives := if visible then primitivesOf hidden batch.objects else batch.primitives }
        else batch }

/-- The part of `setSelectedObject` that gives up the selection before. -/
def restoreSelection (scene : OsgScene) : OsgScene :=
  let cleared := { scene with highlightNodes := ∅ }
  if scene.previousSelectedId = "" then cleared
  else
    let restored := match scene.objectIdToBatchKey scene.previousSelectedId with
      | some key =>
        { cleared with
          hiddenObjects := update scene.hiddenObjects scene.previousSelectedId false
          }.rebuildBatch key
      | none => cleared
    { restored with previousSelectedId := "" }

def setSelectedObject (scene : OsgScene) (objectId : String) : OsgScene :=
  let restored := scene.restoreSelection
  if objectId = "" then { restored with selectedObjectId := "" }
  else match restored.objectIdToBatchKey objectId with
    | some key =>
      let hidden := { restored with
        hiddenObjects := update restored.hiddenObjects objectId true }.rebuildBatch key
      { hidden with
        highlightNodes := if (hidden.objectIndexById objectId).any ObjectRecord.hasBbox then
            insert objectId hidden.highlightNodes
          else hidden.highlightNodes
        previousSelectedId := objectId
        selectedObjectId := objectId }
    | none =>
      match restored.objectsById objectId with
      | some ⟨some _, _⟩ =>
        { restored with
          highlightNodes := insert objectId restored.highlightNodes
          previousSelectedId := objectId
          selectedObjectId := objectId }
      | _ => restored

def removeObjectsById (scene : OsgScene) (objectIds : List String) : OsgScene :=
  let gone (id : String) : Bool := id ∈ objectIds ∧ (scene.objectsById id).isSome
  { scene with
    objectIdToBatchKey := fun id => if id ∈ objectIds then none else scene.objectIdToBatchKey id
    layerBatches := fun key => (scene.layerBatches key).map fun batch =>
      if ∃ object ∈ batch.objects, object.objectId ∈ objectIds then
        let kept := batch.objects.filter fun object => object.objectId ∉ objectIds
        { batch with objects := kept, primitives := primitivesOf scene.hiddenObjects kept }
      else batch
    objectsById := fun id => if gone id then none else scene.objectsById id
    objectLayerById := fun id => if gone id then none else scene.objectLayerById id
    highlightNodes := scene.highlightNodes.filter fun id => gone id = false
    previousSelectedId := if gone scene.previousSelectedId then "" else scene.previousSelectedId }

end OsgScene

end OpenRoad.Viewer
