import OpenRoad.Viewer.ObjectIndex
import OpenRoad.Viewer.OsgScene

/-! Incremental updates of the scene. Here a batch keeps its pointers to records as such, since the
records behind them move and go. -/

namespace OpenRoad.Viewer

open OpenRoad.Lib Function

/-- A slot of the backend's snapshot, or an element of the list that `updateObjects` makes and
drops. -/
inductive RecordPtr where
  | slot (buffer index : Nat)
  | update (call index : Nat)
  deriving DecidableEq

/-- What is behind a pointer, if anything still is. -/
abbrev Memory := RecordPtr → Option ObjectRecord

structure PtrBatch where
  objects : List RecordPtr
  primitives : List (ObjectRecord × Nat)
  nodeMask : Bool

structure PtrScene where
  layers : String → Option LayerRecord
  objectsById : String → Option SceneObject
  objectLayerById : String → Option String
  hiddenObjects : String → Bool
  layerBatches : List (BatchKey × PtrBatch)
  objectIdToBatchKey : String → Option BatchKey
  objectIndexById : String → Option RecordPtr

namespace PtrScene

/-- The keys of the groups of `buildBatches`. -/
def batchKeys (objects : List ObjectRecord) : List BatchKey :=
  ((objects.filter ObjectRecord.batched).map fun object => ⟨object.layerId, object.type⟩).dedup

/-- A scene that has just loaded these objects, with pointers to their slots for the records. -/
def ofScene (scene : OsgScene) (objects : List ObjectRecord) (buffer : Nat) : PtrScene :=
  let index := fun id => (indexFrom 0 objects (fun _ => none) id).map (RecordPtr.slot buffer)
  { layers := scene.layers
    objectsById := scene.objectsById
    objectLayerById := scene.objectLayerById
    hiddenObjects := scene.hiddenObjects
    layerBatches := (batchKeys objects).filterMap fun key => (scene.layerBatches key).map fun batch =>
      (key, ⟨batch.objects.filterMap fun object => index object.objectId, batch.primitives,
        batch.nodeMask⟩)
    objectIdToBatchKey := scene.objectIdToBatchKey
    objectIndexById := index }

def isLayerVisible (scene : PtrScene) (layerId : String) : Bool :=
  match scene.layers layerId with
  | some layer => layer.visible
  | none => true

def putBatch (key : BatchKey) (update : PtrBatch → PtrBatch) (batches : List (BatchKey × PtrBatch)) :
    List (BatchKey × PtrBatch) :=
  batches.map fun entry => if entry.1 = key then (entry.1, update entry.2) else entry

def trianglesAs (type : ObjectType) (record : ObjectRecord) : Nat :=
  if type = .Via then 12 else if record.hasBbox then 12 else 0

def primitivesAs (type : ObjectType) (hidden : String → Bool) (records : List ObjectRecord) :
    List (ObjectRecord × Nat) :=
  (records.filter fun record => !hidden record.objectId).map fun record =>
    (record, trianglesAs type record)

/-- Every operation that follows a pointer has no result where nothing is behind it. -/
def rebuildBatch (mem : Memory) (scene : PtrScene) (key : BatchKey) : Option PtrScene :=
  match scene.layerBatches.lookup key with
  | none => some scene
  | some batch => do
    let records ← batch.objects.mapM mem
    some { scene with
      layerBatches := putBatch key (fun batch => { batch with
        primitives := primitivesAs key.type scene.hiddenObjects records }) scene.layerBatches }

/-- The first pointer to a record with the id becomes the new one. -/
def replaceFirst (mem : Memory) (objectId : String) (ptr : RecordPtr) :
    List RecordPtr → Option (List RecordPtr)
  | [] => some []
  | op :: ops => do
    let record ← mem op
    if record.objectId = objectId then some (ptr :: ops)
    else do
      let rest ← replaceFirst mem objectId ptr ops
      some (op :: rest)

def erased (scene : PtrScene) (objectId : String) : PtrScene :=
  { scene with
    objectsById := update scene.objectsById objectId none
    objectLayerById := if (scene.objectsById objectId).isSome then
        update scene.objectLayerById objectId none
      else scene.objectLayerById }

/-- The step for a wire or via but for its batch. -/
def reindexed (scene : PtrScene) (objectId : String) (ptr : RecordPtr) : PtrScene :=
  { scene.erased objectId with
    objectIndexById := if (scene.objectIndexById objectId).isSome then
        update scene.objectIndexById objectId (some ptr)
      else scene.objectIndexById }

/-- `createSceneObject` and `addObject`. -/
def addSceneObject (scene : PtrScene) (object : ObjectRecord) : PtrScene :=
  let layer := scene.layers object.layerId
  { scene with
    objectsById := update scene.objectsById object.objectId
      (some ⟨some object, layer.all LayerRecord.visible && object.visible⟩)
    objectLayerById := update scene.objectLayerById object.objectId (some object.layerId) }

/-- The body of the loop; `affected` are the keys of the batches to rebuild. -/
def upsertObject (mem : Memory) (ptr : RecordPtr) (object : ObjectRecord) (scene : PtrScene)
    (affected : List BatchKey) : Option (PtrScene × List BatchKey) :=
  if object.batched then
    let indexed := scene.reindexed object.objectId ptr
    match scene.objectIdToBatchKey object.objectId with
    | none => some (indexed, affected)
    | some key =>
      match scene.layerBatches.lookup key with
      | none => some (indexed, key :: affected)
      | some batch => do
        let objects ← replaceFirst mem object.objectId ptr batch.objects
        some ({ indexed with
          layerBatches := putBatch key (fun batch => { batch with objects := objects })
            scene.layerBatches }, key :: affected)
  else some ((scene.erased object.objectId).addSceneObject object, affected)

/-- The loop over the list of call `call`, from an index on. -/
def upsertFrom (mem : Memory) (call : Nat) :
    Nat → List ObjectRecord → PtrScene → List BatchKey → Option (PtrScene × List BatchKey)
  | _, [], scene, affected => some (scene, affected)
  | index, object :: objects, scene, affected => do
    let (scene, affected) ← scene.upsertObject mem (.update call index) object affected
    upsertFrom mem call (index + 1) objects scene affected

def upsertObjects (mem : Memory) (call : Nat) (objects : List ObjectRecord) (scene : PtrScene) :
    Option PtrScene := do
  let (scene, affected) ← upsertFrom mem call 0 objects scene []
  affected.foldlM (rebuildBatch mem) scene

def setObjectVisible (mem : Memory) (scene : PtrScene) (objectId : String) (visible : Bool) :
    Option PtrScene :=
  match scene.objectIdToBatchKey objectId with
  | some key =>
    rebuildBatch mem { scene with
      hiddenObjects := update scene.hiddenObjects objectId (!visible)
      objectsById := update scene.objectsById objectId none
      objectLayerById := if (scene.objectsById objectId).isSome then
          update scene.objectLayerById objectId none
        else scene.objectLayerById } key
  | none =>
    match scene.objectsById objectId with
    | none => some scene
    | some object =>
      let layerIsVisible := match scene.objectLayerById objectId with
        | some layer => scene.isLayerVisible layer
        | none => true
      let actuallyVisible := visible && layerIsVisible
      some { scene with
        objectsById := update scene.objectsById objectId
          (some { object with visible := actuallyVisible })
        hiddenObjects := update scene.hiddenObjects objectId (!actuallyVisible) }

def updateObjectVisibility (mem : Memory) (scene : PtrScene) (updates : List (String × Bool)) :
    Option PtrScene :=
  updates.foldlM (fun scene entry => scene.setObjectVisible mem entry.1 entry.2) scene

/-- A batch without the removed objects, rebuilt if there were any. -/
def removeFromBatch (mem : Memory) (hidden : String → Bool) (objectIds : List String)
    (type : ObjectType) (batch : PtrBatch) : Option PtrBatch := do
  let records ← batch.objects.mapM mem
  if ∃ record ∈ records, record.objectId ∈ objectIds then
    let kept := (batch.objects.zip records).filter fun entry => entry.2.objectId ∉ objectIds
    some { batch with
      objects := kept.map Prod.fst
      primitives := primitivesAs type hidden (kept.map Prod.snd) }
  else some batch

def removeObjectsById (mem : Memory) (scene : PtrScene) (objectIds : List String) :
    Option PtrScene := do
  let batches ← scene.layerBatches.mapM fun entry =>
    (removeFromBatch mem scene.hiddenObjects objectIds entry.1.type entry.2).map fun batch =>
      (entry.1, batch)
  let gone (id : String) : Bool := id ∈ objectIds ∧ (scene.objectsById id).isSome
  some { scene with
    objectIdToBatchKey := fun id => if id ∈ objectIds then none else scene.objectIdToBatchKey id
    layerBatches := batches
    objectsById := fun id => if gone id then none else scene.objectsById id
    objectLayerById := fun id => if gone id then none else scene.objectLayerById id }

end PtrScene

/-- `buffer` and `capacity` are those of the vector of objects; `calls` counts the updates. -/
structure Session where
  layers : List LayerRecord
  backend : Backend
  buffer : Nat
  capacity : Nat
  calls : Nat
  scene : PtrScene

namespace Session

def kReservedObjects : Nat := 10000

def freshScene (frustum : Frustum ℚ) (culling : Bool) (layers : List LayerRecord)
    (objects : List ObjectRecord) : OsgScene :=
  (OsgScene.new frustum culling false).loadSnapshot ⟨layers, objects⟩

def load (frustum : Frustum ℚ) (culling : Bool) (snapshot : SceneSnapshot) : Session where
  layers := snapshot.layers
  backend := (Backend.new true).loadScene snapshot
  buffer := 0
  capacity := snapshot.objects.length + kReservedObjects
  calls := 0
  scene := .ofScene (freshScene frustum culling snapshot.layers snapshot.objects) snapshot.objects 0

def memory (objects : List ObjectRecord) (buffer call : Nat) (updates : List ObjectRecord) : Memory
  | .slot owner index => if owner = buffer then objects[index]? else none
  | .update owner index => if owner = call then updates[index]? else none

/-- `grow` is the capacity that the standard library gives a vector of this size when it moves. -/
def updateObjects (grow : Nat → Nat) (session : Session) (objects : List ObjectRecord) :
    Option Session :=
  if objects = [] then some session
  else do
    let loop := session.backend.updateLoop objects
    let moves : Bool := session.capacity < loop.objects.length
    let buffer := if moves then session.buffer + 1 else session.buffer
    let mem := memory loop.objects buffer session.calls loop.fullUpdates
    let upserted ← session.scene.upsertObjects mem session.calls loop.fullUpdates
    let scene ← upserted.updateObjectVisibility mem loop.visibilityOnlyUpdates
    some { session with
      backend := session.backend.updateObjects objects
      buffer := buffer
      capacity := if moves then grow loop.objects.length else session.capacity
      calls := session.calls + 1
      scene := scene }

def removeObjects (session : Session) (objectIds : List String) : Option Session :=
  if objectIds = [] then some session
  else do
    let backend := session.backend.removeObjects objectIds
    let scene ← session.scene.removeObjectsById
      (memory backend.objects session.buffer session.calls []) objectIds
    some { session with backend := backend, scene := scene }

end Session

inductive UpdateCall where
  | updateObjects (objects : List ObjectRecord)
  | removeObjects (objectIds : List String)

/-- There is no session after a call that followed a pointer to nothing. -/
def Session.after (grow : Nat → Nat) (session : Option Session) (call : UpdateCall) :
    Option Session :=
  session.bind fun session => match call with
    | .updateObjects objects => session.updateObjects grow objects
    | .removeObjects objectIds => session.removeObjects objectIds

def ObjectRecord.look (object : ObjectRecord) : ObjectRecord := { object with visible := true }

def nodeLook : Option SceneObject → Option ObjectRecord
  | some ⟨some record, true⟩ => some record.look
  | _ => none

def batchLook (primitives : List (ObjectRecord × Nat)) : List ObjectRecord :=
  (primitives.filter fun primitive => primitive.2 ≠ 0).map fun primitive => primitive.1.look

def PtrScene.drawnNode (scene : PtrScene) (id : String) : Option ObjectRecord :=
  nodeLook (scene.objectsById id)

def PtrScene.drawnBatch (scene : PtrScene) (key : BatchKey) : List ObjectRecord :=
  match scene.layerBatches.lookup key with
  | some batch => if batch.nodeMask then batchLook batch.primitives else []
  | none => []

def OsgScene.drawnNode (scene : OsgScene) (id : String) : Option ObjectRecord :=
  nodeLook (scene.objectsById id)

def OsgScene.drawnBatch (scene : OsgScene) (key : BatchKey) : List ObjectRecord :=
  match scene.layerBatches key with
  | some batch => if batch.nodeMask then batchLook batch.primitives else []
  | none => []

/-- The scene shows what a new scene would show of the snapshot. -/
def Session.Agrees (frustum : Frustum ℚ) (culling : Bool) (session : Session) : Prop :=
  let fresh := freshScene frustum culling session.layers session.backend.objects
  (∀ id, session.scene.drawnNode id = fresh.drawnNode id) ∧
    ∀ key, session.scene.drawnBatch key = fresh.drawnBatch key

end OpenRoad.Viewer
