import OpenRoad.Lib.Effects
import OpenRoad.Odb.Transform
import OpenRoad.Viewer.SceneTypes

/-! The builder of scene snapshots from the database. Colours and stipples are left out, and lengths
are exact. -/

namespace OpenRoad.Viewer

open OpenRoad.Lib
open OpenRoad.Odb (Rect)

inductive TechLayerType where
  | ROUTING | CUT | MASTERSLICE | OVERLAP | IMPLANT | NONE
  deriving DecidableEq

structure TechLayer where
  number : Nat
  name : String
  type : TechLayerType
  thickness : Option Nat
  width : Int
  isHorizontal : Bool
  deriving DecidableEq

structure BoxShape where
  layer : Option TechLayer
  box : Rect

inductive ShapeType where
  | VIA | TECH_VIA | SEGMENT | TECH_VIA_BOX | VIA_BOX
  deriving DecidableEq

structure ViaDef where
  topLayer : Option TechLayer
  bottomLayer : Option TechLayer

/-- A shape of a wire; `via` is the via that it points to. -/
structure DbShape where
  type : ShapeType
  box : Rect
  layer : Option TechLayer
  via : Option ViaDef
  viaX : Int
  viaY : Int
  viaBoxes : List BoxShape

namespace DbShape

def isVia (shape : DbShape) : Bool := shape.type = .VIA || shape.type = .TECH_VIA

def isViaBox (shape : DbShape) : Bool := shape.type = .VIA_BOX || shape.type = .TECH_VIA_BOX

def getVia (shape : DbShape) : Option ViaDef :=
  if shape.type ≠ .VIA ∧ shape.type ≠ .VIA_BOX then none else shape.via

def getTechVia (shape : DbShape) : Option ViaDef :=
  if shape.type ≠ .TECH_VIA ∧ shape.type ≠ .TECH_VIA_BOX then none else shape.via

def viaDef (shape : DbShape) : Option ViaDef :=
  match shape.getVia with
  | some via => some via
  | none => shape.getTechVia

end DbShape

/-- `ptr` is the address of the object. -/
structure DbWire where
  ptr : Nat
  shapes : List DbShape

structure DbNet where
  name : String
  wire : Option DbWire

structure DbITerm where
  ptr : Nat
  mterm : Option String
  shapes : List BoxShape

structure DbInst where
  ptr : Nat
  name : String
  master : String
  bbox : Option Rect
  iterms : List DbITerm

structure DbBPin where
  bbox : Rect
  boxLayers : List (Option TechLayer)

structure DbBTerm where
  ptr : Nat
  name : String
  bpins : List DbBPin

structure DbMarker where
  name : String
  techLayer : Option TechLayer
  bbox : Rect

structure DbTrackGrid where
  techLayer : Option TechLayer
  gridX : List Int
  gridY : List Int

/-- Objects of a kind have different addresses. -/
structure DbBlock where
  dbUnitsPerMicron : Nat
  bbox : Option Rect
  insts : List DbInst
  nets : List DbNet
  bterms : List DbBTerm
  blockages : List (Option Rect)
  markerCategories : List (List DbMarker)
  trackGrids : List DbTrackGrid
  insts_nodup : (insts.map DbInst.ptr).Nodup
  wires_nodup : ((nets.filterMap DbNet.wire).map DbWire.ptr).Nodup
  bterms_nodup : (bterms.map DbBTerm.ptr).Nodup
  iterms_nodup : ((insts.flatMap DbInst.iterms).map DbITerm.ptr).Nodup

structure SceneChip where
  block : Option DbBlock

structure SceneDatabase where
  chip : Option SceneChip
  tech : Option (List TechLayer)

def SceneDatabase.block (db : SceneDatabase) : Option DbBlock := db.chip.bind SceneChip.block

def SceneDatabase.dbUnitsPerMicron (db : SceneDatabase) : Nat :=
  (db.block.map DbBlock.dbUnitsPerMicron).getD 0

namespace OdbSceneBuilder

section Heights

variable (db : SceneDatabase)

def dbuToMicrons (dbu : Int) : ℚ := dbu / db.dbUnitsPerMicron

def getLayerThickness (layer : TechLayer) : ℚ :=
  match layer.thickness with
  | some thickness => thickness / db.dbUnitsPerMicron
  | none => layer.width / db.dbUnitsPerMicron / 2

/-- The loop of `computeLayerZPositions`; the centers found last are first. -/
def stackLayers : Option TechLayer → List (Nat × ℚ) → List TechLayer → List (Nat × ℚ)
  | _, cache, [] => cache
  | below, cache, layer :: layers =>
    let thickness := getLayerThickness db layer
    let center := match below with
      | none => thickness / 2
      | some prev_layer => (cache.lookup prev_layer.number).getD 0 +
        getLayerThickness db prev_layer / 2 + thickness / 2
    stackLayers (some layer) ((layer.number, center) :: cache) layers

def layerZCache : List (Nat × ℚ) := stackLayers db none [] (db.tech.getD [])

def getLayerZBase (layer : TechLayer) : ℚ :=
  match (layerZCache db).lookup layer.number with
  | some center => center
  | none => match layer.type with
    | .ROUTING => layer.number / 10
    | .CUT => layer.number / 10 - 5 / 100
    | _ => layer.number * 6 / 100

end Heights

def getViaLayerName (topLayer bottomLayer : TechLayer) : String :=
  "via" ++ toString bottomLayer.number ++ toString topLayer.number

structure BuiltLayer where
  layerId : String
  name : String
  zBase : ℚ
  thickness : ℚ
  visible : Bool
  selectable : Bool
  isHorizontal : Bool
  transparency : ℚ
  lineWidth : ℚ
  lineStyle : LineStyle
  deriving DecidableEq

structure BuiltSnapshot where
  sourceTag : String
  layers : List BuiltLayer
  objects : List ObjectRecord

/-- A pointer to a layer of the vector, good for one of its buffers. -/
structure LayerPtr where
  index : Nat
  buffer : Nat
  deriving DecidableEq

/-- `snapshot.layers` while it is built; a vector that is full moves to a larger buffer. -/
structure LayerVector where
  records : List BuiltLayer
  capacity : Nat
  buffer : Nat

structure StandardLibrary where
  grow : Nat → Nat
  text : ℚ → String

def LayerVector.push_back (lib : StandardLibrary) (layers : LayerVector) (layer : BuiltLayer) :
    LayerVector :=
  if layers.records.length = layers.capacity then
    ⟨layers.records ++ [layer], lib.grow layers.capacity, layers.buffer + 1⟩
  else ⟨layers.records ++ [layer], layers.capacity, layers.buffer⟩

def LayerVector.back (layers : LayerVector) : LayerPtr := ⟨layers.records.length - 1, layers.buffer⟩

structure BuildState where
  layers : LayerVector
  layerLookupMap : List (String × LayerPtr)
  objects : List ObjectRecord
  object_id_counter : Nat

/-- A pointer into a buffer that the vector has left. -/
inductive BuildFault where
  | dangling
  deriving DecidableEq

abbrev BuildM (α : Type) := Effect BuildState BuildFault α

def followLayer (ptr : LayerPtr) : BuildM BuiltLayer := do
  let layers := (← get).layers
  if ptr.buffer = layers.buffer then
    match layers.records[ptr.index]? with
    | some layer => pure layer
    | none => throw .dangling
  else throw .dangling

def modifyLayer (ptr : LayerPtr) (update : BuiltLayer → BuiltLayer) : BuildM Unit := do
  let layer ← followLayer ptr
  modify fun state => { state with
    layers := { state.layers with records := state.layers.records.set ptr.index (update layer) } }

def addObject (object : ObjectRecord) : BuildM Unit :=
  modify fun state => { state with objects := state.objects ++ [object] }

/-- `index` is negative in the source where there is none. -/
def makePointerObjectId (ptr : Nat) (category : String) (index : Option Nat) (role : String) :
    String :=
  let result := "ptr_" ++ toString ptr ++ "_" ++ category
  let result := match index with
    | some index => result ++ "_" ++ toString index
    | none => result
  if role = "" then result else result ++ "_" ++ role

def generateObjectId (stem : String) : BuildM String := do
  let state ← get
  set { state with object_id_counter := state.object_id_counter + 1 }
  pure (stem ++ "_" ++ toString state.object_id_counter)

section Passes

variable (lib : StandardLibrary) (db : SceneDatabase)

def newLayer (layerName : String) (zBase : ℚ) : BuiltLayer where
  layerId := layerName
  name := layerName
  zBase := zBase
  thickness := 3 / 10
  visible := true
  selectable := true
  isHorizontal := (((db.tech.getD []).find? (·.name = layerName)).map
    TechLayer.isHorizontal).getD true
  transparency := 0
  lineWidth := 1
  lineStyle := .Solid

def getOrCreateLayer (layerName : String) (zBase : ℚ) : BuildM LayerPtr := do
  match (← get).layerLookupMap.lookup layerName with
  | some ptr => do
    let layer ← followLayer ptr
    if 1 / 1000000 < |layer.zBase - zBase| then
      modifyLayer ptr fun layer => { layer with zBase := zBase }
      pure ptr
    else pure ptr
  | none => do
    let state ← get
    let layers := state.layers.push_back lib (newLayer db layerName zBase)
    set { state with
      layers := layers
      layerLookupMap := (layerName, layers.back) :: state.layerLookupMap }
    pure layers.back

/-- An object with a box between two heights, and its center. -/
def boxed (rect : Rect) (zMin zMax : ℚ) : ObjectRecord :=
  let low : Vec3 ℚ := ⟨dbuToMicrons db rect.xlo, dbuToMicrons db rect.ylo, zMin⟩
  let high : Vec3 ℚ := ⟨dbuToMicrons db rect.xhi, dbuToMicrons db rect.yhi, zMax⟩
  { objectId := ""
    type := .Unknown
    layerId := ""
    groupId := ""
    visible := true
    transform := [1, 0, 0, 0, 0, 1, 0, 0, 0, 0, 1, 0,
      (low.x + high.x) / 2, (low.y + high.y) / 2, (low.z + high.z) / 2, 1]
    bboxMin := low
    bboxMax := high
    hasBbox := true
    geometryRef := ""
    styleRef := ""
    displayName := ""
    isHorizontal := true }

def unboxed : ObjectRecord where
  objectId := ""
  type := .Unknown
  layerId := ""
  groupId := ""
  visible := true
  transform := [1, 0, 0, 0, 0, 1, 0, 0, 0, 0, 1, 0, 0, 0, 0, 1]
  bboxMin := ⟨0, 0, 0⟩
  bboxMax := ⟨0, 0, 0⟩
  hasBbox := false
  geometryRef := ""
  styleRef := ""
  displayName := ""
  isHorizontal := true

def addOnLayer (layerName : String) (zBase : ℚ) (object : ObjectRecord) : BuildM Unit := do
  let ptr ← getOrCreateLayer lib db layerName zBase
  let layer ← followLayer ptr
  addObject { object with layerId := layer.layerId }

def unseenLayers : List Nat → List TechLayer → List TechLayer
  | _, [] => []
  | seen, layer :: layers =>
    if layer.number ∈ seen then unseenLayers seen layers
    else layer :: unseenLayers (layer.number :: seen) layers

/-- The center and the thickness of an instance, from the layers of its pins. -/
def instanceZ (layers : List TechLayer) : ℚ × ℚ :=
  match unseenLayers [] layers with
  | [] => (1 / 4, 1 / 2)
  | first :: rest =>
    let all := first :: rest
    let zMin := fun layer => getLayerZBase db layer - getLayerThickness db layer / 2
    let zMax := fun layer => getLayerZBase db layer + getLayerThickness db layer / 2
    let centerZ := (all.map (getLayerZBase db)).sum / all.length
    let pinZMin := (rest.map zMin).foldl min (zMin first)
    let pinZMax := (rest.map zMax).foldl max (zMax first)
    let halfSpan := max (centerZ - pinZMin) (pinZMax - centerZ)
    (centerZ, max (1 / 100) (max (halfSpan * 2) (all.map (getLayerThickness db)).sum))

def processInstance (inst : DbInst) : BuildM Unit :=
  match inst.bbox with
  | none => pure ()
  | some rect => do
    let (centerZ, thicknessZ) := instanceZ db
      ((inst.iterms.flatMap DbITerm.shapes).filterMap BoxShape.layer)
    let ptr ← getOrCreateLayer lib db "instance" 0
    modifyLayer ptr fun layer => { layer with transparency := 55 / 100 }
    let layer ← followLayer ptr
    addObject { boxed db rect (centerZ - thicknessZ / 2) (centerZ + thicknessZ / 2) with
      objectId := makePointerObjectId inst.ptr "inst" none ""
      type := .Inst
      layerId := layer.layerId
      styleRef := inst.master
      displayName := inst.name }

def processInstances : BuildM Unit :=
  match db.block with
  | none => pure ()
  | some block => forM block.insts (processInstance lib db)

/-- The union of boxes, or a point where there are none. -/
def unionAt (x y : Int) : List Rect → Rect
  | [] => ⟨x, y, x, y⟩
  | first :: rest => rest.foldl
    (fun union box => ⟨min union.xlo box.xlo, min union.ylo box.ylo, max union.xhi box.xhi,
      max union.yhi box.yhi⟩) first

def viaBoxesOn (shape : DbShape) (test : TechLayer → Bool) : List (TechLayer × Rect) :=
  shape.viaBoxes.filterMap fun box => do
    let layer ← box.layer
    if test layer then some (layer, box.box) else none

def processVia (netName : String) (wire : Nat) (shapeIndex : Nat) (shape : DbShape)
    (topLayer bottomLayer : TechLayer) : BuildM Unit := do
  let swapped := getLayerZBase db topLayer < getLayerZBase db bottomLayer
  let physTopLayer := if swapped then bottomLayer else topLayer
  let physBottomLayer := if swapped then topLayer else bottomLayer
  let physTopZ := getLayerZBase db physTopLayer
  let physBottomZ := getLayerZBase db physBottomLayer
  let viaLayerName := getViaLayerName physTopLayer physBottomLayer
  let viaGroupId := netName ++ "_" ++ viaLayerName
  let topThickness := getLayerThickness db physTopLayer
  let bottomThickness := getLayerThickness db physBottomLayer
  let topBoxes := viaBoxesOn shape fun layer => layer.number = physTopLayer.number
  let bottomBoxes := viaBoxesOn shape fun layer => layer.number = physBottomLayer.number
  let cutBoxes := viaBoxesOn shape fun layer => layer.type = .CUT
  let cutThickness := match cutBoxes.getLast? with
    | some (layer, _) => getLayerThickness db layer
    | none => bottomThickness
  let viaZ := physBottomZ + bottomThickness / 2 + cutThickness / 2
  let part := fun (boxes : List (TechLayer × Rect)) (z thickness : ℚ) =>
    { boxed db (unionAt shape.viaX shape.viaY (boxes.map Prod.snd)) (z - thickness / 2)
        (z + thickness / 2) with
      type := .Via, displayName := netName, groupId := viaGroupId }
  -- the part on the top layer gets no id
  addOnLayer lib db physTopLayer.name physTopZ
    { part topBoxes physTopZ topThickness with styleRef := "via_top" }
  addOnLayer lib db physBottomLayer.name physBottomZ
    { part bottomBoxes physBottomZ bottomThickness with
      objectId := makePointerObjectId wire "via" (some shapeIndex) "bottom"
      styleRef := "via_bottom" }
  addOnLayer lib db (viaLayerName ++ "_cut") viaZ
    { part cutBoxes viaZ cutThickness with
      objectId := makePointerObjectId wire "via" (some shapeIndex) "cut"
      styleRef := "via_cut" }

def processSegment (netName : String) (wire : Nat) (shapeIndex : Nat) (shape : DbShape) :
    BuildM Unit := do
  let zBase := (shape.layer.map (getLayerZBase db)).getD 0
  let thickness := (shape.layer.map (getLayerThickness db)).getD (1 / 10)
  let box := boxed db shape.box (zBase - thickness / 2) (zBase + thickness / 2)
  let obj : ObjectRecord := { box with
    objectId := makePointerObjectId wire "wire" (some shapeIndex) ""
    type := .Wire
    styleRef := "wire"
    displayName := netName
    isHorizontal := box.bboxMax.y - box.bboxMin.y < box.bboxMax.x - box.bboxMin.x }
  match shape.layer with
  | some layer => addOnLayer lib db layer.name zBase obj
  | none => addObject obj

/-- A via without both its layers is skipped and takes no index. -/
def processShapes (netName : String) (wire : Nat) : Nat → List DbShape → BuildM Unit
  | _, [] => pure ()
  | shapeIndex, shape :: shapes =>
    if shape.isVia || shape.isViaBox then
      match shape.viaDef.bind ViaDef.topLayer, shape.viaDef.bind ViaDef.bottomLayer with
      | some topLayer, some bottomLayer => do
        processVia lib db netName wire shapeIndex shape topLayer bottomLayer
        processShapes netName wire (shapeIndex + 1) shapes
      | _, _ => processShapes netName wire shapeIndex shapes
    else do
      processSegment lib db netName wire shapeIndex shape
      processShapes netName wire (shapeIndex + 1) shapes

def processNet (net : DbNet) : BuildM Unit :=
  match net.wire with
  | none => pure ()
  | some wire => processShapes lib db net.name wire.ptr 0 wire.shapes

def processNets : BuildM Unit :=
  match db.block with
  | none => pure ()
  | some block => forM block.nets (processNet lib db)

def area (rect : Rect) : Int := (rect.xhi - rect.xlo) * (rect.yhi - rect.ylo)

def processBTerm (bterm : DbBTerm) : BuildM Unit := do
  let named := fun (object : ObjectRecord) => { object with
    objectId := makePointerObjectId bterm.ptr "bterm_pin" none ""
    type := .Pin
    displayName := bterm.name }
  match bterm.bpins.find? fun bpin => 0 < area bpin.bbox with
  | none => addObject { named unboxed with layerId := "pin" }
  | some bpin =>
    let pinLayer := bpin.boxLayers.findSome? id
    let zCenter := (pinLayer.map (getLayerZBase db)).getD (1 / 10)
    let zThickness := (pinLayer.map (getLayerThickness db)).getD (2 / 10)
    let obj := named (boxed db bpin.bbox (zCenter - zThickness / 2) (zCenter + zThickness / 2))
    match pinLayer with
    | some layer => addOnLayer lib db layer.name zCenter obj
    | none => addObject { obj with layerId := "pin" }

/-- A shape without a layer is skipped and takes no index. -/
def processITermShapes (inst : DbInst) (iterm : DbITerm) : Nat → List BoxShape → BuildM Unit
  | _, [] => pure ()
  | shapeIndex, shape :: shapes =>
    match shape.layer with
    | none => processITermShapes inst iterm shapeIndex shapes
    | some pinLayer => do
      let zCenter := getLayerZBase db pinLayer
      let zThickness := getLayerThickness db pinLayer
      addOnLayer lib db pinLayer.name zCenter
        { boxed db shape.box (zCenter - zThickness / 2) (zCenter + zThickness / 2) with
          objectId := makePointerObjectId iterm.ptr "iterm_pin" (some shapeIndex) ""
          type := .Pin
          displayName := inst.name ++ "/" ++ iterm.mterm.getD "iterm" }
      processITermShapes inst iterm (shapeIndex + 1) shapes

def processITerms (inst : DbInst) : BuildM Unit :=
  forM inst.iterms fun iterm => processITermShapes lib db inst iterm 0 iterm.shapes

def processPins : BuildM Unit :=
  match db.block with
  | none => pure ()
  | some block => do
    forM block.bterms (processBTerm lib db)
    forM block.insts (processITerms lib db)

def processBlockage (bbox : Option Rect) : BuildM Unit :=
  match bbox with
  | none => pure ()
  | some rect => do
    let objectId ← generateObjectId "blk"
    let layer := (db.tech.getD []).find? (·.name = "metal1")
    let zBase := (layer.map (getLayerZBase db)).getD 0
    let thickness := (layer.map (getLayerThickness db)).getD (1 / 2)
    addOnLayer lib db "blockage" zBase
      { boxed db rect (zBase - thickness / 2) (zBase + thickness / 2) with
        objectId := objectId
        type := .Blockage
        displayName := "blockage" }

def processBlockages : BuildM Unit :=
  match db.block with
  | none => pure ()
  | some block => forM block.blockages (processBlockage lib db)

def processDrcMarker (marker : DbMarker) : BuildM Unit := do
  let objectId ← generateObjectId "drc"
  let zBase := (marker.techLayer.map (getLayerZBase db)).getD (1 / 2)
  let thickness := (marker.techLayer.map (getLayerThickness db)).getD (1 / 10)
  let obj : ObjectRecord :=
    { boxed db marker.bbox (zBase - thickness / 2) (zBase + thickness / 2) with
      objectId := objectId
      type := .Drc
      displayName := marker.name }
  match marker.techLayer with
  | some layer => addOnLayer lib db layer.name zBase obj
  | none => addObject obj

def processDrcMarkers : BuildM Unit :=
  match db.block with
  | none => pure ()
  | some block => forM block.markerCategories.flatten (processDrcMarker lib db)

/-- The lines of the tracks over the die, each as two points. -/
def polyDesc (die : Rect) (trackGrid : DbTrackGrid) : String :=
  let text := fun dbu => lib.text (dbuToMicrons db dbu)
  let xLines := trackGrid.gridX.map fun x =>
    text x ++ "," ++ text die.ylo ++ ";" ++ text x ++ "," ++ text die.yhi
  let yLines := trackGrid.gridY.map fun y =>
    text die.xlo ++ "," ++ text y ++ ";" ++ text die.xhi ++ "," ++ text y
  String.intercalate ";" (xLines ++ yLines)

def processTrackGrid (die : Rect) (trackGrid : DbTrackGrid) : BuildM Unit :=
  match trackGrid.techLayer with
  | none => pure ()
  | some layer => do
    let zBase := getLayerZBase db layer
    let objectId ← generateObjectId "track"
    let poly := polyDesc lib db die trackGrid
    addOnLayer lib db layer.name zBase { boxed db die zBase zBase with
      objectId := objectId
      type := .Track
      geometryRef := if poly = "" then "" else "poly:" ++ poly
      displayName := "track_" ++ layer.name }

def processTrackGrids : BuildM Unit :=
  match db.block with
  | none => pure ()
  | some block => forM block.trackGrids
    (processTrackGrid lib db (block.bbox.getD ⟨0, 0, 0, 0⟩))

def uniqueLayers : List String → List BuiltLayer → List BuiltLayer
  | _, [] => []
  | seen, layer :: layers =>
    if layer.name ∈ seen then uniqueLayers seen layers
    else layer :: uniqueLayers (layer.name :: seen) layers

def kReservedLayers : Nat := 50

def passes : BuildM Unit := do
  processInstances lib db
  processNets lib db
  processPins lib db
  processBlockages lib db
  processDrcMarkers lib db
  processTrackGrids lib db

/-- Layers at one height may come in any order; this is one of them. -/
def build (db : Option SceneDatabase) (object_id_counter : Nat) :
    Except BuildFault (BuiltSnapshot × Nat) :=
  match db with
  | none => .ok (⟨"openroad_db", [], []⟩, object_id_counter)
  | some db =>
    let reserved := if db.block.isSome then kReservedLayers else 0
    match (passes lib db).exec ⟨⟨[], reserved, 0⟩, [], [], object_id_counter⟩ with
    | (.error fault, _) => .error fault
    | (.ok _, state) =>
      .ok (⟨"openroad_db", (uniqueLayers [] state.layers.records).insertionSort
        (fun a b => a.zBase ≤ b.zBase), state.objects⟩, state.object_id_counter)

end Passes

end OdbSceneBuilder

end OpenRoad.Viewer
