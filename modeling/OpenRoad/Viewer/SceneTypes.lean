import OpenRoad.Viewer.SpatialIndex

/-! Records of a scene snapshot. Colours, names of cases and what else only reaches the shaders is
left out; coordinates are exact. -/

namespace OpenRoad.Viewer

inductive ObjectType where
  | Wire | Via | Inst | Pin | Drc | Blockage | Track | Bump | Text | Unknown
  deriving DecidableEq

inductive LineStyle where
  | Solid | Dashed | Dotted | DashDot | DashDotDot
  deriving DecidableEq

structure LayerRecord where
  layerId : String
  name : String
  visible : Bool
  selectable : Bool
  stippleId : String
  lineWidth : ℚ
  lineStyle : LineStyle
  deriving DecidableEq

structure ObjectRecord where
  objectId : String
  type : ObjectType
  layerId : String
  groupId : String
  visible : Bool
  transform : List ℚ
  bboxMin : Vec3 ℚ
  bboxMax : Vec3 ℚ
  hasBbox : Bool
  geometryRef : String
  styleRef : String
  displayName : String
  isHorizontal : Bool
  deriving DecidableEq

structure SceneSnapshot where
  layers : List LayerRecord
  objects : List ObjectRecord

def SceneSnapshot.UniqueIds (snapshot : SceneSnapshot) : Prop :=
  (snapshot.objects.map ObjectRecord.objectId).Nodup

def ObjectRecord.batched (object : ObjectRecord) : Bool :=
  object.type = .Wire || object.type = .Via

end OpenRoad.Viewer
