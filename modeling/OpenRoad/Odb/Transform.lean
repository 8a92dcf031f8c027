import Mathlib.Tactic

/-! Points, boxes and `dbTransform`, in exact arithmetic. -/

namespace OpenRoad.Odb

structure Point where
  x : Int
  y : Int
  deriving DecidableEq

structure Point3D where
  x : Int
  y : Int
  z : Int
  deriving DecidableEq

structure Rect where
  xlo : Int
  ylo : Int
  xhi : Int
  yhi : Int
  deriving DecidableEq

structure Cuboid where
  xlo : Int
  ylo : Int
  zlo : Int
  xhi : Int
  yhi : Int
  zhi : Int
  deriving DecidableEq

def Point.rotate90 (p : Point) : Point := ⟨-p.y, p.x⟩

def Point.rotate180 (p : Point) : Point := ⟨-p.x, -p.y⟩

def Point.rotate270 (p : Point) : Point := ⟨p.y, -p.x⟩

def Rect.init (x1 y1 x2 y2 : Int) : Rect := ⟨min x1 x2, min y1 y2, max x1 x2, max y1 y2⟩

def Rect.ll (r : Rect) : Point := ⟨r.xlo, r.ylo⟩

def Rect.ur (r : Rect) : Point := ⟨r.xhi, r.yhi⟩

def Cuboid.init (x1 y1 z1 x2 y2 z2 : Int) : Cuboid :=
  ⟨min x1 x2, min y1 y2, min z1 z2, max x1 x2, max y1 y2, max z1 z2⟩

def Cuboid.lll (c : Cuboid) : Point3D := ⟨c.xlo, c.ylo, c.zlo⟩

def Cuboid.uur (c : Cuboid) : Point3D := ⟨c.xhi, c.yhi, c.zhi⟩

def Cuboid.zCenter (c : Cuboid) : Int := (c.zlo + c.zhi).tdiv 2

inductive DbOrientType where
  | R0 | R90 | R180 | R270 | MY | MYR90 | MX | MXR90
  deriving DecidableEq

structure DbOrientType3D where
  value : DbOrientType
  mirror_z : Bool
  deriving DecidableEq

open DbOrientType (R0 R90 R180 R270 MY MYR90 MX MXR90)

/-- The row of `orientMul` for the orientation that is applied first. -/
def orientRow : DbOrientType → List DbOrientType
  | R0 => [R0, R90, R180, R270, MY, MYR90, MX, MXR90]
  | R90 => [R90, R180, R270, R0, MXR90, MY, MYR90, MX]
  | R180 => [R180, R270, R0, R90, MX, MXR90, MY, MYR90]
  | R270 => [R270, R0, R90, R180, MYR90, MX, MXR90, MY]
  | MY => [MY, MYR90, MX, MXR90, R0, R90, R180, R270]
  | MYR90 => [MYR90, MX, MXR90, MY, R270, R0, R90, R180]
  | MX => [MX, MXR90, MY, MYR90, R180, R270, R0, R90]
  | MXR90 => [MXR90, MY, MYR90, MX, R90, R180, R270, R0]

def orientMul (first second : DbOrientType) : DbOrientType :=
  (orientRow first).getD second.ctorIdx R0

structure DbTransform where
  orient : DbOrientType
  offset : Point3D
  mirror_z : Bool
  deriving DecidableEq

namespace DbTransform

def identity : DbTransform := ⟨R0, ⟨0, 0, 0⟩, false⟩

def ofOrient (orient : DbOrientType3D) (offset : Point3D) : DbTransform :=
  ⟨orient.value, offset, orient.mirror_z⟩

/-- The switch of `apply`. -/
def orientPoint (orient : DbOrientType) (p : Point) : Point :=
  match orient with
  | R0 => p
  | R90 => p.rotate90
  | R180 => p.rotate180
  | R270 => p.rotate270
  | MY => { p with x := -p.x }
  | MYR90 => ({ p with x := -p.x } : Point).rotate90
  | MX => { p with y := -p.y }
  | MXR90 => ({ p with y := -p.y } : Point).rotate90

def apply (t : DbTransform) (p : Point) : Point :=
  ⟨(orientPoint t.orient p).x + t.offset.x, (orientPoint t.orient p).y + t.offset.y⟩

def applyPoint3D (t : DbTransform) (p : Point3D) : Point3D :=
  ⟨(t.apply ⟨p.x, p.y⟩).x, (t.apply ⟨p.x, p.y⟩).y, (if t.mirror_z then -p.z else p.z) + t.offset.z⟩

def applyRect (t : DbTransform) (r : Rect) : Rect :=
  Rect.init (t.apply r.ll).x (t.apply r.ll).y (t.apply r.ur).x (t.apply r.ur).y

def applyCuboid (t : DbTransform) (c : Cuboid) : Cuboid :=
  Cuboid.init (t.applyPoint3D c.lll).x (t.applyPoint3D c.lll).y (t.applyPoint3D c.lll).z
    (t.applyPoint3D c.uur).x (t.applyPoint3D c.uur).y (t.applyPoint3D c.uur).z

/-- Post multiply: first this transform, then `t`. -/
def concat (self t : DbTransform) : DbTransform :=
  ⟨orientMul self.orient t.orient, t.applyPoint3D self.offset, xor self.mirror_z t.mirror_z⟩

lemma orientPoint_orientMul (first second : DbOrientType) (p : Point) :
    orientPoint (orientMul first second) p = orientPoint second (orientPoint first p) := by
  cases first <;> cases second <;>
    simp [orientMul, orientRow, DbOrientType.ctorIdx, orientPoint, Point.rotate90, Point.rotate180,
      Point.rotate270]

lemma orientPoint_add (orient : DbOrientType) (p q : Point) :
    orientPoint orient ⟨p.x + q.x, p.y + q.y⟩ =
      ⟨(orientPoint orient p).x + (orientPoint orient q).x,
        (orientPoint orient p).y + (orientPoint orient q).y⟩ := by
  cases orient <;> simp only [orientPoint, Point.rotate90, Point.rotate180, Point.rotate270,
    neg_add]

lemma apply_concat (s t : DbTransform) (p : Point) :
    (s.concat t).apply p = t.apply (s.apply p) := by
  have moved : orientPoint t.orient (s.apply p) = ⟨(orientPoint (orientMul s.orient t.orient) p).x +
          (orientPoint t.orient ⟨s.offset.x, s.offset.y⟩).x,
        (orientPoint (orientMul s.orient t.orient) p).y +
          (orientPoint t.orient ⟨s.offset.x, s.offset.y⟩).y⟩ := by
    rw [orientPoint_orientMul]
    exact orientPoint_add t.orient (orientPoint s.orient p) ⟨s.offset.x, s.offset.y⟩
  rw [apply, apply, moved]
  simp only [concat, applyPoint3D, apply, Point.mk.injEq]
  constructor <;> ring

lemma applyPoint3D_concat (s t : DbTransform) (p : Point3D) :
    (s.concat t).applyPoint3D p = t.applyPoint3D (s.applyPoint3D p) := by
  have flat := apply_concat s t ⟨p.x, p.y⟩
  have same : (⟨(s.apply ⟨p.x, p.y⟩).x, (s.apply ⟨p.x, p.y⟩).y⟩ : Point) = s.apply ⟨p.x, p.y⟩ := rfl
  have height : (if (s.concat t).mirror_z then -p.z else p.z) + (s.concat t).offset.z =
      (if t.mirror_z then -((if s.mirror_z then -p.z else p.z) + s.offset.z)
        else (if s.mirror_z then -p.z else p.z) + s.offset.z) + t.offset.z := by
    rcases s with ⟨_, _, first⟩
    rcases t with ⟨_, _, second⟩
    cases first <;> cases second <;> simp [concat, applyPoint3D] <;> omega
  rw [applyPoint3D, applyPoint3D, flat, height]
  simp only [applyPoint3D, same]

lemma applyPoint3D_identity (p : Point3D) : identity.applyPoint3D p = p := by
  simp [identity, applyPoint3D, apply, orientPoint]

@[simp] lemma mirror_z_concat (s t : DbTransform) :
    (s.concat t).mirror_z = xor s.mirror_z t.mirror_z := rfl

end DbTransform

end OpenRoad.Odb
