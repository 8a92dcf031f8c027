import OpenRoad.Odb.UnfoldExact

/-! Boxes that cover boxes: under transforms, along paths and under merges. -/

namespace OpenRoad.Odb

open Point DbTransform

namespace Cuboid

structure Covers (outer inner : Cuboid) : Prop where
  xlo : outer.xlo ≤ inner.xlo
  ylo : outer.ylo ≤ inner.ylo
  zlo : outer.zlo ≤ inner.zlo
  xhi : inner.xhi ≤ outer.xhi
  yhi : inner.yhi ≤ outer.yhi
  zhi : inner.zhi ≤ outer.zhi

structure Contains (c : Cuboid) (p : Point3D) : Prop where
  x : c.xlo ≤ p.x ∧ p.x ≤ c.xhi
  y : c.ylo ≤ p.y ∧ p.y ≤ c.yhi
  z : c.zlo ≤ p.z ∧ p.z ≤ c.zhi

structure Upright (c : Cuboid) : Prop where
  x : c.xlo ≤ c.xhi
  y : c.ylo ≤ c.yhi
  z : c.zlo ≤ c.zhi

variable {a b c : Cuboid}

lemma covers_refl (c : Cuboid) : c.Covers c :=
  ⟨le_rfl, le_rfl, le_rfl, le_rfl, le_rfl, le_rfl⟩

lemma covers_trans (first : a.Covers b) (second : b.Covers c) : a.Covers c :=
  ⟨first.xlo.trans second.xlo, first.ylo.trans second.ylo, first.zlo.trans second.zlo,
    second.xhi.trans first.xhi, second.yhi.trans first.yhi, second.zhi.trans first.zhi⟩

lemma upright_of_covers (covers : a.Covers b) (upright : b.Upright) : a.Upright :=
  ⟨covers.xlo.trans (upright.x.trans covers.xhi), covers.ylo.trans (upright.y.trans covers.yhi),
    covers.zlo.trans (upright.z.trans covers.zhi)⟩

lemma init_upright (x1 y1 z1 x2 y2 z2 : Int) : (init x1 y1 z1 x2 y2 z2).Upright :=
  ⟨min_le_max, min_le_max, min_le_max⟩

def between (p q : Point3D) : Cuboid := init p.x p.y p.z q.x q.y q.z

lemma between_corners (upright : c.Upright) : between c.lll c.uur = c := by
  simp only [between, init, lll, uur, min_eq_left upright.x, min_eq_left upright.y,
    min_eq_left upright.z, max_eq_right upright.x, max_eq_right upright.y,
    max_eq_right upright.z]

lemma covers_between (p q : Point3D) : c.Covers (between p q) ↔ c.Contains p ∧ c.Contains q := by
  constructor
  · rintro ⟨xlo, ylo, zlo, xhi, yhi, zhi⟩
    simp only [between, init, le_min_iff, max_le_iff] at xlo ylo zlo xhi yhi zhi
    exact ⟨⟨⟨xlo.1, xhi.1⟩, ⟨ylo.1, yhi.1⟩, ⟨zlo.1, zhi.1⟩⟩,
      ⟨⟨xlo.2, xhi.2⟩, ⟨ylo.2, yhi.2⟩, ⟨zlo.2, zhi.2⟩⟩⟩
  · rintro ⟨first, second⟩
    exact ⟨le_min first.x.1 second.x.1, le_min first.y.1 second.y.1, le_min first.z.1 second.z.1,
      max_le first.x.2 second.x.2, max_le first.y.2 second.y.2, max_le first.z.2 second.z.2⟩

end Cuboid

namespace DbTransform

open Cuboid (between)

variable (t : DbTransform)

lemma applyCuboid_between (c : Cuboid) :
    t.applyCuboid c = between (t.applyPoint3D c.lll) (t.applyPoint3D c.uur) := rfl

lemma applyCuboid_upright (c : Cuboid) : (t.applyCuboid c).Upright :=
  Cuboid.init_upright _ _ _ _ _ _

lemma applyCuboid_corners (p q : Point3D) :
    t.applyCuboid (between p q) = between (t.applyPoint3D p) (t.applyPoint3D q) := by
  rcases t with ⟨orient, offset, mirror_z⟩
  cases orient <;> cases mirror_z <;>
    simp only [applyCuboid, between, Cuboid.init, Cuboid.lll, Cuboid.uur, applyPoint3D, apply,
      orientPoint, rotate90, rotate180, rotate270, Cuboid.mk.injEq,
      if_true, Bool.false_eq_true, if_false] <;>
    omega

lemma applyCuboid_concat (s t : DbTransform) (c : Cuboid) :
    (s.concat t).applyCuboid c = t.applyCuboid (s.applyCuboid c) := by
  rw [applyCuboid_between s, applyCuboid_corners, applyCuboid_between, applyPoint3D_concat,
    applyPoint3D_concat]

lemma applyCuboid_identity {c : Cuboid} (upright : c.Upright) : identity.applyCuboid c = c := by
  rw [applyCuboid_between, applyPoint3D_identity, applyPoint3D_identity,
    Cuboid.between_corners upright]

lemma contains_apply {c : Cuboid} (upright : c.Upright) (p : Point3D) :
    (t.applyCuboid c).Contains (t.applyPoint3D p) ↔ c.Contains p := by
  rcases t with ⟨orient, offset, mirror_z⟩
  rcases upright with ⟨x, y, z⟩
  cases orient <;> cases mirror_z <;>
    simp only [applyCuboid, Cuboid.init, Cuboid.lll, Cuboid.uur, applyPoint3D, apply,
      orientPoint, rotate90, rotate180, rotate270, if_true,
      Bool.false_eq_true, if_false] <;>
    constructor <;> rintro ⟨⟨xlo, xhi⟩, ⟨ylo, yhi⟩, ⟨zlo, zhi⟩⟩ <;>
    refine ⟨⟨?_, ?_⟩, ⟨?_, ?_⟩, ⟨?_, ?_⟩⟩ <;> dsimp only at * <;> omega

lemma covers_apply {outer inner : Cuboid} (outerUpright : outer.Upright)
    (innerUpright : inner.Upright) :
    (t.applyCuboid outer).Covers (t.applyCuboid inner) ↔ outer.Covers inner := by
  rw [applyCuboid_between t inner, Cuboid.covers_between, contains_apply t outerUpright,
    contains_apply t outerUpright, ← Cuboid.covers_between, Cuboid.between_corners innerUpright]

lemma applyCuboid_offset (orient : DbOrientType3D) (offset : Point3D) (c : Cuboid) :
    ((ofOrient orient offset).applyCuboid c).lll =
      let lll := ((ofOrient orient ⟨0, 0, 0⟩).applyCuboid c).lll
      ⟨lll.x + offset.x, lll.y + offset.y, lll.z + offset.z⟩ := by
  simp only [applyCuboid, ofOrient, Cuboid.init, Cuboid.lll, applyPoint3D, apply, add_zero,
    min_add_add_right]
  rfl

def inverseOrient : DbOrientType → DbOrientType
  | .R90 => .R270
  | .R270 => .R90
  | orient => orient

/-- The transform that undoes `t`. -/
def inverse (t : DbTransform) : DbTransform :=
  let turned : DbTransform := ⟨inverseOrient t.orient, ⟨0, 0, 0⟩, t.mirror_z⟩
  let moved := turned.applyPoint3D t.offset
  { turned with offset := ⟨-moved.x, -moved.y, -moved.z⟩ }

lemma applyPoint3D_inverse (p : Point3D) :
    t.applyPoint3D (t.inverse.applyPoint3D p) = p := by
  rcases t with ⟨orient, ⟨dx, dy, dz⟩, mirror_z⟩
  rcases p with ⟨x, y, z⟩
  cases orient <;> cases mirror_z <;>
    simp [inverse, inverseOrient, applyPoint3D, apply, orientPoint, rotate90,
      rotate180, rotate270]

lemma applyCuboid_inverse {c : Cuboid} (upright : c.Upright) :
    t.applyCuboid (t.inverse.applyCuboid c) = c := by
  rw [applyCuboid_between t.inverse, applyCuboid_corners, applyPoint3D_inverse,
    applyPoint3D_inverse, Cuboid.between_corners upright]

end DbTransform

lemma pathTransform_append (db : ChipDatabase) (above below : List Nat) (c : Cuboid) :
    (pathTransform db (above ++ below)).applyCuboid c =
      (pathTransform db above).applyCuboid ((pathTransform db below).applyCuboid c) := by
  induction below using List.reverseRecOn generalizing c with
  | nil =>
    rw [List.append_nil]
    change _ = (pathTransform db above).applyCuboid (identity.applyCuboid c)
    rw [applyCuboid_between identity, applyCuboid_corners,
      applyPoint3D_identity, applyPoint3D_identity]
    rfl
  | append_singleton below id ih =>
    rw [← List.append_assoc, pathTransform_concat, applyCuboid_concat, ih,
      pathTransform_concat, applyCuboid_concat]

lemma pathTransform_singleton (db : ChipDatabase) (id : Nat) (c : Cuboid) :
    (pathTransform db [id]).applyCuboid c = (instTransform db id).applyCuboid c := by
  change ((instTransform db id).concat identity).applyCuboid c = _
  rw [applyCuboid_concat,
    applyCuboid_identity (applyCuboid_upright _ _)]

end OpenRoad.Odb
