import OpenRoad.Odb.CuboidCover

/-! Transforms act on points and boxes as a group. -/

namespace OpenRoad.Odb

def Rect.isInverted (r : Rect) : Bool := r.xlo > r.xhi || r.ylo > r.yhi

def Cuboid.isInverted (c : Cuboid) : Bool := c.xlo > c.xhi || c.ylo > c.yhi || c.zlo > c.zhi

def Rect.normalized (r : Rect) : Rect := Rect.init r.xlo r.ylo r.xhi r.yhi

def Cuboid.normalized (c : Cuboid) : Cuboid := Cuboid.init c.xlo c.ylo c.zlo c.xhi c.yhi c.zhi

lemma Rect.normalized_eq_iff (r : Rect) : r.normalized = r ↔ r.isInverted = false := by
  rcases r with ⟨xlo, ylo, xhi, yhi⟩
  simp only [normalized, init, isInverted, mk.injEq, Bool.or_eq_false_iff, decide_eq_false_iff_not]
  omega

lemma Cuboid.normalized_eq_iff (c : Cuboid) : c.normalized = c ↔ c.isInverted = false := by
  rcases c with ⟨xlo, ylo, zlo, xhi, yhi, zhi⟩
  simp only [normalized, init, isInverted, mk.injEq, Bool.or_eq_false_iff, decide_eq_false_iff_not]
  omega

def Rect.atZero (r : Rect) : Cuboid := ⟨r.xlo, r.ylo, 0, r.xhi, r.yhi, 0⟩

def Cuboid.shadow (c : Cuboid) : Rect := ⟨c.xlo, c.ylo, c.xhi, c.yhi⟩

namespace DbTransform

open DbOrientType (R0 R90 R180 R270 MY MYR90 MX MXR90)

def invert (t : DbTransform) : DbTransform :=
  let offset : Point := ⟨-t.offset.x, -t.offset.y⟩
  let (orient, offset) := match t.orient with
    | R0 => (R0, offset)
    | R90 => (R270, offset.rotate270)
    | R180 => (R180, offset.rotate180)
    | R270 => (R90, offset.rotate90)
    | MY => (MY, { offset with x := -offset.x })
    | MYR90 => (MYR90, ({ offset with x := -offset.x } : Point).rotate90)
    | MX => (MX, { offset with y := -offset.y })
    | MXR90 => (MXR90, ({ offset with y := -offset.y } : Point).rotate90)
  ⟨orient, ⟨offset.x, offset.y, if t.mirror_z then t.offset.z else -t.offset.z⟩, t.mirror_z⟩

lemma orientMul_assoc (first second third : DbOrientType) :
    orientMul (orientMul first second) third = orientMul first (orientMul second third) := by
  cases first <;> cases second <;> cases third <;> rfl

lemma concat_assoc (s t u : DbTransform) : (s.concat t).concat u = s.concat (t.concat u) := by
  have offset := applyPoint3D_concat t u s.offset
  simp only [concat, orientMul_assoc, Bool.xor_assoc, mk.injEq, true_and, and_true]
  exact offset.symm

lemma concat_invert (t : DbTransform) : t.concat t.invert = identity := by
  rcases t with ⟨orient, ⟨dx, dy, dz⟩, mirror_z⟩
  cases orient <;> cases mirror_z <;>
    simp [concat, invert, identity, applyPoint3D, apply, orientPoint, orientMul, orientRow,
      DbOrientType.ctorIdx, Point.rotate90, Point.rotate180, Point.rotate270]

lemma invert_concat (t : DbTransform) : t.invert.concat t = identity := by
  rcases t with ⟨orient, ⟨dx, dy, dz⟩, mirror_z⟩
  cases orient <;> cases mirror_z <;>
    simp [concat, invert, identity, applyPoint3D, apply, orientPoint, orientMul, orientRow,
      DbOrientType.ctorIdx, Point.rotate90, Point.rotate180, Point.rotate270]

lemma apply_identity (p : Point) : identity.apply p = p := by
  simp only [identity, apply, orientPoint, add_zero]

lemma applyCuboid_normalizes (c : Cuboid) : identity.applyCuboid c = c.normalized := by
  rw [applyCuboid_between, applyPoint3D_identity, applyPoint3D_identity]
  rfl

lemma shadow_applyCuboid (t : DbTransform) (c : Cuboid) :
    (t.applyCuboid c).shadow = t.applyRect c.shadow := rfl

lemma applyRect_concat (s t : DbTransform) (r : Rect) :
    (s.concat t).applyRect r = t.applyRect (s.applyRect r) :=
  calc (s.concat t).applyRect r
      = ((s.concat t).applyCuboid r.atZero).shadow := (shadow_applyCuboid _ r.atZero).symm
    _ = (t.applyCuboid (s.applyCuboid r.atZero)).shadow := by rw [applyCuboid_concat]
    _ = t.applyRect (s.applyRect r) := by rw [shadow_applyCuboid, shadow_applyCuboid]; rfl

lemma applyRect_normalizes (r : Rect) : identity.applyRect r = r.normalized := by
  have flat := congrArg Cuboid.shadow (applyCuboid_normalizes r.atZero)
  rwa [shadow_applyCuboid] at flat

theorem transforms_act (s t u : DbTransform) : ((∀ p, (s.concat t).apply p = t.apply (s.apply p)) ∧
      (∀ p, (s.concat t).applyPoint3D p = t.applyPoint3D (s.applyPoint3D p)) ∧
      (∀ r, (s.concat t).applyRect r = t.applyRect (s.applyRect r)) ∧
      ∀ c, (s.concat t).applyCuboid c = t.applyCuboid (s.applyCuboid c)) ∧
    ((∀ p, t.invert.apply (t.apply p) = p ∧ t.apply (t.invert.apply p) = p) ∧
      (∀ p, t.invert.applyPoint3D (t.applyPoint3D p) = p ∧
        t.applyPoint3D (t.invert.applyPoint3D p) = p) ∧
      (∀ r, t.invert.applyRect (t.applyRect r) = r.normalized ∧
        t.applyRect (t.invert.applyRect r) = r.normalized ∧
        (r.normalized = r ↔ r.isInverted = false)) ∧
      ∀ c, t.invert.applyCuboid (t.applyCuboid c) = c.normalized ∧
        t.applyCuboid (t.invert.applyCuboid c) = c.normalized ∧
        (c.normalized = c ↔ c.isInverted = false)) ∧
    (s.concat t).concat u = s.concat (t.concat u) := by
  refine ⟨⟨apply_concat s t, applyPoint3D_concat s t, applyRect_concat s t,
    applyCuboid_concat s t⟩, ⟨?_, ?_, ?_, ?_⟩, concat_assoc s t u⟩
  · intro p
    rw [← apply_concat, ← apply_concat, concat_invert, invert_concat, apply_identity]
    exact ⟨rfl, rfl⟩
  · intro p
    rw [← applyPoint3D_concat, ← applyPoint3D_concat, concat_invert, invert_concat,
      applyPoint3D_identity]
    exact ⟨rfl, rfl⟩
  · intro r
    rw [← applyRect_concat, ← applyRect_concat, concat_invert, invert_concat, applyRect_normalizes]
    exact ⟨rfl, rfl, r.normalized_eq_iff⟩
  · intro c
    rw [← applyCuboid_concat, ← applyCuboid_concat, concat_invert, invert_concat,
      applyCuboid_normalizes]
    exact ⟨rfl, rfl, c.normalized_eq_iff⟩

theorem inverted_not_restored :
    ¬ ∀ (t : DbTransform) (r : Rect), t.invert.applyRect (t.applyRect r) = r := by
  intro restored
  have same := restored identity ⟨1, 1, -1, -1⟩
  revert same
  decide

/-- What `operator<<` puts on the stream: every item is an `int`. -/
def write (t : DbTransform) : List Int := [t.orient.ctorIdx, t.offset.x, t.offset.y, t.offset.z]

def orientOf (value : Int) : Option DbOrientType :=
  (orientRow R0).find? fun orient => (orient.ctorIdx : Int) = value

/-- `operator>>` assigns to the members of an existing transform. -/
def read (into : DbTransform) : List Int → Option (DbTransform × List Int)
  | orient :: x :: y :: z :: rest =>
      (orientOf orient).map fun orient => ({ into with orient := orient, offset := ⟨x, y, z⟩ }, rest)
  | _ => none

lemma orientOf_ctorIdx (orient : DbOrientType) : orientOf orient.ctorIdx = some orient := by
  cases orient <;> rfl

lemma read_write (t into : DbTransform) (rest : List Int) :
    read into (t.write ++ rest) = some ({ t with mirror_z := into.mirror_z }, rest) := by
  simp [write, read, orientOf_ctorIdx]

lemma mirror_z_of_same (s t : DbTransform) (offsets : s.offset.z = t.offset.z)
    (same : ∀ c, s.applyCuboid c = t.applyCuboid c) : s.mirror_z = t.mirror_z := by
  have heights := congrArg Cuboid.zlo (same ⟨0, 0, 1, 0, 0, 1⟩)
  simp only [applyCuboid, Cuboid.init, applyPoint3D, Cuboid.lll, Cuboid.uur, offsets,
    min_self] at heights
  cases firstMirror : s.mirror_z <;> cases secondMirror : t.mirror_z <;>
    simp only [firstMirror, secondMirror] at heights ⊢ <;> simp at heights

theorem streamed_back_iff (t into : DbTransform) (rest : List Int) :
    ∃ restored, read into (t.write ++ rest) = some (restored, rest) ∧
      (restored = t ↔ t.mirror_z = into.mirror_z) ∧
      ((∀ c, restored.applyCuboid c = t.applyCuboid c) ↔ t.mirror_z = into.mirror_z) := by
  have whole : { t with mirror_z := into.mirror_z } = t ↔ t.mirror_z = into.mirror_z := by
    constructor
    · intro same
      exact (congrArg mirror_z same).symm
    · intro same
      rw [← same]
  refine ⟨{ t with mirror_z := into.mirror_z }, read_write t into rest, whole, ?_⟩
  constructor
  · intro same
    exact (mirror_z_of_same { t with mirror_z := into.mirror_z } t rfl same).symm
  · intro same c
    rw [whole.mpr same]

theorem mirror_not_streamed :
    ¬ ∀ (t : DbTransform) (rest : List Int), read identity (t.write ++ rest) = some (t, rest) := by
  intro lossless
  have same := lossless ⟨R0, ⟨0, 0, 0⟩, true⟩ []
  revert same
  decide

end DbTransform

end OpenRoad.Odb
