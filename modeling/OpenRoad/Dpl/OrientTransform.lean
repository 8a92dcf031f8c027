import OpenRoad.Dpl.Objects
import OpenRoad.Odb.Transform

/-! Where a change of the orientation puts the pins, beside what the database's transform does. -/

namespace OpenRoad.Dpl

open OpenRoad.Odb (DbOrientType DbTransform)

open Node Odb.Point

def OrientType.toDb : OrientType → DbOrientType
  | R0 => .R0
  | R90 => .R90
  | R180 => .R180
  | R270 => .R270
  | MY => .MY
  | MYR90 => .MYR90
  | MX => .MX
  | MXR90 => .MXR90

def Pin.transform (o : OrientType) (pin : Pin) : Pin :=
  ⟨pin.edge, (DbTransform.orientPoint o.toDb ⟨pin.offsetX, pin.offsetY⟩).x,
    (DbTransform.orientPoint o.toDb ⟨pin.offsetX, pin.offsetY⟩).y⟩

/-- A cell as the transform of the last orientation leaves it, whatever came before. -/
structure Transformed (node turned : Node) (last : OrientType) : Prop where
  pins : turned.pins = node.pins.map (Pin.transform last)
  width : turned.width = if last.rotated then node.height else node.width
  height : turned.height = if last.rotated then node.width else node.height
  lastOnly : turned = node.adjustCurrOrient last

lemma Pin.eq_iff (a b : Pin) :
    a = b ↔ a.edge = b.edge ∧ a.offsetX = b.offsetX ∧ a.offsetY = b.offsetY := by
  rw [← Pin.mk.injEq]

lemma reorient_upright {o : OrientType} (upright : o.rotated = false) (pin : Pin) :
    pin.reorient .R0 o = pin.transform o := by
  cases o with
  | R0 | R180 | MY | MX =>
    simp [Pin.reorient, reorient, OrientType.axes, Pin.transform, OrientType.toDb,
      DbTransform.orientPoint, rotate180]
  | R90 | R270 | MYR90 | MXR90 => exact absurd upright (by decide)

lemma reorient_rotated {o : OrientType} (rotated : o.rotated = true) (pin : Pin) :
    pin.reorient .R0 o = ⟨pin.edge, -(pin.transform o).offsetX, -(pin.transform o).offsetY⟩ := by
  cases o with
  | R0 | R180 | MY | MX => exact absurd rotated (by decide)
  | R90 | R270 | MYR90 | MXR90 =>
    simp [Pin.reorient, reorient, OrientType.axes, Pin.transform, OrientType.toDb,
      DbTransform.orientPoint, rotate90, rotate270]

lemma transform_eq_neg_iff {o : OrientType} (rotated : o.rotated = true) (pin : Pin) :
    pin.reorient .R0 o = pin.transform o ↔ pin.offsetX = 0 ∧ pin.offsetY = 0 := by
  have opposite : pin.reorient .R0 o = pin.transform o ↔
      (pin.transform o).offsetX = 0 ∧ (pin.transform o).offsetY = 0 := by
    rw [reorient_rotated rotated, Pin.eq_iff]
    constructor
    · rintro ⟨_, x, y⟩
      exact ⟨neg_eq_self.mp x, neg_eq_self.mp y⟩
    · rintro ⟨x, y⟩
      exact ⟨rfl, neg_eq_self.mpr x, neg_eq_self.mpr y⟩
  rw [opposite]
  cases o with
  | R0 | R180 | MY | MX => exact absurd rotated (by decide)
  | R90 | R270 | MYR90 | MXR90 =>
    simp [Pin.transform, OrientType.toDb, DbTransform.orientPoint, rotate90,
      rotate270, and_comm]

lemma map_reorient_iff (o : OrientType) (pins : List Pin) :
    pins.map (Pin.reorient .R0 o) = pins.map (Pin.transform o) ↔
      o.rotated = false ∨ ∀ pin ∈ pins, pin.offsetX = 0 ∧ pin.offsetY = 0 := by
  rw [List.map_inj_left]
  cases isRotated : o.rotated with
  | false => exact iff_of_true (fun pin _ => reorient_upright isRotated pin) (.inl rfl)
  | true =>
    simp only [transform_eq_neg_iff isRotated, Bool.true_eq_false, false_or]

lemma foldl_adjustCurrOrient (node : Node) (orients : List OrientType) :
    orients.foldl adjustCurrOrient node =
      node.adjustCurrOrient (orients.getLastD node.orient) := by
  induction orients generalizing node with
  | nil => exact (adjustCurrOrient_self node).symm
  | cons first orients ih =>
    rw [List.foldl_cons, ih, List.getLastD_cons]
    cases orients with
    | nil =>
      rw [List.getLastD_nil, List.getLastD_nil, adjustCurrOrient_self]
    | cons second orients =>
      rw [List.getLastD_cons, List.getLastD_cons, adjustCurrOrient_adjustCurrOrient]

/-- The cell is as the transform has it exactly if it is upright again or has its pins in the
centre. -/
theorem orientations_match_transform_iff (node : Node) (created : node.orient = .R0)
    (orients : List OrientType) :
    Transformed node (orients.foldl adjustCurrOrient node) (orients.getLastD .R0) ↔
      (orients.getLastD .R0).rotated = false ∨
        ∀ pin ∈ node.pins, pin.offsetX = 0 ∧ pin.offsetY = 0 := by
  rw [foldl_adjustCurrOrient, created, ← map_reorient_iff]
  constructor
  · intro transformed
    have pins := transformed.pins
    rwa [adjustCurrOrient_eq, created] at pins
  · intro pins
    have notRotated : OrientType.R0.rotated = false := rfl
    refine ⟨?_, ?_, ?_, rfl⟩
    · rw [adjustCurrOrient_eq, created]
      exact pins
    · rw [adjustCurrOrient_eq, created, notRotated]
      cases (orients.getLastD .R0).rotated <;> rfl
    · rw [adjustCurrOrient_eq, created, notRotated]
      cases (orients.getLastD .R0).rotated <;> rfl

def cellWithPin : Node where
  left := 0
  bottom := 0
  width := 4
  height := 2
  pins := [⟨0, 2, 0⟩]

/-- After a turn and a flip the cell stands upright, mirrored. -/
theorem orientations_match_transform_mirrored :
    Transformed cellWithPin ([.R90, .MY].foldl adjustCurrOrient cellWithPin) .MY :=
  (orientations_match_transform_iff cellWithPin rfl [.R90, .MY]).mpr (.inl rfl)

/-- R90 takes the pin below the centre; the transform takes it above. -/
theorem orientations_match_transform_turned :
    ¬ Transformed cellWithPin ([.R90].foldl adjustCurrOrient cellWithPin) .R90 := by
  intro transformed
  have pins := transformed.pins
  exact absurd pins (by decide)

end OpenRoad.Dpl
