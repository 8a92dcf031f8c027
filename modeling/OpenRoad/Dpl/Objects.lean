import Mathlib.Data.List.Basic
import Mathlib.Tactic.Ring

/-! Cells, their pins and the nets between them. -/

namespace OpenRoad.Dpl

structure Rect where
  xMin : Int
  yMin : Int
  xMax : Int
  yMax : Int
deriving DecidableEq

def Rect.mergeInit : Rect := ⟨2147483647, 2147483647, -2147483648, -2147483648⟩

def Rect.merge (rect : Rect) (x y : Int) : Rect :=
  ⟨min rect.xMin x, min rect.yMin y, max rect.xMax x, max rect.yMax y⟩

inductive OrientType
  | R0
  | R90
  | R180
  | R270
  | MY
  | MYR90
  | MX
  | MXR90
deriving DecidableEq

def OrientType.rotated : OrientType → Bool
  | R90 | MXR90 | R270 | MYR90 => true
  | _ => false

structure Pin where
  edge : Nat
  offsetX : Int
  offsetY : Int
deriving DecidableEq

structure Node where
  left : Int
  bottom : Int
  width : Int
  height : Int
  isTerminal : Bool := false
  padLeft : Int := 0
  padRight : Int := 0
  orient : OrientType := .R0
  orig_left : Int := 0
  orig_bottom : Int := 0
  fixed : Bool := false
  placed : Bool := true
  hold : Bool := false
  site : Nat := 0
  pins : List Pin := []
deriving DecidableEq

def Node.getRight (node : Node) : Int := node.left + node.width

def Node.getTop (node : Node) : Int := node.bottom + node.height

def Node.getCenterX (node : Node) : Int := node.left + node.width.tdiv 2

def Node.getCenterY (node : Node) : Int := node.bottom + node.height.tdiv 2

def Node.turn (node : Node) (offset : Int × Int → Int × Int) : Node :=
  { node with
    pins := node.pins.map fun pin =>
      ⟨pin.edge, (offset (pin.offsetX, pin.offsetY)).1, (offset (pin.offsetX, pin.offsetY)).2⟩
    width := node.height
    height := node.width }

def Node.mirror (node : Node) (mX mY : Int) : Node :=
  { node with pins := node.pins.map fun pin => ⟨pin.edge, pin.offsetX * mX, pin.offsetY * mY⟩ }

/-- The cell in another orientation with its lower left corner left alone. -/
def Node.adjustCurrOrient (node : Node) (newOri : OrientType) : Node :=
  if newOri = node.orient then node
  else
    let (turned, curOri) :=
      if node.orient.rotated then
        if ¬ newOri.rotated then
          (node.turn fun (dx, dy) => (-dy, dx),
            match node.orient with
            | .R90 => .R0
            | .MXR90 => .MX
            | .MYR90 => .MY
            | _ => .R180)
        else (node, node.orient)
      else if newOri.rotated then
        (node.turn fun (dx, dy) => (dy, -dx),
          match node.orient with
          | .R0 => .R90
          | .MX => .MXR90
          | .MY => .MYR90
          | _ => .R270)
      else (node, node.orient)
    let (mX, mY) : Int × Int :=
      if curOri.rotated then
        (if (curOri ∈ [OrientType.R90, .MYR90]) = (newOri ∈ [OrientType.R90, .MYR90]) then 1 else -1,
          if (curOri ∈ [OrientType.R90, .MXR90]) = (newOri ∈ [OrientType.R90, .MXR90]) then 1 else -1)
      else
        (if (curOri ∈ [OrientType.R0, .MX]) = (newOri ∈ [OrientType.R0, .MX]) then 1 else -1,
          if (curOri ∈ [OrientType.R0, .MY]) = (newOri ∈ [OrientType.R0, .MY]) then 1 else -1)
    { turned.mirror mX mY with orient := newOri }

/-- Where the unit vectors of a cell that is not turned go. -/
def OrientType.axes : OrientType → (Int × Int) × (Int × Int)
  | R0 => ((1, 0), (0, 1))
  | MX => ((1, 0), (0, -1))
  | MY => ((-1, 0), (0, 1))
  | R180 => ((-1, 0), (0, -1))
  | R90 => ((0, -1), (1, 0))
  | MXR90 => ((0, -1), (-1, 0))
  | MYR90 => ((0, 1), (1, 0))
  | R270 => ((0, 1), (-1, 0))

/-- An offset for one orientation as the offset for another one. -/
def reorient (curOri newOri : OrientType) (offset : Int × Int) : Int × Int :=
  let (u, v) := curOri.axes
  let (u', v') := newOri.axes
  let a := u.1 * offset.1 + u.2 * offset.2
  let b := v.1 * offset.1 + v.2 * offset.2
  (u'.1 * a + v'.1 * b, u'.2 * a + v'.2 * b)

lemma reorient_self (o : OrientType) (offset : Int × Int) : reorient o o offset = offset := by
  cases o <;> simp [reorient, OrientType.axes]

lemma reorient_reorient (a b c : OrientType) (offset : Int × Int) :
    reorient b c (reorient a b offset) = reorient a c offset := by
  cases b <;> simp [reorient, OrientType.axes]

def Pin.reorient (curOri newOri : OrientType) (pin : Pin) : Pin :=
  ⟨pin.edge, (Dpl.reorient curOri newOri (pin.offsetX, pin.offsetY)).1,
    (Dpl.reorient curOri newOri (pin.offsetX, pin.offsetY)).2⟩

lemma map_reorient_self (o : OrientType) (pins : List Pin) :
    pins.map (Pin.reorient o o) = pins := by
  have same : ∀ pin : Pin, Pin.reorient o o pin = pin := fun pin => by
    rw [Pin.reorient, reorient_self]
  exact List.map_id'' same pins

lemma map_reorient_reorient (a b c : OrientType) (pins : List Pin) :
    (pins.map (Pin.reorient a b)).map (Pin.reorient b c) = pins.map (Pin.reorient a c) := by
  simp [Pin.reorient, Function.comp_def, reorient_reorient]

lemma Node.adjustCurrOrient_eq (node : Node) (newOri : OrientType) :
    node.adjustCurrOrient newOri = { node with
        pins := node.pins.map (Pin.reorient node.orient newOri)
        width := if node.orient.rotated = newOri.rotated then node.width else node.height
        height := if node.orient.rotated = newOri.rotated then node.height else node.width
        orient := newOri } := by
  by_cases same : newOri = node.orient
  · simp [adjustCurrOrient, same, map_reorient_self]
  · rcases node with ⟨left, bottom, width, height, isTerminal, padLeft, padRight, orient, origLeft,
      origBottom, fixed, placed, hold, site, pins⟩
    cases orient <;> cases newOri <;>
      simp [adjustCurrOrient, turn, mirror, OrientType.rotated, Pin.reorient, Dpl.reorient,
        OrientType.axes, Function.comp_def] at same ⊢

lemma Node.adjustCurrOrient_adjustCurrOrient (node : Node) (a b : OrientType) :
    (node.adjustCurrOrient a).adjustCurrOrient b = node.adjustCurrOrient b := by
  rw [adjustCurrOrient_eq node a, adjustCurrOrient_eq node b, adjustCurrOrient_eq]
  simp only [map_reorient_reorient]
  congr 1
  · cases node.orient.rotated <;> cases a.rotated <;> cases b.rotated <;> rfl
  · cases node.orient.rotated <;> cases a.rotated <;> cases b.rotated <;> rfl

lemma Node.adjustCurrOrient_self (node : Node) : node.adjustCurrOrient node.orient = node :=
  if_pos rfl

end OpenRoad.Dpl
