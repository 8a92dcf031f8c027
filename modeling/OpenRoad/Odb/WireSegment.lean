import Mathlib.Data.Int.Bitwise
import OpenRoad.Odb.Transform
import OpenRoad.Odb.WireReading

/-! `dbWire::getSegment`: the segment up to a point, rebuilt backwards from the op of the point. -/

namespace OpenRoad.Odb

open Option

inductive DbTechLayerDir where
  | none | horizontal | vertical
  deriving DecidableEq

structure SegmentTech where
  width : Nat → Int
  wrongWayWidth : Nat → Int
  direction : Nat → DbTechLayerDir
  blockRuleWidth : Nat → Int
  techRuleWidth : Nat → Int

/-- A shape of the type `SEGMENT`. -/
structure DbShape where
  rect : Rect
  layer : Nat
  deriving DecidableEq

structure Coords where
  x : Int
  y : Int
  deriving DecidableEq

/-- `setSegment`; a segment that is not orthogonal fails the assertion. -/
def setSegment (prev : Coords) (prevExt : Option Int) (cur : Coords) (curExt : Option Int)
    (dw defaultExt : Int) (layer : Nat) : Option DbShape :=
  if cur.x = prev.x then
    let rect : Rect :=
      if cur.y > prev.y then
        ⟨cur.x - dw, prev.y - prevExt.getD defaultExt, cur.x + dw, cur.y + curExt.getD defaultExt⟩
      else if cur.y < prev.y then
        ⟨cur.x - dw, cur.y - curExt.getD defaultExt, cur.x + dw, prev.y + prevExt.getD defaultExt⟩
      else ⟨cur.x - dw, cur.y - dw, cur.x + dw, cur.y + dw⟩
    some ⟨rect, layer⟩
  else if cur.y = prev.y then
    let rect : Rect :=
      if cur.x > prev.x then
        ⟨prev.x - prevExt.getD defaultExt, cur.y - dw, cur.x + curExt.getD defaultExt, cur.y + dw⟩
      else if cur.x < prev.x then
        ⟨cur.x - curExt.getD defaultExt, cur.y - dw, prev.x + prevExt.getD defaultExt, cur.y + dw⟩
      else ⟨cur.x - dw, cur.y - dw, cur.x + dw, cur.y + dw⟩
    some ⟨rect, layer⟩
  else none

inductive MachineInput where
  | XInput | YInput | CInput
  deriving DecidableEq

inductive Coord where
  | XCoord | YCoord | None
  deriving DecidableEq

def MachineInput.pick {α : Type} (row : α × α × α) : MachineInput → α
  | .XInput => row.1
  | .YInput => row.2.1
  | .CInput => row.2.2

def nextStates : List (Nat × Nat × Nat) :=
  [(1, 2, 3), (4, 5, 6), (7, 8, 9), (10, 11, 12), (4, 13, 4), (13, 5, 5), (4, 5, 6), (7, 13, 7),
    (13, 8, 8), (7, 8, 9), (10, 13, 10), (13, 11, 11), (10, 11, 12)]

def curCoords : List (Coord × Coord × Coord) :=
  [(.None, .None, .None), (.XCoord, .YCoord, .None), (.XCoord, .YCoord, .None),
    (.XCoord, .YCoord, .None), (.None, .YCoord, .None), (.XCoord, .None, .None),
    (.XCoord, .YCoord, .None), (.None, .YCoord, .None), (.XCoord, .None, .None),
    (.XCoord, .YCoord, .None), (.None, .YCoord, .None), (.XCoord, .None, .None),
    (.XCoord, .YCoord, .None)]

def prevCoords : List (Coord × Coord × Coord) :=
  [(.XCoord, .YCoord, .None), (.None, .YCoord, .None), (.XCoord, .None, .None),
    (.XCoord, .YCoord, .None), (.None, .YCoord, .None), (.None, .None, .None),
    (.None, .YCoord, .None), (.None, .None, .None), (.XCoord, .None, .None),
    (.XCoord, .None, .None), (.None, .YCoord, .None), (.XCoord, .None, .None),
    (.XCoord, .YCoord, .None)]

def nextState (state : Nat) (input : MachineInput) : Nat :=
  input.pick (nextStates[state]?.getD (13, 13, 13))

def curCoord (state : Nat) (input : MachineInput) : Coord :=
  input.pick (curCoords[state]?.getD (.None, .None, .None))

def prevCoord (state : Nat) (input : MachineInput) : Coord :=
  input.pick (prevCoords[state]?.getD (.None, .None, .None))

/-- The slot `None` is never read. -/
def Coords.set (coords : Coords) (value : Int) : Coord → Coords
  | .XCoord => { coords with x := value }
  | .YCoord => { coords with y := value }
  | .None => coords

/-- The local variables; `prev` is the point that the search starts from, `cur` the one in front. -/
structure SegmentScan where
  state : Nat
  cur : Coords
  prev : Coords
  curExt : Option Int
  prevExt : Option Int
  ignoreExt : Bool
  width : Int
  foundWidth : Bool
  defaultWidth : Bool
  layer : Option Nat
  deriving DecidableEq

namespace SegmentScan

def new : SegmentScan := ⟨0, ⟨0, 0⟩, ⟨0, 0⟩, none, none, false, 0, false, false, none⟩

/-- `state_machine_update`; `behind` is the op at `idx + 1`. -/
def update (input : MachineInput) (opcode : UInt8) (value : Int) (behind : Option Op)
    (s : SegmentScan) : Option SegmentScan := do
  let s ←
    if s.state = 0 then
      let s := if hasFlag opcode WOP_DEFAULT_WIDTH then
        { s with foundWidth := true, defaultWidth := true } else s
      if hasFlag opcode WOP_EXTENSION then
        behind.map fun next => { s with prevExt := some next.2 }
      else some s
    else if s.state ≤ 3 then
      if hasFlag opcode WOP_EXTENSION && !s.ignoreExt then
        behind.map fun next => { s with curExt := some next.2 }
      else some s
    else some s
  some { s with
    cur := s.cur.set value (curCoord s.state input)
    prev := s.prev.set value (prevCoord s.state input)
    state := nextState s.state input }

def ruleWidth (layers : SegmentTech) (opcode : UInt8) (value : Int) : Int :=
  if hasFlag opcode WOP_BLOCK_RULE then layers.blockRuleWidth value.toNat
  else layers.techRuleWidth value.toNat

def setLayer (layer : Nat) (s : SegmentScan) : SegmentScan :=
  if s.layer = none then { s with layer := some layer } else s

def read (tech : WireTech) (layers : SegmentTech) (op : Op) (behind : Option Op)
    (s : SegmentScan) : Option SegmentScan :=
  match opOf op.1 with
  | some .kJunction => some { s with ignoreExt := true }
  | some .kRule =>
    if s.foundWidth then some s
    else some { s with foundWidth := true, width := ruleWidth layers op.1 op.2 }
  | some .kX => s.update .XInput op.1 op.2 behind
  | some .kY => s.update .YInput op.1 op.2 behind
  | some .kColinear => s.update .CInput op.1 op.2 behind
  | some .kVia => some { s.setLayer (viaTo tech .kVia op.1 op.2) with ignoreExt := true }
  | some .kTechVia => some { s.setLayer (viaTo tech .kTechVia op.1 op.2) with ignoreExt := true }
  | _ => some s

/-- The switch of the first loop where the layer is known: other ops raise an error. -/
def readOnLayer (layers : SegmentTech) (op : Op) (behind : Option Op) (s : SegmentScan) :
    Option SegmentScan :=
  match opOf op.1 with
  | some .kJunction => some { s with ignoreExt := true }
  | some .kRule =>
    if s.foundWidth then some s
    else some { s with foundWidth := true, width := ruleWidth layers op.1 op.2 }
  | some .kX => s.update .XInput op.1 op.2 behind
  | some .kY => s.update .YInput op.1 op.2 behind
  | some .kColinear => s.update .CInput op.1 op.2 behind
  | some _ => none
  | none => some s

def readBack (tech : WireTech) (layers : SegmentTech) (op : Op) (s : SegmentScan) : SegmentScan :=
  match opOf op.1 with
  | some .kPath | some .kShort | some .kVwire => s.setLayer op.2.toNat
  | some .kRule => { s with foundWidth := true, width := ruleWidth layers op.1 op.2 }
  | some .kVia => s.setLayer (viaTo tech .kVia op.1 op.2)
  | some .kTechVia => s.setLayer (viaTo tech .kTechVia op.1 op.2)
  | _ => s

/-- The switch of the second loop where the layer is known. -/
def readBackOnLayer (layers : SegmentTech) (op : Op) (s : SegmentScan) : SegmentScan :=
  match opOf op.1 with
  | some .kRule => { s with foundWidth := true, width := ruleWidth layers op.1 op.2 }
  | _ => s

/-- The end of `getSegment`. -/
def shape (layers : SegmentTech) (layer : Nat) (s : SegmentScan) : Option DbShape :=
  let halfWidth := layers.width layer >>> 1
  let halfWrongWay := layers.wrongWayWidth layer >>> 1
  let defaultExt := if s.defaultWidth then halfWidth else s.width >>> 1
  let dw :=
    if s.defaultWidth then
      if s.prev.x ≠ s.cur.x ∧ layers.direction layer = .vertical then halfWrongWay
      else if s.prev.y ≠ s.cur.y ∧ layers.direction layer = .horizontal then halfWrongWay
      else halfWidth
    else s.width >>> 1
  setSegment s.prev s.prevExt s.cur s.curExt dw defaultExt layer

end SegmentScan

/-- The op at an index; a negative one fails the assertion. -/
def opAt (ops : List Op) (idx : Int) : Option Op := if idx < 0 then none else ops[idx.toNat]?

/-- The index of the op that is read after one at `idx`. -/
def nextIdx (idx : Int) (op : Op) : Int :=
  if opOf op.1 = some .kJunction then op.2 else idx - 1

/-- The first loop, for at most the given number of ops; what is left of them is returned. -/
def decodeLoop (read : Op → Option Op → SegmentScan → Option SegmentScan) (ops : List Op) :
    Nat → Int → SegmentScan → Option (Nat × Int × SegmentScan)
  | 0, _, _ => none
  | fuel + 1, idx, s => do
    let op ← opAt ops idx
    let s ← read op (opAt ops (idx + 1)) s
    if s.state < 13 then decodeLoop read ops fuel (nextIdx idx op) s
    else some (fuel, nextIdx idx op, s)

def backLoop (missing : SegmentScan → Bool) (read : Op → SegmentScan → SegmentScan) (ops : List Op) :
    Nat → Int → SegmentScan → Option SegmentScan
  | 0, _, s => if missing s then none else some s
  | fuel + 1, idx, s =>
    if missing s then do
      let op ← opAt ops idx
      backLoop missing read ops fuel (nextIdx idx op) (read op s)
    else some s

/-- `getSegment(shape_id, shape)` -/
def getSegment (tech : WireTech) (layers : SegmentTech) (ops : List Op) (shapeId : Nat) :
    Option DbShape := do
  let (fuel, idx, s) ← decodeLoop (SegmentScan.read tech layers) ops (shapeId + 1) shapeId .new
  let s ← backLoop (fun s => s.layer = none || !s.foundWidth) (SegmentScan.readBack tech layers) ops
    fuel idx s
  let layer ← s.layer
  s.shape layers layer

/-- `getSegment(shape_id, layer, shape)` -/
def getSegmentOnLayer (layers : SegmentTech) (ops : List Op) (shapeId layer : Nat) :
    Option DbShape := do
  let (fuel, idx, s) ← decodeLoop (SegmentScan.readOnLayer layers) ops (shapeId + 1) shapeId .new
  let s ← backLoop (fun s => !s.foundWidth) (SegmentScan.readBackOnLayer layers) ops fuel idx s
  s.shape layers layer

abbrev Visit := Op × Option Op

/-- The ops that both loops read from index `idx` on, backwards and over junctions. -/
def walk (ops : List Op) : Nat → Int → List Visit
  | 0, _ => []
  | fuel + 1, idx =>
    match opAt ops idx with
    | none => []
    | some op => (op, opAt ops (idx + 1)) :: walk ops fuel (nextIdx idx op)

/-- The first loop on the ops that it reads, and those that are left for the second one. -/
def scanOps (read : Op → Option Op → SegmentScan → Option SegmentScan) :
    List Visit → SegmentScan → Option (SegmentScan × List Visit)
  | [], _ => none
  | (op, behind) :: rest, s => do
    let s ← read op behind s
    if s.state < 13 then scanOps read rest s else some (s, rest)

def scanBack (missing : SegmentScan → Bool) (read : Op → SegmentScan → SegmentScan) :
    List Visit → SegmentScan → Option SegmentScan
  | [], s => if missing s then none else some s
  | (op, _) :: rest, s => if missing s then scanBack missing read rest (read op s) else some s

lemma decodeLoop_walk (read : Op → Option Op → SegmentScan → Option SegmentScan) (ops : List Op)
    (fuel : Nat) (idx : Int) (s : SegmentScan) :
    (decodeLoop read ops fuel idx s).map (fun (fuel, idx, s) => (s, walk ops fuel idx)) =
      scanOps read (walk ops fuel idx) s := by
  induction fuel generalizing idx s with
  | zero => rfl
  | succ fuel ih =>
    rw [decodeLoop, walk]
    cases present : opAt ops idx with
    | none => rfl
    | some op =>
      rw [scanOps]
      simp only [bind_eq_bind, bind_some]
      cases read op (opAt ops (idx + 1)) s with
      | none => rfl
      | some s' =>
        simp only [bind_some]
        split
        · exact ih _ _
        · rfl

lemma backLoop_walk (missing : SegmentScan → Bool) (read : Op → SegmentScan → SegmentScan)
    (ops : List Op) (fuel : Nat) (idx : Int) (s : SegmentScan) :
    backLoop missing read ops fuel idx s = scanBack missing read (walk ops fuel idx) s := by
  induction fuel generalizing idx s with
  | zero => rfl
  | succ fuel ih =>
    rw [backLoop, walk]
    cases present : opAt ops idx with
    | none => rfl
    | some op =>
      rw [scanBack]
      simp only [bind_eq_bind, bind_some, ih]

/-- The general segment, on the ops that are read. -/
def segmentOf (tech : WireTech) (layers : SegmentTech) (visits : List Visit) : Option DbShape := do
  let (s, rest) ← scanOps (SegmentScan.read tech layers) visits .new
  let s ← scanBack (fun s => s.layer = none || !s.foundWidth) (SegmentScan.readBack tech layers)
    rest s
  let layer ← s.layer
  s.shape layers layer

def segmentOnLayerOf (layers : SegmentTech) (visits : List Visit) (layer : Nat) : Option DbShape := do
  let (s, rest) ← scanOps (SegmentScan.readOnLayer layers) visits .new
  let s ← scanBack (fun s => !s.foundWidth) (SegmentScan.readBackOnLayer layers) rest s
  s.shape layers layer

lemma getSegment_walk (tech : WireTech) (layers : SegmentTech) (ops : List Op) (shapeId : Nat) :
    getSegment tech layers ops shapeId = segmentOf tech layers (walk ops (shapeId + 1) shapeId) := by
  rw [getSegment, segmentOf, ← decodeLoop_walk]
  cases decodeLoop (SegmentScan.read tech layers) ops (shapeId + 1) shapeId .new with
  | none => rfl
  | some result =>
    simp only [bind_eq_bind, bind_some, map_some, backLoop_walk]

lemma getSegmentOnLayer_walk (layers : SegmentTech) (ops : List Op) (shapeId layer : Nat) :
    getSegmentOnLayer layers ops shapeId layer =
      segmentOnLayerOf layers (walk ops (shapeId + 1) shapeId) layer := by
  rw [getSegmentOnLayer, segmentOnLayerOf, ← decodeLoop_walk]
  cases decodeLoop (SegmentScan.readOnLayer layers) ops (shapeId + 1) shapeId .new with
  | none => rfl
  | some result =>
    simp only [bind_eq_bind, bind_some, map_some, backLoop_walk]

end OpenRoad.Odb
