import Mathlib.Tactic

/-! The wire codec: `dbWireEncoder` writes the elements of a wire as opcodes with one operand
each, `dbWireDecoder` reads them back. -/

namespace OpenRoad.Odb

inductive WireOp where
  | kPath | kShort | kJunction | kRule | kX | kY | kColinear | kVia | kTechVia | kIterm | kBterm
  | kOperand | kProperty | kVwire | kRect | kNop | kColor | kViaColor
  deriving DecidableEq

def WireOp.code : WireOp → UInt8
  | .kPath => 0
  | .kShort => 1
  | .kJunction => 2
  | .kRule => 3
  | .kX => 4
  | .kY => 5
  | .kColinear => 6
  | .kVia => 7
  | .kTechVia => 8
  | .kIterm => 9
  | .kBterm => 10
  | .kOperand => 11
  | .kProperty => 12
  | .kVwire => 13
  | .kRect => 14
  | .kNop => 15
  | .kColor => 16
  | .kViaColor => 17

def WireOp.ofCode (code : UInt8) : Option WireOp :=
  [kPath, kShort, kJunction, kRule, kX, kY, kColinear, kVia, kTechVia, kIterm, kBterm, kOperand,
    kProperty, kVwire, kRect, kNop, kColor, kViaColor].find? fun op => op.code = code

def WOP_OPCODE_MASK : UInt8 := 0x1F
def WOP_VIA_EXIT_TOP : UInt8 := 0x80
def WOP_DEFAULT_WIDTH : UInt8 := 0x40
def WOP_EXTENSION : UInt8 := 0x80
def WOP_BLOCK_RULE : UInt8 := 0x80
def WOP_WIRE_TYPE_MASK : UInt8 := 0xE0

def opOf (byte : UInt8) : Option WireOp := WireOp.ofCode (byte &&& WOP_OPCODE_MASK)

def hasFlag (byte flag : UInt8) : Bool := byte &&& flag ≠ 0

inductive DbWireType where
  | none | cover | fixed | routed | shield | noShield
  deriving DecidableEq

/-- `getWireType`: a shield is not a wire segment. -/
def DbWireType.bits : DbWireType → Option UInt8
  | .none => some 0x00
  | .cover => some 0x20
  | .fixed => some 0x40
  | .routed => some 0x60
  | .noShield => some 0x80
  | .shield => Option.none

/-- The decoder's switch over the wire type bits of an op-byte; other bits keep `old`. -/
def DbWireType.ofByte (byte : UInt8) (old : DbWireType) : DbWireType :=
  let bits := byte &&& WOP_WIRE_TYPE_MASK
  if bits = 0x00 then .none
  else if bits = 0x20 then .cover
  else if bits = 0x40 then .fixed
  else if bits = 0x60 then .routed
  else if bits = 0x80 then .noShield
  else old

structure WireTech where
  viaTop : Nat → Nat
  viaBottom : Nat → Nat
  techViaTop : Nat → Nat
  techViaBottom : Nat → Nat

structure LayerRule where
  id : Nat
  isBlockRule : Bool
  deriving DecidableEq

/-- An op-byte with its operand: `opcodes_[i]` and `data_[i]`. -/
abbrev Op := UInt8 × Int

structure WirePoint where
  x : Int
  y : Int
  layer : Option Nat
  deriving DecidableEq

/-- `getPrevPoint`, for at most the given number of jumps to `prevOpCode`. -/
def getPrevPoint (tech : WireTech) (ops : List Op) :
    Nat → Nat → Bool → Bool → Bool → WirePoint → Option WirePoint
  | 0, _, _, _, _, _ => none
  | fuel + 1, idx, lookForX, lookForY, getLayer, pnt => do
    let (opcode, value) ← ops[idx]?
    let back := fun lookForX lookForY getLayer pnt =>
      if idx = 0 then none
      else getPrevPoint tech ops fuel (idx - 1) lookForX lookForY getLayer pnt
    let exitLayer := fun layer =>
      if getLayer then
        let pnt : WirePoint := { pnt with layer := some layer }
        if !lookForX && !lookForY then some pnt else back lookForX lookForY false pnt
      else back lookForX lookForY getLayer pnt
    match opOf opcode with
    | some .kPath | some .kShort => exitLayer value.toNat
    | some .kJunction => getPrevPoint tech ops fuel value.toNat lookForX lookForY getLayer pnt
    | some .kX =>
      if lookForX then
        let pnt : WirePoint := { pnt with x := value }
        if !lookForY && !getLayer then some pnt else back false lookForY getLayer pnt
      else back lookForX lookForY getLayer pnt
    | some .kY =>
      if lookForY then
        let pnt : WirePoint := { pnt with y := value }
        if !lookForX && !getLayer then some pnt else back lookForX false getLayer pnt
      else back lookForX lookForY getLayer pnt
    | some .kVia => exitLayer (if hasFlag opcode WOP_VIA_EXIT_TOP then tech.viaTop value.toNat
      else tech.viaBottom value.toNat)
    | some .kTechVia =>
      exitLayer (if hasFlag opcode WOP_VIA_EXIT_TOP then tech.techViaTop value.toNat
        else tech.techViaBottom value.toNat)
    | _ => back lookForX lookForY getLayer pnt

/-- The call with `get_layer` on the point that a path starts from. -/
def junctionPoint (tech : WireTech) (ops : List Op) (jctId : Nat) : Option WirePoint :=
  getPrevPoint tech ops (jctId + 1) jctId true true true ⟨0, 0, none⟩

structure WireEncoder where
  ops : List Op
  layer : Option Nat
  x : Int
  y : Int
  nonDefaultRule : Nat
  ruleOpcode : UInt8
  pointCnt : Nat
  viaCnt : Nat
  prevExtendedColinearPnt : Bool
  wireType : UInt8

namespace WireEncoder

/-- `begin` on a new encoder. -/
def new : WireEncoder := ⟨[], none, 0, 0, 0, 0, 0, 0, false, 0⟩

def idx (e : WireEncoder) : Nat := e.ops.length

def addOp (byte : UInt8) (value : Int) (e : WireEncoder) : WireEncoder :=
  { e with ops := e.ops ++ [(byte, value)] }

def addRuleOp (e : WireEncoder) : WireEncoder := e.addOp e.ruleOpcode e.nonDefaultRule

/-- `initPath`, with or without a rule. -/
def initPath (layer : Option Nat) (wireType : UInt8) (rule : Option LayerRule)
    (e : WireEncoder) : WireEncoder :=
  match rule with
  | none => { e with
    wireType := wireType, pointCnt := 0, viaCnt := 0, layer := layer, nonDefaultRule := 0
    ruleOpcode := 0, prevExtendedColinearPnt := false }
  | some rule => { e with
    wireType := wireType, pointCnt := 0, viaCnt := 0, layer := layer
    nonDefaultRule := rule.id
    ruleOpcode := if rule.isBlockRule then WireOp.kRule.code ||| WOP_BLOCK_RULE
      else WireOp.kRule.code
    prevExtendedColinearPnt := false, x := 0, y := 0 }

def widthFlag (e : WireEncoder) : UInt8 := if e.nonDefaultRule = 0 then WOP_DEFAULT_WIDTH else 0

/-- What follows the op of a point: the rule again every 16 points, then the property. -/
def endPoint (property : Nat) (e : WireEncoder) : WireEncoder :=
  let hidden := if e.nonDefaultRule ≠ 0 ∧ e.pointCnt ≠ 0 ∧ e.pointCnt &&& 15 = 0 then e.addRuleOp
    else e
  if hidden.pointCnt ≠ 1 then hidden.addOp WireOp.kProperty.code property else hidden

/-- `addPoint` without an extension. A segment that is not orthogonal fails the assertion. -/
def addPoint (x y : Int) (property : Nat) (e : WireEncoder) : Option (WireEncoder × Nat) :=
  let width := e.widthFlag
  if e.pointCnt = 0 then
    let first := (e.addOp (WireOp.kX.code ||| width) x).addOp (WireOp.kY.code ||| width) y
    some ({ first with x := x, y := y, pointCnt := 1, prevExtendedColinearPnt := false }.endPoint
      property, e.idx + 1)
  else if e.x = x ∧ e.y = y then
    let next := e.addOp (WireOp.kColinear.code ||| width) 0
    some ({ next with prevExtendedColinearPnt := false }.endPoint property, e.idx)
  else if e.y = y then
    let next := e.addOp (WireOp.kX.code ||| width) x
    some ({ next with x := x, pointCnt := e.pointCnt + 1, prevExtendedColinearPnt := false }.endPoint
      property, e.idx)
  else if e.x = x then
    let next := e.addOp (WireOp.kY.code ||| width) y
    some ({ next with y := y, pointCnt := e.pointCnt + 1, prevExtendedColinearPnt := false }.endPoint
      property, e.idx)
  else none

/-- `addPoint` with an extension. -/
def addPointExt (x y ext : Int) (property : Nat) (e : WireEncoder) : Option (WireEncoder × Nat) :=
  let width := e.widthFlag
  if e.pointCnt = 0 then
    let first := ((e.addOp (WireOp.kX.code ||| width) x).addOp
      (WireOp.kY.code ||| (WOP_EXTENSION ||| width)) y).addOp WireOp.kOperand.code ext
    some ({ first with x := x, y := y, pointCnt := 1, prevExtendedColinearPnt := false }.endPoint
      property, e.idx + 1)
  else if e.x = x ∧ e.y = y then
    if (e.pointCnt > 1 ∨ e.pointCnt > 0 ∧ e.viaCnt > 0) ∧ e.prevExtendedColinearPnt = false then
      let next := e.addOp (WireOp.kColinear.code ||| (WOP_EXTENSION ||| width)) ext
      some ({ next with prevExtendedColinearPnt := true }.endPoint property, e.idx)
    else none
  else if e.y = y then
    let next := (e.addOp (WireOp.kX.code ||| (WOP_EXTENSION ||| width)) x).addOp
      WireOp.kOperand.code ext
    some ({ next with x := x, pointCnt := e.pointCnt + 1, prevExtendedColinearPnt := false }.endPoint
      property, e.idx)
  else if e.x = x then
    let next := (e.addOp (WireOp.kY.code ||| (WOP_EXTENSION ||| width)) y).addOp
      WireOp.kOperand.code ext
    some ({ next with y := y, pointCnt := e.pointCnt + 1, prevExtendedColinearPnt := false }.endPoint
      property, e.idx)
  else none

/-- What `addVia` and `addTechVia` share; a via that does not touch the layer fails. -/
def addViaOp (op : WireOp) (top bottom : Nat → Nat) (via : Nat) (e : WireEncoder) :
    Option (WireEncoder × Nat) :=
  if e.pointCnt = 0 then none
  else if some (top via) = e.layer then
    some ({ (e.addOp op.code via) with layer := some (bottom via), viaCnt := e.viaCnt + 1 }, e.idx)
  else if some (bottom via) = e.layer then
    some ({ (e.addOp (op.code ||| WOP_VIA_EXIT_TOP) via) with
      layer := some (top via), viaCnt := e.viaCnt + 1 }, e.idx)
  else none

def clearColor (e : WireEncoder) : WireEncoder := e.addOp WireOp.kColor.code 0

def clearViaColor (e : WireEncoder) : WireEncoder := e.addOp WireOp.kViaColor.code 0

def setColor (maskColor : Nat) (e : WireEncoder) : Option WireEncoder :=
  if maskColor < 1 ∨ maskColor > 3 then none else some (e.addOp WireOp.kColor.code maskColor)

def setViaColor (bottom cut top : Nat) (e : WireEncoder) : Option WireEncoder :=
  if bottom > 3 ∨ cut > 3 ∨ top > 3 then none
  else some (e.addOp WireOp.kViaColor.code ((bottom <<< 4 ||| cut <<< 2 ||| top : Nat) : Int))

def addVia (tech : WireTech) (via : Nat) (e : WireEncoder) : Option (WireEncoder × Nat) :=
  e.addViaOp .kVia tech.viaTop tech.viaBottom via

def addTechVia (tech : WireTech) (via : Nat) (e : WireEncoder) : Option (WireEncoder × Nat) :=
  (e.addViaOp .kTechVia tech.techViaTop tech.techViaBottom via).map fun (e', jctId) =>
    (e'.clearColor, jctId)

def addRect (deltaX1 deltaY1 deltaX2 deltaY2 : Int) (e : WireEncoder) : Option WireEncoder :=
  if e.pointCnt = 0 then none
  else some ((((e.addOp WireOp.kRect.code deltaX1).addOp WireOp.kOperand.code deltaY1).addOp
    WireOp.kOperand.code deltaX2).addOp WireOp.kOperand.code deltaY2)

def addITerm (iterm : Nat) (e : WireEncoder) : Option WireEncoder :=
  if e.pointCnt = 0 then none else some (e.addOp WireOp.kIterm.code iterm)

def addBTerm (bterm : Nat) (e : WireEncoder) : Option WireEncoder :=
  if e.pointCnt = 0 then none else some (e.addOp WireOp.kBterm.code bterm)

def startRule (rule : Option LayerRule) (e : WireEncoder) : WireEncoder :=
  if rule.isSome then e.addRuleOp else e

/-- `newPath` on a layer, with or without a rule. -/
def newPath (layer : Nat) (type : DbWireType) (rule : Option LayerRule) (e : WireEncoder) :
    Option WireEncoder := do
  let bits ← type.bits
  let e := e.initPath (some layer) bits rule
  some ((e.addOp (WireOp.kPath.code ||| e.wireType) layer).startRule rule)

/-- `newPath` and `newPathExt` from a junction; without a type the current one is kept. -/
def newPathJct (tech : WireTech) (jctId : Nat) (ext : Option Int) (type : Option DbWireType)
    (rule : Option LayerRule) (e : WireEncoder) : Option WireEncoder := do
  let bits ← (match type with
    | none => some e.wireType
    | some type => type.bits)
  let pnt ← junctionPoint tech e.ops jctId
  let e := { e.initPath pnt.layer bits rule with x := pnt.x, y := pnt.y, pointCnt := 1 }
  let e := (e.addOp (WireOp.kJunction.code ||| e.wireType) jctId).startRule rule
  let width := if rule.isSome then 0 else WOP_DEFAULT_WIDTH
  some (match ext with
    | none => e.addOp (WireOp.kColinear.code ||| width) 0
    | some ext => e.addOp (WireOp.kColinear.code ||| (WOP_EXTENSION ||| width)) ext)

/-- What `newPathShort` and `newPathVirtualWire` share. -/
def newPathFrom (op : WireOp) (jctId layer : Nat) (type : DbWireType) (rule : Option LayerRule)
    (e : WireEncoder) : Option WireEncoder := do
  let bits ← type.bits
  let e := e.initPath (some layer) bits rule
  some (((e.addOp (op.code ||| e.wireType) layer).addOp WireOp.kOperand.code jctId).startRule rule)

def newPathShort (jctId layer : Nat) (type : DbWireType) (rule : Option LayerRule)
    (e : WireEncoder) : Option WireEncoder := e.newPathFrom .kShort jctId layer type rule

def newPathVirtualWire (jctId layer : Nat) (type : DbWireType) (rule : Option LayerRule)
    (e : WireEncoder) : Option WireEncoder := e.newPathFrom .kVwire jctId layer type rule

end WireEncoder

inductive ElementKind where
  | path (type : DbWireType)
  | short (type : DbWireType) (jct : Int)
  | junction (type : DbWireType) (jct : Int)
  | vwire (type : DbWireType) (jct : Int)
  | point (x y : Int)
  | pointExt (x y ext : Int)
  | via (id : Int)
  | techVia (id : Int)
  | rect (deltaX1 deltaY1 deltaX2 deltaY2 : Int)
  | iterm (id : Int)
  | bterm (id : Int)
  | rule (block : Bool) (id : Int)
  deriving DecidableEq

abbrev ViaColor := Nat × Nat × Nat

/-- What the getters return after a call of `next`. -/
structure Element where
  kind : ElementKind
  jctId : Nat
  layer : Option Nat
  color : Option Nat
  viaColor : Option ViaColor
  deriving DecidableEq

structure WireDecoder where
  idx : Nat
  x : Int
  y : Int
  layer : Option Nat
  pointCnt : Nat
  wireType : DbWireType
  color : Option Nat
  viaColor : Option ViaColor
  deriving DecidableEq

namespace WireDecoder

/-- `begin` on a new decoder. -/
def new : WireDecoder := ⟨0, 0, 0, none, 0, .none, none, none⟩

def nextOp (ops : List Op) (d : WireDecoder) : Option (Op × WireDecoder) := do
  let op ← ops[d.idx]?
  some (op, { d with idx := d.idx + 1 })

def flushRule (ops : List Op) (d : WireDecoder) : WireDecoder :=
  match ops[d.idx]? with
  | none => d
  | some (opcode, _) => if opOf opcode = some .kRule then { d with idx := d.idx + 1 } else d

def element (d : WireDecoder) (jctId : Nat) (kind : ElementKind) : Element :=
  ⟨kind, jctId, d.layer, d.color, d.viaColor⟩

/-- A point after the first one of its path. -/
def laterPoint (ops : List Op) (jctId : Nat) (ext : Option Int) (d : WireDecoder) :
    WireDecoder × Option Element :=
  let d := { d with pointCnt := d.pointCnt + 1 }
  let kind := match ext with
    | none => ElementKind.point d.x d.y
    | some ext => ElementKind.pointExt d.x d.y ext
  (d.flushRule ops, some (d.element jctId kind))

/-- One pass through the switch of `next`, without an element for `goto nextOpCode`. -/
def stepOp (tech : WireTech) (ops : List Op) (d : WireDecoder) :
    Option (WireDecoder × Option Element) := do
  let jctId := d.idx
  let ((opcode, operand), d) ← d.nextOp ops
  let op ← opOf opcode
  let startPath := fun (layer : Option Nat) (d : WireDecoder) =>
    { d with layer := layer, pointCnt := 0, wireType := DbWireType.ofByte opcode d.wireType }
  match op with
  | .kPath =>
    let d := startPath (some operand.toNat) d
    some (d, some (d.element jctId (.path d.wireType)))
  | .kShort => do
    let d := startPath (some operand.toNat) d
    let ((_, operand2), d) ← d.nextOp ops
    some (d, some (d.element jctId (.short d.wireType operand2)))
  | .kVwire => do
    let d := startPath (some operand.toNat) d
    let ((_, operand2), d) ← d.nextOp ops
    some (d, some (d.element jctId (.vwire d.wireType operand2)))
  | .kJunction => do
    let pnt ← junctionPoint tech ops operand.toNat
    let d := { startPath pnt.layer d with x := pnt.x, y := pnt.y }
    some (d, some (d.element jctId (.junction d.wireType operand)))
  | .kRule =>
    some (d, some (d.element jctId (.rule (hasFlag opcode WOP_BLOCK_RULE) operand)))
  | .kX =>
    if d.pointCnt = 0 then do
      let ((opcode, y), d') ← d.nextOp ops
      let d' := { d' with x := operand, y := y, pointCnt := 1 }
      if hasFlag opcode WOP_EXTENSION then do
        let ((_, ext), d'') ← d'.nextOp ops
        some (d'', some (d''.element d.idx (.pointExt operand y ext)))
      else some (d', some (d'.element d.idx (.point operand y)))
    else do
      let d := { d with x := operand }
      if hasFlag opcode WOP_EXTENSION then do
        let ((_, ext), d) ← d.nextOp ops
        some (d.laterPoint ops jctId (some ext))
      else some (d.laterPoint ops jctId none)
  | .kY =>
    if d.pointCnt = 0 then none
    else do
      let d := { d with y := operand }
      if hasFlag opcode WOP_EXTENSION then do
        let ((_, ext), d) ← d.nextOp ops
        some (d.laterPoint ops jctId (some ext))
      else some (d.laterPoint ops jctId none)
  | .kColinear =>
    some (d.laterPoint ops jctId (if hasFlag opcode WOP_EXTENSION then some operand else none))
  | .kVia =>
    let layer := if hasFlag opcode WOP_VIA_EXIT_TOP then tech.viaTop operand.toNat
      else tech.viaBottom operand.toNat
    let d := { d with layer := some layer }
    some (d, some (d.element jctId (.via operand)))
  | .kTechVia =>
    let layer := if hasFlag opcode WOP_VIA_EXIT_TOP then tech.techViaTop operand.toNat
      else tech.techViaBottom operand.toNat
    let d := { d with layer := some layer }
    some (d, some (d.element jctId (.techVia operand)))
  | .kRect => do
    let ((_, deltaY1), d) ← d.nextOp ops
    let ((_, deltaX2), d) ← d.nextOp ops
    let ((_, deltaY2), d) ← d.nextOp ops
    some (d, some (d.element jctId (.rect operand deltaY1 deltaX2 deltaY2)))
  | .kIterm => some (d, some (d.element jctId (.iterm operand)))
  | .kBterm => some (d, some (d.element jctId (.bterm operand)))
  | .kOperand => none
  | .kProperty | .kNop => some (d, none)
  | .kColor =>
    let bits := operand.toNat % 256
    let color := if bits = 0 then none else some bits
    some ({ d with color := color }, none)
  | .kViaColor =>
    let bits := operand.toNat % 256
    let viaColor := if bits = 0 then none
      else some ((bits &&& 0x30) >>> 4, (bits &&& 0x0c) >>> 2, bits &&& 0x03)
    some ({ d with viaColor := viaColor }, none)

/-- `next`, for at most the given number of jumps to `nextOpCode`; no element is
`END_DECODE`. -/
def next (tech : WireTech) (ops : List Op) : Nat → WireDecoder →
    Option (WireDecoder × Option Element)
  | 0, _ => none
  | fuel + 1, d =>
    if d.idx = ops.length then some (d, none) else do
      let (d', found) ← d.stepOp tech ops
      match found with
      | some element => some (d', some element)
      | none => next tech ops fuel d'

/-- All elements up to `END_DECODE`. -/
def elements (tech : WireTech) (ops : List Op) : Nat → WireDecoder → Option (List Element)
  | 0, _ => none
  | fuel + 1, d => do
    let (d', found) ← d.next tech ops (ops.length + 1)
    match found with
    | none => some []
    | some element => do
      let rest ← elements tech ops fuel d'
      some (element :: rest)

def decode (tech : WireTech) (ops : List Op) : Option (List Element) :=
  new.elements tech ops (ops.length + 1)

end WireDecoder

inductive WireCall where
  | addPoint (x y : Int) (property : Nat)
  | addPointExt (x y ext : Int) (property : Nat)
  | addVia (via : Nat)
  | addTechVia (via : Nat)
  | addRect (deltaX1 deltaY1 deltaX2 deltaY2 : Int)
  | addITerm (iterm : Nat)
  | addBTerm (bterm : Nat)
  | newPath (layer : Nat) (type : DbWireType) (rule : Option LayerRule)
  | newPathJct (jctId : Nat) (ext : Option Int) (type : Option DbWireType)
      (rule : Option LayerRule)
  | newPathShort (jctId layer : Nat) (type : DbWireType) (rule : Option LayerRule)
  | newPathVirtualWire (jctId layer : Nat) (type : DbWireType) (rule : Option LayerRule)
  | setColor (maskColor : Nat)
  | clearColor
  | setViaColor (bottom cut top : Nat)
  | clearViaColor
  deriving DecidableEq

def WireCall.jctId : WireCall → Option Nat
  | .newPathJct jctId _ _ _ | .newPathShort jctId _ _ _ | .newPathVirtualWire jctId _ _ _ =>
    some jctId
  | _ => none

namespace WireEncoder

/-- A call, with the junction id that it returns. -/
def call (tech : WireTech) (e : WireEncoder) : WireCall → Option (WireEncoder × Option Nat)
  | .addPoint x y property => (e.addPoint x y property).map fun (e', id) => (e', some id)
  | .addPointExt x y ext property =>
    (e.addPointExt x y ext property).map fun (e', id) => (e', some id)
  | .addVia via => (e.addVia tech via).map fun (e', id) => (e', some id)
  | .addTechVia via => (e.addTechVia tech via).map fun (e', id) => (e', some id)
  | .addRect deltaX1 deltaY1 deltaX2 deltaY2 =>
    (e.addRect deltaX1 deltaY1 deltaX2 deltaY2).map fun e' => (e', none)
  | .addITerm iterm => (e.addITerm iterm).map fun e' => (e', none)
  | .addBTerm bterm => (e.addBTerm bterm).map fun e' => (e', none)
  | .newPath layer type rule => (e.newPath layer type rule).map fun e' => (e', none)
  | .newPathJct jctId ext type rule =>
    (e.newPathJct tech jctId ext type rule).map fun e' => (e', none)
  | .newPathShort jctId layer type rule =>
    (e.newPathShort jctId layer type rule).map fun e' => (e', none)
  | .newPathVirtualWire jctId layer type rule =>
    (e.newPathVirtualWire jctId layer type rule).map fun e' => (e', none)
  | .setColor maskColor => (e.setColor maskColor).map fun e' => (e', none)
  | .clearColor => some (e.clearColor, none)
  | .setViaColor bottom cut top => (e.setViaColor bottom cut top).map fun e' => (e', none)
  | .clearViaColor => some (e.clearViaColor, none)

abbrev Trace := List (WireCall × Option Nat)

/-- A sequence of calls; `known` are the junction ids that were returned so far. -/
def run (tech : WireTech) (known : List Nat) (e : WireEncoder) :
    List WireCall → Option (WireEncoder × Trace)
  | [] => some (e, [])
  | first :: rest =>
    if first.jctId.all (· ∈ known) then do
      let (e₁, id) ← e.call tech first
      let (e₂, trace) ← run tech (id.toList ++ known) e₁ rest
      some (e₂, (first, id) :: trace)
    else none

end WireEncoder

end OpenRoad.Odb
