import OpenRoad.Odb.WireDecode

/-! A `dbWireDecoder` with all its fields: what is left of the wires it has read when it begins
the next one. -/

namespace OpenRoad.Odb

open Option

inductive OpCode where
  | PATH | JUNCTION | SHORT | VWIRE | POINT | POINT_EXT | VIA | TECH_VIA | RECT | ITERM | BTERM
  | RULE | END_DECODE
  deriving DecidableEq

/-- `wire_` is its ops, `block_` and `tech_` are the vias they refer to. -/
structure DbWireDecoder where
  wire : List Op
  tech : WireTech
  x : Int
  y : Int
  defaultWidth : Bool
  blockRule : Bool
  layer : Option Nat
  operand : Int
  operand2 : Int
  idx : Nat
  jctId : Int
  wireType : DbWireType
  pointCnt : Nat
  opcode : OpCode
  property : Nat
  deltaX1 : Int
  deltaY1 : Int
  deltaX2 : Int
  deltaY2 : Int
  color : Option Nat
  viaColor : Option ViaColor

namespace DbWireDecoder

/-- A new decoder: the constructor leaves every other field without a value. -/
def IsNew (d : DbWireDecoder) : Prop := d.color = none ∧ d.viaColor = none

def begin (tech : WireTech) (wire : List Op) (d : DbWireDecoder) : DbWireDecoder :=
  { d with
    wire := wire, tech := tech, x := 0, y := 0, defaultWidth := true, layer := none, idx := 0
    jctId := -1, opcode := .END_DECODE, wireType := .none, pointCnt := 0, property := 0
    deltaX1 := 0, deltaY1 := 0, deltaX2 := 0, deltaY2 := 0 }

def nextOp (d : DbWireDecoder) : Option (Op × DbWireDecoder) := do
  let op ← d.wire[d.idx]?
  some (op, { d with idx := d.idx + 1 })

def flushRule (d : DbWireDecoder) : DbWireDecoder :=
  match d.wire[d.idx]? with
  | none => d
  | some (opcode, _) => if opOf opcode = some .kRule then { d with idx := d.idx + 1 } else d

def startPath (byte : UInt8) (layer : Option Nat) (d : DbWireDecoder) : DbWireDecoder :=
  { d with
    layer := layer, pointCnt := 0, defaultWidth := true
    wireType := DbWireType.ofByte byte d.wireType }

def nextOperand2 (d : DbWireDecoder) : Option DbWireDecoder := do
  let ((_, operand2), d) ← d.nextOp
  some { d with operand2 := operand2 }

/-- `return opcode_ = code`. -/
def stop (code : OpCode) (d : DbWireDecoder) : DbWireDecoder × Option OpCode :=
  ({ d with opcode := code }, some code)

def stopLater (code : OpCode) (d : DbWireDecoder) : DbWireDecoder × Option OpCode :=
  ({ d with opcode := code, property := 0 }.flushRule, some code)

/-- One pass through the switch of `next`, without an opcode for `goto nextOpCode`. -/
def nextOpCode (d : DbWireDecoder) : Option (DbWireDecoder × Option OpCode) := do
  let ((byte, operand), d) ← { d with jctId := d.idx }.nextOp
  let d := { d with operand := operand }
  let op ← opOf byte
  match op with
  | .kPath => some ((d.startPath byte (some operand.toNat)).stop .PATH)
  | .kShort => do
    let d ← (d.startPath byte (some operand.toNat)).nextOperand2
    some (d.stop .SHORT)
  | .kVwire => do
    let d ← (d.startPath byte (some operand.toNat)).nextOperand2
    some (d.stop .VWIRE)
  | .kJunction => do
    let pnt ← junctionPoint d.tech d.wire operand.toNat
    some ({ d.startPath byte pnt.layer with x := pnt.x, y := pnt.y }.stop .JUNCTION)
  | .kRule =>
    some ({ d with
      defaultWidth := false, blockRule := hasFlag byte WOP_BLOCK_RULE }.stop .RULE)
  | .kX =>
    let d := { d with x := operand }
    if d.pointCnt = 0 then do
      let ((byte, y), d) ← { d with jctId := d.idx }.nextOp
      let d := { d with y := y, pointCnt := 1 }
      if hasFlag byte WOP_EXTENSION then do
        let d ← d.nextOperand2
        some (d.stop .POINT_EXT)
      else some (d.stop .POINT)
    else do
      let d := { d with pointCnt := d.pointCnt + 1 }
      if hasFlag byte WOP_EXTENSION then do
        let d ← d.nextOperand2
        some (d.stopLater .POINT_EXT)
      else some (d.stopLater .POINT)
  | .kY =>
    if d.pointCnt = 0 then none
    else do
      let d := { d with pointCnt := d.pointCnt + 1, y := operand }
      if hasFlag byte WOP_EXTENSION then do
        let d ← d.nextOperand2
        some (d.stopLater .POINT_EXT)
      else some (d.stopLater .POINT)
  | .kColinear =>
    let d := { d with pointCnt := d.pointCnt + 1 }
    if hasFlag byte WOP_EXTENSION then some ({ d with operand2 := operand }.stopLater .POINT_EXT)
    else some (d.stopLater .POINT)
  | .kVia =>
    let layer := if hasFlag byte WOP_VIA_EXIT_TOP then d.tech.viaTop operand.toNat
      else d.tech.viaBottom operand.toNat
    some ({ d with layer := some layer }.stop .VIA)
  | .kTechVia =>
    let layer := if hasFlag byte WOP_VIA_EXIT_TOP then d.tech.techViaTop operand.toNat
      else d.tech.techViaBottom operand.toNat
    some ({ d with layer := some layer }.stop .TECH_VIA)
  | .kRect => do
    let ((_, deltaY1), d) ← { d with deltaX1 := operand }.nextOp
    let ((_, deltaX2), d) ← { d with deltaY1 := deltaY1 }.nextOp
    let ((_, deltaY2), d) ← { d with deltaX2 := deltaX2 }.nextOp
    some ({ d with deltaY2 := deltaY2 }.stop .RECT)
  | .kIterm => some (d.stop .ITERM)
  | .kBterm => some (d.stop .BTERM)
  | .kOperand => none
  | .kProperty | .kNop => some (d, none)
  | .kColor =>
    let bits := operand.toNat % 256
    some ({ d with color := if bits = 0 then none else some bits }, none)
  | .kViaColor =>
    let bits := operand.toNat % 256
    let viaColor := if bits = 0 then none
      else some ((bits &&& 0x30) >>> 4, (bits &&& 0x0c) >>> 2, bits &&& 0x03)
    some ({ d with viaColor := viaColor }, none)

/-- `next`, for at most the given number of jumps to `nextOpCode`. -/
def next : Nat → DbWireDecoder → Option (DbWireDecoder × OpCode)
  | 0, _ => none
  | fuel + 1, d =>
    if d.idx = d.wire.length then some (d, .END_DECODE) else do
      let (d', code) ← d.nextOpCode
      match code with
      | some code => some (d', code)
      | none => next fuel d'

/-- The given number of calls of `next`. -/
def nexts : Nat → DbWireDecoder → Option DbWireDecoder
  | 0, d => some d
  | calls + 1, d => do
    let (d', _) ← d.next (d.wire.length + 1)
    nexts calls d'

/-- What the accessors return for the last opcode. -/
def operands (d : DbWireDecoder) : Option ElementKind :=
  match d.opcode with
  | .PATH => some (.path d.wireType)
  | .SHORT => some (.short d.wireType d.operand2)
  | .JUNCTION => some (.junction d.wireType d.operand)
  | .VWIRE => some (.vwire d.wireType d.operand2)
  | .POINT => some (.point d.x d.y)
  | .POINT_EXT => some (.pointExt d.x d.y d.operand2)
  | .VIA => some (.via d.operand)
  | .TECH_VIA => some (.techVia d.operand)
  | .RECT => some (.rect d.deltaX1 d.deltaY1 d.deltaX2 d.deltaY2)
  | .ITERM => some (.iterm d.operand)
  | .BTERM => some (.bterm d.operand)
  | .RULE => some (.rule d.blockRule d.operand)
  | .END_DECODE => none

/-- What all getters return after a call of `next`. -/
def element (d : DbWireDecoder) : Option Element :=
  d.operands.map fun kind => ⟨kind, d.jctId.toNat, d.layer, d.color, d.viaColor⟩

/-- All elements up to `END_DECODE`. -/
def elements : Nat → DbWireDecoder → Option (List Element)
  | 0, _ => none
  | fuel + 1, d => do
    let (d', code) ← d.next (d.wire.length + 1)
    if code = .END_DECODE then some []
    else do
      let element ← d'.element
      let rest ← elements fuel d'
      some (element :: rest)

/-- `begin` on a wire, then `next` up to `END_DECODE`. -/
def decode (tech : WireTech) (wire : List Op) (d : DbWireDecoder) : Option (List Element) :=
  (d.begin tech wire).elements (wire.length + 1)

def view (d : DbWireDecoder) : WireDecoder :=
  ⟨d.idx, d.x, d.y, d.layer, d.pointCnt, d.wireType, d.color, d.viaColor⟩

/-- A pass of the full decoder beside the pass of its view. -/
inductive Agrees (tech : WireTech) (wire : List Op) :
    Option (DbWireDecoder × Option OpCode) → Option (WireDecoder × Option Element) → Prop
  | fails : Agrees tech wire none none
  | goes (d : DbWireDecoder) (sameTech : d.tech = tech) (sameWire : d.wire = wire) :
      Agrees tech wire (some (d, none)) (some (d.view, none))
  | stops (d : DbWireDecoder) (code : OpCode) (element : Element) (sameTech : d.tech = tech)
      (sameWire : d.wire = wire) (notEnd : code ≠ .END_DECODE)
      (shown : d.element = some element) :
      Agrees tech wire (some (d, some code)) (some (d.view, some element))

lemma view_begin (tech : WireTech) (wire : List Op) (d : DbWireDecoder) :
    (d.begin tech wire).view =
      { WireDecoder.new with color := d.color, viaColor := d.viaColor } := rfl

variable {d : DbWireDecoder}

lemma nextOp_eq {op : Op} (present : d.wire[d.idx]? = some op) :
    d.nextOp = some (op, { d with idx := d.idx + 1 }) := by
  rw [nextOp, present]
  rfl

lemma nextOp_none (missing : d.wire[d.idx]? = none) : d.nextOp = none := by
  rw [nextOp, missing]
  rfl

lemma flushRule_view (d : DbWireDecoder) :
    d.flushRule.view = d.view.flushRule d.wire ∧ d.flushRule.wire = d.wire ∧
      d.flushRule.tech = d.tech ∧ d.flushRule.element = d.element := by
  have idx : d.view.idx = d.idx := rfl
  rw [flushRule, WireDecoder.flushRule, idx]
  cases d.wire[d.idx]? with
  | none => exact ⟨rfl, rfl, rfl, rfl⟩
  | some op =>
    simp only
    split
    · exact ⟨rfl, rfl, rfl, rfl⟩
    · exact ⟨rfl, rfl, rfl, rfl⟩

lemma nextOperand2_eq {op : Op} (present : d.wire[d.idx]? = some op) :
    d.nextOperand2 = some { d with idx := d.idx + 1, operand2 := op.2 } := by
  rw [nextOperand2, nextOp_eq present]
  rfl

lemma nextOperand2_none (missing : d.wire[d.idx]? = none) : d.nextOperand2 = none := by
  rw [nextOperand2, nextOp_none missing]
  rfl

variable {wire : List Op}

lemma view_nextOp_none {d : WireDecoder} (missing : wire[d.idx]? = none) :
    d.nextOp wire = none := by
  rw [WireDecoder.nextOp, missing]
  rfl

lemma agrees_later {tech : WireTech} (d : DbWireDecoder) (before : WireDecoder) (jctId : Nat)
    (ext : Option Int) (code : OpCode) (sameTech : d.tech = tech) (sameWire : d.wire = wire)
    (sameJct : d.jctId = jctId) (viewed : d.view = { before with pointCnt := before.pointCnt + 1 })
    (shown : code = .POINT ∧ ext = none ∨ code = .POINT_EXT ∧ ext = some d.operand2) :
    Agrees tech wire (some (d.stopLater code)) (some (before.laterPoint wire jctId ext)) := by
  subst sameTech sameWire
  have number : d.jctId.toNat = jctId := by rw [sameJct, Int.toNat_natCast]
  have flushed := flushRule_view { d with opcode := code, property := 0 }
  have later : before.laterPoint d.wire jctId ext = (d.view.flushRule d.wire,
      some (d.view.element jctId (ext.elim (.point d.x d.y) (.pointExt d.x d.y)))) := by
    have sameX : d.x = before.x := congrArg WireDecoder.x viewed
    have sameY : d.y = before.y := congrArg WireDecoder.y viewed
    rw [viewed, sameX, sameY]
    cases ext <;> rfl
  rw [later]
  change Agrees _ _ _ (some (WireDecoder.flushRule d.wire
    ({ d with opcode := code, property := 0 } : DbWireDecoder).view, _))
  rw [← flushed.1]
  apply Agrees.stops
  · exact flushed.2.2.1
  · exact flushed.2.1
  · rcases shown with ⟨rfl, _⟩ | ⟨rfl, _⟩ <;> decide
  · rw [flushed.2.2.2]
    rcases shown with ⟨rfl, rfl⟩ | ⟨rfl, rfl⟩
    · simp only [element, operands, map_some, number]
      rfl
    · simp only [element, operands, map_some, number]
      rfl

lemma agrees_segment {tech : WireTech} (d : DbWireDecoder) (before : WireDecoder) (jctId : Nat)
    (byte : UInt8) (sameTech : d.tech = tech) (sameWire : d.wire = wire) (sameJct : d.jctId = jctId)
    (viewed : d.view = { before with pointCnt := before.pointCnt + 1 }) : Agrees tech wire
      (if hasFlag byte WOP_EXTENSION then d.nextOperand2.bind fun d => some (d.stopLater .POINT_EXT)
        else some (d.stopLater .POINT))
      (if hasFlag byte WOP_EXTENSION then (before.nextOp wire).bind fun next =>
          some (next.2.laterPoint wire jctId (some next.1.2))
        else some (before.laterPoint wire jctId none)) := by
  have sameIdx : d.idx = before.idx := congrArg WireDecoder.idx viewed
  split
  · cases second : wire[before.idx]? with
    | none =>
      rw [nextOperand2_none (by rw [sameWire, sameIdx, second]), view_nextOp_none second]
      exact .fails
    | some ext =>
      rw [nextOperand2_eq (by rw [sameWire, sameIdx, second]), WireDecoder.nextOp_eq second]
      apply agrees_later { d with idx := d.idx + 1, operand2 := ext.2 }
      · exact sameTech
      · exact sameWire
      · exact sameJct
      · have fields : ({ d with idx := d.idx + 1, operand2 := ext.2 } : DbWireDecoder).view =
            { d.view with idx := d.view.idx + 1 } := rfl
        rw [fields, viewed]
      · exact .inr ⟨rfl, rfl⟩
  · exact agrees_later d before _ _ _ sameTech sameWire sameJct viewed (.inl ⟨rfl, rfl⟩)

lemma agrees_nextOpCode (d : DbWireDecoder) :
    Agrees d.tech d.wire d.nextOpCode (d.view.stepOp d.tech d.wire) := by
  rw [nextOpCode, WireDecoder.stepOp]
  cases present : d.wire[d.idx]? with
  | none =>
    rw [nextOp_none (d := { d with jctId := d.idx }) present, view_nextOp_none (d := d.view) present]
    exact .fails
  | some first =>
    rcases first with ⟨byte, operand⟩
    rw [nextOp_eq (d := { d with jctId := d.idx }) present,
      WireDecoder.nextOp_eq (d := d.view) present]
    simp only [bind_eq_bind, bind_some]
    cases kind : opOf byte with
    | none => exact .fails
    | some op =>
      simp only [bind_some]
      cases op
      case kPath | kRule | kVia | kTechVia | kIterm | kBterm =>
        exact .stops _ _ _ rfl rfl (by decide) rfl
      case kProperty | kNop | kColor | kViaColor => exact .goes _ rfl rfl
      case kOperand => exact .fails
      case kShort | kVwire =>
        cases second : d.wire[d.idx + 1]? with
        | none =>
          rw [nextOperand2_none (by exact second), view_nextOp_none (by exact second)]
          exact .fails
        | some op =>
          rw [nextOperand2_eq (by exact second), WireDecoder.nextOp_eq (by exact second)]
          exact .stops _ _ _ rfl rfl (by decide) rfl
      case kJunction =>
        simp only
        cases junctionPoint d.tech d.wire operand.toNat with
        | none => exact .fails
        | some pnt => exact .stops _ _ _ rfl rfl (by decide) rfl
      case kRect =>
        simp only
        cases second : d.wire[d.idx + 1]? with
        | none =>
          rw [nextOp_none (by exact second), view_nextOp_none (by exact second)]
          exact .fails
        | some deltaY1 =>
          rw [nextOp_eq (by exact second), WireDecoder.nextOp_eq (by exact second)]
          simp only [bind_some]
          cases third : d.wire[d.idx + 1 + 1]? with
          | none =>
            rw [nextOp_none (by exact third), view_nextOp_none (by exact third)]
            exact .fails
          | some deltaX2 =>
            rw [nextOp_eq (by exact third), WireDecoder.nextOp_eq (by exact third)]
            simp only [bind_some]
            cases fourth : d.wire[d.idx + 1 + 1 + 1]? with
            | none =>
              rw [nextOp_none (by exact fourth), view_nextOp_none (by exact fourth)]
              exact .fails
            | some deltaY2 =>
              rw [nextOp_eq (by exact fourth), WireDecoder.nextOp_eq (by exact fourth)]
              exact .stops _ _ _ rfl rfl (by decide) rfl
      case kColinear =>
        simp only
        split
        · exact agrees_later _ _ _ _ _ rfl rfl rfl rfl (.inr ⟨rfl, rfl⟩)
        · exact agrees_later _ _ _ _ _ rfl rfl rfl rfl (.inl ⟨rfl, rfl⟩)
      case kY =>
        have sameCnt : d.view.pointCnt = d.pointCnt := rfl
        simp only [sameCnt]
        split
        · exact .fails
        · exact agrees_segment _ _ _ _ rfl rfl rfl rfl
      case kX =>
        have sameCnt : d.view.pointCnt = d.pointCnt := rfl
        simp only [sameCnt]
        split
        · cases second : d.wire[d.idx + 1]? with
          | none =>
            rw [nextOp_none (by exact second), view_nextOp_none (by exact second)]
            exact .fails
          | some y =>
            rw [nextOp_eq (by exact second), WireDecoder.nextOp_eq (by exact second)]
            simp only [bind_some]
            split
            · cases third : d.wire[d.idx + 1 + 1]? with
              | none =>
                rw [nextOperand2_none (by exact third), view_nextOp_none (by exact third)]
                exact .fails
              | some ext =>
                rw [nextOperand2_eq (by exact third), WireDecoder.nextOp_eq (by exact third)]
                exact .stops _ _ _ rfl rfl (by decide) rfl
            · exact .stops _ _ _ rfl rfl (by decide) rfl
        · exact agrees_segment _ _ _ _ rfl rfl rfl rfl

lemma next_view (fuel : Nat) (d : DbWireDecoder) :
    (d.next fuel = none ∧ d.view.next d.tech d.wire fuel = none) ∨
      (∃ d', d.next fuel = some (d', .END_DECODE) ∧
        d.view.next d.tech d.wire fuel = some (d'.view, none)) ∨
      ∃ d' code element, d.next fuel = some (d', code) ∧ code ≠ .END_DECODE ∧
        d'.element = some element ∧ d'.tech = d.tech ∧ d'.wire = d.wire ∧
        d.view.next d.tech d.wire fuel = some (d'.view, some element) := by
  induction fuel generalizing d with
  | zero => exact .inl ⟨rfl, rfl⟩
  | succ fuel ih =>
    have sameIdx : d.view.idx = d.idx := rfl
    rw [next, WireDecoder.next, sameIdx]
    split
    · exact .inr (.inl ⟨d, rfl, rfl⟩)
    · have pass := agrees_nextOpCode d
      revert pass
      generalize d.nextOpCode = full
      generalize d.view.stepOp d.tech d.wire = small
      intro pass
      cases pass with
      | fails => exact .inl ⟨rfl, rfl⟩
      | goes d' sameTech sameWire =>
        have rest := ih d'
        rw [sameTech, sameWire] at rest
        exact rest
      | stops d' code element sameTech sameWire notEnd shown =>
        exact .inr (.inr ⟨d', code, element, rfl, notEnd, shown, sameTech, sameWire, rfl⟩)

lemma elements_view (fuel : Nat) (d : DbWireDecoder) :
    d.elements fuel = d.view.elements d.tech d.wire fuel := by
  induction fuel generalizing d with
  | zero => rfl
  | succ fuel ih =>
    rw [elements, WireDecoder.elements]
    rcases next_view (d.wire.length + 1) d with ⟨full, small⟩ | ⟨d', full, small⟩ |
      ⟨d', code, element, full, notEnd, shown, sameTech, sameWire, small⟩
    · rw [full, small]
      rfl
    · rw [full, small]
      rfl
    · rw [full, small]
      simp only [bind_eq_bind, bind_some, if_neg notEnd, shown]
      rw [ih d', sameTech, sameWire]

lemma decode_view (tech : WireTech) (wire : List Op) (d : DbWireDecoder) :
    d.decode tech wire = WireDecoder.decodeFrom tech wire
      { WireDecoder.new with color := d.color, viaColor := d.viaColor } := by
  rw [decode, elements_view, view_begin]
  rfl

end DbWireDecoder

namespace WireDecoder

variable {tech : WireTech} {ops : List Op} {d : WireDecoder}

def recolor (color : Option Nat) (viaColor : Option ViaColor) (d : WireDecoder) : WireDecoder :=
  { d with color := color, viaColor := viaColor }

def silentOp (op : WireOp) : Bool :=
  op = .kProperty || op = .kNop || op = .kColor || op = .kViaColor

/-- The wire has `op` in front of its first element, or no element. -/
def setsFirst (op : WireOp) : List Op → Bool
  | [] => true
  | (byte, _) :: rest =>
    match opOf byte with
    | none => false
    | some first =>
      if first = op then true else if silentOp first then setsFirst op rest else false

lemma flushRule_recolor (ops : List Op) (color : Option Nat) (viaColor : Option ViaColor)
    (d : WireDecoder) :
    (d.recolor color viaColor).flushRule ops = (d.flushRule ops).recolor color viaColor := by
  have sameIdx : (d.recolor color viaColor).idx = d.idx := rfl
  rw [flushRule, flushRule, sameIdx]
  cases ops[d.idx]? with
  | none => rfl
  | some op =>
    simp only
    split <;> rfl

/-- A pass on a decoder and on the same decoder with other colours. -/
def Recolors (color : Option Nat) (viaColor : Option ViaColor)
    (plain recolored : Option (WireDecoder × Option Element)) : Prop :=
  recolored = plain.map fun (d, found) => (d.recolor color viaColor,
    found.map fun element => { element with color := color, viaColor := viaColor })

lemma recolors_later (color : Option Nat) (viaColor : Option ViaColor) (jctId : Nat)
    (ext : Option Int) (d : WireDecoder) :
    Recolors color viaColor (some (d.laterPoint ops jctId ext))
      (some ((d.recolor color viaColor).laterPoint ops jctId ext)) := by
  have flushed := flushRule_recolor ops color viaColor { d with pointCnt := d.pointCnt + 1 }
  have later : (d.recolor color viaColor).laterPoint ops jctId ext =
      (({ d with pointCnt := d.pointCnt + 1 }.recolor color viaColor).flushRule ops,
        some { (d.laterPoint ops jctId ext).2.get rfl with
          color := color, viaColor := viaColor }) := rfl
  rw [Recolors, later, flushed]
  rfl

variable {color : Option Nat} {viaColor : Option ViaColor}

lemma recolors_bind {α : Type} (read : Option α)
    (plain recolored : α → Option (WireDecoder × Option Element))
    (each : ∀ a, Recolors color viaColor (plain a) (recolored a)) :
    Recolors color viaColor (read.bind plain) (read.bind recolored) := by
  cases read with
  | none => rfl
  | some a => exact each a

lemma recolors_nextOp (d : WireDecoder)
    (plain recolored : Op × WireDecoder → Option (WireDecoder × Option Element))
    (each : ∀ op, Recolors color viaColor (plain (op, { d with idx := d.idx + 1 }))
      (recolored (op, { d.recolor color viaColor with idx := d.idx + 1 }))) :
    Recolors color viaColor ((d.nextOp ops).bind plain)
      (((d.recolor color viaColor).nextOp ops).bind recolored) := by
  have sameIdx : (d.recolor color viaColor).idx = d.idx := rfl
  rw [nextOp, nextOp, sameIdx]
  cases ops[d.idx]? with
  | none => rfl
  | some op => exact each op

lemma recolors_if (condition : Prop)
    [Decidable condition] {plain recolored plain' recolored' : Option (WireDecoder × Option Element)}
    (yes : Recolors color viaColor plain recolored)
    (no : Recolors color viaColor plain' recolored') :
    Recolors color viaColor (if condition then plain else plain')
      (if condition then recolored else recolored') := by
  split
  · exact yes
  · exact no

lemma recolors_stepOp (tech : WireTech) (color : Option Nat) (viaColor : Option ViaColor)
    (d : WireDecoder)
    (uncoloured : ∀ byte value, ops[d.idx]? = some (byte, value) →
      opOf byte ≠ some .kColor ∧ opOf byte ≠ some .kViaColor) :
    Recolors color viaColor (d.stepOp tech ops) ((d.recolor color viaColor).stepOp tech ops) := by
  rw [stepOp, stepOp]
  cases present : ops[d.idx]? with
  | none =>
    rw [nextOp, nextOp, present]
    change Recolors _ _ none (((ops[d.idx]?).bind _).bind _)
    rw [present]
    rfl
  | some first =>
    rcases first with ⟨byte, operand⟩
    have kinds := uncoloured byte operand present
    rw [nextOp_eq present, nextOp_eq (d := d.recolor color viaColor) present]
    simp only [bind_eq_bind, bind_some]
    cases kind : opOf byte with
    | none => rfl
    | some op =>
      simp only [bind_some]
      cases op
      case kColor => exact absurd kind kinds.1
      case kViaColor => exact absurd kind kinds.2
      case kShort | kVwire => exact recolors_nextOp _ _ _ fun _ => rfl
      case kJunction => exact recolors_bind _ _ _ fun _ => rfl
      case kRect =>
        exact recolors_nextOp _ _ _ fun _ =>
          recolors_nextOp _ _ _ fun _ => recolors_nextOp _ _ _ fun _ => rfl
      case kColinear => exact recolors_later _ _ _ _ _
      case kY =>
        apply recolors_if
        · rfl
        · apply recolors_if
          · exact recolors_nextOp _ _ _ fun _ => recolors_later _ _ _ _ _
          · exact recolors_later _ _ _ _ _
      case kX =>
        apply recolors_if
        · apply recolors_nextOp
          intro y
          apply recolors_if
          · exact recolors_nextOp _ _ _ fun _ => rfl
          · rfl
        · apply recolors_if
          · exact recolors_nextOp _ _ _ fun _ => recolors_later _ _ _ _ _
          · exact recolors_later _ _ _ _ _
      all_goals rfl

variable {elements : List Element}

lemma stepOp_exists (decoded : d.decodeFrom tech ops = some elements)
    (notEnd : d.idx ≠ ops.length) : ∃ d' found, d.stepOp tech ops = some (d', found) := by
  cases step : d.stepOp tech ops with
  | none =>
    rw [decodeFrom, WireDecoder.elements, next, if_neg notEnd, step] at decoded
    cases decoded
  | some result => exact ⟨result.1, result.2, rfl⟩

lemma stepOp_found {byte : UInt8} {value : Int} {op : WireOp} {d' : WireDecoder}
    {found : Option Element} (present : ops[d.idx]? = some (byte, value))
    (kind : opOf byte = some op) (loud : silentOp op = false)
    (step : d.stepOp tech ops = some (d', found)) : found.isSome = true := by
  rw [stepOp, nextOp_eq present] at step
  simp only [bind_eq_bind, bind_some, kind] at step
  cases op
  case kProperty | kNop | kColor | kViaColor => exact absurd loud (by decide)
  case kOperand => cases step
  case kShort | kVwire =>
    rcases nextOp_bind step with ⟨_, _, _, step⟩
    cases step
    rfl
  case kJunction =>
    rcases bind_eq_some_iff.mp step with ⟨_, _, step⟩
    cases step
    rfl
  case kRect =>
    rcases nextOp_bind step with ⟨_, _, _, step⟩
    rcases nextOp_bind step with ⟨_, _, _, step⟩
    rcases nextOp_bind step with ⟨_, _, _, step⟩
    cases step
    rfl
  case kY =>
    simp only at step
    split at step
    · cases step
    · split at step
      · rcases nextOp_bind step with ⟨_, _, _, step⟩
        cases step
        rfl
      · cases step
        rfl
  case kX =>
    simp only at step
    split at step
    · rcases nextOp_bind step with ⟨_, _, _, step⟩
      simp only at step
      split at step
      · rcases nextOp_bind step with ⟨_, _, _, step⟩
        cases step
        rfl
      · cases step
        rfl
    · split at step
      · rcases nextOp_bind step with ⟨_, _, _, step⟩
        cases step
        rfl
      · cases step
        rfl
  all_goals
    cases step
    rfl

lemma decodeFrom_silent {d' : WireDecoder} (silent : Decodes tech ops d [] d') :
    d.decodeFrom tech ops = d'.decodeFrom tech ops := by
  rw [silent]
  cases d'.decodeFrom tech ops <;> rfl

lemma loud_uncoloured {byte : UInt8} {value : Int} {op : WireOp}
    (present : ops[d.idx]? = some (byte, value)) (kind : opOf byte = some op)
    (loud : silentOp op = false) (byte' : UInt8) (value' : Int)
    (again : ops[d.idx]? = some (byte', value')) :
    opOf byte' ≠ some .kColor ∧ opOf byte' ≠ some .kViaColor := by
  rw [present] at again
  cases again
  rw [kind]
  cases op <;> first | exact ⟨by decide, by decide⟩ | exact absurd loud (by decide)

lemma decodeFrom_loud {byte : UInt8} {value : Int} {op : WireOp} (color : Option Nat)
    (viaColor : Option ViaColor) (present : ops[d.idx]? = some (byte, value))
    (kind : opOf byte = some op) (loud : silentOp op = false)
    (decoded : d.decodeFrom tech ops = some elements) :
    (d.recolor color viaColor).decodeFrom tech ops = some elements ↔
      color = d.color ∧ viaColor = d.viaColor := by
  have below := (List.getElem?_eq_some_iff.mp present).1
  have uncoloured := loud_uncoloured present kind loud
  rcases stepOp_exists decoded (by omega) with ⟨d', found, step⟩
  have seen := stepOp_found present kind loud step
  cases found with
  | none => cases seen
  | some element =>
    have others := recolors_stepOp tech color viaColor d uncoloured
    have own := recolors_stepOp tech d.color d.viaColor d uncoloured
    rw [Recolors, step] at others own
    have plain : d.recolor d.color d.viaColor = d := rfl
    rw [plain, step] at own
    simp only [map_some, Option.some.injEq, Prod.mk.injEq] at own
    constructor
    · intro same
      have first := decodes_found step
      have recolored := decodes_found others
      rw [Decodes, same] at recolored
      rw [Decodes, decoded] at first
      rcases map_eq_some_iff.mp first.symm with ⟨rest, _, list⟩
      rcases map_eq_some_iff.mp recolored.symm with ⟨rest', _, list'⟩
      rw [← list] at list'
      have heads := (List.cons.inj list').1
      rw [own.2] at heads
      exact ⟨congrArg Element.color heads, congrArg Element.viaColor heads⟩
    · rintro ⟨rfl, rfl⟩
      exact decoded

lemma recolored_decodes (color : Option Nat) (viaColor : Option ViaColor) (d : WireDecoder)
    (inside : d.idx ≤ ops.length) (decoded : d.decodeFrom tech ops = some elements) :
    (d.recolor color viaColor).decodeFrom tech ops = some elements ↔
      (color = d.color ∨ setsFirst .kColor (ops.drop d.idx) = true) ∧
        (viaColor = d.viaColor ∨ setsFirst .kViaColor (ops.drop d.idx) = true) := by
  generalize remaining : ops.length - d.idx = count
  induction count generalizing color viaColor d with
  | zero =>
    have atEnd : d.idx = ops.length := by omega
    have nothing : ops.drop d.idx = [] := by rw [atEnd, List.drop_length]
    rw [decodeFrom_end atEnd] at decoded
    rw [nothing, decodeFrom_end (d := d.recolor color viaColor) atEnd, decoded]
    simp [setsFirst]
  | succ count ih =>
    have below : d.idx < ops.length := by omega
    have present : ops[d.idx]? = some (ops[d.idx].1, ops[d.idx].2) :=
      List.getElem?_eq_getElem below
    have more : ops.drop d.idx = (ops[d.idx].1, ops[d.idx].2) :: ops.drop (d.idx + 1) :=
      List.drop_eq_getElem_cons below
    generalize ops[d.idx].1 = byte at present more
    generalize ops[d.idx].2 = value at present more
    cases kind : opOf byte with
    | none =>
      rcases stepOp_exists decoded (by omega) with ⟨d', found, step⟩
      rw [stepOp, nextOp_eq present] at step
      simp only [bind_eq_bind, bind_some, kind] at step
      cases step
    | some op =>
      have first : ∀ target, setsFirst target (ops.drop d.idx) =
          if op = target then true
          else if silentOp op then setsFirst target (ops.drop (d.idx + 1)) else false := by
        intro target
        rw [more, setsFirst, kind]
      rw [first, first]
      cases loud : silentOp op with
      | false =>
        have noColor : op ≠ .kColor := fun same => by simp [same, silentOp] at loud
        have noViaColor : op ≠ .kViaColor := fun same => by simp [same, silentOp] at loud
        rw [decodeFrom_loud color viaColor present kind loud decoded]
        simp [noColor, noViaColor]
      | true =>
        have passes : ∀ d' : WireDecoder, d'.idx = d.idx + 1 → ∀ c v, Decodes tech ops d [] d' →
            Decodes tech ops (d.recolor color viaColor) [] (d'.recolor c v) →
            ((d.recolor color viaColor).decodeFrom tech ops = some elements ↔
              (c = d'.color ∨ setsFirst .kColor (ops.drop (d.idx + 1)) = true) ∧
                (v = d'.viaColor ∨ setsFirst .kViaColor (ops.drop (d.idx + 1)) = true)) := by
          intro d' behind c v silent silent'
          rw [decodeFrom_silent silent']
          rw [decodeFrom_silent silent] at decoded
          have rest := ih c v d' (by omega) decoded (by omega)
          rw [behind] at rest
          exact rest
        cases op
        case kProperty =>
          simpa using passes _ rfl color viaColor (decodes_nop _ present kind (.inl rfl))
            (decodes_nop (d := d.recolor color viaColor) _ present kind (.inl rfl))
        case kNop =>
          simpa using passes _ rfl color viaColor (decodes_nop _ present kind (.inr rfl))
            (decodes_nop (d := d.recolor color viaColor) _ present kind (.inr rfl))
        case kColor =>
          simpa using passes _ rfl _ viaColor (decodes_color present kind)
            (decodes_color (d := d.recolor color viaColor) present kind)
        case kViaColor =>
          simpa using passes _ rfl color _ (decodes_viaColor present kind)
            (decodes_viaColor (d := d.recolor color viaColor) present kind)
        all_goals exact absurd loud (by decide)

end WireDecoder

/-- A used decoder reads like a new one exactly if no colour is left, or the wire sets them first.
-/
theorem reused_decoder_exact (tech : WireTech) (wire : List Op) (new used : DbWireDecoder)
    (elements : List Element) (isNew : new.IsNew)
    (decoded : new.decode tech wire = some elements) :
    used.decode tech wire = some elements ↔
      (used.color = none ∨ WireDecoder.setsFirst .kColor wire = true) ∧
        (used.viaColor = none ∨ WireDecoder.setsFirst .kViaColor wire = true) := by
  rw [DbWireDecoder.decode_view, isNew.1, isNew.2] at decoded
  rw [DbWireDecoder.decode_view]
  exact WireDecoder.recolored_decodes used.color used.viaColor WireDecoder.new (Nat.zero_le _)
    decoded

namespace DbWireDecoder

def sampleTech : WireTech := ⟨fun _ => 2, fun _ => 1, fun _ => 2, fun _ => 1⟩

def sample : DbWireDecoder :=
  ⟨[], sampleTech, 0, 0, true, false, none, 0, 0, 0, 0, .none, 0, .END_DECODE, 0, 0, 0, 0, 0,
    none, none⟩

def sampleColored : List Op :=
  [(WireOp.kPath.code, 1), (WireOp.kX.code, 0), (WireOp.kY.code, 0), (WireOp.kColor.code, 2),
    (WireOp.kX.code, 10), (WireOp.kProperty.code, 0)]

def samplePlain : List Op :=
  [(WireOp.kPath.code, 1), (WireOp.kX.code, 0), (WireOp.kY.code, 0)]

end DbWireDecoder

theorem reused_decoder_exact_sample : ∃ used,
    (DbWireDecoder.sample.begin DbWireDecoder.sampleTech DbWireDecoder.samplePlain).nexts 2 =
      some used ∧
    used.decode DbWireDecoder.sampleTech DbWireDecoder.sampleColored =
      DbWireDecoder.sample.decode DbWireDecoder.sampleTech DbWireDecoder.sampleColored := by
  refine ⟨_, rfl, ?_⟩
  exact (reused_decoder_exact DbWireDecoder.sampleTech DbWireDecoder.sampleColored
    DbWireDecoder.sample _ _ ⟨rfl, rfl⟩ rfl).mpr ⟨.inl rfl, .inl rfl⟩

/-- The colour of the first wire shows up on the second one, which has none. -/
theorem reused_decoder_keeps_color : ∃ used,
    (DbWireDecoder.sample.begin DbWireDecoder.sampleTech DbWireDecoder.sampleColored).nexts 4 =
      some used ∧
    (DbWireDecoder.sample.decode DbWireDecoder.sampleTech DbWireDecoder.samplePlain).map
      (·.map Element.color) = some [none, none] ∧
    (used.decode DbWireDecoder.sampleTech DbWireDecoder.samplePlain).map
      (·.map Element.color) = some [some 2, some 2] :=
  ⟨_, rfl, rfl, rfl⟩

end OpenRoad.Odb
