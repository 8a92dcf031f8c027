import OpenRoad.Lib.Effects
import OpenRoad.Lib.Words

/-! Writing the bump map of a chip region and reading it back. -/

namespace OpenRoad.Odb

open OpenRoad.Lib OpenRoad.Lib.Effect OpenRoad.Lib.Words Function

/-- A value of type `int`. -/
abbrev CInt := { value : Int // -2 ^ 31 ≤ value ∧ value < 2 ^ 31 }

inductive BumpStatus where
  | NONE | UNPLACED | SUGGESTED | PLACED | LOCKED | FIRM | COVER
  deriving DecidableEq

def BumpStatus.isPlaced (status : BumpStatus) : Bool :=
  status ∈ [.PLACED, .LOCKED, .FIRM, .COVER]

def BumpStatus.isFixed (status : BumpStatus) : Bool := status ∈ [.LOCKED, .FIRM, .COVER]

structure BumpMaster where
  name : Text
  tech : Nat
  width : Int
  height : Int
  x : Int
  y : Int
  mterms : Nat

/-- `xCenter` and `yCenter` of the placement boundary: the size from the origin, moved by the origin of
the master. -/
def BumpMaster.xCenter (master : BumpMaster) : Int := (-master.x + (master.width - master.x)).tdiv 2

def BumpMaster.yCenter (master : BumpMaster) : Int :=
  (-master.y + (master.height - master.y)).tdiv 2

/-- An instance; `iterm` is the net of its first terminal, if it has terminals. -/
structure BumpInst where
  master : BumpMaster
  x : CInt
  y : CInt
  status : BumpStatus
  dont_touch : Bool
  iterm : Option (Option Text)

structure ChipBump where
  inst : Text
  bterm : Option Text
  net : Option Text
  deriving DecidableEq

structure BumpBlock where
  insts : Text → Option BumpInst
  nets : Text → Option Bool
  bterms : Text → Option (Option Text)
  bumps : List ChipBump

structure BumpChip where
  dbu_per_micron : Fin (2 ^ 32)
  tech : Nat
  offset_x : Int
  offset_y : Int
  findMaster : Text → Option BumpMaster

structure BumpMapEntry where
  bump_inst_name : Text
  bump_cell_type : Text
  x : Rat
  y : Rat
  port_name : Text
  net_name : Text

/-- An error of the logger by its number, or an operation without a defined result. -/
inductive BumpFault where
  | error (id : Nat)
  | undefined
  deriving DecidableEq

abbrev BumpM (α : Type) := Effect BumpBlock BumpFault α

def bumpError {α : Type} (id : Nat) : BumpM α := throw (.error id)

def required {α : Type} (fault : BumpFault) : Option α → BumpM α
  | none => throw fault
  | some value => pure value

/-- A coordinate divided by the factor, both as `uint32_t`. -/
def writtenCoordinate (u : Fin (2 ^ 32)) (coordinate : CInt) : Nat :=
  (coordinate.val % 2 ^ 32).toNat / u.val

/-- A name, or `-`. -/
def nameOrDash (name : Option Text) : Text := name.getD ['-']

def writeLine (chip : BumpChip) (bump : ChipBump) (inst : BumpInst) : Text :=
  joined [bump.inst, inst.master.name,
    Nat.toDigits 10 (writtenCoordinate chip.dbu_per_micron inst.x),
    Nat.toDigits 10 (writtenCoordinate chip.dbu_per_micron inst.y),
    nameOrDash bump.bterm, nameOrDash bump.net]

def writeFile (chip : BumpChip) : List ChipBump → BumpM Text
  | [] => pure []
  | bump :: rest => do
    let block ← get
    let inst ← required .undefined (block.insts bump.inst)
    check (chip.dbu_per_micron = 0) .undefined
    let text ← writeFile chip rest
    pure (writeLine chip bump inst ++ '\n' :: text)

def parseBumpMapLine (line : Text) : Except BumpFault BumpMapEntry :=
  match words line with
  | [inst, cell, x, y, port, net] =>
    match stodDecimal x, stodDecimal y with
    | some x, some y => .ok ⟨inst, cell, x, y, port, net⟩
    | _, _ => .error (.error 537)
  | _ => .error (.error 536)

def parseLines : List Text → Except BumpFault (List BumpMapEntry)
  | [] => .ok []
  | line :: rest =>
    if line = [] ∨ line.head? = some '#' then parseLines rest
    else do
      let entry ← parseBumpMapLine line
      let entries ← parseLines rest
      pure (entry :: entries)

def parseBumpMapContent (content : Text) : Except BumpFault (List BumpMapEntry) :=
  parseLines (lines content)

/-- `std::roundAway`: halves go away from zero. -/
def roundAway (value : Rat) : Int :=
  if 0 ≤ value then (value + 1 / 2).floor else -(-value + 1 / 2).floor

/-- The conversion of a whole `double` to `int`. -/
def toInt (value : Int) : Option CInt :=
  if range : -2 ^ 31 ≤ value ∧ value < 2 ^ 31 then some ⟨value, range⟩ else none

/-- `const int dbu_per_micron`. -/
def dbuInt (u : Fin (2 ^ 32)) : Int := if u.val < 2 ^ 31 then u.val else u.val - 2 ^ 32

/-- The products are exact for the numbers that `writeFile` writes. -/
def readCoordinate (chip : BumpChip) (value : Rat) (center offset : Int) : Option CInt :=
  toInt (roundAway (value * dbuInt chip.dbu_per_micron) - center + offset)

def newInst (master : BumpMaster) : BumpInst where
  master := master
  x := ⟨0, by decide⟩
  y := ⟨0, by decide⟩
  status := .NONE
  dont_touch := false
  iterm := if master.mterms = 0 then none else some none

def setInst (name : Text) (inst : BumpInst) : BumpM Unit :=
  modify fun block => { block with insts := update block.insts name (some inst) }

def findOrCreateInst (chip : BumpChip) (entry : BumpMapEntry) : BumpM BumpInst := do
  let block ← get
  match block.insts entry.bump_inst_name with
  | some inst => pure inst
  | none => do
    let master ← required (.error 531) (chip.findMaster entry.bump_cell_type)
    check (master.tech ≠ chip.tech) (.error 532)
    setInst entry.bump_inst_name (newInst master)
    pure (newInst master)

/-- `dbInst::setOrigin` on the fields of an instance. -/
def setOrigin (inst : BumpInst) (x y : CInt) : BumpM BumpInst :=
  if inst.status.isPlaced ∧ inst.x = x ∧ inst.y = y then pure inst
  else if inst.status.isFixed then bumpError 359
  else pure { inst with x := x, y := y }

/-- The bump is created and its instance put where the entry says. -/
def placeBump (chip : BumpChip) (entry : BumpMapEntry) : BumpM Unit := do
  let inst ← findOrCreateInst chip entry
  modify fun block => { block with bumps := ⟨entry.bump_inst_name, none, none⟩ :: block.bumps }
  let x ← required .undefined (readCoordinate chip entry.x inst.master.xCenter chip.offset_x)
  let y ← required .undefined (readCoordinate chip entry.y inst.master.yCenter chip.offset_y)
  let moved ← setOrigin inst x y
  setInst entry.bump_inst_name { moved with status := .FIRM }

/-- `connectTerminal` of a terminal: nothing if it is on the net; an error if it, its net or the new net must
not be touched. -/
def connectTerminal (locked : Bool) (refused onNet offNet : Nat) (nets : Text → Option Bool)
    (current : Option Text) (net : Text) : Except BumpFault (Option Text) :=
  if current = some net then .ok current
  else if locked then .error (.error refused)
  else if nets net = some true then .error (.error onNet)
  else if (current.bind nets) = some true then .error (.error offNet)
  else .ok (some net)

def connectITerm (inst : BumpInst) (current : Option Text) (net : Text) (nets : Text → Option Bool) :
    Except BumpFault (Option Text) :=
  connectTerminal inst.dont_touch 369 373 1105 nets current net

def connectBTerm (current : Option Text) (net : Text) (nets : Text → Option Bool) :
    Except BumpFault (Option Text) :=
  connectTerminal false 0 377 1106 nets current net

def modifyBump (f : ChipBump → ChipBump) : BumpM Unit :=
  modify fun block => { block with bumps := block.bumps.modifyHead f }

def liftExcept {α : Type} : Except BumpFault α → BumpM α
  | .error fault => throw fault
  | .ok value => pure value

/-- The net of an entry: found or created, set at the bump and connected to the first terminal. -/
def bumpNet (entry : BumpMapEntry) : BumpM (Option Text) := do
  if entry.net_name = ['-'] then pure none
  else do
    modify fun block => { block with
      nets := update block.nets entry.net_name
        (some ((block.nets entry.net_name).getD false)) }
    modifyBump fun bump => { bump with net := some entry.net_name }
    let block ← get
    let inst ← required .undefined (block.insts entry.bump_inst_name)
    match inst.iterm with
    | none => pure ()
    | some current => do
      let net ← liftExcept (connectITerm inst current entry.net_name block.nets)
      setInst entry.bump_inst_name { inst with iterm := some net }
    pure (some entry.net_name)

def setBTerm (name : Text) (net : Option Text) : BumpM Unit :=
  modify fun block => { block with bterms := update block.bterms name (some net) }

/-- The port of an entry: found, or created on the net, set at the bump and connected. -/
def bumpPort (entry : BumpMapEntry) (net : Option Text) : BumpM Unit := do
  if entry.port_name = ['-'] then pure ()
  else do
    let block ← get
    match block.bterms entry.port_name, net with
    | none, none => pure ()
    | none, some net => do
      check (block.nets net = some true) (.error 376)
      setBTerm entry.port_name (some net)
      modifyBump fun bump => { bump with bterm := some entry.port_name }
    | some _, none => modifyBump fun bump => { bump with bterm := some entry.port_name }
    | some current, some net => do
      modifyBump fun bump => { bump with bterm := some entry.port_name }
      let connected ← liftExcept (connectBTerm current net block.nets)
      setBTerm entry.port_name connected

def createBump (chip : BumpChip) (entry : BumpMapEntry) : BumpM Unit := do
  placeBump chip entry
  let net ← bumpNet entry
  bumpPort entry net

/-- Write the bumps of a region to a file and read the file back. -/
def writeAndRead (chip : BumpChip) (bumps : List ChipBump) : BumpM Unit := do
  let content ← writeFile chip bumps
  let entries ← liftExcept (parseBumpMapContent content)
  forM entries (createBump chip)

def bumpCell : BumpMaster := ⟨"BUMP".toList, 1, 20, 20, 0, 0, 1⟩

/-- Two instances with a port and a net each; the second one is not connected yet. -/
def twoBumpBlock : BumpBlock where
  insts name :=
    if name = "b1".toList then
      some ⟨bumpCell, ⟨2000, by decide⟩, ⟨0, by decide⟩, .FIRM, false, some (some "n1".toList)⟩
    else if name = "b2".toList then
      some ⟨bumpCell, ⟨4000, by decide⟩, ⟨6000, by decide⟩, .PLACED, false, some none⟩
    else none
  nets name := if name = "n1".toList ∨ name = "n2".toList then some false else none
  bterms name :=
    if name = "p1".toList then some (some "n1".toList)
    else if name = "p2".toList then some none
    else none
  bumps := []

def oneBump : ChipBump := ⟨"b1".toList, some "p1".toList, some "n1".toList⟩

def otherBump : ChipBump := ⟨"b2".toList, some "p2".toList, some "n2".toList⟩

def bumpChip (offset : Int) : BumpChip := ⟨1000, 1, offset, offset, fun _ => none⟩

end OpenRoad.Odb
