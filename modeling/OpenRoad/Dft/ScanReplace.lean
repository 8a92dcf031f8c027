import Mathlib.Algebra.Order.AbsoluteValue.Basic
import Mathlib.Data.List.Basic
import Mathlib.Data.Rat.Cast.Order
import Mathlib.Order.WithBot

/-! How flops are replaced by scan flops, and put back. -/

namespace OpenRoad.Dft

structure LibertyPort where
  name : String
  isPwrGnd : Bool
  direction : Nat
  /-- The expression of an output. -/
  function : Option Nat
deriving DecidableEq

structure TestPort where
  name : String
  isScanSignal : Bool
deriving DecidableEq

structure TestCell where
  ports : List TestPort
  hasScanIn : Bool
  hasScanEnable : Bool
deriving DecidableEq

structure LibertyCell where
  /-- Where the cell is; maps of cells have this as their key. -/
  address : Nat
  ports : List LibertyPort
  testCell : Option TestCell
  hasSequentials : Bool
  dontUse : Bool
  isClockGate : Bool
deriving DecidableEq

def isScanCell (libertyCell : LibertyCell) : Bool :=
  match libertyCell.testCell with
  | none => false
  | some testCell => testCell.hasScanIn ∧ testCell.hasScanEnable

def LibertyCell.findLibertyPort (cell : LibertyCell) (name : String) : Option LibertyPort :=
  cell.ports.find? fun port => port.name = name

abbrev PortMapping := List (String × String)

/-- Like `std::unordered_map::insert`, which leaves an entry with the key alone. -/
def insertPort (mapping : PortMapping) (entry : String × String) : PortMapping :=
  if (mapping.lookup entry.1).isSome then mapping else mapping ++ [entry]

structure ScanCandidate where
  scanCell : LibertyCell
  portMapping : PortMapping
deriving DecidableEq

/-- The timing engine, the sort of the standard library and the orders of unordered containers. -/
structure Sta where
  libertyCell : Nat → Option LibertyCell
  staToDb : LibertyCell → Nat
  functionEquiv : Option Nat → Option Nat → Bool
  pgEquiv : LibertyPort → LibertyPort → Bool
  driveResistance : LibertyPort → ℚ
  sort : (ScanCandidate → WithTop ℚ) → List ScanCandidate → List ScanCandidate
  hashOrder : PortMapping → PortMapping
  sort_perm : ∀ difference candidates, (sort difference candidates).Perm candidates
  sort_sorted : ∀ difference candidates,
    (sort difference candidates).Pairwise fun lhs rhs => difference lhs ≤ difference rhs
  hash_perm : ∀ mapping, (hashOrder mapping).Perm mapping
  cell_of_master : ∀ master cell, libertyCell master = some cell →
    libertyCell (staToDb cell) = some cell

namespace Sta

variable (sta : Sta)

def portEquiv (nonScanPort scanPort : LibertyPort) : Bool :=
  nonScanPort.direction = scanPort.direction ∧
    if nonScanPort.function = none ∧ scanPort.function = none then nonScanPort.name = scanPort.name
    else sta.functionEquiv nonScanPort.function scanPort.function

def findEquivalentPortInScanCell (nonScanPort : LibertyPort) (scanCell : LibertyCell) :
    Option LibertyPort :=
  scanCell.ports.find? fun scanPort => ¬ scanPort.isPwrGnd ∧ sta.portEquiv nonScanPort scanPort

def findEquivalentPgPortInScanCell (nonScanPort : LibertyPort) (scanCell : LibertyCell) :
    Option LibertyPort :=
  scanCell.ports.find? fun scanPort => scanPort.isPwrGnd ∧ sta.pgEquiv nonScanPort scanPort

/-- Signals that the scan cell has beyond those of the other cell have to be scan signals. -/
def extraPortOk (scanCell : LibertyCell) (seenOnScanCell : List LibertyPort)
    (scanPort : LibertyPort) : Bool :=
  scanPort.isPwrGnd || seenOnScanCell.contains scanPort ||
    match scanCell.testCell with
    | none => false
    | some testCell =>
      match testCell.ports.find? fun testPort => testPort.name = scanPort.name with
      | none => false
      | some testPort => testPort.isScanSignal

/-- The port mapping, if the cells are equivalent. -/
def isScanEquivalent (nonScanCell scanCell : LibertyCell) : Option PortMapping := do
  let signals := nonScanCell.ports.filter fun port => ¬ port.isPwrGnd
  let seen ← signals.mapM fun port => sta.findEquivalentPortInScanCell port scanCell
  let pgPorts := nonScanCell.ports.filter fun port => port.isPwrGnd
  let pg ← pgPorts.mapM fun port => sta.findEquivalentPgPortInScanCell port scanCell
  guard (scanCell.ports.all (extraPortOk scanCell seen))
  let ports := signals.zip seen ++ pgPorts.zip pg
  some (ports.foldl (fun mapping pair => insertPort mapping (pair.1.name, pair.2.name)) [])

def usableCells (masters : List Nat) : List LibertyCell :=
  (masters.filterMap sta.libertyCell).filter fun cell =>
    cell.hasSequentials ∧ ¬ cell.dontUse ∧ ¬ cell.isClockGate

def availableScanLibCells (masters : List Nat) : List LibertyCell :=
  (sta.usableCells masters).filter isScanCell

def scanCandidates (masters : List Nat) (nonScanCell : LibertyCell) : List ScanCandidate :=
  (sta.availableScanLibCells masters).filterMap fun scanCell =>
    (sta.isScanEquivalent nonScanCell scanCell).map fun portMapping => ⟨scanCell, portMapping⟩

/-- The top stands for the largest double. -/
def differencePerformanceCells (nonScanCell scanCell : LibertyCell) : WithTop ℚ :=
  match nonScanCell.findLibertyPort "Q", scanCell.findLibertyPort "Q" with
  | some nonScanQ, some scanQ =>
    some |sta.driveResistance nonScanQ - sta.driveResistance scanQ|
  | _, _ => ⊤

/-- The first candidate after the sort; there is none if there are no candidates. -/
def selectBestScanCell (nonScanCell : LibertyCell) (candidates : List ScanCandidate) :
    Option ScanCandidate :=
  (sta.sort (fun candidate => sta.differencePerformanceCells nonScanCell candidate.scanCell)
    candidates).head?

/-- What `collectScanCellAvailable` finds for a cell. -/
def nonScanToScanLibCells (masters : List Nat) (cell : LibertyCell) : Option ScanCandidate :=
  if cell ∈ sta.usableCells masters ∧ ¬ isScanCell cell then
    sta.selectBestScanCell cell (sta.scanCandidates masters cell)
  else none

end Sta

structure ITerm where
  name : String
  net : Option Nat
  modNet : Option Nat
deriving DecidableEq

structure Transform where
  orient : Nat
  offset : Int × Int
deriving DecidableEq

structure Inst where
  block : Nat
  name : String
  master : Nat
  module : Option Nat
  region : Option Nat
  group : Option Nat
  transform : Transform
  placementStatus : Nat
  sourceType : Nat
  isDoNotTouch : Bool
  isHierarchical : Bool
  hasScanInst : Bool
  iterms : List ITerm
deriving DecidableEq

abbrev InstKey := Nat × String

def Inst.key (inst : Inst) : InstKey := (inst.block, inst.name)

def populatePortNameToNet (inst : Inst) : List (String × Option Nat) :=
  inst.iterms.map fun iterm => (iterm.name, iterm.net)

abbrev Design := InstKey → Option Inst

structure Db where
  mterms : Nat → List String
  topModule : Nat → Nat
  netDoNotTouch : Nat → Bool
  mterms_nodup : ∀ master, (mterms master).Nodup

namespace Db

variable (db : Db)

/-- A new instance without connections; there is none if the block has one of the name. -/
def create (design : Design) (block master : Nat) (name : String) (module : Option Nat) :
    Option Inst :=
  if (design (block, name)).isSome then none
  else some
    { block := block
      name := name
      master := master
      module := some (module.getD (db.topModule block))
      region := none
      group := none
      transform := ⟨0, (0, 0)⟩
      placementStatus := 0
      sourceType := 0
      isDoNotTouch := false
      isHierarchical := false
      hasScanInst := false
      iterms := (db.mterms master).map fun mterm => ⟨mterm, none, none⟩ }

/-- Only the flat net of the pin is set. A pin that the instance does not have stops this, and a net
that is not to be touched. -/
def connect (inst : Inst) (port : String) (net : Nat) : Option Inst :=
  match inst.iterms.find? fun iterm => iterm.name = port with
  | none => none
  | some iterm =>
    if iterm.net = some net then some inst
    else if inst.isDoNotTouch ∨ db.netDoNotTouch net then none
    else some { inst with
      iterms := inst.iterms.map fun iterm =>
        if iterm.name = port then { iterm with net := some net } else iterm }

/-- A connected port that the mapping does not have stops this. -/
def connectPin (portMapping : PortMapping) (inst : Inst) (pin : String × Option Nat) :
    Option Inst :=
  match pin.2 with
  | none => some inst
  | some net =>
    match portMapping.lookup pin.1 with
    | none => none
    | some port => db.connect inst port net

def connectPinsToNets (inst : Inst) (portNameToNet : List (String × Option Nat))
    (portMapping : PortMapping) : Option Inst :=
  portNameToNet.foldlM (db.connectPin portMapping) inst

def canDestroy (inst : Inst) : Bool :=
  ¬ inst.isDoNotTouch ∧ ¬ inst.hasScanInst ∧
    inst.iterms.all fun iterm => iterm.net.all fun net => ¬ db.netDoNotTouch net

/-- The new instance takes the name of the old one when that is gone. -/
def replaceCell (design : Design) (oldInstance : Inst) (newMaster : Nat)
    (portMapping : PortMapping) : Option Design := do
  let portNameToNet := populatePortNameToNet oldInstance
  let newInstance ← db.create design oldInstance.block newMaster "tmp_scan_flop" oldInstance.module
  let newInstance :=
    { newInstance with
      transform := oldInstance.transform
      placementStatus := oldInstance.placementStatus
      sourceType := oldInstance.sourceType
      region := oldInstance.region
      group := oldInstance.group }
  guard (db.canDestroy oldInstance)
  let newInstance ← db.connectPinsToNets newInstance portNameToNet portMapping
  some (Function.update design oldInstance.key (some { newInstance with name := oldInstance.name }))

def haveDontTouchNets (inst : Inst) : Bool :=
  inst.iterms.any fun iterm => iterm.net.any db.netDoNotTouch

end Db

structure RollbackCandidate where
  master : Nat
  portMapping : PortMapping
deriving DecidableEq

abbrev RollbackCandidates := List (Nat × RollbackCandidate)

structure ReplaceState where
  design : Design
  alreadyReplaced : List InstKey
  rollbackCandidates : RollbackCandidates

section Replace

variable (db : Db) (sta : Sta) (masters : List Nat)

/-- The scan candidate of an instance, unless it is passed over. -/
def scanCandidateOf (inst : Inst) : Option ScanCandidate :=
  if inst.isDoNotTouch ∨ db.haveDontTouchNets inst ∨ inst.isHierarchical then none
  else
    match sta.libertyCell inst.master with
    | none => none
    | some fromLibertyCell =>
      if ¬ fromLibertyCell.hasSequentials ∨ fromLibertyCell.isClockGate then none
      else if fromLibertyCell ∈ sta.availableScanLibCells masters then none
      else sta.nonScanToScanLibCells masters fromLibertyCell

def flipPorts (portMapping : PortMapping) : PortMapping :=
  (sta.hashOrder portMapping).foldl (fun mapping entry => insertPort mapping (entry.2, entry.1)) []

/-- The first master that is replaced by a scan cell is the one it is put back to. -/
def addCellForRollback (master masterScanCell : Nat) (scanCandidate : ScanCandidate)
    (rollbackCandidates : RollbackCandidates) : RollbackCandidates :=
  if (rollbackCandidates.lookup masterScanCell).isSome then rollbackCandidates
  else rollbackCandidates ++ [(masterScanCell, ⟨master, flipPorts sta scanCandidate.portMapping⟩)]

/-- The visit of an instance; one that was just created may be met again. -/
def scanReplaceInst (s : ReplaceState) (key : InstKey) : Option ReplaceState :=
  match s.design key with
  | none => some s
  | some inst =>
    if key ∈ s.alreadyReplaced then some s
    else
      match scanCandidateOf db sta masters inst with
      | none => some s
      | some scanCandidate => do
        let masterScanCell := sta.staToDb scanCandidate.scanCell
        let design ← db.replaceCell s.design inst masterScanCell scanCandidate.portMapping
        some
          { design := design
            alreadyReplaced := key :: s.alreadyReplaced
            rollbackCandidates := addCellForRollback sta inst.master masterScanCell
              scanCandidate s.rollbackCandidates }

def scanReplace (visits : List InstKey) (design : Design) : Option ReplaceState :=
  visits.foldlM (scanReplaceInst db sta masters) ⟨design, [], []⟩

def rollbackInst (rollbackCandidates : RollbackCandidates) (design : Design) (key : InstKey) :
    Option Design :=
  match design key with
  | none => some design
  | some inst =>
    match rollbackCandidates.lookup inst.master with
    | none => some design
    | some candidate => db.replaceCell design inst candidate.master candidate.portMapping

def rollbackScanReplace (rollbackCandidates : RollbackCandidates) (visits : List InstKey)
    (design : Design) : Option Design :=
  visits.foldlM (rollbackInst db rollbackCandidates) design

end Replace

end OpenRoad.Dft
