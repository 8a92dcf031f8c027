import OpenRoad.Dpl.Objects
import OpenRoad.Lib.Effects
import OpenRoad.Odb.Transform

/-! Mirroring instances about Y where that makes the nets shorter. -/

namespace OpenRoad.Dpl

open OpenRoad.Lib OpenRoad.Lib.Effect Function
open OpenRoad.Odb (DbOrientType DbTransform)

inductive PlacementStatus
  | NONE
  | UNPLACED
  | SUGGESTED
  | PLACED
  | LOCKED
  | FIRM
  | COVER
deriving DecidableEq

def PlacementStatus.isFixed : PlacementStatus → Bool
  | LOCKED | FIRM | COVER => true
  | _ => false

def PlacementStatus.getString : PlacementStatus → String
  | NONE => "NONE"
  | UNPLACED => "UNPLACED"
  | SUGGESTED => "SUGGESTED"
  | PLACED => "PLACED"
  | LOCKED => "LOCKED"
  | FIRM => "FIRM"
  | COVER => "COVER"

/-- `geometry` are the boxes of all pins of the master's terminal. -/
structure MirrorITerm where
  net : Option Nat
  geometry : List Odb.Rect

/-- `boundary` is the placement boundary of the master. -/
structure MirrorInst where
  name : String
  boundary : Odb.Rect
  status : PlacementStatus
  iterms : List MirrorITerm

/-- `pins` are the boxes of the placed pins of the net's block terminals. -/
structure MirrorNet where
  isSupply : Bool
  isSpecial : Bool
  pins : List Odb.Rect

structure MirrorBlock where
  instIds : List Nat
  insts : Nat → MirrorInst
  netIds : List Nat
  nets : Nat → MirrorNet
  distinct : netIds.Nodup
  connected : ∀ inst, ∀ iterm ∈ (insts inst).iterms, ∀ net, iterm.net = some net → net ∈ netIds

structure NetBox where
  box : Rect
  box_saved : Rect
  ignore : Bool
deriving DecidableEq

def NetBox.hpwl (netBox : NetBox) : Int :=
  (netBox.box.yMax - netBox.box.yMin) + (netBox.box.xMax - netBox.box.xMin)

/-- Where the instances stand, and `net_box_map_`. -/
structure MirrorState where
  orient : Nat → DbOrientType
  origin : Nat → Odb.Point
  boxes : Nat → NetBox

structure MirrorFault where
  id : Nat
  text : String
deriving DecidableEq

abbrev MirrorM (α : Type) := Effect MirrorState MirrorFault α

namespace MirrorBlock

variable (block : MirrorBlock)

def getTransform (s : MirrorState) (inst : Nat) : DbTransform :=
  ⟨s.orient inst, ⟨(s.origin inst).x, (s.origin inst).y, 0⟩, false⟩

def getBBox (s : MirrorState) (inst : Nat) : Odb.Rect :=
  (getTransform s inst).applyRect (block.insts inst).boundary

def getLocation (s : MirrorState) (inst : Nat) : Odb.Point := (block.getBBox s inst).ll

def getITerms (net : Nat) : List (Nat × MirrorITerm) :=
  block.instIds.flatMap fun inst =>
    ((block.insts inst).iterms.filter fun iterm => iterm.net = some net).map (inst, ·)

/-- The average of the corners of the terminal's boxes. -/
def getAvgXY (transform : DbTransform) (iterm : MirrorITerm) : Option (Int × Int) :=
  let rects : List Odb.Rect := iterm.geometry.map transform.applyRect
  if rects = [] then none
  else
    let nn : Int := 2 * rects.length
    some ((rects.map fun rect : Odb.Rect => rect.xlo + rect.xhi).sum.tdiv nn,
      (rects.map fun rect : Odb.Rect => rect.ylo + rect.yhi).sum.tdiv nn)

def center (rect : Odb.Rect) : Int × Int :=
  ((rect.xlo + rect.xhi).tdiv 2, (rect.ylo + rect.yhi).tdiv 2)

def itermPoint (s : MirrorState) (inst : Nat) (iterm : MirrorITerm) : Int × Int :=
  (getAvgXY (getTransform s inst) iterm).getD (center (block.getBBox s inst))

def getTermBBox (s : MirrorState) (net : Nat) : Rect :=
  let points := (block.getITerms net).map fun (inst, iterm) => block.itermPoint s inst iterm
  (points ++ (block.nets net).pins.map center).foldl (fun rect (x, y) => rect.merge x y)
    Rect.mergeInit

def setOrigin (inst : Nat) (origin : Odb.Point) : MirrorM Unit := do
  let s ← get
  let status := (block.insts inst).status
  if (status = .PLACED ∨ status.isFixed) ∧ s.origin inst = origin then pure ()
  else do
    check status.isFixed ⟨359, "Attempt to change the origin of " ++ status.getString ++
      " instance " ++ (block.insts inst).name⟩
    set { s with origin := update s.origin inst origin }

end MirrorBlock

namespace OptimizeMirroring

variable (block : MirrorBlock)

def mirror_max_iterm_count_ : Nat := 100

def isIgnored (net : Nat) : Bool :=
  (block.nets net).isSupply || (block.nets net).isSpecial ||
    decide (mirror_max_iterm_count_ < (block.getITerms net).length)

def orientMirrorY : DbOrientType → DbOrientType
  | .R0 => .MY
  | .MX => .R180
  | .MY => .R0
  | .R180 => .MX
  | .R90 => .MXR90
  | .MXR90 => .R90
  | .R270 => .MYR90
  | .MYR90 => .R270

def instNets (inst : Nat) : List Nat := (block.insts inst).iterms.filterMap MirrorITerm.net

def hpwl (s : MirrorState) (inst : Nat) : Int :=
  ((instNets block inst).map fun net =>
    if (s.boxes net).ignore then 0 else (s.boxes net).hpwl).sum

end OptimizeMirroring

end OpenRoad.Dpl
