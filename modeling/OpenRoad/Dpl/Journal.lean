import OpenRoad.Dpl.Objects
import Mathlib.Algebra.Order.Ring.Rat

/-! Placement moves on cells, grid and segments, and the journal that undoes them. -/

namespace OpenRoad.Dpl

open Function

structure Pixel where
  cell : Option Nat
  util : ℚ
  padding_reserved_by : Option Nat
deriving DecidableEq

structure Grid where
  site_width : Int
  row_index_to_y_dbu : List Int
  core_yMax : Int
  row_site_count : Int
  row_count : Int
  row_sites : Int → Int → Nat → Option OrientType

def divCeil (dividend divisor : Int) : Int := -((-dividend) / divisor)

def Grid.gridX (grid : Grid) (x : Int) : Int := x.tdiv grid.site_width

def Grid.gridWidth (grid : Grid) (cell : Node) : Int := divCeil cell.width grid.site_width

def Grid.gridPaddedX (grid : Grid) (cell : Node) : Int :=
  grid.gridX (cell.left - cell.padLeft * grid.site_width)

def Grid.gridPaddedEndX (grid : Grid) (cell : Node) : Int :=
  divCeil (cell.left + cell.width + cell.padRight * grid.site_width) grid.site_width

/-- The last row that does not begin above `y`. -/
def Grid.gridSnapDownY (grid : Grid) (y : Int) : Int :=
  ((grid.row_index_to_y_dbu.takeWhile (· ≤ y)).length - 1 : Nat)

def Grid.rowY (grid : Grid) (grid_y : Int) : Int := grid.row_index_to_y_dbu.getD grid_y.toNat 0

def Grid.gridRoundY (grid : Grid) (y : Int) : Int :=
  let grid_y := grid.gridSnapDownY y
  if grid_y < grid.row_index_to_y_dbu.length - 1 ∧
      |grid.rowY grid_y - y| ≥ |grid.rowY (grid_y + 1) - y| then grid_y + 1
  else grid_y

/-- The first row that does not begin below `y`. -/
def Grid.gridEndY (grid : Grid) (y : Int) : Int :=
  (grid.row_index_to_y_dbu.takeWhile (· < y)).length

def Grid.gridYToDbu (grid : Grid) (grid_y : Int) : Int :=
  if grid_y = grid.row_index_to_y_dbu.length then grid.core_yMax else grid.rowY grid_y

def Grid.Inside (grid : Grid) (x y : Int) : Prop :=
  0 ≤ x ∧ x < grid.row_site_count ∧ 0 ≤ y ∧ y < grid.row_count

instance (grid : Grid) (x y : Int) : Decidable (grid.Inside x y) :=
  inferInstanceAs (Decidable (_ ∧ _))

/-- The orientation of a site; asking for one that is not there throws. -/
def Grid.getSiteOrientation (grid : Grid) (x y : Int) (site : Nat) : Except String OrientType :=
  match grid.row_sites y x site with
  | some orient => .ok orient
  | none => .error "bad optional access"

structure PlacementState where
  nodes : Nat → Node
  pixels : Int → Int → Pixel
  cellsInSeg : Int → List Nat
  segUtil : Int → Int
  reverseCellToSegs : Nat → List Int

def PlacementState.setNode (s : PlacementState) (n : Nat) (node : Node) : PlacementState :=
  { s with nodes := update s.nodes n node }

@[simp] lemma PlacementState.setNode_nodes (s : PlacementState) (n : Nat) (node : Node) :
    (s.setNode n node).nodes = update s.nodes n node := rfl

/-- What `erasePixel` walks over: the cell and its padding. -/
def Grid.coversPadded (grid : Grid) (cell : Node) (x y : Int) : Prop :=
  (grid.gridPaddedX cell ≤ x ∧ x < grid.gridPaddedEndX cell) ∧
    grid.gridSnapDownY cell.bottom ≤ y ∧ y < grid.gridEndY (cell.bottom + cell.height)

instance (grid : Grid) (cell : Node) (x y : Int) : Decidable (grid.coversPadded cell x y) :=
  inferInstanceAs (Decidable (_ ∧ _))

def erasePixel (grid : Grid) (n : Nat) (s : PlacementState) : PlacementState :=
  { s with
    pixels := fun x y =>
      let pixel := s.pixels x y
      if grid.Inside x y ∧ grid.coversPadded (s.nodes n) x y then
        { cell := if pixel.cell = some n then none else pixel.cell
          util := if pixel.cell = some n then 0 else pixel.util
          padding_reserved_by :=
            if pixel.padding_reserved_by = some n then none else pixel.padding_reserved_by }
      else pixel }

/-- The rows that a cell is painted over when its lowest row is `grid_y`. -/
def Grid.paintsRow (grid : Grid) (cell : Node) (grid_y y : Int) : Prop :=
  grid_y ≤ y ∧ y < grid.gridEndY (grid.gridYToDbu grid_y + cell.height)

instance (grid : Grid) (cell : Node) (grid_y y : Int) : Decidable (grid.paintsRow cell grid_y y) :=
  inferInstanceAs (Decidable (_ ∧ _))

/-- The cell, and its padding on both sides. -/
def paintPixel (grid : Grid) (n : Nat) (grid_x grid_y : Int) (s : PlacementState) :
    PlacementState :=
  let cell := s.nodes n
  let cell_x_end := grid_x + grid.gridWidth cell
  { s with
    pixels := fun x y =>
      let pixel := s.pixels x y
      if grid.Inside x y ∧ grid.paintsRow cell grid_y y then
        let painted := if grid_x ≤ x ∧ x < cell_x_end then
          { pixel with cell := some n, util := 1 } else pixel
        if grid_x - cell.padLeft ≤ x ∧ x < grid_x ∨ cell_x_end ≤ x ∧ x < cell_x_end + cell.padRight then
          { painted with padding_reserved_by := some n }
        else painted
      else pixel }

def segmentError (msg : String) : String := "Detailed improvement internal error: " ++ msg ++ "."

def removeCellFromSegment (n : Nat) (seg : Int) (s : PlacementState) :
    Except String PlacementState :=
  if n ∉ s.cellsInSeg seg then .error (segmentError "Cell not found in expected segment")
  else if seg ∉ s.reverseCellToSegs n then .error (segmentError "Cannot find segment for cell")
  else .ok { s with
    reverseCellToSegs := update s.reverseCellToSegs n ((s.reverseCellToSegs n).erase seg)
    cellsInSeg := update s.cellsInSeg seg ((s.cellsInSeg seg).erase n)
    segUtil := update s.segUtil seg (s.segUtil seg - (s.nodes n).width) }

/-- `h / rowHeight` rounded to the nearest number, halves away from zero. -/
def lround (h rowHeight : Int) : Int :=
  if 0 ≤ h then (2 * h + rowHeight) / (2 * rowHeight)
  else -((2 * -h + rowHeight) / (2 * rowHeight))

structure DetailedMgr where
  grid : Grid
  rowHeight : Int
  moveLimit : Nat
  maxDispX : Int
  maxDispY : Int
  singleHeightCells : List Nat
  multiHeightCells : List (List Nat)

def DetailedMgr.getCellHeightInRows (mgr : DetailedMgr) (node : Node) : Int :=
  lround node.height mgr.rowHeight

/-- The cell goes in front of the first one whose centre is not to the left of its own. -/
def addCellToSegment (mgr : DetailedMgr) (n : Nat) (seg : Int) (s : PlacementState) :
    Except String PlacementState :=
  let cells := s.cellsInSeg seg
  let place := (cells.takeWhile fun c => (s.nodes c).getCenterX < (s.nodes n).getCenterX).length
  if seg ∈ s.reverseCellToSegs n then
    .error (segmentError "Segment already present in cell to segment map")
  else if (s.reverseCellToSegs n).length ≥ mgr.getCellHeightInRows (s.nodes n) then
    .error (segmentError "Cell to segment map incorrectly sized")
  else .ok { s with
    cellsInSeg := update s.cellsInSeg seg (cells.insertIdx place n)
    segUtil := update s.segUtil seg (s.segUtil seg + (s.nodes n).width)
    reverseCellToSegs := update s.reverseCellToSegs n (s.reverseCellToSegs n ++ [seg]) }

inductive JournalAction
  | moveCell (node : Nat) (orig_x orig_y new_x new_y : Int) (was_placed : Bool)
      (orig_segs new_segs : List Int)
  | unplaceCell (node : Nat) (was_hold : Bool)
deriving DecidableEq

def JournalAction.getNode : JournalAction → Nat
  | moveCell node .. => node
  | unplaceCell node _ => node

structure Journal where
  actions : List JournalAction
  affected_nodes : List Nat
  affected_edges : List Nat
deriving DecidableEq

def Journal.empty : Journal := ⟨[], [], []⟩

def Journal.addAction (journal : Journal) (node : Node) (action : JournalAction) : Journal :=
  { actions := journal.actions ++ [action]
    affected_nodes := journal.affected_nodes.insert action.getNode
    affected_edges := node.pins.foldl (fun edges pin => edges.insert pin.edge)
      journal.affected_edges }

/-- A cell is painted where it lies and takes the orientation of its site there. -/
def paintAt (grid : Grid) (n : Nat) (grid_y : Int) (s : PlacementState) :
    Except String PlacementState := do
  let grid_x := grid.gridX (s.nodes n).left
  let orientation ← grid.getSiteOrientation grid_x grid_y (s.nodes n).site
  let s := paintPixel grid n grid_x grid_y s
  .ok (s.setNode n ((s.nodes n).adjustCurrOrient orientation))

def Journal.paintInGrid (grid : Grid) (n : Nat) (s : PlacementState) :
    Except String PlacementState := paintAt grid n (grid.gridRoundY (s.nodes n).bottom) s

def DetailedMgr.paintInGrid (mgr : DetailedMgr) (n : Nat) (s : PlacementState) :
    Except String PlacementState := paintAt mgr.grid n (mgr.grid.gridSnapDownY (s.nodes n).bottom) s

def removeFromSegments (n : Nat) (segs : List Int) (s : PlacementState) :
    Except String PlacementState :=
  segs.foldlM (fun s seg => if seg < 0 then .ok s else removeCellFromSegment n seg s) s

def addToSegments (mgr : DetailedMgr) (n : Nat) (segs : List Int) (s : PlacementState) :
    Except String PlacementState :=
  segs.foldlM (fun s seg => if seg < 0 then .ok s else addCellToSegment mgr n seg s) s

def PlacementState.moveTo (s : PlacementState) (n : Nat) (x y : Int) : PlacementState :=
  s.setNode n { s.nodes n with left := x, bottom := y }

def PlacementState.setPlaced (s : PlacementState) (n : Nat) (placed : Bool) : PlacementState :=
  s.setNode n { s.nodes n with placed := placed }

def PlacementState.setHold (s : PlacementState) (n : Nat) (hold : Bool) : PlacementState :=
  s.setNode n { s.nodes n with hold := hold }

def undoAction (mgr : DetailedMgr) (positions_only : Bool) (s : PlacementState) :
    JournalAction → Except String PlacementState
  | .moveCell n orig_x orig_y _ _ was_placed orig_segs new_segs => do
    let s ← if positions_only then .ok s
      else removeFromSegments n new_segs (erasePixel mgr.grid n s)
    let s := s.moveTo n orig_x orig_y
    if ¬ was_placed then .ok (s.setPlaced n false)
    else if positions_only then .ok s
    else do
      let s ← Journal.paintInGrid mgr.grid n s
      addToSegments mgr n orig_segs s
  | .unplaceCell n was_hold =>
    let s := paintPixel mgr.grid n (mgr.grid.gridX (s.nodes n).left)
      (mgr.grid.gridSnapDownY (s.nodes n).bottom) s
    .ok ((s.setPlaced n true).setHold n was_hold)

def redoAction (mgr : DetailedMgr) (positions_only : Bool) (s : PlacementState) :
    JournalAction → Except String PlacementState
  | .moveCell n _ _ new_x new_y _ orig_segs new_segs => do
    let s ← if positions_only then .ok s
      else removeFromSegments n orig_segs (erasePixel mgr.grid n s)
    let s := s.moveTo n new_x new_y
    if positions_only then .ok s
    else do
      let s ← Journal.paintInGrid mgr.grid n s
      addToSegments mgr n new_segs s
  | .unplaceCell n _ =>
    let s := erasePixel mgr.grid n s
    .ok ((s.setPlaced n false).setHold n false)

def Journal.undo (mgr : DetailedMgr) (positions_only : Bool) (journal : Journal)
    (s : PlacementState) : Except String PlacementState :=
  journal.actions.reverse.foldlM (undoAction mgr positions_only) s

def Journal.redo (mgr : DetailedMgr) (positions_only : Bool) (journal : Journal)
    (s : PlacementState) : Except String PlacementState :=
  journal.actions.foldlM (redoAction mgr positions_only) s

def DetailedMgr.checkSiteOrientation (mgr : DetailedMgr) (node : Node) (x y : Int) : Bool :=
  (mgr.grid.row_sites (mgr.grid.gridSnapDownY y) (mgr.grid.gridX x) node.site).isSome

/-- A move of one cell that is carried out and put into the journal. -/
def commitMove (mgr : DetailedMgr) (n : Nat) (curLeft curBottom : Int) (curSegs : List Int)
    (newLeft newBottom : Int) (newSegs : List Int) (s : PlacementState) (journal : Journal)
    (remove : Nat → List Int → PlacementState → Except String PlacementState)
    (add : Nat → List Int → PlacementState → Except String PlacementState) :
    Except String (PlacementState × Journal) := do
  let s ← remove n curSegs (erasePixel mgr.grid n s)
  let s ← mgr.paintInGrid n (s.moveTo n newLeft newBottom)
  let s ← add n newSegs s
  .ok (s, journal.addAction (s.nodes n)
    (.moveCell n curLeft curBottom newLeft newBottom true curSegs newSegs))

/-- The move of a cell in one segment, within the limits of displacement. -/
def addToMoveList (mgr : DetailedMgr) (n : Nat) (curLeft curBottom : Int) (curSeg : Int)
    (newLeft newBottom : Int) (newSeg : Int) (s : PlacementState) (journal : Journal) :
    Except String (Option (PlacementState × Journal)) :=
  let node := s.nodes n
  if journal.actions.length ≥ mgr.moveLimit then .ok none
  else if ¬ mgr.checkSiteOrientation node newLeft newBottom then .ok none
  else if |newLeft - node.orig_left| > mgr.maxDispX ∨ |newBottom - node.orig_bottom| > mgr.maxDispY then
    .ok none
  else do
    let moved ← commitMove mgr n curLeft curBottom [curSeg] newLeft newBottom [newSeg] s journal
      removeFromSegments (addToSegments mgr)
    .ok (some moved)

/-- The move of a cell in several segments. -/
def addToMoveListSegs (mgr : DetailedMgr) (n : Nat) (curLeft curBottom : Int) (curSegs : List Int)
    (newLeft newBottom : Int) (newSegs : List Int) (s : PlacementState) (journal : Journal) :
    Except String (Option (PlacementState × Journal)) :=
  if journal.actions.length ≥ mgr.moveLimit then .ok none
  else if ¬ mgr.checkSiteOrientation (s.nodes n) newLeft newBottom then .ok none
  else do
    let moved ← commitMove mgr n curLeft curBottom curSegs newLeft newBottom newSegs s journal
      (fun n segs s => segs.foldlM (fun s seg => removeCellFromSegment n seg s) s)
      (fun n segs s => segs.foldlM (fun s seg => addCellToSegment mgr n seg s) s)
    .ok (some moved)

def rejectMove (mgr : DetailedMgr) (journal : Journal) (s : PlacementState) :
    Except String (PlacementState × Journal) := do
  let s ← journal.undo mgr false s
  .ok (s, Journal.empty)

end OpenRoad.Dpl
