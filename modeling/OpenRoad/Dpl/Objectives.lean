import OpenRoad.Dpl.Journal
import OpenRoad.Lib.Runs

/-! The objectives of detailed placement: wire length and displacement, recomputed and by deltas. -/

namespace OpenRoad.Dpl

open OpenRoad.Lib

structure Network where
  numNodes : Nat
  edges : List (List (Nat × Nat))
deriving DecidableEq

def pinPoint (nodes : Nat → Node) (pin : Nat × Nat) : Int × Int :=
  let node := nodes pin.1
  match node.pins[pin.2]? with
  | some pin => (node.getCenterX + pin.offsetX, node.getCenterY + pin.offsetY)
  | none => (node.getCenterX, node.getCenterY)

def hpwl (nodes : Nat → Node) (pins : List (Nat × Nat)) : Int :=
  let rect := pins.foldl (fun rect pin =>
    rect.merge (pinPoint nodes pin).1 (pinPoint nodes pin).2) Rect.mergeInit
  (rect.xMax - rect.xMin) + (rect.yMax - rect.yMin)

def Network.getEdge (network : Network) (edge : Nat) : List (Nat × Nat) :=
  network.edges.getD edge []

def Network.edgeHpwl (network : Network) (nodes : Nat → Node) (edge : Nat) : Int :=
  hpwl nodes (network.getEdge edge)

def skipNetsLargerThanThis : Nat := 100

def Network.counts (network : Network) (edge : Nat) : Bool :=
  ¬ ((network.getEdge edge).length ≤ 1 ∨ (network.getEdge edge).length ≥ skipNetsLargerThanThis)

structure DetailedHPWL where
  edge_hpwl : Nat → Int
  affected_edges : List Nat

def DetailedHPWL.init : DetailedHPWL := ⟨fun _ => 0, []⟩

/-- The total, computed from scratch; the lengths are remembered. -/
def DetailedHPWL.curr (network : Network) (nodes : Nat → Node) (objective : DetailedHPWL) :
    Int × DetailedHPWL :=
  let counted := (List.range network.edges.length).filter network.counts
  ((counted.map (network.edgeHpwl nodes)).sum, { objective with
      edge_hpwl := fun edge =>
        if edge ∈ counted then network.edgeHpwl nodes edge else objective.edge_hpwl edge })

def DetailedHPWL.delta (network : Network) (nodes : Nat → Node) (journal : Journal)
    (objective : DetailedHPWL) : Int × DetailedHPWL :=
  let affected := journal.affected_edges.filter network.counts
  let old_wl := (affected.map objective.edge_hpwl).sum
  let new_wl := (affected.map (network.edgeHpwl nodes)).sum
  (old_wl - new_wl, { objective with affected_edges := objective.affected_edges ++ affected })

def DetailedHPWL.accept (network : Network) (nodes : Nat → Node) (objective : DetailedHPWL) :
    DetailedHPWL :=
  { edge_hpwl := fun edge =>
      if edge ∈ objective.affected_edges then network.edgeHpwl nodes edge
      else objective.edge_hpwl edge
    affected_edges := [] }

def DetailedHPWL.reject (objective : DetailedHPWL) : DetailedHPWL := objective

def Movable (nodes : Nat → Node) (n : Nat) : Bool := ¬ ((nodes n).isTerminal ∨ (nodes n).fixed)

def collectSingleHeightCells (rowHeight : Int) (numNodes : Nat) (nodes : Nat → Node) : List Nat :=
  (List.range numNodes).filter fun n => Movable nodes n ∧ lround (nodes n).height rowHeight = 1

/-- The cell goes to the list of its height, after more lists if there are too few. -/
def collectMultiHeight (rowHeight : Int) (nodes : Nat → Node) (lists : List (List Nat)) (n : Nat) :
    List (List Nat) :=
  if Movable nodes n ∧ lround (nodes n).height rowHeight ≠ 1 then
    let nRowsSpanned := (lround (nodes n).height rowHeight).toNat
    (lists ++ List.replicate (nRowsSpanned + 1 - lists.length) []).modify nRowsSpanned (· ++ [n])
  else lists

def collectMultiHeightCells (rowHeight : Int) (numNodes : Nat) (nodes : Nat → Node) :
    List (List Nat) :=
  (List.range numNodes).foldl (collectMultiHeight rowHeight nodes) [[], []]

def DetailedMgr.cellsOfHeight (mgr : DetailedMgr) (height : Nat) : List Nat :=
  if height = 1 then mgr.singleHeightCells
  else if 2 ≤ height then mgr.multiHeightCells.getD height []
  else []

def displacement (node : Node) : Int :=
  |node.left - node.orig_left| + |node.bottom - node.orig_bottom|

/-- Sums per height as one value: each divided by the number of cells, then by the height of a row
and the number of heights. -/
def DetailedMgr.weigh (mgr : DetailedMgr) (sums : Nat → Int) : ℚ :=
  let heights := List.range mgr.multiHeightCells.length
  let count := fun height => (mgr.cellsOfHeight height).length
  let nSets := (heights.filter fun height => count height ≠ 0).length
  (heights.map fun height =>
    if count height ≠ 0 then (sums height : ℚ) / count height else 0).sum / mgr.rowHeight / nSets

def DetailedDisplacement.curr (mgr : DetailedMgr) (nodes : Nat → Node) : ℚ :=
  mgr.weigh fun height => ((mgr.cellsOfHeight height).map fun n => displacement (nodes n)).sum

/-- The change, read off the old and the new places; the height in rows is cut off for the old ones
and rounded for the new ones. -/
def DetailedDisplacement.delta (mgr : DetailedMgr) (journal : Journal) (s : PlacementState) :
    Except String (ℚ × PlacementState) := do
  let old ← journal.undo mgr true s
  let new ← journal.redo mgr true old
  let del := fun height : Nat =>
    ((journal.affected_nodes.filter fun n =>
        (old.nodes n).height.tdiv mgr.rowHeight = height).map fun n =>
      displacement (old.nodes n)).sum -
    ((journal.affected_nodes.filter fun n =>
        mgr.getCellHeightInRows (new.nodes n) = height).map fun n => displacement (new.nodes n)).sum
  .ok (mgr.weigh del, new)

inductive Request
  | single (node : Nat) (curSeg : Int) (newLeft newBottom : Int) (newSeg : Int)
  | several (node : Nat) (curSegs : List Int) (newLeft newBottom : Int) (newSegs : List Int)
deriving DecidableEq

def Request.getNode : Request → Nat
  | single node .. => node
  | several node .. => node

/-- The move is asked for with the present place of the cell. -/
def Request.compose (mgr : DetailedMgr) (request : Request) (state : PlacementState × Journal) :
    Option (PlacementState × Journal) :=
  let (s, journal) := state
  match request with
  | .single n curSeg x y newSeg =>
    (addToMoveList mgr n (s.nodes n).left (s.nodes n).bottom curSeg x y newSeg s
      journal).toOption.join
  | .several n curSegs x y newSegs =>
    (addToMoveListSegs mgr n (s.nodes n).left (s.nodes n).bottom curSegs x y newSegs s
      journal).toOption.join

def composeMoves (mgr : DetailedMgr) (requests : List Request) (s : PlacementState) :
    Option (PlacementState × Journal) :=
  requests.foldlM (fun state request => request.compose mgr state) (s, Journal.empty)

inductive Verdict
  | accepted
  | rejected
  | withdrawn
deriving DecidableEq

structure Attempt where
  requests : List Request
  verdict : Verdict
deriving DecidableEq

structure HpwlRun where
  state : PlacementState
  objective : DetailedHPWL
  value : Int

/-- The value of an objective kept by the deltas of accepted moves. -/
def hpwlStep (mgr : DetailedMgr) (network : Network) (r : HpwlRun) (attempt : Attempt) :
    Option HpwlRun := do
  let (s, journal) ← composeMoves mgr attempt.requests r.state
  let (change, evaluated) := r.objective.delta network s.nodes journal
  match attempt.verdict with
  | .accepted => some ⟨s, evaluated.accept network s.nodes, r.value - change⟩
  | .rejected => do
    let (s, _) ← (rejectMove mgr journal s).toOption
    some ⟨s, evaluated.reject, r.value⟩
  | .withdrawn => do
    let (s, _) ← (rejectMove mgr journal s).toOption
    some ⟨s, r.objective, r.value⟩

def startHpwl (network : Network) (s : PlacementState) : HpwlRun :=
  ⟨s, (DetailedHPWL.init.curr network s.nodes).2, (DetailedHPWL.init.curr network s.nodes).1⟩

structure DisplacementRun where
  state : PlacementState
  value : ℚ

def displacementStep (mgr : DetailedMgr) (r : DisplacementRun) (attempt : Attempt) :
    Option DisplacementRun := do
  let (s, journal) ← composeMoves mgr attempt.requests r.state
  match attempt.verdict with
  | .accepted => do
    let (change, s) ← (DetailedDisplacement.delta mgr journal s).toOption
    some ⟨s, r.value - change⟩
  | .rejected => do
    let (_, s) ← (DetailedDisplacement.delta mgr journal s).toOption
    let (s, _) ← (rejectMove mgr journal s).toOption
    some ⟨s, r.value⟩
  | .withdrawn => do
    let (s, _) ← (rejectMove mgr journal s).toOption
    some ⟨s, r.value⟩

def startDisplacement (mgr : DetailedMgr) (s : PlacementState) : DisplacementRun :=
  ⟨s, DetailedDisplacement.curr mgr s.nodes⟩

def stepOn {σ : Type} (step : σ → Attempt → Option σ) (r : Option σ) (attempt : Attempt) :
    Option σ := r.bind fun r => step r attempt

end OpenRoad.Dpl
