import OpenRoad.Lib.VectorOrder
import OpenRoad.Par.Hypergraph

/-! How the refiner checks and makes moves between the blocks of a partition. -/

namespace OpenRoad.Par

open Lib.VectorOrder

structure VertexGain where
  vertex : Nat
  sourcePart : Nat
  destinationPart : Nat
  gain : ℚ
  pathCost : List (Nat × ℚ)
deriving DecidableEq

structure HyperedgeGain where
  hyperedge : Nat
  destinationPart : Nat
  gain : ℚ
  pathCost : List (Nat × ℚ)
deriving DecidableEq

structure RefineState (vd : Nat) where
  totalDeltaGain : ℚ
  visitedVerticesFlag : List Bool
  solution : Partitions
  curPathsCost : List ℚ
  blockBalance : List (Weights vd)
  netDegs : List (List Int)

def balanceOf {vd : Nat} (balance : List (Weights vd)) (pid : Nat) : Weights vd := balance.getD pid 0

section Moves

variable {vd hd : Nat} (h : Hypergraph vd hd)

def addPathCosts (pathCost : List (Nat × ℚ)) (curPathsCost : List ℚ) : List ℚ :=
  pathCost.foldl (fun costs path => costs.modify path.1 (· + path.2)) curPathsCost

def moveWeight (v preId newId : Nat) (balance : List (Weights vd)) : List (Weights vd) :=
  (balance.modify preId (· - h.getVertexWeights v)).modify newId (· + h.getVertexWeights v)

def moveDegrees (v preId newId : Nat) (netDegs : List (List Int)) : List (List Int) :=
  (h.edges v).foldl (fun netDegs he =>
      netDegs.modify he fun degs => (degs.modify preId (· - 1)).modify newId (· + 1)) netDegs

def acceptVertexGain (gainCell : VertexGain) (state : RefineState vd) : RefineState vd where
  totalDeltaGain := state.totalDeltaGain + gainCell.gain
  visitedVerticesFlag := state.visitedVerticesFlag.set gainCell.vertex true
  solution := state.solution.set gainCell.vertex gainCell.destinationPart
  curPathsCost := addPathCosts gainCell.pathCost state.curPathsCost
  blockBalance := moveWeight h gainCell.vertex gainCell.sourcePart gainCell.destinationPart
    state.blockBalance
  netDegs := moveDegrees h gainCell.vertex gainCell.sourcePart gainCell.destinationPart
    state.netDegs

/-- The vectors are compared with `<=` of the standard library. -/
def checkVertexMoveLegality (v toPid fromPid : Nat)
    (currBlockBalance upperBlockBalance lowerBlockBalance : List (Weights vd)) : Bool :=
  let totalWtToBlock := balanceOf currBlockBalance toPid + h.getVertexWeights v
  let totalWtFromBlock := balanceOf currBlockBalance fromPid - h.getVertexWeights v
  ¬ FirstBelow (balanceOf upperBlockBalance toPid) totalWtToBlock ∧
    ¬ FirstBelow totalWtFromBlock (balanceOf lowerBlockBalance fromPid)

/-- A vertex of the hyperedge, unless it is in the block already. -/
def moveTo (newId : Nat) (state : RefineState vd) (v : Nat) : RefineState vd :=
  let preId := (blockOf state.solution v).toNat
  if blockOf state.solution v = newId then state
  else
    { state with
      solution := state.solution.set v newId
      blockBalance := moveWeight h v preId newId state.blockBalance
      netDegs := moveDegrees h v preId newId state.netDegs }

def acceptHyperedgeGain (hyperedgeGain : HyperedgeGain) (state : RefineState vd) :
    RefineState vd :=
  (h.vertices hyperedgeGain.hyperedge).foldl (moveTo h hyperedgeGain.destinationPart) { state with
      totalDeltaGain := state.totalDeltaGain + hyperedgeGain.gain
      curPathsCost := addPathCosts hyperedgeGain.pathCost state.curPathsCost }

/-- The balance the check counts with, unless some vertex is not fixed to the block. -/
def updateBlockBalance (toPid : Nat) (solution : Partitions) :
    List Nat → List (Weights vd) → Option (List (Weights vd))
  | [], balance => some balance
  | v :: rest, balance =>
    if h.fixedVertexFlag ∧ h.getFixedAttr v ≠ toPid then none
    else
      let pid := blockOf solution v
      updateBlockBalance toPid solution rest (if pid ≠ toPid then
          (balance.modify toPid (· + h.getVertexWeights v)).modify pid.toNat
            (· - h.getVertexWeights v)
        else balance)

/-- The vectors are compared with `<` of the partitioner. -/
def checkHyperedgeMoveLegality (numParts e toPid : Nat) (solution : Partitions)
    (currBlockBalance upperBlockBalance lowerBlockBalance : List (Weights vd)) : Bool :=
  match updateBlockBalance h toPid solution (h.vertices e) currBlockBalance with
  | none => false
  | some balance =>
    ¬ Below (balanceOf upperBlockBalance toPid) (balanceOf balance toPid) ∧
      ∀ pid < numParts, pid ≠ toPid →
        ¬ Below (balanceOf balance pid) (balanceOf lowerBlockBalance pid)

end Moves

structure PriorityQueue where
  vertices : List VertexGain
  maximumTraverseLevel : Nat

namespace PriorityQueue

variable {vd hd : Nat} (h : Hypergraph vd hd)

/-- The upper bound is compared with `<` of the partitioner, the lower one with `>` of the standard
library. -/
def checkBalance (currBlockBalance upperBlockBalance lowerBlockBalance : List (Weights vd))
    (cell : VertexGain) : Bool :=
  Below (balanceOf currBlockBalance cell.destinationPart + h.getVertexWeights cell.vertex)
      (balanceOf upperBlockBalance cell.destinationPart) ∧
    FirstBelow (balanceOf lowerBlockBalance cell.sourcePart)
      (balanceOf currBlockBalance cell.sourcePart - h.getVertexWeights cell.vertex)

def compareElementLargeThan (a b : VertexGain) : Bool :=
  b.gain < a.gain ∨
    (a.gain = b.gain ∧ Below (h.getVertexWeights a.vertex) (h.getVertexWeights b.vertex))

/-- Down the heap, to the larger child each time; `none` stands for the dummy cell. -/
def traverse (check : VertexGain → Bool) (vertices : List VertexGain) :
    Nat → Nat → Option VertexGain
  | 0, _ => none
  | pass + 1, index =>
    let leftChild := vertices[2 * index + 1]?
    let rightChild := vertices[2 * index + 2]?
    let candidate := leftChild.filter check
    let candidate :=
      match rightChild.filter check, candidate with
      | some right, none => some right
      | some right, some left =>
        some (if compareElementLargeThan h right left then right else left)
      | none, candidate => candidate
    match candidate, leftChild, rightChild with
    | some cell, _, _ => some cell
    | none, some left, some right =>
      traverse check vertices pass
        (if compareElementLargeThan h right left then 2 * index + 2 else 2 * index + 1)
    | none, _, _ => none

def getBestCandidate (queue : PriorityQueue)
    (currBlockBalance upperBlockBalance lowerBlockBalance : List (Weights vd)) :
    Option VertexGain :=
  let check := checkBalance h currBlockBalance upperBlockBalance lowerBlockBalance
  match queue.vertices with
  | [] => none
  | top :: _ =>
    if check top then some top
    else traverse h check queue.vertices queue.maximumTraverseLevel 0

end PriorityQueue

end OpenRoad.Par
