import OpenRoad.Par.Coarsener
import OpenRoad.Par.GainHeap
import OpenRoad.Par.MoveGain

/-! The passes of the k-way refiner over the gain buckets of the blocks. -/

namespace OpenRoad.Par

structure PassState (vd : Nat) where
  refine : RefineState vd
  /-- One for each block. -/
  buckets : List GainHeap
  /-- The cells as picked; in the source `Remove` later sets the gain of the cell it shares. -/
  movesTrace : List VertexGain

namespace KWayFMRefine

variable {vd hd : Nat} (ev : GoldenEvaluator vd hd) (h : Hypergraph vd hd)
  (totalCorkingPasses : Nat) (upperBlockBalance lowerBlockBalance : List (Weights vd))

def boundaryNetFlag (netDegs : List (List Int)) (e : Nat) : Bool :=
  2 ≤ (List.range ev.numParts).countP fun block => 0 < (netDegs.getD e []).getD block 0

def findBoundaryVertices (netDegs : List (List Int)) (visitedVerticesFlag : List Bool) : List Nat :=
  (List.range h.getNumVertices).filter fun v =>
    ¬ visitedVerticesFlag.getD v false ∧ (h.edges v).any (boundaryNetFlag ev netDegs)

def findNeighbors (vertexId : Nat) (visitedVerticesFlag : List Bool) : List Nat :=
  idSet (((h.edges vertexId).flatMap h.vertices).filter fun v => ¬ visitedVerticesFlag.getD v false)

def gainInto (part : Nat) (state : RefineState vd) (v : Nat) : VertexGain :=
  calculateVertexGain ev h v (blockOf state.solution v).toNat part state.solution
    state.curPathsCost state.netDegs

def insertBoundary (toPid : Nat) (state : RefineState vd) (bucket : GainHeap) (v : Nat) :
    GainHeap :=
  if blockOf state.solution v = toPid then bucket
  else bucket.insertIntoPQ h (gainInto ev h toPid state v)

def initializeSingleGainBucket (toPid : Nat) (boundaryVertices : List Nat)
    (state : RefineState vd) : GainHeap :=
  let bucket := boundaryVertices.foldl (insertBoundary ev h toPid state)
    { GainHeap.new with active := true }
  if bucket.vertices.length = 0 then { bucket with active := false } else bucket

def initializeGainBucketsKWay (state : RefineState vd) : PassState vd where
  refine := state
  buckets := (List.range ev.numParts).map fun toPid =>
    initializeSingleGainBucket ev h toPid
      (findBoundaryVertices ev h state.netDegs state.visitedVerticesFlag) state
  movesTrace := []

/-- The bucket of one block is looked at; there is no largest element of an empty one. -/
def lookAt (state : PassState vd) (picked : Option VertexGain × Option (Nat × ℚ)) (i : Nat) :
    Option (Option VertexGain × Option (Nat × ℚ)) :=
  state.buckets[i]?.bind fun bucket =>
    if ¬ bucket.active then some picked
    else
      bucket.getMax.map fun ele =>
        let larger : Bool :=
          match picked.1 with
          | none => true
          | some candidate => candidate.gain < ele.gain
        let legal := checkVertexMoveLegality h ele.vertex i ele.sourcePart
          state.refine.blockBalance upperBlockBalance lowerBlockBalance
        (if larger ∧ legal then some ele else picked.1,
          match picked.2 with
          | none => some (i, ele.gain)
          | some best => if best.2 < ele.gain then some (i, ele.gain) else some best)

/-- The inner `none` stands for the dummy cell. -/
def pickMoveKWay (state : PassState vd) : Option (Option VertexGain) :=
  ((List.range ev.numParts).foldlM (lookAt h upperBlockBalance lowerBlockBalance state)
    (none, none)).map fun picked =>
      match picked with
      | (some candidate, _) => some candidate
      | (none, none) => none
      | (none, some (bestToPid, _)) =>
        state.buckets[bestToPid]?.bind fun bucket =>
          PriorityQueue.getBestCandidate h ⟨bucket.vertices, totalCorkingPasses⟩
            state.refine.blockBalance upperBlockBalance lowerBlockBalance

def forBuckets (change : Nat → GainHeap → Option GainHeap) :
    Nat → List GainHeap → Option (List GainHeap)
  | _, [] => some []
  | part, bucket :: rest =>
    (change part bucket).bind fun bucket =>
      (forBuckets change (part + 1) rest).map fun rest => bucket :: rest

def heapEleDeletion (vertexId : Nat) (_ : Nat) (bucket : GainHeap) : Option GainHeap :=
  bucket.remove h vertexId

def acceptKWayMove (gainCell : VertexGain) (state : PassState vd) : Option (PassState vd) :=
  (forBuckets (heapEleDeletion h gainCell.vertex) 0 state.buckets).map fun buckets =>
    { refine := acceptVertexGain h gainCell state.refine
      buckets
      movesTrace := state.movesTrace ++ [gainCell] }

def updateNeighbor (part : Nat) (state : RefineState vd) (bucket : GainHeap) (v : Nat) :
    Option GainHeap :=
  if blockOf state.solution v = part then some bucket
  else if -1 < bucket.verticesMap v then
    bucket.changePriority h v (gainInto ev h part state v)
  else some (bucket.insertIntoPQ h (gainInto ev h part state v))

def updateSingleGainBucket (neighbors : List Nat) (state : RefineState vd) (part : Nat)
    (bucket : GainHeap) : Option GainHeap :=
  neighbors.foldlM (updateNeighbor ev h part state) bucket

/-- A move is accepted, and the gains of the neighbours are updated. -/
def moveKWay (gainCell : VertexGain) (state : PassState vd) : Option (PassState vd) :=
  (acceptKWayMove h gainCell state).bind fun moved =>
    let neighbors := findNeighbors h gainCell.vertex moved.refine.visitedVerticesFlag
    (forBuckets (updateSingleGainBucket ev h neighbors moved.refine) 0 moved.buckets).map
      fun buckets => { moved with buckets }

/-- The main loop of a pass; what follows it rolls moves back and clears the buckets. -/
def passLoop : Nat → PassState vd → Option (PassState vd)
  | 0, state => some state
  | moves + 1, state =>
    (pickMoveKWay ev h totalCorkingPasses upperBlockBalance lowerBlockBalance state).bind
      fun candidate =>
        match candidate with
        | none => some state
        | some gainCell => (moveKWay ev h gainCell state).bind (passLoop moves)

/-- The step of a run; `none` stands for undefined behaviour. -/
def step (state : Option (PassState vd)) (gainCell : VertexGain) : Option (PassState vd) :=
  state.bind (moveKWay ev h gainCell)

end KWayFMRefine

end OpenRoad.Par
