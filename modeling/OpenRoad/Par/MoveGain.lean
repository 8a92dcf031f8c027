import OpenRoad.Par.Refiner

/-! The gains that the refiner expects of moves, and the greedy pass over the hyperedges. The
refiner is built with the number of blocks and the factors of its evaluator. -/

namespace OpenRoad.Par

section Gains

variable {vd hd : Nat} (ev : GoldenEvaluator vd hd) (h : Hypergraph vd hd)

/-- The refiner's own cost of a path, with a vertex in another block. -/
def calculatePathCost (p : Nat) (solution : Partitions) (v toPid : Nat) : ℚ :=
  if h.getNumTimingPaths = 0 ∨ h.getNumTimingPaths ≤ p then 0
  else
    let blocks := (h.pathVertices p).map fun u => if u = v then (toPid : Int) else blockOf solution u
    let path := blocks.destutter (· ≠ ·)
    if path.length ≤ 1 then 0
    else
      let snakingFactor := (path.map fun block => path.count block).foldl max 0
      ev.pathTimingFactor * (path.length - 1 : Nat) * h.pathTimingCost.getD p 0 +
        ev.pathSnakingFactor * (snakingFactor - 1 : Nat)

def getConnectivity (degs : List Int) : Nat := degs.countP (0 < ·)

/-- What the move of a vertex adds to the score for one hyperedge of it. -/
def cutChange (degs : List Int) (fromPid toPid : Nat) (eScore : ℚ) : ℚ :=
  if getConnectivity degs = 0 then 0
  else if getConnectivity degs = 1 ∧ 1 < degs.getD fromPid 0 then -eScore
  else if getConnectivity degs = 2 ∧ degs.getD fromPid 0 = 1 ∧ 0 < degs.getD toPid 0 then eScore
  else 0

def setPathCost (deltaPathCost : List (Nat × ℚ)) (p : Nat) (delta : ℚ) : List (Nat × ℚ) :=
  deltaPathCost.filter (·.1 ≠ p) ++ [(p, delta)]

def calculateVertexGain (v fromPid toPid : Nat) (solution : Partitions) (curPathsCost : List ℚ)
    (netDegs : List (List Int)) : VertexGain :=
  if fromPid = toPid then ⟨v, fromPid, toPid, 0, []⟩
  else
    let cutScore := (h.edges v).foldl (fun score e => score +
        cutChange (netDegs.getD e []) fromPid toPid (ev.calculateHyperedgeCost h e)) 0
    let pathScore := (h.timingPathsThrough v).foldl (fun score p => score +
        (curPathsCost.getD p 0 - calculatePathCost ev h p solution v toPid)) 0
    let deltaPathCost := (h.timingPathsThrough v).foldl (fun delta p => setPathCost delta p
        (calculatePathCost ev h p solution v toPid - curPathsCost.getD p 0)) []
    ⟨v, fromPid, toPid, cutScore + pathScore, deltaPathCost⟩

/-- The score for one hyperedge of a vertex, and the degrees after the vertex has left. -/
def cutStep (fromPid toPid : Nat) (state : ℚ × List (List Int)) (e : Nat) : ℚ × List (List Int) :=
  if getConnectivity (state.2.getD e []) = 0 then state
  else
    (state.1 + cutChange (state.2.getD e []) fromPid toPid (ev.calculateHyperedgeCost h e),
      state.2.modify e fun degs => (degs.modify fromPid (· - 1)).modify toPid (· + 1))

def leavingVertices (e toPid : Nat) (solution : Partitions) : List (Nat × Nat) :=
  ((h.vertices e).filter fun v => blockOf solution v ≠ toPid).map
    fun v => (v, (blockOf solution v).toNat)

/-- The vertices leave one by one; of the degrees, the source copies those it reads. -/
def leaveCuts (toPid : Nat) (vertices : List (Nat × Nat)) (netDegs : List (List Int)) :
    ℚ × List (List Int) :=
  vertices.foldl (fun state v => (h.edges v.1).foldl (cutStep ev h v.2 toPid) state) (0, netDegs)

/-- A path through a vertex that has left, unless another vertex has counted it. -/
def pathStep (toPid : Nat) (solution : Partitions) (curPathsCost : List ℚ) (v : Nat)
    (state : ℚ × List (Nat × ℚ)) (p : Nat) : ℚ × List (Nat × ℚ) :=
  if state.2.any (·.1 = p) then state
  else
    let cost := calculatePathCost ev h p solution v toPid
    (state.1 + (curPathsCost.getD p 0 - cost), setPathCost state.2 p (cost - curPathsCost.getD p 0))

def leavePaths (toPid : Nat) (vertices : List (Nat × Nat)) (solution : Partitions)
    (curPathsCost : List ℚ) : ℚ × List (Nat × ℚ) :=
  vertices.foldl (fun state v =>
      (h.timingPathsThrough v.1).foldl (pathStep ev h toPid solution curPathsCost v.1) state)
    (0, [])

/-- The solution is changed for the paths, and restored. -/
def calculateHyperedgeGain (e toPid : Nat) (solution : Partitions) (curPathsCost : List ℚ)
    (netDegs : List (List Int)) : HyperedgeGain × Partitions :=
  let vertices := leavingVertices h e toPid solution
  if vertices.isEmpty then (⟨e, toPid, 0, []⟩, solution)
  else
    let cutScore := (leaveCuts ev h toPid vertices netDegs).1
    if h.getNumTimingPaths = 0 then (⟨e, toPid, cutScore + 0, []⟩, solution)
    else
      let left := vertices.foldl (fun solution v => solution.set v.1 (toPid : Int)) solution
      let (pathScore, deltaPathCost) := leavePaths ev h toPid vertices left curPathsCost
      let restored := vertices.foldl (fun solution v => solution.set v.1 (v.2 : Int)) left
      (⟨e, toPid, cutScore + pathScore, deltaPathCost⟩, restored)

end Gains

def GoldenEvaluator.calculateHyperedgeVertexWtSum {vd hd : Nat} (ev : GoldenEvaluator vd hd)
    (h : Hypergraph vd hd) (e : Nat) : ℚ :=
  ((h.vertices e).map (ev.getVertexWeightNorm h)).sum

namespace GreedyRefine

variable {vd hd : Nat} (ev : GoldenEvaluator vd hd) (h : Hypergraph vd hd) (maxMove : Int)
  (upperBlockBalance lowerBlockBalance : List (Weights vd))

def compareHyperedgeGain (a b : HyperedgeGain) : Bool :=
  b.gain < a.gain ∨ (a.gain = b.gain ∧
    ev.calculateHyperedgeVertexWtSum h a.hyperedge < ev.calculateHyperedgeVertexWtSum h b.hyperedge)

def tryBlock (e : Nat) (state : RefineState vd) (best : Option HyperedgeGain × Partitions)
    (toPid : Nat) : Option HyperedgeGain × Partitions :=
  if checkHyperedgeMoveLegality h ev.numParts e toPid best.2 state.blockBalance upperBlockBalance
      lowerBlockBalance then
    let (gain, solution) :=
      calculateHyperedgeGain ev h e toPid best.2 state.curPathsCost state.netDegs
    match best.1 with
    | none => (some gain, solution)
    | some old => (some (if compareHyperedgeGain ev h gain old then gain else old), solution)
  else best

/-- The best block of a hyperedge, if the move to it does not increase the cost. -/
def moveHyperedge (e : Nat) (state : RefineState vd) : RefineState vd :=
  let (best, solution) := (List.range ev.numParts).foldl
    (tryBlock ev h upperBlockBalance lowerBlockBalance e state) (none, state.solution)
  match best with
  | some gain =>
    if 0 ≤ gain.gain then acceptHyperedgeGain h gain { state with solution }
    else { state with solution }
  | none => { state with solution }

/-- The hyperedges in turn; one that lies within a block is passed over. -/
def visitHyperedges : List Nat → Int → RefineState vd → RefineState vd
  | [], _, state => state
  | e :: rest, numMove, state =>
    let degs := state.netDegs.getD e []
    if (List.range ev.numParts).countP (fun block => 0 < degs.getD block 0) ≤ 1 then
      visitHyperedges rest numMove state
    else if maxMove ≤ numMove + 1 then state
    else
      visitHyperedges rest (numMove + 1)
        (moveHyperedge ev h upperBlockBalance lowerBlockBalance e state)

def pass (state : RefineState vd) : RefineState vd :=
  visitHyperedges ev h maxMove upperBlockBalance lowerBlockBalance
    (List.range h.getNumHyperedges) 0 { state with totalDeltaGain := 0 }

end GreedyRefine

end OpenRoad.Par
