import OpenRoad.Lib.VectorOrder
import OpenRoad.Par.GroupIds

/-! How the coarsener matches vertices with their neighbours. -/

namespace OpenRoad.Par

open Lib.VectorOrder

structure MatchOptions (vd : Nat) where
  thrClusterWeight : Weights vd
  coarseningRatio : ℚ
  orderVertices : List Nat → List Nat
  placementScore : Nat → Nat → ℚ

structure PlacedHypergraph (vd hd pd : Nat) extends Hypergraph vd hd where
  placementFlag : Bool
  placementAttr : List (Weights pd)

/-- The clusters made so far, and the id of the next one. -/
structure MatchState (vd pd : Nat) where
  vertexClusterIdVec : List (Option Nat)
  vertexWeightsC : List (Weights vd)
  communityAttrC : List Int
  fixedAttrC : List Int
  placementAttrC : List (Weights pd)
  clusterId : Nat
  numVisitedVertices : Nat
  /-- The early stop was reached. -/
  stopped : Bool

abbrev ScoreMap := List (Nat × ℚ)

def addScore (scoreMap : ScoreMap) (u : Nat) (score : ℚ) : ScoreMap :=
  scoreMap.map fun entry => if entry.1 = u then (entry.1, entry.2 + score) else entry

/-- The negated largest `float`. -/
def lowestScore : ℚ := -(2 ^ 128 - 2 ^ 104)

/-- The last of the best scores that belongs to a vertex without cluster, else the first one. -/
def bestVertex (vertexClusterIdVec : List (Option Nat)) (scoreMap : ScoreMap) : Option Nat :=
  (scoreMap.foldl (fun best entry =>
      if best.2 < entry.2 then (some entry.1, entry.2)
      else if entry.2 = best.2 ∧ idOf vertexClusterIdVec entry.1 = none then (some entry.1, best.2)
      else best)
    ((none : Option Nat), lowestScore)).1

namespace GoldenEvaluator

variable {vd hd : Nat} (ev : GoldenEvaluator vd hd) (h : Hypergraph vd hd)

def getNormEdgeScore (e : Nat) : ℚ :=
  if (h.vertices e).length ≤ 1 then 0
  else ev.calculateHyperedgeCost h e / ((h.vertices e).length - 1 : Nat)

def getPathTimingScore (p : Nat) : ℚ :=
  if h.getNumTimingPaths ≤ p then 0 else ev.timingScore (h.pathTimingSlack p)

def getAvgPlacementLoc {pd : Nat} (weightA weightB : Weights vd) (locA locB : Weights pd) :
    Weights pd :=
  let a := ∑ i, weightA i * ev.vWtFactors i
  let b := ∑ i, weightB i * ev.vWtFactors i
  fun i => locA i * (a / (a + b)) + locB i * (b / (a + b))

end GoldenEvaluator

/-- The vertices before and after a vertex on a path. -/
def pathNeighbors (path : List Nat) (v : Nat) : List Nat :=
  (List.range path.length).flatMap fun i =>
    if path.getD i 0 = v then
      (if 0 < i then [path.getD (i - 1) 0] else []) ++
        if i + 1 < path.length then [path.getD (i + 1) 0] else []
    else []

namespace Coarsener

variable {vd hd pd : Nat} (c : Coarsener) (ev : GoldenEvaluator vd hd) (o : MatchOptions vd)
  (h : PlacedHypergraph vd hd pd)

/-- The weight of the cluster of a vertex, or its own if it has none. -/
def nbrWeight (s : MatchState vd pd) (u : Nat) : Weights vd :=
  match idOf s.vertexClusterIdVec u with
  | some cluster => s.vertexWeightsC.getD cluster 0
  | none => h.getVertexWeights u

/-- Not fixed, of the same community, and not too heavy together: the weights are compared with `>`
of the standard library. -/
def mayJoin (s : MatchState vd pd) (v u : Nat) : Bool :=
  ¬ (h.fixedVertexFlag ∧ -1 < h.getFixedAttr u ∨
      h.communityFlag ∧ h.getCommunity v ≠ h.getCommunity u) ∧
    ¬ FirstBelow o.thrClusterWeight (h.getVertexWeights v + nbrWeight h s u)

def scoreNeighbor (s : MatchState vd pd) (v : Nat) (heScore : ℚ) (scoreMap : ScoreMap) (u : Nat) :
    ScoreMap :=
  if u = v then scoreMap
  else if u ∈ scoreMap.map Prod.fst then addScore scoreMap u heScore
  else if mayJoin o h s v u then scoreMap.orderedInsert (fun a b => a.1 ≤ b.1) (u, heScore)
  else scoreMap

def scoreHyperedge (s : MatchState vd pd) (v : Nat) (scoreMap : ScoreMap) (he : Nat) : ScoreMap :=
  let heSize := (h.vertices he).length
  if heSize ≤ 1 ∨ c.thrCoarsenHyperedgeSizeSkip < heSize then scoreMap
  else
    (h.vertices he).foldl (scoreNeighbor o h s v (ev.getNormEdgeScore h.toHypergraph he)) scoreMap

def addTimingScores (v : Nat) (scoreMap : ScoreMap) : ScoreMap :=
  if h.timingFlag ∧ 0 < h.getNumTimingPaths then
    (h.timingPathsThrough v).foldl (fun scoreMap p => (pathNeighbors (h.pathVertices p) v).foldl
        (fun scoreMap u => addScore scoreMap u (ev.getPathTimingScore h.toHypergraph p)) scoreMap)
      scoreMap
  else scoreMap

def addPlacementScores (v : Nat) (scoreMap : ScoreMap) : ScoreMap :=
  if h.placementFlag then
    scoreMap.map fun entry => (entry.1, entry.2 + o.placementScore v entry.1)
  else scoreMap

/-- The neighbour to join; there is none without neighbours, or if no score is large enough. -/
def chooseVertex (s : MatchState vd pd) (v : Nat) : Option Nat :=
  bestVertex s.vertexClusterIdVec (addPlacementScores o h v (addTimingScores ev h v
      ((h.edges v).foldl (c.scoreHyperedge ev o h s v) [])))

/-- A new cluster of some vertices, with the attributes of one of them. -/
def openCluster (members : List Nat) (v : Nat) (weight : Weights vd) (place : Weights pd)
    (s : MatchState vd pd) : MatchState vd pd :=
  { s with
    vertexClusterIdVec :=
      members.foldl (fun ids u => ids.set u (some s.clusterId)) s.vertexClusterIdVec
    clusterId := s.clusterId + 1
    vertexWeightsC := s.vertexWeightsC ++ [weight]
    placementAttrC := if h.placementFlag then s.placementAttrC ++ [place] else s.placementAttrC
    communityAttrC :=
      if h.communityFlag then s.communityAttrC ++ [h.getCommunity v] else s.communityAttrC
    fixedAttrC :=
      if h.fixedVertexFlag then s.fixedAttrC ++ [h.getFixedAttr v] else s.fixedAttrC }

def singleCluster (v : Nat) (s : MatchState vd pd) : MatchState vd pd :=
  openCluster h [v] v (h.getVertexWeights v) (h.placementAttr.getD v 0) s

def pairCluster (v best : Nat) (s : MatchState vd pd) : MatchState vd pd :=
  openCluster h [best, v] v (h.getVertexWeights best + h.getVertexWeights v)
    (ev.getAvgPlacementLoc (h.getVertexWeights v) (h.getVertexWeights best)
      (h.placementAttr.getD v 0) (h.placementAttr.getD best 0)) s

def joinCluster (v bestClusterId : Nat) (s : MatchState vd pd) : MatchState vd pd :=
  { s with
    vertexClusterIdVec := s.vertexClusterIdVec.set v (some bestClusterId)
    placementAttrC :=
      if h.placementFlag then
        s.placementAttrC.modify bestClusterId fun place =>
          ev.getAvgPlacementLoc (s.vertexWeightsC.getD bestClusterId 0) (h.getVertexWeights v)
            place (h.placementAttr.getD v 0)
      else s.placementAttrC
    vertexWeightsC := s.vertexWeightsC.modify bestClusterId (· + h.getVertexWeights v) }

/-- One vertex that has no cluster yet; after the early stop it stays alone. -/
def matchVertex (numEarlyStop : Int) (s : MatchState vd pd) (v : Nat) : MatchState vd pd :=
  if (idOf s.vertexClusterIdVec v).isSome then s
  else if s.stopped then singleCluster h v s
  else
    match c.chooseVertex ev o h s v with
    | none => { singleCluster h v s with numVisitedVertices := s.numVisitedVertices + 1 }
    | some best =>
      let joined :=
        match idOf s.vertexClusterIdVec best with
        | some bestClusterId =>
          { joinCluster ev h v bestClusterId s with
            numVisitedVertices := s.numVisitedVertices + 1 }
        | none =>
          { pairCluster ev h v best s with numVisitedVertices := s.numVisitedVertices + 2 }
      { joined with
        stopped := (h.getNumVertices + joined.clusterId - joined.numVisitedVertices : Int) ≤
          numEarlyStop }

/-- Fixed vertices are clusters of their own. -/
def fixedClusters : MatchState vd pd :=
  (List.range h.getNumVertices).foldl (fun s v => if h.isFixed v then singleCluster h v s else s)
    { vertexClusterIdVec := List.replicate h.getNumVertices none
      vertexWeightsC := []
      communityAttrC := []
      fixedAttrC := []
      placementAttrC := []
      clusterId := 0
      numVisitedVertices := 0
      stopped := false }

def unvisited : List Nat :=
  o.orderVertices ((List.range h.getNumVertices).filter fun v => ¬ h.isFixed v)

def numEarlyStopVisitedVertices : Int := ⌊((unvisited o h).length : ℚ) / o.coarseningRatio⌋

def matched (visited : List Nat) : MatchState vd pd :=
  visited.foldl (c.matchVertex ev o h (numEarlyStopVisitedVertices o h)) (fixedClusters h)

def vertexMatching : MatchState vd pd := c.matched ev o h (unvisited o h)

end Coarsener

end OpenRoad.Par
