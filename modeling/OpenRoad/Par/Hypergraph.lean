import Mathlib.Data.List.Destutter
import Mathlib.Tactic

/-! The hypergraph of the partitioner and the evaluator of its solutions, in exact arithmetic. -/

namespace OpenRoad.Par

open List

abbrev Weights (d : Nat) := Fin d → ℚ

abbrev Partitions := List Int

structure TimingPath where
  path : List Nat
  arcs : List Nat
  slack : ℚ
deriving DecidableEq

structure Hypergraph (vd hd : Nat) where
  vertexWeights : List (Weights vd)
  hyperedgeWeights : List (Weights hd)
  hyperedges : List (List Nat)
  fixedVertexFlag : Bool
  fixedAttr : List Int
  communityFlag : Bool
  communityAttr : List Int
  timingFlag : Bool
  hyperedgeTimingAttr : List ℚ
  hyperedgeTimingCost : List ℚ
  hyperedgeArcSet : List (List Nat)
  timingPaths : List TimingPath
  pathTimingCost : List ℚ
  /-- The vertices of the finer hypergraph in each vertex. -/
  vertexCAttr : List (List Nat)

namespace Hypergraph

variable {vd hd : Nat} (h : Hypergraph vd hd)

/-- The constructor: attributes that do not come for every vertex or hyperedge are dropped. -/
def new (hyperedges : List (List Nat)) (vertexWeights : List (Weights vd))
    (hyperedgeWeights : List (Weights hd)) (fixedAttr communityAttr : List Int)
    (hyperedgesSlack : List ℚ) (hyperedgesArcSet : List (List Nat))
    (timingPaths : List TimingPath) : Hypergraph vd hd :=
  let fixedVertexFlag : Bool := fixedAttr.length = vertexWeights.length
  let communityFlag : Bool := communityAttr.length = vertexWeights.length
  let timingFlag : Bool := hyperedgesSlack.length = hyperedgeWeights.length ∧
    hyperedgesArcSet.length = hyperedgeWeights.length
  { vertexWeights, hyperedgeWeights, hyperedges, fixedVertexFlag, communityFlag, timingFlag
    fixedAttr := if fixedVertexFlag then fixedAttr else []
    communityAttr := if communityFlag then communityAttr else []
    hyperedgeTimingAttr := if timingFlag then hyperedgesSlack else []
    hyperedgeArcSet := if timingFlag then hyperedgesArcSet else []
    timingPaths := if timingFlag then timingPaths else []
    hyperedgeTimingCost := []
    pathTimingCost := []
    vertexCAttr := [] }

def getNumVertices : Nat := h.vertexWeights.length

def getNumHyperedges : Nat := h.hyperedgeWeights.length

def getNumTimingPaths : Nat := h.timingPaths.length

def getVertexWeights (v : Nat) : Weights vd := h.vertexWeights.getD v 0

def getHyperedgeWeights (e : Nat) : Weights hd := h.hyperedgeWeights.getD e 0

def vertices (e : Nat) : List Nat := h.hyperedges.getD e []

def getFixedAttr (v : Nat) : Int := h.fixedAttr.getD v (-1)

def isFixed (v : Nat) : Bool := h.fixedVertexFlag ∧ -1 < h.getFixedAttr v

def getCommunity (v : Nat) : Int := h.communityAttr.getD v (-1)

def getVertexCAttr (v : Nat) : List Nat := h.vertexCAttr.getD v []

def pathVertices (p : Nat) : List Nat := (h.timingPaths[p]?.map TimingPath.path).getD []

def pathEdges (p : Nat) : List Nat := (h.timingPaths[p]?.map TimingPath.arcs).getD []

def pathTimingSlack (p : Nat) : ℚ := (h.timingPaths[p]?.map TimingPath.slack).getD 0

def edges (v : Nat) : List Nat :=
  (List.range h.getNumHyperedges).flatMap fun e => List.replicate ((h.vertices e).count v) e

variable {h} in
lemma mem_edges {v e : Nat} : e ∈ h.edges v ↔ e < h.getNumHyperedges ∧ v ∈ h.vertices e := by
  rw [edges, mem_flatMap]
  constructor
  · rintro ⟨e', inside, member⟩
    rcases mem_replicate.mp member with ⟨some', rfl⟩
    exact ⟨mem_range.mp inside, count_pos_iff.mp (Nat.pos_of_ne_zero some')⟩
  · rintro ⟨inside, member⟩
    exact ⟨e, mem_range.mpr inside, mem_replicate.mpr
      ⟨Nat.pos_iff_ne_zero.mp (count_pos_iff.mpr member), rfl⟩⟩

def timingPathsThrough (v : Nat) : List Nat :=
  (List.range h.getNumTimingPaths).flatMap fun p => List.replicate ((h.pathVertices p).count v) p

/-- What the constructor relies on and leaves behind. -/
structure Valid : Prop where
  hyperedges_length : h.hyperedges.length = h.getNumHyperedges
  inside : ∀ vertices ∈ h.hyperedges, ∀ v ∈ vertices, v < h.getNumVertices
  paths_inside : ∀ path ∈ h.timingPaths, ∀ v ∈ path.path, v < h.getNumVertices
  fixed_length : h.fixedVertexFlag = true → h.fixedAttr.length = h.getNumVertices
  not_fixed : h.fixedVertexFlag = false → h.fixedAttr = []
  not_timing : h.timingFlag = false → h.timingPaths = []

variable {h} in
lemma Valid.vertices_lt (valid : h.Valid) (e v : Nat) (member : v ∈ h.vertices e) :
    v < h.getNumVertices := by
  rw [vertices, getD_eq_getElem?_getD] at member
  cases found : h.hyperedges[e]? with
  | none =>
    rw [found] at member
    cases member
  | some vertices =>
    rw [found] at member
    exact valid.inside vertices (mem_of_getElem? found) v member

variable {h} in
lemma Valid.pathVertices_lt (valid : h.Valid) (p v : Nat) (member : v ∈ h.pathVertices p) :
    v < h.getNumVertices := by
  rw [pathVertices] at member
  cases found : h.timingPaths[p]? with
  | none =>
    rw [found] at member
    cases member
  | some path =>
    rw [found] at member
    exact valid.paths_inside path (mem_of_getElem? found) v member

end Hypergraph

/-- The factors of the objective; `timingScore` is the power that turns a slack into a cost. -/
structure GoldenEvaluator (vd hd : Nat) where
  numParts : Nat
  eWtFactors : Weights hd
  vWtFactors : Weights vd
  netTimingFactor : ℚ
  pathTimingFactor : ℚ
  pathSnakingFactor : ℚ
  timingScore : ℚ → ℚ

structure PartitionToken (vd : Nat) where
  cost : ℚ
  blockBalance : List (Weights vd)
deriving DecidableEq

def blockOf (solution : Partitions) (v : Nat) : Int := solution.getD v 0

lemma blockOf_set (solution : Partitions) (v w : Nat) (block : Int) (inside : v < solution.length) :
    blockOf (solution.set v block) w = if v = w then block else blockOf solution w := by
  rw [blockOf, blockOf, getD_eq_getElem?_getD, getD_eq_getElem?_getD, getElem?_set]
  by_cases same : v = w
  · rw [if_pos same, if_pos same, if_pos (same ▸ inside)]
    rfl
  · rw [if_neg same, if_neg same]

def isCut (solution : Partitions) : List Nat → Bool
  | [] => false
  | first :: rest => rest.any fun v => blockOf solution v ≠ blockOf solution first

namespace GoldenEvaluator

variable {vd hd : Nat} (ev : GoldenEvaluator vd hd) (h : Hypergraph vd hd)

def getNetDegrees (solution : Partitions) : List (List Nat) :=
  (List.range h.getNumHyperedges).map fun e =>
    (h.vertices e).foldl (fun degs v => degs.modify (blockOf solution v).toNat (· + 1))
      (List.replicate ev.numParts 0)

def getBlockBalance (solution : Partitions) : List (Weights vd) :=
  (List.range h.getNumVertices).foldl
    (fun balance v => balance.modify (blockOf solution v).toNat (· + h.getVertexWeights v))
    (List.replicate ev.numParts 0)

def getVertexWeightNorm (v : Nat) : ℚ := ∑ i, h.getVertexWeights v i * ev.vWtFactors i

def blockPath (solution : Partitions) (path : List Nat) : List Int :=
  (path.map (blockOf solution)).destutter (· ≠ ·)

def calculatePathCost (p : Nat) (solution : Partitions) : ℚ :=
  if h.getNumTimingPaths = 0 ∨ h.pathTimingCost.length < h.getNumTimingPaths ∨
      h.getNumTimingPaths ≤ p then 0
  else
    let path := blockPath solution (h.pathVertices p)
    if path.length ≤ 1 then 0
    else
      let snakingFactor := (path.map fun block => path.count block).foldl max 0
      ev.pathTimingFactor * (path.length - 1 : Nat) * h.pathTimingCost.getD p 0 +
        ev.pathSnakingFactor * (snakingFactor - 1 : Nat)

def getPathsCost (solution : Partitions) : List ℚ :=
  if h.getNumTimingPaths = 0 ∨ h.pathTimingCost.length < h.getNumTimingPaths then []
  else (List.range h.getNumTimingPaths).map fun p => ev.calculatePathCost h p solution

def calculateHyperedgeTimingCost (e : Nat) : ℚ :=
  if h.timingFlag then ev.timingScore (h.hyperedgeTimingAttr.getD e 0) else 0

def calculateHyperedgeCost (e : Nat) : ℚ :=
  ∑ i, h.getHyperedgeWeights e i * ev.eWtFactors i +
    if h.timingFlag then ev.netTimingFactor * h.hyperedgeTimingCost.getD e 0 else 0

/-- The hyperedges cut; the source reads the first vertex of each one. -/
def getCutHyperedges (solution : Partitions) : Option (List Nat) :=
  if h.hyperedges.any List.isEmpty then none
  else some ((List.range h.getNumHyperedges).filter fun e => isCut solution (h.vertices e))

def cutEvaluator (solution : Partitions) : Option (PartitionToken vd) := do
  let cutHyperedges ← getCutHyperedges h solution
  let edgeCost := (cutHyperedges.map (ev.calculateHyperedgeCost h)).sum
  let pathCost := ((List.range h.getNumTimingPaths).map
    fun p => ev.calculatePathCost h p solution).sum
  some ⟨edgeCost + pathCost, ev.getBlockBalance h solution⟩

/-- The timing costs of the paths, laid over those of the hyperedges. -/
def initializeTiming : Hypergraph vd hd :=
  if h.timingFlag then
    let costs := (List.range h.getNumTimingPaths).map fun p => ev.timingScore (h.pathTimingSlack p)
    let edgeCosts := (List.range h.getNumHyperedges).map (ev.calculateHyperedgeTimingCost h)
    { h with
      pathTimingCost := costs
      hyperedgeTimingCost := (List.range h.getNumTimingPaths).foldl
        (fun costs' p => (h.pathEdges p).foldl
          (fun costs' e => costs'.modify e (· + costs.getD p 0)) costs') edgeCosts }
  else h

end GoldenEvaluator

end OpenRoad.Par
