import OpenRoad.Lib.HashMerge
import OpenRoad.Par.Hypergraph

/-! How the coarsener contracts the clusters of a hypergraph. -/

namespace OpenRoad.Par

open Lib

structure Coarsener where
  thrCoarsenHyperedgeSizeSkip : Nat
  numParts : Nat
deriving DecidableEq

/-- The elements of a `std::set` of ids, in its order. -/
def idSet (ids : List Nat) : List Nat := (ids.dedup).insertionSort (· ≤ ·)

/-- The inner product of ids with themselves: `int` products, added up as `size_t`. -/
def idHash (ids : List Nat) : Nat :=
  ids.foldl (fun sum id => ((sum + ((id * id : Nat) : Int).bmod (2 ^ 32)) % 2 ^ 64).toNat) 0

structure EdgeData (hd : Nat) where
  weights : Weights hd
  timing : Option (ℚ × List Nat)

def EdgeData.merge {hd : Nat} (old new : EdgeData hd) : EdgeData hd where
  weights := old.weights + new.weights
  timing :=
    match old.timing, new.timing with
    | some old, some new => some (min old.1 new.1, idSet (old.2 ++ new.2))
    | _, _ => none

namespace Coarsener

variable {vd hd : Nat} (c : Coarsener) (h : Hypergraph vd hd) (clusters : List Nat)

def clusterOf (v : Nat) : Nat := clusters.getD v 0

abbrev EdgeTable (hd : Nat) := HashMerge (List Nat) (EdgeData hd) Nat × List (Option Nat)

def edgeData (e : Nat) : EdgeData hd where
  weights := h.getHyperedgeWeights e
  timing :=
    if h.timingFlag then some (h.hyperedgeTimingAttr.getD e 0, h.hyperedgeArcSet.getD e []) else none

/-- The clusters of a hyperedge, unless it is too small or too large or lies in one cluster. -/
def contractedVertices (e : Nat) : Option (List Nat) :=
  let size := (h.vertices e).length
  if size ≤ 1 ∨ c.thrCoarsenHyperedgeSizeSkip < size then none
  else
    let hyperedgeC := idSet ((h.vertices e).map (clusterOf clusters))
    if hyperedgeC.length ≤ 1 then none else some hyperedgeC

def contractEdge (table : EdgeTable hd) (e : Nat) : EdgeTable hd :=
  match c.contractedVertices h clusters e with
  | none => (table.1, table.2 ++ [none])
  | some hyperedgeC =>
    let inserted := table.1.insert idHash EdgeData.merge hyperedgeC (edgeData h e)
    (inserted.1, table.2 ++ [some inserted.2])

def contractEdges : EdgeTable hd :=
  (List.range h.getNumHyperedges).foldl (c.contractEdge h clusters) (HashMerge.empty, [])

def contractedArcs (edgeClusters : List (Option Nat)) (arcs : List Nat) : List Nat :=
  (arcs.filterMap fun e => (edgeClusters[e]?).getD none).destutter (· ≠ ·)

def contractPath (edgeClusters : List (Option Nat))
    (table : HashMerge (List Nat) (List Nat × ℚ) Nat) (p : Nat) :
    HashMerge (List Nat) (List Nat × ℚ) Nat :=
  let path := h.pathVertices p
  let pathC := (path.map (clusterOf clusters)).destutter (· ≠ ·)
  if path.length ≤ 1 ∨ pathC.length ≤ 1 then table
  else
    (table.insert idHash (fun old new => (old.1, min old.2 new.2)) pathC
      (contractedArcs edgeClusters (h.pathEdges p), h.pathTimingSlack p)).1

def contractPaths (edgeClusters : List (Option Nat)) : List TimingPath :=
  if h.timingFlag ∧ 0 < h.getNumTimingPaths then
    ((List.range h.getNumTimingPaths).foldl (contractPath h clusters edgeClusters)
      HashMerge.empty).entries.map fun entry => ⟨entry.1, entry.2.1, entry.2.2⟩
  else []

def vertexCAttrOf (numClusters : Nat) : List (List Nat) :=
  (List.range h.getNumVertices).foldl
    (fun attr v => attr.modify (clusterOf clusters v) (· ++ [v])) (List.replicate numClusters [])

def contraction (vertexWeightsC : List (Weights vd)) (communityAttrC fixedAttrC : List Int) :
    Hypergraph vd hd :=
  let table := c.contractEdges h clusters
  let timing := table.1.entries.filterMap fun entry => entry.2.timing
  let clustered := Hypergraph.new (table.1.entries.map Prod.fst) vertexWeightsC
    (table.1.entries.map fun entry => entry.2.weights) fixedAttrC communityAttrC
    (timing.map Prod.fst) (timing.map Prod.snd) (contractPaths h clusters table.2)
  { clustered with vertexCAttr := vertexCAttrOf h clusters vertexWeightsC.length }

end Coarsener

/-- The solution of a hypergraph from that of its contraction. -/
def projected {vd hd : Nat} (coarse h : Hypergraph vd hd) (topSolution : Partitions) : Partitions :=
  (List.range coarse.getNumVertices).foldl (fun refined cluster =>
      (coarse.getVertexCAttr cluster).foldl
        (fun refined v => refined.set v (blockOf topSolution cluster)) refined)
    (List.replicate h.getNumVertices 0)

end OpenRoad.Par
