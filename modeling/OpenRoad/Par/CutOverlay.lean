import OpenRoad.Lib.Components
import OpenRoad.Par.Coarsener

/-! The clusters of groups of vertices, and the overlay of the cuts of several solutions. -/

namespace OpenRoad.Par

open Lib List

namespace Coarsener

variable {vd hd : Nat} (c : Coarsener) (h : Hypergraph vd hd)

structure GroupInfo (vd : Nat) where
  vertexClusterIdVec : List Nat
  vertexWeightsC : List (Weights vd)
  communityAttrC : List Int
  fixedAttrC : List Int

/-- The fixed vertices of each block that has any. -/
def fixedGroup : List (List Nat) :=
  let fixed := (List.range h.getNumVertices).filter fun v =>
    0 < h.fixedAttr.length ∧ -1 < h.getFixedAttr v
  (fixed.foldl (fun groups v => groups.modify (h.getFixedAttr v).toNat (· ++ [v]))
    (List.replicate c.numParts [])).filter fun group => ¬ group.isEmpty

/-- A group joins the last cluster that one of its vertices is in, or makes a new one. -/
def joinGroup (state : List (Option Nat) × Nat) (group : List Nat) : List (Option Nat) × Nat :=
  match (group.filterMap fun v => state.1.getD v none).max? with
  | some cur => (group.foldl (fun ids v => ids.set v (some cur)) state.1, state.2)
  | none => (group.foldl (fun ids v => ids.set v (some state.2)) state.1, state.2 + 1)

def joinSingle (state : List (Option Nat) × Nat) (v : Nat) : List (Option Nat) × Nat :=
  if state.1.getD v none = none then (state.1.set v (some state.2), state.2 + 1) else state

def clusterBasedGroupInfo (groupAttr : List (List Nat)) : GroupInfo vd :=
  if groupAttr = [] ∧ h.fixedAttr.length = 0 then
    ⟨List.range h.getNumVertices, h.vertexWeights, h.communityAttr, h.fixedAttr⟩
  else
    let vertices := List.range h.getNumVertices
    let grouped := (c.fixedGroup h ++ groupAttr).foldl joinGroup
      (List.replicate h.getNumVertices none, 0)
    let clustered := vertices.foldl joinSingle grouped
    let ids := clustered.1.map fun id => id.getD 0
    let largest (flag : Bool) (attr : Nat → Int) : List Int :=
      if flag then
        vertices.foldl (fun attrC v => attrC.modify (clusterOf ids v) (max · (attr v)))
          (List.replicate clustered.2 (-1))
      else []
    { vertexClusterIdVec := ids
      vertexWeightsC := vertices.foldl
        (fun weights v => weights.modify (clusterOf ids v) (· + h.getVertexWeights v))
        (List.replicate clustered.2 0)
      communityAttrC := largest h.communityFlag h.getCommunity
      fixedAttrC := largest h.fixedVertexFlag h.getFixedAttr }

def groupVertices (ev : GoldenEvaluator vd hd) (groupAttr : List (List Nat)) : Hypergraph vd hd :=
  let info := c.clusterBasedGroupInfo h groupAttr
  let clustered := c.contraction h info.vertexClusterIdVec info.vertexWeightsC
    info.communityAttrC info.fixedAttrC
  if h.timingFlag then ev.initializeTiming clustered else clustered

end Coarsener

section

variable {vd hd : Nat} (h : Hypergraph vd hd) (topSolutions : List Partitions)

def hyperedgeMask (e : Nat) : Bool := topSolutions.any fun solution => isCut solution (h.vertices e)

def uncutNbrs (u : Nat) : List Nat :=
  ((h.edges u).filter fun e => ¬ hyperedgeMask h topSolutions e).flatMap h.vertices

def overlay : List (Option Nat) × List Nat :=
  Components.components (uncutNbrs h topSolutions) h.getNumVertices

def overlayLabel (v : Nat) : Nat := ((overlay h topSolutions).1.getD v none).getD 0

def clusterAttr : List (List Nat) :=
  (List.range h.getNumVertices).foldl
    (fun attr v => attr.modify (overlayLabel h topSolutions v) (· ++ [v]))
    (List.replicate (overlay h topSolutions).2.length [])

def bestSolution (bestSolutionId : Nat) : Partitions := topSolutions.getD bestSolutionId []

def initSolution (bestSolutionId : Nat) : Partitions :=
  (overlay h topSolutions).2.map (blockOf (bestSolution topSolutions bestSolutionId))

def clusteredHgraph (c : Coarsener) (ev : GoldenEvaluator vd hd) : Hypergraph vd hd :=
  c.groupVertices h ev (clusterAttr h topSolutions)

/-- The overlay with its way of partitioning the clustered hypergraph from the hint. -/
def cutOverlayILPPart (c : Coarsener) (ev : GoldenEvaluator vd hd)
    (partitioned : Hypergraph vd hd → Partitions → Partitions) (bestSolutionId : Nat) :
    Partitions :=
  let clustered := clusteredHgraph h topSolutions c ev
  let solution := partitioned clustered (initSolution h topSolutions bestSolutionId)
  (List.range clustered.getNumVertices).foldl (fun optimal cluster =>
      (clustered.getVertexCAttr cluster).foldl
        (fun optimal v => optimal.set v (blockOf solution cluster)) optimal)
    (bestSolution topSolutions bestSolutionId)

end

end OpenRoad.Par
