import OpenRoad.Par.Hypergraph

/-! The generators of initial partitions. -/

namespace OpenRoad.Par

open List

inductive PartitionType
  | kInitRandom
  | kInitRandomVile
  | kInitVile
  | kInitDirectIlp
deriving DecidableEq

structure IlpModel (vd : Nat) where
  numParts : Nat
  /-- Vertices, each with its block. -/
  fixedVertices : List (Nat × Nat)
  hyperedges : List (List Nat)
  hyperedgeWeights : List ℚ
  vertexWeights : List (Weights vd)
  upperBlockBalance : List (Weights vd)
  lowerBlockBalance : List (Weights vd)

structure IlpSolution where
  x : Nat → Nat → Int
  y : Nat → Nat → Int

namespace IlpModel

variable {vd : Nat} (m : IlpModel vd) (s : IlpSolution)

def numVertices : Nat := m.vertexWeights.length

def numHyperedges : Nat := m.hyperedgeWeights.length

def blockWeight (i : Nat) (j : Fin vd) : ℚ :=
  ∑ v ∈ Finset.range m.numVertices, s.x i v * m.vertexWeights.getD v 0 j

structure Feasible : Prop where
  x_binary : ∀ i < m.numParts, ∀ v < m.numVertices, s.x i v = 0 ∨ s.x i v = 1
  y_binary : ∀ i < m.numParts, ∀ e < m.numHyperedges, s.y i e = 0 ∨ s.y i e = 1
  upper : ∀ i < m.numParts, ∀ j,
    0 ≤ m.blockWeight s i j ∧ m.blockWeight s i j ≤ m.upperBlockBalance.getD i 0 j
  lower : ∀ i < m.numParts, ∀ j, m.lowerBlockBalance.getD i 0 j ≤ m.blockWeight s i j
  fixed : ∀ entry ∈ m.fixedVertices, s.x entry.2 entry.1 = 1
  one_block : ∀ v < m.numVertices, ∑ i ∈ Finset.range m.numParts, s.x i v = 1
  within : ∀ e < m.numHyperedges, ∀ v ∈ m.hyperedges.getD e [], ∀ i < m.numParts,
    0 ≤ s.x i v - s.y i e

def costStep : ℚ :=
  m.hyperedgeWeights.foldl min 1 / m.numParts / (m.numVertices * (m.numVertices + 1) / 2)

def objective : ℚ :=
  (∑ e ∈ Finset.range m.numHyperedges, ∑ i ∈ Finset.range m.numParts,
    m.hyperedgeWeights.getD e 0 * s.y i e) +
  ∑ v ∈ Finset.range m.numVertices, ∑ i ∈ Finset.range m.numParts, m.costStep * i * s.x i v

structure Optimal : Prop where
  feasible : m.Feasible s
  best : ∀ other, m.Feasible other → m.objective other ≤ m.objective s

end IlpModel

structure Environment (vd : Nat) where
  shuffle : List Nat → List Nat
  sort : (Nat → ℚ) → List Nat → List Nat
  solve : IlpModel vd → Option IlpSolution

structure Environment.Lawful {vd : Nat} (env : Environment vd) : Prop where
  shuffle_perm : ∀ vertices, (env.shuffle vertices).Perm vertices
  sort_perm : ∀ key vertices, (env.sort key vertices).Perm vertices
  sort_sorted : ∀ key vertices, (env.sort key vertices).Pairwise fun u v => key u ≤ key v
  solve_optimal : ∀ m s, env.solve m = some s → m.Optimal s

structure Partitioner (vd hd : Nat) where
  numParts : Nat
  ilpAcceleratorFactor : ℚ
  evaluator : GoldenEvaluator vd hd

/-- The `>=` of weight vectors, which compares them lexicographically. -/
def weightsGe {d : Nat} (a b : Weights d) : Bool := ¬ List.ofFn a < List.ofFn b

namespace Hypergraph

variable {vd hd : Nat} (h : Hypergraph vd hd)

def fixedVertices : List Nat := (List.range h.getNumVertices).filter fun v => h.isFixed v

def assignFixed (solution : Partitions) : Partitions :=
  h.fixedVertices.foldl (fun solution v => solution.set v (h.getFixedAttr v)) solution

end Hypergraph

namespace Partitioner

variable {vd hd : Nat} (p : Partitioner vd hd) (env : Environment vd) (h : Hypergraph vd hd)

def collectPathVertices (state : List Nat × List Nat) (v : Nat) : List Nat × List Nat :=
  if v ∈ state.1 then state else (state.1 ++ [v], state.2 ++ [v])

/-- The free vertices in the order they are placed, those on timing paths first. -/
def freeVertices : List Nat :=
  let collected := ((List.range h.getNumTimingPaths).flatMap h.pathVertices).foldl
    collectPathVertices (h.fixedVertices, [])
  let remaining := (List.range h.getNumVertices).filter fun v => v ∉ collected.1
  env.shuffle collected.2 ++ env.shuffle remaining

structure RandomState (vd : Nat) where
  solution : Partitions
  blockBalance : List (Weights vd)
  blockId : Nat
  stopFlag : Bool

/-- A vertex goes to the current block, which is left once its balance reaches the lower bound. -/
def placeBalanced (lowerBlockBalance : List (Weights vd)) (s : RandomState vd) (v : Nat) :
    RandomState vd :=
  let balance := s.blockBalance.modify s.blockId (· + h.getVertexWeights v)
  { s with
    solution := s.solution.set v s.blockId
    blockBalance := balance
    blockId :=
      if weightsGe (balance.getD s.blockId 0) (lowerBlockBalance.getD s.blockId 0) then
        (s.blockId + 1) % p.numParts
      else s.blockId }

/-- A vertex that fills the current block goes to the next one, up to the last block. -/
def placeVile (upperBlockBalance : List (Weights vd)) (s : RandomState vd) (v : Nat) :
    RandomState vd :=
  let solution := s.solution.set v s.blockId
  let balance := s.blockBalance.modify s.blockId (· + h.getVertexWeights v)
  if weightsGe (balance.getD s.blockId 0) (upperBlockBalance.getD s.blockId 0) ∧ ¬ s.stopFlag then
    { solution := solution.set v (s.blockId + 1 : Nat)
      blockBalance := balance
      blockId := s.blockId + 1
      stopFlag := if s.blockId + 1 = p.numParts - 1 then true else s.stopFlag }
  else { s with solution, blockBalance := balance }

def randomPart (upperBlockBalance lowerBlockBalance : List (Weights vd)) (solution : Partitions)
    (vileMode : Bool) : Partitions :=
  let balance := h.fixedVertices.foldl
    (fun balance v => balance.modify (h.getFixedAttr v).toNat (· + h.getVertexWeights v))
    (List.replicate p.numParts 0)
  let start : RandomState vd := ⟨h.assignFixed solution, balance, 0, false⟩
  let place :=
    if vileMode then p.placeVile h upperBlockBalance else p.placeBalanced h lowerBlockBalance
  ((freeVertices env h).foldl place start).solution

def placeInTurn (s : Partitions × Nat) (v : Nat) : Partitions × Nat :=
  (s.1.set v s.2, (s.2 + 1) % p.numParts)

def vilePart : Partitions :=
  let unvisited := (List.range h.getNumVertices).filter fun v => ¬ h.isFixed v
  let start := h.assignFixed (List.replicate h.getNumVertices 0)
  ((env.sort (p.evaluator.getVertexWeightNorm h) unvisited).foldl p.placeInTurn (start, 0)).1

def pickTop (bound : ℚ) : ℚ → List (Nat × ℚ) → List Nat
  | _, [] => []
  | score, value :: rest =>
    if score ≤ bound then value.1 :: pickTop bound (score + value.2) rest else []

def edgeMask : List Nat :=
  let edges := List.range h.getNumHyperedges
  let cost := p.evaluator.calculateHyperedgeCost h
  if 1 ≤ p.ilpAcceleratorFactor then edges
  else if 0 < p.ilpAcceleratorFactor then
    let unvisited := (edges.map fun e => (e, cost e)).insertionSort
      fun l r => r.2 < l.2 ∨ (l.2 = r.2 ∧ l.1 ≤ r.1)
    pickTop ((edges.map cost).sum * p.ilpAcceleratorFactor) 0 unvisited
  else []

/-- The model of `ILPPart`: its map of fixed vertices is declared and never filled. -/
def ilpModel (upperBlockBalance lowerBlockBalance : List (Weights vd)) : IlpModel vd where
  numParts := p.numParts
  fixedVertices := []
  hyperedges := (p.edgeMask h).map h.vertices
  hyperedgeWeights := (p.edgeMask h).map (p.evaluator.calculateHyperedgeCost h)
  vertexWeights := (List.range h.getNumVertices).map h.getVertexWeights
  upperBlockBalance
  lowerBlockBalance

def readBlock (numParts : Nat) (s : IlpSolution) (v : Nat) : Int :=
  match (List.range numParts).find? fun i => s.x i v = 1 with
  | some i => i
  | none => -1

def ilpCalled (m : IlpModel vd) : Bool :=
  0 < m.numVertices ∧ 0 < m.numHyperedges ∧ 1 < m.numParts ∧ 0 < vd

/-- The solution, and whether the solver found an optimal one. -/
def ilpPartitionInst (m : IlpModel vd) (solution : Partitions) : Partitions × Bool :=
  if ilpCalled m then
    match env.solve m with
    | some s => ((List.range m.numVertices).map (readBlock m.numParts s), true)
    | none => (List.replicate m.numVertices (-1), false)
  else (solution, false)

def ilpPart (upperBlockBalance lowerBlockBalance : List (Weights vd)) (solution : Partitions) :
    Partitions :=
  let inst := ilpPartitionInst env (p.ilpModel h upperBlockBalance lowerBlockBalance)
    (h.assignFixed solution)
  if inst.2 then inst.1
  else p.randomPart env h upperBlockBalance lowerBlockBalance inst.1 false

def partition (upperBlockBalance lowerBlockBalance : List (Weights vd)) (solution : Partitions)
    (partitionerChoice : PartitionType) : Partitions :=
  let solution :=
    if solution.length = h.getNumVertices then solution
    else List.replicate h.getNumVertices (-1)
  match partitionerChoice with
  | .kInitRandom => p.randomPart env h upperBlockBalance lowerBlockBalance solution false
  | .kInitRandomVile => p.randomPart env h upperBlockBalance lowerBlockBalance solution true
  | .kInitVile => p.vilePart env h
  | .kInitDirectIlp => p.ilpPart env h upperBlockBalance lowerBlockBalance solution

end Partitioner

end OpenRoad.Par
