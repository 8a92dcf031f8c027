import OpenRoad.Lib.Tally
import OpenRoad.Par.Coarsener

/-! A solution of a contracted hypergraph costs what its projection costs. -/

namespace OpenRoad.Par

open Lib List OpenRoad.Par.Hypergraph GoldenEvaluator Coarsener

variable {vd hd : Nat} {c : Coarsener} {ev : GoldenEvaluator vd hd} {h : Hypergraph vd hd}
  {clusters : List Nat}

lemma mem_idSet {ids : List Nat} {id : Nat} : id ∈ idSet ids ↔ id ∈ ids := by
  rw [idSet, mem_insertionSort, mem_dedup]

lemma idSet_small {ids : List Nat} (small : (idSet ids).length ≤ 1) {a b : Nat} (first : a ∈ ids)
    (second : b ∈ ids) : a = b := by
  rw [← mem_idSet] at first second
  match e : idSet ids with
  | [] =>
    rw [e] at first
    cases first
  | [only] =>
    rw [e] at first second
    rw [mem_singleton.mp first, mem_singleton.mp second]
  | _ :: _ :: _ =>
    rw [e] at small
    simp only [length_cons] at small
    omega

lemma isCut_iff (solution : Partitions) (vertices : List Nat) : isCut solution vertices = true ↔
      ∃ a ∈ vertices, ∃ b ∈ vertices, blockOf solution a ≠ blockOf solution b := by
  cases vertices with
  | nil => simp [isCut]
  | cons first rest =>
    simp only [isCut, any_eq_true, decide_eq_true_eq]
    constructor
    · rintro ⟨v, member, differs⟩
      exact ⟨v, mem_cons_of_mem _ member, first, mem_cons_self, differs⟩
    · rintro ⟨a, aMember, b, bMember, differs⟩
      by_contra none
      have same : ∀ v ∈ first :: rest, blockOf solution v = blockOf solution first := by
        intro v member
        rcases mem_cons.mp member with rfl | later
        · rfl
        · by_contra other
          exact none ⟨v, later, other⟩
      exact differs ((same a aMember).trans (same b bMember).symm)

lemma isCut_clusters {solution assignment : Partitions} {vertices : List Nat}
    (blocks : ∀ v ∈ vertices,
      blockOf solution v = blockOf assignment (clusterOf clusters v)) :
    isCut assignment (idSet (vertices.map (clusterOf clusters))) =
      isCut solution vertices := by
  rw [Bool.eq_iff_iff, isCut_iff, isCut_iff]
  constructor
  · rintro ⟨a, aMember, b, bMember, differs⟩
    rw [mem_idSet, mem_map] at aMember bMember
    rcases aMember with ⟨v, vMember, rfl⟩
    rcases bMember with ⟨w, wMember, rfl⟩
    refine ⟨v, vMember, w, wMember, ?_⟩
    rwa [blocks v vMember, blocks w wMember]
  · rintro ⟨v, vMember, w, wMember, differs⟩
    rw [blocks v vMember, blocks w wMember] at differs
    exact ⟨_, mem_idSet.mpr (mem_map_of_mem vMember), _,
      mem_idSet.mpr (mem_map_of_mem wMember), differs⟩

lemma contractedVertices_some {e : Nat} {hyperedgeC : List Nat}
    (kept : c.contractedVertices h clusters e = some hyperedgeC) :
    hyperedgeC = idSet ((h.vertices e).map (clusterOf clusters)) := by
  rw [contractedVertices] at kept
  dsimp only at kept
  split at kept
  · cases kept
  · split at kept
    · cases kept
    · exact (Option.some.inj kept).symm

lemma contractedVertices_none {e : Nat} {solution assignment : Partitions}
    (fits : (h.vertices e).length ≤ c.thrCoarsenHyperedgeSizeSkip)
    (blocks : ∀ v ∈ h.vertices e,
      blockOf solution v = blockOf assignment (clusterOf clusters v))
    (dropped : c.contractedVertices h clusters e = none) : isCut solution (h.vertices e) = false := by
  rw [← Bool.not_eq_true, isCut_iff]
  rintro ⟨a, aMember, b, bMember, differs⟩
  rw [contractedVertices] at dropped
  dsimp only at dropped
  split at dropped
  · rename_i small
    rcases small with small | large
    · match e' : h.vertices e with
      | [] =>
        rw [e'] at aMember
        cases aMember
      | [only] =>
        rw [e', mem_singleton] at aMember bMember
        exact differs (by rw [aMember, bMember])
      | _ :: _ :: _ =>
        rw [e'] at small
        simp only [length_cons] at small
        omega
    · exact absurd fits (Nat.not_le.mpr large)
  · split at dropped
    · rename_i together
      apply differs
      rw [blocks a aMember, blocks b bMember,
        idSet_small together (mem_map_of_mem aMember) (mem_map_of_mem bMember)]
    · cases dropped

lemma contractEdges_total {M : Type} [AddCommMonoid M] (measure : List Nat → Weights hd → M)
    (adds : ∀ vertices first second, measure vertices (first + second) =
      measure vertices first + measure vertices second) (items : List Nat) :
    ∀ table : Coarsener.EdgeTable hd, ((items.foldl (c.contractEdge h clusters) table).1.entries.map
        fun entry => measure entry.1 entry.2.weights).sum =
      (table.1.entries.map fun entry => measure entry.1 entry.2.weights).sum +
        (items.map fun e => match c.contractedVertices h clusters e with
          | none => 0
          | some hyperedgeC => measure hyperedgeC (h.getHyperedgeWeights e)).sum := by
  induction items with
  | nil =>
    intro table
    rw [foldl_nil, map_nil, sum_nil, add_zero]
  | cons e rest ih =>
    intro table
    rw [foldl_cons, ih, map_cons, sum_cons, ← add_assoc, contractEdge]
    congr 1
    cases found : c.contractedVertices h clusters e with
    | none => exact (add_zero _).symm
    | some hyperedgeC =>
      exact HashMerge.insert_total idHash EdgeData.merge
        (fun vertices (data : EdgeData hd) => measure vertices data.weights)
        (fun vertices first second => adds vertices first.weights second.weights) _ _ _

def weighted (ev : GoldenEvaluator vd hd) (weights : Weights hd) : ℚ :=
  ∑ i, weights i * ev.eWtFactors i

lemma weighted_add (first second : Weights hd) :
    weighted ev (first + second) = weighted ev first + weighted ev second := by
  rw [weighted, weighted, weighted, ← Finset.sum_add_distrib]
  exact Finset.sum_congr rfl fun i _ => add_mul (first i) (second i) (ev.eWtFactors i)

def cutWeight (ev : GoldenEvaluator vd hd) (solution : Partitions) (vertices : List Nat)
    (weights : Weights hd) : ℚ :=
  if isCut solution vertices then weighted ev weights else 0

lemma cutWeight_add (solution : Partitions) (vertices : List Nat) (first second : Weights hd) :
    cutWeight ev solution vertices (first + second) =
      cutWeight ev solution vertices first + cutWeight ev solution vertices second := by
  rw [cutWeight, cutWeight, cutWeight]
  split
  · exact weighted_add first second
  · exact (add_zero 0).symm

lemma cutEvaluator_untimed {solution : Partitions} {edges : List Nat}
    (defined : getCutHyperedges h solution = some edges)
    (untimed : ∀ e ∈ edges, h.timingFlag = false) (pathless : h.timingPaths = []) :
    ev.cutEvaluator h solution = some ⟨((range h.getNumHyperedges).map fun e =>
        cutWeight ev solution (h.vertices e) (h.getHyperedgeWeights e)).sum,
        ev.getBlockBalance h solution⟩ := by
  have plain : ∀ e ∈ edges,
      ev.calculateHyperedgeCost h e = weighted ev (h.getHyperedgeWeights e) := by
    intro e member
    rw [calculateHyperedgeCost, untimed e member]
    exact add_zero _
  have edgeCost : (edges.map (ev.calculateHyperedgeCost h)).sum =
      ((range h.getNumHyperedges).map fun e =>
        cutWeight ev solution (h.vertices e) (h.getHyperedgeWeights e)).sum := by
    rw [map_congr_left plain]
    rw [getCutHyperedges] at defined
    split at defined
    · cases defined
    · rw [← Option.some.inj defined, Tally.sum_range_map]
      have chosen := Tally.sum_range_filter h.getNumHyperedges
        (fun e => isCut solution (h.vertices e) = true)
        (fun e => weighted ev (h.getHyperedgeWeights e))
      simp only [Bool.decide_eq_true] at chosen
      exact chosen
  rw [cutEvaluator, defined, ← edgeCost, getNumTimingPaths, pathless]
  show some _ = some _
  rw [length_nil, range_zero, map_nil, sum_nil, add_zero]

lemma sum_by_index {α β : Type} (entries : List α) (first : α → List Nat) (second : α → β)
    (default : β) (measure : List Nat → β → ℚ) :
    ((range entries.length).map fun i =>
      measure ((entries.map first).getD i []) ((entries.map second).getD i default)).sum =
      (entries.map fun entry => measure (first entry) (second entry)).sum := by
  congr 1
  apply ext_getElem
  · rw [length_map, length_map, length_range]
  · intro i inside _
    rw [length_map, length_range] at inside
    simp [inside]

def memberWeights (h : Hypergraph vd hd) (clusters : List Nat) (cluster : Nat) : Weights vd :=
  (((List.range h.getNumVertices).filter fun v => clusterOf clusters v = cluster).map
    h.getVertexWeights).sum

lemma contractedVertices_nonempty {e : Nat} {hyperedgeC : List Nat}
    (kept : c.contractedVertices h clusters e = some hyperedgeC) : hyperedgeC.isEmpty = false := by
  rw [contractedVertices] at kept
  dsimp only at kept
  split at kept
  · cases kept
  · split at kept
    · cases kept
    · rename_i large
      rw [← Option.some.inj kept, isEmpty_eq_false_iff]
      intro empty
      rw [empty] at large
      exact large (Nat.zero_le 1)

lemma contractEdges_entries (items : List Nat) : ∀ table : Coarsener.EdgeTable hd,
      (∀ entry ∈ table.1.entries, entry.1.isEmpty = false ∧
        (h.timingFlag = false → entry.2.timing = none)) →
      ∀ entry ∈ (items.foldl (c.contractEdge h clusters) table).1.entries,
        entry.1.isEmpty = false ∧ (h.timingFlag = false → entry.2.timing = none) := by
  induction items with
  | nil => exact fun _ each => each
  | cons e rest ih =>
    intro table each
    rw [foldl_cons]
    apply ih
    rw [contractEdge]
    cases found : c.contractedVertices h clusters e with
    | none => exact each
    | some hyperedgeC =>
      have nonempty := contractedVertices_nonempty found
      have plain : h.timingFlag = false → (edgeData h e).timing = none := by
        intro untimed
        rw [edgeData, untimed]
        rfl
      refine HashMerge.insert_entries idHash EdgeData.merge
        (P := fun key data => key.isEmpty = false ∧ (h.timingFlag = false → data.timing = none))
        each ⟨nonempty, plain⟩ ?_
      rintro old ⟨_, oldPlain⟩
      refine ⟨nonempty, fun untimed => ?_⟩
      rw [EdgeData.merge, oldPlain untimed]

lemma contractEdges_sound : ∀ entry ∈ (c.contractEdges h clusters).1.entries,
      entry.1.isEmpty = false ∧ (h.timingFlag = false → entry.2.timing = none) :=
  contractEdges_entries _ _ fun _ member => nomatch member

lemma vertexCAttr_groups (numClusters cluster : Nat) (inside : cluster < numClusters) :
    (vertexCAttrOf h clusters numClusters).getD cluster [] =
      (range h.getNumVertices).filter fun v => clusterOf clusters v = cluster := by
  rw [getD_eq_getElem?_getD, vertexCAttrOf, Tally.getElem?_groups, if_pos inside]
  rfl

section

variable {vertexWeightsC : List (Weights vd)} {communityAttrC fixedAttrC : List Int}

lemma contraction_vertices :
    (c.contraction h clusters vertexWeightsC communityAttrC fixedAttrC).getNumVertices =
      vertexWeightsC.length :=
  rfl

lemma blockOf_projected (assignment : Partitions) {v : Nat} (inside : v < h.getNumVertices)
    (mapped : clusterOf clusters v < vertexWeightsC.length) :
    blockOf (projected (c.contraction h clusters vertexWeightsC communityAttrC fixedAttrC) h
      assignment) v = blockOf assignment (clusterOf clusters v) := by
  let writes := (range vertexWeightsC.length).flatMap fun cluster =>
    ((vertexCAttrOf h clusters vertexWeightsC.length).getD cluster []).map
      fun v => (v, blockOf assignment cluster)
  have flat : projected (c.contraction h clusters vertexWeightsC communityAttrC fixedAttrC) h
      assignment = writes.foldl (fun table w => table.set w.1 w.2)
        (replicate h.getNumVertices 0) := by
    rw [foldl_flatMap]
    simp only [foldl_map]
    rfl
  have agree : ∀ w ∈ writes, w.2 = blockOf assignment (clusterOf clusters w.1) := by
    intro w member
    rcases mem_flatMap.mp member with ⟨cluster, clusterInside, wMember⟩
    rw [vertexCAttr_groups _ _ (mem_range.mp clusterInside), mem_map] at wMember
    rcases wMember with ⟨u, uMember, rfl⟩
    rw [mem_filter, decide_eq_true_eq] at uMember
    rw [uMember.2]
  have written : v ∈ writes.map Prod.fst := by
    rw [mem_map]
    refine ⟨(v, blockOf assignment (clusterOf clusters v)), ?_, rfl⟩
    refine mem_flatMap.mpr ⟨_, mem_range.mpr mapped, ?_⟩
    rw [vertexCAttr_groups _ _ mapped]
    refine mem_map_of_mem (mem_filter.mpr ⟨mem_range.mpr inside, ?_⟩)
    exact decide_eq_true rfl
  rw [blockOf, getD_eq_getElem?_getD, flat,
    Tally.getElem?_writes (fun v => blockOf assignment (clusterOf clusters v)) writes _ v
      agree (by rwa [length_replicate]), if_pos written]
  rfl

lemma getElem?_blockBalance (solution : Partitions) (b : Nat) :
    (ev.getBlockBalance h solution)[b]? =
      if b < ev.numParts then
        some (∑ v ∈ Finset.range h.getNumVertices,
          if (blockOf solution v).toNat = b then h.getVertexWeights v else 0)
      else none := by
  rw [getBlockBalance, Tally.getElem?_totals, Tally.sum_range_filter]

lemma blockBalance_contraction {solution assignment : Partitions}
    (mapped : ∀ v < h.getNumVertices, clusterOf clusters v < vertexWeightsC.length)
    (totals : ∀ cluster < vertexWeightsC.length,
      vertexWeightsC.getD cluster 0 = memberWeights h clusters cluster)
    (blocks : ∀ v < h.getNumVertices,
      blockOf solution v = blockOf assignment (clusterOf clusters v)) :
    ev.getBlockBalance (c.contraction h clusters vertexWeightsC communityAttrC fixedAttrC)
      assignment = ev.getBlockBalance h solution := by
  apply ext_getElem?
  intro b
  rw [getElem?_blockBalance, getElem?_blockBalance, contraction_vertices]
  congr 2
  calc (∑ cluster ∈ Finset.range vertexWeightsC.length,
        if (blockOf assignment cluster).toNat = b then vertexWeightsC.getD cluster 0 else 0)
      = ∑ cluster ∈ Finset.range vertexWeightsC.length,
          if (blockOf assignment cluster).toNat = b then
            ∑ v ∈ Finset.range h.getNumVertices,
              if clusterOf clusters v = cluster then h.getVertexWeights v else 0
          else 0 := by
        refine Finset.sum_congr rfl fun cluster member => ?_
        rw [totals cluster (Finset.mem_range.mp member), memberWeights, Tally.sum_range_filter]
    _ = ∑ v ∈ Finset.range h.getNumVertices,
          if (blockOf assignment (clusterOf clusters v)).toNat = b then
            h.getVertexWeights v else 0 :=
        Tally.sum_groups h.getNumVertices vertexWeightsC.length (clusterOf clusters)
          mapped (fun cluster => (blockOf assignment cluster).toNat = b) h.getVertexWeights
    _ = ∑ v ∈ Finset.range h.getNumVertices,
          if (blockOf solution v).toNat = b then h.getVertexWeights v else 0 := by
        refine Finset.sum_congr rfl fun v member => ?_
        rw [blocks v (Finset.mem_range.mp member)]

lemma contraction_untimed (untimed : h.timingFlag = false)
    (some' : 0 < (c.contractEdges h clusters).1.entries.length) :
    (c.contraction h clusters vertexWeightsC communityAttrC fixedAttrC).timingFlag = false := by
  have none' : (c.contractEdges h clusters).1.entries.filterMap (fun entry => entry.2.timing) =
      [] := by
    rw [filterMap_eq_nil_iff]
    exact fun entry member => (contractEdges_sound entry member).2 untimed
  show decide (_ ∧ _) = false
  rw [none', decide_eq_false_iff_not, length_map, length_map]
  exact fun lengths => absurd lengths.1 (Nat.ne_of_lt some')

lemma edge_costs_contraction {solution assignment : Partitions}
    (fits : ∀ e < h.getNumHyperedges, (h.vertices e).length ≤ c.thrCoarsenHyperedgeSizeSkip)
    (blocks : ∀ e < h.getNumHyperedges, ∀ v ∈ h.vertices e,
      blockOf solution v = blockOf assignment (clusterOf clusters v)) :
    ((c.contractEdges h clusters).1.entries.map
      fun entry => cutWeight ev assignment entry.1 entry.2.weights).sum =
      ((range h.getNumHyperedges).map fun e =>
        cutWeight ev solution (h.vertices e) (h.getHyperedgeWeights e)).sum := by
  rw [contractEdges, contractEdges_total _ (cutWeight_add assignment)]
  show 0 + _ = _
  rw [zero_add]
  congr 1
  apply map_congr_left
  intro e member
  have inside := mem_range.mp member
  cases found : c.contractedVertices h clusters e with
  | none =>
    show 0 = _
    rw [cutWeight, contractedVertices_none (fits e inside) (blocks e inside) found]
    rfl
  | some hyperedgeC =>
    show cutWeight ev assignment hyperedgeC _ = _
    rw [contractedVertices_some found, cutWeight, isCut_clusters (blocks e inside), cutWeight]

lemma cutHyperedges_contraction (assignment : Partitions) :
    ∃ edges, getCutHyperedges
      (c.contraction h clusters vertexWeightsC communityAttrC fixedAttrC) assignment =
        some edges ∧ ∀ e ∈ edges, e < (c.contractEdges h clusters).1.entries.length := by
  rw [getCutHyperedges, if_neg]
  · refine ⟨_, rfl, fun e member => ?_⟩
    have inside := mem_range.mp (mem_filter.mp member).1
    rwa [getNumHyperedges, contraction, new, length_map]
      at inside
  · rw [any_eq_true]
    rintro ⟨vertices, member, empty⟩
    rcases mem_map.mp member with ⟨entry, entryMember, rfl⟩
    rw [(contractEdges_sound entry entryMember).1] at empty
    cases empty

lemma contraction_pathless (untimed : h.timingFlag = false) :
    (c.contraction h clusters vertexWeightsC communityAttrC fixedAttrC).timingPaths = [] := by
  have noPaths : ∀ edgeClusters, contractPaths h clusters edgeClusters = [] := by
    intro edgeClusters
    rw [contractPaths, untimed]
    rfl
  show (if _ then contractPaths h clusters _ else []) = []
  rw [noPaths]
  exact ite_self _

lemma contraction_hyperedges :
    (c.contraction h clusters vertexWeightsC communityAttrC fixedAttrC).getNumHyperedges =
      (c.contractEdges h clusters).1.entries.length := by
  rw [getNumHyperedges, contraction, new, length_map]

lemma contraction_edge (e : Nat) :
    (c.contraction h clusters vertexWeightsC communityAttrC fixedAttrC).vertices e =
      ((c.contractEdges h clusters).1.entries.map Prod.fst).getD e [] :=
  rfl

lemma contraction_edgeWeights (e : Nat) :
    (c.contraction h clusters vertexWeightsC communityAttrC fixedAttrC).getHyperedgeWeights e =
      ((c.contractEdges h clusters).1.entries.map fun entry => entry.2.weights).getD e 0 :=
  rfl

lemma edge_costs_entries (assignment : Partitions) :
    ((range (c.contraction h clusters vertexWeightsC communityAttrC
        fixedAttrC).getNumHyperedges).map fun e =>
      cutWeight ev assignment
        ((c.contraction h clusters vertexWeightsC communityAttrC fixedAttrC).vertices e)
        ((c.contraction h clusters vertexWeightsC communityAttrC
          fixedAttrC).getHyperedgeWeights e)).sum =
      ((c.contractEdges h clusters).1.entries.map
        fun entry => cutWeight ev assignment entry.1 entry.2.weights).sum := by
  simp only [contraction_hyperedges, contraction_edge, contraction_edgeWeights]
  generalize (c.contractEdges h clusters).1.entries = entries
  exact sum_by_index entries Prod.fst (fun entry => entry.2.weights) 0 (cutWeight ev assignment)

/-- An assignment of the clusters has the cost and the block balance of its projection. -/
theorem contraction_preserves_cost (c : Coarsener) (ev : GoldenEvaluator vd hd)
    (h : Hypergraph vd hd) (clusters : List Nat) (vertexWeightsC : List (Weights vd))
    (communityAttrC fixedAttrC : List Int) (assignment : Partitions) (token : PartitionToken vd)
    (valid : h.Valid) (untimed : h.timingFlag = false)
    (fits : ∀ e < h.getNumHyperedges, (h.vertices e).length ≤ c.thrCoarsenHyperedgeSizeSkip)
    (mapped : ∀ v < h.getNumVertices, clusterOf clusters v < vertexWeightsC.length)
    (totals : ∀ cluster < vertexWeightsC.length,
      vertexWeightsC.getD cluster 0 = memberWeights h clusters cluster)
    (evaluated : ev.cutEvaluator h
      (projected (c.contraction h clusters vertexWeightsC communityAttrC fixedAttrC) h
        assignment) = some token) :
    ev.cutEvaluator (c.contraction h clusters vertexWeightsC communityAttrC fixedAttrC)
      assignment = some token := by
  have blocks : ∀ v < h.getNumVertices,
      blockOf (projected (c.contraction h clusters vertexWeightsC communityAttrC fixedAttrC) h
        assignment) v = blockOf assignment (clusterOf clusters v) :=
    fun v inside => blockOf_projected assignment inside (mapped v inside)
  generalize projected (c.contraction h clusters vertexWeightsC communityAttrC fixedAttrC) h
    assignment = solution at evaluated blocks
  rcases cutHyperedges_contraction (h := h) assignment with ⟨coarseEdges, coarseDefined, bound⟩
  cases defined : getCutHyperedges h solution with
  | none =>
    rw [cutEvaluator, defined] at evaluated
    cases evaluated
  | some edges =>
    rw [cutEvaluator_untimed defined (fun _ _ => untimed) (valid.not_timing untimed),
      Option.some.injEq] at evaluated
    rw [cutEvaluator_untimed coarseDefined (fun e member => contraction_untimed untimed
        (Nat.lt_of_le_of_lt (Nat.zero_le e) (bound e member))) (contraction_pathless untimed),
      ← evaluated, blockBalance_contraction mapped totals blocks]
    rw [edge_costs_entries, edge_costs_contraction fits fun e _ v member =>
      blocks v (valid.vertices_lt e v member)]

end

def sampleEvaluator : GoldenEvaluator 1 1 where
  numParts := 2
  eWtFactors := fun _ => 2
  vWtFactors := fun _ => 1
  netTimingFactor := 1
  pathTimingFactor := 1
  pathSnakingFactor := 1
  timingScore := fun slack => 1 - slack

def sampleHypergraph : Hypergraph 1 1 :=
  new [[0, 1], [1, 2], [0, 3, 2], [2, 3], [0, 2]]
    [fun _ => 1, fun _ => 2, fun _ => 3, fun _ => 4]
    [fun _ => 1, fun _ => 1, fun _ => 5, fun _ => 1, fun _ => 7] [] [] [] [] []

theorem contraction_preserves_cost_sample : sampleEvaluator.cutEvaluator
      ((Coarsener.mk 10 2).contraction sampleHypergraph [0, 0, 1, 2]
        [fun _ => 3, fun _ => 3, fun _ => 4] [] []) [0, 1, 1] =
      some ⟨26, [fun _ => 3, fun _ => 7]⟩ := by
  apply contraction_preserves_cost
  · exact ⟨rfl, by decide, nofun, nofun, fun _ => rfl, fun _ => rfl⟩
  · rfl
  · decide
  · decide
  · with_unfolding_all decide
  · with_unfolding_all decide

end OpenRoad.Par
