import OpenRoad.Par.GainCuts

/-! What the gain of a move says about the cost of the solution. -/

namespace OpenRoad.Par

open Lib List GoldenEvaluator

variable {vd hd : Nat} {ev : GoldenEvaluator vd hd} {h : Hypergraph vd hd} {solution : Partitions}

lemma pathCost_congr {left right : Partitions} (p : Nat)
    (same : ∀ v ∈ h.pathVertices p, blockOf left v = blockOf right v) :
    ev.calculatePathCost h p left = ev.calculatePathCost h p right := by
  have blocks : blockPath left (h.pathVertices p) =
      blockPath right (h.pathVertices p) := by
    rw [blockPath, blockPath, map_congr_left same]
  simp only [GoldenEvaluator.calculatePathCost, blocks]

variable {moved : Partitions} {toPid v p : Nat}

lemma calculatePathCost_eq (refinable : Refinable h)
    (after : ∀ u, blockOf moved u = if u = v then (toPid : Int) else blockOf solution u) (p : Nat) :
    calculatePathCost ev h p solution v toPid = ev.calculatePathCost h p moved := by
  have blocks : ((h.pathVertices p).map fun u =>
      if u = v then (toPid : Int) else blockOf solution u).destutter (· ≠ ·) =
      blockPath moved (h.pathVertices p) := by
    rw [blockPath]
    congr 1
    exact map_congr_left fun u _ => (after u).symm
  have costs := refinable.costs.not_gt
  simp only [calculatePathCost, GoldenEvaluator.calculatePathCost, blocks, costs, false_or]

lemma getD_pathsCost (refinable : Refinable h) (inside : p < h.getNumTimingPaths) :
    (ev.getPathsCost h solution).getD p 0 = ev.calculatePathCost h p solution := by
  have costs := refinable.costs.not_gt
  have some' : h.getNumTimingPaths ≠ 0 := by omega
  rw [getPathsCost, if_neg (by simp only [some', costs, or_self, not_false_iff]),
    getD_eq_getElem?_getD, getElem?_map, getElem?_range inside]
  rfl

lemma mem_timingPathsThrough :
    p ∈ h.timingPathsThrough v ↔ p < h.getNumTimingPaths ∧ v ∈ h.pathVertices p := by
  simp only [Hypergraph.timingPathsThrough, mem_flatMap, mem_range, mem_replicate,
    ne_eq, count_eq_zero, not_not]
  constructor
  · rintro ⟨q, inside, passes, rfl⟩
    exact ⟨inside, passes⟩
  · rintro ⟨inside, passes⟩
    exact ⟨p, inside, passes, rfl⟩

lemma sum_timingPathsThrough (v : Nat) (weight : Nat → ℚ) :
    ((h.timingPathsThrough v).map weight).sum = ((range h.getNumTimingPaths).map fun p =>
        ((h.pathVertices p).count v : ℚ) * weight p).sum := by
  rw [Hypergraph.timingPathsThrough]
  induction range h.getNumTimingPaths with
  | nil => rfl
  | cons p rest ih =>
    rw [flatMap_cons, map_append, sum_append, ih, map_replicate,
      sum_replicate, nsmul_eq_mul, map_cons, sum_cons]

def pathDecrease (ev : GoldenEvaluator vd hd) (h : Hypergraph vd hd) (solution moved : Partitions)
    (p : Nat) : ℚ :=
  ev.calculatePathCost h p solution - ev.calculatePathCost h p moved

structure Counted (decrease : Nat → ℚ) (state : ℚ × List (Nat × ℚ)) (seen : List Nat) : Prop where
  nodup : seen.Nodup
  score : state.1 = (seen.map decrease).sum
  deltas : state.2 = seen.map fun p => (p, -decrease p)

variable {seen : List Nat}

lemma Counted.any {decrease : Nat → ℚ} {state : ℚ × List (Nat × ℚ)}
    (counted : Counted decrease state seen) (p : Nat) :
    state.2.any (·.1 = p) = true ↔ p ∈ seen := by
  rw [counted.deltas]
  simp only [any_map, any_eq_true, Function.comp_apply, decide_eq_true_eq,
    exists_eq_right]

lemma pathStep_counted (refinable : Refinable h) (atTarget : blockOf moved v = toPid)
    (inside : p < h.getNumTimingPaths) {state : ℚ × List (Nat × ℚ)}
    (counted : Counted (pathDecrease ev h solution moved) state seen) :
    ∃ seen', Counted (pathDecrease ev h solution moved)
        (pathStep ev h toPid moved (ev.getPathsCost h solution) v state p) seen' ∧
      ∀ q, q ∈ seen' ↔ q ∈ seen ∨ q = p := by
  rw [pathStep]
  by_cases known : p ∈ seen
  · rw [if_pos ((counted.any p).mpr known)]
    refine ⟨seen, counted, fun q => ⟨Or.inl, ?_⟩⟩
    rintro (member | rfl)
    · exact member
    · exact known
  · rw [if_neg fun any => known ((counted.any p).mp any)]
    have cost : calculatePathCost ev h p moved v toPid = ev.calculatePathCost h p moved := by
      apply calculatePathCost_eq refinable
      intro u
      split
      · rename_i same
        rw [same, atTarget]
      · rfl
    have kept : state.2.filter (·.1 ≠ p) = state.2 := by
      rw [filter_eq_self]
      intro entry member
      rw [counted.deltas] at member
      rcases mem_map.mp member with ⟨q, inSeen, rfl⟩
      exact decide_eq_true fun same => known (same ▸ inSeen)
    refine ⟨seen ++ [p], ⟨?_, ?_, ?_⟩, fun q => ?_⟩
    · rw [nodup_append]
      refine ⟨counted.nodup, nodup_singleton p, ?_⟩
      rintro q member _ isLast rfl
      exact known (mem_singleton.mp isLast ▸ member)
    · simp only [cost, getD_pathsCost refinable inside, counted.score, map_append,
        map_cons, map_nil, sum_append, sum_singleton, pathDecrease]
    · simp only [cost, getD_pathsCost refinable inside, setPathCost, kept]
      simp only [counted.deltas, map_append, map_cons, map_nil, pathDecrease,
        neg_sub]
    · rw [mem_append, mem_singleton]

lemma pathSteps_counted (refinable : Refinable h) (atTarget : blockOf moved v = toPid)
    (ps : List Nat) :
    ∀ (state : ℚ × List (Nat × ℚ)) (seen : List Nat), (∀ p ∈ ps, p < h.getNumTimingPaths) →
      Counted (pathDecrease ev h solution moved) state seen →
      ∃ seen', Counted (pathDecrease ev h solution moved)
          (ps.foldl (pathStep ev h toPid moved (ev.getPathsCost h solution) v) state) seen' ∧
        ∀ q, q ∈ seen' ↔ q ∈ seen ∨ q ∈ ps := by
  induction ps with
  | nil =>
    intro state seen _ counted
    exact ⟨seen, counted, fun q => by simp⟩
  | cons p rest ih =>
    intro state seen inside counted
    rcases pathStep_counted refinable atTarget (inside p mem_cons_self) counted with
      ⟨next, counted', grown⟩
    rcases ih _ next (fun q member => inside q (mem_cons_of_mem p member)) counted' with
      ⟨last, counted'', grown'⟩
    refine ⟨last, counted'', fun q => ?_⟩
    rw [grown', grown, mem_cons, or_assoc]

lemma leavePaths_counted (refinable : Refinable h) (vertices : List (Nat × Nat))
    (atTarget : ∀ v ∈ vertices, blockOf moved v.1 = toPid) :
    ∀ (state : ℚ × List (Nat × ℚ)) (seen : List Nat),
      Counted (pathDecrease ev h solution moved) state seen →
      ∃ seen', Counted (pathDecrease ev h solution moved)
          (vertices.foldl (fun state v => (h.timingPathsThrough v.1).foldl
            (pathStep ev h toPid moved (ev.getPathsCost h solution) v.1) state) state) seen' ∧
        ∀ q, q ∈ seen' ↔ q ∈ seen ∨ ∃ v ∈ vertices, q ∈ h.timingPathsThrough v.1 := by
  induction vertices with
  | nil =>
    intro state seen counted
    exact ⟨seen, counted, fun q => by simp⟩
  | cons v rest ih =>
    intro state seen counted
    rcases pathSteps_counted refinable (atTarget v mem_cons_self) (h.timingPathsThrough v.1)
      state seen (fun p member => (mem_timingPathsThrough.mp member).1) counted with
      ⟨next, counted', grown⟩
    rcases ih (fun u member => atTarget u (mem_cons_of_mem v member)) _ next counted' with
      ⟨last, counted'', grown'⟩
    refine ⟨last, counted'', fun q => ?_⟩
    rw [grown', grown, exists_mem_cons_iff, or_assoc]

lemma sum_seen (nodup : seen.Nodup) (inside : ∀ p ∈ seen, p < h.getNumTimingPaths)
    (others : ∀ p, p ∉ seen → pathDecrease ev h solution moved p = 0) :
    (seen.map (pathDecrease ev h solution moved)).sum =
      pathCosts ev h solution - pathCosts ev h moved := by
  calc
    (seen.map (pathDecrease ev h solution moved)).sum
    _ = ∑ p ∈ seen.toFinset, pathDecrease ev h solution moved p :=
        (sum_toFinset _ nodup).symm
    _ = ∑ p ∈ (range h.getNumTimingPaths).toFinset, pathDecrease ev h solution moved p := by
        apply Finset.sum_subset
        · intro p member
          exact mem_toFinset.mpr (mem_range.mpr (inside p (mem_toFinset.mp member)))
        · intro p _ notSeen
          exact others p fun member => notSeen (mem_toFinset.mpr member)
    _ = ((range h.getNumTimingPaths).map (pathDecrease ev h solution moved)).sum :=
        sum_toFinset _ nodup_range
    _ = pathCosts ev h solution - pathCosts ev h moved := sum_differences _ _ _

lemma addPathCosts_exact (refinable : Refinable h) (nodup : seen.Nodup)
    (others : ∀ p, p ∉ seen → pathDecrease ev h solution moved p = 0) :
    addPathCosts (seen.map fun p => (p, -pathDecrease ev h solution moved p))
      (ev.getPathsCost h solution) = ev.getPathsCost h moved := by
  apply ext_getElem?
  intro p
  rw [addPathCosts, Tally.getElem?_modifies Prod.fst (fun (path : Nat × ℚ) cost => cost + path.2),
    filter_map]
  have own : (seen.filter ((fun path : Nat × ℚ => decide (path.1 = p)) ∘
      fun p => (p, -pathDecrease ev h solution moved p))) = if p ∈ seen then [p] else [] :=
    filter_same nodup p
  have costs := refinable.costs.not_gt
  rw [own]
  by_cases none' : h.getNumTimingPaths = 0
  · rw [getPathsCost, getPathsCost, if_pos (Or.inl none'),
      if_pos (Or.inl none')]
    rfl
  · have guard : ¬ (h.getNumTimingPaths = 0 ∨ h.pathTimingCost.length < h.getNumTimingPaths) := by
      simp only [none', costs, or_self, not_false_iff]
    rw [getPathsCost, getPathsCost, if_neg guard, if_neg guard,
      getElem?_map, getElem?_map]
    by_cases inside : p < h.getNumTimingPaths
    · rw [getElem?_range inside, Option.map_some, Option.map_some, Option.map_some]
      congr 1
      by_cases member : p ∈ seen
      · rw [if_pos member]
        simp only [map_cons, map_nil, foldl_cons, foldl_nil, pathDecrease]
        ring
      · rw [if_neg member]
        exact sub_eq_zero.mp (others p member)
    · rw [getElem?_eq_none (by simpa using inside)]
      rfl

/-- The degrees and the costs of the paths are those of the solution. -/
structure Consistent (ev : GoldenEvaluator vd hd) (h : Hypergraph vd hd) (state : RefineState vd) :
    Prop where
  placed : Placed ev h state.solution
  netDegs : state.netDegs = (ev.getNetDegrees h state.solution).map (List.map Int.ofNat)
  pathsCost : state.curPathsCost = ev.getPathsCost h state.solution

lemma netDegrees_eq (refinable : Refinable h) (placed : Placed ev h solution) :
    (ev.getNetDegrees h solution).map (List.map Int.ofNat) = allDegs ev.numParts h solution := by
  rw [getNetDegrees, map_map, allDegs]
  apply map_congr_left
  intro e _
  apply ext_getElem?
  intro block
  have perVertex := Tally.getElem?_totals (fun v => (blockOf solution v).toNat) (fun _ => 1)
    (h.vertices e) ev.numParts block
  have counted : (h.vertices e).countP (fun v => (blockOf solution v).toNat = block) =
      ((h.vertices e).map (blockOf solution)).count (block : Int) := by
    rw [List.count, countP_map]
    apply countP_congr
    intro v member
    have nonneg := (placed.vertices refinable e v member).1
    simp only [decide_eq_true_eq, Function.comp_apply, beq_iff_eq]
    omega
  rw [Function.comp_apply, getElem?_map, perVertex, degsOf, getElem?_map]
  by_cases inside : block < ev.numParts
  · rw [if_pos inside, getElem?_range inside, map_const', sum_replicate,
      ← countP_eq_length_filter, counted]
    simp
  · rw [if_neg inside, getElem?_eq_none (by simpa using inside)]
    rfl

lemma Consistent.degs {state : RefineState vd} (consistent : Consistent ev h state)
    (refinable : Refinable h) : state.netDegs = allDegs ev.numParts h state.solution :=
  consistent.netDegs.trans (netDegrees_eq refinable consistent.placed)

def CostDrops (ev : GoldenEvaluator vd hd) (h : Hypergraph vd hd) (before after : Partitions)
    (gain : ℚ) : Prop :=
  ∃ first second, ev.cutEvaluator h before = some first ∧ ev.cutEvaluator h after = some second ∧
    gain = first.cost - second.cost

lemma costDrops_iff (refinable : Refinable h) {before after : Partitions} {gain : ℚ} :
    CostDrops ev h before after gain ↔ gain = edgeCosts ev h before - edgeCosts ev h after +
        (pathCosts ev h before - pathCosts ev h after) := by
  simp only [CostDrops, cutEvaluator_cost ev refinable, Option.some.injEq]
  constructor
  · rintro ⟨_, _, rfl, rfl, rfl⟩
    dsimp only
    ring
  · rintro rfl
    exact ⟨_, _, rfl, rfl, by dsimp only; ring⟩

/-- The changes of the paths that pass a vertex again add up to nothing, each counted once for every
pass but the first. -/
def RepeatsCancel (ev : GoldenEvaluator vd hd) (h : Hypergraph vd hd) (solution : Partitions)
    (v toPid : Nat) : Prop :=
  ((List.range h.getNumTimingPaths).map fun p =>
    (((h.pathVertices p).count v - 1 : Nat) : ℚ) * (ev.calculatePathCost h p solution -
        ev.calculatePathCost h p (solution.set v (toPid : Int)))).sum = 0

lemma vertexGain_paths (refinable : Refinable h) (inside : v < solution.length) :
    ((h.timingPathsThrough v).foldl (fun score p => score + ((ev.getPathsCost h solution).getD p 0 -
        calculatePathCost ev h p solution v toPid)) 0) =
      (pathCosts ev h solution - pathCosts ev h (solution.set v (toPid : Int))) +
        ((range h.getNumTimingPaths).map fun p =>
          (((h.pathVertices p).count v - 1 : Nat) : ℚ) *
            pathDecrease ev h solution (solution.set v (toPid : Int)) p).sum := by
  have after : ∀ u, blockOf (solution.set v (toPid : Int)) u =
      if u = v then (toPid : Int) else blockOf solution u := by
    intro u
    rw [blockOf_set solution v u toPid inside]
    simp only [eq_comm]
  have terms : (h.timingPathsThrough v).map (fun p => (ev.getPathsCost h solution).getD p 0 -
      calculatePathCost ev h p solution v toPid) =
      (h.timingPathsThrough v).map (pathDecrease ev h solution (solution.set v (toPid : Int))) := by
    apply map_congr_left
    intro p member
    rw [getD_pathsCost refinable (mem_timingPathsThrough.mp member).1,
      calculatePathCost_eq refinable after, pathDecrease]
  rw [Tally.foldl_add, zero_add, terms, sum_timingPathsThrough, pathCosts, pathCosts,
    ← sum_differences, ← sum_map_add]
  congr 1
  apply map_congr_left
  intro p _
  by_cases passes : v ∈ h.pathVertices p
  · have positive := count_pos_iff.mpr passes
    rw [Nat.cast_sub positive, Nat.cast_one]
    change _ = pathDecrease ev h solution _ p + _
    ring
  · have same : ev.calculatePathCost h p solution =
        ev.calculatePathCost h p (solution.set v (toPid : Int)) := by
      apply pathCost_congr
      intro u member
      rw [after u, if_neg fun isVertex : u = v => passes (isVertex ▸ member)]
    rw [count_eq_zero.mpr passes, pathDecrease, same]
    ring

lemma vertexGain_exact_iff (refinable : Refinable h) {state : RefineState vd}
    (consistent : Consistent ev h state) {fromPid : Nat} (inside : v < h.getNumVertices)
    (atBlock : blockOf state.solution v = fromPid) (target : toPid < ev.numParts) :
    CostDrops ev h state.solution (state.solution.set v (toPid : Int))
        (calculateVertexGain ev h v fromPid toPid state.solution state.curPathsCost
          state.netDegs).gain ↔
      RepeatsCancel ev h state.solution v toPid := by
  have placed := consistent.placed
  have inside' : v < state.solution.length := placed.length_eq ▸ inside
  rw [costDrops_iff refinable, RepeatsCancel, calculateVertexGain]
  by_cases same : fromPid = toPid
  · have unmoved : state.solution.set v (toPid : Int) = state.solution := by
      rw [← same, ← atBlock, blockOf, getD_eq_getElem?_getD, getElem?_eq_getElem inside']
      exact set_getElem_self inside'
    rw [if_pos same, unmoved]
    simp
  · have differs : blockOf state.solution v ≠ toPid := by
      rw [atBlock]
      exact fun isTarget => same (Int.ofNat.inj isTarget)
    have edges := edgeCosts_move refinable placed inside target differs
    rw [atBlock, Int.toNat_natCast] at edges
    rw [if_neg same]
    dsimp only
    rw [Tally.foldl_add, zero_add, consistent.degs refinable, edges, consistent.pathsCost,
      vertexGain_paths refinable inside', ← add_assoc, add_eq_left]
    rfl

end OpenRoad.Par
