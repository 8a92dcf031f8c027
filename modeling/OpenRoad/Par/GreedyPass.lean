import OpenRoad.Par.GainExact

/-! Hyperedges that move as a whole, and the greedy pass. -/

namespace OpenRoad.Par

open Lib List

variable {vd hd : Nat} {ev : GoldenEvaluator vd hd} {h : Hypergraph vd hd} {solution : Partitions}

lemma length_sets (value : Nat → Int) (vs : List Nat) : ∀ solution : Partitions,
      (vs.foldl (fun solution v => solution.set v (value v)) solution).length =
        solution.length := by
  induction vs with
  | nil => exact fun _ => rfl
  | cons v rest ih =>
    intro solution
    rw [foldl_cons, ih, length_set]

lemma blockOf_sets (value : Nat → Int) (vs : List Nat) {u : Nat} (inside : u < solution.length) :
    blockOf (vs.foldl (fun solution v => solution.set v (value v)) solution) u =
      if u ∈ vs then value u else blockOf solution u := by
  have writes := Tally.getElem?_writes value (vs.map fun v => (v, value v)) solution u
    (fun w member => by
      rcases mem_map.mp member with ⟨_, _, rfl⟩
      rfl) inside
  rw [foldl_map, map_map] at writes
  have keys : vs.map (Prod.fst ∘ fun v => (v, value v)) = vs := map_id vs
  rw [blockOf, getD_eq_getElem?_getD, writes, keys]
  split
  · rfl
  · rw [blockOf, getD_eq_getElem?_getD]

lemma ext_blocks {left right : Partitions} (length : left.length = right.length)
    (same : ∀ v < left.length, blockOf left v = blockOf right v) : left = right := by
  apply ext_getElem length
  intro v inside inside'
  have block := same v inside
  rwa [blockOf, blockOf, getD_eq_getElem?_getD, getD_eq_getElem?_getD,
    getElem?_eq_getElem inside, getElem?_eq_getElem inside'] at block

lemma length_moved (toPid : Nat) (vs : List Nat) :
    (setAll toPid solution vs).length = solution.length :=
  length_sets (fun _ => toPid) vs solution

variable {toPid : Nat}

lemma blockOf_setAll {vs : List Nat} {u : Nat} (inside : u < solution.length) :
    blockOf (setAll toPid solution vs) u = if u ∈ vs then (toPid : Int) else blockOf solution u :=
  blockOf_sets (fun _ => toPid) vs inside

lemma Placed.setAll (placed : Placed ev h solution) (target : toPid < ev.numParts) (vs : List Nat) :
    Placed ev h (setAll toPid solution vs) := by
  constructor
  · rw [length_moved, placed.length_eq]
  · intro u member
    rw [blockOf_setAll (placed.length_eq.symm ▸ mem_range.mp member)]
    split
    · omega
    · exact placed.inBlocks u member

lemma setAll_filter (toPid : Nat) (vs : List Nat) :
    setAll toPid solution (vs.filter fun v => blockOf solution v ≠ toPid) =
      setAll toPid solution vs := by
  apply ext_blocks
  · rw [length_moved, length_moved]
  · intro u inside
    rw [length_moved] at inside
    rw [blockOf_setAll inside, blockOf_setAll inside]
    by_cases member : u ∈ vs
    · by_cases differs : blockOf solution u ≠ toPid
      · rw [if_pos (mem_filter.mpr ⟨member, decide_eq_true differs⟩), if_pos member]
      · rw [if_pos member, not_not.mp differs, ite_self]
    · rw [if_neg fun kept => member (mem_of_mem_filter kept), if_neg member]

lemma restored (placed : Placed ev h solution) (toPid : Nat) (vs : List Nat) :
    (vs.foldl (fun solution' v => solution'.set v ((blockOf solution v).toNat : Int))
      (setAll toPid solution vs)) = solution := by
  apply ext_blocks
  · rw [length_sets fun v => ((blockOf solution v).toNat : Int), length_moved]
  · intro u inside
    rw [length_sets fun v => ((blockOf solution v).toNat : Int), length_moved] at inside
    rw [blockOf_sets (fun v => ((blockOf solution v).toNat : Int)) vs (by rwa [length_moved]),
      blockOf_setAll inside]
    split
    · exact Int.toNat_of_nonneg
        (placed.inBlocks u (mem_range.mpr (placed.length_eq ▸ inside))).1
    · rfl

/-- What the gain of a hyperedge says, and what the move needs of it. -/
structure HyperedgeGainExact (ev : GoldenEvaluator vd hd) (h : Hypergraph vd hd)
    (solution : Partitions) (e toPid : Nat) (gain : HyperedgeGain) : Prop where
  hyperedge : gain.hyperedge = e
  destinationPart : gain.destinationPart = toPid
  drops : CostDrops ev h solution (setAll toPid solution (h.vertices e)) gain.gain
  pathsCost : addPathCosts gain.pathCost (ev.getPathsCost h solution) =
    ev.getPathsCost h (setAll toPid solution (h.vertices e))

lemma pathsCost_none (none' : h.getNumTimingPaths = 0) (solution : Partitions) :
    ev.getPathsCost h solution = [] := by
  rw [GoldenEvaluator.getPathsCost, if_pos (Or.inl none')]

lemma pathCosts_none (none' : h.getNumTimingPaths = 0) (solution : Partitions) :
    pathCosts ev h solution = 0 := by
  rw [pathCosts, none']
  rfl

lemma addPathCosts_empty (pathCost : List (Nat × ℚ)) : addPathCosts pathCost [] = [] := by
  induction pathCost with
  | nil => rfl
  | cons path rest ih =>
    rw [addPathCosts, foldl_cons, modify_nil]
    exact ih

variable {state : RefineState vd}

lemma hyperedgeGain_exact (refinable : Refinable h) (consistent : Consistent ev h state) (e : Nat)
    (target : toPid < ev.numParts) :
    (calculateHyperedgeGain ev h e toPid state.solution state.curPathsCost state.netDegs).2 =
        state.solution ∧
      HyperedgeGainExact ev h state.solution e toPid
        (calculateHyperedgeGain ev h e toPid state.solution state.curPathsCost
          state.netDegs).1 := by
  have placed := consistent.placed
  have inside : ∀ v ∈ h.vertices e, v < h.getNumVertices :=
    fun v member => refinable.valid.vertices_lt e v member
  have all : _ = setAll toPid state.solution (h.vertices e) := setAll_filter toPid _
  generalize isLeaving : ((h.vertices e).filter fun v => blockOf state.solution v ≠ toPid) = leaving
    at all
  have leavingSub : ∀ v ∈ leaving, v ∈ h.vertices e ∧ blockOf state.solution v ≠ toPid := by
    intro v member
    rw [← isLeaving] at member
    exact ⟨mem_of_mem_filter member, of_decide_eq_true (mem_filter.mp member).2⟩
  have leavingNodup : leaving.Nodup := isLeaving ▸ (refinable.nodup e).filter _
  have pairs : leavingVertices h e toPid state.solution =
      leaving.map fun v => (v, (blockOf state.solution v).toNat) := by
    rw [leavingVertices, isLeaving]
  have cuts := leaveCuts_exact refinable target leaving state.solution 0 placed leavingNodup
    fun v member => ⟨inside v (leavingSub v member).1, (leavingSub v member).2⟩
  rw [zero_add, all] at cuts
  rw [calculateHyperedgeGain, pairs, consistent.pathsCost, consistent.degs refinable]
  dsimp only
  rw [isEmpty_map]
  by_cases stays : leaving.isEmpty = true
  · rw [if_pos stays]
    rw [List.isEmpty_iff.mp stays] at all
    have same : setAll toPid state.solution (h.vertices e) = state.solution := all.symm
    refine ⟨rfl, rfl, rfl, ?_, ?_⟩
    · rw [costDrops_iff refinable, same]
      dsimp only
      ring
    · rw [same]
      rfl
  · rw [if_neg stays, leaveCuts, cuts]
    by_cases none' : h.getNumTimingPaths = 0
    · rw [if_pos none']
      refine ⟨rfl, rfl, rfl, ?_, ?_⟩
      · rw [costDrops_iff refinable, pathCosts_none none', pathCosts_none none', sub_self]
      · rw [pathsCost_none none', pathsCost_none none', addPathCosts_empty]
    · rw [if_neg none']
      have left : (leaving.map fun v => (v, (blockOf state.solution v).toNat)).foldl
          (fun solution v => solution.set v.1 (toPid : Int)) state.solution =
          setAll toPid state.solution leaving := foldl_map
      rw [left, foldl_map, all]
      have back := restored placed toPid leaving
      rw [all] at back
      have atTarget : ∀ v ∈ leaving.map fun v => (v, (blockOf state.solution v).toNat),
          blockOf (setAll toPid state.solution (h.vertices e)) v.1 = toPid := by
        intro v member
        rcases mem_map.mp member with ⟨u, uMember, rfl⟩
        have inEdge := (leavingSub u uMember).1
        rw [blockOf_setAll (placed.length_eq.symm ▸ inside u inEdge), if_pos inEdge]
      have start : Counted (pathDecrease ev h state.solution
          (setAll toPid state.solution (h.vertices e))) (0, []) [] := ⟨nodup_nil, rfl, rfl⟩
      rcases leavePaths_counted refinable _ atTarget (0, []) [] start with ⟨seen, counted, isSeen⟩
      have others : ∀ p, p ∉ seen → pathDecrease ev h state.solution
          (setAll toPid state.solution (h.vertices e)) p = 0 := by
        intro p notSeen
        by_cases isPath : p < h.getNumTimingPaths
        · rw [pathDecrease, sub_eq_zero]
          apply pathCost_congr
          intro u member
          have uInside := refinable.valid.pathVertices_lt p u member
          rw [← all, blockOf_setAll (placed.length_eq.symm ▸ uInside), if_neg]
          intro inLeaving
          exact notSeen ((isSeen p).mpr (Or.inr ⟨_, mem_map_of_mem inLeaving,
            mem_timingPathsThrough.mpr ⟨isPath, member⟩⟩))
        · have beyond : ∀ solution, ev.calculatePathCost h p solution = 0 := by
            intro solution
            rw [GoldenEvaluator.calculatePathCost, if_pos (Or.inr (Or.inr (by omega)))]
          rw [pathDecrease, beyond, beyond, sub_self]
      have insidePaths : ∀ p ∈ seen, p < h.getNumTimingPaths := by
        intro p member
        rcases (isSeen p).mp member with absurd' | ⟨v, _, passes⟩
        · cases absurd'
        · exact (mem_timingPathsThrough.mp passes).1
      refine ⟨back, rfl, rfl, ?_, ?_⟩
      · rw [costDrops_iff refinable, ← sum_seen counted.nodup insidePaths others]
        exact congrArg _ counted.score
      · rw [← addPathCosts_exact refinable counted.nodup others]
        exact congrArg (addPathCosts · _) counted.deltas

lemma moveTo_all (refinable : Refinable h) (target : toPid < ev.numParts) (vs : List Nat) :
    ∀ state : RefineState vd, (∀ v ∈ vs, v < h.getNumVertices) → Placed ev h state.solution →
      state.netDegs = allDegs ev.numParts h state.solution →
      (vs.foldl (moveTo h toPid) state).solution = setAll toPid state.solution vs ∧
        (vs.foldl (moveTo h toPid) state).netDegs =
          allDegs ev.numParts h (setAll toPid state.solution vs) ∧
        (vs.foldl (moveTo h toPid) state).curPathsCost = state.curPathsCost ∧
        (vs.foldl (moveTo h toPid) state).totalDeltaGain = state.totalDeltaGain := by
  induction vs with
  | nil => exact fun state _ _ degs => ⟨rfl, degs, rfl, rfl⟩
  | cons v rest ih =>
    intro state inside placed degs
    have vInside := inside v mem_cons_self
    have others := fun u member => inside u (mem_cons_of_mem v member)
    rw [foldl_cons, moveTo, setAll_cons]
    by_cases here : blockOf state.solution v = toPid
    · have unmoved : state.solution.set v (toPid : Int) = state.solution := by
        have inside' : v < state.solution.length := placed.length_eq ▸ vInside
        rw [← here, blockOf, getD_eq_getElem?_getD, getElem?_eq_getElem inside']
        exact set_getElem_self inside'
      rw [if_pos here, unmoved]
      exact ih state others placed degs
    · rw [if_neg here]
      refine ih _ others (placed.set vInside target) ?_
      dsimp only
      rw [degs, moveDegrees_allDegs refinable placed vInside]

/-- One move: the state still describes its solution, and the total grows by what the cost loses. -/
structure Improves (ev : GoldenEvaluator vd hd) (h : Hypergraph vd hd) (before after : RefineState vd) :
    Prop where
  consistent : Consistent ev h after
  drops : CostDrops ev h before.solution after.solution
    (after.totalDeltaGain - before.totalDeltaGain)
  grows : before.totalDeltaGain ≤ after.totalDeltaGain

lemma Improves.refl (refinable : Refinable h) (consistent : Consistent ev h state) :
    Improves ev h state state := by
  refine ⟨consistent, ?_, le_rfl⟩
  rw [costDrops_iff refinable]
  ring

lemma Improves.trans (refinable : Refinable h) {first second third : RefineState vd}
    (earlier : Improves ev h first second) (later : Improves ev h second third) :
    Improves ev h first third := by
  refine ⟨later.consistent, ?_, earlier.grows.trans later.grows⟩
  have sum := (costDrops_iff refinable).mp earlier.drops
  have sum' := (costDrops_iff refinable).mp later.drops
  rw [costDrops_iff refinable]
  linarith

lemma acceptHyperedgeGain_improves (refinable : Refinable h) (consistent : Consistent ev h state)
    {e : Nat} (target : toPid < ev.numParts) {gain : HyperedgeGain}
    (exact : HyperedgeGainExact ev h state.solution e toPid gain) (notWorse : 0 ≤ gain.gain) :
    Improves ev h state (acceptHyperedgeGain h gain state) := by
  have degs := consistent.degs refinable
  rw [acceptHyperedgeGain, exact.hyperedge, exact.destinationPart]
  rcases moveTo_all refinable target (h.vertices e) { state with
      totalDeltaGain := state.totalDeltaGain + gain.gain
      curPathsCost := addPathCosts gain.pathCost state.curPathsCost }
    (refinable.valid.vertices_lt e) consistent.placed degs with
    ⟨solutionEq, degsEq, costsEq, totalEq⟩
  have placed := consistent.placed.setAll target (h.vertices e)
  refine ⟨⟨?_, ?_, ?_⟩, ?_, ?_⟩
  · rw [solutionEq]
    exact placed
  · rw [degsEq, solutionEq, netDegrees_eq refinable placed]
  · rw [costsEq, solutionEq]
    dsimp only
    rw [consistent.pathsCost, exact.pathsCost]
  · rw [solutionEq, totalEq]
    dsimp only
    rw [add_sub_cancel_left]
    exact exact.drops
  · rw [totalEq]
    exact le_add_of_nonneg_right notWorse

namespace GreedyRefine

variable (maxMove : Int) (upperBlockBalance lowerBlockBalance : List (Weights vd))

variable {state : RefineState vd}

lemma tryBlocks_spec (refinable : Refinable h) (consistent : Consistent ev h state) (e : Nat)
    (blocks : List Nat) :
    ∀ best : Option HyperedgeGain × Partitions, (∀ block ∈ blocks, block < ev.numParts) →
      best.2 = state.solution →
      (∀ gain, best.1 = some gain → ∃ toPid < ev.numParts,
        HyperedgeGainExact ev h state.solution e toPid gain) →
      (blocks.foldl (tryBlock ev h upperBlockBalance lowerBlockBalance e state) best).2 =
          state.solution ∧
        ∀ gain, (blocks.foldl (tryBlock ev h upperBlockBalance lowerBlockBalance e state)
          best).1 = some gain → ∃ toPid < ev.numParts,
            HyperedgeGainExact ev h state.solution e toPid gain := by
  induction blocks with
  | nil => exact fun best _ same exact => ⟨same, exact⟩
  | cons toPid rest ih =>
    rintro ⟨best, solution⟩ inside rfl exact
    have target := inside toPid mem_cons_self
    rcases hyperedgeGain_exact refinable consistent e target with ⟨restored, gainExact⟩
    have others := fun block member => inside block (mem_cons_of_mem toPid member)
    rw [foldl_cons, tryBlock]
    split
    · dsimp only
      split
      · refine ih _ others restored ?_
        rintro gain isGain
        rw [← Option.some_injective _ isGain]
        exact ⟨toPid, target, gainExact⟩
      · refine ih _ others restored ?_
        rintro gain isGain
        rw [← Option.some_injective _ isGain]
        split
        · exact ⟨toPid, target, gainExact⟩
        · exact exact _ rfl
    · exact ih _ others rfl exact

lemma moveHyperedge_improves (refinable : Refinable h) (consistent : Consistent ev h state)
    (e : Nat) :
    Improves ev h state (moveHyperedge ev h upperBlockBalance lowerBlockBalance e state) := by
  have spec := tryBlocks_spec upperBlockBalance lowerBlockBalance refinable consistent e
    (range ev.numParts) (none, state.solution)
    (fun block member => mem_range.mp member) rfl nofun
  rw [moveHyperedge]
  generalize (range ev.numParts).foldl
    (tryBlock ev h upperBlockBalance lowerBlockBalance e state) (none, state.solution) = chosen
    at spec ⊢
  rcases chosen with ⟨best, solution⟩
  rcases spec with ⟨same, exact⟩
  dsimp only at same exact ⊢
  subst same
  cases best with
  | none => exact Improves.refl refinable consistent
  | some gain =>
    dsimp only
    split
    · rename_i notWorse
      rcases exact gain rfl with ⟨toPid, target, gainExact⟩
      exact acceptHyperedgeGain_improves refinable consistent target gainExact notWorse
    · exact Improves.refl refinable consistent

lemma visitHyperedges_improves (refinable : Refinable h) (es : List Nat) :
    ∀ (numMove : Int) (state : RefineState vd), Consistent ev h state → Improves ev h state
        (visitHyperedges ev h maxMove upperBlockBalance lowerBlockBalance es numMove state) := by
  induction es with
  | nil => exact fun _ state consistent => Improves.refl refinable consistent
  | cons e rest ih =>
    intro numMove state consistent
    rw [visitHyperedges]
    split
    · exact ih numMove state consistent
    · split
      · exact Improves.refl refinable consistent
      · have moved := moveHyperedge_improves upperBlockBalance lowerBlockBalance refinable
          consistent e
        exact moved.trans refinable (ih (numMove + 1) _ moved.consistent)

lemma pass_improves (refinable : Refinable h) (consistent : Consistent ev h state) :
    Improves ev h { state with totalDeltaGain := 0 }
      (pass ev h maxMove upperBlockBalance lowerBlockBalance state) :=
  visitHyperedges_improves maxMove upperBlockBalance lowerBlockBalance refinable _ 0 _
    ⟨consistent.placed, consistent.netDegs, consistent.pathsCost⟩

end GreedyRefine

/-- The gain of a vertex is exact unless the paths that pass it again change the cost. -/
theorem move_gains_exact_iff (refinable : Refinable h) {state : RefineState vd}
    (consistent : Consistent ev h state) {v fromPid toPid : Nat} (inside : v < h.getNumVertices)
    (atBlock : blockOf state.solution v = fromPid) (target : toPid < ev.numParts) :
    (CostDrops ev h state.solution (state.solution.set v (toPid : Int))
        (calculateVertexGain ev h v fromPid toPid state.solution state.curPathsCost
          state.netDegs).gain ↔
      RepeatsCancel ev h state.solution v toPid) ∧
    (∀ e, CostDrops ev h state.solution (setAll toPid state.solution (h.vertices e))
        (calculateHyperedgeGain ev h e toPid state.solution state.curPathsCost
          state.netDegs).1.gain ∧
      (calculateHyperedgeGain ev h e toPid state.solution state.curPathsCost state.netDegs).2 =
        state.solution) ∧
    ∀ (maxMove : Int) (upperBlockBalance lowerBlockBalance : List (Weights vd)),
      CostDrops ev h state.solution
        (GreedyRefine.pass ev h maxMove upperBlockBalance lowerBlockBalance state).solution
        (GreedyRefine.pass ev h maxMove upperBlockBalance lowerBlockBalance state).totalDeltaGain ∧
      0 ≤ (GreedyRefine.pass ev h maxMove upperBlockBalance lowerBlockBalance
        state).totalDeltaGain := by
  refine ⟨vertexGain_exact_iff refinable consistent inside atBlock target, ?_, ?_⟩
  · intro e
    rcases hyperedgeGain_exact refinable consistent e target with ⟨restored, exact⟩
    exact ⟨exact.drops, restored⟩
  · intro maxMove upperBlockBalance lowerBlockBalance
    have improves := GreedyRefine.pass_improves maxMove upperBlockBalance lowerBlockBalance refinable
      consistent
    have drops := improves.drops
    rw [sub_zero] at drops
    exact ⟨drops, improves.grows⟩

/-! Two vertices, and a path that goes from the first one to the second one and back. -/

def pathAndBack : Hypergraph 1 1 where
  vertexWeights := [![1], ![1]]
  hyperedgeWeights := [![1]]
  hyperedges := [[0, 1]]
  fixedVertexFlag := false
  fixedAttr := []
  communityFlag := false
  communityAttr := []
  timingFlag := true
  hyperedgeTimingAttr := [0]
  hyperedgeTimingCost := [0]
  hyperedgeArcSet := [[0]]
  timingPaths := [⟨[0, 1, 0], [0, 0], 0⟩]
  pathTimingCost := [1]
  vertexCAttr := []

def bothInFirst : RefineState 1 where
  totalDeltaGain := 0
  visitedVerticesFlag := [false, false]
  solution := [0, 0]
  curPathsCost := [0]
  blockBalance := [![2], ![0]]
  netDegs := [[2, 0]]

lemma pathAndBack_refinable : Refinable pathAndBack where
  valid :=
    { hyperedges_length := rfl
      inside := by decide
      paths_inside := by decide
      fixed_length := nofun
      not_fixed := fun _ => rfl
      not_timing := nofun }
  sets := by decide
  nonempty := by decide
  costs := by decide

lemma bothInFirst_consistent : Consistent sampleEvaluator pathAndBack bothInFirst where
  placed := ⟨rfl, by rw [InBlocks]; decide⟩
  netDegs := by decide
  pathsCost := by decide

/-- The second vertex lies on the path once. -/
theorem move_gains_exact_iff_sample :
    CostDrops sampleEvaluator pathAndBack bothInFirst.solution (bothInFirst.solution.set 1 (1 : Nat))
        (calculateVertexGain sampleEvaluator pathAndBack 1 0 1 bothInFirst.solution
          bothInFirst.curPathsCost bothInFirst.netDegs).gain ∧
      ∀ e, CostDrops sampleEvaluator pathAndBack bothInFirst.solution
        (setAll 1 bothInFirst.solution (pathAndBack.vertices e))
        (calculateHyperedgeGain sampleEvaluator pathAndBack e 1 bothInFirst.solution
          bothInFirst.curPathsCost bothInFirst.netDegs).1.gain := by
  have exact := move_gains_exact_iff pathAndBack_refinable bothInFirst_consistent (v := 1)
    (by decide) (show blockOf bothInFirst.solution 1 = (0 : Nat) from rfl)
    (show 1 < sampleEvaluator.numParts by decide)
  refine ⟨exact.1.mpr ?_, fun e => (exact.2.1 e).1⟩
  rw [RepeatsCancel]
  with_unfolding_all decide

/-- The path is counted twice for the first vertex. -/
theorem path_counted_twice :
    ¬ ∀ (state : RefineState 1) (v fromPid toPid : Nat), Refinable pathAndBack →
      Consistent sampleEvaluator pathAndBack state → v < pathAndBack.getNumVertices →
      blockOf state.solution v = fromPid → toPid < sampleEvaluator.numParts →
      CostDrops sampleEvaluator pathAndBack state.solution (state.solution.set v (toPid : Int))
        (calculateVertexGain sampleEvaluator pathAndBack v fromPid toPid state.solution
          state.curPathsCost state.netDegs).gain := by
  intro allExact
  have inside : 0 < pathAndBack.getNumVertices := by decide
  have target : 1 < sampleEvaluator.numParts := by decide
  have drops := allExact bothInFirst 0 0 1 pathAndBack_refinable bothInFirst_consistent inside rfl
    target
  rw [vertexGain_exact_iff pathAndBack_refinable bothInFirst_consistent inside rfl target,
    RepeatsCancel] at drops
  revert drops
  with_unfolding_all decide

end OpenRoad.Par
