import OpenRoad.Par.ContractionCost
import OpenRoad.Par.MoveGain

/-! What the scores of a move say about the cost of the cut hyperedges. -/

namespace OpenRoad.Par

open Lib List

variable {vd hd : Nat} {ev : GoldenEvaluator vd hd} {h : Hypergraph vd hd}

section Blocks

variable {solution : Partitions} {vs : List Nat} {v fromPid toPid : Nat}

def blockSet (solution : Partitions) (vs : List Nat) : Finset Int :=
  (vs.map (blockOf solution)).toFinset

variable {block : Int}

lemma mem_blockSet : block ∈ blockSet solution vs ↔ ∃ v ∈ vs, blockOf solution v = block := by
  rw [blockSet, mem_toFinset, mem_map]

lemma isCut_iff_card : isCut solution vs = true ↔ 1 < (blockSet solution vs).card := by
  rw [isCut_iff, Finset.one_lt_card]
  constructor
  · rintro ⟨a, aMember, b, bMember, differ⟩
    exact ⟨_, mem_blockSet.mpr ⟨a, aMember, rfl⟩, _, mem_blockSet.mpr ⟨b, bMember, rfl⟩, differ⟩
  · rintro ⟨_, aMember, _, bMember, differ⟩
    rcases mem_blockSet.mp aMember with ⟨a, aInside, rfl⟩
    rcases mem_blockSet.mp bMember with ⟨b, bInside, rfl⟩
    exact ⟨a, aInside, b, bInside, differ⟩

def otherBlocks (solution : Partitions) (vs : List Nat) (v : Nat) : Finset Int :=
  blockSet solution (vs.filter (· ≠ v))

lemma mem_otherBlocks :
    block ∈ otherBlocks solution vs v ↔ ∃ u ∈ vs, u ≠ v ∧ blockOf solution u = block := by
  simp only [otherBlocks, mem_blockSet, mem_filter, decide_eq_true_eq, and_assoc]

lemma blockSet_split (member : v ∈ vs) :
    blockSet solution vs = insert (blockOf solution v) (otherBlocks solution vs v) := by
  ext block
  rw [Finset.mem_insert, mem_blockSet, mem_otherBlocks]
  constructor
  · rintro ⟨u, uMember, rfl⟩
    by_cases same : u = v
    · exact .inl (same ▸ rfl)
    · exact .inr ⟨u, uMember, same, rfl⟩
  · rintro (rfl | ⟨u, uMember, _, rfl⟩)
    · exact ⟨v, member, rfl⟩
    · exact ⟨u, uMember, rfl⟩

lemma otherBlocks_set (block : Int) :
    otherBlocks (solution.set v block) vs v = otherBlocks solution vs v := by
  ext other
  rw [mem_otherBlocks, mem_otherBlocks]
  have same : ∀ u, u ≠ v → blockOf (solution.set v block) u = blockOf solution u := by
    intro u differs
    rw [blockOf, blockOf, getD_eq_getElem?_getD, getD_eq_getElem?_getD,
      getElem?_set_ne differs.symm]
  constructor
  · rintro ⟨u, member, differs, found⟩
    exact ⟨u, member, differs, same u differs ▸ found⟩
  · rintro ⟨u, member, differs, found⟩
    exact ⟨u, member, differs, (same u differs).trans found⟩

lemma blockSet_moved (member : v ∈ vs) (inside : v < solution.length) (block : Int) :
    blockSet (solution.set v block) vs = insert block (otherBlocks solution vs v) := by
  rw [blockSet_split member, otherBlocks_set, blockOf_set solution v v block inside, if_pos rfl]

def degsOf (numParts : Nat) (solution : Partitions) (vs : List Nat) : List Int :=
  (List.range numParts).map fun block : Nat => ((vs.map (blockOf solution)).count (block : Int) : Int)

lemma getD_degsOf {numParts block : Nat} (inside : block < numParts) :
    (degsOf numParts solution vs).getD block 0 =
      ((vs.map (blockOf solution)).count (block : Int) : Int) := by
  rw [degsOf, getD_eq_getElem?_getD, getElem?_map, getElem?_range inside]
  rfl

def InBlocks (numParts : Nat) (solution : Partitions) (vs : List Nat) : Prop :=
  ∀ v ∈ vs, 0 ≤ blockOf solution v ∧ blockOf solution v < numParts

lemma getConnectivity_degsOf {numParts : Nat} (inBlocks : InBlocks numParts solution vs) :
    getConnectivity (degsOf numParts solution vs) = (blockSet solution vs).card := by
  have spread : blockSet solution vs = ((range numParts).filter fun block : Nat =>
        0 < ((vs.map (blockOf solution)).count (block : Int) : Int)).toFinset.map
          Nat.castEmbedding := by
    ext block
    simp only [mem_blockSet, Finset.mem_map, mem_toFinset, mem_filter, mem_range,
      decide_eq_true_eq, Nat.castEmbedding_apply, Nat.cast_pos, count_pos_iff, mem_map]
    constructor
    · rintro ⟨v, member, rfl⟩
      rcases inBlocks v member with ⟨nonneg, below⟩
      have cast : ((blockOf solution v).toNat : Int) = blockOf solution v := Int.toNat_of_nonneg nonneg
      exact ⟨(blockOf solution v).toNat, ⟨by omega, v, member, cast.symm⟩, cast⟩
    · rintro ⟨_, ⟨_, v, member, found⟩, rfl⟩
      exact ⟨v, member, found⟩
  rw [spread, Finset.card_map, toFinset_card_of_nodup (nodup_range.filter _),
    getConnectivity, degsOf, countP_map, countP_eq_length_filter]
  rfl

lemma count_own (nodup : vs.Nodup) (member : v ∈ vs) :
    1 < (vs.map (blockOf solution)).count (blockOf solution v) ↔
      blockOf solution v ∈ otherBlocks solution vs v := by
  have perm := perm_cons_erase member
  rw [(perm.map _).count_eq, map_cons, count_cons_self, Nat.lt_add_left_iff_pos,
    count_pos_iff, mem_map, mem_otherBlocks]
  simp only [nodup.mem_erase_iff]
  constructor
  · rintro ⟨u, ⟨differs, uMember⟩, found⟩
    exact ⟨u, uMember, differs, found⟩
  · rintro ⟨u, uMember, differs, found⟩
    exact ⟨u, ⟨differs, uMember⟩, found⟩

lemma count_other (differs : blockOf solution v ≠ block) :
    0 < (vs.map (blockOf solution)).count block ↔ block ∈ otherBlocks solution vs v := by
  rw [count_pos_iff, mem_map, mem_otherBlocks]
  constructor
  · rintro ⟨u, member, found⟩
    exact ⟨u, member, fun same => differs (same ▸ found), found⟩
  · rintro ⟨u, member, _, found⟩
    exact ⟨u, member, found⟩

end Blocks

def cutCost (solution : Partitions) (vs : List Nat) (eScore : ℚ) : ℚ :=
  if isCut solution vs then eScore else 0

variable {numParts toPid v : Nat}

lemma cutChange_exact {solution : Partitions} {vs : List Nat} {eScore : ℚ} (nodup : vs.Nodup)
    (member : v ∈ vs) (inside : v < solution.length) (inBlocks : InBlocks numParts solution vs)
    (target : toPid < numParts) (differs : blockOf solution v ≠ toPid) :
    cutChange (degsOf numParts solution vs) (blockOf solution v).toNat toPid eScore =
      cutCost solution vs eScore - cutCost (solution.set v toPid) vs eScore := by
  rcases inBlocks v member with ⟨nonneg, below⟩
  have cast : ((blockOf solution v).toNat : Int) = blockOf solution v := Int.toNat_of_nonneg nonneg
  have leaving : (1 < (degsOf numParts solution vs).getD (blockOf solution v).toNat 0) ↔
      blockOf solution v ∈ otherBlocks solution vs v := by
    rw [getD_degsOf (by omega), cast, ← count_own nodup member, Nat.one_lt_cast]
  have single : (degsOf numParts solution vs).getD (blockOf solution v).toNat 0 = 1 ↔
      blockOf solution v ∉ otherBlocks solution vs v := by
    rw [← leaving, getD_degsOf (by omega), cast]
    have positive : 0 < (vs.map (blockOf solution)).count (blockOf solution v) :=
      count_pos_iff.mpr (mem_map_of_mem member)
    omega
  have entered : (0 < (degsOf numParts solution vs).getD toPid 0) ↔
      (toPid : Int) ∈ otherBlocks solution vs v := by
    rw [getD_degsOf target, ← count_other differs, Nat.cast_pos]
  simp only [cutChange, cutCost, isCut_iff_card, getConnectivity_degsOf inBlocks, leaving, single,
    entered, blockSet_moved member inside, blockSet_split member]
  generalize otherBlocks solution vs v = others
  by_cases leftBehind : blockOf solution v ∈ others
  · by_cases joined : (toPid : Int) ∈ others
    · have two : 1 < others.card := Finset.one_lt_card.mpr ⟨_, leftBehind, _, joined, differs⟩
      simp only [Finset.insert_eq_of_mem leftBehind, Finset.insert_eq_of_mem joined]
      grind
    · have one : 0 < others.card := Finset.card_pos.mpr ⟨_, leftBehind⟩
      simp only [Finset.insert_eq_of_mem leftBehind, Finset.card_insert_of_notMem joined]
      grind
  · by_cases joined : (toPid : Int) ∈ others
    · have one : 0 < others.card := Finset.card_pos.mpr ⟨_, joined⟩
      simp only [Finset.insert_eq_of_mem joined, Finset.card_insert_of_notMem leftBehind]
      grind
    · simp only [Finset.card_insert_of_notMem joined, Finset.card_insert_of_notMem leftBehind]
      grind

structure Refinable (h : Hypergraph vd hd) : Prop where
  valid : h.Valid
  sets : ∀ vs ∈ h.hyperedges, vs.Nodup
  nonempty : ∀ vs ∈ h.hyperedges, vs ≠ []
  costs : h.getNumTimingPaths ≤ h.pathTimingCost.length

lemma Refinable.nodup (refinable : Refinable h) (e : Nat) : (h.vertices e).Nodup := by
  rw [Hypergraph.vertices, getD_eq_getElem?_getD]
  cases found : h.hyperedges[e]? with
  | none => exact nodup_nil
  | some vs => exact refinable.sets vs (mem_of_getElem? found)

lemma edges_eq_filter (refinable : Refinable h) (v : Nat) :
    h.edges v = (range h.getNumHyperedges).filter fun e => v ∈ h.vertices e := by
  rw [Hypergraph.edges]
  induction range h.getNumHyperedges with
  | nil => rfl
  | cons e rest ih =>
    rw [flatMap_cons, ih, (refinable.nodup e).count, filter_cons]
    by_cases member : v ∈ h.vertices e
    · rw [if_pos member, if_pos (decide_eq_true member)]
      rfl
    · rw [if_neg member, if_neg (by simp [member])]
      rfl

lemma edges_nodup (refinable : Refinable h) (v : Nat) : (h.edges v).Nodup := by
  rw [edges_eq_filter refinable]
  exact nodup_range.filter _

lemma sum_filter {α : Type} (keep : α → Bool) (weight : α → ℚ) (items : List α) :
    ((items.filter keep).map weight).sum =
      (items.map fun item => if keep item then weight item else 0).sum := by
  induction items with
  | nil => rfl
  | cons item rest ih =>
    rw [filter_cons, map_cons, sum_cons, ← ih]
    by_cases kept : keep item = true
    · rw [if_pos kept, if_pos kept, map_cons, sum_cons]
    · rw [if_neg kept, if_neg kept, zero_add]

lemma sum_differences {α : Type} (first second : α → ℚ) (items : List α) :
    (items.map fun item => first item - second item).sum =
      (items.map first).sum - (items.map second).sum := by
  rw [eq_sub_iff_add_eq, ← sum_map_add]
  simp only [sub_add_cancel]

def edgeCosts (ev : GoldenEvaluator vd hd) (h : Hypergraph vd hd) (solution : Partitions) : ℚ :=
  ((List.range h.getNumHyperedges).map fun e =>
    cutCost solution (h.vertices e) (ev.calculateHyperedgeCost h e)).sum

def pathCosts (ev : GoldenEvaluator vd hd) (h : Hypergraph vd hd) (solution : Partitions) : ℚ :=
  ((List.range h.getNumTimingPaths).map fun p => ev.calculatePathCost h p solution).sum

lemma cutEvaluator_cost (ev : GoldenEvaluator vd hd) (refinable : Refinable h)
    (solution : Partitions) :
    ev.cutEvaluator h solution = some ⟨edgeCosts ev h solution + pathCosts ev h solution,
      ev.getBlockBalance h solution⟩ := by
  have nonempty : h.hyperedges.any isEmpty = false := by
    rw [any_eq_false]
    intro vs member isEmpty
    exact refinable.nonempty vs member (List.isEmpty_iff.mp isEmpty)
  simp only [GoldenEvaluator.cutEvaluator, GoldenEvaluator.getCutHyperedges, nonempty,
    Bool.false_eq_true, if_false, Option.bind_eq_bind, Option.bind_some, sum_filter, edgeCosts,
    pathCosts, cutCost]

structure Placed (ev : GoldenEvaluator vd hd) (h : Hypergraph vd hd) (solution : Partitions) :
    Prop where
  length_eq : solution.length = h.getNumVertices
  inBlocks : InBlocks ev.numParts solution (List.range h.getNumVertices)

variable {solution : Partitions}

lemma Placed.vertices (placed : Placed ev h solution) (refinable : Refinable h) (e : Nat) :
    InBlocks ev.numParts solution (h.vertices e) :=
  fun v member => placed.inBlocks v (mem_range.mpr (refinable.valid.vertices_lt e v member))

lemma Placed.set (placed : Placed ev h solution) (inside : v < h.getNumVertices)
    (target : toPid < ev.numParts) : Placed ev h (solution.set v (toPid : Int)) := by
  constructor
  · rw [length_set, placed.length_eq]
  · intro u member
    rw [blockOf_set solution v u toPid (placed.length_eq ▸ inside)]
    by_cases same : v = u
    · rw [if_pos same]
      omega
    · rw [if_neg same]
      exact placed.inBlocks u member

lemma cutCost_set {vs : List Nat} (notMember : v ∉ vs) (block : Int) (eScore : ℚ) :
    cutCost (solution.set v block) vs eScore = cutCost solution vs eScore := by
  have same : blockSet (solution.set v block) vs = blockSet solution vs := by
    rw [blockSet, blockSet]
    congr 1
    apply map_congr_left
    intro u member
    rw [blockOf, blockOf, getD_eq_getElem?_getD, getD_eq_getElem?_getD,
      getElem?_set_ne fun same : v = u => notMember (same ▸ member)]
  simp only [cutCost, isCut_iff_card, same]

def allDegs (numParts : Nat) (h : Hypergraph vd hd) (solution : Partitions) : List (List Int) :=
  (List.range h.getNumHyperedges).map fun e => degsOf numParts solution (h.vertices e)

lemma getD_allDegs {e : Nat} (inside : e < h.getNumHyperedges) :
    (allDegs numParts h solution).getD e [] = degsOf numParts solution (h.vertices e) := by
  rw [allDegs, getD_eq_getElem?_getD, getElem?_map, getElem?_range inside]
  rfl

lemma edgeCosts_move (refinable : Refinable h) (placed : Placed ev h solution)
    (inside : v < h.getNumVertices) (target : toPid < ev.numParts)
    (differs : blockOf solution v ≠ toPid) :
    ((h.edges v).map fun e => cutChange ((allDegs ev.numParts h solution).getD e [])
        (blockOf solution v).toNat toPid (ev.calculateHyperedgeCost h e)).sum =
      edgeCosts ev h solution - edgeCosts ev h (solution.set v toPid) := by
  rw [edges_eq_filter refinable, sum_filter, edgeCosts, edgeCosts, ← sum_differences]
  congr 1
  apply map_congr_left
  intro e member
  rw [getD_allDegs (mem_range.mp member)]
  by_cases own : v ∈ h.vertices e
  · rw [if_pos (decide_eq_true own)]
    exact cutChange_exact (refinable.nodup e) own (placed.length_eq ▸ inside)
      (placed.vertices refinable e) target differs
  · rw [if_neg (by simp [own]), cutCost_set own, sub_self]

def moveDegs (fromPid toPid : Nat) (degs : List Int) : List Int :=
  (degs.modify fromPid (· - 1)).modify toPid (· + 1)

lemma moveDegrees_eq (v fromPid toPid : Nat) (netDegs : List (List Int)) :
    moveDegrees h v fromPid toPid netDegs =
      (h.edges v).foldl (fun netDegs e => netDegs.modify e (moveDegs fromPid toPid)) netDegs := rfl

lemma moveDegs_degsOf {vs : List Nat} (nodup : vs.Nodup) (member : v ∈ vs)
    (inside : v < solution.length) (nonneg : 0 ≤ blockOf solution v) :
    moveDegs (blockOf solution v).toNat toPid (degsOf numParts solution vs) =
      degsOf numParts (solution.set v (toPid : Int)) vs := by
  have perm := perm_cons_erase member
  have others : (vs.erase v).map (blockOf (solution.set v (toPid : Int))) =
      (vs.erase v).map (blockOf solution) := by
    apply map_congr_left
    intro u inErase
    have differs : v ≠ u := fun same => (nodup.mem_erase_iff.mp inErase).1 same.symm
    rw [blockOf_set solution v u toPid inside, if_neg differs]
  have before : ∀ block : Int, (vs.map (blockOf solution)).count block =
      ((vs.erase v).map (blockOf solution)).count block +
        if blockOf solution v = block then 1 else 0 := by
    intro block
    rw [(perm.map _).count_eq, map_cons, count_cons]
    simp only [beq_iff_eq]
  have after : ∀ block : Int, (vs.map (blockOf (solution.set v (toPid : Int)))).count block =
      ((vs.erase v).map (blockOf solution)).count block +
        if (toPid : Int) = block then 1 else 0 := by
    intro block
    rw [(perm.map _).count_eq, map_cons, others, count_cons,
      blockOf_set solution v v toPid inside, if_pos rfl]
    simp only [beq_iff_eq]
  apply ext_getElem?
  intro block
  simp only [moveDegs, degsOf, getElem?_modify, getElem?_map, before, after]
  by_cases isBlock : block < numParts
  · rw [getElem?_range isBlock]
    have leaves : (blockOf solution v).toNat = block ↔ blockOf solution v = block := by omega
    simp only [Option.map_some, leaves, Nat.cast_inj]
    by_cases isFrom : blockOf solution v = block
    · by_cases isTo : toPid = block
      · simp [isFrom, isTo]
      · simp [isFrom, isTo]
    · by_cases isTo : toPid = block
      · simp [isFrom, isTo]
      · simp [isFrom, isTo]
  · rw [getElem?_eq_none (by simpa using isBlock)]
    rfl

lemma degsOf_set {vs : List Nat} (notMember : v ∉ vs) (block : Int) :
    degsOf numParts (solution.set v block) vs = degsOf numParts solution vs := by
  have same : vs.map (blockOf (solution.set v block)) = vs.map (blockOf solution) := by
    apply map_congr_left
    intro u member
    rw [blockOf, blockOf, getD_eq_getElem?_getD, getD_eq_getElem?_getD,
      getElem?_set_ne fun same : v = u => notMember (same ▸ member)]
  rw [degsOf, degsOf, same]

lemma filter_same {items : List Nat} (nodup : items.Nodup) (e : Nat) :
    (items.filter fun i => i = e) = if e ∈ items then [e] else [] := by
  rw [filter_eq, nodup.count]
  by_cases member : e ∈ items
  · rw [if_pos member, if_pos member]
    rfl
  · rw [if_neg member, if_neg member]
    rfl

lemma moveDegrees_allDegs (refinable : Refinable h) (placed : Placed ev h solution)
    (inside : v < h.getNumVertices) :
    moveDegrees h v (blockOf solution v).toNat toPid (allDegs ev.numParts h solution) =
      allDegs ev.numParts h (solution.set v (toPid : Int)) := by
  apply ext_getElem?
  intro e
  have nonneg := (placed.inBlocks v (mem_range.mpr inside)).1
  rw [moveDegrees_eq, Tally.getElem?_modifies (fun e => e)
    (fun _ degs => moveDegs (blockOf solution v).toNat toPid degs),
    filter_same (edges_nodup refinable v), edges_eq_filter refinable, allDegs, allDegs,
    getElem?_map, getElem?_map]
  by_cases isEdge : e < h.getNumHyperedges
  · rw [getElem?_range isEdge, Option.map_some, Option.map_some, Option.map_some]
    by_cases own : v ∈ h.vertices e
    · rw [if_pos (by simp [isEdge, own])]
      exact congrArg some (moveDegs_degsOf (refinable.nodup e) own (placed.length_eq ▸ inside)
        nonneg)
    · rw [if_neg (by simp [own]), degsOf_set own]
      rfl
  · rw [getElem?_eq_none (by simpa using isEdge)]
    rfl

lemma edge_connected (refinable : Refinable h) (placed : Placed ev h solution) (v : Nat) :
    ∀ e ∈ h.edges v, getConnectivity ((allDegs ev.numParts h solution).getD e []) ≠ 0 := by
  intro e member
  rw [edges_eq_filter refinable, mem_filter, mem_range, decide_eq_true_eq] at member
  rw [getD_allDegs member.1, getConnectivity_degsOf (placed.vertices refinable e)]
  exact Finset.card_ne_zero_of_mem (mem_blockSet.mpr ⟨v, member.2, rfl⟩)

lemma cutSteps (fromPid toPid : Nat) {es : List Nat} (nodup : es.Nodup) :
    ∀ (score : ℚ) (degs : List (List Int)), (∀ e ∈ es, getConnectivity (degs.getD e []) ≠ 0) →
      es.foldl (cutStep ev h fromPid toPid) (score, degs) =
        (score + (es.map fun e =>
          cutChange (degs.getD e []) fromPid toPid (ev.calculateHyperedgeCost h e)).sum,
          es.foldl (fun degs e => degs.modify e (moveDegs fromPid toPid)) degs) := by
  induction es with
  | nil =>
    intro score degs _
    rw [foldl_nil, foldl_nil, map_nil, sum_nil, add_zero]
  | cons e rest ih =>
    intro score degs connected
    have apart := (nodup_cons.mp nodup).1
    have others : ∀ e' ∈ rest, (degs.modify e (moveDegs fromPid toPid)).getD e' [] =
        degs.getD e' [] := by
      intro e' member
      have differs : e ≠ e' := fun same => apart (same ▸ member)
      rw [getD_eq_getElem?_getD, getD_eq_getElem?_getD, getElem?_modify_ne _ _ differs]
    have same : (rest.map fun e' => cutChange ((degs.modify e (moveDegs fromPid toPid)).getD e' [])
        fromPid toPid (ev.calculateHyperedgeCost h e')) =
        rest.map fun e' => cutChange (degs.getD e' []) fromPid toPid
          (ev.calculateHyperedgeCost h e') := by
      apply map_congr_left
      intro e' member
      rw [others e' member]
    have stays : ∀ e' ∈ rest,
        getConnectivity ((degs.modify e (moveDegs fromPid toPid)).getD e' []) ≠ 0 := by
      intro e' member
      rw [others e' member]
      exact connected e' (mem_cons_of_mem e member)
    calc
      (e :: rest).foldl (cutStep ev h fromPid toPid) (score, degs)
      _ = rest.foldl (cutStep ev h fromPid toPid)
          (score + cutChange (degs.getD e []) fromPid toPid (ev.calculateHyperedgeCost h e),
            degs.modify e (moveDegs fromPid toPid)) := by
          rw [foldl_cons, cutStep, if_neg (connected e mem_cons_self)]
          rfl
      _ = _ := by
          rw [ih (nodup_cons.mp nodup).2 _ _ stays, same, map_cons, sum_cons, ← add_assoc,
            foldl_cons]

def setAll (toPid : Nat) (solution : Partitions) (vs : List Nat) : Partitions :=
  vs.foldl (fun solution v => solution.set v (toPid : Int)) solution

lemma setAll_cons (toPid v : Nat) (vs : List Nat) :
    setAll toPid solution (v :: vs) = setAll toPid (solution.set v (toPid : Int)) vs := rfl

lemma leaveCuts_exact (refinable : Refinable h) (target : toPid < ev.numParts)
    (leaving : List Nat) :
    ∀ (solution : Partitions) (score : ℚ), Placed ev h solution → leaving.Nodup →
      (∀ v ∈ leaving, v < h.getNumVertices ∧ blockOf solution v ≠ toPid) →
      (leaving.map fun v => (v, (blockOf solution v).toNat)).foldl
          (fun state v => (h.edges v.1).foldl (cutStep ev h v.2 toPid) state)
          (score, allDegs ev.numParts h solution) =
        (score + (edgeCosts ev h solution - edgeCosts ev h (setAll toPid solution leaving)),
          allDegs ev.numParts h (setAll toPid solution leaving)) := by
  induction leaving with
  | nil =>
    intro solution score _ _ _
    rw [setAll, map_nil, foldl_nil, foldl_nil, sub_self, add_zero]
  | cons v rest ih =>
    intro solution score placed nodup outside
    rcases outside v mem_cons_self with ⟨inside, differs⟩
    have apart := (nodup_cons.mp nodup).1
    have others : ∀ u ∈ rest, blockOf (solution.set v (toPid : Int)) u = blockOf solution u := by
      intro u member
      rw [blockOf_set solution v u toPid (placed.length_eq ▸ inside),
        if_neg fun isFirst : v = u => apart (isFirst ▸ member)]
    have same : (rest.map fun u => (u, (blockOf solution u).toNat)) =
        rest.map fun u => (u, (blockOf (solution.set v (toPid : Int)) u).toNat) := by
      apply map_congr_left
      intro u member
      rw [others u member]
    have later := ih (solution.set v (toPid : Int))
      (score + (edgeCosts ev h solution - edgeCosts ev h (solution.set v (toPid : Int))))
      (placed.set inside target) (nodup_cons.mp nodup).2
      (fun u member => ⟨(outside u (mem_cons_of_mem v member)).1, by
        rw [others u member]
        exact (outside u (mem_cons_of_mem v member)).2⟩)
    have first : (h.edges v).foldl (cutStep ev h (blockOf solution v).toNat toPid)
        (score, allDegs ev.numParts h solution) =
        (score + (edgeCosts ev h solution - edgeCosts ev h (solution.set v (toPid : Int))),
          allDegs ev.numParts h (solution.set v (toPid : Int))) := by
      rw [cutSteps _ _ (edges_nodup refinable v) _ _ (edge_connected refinable placed v),
        edgeCosts_move refinable placed inside target differs]
      exact congrArg _ (moveDegrees_allDegs refinable placed inside)
    rw [map_cons, foldl_cons, first, same, later, setAll_cons]
    congr 1
    ring

end OpenRoad.Par
