import OpenRoad.Par.Partitioner

/-! Which generators keep the blocks of the fixed vertices. -/

namespace OpenRoad.Par

open List Partitioner

variable {vd hd : Nat} {p : Partitioner vd hd} {env : Environment vd} {h : Hypergraph vd hd}

/-- Every vertex has a block, and every fixed vertex its own. -/
structure Respects (h : Hypergraph vd hd) (numParts : Nat) (solution : Partitions) : Prop where
  length : solution.length = h.getNumVertices
  block : ∀ v < h.getNumVertices, 0 ≤ blockOf solution v ∧ blockOf solution v < numParts
  fixed : ∀ v < h.getNumVertices, h.isFixed v = true → blockOf solution v = h.getFixedAttr v

lemma place_all {σ : Type} (step : σ → Nat → σ) (solution : σ → Partitions) (Inv : σ → Prop)
    (numParts : Nat)
    (places : ∀ s v, Inv s → Inv (step s v) ∧
      ∃ block : Nat, block < numParts ∧ solution (step s v) = (solution s).set v block)
    (order : List Nat) :
    ∀ s, Inv s → (∀ v ∈ order, v < (solution s).length) →
      (solution (order.foldl step s)).length = (solution s).length ∧
      (∀ v ∈ order, 0 ≤ blockOf (solution (order.foldl step s)) v ∧
        blockOf (solution (order.foldl step s)) v < numParts) ∧
      ∀ v, v ∉ order → blockOf (solution (order.foldl step s)) v = blockOf (solution s) v := by
  induction order with
  | nil => exact fun s _ _ => ⟨rfl, nofun, fun _ _ => rfl⟩
  | cons u rest ih =>
    intro s inv inside
    rcases places s u inv with ⟨kept, block, bound, placed⟩
    have sameLength : (solution (step s u)).length = (solution s).length := by
      rw [placed, length_set]
    rcases ih (step s u) kept (fun v member => by
      rw [sameLength]
      exact inside v (mem_cons_of_mem _ member)) with ⟨length, ranged, others⟩
    rw [foldl_cons]
    refine ⟨length.trans sameLength, fun v member => ?_, fun v outside => ?_⟩
    · by_cases later : v ∈ rest
      · exact ranged v later
      · rcases mem_cons.mp member with rfl | there
        · rw [others v later, placed, blockOf_set _ _ _ _ (inside v mem_cons_self), if_pos rfl]
          exact ⟨Int.natCast_nonneg block, Int.ofNat_lt.mpr bound⟩
        · exact absurd there later
    · rw [others v fun later => outside (mem_cons_of_mem _ later), placed,
        blockOf_set _ _ _ _ (inside u mem_cons_self),
        if_neg fun same : u = v => outside (same ▸ mem_cons_self)]

lemma mem_fixedVertices {v : Nat} :
    v ∈ h.fixedVertices ↔ v < h.getNumVertices ∧ h.isFixed v = true := by
  rw [Hypergraph.fixedVertices, mem_filter, mem_range]

lemma assignFixed_spec (vertices : List Nat) :
    ∀ solution : Partitions, (∀ v ∈ vertices, v < solution.length) →
      (vertices.foldl (fun solution v => solution.set v (h.getFixedAttr v)) solution).length =
        solution.length ∧
      ∀ v ∈ vertices,
        blockOf (vertices.foldl (fun solution v => solution.set v (h.getFixedAttr v)) solution) v =
          h.getFixedAttr v := by
  induction vertices using reverseRecOn with
  | nil => exact fun _ _ => ⟨rfl, nofun⟩
  | append_singleton front u ih =>
    intro solution inside
    rcases ih solution fun v member => inside v (mem_append_left _ member) with
      ⟨length, blocks⟩
    rw [foldl_append, foldl_cons, foldl_nil]
    refine ⟨by rw [length_set, length], fun v member => ?_⟩
    rw [blockOf_set _ _ _ _ (length.symm ▸ inside u (mem_append_right _
      (mem_singleton.mpr rfl)))]
    split
    · rename_i same
      rw [same]
    · rename_i differs
      rcases mem_append.mp member with early | last
      · exact blocks v early
      · exact absurd (mem_singleton.mp last).symm differs

variable {solution : Partitions}

lemma length_assignFixed (length : solution.length = h.getNumVertices) :
    (h.assignFixed solution).length = h.getNumVertices := by
  rw [← length]
  exact (assignFixed_spec h.fixedVertices solution fun _ member =>
    length.symm ▸ (mem_fixedVertices.mp member).1).1

lemma blockOf_assignFixed (length : solution.length = h.getNumVertices) {v : Nat}
    (fixed : v ∈ h.fixedVertices) : blockOf (h.assignFixed solution) v = h.getFixedAttr v :=
  (assignFixed_spec h.fixedVertices solution fun _ member =>
    length.symm ▸ (mem_fixedVertices.mp member).1).2 v fixed

lemma respects_of_placed {numParts : Nat} {final : Partitions} {order : List Nat}
    (length : solution.length = h.getNumVertices)
    (inRange : ∀ v < h.getNumVertices, h.isFixed v = true → h.getFixedAttr v < numParts)
    (covers : ∀ v < h.getNumVertices, v ∈ order ↔ h.isFixed v = false)
    (sameLength : final.length = (h.assignFixed solution).length)
    (placed : ∀ v ∈ order, 0 ≤ blockOf final v ∧ blockOf final v < numParts)
    (others : ∀ v, v ∉ order → blockOf final v = blockOf (h.assignFixed solution) v) :
    Respects h numParts final := by
  have fixed : ∀ v < h.getNumVertices, h.isFixed v = true → blockOf final v = h.getFixedAttr v := by
    intro v inside isFixed
    have out : v ∉ order := fun member => by
      rw [(covers v inside).mp member] at isFixed
      cases isFixed
    rw [others v out, blockOf_assignFixed length (mem_fixedVertices.mpr ⟨inside, isFixed⟩)]
  refine ⟨sameLength.trans (length_assignFixed length), fun v inside => ?_, fixed⟩
  cases isFixed : h.isFixed v with
  | false => exact placed v ((covers v inside).mpr isFixed)
  | true =>
    rw [fixed v inside isFixed]
    refine ⟨?_, inRange v inside isFixed⟩
    rw [Hypergraph.isFixed, decide_eq_true_eq] at isFixed
    have positive := isFixed.2
    omega

lemma collected_spec (vertices : List Nat) : ∀ state : List Nat × List Nat,
      let final := vertices.foldl collectPathVertices state
      (∀ v, v ∈ final.1 ↔ v ∈ state.1 ∨ v ∈ vertices) ∧
      ∀ v, v ∈ final.2 ↔ v ∈ state.2 ∨ (v ∈ vertices ∧ v ∉ state.1) := by
  induction vertices with
  | nil =>
    intro state
    simp
  | cons u rest ih =>
    intro state
    simp only [foldl_cons]
    rcases ih (collectPathVertices state u) with ⟨visited, onPaths⟩
    rw [collectPathVertices] at visited onPaths ⊢
    split at visited
    · rename_i already
      simp only [already, if_true] at onPaths ⊢
      refine ⟨fun v => ?_, fun v => ?_⟩
      · rw [visited, mem_cons]
        grind
      · rw [onPaths, mem_cons]
        grind
    · rename_i new
      simp only [new, if_false] at onPaths ⊢
      refine ⟨fun v => ?_, fun v => ?_⟩
      · rw [visited, mem_cons, mem_append, mem_singleton]
        grind
      · rw [onPaths, mem_cons, mem_append, mem_append, mem_singleton]
        grind

lemma mem_freeVertices (lawful : env.Lawful) {v : Nat} (inside : v < h.getNumVertices) :
    v ∈ freeVertices env h ↔ h.isFixed v = false := by
  rw [freeVertices]
  rcases collected_spec ((range h.getNumTimingPaths).flatMap h.pathVertices)
    (h.fixedVertices, []) with ⟨visited, onPaths⟩
  rw [mem_append, (lawful.shuffle_perm _).mem_iff, (lawful.shuffle_perm _).mem_iff, onPaths,
    mem_filter, mem_range, decide_eq_true_eq, visited, mem_fixedVertices,
    ← Bool.not_eq_true]
  have none' : v ∉ ([] : List Nat) := not_mem_nil
  tauto

lemma freeVertices_lt (valid : h.Valid) (lawful : env.Lawful) {v : Nat}
    (member : v ∈ freeVertices env h) : v < h.getNumVertices := by
  rw [freeVertices] at member
  rcases collected_spec ((range h.getNumTimingPaths).flatMap h.pathVertices)
    (h.fixedVertices, []) with ⟨_, onPaths⟩
  rw [mem_append, (lawful.shuffle_perm _).mem_iff, (lawful.shuffle_perm _).mem_iff, onPaths,
    mem_filter, mem_range] at member
  rcases member with (early | ⟨onPath, _⟩) | ⟨remaining, _⟩
  · cases early
  · rcases mem_flatMap.mp onPath with ⟨path, _, there⟩
    exact valid.pathVertices_lt path v there
  · exact remaining

lemma placeBalanced_places (twoParts : 2 ≤ p.numParts) (lower : List (Weights vd))
    (s : Partitioner.RandomState vd) (v : Nat) (inv : s.blockId < p.numParts) :
    (p.placeBalanced h lower s v).blockId < p.numParts ∧ ∃ block : Nat, block < p.numParts ∧
        (p.placeBalanced h lower s v).solution = s.solution.set v block := by
  refine ⟨?_, s.blockId, inv, rfl⟩
  rw [placeBalanced]
  split
  · exact Nat.mod_lt _ (by omega)
  · exact inv

lemma placeVile_places (upper : List (Weights vd)) (s : Partitioner.RandomState vd) (v : Nat)
    (inv : s.blockId < p.numParts ∧ (s.stopFlag = false → s.blockId + 1 < p.numParts)) :
    ((p.placeVile h upper s v).blockId < p.numParts ∧ ((p.placeVile h upper s v).stopFlag = false →
        (p.placeVile h upper s v).blockId + 1 < p.numParts)) ∧
      ∃ block : Nat, block < p.numParts ∧
        (p.placeVile h upper s v).solution = s.solution.set v block := by
  rw [placeVile]
  split
  · rename_i full
    have next := inv.2 (by simpa using full.2)
    refine ⟨⟨next, fun goesOn => ?_⟩, s.blockId + 1, next, set_set _⟩
    dsimp only at goesOn ⊢
    split at goesOn
    · cases goesOn
    · rename_i notLast
      omega
  · exact ⟨inv, s.blockId, inv.1, rfl⟩

lemma randomPart_respects (twoParts : 2 ≤ p.numParts) (valid : h.Valid) (lawful : env.Lawful)
    (inRange : ∀ v < h.getNumVertices, h.isFixed v = true → h.getFixedAttr v < p.numParts)
    (upper lower : List (Weights vd)) (length : solution.length = h.getNumVertices)
    (vileMode : Bool) :
    Respects h p.numParts (p.randomPart env h upper lower solution vileMode) := by
  have inside : ∀ v ∈ freeVertices env h, v < (h.assignFixed solution).length := by
    intro v member
    rw [length_assignFixed length]
    exact freeVertices_lt valid lawful member
  rw [randomPart]
  cases vileMode with
  | false =>
    have placed := fun balance => place_all (p.placeBalanced h lower) Partitioner.RandomState.solution
      (fun s => s.blockId < p.numParts) p.numParts (placeBalanced_places twoParts lower)
      (freeVertices env h)
      ⟨h.assignFixed solution, balance, 0, false⟩ (by show 0 < p.numParts; omega) inside
    exact respects_of_placed length inRange (fun v => mem_freeVertices lawful) (placed _).1
      (placed _).2.1 (placed _).2.2
  | true =>
    have placed := fun balance => place_all (p.placeVile h upper) Partitioner.RandomState.solution
      (fun s => s.blockId < p.numParts ∧ (s.stopFlag = false → s.blockId + 1 < p.numParts))
      p.numParts (placeVile_places upper) (freeVertices env h)
      ⟨h.assignFixed solution, balance, 0, false⟩
      (by show 0 < p.numParts ∧ (_ → 0 + 1 < p.numParts); omega) inside
    exact respects_of_placed length inRange (fun v => mem_freeVertices lawful) (placed _).1
      (placed _).2.1 (placed _).2.2

lemma vilePart_respects (twoParts : 2 ≤ p.numParts) (lawful : env.Lawful)
    (inRange : ∀ v < h.getNumVertices, h.isFixed v = true → h.getFixedAttr v < p.numParts) :
    Respects h p.numParts (p.vilePart env h) := by
  have length : (replicate h.getNumVertices (0 : Int)).length = h.getNumVertices :=
    length_replicate
  have members : ∀ v, v ∈ env.sort (p.evaluator.getVertexWeightNorm h)
      ((range h.getNumVertices).filter fun v => ¬ h.isFixed v) ↔
        v < h.getNumVertices ∧ h.isFixed v = false := by
    intro v
    rw [(lawful.sort_perm _ _).mem_iff, mem_filter, mem_range, decide_eq_true_eq,
      Bool.not_eq_true]
  rw [vilePart]
  have placed := place_all p.placeInTurn Prod.fst (fun s => s.2 < p.numParts) p.numParts
    (fun s v inv => ⟨Nat.mod_lt _ (by omega), s.2, inv, rfl⟩) _
    (h.assignFixed (replicate h.getNumVertices 0), 0) (by show 0 < p.numParts; omega)
    (fun v member => by
      rw [length_assignFixed length]
      exact ((members v).mp member).1)
  exact respects_of_placed length inRange
    (fun v inside => (members v).trans (and_iff_right inside)) placed.1 placed.2.1 placed.2.2

variable {m : IlpModel vd} {s : IlpSolution}

lemma readBlock_spec (feasible : m.Feasible s) {v : Nat} (inside : v < m.numVertices) :
    ∃ i < m.numParts, s.x i v = 1 ∧ readBlock m.numParts s v = i := by
  rw [readBlock]
  cases found : (range m.numParts).find? fun i => s.x i v = 1 with
  | some i =>
    refine ⟨i, mem_range.mp (mem_of_find?_eq_some found), ?_, rfl⟩
    simpa using find?_some found
  | none =>
    have zero : ∑ i ∈ Finset.range m.numParts, s.x i v = 0 := by
      refine Finset.sum_eq_zero fun i member => ?_
      rw [find?_eq_none] at found
      have notOne := found i (mem_range.mpr (Finset.mem_range.mp member))
      rcases feasible.x_binary i (Finset.mem_range.mp member) v inside with none' | one
      · exact none'
      · exact absurd (decide_eq_true one) notOne
    have one := feasible.one_block v inside
    rw [zero] at one
    cases one

lemma readBlock_unique (feasible : m.Feasible s) {v i : Nat} (inside : v < m.numVertices)
    (bound : i < m.numParts) (one : s.x i v = 1) :
    readBlock m.numParts s v = i := by
  rcases readBlock_spec feasible inside with ⟨j, jBound, jOne, read⟩
  rw [read]
  by_contra differs
  have different : i ≠ j := fun same => differs (congrArg Nat.cast same.symm)
  have two : s.x i v + s.x j v ≤ ∑ k ∈ Finset.range m.numParts, s.x k v := by
    have pair := Finset.sum_le_sum_of_subset_of_nonneg (f := fun k => s.x k v)
      (s := {i, j}) (t := Finset.range m.numParts) (by
        intro k member
        rcases Finset.mem_insert.mp member with rfl | last
        · exact Finset.mem_range.mpr bound
        · exact Finset.mem_range.mpr (Finset.mem_singleton.mp last ▸ jBound))
      (fun k member _ => by
        rcases feasible.x_binary k (Finset.mem_range.mp member) v inside with zero | one'
        · exact zero.ge
        · exact one'.ge.trans' zero_le_one)
    rwa [Finset.sum_pair different] at pair
  rw [feasible.one_block v inside, one, jOne] at two
  omega

def OptimaKeepFixed (p : Partitioner vd hd) (h : Hypergraph vd hd)
    (upper lower : List (Weights vd)) : Prop :=
  ∀ s, (p.ilpModel h upper lower).Optimal s → ∀ v < h.getNumVertices, h.isFixed v = true →
    s.x (h.getFixedAttr v).toNat v = 1

lemma ilpModel_vertices (upper lower : List (Weights vd)) :
    (p.ilpModel h upper lower).numVertices = h.getNumVertices := by
  rw [IlpModel.numVertices, ilpModel, length_map, length_range]

lemma blockOf_ilp (m : IlpModel vd) (s : IlpSolution) {v : Nat} (inside : v < m.numVertices) :
    blockOf ((range m.numVertices).map (readBlock m.numParts s)) v =
      readBlock m.numParts s v := by
  rw [blockOf, getD_eq_getElem?_getD, getElem?_map, getElem?_range inside]
  rfl

lemma isFixed_nonneg {v : Nat} (fixed : h.isFixed v = true) : 0 ≤ h.getFixedAttr v := by
  rw [Hypergraph.isFixed, decide_eq_true_eq] at fixed
  have positive := fixed.2
  omega

lemma ilpPart_respects (twoParts : 2 ≤ p.numParts) (valid : h.Valid) (lawful : env.Lawful)
    (inRange : ∀ v < h.getNumVertices, h.isFixed v = true → h.getFixedAttr v < p.numParts)
    (upper lower : List (Weights vd))
    (length : solution.length = h.getNumVertices)
    (kept : ilpCalled (p.ilpModel h upper lower) = true →
      OptimaKeepFixed p h upper lower) :
    Respects h p.numParts (p.ilpPart env h upper lower solution) := by
  have random : ∀ start : Partitions, start.length = h.getNumVertices →
      Respects h p.numParts (p.randomPart env h upper lower start false) :=
    fun start same => randomPart_respects twoParts valid lawful inRange upper lower same false
  rw [ilpPart, ilpPartitionInst]
  cases called : ilpCalled (p.ilpModel h upper lower) with
  | false => exact random _ (length_assignFixed length)
  | true =>
    cases answer : env.solve (p.ilpModel h upper lower) with
    | none =>
      refine random _ ?_
      rw [if_pos rfl, length_replicate, ilpModel_vertices]
    | some s =>
      have optimal := lawful.solve_optimal _ _ answer
      have sized := ilpModel_vertices (p := p) (h := h) upper lower
      simp only [if_true]
      refine ⟨by rw [length_map, length_range, sized], fun v inside => ?_,
        fun v inside fixed => ?_⟩
      · rw [blockOf_ilp _ _ (sized.symm ▸ inside)]
        rcases readBlock_spec optimal.feasible (sized.symm ▸ inside) with ⟨i, bound, _, read⟩
        rw [read]
        exact ⟨Int.natCast_nonneg i, Int.ofNat_lt.mpr bound⟩
      · have one := kept called s optimal v inside fixed
        have bound := inRange v inside fixed
        have positive := isFixed_nonneg fixed
        rw [blockOf_ilp _ _ (sized.symm ▸ inside), readBlock_unique optimal.feasible
          (sized.symm ▸ inside) (by show _ < p.numParts; omega) one, Int.toNat_of_nonneg positive]

open Classical in
noncomputable def answering (m : IlpModel vd) (s : IlpSolution) : Environment vd where
  shuffle := id
  sort := fun key => List.insertionSort fun u v => key u ≤ key v
  solve := fun other => if other = m then some s else none

lemma answering_lawful (optimal : m.Optimal s) :
    (answering m s).Lawful where
  shuffle_perm := fun vertices => Perm.refl vertices
  sort_perm := fun key vertices => perm_insertionSort _ vertices
  sort_sorted := fun key vertices => by
    have total : Std.Total fun u v => key u ≤ key v := ⟨fun u v => le_total (key u) (key v)⟩
    have trans : IsTrans Nat fun u v => key u ≤ key v := ⟨fun u v w => le_trans⟩
    exact pairwise_insertionSort _ vertices
  solve_optimal := by
    intro other answer answered
    rw [answering] at answered
    dsimp only at answered
    split at answered
    · rename_i same
      rw [same, ← Option.some.inj answered]
      exact optimal
    · cases answered

lemma optimaKeepFixed_of_respects (upper lower : List (Weights vd))
    (called : ilpCalled (p.ilpModel h upper lower) = true)
    (respects : ∀ env : Environment vd, env.Lawful →
      Respects h p.numParts (p.partition env h upper lower solution .kInitDirectIlp)) :
    OptimaKeepFixed p h upper lower := by
  intro s optimal v inside fixed
  have sized := ilpModel_vertices (p := p) (h := h) upper lower
  have answered := (respects (answering (p.ilpModel h upper lower) s)
    (answering_lawful optimal)).fixed v inside fixed
  have isAnswer : p.partition (answering (p.ilpModel h upper lower) s) h upper lower solution
      .kInitDirectIlp = (range (p.ilpModel h upper lower).numVertices).map
        (readBlock (p.ilpModel h upper lower).numParts s) := by
    have solved : (answering (p.ilpModel h upper lower) s).solve (p.ilpModel h upper lower) =
        some s := if_pos rfl
    rw [Partitioner.partition, ilpPart, ilpPartitionInst, called, solved]
    rfl
  rw [isAnswer, blockOf_ilp _ _ (sized.symm ▸ inside)] at answered
  rcases readBlock_spec optimal.feasible (sized.symm ▸ inside) with ⟨i, _, one, read⟩
  rw [read] at answered
  rw [← answered, Int.toNat_natCast]
  exact one

/-- The partition is within the constraints exactly when no optimal solution moves a fixed vertex.
-/
theorem partition_respects_iff (p : Partitioner vd hd) (h : Hypergraph vd hd)
    (upper lower : List (Weights vd)) (solution : Partitions) (partitionerChoice : PartitionType)
    (twoParts : 2 ≤ p.numParts) (valid : h.Valid)
    (inRange : ∀ v < h.getNumVertices, h.isFixed v = true → h.getFixedAttr v < p.numParts) :
    (∀ env : Environment vd, env.Lawful →
      Respects h p.numParts (p.partition env h upper lower solution partitionerChoice)) ↔
    (partitionerChoice = .kInitDirectIlp → ilpCalled (p.ilpModel h upper lower) = true →
      OptimaKeepFixed p h upper lower) := by
  constructor
  · rintro respects rfl called
    exact optimaKeepFixed_of_respects upper lower called respects
  · intro kept env lawful
    have length : (if solution.length = h.getNumVertices then solution
        else List.replicate h.getNumVertices (-1)).length = h.getNumVertices := by
      split
      · assumption
      · exact length_replicate
    cases partitionerChoice with
    | kInitRandom | kInitRandomVile =>
      exact randomPart_respects twoParts valid lawful inRange upper lower length _
    | kInitVile => exact vilePart_respects twoParts lawful inRange
    | kInitDirectIlp =>
      exact ilpPart_respects twoParts valid lawful inRange upper lower length (kept rfl)

def samplePartitioner : Partitioner 1 1 where
  numParts := 2
  ilpAcceleratorFactor := 1
  evaluator :=
    { numParts := 2
      eWtFactors := fun _ => 1
      vWtFactors := fun _ => 1
      netTimingFactor := 0
      pathTimingFactor := 0
      pathSnakingFactor := 0
      timingScore := id }

/-- Two vertices on one hyperedge, the first one fixed in the block. -/
def fixedPair (block : Int) : Hypergraph 1 1 :=
  Hypergraph.new [[0, 1]] [fun _ => 1, fun _ => 1] [fun _ => 1] [block, -1] [] [] [] []

lemma fixedPair_valid (block : Int) : (fixedPair block).Valid := by
  have inside : ∀ vertices ∈ ([[0, 1]] : List (List Nat)), ∀ v ∈ vertices, v < 2 := by decide
  exact ⟨rfl, inside, nofun, fun _ => rfl, nofun, fun _ => rfl⟩

def pairModel : IlpModel 1 := samplePartitioner.ilpModel (fixedPair 0) [2, 2] [0, 0]

lemma fixedPair_model (block : Int) :
    samplePartitioner.ilpModel (fixedPair block) [2, 2] [0, 0] = pairModel := rfl

def lastBlock : IlpSolution where
  x := fun i _ => if i = 1 then 1 else 0
  y := fun i _ => if i = 1 then 1 else 0

lemma objective_pair (s : IlpSolution) :
    pairModel.objective s = s.y 0 0 + s.y 1 0 + (s.x 1 0 + s.x 1 1) / 6 := by
  have weights : pairModel.hyperedgeWeights = [1] := by with_unfolding_all decide
  have vertices : pairModel.numVertices = 2 := rfl
  have parts : pairModel.numParts = 2 := rfl
  rw [IlpModel.objective, IlpModel.costStep, IlpModel.numHyperedges, weights, vertices, parts]
  norm_num [Finset.sum_range_succ]
  ring

lemma pair_bounds {s : IlpSolution} (feasible : pairModel.Feasible s) :
    s.y 0 0 + s.y 1 0 ≤ 1 ∧ s.x 1 0 ≤ 1 ∧ s.x 1 1 ≤ 1 := by
  have within : ∀ i < 2, 0 ≤ s.x i 0 - s.y i 0 := fun i bound =>
    feasible.within 0 (by decide) 0 (by decide) i bound
  have one : s.x 0 0 + s.x 1 0 = 1 := by
    have sum := feasible.one_block 0 (by decide)
    rwa [show pairModel.numParts = 2 from rfl, Finset.sum_range_succ, Finset.sum_range_one] at sum
  have atMost : ∀ v < 2, s.x 1 v ≤ 1 := by
    intro v bound
    rcases feasible.x_binary 1 (by decide) v bound with zero | one'
    · rw [zero]
      exact zero_le_one
    · exact one'.le
  have first := within 0 (by decide)
  have second := within 1 (by decide)
  exact ⟨by omega, atMost 0 (by decide), atMost 1 (by decide)⟩

lemma lastBlock_optimal : pairModel.Optimal lastBlock where
  feasible :=
    { x_binary := by decide
      y_binary := by decide
      upper := by with_unfolding_all decide
      lower := by with_unfolding_all decide
      fixed := nofun
      one_block := by decide
      within := by decide }
  best := by
    intro other feasible
    rcases pair_bounds feasible with ⟨edges, first, second⟩
    rw [objective_pair, objective_pair]
    have edgesCast : (other.y 0 0 + other.y 1 0 : ℚ) ≤ 1 := by exact_mod_cast edges
    have firstCast : (other.x 1 0 : ℚ) ≤ 1 := by exact_mod_cast first
    have secondCast : (other.x 1 1 : ℚ) ≤ 1 := by exact_mod_cast second
    norm_num [lastBlock]
    linarith

/-- The vertex is fixed in the block that the objective prefers. -/
theorem partition_respects_iff_sample : (fixedPair 1).Valid ∧
    ∀ env : Environment 1, env.Lawful → Respects (fixedPair 1) 2
      (samplePartitioner.partition env (fixedPair 1) [2, 2] [0, 0] [] .kInitDirectIlp) := by
  refine ⟨fixedPair_valid 1, ?_⟩
  apply (partition_respects_iff samplePartitioner (fixedPair 1) [2, 2] [0, 0] [] .kInitDirectIlp
    (by decide) (fixedPair_valid 1) (by decide)).mpr
  intro _ _ s optimal v inside isFixed
  rw [fixedPair_model] at optimal
  have isFirst : v = 0 := by
    revert v
    decide
  have atLeast := optimal.best lastBlock lastBlock_optimal.feasible
  rw [objective_pair, objective_pair] at atLeast
  rcases pair_bounds optimal.feasible with ⟨edges, first, second⟩
  have edgesCast : (s.y 0 0 + s.y 1 0 : ℚ) ≤ 1 := by exact_mod_cast edges
  have secondCast : (s.x 1 1 : ℚ) ≤ 1 := by exact_mod_cast second
  norm_num [lastBlock] at atLeast
  have whole : (1 : ℚ) ≤ s.x 1 0 := by linarith
  rw [isFirst]
  exact le_antisymm first (by exact_mod_cast whole)

theorem ilp_moves_fixed_vertex : ¬ ∀ env : Environment 1, env.Lawful → Respects (fixedPair 0) 2
        (samplePartitioner.partition env (fixedPair 0) [2, 2] [0, 0] [] .kInitDirectIlp) := by
  intro respects
  have kept := optimaKeepFixed_of_respects [2, 2] [0, 0] (by decide) respects lastBlock
    lastBlock_optimal 0 (by decide) (by decide)
  exact absurd kept (by decide)

end OpenRoad.Par
