import OpenRoad.Dpl.JournalUndo

/-! Values kept by the deltas of accepted moves against values computed from scratch. -/

namespace OpenRoad.Dpl

open OpenRoad.Lib List Node DetailedDisplacement DetailedMgr

lemma sum_changes {α M : Type} [DecidableEq α] [AddCommGroup M] {all part : List α}
    {old new : α → M} (nodup : all.Nodup) (nodupPart : part.Nodup) (sub : part ⊆ all)
    (same : ∀ a ∈ all, a ∉ part → old a = new a) :
    (all.map old).sum - ((part.map old).sum - (part.map new).sum) = (all.map new).sum := by
  have subset : part.toFinset ⊆ all.toFinset := fun a member =>
    mem_toFinset.mpr (sub (mem_toFinset.mp member))
  have rest : ∑ a ∈ all.toFinset \ part.toFinset, old a =
      ∑ a ∈ all.toFinset \ part.toFinset, new a := by
    apply Finset.sum_congr rfl
    intro a member
    rw [Finset.mem_sdiff, mem_toFinset, mem_toFinset] at member
    exact same a member.1 member.2
  rw [← sum_toFinset old nodup, ← sum_toFinset new nodup,
    ← sum_toFinset old nodupPart, ← sum_toFinset new nodupPart,
    ← Finset.sum_sdiff subset, ← Finset.sum_sdiff (f := new) subset, rest]
  abel

def Rearranged (grid : Grid) (cells : List Nat) (base nodes : Nat → Node) : Prop :=
  ∀ n, nodes n = base n ∨
    n ∈ cells ∧ ∃ x y o, grid.Gives o ∧ nodes n = ((base n).adjustCurrOrient o).at x y

section

variable {mgr : DetailedMgr} {grid : Grid} {base nodes : Nat → Node} {cells : List Nat}
  {journal : Journal}

lemma Composed.rearranged (composed : Composed grid base nodes journal) :
    Rearranged grid journal.affected_nodes base nodes := by
  intro n
  rcases composed.moves.node n with unmoved | moved
  · exact .inl unmoved
  · by_cases affected : n ∈ journal.affected_nodes
    · exact .inr ⟨affected, moved⟩
    · left
      apply composed.moves.unmoved
      intro action member same
      exact affected ((composed.affected n).mpr ⟨action, member, same⟩)

lemma rejectMove_rearranged {s s' : PlacementState} {journal' : Journal}
    (composed : Composed mgr.grid base s.nodes journal)
    (done : rejectMove mgr journal s = .ok (s', journal')) (n : Nat) :
    s'.nodes n = base n ∨ n ∈ journal.affected_nodes ∧
      ∃ o, mgr.grid.Gives o ∧ s'.nodes n = (base n).adjustCurrOrient o := by
  have restored := rejectMove_restored composed done n
  by_cases affected : n ∈ journal.affected_nodes
  · rcases restored.2 affected with ⟨o, atSite, same⟩
    exact .inr ⟨affected, o, ⟨_, _, _, atSite⟩, same⟩
  · exact .inl (restored.1 affected)

lemma Rearranged.outside (rearranged : Rearranged grid cells base nodes) {n : Nat}
    (outside : n ∉ cells) : nodes n = base n :=
  (rearranged n).resolve_right fun inside => outside inside.1

end

def NetworkFits (network : Network) (nodes : Nat → Node) : Prop :=
  ∀ edge, ∀ pin ∈ network.getEdge edge, edge ∈ (nodes pin.1).pins.map Pin.edge

def Network.counted (network : Network) : List Nat :=
  (List.range network.edges.length).filter network.counts

lemma mem_counted (network : Network) (edge : Nat) :
    edge ∈ network.counted ↔ network.counts edge = true := by
  rw [Network.counted, mem_filter, mem_range]
  refine and_iff_right_of_imp fun counts => ?_
  by_contra beyond
  have empty : network.getEdge edge = [] := by
    simp [Network.getEdge, getElem?_eq_none (not_lt.mp beyond)]
  simp [Network.counts, empty] at counts

section

variable {mgr : DetailedMgr} {network : Network} {grid : Grid} {base nodes : Nat → Node}
  {journal : Journal}

lemma Rearranged.fits {cells : List Nat} (rearranged : Rearranged grid cells base nodes)
    (fits : NetworkFits network base) : NetworkFits network nodes := by
  intro edge pin member
  rcases rearranged pin.1 with unmoved | ⟨_, x, y, o, _, there⟩
  · rw [unmoved]
    exact fits edge pin member
  · rw [there, pins_at, adjustCurrOrient_edges]
    exact fits edge pin member

lemma edgeHpwl_congr {edge : Nat}
    (same : ∀ pin ∈ network.getEdge edge, nodes pin.1 = base pin.1) :
    network.edgeHpwl nodes edge = network.edgeHpwl base edge := by
  have points : ∀ rect : Rect, (network.getEdge edge).foldl (fun rect pin =>
        rect.merge (pinPoint nodes pin).1 (pinPoint nodes pin).2) rect =
      (network.getEdge edge).foldl (fun rect pin =>
        rect.merge (pinPoint base pin).1 (pinPoint base pin).2) rect := by
    intro rect
    apply foldl_ext
    intro rect pin member
    rw [pinPoint, pinPoint, same pin member]
  rw [Network.edgeHpwl, Network.edgeHpwl, hpwl, hpwl, points]

lemma Composed.edgeHpwl (composed : Composed grid base nodes journal)
    (fits : NetworkFits network base) {edge : Nat} (unlisted : edge ∉ journal.affected_edges) :
    network.edgeHpwl nodes edge = network.edgeHpwl base edge := by
  apply edgeHpwl_congr
  intro pin member
  apply composed.rearranged.outside
  intro affected
  rcases mem_map.mp (fits edge pin member) with ⟨other, isPin, isEdge⟩
  have listed := composed.edges pin.1 affected other isPin
  rw [isEdge] at listed
  exact unlisted listed

/-- The lengths remembered and the value are those of the placement. -/
structure HpwlExact (network : Network) (r : HpwlRun) : Prop where
  fits : NetworkFits network r.state.nodes
  cache : ∀ edge ∈ network.counted, r.objective.edge_hpwl edge = network.edgeHpwl r.state.nodes edge
  value : r.value = (network.counted.map (network.edgeHpwl r.state.nodes)).sum

lemma startHpwl_exact {s : PlacementState} (fits : NetworkFits network s.nodes) :
    HpwlExact network (startHpwl network s) where
  fits := fits
  cache := fun _ member => if_pos member
  value := rfl

lemma HpwlExact.accept {r : HpwlRun} {s : PlacementState} (exact : HpwlExact network r)
    (composed : Composed grid r.state.nodes s.nodes journal) :
    HpwlExact network ⟨s, (r.objective.delta network s.nodes journal).2.accept network s.nodes,
      r.value - (r.objective.delta network s.nodes journal).1⟩ where
  fits := composed.rearranged.fits exact.fits
  cache := by
    intro edge isCounted
    rw [DetailedHPWL.accept, DetailedHPWL.delta]
    dsimp only
    split
    · rfl
    · rename_i unlisted
      have outside : edge ∉ journal.affected_edges := by
        intro listed
        apply unlisted
        exact mem_append_right _
          (mem_filter.mpr ⟨listed, (mem_counted network edge).mp isCounted⟩)
      rw [exact.cache edge isCounted, composed.edgeHpwl exact.fits outside]
  value := by
    have affected : journal.affected_edges.filter network.counts ⊆ network.counted := by
      intro edge member
      exact (mem_counted network edge).mpr (mem_filter.mp member).2
    have cached : (journal.affected_edges.filter network.counts).map r.objective.edge_hpwl =
        (journal.affected_edges.filter network.counts).map (network.edgeHpwl r.state.nodes) :=
      map_congr_left fun edge member => exact.cache edge (affected member)
    calc r.value - (r.objective.delta network s.nodes journal).1
        = (network.counted.map (network.edgeHpwl r.state.nodes)).sum -
            (((journal.affected_edges.filter network.counts).map
                (network.edgeHpwl r.state.nodes)).sum -
              ((journal.affected_edges.filter network.counts).map
                (network.edgeHpwl s.nodes)).sum) := by
          rw [exact.value, DetailedHPWL.delta]
          dsimp only
          rw [cached]
      _ = (network.counted.map (network.edgeHpwl s.nodes)).sum := by
          apply sum_changes (nodup_range.filter _) (composed.nodup_edges.filter _) affected
          intro edge isCounted unlisted
          rw [composed.edgeHpwl exact.fits]
          intro listed
          exact unlisted (mem_filter.mpr ⟨listed, (mem_counted network edge).mp isCounted⟩)

def RejectsOriented (mgr : DetailedMgr) (nodes : Nat → Node) (attempt : Attempt) : Prop :=
  attempt.verdict ≠ .accepted →
    ∀ request ∈ attempt.requests, SiteOriented mgr.grid nodes request.getNode

lemma except_toOption_ok {α : Type} {x : Except String α} {a : α} (done : x.toOption = some a) :
    x = .ok a := by
  cases x with
  | error msg => cases done
  | ok b =>
    cases done
    rfl

lemma hpwlStep_exact {r r' : HpwlRun} {attempt : Attempt} (exact : HpwlExact network r)
    (oriented : RejectsOriented mgr r.state.nodes attempt)
    (done : hpwlStep mgr network r attempt = some r') : HpwlExact network r' := by
  rw [hpwlStep] at done
  rcases Option.bind_eq_some_iff.mp done with ⟨⟨s, journal⟩, composes, rest⟩
  rcases composeMoves_composed composes with ⟨composed, affected⟩
  have restores : attempt.verdict ≠ .accepted → ∀ s' journal',
      rejectMove mgr journal s = .ok (s', journal') → s'.nodes = r.state.nodes := by
    intro notAccepted s' journal' rejected
    refine rejectMove_nodes composed (fun n member => ?_) rejected
    rcases (affected n).mp member with ⟨request, requested, rfl⟩
    exact oriented notAccepted request requested
  have unchanged : ∀ (s' : PlacementState) (objective : DetailedHPWL), s'.nodes = r.state.nodes →
      objective.edge_hpwl = r.objective.edge_hpwl → HpwlExact network ⟨s', objective, r.value⟩ := by
    intro s' objective sameNodes sameCache
    refine ⟨?_, ?_, ?_⟩
    · simpa only [sameNodes] using exact.fits
    · simpa only [sameNodes, sameCache] using exact.cache
    · simpa only [sameNodes] using exact.value
  cases verdict : attempt.verdict with
  | accepted =>
    simp only [verdict] at rest
    cases rest
    exact exact.accept composed
  | rejected | withdrawn =>
    simp only [verdict] at rest
    rcases Option.bind_eq_some_iff.mp rest with ⟨⟨s', journal'⟩, rejected, last⟩
    cases last
    have sameNodes := restores (by simp [verdict]) s' journal' (except_toOption_ok rejected)
    exact unchanged s' _ sameNodes rfl

end

/-- The lists of the manager hold the movable cells by their height in rows. -/
structure Classes (mgr : DetailedMgr) (numNodes : Nat) (nodes : Nat → Node) : Prop where
  mem : ∀ height : Nat, 1 ≤ height → ∀ n, n ∈ mgr.cellsOfHeight height ↔
    n < numNodes ∧ Movable nodes n = true ∧ mgr.getCellHeightInRows (nodes n) = height
  nodup : ∀ height, (mgr.cellsOfHeight height).Nodup

lemma getD_collectMultiHeight (rowHeight : Int) (nodes : Nat → Node) (lists : List (List Nat))
    (n height : Nat) :
    (collectMultiHeight rowHeight nodes lists n).getD height [] =
      if (Movable nodes n = true ∧ lround (nodes n).height rowHeight ≠ 1) ∧
          (lround (nodes n).height rowHeight).toNat = height then
        lists.getD height [] ++ [n]
      else lists.getD height [] := by
  have grown : ∀ more, (lists ++ replicate more []).getD height [] = lists.getD height [] := by
    intro more
    rw [getD_eq_getElem?_getD, getD_eq_getElem?_getD]
    rcases lt_or_ge height lists.length with inside | beyond
    · rw [getElem?_append_left inside]
    · rw [getElem?_append_right beyond, getElem?_eq_none beyond, getElem?_replicate]
      split <;> rfl
  rw [collectMultiHeight]
  by_cases tall : Movable nodes n = true ∧ lround (nodes n).height rowHeight ≠ 1
  · rw [if_pos tall, ← grown ((lround (nodes n).height rowHeight).toNat + 1 - lists.length)]
    by_cases same : (lround (nodes n).height rowHeight).toNat = height
    · rw [if_pos ⟨tall, same⟩]
      subst same
      simp only [getD_eq_getElem?_getD, getElem?_modify_eq]
      rw [getElem?_eq_getElem (by simp; omega)]
      rfl
    · rw [if_neg fun both => same both.2]
      simp only [getD_eq_getElem?_getD, getElem?_modify_ne _ _ same]
  · rw [if_neg tall, if_neg fun both => tall both.1]

lemma getD_collectMultiHeightCells (rowHeight : Int) (numNodes : Nat) (nodes : Nat → Node)
    (height : Nat) :
    (collectMultiHeightCells rowHeight numNodes nodes).getD height [] =
      (range numNodes).filter fun n =>
        (Movable nodes n = true ∧ lround (nodes n).height rowHeight ≠ 1) ∧
          (lround (nodes n).height rowHeight).toNat = height := by
  have general : ∀ (cells : List Nat) (lists : List (List Nat)),
      (cells.foldl (collectMultiHeight rowHeight nodes) lists).getD height [] =
        lists.getD height [] ++ cells.filter fun n =>
          (Movable nodes n = true ∧ lround (nodes n).height rowHeight ≠ 1) ∧
            (lround (nodes n).height rowHeight).toNat = height := by
    intro cells
    induction cells with
    | nil =>
      intro lists
      rw [filter_nil, append_nil]
      rfl
    | cons n cells ih =>
      intro lists
      rw [foldl_cons, ih, getD_collectMultiHeight, filter_cons]
      split <;> simp_all
  have empty : ([[], []] : List (List Nat)).getD height [] = [] := by
    rcases height with _ | _ | height <;> rfl
  rw [collectMultiHeightCells, general, empty, nil_append]

variable {mgr : DetailedMgr}

lemma classes_of_collected {numNodes : Nat} {nodes : Nat → Node}
    (single : mgr.singleHeightCells = collectSingleHeightCells mgr.rowHeight numNodes nodes)
    (multi : mgr.multiHeightCells = collectMultiHeightCells mgr.rowHeight numNodes nodes) :
    Classes mgr numNodes nodes where
  mem := by
    intro height atLeast n
    rw [cellsOfHeight, getCellHeightInRows]
    by_cases one : height = 1
    · subst one
      rw [if_pos rfl, single, collectSingleHeightCells]
      simp
    · rw [if_neg one, if_pos (by omega), multi, getD_collectMultiHeightCells, mem_filter,
        mem_range, decide_eq_true_eq]
      constructor
      · rintro ⟨inRange, ⟨movable, _⟩, same⟩
        exact ⟨inRange, movable, by omega⟩
      · rintro ⟨inRange, movable, same⟩
        exact ⟨inRange, ⟨movable, by omega⟩, by omega⟩
  nodup := by
    intro height
    rw [cellsOfHeight]
    split
    · rw [single]
      exact nodup_range.filter _
    · split
      · rw [multi, getD_collectMultiHeightCells]
        exact nodup_range.filter _
      · exact nodup_nil

lemma weigh_sub (mgr : DetailedMgr) (f g : Nat → Int) :
    mgr.weigh f - mgr.weigh g = mgr.weigh fun height => f height - g height := by
  have terms : ∀ heights : List Nat, (heights.map fun height =>
        if (mgr.cellsOfHeight height).length ≠ 0 then
          ((f height - g height : Int) : ℚ) / (mgr.cellsOfHeight height).length else 0).sum =
      (heights.map fun height =>
        if (mgr.cellsOfHeight height).length ≠ 0 then
          (f height : ℚ) / (mgr.cellsOfHeight height).length else 0).sum -
      (heights.map fun height =>
        if (mgr.cellsOfHeight height).length ≠ 0 then
          (g height : ℚ) / (mgr.cellsOfHeight height).length else 0).sum := by
    intro heights
    induction heights with
    | nil => simp
    | cons height heights ih =>
      rw [map_cons, map_cons, map_cons, sum_cons, sum_cons,
        sum_cons, ih]
      split
      · push_cast
        ring
      · ring
  simp only [weigh]
  rw [terms]
  ring

lemma weigh_congr {f g : Nat → Int} (same : ∀ height, 1 ≤ height → f height = g height) :
    mgr.weigh f = mgr.weigh g := by
  have terms : (range mgr.multiHeightCells.length).map (fun height =>
        if (mgr.cellsOfHeight height).length ≠ 0 then
          (f height : ℚ) / (mgr.cellsOfHeight height).length else 0) =
      (range mgr.multiHeightCells.length).map (fun height =>
        if (mgr.cellsOfHeight height).length ≠ 0 then
          (g height : ℚ) / (mgr.cellsOfHeight height).length else 0) := by
    apply map_congr_left
    intro height _
    rcases Nat.eq_zero_or_pos height with rfl | positive
    · rfl
    · rw [same height positive]
  simp only [weigh]
  rw [terms]

structure Keeps (node node' : Node) : Prop where
  height : node'.height = node.height
  movable : node'.isTerminal = node.isTerminal ∧ node'.fixed = node.fixed
  origin : node'.orig_left = node.orig_left ∧ node'.orig_bottom = node.orig_bottom

lemma Keeps.refl (node : Node) : Keeps node node := ⟨rfl, ⟨rfl, rfl⟩, ⟨rfl, rfl⟩⟩

lemma keeps_adjust {node : Node} {o : OrientType} (flat : node.orient.rotated = false)
    (flatSite : o.rotated = false) (x y : Int) : Keeps node ((node.adjustCurrOrient o).at x y) := by
  rw [adjustCurrOrient_eq, flat, flatSite]
  exact ⟨rfl, ⟨rfl, rfl⟩, ⟨rfl, rfl⟩⟩

lemma Keeps.displacement {node node' : Node} (keeps : Keeps node node') :
    displacement (node'.at node.left node.bottom) = displacement node := by
  rw [Dpl.displacement, Dpl.displacement]
  simp only [Node.at, keeps.origin.1, keeps.origin.2]

lemma Classes.keeps {numNodes : Nat} {base nodes : Nat → Node} (classes : Classes mgr numNodes base)
    (keeps : ∀ n, Keeps (base n) (nodes n)) : Classes mgr numNodes nodes where
  mem := by
    intro height atLeast n
    rw [classes.mem height atLeast, Movable, Movable, getCellHeightInRows,
      getCellHeightInRows, (keeps n).height, (keeps n).movable.1, (keeps n).movable.2]
  nodup := classes.nodup

def Grid.Upright (grid : Grid) : Prop := ∀ o, grid.Gives o → o.rotated = false

/-- Upright movable cells are asked for; heights in rows are the same cut off and rounded. -/
def CountsAlike (mgr : DetailedMgr) (numNodes : Nat) (nodes : Nat → Node) (attempt : Attempt) :
    Prop :=
  ∀ request ∈ attempt.requests, (request.getNode < numNodes ∧ Movable nodes request.getNode = true ∧
      (nodes request.getNode).orient.rotated = false) ∧
    (attempt.verdict = .accepted → (nodes request.getNode).height.tdiv mgr.rowHeight =
      mgr.getCellHeightInRows (nodes request.getNode))

section

variable {mgr : DetailedMgr} {numNodes : Nat} {base nodes : Nat → Node} {journal : Journal}

lemma Rearranged.keeps {grid : Grid} {cells : List Nat} (upright : grid.Upright)
    (flat : ∀ n ∈ cells, (base n).orient.rotated = false)
    (rearranged : Rearranged grid cells base nodes) (n : Nat) : Keeps (base n) (nodes n) := by
  rcases rearranged n with unmoved | ⟨inside, x, y, o, gives, there⟩
  · rw [unmoved]
    exact Keeps.refl _
  · rw [there]
    exact keeps_adjust (flat n inside) (upright o gives) x y

variable {s s' : PlacementState}

lemma delta_eq {change : ℚ} (composed : Composed mgr.grid base s.nodes journal)
    (keeps : ∀ n, Keeps (base n) (s.nodes n)) (done : delta mgr journal s = .ok (change, s')) :
    s'.nodes = s.nodes ∧ change = mgr.weigh fun height : Nat =>
      ((journal.affected_nodes.filter fun n =>
          (base n).height.tdiv mgr.rowHeight = height).map fun n => displacement (base n)).sum -
      ((journal.affected_nodes.filter fun n =>
          mgr.getCellHeightInRows (base n) = height).map fun n => displacement (s.nodes n)).sum := by
  rw [delta] at done
  rcases except_bind_ok done with ⟨old, undone, rest⟩
  rcases except_bind_ok rest with ⟨new, redone, last⟩
  cases last
  rcases undo_positions composed.moves s.nodes (fun n => (at_self _).symm) with
    ⟨back, isBack, oldNodes⟩
  rw [Journal.undo, isBack] at undone
  cases undone
  rcases redo_positions composed.moves s.nodes oldNodes with ⟨again, isAgain, newNodes⟩
  rw [Journal.redo, isAgain] at redone
  cases redone
  have sameNodes : s'.nodes = s.nodes := funext newNodes
  refine ⟨sameNodes, ?_⟩
  have heights : ∀ n, (old.nodes n).height = (base n).height := by
    intro n
    rw [oldNodes n]
    exact (keeps n).height
  have oldPlaces : ∀ n, displacement (old.nodes n) = displacement (base n) := by
    intro n
    rw [oldNodes n]
    exact (keeps n).displacement
  have rows : ∀ n, mgr.getCellHeightInRows (s.nodes n) = mgr.getCellHeightInRows (base n) := by
    intro n
    rw [getCellHeightInRows, getCellHeightInRows, (keeps n).height]
  simp only [heights, oldPlaces, sameNodes, rows]

lemma accept_exact {change : ℚ} (classes : Classes mgr numNodes base)
    (composed : Composed mgr.grid base s.nodes journal) (keeps : ∀ n, Keeps (base n) (s.nodes n))
    (listed : ∀ n ∈ journal.affected_nodes, n < numNodes ∧ Movable base n = true)
    (alike : ∀ n ∈ journal.affected_nodes,
      (base n).height.tdiv mgr.rowHeight = mgr.getCellHeightInRows (base n))
    (done : delta mgr journal s = .ok (change, s')) :
    curr mgr base - change = curr mgr s'.nodes := by
  rcases delta_eq composed keeps done with ⟨sameNodes, isChange⟩
  rw [sameNodes, isChange, curr, curr, weigh_sub]
  apply weigh_congr
  intro height atLeast
  have sameClass : (journal.affected_nodes.filter fun n =>
        (base n).height.tdiv mgr.rowHeight = (height : Int)) =
      journal.affected_nodes.filter fun n => mgr.getCellHeightInRows (base n) = (height : Int) := by
    apply filter_congr
    intro n member
    rw [alike n member]
  rw [sameClass]
  apply sum_changes (classes.nodup height) (composed.nodup.filter _)
  · intro n member
    rw [mem_filter, decide_eq_true_eq] at member
    exact (classes.mem height atLeast n).mpr
      ⟨(listed n member.1).1, (listed n member.1).2, member.2⟩
  · intro n inClass unlisted
    rw [composed.rearranged.outside]
    intro affected
    apply unlisted
    rw [mem_filter, decide_eq_true_eq]
    exact ⟨affected, ((classes.mem height atLeast n).mp inClass).2.2⟩

structure DisplacementExact (mgr : DetailedMgr) (numNodes : Nat) (r : DisplacementRun) : Prop where
  classes : Classes mgr numNodes r.state.nodes
  value : r.value = DetailedDisplacement.curr mgr r.state.nodes

lemma DisplacementExact.reject {r : DisplacementRun} {journal' : Journal}
    (exact : DisplacementExact mgr numNodes r) (upright : mgr.grid.Upright)
    (composed : Composed mgr.grid r.state.nodes s.nodes journal)
    (flat : ∀ n ∈ journal.affected_nodes, (r.state.nodes n).orient.rotated = false)
    (done : rejectMove mgr journal s = .ok (s', journal')) :
    DisplacementExact mgr numNodes ⟨s', r.value⟩ := by
  have back : ∀ n, Keeps (r.state.nodes n) (s'.nodes n) ∧
      displacement (s'.nodes n) = displacement (r.state.nodes n) := by
    intro n
    rcases rejectMove_rearranged composed done n with unmoved | ⟨affected, o, gives, there⟩
    · rw [unmoved]
      exact ⟨Keeps.refl _, rfl⟩
    · have keeps := keeps_adjust (flat n affected) (upright o gives) (r.state.nodes n).left
        (r.state.nodes n).bottom
      rw [← adjustCurrOrient_at, at_self, ← there] at keeps
      have place : (s'.nodes n).at (r.state.nodes n).left (r.state.nodes n).bottom =
          s'.nodes n := by
        rw [there, ← adjustCurrOrient_at, at_self]
      have same := keeps.displacement
      rw [place] at same
      exact ⟨keeps, same⟩
  refine ⟨exact.classes.keeps fun n => (back n).1, ?_⟩
  dsimp only
  rw [exact.value, curr, curr]
  simp only [fun n => (back n).2]

lemma displacementStep_exact {r r' : DisplacementRun} {attempt : Attempt}
    (exact : DisplacementExact mgr numNodes r) (upright : mgr.grid.Upright)
    (alike : CountsAlike mgr numNodes r.state.nodes attempt)
    (done : displacementStep mgr r attempt = some r') : DisplacementExact mgr numNodes r' := by
  rw [displacementStep] at done
  rcases Option.bind_eq_some_iff.mp done with ⟨⟨s, journal⟩, composes, rest⟩
  rcases composeMoves_composed composes with ⟨composed, affected⟩
  have requested : ∀ n ∈ journal.affected_nodes, (n < numNodes ∧
      Movable r.state.nodes n = true ∧ (r.state.nodes n).orient.rotated = false) ∧
      (attempt.verdict = .accepted → (r.state.nodes n).height.tdiv mgr.rowHeight =
        mgr.getCellHeightInRows (r.state.nodes n)) := by
    intro n member
    rcases (affected n).mp member with ⟨request, isRequest, rfl⟩
    exact alike request isRequest
  have flat : ∀ n ∈ journal.affected_nodes, (r.state.nodes n).orient.rotated = false :=
    fun n member => (requested n member).1.2.2
  have keeps := composed.rearranged.keeps upright flat
  cases verdict : attempt.verdict with
  | accepted =>
    simp only [verdict] at rest
    rcases Option.bind_eq_some_iff.mp rest with ⟨⟨change, s'⟩, evaluated, last⟩
    cases last
    have isDelta := except_toOption_ok evaluated
    refine ⟨?_, ?_⟩
    · rw [(delta_eq composed keeps isDelta).1]
      exact exact.classes.keeps keeps
    · dsimp only
      rw [exact.value]
      exact accept_exact exact.classes composed keeps
        (fun n member => ⟨(requested n member).1.1, (requested n member).1.2.1⟩)
        (fun n member => (requested n member).2 verdict) isDelta
  | rejected =>
    simp only [verdict] at rest
    rcases Option.bind_eq_some_iff.mp rest with ⟨⟨change, s₁⟩, evaluated, rest⟩
    rcases Option.bind_eq_some_iff.mp rest with ⟨⟨s', journal'⟩, rejected, last⟩
    cases last
    rw [← (delta_eq composed keeps (except_toOption_ok evaluated)).1] at composed
    exact exact.reject upright composed flat (except_toOption_ok rejected)
  | withdrawn =>
    simp only [verdict] at rest
    rcases Option.bind_eq_some_iff.mp rest with ⟨⟨s', journal'⟩, rejected, last⟩
    cases last
    exact exact.reject upright composed flat (except_toOption_ok rejected)

end

lemma stepOn_keeps {σ : Type} {step : σ → Attempt → Option σ} {good : σ → Prop}
    {allowed : σ → Attempt → Prop}
    (keeps : ∀ r attempt r', good r → allowed r attempt → step r attempt = some r' → good r')
    (r : Option σ) (attempt : Attempt) (holds : ∀ r' ∈ r, good r')
    (allows : ∀ r' ∈ r, allowed r' attempt) : ∀ r' ∈ stepOn step r attempt, good r' := by
  intro r' member
  rcases Option.bind_eq_some_iff.mp member with ⟨before, isBefore, done⟩
  exact keeps before attempt r' (holds before isBefore) (allows before isBefore) done

lemma stepOn_throughout {σ : Type} {step : σ → Attempt → Option σ} {good : σ → Prop}
    {allowed : σ → Attempt → Prop}
    (keeps : ∀ r attempt r', good r → allowed r attempt → step r attempt = some r' → good r')
    {start : σ} {attempts : List Attempt} (first : good start)
    (each : EachCall (stepOn step) (fun r attempt => ∀ r' ∈ r, allowed r' attempt) (some start)
      attempts) :
    Throughout (stepOn step) (fun r => ∀ r' ∈ r, good r') (some start) attempts := by
  have fromStart : ∀ r ∈ some start, good r := by
    intro r isStart
    cases isStart
    exact first
  exact throughout_of_each (stepOn_keeps keeps) fromStart each

/-- Both values are those of the placement throughout a run whose attempts fit them. -/
theorem objectives_follow_moves {mgr : DetailedMgr} {network : Network} {s : PlacementState}
    (attempts : List Attempt) (fits : NetworkFits network s.nodes)
    (single : mgr.singleHeightCells =
      collectSingleHeightCells mgr.rowHeight network.numNodes s.nodes)
    (multi : mgr.multiHeightCells =
      collectMultiHeightCells mgr.rowHeight network.numNodes s.nodes) :
    (EachCall (stepOn (hpwlStep mgr network))
        (fun r attempt => ∀ r' ∈ r, RejectsOriented mgr r'.state.nodes attempt)
        (some (startHpwl network s)) attempts →
      Throughout (stepOn (hpwlStep mgr network))
        (fun r => ∀ r' ∈ r, r'.value = (r'.objective.curr network r'.state.nodes).1)
        (some (startHpwl network s)) attempts) ∧
    (mgr.grid.Upright → EachCall (stepOn (displacementStep mgr))
        (fun r attempt => ∀ r' ∈ r, CountsAlike mgr network.numNodes r'.state.nodes attempt)
        (some (startDisplacement mgr s)) attempts →
      Throughout (stepOn (displacementStep mgr))
        (fun r => ∀ r' ∈ r, r'.value = DetailedDisplacement.curr mgr r'.state.nodes)
        (some (startDisplacement mgr s)) attempts) := by
  constructor
  · intro each
    have all := stepOn_throughout (fun _ _ _ => hpwlStep_exact) (startHpwl_exact fits) each
    exact throughout_mono (fun r exact r' isSome => (exact r' isSome).value) all
  · intro upright each
    have start : DisplacementExact mgr network.numNodes (startDisplacement mgr s) :=
      ⟨classes_of_collected single multi, rfl⟩
    have all := stepOn_throughout
      (fun _ _ _ exact alike => displacementStep_exact exact upright alike) start each
    exact throughout_mono (fun r exact r' isSome => (exact r' isSome).value) all

instance (mgr : DetailedMgr) (nodes : Nat → Node) (attempt : Attempt) :
    Decidable (RejectsOriented mgr nodes attempt) :=
  inferInstanceAs (Decidable (_ → ∀ request ∈ attempt.requests,
    mgr.grid.row_sites (mgr.grid.gridRoundY (nodes request.getNode).bottom)
      (mgr.grid.gridX (nodes request.getNode).left) (nodes request.getNode).site =
      some (nodes request.getNode).orient))

instance (mgr : DetailedMgr) (numNodes : Nat) (nodes : Nat → Node) (attempt : Attempt) :
    Decidable (CountsAlike mgr numNodes nodes attempt) :=
  inferInstanceAs (Decidable (∀ request ∈ attempt.requests, (_ ∧ _ ∧ _) ∧ (_ → _)))

def sampleGrid : Grid where
  site_width := 1
  row_index_to_y_dbu := [0, 10]
  core_yMax := 20
  row_site_count := 100
  row_count := 2
  row_sites := fun y _ _ => if y = 0 then some .R0 else some .MX

def sampleMgr (single : List Nat) (multi : List (List Nat)) : DetailedMgr :=
  ⟨sampleGrid, 10, 10, 1000, 1000, single, multi⟩

/-- Cells in the segments of both rows, where the grid is not painted. -/
def sampleState (cells : List Node) (segs : List (List Nat)) : PlacementState where
  nodes := fun n => cells.getD n ⟨0, 0, 0, 0, false, 0, 0, .R0, 0, 0, true, true, false, 0, []⟩
  pixels := fun _ _ => ⟨none, 0, none⟩
  cellsInSeg := fun seg => segs.getD seg.toNat []
  segUtil := fun _ => 0
  reverseCellToSegs := fun n =>
    ((List.range 2).filter fun seg => n ∈ segs.getD seg []).map Int.ofNat

def sampleCell (left : Int) (orient : OrientType) (offset : Int) : Node :=
  { left, bottom := 0, width := 4, height := 10, orient, pins := [⟨0, offset, 0⟩] }

def sampleNetwork : Network := ⟨2, [[(0, 0), (1, 0)]]⟩

def pairOf (orient : OrientType) : PlacementState :=
  sampleState [sampleCell 0 orient 1, sampleCell 20 .R0 0] [[0, 1], []]

lemma pairOf_fits (orient : OrientType) : NetworkFits sampleNetwork (pairOf orient).nodes := by
  intro edge pin member
  rcases edge with _ | edge
  · rcases mem_cons.mp member with rfl | second
    · exact mem_singleton_self 0
    · rw [mem_singleton.mp second]
      exact mem_singleton_self 0
  · simp [Network.getEdge, sampleNetwork] at member

lemma sampleGrid_upright : sampleGrid.Upright := by
  rintro o ⟨y, x, site, isSite⟩
  simp only [sampleGrid] at isSite
  split at isSite
  · cases isSite
    rfl
  · cases isSite
    rfl

def moveTwice : List Attempt :=
  [⟨[.single 0 0 10 0 0], .accepted⟩, ⟨[.single 0 0 30 10 1], .rejected⟩]

theorem objectives_follow_moves_sample :
    Throughout (stepOn (hpwlStep (sampleMgr [0, 1] [[], []]) sampleNetwork))
      (fun r => ∀ r' ∈ r, r'.value = (r'.objective.curr sampleNetwork r'.state.nodes).1)
      (some (startHpwl sampleNetwork (pairOf .R0))) moveTwice ∧
    Throughout (stepOn (displacementStep (sampleMgr [0, 1] [[], []]))) (fun r => ∀ r' ∈ r,
        r'.value = DetailedDisplacement.curr (sampleMgr [0, 1] [[], []]) r'.state.nodes)
      (some (startDisplacement (sampleMgr [0, 1] [[], []]) (pairOf .R0))) moveTwice := by
  have single : (sampleMgr [0, 1] [[], []]).singleHeightCells =
      collectSingleHeightCells 10 2 (pairOf .R0).nodes := by decide
  have multi : (sampleMgr [0, 1] [[], []]).multiHeightCells =
      collectMultiHeightCells 10 2 (pairOf .R0).nodes := by decide
  have both := objectives_follow_moves moveTwice (pairOf_fits .R0) single multi
  constructor
  · apply both.1
    rw [moveTwice, eachCall_cons, eachCall_cons]
    exact ⟨by decide, by decide, eachCall_nil⟩
  · apply both.2 sampleGrid_upright
    rw [moveTwice, eachCall_cons, eachCall_cons]
    exact ⟨by decide, by decide, eachCall_nil⟩

/-- A mirrored cell comes back unmirrored, and a height of one and a half rows is counted twice. -/
theorem reject_and_rounding_mislead_objectives : NetworkFits sampleNetwork (pairOf .MY).nodes ∧
    ((run (stepOn (hpwlStep (sampleMgr [0, 1] [[], []]) sampleNetwork))
        (some (startHpwl sampleNetwork (pairOf .MY)))
        [⟨[.single 0 0 30 10 1], .rejected⟩]).map fun r =>
      (r.value, (r.objective.curr sampleNetwork r.state.nodes).1)) = some (19, 21) ∧
    ((run (stepOn (displacementStep (sampleMgr [] [[], [], [0]])))
        (some (startDisplacement (sampleMgr [] [[], [], [0]])
          (sampleState [{ left := 5, bottom := 0, width := 4, height := 16 }] [[0], [0]])))
        [⟨[.several 0 [0, 1] 7 0 [0, 1]], .accepted⟩]).map fun r =>
      (r.value, DetailedDisplacement.curr (sampleMgr [] [[], [], [0]]) r.state.nodes)) =
        some (6 / 5, 7 / 10) := by
  refine ⟨pairOf_fits .MY, ?_, ?_⟩
  · decide
  · with_unfolding_all decide

/-- A rejected move leaves all cells as they were exactly if its cells had the orientations of their
sites. -/
theorem rejected_move_restores_iff {mgr : DetailedMgr} {s s₁ s' : PlacementState}
    {requests : List Request} {journal journal' : Journal}
    (composed : composeMoves mgr requests s = some (s₁, journal))
    (rejected : rejectMove mgr journal s₁ = .ok (s', journal')) :
    s'.nodes = s.nodes ↔
      ∀ request ∈ requests, SiteOriented mgr.grid s.nodes request.getNode := by
  rcases composeMoves_composed composed with ⟨known, affected⟩
  constructor
  · intro same request member
    have restored := rejectMove_restored known rejected request.getNode
    rcases restored.2 ((affected _).mpr ⟨request, member, rfl⟩) with ⟨o, atSite, back⟩
    have orient : (s.nodes request.getNode).orient = o := by
      rw [← same, back, adjustCurrOrient_eq]
    rw [SiteOriented, atSite, orient]
  · intro oriented
    refine rejectMove_nodes known (fun n member => ?_) rejected
    rcases (affected n).mp member with ⟨request, isRequest, rfl⟩
    exact oriented request isRequest

theorem rejected_move_restores_sample : ∃ s₁ journal s' journal',
    composeMoves (sampleMgr [] []) [.single 0 0 30 10 1] (pairOf .R0) = some (s₁, journal) ∧
      rejectMove (sampleMgr [] []) journal s₁ = .ok (s', journal') ∧
      s'.nodes = (pairOf .R0).nodes := by
  have moved : ((composeMoves (sampleMgr [] []) [.single 0 0 30 10 1] (pairOf .R0)).any
      fun r => (rejectMove (sampleMgr [] []) r.2 r.1).toBool) = true := by decide
  rcases (Option.any_eq_true _ _).mp moved with ⟨⟨s₁, journal⟩, composed, ok⟩
  rcases rejected : rejectMove (sampleMgr [] []) journal s₁ with msg | ⟨s', journal'⟩
  · rw [rejected] at ok
    cases ok
  · refine ⟨s₁, journal, s', journal', composed, rejected, ?_⟩
    exact (rejected_move_restores_iff composed rejected).mpr (by simp [SiteOriented]; decide)

end OpenRoad.Dpl
