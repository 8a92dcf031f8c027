import OpenRoad.Dpl.PushAligned

/-! Room made for a cell in a segment. -/

namespace OpenRoad.Dpl

open List

/-- Cells of one row on the sites of a segment, in order and without overlap. -/
structure SegmentPlaced (mgr : RowMgr) (row : Row) (sj : Nat) (s : PlacementState) : Prop where
  upright : mgr.grid.Upright
  isRow : mgr.arch.getRow (mgr.segments sj).rowId = .ok row
  sites : 0 < row.siteSpacing
  nodup : (s.cellsInSeg sj).Nodup
  segs : ∀ c ∈ s.cellsInSeg sj, s.reverseCellToSegs c = [(sj : Int)]
  single : ∀ c ∈ s.cellsInSeg sj, mgr.getCellHeightInRows (s.nodes c) = 1 ∧
    mgr.arch.getCellHeightInRows (s.nodes c) = 1
  flat : ∀ c ∈ s.cellsInSeg sj, (s.nodes c).orient.rotated = false
  wide : ∀ c ∈ s.cellsInSeg sj, 0 ≤ (s.nodes c).width
  aligned : ∀ c ∈ s.cellsInSeg sj, ∃ k, (s.nodes c).left = row.site k
  ordered : (s.cellsInSeg sj).Pairwise fun a b => (s.nodes a).getRight ≤ (s.nodes b).left

/-- The cells from the given one on, and the places to the right they should move to. -/
def RowMgr.rightPushes (mgr : RowMgr) (row : Row) (ndi : Nat) (xj : Int) (sj ndr : Nat)
    (s : PlacementState) : List (Nat × Int) :=
  pushes s.nodes (stepRight mgr.arch row.alignUp) (s.nodes ndi) xj
    ((s.cellsInSeg sj).drop ((s.cellsInSeg sj).idxOf ndr))

/-- The cells back from the given one, and the places to the left they should move to. -/
def RowMgr.leftPushes (mgr : RowMgr) (row : Row) (ndi : Nat) (xj : Int) (sj ndl : Nat)
    (s : PlacementState) : List (Nat × Int) :=
  pushes s.nodes (stepLeft mgr.arch row.alignDown) (s.nodes ndi) xj
    ((s.cellsInSeg sj).take ((s.cellsInSeg sj).idxOf ndl + 1)).reverse

def RowMgr.ShiftsRight (mgr : RowMgr) (row : Row) (ndi : Nat) (xj : Int) (sj ndr : Nat)
    (s : PlacementState) (journal : Journal) : Prop :=
  PushesExactly (PushFits mgr (insideRight mgr sj) s.nodes) s journal
    (mgr.rightPushes row ndi xj sj ndr s) (mgr.shiftRightHelper ndi xj sj ndr s journal)

def RowMgr.ShiftsLeft (mgr : RowMgr) (row : Row) (ndi : Nat) (xj : Int) (sj ndl : Nat)
    (s : PlacementState) (journal : Journal) : Prop :=
  PushesExactly (PushFits mgr (insideLeft mgr sj) s.nodes) s journal
    (mgr.leftPushes row ndi xj sj ndl s) (mgr.shiftLeftHelper ndi xj sj ndl s journal)

/-- The sites to the right are found, and no cell is pushed past the centre of the next one. -/
def RowMgr.CleanRight (mgr : RowMgr) (row : Row) (ndi : Nat) (xj : Int) (sj ndr : Nat)
    (s : PlacementState) (journal : Journal) : Prop :=
  Clean s.nodes (stepRight mgr.arch row.alignUp) (stepRight mgr.arch (snapRight row))
    (PushFits mgr (insideRight mgr sj) s.nodes) (keepsRight s.nodes) journal.actions.length
    (s.nodes ndi) xj ((s.cellsInSeg sj).drop ((s.cellsInSeg sj).idxOf ndr))

def RowMgr.CleanLeft (mgr : RowMgr) (row : Row) (ndi : Nat) (xj : Int) (sj ndl : Nat)
    (s : PlacementState) (journal : Journal) : Prop :=
  Clean s.nodes (stepLeft mgr.arch row.alignDown) (stepLeft mgr.arch (snapLeft row))
    (PushFits mgr (insideLeft mgr sj) s.nodes) (keepsLeft s.nodes) journal.actions.length
    (s.nodes ndi) xj ((s.cellsInSeg sj).take ((s.cellsInSeg sj).idxOf ndl + 1)).reverse

section

variable {mgr : RowMgr} {row : Row} {sj : Nat} {s : PlacementState}

section

variable (placed : SegmentPlaced mgr row sj s)
include placed

lemma SegmentPlaced.centres :
    (s.cellsInSeg sj).Pairwise fun a b => (s.nodes a).getCenterX ≤ (s.nodes b).getCenterX := by
  apply List.Pairwise.imp_of_mem _ placed.ordered
  intro a b isFirst isSecond apart
  have wide := placed.wide a isFirst
  have wide' := placed.wide b isSecond
  rw [Node.getRight] at apart
  rw [Node.getCenterX, Node.getCenterX, Int.tdiv_eq_ediv_of_nonneg wide,
    Int.tdiv_eq_ediv_of_nonneg wide']
  omega

lemma SegmentPlaced.pushing {rest : List Nat} (inside : ∀ c ∈ rest, c ∈ s.cellsInSeg sj) :
    Pushing mgr sj s.nodes (s.cellsInSeg sj) rest s :=
  ⟨rfl, placed.nodup, placed.segs, fun _ _ => rfl, fun c member => placed.single c (inside c member),
    fun c member => placed.flat c (inside c member)⟩

omit placed in
lemma split_at_idxOf {cells : List Nat} {c : Nat} (inside : c ∈ cells) :
    cells = cells.take (cells.idxOf c) ++ c :: cells.drop (cells.idxOf c + 1) := by
  have bound := idxOf_lt_length_of_mem inside
  calc cells = cells.take (cells.idxOf c) ++ cells.drop (cells.idxOf c) :=
        (take_append_drop _ _).symm
    _ = _ := by rw [drop_eq_getElem_cons bound, getElem_idxOf]

lemma shiftRight_exact {ndi ndr : Nat} {xj : Int} {journal : Journal}
    (inside : ndr ∈ s.cellsInSeg sj) (clean : mgr.CleanRight row ndi xj sj ndr s journal) :
    mgr.ShiftsRight row ndi xj sj ndr s journal := by
  have bound := idxOf_lt_length_of_mem inside
  have split := split_at_idxOf inside
  have tail : (s.cellsInSeg sj).drop ((s.cellsInSeg sj).idxOf ndr) =
      ndr :: (s.cellsInSeg sj).drop ((s.cellsInSeg sj).idxOf ndr + 1) := by
    rw [drop_eq_getElem_cons bound, getElem_idxOf]
  have sorted := placed.centres
  rw [RowMgr.CleanRight, tail] at clean
  rw [RowMgr.ShiftsRight, RowMgr.rightPushes, tail, RowMgr.shiftRightHelper]
  dsimp only
  rw [if_neg (not_not.mpr inside), placed.isRow]
  rw [split, pairwise_append] at sorted
  have pushing := @SegmentPlaced.pushing mgr row sj s placed
    (ndr :: (s.cellsInSeg sj).drop ((s.cellsInSeg sj).idxOf ndr + 1)) (by
      intro c member
      rw [← tail] at member
      exact mem_of_mem_drop member)
  have index : ((s.cellsInSeg sj).take ((s.cellsInSeg sj).idxOf ndr)).length =
      (s.cellsInSeg sj).idxOf ndr := by
    rw [length_take]
    omega
  have count : ((s.cellsInSeg sj).drop ((s.cellsInSeg sj).idxOf ndr + 1)).length =
      (s.cellsInSeg sj).length - 1 - (s.cellsInSeg sj).idxOf ndr := by
    rw [length_drop]
    omega
  have exact := @pushRight_exact mgr row sj s.nodes placed.upright placed.sites
    ((s.cellsInSeg sj).drop ((s.cellsInSeg sj).idxOf ndr + 1)) ndr
    ((s.cellsInSeg sj).take ((s.cellsInSeg sj).idxOf ndr)) (s.nodes ndi) xj ndi s journal
    (by rw [← split]; exact pushing) sorted.2.1
    (fun d member => sorted.2.2 d member ndr mem_cons_self) (SameExtent.refl _) clean
  rw [index, count] at exact
  exact exact

lemma shiftLeft_exact {ndi ndl : Nat} {xj : Int} {journal : Journal}
    (inside : ndl ∈ s.cellsInSeg sj) (clean : mgr.CleanLeft row ndi xj sj ndl s journal) :
    mgr.ShiftsLeft row ndi xj sj ndl s journal := by
  have bound := idxOf_lt_length_of_mem inside
  have split := split_at_idxOf inside
  have back : ((s.cellsInSeg sj).take ((s.cellsInSeg sj).idxOf ndl + 1)).reverse =
      ndl :: ((s.cellsInSeg sj).take ((s.cellsInSeg sj).idxOf ndl)).reverse := by
    rw [take_succ_eq_append_getElem bound, reverse_append, getElem_idxOf]
    rfl
  have sorted := placed.centres
  rw [RowMgr.CleanLeft, back] at clean
  rw [RowMgr.ShiftsLeft, RowMgr.leftPushes, back, RowMgr.shiftLeftHelper]
  rw [if_neg (not_not.mpr inside), placed.isRow]
  rw [split, pairwise_append] at sorted
  have pushing := @SegmentPlaced.pushing mgr row sj s placed
    (ndl :: ((s.cellsInSeg sj).take ((s.cellsInSeg sj).idxOf ndl)).reverse) (by
      intro c member
      rw [← back, mem_reverse] at member
      exact mem_of_mem_take member)
  have index : ((s.cellsInSeg sj).take ((s.cellsInSeg sj).idxOf ndl)).reverse.length =
      (s.cellsInSeg sj).idxOf ndl := by
    rw [length_reverse, length_take]
    omega
  have backwards : (ndl :: ((s.cellsInSeg sj).take ((s.cellsInSeg sj).idxOf ndl)).reverse).Pairwise
      fun a b => (s.nodes b).getCenterX ≤ (s.nodes a).getCenterX := by
    rw [pairwise_cons, pairwise_reverse]
    refine ⟨?_, sorted.1⟩
    intro d member
    exact sorted.2.2 d (mem_reverse.mp member) ndl mem_cons_self
  have exact := @pushLeft_exact mgr row sj s.nodes placed.upright placed.sites
    ((s.cellsInSeg sj).take ((s.cellsInSeg sj).idxOf ndl)).reverse ndl
    ((s.cellsInSeg sj).drop ((s.cellsInSeg sj).idxOf ndl + 1)) (s.nodes ndi) xj ndi s journal
    (by rw [reverse_reverse, ← split]; exact pushing) backwards
    (pairwise_cons.mp sorted.2.1).1 (SameExtent.refl _) clean
  rw [index] at exact
  exact exact

end

/-- Where the sites are found and the list keeps its order, the helpers push the neighbours exactly
as they should. -/
theorem neighbours_pushed_exactly (placed : SegmentPlaced mgr row sj s) (ndi : Nat) (xj : Int)
    (journal : Journal) {c : Nat} (inside : c ∈ s.cellsInSeg sj) :
    (mgr.CleanRight row ndi xj sj c s journal → mgr.ShiftsRight row ndi xj sj c s journal) ∧
      (mgr.CleanLeft row ndi xj sj c s journal → mgr.ShiftsLeft row ndi xj sj c s journal) :=
  ⟨shiftRight_exact placed inside, shiftLeft_exact placed inside⟩

end

def oneRowMgr (siteSpacing : Int) : RowMgr where
  grid := sampleGrid
  rowHeight := 10
  moveLimit := 10
  maxDispX := 100
  maxDispY := 100
  singleHeightCells := []
  multiHeightCells := []
  arch := ⟨[⟨0, 0, 10, siteSpacing, 10⟩], [], 0, 20, 0, 10, false, 1⟩
  segsInRow := [[⟨0, 0, -1, 0, 20⟩]]
  segments := fun seg => ⟨seg, 0, -1, 0, 20⟩
  groupId := fun _ => -1
  rowPower := fun _ => ⟨.UNK, .UNK⟩
  nodePower := fun _ => ⟨.UNK, .UNK⟩

/-- A cell that is in no segment yet, and the cells of the row. -/
def rowState (width : Int) (cells : List (Int × Int)) : PlacementState :=
  sampleState (⟨0, 0, width, 10, false, 0, 0, .R0, 0, 0, false, true, false, 0, []⟩ ::
    cells.map fun cell => ⟨cell.1, 0, cell.2, 10, false, 0, 0, .R0, 0, 0, false, true, false, 0, []⟩)
    [(List.range cells.length).map Nat.succ]

lemma rowState_placed {siteSpacing width : Int} {cells : List (Int × Int)}
    (sites : 0 < siteSpacing)
    (segs : ∀ c ∈ (rowState width cells).cellsInSeg 0,
      (rowState width cells).reverseCellToSegs c = [0])
    (single : ∀ c ∈ (rowState width cells).cellsInSeg 0,
      ((rowState width cells).nodes c).height = 10)
    (flat : ∀ c ∈ (rowState width cells).cellsInSeg 0,
      ((rowState width cells).nodes c).orient.rotated = false)
    (wide : ∀ c ∈ (rowState width cells).cellsInSeg 0, 0 ≤ ((rowState width cells).nodes c).width)
    (aligned : ∀ c ∈ (rowState width cells).cellsInSeg 0,
      siteSpacing ∣ ((rowState width cells).nodes c).left)
    (ordered : ((rowState width cells).cellsInSeg 0).Pairwise fun a b =>
      ((rowState width cells).nodes a).getRight ≤ ((rowState width cells).nodes b).left) :
    SegmentPlaced (oneRowMgr siteSpacing) ⟨0, 0, 10, siteSpacing, 10⟩ 0 (rowState width cells) := by
  refine ⟨sampleGrid_upright, rfl, sites, ?_, segs, ?_, flat, wide, ?_, ordered⟩
  · exact (nodup_map_iff Nat.succ_injective).mpr nodup_range
  · intro c member
    rw [DetailedMgr.getCellHeightInRows, Architecture.getCellHeightInRows, single c member]
    exact ⟨rfl, rfl⟩
  · intro c member
    rcases aligned c member with ⟨k, isLeft⟩
    refine ⟨k, ?_⟩
    rw [isLeft, Row.site, zero_add, mul_comm]

def pushedTo (result : Except MoveError (Bool × PlacementState × Journal)) (c : Nat) : Option Int :=
  match result with
  | .ok (true, s, _) => some (s.nodes c).left
  | _ => none

lemma pushedTo_of_exactly {fits : Nat → Nat × Int → Prop} {s : PlacementState}
    {journal : Journal} {moved : List (Nat × Int)}
    {result : Except MoveError (Bool × PlacementState × Journal)} {c : Nat} {x : Int}
    (exactly : PushesExactly fits s journal moved result) (isPlace : pushedTo result c = some x) :
    x = placeOf s.nodes moved c := by
  rcases exactly with ⟨succeeded, s', journal', isResult, _, places⟩
  rw [isResult] at isPlace
  cases succeeded with
  | false => cases isPlace
  | true => exact (Option.some.inj isPlace).symm.trans (places rfl c).1

/-- A cell next to the target goes four sites too far, and of two narrow cells the second stays. -/
theorem neighbour_pushed_too_far :
    SegmentPlaced (oneRowMgr 2) ⟨0, 0, 10, 2, 10⟩ 0 (rowState 2 [(2, 2)]) ∧
      ¬ (oneRowMgr 2).ShiftsRight ⟨0, 0, 10, 2, 10⟩ 0 2 0 1 (rowState 2 [(2, 2)]) Journal.empty ∧
      SegmentPlaced (oneRowMgr 1) ⟨0, 0, 10, 1, 10⟩ 0 (rowState 10 [(0, 1), (1, 1)]) ∧
      ¬ (oneRowMgr 1).ShiftsRight ⟨0, 0, 10, 1, 10⟩ 0 0 0 1 (rowState 10 [(0, 1), (1, 1)])
        Journal.empty := by
  refine ⟨?_, ?_, ?_, ?_⟩
  · exact rowState_placed (by decide) (by decide) (by decide) (by decide) (by decide) (by decide)
      (by decide)
  · intro shifts
    have beyond := @pushedTo_of_exactly _ _ _ _ _ 1 8 shifts (by decide +kernel)
    revert beyond
    decide
  · exact rowState_placed (by decide) (by decide) (by decide) (by decide) (by decide) (by decide)
      (by decide)
  · intro shifts
    have beyond := @pushedTo_of_exactly _ _ _ _ _ 2 1 shifts (by decide +kernel)
    revert beyond
    decide

theorem neighbours_pushed_exactly_one :
    (oneRowMgr 1).ShiftsRight ⟨0, 0, 10, 1, 10⟩ 0 2 0 1 (rowState 2 [(2, 2), (6, 2)])
        Journal.empty ∧
      (oneRowMgr 1).ShiftsLeft ⟨0, 0, 10, 1, 10⟩ 0 2 0 1 (rowState 2 [(2, 2), (6, 2)])
        Journal.empty := by
  have placed : SegmentPlaced (oneRowMgr 1) ⟨0, 0, 10, 1, 10⟩ 0 (rowState 2 [(2, 2), (6, 2)]) :=
    rowState_placed (by decide) (by decide) (by decide) (by decide) (by decide) (by decide)
      (by decide)
  have pushed := @neighbours_pushed_exactly _ _ _ _ placed 0 2 Journal.empty 1 (by decide)
  constructor
  · apply pushed.1
    intro place isPlace
    have isFour : place = 4 := Option.some.inj (isPlace.symm.trans (by decide))
    rw [isFour]
    refine ⟨by decide, fun _ => ⟨?_, ?_⟩⟩
    · intro d isHead
      cases isHead
      rw [keepsRight]
      decide
    · intro place isPlace
      cases isPlace.symm.trans (by decide : _ = none)
  · apply pushed.2
    intro place isPlace
    have isZero : place = 0 := Option.some.inj (isPlace.symm.trans (by decide))
    rw [isZero]
    refine ⟨by decide, fun _ => ⟨?_, trivial⟩⟩
    intro d isHead
    cases isHead

end OpenRoad.Dpl
