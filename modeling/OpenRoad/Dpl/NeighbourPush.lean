import OpenRoad.Dpl.MultiHeightMove
import OpenRoad.Dpl.ObjectiveRuns

/-! Cells of one row pushed aside to make room for another one. -/

namespace OpenRoad.Dpl

open List

open Function

def pushedSite (row : Row) (xj : Int) : Int := xj - row.left.tdiv row.siteSpacing

def snapRight (row : Row) (xj : Int) : Int :=
  let sx := row.left + pushedSite row xj * row.siteSpacing
  if xj ≠ sx then
    let sx := if xj > sx then sx + row.siteSpacing else sx
    if xj ≠ sx then if xj < sx then sx else xj else xj
  else xj

def snapLeft (row : Row) (xj : Int) : Int :=
  let sx := row.left + pushedSite row xj * row.siteSpacing
  if xj ≠ sx then if xj > sx then sx else xj else xj

/-- The loop to the right from the cell with an index on, and how many cells there are behind it. -/
def RowMgr.pushRight (mgr : RowMgr) (row : Row) (sj : Nat) :
    Nat → Nat → Nat → Int → Nat → PlacementState → Journal →
      Except MoveError (Bool × PlacementState × Journal)
  | remaining, ix, ndi, xj, ndr, s, journal =>
    let least := xj + (s.nodes ndi).width +
      mgr.arch.getCellSpacing (some (s.nodes ndi)) (some (s.nodes ndr))
    if (s.nodes ndr).left < least then
      if mgr.arch.getCellHeightInRows (s.nodes ndr) ≠ 1 then .ok (false, s, journal)
      else
        let xj := snapRight row least
        match addToMoveList mgr.toDetailedMgr ndr (s.nodes ndr).left (s.nodes ndr).bottom sj xj
            (s.nodes ndr).bottom sj s journal with
        | .error msg => .error (.internal msg)
        | .ok none => .ok (false, s, journal)
        | .ok (some (s, journal)) =>
          if xj + (s.nodes ndr).width + mgr.arch.getCellSpacing (some (s.nodes ndr)) none >
              (mgr.segments sj).xmax then .ok (false, s, journal)
          else match remaining with
            | 0 => .ok (true, s, journal)
            | remaining + 1 =>
              match (s.cellsInSeg sj)[ix + 1]? with
              | none => .error (.outOfRange (ix + 1))
              | some next => mgr.pushRight row sj remaining (ix + 1) ndr xj next s journal
    else .ok (true, s, journal)

def RowMgr.shiftRightHelper (mgr : RowMgr) (ndi : Nat) (xj : Int) (sj ndr : Nat)
    (s : PlacementState) (journal : Journal) :
    Except MoveError (Bool × PlacementState × Journal) :=
  let cells := s.cellsInSeg sj
  if ndr ∉ cells then .ok (false, s, journal)
  else do
    let row ← mgr.arch.getRow (mgr.segments sj).rowId
    let ix := cells.idxOf ndr
    mgr.pushRight row sj (cells.length - 1 - ix) ix ndi xj ndr s journal

/-- The loop to the left from the cell with an index on. -/
def RowMgr.pushLeft (mgr : RowMgr) (row : Row) (sj : Nat) :
    Nat → Nat → Int → Nat → PlacementState → Journal →
      Except MoveError (Bool × PlacementState × Journal)
  | ix, ndi, xj, ndl, s, journal =>
    let spacing := mgr.arch.getCellSpacing (some (s.nodes ndl)) (some (s.nodes ndi))
    if (s.nodes ndl).getRight + spacing > xj then
      if mgr.arch.getCellHeightInRows (s.nodes ndl) ≠ 1 then .ok (false, s, journal)
      else
        let xj := snapLeft row (xj - spacing - (s.nodes ndl).width)
        match addToMoveList mgr.toDetailedMgr ndl (s.nodes ndl).left (s.nodes ndl).bottom sj xj
            (s.nodes ndl).bottom sj s journal with
        | .error msg => .error (.internal msg)
        | .ok none => .ok (false, s, journal)
        | .ok (some (s, journal)) =>
          if xj - mgr.arch.getCellSpacing none (some (s.nodes ndl)) < (mgr.segments sj).xmin then
            .ok (false, s, journal)
          else match ix with
            | 0 => .ok (true, s, journal)
            | ix + 1 =>
              match (s.cellsInSeg sj)[ix]? with
              | none => .error (.outOfRange ix)
              | some next => mgr.pushLeft row sj ix ndl xj next s journal
    else .ok (true, s, journal)

def RowMgr.shiftLeftHelper (mgr : RowMgr) (ndi : Nat) (xj : Int) (sj ndl : Nat)
    (s : PlacementState) (journal : Journal) :
    Except MoveError (Bool × PlacementState × Journal) :=
  let cells := s.cellsInSeg sj
  if ndl ∉ cells then .ok (false, s, journal)
  else do
    let row ← mgr.arch.getRow (mgr.segments sj).rowId
    mgr.pushLeft row sj (cells.idxOf ndl) ndi xj ndl s journal

def Row.alignUp (row : Row) (x : Int) : Int :=
  row.left + divCeil (x - row.left) row.siteSpacing * row.siteSpacing

def Row.alignDown (row : Row) (x : Int) : Int :=
  row.left + (x - row.left) / row.siteSpacing * row.siteSpacing

/-- The cells that have to move, each with its new left edge. -/
def pushes (nodes : Nat → Node) (step : Node → Int → Node → Option Int) :
    Node → Int → List Nat → List (Nat × Int)
  | _, _, [] => []
  | prev, x, c :: rest =>
    match step prev x (nodes c) with
    | none => []
    | some place => (c, place) :: pushes nodes step (nodes c) place rest

def stepRight (arch : Architecture) (align : Int → Int) (prev : Node) (x : Int) (cell : Node) :
    Option Int :=
  let least := x + prev.width + arch.getCellSpacing (some prev) (some cell)
  if cell.left < least then some (align least) else none

def stepLeft (arch : Architecture) (align : Int → Int) (prev : Node) (x : Int) (cell : Node) :
    Option Int :=
  let spacing := arch.getCellSpacing (some cell) (some prev)
  if cell.getRight + spacing > x then some (align (x - spacing - cell.width)) else none

/-- The checks of a move of one cell, when so many are in the list before it, and the end of the
segment on its side. -/
structure PushFits (mgr : RowMgr) (inside : Node → Int → Prop) (nodes : Nat → Node) (count : Nat)
    (push : Nat × Int) : Prop where
  limit : count < mgr.moveLimit
  site : mgr.checkSiteOrientation (nodes push.1) push.2 (nodes push.1).bottom = true
  dispX : |push.2 - (nodes push.1).orig_left| ≤ mgr.maxDispX
  dispY : |(nodes push.1).bottom - (nodes push.1).orig_bottom| ≤ mgr.maxDispY
  inside : inside (nodes push.1) push.2

def insideRight (mgr : RowMgr) (sj : Nat) (cell : Node) (x : Int) : Prop :=
  x + cell.width + mgr.arch.getCellSpacing (some cell) none ≤ (mgr.segments sj).xmax

def insideLeft (mgr : RowMgr) (sj : Nat) (cell : Node) (x : Int) : Prop :=
  (mgr.segments sj).xmin ≤ x - mgr.arch.getCellSpacing none (some cell)

def AllFit (fits : Nat → Nat × Int → Prop) : Nat → List (Nat × Int) → Prop
  | _, [] => True
  | count, push :: rest => fits count push ∧ AllFit fits (count + 1) rest

def placeOf (nodes : Nat → Node) (moved : List (Nat × Int)) (c : Nat) : Int :=
  (moved.lookup c).getD (nodes c).left

/-- The helper succeeds if and only if the moves pass their checks, and then it has done them. -/
def PushesExactly (fits : Nat → Nat × Int → Prop) (s : PlacementState) (journal : Journal)
    (moved : List (Nat × Int)) (result : Except MoveError (Bool × PlacementState × Journal)) : Prop :=
  ∃ succeeded s' journal', result = .ok (succeeded, s', journal') ∧
    (succeeded = true ↔ AllFit fits journal.actions.length moved) ∧
    (succeeded = true → ∀ c, (s'.nodes c).left = placeOf s.nodes moved c ∧
      (s'.nodes c).bottom = (s.nodes c).bottom)

lemma insertIdx_between (before after : List Nat) (c : Nat) :
    (before ++ after).insertIdx before.length c = before ++ c :: after := by
  induction before with
  | nil => rfl
  | cons d before ih => exact congrArg (List.cons d) ih

lemma reinsert_same {before after : List Nat} {c : Nat} (fresh : c ∉ before)
    (left : Nat → Bool) (low : ∀ d ∈ before, left d = true)
    (high : ∀ d ∈ after.head?, left d = false) :
    (((before ++ c :: after).erase c).insertIdx
      (((before ++ c :: after).erase c).takeWhile left).length c) = before ++ c :: after := by
  have erased : (before ++ c :: after).erase c = before ++ after := by
    rw [erase_append_right _ fresh, erase_cons_head]
  have place : ((before ++ after).takeWhile left).length = before.length := by
    rw [takeWhile_append_of_pos low]
    have stop : after.takeWhile left = [] := by
      cases after with
      | nil => rfl
      | cons d after =>
        rw [takeWhile_cons, high d rfl]
        rfl
    rw [stop, append_nil]
  rw [erased, place]
  exact insertIdx_between before after c

/-- The checks of a move but for the end of the segment. -/
structure MoveFits (mgr : RowMgr) (nodes : Nat → Node) (count : Nat) (push : Nat × Int) : Prop where
  limit : count < mgr.moveLimit
  site : mgr.checkSiteOrientation (nodes push.1) push.2 (nodes push.1).bottom = true
  dispX : |push.2 - (nodes push.1).orig_left| ≤ mgr.maxDispX
  dispY : |(nodes push.1).bottom - (nodes push.1).orig_bottom| ≤ mgr.maxDispY

lemma pushFits_iff {mgr : RowMgr} {inside : Node → Int → Prop} {nodes : Nat → Node} {count : Nat}
    {push : Nat × Int} : PushFits mgr inside nodes count push ↔
      MoveFits mgr nodes count push ∧ inside (nodes push.1) push.2 :=
  ⟨fun fits => ⟨⟨fits.limit, fits.site, fits.dispX, fits.dispY⟩, fits.inside⟩,
    fun fits => ⟨fits.1.limit, fits.1.site, fits.1.dispX, fits.1.dispY, fits.2⟩⟩

/-- A move to another place of the row, where only the cell itself is changed. -/
structure PushedTo (mgr : RowMgr) (s s' : PlacementState) (journal journal' : Journal)
    (before after : List Nat) (c : Nat) (x : Int) : Prop where
  cells : (∀ d ∈ before, (s.nodes d).getCenterX < x + (s.nodes c).width.tdiv 2) →
    (∀ d ∈ after.head?, x + (s.nodes c).width.tdiv 2 ≤ (s.nodes d).getCenterX) →
    s'.cellsInSeg = s.cellsInSeg
  segs : s'.reverseCellToSegs = s.reverseCellToSegs
  journal : journal'.actions.length = journal.actions.length + 1
  node : ∃ o, mgr.grid.Gives o ∧
    s'.nodes = update s.nodes c (((s.nodes c).at x (s.nodes c).bottom).adjustCurrOrient o)

structure RowCell (mgr : RowMgr) (s : PlacementState) (sj c : Nat) : Prop where
  segs : s.reverseCellToSegs c = [(sj : Int)]
  single : mgr.getCellHeightInRows (s.nodes c) = 1
  flat : (s.nodes c).orient.rotated = false

lemma getCenterX_moved {node : Node} {o : OrientType} (x y : Int)
    (flat : node.orient.rotated = false) (flatSite : o.rotated = false) :
    ((node.at x y).adjustCurrOrient o).getCenterX = x + node.width.tdiv 2 := by
  have still : (node.at x y).orient.rotated = false := flat
  rw [Node.adjustCurrOrient_eq, still, flatSite]
  rfl

lemma removeFromSegments_one {s : PlacementState} {sj c : Nat} (inside : c ∈ s.cellsInSeg sj)
    (segs : s.reverseCellToSegs c = [(sj : Int)]) :
    removeFromSegments c [(sj : Int)] s = .ok { s with
      reverseCellToSegs := update s.reverseCellToSegs c []
      cellsInSeg := update s.cellsInSeg sj ((s.cellsInSeg sj).erase c)
      segUtil := update s.segUtil sj (s.segUtil sj - (s.nodes c).width) } := by
  have known : (sj : Int) ∈ s.reverseCellToSegs c := by
    rw [segs]
    exact mem_singleton_self _
  rw [removeFromSegments, foldlM_cons, if_neg (by omega), removeCellFromSegment,
    if_neg (not_not.mpr inside), if_neg (not_not.mpr known), segs]
  simp only [erase_cons_head]
  rfl

lemma addToSegments_one {mgr : DetailedMgr} {s : PlacementState} {sj c : Nat}
    (segs : s.reverseCellToSegs c = []) (single : mgr.getCellHeightInRows (s.nodes c) = 1) :
    ∃ segUtil, addToSegments mgr c [(sj : Int)] s = .ok { s with
      cellsInSeg := update s.cellsInSeg sj ((s.cellsInSeg sj).insertIdx
        ((s.cellsInSeg sj).takeWhile fun d =>
          (s.nodes d).getCenterX < (s.nodes c).getCenterX).length c)
      segUtil := segUtil
      reverseCellToSegs := update s.reverseCellToSegs c [(sj : Int)] } := by
  refine ⟨update s.segUtil sj (s.segUtil sj + (s.nodes c).width), ?_⟩
  rw [addToSegments, foldlM_cons, if_neg (by omega), addCellToSegment, segs,
    if_neg not_mem_nil, if_neg (by rw [single]; simp)]
  rfl

lemma paintAt_ok {grid : Grid} {s : PlacementState} {c : Nat} {grid_y : Int} {o : OrientType}
    (isSite : grid.row_sites grid_y (grid.gridX (s.nodes c).left) (s.nodes c).site = some o) :
    paintAt grid c grid_y s =
      .ok ((paintPixel grid c (grid.gridX (s.nodes c).left) grid_y s).setNode c
        ((s.nodes c).adjustCurrOrient o)) := by
  rw [paintAt, getSiteOrientation_ok.mpr isSite]
  rfl

lemma commitMove_ok {mgr : DetailedMgr} {s erased painted added : PlacementState}
    {journal : Journal} {c : Nat} {x y x' y' : Int} {segs segs' : List Int}
    {remove add : Nat → List Int → PlacementState → Except String PlacementState}
    (isErased : remove c segs (erasePixel mgr.grid c s) = .ok erased)
    (isPainted : mgr.paintInGrid c (erased.moveTo c x' y') = .ok painted)
    (isAdded : add c segs' painted = .ok added) :
    commitMove mgr c x y segs x' y' segs' s journal remove add =
      .ok (added, journal.addAction (added.nodes c) (.moveCell c x y x' y' true segs segs')) := by
  rw [commitMove, isErased]
  simp only [bind, Except.bind, isPainted, isAdded]

lemma addToMoveList_push {mgr : RowMgr} {s : PlacementState} {journal : Journal} {sj c : Nat}
    {before after : List Nat} (upright : mgr.grid.Upright) (cell : RowCell mgr s sj c) (x : Int)
    (list : s.cellsInSeg sj = before ++ c :: after) (fresh : c ∉ before) (fresh' : c ∉ after) :
    (¬ MoveFits mgr s.nodes journal.actions.length (c, x) ∧
      addToMoveList mgr.toDetailedMgr c (s.nodes c).left (s.nodes c).bottom sj x (s.nodes c).bottom sj
        s journal = .ok none) ∨
    (MoveFits mgr s.nodes journal.actions.length (c, x) ∧ ∃ s' journal',
      addToMoveList mgr.toDetailedMgr c (s.nodes c).left (s.nodes c).bottom sj x (s.nodes c).bottom sj
        s journal = .ok (some (s', journal')) ∧ PushedTo mgr s s' journal journal' before after c x) := by
  rw [addToMoveList]
  by_cases full : journal.actions.length ≥ mgr.moveLimit
  · rw [if_pos full]
    exact .inl ⟨fun fits => absurd fits.limit (not_lt.mpr full), rfl⟩
  rw [if_neg full]
  by_cases site : mgr.checkSiteOrientation (s.nodes c) x (s.nodes c).bottom = true
  swap
  · rw [if_pos site]
    exact .inl ⟨fun fits => site fits.site, rfl⟩
  rw [if_neg (not_not.mpr site)]
  by_cases far : |x - (s.nodes c).orig_left| > mgr.maxDispX ∨
      |(s.nodes c).bottom - (s.nodes c).orig_bottom| > mgr.maxDispY
  · rw [if_pos far]
    refine .inl ⟨fun fits => ?_, rfl⟩
    rcases far with tooFar | tooFar
    · exact absurd fits.dispX (not_le.mpr tooFar)
    · exact absurd fits.dispY (not_le.mpr tooFar)
  rw [if_neg far]
  rw [not_or, not_lt, not_lt] at far
  refine .inr ⟨⟨not_le.mp full, site, far.1, far.2⟩, ?_⟩
  rcases Option.isSome_iff_exists.mp site with ⟨o, isSite⟩
  have gives : mgr.grid.Gives o := ⟨_, _, _, isSite⟩
  have flatSite := upright o gives
  have inside : c ∈ s.cellsInSeg sj := by
    rw [list]
    simp
  let erased : PlacementState := { erasePixel mgr.grid c s with
    reverseCellToSegs := update s.reverseCellToSegs c []
    cellsInSeg := update s.cellsInSeg sj ((s.cellsInSeg sj).erase c)
    segUtil := update s.segUtil sj (s.segUtil sj - (s.nodes c).width) }
  have isErased : removeFromSegments c [(sj : Int)] (erasePixel mgr.grid c s) = .ok erased :=
    removeFromSegments_one inside cell.segs
  let moved : PlacementState := erased.moveTo c x (s.nodes c).bottom
  have movedNode : moved.nodes c = (s.nodes c).at x (s.nodes c).bottom := update_self ..
  let painted : PlacementState := (paintPixel mgr.grid c (mgr.grid.gridX x)
    (mgr.grid.gridSnapDownY (s.nodes c).bottom) moved).setNode c
      (((s.nodes c).at x (s.nodes c).bottom).adjustCurrOrient o)
  have isPainted : mgr.paintInGrid c moved = .ok painted := by
    rw [DetailedMgr.paintInGrid, paintAt_ok (o := o) (by rw [movedNode]; exact isSite), movedNode]
    rfl
  have paintedNodes : painted.nodes = update s.nodes c
      (((s.nodes c).at x (s.nodes c).bottom).adjustCurrOrient o) := by
    simp only [painted, moved, erased, PlacementState.setNode, PlacementState.moveTo, paintPixel,
      erasePixel, update_idem]
  have paintedNode : painted.nodes c =
      ((s.nodes c).at x (s.nodes c).bottom).adjustCurrOrient o := by
    rw [paintedNodes, update_self]
  have single : mgr.getCellHeightInRows (painted.nodes c) = 1 := by
    have height := (keeps_adjust cell.flat flatSite x (s.nodes c).bottom).height
    rw [← Node.adjustCurrOrient_at, ← paintedNode] at height
    rw [← cell.single, DetailedMgr.getCellHeightInRows, DetailedMgr.getCellHeightInRows, height]
  rcases @addToSegments_one mgr.toDetailedMgr painted sj c (update_self ..) single with
    ⟨segUtil, isAdded⟩
  have listed : painted.cellsInSeg sj = (before ++ c :: after).erase c := by
    rw [← list]
    exact update_self ..
  have centre : (painted.nodes c).getCenterX = x + (s.nodes c).width.tdiv 2 := by
    rw [paintedNode]
    exact getCenterX_moved x _ cell.flat flatSite
  have others : ∀ d, d ≠ c → painted.nodes d = s.nodes d := by
    intro d differ
    rw [paintedNodes, update_of_ne differ]
  rw [commitMove_ok isErased isPainted isAdded]
  refine ⟨_, _, rfl, ?_, ?_, ?_, ⟨o, gives, paintedNodes⟩⟩
  · intro low high
    have back : (painted.cellsInSeg sj).insertIdx ((painted.cellsInSeg sj).takeWhile fun d =>
        (painted.nodes d).getCenterX < (painted.nodes c).getCenterX).length c =
          s.cellsInSeg sj := by
      rw [list, listed]
      apply reinsert_same fresh
      · intro d member
        have differ : d ≠ c := fun same => fresh (same ▸ member)
        rw [centre, others d differ]
        exact decide_eq_true (low d member)
      · intro d isHead
        have differ : d ≠ c := fun same => fresh' (same ▸ mem_of_mem_head? isHead)
        rw [centre, others d differ]
        exact decide_eq_false (not_lt.mpr (high d isHead))
    dsimp only
    rw [back]
    funext seg
    by_cases same : seg = sj
    · rw [same]
      exact update_self ..
    · rw [update_of_ne same]
      exact update_of_ne same ..
  · funext d
    by_cases same : d = c
    · rw [same, cell.segs]
      exact update_self ..
    · dsimp only
      rw [update_of_ne same]
      exact update_of_ne same ..
  · simp [Journal.addAction]

end OpenRoad.Dpl
