import Mathlib.Data.Rat.Floor
import OpenRoad.Dpl.MasterEdges

/-! When the typed edges of a master and its default edges divide its boundary between them. -/

namespace OpenRoad.Dpl

open List

namespace MasterEdges

structure Proper (bbox : Rect) : Prop where
  wide : bbox.xMin ≤ bbox.xMax
  high : bbox.yMin ≤ bbox.yMax

/-- The range, the row or the half row lies inside the box. -/
structure Fits (bbox : Rect) (num_rows : Int) (edge : DbMasterEdgeType) : Prop where
  range : edge.range_begin ≠ -1 → 0 ≤ edge.range_begin ∧ edge.range_begin ≤ edge.range_end ∧
    edge.range_end ≤ bbox.xMax - bbox.xMin
  cell : edge.cell_row ≠ -1 → 1 ≤ edge.cell_row ∧ edge.cell_row ≤ num_rows
  half : edge.half_row ≠ -1 → 1 ≤ edge.half_row ∧ edge.half_row ≤ 2 * num_rows

section Pieces

variable (bbox : Rect) (num_rows : Int) (dir : EdgeDir)

def sideStart : Int := (getBoundarySegment bbox dir).lo dir.horizontal

def sideLength : Int := (getBoundarySegment bbox dir).hi dir.horizontal - sideStart bbox dir

def sidePiece (piece : Int × Int) : Rect :=
  segmentOn dir.horizontal (getBoundarySegment bbox dir) (sideStart bbox dir + piece.1)
    (sideStart bbox dir + piece.2)

/-- The part of its side, from the start of the side, that an edge type has for a range that ends at
`range_end` and rows and half rows of some height. -/
def pieceWith {α : Type} [Ring α] (edge : DbMasterEdgeType) (range_end row half : α) : α × α :=
  if edge.edge_dir.horizontal = true ∧ edge.range_begin ≠ -1 then (edge.range_begin, range_end)
  else if edge.edge_dir.horizontal = false ∧ edge.cell_row ≠ -1 then
    ((edge.cell_row - 1) * row, edge.cell_row * row)
  else if edge.edge_dir.horizontal = false ∧ edge.half_row ≠ -1 then
    ((edge.half_row - 1) * half, edge.half_row * half)
  else (0, sideLength bbox edge.edge_dir)

/-- What the edge type describes: the rows divide the height of the box, the half rows the rows. -/
def describedPiece (edge : DbMasterEdgeType) : ℚ × ℚ :=
  pieceWith bbox edge edge.range_end ((bbox.yMax - bbox.yMin : Int) / num_rows)
    ((bbox.yMax - bbox.yMin : Int) / (2 * num_rows))

/-- What the code reads: the range moved by its begin, and truncated heights. -/
def readPiece (edge : DbMasterEdgeType) : Int × Int :=
  pieceWith bbox edge (edge.range_begin + edge.range_end) ((bbox.yMax - bbox.yMin) / num_rows)
    ((bbox.yMax - bbox.yMin) / (2 * num_rows))

/-- The range begins at the start of the side, and the rows or half rows divide the height. -/
structure ReadExactly (edge : DbMasterEdgeType) : Prop where
  range : edge.edge_dir.horizontal = true → edge.range_begin ≠ -1 → edge.range_begin = 0
  cell : edge.edge_dir.horizontal = false → edge.cell_row ≠ -1 → num_rows ∣ bbox.yMax - bbox.yMin
  half : edge.edge_dir.horizontal = false → edge.cell_row = -1 → edge.half_row ≠ -1 →
    2 * num_rows ∣ bbox.yMax - bbox.yMin

variable {bbox num_rows dir} {edge : DbMasterEdgeType}

lemma sideLength_eq : sideLength bbox dir =
    if dir.horizontal then bbox.xMax - bbox.xMin else bbox.yMax - bbox.yMin := by
  cases dir <;> rfl

lemma heights_fit (proper : Proper bbox) {count : Int} (rows : 0 < count) :
    0 ≤ (bbox.yMax - bbox.yMin) / count ∧
      count * ((bbox.yMax - bbox.yMin) / count) ≤ bbox.yMax - bbox.yMin := by
  have height : 0 ≤ bbox.yMax - bbox.yMin := Int.sub_nonneg_of_le proper.high
  exact ⟨Int.ediv_nonneg height rows.le, Int.mul_ediv_self_le rows.ne'⟩

lemma piece_fits {count place length total : Int} (nonneg : 0 ≤ length)
    (within : count * length ≤ total) (first : 1 ≤ place) (last : place ≤ count) :
    0 ≤ (place - 1) * length ∧ (place - 1) * length ≤ place * length ∧
      place * length ≤ total := by
  refine ⟨Int.mul_nonneg (by omega) nonneg, Int.mul_le_mul_of_nonneg_right (by omega) nonneg, ?_⟩
  exact (Int.mul_le_mul_of_nonneg_right last nonneg).trans within

lemma readPiece_fits (proper : Proper bbox) (rows : 0 < num_rows) (fits : Fits bbox num_rows edge) :
    0 ≤ (readPiece bbox num_rows edge).1 ∧
      (readPiece bbox num_rows edge).1 ≤ (readPiece bbox num_rows edge).2 ∧
      (readPiece bbox num_rows edge).1 ≤ sideLength bbox edge.edge_dir ∧
      (edge.edge_dir.horizontal = false ∨ ReadExactly bbox num_rows edge →
        (readPiece bbox num_rows edge).2 ≤ sideLength bbox edge.edge_dir) := by
  rw [readPiece, pieceWith, sideLength_eq]
  split
  · rename_i ranged
    rcases fits.range ranged.2 with ⟨start, order, stop⟩
    rw [if_pos ranged.1]
    refine ⟨start, by dsimp only [Int.cast_id]; omega, order.trans stop, fun exact' => ?_⟩
    have begins := (exact'.resolve_left (by rw [ranged.1]; exact Bool.noConfusion)).range
      ranged.1 ranged.2
    dsimp only
    omega
  · split
    · rename_i inCell
      have heights := @heights_fit bbox proper num_rows rows
      rcases piece_fits heights.1 heights.2 (fits.cell inCell.2).1 (fits.cell inCell.2).2 with
        ⟨start, order, stop⟩
      rw [if_neg (by rw [inCell.1]; exact Bool.false_ne_true)]
      exact ⟨start, order, order.trans stop, fun _ => stop⟩
    · split
      · rename_i inHalf
        have heights := @heights_fit bbox proper (2 * num_rows) (by omega)
        rcases piece_fits heights.1 heights.2 (fits.half inHalf.2).1 (fits.half inHalf.2).2 with
          ⟨start, order, stop⟩
        rw [if_neg (by rw [inHalf.1]; exact Bool.false_ne_true)]
        exact ⟨start, order, order.trans stop, fun _ => stop⟩
      · have length : 0 ≤ if edge.edge_dir.horizontal then bbox.xMax - bbox.xMin
            else bbox.yMax - bbox.yMin := by
          split
          · exact Int.sub_nonneg_of_le proper.wide
          · exact Int.sub_nonneg_of_le proper.high
        rw [← sideLength_eq] at length ⊢
        exact ⟨le_rfl, length, length, fun _ => le_rfl⟩

lemma edgeRect_piece (proper : Proper bbox) (rows : 0 < num_rows)
    (fits : Fits bbox num_rows edge) : edgeRect bbox num_rows edge =
      sidePiece bbox edge.edge_dir (readPiece bbox num_rows edge) := by
  have height : 0 ≤ bbox.yMax - bbox.yMin := Int.sub_nonneg_of_le proper.high
  have row : (bbox.yMax - bbox.yMin).tdiv num_rows = (bbox.yMax - bbox.yMin) / num_rows :=
    Int.tdiv_eq_ediv_of_nonneg height
  have half : ((bbox.yMax - bbox.yMin) / num_rows).tdiv 2 =
      (bbox.yMax - bbox.yMin) / (2 * num_rows) := by
    rw [Int.tdiv_eq_ediv_of_nonneg (Int.ediv_nonneg height rows.le),
      Int.ediv_ediv_of_nonneg rows.le, mul_comm]
  have wholeSide : getBoundarySegment bbox edge.edge_dir =
      sidePiece bbox edge.edge_dir (0, sideLength bbox edge.edge_dir) := by
    rw [sidePiece, sideLength, add_zero, add_sub_cancel]
    cases edge.edge_dir <;> rfl
  rw [edgeRect, readPiece, pieceWith]
  cases lying : edge.edge_dir.horizontal
  · have isBottom : (getBoundarySegment bbox edge.edge_dir).yMin = bbox.yMin ∧
        (getBoundarySegment bbox edge.edge_dir).yMax = bbox.yMax := by
      cases isDir : edge.edge_dir <;> rw [isDir] at lying
      · cases lying
      · exact ⟨rfl, rfl⟩
      · exact ⟨rfl, rfl⟩
      · cases lying
    have start : sideStart bbox edge.edge_dir = bbox.yMin := by
      rw [sideStart, lying]
      exact isBottom.1
    simp only [Bool.false_eq_true, if_false, false_and, true_and, isBottom.1, isBottom.2, row, half]
    split
    · rename_i inCell
      have heights := @heights_fit bbox proper num_rows rows
      have fit := piece_fits heights.1 heights.2 (fits.cell inCell).1 (fits.cell inCell).2
      rw [sidePiece, lying, start, segmentOn]
      simp only [Bool.false_eq_true, if_false, Rect.mk.injEq, true_and, Int.cast_id]
      rw [sub_mul, one_mul] at fit ⊢
      omega
    · split
      · rename_i inHalf
        have heights := @heights_fit bbox proper (2 * num_rows) (by omega)
        have fit := piece_fits heights.1 heights.2 (fits.half inHalf).1 (fits.half inHalf).2
        rw [sidePiece, lying, start, segmentOn]
        simp only [Bool.false_eq_true, if_false, Rect.mk.injEq, true_and, Int.cast_id]
        rw [sub_mul, one_mul] at fit ⊢
        omega
      · exact wholeSide
  · have isLeft : (getBoundarySegment bbox edge.edge_dir).xMin = bbox.xMin := by
      cases isDir : edge.edge_dir <;> rw [isDir] at lying
      · rfl
      · cases lying
      · cases lying
      · rfl
    have start : sideStart bbox edge.edge_dir = bbox.xMin := by
      rw [sideStart, lying]
      exact isLeft
    simp only [if_true, true_and, Bool.true_eq_false, if_false, false_and]
    split
    · rw [sidePiece, lying, start, segmentOn, if_pos rfl, isLeft, add_assoc]
      rfl
    · exact wholeSide

lemma described_iff (rows : 0 < num_rows) (fits : Fits bbox num_rows edge) :
    (((readPiece bbox num_rows edge).1 : ℚ) = (describedPiece bbox num_rows edge).1 ∧
      ((readPiece bbox num_rows edge).2 : ℚ) = (describedPiece bbox num_rows edge).2) ↔
    ReadExactly bbox num_rows edge := by
  -- the pieces of a row agree exactly if its height does
  have row : ∀ {count place : Int}, 0 < count → 1 ≤ place →
      (((((place - 1) * ((bbox.yMax - bbox.yMin) / count) : Int) : ℚ) =
            (place - 1) * ((bbox.yMax - bbox.yMin : Int) / count) ∧
          ((place * ((bbox.yMax - bbox.yMin) / count) : Int) : ℚ) =
            place * ((bbox.yMax - bbox.yMin : Int) / count)) ↔
        count ∣ bbox.yMax - bbox.yMin) := by
    intro count place some' first
    have nonzero : (count : ℚ) ≠ 0 := by exact_mod_cast some'.ne'
    have placed : (place : ℚ) ≠ 0 := by exact_mod_cast (by omega : place ≠ 0)
    constructor
    · rintro ⟨_, same⟩
      rw [Int.cast_mul] at same
      have height := (div_eq_iff nonzero).mp (mul_left_cancel₀ placed same).symm
      exact ⟨_, by rw [mul_comm]; exact_mod_cast height⟩
    · intro divides
      have height : (((bbox.yMax - bbox.yMin) / count : Int) : ℚ) =
          ((bbox.yMax - bbox.yMin : Int) : ℚ) / count := Int.cast_div divides nonzero
      rw [← height]
      exact ⟨by push_cast; rfl, by push_cast; rfl⟩
  rw [readPiece, describedPiece, pieceWith, pieceWith]
  split
  · rename_i ranged
    simp only [Int.cast_id, true_and]
    constructor
    · intro same
      refine ⟨fun _ _ => ?_, fun upright => ?_, fun upright => ?_⟩
      · have ends : edge.range_begin + edge.range_end = edge.range_end := by exact_mod_cast same
        omega
      · rw [ranged.1] at upright
        cases upright
      · rw [ranged.1] at upright
        cases upright
    · intro exact'
      rw [exact'.range ranged.1 ranged.2, zero_add]
  · rename_i notRanged
    have noRange : ∀ {P : Prop}, edge.edge_dir.horizontal = true → edge.range_begin ≠ -1 → P :=
      fun lying ranged => absurd ⟨lying, ranged⟩ notRanged
    split
    · rename_i inCell
      have same := @row num_rows edge.cell_row rows (fits.cell inCell.2).1
      simp only [Int.cast_id]
      rw [same]
      exact ⟨fun divides => ⟨noRange, fun _ _ => divides, fun _ none => absurd none inCell.2⟩,
        fun exact' => exact'.cell inCell.1 inCell.2⟩
    · rename_i notCell
      split
      · rename_i inHalf
        have same := @row (2 * num_rows) edge.half_row (by omega) (fits.half inHalf.2).1
        simp only [Int.cast_id]
        rw [show ((2 * num_rows : Int) : ℚ) = 2 * num_rows by push_cast; rfl] at same
        rw [same]
        exact ⟨fun divides => ⟨noRange, fun upright inCell => absurd ⟨upright, inCell⟩ notCell,
          fun _ _ _ => divides⟩, fun exact' => exact'.half inHalf.1
            (by_contra fun inCell => notCell ⟨inHalf.1, inCell⟩) inHalf.2⟩
      · rename_i notHalf
        exact iff_of_true ⟨by simp, by simp⟩ ⟨noRange,
          fun upright inCell => absurd ⟨upright, inCell⟩ notCell,
          fun upright _ inHalf => absurd ⟨upright, inHalf⟩ notHalf⟩

end Pieces

section Sides

variable {bbox : Rect} {num_rows : Int} {dir : EdgeDir}

/-- The rectangle is a part of the side. -/
def OnSide (bbox : Rect) (dir : EdgeDir) (rect : Rect) : Prop :=
  ∃ piece : Int × Int, rect = sidePiece bbox dir piece ∧ 0 ≤ piece.1 ∧ piece.1 ≤ piece.2 ∧
    piece.2 ≤ sideLength bbox dir

lemma level_or_flat (bbox : Rect) (dir : EdgeDir) :
    level (getBoundarySegment bbox dir) = dir.horizontal ∨
      dir.horizontal = false ∧ bbox.yMin = bbox.yMax := by
  by_cases even : bbox.yMin = bbox.yMax
  · cases lying : dir.horizontal
    · exact .inr ⟨rfl, even⟩
    · cases dir
      · exact .inl (decide_eq_true rfl)
      · cases lying
      · cases lying
      · exact .inl (decide_eq_true rfl)
  · cases dir
    · exact .inl (decide_eq_true rfl)
    · exact .inl (decide_eq_false even)
    · exact .inl (decide_eq_false even)
    · exact .inl (decide_eq_true rfl)

lemma side_ends (proper : Proper bbox) (dir : EdgeDir) :
    Flat (level (getBoundarySegment bbox dir)) (getBoundarySegment bbox dir) ∧
      (getBoundarySegment bbox dir).lo (level (getBoundarySegment bbox dir)) ≤
        (getBoundarySegment bbox dir).hi (level (getBoundarySegment bbox dir)) := by
  rcases proper with ⟨wide, high⟩
  rw [Flat]
  cases level (getBoundarySegment bbox dir) <;> cases dir <;>
    simp only [getBoundarySegment, Rect.lo, Rect.hi, Bool.not_false, Bool.not_true,
      Bool.false_eq_true, if_true, if_false, le_refl, wide, high, and_self]

lemma sidePiece_along {piece : Int × Int} (start : 0 ≤ piece.1) (order : piece.1 ≤ piece.2)
    (within : piece.1 ≤ sideLength bbox dir)
    (stop : dir.horizontal = false → piece.2 ≤ sideLength bbox dir) :
    Along (level (getBoundarySegment bbox dir)) (getBoundarySegment bbox dir)
      (sidePiece bbox dir piece) := by
  rcases level_or_flat bbox dir with same | ⟨upright, flat⟩
  · rw [same, sidePiece]
    rw [sideLength] at within
    refine ⟨?_, ?_, ?_, ?_⟩
    · rw [lo_segmentOn, hi_segmentOn]
    · rw [lo_segmentOn, ← sideStart]
      omega
    · rw [lo_segmentOn]
      omega
    · rw [lo_segmentOn, hi_segmentOn]
      omega
  · have ends := stop upright
    rw [sideLength_eq, upright, if_neg Bool.false_ne_true] at ends
    have isPoint : level (getBoundarySegment bbox dir) = true := by
      cases dir <;> exact decide_eq_true (by simp only [getBoundarySegment, flat])
    rw [isPoint, sidePiece, sideStart, upright, show piece.1 = 0 by omega, show piece.2 = 0 by omega]
    cases dir
    · cases upright
    · constructor <;> simp [segmentOn, Rect.lo, Rect.hi, getBoundarySegment, flat]
    · constructor <;> simp [segmentOn, Rect.lo, Rect.hi, getBoundarySegment, flat]
    · cases upright

lemma onSide_segmentOn {lo hi : Int}
    (start : (getBoundarySegment bbox dir).lo (level (getBoundarySegment bbox dir)) ≤ lo)
    (order : lo ≤ hi)
    (stop : hi ≤ (getBoundarySegment bbox dir).hi (level (getBoundarySegment bbox dir))) :
    OnSide bbox dir
      (segmentOn (level (getBoundarySegment bbox dir)) (getBoundarySegment bbox dir) lo hi) := by
  rcases level_or_flat bbox dir with same | ⟨upright, flat⟩
  · rw [same] at start stop ⊢
    refine ⟨(lo - sideStart bbox dir, hi - sideStart bbox dir), ?_, ?_, ?_, ?_⟩
    · rw [sidePiece, add_sub_cancel, add_sub_cancel]
    · exact Int.sub_nonneg_of_le start
    · exact Int.sub_le_sub_right order _
    · exact Int.sub_le_sub_right stop _
  · have isPoint : level (getBoundarySegment bbox dir) = true := by
      cases dir <;> exact decide_eq_true (by simp only [getBoundarySegment, flat])
    rw [isPoint] at start stop ⊢
    refine ⟨(0, 0), ?_, le_rfl, le_rfl, ?_⟩
    · rw [sidePiece, sideStart, upright, add_zero]
      cases dir
      · cases upright
      · simp only [segmentOn, Rect.lo, Rect.hi, getBoundarySegment, if_true, Bool.false_eq_true,
          if_false, flat, Rect.mk.injEq, true_and, and_true] at *
        omega
      · simp only [segmentOn, Rect.lo, Rect.hi, getBoundarySegment, if_true, Bool.false_eq_true,
          if_false, flat, Rect.mk.injEq, true_and, and_true] at *
        omega
      · cases upright
    · rw [sideLength_eq, upright, if_neg Bool.false_ne_true]
      omega

end Sides

section Partition

variable {drc_engine : PlacementDRC} {db_master : DbMaster}

def IsPiece (bbox : Rect) (dir : EdgeDir) (rect : Rect) (piece : ℚ × ℚ) : Prop :=
  ∃ part : Int × Int, rect = sidePiece bbox dir part ∧ (part.1 : ℚ) = piece.1 ∧
    (part.2 : ℚ) = piece.2

def Contains (piece : ℚ × ℚ) (x : ℚ) : Prop := piece.1 ≤ x ∧ x < piece.2

/-- The point of the side that is `x` from its start belongs to one of the edges. -/
def Covers (bbox : Rect) (dir : EdgeDir) (edges : List MasterEdge) (x : ℚ) : Prop :=
  ∃ edge ∈ edges, Contains (edge.bbox.lo dir.horizontal, edge.bbox.hi dir.horizontal)
    (sideStart bbox dir + x)

/-- The edge has the index of the type and is what the type describes. -/
def Describes (drc_engine : PlacementDRC) (db_master : DbMaster) (edge : DbMasterEdgeType)
    (made : MasterEdge) : Prop :=
  drc_engine.getEdgeTypeIdx edge.edge_type = some made.edge_type_idx ∧
    IsPiece db_master.placementBoundary edge.edge_dir made.bbox
      (describedPiece db_master.placementBoundary db_master.gridHeight edge)

/-- The typed edges are the described pieces, and the default edges cover what these leave. -/
structure EdgesPartition (drc_engine : PlacementDRC) (db_master : DbMaster) : Prop where
  typed : ∃ made, (addMaster drc_engine db_master).edges = made ++
      EdgeDir.all.flatMap (defaultEdges drc_engine db_master.placementBoundary
        db_master.gridHeight db_master.edge_types) ∧
    Forall₂ (Describes drc_engine db_master) (db_master.edge_types.filter fun edge =>
      (drc_engine.getEdgeTypeIdx edge.edge_type).isSome) made
  boundary : ∀ edge ∈ (addMaster drc_engine db_master).edges,
    ∃ dir, OnSide db_master.placementBoundary dir edge.bbox
  complement : (drc_engine.getEdgeTypeIdx "DEFAULT").isSome → ∀ (dir : EdgeDir) (x : ℚ), 0 ≤ x →
    x < sideLength db_master.placementBoundary dir →
    (Covers db_master.placementBoundary dir (defaultEdges drc_engine db_master.placementBoundary
        db_master.gridHeight db_master.edge_types dir) x ↔
      ¬ ∃ edge ∈ db_master.edge_types, edge.edge_dir = dir ∧ Contains
        (describedPiece db_master.placementBoundary db_master.gridHeight edge) x)

/-- Edge types of the table are read exactly, and those outside it cover the same as read. -/
structure PiecesRead (drc_engine : PlacementDRC) (db_master : DbMaster) : Prop where
  known : ∀ edge ∈ db_master.edge_types, (drc_engine.getEdgeTypeIdx edge.edge_type).isSome →
    ReadExactly db_master.placementBoundary db_master.gridHeight edge
  unknown : (drc_engine.getEdgeTypeIdx "DEFAULT").isSome → ∀ (dir : EdgeDir) (x : ℚ), 0 ≤ x →
    x < sideLength db_master.placementBoundary dir →
    ((∃ edge ∈ db_master.edge_types, edge.edge_dir = dir ∧ Contains
        (Prod.map Int.cast Int.cast
          (readPiece db_master.placementBoundary db_master.gridHeight edge)) x) ↔
      ∃ edge ∈ db_master.edge_types, edge.edge_dir = dir ∧ Contains
        (describedPiece db_master.placementBoundary db_master.gridHeight edge) x)

structure WellFormed (db_master : DbMaster) : Prop where
  proper : Proper db_master.placementBoundary
  rows : 0 < db_master.gridHeight
  fits : ∀ edge ∈ db_master.edge_types, Fits db_master.placementBoundary db_master.gridHeight edge

lemma addMaster_edges (table : drc_engine.hasCellEdgeSpacingTable = true)
    (cell : db_master.spacer = false) :
    (addMaster drc_engine db_master).edges =
      typedEdges drc_engine db_master.placementBoundary db_master.gridHeight db_master.edge_types ++
        EdgeDir.all.flatMap (defaultEdges drc_engine db_master.placementBoundary
          db_master.gridHeight db_master.edge_types) := by
  simp only [addMaster, table, cell, not_true_eq_false, if_false, Bool.false_eq_true]

lemma sidePiece_isPiece {bbox : Rect} {dir : EdgeDir} {part : Int × Int} {piece : ℚ × ℚ} :
    IsPiece bbox dir (sidePiece bbox dir part) piece ↔
      (part.1 : ℚ) = piece.1 ∧ (part.2 : ℚ) = piece.2 := by
  constructor
  · rintro ⟨other, same, isPiece⟩
    have low := congrArg (Rect.lo dir.horizontal) same
    have high := congrArg (Rect.hi dir.horizontal) same
    rw [sidePiece, sidePiece, lo_segmentOn, lo_segmentOn] at low
    rw [sidePiece, sidePiece, hi_segmentOn, hi_segmentOn] at high
    rw [Int.add_left_cancel low, Int.add_left_cancel high]
    exact isPiece
  · exact fun isPiece => ⟨part, rfl, isPiece⟩

lemma typedEdges_pieces (wf : WellFormed db_master) {edges : List DbMasterEdgeType}
    (there : edges ⊆ db_master.edge_types) :
    Forall₂ (Describes drc_engine db_master)
      (edges.filter fun edge => (drc_engine.getEdgeTypeIdx edge.edge_type).isSome)
      (typedEdges drc_engine db_master.placementBoundary db_master.gridHeight edges) ↔
    ∀ edge ∈ edges, (drc_engine.getEdgeTypeIdx edge.edge_type).isSome →
      ReadExactly db_master.placementBoundary db_master.gridHeight edge := by
  induction edges with
  | nil => exact iff_of_true .nil fun _ member => nomatch member
  | cons edge edges ih =>
    rcases cons_subset.mp there with ⟨isEdge, rest⟩
    have fits := wf.fits edge isEdge
    rw [forall_mem_cons, ← ih rest, typedEdges, filterMap_cons, filter_cons]
    cases known : drc_engine.getEdgeTypeIdx edge.edge_type with
    | none => simp [typedEdges]
    | some idx =>
      rw [Option.isSome_some, if_pos rfl, Option.map_some, forall₂_cons, Describes, edgeRect_piece wf.proper wf.rows fits,
        sidePiece_isPiece, described_iff wf.rows fits, known, typedEdges]
      simp

lemma covered_typed (wf : WellFormed db_master) (dir : EdgeDir) (x : ℚ) :
    Covered dir.horizontal (typedSegs db_master.placementBoundary db_master.gridHeight
        db_master.edge_types dir) (sideStart db_master.placementBoundary dir + ⌊x⌋) ↔
      ∃ edge ∈ db_master.edge_types, edge.edge_dir = dir ∧ Contains (Prod.map Int.cast Int.cast
        (readPiece db_master.placementBoundary db_master.gridHeight edge)) x := by
  simp only [Covered, typedSegs, mem_map, mem_filter, decide_eq_true_eq, exists_exists_and_eq_and]
  simp only [and_assoc]
  refine exists_congr fun edge => and_congr_right fun there => and_congr_right fun isDir => ?_
  rw [edgeRect_piece wf.proper wf.rows (wf.fits edge there), isDir, sidePiece, lo_segmentOn,
    hi_segmentOn, Contains, Prod.map_fst, Prod.map_snd, ← Int.le_floor, ← Int.floor_lt]
  omega

lemma defaultEdges_spec (wf : WellFormed db_master) (dir : EdgeDir) :
    (∀ edge ∈ defaultEdges drc_engine db_master.placementBoundary db_master.gridHeight
        db_master.edge_types dir, OnSide db_master.placementBoundary dir edge.bbox) ∧
    ((drc_engine.getEdgeTypeIdx "DEFAULT").isSome → ∀ x : ℚ, 0 ≤ x →
      x < sideLength db_master.placementBoundary dir →
      (Covers db_master.placementBoundary dir (defaultEdges drc_engine
          db_master.placementBoundary db_master.gridHeight db_master.edge_types dir) x ↔
        ¬ ∃ edge ∈ db_master.edge_types, edge.edge_dir = dir ∧ Contains
          (Prod.map Int.cast Int.cast
            (readPiece db_master.placementBoundary db_master.gridHeight edge)) x)) := by
  have ends := side_ends wf.proper dir
  have along : ∀ seg ∈ typedSegs db_master.placementBoundary db_master.gridHeight
      db_master.edge_types dir, Along (level (getBoundarySegment db_master.placementBoundary dir))
        (getBoundarySegment db_master.placementBoundary dir) seg := by
    intro seg member
    rcases mem_map.mp member with ⟨edge, isEdge, rfl⟩
    rcases mem_filter.mp isEdge with ⟨there, isDir⟩
    have fits := wf.fits edge there
    rcases readPiece_fits wf.proper wf.rows fits with ⟨start, order, within, stop⟩
    rw [edgeRect_piece wf.proper wf.rows fits]
    rw [of_decide_eq_true isDir] at within stop ⊢
    exact sidePiece_along start order within fun upright => stop (.inl upright)
  have spec := difference_spec ends.1 ends.2 along
  rw [defaultEdges]
  cases drc_engine.getEdgeTypeIdx "DEFAULT" with
  | none => exact ⟨fun _ member => (not_mem_nil member).elim, fun known => nomatch known⟩
  | some idx =>
    constructor
    · intro edge member
      rcases mem_map.mp member with ⟨gap, isGap, rfl⟩
      rcases spec.1 gap isGap with ⟨lo, hi, rfl, start, order, stop⟩
      exact onSide_segmentOn start order stop
    · intro _ x start stop
      have same : level (getBoundarySegment db_master.placementBoundary dir) =
          dir.horizontal := by
        rcases level_or_flat db_master.placementBoundary dir with same | ⟨upright, flat⟩
        · exact same
        · rw [sideLength_eq, upright, if_neg Bool.false_ne_true, flat, sub_self] at stop
          exact absurd stop (not_lt.mpr (by exact_mod_cast start))
      have first := Int.le_floor.mpr (by exact_mod_cast start : ((0 : Int) : ℚ) ≤ x)
      have last := Int.floor_lt.mpr stop
      rw [sideLength] at last
      have cover := spec.2 (sideStart db_master.placementBoundary dir + ⌊x⌋)
        (by rw [same, ← sideStart]; omega) (by rw [same]; omega)
      rw [same, covered_typed wf dir x] at cover
      rw [← cover, Covers, Covered]
      simp only [mem_map, exists_exists_and_eq_and, Contains]
      refine exists_congr fun seg => and_congr_right fun _ => ?_
      rw [← Int.floor_intCast_add, Int.le_floor, Int.floor_lt]

lemma EdgesPartition.read (partition : EdgesPartition drc_engine db_master)
    (wf : WellFormed db_master) (table : drc_engine.hasCellEdgeSpacingTable = true)
    (cell : db_master.spacer = false) : PiecesRead drc_engine db_master := by
  rcases partition.typed with ⟨made, isMade, described⟩
  rw [addMaster_edges table cell] at isMade
  rw [← append_cancel_right isMade] at described
  refine ⟨(typedEdges_pieces wf (List.Subset.refl _)).mp described, fun known dir x start stop => ?_⟩
  have meant := partition.complement known dir x start stop
  exact not_iff_not.mp (((defaultEdges_spec wf dir).2 known x start stop).symm.trans meant)

/-- The edges of a master divide its boundary exactly if its ranges and rows are read as they are
meant. -/
theorem edges_partition_iff (wf : WellFormed db_master)
    (table : drc_engine.hasCellEdgeSpacingTable = true) (cell : db_master.spacer = false) :
    EdgesPartition drc_engine db_master ↔ PiecesRead drc_engine db_master := by
  constructor
  · exact fun partition => partition.read wf table cell
  · intro read
    have edges := addMaster_edges table cell
    refine ⟨⟨_, edges, (typedEdges_pieces wf (List.Subset.refl _)).mpr read.known⟩, ?_, fun known dir x start stop => ?_⟩
    · intro edge member
      rw [edges] at member
      rcases mem_append.mp member with isTyped | isDefault
      · rcases mem_filterMap.mp isTyped with ⟨type, there, made⟩
        rcases Option.map_eq_some_iff.mp made with ⟨idx, known, rfl⟩
        have fits := wf.fits type there
        rcases readPiece_fits wf.proper wf.rows fits with ⟨start, order, _, stop⟩
        exact ⟨type.edge_dir, _, edgeRect_piece wf.proper wf.rows fits, start, order,
          stop (.inr (read.known type there (by rw [known]; rfl)))⟩
      · rcases mem_flatMap.mp isDefault with ⟨dir, _, onSide⟩
        exact ⟨dir, (defaultEdges_spec wf dir).1 edge onSide⟩
    · rw [(defaultEdges_spec wf dir).2 known x start stop, read.unknown known dir x start stop]

def sampleTable : PlacementDRC := ⟨[[0, 2], [2, 4]], [("DEFAULT", 0), ("A", 1)]⟩

/-- Two rows, with a range on the top and the second row on the left. -/
def sampleMaster (range_begin height : Int) : DbMaster where
  placementBoundary := ⟨0, 0, 10, height⟩
  mterms := [(.POWER, [8]), (.GROUND, [0])]
  spacer := false
  multiHeight := true
  gridHeight := 2
  edge_types := [⟨.TOP, "A", -1, -1, range_begin, 5⟩, ⟨.LEFT, "A", 2, -1, -1, -1⟩]

lemma sampleMaster_wellFormed {range_begin height : Int} (start : 0 ≤ range_begin)
    (stop : range_begin ≤ 5) (high : 0 ≤ height) : WellFormed (sampleMaster range_begin height) where
  proper := ⟨show (0 : Int) ≤ 10 by decide, high⟩
  rows := show (0 : Int) < 2 by decide
  fits := by
    intro edge member
    rcases mem_pair.mp member with rfl | rfl
    · exact ⟨fun _ => ⟨start, stop, show (5 : Int) ≤ 10 - 0 by decide⟩,
        fun none => absurd rfl none, fun none => absurd rfl none⟩
    · exact ⟨fun none => absurd rfl none, fun _ => show (1 : Int) ≤ 2 ∧ (2 : Int) ≤ 2 by decide,
        fun none => absurd rfl none⟩

lemma piecesRead_of_all (wf : WellFormed db_master) (all : ∀ edge ∈ db_master.edge_types,
    ReadExactly db_master.placementBoundary db_master.gridHeight edge) :
    PiecesRead drc_engine db_master where
  known edge there _ := all edge there
  unknown _ dir x _ _ := by
    refine exists_congr fun edge => and_congr_right fun there => and_congr_right fun _ => ?_
    have same := (described_iff wf.rows (wf.fits edge there)).mpr (all edge there)
    rw [Contains, Contains, Prod.map_fst, Prod.map_snd, same.1, same.2]

theorem edges_partition_from_start : EdgesPartition sampleTable (sampleMaster 0 8) := by
  have wf : WellFormed (sampleMaster 0 8) :=
    sampleMaster_wellFormed (by decide) (by decide) (by decide)
  refine (edges_partition_iff wf (by decide) rfl).mpr (piecesRead_of_all wf fun edge member => ?_)
  rcases mem_pair.mp member with rfl | rfl
  · refine ⟨fun _ _ => rfl, ?_, ?_⟩
    · intro upright
      cases upright
    · intro upright
      cases upright
  · refine ⟨?_, fun _ _ => show (2 : Int) ∣ 8 - 0 by decide, ?_⟩
    · intro lying
      cases lying
    · intro _ none
      cases none

/-- The range from 2 to 5 becomes an edge from 2 to 7, and of a height of seven the second row
becomes the part from 3 to 6. -/
theorem range_end_moves : (WellFormed (sampleMaster 2 8) ∧ WellFormed (sampleMaster 0 7)) ∧
      ¬ EdgesPartition sampleTable (sampleMaster 2 8) ∧
      ¬ EdgesPartition sampleTable (sampleMaster 0 7) := by
  have wide : WellFormed (sampleMaster 2 8) :=
    sampleMaster_wellFormed (by decide) (by decide) (by decide)
  have odd : WellFormed (sampleMaster 0 7) :=
    sampleMaster_wellFormed (by decide) (by decide) (by decide)
  refine ⟨⟨wide, odd⟩, fun partition => ?_, fun partition => ?_⟩
  · have read := partition.read wide (by decide) rfl
    have begins := (read.known _ mem_cons_self (by decide)).range rfl (by decide)
    exact absurd begins (by decide)
  · have read := partition.read odd (by decide) rfl
    have divides := (read.known _ (mem_cons_of_mem _ mem_cons_self) (by decide)).cell rfl (by decide)
    exact absurd divides (by decide)

end Partition

end MasterEdges

end OpenRoad.Dpl
