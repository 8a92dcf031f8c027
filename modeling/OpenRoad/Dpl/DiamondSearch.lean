import Mathlib.Data.List.GetD
import OpenRoad.Dpl.Journal
import OpenRoad.Lib.BestFirst

/-! The search for the nearest place of a cell, from a start through neighbours inside a window. -/

namespace OpenRoad.Dpl

open Lib

structure GridPt where
  x : Int
  y : Int
deriving DecidableEq

structure GridRect where
  xlo : Int
  ylo : Int
  xhi : Int
  yhi : Int
deriving DecidableEq

def Grid.gridWithin (grid : Grid) (rect : Rect) : GridRect where
  xlo := divCeil rect.xMin grid.site_width
  ylo := grid.gridEndY rect.yMin
  xhi := rect.xMax / grid.site_width
  yhi := grid.gridSnapDownY rect.yMax

def GridRect.closestPtInside (rect : GridRect) (pt : GridPt) : GridPt where
  x := min (max pt.x (min rect.xlo rect.xhi)) (max rect.xlo rect.xhi)
  y := min (max pt.y (min rect.ylo rect.yhi)) (max rect.ylo rect.yhi)

/-- The placer; `checkPixels` is what it finds of a cell from one corner to another. -/
structure Opendp where
  grid : Grid
  max_displacement_x : Int
  max_displacement_y : Int
  checkPixels : Node → Int → Int → Int → Int → Bool

namespace Opendp

variable (opendp : Opendp) (cell : Node) (group : Option Rect) (center : GridPt)

/-- The displacement limits, in the group of the cell if it has one. -/
def boundary : GridPt × GridPt :=
  let low : GridPt := ⟨center.x - opendp.max_displacement_x, center.y - opendp.max_displacement_y⟩
  let high : GridPt := ⟨center.x + opendp.max_displacement_x, center.y + opendp.max_displacement_y⟩
  match group with
  | none => (low, high)
  | some bbox =>
    let grid_boundary := opendp.grid.gridWithin bbox
    (grid_boundary.closestPtInside low, grid_boundary.closestPtInside high)

/-- The limits, clipped to the bounds of the grid. -/
def limits : GridRect where
  xlo := max 0 (opendp.boundary group center).1.x
  ylo := max 0 (opendp.boundary group center).1.y
  xhi := min opendp.grid.row_site_count (opendp.boundary group center).2.x
  yhi := min opendp.grid.row_count (opendp.boundary group center).2.y

def inLimits (point : GridPt) : Bool :=
  ¬ (point.x < (opendp.limits group center).xlo ∨ (opendp.limits group center).xhi < point.x ∨
    point.y < (opendp.limits group center).ylo ∨ (opendp.limits group center).yhi < point.y)

def calcDist (p0 p1 : GridPt) : Int :=
  |p0.x - p1.x| * opendp.grid.site_width +
    |opendp.grid.gridYToDbu p0.y - opendp.grid.gridYToDbu p1.y|

def canBePlaced (bin : GridPt) : Bool :=
  if opendp.grid.row_count ≤ bin.y then false
  else opendp.checkPixels cell bin.x bin.y (bin.x + opendp.grid.gridWidth cell)
    (opendp.grid.gridEndY (opendp.grid.gridYToDbu bin.y + cell.height))

def neighbors (nearest : GridPt) : List GridPt :=
  [⟨nearest.x - 1, nearest.y⟩, ⟨nearest.x + 1, nearest.y⟩, ⟨nearest.x, nearest.y - 1⟩,
    ⟨nearest.x, nearest.y + 1⟩]

def diamondSearch (fuel : Nat) : Option (Option GridPt) :=
  bestFirst neighbors (opendp.inLimits group center) (opendp.calcDist center)
    (opendp.canBePlaced cell) fuel (searchFrom center)

/-- A place inside the window that is nearest to the start, or none where there is none. -/
structure Nearest (result : Option GridPt) : Prop where
  found : ∀ point, result = some point → opendp.inLimits group center point = true ∧
    opendp.canBePlaced cell point = true ∧ ∀ other, opendp.inLimits group center other = true →
      opendp.canBePlaced cell other = true →
        opendp.calcDist center point ≤ opendp.calcDist center other
  notFound : result = none → ∀ other, opendp.inLimits group center other = true →
    opendp.canBePlaced cell other = false

def FindsNearest : Prop :=
  ∃ fuel result, opendp.diamondSearch cell group center fuel = some result ∧
    opendp.Nearest cell group center result

/-- The start is in the window; or it is no place itself, and next to the window unless that has no
place. -/
def StartServes : Prop :=
  opendp.inLimits group center center = true ∨
    opendp.canBePlaced cell center = false ∧
      ((∃ neighbor ∈ neighbors center, opendp.inLimits group center neighbor = true) ∨
        ∀ point, opendp.inLimits group center point = true → opendp.canBePlaced cell point = false)

end Opendp

structure Grid.RowsInOrder (grid : Grid) : Prop where
  width : 0 < grid.site_width
  ascending : grid.row_index_to_y_dbu.Pairwise (· < ·)
  count : grid.row_count + 1 = grid.row_index_to_y_dbu.length

lemma Grid.gridYToDbu_mono {grid : Grid} (rows : grid.RowsInOrder) {a b : Int} (low : 0 ≤ a)
    (le : a ≤ b) (high : b ≤ grid.row_count) : grid.gridYToDbu a ≤ grid.gridYToDbu b := by
  have count := rows.count
  have aRow : a.toNat < grid.row_index_to_y_dbu.length := by omega
  have bRow : b.toNat < grid.row_index_to_y_dbu.length := by omega
  rw [Grid.gridYToDbu, Grid.gridYToDbu, if_neg (by omega), if_neg (by omega), Grid.rowY, Grid.rowY,
    List.getD_eq_getElem _ _ aRow, List.getD_eq_getElem _ _ bRow]
  rcases le.eq_or_lt with same | less
  · simp only [same, le_refl]
  · exact (List.pairwise_iff_getElem.mp rows.ascending _ _ aRow bRow (by omega)).le

namespace Opendp

variable {opendp : Opendp} {cell : Node} {group : Option Rect} {center : GridPt}

lemma inLimits_iff (point : GridPt) : opendp.inLimits group center point = true ↔
    ((opendp.limits group center).xlo ≤ point.x ∧ point.x ≤ (opendp.limits group center).xhi) ∧
      (opendp.limits group center).ylo ≤ point.y ∧ point.y ≤ (opendp.limits group center).yhi := by
  rw [inLimits, decide_eq_true_eq]
  omega

lemma limits_bounds : 0 ≤ (opendp.limits group center).ylo ∧
    (opendp.limits group center).yhi ≤ opendp.grid.row_count :=
  ⟨le_max_left _ _, min_le_left _ _⟩

lemma calcDist_stepX (width : 0 ≤ opendp.grid.site_width) {x x' y : Int}
    (closer : |center.x - x'| ≤ |center.x - x|) :
    opendp.calcDist center ⟨x', y⟩ ≤ opendp.calcDist center ⟨x, y⟩ := by
  rw [calcDist, calcDist]
  exact add_le_add_left (mul_le_mul_of_nonneg_right closer width) _

lemma calcDist_stepY (rows : opendp.grid.RowsInOrder) {x y y' : Int}
    (inRows : ∀ row ∈ [center.y, y], 0 ≤ row ∧ row ≤ opendp.grid.row_count)
    (between : center.y ≤ y' ∧ y' ≤ y ∨ y ≤ y' ∧ y' ≤ center.y) :
    opendp.calcDist center ⟨x, y'⟩ ≤ opendp.calcDist center ⟨x, y⟩ := by
  have start := inRows center.y List.mem_cons_self
  have point := inRows y (List.mem_cons_of_mem _ List.mem_cons_self)
  rw [calcDist, calcDist]
  apply add_le_add_right
  rcases between with ⟨above, below⟩ | ⟨above, below⟩
  · have first := Grid.gridYToDbu_mono rows start.1 above (below.trans point.2)
    have second := Grid.gridYToDbu_mono rows (start.1.trans above) below point.2
    rw [abs_sub_comm, abs_of_nonneg (sub_nonneg.mpr first), abs_sub_comm,
      abs_of_nonneg (sub_nonneg.mpr (first.trans second))]
    omega
  · have first := Grid.gridYToDbu_mono rows point.1 above (below.trans start.2)
    have second := Grid.gridYToDbu_mono rows (point.1.trans above) below start.2
    rw [abs_of_nonneg (sub_nonneg.mpr second), abs_of_nonneg (sub_nonneg.mpr (first.trans second))]
    omega

def rank (center point : GridPt) : Nat := (center.x - point.x).natAbs + (center.y - point.y).natAbs

lemma step_inside {cx cy px py xlo xhi ylo yhi : Int} (apart : ¬ (px = cx ∧ py = cy))
    (inside : (xlo ≤ px ∧ px ≤ xhi) ∧ ylo ≤ py ∧ py ≤ yhi)
    (near : ∃ x y, ((xlo ≤ x ∧ x ≤ xhi) ∧ ylo ≤ y ∧ y ≤ yhi) ∧
      (x = cx ∧ y - 1 ≤ cy ∧ cy ≤ y + 1 ∨ y = cy ∧ x - 1 ≤ cx ∧ cx ≤ x + 1)) :
    (px < cx ∧ (px + 1 = cx ∧ py = cy ∨ px + 1 ≤ xhi)) ∨
    (cx < px ∧ (px - 1 = cx ∧ py = cy ∨ xlo ≤ px - 1)) ∨
    (py < cy ∧ (px = cx ∧ py + 1 = cy ∨ py + 1 ≤ yhi)) ∨
    (cy < py ∧ (px = cx ∧ py - 1 = cy ∨ ylo ≤ py - 1)) := by
  rcases near with ⟨x, y, inLimits, beside⟩
  rcases lt_trichotomy px cx with left | same | right
  · by_cases room : px + 1 ≤ xhi
    · exact .inl ⟨left, .inr room⟩
    · omega
  · omega
  · by_cases room : xlo ≤ px - 1
    · exact .inr (.inl ⟨right, .inr room⟩)
    · omega

def Near (opendp : Opendp) (group : Option Rect) (center : GridPt) : Prop :=
  opendp.inLimits group center center = true ∨
    ∃ neighbor ∈ neighbors center, opendp.inLimits group center neighbor = true

lemma near_beside (near : Near opendp group center) :
    ∃ x y, (((opendp.limits group center).xlo ≤ x ∧ x ≤ (opendp.limits group center).xhi) ∧
        (opendp.limits group center).ylo ≤ y ∧ y ≤ (opendp.limits group center).yhi) ∧
      (x = center.x ∧ y - 1 ≤ center.y ∧ center.y ≤ y + 1 ∨
        y = center.y ∧ x - 1 ≤ center.x ∧ center.x ≤ x + 1) := by
  rcases near with inWindow | ⟨neighbor, beside, inWindow⟩
  · exact ⟨center.x, center.y, (inLimits_iff _).mp inWindow, by omega⟩
  · refine ⟨neighbor.x, neighbor.y, (inLimits_iff _).mp inWindow, ?_⟩
    simp only [neighbors, List.mem_cons, List.not_mem_nil, or_false] at beside
    rcases beside with rfl | rfl | rfl | rfl
    · dsimp only
      omega
    · dsimp only
      omega
    · dsimp only
      omega
    · dsimp only
      omega

lemma window_approached (rows : opendp.grid.RowsInOrder)
    (inGrid : 0 ≤ center.y ∧ center.y ≤ opendp.grid.row_count) (near : Near opendp group center) :
    Approached neighbors (opendp.inLimits group center) (opendp.calcDist center) center
      (rank center) := by
  rintro ⟨x, y⟩ isInside notStart
  have bounds := @limits_bounds opendp group center
  have inside := (inLimits_iff _).mp isInside
  dsimp only at inside
  have inRows : ∀ row ∈ [center.y, y], 0 ≤ row ∧ row ≤ opendp.grid.row_count := by
    intro row member
    rcases List.mem_pair.mp member with rfl | rfl
    · exact inGrid
    · omega
  have apart : ¬ (x = center.x ∧ y = center.y) := by
    rintro ⟨rfl, rfl⟩
    exact notStart rfl
  have isOpen : ∀ x' y', (x' = center.x ∧ y' = center.y ∨
      ((opendp.limits group center).xlo ≤ x' ∧ x' ≤ (opendp.limits group center).xhi) ∧
        (opendp.limits group center).ylo ≤ y' ∧ y' ≤ (opendp.limits group center).yhi) →
      Open (opendp.inLimits group center) center ⟨x', y'⟩ := by
    rintro x' y' (⟨rfl, rfl⟩ | inWindow)
    · exact .inl rfl
    · exact .inr ((inLimits_iff _).mpr inWindow)
  rcases step_inside apart inside (near_beside near) with
    ⟨left, room⟩ | ⟨right, room⟩ | ⟨below, room⟩ | ⟨above, room⟩
  · refine ⟨⟨x + 1, y⟩, isOpen _ _ (by omega), by simp [neighbors],
      calcDist_stepX rows.width.le (abs_le_abs_of_nonneg (by omega) (by omega)), ?_⟩
    rw [rank, rank]
    dsimp only
    omega
  · refine ⟨⟨x - 1, y⟩, isOpen _ _ (by omega), by simp [neighbors],
      calcDist_stepX rows.width.le (abs_le_abs_of_nonpos (by omega) (by omega)), ?_⟩
    rw [rank, rank]
    dsimp only
    omega
  · refine ⟨⟨x, y + 1⟩, isOpen _ _ (by omega), by simp [neighbors],
      calcDist_stepY rows inRows (by omega), ?_⟩
    rw [rank, rank]
    dsimp only
    omega
  · refine ⟨⟨x, y - 1⟩, isOpen _ _ (by omega), by simp [neighbors],
      calcDist_stepY rows inRows (by omega), ?_⟩
    rw [rank, rank]
    dsimp only
    omega

noncomputable def reachable (opendp : Opendp) (group : Option Rect) (center : GridPt) : Finset GridPt :=
  insert center ((Finset.Icc (opendp.limits group center).xlo (opendp.limits group center).xhi ×ˢ
    Finset.Icc (opendp.limits group center).ylo (opendp.limits group center).yhi).image
      fun pair => ⟨pair.1, pair.2⟩)

lemma open_reachable (point : GridPt)
    (isOpen : Open (opendp.inLimits group center) center point) :
    point ∈ reachable opendp group center := by
  rcases isOpen with rfl | inWindow
  · exact Finset.mem_insert_self _ _
  · apply Finset.mem_insert_of_mem
    rw [Finset.mem_image]
    refine ⟨(point.x, point.y), ?_, rfl⟩
    rw [Finset.mem_product, Finset.mem_Icc, Finset.mem_Icc]
    exact (inLimits_iff point).mp inWindow

lemma calcDist_self (opendp : Opendp) (center : GridPt) : opendp.calcDist center center = 0 := by
  simp [calcDist]

lemma diamondSearch_ends (opendp : Opendp) (cell : Node) (group : Option Rect) (center : GridPt) :
    ∃ fuel result, opendp.diamondSearch cell group center fuel = some result := by
  refine ⟨(reachable opendp group center).card + 1, Option.isSome_iff_exists.mp ?_⟩
  apply bestFirst_ends open_reachable (searchFrom_searching (calcDist_self opendp center))
  rw [Finset.card_empty]
  omega

lemma diamondSearch_nearest (rows : opendp.grid.RowsInOrder)
    (inGrid : 0 ≤ center.y ∧ center.y ≤ opendp.grid.row_count) (near : Near opendp group center)
    (noLure : opendp.inLimits group center center = true ∨ opendp.canBePlaced cell center = false) :
    opendp.FindsNearest cell group center := by
  rcases diamondSearch_ends opendp cell group center with ⟨fuel, result, ends⟩
  have spec := bestFirst_nearest (window_approached rows inGrid near)
    (searchFrom_searching (calcDist_self opendp center)) ends
  refine ⟨fuel, result, ends, ?_, ?_⟩
  · intro point found
    rcases spec.1 point found with ⟨isOpen, isPlace, least⟩
    refine ⟨?_, isPlace, fun other inWindow => least other (.inr inWindow)⟩
    rcases isOpen with rfl | inWindow
    · rcases noLure with inWindow | noPlace
      · exact inWindow
      · rw [noPlace] at isPlace
        cases isPlace
    · exact inWindow
  · intro isNone other inWindow
    exact spec.2 isNone other (.inr inWindow)

lemma diamondSearch_lured {fuel : Nat} {result : Option GridPt}
    (isPlace : opendp.canBePlaced cell center = true)
    (ends : opendp.diamondSearch cell group center fuel = some result) : result = some center := by
  cases fuel with
  | zero => cases ends
  | succ fuel =>
    rw [diamondSearch, bestFirst_start isPlace, Option.some.injEq] at ends
    exact ends.symm

lemma diamondSearch_away (noPlace : opendp.canBePlaced cell center = false)
    (away : ∀ neighbor ∈ neighbors center, opendp.inLimits group center neighbor = false)
    {fuel : Nat} {result : Option GridPt}
    (ends : opendp.diamondSearch cell group center fuel = some result) : result = none := by
  cases fuel with
  | zero => cases ends
  | succ fuel =>
    rw [diamondSearch, bestFirst_first, if_neg (by rw [noPlace]; exact Bool.false_ne_true),
      visits_outside away] at ends
    cases fuel with
    | zero => cases ends
    | succ fuel =>
      rw [bestFirst, Option.some.injEq] at ends
      exact ends.symm

/-- The search finds the nearest place of the window just when its start serves. -/
theorem diamond_search_nearest_iff (opendp : Opendp) (cell : Node) (group : Option Rect)
    (center : GridPt) (rows : opendp.grid.RowsInOrder)
    (inGrid : opendp.grid.Inside center.x center.y) :
    opendp.FindsNearest cell group center ↔ opendp.StartServes cell group center := by
  have inRows : 0 ≤ center.y ∧ center.y ≤ opendp.grid.row_count := ⟨inGrid.2.2.1, inGrid.2.2.2.le⟩
  constructor
  · rintro ⟨fuel, result, ends, nearest⟩
    cases isPlace : opendp.canBePlaced cell center with
    | true =>
      exact .inl (nearest.found center (diamondSearch_lured isPlace ends)).1
    | false =>
      refine .inr ⟨isPlace, ?_⟩
      by_cases beside : ∃ neighbor ∈ neighbors center, opendp.inLimits group center neighbor = true
      · exact .inl beside
      · have away : ∀ neighbor ∈ neighbors center,
            opendp.inLimits group center neighbor = false := by
          intro neighbor member
          by_contra inWindow
          exact beside ⟨neighbor, member, Bool.not_eq_false _ ▸ inWindow⟩
        exact .inr (nearest.notFound (diamondSearch_away isPlace away ends))
  · rintro (inWindow | ⟨noPlace, beside | noPlaces⟩)
    · exact diamondSearch_nearest rows inRows (.inl inWindow) (.inl inWindow)
    · exact diamondSearch_nearest rows inRows (.inr beside) (.inr noPlace)
    · by_cases near : Near opendp group center
      · exact diamondSearch_nearest rows inRows near (.inr noPlace)
      · have away : ∀ neighbor ∈ neighbors center,
            opendp.inLimits group center neighbor = false := by
          intro neighbor member
          by_contra inWindow
          exact near (.inr ⟨neighbor, member, Bool.not_eq_false _ ▸ inWindow⟩)
        rcases diamondSearch_ends opendp cell group center with ⟨fuel, result, ends⟩
        have isNone := diamondSearch_away noPlace away ends
        refine ⟨fuel, result, ends, ?_, fun _ => noPlaces⟩
        intro point found
        rw [isNone] at found
        cases found

def oneRow : Opendp where
  grid := ⟨1, [0, 10], 10, 10, 1, fun _ _ _ => some .R0⟩
  max_displacement_x := 20
  max_displacement_y := 2
  checkPixels := fun _ x _ _ _ => 5 ≤ x

def oneSiteCell : Node where
  left := 0
  bottom := 0
  width := 1
  height := 10

lemma oneRow_inOrder : oneRow.grid.RowsInOrder where
  width := by decide
  ascending := by decide
  count := by decide

/-- Without a group, the whole row is searched. -/
theorem diamond_search_nearest_iff_ungrouped : oneRow.FindsNearest oneSiteCell none ⟨0, 0⟩ :=
  (diamond_search_nearest_iff oneRow oneSiteCell none ⟨0, 0⟩ oneRow_inOrder (by decide)).mpr
    (.inl (by decide))

/-- From a start away from the group, none of its places is found. -/
theorem group_not_reached : oneRow.grid.RowsInOrder ∧ oneRow.grid.Inside 0 0 ∧
    oneRow.diamondSearch oneSiteCell (some ⟨5, 0, 9, 10⟩) ⟨0, 0⟩ 2 = some none ∧
    oneRow.inLimits (some ⟨5, 0, 9, 10⟩) ⟨0, 0⟩ ⟨5, 0⟩ = true ∧
    oneRow.canBePlaced oneSiteCell ⟨5, 0⟩ = true ∧
    ¬ oneRow.FindsNearest oneSiteCell (some ⟨5, 0, 9, 10⟩) ⟨0, 0⟩ := by
  refine ⟨oneRow_inOrder, by decide, by decide, by decide, by decide, ?_⟩
  rintro ⟨fuel, result, ends, nearest⟩
  have isNone := diamondSearch_away (by decide) (by decide) ends
  exact absurd (nearest.notFound isNone ⟨5, 0⟩ (by decide)) (by decide)

end Opendp

end OpenRoad.Dpl
