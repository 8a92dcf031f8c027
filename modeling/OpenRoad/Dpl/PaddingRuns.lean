import Mathlib.Data.List.TakeWhile
import OpenRoad.Dpl.PaddingDrc

/-! When the pixels of a run of paintings and erasures name the cells on them. -/

namespace OpenRoad.Dpl

open OpenRoad.Lib Function Grid PlacementState List

section

variable {grid : Grid} {types : Nat → MasterType} {s : PlacementState}

lemma length_takeWhile_mono {p q : Int → Bool} (weaker : ∀ y, p y = true → q y = true)
    (rows : List Int) : (rows.takeWhile p).length ≤ (rows.takeWhile q).length := by
  induction rows with
  | nil => exact le_rfl
  | cons y rows ih =>
    rw [takeWhile_cons, takeWhile_cons]
    by_cases holds : p y = true
    · rw [if_pos holds, if_pos (weaker y holds)]
      exact Nat.succ_le_succ ih
    · rw [if_neg holds]
      exact Nat.zero_le _

lemma gridEndY_mono {y y' : Int} (below : y ≤ y') : grid.gridEndY y ≤ grid.gridEndY y' := by
  rw [gridEndY, gridEndY, Int.ofNat_le]
  apply length_takeWhile_mono
  intro row isBelow
  exact decide_eq_true ((of_decide_eq_true isBelow).trans_le below)

lemma gridYToDbu_snap_le (origin : grid.FromOrigin) {y : Int} (inside : 0 ≤ y) :
    grid.gridYToDbu (grid.gridSnapDownY y) ≤ y := by
  rw [gridYToDbu, gridSnapDownY]
  have rows := origin.rows
  cases isRows : grid.row_index_to_y_dbu with
  | nil =>
    rw [isRows] at rows
    cases rows
  | cons first rest =>
    rw [isRows, head?_cons, Option.some.injEq] at rows
    have kept : (first :: rest).takeWhile (· ≤ y) = first :: rest.takeWhile (· ≤ y) := by
      rw [takeWhile_cons, rows, if_pos (decide_eq_true inside)]
    have shorter : (rest.takeWhile (· ≤ y)).length ≤ rest.length :=
      (takeWhile_sublist _).length_le
    rw [kept, length_cons, Nat.add_sub_cancel, length_cons, if_neg (by omega), rowY,
      isRows, Int.toNat_natCast]
    have bound : (rest.takeWhile (· ≤ y)).length < (first :: rest.takeWhile (· ≤ y)).length :=
      Nat.lt_succ_self _
    have isPlace : (first :: rest).getD (rest.takeWhile (· ≤ y)).length 0 =
        (first :: rest.takeWhile (· ≤ y))[(rest.takeWhile (· ≤ y)).length] := by
      have isPrefix : first :: rest.takeWhile (· ≤ y) <+: first :: rest := by
        rw [← kept]
        exact takeWhile_prefix _
      rw [getD_eq_getElem _ _ (by rw [length_cons]; omega)]
      exact (isPrefix.getElem bound).symm
    rw [isPlace]
    have member : (first :: rest.takeWhile (· ≤ y))[(rest.takeWhile (· ≤ y)).length] ∈
        (first :: rest).takeWhile (· ≤ y) := by
      rw [kept]
      exact getElem_mem bound
    have holds := mem_takeWhile_imp member
    exact of_decide_eq_true holds

lemma divCeil_add_mul (a k : Int) {b : Int} (positive : 0 < b) :
    divCeil (a + k * b) b = divCeil a b + k := by
  have apart : -(a + k * b) = -a + -k * b := by ring
  rw [divCeil, divCeil, apart, Int.add_mul_ediv_right _ _ positive.ne']
  ring

lemma divCeil_mono {a a' b : Int} (positive : 0 < b) (below : a ≤ a') :
    divCeil a b ≤ divCeil a' b :=
  neg_le_neg (Int.ediv_le_ediv positive (neg_le_neg below))

lemma coversPadded_of_paddedRange (origin : grid.FromOrigin) {cell : Node}
    (inside : 0 ≤ cell.left ∧ 0 ≤ cell.bottom) {x y : Int} (isPixel : grid.Inside x y)
    (range : grid.paddedRange cell (grid.pixelX cell) (grid.pixelY cell) x y) :
    grid.coversPadded cell x y := by
  have sites := origin.sites
  have isX : grid.pixelX cell = cell.left / grid.site_width :=
    Int.tdiv_eq_ediv_of_nonneg inside.1
  have low : grid.pixelX cell * grid.site_width ≤ cell.left := by
    rw [isX]
    exact Int.ediv_mul_le _ sites.ne'
  refine ⟨⟨?_, ?_⟩, range.2.1, range.2.2.trans_le (gridEndY_mono ?_)⟩
  · rw [gridPaddedX, gridX]
    by_cases negative : cell.left - cell.padLeft * grid.site_width < 0
    · have back : (cell.left - cell.padLeft * grid.site_width).tdiv grid.site_width ≤ 0 := by
        have opposite := Int.tdiv_nonneg (neg_nonneg.mpr negative.le) sites.le
        rw [Int.neg_tdiv] at opposite
        omega
      exact back.trans isPixel.1
    · rw [Int.tdiv_eq_ediv_of_nonneg (not_lt.mp negative), Int.sub_mul_ediv_right _ _ sites.ne',
        ← isX]
      exact range.1.1
  · rw [gridPaddedEndX, divCeil_add_mul _ _ sites]
    have wide : grid.pixelX cell + grid.gridWidth cell ≤
        divCeil (cell.left + cell.width) grid.site_width := by
      calc grid.pixelX cell + grid.gridWidth cell
          = divCeil (cell.width + grid.pixelX cell * grid.site_width) grid.site_width := by
            rw [divCeil_add_mul _ _ sites, add_comm]
            rfl
        _ ≤ divCeil (cell.left + cell.width) grid.site_width :=
            divCeil_mono sites (by omega)
    have right := range.1.2
    omega
  · exact Int.add_le_add_right (gridYToDbu_snap_le origin inside.2) _

variable {bottom left : Int}

lemma paint_pixel {n : Nat} {x y : Int} (isPixel : grid.Inside x y) :
    (pixelCall grid s (.paint n left bottom)).pixels x y =
      if grid.paintsRow (s.nodes n) (grid.gridSnapDownY bottom) y then
        let painted := if grid.gridX left ≤ x ∧ x < grid.gridX left + grid.gridWidth (s.nodes n) then
          { s.pixels x y with cell := some n, util := 1 } else s.pixels x y
        if grid.gridX left - (s.nodes n).padLeft ≤ x ∧ x < grid.gridX left ∨
            grid.gridX left + grid.gridWidth (s.nodes n) ≤ x ∧
              x < grid.gridX left + grid.gridWidth (s.nodes n) + (s.nodes n).padRight then
          { painted with padding_reserved_by := some n }
        else painted
      else s.pixels x y := by
  have isNode : (s.moveTo n left bottom).nodes n =
      { s.nodes n with left := left, bottom := bottom } := update_self ..
  simp only [pixelCall, setPlaced, setNode, paintPixel, isNode, isPixel,
    true_and]
  rfl

variable {m : Nat}

lemma paint_cell {n : Nat} {x y : Int} (isPixel : grid.Inside x y) :
    ((pixelCall grid s (.paint n left bottom)).pixels x y).cell = some m ↔
      grid.footprint (s.nodes n) (grid.gridX left) (grid.gridSnapDownY bottom) x y ∧ n = m ∨
      ¬ grid.footprint (s.nodes n) (grid.gridX left) (grid.gridSnapDownY bottom) x y ∧
        (s.pixels x y).cell = some m := by
  rw [paint_pixel isPixel, footprint]
  by_cases rows : grid.paintsRow (s.nodes n) (grid.gridSnapDownY bottom) y
  · by_cases columns : grid.gridX left ≤ x ∧ x < grid.gridX left + grid.gridWidth (s.nodes n)
    · simp only [rows, columns, if_true, and_true]
      split <;> simp
    · simp only [rows, columns, if_true, if_false, and_true, false_and, false_or, not_false_eq_true,
        true_and]
      split <;> rfl
  · simp only [rows, if_false, and_false, false_and, false_or, not_false_eq_true, true_and]

lemma paint_reserved {n : Nat} {x y : Int} (isPixel : grid.Inside x y) :
    ((pixelCall grid s (.paint n left bottom)).pixels x y).padding_reserved_by = some m ↔
      grid.strips (s.nodes n) (grid.gridX left) (grid.gridSnapDownY bottom) x y ∧ n = m ∨
      ¬ grid.strips (s.nodes n) (grid.gridX left) (grid.gridSnapDownY bottom) x y ∧
        (s.pixels x y).padding_reserved_by = some m := by
  rw [paint_pixel isPixel, strips]
  by_cases rows : grid.paintsRow (s.nodes n) (grid.gridSnapDownY bottom) y
  · by_cases beside : grid.gridX left - (s.nodes n).padLeft ≤ x ∧ x < grid.gridX left ∨
        grid.gridX left + grid.gridWidth (s.nodes n) ≤ x ∧
          x < grid.gridX left + grid.gridWidth (s.nodes n) + (s.nodes n).padRight
    · simp only [rows, beside, if_true, and_true, Option.some.injEq, not_true_eq_false, false_and,
        or_false, true_and]
    · simp only [rows, beside, if_true, if_false, and_true, false_and, false_or, not_false_eq_true,
        true_and]
      split <;> rfl
  · simp only [rows, if_false, and_false, false_and, false_or, not_false_eq_true, true_and]

lemma erase_pixel {n : Nat} {x y : Int} :
    ((((pixelCall grid s (.erase n)).pixels x y).cell = some m ↔ (s.pixels x y).cell = some m ∧
      ¬ ((grid.Inside x y ∧ grid.coversPadded (s.nodes n) x y) ∧ m = n)) ∧
    (((pixelCall grid s (.erase n)).pixels x y).padding_reserved_by = some m ↔
      (s.pixels x y).padding_reserved_by = some m ∧
      ¬ ((grid.Inside x y ∧ grid.coversPadded (s.nodes n) x y) ∧ m = n))) := by
  have clear : ∀ owner : Option Nat, (if owner = some n then none else owner) = some m ↔
      owner = some m ∧ m ≠ n := by
    intro owner
    by_cases isOwner : owner = some n
    · rw [if_pos isOwner, isOwner]
      constructor
      · intro never
        cases never
      · rintro ⟨same, differ⟩
        exact absurd (Option.some.inj same).symm differ
    · rw [if_neg isOwner]
      constructor
      · intro isM
        refine ⟨isM, ?_⟩
        intro same
        rw [isM, same] at isOwner
        exact isOwner rfl
      · exact And.left
  simp only [pixelCall, setPlaced, setNode, erasePixel]
  by_cases covers : grid.Inside x y ∧ grid.coversPadded (s.nodes n) x y
  · rw [if_pos covers]
    simp only [clear, covers, true_and, and_self]
  · rw [if_neg covers]
    simp only [covers, false_and, not_false_eq_true, and_true, and_self]

lemma paint_nodes (n : Nat) (left bottom : Int) :
    (pixelCall grid s (.paint n left bottom)).nodes = update s.nodes n
      { s.nodes n with left := left, bottom := bottom, placed := true } := by
  simp only [pixelCall, setPlaced, setNode, paintPixel,
    moveTo, update_idem, update_self]

lemma erase_nodes (n : Nat) : (pixelCall grid s (.erase n)).nodes =
    update s.nodes n { s.nodes n with placed := false } := rfl

variable {fits : PlacementState → Nat → Int → Int → Bool}

lemma checkPixels_free {n : Nat} {x y : Int} (accepted : checkPixels grid types fits s n x y = true)
    {grid_x grid_y : Int} (here : grid.footprint (s.nodes n) x y grid_x grid_y) :
    (s.pixels grid_x grid_y).cell = none := by
  simp only [checkPixels, Bool.and_eq_true, all_eq_true, mem_gridRange, decide_eq_true_eq]
    at accepted
  exact (accepted.1.1.2 grid_y here.2 grid_x here.1).2

lemma paint_unreserved {n : Nat} {x y : Int} (true' : PixelsTrue grid types s)
    (accepted : AcceptedCall grid types fits s (.paint n left bottom))
    (keeps : KeepsReservations grid types s (.paint n left bottom)) (isPixel : grid.Inside x y)
    (onPadding : grid.strips (s.nodes n) (grid.gridX left) (grid.gridSnapDownY bottom) x y) :
    (s.pixels x y).padding_reserved_by = none := by
  cases owner : (s.pixels x y).padding_reserved_by with
  | none => rfl
  | some d =>
    rcases (true'.reserved x y d isPixel).mp owner with ⟨placed, onOther⟩
    have differ : d ≠ n := by
      intro same
      rw [same, accepted.1] at placed
      cases placed
    have passes := accepted.2.2.2
    rw [checkPixels, Bool.and_eq_true] at passes
    have free := ((checkPadding_iff n _ _).mp passes.2 x y isPixel
      ((paddedRange_iff (true'.sizes n) _ _ _ _).mpr (.inr onPadding))).2
    rw [owner, Bool.eq_false_iff, ne_eq,
      hasPaddingConflict_some fun differ => true'.blocks d placed n differ.symm] at free
    have taps := keeps.1 x y d isPixel onPadding owner differ
    rw [isWellTap_iff, isWellTap_iff] at taps
    refine absurd ⟨differ, ?_⟩ free
    rcases true'.strips_padded onPadding with core | tap <;>
      rcases true'.strips_padded onOther with other | otherTap
    · rw [core, other]
      rfl
    · rw [core, otherTap]
      rfl
    · rw [tap, other]
      rfl
    · exact absurd ⟨tap, otherTap⟩ taps

lemma paint_true {n : Nat} (true' : PixelsTrue grid types s)
    (accepted : AcceptedCall grid types fits s (.paint n left bottom))
    (keeps : KeepsReservations grid types s (.paint n left bottom)) :
    PixelsTrue grid types (pixelCall grid s (.paint n left bottom)) := by
  have unreserved := fun x y => @paint_unreserved _ _ _ _ _ _ _ x y true' accepted keeps
  rcases accepted with ⟨notPlaced, leftInside, bottomInside, passes⟩
  have plain := keeps.2
  have self : (pixelCall grid s (.paint n left bottom)).nodes n =
      { s.nodes n with left := left, bottom := bottom, placed := true } := by
    rw [paint_nodes, update_self]
  have other : ∀ {m}, m ≠ n → (pixelCall grid s (.paint n left bottom)).nodes m = s.nodes m := by
    intro m differ
    rw [paint_nodes, update_of_ne differ]
  have absent : ¬ (s.nodes n).placed = true := by
    rw [notPlaced]
    exact Bool.false_ne_true
  refine ⟨?_, ?_, ?_, ?_, ?_, ?_⟩
  · intro x y m isPixel
    rw [paint_cell isPixel]
    by_cases isCell : m = n
    · rw [isCell, self]
      constructor
      · rintro (⟨here, _⟩ | ⟨_, before⟩)
        · exact ⟨rfl, here⟩
        · exact absurd ((true'.cell x y n isPixel).mp before).1 absent
      · rintro ⟨_, here⟩
        exact .inl ⟨here, rfl⟩
    · rw [other isCell, ← true'.cell x y m isPixel]
      constructor
      · rintro (⟨_, same⟩ | ⟨_, before⟩)
        · exact absurd same.symm isCell
        · exact before
      · intro before
        refine .inr ⟨?_, before⟩
        intro here
        rw [checkPixels_free passes here] at before
        cases before
  · intro x y m isPixel
    rw [paint_reserved isPixel]
    by_cases isCell : m = n
    · rw [isCell, self]
      constructor
      · rintro (⟨here, _⟩ | ⟨_, before⟩)
        · exact ⟨rfl, here⟩
        · exact absurd ((true'.reserved x y n isPixel).mp before).1 absent
      · rintro ⟨_, here⟩
        exact .inl ⟨here, rfl⟩
    · rw [other isCell, ← true'.reserved x y m isPixel]
      constructor
      · rintro (⟨_, same⟩ | ⟨_, before⟩)
        · exact absurd same.symm isCell
        · exact before
      · intro before
        refine .inr ⟨?_, before⟩
        intro here
        rw [unreserved x y isPixel here] at before
        cases before
  · intro m
    by_cases isCell : m = n
    · rw [isCell, self]
      exact true'.sizes n
    · rw [other isCell]
      exact true'.sizes m
  · intro m
    by_cases isCell : m = n
    · rw [isCell, self]
      exact true'.padded n
    · rw [other isCell]
      exact true'.padded m
  · intro m
    by_cases isCell : m = n
    · rw [isCell, self]
      exact fun _ => ⟨leftInside, bottomInside⟩
    · rw [other isCell]
      exact true'.inside m
  · intro m
    by_cases isCell : m = n
    · rw [isCell]
      exact fun _ => plain
    · rw [other isCell]
      exact true'.blocks m

lemma erase_true {n : Nat} (origin : grid.FromOrigin) (true' : PixelsTrue grid types s) :
    PixelsTrue grid types (pixelCall grid s (.erase n)) := by
  have self : (pixelCall grid s (.erase n)).nodes n = { s.nodes n with placed := false } := by
    rw [erase_nodes, update_self]
  have other : ∀ {m}, m ≠ n → (pixelCall grid s (.erase n)).nodes m = s.nodes m := by
    intro m differ
    rw [erase_nodes, update_of_ne differ]
  have covered : ∀ {x y}, grid.Inside x y → (s.nodes n).placed = true →
      grid.paddedRange (s.nodes n) (grid.pixelX (s.nodes n)) (grid.pixelY (s.nodes n)) x y →
      grid.coversPadded (s.nodes n) x y :=
    fun isPixel placed => coversPadded_of_paddedRange origin (true'.inside n placed) isPixel
  refine ⟨?_, ?_, ?_, ?_, ?_, ?_⟩
  · intro x y m isPixel
    rw [erase_pixel.1]
    by_cases isCell : m = n
    · rw [isCell, self]
      apply iff_of_false
      · rintro ⟨before, stays⟩
        have onIt := (true'.cell x y n isPixel).mp before
        exact stays ⟨⟨isPixel, covered isPixel onIt.1
          ((paddedRange_iff (true'.sizes n) _ _ _ _).mpr (.inl onIt.2))⟩, rfl⟩
      · rintro ⟨placed, _⟩
        cases placed
    · rw [other isCell, ← true'.cell x y m isPixel]
      exact and_iff_left fun gone => isCell gone.2
  · intro x y m isPixel
    rw [erase_pixel.2]
    by_cases isCell : m = n
    · rw [isCell, self]
      apply iff_of_false
      · rintro ⟨before, stays⟩
        have onIt := (true'.reserved x y n isPixel).mp before
        exact stays ⟨⟨isPixel, covered isPixel onIt.1
          ((paddedRange_iff (true'.sizes n) _ _ _ _).mpr (.inr onIt.2))⟩, rfl⟩
      · rintro ⟨placed, _⟩
        cases placed
    · rw [other isCell, ← true'.reserved x y m isPixel]
      exact and_iff_left fun gone => isCell gone.2
  · intro m
    by_cases isCell : m = n
    · rw [isCell, self]
      exact true'.sizes n
    · rw [other isCell]
      exact true'.sizes m
  · intro m
    by_cases isCell : m = n
    · rw [isCell, self]
      exact true'.padded n
    · rw [other isCell]
      exact true'.padded m
  · intro m
    by_cases isCell : m = n
    · rw [isCell, self]
      intro placed
      cases placed
    · rw [other isCell]
      exact true'.inside m
  · intro m
    by_cases isCell : m = n
    · rw [isCell, self]
      intro placed
      cases placed
    · rw [other isCell]
      exact true'.blocks m

/-- Nothing is painted yet, cells have a size and the padding that is kept for their masters. -/
structure EmptyPixels (grid : Grid) (types : Nat → MasterType) (masters : Nat → Nat)
    (padding : Padding) (s : PlacementState) : Prop where
  pixels : ∀ x y, grid.Inside x y → (s.pixels x y).cell = none ∧
    (s.pixels x y).padding_reserved_by = none
  placed : ∀ n, (s.nodes n).placed = false
  pads : ∀ n, ((s.nodes n).padLeft, (s.nodes n).padRight) = padding.pads (types n) n (masters n)
  sizes : ∀ n, 0 ≤ (s.nodes n).padLeft ∧ 0 ≤ (s.nodes n).padRight ∧ 0 ≤ grid.gridWidth (s.nodes n)

variable {masters : Nat → Nat} {padding : Padding}

lemma EmptyPixels.true' (empty : EmptyPixels grid types masters padding s) :
    PixelsTrue grid types s := by
  have absent : ∀ n, ¬ (s.nodes n).placed = true := by
    intro n
    rw [empty.placed]
    exact Bool.false_ne_true
  refine ⟨?_, ?_, empty.sizes, fun n plain => ?_, fun n placed => absurd placed (absent n),
    fun n placed => absurd placed (absent n)⟩
  · intro x y n isPixel
    rw [(empty.pixels x y isPixel).1]
    exact iff_of_false (by simp) fun onIt => absent n onIt.1
  · intro x y n isPixel
    rw [(empty.pixels x y isPixel).2]
    exact iff_of_false (by simp) fun onIt => absent n onIt.1
  · have pads := empty.pads n
    rw [Padding.pads, plain] at pads
    exact Prod.mk.inj pads

/-- The check is the rule of the table if no well tap takes a reservation from another one. -/
theorem padding_check_exact {fits : PlacementState → Nat → Int → Int → Bool}
    {calls : List PixelCall} (origin : grid.FromOrigin) (empty : EmptyPixels grid types masters padding s)
    (accepted : EachCall (pixelCall grid) (AcceptedCall grid types fits) s calls)
    (keeps : EachCall (pixelCall grid) (KeepsReservations grid types) s calls) :
    Throughout (pixelCall grid) (PaddingExact grid types) s calls := by
  have both : EachCall (pixelCall grid)
      (fun s call => AcceptedCall grid types fits s call ∧ KeepsReservations grid types s call)
      s calls := fun front call isFront => ⟨accepted front call isFront, keeps front call isFront⟩
  have start : PixelsTrue grid types s := empty.true'
  apply throughout_mono fun s => PixelsTrue.exact
  apply throughout_of_each _ start both
  intro s call true' allowed
  cases call with
  | paint n left bottom => exact paint_true true' allowed.1 allowed.2
  | erase n => exact erase_true origin true'

end

def paddingGrid : Grid := ⟨1, [0, 10], 20, 20, 2, fun _ _ _ => some .R0⟩

/-- Cells of one site with the padding of their types, none of them placed. -/
def paddedCells (types : Nat → MasterType) (padding : Padding) : PlacementState where
  nodes := fun n =>
    { left := 0, bottom := 0, width := 1, height := 10, padLeft := (padding.pads (types n) n 0).1
      padRight := (padding.pads (types n) n 0).2, placed := false }
  pixels := fun _ _ => ⟨none, 0, none⟩
  cellsInSeg := fun _ => []
  segUtil := fun _ => 0
  reverseCellToSegs := fun _ => []

def acceptAll : PlacementState → Nat → Int → Int → Bool := fun _ _ _ _ => true

def tapTypes : Nat → MasterType := fun n => if n ≤ 1 then .CORE_WELLTAP else .CORE

def tapPadding : Padding := ⟨0, 0, fun n => [(0, 2), (2, 0), (1, 0)][n]?, fun _ => none⟩

def tapCalls : List PixelCall := [.paint 0 0 0, .paint 1 4 0, .erase 1]

def blockTypes : Nat → MasterType := fun n => if n = 1 then .BLOCK_SOFT else .BLOCK

/-- A well tap takes the reservation of another one and is erased; the next cell is let into the
padding of the first tap. -/
theorem tap_takes_reservation :
    EachCall (pixelCall paddingGrid) (AcceptedCall paddingGrid tapTypes acceptAll)
        (paddedCells tapTypes tapPadding) tapCalls ∧
      ¬ PaddingExact paddingGrid tapTypes (run (pixelCall paddingGrid)
        (paddedCells tapTypes tapPadding) tapCalls) ∧
      EachCall (pixelCall paddingGrid) (AcceptedCall paddingGrid blockTypes acceptAll)
        (paddedCells blockTypes tapPadding) [.paint 0 0 0] ∧
      ¬ PaddingExact paddingGrid blockTypes (run (pixelCall paddingGrid)
        (paddedCells blockTypes tapPadding) [.paint 0 0 0]) := by
  refine ⟨?_, ?_, ?_, ?_⟩
  · rw [tapCalls, eachCall_cons, eachCall_cons, eachCall_cons]
    exact ⟨⟨rfl, by decide, by decide, by decide⟩,
      ⟨rfl, by decide, by decide, by decide⟩, trivial, eachCall_nil⟩
  · intro exact'
    have passes : checkPadding paddingGrid tapTypes (run (pixelCall paddingGrid)
        (paddedCells tapTypes tapPadding) tapCalls) 2 3 0 = true := by
      decide
    have rule := (exact' 2 3 0).mp passes 0 (by decide) (by decide) (by decide) 2 0
    revert rule
    rw [paddedRange, paddedRange]
    decide
  · rw [eachCall_cons]
    exact ⟨⟨rfl, by decide, by decide, by decide⟩, eachCall_nil⟩
  · intro exact'
    have rule : PaddingFree paddingGrid blockTypes (run (pixelCall paddingGrid)
        (paddedCells blockTypes tapPadding) [.paint 0 0 0]) 1 0 0 := by
      intro d differ _ forbids
      have isBlock : blockTypes d = .BLOCK := if_neg differ
      rw [isBlock] at forbids
      cases forbids
    have passes := (exact' 1 0 0).mpr rule
    revert passes
    decide

def oneTapTypes : Nat → MasterType := fun n => if n = 1 then .CORE_WELLTAP else .CORE

/-- Two cells and a tap between them, each beside the padding of the others. -/
theorem padding_check_exact_sample :
    Throughout (pixelCall paddingGrid) (PaddingExact paddingGrid oneTapTypes)
      (paddedCells oneTapTypes tapPadding)
      [.paint 0 0 0, .paint 1 5 0, .paint 2 7 0, .erase 0, .paint 0 2 10] := by
  have origin : paddingGrid.FromOrigin := ⟨by decide, rfl⟩
  have empty : EmptyPixels paddingGrid oneTapTypes (fun _ => 0) tapPadding
      (paddedCells oneTapTypes tapPadding) := by
    refine ⟨fun _ _ _ => ⟨rfl, rfl⟩, fun _ => rfl, fun _ => rfl, fun n => ?_⟩
    have pads : ∀ type, 0 ≤ (tapPadding.pads type n 0).1 ∧ 0 ≤ (tapPadding.pads type n 0).2 := by
      intro type
      rw [Padding.pads]
      split
      · rcases n with _ | _ | _ | n
        · decide
        · decide
        · decide
        · exact ⟨le_refl (0 : Int), le_refl (0 : Int)⟩
      · decide
    exact ⟨(pads _).1, (pads _).2, by change 0 ≤ divCeil 1 1; decide⟩
  have others : ∀ n, n ≠ 1 → isWellTap (oneTapTypes n) = false := by
    intro n differ
    rw [oneTapTypes, if_neg differ]
    rfl
  have keeps : ∀ s call, KeepsReservations paddingGrid oneTapTypes s call := by
    intro s call
    cases call with
    | erase => trivial
    | paint n left bottom =>
      refine ⟨fun x y d _ _ _ differ => ?_, fun c _ => ?_⟩
      · rintro ⟨tap, otherTap⟩
        by_cases isTap : n = 1
        · rw [others d (isTap ▸ differ)] at otherTap
          cases otherTap
        · rw [others n isTap] at tap
          cases tap
      · rw [oneTapTypes, oneTapTypes]
        split <;> split <;> decide
  apply @padding_check_exact paddingGrid _ _ _ _ acceptAll _ origin empty
  · simp only [eachCall_cons]
    exact ⟨⟨rfl, by decide, by decide, by decide⟩,
      ⟨rfl, by decide, by decide, by decide⟩,
      ⟨rfl, by decide, by decide, by decide⟩, trivial,
      ⟨rfl, by decide, by decide, by decide⟩, eachCall_nil⟩
  · exact fun front call _ => keeps _ call

end OpenRoad.Dpl
