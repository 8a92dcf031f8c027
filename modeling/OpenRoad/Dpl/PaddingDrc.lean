import OpenRoad.Dpl.CheckPlacement
import OpenRoad.Lib.Runs

/-! The padding of cells kept in the pixels, and the rule it stands for. -/

namespace OpenRoad.Dpl

open OpenRoad.Lib

inductive MasterType
  | COVER
  | COVER_BUMP
  | RING
  | BLOCK
  | BLOCK_BLACKBOX
  | BLOCK_SOFT
  | PAD
  | PAD_AREAIO
  | PAD_INPUT
  | PAD_OUTPUT
  | PAD_INOUT
  | PAD_POWER
  | PAD_SPACER
  | CORE
  | CORE_ANTENNACELL
  | CORE_FEEDTHRU
  | CORE_TIEHIGH
  | CORE_TIELOW
  | CORE_SPACER
  | CORE_WELLTAP
  | ENDCAP
  | ENDCAP_PRE
  | ENDCAP_POST
  | ENDCAP_TOPLEFT
  | ENDCAP_TOPRIGHT
  | ENDCAP_BOTTOMLEFT
  | ENDCAP_BOTTOMRIGHT
  | ENDCAP_LEF58_BOTTOMEDGE
  | ENDCAP_LEF58_TOPEDGE
  | ENDCAP_LEF58_RIGHTEDGE
  | ENDCAP_LEF58_LEFTEDGE
  | ENDCAP_LEF58_RIGHTBOTTOMEDGE
  | ENDCAP_LEF58_LEFTBOTTOMEDGE
  | ENDCAP_LEF58_RIGHTTOPEDGE
  | ENDCAP_LEF58_LEFTTOPEDGE
  | ENDCAP_LEF58_RIGHTBOTTOMCORNER
  | ENDCAP_LEF58_LEFTBOTTOMCORNER
  | ENDCAP_LEF58_RIGHTTOPCORNER
  | ENDCAP_LEF58_LEFTTOPCORNER
deriving DecidableEq

def isCrWtBlClass : MasterType → Bool
  | .CORE | .CORE_ANTENNACELL | .CORE_FEEDTHRU | .CORE_TIEHIGH | .CORE_TIELOW | .CORE_WELLTAP
  | .BLOCK | .BLOCK_BLACKBOX | .BLOCK_SOFT => true
  | _ => false

def isPaddedType : MasterType → Bool
  | .CORE | .CORE_ANTENNACELL | .CORE_FEEDTHRU | .CORE_TIEHIGH | .CORE_TIELOW
  | .CORE_WELLTAP => true
  | _ => false

structure Padding where
  pad_left_ : Int
  pad_right_ : Int
  inst_padding_map_ : Nat → Option (Int × Int)
  master_padding_map_ : Nat → Option (Int × Int)

def Padding.pads (padding : Padding) (type : MasterType) (inst master : Nat) : Int × Int :=
  if isPaddedType type then
    match padding.inst_padding_map_ inst with
    | some pads => pads
    | none =>
      match padding.master_padding_map_ master with
      | some pads => pads
      | none => (padding.pad_left_, padding.pad_right_)
  else (0, 0)

def isWellTap (type : MasterType) : Bool := type = .CORE_WELLTAP

def isBlock (type : MasterType) : Bool := type = .BLOCK

def allowOverlap (cell1 cell2 : MasterType) : Bool := isBlock cell1 && isBlock cell2

def allowPaddingOverlap (cell1 cell2 : MasterType) : Bool :=
  !isCrWtBlClass cell1 || !isCrWtBlClass cell2 || isWellTap cell1 && isWellTap cell2

inductive PlacementClass
  | CR
  | WT
  | BL
  | SP
  | ignored
deriving DecidableEq

def placementClass : MasterType → PlacementClass
  | .CORE | .CORE_FEEDTHRU | .CORE_TIEHIGH | .CORE_TIELOW | .CORE_ANTENNACELL => .CR
  | .CORE_WELLTAP => .WT
  | .CORE_SPACER | .ENDCAP | .ENDCAP_PRE | .ENDCAP_POST | .ENDCAP_TOPLEFT | .ENDCAP_TOPRIGHT
  | .ENDCAP_BOTTOMLEFT | .ENDCAP_BOTTOMRIGHT | .ENDCAP_LEF58_BOTTOMEDGE | .ENDCAP_LEF58_TOPEDGE
  | .ENDCAP_LEF58_RIGHTEDGE | .ENDCAP_LEF58_LEFTEDGE | .ENDCAP_LEF58_RIGHTBOTTOMEDGE
  | .ENDCAP_LEF58_LEFTBOTTOMEDGE | .ENDCAP_LEF58_RIGHTTOPEDGE | .ENDCAP_LEF58_LEFTTOPEDGE
  | .ENDCAP_LEF58_RIGHTBOTTOMCORNER | .ENDCAP_LEF58_LEFTBOTTOMCORNER
  | .ENDCAP_LEF58_RIGHTTOPCORNER | .ENDCAP_LEF58_LEFTTOPCORNER => .SP
  | .BLOCK | .BLOCK_BLACKBOX | .BLOCK_SOFT => .BL
  | _ => .ignored

def noPaddedOverlap : PlacementClass → PlacementClass → Bool
  | .CR, .CR | .CR, .WT | .CR, .BL => true
  | .WT, .CR | .WT, .BL => true
  | .BL, .CR | .BL, .WT => true
  | _, _ => false

def mixedBlocks (cell1 cell2 : MasterType) : Bool :=
  placementClass cell1 = .BL ∧ placementClass cell2 = .BL ∧ ¬ allowOverlap cell1 cell2

lemma isCrWtBlClass_iff (type : MasterType) : isCrWtBlClass type = true ↔
    placementClass type = .CR ∨ placementClass type = .WT ∨ placementClass type = .BL := by
  cases type <;> decide

lemma isWellTap_iff (type : MasterType) : isWellTap type = true ↔ placementClass type = .WT := by
  cases type <;> decide

lemma isPaddedType_class {type : MasterType} (padded : isPaddedType type = true) :
    placementClass type = .CR ∨ placementClass type = .WT := by
  cases type <;> simp_all [isPaddedType, placementClass]

lemma paddingOverlap_iff (cell1 cell2 : MasterType) :
    (allowPaddingOverlap cell1 cell2 = false ∧ allowOverlap cell1 cell2 = false) ↔
      noPaddedOverlap (placementClass cell1) (placementClass cell2) = true ∨
        mixedBlocks cell1 cell2 = true := by
  have first := isCrWtBlClass_iff cell1
  have second := isCrWtBlClass_iff cell2
  have firstTap := isWellTap_iff cell1
  have secondTap := isWellTap_iff cell2
  have plain : ∀ type, isBlock type = true → placementClass type = .BL := by
    intro type isPlain
    rw [of_decide_eq_true isPlain]
    rfl
  have firstPlain := plain cell1
  have secondPlain := plain cell2
  rw [mixedBlocks, decide_eq_true_eq, allowPaddingOverlap, allowOverlap]
  generalize placementClass cell1 = class1 at *
  generalize placementClass cell2 = class2 at *
  cases class1 <;> cases class2 <;> simp_all [noPaddedOverlap]

section

variable (grid : Grid) (types : Nat → MasterType)

def hasPaddingConflict (cell : Nat) (padding_cell : Option Nat) : Bool :=
  match padding_cell with
  | none => false
  | some padding_cell =>
    cell ≠ padding_cell ∧ allowPaddingOverlap (types cell) (types padding_cell) = false ∧
      allowOverlap (types cell) (types padding_cell) = false

def checkPadding (s : PlacementState) (n : Nat) (x y : Int) : Bool :=
  let cell := s.nodes n
  let cell_x_end := x + grid.gridWidth cell
  let cell_y_end := grid.gridEndY (grid.gridYToDbu y + cell.height)
  (gridRange (x - cell.padLeft) (cell_x_end + cell.padRight)).all fun grid_x =>
    (gridRange y cell_y_end).all fun grid_y =>
      if grid.Inside grid_x grid_y then
        !hasPaddingConflict types n (s.pixels grid_x grid_y).cell &&
          !hasPaddingConflict types n (s.pixels grid_x grid_y).padding_reserved_by
      else true

/-- The pixels of a cell have to be free; `fits` stands for all other rules. -/
def checkPixels (fits : PlacementState → Nat → Int → Int → Bool) (s : PlacementState) (n : Nat)
    (x y : Int) : Bool :=
  let cell := s.nodes n
  let x_end := x + grid.gridWidth cell
  let y_end := grid.gridEndY (grid.gridYToDbu y + cell.height)
  x_end ≤ grid.row_site_count &&
    ((gridRange y y_end).all fun grid_y => (gridRange x x_end).all fun grid_x =>
      grid.Inside grid_x grid_y ∧ (s.pixels grid_x grid_y).cell = none) &&
    fits s n x y && checkPadding grid types s n x y

def Grid.footprint (cell : Node) (x y grid_x grid_y : Int) : Prop :=
  (x ≤ grid_x ∧ grid_x < x + grid.gridWidth cell) ∧ grid.paintsRow cell y grid_y

def Grid.strips (cell : Node) (x y grid_x grid_y : Int) : Prop :=
  (x - cell.padLeft ≤ grid_x ∧ grid_x < x ∨ x + grid.gridWidth cell ≤ grid_x ∧
    grid_x < x + grid.gridWidth cell + cell.padRight) ∧ grid.paintsRow cell y grid_y

def Grid.paddedRange (cell : Node) (x y grid_x grid_y : Int) : Prop :=
  (x - cell.padLeft ≤ grid_x ∧ grid_x < x + grid.gridWidth cell + cell.padRight) ∧
    grid.paintsRow cell y grid_y

def Grid.pixelX (cell : Node) : Int := grid.gridX cell.left

def Grid.pixelY (cell : Node) : Int := grid.gridSnapDownY cell.bottom

inductive PixelCall
  | paint (n : Nat) (left bottom : Int)
  | erase (n : Nat)
deriving DecidableEq

def pixelCall (s : PlacementState) : PixelCall → PlacementState
  | .paint n left bottom =>
    (paintPixel grid n (grid.gridX left) (grid.gridSnapDownY bottom)
      (s.moveTo n left bottom)).setPlaced n true
  | .erase n => (erasePixel grid n s).setPlaced n false

/-- A cell that is not placed is painted in the core where both checks accept it. -/
def AcceptedCall (fits : PlacementState → Nat → Int → Int → Bool) (s : PlacementState) :
    PixelCall → Prop
  | .paint n left bottom => (s.nodes n).placed = false ∧ 0 ≤ left ∧ 0 ≤ bottom ∧
    checkPixels grid types fits s n (grid.gridX left) (grid.gridSnapDownY bottom) = true
  | .erase _ => True

/-- No well tap takes a reservation from another one, and no cell is a block that another block is
not told apart from. -/
def KeepsReservations (s : PlacementState) : PixelCall → Prop
  | .paint n left bottom =>
    (∀ x y d, grid.Inside x y → grid.strips (s.nodes n) (grid.gridX left)
      (grid.gridSnapDownY bottom) x y → (s.pixels x y).padding_reserved_by = some d → d ≠ n →
        ¬ (isWellTap (types n) = true ∧ isWellTap (types d) = true)) ∧
    ∀ c, c ≠ n → mixedBlocks (types c) (types n) = false
  | .erase _ => True

/-- The rule of the table for the padding of a cell that would be put at a pixel. -/
def PaddingFree (s : PlacementState) (c : Nat) (x y : Int) : Prop :=
  ∀ d, d ≠ c → (s.nodes d).placed = true →
    noPaddedOverlap (placementClass (types c)) (placementClass (types d)) = true →
    ∀ grid_x grid_y, grid.Inside grid_x grid_y → grid.paddedRange (s.nodes c) x y grid_x grid_y →
      ¬ grid.paddedRange (s.nodes d) (grid.pixelX (s.nodes d)) (grid.pixelY (s.nodes d)) grid_x grid_y

def PaddingExact (s : PlacementState) : Prop :=
  ∀ c x y, checkPadding grid types s c x y = true ↔ PaddingFree grid types s c x y

/-- Every pixel names the cells that are on it. -/
structure PixelsTrue (s : PlacementState) : Prop where
  cell : ∀ x y n, grid.Inside x y → ((s.pixels x y).cell = some n ↔ (s.nodes n).placed = true ∧
    grid.footprint (s.nodes n) (grid.pixelX (s.nodes n)) (grid.pixelY (s.nodes n)) x y)
  reserved : ∀ x y n, grid.Inside x y →
    ((s.pixels x y).padding_reserved_by = some n ↔ (s.nodes n).placed = true ∧
      grid.strips (s.nodes n) (grid.pixelX (s.nodes n)) (grid.pixelY (s.nodes n)) x y)
  sizes : ∀ n, 0 ≤ (s.nodes n).padLeft ∧ 0 ≤ (s.nodes n).padRight ∧ 0 ≤ grid.gridWidth (s.nodes n)
  padded : ∀ n, isPaddedType (types n) = false →
    (s.nodes n).padLeft = 0 ∧ (s.nodes n).padRight = 0
  inside : ∀ n, (s.nodes n).placed = true → 0 ≤ (s.nodes n).left ∧ 0 ≤ (s.nodes n).bottom
  blocks : ∀ n, (s.nodes n).placed = true → ∀ c, c ≠ n → mixedBlocks (types c) (types n) = false

structure Grid.FromOrigin : Prop where
  sites : 0 < grid.site_width
  rows : grid.row_index_to_y_dbu.head? = some 0

end

section

variable {grid : Grid} {types : Nat → MasterType} {s : PlacementState}

lemma hasPaddingConflict_some {c d : Nat} (plain : d ≠ c → mixedBlocks (types c) (types d) = false) :
    hasPaddingConflict types c (some d) = true ↔
      d ≠ c ∧ noPaddedOverlap (placementClass (types c)) (placementClass (types d)) = true := by
  rw [hasPaddingConflict, decide_eq_true_eq, paddingOverlap_iff, ne_comm]
  constructor
  · rintro ⟨differ, forbids | mixed⟩
    · exact ⟨differ, forbids⟩
    · rw [plain differ] at mixed
      cases mixed
  · rintro ⟨differ, forbids⟩
    exact ⟨differ, .inl forbids⟩

lemma paddedRange_iff {cell : Node} (sizes : 0 ≤ cell.padLeft ∧ 0 ≤ cell.padRight ∧
    0 ≤ grid.gridWidth cell) (x y grid_x grid_y : Int) :
    grid.paddedRange cell x y grid_x grid_y ↔
      grid.footprint cell x y grid_x grid_y ∨ grid.strips cell x y grid_x grid_y := by
  rw [Grid.paddedRange, Grid.footprint, Grid.strips, ← or_and_right]
  apply and_congr_left'
  omega

lemma PixelsTrue.strips_padded (true' : PixelsTrue grid types s) {n : Nat}
    {x y grid_x grid_y : Int} (onPadding : grid.strips (s.nodes n) x y grid_x grid_y) :
    placementClass (types n) = .CR ∨ placementClass (types n) = .WT := by
  apply isPaddedType_class
  rw [← Bool.not_eq_false]
  intro plain
  rcases true'.padded n plain with ⟨left, right⟩
  have columns := onPadding.1
  rw [left, right] at columns
  omega

lemma checkPadding_iff (c : Nat) (x y : Int) : checkPadding grid types s c x y = true ↔
    ∀ grid_x grid_y, grid.Inside grid_x grid_y → grid.paddedRange (s.nodes c) x y grid_x grid_y →
      hasPaddingConflict types c (s.pixels grid_x grid_y).cell = false ∧
        hasPaddingConflict types c (s.pixels grid_x grid_y).padding_reserved_by = false := by
  simp only [checkPadding, List.all_eq_true, mem_gridRange, Grid.paddedRange, Grid.paintsRow]
  constructor
  · intro free grid_x grid_y inside range
    have here := free grid_x range.1 grid_y range.2
    rw [if_pos inside, Bool.and_eq_true, Bool.not_eq_true', Bool.not_eq_true'] at here
    exact here
  · intro free grid_x columns grid_y rows
    by_cases inside : grid.Inside grid_x grid_y
    · rw [if_pos inside, Bool.and_eq_true, Bool.not_eq_true', Bool.not_eq_true']
      exact free grid_x grid_y inside ⟨columns, rows⟩
    · rw [if_neg inside]

lemma PixelsTrue.exact (true' : PixelsTrue grid types s) : PaddingExact grid types s := by
  intro c x y
  rw [checkPadding_iff]
  constructor
  · intro free d differ placed forbids grid_x grid_y inside range rangeOther
    have conflict : hasPaddingConflict types c (some d) = true :=
      (hasPaddingConflict_some fun differ => true'.blocks d placed c differ.symm).mpr
        ⟨differ, forbids⟩
    have here := free grid_x grid_y inside range
    rcases (paddedRange_iff (true'.sizes d) _ _ _ _).mp rangeOther with onCell | onPadding
    · rw [(true'.cell grid_x grid_y d inside).mpr ⟨placed, onCell⟩, conflict] at here
      cases here.1
    · rw [(true'.reserved grid_x grid_y d inside).mpr ⟨placed, onPadding⟩, conflict] at here
      cases here.2
  · intro rule grid_x grid_y inside range
    have none : ∀ owner : Option Nat, (∀ d, owner = some d → (s.nodes d).placed = true ∧
        grid.paddedRange (s.nodes d) (grid.pixelX (s.nodes d)) (grid.pixelY (s.nodes d))
          grid_x grid_y) → hasPaddingConflict types c owner = false := by
      intro owner onIt
      cases owner with
      | none => rfl
      | some d =>
        rcases onIt d rfl with ⟨placed, rangeOther⟩
        rw [Bool.eq_false_iff]
        intro conflict
        rw [hasPaddingConflict_some fun differ => true'.blocks d placed c differ.symm] at conflict
        exact rule d conflict.1 placed conflict.2 grid_x grid_y inside range rangeOther
    constructor
    · apply none
      intro d isOwner
      have onIt := (true'.cell grid_x grid_y d inside).mp isOwner
      exact ⟨onIt.1, (paddedRange_iff (true'.sizes d) _ _ _ _).mpr (.inl onIt.2)⟩
    · apply none
      intro d isOwner
      have onIt := (true'.reserved grid_x grid_y d inside).mp isOwner
      exact ⟨onIt.1, (paddedRange_iff (true'.sizes d) _ _ _ _).mpr (.inr onIt.2)⟩

end

end OpenRoad.Dpl
