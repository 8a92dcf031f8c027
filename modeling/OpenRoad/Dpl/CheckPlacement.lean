import OpenRoad.Dpl.DiamondSearch
import OpenRoad.Odb.Transform

/-! The checks of a finished placement for overlaps and for gaps of one site. -/

namespace OpenRoad.Dpl

open OpenRoad.Odb (DbTransform)
open Option hiding mem_map or_assoc

open List Function

structure Obstruction where
  isOverlap : Bool
  box : Odb.Rect
deriving DecidableEq

structure CheckedCell where
  isCell : Bool
  isStdCell : Bool
  isBlock : Bool
  left : Int
  bottom : Int
  width : Int
  height : Int
  transform : DbTransform
  obstructions : List Obstruction
deriving DecidableEq

structure PlacementChecker where
  grid : Grid
  coreXMin : Int
  coreYMin : Int
  rowCoordinates : List Int
  cells : Nat → CheckedCell

inductive Direction
  | North
  | South
  | West
  | East
deriving DecidableEq

abbrev Claims := Int → Int → Option Nat

def gridRange (first last : Int) : List Int :=
  (List.range (last - first).toNat).map fun (k : Nat) => first + k

lemma mem_gridRange {first last k : Int} : k ∈ gridRange first last ↔ first ≤ k ∧ k < last := by
  rw [gridRange, mem_map]
  constructor
  · rintro ⟨n, member, rfl⟩
    have less := mem_range.mp member
    omega
  · rintro ⟨low, high⟩
    exact ⟨(k - first).toNat, mem_range.mpr (by omega), by omega⟩

def Grid.gridEndX (grid : Grid) (x : Int) : Int := divCeil x grid.site_width

def Grid.gridCovering (grid : Grid) (rect : Odb.Rect) : GridRect where
  xlo := grid.gridX rect.xlo
  ylo := grid.gridSnapDownY rect.ylo
  xhi := grid.gridEndX rect.xhi
  yhi := grid.gridEndY rect.yhi

namespace PlacementChecker

variable (opendp : PlacementChecker)

def obstructionRect (cell : CheckedCell) (obs : Obstruction) : Odb.Rect :=
  let rect := cell.transform.applyRect obs.box
  ⟨rect.xlo - opendp.coreXMin, rect.ylo - opendp.coreYMin, rect.xhi - opendp.coreXMin,
    rect.yhi - opendp.coreYMin⟩

def cellRect (cell : CheckedCell) : Odb.Rect :=
  ⟨cell.left, cell.bottom, cell.left + cell.width, cell.bottom + cell.height⟩

/-- The OVERLAP obstructions stand for the cell where there are any. -/
def footprint (cell : CheckedCell) : List Odb.Rect :=
  let overlaps := cell.obstructions.filter Obstruction.isOverlap
  if overlaps = [] then [cellRect cell] else overlaps.map (opendp.obstructionRect cell)

def gridRects (cell : CheckedCell) : List GridRect :=
  (opendp.footprint cell).map opendp.grid.gridCovering

/-- What `visitCellPixels` goes through without padding. -/
def cellPixels (cell : CheckedCell) : List (Int × Int) :=
  (opendp.gridRects cell).flatMap fun rect =>
    (gridRange rect.xlo rect.xhi).flatMap fun x =>
      ((gridRange rect.ylo rect.yhi).map fun y => (x, y)).filter fun p => opendp.grid.Inside p.1 p.2

/-- What `visitCellBoundaryPixels` goes through. -/
def boundaryPixels (cell : CheckedCell) : List (Direction × Int × Int) :=
  ((opendp.gridRects cell).flatMap fun rect =>
    ((gridRange rect.xlo rect.xhi).flatMap fun x =>
      [(Direction.North, x, rect.ylo), (Direction.South, x, rect.yhi - 1)]) ++
    (gridRange rect.ylo rect.yhi).flatMap fun y =>
      [(Direction.West, rect.xlo, y), (Direction.East, rect.xhi - 1, y)]).filter
    fun p => opendp.grid.Inside p.2.1 p.2.2

def overlap (cell1 cell2 : CheckedCell) : Bool :=
  if cell1.isBlock ∧ cell2.isBlock then false
  else
    cell1.left < cell2.left + cell2.width ∧ cell1.left + cell1.width > cell2.left ∧
      cell1.bottom < cell2.bottom + cell2.height ∧ cell1.bottom + cell1.height > cell2.bottom

/-- The visit of a pixel by `checkOverlap`. -/
def visitOverlap (n : Nat) (s : Claims × Option Nat) (p : Int × Int) : Claims × Option Nat :=
  match s.1 p.1 p.2 with
  | some pixelCell =>
    if pixelCell ≠ n ∧ overlap (opendp.cells n) (opendp.cells pixelCell) then
      (s.1, some pixelCell)
    else s
  | none => (update s.1 p.1 (update (s.1 p.1) p.2 (some n)), s.2)

def checkOverlap (n : Nat) (pixels : Claims) : Claims × Option Nat :=
  (opendp.cellPixels (opendp.cells n)).foldl (opendp.visitOverlap n) (pixels, none)

def siteAligned (cell : CheckedCell) : Bool :=
  cell.left.tmod opendp.grid.site_width = 0 ∧ cell.bottom ∈ opendp.rowCoordinates

def checked (n : Nat) : Bool :=
  (opendp.cells n).isCell ∧ ((opendp.cells n).isStdCell → opendp.siteAligned (opendp.cells n))

/-- The visit of a node by the first loop of `checkPlacement`, as far as overlaps go. -/
def visitNode (s : Claims × List Nat) (n : Nat) : Claims × List Nat :=
  if opendp.checked n then
    let (pixels, overlapCell) := opendp.checkOverlap n s.1
    (pixels, if overlapCell.isSome then s.2 ++ [n] else s.2)
  else s

def overlapPass (nodes : List Nat) : Claims × List Nat :=
  nodes.foldl opendp.visitNode (fun _ _ => none, [])

def abutX : Direction → Option Int
  | .West => some (-1)
  | .East => some 1
  | .North => none
  | .South => none

/-- The visit of a pixel by `checkOneSiteGaps`. -/
def visitGap (pixels : Claims) (gapCell : Option Nat) (p : Direction × Int × Int) : Option Nat :=
  match abutX p.1 with
  | none => gapCell
  | some abut_x =>
    let abutmentExists := decide (opendp.grid.Inside (p.2.1 + abut_x) p.2.2) &&
      (pixels (p.2.1 + abut_x) p.2.2).isSome
    if abutmentExists = false ∧ opendp.grid.Inside (p.2.1 + 2 * abut_x) p.2.2 then
      pixels (p.2.1 + 2 * abut_x) p.2.2
    else gapCell

def checkOneSiteGaps (n : Nat) (pixels : Claims) : Option Nat :=
  (opendp.boundaryPixels (opendp.cells n)).foldl (opendp.visitGap pixels) none

variable {opendp} {n : Nat} {s : Claims × Option Nat} {pixels : Claims}

def Meets (opendp : PlacementChecker) (pixels : Claims) (n : Nat) (p : Int × Int) : Prop :=
  ∃ other, pixels p.1 p.2 = some other ∧ other ≠ n ∧
    overlap (opendp.cells n) (opendp.cells other) = true

lemma update_claims (pixels : Claims) (n : Nat) (p q : Int × Int) :
    update pixels p.1 (update (pixels p.1) p.2 (some n)) q.1 q.2 =
      if q = p then some n else pixels q.1 q.2 := by
  by_cases first : q.1 = p.1
  · rw [first, update_self]
    by_cases second : q.2 = p.2
    · rw [second, update_self, if_pos (Prod.ext first second)]
    · rw [update_of_ne second, if_neg fun same => second (congrArg Prod.snd same)]
  · rw [update_of_ne first, if_neg fun same => first (congrArg Prod.fst same)]

def claim (pixels : Claims) (n : Nat) (ps : List (Int × Int)) : Claims := fun x y =>
  (pixels x y).or (if (x, y) ∈ ps then some n else none)

lemma claim_claim (pixels : Claims) (n : Nat) (ps qs : List (Int × Int)) :
    claim (claim pixels n ps) n qs = claim pixels n (ps ++ qs) := by
  funext x y
  simp only [claim, Option.or_assoc, mem_append]
  by_cases first : (x, y) ∈ ps
  · simp [first]
  · simp [first]

lemma visitOverlap_spec (p : Int × Int) : (opendp.visitOverlap n s p).1 = claim s.1 n [p] ∧
      ((opendp.visitOverlap n s p).2.isSome ↔ s.2.isSome ∨ opendp.Meets s.1 n p) := by
  rw [visitOverlap]
  cases isCell : s.1 p.1 p.2 with
  | none =>
    constructor
    · funext x y
      have updated := update_claims s.1 n p (x, y)
      dsimp only at updated ⊢
      rw [updated, claim]
      by_cases same : (x, y) = p
      · subst same
        have isFree : s.1 x y = none := isCell
        rw [if_pos rfl, if_pos (mem_singleton_self _), isFree, none_or]
      · rw [if_neg same, if_neg fun member => same (mem_singleton.mp member), or_none]
    · simp [Meets, isCell]
  | some other =>
    have kept : claim s.1 n [p] = s.1 := by
      funext x y
      rw [claim]
      by_cases same : (x, y) = p
      · subst same
        have isOwned : s.1 x y = some other := isCell
        rw [isOwned, some_or]
      · rw [if_neg fun member => same (mem_singleton.mp member), or_none]
    dsimp only
    split
    · rename_i meets
      exact ⟨kept.symm, iff_of_true rfl (.inr ⟨other, isCell, meets⟩)⟩
    · rename_i not
      refine ⟨kept.symm, (or_iff_left ?_).symm⟩
      rintro ⟨other', isOther, meets⟩
      rw [isCell] at isOther
      rw [← some_injective _ isOther] at meets
      exact not meets

lemma meets_claim (ps : List (Int × Int)) (p : Int × Int) :
    opendp.Meets (claim pixels n ps) n p ↔ opendp.Meets pixels n p := by
  simp only [Meets, claim]
  cases isCell : pixels p.1 p.2 with
  | some other => simp
  | none =>
    refine iff_of_false ?_ (by simp)
    rintro ⟨other, isOther, differs, _⟩
    rw [none_or] at isOther
    split at isOther
    · exact differs (some_injective _ isOther).symm
    · exact absurd isOther (by simp)

lemma foldl_visitOverlap (ps : List (Int × Int)) :
    (ps.foldl (opendp.visitOverlap n) s).1 = claim s.1 n ps ∧
      ((ps.foldl (opendp.visitOverlap n) s).2.isSome ↔
        s.2.isSome ∨ ∃ p ∈ ps, opendp.Meets s.1 n p) := by
  induction ps generalizing s with
  | nil =>
    constructor
    · funext x y
      simp [claim]
    · simp
  | cons p ps ih =>
    rw [foldl_cons]
    rcases @visitOverlap_spec opendp n s p with ⟨isClaim, found⟩
    rcases ih (s := opendp.visitOverlap n s p) with ⟨rest, foundRest⟩
    rw [rest, foundRest, isClaim, claim_claim, found]
    refine ⟨rfl, ?_⟩
    simp only [meets_claim, mem_cons, exists_eq_or_imp, or_assoc]

def claimed (opendp : PlacementChecker) (nodes : List Nat) : Claims := fun x y =>
  nodes.find? fun n => opendp.checked n ∧ (x, y) ∈ opendp.cellPixels (opendp.cells n)

lemma claimed_append (nodes : List Nat) (n : Nat) : opendp.claimed (nodes ++ [n]) =
      if opendp.checked n then claim (opendp.claimed nodes) n (opendp.cellPixels (opendp.cells n))
      else opendp.claimed nodes := by
  funext x y
  rw [claimed, find?_append]
  cases isChecked : opendp.checked n with
  | false => simp [isChecked, claimed]
  | true =>
    rw [if_pos rfl, claim]
    congr 1
    by_cases covers : (x, y) ∈ opendp.cellPixels (opendp.cells n)
    · simp [isChecked, covers]
    · simp [covers]

lemma overlapPass_spec (nodes : List Nat) :
    (opendp.overlapPass nodes).1 = opendp.claimed nodes ∧ ∀ n,
      n ∈ (opendp.overlapPass nodes).2 ↔ ∃ before after, nodes = before ++ n :: after ∧
        opendp.checked n = true ∧ ∃ p ∈ opendp.cellPixels (opendp.cells n),
          opendp.Meets (opendp.claimed before) n p := by
  induction nodes using reverseRecOn with
  | nil => exact ⟨rfl, fun n => by simp [overlapPass]⟩
  | append_singleton nodes last ih =>
    rcases ih with ⟨isClaimed, failures⟩
    have step : opendp.overlapPass (nodes ++ [last]) =
        opendp.visitNode (opendp.overlapPass nodes) last := by
      rw [overlapPass, foldl_append, overlapPass]
      rfl
    have earlier : ∀ n, (∃ before after, nodes ++ [last] = before ++ n :: after ∧
        opendp.checked n = true ∧ ∃ p ∈ opendp.cellPixels (opendp.cells n),
          opendp.Meets (opendp.claimed before) n p) ↔
        n ∈ (opendp.overlapPass nodes).2 ∨ n = last ∧ opendp.checked last = true ∧
          ∃ p ∈ opendp.cellPixels (opendp.cells last),
            opendp.Meets (opendp.claimed nodes) last p := by
      intro n
      rw [failures]
      constructor
      · rintro ⟨before, after, isList, reported⟩
        rcases eq_nil_or_concat after with rfl | ⟨front, end', rfl⟩
        · have parts := append_inj' isList rfl
          have same : last = n := by simpa using parts.2
          rw [parts.1, same]
          exact .inr ⟨rfl, reported⟩
        · have shape : before ++ n :: (front ++ [end']) = (before ++ n :: front) ++ [end'] := by
            simp
          rw [concat_eq_append, shape] at isList
          exact .inl ⟨before, front, (append_inj' isList rfl).1, reported⟩
      · rintro (⟨before, after, isList, reported⟩ | ⟨rfl, reported⟩)
        · exact ⟨before, after ++ [last], by rw [isList]; simp, reported⟩
        · exact ⟨nodes, [], rfl, reported⟩
    rw [step, visitNode, claimed_append]
    cases isChecked : opendp.checked last with
    | false =>
      refine ⟨isClaimed, fun n => ?_⟩
      rw [earlier, isChecked]
      simp
    | true =>
      rcases @foldl_visitOverlap opendp last ((opendp.overlapPass nodes).1, none)
        (opendp.cellPixels (opendp.cells last)) with ⟨isClaim, found⟩
      rw [← checkOverlap] at isClaim found
      rw [isClaimed] at isClaim found
      simp only [if_true]
      refine ⟨by rw [isClaimed]; exact isClaim, fun n => ?_⟩
      rw [earlier, isChecked, isClaimed]
      by_cases meets : (opendp.checkOverlap last (opendp.claimed nodes)).2.isSome = true
      · have reported := (found.mp meets).resolve_left (by simp)
        rw [if_pos meets, mem_append, mem_singleton]
        exact or_congr_right ⟨fun same => ⟨same, rfl, reported⟩, And.left⟩
      · have not := fun reported => meets (found.mpr (.inr reported))
        rw [if_neg meets]
        exact ⟨.inl, fun reported => reported.elim id fun last' => absurd last'.2.2 not⟩

lemma mem_failures (nodes : List Nat) (n : Nat) :
    n ∈ (opendp.overlapPass nodes).2 ↔ n ∈ nodes ∧ opendp.checked n = true ∧
      ∃ p ∈ opendp.cellPixels (opendp.cells n), opendp.Meets (opendp.claimed nodes) n p := by
  rw [(overlapPass_spec nodes).2]
  constructor
  · rintro ⟨before, after, rfl, isChecked, p, isPixel, other, first, meets⟩
    refine ⟨by simp, isChecked, p, isPixel, other, ?_, meets⟩
    rw [claimed] at first ⊢
    rw [find?_append, first, some_or]
  · rintro ⟨member, isChecked, p, isPixel, other, first, differs, overlaps⟩
    rcases append_of_mem member with ⟨before, after, rfl⟩
    refine ⟨before, after, rfl, isChecked, p, isPixel, other, ?_, differs, overlaps⟩
    rw [claimed, find?_append] at first
    rw [claimed]
    cases isFirst : before.find? fun m =>
        decide (opendp.checked m = true ∧ (p.1, p.2) ∈ opendp.cellPixels (opendp.cells m)) with
    | some found =>
      rw [isFirst, some_or] at first
      exact first
    | none =>
      rw [isFirst, none_or, find?_cons_of_pos (by simp [isChecked, isPixel])] at first
      exact absurd (some_injective _ first).symm differs

/-- No cell is next to the end, and the site after that is in the grid. -/
def OpenEnd (opendp : PlacementChecker) (pixels : Claims) (p : Direction × Int × Int) : Prop :=
  ∃ abut_x, abutX p.1 = some abut_x ∧
    ¬ (opendp.grid.Inside (p.2.1 + abut_x) p.2.2 ∧ (pixels (p.2.1 + abut_x) p.2.2).isSome) ∧
      opendp.grid.Inside (p.2.1 + 2 * abut_x) p.2.2

def beyond (pixels : Claims) (p : Direction × Int × Int) : Option Nat :=
  (abutX p.1).bind fun abut_x => pixels (p.2.1 + 2 * abut_x) p.2.2

lemma visitGap_open {gapCell : Option Nat} {p : Direction × Int × Int}
    (isOpen : opendp.OpenEnd pixels p) : opendp.visitGap pixels gapCell p = beyond pixels p := by
  rcases isOpen with ⟨abut_x, isEnd, free, inside⟩
  rw [visitGap, beyond, isEnd]
  dsimp only
  rw [if_pos, bind_some]
  refine ⟨?_, inside⟩
  rw [Bool.and_eq_false_iff, decide_eq_false_iff_not, ← Bool.not_eq_true]
  exact not_and_or.mp free

lemma visitGap_closed {gapCell : Option Nat} {p : Direction × Int × Int}
    (closed : ¬ opendp.OpenEnd pixels p) : opendp.visitGap pixels gapCell p = gapCell := by
  rw [visitGap]
  cases isEnd : abutX p.1 with
  | none => rfl
  | some abut_x =>
    dsimp only
    rw [if_neg]
    rintro ⟨free, inside⟩
    refine closed ⟨abut_x, isEnd, fun abuts => ?_, inside⟩
    rw [abuts.2, Bool.and_true, decide_eq_false_iff_not] at free
    exact free abuts.1

lemma foldl_visitGap {before after : List (Direction × Int × Int)} {p : Direction × Int × Int}
    (isOpen : opendp.OpenEnd pixels p) (closed : ∀ q ∈ after, ¬ opendp.OpenEnd pixels q)
    (gapCell : Option Nat) :
    (before ++ p :: after).foldl (opendp.visitGap pixels) gapCell = beyond pixels p := by
  rw [foldl_append, foldl_cons, visitGap_open isOpen]
  induction after with
  | nil => rfl
  | cons q after ih =>
    rcases forall_mem_cons.mp closed with ⟨first, rest⟩
    rw [foldl_cons, visitGap_closed first]
    exact ih rest

lemma last_open (ps : List (Direction × Int × Int)) (some' : ∃ p ∈ ps, opendp.OpenEnd pixels p) :
    ∃ before p after, ps = before ++ p :: after ∧ opendp.OpenEnd pixels p ∧
      ∀ q ∈ after, ¬ opendp.OpenEnd pixels q := by
  induction ps with
  | nil => exact absurd some' (by simp)
  | cons first ps ih =>
    by_cases later : ∃ p ∈ ps, opendp.OpenEnd pixels p
    · rcases ih later with ⟨before, p, after, rfl, last⟩
      exact ⟨first :: before, p, after, rfl, last⟩
    · rcases some' with ⟨p, member, isOpen⟩
      rcases mem_cons.mp member with rfl | isLater
      · exact ⟨[], p, ps, rfl, isOpen, fun q isQ isOpen' => later ⟨q, isQ, isOpen'⟩⟩
      · exact absurd ⟨p, isLater, isOpen⟩ later

/-- In a row of the cell, a free pixel is next to it and a pixel of another cell after that. -/
def OneSiteGap (opendp : PlacementChecker) (pixels : Claims) (n : Nat) : Prop :=
  ∃ x y, ∃ side ∈ [(-1 : Int), 1], (x, y) ∈ opendp.cellPixels (opendp.cells n) ∧
    (x + side, y) ∉ opendp.cellPixels (opendp.cells n) ∧ opendp.grid.Inside (x + side) y ∧
      pixels (x + side) y = none ∧ opendp.grid.Inside (x + 2 * side) y ∧
        ∃ other, other ≠ n ∧ pixels (x + 2 * side) y = some other

lemma mem_cellPixels {cell : CheckedCell} {x y : Int} :
    (x, y) ∈ opendp.cellPixels cell ↔ ∃ rect ∈ opendp.gridRects cell,
      (rect.xlo ≤ x ∧ x < rect.xhi) ∧ (rect.ylo ≤ y ∧ y < rect.yhi) ∧ opendp.grid.Inside x y := by
  simp only [cellPixels, mem_flatMap, mem_filter, mem_map, mem_gridRange,
    decide_eq_true_eq, Prod.mk.injEq]
  constructor
  · rintro ⟨rect, isRect, x', inX, ⟨y', inY, rfl, rfl⟩, inside⟩
    exact ⟨rect, isRect, inX, inY, inside⟩
  · rintro ⟨rect, isRect, inX, inY, inside⟩
    exact ⟨rect, isRect, x, inX, ⟨y, inY, rfl, rfl⟩, inside⟩

lemma mem_boundaryPixels {cell : CheckedCell} {rect : GridRect}
    (isRect : rect ∈ opendp.gridRects cell) {y : Int} (inRows : rect.ylo ≤ y ∧ y < rect.yhi)
    {p : Direction × Int × Int} (isEnd : p = (.West, rect.xlo, y) ∨ p = (.East, rect.xhi - 1, y))
    (inside : opendp.grid.Inside p.2.1 p.2.2) : p ∈ opendp.boundaryPixels cell := by
  rw [boundaryPixels, mem_filter, mem_flatMap]
  refine ⟨⟨rect, isRect, mem_append_right _ ?_⟩, decide_eq_true inside⟩
  exact mem_flatMap.mpr ⟨y, mem_gridRange.mpr inRows, by simpa using isEnd⟩

lemma OneSiteGap.isOpen (gap : opendp.OneSiteGap pixels n) :
    ∃ p ∈ opendp.boundaryPixels (opendp.cells n), opendp.OpenEnd pixels p := by
  rcases gap with ⟨x, y, side, isSide, isPixel, notPixel, inside, free, insideGap, _⟩
  rcases mem_cellPixels.mp isPixel with ⟨rect, isRect, inX, inY, insideCell⟩
  have leaves : ¬ (rect.xlo ≤ x + side ∧ x + side < rect.xhi) := fun inX' =>
    notPixel (mem_cellPixels.mpr ⟨rect, isRect, inX', inY, inside⟩)
  have notAbut : ¬ (opendp.grid.Inside (x + side) y ∧ (pixels (x + side) y).isSome) := by
    simp [free]
  rcases mem_pair.mp isSide with rfl | rfl
  · have isEnd : x = rect.xlo := by omega
    exact ⟨(.West, x, y), mem_boundaryPixels isRect inY (.inl (by rw [isEnd])) insideCell,
      -1, rfl, notAbut, insideGap⟩
  · have isEnd : x = rect.xhi - 1 := by omega
    exact ⟨(.East, x, y), mem_boundaryPixels isRect inY (.inr (by rw [isEnd])) insideCell,
      1, rfl, notAbut, insideGap⟩

def core (opendp : PlacementChecker) : Odb.Rect :=
  ⟨0, 0, opendp.grid.row_site_count * opendp.grid.site_width,
    opendp.grid.row_index_to_y_dbu.getLastD 0⟩

def MeetInside (core a b : Odb.Rect) : Prop :=
  max (max a.xlo b.xlo) core.xlo < min (min a.xhi b.xhi) core.xhi ∧
    max (max a.ylo b.ylo) core.ylo < min (min a.yhi b.yhi) core.yhi

/-- Two cells, not both blocks, whose footprints meet in the core. -/
def Overlapping (opendp : PlacementChecker) (a b : Nat) : Prop :=
  a ≠ b ∧ (opendp.cells a).isCell ∧ (opendp.cells b).isCell ∧
    ¬ ((opendp.cells a).isBlock ∧ (opendp.cells b).isBlock) ∧
      ∃ r ∈ opendp.footprint (opendp.cells a), ∃ r' ∈ opendp.footprint (opendp.cells b),
        MeetInside opendp.core r r'

/-- No gap of one site and no overlap is missed. -/
structure MissesNothing (opendp : PlacementChecker) (nodes : List Nat) : Prop where
  gaps : ∀ n ∈ nodes, (opendp.cells n).isCell → opendp.OneSiteGap (opendp.overlapPass nodes).1 n →
      (opendp.checkOneSiteGaps n (opendp.overlapPass nodes).1).isSome
  overlaps : ∀ a ∈ nodes, ∀ b ∈ nodes, opendp.Overlapping a b →
    a ∈ (opendp.overlapPass nodes).2 ∨ b ∈ (opendp.overlapPass nodes).2

/-- The last open end that a cell with a gap is visited at has a cell after it, and each overlap is
seen. -/
structure NothingHidden (opendp : PlacementChecker) (nodes : List Nat) : Prop where
  lastEnd : ∀ n ∈ nodes, (opendp.cells n).isCell → opendp.OneSiteGap (opendp.claimed nodes) n →
    ∀ before p after, opendp.boundaryPixels (opendp.cells n) = before ++ p :: after →
      opendp.OpenEnd (opendp.claimed nodes) p →
        (∀ q ∈ after, ¬ opendp.OpenEnd (opendp.claimed nodes) q) →
          (beyond (opendp.claimed nodes) p).isSome
  firstCell : ∀ a ∈ nodes, ∀ b ∈ nodes, opendp.Overlapping a b → ∃ n ∈ [a, b],
    opendp.checked n = true ∧ ∃ p ∈ opendp.cellPixels (opendp.cells n),
      opendp.Meets (opendp.claimed nodes) n p

theorem checks_miss_nothing_iff (opendp : PlacementChecker) (nodes : List Nat) :
    opendp.MissesNothing nodes ↔ opendp.NothingHidden nodes := by
  have isClaimed := (@overlapPass_spec opendp nodes).1
  constructor
  · intro missesNothing
    refine ⟨fun n member isCell gap before p after isList isOpen closed => ?_, ?_⟩
    · have found := missesNothing.gaps n member isCell
      rw [isClaimed, checkOneSiteGaps, isList, foldl_visitGap isOpen closed] at found
      exact found gap
    · intro a isA b isB overlapping
      rcases missesNothing.overlaps a isA b isB overlapping with reported | reported
      · exact ⟨a, by simp, ((mem_failures nodes a).mp reported).2⟩
      · exact ⟨b, by simp, ((mem_failures nodes b).mp reported).2⟩
  · intro hidden
    refine ⟨fun n member isCell gap => ?_, ?_⟩
    · rw [isClaimed] at gap ⊢
      rcases last_open _ gap.isOpen with ⟨before, p, after, isList, isOpen, closed⟩
      rw [checkOneSiteGaps, isList, foldl_visitGap isOpen closed]
      exact hidden.lastEnd n member isCell gap before p after isList isOpen closed
    · intro a isA b isB overlapping
      rcases hidden.firstCell a isA b isB overlapping with ⟨n, isPair, reported⟩
      rcases List.mem_pair.mp isPair with rfl | rfl
      · exact .inl ((mem_failures nodes n).mpr ⟨isA, reported⟩)
      · exact .inr ((mem_failures nodes n).mpr ⟨isB, reported⟩)

def oneGap : PlacementChecker where
  grid := ⟨1, [0, 1], 1, 10, 1, fun _ _ _ => some .R0⟩
  coreXMin := 0
  coreYMin := 0
  rowCoordinates := [0]
  cells n := ⟨true, true, false, 2 * n, 0, 1, 1, DbTransform.identity, []⟩

/-- The gap to the left of the second cell is forgotten at its right end. -/
theorem checks_miss_gap : ¬ oneGap.MissesNothing [0, 1] := by
  intro missesNothing
  have gap : oneGap.OneSiteGap (oneGap.overlapPass [0, 1]).1 1 :=
    ⟨2, 0, -1, by decide, by decide, by decide, by decide,
      by decide, by decide, 0, by decide, by decide⟩
  have found := missesNothing.gaps 1 (by decide) rfl gap
  exact absurd found (by decide)

end PlacementChecker

end OpenRoad.Dpl
