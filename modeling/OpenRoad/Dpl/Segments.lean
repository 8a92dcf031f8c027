import OpenRoad.Dpl.Objects
import OpenRoad.Lib.Intervals

/-! The segments of rows into which detailed placement puts movable cells. -/

namespace OpenRoad.Dpl

open OpenRoad.Lib List

structure Row where
  left : Int
  bottom : Int
  height : Int
  siteSpacing : Int
  numSites : Int
deriving DecidableEq

def Row.getRight (row : Row) : Int := row.left + row.numSites * row.siteSpacing

def Row.getTop (row : Row) : Int := row.bottom + row.height

def Row.site (row : Row) (i : Int) : Int := row.left + i * row.siteSpacing

structure Group where
  id : Int
  rects : List Rect
deriving DecidableEq

structure Architecture where
  rows : List Row
  regions : List Group
  minX : Int
  maxX : Int
  minY : Int
  maxY : Int
  usePadding : Bool
  site_width : Int
deriving DecidableEq

def Architecture.getCellPadding (arch : Architecture) (node : Node) : Int × Int :=
  (node.padLeft * arch.site_width, node.padRight * arch.site_width)

def Architecture.getCellSpacing (arch : Architecture) (leftNode rightNode : Option Node) : Int :=
  if arch.usePadding then
    max 0 ((leftNode.elim 0 fun node => (arch.getCellPadding node).2) +
      rightNode.elim 0 fun node => (arch.getCellPadding node).1)
  else 0

def Architecture.singleRowHeight (arch : Architecture) : Int :=
  (arch.rows.head?.map Row.height).getD 0

inductive BlockageType
  | Placement
  | FixedInstance
deriving DecidableEq

structure Blockage where
  x_min : Int
  x_max : Int
  pad_left : Int
  pad_right : Int
  type : BlockageType
deriving DecidableEq

def Blockage.getPaddedXMin (blockage : Blockage) : Int := blockage.x_min - blockage.pad_left

def Blockage.getPaddedXMax (blockage : Blockage) : Int := blockage.x_max + blockage.pad_right

def compareBlockages (i1 i2 : Blockage) : Bool :=
  if i1.getPaddedXMin = i2.getPaddedXMin then i1.getPaddedXMax < i2.getPaddedXMax
  else i1.getPaddedXMin < i2.getPaddedXMin

def Blockage.extend (top next : Blockage) : Blockage :=
  { top with pad_right := next.pad_right, x_max := next.x_max }

/-- The blockages of one row before they are merged. -/
def rawBlockages (arch : Architecture) (fixedCells : List Node) (blockages : List Rect)
    (row : Row) : List Blockage :=
  let meets (bottom top : Int) : Bool :=
    max arch.minY bottom < row.getTop ∧ min arch.maxY top > row.bottom
  (fixedCells.filter fun nd => ¬ nd.isTerminal ∧ meets nd.bottom nd.getTop).map (fun nd =>
      { x_min := max arch.minX nd.left
        x_max := min arch.maxX nd.getRight
        pad_left := arch.getCellSpacing none (some nd)
        pad_right := arch.getCellSpacing (some nd) none
        type := .FixedInstance }) ++
    (blockages.filter fun blockage => meets blockage.yMin blockage.yMax).map fun blockage =>
      { x_min := max arch.minX blockage.xMin
        x_max := min arch.maxX blockage.xMax
        pad_left := 0
        pad_right := 0
        type := .Placement }

/-- The blockages of one row from left to right; `sort` orders equal bounds as it likes. -/
def rowBlockages (arch : Architecture) (sort : List Blockage → List Blockage)
    (fixedCells : List Node) (blockages : List Rect) (row : Row) : List Blockage :=
  sort (mergeSorted Blockage.getPaddedXMin Blockage.getPaddedXMax Blockage.extend
    (sort (rawBlockages arch fixedCells blockages row)))

def findBlockages (arch : Architecture) (sort : List Blockage → List Blockage)
    (fixedCells : List Node) (blockages : List Rect) : List (List Blockage) :=
  arch.rows.map (rowBlockages arch sort fixedCells blockages)

/-- What `std::ranges::sort` promises for the comparison of blockages. -/
structure SortsBlockages (sort : List Blockage → List Blockage) : Prop where
  perm : ∀ blockages, (sort blockages).Perm blockages
  sorted : ∀ blockages, (sort blockages).Pairwise fun a b => ¬ compareBlockages b a

structure DetailedSeg where
  segId : Nat
  rowId : Nat
  regId : Int
  xmin : Int
  xmax : Int
deriving DecidableEq

/-- The spans between two blockages that follow each other. -/
def spansBetween (left right : Int) : List Blockage → List (Int × Int)
  | b :: c :: rest =>
    (if c.getPaddedXMin > b.getPaddedXMax then
      stretch (max left b.getPaddedXMax) (min right c.getPaddedXMin)
    else []) ++ spansBetween left right (c :: rest)
  | _ => []

def freeSpans (arch : Architecture) (row : Row) (blockages : List Blockage) : List (Int × Int) :=
  let left := max arch.minX row.left
  let right := min arch.maxX row.getRight
  match blockages with
  | [] => stretch left right
  | first :: rest =>
    let last := (first :: rest).getLast (cons_ne_nil _ _)
    (if first.getPaddedXMin > left then stretch left (min right first.getPaddedXMin) else []) ++
      spansBetween left right (first :: rest) ++
      if last.getPaddedXMax < right then
        stretch (min right (max left last.getPaddedXMax)) right
      else []

def spanSegments (rowId numSegments : Nat) (spans : List (Int × Int)) : List DetailedSeg :=
  spans.zipIdx.map fun (span, i) =>
    { segId := numSegments + i, rowId := rowId, regId := -1, xmin := span.1, xmax := span.2 }

structure SegState where
  segsInRow : List (List DetailedSeg)
  numSegments : Nat
deriving DecidableEq

def firstSegments (arch : Architecture) : Nat → Nat → List Row → List (List Blockage) → SegState
  | r, numSegments, row :: rows, blockages :: rest =>
    let segments := spanSegments r numSegments (freeSpans arch row blockages)
    let after := firstSegments arch (r + 1) (numSegments + segments.length) rows rest
    { after with segsInRow := segments :: after.segsInRow }
  | _, numSegments, _, _ => ⟨[], numSegments⟩

def internalError (msg : String) : String := "Detailed improvement internal error: " ++ msg ++ "."

/-- The part of a row that a rectangle as high as the row reaches into, from site to site. -/
def rectInterval (arch : Architecture) (row : Row) (r : Nat) (rect : Rect) : Option (Int × Int) :=
  let lb := arch.minY + r * arch.singleRowHeight
  let ub := lb + arch.singleRowHeight
  if rect.yMax ≥ ub ∧ rect.yMin ≤ lb then
    let i0 := (rect.xMin - row.left).tdiv row.siteSpacing
    let i1 := (rect.xMax - row.left).tdiv row.siteSpacing
    let i1 := if row.left + i1 * row.siteSpacing ≠ rect.xMax then i1 + 1 else i1
    if i1 > i0 then some (row.left + i0 * row.siteSpacing, row.left + i1 * row.siteSpacing)
    else none
  else none

def sortIntervals (intervals : List (Int × Int)) : List (Int × Int) :=
  intervals.insertionSort fun a b => toLex a ≤ toLex b

def extendInterval (top next : Int × Int) : Int × Int := (top.1, next.2)

def rowIntervals (arch : Architecture) (rects : List Rect) (row : Row) (r : Nat) :
    List (Int × Int) :=
  sortIntervals (mergeSorted Prod.fst Prod.snd extendInterval
    (sortIntervals (rects.filterMap (rectInterval arch row r))))

def findRegionIntervals (arch : Architecture) (regId : Int) :
    Except String (List (List (Int × Int))) :=
  match if regId < 0 then none else arch.regions[regId.toNat]? with
  | none => .error (internalError "Improper region id")
  | some region =>
    if region.id ≠ regId then .error (internalError "Improper region id")
    else .ok (arch.rows.zipIdx.map fun (row, r) => rowIntervals arch region.rects row r)

/-- A segment cut by the interval of a region, and the segments that come behind the others. -/
def cutSegment (reg : Int) (il ir : Int) (seg : DetailedSeg) (numSegments : Nat) :
    Except String (DetailedSeg × List DetailedSeg) :=
  let sl := seg.xmin
  let sr := seg.xmax
  if ir ≤ sl then .ok (seg, [])
  else if il ≥ sr then .ok (seg, [])
  else if il ≤ sl ∧ ir ≥ sr then .ok ({ seg with regId := reg }, [])
  else if il > sl ∧ ir ≥ sr then
    .ok ({ seg with xmax := il }, [⟨numSegments, seg.rowId, reg, il, sr⟩])
  else if ir < sr ∧ il ≤ sl then
    .ok ({ seg with xmin := ir }, [⟨numSegments, seg.rowId, reg, sl, ir⟩])
  else if il > sl ∧ ir < sr then
    .ok ({ seg with xmax := il }, [⟨numSegments, seg.rowId, reg, il, ir⟩,
      ⟨numSegments + 1, seg.rowId, seg.regId, ir, sr⟩])
  else .error (internalError "Unexpected problem while constructing segments")

def endsInside (il ir : Int) (seg : DetailedSeg) : Nat :=
  (if seg.xmin < il ∧ il < seg.xmax then 1 else 0) +
    if seg.xmin < ir ∧ ir < seg.xmax then 1 else 0

def scanMeasure (il ir : Int) (segs : List DetailedSeg) : Nat :=
  (segs.map fun seg => 3 * endsInside il ir seg + 1).sum

lemma cutSegment_measure {reg il ir : Int} {seg kept : DetailedSeg} {fresh : List DetailedSeg}
    {n : Nat} (cut : cutSegment reg il ir seg n = .ok (kept, fresh)) :
    scanMeasure il ir fresh < 3 * endsInside il ir seg + 1 := by
  rw [cutSegment] at cut
  split at cut
  · cases cut
    exact Nat.succ_pos _
  · split at cut
    · cases cut
      exact Nat.succ_pos _
    · split at cut
      · cases cut
        exact Nat.succ_pos _
      · split at cut
        · cases cut
          simp only [scanMeasure, endsInside, map_cons, map_nil, sum_cons,
            sum_nil]
          grind
        · split at cut
          · cases cut
            simp only [scanMeasure, endsInside, map_cons, map_nil, sum_cons,
              sum_nil]
            grind
          · split at cut
            · cases cut
              simp only [scanMeasure, endsInside, map_cons, map_nil, sum_cons,
                sum_nil]
              grind
            · cases cut

/-- The segments of a row one after the other; those cut off are met again at the end. -/
def scanSegments (reg il ir : Int) (segs : List DetailedSeg) (numSegments : Nat) :
    Except String (List DetailedSeg × Nat) :=
  match segs with
  | [] => .ok ([], numSegments)
  | seg :: rest =>
    match _cut : cutSegment reg il ir seg numSegments with
    | .error msg => .error msg
    | .ok (kept, fresh) =>
      match scanSegments reg il ir (rest ++ fresh) (numSegments + fresh.length) with
      | .error msg => .error msg
      | .ok (after, count) => .ok (kept :: after, count)
termination_by scanMeasure il ir segs
decreasing_by
  have less := cutSegment_measure _cut
  simp only [scanMeasure, map_append, sum_append, map_cons, sum_cons] at less ⊢
  omega

def cutRow (reg : Int) : List (Int × Int) → List DetailedSeg → Nat →
    Except String (List DetailedSeg × Nat)
  | [], segs, numSegments => .ok (segs, numSegments)
  | (il, ir) :: intervals, segs, numSegments => do
    let (segs, numSegments) ← scanSegments reg il ir segs numSegments
    cutRow reg intervals segs numSegments

def cutRows (reg : Int) : List (List (Int × Int)) → List (List DetailedSeg) → Nat →
    Except String SegState
  | intervals :: rest, segs :: segsInRow, numSegments => do
    let (segs, numSegments) ← cutRow reg intervals segs numSegments
    let after ← cutRows reg rest segsInRow numSegments
    .ok { after with segsInRow := segs :: after.segsInRow }
  | _, segsInRow, numSegments => .ok ⟨segsInRow, numSegments⟩

/-- The segments cut by the regions from a given one on. -/
def cutRegions (arch : Architecture) : Nat → List Group → SegState → Except String SegState
  | _, [], state => .ok state
  | reg, region :: regions, state => do
    let intervals ← findRegionIntervals arch region.id
    let state ← cutRows reg intervals state.segsInRow state.numSegments
    cutRegions arch (reg + 1) regions state

/-- The ends of a segment moved to the sites of its row. -/
def alignSegment (row : Row) (seg : DetailedSeg) : DetailedSeg :=
  let ix := (seg.xmin - row.left).tdiv row.siteSpacing
  let ix := if row.left + ix * row.siteSpacing < seg.xmin then ix + 1 else ix
  let xmin := if row.left + ix * row.siteSpacing ≠ seg.xmin then row.left + ix * row.siteSpacing
    else seg.xmin
  let ix := (seg.xmax - row.left).tdiv row.siteSpacing
  let xmax := if row.left + ix * row.siteSpacing ≠ seg.xmax then row.left + ix * row.siteSpacing
    else seg.xmax
  { seg with xmin := xmin, xmax := xmax }

def findSegments (arch : Architecture) (blockages : List (List Blockage)) :
    Except String SegState := do
  let state ← cutRegions arch 0 arch.regions (firstSegments arch 0 0 arch.rows blockages)
  let aligned := List.zipWith (fun row => List.map (alignSegment row)) arch.rows state.segsInRow
  .ok { state with segsInRow := aligned }

end OpenRoad.Dpl
