import OpenRoad.Dpl.Segments
import OpenRoad.Dpl.Journal

/-! Moves of cells over several rows into a gap that all the rows have at the same place. -/

namespace OpenRoad.Dpl

inductive Power
  | UNK
  | VDD
  | VSS
deriving DecidableEq

structure PowerRails where
  bottom : Power
  top : Power
deriving DecidableEq

structure RowMgr extends DetailedMgr where
  arch : Architecture
  segsInRow : List (List DetailedSeg)
  segments : Nat → DetailedSeg
  groupId : Nat → Int
  rowPower : Nat → PowerRails
  nodePower : Nat → PowerRails

inductive MoveError
  | outOfRange (index : Int)
  | internal (msg : String)
deriving DecidableEq

def elementAt {α : Type} (xs : List α) (i : Int) : Except MoveError α :=
  match if i < 0 then none else xs[i.toNat]? with
  | some x => .ok x
  | none => .error (.outOfRange i)

def Architecture.getRow (arch : Architecture) (r : Int) : Except MoveError Row :=
  elementAt arch.rows r

def Architecture.getCellHeightInRows (arch : Architecture) (node : Node) : Int :=
  lround node.height arch.singleRowHeight

def powerFits (nd row : Power) : Bool := nd = row ∨ nd = .UNK ∨ row = .UNK

/-- Whether the cell can begin in a row, and whether it has to be flipped there. -/
def RowMgr.powerCompatible (mgr : RowMgr) (n : Nat) (node : Node) (lo : Int) :
    Except MoveError (Option Bool) := do
  let row ← mgr.arch.getRow lo
  let spanned := lround node.height row.height
  let hi := lo + spanned - 1
  -- the size is unsigned, so that a negative row counts as one above the top
  if hi < 0 ∨ hi ≥ mgr.arch.rows.length then .ok none
  else do
    let _ ← mgr.arch.getRow hi
    let rowBot := (mgr.rowPower lo.toNat).bottom
    let rowTop := (mgr.rowPower hi.toNat).top
    let nd := mgr.nodePower n
    if hi = lo then .ok (some (¬ powerFits nd.bottom rowBot ∨ ¬ powerFits nd.top rowTop))
    else if powerFits nd.bottom rowBot ∧ powerFits nd.top rowTop then .ok (some false)
    else if powerFits nd.top rowBot ∧ powerFits nd.bottom rowTop then .ok (some true)
    else .ok none

def segmentAt (regId xj : Int) (segs : List DetailedSeg) : Option Nat :=
  (segs.find? fun seg => seg.regId = regId ∧ xj ≥ seg.xmin ∧ xj ≤ seg.xmax).map DetailedSeg.segId

/-- The segments at the target row by row, as far as each row has one. -/
def RowMgr.segmentsAt (mgr : RowMgr) (regId xj rb : Int) : Nat → Except MoveError (List Nat)
  | 0 => .ok []
  | count + 1 => do
    let segs ← elementAt mgr.segsInRow rb
    match segmentAt regId xj segs with
    | none => .ok []
    | some seg => do
      let rest ← mgr.segmentsAt regId xj (rb + 1) count
      .ok (seg :: rest)

/-- The cells to the left and to the right of a place. -/
def neighbours (s : PlacementState) (n : Nat) (xj : Int) (cells : List Nat) :
    Option Nat × Option Nat :=
  let place := (cells.takeWhile fun c => (s.nodes c).getCenterX < xj).length
  match cells.drop place with
  -- a step back from the end is at the last cell again, also where that is the cell itself
  | [] => (cells.getLast?, none)
  | rite :: _ =>
    match (cells.take place).reverse with
    | [] => (none, some rite)
    | left :: further => (if left = n then further.head? else some left, some rite)

/-- What is left of an interval in all of the segments, if the cell fits into each. -/
def RowMgr.commonGap (mgr : RowMgr) (s : PlacementState) (n : Nat) (xj : Int) :
    List Nat → Int × Int → Option (Int × Int)
  | [], gap => some gap
  | seg :: segs, (xmin, xmax) =>
    let segPtr := mgr.segments seg
    let (left, rite) := neighbours s n xj (s.cellsInSeg seg)
    if left = some n ∨ rite = some n then none
    else
      let node := s.nodes n
      let lx := left.elim segPtr.xmin fun c =>
        (s.nodes c).getRight + mgr.arch.getCellSpacing (some (s.nodes c)) (some node)
      let rx := rite.elim segPtr.xmax fun c =>
        (s.nodes c).left - mgr.arch.getCellSpacing (some node) (some (s.nodes c))
      if node.width ≤ rx - lx then mgr.commonGap s n xj segs (max xmin lx, min xmax rx) else none

/-- The site next to the target such that the cell is in the interval. -/
def Architecture.alignPos (arch : Architecture) (node : Node) (xi xl xr : Int) :
    Except MoveError (Option Int) := do
  let row ← arch.getRow 0
  let xr := xr - node.width
  let xp := max xl (min xr xi)
  let ix := (xp - row.left).tdiv row.siteSpacing
  let xp := row.left + ix * row.siteSpacing
  let xp := if xp < xl then xp + row.siteSpacing
    else if xp > xr then xp - row.siteSpacing
    else xp
  .ok (if xp < xl ∨ xp > xr then none else some xp)

/-- The row at the bottom lowered as long as the loop asks for it. -/
def clampRow (size spanned rb : Int) : Int :=
  if rb + spanned ≥ size then clampRow size spanned (rb - 1) else rb
termination_by (rb + spanned + 1 - size).toNat

/-- The rows from the bottom to the top that the cell is tried in. -/
def RowMgr.targetRows (mgr : RowMgr) (s : PlacementState) (n sj : Nat) : Option (Int × Int) :=
  let spanned := mgr.arch.getCellHeightInRows (s.nodes n)
  if spanned ≤ 1 ∨ spanned ≠ (s.reverseCellToSegs n).length then none
  else
    let rb := clampRow mgr.arch.rows.length spanned (mgr.segments sj).rowId
    some (rb, rb + spanned - 1)

def liftInternal {α : Type} : Except String α → Except MoveError α
  | .ok a => .ok a
  | .error msg => .error (.internal msg)

/-- A gap in all of the rows, and the move into it. -/
def RowMgr.moveInto (mgr : RowMgr) (s : PlacementState) (n : Nat) (xj rb rt : Int) :
    Except MoveError (Option (PlacementState × Journal)) := do
  let node := s.nodes n
  match ← mgr.powerCompatible n node rb with
  | none => .ok none
  | some _ => do
    let spanned := rt + 1 - rb
    let segs ← mgr.segmentsAt (mgr.groupId n) xj rb spanned.toNat
    if segs.length ≠ spanned then .ok none
    else match mgr.commonGap s n xj segs (-2147483648, 2147483647) with
      | none => .ok none
      | some (xmin, xmax) =>
        if node.width ≤ xmax - xmin then do
          match ← mgr.arch.alignPos node xj xmin xmax with
          | none => .ok none
          | some x => do
            let row ← mgr.arch.getRow rb
            liftInternal (addToMoveListSegs mgr.toDetailedMgr n node.left node.bottom
              (s.reverseCellToSegs n) x row.bottom (segs.map Int.ofNat) s Journal.empty)
        else .ok none

def RowMgr.tryMove3 (mgr : RowMgr) (s : PlacementState) (n : Nat) (xj : Int) (sj : Nat) :
    Except MoveError (Option (PlacementState × Journal)) :=
  match mgr.targetRows s n sj with
  | none => .ok none
  | some (rb, rt) => mgr.moveInto s n xj rb rt

lemma clampRow_above {size spanned rb : Int} (above : rb + spanned ≥ size) :
    clampRow size spanned rb = clampRow size spanned (rb - 1) := by
  rw [clampRow, if_pos above]

lemma clampRow_below {size spanned rb : Int} (below : rb + spanned < size) :
    clampRow size spanned rb = rb := by
  rw [clampRow, if_neg (by omega)]

lemma clampRow_eq (size spanned rb : Int) :
    clampRow size spanned rb = min rb (size - spanned - 1) := by
  induction rb using clampRow.induct size spanned with
  | case1 rb above ih =>
    rw [clampRow_above above, ih]
    omega
  | case2 rb below =>
    rw [clampRow_below (by omega)]
    omega

def wantedRows (size spanned r : Int) : Int × Int :=
  if r + spanned ≤ size then (r, r + spanned - 1) else (size - spanned, size - 1)

lemma clamped_wanted_iff (size spanned r : Int) :
    (clampRow size spanned r, clampRow size spanned r + spanned - 1) = wantedRows size spanned r ↔
      r + spanned < size := by
  rw [clampRow_eq, wantedRows]
  split <;> simp only [Prod.mk.injEq] <;> omega

section Targets

variable (mgr : RowMgr) (s : PlacementState) (n sj : Nat)

def RowMgr.Tries (mgr : RowMgr) (s : PlacementState) (n : Nat) : Prop :=
  (s.reverseCellToSegs n).length = mgr.arch.getCellHeightInRows (s.nodes n)

lemma targetRows_of_tries (multi : 2 ≤ mgr.arch.getCellHeightInRows (s.nodes n))
    (tries : mgr.Tries s n) :
    mgr.targetRows s n sj =
      some (clampRow mgr.arch.rows.length (mgr.arch.getCellHeightInRows (s.nodes n))
          (mgr.segments sj).rowId,
        clampRow mgr.arch.rows.length (mgr.arch.getCellHeightInRows (s.nodes n))
          (mgr.segments sj).rowId + mgr.arch.getCellHeightInRows (s.nodes n) - 1) := by
  rw [RowMgr.Tries] at tries
  rw [RowMgr.targetRows, if_neg (by omega)]

lemma targetRows_of_not_tries (idle : ¬ mgr.Tries s n) : mgr.targetRows s n sj = none := by
  rw [RowMgr.Tries] at idle
  rw [RowMgr.targetRows, if_pos (by omega)]

end Targets

def InRange {α : Type} (result : Except MoveError α) : Prop :=
  ∀ i, result ≠ .error (.outOfRange i)

lemma inRange_ok {α : Type} (a : α) : InRange (.ok a) := by
  intro i stopped
  cases stopped

lemma inRange_bind {α β : Type} {first : Except MoveError α} {next : α → Except MoveError β}
    (before : InRange first) (after : ∀ a, InRange (next a)) : InRange (first >>= next) := by
  cases first with
  | ok a => exact after a
  | error e =>
    intro i stopped
    cases stopped
    exact before i rfl

lemma elementAt_inRange {α : Type} {xs : List α} {i : Int} (low : 0 ≤ i)
    (high : i < xs.length) : InRange (elementAt xs i) := by
  have inside : i.toNat < xs.length := by omega
  rw [elementAt, if_neg (by omega), List.getElem?_eq_getElem inside]
  exact inRange_ok _

lemma liftInternal_inRange {α : Type} (result : Except String α) :
    InRange (liftInternal result) := by
  intro i stopped
  cases result with
  | ok a => cases stopped
  | error msg => cases stopped

lemma powerCompatible_inRange (mgr : RowMgr) (n : Nat) (node : Node) {lo : Int} (low : 0 ≤ lo)
    (high : lo < mgr.arch.rows.length) : InRange (mgr.powerCompatible n node lo) := by
  rw [RowMgr.powerCompatible]
  apply inRange_bind (elementAt_inRange low high)
  intro row
  simp only
  split
  · exact inRange_ok _
  · rename_i inside
    apply inRange_bind (elementAt_inRange (by omega) (by omega))
    intro _
    repeat' split
    all_goals exact inRange_ok _

lemma segmentsAt_inRange (mgr : RowMgr) (regId xj : Int) (count : Nat) :
    ∀ rb : Int, 0 ≤ rb → rb + count ≤ mgr.segsInRow.length →
      InRange (mgr.segmentsAt regId xj rb count) := by
  induction count with
  | zero =>
    intro rb _ _
    exact inRange_ok _
  | succ count ih =>
    intro rb low high
    rw [RowMgr.segmentsAt]
    apply inRange_bind (elementAt_inRange low (by omega))
    intro segs
    cases segmentAt regId xj segs with
    | none => exact inRange_ok _
    | some seg =>
      apply inRange_bind (ih (rb + 1) (by omega) (by omega))
      intro rest
      exact inRange_ok _

lemma alignPos_inRange {arch : Architecture} (node : Node) (xi xl xr : Int)
    (rows : 0 < arch.rows.length) : InRange (arch.alignPos node xi xl xr) := by
  apply inRange_bind (elementAt_inRange (by omega) (by omega))
  intro row
  exact inRange_ok _

lemma moveInto_inRange (mgr : RowMgr) (s : PlacementState) (n : Nat) (xj : Int) {rb rt : Int}
    (low : 0 ≤ rb) (order : rb ≤ rt) (high : rt < mgr.arch.rows.length)
    (lists : mgr.segsInRow.length = mgr.arch.rows.length) :
    InRange (mgr.moveInto s n xj rb rt) := by
  rw [RowMgr.moveInto]
  apply inRange_bind (powerCompatible_inRange mgr n _ low (by omega))
  intro compatible
  cases compatible with
  | none => exact inRange_ok _
  | some flip =>
    apply inRange_bind (segmentsAt_inRange mgr _ xj _ rb low (by omega))
    intro segs
    split
    · exact inRange_ok _
    · split
      · exact inRange_ok _
      · split
        · apply inRange_bind (alignPos_inRange _ _ _ _ (by omega))
          intro aligned
          cases aligned with
          | none => exact inRange_ok _
          | some x =>
            apply inRange_bind (elementAt_inRange low (by omega))
            intro row
            exact liftInternal_inRange _
        · exact inRange_ok _

/-- The rows are the wanted ones exactly where one more row is above. -/
theorem move_uses_real_rows_iff (mgr : RowMgr) (s : PlacementState) (n : Nat) (xj : Int) (sj : Nat)
    (lists : mgr.segsInRow.length = mgr.arch.rows.length)
    (multi : 2 ≤ mgr.arch.getCellHeightInRows (s.nodes n)) :
    (InRange (mgr.tryMove3 s n xj sj) ∧ ∀ rows, mgr.targetRows s n sj = some rows →
          rows = wantedRows mgr.arch.rows.length (mgr.arch.getCellHeightInRows (s.nodes n))
            (mgr.segments sj).rowId) ↔
      (mgr.Tries s n → (mgr.segments sj).rowId + mgr.arch.getCellHeightInRows (s.nodes n) <
          mgr.arch.rows.length) := by
  by_cases tries : mgr.Tries s n
  · have rows := targetRows_of_tries mgr s n sj multi tries
    constructor
    · intro ⟨_, wanted⟩ _
      exact (clamped_wanted_iff _ _ _).mp (wanted _ rows)
    · intro below
      have below := below tries
      have wanted := (clamped_wanted_iff _ _ _).mpr below
      constructor
      · rw [RowMgr.tryMove3, rows]
        simp only
        rw [clampRow_below below]
        exact moveInto_inRange mgr s n xj (by omega) (by omega) (by omega) lists
      · intro tried found
        rw [rows] at found
        cases found
        exact wanted
  · have idle := targetRows_of_not_tries mgr s n sj tries
    constructor
    · intro _ tried
      exact absurd tried tries
    · intro _
      constructor
      · rw [RowMgr.tryMove3, idle]
        exact inRange_ok _
      · intro rows found
        rw [idle] at found
        cases found

/-- Two rows of 100 sites, each a segment of its own. -/
def twoRowMgr : RowMgr where
  grid := ⟨1, [0, 10], 20, 100, 2, fun _ _ _ => some .R0⟩
  rowHeight := 10
  moveLimit := 10
  maxDispX := 100
  maxDispY := 100
  singleHeightCells := []
  multiHeightCells := []
  arch := ⟨[⟨0, 0, 10, 1, 100⟩, ⟨0, 10, 10, 1, 100⟩], [], 0, 100, 0, 20, false, 1⟩
  segsInRow := [[⟨0, 0, -1, 0, 100⟩], [⟨1, 1, -1, 0, 100⟩]]
  segments := fun seg => ⟨seg, seg, -1, 0, 100⟩
  groupId := fun _ => -1
  rowPower := fun _ => ⟨.UNK, .UNK⟩
  nodePower := fun _ => ⟨.UNK, .UNK⟩

/-- One cell at the left end of the given segments. -/
def tallState (height : Int) (segs : List Int) : PlacementState where
  nodes := fun _ => { left := 0, bottom := 0, width := 5, height := height }
  pixels := fun _ _ => ⟨none, 0, none⟩
  cellsInSeg := fun seg => if seg ∈ segs then [0] else []
  segUtil := fun seg => if seg ∈ segs then 5 else 0
  reverseCellToSegs := fun _ => segs

/-- A cell as high as the core, with its target in the lowest row. -/
theorem row_below_core : twoRowMgr.targetRows (tallState 20 [0, 1]) 0 0 = some (-1, 0) ∧
      twoRowMgr.tryMove3 (tallState 20 [0, 1]) 0 50 0 = .error (.outOfRange (-1)) ∧
      ¬ InRange (twoRowMgr.tryMove3 (tallState 20 [0, 1]) 0 50 0) := by
  have rows : twoRowMgr.targetRows (tallState 20 [0, 1]) 0 0 = some (-1, 0) := by
    have tries : twoRowMgr.Tries (tallState 20 [0, 1]) 0 := by
      rw [RowMgr.Tries]
      decide
    rw [targetRows_of_tries twoRowMgr _ 0 0 (by decide) tries, clampRow_eq]
    rfl
  have stopped : twoRowMgr.tryMove3 (tallState 20 [0, 1]) 0 50 0 = .error (.outOfRange (-1)) := by
    rw [RowMgr.tryMove3, rows]
    rfl
  refine ⟨rows, stopped, ?_⟩
  intro inside
  exact inside (-1) stopped

theorem move_uses_real_rows_two : twoRowMgr.segsInRow.length = twoRowMgr.arch.rows.length ∧
      ((InRange (twoRowMgr.tryMove3 (tallState 20 [0, 1]) 0 50 0) ∧
          ∀ rows, twoRowMgr.targetRows (tallState 20 [0, 1]) 0 0 = some rows →
            rows = wantedRows 2 2 0) ↔
        (twoRowMgr.Tries (tallState 20 [0, 1]) 0 → (0 : Int) + 2 < 2)) :=
  ⟨rfl, move_uses_real_rows_iff twoRowMgr (tallState 20 [0, 1]) 0 50 0 rfl (by decide)⟩

end OpenRoad.Dpl
