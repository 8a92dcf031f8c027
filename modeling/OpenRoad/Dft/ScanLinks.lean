import Mathlib.Tactic

/-! `ScanStitch::Stitch` on one scan chain. -/

namespace OpenRoad.Dft

open List Function

inductive ScanInDriver
  | scanInPort
  | scanOut (cell : Nat)

structure StitchedCells where
  scanEnable : Nat → Bool
  scanIn : Nat → Option ScanInDriver
  scanOut : Nat → Bool

namespace StitchedCells

def connectScanEnable (cells : StitchedCells) (cell : Nat) : StitchedCells :=
  { cells with scanEnable := update cells.scanEnable cell true }

def connectScanIn (cells : StitchedCells) (cell : Nat) (driver : ScanInDriver) : StitchedCells :=
  { cells with scanIn := update cells.scanIn cell (some driver) }

def connectScanOut (cells : StitchedCells) (cell : Nat) : StitchedCells :=
  { cells with scanOut := update cells.scanOut cell true }

def unconnected : StitchedCells := ⟨fun _ => false, fun _ => none, fun _ => false⟩

/-- The loop over the deque; on its last element `it + 1` is the end, which has no element. -/
def linkMiddle : List Nat → StitchedCells → Option StitchedCells
  | [], cells => some cells
  | [_], _ => none
  | current :: next :: rest, cells =>
      linkMiddle (next :: rest) (cells.connectScanIn next (.scanOut current))

def stitch (cellCount : Nat) : Option StitchedCells := do
  let scan_cells := range cellCount
  let enabled := scan_cells.foldl connectScanEnable unconnected
  let first_scan_cell ← scan_cells.head?
  let last_scan_cell ← scan_cells.getLast?
  let scan_cells := scan_cells.tail.dropLast
  let linked ← linkMiddle scan_cells enabled
  let started := (linked.connectScanEnable first_scan_cell).connectScanIn first_scan_cell
    .scanInPort
  let joined := match scan_cells with
    | cell :: _ => started.connectScanIn cell (.scanOut first_scan_cell)
    | [] =>
        if last_scan_cell ≠ first_scan_cell then
          started.connectScanIn last_scan_cell (.scanOut first_scan_cell)
        else started
  return joined.connectScanOut last_scan_cell

structure Linked (cells : StitchedCells) (cellCount : Nat) : Prop where
  first : cells.scanIn 0 = some .scanInPort
  next : ∀ k, k + 1 < cellCount → cells.scanIn (k + 1) = some (.scanOut k)
  nothing_else : ∀ cell, cellCount ≤ cell → cells.scanIn cell = none
  load : ∀ cell, cells.scanOut cell = true ↔ cell + 1 = cellCount
  enabled : ∀ cell, cells.scanEnable cell = true ↔ cell < cellCount

lemma linkMiddle_reads_end {middle : List Nat} (notEmpty : middle ≠ []) (cells : StitchedCells) :
    linkMiddle middle cells = none := by
  induction middle generalizing cells with
  | nil => contradiction
  | cons current rest ih =>
      cases rest with
      | nil => rfl
      | cons next rest => exact ih (by simp) _

lemma stitch_reads_end (k : Nat) : stitch (k + 3) = none := by
  have middle : (range (k + 3)).tail.dropLast ≠ [] := by
    intro empty
    have length := congrArg List.length empty
    simp at length
  simp only [stitch, linkMiddle_reads_end middle]
  cases (range (k + 3)).head? <;> cases (range (k + 3)).getLast? <;> rfl

lemma enable_all (cellCount : Nat) : (range cellCount).foldl connectScanEnable unconnected =
    { unconnected with scanEnable := fun cell => cell < cellCount } := by
  induction cellCount with
  | zero => simp [unconnected]
  | succ cellCount ih =>
      rw [range_succ, foldl_append, ih, foldl_cons, foldl_nil, connectScanEnable]
      simp only [mk.injEq, and_true]
      funext cell
      rw [update_apply]
      split <;> simp <;> omega

lemma stitch_one : ∃ cells, stitch 1 = some cells ∧ cells.Linked 1 := by
  have enabled := enable_all 1
  refine ⟨(((foldl connectScanEnable unconnected (range 1)).connectScanEnable 0).connectScanIn 0
    .scanInPort).connectScanOut 0, rfl, ?_⟩
  rw [enabled]
  constructor
  case first => rfl
  case next =>
    intro k inside
    omega
  all_goals
    intro cell
    simp [connectScanOut, connectScanIn, connectScanEnable, unconnected, update_apply]
    try omega

lemma stitch_two : ∃ cells, stitch 2 = some cells ∧ cells.Linked 2 := by
  have enabled := enable_all 2
  refine ⟨((((foldl connectScanEnable unconnected (range 2)).connectScanEnable 0).connectScanIn 0
    .scanInPort).connectScanIn 1 (.scanOut 0)).connectScanOut 1, rfl, ?_⟩
  rw [enabled]
  constructor
  case first => rfl
  case next =>
    intro k inside
    obtain rfl : k = 0 := by omega
    rfl
  case nothing_else =>
    intro cell outside
    have notFirst : cell ≠ 0 := by omega
    have notLast : cell ≠ 1 := by omega
    simp [connectScanOut, connectScanIn, connectScanEnable, unconnected, notFirst, notLast]
  all_goals
    intro cell
    simp [connectScanOut, connectScanIn, connectScanEnable, unconnected, update_apply]
    try omega

theorem stitch_links_iff (k : Nat) :
    (∃ cells, stitch (k + 1) = some cells ∧ cells.Linked (k + 1)) ↔ k + 1 ≤ 2 := by
  match k with
  | 0 => exact iff_of_true stitch_one (by decide)
  | 1 => exact iff_of_true stitch_two (by decide)
  | k + 2 => simp [stitch_reads_end]

theorem three_cells_read_end : ¬ ∃ cells, stitch 3 = some cells ∧ cells.Linked 3 := by
  intro linked
  obtain ⟨cells, stitched, _⟩ := linked
  have none : stitch 3 = none := rfl
  rw [none] at stitched
  contradiction

end StitchedCells

end OpenRoad.Dft
