import OpenRoad.Lib.Packing

/-! Shifting ordered cells to the sites of an interval, by a table over sites and cells. -/

namespace OpenRoad.Dpl

open Lib

structure ShiftCell where
  width : Int
  leftPadding : Int
  rightPadding : Int

structure ShiftRow where
  originX : Int
  siteSpacing : Int
  siteWidth : Int
  leftLimit : Int
  rightLimit : Int
  usePadding : Bool

namespace ShiftRow

variable (row : ShiftRow)

def getCellSpacing (left right : ShiftCell) : Int :=
  if row.usePadding then max 0 (left.rightPadding + right.leftPadding) else 0

def i0 : Int :=
  let i0 := (row.leftLimit - row.originX).tdiv row.siteSpacing
  if row.originX + i0 * row.siteSpacing < row.leftLimit then i0 + 1 else i0

def i1 : Int :=
  let i1 := (row.rightLimit - row.originX).tdiv row.siteSpacing
  if row.rightLimit ≤ row.originX + i1 * row.siteSpacing + row.siteWidth then i1 - 1 else i1

def nsites : Int := row.i1 - row.i0 + 1

def siteX (site : Int) : Int := row.originX + site * row.siteSpacing

def spacedWidths : List ShiftCell → List Int
  | [] => []
  | [cell] => [cell.width]
  | cell :: next :: cells =>
    (cell.width + row.getCellSpacing cell next) :: spacedWidths (next :: cells)

def swid (cells : List ShiftCell) : List Int :=
  (row.spacedWidths cells).map fun width => width.tdiv row.siteSpacing

/-- A cell of the tables `tcost` and `prev`; `none` stands for the largest number and for -1. -/
structure Entry where
  cost : Option Int
  prev : Option (Nat × Nat)
  deriving DecidableEq

section

variable (cells : List ShiftCell) (targetLeft : List Int)

def cost (i : Int) (j : Nat) : Int :=
  let siteId := row.i0 + i - 1
  if siteId < (lefts row.i0 (row.swid cells)).getD j 0 ∨
      (rights (row.i1 + 1) (row.swid cells)).getD j 0 < siteId then 0
  else |row.siteX siteId - targetLeft.getD j 0|

def prevWid (j : Nat) : Int := if j = 0 then 1 else (row.swid cells).getD (j - 1) 0

def currWid (j : Nat) : Int := (row.swid cells).getD j 0

def skip (entry : Entry) (i j : Nat) : Entry := ⟨entry.cost, entry.cost.map fun _ => (i, j)⟩

def use (skipped : Entry) (before : Option Int) (cost : Int) (ii jj : Nat) : Entry :=
  match before with
  | none => skipped
  | some c =>
    if skipped.cost.all (c + cost < ·) then ⟨some (c + cost), some (ii, jj)⟩ else skipped

/-- The entries of the next cell, from those of the one before. -/
def column (j : Nat) (before : Nat → Entry) : Nat → Entry
  | 0 => ⟨none, none⟩
  | i + 1 =>
    let skipped := skip (column j before i) i (j + 1)
    let ii := (i : Int) + 1 - row.prevWid cells j
    if 0 ≤ ii ∧ row.i0 + i + row.currWid cells j - 1 ≤ row.i1 then
      use skipped (before ii.toNat).cost (row.cost cells targetLeft (i + 1) j) ii.toNat j
    else skipped

def table : Nat → Nat → Entry
  | 0 => fun i => if i = 0 then ⟨some 0, none⟩ else ⟨none, none⟩
  | j + 1 => row.column cells targetLeft j (table j)

/-- Whether the trace from an entry comes to the first one. -/
def test : Nat → Nat × Nat → Bool → Bool
  | 0, _, okay => okay
  | fuel + 1, curr, okay =>
    let okay := okay || decide (curr = (0, 0))
    match (row.table cells targetLeft curr.2 curr.1).prev with
    | none => okay
    | some next => test fuel next okay

/-- A trace that passed the test comes to the first entry. -/
def place : Nat → Nat × Nat → List Int → List Int
  | 0, _, posLeft => posLeft
  | fuel + 1, curr, posLeft =>
    if curr = (0, 0) then posLeft
    else match (row.table cells targetLeft curr.2 curr.1).prev with
      | none => posLeft
      | some next =>
        if curr.2 ≠ next.2 then
          place fuel next (posLeft.set (curr.2 - 1) (row.siteX (row.i0 + curr.1 - 1)))
        else place fuel next posLeft

def shift (posLeft : List Int) : Bool × List Int :=
  if row.nsites < (row.swid cells).sum then (false, posLeft)
  else if ∃ sites ∈ (lefts row.i0 (row.swid cells)).zip (rights (row.i1 + 1) (row.swid cells)),
      sites.2 < sites.1 then (false, posLeft)
  else
    let start := (row.nsites.toNat, cells.length)
    -- the trace goes down in every step
    let fuel := row.nsites.toNat + cells.length + 1
    if row.test cells targetLeft fuel start false then
      (true, row.place cells targetLeft fuel start posLeft)
    else (false, posLeft)

end

end ShiftRow

end OpenRoad.Dpl
