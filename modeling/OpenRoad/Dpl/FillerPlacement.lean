import OpenRoad.Dpl.Objects

/-! Filler cells in the gaps of the rows. -/

namespace OpenRoad.Dpl

structure FillerMaster where
  name : String
  width : Nat
deriving DecidableEq

def FillerMaster.sites (master : FillerMaster) (siteWidth : Nat) : Nat := master.width / siteWidth

/-- Every turn of the inner loop, and every step of the outer one, takes fuel. What was placed is
thrown away at the end. -/
def fillLoop (siteWidth gap : Nat) (haveFiller1 : Bool) :
    Nat → List FillerMaster → Nat → List FillerMaster → Option (List FillerMaster)
  | 0, _, _, _ => none
  | _ + 1, [], _, _ => some []
  | fuel + 1, fillerMaster :: rest, width, fillers =>
    let fillerWidth := fillerMaster.sites siteWidth
    if width + fillerWidth ≤ gap ∧ (haveFiller1 = true ∨ width + fillerWidth + 1 ≠ gap) then
      if width + fillerWidth = gap then some (fillers ++ [fillerMaster])
      else fillLoop siteWidth gap haveFiller1 fuel (fillerMaster :: rest) (width + fillerWidth)
        (fillers ++ [fillerMaster])
    else fillLoop siteWidth gap haveFiller1 fuel rest width fillers

def haveFiller1 (siteWidth : Nat) (fillerMasters : List FillerMaster) : Bool :=
  fillerMasters.getLast?.any fun smallest => smallest.width = siteWidth

def fillGap (siteWidth gap fuel : Nat) (fillerMasters : List FillerMaster) :
    Option (List FillerMaster) :=
  fillLoop siteWidth gap (haveFiller1 siteWidth fillerMasters) fuel fillerMasters 0 []

abbrev Implant := Option Nat

abbrev MasterByImplant := List (Implant × List FillerMaster)

abbrev GapFillers := Implant → Nat → List FillerMaster

/-- An error of the logger, or a null pointer that its message follows. -/
inductive FillerError
  | noFillers (implant : Nat)
  | couldNotFill (gap : Nat) (column : Nat)
  | nullPointer
deriving DecidableEq

def gapFillers (siteWidth : Nat) (masters : MasterByImplant) (fuel : Nat) (implant : Implant)
    (gap : Nat) (gap_fillers : GapFillers) :
    Option (Except FillerError (List FillerMaster × GapFillers)) :=
  match masters.lookup implant with
  | none => some (.error (implant.elim .nullPointer .noFillers))
  | some fillerMasters =>
    if gap_fillers implant gap = [] then
      (fillGap siteWidth gap fuel fillerMasters).map fun fillers =>
        .ok (fillers, Function.update gap_fillers implant
          (Function.update (gap_fillers implant) gap fillers))
    else some (.ok (gap_fillers implant gap, gap_fillers))

structure FillerPixel where
  cell : Option Implant
  is_valid : Bool
deriving DecidableEq

def FillerPixel.free (pixel : FillerPixel) : Bool := pixel.cell.isNone && pixel.is_valid

structure FillerInst where
  name : String
  master : FillerMaster
  x : Int
  y : Int
  orient : OrientType
deriving DecidableEq

/-- A row of the grid: its number, its pixels, where it is and what `getShortestSite` has for it. -/
structure FillerRow where
  index : Nat
  pixels : List FillerPixel
  y : Int
  orient : Nat → OrientType

/-- The implant of the cell on the left of the gap; of that on the right at the start of the row. -/
def gapImplant (masters : MasterByImplant) (pixels : List FillerPixel) (j k : Nat) : Implant :=
  if 0 < j then (pixels[j - 1]?.bind FillerPixel.cell).join
  else if k < pixels.length then (pixels[k]?.bind FillerPixel.cell).join
  else (masters.head?.map Prod.fst).join

/-- The fillers side by side from a column on. -/
def placeFillers (siteWidth : Nat) (coreXMin : Int) (namePrefix : String) (row : FillerRow)
    (orient : OrientType) : Nat → List FillerMaster → List FillerInst
  | _, [] => []
  | k, master :: fillers =>
    { name := namePrefix ++ toString row.index ++ "_" ++ toString k
      master := master
      x := coreXMin + k * siteWidth
      y := row.y
      orient := orient } ::
      placeFillers siteWidth coreXMin namePrefix row orient (k + master.sites siteWidth) fillers

structure FillerState where
  gap_fillers : GapFillers
  placed : List FillerInst

def placeRowFillers (siteWidth : Nat) (coreXMin : Int) (namePrefix : String)
    (masters : MasterByImplant) (row : FillerRow) :
    Nat → Nat → FillerState → Option (Except FillerError FillerState)
  | 0, _, _ => none
  | fuel + 1, j, s =>
    match row.pixels[j]? with
    | none => some (.ok s)
    | some pixel =>
      if pixel.free = false then
        placeRowFillers siteWidth coreXMin namePrefix masters row fuel (j + 1) s
      else
        let gap := ((row.pixels.drop j).takeWhile FillerPixel.free).length
        match gapFillers siteWidth masters fuel (gapImplant masters row.pixels j (j + gap)) gap
          s.gap_fillers with
        | none => none
        | some (.error e) => some (.error e)
        | some (.ok ([], _)) =>
          -- `gridInstName(row, k + 1)` has no pixel behind the last one of the row.
          some (.error (if j + gap + 1 = row.pixels.length then .nullPointer
            else .couldNotFill gap j))
        | some (.ok (fillers, gap_fillers)) =>
          placeRowFillers siteWidth coreXMin namePrefix masters row fuel (j + gap)
            ⟨gap_fillers, s.placed ++
              placeFillers siteWidth coreXMin namePrefix row (row.orient j) j fillers⟩

/-- The rows one after the other; the fillers are those of each row. -/
def fillerPlacement (siteWidth : Nat) (coreXMin : Int) (namePrefix : String)
    (masters : MasterByImplant) (fuel : Nat) :
    List FillerRow → GapFillers → Option (Except FillerError (List (List FillerInst)))
  | [], _ => some (.ok [])
  | row :: rows, gap_fillers =>
    match placeRowFillers siteWidth coreXMin namePrefix masters row fuel 0 ⟨gap_fillers, []⟩ with
    | none => none
    | some (.error e) => some (.error e)
    | some (.ok s) =>
      match fillerPlacement siteWidth coreXMin namePrefix masters fuel rows s.gap_fillers with
      | none => none
      | some (.error e) => some (.error e)
      | some (.ok placed) => some (.ok (s.placed :: placed))

/-- The loop may place the master in what is left of a gap. -/
def mayPlace (siteWidth : Nat) (one : Bool) (left : Nat) (master : FillerMaster) : Bool :=
  master.sites siteWidth ≤ left ∧ (one = true ∨ master.sites siteWidth + 1 ≠ left)

variable {siteWidth : Nat} {one : Bool}

/-- The masters that are placed in what is left of a gap, or that the gap is not filled. -/
inductive Descends (siteWidth : Nat) (one : Bool) :
    List FillerMaster → Nat → Option (List FillerMaster) → Prop
  | fail {left} : Descends siteWidth one [] left none
  | fill {m ms left} (may : mayPlace siteWidth one left m = true) (fits : m.sites siteWidth = left) :
      Descends siteWidth one (m :: ms) left (some [m])
  | place {m ms left out} (may : mayPlace siteWidth one left m = true)
      (more : m.sites siteWidth ≠ left)
      (rest : Descends siteWidth one (m :: ms) (left - m.sites siteWidth) out) :
      Descends siteWidth one (m :: ms) left (out.map (m :: ·))
  | skip {m ms left out} (not : mayPlace siteWidth one left m = false)
      (rest : Descends siteWidth one ms left out) : Descends siteWidth one (m :: ms) left out

lemma mayPlace_iff {left : Nat} {m : FillerMaster} : mayPlace siteWidth one left m = true ↔
      m.sites siteWidth ≤ left ∧ (one = true ∨ m.sites siteWidth + 1 ≠ left) := by
  rw [mayPlace, decide_eq_true_eq]

lemma guard_iff {gap width : Nat} (inside : width ≤ gap) (m : FillerMaster) :
    (width + m.sites siteWidth ≤ gap ∧ (one = true ∨ width + m.sites siteWidth + 1 ≠ gap)) ↔
      mayPlace siteWidth one (gap - width) m = true := by
  rw [mayPlace_iff]
  constructor
  · rintro ⟨fits, more⟩
    exact ⟨by omega, more.imp_right fun h => by omega⟩
  · rintro ⟨fits, more⟩
    exact ⟨by omega, more.imp_right fun h => by omega⟩

lemma descends_of_fillLoop {gap fuel width : Nat} {ms fillers result : List FillerMaster}
    (inside : width ≤ gap) (ran : fillLoop siteWidth gap one fuel ms width fillers = some result) :
    ∃ out, Descends siteWidth one ms (gap - width) out ∧ result = out.elim [] (fillers ++ ·) := by
  induction fuel generalizing ms width fillers with
  | zero => exact absurd ran (by simp [fillLoop])
  | succ fuel ih =>
    cases ms with
    | nil => exact ⟨none, Descends.fail, (Option.some_injective _ ran).symm⟩
    | cons m ms =>
      rw [fillLoop] at ran
      simp only [guard_iff inside] at ran
      cases may : mayPlace siteWidth one (gap - width) m with
      | false =>
        rw [may, if_neg (by simp)] at ran
        rcases ih inside ran with ⟨out, rest, isResult⟩
        exact ⟨out, Descends.skip may rest, isResult⟩
      | true =>
        have fits := (mayPlace_iff.mp may).1
        rw [may, if_pos rfl] at ran
        by_cases last : width + m.sites siteWidth = gap
        · rw [if_pos last] at ran
          exact ⟨some [m], Descends.fill may (by omega), (Option.some_injective _ ran).symm⟩
        · rw [if_neg last] at ran
          rcases ih (by omega) ran with ⟨out, rest, isResult⟩
          rw [Nat.sub_add_eq] at rest
          refine ⟨out.map (m :: ·), Descends.place may (by omega) rest, ?_⟩
          rw [isResult]
          cases out with
          | none => rfl
          | some taken => simp

lemma fillLoop_of_descends {ms : List FillerMaster} {left : Nat}
    {out : Option (List FillerMaster)} (run : Descends siteWidth one ms left out) :
    ∃ fuel, ∀ more gap width fillers, width + left = gap →
      fillLoop siteWidth gap one (fuel + more) ms width fillers =
        some (out.elim [] (fillers ++ ·)) := by
  induction run with
  | fail => exact ⟨1, fun more gap width fillers _ => by rw [Nat.add_comm]; rfl⟩
  | @fill m ms left may fits =>
    refine ⟨1, fun more gap width fillers total => ?_⟩
    rw [Nat.add_comm, fillLoop]
    have rest : gap - width = left := by omega
    rw [if_pos ((guard_iff (by omega) m).mpr (by rw [rest]; exact may)), if_pos (by omega)]
    rfl
  | @place m ms left out may more' _ ih =>
    rcases ih with ⟨fuel, rest⟩
    refine ⟨fuel + 1, fun more gap width fillers total => ?_⟩
    have fits := (mayPlace_iff.mp may).1
    have isLeft : gap - width = left := by omega
    rw [Nat.add_right_comm, fillLoop]
    rw [if_pos ((guard_iff (by omega) m).mpr (by rw [isLeft]; exact may)), if_neg (by omega),
      rest more gap _ _ (by omega)]
    cases out with
    | none => rfl
    | some taken => simp
  | @skip m ms left out not _ ih =>
    rcases ih with ⟨fuel, rest⟩
    refine ⟨fuel + 1, fun more gap width fillers total => ?_⟩
    have isLeft : gap - width = left := by omega
    rw [Nat.add_right_comm, fillLoop]
    rw [if_neg fun guard => by
      have may := (guard_iff (by omega) m).mp guard
      rw [isLeft, not] at may
      exact absurd may (by simp)]
    exact rest more gap width fillers total

end OpenRoad.Dpl
