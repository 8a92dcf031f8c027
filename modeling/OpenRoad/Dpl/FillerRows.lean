import OpenRoad.Dpl.FillerGreedy
import Mathlib.Algebra.BigOperators.Ring.List
import Mathlib.Tactic.Linarith
import Mathlib.Tactic.Positivity

/-! Which sets of fillers fill the gaps of all rows, each site once. -/

namespace OpenRoad.Dpl

open List Function

variable {siteWidth : Nat} {masters fillers : List FillerMaster} {implant : Implant}
  {gap_fillers : GapFillers}

/-- What earlier calls for the masters of one implant may have left. -/
inductive Remembered (siteWidth : Nat) (implant : Implant) (masters : List FillerMaster) :
    GapFillers → Prop
  | start : Remembered siteWidth implant masters fun _ _ => []
  | call {gap_fillers fuel gap fillers gap_fillers'}
      (earlier : Remembered siteWidth implant masters gap_fillers)
      (ran : gapFillers siteWidth [(implant, masters)] fuel implant gap gap_fillers =
        some (.ok (fillers, gap_fillers'))) : Remembered siteWidth implant masters gap_fillers'

lemma Remembered.sound (remembered : Remembered siteWidth implant masters gap_fillers) (gap : Nat)
    (some' : gap_fillers implant gap ≠ []) :
    ∃ fuel, fillGap siteWidth gap fuel masters = some (gap_fillers implant gap) := by
  induction remembered with
  | start => exact absurd rfl some'
  | @call gap_fillers fuel gap' fillers gap_fillers' earlier ran ih =>
    rw [gapFillers, lookup_cons_self] at ran
    dsimp only at ran
    split at ran
    · rcases Option.map_eq_some_iff.mp ran with ⟨found, isFound, same⟩
      simp only [Except.ok.injEq, Prod.mk.injEq] at same
      rw [← same.2, update_self] at some' ⊢
      by_cases isGap : gap = gap'
      · rw [isGap, update_self]
        exact ⟨fuel, isFound⟩
      · rw [update_of_ne isGap] at some' ⊢
        exact ih some'
    · simp only [Option.some.injEq, Except.ok.injEq, Prod.mk.injEq] at ran
      rw [← ran.2] at some' ⊢
      exact ih some'

lemma gapFillers_found {fuel gap : Nat} {gap_fillers' : GapFillers}
    (remembered : Remembered siteWidth implant masters gap_fillers)
    (ran : gapFillers siteWidth [(implant, masters)] fuel implant gap gap_fillers =
      some (.ok (fillers, gap_fillers'))) :
    ∃ fuel, fillGap siteWidth gap fuel masters = some fillers := by
  rw [gapFillers, lookup_cons_self] at ran
  dsimp only at ran
  split at ran
  · rcases Option.map_eq_some_iff.mp ran with ⟨found, isFound, same⟩
    simp only [Except.ok.injEq, Prod.mk.injEq] at same
    exact ⟨fuel, by rw [isFound, same.1]⟩
  · rename_i known
    simp only [Option.some.injEq, Except.ok.injEq, Prod.mk.injEq] at ran
    rw [← ran.1]
    exact remembered.sound gap known

lemma gapFillers_ends {fuel gap : Nat}
    (ends : ∃ fillers, fillGap siteWidth gap fuel masters = some fillers) :
    ∃ fillers gap_fillers', gapFillers siteWidth [(implant, masters)] fuel implant gap
      gap_fillers = some (.ok (fillers, gap_fillers')) := by
  rw [gapFillers, lookup_cons_self]
  dsimp only
  split
  · rcases ends with ⟨fillers, found⟩
    rw [found]
    exact ⟨_, _, rfl⟩
  · exact ⟨_, _, rfl⟩

lemma fillGap_descends {gap fuel : Nat}
    (found : fillGap siteWidth gap fuel masters = some fillers) :
    ∃ out, Descends siteWidth (haveFiller1 siteWidth masters) masters gap out ∧
      fillers = out.getD [] := by
  rcases descends_of_fillLoop (Nat.zero_le gap) found with ⟨out, run, isFillers⟩
  refine ⟨out, run, ?_⟩
  rw [isFillers]
  cases out <;> rfl

lemma Descends.fillGap {gap : Nat} {out : Option (List FillerMaster)}
    (run : Descends siteWidth (haveFiller1 siteWidth masters) masters gap out) :
    ∃ fuel, ∀ more, Dpl.fillGap siteWidth gap (fuel + more) masters = some (out.getD []) := by
  rcases fillLoop_of_descends run with ⟨fuel, ran⟩
  refine ⟨fuel, fun more => ?_⟩
  rw [Dpl.fillGap, ran more gap 0 [] (Nat.zero_add gap)]
  cases out <;> rfl

lemma fillGap_filled {gap fuel : Nat}
    (found : fillGap siteWidth gap fuel masters = some fillers) (filled : fillers ≠ []) :
    Descends siteWidth (haveFiller1 siteWidth masters) masters gap (some fillers) := by
  rcases fillGap_descends found with ⟨out, run, isFillers⟩
  cases out with
  | none => exact absurd isFillers filled
  | some taken => rwa [isFillers]

lemma fillGap_failed {gap fuel : Nat} (some' : 1 ≤ gap)
    (found : fillGap siteWidth gap fuel masters = some []) :
    Descends siteWidth (haveFiller1 siteWidth masters) masters gap none := by
  rcases fillGap_descends found with ⟨out, run, isFillers⟩
  cases out with
  | none => exact run
  | some taken =>
    rcases run.first some' taken rfl with ⟨m, rest, isTaken, _⟩
    rw [isTaken] at isFillers
    exact absurd isFillers (by simp)

lemma widths_eq (whole : ∀ m ∈ fillers, m.width = m.sites siteWidth * siteWidth) :
    (fillers.map FillerMaster.width).sum =
      (fillers.map fun m => m.sites siteWidth).sum * siteWidth := by
  rw [← sum_map_mul_right]
  exact congrArg List.sum (map_congr_left whole)

def FillerInst.touches (siteWidth : Nat) (coreXMin : Int) (column : Nat) (filler : FillerInst) :
    Bool :=
  filler.x < coreXMin + (column + 1 : Nat) * siteWidth ∧
    coreXMin + column * siteWidth < filler.x + filler.master.width

/-- One filler is over the site, and over all of it. -/
def CoveredOnce (siteWidth : Nat) (coreXMin : Int) (placed : List FillerInst) (column : Nat) :
    Prop :=
  ∃ filler, placed.filter (FillerInst.touches siteWidth coreXMin column) = [filler] ∧
    filler.x ≤ coreXMin + column * siteWidth ∧
      coreXMin + (column + 1 : Nat) * siteWidth ≤ filler.x + filler.master.width

/-- Every free valid site is covered once, and no other place is. -/
def RowFilled (siteWidth : Nat) (coreXMin : Int) (row : FillerRow) (placed : List FillerInst) :
    Prop :=
  ∀ column, if row.pixels[column]?.any FillerPixel.free then
      CoveredOnce siteWidth coreXMin placed column
    else placed.filter (FillerInst.touches siteWidth coreXMin column) = []

/-- A gap of a row, with the implant of its neighbour; one more site may follow it. -/
structure RowGap where
  implant : Implant
  size : Nat
  nearEnd : Bool

def freeAt (pixels : List FillerPixel) (column : Nat) : Bool :=
  pixels[column]?.any FillerPixel.free

def gapAt (masters : MasterByImplant) (pixels : List FillerPixel) (j : Nat) : Option RowGap :=
  if freeAt pixels j = true ∧ (j = 0 ∨ freeAt pixels (j - 1) = false) then
    let size := ((pixels.drop j).takeWhile FillerPixel.free).length
    some ⟨gapImplant masters pixels j (j + size), size, j + size + 1 = pixels.length⟩
  else none

def rowGapsFrom (masters : MasterByImplant) (pixels : List FillerPixel) (j : Nat) : List RowGap :=
  (range' j (pixels.length - j)).filterMap (gapAt masters pixels)

def rowGaps (masters : MasterByImplant) (row : FillerRow) : List RowGap :=
  rowGapsFrom masters row.pixels 0

/-- The masters have the gap's implant, and some of them fill it. -/
def RowGap.Smooth (siteWidth : Nat) (implant : Implant) (masters : List FillerMaster)
    (gap : RowGap) : Prop :=
  gap.implant = implant ∧ Fillable siteWidth masters gap.size

/-- The message for the gap names a missing implant, or the cell past the end of the row. -/
def RowGap.Crashes (siteWidth : Nat) (implant : Implant) (masters : List FillerMaster)
    (gap : RowGap) : Prop :=
  gap.implant = none ∧ implant ≠ none ∨
    gap.implant = implant ∧ ¬ Fillable siteWidth masters gap.size ∧ gap.nearEnd = true

/-- The first gap that is not smooth, if there is one, is as said. -/
def FirstRough (smooth rough : RowGap → Prop) : List RowGap → Prop
  | [] => False
  | gap :: gaps => ¬ smooth gap ∧ rough gap ∨ smooth gap ∧ FirstRough smooth rough gaps

/-- An error says that masters or a way to fill the gap are missing. -/
def FillerError.Justified (siteWidth : Nat) (implant : Implant) (masters : List FillerMaster) :
    FillerError → Prop
  | .couldNotFill gap _ => ¬ Fillable siteWidth masters gap
  | .noFillers other => some other ≠ implant
  | .nullPointer => False

/-- The rows are filled, unless there is a reason why not. -/
def RowsFilled (siteWidth : Nat) (coreXMin : Int) (implant : Implant) (masters : List FillerMaster)
    (rows : List FillerRow) : Except FillerError (List (List FillerInst)) → Prop
  | .ok placed => List.Forall₂ (RowFilled siteWidth coreXMin) rows placed
  | .error e => e.Justified siteWidth implant masters

/-- Every gap is filled exactly if it can be, and every row with it. -/
structure FillsGaps (siteWidth : Nat) (implant : Implant) (masters : List FillerMaster)
    (rows : List FillerRow) : Prop where
  ends : ∀ gap_fillers gap, Remembered siteWidth implant masters gap_fillers → 1 ≤ gap →
    ∃ fuel fillers gap_fillers', gapFillers siteWidth [(implant, masters)] fuel implant gap
      gap_fillers = some (.ok (fillers, gap_fillers'))
  exact : ∀ gap_fillers fuel gap fillers gap_fillers',
    Remembered siteWidth implant masters gap_fillers → 1 ≤ gap →
    gapFillers siteWidth [(implant, masters)] fuel implant gap gap_fillers =
      some (.ok (fillers, gap_fillers')) → fillers ≠ [] →
        (∀ m ∈ fillers, m ∈ masters) ∧ (fillers.map FillerMaster.width).sum = gap * siteWidth
  complete : ∀ gap_fillers fuel gap gap_fillers',
    Remembered siteWidth implant masters gap_fillers → 1 ≤ gap →
    gapFillers siteWidth [(implant, masters)] fuel implant gap gap_fillers =
      some (.ok ([], gap_fillers')) → ¬ Fillable siteWidth masters gap
  covered : ∀ coreXMin namePrefix, ∃ fuel, ∀ more, ∃ result,
    fillerPlacement siteWidth coreXMin namePrefix [(implant, masters)] (fuel + more) rows
        (fun _ _ => []) = some result ∧
      RowsFilled siteWidth coreXMin implant masters rows result

section Gaps

variable {smooth rough rough' : RowGap → Prop} {gaps later : List RowGap}

lemma firstRough_append (early : ∀ gap ∈ gaps, smooth gap) :
    FirstRough smooth rough (gaps ++ later) ↔ FirstRough smooth rough later := by
  induction gaps with
  | nil => exact Iff.rfl
  | cons gap gaps ih =>
    rcases forall_mem_cons.mp early with ⟨first, early⟩
    rw [cons_append, FirstRough, ih early]
    simp [first]

lemma FirstRough.append (found : FirstRough smooth rough gaps) (later : List RowGap) :
    FirstRough smooth rough (gaps ++ later) := by
  induction gaps with
  | nil => exact absurd found id
  | cons gap gaps ih => exact found.imp_right fun both => ⟨both.1, ih both.2⟩

lemma FirstRough.unique (found : FirstRough smooth rough gaps)
    (found' : FirstRough smooth rough' gaps) : ∃ gap, ¬ smooth gap ∧ rough gap ∧ rough' gap := by
  induction gaps with
  | nil => exact absurd found id
  | cons gap gaps ih =>
    rcases found with ⟨isRough, holds⟩ | ⟨isSmooth, found⟩
    · exact ⟨gap, isRough, holds, (found'.resolve_right fun both => isRough both.1).2⟩
    · exact ih found (found'.resolve_left fun both => both.1 isSmooth).2

lemma FirstRough.not_smooth (found : FirstRough smooth rough gaps) : ¬ ∀ gap ∈ gaps, smooth gap := by
  intro all
  rw [← append_nil gaps, firstRough_append all] at found
  exact found

variable {byImplant : MasterByImplant} {pixels : List FillerPixel} {j column : Nat}

lemma free_of_gap (from' : j ≤ column)
    (inGap : column < j + ((pixels.drop j).takeWhile FillerPixel.free).length) :
    freeAt pixels column = true := by
  have free := @all_takeWhile _ FillerPixel.free (pixels.drop j)
  rcases takeWhile_prefix FillerPixel.free with ⟨rest, isList⟩
  generalize (pixels.drop j).takeWhile FillerPixel.free = gap at inGap free isList
  have inside : column - j < gap.length := by omega
  have isPixel : pixels[column]? = some gap[column - j] := by
    have at' : (pixels.drop j)[column - j]? = pixels[column]? := by
      rw [getElem?_drop, Nat.add_sub_cancel' from']
    rw [← at', ← isList, getElem?_append_left inside, getElem?_eq_getElem inside]
  rw [freeAt, isPixel, Option.any_some]
  exact all_eq_true.mp free _ (getElem_mem inside)

lemma not_free_behind :
    freeAt pixels (j + ((pixels.drop j).takeWhile FillerPixel.free).length) = false := by
  have first := head?_dropWhile_not FillerPixel.free (pixels.drop j)
  have split : (pixels.drop j).takeWhile FillerPixel.free ++
      (pixels.drop j).dropWhile FillerPixel.free = pixels.drop j := takeWhile_append_dropWhile
  rw [freeAt, ← getElem?_drop]
  nth_rewrite 1 [← split]
  rw [getElem?_append_right le_rfl, Nat.sub_self, ← head?_eq_getElem?]
  cases isFirst : ((pixels.drop j).dropWhile FillerPixel.free).head? with
  | none => rfl
  | some pixel =>
    rw [isFirst] at first
    simpa using first

lemma gapAt_fresh (byImplant : MasterByImplant) (free : freeAt pixels j = true)
    (fresh : j = 0 ∨ freeAt pixels (j - 1) = false) : gapAt byImplant pixels j =
      some ⟨gapImplant byImplant pixels j
          (j + ((pixels.drop j).takeWhile FillerPixel.free).length),
        ((pixels.drop j).takeWhile FillerPixel.free).length,
        j + ((pixels.drop j).takeWhile FillerPixel.free).length + 1 = pixels.length⟩ := by
  rw [gapAt, if_pos ⟨free, fresh⟩]

lemma rowGapsFrom_skip (noGap : gapAt byImplant pixels j = none) :
    rowGapsFrom byImplant pixels j = rowGapsFrom byImplant pixels (j + 1) := by
  rw [rowGapsFrom, rowGapsFrom]
  by_cases inside : j < pixels.length
  · rw [show pixels.length - j = (pixels.length - (j + 1)) + 1 by omega, range'_succ,
      filterMap_cons_none noGap]
  · rw [Nat.sub_eq_zero_of_le (by omega), Nat.sub_eq_zero_of_le (by omega), range'_zero, range'_zero]

lemma rowGapsFrom_gap {gap : RowGap} (isGap : gapAt byImplant pixels j = some gap) :
    rowGapsFrom byImplant pixels j = gap :: rowGapsFrom byImplant pixels (j + gap.size) := by
  have free : freeAt pixels j = true := by
    rw [gapAt] at isGap
    split at isGap
    · rename_i here
      exact here.1
    · cases isGap
  have size : gap.size = ((pixels.drop j).takeWhile FillerPixel.free).length := by
    rw [gapAt] at isGap
    split at isGap
    · cases isGap
      rfl
    · cases isGap
  have inside : j < pixels.length := by
    by_contra past
    rw [freeAt, getElem?_eq_none (by omega)] at free
    cases free
  have some' : 1 ≤ gap.size := by
    rw [size]
    by_contra none'
    have behind := @not_free_behind pixels j
    rw [show ((pixels.drop j).takeWhile FillerPixel.free).length = 0 by omega, Nat.add_zero,
      free] at behind
    cases behind
  have steps : ∀ d, d < gap.size → rowGapsFrom byImplant pixels (j + 1) =
      rowGapsFrom byImplant pixels (j + 1 + d) := by
    intro d less
    induction d with
    | zero => rfl
    | succ d ih =>
      have left : freeAt pixels (j + 1 + d - 1) = true :=
        @free_of_gap pixels j _ (by omega) (by rw [← size]; omega)
      rw [ih (by omega), rowGapsFrom_skip (by rw [gapAt, left, if_neg (by simp)]), Nat.add_assoc]
  have last := steps (gap.size - 1) (by omega)
  rw [show j + 1 + (gap.size - 1) = j + gap.size by omega] at last
  rw [← last, rowGapsFrom, show pixels.length - j = (pixels.length - (j + 1)) + 1 by omega,
    range'_succ, filterMap_cons_some isGap]
  rfl

end Gaps

section Place

variable (positive : 0 < siteWidth) (coreXMin : Int)

include positive in
lemma touches_iff (filler : FillerInst) (column k w : Nat)
    (isX : filler.x = coreXMin + k * siteWidth) (isWidth : filler.master.width = w * siteWidth) :
    filler.touches siteWidth coreXMin column = true ↔ k ≤ column ∧ column < k + w := by
  have pos : (0 : Int) < siteWidth := by exact_mod_cast positive
  rw [FillerInst.touches, decide_eq_true_eq, isX, isWidth]
  push_cast
  constructor
  · rintro ⟨left, right⟩
    have first : (k : Int) * siteWidth < (column + 1) * siteWidth := by linarith
    have second : (column : Int) * siteWidth < (k + w) * siteWidth := by linarith [add_mul (k : Int) w siteWidth]
    have k_lt := lt_of_mul_lt_mul_right first pos.le
    have column_lt := lt_of_mul_lt_mul_right second pos.le
    omega
  · rintro ⟨left, right⟩
    have first : ((k : Int) + 1) * siteWidth ≤ (column + 1) * siteWidth :=
      mul_le_mul_of_nonneg_right (by omega) pos.le
    have second : ((column : Int) + 1) * siteWidth ≤ (k + w) * siteWidth :=
      mul_le_mul_of_nonneg_right (by omega) pos.le
    constructor
    · linarith [add_mul (k : Int) 1 siteWidth]
    · linarith [add_mul (column : Int) 1 siteWidth, add_mul (k : Int) w siteWidth]

include positive in
lemma placeFillers_covers (namePrefix : String) (row : FillerRow) (orient : OrientType) (k : Nat)
    (whole : ∀ m ∈ fillers, m.width = m.sites siteWidth * siteWidth) (column : Nat) :
    if k ≤ column ∧ column < k + (fillers.map fun m => m.sites siteWidth).sum then
      CoveredOnce siteWidth coreXMin
        (placeFillers siteWidth coreXMin namePrefix row orient k fillers) column
    else (placeFillers siteWidth coreXMin namePrefix row orient k fillers).filter
      (FillerInst.touches siteWidth coreXMin column) = [] := by
  induction fillers generalizing k with
  | nil =>
    rw [if_neg (by simp), placeFillers, filter_nil]
  | cons m fillers ih =>
    rcases forall_mem_cons.mp whole with ⟨first, rest⟩
    have later := ih (k + m.sites siteWidth) rest
    rw [placeFillers, map_cons, sum_cons]
    have touches := touches_iff positive coreXMin
      ⟨namePrefix ++ toString row.index ++ "_" ++ toString k, m, coreXMin + k * siteWidth, row.y,
        orient⟩ column k (m.sites siteWidth) rfl first
    by_cases here : k ≤ column ∧ column < k + m.sites siteWidth
    · rw [if_neg (by omega)] at later
      rw [if_pos (by omega), CoveredOnce, filter_cons_of_pos (touches.mpr here), later]
      refine ⟨_, rfl, ?_, ?_⟩
      · have le : (k : Int) * siteWidth ≤ column * siteWidth :=
          mul_le_mul_of_nonneg_right (by omega) (by positivity)
        linarith
      · have le : ((column + 1 : Nat) : Int) * siteWidth ≤ (k + m.sites siteWidth : Nat) * siteWidth :=
          mul_le_mul_of_nonneg_right (by omega) (by positivity)
        rw [first]
        push_cast at le ⊢
        linarith [add_mul (k : Int) (m.sites siteWidth) siteWidth]
    · have notHere := fun isTouch => here (touches.mp isTouch)
      by_cases there : k + m.sites siteWidth ≤ column ∧ column <
          k + m.sites siteWidth + (fillers.map fun m => m.sites siteWidth).sum
      · rw [if_pos there] at later
        rw [if_pos (by omega), CoveredOnce, filter_cons_of_neg notHere]
        exact later
      · rw [if_neg there] at later
        rw [if_neg (by omega), filter_cons_of_neg notHere, later]

end Place

/-- An error is about a gap that is not smooth. -/
def FillerError.About (siteWidth : Nat) (implant : Implant) (masters : List FillerMaster) :
    FillerError → RowGap → Prop
  | .couldNotFill size _, gap => ¬ Fillable siteWidth masters gap.size ∧ size = gap.size ∧
    gap.implant = implant ∧ gap.nearEnd = false
  | .noFillers other, gap => gap.implant = some other ∧ some other ≠ implant
  | .nullPointer, gap => gap.Crashes siteWidth implant masters

def RowFrom (siteWidth : Nat) (coreXMin : Int) (implant : Implant) (masters : List FillerMaster)
    (row : FillerRow) (j : Nat) (s : FillerState) : Except FillerError FillerState → Prop
  | .error e => FirstRough (RowGap.Smooth siteWidth implant masters)
    (e.About siteWidth implant masters) (rowGapsFrom [(implant, masters)] row.pixels j)
  | .ok s' => (∀ gap ∈ rowGapsFrom [(implant, masters)] row.pixels j,
      gap.Smooth siteWidth implant masters) ∧
    Remembered siteWidth implant masters s'.gap_fillers ∧
    ∃ new, s'.placed = s.placed ++ new ∧ ∀ column,
      if j ≤ column ∧ freeAt row.pixels column then CoveredOnce siteWidth coreXMin new column
      else new.filter (FillerInst.touches siteWidth coreXMin column) = []

section Enough

variable (positive : 0 < siteWidth) (descending : Descending masters)
  (fills : GreedyFills siteWidth masters)

include positive descending fills

lemma GreedyFills.found {gap fuel : Nat} (some' : 1 ≤ gap)
    (found : fillGap siteWidth gap fuel masters = some fillers) (filled : fillers ≠ []) :
    (∀ m ∈ fillers, m ∈ masters) ∧ (∀ m ∈ fillers, m.width = m.sites siteWidth * siteWidth) ∧
        (fillers.map fun m => m.sites siteWidth).sum = gap := by
  rcases (fillGap_filled found filled).filled some' fillers rfl with ⟨members, sum⟩
  refine ⟨fun m member => (members m member).1, fun m member => ?_, sum⟩
  exact whole_all descending fills.whole (members m member).1
    ((sites_pos positive).mp (members m member).2)

lemma GreedyFills.not_found {gap fuel : Nat} (some' : 1 ≤ gap)
    (found : fillGap siteWidth gap fuel masters = some []) : ¬ Fillable siteWidth masters gap := by
  intro fillable
  rcases fills.descends_all positive descending some' with ⟨out, run, filled⟩
  exact filled fillable (run.unique (fillGap_failed some' found))

lemma GreedyFills.enough_fuel (longest : Nat) : ∃ fuel, ∀ gap, 1 ≤ gap → gap ≤ longest →
    ∀ more, ∃ fillers, fillGap siteWidth gap (fuel + more) masters = some fillers := by
  induction longest with
  | zero => exact ⟨0, fun gap some' le => by omega⟩
  | succ longest ih =>
    rcases ih with ⟨fuel, enough⟩
    rcases fills.descends_all positive descending (Nat.le_add_left 1 longest) with ⟨out, run, _⟩
    rcases run.fillGap with ⟨last, ran⟩
    refine ⟨fuel + last, fun gap some' le more => ?_⟩
    by_cases isLast : gap = longest + 1
    · refine ⟨out.getD [], ?_⟩
      rw [isLast, Nat.add_comm fuel last, Nat.add_assoc]
      exact ran (fuel + more)
    · rw [Nat.add_assoc]
      exact enough gap some' (by omega) (last + more)

lemma placeRowFillers_from (coreXMin : Int) (namePrefix : String) (implant : Implant)
    (row : FillerRow) {enough : Nat}
    (ends : ∀ gap, 1 ≤ gap → gap ≤ row.pixels.length → ∀ more, ∃ fillers,
      fillGap siteWidth gap (enough + more) masters = some fillers)
    (more rest j : Nat) (s : FillerState) (last : row.pixels.length ≤ j + rest)
    (remembered : Remembered siteWidth implant masters s.gap_fillers)
    (fresh : freeAt row.pixels j = true → j = 0 ∨ freeAt row.pixels (j - 1) = false) :
    ∃ result, placeRowFillers siteWidth coreXMin namePrefix [(implant, masters)] row
        (enough + more + rest + 1) j s = some result ∧
      RowFrom siteWidth coreXMin implant masters row j s result := by
  induction rest using Nat.strong_induction_on generalizing j s with
  | _ rest less =>
    rw [placeRowFillers]
    cases isPixel : row.pixels[j]? with
    | none =>
      have past := List.getElem?_eq_none_iff.mp isPixel
      refine ⟨.ok s, rfl, ?_, remembered, [], by simp, fun column => ?_⟩
      · rw [rowGapsFrom, Nat.sub_eq_zero_of_le past, range'_zero]
        exact fun _ member => nomatch member
      · rw [if_neg, filter_nil]
        rintro ⟨from', free⟩
        rw [freeAt, getElem?_eq_none (by omega)] at free
        exact absurd free (by simp)
    | some pixel =>
      have inside := (List.getElem?_eq_some_iff.mp isPixel).1
      have atJ : freeAt row.pixels j = pixel.free := by rw [freeAt, isPixel, Option.any_some]
      dsimp only
      by_cases free : pixel.free = false
      · rw [if_pos free]
        rw [free] at atJ
        rcases less (rest - 1) (by omega) (j + 1) s (by omega) remembered (fun _ => .inr atJ) with
          ⟨result, ran, fine⟩
        have fuels : enough + more + rest = enough + more + (rest - 1) + 1 := by omega
        refine ⟨result, by rw [fuels]; exact ran, ?_⟩
        have skip := rowGapsFrom_skip (show gapAt [(implant, masters)] row.pixels j = none by
          rw [gapAt, atJ, if_neg (by simp)])
        cases result with
        | error e =>
          rw [RowFrom, skip]
          exact fine
        | ok s' =>
          rcases fine with ⟨smooth, kept, new, isNew, covers⟩
          refine ⟨skip ▸ smooth, kept, new, isNew, fun column => ?_⟩
          have cover := covers column
          by_cases here : column = j
          · rw [here, if_neg (by omega)] at cover
            rw [here, if_neg (by simp [atJ])]
            exact cover
          · by_cases later : j + 1 ≤ column ∧ freeAt row.pixels column
            · rw [if_pos later] at cover
              rw [if_pos ⟨by omega, later.2⟩]
              exact cover
            · rw [if_neg later] at cover
              rw [if_neg fun isHere => later ⟨by omega, isHere.2⟩]
              exact cover
      · rw [if_neg free]
        rw [Bool.not_eq_false] at free
        rw [free] at atJ
        have gaps := rowGapsFrom_gap (gapAt_fresh [(implant, masters)] atJ (fresh atJ))
        have inGap := fun column => @free_of_gap row.pixels j column
        have behind := @not_free_behind row.pixels j
        dsimp only at gaps
        generalize isSize : ((row.pixels.drop j).takeWhile FillerPixel.free).length = gap
          at inGap behind gaps ⊢
        have size : gap ≤ row.pixels.length - j := by
          rw [← isSize, ← length_drop]
          exact ( takeWhile_prefix _).length_le
        have some' : 1 ≤ gap := by
          by_contra none'
          rw [show gap = 0 by omega, Nat.add_zero, atJ] at behind
          cases behind
        generalize gapImplant [(implant, masters)] row.pixels j (j + gap) = other at gaps ⊢
        by_cases isImplant : other = implant
        · rw [isImplant] at gaps ⊢
          have found := ends gap some' (by omega) (more + rest)
          rw [← Nat.add_assoc] at found
          rcases @gapFillers_ends _ _ implant s.gap_fillers _ _ found with
            ⟨fillers, gap_fillers', ran⟩
          rcases gapFillers_found remembered ran with ⟨fuel', isFound⟩
          rw [ran]
          cases fillers with
          | nil =>
            have unfillable := fills.not_found positive descending some' isFound
            refine ⟨_, rfl, ?_⟩
            rw [RowFrom, gaps]
            refine .inl ⟨fun smooth => unfillable smooth.2, ?_⟩
            by_cases isLast : j + gap + 1 = row.pixels.length
            · rw [if_pos isLast]
              exact .inr ⟨rfl, unfillable, decide_eq_true isLast⟩
            · rw [if_neg isLast]
              exact ⟨unfillable, rfl, rfl, decide_eq_false isLast⟩
          | cons m fillers =>
            rcases fills.found positive descending some' isFound (by simp) with
              ⟨members, whole, sum⟩
            have fillable : Fillable siteWidth masters gap :=
              ⟨_, members, by rw [widths_eq whole, sum]⟩
            have fuels : enough + more + rest = enough + more + (rest - 1) + 1 := by omega
            dsimp only
            rcases less (rest - 1) (by omega) (j + gap)
              ⟨gap_fillers', s.placed ++ placeFillers siteWidth coreXMin namePrefix row
                (row.orient j) j (m :: fillers)⟩ (by omega)
              (Remembered.call remembered ran) (fun isFree => by rw [behind] at isFree; cases isFree)
              with ⟨result, ranRest, fine⟩
            refine ⟨result, by rw [fuels]; exact ranRest, ?_⟩
            cases result with
            | error e =>
              rw [RowFrom, gaps]
              exact .inr ⟨⟨rfl, fillable⟩, fine⟩
            | ok s' =>
              rcases fine with ⟨smooth, kept, new, isNew, covers⟩
              refine ⟨?_, kept, _, by rw [isNew, append_assoc], fun column => ?_⟩
              · rw [gaps, forall_mem_cons]
                exact ⟨⟨rfl, fillable⟩, smooth⟩
              have here := placeFillers_covers positive coreXMin namePrefix row
                (row.orient j) j whole column
              rw [sum] at here
              have later := covers column
              rw [CoveredOnce, filter_append]
              by_cases inHere : j ≤ column ∧ column < j + gap
              · rw [if_pos inHere] at here
                rw [if_neg (by omega)] at later
                rw [if_pos ⟨inHere.1, inGap column inHere.1 (isSize ▸ inHere.2)⟩, later, append_nil]
                exact here
              · rw [if_neg inHere] at here
                rw [here, nil_append]
                by_cases isLater : j + gap ≤ column ∧ freeAt row.pixels column
                · rw [if_pos isLater] at later
                  rw [if_pos ⟨by omega, isLater.2⟩]
                  exact later
                · rw [if_neg isLater] at later
                  rw [if_neg fun isHere => isLater ⟨by omega, isHere.2⟩]
                  exact later
        · rw [gapFillers, lookup_cons, beq_eq_false_iff_ne.mpr isImplant, lookup_nil]
          refine ⟨_, rfl, ?_⟩
          rw [RowFrom, gaps]
          refine .inl ⟨fun smooth => isImplant smooth.1, ?_⟩
          cases other with
          | none => exact .inl ⟨rfl, Ne.symm isImplant⟩
          | some id => exact ⟨rfl, isImplant⟩

/-- The gaps of the rows are smooth and they are filled, or the error is about the first one that is
not. -/
def PlacedAll (siteWidth : Nat) (coreXMin : Int) (implant : Implant) (masters : List FillerMaster)
    (rows : List FillerRow) : Except FillerError (List (List FillerInst)) → Prop
  | .error e => FirstRough (RowGap.Smooth siteWidth implant masters)
    (e.About siteWidth implant masters) (rows.flatMap (rowGaps [(implant, masters)]))
  | .ok placed => (∀ gap ∈ rows.flatMap (rowGaps [(implant, masters)]),
      gap.Smooth siteWidth implant masters) ∧
    List.Forall₂ (RowFilled siteWidth coreXMin) rows placed

lemma fillerPlacement_rows (coreXMin : Int) (namePrefix : String) (implant : Implant)
    (rows : List FillerRow) : ∃ fuel, ∀ more gap_fillers,
      Remembered siteWidth implant masters gap_fillers →
        ∃ result, fillerPlacement siteWidth coreXMin namePrefix [(implant, masters)] (fuel + more)
            rows gap_fillers = some result ∧
          PlacedAll siteWidth coreXMin implant masters rows result := by
  induction rows with
  | nil => exact ⟨0, fun more gap_fillers _ => ⟨.ok [], rfl, (fun _ member => nomatch member), .nil⟩⟩
  | cons row rows ih =>
    rcases ih with ⟨fuel, others⟩
    rcases fills.enough_fuel positive descending row.pixels.length with ⟨enough, ends⟩
    refine ⟨fuel + (enough + row.pixels.length + 1), fun more gap_fillers remembered => ?_⟩
    have row' := placeRowFillers_from positive descending fills coreXMin namePrefix implant row ends
      (fuel + more) row.pixels.length 0 ⟨gap_fillers, []⟩ (by omega) remembered fun _ => .inl rfl
    have fuels : enough + (fuel + more) + row.pixels.length + 1 =
        fuel + (enough + row.pixels.length + 1) + more := by omega
    rw [fuels] at row'
    rcases row' with ⟨result, ran, fine⟩
    rw [fillerPlacement, ran]
    cases result with
    | error e => exact ⟨.error e, rfl, FirstRough.append fine _⟩
    | ok s =>
      rcases fine with ⟨smooth, kept, new, isNew, covers⟩
      rcases others (enough + row.pixels.length + 1 + more) s.gap_fillers kept with
        ⟨result, ranRest, fineRest⟩
      rw [← Nat.add_assoc] at ranRest
      dsimp only
      rw [ranRest]
      cases result with
      | error e => exact ⟨.error e, rfl, (firstRough_append smooth).mpr fineRest⟩
      | ok placed =>
        refine ⟨.ok (s.placed :: placed), rfl, ?_, Forall₂.cons (fun column => ?_) fineRest.2⟩
        · rw [flatMap_cons, forall_mem_append]
          exact ⟨smooth, fineRest.1⟩
        · have cover := covers column
          rw [nil_append] at isNew
          rw [isNew]
          simpa [freeAt] using cover

/-- No gap is met whose message follows a null pointer. -/
def NoCrash (siteWidth : Nat) (implant : Implant) (masters : List FillerMaster)
    (rows : List FillerRow) : Prop :=
  ¬ FirstRough (RowGap.Smooth siteWidth implant masters) (RowGap.Crashes siteWidth implant masters)
    (rows.flatMap (rowGaps [(implant, masters)]))

omit positive descending fills in
lemma rowsFilled_iff {coreXMin : Int} {implant : Implant} {rows : List FillerRow}
    {result : Except FillerError (List (List FillerInst))}
    (placed : PlacedAll siteWidth coreXMin implant masters rows result) :
    RowsFilled siteWidth coreXMin implant masters rows result ↔
      NoCrash siteWidth implant masters rows := by
  cases result with
  | ok all => exact iff_of_true placed.2 fun crash => crash.not_smooth placed.1
  | error e =>
    cases e with
    | nullPointer => exact iff_of_false id fun safe => safe placed
    | couldNotFill size column =>
      refine iff_of_true ?_ fun crash => ?_
      · rcases placed.unique placed with ⟨gap, _, ⟨unfillable, isSize, _⟩, _⟩
        rw [RowsFilled, FillerError.Justified, isSize]
        exact unfillable
      · rcases placed.unique crash with ⟨gap, _, ⟨_, _, isImplant, notEnd⟩, crashes⟩
        rcases crashes with ⟨isNull, differs⟩ | ⟨_, _, isEnd⟩
        · exact differs (isImplant.symm.trans isNull)
        · rw [notEnd] at isEnd
          cases isEnd
    | noFillers other =>
      refine iff_of_true ?_ fun crash => ?_
      · rcases placed.unique placed with ⟨gap, _, ⟨_, differs⟩, _⟩
        exact differs
      · rcases placed.unique crash with ⟨gap, _, ⟨isOther, differs⟩, crashes⟩
        rcases crashes with ⟨isNull, _⟩ | ⟨isImplant, _⟩
        · cases isOther.symm.trans isNull
        · exact differs (isOther.symm.trans isImplant)

lemma GreedyFills.fillsGaps {implant : Implant} {rows : List FillerRow}
    (safe : NoCrash siteWidth implant masters rows) : FillsGaps siteWidth implant masters rows where
  ends gap_fillers gap _ some' := by
    rcases fills.enough_fuel positive descending gap with ⟨fuel, enough⟩
    exact ⟨fuel, gapFillers_ends (enough gap some' le_rfl 0)⟩
  exact gap_fillers fuel gap fillers gap_fillers' remembered some' ran filled := by
    rcases gapFillers_found remembered ran with ⟨fuel', found⟩
    rcases fills.found positive descending some' found filled with ⟨members, whole, sum⟩
    exact ⟨members, by rw [widths_eq whole, sum]⟩
  complete gap_fillers fuel gap gap_fillers' remembered some' ran := by
    rcases gapFillers_found remembered ran with ⟨fuel', found⟩
    exact fills.not_found positive descending some' found
  covered coreXMin namePrefix := by
    rcases fillerPlacement_rows positive descending fills coreXMin namePrefix implant rows with
      ⟨fuel, ran⟩
    refine ⟨fuel, fun more => ?_⟩
    rcases ran more _ Remembered.start with ⟨result, isResult, placed⟩
    exact ⟨result, isResult, (rowsFilled_iff placed).mpr safe⟩

end Enough

section Needed

variable (positive : 0 < siteWidth) (descending : Descending masters)
  {rows : List FillerRow} (fillsGaps : FillsGaps siteWidth implant masters rows)

omit positive descending in
lemma gapFillers_first {fuel gap : Nat} (found : fillGap siteWidth gap fuel masters = some fillers) :
    gapFillers siteWidth [(implant, masters)] fuel implant gap (fun _ _ => []) =
      some (.ok (fillers, update (fun _ _ => []) implant
        (update (fun _ => []) gap fillers))) := by
  rw [gapFillers, lookup_cons_self]
  dsimp only
  rw [if_pos rfl, found]
  rfl

include fillsGaps

lemma FillsGaps.descends {gap : Nat} (some' : 1 ≤ gap) :
    ∃ out, Descends siteWidth (haveFiller1 siteWidth masters) masters gap out := by
  rcases fillsGaps.ends _ gap Remembered.start some' with ⟨fuel, fillers, _, ran⟩
  rcases gapFillers_found Remembered.start ran with ⟨fuel', found⟩
  rcases fillGap_descends found with ⟨out, run, _⟩
  exact ⟨out, run⟩

lemma FillsGaps.widths {gap : Nat} (some' : 1 ≤ gap) {taken : List FillerMaster}
    (run : Descends siteWidth (haveFiller1 siteWidth masters) masters gap (some taken)) :
    (taken.map FillerMaster.width).sum = gap * siteWidth := by
  rcases run.fillGap with ⟨fuel, found⟩
  rcases run.first some' taken rfl with ⟨m, rest, isTaken, _⟩
  exact (fillsGaps.exact _ fuel gap taken _ Remembered.start some'
    (gapFillers_first (found 0)) (by rw [isTaken]; simp)).2

lemma FillsGaps.filled {gap : Nat} (some' : 1 ≤ gap) (fillable : Fillable siteWidth masters gap) :
    ∃ taken, Descends siteWidth (haveFiller1 siteWidth masters) masters gap (some taken) := by
  rcases fillsGaps.descends some' with ⟨out, run⟩
  cases out with
  | some taken => exact ⟨taken, run⟩
  | none =>
    rcases run.fillGap with ⟨fuel, found⟩
    exact absurd fillable (fillsGaps.complete _ fuel gap _ Remembered.start some'
      (gapFillers_first (found 0)))

include positive descending

lemma FillsGaps.whole {before after : List FillerMaster} {m : FillerMaster}
    (isMasters : masters = before ++ m :: after) (wide : siteWidth ≤ m.width)
    (others : ∀ other ∈ before, other.sites siteWidth ≠ m.sites siteWidth) :
    siteWidth ∣ m.width := by
  have some' := (sites_pos positive).mpr wide
  have nots : ∀ p ∈ before, mayPlace siteWidth (haveFiller1 siteWidth masters)
      (m.sites siteWidth) p = false := by
    intro p member
    rw [isMasters] at descending
    have le := (pairwise_append.mp descending).2.2 p member m mem_cons_self
    have mono : m.sites siteWidth ≤ p.sites siteWidth := sites_mono le
    have other := others p member
    rw [← Bool.not_eq_true, mayPlace_iff]
    omega
  have may : mayPlace siteWidth (haveFiller1 siteWidth masters) (m.sites siteWidth) m = true :=
    mayPlace_iff.mpr ⟨le_rfl, .inr (by omega)⟩
  have run := Descends.skips nots (@Descends.fill _ _ m after _ may rfl)
  rw [← isMasters] at run
  have width := fillsGaps.widths some' run
  rw [map_singleton, sum_singleton] at width
  exact ⟨m.sites siteWidth, by rw [width, Nat.mul_comm]⟩

lemma FillsGaps.greedyFills : GreedyFills siteWidth masters where
  whole before m after isMasters wide others :=
    fillsGaps.whole positive descending isMasters wide others
  narrow n member isNarrow left two := by
    by_contra stuck
    rcases fillsGaps.descends (by omega : 1 ≤ left) with ⟨out, run⟩
    have notOne := narrow_one descending member isNarrow
    rw [notOne] at run stuck
    refine run.not_stuck descending two (fun m isMember large => ?_) n member
      ((sites_zero positive).mpr isNarrow)
    rw [← Bool.not_eq_true]
    exact fun may => stuck ⟨m, isMember, large, may⟩
  greedy left some' fillable := by
    rcases fillsGaps.filled some' fillable with ⟨taken, run⟩
    rcases run.first some' taken rfl with ⟨m, rest, rfl, found⟩
    refine ⟨m, found, rest, fun t member => ?_, ?_⟩
    · exact ((run.filled some' _ rfl).1 t (mem_cons_of_mem _ member)).1
    · have widths := fillsGaps.widths some' run
      rcases (run.filled some' _ rfl).1 m mem_cons_self with ⟨isMember, wide⟩
      have isWidth := whole_all descending
        (fun _ _ _ isMasters wide others => fillsGaps.whole positive descending isMasters wide others)
        isMember ((sites_pos positive).mp wide)
      rw [map_cons, sum_cons, isWidth] at widths
      rw [Nat.sub_mul]
      omega

end Needed

/-- All gaps are filled as they can be exactly if the greedy choice is right and no gap is met whose
message follows a null pointer. -/
theorem fillers_fill_gaps_iff (siteWidth : Nat) (implant : Implant) (masters : List FillerMaster)
    (rows : List FillerRow) (positive : 0 < siteWidth) (descending : Descending masters) :
    FillsGaps siteWidth implant masters rows ↔
      GreedyFills siteWidth masters ∧ NoCrash siteWidth implant masters rows := by
  constructor
  · intro fillsGaps
    have fills := fillsGaps.greedyFills positive descending
    refine ⟨fills, ?_⟩
    rcases fillerPlacement_rows positive descending fills 0 "" implant rows with ⟨fuel, ran⟩
    rcases fillsGaps.covered 0 "" with ⟨fuel', covered⟩
    rcases covered fuel with ⟨result, isResult, filled⟩
    rcases ran fuel' _ Remembered.start with ⟨other, isOther, placed⟩
    rw [Nat.add_comm] at isOther
    cases Option.some_injective _ (isResult.symm.trans isOther)
    exact (rowsFilled_iff placed).mp filled
  · exact fun both => both.1.fillsGaps positive descending both.2

def fillPixel (cell : Option Implant) (is_valid : Bool) : FillerPixel := ⟨cell, is_valid⟩

/-- A cell without an implant stands in front of three free sites. -/
def partRow : FillerRow :=
  ⟨0, [fillPixel (some none) true, fillPixel none true, fillPixel none true, fillPixel none true],
    0, fun _ => .R0⟩

lemma twoOne_fillable (gap : Nat) : Fillable 1 [⟨"FILL2", 2⟩, ⟨"FILL1", 1⟩] gap := by
  refine ⟨List.replicate gap ⟨"FILL1", 1⟩, fun m member => ?_, by simp⟩
  rw [eq_of_mem_replicate member]
  simp

lemma twoOne_greedy : GreedyFills 1 [⟨"FILL2", 2⟩, ⟨"FILL1", 1⟩] where
  whole := fun _ _ _ _ _ _ => Nat.one_dvd _
  narrow n member narrow := by
    rcases List.mem_pair.mp member with rfl | rfl
    · exact absurd narrow (by decide)
    · exact absurd narrow (by decide)
  greedy left some' _ := by
    by_cases two : 2 ≤ left
    · refine ⟨⟨"FILL2", 2⟩, ?_, twoOne_fillable _⟩
      rw [List.find?_cons_of_pos]
      simp [mayPlace, FillerMaster.sites, haveFiller1, two]
    · refine ⟨⟨"FILL1", 1⟩, ?_, twoOne_fillable _⟩
      rw [List.find?_cons_of_neg, List.find?_cons_of_pos]
      · simp [mayPlace, FillerMaster.sites, haveFiller1, some']
      · simp [mayPlace, FillerMaster.sites, two]

/-- Fillers of two sites and of one fill every gap. -/
theorem fillers_fill_gaps_two_one :
    FillsGaps 1 none [⟨"FILL2", 2⟩, ⟨"FILL1", 1⟩] [partRow] := by
  refine (fillers_fill_gaps_iff 1 none [⟨"FILL2", 2⟩, ⟨"FILL1", 1⟩] [partRow] (by decide) ?_).mpr
    ⟨twoOne_greedy, fun crash => ?_⟩
  · rw [Descending, pairwise_pair]
    decide
  · rcases crash.unique crash with ⟨gap, _, ⟨_, differs⟩ | ⟨_, unfillable, _⟩, _⟩
    · exact differs rfl
    · exact unfillable (twoOne_fillable _)

/-- With a filler of two sites and one of half a site, the gap of three sites is never done: the
narrow filler counts as none. With fillers of one implant, a gap beside a cell without an implant
ends at the null pointer. -/
theorem fillers_fill_gaps_narrow : ¬ FillsGaps 2 none [⟨"FILL2", 4⟩, ⟨"HALF", 1⟩] [] ∧
    ¬ FillsGaps 1 (some 7) [⟨"FILL2", 2⟩, ⟨"FILL1", 1⟩] [partRow] := by
  constructor
  · intro fillsGaps
    have descending : Descending [⟨"FILL2", 4⟩, ⟨"HALF", 1⟩] := by
      rw [Descending, pairwise_pair]
      decide
    have fills := fillsGaps.greedyFills (by decide) descending
    rcases fills.narrow ⟨"HALF", 1⟩ (by decide) (by decide) 3 (by decide) with
      ⟨m, member, large, may⟩
    rcases List.mem_pair.mp member with rfl | rfl
    · exact absurd may (by decide)
    · exact absurd large (by decide)
  · intro fillsGaps
    rcases fillsGaps.covered 0 "" with ⟨fuel, covered⟩
    rcases covered 2 with ⟨result, isResult, filled⟩
    have crashes : fillerPlacement 1 0 "" [(some 7, [⟨"FILL2", 2⟩, ⟨"FILL1", 1⟩])] (fuel + 2)
        [partRow] (fun _ _ => []) = some (.error .nullPointer) := rfl
    cases Option.some_injective _ (crashes.symm.trans isResult)
    exact filled

end OpenRoad.Dpl
