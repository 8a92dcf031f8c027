import Mathlib.Data.List.GetD
import OpenRoad.Dpl.ShiftTable

/-! When shifting finds a placement, and when it finds a cheapest one. -/

namespace OpenRoad.Dpl

open Lib List Option

namespace ShiftRow

variable (row : ShiftRow) (cells : List ShiftCell) (targetLeft : List Int)

/-- Widths and spacings are multiples of the site spacing. -/
structure Multiples : Prop where
  spacing : 0 < row.siteSpacing
  widths : ∀ cell ∈ cells, 0 ≤ cell.width ∧ row.siteSpacing ∣ cell.width
  spacings : ∀ (k : Nat) (cell next : ShiftCell), cells[k]? = some cell →
    cells[k + 1]? = some next → row.siteSpacing ∣ row.getCellSpacing cell next

/-- Positions on sites, inside the interval, in order and with the spacing between them. -/
structure Legal (p : List Int) : Prop where
  length : p.length = cells.length
  aligned : ∀ x ∈ p, row.siteSpacing ∣ x - row.originX
  inside : ∀ (k : Nat) (x : Int) (cell : ShiftCell), p[k]? = some x → cells[k]? = some cell →
    row.leftLimit ≤ x ∧ x + cell.width ≤ row.rightLimit
  separated : ∀ (k : Nat) (x y : Int) (cell next : ShiftCell), p[k]? = some x →
    p[k + 1]? = some y → cells[k]? = some cell → cells[k + 1]? = some next → x + cell.width + row.getCellSpacing cell next ≤ y

def distance (p : List Int) : Int :=
  (List.zipWith (fun x target => |x - target|) p targetLeft).sum

/-- Shifting succeeds just when there is room, and then the positions are legal and cheapest. -/
structure ShiftsOptimally (posLeft : List Int) : Prop where
  finds : (row.shift cells targetLeft posLeft).1 = true ↔ ∃ p, row.Legal cells p
  legal : (row.shift cells targetLeft posLeft).1 = true →
    row.Legal cells (row.shift cells targetLeft posLeft).2
  least : (row.shift cells targetLeft posLeft).1 = true → ∀ p, row.Legal cells p →
    distance targetLeft (row.shift cells targetLeft posLeft).2 ≤ distance targetLeft p

def siteEnd : Int := (row.rightLimit - row.originX) / row.siteSpacing

def HasRoom : Prop := row.i0 + (row.swid cells).sum ≤ row.siteEnd

def CountsRoom : Prop :=
  (row.swid cells).dropLast.sum < row.nsites ∧ (row.swid cells).sum ≤ row.nsites

def FromFirst (p : List Int) : Prop :=
  ∃ q, p = q.map row.siteX ∧ Packed (row.swid cells) row.i0 (row.i1 + 1) q ∧
    q.head? = some row.i0 ∧ q.getLastD 0 ≤ row.i1

/-- Some cheapest legal placement starts on the first site and stays on the sites that are counted.
-/
def FirstSiteServes : Prop :=
  if cells = [] then row.nsites = 0
  else (row.HasRoom cells ↔ row.CountsRoom cells) ∧
    (row.HasRoom cells → ∃ p, row.Legal cells p ∧ row.FromFirst cells p ∧
      ∀ other, row.Legal cells other ∨ row.FromFirst cells other →
        distance targetLeft p ≤ distance targetLeft other)

variable {row cells targetLeft}

lemma siteX_le_iff (spacing : 0 < row.siteSpacing) {s t : Int} :
    row.siteX s ≤ row.siteX t ↔ s ≤ t := by
  rw [siteX, siteX, add_le_add_iff_left, mul_le_mul_iff_left₀ spacing]

lemma siteX_add (s w : Int) : row.siteX (s + w) = row.siteX s + w * row.siteSpacing := by
  rw [siteX, siteX]
  ring

lemma i0_le_iff (spacing : 0 < row.siteSpacing) (s : Int) :
    row.i0 ≤ s ↔ row.leftLimit ≤ row.siteX s := by
  have rounded := Int.mul_tdiv_add_tmod (row.leftLimit - row.originX) row.siteSpacing
  have below := Int.tmod_lt_of_pos (row.leftLimit - row.originX) spacing
  have above := Int.lt_tmod_of_pos (row.leftLimit - row.originX) spacing
  rw [i0, siteX]
  generalize (row.leftLimit - row.originX).tdiv row.siteSpacing = t at *
  split
  · constructor
    · intro after
      have scaled := mul_le_mul_of_nonneg_right after spacing.le
      linarith
    · intro covers
      by_contra before
      have scaled := mul_le_mul_of_nonneg_right (show s ≤ t by omega) spacing.le
      linarith
  · constructor
    · intro after
      have scaled := mul_le_mul_of_nonneg_right after spacing.le
      linarith
    · intro covers
      by_contra before
      have scaled := mul_le_mul_of_nonneg_right (show s + 1 ≤ t by omega) spacing.le
      linarith

lemma le_siteEnd_iff (spacing : 0 < row.siteSpacing) (s : Int) :
    s ≤ row.siteEnd ↔ row.siteX s ≤ row.rightLimit := by
  rw [siteEnd, Int.le_ediv_iff_mul_le spacing, siteX, le_sub_iff_add_le, add_comm]

lemma getElem?_spacedWidths (cells : List ShiftCell) (k : Nat) :
    (row.spacedWidths cells)[k]? = cells[k]?.map fun cell =>
      cell.width + (cells[k + 1]?.map (row.getCellSpacing cell)).getD 0 := by
  induction cells generalizing k with
  | nil => rfl
  | cons cell cells ih =>
    cases cells with
    | nil =>
      cases k with
      | zero => simp [spacedWidths]
      | succ k => simp [spacedWidths]
    | cons next cells =>
      cases k with
      | zero => simp [spacedWidths]
      | succ k =>
        rw [spacedWidths, getElem?_cons_succ, ih]
        simp only [getElem?_cons_succ]

lemma getCellSpacing_nonneg (left right : ShiftCell) : 0 ≤ row.getCellSpacing left right := by
  rw [getCellSpacing]
  split
  · exact le_max_left _ _
  · exact le_rfl

def gap (row : ShiftRow) (cells : List ShiftCell) (k : Nat) (cell : ShiftCell) : Int :=
  (cells[k + 1]?.map (row.getCellSpacing cell)).getD 0

lemma gap_nonneg (k : Nat) (cell : ShiftCell) : 0 ≤ row.gap cells k cell := by
  rw [gap]
  cases cells[k + 1]? with
  | none => exact le_rfl
  | some next => exact getCellSpacing_nonneg cell next

lemma swid_cell (multiples : row.Multiples cells) {k : Nat} {w : Int}
    (isWidth : (row.swid cells)[k]? = some w) : ∃ cell, cells[k]? = some cell ∧
      w * row.siteSpacing = cell.width + row.gap cells k cell := by
  rw [swid, getElem?_map, getElem?_spacedWidths, Option.map_map, map_eq_some_iff]
    at isWidth
  rcases isWidth with ⟨cell, isCell, rfl⟩
  refine ⟨cell, isCell, ?_⟩
  have its := multiples.widths cell (mem_of_getElem? isCell)
  have dvd : row.siteSpacing ∣ row.gap cells k cell := by
    rw [gap]
    cases isNext : cells[k + 1]? with
    | none => exact Int.dvd_zero _
    | some next => exact multiples.spacings k cell next isCell isNext
  exact Int.tdiv_mul_cancel (dvd_add its.2 dvd)

lemma length_swid (row : ShiftRow) (cells : List ShiftCell) :
    (row.swid cells).length = cells.length := by
  have same : (row.spacedWidths cells).length = cells.length := by
    induction cells with
    | nil => rfl
    | cons cell cells ih =>
      cases cells with
      | nil => rfl
      | cons next cells =>
        rw [spacedWidths, length_cons, ih]
        rfl
  rw [swid, length_map, same]

lemma swid_nonneg (multiples : row.Multiples cells) : ∀ w ∈ row.swid cells, 0 ≤ w := by
  intro w member
  rcases getElem?_of_mem member with ⟨k, isWidth⟩
  rcases swid_cell multiples isWidth with ⟨cell, isCell, isSize⟩
  have width := (multiples.widths cell (mem_of_getElem? isCell)).1
  have size : 0 ≤ w * row.siteSpacing := by
    rw [isSize]
    exact add_nonneg width (gap_nonneg k cell)
  exact nonneg_of_mul_nonneg_left size multiples.spacing

lemma legal_iff (multiples : row.Multiples cells) (p : List Int) : row.Legal cells p ↔
    ∃ q, p = q.map row.siteX ∧ Packed (row.swid cells) row.i0 row.siteEnd q := by
  have spacing := multiples.spacing
  constructor
  · intro legal
    have onSite : ∀ x ∈ p, row.siteX ((x - row.originX) / row.siteSpacing) = x := by
      intro x member
      rw [siteX, Int.ediv_mul_cancel (legal.aligned x member), add_sub_cancel]
    have onSites : p = (p.map fun x => (x - row.originX) / row.siteSpacing).map row.siteX := by
      rw [List.map_map]
      calc p = p.map id := (map_id p).symm
        _ = p.map _ := map_congr_left fun x member => (onSite x member).symm
    refine ⟨_, onSites, (packed_iff (swid_nonneg multiples)).mpr ⟨?_, ?_, ?_⟩⟩
    · rw [length_map, legal.length, length_swid]
    · intro k s w isPlace isWidth
      rw [getElem?_map, map_eq_some_iff] at isPlace
      rcases isPlace with ⟨x, isX, rfl⟩
      rcases swid_cell multiples isWidth with ⟨cell, isCell, isSize⟩
      have bounds := legal.inside k x cell isX isCell
      rw [i0_le_iff spacing, le_siteEnd_iff spacing, siteX_add, isSize,
        onSite x (mem_of_getElem? isX)]
      refine ⟨bounds.1, ?_⟩
      rw [gap]
      cases isNext : cells[k + 1]? with
      | none =>
        rw [map_none, getD_none, add_zero]
        exact bounds.2
      | some next =>
        have there : k + 1 < p.length := by
          rw [legal.length]
          exact (List.getElem?_eq_some_iff.mp isNext).1
        have isY := getElem?_eq_getElem there
        have apart := legal.separated k x _ cell next isX isY isCell isNext
        have ends := (legal.inside (k + 1) _ next isY isNext).2
        have width := (multiples.widths next (mem_of_getElem? isNext)).1
        rw [map_some, getD_some]
        linarith
    · intro k s s' w isPlace isPlace' isWidth
      rw [getElem?_map, map_eq_some_iff] at isPlace isPlace'
      rcases isPlace with ⟨x, isX, rfl⟩
      rcases isPlace' with ⟨y, isY, rfl⟩
      rcases swid_cell multiples isWidth with ⟨cell, isCell, isSize⟩
      have there : k + 1 < cells.length := by
        rw [← legal.length]
        exact (List.getElem?_eq_some_iff.mp isY).1
      have isNext := getElem?_eq_getElem there
      have apart := legal.separated k x y cell _ isX isY isCell isNext
      rw [← siteX_le_iff spacing, siteX_add, isSize, onSite x (mem_of_getElem? isX),
        onSite y (mem_of_getElem? isY), gap, isNext, map_some, getD_some]
      linarith
  · rintro ⟨q, rfl, packed⟩
    rcases (packed_iff (swid_nonneg multiples)).mp packed with ⟨sizes, inside, order⟩
    have width : ∀ (k : Nat) (cell : ShiftCell), cells[k]? = some cell → ∃ w,
        (row.swid cells)[k]? = some w ∧ w * row.siteSpacing = cell.width + row.gap cells k cell := by
      intro k cell isCell
      have there : k < (row.swid cells).length := by
        rw [length_swid]
        exact (List.getElem?_eq_some_iff.mp isCell).1
      have isWidth := getElem?_eq_getElem there
      rcases swid_cell multiples isWidth with ⟨other, isOther, isSize⟩
      rw [isCell, Option.some.injEq] at isOther
      rw [← isOther] at isSize
      exact ⟨_, isWidth, isSize⟩
    refine ⟨by rw [length_map, sizes, length_swid], ?_, ?_, ?_⟩
    · intro x member
      rcases mem_map.mp member with ⟨s, _, rfl⟩
      exact ⟨s, by rw [siteX]; ring⟩
    · intro k x cell isX isCell
      rw [getElem?_map, map_eq_some_iff] at isX
      rcases isX with ⟨s, isPlace, rfl⟩
      rcases width k cell isCell with ⟨w, isWidth, isSize⟩
      have bounds := inside k s w isPlace isWidth
      rw [i0_le_iff spacing, le_siteEnd_iff spacing, siteX_add, isSize] at bounds
      have positive := @gap_nonneg row cells k cell
      exact ⟨bounds.1, by linarith [bounds.2]⟩
    · intro k x y cell next isX isY isCell isNext
      rw [getElem?_map, map_eq_some_iff] at isX isY
      rcases isX with ⟨s, isPlace, rfl⟩
      rcases isY with ⟨s', isPlace', rfl⟩
      rcases width k cell isCell with ⟨w, isWidth, isSize⟩
      have past := order k s s' w isPlace isPlace' isWidth
      rw [← siteX_le_iff spacing, siteX_add, isSize, gap, isNext, map_some,
        getD_some] at past
      linarith

lemma currWid_eq {j : Nat} (known : j < (row.swid cells).length) :
    row.currWid cells j = (row.swid cells)[j] :=
  getD_eq_getElem _ _ known

lemma fits_iff {j : Nat} (known : j < (row.swid cells).length) (s : Int) :
    row.i0 + (s - 1) + row.currWid cells j - 1 ≤ row.i1 ↔
      s + (row.swid cells)[j] ≤ row.nsites + 1 := by
  rw [currWid_eq known, nsites]
  omega

lemma reach_iff (multiples : row.Multiples cells) {j : Nat} (known : j < (row.swid cells).length)
    (i : Int) (q : List Int) : row.Reach cells (j + 1) i q ↔
      Packed ((row.swid cells).take (j + 1)) 1 (row.nsites + 1) q ∧ q.head? = some 1 ∧
        q.getLastD 0 ≤ i := by
  rw [take_succ_eq_append_getElem known]
  induction j generalizing i q with
  | zero =>
    simp only [Reach, prevWid, if_true, fits_iff known]
    constructor
    · rintro ⟨rest, s, rfl, pos, le, fit, isFirst, rfl⟩
      have isOne : s = 1 := by omega
      rw [isOne] at fit le ⊢
      exact ⟨⟨le_rfl, fit, trivial⟩, rfl, le⟩
    · rintro ⟨packed, isHead, last⟩
      cases q with
      | nil => cases isHead
      | cons s rest =>
        rcases packed with ⟨low, fit, packed⟩
        cases rest with
        | cons => exact packed.elim
        | nil =>
          rw [head?_cons, Option.some.injEq] at isHead
          refine ⟨[], s, rfl, low, last, fit, by omega, rfl⟩
  | succ j ih =>
    have inBefore : j < (row.swid cells).length := by omega
    have before := fun i q => ih inBefore i q
    have prev : row.prevWid cells (j + 1) = (row.swid cells)[j] := by
      rw [prevWid, if_neg (Nat.succ_ne_zero j), Nat.add_sub_cancel]
      exact getD_eq_getElem _ _ inBefore
    have widths := take_succ_eq_append_getElem inBefore
    have ends : ∀ rest : List Int, rest.length = j + 1 →
        endOf 1 ((row.swid cells).take (j + 1)) rest = rest.getLastD 0 + (row.swid cells)[j] := by
      intro rest size
      rcases eq_nil_or_concat rest with rfl | ⟨first, last, rfl⟩
      · cases size
      · rw [concat_eq_append, length_append] at size
        rw [widths, concat_eq_append, getLastD_concat]
        apply endOf_concat
        rw [length_take, min_eq_left inBefore.le]
        exact Nat.add_right_cancel size
    have count : ((row.swid cells).take (j + 1)).length = j + 1 := by
      rw [length_take, min_eq_left known.le]
    constructor
    · rintro ⟨rest, s, rfl, pos, le, fit, reach⟩
      rw [prev] at reach
      rcases (before _ rest).mp reach with ⟨packed, isHead, last⟩
      rw [← widths] at packed
      have size := packed.length_eq
      rw [packed_concat size, ends rest (size.trans count), getLastD_concat,
        head?_append, isHead]
      exact ⟨⟨packed, by omega, (fits_iff known s).mp fit⟩, rfl, le⟩
    · rintro ⟨packed, isHead, last⟩
      rcases eq_nil_or_concat q with rfl | ⟨rest, s, rfl⟩
      · cases isHead
      · rw [concat_eq_append] at packed isHead last ⊢
        have size : rest.length = ((row.swid cells).take (j + 1)).length := by
          have both := packed.length_eq
          rw [length_append, length_append] at both
          exact Nat.add_right_cancel both
        have nonneg : ∀ w ∈ (row.swid cells).take (j + 1), 0 ≤ w :=
          fun w member => swid_nonneg multiples w (mem_of_mem_take member)
        rw [packed_concat size, ends rest (size.trans count)] at packed
        rcases packed with ⟨packed, past, fit⟩
        rw [getLastD_concat] at last
        have headRest : rest.head? = some 1 := by
          cases rest with
          | nil => rw [count] at size; cases size
          | cons first rest => exact isHead
        have positive : 1 ≤ rest.getLastD 0 := by
          rcases eq_nil_or_concat rest with rfl | ⟨first, final, rfl⟩
          · cases headRest
          · rw [concat_eq_append, getLastD_concat]
            apply packed.above nonneg
            rw [concat_eq_append]
            exact mem_append_right _ mem_cons_self
        have width := swid_nonneg multiples _ (getElem_mem inBefore)
        refine ⟨rest, s, rfl, by omega, last, (fits_iff known s).mpr fit, ?_⟩
        rw [prev, before, ← widths]
        exact ⟨packed, headRest, by omega⟩

def Counted (row : ShiftRow) (cells : List ShiftCell) (q : List Int) : Prop :=
  Packed (row.swid cells) 1 (row.nsites + 1) q ∧ q.head? = some 1 ∧ q.getLastD 0 ≤ row.nsites

lemma swid_ne_nil (some' : cells ≠ []) : row.swid cells ≠ [] := by
  intro empty
  have size := length_swid row cells
  rw [empty] at size
  exact some' (length_eq_zero_iff.mp size.symm)

lemma reach_counted (multiples : row.Multiples cells) (some' : cells ≠ [])
    (room : 0 ≤ row.nsites) (q : List Int) :
    row.Reach cells cells.length row.nsites.toNat q ↔ row.Counted cells q := by
  rcases Nat.exists_eq_succ_of_ne_zero fun empty => some' (length_eq_zero_iff.mp empty)
    with ⟨j, size⟩
  have known : j < (row.swid cells).length := by
    rw [length_swid, size]
    exact Nat.lt_succ_self j
  rw [size, reach_iff multiples known, take_of_length_le (by rw [length_swid, size]),
    Int.toNat_of_nonneg room]
  rfl

lemma counted_exists_iff (multiples : row.Multiples cells) (some' : cells ≠ []) :
    (∃ q, row.Counted cells q) ↔ row.CountsRoom cells := by
  have widths := @swid_ne_nil row cells some'
  constructor
  · rintro ⟨q, packed, _, last⟩
    have room := packed.room widths
    refine ⟨?_, by omega⟩
    rcases eq_nil_or_concat (row.swid cells) with empty | ⟨ws, w, isWidths⟩
    · exact absurd empty widths
    · rw [concat_eq_append] at isWidths
      have size := packed.length_eq
      rw [isWidths] at packed ⊢
      rcases eq_nil_or_concat q with rfl | ⟨rest, s, rfl⟩
      · rw [isWidths] at size
        simp at size
      · rw [concat_eq_append] at packed last size
        rw [isWidths, length_append, length_append] at size
        rw [packed_concat (Nat.add_right_cancel size)] at packed
        rw [getLastD_concat] at last
        rw [dropLast_concat]
        have past := packed.1.sum_le_endOf
        omega
  · rintro ⟨start, sum⟩
    have ends := @lefts_last (row.swid cells) 1 widths
    refine ⟨lefts 1 (row.swid cells), packed_lefts (swid_nonneg multiples) (by omega), ends.1, ?_⟩
    rw [ends.2]
    omega

lemma packed_absolute (widths q : List Int) :
    Packed widths row.i0 (row.i1 + 1) (q.map (· + (row.i0 - 1))) ↔
      Packed widths 1 (row.nsites + 1) q := by
  have shifted := @packed_add widths q 1 (row.nsites + 1) (row.i0 - 1)
  have last : row.nsites + 1 + (row.i0 - 1) = row.i1 + 1 := by
    rw [nsites]
    omega
  rw [last, add_sub_cancel] at shifted
  exact shifted

lemma map_siteX (q : List Int) : (q.map (· + (row.i0 - 1))).map row.siteX =
    q.map fun s => row.siteX (row.i0 + s - 1) := by
  rw [List.map_map]
  apply map_congr_left
  intro s _
  rw [Function.comp_apply, add_comm row.i0 s, add_sub_assoc]

lemma fromFirst_iff (some' : cells ≠ []) (p : List Int) : row.FromFirst cells p ↔
    ∃ q, p = (q.map fun s => row.siteX (row.i0 + s - 1)) ∧ row.Counted cells q := by
  have same : ∀ q : List Int, row.Counted cells q ↔
      Packed (row.swid cells) row.i0 (row.i1 + 1) (q.map (· + (row.i0 - 1))) ∧
        (q.map (· + (row.i0 - 1))).head? = some row.i0 ∧
        (q.map (· + (row.i0 - 1))).getLastD 0 ≤ row.i1 := by
    intro q
    rw [Counted, packed_absolute]
    refine and_congr_right fun packed => ?_
    rcases eq_nil_or_concat q with rfl | ⟨rest, s, rfl⟩
    · exact absurd packed.length_eq fun size => some' (by
        rw [length_swid] at size
        exact length_eq_zero_iff.mp size.symm)
    · rw [concat_eq_append, map_append, map_singleton, getLastD_concat,
        getLastD_concat, nsites]
      apply and_congr
      · cases rest with
        | nil => simp; omega
        | cons a rest => simp; omega
      · omega
  constructor
  · rintro ⟨q, rfl, packed, isHead, ends⟩
    have back : (q.map (· - (row.i0 - 1))).map (· + (row.i0 - 1)) = q := by
      rw [List.map_map]
      calc q.map _ = q.map id := map_congr_left fun s _ => sub_add_cancel s _
        _ = q := map_id q
    refine ⟨q.map (· - (row.i0 - 1)), ?_, ?_⟩
    · rw [← map_siteX, back]
    · rw [same, back]
      exact ⟨packed, isHead, ends⟩
  · rintro ⟨q, rfl, counted⟩
    exact ⟨q.map (· + (row.i0 - 1)), (map_siteX q).symm, (same q).mp counted⟩

lemma total_eq (targets : targetLeft.length = cells.length) {q : List Int}
    (counted : row.Counted cells q) : row.total cells targetLeft q =
      distance targetLeft (q.map fun s => row.siteX (row.i0 + s - 1)) := by
  have size : q.length = cells.length := counted.1.length_eq.trans (length_swid row cells)
  have absolute := (packed_absolute (row.swid cells) q).mpr counted.1
  rcases absolute.between with ⟨above, below⟩
  rw [total, distance]
  congr 1
  apply ext_getElem
  · rw [length_mapIdx, length_zipWith, length_map, size, targets, min_self]
  · intro k inMap inZip
    have known : k < q.length := by rwa [length_mapIdx] at inMap
    have inPlaces : k < (q.map (· + (row.i0 - 1))).length := by rwa [length_map]
    have inLefts : k < (lefts row.i0 (row.swid cells)).length := by rwa [above.length_eq]
    have inRights : k < (rights (row.i1 + 1) (row.swid cells)).length := by
      rwa [← below.length_eq]
    have low := above.get inLefts inPlaces
    have high := below.get inPlaces inRights
    simp only [get_eq_getElem, getElem_map] at low high
    rw [getElem_mapIdx, getElem_zipWith, getElem_map, cost,
      getD_eq_getElem _ _ inLefts, getD_eq_getElem _ _ inRights,
      getD_eq_getElem _ _ (by omega), if_neg (by omega)]

variable {posLeft : List Int}

lemma prevWid_nonneg (multiples : row.Multiples cells) (j : Nat) : 0 ≤ row.prevWid cells j := by
  rw [prevWid]
  split
  · exact Int.one_nonneg
  · rw [getD_eq_getElem?_getD]
    cases isWidth : (row.swid cells)[j - 1]? with
    | none => exact le_rfl
    | some w => exact swid_nonneg multiples w (mem_of_getElem? isWidth)

lemma test_none {j i fuel : Nat} (isNone : (row.table cells targetLeft j i).prev = none)
    (notStart : (i, j) ≠ (0, 0)) : row.test cells targetLeft fuel (i, j) false = false := by
  cases fuel with
  | zero => rfl
  | succ fuel => rw [test, isNone, decide_eq_false notStart, Bool.or_self]

lemma legal_nil (row : ShiftRow) : row.Legal [] [] where
  length := rfl
  aligned := fun x member => absurd member not_mem_nil
  inside := fun k x cell isX => absurd isX (by simp)
  separated := fun k x y cell next isX => absurd isX (by simp)

lemma shift_nil (row : ShiftRow) (targetLeft : List Int) :
    row.shift [] targetLeft [] = (decide (row.nsites = 0), []) := by
  have noWidths : row.swid [] = [] := rfl
  rw [shift, noWidths, sum_nil]
  split
  · rename_i negative
    rw [decide_eq_false (by omega)]
  · rename_i nonneg
    rw [if_neg (by rintro ⟨sites, member, _⟩; cases member)]
    dsimp only
    by_cases isZero : row.nsites = 0
    · rw [isZero]
      rfl
    · rw [test_none, decide_eq_false isZero]
      · rfl
      · change (if _ then _ else _ : Entry).prev = none
        rw [if_neg (by omega)]
      · simp only [length_nil, ne_eq, Prod.mk.injEq, and_true]
        omega

lemma shift_found (multiples : row.Multiples cells) (some' : cells ≠ [])
    (size : posLeft.length = cells.length) (room : row.CountsRoom cells) :
    ∃ q, Least (row.Counted cells) (row.total cells targetLeft) q ∧
      row.shift cells targetLeft posLeft = (true, q.map fun s => row.siteX (row.i0 + s - 1)) := by
  have nonneg := swid_nonneg multiples
  have sum := sum_nonneg nonneg
  have enough : 0 ≤ row.nsites := by
    have bound := room.2
    omega
  have reaches := reach_counted multiples some' enough
  have isBest := @best row cells targetLeft (prevWid_nonneg multiples) cells.length row.nsites.toNat
  rw [Best] at isBest
  cases isCost : (row.table cells targetLeft cells.length row.nsites.toNat).cost with
  | none =>
    rw [isCost] at isBest
    rcases (counted_exists_iff multiples some').mpr room with ⟨q, counted⟩
    exact absurd ((reaches q).mpr counted) (isBest.2 q)
  | some c =>
    rw [isCost] at isBest
    rcases isBest with ⟨q, least, _, traced⟩
    have ordered : ¬ ∃ sites ∈ (lefts row.i0 (row.swid cells)).zip
        (rights (row.i1 + 1) (row.swid cells)), sites.2 < sites.1 := by
      have last : row.i0 + (row.swid cells).sum ≤ row.i1 + 1 := by
        have bound := room.2
        rw [nsites] at bound
        omega
      have fits := (packed_lefts nonneg last).between.2
      rintro ⟨sites, member, wrong⟩
      exact absurd ((forall₂_iff_zip.mp fits).2 member) wrong.not_ge
    refine ⟨q, least.congr fun other => (reaches other).symm, ?_⟩
    rw [shift, if_neg (not_lt.mpr room.2), if_neg ordered]
    dsimp only
    rw [test_traced traced (Nat.lt_succ_self _), if_pos rfl,
      place_traced traced (Nat.lt_succ_self _) size.ge, ← size, drop_length, append_nil]

lemma shift_not_found (multiples : row.Multiples cells) (some' : cells ≠ [])
    (noRoom : ¬ row.CountsRoom cells) : (row.shift cells targetLeft posLeft).1 = false := by
  have sum := sum_nonneg (swid_nonneg multiples)
  rw [shift]
  split
  · rfl
  · rename_i enough
    split
    · rfl
    · have reaches := reach_counted multiples some' (by omega)
      have isBest := @best row cells targetLeft (prevWid_nonneg multiples) cells.length
        row.nsites.toNat
      rw [Best] at isBest
      have notStart : (row.nsites.toNat, cells.length) ≠ (0, 0) := by
        intro isStart
        rw [Prod.mk.injEq] at isStart
        exact some' (length_eq_zero_iff.mp isStart.2)
      cases isCost : (row.table cells targetLeft cells.length row.nsites.toNat).cost with
      | none =>
        rw [isCost] at isBest
        dsimp only
        rw [test_none isBest.1 notStart]
        rfl
      | some c =>
        rw [isCost] at isBest
        rcases isBest with ⟨q, least, _⟩
        exact absurd ((counted_exists_iff multiples some').mp
          ⟨q, (reaches q).mp least.member⟩) noRoom

lemma legal_exists_iff (multiples : row.Multiples cells) (some' : cells ≠ []) :
    (∃ p, row.Legal cells p) ↔ row.HasRoom cells := by
  rw [HasRoom, ← exists_packed_iff (swid_nonneg multiples) (swid_ne_nil some')]
  constructor
  · rintro ⟨p, legal⟩
    rcases (legal_iff multiples p).mp legal with ⟨q, _, packed⟩
    exact ⟨q, packed⟩
  · rintro ⟨q, packed⟩
    exact ⟨_, (legal_iff multiples _).mpr ⟨q, rfl, packed⟩⟩

lemma siteX_injective (spacing : 0 < row.siteSpacing) : Function.Injective row.siteX := by
  intro s t same
  exact le_antisymm ((siteX_le_iff spacing).mp same.le) ((siteX_le_iff spacing).mp same.ge)

lemma getLastD_add {q : List Int} (some' : q ≠ []) (d : Int) :
    (q.map (· + d)).getLastD 0 = q.getLastD 0 + d := by
  rcases eq_nil_or_concat q with empty | ⟨rest, s, rfl⟩
  · exact absurd empty some'
  · rw [concat_eq_append, map_append, map_singleton, getLastD_concat,
      getLastD_concat]

lemma counted_ne_nil {q : List Int} (counted : row.Counted cells q) : q ≠ [] := by
  intro empty
  have isHead := counted.2.1
  rw [empty] at isHead
  cases isHead

lemma found_legal (multiples : row.Multiples cells) (some' : cells ≠ []) {q q' : List Int}
    (counted : row.Counted cells q) (counted' : row.Counted cells q')
    (le : q.getLastD 0 ≤ q'.getLastD 0)
    (legal : row.Legal cells (q'.map fun s => row.siteX (row.i0 + s - 1))) :
    row.Legal cells (q.map fun s => row.siteX (row.i0 + s - 1)) := by
  rcases (legal_iff multiples _).mp legal with ⟨absolute, same, packed⟩
  rw [← map_siteX] at same
  have isSame := map_injective_iff.mpr (siteX_injective multiples.spacing) same
  rw [← isSame] at packed
  have widths := @swid_ne_nil row cells some'
  have here := (packed_absolute (row.swid cells) q).mpr counted.1
  have ends : endOf row.i0 (row.swid cells) (q.map (· + (row.i0 - 1))) ≤ row.siteEnd := by
    calc endOf row.i0 (row.swid cells) (q.map (· + (row.i0 - 1)))
        = q.getLastD 0 + (row.i0 - 1) + (row.swid cells).getLastD 0 := by
          rw [endOf_last here.length_eq widths, getLastD_add (counted_ne_nil counted)]
      _ ≤ q'.getLastD 0 + (row.i0 - 1) + (row.swid cells).getLastD 0 := by omega
      _ = endOf row.i0 (row.swid cells) (q'.map (· + (row.i0 - 1))) := by
          rw [endOf_last packed.length_eq widths, getLastD_add (counted_ne_nil counted')]
      _ ≤ row.siteEnd := packed.endOf_le widths
  rw [← map_siteX]
  exact (legal_iff multiples _).mpr ⟨_, rfl, here.until (swid_nonneg multiples) ends⟩

/-- Shifting is optimal just when the first site serves the first cell. -/
theorem shifts_optimally_iff (row : ShiftRow) (cells : List ShiftCell)
    (targetLeft posLeft : List Int) (multiples : row.Multiples cells)
    (targets : targetLeft.length = cells.length) (size : posLeft.length = cells.length) :
    row.ShiftsOptimally cells targetLeft posLeft ↔ row.FirstSiteServes cells targetLeft := by
  rw [FirstSiteServes]
  by_cases empty : cells = []
  · subst empty
    rw [if_pos rfl]
    rw [List.length_eq_zero_iff.mp size]
    constructor
    · intro optimal
      have found := optimal.finds.mpr ⟨[], legal_nil row⟩
      rw [shift_nil, decide_eq_true_eq] at found
      exact found
    · intro isZero
      have result := shift_nil row targetLeft
      rw [decide_eq_true isZero] at result
      constructor
      · rw [result]
        exact iff_of_true rfl ⟨[], legal_nil row⟩
      · rw [result]
        exact fun _ => legal_nil row
      · rw [result]
        intro _ p legal
        rw [List.length_eq_zero_iff.mp legal.length]
  · rw [if_neg empty, ← legal_exists_iff multiples empty]
    by_cases room : row.CountsRoom cells
    · rcases @shift_found row cells targetLeft posLeft multiples empty size room with ⟨q, least, result⟩
      have cheapest : ∀ other, row.FromFirst cells other → distance targetLeft
          (q.map fun s => row.siteX (row.i0 + s - 1)) ≤ distance targetLeft other := by
        intro other fromFirst
        rcases (fromFirst_iff empty other).mp fromFirst with ⟨q', rfl, counted⟩
        rw [← total_eq targets least.member, ← total_eq targets counted]
        exact (least.least q' counted).1
      constructor
      · intro optimal
        rw [optimal.finds.symm, result]
        refine ⟨iff_of_true rfl room, fun _ => ?_⟩
        have legal := optimal.legal (by rw [result])
        have isLeast := optimal.least (by rw [result])
        rw [result] at legal isLeast
        refine ⟨_, legal, (fromFirst_iff empty _).mpr ⟨q, rfl, least.member⟩, ?_⟩
        intro other kind
        rcases kind with isLegal | fromFirst
        · exact isLeast other isLegal
        · exact cheapest other fromFirst
      · rintro ⟨rooms, serves⟩
        rcases serves (rooms.mpr room) with ⟨p, legal, fromFirst, isLeast⟩
        rcases (fromFirst_iff empty p).mp fromFirst with ⟨q', rfl, counted⟩
        have same : row.total cells targetLeft q' = row.total cells targetLeft q := by
          have le := isLeast _ (.inr ((fromFirst_iff empty _).mpr ⟨q, rfl, least.member⟩))
          rw [← total_eq targets least.member, ← total_eq targets counted] at le
          exact le_antisymm le (least.least q' counted).1
        have isLegal := found_legal multiples empty least.member counted
          ((least.least q' counted).2 same) legal
        constructor
        · rw [result]
          exact iff_of_true rfl ⟨_, isLegal⟩
        · rw [result]
          exact fun _ => isLegal
        · rw [result]
          intro _ other otherLegal
          dsimp only
          rw [← total_eq targets least.member, ← same, total_eq targets counted]
          exact isLeast other (.inl otherLegal)
    · have notFound := @shift_not_found row cells targetLeft posLeft multiples empty room
      constructor
      · intro optimal
        rw [← optimal.finds, notFound]
        exact ⟨iff_of_false Bool.false_ne_true room, fun found => absurd found Bool.false_ne_true⟩
      · rintro ⟨rooms, _⟩
        constructor
        · rw [notFound]
          exact iff_of_false Bool.false_ne_true fun legal => room (rooms.mp legal)
        · rw [notFound]
          exact fun found => absurd found Bool.false_ne_true
        · rw [notFound]
          exact fun found => absurd found Bool.false_ne_true

def twoSites : ShiftRow := ⟨0, 1, 1, 0, 2, false⟩

def oneSite : ShiftCell := ⟨1, 0, 0⟩

lemma twoSites_multiples : twoSites.Multiples [oneSite] where
  spacing := by decide
  widths := by
    intro cell member
    rw [mem_singleton.mp member]
    decide
  spacings := by
    intro k cell next _ isNext
    rw [getElem?_cons_succ, getElem?_nil] at isNext
    cases isNext

lemma twoSites_legal (x : Int) (low : 0 ≤ x) (high : x ≤ 1) : twoSites.Legal [oneSite] [x] where
  length := rfl
  aligned := fun _ _ => one_dvd _
  inside := by
    intro k y cell isX isCell
    have isThere := mem_singleton.mp (mem_of_getElem? isX)
    rw [isThere, mem_singleton.mp (mem_of_getElem? isCell)]
    exact ⟨low, Int.add_le_add_right high 1⟩
  separated := fun k x y cell next _ isY => absurd isY (by simp)

lemma distance_nonneg (targetLeft p : List Int) : 0 ≤ distance targetLeft p := by
  apply sum_nonneg
  intro d member
  rw [← map_uncurry_zip_eq_zipWith] at member
  rcases mem_map.mp member with ⟨pair, _, rfl⟩
  exact abs_nonneg _

def sixSites : ShiftRow := ⟨0, 1, 1, 0, 6, true⟩

/-- A cell of one site with a padding of one site on its right. -/
def spacedCell : ShiftCell := ⟨1, 0, 1⟩

lemma sixSites_multiples : sixSites.Multiples [spacedCell, spacedCell] where
  spacing := by decide
  widths := by
    intro cell member
    rcases List.mem_pair.mp member with rfl | rfl <;> exact ⟨by decide, one_dvd _⟩
  spacings := fun _ _ _ _ _ => one_dvd _

/-- Targets on the first site and on the fifth are met. -/
theorem shifts_optimally_iff_first :
    sixSites.ShiftsOptimally [spacedCell, spacedCell] [0, 4] [5, 5] := by
  apply (shifts_optimally_iff sixSites _ [0, 4] [5, 5] sixSites_multiples rfl rfl).mpr
  have hasRoom : sixSites.HasRoom [spacedCell, spacedCell] := by
    rw [HasRoom]
    decide
  have countsRoom : sixSites.CountsRoom [spacedCell, spacedCell] := by
    rw [CountsRoom]
    decide
  have legal : sixSites.Legal [spacedCell, spacedCell] [0, 4] :=
    (legal_iff sixSites_multiples [0, 4]).mpr
      ⟨[0, 4], rfl, ⟨by decide, by decide, by decide, by decide, trivial⟩⟩
  rw [FirstSiteServes, if_neg (cons_ne_nil _ _)]
  refine ⟨iff_of_true hasRoom countsRoom, fun _ => ⟨[0, 4], legal, ?_, ?_⟩⟩
  · exact ⟨[0, 4], rfl, ⟨by decide, by decide, by decide, by decide, trivial⟩, rfl, by decide⟩
  · intro other _
    exact distance_nonneg [0, 4] other

/-- A target on the second site is not, as the first cell goes to the first site. -/
theorem first_site_forced : twoSites.Multiples [oneSite] ∧
    twoSites.shift [oneSite] [1] [5] = (true, [0]) ∧ twoSites.Legal [oneSite] [1] ∧
    ¬ twoSites.ShiftsOptimally [oneSite] [1] [5] := by
  have result : twoSites.shift [oneSite] [1] [5] = (true, [0]) := by decide
  have legal := twoSites_legal 1 (by decide) le_rfl
  refine ⟨twoSites_multiples, result, legal, ?_⟩
  intro optimal
  have least := optimal.least (by rw [result]) [1] legal
  rw [result] at least
  exact absurd least (by decide)

end ShiftRow

end OpenRoad.Dpl
