import OpenRoad.Dpl.Segments
import OpenRoad.Lib.Pairing

/-! What cutting at the borders of regions does to the segments of a row. -/

namespace OpenRoad.Dpl

open OpenRoad.Lib List Blockage

/-- The padded fixed cells and the blockages that overlap a row vertically. -/
def obstacles (arch : Architecture) (fixedCells : List Node) (blockages : List Rect) (row : Row) :
    List (Int × Int) :=
  let meets (bottom top : Int) : Bool := bottom < row.getTop ∧ row.bottom < top
  (fixedCells.filter fun nd => ¬ nd.isTerminal ∧ meets nd.bottom nd.getTop).map (fun nd =>
      (nd.left - arch.getCellSpacing none (some nd),
        nd.getRight + arch.getCellSpacing (some nd) none)) ++
    (blockages.filter fun blockage => meets blockage.yMin blockage.yMax).map fun blockage =>
      (blockage.xMin, blockage.xMax)

/-- No obstacle has a part in common with the stretch from `x` to `y`. -/
def Free (obstacles : List (Int × Int)) (x y : Int) : Prop :=
  ∀ o ∈ obstacles, ¬ Overlaps Prod.fst Prod.snd x y o

/-- The box encloses the rows, and regions are numbered in their order. -/
structure Architecture.WellFormed (arch : Architecture) : Prop where
  spacing : ∀ row ∈ arch.rows, 0 < row.siteSpacing
  sites : ∀ row ∈ arch.rows, 0 ≤ row.numSites
  heights : ∀ row ∈ arch.rows, 0 < row.height
  box : ∀ row ∈ arch.rows, arch.minX ≤ row.left ∧ row.getRight ≤ arch.maxX ∧
    arch.minY ≤ row.bottom ∧ row.getTop ≤ arch.maxY
  ids : ∀ (i : Nat) (region : Group), arch.regions[i]? = some region → region.id = i

section

variable {arch : Architecture} {fixedCells : List Node} {blockages : List Rect} {row : Row}

lemma Row.left_le_getRight (wellFormed : arch.WellFormed) (there : row ∈ arch.rows) :
    row.left ≤ row.getRight := by
  have product := Int.mul_nonneg (wellFormed.sites row there) (wellFormed.spacing row there).le
  rw [Row.getRight]
  omega

def Clipped (arch : Architecture) (blockage : Blockage) (o : Int × Int) : Prop :=
  ∃ p q, 0 ≤ p ∧ 0 ≤ q ∧ blockage.getPaddedXMin = max (arch.minX - p) o.1 ∧
    blockage.getPaddedXMax = min (arch.maxX + q) o.2

lemma getCellSpacing_nonneg (arch : Architecture) (leftNode rightNode : Option Node) :
    0 ≤ arch.getCellSpacing leftNode rightNode := by
  rw [Architecture.getCellSpacing]
  split
  · exact le_max_left _ _
  · exact le_refl _

lemma meets_iff (wellFormed : arch.WellFormed) (there : row ∈ arch.rows) (bottom top : Int) :
    (max arch.minY bottom < row.getTop ∧ min arch.maxY top > row.bottom) ↔
      bottom < row.getTop ∧ row.bottom < top := by
  have box := wellFormed.box row there
  have height := wellFormed.heights row there
  have rowTop : row.getTop = row.bottom + row.height := rfl
  omega

lemma rawBlockages_clipped (fixedCells : List Node) (blockages : List Rect)
    (wellFormed : arch.WellFormed) (there : row ∈ arch.rows) :
    Forall₂ (Clipped arch) (rawBlockages arch fixedCells blockages row)
      (obstacles arch fixedCells blockages row) := by
  rw [rawBlockages, obstacles]
  simp only [meets_iff wellFormed there]
  refine rel_append ?_ ?_
  · rw [forall₂_map_left_iff, forall₂_map_right_iff, forall₂_same]
    intro nd _
    refine ⟨_, _, getCellSpacing_nonneg arch none (some nd),
      getCellSpacing_nonneg arch (some nd) none, ?_, ?_⟩
    · simp only [getPaddedXMin]
      omega
    · simp only [getPaddedXMax]
      omega
  · rw [forall₂_map_left_iff, forall₂_map_right_iff, forall₂_same]
    intro blockage _
    refine ⟨0, 0, le_refl _, le_refl _, ?_, ?_⟩
    · simp only [getPaddedXMin]
      omega
    · simp only [getPaddedXMax]
      omega

lemma clipped_overlaps {blockage : Blockage} {o : Int × Int} (clipped : Clipped arch blockage o)
    {x y : Int} (less : x < y) (inside : arch.minX ≤ x) (within : y ≤ arch.maxX) :
    Overlaps getPaddedXMin getPaddedXMax x y blockage ↔
      Overlaps Prod.fst Prod.snd x y o := by
  rcases clipped with ⟨p, q, pPos, qPos, xMin, xMax⟩
  rw [Overlaps, Overlaps, xMin, xMax]
  omega

variable {sort : List Blockage → List Blockage}

lemma precedes_of_sorted {a b : Blockage} (before : ¬ compareBlockages b a = true) :
    Precedes getPaddedXMin getPaddedXMax a b := by
  rw [compareBlockages] at before
  rw [Precedes]
  split at before
  · rename_i same
    have ends := of_decide_eq_false (Bool.eq_false_iff.mpr before)
    omega
  · rename_i differ
    have begins := of_decide_eq_false (Bool.eq_false_iff.mpr before)
    omega

lemma sorted_precedes (sorts : SortsBlockages sort) (list : List Blockage) :
    (sort list).Pairwise (Precedes getPaddedXMin getPaddedXMax) :=
  (sorts.sorted list).imp precedes_of_sorted

lemma extend_xMin (a b : Blockage) : (a.extend b).getPaddedXMin = a.getPaddedXMin := rfl

lemma extend_xMax (a b : Blockage) : (a.extend b).getPaddedXMax = b.getPaddedXMax := rfl

lemma rowBlockages_apart (arch : Architecture) (fixedCells : List Node) (blockages : List Rect)
    (row : Row) (sorts : SortsBlockages sort) :
    (rowBlockages arch sort fixedCells blockages row).Pairwise
      (Apart getPaddedXMin getPaddedXMax) := by
  apply apart_of_perm (mergeSorted_apart extend_xMin extend_xMax (sorted_precedes sorts _))
  · exact (sorts.perm _).trans (reverse_perm _).symm
  · exact sorted_precedes sorts _

lemma mem_rowBlockages (sorts : SortsBlockages sort) {blockage : Blockage} :
    blockage ∈ rowBlockages arch sort fixedCells blockages row ↔
      blockage ∈ mergeSorted getPaddedXMin getPaddedXMax extend
        (sort (rawBlockages arch fixedCells blockages row)) :=
  (sorts.perm _).mem_iff

lemma rowBlockages_clear (fixedCells : List Node) (blockages : List Rect)
    (sorts : SortsBlockages sort) (wellFormed : arch.WellFormed) (there : row ∈ arch.rows)
    (x y : Int) (less : x < y) (inside : row.left ≤ x) (within : y ≤ row.getRight) :
    (∀ b ∈ rowBlockages arch sort fixedCells blockages row,
      ¬ Overlaps getPaddedXMin getPaddedXMax x y b) ↔
      Free (obstacles arch fixedCells blockages row) x y := by
  rcases wellFormed.box row there with ⟨leftBox, rightBox, _⟩
  have clips := rawBlockages_clipped fixedCells blockages wellFormed there
  have toObstacle := fun b member => @forall₂_left _ _ _ _ _ clips b member
  have toBlockage := fun o member => @forall₂_right _ _ _ _ _ clips o member
  have merged := mergeSorted_overlaps extend_xMin extend_xMax
    (sorted_precedes sorts (rawBlockages arch fixedCells blockages row)) less
  have overlapping : (∃ b ∈ rowBlockages arch sort fixedCells blockages row,
      Overlaps getPaddedXMin getPaddedXMax x y b) ↔
      ∃ o ∈ obstacles arch fixedCells blockages row, Overlaps Prod.fst Prod.snd x y o := by
    simp only [mem_rowBlockages sorts, merged, (sorts.perm _).mem_iff]
    constructor
    · rintro ⟨b, member, overlaps⟩
      rcases toObstacle b member with ⟨o, isObstacle, clipped⟩
      exact ⟨o, isObstacle, (clipped_overlaps clipped less (leftBox.trans inside)
        (within.trans rightBox)).mp overlaps⟩
    · rintro ⟨o, member, overlaps⟩
      rcases toBlockage o member with ⟨b, isBlockage, clipped⟩
      exact ⟨b, isBlockage, (clipped_overlaps clipped less (leftBox.trans inside)
        (within.trans rightBox)).mpr overlaps⟩
  have negated := not_congr overlapping
  simp only [not_exists, not_and] at negated
  exact negated

lemma rowBlockages_proper (sorts : SortsBlockages sort) (wellFormed : arch.WellFormed)
    (there : row ∈ arch.rows)
    (proper : ∀ o ∈ obstacles arch fixedCells blockages row, o.1 ≤ o.2) :
    ∀ b ∈ rowBlockages arch sort fixedCells blockages row,
      Proper getPaddedXMin getPaddedXMax row.left row.getRight b := by
  rcases wellFormed.box row there with ⟨leftBox, rightBox, _⟩
  have ordered := Row.left_le_getRight wellFormed there
  intro b member
  refine mergeSorted_proper extend_xMin extend_xMax (fun raw isRaw => ?_) b
    ((mem_rowBlockages sorts).mp member)
  rcases forall₂_left (rawBlockages_clipped fixedCells blockages wellFormed there)
    ((sorts.perm _).mem_iff.mp isRaw) with ⟨o, isObstacle, p, q, pPos, qPos, xMin, xMax⟩
  have oProper := proper o isObstacle
  rw [Proper, xMin, xMax]
  omega

lemma rowBlockages_bounds (fixedCells : List Node) (blockages : List Rect)
    (sorts : SortsBlockages sort) (wellFormed : arch.WellFormed) (there : row ∈ arch.rows)
    (b : Blockage) (member : b ∈ rowBlockages arch sort fixedCells blockages row) :
    (row.left < b.getPaddedXMin →
      ∃ o ∈ obstacles arch fixedCells blockages row, b.getPaddedXMin = o.1) ∧
    (b.getPaddedXMax < row.getRight →
      ∃ o ∈ obstacles arch fixedCells blockages row, b.getPaddedXMax = o.2) := by
  rcases wellFormed.box row there with ⟨leftBox, rightBox, _⟩
  rcases mergeSorted_bounds extend_xMin extend_xMax _ b ((mem_rowBlockages sorts).mp member) with
    ⟨⟨first, isFirst, sameMin⟩, last, isLast, sameMax⟩
  have clips := rawBlockages_clipped fixedCells blockages wellFormed there
  constructor
  · intro inside
    rcases forall₂_left clips ((sorts.perm _).mem_iff.mp isFirst) with ⟨o, isObstacle, p, _, pPos, _, xMin, _⟩
    refine ⟨o, isObstacle, ?_⟩
    rw [sameMin, xMin] at inside
    rw [sameMin, xMin]
    omega
  · intro inside
    rcases forall₂_left clips ((sorts.perm _).mem_iff.mp isLast) with ⟨o, isObstacle, _, q, _, qPos, _, xMax⟩
    refine ⟨o, isObstacle, ?_⟩
    rw [sameMax, xMax] at inside
    rw [sameMax, xMax]
    omega

lemma stretch_eq_nil {x y : Int} (empty : y ≤ x) : stretch x y = [] :=
  if_neg (not_lt.mpr empty)

lemma gapsFrom_spans (left right : Int) (b : Blockage) (rest : List Blockage) :
    gapsFrom getPaddedXMin getPaddedXMax left right b.getPaddedXMax rest =
      spansBetween left right (b :: rest) ++
        if ((b :: rest).getLast (cons_ne_nil _ _)).getPaddedXMax < right then
          stretch (min right (max left ((b :: rest).getLast
            (cons_ne_nil _ _)).getPaddedXMax)) right
        else [] := by
  induction rest generalizing b with
  | nil =>
    rw [gapsFrom, spansBetween, nil_append, getLast_singleton]
    · split
      · rcases le_total (max left b.getPaddedXMax) right with below | above
        · rw [min_eq_right below]
        · rw [min_eq_left above, stretch_eq_nil above, stretch_eq_nil (le_refl _)]
      · exact stretch_eq_nil (by omega)
    · nofun
  | cons c rest ih =>
    rw [gapsFrom, spansBetween, ih c, append_assoc, getLast_cons_cons]
    congr 1
    split
    · rfl
    · exact stretch_eq_nil (by omega)

lemma freeSpans_eq (wellFormed : arch.WellFormed) (there : row ∈ arch.rows)
    (list : List Blockage) :
    ∃ from', (∀ b ∈ list.head?, from' < b.getPaddedXMin) ∧ max row.left from' = row.left ∧
      freeSpans arch row list = gapsFrom getPaddedXMin getPaddedXMax row.left
        row.getRight from' list := by
  rcases wellFormed.box row there with ⟨leftBox, rightBox, _⟩
  cases list with
  | nil =>
    refine ⟨row.left, nofun, max_self _, ?_⟩
    rw [freeSpans, gapsFrom, max_eq_right leftBox, min_eq_right rightBox, max_self]
  | cons first rest =>
    refine ⟨min row.left (first.getPaddedXMin - 1), ?_, by omega, ?_⟩
    · intro b isFirst
      cases isFirst
      omega
    · rw [freeSpans, gapsFrom, max_eq_right leftBox, min_eq_right rightBox, gapsFrom_spans,
        append_assoc]
      have begins : max row.left (min row.left (first.getPaddedXMin - 1)) = row.left := by omega
      rw [begins]
      congr 1
      split
      · rfl
      · exact (stretch_eq_nil (by omega)).symm

lemma Row.site_lt_iff (pos : 0 < row.siteSpacing) {i j : Int} :
    row.site i < row.site j ↔ i < j := by
  rw [Row.site, Row.site, Int.add_lt_add_iff_left, Int.mul_lt_mul_right pos]

lemma Row.site_le_iff (pos : 0 < row.siteSpacing) {i j : Int} :
    row.site i ≤ row.site j ↔ i ≤ j := by
  rw [← not_lt, ← not_lt, Row.site_lt_iff pos]

lemma Row.site_zero (row : Row) : row.site 0 = row.left := by
  rw [Row.site, Int.zero_mul, Int.add_zero]

/-- What holds of each segment of a row; `right` says which regions suit a site. -/
structure Piece (row : Row) (obstacles : List (Int × Int)) (regions : Nat)
    (right : Int → Int → Prop) (seg : DetailedSeg) : Prop where
  left_le : row.left ≤ seg.xmin
  less : seg.xmin < seg.xmax
  le_right : seg.xmax ≤ row.getRight
  clear : Free obstacles seg.xmin seg.xmax
  begins : (∃ i, seg.xmin = row.site i) ∨ ∃ o ∈ obstacles, seg.xmin = o.2
  ends : (∃ i, seg.xmax = row.site i) ∨ ∃ o ∈ obstacles, seg.xmax = o.1
  labelled : ∀ i, 0 ≤ i → seg.xmin ≤ row.site i → row.site (i + 1) ≤ seg.xmax → right seg.regId i
  valid : seg.regId = -1 ∨ ∃ g < regions, seg.regId = (g : Int)

def Off (s t : DetailedSeg) : Prop := s.xmax ≤ t.xmin ∨ t.xmax ≤ s.xmin

/-- The segments of a row, with the region of each site. -/
structure Cut (row : Row) (obstacles : List (Int × Int)) (regions : Nat) (label : Int → Int)
    (segs : List DetailedSeg) : Prop where
  pieces : ∀ seg ∈ segs, Piece row obstacles regions (fun g i => label i = g) seg
  disjoint : segs.Pairwise Off
  complete : ∀ i x y, 0 ≤ i → i < row.numSites → row.site i ≤ x → x < y → y ≤ row.site (i + 1) →
    Free obstacles x y → ∃ seg ∈ segs, seg.xmin ≤ x ∧ y ≤ seg.xmax

lemma Free.mono {obstacles : List (Int × Int)} {x y x' y' : Int} (free : Free obstacles x y)
    (begins : x ≤ x') (ends : y' ≤ y) : Free obstacles x' y' :=
  fun o member overlaps => free o member ⟨by have := overlaps.1; omega, by have := overlaps.2; omega⟩

lemma site_within (wellFormed : arch.WellFormed) (there : row ∈ arch.rows) {i : Int}
    (nonneg : 0 ≤ i) (inside : i < row.numSites) :
    row.left ≤ row.site i ∧ row.site (i + 1) ≤ row.getRight := by
  have pos := wellFormed.spacing row there
  constructor
  · rw [← Row.site_zero, Row.site_le_iff pos]
    exact nonneg
  · exact (Row.site_le_iff pos).mpr (show i + 1 ≤ row.numSites by omega)

lemma spanSegments_bounds (r n : Nat) (spans : List (Int × Int)) :
    (spanSegments r n spans).map (fun seg => (seg.xmin, seg.xmax)) = spans := by
  rw [spanSegments, map_map]
  exact zipIdx_map_fst 0 spans

lemma spanSegments_regId {r n : Nat} {spans : List (Int × Int)} {seg : DetailedSeg}
    (member : seg ∈ spanSegments r n spans) : seg.regId = -1 := by
  rcases mem_map.mp member with ⟨_, _, rfl⟩
  rfl

lemma spanSegments_cut (sorts : SortsBlockages sort) (wellFormed : arch.WellFormed)
    (there : row ∈ arch.rows)
    (proper : ∀ o ∈ obstacles arch fixedCells blockages row, o.1 ≤ o.2) (regions r n : Nat) :
    Cut row (obstacles arch fixedCells blockages row) regions (fun _ => -1)
      (spanSegments r n (freeSpans arch row
        (rowBlockages arch sort fixedCells blockages row))) := by
  have apart := rowBlockages_apart arch fixedCells blockages row sorts
  have isProper := rowBlockages_proper sorts wellFormed there proper
  have bounds := rowBlockages_bounds fixedCells blockages sorts wellFormed there
  have isClear := rowBlockages_clear fixedCells blockages sorts wellFormed there
  rcases freeSpans_eq wellFormed there (rowBlockages arch sort fixedCells blockages row) with
    ⟨from', first, begins, spans⟩
  rw [spans]
  generalize rowBlockages arch sort fixedCells blockages row = list at *
  have later : ∀ b ∈ list, from' < b.getPaddedXMin := by
    cases list with
    | nil => nofun
    | cons head rest =>
      have headLater := first head rfl
      refine forall_mem_cons.mpr ⟨headLater, fun b member => ?_⟩
      exact lt_of_lt_of_le headLater ((pairwise_cons.mp apart).1 b member).2.lo_le
  have fromLeft : from' ≤ row.left := by omega
  have within := gapsFrom_within apart isProper later
  have ends := gapsFrom_ends getPaddedXMin getPaddedXMax row.left row.getRight
    from' list
  have ordered := gapsFrom_ordered apart isProper from'
  have gapClear := gapsFrom_clear apart isProper from'
  have covered : ∀ x y, row.left ≤ x → x < y → y ≤ row.getRight →
      Free (obstacles arch fixedCells blockages row) x y →
      ∃ gap ∈ gapsFrom getPaddedXMin getPaddedXMax row.left row.getRight from'
        list, gap.1 ≤ x ∧ y ≤ gap.2 := fun x y inside less outside free =>
    gapsFrom_complete inside (fromLeft.trans inside) less outside
      ((isClear x y less inside outside).mpr free)
  generalize gapsFrom getPaddedXMin getPaddedXMax row.left row.getRight from'
    list = gaps at *
  have same := spanSegments_bounds r n gaps
  refine ⟨fun seg member => ?_, ?_, ?_⟩
  · have isGap : (seg.xmin, seg.xmax) ∈ gaps := same ▸ mem_map_of_mem member
    rcases within _ isGap with ⟨inside, _, less, outside⟩
    have free := (isClear _ _ less inside outside).mp (gapClear _ isGap)
    have regId := spanSegments_regId member
    refine ⟨inside, less, outside, free, ?_, ?_, fun i _ _ _ => regId.symm, .inl regId⟩
    · rcases (ends _ isGap).1 with isLeft | isLeft | ⟨b, isBlockage, isEnd⟩
      · exact .inl ⟨0, by rw [Row.site_zero]; exact isLeft.trans begins⟩
      · exact .inl ⟨0, by rw [Row.site_zero]; exact isLeft⟩
      · rcases (bounds b isBlockage).2 (isEnd ▸ lt_of_lt_of_le less outside) with
          ⟨o, isObstacle, sameEnd⟩
        exact .inr ⟨o, isObstacle, isEnd.trans sameEnd⟩
    · rcases (ends _ isGap).2 with isRight | ⟨b, isBlockage, isStart⟩
      · exact .inl ⟨row.numSites, isRight⟩
      · rcases (bounds b isBlockage).1 (isStart ▸ lt_of_le_of_lt inside less) with
          ⟨o, isObstacle, sameStart⟩
        exact .inr ⟨o, isObstacle, isStart.trans sameStart⟩
  · rw [← same, pairwise_map] at ordered
    exact ordered.imp Or.inl
  · intro i x y nonneg inside begins' less ends' free
    have site := site_within wellFormed there nonneg inside
    rcases covered x y (site.1.trans begins') less (ends'.trans site.2) free with
      ⟨gap, isGap, contains⟩
    rw [← same] at isGap
    rcases mem_map.mp isGap with ⟨seg, member, rfl⟩
    exact ⟨seg, member, contains⟩

def Uncrossed (il ir x y : Int) : Prop := (y ≤ il ∨ il ≤ x) ∧ (y ≤ ir ∨ ir ≤ x)

/-- Segments are cut into others, between the ends of an interval and outside of them. -/
structure Refines (il ir : Int) (segs out : List DetailedSeg) : Prop where
  within : ∀ o ∈ out, ∃ s ∈ segs, s.xmin ≤ o.xmin ∧ o.xmax ≤ s.xmax
  covers : ∀ x y, x < y → Uncrossed il ir x y → (∃ s ∈ segs, s.xmin ≤ x ∧ y ≤ s.xmax) →
    ∃ o ∈ out, o.xmin ≤ x ∧ y ≤ o.xmax
  off : segs.Pairwise Off → out.Pairwise Off

lemma Off.symm {s t : DetailedSeg} (off : Off s t) : Off t s := Or.symm off

lemma Off.within {s t s' t' : DetailedSeg} (off : Off s t) (first : s.xmin ≤ s'.xmin)
    (first' : s'.xmax ≤ s.xmax) (second : t.xmin ≤ t'.xmin) (second' : t'.xmax ≤ t.xmax) :
    Off s' t' := by
  rcases off with before | behind
  · exact .inl (by omega)
  · exact .inr (by omega)

lemma Refines.cons {il ir : Int} {seg kept : DetailedSeg} {rest fresh out : List DetailedSeg}
    (cut : Refines il ir [seg] (kept :: fresh)) (scanned : Refines il ir (rest ++ fresh) out) :
    Refines il ir (seg :: rest) (kept :: out) := by
  have inSeg : ∀ piece ∈ kept :: fresh, seg.xmin ≤ piece.xmin ∧ piece.xmax ≤ seg.xmax := by
    intro piece member
    rcases cut.within piece member with ⟨s, isSeg, inside⟩
    rw [mem_singleton.mp isSeg] at inside
    exact inside
  refine ⟨forall_mem_cons.mpr ⟨?_, fun o member => ?_⟩, fun x y less uncrossed inside => ?_,
    fun apart => ?_⟩
  · exact ⟨seg, mem_cons_self, inSeg kept mem_cons_self⟩
  · rcases scanned.within o member with ⟨s, isSeg, inside⟩
    rcases mem_append.mp isSeg with isRest | isFresh
    · exact ⟨s, mem_cons_of_mem _ isRest, inside⟩
    · have bounds := inSeg s (mem_cons_of_mem _ isFresh)
      exact ⟨seg, mem_cons_self, bounds.1.trans inside.1, inside.2.trans bounds.2⟩
  · have later : (∃ s ∈ rest ++ fresh, s.xmin ≤ x ∧ y ≤ s.xmax) →
        ∃ o ∈ kept :: out, o.xmin ≤ x ∧ y ≤ o.xmax := by
      intro source
      rcases scanned.covers x y less uncrossed source with ⟨o, member, contains⟩
      exact ⟨o, mem_cons_of_mem _ member, contains⟩
    rcases inside with ⟨s, isSeg, contains⟩
    rcases mem_cons.mp isSeg with rfl | isRest
    · rcases cut.covers x y less uncrossed ⟨s, mem_cons_self, contains⟩ with
        ⟨piece, isPiece, contains⟩
      rcases mem_cons.mp isPiece with rfl | isFresh
      · exact ⟨piece, mem_cons_self, contains⟩
      · exact later ⟨piece, mem_append_right _ isFresh, contains⟩
    · exact later ⟨s, mem_append_left _ isRest, contains⟩
  · rcases pairwise_cons.mp apart with ⟨segOff, restOff⟩
    rcases pairwise_cons.mp (cut.off (pairwise_singleton _ _)) with ⟨keptOff, freshOff⟩
    have keptBounds := inSeg kept mem_cons_self
    refine pairwise_cons.mpr ⟨fun o member => ?_, scanned.off ?_⟩
    · rcases scanned.within o member with ⟨s, isSeg, inside⟩
      rcases mem_append.mp isSeg with isRest | isFresh
      · exact (segOff s isRest).within keptBounds.1 keptBounds.2 inside.1 inside.2
      · exact (keptOff s isFresh).within (le_refl _) (le_refl _) inside.1 inside.2
    · refine pairwise_append.mpr ⟨restOff, freshOff, fun s isRest f isFresh => ?_⟩
      have bounds := inSeg f (mem_cons_of_mem _ isFresh)
      exact (segOff s isRest).symm.within (le_refl _) (le_refl _) bounds.1 bounds.2

lemma scanSegments_spec {reg il ir : Int} {P Q : DetailedSeg → Prop}
    (step : ∀ seg n, P seg → ∃ kept fresh, cutSegment reg il ir seg n = .ok (kept, fresh) ∧
      Q kept ∧ (∀ f ∈ fresh, P f) ∧ Refines il ir [seg] (kept :: fresh))
    (segs : List DetailedSeg) (n : Nat) (all : ∀ seg ∈ segs, P seg) :
    ∃ out n', scanSegments reg il ir segs n = .ok (out, n') ∧ (∀ o ∈ out, Q o) ∧
      Refines il ir segs out := by
  generalize size : scanMeasure il ir segs = m
  induction m using Nat.strong_induction_on generalizing segs n with
  | _ m ih =>
    cases segs with
    | nil =>
      exact ⟨[], n, by rw [scanSegments], nofun, nofun, fun _ _ _ _ inside => inside,
        fun apart => apart⟩
    | cons seg rest =>
      rcases forall_mem_cons.mp all with ⟨own, others⟩
      rcases step seg n own with ⟨kept, fresh, cut, good, freshAll, refines⟩
      have less := cutSegment_measure cut
      have total : scanMeasure il ir (rest ++ fresh) < m := by
        rw [← size]
        simp only [scanMeasure, map_append, sum_append, map_cons,
          sum_cons] at less ⊢
        omega
      have queue : ∀ s ∈ rest ++ fresh, P s := by
        intro s member
        rcases mem_append.mp member with isRest | isFresh
        · exact others s isRest
        · exact freshAll s isFresh
      rcases ih _ total (rest ++ fresh) (n + fresh.length) queue rfl with
        ⟨out, n', scanned, outGood, outRefines⟩
      refine ⟨kept :: out, n', ?_, forall_mem_cons.mpr ⟨good, outGood⟩,
        Refines.cons refines outRefines⟩
      rw [scanSegments]
      split
      · rename_i failed
        rw [cut] at failed
        cases failed
      · rename_i done
        rw [cut] at done
        cases done
        rw [scanned]

lemma Piece.sub {obstacles : List (Int × Int)} {regions : Nat} {right right' : Int → Int → Prop}
    {seg part : DetailedSeg} (piece : Piece row obstacles regions right seg)
    (begins : part.xmin = seg.xmin ∨ seg.xmin ≤ part.xmin ∧ ∃ i, part.xmin = row.site i)
    (ends : part.xmax = seg.xmax ∨ part.xmax ≤ seg.xmax ∧ ∃ i, part.xmax = row.site i)
    (less : part.xmin < part.xmax)
    (labelled : ∀ i, 0 ≤ i → part.xmin ≤ row.site i → row.site (i + 1) ≤ part.xmax →
      right' part.regId i)
    (valid : part.regId = -1 ∨ ∃ g < regions, part.regId = (g : Int)) :
    Piece row obstacles regions right' part := by
  have behind : seg.xmin ≤ part.xmin := by
    rcases begins with same | ⟨behind, _⟩
    · exact same.symm.le
    · exact behind
  have before : part.xmax ≤ seg.xmax := by
    rcases ends with same | ⟨before, _⟩
    · exact same.le
    · exact before
  refine ⟨piece.left_le.trans behind, less, before.trans piece.le_right,
    piece.clear.mono behind before, ?_, ?_, labelled, valid⟩
  · rcases begins with same | ⟨_, onSite⟩
    · rw [same]
      exact piece.begins
    · exact .inl onSite
  · rcases ends with same | ⟨_, onSite⟩
    · rw [same]
      exact piece.ends
    · exact .inl onSite

lemma Refines.of_parts {il ir : Int} {seg : DetailedSeg} {parts : List DetailedSeg}
    (within : ∀ o ∈ parts, seg.xmin ≤ o.xmin ∧ o.xmax ≤ seg.xmax) (off : parts.Pairwise Off)
    (covers : ∀ x y, x < y → Uncrossed il ir x y → seg.xmin ≤ x → y ≤ seg.xmax →
      ∃ o ∈ parts, o.xmin ≤ x ∧ y ≤ o.xmax) : Refines il ir [seg] parts := by
  refine ⟨fun o member => ⟨seg, mem_singleton.mpr rfl, within o member⟩,
    fun x y less uncrossed inside => ?_, fun _ => off⟩
  rcases inside with ⟨s, isSeg, contains⟩
  rw [mem_singleton.mp isSeg] at contains
  exact covers x y less uncrossed contains.1 contains.2

lemma Refines.same {il ir : Int} {seg kept : DetailedSeg} (begins : kept.xmin = seg.xmin)
    (ends : kept.xmax = seg.xmax) : Refines il ir [seg] [kept] := by
  refine ⟨fun o member => ⟨seg, mem_singleton.mpr rfl, ?_⟩, fun x y _ _ inside => ?_,
    fun _ => pairwise_singleton _ _⟩
  · rw [mem_singleton.mp member]
    exact ⟨begins.symm.le, ends.le⟩
  · rcases inside with ⟨s, isSeg, contains⟩
    rw [mem_singleton.mp isSeg] at contains
    exact ⟨kept, mem_singleton.mpr rfl, begins.le.trans contains.1, contains.2.trans ends.symm.le⟩

def Pending (row : Row) (obstacles : List (Int × Int)) (regions : Nat) (a b : Int)
    (label : Int → Int) : DetailedSeg → Prop :=
  Piece row obstacles regions fun g i => (a ≤ i ∧ i < b) ∨ label i = g

def relabel (reg : Nat) (a b : Int) (label : Int → Int) (i : Int) : Int :=
  if a ≤ i ∧ i < b then reg else label i

lemma relabel_inside {reg : Nat} {a b i : Int} {label : Int → Int} (inside : a ≤ i ∧ i < b) :
    relabel reg a b label i = reg := if_pos inside

lemma relabel_outside {reg : Nat} {a b i : Int} {label : Int → Int}
    (outside : ¬ (a ≤ i ∧ i < b)) : relabel reg a b label i = label i := if_neg outside

lemma cutSegment_spec (pos : 0 < row.siteSpacing) {obstacles : List (Int × Int)}
    {regions reg : Nat} (known : reg < regions) {a b : Int} (less : a < b) {label : Int → Int}
    (seg : DetailedSeg) (n : Nat) (pending : Pending row obstacles regions a b label seg) :
    ∃ kept fresh, cutSegment reg (row.site a) (row.site b) seg n = .ok (kept, fresh) ∧
      Piece row obstacles regions (fun g i => relabel reg a b label i = g) kept ∧
      (∀ f ∈ fresh, Pending row obstacles regions a b label f) ∧
      Refines (row.site a) (row.site b) [seg] (kept :: fresh) := by
  have begins : ∀ i j, row.site i ≤ row.site j → i ≤ j := fun i j => (Row.site_le_iff pos).mp
  have sites := (Row.site_lt_iff pos).mpr less
  -- the region of a part beside the interval is known
  have beside : ∀ i, 0 ≤ i → seg.xmin ≤ row.site i → row.site (i + 1) ≤ seg.xmax →
      ¬ (a ≤ i ∧ i < b) → relabel reg a b label i = seg.regId := by
    intro i nonneg from' upTo outside
    rw [relabel_outside outside]
    exact (pending.labelled i nonneg from' upTo).resolve_left outside
  have isRegion : (reg : Int) = -1 ∨ ∃ g < regions, (reg : Int) = (g : Int) :=
    .inr ⟨reg, known, rfl⟩
  rw [cutSegment]
  split
  · rename_i before
    refine ⟨seg, [], rfl, pending.sub (.inl rfl) (.inl rfl) pending.less ?_ pending.valid,
      List.forall_mem_nil _, Refines.same rfl rfl⟩
    intro i nonneg from' upTo
    have outside := begins b i (before.trans from')
    exact beside i nonneg from' upTo (by omega)
  · split
    · rename_i behind
      refine ⟨seg, [], rfl, pending.sub (.inl rfl) (.inl rfl) pending.less ?_ pending.valid,
        List.forall_mem_nil _, Refines.same rfl rfl⟩
      intro i nonneg from' upTo
      have outside := begins (i + 1) a (upTo.trans behind)
      exact beside i nonneg from' upTo (by omega)
    · split
      · rename_i covered
        refine ⟨{ seg with regId := reg }, [], rfl, pending.sub (.inl rfl) (.inl rfl)
          pending.less ?_ isRegion, List.forall_mem_nil _, Refines.same rfl rfl⟩
        intro i _ from' upTo
        have first := begins a i (covered.1.trans from')
        have last := begins (i + 1) b (upTo.trans covered.2)
        exact relabel_inside (by omega)
      · split
        · rename_i cut
          have inside : row.site a < seg.xmax := by omega
          refine ⟨{ seg with xmax := row.site a }, _, rfl, ?_, ?_, ?_⟩
          · refine pending.sub (.inl rfl) (.inr ⟨inside.le, a, rfl⟩) cut.1 ?_ pending.valid
            intro i nonneg from' upTo
            have outside := begins (i + 1) a upTo
            exact beside i nonneg from' (upTo.trans inside.le) (by omega)
          · rw [forall_mem_singleton]
            refine pending.sub (.inr ⟨cut.1.le, a, rfl⟩) (.inl rfl) inside ?_ isRegion
            intro i _ from' upTo
            have first := begins a i from'
            have last := begins (i + 1) b (upTo.trans cut.2)
            exact .inl (by omega)
          · apply Refines.of_parts
            · simp only [forall_mem_cons]
              exact ⟨⟨le_refl _, inside.le⟩, ⟨cut.1.le, le_refl _⟩, List.forall_mem_nil _⟩
            · exact pairwise_pair.mpr (.inl (le_refl _))
            · intro x y _ uncrossed from' upTo
              rcases uncrossed.1 with before | behind
              · exact ⟨_, mem_cons_self, from', before⟩
              · exact ⟨_, mem_cons_of_mem _ mem_cons_self, behind, upTo⟩
        · split
          · rename_i cut
            have inside : seg.xmin < row.site b := by omega
            refine ⟨{ seg with xmin := row.site b }, _, rfl, ?_, ?_, ?_⟩
            · refine pending.sub (.inr ⟨inside.le, b, rfl⟩) (.inl rfl) cut.1 ?_ pending.valid
              intro i nonneg from' upTo
              have outside := begins b i from'
              exact beside i nonneg (inside.le.trans from') upTo (by omega)
            · rw [forall_mem_singleton]
              refine pending.sub (.inl rfl) (.inr ⟨cut.1.le, b, rfl⟩) inside ?_ isRegion
              intro i _ from' upTo
              have first := begins a i (cut.2.trans from')
              have last := begins (i + 1) b upTo
              exact .inl (by omega)
            · apply Refines.of_parts
              · simp only [forall_mem_cons]
                exact ⟨⟨inside.le, le_refl _⟩, ⟨le_refl _, cut.1.le⟩, List.forall_mem_nil _⟩
              · exact pairwise_pair.mpr (.inr (le_refl _))
              · intro x y _ uncrossed from' upTo
                rcases uncrossed.2 with before | behind
                · exact ⟨_, mem_cons_of_mem _ mem_cons_self, from', before⟩
                · exact ⟨_, mem_cons_self, behind, upTo⟩
          · split
            · rename_i cut
              have inside : row.site a < seg.xmax := by omega
              have inside' : seg.xmin < row.site b := by omega
              refine ⟨{ seg with xmax := row.site a }, _, rfl, ?_, ?_, ?_⟩
              · refine pending.sub (.inl rfl) (.inr ⟨inside.le, a, rfl⟩) cut.1 ?_ pending.valid
                intro i nonneg from' upTo
                have outside := begins (i + 1) a upTo
                exact beside i nonneg from' (upTo.trans inside.le) (by omega)
              · simp only [forall_mem_cons]
                refine ⟨?_, ?_, List.forall_mem_nil _⟩
                · refine pending.sub (.inr ⟨cut.1.le, a, rfl⟩) (.inr ⟨cut.2.le, b, rfl⟩) sites
                    ?_ isRegion
                  intro i _ from' upTo
                  have first := begins a i from'
                  have last := begins (i + 1) b upTo
                  exact .inl (by omega)
                · refine pending.sub (.inr ⟨inside'.le, b, rfl⟩) (.inl rfl) cut.2 ?_ pending.valid
                  exact fun i nonneg from' upTo =>
                    pending.labelled i nonneg (inside'.le.trans from') upTo
              · apply Refines.of_parts
                · simp only [forall_mem_cons]
                  exact ⟨⟨le_refl _, inside.le⟩, ⟨cut.1.le, cut.2.le⟩, ⟨inside'.le, le_refl _⟩,
                    List.forall_mem_nil _⟩
                · simp only [pairwise_cons, forall_mem_cons]
                  exact ⟨⟨.inl (le_refl _), .inl sites.le, List.forall_mem_nil _⟩,
                    ⟨.inl (le_refl _), List.forall_mem_nil _⟩, List.forall_mem_nil _, List.Pairwise.nil⟩
                · intro x y less' uncrossed from' upTo
                  rcases uncrossed.1 with before | behind
                  · exact ⟨_, mem_cons_self, from', before⟩
                  · rcases uncrossed.2 with before | beyond
                    · exact ⟨_, mem_cons_of_mem _ mem_cons_self, behind, before⟩
                    · exact ⟨_, mem_cons_of_mem _ (mem_cons_of_mem _ mem_cons_self),
                        beyond, upTo⟩
            · omega

end

end OpenRoad.Dpl
