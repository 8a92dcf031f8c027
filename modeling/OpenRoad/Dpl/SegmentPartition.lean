import OpenRoad.Dpl.SegmentCuts

/-! The segments of each row partition what is free of it. -/

namespace OpenRoad.Dpl

open OpenRoad.Lib List Row

section

variable {arch : Architecture} {row : Row} {obstacles : List (Int × Int)} {regions reg : Nat}
  {label label' : Int → Int} {segs : List DetailedSeg}

lemma Cut.relabelled (cut : Cut row obstacles regions label segs)
    (same : ∀ i, 0 ≤ i → label' i = label i) : Cut row obstacles regions label' segs where
  pieces := fun seg member =>
    { cut.pieces seg member with
      labelled := fun i nonneg from' upTo =>
        (same i nonneg).trans ((cut.pieces seg member).labelled i nonneg from' upTo) }
  disjoint := cut.disjoint
  complete := cut.complete

lemma scanSegments_cut (pos : 0 < row.siteSpacing) (known : reg < regions) {a b : Int}
    (less : a < b) (cut : Cut row obstacles regions label segs) (n : Nat) :
    ∃ out n', scanSegments reg (row.site a) (row.site b) segs n = .ok (out, n') ∧
      Cut row obstacles regions (relabel reg a b label) out := by
  have pending : ∀ seg ∈ segs, Pending row obstacles regions a b label seg := fun seg member =>
    { cut.pieces seg member with
      labelled := fun i nonneg from' upTo =>
        .inr ((cut.pieces seg member).labelled i nonneg from' upTo) }
  rcases scanSegments_spec (cutSegment_spec pos known less) segs n pending with
    ⟨out, n', scanned, pieces, refines⟩
  refine ⟨out, n', scanned, pieces, refines.off cut.disjoint, ?_⟩
  intro i x y nonneg inside from' less' upTo free
  refine refines.covers x y less' ?_ (cut.complete i x y nonneg inside from' less' upTo free)
  have beside : ∀ c, y ≤ row.site c ∨ row.site c ≤ x := by
    intro c
    rcases lt_or_ge i c with before | behind
    · exact .inl (upTo.trans ((site_le_iff pos).mpr before))
    · exact .inr (((site_le_iff pos).mpr behind).trans from')
  exact ⟨beside a, beside b⟩

def OnSites (row : Row) (intervals : List (Int × Int)) : Prop :=
  ∀ interval ∈ intervals, ∃ a b, a < b ∧ interval = (row.site a, row.site b)

def SiteIn (row : Row) (intervals : List (Int × Int)) (i : Int) : Prop :=
  ∃ interval ∈ intervals, Overlaps Prod.fst Prod.snd (row.site i) (row.site (i + 1)) interval

lemma siteIn_cons (pos : 0 < row.siteSpacing) {a b i : Int} {intervals : List (Int × Int)} :
    SiteIn row ((row.site a, row.site b) :: intervals) i ↔
      (a ≤ i ∧ i < b) ∨ SiteIn row intervals i := by
  rw [SiteIn, exists_mem_cons_iff]
  apply or_congr_left
  rw [Overlaps, site_lt_iff pos, site_lt_iff pos, Int.lt_add_one_iff]

lemma cutRow_cut (pos : 0 < row.siteSpacing) (known : reg < regions)
    (intervals : List (Int × Int)) (onSites : OnSites row intervals)
    (cut : Cut row obstacles regions label segs) (n : Nat)
    (inside : ∀ i, 0 ≤ i → SiteIn row intervals i → label' i = reg)
    (outside : ∀ i, 0 ≤ i → ¬ SiteIn row intervals i → label' i = label i) :
    ∃ out n', cutRow reg intervals segs n = .ok (out, n') ∧
      Cut row obstacles regions label' out := by
  induction intervals generalizing label segs n with
  | nil => exact ⟨segs, n, rfl, cut.relabelled fun i nonneg => outside i nonneg nofun⟩
  | cons interval intervals ih =>
    rcases forall_mem_cons.mp onSites with ⟨⟨a, b, less, rfl⟩, later⟩
    rcases scanSegments_cut pos known less cut n with ⟨segs', n', scanned, cut'⟩
    rcases ih later cut' n' (fun i nonneg isIn => inside i nonneg
        ((siteIn_cons pos).mpr (.inr isIn))) (fun i nonneg notIn => by
        by_cases isIn : a ≤ i ∧ i < b
        · rw [relabel_inside isIn]
          exact inside i nonneg ((siteIn_cons pos).mpr (.inl isIn))
        · rw [relabel_outside isIn]
          refine outside i nonneg fun either => ?_
          rcases (siteIn_cons pos).mp either with isIn' | isIn'
          · exact isIn isIn'
          · exact notIn isIn') with ⟨out, n'', done, cut''⟩
    exact ⟨out, n'', by rw [cutRow, scanned]; exact done, cut''⟩

/-- The rectangle is as high as the row is taken to be and reaches into the site. -/
def rectReaches (arch : Architecture) (row : Row) (r : Nat) (i : Int) (rect : Rect) : Bool :=
  let lb := arch.minY + r * arch.singleRowHeight
  rect.yMax ≥ lb + arch.singleRowHeight ∧ rect.yMin ≤ lb ∧ rect.xMin < row.site (i + 1) ∧
    (row.site i < rect.xMax ∨ i = 0 ∧ row.left - row.siteSpacing < rect.xMax ∧ rect.xMax < row.left)

lemma tdiv_nonpos {d s : Int} (downward : d ≤ 0) (pos : 0 < s) : d.tdiv s ≤ 0 := by
  have upward := Int.tdiv_nonneg (Int.neg_nonneg_of_nonpos downward) pos.le
  rw [Int.neg_tdiv] at upward
  omega

lemma tdiv_lt_iff {d s i : Int} (pos : 0 < s) (nonneg : 0 ≤ i) :
    d.tdiv s < i + 1 ↔ d < (i + 1) * s := by
  rcases Int.le_total 0 d with upward | downward
  · rw [Int.tdiv_eq_ediv_of_nonneg upward, Int.ediv_lt_iff_lt_mul pos]
  · have product : 0 ≤ i * s := Int.mul_nonneg nonneg pos.le
    have rounded := tdiv_nonpos downward pos
    rw [Int.add_mul, Int.one_mul]
    omega

def roundUp (d s : Int) : Int := if d.tdiv s * s ≠ d then d.tdiv s + 1 else d.tdiv s

lemma lt_roundUp_iff {d s i : Int} (pos : 0 < s) (nonneg : 0 ≤ i) :
    i < roundUp d s ↔ i * s < d ∨ i = 0 ∧ -s < d ∧ d < 0 := by
  rcases lt_or_ge d 0 with downward | upward
  · have product : 0 ≤ i * s := Int.mul_nonneg nonneg pos.le
    have rounded := tdiv_nonpos downward.le pos
    have isZero : (-d).tdiv s < 0 + 1 ↔ -d < (0 + 1) * s := tdiv_lt_iff pos (le_refl 0)
    rw [Int.neg_tdiv, Int.zero_add, Int.one_mul] at isZero
    rw [roundUp]
    split
    · omega
    · rename_i exact'
      have noRest : d.tdiv s * s = d := not_not.mp exact'
      have notZero : d.tdiv s ≠ 0 := by
        intro zero
        rw [zero, Int.zero_mul] at noRest
        omega
      omega
  · have below : d.tdiv s * s ≤ d := by
      rw [Int.tdiv_eq_ediv_of_nonneg upward]
      exact Int.ediv_mul_le d pos.ne'
    have above : d < (d.tdiv s + 1) * s := Int.lt_tdiv_add_one_mul_self d pos
    rw [or_iff_left (by omega), roundUp]
    split
    · rename_i rest
      rw [Int.lt_add_one_iff, ← Int.mul_le_mul_right pos]
      constructor
      · intro le
        omega
      · intro less
        have before : i < d.tdiv s + 1 := (Int.mul_lt_mul_right pos).mp (less.trans above)
        exact (Int.mul_le_mul_right pos).mpr (Int.lt_add_one_iff.mp before)
    · rename_i exact'
      have noRest : d.tdiv s * s = d := not_not.mp exact'
      rw [← Int.mul_lt_mul_right pos, noRest]

lemma rectInterval_eq (arch : Architecture) (row : Row) (r : Nat) (rect : Rect) :
    rectInterval arch row r rect =
      let lb := arch.minY + r * arch.singleRowHeight
      let i0 := (rect.xMin - row.left).tdiv row.siteSpacing
      let i1 := roundUp (rect.xMax - row.left) row.siteSpacing
      if (rect.yMax ≥ lb + arch.singleRowHeight ∧ rect.yMin ≤ lb) ∧ i1 > i0 then
        some (row.site i0, row.site i1)
      else none := by
  have same : (if row.left + (rect.xMax - row.left).tdiv row.siteSpacing * row.siteSpacing ≠
      rect.xMax then (rect.xMax - row.left).tdiv row.siteSpacing + 1
      else (rect.xMax - row.left).tdiv row.siteSpacing) =
      roundUp (rect.xMax - row.left) row.siteSpacing := by
    rw [roundUp]
    congr 1
    rw [eq_iff_iff]
    constructor
    · intro differ same
      omega
    · intro differ same
      omega
  rw [rectInterval]
  dsimp only
  rw [same]
  simp only [ite_and]
  rfl

lemma rectInterval_onSites {r : Nat} {rect : Rect} {interval : Int × Int}
    (isInterval : rectInterval arch row r rect = some interval) :
    ∃ a b, a < b ∧ interval = (row.site a, row.site b) := by
  rw [rectInterval_eq] at isInterval
  dsimp only at isInterval
  split at isInterval
  · rename_i both
    cases isInterval
    exact ⟨_, _, both.2, rfl⟩
  · cases isInterval

lemma rectInterval_reaches (pos : 0 < row.siteSpacing) {r : Nat} {rect : Rect} {i : Int}
    (nonneg : 0 ≤ i) :
    (∃ interval, rectInterval arch row r rect = some interval ∧
      Overlaps Prod.fst Prod.snd (row.site i) (row.site (i + 1)) interval) ↔
      rectReaches arch row r i rect = true := by
  have begins := tdiv_lt_iff (d := rect.xMin - row.left) pos nonneg
  have ends := lt_roundUp_iff (d := rect.xMax - row.left) pos nonneg
  have rounded : (row.site i < rect.xMax ∨
      i = 0 ∧ row.left - row.siteSpacing < rect.xMax ∧ rect.xMax < row.left) ↔
      i < roundUp (rect.xMax - row.left) row.siteSpacing := by
    rw [ends, site]
    omega
  have started : rect.xMin < row.site (i + 1) ↔
      (rect.xMin - row.left).tdiv row.siteSpacing < i + 1 := by
    rw [begins, site]
    omega
  rw [rectReaches, decide_eq_true_iff, rounded, started, rectInterval_eq]
  dsimp only
  constructor
  · rintro ⟨interval, isInterval, overlaps⟩
    split at isInterval
    · rename_i both
      cases isInterval
      rw [Overlaps, site_lt_iff pos, site_lt_iff pos] at overlaps
      exact ⟨both.1.1, both.1.2, overlaps⟩
    · cases isInterval
  · rintro ⟨top, bottom, from', upTo⟩
    refine ⟨_, if_pos ⟨⟨top, bottom⟩, by omega⟩, ?_⟩
    rw [Overlaps, site_lt_iff pos, site_lt_iff pos]
    exact ⟨from', upTo⟩

lemma extendInterval_fst (a b : Int × Int) : (extendInterval a b).1 = a.1 := rfl

lemma extendInterval_snd (a b : Int × Int) : (extendInterval a b).2 = b.2 := rfl

lemma sortIntervals_perm (intervals : List (Int × Int)) :
    (sortIntervals intervals).Perm intervals := perm_insertionSort _ _

lemma sortIntervals_precedes (intervals : List (Int × Int)) :
    (sortIntervals intervals).Pairwise (Precedes Prod.fst Prod.snd) := by
  have total : Std.Total fun a b : Int × Int => toLex a ≤ toLex b :=
    ⟨fun a b => le_total (toLex a) (toLex b)⟩
  have trans : IsTrans (Int × Int) fun a b => toLex a ≤ toLex b :=
    ⟨fun a b c first second => le_trans first second⟩
  exact (pairwise_insertionSort _ intervals).imp fun before => precedes_iff.mpr before

lemma rowIntervals_spec (arch : Architecture) (pos : 0 < row.siteSpacing) (rects : List Rect) (r : Nat) :
    OnSites row (rowIntervals arch rects row r) ∧
      ∀ i, 0 ≤ i → (SiteIn row (rowIntervals arch rects row r) i ↔
        rects.any (rectReaches arch row r i) = true) := by
  have raw : ∀ interval ∈ sortIntervals (rects.filterMap (rectInterval arch row r)),
      ∃ rect ∈ rects, rectInterval arch row r rect = some interval := fun interval member =>
    mem_filterMap.mp ((sortIntervals_perm _).mem_iff.mp member)
  constructor
  · intro interval member
    have merged := (sortIntervals_perm _).mem_iff.mp member
    refine mergeSorted_all (P := fun interval => ∃ a b, a < b ∧
      interval = (row.site a, row.site b)) ?_ ?_ interval merged
    · rintro _ _ ⟨a, b, less, rfl⟩ ⟨a', b', _, rfl⟩ longer
      exact ⟨a, b', less.trans ((site_lt_iff pos).mp longer), rfl⟩
    · intro interval member
      rcases raw interval member with ⟨_, _, isInterval⟩
      exact rectInterval_onSites isInterval
  · intro i nonneg
    have less : row.site i < row.site (i + 1) := (site_lt_iff pos).mpr (by omega)
    simp only [SiteIn, rowIntervals, (sortIntervals_perm _).mem_iff]
    rw [mergeSorted_overlaps extendInterval_fst extendInterval_snd (sortIntervals_precedes _) less,
      any_eq_true]
    constructor
    · rintro ⟨interval, member, overlaps⟩
      rcases raw interval member with ⟨rect, isRect, isInterval⟩
      exact ⟨rect, isRect, (rectInterval_reaches pos nonneg).mp ⟨interval, isInterval, overlaps⟩⟩
    · rintro ⟨rect, isRect, reaches⟩
      rcases (rectInterval_reaches pos nonneg).mpr reaches with ⟨interval, isInterval, overlaps⟩
      exact ⟨interval, (sortIntervals_perm _).mem_iff.mpr
        (mem_filterMap.mpr ⟨rect, isRect, isInterval⟩), overlaps⟩

/-- The last region, from a given one on, with a rectangle that reaches into the site. -/
def siteRegion (arch : Architecture) (row : Row) (r : Nat) (i : Int) : Nat → List Group → Int → Int
  | _, [], label => label
  | reg, region :: later, label =>
    siteRegion arch row r i (reg + 1) later
      (if region.rects.any (rectReaches arch row r i) then reg else label)

lemma findRegionIntervals_eq (wellFormed : arch.WellFormed) {region : Group}
    (there : arch.regions[reg]? = some region) :
    findRegionIntervals arch region.id =
      .ok (arch.rows.zipIdx.map fun rowr => rowIntervals arch region.rects rowr.1 rowr.2) := by
  have isId := wellFormed.ids reg region there
  have nonneg : ¬ ((reg : Int) < 0) := by omega
  rw [findRegionIntervals, isId, if_neg nonneg, Int.toNat_natCast, there]
  exact if_neg (not_not.mpr isId)

lemma cutRows_spec {A : Type} (reg : Int) (intervalsOf : A → List (Int × Int))
    {P Q : A → List DetailedSeg → Prop} (as : List A)
    (step : ∀ a ∈ as, ∀ segs n, P a segs →
      ∃ out n', cutRow reg (intervalsOf a) segs n = .ok (out, n') ∧ Q a out)
    {segsInRow : List (List DetailedSeg)} (n : Nat) (all : Forall₂ P as segsInRow) :
    ∃ state, cutRows reg (as.map intervalsOf) segsInRow n = .ok state ∧
      Forall₂ Q as state.segsInRow := by
  induction all generalizing n with
  | nil => exact ⟨⟨[], n⟩, rfl, Forall₂.nil⟩
  | cons head _ ih =>
    rcases forall_mem_cons.mp step with ⟨first, others⟩
    rcases first _ n head with ⟨out, n', done, good⟩
    rcases ih others n' with ⟨state, rest, goodRest⟩
    refine ⟨{ state with segsInRow := out :: state.segsInRow }, ?_,
      Forall₂.cons good goodRest⟩
    rw [map_cons, cutRows, done]
    change (do
      let after ← cutRows _ _ _ n'
      Except.ok { after with segsInRow := out :: after.segsInRow }) = _
    rw [rest]
    rfl

def RowCut (obstaclesOf : Row → List (Int × Int)) (regions : Nat) (label : Row × Nat → Int → Int)
    (rowr : Row × Nat) (segs : List DetailedSeg) : Prop :=
  Cut rowr.1 (obstaclesOf rowr.1) regions (label rowr) segs

lemma cutRegions_spec (wellFormed : arch.WellFormed) {obstaclesOf : Row → List (Int × Int)}
    (later : List Group) {reg : Nat} {label : Row × Nat → Int → Int}
    (suffix' : arch.regions.drop reg = later) {state : SegState}
    (cut : Forall₂ (RowCut obstaclesOf arch.regions.length label) arch.rows.zipIdx
      state.segsInRow) :
    ∃ out, cutRegions arch reg later state = .ok out ∧
      Forall₂ (RowCut obstaclesOf arch.regions.length fun rowr i =>
        siteRegion arch rowr.1 rowr.2 i reg later (label rowr i)) arch.rows.zipIdx
        out.segsInRow := by
  induction later generalizing reg label state with
  | nil => exact ⟨state, rfl, cut⟩
  | cons region later ih =>
    have there : arch.regions[reg]? = some region := by
      have first := congrArg head? suffix'
      rw [head?_drop] at first
      exact first
    have known : reg < arch.regions.length := (List.getElem?_eq_some_iff.mp there).1
    have rest : arch.regions.drop (reg + 1) = later := by
      rw [← tail_drop, suffix']
      rfl
    rcases cutRows_spec (reg : Int)
        (fun rowr : Row × Nat => rowIntervals arch region.rects rowr.1 rowr.2)
        (Q := RowCut obstaclesOf arch.regions.length fun rowr i =>
          if region.rects.any (rectReaches arch rowr.1 rowr.2 i) then (reg : Int)
          else label rowr i) arch.rows.zipIdx
        (fun rowr member segs n rowCut => by
          have pos := wellFormed.spacing rowr.1 (fst_mem_of_mem_zipIdx member)
          rcases rowIntervals_spec arch pos region.rects rowr.2 with
            ⟨onSites, isIn⟩
          refine cutRow_cut pos known _ onSites rowCut n ?_ ?_
          · intro i nonneg inside
            exact if_pos ((isIn i nonneg).mp inside)
          · intro i nonneg outside
            exact if_neg fun reaches => outside ((isIn i nonneg).mpr reaches))
        state.numSegments cut with ⟨state', done, cut'⟩
    rcases ih rest cut' with ⟨out, allDone, cutAll⟩
    refine ⟨out, ?_, cutAll⟩
    rw [cutRegions, findRegionIntervals_eq wellFormed there]
    change (do
      let state ← cutRows (reg : Int) _ state.segsInRow state.numSegments
      cutRegions arch (reg + 1) later state) = _
    rw [done]
    exact allDone

lemma firstSegments_spec (arch : Architecture) {P : Row × Nat → List DetailedSeg → Prop}
    (blockagesOf : Row → List Blockage) (rows : List Row) (r n : Nat)
    (first : ∀ rowr ∈ rows.zipIdx r, ∀ n, P rowr
      (spanSegments rowr.2 n (freeSpans arch rowr.1 (blockagesOf rowr.1)))) :
    Forall₂ P (rows.zipIdx r)
      (firstSegments arch r n rows (rows.map blockagesOf)).segsInRow := by
  induction rows generalizing r n with
  | nil => exact Forall₂.nil
  | cons row rows ih =>
    rw [zipIdx_cons] at first ⊢
    rcases forall_mem_cons.mp first with ⟨own, others⟩
    exact Forall₂.cons (own n) (ih (r + 1) _ others)

def CoversRow (rect : Rect) (row : Row) : Prop := rect.yMin ≤ row.bottom ∧ row.getTop ≤ rect.yMax

/-- A rectangle of a region over the row begins or ends inside of the site. -/
def CutByBorder (arch : Architecture) (row : Row) (i : Int) : Prop :=
  ∃ region ∈ arch.regions, ∃ rect ∈ region.rects, CoversRow rect row ∧
    (row.site i < rect.xMin ∧ rect.xMin < row.site (i + 1) ∨
      row.site i < rect.xMax ∧ rect.xMax < row.site (i + 1))

def InRegion (region : Group) (row : Row) (from' upTo : Int) : Prop :=
  ∀ x, from' ≤ x → x < upTo →
    ∃ rect ∈ region.rects, CoversRow rect row ∧ rect.xMin ≤ x ∧ x < rect.xMax

/-- The segments of a row as they should be. -/
structure RowPartition (arch : Architecture) (obstacles : List (Int × Int)) (row : Row)
    (segs : List DetailedSeg) : Prop where
  ordered : ∀ seg ∈ segs, seg.xmin ≤ seg.xmax
  onSites : ∀ seg ∈ segs, (∃ i, seg.xmin = row.site i) ∧ ∃ i, seg.xmax = row.site i
  disjoint : segs.Pairwise Off
  inside : ∀ seg ∈ segs, row.left ≤ seg.xmin ∧ seg.xmax ≤ row.getRight
  clear : ∀ seg ∈ segs, Free obstacles seg.xmin seg.xmax
  complete : ∀ i, 0 ≤ i → i < row.numSites → Free obstacles (row.site i) (row.site (i + 1)) →
    ¬ CutByBorder arch row i → ∃ seg ∈ segs, seg.xmin ≤ row.site i ∧ row.site (i + 1) ≤ seg.xmax
  inRegion : ∀ seg ∈ segs, seg.regId = -1 ∨ ∃ (g : Nat) (region : Group),
    arch.regions[g]? = some region ∧ seg.regId = (g : Int) ∧ InRegion region row seg.xmin seg.xmax

def NoSliver (row : Row) (obstacles : List (Int × Int)) : Prop :=
  ∀ i, 0 ≤ i → i < row.numSites → ∀ o ∈ obstacles, ∀ p ∈ obstacles, row.site i < o.2 →
    o.2 < p.1 → p.1 < row.site (i + 1) → ¬ Free obstacles o.2 p.1

/-- Each free site is inside of the region it goes to. -/
def RegionsFit (arch : Architecture) (row : Row) (obstacles : List (Int × Int))
    (label : Int → Int) : Prop :=
  ∀ i, 0 ≤ i → i < row.numSites → Free obstacles (row.site i) (row.site (i + 1)) →
    ∀ (g : Nat) (region : Group), arch.regions[g]? = some region → label i = (g : Int) →
      InRegion region row (row.site i) (row.site (i + 1))

lemma alignSegment_spec (pos : 0 < row.siteSpacing) {right : Int → Int → Prop}
    {seg : DetailedSeg} (piece : Piece row obstacles regions right seg) :
    ∃ a b, alignSegment row seg = { seg with xmin := row.site a, xmax := row.site b } ∧
      row.site (a - 1) < seg.xmin ∧ seg.xmin ≤ row.site a ∧
      row.site b ≤ seg.xmax ∧ seg.xmax < row.site (b + 1) ∧ 0 ≤ b := by
  have fromLeft : 0 ≤ seg.xmin - row.left := by have := piece.left_le; omega
  have upTo : 0 ≤ seg.xmax - row.left := by have := piece.less; omega
  have rounded : ∀ d, 0 ≤ d → d.tdiv row.siteSpacing * row.siteSpacing ≤ d ∧
      d < (d.tdiv row.siteSpacing + 1) * row.siteSpacing := by
    intro d nonneg
    refine ⟨?_, Int.lt_tdiv_add_one_mul_self d pos⟩
    rw [Int.tdiv_eq_ediv_of_nonneg nonneg]
    exact Int.ediv_mul_le d pos.ne'
  have moved : ∀ x y : Int, (if x ≠ y then x else y) = x := by
    intro x y
    split
    · rfl
    · rename_i same
      exact (not_not.mp same).symm
  rcases rounded _ fromLeft with ⟨below, above⟩
  rcases rounded _ upTo with ⟨below', above'⟩
  refine ⟨if row.left + (seg.xmin - row.left).tdiv row.siteSpacing * row.siteSpacing < seg.xmin
      then (seg.xmin - row.left).tdiv row.siteSpacing + 1
      else (seg.xmin - row.left).tdiv row.siteSpacing,
    (seg.xmax - row.left).tdiv row.siteSpacing, ?_, ?_, ?_, ?_, ?_, Int.tdiv_nonneg upTo pos.le⟩
  · rw [alignSegment]
    simp only [moved]
    rfl
  · split
    · rw [Int.add_sub_cancel, site]
      omega
    · rw [site, Int.sub_mul, Int.one_mul]
      omega
  · split
    · rw [site]
      omega
    · rw [site]
      omega
  · rw [site]
    omega
  · rw [site]
    omega

lemma rowPartition_iff (wellFormed : arch.WellFormed) (there : row ∈ arch.rows)
    (proper : ∀ o ∈ obstacles, o.1 ≤ o.2)
    (cut : Cut row obstacles arch.regions.length label segs) :
    RowPartition arch obstacles row (segs.map (alignSegment row)) ↔
      NoSliver row obstacles ∧ RegionsFit arch row obstacles label := by
  have pos := wellFormed.spacing row there
  have lt_iff : ∀ {i j : Int}, row.site i < row.site j ↔ i < j := site_lt_iff pos
  have le_iff : ∀ {i j : Int}, row.site i ≤ row.site j ↔ i ≤ j := site_le_iff pos
  -- an aligned segment keeps the whole sites
  have keeps : ∀ seg ∈ segs, ∀ i, seg.xmin ≤ row.site i → row.site (i + 1) ≤ seg.xmax →
      (alignSegment row seg).xmin ≤ row.site i ∧
        row.site (i + 1) ≤ (alignSegment row seg).xmax := by
    intro seg member i from' upTo
    rcases alignSegment_spec pos (cut.pieces seg member) with
      ⟨a, b, aligned, above, _, _, below, _⟩
    have first : a - 1 < i := lt_iff.mp (lt_of_lt_of_le above from')
    have last : i + 1 < b + 1 := lt_iff.mp (lt_of_le_of_lt upTo below)
    rw [aligned]
    exact ⟨le_iff.mpr (by omega), le_iff.mpr (by omega)⟩
  constructor
  · intro partition'
    constructor
    · intro i nonneg inside o isObstacle p isObstacle' from' less upTo free
      rcases cut.complete i o.2 p.1 nonneg inside from'.le less upTo.le free with
        ⟨seg, member, begins, ends⟩
      have piece := cut.pieces seg member
      have oProper := proper o isObstacle
      have pProper := proper p isObstacle'
      have notLeft : o.2 ≤ seg.xmin := not_lt.mp fun less' =>
        piece.clear o isObstacle ⟨by omega, less'⟩
      have notRight : seg.xmax ≤ p.1 := not_lt.mp fun less' =>
        piece.clear p isObstacle' ⟨less', by omega⟩
      rcases alignSegment_spec pos piece with ⟨a, b, aligned, _, above, below, _, _⟩
      have ordered := partition'.ordered _ (mem_map_of_mem member)
      rw [aligned] at ordered
      have first : i < a := lt_iff.mp (from'.trans_le (notLeft.trans above))
      have last : b < i + 1 := lt_iff.mp (lt_of_le_of_lt (below.trans notRight) upTo)
      have both : a ≤ b := le_iff.mp ordered
      omega
    · intro i nonneg inside free g region isRegion isLabel
      have less : row.site i < row.site (i + 1) := lt_iff.mpr (by omega)
      rcases cut.complete i _ _ nonneg inside (le_refl _) less (le_refl _) free with
        ⟨seg, member, begins, ends⟩
      have sameLabel := (cut.pieces seg member).labelled i nonneg begins ends
      have regId : (alignSegment row seg).regId = seg.regId := rfl
      rcases partition'.inRegion _ (mem_map_of_mem member) with
        none' | ⟨g', region', isRegion', isId, inside'⟩
      · omega
      · have same : g' = g := by omega
        rw [same, isRegion] at isRegion'
        rcases keeps seg member i begins ends with ⟨begins', ends'⟩
        rw [Option.some.inj isRegion']
        exact fun x from' upTo => inside' x (begins'.trans from') (lt_of_lt_of_le upTo ends')
  · rintro ⟨noSliver, fit⟩
    refine ⟨?_, ?_, ?_, ?_, ?_, ?_, ?_⟩
    · rw [forall_mem_map]
      intro seg member
      have piece := cut.pieces seg member
      rcases alignSegment_spec pos piece with
        ⟨a, b, aligned, after, above, below, before, nonneg⟩
      rw [aligned]
      refine le_iff.mpr (not_lt.mp fun crossed => ?_)
      have between : row.site b ≤ row.site (a - 1) := le_iff.mpr (by omega)
      rcases piece.begins with ⟨j, onSite⟩ | ⟨o, isObstacle, atEnd⟩
      · rw [onSite] at after above
        have low : a - 1 < j := lt_iff.mp after
        have high : j < b + 1 := lt_iff.mp (onSite ▸ piece.less.trans before)
        omega
      · rcases piece.ends with ⟨j, onSite⟩ | ⟨p, isObstacle', atStart⟩
        · have low : a - 1 < j := lt_iff.mp (onSite ▸ after.trans piece.less)
          rw [onSite] at below before
          have high : j < b + 1 := lt_iff.mp before
          omega
        · have inside : b < row.numSites :=
            lt_iff.mp (lt_of_le_of_lt between (after.trans (piece.less.trans_le piece.le_right)))
          refine noSliver b nonneg inside o isObstacle p isObstacle' ?_ ?_ ?_ ?_
          · exact atEnd ▸ lt_of_le_of_lt between after
          · exact atEnd ▸ atStart ▸ piece.less
          · exact atStart ▸ before
          · exact atEnd ▸ atStart ▸ piece.clear
    · rw [forall_mem_map]
      intro seg member
      rcases alignSegment_spec pos (cut.pieces seg member) with ⟨a, b, aligned, _⟩
      rw [aligned]
      exact ⟨⟨a, rfl⟩, b, rfl⟩
    · rw [pairwise_map]
      refine cut.disjoint.imp_of_mem fun {s t} isSeg isSeg' off => ?_
      rcases alignSegment_spec pos (cut.pieces s isSeg) with ⟨a, b, aligned, _, above, below, _⟩
      rcases alignSegment_spec pos (cut.pieces t isSeg') with
        ⟨a', b', aligned', _, above', below', _⟩
      rw [aligned, aligned']
      rcases off with before | behind
      · exact .inl (below.trans (before.trans above'))
      · exact .inr (below'.trans (behind.trans above))
    · rw [forall_mem_map]
      intro seg member
      have piece := cut.pieces seg member
      rcases alignSegment_spec pos piece with ⟨a, b, aligned, _, above, below, _⟩
      rw [aligned]
      exact ⟨piece.left_le.trans above, below.trans piece.le_right⟩
    · rw [forall_mem_map]
      intro seg member
      have piece := cut.pieces seg member
      rcases alignSegment_spec pos piece with ⟨a, b, aligned, _, above, below, _⟩
      rw [aligned]
      exact piece.clear.mono above below
    · intro i nonneg inside free _
      have less : row.site i < row.site (i + 1) := lt_iff.mpr (by omega)
      rcases cut.complete i _ _ nonneg inside (le_refl _) less (le_refl _) free with
        ⟨seg, member, begins, ends⟩
      exact ⟨_, mem_map_of_mem member, keeps seg member i begins ends⟩
    · rw [forall_mem_map]
      intro seg member
      have piece := cut.pieces seg member
      rcases piece.valid with none' | ⟨g, known, isId⟩
      · exact .inl none'
      · refine .inr ⟨g, arch.regions[g], getElem?_eq_getElem known, isId, ?_⟩
        rcases alignSegment_spec pos piece with ⟨a, b, aligned, _, above, below, _⟩
        rw [aligned]
        intro x from' upTo
        -- the site of `x`
        have quotient : (x - row.left) / row.siteSpacing * row.siteSpacing ≤ x - row.left :=
          Int.ediv_mul_le _ pos.ne'
        have next : x - row.left < ((x - row.left) / row.siteSpacing + 1) * row.siteSpacing :=
          Int.lt_ediv_add_one_mul_self _ pos
        generalize (x - row.left) / row.siteSpacing = i at quotient next
        have siteBelow : row.site i ≤ x := by rw [site]; omega
        have siteAbove : x < row.site (i + 1) := by rw [site]; omega
        have first : a < i + 1 := lt_iff.mp (lt_of_le_of_lt from' siteAbove)
        have last : i < b := lt_iff.mp (lt_of_le_of_lt siteBelow upTo)
        have begins : seg.xmin ≤ row.site i := above.trans (le_iff.mpr (by omega))
        have ends : row.site (i + 1) ≤ seg.xmax := (le_iff.mpr (by omega)).trans below
        have nonneg : 0 ≤ i := by
          rw [← le_iff, site_zero]
          exact piece.left_le.trans begins
        have inside : i + 1 ≤ row.numSites := le_iff.mp (ends.trans piece.le_right)
        exact fit i nonneg (by omega) (piece.clear.mono begins ends) g _
          (getElem?_eq_getElem known) ((piece.labelled i nonneg begins ends).trans isId) x
          siteBelow siteAbove

lemma obstacles_proper {fixedCells : List Node} {blockages : List Rect}
    (widths : ∀ nd ∈ fixedCells, 0 ≤ nd.width)
    (rects : ∀ blockage ∈ blockages, blockage.xMin ≤ blockage.xMax) :
    ∀ o ∈ Dpl.obstacles arch fixedCells blockages row, o.1 ≤ o.2 := by
  intro o member
  rcases mem_append.mp member with isCell | isBlockage
  · rcases mem_map.mp isCell with ⟨nd, inside, rfl⟩
    have width := widths nd (mem_filter.mp inside).1
    have padLeft := getCellSpacing_nonneg arch none (some nd)
    have padRight := getCellSpacing_nonneg arch (some nd) none
    have right : nd.getRight = nd.left + nd.width := rfl
    show nd.left - _ ≤ nd.getRight + _
    omega
  · rcases mem_map.mp isBlockage with ⟨blockage, inside, rfl⟩
    exact rects blockage (mem_filter.mp inside).1

lemma forall₂_zipWith_iff {A B C : Type} {cuts : A → B → Prop} {good : A → C → Prop}
    {fits : A → Prop} (F : A → B → C) {as : List A} {bs : List B}
    (iff : ∀ a ∈ as, ∀ b, cuts a b → (good a (F a b) ↔ fits a)) (all : Forall₂ cuts as bs) :
    Forall₂ good as (zipWith F as bs) ↔ ∀ a ∈ as, fits a := by
  induction all with
  | nil => exact iff_of_true Forall₂.nil nofun
  | cons head _ ih =>
    rcases forall_mem_cons.mp iff with ⟨own, others⟩
    rw [zipWith_cons_cons, forall₂_cons, forall_mem_cons, own _ head, ih others]

/-- The segments are as they should be exactly if no gap is too narrow and each site fits its
region. -/
theorem segments_partition_iff (arch : Architecture) (wellFormed : arch.WellFormed)
    (fixedCells : List Node) (widths : ∀ nd ∈ fixedCells, 0 ≤ nd.width) (blockages : List Rect)
    (rects : ∀ blockage ∈ blockages, blockage.xMin ≤ blockage.xMax)
    (sort : List Blockage → List Blockage) (sorts : SortsBlockages sort) :
    ∃ state, findSegments arch (findBlockages arch sort fixedCells blockages) = .ok state ∧
      (List.Forall₂ (fun row segs =>
          RowPartition arch (Dpl.obstacles arch fixedCells blockages row) row segs)
          arch.rows state.segsInRow ↔
        ∀ rowr ∈ arch.rows.zipIdx,
          NoSliver rowr.1 (Dpl.obstacles arch fixedCells blockages rowr.1) ∧
            RegionsFit arch rowr.1 (Dpl.obstacles arch fixedCells blockages rowr.1) fun i =>
              siteRegion arch rowr.1 rowr.2 i 0 arch.regions (-1)) := by
  have proper : ∀ row, ∀ o ∈ Dpl.obstacles arch fixedCells blockages row, o.1 ≤ o.2 :=
    fun row => obstacles_proper widths rects
  have first := firstSegments_spec arch
    (P := RowCut (Dpl.obstacles arch fixedCells blockages) arch.regions.length fun _ _ => -1)
    (rowBlockages arch sort fixedCells blockages) arch.rows 0 0 fun rowr member n =>
      spanSegments_cut sorts wellFormed (fst_mem_of_mem_zipIdx member) (proper rowr.1) _ _ n
  rcases cutRegions_spec wellFormed arch.regions drop_zero first with ⟨state, done, cut⟩
  have rows : arch.rows.zipIdx.map Prod.fst = arch.rows := zipIdx_map_fst 0 arch.rows
  have aligned : List.zipWith (fun row => List.map (alignSegment row)) arch.rows state.segsInRow =
      List.zipWith (fun rowr : Row × Nat => List.map (alignSegment rowr.1)) arch.rows.zipIdx
        state.segsInRow := by
    nth_rewrite 1 [← rows]
    exact zipWith_map_left
  have iff := forall₂_zipWith_iff (fun rowr : Row × Nat => List.map (alignSegment rowr.1))
    (fun rowr member segs rowCut => rowPartition_iff wellFormed
      (fst_mem_of_mem_zipIdx member) (proper rowr.1) rowCut) cut
  refine ⟨⟨List.zipWith (fun row => List.map (alignSegment row)) arch.rows state.segsInRow,
    state.numSegments⟩, ?_, ?_⟩
  · rw [findSegments, findBlockages, done]
    rfl
  · rw [← iff, ← aligned]
    nth_rewrite 1 [← rows]
    exact forall₂_map_left_iff

end

lemma compareBlockages_iff (a b : Blockage) : ¬ compareBlockages b a = true ↔
      toLex (a.getPaddedXMin, a.getPaddedXMax) ≤ toLex (b.getPaddedXMin, b.getPaddedXMax) := by
  rw [← precedes_iff]
  refine ⟨precedes_of_sorted, fun precedes before => ?_⟩
  rw [compareBlockages] at before
  rw [Precedes] at precedes
  split at before
  · have ends := of_decide_eq_true before
    omega
  · have begins := of_decide_eq_true before
    omega

def sortedBlockages (blockages : List Blockage) : List Blockage :=
  blockages.insertionSort fun a b => ¬ compareBlockages b a

lemma sortedBlockages_sorts : SortsBlockages sortedBlockages where
  perm := fun blockages => perm_insertionSort _ blockages
  sorted := fun blockages => by
    have total : Std.Total fun a b : Blockage => ¬ compareBlockages b a = true :=
      ⟨fun a b => by
        rw [compareBlockages_iff, compareBlockages_iff]
        exact le_total _ _⟩
    have trans : IsTrans Blockage fun a b => ¬ compareBlockages b a = true :=
      ⟨fun a b c first second => by
        rw [compareBlockages_iff] at first second ⊢
        exact le_trans first second⟩
    exact pairwise_insertionSort _ blockages

def oneRow : Architecture where
  rows := [⟨0, 0, 10, 10, 10⟩]
  regions := []
  minX := 0
  maxX := 100
  minY := 0
  maxY := 10
  usePadding := true
  site_width := 10

lemma oneRow_wellFormed : oneRow.WellFormed where
  spacing := by decide
  sites := by decide
  heights := by decide
  box := by decide
  ids := nofun

def fixedCell : Node where
  left := 20
  bottom := 0
  width := 20
  height := 10
  padLeft := 1
  fixed := true

theorem segments_partition_iff_sample :
    ∃ state, findSegments oneRow (findBlockages oneRow sortedBlockages [fixedCell]
        [⟨55, 0, 58, 10⟩]) = .ok state ∧
      (List.Forall₂ (fun row segs => RowPartition oneRow
          (obstacles oneRow [fixedCell] [⟨55, 0, 58, 10⟩] row) row segs)
          oneRow.rows state.segsInRow ↔
        ∀ rowr ∈ oneRow.rows.zipIdx,
          NoSliver rowr.1 (obstacles oneRow [fixedCell] [⟨55, 0, 58, 10⟩] rowr.1) ∧
            RegionsFit oneRow rowr.1 (obstacles oneRow [fixedCell] [⟨55, 0, 58, 10⟩] rowr.1)
              fun i => siteRegion oneRow rowr.1 rowr.2 i 0 oneRow.regions (-1)) :=
  segments_partition_iff oneRow oneRow_wellFormed [fixedCell] (by decide) [⟨55, 0, 58, 10⟩]
    (by decide) sortedBlockages sortedBlockages_sorts

/-- Two blockages leave a gap inside of a site; the segment for it ends before it begins. -/
theorem narrow_gap_turns_round : oneRow.WellFormed ∧ SortsBlockages sortedBlockages ∧
    ∃ state, findSegments oneRow
        (findBlockages oneRow sortedBlockages [] [⟨0, 0, 12, 10⟩, ⟨18, 0, 100, 10⟩]) = .ok state ∧
      ¬ List.Forall₂ (fun row segs => RowPartition oneRow
          (obstacles oneRow [] [⟨0, 0, 12, 10⟩, ⟨18, 0, 100, 10⟩] row) row segs)
          oneRow.rows state.segsInRow := by
  refine ⟨oneRow_wellFormed, sortedBlockages_sorts, ⟨[[⟨0, 0, -1, 20, 10⟩]], 1⟩, by decide,
    fun partition' => ?_⟩
  rcases partition' with _ | ⟨row, _⟩
  exact absurd (row.ordered _ mem_cons_self) (by decide)

end OpenRoad.Dpl
