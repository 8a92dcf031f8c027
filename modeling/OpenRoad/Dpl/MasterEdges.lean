import Mathlib.Data.List.Sort
import OpenRoad.Dpl.Objects

/-! The typed edges of a master and the default edges between them. -/

namespace OpenRoad.Dpl

open List

namespace Rect

def intersects (rect r : Rect) : Bool :=
  r.xMax ≥ rect.xMin ∧ r.xMin ≤ rect.xMax ∧ r.yMax ≥ rect.yMin ∧ r.yMin ≤ rect.yMax

def union (rect r : Rect) : Rect :=
  ⟨min rect.xMin r.xMin, min rect.yMin r.yMin, max rect.xMax r.xMax, max rect.yMax r.yMax⟩

def lo (is_horizontal : Bool) (rect : Rect) : Int := if is_horizontal then rect.xMin else rect.yMin

def hi (is_horizontal : Bool) (rect : Rect) : Int := if is_horizontal then rect.xMax else rect.yMax

end Rect

namespace MasterEdges

inductive EdgeDir
  | TOP
  | RIGHT
  | LEFT
  | BOTTOM
deriving DecidableEq

def EdgeDir.all : List EdgeDir := [.TOP, .RIGHT, .LEFT, .BOTTOM]

def EdgeDir.horizontal (dir : EdgeDir) : Bool := dir = .TOP ∨ dir = .BOTTOM

def getBoundarySegment (bbox : Rect) : EdgeDir → Rect
  | .RIGHT => { bbox with xMin := bbox.xMax }
  | .LEFT => { bbox with xMax := bbox.xMin }
  | .TOP => { bbox with yMin := bbox.yMax }
  | .BOTTOM => { bbox with yMax := bbox.yMin }

def mergeSegs : Rect → List Rect → List Rect
  | prev_seg, [] => [prev_seg]
  | prev_seg, curr_seg :: rest =>
    if curr_seg.intersects prev_seg then mergeSegs (prev_seg.union curr_seg) rest
    else prev_seg :: mergeSegs curr_seg rest

def segmentOn (is_horizontal : Bool) (parent_segment : Rect) (lo hi : Int) : Rect :=
  if is_horizontal then ⟨lo, parent_segment.yMin, hi, parent_segment.yMax⟩
  else ⟨parent_segment.xMin, lo, parent_segment.xMax, hi⟩

/-- What the merged segments leave from `current_pos` on. -/
def gaps (is_horizontal : Bool) (parent_segment : Rect) : Int → List Rect → List Rect
  | current_pos, [] =>
    if current_pos < parent_segment.hi is_horizontal then
      [segmentOn is_horizontal parent_segment current_pos (parent_segment.hi is_horizontal)]
    else []
  | current_pos, seg :: rest =>
    (if seg.lo is_horizontal > current_pos then
      [segmentOn is_horizontal parent_segment current_pos (seg.lo is_horizontal)] else []) ++
      gaps is_horizontal parent_segment (seg.hi is_horizontal) rest

def sortSegs (is_horizontal : Bool) (segs : List Rect) : List Rect :=
  segs.insertionSort fun a b => a.lo is_horizontal ≤ b.lo is_horizontal

def difference (parent_segment : Rect) (segs : List Rect) : List Rect :=
  let is_horizontal : Bool := parent_segment.yMin = parent_segment.yMax
  match sortSegs is_horizontal segs with
  | [] => [parent_segment]
  | first :: rest =>
    gaps is_horizontal parent_segment (parent_segment.lo is_horizontal) (mergeSegs first rest)

inductive SigType
  | POWER
  | GROUND
  | SIGNAL
deriving DecidableEq

inductive PowerType
  | Power_UNK
  | Power_VDD
  | Power_VSS
deriving DecidableEq

structure DbMasterEdgeType where
  edge_dir : EdgeDir
  edge_type : String
  cell_row : Int
  half_row : Int
  range_begin : Int
  range_end : Int
deriving DecidableEq

/-- `mterms` has the types and pin centres; `multiHeight` and `gridHeight` are what the grid says.
-/
structure DbMaster where
  placementBoundary : Rect
  mterms : List (SigType × List Int)
  spacer : Bool
  multiHeight : Bool
  gridHeight : Int
  edge_types : List DbMasterEdgeType

structure PlacementDRC where
  edge_spacing_table : List (List Int)
  edge_types_indices : List (String × Nat)

def PlacementDRC.hasCellEdgeSpacingTable (drc_engine : PlacementDRC) : Bool :=
  drc_engine.edge_spacing_table ≠ []

/-- `none` is the index -1. -/
def PlacementDRC.getEdgeTypeIdx (drc_engine : PlacementDRC) (edge_type : String) : Option Nat :=
  drc_engine.edge_types_indices.lookup edge_type

structure MasterEdge where
  edge_type_idx : Nat
  bbox : Rect
deriving DecidableEq

structure Master where
  bbox : Rect
  multiRow : Bool
  topPowerType : PowerType
  bottomPowerType : PowerType
  edges : List MasterEdge
deriving DecidableEq

def pinCentres (db_master : DbMaster) (type : SigType) : List Int :=
  (db_master.mterms.filter (·.1 = type)).flatMap Prod.snd

def getMasterPwrs (db_master : DbMaster) : PowerType × PowerType :=
  let maxPwr := (pinCentres db_master .POWER).foldl max (-2147483648)
  let minPwr := (pinCentres db_master .POWER).foldl min 2147483647
  let maxGnd := (pinCentres db_master .GROUND).foldl max (-2147483648)
  let minGnd := (pinCentres db_master .GROUND).foldl min 2147483647
  let isVdd := db_master.mterms.any (·.1 = .POWER)
  let isGnd := db_master.mterms.any (·.1 = .GROUND)
  if isVdd ∧ isGnd then
    (if maxPwr > maxGnd then .Power_VDD else .Power_VSS,
      if minPwr < minGnd then .Power_VDD else .Power_VSS)
  else (.Power_UNK, .Power_UNK)

/-- The rectangle of a typed edge; the upper end is set after the lower one. -/
def edgeRect (bbox : Rect) (num_rows : Int) (edge : DbMasterEdgeType) : Rect :=
  let edge_rect := getBoundarySegment bbox edge.edge_dir
  if edge.edge_dir.horizontal then
    if edge.range_begin ≠ -1 then
      let moved := { edge_rect with xMin := edge_rect.xMin + edge.range_begin }
      { moved with xMax := moved.xMin + edge.range_end }
    else edge_rect
  else
    let row_height := (edge_rect.yMax - edge_rect.yMin).tdiv num_rows
    let half_row_height := row_height.tdiv 2
    if edge.cell_row ≠ -1 then
      let moved := { edge_rect with yMin := edge_rect.yMin + (edge.cell_row - 1) * row_height }
      { moved with yMax := min moved.yMax (moved.yMin + row_height) }
    else if edge.half_row ≠ -1 then
      let moved := { edge_rect with yMin := edge_rect.yMin + (edge.half_row - 1) * half_row_height }
      { moved with yMax := min moved.yMax (moved.yMin + half_row_height) }
    else edge_rect

section

variable (drc_engine : PlacementDRC) (bbox : Rect) (num_rows : Int) (edges : List DbMasterEdgeType)

def typedSegs (dir : EdgeDir) : List Rect :=
  (edges.filter (·.edge_dir = dir)).map (edgeRect bbox num_rows)

def typedEdges : List MasterEdge :=
  edges.filterMap fun edge =>
    (drc_engine.getEdgeTypeIdx edge.edge_type).map (⟨·, edgeRect bbox num_rows edge⟩)

def defaultEdges (dir : EdgeDir) : List MasterEdge :=
  match drc_engine.getEdgeTypeIdx "DEFAULT" with
  | none => []
  | some default_edge_type_idx =>
    (difference (getBoundarySegment bbox dir) (typedSegs bbox num_rows edges dir)).map
      (⟨default_edge_type_idx, ·⟩)

end

/-- A master that the network has not met yet. -/
def addMaster (drc_engine : PlacementDRC) (db_master : DbMaster) : Master :=
  let bbox := db_master.placementBoundary
  let master_pwrs := getMasterPwrs db_master
  { bbox := bbox
    multiRow := db_master.multiHeight
    topPowerType := master_pwrs.1
    bottomPowerType := master_pwrs.2
    edges :=
      if ¬ drc_engine.hasCellEdgeSpacingTable then []
      else if db_master.spacer then []
      else typedEdges drc_engine bbox db_master.gridHeight db_master.edge_types ++
        EdgeDir.all.flatMap (defaultEdges drc_engine bbox db_master.gridHeight db_master.edge_types) }

section Difference

variable {h : Bool} {parent : Rect}

@[simp] lemma lo_segmentOn (lo hi : Int) : (segmentOn h parent lo hi).lo h = lo := by
  cases h <;> rfl

@[simp] lemma hi_segmentOn (lo hi : Int) : (segmentOn h parent lo hi).hi h = hi := by
  cases h <;> rfl

structure Along (h : Bool) (parent seg : Rect) : Prop where
  line : seg = segmentOn h parent (seg.lo h) (seg.hi h)
  begins : parent.lo h ≤ seg.lo h
  within : seg.lo h ≤ parent.hi h
  ordered : seg.lo h ≤ seg.hi h

def Flat (h : Bool) (parent : Rect) : Prop := parent.lo (!h) ≤ parent.hi (!h)

lemma intersects_along (flat : Flat h parent) {a b : Rect} (alongA : Along h parent a)
    (alongB : Along h parent b) :
    a.intersects b = decide (b.hi h ≥ a.lo h ∧ b.lo h ≤ a.hi h) := by
  rw [alongA.line, alongB.line, lo_segmentOn, hi_segmentOn, lo_segmentOn, hi_segmentOn,
    Rect.intersects]
  simp only [decide_eq_decide]
  rw [Flat] at flat
  cases h
  · simp only [segmentOn, Rect.lo, Rect.hi, Bool.not_false, if_true, Bool.false_eq_true,
      if_false] at *
    omega
  · simp only [segmentOn, Rect.lo, Rect.hi, Bool.not_true, Bool.false_eq_true, if_false,
      if_true] at *
    omega

lemma union_along {a b : Rect} (alongA : Along h parent a) (alongB : Along h parent b) :
    a.union b = segmentOn h parent (min (a.lo h) (b.lo h)) (max (a.hi h) (b.hi h)) := by
  rw [alongA.line, alongB.line, lo_segmentOn, hi_segmentOn, lo_segmentOn, hi_segmentOn]
  cases h
  · simp [Rect.union, segmentOn]
  · simp [Rect.union, segmentOn]

lemma along_union {a b : Rect} (alongA : Along h parent a) (alongB : Along h parent b) :
    Along h parent (a.union b) := by
  rw [union_along alongA alongB]
  refine ⟨?_, ?_, ?_, ?_⟩
  · rw [lo_segmentOn, hi_segmentOn]
  · rw [lo_segmentOn]
    exact le_min alongA.begins alongB.begins
  · rw [lo_segmentOn]
    exact (min_le_left _ _).trans alongA.within
  · rw [lo_segmentOn, hi_segmentOn]
    exact (min_le_left _ _).trans (alongA.ordered.trans (le_max_left _ _))

/-- The unit of the side that begins at `x` belongs to one of the segments. -/
def Covered (h : Bool) (segs : List Rect) (x : Int) : Prop :=
  ∃ seg ∈ segs, seg.lo h ≤ x ∧ x < seg.hi h

lemma covered_nil (x : Int) : ¬ Covered h [] x := fun covered => by
  rcases covered with ⟨_, member, _⟩
  cases member

lemma covered_cons (seg : Rect) (segs : List Rect) (x : Int) :
    Covered h (seg :: segs) x ↔ (seg.lo h ≤ x ∧ x < seg.hi h) ∨ Covered h segs x :=
  exists_mem_cons_iff _ _ _

lemma covered_append (front back : List Rect) (x : Int) :
    Covered h (front ++ back) x ↔ Covered h front x ∨ Covered h back x := by
  simp only [Covered, mem_append, or_and_right, exists_or]

lemma mergeSegs_spec (flat : Flat h parent) {prev : Rect} {segs : List Rect}
    (along : ∀ seg ∈ prev :: segs, Along h parent seg)
    (sorted : (prev :: segs).Pairwise fun a b => a.lo h ≤ b.lo h) :
    (∀ seg ∈ mergeSegs prev segs, Along h parent seg ∧ prev.lo h ≤ seg.lo h) ∧
      (mergeSegs prev segs).Pairwise (fun a b => a.hi h < b.lo h) ∧
      ∀ x, Covered h (mergeSegs prev segs) x ↔ Covered h (prev :: segs) x := by
  induction segs generalizing prev with
  | nil =>
    refine ⟨?_, pairwise_singleton _ _, fun _ => Iff.rfl⟩
    intro seg member
    rw [mem_singleton.mp member]
    exact ⟨along prev mem_cons_self, le_refl _⟩
  | cons curr rest ih =>
    have alongPrev := along prev mem_cons_self
    have alongCurr := along curr (mem_cons_of_mem _ mem_cons_self)
    rcases pairwise_cons.mp sorted with ⟨first, sortedRest⟩
    have before := first curr mem_cons_self
    rw [mergeSegs, intersects_along flat alongCurr alongPrev]
    split
    · rename_i touching
      have touches := of_decide_eq_true touching
      have merged : prev.union curr = _ := union_along alongPrev alongCurr
      have sameLo : (prev.union curr).lo h = prev.lo h := by
        rw [merged, lo_segmentOn, min_eq_left before]
      have sameHi : (prev.union curr).hi h = max (prev.hi h) (curr.hi h) := by
        rw [merged, hi_segmentOn]
      have next := @ih (prev.union curr) (by
        intro seg member
        rcases mem_cons.mp member with rfl | later
        · exact along_union alongPrev alongCurr
        · exact along seg (mem_cons_of_mem _ (mem_cons_of_mem _ later))) (by
        refine pairwise_cons.mpr ⟨?_, (pairwise_cons.mp sortedRest).2⟩
        intro seg later
        rw [sameLo]
        exact first seg (mem_cons_of_mem _ later))
      refine ⟨?_, next.2.1, ?_⟩
      · intro seg member
        rw [← sameLo]
        exact next.1 seg member
      · intro x
        rw [next.2.2 x, covered_cons, covered_cons, covered_cons, sameLo, sameHi, ← or_assoc]
        apply or_congr_left
        have ordered := alongCurr.ordered
        omega
    · rename_i apart
      have behind : prev.hi h < curr.lo h := by
        by_contra reaches
        apply apart
        rw [decide_eq_true_eq]
        have ordered := alongCurr.ordered
        omega
      have next := ih (fun seg member => along seg (mem_cons_of_mem _ member)) sortedRest
      refine ⟨?_, pairwise_cons.mpr ⟨?_, next.2.1⟩, ?_⟩
      · intro seg member
        rcases mem_cons.mp member with rfl | later
        · exact ⟨alongPrev, le_refl _⟩
        · exact ⟨(next.1 seg later).1, before.trans (next.1 seg later).2⟩
      · intro seg later
        exact lt_of_lt_of_le behind (next.1 seg later).2
      · intro x
        rw [covered_cons, next.2.2 x, ← covered_cons]

lemma gaps_spec {segs : List Rect} (apart : segs.Pairwise fun a b => a.hi h < b.lo h)
    {pos : Int} (along : ∀ seg ∈ segs, Along h parent seg) (later : ∀ seg ∈ segs, pos ≤ seg.lo h) :
    (∀ gap ∈ gaps h parent pos segs, ∃ lo hi, gap = segmentOn h parent lo hi ∧ pos ≤ lo ∧ lo < hi ∧
        hi ≤ parent.hi h) ∧
      ∀ x, pos ≤ x → x < parent.hi h →
        (Covered h (gaps h parent pos segs) x ↔ ¬ Covered h segs x) := by
  induction segs generalizing pos with
  | nil =>
    rw [gaps]
    constructor
    · intro gap member
      split at member
      · rename_i less
        rw [mem_singleton.mp member]
        exact ⟨pos, _, rfl, le_refl _, less, le_refl _⟩
      · cases member
    · intro x start stop
      rw [if_pos (lt_of_le_of_lt start stop)]
      refine iff_of_true ?_ (covered_nil x)
      rw [covered_cons, lo_segmentOn, hi_segmentOn]
      exact .inl ⟨start, stop⟩
  | cons seg rest ih =>
    rcases pairwise_cons.mp apart with ⟨first, apartRest⟩
    have alongSeg := along seg mem_cons_self
    have start := later seg mem_cons_self
    have next := ih apartRest (fun other member => along other (mem_cons_of_mem _ member))
      fun other member => (first other member).le
    rw [gaps]
    constructor
    · intro gap member
      rcases mem_append.mp member with here | there
      · split at here
        · rename_i less
          rw [mem_singleton.mp here]
          exact ⟨pos, _, rfl, le_refl _, less, alongSeg.within⟩
        · cases here
      · rcases next.1 gap there with ⟨lo, hi, isGap, begins, less, ends⟩
        exact ⟨lo, hi, isGap, start.trans (alongSeg.ordered.trans begins), less, ends⟩
    · intro x begins ends
      have inFirst : Covered h (if seg.lo h > pos then [segmentOn h parent pos (seg.lo h)] else [])
          x ↔ x < seg.lo h := by
        split
        · rw [covered_cons, lo_segmentOn, hi_segmentOn]
          constructor
          · intro covered
            rcases covered with inside | none
            · exact inside.2
            · exact absurd none (covered_nil x)
          · intro less
            exact .inl ⟨begins, less⟩
        · rename_i none
          exact iff_of_false (covered_nil x) (by omega)
      rw [covered_append, inFirst, covered_cons]
      rcases lt_or_ge x (seg.hi h) with early | late
      · have noRest : ¬ Covered h rest x := by
          intro covered
          rcases covered with ⟨other, member, inside⟩
          have behind := first other member
          omega
        have noGap : ¬ Covered h (gaps h parent (seg.hi h) rest) x := by
          intro covered
          rcases covered with ⟨gap, member, inside⟩
          rcases next.1 gap member with ⟨lo, hi, rfl, behind, _, _⟩
          rw [lo_segmentOn] at inside
          omega
        simp only [noRest, noGap, or_false, not_and, not_lt]
        omega
      · rw [next.2 x late ends]
        have ordered := alongSeg.ordered
        simp only [not_or, not_and, not_lt]
        constructor
        · intro either
          rcases either with less | clear
          · omega
          · exact ⟨fun _ => late, clear⟩
        · intro both
          exact .inr both.2

end Difference

/-- Whether the code takes the segment for a horizontal one. -/
def level (parent : Rect) : Bool := parent.yMin = parent.yMax

lemma parent_line (h : Bool) (parent : Rect) :
    parent = segmentOn h parent (parent.lo h) (parent.hi h) := by
  cases h <;> rfl

lemma difference_spec {parent : Rect} {segs : List Rect} (flat : Flat (level parent) parent)
    (ordered : parent.lo (level parent) ≤ parent.hi (level parent))
    (along : ∀ seg ∈ segs, Along (level parent) parent seg) :
    (∀ gap ∈ difference parent segs, ∃ lo hi, gap = segmentOn (level parent) parent lo hi ∧
        parent.lo (level parent) ≤ lo ∧ lo ≤ hi ∧ hi ≤ parent.hi (level parent)) ∧
      ∀ x, parent.lo (level parent) ≤ x → x < parent.hi (level parent) →
        (Covered (level parent) (difference parent segs) x ↔ ¬ Covered (level parent) segs x) := by
  have : Std.Total fun a b : Rect => a.lo (level parent) ≤ b.lo (level parent) :=
    ⟨fun _ _ => le_total _ _⟩
  have : IsTrans Rect fun a b => a.lo (level parent) ≤ b.lo (level parent) :=
    ⟨fun _ _ _ => le_trans⟩
  have perm : (sortSegs (level parent) segs).Perm segs := perm_insertionSort _ _
  have sorted : (sortSegs (level parent) segs).Pairwise
      fun a b => a.lo (level parent) ≤ b.lo (level parent) := pairwise_insertionSort _ _
  have same : ∀ x, Covered (level parent) (sortSegs (level parent) segs) x ↔
      Covered (level parent) segs x := by
    intro x
    simp only [Covered, perm.mem_iff]
  have alongSorted : ∀ seg ∈ sortSegs (level parent) segs, Along (level parent) parent seg :=
    fun seg member => along seg (perm.mem_iff.mp member)
  have unfolded : difference parent segs = match sortSegs (level parent) segs with
      | [] => [parent]
      | first :: rest =>
        gaps (level parent) parent (parent.lo (level parent)) (mergeSegs first rest) := rfl
  rw [unfolded]
  cases shape : sortSegs (level parent) segs with
  | nil =>
    rw [shape] at same
    refine ⟨?_, ?_⟩
    · intro gap member
      rw [mem_singleton.mp member]
      exact ⟨_, _, parent_line _ _, le_refl _, ordered, le_refl _⟩
    · intro x start stop
      rw [← same x]
      exact iff_of_true ⟨parent, mem_singleton_self _, start, stop⟩ (covered_nil x)
  | cons first rest =>
    rw [shape] at same alongSorted sorted
    have merged := mergeSegs_spec flat alongSorted sorted
    have begins := (alongSorted first mem_cons_self).begins
    have between := gaps_spec merged.2.1 (fun seg member => (merged.1 seg member).1)
      fun seg member => begins.trans (merged.1 seg member).2
    constructor
    · intro gap member
      rcases between.1 gap member with ⟨lo, hi, isGap, start, less, stop⟩
      exact ⟨lo, hi, isGap, start, less.le, stop⟩
    · intro x start stop
      rw [between.2 x start stop, merged.2.2 x, same x]

end MasterEdges

end OpenRoad.Dpl
