import OpenRoad.Dpl.NeighbourPush

/-! Pushing to the nearest sites, where the sites are found and the list keeps its order. -/

namespace OpenRoad.Dpl

open Architecture Node RowMgr

open List Function Option

lemma alignUp_nearest {row : Row} (sites : 0 < row.siteSpacing) (x k : Int) :
    x ≤ row.alignUp x ∧ (x ≤ row.site k → row.alignUp x ≤ row.site k) := by
  have positive := sites
  constructor
  · have low := Int.ediv_mul_le (-(x - row.left)) sites.ne'
    rw [Row.alignUp, divCeil, neg_mul]
    omega
  · intro beyond
    have most : -k ≤ -(x - row.left) / row.siteSpacing := by
      apply Int.le_ediv_of_mul_le sites
      rw [Row.site] at beyond
      rw [neg_mul]
      omega
    rw [Row.alignUp, Row.site, divCeil]
    exact Int.add_le_add_left (mul_le_mul_of_nonneg_right (by omega) sites.le) _

lemma alignDown_nearest {row : Row} (sites : 0 < row.siteSpacing) (x k : Int) :
    row.alignDown x ≤ x ∧ (row.site k ≤ x → row.site k ≤ row.alignDown x) := by
  constructor
  · have low := Int.ediv_mul_le (x - row.left) sites.ne'
    rw [Row.alignDown]
    omega
  · intro beyond
    have most : k ≤ (x - row.left) / row.siteSpacing := by
      apply Int.le_ediv_of_mul_le sites
      rw [Row.site] at beyond
      omega
    rw [Row.alignDown, Row.site]
    exact Int.add_le_add_left (mul_le_mul_of_nonneg_right most sites.le) _

/-- Each cell that has to move is sent to the right site, in front of the next one. -/
def Clean (nodes : Nat → Node) (ideal code : Node → Int → Node → Option Int)
    (fits : Nat → Nat × Int → Prop) (keeps : Nat → Int → Nat → Prop) :
    Nat → Node → Int → List Nat → Prop
  | _, _, _, [] => True
  | count, prev, x, c :: rest => ∀ place, ideal prev x (nodes c) = some place →
    code prev x (nodes c) = some place ∧ (fits count (c, place) →
      (∀ d ∈ rest.head?, keeps c place d) ∧
        Clean nodes ideal code fits keeps (count + 1) (nodes c) place rest)

def keepsRight (nodes : Nat → Node) (c : Nat) (place : Int) (d : Nat) : Prop :=
  place + (nodes c).width.tdiv 2 ≤ (nodes d).getCenterX

def keepsLeft (nodes : Nat → Node) (c : Nat) (place : Int) (d : Nat) : Prop :=
  (nodes d).getCenterX < place + (nodes c).width.tdiv 2

variable {x : Int} {c : Nat}

lemma pushes_some {nodes : Nat → Node} {step : Node → Int → Node → Option Int} {prev : Node}
    {place : Int} (isPlace : step prev x (nodes c) = some place) (rest : List Nat) :
    pushes nodes step prev x (c :: rest) = (c, place) :: pushes nodes step (nodes c) place rest := by
  rw [pushes, isPlace]

lemma pushes_none {nodes : Nat → Node} {step : Node → Int → Node → Option Int} {prev : Node}
    (stays : step prev x (nodes c) = none) (rest : List Nat) :
    pushes nodes step prev x (c :: rest) = [] := by
  rw [pushes, stays]

lemma lookup_pushes (nodes : Nat → Node) (step : Node → Int → Node → Option Int)
    (cells : List Nat) : ∀ (prev : Node) (x : Int) (d : Nat), d ∉ cells →
      (pushes nodes step prev x cells).lookup d = none := by
  induction cells with
  | nil => exact fun _ _ _ _ => rfl
  | cons c rest ih =>
    intro prev x d outside
    rw [mem_cons, not_or] at outside
    rw [pushes]
    split
    · rfl
    · rw [lookup_cons, beq_false_of_ne outside.1]
      exact ih _ _ d outside.2

structure SameExtent (a b : Node) : Prop where
  width : a.width = b.width
  padLeft : a.padLeft = b.padLeft
  padRight : a.padRight = b.padRight

lemma SameExtent.refl (a : Node) : SameExtent a a := ⟨rfl, rfl, rfl⟩

lemma sameExtent_moved {node : Node} {o : OrientType} (x y : Int)
    (flat : node.orient.rotated = false) (flatSite : o.rotated = false) :
    SameExtent ((node.at x y).adjustCurrOrient o) node := by
  have still : (node.at x y).orient.rotated = false := flat
  rw [adjustCurrOrient_eq, still, flatSite]
  exact ⟨rfl, rfl, rfl⟩

variable {a b : Node}

lemma SameExtent.spacing {c d : Node} (first : SameExtent a c) (second : SameExtent b d)
    (arch : Architecture) :
    arch.getCellSpacing (some a) (some b) = arch.getCellSpacing (some c) (some d) := by
  simp only [getCellSpacing, getCellPadding, elim_some,
    first.padRight, second.padLeft]

lemma SameExtent.spacing_right (same : SameExtent a b) (arch : Architecture) :
    arch.getCellSpacing (some a) none = arch.getCellSpacing (some b) none := by
  simp only [getCellSpacing, getCellPadding, elim_some,
    same.padRight]

lemma SameExtent.spacing_left (same : SameExtent a b) (arch : Architecture) :
    arch.getCellSpacing none (some a) = arch.getCellSpacing none (some b) := by
  simp only [getCellSpacing, getCellPadding, elim_some,
    same.padLeft]

/-- The cells to come are as they were, the list is as it was, and every cell is in its segment. -/
structure Pushing (mgr : RowMgr) (sj : Nat) (base : Nat → Node) (cells rest : List Nat)
    (s : PlacementState) : Prop where
  list : s.cellsInSeg sj = cells
  nodup : cells.Nodup
  segs : ∀ d ∈ cells, s.reverseCellToSegs d = [(sj : Int)]
  same : ∀ d ∈ rest, s.nodes d = base d
  single : ∀ d ∈ rest, mgr.getCellHeightInRows (base d) = 1 ∧
    mgr.arch.getCellHeightInRows (base d) = 1
  flat : ∀ d ∈ rest, (base d).orient.rotated = false

variable {mgr : RowMgr} {s : PlacementState}

lemma Pushing.rowCell {sj : Nat} {base : Nat → Node} {cells rest : List Nat}
    (pushing : Pushing mgr sj base cells rest s) (isRest : c ∈ rest) (isCell : c ∈ cells) :
    RowCell mgr s sj c := by
  refine ⟨pushing.segs c isCell, ?_, ?_⟩
  · rw [pushing.same c isRest]
    exact (pushing.single c isRest).1
  · rw [pushing.same c isRest]
    exact pushing.flat c isRest

variable {journal : Journal}

lemma Pushing.step {sj : Nat} {base : Nat → Node} {cells rest before after : List Nat}
    {s' : PlacementState} {journal' : Journal} (pushing : Pushing mgr sj base cells (c :: rest) s)
    (pushed : PushedTo mgr s s' journal journal' before after c x) (fresh : c ∉ rest)
    (stays : s'.cellsInSeg = s.cellsInSeg) : Pushing mgr sj base cells rest s' := by
  rcases pushed.node with ⟨o, _, nodes⟩
  refine ⟨?_, pushing.nodup, ?_, ?_, ?_, ?_⟩
  · rw [stays]
    exact pushing.list
  · intro d member
    rw [pushed.segs]
    exact pushing.segs d member
  · intro d member
    have differ : d ≠ c := fun same => fresh (same ▸ member)
    rw [nodes, update_of_ne differ]
    exact pushing.same d (mem_cons_of_mem c member)
  · exact fun d member => pushing.single d (mem_cons_of_mem c member)
  · exact fun d member => pushing.flat d (mem_cons_of_mem c member)

lemma pushesExactly_none (fits : Nat → Nat × Int → Prop) (s : PlacementState) (journal : Journal) :
    PushesExactly fits s journal [] (.ok (true, s, journal)) :=
  ⟨true, s, journal, rfl, iff_of_true rfl trivial, fun _ _ => ⟨rfl, rfl⟩⟩

lemma pushesExactly_failed {fits : Nat → Nat × Int → Prop} {push : Nat × Int}
    {moved : List (Nat × Int)} (s' : PlacementState) (journal' : Journal)
    (fails : ¬ fits journal.actions.length push) :
    PushesExactly fits s journal (push :: moved) (.ok (false, s', journal')) :=
  ⟨false, s', journal', rfl, iff_of_false (by simp) fun all => fails all.1, fun succeeded => by
    cases succeeded⟩

lemma pushesExactly_cons {fits : Nat → Nat × Int → Prop} {s₁ : PlacementState} {journal₁ : Journal}
    {before after : List Nat} {moved : List (Nat × Int)}
    {result : Except MoveError (Bool × PlacementState × Journal)}
    (passes : fits journal.actions.length (c, x))
    (pushed : PushedTo mgr s s₁ journal journal₁ before after c x) (once : moved.lookup c = none)
    (rest : PushesExactly fits s₁ journal₁ moved result) :
    PushesExactly fits s journal ((c, x) :: moved) result := by
  rcases rest with ⟨succeeded, s', journal', isResult, allFit, places⟩
  rcases pushed.node with ⟨o, _, nodes⟩
  refine ⟨succeeded, s', journal', isResult, ?_, ?_⟩
  · rw [allFit, pushed.journal]
    exact (and_iff_right passes).symm
  · intro isTrue d
    have place := places isTrue d
    rw [placeOf] at place ⊢
    by_cases same : d = c
    · rw [same, lookup_cons_self, getD_some]
      rw [same, once, getD_none, nodes, update_self, adjustCurrOrient_left,
        adjustCurrOrient_bottom] at place
      exact place
    · rw [nodes, update_of_ne same] at place
      rw [lookup_cons, beq_false_of_ne same]
      exact place

section

variable {mgr : RowMgr} {row : Row} {sj : Nat} {base : Nat → Node}

variable {s : PlacementState} {journal : Journal}

variable {after before rest : List Nat} {c : Nat}

lemma next_push {cells : List Nat} (upright : mgr.grid.Upright)
    (pushing : Pushing mgr sj base cells (c :: rest) s) (isList : cells = before ++ c :: after)
    (x : Int) : (¬ MoveFits mgr base journal.actions.length (c, x) ∧
      addToMoveList mgr.toDetailedMgr c (s.nodes c).left (s.nodes c).bottom sj x (s.nodes c).bottom sj
        s journal = .ok none) ∨
    (MoveFits mgr base journal.actions.length (c, x) ∧ ∃ s' journal',
      addToMoveList mgr.toDetailedMgr c (s.nodes c).left (s.nodes c).bottom sj x (s.nodes c).bottom sj
        s journal = .ok (some (s', journal')) ∧
      PushedTo mgr s s' journal journal' before after c x) := by
  have isCell : c ∈ cells := by
    rw [isList]
    simp
  have nodup := pushing.nodup
  rw [isList, nodup_middle, nodup_cons, mem_append, not_or] at nodup
  have sameFits : MoveFits mgr s.nodes journal.actions.length (c, x) ↔
      MoveFits mgr base journal.actions.length (c, x) := by
    have same := pushing.same c mem_cons_self
    constructor
    · intro fits
      refine ⟨fits.limit, ?_, ?_, ?_⟩
      · simpa only [same] using fits.site
      · simpa only [same] using fits.dispX
      · simpa only [same] using fits.dispY
    · intro fits
      refine ⟨fits.limit, ?_, ?_, ?_⟩
      · simpa only [same] using fits.site
      · simpa only [same] using fits.dispX
      · simpa only [same] using fits.dispY
  rw [← sameFits]
  exact addToMoveList_push upright (pushing.rowCell mem_cons_self isCell) x
    (pushing.list.trans isList) nodup.1.1 nodup.1.2

variable {x : Int}

lemma moved_extent {cells : List Nat} {s' : PlacementState} {journal journal' : Journal}
    (upright : mgr.grid.Upright) (pushing : Pushing mgr sj base cells (c :: rest) s)
    (pushed : PushedTo mgr s s' journal journal' before after c x) :
    SameExtent (s'.nodes c) (base c) ∧ (s'.nodes c).getCenterX = x + (base c).width.tdiv 2 ∧
      ∀ d, d ≠ c → s'.nodes d = s.nodes d := by
  rcases pushed.node with ⟨o, gives, nodes⟩
  have isBase : s.nodes c = base c := pushing.same c mem_cons_self
  have flat : (base c).orient.rotated = false := pushing.flat c mem_cons_self
  refine ⟨?_, ?_, ?_⟩
  · rw [nodes, update_self, isBase]
    exact sameExtent_moved x _ flat (upright o gives)
  · rw [nodes, update_self, isBase]
    exact getCenterX_moved x _ flat (upright o gives)
  · intro d differ
    rw [nodes, update_of_ne differ]

/-- What the loop does once the first cell has moved to its place. -/
def RowMgr.pushRightOn (mgr : RowMgr) (row : Row) (sj : Nat) (remaining ix c : Nat) (place : Int)
    (s : PlacementState) (journal : Journal) : Except MoveError (Bool × PlacementState × Journal) :=
  match remaining with
  | 0 => .ok (true, s, journal)
  | remaining + 1 =>
    match (s.cellsInSeg sj)[ix + 1]? with
    | none => .error (.outOfRange (ix + 1))
    | some next => mgr.pushRight row sj remaining (ix + 1) c place next s journal

lemma pushRight_first {ndi : Nat} {prev : Node}
    (upright : mgr.grid.Upright) (sites : 0 < row.siteSpacing)
    (pushing : Pushing mgr sj base (before ++ c :: rest) (c :: rest) s)
    (low : ∀ d ∈ before, (s.nodes d).getCenterX ≤ (base c).getCenterX)
    (same : SameExtent (s.nodes ndi) prev)
    (clean : Clean base (stepRight mgr.arch row.alignUp) (stepRight mgr.arch (snapRight row))
      (PushFits mgr (insideRight mgr sj) base) (keepsRight base) journal.actions.length prev x
      (c :: rest)) :
    (∀ remaining, PushesExactly (PushFits mgr (insideRight mgr sj) base) s journal
      (pushes base (stepRight mgr.arch row.alignUp) prev x (c :: rest))
      (mgr.pushRight row sj remaining before.length ndi x c s journal)) ∨
    ∃ place s' journal', pushes base (stepRight mgr.arch row.alignUp) prev x (c :: rest) =
        (c, place) :: pushes base (stepRight mgr.arch row.alignUp) (base c) place rest ∧
      PushFits mgr (insideRight mgr sj) base journal.actions.length (c, place) ∧
      PushedTo mgr s s' journal journal' before rest c place ∧ s'.cellsInSeg = s.cellsInSeg ∧
      (∀ d ∈ rest.head?, keepsRight base c place d) ∧
      Clean base (stepRight mgr.arch row.alignUp) (stepRight mgr.arch (snapRight row))
        (PushFits mgr (insideRight mgr sj) base) (keepsRight base) journal'.actions.length (base c)
        place rest ∧
      ∀ remaining, mgr.pushRight row sj remaining before.length ndi x c s journal =
        mgr.pushRightOn row sj remaining before.length c place s' journal' := by
  have isBase : s.nodes c = base c := pushing.same c mem_cons_self
  have least : x + (s.nodes ndi).width +
      mgr.arch.getCellSpacing (some (s.nodes ndi)) (some (base c)) =
      x + prev.width + mgr.arch.getCellSpacing (some prev) (some (base c)) := by
    rw [same.width, same.spacing (SameExtent.refl (base c))]
  by_cases violates : (base c).left <
      x + prev.width + mgr.arch.getCellSpacing (some prev) (some (base c))
  swap
  · left
    intro remaining
    rw [pushes_none (by rw [stepRight, if_neg violates]), pushRight]
    simp only [isBase, least, if_neg violates]
    exact pushesExactly_none _ s journal
  have isPlace : stepRight mgr.arch row.alignUp prev x (base c) =
      some (row.alignUp (x + prev.width + mgr.arch.getCellSpacing (some prev) (some (base c)))) := by
    rw [stepRight, if_pos violates]
  rcases clean _ isPlace with ⟨snaps, kept⟩
  rw [stepRight, if_pos violates, Option.some.injEq] at snaps
  have isPushes := pushes_some isPlace rest
  have beyond := (alignUp_nearest sites
    (x + prev.width + mgr.arch.getCellSpacing (some prev) (some (base c))) 0).1
  generalize row.alignUp (x + prev.width + mgr.arch.getCellSpacing (some prev) (some (base c))) =
    place at snaps kept isPushes beyond
  have single := (pushing.single c mem_cons_self).2
  rcases next_push upright pushing rfl place with ⟨fails, isNone⟩ | ⟨fits, s', journal', isMove, pushed⟩
  · left
    intro remaining
    rw [isPushes, pushRight]
    simp only [isBase, least, if_pos violates, single, ne_eq, not_true_eq_false, if_false, snaps]
    rw [isBase] at isNone
    rw [isNone]
    exact pushesExactly_failed s journal fun all => fails (pushFits_iff.mp all).1
  · have extent := (moved_extent upright pushing pushed).1
    have step : ∀ remaining, mgr.pushRight row sj remaining before.length ndi x c s journal =
        if place + (base c).width + mgr.arch.getCellSpacing (some (base c)) none >
            (mgr.segments sj).xmax then .ok (false, s', journal')
        else mgr.pushRightOn row sj remaining before.length c place s' journal' := by
      intro remaining
      rw [pushRight]
      simp only [isBase, least, if_pos violates, single, ne_eq, not_true_eq_false, if_false, snaps]
      rw [isBase] at isMove
      rw [isMove]
      simp only [extent.width, extent.spacing_right]
      rfl
    by_cases inside : insideRight mgr sj (base c) place
    · right
      have all : PushFits mgr (insideRight mgr sj) base journal.actions.length (c, place) :=
        pushFits_iff.mpr ⟨fits, inside⟩
      rcases kept all with ⟨order, cleanRest⟩
      refine ⟨place, s', journal', isPushes, all, pushed, ?_, order, ?_, ?_⟩
      · apply pushed.cells
        · intro d member
          have before := low d member
          rw [isBase]
          rw [getCenterX] at before ⊢
          simp only [getCenterX] at before ⊢
          omega
        · intro d isHead
          rw [isBase, pushing.same d (mem_cons_of_mem c (mem_of_mem_head? isHead))]
          exact order d isHead
      · rw [pushed.journal]
        exact cleanRest
      · intro remaining
        rw [step, if_neg (not_lt.mpr inside)]
    · left
      intro remaining
      rw [isPushes, step, if_pos (not_le.mp inside)]
      exact pushesExactly_failed s' journal' fun all => inside (pushFits_iff.mp all).2

lemma pushRight_exact (upright : mgr.grid.Upright) (sites : 0 < row.siteSpacing)
    (rest : List Nat) :
    ∀ (c : Nat) (before : List Nat) (prev : Node) (x : Int) (ndi : Nat) (s : PlacementState)
      (journal : Journal),
      Pushing mgr sj base (before ++ c :: rest) (c :: rest) s →
      (c :: rest).Pairwise (fun a b => (base a).getCenterX ≤ (base b).getCenterX) →
      (∀ d ∈ before, (s.nodes d).getCenterX ≤ (base c).getCenterX) →
      SameExtent (s.nodes ndi) prev →
      Clean base (stepRight mgr.arch row.alignUp) (stepRight mgr.arch (snapRight row))
        (PushFits mgr (insideRight mgr sj) base) (keepsRight base) journal.actions.length prev x
        (c :: rest) →
      PushesExactly (PushFits mgr (insideRight mgr sj) base) s journal
        (pushes base (stepRight mgr.arch row.alignUp) prev x (c :: rest))
        (mgr.pushRight row sj rest.length before.length ndi x c s journal) := by
  induction rest with
  | nil =>
    intro c before prev x ndi s journal pushing _ low same clean
    rcases pushRight_first upright sites pushing low same clean with
      ended | ⟨place, s', journal', isPushes, fits, pushed, _, _, _, goesOn⟩
    · exact ended 0
    · rw [isPushes, length_nil, goesOn]
      exact pushesExactly_cons fits pushed rfl (pushesExactly_none _ s' journal')
  | cons d rest ih =>
    intro c before prev x ndi s journal pushing sorted low same clean
    rcases pushRight_first upright sites pushing low same clean with
      ended | ⟨place, s', journal', isPushes, fits, pushed, stays, order, cleanRest, goesOn⟩
    · exact ended _
    · have nodup := pushing.nodup
      rw [nodup_middle, nodup_cons, mem_append, not_or] at nodup
      rcases moved_extent upright pushing pushed with ⟨extent, centre, others⟩
      have split : before ++ c :: d :: rest = (before ++ [c]) ++ d :: rest := by simp
      have next := pushing.step pushed nodup.1.2 stays
      rw [split] at next
      have isNext : (s'.cellsInSeg sj)[before.length + 1]? = some d := by
        rw [next.list]
        simp
      have below : ∀ e ∈ before ++ [c], (s'.nodes e).getCenterX ≤ (base d).getCenterX := by
        intro e member
        rcases mem_append.mp member with earlier | last
        · have differ : e ≠ c := fun same => nodup.1.1 (same ▸ earlier)
          rw [others e differ]
          exact (low e earlier).trans ((pairwise_cons.mp sorted).1 d mem_cons_self)
        · rw [mem_singleton.mp last, centre]
          exact order d rfl
      have rest' := ih d (before ++ [c]) (base c) place c s' journal' next
        (pairwise_cons.mp sorted).2 below extent cleanRest
      rw [isPushes, length_cons, goesOn, RowMgr.pushRightOn, isNext]
      rw [length_append, length_singleton] at rest'
      exact pushesExactly_cons fits pushed (lookup_pushes _ _ _ _ _ c nodup.1.2) rest'

/-- What the loop to the left does once the first cell has moved to its place. -/
def RowMgr.pushLeftOn (mgr : RowMgr) (row : Row) (sj : Nat) (ix c : Nat) (place : Int)
    (s : PlacementState) (journal : Journal) : Except MoveError (Bool × PlacementState × Journal) :=
  match ix with
  | 0 => .ok (true, s, journal)
  | ix + 1 =>
    match (s.cellsInSeg sj)[ix]? with
    | none => .error (.outOfRange ix)
    | some next => mgr.pushLeft row sj ix c place next s journal

lemma pushLeft_first {ndi : Nat} {prev : Node}
    (upright : mgr.grid.Upright) (sites : 0 < row.siteSpacing)
    (pushing : Pushing mgr sj base (rest.reverse ++ c :: after) (c :: rest) s)
    (sorted : (c :: rest).Pairwise fun a b => (base b).getCenterX ≤ (base a).getCenterX)
    (high : ∀ d ∈ after, (base c).getCenterX ≤ (s.nodes d).getCenterX)
    (same : SameExtent (s.nodes ndi) prev)
    (clean : Clean base (stepLeft mgr.arch row.alignDown) (stepLeft mgr.arch (snapLeft row))
      (PushFits mgr (insideLeft mgr sj) base) (keepsLeft base) journal.actions.length prev x
      (c :: rest)) :
    (∀ ix, PushesExactly (PushFits mgr (insideLeft mgr sj) base) s journal
      (pushes base (stepLeft mgr.arch row.alignDown) prev x (c :: rest))
      (mgr.pushLeft row sj ix ndi x c s journal)) ∨
    ∃ place s' journal', pushes base (stepLeft mgr.arch row.alignDown) prev x (c :: rest) =
        (c, place) :: pushes base (stepLeft mgr.arch row.alignDown) (base c) place rest ∧
      PushFits mgr (insideLeft mgr sj) base journal.actions.length (c, place) ∧
      PushedTo mgr s s' journal journal' rest.reverse after c place ∧
      s'.cellsInSeg = s.cellsInSeg ∧ (∀ d ∈ rest.head?, keepsLeft base c place d) ∧
      Clean base (stepLeft mgr.arch row.alignDown) (stepLeft mgr.arch (snapLeft row))
        (PushFits mgr (insideLeft mgr sj) base) (keepsLeft base) journal'.actions.length (base c)
        place rest ∧
      ∀ ix, mgr.pushLeft row sj ix ndi x c s journal =
        mgr.pushLeftOn row sj ix c place s' journal' := by
  have isBase : s.nodes c = base c := pushing.same c mem_cons_self
  have spacing : mgr.arch.getCellSpacing (some (base c)) (some (s.nodes ndi)) =
      mgr.arch.getCellSpacing (some (base c)) (some prev) :=
    (SameExtent.refl (base c)).spacing same mgr.arch
  by_cases violates : (base c).getRight + mgr.arch.getCellSpacing (some (base c)) (some prev) > x
  swap
  · left
    intro ix
    rw [pushes_none (by rw [stepLeft, if_neg violates]), pushLeft]
    simp only [isBase, spacing, if_neg violates]
    exact pushesExactly_none _ s journal
  have isPlace : stepLeft mgr.arch row.alignDown prev x (base c) = some (row.alignDown
      (x - mgr.arch.getCellSpacing (some (base c)) (some prev) - (base c).width)) := by
    rw [stepLeft, if_pos violates]
  rcases clean _ isPlace with ⟨snaps, kept⟩
  rw [stepLeft, if_pos violates, Option.some.injEq] at snaps
  have isPushes := pushes_some isPlace rest
  have beyond := (alignDown_nearest sites
    (x - mgr.arch.getCellSpacing (some (base c)) (some prev) - (base c).width) 0).1
  have most : x - mgr.arch.getCellSpacing (some (base c)) (some prev) - (base c).width <
      (base c).left := by
    rw [getRight] at violates
    omega
  generalize row.alignDown
    (x - mgr.arch.getCellSpacing (some (base c)) (some prev) - (base c).width) = place
    at snaps kept isPushes beyond
  have single := (pushing.single c mem_cons_self).2
  rcases next_push upright pushing rfl place with ⟨fails, isNone⟩ | ⟨fits, s', journal', isMove, pushed⟩
  · left
    intro ix
    rw [isPushes, pushLeft]
    simp only [isBase, spacing, if_pos violates, single, ne_eq, not_true_eq_false, if_false, snaps]
    rw [isBase] at isNone
    rw [isNone]
    exact pushesExactly_failed s journal fun all => fails (pushFits_iff.mp all).1
  · have extent := (moved_extent upright pushing pushed).1
    have step : ∀ ix, mgr.pushLeft row sj ix ndi x c s journal =
        if place - mgr.arch.getCellSpacing none (some (base c)) < (mgr.segments sj).xmin then
          .ok (false, s', journal')
        else mgr.pushLeftOn row sj ix c place s' journal' := by
      intro ix
      rw [pushLeft]
      simp only [isBase, spacing, if_pos violates, single, ne_eq, not_true_eq_false, if_false, snaps]
      rw [isBase] at isMove
      rw [isMove]
      simp only [extent.spacing_left]
      rfl
    by_cases inside : insideLeft mgr sj (base c) place
    · right
      have all : PushFits mgr (insideLeft mgr sj) base journal.actions.length (c, place) :=
        pushFits_iff.mpr ⟨fits, inside⟩
      rcases kept all with ⟨order, cleanRest⟩
      refine ⟨place, s', journal', isPushes, all, pushed, ?_, order, ?_, ?_⟩
      · apply pushed.cells
        · intro d member
          rw [mem_reverse] at member
          rw [isBase, pushing.same d (mem_cons_of_mem c member)]
          cases rest with
          | nil => cases member
          | cons e rest =>
            have first : (base e).getCenterX < place + (base c).width.tdiv 2 := order e rfl
            rcases mem_cons.mp member with isHead | later
            · rw [isHead]
              exact first
            · have tail := (pairwise_cons.mp sorted).2
              exact ((pairwise_cons.mp tail).1 d later).trans_lt first
        · intro d isHead
          have above := high d (mem_of_mem_head? isHead)
          rw [isBase]
          rw [getCenterX] at above
          omega
      · rw [pushed.journal]
        exact cleanRest
      · intro ix
        rw [step, if_neg (not_lt.mpr inside)]
    · left
      intro ix
      rw [isPushes, step, if_pos (not_le.mp inside)]
      exact pushesExactly_failed s' journal' fun all => inside (pushFits_iff.mp all).2

lemma pushLeft_exact (upright : mgr.grid.Upright) (sites : 0 < row.siteSpacing)
    (rest : List Nat) :
    ∀ (c : Nat) (after : List Nat) (prev : Node) (x : Int) (ndi : Nat) (s : PlacementState)
      (journal : Journal),
      Pushing mgr sj base (rest.reverse ++ c :: after) (c :: rest) s →
      (c :: rest).Pairwise (fun a b => (base b).getCenterX ≤ (base a).getCenterX) →
      (∀ d ∈ after, (base c).getCenterX ≤ (s.nodes d).getCenterX) →
      SameExtent (s.nodes ndi) prev →
      Clean base (stepLeft mgr.arch row.alignDown) (stepLeft mgr.arch (snapLeft row))
        (PushFits mgr (insideLeft mgr sj) base) (keepsLeft base) journal.actions.length prev x
        (c :: rest) →
      PushesExactly (PushFits mgr (insideLeft mgr sj) base) s journal
        (pushes base (stepLeft mgr.arch row.alignDown) prev x (c :: rest))
        (mgr.pushLeft row sj rest.length ndi x c s journal) := by
  induction rest with
  | nil =>
    intro c after prev x ndi s journal pushing sorted high same clean
    rcases pushLeft_first upright sites pushing sorted high same clean with
      ended | ⟨place, s', journal', isPushes, fits, pushed, _, _, _, goesOn⟩
    · exact ended 0
    · rw [isPushes, length_nil, goesOn]
      exact pushesExactly_cons fits pushed rfl (pushesExactly_none _ s' journal')
  | cons d rest ih =>
    intro c after prev x ndi s journal pushing sorted high same clean
    rcases pushLeft_first upright sites pushing sorted high same clean with
      ended | ⟨place, s', journal', isPushes, fits, pushed, stays, order, cleanRest, goesOn⟩
    · exact ended _
    · have nodup := pushing.nodup
      rw [nodup_middle, nodup_cons, mem_append, not_or, mem_reverse] at nodup
      rcases moved_extent upright pushing pushed with ⟨extent, centre, others⟩
      have split : (d :: rest).reverse ++ c :: after = rest.reverse ++ d :: c :: after := by simp
      have next := pushing.step pushed nodup.1.1 stays
      rw [split] at next
      have isNext : (s'.cellsInSeg sj)[rest.length]? = some d := by
        rw [next.list, ← length_reverse]
        simp
      have above : ∀ e ∈ c :: after, (base d).getCenterX ≤ (s'.nodes e).getCenterX := by
        intro e member
        rcases mem_cons.mp member with isFirst | later
        · rw [isFirst, centre]
          exact (order d rfl).le
        · have differ : e ≠ c := fun same => nodup.1.2 (same ▸ later)
          rw [others e differ]
          exact ((pairwise_cons.mp sorted).1 d mem_cons_self).trans (high e later)
      have rest' := ih d (c :: after) (base c) place c s' journal' next
        (pairwise_cons.mp sorted).2 above extent cleanRest
      rw [isPushes, length_cons, goesOn, RowMgr.pushLeftOn, isNext]
      exact pushesExactly_cons fits pushed (lookup_pushes _ _ _ _ _ c nodup.1.1) rest'

end

end OpenRoad.Dpl
