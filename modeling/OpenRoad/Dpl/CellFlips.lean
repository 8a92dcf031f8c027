import OpenRoad.Dpl.MultiHeightMove
import OpenRoad.Dpl.Objectives

/-! Cells mirrored in their rows so that their nets get shorter. -/

namespace OpenRoad.Dpl

open OpenRoad.Lib Function List

def twiceX (nodes : Nat → Node) (pin : Nat × Nat) : Int :=
  let node := nodes pin.1
  2 * node.left + node.width + 2 * (node.pins[pin.2]?.elim 0 Pin.offsetX)

def twiceFlippedX (nodes : Nat → Node) (n : Nat) (pin : Nat × Nat) : Int :=
  let node := nodes pin.1
  if pin.1 = n then 2 * node.left + node.width - 2 * (node.pins[pin.2]?.elim 0 Pin.offsetX)
  else twiceX nodes pin

def extent : List Int → Int
  | [] => 0
  | x :: xs => xs.foldl max x - xs.foldl min x

def Network.countedNets (network : Network) (node : Node) : List Nat :=
  ((node.pins.map Pin.edge).filter network.counts).dedup

def Network.lengthBy (network : Network) (place : Nat × Nat → Int) (nets : List Nat) : Int :=
  (nets.map fun edge => extent ((network.getEdge edge).map place)).sum

def OrientType.flipped : OrientType → Option OrientType
  | R0 => some MY
  | R180 => some MX
  | MY => some R0
  | MX => some R180
  | _ => none

def flipCellPadding (node : Node) : Node :=
  let left_padding := node.padLeft
  let right_padding := node.padLeft
  { node with padLeft := left_padding, padRight := right_padding }

structure DetailedOrient where
  arch : Architecture
  network : Network
  segments : List DetailedSeg
  cellsInSeg : Nat → List Nat
  symmetryY : Nat → Bool
  checkDRC : (Nat → Node) → Nat → Bool

structure FlipState where
  nodes : Nat → Node
  flipped : List Nat

def FlipState.setNode (s : FlipState) (n : Nat) (node : Node) : FlipState :=
  { s with nodes := update s.nodes n node }

def DetailedOrient.isSingleHeightCell (o : DetailedOrient) (node : Node) : Bool :=
  o.arch.getCellHeightInRows node = 1

def DetailedOrient.oldHpwl (o : DetailedOrient) (nodes : Nat → Node) (n : Nat) : Int :=
  o.network.lengthBy (twiceX nodes) (o.network.countedNets (nodes n))

def DetailedOrient.newHpwl (o : DetailedOrient) (nodes : Nat → Node) (n : Nat) : Int :=
  o.network.lengthBy (twiceFlippedX nodes n) (o.network.countedNets (nodes n))

def cellBefore (cells : List Nat) (i : Nat) : Option Nat := if i = 0 then none else cells[i - 1]?

def cellAfter (cells : List Nat) (i : Nat) : Option Nat := cells[i + 1]?

/-- The cell with its paddings exchanged is between the padding of its neighbours. -/
def DetailedOrient.padsFit (o : DetailedOrient) (nodes : Nat → Node) (seg : DetailedSeg) (i : Nat)
    (ndi : Node) : Bool :=
  let cells := o.cellsInSeg seg.segId
  let lx := (cellBefore cells i).elim seg.xmin fun c =>
    (nodes c).getRight + (o.arch.getCellPadding (nodes c)).2
  let rx := (cellAfter cells i).elim seg.xmax fun c =>
    (nodes c).left - (o.arch.getCellPadding (nodes c)).1
  let (leftPadding, rightPadding) := o.arch.getCellPadding ndi
  ¬ (ndi.left - rightPadding < lx ∨ ndi.getRight + leftPadding > rx)

/-- The cell is not wider than the gap between its neighbours. -/
def DetailedOrient.widthFits (o : DetailedOrient) (nodes : Nat → Node) (seg : DetailedSeg) (i : Nat)
    (ndi : Node) : Bool :=
  let cells := o.cellsInSeg seg.segId
  let lx := (cellBefore cells i).elim seg.xmin fun c => (nodes c).getRight
  let rx := (cellAfter cells i).elim seg.xmax fun c => (nodes c).left
  ¬ ndi.width > rx - lx

/-- The loop body for one place of a segment. -/
def DetailedOrient.flipCell (o : DetailedOrient) (s : FlipState) (visit : DetailedSeg × Nat) :
    FlipState :=
  let (seg, i) := visit
  match (o.cellsInSeg seg.segId)[i]? with
  | none => s
  | some n =>
    let ndi := s.nodes n
    if ¬ o.isSingleHeightCell ndi then s
    else if o.newHpwl s.nodes n ≥ o.oldHpwl s.nodes n then s
    else if ¬ o.padsFit s.nodes seg i ndi then s
    else match ndi.orient.flipped with
      | none => s
      | some flipped =>
        let s' := s.setNode n (ndi.adjustCurrOrient flipped)
        if ¬ o.checkDRC s'.nodes n then
          s'.setNode n ((s'.nodes n).adjustCurrOrient ndi.orient)
        else if ¬ o.widthFits s'.nodes seg i (s'.nodes n) then s'
        else
          { nodes := update s'.nodes n (flipCellPadding (s'.nodes n))
            flipped := n :: s'.flipped }

def DetailedOrient.visits (o : DetailedOrient) : List (DetailedSeg × Nat) :=
  o.segments.flatMap fun seg =>
    if o.symmetryY seg.rowId then
      (List.range (o.cellsInSeg seg.segId).length).map fun i => (seg, i)
    else []

def DetailedOrient.flipCells (o : DetailedOrient) (nodes : Nat → Node) : FlipState :=
  run o.flipCell ⟨nodes, []⟩ o.visits

def Pin.flipX (pin : Pin) : Pin := { pin with offsetX := -pin.offsetX }

def Node.mirrorY (node : Node) (o : OrientType) : Node :=
  { node with pins := node.pins.map Pin.flipX, orient := o }

lemma adjustCurrOrient_flipped {node : Node} {o : OrientType} (isFlipped : node.orient.flipped = some o) :
    node.adjustCurrOrient o = node.mirrorY o := by
  rw [Node.adjustCurrOrient_eq]
  rcases node with ⟨left, bottom, width, height, isTerminal, padLeft, padRight, orient, origLeft,
    origBottom, fixed, placed, hold, site, pins⟩
  cases orient <;> cases isFlipped <;>
    simp [Node.mirrorY, Pin.flipX, OrientType.rotated, Pin.reorient, Dpl.reorient, OrientType.axes]

lemma flipped_mirrors {a b : OrientType} (isFlipped : a.flipped = some b) (offset : Int × Int) :
    reorient a b offset = (-offset.1, offset.2) := by
  cases a <;> cases isFlipped <;> simp [reorient, OrientType.axes]

lemma twiceX_flipped (nodes : Nat → Node) (n : Nat) {node : Node} {o : OrientType}
    (left : node.left = (nodes n).left) (width : node.width = (nodes n).width)
    (pins : node.pins = ((nodes n).mirrorY o).pins) (pin : Nat × Nat) :
    twiceX (update nodes n node) pin = twiceFlippedX nodes n pin := by
  rw [twiceX, twiceFlippedX]
  by_cases same : pin.1 = n
  · rw [same, update_self, if_pos rfl, left, width, pins, Node.mirrorY, getElem?_map]
    cases (nodes n).pins[pin.2]? with
    | none => simp
    | some p =>
      simp only [Option.map_some, Option.elim_some, Pin.flipX]
      omega
  · rw [update_of_ne same, if_neg same, twiceX]

lemma countedNets_pins (network : Network) {a b : Node}
    (edges : a.pins.map Pin.edge = b.pins.map Pin.edge) :
    network.countedNets a = network.countedNets b := by
  rw [Network.countedNets, edges, Network.countedNets]

lemma flipX_edges (pins : List Pin) : (pins.map Pin.flipX).map Pin.edge = pins.map Pin.edge := by
  simp [Pin.flipX, comp_def]

def Apart (siteWidth : Int) (a b : Node) : Prop :=
  a.getRight + (a.padRight + b.padLeft) * siteWidth ≤ b.left

def Spaced (o : DetailedOrient) (nodes : Nat → Node) (seg : DetailedSeg) : Prop :=
  ∀ i a b, (o.cellsInSeg seg.segId)[i]? = some a → (o.cellsInSeg seg.segId)[i + 1]? = some b →
    Apart o.arch.site_width (nodes a) (nodes b)

/-- Where the cells lie, apart from their orientation. -/
structure Placed (o : DetailedOrient) (nodes : Nat → Node) : Prop where
  paddings : ∀ n, 0 ≤ (nodes n).padLeft ∧ 0 ≤ (nodes n).padRight
  spaced : ∀ seg ∈ o.segments, Spaced o nodes seg
  inside : ∀ seg ∈ o.segments, ∀ n ∈ o.cellsInSeg seg.segId,
    seg.xmin ≤ (nodes n).left ∧ (nodes n).getRight ≤ seg.xmax

structure Legal (o : DetailedOrient) (nodes : Nat → Node) : Prop extends Placed o nodes where
  sites : 0 ≤ o.arch.site_width
  segments : o.segments.Nodup
  once : ∀ seg ∈ o.segments, ∀ seg' ∈ o.segments, ∀ i j n : Nat, o.isSingleHeightCell (nodes n) →
    (o.cellsInSeg seg.segId)[i]? = some n → (o.cellsInSeg seg'.segId)[j]? = some n →
    seg = seg' ∧ i = j

lemma mem_visits {o : DetailedOrient} {seg : DetailedSeg} {i : Nat} (isVisit : (seg, i) ∈ o.visits) :
    seg ∈ o.segments := by
  rcases mem_flatMap.mp isVisit with ⟨other, isSeg, member⟩
  split at member
  · rcases mem_map.mp member with ⟨j, _, same⟩
    cases same
    exact isSeg
  · cases member

lemma visits_nodup {o : DetailedOrient} (segments : o.segments.Nodup) : o.visits.Nodup := by
  rw [DetailedOrient.visits, nodup_flatMap]
  constructor
  · intro seg _
    split
    · exact nodup_range.map fun i j same => (Prod.mk.inj same).2
    · exact nodup_nil
  · apply segments.imp
    intro seg seg' differ visit first second
    apply differ
    simp only at first second
    split at first
    · split at second
      · rcases mem_map.mp first with ⟨i, _, rfl⟩
        rcases mem_map.mp second with ⟨j, _, same⟩
        exact (Prod.mk.inj same).1.symm
      · cases second
    · cases first

def Node.flippedBy (node : Node) (o : OrientType) : Node := flipCellPadding (node.mirrorY o)

/-- The tests for the cell in one place of a segment are passed. -/
structure Flips (o : DetailedOrient) (nodes : Nat → Node) (visit : DetailedSeg × Nat) (n : Nat)
    (orient : OrientType) : Prop where
  found : (o.cellsInSeg visit.1.segId)[visit.2]? = some n
  single : o.isSingleHeightCell (nodes n)
  shorter : o.newHpwl nodes n < o.oldHpwl nodes n
  fits : o.padsFit nodes visit.1 visit.2 (nodes n)
  isFlipped : (nodes n).orient.flipped = some orient
  clean : o.checkDRC (update nodes n ((nodes n).mirrorY orient)) n

lemma cellBefore_succ {cells : List Nat} {i p : Nat} (isBefore : cellBefore cells i = some p) :
    ∃ j, i = j + 1 ∧ cells[j]? = some p := by
  rw [cellBefore] at isBefore
  split at isBefore
  · cases isBefore
  · exact ⟨i - 1, by omega, isBefore⟩

variable {o : DetailedOrient} {nodes : Nat → Node}

lemma widthFits_of_legal {seg : DetailedSeg} {i n : Nat} (placed : Placed o nodes)
    (sites : 0 ≤ o.arch.site_width) (isSeg : seg ∈ o.segments)
    (found : (o.cellsInSeg seg.segId)[i]? = some n) :
    o.widthFits nodes seg i (nodes n) := by
  have room := placed.inside seg isSeg n (mem_of_getElem? found)
  have apart : ∀ a b, Apart o.arch.site_width (nodes a) (nodes b) →
      (nodes a).getRight ≤ (nodes b).left := by
    intro a b gap
    have pads := mul_nonneg (add_nonneg (placed.paddings a).2 (placed.paddings b).1) sites
    rw [Apart] at gap
    omega
  have low : (cellBefore (o.cellsInSeg seg.segId) i).elim seg.xmin
      (fun c => (nodes c).getRight) ≤ (nodes n).left := by
    cases before : cellBefore (o.cellsInSeg seg.segId) i with
    | none => exact room.1
    | some p =>
      rcases cellBefore_succ before with ⟨j, rfl, isBefore⟩
      exact apart p n (placed.spaced seg isSeg j p n isBefore found)
  have high : (nodes n).getRight ≤
      (cellAfter (o.cellsInSeg seg.segId) i).elim seg.xmax fun c => (nodes c).left := by
    cases after : cellAfter (o.cellsInSeg seg.segId) i with
    | none => exact room.2
    | some q => exact apart n q (placed.spaced seg isSeg i n q found after)
  rw [Node.getRight] at high
  simp only [DetailedOrient.widthFits, decide_eq_true_eq]
  omega

lemma widthFits_mirror {seg : DetailedSeg} {i n : Nat} {orient : OrientType}
    (fits : o.widthFits nodes seg i (nodes n)) :
    o.widthFits (update nodes n ((nodes n).mirrorY orient)) seg i
      ((nodes n).mirrorY orient) := by
  have same : ∀ c, (update nodes n ((nodes n).mirrorY orient) c).getRight =
        (nodes c).getRight ∧
      (update nodes n ((nodes n).mirrorY orient) c).left = (nodes c).left := by
    intro c
    by_cases isCell : c = n
    · rw [isCell, update_self]
      exact ⟨rfl, rfl⟩
    · rw [update_of_ne isCell]
      exact ⟨rfl, rfl⟩
  simp only [DetailedOrient.widthFits, same] at fits ⊢
  exact fits

lemma mirror_back {node : Node} {o : OrientType} (isFlipped : node.orient.flipped = some o) :
    (node.mirrorY o).adjustCurrOrient node.orient = node := by
  rw [← adjustCurrOrient_flipped isFlipped, Node.adjustCurrOrient_adjustCurrOrient,
    Node.adjustCurrOrient_self]

lemma flipCell_cases {o : DetailedOrient} {s : FlipState} {visit : DetailedSeg × Nat}
    (placed : Placed o s.nodes) (sites : 0 ≤ o.arch.site_width) (isSeg : visit.1 ∈ o.segments) :
    (o.flipCell s visit = s ∧ ∀ n orient, ¬ Flips o s.nodes visit n orient) ∨
      ∃ n orient, Flips o s.nodes visit n orient ∧ o.flipCell s visit =
          ⟨update s.nodes n ((s.nodes n).flippedBy orient), n :: s.flipped⟩ := by
  rcases visit with ⟨seg, i⟩
  rw [DetailedOrient.flipCell]
  simp only
  split
  · rename_i none
    refine .inl ⟨rfl, fun n orient flips => ?_⟩
    have found := flips.found
    simp only [none] at found
    cases found
  · rename_i n found
    have unique : ∀ m orient, Flips o s.nodes (seg, i) m orient → m = n := by
      intro m orient flips
      exact Option.some.inj (flips.found.symm.trans found)
    split
    · rename_i tall
      refine .inl ⟨rfl, fun m orient flips => ?_⟩
      cases unique m orient flips
      exact tall flips.single
    · rename_i single
      split
      · rename_i longer
        refine .inl ⟨rfl, fun m orient flips => ?_⟩
        cases unique m orient flips
        exact absurd flips.shorter (by omega)
      · rename_i shorter
        split
        · rename_i tight
          refine .inl ⟨rfl, fun m orient flips => ?_⟩
          cases unique m orient flips
          exact tight flips.fits
        · rename_i fits
          split
          · rename_i turned
            refine .inl ⟨rfl, fun m orient flips => ?_⟩
            cases unique m orient flips
            exact absurd (turned.symm.trans flips.isFlipped) (by simp)
          · rename_i orient isFlipped
            have mirrored := adjustCurrOrient_flipped isFlipped
            simp only [FlipState.setNode, mirrored, update_self]
            split
            · rename_i dirty
              refine .inl ⟨?_, fun m other flips => ?_⟩
              · rw [mirror_back isFlipped, update_idem, update_eq_self]
              · cases unique m other flips
                have sameOrient := Option.some.inj (isFlipped.symm.trans flips.isFlipped)
                rw [sameOrient] at dirty
                exact dirty flips.clean
            · rename_i clean
              have width := @widthFits_mirror _ _ _ _ _ orient
                (widthFits_of_legal placed sites isSeg found)
              rw [if_neg (not_not.mpr width), update_idem]
              refine .inr ⟨n, orient, ⟨found, ?_, by omega, ?_, isFlipped, ?_⟩, rfl⟩
              · exact not_not.mp single
              · exact not_not.mp fits
              · exact not_not.mp clean

@[simp] lemma flippedBy_left (node : Node) (o : OrientType) :
    (node.flippedBy o).left = node.left := rfl

@[simp] lemma flippedBy_getRight (node : Node) (o : OrientType) :
    (node.flippedBy o).getRight = node.getRight := rfl

@[simp] lemma flippedBy_padLeft (node : Node) (o : OrientType) :
    (node.flippedBy o).padLeft = node.padLeft := rfl

@[simp] lemma flippedBy_padRight (node : Node) (o : OrientType) :
    (node.flippedBy o).padRight = node.padLeft := rfl

lemma isSingleHeightCell_flippedBy (o : DetailedOrient) (node : Node) (orient : OrientType) :
    o.isSingleHeightCell (node.flippedBy orient) = o.isSingleHeightCell node := rfl

lemma room_after {seg : DetailedSeg} {i n b : Nat} (fits : o.padsFit nodes seg i (nodes n))
    (isAfter : (o.cellsInSeg seg.segId)[i + 1]? = some b) :
    (nodes n).getRight + ((nodes n).padLeft + (nodes b).padLeft) * o.arch.site_width ≤
      (nodes b).left := by
  simp only [DetailedOrient.padsFit, cellAfter, isAfter, Option.elim_some,
    Architecture.getCellPadding, decide_eq_true_eq] at fits
  rw [add_mul]
  omega

lemma flip_placed {visit : DetailedSeg × Nat} {n : Nat} {orient : OrientType}
    (placed : Placed o nodes) (flips : Flips o nodes visit n orient)
    (only : ∀ seg ∈ o.segments, ∀ j : Nat, (o.cellsInSeg seg.segId)[j]? = some n →
      seg = visit.1 ∧ j = visit.2) :
    Placed o (update nodes n ((nodes n).flippedBy orient)) := by
  have sides : ∀ c, (update nodes n ((nodes n).flippedBy orient) c).left = (nodes c).left ∧
      (update nodes n ((nodes n).flippedBy orient) c).getRight = (nodes c).getRight ∧
      (update nodes n ((nodes n).flippedBy orient) c).padLeft = (nodes c).padLeft := by
    intro c
    by_cases isCell : c = n
    · simp [isCell]
    · simp [update_of_ne isCell]
  constructor
  · intro c
    by_cases isCell : c = n
    · rw [isCell, update_self]
      exact ⟨(placed.paddings n).1, (placed.paddings n).1⟩
    · rw [update_of_ne isCell]
      exact placed.paddings c
  · intro seg isSeg j a b first second
    rw [Apart, (sides a).2.1, (sides b).1, (sides b).2.2]
    by_cases isCell : a = n
    · rw [isCell] at first ⊢
      rcases only seg isSeg j first with ⟨rfl, rfl⟩
      rw [update_self, flippedBy_padRight]
      exact room_after flips.fits second
    · rw [update_of_ne isCell]
      exact placed.spaced seg isSeg j a b first second
  · intro seg isSeg c member
    rw [(sides c).1, (sides c).2.1]
    exact placed.inside seg isSeg c member

lemma oldHpwl_flip (o : DetailedOrient) (nodes : Nat → Node) (n : Nat) (orient : OrientType) :
    o.oldHpwl (update nodes n ((nodes n).flippedBy orient)) n = o.newHpwl nodes n := by
  have places : twiceX (update nodes n ((nodes n).flippedBy orient)) =
      twiceFlippedX nodes n := by
    funext pin
    exact @twiceX_flipped nodes n ((nodes n).flippedBy orient) orient rfl rfl rfl pin
  have nets : o.network.countedNets ((nodes n).flippedBy orient) =
      o.network.countedNets (nodes n) := countedNets_pins o.network (flipX_edges _)
  rw [DetailedOrient.oldHpwl, update_self, nets, places, DetailedOrient.newHpwl]

/-- After some of the places: which cells are as they were, and how the others are. -/
structure Followed (o : DetailedOrient) (nodes : Nat → Node) (front : List (DetailedSeg × Nat))
    (s : FlipState) : Prop where
  placed : Placed o s.nodes
  flipped : ∀ c ∈ s.flipped, ∃ orient, (nodes c).orient.flipped = some orient ∧
    s.nodes c = (nodes c).flippedBy orient
  kept : ∀ c, c ∉ s.flipped → s.nodes c = nodes c
  visited : ∀ c ∈ s.flipped, o.isSingleHeightCell (nodes c) ∧
    ∃ visit ∈ front, (o.cellsInSeg visit.1.segId)[visit.2]? = some c

variable {front : List (DetailedSeg × Nat)} {s : FlipState}

lemma Followed.isSingle (followed : Followed o nodes front s) (c : Nat) :
    o.isSingleHeightCell (s.nodes c) = o.isSingleHeightCell (nodes c) := by
  by_cases isFlipped : c ∈ s.flipped
  · rcases followed.flipped c isFlipped with ⟨orient, _, isNode⟩
    rw [isNode, isSingleHeightCell_flippedBy]
  · rw [followed.kept c isFlipped]

lemma Followed.fresh {visit : DetailedSeg × Nat} {n : Nat} {orient : OrientType}
    (followed : Followed o nodes front s) (legal : Legal o nodes)
    (isFront : front ++ [visit] <+: o.visits) (flips : Flips o s.nodes visit n orient) :
    n ∉ s.flipped := by
  intro isFlipped
  rcases followed.visited n isFlipped with ⟨single, earlier, member, found⟩
  have isSeg : ∀ other ∈ front ++ [visit], other.1 ∈ o.segments :=
    fun other isOther => mem_visits (isFront.subset isOther)
  have same := legal.once visit.1 (isSeg visit (by simp)) earlier.1 (isSeg earlier (by simp [member]))
    visit.2 earlier.2 n single flips.found found
  have nodup := (visits_nodup legal.segments).sublist isFront.sublist
  rw [nodup_append] at nodup
  exact nodup.2.2 earlier member visit (mem_singleton_self visit)
    (Prod.ext same.1.symm same.2.symm)

lemma followed_start (legal : Legal o nodes) :
    Followed o nodes [] ⟨nodes, []⟩ := by
  refine ⟨legal.toPlaced, ?_, fun c _ => rfl, ?_⟩
  · intro c isFlipped
    cases isFlipped
  · intro c isFlipped
    cases isFlipped

lemma Followed.step {visit : DetailedSeg × Nat} (followed : Followed o nodes front s)
    (legal : Legal o nodes) (isFront : front ++ [visit] <+: o.visits) :
    Followed o nodes (front ++ [visit]) (o.flipCell s visit) := by
  have isVisit : visit ∈ o.visits := isFront.subset (by simp)
  have isSeg : visit.1 ∈ o.segments := mem_visits isVisit
  have later : ∀ c ∈ s.flipped, o.isSingleHeightCell (nodes c) ∧
      ∃ other ∈ front ++ [visit], (o.cellsInSeg other.1.segId)[other.2]? = some c := by
    intro c isFlipped
    rcases followed.visited c isFlipped with ⟨single, other, member, found⟩
    exact ⟨single, other, mem_append_left _ member, found⟩
  rcases flipCell_cases followed.placed legal.sites isSeg with ⟨same, _⟩ | ⟨n, orient, flips, isStep⟩
  · rw [same]
    exact ⟨followed.placed, followed.flipped, followed.kept, later⟩
  · have fresh := followed.fresh legal isFront flips
    have was := followed.kept n fresh
    have single : o.isSingleHeightCell (nodes n) := by
      rw [← followed.isSingle]
      exact flips.single
    rw [isStep]
    constructor
    · apply flip_placed followed.placed flips
      intro seg other j found
      exact legal.once seg other visit.1 isSeg j visit.2 n single found flips.found
    · intro c isFlipped
      simp only
      rcases mem_cons.mp isFlipped with rfl | before
      · rw [update_self, was]
        exact ⟨orient, was ▸ flips.isFlipped, rfl⟩
      · have differ : c ≠ n := fun same => fresh (same ▸ before)
        rw [update_of_ne differ]
        exact followed.flipped c before
    · intro c untouched
      simp only [mem_cons, not_or] at untouched ⊢
      rw [update_of_ne untouched.1]
      exact followed.kept c untouched.2
    · intro c isFlipped
      rcases mem_cons.mp isFlipped with rfl | before
      · exact ⟨single, visit, by simp, flips.found⟩
      · exact later c before

lemma followed_run (legal : Legal o nodes) (front : List (DetailedSeg × Nat))
    (isFront : front <+: o.visits) :
    Followed o nodes front (run o.flipCell ⟨nodes, []⟩ front) := by
  induction front using reverseRecOn with
  | nil => exact followed_start legal
  | append_singleton front visit ih =>
    rw [run_concat]
    exact (ih ((prefix_append front [visit]).trans isFront)).step legal isFront

lemma flipCell_flipped (o : DetailedOrient) (s : FlipState) (visit : DetailedSeg × Nat) {c : Nat}
    (isFlipped : c ∈ s.flipped) : c ∈ (o.flipCell s visit).flipped := by
  rw [DetailedOrient.flipCell]
  simp only
  repeat' split
  all_goals first | exact isFlipped | exact mem_cons_of_mem _ isFlipped

lemma run_flipped (o : DetailedOrient) (visits : List (DetailedSeg × Nat)) (s : FlipState) {c : Nat}
    (isFlipped : c ∈ s.flipped) : c ∈ (run o.flipCell s visits).flipped := by
  induction visits generalizing s with
  | nil => exact isFlipped
  | cons visit visits ih => exact ih _ (flipCell_flipped o s visit isFlipped)

def FlipsEven (o : DetailedOrient) (s : FlipState) (visit : DetailedSeg × Nat) : Prop :=
  ∀ n orient, Flips o s.nodes visit n orient → (s.nodes n).padLeft = (s.nodes n).padRight

lemma flipped_even (legal : Legal o nodes)
    (each : EachCall o.flipCell (FlipsEven o) ⟨nodes, []⟩ o.visits)
    (front : List (DetailedSeg × Nat)) (isFront : front <+: o.visits) :
    ∀ c ∈ (run o.flipCell ⟨nodes, []⟩ front).flipped, (nodes c).padLeft = (nodes c).padRight := by
  induction front using reverseRecOn with
  | nil =>
    intro c isFlipped
    cases isFlipped
  | append_singleton front visit ih =>
    have before := (prefix_append front [visit]).trans isFront
    have followed := followed_run legal front before
    have isVisit : visit ∈ o.visits := isFront.subset (by simp)
    rw [run_concat]
    rcases flipCell_cases followed.placed legal.sites (mem_visits isVisit) with
      ⟨same, _⟩ | ⟨n, orient, flips, isStep⟩
    · rw [same]
      exact ih before
    · rw [isStep]
      intro c isFlipped
      rcases mem_cons.mp isFlipped with rfl | earlier
      · rw [← followed.kept c (followed.fresh legal isFront flips)]
        exact each front visit isFront c orient flips
      · exact ih before c earlier

def Shortens (o : DetailedOrient) (s : FlipState) (visit : DetailedSeg × Nat) : Prop :=
  ∀ n, (o.flipCell s visit).flipped = n :: s.flipped →
    o.oldHpwl (o.flipCell s visit).nodes n < o.oldHpwl s.nodes n

lemma flipCell_shortens {o : DetailedOrient} {s : FlipState} {visit : DetailedSeg × Nat}
    (placed : Placed o s.nodes) (sites : 0 ≤ o.arch.site_width) (isSeg : visit.1 ∈ o.segments) :
    Shortens o s visit := by
  intro n isFlip
  rcases flipCell_cases placed sites isSeg with ⟨same, _⟩ | ⟨m, orient, flips, isStep⟩
  · rw [same] at isFlip
    exact absurd isFlip (cons_ne_self n s.flipped).symm
  · rw [isStep] at isFlip ⊢
    cases (List.cons.inj isFlip).1
    calc o.oldHpwl (update s.nodes n ((s.nodes n).flippedBy orient)) n
        = o.newHpwl s.nodes n := oldHpwl_flip o s.nodes n orient
      _ < o.oldHpwl s.nodes n := flips.shorter

/-- Everything about a flipped cell is mirrored, and the others are left alone. -/
structure FlipsMirror (o : DetailedOrient) (nodes : Nat → Node) : Prop where
  mirrored : ∀ c ∈ (o.flipCells nodes).flipped,
    ((o.flipCells nodes).nodes c).pins = (nodes c).pins.map Pin.flipX ∧
    ((o.flipCells nodes).nodes c).padLeft = (nodes c).padRight ∧
    ((o.flipCells nodes).nodes c).padRight = (nodes c).padLeft ∧
    ∀ offset, reorient (nodes c).orient ((o.flipCells nodes).nodes c).orient offset =
      (-offset.1, offset.2)
  kept : ∀ c, c ∉ (o.flipCells nodes).flipped →
    ((o.flipCells nodes).nodes c).orient = (nodes c).orient ∧
    ((o.flipCells nodes).nodes c).padLeft = (nodes c).padLeft ∧
    ((o.flipCells nodes).nodes c).padRight = (nodes c).padRight
  spaced : ∀ seg ∈ o.segments, Spaced o (o.flipCells nodes).nodes seg
  shortens : EachCall o.flipCell (Shortens o) ⟨nodes, []⟩ o.visits

/-- Paddings are not exchanged but made equal. -/
theorem flips_mirror_iff {o : DetailedOrient} {nodes : Nat → Node} (legal : Legal o nodes) :
    FlipsMirror o nodes ↔ EachCall o.flipCell (FlipsEven o) ⟨nodes, []⟩ o.visits := by
  have whole := followed_run legal o.visits (prefix_refl o.visits)
  constructor
  · intro mirror front visit isFront n orient flips
    have before := (prefix_append front [visit]).trans isFront
    have followed := followed_run legal front before
    have fresh := followed.fresh legal isFront flips
    have isVisit : visit ∈ o.visits := isFront.subset (by simp)
    have flippedHere : n ∈ (run o.flipCell ⟨nodes, []⟩ (front ++ [visit])).flipped := by
      rw [run_concat]
      rcases flipCell_cases followed.placed legal.sites (mem_visits isVisit) with
        ⟨_, never⟩ | ⟨m, other, flips', isStep⟩
      · exact absurd flips (never n orient)
      · have same := Option.some.inj (flips.found.symm.trans flips'.found)
        rw [isStep, same]
        exact mem_cons_self
    have flippedEnd : n ∈ (o.flipCells nodes).flipped := by
      rcases isFront with ⟨rest, isWhole⟩
      rw [DetailedOrient.flipCells, ← isWhole, run, foldl_append]
      exact run_flipped o rest _ flippedHere
    rcases whole.flipped n flippedEnd with ⟨final, _, isNode⟩
    have exchanged := (mirror.mirrored n flippedEnd).2.1
    have isNode' : (o.flipCells nodes).nodes n = (nodes n).flippedBy final := isNode
    rw [followed.kept n fresh]
    rw [isNode'] at exchanged
    exact exchanged
  · intro each
    have even := flipped_even legal each o.visits (prefix_refl o.visits)
    constructor
    · intro c isFlipped
      rcases whole.flipped c isFlipped with ⟨orient, isOrient, isNode⟩
      have isNode' : (o.flipCells nodes).nodes c = (nodes c).flippedBy orient := isNode
      rw [isNode']
      exact ⟨rfl, even c isFlipped, rfl, flipped_mirrors isOrient⟩
    · intro c untouched
      have isNode : (o.flipCells nodes).nodes c = nodes c := whole.kept c untouched
      rw [isNode]
      exact ⟨rfl, rfl, rfl⟩
    · exact whole.placed.spaced
    · intro front visit isFront
      have followed := followed_run legal front ((prefix_append front [visit]).trans isFront)
      have isVisit : visit ∈ o.visits := isFront.subset (by simp)
      exact flipCell_shortens followed.placed legal.sites (mem_visits isVisit)

/-- One row; no rule of the technology applies to cells that far from each other. -/
def flipSample : DetailedOrient where
  arch := ⟨[⟨0, 0, 10, 1, 100⟩], [], 0, 100, 0, 10, true, 1⟩
  network := ⟨2, [[(0, 0), (1, 0)]]⟩
  segments := [⟨0, 0, -1, 0, 100⟩]
  cellsInSeg := fun seg => if seg = 0 then [1, 0] else []
  symmetryY := fun _ => true
  checkDRC := fun _ _ => true

def flipNodes (padLeft padRight : Int) : Nat → Node := fun n =>
  if n = 0 then
    { left := 20, bottom := 0, width := 4, height := 10, padLeft, padRight, pins := [⟨0, 2, 0⟩] }
  else { left := 0, bottom := 0, width := 4, height := 10, pins := [⟨0, 0, 0⟩] }

lemma flipSample_legal : Legal flipSample (flipNodes 1 3) where
  paddings := by
    intro n
    by_cases isCell : n = 0 <;> simp [flipNodes, isCell]
  spaced := by
    intro seg isSeg i a b first second
    cases mem_singleton.mp isSeg
    rcases i with _ | _ | i
    · cases first
      cases second
      rw [Apart]
      decide
    · cases second
    · cases second
  inside := by
    intro seg isSeg n member
    cases mem_singleton.mp isSeg
    rcases mem_pair.mp member with rfl | rfl <;> decide
  sites := by decide
  segments := nodup_singleton _
  once := by
    intro seg isSeg seg' isSeg' i j n _ first second
    cases mem_singleton.mp isSeg
    cases mem_singleton.mp isSeg'
    refine ⟨rfl, ?_⟩
    have nodup : [1, 0].Nodup := by decide
    have inside := (List.getElem?_eq_some_iff.mp first).1
    exact (getElem?_inj inside nodup).mp (first.trans second.symm)

/-- The cell with paddings 1 and 3 has 1 and 1 after its flip. -/
theorem padding_not_exchanged : Legal flipSample (flipNodes 1 3) ∧
      (flipSample.flipCells (flipNodes 1 3)).flipped = [0] ∧
      ((flipSample.flipCells (flipNodes 1 3)).nodes 0).padLeft = 1 ∧
      ((flipSample.flipCells (flipNodes 1 3)).nodes 0).padRight = 1 ∧
      ¬ FlipsMirror flipSample (flipNodes 1 3) := by
  have isFlipped : (flipSample.flipCells (flipNodes 1 3)).flipped = [0] := by decide
  have left : ((flipSample.flipCells (flipNodes 1 3)).nodes 0).padLeft = 1 := by decide
  refine ⟨flipSample_legal, isFlipped, left, by decide, ?_⟩
  intro mirror
  have exchanged := (mirror.mirrored 0 (isFlipped ▸ mem_singleton_self 0)).2.1
  rw [left] at exchanged
  exact absurd exchanged (by decide)

theorem flips_mirror_sample : FlipsMirror flipSample (flipNodes 1 3) ↔
      EachCall flipSample.flipCell (FlipsEven flipSample) ⟨flipNodes 1 3, []⟩ flipSample.visits :=
  flips_mirror_iff flipSample_legal

end OpenRoad.Dpl
