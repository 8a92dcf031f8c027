import OpenRoad.Dpl.Objectives
import OpenRoad.Lib.Median

/-! Vertical swaps aim a cell at the box between the medians of its nets. -/

namespace OpenRoad.Dpl

open OpenRoad.Lib List Function

def pinsBox (nodes : Nat → Node) (pins : List (Nat × Nat)) : Rect :=
  pins.foldl (fun bbox pin => bbox.merge (pinPoint nodes pin).1 (pinPoint nodes pin).2)
    Rect.mergeInit

lemma hpwl_eq (nodes : Nat → Node) (pins : List (Nat × Nat)) :
    hpwl nodes pins = ((pinsBox nodes pins).xMax - (pinsBox nodes pins).xMin) +
      ((pinsBox nodes pins).yMax - (pinsBox nodes pins).yMin) := rfl

lemma merge_right_comm (rect : Rect) (x y x' y' : Int) :
    (rect.merge x y).merge x' y' = (rect.merge x' y').merge x y := by
  simp only [Rect.merge, Rect.mk.injEq]
  exact ⟨min_right_comm _ _ _, min_right_comm _ _ _, max_right_comm _ _ _, max_right_comm _ _ _⟩

variable {pins : List (Nat × Nat)}

lemma pinsBox_perm {nodes : Nat → Node} {pins' : List (Nat × Nat)} (perm : pins.Perm pins') :
    pinsBox nodes pins = pinsBox nodes pins' :=
  perm.foldl_eq' (fun _ _ _ _ _ => merge_right_comm _ _ _ _ _) _

lemma pinsBox_concat (nodes : Nat → Node) (pins : List (Nat × Nat)) (pin : Nat × Nat) :
    pinsBox nodes (pins ++ [pin]) =
      (pinsBox nodes pins).merge (pinPoint nodes pin).1 (pinPoint nodes pin).2 := by
  rw [pinsBox, foldl_append]
  rfl

lemma pinsBox_congr {nodes nodes' : Nat → Node} (same : ∀ pin ∈ pins, nodes pin.1 = nodes' pin.1) :
    pinsBox nodes pins = pinsBox nodes' pins := by
  apply foldl_ext
  intro bbox pin member
  rw [pinPoint, pinPoint, same pin member]

lemma pinsBox_ordered (nodes : Nat → Node) (nonempty : pins ≠ []) :
    (pinsBox nodes pins).xMin ≤ (pinsBox nodes pins).xMax ∧
      (pinsBox nodes pins).yMin ≤ (pinsBox nodes pins).yMax := by
  rcases eq_nil_or_concat pins with empty | ⟨front, pin, rfl⟩
  · exact absurd empty nonempty
  · rw [concat_eq_append, pinsBox_concat]
    exact ⟨(min_le_right _ _).trans (le_max_right _ _), (min_le_right _ _).trans (le_max_right _ _)⟩

namespace DetailedVerticalSwap

structure ArchBounds where
  minX : Int
  maxX : Int
  minY : Int
  maxY : Int
deriving DecidableEq

def skipNetsLargerThanThis : Nat := 100

/-- The box of the pins of a net on other cells than `nd`, and if there are any. -/
def calculateEdgeBB (network : Network) (nodes : Nat → Node) (ed nd : Nat) : Bool × Rect :=
  let others := (network.getEdge ed).filter fun pin => pin.1 ≠ nd
  (others.length ≠ 0, pinsBox nodes others)

/-- A box for the pin as a box for the centre of the cell, inside the bounds. -/
def ArchBounds.clamp (arch : ArchBounds) (pin : Pin) (nodeBbox : Rect) : Rect where
  xMin := min (max arch.minX (nodeBbox.xMin - pin.offsetX)) arch.maxX
  xMax := max (min arch.maxX (nodeBbox.xMax - pin.offsetX)) arch.minX
  yMin := min (max arch.minY (nodeBbox.yMin - pin.offsetY)) arch.maxY
  yMax := max (min arch.maxY (nodeBbox.yMax - pin.offsetY)) arch.minY

/-- What a pin of the cell adds to the points, if its net is not skipped. -/
def pinBox (network : Network) (nodes : Nat → Node) (arch : ArchBounds) (nd : Nat) (pin : Pin) :
    Option Rect :=
  let numPins := (network.getEdge pin.edge).length
  if numPins ≤ 1 then none
  else if numPins > skipNetsLargerThanThis then none
  else
    match calculateEdgeBB network nodes pin.edge nd with
    | (false, _) => none
    | (true, nodeBbox) => some (arch.clamp pin nodeBbox)

def getRange (network : Network) (nodes : Nat → Node) (arch : ArchBounds) (nd : Nat) :
    Option Rect :=
  let boxes := (nodes nd).pins.filterMap (pinBox network nodes arch nd)
  let xpts := (boxes.flatMap fun nodeBbox => [nodeBbox.xMin, nodeBbox.xMax]).insertionSort (· ≤ ·)
  let ypts := (boxes.flatMap fun nodeBbox => [nodeBbox.yMin, nodeBbox.yMax]).insertionSort (· ≤ ·)
  let t := boxes.length * 2
  if t ≤ 1 then none
  else
    let mid := t / 2
    some ⟨xpts.getD (mid - 1) 0, ypts.getD (mid - 1) 0, xpts.getD mid 0, ypts.getD mid 0⟩

def Counts (network : Network) (ed : Nat) : Bool :=
  1 < (network.getEdge ed).length ∧ (network.getEdge ed).length ≤ skipNetsLargerThanThis

def centred (node : Node) (x y : Int) : Node :=
  { node with left := x - node.width.tdiv 2, bottom := y - node.height.tdiv 2 }

def netsOf (network : Network) (nd : Nat) : List Nat :=
  (List.range network.edges.length).filter fun ed =>
    Counts network ed ∧ ∃ pin ∈ network.getEdge ed, pin.1 = nd

def wireLength (network : Network) (nodes : Nat → Node) (nd : Nat) (x y : Int) : Int :=
  ((netsOf network nd).map (network.edgeHpwl (update nodes nd (centred (nodes nd) x y)))).sum

/-- The pins of the cells and of the nets are the same ones. -/
structure Linked (network : Network) (nodes : Nat → Node) : Prop where
  listed : ∀ n i pin, (nodes n).pins[i]? = some pin → (n, i) ∈ network.getEdge pin.edge
  owned : ∀ ed, ∀ place ∈ network.getEdge ed,
    ∃ pin, (nodes place.1).pins[place.2]? = some pin ∧ pin.edge = ed
  nodup : ∀ ed, (network.getEdge ed).Nodup

def SinglePins (network : Network) (nd : Nat) : Prop :=
  ∀ ed, Counts network ed → ((network.getEdge ed).filter fun pin => pin.1 = nd).length ≤ 1

def ArchBounds.Holds (arch : ArchBounds) (x y : Int) : Prop :=
  (arch.minX ≤ x ∧ x ≤ arch.maxX) ∧ (arch.minY ≤ y ∧ y ≤ arch.maxY)

variable {network : Network} {nodes : Nat → Node} {arch : ArchBounds} {nd : Nat}

def others (network : Network) (ed nd : Nat) : List (Nat × Nat) :=
  (network.getEdge ed).filter fun pin => pin.1 ≠ nd

variable {i : Nat} {pin : Pin}

lemma own_pin (linked : Linked network nodes) (single : SinglePins network nd)
    (there : (nodes nd).pins[i]? = some pin) (counts : Counts network pin.edge) :
    (network.getEdge pin.edge).Perm (others network pin.edge nd ++ [(nd, i)]) := by
  have own : ((network.getEdge pin.edge).filter fun place => place.1 = nd) = [(nd, i)] := by
    have member : (nd, i) ∈ (network.getEdge pin.edge).filter fun place => place.1 = nd :=
      mem_filter.mpr ⟨linked.listed nd i pin there, by simp⟩
    have few := single pin.edge counts
    rcases length_eq_one_iff.mp (le_antisymm few (length_pos_of_mem member)) with
      ⟨place, only⟩
    rw [only] at member ⊢
    rw [mem_singleton.mp member]
  have parts := filter_append_perm (fun place : Nat × Nat => decide (place.1 = nd))
    (network.getEdge pin.edge)
  rw [own] at parts
  have swapped : ([(nd, i)] ++ others network pin.edge nd).Perm _ := perm_append_comm
  refine parts.symm.trans ?_
  simpa only [others, ne_eq, decide_not] using swapped

lemma others_ne_nil (linked : Linked network nodes) (single : SinglePins network nd)
    (there : (nodes nd).pins[i]? = some pin) (counts : Counts network pin.edge) :
    others network pin.edge nd ≠ [] := by
  intro none
  have lengths := (own_pin linked single there counts).length_eq
  have two : 1 < (network.getEdge pin.edge).length := (of_decide_eq_true counts).1
  rw [none] at lengths
  simp only [nil_append, length_singleton] at lengths
  omega

lemma edgeHpwl_centred (linked : Linked network nodes) (single : SinglePins network nd)
    (there : (nodes nd).pins[i]? = some pin) (counts : Counts network pin.edge) (x y : Int) :
    network.edgeHpwl (update nodes nd (centred (nodes nd) x y)) pin.edge =
      (max (pinsBox nodes (others network pin.edge nd)).xMax (x + pin.offsetX) -
        min (pinsBox nodes (others network pin.edge nd)).xMin (x + pin.offsetX)) +
      (max (pinsBox nodes (others network pin.edge nd)).yMax (y + pin.offsetY) -
        min (pinsBox nodes (others network pin.edge nd)).yMin (y + pin.offsetY)) := by
  have unmoved : pinsBox (update nodes nd (centred (nodes nd) x y))
      (others network pin.edge nd) = pinsBox nodes (others network pin.edge nd) := by
    apply pinsBox_congr
    intro place member
    have other : place.1 ≠ nd := of_decide_eq_true (mem_filter.mp member).2
    exact update_of_ne other _ _
  have point : pinPoint (update nodes nd (centred (nodes nd) x y)) (nd, i) =
      (x + pin.offsetX, y + pin.offsetY) := by
    simp only [pinPoint, update_self, centred, there, Node.getCenterX, Node.getCenterY,
      Int.sub_add_cancel]
  rw [Network.edgeHpwl, hpwl_eq, pinsBox_perm (own_pin linked single there counts), pinsBox_concat,
    unmoved, point]
  rfl

section Clamped

variable {low high offset lo hi x : Int}

lemma reach_split (ordered : low ≤ high) (place : Int) :
    max high place - min low place = (high - low) + max 0 (low - place) + max 0 (place - high) := by
  omega

lemma clamp_ordered (ordered : low ≤ high) (bounds : lo ≤ hi) :
    min (max lo (low - offset)) hi ≤ max (min hi (high - offset)) lo := by
  omega

lemma below_clamp (above : lo ≤ x) (below : x ≤ hi) : max 0 (low - (x + offset)) =
      max 0 (low - offset - hi) + max 0 (min (max lo (low - offset)) hi - x) := by
  omega

lemma above_clamp (above : lo ≤ x) (below : x ≤ hi) : max 0 (x + offset - high) =
      max 0 (lo - (high - offset)) + max 0 (x - max (min hi (high - offset)) lo) := by
  omega

lemma abs_add_abs {l h : Int} (ordered : l ≤ h) (x : Int) :
    |x - l| + |x - h| = (h - l) + 2 * max 0 (l - x) + 2 * max 0 (x - h) := by
  rcases abs_cases (x - l) with ⟨first, _⟩ | ⟨first, _⟩ <;>
    rcases abs_cases (x - h) with ⟨second, _⟩ | ⟨second, _⟩ <;> omega

def constantPart (low high offset lo hi : Int) : Int :=
  2 * (high - low) + 2 * max 0 (low - offset - hi) + 2 * max 0 (lo - (high - offset)) -
    (max (min hi (high - offset)) lo - min (max lo (low - offset)) hi)

lemma twice_reach (ordered : low ≤ high) (above : lo ≤ x) (below : x ≤ hi) :
    2 * (max high (x + offset) - min low (x + offset)) =
      (|x - min (max lo (low - offset)) hi| + |x - max (min hi (high - offset)) lo|) +
        constantPart low high offset lo hi := by
  have clamped : min (max lo (low - offset)) hi ≤ max (min hi (high - offset)) lo :=
    clamp_ordered ordered (above.trans below)
  rw [reach_split ordered, below_clamp above below, above_clamp above below,
    abs_add_abs clamped, constantPart]
  ring

end Clamped

def countedPins (network : Network) (nodes : Nat → Node) (nd : Nat) : List Pin :=
  (nodes nd).pins.filter fun pin => Counts network pin.edge

def clampedBox (network : Network) (nodes : Nat → Node) (arch : ArchBounds) (nd : Nat)
    (pin : Pin) : Rect :=
  arch.clamp pin (pinsBox nodes (others network pin.edge nd))

lemma mem_countedPins {pin : Pin} (member : pin ∈ countedPins network nodes nd) :
    (∃ i : Nat, (nodes nd).pins[i]? = some pin) ∧ Counts network pin.edge := by
  rcases mem_filter.mp member with ⟨there, counts⟩
  exact ⟨mem_iff_getElem?.mp there, counts⟩

lemma pinBox_eq (linked : Linked network nodes) (single : SinglePins network nd) {pin : Pin}
    (there : pin ∈ (nodes nd).pins) :
    pinBox network nodes arch nd pin =
      if Counts network pin.edge then some (clampedBox network nodes arch nd pin) else none := by
  rcases mem_iff_getElem?.mp there with ⟨i, found⟩
  by_cases counts : Counts network pin.edge = true
  · have sizes : 1 < (network.getEdge pin.edge).length ∧
        (network.getEdge pin.edge).length ≤ skipNetsLargerThanThis := of_decide_eq_true counts
    have nonempty : decide ((others network pin.edge nd).length ≠ 0) = true :=
      decide_eq_true (length_pos_iff.mpr (others_ne_nil linked single found counts)).ne'
    rw [if_pos counts, pinBox, if_neg (not_le.mpr sizes.1), if_neg (not_lt.mpr sizes.2),
      calculateEdgeBB]
    change (match (decide ((others network pin.edge nd).length ≠ 0),
      pinsBox nodes (others network pin.edge nd)) with
      | (false, _) => none
      | (true, nodeBbox) => some (arch.clamp pin nodeBbox)) = _
    rw [nonempty]
    rfl
  · have skipped : ¬ (1 < (network.getEdge pin.edge).length ∧
        (network.getEdge pin.edge).length ≤ skipNetsLargerThanThis) := fun sizes =>
      counts (decide_eq_true sizes)
    rw [if_neg counts, pinBox]
    split
    · rfl
    · rename_i many
      rw [if_pos (by omega)]

lemma boxes_eq (linked : Linked network nodes) (single : SinglePins network nd) :
    (nodes nd).pins.filterMap (pinBox network nodes arch nd) =
      (countedPins network nodes nd).map (clampedBox network nodes arch nd) := by
  have each : ∀ pin ∈ (nodes nd).pins, pinBox network nodes arch nd pin =
      if Counts network pin.edge then some (clampedBox network nodes arch nd pin) else none :=
    fun pin there => pinBox_eq linked single there
  rw [countedPins]
  generalize (nodes nd).pins = pins at each
  induction pins with
  | nil => rfl
  | cons pin pins ih =>
    have rest := ih fun other member => each other (mem_cons_of_mem pin member)
    rw [filterMap_cons, each pin mem_cons_self, rest]
    by_cases counts : Counts network pin.edge = true
    · rw [if_pos counts, filter_cons, if_pos counts, map_cons]
    · rw [if_neg counts, filter_cons, if_neg counts]

lemma netsOf_perm (linked : Linked network nodes) (single : SinglePins network nd) :
    (netsOf network nd).Perm ((countedPins network nodes nd).map Pin.edge) := by
  have apart : (nodes nd).pins.Pairwise fun pin pin' =>
      Counts network pin.edge = true → pin.edge ≠ pin'.edge := by
    rw [pairwise_iff_getElem]
    intro i j early late before counts same
    have first := linked.listed nd i _ (getElem?_eq_getElem early)
    have second := linked.listed nd j _ (getElem?_eq_getElem late)
    rw [← same] at second
    have both := (own_pin linked single (getElem?_eq_getElem early) counts).mem_iff.mp second
    rcases mem_append.mp both with elsewhere | here
    · have other : (nd, j).1 ≠ nd := of_decide_eq_true (mem_filter.mp elsewhere).2
      exact other rfl
    · have equal := mem_singleton.mp here
      have places : j = i := congrArg Prod.snd equal
      omega
  have nodup : ((countedPins network nodes nd).map Pin.edge).Nodup := by
    rw [Nodup, pairwise_map]
    refine (apart.sublist filter_sublist).imp_of_mem ?_
    intro pin pin' member _ differ
    exact differ (mem_filter.mp member).2
  rw [netsOf, perm_ext_iff_of_nodup (nodup_range.filter _) nodup]
  intro ed
  rw [mem_filter, mem_range, mem_map, decide_eq_true_eq]
  constructor
  · intro inside
    rcases inside with ⟨_, counts, ⟨n, i⟩, member, rfl⟩
    rcases linked.owned ed _ member with ⟨pin, there, rfl⟩
    exact ⟨pin, mem_filter.mpr ⟨mem_of_getElem? there, counts⟩, rfl⟩
  · intro inside
    rcases inside with ⟨pin, member, rfl⟩
    rcases mem_countedPins member with ⟨⟨i, there⟩, counts⟩
    have listed := linked.listed nd i pin there
    refine ⟨?_, counts, ⟨_, listed, rfl⟩⟩
    by_contra beyond
    have empty : network.getEdge pin.edge = [] := by
      rw [Network.getEdge, getD_eq_getElem?_getD,
        getElem?_eq_none (not_lt.mp beyond), Option.getD_none]
    rw [empty] at listed
    cases listed

lemma spread_ends (boxes : List Rect) (low high : Rect → Int) (x : Int) :
    spread (boxes.flatMap fun box => [low box, high box]) x =
      (boxes.map fun box => |x - low box| + |x - high box|).sum := by
  induction boxes with
  | nil => rfl
  | cons box boxes ih =>
    rw [flatMap_cons, spread_append, ih, map_cons, sum_cons, spread_cons,
      spread_cons, spread_nil, add_zero]

/-- What of the length of the nets does not depend on the place of the cell. -/
def constantLength (network : Network) (nodes : Nat → Node) (arch : ArchBounds) (nd : Nat)
    (pin : Pin) : Int :=
  let box := pinsBox nodes (others network pin.edge nd)
  constantPart box.xMin box.xMax pin.offsetX arch.minX arch.maxX +
    constantPart box.yMin box.yMax pin.offsetY arch.minY arch.maxY

lemma twice_edgeHpwl (linked : Linked network nodes) (single : SinglePins network nd) {pin : Pin}
    (member : pin ∈ countedPins network nodes nd) {x y : Int} (inside : arch.Holds x y) :
    2 * network.edgeHpwl (update nodes nd (centred (nodes nd) x y)) pin.edge =
      (|x - (clampedBox network nodes arch nd pin).xMin| +
          |x - (clampedBox network nodes arch nd pin).xMax|) +
        (|y - (clampedBox network nodes arch nd pin).yMin| +
          |y - (clampedBox network nodes arch nd pin).yMax|) +
        constantLength network nodes arch nd pin := by
  rcases mem_countedPins member with ⟨⟨i, there⟩, counts⟩
  have ordered := pinsBox_ordered nodes (others_ne_nil linked single there counts)
  have across := @twice_reach _ _ pin.offsetX _ _ _ ordered.1 inside.1.1 inside.1.2
  have along := @twice_reach _ _ pin.offsetY _ _ _ ordered.2 inside.2.1 inside.2.2
  rw [edgeHpwl_centred linked single there counts, mul_add, across, along, constantLength]
  simp only [clampedBox, ArchBounds.clamp]
  ring

def rangeBoxes (network : Network) (nodes : Nat → Node) (arch : ArchBounds) (nd : Nat) :
    List Rect :=
  (countedPins network nodes nd).map (clampedBox network nodes arch nd)

def xPoints (boxes : List Rect) : List Int := boxes.flatMap fun box => [box.xMin, box.xMax]

def yPoints (boxes : List Rect) : List Int := boxes.flatMap fun box => [box.yMin, box.yMax]

lemma twice_wireLength (linked : Linked network nodes) (single : SinglePins network nd)
    {x y : Int} (inside : arch.Holds x y) :
    2 * wireLength network nodes nd x y = spread (xPoints (rangeBoxes network nodes arch nd)) x +
        spread (yPoints (rangeBoxes network nodes arch nd)) y +
        ((countedPins network nodes nd).map (constantLength network nodes arch nd)).sum := by
  have overPins : wireLength network nodes nd x y =
      ((countedPins network nodes nd).map fun pin => network.edgeHpwl
        (update nodes nd (centred (nodes nd) x y)) pin.edge).sum := by
    rw [wireLength, ((netsOf_perm linked single).map _).sum_eq, map_map]
    rfl
  rw [overPins, ← sum_map_mul_left,
    map_congr_left fun pin member => twice_edgeHpwl linked single member inside,
    sum_map_add, sum_map_add, xPoints, yPoints, spread_ends, spread_ends, rangeBoxes,
    map_map, map_map]
  rfl

lemma length_ends (boxes : List Rect) (low high : Rect → Int) :
    (boxes.flatMap fun box => [low box, high box]).length = boxes.length + boxes.length := by
  induction boxes with
  | nil => rfl
  | cons box boxes ih =>
    rw [flatMap_cons, length_append, ih]
    simp only [length_cons, length_nil]
    omega

lemma length_xPoints (boxes : List Rect) :
    (xPoints boxes).length = boxes.length + boxes.length := length_ends boxes _ _

lemma length_yPoints (boxes : List Rect) :
    (yPoints boxes).length = boxes.length + boxes.length := length_ends boxes _ _

lemma median_least {points : List Int} {half : Nat} (even : points.length = half + half)
    (pos : 0 < half) {x : Int} (above : (points.insertionSort (· ≤ ·)).getD (half - 1) 0 ≤ x)
    (below : x ≤ (points.insertionSort (· ≤ ·)).getD half 0) :
    (∀ y, spread points x ≤ spread points y) ∧
      (∃ low ∈ points, low ≤ x) ∧ ∃ high ∈ points, x ≤ high := by
  have perm : (points.insertionSort (· ≤ ·)).Perm points := perm_insertionSort _ _
  have size : (points.insertionSort (· ≤ ·)).length = half + half := by
    rw [perm.length_eq, even]
  have early : half - 1 < (points.insertionSort (· ≤ ·)).length := by omega
  have late : half < (points.insertionSort (· ≤ ·)).length := by omega
  have atLow := getElem?_eq_getElem early
  have atHigh := getElem?_eq_getElem late
  rw [getD_eq_getElem?_getD, atLow, Option.getD_some] at above
  rw [getD_eq_getElem?_getD, atHigh, Option.getD_some] at below
  refine ⟨?_, ⟨_, perm.mem_iff.mp (getElem_mem _), above⟩,
    ⟨_, perm.mem_iff.mp (getElem_mem _), below⟩⟩
  intro y
  have sorted : (points.insertionSort (· ≤ ·)).Pairwise (· ≤ ·) := pairwise_insertionSort _ _
  calc spread points x = spread (points.insertionSort (· ≤ ·)) x := spread_perm perm.symm x
    _ ≤ spread (points.insertionSort (· ≤ ·)) y :=
        spread_le_of_middle sorted size atLow atHigh above below y
    _ = spread points y := spread_perm perm y

lemma points_inside {x y : Int} (inside : arch.Holds x y) :
    (∀ point ∈ xPoints (rangeBoxes network nodes arch nd), arch.minX ≤ point ∧ point ≤ arch.maxX) ∧
      ∀ point ∈ yPoints (rangeBoxes network nodes arch nd),
        arch.minY ≤ point ∧ point ≤ arch.maxY := by
  have wide := inside.1.1.trans inside.1.2
  have high := inside.2.1.trans inside.2.2
  constructor
  · intro point member
    rcases mem_flatMap.mp member with ⟨box, isBox, isEnd⟩
    rcases mem_map.mp isBox with ⟨pin, _, rfl⟩
    simp only [clampedBox, ArchBounds.clamp, mem_cons, not_mem_nil, or_false] at isEnd
    omega
  · intro point member
    rcases mem_flatMap.mp member with ⟨box, isBox, isEnd⟩
    rcases mem_map.mp isBox with ⟨pin, _, rfl⟩
    simp only [clampedBox, ArchBounds.clamp, mem_cons, not_mem_nil, or_false] at isEnd
    omega

lemma getRange_eq (linked : Linked network nodes) (single : SinglePins network nd)
    (nonempty : countedPins network nodes nd ≠ []) :
    getRange network nodes arch nd = some
        ⟨((xPoints (rangeBoxes network nodes arch nd)).insertionSort (· ≤ ·)).getD
            ((rangeBoxes network nodes arch nd).length - 1) 0,
          ((yPoints (rangeBoxes network nodes arch nd)).insertionSort (· ≤ ·)).getD
            ((rangeBoxes network nodes arch nd).length - 1) 0,
          ((xPoints (rangeBoxes network nodes arch nd)).insertionSort (· ≤ ·)).getD
            (rangeBoxes network nodes arch nd).length 0,
          ((yPoints (rangeBoxes network nodes arch nd)).insertionSort (· ≤ ·)).getD
            (rangeBoxes network nodes arch nd).length 0⟩ := by
  have pos : 0 < (rangeBoxes network nodes arch nd).length := by
    rw [rangeBoxes, length_map]
    exact length_pos_iff.mpr nonempty
  have enough : ¬ (rangeBoxes network nodes arch nd).length * 2 ≤ 1 := by omega
  have middle : (rangeBoxes network nodes arch nd).length * 2 / 2 =
      (rangeBoxes network nodes arch nd).length := by omega
  rw [getRange, boxes_eq linked single, ← rangeBoxes]
  simp only [if_neg enough, middle]
  rfl

/-- Every point of the box is a best place for the centre of the cell inside the bounds. -/
theorem getRange_optimal (linked : Linked network nodes) (single : SinglePins network nd)
    (connected : ∃ ed ∈ netsOf network nd, ∃ pin ∈ network.getEdge ed, pin.1 ≠ nd) :
    ∃ box, getRange network nodes arch nd = some box ∧
      ∀ x y, box.xMin ≤ x → x ≤ box.xMax → box.yMin ≤ y → y ≤ box.yMax →
        ∀ x' y', arch.Holds x' y' → arch.Holds x y ∧
          wireLength network nodes nd x y ≤ wireLength network nodes nd x' y' := by
  have nonempty : countedPins network nodes nd ≠ [] := by
    rcases connected with ⟨ed, member, _⟩
    intro none
    have net := (netsOf_perm linked single).mem_iff.mp member
    rw [none] at net
    cases net
  have pos : 0 < (rangeBoxes network nodes arch nd).length := by
    rw [rangeBoxes, length_map]
    exact List.length_pos_iff.mpr nonempty
  refine ⟨_, getRange_eq linked single nonempty, ?_⟩
  intro x y left right bottom top x' y' inside
  have inX := median_least (length_xPoints _) pos left right
  have inY := median_least (length_yPoints _) pos bottom top
  have bounds := @points_inside network nodes arch nd x' y' inside
  have holds : arch.Holds x y := by
    rcases inX.2 with ⟨⟨low, isLow, above⟩, high, isHigh, below⟩
    rcases inY.2 with ⟨⟨low', isLow', above'⟩, high', isHigh', below'⟩
    exact ⟨⟨(bounds.1 low isLow).1.trans above, below.trans (bounds.1 high isHigh).2⟩,
      (bounds.2 low' isLow').1.trans above', below'.trans (bounds.2 high' isHigh').2⟩
  refine ⟨holds, ?_⟩
  have here := twice_wireLength linked single holds
  have there := twice_wireLength linked single inside
  have xBest := inX.1 x'
  have yBest := inY.1 y'
  omega

def sampleNodes (n : Nat) : Node :=
  match n with
  | 0 => { left := 0, bottom := 0, width := 4, height := 2, pins := [⟨0, 1, 0⟩] }
  | 1 => { left := 30, bottom := 0, width := 2, height := 2, pins := [⟨0, 0, 0⟩] }
  | _ => { left := 0, bottom := 0, width := 0, height := 0 }

def sampleNet : Network := ⟨2, [[(0, 0), (1, 0)]]⟩

lemma sampleNet_linked : Linked sampleNet sampleNodes where
  listed := by
    intro n i pin there
    match n with
    | 0 | 1 =>
      have first : i = 0 := by
        have bound := (List.getElem?_eq_some_iff.mp there).1
        exact Nat.lt_one_iff.mp bound
      subst first
      rcases Option.some.inj there
      decide
    | n + 2 => cases there
  owned := by
    intro ed place member
    cases ed with
    | zero =>
      rcases mem_pair.mp member with rfl | rfl
      · exact ⟨_, rfl, rfl⟩
      · exact ⟨_, rfl, rfl⟩
    | succ ed => cases member
  nodup := by
    intro ed
    cases ed with
    | zero => decide
    | succ ed => exact nodup_nil

lemma sampleNet_single : SinglePins sampleNet 0 := by
  intro ed _
  cases ed with
  | zero => decide
  | succ ed => exact Nat.zero_le 1

/-- The cell is drawn to the other one, but not past the bounds. -/
theorem getRange_optimal_sample :
    ∃ box, getRange sampleNet sampleNodes ⟨0, 20, 0, 10⟩ 0 = some box ∧
      ∀ x y, box.xMin ≤ x → x ≤ box.xMax → box.yMin ≤ y → y ≤ box.yMax →
        ∀ x' y', ArchBounds.Holds ⟨0, 20, 0, 10⟩ x' y' → ArchBounds.Holds ⟨0, 20, 0, 10⟩ x y ∧
          wireLength sampleNet sampleNodes 0 x y ≤ wireLength sampleNet sampleNodes 0 x' y' :=
  getRange_optimal sampleNet_linked sampleNet_single ⟨0, by decide, (1, 0), by decide, by decide⟩

example : getRange sampleNet sampleNodes ⟨0, 20, 0, 10⟩ 0 = some ⟨20, 1, 20, 1⟩ := by decide

end DetailedVerticalSwap

end OpenRoad.Dpl
