import OpenRoad.Lib.Runs
import OpenRoad.Odb.Transform

/-! `FlexGridGraph`: the index box of a box of coordinates, and the shape counters of the nodes. -/

namespace OpenRoad.Drt

section

open List

inductive EnclosureType
  | uncertain
  | enclose
  | isEnclosed
  deriving DecidableEq

structure FlexGridGraph where
  xCoords : List Int
  yCoords : List Int
  xSorted : xCoords.Pairwise (· < ·)
  ySorted : yCoords.Pairwise (· < ·)

def lower_bound (coords : List Int) (coord : Int) : Nat := (coords.takeWhile (· < coord)).length

def upper_bound (coords : List Int) (coord : Int) : Nat := (coords.takeWhile (· ≤ coord)).length

/-- One axis of `mIdx1`; reading past the end of the coordinates gives `none`. -/
def lowerIdx (option : EnclosureType) (coords : List Int) (low : Int) : Option Nat :=
  let idx := lower_bound coords low
  if option = .enclose then coords[idx]?.map fun coord => if coord > low then idx - 1 else idx
  else some idx

/-- One axis of `mIdx2`. -/
def upperIdx (option : EnclosureType) (coords : List Int) (high : Int) : Option Nat :=
  let idx := upper_bound coords high - 1
  if option = .isEnclosed then coords[idx]?.map fun coord => if coord > high then idx - 1 else idx
  else some idx

def axisIdx (option : EnclosureType) (coords : List Int) (low high : Int) : Option (Nat × Nat) := do
  return (← lowerIdx option coords low, ← upperIdx option coords high)

/-- The ranges of indices on the two axes, each from `mIdx1` to `mIdx2`. -/
def FlexGridGraph.getIdxBox (graph : FlexGridGraph) (box : Odb.Rect) (option : EnclosureType) :
    Option ((Nat × Nat) × (Nat × Nat)) := do
  return (← axisIdx option graph.xCoords box.xlo box.xhi,
    ← axisIdx option graph.yCoords box.ylo box.yhi)

def Within (coords : List Int) (low high : Int) : Prop :=
  ∃ first last, coords.head? = some first ∧ coords.getLast? = some last ∧
    first ≤ low ∧ low ≤ high ∧ high ≤ last

def Valid (coords : List Int) (idx : Nat × Nat) : Prop :=
  idx.1 < coords.length ∧ idx.2 < coords.length

def Encloses (coords : List Int) (idx : Nat × Nat) (low high : Int) : Prop :=
  (∀ first, coords[idx.1]? = some first → first ≤ low) ∧
    ∀ last, coords[idx.2]? = some last → high ≤ last

def EnclosedBy (coords : List Int) (idx : Nat × Nat) (low high : Int) : Prop :=
  idx.1 ≤ idx.2 ∧ ∀ i coord, coords[i]? = some coord →
    (idx.1 ≤ i ∧ i ≤ idx.2 ↔ low ≤ coord ∧ coord ≤ high)

/-- What the comments at the options say of one axis. -/
def Promise (option : EnclosureType) (coords : List Int) (idx : Nat × Nat) (low high : Int) : Prop :=
  match option with
  | .uncertain => True
  | .enclose => Encloses coords idx low high
  | .isEnclosed => (∃ coord ∈ coords, low ≤ coord ∧ coord ≤ high) → EnclosedBy coords idx low high

variable {coords : List Int} {low high : Int}

lemma lt_takeWhile_iff {p : Int → Bool} (downward : ∀ a b, a < b → p b = true → p a = true)
    (sorted : coords.Pairwise (· < ·)) {i : Nat} {coord : Int} (atIndex : coords[i]? = some coord) :
    i < (coords.takeWhile p).length ↔ p coord = true := by
  induction coords generalizing i with
  | nil => simp at atIndex
  | cons first rest ih =>
      obtain ⟨below, restSorted⟩ := pairwise_cons.mp sorted
      cases i with
      | zero =>
          obtain rfl : first = coord := by simpa using atIndex
          cases holds : p first <;> simp [holds]
      | succ i =>
          rw [getElem?_cons_succ] at atIndex
          have later := below coord (mem_of_getElem? atIndex)
          cases holds : p first with
          | true => simpa [takeWhile_cons, holds] using ih restSorted atIndex
          | false =>
              have fails : p coord = false := by
                by_contra isTrue
                simp [downward first coord later (by simpa using isTrue)] at holds
              simp [holds, fails]

section

variable (sorted : coords.Pairwise (· < ·))
include sorted

lemma lt_lower_bound (low : Int) {i : Nat} {coord : Int} (atIndex : coords[i]? = some coord) :
    i < lower_bound coords low ↔ coord < low := by
  have downward : ∀ a b : Int, a < b → decide (b < low) = true → decide (a < low) = true := by
    simp only [decide_eq_true_eq]
    omega
  simpa [lower_bound] using lt_takeWhile_iff downward sorted atIndex

lemma lt_upper_bound (high : Int) {i : Nat} {coord : Int} (atIndex : coords[i]? = some coord) :
    i < upper_bound coords high ↔ coord ≤ high := by
  have downward : ∀ a b : Int, a < b → decide (b ≤ high) = true → decide (a ≤ high) = true := by
    simp only [decide_eq_true_eq]
    omega
  simpa [upper_bound] using lt_takeWhile_iff downward sorted atIndex

section

variable (within : Within coords low high)
include within

lemma bounds_within :
    lower_bound coords low < coords.length ∧ 0 < upper_bound coords high ∧
      upper_bound coords high ≤ coords.length ∧ ∃ start, coords[0]? = some start ∧ start ≤ low := by
  obtain ⟨first, last, isFirst, isLast, firstLow, ordered, highLast⟩ := within
  rw [head?_eq_getElem?] at isFirst
  rw [getLast?_eq_getElem?] at isLast
  have lastIndex := (lt_lower_bound sorted low isLast).not.mpr (by omega)
  have firstIndex := (lt_upper_bound sorted high isFirst).mpr (by omega)
  have notEmpty : 0 < coords.length := (List.getElem?_eq_some_iff.mp isFirst).1
  have shorter : upper_bound coords high ≤ coords.length := ( takeWhile_prefix _).length_le
  exact ⟨by omega, firstIndex, shorter, first, isFirst, firstLow⟩

lemma upperIdx_eq (option : EnclosureType) :
    upperIdx option coords high = some (upper_bound coords high - 1) := by
  obtain ⟨_, positive, shorter, _⟩ := bounds_within sorted within
  have upper : upper_bound coords high - 1 < coords.length := by omega
  have isLast := getElem?_eq_getElem upper
  have lastHigh := (lt_upper_bound sorted high isLast).mp (by omega)
  simp [upperIdx, isLast, lastHigh.not_gt]

lemma lowerIdx_enclose :
    ∃ i first, lowerIdx .enclose coords low = some i ∧ coords[i]? = some first ∧ first ≤ low := by
  obtain ⟨inside, _, _, start, isStart, startLow⟩ := bounds_within sorted within
  obtain ⟨coord, atIndex⟩ : ∃ coord, coords[lower_bound coords low]? = some coord :=
    ⟨_, getElem?_eq_getElem inside⟩
  simp only [lowerIdx, if_true, atIndex, Option.map_some]
  split
  case isTrue above =>
    have positive : 0 < lower_bound coords low := by
      by_contra notPositive
      rw [Nat.eq_zero_of_not_pos notPositive, isStart] at atIndex
      obtain rfl := Option.some.inj atIndex
      omega
    have previous := getElem?_eq_getElem ((Nat.sub_le _ 1).trans_lt inside)
    exact ⟨_, _, rfl, previous, ((lt_lower_bound sorted low previous).mp (by omega)).le⟩
  case isFalse notAbove => exact ⟨_, _, rfl, atIndex, by omega⟩

lemma axis_enclose :
    ∃ idx, axisIdx .enclose coords low high = some idx ∧ Valid coords idx ∧
      (Encloses coords idx low high ↔ high ∈ coords) := by
  obtain ⟨_, positive, shorter, _⟩ := bounds_within sorted within
  obtain ⟨i, first, lowerIs, isFirst, firstLow⟩ := lowerIdx_enclose sorted within
  have upper : upper_bound coords high - 1 < coords.length := by omega
  obtain ⟨last, isLast⟩ : ∃ last, coords[upper_bound coords high - 1]? = some last :=
    ⟨_, getElem?_eq_getElem upper⟩
  have lastHigh := (lt_upper_bound sorted high isLast).mp (by omega)
  refine ⟨(i, upper_bound coords high - 1),
    by rw [axisIdx, lowerIs, upperIdx_eq sorted within]; rfl,
    ⟨(List.getElem?_eq_some_iff.mp isFirst).1, upper⟩, ?_⟩
  simp only [Encloses, isFirst, isLast, Option.some.injEq, forall_eq', firstLow, true_and]
  constructor
  · intro highLast
    obtain rfl : last = high := by omega
    exact mem_of_getElem? isLast
  · intro member
    obtain ⟨j, atIndex⟩ := mem_iff_getElem?.mp member
    have below := (lt_upper_bound sorted high atIndex).mpr le_rfl
    have notBelow := (lt_lower_bound sorted high atIndex).not.mpr (lt_irrefl _)
    by_contra above
    have lastBelow := (lt_lower_bound sorted high isLast).mpr (Int.not_le.mp above)
    omega

omit within in
lemma axis_isEnclosed (low high : Int)
    (some_inside : ∃ coord ∈ coords, low ≤ coord ∧ coord ≤ high) :
    EnclosedBy coords (lower_bound coords low, upper_bound coords high - 1) low high := by
  have between : ∀ i coord, coords[i]? = some coord →
      (lower_bound coords low ≤ i ∧ i < upper_bound coords high ↔ low ≤ coord ∧ coord ≤ high) := by
    intro i coord atIndex
    rw [lt_upper_bound sorted high atIndex, ← Nat.not_lt, lt_lower_bound sorted low atIndex,
      Int.not_lt]
  obtain ⟨coord, member, inside⟩ := some_inside
  obtain ⟨i, atIndex⟩ := mem_iff_getElem?.mp member
  have index := (between i coord atIndex).mpr inside
  constructor
  · omega
  · intro j other atOther
    rw [← between j other atOther]
    omega

lemma axis_promise (option : EnclosureType) :
    ∃ idx, axisIdx option coords low high = some idx ∧ Valid coords idx ∧
      (Promise option coords idx low high ↔ (option = .enclose → high ∈ coords)) := by
  obtain ⟨inside, positive, shorter, _⟩ := bounds_within sorted within
  have upperIs := upperIdx_eq sorted within
  have valid : Valid coords (lower_bound coords low, upper_bound coords high - 1) :=
    ⟨inside, by omega⟩
  cases option with
  | enclose => simpa [Promise] using axis_enclose sorted within
  | uncertain => exact ⟨_, by rw [axisIdx, upperIs]; rfl, valid, by simp [Promise]⟩
  | isEnclosed =>
      exact ⟨_, by rw [axisIdx, upperIs]; rfl, valid,
        by simpa [Promise] using axis_isEnclosed sorted low high⟩

end

end

theorem idxBox_promise_iff (graph : FlexGridGraph) (box : Odb.Rect) (option : EnclosureType)
    (withinX : Within graph.xCoords box.xlo box.xhi)
    (withinY : Within graph.yCoords box.ylo box.yhi) :
    ∃ x y, graph.getIdxBox box option = some (x, y) ∧
      Valid graph.xCoords x ∧ Valid graph.yCoords y ∧
      (Promise option graph.xCoords x box.xlo box.xhi ∧
          Promise option graph.yCoords y box.ylo box.yhi ↔
        (option = .enclose → box.xhi ∈ graph.xCoords ∧ box.yhi ∈ graph.yCoords)) := by
  obtain ⟨x, isX, validX, promiseX⟩ := axis_promise graph.xSorted withinX option
  obtain ⟨y, isY, validY, promiseY⟩ := axis_promise graph.ySorted withinY option
  refine ⟨x, y, by rw [FlexGridGraph.getIdxBox, isX, isY]; rfl, validX, validY, ?_⟩
  rw [promiseX, promiseY, ← imp_and]

def threeTracks : FlexGridGraph := ⟨[0, 10, 20], [0, 10, 20], by decide, by decide⟩

theorem idxBox_promise_sample : ∃ x y, threeTracks.getIdxBox ⟨5, 5, 10, 20⟩ .enclose = some (x, y) ∧
    Encloses [0, 10, 20] x 5 10 ∧ Encloses [0, 10, 20] y 5 20 := by
  obtain ⟨x, y, isBox, _, _, promise⟩ := idxBox_promise_iff threeTracks ⟨5, 5, 10, 20⟩ .enclose
    ⟨0, 20, rfl, rfl, by decide⟩ ⟨0, 20, rfl, rfl, by decide⟩
  exact ⟨x, y, isBox, promise.mpr (by decide)⟩

theorem upper_side_not_enclosed :
    threeTracks.getIdxBox ⟨5, 5, 15, 20⟩ .enclose = some ((0, 1), (0, 2)) ∧
      ¬ Encloses [0, 10, 20] (0, 1) 5 15 := by
  refine ⟨rfl, ?_⟩
  intro encloses
  have upper := encloses.2 10 rfl
  omega

end

section

open OpenRoad.Lib List Function

inductive NodeFlag
  | hasEastEdge | hasNorthEdge | hasUpEdge | isBlockedEast | isBlockedNorth | isBlockedUp
  | hasSpecialVia | overrideShapeCostVia | hasGridCostEast | hasGridCostNorth | hasGridCostUp

inductive NodeCost
  | routeShapeCostPlanar | routeShapeCostVia | markerCostPlanar | markerCostVia
  | fixedShapeCostVia | fixedShapeCostPlanarHorz | fixedShapeCostPlanarVert
  | routeShapeCostPlanarNDR | routeShapeCostViaNDR | fixedShapeCostViaNDR
  | fixedShapeCostPlanarHorzNDR | fixedShapeCostPlanarVertNDR
  deriving DecidableEq

structure Node where
  flag : NodeFlag → Bool
  cost : NodeCost → Nat

abbrev Nodes := Nat → Node

inductive ShapeKind
  | routePlanar | routeVia | fixedPlanar | fixedVia
  deriving DecidableEq

/-- The counters that the functions for a kind of shape change. -/
def costsOf : ShapeKind → Bool → List NodeCost
  | .routePlanar, ndr => if ndr then [.routeShapeCostPlanarNDR] else [.routeShapeCostPlanar]
  | .routeVia, ndr => if ndr then [.routeShapeCostViaNDR] else [.routeShapeCostVia]
  | .fixedPlanar, ndr =>
      if ndr then [.fixedShapeCostPlanarHorzNDR, .fixedShapeCostPlanarVertNDR]
      else [.fixedShapeCostPlanarHorz, .fixedShapeCostPlanarVert]
  | .fixedVia, ndr => if ndr then [.fixedShapeCostViaNDR] else [.fixedShapeCostVia]

def addToByte (augend summand : Nat) : Nat := min (augend + summand) 255

def subFromByte (minuend subtrahend : Nat) : Nat := (max ((minuend : Int) - subtrahend) 0).toNat

def changeCosts (change : Nat → Nat → Nat) (kind : ShapeKind) (nodes : Nodes) (idx : Nat)
    (ndr : Bool) : Nodes :=
  update nodes idx { nodes idx with
    cost := fun c =>
      if c ∈ costsOf kind ndr then change ((nodes idx).cost c) 1 else (nodes idx).cost c }

def addRouteShapeCostPlanar : Nodes → Nat → Bool → Nodes := changeCosts addToByte .routePlanar

def addRouteShapeCostVia : Nodes → Nat → Bool → Nodes := changeCosts addToByte .routeVia

def subRouteShapeCostPlanar : Nodes → Nat → Bool → Nodes := changeCosts subFromByte .routePlanar

def subRouteShapeCostVia : Nodes → Nat → Bool → Nodes := changeCosts subFromByte .routeVia

def addFixedShapeCostPlanar : Nodes → Nat → Bool → Nodes := changeCosts addToByte .fixedPlanar

def addFixedShapeCostVia : Nodes → Nat → Bool → Nodes := changeCosts addToByte .fixedVia

def subFixedShapeCostPlanar : Nodes → Nat → Bool → Nodes := changeCosts subFromByte .fixedPlanar

def subFixedShapeCostVia : Nodes → Nat → Bool → Nodes := changeCosts subFromByte .fixedVia

structure CountedShape where
  kind : ShapeKind
  idx : Nat
  ndr : Bool
  deriving DecidableEq

def CountedShape.costs (shape : CountedShape) : List NodeCost := costsOf shape.kind shape.ndr

inductive CostCall
  | add (shape : CountedShape)
  | sub (shape : CountedShape)

def CostCall.shape : CostCall → CountedShape
  | add shape => shape
  | sub shape => shape

def CostCall.exec (nodes : Nodes) : CostCall → Nodes
  | add ⟨.routePlanar, idx, ndr⟩ => addRouteShapeCostPlanar nodes idx ndr
  | add ⟨.routeVia, idx, ndr⟩ => addRouteShapeCostVia nodes idx ndr
  | add ⟨.fixedPlanar, idx, ndr⟩ => addFixedShapeCostPlanar nodes idx ndr
  | add ⟨.fixedVia, idx, ndr⟩ => addFixedShapeCostVia nodes idx ndr
  | sub ⟨.routePlanar, idx, ndr⟩ => subRouteShapeCostPlanar nodes idx ndr
  | sub ⟨.routeVia, idx, ndr⟩ => subRouteShapeCostVia nodes idx ndr
  | sub ⟨.fixedPlanar, idx, ndr⟩ => subFixedShapeCostPlanar nodes idx ndr
  | sub ⟨.fixedVia, idx, ndr⟩ => subFixedShapeCostVia nodes idx ndr

def CostCall.change : CostCall → Nat → Nat → Nat
  | add _ => addToByte
  | sub _ => subFromByte

structure CountedNodes where
  nodes : Nodes
  present : CountedShape → Nat

namespace CountedNodes

def start (flags : Nat → NodeFlag → Bool) : CountedNodes :=
  ⟨fun idx => ⟨flags idx, fun _ => 0⟩, fun _ => 0⟩

def step (s : CountedNodes) : CostCall → CountedNodes
  | .add shape =>
      ⟨(CostCall.add shape).exec s.nodes, update s.present shape (s.present shape + 1)⟩
  | .sub shape =>
      ⟨(CostCall.sub shape).exec s.nodes, update s.present shape (s.present shape - 1)⟩

def Matched (s : CountedNodes) : CostCall → Prop
  | .add _ => True
  | .sub shape => 0 < s.present shape

def Roomy (s : CountedNodes) : CostCall → Prop
  | .add shape => s.present shape < 255
  | .sub _ => True

def Counted (s : CountedNodes) : Prop :=
  ∀ shape, ∀ c ∈ shape.costs, (s.nodes shape.idx).cost c ≠ 0 ↔ s.present shape ≠ 0

def Framed (s : CountedNodes) (call : CostCall) : Prop :=
  ∀ idx, (call.exec s.nodes idx).flag = (s.nodes idx).flag ∧
    ∀ c, (idx = call.shape.idx → c ∉ call.shape.costs) →
      (call.exec s.nodes idx).cost c = (s.nodes idx).cost c

def Exact (s : CountedNodes) : Prop :=
  ∀ shape, ∀ c ∈ shape.costs,
    (s.nodes shape.idx).cost c = s.present shape ∧ s.present shape ≤ 255

lemma exec_eq (nodes : Nodes) (call : CostCall) : call.exec nodes =
    changeCosts call.change call.shape.kind nodes call.shape.idx call.shape.ndr := by
  rcases call with ⟨kind, idx, ndr⟩ | ⟨kind, idx, ndr⟩ <;> cases kind <;> rfl

lemma exec_flag (nodes : Nodes) (call : CostCall) (idx : Nat) :
    (call.exec nodes idx).flag = (nodes idx).flag := by
  rw [exec_eq, changeCosts, update_apply]
  split
  case isTrue isIdx => rw [isIdx]
  case isFalse => rfl

lemma exec_cost (nodes : Nodes) (call : CostCall) (idx : Nat) (c : NodeCost) :
    (call.exec nodes idx).cost c = if idx = call.shape.idx ∧ c ∈ call.shape.costs then
      call.change ((nodes idx).cost c) 1 else (nodes idx).cost c := by
  by_cases isIdx : idx = call.shape.idx
  · simp [exec_eq, changeCosts, CountedShape.costs, isIdx]
  · simp [exec_eq, changeCosts, isIdx]

lemma framed (s : CountedNodes) (call : CostCall) : s.Framed call := by
  intro idx
  refine ⟨exec_flag s.nodes call idx, ?_⟩
  intro c other
  rw [exec_cost, if_neg (by simpa using other)]

lemma costs_disjoint {shape other : CountedShape} {c : NodeCost} (inFirst : c ∈ shape.costs)
    (inSecond : c ∈ other.costs) (sameIdx : shape.idx = other.idx) : shape = other := by
  obtain ⟨kind, idx, ndr⟩ := shape
  obtain ⟨otherKind, otherIdx, otherNdr⟩ := other
  simp only [CountedShape.costs] at *
  cases kind <;> cases ndr <;> cases otherKind <;> cases otherNdr <;> grind [costsOf]

lemma step_exact {s : CountedNodes} {call : CostCall} (exact : s.Exact)
    (allowed : s.Matched call ∧ s.Roomy call) : (s.step call).Exact := by
  intro shape c member
  obtain ⟨same, bound⟩ := exact shape c member
  have other (isOther : shape ≠ call.shape) :
      (call.exec s.nodes shape.idx).cost c = s.present shape := by
    rw [exec_cost, if_neg, same]
    intro both
    exact isOther (costs_disjoint member both.2 both.1)
  have own (isOwn : shape = call.shape) :
      (call.exec s.nodes shape.idx).cost c = call.change (s.present shape) 1 := by
    rw [exec_cost, if_pos ⟨by rw [isOwn], isOwn ▸ member⟩, same]
  cases call with
  | add added =>
      have room : s.present added < 255 := allowed.2
      by_cases isOwn : shape = added
      · subst isOwn
        simp only [step, own rfl, update_self, CostCall.change, addToByte]
        omega
      · simpa only [step, other isOwn, update_of_ne isOwn, true_and] using bound
  | sub removed =>
      by_cases isOwn : shape = removed
      · subst isOwn
        simp only [step, own rfl, update_self, CostCall.change, subFromByte]
        omega
      · simpa only [step, other isOwn, update_of_ne isOwn, true_and] using bound

theorem counters_count (flags : Nat → NodeFlag → Bool) (calls : List CostCall)
    (allowed : EachCall step (fun s call => s.Matched call ∧ s.Roomy call) (start flags) calls) :
    Throughout step Counted (start flags) calls ∧ EachCall step Framed (start flags) calls := by
  constructor
  · have fresh : (start flags).Exact := fun _ _ _ => ⟨rfl, Nat.zero_le _⟩
    have exact := throughout_of_each (fun s call holds => step_exact holds) fresh allowed
    intro front isFront shape c member
    rw [(exact front isFront shape c member).1]
  · intro front call _
    exact framed _ call

def someVia : CountedShape := ⟨.routeVia, 0, false⟩

theorem counters_count_sample :
    Throughout step Counted (start fun _ _ => false) [.add someVia, .sub someVia] := by
  apply (counters_count (fun _ _ => false) [.add someVia, .sub someVia] _).1
  simp [eachCall_cons, eachCall_nil, Matched, Roomy, step, start]

lemma matched_adds (k : Nat) (s : CountedNodes) (calls : List CostCall)
    (later : EachCall step Matched (run step s (replicate k (.add someVia))) calls) :
    EachCall step Matched s (replicate k (.add someVia) ++ calls) := by
  induction k generalizing s with
  | zero => exact later
  | succ k ih => exact (eachCall_cons _ _).mpr ⟨trivial, ih _ later⟩

lemma matched_subs {k : Nat} {s : CountedNodes} (enough : k ≤ s.present someVia) :
    EachCall step Matched s (replicate k (.sub someVia)) := by
  induction k generalizing s with
  | zero => exact eachCall_nil
  | succ k ih =>
      have rest : k ≤ (step s (.sub someVia)).present someVia := by
        simp only [step, update_self]
        omega
      exact (eachCall_cons _ _).mpr ⟨Nat.zero_lt_of_lt enough, ih rest⟩

lemma via_cost (s : CountedNodes) (call : CostCall) (isVia : call.shape = someVia) :
    ((step s call).nodes 0).cost .routeShapeCostVia =
      call.change ((s.nodes 0).cost .routeShapeCostVia) 1 := by
  have nodes : (step s call).nodes = call.exec s.nodes := by cases call <;> rfl
  rw [nodes, exec_cost, isVia, if_pos (by decide)]

lemma run_adds (flags : Nat → NodeFlag → Bool) (k : Nat) :
    (run step (start flags) (replicate k (.add someVia))).present someVia = k ∧
      ((run step (start flags) (replicate k (.add someVia))).nodes 0).cost .routeShapeCostVia =
        min k 255 := by
  induction k with
  | zero => exact ⟨rfl, rfl⟩
  | succ k ih =>
      rw [replicate_succ', run_concat, via_cost _ _ rfl, ih.2, CostCall.change, addToByte]
      simp only [step, update_self, ih.1, true_and]
      omega

lemma run_subs (s : CountedNodes) (k : Nat) :
    (run step s (replicate k (.sub someVia))).present someVia = s.present someVia - k ∧
      ((run step s (replicate k (.sub someVia))).nodes 0).cost .routeShapeCostVia =
        (s.nodes 0).cost .routeShapeCostVia - k := by
  induction k with
  | zero => exact ⟨rfl, rfl⟩
  | succ k ih =>
      rw [replicate_succ', run_concat, via_cost _ _ rfl, ih.2, CostCall.change, subFromByte]
      simp only [step, update_self, ih.1]
      omega

def crowdedNode : List CostCall := replicate 256 (.add someVia) ++ replicate 255 (.sub someVia)

theorem counter_forgets :
    EachCall step Matched (start fun _ _ => false) crowdedNode ∧
    ¬ Throughout step Counted (start fun _ _ => false) crowdedNode := by
  obtain ⟨present, cost⟩ := run_adds (fun _ _ => false) 256
  constructor
  · exact matched_adds 256 _ _ (matched_subs (by rw [present]; decide))
  · intro counted
    have last := counted crowdedNode (prefix_refl _) someVia .routeShapeCostVia (by decide)
    have parts (s : CountedNodes) : run step s crowdedNode =
        run step (run step s (replicate 256 (.add someVia))) (replicate 255 (.sub someVia)) :=
      foldl_append
    obtain ⟨left, zero⟩ := run_subs (run step (start fun _ _ => false)
      (replicate 256 (.add someVia))) 255
    have atNode : someVia.idx = 0 := rfl
    rw [atNode, parts, left, zero, present, cost] at last
    revert last
    decide

end CountedNodes

end

end OpenRoad.Drt
