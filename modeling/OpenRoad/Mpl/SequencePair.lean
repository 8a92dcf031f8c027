import OpenRoad.Lib.Runs
import Mathlib.Data.List.Nodup

/-! Packing hard macros by a sequence pair, which annealing perturbs. -/

namespace OpenRoad.Mpl

open OpenRoad.Lib Function List

structure HardMacro where
  x : Int
  y : Int
  width : Int
  height : Int
  fixed : Bool

inductive Axis where
  | x
  | y

namespace Axis

def origin : Axis → HardMacro → Int
  | x, m => m.x
  | y, m => m.y

def length : Axis → HardMacro → Int
  | x, m => m.width
  | y, m => m.height

/-- `setX` and `setY`: a macro without area stays. -/
def set (value : Int) (m : HardMacro) : Axis → HardMacro
  | x => if m.width * m.height = 0 then m else { m with x := value }
  | y => if m.width * m.height = 0 then m else { m with y := value }

def place (axis : Axis) (value : Int) (m : HardMacro) : HardMacro :=
  if m.fixed then m else axis.set value m

def reach (axis : Axis) (m : HardMacro) : Int := axis.origin m + axis.length m

end Axis

/-- The accumulated lengths and the macros. -/
abbrev PackState : Type := (Nat → Int) × (Nat → HardMacro)

/-- The loop stops at the first length that is no shorter. -/
def raise (length : Int) : Nat → Nat → (Nat → Int) → Nat → Int
  | 0, _, accumulated => accumulated
  | count + 1, j, accumulated =>
    if length > accumulated j then raise length count (j + 1) (update accumulated j length)
    else accumulated

def packOne (axis : Axis) (neg_seq : List Nat) (state : PackState) (id : Nat) : PackState :=
  let p := neg_seq.idxOf id
  let m := axis.place (state.1 p) (state.2 id)
  (raise (axis.reach m) (neg_seq.length - p) p state.1, update state.2 id m)

def pack (axis : Axis) (neg_seq order : List Nat) (macros : Nat → HardMacro) : PackState :=
  order.foldl (packOne axis neg_seq) (fun _ => 0, macros)

def swap (seq : List Nat) (i j : Nat) : List Nat :=
  if h : i < seq.length ∧ j < seq.length then (seq.set i seq[j]).set j seq[i] else seq

lemma swap_perm (seq : List Nat) (i j : Nat) : (swap seq i j).Perm seq := by
  rw [swap]
  split
  · rename_i inside
    exact set_set_perm inside.1 inside.2
  · exact .refl seq

structure SequencePair (n : Nat) where
  pos_seq : List Nat
  neg_seq : List Nat
  pos_perm : pos_seq.Perm (range n)
  neg_perm : neg_seq.Perm (range n)

namespace SequencePair

variable {n : Nat}

def swapPos (pair : SequencePair n) (i j : Nat) : SequencePair n :=
  { pair with
    pos_seq := swap pair.pos_seq i j
    pos_perm := (swap_perm ..).trans pair.pos_perm }

def swapNeg (pair : SequencePair n) (i j : Nat) : SequencePair n :=
  { pair with
    neg_seq := swap pair.neg_seq i j
    neg_perm := (swap_perm ..).trans pair.neg_perm }

/-- A macro that is in the positive sequence only raises an error. -/
def exchangeMacros (pair : SequencePair n) (i j : Nat) : Option (SequencePair n) := do
  let swapped := pair.swapPos i j
  let first ← swapped.pos_seq[i]?
  let second ← swapped.pos_seq[j]?
  if first ∈ pair.neg_seq ∧ second ∈ pair.neg_seq then
    some (swapped.swapNeg (pair.neg_seq.idxOf first) (pair.neg_seq.idxOf second))
  else none

end SequencePair

inductive Action where
  | posSwap
  | negSwap
  | doubleSwap
  | exchange

def SequencePair.perturb {n : Nat} (action : Action) (i j : Nat) (pair : SequencePair n) :
    Option (SequencePair n) :=
  if n ≤ 1 then some pair
  else match action with
    | .posSwap => some (pair.swapPos i j)
    | .negSwap => some (pair.swapNeg i j)
    | .doubleSwap => some ((pair.swapPos i j).swapNeg i j)
    | .exchange => pair.exchangeMacros i j

structure Floorplan (n : Nat) where
  pair : SequencePair n
  macros : Nat → HardMacro
  width : Int
  height : Int

namespace Floorplan

variable {n : Nat}

def packX (f : Floorplan n) : PackState :=
  pack .x f.pair.neg_seq f.pair.pos_seq f.macros

def packY (f : Floorplan n) : PackState :=
  pack .y f.pair.neg_seq f.pair.pos_seq.reverse f.packX.2

def packFloorplan (f : Floorplan n) : Floorplan n :=
  ⟨f.pair, f.packY.2, f.packX.1 (n - 1), f.packY.1 (n - 1)⟩

/-- A single swap brings back one of the sequences only. -/
def restoreState (action : Action) (f pre : Floorplan n) : Floorplan n :=
  { pre with
    pair := match action with
      | .posSwap => { f.pair with pos_seq := pre.pair.pos_seq, pos_perm := pre.pair.pos_perm }
      | .negSwap => { f.pair with neg_seq := pre.pair.neg_seq, neg_perm := pre.pair.neg_perm }
      | .doubleSwap | .exchange => pre.pair }

end Floorplan

/-- What one turn of annealing draws, and whether it keeps the outcome. -/
structure Turn (n : Nat) where
  action : Action
  i : Fin n
  j : Fin n
  kept : Bool

/-- `saveState`, `perturb` and, if the outcome is refused, `restoreState`. -/
def Floorplan.anneal {n : Nat} (f : Floorplan n) (turn : Turn n) : Option (Floorplan n) := do
  let pair ← f.pair.perturb turn.action turn.i turn.j
  let packed := { f with pair := pair }.packFloorplan
  some (if turn.kept then packed else packed.restoreState turn.action f)

def annealOn {n : Nat} (state : Option (Floorplan n)) (turn : Turn n) : Option (Floorplan n) :=
  state.bind (·.anneal turn)

namespace HardMacro

def Movable (m : HardMacro) : Prop := m.fixed = false ∧ m.width * m.height ≠ 0

def Apart (m other : HardMacro) : Prop :=
  Axis.x.reach m ≤ other.x ∨ Axis.x.reach other ≤ m.x ∨
    Axis.y.reach m ≤ other.y ∨ Axis.y.reach other ≤ m.y

end HardMacro

/-- If `b` is later in the negative sequence and can be moved, it is right of `a` or above it. -/
def Floorplan.Clear {n : Nat} (f : Floorplan n) (a b : Nat) : Prop :=
  f.pair.neg_seq.idxOf a < f.pair.neg_seq.idxOf b → (f.macros b).Movable →
    Axis.x.reach (f.macros a) ≤ (f.macros b).x ∨ Axis.y.reach (f.macros a) ≤ (f.macros b).y

/-- No macro passes the width or the height, and those that can be moved are not below 0. -/
structure Floorplan.Packed {n : Nat} (f : Floorplan n) : Prop where
  clear : ∀ a < n, ∀ b < n, f.Clear a b
  low : ∀ a < n, (f.macros a).Movable → 0 ≤ (f.macros a).x ∧ 0 ≤ (f.macros a).y
  inside : ∀ a < n, Axis.x.reach (f.macros a) ≤ f.width ∧ Axis.y.reach (f.macros a) ≤ f.height

lemma raise_apply (length : Int) (count : Nat) : ∀ {j : Nat} {accumulated : Nat → Int},
    (∀ k l, j ≤ k → k ≤ l → l < j + count → accumulated k ≤ accumulated l) → ∀ k,
    raise length count j accumulated k =
      if j ≤ k ∧ k < j + count then max (accumulated k) length else accumulated k := by
  induction count with
  | zero =>
    intro j accumulated _ k
    rw [raise, if_neg (by omega)]
  | succ count ih =>
    intro j accumulated sorted k
    rw [raise]
    split
    · rename_i longer
      have others : ∀ l, l ≠ j → update accumulated j length l = accumulated l :=
        fun l differs => update_of_ne differs ..
      rw [ih (fun a b first second third => by
        rw [others a (by omega), others b (by omega)]
        exact sorted a b (by omega) second (by omega))]
      by_cases same : k = j
      · rw [same, if_neg (by omega), if_pos (by omega), update_self, max_eq_right longer.le]
      · rw [others k same]
        simp only [show j + 1 ≤ k ∧ k < j + 1 + count ↔ j ≤ k ∧ k < j + (count + 1) by omega]
    · rename_i notLonger
      split
      · rename_i within
        have above := sorted j k (le_refl j) within.1 within.2
        rw [max_eq_left (le_trans (not_lt.mp notLonger) above)]
      · rfl

section Place

variable (axis : Axis) (value : Int) (m : HardMacro)

lemma place_same : (axis.place value m).width = m.width ∧ (axis.place value m).height = m.height ∧
    (axis.place value m).fixed = m.fixed := by
  cases axis <;> simp only [Axis.place, Axis.set] <;> split_ifs <;> simp

lemma place_movable : (axis.place value m).Movable ↔ m.Movable := by
  simp [HardMacro.Movable, place_same]

lemma place_origin (movable : m.Movable) : axis.origin (axis.place value m) = value := by
  cases axis <;> simp [Axis.place, Axis.set, Axis.origin, movable.1, movable.2]

lemma place_other : (Axis.y.place value m).x = m.x := by
  simp only [Axis.place, Axis.set]
  split_ifs <;> simp

end Place

/-- What packing has reached once the macros of `done` are placed. -/
structure Reached (axis : Axis) (neg_seq : List Nat) (start : Nat → HardMacro) (done : List Nat)
    (state : PackState) : Prop where
  sorted : ∀ i j, i ≤ j → j < neg_seq.length → state.1 i ≤ state.1 j
  nonneg : ∀ j < neg_seq.length, 0 ≤ state.1 j
  low : ∀ a ∈ done, (state.2 a).Movable → 0 ≤ axis.origin (state.2 a)
  bound : ∀ a ∈ done, ∀ j, neg_seq.idxOf a ≤ j → j < neg_seq.length →
    axis.reach (state.2 a) ≤ state.1 j
  unplaced : ∀ id ∉ done, state.2 id = start id
  moved : ∀ id ∈ done, ∃ value, state.2 id = axis.place value (start id)
  placed : done.Pairwise fun a b => neg_seq.idxOf a < neg_seq.idxOf b → (state.2 b).Movable →
    axis.reach (state.2 a) ≤ axis.origin (state.2 b)

variable {axis : Axis} {neg_seq done : List Nat} {start : Nat → HardMacro}

lemma packOne_reached {id : Nat} {state : PackState}
    (reached : Reached axis neg_seq start done state) (isNew : id ∉ done)
    (inside : neg_seq.idxOf id < neg_seq.length) :
    Reached axis neg_seq start (done ++ [id]) (packOne axis neg_seq state id) := by
  have raised : ∀ j, j < neg_seq.length → (packOne axis neg_seq state id).1 j =
      if neg_seq.idxOf id ≤ j then max (state.1 j)
        (axis.reach (axis.place (state.1 (neg_seq.idxOf id)) (state.2 id))) else state.1 j := by
    intro j within
    have sorted : ∀ k l, neg_seq.idxOf id ≤ k → k ≤ l →
        l < neg_seq.idxOf id + (neg_seq.length - neg_seq.idxOf id) → state.1 k ≤ state.1 l :=
      fun k l _ below above => reached.sorted k l below (by omega)
    simp only [packOne, raise_apply _ _ sorted,
      show j < neg_seq.idxOf id + (neg_seq.length - neg_seq.idxOf id) by omega, and_true]
  have others : ∀ a ∈ done, (packOne axis neg_seq state id).2 a = state.2 a :=
    fun a member => update_of_ne (ne_of_mem_of_not_mem member isNew) ..
  have own : (packOne axis neg_seq state id).2 id =
      axis.place (state.1 (neg_seq.idxOf id)) (state.2 id) := update_self ..
  constructor
  · intro i j below within
    have before := reached.sorted i j below within
    rw [raised i (by omega), raised j within]
    split_ifs
    · exact max_le_max before le_rfl
    · omega
    · exact le_max_of_le_left before
    · exact before
  · intro j within
    have before := reached.nonneg j within
    rw [raised j within]
    split_ifs
    · exact le_max_of_le_left before
    · exact before
  · intro a member movable
    rcases mem_append.mp member with earlier | isOwn
    · rw [others a earlier] at movable ⊢
      exact reached.low a earlier movable
    · rw [mem_singleton.mp isOwn, own] at movable ⊢
      rw [place_origin _ _ _ ((place_movable ..).mp movable)]
      exact reached.nonneg _ inside
  · intro a member j behind within
    rw [raised j within]
    rcases mem_append.mp member with earlier | isOwn
    · have before := reached.bound a earlier j behind within
      rw [others a earlier]
      split_ifs
      · exact le_max_of_le_left before
      · exact before
    · rw [mem_singleton.mp isOwn] at behind ⊢
      rw [own, if_pos behind]
      exact le_max_right ..
  · intro other absent
    simp only [mem_append, mem_singleton, not_or] at absent
    exact (update_of_ne absent.2 ..).trans (reached.unplaced other absent.1)
  · intro other member
    rcases mem_append.mp member with earlier | isOwn
    · rw [others other earlier]
      exact reached.moved other earlier
    · rw [mem_singleton.mp isOwn, own, reached.unplaced id isNew]
      exact ⟨_, rfl⟩
  · refine pairwise_append.mpr ⟨reached.placed.imp_of_mem ?_, pairwise_singleton .., ?_⟩
    · intro a b first second
      rw [others a first, others b second]
      exact fun holds => holds
    · intro a earlier b isOwn before movable
      rw [mem_singleton.mp isOwn] at before movable ⊢
      rw [own] at movable ⊢
      rw [others a earlier, place_origin _ _ _ ((place_movable ..).mp movable)]
      exact reached.bound a earlier _ before.le inside

lemma pack_reached (nodup : done.Nodup) (inside : ∀ id ∈ done, neg_seq.idxOf id < neg_seq.length) :
    Reached axis neg_seq start done (pack axis neg_seq done start) := by
  induction done using reverseRecOn with
  | nil =>
    constructor
    · exact fun _ _ _ _ => le_rfl
    all_goals simp [pack]
  | append_singleton done id ih =>
    rw [nodup_append] at nodup
    rw [pack, foldl_append]
    exact packOne_reached (ih nodup.1 fun a member => inside a (mem_append_left _ member))
      (fun member => nodup.2.2 id member id mem_cons_self rfl)
      (inside id (mem_append_right _ mem_cons_self))

namespace SequencePair

variable {n : Nat} (pair : SequencePair n) {id : Nat}

lemma mem_neg : id ∈ pair.neg_seq ↔ id < n := pair.neg_perm.mem_iff.trans mem_range

/-- An exchange finds both macros in the negative sequence. -/
lemma perturb_isSome (action : Action) (i j : Fin n) : (pair.perturb action i j).isSome := by
  unfold perturb
  split
  · rfl
  cases action with
  | exchange =>
    have perm := (pair.swapPos i j).pos_perm
    have found : ∀ k : Fin n, ∃ id < n, (pair.swapPos i j).pos_seq[(k : Nat)]? = some id := by
      intro k
      have within : (k : Nat) < (pair.swapPos i j).pos_seq.length := by
        rw [perm.length_eq, length_range]
        exact k.isLt
      exact ⟨_, mem_range.mp (perm.mem_iff.mp (getElem_mem within)), getElem?_eq_getElem within⟩
    rcases found i with ⟨first, firstIn, isFirst⟩
    rcases found j with ⟨second, secondIn, isSecond⟩
    simp [exchangeMacros, isFirst, isSecond, mem_neg, firstIn, secondIn]
  | _ => rfl

end SequencePair

namespace Floorplan

variable {n : Nat}

lemma packFloorplan_packed (f : Floorplan n) : f.packFloorplan.Packed := by
  have member : ∀ id, id < n → id ∈ f.pair.pos_seq :=
    fun id less => f.pair.pos_perm.mem_iff.mpr (mem_range.mpr less)
  have inside : ∀ id ∈ f.pair.pos_seq, f.pair.neg_seq.idxOf id < f.pair.neg_seq.length :=
    fun id isIn => idxOf_lt_length_iff.mpr
      ((f.pair.pos_perm.trans f.pair.neg_perm.symm).mem_iff.mp isIn)
  have nodup := f.pair.pos_perm.nodup_iff.mpr nodup_range
  have size : f.pair.neg_seq.length = n := f.pair.neg_perm.length_eq.trans length_range
  have onX : Reached .x _ f.macros _ f.packX := pack_reached nodup inside
  have onY : Reached .y _ f.packX.2 _ f.packY :=
    pack_reached (nodup_reverse.mpr nodup) fun id isIn => inside id (mem_reverse.mp isIn)
  have still : ∀ id ∈ f.pair.pos_seq, (f.packY.2 id).x = (f.packX.2 id).x ∧
      Axis.x.reach (f.packY.2 id) = Axis.x.reach (f.packX.2 id) ∧
      ((f.packY.2 id).Movable ↔ (f.packX.2 id).Movable) := by
    intro id isIn
    rcases onY.moved id (mem_reverse.mpr isIn) with ⟨value, moved⟩
    rw [moved, place_movable]
    simp [Axis.reach, Axis.origin, Axis.length, place_other, place_same]
  have both : f.pair.pos_seq.Pairwise fun a b =>
      f.packFloorplan.Clear a b ∧ f.packFloorplan.Clear b a := by
    refine (onX.placed.and (pairwise_reverse.mp onY.placed)).imp_of_mem ?_
    rintro a b isA isB ⟨right, above⟩
    constructor
    · intro earlier movable
      left
      change Axis.x.reach (f.packY.2 a) ≤ (f.packY.2 b).x
      rw [(still a isA).2.1, (still b isB).1]
      exact right earlier ((still b isB).2.2.mp movable)
    · exact fun earlier movable => .inr (above earlier movable)
  constructor
  · intro a aIn b bIn earlier
    have differs : a ≠ b := fun same => absurd earlier (same ▸ lt_irrefl _)
    have : Std.Symm fun a b => f.packFloorplan.Clear a b ∧ f.packFloorplan.Clear b a :=
      ⟨fun _ _ holds => holds.symm⟩
    exact (both.forall (member a aIn) (member b bIn) differs).1 earlier
  · intro a aIn movable
    have isIn := member a aIn
    have onRow := onX.low a isIn ((still a isIn).2.2.mp movable)
    rw [Axis.origin, ← (still a isIn).1] at onRow
    exact ⟨onRow, onY.low a (mem_reverse.mpr isIn) movable⟩
  · intro a aIn
    have isIn := member a aIn
    have last := inside a isIn
    constructor
    · change Axis.x.reach (f.packY.2 a) ≤ f.packX.1 (n - 1)
      rw [(still a isIn).2.1]
      exact onX.bound a isIn (n - 1) (by omega) (by omega)
    · exact onY.bound a (mem_reverse.mpr isIn) (n - 1) (by omega) (by omega)

lemma Packed.disjoint {f : Floorplan n} (packed : f.Packed) {a b : Nat} (aIn : a < n) (bIn : b < n)
    (differ : a ≠ b) (aMoves : (f.macros a).Movable) (bMoves : (f.macros b).Movable) :
    (f.macros a).Apart (f.macros b) := by
  have apart : f.pair.neg_seq.idxOf a ≠ f.pair.neg_seq.idxOf b := fun same =>
    differ ((idxOf_inj ((f.pair.mem_neg).mpr aIn)).mp same)
  rcases lt_or_gt_of_ne apart with earlier | later
  · rcases packed.clear a aIn b bIn earlier bMoves with right | above
    · exact .inl right
    · exact .inr (.inr (.inl above))
  · rcases packed.clear b bIn a aIn later aMoves with right | above
    · exact .inr (.inl right)
    · exact .inr (.inr (.inr above))

/-- A refused turn leaves no trace. -/
lemma anneal_refused (f : Floorplan n) (turn : Turn n) (refused : turn.kept = false) :
    f.anneal turn = some f := by
  rcases Option.isSome_iff_exists.mp (f.pair.perturb_isSome turn.action turn.i turn.j) with
    ⟨pair, isPair⟩
  rw [anneal, isPair]
  simp only [refused, Option.bind_eq_bind, Option.bind_some, Bool.false_eq_true, if_false]
  generalize turn.action = action at isPair
  cases action with
  | posSwap | negSwap =>
    unfold SequencePair.perturb at isPair
    split at isPair <;> cases isPair <;> rfl
  | doubleSwap | exchange => rfl

lemma annealOn_packed (state : Option (Floorplan n)) (turn : Turn n)
    (packed : ∃ f ∈ state, f.Packed) (_ : True) : ∃ f' ∈ annealOn state turn, f'.Packed := by
  rcases packed with ⟨f, rfl, packed⟩
  cases kept : turn.kept with
  | false => exact ⟨f, anneal_refused f turn kept, packed⟩
  | true =>
    rcases Option.isSome_iff_exists.mp (f.pair.perturb_isSome turn.action turn.i turn.j) with
      ⟨pair, isPair⟩
    refine ⟨_, ?_, packFloorplan_packed { f with pair := pair }⟩
    simp [annealOn, anneal, isPair, kept]

/-- Once it is packed, no exchange fails, no two macros that can be moved overlap, and what is
refused leaves no trace. -/
theorem annealing_packs (f : Floorplan n) (turns : List (Turn n)) :
    Throughout annealOn (fun state => ∃ f' ∈ state, f'.Packed ∧ ∀ a < n, ∀ b < n, a ≠ b →
        (f'.macros a).Movable → (f'.macros b).Movable → (f'.macros a).Apart (f'.macros b))
      (some f.packFloorplan) turns ∧
    EachCall annealOn (fun state turn => turn.kept = false → annealOn state turn = state)
      (some f.packFloorplan) turns := by
  have start : ∃ f' ∈ some f.packFloorplan, f'.Packed := ⟨_, rfl, packFloorplan_packed f⟩
  constructor
  · refine throughout_mono ?_ (throughout_of_each annealOn_packed start fun _ _ _ => trivial)
    rintro state ⟨f', isState, packed⟩
    exact ⟨f', isState, packed, fun a aIn b bIn => packed.disjoint aIn bIn⟩
  · intro front turn _ refused
    cases run annealOn _ front with
    | none => rfl
    | some f' => exact anneal_refused f' turn refused

end Floorplan

end OpenRoad.Mpl
