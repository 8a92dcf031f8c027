import Mathlib.Data.List.Sort
import Mathlib.Tactic

/-! Costs and ranks of slots packed into the entries of the Hungarian matrix. -/

namespace OpenRoad.Ppl

open List

/-- What `computeIONetHPWL` and `getMirroredPinCost` say of one pin at a free slot. -/
structure PinCost where
  io_net_hpwl : Int
  mirrored_cost : Int

structure Column where
  message : Nat
  is_mirrored : Bool
  costs : List (Int × Int)

def Column.hpwls (column : Column) : List Int := column.costs.map Prod.fst

def Column.larger_costs (column : Column) : List Int := column.costs.map Prod.snd

def hungarian_fail : Int := 2 ^ 31 - 1

/-- A sum as an `int` of 32 bits. -/
def toInt (sum : Int) : Int := Int.bmod sum (2 ^ 32)

/-- The column of a pin in `createMatrix`. -/
def pinColumn (slots : List PinCost) : Column where
  message := 210
  is_mirrored := slots.any fun slot => slot.mirrored_cost ≠ 0
  costs := slots.map fun slot =>
    (toInt (slot.io_net_hpwl + slot.mirrored_cost), max slot.io_net_hpwl slot.mirrored_cost)

/-- The loop over the pins of a group at one slot. -/
def groupCost : List PinCost → Bool → Int × Int → Bool × Int × Int
  | [], is_mirrored, costs => (is_mirrored, costs)
  | pin :: pins, is_mirrored, (group_hpwl, larger_cost) =>
      if pin.io_net_hpwl = hungarian_fail then (is_mirrored, hungarian_fail, larger_cost)
      else groupCost pins (is_mirrored || pin.mirrored_cost ≠ 0)
        (toInt (group_hpwl + toInt (pin.io_net_hpwl + pin.mirrored_cost)),
          toInt (larger_cost + max pin.io_net_hpwl pin.mirrored_cost))

/-- The column of a group in `createMatrixForGroups`: a capacity and the pins for each slot. -/
def groupColumn (slots : List (Nat × List PinCost)) : Column where
  message := 211
  is_mirrored := slots.any fun slot => (groupCost slot.2 false (0, 0)).1
  costs := slots.map fun slot =>
    let (group_hpwl, larger_cost) := (groupCost slot.2 false (0, 0)).2
    (if slot.2.length > slot.1 then hungarian_fail else group_hpwl, larger_cost)

def sortIndexes (v : List Int) : List Nat :=
  (range v.length).insertionSort fun i1 i2 => v.getD i1 0 ≤ v.getD i2 0

/-- The ranking is a `uint8_t`. -/
def assignRanks : List Nat → Nat → List Nat → List Nat
  | [], _, rank => rank
  | i :: order, ranking, rank => assignRanks order ((ranking + 1) % 256) (rank.set i ranking)

def getTieBreakRank (costs : List Int) : List Nat :=
  assignRanks (sortIndexes costs) 1 (replicate costs.length 0)

/-- `(hpwl << 8) | rank` as an `int` of 32 bits. -/
def packed (hpwl : Int) (rank : Nat) : Int :=
  Int.bmod ((hpwl.toNat <<< 8 ||| rank : Nat) : Int) (2 ^ 32)

def Column.entries (column : Column) : Except (Nat × String) (List Int) :=
  if column.is_mirrored then
    if column.hpwls.any fun hpwl => hpwl >>> (24 : Nat) ≠ 0 then
      .error (column.message, "Cost for pin exceeds 24 bits.")
    else .ok (zipWith packed column.hpwls (getTieBreakRank column.larger_costs))
  else .ok column.hpwls

/-- The total wirelength of each slot and its larger costs, without overflow. -/
def pinTotals (slots : List PinCost) : List (Int × Int) :=
  slots.map fun slot =>
    (slot.io_net_hpwl + slot.mirrored_cost, max slot.io_net_hpwl slot.mirrored_cost)

def groupTotals (slots : List (Nat × List PinCost)) : List (Int × Int) :=
  slots.map fun slot =>
    (((pinTotals slot.2).map Prod.fst).sum, ((pinTotals slot.2).map Prod.snd).sum)

/-- The entries of two slots are in the order of their totals, then of their larger costs. -/
def Ordered (totals : List (Int × Int)) (entries : List Int) : Prop :=
  ∀ (a b : Nat) (totalA totalB : Int × Int) entryA entryB,
    totals[a]? = some totalA → totals[b]? = some totalB →
    entries[a]? = some entryA → entries[b]? = some entryB →
    (totalA.1 < totalB.1 → entryA < entryB) ∧
      (totalA.1 = totalB.1 → totalA.2 < totalB.2 → entryA < entryB)

def rankOf (costs : List Int) (slot : Nat) : Nat := ((sortIndexes costs).idxOf slot + 1) % 256

/-- What is left of a total: its lowest 24 bits, of which the highest becomes the sign. -/
def signed24 (total : Int) : Int := Int.bmod total (2 ^ 24)

/-- Totals keep their order in 24 bits with a sign, and no rank wraps between two slots of one
total. -/
def Column.Packable (column : Column) (totals : List (Int × Int)) : Prop :=
  ∀ (a b : Nat) (totalA totalB : Int × Int), totals[a]? = some totalA → totals[b]? = some totalB →
    (totalA.1 < totalB.1 → signed24 totalA.1 < signed24 totalB.1 ∨
      signed24 totalA.1 = signed24 totalB.1 ∧
        rankOf column.larger_costs a < rankOf column.larger_costs b) ∧
      (totalA.1 = totalB.1 → totalA.2 < totalB.2 →
        rankOf column.larger_costs a < rankOf column.larger_costs b)

lemma packed_eq {hpwl : Int} {rank : Nat} (low : 0 ≤ hpwl) (high : hpwl < 2 ^ 24)
    (byte : rank < 256) : packed hpwl rank = signed24 hpwl * 256 + rank := by
  have eightBits : rank < 2 ^ 8 := by omega
  have whole : hpwl.toNat <<< 8 ||| rank = hpwl.toNat * 256 + rank := by
    rw [← Nat.shiftLeft_add_eq_or_of_lt eightBits, Nat.shiftLeft_eq]
  have small : ((hpwl.toNat * 256 + rank : Nat) : Int) = hpwl * 256 + rank := by omega
  unfold packed signed24
  rw [whole, small, Int.bmod_def, Int.bmod_def, Int.emod_eq_of_lt (by omega) (by omega),
    Int.emod_eq_of_lt low (by omega)]
  split <;> split <;> omega

lemma packed_total {total : Int} {rank : Nat} (low : 0 ≤ toInt total)
    (high : toInt total < 2 ^ 24) (byte : rank < 256) :
    packed (toInt total) rank = signed24 total * 256 + rank := by
  rw [packed_eq low high byte, signed24, toInt, Int.bmod_bmod_of_dvd (by decide)]
  rfl

lemma packed_lt {totalA totalB : Int} {rankA rankB : Nat} (byteA : rankA < 256)
    (byteB : rankB < 256) : signed24 totalA * 256 + rankA < signed24 totalB * 256 + rankB ↔
      signed24 totalA < signed24 totalB ∨ signed24 totalA = signed24 totalB ∧ rankA < rankB := by
  omega

lemma assignRanks_absent {order : List Nat} {slot : Nat} (absent : slot ∉ order) (ranking : Nat)
    (rank : List Nat) : (assignRanks order ranking rank)[slot]? = rank[slot]? := by
  induction order generalizing ranking rank with
  | nil => rfl
  | cons i order ih =>
      rw [mem_cons, not_or] at absent
      rw [assignRanks, ih absent.2, getElem?_set_ne (Ne.symm absent.1)]

lemma assignRanks_present {order : List Nat} {slot : Nat} (nodup : order.Nodup)
    (present : slot ∈ order) {ranking : Nat} (byte : ranking < 256) {rank : List Nat}
    (inside : slot < rank.length) :
    (assignRanks order ranking rank)[slot]? = some ((order.idxOf slot + ranking) % 256) := by
  induction order generalizing ranking rank with
  | nil => simp at present
  | cons i order ih =>
      obtain ⟨fresh, nodup⟩ := nodup_cons.mp nodup
      by_cases isFirst : i = slot
      · subst isFirst
        rw [assignRanks, assignRanks_absent fresh, getElem?_set_self inside, idxOf_cons_self,
          Nat.zero_add, Nat.mod_eq_of_lt byte]
      · have later : slot ∈ order := by simpa [Ne.symm isFirst] using present
        rw [assignRanks, ih nodup later (Nat.mod_lt _ (by decide)) (by simpa using inside),
          idxOf_cons_ne _ isFirst, Nat.add_mod_mod]
        congr 2
        omega

lemma getTieBreakRank_eq {costs : List Int} {slot : Nat} (inside : slot < costs.length) :
    (getTieBreakRank costs)[slot]? = some (rankOf costs slot) := by
  have permuted : (sortIndexes costs).Perm (range costs.length) := perm_insertionSort _ _
  exact assignRanks_present (permuted.nodup_iff.mpr nodup_range)
    (permuted.mem_iff.mpr (mem_range.mpr inside)) (by decide) (by simpa using inside)

/-- The costs of a column are its totals as an `int`, or the value of a failure. -/
def Column.Sums (column : Column) (totals : List (Int × Int)) : Prop :=
  Forall₂ (fun cost total => cost.1 = hungarian_fail ∨ cost.1 = toInt total.1) column.costs totals

lemma pinColumn_sums (slots : List PinCost) : (pinColumn slots).Sums (pinTotals slots) := by
  rw [Column.Sums, pinColumn, pinTotals, forall₂_map_left_iff, forall₂_map_right_iff, forall₂_same]
  exact fun _ _ => .inr rfl

lemma groupCost_sums (pins : List PinCost) (is_mirrored : Bool) (sum larger_cost : Int) :
    (groupCost pins is_mirrored (toInt sum, larger_cost)).2.1 = hungarian_fail ∨
      (groupCost pins is_mirrored (toInt sum, larger_cost)).2.1 =
        toInt (sum + ((pinTotals pins).map Prod.fst).sum) := by
  induction pins generalizing is_mirrored sum larger_cost with
  | nil => exact .inr (by simp [groupCost, pinTotals])
  | cons pin pins ih =>
    rw [groupCost]
    split
    · exact .inl rfl
    · have added : toInt (toInt sum + toInt (pin.io_net_hpwl + pin.mirrored_cost)) =
          toInt (sum + (pin.io_net_hpwl + pin.mirrored_cost)) := by
        simp only [toInt, Int.bmod_add_bmod, Int.add_bmod_bmod]
      rw [added]
      refine (ih _ _ _).imp_right fun same => same.trans ?_
      simp only [pinTotals, map_cons, sum_cons, ← add_assoc]

lemma groupColumn_sums (slots : List (Nat × List PinCost)) :
    (groupColumn slots).Sums (groupTotals slots) := by
  rw [Column.Sums, groupColumn, groupTotals, forall₂_map_left_iff, forall₂_map_right_iff,
    forall₂_same]
  intro slot _
  have sums := groupCost_sums slot.2 false 0 0
  rw [show toInt 0 = 0 from rfl, zero_add] at sums
  dsimp only
  split
  · exact .inl rfl
  · exact sums

lemma ordered_iff_packable (column : Column) {totals : List (Int × Int)}
    (sums : column.Sums totals) (mirrored : column.is_mirrored = true)
    {entries : List Int} (made : column.entries = .ok entries) :
    Ordered totals entries ↔ column.Packable totals := by
  rw [Column.entries, if_pos mirrored] at made
  split at made
  case isTrue => contradiction
  case isFalse checked =>
    obtain rfl := Except.ok.inj made
    have byte : ∀ a, rankOf column.larger_costs a < 256 := fun _ => Nat.mod_lt _ (by decide)
    have entry : ∀ (a : Nat) (total : Int × Int), totals[a]? = some total →
        (zipWith packed column.hpwls (getTieBreakRank column.larger_costs))[a]? =
          some (signed24 total.1 * 256 + rankOf column.larger_costs a) := by
      intro a total atSlot
      have inside : a < column.costs.length := by
        rw [sums.length_eq]
        exact (List.getElem?_eq_some_iff.mp atSlot).1
      have isCost := getElem?_eq_getElem inside
      have isSum := (forall₂_iff_get.mp sums).2 a inside (List.getElem?_eq_some_iff.mp atSlot).1
      simp only [get_eq_getElem, (List.getElem?_eq_some_iff.mp atSlot).2] at isSum
      have member : column.costs[a].1 ∈ column.hpwls := mem_map_of_mem (getElem_mem inside)
      simp only [any_eq_true, not_exists, not_and] at checked
      have shifted := checked _ member
      simp only [ne_eq, decide_not, Bool.not_eq_true', decide_eq_false_iff_not, not_not,
        Int.shiftRight_eq_div_pow] at shifted
      have noFailure : column.costs[a].1 ≠ hungarian_fail := by
        intro failed
        rw [failed] at shifted
        exact absurd shifted (by decide)
      replace isSum := isSum.resolve_left noFailure
      have place : a < column.larger_costs.length := by simpa [Column.larger_costs] using inside
      rw [getElem?_zipWith, getTieBreakRank_eq place, Column.hpwls, getElem?_map, isCost,
        ← packed_total (by omega) (by omega) (byte a), ← isSum]
      rfl
    constructor
    · intro ordered a b totalA totalB atA atB
      have both := ordered a b totalA totalB _ _ atA atB (entry a totalA atA) (entry b totalB atB)
      refine ⟨fun below => (packed_lt (byte a) (byte b)).mp (both.1 below), fun same larger => ?_⟩
      have less := both.2 same larger
      rw [same] at less
      omega
    · intro packable a b totalA totalB entryA entryB atA atB isA isB
      rw [entry a totalA atA] at isA
      rw [entry b totalB atB] at isB
      obtain rfl := Option.some.inj isA
      obtain rfl := Option.some.inj isB
      have both := packable a b totalA totalB atA atB
      refine ⟨fun below => (packed_lt (byte a) (byte b)).mpr (both.1 below), fun same larger => ?_⟩
      have less := both.2 same larger
      rw [same]
      omega

theorem entries_ordered_iff (pins : List PinCost) (groups : List (Nat × List PinCost))
    (entries : List Int) :
    ((pinColumn pins).is_mirrored = true → (pinColumn pins).entries = .ok entries →
      (Ordered (pinTotals pins) entries ↔ (pinColumn pins).Packable (pinTotals pins))) ∧
    ((groupColumn groups).is_mirrored = true → (groupColumn groups).entries = .ok entries →
      (Ordered (groupTotals groups) entries ↔
        (groupColumn groups).Packable (groupTotals groups))) :=
  ⟨fun mirrored => ordered_iff_packable _ (pinColumn_sums pins) mirrored,
    fun mirrored => ordered_iff_packable _ (groupColumn_sums groups) mirrored⟩

def threeSlots : List PinCost := [⟨1, 2⟩, ⟨3, 4⟩, ⟨0, 3⟩]

def twoGroups : List (Nat × List PinCost) := [(2, [⟨1, 2⟩, ⟨5, 1⟩]), (2, [⟨2, 2⟩, ⟨1, 1⟩])]

lemma threeSlots_packable : (pinColumn threeSlots).Packable (pinTotals threeSlots) := by
  intro a b totalA totalB atA atB
  have insideA : a < 3 := (List.getElem?_eq_some_iff.mp atA).1
  have insideB : b < 3 := (List.getElem?_eq_some_iff.mp atB).1
  interval_cases a <;> interval_cases b <;> cases atA <;> cases atB <;> decide

lemma twoGroups_packable : (groupColumn twoGroups).Packable (groupTotals twoGroups) := by
  intro a b totalA totalB atA atB
  have insideA : a < 2 := (List.getElem?_eq_some_iff.mp atA).1
  have insideB : b < 2 := (List.getElem?_eq_some_iff.mp atB).1
  interval_cases a <;> interval_cases b <;> cases atA <;> cases atB <;> decide

/-- The first and the last slot have one total, and the groups two. -/
theorem entries_ordered_sample : Ordered (pinTotals threeSlots) [769, 1795, 770] ∧
    Ordered (groupTotals twoGroups) [2306, 1537] :=
  ⟨((entries_ordered_iff threeSlots [] [769, 1795, 770]).1 (by decide)
      (by decide)).mpr threeSlots_packable,
    ((entries_ordered_iff [] twoGroups [2306, 1537]).2 (by decide)
      (by decide +kernel)).mpr twoGroups_packable⟩

/-- The second total has its highest bit, which becomes the sign. -/
theorem packed_sign_wraps :
    (pinColumn [⟨1, 1⟩, ⟨2 ^ 23, 1⟩]).entries = .ok [513, -2147483390] ∧
    ¬ Ordered (pinTotals [⟨1, 1⟩, ⟨2 ^ 23, 1⟩]) [513, -2147483390] := by
  refine ⟨rfl, ?_⟩
  intro ordered
  have entries := (ordered 0 1 _ _ _ _ rfl rfl rfl rfl).1 (by decide)
  omega

end OpenRoad.Ppl
