import OpenRoad.Dpl.UtilBuckets

/-! The area of cells in bins, as loops over the bins under a cell add it up. -/

namespace OpenRoad.Dpl

open OpenRoad.Lib List Architecture

def overlapArea (bin : Rect) (nd : Node) : Int :=
  max 0 (min bin.xMax nd.getRight - max bin.xMin nd.left) *
    max 0 (min bin.yMax nd.getTop - max bin.yMin nd.bottom)

lemma exceeds_rounding (d : Int) : (d : ℚ) > 1 / 100000 ↔ 0 < d := by
  constructor
  · intro more
    by_contra notPositive
    have low : (d : ℚ) ≤ 0 := by exact_mod_cast not_lt.mp notPositive
    linarith
  · intro positive
    have atLeast : (1 : ℚ) ≤ d := by exact_mod_cast positive
    linarith

lemma common_area_eq (arch : Architecture) (binId : Nat) (nd : Node) :
    (arch.common_area binId nd).getD 0 = overlapArea (arch.bin binId) nd := by
  simp only [common_area, exceeds_rounding, overlapArea]
  split
  · rename_i both
    rw [max_eq_right both.1.le, max_eq_right both.2.le, Option.getD_some]
  · rename_i notBoth
    rw [Option.getD_none]
    rcases not_and_or.mp notBoth with empty | empty
    · rw [max_eq_left (not_lt.mp empty), zero_mul, Int.cast_zero]
    · rw [max_eq_left (not_lt.mp empty), mul_zero, Int.cast_zero]

variable {arch : Architecture}

variable {binId : Nat} {nd : Node}

lemma common_area_some {area : ℚ} (isSome : arch.common_area binId nd = some area) :
    max (arch.bin binId).xMin nd.left < min (arch.bin binId).xMax nd.getRight ∧
      max (arch.bin binId).yMin nd.bottom < min (arch.bin binId).yMax nd.getTop := by
  simp only [common_area, exceeds_rounding] at isSome
  split at isSome
  · rename_i both
    exact ⟨by omega, by omega⟩
  · cases isSome

lemma mem_binRange {unit low high : Int} {count k : Nat} : k ∈ binRange unit count low high ↔
      k < count ∧ max (low / unit) 0 ≤ (k : Int) ∧ (k : Int) ≤ min (high / unit) (count - 1) := by
  rw [binRange, mem_filter, mem_range, decide_eq_true_eq]

lemma binRange_nodup (unit : Int) (count : Nat) (low high : Int) :
    (binRange unit count low high).Nodup := nodup_range.filter _

lemma binRange_covers {unit low high edge : Int} {count k : Nat} (units : 0 < unit)
    (inside : k < count) (before : low < edge + (k + 1) * unit) (after : edge + k * unit < high) :
    k ∈ binRange unit count (low - edge) (high - edge) := by
  rw [mem_binRange]
  have first : (low - edge) / unit ≤ k := by
    have below : (low - edge) / unit < k + 1 := Int.ediv_lt_of_lt_mul units (by linarith)
    omega
  have last : (k : Int) ≤ (high - edge) / unit := Int.le_ediv_of_mul_le units (by linarith)
  omega

lemma mem_binsUnder : binId ∈ arch.binsUnder nd ↔ ∃ j k,
      j ∈ binRange arch.abuGridUnit arch.abuGridNumY (nd.bottom - arch.minY)
        (nd.getTop - arch.minY) ∧
      k ∈ binRange arch.abuGridUnit arch.abuGridNumX (nd.left - arch.minX)
        (nd.getRight - arch.minX) ∧
      j * arch.abuGridNumX + k = binId := by
  simp only [binsUnder, mem_flatMap, mem_map]
  constructor
  · rintro ⟨j, isRow, k, isColumn, same⟩
    exact ⟨j, k, isRow, isColumn, same⟩
  · rintro ⟨j, k, isRow, isColumn, same⟩
    exact ⟨j, isRow, k, isColumn, same⟩

lemma binsUnder_lt (isUnder : binId ∈ arch.binsUnder nd) : binId < arch.abuNumBins := by
  rcases mem_binsUnder.mp isUnder with ⟨j, k, isRow, isColumn, rfl⟩
  have row := (mem_binRange.mp isRow).1
  have column := (mem_binRange.mp isColumn).1
  calc j * arch.abuGridNumX + k
      < j * arch.abuGridNumX + arch.abuGridNumX := by omega
    _ = (j + 1) * arch.abuGridNumX := by ring
    _ ≤ arch.abuGridNumY * arch.abuGridNumX := Nat.mul_le_mul_right _ row
    _ = arch.abuNumBins := Nat.mul_comm _ _

lemma binsUnder_nodup (arch : Architecture) (nd : Node) : (arch.binsUnder nd).Nodup := by
  rw [binsUnder, nodup_flatMap]
  constructor
  · intro j _
    exact (binRange_nodup _ _ _ _).map fun k k' same => Nat.add_left_cancel same
  · apply (binRange_nodup _ _ _ _).imp
    intro j j' differ binId first second
    simp only at first second
    rcases mem_map.mp first with ⟨k, isColumn, rfl⟩
    rcases mem_map.mp second with ⟨k', isColumn', same⟩
    apply differ
    have column := (mem_binRange.mp isColumn).1
    have column' := (mem_binRange.mp isColumn').1
    have rows := congrArg (· / arch.abuGridNumX) same
    simp only [Nat.mul_comm _ arch.abuGridNumX, Nat.mul_add_div (by omega : 0 < arch.abuGridNumX),
      Nat.div_eq_of_lt column, Nat.div_eq_of_lt column', Nat.add_zero] at rows
    exact rows.symm

lemma overlapped_isUnder (units : 0 < arch.abuGridUnit) (isBin : binId < arch.abuNumBins) {area : ℚ}
    (isSome : arch.common_area binId nd = some area) : binId ∈ arch.binsUnder nd := by
  rcases common_area_some isSome with ⟨across, upward⟩
  rw [abuNumBins] at isBin
  have columns : 0 < arch.abuGridNumX := Nat.pos_of_ne_zero fun none => by
    rw [none, Nat.zero_mul] at isBin
    exact Nat.not_lt_zero _ isBin
  have column : binId % arch.abuGridNumX < arch.abuGridNumX := Nat.mod_lt _ columns
  have row : binId / arch.abuGridNumX < arch.abuGridNumY := by
    rw [Nat.div_lt_iff_lt_mul columns, Nat.mul_comm]
    exact isBin
  simp only [bin, binBox] at across upward
  refine mem_binsUnder.mpr ⟨_, _, binRange_covers units row ?_ ?_,
    binRange_covers units column ?_ ?_, Nat.div_add_mod' _ _⟩
  · rw [add_mul, one_mul]
    omega
  · omega
  · rw [add_mul, one_mul]
    omega
  · omega

def Architecture.share (arch : Architecture) (binId : Nat) (nd : Node) : ℚ :=
  if binId < arch.abuNumBins then overlapArea (arch.bin binId) nd else 0

lemma share_of_common (isBin : binId < arch.abuNumBins) (nd : Node) :
    (arch.common_area binId nd).getD 0 = arch.share binId nd := by
  rw [Architecture.share, if_pos isBin, common_area_eq]

lemma share_outside (units : 0 < arch.abuGridUnit) (outside : binId ∉ arch.binsUnder nd) :
    arch.share binId nd = 0 := by
  by_cases isBin : binId < arch.abuNumBins
  · rw [← share_of_common isBin]
    cases common : arch.common_area binId nd with
    | none => rfl
    | some area => exact absurd (overlapped_isUnder units isBin common) outside
  · rw [Architecture.share, if_neg isBin]

lemma foldl_update_add (area : Nat → Option ℚ) (places : List Nat) (nodup : places.Nodup) :
    ∀ (util : Nat → ℚ) (b : Nat), places.foldl (fun util place =>
        match area place with
        | some a => Function.update util place (util place + a)
        | none => util) util b =
      util b + if b ∈ places then (area b).getD 0 else 0 := by
  induction places with
  | nil => simp
  | cons place places ih =>
    intro util b
    have outside := (nodup_cons.mp nodup).1
    rw [foldl_cons, ih (nodup_cons.mp nodup).2]
    by_cases same : b = place
    · subst same
      rw [if_neg outside, if_pos mem_cons_self, add_zero]
      cases area b with
      | none => simp
      | some a => simp
    · have others : (b ∈ place :: places) ↔ b ∈ places := by simp [same]
      simp only [others]
      cases area place with
      | none => rfl
      | some a => simp [Function.update_of_ne same]

lemma insertArea_eq (units : 0 < arch.abuGridUnit) (util : Nat → ℚ) (nd : Node) (binId : Nat) :
    arch.insertArea util nd binId = util binId + arch.share binId nd := by
  rw [insertArea]
  refine (foldl_update_add (fun b => arch.common_area b nd) _ (binsUnder_nodup arch nd) util
    binId).trans ?_
  by_cases isUnder : binId ∈ arch.binsUnder nd
  · rw [if_pos isUnder, share_of_common (binsUnder_lt isUnder)]
  · rw [if_neg isUnder, share_outside units isUnder]

lemma insertAreas_eq (units : 0 < arch.abuGridUnit) (cells : List Node) :
    ∀ (util : Nat → ℚ) (binId : Nat), cells.foldl arch.insertArea util binId =
      util binId + (cells.map (arch.share binId)).sum := by
  induction cells with
  | nil => simp
  | cons nd cells ih =>
    intro util binId
    rw [foldl_cons, ih, insertArea_eq units, map_cons, sum_cons, add_assoc]

def Architecture.movableArea (arch : Architecture) (numNodes : Nat) (nodes : Nat → Node)
    (binId : Nat) : ℚ :=
  (((List.range numNodes).filter (Movable nodes)).map fun n => arch.share binId (nodes n)).sum

lemma computeUtils_eq {abu : DetailedABU} (units : 0 < abu.arch.abuGridUnit) (numNodes : Nat)
    (nodes : Nat → Node) (binId : Nat) :
    (abu.clearUtils.computeUtils numNodes nodes).m_util binId =
      abu.arch.movableArea numNodes nodes binId := by
  simp only [DetailedABU.computeUtils, DetailedABU.clearUtils]
  rw [insertAreas_eq units, map_map, zero_add]
  rfl

end OpenRoad.Dpl
