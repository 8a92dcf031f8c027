import Mathlib.Tactic

/-! Tables filled slot by slot by a loop over items. -/

namespace OpenRoad.Lib.Tally

open List

variable {ι α : Type}

lemma getElem?_modifies (slot : ι → Nat) (update : ι → α → α) (items : List ι) :
    ∀ (table : List α) (b : Nat),
      (items.foldl (fun table i => table.modify (slot i) (update i)) table)[b]? =
        table[b]?.map fun x =>
          (items.filter fun i => slot i = b).foldl (fun x i => update i x) x := by
  induction items with
  | nil =>
    intro table b
    rw [foldl_nil, filter_nil]
    exact Option.map_id'.symm
  | cons item rest ih =>
    intro table b
    rw [foldl_cons, ih, getElem?_modify, filter_cons]
    by_cases own : slot item = b
    · simp only [own, if_true, decide_true, foldl_cons, Option.map_map,
        Function.comp_def, Option.map_eq_map]
    · simp only [own, if_false, decide_false, Bool.false_eq_true, id_map']

lemma length_modifies (slot : ι → Nat) (update : ι → α → α) (items : List ι) : ∀ table : List α,
      (items.foldl (fun table i => table.modify (slot i) (update i)) table).length =
        table.length := by
  induction items with
  | nil => exact fun _ => rfl
  | cons item rest ih =>
    intro table
    rw [foldl_cons, ih, length_modify]

lemma foldl_add [AddCommMonoid α] (weight : ι → α) (items : List ι) :
    ∀ start, items.foldl (fun sum i => sum + weight i) start = start + (items.map weight).sum := by
  induction items with
  | nil =>
    intro start
    rw [foldl_nil, map_nil, sum_nil, add_zero]
  | cons item rest ih =>
    intro start
    rw [foldl_cons, ih, map_cons, sum_cons, add_assoc]

lemma getElem?_totals [AddCommMonoid α] (slot : ι → Nat) (weight : ι → α) (items : List ι)
    (slots b : Nat) :
    (items.foldl (fun table i => table.modify (slot i) (· + weight i))
      (replicate slots 0))[b]? =
      if b < slots then some ((items.filter fun i => slot i = b).map weight).sum else none := by
  rw [getElem?_modifies slot (fun i x => x + weight i), getElem?_replicate]
  split
  · rw [Option.map_some, foldl_add, zero_add]
  · rfl

lemma foldl_append_singleton (items : List ι) :
    ∀ start, items.foldl (fun group i => group ++ [i]) start = start ++ items := by
  induction items with
  | nil => exact fun start => (append_nil start).symm
  | cons item rest ih =>
    intro start
    rw [foldl_cons, ih, append_assoc, singleton_append]

lemma getElem?_groups (slot : ι → Nat) (items : List ι) (slots b : Nat) :
    (items.foldl (fun table i => table.modify (slot i) (· ++ [i]))
      (replicate slots []))[b]? =
      if b < slots then some (items.filter fun i => slot i = b) else none := by
  rw [getElem?_modifies slot (fun i group => group ++ [i]), getElem?_replicate]
  split
  · rw [Option.map_some, foldl_append_singleton, nil_append]
  · rfl

lemma getElem?_writes (value : Nat → α) (writes : List (Nat × α)) :
    ∀ (table : List α) (b : Nat), (∀ w ∈ writes, w.2 = value w.1) → b < table.length →
      (writes.foldl (fun table w => table.set w.1 w.2) table)[b]? =
        if b ∈ writes.map Prod.fst then some (value b) else table[b]? := by
  induction writes with
  | nil =>
    intro table b _ _
    rfl
  | cons write rest ih =>
    intro table b agree inside
    rw [foldl_cons, ih _ b (fun w member => agree w (mem_cons_of_mem _ member))
      (by rwa [length_set])]
    simp only [map_cons, mem_cons]
    by_cases later : b ∈ rest.map Prod.fst
    · rw [if_pos later, if_pos (.inr later)]
    · rw [if_neg later, getElem?_set]
      by_cases here : write.1 = b
      · rw [if_pos here, if_pos (here ▸ inside), if_pos (.inl here.symm),
          agree write mem_cons_self, here]
      · rw [if_neg here, if_neg (fun either => either.elim (fun same => here same.symm) later)]

lemma sum_range_map [AddCommMonoid α] (n : Nat) (weight : Nat → α) :
    ((range n).map weight).sum = ∑ i ∈ Finset.range n, weight i := by
  induction n with
  | zero => rfl
  | succ n ih =>
    rw [range_succ, map_append, sum_append, ih, Finset.sum_range_succ]
    simp

lemma sum_range_filter [AddCommMonoid α] (n : Nat) (keep : Nat → Prop) [DecidablePred keep]
    (weight : Nat → α) :
    (((range n).filter fun i => keep i).map weight).sum =
      ∑ i ∈ Finset.range n, if keep i then weight i else 0 := by
  rw [← sum_range_map]
  induction range n with
  | nil => rfl
  | cons i rest ih =>
    rw [filter_cons, map_cons, sum_cons, ← ih]
    by_cases kept : keep i
    · simp [kept]
    · simp [kept]

lemma sum_groups [AddCommMonoid α] (n slots : Nat) (slot : Nat → Nat)
    (inside : ∀ i < n, slot i < slots) (keep : Nat → Prop) [DecidablePred keep] (weight : Nat → α) :
    (∑ c ∈ Finset.range slots,
      if keep c then ∑ i ∈ Finset.range n, if slot i = c then weight i else 0 else 0) =
      ∑ i ∈ Finset.range n, if keep (slot i) then weight i else 0 := by
  calc (∑ c ∈ Finset.range slots,
        if keep c then ∑ i ∈ Finset.range n, if slot i = c then weight i else 0 else 0)
      = ∑ c ∈ Finset.range slots, ∑ i ∈ Finset.range n,
          if slot i = c then (if keep (slot i) then weight i else 0) else 0 := by
        refine Finset.sum_congr rfl fun c _ => ?_
        split
        · rename_i kept
          refine Finset.sum_congr rfl fun i _ => ?_
          split
          · rename_i same
            rw [same, if_pos kept]
          · rfl
        · rename_i dropped
          refine (Finset.sum_eq_zero fun i _ => ?_).symm
          split
          · rename_i same
            rw [same, if_neg dropped]
          · rfl
    _ = ∑ i ∈ Finset.range n, ∑ c ∈ Finset.range slots,
          if slot i = c then (if keep (slot i) then weight i else 0) else 0 := Finset.sum_comm
    _ = ∑ i ∈ Finset.range n, if keep (slot i) then weight i else 0 := by
        refine Finset.sum_congr rfl fun i member => ?_
        rw [Finset.sum_ite_eq, if_pos (Finset.mem_range.mpr (inside i (Finset.mem_range.mp member)))]

end OpenRoad.Lib.Tally
