import OpenRoad.Lib.Store

/-! A store whose objects were created one after the other and never destroyed: their identifiers
count up from one. -/

namespace OpenRoad.Lib

open Function List

namespace Store

variable {α : Type} {size n : Nat} {s : Store α}

structure Filled (size n : Nat) (s : Store α) : Prop where
  live : ∀ id, (s.objs id).isSome ↔ 1 ≤ id ∧ id ≤ n
  free : s.free = List.range' (n + 1) (s.pages * size - (n + 1))
  room : n < s.pages * size ∨ n = 0 ∧ s.pages = 0

lemma filled_empty (size : Nat) : Filled size 0 (empty : Store α) where
  live := by
    intro id
    exact iff_of_false (by simp [empty]) (by omega)
  free := by simp [empty]
  room := .inr ⟨rfl, rfl⟩

lemma filter_range' (start count : Nat) (pos : 0 < start) :
    (range' start count).filter (· ≠ 0) = range' start count := by
  apply filter_eq_self.mpr
  intro id member
  have bounds := List.mem_range'_1.mp member
  exact decide_eq_true (by omega)

lemma freshIds_first (two : 2 ≤ size) : freshIds size 0 = range' 1 (size - 1) := by
  have split : range' (0 * size) size = 0 :: range' 1 (size - 1) := by
    rw [Nat.zero_mul]
    obtain ⟨rest, rfl⟩ := Nat.exists_eq_add_of_le two
    have count : 2 + rest = (2 + rest - 1) + 1 := by omega
    rw [count, range'_succ]
    rfl
  rw [freshIds, split, filter_cons]
  exact filter_range' 1 _ (by decide)

lemma filled_grow (two : 2 ≤ size) (filled : Filled size n s) :
    (s.grow size).free = range' (n + 1) ((s.grow size).pages * size - (n + 1)) ∧
      n + 1 < (s.grow size).pages * size := by
  rw [grow, filled.free]
  split
  · rename_i exhausted
    have full : s.pages * size ≤ n + 1 := by
      have none := congrArg length exhausted
      rw [length_range', length_nil] at none
      omega
    have next : (s.pages + 1) * size = s.pages * size + size := Nat.succ_mul _ _
    rcases filled.room with room | ⟨isZero, noPages⟩
    · have last : s.pages * size = n + 1 := by omega
      refine ⟨?_, ?_⟩
      · change freshIds size s.pages = _
        rw [freshIds, last, filter_range' _ _ (by omega)]
        simp only [next, last, Nat.add_sub_cancel_left]
      · simp only [next]
        omega
    · refine ⟨?_, ?_⟩
      · change freshIds size s.pages = _
        simp only [noPages, isZero, Nat.zero_add, Nat.one_mul]
        exact freshIds_first two
      · simp only [noPages, isZero, Nat.zero_add, Nat.one_mul]
        omega
  · rename_i left
    refine ⟨filled.free, ?_⟩
    by_contra full
    apply left
    have none : s.pages * size - (n + 1) = 0 := by omega
    rw [none]
    rfl

lemma filled_create (two : 2 ≤ size) (filled : Filled size n s) (object : α) :
    ∃ s', s.create size object = some (n + 1, s') ∧ Filled size (n + 1) s' := by
  rcases filled_grow two filled with ⟨free, room⟩
  have split : (s.grow size).free = (n + 1) ::
      range' (n + 1 + 1) ((s.grow size).pages * size - (n + 1 + 1)) := by
    have count : (s.grow size).pages * size - (n + 1) =
        (s.grow size).pages * size - (n + 1 + 1) + 1 := by omega
    rw [free, count, range'_succ]
  refine ⟨⟨update s.objs (n + 1) (some object),
    range' (n + 1 + 1) ((s.grow size).pages * size - (n + 1 + 1)), (s.grow size).pages⟩, ?_, ?_⟩
  · simp only [create, split]
  · refine ⟨?_, rfl, .inl room⟩
    intro id
    change (update s.objs (n + 1) (some object) id).isSome ↔ _
    by_cases same : id = n + 1
    · rw [same, update_self]
      exact iff_of_true rfl (by omega)
    · rw [update_of_ne same, filled.live]
      omega

lemma filled_write {id : Nat} {object old : α} (filled : Filled size n s)
    (there : s.objs id = some old) : Filled size n (s.write id object) where
  live := by
    intro other
    rw [← filled.live]
    change (update s.objs id (some object) other).isSome ↔ _
    by_cases same : other = id
    · rw [same, update_self, there]
      rfl
    · rw [update_of_ne same]
  free := filled.free
  room := filled.room

lemma filled_ids (filled : Filled size n s) :
    (range (s.pages * size)).filter (fun id => (s.objs id).isSome) = range' 1 n := by
  have test : ∀ id, (s.objs id).isSome = decide (1 ≤ id ∧ id ≤ n) := by
    intro id
    rw [Bool.eq_iff_iff, filled.live id, decide_eq_true_eq]
  simp only [test]
  rcases filled.room with room | ⟨isZero, noPages⟩
  · obtain ⟨rest, count⟩ := Nat.exists_eq_add_of_lt room
    have whole : range (s.pages * size) =
        [0] ++ range' 1 n ++ range' (n + 1) rest := by
      rw [range_eq_range', count, show n + rest + 1 = 1 + n + rest by omega,
        ← List.range'_append_1, ← List.range'_append_1]
      simp [Nat.add_comm]
    have inner : (range' 1 n).filter (fun id => decide (1 ≤ id ∧ id ≤ n)) =
        range' 1 n := by
      apply filter_eq_self.mpr
      intro id member
      have bounds := List.mem_range'_1.mp member
      exact decide_eq_true (by omega)
    have outer : (range' (n + 1) rest).filter (fun id => decide (1 ≤ id ∧ id ≤ n)) = [] := by
      apply filter_eq_nil_iff.mpr
      intro id member
      have bounds := List.mem_range'_1.mp member
      rw [decide_eq_true_eq]
      omega
    rw [whole, filter_append, filter_append, inner, outer, append_nil]
    rfl
  · rw [noPages, isZero, Nat.zero_mul]
    rfl

end Store

end OpenRoad.Lib
