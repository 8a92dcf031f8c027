import Mathlib.Tactic

/-! Binary heaps in lists: the order between parents and children, and what moves up and down. -/

namespace OpenRoad.Lib.HeapOrder

open List

variable {α : Type}

def parent (i : Nat) : Nat := (i - 1) / 2

def leftChild (i : Nat) : Nat := 2 * i + 1

def rightChild (i : Nat) : Nat := 2 * i + 2

lemma parent_lt {i : Nat} (positive : 0 < i) : parent i < i := by
  rw [parent]
  omega

lemma parent_leftChild (i : Nat) : parent (leftChild i) = i := by
  rw [parent, leftChild]
  omega

lemma parent_rightChild (i : Nat) : parent (rightChild i) = i := by
  rw [parent, rightChild]
  omega

lemma child_cases {i : Nat} (positive : 0 < i) :
    i = leftChild (parent i) ∨ i = rightChild (parent i) := by
  rw [parent, leftChild, rightChild]
  omega

def swap (items : List α) (i j : Nat) : List α :=
  match items[i]?, items[j]? with
  | some a, some b => (items.set i b).set j a
  | _, _ => items

variable {items : List α} {i j k : Nat}

lemma length_swap (items : List α) (i j : Nat) : (swap items i j).length = items.length := by
  rw [swap]
  split
  · rw [length_set, length_set]
  · rfl

lemma getElem?_swap (insideI : i < items.length) (insideJ : j < items.length) (k : Nat) :
    (swap items i j)[k]? = items[Equiv.swap i j k]? := by
  rw [swap, getElem?_eq_getElem insideI, getElem?_eq_getElem insideJ]
  dsimp only
  rw [getElem?_set, getElem?_set, length_set, Equiv.swap_apply_def]
  by_cases atJ : k = j
  · by_cases atI : k = i
    · rw [if_pos atJ.symm, if_pos insideJ, if_pos atI, getElem?_eq_getElem insideJ]
      simp only [← atI, ← atJ]
    · rw [if_pos atJ.symm, if_pos insideJ, if_neg atI, if_pos atJ, getElem?_eq_getElem insideI]
  · rw [if_neg (Ne.symm atJ)]
    by_cases atI : k = i
    · rw [if_pos atI.symm, if_pos insideI, if_pos atI, getElem?_eq_getElem insideJ]
    · rw [if_neg (Ne.symm atI), if_neg atI, if_neg atJ]

lemma swap_perm (items : List α) (i j : Nat) : (swap items i j).Perm items := by
  rw [swap]
  split
  · rename_i a b atI atJ
    rcases List.getElem?_eq_some_iff.mp atI with ⟨insideI, rfl⟩
    rcases List.getElem?_eq_some_iff.mp atJ with ⟨insideJ, rfl⟩
    exact set_set_perm insideI insideJ
  · exact Perm.refl _

/-- An item larger than another one is larger than any third one, or that one is larger than the
other. -/
structure WeakOrder (larger : α → α → Prop) (items : List α) : Prop where
  irrefl : ∀ a ∈ items, ¬ larger a a
  trans : ∀ a ∈ items, ∀ b ∈ items, ∀ c ∈ items, larger a b → larger b c → larger a c
  cotrans : ∀ a ∈ items, ∀ b ∈ items, ∀ c ∈ items, larger a c → larger a b ∨ larger b c

variable {larger : α → α → Prop}

lemma WeakOrder.subset {others : List α} (weak : WeakOrder larger items)
    (within : ∀ a ∈ others, a ∈ items) : WeakOrder larger others where
  irrefl a inA := weak.irrefl a (within a inA)
  trans a inA b inB c inC := weak.trans a (within a inA) b (within b inB) c (within c inC)
  cotrans a inA b inB c inC := weak.cotrans a (within a inA) b (within b inB) c (within c inC)

lemma WeakOrder.asymm (weak : WeakOrder larger items) {a b : α} (inA : a ∈ items)
    (inB : b ∈ items) (isLarger : larger a b) : ¬ larger b a :=
  fun back => weak.irrefl a inA (weak.trans a inA b inB a inA isLarger back)

/-- The item at `i` is not larger than the one at `j`. -/
def InOrder (larger : α → α → Prop) (items : List α) (i j : Nat) : Prop :=
  ∀ a, items[i]? = some a → ∀ b, items[j]? = some b → ¬ larger a b

def IsHeap (larger : α → α → Prop) (items : List α) : Prop :=
  ∀ i, 0 < i → InOrder larger items i (parent i)

/-- A heap but for the item at `k`, which may be too large. -/
structure UpTo (larger : α → α → Prop) (items : List α) (k : Nat) : Prop where
  others : ∀ i, 0 < i → i ≠ k → InOrder larger items i (parent i)
  past : 0 < k → ∀ i, 0 < i → parent i = k → InOrder larger items i (parent k)

/-- A heap but for the item at `k`, which may be too small. -/
structure DownFrom (larger : α → α → Prop) (items : List α) (k : Nat) : Prop where
  others : ∀ i, 0 < i → parent i ≠ k → InOrder larger items i (parent i)
  past : 0 < k → ∀ i, 0 < i → parent i = k → InOrder larger items i (parent k)

lemma InOrder.trans (weak : WeakOrder larger items) (first : InOrder larger items i j)
    (second : InOrder larger items j k) (inside : j < items.length) : InOrder larger items i k := by
  intro a atI c atK isLarger
  have atJ := getElem?_eq_getElem inside
  rcases weak.cotrans a (mem_of_getElem? atI) _ (mem_of_getElem? atJ) c
    (mem_of_getElem? atK) isLarger with high | low
  · exact first a atI _ atJ high
  · exact second _ atJ c atK low

lemma inOrder_swap (insideI : i < items.length) (insideJ : j < items.length) (m n : Nat) :
    InOrder larger (swap items i j) m n ↔
      InOrder larger items (Equiv.swap i j m) (Equiv.swap i j n) := by
  simp only [InOrder, getElem?_swap insideI insideJ]

lemma inside_of_child {a : α} (positive : 0 < i) (found : items[i]? = some a) :
    parent i < items.length :=
  (parent_lt positive).trans (List.getElem?_eq_some_iff.mp found).1

lemma IsHeap.top (heap : IsHeap larger items) (weak : WeakOrder larger items) (i : Nat) :
    InOrder larger items i 0 := by
  induction i using Nat.strongRecOn with
  | ind i ih =>
    intro a found
    by_cases positive : 0 < i
    · exact InOrder.trans weak (heap i positive) (ih _ (parent_lt positive))
        (inside_of_child positive found) a found
    · rw [Nat.eq_zero_of_not_pos positive] at found
      intro b atTop
      rw [found] at atTop
      rw [← Option.some_injective _ atTop]
      exact weak.irrefl a (mem_of_getElem? found)

lemma UpTo.isHeap (up : UpTo larger items k)
    (done : 0 < k → InOrder larger items k (parent k)) : IsHeap larger items := by
  intro i positive
  by_cases here : i = k
  · rw [here]
    exact done (here ▸ positive)
  · exact up.others i positive here

lemma UpTo.step (weak : WeakOrder larger items) (up : UpTo larger items k) (positive : 0 < k)
    {a b : α} (atK : items[k]? = some a) (atParent : items[parent k]? = some b)
    (isLarger : larger a b) : UpTo larger (swap items k (parent k)) (parent k) := by
  have inside := (List.getElem?_eq_some_iff.mp atK).1
  have inside' := (List.getElem?_eq_some_iff.mp atParent).1
  have inA := mem_of_getElem? atK
  have inB := mem_of_getElem? atParent
  have differ : parent k ≠ k := (parent_lt positive).ne
  have fromParent : Equiv.swap k (parent k) k = parent k := Equiv.swap_apply_left _ _
  have fromChild : Equiv.swap k (parent k) (parent k) = k := Equiv.swap_apply_right _ _
  have stays : ∀ i, i ≠ k → i ≠ parent k → Equiv.swap k (parent k) i = i :=
    fun i notK notParent => Equiv.swap_apply_of_ne_of_ne notK notParent
  constructor
  · intro i above notParent
    rw [inOrder_swap inside inside']
    by_cases here : i = k
    · rw [here, fromParent, fromChild]
      intro b' isB a' isA
      rw [atParent, Option.some.injEq] at isB
      rw [atK, Option.some.injEq] at isA
      rw [← isA, ← isB]
      exact weak.asymm inA inB isLarger
    · rw [stays i here notParent]
      by_cases below : parent i = k
      · rw [below, fromParent]
        exact up.past positive i above below
      · by_cases beside : parent i = parent k
        · rw [beside, fromChild]
          intro c atI a' isA larger'
          rw [atK, Option.some.injEq] at isA
          rw [← isA] at larger'
          have ordered := up.others i above here
          rw [beside] at ordered
          exact ordered c atI b atParent
            (weak.trans c (mem_of_getElem? atI) a inA b inB larger' isLarger)
        · rw [stays _ below beside]
          exact up.others i above here
  · intro above i aboveI child
    rw [inOrder_swap inside inside']
    have upper := parent_lt above
    have lower := parent_lt positive
    have grand := up.others (parent k) above differ
    rw [stays (parent (parent k)) (by omega) (by omega)]
    by_cases here : i = k
    · rw [here, fromParent]
      exact grand
    · rw [stays i here (by
        intro same
        rw [same] at child
        exact absurd child upper.ne)]
      have ordered := up.others i aboveI here
      rw [child] at ordered
      exact ordered.trans weak grand inside'

lemma DownFrom.isHeap (down : DownFrom larger items k)
    (done : ∀ i, 0 < i → parent i = k → InOrder larger items i k) : IsHeap larger items := by
  intro i positive
  by_cases child : parent i = k
  · rw [child]
    exact done i positive child
  · exact down.others i positive child

lemma DownFrom.step (weak : WeakOrder larger items) (down : DownFrom larger items k) {m : Nat}
    (positive : 0 < m) (child : parent m = k) {a b : α} (atM : items[m]? = some a)
    (atK : items[k]? = some b) (isLarger : larger a b)
    (largest : ∀ i, 0 < i → parent i = k → InOrder larger items i m) :
    DownFrom larger (swap items k m) m := by
  have insideM := (List.getElem?_eq_some_iff.mp atM).1
  have insideK := (List.getElem?_eq_some_iff.mp atK).1
  have less : k < m := child ▸ parent_lt positive
  have atUpper : Equiv.swap k m k = m := Equiv.swap_apply_left _ _
  have atLower : Equiv.swap k m m = k := Equiv.swap_apply_right _ _
  have stays : ∀ i, i ≠ k → i ≠ m → Equiv.swap k m i = i :=
    fun i notK notM => Equiv.swap_apply_of_ne_of_ne notK notM
  constructor
  · intro i above notBelow
    rw [inOrder_swap insideK insideM]
    by_cases lower : i = m
    · rw [lower, child, atLower, atUpper]
      intro b' isB a' isA
      rw [atK, Option.some.injEq] at isB
      rw [atM, Option.some.injEq] at isA
      rw [← isA, ← isB]
      exact weak.asymm (mem_of_getElem? atM) (mem_of_getElem? atK) isLarger
    · by_cases upper : i = k
      · have higher := parent_lt above
        rw [upper] at higher above ⊢
        rw [atUpper, stays (parent k) higher.ne (by omega)]
        exact down.past above m positive child
      · rw [stays i upper lower]
        by_cases beside : parent i = k
        · rw [beside, atUpper]
          exact largest i above beside
        · rw [stays (parent i) beside notBelow]
          exact down.others i above beside
  · intro _ i above below
    rw [inOrder_swap insideK insideM, child, atUpper]
    have later := parent_lt above
    have ordered := down.others i above (by omega)
    rw [stays i (by omega) (by omega)]
    rwa [below] at ordered

lemma upTo_append (heap : IsHeap larger items) (a : α) :
    UpTo larger (items ++ [a]) items.length := by
  have before : ∀ i, i < items.length → (items ++ [a])[i]? = items[i]? :=
    fun i inside => getElem?_append_left inside
  constructor
  · intro i positive notLast b found c foundParent
    have inside := (List.getElem?_eq_some_iff.mp found).1
    rw [length_append, length_singleton] at inside
    have less := parent_lt positive
    rw [before i (by omega)] at found
    rw [before (parent i) (by omega)] at foundParent
    exact heap i positive b found c foundParent
  · intro _ i positive child b found
    have inside := (List.getElem?_eq_some_iff.mp found).1
    rw [length_append, length_singleton] at inside
    have less := parent_lt positive
    omega

lemma getElem?_set_of_ne (items : List α) (a : α) (differ : i ≠ k) :
    (items.set k a)[i]? = items[i]? := by rw [getElem?_set, if_neg (Ne.symm differ)]

lemma grandchild_set (weak : WeakOrder larger items) (heap : IsHeap larger items) {b : α} {i : Nat}
    (inside : k < items.length) (above : 0 < k) (positive : 0 < i) (child : parent i = k) :
    InOrder larger (items.set k b) i (parent k) := by
  intro c found d foundParent
  have less := parent_lt above
  have later := parent_lt positive
  rw [getElem?_set_of_ne items b (by omega)] at found foundParent
  have ordered := heap i positive
  rw [child] at ordered
  exact ordered.trans weak (heap k above) inside c found d foundParent

lemma upTo_set (weak : WeakOrder larger items) (heap : IsHeap larger items) {a b : α}
    (atK : items[k]? = some a) (raised : ∀ c ∈ items, larger c b → larger c a) :
    UpTo larger (items.set k b) k := by
  have inside := (List.getElem?_eq_some_iff.mp atK).1
  constructor
  · intro i positive notHere c found d foundParent
    rw [getElem?_set_of_ne items b notHere] at found
    by_cases child : parent i = k
    · rw [child, getElem?_set, if_pos rfl, if_pos inside, Option.some.injEq] at foundParent
      rw [← foundParent]
      intro isLarger
      have ordered := heap i positive
      rw [child] at ordered
      exact ordered c found a atK (raised c (mem_of_getElem? found) isLarger)
    · rw [getElem?_set_of_ne items b child] at foundParent
      exact heap i positive c found d foundParent
  · exact fun above i positive child => grandchild_set weak heap inside above positive child

lemma downFrom_set (weak : WeakOrder larger items) (heap : IsHeap larger items) {a b : α}
    (atK : items[k]? = some a) (lowered : ∀ c ∈ items, larger b c → larger a c) :
    DownFrom larger (items.set k b) k := by
  have inside := (List.getElem?_eq_some_iff.mp atK).1
  constructor
  · intro i positive notChild c found d foundParent
    rw [getElem?_set_of_ne items b notChild] at foundParent
    by_cases here : i = k
    · rw [here] at positive foundParent
      rw [here, getElem?_set, if_pos rfl, if_pos inside, Option.some.injEq] at found
      rw [← found]
      intro isLarger
      exact heap k positive a atK d foundParent
        (lowered d (mem_of_getElem? foundParent) isLarger)
    · rw [getElem?_set_of_ne items b here] at found
      exact heap i positive c found d foundParent
  · exact fun above i positive child => grandchild_set weak heap inside above positive child

lemma downFrom_top {others : List α} (heap : IsHeap larger items)
    (same : ∀ i, 0 < i → ∀ a, others[i]? = some a → items[i]? = some a) :
    DownFrom larger others 0 := by
  constructor
  · intro i positive notTop a found b foundParent
    exact heap i positive a (same i positive a found) b
      (same _ (Nat.pos_of_ne_zero notTop) b foundParent)
  · intro above
    exact absurd above (lt_irrefl 0)

lemma replaceTop_spec {a last : α} {rest : List α} (isLast : (a :: rest).getLast? = some last) :
    (((a :: rest).set 0 last).dropLast).Perm rest ∧
      (∀ b, (((a :: rest).set 0 last).dropLast)[0]? = some b → b = last) ∧
      ∀ i, 0 < i → ∀ b, (((a :: rest).set 0 last).dropLast)[i]? = some b →
        (a :: rest)[i]? = some b := by
  rcases eq_nil_or_concat rest with rfl | ⟨front, final, rfl⟩
  · exact ⟨Perm.refl _, nofun, nofun⟩
  · rw [concat_eq_append] at isLast ⊢
    have same : final = last := by
      rw [← cons_append, getLast?_concat] at isLast
      exact Option.some_injective _ isLast
    have shape : ((a :: (front ++ [final])).set 0 last).dropLast = last :: front := by
      rw [set_cons_zero, ← cons_append, dropLast_concat]
    rw [shape, ← same]
    refine ⟨(perm_append_singleton final front).symm, ?_, ?_⟩
    · intro b found
      exact (Option.some_injective _ found).symm
    · intro i positive b found
      cases i with
      | zero => exact absurd positive (lt_irrefl 0)
      | succ i =>
        rw [getElem?_cons_succ] at found ⊢
        rw [getElem?_append_left (List.getElem?_eq_some_iff.mp found).1]
        exact found

end OpenRoad.Lib.HeapOrder
