import OpenRoad.Par.GainHeap

/-! The positions that the gain heap keeps, whatever its order. -/

namespace OpenRoad.Par

open Lib Lib.HeapOrder Function

variable {vd hd : Nat}

namespace GainHeap

/-- The map is the inverse of the elements, but for stale entries. -/
structure Indexed (heap : GainHeap) (stale : Nat → Prop) : Prop where
  present : ∀ (i : Nat) (a : VertexGain), heap.vertices[i]? = some a → heap.verticesMap a.vertex = i
  absent : ∀ v, ¬ stale v → (∀ a ∈ heap.vertices, a.vertex ≠ v) → heap.verticesMap v = -1

variable {h : Hypergraph vd hd} {heap : GainHeap} {stale : Nat → Prop}

structure Moved (heap next : GainHeap) (stale : Nat → Prop) : Prop where
  perm : next.vertices.Perm heap.vertices
  indexed : next.Indexed stale
  active : next.active = heap.active

lemma Indexed.unique (indexed : heap.Indexed stale) {i j : Nat} {a b : VertexGain}
    (atI : heap.vertices[i]? = some a) (atJ : heap.vertices[j]? = some b)
    (same : a.vertex = b.vertex) : i = j := by
  have first := indexed.present i a atI
  rw [same, indexed.present j b atJ] at first
  exact (Int.ofNat.inj first).symm

variable {a b : VertexGain} {i j : Nat}

lemma exchange_eq (atI : heap.vertices[i]? = some a) (atJ : heap.vertices[j]? = some b) :
    heap.exchange i j = { heap with
        vertices := swap heap.vertices i j
        verticesMap := update (update heap.verticesMap a.vertex j) b.vertex i } := by
  rw [exchange, atI, atJ]

lemma Indexed.exchange (indexed : heap.Indexed stale) (atI : heap.vertices[i]? = some a)
    (atJ : heap.vertices[j]? = some b) (differ : i ≠ j) : (heap.exchange i j).Indexed stale := by
  have insideI := (List.getElem?_eq_some_iff.mp atI).1
  have insideJ := (List.getElem?_eq_some_iff.mp atJ).1
  have apart : a.vertex ≠ b.vertex := fun same => differ (indexed.unique atI atJ same)
  rw [exchange_eq atI atJ]
  constructor
  · intro k c atK
    rw [getElem?_swap insideI insideJ, Equiv.swap_apply_def] at atK
    by_cases upper : k = i
    · rw [if_pos upper, atJ, Option.some.injEq] at atK
      rw [← atK, upper]
      exact update_self _ _ _
    · by_cases lower : k = j
      · rw [if_neg upper, if_pos lower, atI, Option.some.injEq] at atK
        rw [← atK, lower]
        exact (update_of_ne apart _ _).trans (update_self _ _ _)
      · rw [if_neg upper, if_neg lower] at atK
        have notA : c.vertex ≠ a.vertex := fun same => upper (indexed.unique atK atI same)
        have notB : c.vertex ≠ b.vertex := fun same => lower (indexed.unique atK atJ same)
        exact ((update_of_ne notB _ _).trans (update_of_ne notA _ _)).trans
          (indexed.present k c atK)
  · intro v fresh none
    have gone : ∀ c ∈ heap.vertices, c.vertex ≠ v :=
      fun c member => none c ((swap_perm heap.vertices i j).mem_iff.mpr member)
    have notA := gone a (List.mem_of_getElem? atI)
    have notB := gone b (List.mem_of_getElem? atJ)
    exact ((update_of_ne notB.symm _ _).trans
      (update_of_ne notA.symm _ _)).trans (indexed.absent v fresh gone)

lemma exchange_perm (heap : GainHeap) (i j : Nat) :
    (heap.exchange i j).vertices.Perm heap.vertices := by
  rw [GainHeap.exchange]
  split
  · exact swap_perm _ _ _
  · exact List.Perm.refl _

lemma exchange_active (heap : GainHeap) (i j : Nat) :
    (heap.exchange i j).active = heap.active := by
  rw [GainHeap.exchange]
  split <;> rfl

lemma Moved.exchange {next : GainHeap} (moved : Moved (heap.exchange i j) next stale) :
    Moved heap next stale :=
  ⟨moved.perm.trans (exchange_perm heap i j), moved.indexed,
    moved.active.trans (exchange_active heap i j)⟩

lemma compare_found (isLarger : heap.compareElementLargeThan h i j = true) :
    ∃ a b, heap.vertices[i]? = some a ∧ heap.vertices[j]? = some b ∧
      PriorityQueue.compareElementLargeThan h a b = true := by
  rw [GainHeap.compareElementLargeThan] at isLarger
  split at isLarger
  · rename_i a b atI atJ
    exact ⟨a, b, atI, atJ, isLarger⟩
  · cases isLarger

lemma heapifyUp_moved (index : Nat) (indexed : heap.Indexed stale) :
    Moved heap (heap.heapifyUp h index) stale := by
  induction index using Nat.strongRecOn generalizing heap with
  | ind index ih =>
    rw [heapifyUp]
    split
    · rename_i rises
      rcases compare_found rises.2 with ⟨a, b, atIndex, atParent, _⟩
      have less := parent_lt rises.1
      exact (ih _ less (indexed.exchange atIndex atParent less.ne')).exchange
    · exact ⟨List.Perm.refl _, indexed, rfl⟩

lemma heapifyDown_moved (index : Nat) (indexed : heap.Indexed stale) :
    Moved heap (heap.heapifyDown h index) stale := by
  generalize isLeft : heap.vertices.length - index = left
  induction left using Nat.strongRecOn generalizing heap index with
  | ind left ih =>
    rw [heapifyDown]
    split
    · exact ⟨List.Perm.refl _, indexed, rfl⟩
    · rename_i sinks
      rcases heap.maxIndex_cases h index with same | ⟨_, later, inside⟩
      · exact absurd same sinks
      · have atIndex := List.getElem?_eq_getElem (later.trans inside)
        have atMax := List.getElem?_eq_getElem inside
        exact (ih (heap.vertices.length - heap.maxIndex h index) (by omega) _
          (indexed.exchange atIndex atMax later.ne) (by rw [exchange_length])).exchange

lemma insertIntoPQ_moved (indexed : heap.Indexed fun _ => False) {element : VertexGain}
    (fresh : heap.verticesMap element.vertex = -1) :
    Moved { heap with vertices := heap.vertices ++ [element] } (heap.insertIntoPQ h element)
      fun _ => False := by
  have notIn : ∀ (i : Nat) a, heap.vertices[i]? = some a → a.vertex ≠ element.vertex := by
    intro i a found same
    have position := indexed.present i a found
    rw [same, fresh] at position
    omega
  have appended : Indexed { heap with
        vertices := heap.vertices ++ [element]
        verticesMap := update heap.verticesMap element.vertex heap.vertices.length }
      fun _ => False := by
    constructor
    · intro i a found
      dsimp only at found ⊢
      rcases Nat.lt_or_ge i heap.vertices.length with inside | beyond
      · rw [List.getElem?_append_left inside] at found
        rw [update_of_ne (notIn i a found)]
        exact indexed.present i a found
      · have isLast : i = heap.vertices.length := by
          have inside := (List.getElem?_eq_some_iff.mp found).1
          rw [List.length_append, List.length_singleton] at inside
          omega
        rw [isLast, List.getElem?_concat_length, Option.some.injEq] at found
        rw [← found, isLast, update_self]
    · intro v notStale gone
      dsimp only at gone ⊢
      have other := gone element (List.mem_append_right _ List.mem_cons_self)
      rw [update_of_ne other.symm]
      exact indexed.absent v notStale fun a member => gone a (List.mem_append_left _ member)
  have moved := heapifyUp_moved (h := h) heap.vertices.length appended
  exact ⟨moved.perm, moved.indexed, moved.active⟩

def moveLast (heap : GainHeap) (last : VertexGain) : GainHeap :=
  { heap with
    vertices := (heap.vertices.set 0 last).dropLast
    verticesMap := update heap.verticesMap last.vertex 0 }

lemma extractMax_eq {top last : VertexGain} (isTop : heap.getMax = some top)
    (isLast : heap.vertices.getLast? = some last) :
    heap.extractMax h = some (top, { heapifyDown h (heap.moveLast last) 0 with
        verticesMap := update (heapifyDown h (heap.moveLast last) 0).verticesMap
          top.vertex (-1) }) := by
  rw [extractMax, isTop, isLast]
  rfl

lemma moveLast_indexed (indexed : heap.Indexed fun _ => False) {top last : VertexGain}
    {rest : List VertexGain} (shape : heap.vertices = top :: rest)
    (isLast : heap.vertices.getLast? = some last) :
    (heap.moveLast last).Indexed (· = top.vertex) := by
  rw [moveLast, shape]
  rw [shape] at isLast
  rcases replaceTop_spec isLast with ⟨perm, first, same⟩
  constructor
  · intro i a found
    dsimp only at found ⊢
    rcases Nat.eq_zero_or_pos i with atFirst | positive
    · rw [atFirst] at found ⊢
      rw [first a found]
      exact update_self _ _ _
    · have before := same i positive a found
      rw [← shape] at before
      have notLast : a.vertex ≠ last.vertex := by
        intro sameVertex
        have atEnd : heap.vertices[rest.length]? = some last := by
          rw [shape, ← isLast, List.getLast?_eq_getElem?]
          rfl
        have inside := (List.getElem?_eq_some_iff.mp found).1
        rw [perm.length_eq] at inside
        exact absurd (indexed.unique before atEnd sameVertex) inside.ne
      rw [update_of_ne notLast]
      exact indexed.present i a before
  · intro v notTop gone
    dsimp only at gone ⊢
    have inRest : ∀ a ∈ rest, a.vertex ≠ v := fun a member => gone a (perm.mem_iff.mpr member)
    have notLast : v ≠ last.vertex := by
      intro isVertex
      rcases List.mem_cons.mp (List.mem_of_getLast? isLast) with isTop | member
      · exact notTop (isTop ▸ isVertex)
      · exact inRest last member isVertex.symm
    rw [update_of_ne notLast]
    apply indexed.absent v id
    intro a member
    rw [shape] at member
    rcases List.mem_cons.mp member with rfl | later
    · exact fun isVertex => notTop isVertex.symm
    · exact inRest a later

structure Extracted (heap next : GainHeap) (rest : List VertexGain) : Prop where
  perm : next.vertices.Perm rest
  indexed : next.Indexed fun _ => False
  active : next.active = heap.active

lemma extractMax_moved (indexed : heap.Indexed fun _ => False) {top last : VertexGain}
    {rest : List VertexGain} (shape : heap.vertices = top :: rest)
    (isLast : heap.vertices.getLast? = some last) :
    Extracted heap { heapifyDown h (heap.moveLast last) 0 with
        verticesMap := update (heapifyDown h (heap.moveLast last) 0).verticesMap
          top.vertex (-1) } rest := by
  have atTop : heap.vertices[0]? = some top := by rw [shape]; rfl
  have others : ∀ a ∈ rest, a.vertex ≠ top.vertex := by
    intro a member sameVertex
    rcases List.getElem?_of_mem member with ⟨i, found⟩
    have later : heap.vertices[i + 1]? = some a := by rw [shape]; exact found
    exact absurd (indexed.unique later atTop sameVertex) (Nat.succ_ne_zero i)
  have moved := heapifyDown_moved (h := h) 0 (moveLast_indexed indexed shape isLast)
  have perm : (heap.moveLast last).vertices.Perm rest := by
    rw [moveLast, shape]
    rw [shape] at isLast
    exact (replaceTop_spec isLast).1
  refine ⟨moved.perm.trans perm, ?_, moved.active⟩
  constructor
  · intro i a found
    dsimp only at found ⊢
    have member := perm.mem_iff.mp (moved.perm.mem_iff.mp (List.mem_of_getElem? found))
    rw [update_of_ne (others a member)]
    exact moved.indexed.present i a found
  · intro v _ gone
    dsimp only at gone ⊢
    by_cases isTop : v = top.vertex
    · rw [isTop]
      exact update_self _ _ _
    · rw [update_of_ne isTop]
      exact moved.indexed.absent v isTop gone

lemma Indexed.position (indexed : heap.Indexed fun _ => False) (v : Nat) :
    (heap.verticesMap v = -1 ∧ ∀ a ∈ heap.vertices, a.vertex ≠ v) ∨
      ∃ (i : Nat) (a : VertexGain), heap.verticesMap v = i ∧ heap.vertices[i]? = some a ∧
        a.vertex = v := by
  by_cases found : ∃ a ∈ heap.vertices, a.vertex = v
  · rcases found with ⟨a, member, isVertex⟩
    rcases List.getElem?_of_mem member with ⟨i, atI⟩
    exact .inr ⟨i, a, isVertex ▸ indexed.present i a atI, atI, isVertex⟩
  · have gone : ∀ a ∈ heap.vertices, a.vertex ≠ v :=
      fun a member isVertex => found ⟨a, member, isVertex⟩
    exact .inl ⟨indexed.absent v id gone, gone⟩

lemma Indexed.set (indexed : heap.Indexed stale) {a b : VertexGain} {k : Nat}
    (atK : heap.vertices[k]? = some a) (same : b.vertex = a.vertex) :
    Indexed { heap with vertices := heap.vertices.set k b } stale := by
  have inside := (List.getElem?_eq_some_iff.mp atK).1
  constructor
  · intro i c found
    dsimp only at found ⊢
    rw [List.getElem?_set] at found
    split at found
    · rename_i here
      rw [← Option.some_injective _ found, same, ← here]
      exact indexed.present k a atK
    · exact indexed.present i c found
  · intro v fresh gone
    apply indexed.absent v fresh
    intro c member isVertex
    rcases List.getElem?_of_mem member with ⟨i, atI⟩
    by_cases here : k = i
    · rw [← here, atK, Option.some.injEq] at atI
      apply gone b _ (same.trans (atI ▸ isVertex))
      exact List.mem_set inside b
    · apply gone c _ isVertex
      have kept : (heap.vertices.set k b)[i]? = some c := by
        rw [List.getElem?_set, if_neg here, atI]
      exact List.mem_of_getElem? kept

lemma setGain_eq {k : Nat} {old : VertexGain} (atK : heap.vertices[k]? = some old) (gain : ℚ) :
    heap.setGain k gain =
      { heap with vertices := heap.vertices.set k { old with gain := gain } } := by
  rcases List.getElem?_eq_some_iff.mp atK with ⟨inside, rfl⟩
  have same : (heap.vertices.modify k fun element => { element with gain := gain }) =
      heap.vertices.set k { heap.vertices[k] with gain := gain } := by
    apply List.ext_getElem?
    intro i
    rw [List.getElem?_modify, List.getElem?_set]
    by_cases here : k = i
    · simp [← here, inside]
    · simp [here]
  rw [setGain, same]

lemma changePriority_moved (indexed : heap.Indexed fun _ => False) {v : Nat}
    {element : VertexGain} (same : element.vertex = v) :
    ∃ next, heap.changePriority h v element = some next ∧
      next.vertices.length = heap.vertices.length ∧ (next.Indexed fun _ => False) ∧
      next.active = heap.active := by
  rw [changePriority]
  rcases indexed.position v with ⟨absent, _⟩ | ⟨k, old, position, atK, isVertex⟩
  · rw [if_pos absent]
    exact ⟨heap, rfl, rfl, indexed, rfl⟩
  · have known : heap.verticesMap v ≠ -1 := by
      rw [position]
      omega
    rw [if_neg known, position, Int.toNat_natCast, atK, Option.map_some]
    have replaced := indexed.set atK (same.trans isVertex.symm)
    refine ⟨_, rfl, ?_⟩
    split
    · have moved := heapifyUp_moved (h := h) k replaced
      exact ⟨moved.perm.length_eq.trans List.length_set, moved.indexed, moved.active⟩
    · have moved := heapifyDown_moved (h := h) k replaced
      exact ⟨moved.perm.length_eq.trans List.length_set, moved.indexed, moved.active⟩

lemma remove_moved (indexed : heap.Indexed fun _ => False) (v : Nat) :
    ∃ next, heap.remove h v = some next ∧ (next.Indexed fun _ => False) ∧
      ((next = heap ∧ ∀ a ∈ heap.vertices, a.vertex ≠ v) ∨
        (next.vertices.length + 1 = heap.vertices.length ∧ (∃ a ∈ heap.vertices, a.vertex = v) ∧
          next.active = if next.vertices.length = 0 then false else heap.active)) := by
  rw [remove]
  rcases indexed.position v with ⟨absent, gone⟩ | ⟨k, old, position, atK, isVertex⟩
  · rw [if_pos absent]
    exact ⟨heap, rfl, indexed, .inl ⟨rfl, gone⟩⟩
  · have inOld := List.mem_of_getElem? atK
    have known : heap.verticesMap v ≠ -1 := by
      rw [position]
      omega
    have notEmpty : ∃ top, heap.getMax = some top := by
      rw [getMax]
      exact ⟨_, List.head?_eq_some_head (List.ne_nil_of_mem inOld)⟩
    rcases notEmpty with ⟨top, isTop⟩
    rw [if_neg known, position, Int.toNat_natCast, isTop, Option.bind_some, setGain_eq atK]
    generalize isRaised : { old with gain := top.gain + 1 } = raised
    have raisedVertex : raised.vertex = old.vertex := by rw [← isRaised]
    have moved := heapifyUp_moved (h := h) k (indexed.set atK raisedVertex)
    generalize heapifyUp h _ k = lifted at moved ⊢
    have length := moved.perm.length_eq
    rw [List.length_set] at length
    cases shape : lifted.vertices with
    | nil =>
      rw [shape] at length
      exact absurd (List.length_eq_zero_iff.mp length.symm) (List.ne_nil_of_mem inOld)
    | cons first rest =>
      have isFirst : lifted.getMax = some first := by
        rw [getMax, shape]
        rfl
      have isLast : ∃ last, lifted.vertices.getLast? = some last := by
        rw [shape]
        exact ⟨_, List.getLast?_eq_some_getLast (List.cons_ne_nil first rest)⟩
      rcases isLast with ⟨last, isLast⟩
      have extracted := extractMax_moved (h := h) moved.indexed shape isLast
      rw [extractMax_eq isFirst isLast, Option.map_some]
      generalize { heapifyDown h (lifted.moveLast last) 0 with
        verticesMap := update (heapifyDown h (lifted.moveLast last) 0).verticesMap
          first.vertex (-1) } = out at extracted ⊢
      refine ⟨_, rfl, ⟨extracted.indexed.present, extracted.indexed.absent⟩,
        .inr ⟨?_, ⟨old, inOld, isVertex⟩, ?_⟩⟩
      · rw [extracted.perm.length_eq, ← length, shape]
        rfl
      · dsimp only
        rw [extracted.active, moved.active]

end GainHeap

end OpenRoad.Par
