import OpenRoad.Lib.Runs
import OpenRoad.Par.GainHeapIndex

/-! When the gain heap is an exact indexed priority queue. -/

namespace OpenRoad.Par

open Lib Lib.HeapOrder List Option

variable {vd hd : Nat}

def LargeThan (h : Hypergraph vd hd) (a b : VertexGain) : Prop :=
  PriorityQueue.compareElementLargeThan h a b = true

lemma largeThan_iff (h : Hypergraph vd hd) (a b : VertexGain) :
    LargeThan h a b ↔ b.gain < a.gain ∨ (a.gain = b.gain ∧
      VectorOrder.Below (h.getVertexWeights a.vertex) (h.getVertexWeights b.vertex)) :=
  decide_eq_true_iff

namespace GainHeap

variable {h : Hypergraph vd hd} {heap : GainHeap} {stale : Nat → Prop} {index : Nat}
  {a b : VertexGain} {i j : Nat}

structure Sifted (h : Hypergraph vd hd) (heap next : GainHeap) (stale : Nat → Prop) : Prop
    extends Moved heap next stale where
  ordered : IsHeap (LargeThan h) next.vertices

section

variable (weak : WeakOrder (LargeThan h) heap.vertices)
include weak

lemma WeakOrder.exchange (i j : Nat) :
    WeakOrder (LargeThan h) (heap.exchange i j).vertices :=
  weak.subset fun _ member => (exchange_perm heap i j).mem_iff.mp member

omit weak in
lemma inOrder_of_compare (notLarger : ¬ heap.compareElementLargeThan h i j = true) :
    InOrder (LargeThan h) heap.vertices i j := by
  intro a atI b atJ isLarger
  rw [GainHeap.compareElementLargeThan, atI, atJ] at notLarger
  exact notLarger isLarger

lemma heapifyUp_isHeap (up : UpTo (LargeThan h) heap.vertices index) :
    IsHeap (LargeThan h) (heap.heapifyUp h index).vertices := by
  induction index using Nat.strongRecOn generalizing heap with
  | ind index ih =>
    rw [heapifyUp]
    split
    · rename_i rises
      rcases compare_found rises.2 with ⟨a, b, atIndex, atParent, isLarger⟩
      apply ih _ (parent_lt rises.1) (WeakOrder.exchange weak _ _)
      rw [exchange_eq atIndex atParent]
      exact up.step weak rises.1 atIndex atParent isLarger
    · rename_i stays
      exact up.isHeap fun above => inOrder_of_compare fun isLarger => stays ⟨above, isLarger⟩

lemma heapifyUp_spec (up : UpTo (LargeThan h) heap.vertices index) (indexed : heap.Indexed stale) :
    Sifted h heap (heap.heapifyUp h index) stale :=
  ⟨heapifyUp_moved index indexed, heapifyUp_isHeap weak up⟩

lemma maxIndex_spec (index : Nat) :
    (heap.maxIndex h index ≠ index →
      heap.compareElementLargeThan h (heap.maxIndex h index) index = true) ∧
    ∀ i, 0 < i → parent i = index →
      InOrder (LargeThan h) heap.vertices i (heap.maxIndex h index) := by
  have self : ∀ i, InOrder (LargeThan h) heap.vertices i i := by
    intro i a found b again isLarger
    rw [found, Option.some.injEq] at again
    rw [← again] at isLarger
    exact weak.irrefl a (mem_of_getElem? found) isLarger
  -- a child that was not chosen is not larger than what was chosen
  have passed : ∀ child max, ¬ (child < heap.vertices.length ∧
      heap.compareElementLargeThan h child max = true) →
      InOrder (LargeThan h) heap.vertices child max := by
    intro child max notChosen a found
    exact inOrder_of_compare
      (fun isLarger => notChosen ⟨(List.getElem?_eq_some_iff.mp found).1, isLarger⟩) a found
  rw [maxIndex]
  rcases heap.orChild_cases h (leftChild index) index with ⟨isLeft, _, overIndex⟩ | ⟨same, notLeft⟩
  · rw [isLeft]
    rcases heap.orChild_cases h (rightChild index) (leftChild index) with
      ⟨isRight, _, overLeft⟩ | ⟨stays, notRight⟩
    · rw [isRight]
      rcases compare_found overIndex with ⟨a, b, atLeft, atIndex, leftLarger⟩
      rcases compare_found overLeft with ⟨c, a', atRight, again, rightLarger⟩
      rw [atLeft, Option.some.injEq] at again
      rw [← again] at rightLarger
      have inA := mem_of_getElem? atLeft
      have inB := mem_of_getElem? atIndex
      have inC := mem_of_getElem? atRight
      constructor
      · intro _
        rw [GainHeap.compareElementLargeThan, atRight, atIndex]
        exact weak.trans c inC a inA b inB rightLarger leftLarger
      · intro i positive child
        rcases child_cases positive with isChild | isChild
        · rw [isChild, child]
          intro a' found c' found'
          rw [atLeft, Option.some.injEq] at found
          rw [atRight, Option.some.injEq] at found'
          rw [← found, ← found']
          exact weak.asymm inC inA rightLarger
        · rw [isChild, child]
          exact self _
    · rw [stays]
      constructor
      · exact fun _ => overIndex
      · intro i positive child
        rcases child_cases positive with isChild | isChild
        · rw [isChild, child]
          exact self _
        · rw [isChild, child]
          exact passed _ _ notRight
  · rw [same]
    rcases heap.orChild_cases h (rightChild index) index with
      ⟨isRight, _, overIndex⟩ | ⟨stays, notRight⟩
    · rw [isRight]
      constructor
      · exact fun _ => overIndex
      · intro i positive child
        rcases compare_found overIndex with ⟨c, b, atRight, atIndex, rightLarger⟩
        rcases child_cases positive with isChild | isChild
        · rw [isChild, child]
          intro a found c' found' leftLarger
          rw [atRight, Option.some.injEq] at found'
          rw [← found'] at leftLarger
          exact passed _ _ notLeft a found b atIndex
            (weak.trans a (mem_of_getElem? found) c (mem_of_getElem? atRight) b
              (mem_of_getElem? atIndex) leftLarger rightLarger)
        · rw [isChild, child]
          exact self _
    · rw [stays]
      constructor
      · exact fun moved => absurd rfl moved
      · intro i positive child
        rcases child_cases positive with isChild | isChild
        · rw [isChild, child]
          exact passed _ _ notLeft
        · rw [isChild, child]
          exact passed _ _ notRight

lemma heapifyDown_isHeap (down : DownFrom (LargeThan h) heap.vertices index) :
    IsHeap (LargeThan h) (heap.heapifyDown h index).vertices := by
  generalize isLeft : heap.vertices.length - index = left
  induction left using Nat.strongRecOn generalizing heap index with
  | ind left ih =>
    rw [heapifyDown]
    rcases maxIndex_spec weak index with ⟨larger, largest⟩
    split
    · rename_i stop
      rw [stop] at largest
      exact down.isHeap largest
    · rename_i sinks
      rcases heap.maxIndex_cases h index with same | ⟨child, later, inside⟩
      · exact absurd same sinks
      · rcases compare_found (larger sinks) with ⟨a, b, atMax, atIndex, isLarger⟩
        apply ih (heap.vertices.length - heap.maxIndex h index) (by omega)
          (WeakOrder.exchange weak _ _)
        · rw [exchange_eq atIndex atMax]
          exact down.step weak (by omega) child atMax atIndex isLarger largest
        · rw [exchange_length]

lemma heapifyDown_spec (down : DownFrom (LargeThan h) heap.vertices index)
    (indexed : heap.Indexed stale) :
    Sifted h heap (heap.heapifyDown h index) stale :=
  ⟨heapifyDown_moved index indexed, heapifyDown_isHeap weak down⟩

end

structure Sound (h : Hypergraph vd hd) (heap : GainHeap) : Prop where
  weak : WeakOrder (LargeThan h) heap.vertices
  ordered : IsHeap (LargeThan h) heap.vertices
  indexed : heap.Indexed fun _ => False

lemma insertIntoPQ_spec (sound : heap.Sound h) {element : VertexGain}
    (weak : WeakOrder (LargeThan h) (element :: heap.vertices))
    (fresh : heap.verticesMap element.vertex = -1) :
    Sifted h { heap with vertices := element :: heap.vertices } (heap.insertIntoPQ h element)
      fun _ => False := by
  have both : (heap.vertices ++ [element]).Perm (element :: heap.vertices) :=
    perm_append_singleton _ _
  have moved := insertIntoPQ_moved (h := h) sound.indexed fresh
  have ordered : IsHeap (LargeThan h) (heap.insertIntoPQ h element).vertices :=
    heapifyUp_isHeap (by exact weak.subset fun a member => both.mem_iff.mp member)
      (by exact upTo_append sound.ordered element)
  exact ⟨⟨moved.perm.trans both, moved.indexed, moved.active⟩, ordered⟩

lemma extractMax_spec (weak : WeakOrder (LargeThan h) heap.vertices)
    (ordered : IsHeap (LargeThan h) heap.vertices) (indexed : heap.Indexed fun _ => False)
    {top : VertexGain} {rest : List VertexGain} (shape : heap.vertices = top :: rest) :
    ∃ next, heap.extractMax h = some (top, next) ∧
      Sifted h { heap with vertices := rest } next fun _ => False := by
  have isTop : heap.getMax = some top := by
    rw [getMax, shape]
    rfl
  have isLast : ∃ last, heap.vertices.getLast? = some last := by
    rw [shape]
    exact ⟨_, getLast?_eq_some_getLast (cons_ne_nil top rest)⟩
  rcases isLast with ⟨last, isLast⟩
  have extracted := extractMax_moved (h := h) indexed shape isLast
  rw [extractMax_eq isTop isLast]
  have isLast' := isLast
  rw [shape] at isLast'
  rcases replaceTop_spec isLast' with ⟨perm, _, same⟩
  have below : WeakOrder (LargeThan h) (heap.moveLast last).vertices := by
    apply weak.subset
    intro a member
    rw [moveLast, shape] at member
    rw [shape]
    exact mem_cons_of_mem top (perm.mem_iff.mp member)
  have down : DownFrom (LargeThan h) (heap.moveLast last).vertices 0 := by
    rw [moveLast, shape]
    exact downFrom_top (shape ▸ ordered) same
  exact ⟨_, rfl, ⟨extracted.perm, extracted.indexed, extracted.active⟩,
    heapifyDown_isHeap below down⟩

lemma Indexed.set_eq_map (indexed : heap.Indexed stale) {k v : Nat} {old : VertexGain}
    (atK : heap.vertices[k]? = some old) (isVertex : old.vertex = v) (element : VertexGain) :
    heap.vertices.set k element =
      heap.vertices.map fun a => if a.vertex = v then element else a := by
  apply ext_getElem?
  intro i
  rw [getElem?_set, getElem?_map]
  by_cases here : k = i
  · have inside := (List.getElem?_eq_some_iff.mp atK).1
    rw [if_pos here, if_pos inside, ← here, atK, map_some, if_pos isVertex]
  · rw [if_neg here]
    cases found : heap.vertices[i]? with
    | none => rfl
    | some a =>
      have other : a.vertex ≠ v :=
        fun same => here (indexed.unique atK found (isVertex.trans same.symm))
      rw [map_some, if_neg other]

lemma changePriority_spec (sound : heap.Sound h) {v : Nat} {element : VertexGain}
    (weak : WeakOrder (LargeThan h) (element :: heap.vertices)) (same : element.vertex = v) :
    ∃ next, heap.changePriority h v element = some next ∧
      Sifted h { heap with vertices := heap.vertices.map fun a =>
        if a.vertex = v then element else a } next fun _ => False := by
  rw [changePriority]
  rcases sound.indexed.position v with ⟨absent, gone⟩ | ⟨k, old, position, atK, isVertex⟩
  · have unchanged : (heap.vertices.map fun a => if a.vertex = v then element else a) =
        heap.vertices := by
      calc
        _ = heap.vertices.map id := map_congr_left fun a member => if_neg (gone a member)
        _ = heap.vertices := map_id _
    rw [if_pos absent, unchanged]
    exact ⟨heap, rfl, ⟨Perm.refl _, sound.indexed, rfl⟩, sound.ordered⟩
  · have inOld := mem_of_getElem? atK
    have known : heap.verticesMap v ≠ -1 := by
      rw [position]
      omega
    rw [if_neg known, position, Int.toNat_natCast, atK, map_some,
      ← sound.indexed.set_eq_map atK isVertex element]
    have indexed := sound.indexed.set atK (same.trans isVertex.symm)
    have weakSet : WeakOrder (LargeThan h) (heap.vertices.set k element) := by
      apply weak.subset
      intro a member
      rcases mem_or_eq_of_mem_set member with before | isNew
      · exact mem_cons_of_mem _ before
      · exact isNew ▸ mem_cons_self
    refine ⟨_, rfl, ?_⟩
    split
    · rename_i raised
      apply heapifyUp_spec weakSet _ indexed
      apply upTo_set sound.weak sound.ordered atK
      intro a _ isLarger
      rw [largeThan_iff] at isLarger ⊢
      rcases isLarger with more | ⟨equal, _⟩
      · exact .inl (raised.trans more)
      · exact .inl (equal ▸ raised)
    · rename_i notRaised
      apply heapifyDown_spec weakSet _ indexed
      apply downFrom_set sound.weak sound.ordered atK
      intro a _ isLarger
      have atMost := not_lt.mp notRaised
      rw [largeThan_iff] at isLarger ⊢
      rcases isLarger with more | ⟨equal, lighter⟩
      · exact .inl (more.trans_le atMost)
      · rcases atMost.lt_or_eq with less | isSame
        · exact .inl (equal ▸ less)
        · refine .inr ⟨isSame.symm.trans equal, ?_⟩
          rwa [isVertex, ← same]

lemma weakOrder_raised {items : List VertexGain} {raised old : VertexGain}
    (weak : WeakOrder (LargeThan h) items) (most : ∀ a ∈ items, a.gain < raised.gain)
    (member : old ∈ items) (same : raised.vertex = old.vertex) :
    WeakOrder (LargeThan h) (raised :: items) := by
  have beats : ∀ a ∈ items, LargeThan h raised a :=
    fun a inA => (largeThan_iff h _ _).mpr (.inl (most a inA))
  have notBeats : ∀ a ∈ items, ¬ LargeThan h a raised := by
    intro a inA isLarger
    have less := most a inA
    rcases (largeThan_iff h _ _).mp isLarger with more | ⟨equal, _⟩
    · exact lt_asymm more less
    · exact less.ne equal
  have self : ¬ LargeThan h raised raised := by
    intro isLarger
    rcases (largeThan_iff h _ _).mp isLarger with more | ⟨_, lighter⟩
    · exact lt_irrefl _ more
    · rw [same] at lighter
      exact weak.irrefl old member ((largeThan_iff h _ _).mpr (.inr ⟨rfl, lighter⟩))
  constructor
  · intro a inA
    rcases mem_cons.mp inA with rfl | itemA
    · exact self
    · exact weak.irrefl a itemA
  · intro a inA b inB c inC first second
    rcases mem_cons.mp inA with rfl | itemA
    · rcases mem_cons.mp inC with rfl | itemC
      · rcases mem_cons.mp inB with rfl | itemB
        · exact first
        · exact absurd second (notBeats b itemB)
      · exact beats c itemC
    · rcases mem_cons.mp inB with rfl | itemB
      · exact absurd first (notBeats a itemA)
      · rcases mem_cons.mp inC with rfl | itemC
        · exact absurd second (notBeats b itemB)
        · exact weak.trans a itemA b itemB c itemC first second
  · intro a inA b inB c inC isLarger
    rcases mem_cons.mp inA with rfl | itemA
    · rcases mem_cons.mp inB with rfl | itemB
      · exact .inr isLarger
      · exact .inl (beats b itemB)
    · rcases mem_cons.mp inC with rfl | itemC
      · exact absurd isLarger (notBeats a itemA)
      · rcases mem_cons.mp inB with rfl | itemB
        · exact .inr (beats c itemC)
        · exact weak.cotrans a itemA b itemB c itemC isLarger

lemma Sound.top_gain (sound : heap.Sound h) {top : VertexGain} (isTop : heap.getMax = some top) :
    ∀ a ∈ heap.vertices, a.gain < top.gain + 1 := by
  intro a member
  rcases getElem?_of_mem member with ⟨i, found⟩
  have atTop : heap.vertices[0]? = some top := by rw [← isTop, getMax, head?_eq_getElem?]
  have notLarger := sound.ordered.top sound.weak i a found top atTop
  rw [largeThan_iff, not_or, not_lt] at notLarger
  linarith [notLarger.1]

lemma filter_map_replace (items : List VertexGain) {v : Nat} {element : VertexGain}
    (isVertex : element.vertex = v) :
    (items.map fun a => if a.vertex = v then element else a).filter (fun a => a.vertex ≠ v) =
      items.filter fun a => a.vertex ≠ v := by
  induction items with
  | nil => rfl
  | cons a items ih =>
    by_cases same : a.vertex = v
    · simp [same, isVertex] at ih ⊢
      exact ih
    · simp [same] at ih ⊢
      exact ih

lemma remove_spec (sound : heap.Sound h) (v : Nat) : ∃ next, heap.remove h v = some next ∧
      next.vertices.Perm (heap.vertices.filter fun a => a.vertex ≠ v) ∧
      IsHeap (LargeThan h) next.vertices ∧ next.Indexed fun _ => False := by
  rw [remove]
  rcases sound.indexed.position v with ⟨absent, gone⟩ | ⟨k, old, position, atK, isVertex⟩
  · have unchanged : heap.vertices.filter (fun a => a.vertex ≠ v) = heap.vertices :=
      filter_eq_self.mpr fun a member => decide_eq_true (gone a member)
    rw [if_pos absent, unchanged]
    exact ⟨heap, rfl, Perm.refl _, sound.ordered, sound.indexed⟩
  · have inOld := mem_of_getElem? atK
    have known : heap.verticesMap v ≠ -1 := by
      rw [position]
      omega
    have notEmpty : ∃ top, heap.getMax = some top := by
      rw [getMax]
      exact ⟨_, head?_eq_some_head (ne_nil_of_mem inOld)⟩
    rcases notEmpty with ⟨top, isTop⟩
    rw [if_neg known, position, Int.toNat_natCast, isTop, bind_some, setGain_eq atK]
    generalize isRaised : { old with gain := top.gain + 1 } = raised
    have raisedVertex : raised.vertex = old.vertex := by rw [← isRaised]
    have most : ∀ a ∈ heap.vertices, a.gain < raised.gain := by
      rw [← isRaised]
      exact sound.top_gain isTop
    have weakAll := weakOrder_raised sound.weak most inOld raisedVertex
    have within : ∀ a ∈ heap.vertices.set k raised, a ∈ raised :: heap.vertices := by
      intro a member
      rcases mem_or_eq_of_mem_set member with before | isNew
      · exact mem_cons_of_mem _ before
      · exact isNew ▸ mem_cons_self
    have up : UpTo (LargeThan h) (heap.vertices.set k raised) k := by
      apply upTo_set sound.weak sound.ordered atK
      intro a member isLarger
      rcases (largeThan_iff h _ _).mp isLarger with more | ⟨equal, _⟩
      · exact absurd more (most a member).not_gt
      · exact absurd equal (most a member).ne
    have sifted := heapifyUp_spec (weakAll.subset within) up (sound.indexed.set atK raisedVertex)
    generalize heapifyUp h _ k = lifted at sifted ⊢
    have inSet : raised ∈ lifted.vertices := by
      apply sifted.perm.mem_iff.mpr
      exact mem_set (List.getElem?_eq_some_iff.mp atK).1 raised
    cases shape : lifted.vertices with
    | nil =>
      rw [shape] at inSet
      cases inSet
    | cons first rest =>
      have weakLifted : WeakOrder (LargeThan h) lifted.vertices :=
        weakAll.subset fun a member => within a (sifted.perm.mem_iff.mp member)
      have isFirst : first = raised := by
        have member : first ∈ lifted.vertices := by
          rw [shape]
          exact mem_cons_self
        rcases mem_cons.mp (within first (sifted.perm.mem_iff.mp member)) with same | other
        · exact same
        · rcases getElem?_of_mem inSet with ⟨i, found⟩
          have atTop : lifted.vertices[0]? = some first := by
            rw [shape]
            rfl
          exact absurd ((largeThan_iff h _ _).mpr (.inl (most first other)))
            (sifted.ordered.top weakLifted i raised found first atTop)
      rcases extractMax_spec weakLifted sifted.ordered sifted.indexed shape with
        ⟨next, extracted, rested⟩
      rw [extracted, map_some]
      refine ⟨_, rfl, ?_, rested.ordered, ⟨rested.indexed.present, rested.indexed.absent⟩⟩
      have replaced := sifted.perm
      rw [shape, isFirst, sound.indexed.set_eq_map atK isVertex raised] at replaced
      have filtered := replaced.filter fun a => a.vertex ≠ v
      rw [filter_map_replace heap.vertices (raisedVertex.trans isVertex)] at filtered
      have others : ∀ a ∈ rest, a.vertex ≠ v := by
        intro a member same
        rcases getElem?_of_mem member with ⟨i, found⟩
        have later : lifted.vertices[i + 1]? = some a := by
          rw [shape]
          exact found
        have atTop : lifted.vertices[0]? = some raised := by
          rw [shape, isFirst]
          rfl
        exact absurd (sifted.indexed.unique later atTop
          (same.trans (raisedVertex.trans isVertex).symm)) (Nat.succ_ne_zero i)
      rw [filter_cons_of_neg (by simpa using raisedVertex.trans isVertex),
        filter_eq_self.mpr fun a member => decide_eq_true (others a member)] at filtered
      exact rested.perm.trans filtered

end GainHeap

end OpenRoad.Par
