import OpenRoad.Par.GainHeapOrder

/-! Runs of the gain heap. -/

namespace OpenRoad.Par

open Lib Lib.HeapOrder Option GainHeap List

variable {vd hd : Nat}

inductive HeapCall where
  | insertIntoPQ (element : VertexGain)
  | extractMax
  | remove (vertexId : Nat)
  | changePriority (vertexId : Nat) (newElement : VertexGain)

namespace HeapCall

variable (h : Hypergraph vd hd)

/-- `none` stands for undefined behaviour. -/
def step (heap : Option GainHeap) (call : HeapCall) : Option GainHeap :=
  heap.bind fun heap =>
    match call with
    | insertIntoPQ element => some (heap.insertIntoPQ h element)
    | extractMax => (heap.extractMax h).map Prod.snd
    | remove vertexId => heap.remove h vertexId
    | changePriority vertexId newElement => heap.changePriority h vertexId newElement

def Allowed (heap : GainHeap) : HeapCall → Prop
  | insertIntoPQ element => heap.verticesMap element.vertex = -1
  | extractMax => heap.vertices ≠ []
  | remove _ => True
  | changePriority vertexId newElement => newElement.vertex = vertexId

def newElements : HeapCall → List VertexGain
  | insertIntoPQ element => [element]
  | extractMax => []
  | remove _ => []
  | changePriority _ newElement => [newElement]

/-- Among elements of one gain, what is below another weight is below a third one, or that one is.
-/
def Comparable (heap : GainHeap) (call : HeapCall) : Prop :=
  ∀ a ∈ call.newElements ++ heap.vertices, ∀ b ∈ call.newElements ++ heap.vertices,
    ∀ c ∈ call.newElements ++ heap.vertices, a.gain = b.gain → b.gain = c.gain →
      ¬ VectorOrder.Below (h.getVertexWeights a.vertex) (h.getVertexWeights a.vertex) ∧
      (VectorOrder.Below (h.getVertexWeights a.vertex) (h.getVertexWeights c.vertex) →
        VectorOrder.Below (h.getVertexWeights a.vertex) (h.getVertexWeights b.vertex) ∨
          VectorOrder.Below (h.getVertexWeights b.vertex) (h.getVertexWeights c.vertex))

end HeapCall

structure GainHeap.Exact (h : Hypergraph vd hd) (heap : GainHeap) : Prop where
  inverse : ∀ v, (heap.verticesMap v = -1 ∧ ∀ a ∈ heap.vertices, a.vertex ≠ v) ∨
    ∃ i a, heap.verticesMap v = (i : Nat) ∧
      ∀ j b, heap.vertices[j]? = some b ∧ b.vertex = v ↔ j = i ∧ b = a
  children : ∀ i, 0 < i → ∀ a, heap.vertices[i]? = some a →
    ∀ b, heap.vertices[parent i]? = some b → ¬ LargeThan h a b
  extracts : heap.vertices ≠ [] → ∃ a rest, heap.extractMax h = some (a, rest) ∧
    (a :: rest.vertices).Perm heap.vertices ∧ ∀ b ∈ heap.vertices, ¬ LargeThan h b a
  removes : ∀ v, ∃ rest, heap.remove h v = some rest ∧
    rest.vertices.Perm (heap.vertices.filter fun a => a.vertex ≠ v)

namespace GainHeap

variable {h : Hypergraph vd hd} {heap : GainHeap}

lemma below_trans {u v w : Weights vd} (first : VectorOrder.Below u v)
    (second : VectorOrder.Below v w) : VectorOrder.Below u w :=
  fun i => (first i).trans (second i)

lemma weakOrder_of_comparable {items : List VertexGain}
    (comparable : ∀ a ∈ items, ∀ b ∈ items, ∀ c ∈ items, a.gain = b.gain → b.gain = c.gain →
      ¬ VectorOrder.Below (h.getVertexWeights a.vertex) (h.getVertexWeights a.vertex) ∧
      (VectorOrder.Below (h.getVertexWeights a.vertex) (h.getVertexWeights c.vertex) →
        VectorOrder.Below (h.getVertexWeights a.vertex) (h.getVertexWeights b.vertex) ∨
          VectorOrder.Below (h.getVertexWeights b.vertex) (h.getVertexWeights c.vertex))) :
    WeakOrder (LargeThan h) items := by
  constructor
  · intro a inA isLarger
    rcases (largeThan_iff h _ _).mp isLarger with more | ⟨_, lighter⟩
    · exact lt_irrefl _ more
    · exact (comparable a inA a inA a inA rfl rfl).1 lighter
  · intro a inA b inB c inC first second
    rw [largeThan_iff] at first second ⊢
    rcases first with more | ⟨equal, lighter⟩
    · rcases second with more' | ⟨equal', _⟩
      · exact .inl (more'.trans more)
      · exact .inl (equal' ▸ more)
    · rcases second with more' | ⟨equal', lighter'⟩
      · exact .inl (equal ▸ more')
      · exact .inr ⟨equal.trans equal', below_trans lighter lighter'⟩
  · intro a inA b inB c inC isLarger
    rw [largeThan_iff, largeThan_iff]
    rw [largeThan_iff] at isLarger
    rcases isLarger with more | ⟨equal, lighter⟩
    · rcases lt_or_ge b.gain a.gain with first | notFirst
      · exact .inl (.inl first)
      · exact .inr (.inl (more.trans_le notFirst))
    · rcases lt_trichotomy b.gain a.gain with less | same | greater
      · exact .inl (.inl less)
      · rcases (comparable a inA b inB c inC same.symm (same.trans equal)).2 lighter with
          first | second
        · exact .inl (.inr ⟨same.symm, first⟩)
        · exact .inr (.inr ⟨same.trans equal, second⟩)
      · exact .inr (.inl (equal ▸ greater))

lemma Sound.exact (sound : heap.Sound h) : heap.Exact h := by
  constructor
  · intro v
    rcases sound.indexed.position v with absent | ⟨i, a, position, found, isVertex⟩
    · exact .inl absent
    · refine .inr ⟨i, a, position, ?_⟩
      intro j b
      constructor
      · rintro ⟨found', isVertex'⟩
        have same := sound.indexed.unique found' found (isVertex'.trans isVertex.symm)
        rw [same, found, Option.some.injEq] at found'
        exact ⟨same, found'.symm⟩
      · rintro ⟨rfl, rfl⟩
        exact ⟨found, isVertex⟩
  · exact sound.ordered
  · intro notEmpty
    cases shape : heap.vertices with
    | nil => exact absurd shape notEmpty
    | cons top rest =>
      rcases extractMax_spec sound.weak sound.ordered sound.indexed shape with
        ⟨next, extracted, sifted⟩
      refine ⟨top, next, extracted, Perm.cons top sifted.perm, ?_⟩
      intro b member
      rw [← shape] at member
      rcases getElem?_of_mem member with ⟨i, found⟩
      exact sound.ordered.top sound.weak i b found top (by rw [shape]; rfl)
  · intro v
    rcases remove_spec sound v with ⟨next, removed, perm, _⟩
    exact ⟨next, removed, perm⟩

lemma sound_new : (new).Sound h :=
  ⟨⟨nofun, nofun, nofun⟩, by simp [IsHeap, InOrder, new], ⟨by simp [new], fun _ _ _ => rfl⟩⟩

lemma step_sound {call : HeapCall} (sound : heap.Sound h) (allowed : call.Allowed heap)
    (comparable : call.Comparable h heap) :
    ∃ next, HeapCall.step h (some heap) call = some next ∧ next.Sound h := by
  have weak := weakOrder_of_comparable comparable
  cases call with
  | insertIntoPQ element =>
    have sifted := insertIntoPQ_spec sound weak allowed
    exact ⟨_, rfl, weak.subset fun a member => sifted.perm.mem_iff.mp member, sifted.ordered,
      sifted.indexed⟩
  | extractMax =>
    cases shape : heap.vertices with
    | nil => exact absurd shape allowed
    | cons top rest =>
      rcases extractMax_spec sound.weak sound.ordered sound.indexed shape with
        ⟨next, extracted, sifted⟩
      refine ⟨next, ?_, sound.weak.subset ?_, sifted.ordered, sifted.indexed⟩
      · rw [HeapCall.step, bind_some]
        simp only [extracted, map_some]
      · intro a member
        rw [shape]
        exact mem_cons_of_mem _ (sifted.perm.mem_iff.mp member)
  | remove v =>
    rcases remove_spec sound v with ⟨next, removed, perm, ordered, indexed⟩
    exact ⟨next, removed, sound.weak.subset fun a member =>
      mem_of_mem_filter (perm.mem_iff.mp member), ordered, indexed⟩
  | changePriority v element =>
    rcases changePriority_spec sound weak allowed with ⟨next, changed, sifted⟩
    refine ⟨next, changed, weak.subset ?_, sifted.ordered, sifted.indexed⟩
    intro a member
    rcases List.mem_map.mp (sifted.perm.mem_iff.mp member) with ⟨b, inB, rfl⟩
    split
    · exact mem_cons_self
    · exact mem_cons_of_mem _ inB

end GainHeap

/-- In every run of allowed calls on elements whose weights are comparable, the heap is an indexed
priority queue. -/
theorem gain_heap_exact (h : Hypergraph vd hd) (calls : List HeapCall)
    (allowed : EachCall (HeapCall.step h) (fun heap call => ∀ state, heap = some state →
      call.Allowed state ∧ call.Comparable h state) (some new) calls) :
    Throughout (HeapCall.step h) (fun heap => ∃ state, heap = some state ∧ state.Exact h)
      (some new) calls := by
  have sound : Throughout (HeapCall.step h) (fun heap => ∃ state, heap = some state ∧ state.Sound h)
      (some new) calls := by
    refine throughout_of_each ?_ ⟨_, rfl, GainHeap.sound_new⟩ allowed
    rintro heap call ⟨state, rfl, isSound⟩ ok
    exact GainHeap.step_sound isSound (ok state rfl).1 (ok state rfl).2
  exact throughout_mono (fun heap ⟨state, isState, isSound⟩ => ⟨state, isState, isSound.exact⟩)
    sound

/-! Four moves of which three have one gain, and weights that are not all comparable. -/

def fourWeights : Hypergraph 2 1 where
  vertexWeights := [![2, 2], ![0, 5], ![0, 0], ![1, 1]]
  hyperedgeWeights := []
  hyperedges := []
  fixedVertexFlag := false
  fixedAttr := []
  communityFlag := false
  communityAttr := []
  timingFlag := false
  hyperedgeTimingAttr := []
  hyperedgeTimingCost := []
  hyperedgeArcSet := []
  timingPaths := []
  pathTimingCost := []
  vertexCAttr := []

def move (vertex : Nat) (gain : ℚ) : VertexGain := ⟨vertex, 0, 1, gain, []⟩

def fourInserts : List HeapCall :=
  [.insertIntoPQ (move 0 5), .insertIntoPQ (move 1 5), .insertIntoPQ (move 2 0),
    .insertIntoPQ (move 3 5)]

lemma insert_allowed {heap : Option GainHeap} {element : VertexGain}
    (absent : heap.map (fun state => state.verticesMap element.vertex) = some (-1)) :
    ∀ state, heap = some state → (HeapCall.insertIntoPQ element).Allowed state := by
  rintro state rfl
  exact some_injective _ absent

lemma comparable_of_vertices {heap : Option GainHeap} {call : HeapCall} {vertices : List VertexGain}
    (known : heap.map GainHeap.vertices = some vertices)
    (ordered : ∀ a ∈ call.newElements ++ vertices, ∀ b ∈ call.newElements ++ vertices,
      ∀ c ∈ call.newElements ++ vertices, a.gain = b.gain → b.gain = c.gain →
        ¬ VectorOrder.Below (fourWeights.getVertexWeights a.vertex)
            (fourWeights.getVertexWeights a.vertex) ∧
        (VectorOrder.Below (fourWeights.getVertexWeights a.vertex)
            (fourWeights.getVertexWeights c.vertex) →
          VectorOrder.Below (fourWeights.getVertexWeights a.vertex)
              (fourWeights.getVertexWeights b.vertex) ∨
            VectorOrder.Below (fourWeights.getVertexWeights b.vertex)
              (fourWeights.getVertexWeights c.vertex))) :
    ∀ state, heap = some state → call.Comparable fourWeights state := by
  rintro state rfl
  rw [HeapCall.Comparable, show state.vertices = vertices from some_injective _ known]
  exact ordered

/-- Three moves of one gain, of which the weights decide; one is raised and one removed. -/
def tiedCalls : List HeapCall :=
  [.insertIntoPQ (move 0 5), .insertIntoPQ (move 3 5), .insertIntoPQ (move 2 5),
    .changePriority 0 (move 0 7), .remove 3, .extractMax]

theorem gain_heap_exact_sample :
    Throughout (HeapCall.step fourWeights) (fun heap => ∃ state, heap = some state ∧
      state.Exact fourWeights) (some new) tiedCalls := by
  apply gain_heap_exact
  have start : (some new).map GainHeap.vertices = some [] := rfl
  have first : (run (HeapCall.step fourWeights) (some new) (tiedCalls.take 1)).map
      GainHeap.vertices = some [move 0 5] := by with_unfolding_all decide
  have second : (run (HeapCall.step fourWeights) (some new) (tiedCalls.take 2)).map
      GainHeap.vertices = some [move 3 5, move 0 5] := by with_unfolding_all decide
  have third : (run (HeapCall.step fourWeights) (some new) (tiedCalls.take 3)).map
      GainHeap.vertices = some [move 2 5, move 0 5, move 3 5] := by with_unfolding_all decide
  have fourth : (run (HeapCall.step fourWeights) (some new) (tiedCalls.take 4)).map
      GainHeap.vertices = some [move 0 7, move 2 5, move 3 5] := by with_unfolding_all decide
  have fifth : (run (HeapCall.step fourWeights) (some new) (tiedCalls.take 5)).map
      GainHeap.vertices = some [move 0 7, move 2 5] := by with_unfolding_all decide
  simp only [tiedCalls, eachCall_cons]
  refine ⟨fun state isState => ⟨insert_allowed (by decide) state isState,
      comparable_of_vertices start (by decide) state isState⟩,
    fun state isState => ⟨insert_allowed (by with_unfolding_all decide) state isState,
      comparable_of_vertices first (by decide) state isState⟩,
    fun state isState => ⟨insert_allowed (by with_unfolding_all decide) state isState,
      comparable_of_vertices second (by decide) state isState⟩,
    fun state isState => ⟨rfl, comparable_of_vertices third (by decide) state isState⟩,
    fun state isState => ⟨trivial, comparable_of_vertices fourth (by decide) state isState⟩,
    fun state isState => ⟨?_, comparable_of_vertices fifth (by decide) state isState⟩,
    eachCall_nil⟩
  change state.vertices ≠ []
  have isVertices : some state.vertices = some [move 0 7, move 2 5] := by
    rw [← fifth]
    exact congrArg (Option.map GainHeap.vertices) isState.symm
  rw [some_injective _ isVertices]
  exact cons_ne_nil _ _

/-- The fourth move is larger than the first one, but not larger than the second one above it. -/
theorem lighter_move_overlooked : ¬ ∀ calls : List HeapCall,
      EachCall (HeapCall.step fourWeights) (fun heap call => ∀ state, heap = some state →
        call.Allowed state) (some new) calls →
      Throughout (HeapCall.step fourWeights) (fun heap => ∃ state, heap = some state ∧
        state.Exact fourWeights) (some new) calls := by
  intro alwaysExact
  have allowed : EachCall (HeapCall.step fourWeights) (fun heap call => ∀ state,
      heap = some state → call.Allowed state) (some new) fourInserts := by
    simp only [fourInserts, eachCall_cons]
    refine ⟨insert_allowed ?_, insert_allowed ?_, insert_allowed ?_, insert_allowed ?_,
      eachCall_nil⟩ <;> with_unfolding_all decide
  rcases alwaysExact fourInserts allowed fourInserts (List.prefix_refl _) with ⟨state, isState, exact⟩
  have vertices : (run (HeapCall.step fourWeights) (some new) fourInserts).map
      GainHeap.vertices = some [move 0 5, move 1 5, move 2 0, move 3 5] := by
    with_unfolding_all decide
  have first : ((run (HeapCall.step fourWeights) (some new) fourInserts).bind fun state =>
      (state.extractMax fourWeights).map Prod.fst) = some (move 0 5) := by with_unfolding_all decide
  rw [isState, map_some, Option.some.injEq] at vertices
  rcases exact.extracts (by rw [vertices]; exact List.cons_ne_nil _ _) with
    ⟨a, rest, extracted, _, largest⟩
  rw [isState, bind_some, extracted, map_some, Option.some.injEq] at first
  have inHeap : move 3 5 ∈ state.vertices := by
    rw [vertices]
    decide
  have notLarger := largest (move 3 5) inHeap
  rw [show a = move 0 5 from first] at notLarger
  exact notLarger (by rw [LargeThan]; decide)

end OpenRoad.Par
