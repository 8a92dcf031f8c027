import OpenRoad.Lib.HeapOrder
import OpenRoad.Par.Refiner

/-! The gain heap: a binary heap of moves with the position of every vertex. -/

namespace OpenRoad.Par

open Lib.HeapOrder Function

/-- `total_elements_` is the length of `vertices`. -/
structure GainHeap where
  vertices : List VertexGain
  /-- Where the element of a vertex is, or -1. -/
  verticesMap : Nat → Int
  active : Bool

namespace GainHeap

def new : GainHeap := ⟨[], fun _ => -1, false⟩

variable {vd hd : Nat} (h : Hypergraph vd hd)

def compareElementLargeThan (heap : GainHeap) (a b : Nat) : Bool :=
  match heap.vertices[a]?, heap.vertices[b]? with
  | some a, some b => PriorityQueue.compareElementLargeThan h a b
  | _, _ => false

/-- Two elements change places, and the map follows. -/
def exchange (heap : GainHeap) (index other : Nat) : GainHeap :=
  match heap.vertices[index]?, heap.vertices[other]? with
  | some a, some b =>
    { heap with
      vertices := swap heap.vertices index other
      verticesMap := update (update heap.verticesMap a.vertex other) b.vertex
        index }
  | _, _ => heap

lemma exchange_length (heap : GainHeap) (index other : Nat) :
    (heap.exchange index other).vertices.length = heap.vertices.length := by
  rw [exchange]
  split
  · exact length_swap _ _ _
  · rfl

def heapifyUp (heap : GainHeap) (index : Nat) : GainHeap :=
  if _ : 0 < index ∧ heap.compareElementLargeThan h index (parent index) then
    heapifyUp (heap.exchange index (parent index)) (parent index)
  else heap
termination_by index
decreasing_by
  rename_i rises
  exact parent_lt rises.1

def orChild (heap : GainHeap) (child max : Nat) : Nat :=
  if child < heap.vertices.length ∧ heap.compareElementLargeThan h child max then child else max

def maxIndex (heap : GainHeap) (index : Nat) : Nat :=
  heap.orChild h (rightChild index) (heap.orChild h (leftChild index) index)

lemma orChild_cases (heap : GainHeap) (child max : Nat) :
    (heap.orChild h child max = child ∧ child < heap.vertices.length ∧
        heap.compareElementLargeThan h child max = true) ∨
      (heap.orChild h child max = max ∧
        ¬ (child < heap.vertices.length ∧ heap.compareElementLargeThan h child max = true)) := by
  rw [orChild]
  split
  · rename_i chosen
    exact .inl ⟨rfl, chosen⟩
  · rename_i passed
    exact .inr ⟨rfl, passed⟩

lemma maxIndex_cases (heap : GainHeap) (index : Nat) : heap.maxIndex h index = index ∨
      (parent (heap.maxIndex h index) = index ∧ index < heap.maxIndex h index ∧
        heap.maxIndex h index < heap.vertices.length) := by
  have left : index < leftChild index := by rw [leftChild]; omega
  have right : index < rightChild index := by rw [rightChild]; omega
  rw [maxIndex]
  rcases heap.orChild_cases h (rightChild index) (heap.orChild h (leftChild index) index) with
    ⟨isRight, inside, _⟩ | ⟨notRight, _⟩
  · rw [isRight]
    exact .inr ⟨parent_rightChild index, right, inside⟩
  · rw [notRight]
    rcases heap.orChild_cases h (leftChild index) index with ⟨isLeft, inside, _⟩ | ⟨same, _⟩
    · rw [isLeft]
      exact .inr ⟨parent_leftChild index, left, inside⟩
    · exact .inl same

def heapifyDown (heap : GainHeap) (index : Nat) : GainHeap :=
  if _ : heap.maxIndex h index = index then heap
  else heapifyDown (heap.exchange index (heap.maxIndex h index)) (heap.maxIndex h index)
termination_by heap.vertices.length - index
decreasing_by
  rename_i sinks
  rw [exchange_length]
  rcases heap.maxIndex_cases h index with same | ⟨_, later, inside⟩
  · exact absurd same sinks
  · omega

def insertIntoPQ (heap : GainHeap) (element : VertexGain) : GainHeap :=
  heapifyUp h { heap with
      vertices := heap.vertices ++ [element]
      verticesMap := update heap.verticesMap element.vertex heap.vertices.length }
    heap.vertices.length

def getMax (heap : GainHeap) : Option VertexGain := heap.vertices.head?

/-- There is no element to extract from an empty heap. -/
def extractMax (heap : GainHeap) : Option (VertexGain × GainHeap) :=
  match heap.getMax, heap.vertices.getLast? with
  | some maxElement, some last =>
    let moved := heapifyDown h { heap with
        vertices := (heap.vertices.set 0 last).dropLast
        verticesMap := update heap.verticesMap last.vertex 0 } 0
    some (maxElement,
      { moved with verticesMap := update moved.verticesMap maxElement.vertex (-1) })
  | _, _ => none

def setGain (heap : GainHeap) (index : Nat) (gain : ℚ) : GainHeap :=
  { heap with vertices := heap.vertices.modify index fun element => { element with gain := gain } }

def remove (heap : GainHeap) (vertexId : Nat) : Option GainHeap :=
  let index := heap.verticesMap vertexId
  if index = -1 then some heap
  else
    heap.getMax.bind fun top =>
      (extractMax h (heapifyUp h (heap.setGain index.toNat (top.gain + 1)) index.toNat)).map
        fun extracted =>
          { extracted.2 with
            active := if extracted.2.vertices.length = 0 then false else extracted.2.active }

def changePriority (heap : GainHeap) (vertexId : Nat) (newElement : VertexGain) :
    Option GainHeap :=
  let index := heap.verticesMap vertexId
  if index = -1 then some heap
  else
    heap.vertices[index.toNat]?.map fun old =>
      let replaced := { heap with vertices := heap.vertices.set index.toNat newElement }
      if newElement.gain > old.gain then heapifyUp h replaced index.toNat
      else heapifyDown h replaced index.toNat

end GainHeap

end OpenRoad.Par
