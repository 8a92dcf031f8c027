import Mathlib.Tactic

/-! Intrusive singly linked lists: identifiers threaded through a link function, with `0` as
the null link. -/

namespace OpenRoad.Lib

open Function List

/-- Following `next` from `head` visits exactly `ids`, in order, and then stops at `0`. -/
def Chain (next : Nat → Nat) : Nat → List Nat → Prop
  | head, [] => head = 0
  | head, id :: rest => head = id ∧ id ≠ 0 ∧ Chain next (next id) rest

variable {next next' : Nat → Nat} {head : Nat} {ids : List Nat}

@[simp] lemma chain_nil : Chain next head [] ↔ head = 0 := Iff.rfl

lemma chain_push (id : Nat) (nonzero : id ≠ 0) (linked : next id = head)
    (chain : Chain next head ids) : Chain next id (id :: ids) :=
  ⟨rfl, nonzero, linked ▸ chain⟩

lemma chain_congr (agree : ∀ id ∈ ids, next' id = next id) (chain : Chain next head ids) :
    Chain next' head ids := by
  induction ids generalizing head with
  | nil => exact chain
  | cons id rest ih =>
    refine ⟨chain.1, chain.2.1, ?_⟩
    rw [agree id (by simp)]
    exact ih (fun other member => agree other (mem_cons_of_mem _ member)) chain.2.2

lemma chain_update_of_notMem (id value : Nat) (absent : id ∉ ids)
    (chain : Chain next head ids) : Chain (update next id value) head ids := by
  apply chain_congr _ chain
  intro other member
  rw [update_of_ne]
  rintro rfl
  exact absent member

lemma chain_nonzero (chain : Chain next head ids) : ∀ id ∈ ids, id ≠ 0 := by
  induction ids generalizing head with
  | nil => intro id member; cases member
  | cons id rest ih =>
    intro other member
    rcases mem_cons.mp member with rfl | member
    · exact chain.2.1
    · exact ih chain.2.2 other member

lemma chain_head_mem (chain : Chain next head ids) (nonzero : head ≠ 0) : head ∈ ids := by
  cases ids with
  | nil => exact absurd chain nonzero
  | cons id rest => simp [chain.1]

lemma chain_head_zero_iff (chain : Chain next head ids) : head = 0 ↔ ids = [] := by
  cases ids with
  | nil => simpa using chain
  | cons id rest =>
    simp only [reduceCtorEq, iff_false]
    rw [chain.1]
    exact chain.2.1

lemma chain_unique {other : List Nat} (first : Chain next head ids)
    (second : Chain next head other) : ids = other := by
  induction ids generalizing head other with
  | nil => exact ((chain_head_zero_iff second).mp first).symm
  | cons id rest ih =>
    cases other with
    | nil => exact absurd (second ▸ first.1.symm) first.2.1
    | cons id' rest' =>
      have same : id = id' := first.1.symm.trans second.1
      subst same
      rw [ih first.2.2 second.2.2]

lemma chain_suffix (front back : List Nat) (id : Nat)
    (chain : Chain next head (front ++ id :: back)) : Chain next id (id :: back) := by
  induction front generalizing head with
  | nil =>
    obtain ⟨rfl, nonzero, rest⟩ := chain
    exact ⟨rfl, nonzero, rest⟩
  | cons first front ih => exact ih chain.2.2

lemma chain_nodup (chain : Chain next head ids) : ids.Nodup := by
  induction ids generalizing head with
  | nil => exact nodup_nil
  | cons id rest ih =>
    refine nodup_cons.mpr ⟨?_, ih chain.2.2⟩
    intro member
    obtain ⟨front, back, split⟩ := append_of_mem member
    have full : Chain next id (id :: rest) := ⟨rfl, chain.2.1, chain.2.2⟩
    have tail : Chain next id (id :: back) := by
      have whole := chain.2.2
      rw [split] at whole
      exact chain_suffix front back id whole
    have same := congrArg length (chain_unique full tail)
    rw [split] at same
    simp only [length_cons, length_append] at same
    omega

lemma chain_unlink (front back : List Nat) (prev id : Nat)
    (chain : Chain next head (front ++ prev :: id :: back)) :
    Chain (update next prev (next id)) head (front ++ prev :: back) := by
  have nodup := chain_nodup chain
  induction front generalizing head with
  | nil =>
    rcases chain with ⟨rfl, nonzero, ⟨_, _, rest⟩⟩
    refine ⟨rfl, nonzero, ?_⟩
    rw [update_self]
    apply chain_update_of_notMem _ _ _ rest
    intro member
    exact (nodup_cons.mp nodup).1 (mem_cons_of_mem id member)
  | cons first front ih =>
    rcases chain with ⟨rfl, nonzero, rest⟩
    rcases nodup_cons.mp nodup with ⟨absent, nodupRest⟩
    refine ⟨rfl, nonzero, ?_⟩
    rw [update_of_ne]
    · exact ih rest nodupRest
    · intro same
      exact absent (by simp [same])

end OpenRoad.Lib
