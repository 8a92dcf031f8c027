import Mathlib.Tactic

/-! Chains of overlapping groups. -/

namespace OpenRoad.Lib.Overlaps

open List

variable {α : Type}

def Together (groups : List (List α)) (u v : α) : Prop := ∃ group ∈ groups, u ∈ group ∧ v ∈ group

def JoinedBy (groups : List (List α)) : α → α → Prop := Relation.ReflTransGen (Together groups)

def Met (groups : List (List α)) (v : α) : Prop := ∃ group ∈ groups, v ∈ group

def Bridgeless (before : List (List α)) (group : List α) : Prop :=
  group ≠ [] ∧ ∀ u ∈ group, ∀ v ∈ group, Met before u → Met before v → JoinedBy before u v

def Separated (groups : List (List α)) : Prop :=
  ∀ before group after, groups = before ++ group :: after → Bridgeless before group

variable {groups others : List (List α)} {group : List α} {u v w : α}

lemma Together.symm (together : Together groups u v) : Together groups v u := by
  rcases together with ⟨group, member, mine, yours⟩
  exact ⟨group, member, yours, mine⟩

lemma JoinedBy.symm (joined : JoinedBy groups u v) : JoinedBy groups v u := by
  induction joined with
  | refl => exact Relation.ReflTransGen.refl
  | tail _ together ih => exact ih.head together.symm

lemma joined_of_mem (member : group ∈ groups) (mine : u ∈ group) (yours : v ∈ group) :
    JoinedBy groups u v := Relation.ReflTransGen.single ⟨group, member, mine, yours⟩

lemma JoinedBy.mono (within : ∀ group ∈ groups, group ∈ others) (joined : JoinedBy groups u v) :
    JoinedBy others u v := by
  induction joined with
  | refl => exact Relation.ReflTransGen.refl
  | tail _ together ih =>
    rcases together with ⟨group, member, both⟩
    exact ih.tail ⟨group, within group member, both⟩

lemma JoinedBy.snoc (joined : JoinedBy groups u v) : JoinedBy (groups ++ [group]) u v :=
  joined.mono fun _ member => mem_append_left _ member

lemma joined_snoc (mine : u ∈ group) (yours : v ∈ group) : JoinedBy (groups ++ [group]) u v :=
  joined_of_mem (mem_append_right _ mem_cons_self) mine yours

lemma met_snoc : Met (groups ++ [group]) v ↔ Met groups v ∨ v ∈ group := by
  simp only [Met, mem_append, mem_singleton, or_and_right, exists_or, exists_eq_left]

lemma met_append : Met (groups ++ others) v ↔ Met groups v ∨ Met others v := by
  simp only [Met, mem_append, or_and_right, exists_or]

lemma JoinedBy.respects {β : Type} (label : α → β)
    (shared : ∀ group ∈ groups, ∀ u ∈ group, ∀ v ∈ group, label u = label v)
    (joined : JoinedBy groups u v) : label u = label v := by
  induction joined with
  | refl => rfl
  | tail _ together ih =>
    rcases together with ⟨group, member, mine, yours⟩
    exact ih.trans (shared group member _ mine _ yours)

lemma separated_nil : Separated ([] : List (List α)) := by
  intro before group after split
  cases before with
  | nil => cases split
  | cons first rest => cases split

lemma separated_append : Separated (groups ++ others) ↔
    Separated groups ∧ ∀ before group after, others = before ++ group :: after →
      Bridgeless (groups ++ before) group := by
  constructor
  · intro separated
    constructor
    · intro before group after split
      apply separated before group (after ++ others)
      rw [split, append_assoc, cons_append]
    · intro before group after split
      apply separated (groups ++ before) group after
      rw [split, append_assoc]
  · intro both before group after split
    rcases append_eq_append_iff.mp split with ⟨middle, left, right⟩ | ⟨middle, left, right⟩
    · rw [left]
      exact both.2 middle group after right
    · cases middle with
      | nil =>
        rw [append_nil] at left
        have first := both.2 [] group after (by rw [nil_append]; exact right.symm)
        rwa [append_nil, left] at first
      | cons first rest =>
        cases right
        exact both.1 before group rest left

lemma separated_snoc :
    Separated (groups ++ [group]) ↔ Separated groups ∧ Bridgeless groups group := by
  rw [separated_append]
  apply and_congr_right
  intro _
  constructor
  · intro each
    have last := each [] group [] rfl
    rwa [append_nil] at last
  · intro bridgeless before other after split
    cases before with
    | nil =>
      cases split
      rwa [append_nil]
    | cons first rest =>
      have lengths := congrArg length split
      simp at lengths

lemma bridgeless_singleton : Bridgeless groups [v] := by
  refine ⟨cons_ne_nil v [], ?_⟩
  intro a first b second _ _
  rw [mem_singleton.mp first, mem_singleton.mp second]
  exact Relation.ReflTransGen.refl

end OpenRoad.Lib.Overlaps
