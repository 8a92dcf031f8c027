import Mathlib.Data.List.Lemmas

/-! Association lists, and maps whose entries change one at a time, as often as one likes. -/

namespace OpenRoad.Lib

open List

section

variable {α β : Type} [BEq α] [LawfulBEq α]

lemma mem_of_lookup {entries : List (α × β)} {key : α} {value : β}
    (found : entries.lookup key = some value) : (key, value) ∈ entries := by
  rcases lookup_eq_some_iff.mp found with ⟨before, after, rfl, _⟩
  exact mem_append_right _ mem_cons_self

lemma lookup_iff_mem (entries : List (α × β)) (nodup : (entries.map Prod.fst).Nodup) (key : α)
    (value : β) : entries.lookup key = some value ↔ (key, value) ∈ entries := by
  induction entries with
  | nil => exact iff_of_false (fun found => by cases found) not_mem_nil
  | cons first entries ih =>
    rcases nodup_cons.mp nodup with ⟨absent, rest⟩
    rw [mem_cons, lookup_cons]
    by_cases same : key = first.1
    · rw [same, BEq.rfl]
      dsimp only
      constructor
      · intro found
        rw [← Option.some.inj found]
        exact .inl rfl
      · rintro (isFirst | member)
        · rw [← isFirst]
        · exact absurd (List.mem_map_of_mem member) absent
    · rw [beq_eq_false_iff_ne.mpr same]
      dsimp only
      rw [ih rest]
      exact (or_iff_right fun isFirst => same (congrArg Prod.fst isFirst)).symm

end

open Function Option

variable {κ α : Type} {f : α → Option α} {visits : List κ} {start now : κ → Option α} {k : κ}
  {a b : α}

def ChangesOnce (f : α → Option α) : Prop := ∀ a b, f a = some b → f b = some b

structure Visited (f : α → Option α) (visits : List κ) (start now : κ → Option α) : Prop where
  before : ∀ k, k ∉ visits → now k = start k
  after : ∀ k ∈ visits, ∀ a, start k = some a → ∃ b, f a = some b ∧ now k = some b
  absent : ∀ k, start k = none → now k = none

namespace Visited

lemma nil (f : α → Option α) (start : κ → Option α) : Visited f [] start start where
  before _ _ := rfl
  after _ member := absurd member not_mem_nil
  absent _ none := none

section

variable (run : Visited f visits start now)
include run

lemma origin (present : now k = some a) :
    ∃ a₀, start k = some a₀ ∧ (a = a₀ ∧ k ∉ visits ∨ f a₀ = some a ∧ k ∈ visits) := by
  cases isStart : start k with
  | none => exact absurd (run.absent k isStart) (by simp [present])
  | some a₀ =>
    refine ⟨a₀, rfl, ?_⟩
    by_cases member : k ∈ visits
    · rcases run.after k member a₀ isStart with ⟨b, changed, isNow⟩
      rw [present] at isNow
      rw [some_injective _ isNow]
      exact .inr ⟨changed, member⟩
    · rw [run.before k member, isStart] at present
      exact .inl ⟨(some_injective _ present).symm, member⟩

lemma none_iff (k : κ) : now k = none ↔ start k = none := by
  constructor
  · intro missing
    cases isStart : start k with
    | none => rfl
    | some a =>
      by_cases met : k ∈ visits
      · rcases run.after k met a isStart with ⟨b, _, isNow⟩
        exact absurd (missing.symm.trans isNow) (by simp)
      · rw [run.before k met, isStart] at missing
        exact absurd missing (by simp)
  · exact run.absent k

lemma pass (missing : now k = none) :
    Visited f (visits ++ [k]) start now where
  before x outside := run.before x fun member => outside (mem_append_left _ member)
  after x member a isStart := by
    rcases mem_append.mp member with earlier | last
    · exact run.after x earlier a isStart
    · rw [mem_singleton.mp last, (run.none_iff k).mp missing] at isStart
      exact absurd isStart (by simp)
  absent := run.absent

omit run in
lemma change [DecidableEq κ] (once : ChangesOnce f) (run : Visited f visits start now)
    (present : now k = some a) (changed : f a = some b) :
    Visited f (visits ++ [k]) start (update now k (some b)) where
  before x outside := by
    have other : x ≠ k := fun same => outside (by simp [same])
    rw [update_of_ne other]
    exact run.before x fun member => outside (mem_append_left _ member)
  after x member a₀ isStart := by
    by_cases same : x = k
    · subst same
      rw [update_self]
      rcases run.origin present with ⟨a₁, isFirst, ⟨rfl, _⟩ | ⟨becomes, _⟩⟩
      · rw [isStart] at isFirst
        rw [some_injective _ isFirst]
        exact ⟨b, changed, rfl⟩
      · rw [isStart] at isFirst
        rw [some_injective _ isFirst]
        rw [once _ _ becomes] at changed
        exact ⟨a, becomes, changed.symm⟩
    · rw [update_of_ne same]
      rcases mem_append.mp member with earlier | last
      · exact run.after x earlier a₀ isStart
      · exact absurd (mem_singleton.mp last) same
  absent x isStart := by
    have other : x ≠ k := by
      rintro rfl
      rw [run.absent x isStart] at present
      exact absurd present (by simp)
    rw [update_of_ne other]
    exact run.absent x isStart

omit run in
lemma stay [DecidableEq κ] (once : ChangesOnce f) (run : Visited f visits start now)
    (present : now k = some a) (unchanged : f a = some a) :
    Visited f (visits ++ [k]) start now := by
  have run' := run.change once present unchanged
  rwa [← present, update_eq_self] at run'

lemma again (met : k ∈ visits) :
    Visited f (visits ++ [k]) start now where
  before x outside := run.before x fun member => outside (mem_append_left _ member)
  after x member a isStart := by
    rcases mem_append.mp member with earlier | last
    · exact run.after x earlier a isStart
    · rw [mem_singleton.mp last] at isStart ⊢
      exact run.after k met a isStart
  absent := run.absent

lemma eq_bind (all : ∀ k a, start k = some a → k ∈ visits) (k : κ) : now k = (start k).bind f := by
  cases isStart : start k with
  | none => rw [run.absent k isStart, bind_none]
  | some a =>
    rcases run.after k (all k a isStart) a isStart with ⟨b, changed, isNow⟩
    rw [isNow, bind_some, changed]

end

end Visited

end OpenRoad.Lib
