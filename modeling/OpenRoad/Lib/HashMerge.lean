import Mathlib.Tactic

/-! A table that merges the values of equal keys, which it finds by a hash that may collide. -/

namespace OpenRoad.Lib

open List

structure HashMerge (κ ν η : Type) where
  entries : List (κ × ν)
  first : η → Option Nat
  others : η → List Nat

namespace HashMerge

variable {κ ν η : Type} [DecidableEq κ] [DecidableEq η] {t : HashMerge κ ν η} {key : κ} {value : ν}

def empty : HashMerge κ ν η := ⟨[], fun _ => none, fun _ => []⟩

def keyAt (t : HashMerge κ ν η) (slot : Nat) : Option κ := t.entries[slot]?.map Prod.fst

def findParallel (t : HashMerge κ ν η) (hash : η) (slot : Nat) (key : κ) : Option Nat :=
  if t.keyAt slot = some key then some slot
  else (t.others hash).find? fun other => t.keyAt other = some key

/-- The table with the value added to its key, and the slot of the key. -/
def insert (hash : κ → η) (merge : ν → ν → ν) (key : κ) (value : ν) (t : HashMerge κ ν η) :
    HashMerge κ ν η × Nat :=
  match t.first (hash key) with
  | none =>
    (⟨t.entries ++ [(key, value)],
      Function.update t.first (hash key) (some t.entries.length), t.others⟩, t.entries.length)
  | some slot =>
    match t.findParallel (hash key) slot key with
    | none =>
      (⟨t.entries ++ [(key, value)], t.first, Function.update t.others (hash key)
        (t.others (hash key) ++ [t.entries.length])⟩, t.entries.length)
    | some found =>
      ({ t with entries := t.entries.modify found fun entry => (entry.1, merge entry.2 value) },
        found)

variable (hash : κ → η) (merge : ν → ν → ν)

omit [DecidableEq η] in
lemma findParallel_some {η' : η} {slot found : Nat}
    (isFound : t.findParallel η' slot key = some found) : t.keyAt found = some key := by
  rw [findParallel] at isFound
  split at isFound
  · rename_i here
    rw [← Option.some.inj isFound]
    exact here
  · simpa using find?_some isFound

lemma insert_cases (key : κ) (value : ν) (t : HashMerge κ ν η) :
    ((t.insert hash merge key value).1.entries = t.entries ++ [(key, value)] ∧
      (t.insert hash merge key value).2 = t.entries.length) ∨
    ∃ old, t.entries[(t.insert hash merge key value).2]? = some (key, old) ∧
      (t.insert hash merge key value).1.entries =
        t.entries.set (t.insert hash merge key value).2 (key, merge old value) := by
  rw [insert]
  split
  · exact .inl ⟨rfl, rfl⟩
  · split
    · exact .inl ⟨rfl, rfl⟩
    · rename_i slot _ found isFound
      have isKey := findParallel_some isFound
      rw [keyAt, Option.map_eq_some_iff] at isKey
      rcases isKey with ⟨⟨_, old⟩, there, rfl⟩
      refine .inr ⟨old, there, ?_⟩
      dsimp only
      rw [modify_eq_set_getElem?, there]
      rfl

omit [DecidableEq κ] in
lemma sum_set {M : Type} [AddCommMonoid M] (measure : κ → ν → M)
    (adds : ∀ key first second, measure key (merge first second) =
      measure key first + measure key second) (key : κ) (old value : ν) :
    ∀ (entries : List (κ × ν)) (slot : Nat), entries[slot]? = some (key, old) →
      ((entries.set slot (key, merge old value)).map fun entry => measure entry.1 entry.2).sum =
        (entries.map fun entry => measure entry.1 entry.2).sum + measure key value := by
  intro entries
  induction entries with
  | nil =>
    intro slot there
    cases there
  | cons entry rest ih =>
    intro slot there
    cases slot with
    | zero =>
      rw [getElem?_cons_zero, Option.some.injEq] at there
      rw [there, set_cons_zero, map_cons, map_cons, sum_cons,
        sum_cons, adds, add_right_comm]
    | succ slot =>
      rw [getElem?_cons_succ] at there
      rw [set_cons_succ, map_cons, map_cons, sum_cons, sum_cons,
        ih slot there, add_assoc]

lemma insert_total {M : Type} [AddCommMonoid M] (measure : κ → ν → M)
    (adds : ∀ key first second, measure key (merge first second) =
      measure key first + measure key second) (key : κ) (value : ν) (t : HashMerge κ ν η) :
    ((t.insert hash merge key value).1.entries.map fun entry => measure entry.1 entry.2).sum =
      (t.entries.map fun entry => measure entry.1 entry.2).sum + measure key value := by
  rcases insert_cases hash merge key value t with ⟨entries, _⟩ | ⟨old, there, entries⟩
  · rw [entries, map_append, sum_append]
    simp
  · rw [entries]
    exact sum_set merge measure adds key old value t.entries _ there

lemma insert_entries {P : κ → ν → Prop} (each : ∀ entry ∈ t.entries, P entry.1 entry.2)
    (new : P key value)
    (merged : ∀ old, P key old → P key (merge old value)) :
    ∀ entry ∈ (t.insert hash merge key value).1.entries, P entry.1 entry.2 := by
  intro entry member
  rcases insert_cases hash merge key value t with ⟨entries, _⟩ | ⟨old, there, entries⟩
  · rw [entries] at member
    rcases mem_append.mp member with inside | last
    · exact each entry inside
    · rw [mem_singleton.mp last]
      exact new
  · rw [entries] at member
    rcases mem_or_eq_of_mem_set member with inside | same
    · exact each entry inside
    · rw [same]
      exact merged old (each _ (mem_of_getElem? there))

end HashMerge

end OpenRoad.Lib
