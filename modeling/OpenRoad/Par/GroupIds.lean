import OpenRoad.Lib.Tally
import OpenRoad.Par.CutOverlay

/-! What one group does to the clusters of the vertices. -/

namespace OpenRoad.Par

open Lib List

lemma length_setAll (group : List Nat) (cur : Nat) : ∀ ids : List (Option Nat),
    (group.foldl (fun ids w => ids.set w (some cur)) ids).length = ids.length := by
  induction group with
  | nil => exact fun _ => rfl
  | cons w rest ih =>
    intro ids
    rw [foldl_cons, ih, length_set]

lemma getElem?_setAll (ids : List (Option Nat)) (group : List Nat) (cur v : Nat)
    (inside : ∀ w ∈ group, w < ids.length) :
    (group.foldl (fun ids w => ids.set w (some cur)) ids)[v]? =
      if v ∈ group then some (some cur) else ids[v]? := by
  have writes := Tally.getElem?_writes (fun _ => some cur) (group.map fun w => (w, some cur)) ids v
    (fun w member => by
      rcases mem_map.mp member with ⟨_, _, rfl⟩
      rfl)
  rw [foldl_map] at writes
  by_cases bound : v < ids.length
  · rw [writes bound, map_map]
    simp only [Function.comp_def, map_id']
  · have out : v ∉ group := fun member => bound (inside v member)
    have length := length_setAll group cur ids
    rw [if_neg out, List.getElem?_eq_none_iff.mpr (by omega),
      List.getElem?_eq_none_iff.mpr (by omega)]

lemma present_iff {ids : List (Option Nat)} {group : List Nat} {i : Nat} :
    i ∈ group.filterMap (fun v => ids.getD v none) ↔ ∃ v ∈ group, ids[v]? = some (some i) := by
  rw [mem_filterMap]
  refine exists_congr fun v => and_congr_right fun _ => ?_
  rw [getD_eq_getElem?_getD]
  cases ids[v]? with
  | none => exact ⟨nofun, nofun⟩
  | some entry => exact ⟨congrArg some, Option.some.inj⟩

def idOf (ids : List (Option Nat)) (v : Nat) : Option Nat := ids.getD v none

/-- All vertices of a group get one id, which is new if none of them had one. -/
structure Joins (state next : List (Option Nat) × Nat) (group : List Nat) (cur : Nat) : Prop where
  length : next.1.length = state.1.length
  id : ∀ v, idOf next.1 v = if v ∈ group then some cur else idOf state.1 v
  origin : (cur = state.2 ∧ next.2 = state.2 + 1 ∧ ∀ v ∈ group, idOf state.1 v = none) ∨
    (next.2 = state.2 ∧ ∃ v ∈ group, idOf state.1 v = some cur)

lemma idOf_setAll (ids : List (Option Nat)) (group : List Nat) (cur v : Nat)
    (inside : ∀ w ∈ group, w < ids.length) :
    idOf (group.foldl (fun ids w => ids.set w (some cur)) ids) v =
      if v ∈ group then some cur else idOf ids v := by
  rw [idOf, getD_eq_getElem?_getD, getElem?_setAll ids group cur v inside]
  split
  · rfl
  · rfl

lemma joinGroup_joins (state : List (Option Nat) × Nat) (group : List Nat)
    (inside : ∀ v ∈ group, v < state.1.length) :
    ∃ cur, Joins state (Coarsener.joinGroup state group) group cur := by
  rw [Coarsener.joinGroup]
  cases largest : (group.filterMap fun v => state.1.getD v none).max? with
  | none =>
    refine ⟨state.2, length_setAll group state.2 state.1,
      fun v => idOf_setAll state.1 group state.2 v inside, .inl ⟨rfl, rfl, ?_⟩⟩
    intro v member
    rw [max?_eq_none_iff, filterMap_eq_nil_iff] at largest
    exact largest v member
  | some cur =>
    refine ⟨cur, length_setAll group cur state.1,
      fun v => idOf_setAll state.1 group cur v inside, .inr ⟨rfl, ?_⟩⟩
    rcases mem_filterMap.mp (max?_mem largest) with ⟨v, member, found⟩
    exact ⟨v, member, found⟩

end OpenRoad.Par
