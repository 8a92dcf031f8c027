import Mathlib.Tactic

/-! Ranges of numbers laid one after another. -/

namespace OpenRoad.Lib

open List

section

variable {α β : Type} (start count : β → Nat)

def Consecutive : Nat → List β → Prop
  | _, [] => True
  | next, range :: ranges => start range = next ∧ Consecutive (next + count range) ranges

def rangeAt (ranges : List β) (n : Nat) : Option β :=
  ranges.find? fun range => start range ≤ n ∧ n < start range + count range

variable {start count}

lemma Consecutive.concat {next : Nat} {ranges : List β} {range : β}
    (consecutive : Consecutive start count next ranges)
    (continues : start range = next + (ranges.map count).sum) :
    Consecutive start count next (ranges ++ [range]) := by
  induction ranges generalizing next with
  | nil => exact ⟨continues, trivial⟩
  | cons first ranges ih =>
    refine ⟨consecutive.1, ih consecutive.2 ?_⟩
    rw [continues, map_cons, sum_cons, Nat.add_assoc]

lemma Consecutive.start_eq {next : Nat} {before after : List β} {range : β}
    (consecutive : Consecutive start count next (before ++ range :: after)) :
    start range = next + (before.map count).sum := by
  induction before generalizing next with
  | nil => exact consecutive.1
  | cons first before ih =>
    calc start range = next + count first + (before.map count).sum := ih consecutive.2
      _ = next + ((first :: before).map count).sum := by
        rw [map_cons, sum_cons, Nat.add_assoc]

lemma Consecutive.rangeAt_eq {next : Nat} {ranges : List β}
    (consecutive : Consecutive start count next ranges) (n : Nat) :
    rangeAt start count ranges (next + n) =
      (ranges.flatMap fun range => replicate (count range) range)[n]? := by
  induction ranges generalizing next n with
  | nil => rfl
  | cons range ranges ih =>
    rw [rangeAt, find?_cons, flatMap_cons, getElem?_append, length_replicate]
    by_cases inside : n < count range
    · rw [if_pos inside, getElem?_replicate, if_pos inside, consecutive.1,
        decide_eq_true ⟨by omega, by omega⟩]
    · have past : next + n = next + count range + (n - count range) := by omega
      rw [if_neg inside, consecutive.1, decide_eq_false (by omega), past]
      exact ih consecutive.2 _

end

section

variable {α β : Type} (contents : α → List β)

lemma getElem?_block {before after : List α} {block : α} {k : Nat}
    (inBlock : k < (contents block).length) :
    ((before ++ block :: after).flatMap contents)[
      (before.map fun other => (contents other).length).sum + k]? = (contents block)[k]? := by
  rw [flatMap_append, getElem?_append_right (by rw [length_flatMap]; omega),
    length_flatMap, Nat.add_sub_cancel_left, flatMap_cons,
    getElem?_append_left inBlock]

end

section

variable {α : Type}

def flatTriples (triples : List (α × α × α)) : List α :=
  triples.flatMap fun triple => [triple.1, triple.2.1, triple.2.2]

lemma flatTriples_append (first second : List (α × α × α)) :
    flatTriples (first ++ second) = flatTriples first ++ flatTriples second :=
  flatMap_append

lemma length_flatTriples (triples : List (α × α × α)) :
    (flatTriples triples).length = 3 * triples.length := by
  induction triples with
  | nil => rfl
  | cons triple triples ih =>
    rw [flatTriples, flatMap_cons, length_append]
    change 3 + (flatTriples triples).length = 3 * (triples.length + 1)
    omega

lemma getElem?_flatTriples (triples : List (α × α × α)) (n : Nat) :
    (flatTriples triples)[3 * n]? = triples[n]?.map Prod.fst ∧
    (flatTriples triples)[3 * n + 1]? = triples[n]?.map (fun triple => triple.2.1) ∧
    (flatTriples triples)[3 * n + 2]? = triples[n]?.map (fun triple => triple.2.2) := by
  induction triples generalizing n with
  | nil => exact ⟨rfl, rfl, rfl⟩
  | cons triple triples ih =>
    cases n with
    | zero => exact ⟨rfl, rfl, rfl⟩
    | succ n => exact ih n

end

end OpenRoad.Lib
