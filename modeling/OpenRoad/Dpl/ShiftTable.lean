import OpenRoad.Dpl.IntervalShift

/-! What the tables of the shifting hold: a cheapest placement for every number of sites and cells. -/

namespace OpenRoad.Dpl

open Lib List

namespace ShiftRow

structure Least (kind : List Int → Prop) (total : List Int → Int) (q : List Int) : Prop where
  member : kind q
  least : ∀ other, kind other →
    total q ≤ total other ∧ (total other = total q → q.getLastD 0 ≤ other.getLastD 0)

section

variable {kind kind' : List Int → Prop} {total : List Int → Int} {q q' : List Int}

lemma Least.of_left (least : Least kind total q) (least' : Least kind' total q')
    (le : total q ≤ total q') (before : ∀ other, kind' other → q.getLastD 0 ≤ other.getLastD 0) :
    Least (fun other => kind other ∨ kind' other) total q where
  member := .inl least.member
  least := by
    intro other isKind
    rcases isKind with first | second
    · exact least.least other first
    · exact ⟨le.trans (least'.least other second).1, fun _ => before other second⟩

lemma Least.of_right (least : Least kind total q) (least' : Least kind' total q')
    (lt : total q' < total q) : Least (fun other => kind other ∨ kind' other) total q' where
  member := .inr least'.member
  least := by
    intro other isKind
    rcases isKind with first | second
    · have more := (least.least other first).1
      exact ⟨by omega, fun same => by omega⟩
    · exact least'.least other second

lemma Least.congr (least : Least kind total q) (same : ∀ other, kind' other ↔ kind other) :
    Least kind' total q :=
  ⟨(same q).mpr least.member, fun other isKind => least.least other ((same other).mp isKind)⟩

end

variable (row : ShiftRow) (cells : List ShiftCell) (targetLeft : List Int)

/-- The sites, counted from 1, that the first cells can take when the last of them is at a site up
to `i`. -/
def Reach : Nat → Int → List Int → Prop
  | 0, i, q => i = 0 ∧ q = []
  | j + 1, i, q => ∃ rest s, q = rest ++ [s] ∧ 1 ≤ s ∧ s ≤ i ∧
    row.i0 + (s - 1) + row.currWid cells j - 1 ≤ row.i1 ∧ Reach j (s - row.prevWid cells j) rest

def total (q : List Int) : Int := (q.mapIdx fun k s => row.cost cells targetLeft s k).sum

/-- The sites that the trace from an entry passes. -/
inductive Traced : Nat → Nat → List Int → Prop
  | start : Traced 0 0 []
  | skip {j i : Nat} {q : List Int}
      (prev : (row.table cells targetLeft (j + 1) (i + 1)).prev = some (i, j + 1))
      (rest : Traced (j + 1) i q) : Traced (j + 1) (i + 1) q
  | use {j i ii : Nat} {q : List Int}
      (prev : (row.table cells targetLeft (j + 1) (i + 1)).prev = some (ii, j)) (le : ii ≤ i + 1)
      (rest : Traced j ii q) : Traced (j + 1) (i + 1) (q ++ [(i : Int) + 1])

/-- An entry holds the least cost, and the trace from it finds it; or there is nothing to find. -/
def Best (j i : Nat) : Prop :=
  match (row.table cells targetLeft j i).cost with
  | none => (row.table cells targetLeft j i).prev = none ∧ ∀ q, ¬ row.Reach cells j i q
  | some c => ∃ q, Least (row.Reach cells j i) (row.total cells targetLeft) q ∧
    row.total cells targetLeft q = c ∧ row.Traced cells targetLeft j i q

variable {row cells targetLeft} {j i : Nat}

variable {q : List Int}

lemma reach_nonneg {i : Int} (reach : row.Reach cells j i q) : 0 ≤ i ∧ q.length = j := by
  induction j generalizing i q with
  | zero =>
    rcases reach with ⟨rfl, rfl⟩
    exact ⟨le_rfl, rfl⟩
  | succ j ih =>
    rcases reach with ⟨rest, s, rfl, pos, le, _, before⟩
    rw [length_append, (ih before).2]
    exact ⟨by omega, rfl⟩

lemma reach_last {i : Int} (reach : row.Reach cells (j + 1) i q) : q.getLastD 0 ≤ i := by
  rcases reach with ⟨rest, s, rfl, _, le, _, _⟩
  rw [getLastD_concat]
  exact le

lemma reach_succ (q : List Int) :
    row.Reach cells (j + 1) (i + 1 : Nat) q ↔ row.Reach cells (j + 1) i q ∨
      ∃ rest, q = rest ++ [(i : Int) + 1] ∧ row.i0 + i + row.currWid cells j - 1 ≤ row.i1 ∧
        row.Reach cells j ((i : Int) + 1 - row.prevWid cells j) rest := by
  constructor
  · rintro ⟨rest, s, rfl, pos, le, fits, before⟩
    by_cases last : s = (i : Int) + 1
    · rw [last] at fits before ⊢
      exact .inr ⟨rest, rfl, by omega, before⟩
    · exact .inl ⟨rest, s, rfl, pos, by omega, fits, before⟩
  · rintro (⟨rest, s, rfl, pos, le, fits, before⟩ | ⟨rest, rfl, fits, before⟩)
    · exact ⟨rest, s, rfl, pos, by omega, fits, before⟩
    · exact ⟨rest, (i : Int) + 1, rfl, by omega, by omega, by omega, before⟩

lemma total_concat (sizes : q.length = j) (s : Int) : row.total cells targetLeft (q ++ [s]) =
      row.total cells targetLeft q + row.cost cells targetLeft s j := by
  rw [total, total, mapIdx_append, sum_append, sizes]
  simp

lemma best_start (i : Nat) : row.Best cells targetLeft 0 i := by
  rw [Best]
  cases i with
  | zero => exact ⟨[], ⟨⟨rfl, rfl⟩, fun other reach => by
    rw [reach.2]
    exact ⟨le_rfl, fun _ => le_rfl⟩⟩, rfl, .start⟩
  | succ i =>
    refine ⟨rfl, ?_⟩
    rintro q ⟨isZero, _⟩
    omega

lemma best_none (j : Nat) : row.Best cells targetLeft (j + 1) 0 := by
  rw [Best]
  refine ⟨rfl, ?_⟩
  rintro q ⟨rest, s, _, pos, le, _⟩
  omega

def Uses (row : ShiftRow) (cells : List ShiftCell) (j i : Nat) (q : List Int) : Prop :=
  ∃ rest, q = rest ++ [(i : Int) + 1] ∧ row.i0 + i + row.currWid cells j - 1 ≤ row.i1 ∧
    row.Reach cells j ((i : Int) + 1 - row.prevWid cells j) rest

lemma uses_least {ii : Nat} (isBefore : (ii : Int) = (i : Int) + 1 - row.prevWid cells j)
    (fits : row.i0 + i + row.currWid cells j - 1 ≤ row.i1)
    (least : Least (row.Reach cells j ii) (row.total cells targetLeft) q) :
    Least (row.Uses cells j i) (row.total cells targetLeft) (q ++ [(i : Int) + 1]) where
  member := ⟨q, rfl, fits, isBefore ▸ least.member⟩
  least := by
    rintro other ⟨rest, rfl, _, reach⟩
    rw [← isBefore] at reach
    rw [total_concat (reach_nonneg least.member).2, total_concat (reach_nonneg reach).2,
      getLastD_concat, getLastD_concat]
    have more := (least.least rest reach).1
    exact ⟨by omega, fun _ => le_rfl⟩

lemma table_succ (row : ShiftRow) (cells : List ShiftCell) (targetLeft : List Int) (j i : Nat) :
    row.table cells targetLeft (j + 1) (i + 1) =
      if 0 ≤ (i : Int) + 1 - row.prevWid cells j ∧ row.i0 + i + row.currWid cells j - 1 ≤ row.i1 then
        use (skip (row.table cells targetLeft (j + 1) i) i (j + 1))
          (row.table cells targetLeft j ((i : Int) + 1 - row.prevWid cells j).toNat).cost
          (row.cost cells targetLeft (i + 1) j) ((i : Int) + 1 - row.prevWid cells j).toNat j
      else skip (row.table cells targetLeft (j + 1) i) i (j + 1) := rfl

section

variable (isSkip : row.table cells targetLeft (j + 1) (i + 1) = skip (row.table cells targetLeft (j + 1) i) i (j + 1))
include isSkip

lemma best_skip {q : List Int} {c : Int}
    (isCost : (row.table cells targetLeft (j + 1) i).cost = some c)
    (least : Least (fun other => row.Reach cells (j + 1) i other ∨ row.Uses cells j i other)
      (row.total cells targetLeft) q) (isTotal : row.total cells targetLeft q = c)
    (traced : row.Traced cells targetLeft (j + 1) i q) :
    row.Best cells targetLeft (j + 1) (i + 1) := by
  rw [Best, isSkip, skip, isCost]
  refine ⟨q, least.congr reach_succ, isTotal, .skip ?_ traced⟩
  rw [isSkip, skip, isCost, Option.map_some]

lemma best_unusable (unused : ∀ q, ¬ row.Uses cells j i q)
    (left : row.Best cells targetLeft (j + 1) i) :
    row.Best cells targetLeft (j + 1) (i + 1) := by
  rw [Best] at left
  cases isCost : (row.table cells targetLeft (j + 1) i).cost with
  | none =>
    rw [isCost] at left
    rw [Best, isSkip, skip, isCost]
    refine ⟨rfl, ?_⟩
    intro q reach
    rcases (reach_succ q).mp reach with before | uses
    · exact left.2 q before
    · exact unused q uses
  | some c =>
    rw [isCost] at left
    rcases left with ⟨q, least, isTotal, traced⟩
    apply best_skip isSkip isCost _ isTotal traced
    exact least.congr fun other => or_iff_left (unused other)

end

variable {q : List Int}

lemma best_used {c : Int} {ii : Nat}
    (isUse : row.table cells targetLeft (j + 1) (i + 1) = ⟨some c, some (ii, j)⟩) (le : ii ≤ i + 1)
    (least : Least (fun other => row.Reach cells (j + 1) i other ∨ row.Uses cells j i other)
      (row.total cells targetLeft) (q ++ [(i : Int) + 1]))
    (isTotal : row.total cells targetLeft (q ++ [(i : Int) + 1]) = c)
    (traced : row.Traced cells targetLeft j ii q) : row.Best cells targetLeft (j + 1) (i + 1) := by
  rw [Best, isUse]
  exact ⟨_, least.congr reach_succ, isTotal, .use (by rw [isUse]) le traced⟩

lemma best_succ (nonneg : 0 ≤ row.prevWid cells j) (before : ∀ ii, row.Best cells targetLeft j ii)
    (left : row.Best cells targetLeft (j + 1) i) : row.Best cells targetLeft (j + 1) (i + 1) := by
  by_cases usable : 0 ≤ (i : Int) + 1 - row.prevWid cells j ∧
      row.i0 + i + row.currWid cells j - 1 ≤ row.i1
  · rcases Int.eq_ofNat_of_zero_le usable.1 with ⟨ii, isBefore⟩
    have entry := table_succ row cells targetLeft j i
    rw [if_pos usable, isBefore, Int.toNat_natCast] at entry
    have isBest := before ii
    rw [Best] at isBest
    cases isCost : (row.table cells targetLeft j ii).cost with
    | none =>
      rw [isCost] at isBest entry
      apply best_unusable entry _ left
      rintro q ⟨rest, _, _, reach⟩
      rw [isBefore] at reach
      exact isBest.2 rest reach
    | some c =>
      rw [isCost] at isBest entry
      rcases isBest with ⟨q, least, isTotal, traced⟩
      have uses := uses_least isBefore.symm usable.2 least
      have cost : row.total cells targetLeft (q ++ [(i : Int) + 1]) =
          c + row.cost cells targetLeft (i + 1) j := by
        rw [total_concat (reach_nonneg least.member).2, isTotal]
      rw [Best] at left
      simp only [use] at entry
      cases isLeft : (row.table cells targetLeft (j + 1) i).cost with
      | none =>
        rw [isLeft] at left
        rw [skip, isLeft, Option.all_none, if_pos rfl] at entry
        apply best_used entry (by omega) _ cost traced
        exact uses.congr fun other => or_iff_right (left.2 other)
      | some cLeft =>
        rw [isLeft] at left
        rcases left with ⟨qLeft, leastLeft, totalLeft, tracedLeft⟩
        by_cases cheaper : c + row.cost cells targetLeft (i + 1) j < cLeft
        · rw [skip, isLeft, Option.all_some, if_pos (decide_eq_true cheaper)] at entry
          apply best_used entry (by omega) _ cost traced
          exact leastLeft.of_right uses (by rw [cost, totalLeft]; exact cheaper)
        · have isSkip := entry
          rw [if_neg (by rw [skip, isLeft, Option.all_some, decide_eq_true_eq]; exact cheaper)]
            at isSkip
          apply best_skip isSkip isLeft _ totalLeft tracedLeft
          apply leastLeft.of_left uses (by rw [cost, totalLeft]; exact not_lt.mp cheaper)
          rintro other ⟨rest, rfl, _, _⟩
          rw [getLastD_concat]
          exact (reach_last leastLeft.member).trans (by omega)
  · apply best_unusable _ _ left
    · rw [table_succ, if_neg usable]
    · rintro q ⟨rest, _, fits, reach⟩
      exact usable ⟨(reach_nonneg reach).1, fits⟩

lemma best (nonneg : ∀ j, 0 ≤ row.prevWid cells j) (j i : Nat) : row.Best cells targetLeft j i := by
  induction j generalizing i with
  | zero => exact best_start i
  | succ j before =>
    induction i with
    | zero => exact best_none j
    | succ i left => exact best_succ (nonneg j) before left

lemma test_traced (traced : row.Traced cells targetLeft j i q) {fuel : Nat} (enough : i + j < fuel)
    (okay : Bool) : row.test cells targetLeft fuel (i, j) okay = true := by
  induction traced generalizing fuel okay with
  | start =>
    rcases Nat.exists_eq_add_of_lt enough with ⟨more, rfl⟩
    rw [test, Bool.or_comm, decide_eq_true rfl, Bool.true_or]
    rfl
  | skip prev rest ih =>
    rcases Nat.exists_eq_add_of_lt enough with ⟨more, rfl⟩
    rw [test, prev]
    exact ih (by omega) _
  | use prev le rest ih =>
    rcases Nat.exists_eq_add_of_lt enough with ⟨more, rfl⟩
    rw [test, prev]
    exact ih (by omega) _

lemma drop_set_self {list : List Int} {n : Nat} (inRange : n < list.length) (a : Int) :
    (list.set n a).drop n = a :: list.drop (n + 1) := by
  rw [drop_eq_getElem_cons (by rw [length_set]; exact inRange), getElem_set_self,
    drop_set_of_lt (Nat.lt_succ_self n)]

lemma place_traced (traced : row.Traced cells targetLeft j i q) {fuel : Nat} (enough : i + j < fuel)
    {posLeft : List Int} (room : j ≤ posLeft.length) :
    row.place cells targetLeft fuel (i, j) posLeft =
      (q.map fun s => row.siteX (row.i0 + s - 1)) ++ posLeft.drop j := by
  induction traced generalizing fuel posLeft with
  | start =>
    rcases Nat.exists_eq_add_of_lt enough with ⟨more, rfl⟩
    rw [place, if_pos rfl]
    rfl
  | skip prev rest ih =>
    rcases Nat.exists_eq_add_of_lt enough with ⟨more, rfl⟩
    rw [place, if_neg (by simp), prev]
    dsimp only
    rw [if_neg (not_not.mpr rfl)]
    exact ih (by omega) room
  | use prev le rest ih =>
    rcases Nat.exists_eq_add_of_lt enough with ⟨more, rfl⟩
    rw [place, if_neg (by simp), prev]
    dsimp only
    rw [if_pos (Nat.succ_ne_self _), Nat.add_sub_cancel,
      ih (by omega) (by rw [length_set]; omega), drop_set_self room, map_append,
      append_assoc]
    rfl

end ShiftRow

end OpenRoad.Dpl
