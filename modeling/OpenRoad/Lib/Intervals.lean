import Mathlib.Data.List.Sort
import Mathlib.Data.Prod.Lex
import Mathlib.Order.MinMax

/-! Intervals in the order of their bounds: merging them with a stack, and the gaps they leave. -/

namespace OpenRoad.Lib

open List

section

variable {α β : Type*} [LinearOrder β]

/-- The interval on top takes in the next one unless that begins behind it. -/
def mergeNext (lo hi : α → β) (extend : α → α → α) (stack : List α) (next : α) : List α :=
  match stack with
  | [] => [next]
  | top :: rest =>
    if hi top < lo next then next :: top :: rest
    else (if hi top < hi next then extend top next else top) :: rest

def mergeSorted (lo hi : α → β) (extend : α → α → α) (intervals : List α) : List α :=
  intervals.foldl (mergeNext lo hi extend) []

variable {lo hi : α → β} {extend : α → α → α}

/-- An interval has a part in common with the stretch from `x` to `y`. -/
def Overlaps (lo hi : α → β) (x y : β) (a : α) : Prop := lo a < y ∧ x < hi a

def Precedes (lo hi : α → β) (a b : α) : Prop := lo a < lo b ∨ lo a = lo b ∧ hi a ≤ hi b

def Apart (lo hi : α → β) (a b : α) : Prop := hi a < lo b ∧ Precedes lo hi a b

lemma Precedes.lo_le {a b : α} (precedes : Precedes lo hi a b) : lo a ≤ lo b := by
  rcases precedes with less | ⟨same, _⟩
  · exact less.le
  · exact same.le

lemma precedes_iff {a b : α} : Precedes lo hi a b ↔ toLex (lo a, hi a) ≤ toLex (lo b, hi b) := by
  rw [Prod.Lex.toLex_le_toLex]
  rfl

structure Swept (lo hi : α → β) (stack rest : List α) : Prop where
  apart : stack.Pairwise fun b a => Apart lo hi a b
  below : ∀ a ∈ stack, ∀ b ∈ rest, lo a ≤ lo b
  proper : ∀ a ∈ stack, lo a ≤ hi a ∨ ∀ b ∈ rest, Precedes lo hi a b

section

variable (loExtend : ∀ a b, lo (extend a b) = lo a)
include loExtend

section

variable (hiExtend : ∀ a b, hi (extend a b) = hi b)
include hiExtend

lemma mergeNext_swept {stack rest : List α} {next : α} (swept : Swept lo hi stack (next :: rest))
    (first : ∀ b ∈ rest, Precedes lo hi next b) :
    Swept lo hi (mergeNext lo hi extend stack next) rest := by
  cases stack with
  | nil =>
    refine ⟨pairwise_singleton _ _, fun a member b later => ?_, fun a member => ?_⟩
    · rw [mem_singleton.mp member]
      exact (first b later).lo_le
    · rw [mem_singleton.mp member]
      exact .inr first
  | cons top stack =>
    rcases pairwise_cons.mp swept.apart with ⟨above, apart⟩
    have topBelow : lo top ≤ lo next := swept.below top mem_cons_self next mem_cons_self
    rw [mergeNext]
    split
    · rename_i behind
      have allBehind : ∀ a ∈ top :: stack, hi a < lo next := by
        intro a member
        rcases mem_cons.mp member with rfl | member
        · exact behind
        · exact lt_of_lt_of_le (above a member).1 topBelow
      have allPrecede : ∀ a ∈ top :: stack, Precedes lo hi a next := by
        intro a member
        rcases swept.proper a member with proper | precedes
        · exact .inl (lt_of_le_of_lt proper (allBehind a member))
        · exact precedes next mem_cons_self
      refine ⟨pairwise_cons.mpr ⟨fun a member => ⟨allBehind a member, allPrecede a member⟩,
        swept.apart⟩, fun a member b later => ?_, fun a member => ?_⟩
      · rcases mem_cons.mp member with rfl | member
        · exact (first b later).lo_le
        · exact swept.below a member b (mem_cons_of_mem _ later)
      · rcases mem_cons.mp member with rfl | member
        · exact .inr first
        · exact (swept.proper a member).imp_right fun precedes b later =>
            precedes b (mem_cons_of_mem _ later)
    · rename_i touching
      have reaches : lo next ≤ hi top := not_lt.mp touching
      have tail : Swept lo hi stack rest :=
        ⟨apart, fun a member b later =>
          swept.below a (mem_cons_of_mem _ member) b (mem_cons_of_mem _ later),
          fun a member => (swept.proper a (mem_cons_of_mem _ member)).imp_right
            fun precedes b later => precedes b (mem_cons_of_mem _ later)⟩
      have extended : ∀ merged, lo merged = lo top → hi top ≤ hi merged →
          Swept lo hi (merged :: stack) rest := by
        intro merged sameLo grown
        refine ⟨pairwise_cons.mpr ⟨fun a member => ?_, tail.apart⟩,
          fun a member b later => ?_, fun a member => ?_⟩
        · rcases above a member with ⟨behind, precedes⟩
          refine ⟨sameLo ▸ behind, ?_⟩
          rcases precedes with less | ⟨same, below⟩
          · exact .inl (sameLo ▸ less)
          · exact .inr ⟨same.trans sameLo.symm, below.trans grown⟩
        · rcases mem_cons.mp member with rfl | member
          · rw [sameLo]
            exact topBelow.trans (first b later).lo_le
          · exact tail.below a member b later
        · rcases mem_cons.mp member with rfl | member
          · left
            rw [sameLo]
            exact topBelow.trans (reaches.trans grown)
          · exact tail.proper a member
      split
      · rename_i longer
        exact extended _ (loExtend top next) (by rw [hiExtend]; exact longer.le)
      · exact extended top rfl (le_refl _)

lemma foldl_mergeNext_swept (intervals : List α) (sorted : intervals.Pairwise (Precedes lo hi))
    {stack : List α} (swept : Swept lo hi stack intervals) :
    Swept lo hi (intervals.foldl (mergeNext lo hi extend) stack) [] := by
  induction intervals generalizing stack with
  | nil => exact swept
  | cons next rest ih =>
    rcases pairwise_cons.mp sorted with ⟨first, sorted⟩
    exact ih sorted (mergeNext_swept loExtend hiExtend swept first)

lemma mergeSorted_apart {intervals : List α} (sorted : intervals.Pairwise (Precedes lo hi)) :
    (mergeSorted lo hi extend intervals).reverse.Pairwise (Apart lo hi) := by
  rw [pairwise_reverse]
  refine (foldl_mergeNext_swept loExtend hiExtend intervals sorted ⟨List.Pairwise.nil, ?_, ?_⟩).apart
  · exact fun a member => (not_mem_nil member).elim
  · exact fun a member => (not_mem_nil member).elim

end

omit loExtend in
lemma apart_of_perm {intervals sorted : List α} (apart : intervals.Pairwise (Apart lo hi))
    (perm : sorted.Perm intervals) (ordered : sorted.Pairwise (Precedes lo hi)) :
    sorted.Pairwise (Apart lo hi) := by
  have same : sorted.map (fun a => toLex (lo a, hi a)) =
      intervals.map fun a => toLex (lo a, hi a) := by
    refine Perm.eq_of_pairwise' (r := (· ≤ ·)) ?_ ?_ (perm.map _)
    · exact pairwise_map.mpr (ordered.imp fun precedes => precedes_iff.mp precedes)
    · exact pairwise_map.mpr (apart.imp fun both => precedes_iff.mp both.2)
  have bounds : (intervals.map fun a => toLex (lo a, hi a)).Pairwise fun p q =>
      (ofLex p).2 < (ofLex q).1 ∧ p ≤ q :=
    pairwise_map.mpr (apart.imp fun both => ⟨both.1, precedes_iff.mp both.2⟩)
  rw [← same, pairwise_map] at bounds
  exact bounds.imp fun both => ⟨both.1, precedes_iff.mpr both.2⟩

lemma mergeNext_overlaps (hiExtend : ∀ a b, hi (extend a b) = hi b) {stack : List α} {next : α}
    {x y : β} (less : x < y) (below : ∀ a ∈ stack, lo a ≤ lo next) :
    (∃ a ∈ mergeNext lo hi extend stack next, Overlaps lo hi x y a) ↔
      (∃ a ∈ stack, Overlaps lo hi x y a) ∨ Overlaps lo hi x y next := by
  cases stack with
  | nil => simp [mergeNext]
  | cons top rest =>
    have topBelow : lo top ≤ lo next := below top mem_cons_self
    rw [mergeNext]
    split
    · simp only [exists_mem_cons_iff]
      exact or_comm
    · rename_i touching
      have reaches : lo next ≤ hi top := not_lt.mp touching
      rw [exists_mem_cons_iff, exists_mem_cons_iff, or_right_comm]
      apply or_congr_left
      split
      · rename_i longer
        rw [Overlaps, Overlaps, Overlaps, loExtend, hiExtend]
        constructor
        · rintro ⟨begins, ends⟩
          rcases lt_or_ge x (hi top) with before | behind
          · exact .inl ⟨begins, before⟩
          · exact .inr ⟨lt_of_le_of_lt (reaches.trans behind) less, ends⟩
        · rintro (⟨begins, ends⟩ | ⟨begins, ends⟩)
          · exact ⟨begins, ends.trans longer⟩
          · exact ⟨lt_of_le_of_lt topBelow begins, ends⟩
      · rename_i shorter
        constructor
        · exact Or.inl
        · rintro (both | ⟨begins, ends⟩)
          · exact both
          · exact ⟨lt_of_le_of_lt topBelow begins, lt_of_lt_of_le ends (not_lt.mp shorter)⟩

lemma foldl_mergeNext_overlaps (hiExtend : ∀ a b, hi (extend a b) = hi b) {x y : β} (less : x < y)
    (intervals : List α) (sorted : intervals.Pairwise (Precedes lo hi)) {stack : List α}
    (swept : Swept lo hi stack intervals) :
    (∃ a ∈ intervals.foldl (mergeNext lo hi extend) stack, Overlaps lo hi x y a) ↔
      (∃ a ∈ stack, Overlaps lo hi x y a) ∨ ∃ a ∈ intervals, Overlaps lo hi x y a := by
  induction intervals generalizing stack with
  | nil => simp
  | cons next rest ih =>
    rcases pairwise_cons.mp sorted with ⟨first, sorted⟩
    have below : ∀ a ∈ stack, lo a ≤ lo next := fun a member =>
      swept.below a member next mem_cons_self
    rw [foldl_cons, ih sorted (mergeNext_swept loExtend hiExtend swept first),
      mergeNext_overlaps loExtend hiExtend less below, exists_mem_cons_iff, or_assoc]

lemma mergeSorted_overlaps (hiExtend : ∀ a b, hi (extend a b) = hi b) {intervals : List α}
    (sorted : intervals.Pairwise (Precedes lo hi)) {x y : β} (less : x < y) :
    (∃ a ∈ mergeSorted lo hi extend intervals, Overlaps lo hi x y a) ↔
      ∃ a ∈ intervals, Overlaps lo hi x y a := by
  rw [mergeSorted, foldl_mergeNext_overlaps loExtend hiExtend less intervals sorted
    ⟨List.Pairwise.nil, fun a member => (not_mem_nil member).elim,
      fun a member => (not_mem_nil member).elim⟩]
  simp

omit loExtend in
lemma mergeSorted_all {P : α → Prop}
    (extends' : ∀ a b, P a → P b → hi a < hi b → P (extend a b)) {intervals : List α}
    (all : ∀ a ∈ intervals, P a) : ∀ a ∈ mergeSorted lo hi extend intervals, P a := by
  have general : ∀ stack : List α, (∀ a ∈ stack, P a) →
      ∀ a ∈ intervals.foldl (mergeNext lo hi extend) stack, P a := by
    induction intervals with
    | nil => exact fun stack holds => holds
    | cons next rest ih =>
      rcases forall_mem_cons.mp all with ⟨own, later⟩
      intro stack holds
      refine ih later _ ?_
      cases stack with
      | nil => exact forall_mem_singleton.mpr own
      | cons top stack =>
        rcases forall_mem_cons.mp holds with ⟨topHolds, below⟩
        rw [mergeNext]
        split
        · exact forall_mem_cons.mpr ⟨own, holds⟩
        · refine forall_mem_cons.mpr ⟨?_, below⟩
          split
          · rename_i longer
            exact extends' top next topHolds own longer
          · exact topHolds
  exact general [] fun a member => (not_mem_nil member).elim

lemma mergeSorted_bounds (hiExtend : ∀ a b, hi (extend a b) = hi b) (intervals : List α) :
    ∀ a ∈ mergeSorted lo hi extend intervals,
      (∃ b ∈ intervals, lo a = lo b) ∧ ∃ b ∈ intervals, hi a = hi b := by
  apply mergeSorted_all
  · intro a b aBounds bBounds _
    rw [loExtend, hiExtend]
    exact ⟨aBounds.1, bBounds.2⟩
  · exact fun a member => ⟨⟨a, member, rfl⟩, a, member, rfl⟩

end

def stretch (x y : β) : List (β × β) := if x < y then [(x, y)] else []

lemma mem_stretch {x y : β} {gap : β × β} : gap ∈ stretch x y ↔ x < y ∧ gap = (x, y) := by
  rw [stretch]
  split
  · rename_i less
    rw [mem_singleton]
    exact (and_iff_right less).symm
  · rename_i empty
    exact iff_of_false (not_mem_nil) fun both => empty both.1

/-- The gaps between `left` and `right` from `from'` on that the intervals leave. -/
def gapsFrom (lo hi : α → β) (left right : β) : β → List α → List (β × β)
  | from', [] => stretch (max left from') right
  | from', a :: rest =>
    stretch (max left from') (min right (lo a)) ++ gapsFrom lo hi left right (hi a) rest

def Proper (lo hi : α → β) (left right : β) (a : α) : Prop :=
  lo a ≤ hi a ∨ lo a ≤ left ∨ right ≤ hi a

variable {left right : β}

lemma mergeSorted_proper (loExtend : ∀ a b, lo (extend a b) = lo a)
    (hiExtend : ∀ a b, hi (extend a b) = hi b) {intervals : List α}
    (proper : ∀ a ∈ intervals, Proper lo hi left right a) :
    ∀ a ∈ mergeSorted lo hi extend intervals, Proper lo hi left right a := by
  refine mergeSorted_all (fun a b aProper _ longer => ?_) proper
  rw [Proper, loExtend, hiExtend]
  rcases aProper with proper | outside | outside
  · exact .inl (proper.trans longer.le)
  · exact .inr (.inl outside)
  · exact .inr (.inr (outside.trans longer.le))

lemma gapsFrom_within {intervals : List α} (apart : intervals.Pairwise (Apart lo hi))
    (proper : ∀ a ∈ intervals, Proper lo hi left right a) {from' : β}
    (later : ∀ a ∈ intervals, from' < lo a) :
    ∀ gap ∈ gapsFrom lo hi left right from' intervals,
      left ≤ gap.1 ∧ from' ≤ gap.1 ∧ gap.1 < gap.2 ∧ gap.2 ≤ right := by
  induction intervals generalizing from' with
  | nil =>
    intro gap member
    rcases mem_stretch.mp member with ⟨less, rfl⟩
    exact ⟨le_max_left _ _, le_max_right _ _, less, le_refl _⟩
  | cons a rest ih =>
    rcases pairwise_cons.mp apart with ⟨first, apart⟩
    rcases forall_mem_cons.mp proper with ⟨aProper, proper⟩
    intro gap member
    rcases mem_append.mp member with member | member
    · rcases mem_stretch.mp member with ⟨less, rfl⟩
      exact ⟨le_max_left _ _, le_max_right _ _, less, min_le_left _ _⟩
    · rcases ih apart proper (fun b member => (first b member).1) gap member with
        ⟨inside, behind, less, within⟩
      have fromLess : from' < lo a := later a mem_cons_self
      refine ⟨inside, ?_, less, within⟩
      rcases aProper with proper | outside | outside
      · exact fromLess.le.trans (proper.trans behind)
      · exact fromLess.le.trans (outside.trans inside)
      · exact absurd (lt_of_lt_of_le less (within.trans (outside.trans behind))) (lt_irrefl _)

lemma gapsFrom_behind {a : α} {rest : List α} (apart : (a :: rest).Pairwise (Apart lo hi))
    (proper : ∀ b ∈ a :: rest, Proper lo hi left right b) :
    ∀ gap ∈ gapsFrom lo hi left right (hi a) rest, lo a ≤ gap.1 ∧ hi a ≤ gap.1 := by
  rcases pairwise_cons.mp apart with ⟨first, apart⟩
  rcases forall_mem_cons.mp proper with ⟨aProper, proper⟩
  intro gap member
  rcases gapsFrom_within apart proper (fun b member => (first b member).1) gap member with
    ⟨inside, behind, less, within⟩
  refine ⟨?_, behind⟩
  rcases aProper with proper | outside | outside
  · exact proper.trans behind
  · exact outside.trans inside
  · exact absurd (lt_of_lt_of_le less (within.trans (outside.trans behind))) (lt_irrefl _)

lemma gapsFrom_clear {intervals : List α} (apart : intervals.Pairwise (Apart lo hi))
    (proper : ∀ a ∈ intervals, Proper lo hi left right a) (from' : β) :
    ∀ gap ∈ gapsFrom lo hi left right from' intervals, ∀ a ∈ intervals,
      ¬ Overlaps lo hi gap.1 gap.2 a := by
  induction intervals generalizing from' with
  | nil => exact fun _ _ a member => (not_mem_nil member).elim
  | cons a rest ih =>
    have behind := gapsFrom_behind apart proper
    rcases pairwise_cons.mp apart with ⟨first, apart⟩
    rcases forall_mem_cons.mp proper with ⟨_, proper⟩
    intro gap member
    rcases mem_append.mp member with member | member
    · rcases mem_stretch.mp member with ⟨_, rfl⟩
      refine forall_mem_cons.mpr ⟨fun overlaps => ?_, fun b member overlaps => ?_⟩
      · exact absurd (lt_of_lt_of_le overlaps.1 (min_le_right _ _)) (lt_irrefl _)
      · exact absurd (lt_of_lt_of_le overlaps.1
          ((min_le_right _ _).trans (first b member).2.lo_le)) (lt_irrefl _)
    · refine forall_mem_cons.mpr ⟨fun overlaps => ?_, ih apart proper _ gap member⟩
      exact absurd (lt_of_lt_of_le overlaps.2 (behind gap member).2) (lt_irrefl _)

lemma gapsFrom_complete {intervals : List α} {from' x y : β} (inside : left ≤ x)
    (behind : from' ≤ x) (less : x < y) (within : y ≤ right)
    (clear : ∀ a ∈ intervals, ¬ Overlaps lo hi x y a) :
    ∃ gap ∈ gapsFrom lo hi left right from' intervals, gap.1 ≤ x ∧ y ≤ gap.2 := by
  induction intervals generalizing from' with
  | nil =>
    have begins : max left from' ≤ x := max_le inside behind
    exact ⟨_, mem_stretch.mpr ⟨lt_of_lt_of_le (lt_of_le_of_lt begins less) within, rfl⟩, begins,
      within⟩
  | cons a rest ih =>
    rcases forall_mem_cons.mp clear with ⟨aClear, clear⟩
    rcases lt_or_ge (lo a) y with begins | beyond
    · have ends : hi a ≤ x := not_lt.mp fun ends => aClear ⟨begins, ends⟩
      rcases ih ends clear with ⟨gap, member, contains⟩
      exact ⟨gap, mem_append_right _ member, contains⟩
    · have begins : max left from' ≤ x := max_le inside behind
      have ends : y ≤ min right (lo a) := le_min within beyond
      exact ⟨_, mem_append_left _
        (mem_stretch.mpr ⟨lt_of_lt_of_le (lt_of_le_of_lt begins less) ends, rfl⟩), begins, ends⟩

lemma gapsFrom_ordered {intervals : List α} (apart : intervals.Pairwise (Apart lo hi))
    (proper : ∀ a ∈ intervals, Proper lo hi left right a) (from' : β) :
    (gapsFrom lo hi left right from' intervals).Pairwise fun p q => p.2 ≤ q.1 := by
  have single : ∀ x y : β, (stretch x y).Pairwise fun p q => p.2 ≤ q.1 := by
    intro x y
    rw [stretch]
    split
    · exact pairwise_singleton _ _
    · exact List.Pairwise.nil
  induction intervals generalizing from' with
  | nil => exact single _ _
  | cons a rest ih =>
    have behind := gapsFrom_behind apart proper
    refine pairwise_append.mpr ⟨single _ _, ih (pairwise_cons.mp apart).2
      (forall_mem_cons.mp proper).2 _, fun p first q second => ?_⟩
    rcases mem_stretch.mp first with ⟨_, rfl⟩
    exact (min_le_right _ _).trans (behind q second).1

lemma gapsFrom_ends (lo hi : α → β) (left right from' : β) (intervals : List α) :
    ∀ gap ∈ gapsFrom lo hi left right from' intervals,
      (gap.1 = max left from' ∨ gap.1 = left ∨ ∃ a ∈ intervals, gap.1 = hi a) ∧
        (gap.2 = right ∨ ∃ a ∈ intervals, gap.2 = lo a) := by
  induction intervals generalizing from' with
  | nil =>
    intro gap member
    rcases mem_stretch.mp member with ⟨_, rfl⟩
    exact ⟨.inl rfl, .inl rfl⟩
  | cons a rest ih =>
    intro gap member
    rcases mem_append.mp member with member | member
    · rcases mem_stretch.mp member with ⟨_, rfl⟩
      refine ⟨.inl rfl, ?_⟩
      rcases min_choice right (lo a) with same | same
      · exact .inl same
      · exact .inr ⟨a, mem_cons_self, same⟩
    · rcases ih _ gap member with ⟨begins, ends⟩
      constructor
      · rcases begins with same | same | ⟨b, later, same⟩
        · rcases max_choice left (hi a) with chosen | chosen
          · exact .inr (.inl (same.trans chosen))
          · exact .inr (.inr ⟨a, mem_cons_self, same.trans chosen⟩)
        · exact .inr (.inl same)
        · exact .inr (.inr ⟨b, mem_cons_of_mem _ later, same⟩)
      · rcases ends with same | ⟨b, later, same⟩
        · exact .inl same
        · exact .inr ⟨b, mem_cons_of_mem _ later, same⟩

end

end OpenRoad.Lib
