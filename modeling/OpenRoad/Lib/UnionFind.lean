import Mathlib.Tactic

/-! Union by rank with path compression, against the classes it stands for. -/

namespace OpenRoad.Lib

open List Relation

structure UnionFind where
  parent : List Nat
  rank : List Nat
deriving DecidableEq

namespace UnionFind

def make (n : Nat) : UnionFind := ⟨List.range n, List.replicate n 0⟩

def parentOf (uf : UnionFind) (x : Nat) : Nat := uf.parent.getD x x

def rankOf (uf : UnionFind) (x : Nat) : Nat := uf.rank.getD x 0

/-- The root of `x`, after which `x` and all nodes on the way point to it. -/
def findWith : Nat → UnionFind → Nat → UnionFind × Nat
  | 0, uf, x => (uf, uf.parentOf x)
  | fuel + 1, uf, x =>
    if uf.parentOf x = x then (uf, x)
    else
      let found := findWith fuel uf (uf.parentOf x)
      ({ found.1 with parent := found.1.parent.set x found.2 }, found.2)

def find (uf : UnionFind) (x : Nat) : UnionFind × Nat := findWith uf.parent.length uf x

def unite (uf : UnionFind) (x y : Nat) : UnionFind :=
  let first := uf.find x
  let second := first.1.find y
  let px := first.2
  let py := second.2
  let uf := second.1
  if px = py then uf
  else if uf.rankOf px < uf.rankOf py then { uf with parent := uf.parent.set px py }
  else if uf.rankOf py < uf.rankOf px then { uf with parent := uf.parent.set py px }
  else ⟨uf.parent.set py px, uf.rank.set px (uf.rankOf px + 1)⟩

/-- The forest stands for the classes of `rep`. -/
structure Represents (n : Nat) (uf : UnionFind) (rep : Nat → Nat) : Prop where
  parents : uf.parent.length = n
  ranks : uf.rank.length = n
  step : ∀ x < n, uf.parentOf x < n ∧ rep (uf.parentOf x) = rep x ∧
    (uf.parentOf x ≠ x → uf.rankOf x < uf.rankOf (uf.parentOf x))
  root : ∀ x < n, uf.parentOf x = x → rep x = x
  rep_lt : ∀ x < n, rep x < n
  rep_root : ∀ x < n, uf.parentOf (rep x) = rep x

variable {n : Nat} {uf : UnionFind} {rep : Nat → Nat}

lemma parentOf_set {parent rank : List Nat} {x y p : Nat} (inside : x < parent.length) :
    parentOf ⟨parent.set x p, rank⟩ y = if x = y then p else parentOf ⟨parent, rank⟩ y := by
  rw [parentOf, parentOf, getD_eq_getElem?_getD, getD_eq_getElem?_getD, getElem?_set]
  by_cases same : x = y
  · rw [if_pos same, if_pos same, if_pos inside]
    rfl
  · rw [if_neg same, if_neg same]

lemma make_represents (n : Nat) : Represents n (make n) id := by
  have own : ∀ x, (make n).parentOf x = x := by
    intro x
    rw [parentOf, make, getD_eq_getElem?_getD]
    by_cases inside : x < n
    · rw [getElem?_range inside]
      rfl
    · rw [List.getElem?_eq_none_iff.mpr (by rw [length_range]; omega)]
      rfl
  refine ⟨length_range, length_replicate, fun x inside => ?_, fun x _ _ => rfl,
    fun x inside => inside, fun x _ => own x⟩
  rw [own x]
  exact ⟨inside, rfl, fun differs => absurd rfl differs⟩

def above (n : Nat) (uf : UnionFind) (x : Nat) : Finset Nat :=
  (Finset.range n).filter fun y => uf.rankOf x < uf.rankOf y

lemma above_parent (represents : Represents n uf rep) {x : Nat} (inside : x < n)
    (notRoot : uf.parentOf x ≠ x) : (above n uf (uf.parentOf x)).card < (above n uf x).card := by
  rcases represents.step x inside with ⟨bound, _, grows⟩
  have higher := grows notRoot
  apply Finset.card_lt_card
  rw [Finset.ssubset_iff_of_subset]
  · refine ⟨uf.parentOf x, Finset.mem_filter.mpr ⟨Finset.mem_range.mpr bound, higher⟩, ?_⟩
    exact fun member => absurd (Finset.mem_filter.mp member).2 (Nat.lt_irrefl _)
  · intro y member
    rcases Finset.mem_filter.mp member with ⟨inRange, further⟩
    exact Finset.mem_filter.mpr ⟨inRange, Nat.lt_trans higher further⟩

lemma compress_represents (represents : Represents n uf rep) {x : Nat} (inside : x < n)
    (higher : uf.rankOf x < uf.rankOf (rep x)) :
    Represents n { uf with parent := uf.parent.set x (rep x) } rep := by
  have bound : x < uf.parent.length := represents.parents.symm ▸ inside
  have entry : ∀ y, parentOf ⟨uf.parent.set x (rep x), uf.rank⟩ y =
      if x = y then rep x else parentOf ⟨uf.parent, uf.rank⟩ y := fun y => parentOf_set bound
  have repRep : rep (rep x) = rep x :=
    represents.root (rep x) (represents.rep_lt x inside) (represents.rep_root x inside)
  have notRep : ∀ y < n, rep y ≠ x := by
    intro y yInside same
    have isRoot := represents.rep_root y yInside
    rw [same] at isRoot
    rw [represents.root x inside isRoot] at higher
    exact Nat.lt_irrefl _ higher
  refine ⟨by rw [length_set, represents.parents], represents.ranks, fun y yInside => ?_,
    fun y yInside own => ?_, represents.rep_lt, fun y yInside => ?_⟩
  · rw [entry]
    split
    · rename_i same
      rw [← same]
      exact ⟨represents.rep_lt x inside, repRep, fun _ => higher⟩
    · exact represents.step y yInside
  · rw [entry] at own
    split at own
    · rename_i same
      rw [← own, repRep]
    · exact represents.root y yInside own
  · rw [entry, if_neg (notRep y yInside).symm]
    exact represents.rep_root y yInside

lemma findWith_spec (fuel : Nat) :
    ∀ (uf : UnionFind) (x : Nat), Represents n uf rep → x < n → (above n uf x).card < fuel →
      (findWith fuel uf x).2 = rep x ∧ Represents n (findWith fuel uf x).1 rep ∧
      (findWith fuel uf x).1.rank = uf.rank ∧ uf.rankOf x ≤ uf.rankOf (rep x) := by
  induction fuel with
  | zero => exact fun _ _ _ _ enough => absurd enough (Nat.not_lt_zero _)
  | succ fuel ih =>
    intro uf x represents inside enough
    rw [findWith]
    split
    · rename_i isRoot
      have own := represents.root x inside isRoot
      exact ⟨own.symm, represents, rfl, by rw [own]⟩
    · rename_i notRoot
      rcases represents.step x inside with ⟨bound, same, grows⟩
      have fewer := above_parent represents inside notRoot
      rcases ih uf (uf.parentOf x) represents bound (by omega) with ⟨found, after, ranks, climbs⟩
      rw [same] at found climbs
      have higher := Nat.lt_of_lt_of_le (grows notRoot) climbs
      dsimp only
      rw [found]
      refine ⟨rfl, compress_represents after inside ?_, ranks, Nat.le_of_lt higher⟩
      rw [rankOf, rankOf, ranks]
      exact higher

lemma find_spec (represents : Represents n uf rep) {x : Nat} (inside : x < n) :
    (uf.find x).2 = rep x ∧ Represents n (uf.find x).1 rep ∧ (uf.find x).1.rank = uf.rank := by
  have enough : (above n uf x).card < uf.parent.length := by
    rw [represents.parents]
    have proper : above n uf x ⊂ Finset.range n := by
      refine (Finset.ssubset_iff_of_subset (Finset.filter_subset _ _)).mpr ?_
      exact ⟨x, Finset.mem_range.mpr inside,
        fun member => absurd (Finset.mem_filter.mp member).2 (Nat.lt_irrefl _)⟩
    have fewer := Finset.card_lt_card proper
    rwa [Finset.card_range] at fewer
  rcases findWith_spec _ uf x represents inside enough with ⟨found, after, ranks, _⟩
  exact ⟨found, after, ranks⟩

def joined (rep : Nat → Nat) (loser winner : Nat) (x : Nat) : Nat :=
  if rep x = loser then winner else rep x

lemma joined_iff {loser winner : Nat} (x y : Nat) :
    joined rep loser winner x = joined rep loser winner y ↔
      rep x = rep y ∨ (rep x = loser ∨ rep x = winner) ∧ (rep y = loser ∨ rep y = winner) := by
  rw [joined, joined]
  split <;> split <;> grind

lemma link_represents (represents : Represents n uf rep) {loser winner : Nat} {rank : List Nat}
    (loserInside : loser < n) (winnerInside : winner < n) (differ : loser ≠ winner)
    (loserRoot : uf.parentOf loser = loser) (winnerRoot : uf.parentOf winner = winner)
    (ranks : rank.length = n)
    (grows : ∀ x y, x ≠ winner → uf.rankOf x < uf.rankOf y → rank.getD x 0 < rank.getD y 0)
    (higher : rank.getD loser 0 < rank.getD winner 0) :
    Represents n ⟨uf.parent.set loser winner, rank⟩ (joined rep loser winner) := by
  have bound : loser < uf.parent.length := represents.parents.symm ▸ loserInside
  have entry : ∀ y, parentOf ⟨uf.parent.set loser winner, rank⟩ y =
      if loser = y then winner else uf.parentOf y := fun y => parentOf_set bound
  have loserRep := represents.root loser loserInside loserRoot
  have winnerRep := represents.root winner winnerInside winnerRoot
  have winnerJoined : joined rep loser winner winner = winner := by
    rw [joined, winnerRep, if_neg differ.symm]
  refine ⟨by rw [length_set, represents.parents], ranks, fun x inside => ?_,
    fun x inside own => ?_, fun x inside => ?_, fun x inside => ?_⟩
  · rw [entry]
    split
    · rename_i same
      rw [winnerJoined, ← same, joined, if_pos loserRep]
      exact ⟨winnerInside, rfl, fun _ => higher⟩
    · rcases represents.step x inside with ⟨parentInside, kept, climbs⟩
      refine ⟨parentInside, by rw [joined, joined, kept], fun notRoot => ?_⟩
      exact grows x (uf.parentOf x) (fun same => notRoot (same ▸ winnerRoot)) (climbs notRoot)
  · rw [entry] at own
    split at own
    · rename_i same
      exact absurd (same.trans own.symm) differ
    · rename_i other
      rw [joined, represents.root x inside own, if_neg fun same => other same.symm]
  · rw [joined]
    split
    · exact winnerInside
    · exact represents.rep_lt x inside
  · rw [joined]
    split
    · rw [entry, if_neg differ]
      exact winnerRoot
    · rename_i other
      rw [entry, if_neg fun same => other same.symm]
      exact represents.rep_root x inside

lemma unite_represents (represents : Represents n uf rep) {x y : Nat} (xInside : x < n)
    (yInside : y < n) :
    ∃ rep', Represents n (uf.unite x y) rep' ∧ ∀ a b, rep' a = rep' b ↔
      rep a = rep b ∨ (rep a = rep x ∨ rep a = rep y) ∧ (rep b = rep x ∨ rep b = rep y) := by
  rcases find_spec represents xInside with ⟨first, afterFirst, _⟩
  rcases find_spec afterFirst yInside with ⟨second, after, _⟩
  have xRoot := after.rep_root x xInside
  have yRoot := after.rep_root y yInside
  have xRepInside := after.rep_lt x xInside
  have yRepInside := after.rep_lt y yInside
  rw [unite, first, second]
  split
  · rename_i same
    refine ⟨rep, after, fun a b => ?_⟩
    rw [same]
    constructor
    · exact Or.inl
    · rintro (equal | ⟨ofA, ofB⟩)
      · exact equal
      · rw [ofA.elim id id, ofB.elim id id]
  · rename_i differ
    split
    · rename_i lower
      refine ⟨joined rep (rep x) (rep y), link_represents after xRepInside yRepInside differ xRoot
        yRoot after.ranks (fun _ _ _ => id) lower, fun a b => joined_iff a b⟩
    · split
      · rename_i lower
        refine ⟨joined rep (rep y) (rep x), link_represents after yRepInside xRepInside
          (Ne.symm differ) yRoot xRoot after.ranks (fun _ _ _ => id) lower, fun a b => ?_⟩
        rw [joined_iff, or_comm (a := rep a = rep y), or_comm (a := rep b = rep y)]
      · rename_i notLower notHigher
        have inRank := after.ranks.symm ▸ xRepInside
        have raised : ∀ z, (((uf.find x).1.find y).1.rank.set (rep x)
            (((uf.find x).1.find y).1.rankOf (rep x) + 1)).getD z 0 =
              if rep x = z then ((uf.find x).1.find y).1.rankOf (rep x) + 1
              else ((uf.find x).1.find y).1.rankOf z := by
          intro z
          rw [getD_eq_getElem?_getD, getElem?_set, if_pos inRank]
          split
          · rfl
          · rw [rankOf, getD_eq_getElem?_getD]
        refine ⟨joined rep (rep y) (rep x), link_represents after yRepInside xRepInside
          (Ne.symm differ) yRoot xRoot (by rw [length_set, after.ranks])
          (fun u v uOther less => ?_) ?_, fun a b => ?_⟩
        · rw [raised, raised, if_neg (Ne.symm uOther)]
          split
          · rename_i same
            rw [← same] at less
            omega
          · exact less
        · rw [raised, raised, if_neg differ, if_pos rfl]
          omega
        · rw [joined_iff, or_comm (a := rep a = rep y), or_comm (a := rep b = rep y)]

lemma eqvGen_insert {α : Type} {pairs : List (α × α)} {x y : α} (a b : α) :
    EqvGen (fun a b => (a, b) ∈ pairs ++ [(x, y)]) a b ↔
      EqvGen (fun a b => (a, b) ∈ pairs) a b ∨
        (EqvGen (fun a b => (a, b) ∈ pairs) a x ∨
          EqvGen (fun a b => (a, b) ∈ pairs) a y) ∧
        (EqvGen (fun a b => (a, b) ∈ pairs) b x ∨
          EqvGen (fun a b => (a, b) ∈ pairs) b y) := by
  have wider : ∀ u v, EqvGen (fun a b => (a, b) ∈ pairs) u v →
      EqvGen (fun a b => (a, b) ∈ pairs ++ [(x, y)]) u v := fun u v related =>
    related.mono fun _ _ member => mem_append_left _ member
  have last : EqvGen (fun a b => (a, b) ∈ pairs ++ [(x, y)]) x y :=
    .rel _ _ (mem_append_right _ (mem_singleton.mpr rfl))
  constructor
  · intro related
    induction related with
    | rel u v member =>
      rcases mem_append.mp member with old | new
      · exact .inl (.rel _ _ old)
      · rw [mem_singleton, Prod.mk.injEq] at new
        rw [new.1, new.2]
        exact .inr ⟨.inl (.refl _), .inr (.refl _)⟩
    | refl u => exact .inl (.refl u)
    | symm u v _ ih =>
      rcases ih with old | ⟨ofU, ofV⟩
      · exact .inl (.symm _ _ old)
      · exact .inr ⟨ofV, ofU⟩
    | trans u v w _ _ first second =>
      rcases first with old | ⟨ofU, ofV⟩
      · rcases second with old' | ⟨ofV, ofW⟩
        · exact .inl (.trans _ _ _ old old')
        · exact .inr ⟨ofV.imp (.trans _ _ _ old) (.trans _ _ _ old), ofW⟩
      · rcases second with old | ⟨_, ofW⟩
        · exact .inr ⟨ofU, ofV.imp (.trans _ _ _ (.symm _ _ old)) (.trans _ _ _ (.symm _ _ old))⟩
        · exact .inr ⟨ofU, ofW⟩
  · rintro (old | ⟨ofA, ofB⟩)
    · exact wider _ _ old
    · have toX : ∀ u, (EqvGen (fun a b => (a, b) ∈ pairs) u x ∨
          EqvGen (fun a b => (a, b) ∈ pairs) u y) →
          EqvGen (fun a b => (a, b) ∈ pairs ++ [(x, y)]) u x := by
        rintro u (atX | atY)
        · exact wider _ _ atX
        · exact .trans _ _ _ (wider _ _ atY) (.symm _ _ last)
      exact .trans _ _ _ (toX a ofA) (.symm _ _ (toX b ofB))

lemma unites_represents (pairs : List (Nat × Nat)) (inside : ∀ p ∈ pairs, p.1 < n ∧ p.2 < n) :
    ∃ rep, Represents n (pairs.foldl (fun uf p => uf.unite p.1 p.2) (make n)) rep ∧
      ∀ a b, rep a = rep b ↔ EqvGen (fun a b => (a, b) ∈ pairs) a b := by
  induction pairs using reverseRecOn with
  | nil =>
    refine ⟨id, make_represents n, fun a b => ⟨fun same => ?_, fun related => ?_⟩⟩
    · rw [show a = b from same]
      exact .refl b
    · induction related with
      | rel u v member => cases member
      | refl u => rfl
      | symm u v _ ih => exact ih.symm
      | trans u v w _ _ first second => exact first.trans second
  | append_singleton pairs pair ih =>
    rcases ih fun p member => inside p (mem_append_left _ member) with
      ⟨rep, represents, classes⟩
    rcases inside pair (mem_append_right _ (mem_singleton.mpr rfl)) with
      ⟨firstInside, secondInside⟩
    rcases unite_represents represents firstInside secondInside with ⟨rep', after, classes'⟩
    refine ⟨rep', ?_, fun a b => ?_⟩
    · rw [foldl_append]
      exact after
    · rw [classes', eqvGen_insert, classes, classes, classes, classes, classes]

end UnionFind

end OpenRoad.Lib
