import Mathlib.Tactic

/-! Best-first search from a start, through neighbours inside a window, by a queue of distances. -/

namespace OpenRoad.Lib

open List

variable {α : Type}

structure PQEntry (α : Type) where
  distance : Int
  point : α
  sequence : Nat
  deriving DecidableEq

def PQEntry.before (entry other : PQEntry α) : Bool :=
  entry.distance < other.distance ∨
    entry.distance = other.distance ∧ entry.sequence < other.sequence

def topEntry : PQEntry α → List (PQEntry α) → PQEntry α
  | entry, [] => entry
  | entry, other :: entries => topEntry (if other.before entry then other else entry) entries

structure SearchState (α : Type) where
  heap : List (PQEntry α)
  visited : Finset α
  sequence : Nat

section

variable [DecidableEq α] (neighbors : α → List α) (inside : α → Bool) (distance : α → Int) (accept : α → Bool)

/-- A neighbour that was not put in the queue yet and is inside the window. -/
def visit (state : SearchState α) (neighbor : α) : SearchState α :=
  if neighbor ∈ state.visited then state
  else if ¬ inside neighbor then state
  else
    { heap := ⟨distance neighbor, neighbor, state.sequence⟩ :: state.heap
      visited := insert neighbor state.visited
      sequence := state.sequence + 1 }

/-- The loop, as long as the fuel lasts: the accepted point, if there is one. -/
def bestFirst : Nat → SearchState α → Option (Option α)
  | 0, _ => none
  | fuel + 1, state =>
    match state.heap with
    | [] => some none
    | entry :: entries =>
      let nearest := topEntry entry entries
      if accept nearest.point then some (some nearest.point)
      else bestFirst fuel ((neighbors nearest.point).foldl (visit inside distance)
        { state with heap := state.heap.erase nearest })

def searchFrom (start : α) : SearchState α := ⟨[⟨0, start, 0⟩], {start}, 1⟩

end

lemma topEntry_mem (entry : PQEntry α) (entries : List (PQEntry α)) :
    topEntry entry entries ∈ entry :: entries := by
  induction entries generalizing entry with
  | nil => exact mem_cons_self
  | cons other entries ih =>
    rw [topEntry]
    split
    · exact mem_cons_of_mem _ (ih other)
    · rcases mem_cons.mp (ih entry) with isFirst | later
      · rw [isFirst]
        exact mem_cons_self
      · exact mem_cons_of_mem _ (mem_cons_of_mem _ later)

lemma topEntry_le (entry : PQEntry α) (entries : List (PQEntry α)) :
    ∀ other ∈ entry :: entries, (topEntry entry entries).distance ≤ other.distance := by
  induction entries generalizing entry with
  | nil =>
    intro other member
    rw [mem_singleton.mp member]
    exact le_rfl
  | cons next entries ih =>
    intro other member
    rw [topEntry]
    split
    · rename_i better
      have le := ih next next mem_cons_self
      rcases mem_cons.mp member with rfl | later
      · rw [PQEntry.before, decide_eq_true_eq] at better
        rcases better with less | ⟨same, _⟩
        · exact le.trans less.le
        · exact le.trans same.le
      · exact ih next other later
    · rename_i worse
      have le := ih entry entry mem_cons_self
      rcases mem_cons.mp member with rfl | later
      · exact le
      · rcases mem_cons.mp later with rfl | last
        · rw [PQEntry.before, decide_eq_true_eq, not_or] at worse
          exact le.trans (not_lt.mp worse.1)
        · exact ih entry other (mem_cons_of_mem _ last)

section

variable [DecidableEq α] {neighbors : α → List α} {inside : α → Bool} {distance : α → Int}
  {accept : α → Bool} {start : α} {state grown : SearchState α}

/-- Entries that visits add: of points that had not been visited and are inside. -/
structure Grown (inside : α → Bool) (distance : α → Int) (state grown : SearchState α)
    (added : List (PQEntry α)) : Prop where
  heap : grown.heap = added ++ state.heap
  visited : ∀ point, point ∈ grown.visited ↔
    point ∈ state.visited ∨ ∃ entry ∈ added, entry.point = point
  fresh : ∀ entry ∈ added, entry.point ∉ state.visited
  inside : ∀ entry ∈ added, inside entry.point = true
  distances : ∀ entry ∈ added, entry.distance = distance entry.point
  unique : (added.map PQEntry.point).Nodup

lemma visit_grown {added : List (PQEntry α)} (grows : Grown inside distance state grown added)
    (neighbor : α) : ∃ more, Grown inside distance state (visit inside distance grown neighbor) more ∧
      (∀ point ∈ grown.visited, point ∈ (visit inside distance grown neighbor).visited) ∧
      (inside neighbor = true → neighbor ∈ (visit inside distance grown neighbor).visited) := by
  rw [visit]
  split
  · rename_i known
    exact ⟨added, grows, fun _ member => member, fun _ => known⟩
  · rename_i unknown
    split
    · rename_i outside
      exact ⟨added, grows, fun _ member => member, fun isInside => absurd isInside outside⟩
    · rename_i isInside
      rw [not_not] at isInside
      have new : neighbor ∉ state.visited ∧ ∀ entry ∈ added, entry.point ≠ neighbor := by
        rw [grows.visited, not_or] at unknown
        exact ⟨unknown.1, fun entry member same => unknown.2 ⟨entry, member, same⟩⟩
      refine ⟨⟨distance neighbor, neighbor, grown.sequence⟩ :: added, ?_, ?_, ?_⟩
      · refine ⟨by rw [grows.heap]; rfl, ?_, ?_, ?_, ?_, ?_⟩
        · intro point
          rw [Finset.mem_insert, grows.visited]
          simp only [mem_cons, exists_eq_or_imp]
          tauto
        · intro entry member
          rcases mem_cons.mp member with rfl | old
          · exact new.1
          · exact grows.fresh entry old
        · intro entry member
          rcases mem_cons.mp member with rfl | old
          · exact isInside
          · exact grows.inside entry old
        · intro entry member
          rcases mem_cons.mp member with rfl | old
          · rfl
          · exact grows.distances entry old
        · rw [map_cons, nodup_cons]
          refine ⟨?_, grows.unique⟩
          intro member
          rcases mem_map.mp member with ⟨entry, old, same⟩
          exact new.2 entry old same
      · exact fun point member => Finset.mem_insert_of_mem member
      · exact fun _ => Finset.mem_insert_self _ _

lemma visits_grown (points : List α) (state : SearchState α) :
    ∃ added, Grown inside distance state (points.foldl (visit inside distance) state) added ∧
      ∀ point ∈ points, inside point = true →
        point ∈ (points.foldl (visit inside distance) state).visited := by
  induction points using reverseRecOn with
  | nil =>
    refine ⟨[], ⟨rfl, fun point => ?_, ?_, ?_, ?_, nodup_nil⟩, ?_⟩
    · simp
    · exact fun entry member => absurd member not_mem_nil
    · exact fun entry member => absurd member not_mem_nil
    · exact fun entry member => absurd member not_mem_nil
    · exact fun point member => absurd member not_mem_nil
  | append_singleton points last ih =>
    rcases ih with ⟨added, grows, seen⟩
    rw [foldl_append]
    simp only [foldl_cons, foldl_nil]
    rcases visit_grown grows last with ⟨more, grows', kept, isSeen⟩
    refine ⟨more, grows', ?_⟩
    intro point member isInside
    rcases mem_append.mp member with before | isLast
    · exact kept point (seen point before isInside)
    · rw [mem_singleton.mp isLast] at isInside ⊢
      exact isSeen isInside

variable {expanded : Finset α}

def Open (inside : α → Bool) (start point : α) : Prop := point = start ∨ inside point = true

/-- Points in the queue have not been expanded; the neighbours of those that have been were visited.
-/
structure Searching (neighbors : α → List α) (inside : α → Bool) (distance : α → Int)
    (accept : α → Bool) (start : α) (expanded : Finset α) (state : SearchState α) : Prop where
  visited : ∀ point, point ∈ state.visited ↔
    point ∈ expanded ∨ ∃ entry ∈ state.heap, entry.point = point
  apart : ∀ entry ∈ state.heap, entry.point ∉ expanded
  unique : (state.heap.map PQEntry.point).Nodup
  distances : ∀ entry ∈ state.heap, entry.distance = distance entry.point
  refused : ∀ point ∈ expanded, accept point = false
  seen : ∀ point ∈ expanded, ∀ neighbor ∈ neighbors point, inside neighbor = true →
    neighbor ∈ state.visited
  opened : ∀ point ∈ state.visited, Open inside start point
  started : start ∈ state.visited

omit [DecidableEq α] in
lemma searchFrom_searching (zero : distance start = 0) :
    Searching neighbors inside distance accept start ∅ (searchFrom start) where
  visited := by
    intro point
    simp [searchFrom, eq_comm]
  apart := fun entry _ => Finset.notMem_empty _
  unique := nodup_singleton _
  distances := by
    intro entry member
    rw [mem_singleton.mp member]
    exact zero.symm
  refused := fun point member => absurd member (Finset.notMem_empty _)
  seen := fun point member => absurd member (Finset.notMem_empty _)
  opened := fun point member => .inl (Finset.mem_singleton.mp member)
  started := Finset.mem_singleton_self _

lemma expand_searching (searching : Searching neighbors inside distance accept start expanded state)
    {nearest : PQEntry α} (queued : nearest ∈ state.heap) (refused : accept nearest.point = false) :
    Searching neighbors inside distance accept start (insert nearest.point expanded)
      ((neighbors nearest.point).foldl (visit inside distance)
        { state with heap := state.heap.erase nearest }) := by
  rcases @visits_grown α _ inside distance (neighbors nearest.point)
    { state with heap := state.heap.erase nearest } with ⟨added, grows, seen⟩
  have order := perm_cons_erase queued
  have unique : ((nearest :: state.heap.erase nearest).map PQEntry.point).Nodup :=
    (order.map PQEntry.point).nodup_iff.mp searching.unique
  rw [map_cons, nodup_cons] at unique
  have wasVisited : ∀ entry ∈ state.heap, entry.point ∈ state.visited := fun entry member =>
    (searching.visited _).mpr (.inr ⟨entry, member, rfl⟩)
  have isEntry : ∀ entry, entry ∈ ((neighbors nearest.point).foldl (visit inside distance)
      { state with heap := state.heap.erase nearest }).heap ↔
      entry ∈ added ∨ entry ∈ state.heap.erase nearest := by
    intro entry
    rw [grows.heap, mem_append]
  refine ⟨?_, ?_, ?_, ?_, ?_, ?_, ?_, ?_⟩
  · intro point
    rw [grows.visited, searching.visited, Finset.mem_insert]
    simp only [isEntry]
    constructor
    · rintro ((isExpanded | ⟨entry, member, rfl⟩) | ⟨entry, member, rfl⟩)
      · exact .inl (.inr isExpanded)
      · rcases mem_cons.mp (order.mem_iff.mp member) with rfl | rest
        · exact .inl (.inl rfl)
        · exact .inr ⟨entry, .inr rest, rfl⟩
      · exact .inr ⟨entry, .inl member, rfl⟩
    · rintro ((rfl | isExpanded) | ⟨entry, member | member, rfl⟩)
      · exact .inl (.inr ⟨nearest, queued, rfl⟩)
      · exact .inl (.inl isExpanded)
      · exact .inr ⟨entry, member, rfl⟩
      · exact .inl (.inr ⟨entry, mem_of_mem_erase member, rfl⟩)
  · intro entry member
    rw [Finset.mem_insert, not_or]
    rcases (isEntry entry).mp member with new | old
    · have unvisited := grows.fresh entry new
      refine ⟨fun same => unvisited ?_, fun isExpanded => unvisited ?_⟩
      · rw [same]
        exact wasVisited nearest queued
      · exact (searching.visited _).mpr (.inl isExpanded)
    · refine ⟨fun same => unique.1 ?_, searching.apart entry (mem_of_mem_erase old)⟩
      rw [← same]
      exact mem_map_of_mem old
  · rw [grows.heap, map_append, nodup_append]
    refine ⟨grows.unique, unique.2, ?_⟩
    intro point isNew other isOld same
    rcases mem_map.mp isNew with ⟨entry, member, rfl⟩
    rcases mem_map.mp isOld with ⟨old, there, rfl⟩
    apply grows.fresh entry member
    rw [same]
    exact wasVisited old (mem_of_mem_erase there)
  · intro entry member
    rcases (isEntry entry).mp member with new | old
    · exact grows.distances entry new
    · exact searching.distances entry (mem_of_mem_erase old)
  · intro point member
    rcases Finset.mem_insert.mp member with rfl | isExpanded
    · exact refused
    · exact searching.refused point isExpanded
  · intro point member neighbor isNeighbor isInside
    rcases Finset.mem_insert.mp member with rfl | isExpanded
    · exact seen neighbor isNeighbor isInside
    · exact (grows.visited neighbor).mpr
        (.inl (searching.seen point isExpanded neighbor isNeighbor isInside))
  · intro point member
    rcases (grows.visited point).mp member with old | ⟨entry, new, rfl⟩
    · exact searching.opened point old
    · exact .inr (grows.inside entry new)
  · exact (grows.visited start).mpr (.inl searching.started)

section

/-- Every point inside but the start is a neighbour of a point that is no further away. -/
def Approached (neighbors : α → List α) (inside : α → Bool) (distance : α → Int) (start : α)
    (rank : α → Nat) : Prop :=
  ∀ point, inside point = true → point ≠ start → ∃ before, Open inside start before ∧
    point ∈ neighbors before ∧ distance before ≤ distance point ∧ rank before < rank point

variable {rank : α → Nat} (approached : Approached neighbors inside distance start rank)

include approached

lemma queued_before (searching : Searching neighbors inside distance accept start expanded state)
    {point : α} (isOpen : Open inside start point) (ahead : point ∉ expanded) :
    ∃ entry ∈ state.heap, entry.distance ≤ distance point := by
  induction isRank : rank point using Nat.strong_induction_on generalizing point with
  | _ r ih =>
    by_cases known : point ∈ state.visited
    · rcases (searching.visited point).mp known with isExpanded | ⟨entry, member, rfl⟩
      · exact absurd isExpanded ahead
      · exact ⟨entry, member, (searching.distances entry member).le⟩
    · have notStart : point ≠ start := fun same => known (same ▸ searching.started)
      have isInside := isOpen.resolve_left notStart
      rcases approached point isInside notStart with ⟨before, open', isNeighbor, le, less⟩
      have aheadBefore : before ∉ expanded := fun isExpanded =>
        known (searching.seen before isExpanded point isNeighbor isInside)
      rcases ih (rank before) (isRank ▸ less) open' aheadBefore rfl with ⟨entry, member, near⟩
      exact ⟨entry, member, near.trans le⟩

lemma bestFirst_nearest {fuel : Nat} {result : Option α}
    (searching : Searching neighbors inside distance accept start expanded state)
    (ends : bestFirst neighbors inside distance accept fuel state = some result) :
    (∀ point, result = some point → Open inside start point ∧ accept point = true ∧
      ∀ other, Open inside start other → accept other = true → distance point ≤ distance other) ∧
    (result = none → ∀ other, Open inside start other → accept other = false) := by
  induction fuel generalizing expanded state with
  | zero => cases ends
  | succ fuel ih =>
    rw [bestFirst] at ends
    split at ends
    · rename_i isEmpty
      rw [Option.some.injEq] at ends
      refine ⟨fun point found => ?_, fun _ other isOpen => ?_⟩
      · rw [← ends] at found
        cases found
      by_contra accepted
      have ahead : other ∉ expanded := fun isExpanded =>
        accepted (searching.refused other isExpanded)
      rcases queued_before approached searching isOpen ahead with ⟨entry, member, _⟩
      rw [isEmpty] at member
      cases member
    · rename_i entry entries isHeap
      have queued : topEntry entry entries ∈ state.heap := by
        rw [isHeap]
        exact topEntry_mem entry entries
      dsimp only at ends
      split at ends
      · rename_i accepted
        rw [Option.some.injEq] at ends
        refine ⟨fun point found => ?_, fun isNone => ?_⟩
        swap
        · rw [← ends] at isNone
          cases isNone
        rw [← ends, Option.some.injEq] at found
        rw [← found]
        refine ⟨searching.opened _ ((searching.visited _).mpr (.inr ⟨_, queued, rfl⟩)), accepted,
          ?_⟩
        intro other isOpen otherAccepted
        have ahead : other ∉ expanded := by
          intro isExpanded
          rw [searching.refused other isExpanded] at otherAccepted
          cases otherAccepted
        rcases queued_before approached searching isOpen ahead with ⟨before, member, near⟩
        rw [isHeap] at member
        calc distance (topEntry entry entries).point = (topEntry entry entries).distance :=
              (searching.distances _ queued).symm
          _ ≤ before.distance := topEntry_le entry entries before member
          _ ≤ distance other := near
      · rename_i refused
        exact ih (expand_searching searching queued (Bool.not_eq_true _ ▸ refused)) ends

end

lemma bestFirst_ends {window : Finset α} (finite : ∀ point, Open inside start point → point ∈ window)
    {fuel : Nat} (searching : Searching neighbors inside distance accept start expanded state)
    (enough : window.card < fuel + expanded.card) :
    (bestFirst neighbors inside distance accept fuel state).isSome = true := by
  have subset : expanded ⊆ window := fun point member =>
    finite point (searching.opened point ((searching.visited point).mpr (.inl member)))
  induction fuel generalizing expanded state with
  | zero =>
    have le := Finset.card_le_card subset
    omega
  | succ fuel ih =>
    rw [bestFirst]
    split
    · rfl
    · rename_i entry entries isHeap
      have queued : topEntry entry entries ∈ state.heap := by
        rw [isHeap]
        exact topEntry_mem entry entries
      dsimp only
      split
      · rfl
      · rename_i refused
        have next := expand_searching searching queued (Bool.not_eq_true _ ▸ refused)
        refine ih next ?_ ?_
        · rw [Finset.card_insert_of_notMem (searching.apart _ queued)]
          omega
        · exact fun point member =>
            finite point (next.opened point ((next.visited point).mpr (.inl member)))

lemma bestFirst_first (start : α) (fuel : Nat) :
    bestFirst neighbors inside distance accept (fuel + 1) (searchFrom start) =
      if accept start = true then some (some start)
      else bestFirst neighbors inside distance accept fuel
        ((neighbors start).foldl (visit inside distance) ⟨[], {start}, 1⟩) := by
  change (if accept start = true then some (some start)
    else bestFirst neighbors inside distance accept fuel
      ((neighbors start).foldl (visit inside distance)
        ⟨[(⟨0, start, 0⟩ : PQEntry α)].erase ⟨0, start, 0⟩, {start}, 1⟩)) = _
  rw [erase_cons_head]

lemma visits_outside {points : List α} (outside : ∀ point ∈ points, inside point = false)
    (state : SearchState α) : points.foldl (visit inside distance) state = state := by
  induction points with
  | nil => rfl
  | cons point points ih =>
    have skipped : visit inside distance state point = state := by
      rw [visit]
      split
      · rfl
      · rw [if_pos (by rw [outside point mem_cons_self]; exact Bool.false_ne_true)]
    rw [foldl_cons, skipped]
    exact ih fun other member => outside other (mem_cons_of_mem _ member)

lemma bestFirst_start (accepted : accept start = true) (fuel : Nat) :
    bestFirst neighbors inside distance accept (fuel + 1) (searchFrom start) = some (some start) := by
  rw [bestFirst_first, if_pos accepted]

end

end OpenRoad.Lib
