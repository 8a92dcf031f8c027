import OpenRoad.Par.VertexMatching

/-! Which neighbour a vertex may be matched with. -/

namespace OpenRoad.Par

open Lib Lib.VectorOrder List Coarsener

variable {vd hd pd : Nat}

lemma bestVertex_mem (ids : List (Option Nat)) (scoreMap : ScoreMap) (u : Nat) :
    ∀ start : Option Nat × ℚ, (scoreMap.foldl (fun best entry =>
          if best.2 < entry.2 then (some entry.1, entry.2)
          else if entry.2 = best.2 ∧ idOf ids entry.1 = none then (some entry.1, best.2)
          else best) start).1 = some u →
      start.1 = some u ∨ u ∈ scoreMap.map Prod.fst := by
  induction scoreMap with
  | nil => exact fun start found => Or.inl found
  | cons entry rest ih =>
    intro start found
    rw [foldl_cons] at found
    rw [map_cons, mem_cons]
    rcases ih _ found with now | later
    · split at now
      · exact Or.inr (Or.inl (Option.some.inj now).symm)
      · split at now
        · exact Or.inr (Or.inl (Option.some.inj now).symm)
        · exact Or.inl now
    · exact Or.inr (Or.inr later)

lemma addScore_keys (scoreMap : ScoreMap) (u : Nat) (score : ℚ) :
    (addScore scoreMap u score).map Prod.fst = scoreMap.map Prod.fst := by
  rw [addScore, map_map]
  apply map_congr_left
  intro entry _
  rw [Function.comp_apply]
  split
  · rfl
  · rfl

section Neighbours

variable {c : Coarsener} {ev : GoldenEvaluator vd hd} {o : MatchOptions vd}
  {h : PlacedHypergraph vd hd pd} {s : MatchState vd pd}

lemma addTimingScores_keys (v : Nat) (scoreMap : ScoreMap) :
    (addTimingScores ev h v scoreMap).map Prod.fst = scoreMap.map Prod.fst := by
  have neighbors : ∀ (score : ℚ) (us : List Nat) (scoreMap : ScoreMap),
      (us.foldl (fun scoreMap u => addScore scoreMap u score) scoreMap).map Prod.fst =
        scoreMap.map Prod.fst := by
    intro score us
    induction us with
    | nil => exact fun _ => rfl
    | cons u rest ih =>
      intro scoreMap
      rw [foldl_cons, ih, addScore_keys]
  have paths : ∀ (ps : List Nat) (scoreMap : ScoreMap),
      (ps.foldl (fun scoreMap p => (pathNeighbors (h.pathVertices p) v).foldl
        (fun scoreMap u => addScore scoreMap u (ev.getPathTimingScore h.toHypergraph p)) scoreMap)
        scoreMap).map Prod.fst = scoreMap.map Prod.fst := by
    intro ps
    induction ps with
    | nil => exact fun _ => rfl
    | cons p rest ih =>
      intro scoreMap
      rw [foldl_cons, ih, neighbors]
  rw [addTimingScores]
  split
  · exact paths _ scoreMap
  · rfl

lemma addPlacementScores_keys (v : Nat) (scoreMap : ScoreMap) :
    (addPlacementScores o h v scoreMap).map Prod.fst = scoreMap.map Prod.fst := by
  rw [addPlacementScores]
  split
  · rw [map_map]
    rfl
  · rfl

/-- A hyperedge of the vertex, neither too small nor too large, has the other one. -/
def Coarsener.Links (c : Coarsener) (h : Hypergraph vd hd) (v u : Nat) : Prop :=
  ∃ e ∈ h.edges v, u ∈ h.vertices e ∧ 1 < (h.vertices e).length ∧
    (h.vertices e).length ≤ c.thrCoarsenHyperedgeSizeSkip

structure Candidate (c : Coarsener) (o : MatchOptions vd) (h : PlacedHypergraph vd hd pd)
    (s : MatchState vd pd) (v u : Nat) : Prop where
  other : u ≠ v
  joins : mayJoin o h s v u = true
  links : c.Links h.toHypergraph v u

lemma scoreNeighbor_keys {v u : Nat} {score : ℚ} {scoreMap : ScoreMap}
    (links : c.Links h.toHypergraph v u)
    (all : ∀ w ∈ scoreMap.map Prod.fst, Candidate c o h s v w) :
    ∀ w ∈ (scoreNeighbor o h s v score scoreMap u).map Prod.fst, Candidate c o h s v w := by
  rw [scoreNeighbor]
  split
  · exact all
  · rename_i other
    split
    · rw [addScore_keys]
      exact all
    · split
      · rename_i joins
        intro w found
        rcases mem_map.mp found with ⟨entry, isEntry, rfl⟩
        rcases mem_orderedInsert _ |>.mp isEntry with new | old
        · rw [new]
          exact ⟨other, joins, links⟩
        · exact all entry.1 (mem_map_of_mem old)
      · exact all

lemma scoreHyperedge_keys {v e : Nat} {scoreMap : ScoreMap} (isEdge : e ∈ h.edges v)
    (all : ∀ w ∈ scoreMap.map Prod.fst, Candidate c o h s v w) :
    ∀ w ∈ (c.scoreHyperedge ev o h s v scoreMap e).map Prod.fst, Candidate c o h s v w := by
  have vertices : ∀ (score : ℚ) (us : List Nat) (scoreMap : ScoreMap),
      (∀ u ∈ us, c.Links h.toHypergraph v u) →
      (∀ w ∈ scoreMap.map Prod.fst, Candidate c o h s v w) →
      ∀ w ∈ (us.foldl (scoreNeighbor o h s v score) scoreMap).map Prod.fst,
        Candidate c o h s v w := by
    intro score us
    induction us with
    | nil => exact fun _ _ all => all
    | cons u rest ih =>
      intro scoreMap members all
      rw [foldl_cons]
      exact ih _ (fun w member => members w (mem_cons_of_mem _ member))
        (scoreNeighbor_keys (members u mem_cons_self) all)
  rw [scoreHyperedge]
  split
  · exact all
  · rename_i size
    rw [not_or, not_le, not_lt] at size
    exact vertices _ _ scoreMap (fun u member => ⟨e, isEdge, member, size.1, size.2⟩) all

lemma chooseVertex_candidate {v u : Nat} (chosen : c.chooseVertex ev o h s v = some u) :
    Candidate c o h s v u := by
  have edges : ∀ (es : List Nat) (scoreMap : ScoreMap), (∀ e ∈ es, e ∈ h.edges v) →
      (∀ w ∈ scoreMap.map Prod.fst, Candidate c o h s v w) →
      ∀ w ∈ (es.foldl (c.scoreHyperedge ev o h s v) scoreMap).map Prod.fst,
        Candidate c o h s v w := by
    intro es
    induction es with
    | nil => exact fun _ _ all => all
    | cons e rest ih =>
      intro scoreMap isEdges all
      rw [foldl_cons]
      exact ih _ (fun e' member => isEdges e' (mem_cons_of_mem _ member))
        (scoreHyperedge_keys (isEdges e mem_cons_self) all)
  rw [chooseVertex, bestVertex] at chosen
  rcases bestVertex_mem _ _ u _ chosen with start | member
  · cases start
  · rw [addPlacementScores_keys, addTimingScores_keys] at member
    exact edges _ [] (fun _ member => member) (fun w none' => absurd none' not_mem_nil) u member

lemma Candidate.light {v u : Nat} (candidate : Candidate c o h s v u) :
    ¬ FirstBelow o.thrClusterWeight (h.getVertexWeights v + nbrWeight h s u) :=
  (of_decide_eq_true candidate.joins).2

lemma Candidate.not_fixed {v u : Nat} (candidate : Candidate c o h s v u) :
    ¬ (h.fixedVertexFlag = true ∧ -1 < h.getFixedAttr u) :=
  fun fixed => (of_decide_eq_true candidate.joins).1 (Or.inl fixed)

lemma Candidate.community {v u : Nat} (candidate : Candidate c o h s v u)
    (flag : h.communityFlag = true) : h.getCommunity v = h.getCommunity u := by
  by_contra differ
  exact (of_decide_eq_true candidate.joins).1 (Or.inr ⟨flag, differ⟩)

end Neighbours

end OpenRoad.Par
