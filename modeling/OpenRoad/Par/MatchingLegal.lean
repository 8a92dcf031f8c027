import OpenRoad.Par.MatchingChoice

/-! The matching of vertices is a clustering, and when its clusters keep the threshold. -/

namespace OpenRoad.Par

open Lib Lib.VectorOrder List Coarsener

variable {vd hd pd : Nat} {h : PlacedHypergraph vd hd pd} {s : MatchState vd pd}

def clusterWeight (h : Hypergraph vd hd) (ids : List (Option Nat)) (a : Nat) : Weights vd :=
  ∑ v ∈ Finset.range h.getNumVertices, if idOf ids v = some a then h.getVertexWeights v else 0

/-- The clusters made so far fit the ids given so far. -/
structure Matched (h : PlacedHypergraph vd hd pd) (s : MatchState vd pd) : Prop where
  length : s.vertexClusterIdVec.length = h.getNumVertices
  upper : ∀ v a, idOf s.vertexClusterIdVec v = some a → a < s.clusterId
  used : ∀ a < s.clusterId, ∃ v, idOf s.vertexClusterIdVec v = some a
  size : s.vertexWeightsC.length = s.clusterId
  weights : ∀ a < s.clusterId,
    s.vertexWeightsC[a]? = some (clusterWeight h.toHypergraph s.vertexClusterIdVec a)
  fixedSize : h.fixedVertexFlag = true → s.fixedAttrC.length = s.clusterId
  fixed : h.fixedVertexFlag = true → ∀ v a, idOf s.vertexClusterIdVec v = some a →
    -1 < h.getFixedAttr v → (∀ u, idOf s.vertexClusterIdVec u = some a → u = v) ∧
        s.fixedAttrC[a]? = some (h.getFixedAttr v)
  community : h.communityFlag = true → ∀ u v a, idOf s.vertexClusterIdVec u = some a →
    idOf s.vertexClusterIdVec v = some a → h.getCommunity u = h.getCommunity v

lemma Matched.inside (matched : Matched h s) {v a : Nat}
    (has : idOf s.vertexClusterIdVec v = some a) : v < h.getNumVertices := by
  by_contra outside
  rw [idOf, getD_eq_getElem?_getD,
    getElem?_eq_none (by rw [matched.length]; exact Nat.le_of_not_lt outside)] at has
  cases has

lemma Matched.counted (matched : Matched h s) (numVisitedVertices : Nat) (stopped : Bool) :
    Matched h { s with numVisitedVertices := numVisitedVertices, stopped := stopped } :=
  ⟨matched.length, matched.upper, matched.used, matched.size, matched.weights, matched.fixedSize,
    matched.fixed, matched.community⟩

structure Openable (h : PlacedHypergraph vd hd pd) (s : MatchState vd pd) (members : List Nat)
    (v : Nat) : Prop where
  inside : ∀ u ∈ members, u < h.getNumVertices
  nodup : members.Nodup
  present : v ∈ members
  fresh : ∀ u ∈ members, idOf s.vertexClusterIdVec u = none
  alone : h.fixedVertexFlag = true → ∀ u ∈ members, -1 < h.getFixedAttr u → members = [u]
  community : h.communityFlag = true → ∀ u ∈ members, h.getCommunity u = h.getCommunity v

section Open

variable {members : List Nat} {v : Nat} {weight : Weights vd} {place : Weights pd}

lemma idOf_openCluster (weight : Weights vd) (place : Weights pd) (matched : Matched h s)
    (openable : Openable h s members v) (u : Nat) :
    idOf (openCluster h members v weight place s).vertexClusterIdVec u =
      if u ∈ members then some s.clusterId else idOf s.vertexClusterIdVec u :=
  idOf_setAll _ _ _ _ fun w member => by
    rw [matched.length]
    exact openable.inside w member

lemma idOf_openCluster_old (weight : Weights vd) (place : Weights pd) (matched : Matched h s)
    (openable : Openable h s members v)
    {a : Nat} (old : a < s.clusterId) (u : Nat) :
    idOf (openCluster h members v weight place s).vertexClusterIdVec u = some a ↔
      idOf s.vertexClusterIdVec u = some a := by
  rw [idOf_openCluster weight place matched openable]
  split
  · rename_i member
    rw [openable.fresh u member, Option.some.injEq]
    exact iff_of_false old.ne' (fun none' => Option.some_ne_none a none'.symm)
  · rfl

lemma idOf_openCluster_new (weight : Weights vd) (place : Weights pd) (matched : Matched h s)
    (openable : Openable h s members v) (u : Nat) :
    idOf (openCluster h members v weight place s).vertexClusterIdVec u =
      some s.clusterId ↔ u ∈ members := by
  rw [idOf_openCluster weight place matched openable]
  split
  · rename_i member
    exact iff_of_true rfl member
  · rename_i absent
    exact iff_of_false (fun has => lt_irrefl _ (matched.upper u _ has)) absent

lemma openCluster_extends (weight : Weights vd) (place : Weights pd) (matched : Matched h s)
    (openable : Openable h s members v) : (∀ w a, idOf s.vertexClusterIdVec w = some a →
      idOf (openCluster h members v weight place s).vertexClusterIdVec w = some a) ∧
    ∃ a, idOf (openCluster h members v weight place s).vertexClusterIdVec v = some a := by
  constructor
  · intro w a isId
    exact (idOf_openCluster_old weight place matched openable (matched.upper w a isId) w).mpr isId
  · exact ⟨s.clusterId, (idOf_openCluster_new weight place matched openable v).mpr openable.present⟩

lemma openCluster_matched (matched : Matched h s) (openable : Openable h s members v)
    (isWeight : weight = (members.map h.getVertexWeights).sum) :
    Matched h (openCluster h members v weight place s) := by
  have old : ∀ a < s.clusterId, ∀ u,
      idOf (openCluster h members v weight place s).vertexClusterIdVec u = some a ↔
        idOf s.vertexClusterIdVec u = some a :=
    fun a below => idOf_openCluster_old weight place matched openable below
  have new : ∀ u, idOf (openCluster h members v weight place s).vertexClusterIdVec u =
        some s.clusterId ↔ u ∈ members := idOf_openCluster_new weight place matched openable
  have next : ∀ a, a < (openCluster h members v weight place s).clusterId →
      a < s.clusterId ∨ a = s.clusterId := fun a below => Nat.lt_succ_iff_lt_or_eq.mp below
  have bound : ∀ u a, idOf (openCluster h members v weight place s).vertexClusterIdVec u =
      some a → a < s.clusterId ∨ a = s.clusterId := by
    intro u a has
    rw [idOf_openCluster weight place matched openable] at has
    split at has
    · exact Or.inr (Option.some.inj has).symm
    · exact Or.inl (matched.upper u a has)
  constructor
  · exact (length_setAll members s.clusterId s.vertexClusterIdVec).trans matched.length
  · intro u a has
    rcases bound u a has with below | same
    · exact Nat.lt_succ_of_lt below
    · exact same ▸ Nat.lt_succ_self _
  · intro a below
    rcases next a below with below | rfl
    · rcases matched.used a below with ⟨u, has⟩
      exact ⟨u, (old a below u).mpr has⟩
    · exact ⟨v, (new v).mpr openable.present⟩
  · simp only [openCluster, length_append, length_singleton, matched.size]
  · intro a below
    rw [openCluster]
    dsimp only
    rcases next a below with below | rfl
    · rw [getElem?_append_left (by rwa [matched.size]), matched.weights a below]
      apply congrArg some
      apply Finset.sum_congr rfl
      intro u _
      exact if_congr (old a below u).symm rfl rfl
    · rw [← matched.size, getElem?_concat_length, matched.size, isWeight]
      apply congrArg some
      calc (members.map h.getVertexWeights).sum
          = ∑ u ∈ members.toFinset, h.getVertexWeights u :=
            (sum_toFinset _ openable.nodup).symm
        _ = ∑ u ∈ Finset.range h.getNumVertices ∩ members.toFinset, h.getVertexWeights u := by
            rw [Finset.inter_eq_right.mpr]
            intro u member
            exact Finset.mem_range.mpr (openable.inside u (mem_toFinset.mp member))
        _ = ∑ u ∈ Finset.range h.getNumVertices,
              if u ∈ members.toFinset then h.getVertexWeights u else 0 :=
            (Finset.sum_ite_mem _ _ _).symm
        _ = _ := by
            apply Finset.sum_congr rfl
            intro u _
            exact if_congr (mem_toFinset.trans (new u).symm) rfl rfl
  · intro flag
    simp only [openCluster, if_pos flag, length_append, length_singleton,
      matched.fixedSize flag]
  · intro flag u a has isFixed
    have attrs : (openCluster h members v weight place s).fixedAttrC =
        s.fixedAttrC ++ [h.getFixedAttr v] := if_pos flag
    rcases bound u a has with below | rfl
    · have alone := matched.fixed flag u a ((old a below u).mp has) isFixed
      refine ⟨fun w same => alone.1 w ((old a below w).mp same), ?_⟩
      rw [attrs, getElem?_append_left (by rwa [matched.fixedSize flag])]
      exact alone.2
    · have only := openable.alone flag u ((new u).mp has) isFixed
      have same : v = u := by
        have present := openable.present
        rw [only] at present
        exact mem_singleton.mp present
      refine ⟨fun w member => ?_, ?_⟩
      · have present := (new w).mp member
        rw [only] at present
        exact mem_singleton.mp present
      · rw [attrs, ← matched.fixedSize flag, getElem?_concat_length, same]
  · intro flag u w a left right
    rcases bound u a left with below | rfl
    · exact matched.community flag u w a ((old a below u).mp left) ((old a below w).mp right)
    · exact (openable.community flag u ((new u).mp left)).trans
        (openable.community flag w ((new w).mp right)).symm

end Open

section Join

variable {ev : GoldenEvaluator vd hd} {u v a : Nat}

lemma idOf_joinCluster (ev : GoldenEvaluator vd hd) (a : Nat) (matched : Matched h s)
    (inside : v < h.getNumVertices) (w : Nat) :
    idOf (joinCluster ev h v a s).vertexClusterIdVec w =
      if w = v then some a else idOf s.vertexClusterIdVec w := by
  have set := idOf_setAll s.vertexClusterIdVec [v] a w fun x member => by
    rw [mem_singleton.mp member, matched.length]
    exact inside
  simp only [mem_singleton] at set
  exact set

lemma clusterWeight_joinCluster (ev : GoldenEvaluator vd hd) (a : Nat) (matched : Matched h s)
    (inside : v < h.getNumVertices) (fresh : idOf s.vertexClusterIdVec v = none) (b : Nat) :
    clusterWeight h.toHypergraph (joinCluster ev h v a s).vertexClusterIdVec b =
      clusterWeight h.toHypergraph s.vertexClusterIdVec b +
        if a = b then h.getVertexWeights v else 0 := by
  have alone : (if a = b then h.getVertexWeights v else 0) = ∑ w ∈ Finset.range h.getNumVertices,
        if w = v then (if a = b then h.getVertexWeights v else 0) else 0 := by
    rw [Finset.sum_ite_eq', if_pos (Finset.mem_range.mpr inside)]
  rw [alone, clusterWeight, clusterWeight, ← Finset.sum_add_distrib]
  apply Finset.sum_congr rfl
  intro w _
  rw [idOf_joinCluster ev a matched inside]
  by_cases same : w = v
  · rw [if_pos same, if_pos same, same, fresh, if_neg (Option.some_ne_none b).symm, zero_add]
    exact if_congr (Option.some.injEq a b ▸ Iff.rfl) rfl rfl
  · rw [if_neg same, if_neg same, add_zero]

lemma joinCluster_matched (matched : Matched h s) (inside : v < h.getNumVertices)
    (fresh : idOf s.vertexClusterIdVec v = none) (has : idOf s.vertexClusterIdVec u = some a)
    (free : ¬ (h.fixedVertexFlag = true ∧ -1 < h.getFixedAttr v))
    (other : ¬ (h.fixedVertexFlag = true ∧ -1 < h.getFixedAttr u))
    (community : h.communityFlag = true → h.getCommunity v = h.getCommunity u) :
    Matched h (joinCluster ev h v a s) := by
  have ids : ∀ w, idOf (joinCluster ev h v a s).vertexClusterIdVec w =
      if w = v then some a else idOf s.vertexClusterIdVec w := idOf_joinCluster ev a matched inside
  constructor
  · exact length_set.trans matched.length
  · intro w b isId
    rw [ids] at isId
    split at isId
    · rw [← Option.some.inj isId]
      exact matched.upper u a has
    · exact matched.upper w b isId
  · intro b below
    rcases matched.used b below with ⟨w, isId⟩
    refine ⟨w, ?_⟩
    rw [ids, if_neg, isId]
    rintro rfl
    rw [fresh] at isId
    cases isId
  · exact (length_modify _ _ _).trans matched.size
  · intro b below
    rw [clusterWeight_joinCluster ev a matched inside fresh, joinCluster]
    dsimp only
    rw [getElem?_modify, matched.weights b below]
    split
    · rfl
    · rw [add_zero]
      rfl
  · exact matched.fixedSize
  · intro flag w b isId isFixed
    rw [ids] at isId
    split at isId
    · rename_i same
      exact absurd ⟨flag, same ▸ isFixed⟩ free
    · have alone := matched.fixed flag w b isId isFixed
      refine ⟨?_, alone.2⟩
      intro x isId'
      rw [ids] at isId'
      split at isId'
      · have same := alone.1 u (has.trans isId')
        exact absurd ⟨flag, same ▸ isFixed⟩ other
      · exact alone.1 x isId'
  · intro flag
    -- everyone in a cluster has the community of who was there before
    have before : ∀ w b, idOf (joinCluster ev h v a s).vertexClusterIdVec w = some b →
        ∃ x, idOf s.vertexClusterIdVec x = some b ∧ h.getCommunity w = h.getCommunity x := by
      intro w b isId
      rw [ids] at isId
      split at isId
      · rename_i same
        exact ⟨u, has.trans isId, same ▸ community flag⟩
      · exact ⟨w, isId, rfl⟩
    intro w x b left right
    rcases before w b left with ⟨w', isLeft, sameLeft⟩
    rcases before x b right with ⟨x', isRight, sameRight⟩
    rw [sameLeft, sameRight]
    exact matched.community flag w' x' b isLeft isRight

end Join

section Visit

variable {c : Coarsener} {ev : GoldenEvaluator vd hd} {o : MatchOptions vd} {numEarlyStop : Int}
  {v : Nat}

lemma matchVertex_cases (c : Coarsener) (ev : GoldenEvaluator vd hd) (o : MatchOptions vd)
    (h : PlacedHypergraph vd hd pd) (numEarlyStop : Int) (s : MatchState vd pd) (v : Nat) :
    ((∃ a, idOf s.vertexClusterIdVec v = some a) ∧ c.matchVertex ev o h numEarlyStop s v = s) ∨
    (idOf s.vertexClusterIdVec v = none ∧ (s.stopped = true ∨ c.chooseVertex ev o h s v = none) ∧
      ∃ visited stop, c.matchVertex ev o h numEarlyStop s v =
        { singleCluster h v s with numVisitedVertices := visited, stopped := stop }) ∨
    (idOf s.vertexClusterIdVec v = none ∧ s.stopped = false ∧
      ∃ u, c.chooseVertex ev o h s v = some u ∧ ((∃ a, idOf s.vertexClusterIdVec u = some a ∧
          ∃ visited stop, c.matchVertex ev o h numEarlyStop s v =
            { joinCluster ev h v a s with
              numVisitedVertices := visited, stopped := stop }) ∨
        (idOf s.vertexClusterIdVec u = none ∧
          ∃ visited stop, c.matchVertex ev o h numEarlyStop s v =
            { pairCluster ev h v u s with
              numVisitedVertices := visited, stopped := stop }))) := by
  rw [matchVertex]
  cases has : idOf s.vertexClusterIdVec v with
  | some a => exact Or.inl ⟨⟨a, rfl⟩, if_pos rfl⟩
  | none =>
    rw [if_neg (by simp)]
    cases stops : s.stopped with
    | true => exact Or.inr (Or.inl ⟨rfl, Or.inl rfl, _, _, if_pos rfl⟩)
    | false =>
      rw [if_neg Bool.false_ne_true]
      cases chosen : c.chooseVertex ev o h s v with
      | none => exact Or.inr (Or.inl ⟨rfl, Or.inr rfl, _, _, rfl⟩)
      | some u =>
        refine Or.inr (Or.inr ⟨rfl, rfl, u, rfl, ?_⟩)
        dsimp only
        cases mate : idOf s.vertexClusterIdVec u with
        | some a => exact Or.inl ⟨a, rfl, _, _, rfl⟩
        | none => exact Or.inr ⟨rfl, _, _, rfl⟩

lemma openable_single (inside : v < h.getNumVertices)
    (fresh : idOf s.vertexClusterIdVec v = none) : Openable h s [v] v := by
  constructor
  · intro u member
    rwa [mem_singleton.mp member]
  · exact nodup_singleton v
  · exact mem_singleton.mpr rfl
  · intro u member
    rwa [mem_singleton.mp member]
  · intro _ u member _
    rw [mem_singleton.mp member]
  · intro _ u member
    rw [mem_singleton.mp member]

lemma singleCluster_matched (matched : Matched h s) (inside : v < h.getNumVertices)
    (fresh : idOf s.vertexClusterIdVec v = none) :
    Matched h (singleCluster h v s) :=
  openCluster_matched matched (openable_single inside fresh) (sum_singleton).symm

variable (valid : h.Valid)

include valid in
lemma openable_pair {u : Nat} (candidate : Candidate c o h s v u) (inside : v < h.getNumVertices)
    (fresh : idOf s.vertexClusterIdVec v = none) (mate : idOf s.vertexClusterIdVec u = none)
    (free : ¬ (h.fixedVertexFlag = true ∧ -1 < h.getFixedAttr v)) : Openable h s [u, v] v := by
  have either : ∀ w, w ∈ [u, v] → w = u ∨ w = v := by
    intro w member
    rcases mem_cons.mp member with first | rest
    · exact Or.inl first
    · exact Or.inr (mem_singleton.mp rest)
  rcases candidate.links with ⟨e, _, member, _⟩
  constructor
  · intro w member'
    rcases either w member' with rfl | rfl
    · exact valid.vertices_lt e w member
    · exact inside
  · exact nodup_cons.mpr ⟨fun same => candidate.other (mem_singleton.mp same),
      nodup_singleton v⟩
  · exact mem_cons_of_mem _ (mem_singleton.mpr rfl)
  · intro w member'
    rcases either w member' with rfl | rfl
    · exact mate
    · exact fresh
  · intro flag w member' isFixed
    rcases either w member' with rfl | rfl
    · exact absurd ⟨flag, isFixed⟩ candidate.not_fixed
    · exact absurd ⟨flag, isFixed⟩ free
  · intro flag w member'
    rcases either w member' with rfl | rfl
    · exact (candidate.community flag).symm
    · rfl

lemma pair_weight (v u : Nat) :
    h.getVertexWeights u + h.getVertexWeights v = ([u, v].map h.getVertexWeights).sum := by
  rw [map_cons, map_singleton, sum_cons, sum_singleton]

include valid in
lemma matchVertex_matched (matched : Matched h s) (inside : v < h.getNumVertices)
    (free : ¬ (h.fixedVertexFlag = true ∧ -1 < h.getFixedAttr v)) :
    Matched h (c.matchVertex ev o h numEarlyStop s v) := by
  rcases matchVertex_cases c ev o h numEarlyStop s v with
    ⟨_, same⟩ | ⟨fresh, _, _, _, same⟩ | ⟨fresh, _, u, chosen, ⟨a, mate, _, _, same⟩ |
      ⟨mate, _, _, same⟩⟩
  · rw [same]
    exact matched
  · rw [same]
    exact (singleCluster_matched matched inside fresh).counted _ _
  · have candidate := chooseVertex_candidate chosen
    rw [same]
    exact (joinCluster_matched matched inside fresh mate free candidate.not_fixed
      candidate.community).counted _ _
  · have openable := openable_pair valid (chooseVertex_candidate chosen) inside fresh mate free
    rw [same]
    exact (openCluster_matched matched openable (pair_weight v u)).counted _ _

lemma matchVertex_extends (c : Coarsener) (ev : GoldenEvaluator vd hd) (o : MatchOptions vd)
    (numEarlyStop : Int) (valid : h.Valid) (matched : Matched h s) (inside : v < h.getNumVertices)
    (free : ¬ (h.fixedVertexFlag = true ∧ -1 < h.getFixedAttr v)) :
    (∀ w a, idOf s.vertexClusterIdVec w = some a →
      idOf (c.matchVertex ev o h numEarlyStop s v).vertexClusterIdVec w = some a) ∧
    ∃ a, idOf (c.matchVertex ev o h numEarlyStop s v).vertexClusterIdVec v = some a := by
  rcases matchVertex_cases c ev o h numEarlyStop s v with
    ⟨has, same⟩ | ⟨fresh, _, _, _, same⟩ | ⟨fresh, _, u, chosen, ⟨a, mate, _, _, same⟩ |
      ⟨mate, _, _, same⟩⟩
  · rw [same]
    exact ⟨fun w a isId => isId, has⟩
  · rw [same]
    exact openCluster_extends (h.getVertexWeights v) (h.placementAttr.getD v 0) matched
      (openable_single inside fresh)
  · rw [same]
    constructor
    · intro w b isId
      show idOf (joinCluster ev h v a s).vertexClusterIdVec w = some b
      rw [idOf_joinCluster ev a matched inside, if_neg, isId]
      rintro rfl
      rw [fresh] at isId
      cases isId
    · refine ⟨a, ?_⟩
      show idOf (joinCluster ev h v a s).vertexClusterIdVec v = some a
      rw [idOf_joinCluster ev a matched inside, if_pos rfl]
  · have openable := openable_pair valid (chooseVertex_candidate chosen) inside fresh mate free
    rw [same]
    exact openCluster_extends 0 0 matched openable

end Visit

end OpenRoad.Par
