import OpenRoad.Par.MatchingLegal

/-! When the clusters of a matching keep the threshold in every dimension. -/

namespace OpenRoad.Par

open Lib Lib.VectorOrder List Coarsener

variable {vd hd pd : Nat} {c : Coarsener} {ev : GoldenEvaluator vd hd} {o : MatchOptions vd}
  {h : PlacedHypergraph vd hd pd} {s : MatchState vd pd} {numEarlyStop : Int} {v : Nat}

lemma isFixed_iff (h : Hypergraph vd hd) (v : Nat) :
    h.isFixed v = true ↔ h.fixedVertexFlag = true ∧ -1 < h.getFixedAttr v := decide_eq_true_iff

/-- The sets that grow from one vertex by joins along hyperedges: none of their vertices is fixed,
all are of one community, and each join passes the weight test. -/
inductive Grown (c : Coarsener) (thr : Weights vd) (h : Hypergraph vd hd) : Finset Nat → Prop
  | single {v : Nat} (inside : v < h.getNumVertices) (free : ¬ h.isFixed v = true) : Grown c thr h {v}
  | join {vs : Finset Nat} {v u : Nat} (grown : Grown c thr h vs) (inside : v < h.getNumVertices)
      (free : ¬ h.isFixed v = true) (new : v ∉ vs) (member : u ∈ vs) (links : c.Links h v u)
      (community : h.communityFlag = true → h.getCommunity v = h.getCommunity u)
      (light : ¬ FirstBelow thr (h.getVertexWeights v + ∑ w ∈ vs, h.getVertexWeights w)) :
      Grown c thr h (insert v vs)

/-- The weight of several vertices that can grow together is not above the threshold in a dimension
after the first one in which the two differ. -/
def WeightsDecided (c : Coarsener) (thr : Weights vd) (h : Hypergraph vd hd) : Prop :=
  ∀ vs, Grown c thr h vs → 1 < vs.card → FirstDecides (∑ w ∈ vs, h.getVertexWeights w) thr

lemma Grown.light {thr : Weights vd} {vs : Finset Nat} (grown : Grown c thr h.toHypergraph vs)
    (several : 1 < vs.card) : ¬ FirstBelow thr (∑ w ∈ vs, h.getVertexWeights w) := by
  cases grown with
  | single => exact absurd several (by rw [Finset.card_singleton]; exact lt_irrefl 1)
  | join _ _ _ new _ _ _ light =>
    rw [Finset.sum_insert new]
    exact light

def clusterMembers (h : Hypergraph vd hd) (ids : List (Option Nat)) (a : Nat) : Finset Nat :=
  (Finset.range h.getNumVertices).filter fun v => idOf ids v = some a

lemma clusterWeight_members (h : Hypergraph vd hd) (ids : List (Option Nat)) (a : Nat) :
    clusterWeight h ids a = ∑ v ∈ clusterMembers h ids a, h.getVertexWeights v :=
  (Finset.sum_filter _ _).symm

lemma Matched.mem_members (matched : Matched h s) {v a : Nat} :
    v ∈ clusterMembers h.toHypergraph s.vertexClusterIdVec a ↔
      idOf s.vertexClusterIdVec v = some a := by
  rw [clusterMembers, Finset.mem_filter, Finset.mem_range]
  exact and_iff_right_of_imp matched.inside

/-- Every cluster of vertices that are not fixed has grown. -/
def ClustersGrown (c : Coarsener) (thr : Weights vd) (h : PlacedHypergraph vd hd pd)
    (s : MatchState vd pd) : Prop :=
  ∀ v a, idOf s.vertexClusterIdVec v = some a → ¬ h.isFixed v = true →
    Grown c thr h.toHypergraph (clusterMembers h.toHypergraph s.vertexClusterIdVec a)

lemma nbrWeight_eq (matched : Matched h s) (u : Nat) :
    nbrWeight h s u = match idOf s.vertexClusterIdVec u with
      | some a => clusterWeight h.toHypergraph s.vertexClusterIdVec a
      | none => h.getVertexWeights u := by
  rw [nbrWeight]
  cases has : idOf s.vertexClusterIdVec u with
  | none => rfl
  | some a =>
    dsimp only
    rw [getD_eq_getElem?_getD, matched.weights a (matched.upper u a has), Option.getD_some]

section Grow

variable {members : List Nat} (weight : Weights vd) (place : Weights pd)

lemma members_openCluster_old (matched : Matched h s) (openable : Openable h s members v)
    {a : Nat} (old : a < s.clusterId) :
    clusterMembers h.toHypergraph
        (openCluster h members v weight place s).vertexClusterIdVec a =
      clusterMembers h.toHypergraph s.vertexClusterIdVec a :=
  Finset.filter_congr fun w _ => idOf_openCluster_old weight place matched openable old w

lemma members_openCluster_new (matched : Matched h s) (openable : Openable h s members v) :
    clusterMembers h.toHypergraph
        (openCluster h members v weight place s).vertexClusterIdVec s.clusterId =
      members.toFinset := by
  ext w
  rw [clusterMembers, Finset.mem_filter, Finset.mem_range,
    idOf_openCluster_new weight place matched openable, mem_toFinset]
  exact and_iff_right_of_imp (openable.inside w)

lemma openCluster_grown {thr : Weights vd} (matched : Matched h s)
    (openable : Openable h s members v) (grown : ClustersGrown c thr h s)
    (opened : ¬ h.isFixed v = true → Grown c thr h.toHypergraph members.toFinset)
    (same : ∀ u ∈ members, ¬ h.isFixed u = true → ¬ h.isFixed v = true) :
    ClustersGrown c thr h (openCluster h members v weight place s) := by
  intro u a has free
  rw [idOf_openCluster weight place matched openable] at has
  split at has
  · rename_i member
    rw [← Option.some.inj has, members_openCluster_new weight place matched openable]
    exact opened (same u member free)
  · rw [members_openCluster_old weight place matched openable (matched.upper u a has)]
    exact grown u a has free

lemma matchVertex_grown (valid : h.Valid) (matched : Matched h s) (inside : v < h.getNumVertices)
    (notFixed : ¬ (h.fixedVertexFlag = true ∧ -1 < h.getFixedAttr v))
    (grown : ClustersGrown c o.thrClusterWeight h s) :
    ClustersGrown c o.thrClusterWeight h (c.matchVertex ev o h numEarlyStop s v) := by
  have free : ¬ h.isFixed v = true := fun fixed => notFixed ((isFixed_iff _ v).mp fixed)
  rcases matchVertex_cases c ev o h numEarlyStop s v with
    ⟨_, same⟩ | ⟨fresh, _, _, _, same⟩ | ⟨fresh, running, u, chosen, ⟨a, mate, _, _, same⟩ |
      ⟨mate, _, _, same⟩⟩
  · rw [same]
    exact grown
  · rw [same]
    refine openCluster_grown (h.getVertexWeights v) (h.placementAttr.getD v 0) matched
      (openable_single inside fresh) grown (fun _ => ?_) fun u member => ?_
    · rw [toFinset_cons, toFinset_nil]
      exact Grown.single inside free
    · rw [mem_singleton.mp member]
      exact id
  · have candidate := chooseVertex_candidate chosen
    have mateFree : ¬ h.isFixed u = true :=
      fun fixed => candidate.not_fixed ((isFixed_iff _ u).mp fixed)
    have joined := idOf_joinCluster ev a matched inside
    rw [same]
    intro w b has _
    change idOf (joinCluster ev h v a s).vertexClusterIdVec w = some b at has
    change Grown c _ _ (clusterMembers h.toHypergraph (joinCluster ev h v a s).vertexClusterIdVec b)
    by_cases isJoined : b = a
    · have isMembers : clusterMembers h.toHypergraph (joinCluster ev h v a s).vertexClusterIdVec b =
          insert v (clusterMembers h.toHypergraph s.vertexClusterIdVec a) := by
        ext x
        rw [clusterMembers, Finset.mem_filter, Finset.mem_range, joined, Finset.mem_insert,
          matched.mem_members, isJoined]
        by_cases isNew : x = v
        · rw [if_pos isNew, isNew]
          exact iff_of_true ⟨inside, rfl⟩ (.inl rfl)
        · rw [if_neg isNew, or_iff_right isNew]
          exact and_iff_right_of_imp matched.inside
      rw [isMembers]
      refine Grown.join (grown u a mate mateFree) inside free ?_ (matched.mem_members.mpr mate)
        candidate.links candidate.community ?_
      · rw [matched.mem_members, fresh]
        exact (Option.some_ne_none a).symm
      · have light := candidate.light
        rw [nbrWeight_eq matched, mate] at light
        rw [← clusterWeight_members]
        exact light
    · have isMembers : clusterMembers h.toHypergraph (joinCluster ev h v a s).vertexClusterIdVec b =
          clusterMembers h.toHypergraph s.vertexClusterIdVec b := by
        apply Finset.filter_congr
        intro x _
        rw [joined]
        split
        · rename_i isNew
          rw [isNew, fresh, Option.some.injEq]
          exact iff_of_false (Ne.symm isJoined) (Option.some_ne_none b).symm
        · exact Iff.rfl
      rw [isMembers]
      rw [joined] at has
      split at has
      · exact absurd (Option.some.inj has).symm isJoined
      · exact grown w b has ‹_›
  · have candidate := chooseVertex_candidate chosen
    have mateFree : ¬ h.isFixed u = true :=
      fun fixed => candidate.not_fixed ((isFixed_iff _ u).mp fixed)
    have openable := openable_pair valid candidate inside fresh mate notFixed
    have light := candidate.light
    rw [nbrWeight_eq matched, mate] at light
    rw [same]
    refine openCluster_grown 0 0 matched openable grown (fun _ => ?_) fun _ _ _ => free
    rw [toFinset_cons, toFinset_cons, toFinset_nil, insert_empty_eq, Finset.pair_comm]
    refine Grown.join (Grown.single (openable.inside u mem_cons_self) mateFree) inside free ?_
      (Finset.mem_singleton_self u) candidate.links candidate.community ?_
    · rw [Finset.mem_singleton]
      exact candidate.other.symm
    · rw [Finset.sum_singleton]
      exact light

end Grow

def Visitable (h : PlacedHypergraph vd hd pd) (vs : List Nat) : Prop :=
  ∀ v ∈ vs, v < h.getNumVertices ∧ ¬ (h.fixedVertexFlag = true ∧ -1 < h.getFixedAttr v)

def Extends (s s' : MatchState vd pd) : Prop :=
  ∀ w a, idOf s.vertexClusterIdVec w = some a → idOf s'.vertexClusterIdVec w = some a

lemma matchVertices_spec (valid : h.Valid) (vs : List Nat) :
    ∀ s : MatchState vd pd, Matched h s → ClustersGrown c o.thrClusterWeight h s →
      Visitable h vs → Matched h (vs.foldl (c.matchVertex ev o h numEarlyStop) s) ∧
      ClustersGrown c o.thrClusterWeight h (vs.foldl (c.matchVertex ev o h numEarlyStop) s) ∧
      Extends s (vs.foldl (c.matchVertex ev o h numEarlyStop) s) ∧
      ∀ v ∈ vs, ∃ a,
        idOf (vs.foldl (c.matchVertex ev o h numEarlyStop) s).vertexClusterIdVec v = some a := by
  induction vs with
  | nil =>
    intro s matched grown _
    exact ⟨matched, grown, fun w a isId => isId, fun v none' => nomatch none'⟩
  | cons v rest ih =>
    intro s matched grown visitable
    have mine := visitable v mem_cons_self
    rcases matchVertex_extends c ev o numEarlyStop valid matched mine.1 mine.2 with ⟨first, a, has⟩
    rcases ih (c.matchVertex ev o h numEarlyStop s v)
      (matchVertex_matched valid matched mine.1 mine.2)
      (matchVertex_grown valid matched mine.1 mine.2 grown)
      (fun w member => visitable w (mem_cons_of_mem _ member)) with ⟨final, set, later, all⟩
    rw [foldl_cons]
    refine ⟨final, set, fun w b isId => later w b (first w b isId), ?_⟩
    intro w member
    rcases mem_cons.mp member with same | tail
    · rw [same]
      exact ⟨a, later v a has⟩
    · exact all w tail

lemma fixedClusters_spec (h : PlacedHypergraph vd hd pd) : Matched h (fixedClusters h) ∧
      ∀ v, (∃ a, idOf (fixedClusters h).vertexClusterIdVec v = some a) ↔
        v < h.getNumVertices ∧ h.isFixed v = true := by
  have run : ∀ vs : List Nat, vs.Nodup → (∀ v ∈ vs, v < h.getNumVertices) → Matched h (vs.foldl
        (fun s v => if h.isFixed v then singleCluster h v s else s)
        ⟨replicate h.getNumVertices none, [], [], [], [], 0, 0, false⟩) ∧
      ∀ v, (∃ a, idOf (vs.foldl
        (fun s v => if h.isFixed v then singleCluster h v s else s)
        (⟨replicate h.getNumVertices none, [], [], [], [], 0, 0, false⟩ :
          MatchState vd pd)).vertexClusterIdVec v = some a) ↔ v ∈ vs ∧ h.isFixed v = true := by
    intro vs
    induction vs using reverseRecOn with
    | nil =>
      intro _ _
      have none' : ∀ v, idOf (replicate h.getNumVertices none) v = none := by
        intro v
        rw [idOf, getD_eq_getElem?_getD, getElem?_replicate]
        split
        · rfl
        · rfl
      have never : ∀ v a, ¬ idOf (replicate h.getNumVertices none) v = some a := by
        intro v a has
        rw [none' v] at has
        cases has
      constructor
      · exact ⟨length_replicate, fun v a has => absurd has (never v a),
          fun a below => absurd below (Nat.not_lt_zero a), rfl,
          fun a below => absurd below (Nat.not_lt_zero a), fun _ => rfl,
          fun _ v a has => absurd has (never v a), fun _ u _ a has => absurd has (never u a)⟩
      · exact fun v => iff_of_false (fun some' => never v some'.choose some'.choose_spec)
          (fun member => not_mem_nil member.1)
    | append_singleton vs v ih =>
      intro nodup inside
      rcases ih (Nodup.of_append_left nodup)
        (fun w member => inside w (mem_append_left _ member)) with ⟨matched, exactly⟩
      have bound := inside v (mem_append_right _ (mem_singleton.mpr rfl))
      have absent : v ∉ vs := fun member =>
        disjoint_of_nodup_append nodup member (mem_singleton.mpr rfl)
      rw [foldl_append, foldl_cons, foldl_nil]
      generalize vs.foldl (fun s v => if h.isFixed v then singleCluster h v s else s)
        (⟨replicate h.getNumVertices none, [], [], [], [], 0, 0, false⟩ :
          MatchState vd pd) = s at matched exactly ⊢
      have fresh : idOf s.vertexClusterIdVec v = none := by
        by_contra some'
        exact absent ((exactly v).mp (Option.ne_none_iff_exists'.mp some')).1
      by_cases fixed : h.isFixed v = true
      · rw [if_pos fixed]
        refine ⟨singleCluster_matched matched bound fresh, ?_⟩
        intro w
        rw [singleCluster, idOf_openCluster _ _ matched (openable_single bound fresh),
          mem_append]
        simp only [mem_singleton]
        split
        · rename_i same
          exact iff_of_true ⟨_, rfl⟩ ⟨Or.inr same, same ▸ fixed⟩
        · rename_i other
          rw [exactly w, or_iff_left other]
      · rw [if_neg fixed]
        refine ⟨matched, ?_⟩
        intro w
        rw [exactly w, mem_append, mem_singleton]
        constructor
        · exact fun both => ⟨Or.inl both.1, both.2⟩
        · rintro ⟨member | rfl, isFixed⟩
          · exact ⟨member, isFixed⟩
          · exact absurd isFixed fixed
  have all := run (range h.getNumVertices) nodup_range fun v => mem_range.mp
  simp only [mem_range] at all
  exact all

/-- Every vertex is in a cluster and every cluster has its vertices, which are of one community, and
alone if fixed. -/
structure LegalClustering (h : PlacedHypergraph vd hd pd) (s : MatchState vd pd) : Prop where
  inside : ∀ v < h.getNumVertices, ∃ a < s.vertexWeightsC.length,
    idOf s.vertexClusterIdVec v = some a
  used : ∀ a < s.vertexWeightsC.length, ∃ v < h.getNumVertices, idOf s.vertexClusterIdVec v = some a
  weights : ∀ a < s.vertexWeightsC.length,
    s.vertexWeightsC[a]? = some (∑ v ∈ Finset.range h.getNumVertices,
      if idOf s.vertexClusterIdVec v = some a then h.getVertexWeights v else 0)
  fixed : h.fixedVertexFlag = true → ∀ v a, idOf s.vertexClusterIdVec v = some a →
    -1 < h.getFixedAttr v → (∀ u, idOf s.vertexClusterIdVec u = some a → u = v) ∧
        s.fixedAttrC[a]? = some (h.getFixedAttr v)
  community : h.communityFlag = true → ∀ u v a, idOf s.vertexClusterIdVec u = some a →
    idOf s.vertexClusterIdVec v = some a → h.getCommunity u = h.getCommunity v

def WithinThreshold (thr : Weights vd) (s : MatchState vd pd) : Prop :=
  ∀ u w a, u ≠ w → idOf s.vertexClusterIdVec u = some a → idOf s.vertexClusterIdVec w = some a →
    ∀ i, s.vertexWeightsC.getD a 0 i ≤ thr i

section Run

variable (valid : h.Valid) (order : ∀ vs, (o.orderVertices vs).Perm vs)

include order in
lemma mem_unvisited (v : Nat) :
    v ∈ unvisited o h ↔ v < h.getNumVertices ∧ ¬ h.isFixed v = true := by
  rw [unvisited, (order _).mem_iff, mem_filter, mem_range, decide_eq_true_eq]

include order in
lemma visitable_unvisited : Visitable h (unvisited o h) := by
  intro v member
  have both := (mem_unvisited order v).mp member
  exact ⟨both.1, fun fixed => both.2 ((isFixed_iff _ v).mpr fixed)⟩

lemma fixedClusters_grown (c : Coarsener) (thr : Weights vd) (h : PlacedHypergraph vd hd pd) :
    ClustersGrown c thr h (fixedClusters h) := by
  intro v a has free
  exact absurd (((fixedClusters_spec h).2 v).mp ⟨a, has⟩).2 free

end Run

lemma withinThreshold_of_grown {thr : Weights vd} (matched : Matched h s)
    (grown : ClustersGrown c thr h s) (decided : WeightsDecided c thr h.toHypergraph) :
    WithinThreshold thr s := by
  intro u w a differ left right i
  rw [getD_eq_getElem?_getD, matched.weights a (matched.upper u a left), Option.getD_some,
    clusterWeight_members]
  have free : ¬ h.isFixed u = true := by
    intro fixed
    have both := (isFixed_iff _ u).mp fixed
    exact differ ((matched.fixed both.1 u a left both.2).1 w right).symm
  have several : 1 < (clusterMembers h.toHypergraph s.vertexClusterIdVec a).card :=
    Finset.one_lt_card.mpr ⟨u, matched.mem_members.mpr left, w, matched.mem_members.mpr right, differ⟩
  have set := grown u a left free
  exact (decided _ set several).le (set.light several) i

/-- The clusters are legal, and they keep the threshold if the first dimension that differs speaks
for the later ones. -/
theorem vertex_matching_legal (c : Coarsener) (ev : GoldenEvaluator vd hd)
    (o : MatchOptions vd) (h : PlacedHypergraph vd hd pd) (valid : h.Valid)
    (order : ∀ vs, (o.orderVertices vs).Perm vs) :
    LegalClustering h (c.vertexMatching ev o h) ∧
      (WeightsDecided c o.thrClusterWeight h.toHypergraph →
        WithinThreshold o.thrClusterWeight (c.vertexMatching ev o h)) := by
  have spec : Matched h (c.vertexMatching ev o h) ∧
      ClustersGrown c o.thrClusterWeight h (c.vertexMatching ev o h) ∧
      Extends (fixedClusters h) (c.vertexMatching ev o h) ∧
      ∀ v ∈ unvisited o h, ∃ a,
        idOf (c.vertexMatching ev o h).vertexClusterIdVec v = some a :=
    matchVertices_spec valid _ _ (fixedClusters_spec h).1 (fixedClusters_grown c _ h)
      (visitable_unvisited order)
  rcases spec with ⟨matched, grown, extended, visited⟩
  refine ⟨?_, withinThreshold_of_grown matched grown⟩
  constructor
  · intro v inside
    have has : ∃ a, idOf (c.vertexMatching ev o h).vertexClusterIdVec v = some a := by
      by_cases fixed : h.isFixed v = true
      · rcases ((fixedClusters_spec h).2 v).mpr ⟨inside, fixed⟩ with ⟨a, has⟩
        exact ⟨a, extended v a has⟩
      · exact visited v ((mem_unvisited order v).mpr ⟨inside, fixed⟩)
    rcases has with ⟨a, has⟩
    exact ⟨a, matched.size ▸ matched.upper v a has, has⟩
  · intro a below
    rcases matched.used a (matched.size ▸ below) with ⟨v, has⟩
    exact ⟨v, matched.inside has, has⟩
  · exact fun a below => matched.weights a (matched.size ▸ below)
  · exact matched.fixed
  · exact matched.community

/-- Vertices of one hyperedge. -/
def connected (weights : List (Weights 2)) : PlacedHypergraph 2 1 1 where
  toHypergraph :=
    Hypergraph.new [List.range weights.length] weights [![1]] [] [] [] [] []
  placementFlag := false
  placementAttr := []

def unitEvaluator : GoldenEvaluator 2 1 := ⟨2, ![1], ![1, 1], 1, 1, 1, fun slack => 1 - slack⟩

def matchThreshold (thr : Weights 2) : MatchOptions 2 := ⟨thr, 3 / 2, fun vs => vs, fun _ _ => 1⟩

def lightTriple : PlacedHypergraph 2 1 1 := connected [![1, 1], ![1, 1], ![1, 1]]

lemma lightTriple_valid : lightTriple.Valid := by
  constructor
  · rfl
  · decide
  · intro path none'
    cases none'
  · decide
  · intro _
    rfl
  · intro _
    rfl

lemma lightTriple_decided (c : Coarsener) : WeightsDecided c ![2, 2] lightTriple.toHypergraph := by
  intro vs grown several
  clear several
  have inside : ∀ w ∈ vs, w < 3 := by
    induction grown with
    | single inside =>
      intro w member
      rw [Finset.mem_singleton.mp member]
      exact inside
    | join _ inside _ _ _ _ _ _ ih =>
      intro w member
      rcases Finset.mem_insert.mp member with isNew | old
      · rw [isNew]
        exact inside
      · exact ih w old
  have unit : ∀ w < 3, lightTriple.getVertexWeights w = ![1, 1] := by decide
  rw [Finset.sum_congr rfl fun w member => unit w (inside w member), Finset.sum_const]
  intro i before below j later
  have places : ∀ i j : Fin 2, i < j → i = 0 ∧ j = 1 := by decide
  rcases places i j later with ⟨first, second⟩
  rw [first] at below
  rw [second]
  simp only [Pi.smul_apply, Matrix.cons_val_zero, Matrix.cons_val_one] at below ⊢
  exact below.le

theorem vertex_matching_legal_triple : LegalClustering lightTriple
        (Coarsener.vertexMatching ⟨10, 2⟩ unitEvaluator (matchThreshold ![2, 2]) lightTriple) ∧
      WithinThreshold ![2, 2]
        (Coarsener.vertexMatching ⟨10, 2⟩ unitEvaluator (matchThreshold ![2, 2]) lightTriple) := by
  rcases vertex_matching_legal ⟨10, 2⟩ unitEvaluator (matchThreshold ![2, 2]) lightTriple
    lightTriple_valid fun vs => List.Perm.refl vs with ⟨legal, within⟩
  exact ⟨legal, within (lightTriple_decided _)⟩

/-- The second dimension of the pair weighs ten. -/
theorem heavy_pair_joined : ¬ WithinThreshold ![3, 3] (Coarsener.vertexMatching ⟨10, 2⟩
      unitEvaluator (matchThreshold ![3, 3]) (connected [![1, 5], ![1, 5]])) := by
  intro within
  have weight := within 0 1 0 (by decide) (by with_unfolding_all decide)
    (by with_unfolding_all decide) 1
  exact absurd weight (by with_unfolding_all decide)

end OpenRoad.Par
