import OpenRoad.Lib.Overlaps
import OpenRoad.Par.GroupIds

/-! When the clusters of the coarsener are those of its groups. -/

namespace OpenRoad.Par

open Lib Overlaps List Coarsener Relation Option

variable {vd hd : Nat}

def SameGroup (h : Hypergraph vd hd) (groupAttr : List (List Nat)) (u v : Nat) : Prop :=
  (∃ group ∈ groupAttr, u ∈ group ∧ v ∈ group) ∨ (u < h.getNumVertices ∧ v < h.getNumVertices ∧
      -1 < h.getFixedAttr u ∧ h.getFixedAttr v = h.getFixedAttr u)

def GroupLinked (h : Hypergraph vd hd) (groupAttr : List (List Nat)) : Nat → Nat → Prop :=
  Relation.ReflTransGen (SameGroup h groupAttr)

/-- The clusters are those of the groups, and their weights those of their vertices. -/
structure GroupsHonoured (h : Hypergraph vd hd) (groupAttr : List (List Nat))
    (info : Coarsener.GroupInfo vd) : Prop where
  linked : ∀ u < h.getNumVertices, ∀ v < h.getNumVertices,
    (clusterOf info.vertexClusterIdVec u = clusterOf info.vertexClusterIdVec v ↔
      GroupLinked h groupAttr u v)
  used : ∀ cluster < info.vertexWeightsC.length,
    ∃ v < h.getNumVertices, clusterOf info.vertexClusterIdVec v = cluster
  weights : ∀ cluster < info.vertexWeightsC.length,
    info.vertexWeightsC[cluster]? = some (∑ v ∈ Finset.range h.getNumVertices,
      if clusterOf info.vertexClusterIdVec v = cluster then h.getVertexWeights v else 0)

structure Groupable (numParts : Nat) (h : Hypergraph vd hd) (groupAttr : List (List Nat)) :
    Prop where
  inside : ∀ group ∈ groupAttr, ∀ v ∈ group, v < h.getNumVertices
  blocks : ∀ v < h.getNumVertices, h.getFixedAttr v < numParts

def MetBefore (h : Hypergraph vd hd) (before : List (List Nat)) (v : Nat) : Prop :=
  (v < h.getNumVertices ∧ -1 < h.getFixedAttr v) ∨ ∃ group ∈ before, v ∈ group

/-- No group is empty, and none links clusters that were apart when its turn came. -/
def NoBridge (h : Hypergraph vd hd) (groupAttr : List (List Nat)) : Prop :=
  ∀ before group after, groupAttr = before ++ group :: after →
    group ≠ [] ∧ ∀ u ∈ group, ∀ v ∈ group, MetBefore h before u → MetBefore h before v →
      GroupLinked h before u v

/-- The ids are those of vertices met, below the next one, and equal only where groups link. -/
structure Sound (n : Nat) (groups : List (List Nat)) (state : List (Option Nat) × Nat) : Prop where
  length : state.1.length = n
  upper : ∀ v a, idOf state.1 v = some a → a < state.2
  met : ∀ v, idOf state.1 v ≠ none ↔ Met groups v
  joined : ∀ u v, idOf state.1 u = idOf state.1 v → idOf state.1 u ≠ none → JoinedBy groups u v

lemma sound_start (n : Nat) : Sound n [] (replicate n none, 0) := by
  have none' : ∀ v, idOf (replicate n none) v = none := by
    intro v
    rw [idOf, getD_eq_getElem?_getD, getElem?_replicate]
    split
    · rfl
    · rfl
  constructor
  · exact length_replicate
  · intro v a some'
    rw [none' v] at some'
    cases some'
  · intro v
    constructor
    · exact fun some' => absurd (none' v) some'
    · rintro ⟨group, member, _⟩
      cases member
  · exact fun u v _ some' => absurd (none' u) some'

section Step

variable {n : Nat} {groups : List (List Nat)} {group : List Nat}
  {state next : List (Option Nat) × Nat} {cur : Nat}

lemma Joins.linked (joins : Joins state next group cur) (sound : Sound n groups state) (u v : Nat)
    (has : idOf next.1 u = some cur) (member : v ∈ group) : JoinedBy (groups ++ [group]) u v := by
  rw [joins.id] at has
  by_cases mine : u ∈ group
  · exact joined_snoc mine member
  · rw [if_neg mine] at has
    rcases joins.origin with ⟨new, _, _⟩ | ⟨_, w, present, same⟩
    · exact absurd (sound.upper u cur has) (by omega)
    · have first := sound.joined u w (has.trans same.symm) (has ▸ some_ne_none cur)
      exact first.snoc.trans (joined_snoc present member)

lemma Joins.cur_lt (joins : Joins state next group cur) (sound : Sound n groups state) :
    cur < next.2 ∧ state.2 ≤ next.2 := by
  rcases joins.origin with ⟨new, size, _⟩ | ⟨size, w, _, same⟩
  · omega
  · have upper := sound.upper w cur same
    omega

lemma Joins.sound (joins : Joins state next group cur) (sound : Sound n groups state) :
    Sound n (groups ++ [group]) next := by
  have bounds := joins.cur_lt sound
  constructor
  · exact joins.length.trans sound.length
  · intro v a has
    rw [joins.id] at has
    split at has
    · rw [← Option.some.inj has]
      exact bounds.1
    · exact (sound.upper v a has).trans_le bounds.2
  · intro v
    rw [joins.id, met_snoc, ← sound.met]
    by_cases mine : v ∈ group
    · rw [if_pos mine]
      exact iff_of_true (some_ne_none cur) (.inr mine)
    · rw [if_neg mine]
      exact ⟨.inl, fun either => either.resolve_right mine⟩
  · intro u v same present
    by_cases theirs : v ∈ group
    · exact joins.linked sound u v (by rw [same, joins.id, if_pos theirs]) theirs
    · by_cases mine : u ∈ group
      · refine (joins.linked sound v u ?_ mine).symm
        rw [← same, joins.id, if_pos mine]
      · rw [joins.id, if_neg mine] at same present
        rw [joins.id, if_neg theirs] at same
        exact (sound.joined u v same present).snoc

lemma Joins.held (joins : Joins state next group cur) (a : Nat) (old : a < state.2) (v : Nat)
    (holds : idOf next.1 v = some a) :
    ∃ w, idOf state.1 w = some a ∧ JoinedBy (groups ++ [group]) v w := by
  rw [joins.id] at holds
  by_cases mine : v ∈ group
  · rw [if_pos mine] at holds
    have same := Option.some.inj holds
    rcases joins.origin with ⟨new, _, _⟩ | ⟨_, w, present, has⟩
    · omega
    · exact ⟨w, has.trans holds, joined_snoc mine present⟩
  · rw [if_neg mine] at holds
    exact ⟨v, holds, ReflTransGen.refl⟩

end Step

structure Complete (groups : List (List Nat)) (state : List (Option Nat) × Nat) : Prop where
  shared : ∀ group ∈ groups, ∀ u ∈ group, ∀ v ∈ group, idOf state.1 u = idOf state.1 v
  used : ∀ a < state.2, ∃ v, idOf state.1 v = some a

/-- Some id is lost, or two ids stand for vertices that are linked. -/
def Broken (groups : List (List Nat)) (state : List (Option Nat) × Nat) : Prop :=
  ∃ a < state.2, (∀ v, idOf state.1 v ≠ some a) ∨ ∃ b < state.2, a ≠ b ∧
      ∀ u v, idOf state.1 u = some a → idOf state.1 v = some b → JoinedBy groups u v

section Outcome

variable {n : Nat} {groups : List (List Nat)} {group : List Nat}
  {state next : List (Option Nat) × Nat} {cur : Nat}

lemma Joins.complete (joins : Joins state next group cur) (sound : Sound n groups state)
    (complete : Complete groups state) (bridgeless : Bridgeless groups group) :
    Complete (groups ++ [group]) next := by
  -- the vertices met before have the id of the group already
  have kept : ∀ v, Met groups v → idOf next.1 v = idOf state.1 v := by
    intro v met
    rw [joins.id]
    split
    · rename_i mine
      rcases joins.origin with ⟨_, _, unmet⟩ | ⟨_, w, present, same⟩
      · exact absurd (unmet v mine) ((sound.met v).mpr met)
      · have wMet := (sound.met w).mp (same ▸ some_ne_none cur)
        have joined := bridgeless.2 w present v mine wMet met
        rw [← same]
        exact joined.respects (idOf state.1) complete.shared
    · rfl
  constructor
  · intro group' member u mine v yours
    rcases mem_append.mp member with earlier | last
    · rw [kept u ⟨group', earlier, mine⟩, kept v ⟨group', earlier, yours⟩]
      exact complete.shared group' earlier u mine v yours
    · rw [mem_singleton.mp last] at mine yours
      rw [joins.id, joins.id, if_pos mine, if_pos yours]
  · intro a inside
    by_cases old : a < state.2
    · rcases complete.used a old with ⟨v, holds⟩
      have met : Met groups v := (sound.met v).mp (holds ▸ some_ne_none a)
      exact ⟨v, (kept v met).trans holds⟩
    · rcases joins.origin with ⟨new, size, _⟩ | ⟨size, _⟩
      · rcases exists_mem_of_ne_nil group bridgeless.1 with ⟨v, member⟩
        refine ⟨v, ?_⟩
        rw [joins.id, if_pos member]
        exact congrArg some (by omega)
      · omega

lemma Joins.broken (joins : Joins state next group cur) (sound : Sound n groups state)
    (broken : Broken groups state) : Broken (groups ++ [group]) next := by
  have bounds := joins.cur_lt sound
  rcases broken with ⟨a, inside, lost | ⟨b, inside', differ, all⟩⟩
  · refine ⟨a, by omega, .inl ?_⟩
    intro v holds
    have held : ∃ w, idOf state.1 w = some a ∧ JoinedBy (groups ++ [group]) v w :=
      joins.held a inside v holds
    rcases held with ⟨w, holds', _⟩
    exact lost w holds'
  · refine ⟨a, by omega, .inr ⟨b, by omega, differ, ?_⟩⟩
    intro u v left right
    rcases joins.held a inside u left with ⟨u', left', first⟩
    rcases joins.held b inside' v right with ⟨v', right', last⟩
    exact (first.trans (all u' v' left' right').snoc).trans last.symm

lemma Joins.breaks (joins : Joins state next group cur) (sound : Sound n groups state)
    (bridge : ¬ Bridgeless groups group) : Broken (groups ++ [group]) next := by
  have bounds := joins.cur_lt sound
  by_cases empty : group = []
  · -- the new id has no vertex
    rcases joins.origin with ⟨_, size, _⟩ | ⟨_, w, present, _⟩
    · refine ⟨state.2, by omega, .inl ?_⟩
      intro v holds
      rw [joins.id, if_neg (by rw [empty]; exact not_mem_nil)] at holds
      exact absurd (sound.upper v _ holds) (lt_irrefl _)
    · rw [empty] at present
      cases present
  · -- the id that one of the two vertices loses, and the id of the group
    have two : ∃ x ∈ group, ∃ a, idOf state.1 x = some a ∧ a ≠ cur := by
      by_contra all
      have same : ∀ x ∈ group, Met groups x → idOf state.1 x = some cur := by
        intro x mine met
        rcases ne_none_iff_exists'.mp ((sound.met x).mpr met) with ⟨a, has⟩
        by_contra other
        exact all ⟨x, mine, a, has, fun isCur => other (isCur ▸ has)⟩
      apply bridge
      refine ⟨empty, ?_⟩
      intro u mine v yours met met'
      refine sound.joined u v ?_ ((sound.met u).mpr met)
      rw [same u mine met, same v yours met']
    rcases two with ⟨x, mine, a, has, other⟩
    have upper := sound.upper x a has
    refine ⟨a, by omega, .inr ⟨cur, bounds.1, other, ?_⟩⟩
    intro u v left right
    have last := joins.linked sound v x right mine
    have outside : u ∉ group := by
      intro member
      rw [joins.id, if_pos member] at left
      exact other (Option.some.inj left).symm
    rw [joins.id, if_neg outside] at left
    have first := sound.joined u x (left.trans has.symm) (left ▸ some_ne_none a)
    exact first.snoc.trans last.symm

end Outcome

lemma joinGroups_spec (n : Nat) (groups : List (List Nat)) :
    (∀ group ∈ groups, ∀ v ∈ group, v < n) →
      Sound n groups (groups.foldl joinGroup (replicate n none, 0)) ∧
      (Separated groups →
        Complete groups (groups.foldl joinGroup (replicate n none, 0))) ∧
      (¬ Separated groups →
        Broken groups (groups.foldl joinGroup (replicate n none, 0))) := by
  induction groups using reverseRecOn with
  | nil =>
    intro _
    refine ⟨sound_start n, fun _ => ⟨?_, ?_⟩, fun mixed => absurd separated_nil mixed⟩
    · intro group member
      cases member
    · intro a inside
      cases inside
  | append_singleton groups group ih =>
    intro inside
    rcases ih fun group member => inside group (mem_append_left _ member) with
      ⟨sound, complete, broken⟩
    rw [foldl_append, foldl_cons, foldl_nil, separated_snoc]
    rcases joinGroup_joins (groups.foldl joinGroup (replicate n none, 0)) group (by
        rw [sound.length]
        exact inside group (mem_append_right _ mem_cons_self)) with ⟨cur, joins⟩
    refine ⟨joins.sound sound, ?_, ?_⟩
    · intro both
      exact joins.complete sound (complete both.1) both.2
    · intro either
      by_cases separated : Separated groups
      · exact joins.breaks sound fun bridgeless => either ⟨separated, bridgeless⟩
      · exact joins.broken sound (broken separated)

lemma joined_iff_separated {n : Nat} {groups : List (List Nat)}
    (inside : ∀ group ∈ groups, ∀ v ∈ group, v < n) (covers : ∀ v < n, Met groups v)
    {state : List (Option Nat) × Nat}
    (joined : groups.foldl joinGroup (replicate n none, 0) = state) :
    ((∀ u < n, ∀ v < n, (idOf state.1 u = idOf state.1 v ↔ JoinedBy groups u v)) ∧
      ∀ a < state.2, ∃ v < n, idOf state.1 v = some a) ↔ Separated groups := by
  rcases joinGroups_spec n groups inside with ⟨sound, complete, broken⟩
  rw [joined] at sound complete broken
  constructor
  · rintro ⟨linked, used⟩
    by_contra mixed
    rcases broken mixed with ⟨a, below, lost | ⟨b, below', differ, all⟩⟩
    · rcases used a below with ⟨v, _, holds⟩
      exact lost v holds
    · rcases used a below with ⟨u, uInside, left⟩
      rcases used b below' with ⟨v, vInside, right⟩
      have same := (linked u uInside v vInside).mpr (all u v left right)
      rw [left, right] at same
      exact differ (Option.some.inj same)
  · intro separated
    have complete := complete separated
    constructor
    · intro u uInside v _
      constructor
      · exact fun same => sound.joined u v same ((sound.met u).mpr (covers u uInside))
      · exact fun joined => joined.respects (idOf state.1) complete.shared
    · intro a below
      rcases complete.used a below with ⟨v, holds⟩
      rcases (sound.met v).mp (holds ▸ some_ne_none a) with ⟨group, member, mine⟩
      exact ⟨v, inside group member v mine, holds⟩

section Remaining

variable {n : Nat} {groups : List (List Nat)} {state : List (Option Nat) × Nat}

lemma joinSingle_eq (sound : Sound n groups state) (v : Nat) (inside : v < n) :
    joinSingle state v = joinGroup state [v] := by
  have bound : v < state.1.length := by rwa [sound.length]
  rw [joinSingle, joinGroup]
  cases has : state.1.getD v none with
  | none =>
    have members : [v].filterMap (fun v => state.1.getD v none) = [] := by
      simp only [filterMap_cons, has, filterMap_nil]
    rw [if_pos rfl, members]
    rfl
  | some a =>
    have members : [v].filterMap (fun v => state.1.getD v none) = [a] := by
      simp only [filterMap_cons, has, filterMap_nil]
    have kept : state.1.set v (some a) = state.1 := by
      rw [getD_eq_getElem?_getD, getElem?_eq_getElem bound, getD_some] at has
      rw [← has, set_getElem_self]
    rw [if_neg (some_ne_none a), members]
    exact Prod.ext kept.symm rfl

lemma joinSingles_eq (vs : List Nat) :
    ∀ (groups : List (List Nat)) (state : List (Option Nat) × Nat), Sound n groups state →
      (∀ v ∈ vs, v < n) →
      vs.foldl joinSingle state =
        (vs.map fun v => [v]).foldl joinGroup state := by
  induction vs with
  | nil => exact fun _ _ _ _ => rfl
  | cons v rest ih =>
    intro groups state sound inside
    rw [foldl_cons, map_cons, foldl_cons,
      joinSingle_eq sound v (inside v mem_cons_self)]
    rcases joinGroup_joins state [v] (by
      intro w member
      rw [mem_singleton.mp member, sound.length]
      exact inside v mem_cons_self) with ⟨cur, joins⟩
    exact ih _ _ (joins.sound sound) fun w member => inside w (mem_cons_of_mem _ member)

lemma joined_singles (vs : List Nat) (u v : Nat) :
    JoinedBy (groups ++ vs.map fun v => [v]) u v ↔ JoinedBy groups u v := by
  constructor
  · intro joined
    induction joined with
    | refl => exact ReflTransGen.refl
    | tail _ together ih =>
      rcases together with ⟨group, member, mine, yours⟩
      rcases mem_append.mp member with real | single
      · exact ih.tail ⟨group, real, mine, yours⟩
      · rcases mem_map.mp single with ⟨w, _, rfl⟩
        rw [mem_singleton.mp mine] at ih
        rwa [mem_singleton.mp yours]
  · exact fun joined => joined.mono fun group member => mem_append_left _ member

lemma separated_singles (vs : List Nat) :
    Separated (groups ++ vs.map fun v => [v]) ↔ Separated groups := by
  rw [separated_append, and_iff_left]
  intro before group after split
  have member : group ∈ vs.map fun v => [v] := by
    rw [split]
    exact mem_append_right _ mem_cons_self
  rcases mem_map.mp member with ⟨w, _, rfl⟩
  exact bridgeless_singleton

end Remaining

section Fixed

variable (c : Coarsener) (h : Hypergraph vd hd)

lemma getFixedAttr_none (none' : h.fixedAttr.length = 0) (v : Nat) : h.getFixedAttr v = -1 := by
  rw [Hypergraph.getFixedAttr, length_eq_zero_iff.mp none']
  rfl

lemma mem_fixedGroup (group : List Nat) : group ∈ c.fixedGroup h ↔ group ≠ [] ∧ ∃ b < c.numParts,
      group = (range h.getNumVertices).filter fun v => h.getFixedAttr v = (b : Int) := by
  have table : c.fixedGroup h =
      (((range h.getNumVertices).filter fun v => -1 < h.getFixedAttr v).foldl
        (fun groups v => groups.modify (h.getFixedAttr v).toNat (· ++ [v]))
        (replicate c.numParts [])).filter fun group => group ≠ [] := by
    have fixed : ((range h.getNumVertices).filter fun v =>
        0 < h.fixedAttr.length ∧ -1 < h.getFixedAttr v) =
        (range h.getNumVertices).filter fun v => -1 < h.getFixedAttr v := by
      apply filter_congr
      intro v _
      rw [decide_eq_decide]
      apply and_iff_right_of_imp
      intro isFixed
      by_contra none'
      rw [getFixedAttr_none h (by omega)] at isFixed
      exact absurd isFixed (lt_irrefl _)
    simp only [fixedGroup, fixed]
    apply filter_congr
    intro group _
    rw [decide_eq_decide, List.isEmpty_iff]
  rw [table, mem_filter, mem_iff_getElem?, and_comm, decide_eq_true_eq]
  apply and_congr_right
  intro _
  apply exists_congr
  intro b
  rw [Tally.getElem?_groups (fun v => (h.getFixedAttr v).toNat), List.filter_filter]
  have same : ((range h.getNumVertices).filter fun v =>
      decide ((h.getFixedAttr v).toNat = b) && decide (-1 < h.getFixedAttr v)) =
      (range h.getNumVertices).filter fun v => h.getFixedAttr v = (b : Int) := by
    apply filter_congr
    intro v _
    rw [← Bool.decide_and, decide_eq_decide]
    omega
  rw [same]
  split
  · rename_i inside
    exact ⟨fun found => ⟨inside, (Option.some.inj found).symm⟩,
      fun both => congrArg some both.2.symm⟩
  · rename_i outside
    exact ⟨fun found => absurd found.symm (some_ne_none _),
      fun both => absurd both.1 outside⟩

lemma mem_block (b v : Nat) :
    (v ∈ (range h.getNumVertices).filter fun v => h.getFixedAttr v = (b : Int)) ↔
      v < h.getNumVertices ∧ h.getFixedAttr v = b := by
  rw [mem_filter, mem_range, decide_eq_true_eq]

variable {c h} (blocks : ∀ v < h.getNumVertices, h.getFixedAttr v < c.numParts)

include blocks in
lemma block_mem (v : Nat) (inside : v < h.getNumVertices) (fixed : -1 < h.getFixedAttr v) :
    ((range h.getNumVertices).filter fun w => h.getFixedAttr w = h.getFixedAttr v) ∈
      c.fixedGroup h := by
  have below := blocks v inside
  have id : ((h.getFixedAttr v).toNat : Int) = h.getFixedAttr v := by omega
  refine (mem_fixedGroup c h _).mpr ⟨?_, (h.getFixedAttr v).toNat, by omega, by rw [id]⟩
  apply ne_nil_of_mem (a := v)
  exact mem_filter.mpr ⟨mem_range.mpr inside, decide_eq_true rfl⟩

include blocks in
lemma together_fixed (groupAttr : List (List Nat)) (u v : Nat) :
    Together (c.fixedGroup h ++ groupAttr) u v ↔ SameGroup h groupAttr u v := by
  constructor
  · rintro ⟨group, member, mine, yours⟩
    rcases mem_append.mp member with fixed | given
    · rcases (mem_fixedGroup c h group).mp fixed with ⟨_, b, _, rfl⟩
      have left := (mem_block h b u).mp mine
      have right := (mem_block h b v).mp yours
      exact .inr ⟨left.1, right.1, by omega, right.2.trans left.2.symm⟩
    · exact .inl ⟨group, given, mine, yours⟩
  · rintro (⟨group, given, both⟩ | ⟨uInside, vInside, fixed, same⟩)
    · exact ⟨group, mem_append_right _ given, both⟩
    · refine ⟨_, mem_append_left _ (block_mem blocks u uInside fixed), ?_, ?_⟩
      · exact mem_filter.mpr ⟨mem_range.mpr uInside, decide_eq_true rfl⟩
      · exact mem_filter.mpr ⟨mem_range.mpr vInside, decide_eq_true same⟩

include blocks in
lemma joined_fixed (groupAttr : List (List Nat)) :
    JoinedBy (c.fixedGroup h ++ groupAttr) = GroupLinked h groupAttr := by
  have same : Together (c.fixedGroup h ++ groupAttr) = SameGroup h groupAttr := by
    ext u v
    exact together_fixed blocks groupAttr u v
  exact congrArg ReflTransGen same

include blocks in
lemma met_fixed (before : List (List Nat)) (v : Nat) :
    Met (c.fixedGroup h ++ before) v ↔ MetBefore h before v := by
  rw [met_append]
  apply or_congr_left
  constructor
  · rintro ⟨group, fixed, mine⟩
    rcases (mem_fixedGroup c h group).mp fixed with ⟨_, b, _, rfl⟩
    have left := (mem_block h b v).mp mine
    exact ⟨left.1, by omega⟩
  · rintro ⟨inside, fixed⟩
    exact ⟨_, block_mem blocks v inside fixed,
      mem_filter.mpr ⟨mem_range.mpr inside, decide_eq_true rfl⟩⟩

lemma separated_fixed : Separated (c.fixedGroup h) := by
  intro before group after split
  have fixed : ∀ other, other ∈ before ∨ other = group → other ∈ c.fixedGroup h := by
    intro other either
    rw [split]
    rcases either with earlier | rfl
    · exact mem_append_left _ earlier
    · exact mem_append_right _ mem_cons_self
  rcases (mem_fixedGroup c h group).mp (fixed group (.inr rfl)) with ⟨some, b, _, rfl⟩
  refine ⟨some, ?_⟩
  rintro u mine v yours ⟨other, earlier, theirs⟩ _
  rcases (mem_fixedGroup c h other).mp (fixed other (.inl earlier)) with ⟨_, b', _, rfl⟩
  have same : b' = b := by
    have left := (mem_block h b u).mp mine
    have right := (mem_block h b' u).mp theirs
    omega
  rw [same] at earlier
  exact joined_of_mem earlier mine yours

include blocks in
lemma separated_iff_noBridge (groupAttr : List (List Nat)) :
    Separated (c.fixedGroup h ++ groupAttr) ↔ NoBridge h groupAttr := by
  rw [separated_append, and_iff_right separated_fixed]
  simp only [NoBridge, Bridgeless, met_fixed blocks, joined_fixed blocks]

end Fixed

lemma noBridge_nil (h : Hypergraph vd hd) : NoBridge h [] := by
  intro before group after split
  cases before with
  | nil => cases split
  | cons first rest => cases split

lemma groupLinked_nil (h : Hypergraph vd hd) (none' : h.fixedAttr.length = 0) (u v : Nat) :
    GroupLinked h [] u v ↔ u = v := by
  constructor
  · intro linked
    induction linked with
    | refl => rfl
    | tail _ grouped ih =>
      rcases grouped with ⟨group, member, _⟩ | ⟨_, _, fixed, _⟩
      · cases member
      · rw [getFixedAttr_none h none'] at fixed
        exact absurd fixed (lt_irrefl _)
  · rintro rfl
    exact ReflTransGen.refl

lemma ungrouped_honoured (h : Hypergraph vd hd) (none' : h.fixedAttr.length = 0) :
    GroupsHonoured h []
      ⟨range h.getNumVertices, h.vertexWeights, h.communityAttr, h.fixedAttr⟩ := by
  have same : ∀ v < h.getNumVertices, clusterOf (range h.getNumVertices) v = v := by
    intro v inside
    rw [clusterOf, getD_eq_getElem?_getD, getElem?_range inside]
    rfl
  constructor
  · intro u uInside v vInside
    rw [same u uInside, same v vInside, groupLinked_nil h none']
  · exact fun cluster inside => ⟨cluster, inside, same cluster inside⟩
  · intro cluster inside
    have member : cluster ∈ Finset.range h.getNumVertices := Finset.mem_range.mpr inside
    calc h.vertexWeights[cluster]?
        = some (h.getVertexWeights cluster) := by
          rw [Hypergraph.getVertexWeights, getD_eq_getElem?_getD,
            getElem?_eq_getElem inside, getD_some]
      _ = some (∑ v ∈ Finset.range h.getNumVertices,
            if v = cluster then h.getVertexWeights v else 0) := by
          rw [Finset.sum_ite_eq', if_pos member]
      _ = _ := by
          apply congrArg some
          apply Finset.sum_congr rfl
          intro v member
          rw [same v (Finset.mem_range.mp member)]

/-- The groups are honoured exactly when none is empty and none links two clusters. -/
theorem groups_honoured_iff (c : Coarsener) (h : Hypergraph vd hd) (groupAttr : List (List Nat))
    (groupable : Groupable c.numParts h groupAttr) :
    GroupsHonoured h groupAttr (c.clusterBasedGroupInfo h groupAttr) ↔ NoBridge h groupAttr := by
  rw [clusterBasedGroupInfo]
  by_cases trivial : groupAttr = [] ∧ h.fixedAttr.length = 0
  · rw [if_pos trivial, trivial.1]
    exact iff_of_true (ungrouped_honoured h trivial.2) (noBridge_nil h)
  rw [if_neg trivial]
  dsimp only
  -- all clusters come from groups, the remaining vertices being groups of one
  have groupsInside : ∀ group ∈ c.fixedGroup h ++ groupAttr, ∀ v ∈ group, v < h.getNumVertices := by
    intro group member v mine
    rcases List.mem_append.mp member with fixed | given
    · rcases (mem_fixedGroup c _ group).mp fixed with ⟨_, b, _, rfl⟩
      exact ((mem_block _ b v).mp mine).1
    · exact groupable.inside group given v mine
  have remaining := joinSingles_eq (List.range h.getNumVertices) _ _
    (joinGroups_spec h.getNumVertices _ groupsInside).1 fun v => List.mem_range.mp
  rw [← foldl_append] at remaining
  generalize (List.range h.getNumVertices).foldl joinSingle
    ((c.fixedGroup h ++ groupAttr).foldl joinGroup
      (List.replicate h.getNumVertices none, 0)) = all at remaining ⊢
  have inside : ∀ group ∈ c.fixedGroup h ++ groupAttr ++
      (List.range h.getNumVertices).map fun v => [v], ∀ v ∈ group, v < h.getNumVertices := by
    intro group member v mine
    rcases List.mem_append.mp member with real | single
    · exact groupsInside group real v mine
    · rcases List.mem_map.mp single with ⟨w, below, rfl⟩
      rw [List.mem_singleton.mp mine]
      exact List.mem_range.mp below
  have covers : ∀ v < h.getNumVertices, Met (c.fixedGroup h ++ groupAttr ++
      (List.range h.getNumVertices).map fun v => [v]) v := fun v below =>
    ⟨[v], mem_append_right _ (List.mem_map.mpr ⟨v, List.mem_range.mpr below, rfl⟩),
      List.mem_singleton.mpr rfl⟩
  have sound := (joinGroups_spec h.getNumVertices _ inside).1
  rw [← remaining] at sound
  have characterised := joined_iff_separated inside covers remaining.symm
  simp only [joined_singles, separated_singles, joined_fixed groupable.blocks,
    separated_iff_noBridge groupable.blocks] at characterised
  rw [← characterised]
  -- in the end every vertex has an id
  have cluster : ∀ v < h.getNumVertices,
      idOf all.1 v = some (clusterOf (all.1.map fun id => id.getD 0) v) := by
    intro v below
    rcases Option.ne_none_iff_exists'.mp ((sound.met v).mpr (covers v below)) with ⟨a, has⟩
    have bound : v < all.1.length := by rwa [sound.length]
    rw [has, clusterOf, List.getD_eq_getElem?_getD, List.getElem?_map]
    rw [idOf, List.getD_eq_getElem?_getD, List.getElem?_eq_getElem bound, Option.getD_some] at has
    rw [List.getElem?_eq_getElem bound, has]
    rfl
  constructor
  · rintro ⟨linked, used, _⟩
    rw [Tally.length_modifies, length_replicate] at used
    constructor
    · intro u uInside v vInside
      rw [cluster u uInside, cluster v vInside, Option.some.injEq]
      exact linked u uInside v vInside
    · intro a below
      rcases used a below with ⟨v, vInside, same⟩
      exact ⟨v, vInside, (cluster v vInside).trans (congrArg some same)⟩
  · rintro ⟨linked, used⟩
    constructor
    · intro u uInside v vInside
      rw [← linked u uInside v vInside, cluster u uInside, cluster v vInside, Option.some.injEq]
    · rw [Tally.length_modifies, length_replicate]
      intro a below
      rcases used a below with ⟨v, vInside, has⟩
      exact ⟨v, vInside, Option.some.inj ((cluster v vInside).symm.trans has)⟩
    · rw [Tally.length_modifies, length_replicate]
      intro a below
      rw [Tally.getElem?_totals, if_pos below, Tally.sum_range_filter]

def fourVertices : Hypergraph 1 1 :=
  Hypergraph.new [] [![1], ![1], ![1], ![1]] [] [] [] [] [] []

lemma fourVertices_groupable (groupAttr : List (List Nat))
    (inside : ∀ group ∈ groupAttr, ∀ v ∈ group, v < 4) : Groupable 2 fourVertices groupAttr := by
  refine ⟨inside, ?_⟩
  intro v _
  rw [getFixedAttr_none _ rfl]
  decide

theorem groups_honoured_iff_sample : GroupsHonoured fourVertices [[0, 1], [1, 2]]
      (clusterBasedGroupInfo ⟨10, 2⟩ fourVertices [[0, 1], [1, 2]]) ↔
      NoBridge fourVertices [[0, 1], [1, 2]] :=
  groups_honoured_iff ⟨10, 2⟩ fourVertices [[0, 1], [1, 2]] (fourVertices_groupable _ (by decide))

/-- The third group takes a vertex from the first one and leaves the other behind. -/
theorem bridge_splits_group : Groupable 2 fourVertices [[0, 1], [2, 3], [1, 2]] ∧
      ¬ GroupsHonoured fourVertices [[0, 1], [2, 3], [1, 2]]
        (clusterBasedGroupInfo ⟨10, 2⟩ fourVertices [[0, 1], [2, 3], [1, 2]]) := by
  refine ⟨fourVertices_groupable _ (by decide), ?_⟩
  intro honoured
  have linked : GroupLinked fourVertices [[0, 1], [2, 3], [1, 2]] 0 1 :=
    Relation.ReflTransGen.single (.inl ⟨[0, 1], by decide, by decide, by decide⟩)
  have same := (honoured.linked 0 (by decide) 1 (by decide)).mpr linked
  revert same
  decide

end OpenRoad.Par
