import OpenRoad.Par.ContractionCost
import OpenRoad.Par.GroupIds
import OpenRoad.Par.InitialPartitions

/-! When the hint of the cut overlay fits the clusters that the grouping makes. -/

namespace OpenRoad.Par

open Lib Components List Coarsener OpenRoad.Par.Hypergraph

variable {vd hd : Nat} {h : Hypergraph vd hd} {c : Coarsener} {topSolutions : List Partitions}

lemma mem_uncutNbrs {u w : Nat} : w ∈ uncutNbrs h topSolutions u ↔ ∃ e < h.getNumHyperedges,
      hyperedgeMask h topSolutions e = false ∧ u ∈ h.vertices e ∧ w ∈ h.vertices e := by
  rw [uncutNbrs, mem_flatMap]
  constructor
  · rintro ⟨e, member, there⟩
    rw [mem_filter, mem_edges, decide_eq_true_eq, Bool.not_eq_true] at member
    exact ⟨e, member.1.1, member.2, member.1.2, there⟩
  · rintro ⟨e, inside, uncut, here, there⟩
    refine ⟨e, mem_filter.mpr ⟨mem_edges.mpr ⟨inside, here⟩, ?_⟩, there⟩
    rw [decide_eq_true_eq, Bool.not_eq_true]
    exact uncut

lemma uncutNbrs_symm (u w : Nat) (edge : w ∈ uncutNbrs h topSolutions u) :
    u ∈ uncutNbrs h topSolutions w := by
  rcases mem_uncutNbrs.mp edge with ⟨e, inside, uncut, here, there⟩
  exact mem_uncutNbrs.mpr ⟨e, inside, uncut, there, here⟩

lemma uncutNbrs_lt (valid : h.Valid) (u w : Nat) (edge : w ∈ uncutNbrs h topSolutions u) :
    u < h.getNumVertices := by
  rcases mem_uncutNbrs.mp edge with ⟨e, _, _, here, _⟩
  exact valid.vertices_lt e u here

lemma linked_block {solution : Partitions} (member : solution ∈ topSolutions) {u w : Nat}
    (linked : Linked (uncutNbrs h topSolutions) u w) : blockOf solution u = blockOf solution w := by
  induction linked with
  | refl => rfl
  | tail _ edge ih =>
    rcases mem_uncutNbrs.mp edge with ⟨e, _, uncut, here, there⟩
    rw [ih]
    by_contra differs
    rw [hyperedgeMask, any_eq_false] at uncut
    exact uncut solution member ((isCut_iff solution _).mpr ⟨_, here, _, there, differs⟩)

lemma overlay_numbered (valid : h.Valid) :
    Numbered (uncutNbrs h topSolutions) h.getNumVertices h.getNumVertices
      (overlay h topSolutions) :=
  components_numbered (uncutNbrs_lt valid)

/-- Clusters made so far: each has the block of its vertices, and `done` tells who is in one. -/
structure Grouped (n : Nat) (block : Nat → Int) (state : List (Option Nat) × Nat)
    (blocks : List Int) (done : Nat → Prop) : Prop where
  length : state.1.length = n
  next : state.2 = blocks.length
  agree : ∀ v i : Nat, state.1[v]? = some (some i) → blocks[i]? = some (block v)
  used : ∀ i < blocks.length, ∃ v : Nat, state.1[v]? = some (some i)
  done : ∀ v < n, (∃ i, state.1[v]? = some (some i)) ↔ done v

variable {n : Nat} {block : Nat → Int} {state : List (Option Nat) × Nat} {blocks : List Int}
  {done : Nat → Prop}

lemma joinGroup_new (grouped : Grouped n block state blocks done) {group : List Nat} {b : Int}
    (nonempty : ∃ v, v ∈ group) (inside : ∀ v ∈ group, v < n ∧ block v = b)
    (fresh : ∀ v ∈ group, ¬ done v) :
    Grouped n block (joinGroup state group) (blocks ++ [b])
      (fun v => done v ∨ v ∈ group) ∧
    ∀ v i : Nat, state.1[v]? = some (some i) →
      (joinGroup state group).1[v]? = some (some i) := by
  have unlabelled : ∀ v ∈ group, ¬ ∃ i, state.1[v]? = some (some i) := fun v member found =>
    fresh v member ((grouped.done v (inside v member).1).mp found)
  have none' : (group.filterMap fun v => state.1.getD v none).max? = none := by
    rw [max?_eq_none_iff, eq_nil_iff_forall_not_mem]
    intro i present
    rcases present_iff.mp present with ⟨v, member, found⟩
    exact unlabelled v member ⟨i, found⟩
  have bound : ∀ v ∈ group, v < state.1.length := fun v member =>
    grouped.length.symm ▸ (inside v member).1
  rw [joinGroup, none']
  have entry := fun v => getElem?_setAll state.1 group state.2 v bound
  refine ⟨⟨?_, ?_, fun v i found => ?_, fun i isUsed => ?_, fun v vInside => ?_⟩,
    fun v i found => ?_⟩
  · dsimp only
    rw [length_setAll, grouped.length]
  · dsimp only
    rw [grouped.next, length_append, length_singleton]
  · dsimp only at found
    rw [entry] at found
    split at found
    · rename_i member
      rw [Option.some.injEq, Option.some.injEq] at found
      rw [← found, grouped.next, getElem?_concat_length, (inside v member).2]
    · have old := grouped.agree v i found
      rw [getElem?_append_left (List.getElem?_eq_some_iff.mp old).1]
      exact old
  · dsimp only
    rw [length_append, length_singleton] at isUsed
    by_cases last : i = blocks.length
    · rcases nonempty with ⟨v, member⟩
      refine ⟨v, ?_⟩
      rw [entry, if_pos member, grouped.next, last]
    · rcases grouped.used i (by omega) with ⟨v, found⟩
      refine ⟨v, ?_⟩
      rw [entry, if_neg fun member => unlabelled v member ⟨i, found⟩]
      exact found
  · dsimp only
    rw [entry]
    split
    · rename_i member
      exact iff_of_true ⟨_, rfl⟩ (.inr member)
    · rename_i out
      rw [grouped.done v vInside]
      exact ⟨.inl, fun either => either.resolve_right out⟩
  · dsimp only
    rw [entry, if_neg fun member => unlabelled v member ⟨i, found⟩]
    exact found

lemma joinGroup_old (grouped : Grouped n block state blocks done) {group : List Nat} {b : Int}
    (inside : ∀ v ∈ group, v < n ∧ block v = b)
    (met : ∃ v ∈ group, done v)
    (one : ∀ u ∈ group, ∀ v ∈ group, ∀ i j : Nat, state.1[u]? = some (some i) →
      state.1[v]? = some (some j) → i = j) :
    Grouped n block (joinGroup state group) blocks (fun v => done v ∨ v ∈ group) ∧
    ∀ v i : Nat, state.1[v]? = some (some i) →
      (joinGroup state group).1[v]? = some (some i) := by
  rcases met with ⟨u, uMember, uDone⟩
  rcases (grouped.done u (inside u uMember).1).mpr uDone with ⟨cur, uFound⟩
  have bound : ∀ v ∈ group, v < state.1.length := fun v member =>
    grouped.length.symm ▸ (inside v member).1
  have isMax : (group.filterMap fun v => state.1.getD v none).max? = some cur := by
    rw [max?_eq_some_iff]
    refine ⟨present_iff.mpr ⟨u, uMember, uFound⟩, fun i present => ?_⟩
    rcases present_iff.mp present with ⟨v, member, found⟩
    exact (one v member u uMember i cur found uFound).le
  rw [joinGroup, isMax]
  have entry := fun v => getElem?_setAll state.1 group cur v bound
  have keeps : ∀ v i : Nat, state.1[v]? = some (some i) →
      (group.foldl (fun ids v => ids.set v (some cur)) state.1)[v]? = some (some i) := by
    intro v i found
    rw [entry]
    split
    · rename_i member
      rw [one v member u uMember i cur found uFound]
    · exact found
  refine ⟨⟨?_, grouped.next, fun v i found => ?_, fun i isUsed => ?_, fun v vInside => ?_⟩, keeps⟩
  · dsimp only
    rw [length_setAll, grouped.length]
  · dsimp only at found
    rw [entry] at found
    split at found
    · rename_i member
      rw [Option.some.injEq, Option.some.injEq] at found
      rw [← found, grouped.agree u cur uFound, (inside u uMember).2, (inside v member).2]
    · exact grouped.agree v i found
  · rcases grouped.used i isUsed with ⟨v, found⟩
    exact ⟨v, keeps v i found⟩
  · dsimp only
    rw [entry]
    split
    · rename_i member
      exact iff_of_true ⟨_, rfl⟩ (.inr member)
    · rename_i out
      rw [grouped.done v vInside]
      exact ⟨.inl, fun either => either.resolve_right out⟩

lemma grouped_start : Grouped n block (replicate n none, 0) [] fun _ => False where
  length := length_replicate
  next := rfl
  agree := by
    intro v i found
    rw [getElem?_replicate] at found
    split at found <;> cases found
  used := nofun
  done := by
    intro v inside
    rw [getElem?_replicate, if_pos inside]
    exact iff_of_false (fun ⟨_, found⟩ => nomatch found) id

lemma joinGroups_new {ι : Type} (members : ι → List Nat) (blockOfGroup : ι → Int)
    (groups : List ι) :
    ∀ (state : List (Option Nat) × Nat) (blocks : List Int) (done : Nat → Prop),
      Grouped n block state blocks done →
      groups.Pairwise (fun g g' => ∀ v, v ∈ members g → v ∉ members g') →
      (∀ g ∈ groups, (∃ v, v ∈ members g) ∧
        (∀ v ∈ members g, v < n ∧ block v = blockOfGroup g) ∧ ∀ v ∈ members g, ¬ done v) →
      Grouped n block ((groups.map members).foldl joinGroup state)
        (blocks ++ groups.map blockOfGroup) (fun v => done v ∨ ∃ g ∈ groups, v ∈ members g) := by
  induction groups with
  | nil =>
    intro state blocks done grouped _ _
    rw [map_nil, map_nil, append_nil]
    refine ⟨grouped.length, grouped.next, grouped.agree, grouped.used, fun v inside => ?_⟩
    rw [foldl_nil, grouped.done v inside]
    exact ⟨.inl, fun either => either.resolve_right fun ⟨_, member, _⟩ => nomatch member⟩
  | cons g rest ih =>
    intro state blocks done grouped apart each
    rcases pairwise_cons.mp apart with ⟨first, others⟩
    rcases each g mem_cons_self with ⟨nonempty, inside, fresh⟩
    have joined := (joinGroup_new grouped nonempty inside fresh).1
    have final := ih _ _ _ joined others fun g' member => by
      rcases each g' (mem_cons_of_mem _ member) with ⟨nonempty', inside', fresh'⟩
      refine ⟨nonempty', inside', fun v there => ?_⟩
      rintro (wasDone | here)
      · exact fresh' v there wasDone
      · exact first g' member v here there
    rw [map_cons, foldl_cons, map_cons, ← singleton_append, ← append_assoc]
    refine ⟨final.length, final.next, final.agree, final.used, fun v vInside => ?_⟩
    rw [final.done v vInside]
    simp only [mem_cons, exists_eq_or_imp, or_assoc]

def fixedMembers (h : Hypergraph vd hd) (b : Nat) : List Nat :=
  h.fixedVertices.filter fun v => (h.getFixedAttr v).toNat = b

def fixedBlocks (c : Coarsener) (h : Hypergraph vd hd) : List Nat :=
  (List.range c.numParts).filter fun b => ¬ (fixedMembers h b).isEmpty

lemma fixedGroup_eq (valid : h.Valid) :
    c.fixedGroup h = (fixedBlocks c h).map (fixedMembers h) := by
  have fixed : ((range h.getNumVertices).filter fun v =>
      0 < h.fixedAttr.length ∧ -1 < h.getFixedAttr v) = h.fixedVertices := by
    apply filter_congr
    intro v member
    have inside := mem_range.mp member
    rw [isFixed]
    cases flag : h.fixedVertexFlag with
    | false =>
      rw [valid.not_fixed flag]
      rfl
    | true =>
      have length := valid.fixed_length flag
      simp only [decide_eq_decide, true_and, and_iff_right_iff_imp]
      omega
  have groups : h.fixedVertices.foldl
      (fun groups v => groups.modify (h.getFixedAttr v).toNat (· ++ [v]))
      (replicate c.numParts []) = (range c.numParts).map (fixedMembers h) := by
    apply ext_getElem?
    intro b
    rw [Tally.getElem?_groups, getElem?_map]
    split
    · rename_i inside
      rw [getElem?_range inside]
      rfl
    · rename_i outside
      rw [List.getElem?_eq_none_iff.mpr (by rw [length_range]; omega)]
      rfl
  rw [fixedGroup, fixed, groups, filter_map, fixedBlocks]
  rfl

open Classical in
noncomputable def leaders (h : Hypergraph vd hd) (topSolutions : List Partitions) : List Nat :=
  (List.range h.getNumVertices).filter fun v => Leader (uncutNbrs h topSolutions) v

def Unfixed (h : Hypergraph vd hd) (topSolutions : List Partitions) (r : Nat) : Prop :=
  ∀ v ∈ h.fixedVertices, ¬ Linked (uncutNbrs h topSolutions) r v

open Classical in
lemma mem_leaders {r : Nat} :
    r ∈ leaders h topSolutions ↔ r < h.getNumVertices ∧ Leader (uncutNbrs h topSolutions) r := by
  rw [leaders, mem_filter, mem_range, decide_eq_true_eq]

lemma overlay_leaders (valid : h.Valid) :
    (overlay h topSolutions).2 = leaders h topSolutions := by
  refine (overlay_numbered valid).sorted.eq_of_mem_iff ?_ fun r => ?_
  · exact pairwise_lt_range.filter _
  · rw [(overlay_numbered valid).roots, mem_leaders]

lemma overlayLabel_spec (topSolutions : List Partitions) (valid : h.Valid) {v : Nat}
    (inside : v < h.getNumVertices) :
    ∃ r, (leaders h topSolutions)[overlayLabel h topSolutions v]? = some r ∧
      Linked (uncutNbrs h topSolutions) r v := by
  have numbered : Numbered (uncutNbrs h topSolutions) h.getNumVertices h.getNumVertices
      (overlay h topSolutions) := overlay_numbered valid
  rcases numbered.component inside with ⟨i, r, found, isRoot, linked⟩
  refine ⟨r, ?_, linked⟩
  rw [overlayLabel, getD_eq_getElem?_getD, found, ← overlay_leaders valid]
  exact isRoot

lemma nodup_leaders : (leaders h topSolutions).Nodup := nodup_range.filter _

lemma overlayLabel_of_linked (valid : h.Valid) {v r k : Nat} (inside : v < h.getNumVertices)
    (isLeader : (leaders h topSolutions)[k]? = some r)
    (linked : Linked (uncutNbrs h topSolutions) r v) : overlayLabel h topSolutions v = k := by
  rcases overlayLabel_spec topSolutions valid inside with ⟨r', found, linked'⟩
  have same : r' = r := by
    refine Leader.unique uncutNbrs_symm (mem_leaders.mp (mem_of_getElem? found)).2
      (mem_leaders.mp (mem_of_getElem? isLeader)).2 ?_
    exact linked'.trans (linked.symm uncutNbrs_symm)
  rw [same, ← isLeader] at found
  exact (getElem?_inj (List.getElem?_eq_some_iff.mp (found.trans isLeader)).1
    nodup_leaders).mp found

def componentMembers (h : Hypergraph vd hd) (topSolutions : List Partitions) (k : Nat) : List Nat :=
  (List.range h.getNumVertices).filter fun v => overlayLabel h topSolutions v = k

lemma mem_componentMembers {v k : Nat} : v ∈ componentMembers h topSolutions k ↔
      v < h.getNumVertices ∧ overlayLabel h topSolutions v = k := by
  rw [componentMembers, mem_filter, mem_range, decide_eq_true_eq]

lemma clusterAttr_eq (valid : h.Valid) : clusterAttr h topSolutions =
      (range (leaders h topSolutions).length).map (componentMembers h topSolutions) := by
  apply ext_getElem?
  intro k
  rw [clusterAttr, Tally.getElem?_groups, getElem?_map, overlay_leaders valid]
  split
  · rename_i inside
    rw [getElem?_range inside]
    rfl
  · rename_i outside
    rw [List.getElem?_eq_none_iff.mpr (by rw [length_range]; omega)]
    rfl

lemma Grouped.congr {done' : Nat → Prop} (grouped : Grouped n block state blocks done)
    (same : ∀ v < n, done v ↔ done' v) : Grouped n block state blocks done' :=
  ⟨grouped.length, grouped.next, grouped.agree, grouped.used,
    fun v inside => (grouped.done v inside).trans (same v inside)⟩

section

variable {best : Partitions}

lemma mem_fixedMembers {v b : Nat} :
    v ∈ fixedMembers h b ↔ v ∈ h.fixedVertices ∧ (h.getFixedAttr v).toNat = b := by
  rw [fixedMembers, mem_filter, decide_eq_true_eq]

lemma fixedMembers_block (respects : ∀ v ∈ h.fixedVertices, blockOf best v = h.getFixedAttr v)
    {v b : Nat} (member : v ∈ fixedMembers h b) : blockOf best v = b := by
  rcases mem_fixedMembers.mp member with ⟨fixed, same⟩
  rw [respects v fixed, ← same, Int.toNat_of_nonneg (isFixed_nonneg (mem_fixedVertices.mp fixed).2)]

lemma fixed_grouped (respects : ∀ v ∈ h.fixedVertices, blockOf best v = h.getFixedAttr v)
    (inRange : ∀ v ∈ h.fixedVertices, h.getFixedAttr v < c.numParts) :
    Grouped h.getNumVertices (blockOf best)
      (((fixedBlocks c h).map (fixedMembers h)).foldl joinGroup
        (replicate h.getNumVertices none, 0))
      ((fixedBlocks c h).map Int.ofNat) (· ∈ h.fixedVertices) := by
  have start : Grouped h.getNumVertices (blockOf best)
      (replicate h.getNumVertices none, 0) [] fun _ => False := grouped_start
  have grouped := joinGroups_new (fixedMembers h) Int.ofNat (fixedBlocks c h) _ _ _ start
    ((nodup_range.filter _).imp (by
      intro b b' differs v member member'
      exact differs ((mem_fixedMembers.mp member).2.symm.trans (mem_fixedMembers.mp member').2)))
    (fun b isBlock => by
      rw [fixedBlocks, mem_filter, decide_eq_true_eq, List.isEmpty_iff] at isBlock
      refine ⟨exists_mem_of_ne_nil _ isBlock.2, fun v member => ?_, fun _ _ => id⟩
      exact ⟨(mem_fixedVertices.mp (mem_fixedMembers.mp member).1).1,
        fixedMembers_block respects member⟩)
  rw [nil_append] at grouped
  refine grouped.congr fun v inside => ?_
  rw [false_or]
  constructor
  · rintro ⟨b, _, member⟩
    exact (mem_fixedMembers.mp member).1
  · intro fixed
    have member : v ∈ fixedMembers h (h.getFixedAttr v).toNat := mem_fixedMembers.mpr ⟨fixed, rfl⟩
    refine ⟨(h.getFixedAttr v).toNat, ?_, member⟩
    rw [fixedBlocks, mem_filter, mem_range, decide_eq_true_eq, List.isEmpty_iff]
    refine ⟨?_, ne_nil_of_mem member⟩
    have bound := inRange v fixed
    have positive := isFixed_nonneg (mem_fixedVertices.mp fixed).2
    omega

lemma nodup_fixedBlocks : ((fixedBlocks c h).map Int.ofNat).Nodup :=
  (nodup_range.filter _).map fun _ _ same => Int.ofNat.inj same

open Classical in
lemma components_grouped (valid : h.Valid) (member : best ∈ topSolutions)
    {start : List (Option Nat) × Nat}
    (fixed : Grouped h.getNumVertices (blockOf best) start
      ((fixedBlocks c h).map Int.ofNat) (· ∈ h.fixedVertices)) :
    ∀ k ≤ (leaders h topSolutions).length, Grouped h.getNumVertices (blockOf best)
        (((range k).map (componentMembers h topSolutions)).foldl joinGroup start)
        (((fixedBlocks c h).map Int.ofNat) ++
          (((leaders h topSolutions).take k).filter (Unfixed h topSolutions)).map (blockOf best))
        (fun v => v ∈ h.fixedVertices ∨ overlayLabel h topSolutions v < k) ∧
      ∀ v i : Nat, start.1[v]? = some (some i) →
        (((range k).map (componentMembers h topSolutions)).foldl
          joinGroup start).1[v]? = some (some i) := by
  intro k
  induction k with
  | zero =>
    intro _
    refine ⟨?_, fun _ _ => id⟩
    rw [take_zero, filter_nil, map_nil, append_nil]
    exact fixed.congr fun v _ => (or_iff_left (Nat.not_lt_zero _)).symm
  | succ k ih =>
    intro bound
    rcases ih (Nat.le_of_succ_le bound) with ⟨grouped, keeps⟩
    have isLeader : (leaders h topSolutions)[k]? = some (leaders h topSolutions)[k] :=
      getElem?_eq_getElem bound
    generalize (leaders h topSolutions)[k] = r at isLeader
    have rInside := (mem_leaders.mp (mem_of_getElem? isLeader)).1
    have linked : ∀ v ∈ componentMembers h topSolutions k,
        Linked (uncutNbrs h topSolutions) r v := by
      intro v vMember
      rcases mem_componentMembers.mp vMember with ⟨inside, label⟩
      rcases overlayLabel_spec topSolutions valid inside with
        ⟨r', found, linked⟩
      rw [label, isLeader, Option.some.injEq] at found
      exact found ▸ linked
    have inside : ∀ v ∈ componentMembers h topSolutions k,
        v < h.getNumVertices ∧ blockOf best v = blockOf best r := fun v vMember =>
      ⟨(mem_componentMembers.mp vMember).1, (linked_block member (linked v vMember)).symm⟩
    have rMember : r ∈ componentMembers h topSolutions k := mem_componentMembers.mpr
      ⟨rInside, overlayLabel_of_linked valid rInside isLeader Relation.ReflTransGen.refl⟩
    have doneFixed : ∀ v ∈ componentMembers h topSolutions k,
        (v ∈ h.fixedVertices ∨ overlayLabel h topSolutions v < k) → v ∈ h.fixedVertices :=
      fun v vMember either => either.resolve_right fun early =>
        absurd (mem_componentMembers.mp vMember).2 (Nat.ne_of_lt early)
    have doneNext : ∀ v < h.getNumVertices,
        ((v ∈ h.fixedVertices ∨ overlayLabel h topSolutions v < k) ∨
          v ∈ componentMembers h topSolutions k) ↔
        (v ∈ h.fixedVertices ∨ overlayLabel h topSolutions v < k + 1) := by
      intro v vInside
      rw [mem_componentMembers, and_iff_right vInside, or_assoc, Nat.lt_succ_iff_lt_or_eq]
    rw [range_succ, map_append, foldl_append, map_singleton,
      foldl_cons, foldl_nil, take_add_one, isLeader, filter_append,
      map_append]
    by_cases met : ∃ v ∈ componentMembers h topSolutions k, v ∈ h.fixedVertices
    · have notFree : ¬ Unfixed h topSolutions r := by
        rcases met with ⟨v, vMember, vFixed⟩
        exact fun unfixed => unfixed v vFixed (linked v vMember)
      have one : ∀ u ∈ componentMembers h topSolutions k,
          ∀ v ∈ componentMembers h topSolutions k, ∀ i j : Nat,
          (((range k).map (componentMembers h topSolutions)).foldl
            joinGroup start).1[u]? = some (some i) →
          (((range k).map (componentMembers h topSolutions)).foldl
            joinGroup start).1[v]? = some (some j) → i = j := by
        have atStart : ∀ u ∈ componentMembers h topSolutions k, ∀ i : Nat,
            (((range k).map (componentMembers h topSolutions)).foldl
              joinGroup start).1[u]? = some (some i) →
            ((fixedBlocks c h).map Int.ofNat)[i]? = some (blockOf best r) := by
          intro u uMember i found
          have uInside := (inside u uMember).1
          have uFixed := doneFixed u uMember ((grouped.done u uInside).mp ⟨i, found⟩)
          rcases (fixed.done u uInside).mpr uFixed with ⟨i', found'⟩
          have same := keeps u i' found'
          rw [found, Option.some.injEq, Option.some.injEq] at same
          rw [same, fixed.agree u i' found', (inside u uMember).2]
        intro u uMember v vMember i j uFound vFound
        have first := atStart u uMember i uFound
        exact (getElem?_inj (List.getElem?_eq_some_iff.mp first).1 nodup_fixedBlocks).mp
          (first.trans (atStart v vMember j vFound).symm)
      rcases met with ⟨v, vMember, vFixed⟩
      rcases joinGroup_old grouped inside ⟨v, vMember, .inl vFixed⟩ one with ⟨joined, kept⟩
      refine ⟨?_, fun v i found => kept v i (keeps v i found)⟩
      have noMore : (Option.toList (some r)).filter (Unfixed h topSolutions) = [] := by
        rw [Option.toList_some, filter_singleton, decide_eq_false notFree]
        rfl
      rw [noMore, map_nil, append_nil]
      exact joined.congr doneNext
    · have free : Unfixed h topSolutions r := by
        intro v vFixed vLinked
        have vInside := (mem_fixedVertices.mp vFixed).1
        exact met ⟨v, mem_componentMembers.mpr
          ⟨vInside, overlayLabel_of_linked valid vInside isLeader vLinked⟩, vFixed⟩
      rcases joinGroup_new grouped ⟨r, rMember⟩ inside (fun v vMember isDone =>
        met ⟨v, vMember, doneFixed v vMember isDone⟩) with ⟨joined, kept⟩
      refine ⟨?_, fun v i found => kept v i (keeps v i found)⟩
      have oneMore : (Option.toList (some r)).filter (Unfixed h topSolutions) = [r] := by
        rw [Option.toList_some, filter_singleton, decide_eq_true free]
        rfl
      rw [oneMore, map_singleton, ← append_assoc]
      exact joined.congr doneNext

open Classical in
/-- The blocks of the clusters that the grouping makes: fixed blocks first, then the components
without fixed vertices. -/
noncomputable def groupedBlocks (c : Coarsener) (h : Hypergraph vd hd)
    (topSolutions : List Partitions) (best : Partitions) : List Int :=
  (fixedBlocks c h).map Int.ofNat ++
    ((leaders h topSolutions).filter (Unfixed h topSolutions)).map (blockOf best)

/-- What the grouping tells of the clusters: their blocks, which they all are used. -/
structure Clustered (h : Hypergraph vd hd) (best : Partitions) (info : Coarsener.GroupInfo vd)
    (blocks : List Int) : Prop where
  count : info.vertexWeightsC.length = blocks.length
  agree : ∀ v < h.getNumVertices,
    blocks[clusterOf info.vertexClusterIdVec v]? = some (blockOf best v)
  used : ∀ i < blocks.length, ∃ v < h.getNumVertices,
    clusterOf info.vertexClusterIdVec v = i

lemma joinSingles_done {state : List (Option Nat) × Nat} (vertices : List Nat)
    (done : ∀ v ∈ vertices, ∃ i, state.1[v]? = some (some i)) :
    vertices.foldl joinSingle state = state := by
  induction vertices with
  | nil => rfl
  | cons v rest ih =>
    rcases done v mem_cons_self with ⟨i, found⟩
    have same : joinSingle state v = state := by
      rw [joinSingle, getD_eq_getElem?_getD, found]
      rfl
    rw [foldl_cons, same]
    exact ih fun w member => done w (mem_cons_of_mem _ member)

lemma leaders_empty (none' : (leaders h topSolutions).length = 0) : h.getNumVertices = 0 := by
  by_contra some'
  have first : 0 ∈ leaders h topSolutions :=
    mem_leaders.mpr ⟨Nat.pos_of_ne_zero some', fun u below => absurd below (Nat.not_lt_zero u)⟩
  rw [length_eq_zero_iff.mp none'] at first
  cases first

lemma groupedBlocks_empty (none' : h.getNumVertices = 0) :
    groupedBlocks c h topSolutions best = [] := by
  have noMembers : ∀ b, fixedMembers h b = [] := fun b => by
    rw [fixedMembers, fixedVertices, none']
    rfl
  have noBlocks : fixedBlocks c h = [] := by
    rw [fixedBlocks, filter_eq_nil_iff]
    intro b _
    rw [noMembers]
    decide
  rw [groupedBlocks, noBlocks, leaders, none']
  rfl

lemma overlay_clustered (valid : h.Valid) (member : best ∈ topSolutions)
    (respects : ∀ v ∈ h.fixedVertices, blockOf best v = h.getFixedAttr v)
    (inRange : ∀ v ∈ h.fixedVertices, h.getFixedAttr v < c.numParts) :
    Clustered h best (c.clusterBasedGroupInfo h (clusterAttr h topSolutions))
      (groupedBlocks c h topSolutions best) := by
  rw [clusterBasedGroupInfo]
  split
  · rename_i early
    have length := congrArg List.length early.1
    rw [clusterAttr_eq valid, length_map, length_range, length_nil] at length
    have none' := leaders_empty length
    rw [groupedBlocks_empty none']
    exact ⟨none', fun v inside => absurd inside (by omega), nofun⟩
  · have all := (components_grouped (c := c) valid member (fixed_grouped respects inRange)
      (leaders h topSolutions).length (Nat.le_refl _)).1
    rw [take_length, ← clusterAttr_eq valid, ← fixedGroup_eq valid, ← foldl_append] at all
    have labelled : ∀ v ∈ range h.getNumVertices, ∃ i,
        ((c.fixedGroup h ++ clusterAttr h topSolutions).foldl joinGroup
          (replicate h.getNumVertices none, 0)).1[v]? = some (some i) := by
      intro v vMember
      have inside := mem_range.mp vMember
      refine (all.done v inside).mpr (.inr ?_)
      rcases overlayLabel_spec topSolutions valid inside with ⟨r, found, _⟩
      exact (List.getElem?_eq_some_iff.mp found).1
    have ids : ∀ v i : Nat,
        ((c.fixedGroup h ++ clusterAttr h topSolutions).foldl joinGroup
          (replicate h.getNumVertices none, 0)).1[v]? = some (some i) →
        clusterOf (((c.fixedGroup h ++ clusterAttr h topSolutions).foldl
          joinGroup (replicate h.getNumVertices none, 0)).1.map
            fun id => id.getD 0) v = i := by
      intro v i found
      rw [clusterOf, getD_eq_getElem?_getD, getElem?_map, found]
      rfl
    dsimp only
    rw [joinSingles_done _ labelled]
    refine ⟨?_, fun v inside => ?_, fun i isUsed => ?_⟩
    · dsimp only
      rw [Tally.length_modifies (fun v => clusterOf _ v)
        (fun v weight => weight + h.getVertexWeights v), length_replicate]
      exact all.next
    · rcases labelled v (mem_range.mpr inside) with ⟨i, found⟩
      rw [ids v i found]
      exact all.agree v i found
    · rcases all.used i isUsed with ⟨v, found⟩
      refine ⟨v, ?_, ids v i found⟩
      rw [← all.length]
      exact (List.getElem?_eq_some_iff.mp found).1

lemma groupVertices_count (ev : GoldenEvaluator vd hd) (groupAttr : List (List Nat)) :
    (c.groupVertices h ev groupAttr).getNumVertices =
      (c.clusterBasedGroupInfo h groupAttr).vertexWeightsC.length := by
  rw [groupVertices]
  split
  · rw [GoldenEvaluator.initializeTiming]
    split
    · rfl
    · rfl
  · rfl

lemma groupVertices_attr (ev : GoldenEvaluator vd hd) (groupAttr : List (List Nat))
    {cluster : Nat}
    (inside : cluster < (c.clusterBasedGroupInfo h groupAttr).vertexWeightsC.length) :
    (c.groupVertices h ev groupAttr).getVertexCAttr cluster =
      (range h.getNumVertices).filter fun v => clusterOf
        (c.clusterBasedGroupInfo h groupAttr).vertexClusterIdVec v = cluster := by
  rw [← vertexCAttr_groups _ _ inside, groupVertices]
  split
  · rw [GoldenEvaluator.initializeTiming]
    split
    · rfl
    · rfl
  · rfl

end

/-- The hint has a block for each cluster and is projected back to the best solution. -/
structure HintAligned (h : Hypergraph vd hd) (topSolutions : List Partitions) (c : Coarsener)
    (ev : GoldenEvaluator vd hd) (bestSolutionId : Nat) : Prop where
  count : (clusteredHgraph h topSolutions c ev).getNumVertices =
    (initSolution h topSolutions bestSolutionId).length
  agree : ∀ cluster < (clusteredHgraph h topSolutions c ev).getNumVertices,
    ∀ v ∈ (clusteredHgraph h topSolutions c ev).getVertexCAttr cluster,
      blockOf (initSolution h topSolutions bestSolutionId) cluster =
        blockOf (bestSolution topSolutions bestSolutionId) v
  projected : cutOverlayILPPart h topSolutions c ev (fun _ hint => hint) bestSolutionId =
    bestSolution topSolutions bestSolutionId

lemma set_blockOf {solution : Partitions} {v : Nat} (inside : v < solution.length) :
    solution.set v (blockOf solution v) = solution := by
  rw [blockOf, getD_eq_getElem?_getD, getElem?_eq_getElem inside]
  exact set_getElem_self inside

lemma project_hint {ev : GoldenEvaluator vd hd} {bestSolutionId : Nat}
    (agree : ∀ cluster < (clusteredHgraph h topSolutions c ev).getNumVertices,
      ∀ v ∈ (clusteredHgraph h topSolutions c ev).getVertexCAttr cluster,
        v < (bestSolution topSolutions bestSolutionId).length ∧
        blockOf (initSolution h topSolutions bestSolutionId) cluster =
          blockOf (bestSolution topSolutions bestSolutionId) v) :
    cutOverlayILPPart h topSolutions c ev (fun _ hint => hint) bestSolutionId =
      bestSolution topSolutions bestSolutionId := by
  rw [cutOverlayILPPart]
  generalize bestSolution topSolutions bestSolutionId = best at agree ⊢
  have inner : ∀ (vertices : List Nat) (block : Int),
      (∀ v ∈ vertices, v < best.length ∧ block = blockOf best v) →
      vertices.foldl (fun optimal v => optimal.set v block) best = best := by
    intro vertices block
    induction vertices with
    | nil => exact fun _ => rfl
    | cons v rest ih =>
      intro each
      rcases each v mem_cons_self with ⟨inside, same⟩
      rw [foldl_cons, same, set_blockOf inside, ← same]
      exact ih fun w member => each w (mem_cons_of_mem _ member)
  have outer : ∀ clusters : List Nat, (∀ cluster ∈ clusters,
        cluster < (clusteredHgraph h topSolutions c ev).getNumVertices) →
      clusters.foldl (fun optimal cluster =>
        ((clusteredHgraph h topSolutions c ev).getVertexCAttr cluster).foldl
          (fun optimal v => optimal.set v
            (blockOf (initSolution h topSolutions bestSolutionId) cluster)) optimal) best =
        best := by
    intro clusters
    induction clusters with
    | nil => exact fun _ => rfl
    | cons cluster rest ih =>
      intro inside
      rw [foldl_cons, inner _ _ (agree cluster (inside cluster mem_cons_self))]
      exact ih fun other member => inside other (mem_cons_of_mem _ member)
  exact outer _ fun cluster member => mem_range.mp member

open Classical in
/-- The hint fits exactly when the components with fixed vertices come first. -/
theorem hint_aligned_iff (c : Coarsener) (ev : GoldenEvaluator vd hd) (h : Hypergraph vd hd)
    (topSolutions : List Partitions) (bestSolutionId : Nat) (valid : h.Valid)
    (bestInside : bestSolutionId < topSolutions.length)
    (sized : ∀ solution ∈ topSolutions, solution.length = h.getNumVertices)
    (respects : ∀ solution ∈ topSolutions, ∀ v ∈ h.fixedVertices,
      blockOf solution v = h.getFixedAttr v)
    (inRange : ∀ v ∈ h.fixedVertices, h.getFixedAttr v < c.numParts) :
    HintAligned h topSolutions c ev bestSolutionId ↔
      (leaders h topSolutions).map (blockOf (bestSolution topSolutions bestSolutionId)) =
        (fixedBlocks c h).map Int.ofNat ++
          ((leaders h topSolutions).filter (Unfixed h topSolutions)).map
            (blockOf (bestSolution topSolutions bestSolutionId)) := by
  have member : bestSolution topSolutions bestSolutionId ∈ topSolutions := by
    rw [bestSolution, List.getD_eq_getElem?_getD, List.getElem?_eq_getElem bestInside]
    exact getElem_mem bestInside
  have clustered := overlay_clustered (c := c) valid member (respects _ member) inRange
  have counted : (clusteredHgraph h topSolutions c ev).getNumVertices = _ :=
    (groupVertices_count ev (clusterAttr h topSolutions)).trans clustered.count
  have attr : ∀ cluster < (clusteredHgraph h topSolutions c ev).getNumVertices, ∀ v,
      v ∈ (clusteredHgraph h topSolutions c ev).getVertexCAttr cluster ↔
        v < h.getNumVertices ∧ clusterOf (c.clusterBasedGroupInfo h
          (clusterAttr h topSolutions)).vertexClusterIdVec v = cluster := by
    intro cluster inside v
    rw [clusteredHgraph, groupVertices_count] at inside
    rw [clusteredHgraph, groupVertices_attr ev _ inside, mem_filter, mem_range,
      decide_eq_true_eq]
  have hint : initSolution h topSolutions bestSolutionId =
      (leaders h topSolutions).map (blockOf (bestSolution topSolutions bestSolutionId)) := by
    rw [initSolution, overlay_leaders valid]
  rw [← hint]
  change _ ↔ _ = groupedBlocks c h topSolutions (bestSolution topSolutions bestSolutionId)
  constructor
  · intro aligned
    apply ext_getElem?
    intro i
    by_cases inside : i < (clusteredHgraph h topSolutions c ev).getNumVertices
    · rcases clustered.used i (counted ▸ inside) with ⟨v, vInside, cluster⟩
      have same := aligned.agree i inside v ((attr i inside v).mpr ⟨vInside, cluster⟩)
      have there := clustered.agree v vInside
      rw [cluster] at there
      rw [there, ← same, blockOf, List.getD_eq_getElem?_getD,
        List.getElem?_eq_getElem (aligned.count ▸ inside)]
      rfl
    · rw [List.getElem?_eq_none_iff.mpr (by rw [← aligned.count]; omega),
        List.getElem?_eq_none_iff.mpr (by rw [← counted]; omega)]
  · intro same
    have agree : ∀ cluster < (clusteredHgraph h topSolutions c ev).getNumVertices,
        ∀ v ∈ (clusteredHgraph h topSolutions c ev).getVertexCAttr cluster,
          v < (bestSolution topSolutions bestSolutionId).length ∧
          blockOf (initSolution h topSolutions bestSolutionId) cluster =
            blockOf (bestSolution topSolutions bestSolutionId) v := by
      intro cluster inside v vMember
      rcases (attr cluster inside v).mp vMember with ⟨vInside, isCluster⟩
      have there := clustered.agree v vInside
      refine ⟨(sized _ member).symm ▸ vInside, ?_⟩
      rw [isCluster, ← same] at there
      rw [blockOf, List.getD_eq_getElem?_getD, there]
      rfl
    exact ⟨by rw [counted, same], fun cluster inside v vMember => (agree cluster inside v vMember).2,
      project_hint agree⟩

def cutPair (fixedAttr : List Int) : Hypergraph 1 1 :=
  new [[0, 1]] [fun _ => 1, fun _ => 1] [fun _ => 1] fixedAttr [] [] [] []

/-- The first vertex is fixed in block 1, so that its cluster comes first in both numberings. -/
theorem hint_aligned_iff_sample :
    HintAligned (cutPair [1, -1]) [[1, 0]] (Coarsener.mk 10 2) sampleEvaluator 0 := by
  have valid : (cutPair [1, -1]).Valid := by
    refine ⟨rfl, by decide, fun path member => ?_, fun _ => rfl, fun off => ?_, fun _ => rfl⟩
    · cases member
    · cases off
  refine (hint_aligned_iff (Coarsener.mk 10 2) sampleEvaluator (cutPair [1, -1]) [[1, 0]] 0 valid
    (by decide) (by decide) (by decide) (by decide)).mpr ?_
  have two : leaders (cutPair [1, -1]) [[1, 0]] = [0, 1] := by
    rw [← overlay_leaders valid]
    decide
  have fixed : ¬ Unfixed (cutPair [1, -1]) [[1, 0]] 0 :=
    fun unfixed => unfixed 0 (by decide) Relation.ReflTransGen.refl
  have free : Unfixed (cutPair [1, -1]) [[1, 0]] 1 := by
    intro v isFixed linked
    have same := linked_block (List.mem_singleton.mpr rfl) linked
    rw [List.mem_singleton.mp (show v ∈ [0] from isFixed)] at same
    exact absurd same (by decide)
  have noMore : fixedBlocks (Coarsener.mk 10 2) (cutPair [1, -1]) = [1] := by decide
  rw [two, noMore, filter_cons_of_neg (by simpa using fixed),
    filter_cons_of_pos (by simpa using free)]
  rfl

/-- The second vertex is fixed in block 0, so that its cluster comes first. -/
theorem hint_misaligned :
    ¬ HintAligned (cutPair [-1, 0]) [[1, 0]] (Coarsener.mk 10 2) sampleEvaluator 0 := by
  intro aligned
  exact absurd (aligned.agree 0 (by decide) 1 (by decide)) (by decide)

end OpenRoad.Par
