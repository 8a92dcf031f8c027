import OpenRoad.Lib.Runs
import OpenRoad.Par.GainHeapIndex
import OpenRoad.Par.ContractionCost
import OpenRoad.Par.KWayFMRefine

/-! When the flags of the gain buckets say which buckets have elements. -/

namespace OpenRoad.Par

open Lib List
open Option hiding or_assoc

variable {vd hd : Nat} {ev : GoldenEvaluator vd hd} {h : Hypergraph vd hd}

namespace GainHeap

structure Fit (bucket : GainHeap) : Prop where
  indexed : bucket.Indexed fun _ => False
  occupied : bucket.active = true → bucket.vertices ≠ []

def FlagExact (bucket : GainHeap) : Prop := bucket.active = true ↔ bucket.vertices ≠ []

variable {bucket : GainHeap}

lemma Indexed.exists_iff (indexed : bucket.Indexed fun _ => False) (v : Nat) :
    -1 < bucket.verticesMap v ↔ ∃ a ∈ bucket.vertices, a.vertex = v := by
  rcases indexed.position v with ⟨absent, gone⟩ | ⟨i, a, position, found, isVertex⟩
  · constructor
    · intro present
      omega
    · rintro ⟨a, member, isVertex⟩
      exact absurd isVertex (gone a member)
  · exact iff_of_true (by omega) ⟨a, mem_of_getElem? found, isVertex⟩

lemma Indexed.other_iff (indexed : bucket.Indexed fun _ => False) {v : Nat}
    (present : ∃ a ∈ bucket.vertices, a.vertex = v) :
    1 < bucket.vertices.length ↔ ∃ a ∈ bucket.vertices, a.vertex ≠ v := by
  constructor
  · intro two
    have first := List.getElem?_eq_getElem (lt_trans Nat.zero_lt_one two)
    have second := List.getElem?_eq_getElem two
    by_cases isFirst : bucket.vertices[0].vertex = v
    · refine ⟨_, mem_of_getElem? second, fun isSecond => ?_⟩
      exact absurd (indexed.unique first second (isFirst.trans isSecond.symm)) Nat.zero_ne_one
    · exact ⟨_, mem_of_getElem? first, isFirst⟩
  · rintro ⟨b, bMember, differs⟩
    rcases present with ⟨a, aMember, isVertex⟩
    rcases List.getElem?_of_mem aMember with ⟨i, atI⟩
    rcases List.getElem?_of_mem bMember with ⟨j, atJ⟩
    have apart : i ≠ j := by
      rintro rfl
      rw [atI, some.injEq] at atJ
      exact differs (atJ ▸ isVertex)
    have insideI := (List.getElem?_eq_some_iff.mp atI).1
    have insideJ := (List.getElem?_eq_some_iff.mp atJ).1
    omega

lemma remove_fit (fit : bucket.Fit) (v : Nat) : ∃ next, bucket.remove h v = some next ∧ next.Fit ∧
      (next.vertices ≠ [] ↔ ∃ a ∈ bucket.vertices, a.vertex ≠ v) ∧
      (bucket.FlagExact → next.FlagExact) := by
  rcases remove_moved (h := h) fit.indexed v with
    ⟨next, removed, indexed, ⟨rfl, gone⟩ | ⟨shorter, present, active⟩⟩
  · refine ⟨next, removed, fit, ?_, id⟩
    constructor
    · intro notEmpty
      rcases exists_mem_of_ne_nil _ notEmpty with ⟨a, member⟩
      exact ⟨a, member, gone a member⟩
    · rintro ⟨a, member, _⟩
      exact ne_nil_of_mem member
  · have left : next.vertices ≠ [] ↔ ∃ a ∈ bucket.vertices, a.vertex ≠ v := by
      rw [← fit.indexed.other_iff present, ← length_pos_iff]
      omega
    refine ⟨next, removed, ⟨indexed, ?_⟩, left, ?_⟩
    · intro isActive
      rw [active] at isActive
      split at isActive
      · cases isActive
      · rename_i some'
        exact fun none' => some' (by rw [none', length_nil])
    · intro exact
      have wasActive : bucket.active = true := by
        rcases present with ⟨a, member, _⟩
        exact exact.mpr (ne_nil_of_mem member)
      rw [FlagExact, active, wasActive, ← length_pos_iff]
      split
      · rename_i none'
        simp [none']
      · rename_i some'
        exact iff_of_true rfl (Nat.pos_of_ne_zero some')

end GainHeap

open GainHeap

namespace KWayFMRefine

section Updates

variable (ev : GoldenEvaluator vd hd) (h : Hypergraph vd hd) (state : RefineState vd) (part : Nat)
  {bucket : GainHeap}

lemma gainInto_vertex (v : Nat) : (gainInto ev h part state v).vertex = v := by
  rw [gainInto, calculateVertexGain]
  split <;> rfl

lemma updateNeighbor_fit (indexed : bucket.Indexed fun _ => False) (v : Nat) :
    ∃ next, updateNeighbor ev h part state bucket v = some next ∧
      (next.Indexed fun _ => False) ∧ next.active = bucket.active ∧
      (next.vertices ≠ [] ↔ bucket.vertices ≠ [] ∨ blockOf state.solution v ≠ part) := by
  rw [updateNeighbor]
  split
  · rename_i here
    exact ⟨bucket, rfl, indexed, rfl, by simp [here]⟩
  · rename_i outside
    split
    · rename_i present
      rcases changePriority_moved (h := h) indexed (gainInto_vertex ev h state part v) with
        ⟨next, changed, length, indexed', active⟩
      refine ⟨next, changed, indexed', active, iff_of_true ?_ (Or.inr outside)⟩
      rcases (indexed.exists_iff v).mp present with ⟨a, member, _⟩
      rw [← length_pos_iff, length]
      exact length_pos_of_mem member
    · rename_i absent
      have fresh : bucket.verticesMap (gainInto ev h part state v).vertex = -1 := by
        rw [gainInto_vertex]
        exact indexed.absent v id fun a member isVertex =>
          absent ((indexed.exists_iff v).mpr ⟨a, member, isVertex⟩)
      have moved := insertIntoPQ_moved (h := h) indexed fresh
      refine ⟨_, rfl, moved.indexed, moved.active, iff_of_true ?_ (Or.inr outside)⟩
      rw [← length_pos_iff, moved.perm.length_eq, length_append]
      exact Nat.succ_pos _

lemma updateSingleGainBucket_fit (neighbors : List Nat) :
    ∀ bucket : GainHeap, (bucket.Indexed fun _ => False) →
      ∃ next, updateSingleGainBucket ev h neighbors state part bucket = some next ∧
        (next.Indexed fun _ => False) ∧ next.active = bucket.active ∧
        (next.vertices ≠ [] ↔
          bucket.vertices ≠ [] ∨ ∃ v ∈ neighbors, blockOf state.solution v ≠ part) := by
  induction neighbors with
  | nil => exact fun bucket indexed => ⟨bucket, rfl, indexed, rfl, by simp⟩
  | cons v rest ih =>
    intro bucket indexed
    rcases updateNeighbor_fit ev h state part indexed v with
      ⟨next, updated, indexed', active, elements⟩
    rcases ih next indexed' with ⟨last, updated', indexed'', active', elements'⟩
    refine ⟨last, ?_, indexed'', active'.trans active, ?_⟩
    · rw [updateSingleGainBucket, foldlM_cons, updated]
      exact updated'
    · rw [elements', elements, exists_mem_cons_iff, or_assoc]

lemma update_fit (neighbors : List Nat) (bucket : GainHeap) (fit : bucket.Fit) :
    ∃ next, updateSingleGainBucket ev h neighbors state part bucket = some next ∧ next.Fit ∧
      (bucket.FlagExact → (next.FlagExact ↔
        (bucket.vertices = [] → ∀ v ∈ neighbors, blockOf state.solution v = part))) := by
  rcases updateSingleGainBucket_fit ev h state part neighbors
    bucket fit.indexed with ⟨next, updated, indexed, active, elements⟩
  refine ⟨next, updated, ⟨indexed, ?_⟩, ?_⟩
  · intro isActive
    exact elements.mpr (Or.inl (fit.occupied (active ▸ isActive)))
  · intro exact
    rw [FlagExact] at exact
    rw [FlagExact, active, exact, elements]
    constructor
    · intro same empty v member
      by_contra outside
      exact same.mpr (Or.inr ⟨v, member, outside⟩) empty
    · intro inside
      refine ⟨Or.inl, ?_⟩
      rintro (notEmpty | ⟨v, member, outside⟩)
      · exact notEmpty
      · exact fun empty => outside (inside empty v member)

end Updates

lemma forBuckets_spec {change : Nat → GainHeap → Option GainHeap} {pre : GainHeap → Prop}
    {post : Nat → GainHeap → GainHeap → Prop}
    (each : ∀ part bucket, pre bucket → ∃ next, change part bucket = some next ∧
      post part bucket next) (buckets : List GainHeap) :
    ∀ first, (∀ bucket ∈ buckets, pre bucket) →
      ∃ nexts, forBuckets change first buckets = some nexts ∧ nexts.length = buckets.length ∧
        ∀ (i : Nat) (bucket : GainHeap), buckets[i]? = some bucket →
          ∃ next, nexts[i]? = some next ∧ post (first + i) bucket next := by
  induction buckets with
  | nil => exact fun first _ => ⟨[], rfl, rfl, nofun⟩
  | cons bucket rest ih =>
    intro first fits
    rcases each first bucket (fits bucket mem_cons_self) with ⟨next, changed, holds⟩
    rcases ih (first + 1) (fun other member => fits other (mem_cons_of_mem bucket member))
      with ⟨nexts, changed', length, holds'⟩
    refine ⟨next :: nexts, ?_, congrArg Nat.succ length, ?_⟩
    · rw [forBuckets, changed, bind_some, changed']
      rfl
    · intro i other found
      cases i with
      | zero =>
        rw [List.getElem?_cons_zero, some.injEq] at found
        exact ⟨next, rfl, found ▸ holds⟩
      | succ i =>
        rcases holds' i other found with ⟨next', found', holds''⟩
        exact ⟨next', found', by rwa [Nat.add_right_comm, Nat.add_assoc] at holds''⟩

structure Sane (ev : GoldenEvaluator vd hd) (state : PassState vd) : Prop where
  blocks : state.buckets.length = ev.numParts
  fits : ∀ bucket ∈ state.buckets, bucket.Fit

def FlagsExact (state : PassState vd) : Prop := ∀ bucket ∈ state.buckets, bucket.FlagExact

/-- No bucket that has run empty, or was empty, gets a new element. -/
def NoneRefilled (h : Hypergraph vd hd) (state : PassState vd) (gainCell : VertexGain) : Prop :=
  ∀ (part : Nat) (bucket : GainHeap), state.buckets[part]? = some bucket →
    (∀ a ∈ bucket.vertices, a.vertex = gainCell.vertex) →
    ∀ v ∈ findNeighbors h gainCell.vertex
        (acceptVertexGain h gainCell state.refine).visitedVerticesFlag,
      blockOf (acceptVertexGain h gainCell state.refine).solution v = part

lemma forall_places {before after : List GainHeap} (length : after.length = before.length)
    {good : GainHeap → Prop} :
    (∀ bucket ∈ after, good bucket) ↔ ∀ (i : Nat) (bucket next : GainHeap),
      before[i]? = some bucket → after[i]? = some next → good next := by
  constructor
  · intro all i _ next _ found
    exact all next (mem_of_getElem? found)
  · intro all next member
    rcases List.getElem?_of_mem member with ⟨i, found⟩
    have inside := (List.getElem?_eq_some_iff.mp found).1
    exact all i _ next (List.getElem?_eq_getElem (length ▸ inside)) found

variable {state : PassState vd}

lemma moveKWay_spec (gainCell : VertexGain) (sane : Sane ev state) :
    ∃ moved, moveKWay ev h gainCell state = some moved ∧ Sane ev moved ∧
      (FlagsExact state → (FlagsExact moved ↔ NoneRefilled h state gainCell)) := by
  rcases forBuckets_spec (fun _ bucket fit => remove_fit (h := h) fit gainCell.vertex)
    state.buckets 0 sane.fits with ⟨removed, removes, removedLength, isRemoved⟩
  have removedFit : ∀ bucket ∈ removed, bucket.Fit := by
    rw [forall_places removedLength]
    intro i bucket next found found'
    rcases isRemoved i bucket found with ⟨next', isNext, fit, _⟩
    rw [isNext, some.injEq] at found'
    exact found' ▸ fit
  rcases forBuckets_spec (fun part => update_fit ev h (acceptVertexGain h gainCell state.refine) part
    (findNeighbors h gainCell.vertex
      (acceptVertexGain h gainCell state.refine).visitedVerticesFlag)) removed 0 removedFit with
    ⟨updated, updates, updatedLength, isUpdated⟩
  have length := updatedLength.trans removedLength
  refine ⟨⟨acceptVertexGain h gainCell state.refine, updated, state.movesTrace ++ [gainCell]⟩, ?_,
    ⟨length.trans sane.blocks, ?_⟩, ?_⟩
  · have deletes : forBuckets (heapEleDeletion h gainCell.vertex) 0 state.buckets = some removed :=
      removes
    rw [moveKWay, acceptKWayMove, deletes, map_some, bind_some]
    dsimp only
    rw [updates]
    rfl
  · dsimp only
    rw [forall_places updatedLength]
    intro i bucket next found found'
    rcases isUpdated i bucket found with ⟨next', isNext, fit, _⟩
    rw [isNext, some.injEq] at found'
    exact found' ▸ fit
  · intro exact
    rw [FlagsExact, forall_places length]
    have place : ∀ (i : Nat) (bucket next : GainHeap), state.buckets[i]? = some bucket →
        updated[i]? = some next → (next.FlagExact ↔
          ((∀ a ∈ bucket.vertices, a.vertex = gainCell.vertex) →
            ∀ v ∈ findNeighbors h gainCell.vertex
                (acceptVertexGain h gainCell state.refine).visitedVerticesFlag,
              blockOf (acceptVertexGain h gainCell state.refine).solution v = i)) := by
      intro i bucket next found found'
      rcases isRemoved i bucket found with ⟨middle, isMiddle, _, elements, keeps⟩
      rcases isUpdated i middle isMiddle with ⟨next', isNext, _, exact_iff⟩
      rw [isNext, some.injEq] at found'
      have emptied : middle.vertices = [] ↔ ∀ a ∈ bucket.vertices, a.vertex = gainCell.vertex := by
        rw [← not_iff_not, ← ne_eq, elements]
        push Not
        rfl
      rw [← found', exact_iff (keeps (exact bucket (mem_of_getElem? found))), emptied, zero_add]
    constructor
    · intro all part bucket found
      have inside := (List.getElem?_eq_some_iff.mp found).1
      have found' := List.getElem?_eq_getElem (length.symm ▸ inside)
      exact (place part bucket _ found found').mp (all part bucket _ found found')
    · intro none' i bucket next found found'
      exact (place i bucket next found found').mpr (none' i bucket found)

variable (totalCorkingPasses : Nat) (upperBlockBalance lowerBlockBalance : List (Weights vd))

def Legal (h : Hypergraph vd hd) (state : PassState vd) (ele : VertexGain) (part : Nat) : Prop :=
  checkVertexMoveLegality h ele.vertex part ele.sourcePart state.refine.blockBalance
    upperBlockBalance lowerBlockBalance = true

def AtLeast (gain : ℚ) (candidate : Option VertexGain) : Prop :=
  ∃ cell, candidate = some cell ∧ gain ≤ cell.gain

lemma lookAt_spec (sane : Sane ev state) {i : Nat} (inside : i < ev.numParts)
    (picked : Option VertexGain × Option (Nat × ℚ)) :
    ∃ next, lookAt h upperBlockBalance lowerBlockBalance state picked i = some next ∧
      (∀ gain, AtLeast gain picked.1 → AtLeast gain next.1) ∧
      ∀ bucket, state.buckets[i]? = some bucket → bucket.active = true →
        ∀ top, bucket.getMax = some top →
          Legal upperBlockBalance lowerBlockBalance h state top i → AtLeast top.gain next.1 := by
  have isThere : ∃ current, state.buckets[i]? = some current :=
    ⟨_, List.getElem?_eq_getElem (sane.blocks.symm ▸ inside)⟩
  rcases isThere with ⟨current, isThere⟩
  have fit := sane.fits current (mem_of_getElem? isThere)
  rw [lookAt, isThere, bind_some]
  by_cases active : current.active = true
  · rcases exists_cons_of_ne_nil (fit.occupied active) with ⟨ele, others, shape⟩
    have isTop : current.getMax = some ele := by
      rw [getMax, shape]
      rfl
    rw [if_neg (by simp [active]), isTop, map_some]
    refine ⟨_, rfl, ?_, ?_⟩
    · rintro gain ⟨cell, isCell, atLeast⟩
      dsimp only
      rw [isCell]
      dsimp only
      split
      · rename_i better
        exact ⟨ele, rfl, atLeast.trans (of_decide_eq_true better.1).le⟩
      · exact ⟨cell, rfl, atLeast⟩
    · intro bucket found _ top isTop' legal
      rw [some.injEq] at found
      rw [← found, isTop, some.injEq] at isTop'
      rw [Legal, ← isTop'] at legal
      rw [← isTop']
      rcases picked with ⟨none | cell, best⟩
      · dsimp only
        rw [if_pos ⟨rfl, legal⟩]
        exact ⟨ele, rfl, le_rfl⟩
      · dsimp only
        split
        · exact ⟨ele, rfl, le_rfl⟩
        · rename_i notBetter
          exact ⟨cell, rfl, not_lt.mp fun less => notBetter ⟨decide_eq_true less, legal⟩⟩
  · rw [if_pos (by simp [active])]
    refine ⟨picked, rfl, fun _ atLeast => atLeast, ?_⟩
    intro bucket found isActive
    rw [some.injEq] at found
    exact absurd (found ▸ isActive) active

lemma lookAts_spec (sane : Sane ev state) (is : List Nat) :
    ∀ picked : Option VertexGain × Option (Nat × ℚ), (∀ i ∈ is, i < ev.numParts) →
      ∃ next, is.foldlM (lookAt h upperBlockBalance lowerBlockBalance state) picked = some next ∧
        (∀ gain, AtLeast gain picked.1 → AtLeast gain next.1) ∧
        ∀ i ∈ is, ∀ bucket, state.buckets[i]? = some bucket → bucket.active = true →
          ∀ top, bucket.getMax = some top →
            Legal upperBlockBalance lowerBlockBalance h state top i →
            AtLeast top.gain next.1 := by
  induction is with
  | nil => exact fun picked _ => ⟨picked, rfl, fun _ atLeast => atLeast, nofun⟩
  | cons i rest ih =>
    intro picked inside
    rcases lookAt_spec upperBlockBalance lowerBlockBalance (h := h) sane
      (inside i mem_cons_self) picked with ⟨next, looked, keeps, considers⟩
    rcases ih next fun j member => inside j (mem_cons_of_mem i member) with
      ⟨last, looked', keeps', considers'⟩
    refine ⟨last, ?_, fun gain atLeast => keeps' gain (keeps gain atLeast), ?_⟩
    · rw [foldlM_cons, looked]
      exact looked'
    · intro j member bucket found active top isTop legal
      rcases List.mem_cons.mp member with rfl | later
      · exact keeps' _ (considers bucket found active top isTop legal)
      · exact considers' j later bucket found active top isTop legal

/-- The flags are exact, and so the candidate is at least as good as the largest element of any
bucket, if its move is legal. -/
structure NoneOverlooked (ev : GoldenEvaluator vd hd) (h : Hypergraph vd hd)
    (state : PassState vd) : Prop where
  flags : ∀ bucket ∈ state.buckets, bucket.active = true ↔ bucket.vertices ≠ []
  candidate : ∃ candidate, pickMoveKWay ev h totalCorkingPasses upperBlockBalance
      lowerBlockBalance state = some candidate ∧
    ∀ (i : Nat) (bucket : GainHeap) (top : VertexGain), state.buckets[i]? = some bucket →
      bucket.getMax = some top → Legal upperBlockBalance lowerBlockBalance h state top i →
      AtLeast top.gain candidate

lemma pickMoveKWay_spec (sane : Sane ev state) :
    ∃ candidate, pickMoveKWay ev h totalCorkingPasses upperBlockBalance lowerBlockBalance state =
        some candidate ∧
      ∀ (i : Nat) (bucket : GainHeap) (top : VertexGain), state.buckets[i]? = some bucket →
        bucket.active = true → bucket.getMax = some top →
        Legal upperBlockBalance lowerBlockBalance h state top i → AtLeast top.gain candidate := by
  rcases lookAts_spec upperBlockBalance lowerBlockBalance (h := h) sane (List.range ev.numParts)
    (none, none) (fun i member => List.mem_range.mp member) with
    ⟨⟨candidate, best⟩, looked, _, considers⟩
  rw [pickMoveKWay, looked, map_some]
  refine ⟨_, rfl, ?_⟩
  intro i bucket top found active isTop legal
  have inside := (List.getElem?_eq_some_iff.mp found).1
  rw [sane.blocks] at inside
  rcases considers i (List.mem_range.mpr inside) bucket found active top isTop legal with
    ⟨cell, isCell, atLeast⟩
  dsimp only at isCell
  rw [isCell]
  exact ⟨cell, rfl, atLeast⟩

lemma noneOverlooked_iff (sane : Sane ev state) :
    NoneOverlooked totalCorkingPasses upperBlockBalance lowerBlockBalance ev h state ↔
      FlagsExact state := by
  constructor
  · exact fun none' => none'.flags
  · intro exact
    rcases pickMoveKWay_spec totalCorkingPasses upperBlockBalance lowerBlockBalance (h := h) sane
      with ⟨candidate, picked, considers⟩
    refine ⟨exact, candidate, picked, ?_⟩
    intro i bucket top found isTop legal
    refine considers i bucket top found ?_ isTop legal
    apply (exact bucket (mem_of_getElem? found)).mpr
    intro empty
    rw [getMax, empty] at isTop
    cases isTop

variable (ev h) in
lemma insertBoundary_fit (state : RefineState vd) (toPid : Nat) (vs : List Nat) :
    ∀ bucket : GainHeap, vs.Nodup → (bucket.Indexed fun _ => False) →
      (∀ a ∈ bucket.vertices, a.vertex ∉ vs) →
      (vs.foldl (insertBoundary ev h toPid state) bucket).Indexed (fun _ => False) ∧
        (vs.foldl (insertBoundary ev h toPid state) bucket).active = bucket.active := by
  induction vs with
  | nil => exact fun bucket _ indexed _ => ⟨indexed, rfl⟩
  | cons v rest ih =>
    intro bucket nodup indexed apart
    rcases List.nodup_cons.mp nodup with ⟨notLater, nodup'⟩
    have others : ∀ a ∈ bucket.vertices, a.vertex ∉ rest :=
      fun a member later => apart a member (mem_cons_of_mem v later)
    rw [foldl_cons, insertBoundary]
    split
    · exact ih bucket nodup' indexed others
    · have fresh : bucket.verticesMap (gainInto ev h toPid state v).vertex = -1 := by
        rw [gainInto_vertex]
        exact indexed.absent v id fun a member isVertex =>
          apart a member (isVertex ▸ mem_cons_self)
      have moved := insertIntoPQ_moved (h := h) indexed fresh
      rw [← moved.active]
      refine ih _ nodup' moved.indexed ?_
      intro a member
      rcases List.mem_append.mp (moved.perm.mem_iff.mp member) with before | isNew
      · exact others a before
      · rw [List.mem_singleton.mp isNew, gainInto_vertex]
        exact notLater

lemma initialize_spec (ev : GoldenEvaluator vd hd) (h : Hypergraph vd hd)
    (state : RefineState vd) :
    Sane ev (initializeGainBucketsKWay ev h state) ∧
      FlagsExact (initializeGainBucketsKWay ev h state) := by
  have each : ∀ bucket ∈ (initializeGainBucketsKWay ev h state).buckets,
      bucket.Fit ∧ bucket.FlagExact := by
    intro bucket member
    rcases List.mem_map.mp member with ⟨toPid, _, rfl⟩
    have nodup : (findBoundaryVertices ev h state.netDegs state.visitedVerticesFlag).Nodup :=
      List.nodup_range.filter _
    have filled := insertBoundary_fit ev h state toPid _ { GainHeap.new with active := true } nodup
      ⟨nofun, fun _ _ _ => rfl⟩ nofun
    rw [initializeSingleGainBucket]
    dsimp only
    generalize List.foldl _ _ _ = bucket at filled ⊢
    rcases filled with ⟨indexed, active⟩
    split
    · rename_i empty
      refine ⟨⟨⟨indexed.present, indexed.absent⟩, nofun⟩, ?_⟩
      exact iff_of_false nofun (not_not.mpr (List.length_eq_zero_iff.mp empty))
    · rename_i notEmpty
      have some' : bucket.vertices ≠ [] := fun empty => notEmpty (by rw [empty, length_nil])
      exact ⟨⟨indexed, fun _ => some'⟩, iff_of_true active some'⟩
  refine ⟨⟨?_, fun bucket member => (each bucket member).1⟩,
    fun bucket member => (each bucket member).2⟩
  rw [initializeGainBucketsKWay, length_map, length_range]

/-- No active bucket has a legal top of a higher gain. -/
def PicksBest (ev : GoldenEvaluator vd hd) (h : Hypergraph vd hd) (state : PassState vd)
    (cell : VertexGain) : Prop :=
  pickMoveKWay ev h totalCorkingPasses upperBlockBalance lowerBlockBalance state =
      some (some cell) ∧
    ∀ (i : Nat) (bucket : GainHeap) (top : VertexGain), state.buckets[i]? = some bucket →
      bucket.active = true → bucket.getMax = some top →
      Legal upperBlockBalance lowerBlockBalance h state top i → AtLeast top.gain (some cell)

lemma passLoop_spec (moves : Nat) : ∀ {state : PassState vd}, Sane ev state →
    ∃ last cells,
      passLoop ev h totalCorkingPasses upperBlockBalance lowerBlockBalance moves state = some last ∧
      run (step ev h) (some state) cells = some last ∧ cells.length ≤ moves ∧
      EachCall (step ev h) (fun reached cell => ∃ current, reached = some current ∧
        PicksBest totalCorkingPasses upperBlockBalance lowerBlockBalance ev h current cell)
        (some state) cells := by
  induction moves with
  | zero => exact fun {state} _ => ⟨state, [], rfl, rfl, le_refl 0, eachCall_nil⟩
  | succ moves ih =>
    intro state sane
    rcases pickMoveKWay_spec totalCorkingPasses upperBlockBalance lowerBlockBalance (h := h)
      sane with ⟨candidate, picked, best⟩
    rw [passLoop, picked, bind_some]
    cases candidate with
    | none => exact ⟨state, [], rfl, rfl, Nat.zero_le _, eachCall_nil⟩
    | some cell =>
      rcases moveKWay_spec (h := h) cell sane with ⟨moved, isMoved, sane', _⟩
      rcases ih sane' with ⟨last, cells, loops, isRun, short, each⟩
      have first : step ev h (some state) cell = some moved := isMoved
      refine ⟨last, cell :: cells, ?_, ?_, Nat.succ_le_succ short, (eachCall_cons _ _).mpr
        ⟨⟨state, rfl, picked, best⟩, ?_⟩⟩
      · simp only [isMoved, bind_some, loops]
      · rw [run, foldl_cons, first]
        exact isRun
      · rw [first]
        exact each

/-- A pass never reads what is not there, and each of its moves is a best one. -/
theorem pass_picks_best (ev : GoldenEvaluator vd hd) (h : Hypergraph vd hd)
    (state : RefineState vd) (moves : Nat) :
    ∃ last cells,
      passLoop ev h totalCorkingPasses upperBlockBalance lowerBlockBalance moves
        (initializeGainBucketsKWay ev h state) = some last ∧
      run (step ev h) (some (initializeGainBucketsKWay ev h state)) cells = some last ∧
      cells.length ≤ moves ∧
      EachCall (step ev h) (fun reached cell => ∃ current, reached = some current ∧
        PicksBest totalCorkingPasses upperBlockBalance lowerBlockBalance ev h current cell)
        (some (initializeGainBucketsKWay ev h state)) cells :=
  passLoop_spec totalCorkingPasses upperBlockBalance lowerBlockBalance moves
    (initialize_spec ev h state).1

/-- The flags stay exact exactly if no move refills a bucket that has run empty. -/
theorem bucket_flags_exact_iff (ev : GoldenEvaluator vd hd) (h : Hypergraph vd hd)
    (state : RefineState vd) (moves : List VertexGain) :
    (Throughout (step ev h) (fun reached => ∃ current, reached = some current ∧
        NoneOverlooked totalCorkingPasses upperBlockBalance lowerBlockBalance ev h current)
        (some (initializeGainBucketsKWay ev h state)) moves ↔
      EachCall (step ev h) (fun reached cell => ∀ current, reached = some current →
        NoneRefilled h current cell) (some (initializeGainBucketsKWay ev h state)) moves) ∧
    Throughout (step ev h) (fun reached => ∃ current, reached = some current ∧
        (∀ bucket ∈ current.buckets, bucket.active = true → bucket.vertices ≠ []) ∧
        pickMoveKWay ev h totalCorkingPasses upperBlockBalance lowerBlockBalance current ≠ none)
      (some (initializeGainBucketsKWay ev h state)) moves := by
  have keeps : ∀ (reached : Option (PassState vd)) (cell : VertexGain), True →
      (∃ current, reached = some current ∧ Sane ev current) →
      ∃ current, step ev h reached cell = some current ∧ Sane ev current := by
    rintro reached cell _ ⟨current, rfl, sane⟩
    rcases moveKWay_spec (h := h) cell sane with ⟨moved, isMoved, sane', _⟩
    exact ⟨moved, isMoved, sane'⟩
  rcases initialize_spec ev h state with ⟨sane, exact⟩
  constructor
  · apply throughout_iff keeps
    · rintro reached cell _ ⟨current, rfl, currentSane⟩ ⟨again, same, none'⟩
      rw [Option.some.injEq] at same
      rw [← same] at none'
      rcases moveKWay_spec (h := h) cell currentSane with ⟨moved, isMoved, movedSane, exact_iff⟩
      have isStep : step ev h (some current) cell = some moved := isMoved
      rw [isStep]
      simp only [Option.some.injEq, exists_eq_left', forall_eq']
      rw [noneOverlooked_iff _ _ _ movedSane]
      exact exact_iff none'.flags
    · exact fun _ _ => trivial
    · exact ⟨_, rfl, sane⟩
    · exact ⟨_, rfl, (noneOverlooked_iff _ _ _ sane).mpr exact⟩
  · intro front _
    rcases run_invariant keeps (fun _ (_ : _ ∈ front) => trivial) ⟨_, rfl, sane⟩ with
      ⟨current, isCurrent, currentSane⟩
    refine ⟨current, isCurrent, fun bucket member => (currentSane.fits bucket member).occupied, ?_⟩
    rcases pickMoveKWay_spec totalCorkingPasses upperBlockBalance lowerBlockBalance (h := h)
      currentSane with ⟨candidate, picked, _⟩
    rw [picked]
    exact Option.some_ne_none candidate

/-! A chain of three vertices: the last one is fixed in the second block, the others are in the first
one. Once the middle one has moved, the second bucket is inactive when the first one gets in. -/

def chain : Hypergraph 1 1 :=
  Hypergraph.new [[0, 1], [1, 2]] [![1], ![1], ![1]] [![1], ![2]] [-1, -1, 1] [] [] [] []

def chainStart : RefineState 1 where
  totalDeltaGain := 0
  visitedVerticesFlag := [false, false, true]
  solution := [0, 0, 1]
  curPathsCost := []
  blockBalance := [![2], ![1]]
  netDegs := [[2, 0], [1, 1]]

def middleMoves : VertexGain := ⟨1, 0, 1, 2, []⟩

theorem refilled_bucket_overlooked : ¬ ∀ moves : List VertexGain,
      EachCall (step sampleEvaluator chain) (fun reached cell => reached.bind
        (pickMoveKWay sampleEvaluator chain 25 [![4], ![4]] [![0], ![0]]) = some (some cell))
        (some (initializeGainBucketsKWay sampleEvaluator chain chainStart)) moves →
      Throughout (step sampleEvaluator chain) (fun reached => ∃ current, reached = some current ∧
        NoneOverlooked 25 [![4], ![4]] [![0], ![0]] sampleEvaluator chain current)
        (some (initializeGainBucketsKWay sampleEvaluator chain chainStart)) moves := by
  intro allExact
  have picked : EachCall (step sampleEvaluator chain) (fun reached cell => reached.bind
      (pickMoveKWay sampleEvaluator chain 25 [![4], ![4]] [![0], ![0]]) = some (some cell))
      (some (initializeGainBucketsKWay sampleEvaluator chain chainStart)) [middleMoves] :=
    (eachCall_cons _ _).mpr ⟨by with_unfolding_all decide, eachCall_nil⟩
  rcases allExact [middleMoves] picked [middleMoves] (prefix_refl _) with
    ⟨current, isCurrent, none'⟩
  have buckets : (run (step sampleEvaluator chain)
      (some (initializeGainBucketsKWay sampleEvaluator chain chainStart)) [middleMoves]).map
        (fun reached => reached.buckets.map fun bucket => (bucket.active, bucket.vertices.length)) =
      some [(false, 0), (false, 1)] := by with_unfolding_all decide
  rw [isCurrent, Option.map_some, Option.some.injEq] at buckets
  have member : (false, 1) ∈ current.buckets.map
      fun bucket => (bucket.active, bucket.vertices.length) := by
    rw [buckets]
    decide
  rcases List.mem_map.mp member with ⟨bucket, inBuckets, shape⟩
  rw [Prod.mk.injEq] at shape
  have active := (none'.flags bucket inBuckets).mpr fun empty => by
    rw [empty] at shape
    exact Nat.zero_ne_one shape.2
  rw [shape.1] at active
  cases active

end KWayFMRefine

end OpenRoad.Par
