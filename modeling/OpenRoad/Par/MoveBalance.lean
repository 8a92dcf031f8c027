import OpenRoad.Par.Refiner

/-! When the moves that the refiner accepts keep the bounds in every dimension. -/

namespace OpenRoad.Par

open Lib.VectorOrder List PriorityQueue

variable {vd hd : Nat}

lemma balanceOf_modify (balance : List (Weights vd)) (p q : Nat) (f : Weights vd → Weights vd)
    (inside : p < balance.length) :
    balanceOf (balance.modify p f) q = if p = q then f (balanceOf balance q)
      else balanceOf balance q := by
  rw [balanceOf, balanceOf, getD_eq_getElem?_getD, getD_eq_getElem?_getD,
    getElem?_modify]
  by_cases here : p = q
  · rw [← here, getElem?_eq_getElem inside]
    simp
  · simp [here]

lemma moveWeight_length (h : Hypergraph vd hd) (v preId newId : Nat)
    (balance : List (Weights vd)) : (moveWeight h v preId newId balance).length = balance.length := by
  rw [moveWeight, length_modify, length_modify]

lemma balanceOf_moveWeight (h : Hypergraph vd hd) (v : Nat) {preId newId : Nat}
    {balance : List (Weights vd)} (pre : preId < balance.length) (new : newId < balance.length)
    (differ : preId ≠ newId) (pid : Nat) :
    balanceOf (moveWeight h v preId newId balance) pid =
      if pid = newId then balanceOf balance pid + h.getVertexWeights v
      else if pid = preId then balanceOf balance pid - h.getVertexWeights v
      else balanceOf balance pid := by
  rw [moveWeight, balanceOf_modify _ _ _ _ (by rwa [length_modify]),
    balanceOf_modify _ _ _ _ pre]
  by_cases arrives : pid = newId
  · rw [if_pos arrives.symm, if_pos arrives, if_neg (fun same => differ (same.trans arrives))]
  · rw [if_neg (Ne.symm arrives), if_neg arrives]
    by_cases leaves : pid = preId
    · rw [if_pos leaves.symm, if_pos leaves]
    · rw [if_neg (Ne.symm leaves), if_neg leaves]

/-- The block moved to is at most its upper bound, each one moved from at least its lower bound. -/
structure WithinBounds (upper lower after : List (Weights vd)) (toPid : Nat)
    (source : Nat → Prop) : Prop where
  upper : ∀ i, balanceOf after toPid i ≤ balanceOf upper toPid i
  lower : ∀ pid, source pid → ∀ i, balanceOf lower pid i ≤ balanceOf after pid i

section Vertex

variable (h : Hypergraph vd hd) (balance upper lower : List (Weights vd)) (cell : VertexGain)

def toTotal : Weights vd := balanceOf balance cell.destinationPart + h.getVertexWeights cell.vertex

def fromTotal : Weights vd := balanceOf balance cell.sourcePart - h.getVertexWeights cell.vertex

/-- The first dimension in which a total differs from its bound refuses the move, or it speaks for
the later ones. -/
def VertexDecided : Prop :=
  FirstBelow (balanceOf upper cell.destinationPart) (toTotal h balance cell) ∨
    FirstBelow (fromTotal h balance cell) (balanceOf lower cell.sourcePart) ∨
    (FirstDecides (toTotal h balance cell) (balanceOf upper cell.destinationPart) ∧
      FirstDecides (balanceOf lower cell.sourcePart) (fromTotal h balance cell))

def CandidateDecided : Prop :=
  ¬ Below (toTotal h balance cell) (balanceOf upper cell.destinationPart) ∨
    FirstDecides (balanceOf lower cell.sourcePart) (fromTotal h balance cell)

variable {h balance upper lower cell}

lemma withinBounds_vertex (state : RefineState vd)
    (source : cell.sourcePart < state.blockBalance.length)
    (destination : cell.destinationPart < state.blockBalance.length)
    (differ : cell.sourcePart ≠ cell.destinationPart) :
    WithinBounds upper lower (acceptVertexGain h cell state).blockBalance cell.destinationPart
        (· = cell.sourcePart) ↔
      (∀ i, toTotal h state.blockBalance cell i ≤ balanceOf upper cell.destinationPart i) ∧
        ∀ i, balanceOf lower cell.sourcePart i ≤ fromTotal h state.blockBalance cell i := by
  have arrives : balanceOf (acceptVertexGain h cell state).blockBalance cell.destinationPart =
      toTotal h state.blockBalance cell := by
    rw [acceptVertexGain, balanceOf_moveWeight h _ source destination differ, if_pos rfl, toTotal]
  have leaves : balanceOf (acceptVertexGain h cell state).blockBalance cell.sourcePart =
      fromTotal h state.blockBalance cell := by
    rw [acceptVertexGain, balanceOf_moveWeight h _ source destination differ, if_neg differ,
      if_pos rfl, fromTotal]
  constructor
  · intro within
    rw [← arrives, ← leaves]
    exact ⟨within.upper, within.lower _ rfl⟩
  · rintro ⟨above, below⟩
    constructor
    · rw [arrives]
      exact above
    · rintro pid rfl
      rw [leaves]
      exact below

lemma vertex_balanced_iff (state : RefineState vd)
    (source : cell.sourcePart < state.blockBalance.length)
    (destination : cell.destinationPart < state.blockBalance.length)
    (differ : cell.sourcePart ≠ cell.destinationPart) :
    (checkVertexMoveLegality h cell.vertex cell.destinationPart cell.sourcePart state.blockBalance
          upper lower = true →
        WithinBounds upper lower (acceptVertexGain h cell state).blockBalance cell.destinationPart
          (· = cell.sourcePart)) ↔
      VertexDecided h state.blockBalance upper lower cell := by
  have accepted : checkVertexMoveLegality h cell.vertex cell.destinationPart cell.sourcePart
      state.blockBalance upper lower = true ↔
      ¬ FirstBelow (balanceOf upper cell.destinationPart) (toTotal h state.blockBalance cell) ∧
        ¬ FirstBelow (fromTotal h state.blockBalance cell) (balanceOf lower cell.sourcePart) :=
    decide_eq_true_iff
  rw [withinBounds_vertex state source destination differ, accepted, VertexDecided]
  constructor
  · intro safe
    by_cases exceeds : FirstBelow (balanceOf upper cell.destinationPart)
        (toTotal h state.blockBalance cell)
    · exact .inl exceeds
    · by_cases under : FirstBelow (fromTotal h state.blockBalance cell)
          (balanceOf lower cell.sourcePart)
      · exact .inr (.inl under)
      · have within := safe ⟨exceeds, under⟩
        exact .inr (.inr ⟨firstDecides_of_le within.1, firstDecides_of_le within.2⟩)
  · rintro decided ⟨notAbove, notUnder⟩
    rcases decided with exceeds | under | ⟨above, below⟩
    · exact absurd exceeds notAbove
    · exact absurd under notUnder
    · exact ⟨above.le notAbove, below.le notUnder⟩

lemma traverse_checked (check : VertexGain → Bool) (vertices : List VertexGain) (pass : Nat) :
    ∀ index, PriorityQueue.traverse h check vertices pass index = some cell →
      check cell = true := by
  induction pass with
  | zero =>
    intro index found
    cases found
  | succ pass ih =>
    intro index found
    rw [PriorityQueue.traverse] at found
    cases left : (vertices[2 * index + 1]?).filter check with
    | none =>
      cases right : (vertices[2 * index + 2]?).filter check with
      | none =>
        simp only [left, right] at found
        split at found
        · rename_i impossible
          cases impossible
        · exact ih _ found
        · cases found
      | some rightCell =>
        simp only [left, right] at found
        rw [← Option.some.inj found]
        exact (Option.filter_eq_some_iff.mp right).2
    | some leftCell =>
      have leftChecked := (Option.filter_eq_some_iff.mp left).2
      cases right : (vertices[2 * index + 2]?).filter check with
      | none =>
        simp only [left, right] at found
        rw [← Option.some.inj found]
        exact leftChecked
      | some rightCell =>
        have rightChecked := (Option.filter_eq_some_iff.mp right).2
        simp only [left, right] at found
        rw [← Option.some.inj found]
        split
        · exact rightChecked
        · exact leftChecked

lemma getBestCandidate_checked {queue : PriorityQueue}
    (found : queue.getBestCandidate h balance upper lower = some cell) :
    checkBalance h balance upper lower cell = true := by
  rw [getBestCandidate] at found
  cases vertices : queue.vertices with
  | nil =>
    rw [vertices] at found
    cases found
  | cons top others =>
    rw [vertices] at found
    dsimp only at found
    split at found
    · rename_i checked
      rw [← Option.some.inj found]
      exact checked
    · exact traverse_checked _ _ _ _ found

lemma candidate_balanced_iff (state : RefineState vd)
    (source : cell.sourcePart < state.blockBalance.length)
    (destination : cell.destinationPart < state.blockBalance.length)
    (differ : cell.sourcePart ≠ cell.destinationPart) :
    (∀ queue : PriorityQueue, queue.getBestCandidate h state.blockBalance upper lower = some cell →
          WithinBounds upper lower (acceptVertexGain h cell state).blockBalance
            cell.destinationPart (· = cell.sourcePart)) ↔
      CandidateDecided h state.blockBalance upper lower cell := by
  have accepted : checkBalance h state.blockBalance upper lower cell = true ↔
      Below (toTotal h state.blockBalance cell) (balanceOf upper cell.destinationPart) ∧
        FirstBelow (balanceOf lower cell.sourcePart) (fromTotal h state.blockBalance cell) :=
    decide_eq_true_iff
  rw [withinBounds_vertex state source destination differ, CandidateDecided]
  constructor
  · intro safe
    by_cases below : Below (toTotal h state.blockBalance cell)
        (balanceOf upper cell.destinationPart)
    · right
      intro i same less
      -- a heap of this one move offers it
      have offered : getBestCandidate h ⟨[cell], 0⟩ state.blockBalance upper lower =
          some cell := by
        simp only [getBestCandidate]
        rw [if_pos (accepted.mpr ⟨below, i, same, less⟩)]
      exact fun j _ => (safe _ offered).2 j
    · exact .inl below
  · intro decided queue found
    rcases accepted.mp (getBestCandidate_checked found) with ⟨below, above⟩
    rcases decided with exceeds | first
    · exact absurd below exceeds
    · exact ⟨fun i => (below i).le, first.le_of_firstBelow above⟩

end Vertex

section Hyperedge

variable (h : Hypergraph vd hd)

def listedWeight (vs : List Nat) (keep : Nat → Prop) [DecidablePred keep] : Weights vd :=
  ((vs.filter fun v => keep v).map h.getVertexWeights).sum

def presentWeight (vs : List Nat) (keep : Nat → Prop) [DecidablePred keep] : Weights vd :=
  ∑ v ∈ vs.toFinset with keep v, h.getVertexWeights v

lemma listedWeight_cons (v : Nat) (rest : List Nat) (keep : Nat → Prop) [DecidablePred keep] :
    listedWeight h (v :: rest) keep =
      (if keep v then h.getVertexWeights v else 0) + listedWeight h rest keep := by
  rw [listedWeight, listedWeight, filter_cons]
  by_cases kept : keep v
  · simp [kept]
  · simp [kept]

def countedTotal (solution : Partitions) (balance : List (Weights vd)) (vs : List Nat)
    (toPid pid : Nat) : Weights vd :=
  if pid = toPid then
    balanceOf balance pid + listedWeight h vs fun v => blockOf solution v ≠ toPid
  else balanceOf balance pid - listedWeight h vs fun v => blockOf solution v = pid

def movedTotal (solution : Partitions) (balance : List (Weights vd)) (vs : List Nat)
    (toPid pid : Nat) : Weights vd :=
  if pid = toPid then
    balanceOf balance pid + presentWeight h vs fun v => blockOf solution v ≠ toPid
  else balanceOf balance pid - presentWeight h vs fun v => blockOf solution v = pid

def IsSource (solution : Partitions) (vs : List Nat) (toPid pid : Nat) : Prop :=
  pid ≠ toPid ∧ ∃ v ∈ vs, blockOf solution v = pid

/-- The move is refused, or bounds kept in one dimension are kept in all of them. -/
def HyperedgeDecided (numParts : Nat) (solution : Partitions)
    (balance upper lower : List (Weights vd)) (vs : List Nat) (toPid : Nat) : Prop :=
  (h.fixedVertexFlag = true ∧ ∃ v ∈ vs, h.getFixedAttr v ≠ toPid) ∨
    Below (balanceOf upper toPid) (countedTotal h solution balance vs toPid toPid) ∨
    (∃ pid < numParts, pid ≠ toPid ∧
      Below (countedTotal h solution balance vs toPid pid) (balanceOf lower pid)) ∨
    (((∃ i, countedTotal h solution balance vs toPid toPid i ≤ balanceOf upper toPid i) →
        ∀ i, movedTotal h solution balance vs toPid toPid i ≤ balanceOf upper toPid i) ∧
      ∀ pid, IsSource solution vs toPid pid →
        (∃ i, balanceOf lower pid i ≤ countedTotal h solution balance vs toPid pid i) →
          ∀ i, balanceOf lower pid i ≤ movedTotal h solution balance vs toPid pid i)

variable {h} {solution : Partitions} {toPid : Nat}

lemma updateBlockBalance_spec (vs : List Nat) : ∀ balance : List (Weights vd),
      (∀ v ∈ vs, 0 ≤ blockOf solution v ∧ blockOf solution v < balance.length) →
      toPid < balance.length →
      ((h.fixedVertexFlag = true ∧ ∃ v ∈ vs, h.getFixedAttr v ≠ toPid) ∧
          updateBlockBalance h toPid solution vs balance = none) ∨
        ¬ (h.fixedVertexFlag = true ∧ ∃ v ∈ vs, h.getFixedAttr v ≠ toPid) ∧
          ∃ counted, updateBlockBalance h toPid solution vs balance = some counted ∧
            ∀ pid, balanceOf counted pid = countedTotal h solution balance vs toPid pid := by
  induction vs with
  | nil =>
    intro balance _ _
    right
    refine ⟨fun some => not_mem_nil some.2.choose_spec.1, balance, rfl, ?_⟩
    intro pid
    rw [countedTotal]
    split
    · exact (add_zero _).symm
    · exact (sub_zero _).symm
  | cons v rest ih =>
    intro balance blocks inside
    rw [updateBlockBalance]
    by_cases violates : h.fixedVertexFlag = true ∧ h.getFixedAttr v ≠ toPid
    · rw [if_pos violates]
      exact .inl ⟨⟨violates.1, v, mem_cons_self, violates.2⟩, rfl⟩
    · rw [if_neg violates]
      have bounds := blocks v mem_cons_self
      have fromInside : (blockOf solution v).toNat < balance.length := by omega
      have isBlock : ∀ pid : Nat, (blockOf solution v).toNat = pid ↔ blockOf solution v = pid := by
        intro pid
        omega
      have restBlocks : ∀ w ∈ rest, 0 ≤ blockOf solution w ∧ blockOf solution w < balance.length :=
        fun w member => blocks w (mem_cons_of_mem _ member)
      have agree : (h.fixedVertexFlag = true ∧ ∃ w ∈ v :: rest, h.getFixedAttr w ≠ toPid) ↔
          (h.fixedVertexFlag = true ∧ ∃ w ∈ rest, h.getFixedAttr w ≠ toPid) := by
        apply and_congr_right
        intro flag
        rw [exists_mem_cons_iff]
        exact or_iff_right fun other => violates ⟨flag, other⟩
      rw [agree]
      dsimp only
      by_cases moves : blockOf solution v ≠ toPid
      · rw [if_pos moves]
        refine (ih _ ?_ ?_).imp_right (And.imp_right ?_)
        · rwa [length_modify, length_modify]
        · rwa [length_modify, length_modify]
        · rintro ⟨counted, found, totals⟩
          refine ⟨counted, found, ?_⟩
          intro pid
          rw [totals pid, countedTotal, countedTotal,
            balanceOf_modify _ _ _ _ (by rwa [length_modify]),
            balanceOf_modify _ _ _ _ inside, listedWeight_cons, listedWeight_cons, if_pos moves]
          by_cases arrives : pid = toPid
          · have stays : ¬ (blockOf solution v).toNat = pid := by
              rw [isBlock, arrives]
              exact moves
            rw [if_pos arrives, if_pos arrives, if_pos arrives.symm, if_neg stays, add_assoc]
          · rw [if_neg arrives, if_neg arrives, if_neg (Ne.symm arrives)]
            by_cases leaves : blockOf solution v = pid
            · rw [if_pos leaves, if_pos ((isBlock pid).mpr leaves), sub_sub]
            · rw [if_neg leaves, if_neg (fun same => leaves ((isBlock pid).mp same)), zero_add]
      · rw [if_neg moves]
        refine (ih balance restBlocks inside).imp_right (And.imp_right ?_)
        rintro ⟨counted, found, totals⟩
        refine ⟨counted, found, ?_⟩
        intro pid
        rw [totals pid, countedTotal, countedTotal, listedWeight_cons, listedWeight_cons,
          if_neg moves, zero_add]
        by_cases arrives : pid = toPid
        · rw [if_pos arrives, if_pos arrives]
        · have stays : ¬ blockOf solution v = pid := by
            rw [not_not.mp moves]
            exact fun same => arrives (Int.ofNat.inj same).symm
          rw [if_neg arrives, if_neg arrives, if_neg stays, zero_add]

lemma presentWeight_congr {vs : List Nat} {keep keep' : Nat → Prop} [DecidablePred keep]
    [DecidablePred keep'] (same : ∀ v, keep v ↔ keep' v) :
    presentWeight h vs keep = presentWeight h vs keep' :=
  Finset.sum_congr (Finset.filter_congr fun v _ => same v) fun _ _ => rfl

lemma presentWeight_cons (v : Nat) (rest : List Nat) (keep : Nat → Prop) [DecidablePred keep] :
    presentWeight h (v :: rest) keep = (if keep v then h.getVertexWeights v else 0) +
        presentWeight h rest fun u => u ≠ v ∧ keep u := by
  have others : rest.toFinset.filter (fun u => u ≠ v ∧ keep u) =
      (rest.toFinset.filter keep).erase v := by
    ext u
    simp only [Finset.mem_filter, Finset.mem_erase]
    tauto
  rw [presentWeight, presentWeight, toFinset_cons, Finset.filter_insert, others]
  by_cases kept : keep v
  · rw [if_pos kept, if_pos kept, ← Finset.sum_erase_add _ _ (Finset.mem_insert_self v _),
      Finset.erase_insert_eq_erase, add_comm]
  · have absent : v ∉ rest.toFinset.filter keep := fun member =>
      kept (Finset.mem_filter.mp member).2
    rw [if_neg kept, if_neg kept, zero_add, Finset.erase_eq_of_notMem absent]

lemma moveTo_total (vs : List Nat) :
    ∀ state : RefineState vd, (∀ v ∈ vs, v < state.solution.length) →
      (∀ v ∈ vs, 0 ≤ blockOf state.solution v ∧
        blockOf state.solution v < state.blockBalance.length) →
      toPid < state.blockBalance.length → ∀ pid,
        balanceOf (vs.foldl (moveTo h toPid) state).blockBalance pid =
          movedTotal h state.solution state.blockBalance vs toPid pid := by
  induction vs with
  | nil =>
    intro state _ _ _ pid
    rw [movedTotal]
    split
    · exact (add_zero _).symm
    · exact (sub_zero _).symm
  | cons v rest ih =>
    intro state members blocks inside pid
    have bounds := blocks v mem_cons_self
    have isVertex := members v mem_cons_self
    rw [foldl_cons, moveTo]
    by_cases stays : blockOf state.solution v = toPid
    · rw [if_pos stays, ih state (fun w member => members w (mem_cons_of_mem _ member))
        (fun w member => blocks w (mem_cons_of_mem _ member)) inside, movedTotal, movedTotal,
        presentWeight_cons, presentWeight_cons]
      by_cases arrives : pid = toPid
      · rw [if_pos arrives, if_pos arrives, if_neg (not_not.mpr stays), zero_add]
        congr 1
        apply presentWeight_congr
        intro u
        constructor
        · exact fun moves => ⟨fun same => moves (same ▸ stays), moves⟩
        · exact And.right
      · have other : ¬ blockOf state.solution v = pid := by
          rw [stays]
          exact fun same => arrives (Int.ofNat.inj same).symm
        rw [if_neg arrives, if_neg arrives, if_neg other, zero_add]
        congr 1
        apply presentWeight_congr
        intro u
        constructor
        · exact fun leaves => ⟨fun same => other (same ▸ leaves), leaves⟩
        · exact And.right
    · rw [if_neg stays]
      have isBlock : ∀ pid : Nat,
          pid = (blockOf state.solution v).toNat ↔ blockOf state.solution v = pid := by
        intro pid
        omega
      have fromInside : (blockOf state.solution v).toNat < state.blockBalance.length := by omega
      have differ : (blockOf state.solution v).toNat ≠ toPid := fun same =>
        stays ((isBlock toPid).mp same.symm)
      rw [ih]
      · rw [movedTotal, movedTotal, balanceOf_moveWeight h v fromInside inside differ,
          presentWeight_cons, presentWeight_cons]
        by_cases arrives : pid = toPid
        · rw [if_pos arrives, if_pos arrives, if_pos arrives, if_pos stays, add_assoc]
          congr 2
          apply presentWeight_congr
          intro u
          rw [blockOf_set _ _ _ _ isVertex]
          by_cases same : v = u
          · simp [same]
          · simp [same, Ne.symm same]
        · rw [if_neg arrives, if_neg arrives, if_neg arrives]
          have others : presentWeight h rest (fun u => blockOf (state.solution.set v toPid) u = pid) =
              presentWeight h rest fun u => u ≠ v ∧ blockOf state.solution u = pid := by
            apply presentWeight_congr
            intro u
            rw [blockOf_set _ _ _ _ isVertex]
            by_cases same : v = u
            · simpa [same] using Ne.symm arrives
            · simp [same, Ne.symm same]
          rw [others]
          by_cases leaves : blockOf state.solution v = pid
          · rw [if_pos leaves, if_pos ((isBlock pid).mpr leaves), sub_sub]
          · rw [if_neg leaves, if_neg (fun same => leaves ((isBlock pid).mp same)), zero_add]
      · intro w member
        rw [length_set]
        exact members w (mem_cons_of_mem _ member)
      · intro w member
        have old := blocks w (mem_cons_of_mem _ member)
        rw [blockOf_set _ _ _ _ isVertex, moveWeight_length]
        split
        · omega
        · exact old
      · rwa [moveWeight_length]

/-- Balances for every block, and vertices in blocks. -/
structure Balanced (numParts : Nat) (h : Hypergraph vd hd) (state : RefineState vd) : Prop where
  balances : state.blockBalance.length = numParts
  vertices : ∀ e, ∀ v ∈ h.vertices e, v < state.solution.length
  blocks : ∀ v < state.solution.length,
    0 ≤ blockOf state.solution v ∧ blockOf state.solution v < numParts

lemma hyperedge_balanced_iff {numParts : Nat} {state : RefineState vd}
    (balanced : Balanced numParts h state) (upper lower : List (Weights vd)) (gain : HyperedgeGain)
    (destination : gain.destinationPart < numParts) :
    (checkHyperedgeMoveLegality h numParts gain.hyperedge gain.destinationPart state.solution
          state.blockBalance upper lower = true →
        WithinBounds upper lower (acceptHyperedgeGain h gain state).blockBalance
          gain.destinationPart
          (IsSource state.solution (h.vertices gain.hyperedge) gain.destinationPart)) ↔
      HyperedgeDecided h numParts state.solution state.blockBalance upper lower
        (h.vertices gain.hyperedge) gain.destinationPart := by
  have members := balanced.vertices gain.hyperedge
  have blocks : ∀ v ∈ h.vertices gain.hyperedge, 0 ≤ blockOf state.solution v ∧
      blockOf state.solution v < state.blockBalance.length := by
    intro v member
    rw [balanced.balances]
    exact balanced.blocks v (members v member)
  have inside : gain.destinationPart < state.blockBalance.length := by rwa [balanced.balances]
  have moved : ∀ pid, balanceOf (acceptHyperedgeGain h gain state).blockBalance pid =
      movedTotal h state.solution state.blockBalance (h.vertices gain.hyperedge)
        gain.destinationPart pid := moveTo_total _ _ members blocks inside
  have counts := updateBlockBalance_spec (h := h) (h.vertices gain.hyperedge) state.blockBalance
    blocks inside
  rw [checkHyperedgeMoveLegality, HyperedgeDecided]
  generalize h.vertices gain.hyperedge = vs at members blocks moved counts ⊢
  have sourceInside : ∀ pid, IsSource state.solution vs gain.destinationPart pid →
      pid < numParts ∧ pid ≠ gain.destinationPart := by
    rintro pid ⟨differ, v, member, same⟩
    have bounds := balanced.blocks v (members v member)
    exact ⟨by omega, differ⟩
  rcases counts with ⟨violates, refused⟩ | ⟨legal, counted, found, totals⟩
  · rw [refused]
    exact iff_of_true (fun accepted => absurd accepted Bool.false_ne_true) (.inl violates)
  · rw [found]
    simp only [decide_eq_true_eq, totals]
    rw [or_iff_right legal]
    constructor
    · intro safe
      by_cases exceeds : Below (balanceOf upper gain.destinationPart)
          (countedTotal h state.solution state.blockBalance vs gain.destinationPart
            gain.destinationPart)
      · exact .inl exceeds
      · by_cases under : ∃ pid < numParts, pid ≠ gain.destinationPart ∧
            Below (countedTotal h state.solution state.blockBalance vs gain.destinationPart pid)
              (balanceOf lower pid)
        · exact .inr (.inl under)
        · have within := safe ⟨exceeds, fun pid below differ less =>
            under ⟨pid, below, differ, less⟩⟩
          refine .inr (.inr ⟨fun _ => ?_, fun pid source _ => ?_⟩)
          · rw [← moved]
            exact within.upper
          · rw [← moved]
            exact within.lower pid source
    · rintro decided ⟨notAbove, notUnder⟩
      rcases decided with exceeds | ⟨pid, below, differ, less⟩ | ⟨above, below⟩
      · exact absurd exceeds notAbove
      · exact absurd less (notUnder pid below differ)
      · constructor
        · rw [moved]
          exact above (not_below_iff.mp notAbove)
        · intro pid source
          rw [moved]
          have isBlock := sourceInside pid source
          exact below pid source (not_below_iff.mp (notUnder pid isBlock.1 isBlock.2))

end Hyperedge

/-- Accepted moves keep the bounds exactly when the comparison of the vectors speaks for all
dimensions. -/
theorem accepted_moves_balanced_iff {numParts : Nat} {h : Hypergraph vd hd}
    {state : RefineState vd} (balanced : Balanced numParts h state)
    (upper lower : List (Weights vd)) :
    (∀ cell : VertexGain, cell.sourcePart < numParts → cell.destinationPart < numParts →
      cell.sourcePart ≠ cell.destinationPart →
        ((checkVertexMoveLegality h cell.vertex cell.destinationPart cell.sourcePart
              state.blockBalance upper lower = true →
            WithinBounds upper lower (acceptVertexGain h cell state).blockBalance
              cell.destinationPart (· = cell.sourcePart)) ↔
          VertexDecided h state.blockBalance upper lower cell) ∧
        ((∀ queue : PriorityQueue,
            queue.getBestCandidate h state.blockBalance upper lower = some cell →
              WithinBounds upper lower (acceptVertexGain h cell state).blockBalance
                cell.destinationPart (· = cell.sourcePart)) ↔
          CandidateDecided h state.blockBalance upper lower cell)) ∧
    ∀ gain : HyperedgeGain, gain.destinationPart < numParts →
      ((checkHyperedgeMoveLegality h numParts gain.hyperedge gain.destinationPart state.solution
            state.blockBalance upper lower = true →
          WithinBounds upper lower (acceptHyperedgeGain h gain state).blockBalance
            gain.destinationPart
            (IsSource state.solution (h.vertices gain.hyperedge) gain.destinationPart)) ↔
        HyperedgeDecided h numParts state.solution state.blockBalance upper lower
          (h.vertices gain.hyperedge) gain.destinationPart) := by
  constructor
  · intro cell source destination differ
    rw [← balanced.balances] at source destination
    exact ⟨vertex_balanced_iff state source destination differ,
      candidate_balanced_iff state source destination differ⟩
  · exact fun gain destination => hyperedge_balanced_iff balanced upper lower gain destination

/-- One vertex, of weight one in the first dimension and five in the second. -/
def oneVertex : Hypergraph 2 1 where
  vertexWeights := [![1, 5]]
  hyperedgeWeights := [![1]]
  hyperedges := [[0]]
  fixedVertexFlag := false
  fixedAttr := []
  communityFlag := false
  communityAttr := []
  timingFlag := false
  hyperedgeTimingAttr := []
  hyperedgeTimingCost := []
  hyperedgeArcSet := []
  timingPaths := []
  pathTimingCost := []
  vertexCAttr := []

def inFirstBlock : RefineState 2 where
  totalDeltaGain := 0
  visitedVerticesFlag := [false]
  solution := [0]
  curPathsCost := []
  blockBalance := [![10, 5], ![0, 0]]
  netDegs := [[1, 0]]

lemma inFirstBlock_balanced : Balanced 2 oneVertex inFirstBlock := by
  constructor
  · rfl
  · intro e v member
    cases e with
    | zero => simp_all [Hypergraph.vertices, oneVertex, inFirstBlock]
    | succ e => simp [Hypergraph.vertices, oneVertex] at member
  · decide

theorem accepted_moves_balanced_iff_sample :
    (checkVertexMoveLegality oneVertex 0 1 0 inFirstBlock.blockBalance [![20, 20], ![5, 10]]
          [![0, 0], ![0, 0]] = true →
        WithinBounds [![20, 20], ![5, 10]] [![0, 0], ![0, 0]]
          (acceptVertexGain oneVertex ⟨0, 0, 1, 1, []⟩ inFirstBlock).blockBalance 1 (· = 0)) ↔
      VertexDecided oneVertex inFirstBlock.blockBalance [![20, 20], ![5, 10]] [![0, 0], ![0, 0]]
        ⟨0, 0, 1, 1, []⟩ :=
  ((accepted_moves_balanced_iff inFirstBlock_balanced [![20, 20], ![5, 10]]
    [![0, 0], ![0, 0]]).1 ⟨0, 0, 1, 1, []⟩ (by decide) (by decide) (by decide)).1

/-- The first block keeps its lower bound in the first dimension only, and all checks let the vertex
go. -/
theorem second_dimension_ignored :
    checkVertexMoveLegality oneVertex 0 1 0 inFirstBlock.blockBalance [![20, 20], ![5, 10]]
        [![0, 2], ![0, 0]] = true ∧
      getBestCandidate oneVertex ⟨[⟨0, 0, 1, 1, []⟩], 25⟩ inFirstBlock.blockBalance
        [![20, 20], ![5, 10]] [![0, 2], ![0, 0]] = some ⟨0, 0, 1, 1, []⟩ ∧
      checkHyperedgeMoveLegality oneVertex 2 0 1 inFirstBlock.solution inFirstBlock.blockBalance
        [![20, 20], ![5, 10]] [![0, 2], ![0, 0]] = true ∧
      ¬ WithinBounds [![20, 20], ![5, 10]] [![0, 2], ![0, 0]]
        (acceptVertexGain oneVertex ⟨0, 0, 1, 1, []⟩ inFirstBlock).blockBalance 1 (· = 0) ∧
      ¬ WithinBounds [![20, 20], ![5, 10]] [![0, 2], ![0, 0]]
        (acceptHyperedgeGain oneVertex ⟨0, 1, 1, []⟩ inFirstBlock).blockBalance 1
        (IsSource inFirstBlock.solution [0] 1) := by
  refine ⟨by with_unfolding_all decide, by with_unfolding_all decide,
    by with_unfolding_all decide, ?_, ?_⟩
  · intro within
    exact absurd (within.lower 0 rfl 1) (by with_unfolding_all decide)
  · intro within
    exact absurd (within.lower 0 ⟨by decide, 0, by decide, rfl⟩ 1) (by with_unfolding_all decide)

end OpenRoad.Par
