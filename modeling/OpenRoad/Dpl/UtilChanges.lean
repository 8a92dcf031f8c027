import OpenRoad.Dpl.UtilAreas
import OpenRoad.Dpl.ObjectiveRuns

/-! One evaluated move: what becomes of the bins, and what is left when it is rejected. -/

namespace OpenRoad.Dpl

open OpenRoad.Lib List Function DetailedABU

/-- Bins that were touched since a state remember the utilisation that they had there. -/
structure Changing (base abu : DetailedABU) : Prop where
  arch : abu.arch = base.arch
  target : abu.abuTargUt = base.abuTargUt
  fixedArea : abu.f_util = base.f_util
  buckets : abu.buckets = base.buckets
  counter : abu.abuChangedBinsCounter = base.abuChangedBinsCounter
  nodup : abu.abuChangedBins.Nodup
  mem : ∀ b, b ∈ abu.abuChangedBins ↔ abu.abuChangedBinsMask b = abu.abuChangedBinsCounter
  mask : ∀ b, abu.abuChangedBinsMask b ≤ abu.abuChangedBinsCounter
  kept : ∀ b, b ∉ abu.abuChangedBins → abu.m_util b = base.m_util b
  old : ∀ b ∈ abu.abuChangedBins, abu.c_util b = base.m_util b

lemma touch_m_util (abu : DetailedABU) (b : Nat) (amount : ℚ) :
    (abu.touch b amount).m_util = update abu.m_util b (abu.m_util b + amount) := by
  simp only [DetailedABU.touch]
  split <;> rfl

lemma Changing.touch {base abu : DetailedABU} (changing : Changing base abu) (b : Nat)
    (amount : ℚ) : Changing base (abu.touch b amount) := by
  by_cases fresh : abu.abuChangedBinsMask b = abu.abuChangedBinsCounter
  · have inside := (changing.mem b).mpr fresh
    simp only [DetailedABU.touch, if_neg (not_not.mpr fresh)]
    refine ⟨changing.arch, changing.target, changing.fixedArea, changing.buckets, changing.counter,
      changing.nodup, changing.mem, changing.mask, ?_, changing.old⟩
    intro c outside
    dsimp only at outside ⊢
    have differ : c ≠ b := fun same => outside (same ▸ inside)
    rw [update_of_ne differ]
    exact changing.kept c outside
  · have outside : b ∉ abu.abuChangedBins := fun inside => fresh ((changing.mem b).mp inside)
    simp only [DetailedABU.touch, if_pos fresh]
    refine ⟨changing.arch, changing.target, changing.fixedArea, changing.buckets, changing.counter,
      ?_, ?_, ?_, ?_, ?_⟩
    · dsimp only
      rw [← concat_eq_append]
      exact changing.nodup.concat outside
    · intro c
      dsimp only
      by_cases same : c = b
      · rw [same, update_self]
        exact iff_of_true (by simp) rfl
      · rw [update_of_ne same, ← changing.mem c, mem_append, mem_singleton]
        exact or_iff_left same
    · intro c
      dsimp only
      by_cases same : c = b
      · rw [same, update_self]
      · rw [update_of_ne same]
        exact changing.mask c
    · intro c notChanged
      dsimp only at notChanged ⊢
      rw [mem_append, mem_singleton, not_or] at notChanged
      rw [update_of_ne notChanged.2]
      exact changing.kept c notChanged.1
    · intro c isChanged
      dsimp only at isChanged ⊢
      by_cases same : c = b
      · rw [same, update_self]
        exact changing.kept b outside
      · rw [update_of_ne same]
        rcases mem_append.mp isChanged with before | last
        · exact changing.old c before
        · exact absurd (mem_singleton.mp last) same

def touchAll (arch : Architecture) (nd : Node) (addSub : ℚ) (places : List Nat)
    (abu : DetailedABU) : DetailedABU :=
  places.foldl (fun abu binId =>
    match arch.common_area binId nd with
    | some area => abu.touch binId (area * addSub)
    | none => abu) abu

lemma touchAll_spec {base : DetailedABU} (nd : Node) (addSub : ℚ) (places : List Nat)
    (nodup : places.Nodup) :
    ∀ {abu : DetailedABU}, Changing base abu →
      Changing base (touchAll base.arch nd addSub places abu) ∧
      ∀ b, (touchAll base.arch nd addSub places abu).m_util b = abu.m_util b +
        if b ∈ places then (base.arch.common_area b nd).getD 0 * addSub else 0 := by
  induction places with
  | nil =>
    intro abu changing
    exact ⟨changing, fun b => by simp [touchAll]⟩
  | cons place places ih =>
    intro abu changing
    have outside := (nodup_cons.mp nodup).1
    have split : ∀ b, b ≠ place → (b ∈ place :: places ↔ b ∈ places) := by
      intro b differ
      simp [differ]
    cases common : base.arch.common_area place nd with
    | none =>
      have step : touchAll base.arch nd addSub (place :: places) abu =
          touchAll base.arch nd addSub places abu := by
        rw [touchAll, foldl_cons, common]
        rfl
      rcases ih (nodup_cons.mp nodup).2 changing with ⟨changing', sums⟩
      rw [step]
      refine ⟨changing', fun b => ?_⟩
      rw [sums]
      by_cases same : b = place
      · rw [same, if_neg outside, if_pos mem_cons_self, common]
        simp
      · simp only [split b same]
    | some area =>
      have step : touchAll base.arch nd addSub (place :: places) abu =
          touchAll base.arch nd addSub places (abu.touch place (area * addSub)) := by
        rw [touchAll, foldl_cons, common]
        rfl
      rcases ih (nodup_cons.mp nodup).2 (changing.touch place (area * addSub)) with
        ⟨changing', sums⟩
      rw [step]
      refine ⟨changing', fun b => ?_⟩
      rw [sums, touch_m_util]
      by_cases same : b = place
      · rw [same, if_neg outside, if_pos mem_cons_self, common, update_self]
        simp
      · simp only [split b same, update_of_ne same]

lemma updateBins_spec {base abu abu' : DetailedABU} (units : 0 < base.arch.abuGridUnit)
    (changing : Changing base abu) {nd : Node} {addSub : ℚ}
    (done : abu.updateBins nd addSub = .ok abu') :
    Changing base abu' ∧ ∀ b, abu'.m_util b = abu.m_util b + base.arch.share b nd * addSub := by
  rw [updateBins] at done
  split at done
  · cases done
  · rw [changing.arch] at done
    have isAll : abu' = touchAll base.arch nd addSub (base.arch.binsUnder nd) abu :=
      (Except.ok.inj done).symm
    rcases touchAll_spec nd addSub _ (binsUnder_nodup base.arch nd) changing with ⟨changing', sums⟩
    rw [isAll]
    refine ⟨changing', fun b => ?_⟩
    rw [sums]
    by_cases isUnder : b ∈ base.arch.binsUnder nd
    · rw [if_pos isUnder, share_of_common (binsUnder_lt isUnder)]
    · rw [if_neg isUnder, share_outside units isUnder, zero_mul]

lemma updateAll_spec {base : DetailedABU} (units : 0 < base.arch.abuGridUnit)
    {nodes : Nat → Node} {addSub : ℚ} (cells : List Nat) :
    ∀ {abu abu' : DetailedABU}, Changing base abu → updateAll nodes cells addSub abu = .ok abu' →
      Changing base abu' ∧ ∀ b, abu'.m_util b = abu.m_util b +
        (cells.map fun n => base.arch.share b (nodes n)).sum * addSub := by
  induction cells with
  | nil =>
    intro abu abu' changing done
    cases done
    exact ⟨changing, fun b => by simp⟩
  | cons n cells ih =>
    intro abu abu' changing done
    rw [updateAll, foldlM_cons] at done
    rcases except_bind_ok done with ⟨mid, first, rest⟩
    rcases updateBins_spec units changing first with ⟨changing', sum⟩
    rcases ih changing' rest with ⟨changing'', sums⟩
    refine ⟨changing'', fun b => ?_⟩
    rw [sums, sum, map_cons, sum_cons]
    ring

lemma updateAll_ok {nodes : Nat → Node} {addSub : ℚ} (cells : List Nat)
    (movable : ∀ n ∈ cells, Movable nodes n = true) :
    ∀ abu : DetailedABU, ∃ abu', updateAll nodes cells addSub abu = .ok abu' := by
  induction cells with
  | nil => exact fun abu => ⟨abu, rfl⟩
  | cons n cells ih =>
    intro abu
    have isMovable := movable n mem_cons_self
    rw [Movable, decide_eq_true_eq] at isMovable
    rcases ih (fun m member => movable m (mem_cons_of_mem n member)) _ with ⟨abu', done⟩
    refine ⟨abu', ?_⟩
    rw [updateAll, foldlM_cons, updateBins, if_neg isMovable]
    exact done

structure Settled (abu : DetailedABU) : Prop where
  changed : abu.abuChangedBins = []
  mask : ∀ b, abu.abuChangedBinsMask b ≤ abu.abuChangedBinsCounter

def DetailedABU.nextCounter (abu : DetailedABU) : DetailedABU :=
  { abu with abuChangedBinsCounter := abu.abuChangedBinsCounter + 1 }

lemma Settled.changing {abu : DetailedABU} (settled : Settled abu) :
    Changing abu.nextCounter abu.nextCounter := by
  refine ⟨rfl, rfl, rfl, rfl, rfl, ?_, ?_, ?_, fun _ _ => rfl, ?_⟩
  · simp [DetailedABU.nextCounter, settled.changed]
  · intro b
    simp only [DetailedABU.nextCounter, settled.changed]
    refine iff_of_false not_mem_nil ?_
    have low := settled.mask b
    omega
  · intro b
    exact Nat.le_succ_of_le (settled.mask b)
  · intro b isChanged
    simp [DetailedABU.nextCounter, settled.changed] at isChanged

structure SameBins (a b : DetailedABU) : Prop where
  arch : a.arch = b.arch
  target : a.abuTargUt = b.abuTargUt
  fixedArea : a.f_util = b.f_util

lemma SameBins.space {a b : DetailedABU} (same : SameBins a b) : a.space = b.space := by
  funext binId
  rw [DetailedABU.space, DetailedABU.space, same.arch, same.fixedArea]

lemma SameBins.getBucketId {a b : DetailedABU} (same : SameBins a b) :
    a.getBucketId = b.getBucketId := by
  funext binId occ
  simp only [DetailedABU.getBucketId, same.space, same.arch]

lemma SameBins.weight {a b : DetailedABU} (same : SameBins a b) : a.weight = b.weight := by
  funext binId util
  rw [DetailedABU.weight, DetailedABU.weight, same.space]

lemma Changing.sameBins {base abu : DetailedABU} (changing : Changing base abu) :
    SameBins abu base := ⟨changing.arch, changing.target, changing.fixedArea⟩

def DetailedABU.Sorted (abu : DetailedABU) : Prop :=
  abu.buckets.Binned abu.getBucketId abu.weight abu.m_util

def DetailedABU.withUtils (abu : DetailedABU) (m_util : Nat → ℚ) (buckets : Bins Nat Nat ℚ) :
    DetailedABU := { abu with m_util := m_util, buckets := buckets }

lemma rejectBin_spec {abu : DetailedABU} (sorted : abu.Sorted) (b : Nat) :
    ∃ buckets, abu.rejectBin b =
        .ok (abu.withUtils (update abu.m_util b (abu.c_util b)) buckets) ∧
      (abu.withUtils (update abu.m_util b (abu.c_util b)) buckets).Sorted := by
  rcases Bins.Binned.remove sorted b with ⟨removed, isRemoved, without⟩
  refine ⟨removed.insert abu.getBucketId abu.weight b (abu.c_util b), ?_, ?_⟩
  · rw [rejectBin, isRemoved]
    rfl
  · exact without.insert (abu.c_util b)

lemma rejectAll_spec (changed : List Nat) : ∀ {abu : DetailedABU}, abu.Sorted →
      ∃ buckets, changed.foldlM rejectBin abu =
          .ok (abu.withUtils (fun b => if b ∈ changed then abu.c_util b else abu.m_util b) buckets) ∧
        (abu.withUtils (fun b => if b ∈ changed then abu.c_util b else abu.m_util b)
          buckets).Sorted := by
  induction changed with
  | nil =>
    intro abu sorted
    have same : (fun b => if b ∈ ([] : List Nat) then abu.c_util b else abu.m_util b) =
        abu.m_util := by
      funext b
      exact if_neg not_mem_nil
    rw [same]
    exact ⟨abu.buckets, rfl, sorted⟩
  | cons b changed ih =>
    intro abu sorted
    rcases rejectBin_spec sorted b with ⟨first, isMid, sortedMid⟩
    rcases ih sortedMid with ⟨buckets, done, sorted'⟩
    have same : (fun c => if c ∈ changed then abu.c_util c
          else update abu.m_util b (abu.c_util b) c) =
        fun c => if c ∈ b :: changed then abu.c_util c else abu.m_util c := by
      funext c
      by_cases same : c = b
      · simp [same]
      · simp [same]
    refine ⟨buckets, ?_, ?_⟩
    · rw [foldlM_cons, isMid, ← same]
      exact done
    · rw [← same]
      exact sorted'

structure SameSides (a b : Node) : Prop where
  width : a.width = b.width
  height : a.height = b.height
  isTerminal : a.isTerminal = b.isTerminal
  fixed : a.fixed = b.fixed

lemma SameSides.refl (a : Node) : SameSides a a := ⟨rfl, rfl, rfl, rfl⟩

lemma sameSides_adjust {node : Node} {o : OrientType} (flat : node.orient.rotated = false)
    (flatSite : o.rotated = false) : SameSides (node.adjustCurrOrient o) node := by
  rw [Node.adjustCurrOrient_eq, flat, flatSite]
  exact ⟨rfl, rfl, rfl, rfl⟩

lemma SameSides.share {a b : Node} (sides : SameSides a b) (arch : Architecture) (binId : Nat) :
    arch.share binId (a.at b.left b.bottom) = arch.share binId b := by
  simp only [Architecture.share, overlapArea, Node.getRight, Node.getTop, Node.at, sides.width,
    sides.height]

lemma SameSides.movable {nodes base : Nat → Node} {n : Nat}
    (sides : SameSides (nodes n) (base n)) : Movable nodes n = Movable base n := by
  rw [Movable, Movable, sides.isTerminal, sides.fixed]

lemma movable_congr {nodes base : Nat → Node} (sides : ∀ n, SameSides (nodes n) (base n))
    (numNodes : Nat) :
    (range numNodes).filter (Movable nodes) = (range numNodes).filter (Movable base) :=
  filter_congr fun n _ => (sides n).movable

section

variable {mgr : DetailedMgr} {base : Nat → Node} {journal : Journal} {numNodes : Nat}

lemma Rearranged.sameSides {grid : Grid} {cells : List Nat} {nodes : Nat → Node}
    (upright : grid.Upright) (flat : ∀ n ∈ cells, (base n).orient.rotated = false)
    (rearranged : Rearranged grid cells base nodes) (n : Nat) : SameSides (nodes n) (base n) := by
  rcases rearranged n with unmoved | ⟨inside, x, y, o, gives, there⟩
  · rw [unmoved]
    exact SameSides.refl _
  · rw [there]
    have sides := sameSides_adjust (flat n inside) (upright o gives)
    exact ⟨sides.width, sides.height, sides.isTerminal, sides.fixed⟩

/-- The bins after a move: changed by what its cells take away and bring. -/
structure Evaluated (abu abu' : DetailedABU) (base nodes : Nat → Node) (cells : List Nat) : Prop where
  changing : ∃ mid, Changing abu.nextCounter mid ∧ abu' = mid.withUtils mid.m_util abu'.buckets ∧
    mid.buckets.moveAll mid.getBucketId mid.weight mid.c_util mid.m_util mid.abuChangedBins =
      some abu'.buckets
  utils : ∀ b, abu'.m_util b = abu.m_util b -
    (cells.map fun n => abu.arch.share b ((nodes n).at (base n).left (base n).bottom)).sum +
    (cells.map fun n => abu.arch.share b (nodes n)).sum

lemma delta_ok {s s' : PlacementState} {abu abu' : DetailedABU} {value : ℚ}
    (units : 0 < abu.arch.abuGridUnit) (settled : Settled abu)
    (composed : Composed mgr.grid base s.nodes journal)
    (done : abu.delta mgr journal s = .ok (value, abu', s')) :
    s'.nodes = s.nodes ∧ Evaluated abu abu' base s.nodes journal.affected_nodes := by
  rw [delta] at done
  rcases except_bind_ok done with ⟨old, undone, rest⟩
  rcases except_bind_ok rest with ⟨removed, isRemoved, rest⟩
  rcases except_bind_ok rest with ⟨new, redone, rest⟩
  rcases except_bind_ok rest with ⟨added, isAdded, rest⟩
  rcases except_bind_ok rest with ⟨buckets, isMoved, last⟩
  cases last
  rcases undo_positions composed.moves s.nodes (fun n => (Node.at_self _).symm) with
    ⟨back, isBack, oldNodes⟩
  rw [Journal.undo, isBack] at undone
  cases undone
  rcases redo_positions composed.moves s.nodes oldNodes with ⟨again, isAgain, newNodes⟩
  rw [Journal.redo, isAgain] at redone
  cases redone
  have sameNodes : s'.nodes = s.nodes := funext newNodes
  have units' : 0 < abu.nextCounter.arch.abuGridUnit := units
  rcases updateAll_spec units' _ settled.changing isRemoved with ⟨changing, sums⟩
  rcases updateAll_spec units' _ changing isAdded with ⟨changing', sums'⟩
  refine ⟨sameNodes, ⟨added, changing', rfl, ?_⟩, ?_⟩
  · rw [rebucket] at isMoved
    split at isMoved
    · cases isMoved
    · rename_i moved found
      rw [Except.ok.inj isMoved] at found
      exact found
  · intro b
    calc added.m_util b
        = removed.m_util b + (journal.affected_nodes.map fun n =>
            abu.arch.share b (s'.nodes n)).sum * 1 := sums' b
      _ = abu.m_util b + (journal.affected_nodes.map fun n =>
            abu.arch.share b (old.nodes n)).sum * -1 + (journal.affected_nodes.map fun n =>
            abu.arch.share b (s'.nodes n)).sum * 1 := congrArg (· + _) (sums b)
      _ = _ := by
        simp only [sameNodes, oldNodes]
        ring

variable {abu abu' : DetailedABU} {nodes : Nat → Node} {cells : List Nat}

section

variable (evaluated : Evaluated abu abu' base nodes cells)
include evaluated

lemma Evaluated.sameBins : SameBins abu' abu := by
  rcases evaluated.changing with ⟨mid, changing, isMid, _⟩
  rw [isMid]
  exact ⟨changing.arch, changing.target, changing.fixedArea⟩

lemma Evaluated.mask (b : Nat) :
    abu'.abuChangedBinsMask b ≤ abu'.abuChangedBinsCounter := by
  rcases evaluated.changing with ⟨mid, changing, isMid, _⟩
  rw [isMid]
  exact changing.mask b

lemma Evaluated.accept :
    Settled abu'.acceptBins :=
  ⟨rfl, evaluated.mask⟩

omit evaluated in
lemma Changing.moved {base mid : DetailedABU} (changing : Changing base mid)
    (sorted : base.Sorted) :
    ∃ buckets, mid.buckets.moveAll mid.getBucketId mid.weight mid.c_util mid.m_util
        mid.abuChangedBins = some buckets ∧ (mid.withUtils mid.m_util buckets).Sorted := by
  rw [DetailedABU.Sorted, ← changing.buckets, ← changing.sameBins.getBucketId,
    ← changing.sameBins.weight] at sorted
  have isOld : ∀ b ∈ mid.abuChangedBins, base.m_util b = mid.c_util b :=
    fun b isChanged => (changing.old b isChanged).symm
  rcases Bins.Binned.moveAll mid.abuChangedBins changing.nodup sorted isOld with
    ⟨buckets, isMoved, binned⟩
  refine ⟨buckets, isMoved, ?_⟩
  have values : (fun b => if b ∈ mid.abuChangedBins then mid.m_util b else base.m_util b) =
      mid.m_util := by
    funext b
    by_cases isChanged : b ∈ mid.abuChangedBins
    · rw [if_pos isChanged]
    · rw [if_neg isChanged, changing.kept b isChanged]
  rw [values] at binned
  exact binned

omit evaluated in
lemma Evaluated.sorted (evaluated : Evaluated abu abu' base nodes cells) (sorted : abu.Sorted) :
    abu'.Sorted := by
  rcases evaluated.changing with ⟨mid, changing, isMid, isMoved⟩
  rcases changing.moved sorted with ⟨buckets, isMoved', sorted'⟩
  rw [isMid, Option.some.inj (isMoved.symm.trans isMoved')]
  exact sorted'

omit evaluated in
lemma delta_total {s : PlacementState} {abu : DetailedABU} (units : 0 < abu.arch.abuGridUnit)
    (settled : Settled abu) (sorted : abu.Sorted)
    (composed : Composed mgr.grid base s.nodes journal)
    (sides : ∀ n, SameSides (s.nodes n) (base n))
    (movable : ∀ n ∈ journal.affected_nodes, Movable base n = true) :
    ∃ value abu' s', abu.delta mgr journal s = .ok (value, abu', s') := by
  rcases undo_positions composed.moves s.nodes (fun n => (Node.at_self _).symm) with
    ⟨old, undone, oldNodes⟩
  rcases redo_positions composed.moves s.nodes oldNodes with ⟨new, redone, newNodes⟩
  have oldMovable : ∀ n ∈ journal.affected_nodes, Movable old.nodes n = true := by
    intro n member
    have isMovable := movable n member
    rw [← (sides n).movable] at isMovable
    rw [Movable, oldNodes n]
    exact isMovable
  have newMovable : ∀ n ∈ journal.affected_nodes, Movable new.nodes n = true := by
    intro n member
    have isMovable := movable n member
    rw [← (sides n).movable] at isMovable
    rw [Movable, newNodes n]
    exact isMovable
  have units' : 0 < abu.nextCounter.arch.abuGridUnit := units
  rcases @updateAll_ok old.nodes (-1) _ oldMovable abu.nextCounter with ⟨removed, isRemoved⟩
  rcases @updateAll_ok new.nodes 1 _ newMovable removed with ⟨added, isAdded⟩
  have changing := (updateAll_spec units' _
    (updateAll_spec units' _ settled.changing isRemoved).1 isAdded).1
  rcases changing.moved sorted with ⟨buckets, isMoved, _⟩
  refine ⟨abu.fof - (added.withUtils added.m_util buckets).fof,
    added.withUtils added.m_util buckets, new, ?_⟩
  have undone' : journal.undo mgr true s = .ok old := undone
  have redone' : journal.redo mgr true old = .ok new := redone
  have rebucketed : added.rebucket added.c_util added.m_util
      "Unable to find bin within utilization objective" = .ok buckets := by
    rw [rebucket, isMoved]
  rw [DetailedABU.nextCounter] at isRemoved
  simp only [delta, undone', isRemoved, redone', isAdded, rebucketed, bind, Except.bind]
  rfl

lemma Evaluated.follows (sides : ∀ n, SameSides (nodes n) (base n)) (nodup : cells.Nodup)
    (listed : ∀ n ∈ cells, n < numNodes ∧ Movable base n = true)
    (others : ∀ n, n ∉ cells → nodes n = base n)
    (isArea : ∀ b, abu.m_util b = abu.arch.movableArea numNodes base b) (b : Nat) :
    abu'.m_util b = abu.arch.movableArea numNodes nodes b := by
  have part : cells ⊆ (range numNodes).filter (Movable base) := by
    intro n member
    rw [mem_filter, mem_range]
    exact listed n member
  have same : ∀ n ∈ (range numNodes).filter (Movable base), n ∉ cells →
      abu.arch.share b (base n) = abu.arch.share b (nodes n) := by
    intro n _ outside
    rw [others n outside]
  have changes := sum_changes (nodup_range.filter _) nodup part same
  rw [evaluated.utils, isArea, Architecture.movableArea, Architecture.movableArea,
    movable_congr sides, ← changes]
  simp only [(sides _).share]
  ring

lemma Evaluated.reject (sorted : abu.Sorted) :
    ∃ final, abu'.rejectBins = .ok final ∧ final.Sorted ∧ Settled final ∧ SameBins final abu ∧
      final.m_util = abu.m_util := by
  rcases rejectAll_spec abu'.abuChangedBins (evaluated.sorted sorted) with ⟨buckets, done, sorted'⟩
  refine ⟨{ abu'.withUtils (fun b => if b ∈ abu'.abuChangedBins then abu'.c_util b
      else abu'.m_util b) buckets with abuChangedBins := [] }, ?_, sorted', ⟨rfl, evaluated.mask⟩,
    ?_, ?_⟩
  · rw [rejectBins, done]
    rfl
  · have same := evaluated.sameBins
    exact ⟨same.arch, same.target, same.fixedArea⟩
  · rcases evaluated.changing with ⟨mid, changing, isMid, _⟩
    have changed : abu'.abuChangedBins = mid.abuChangedBins := by rw [isMid]; rfl
    have remembered : abu'.c_util = mid.c_util := by rw [isMid]; rfl
    have present : abu'.m_util = mid.m_util := by rw [isMid]; rfl
    funext b
    dsimp only [DetailedABU.withUtils]
    by_cases isChanged : b ∈ abu'.abuChangedBins
    · rw [if_pos isChanged, remembered]
      exact changing.old b (changed ▸ isChanged)
    · rw [if_neg isChanged, present]
      exact changing.kept b (changed ▸ isChanged)

end

end

end OpenRoad.Dpl
