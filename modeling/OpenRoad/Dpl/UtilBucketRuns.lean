import OpenRoad.Dpl.UtilChanges

/-! Buckets and utilisations over whole runs of recomputations and moves. -/

namespace OpenRoad.Dpl

open OpenRoad.Lib Function Architecture DetailedABU

structure Architecture.Roomy (arch : Architecture) : Prop where
  units : 0 < arch.abuGridUnit
  across : arch.minX ≤ arch.maxX
  upward : arch.minY ≤ arch.maxY

lemma le_divCeil_mul (a : Int) {b : Int} (positive : 0 < b) : a ≤ divCeil a b * b := by
  have low := Int.ediv_mul_le (-a) positive.ne'
  rw [divCeil, neg_mul]
  omega

lemma mul_lt_of_lt_divCeil {a b k : Int} (positive : 0 < b) (below : k < divCeil a b) :
    k * b < a := by
  rw [divCeil] at below
  have more : -a / b < -k := by omega
  have least := Int.lt_mul_of_ediv_lt positive more
  rw [neg_mul] at least
  omega

lemma binArea_beyond {arch : Architecture} (roomy : arch.Roomy) {b : Nat}
    (beyond : arch.abuNumBins ≤ b) : arch.binArea b = 0 := by
  have units := roomy.units
  have columnsEnd : arch.maxX - arch.minX ≤ arch.abuGridNumX * arch.abuGridUnit :=
    (le_divCeil_mul _ units).trans (mul_le_mul_of_nonneg_right (Int.self_le_toNat _) units.le)
  have rowsEnd : arch.maxY - arch.minY ≤ arch.abuGridNumY * arch.abuGridUnit :=
    (le_divCeil_mul _ units).trans (mul_le_mul_of_nonneg_right (Int.self_le_toNat _) units.le)
  have product : ((arch.bin b).xMax - (arch.bin b).xMin) * ((arch.bin b).yMax - (arch.bin b).yMin) ≤
      0 := by
    simp only [bin, binBox]
    rcases Nat.eq_zero_or_pos arch.abuGridNumX with none | some
    · rw [none, Nat.mod_zero, Nat.div_zero]
      rw [none] at columnsEnd
      have start : 0 ≤ (b : Int) * arch.abuGridUnit := by positivity
      apply mul_nonpos_of_nonpos_of_nonneg
      · push_cast at columnsEnd
        omega
      · have upward := roomy.upward
        push_cast
        omega
    · have column := Nat.mod_lt b some
      have before : ((b % arch.abuGridNumX : Nat) : Int) * arch.abuGridUnit < arch.maxX - arch.minX := by
        apply mul_lt_of_lt_divCeil units
        rw [abuGridNumX] at column ⊢
        omega
      have row : arch.abuGridNumY ≤ b / arch.abuGridNumX := by
        rw [Nat.le_div_iff_mul_le some, Nat.mul_comm]
        exact beyond
      have after : (arch.abuGridNumY : Int) * arch.abuGridUnit ≤
          ((b / arch.abuGridNumX : Nat) : Int) * arch.abuGridUnit :=
        mul_le_mul_of_nonneg_right (by exact_mod_cast row) units.le
      apply mul_nonpos_of_nonneg_of_nonpos
      · omega
      · omega
  rw [binArea]
  exact max_eq_right (by exact_mod_cast product)

lemma getBucketId_some {abu : DetailedABU} (roomy : abu.arch.Roomy) {b i : Nat} {occ : ℚ}
    (counted : abu.getBucketId b occ = some i) : b < abu.arch.abuNumBins := by
  by_contra beyond
  have empty := binArea_beyond roomy (not_lt.mp beyond)
  have positive : (0 : ℚ) ≤ abu.arch.abuGridUnit * abu.arch.abuGridUnit * BIN_AREA_THRESHOLD := by
    rw [BIN_AREA_THRESHOLD]
    have units : (0 : ℚ) < abu.arch.abuGridUnit := by exact_mod_cast roomy.units
    positivity
  rw [getBucketId, empty, if_pos positive] at counted
  cases counted

section

variable (numNodes : Nat) (nodes : Nat → Node)

lemma mem_computeBuckets (abu : DetailedABU) (places : List Nat) (members : Nat → Finset Nat)
    (i b : Nat) :
    b ∈ places.foldl (fun members binId =>
        match abu.getBucketId binId (abu.m_util binId) with
        | none => members
        | some ix => update members ix (insert binId (members ix))) members i ↔
      b ∈ members i ∨ b ∈ places ∧ abu.getBucketId b (abu.m_util b) = some i := by
  induction places generalizing members with
  | nil => simp
  | cons place places ih =>
    rw [List.foldl_cons, ih, List.mem_cons]
    cases isKey : abu.getBucketId place (abu.m_util place) with
    | none =>
      simp only
      constructor
      · rintro (before | ⟨member, counted⟩)
        · exact .inl before
        · exact .inr ⟨.inr member, counted⟩
      · rintro (before | ⟨rfl | member, counted⟩)
        · exact .inl before
        · rw [isKey] at counted
          cases counted
        · exact .inr ⟨member, counted⟩
    | some ix =>
      simp only
      by_cases same : i = ix
      · rw [same, update_self, Finset.mem_insert]
        constructor
        · rintro ((rfl | before) | ⟨member, counted⟩)
          · exact .inr ⟨.inl rfl, isKey⟩
          · exact .inl before
          · exact .inr ⟨.inr member, counted⟩
        · rintro (before | ⟨rfl | member, counted⟩)
          · exact .inl (.inr before)
          · exact .inl (.inl rfl)
          · exact .inr ⟨member, counted⟩
      · rw [update_of_ne same]
        constructor
        · rintro (before | ⟨member, counted⟩)
          · exact .inl before
          · exact .inr ⟨.inr member, counted⟩
        · rintro (before | ⟨rfl | member, counted⟩)
          · exact .inl before
          · exact absurd (Option.some.inj (counted.symm.trans isKey)) same
          · exact .inr ⟨member, counted⟩

lemma recompute_sameBins (abu : DetailedABU) : SameBins (abu.recompute numNodes nodes) abu :=
  ⟨rfl, rfl, rfl⟩

variable {abu : DetailedABU}

lemma recompute_settled (settled : Settled abu) :
    Settled (abu.recompute numNodes nodes) := ⟨settled.changed, settled.mask⟩

lemma recompute_m_util (units : 0 < abu.arch.abuGridUnit) :
    (abu.recompute numNodes nodes).m_util = abu.arch.movableArea numNodes nodes :=
  funext fun b => computeUtils_eq units numNodes nodes b

def NoStale (abu : DetailedABU) : Prop :=
  ∀ i, ∀ b ∈ abu.buckets.members i,
    abu.getBucketId b (abu.arch.movableArea numNodes nodes b) = some i

lemma mem_recompute (roomy : abu.arch.Roomy) (i b : Nat) :
    b ∈ (abu.recompute numNodes nodes).buckets.members i ↔ b ∈ abu.buckets.members i ∨
        abu.getBucketId b (abu.arch.movableArea numNodes nodes b) = some i := by
  have isArea : (abu.clearUtils.computeUtils numNodes nodes).m_util =
      abu.arch.movableArea numNodes nodes := recompute_m_util numNodes nodes roomy.units
  refine (mem_computeBuckets (abu.clearUtils.computeUtils numNodes nodes).clearBuckets _ _ i b).trans
    (or_congr_right ?_)
  have sameKey : (abu.clearUtils.computeUtils numNodes nodes).clearBuckets.getBucketId b
      ((abu.clearUtils.computeUtils numNodes nodes).clearBuckets.m_util b) =
      abu.getBucketId b (abu.arch.movableArea numNodes nodes b) := by
    rw [← isArea]
    rfl
  rw [sameKey, List.mem_range]
  exact and_iff_right_of_imp fun counted => getBucketId_some roomy counted

lemma recompute_sorted_iff (roomy : abu.arch.Roomy) :
    (abu.recompute numNodes nodes).Sorted ↔ NoStale numNodes nodes abu := by
  have isArea := recompute_m_util numNodes nodes roomy.units
  have sameKey : (abu.recompute numNodes nodes).getBucketId = abu.getBucketId :=
    (recompute_sameBins numNodes nodes abu).getBucketId
  constructor
  · intro sorted i b member
    have inside := (mem_recompute numNodes nodes roomy i b).mpr (.inl member)
    have counted := (sorted.mem i b).mp inside
    rw [sameKey, isArea] at counted
    exact counted
  · intro noStale
    constructor
    · intro i b
      rw [mem_recompute numNodes nodes roomy, sameKey, isArea]
      exact or_iff_right_of_imp (noStale i b)
    · intro i
      rfl

lemma noStale_of_sorted (sorted : abu.Sorted)
    (isArea : abu.m_util = abu.arch.movableArea numNodes nodes) : NoStale numNodes nodes abu := by
  intro i b member
  rw [← isArea]
  exact (sorted.mem i b).mp member

lemma fof_congr {a b : DetailedABU} (target : a.abuTargUt = b.abuTargUt)
    (buckets : a.buckets = b.buckets) : a.fof = b.fof := by
  have all : ∀ count, a.fofFrom count = b.fofFrom count := by
    intro count
    induction count with
    | zero => rfl
    | succ i ih => simp only [fofFrom, target, buckets, ih]
  exact all numBuckets

lemma sorted_buckets {a b : DetailedABU} (same : SameBins a b) (sameUtils : a.m_util = b.m_util)
    (sortedA : a.Sorted) (sortedB : b.Sorted) : a.buckets = b.buckets := by
  have members : a.buckets.members = b.buckets.members := by
    funext i
    ext c
    rw [sortedA.mem, sortedB.mem, same.getBucketId, sameUtils]
  have totals : a.buckets.totals = b.buckets.totals := by
    funext i
    rw [sortedA.total, sortedB.total, members, same.weight, sameUtils]
  cases isA : a.buckets
  cases isB : b.buckets
  simp only [isA, isB] at members totals
  rw [members, totals]

lemma curr_fresh {abu fresh : DetailedABU} (roomy : abu.arch.Roomy) (same : SameBins fresh abu)
    (noStale : NoStale numNodes nodes abu) (noneYet : ∀ i, fresh.buckets.members i = ∅) :
    (abu.curr numNodes nodes).1 = (fresh.curr numNodes nodes).1 := by
  have roomy' : fresh.arch.Roomy := same.arch ▸ roomy
  have noStale' : NoStale numNodes nodes fresh := by
    intro i b member
    rw [noneYet i] at member
    exact absurd member (Finset.notMem_empty b)
  have sorted := (recompute_sorted_iff numNodes nodes roomy).mpr noStale
  have sorted' := (recompute_sorted_iff numNodes nodes roomy').mpr noStale'
  have sameArea : (abu.recompute numNodes nodes).m_util = (fresh.recompute numNodes nodes).m_util := by
    rw [recompute_m_util numNodes nodes roomy.units, recompute_m_util numNodes nodes roomy'.units,
      same.arch]
  have sameBins : SameBins (abu.recompute numNodes nodes) (fresh.recompute numNodes nodes) :=
    ⟨same.arch.symm, same.target.symm, same.fixedArea.symm⟩
  rw [curr, curr, same.target]
  split
  · rfl
  · exact fof_congr sameBins.target (sorted_buckets sameBins sameArea sorted sorted')

end

/-- Every counted bin is in the bucket of its utilisation, and the value is that of a new objective.
-/
structure AbuExact (numNodes : Nat) (nodes : Nat → Node) (abu : DetailedABU) : Prop where
  utils : ∀ b < abu.arch.abuNumBins, abu.m_util b = abu.arch.movableArea numNodes nodes b
  bucket : ∀ b < abu.arch.abuNumBins, ∀ i, abu.getBucketId b (abu.m_util b) = some i →
    ∀ j, b ∈ abu.buckets.members j ↔ j = i
  totals : ∀ i, abu.buckets.totals i = ∑ b ∈ abu.buckets.members i, abu.m_util b / abu.space b
  value : (abu.curr numNodes nodes).1 =
    ((init abu.arch abu.abuTargUt numNodes nodes).curr numNodes nodes).1

def Architecture.fixedArea (arch : Architecture) (numNodes : Nat) (nodes : Nat → Node) : Nat → ℚ :=
  (((List.range numNodes).map nodes).filter Node.fixed).foldl arch.insertArea fun _ => 0

lemma fixedArea_congr (arch : Architecture) {numNodes : Nat} {nodes base : Nat → Node}
    (same : ∀ n, nodes n = base n ∨ (nodes n).fixed = false ∧ (base n).fixed = false) :
    arch.fixedArea numNodes nodes = arch.fixedArea numNodes base := by
  have lists : ∀ cells : List Nat,
      (cells.map nodes).filter Node.fixed = (cells.map base).filter Node.fixed := by
    intro cells
    induction cells with
    | nil => rfl
    | cons n cells ih =>
      rw [List.map_cons, List.map_cons, List.filter_cons, List.filter_cons, ih]
      rcases same n with unmoved | ⟨loose, loose'⟩
      · rw [unmoved]
      · rw [loose, loose']
        rfl
  rw [Architecture.fixedArea, lists, Architecture.fixedArea]

def Handled (numNodes : Nat) (nodes : Nat → Node) (requests : List Request) : Prop :=
  ∀ request ∈ requests, request.getNode < numNodes ∧ Movable nodes request.getNode = true ∧
    (nodes request.getNode).orient.rotated = false

instance (numNodes : Nat) (nodes : Nat → Node) (requests : List Request) :
    Decidable (Handled numNodes nodes requests) :=
  inferInstanceAs (Decidable (∀ request ∈ requests, _ ∧ _ ∧ _))

/-- Moves are of cells that can be moved, and what is computed from scratch finds no bin in a bucket
of before. -/
def Allowed (numNodes : Nat) (r : AbuRun) : AbuCall → Prop
  | .curr => r.objective.abuTargUt < 999 / 1000 → NoStale numNodes r.state.nodes r.objective
  | .measureABU => NoStale numNodes r.state.nodes r.objective
  | .attempt attempt => Handled numNodes r.state.nodes attempt.requests
  | .unevaluated requests => Handled numNodes r.state.nodes requests

structure AbuInv (arch : Architecture) (targetUt : ℚ) (numNodes : Nat) (r : AbuRun) : Prop where
  sameArch : r.objective.arch = arch
  target : r.objective.abuTargUt = targetUt
  fixedArea : r.objective.f_util = arch.fixedArea numNodes r.state.nodes
  settled : Settled r.objective
  exact : r.followed = true → r.failure = none ∧ r.objective.Sorted ∧
    r.objective.m_util = arch.movableArea numNodes r.state.nodes

lemma AbuInv.abuExact {arch : Architecture} {targetUt : ℚ} {numNodes : Nat} {r : AbuRun}
    (roomy : arch.Roomy) (inv : AbuInv arch targetUt numNodes r) (followed : r.followed = true) :
    r.failure = none ∧ AbuExact numNodes r.state.nodes r.objective := by
  rcases inv.exact followed with ⟨sound, sorted, isArea⟩
  rw [← inv.sameArch] at isArea
  refine ⟨sound, fun b _ => congrFun isArea b, ?_, sorted.total, ?_⟩
  · intro b _ i counted j
    rw [sorted.mem, counted]
    exact ⟨fun same => (Option.some.inj same).symm, fun same => same ▸ rfl⟩
  · apply curr_fresh numNodes r.state.nodes (inv.sameArch ▸ roomy)
    · refine ⟨rfl, rfl, ?_⟩
      rw [inv.fixedArea, inv.sameArch]
      rfl
    · exact noStale_of_sorted numNodes r.state.nodes sorted isArea
    · intro i
      rfl

section

variable {mgr : DetailedMgr} {arch : Architecture} {targetUt : ℚ} {numNodes : Nat}
  {base nodes : Nat → Node} {requests : List Request} {journal : Journal}

lemma composed_cells {s s' : PlacementState} (upright : mgr.grid.Upright)
    (handled : Handled numNodes s.nodes requests)
    (composes : composeMoves mgr requests s = some (s', journal)) :
    Composed mgr.grid s.nodes s'.nodes journal ∧
      (∀ n ∈ journal.affected_nodes, n < numNodes ∧ Movable s.nodes n = true ∧
        (s.nodes n).orient.rotated = false) ∧
      ∀ n, SameSides (s'.nodes n) (s.nodes n) := by
  rcases composeMoves_composed composes with ⟨composed, affected⟩
  have cells : ∀ n ∈ journal.affected_nodes, n < numNodes ∧ Movable s.nodes n = true ∧
      (s.nodes n).orient.rotated = false := by
    intro n member
    rcases (affected n).mp member with ⟨request, isRequest, rfl⟩
    exact handled request isRequest
  exact ⟨composed, cells, composed.rearranged.sameSides upright fun n member =>
    (cells n member).2.2⟩

lemma fixed_of_movable {n : Nat} (movable : Movable nodes n = true) :
    (nodes n).fixed = false := by
  simp only [Movable, decide_eq_true_eq, not_or] at movable
  exact Bool.eq_false_iff.mpr movable.2

lemma fixedArea_rearranged {cells : List Nat} (movable : ∀ n ∈ cells, Movable base n = true)
    (sides : ∀ n, SameSides (nodes n) (base n)) (others : ∀ n, n ∉ cells → nodes n = base n) :
    arch.fixedArea numNodes nodes = arch.fixedArea numNodes base := by
  apply fixedArea_congr
  intro n
  by_cases member : n ∈ cells
  · have loose := fixed_of_movable (movable n member)
    exact .inr ⟨(sides n).fixed.trans loose, loose⟩
  · exact .inl (others n member)

lemma rejected_cells {s s' : PlacementState} {journal' : Journal} (upright : mgr.grid.Upright)
    (composed : Composed mgr.grid base s.nodes journal)
    (flat : ∀ n ∈ journal.affected_nodes, (base n).orient.rotated = false)
    (done : rejectMove mgr journal s = .ok (s', journal')) :
    (∀ n, SameSides (s'.nodes n) (base n)) ∧ (∀ n, n ∉ journal.affected_nodes → s'.nodes n = base n) ∧
      ∀ n, (s'.nodes n).left = (base n).left ∧ (s'.nodes n).bottom = (base n).bottom := by
  refine ⟨?_, ?_, ?_⟩
  · intro n
    rcases rejectMove_rearranged composed done n with unmoved | ⟨affected, o, gives, there⟩
    · rw [unmoved]
      exact SameSides.refl _
    · rw [there]
      exact sameSides_adjust (flat n affected) (upright o gives)
  · intro n outside
    exact (rejectMove_rearranged composed done n).resolve_right fun inside => outside inside.1
  · intro n
    rcases rejectMove_rearranged composed done n with unmoved | ⟨_, o, _, there⟩
    · rw [unmoved]
      exact ⟨rfl, rfl⟩
    · rw [there]
      exact ⟨Node.adjustCurrOrient_left _ o, Node.adjustCurrOrient_bottom _ o⟩

lemma movableArea_back (sides : ∀ n, SameSides (nodes n) (base n))
    (places : ∀ n, (nodes n).left = (base n).left ∧ (nodes n).bottom = (base n).bottom) :
    arch.movableArea numNodes nodes = arch.movableArea numNodes base := by
  funext b
  have shares : ∀ n, arch.share b (nodes n) = arch.share b (base n) := by
    intro n
    rw [← (sides n).share arch b, ← (places n).1, ← (places n).2, Node.at_self]
  simp only [movableArea, movable_congr sides, shares]

lemma rejectBin_keeps (abu abu' : DetailedABU) (b : Nat) (done : abu.rejectBin b = .ok abu') :
    (abu'.arch, abu'.abuTargUt, abu'.f_util, abu'.abuChangedBinsMask, abu'.abuChangedBinsCounter) =
      (abu.arch, abu.abuTargUt, abu.f_util, abu.abuChangedBinsMask, abu.abuChangedBinsCounter) := by
  rw [rejectBin] at done
  split at done
  · cases done
  · cases done
    rfl

lemma rejectBins_keeps {abu final : DetailedABU}
    (mask : ∀ b, abu.abuChangedBinsMask b ≤ abu.abuChangedBinsCounter)
    (done : abu.rejectBins = .ok final) : SameBins final abu ∧ Settled final := by
  rw [rejectBins] at done
  rcases except_bind_ok done with ⟨last, folded, isFinal⟩
  cases isFinal
  have kept := foldlM_keeps (fun abu : DetailedABU =>
    (abu.arch, abu.abuTargUt, abu.f_util, abu.abuChangedBinsMask, abu.abuChangedBinsCounter))
    (fun abu b abu' => rejectBin_keeps abu abu' b) abu.abuChangedBins folded
  simp only [Prod.mk.injEq] at kept
  refine ⟨⟨kept.1, kept.2.1, kept.2.2.1⟩, rfl, ?_⟩
  dsimp only
  rw [kept.2.2.2.1, kept.2.2.2.2]
  exact mask

lemma attemptStep_inv {r r' : AbuRun} {attempt : Attempt} (roomy : arch.Roomy)
    (upright : mgr.grid.Upright) (inv : AbuInv arch targetUt numNodes r) (sound : r.failure = none)
    (handled : Handled numNodes r.state.nodes attempt.requests)
    (done : attemptStep mgr r attempt = some r') : AbuInv arch targetUt numNodes r' := by
  rw [attemptStep] at done
  rcases Option.bind_eq_some_iff.mp done with ⟨⟨s, journal⟩, composes, rest⟩
  rcases composed_cells upright handled composes with ⟨composed, cells, sides⟩
  have units : 0 < r.objective.arch.abuGridUnit := inv.sameArch ▸ roomy.units
  have movable : ∀ n ∈ journal.affected_nodes, Movable r.state.nodes n = true :=
    fun n member => (cells n member).2.1
  have flat : ∀ n ∈ journal.affected_nodes, (r.state.nodes n).orient.rotated = false :=
    fun n member => (cells n member).2.2
  have others : ∀ n, n ∉ journal.affected_nodes → s.nodes n = r.state.nodes n :=
    fun n outside => composed.rearranged.outside outside
  have followedOnly : ∀ msg, r.objective.delta mgr journal s = .error msg → r.followed = false := by
    intro msg failed
    rw [Bool.eq_false_iff]
    intro followed
    rcases delta_total units inv.settled (inv.exact followed).2.1 composed sides movable with
      ⟨value, abu', s', total⟩
    rw [total] at failed
    cases failed
  have failing : ∀ msg, r.followed = false →
      AbuInv arch targetUt numNodes { r with failure := some msg } := by
    intro msg unfollowed
    refine ⟨inv.sameArch, inv.target, inv.fixedArea, inv.settled, fun followed => ?_⟩
    dsimp only at followed
    rw [unfollowed] at followed
    cases followed
  cases verdict : attempt.verdict with
  | withdrawn =>
    simp only [verdict] at rest
    rcases Option.bind_eq_some_iff.mp rest with ⟨⟨s', journal'⟩, rejected, last⟩
    cases last
    rcases rejected_cells upright composed flat (except_toOption_ok rejected) with
      ⟨sides', others', places'⟩
    refine ⟨inv.sameArch, inv.target, ?_, inv.settled, ?_⟩
    · rw [fixedArea_rearranged movable sides' others']
      exact inv.fixedArea
    · intro followed
      rw [movableArea_back sides' places']
      exact inv.exact followed
  | accepted =>
    simp only [verdict] at rest
    split at rest
    · rename_i msg failed
      cases rest
      exact failing msg (followedOnly msg failed)
    · rename_i value abu' s' evaluates
      cases rest
      rcases delta_ok units inv.settled composed evaluates with ⟨sameNodes, evaluated⟩
      have same := evaluated.sameBins
      refine ⟨same.arch.trans inv.sameArch, same.target.trans inv.target, ?_, evaluated.accept, ?_⟩
      · rw [sameNodes, fixedArea_rearranged movable sides others]
        exact same.fixedArea.trans inv.fixedArea
      · intro followed
        rcases inv.exact followed with ⟨_, sorted, isArea⟩
        refine ⟨sound, evaluated.sorted sorted, ?_⟩
        rw [sameNodes]
        funext b
        rw [← inv.sameArch] at isArea ⊢
        exact evaluated.follows sides composed.nodup
          (fun n member => ⟨(cells n member).1, (cells n member).2.1⟩) others
          (fun b => congrFun isArea b) b
  | rejected =>
    simp only [verdict] at rest
    split at rest
    · rename_i msg failed
      cases rest
      exact failing msg (followedOnly msg failed)
    · rename_i value abu' s₁ evaluates
      rcases delta_ok units inv.settled composed evaluates with ⟨sameNodes, evaluated⟩
      rcases Option.bind_eq_some_iff.mp rest with ⟨⟨s', journal'⟩, rejected, last⟩
      rw [← sameNodes] at composed
      rcases rejected_cells upright composed flat (except_toOption_ok rejected) with
        ⟨sides', others', places'⟩
      have areaBack : arch.fixedArea numNodes s'.nodes = arch.fixedArea numNodes r.state.nodes :=
        fixedArea_rearranged movable sides' others'
      dsimp only at last
      split at last
      · rename_i msg failed
        cases last
        have unfollowed : r.followed = false := by
          rw [Bool.eq_false_iff]
          intro followed
          rcases evaluated.reject (inv.exact followed).2.1 with ⟨final, rejects, _⟩
          rw [rejects] at failed
          cases failed
        exact failing msg unfollowed
      · rename_i final rejects
        cases last
        rcases rejectBins_keeps evaluated.mask rejects with ⟨sameFinal, settled⟩
        have same := evaluated.sameBins
        refine ⟨sameFinal.arch.trans (same.arch.trans inv.sameArch),
          sameFinal.target.trans (same.target.trans inv.target), ?_, settled, ?_⟩
        · rw [areaBack]
          exact sameFinal.fixedArea.trans (same.fixedArea.trans inv.fixedArea)
        · intro followed
          rcases inv.exact followed with ⟨_, sorted, isArea⟩
          rcases evaluated.reject sorted with ⟨final', rejects', sorted', _, _, utils⟩
          rw [rejects] at rejects'
          cases rejects'
          refine ⟨sound, sorted', ?_⟩
          rw [movableArea_back sides' places']
          exact utils.trans isArea

lemma AbuInv.recompute {r : AbuRun} (roomy : arch.Roomy) (inv : AbuInv arch targetUt numNodes r)
    (sound : r.failure = none) (noStale : NoStale numNodes r.state.nodes r.objective)
    (followed : Bool) :
    AbuInv arch targetUt numNodes
      { r with objective := r.objective.recompute numNodes r.state.nodes, followed := followed } := by
  have roomy' : r.objective.arch.Roomy := inv.sameArch.symm ▸ roomy
  refine ⟨inv.sameArch, inv.target, inv.fixedArea, recompute_settled _ _ inv.settled, fun _ => ?_⟩
  refine ⟨sound, (recompute_sorted_iff numNodes r.state.nodes roomy').mpr noStale, ?_⟩
  dsimp only
  rw [recompute_m_util numNodes r.state.nodes roomy'.units, inv.sameArch]

lemma abuStep_inv {r r' : AbuRun} {call : AbuCall} (roomy : arch.Roomy)
    (upright : mgr.grid.Upright) (inv : AbuInv arch targetUt numNodes r)
    (allowed : Allowed numNodes r call) (done : abuStep mgr numNodes r call = some r') :
    AbuInv arch targetUt numNodes r' := by
  unfold abuStep at done
  split at done
  · cases done
    exact inv
  · rename_i alive
    have sound : r.failure = none := by
      rw [Option.isSome_iff_ne_none, not_not] at alive
      exact alive
    cases call with
    | curr =>
      simp only [curr] at done
      split at done
      · rename_i full
        cases done
        refine ⟨inv.sameArch, inv.target, inv.fixedArea, inv.settled, fun followed => ?_⟩
        simp only [Bool.decide_or, Bool.decide_eq_true, Bool.or_eq_true, decide_eq_true_eq]
          at followed
        exact inv.exact (followed.resolve_right (not_lt.mpr full))
      · rename_i notFull
        cases done
        exact inv.recompute roomy sound (allowed (not_le.mp notFull)) _
    | measureABU =>
      cases done
      exact inv.recompute roomy sound allowed true
    | attempt attempt => exact attemptStep_inv roomy upright inv sound allowed done
    | unevaluated requests =>
      rcases Option.bind_eq_some_iff.mp done with ⟨⟨s, journal⟩, composes, last⟩
      cases last
      rcases composed_cells upright allowed composes with ⟨composed, cells, sides⟩
      refine ⟨inv.sameArch, inv.target, ?_, ⟨rfl, inv.settled.mask⟩, nofun⟩
      rw [fixedArea_rearranged (fun n member => (cells n member).2.1) sides fun n outside =>
        composed.rearranged.outside outside]
      exact inv.fixedArea

lemma startAbu_inv (arch : Architecture) (targetUt : ℚ) (numNodes : Nat) (s : PlacementState) :
    AbuInv arch targetUt numNodes (startAbu arch targetUt numNodes s) :=
  ⟨rfl, rfl, rfl, ⟨rfl, fun _ => Nat.zero_le 1⟩, nofun⟩

/-- In a run whose recomputations find no bin in a bucket of before, everything is exact as long as
the bins follow the cells. -/
theorem buckets_follow_cells {s : PlacementState} (calls : List AbuCall) (roomy : arch.Roomy)
    (upright : mgr.grid.Upright)
    (each : EachCall (abuCall mgr numNodes) (fun r call => ∀ r' ∈ r, Allowed numNodes r' call)
      (some (startAbu arch targetUt numNodes s)) calls) :
    Throughout (abuCall mgr numNodes) (fun r => ∀ r' ∈ r, r'.followed = true →
        r'.failure = none ∧ AbuExact numNodes r'.state.nodes r'.objective)
      (some (startAbu arch targetUt numNodes s)) calls := by
  have first : ∀ r ∈ some (startAbu arch targetUt numNodes s), AbuInv arch targetUt numNodes r := by
    intro r isStart
    cases isStart
    exact startAbu_inv arch targetUt numNodes s
  have keeps : ∀ (r : Option AbuRun) (call : AbuCall),
      (∀ r' ∈ r, AbuInv arch targetUt numNodes r') → (∀ r' ∈ r, Allowed numNodes r' call) →
      ∀ r' ∈ abuCall mgr numNodes r call, AbuInv arch targetUt numNodes r' := by
    intro r call inv allowed r' member
    rcases Option.bind_eq_some_iff.mp member with ⟨before, isBefore, done⟩
    exact abuStep_inv roomy upright (inv before isBefore) (allowed before isBefore) done
  have all := throughout_of_each keeps first each
  exact throughout_mono (fun r inv r' isSome followed => (inv r' isSome).abuExact roomy followed) all

end

def binArch : Architecture :=
  ⟨[⟨0, 0, 1, 1, 18⟩], [], 0, 18, 0, 9, false, 1⟩

def binMgr : DetailedMgr where
  grid := ⟨1, [0, 1, 2, 3, 4, 5, 6, 7, 8], 9, 18, 9, fun _ _ _ => some .R0⟩
  rowHeight := 1
  moveLimit := 10
  maxDispX := 100
  maxDispY := 100
  singleHeightCells := [0]
  multiHeightCells := []

def binState : PlacementState where
  nodes := fun _ => { left := 0, bottom := 0, width := 9, height := 1 }
  pixels := fun _ _ => ⟨none, 0, none⟩
  cellsInSeg := fun seg => if seg = 0 then [0] else []
  segUtil := fun _ => 9
  reverseCellToSegs := fun n => if n = 0 then [0] else []

def moveRight : List Request := [.single 0 0 9 0 0]

/-- The bin that the cell has left stays in the bucket that it had, beside the one that it has. -/
theorem bin_in_two_buckets : ((run (abuCall binMgr 1) (some (startAbu binArch (1 / 10) 1 binState))
        [.curr, .unevaluated moveRight, .curr]).map fun r =>
      (r.followed, (List.range 10).filter fun i => 0 ∈ r.objective.buckets.members i,
        (r.objective.curr 1 r.state.nodes).1,
        ((init binArch (1 / 10) 1 r.state.nodes).curr 1 r.state.nodes).1)) =
      some (true, [0, 1], 1 / 18, 1 / 9) := by
  decide +kernel

lemma binArch_roomy : binArch.Roomy := ⟨by decide, by decide, by decide⟩

lemma binMgr_upright : binMgr.grid.Upright := by
  rintro o ⟨y, x, site, isSite⟩
  cases isSite
  rfl

/-- A move that is accepted and one that is rejected, with the bins following. -/
theorem buckets_follow_cells_sample : Throughout (abuCall binMgr 1)
      (fun r => ∀ r' ∈ r, r'.followed = true →
        r'.failure = none ∧ AbuExact 1 r'.state.nodes r'.objective)
      (some (startAbu binArch (1 / 10) 1 binState))
      [.curr, .attempt ⟨moveRight, .accepted⟩, .attempt ⟨[.single 0 0 3 0 0], .rejected⟩] := by
  apply buckets_follow_cells _ binArch_roomy binMgr_upright
  rw [eachCall_cons, eachCall_cons, eachCall_cons]
  refine ⟨?_, ?_, ?_, eachCall_nil⟩
  · intro r isStart _ i b member
    cases isStart
    exact absurd member (Finset.notMem_empty b)
  · have handled : ∀ r' ∈ abuCall binMgr 1 (some (startAbu binArch (1 / 10) 1 binState)) .curr,
        Handled 1 r'.state.nodes moveRight := by decide
    exact handled
  · have handled : ∀ r' ∈ abuCall binMgr 1 (abuCall binMgr 1
          (some (startAbu binArch (1 / 10) 1 binState)) .curr) (.attempt ⟨moveRight, .accepted⟩),
        Handled 1 r'.state.nodes [.single 0 0 3 0 0] := by decide +kernel
    exact handled

end OpenRoad.Dpl
