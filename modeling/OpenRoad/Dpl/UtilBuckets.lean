import OpenRoad.Lib.Binned
import OpenRoad.Dpl.Segments
import OpenRoad.Dpl.Objectives

/-! The objective of crowded bins: utilisations, buckets of bins and their totals. -/

namespace OpenRoad.Dpl

open OpenRoad.Lib Function

def BIN_DIM : Int := 9

def BIN_AREA_THRESHOLD : ℚ := 1 / 5

def FREE_SPACE_THRESHOLD : ℚ := 1 / 5

def Architecture.abuGridUnit (arch : Architecture) : Int := BIN_DIM * arch.singleRowHeight

def Architecture.abuGridNumX (arch : Architecture) : Nat :=
  (divCeil (arch.maxX - arch.minX) arch.abuGridUnit).toNat

def Architecture.abuGridNumY (arch : Architecture) : Nat :=
  (divCeil (arch.maxY - arch.minY) arch.abuGridUnit).toNat

def Architecture.abuNumBins (arch : Architecture) : Nat := arch.abuGridNumX * arch.abuGridNumY

def Architecture.binBox (arch : Architecture) (k j : Nat) : Rect :=
  let lx := arch.minX + k * arch.abuGridUnit
  let ly := arch.minY + j * arch.abuGridUnit
  ⟨lx, ly, min (lx + arch.abuGridUnit) arch.maxX, min (ly + arch.abuGridUnit) arch.maxY⟩

def Architecture.bin (arch : Architecture) (binId : Nat) : Rect :=
  arch.binBox (binId % arch.abuGridNumX) (binId / arch.abuGridNumX)

def Architecture.binArea (arch : Architecture) (binId : Nat) : ℚ :=
  let bin := arch.bin binId
  max (((bin.xMax - bin.xMin) * (bin.yMax - bin.yMin) : Int) : ℚ) 0

def binRange (unit : Int) (count : Nat) (low high : Int) : List Nat :=
  (List.range count).filter fun k =>
    max (low / unit) 0 ≤ (k : Int) ∧ (k : Int) ≤ min (high / unit) (count - 1)

/-- The bins that a cell may reach into, row by row. -/
def Architecture.binsUnder (arch : Architecture) (nd : Node) : List Nat :=
  (binRange arch.abuGridUnit arch.abuGridNumY (nd.bottom - arch.minY) (nd.getTop - arch.minY)).flatMap
    fun j => (binRange arch.abuGridUnit arch.abuGridNumX (nd.left - arch.minX)
      (nd.getRight - arch.minX)).map fun k => j * arch.abuGridNumX + k

/-- What a cell and a bin have in common, if it is more than rounding. -/
def Architecture.common_area (arch : Architecture) (binId : Nat) (nd : Node) : Option ℚ :=
  let bin := arch.bin binId
  let lx := max bin.xMin nd.left
  let hx := min bin.xMax nd.getRight
  let ly := max bin.yMin nd.bottom
  let hy := min bin.yMax nd.getTop
  if ((hx - lx : Int) : ℚ) > 1 / 100000 ∧ ((hy - ly : Int) : ℚ) > 1 / 100000 then
    some ((hx - lx) * (hy - ly) : Int)
  else none

/-- The part of a bin that is covered by some cells. -/
def Architecture.insertArea (arch : Architecture) (util : Nat → ℚ) (nd : Node) : Nat → ℚ :=
  (arch.binsUnder nd).foldl (fun util binId =>
    match arch.common_area binId nd with
    | some area => update util binId (util binId + area)
    | none => util) util

structure DetailedABU where
  arch : Architecture
  abuTargUt : ℚ
  f_util : Nat → ℚ
  m_util : Nat → ℚ
  c_util : Nat → ℚ
  abuChangedBinsCounter : Nat
  abuChangedBins : List Nat
  abuChangedBinsMask : Nat → Nat
  buckets : Bins Nat Nat ℚ

def numBuckets : Nat := 10

def DetailedABU.init (arch : Architecture) (targetUt : ℚ) (numNodes : Nat) (nodes : Nat → Node) :
    DetailedABU where
  arch := arch
  abuTargUt := targetUt
  f_util := (((List.range numNodes).map nodes).filter Node.fixed).foldl arch.insertArea fun _ => 0
  m_util := fun _ => 0
  c_util := fun _ => 0
  abuChangedBinsCounter := 1
  abuChangedBins := []
  abuChangedBinsMask := fun _ => 0
  buckets := ⟨fun _ => ∅, fun _ => 0⟩

def DetailedABU.space (abu : DetailedABU) (binId : Nat) : ℚ :=
  abu.arch.binArea binId - abu.f_util binId

/-- The bucket of a bin, unless the bin is too small or too full of fixed cells. -/
def DetailedABU.getBucketId (abu : DetailedABU) (binId : Nat) (occ : ℚ) : Option Nat :=
  if abu.arch.binArea binId ≤
      abu.arch.abuGridUnit * abu.arch.abuGridUnit * BIN_AREA_THRESHOLD then none
  else
    let free_space := abu.space binId
    if free_space ≤ FREE_SPACE_THRESHOLD * abu.arch.binArea binId then none
    else
      let util := occ / free_space
      let denom := 1 / (numBuckets : ℚ)
      some (max 0 (min ⌊util / denom⌋ (numBuckets - 1))).toNat

def DetailedABU.clearUtils (abu : DetailedABU) : DetailedABU :=
  { abu with m_util := fun _ => 0, c_util := fun _ => 0 }

def DetailedABU.computeUtils (numNodes : Nat) (nodes : Nat → Node) (abu : DetailedABU) :
    DetailedABU :=
  { abu with
    m_util := (((List.range numNodes).filter (Movable nodes)).map nodes).foldl abu.arch.insertArea
      abu.m_util }

def DetailedABU.clearBuckets (abu : DetailedABU) : DetailedABU :=
  { abu with buckets := { abu.buckets with totals := fun _ => 0 } }

/-- The loop that empties the buckets goes over copies of them, so that what is in a bucket stays
there. -/
def DetailedABU.computeBuckets (abu : DetailedABU) : DetailedABU :=
  let members := (List.range abu.arch.abuNumBins).foldl (fun members binId =>
    match abu.getBucketId binId (abu.m_util binId) with
    | none => members
    | some ix => update members ix (insert binId (members ix))) abu.buckets.members
  { abu with
    buckets := ⟨members, fun i => ∑ binId ∈ members i, abu.m_util binId / abu.space binId⟩ }

def DetailedABU.recompute (numNodes : Nat) (nodes : Nat → Node) (abu : DetailedABU) : DetailedABU :=
  (abu.clearUtils.computeUtils numNodes nodes).clearBuckets.computeBuckets

/-- The mean utilisations of the buckets over the target, from the last bucket downwards. -/
def DetailedABU.fofFrom (abu : DetailedABU) : Nat → ℚ
  | 0 => 0
  | i + 1 =>
    let denom := 1 / (numBuckets : ℚ)
    if (i + 1) * denom > abu.abuTargUt then
      (if abu.buckets.members i = ∅ then 0
        else abu.buckets.totals i / (abu.buckets.members i).card) + abu.fofFrom i
    else 0

def DetailedABU.fof (abu : DetailedABU) : ℚ := abu.fofFrom numBuckets

def DetailedABU.curr (numNodes : Nat) (nodes : Nat → Node) (abu : DetailedABU) : ℚ × DetailedABU :=
  if abu.abuTargUt ≥ 999 / 1000 then (0, abu)
  else ((abu.recompute numNodes nodes).fof, abu.recompute numNodes nodes)

def DetailedABU.measureABU (numNodes : Nat) (nodes : Nat → Node) (abu : DetailedABU) : DetailedABU :=
  abu.recompute numNodes nodes

/-- The old utilisation is remembered when a bin is changed for the first time. -/
def DetailedABU.touch (abu : DetailedABU) (binId : Nat) (amount : ℚ) : DetailedABU :=
  let abu := if abu.abuChangedBinsMask binId ≠ abu.abuChangedBinsCounter then
      { abu with
        abuChangedBinsMask :=
          update abu.abuChangedBinsMask binId abu.abuChangedBinsCounter
        abuChangedBins := abu.abuChangedBins ++ [binId]
        c_util := update abu.c_util binId (abu.m_util binId) }
    else abu
  { abu with m_util := update abu.m_util binId (abu.m_util binId + amount) }

/-- The centre of the cell less half of its width is its left edge. -/
def DetailedABU.updateBins (abu : DetailedABU) (nd : Node) (addSub : ℚ) :
    Except String DetailedABU :=
  if nd.isTerminal ∨ nd.fixed then
    .error (segmentError "Problem updating bins for utilization objective")
  else .ok ((abu.arch.binsUnder nd).foldl (fun updated binId =>
    match abu.arch.common_area binId nd with
    | some area => updated.touch binId (area * addSub)
    | none => updated) abu)

def DetailedABU.weight (abu : DetailedABU) (binId : Nat) (util : ℚ) : ℚ := util / abu.space binId

def DetailedABU.rebucket (abu : DetailedABU) (old new : Nat → ℚ) (msg : String) :
    Except String (Bins Nat Nat ℚ) :=
  match abu.buckets.moveAll abu.getBucketId abu.weight old new abu.abuChangedBins with
  | none => .error (segmentError msg)
  | some buckets => .ok buckets

def updateAll (nodes : Nat → Node) (cells : List Nat) (addSub : ℚ) (abu : DetailedABU) :
    Except String DetailedABU :=
  cells.foldlM (fun abu n => abu.updateBins (nodes n) addSub) abu

/-- The improvement by the moves of a journal, which the places are taken back and forth for. -/
def DetailedABU.delta (mgr : DetailedMgr) (journal : Journal) (s : PlacementState)
    (abu : DetailedABU) : Except String (ℚ × DetailedABU × PlacementState) := do
  let fofOld := abu.fof
  let abu := { abu with abuChangedBinsCounter := abu.abuChangedBinsCounter + 1 }
  let old ← journal.undo mgr true s
  let abu ← updateAll old.nodes journal.affected_nodes (-1) abu
  let new ← journal.redo mgr true old
  let abu ← updateAll new.nodes journal.affected_nodes 1 abu
  let buckets ← abu.rebucket abu.c_util abu.m_util "Unable to find bin within utilization objective"
  let abu := { abu with buckets := buckets }
  .ok (fofOld - abu.fof, abu, new)

def DetailedABU.acceptBins (abu : DetailedABU) : DetailedABU := { abu with abuChangedBins := [] }

def DetailedABU.rejectBin (abu : DetailedABU) (binId : Nat) : Except String DetailedABU :=
  match abu.buckets.remove abu.getBucketId abu.weight binId (abu.m_util binId) with
  | none => .error (segmentError "Error rejecting bins for utilization objective")
  | some removed =>
    .ok { abu with
      buckets := removed.insert abu.getBucketId abu.weight binId (abu.c_util binId)
      m_util := update abu.m_util binId (abu.c_util binId) }

def DetailedABU.rejectBins (abu : DetailedABU) : Except String DetailedABU := do
  let abu ← abu.abuChangedBins.foldlM DetailedABU.rejectBin abu
  .ok { abu with abuChangedBins := [] }

inductive AbuCall
  | curr
  | measureABU
  | attempt (attempt : Attempt)
  | unevaluated (requests : List Request)
deriving DecidableEq

structure AbuRun where
  state : PlacementState
  objective : DetailedABU
  followed : Bool
  failure : Option String

def attemptStep (mgr : DetailedMgr) (r : AbuRun) (attempt : Attempt) : Option AbuRun := do
  let (s, journal) ← composeMoves mgr attempt.requests r.state
  match attempt.verdict with
  | .withdrawn => do
    let (s, _) ← (rejectMove mgr journal s).toOption
    some { r with state := s }
  | .accepted =>
    match r.objective.delta mgr journal s with
    | .error msg => some { r with failure := some msg }
    | .ok (_, abu, s) => some { r with state := s, objective := abu.acceptBins }
  | .rejected =>
    match r.objective.delta mgr journal s with
    | .error msg => some { r with failure := some msg }
    | .ok (_, abu, s) => do
      let (s, _) ← (rejectMove mgr journal s).toOption
      match abu.rejectBins with
      | .error msg => some { r with failure := some msg }
      | .ok abu => some { r with state := s, objective := abu }

/-- Nothing happens any more once the objective has failed. -/
def abuStep (mgr : DetailedMgr) (numNodes : Nat) (r : AbuRun) (call : AbuCall) : Option AbuRun :=
  if r.failure.isSome then some r
  else match call with
    | .curr => some { r with
      objective := (r.objective.curr numNodes r.state.nodes).2
      followed := r.followed ∨ r.objective.abuTargUt < 999 / 1000 }
    | .measureABU => some { r with
      objective := r.objective.measureABU numNodes r.state.nodes
      followed := true }
    | .attempt attempt => attemptStep mgr r attempt
    | .unevaluated requests => do
      let (s, _) ← composeMoves mgr requests r.state
      some { r with state := s, objective := r.objective.acceptBins, followed := false }

def abuCall (mgr : DetailedMgr) (numNodes : Nat) (r : Option AbuRun) (call : AbuCall) :
    Option AbuRun := r.bind fun r => abuStep mgr numNodes r call

def startAbu (arch : Architecture) (targetUt : ℚ) (numNodes : Nat) (s : PlacementState) : AbuRun :=
  ⟨s, DetailedABU.init arch targetUt numNodes s.nodes, false, none⟩

end OpenRoad.Dpl
