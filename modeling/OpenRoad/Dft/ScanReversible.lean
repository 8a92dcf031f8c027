import Mathlib.Data.List.Nodup
import Mathlib.Data.List.Sort
import OpenRoad.Dft.ScanRestored

/-! Scan replacement is undone exactly where every scan cell stands for one master that was there
before. -/

namespace OpenRoad.Dft

open OpenRoad.Lib List
open Option hiding any_eq_false map_map mem_map
open Option (some_injective isSome_iff_exists)

variable {db : Db} {sta : Sta} {masters : List Nat} {design : Design} {inst : Inst}
  {candidate : ScanCandidate} {portMapping : PortMapping} {master : Nat}

def Pinned (db : Db) (inst : Inst) : Prop := inst.iterms.map ITerm.name = db.mterms inst.master

lemma Pinned.unique (pinned : Pinned db inst) {a b : ITerm} (isA : a ∈ inst.iterms)
    (isB : b ∈ inst.iterms) (same : a.name = b.name) : a = b := by
  have nodup := db.mterms_nodup inst.master
  rw [← pinned] at nodup
  exact inj_on_of_nodup_map nodup isA isB same

lemma mem_populate {pin : String × Option Nat} :
    pin ∈ populatePortNameToNet inst ↔ ∃ iterm ∈ inst.iterms, (iterm.name, iterm.net) = pin := by
  rw [populatePortNameToNet, mem_map]

lemma populate_replacement : populatePortNameToNet (db.replacement inst master portMapping) =
    (db.mterms master).map fun port =>
      (port, netFor portMapping (populatePortNameToNet inst) port) := by
  rw [populatePortNameToNet, Db.replacement, map_map]
  rfl

/-- The port of the scan cell that a connected pin goes to leads back to the pin. -/
def MapsBack (db : Db) (sta : Sta) (inst : Inst) (master : Nat) (portMapping : PortMapping) : Prop :=
  ∀ iterm ∈ inst.iterms, iterm.net.isSome → ∃ scanPort ∈ db.mterms master,
    portMapping.lookup iterm.name = some scanPort ∧
      (flipPorts sta portMapping).lookup scanPort = some iterm.name

section MapsBack

variable (mapsBack : MapsBack db sta inst master portMapping)

include mapsBack

lemma MapsBack.origin {scanPort : String} {net : Nat}
    (isNet : netFor portMapping (populatePortNameToNet inst) scanPort = some net) :
    ∃ iterm ∈ inst.iterms, iterm.net = some net ∧
      (flipPorts sta portMapping).lookup scanPort = some iterm.name := by
  rcases netFor_some isNet with ⟨pin, member, isPin, goes⟩
  rcases mem_populate.mp member with ⟨iterm, isTerm, rfl⟩
  dsimp only at isPin goes
  rcases mapsBack iterm isTerm (by rw [isPin, isSome_some]) with ⟨port, _, goes', back⟩
  rw [goes] at goes'
  rw [← some_injective _ goes'] at back
  exact ⟨iterm, isTerm, isPin, back⟩

lemma MapsBack.reconnects : Reconnects portMapping (db.mterms master)
    (populatePortNameToNet inst) := by
  intro pin member connected
  rcases mem_populate.mp member with ⟨iterm, isTerm, rfl⟩
  rcases mapsBack iterm isTerm connected with ⟨scanPort, isPort, goes, _⟩
  exact ⟨scanPort, isPort, goes⟩

lemma MapsBack.reconnects_back (pinned : Pinned db inst) :
    Reconnects (flipPorts sta portMapping) (db.mterms inst.master)
      (populatePortNameToNet (db.replacement inst master portMapping)) := by
  intro pin member connected
  rw [populate_replacement, mem_map] at member
  rcases member with ⟨scanPort, _, rfl⟩
  rcases isSome_iff_exists.mp connected with ⟨net, isNet⟩
  rcases mapsBack.origin isNet with ⟨iterm, isTerm, _, back⟩
  rw [← pinned]
  exact ⟨iterm.name, mem_map_of_mem isTerm, back⟩

lemma MapsBack.scan_net (pinned : Pinned db inst) {iterm : ITerm} (isTerm : iterm ∈ inst.iterms)
    {scanPort : String} (connected : iterm.net.isSome)
    (goes : portMapping.lookup iterm.name = some scanPort) :
    netFor portMapping (populatePortNameToNet inst) scanPort = iterm.net := by
  rcases mapsBack iterm isTerm connected with ⟨port, _, goes', back⟩
  rw [goes] at goes'
  rw [← some_injective _ goes'] at back
  have member : (iterm.name, iterm.net) ∈ populatePortNameToNet inst :=
    mem_populate.mpr ⟨iterm, isTerm, rfl⟩
  refine netFor_eq member goes connected fun other isOther isNet same => ?_
  rcases mem_populate.mp isOther with ⟨iterm', isTerm', rfl⟩
  rcases mapsBack iterm' isTerm' isNet with ⟨port', _, goes'', back'⟩
  rw [same] at goes''
  rw [← some_injective _ goes'', back] at back'
  rw [pinned.unique isTerm isTerm' (some_injective _ back')]

lemma MapsBack.net (pinned : Pinned db inst) (nodup : (portMapping.map Prod.fst).Nodup)
    {iterm : ITerm} (isTerm : iterm ∈ inst.iterms) :
    netFor (flipPorts sta portMapping)
      (populatePortNameToNet (db.replacement inst master portMapping)) iterm.name = iterm.net := by
  rw [populate_replacement]
  cases isNet : iterm.net with
  | some net =>
    have connected : iterm.net.isSome := by rw [isNet, isSome_some]
    rcases mapsBack iterm isTerm connected with ⟨scanPort, isPort, goes, back⟩
    have scanNet := mapsBack.scan_net pinned isTerm connected goes
    rw [isNet] at scanNet
    refine Eq.trans (netFor_eq (mem_map_of_mem isPort) back ?_ ?_) scanNet
    · exact isSome_iff_exists.mpr ⟨net, scanNet⟩
    · intro other isOther _ back'
      rcases mem_map.mp isOther with ⟨port', _, rfl⟩
      have goes' := lookup_of_flipPorts sta nodup back'
      rw [goes] at goes'
      rw [some_injective _ goes']
  | none =>
    rw [eq_none_iff_forall_ne_some]
    intro net isBack
    rcases netFor_some isBack with ⟨pin, isPin, scanNet, back⟩
    rcases mem_map.mp isPin with ⟨scanPort, _, rfl⟩
    rcases mapsBack.origin scanNet with ⟨iterm', isTerm', isNet', back'⟩
    dsimp only at back
    rw [back] at back'
    rw [pinned.unique isTerm isTerm' (some_injective _ back'), isNet'] at isNet
    exact absurd isNet (by simp)

end MapsBack

lemma mapsBack_of_nets (nodup : (portMapping.map Prod.fst).Nodup)
    (reconnects : Reconnects portMapping (db.mterms master) (populatePortNameToNet inst))
    (nets : ∀ iterm ∈ inst.iterms, netFor (flipPorts sta portMapping)
      (populatePortNameToNet (db.replacement inst master portMapping)) iterm.name = iterm.net) :
    MapsBack db sta inst master portMapping := by
  intro iterm isTerm connected
  rcases reconnects _ (mem_populate.mpr ⟨iterm, isTerm, rfl⟩) connected with ⟨port, isPort, goes⟩
  rcases isSome_iff_exists.mp connected with ⟨net, isNet⟩
  have isBack := nets iterm isTerm
  rw [isNet] at isBack
  rcases netFor_some isBack with ⟨pin, _, _, back⟩
  have goes' := lookup_of_flipPorts sta nodup back
  dsimp only at goes
  rw [goes] at goes'
  rw [← some_injective _ goes'] at back
  exact ⟨port, isPort, goes, back⟩

def Inst.visible (inst : Inst) : Inst :=
  { inst with
    sourceType := 0
    isDoNotTouch := false
    isHierarchical := false
    hasScanInst := false }

structure PutBack (db : Db) (sta : Sta) (design : Design) (inst : Inst)
    (candidate : ScanCandidate) : Prop where
  /-- No instance has the name that new ones have at first. -/
  free : design (tmpKey inst.block) = none
  noScanInst : inst.hasScanInst = false
  inModule : inst.module.isSome
  flat : ∀ iterm ∈ inst.iterms, iterm.modNet = none
  ports : MapsBack db sta inst (sta.staToDb candidate.scanCell) candidate.portMapping

lemma visible_back_iff (pinned : Pinned db inst) {portMapping' : PortMapping} :
    (db.replacement (db.replacement inst master portMapping) inst.master portMapping').visible =
        inst.visible ↔
      inst.module.isSome ∧ ∀ iterm ∈ inst.iterms, iterm.modNet = none ∧
        netFor portMapping' (populatePortNameToNet (db.replacement inst master portMapping))
          iterm.name = iterm.net := by
  have terms : (db.replacement (db.replacement inst master portMapping) inst.master
      portMapping').iterms = inst.iterms ↔ ∀ iterm ∈ inst.iterms, iterm.modNet = none ∧
        netFor portMapping' (populatePortNameToNet (db.replacement inst master portMapping))
          iterm.name = iterm.net := by
    rw [Db.replacement, ← pinned, map_map]
    refine Iff.trans (Iff.of_eq (congrArg (_ = ·) (map_id _).symm))
      (map_inj_left.trans (forall₂_congr fun iterm _ => ?_))
    rw [id, Function.comp, ITerm.mk.injEq]
    exact ⟨fun same => ⟨same.2.2.symm, same.2.1⟩, fun same => ⟨rfl, same.2, same.1.symm⟩⟩
  rw [← terms]
  cases isModule : inst.module with
  | none =>
    refine iff_of_false (fun same => ?_) (fun same => absurd same.1 (by simp))
    have modules := congrArg Inst.module same
    simp [Inst.visible, Db.replacement, isModule] at modules
  | some module =>
    rw [Inst.visible, Inst.visible, Inst.mk.injEq]
    simp [Db.replacement, isModule]

lemma replaceable_there (found : scanCandidateOf db sta masters inst = some candidate)
    (putBack : PutBack db sta design inst candidate) :
    db.Replaceable design inst (sta.staToDb candidate.scanCell) candidate.portMapping := by
  rcases (scanCandidateOf_some found).1 with ⟨touch, nets, _⟩
  refine ⟨putBack.free, ?_, putBack.ports.reconnects⟩
  rw [Db.haveDontTouchNets, any_eq_false] at nets
  refine Db.canDestroy_iff.mpr ⟨touch, putBack.noScanInst, fun iterm isTerm net isNet => ?_⟩
  have mayTouch := nets iterm isTerm
  rw [isNet, any_some] at mayTouch
  simpa using mayTouch

lemma replaceable_back (pinned : Pinned db inst)
    (found : scanCandidateOf db sta masters inst = some candidate)
    (putBack : PutBack db sta design inst candidate) :
    db.Replaceable design
      (db.replacement inst (sta.staToDb candidate.scanCell) candidate.portMapping) inst.master
      (flipPorts sta candidate.portMapping) := by
  refine ⟨putBack.free, ?_, putBack.ports.reconnects_back pinned⟩
  have destroyable := (replaceable_there found putBack).2.1
  refine Db.canDestroy_iff.mpr ⟨rfl, rfl, fun iterm isTerm net isNet => ?_⟩
  rcases mem_map.mp isTerm with ⟨port, _, rfl⟩
  rcases putBack.ports.origin isNet with ⟨iterm', isTerm', same, _⟩
  exact (Db.canDestroy_iff.mp destroyable).2.2 iterm' isTerm' net same

lemma candidate_nodup (found : scanCandidateOf db sta masters inst = some candidate) :
    (candidate.portMapping.map Prod.fst).Nodup := by
  rcases (scanCandidateOf_some found).2 with ⟨cell, _, isCandidate⟩
  exact (nonScanToScanLibCells_some isCandidate).2.2

lemma putBack_iff (pinned : Pinned db inst)
    (found : scanCandidateOf db sta masters inst = some candidate) :
    (∃ there back, db.replaced design inst (sta.staToDb candidate.scanCell)
        candidate.portMapping = some there ∧
      db.replaced design there inst.master (flipPorts sta candidate.portMapping) = some back ∧
        back.visible = inst.visible) ↔ PutBack db sta design inst candidate := by
  constructor
  · rintro ⟨there, back, isThere, isBack, same⟩
    rcases Db.replaced_some.mp isThere with ⟨⟨free, destroyable, reconnects⟩, rfl⟩
    rcases Db.replaced_some.mp isBack with ⟨_, rfl⟩
    rcases (visible_back_iff pinned).mp same with ⟨inModule, terms⟩
    exact
      { free := free
        noScanInst := (Db.canDestroy_iff.mp destroyable).2.1
        inModule := inModule
        flat := fun iterm isTerm => (terms iterm isTerm).1
        ports := mapsBack_of_nets (candidate_nodup found) reconnects
          fun iterm isTerm => (terms iterm isTerm).2 }
  · intro putBack
    refine ⟨_, _, Db.replaced_some.mpr ⟨replaceable_there found putBack, rfl⟩,
      Db.replaced_some.mpr ⟨replaceable_back pinned found putBack, rfl⟩, ?_⟩
    exact (visible_back_iff pinned).mpr ⟨putBack.inModule, fun iterm isTerm =>
      ⟨putBack.flat iterm isTerm, putBack.ports.net pinned (candidate_nodup found) isTerm⟩⟩

structure Block (db : Db) where
  insts : Design
  keyed : Keyed insts
  pinned : ∀ k inst, insts k = some inst → Pinned db inst

/-- The instance comes back: its scan cell stands for its master alone and is put back as it was. -/
structure Reversible (db : Db) (sta : Sta) (masters : List Nat) (design : Design)
    (inst : Inst) : Prop where
  sameMaster : ∀ k other, design k = some other → (scanMasterOf db sta masters inst).isSome →
    scanMasterOf db sta masters other = scanMasterOf db sta masters inst →
      other.master = inst.master
  noScanCell : ∀ k other, design k = some other →
    scanMasterOf db sta masters other ≠ some inst.master
  putBack : ∀ candidate, scanCandidateOf db sta masters inst = some candidate →
    PutBack db sta design inst candidate

/-- Replacement and rollback leave every instance as it was. -/
def RolledBack (db : Db) (sta : Sta) (masters : List Nat) (visits visits' : List InstKey)
    (design : Design) : Prop :=
  ∃ s out, scanReplace db sta masters visits design = some s ∧
    rollbackScanReplace db s.rollbackCandidates visits' s.design = some out ∧
      ∀ k, (out k).map Inst.visible = (design k).map Inst.visible

lemma scanMasterOf_some {master : Nat} (isMaster : scanMasterOf db sta masters inst = some master) :
    ∃ candidate, scanCandidateOf db sta masters inst = some candidate ∧
      sta.staToDb candidate.scanCell = master :=
  map_eq_some_iff.mp isMaster

section Instances

variable {start : Design} {rollbackCandidates : RollbackCandidates}
  (noted : Noted db sta masters start rollbackCandidates)
  (kept : ∀ k inst master, start k = some inst → scanMasterOf db sta masters inst = some master →
    (rollbackCandidates.lookup master).isSome)

include noted

lemma lookup_of_sameMaster (reversible : Reversible db sta masters start inst)
    (found : scanCandidateOf db sta masters inst = some candidate)
    {rollback : RollbackCandidate}
    (isRollback : rollbackCandidates.lookup (sta.staToDb candidate.scanCell) = some rollback) :
    rollback = ⟨inst.master, flipPorts sta candidate.portMapping⟩ := by
  rcases noted _ _ isRollback with ⟨k, other, candidate', isStart, found', sameScan, rfl⟩
  have isScan : scanMasterOf db sta masters inst = some (sta.staToDb candidate.scanCell) := by
    rw [scanMasterOf, found, map_some]
  have sameMaster := reversible.sameMaster k other isStart (by rw [isScan, isSome_some]) (by
    rw [isScan, scanMasterOf, found', map_some, sameScan])
  rw [sameMaster, candidate_unique found found' sameMaster]

include kept

lemma comes_back {k : InstKey} (isStart : start k = some inst) (pinned : Pinned db inst)
    (reversible : Reversible db sta masters start inst) :
    ∃ there back, scanned db sta masters start inst = some there ∧
      rolledBack db rollbackCandidates start there = some back ∧ back.visible = inst.visible := by
  cases found : scanCandidateOf db sta masters inst with
  | none =>
    refine ⟨inst, inst, by rw [scanned, found], ?_, rfl⟩
    cases isRollback : rollbackCandidates.lookup inst.master with
    | none => rw [rolledBack, isRollback]
    | some rollback =>
      rcases noted _ _ isRollback with ⟨k', other, candidate, isOther, isScan, isMaster, _⟩
      have scans : scanMasterOf db sta masters other = some inst.master := by
        rw [scanMasterOf, isScan, map_some, isMaster]
      exact absurd scans (reversible.noScanCell k' other isOther)
  | some candidate =>
    rcases (putBack_iff pinned found).mpr (reversible.putBack candidate found) with
      ⟨there, back, isThere, isBack, same⟩
    have isScan : scanMasterOf db sta masters inst = some (sta.staToDb candidate.scanCell) := by
      rw [scanMasterOf, found, map_some]
    rcases isSome_iff_exists.mp (kept k inst _ isStart isScan) with ⟨rollback, isRollback⟩
    have isWay := lookup_of_sameMaster noted reversible found isRollback
    have isScanMaster : there.master = sta.staToDb candidate.scanCell := by
      rw [(Db.replaced_some.mp isThere).2]
      rfl
    refine ⟨there, back, by rw [scanned, found]; exact isThere, ?_, same⟩
    rw [rolledBack, isScanMaster, isRollback, isWay]
    exact isBack

end Instances

lemma rolledBack_congr {rollbackCandidates : RollbackCandidates} {design' : Design}
    (same : ∀ k, design k = none ↔ design' k = none) :
    rolledBack db rollbackCandidates design = rolledBack db rollbackCandidates design' := by
  funext inst
  rw [rolledBack, rolledBack]
  cases rollbackCandidates.lookup inst.master with
  | none => rfl
  | some candidate => exact Db.replaced_congr (same _)

lemma runs_spec {block : Block db} {visits visits' : List InstKey} {s : ReplaceState}
    {out : Design} (met : ∀ k inst, block.insts k = some inst → k ∈ visits)
    (met' : ∀ k inst, block.insts k = some inst → k ∈ visits')
    (there : scanReplace db sta masters visits block.insts = some s)
    (back : rollbackScanReplace db s.rollbackCandidates visits' s.design = some out) (k : InstKey) :
    s.design k = (block.insts k).bind (scanned db sta masters block.insts) ∧
      out k = (s.design k).bind (rolledBack db s.rollbackCandidates block.insts) := by
  have first := scanReplace_scanned block.keyed there
  have keyed := block.keyed.run (fun _ _ => scanned_key) first.run
  have second := rollbackScanReplace_visited keyed first.noted back
  rw [rolledBack_congr first.run.none_iff] at second
  refine ⟨first.run.eq_bind met k, second.eq_bind (fun x a present => ?_) k⟩
  rcases first.run.origin present with ⟨a₀, isStart, _⟩
  exact met' x a₀ isStart

lemma reversible_of_rolledBack {block : Block db} {visits visits' : List InstKey}
    (met : ∀ k inst, block.insts k = some inst → k ∈ visits)
    (met' : ∀ k inst, block.insts k = some inst → k ∈ visits')
    (restored : RolledBack db sta masters visits visits' block.insts) {k : InstKey}
    (isStart : block.insts k = some inst) : Reversible db sta masters block.insts inst := by
  rcases restored with ⟨s, out, there, back, same⟩
  have first := scanReplace_scanned block.keyed there
  have noted := first.noted
  have runs : ∀ k inst, block.insts k = some inst → ∃ b o,
      scanned db sta masters block.insts inst = some b ∧
        rolledBack db s.rollbackCandidates block.insts b = some o ∧ o.visible = inst.visible := by
    intro k inst isStart
    rcases runs_spec met met' there back k with ⟨isThere, isBack⟩
    have visible := same k
    rw [isBack, isThere, isStart, bind_some, map_some] at visible
    rcases map_eq_some_iff.mp visible with ⟨o, found, isVisible⟩
    rcases bind_eq_some_iff.mp found with ⟨b, becomes, returns⟩
    exact ⟨b, o, becomes, returns, isVisible⟩
  -- the way back of a scan cell leads to the master of everything that it stands for
  have returns : ∀ k inst candidate, block.insts k = some inst →
      scanCandidateOf db sta masters inst = some candidate →
      ∃ rollback, s.rollbackCandidates.lookup (sta.staToDb candidate.scanCell) = some rollback ∧
        rollback.master = inst.master := by
    intro k inst candidate isStart found
    rcases runs k inst isStart with ⟨b, o, becomes, isBack, visible⟩
    have isScan : scanMasterOf db sta masters inst = some (sta.staToDb candidate.scanCell) := by
      rw [scanMasterOf, found, map_some]
    rcases isSome_iff_exists.mp (first.kept k (met k inst isStart) inst _ isStart isScan)
      with ⟨rollback, isRollback⟩
    rw [scanned, found] at becomes
    have isMaster : b.master = sta.staToDb candidate.scanCell := by
      rw [(Db.replaced_some.mp becomes).2]
      rfl
    rw [rolledBack, isMaster, isRollback] at isBack
    have masters' := congrArg Inst.master visible
    rw [(Db.replaced_some.mp isBack).2] at masters'
    exact ⟨rollback, isRollback, masters'⟩
  refine
    { sameMaster := fun k' other isOther isReplaced sameScan => ?_
      noScanCell := fun k' other isOther scans => ?_
      putBack := fun candidate found => ?_ }
  · rcases isSome_iff_exists.mp isReplaced with ⟨master, isMaster⟩
    rw [isMaster] at sameScan
    rcases scanMasterOf_some isMaster with ⟨candidate, found, isScan⟩
    rcases scanMasterOf_some sameScan with ⟨candidate', found', isScan'⟩
    rcases returns k inst candidate isStart found with ⟨rollback, isRollback, isInst⟩
    rcases returns k' other candidate' isOther found' with ⟨rollback', isRollback', isOther'⟩
    rw [isScan', ← isScan, isRollback] at isRollback'
    rw [← isInst, ← isOther', some_injective _ isRollback']
  · rcases scanMasterOf_some scans with ⟨candidate, found, isScan⟩
    rcases isSome_iff_exists.mp
      (first.kept k' (met k' other isOther) other _ isOther scans) with ⟨rollback, isRollback⟩
    cases found' : scanCandidateOf db sta masters inst with
    | some candidate' => exact scan_ne_master found found' isScan
    | none =>
      rcases runs k inst isStart with ⟨b, o, becomes, isBack, visible⟩
      rw [scanned, found'] at becomes
      rw [← some_injective _ becomes, rolledBack, isRollback] at isBack
      have masters' := congrArg Inst.master visible
      rw [(Db.replaced_some.mp isBack).2] at masters'
      rcases noted _ _ isRollback with ⟨_, source, candidate', _, found'', sameScan, rfl⟩
      exact scan_ne_master found'' found'' (sameScan.trans masters'.symm)
  · rcases runs k inst isStart with ⟨b, o, becomes, isBack, visible⟩
    rcases returns k inst candidate isStart found with ⟨rollback, isRollback, isInst⟩
    rcases noted _ _ isRollback with ⟨_, source, candidate', _, found', _, rfl⟩
    rw [candidate_unique found found' isInst] at isRollback
    rw [scanned, found] at becomes
    have isMaster : b.master = sta.staToDb candidate.scanCell := by
      rw [(Db.replaced_some.mp becomes).2]
      rfl
    rw [rolledBack, isMaster, isRollback] at isBack
    dsimp only at isBack isInst
    rw [isInst] at isBack
    exact (putBack_iff (block.pinned k inst isStart) found).mp ⟨b, o, becomes, isBack, visible⟩

/-- Replacement and rollback leave every instance as it was exactly if every instance is
reversible. -/
theorem scan_replace_rolled_back_iff (db : Db) (sta : Sta) (masters : List Nat) (block : Block db)
    (visits visits' : List InstKey) (met : ∀ k inst, block.insts k = some inst → k ∈ visits)
    (met' : ∀ k inst, block.insts k = some inst → k ∈ visits') :
    RolledBack db sta masters visits visits' block.insts ↔
      ∀ k inst, block.insts k = some inst → Reversible db sta masters block.insts inst := by
  constructor
  · intro restored k inst isStart
    exact reversible_of_rolledBack met met' restored isStart
  · intro reversible
    -- what is replaced depends on the block alone, so the first pass does not fail
    have candidates : ∀ k inst, block.insts k = some inst →
        (scanned db sta masters block.insts inst).isSome := by
      intro k inst isStart
      rw [scanned]
      cases found : scanCandidateOf db sta masters inst with
      | none => rfl
      | some candidate =>
        have putBack := (reversible k inst isStart).putBack candidate found
        exact Option.isSome_iff_exists.mpr
          ⟨_, Db.replaced_some.mpr ⟨replaceable_there found putBack, rfl⟩⟩
    rcases scanReplace_isSome block.keyed candidates visits with ⟨s, there⟩
    have first := scanReplace_scanned block.keyed there
    have comes := fun k inst isStart => comes_back first.noted
      (fun k inst master isStart isMaster =>
        first.kept k (met k inst isStart) inst master isStart isMaster)
      isStart (block.pinned k inst isStart) (reversible k inst isStart)
    have keyed := block.keyed.run (fun _ _ => scanned_key) first.run
    have returns : ∀ k inst, s.design k = some inst →
        (rolledBack db s.rollbackCandidates s.design inst).isSome := by
      intro k inst present
      rw [rolledBack_congr first.run.none_iff]
      rw [first.run.eq_bind met k] at present
      rcases Option.bind_eq_some_iff.mp present with ⟨inst₀, isStart, becomes⟩
      rcases comes k inst₀ isStart with ⟨b, o, becomes', isBack, _⟩
      rw [becomes] at becomes'
      rw [Option.some_injective _ becomes', isBack, Option.isSome_some]
    rcases rollbackScanReplace_isSome keyed first.noted returns visits' with ⟨out, back⟩
    refine ⟨s, out, there, back, fun k => ?_⟩
    rcases runs_spec met met' there back k with ⟨isThere, isBack⟩
    rw [isBack, isThere]
    cases isStart : block.insts k with
    | none => rfl
    | some inst =>
      rcases comes k inst isStart with ⟨b, o, becomes, returns, visible⟩
      rw [Option.bind_some, becomes, Option.bind_some, returns, Option.map_some, visible,
        Option.map_some]

def flop (address : Nat) : LibertyCell where
  address := address
  ports := [⟨"D", false, 0, none⟩, ⟨"CK", false, 0, none⟩, ⟨"Q", false, 1, some 7⟩]
  testCell := none
  hasSequentials := true
  dontUse := false
  isClockGate := false

def scanFlop : LibertyCell where
  address := 3
  ports := [⟨"D", false, 0, none⟩, ⟨"CK", false, 0, none⟩, ⟨"SI", false, 0, none⟩,
    ⟨"SE", false, 0, none⟩, ⟨"Q", false, 1, some 7⟩]
  testCell := some ⟨[⟨"SI", true⟩, ⟨"SE", true⟩], true, true⟩
  hasSequentials := true
  dontUse := false
  isClockGate := false

/-- Masters 1 and 2 are flops, and 3 is a scan flop that can replace both. -/
def flopSta : Sta where
  libertyCell master :=
    if master = 1 then some (flop 1)
    else if master = 2 then some (flop 2)
    else if master = 3 then some scanFlop
    else none
  staToDb cell := cell.address
  functionEquiv a b := a = b
  pgEquiv a b := a.name = b.name
  driveResistance _ := 1
  sort difference := List.insertionSort fun lhs rhs => difference lhs ≤ difference rhs
  hashOrder := id
  sort_perm _ candidates := List.perm_insertionSort _ candidates
  sort_sorted difference candidates := by
    have total : Std.Total fun lhs rhs : ScanCandidate => difference lhs ≤ difference rhs :=
      ⟨fun _ _ => le_total _ _⟩
    have trans : IsTrans ScanCandidate fun lhs rhs => difference lhs ≤ difference rhs :=
      ⟨fun _ _ _ => le_trans⟩
    exact List.pairwise_insertionSort _ candidates
  hash_perm _ := List.Perm.refl _
  cell_of_master master cell isCell := by
    split at isCell
    · rw [← Option.some_injective _ isCell]
      rfl
    · split at isCell
      · rw [← Option.some_injective _ isCell]
        rfl
      · split at isCell
        · rw [← Option.some_injective _ isCell]
          rfl
        · exact absurd isCell (by simp)

def flopDb : Db where
  mterms master := if master = 3 then ["D", "CK", "SI", "SE", "Q"] else ["D", "CK", "Q"]
  topModule _ := 1
  netDoNotTouch _ := false
  mterms_nodup master := by
    split
    · decide
    · decide

def flopInst (name : String) (master : Nat) : Inst where
  block := 0
  name := name
  master := master
  module := some 1
  region := none
  group := none
  transform := ⟨0, (0, 0)⟩
  placementStatus := 0
  sourceType := 0
  isDoNotTouch := false
  isHierarchical := false
  hasScanInst := false
  iterms := [⟨"D", some 10, none⟩, ⟨"CK", some 11, none⟩, ⟨"Q", some 12, none⟩]

lemma flopInst_cases {first second : Nat} {k : InstKey}
    (isInst : (if k = (0, "u1") then some (flopInst "u1" first)
      else if k = (0, "u2") then some (flopInst "u2" second) else none) = some inst) :
    inst = flopInst "u1" first ∧ k = (0, "u1") ∨ inst = flopInst "u2" second ∧ k = (0, "u2") := by
  split at isInst
  · rename_i isKey
    exact .inl ⟨(some_injective _ isInst).symm, isKey⟩
  · split at isInst
    · rename_i isKey
      exact .inr ⟨(some_injective _ isInst).symm, isKey⟩
    · exact absurd isInst (by simp)

def twoFlops (first second : Nat) (isFlop : first ≠ 3 ∧ second ≠ 3) : Block flopDb where
  insts k :=
    if k = (0, "u1") then some (flopInst "u1" first)
    else if k = (0, "u2") then some (flopInst "u2" second)
    else none
  keyed k inst isInst := by
    rcases flopInst_cases isInst with ⟨rfl, rfl⟩ | ⟨rfl, rfl⟩
    · rfl
    · rfl
  pinned k inst isInst := by
    rcases flopInst_cases isInst with ⟨rfl, rfl⟩ | ⟨rfl, rfl⟩
    · exact (if_neg isFlop.1).symm
    · exact (if_neg isFlop.2).symm

/-- Flops of one master are put back. -/
theorem scan_replace_rolled_back_one_master :
    RolledBack flopDb flopSta [1, 2, 3] [(0, "u1"), (0, "u2")] [(0, "u2"), (0, "u1")]
      (twoFlops 1 1 (by decide)).insts := by
  refine (scan_replace_rolled_back_iff flopDb flopSta [1, 2, 3] (twoFlops 1 1 (by decide))
    [(0, "u1"), (0, "u2")] [(0, "u2"), (0, "u1")] ?_ ?_).mpr ?_
  · intro k inst isInst
    rcases flopInst_cases isInst with ⟨_, rfl⟩ | ⟨_, rfl⟩
    · decide
    · decide
  · intro k inst isInst
    rcases flopInst_cases isInst with ⟨_, rfl⟩ | ⟨_, rfl⟩
    · decide
    · decide
  · have putBack : ∀ name candidate, scanCandidateOf flopDb flopSta [1, 2, 3] (flopInst name 1) =
        some candidate → PutBack flopDb flopSta (twoFlops 1 1 (by decide)).insts (flopInst name 1)
          candidate := by
      intro name candidate found
      have isCandidate : scanCandidateOf flopDb flopSta [1, 2, 3] (flopInst name 1) =
          some ⟨scanFlop, [("D", "D"), ("CK", "CK"), ("Q", "Q")]⟩ := by
        rfl
      rw [isCandidate] at found
      rw [← Option.some_injective _ found]
      exact
        { free := rfl
          noScanInst := rfl
          inModule := rfl
          flat := by
            intro iterm isTerm
            simp only [flopInst, mem_cons, not_mem_nil, or_false] at isTerm
            rcases isTerm with rfl | rfl | rfl <;> rfl
          ports := by
            intro iterm isTerm _
            simp only [flopInst, mem_cons, not_mem_nil, or_false] at isTerm
            rcases isTerm with rfl | rfl | rfl
            · exact ⟨"D", by decide, by decide, by decide⟩
            · exact ⟨"CK", by decide, by decide, by decide⟩
            · exact ⟨"Q", by decide, by decide, by decide⟩ }
    have masters : ∀ k inst, (twoFlops 1 1 (by decide)).insts k = some inst →
        ∃ name, inst = flopInst name 1 := by
      intro k inst isInst
      rcases flopInst_cases isInst with ⟨isInst, _⟩ | ⟨isInst, _⟩
      · exact ⟨_, isInst⟩
      · exact ⟨_, isInst⟩
    intro k inst isInst
    rcases masters k inst isInst with ⟨name, rfl⟩
    refine
      { sameMaster := fun k' other isOther _ _ => ?_
        noScanCell := fun k' other isOther => ?_
        putBack := putBack name }
    · rcases masters k' other isOther with ⟨name', rfl⟩
      rfl
    · rcases masters k' other isOther with ⟨name', rfl⟩
      intro same
      have isScan : (3 : Nat) = 1 := Option.some_injective _ same
      exact absurd isScan (by decide)

/-- All pins are in the port mappings, and yet the flop of the second master comes back as one of
the first. -/
theorem scan_replace_two_masters :
    (∀ k inst candidate, (twoFlops 1 2 (by decide)).insts k = some inst →
        scanCandidateOf flopDb flopSta [1, 2, 3] inst = some candidate →
          ∀ iterm ∈ inst.iterms, (candidate.portMapping.lookup iterm.name).isSome) ∧
      ¬ RolledBack flopDb flopSta [1, 2, 3] [(0, "u1"), (0, "u2")] [(0, "u1"), (0, "u2")]
        (twoFlops 1 2 (by decide)).insts := by
  have candidates : ∀ name, ∀ master ∈ [1, 2],
      scanCandidateOf flopDb flopSta [1, 2, 3] (flopInst name master) =
        some ⟨scanFlop, [("D", "D"), ("CK", "CK"), ("Q", "Q")]⟩ := by
    intro name master isMaster
    rcases List.mem_pair.mp isMaster with rfl | rfl
    · rfl
    · rfl
  constructor
  · intro k inst candidate isInst found
    rcases flopInst_cases isInst with ⟨rfl, _⟩ | ⟨rfl, _⟩
    · rw [candidates _ 1 (by decide)] at found
      rw [← Option.some_injective _ found]
      decide
    · rw [candidates _ 2 (by decide)] at found
      rw [← Option.some_injective _ found]
      decide
  · intro restored
    have met : ∀ k inst, (twoFlops 1 2 (by decide)).insts k = some inst →
        k ∈ [((0, "u1") : InstKey), (0, "u2")] := by
      intro k inst isInst
      rcases flopInst_cases isInst with ⟨_, rfl⟩ | ⟨_, rfl⟩
      · decide
      · decide
    have reversible := @reversible_of_rolledBack _ _ _ (flopInst "u1" 1) _ _ _ met met restored
      (0, "u1") rfl
    have same := reversible.sameMaster (0, "u2") (flopInst "u2" 2) rfl (by decide) (by decide)
    exact absurd same (by decide)

end OpenRoad.Dft
