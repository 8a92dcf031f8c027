import OpenRoad.Lib.Visits
import OpenRoad.Dft.ScanWiring

/-! Which designs are put back as they were. -/

namespace OpenRoad.Dft

open OpenRoad.Lib Option

instance (portMapping : PortMapping) (ports : List String) (pins : List (String × Option Nat)) :
    Decidable (Reconnects portMapping ports pins) :=
  inferInstanceAs (Decidable (∀ pin ∈ pins, _ → _))

def tmpKey (block : Nat) : InstKey := (block, "tmp_scan_flop")

namespace Db

variable (db : Db)

/-- The instance that takes the place of the old one. -/
def replacement (oldInstance : Inst) (newMaster : Nat) (portMapping : PortMapping) : Inst :=
  { oldInstance with
    master := newMaster
    module := some (oldInstance.module.getD (db.topModule oldInstance.block))
    isDoNotTouch := false
    isHierarchical := false
    hasScanInst := false
    iterms := (db.mterms newMaster).map fun mterm =>
      ⟨mterm, netFor portMapping (populatePortNameToNet oldInstance) mterm, none⟩ }

def Replaceable (design : Design) (oldInstance : Inst) (newMaster : Nat)
    (portMapping : PortMapping) : Prop :=
  design (tmpKey oldInstance.block) = none ∧ db.canDestroy oldInstance = true ∧
    Reconnects portMapping (db.mterms newMaster) (populatePortNameToNet oldInstance)

instance (design : Design) (oldInstance : Inst) (newMaster : Nat) (portMapping : PortMapping) :
    Decidable (db.Replaceable design oldInstance newMaster portMapping) :=
  inferInstanceAs (Decidable (_ ∧ _ ∧ _))

def replaced (design : Design) (oldInstance : Inst) (newMaster : Nat) (portMapping : PortMapping) :
    Option Inst :=
  if db.Replaceable design oldInstance newMaster portMapping then
    some (db.replacement oldInstance newMaster portMapping)
  else none

variable {db} {design : Design} {inst new : Inst} {master : Nat} {portMapping : PortMapping}

lemma canDestroy_iff : db.canDestroy inst = true ↔ inst.isDoNotTouch = false ∧
    inst.hasScanInst = false ∧ ∀ iterm ∈ inst.iterms, ∀ net, iterm.net = some net →
      db.netDoNotTouch net = false := by
  simp [canDestroy, all_eq_true]

def tmpInst (db : Db) (oldInstance : Inst) (newMaster : Nat) : Inst :=
  { db.replacement oldInstance newMaster [] with name := "tmp_scan_flop" }

lemma replaceCell_taken (taken : design (tmpKey inst.block) ≠ none) :
    db.replaceCell design inst master portMapping = none := by
  have isTaken : (design (inst.block, "tmp_scan_flop")).isSome = true :=
    isSome_iff_ne_none.mpr taken
  rw [replaceCell, create, if_pos isTaken]
  rfl

lemma replaceCell_free (free : design (tmpKey inst.block) = none) :
    db.replaceCell design inst master portMapping =
      if db.canDestroy inst = true then
        (db.connectPinsToNets ((db.tmpInst inst master).wired (db.mterms master) fun _ => none)
          (populatePortNameToNet inst) portMapping).map fun newInstance =>
            Function.update design inst.key (some { newInstance with name := inst.name })
      else none := by
  have isFree : ¬ (design (inst.block, "tmp_scan_flop")).isSome = true := by
    rw [← tmpKey, free]
    simp
  rw [replaceCell, create, if_neg isFree]
  by_cases destroyable : db.canDestroy inst = true
  · rw [if_pos destroyable, map_eq_bind]
    simp only [destroyable]
    rfl
  · simp [destroyable]

lemma replaceCell_eq : db.replaceCell design inst master portMapping =
    (db.replaced design inst master portMapping).map fun new =>
      Function.update design inst.key (some new) := by
  by_cases free : design (tmpKey inst.block) = none
  · rw [replaceCell_free free, replaced]
    by_cases destroyable : db.canDestroy inst = true
    · have mayTouch : ∀ pin ∈ populatePortNameToNet inst, ∀ net, pin.2 = some net →
          db.netDoNotTouch net = false := by
        intro pin member net isNet
        rcases List.mem_map.mp member with ⟨iterm, isTerm, rfl⟩
        exact (canDestroy_iff.mp destroyable).2.2 iterm isTerm net isNet
      have connects := fun out => @connectPinsToNets_iff portMapping _ db (db.tmpInst inst master)
        out (db.mterms master) (fun _ => none) rfl mayTouch
      rw [if_pos destroyable]
      by_cases reconnects : Reconnects portMapping (db.mterms master) (populatePortNameToNet inst)
      · rw [if_pos ⟨free, destroyable, reconnects⟩, (connects _).mpr ⟨reconnects, rfl⟩]
        simp only [or_none]
        rfl
      · rw [if_neg fun replaceable => reconnects replaceable.2.2, map_none,
          map_eq_none_iff, eq_none_iff_forall_ne_some]
        intro out isOut
        exact reconnects ((connects out).mp isOut).1
    · rw [if_neg destroyable, if_neg fun replaceable => destroyable replaceable.2.1]
      rfl
  · rw [replaceCell_taken free, replaced, if_neg fun replaceable => free replaceable.1]
    rfl

lemma replaced_some : db.replaced design inst master portMapping = some new ↔
    db.Replaceable design inst master portMapping ∧
      new = db.replacement inst master portMapping := by
  rw [replaced]
  split
  · rename_i replaceable
    rw [Option.some.injEq]
    exact ⟨fun same => ⟨replaceable, same.symm⟩, fun same => same.2.symm⟩
  · rename_i not
    exact iff_of_false (by simp) fun replaceable => not replaceable.1

lemma replaced_congr {design' : Design}
    (same : design (tmpKey inst.block) = none ↔ design' (tmpKey inst.block) = none) :
    db.replaced design inst master portMapping = db.replaced design' inst master portMapping := by
  have iff : db.Replaceable design inst master portMapping ↔
      db.Replaceable design' inst master portMapping := by
    rw [Replaceable, Replaceable, same]
  ext new
  rw [replaced_some, replaced_some, iff]

end Db

variable {db : Db} {sta : Sta} {masters : List Nat} {design : Design} {inst other : Inst}
  {candidate candidate' : ScanCandidate}

lemma mem_availableScanLibCells {cell : LibertyCell}
    (available : cell ∈ sta.availableScanLibCells masters) :
    isScanCell cell = true ∧ sta.libertyCell (sta.staToDb cell) = some cell := by
  rw [Sta.availableScanLibCells, List.mem_filter, Sta.usableCells, List.mem_filter,
    List.mem_filterMap] at available
  rcases available with ⟨⟨⟨master, _, isCell⟩, _⟩, isScan⟩
  exact ⟨isScan, sta.cell_of_master master cell isCell⟩

/-- The cell that is taken is one whose drive resistance differs least. -/
lemma selectBestScanCell_some {cell : LibertyCell} {candidates : List ScanCandidate}
    (found : sta.selectBestScanCell cell candidates = some candidate) : candidate ∈ candidates ∧
      ∀ other ∈ candidates, sta.differencePerformanceCells cell candidate.scanCell ≤
        sta.differencePerformanceCells cell other.scanCell := by
  rcases List.head?_eq_some_iff.mp found with ⟨others, isSorted⟩
  have perm := sta.sort_perm (fun candidate =>
    sta.differencePerformanceCells cell candidate.scanCell) candidates
  have sorted := sta.sort_sorted (fun candidate =>
    sta.differencePerformanceCells cell candidate.scanCell) candidates
  rw [isSorted] at perm sorted
  refine ⟨perm.mem_iff.mp List.mem_cons_self, fun other member => ?_⟩
  rcases List.mem_cons.mp (perm.mem_iff.mpr member) with rfl | later
  · exact le_rfl
  · exact (List.pairwise_cons.mp sorted).1 other later

lemma nonScanToScanLibCells_some {cell : LibertyCell}
    (found : sta.nonScanToScanLibCells masters cell = some candidate) :
    isScanCell cell = false ∧ candidate.scanCell ∈ sta.availableScanLibCells masters ∧
      (candidate.portMapping.map Prod.fst).Nodup := by
  rw [Sta.nonScanToScanLibCells] at found
  split at found
  · rename_i usable
    have member := (selectBestScanCell_some found).1
    rw [Sta.scanCandidates, List.mem_filterMap] at member
    rcases member with ⟨scanCell, available, isCandidate⟩
    rcases map_eq_some_iff.mp isCandidate with ⟨mapping, equivalent, rfl⟩
    exact ⟨by simpa using usable.2, available, isScanEquivalent_nodup equivalent⟩
  · exact absurd found (by simp)

lemma scanCandidateOf_some (found : scanCandidateOf db sta masters inst = some candidate) :
    (inst.isDoNotTouch = false ∧ db.haveDontTouchNets inst = false ∧ inst.isHierarchical = false) ∧
      ∃ cell, sta.libertyCell inst.master = some cell ∧
        sta.nonScanToScanLibCells masters cell = some candidate := by
  rw [scanCandidateOf] at found
  split at found
  · exact absurd found (by simp)
  · rename_i open'
    simp only [not_or, Bool.not_eq_true] at open'
    refine ⟨open', ?_⟩
    cases isCell : sta.libertyCell inst.master with
    | none => exact absurd found (by simp [isCell])
    | some cell =>
      simp only [isCell] at found
      split at found
      · exact absurd found (by simp)
      · split at found
        · exact absurd found (by simp)
        · exact ⟨cell, rfl, found⟩

def scanMasterOf (db : Db) (sta : Sta) (masters : List Nat) (inst : Inst) : Option Nat :=
  (scanCandidateOf db sta masters inst).map fun candidate => sta.staToDb candidate.scanCell

section

variable (found : scanCandidateOf db sta masters inst = some candidate)
include found

lemma scanCandidateOf_cells :
    (∃ cell, sta.libertyCell inst.master = some cell ∧ isScanCell cell = false) ∧
      ∃ cell, sta.libertyCell (sta.staToDb candidate.scanCell) = some cell ∧
        isScanCell cell = true := by
  rcases (scanCandidateOf_some found).2 with ⟨cell, isCell, isCandidate⟩
  rcases nonScanToScanLibCells_some isCandidate with ⟨notScan, available, _⟩
  rcases mem_availableScanLibCells available with ⟨isScan, isMaster⟩
  exact ⟨⟨cell, isCell, notScan⟩, _, isMaster, isScan⟩

lemma scan_ne_master (found' : scanCandidateOf db sta masters other = some candidate') :
    sta.staToDb candidate.scanCell ≠ other.master := by
  intro same
  rcases (scanCandidateOf_cells found).2 with ⟨scanCell, isCell, isScan⟩
  rcases (scanCandidateOf_cells found').1 with ⟨cell, isCell', notScan⟩
  rw [same, isCell'] at isCell
  rw [some_injective _ isCell, isScan] at notScan
  exact absurd notScan (by simp)

lemma candidate_unique (found' : scanCandidateOf db sta masters other = some candidate')
    (same : other.master = inst.master) : candidate' = candidate := by
  rcases (scanCandidateOf_some found).2 with ⟨cell, isCell, isCandidate⟩
  rcases (scanCandidateOf_some found').2 with ⟨cell', isCell', isCandidate'⟩
  rw [same, isCell] at isCell'
  rw [← some_injective _ isCell', isCandidate] at isCandidate'
  exact (some_injective _ isCandidate').symm

end

/-- What the visit of an instance makes of it. -/
def scanned (db : Db) (sta : Sta) (masters : List Nat) (design : Design) (inst : Inst) :
    Option Inst :=
  match scanCandidateOf db sta masters inst with
  | none => some inst
  | some candidate =>
    db.replaced design inst (sta.staToDb candidate.scanCell) candidate.portMapping

lemma scanned_once : ChangesOnce (scanned db sta masters design) := by
  intro a b becomes
  rw [scanned] at becomes
  cases found : scanCandidateOf db sta masters a with
  | none =>
    rw [found] at becomes
    rw [← some_injective _ becomes, scanned, found]
  | some candidate =>
    rw [found] at becomes
    rcases Db.replaced_some.mp becomes with ⟨_, rfl⟩
    rw [scanned]
    cases again : scanCandidateOf db sta masters (db.replacement a _ _) with
    | none => rfl
    | some candidate' => exact absurd rfl (scan_ne_master found again)

lemma scanned_key (becomes : scanned db sta masters design inst = some other) :
    other.key = inst.key := by
  rw [scanned] at becomes
  split at becomes
  · rw [some_injective _ becomes]
  · rcases Db.replaced_some.mp becomes with ⟨_, rfl⟩
    rfl

end OpenRoad.Dft
