import OpenRoad.Lib.Filled
import OpenRoad.Lib.Visits
import OpenRoad.Lib.Pairing
import OpenRoad.Odb.ChipRuns

/-! What creating and destroying a chip instance does to region and bump instances. -/

namespace OpenRoad.Odb

open OpenRoad.Lib OpenRoad.Lib.Effect List Function Store

/-- `dbChipInst::findChipRegionInst`. -/
def DbChipInst.findChipRegionInst (inst : DbChipInst) (chip_region : Nat) : Option Nat :=
  if chip_region = 0 then none else inst.region_insts_map.lookup chip_region

/-! ### The loops of the source

A new instance goes to the front of its list, and the list is reversed at the end. -/

def BumpsCopied (bumpInsts : Store DbChipBumpInst) (regionInst : Nat) : List Nat → List Nat → Prop :=
  List.Forall₂ fun id bump => bumpInsts.objs id = some ⟨bump, regionInst⟩

def StoreKeeps {α : Type} (before after : Store α) : Prop :=
  ∀ id object, before.objs id = some object → after.objs id = some object

lemma bumpsCopied_kept {before after : Store DbChipBumpInst} {regionInst : Nat}
    {ids bumps : List Nat} (kept : StoreKeeps before after)
    (copied : BumpsCopied before regionInst ids bumps) :
    BumpsCopied after regionInst ids bumps :=
  Forall₂.imp (fun _ _ there => kept _ _ there) copied

lemma createChipBumpInst_exec (object : DbChipBumpInst) (db : ChipDatabase) :
    ∃ id created, db.chip_bump_inst_tbl.create kTablePage object = some (id, created) ∧
      (createChipBumpInst object).exec db = (.ok id, { db with chip_bump_inst_tbl := created }) :=
  allocate_exec kTablePage object (by decide) db

lemma createChipRegionInst_exec (object : DbChipRegionInst) (db : ChipDatabase) :
    ∃ id created, db.chip_region_inst_tbl.create kTablePage object = some (id, created) ∧
      (createChipRegionInst object).exec db =
        (.ok id, { db with chip_region_inst_tbl := created }) :=
  allocate_exec kTablePage object (by decide) db

lemma createBumpInsts_exec (regionInst : Nat) (bumps : List Nat) (db : ChipDatabase)
    (wf : db.chip_bump_inst_tbl.WellFormed kTablePage) :
    ∃ ids table, (createBumpInsts regionInst bumps).exec db =
        (.ok ids, { db with chip_bump_inst_tbl := table }) ∧
      table.WellFormed kTablePage ∧ BumpsCopied table regionInst ids bumps ∧
      (∀ id ∈ ids, db.chip_bump_inst_tbl.objs id = none) ∧
      ∀ id, id ∉ ids → table.objs id = db.chip_bump_inst_tbl.objs id := by
  induction bumps generalizing db with
  | nil =>
    exact ⟨[], _, rfl, wf, Forall₂.nil, fun _ member => (not_mem_nil member).elim,
      fun _ _ => rfl⟩
  | cons bump bumps ih =>
    rcases createChipBumpInst_exec ⟨bump, regionInst⟩ db with ⟨id, created, made, exec⟩
    have fresh := create_fresh wf made
    have objs := create_objs made
    rcases ih { db with chip_bump_inst_tbl := created } (create_wellFormed wf made) with
      ⟨ids, table, execRest, wfRest, copied, dead, same⟩
    dsimp only at execRest dead same
    have isNew : created.objs id = some ⟨bump, regionInst⟩ := by
      rw [objs, update_self]
    have apart : id ∉ ids := fun member => by
      rw [dead id member] at isNew
      cases isNew
    refine ⟨id :: ids, table, ?_, wfRest, Forall₂.cons ?_ copied, ?_, ?_⟩
    · rw [createBumpInsts, exec_bind_ok _ exec, exec_bind_ok _ execRest]
      rfl
    · rw [same id apart, isNew]
    · intro other member
      rcases mem_cons.mp member with rfl | later
      · exact fresh.2.2
      · have isDead := dead other later
        have differ : other ≠ id := fun equal => apart (equal ▸ later)
        rwa [objs, update_of_ne differ] at isDead
    · intro other absent
      rcases not_or.mp (fun either => absent (mem_cons.mpr either)) with ⟨differ, later⟩
      rw [same other later, objs, update_of_ne differ]

/-- The instances of regions and their bumps that a loop has made: `pairs` has the regions with
their instances. -/
structure Copied (chipinst : Nat) (master : DbChip) (pairs : List (Nat × Nat))
    (regionInsts regionInsts' : Store DbChipRegionInst)
    (bumpInsts bumpInsts' : Store DbChipBumpInst) : Prop where
  regionsWf : regionInsts'.WellFormed kTablePage
  bumpsWf : bumpInsts'.WellFormed kTablePage
  fresh : ∀ pair ∈ pairs, regionInsts.objs pair.2 = none
  made : ∀ pair ∈ pairs, ∃ region ids, master.chip_region_tbl.objs pair.1 = some region ∧
    regionInsts'.objs pair.2 = some ⟨pair.1, chipinst, ids⟩ ∧
    BumpsCopied bumpInsts' pair.2 ids (tableIds region.chip_bump_tbl)
  regions : ∀ id, id ∉ pairs.map Prod.snd → regionInsts'.objs id = regionInsts.objs id
  bumps : StoreKeeps bumpInsts bumpInsts'
  owned : ∀ id bumpInst, bumpInsts'.objs id = some bumpInst → bumpInsts.objs id = some bumpInst ∨
      bumpInst.chip_region_inst ∈ pairs.map Prod.snd ∧
        ∃ regionInst, regionInsts'.objs bumpInst.chip_region_inst = some regionInst ∧
          id ∈ regionInst.chip_bump_insts

lemma createRegionInsts_exec (chipinst : Nat) (master : DbChip) (regions : List Nat)
    (db : ChipDatabase) (regionsWf : db.chip_region_inst_tbl.WellFormed kTablePage)
    (bumpsWf : db.chip_bump_inst_tbl.WellFormed kTablePage)
    (live : ∀ region ∈ regions, (master.chip_region_tbl.objs region).isSome) :
    ∃ pairs regionInsts bumpInsts, (createRegionInsts chipinst master regions).exec db =
        (.ok pairs, { db with
          chip_region_inst_tbl := regionInsts
          chip_bump_inst_tbl := bumpInsts }) ∧
      pairs.map Prod.fst = regions ∧
      Copied chipinst master pairs db.chip_region_inst_tbl regionInsts db.chip_bump_inst_tbl
        bumpInsts := by
  induction regions generalizing db with
  | nil =>
    exact ⟨[], _, _, rfl, rfl, regionsWf, bumpsWf, fun _ member => (not_mem_nil member).elim,
      fun _ member => (not_mem_nil member).elim, fun _ _ => rfl, fun _ _ there => there,
      fun _ _ there => .inl there⟩
  | cons region regions ih =>
    rcases createChipRegionInst_exec ⟨region, chipinst, []⟩ db with ⟨id, created, made, exec⟩
    have fresh := (create_fresh regionsWf made).2.2
    have objs := create_objs made
    have createdWf := create_wellFormed regionsWf made
    have isNew : created.objs id = some ⟨region, chipinst, []⟩ := by
      rw [objs, update_self]
    rcases Option.isSome_iff_exists.mp (live region mem_cons_self) with ⟨object, isObject⟩
    rcases createBumpInsts_exec id (tableIds object.chip_bump_tbl)
      { db with chip_region_inst_tbl := created } bumpsWf with
      ⟨ids, bumpTable, execBumps, bumpTableWf, copied, dead, same⟩
    dsimp only at execBumps dead same
    have keptBumps : StoreKeeps db.chip_bump_inst_tbl bumpTable := by
      intro other bumpInst there
      have apart : other ∉ ids := fun member => by
        rw [dead other member] at there
        cases there
      rw [same other apart, there]
    rcases ih { db with
        chip_region_inst_tbl := created.write id ⟨region, chipinst, ids⟩
        chip_bump_inst_tbl := bumpTable }
      (write_wellFormed createdWf isNew) bumpTableWf
      (fun other member => live other (mem_cons_of_mem _ member)) with
      ⟨pairs, regionInsts, bumpInsts, execRest, firsts, rest⟩
    have written : (created.write id ⟨region, chipinst, ids⟩).objs id =
        some ⟨region, chipinst, ids⟩ := update_self _ _ _
    have apart : id ∉ pairs.map Prod.snd := by
      intro member
      rcases mem_map.mp member with ⟨pair, isPair, equal⟩
      have gone := rest.fresh pair isPair
      rw [equal] at gone
      exact absurd (gone.symm.trans written) (by simp)
    have unwritten : ∀ other, other ≠ id → (created.write id ⟨region, chipinst, ids⟩).objs other =
          db.chip_region_inst_tbl.objs other := by
      intro other differ
      change update created.objs id _ other = _
      rw [update_of_ne differ, objs, update_of_ne differ]
    have first : regionInsts.objs id = some ⟨region, chipinst, ids⟩ :=
      (rest.regions id apart).trans written
    refine ⟨(region, id) :: pairs, regionInsts, bumpInsts, ?_, ?_, ?_⟩
    · rw [createRegionInsts, exec_bind_ok _ exec, isObject]
      rw [deref, exec_bind_ok _ (exec_pure _ _), exec_bind_ok _ execBumps,
        exec_bind_ok _ (exec_modify _ _), exec_bind_ok _ execRest]
      rfl
    · rw [map_cons, firsts]
    · refine ⟨rest.regionsWf, rest.bumpsWf, ?_, ?_, ?_, ?_, ?_⟩
      · intro pair member
        rcases mem_cons.mp member with rfl | later
        · exact fresh
        · have differ : pair.2 ≠ id := fun equal =>
            apart (mem_map.mpr ⟨pair, later, equal⟩)
          rw [← unwritten pair.2 differ]
          exact rest.fresh pair later
      · intro pair member
        rcases mem_cons.mp member with rfl | later
        · exact ⟨object, ids, isObject, first, bumpsCopied_kept rest.bumps copied⟩
        · exact rest.made pair later
      · intro other absent
        rw [map_cons, mem_cons, not_or] at absent
        exact (rest.regions other absent.2).trans (unwritten other absent.1)
      · intro other bumpInst there
        exact rest.bumps other bumpInst (keptBumps other bumpInst there)
      · intro other bumpInst there
        rcases rest.owned other bumpInst there with early | ⟨inPairs, owner⟩
        · dsimp only at early
          by_cases member : other ∈ ids
          · rcases forall₂_left copied member with ⟨bump, _, isCopy⟩
            rw [isCopy] at early
            rw [← Option.some.inj early]
            exact .inr ⟨mem_cons_self, _, first, member⟩
          · rw [same other member] at early
            exact .inl early
        · exact .inr ⟨mem_cons_of_mem _ inPairs, owner⟩

def Without {α : Type} (before after : Store α) (ids : List Nat) : Prop :=
  ∀ id object, after.objs id = some object ↔ before.objs id = some object ∧ id ∉ ids

lemma without_cons {α : Type} {before mid after : Store α} {id : Nat} {ids : List Nat}
    (first : Without before mid [id]) (rest : Without mid after ids) :
    Without before after (id :: ids) := by
  intro other object
  rw [rest other object, first other object, and_assoc]
  simp only [mem_cons, not_mem_nil, or_false, not_or]

lemma release_exec {α : Type} {table : ChipDatabase → Store α}
    {put : Store α → ChipDatabase → ChipDatabase} {id : Nat} {db : ChipDatabase}
    (wf : (table db).WellFormed kTablePage) (live : ((table db).objs id).isSome) :
    ∃ destroyed, (release table put id).exec db = (.ok (), put destroyed db) ∧
      destroyed.WellFormed kTablePage ∧ Without (table db) destroyed [id] := by
  rcases destroy_isSome live with ⟨destroyed, done⟩
  refine ⟨destroyed, ?_, destroy_wellFormed wf done, ?_⟩
  · rw [release, exec_bind_ok _ (exec_get db), done]
    rfl
  · intro other object
    rw [destroy_objs done, mem_singleton]
    by_cases same : other = id
    · rw [same, update_self]
      exact iff_of_false (fun found => Option.some_ne_none _ found.symm) fun both => both.2 rfl
    · rw [update_of_ne same]
      exact (and_iff_left same).symm

lemma destroyBumpInsts_exec (ids : List Nat) (db : ChipDatabase) (nodup : ids.Nodup)
    (wf : db.chip_bump_inst_tbl.WellFormed kTablePage)
    (live : ∀ id ∈ ids, (db.chip_bump_inst_tbl.objs id).isSome) :
    ∃ table, (forM ids destroyChipBumpInst).exec db =
        (.ok (), { db with chip_bump_inst_tbl := table }) ∧
      table.WellFormed kTablePage ∧ Without db.chip_bump_inst_tbl table ids := by
  induction ids generalizing db with
  | nil => exact ⟨_, rfl, wf, fun _ _ => (and_iff_left not_mem_nil).symm⟩
  | cons id ids ih =>
    rcases nodup_cons.mp nodup with ⟨apart, nodupRest⟩
    have first : ∃ destroyed, (destroyChipBumpInst id).exec db =
          (.ok (), { db with chip_bump_inst_tbl := destroyed }) ∧
        destroyed.WellFormed kTablePage ∧ Without db.chip_bump_inst_tbl destroyed [id] :=
      release_exec wf (live id mem_cons_self)
    rcases first with ⟨destroyed, exec, destroyedWf, without⟩
    rcases ih { db with chip_bump_inst_tbl := destroyed } nodupRest destroyedWf (by
      intro other member
      rcases Option.isSome_iff_exists.mp (live other (mem_cons_of_mem _ member)) with
        ⟨object, there⟩
      have differ : other ∉ [id] := fun same => apart (mem_singleton.mp same ▸ member)
      rw [(without other object).mpr ⟨there, differ⟩]
      rfl) with ⟨table, execRest, tableWf, withoutRest⟩
    refine ⟨table, ?_, tableWf, ?_⟩
    · rw [forM_cons, exec_bind_ok _ exec, execRest]
    · exact without_cons without withoutRest

def bumpsOf (regionInsts : Store DbChipRegionInst) (ids : List Nat) : List Nat :=
  ids.flatMap fun id => ((regionInsts.objs id).map DbChipRegionInst.chip_bump_insts).getD []

lemma mem_bumpsOf {regionInsts : Store DbChipRegionInst} {ids : List Nat} {bumpInst : Nat} :
    bumpInst ∈ bumpsOf regionInsts ids ↔ ∃ id ∈ ids, ∃ regionInst,
      regionInsts.objs id = some regionInst ∧ bumpInst ∈ regionInst.chip_bump_insts := by
  rw [bumpsOf, mem_flatMap]
  refine exists_congr fun id => and_congr_right fun _ => ?_
  cases regionInsts.objs id with
  | none => simp
  | some regionInst => simp

/-- The region instances have bump instances of their own. -/
structure Owns (db : ChipDatabase) (ids : List Nat) : Prop where
  nodup : ids.Nodup
  live : ∀ id ∈ ids, ∃ regionInst, db.chip_region_inst_tbl.objs id = some regionInst ∧
    regionInst.chip_bump_insts.Nodup ∧ ∀ bump ∈ regionInst.chip_bump_insts,
      ∃ bumpInst, db.chip_bump_inst_tbl.objs bump = some bumpInst ∧ bumpInst.chip_region_inst = id

lemma destroyRegionInsts_exec (ids : List Nat) (db : ChipDatabase)
    (regionsWf : db.chip_region_inst_tbl.WellFormed kTablePage)
    (bumpsWf : db.chip_bump_inst_tbl.WellFormed kTablePage) (owns : Owns db ids) :
    ∃ regionInsts bumpInsts, (destroyRegionInsts ids).exec db = (.ok (), { db with
          chip_region_inst_tbl := regionInsts
          chip_bump_inst_tbl := bumpInsts }) ∧
      regionInsts.WellFormed kTablePage ∧ bumpInsts.WellFormed kTablePage ∧
      Without db.chip_region_inst_tbl regionInsts ids ∧
      Without db.chip_bump_inst_tbl bumpInsts (bumpsOf db.chip_region_inst_tbl ids) := by
  induction ids generalizing db with
  | nil =>
    exact ⟨_, _, rfl, regionsWf, bumpsWf, fun _ _ => (and_iff_left not_mem_nil).symm,
      fun _ _ => (and_iff_left not_mem_nil).symm⟩
  | cons id ids ih =>
    rcases nodup_cons.mp owns.nodup with ⟨apart, nodupRest⟩
    rcases owns.live id mem_cons_self with ⟨object, there, bumpsNodup, bumpsLive⟩
    have read : (getChipRegionInst id).exec db = (.ok object, db) := by
      rw [getChipRegionInst, exec_bind_ok _ (exec_get db), there]
      rfl
    have first : ∃ destroyed, (destroyChipRegionInst id).exec db =
          (.ok (), { db with chip_region_inst_tbl := destroyed }) ∧
        destroyed.WellFormed kTablePage ∧ Without db.chip_region_inst_tbl destroyed [id] :=
      release_exec regionsWf (by rw [there]; rfl)
    rcases first with ⟨destroyed, exec, destroyedWf, without⟩
    rcases destroyBumpInsts_exec object.chip_bump_insts
      { db with chip_region_inst_tbl := destroyed } bumpsNodup bumpsWf (by
        intro bump member
        rcases bumpsLive bump member with ⟨bumpInst, found, _⟩
        exact Option.isSome_iff_exists.mpr ⟨bumpInst, found⟩) with
      ⟨bumpTable, execBumps, bumpTableWf, withoutBumps⟩
    dsimp only at execBumps withoutBumps
    have kept : ∀ other ∈ ids, ∀ regionInst, destroyed.objs other = some regionInst ↔
          db.chip_region_inst_tbl.objs other = some regionInst := by
      intro other member regionInst
      rw [without other regionInst, mem_singleton]
      exact and_iff_left fun same => apart (same ▸ member)
    have ownsRest : Owns { db with
        chip_region_inst_tbl := destroyed
        chip_bump_inst_tbl := bumpTable } ids := by
      refine ⟨nodupRest, ?_⟩
      intro other member
      rcases owns.live other (mem_cons_of_mem _ member) with
        ⟨regionInst, found, otherNodup, otherLive⟩
      refine ⟨regionInst, (kept other member regionInst).mpr found, otherNodup, ?_⟩
      intro bump inside
      rcases otherLive bump inside with ⟨bumpInst, isBump, isOwner⟩
      refine ⟨bumpInst, (withoutBumps bump bumpInst).mpr ⟨isBump, ?_⟩, isOwner⟩
      intro shared
      rcases bumpsLive bump shared with ⟨sameInst, isSame, isFirst⟩
      rw [isBump] at isSame
      rw [← Option.some.inj isSame, isOwner] at isFirst
      exact apart (isFirst ▸ member)
    rcases ih _ destroyedWf bumpTableWf ownsRest with
      ⟨regionInsts, bumpInsts, execRest, regionInstsWf, bumpInstsWf, withoutRegions, withoutRest⟩
    refine ⟨regionInsts, bumpInsts, ?_, regionInstsWf, bumpInstsWf, ?_, ?_⟩
    · rw [destroyRegionInsts, exec_bind_ok _ read, exec_bind_ok _ exec, exec_bind_ok _ execBumps,
        execRest]
    · exact without_cons without withoutRegions
    · intro bump bumpInst
      rw [withoutRest bump bumpInst, withoutBumps bump bumpInst, and_assoc]
      refine and_congr_right fun _ => ?_
      rw [mem_bumpsOf, mem_bumpsOf, ← not_or]
      apply not_congr
      constructor
      · intro either
        rcases either with early | ⟨other, member, regionInst, found, inside⟩
        · exact ⟨id, mem_cons_self, object, there, early⟩
        · exact ⟨other, mem_cons_of_mem _ member, regionInst,
            (kept other member regionInst).mp found, inside⟩
      · intro owned
        rcases owned with ⟨other, member, regionInst, found, inside⟩
        rcases mem_cons.mp member with rfl | later
        · rw [there] at found
          rw [Option.some.inj found]
          exact .inl inside
        · exact .inr ⟨other, later, regionInst, (kept other later regionInst).mpr found, inside⟩

end OpenRoad.Odb
