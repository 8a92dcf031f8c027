import OpenRoad.Lib.Runs
import OpenRoad.Odb.ChipMirror

/-! Chip instances mirror their master as it was when they were created. -/

namespace OpenRoad.Odb

open OpenRoad.Lib OpenRoad.Lib.Effect Function List Store Option Option

structure MirrorState where
  db : ChipDatabase
  regions : Nat → List Nat
  bumps : Nat × Nat → List Nat
  made : Nat → List (Nat × List Nat)

inductive MirrorCall where
  | regionCreate (chip : Nat) (name : String) (side : RegionSide) (layerTech : Option Nat)
  | bumpCreate (chip region instChip inst : Nat)
  | instCreate (parent master : Nat) (name : String)
  | instDestroy (inst : Nat)

/-- The id of the object that a call returned; `0` after a null pointer or an error. -/
def createdId : Except ChipFault Nat → Nat
  | .ok id => id
  | .error _ => 0

namespace MirrorState

def ofDatabase (db : ChipDatabase) : MirrorState := ⟨db, fun _ => [], fun _ => [], fun _ => []⟩

def contents (s : MirrorState) (chip : Nat) : List (Nat × List Nat) :=
  (s.regions chip).map fun region => (region, s.bumps (chip, region))

def noteRegion (s : MirrorState) (chip region : Nat) (db : ChipDatabase) : MirrorState :=
  if region = 0 then { s with db := db }
  else { s with
    db := db
    regions := update s.regions chip (s.regions chip ++ [region])
    bumps := update s.bumps (chip, region) [] }

def noteBump (s : MirrorState) (chip region bump : Nat) (db : ChipDatabase) : MirrorState :=
  if bump = 0 then { s with db := db }
  else { s with
    db := db
    bumps := update s.bumps (chip, region) (s.bumps (chip, region) ++ [bump]) }

def noteInst (s : MirrorState) (master inst : Nat) (db : ChipDatabase) : MirrorState :=
  if inst = 0 then { s with db := db }
  else { s with
    db := db
    made := update s.made inst (s.contents master) }

def step (s : MirrorState) : MirrorCall → MirrorState
  | .regionCreate chip name side layerTech =>
    let (result, db) := (dbChipRegion_create chip name side layerTech).exec s.db
    s.noteRegion chip (createdId result) db
  | .bumpCreate chip region instChip inst =>
    let (result, db) := (dbChipBump_create chip region instChip inst).exec s.db
    s.noteBump chip region (createdId result) db
  | .instCreate parent master name =>
    let (result, db) := (dbChipInst_create parent master name).exec s.db
    s.noteInst master (createdId result) db
  | .instDestroy inst => { s with db := ((dbChipInst_destroy inst).exec s.db).2 }

end MirrorState

/-- The region and bump instances stand for the regions of the list and their bumps, in order. -/
structure CopyOf (db : ChipDatabase) (id : Nat) (inst : DbChipInst)
    (copy : List (Nat × List Nat)) : Prop where
  regions : List.Forall₂ (fun regionInst entry =>
    inst.findChipRegionInst entry.1 = some regionInst ∧
      ∃ ids, db.chip_region_inst_tbl.objs regionInst = some ⟨entry.1, id, ids⟩ ∧
        BumpsCopied db.chip_bump_inst_tbl regionInst ids entry.2) inst.chip_region_insts copy
  distinct : (copy.map Prod.fst).Nodup ∧ ∀ entry ∈ copy, entry.2.Nodup

/-- Region and bump instances belong to live chip instances, which list them. -/
structure Owned (db : ChipDatabase) : Prop where
  regionInsts : ∀ id regionInst, db.chip_region_inst_tbl.objs id = some regionInst →
    ∃ inst, db.chip_inst_tbl.objs regionInst.parent_chipinst = some inst ∧
      id ∈ inst.chip_region_insts
  bumpInsts : ∀ id bumpInst, db.chip_bump_inst_tbl.objs id = some bumpInst →
    ∃ regionInst, db.chip_region_inst_tbl.objs bumpInst.chip_region_inst = some regionInst ∧
      id ∈ regionInst.chip_bump_insts

structure Mirrors (s : MirrorState) : Prop where
  copies : ∀ id inst, s.db.chip_inst_tbl.objs id = some inst → CopyOf s.db id inst (s.made id)
  owned : Owned s.db

/-- The tables list regions and bumps in the order in which they were created. -/
def InOrder (s : MirrorState) : Prop :=
  ∀ id chip, s.db.chip_tbl.objs id = some chip →
    ∃ n, chip.chip_region_tbl.Filled kTablePage n ∧ s.regions id = List.range' 1 n ∧
      ∀ r region, chip.chip_region_tbl.objs r = some region →
        ∃ m, region.chip_bump_tbl.Filled kTablePage m ∧ s.bumps (id, r) = List.range' 1 m

structure MirrorInvariant (s : MirrorState) : Prop extends Mirrors s where
  ordered : InOrder s
  instsWf : s.db.chip_inst_tbl.WellFormed kTablePage
  regionInstsWf : s.db.chip_region_inst_tbl.WellFormed kTablePage
  bumpInstsWf : s.db.chip_bump_inst_tbl.WellFormed kTablePage
  parents : ∀ id inst, s.db.chip_inst_tbl.objs id = some inst →
    (s.db.chip_tbl.objs inst.parent_chip).isSome

def instanceTables (db : ChipDatabase) :
    Store DbChipInst × Store DbChipRegionInst × Store DbChipBumpInst :=
  (db.chip_inst_tbl, db.chip_region_inst_tbl, db.chip_bump_inst_tbl)

lemma tableIds_filled {α : Type} {table : Store α} {n : Nat}
    (filled : table.Filled kTablePage n) : tableIds table = range' 1 n :=
  filled_ids filled

lemma regionCreate_exec (chipId : Nat) (name : String) (side : RegionSide)
    (layerTech : Option Nat) (db : ChipDatabase) :
    (∃ result, (dbChipRegion_create chipId name side layerTech).exec db = (result, db) ∧
        createdId result = 0) ∨
      ∃ chip id table, db.chip_tbl.objs chipId = some chip ∧
        chip.chip_region_tbl.create kTablePage (newRegion name side chip.thickness) =
          some (id, table) ∧
        (dbChipRegion_create chipId name side layerTech).exec db =
          (.ok id, { db with chip_tbl := db.chip_tbl.write chipId { chip with
            chip_region_tbl := table
            chip_region_map := (name, id) :: chip.chip_region_map } }) := by
  rw [dbChipRegion_create]
  split
  · exact .inl ⟨_, rfl, rfl⟩
  · cases there : db.chip_tbl.objs chipId with
    | none => exact .inl ⟨_, by rw [exec_bind, getChip_none there], rfl⟩
    | some chip =>
      rw [exec_bind_ok _ (getChip_some there), checkNot, check]
      split
      · exact .inl ⟨_, rfl, rfl⟩
      · rw [exec_bind_ok _ (exec_pure () db), checkNot, check]
        split
        · exact .inl ⟨_, rfl, rfl⟩
        · rcases create_isSome (newRegion name side chip.thickness) chip.chip_region_tbl
            (show 2 ≤ kTablePage by decide) with ⟨id, table, made⟩
          refine .inr ⟨chip, id, table, rfl, made, ?_⟩
          rw [exec_bind_ok _ (exec_pure () db), made, deref, exec_bind_ok _ (exec_pure _ db),
            exec_bind_ok _ (modifyChip_exec there _)]
          rfl

lemma bumpCreate_exec (chipId regionId instChip inst : Nat) (db : ChipDatabase) :
    (∃ result, (dbChipBump_create chipId regionId instChip inst).exec db = (result, db) ∧
        createdId result = 0) ∨
      ∃ chip region id table, db.chip_tbl.objs chipId = some chip ∧
        chip.chip_region_tbl.objs regionId = some region ∧
        region.chip_bump_tbl.create kTablePage ⟨inst, chipId, regionId⟩ = some (id, table) ∧
        (dbChipBump_create chipId regionId instChip inst).exec db =
          (.ok id, { db with chip_tbl := db.chip_tbl.write chipId { chip with
            chip_region_tbl := chip.chip_region_tbl.write regionId
              { region with chip_bump_tbl := table } } }) := by
  rw [dbChipBump_create]
  split
  · exact .inl ⟨_, rfl, rfl⟩
  · cases there : db.chip_tbl.objs chipId with
    | none => exact .inl ⟨_, by rw [exec_bind, getChip_none there], rfl⟩
    | some chip =>
      rw [exec_bind_ok _ (getChip_some there)]
      split
      · exact .inl ⟨_, rfl, rfl⟩
      · rw [checkNot, check]
        split
        · exact .inl ⟨_, rfl, rfl⟩
        · rw [exec_bind_ok _ (exec_pure () db)]
          cases found : chip.chip_region_tbl.objs regionId with
          | none => exact .inl ⟨_, rfl, rfl⟩
          | some region =>
            rcases create_isSome (⟨inst, chipId, regionId⟩ : DbChipBump)
              region.chip_bump_tbl (show 2 ≤ kTablePage by decide) with ⟨id, table, made⟩
            refine .inr ⟨chip, region, id, table, rfl, found, made, ?_⟩
            rw [deref, exec_bind_ok _ (exec_pure _ db), made, deref,
              exec_bind_ok _ (exec_pure _ db), exec_bind_ok _ (modifyChip_exec there _)]
            rfl

section Creating

variable {s : MirrorState}

lemma write_cases {α : Type} {table : Store α} {id other : Nat} {object found : α}
    (there : (table.write id object).objs other = some found) :
    other = id ∧ found = object ∨ other ≠ id ∧ table.objs other = some found := by
  change update table.objs id (some object) other = some found at there
  by_cases same : other = id
  · rw [same, update_self] at there
    exact .inl ⟨same, (some.inj there).symm⟩
  · rw [update_of_ne same] at there
    exact .inr ⟨same, there⟩

lemma write_isSome {α : Type} {table : Store α} {id other : Nat} {object : α}
    (live : (table.objs other).isSome) : ((table.write id object).objs other).isSome := by
  change (update table.objs id (some object) other).isSome
  by_cases same : other = id
  · rw [same, update_self]
    rfl
  · rwa [update_of_ne same]

lemma mirrors_same {s' : MirrorState} (mirrors : Mirrors s)
    (tables : instanceTables s'.db = instanceTables s.db) (made : s'.made = s.made) :
    Mirrors s' := by
  simp only [instanceTables, Prod.mk.injEq] at tables
  rcases tables with ⟨insts, regionInsts, bumpInsts⟩
  refine ⟨?_, ?_, ?_⟩
  · intro id inst live
    rw [insts] at live
    have copy := mirrors.copies id inst live
    refine ⟨?_, made ▸ copy.distinct⟩
    rw [made, regionInsts, bumpInsts]
    exact copy.regions
  · intro id regionInst live
    rw [insts]
    exact mirrors.owned.regionInsts id regionInst (regionInsts ▸ live)
  · intro id bumpInst live
    rw [regionInsts]
    exact mirrors.owned.bumpInsts id bumpInst (bumpInsts ▸ live)

lemma range'_concat_one (n : Nat) : range' 1 n ++ [n + 1] = range' 1 (n + 1) := by
  rw [range'_concat, Nat.one_mul, Nat.add_comm 1 n]

variable {chipId : Nat} {chip : DbChip}

lemma noteRegion_ordered (ordered : InOrder s) {id : Nat} {chip' : DbChip}
    {table : Store DbChipRegion} {region : DbChipRegion}
    (there : s.db.chip_tbl.objs chipId = some chip)
    (made : chip.chip_region_tbl.create kTablePage region = some (id, table))
    (bare : region.chip_bump_tbl = Store.empty) (isTable : chip'.chip_region_tbl = table) :
    InOrder (s.noteRegion chipId id { s.db with
      chip_tbl := s.db.chip_tbl.write chipId chip' }) := by
  rcases ordered chipId chip there with ⟨n, filled, isRegions, inner⟩
  rcases filled_create (show 2 ≤ kTablePage by decide) filled region with
    ⟨table', made', filled'⟩
  rw [made] at made'
  simp only [some.injEq, Prod.mk.injEq] at made'
  rcases made' with ⟨rfl, rfl⟩
  rw [MirrorState.noteRegion, if_neg (Nat.succ_ne_zero n)]
  intro other found live
  rcases write_cases live with ⟨rfl, rfl⟩ | ⟨differ, old⟩
  · refine ⟨n + 1, isTable ▸ filled', ?_, ?_⟩
    · change update s.regions other _ other = _
      rw [update_self, isRegions, range'_concat_one]
    · intro r region' isRegion
      change ∃ m, _ ∧ update s.bumps (other, n + 1) [] (other, r) = _
      rw [isTable, create_objs made] at isRegion
      by_cases same : r = n + 1
      · rw [same, update_self] at isRegion
        rw [same, update_self, ← some.inj isRegion, bare]
        exact ⟨0, filled_empty kTablePage, rfl⟩
      · rw [update_of_ne same] at isRegion
        have otherKey : (other, r) ≠ (other, n + 1) := fun equal =>
          same (congrArg Prod.snd equal)
        rw [update_of_ne otherKey]
        exact inner r region' isRegion
  · rcases ordered other found old with ⟨k, filledOld, regionsOld, innerOld⟩
    refine ⟨k, filledOld, ?_, ?_⟩
    · change update s.regions chipId _ other = _
      rw [update_of_ne differ, regionsOld]
    · intro r region' isRegion
      change ∃ m, _ ∧ update s.bumps (chipId, n + 1) [] (other, r) = _
      have otherKey : (other, r) ≠ (chipId, n + 1) := fun equal =>
        differ (congrArg Prod.fst equal)
      rw [update_of_ne otherKey]
      exact innerOld r region' isRegion

lemma noteBump_ordered (ordered : InOrder s) {regionId id : Nat} {region : DbChipRegion}
    {table : Store DbChipBump} {bump : DbChipBump} (there : s.db.chip_tbl.objs chipId = some chip)
    (found : chip.chip_region_tbl.objs regionId = some region)
    (made : region.chip_bump_tbl.create kTablePage bump = some (id, table)) :
    InOrder (s.noteBump chipId regionId id { s.db with
      chip_tbl := s.db.chip_tbl.write chipId { chip with
        chip_region_tbl := chip.chip_region_tbl.write regionId
          { region with chip_bump_tbl := table } } }) := by
  rcases ordered chipId chip there with ⟨n, filled, isRegions, inner⟩
  rcases inner regionId region found with ⟨m, filledBumps, isBumps⟩
  rcases filled_create (show 2 ≤ kTablePage by decide) filledBumps bump with
    ⟨table', made', filled'⟩
  rw [made] at made'
  simp only [some.injEq, Prod.mk.injEq] at made'
  rcases made' with ⟨rfl, rfl⟩
  rw [MirrorState.noteBump, if_neg (Nat.succ_ne_zero m)]
  intro other chip' live
  rcases write_cases live with ⟨rfl, rfl⟩ | ⟨differ, old⟩
  · refine ⟨n, filled_write filled found, isRegions, ?_⟩
    intro r region' isRegion
    change ∃ k, _ ∧ update s.bumps (other, regionId) _ (other, r) = _
    rcases write_cases isRegion with ⟨rfl, rfl⟩ | ⟨differ, old⟩
    · rw [update_self, isBumps, range'_concat_one]
      exact ⟨m + 1, filled', rfl⟩
    · have otherKey : (other, r) ≠ (other, regionId) := fun equal =>
        differ (congrArg Prod.snd equal)
      rw [update_of_ne otherKey]
      exact inner r region' old
  · rcases ordered other chip' old with ⟨k, filledOld, regionsOld, innerOld⟩
    refine ⟨k, filledOld, regionsOld, ?_⟩
    intro r region' isRegion
    change ∃ j, _ ∧ update s.bumps (chipId, regionId) _ (other, r) = _
    have otherKey : (other, r) ≠ (chipId, regionId) := fun equal =>
      differ (congrArg Prod.fst equal)
    rw [update_of_ne otherKey]
    exact innerOld r region' isRegion

lemma noteRegion_made (s : MirrorState) (chip region : Nat) (db : ChipDatabase) :
    (s.noteRegion chip region db).made = s.made ∧ (s.noteRegion chip region db).db = db := by
  rw [MirrorState.noteRegion]
  split <;> exact ⟨rfl, rfl⟩

lemma noteBump_made (s : MirrorState) (chip region bump : Nat) (db : ChipDatabase) :
    (s.noteBump chip region bump db).made = s.made ∧ (s.noteBump chip region bump db).db = db := by
  rw [MirrorState.noteBump]
  split <;> exact ⟨rfl, rfl⟩

lemma invariant_writeChip (inv : MirrorInvariant s) {s' : MirrorState} (ordered : InOrder s')
    (made : s'.made = s.made)
    (db : s'.db = { s.db with chip_tbl := s.db.chip_tbl.write chipId chip }) :
    MirrorInvariant s' := by
  refine ⟨mirrors_same inv.toMirrors (by rw [db]; rfl) made, ordered, ?_, ?_, ?_, ?_⟩
  · rw [db]
    exact inv.instsWf
  · rw [db]
    exact inv.regionInstsWf
  · rw [db]
    exact inv.bumpInstsWf
  · intro id inst live
    rw [db] at live ⊢
    exact write_isSome (inv.parents id inst live)

lemma regionCreate_keeps (inv : MirrorInvariant s) (chipId : Nat) (name : String)
    (side : RegionSide) (layerTech : Option Nat) :
    MirrorInvariant (s.step (.regionCreate chipId name side layerTech)) := by
  rw [MirrorState.step]
  rcases regionCreate_exec chipId name side layerTech s.db with
    ⟨result, ran, none⟩ | ⟨chip, id, table, there, made, ran⟩
  · rw [ran]
    dsimp only
    rw [none, MirrorState.noteRegion, if_pos rfl]
    exact inv
  · rw [ran]
    dsimp only
    rw [createdId]
    exact invariant_writeChip inv (noteRegion_ordered inv.ordered there made rfl rfl)
      (noteRegion_made _ _ _ _).1 (noteRegion_made _ _ _ _).2

lemma bumpCreate_keeps (inv : MirrorInvariant s) (chipId regionId instChip inst : Nat) :
    MirrorInvariant (s.step (.bumpCreate chipId regionId instChip inst)) := by
  rw [MirrorState.step]
  rcases bumpCreate_exec chipId regionId instChip inst s.db with
    ⟨result, ran, none⟩ | ⟨chip, region, id, table, there, found, made, ran⟩
  · rw [ran]
    dsimp only
    rw [none, MirrorState.noteBump, if_pos rfl]
    exact inv
  · rw [ran]
    dsimp only
    rw [createdId]
    exact invariant_writeChip inv (noteBump_ordered inv.ordered there found made)
      (noteBump_made _ _ _ _ _).1 (noteBump_made _ _ _ _ _).2

end Creating

def DbChip.link (parent : DbChip) (id : Nat) (name : String) : DbChip :=
  { parent with
    chipinsts := id :: parent.chipinsts
    chipinsts_map := (name, id) :: parent.chipinsts_map }

lemma modifyChipInst_exec {db : ChipDatabase} {id : Nat} {inst : DbChipInst}
    (live : db.chip_inst_tbl.objs id = some inst) (update : DbChipInst → DbChipInst) :
    (modifyChipInst id update).exec db =
      (.ok (), { db with chip_inst_tbl := db.chip_inst_tbl.write id (update inst) }) := by
  rw [modifyChipInst, exec_bind_ok _ (getChipInst_some live)]
  rfl

lemma instCreate_exec (parentId masterId : Nat) (name : String) (db : ChipDatabase)
    (regionsWf : db.chip_region_inst_tbl.WellFormed kTablePage)
    (bumpsWf : db.chip_bump_inst_tbl.WellFormed kTablePage) :
    (∃ result, (dbChipInst_create parentId masterId name).exec db = (result, db) ∧
        createdId result = 0) ∨
      ∃ parent master id insts pairs regionInsts bumpInsts,
        db.chip_tbl.objs parentId = some parent ∧ db.chip_tbl.objs masterId = some master ∧
        db.chip_inst_tbl.create kTablePage (newChipInst name masterId parentId) =
          some (id, insts) ∧
        pairs.map Prod.fst = tableIds master.chip_region_tbl ∧
        Copied id master pairs db.chip_region_inst_tbl regionInsts db.chip_bump_inst_tbl bumpInsts ∧
        (dbChipInst_create parentId masterId name).exec db = (.ok id, { db with
          chip_tbl := db.chip_tbl.write parentId (parent.link id name)
          chip_inst_tbl := insts.write id { newChipInst name masterId parentId with
            chip_region_insts := pairs.map Prod.snd
            region_insts_map := pairs }
          chip_region_inst_tbl := regionInsts
          chip_bump_inst_tbl := bumpInsts }) := by
  rw [dbChipInst_create]
  split
  · exact .inl ⟨_, rfl, rfl⟩
  · cases isParent : db.chip_tbl.objs parentId with
    | none => exact .inl ⟨_, by rw [exec_bind, getChip_none isParent], rfl⟩
    | some parent =>
      rw [exec_bind_ok _ (getChip_some isParent)]
      cases isMaster : db.chip_tbl.objs masterId with
      | none => exact .inl ⟨_, by rw [exec_bind, getChip_none isMaster], rfl⟩
      | some master =>
        rw [exec_bind_ok _ (getChip_some isMaster), checkNot, check]
        split
        · exact .inl ⟨_, rfl, rfl⟩
        · rw [exec_bind_ok _ (exec_pure () db), checkNot, check]
          split
          · exact .inl ⟨_, rfl, rfl⟩
          · rw [exec_bind_ok _ (exec_pure () db), checkNot, check]
            split
            · exact .inl ⟨_, rfl, rfl⟩
            · rw [exec_bind_ok _ (exec_pure () db)]
              rcases create_isSome (newChipInst name masterId parentId) db.chip_inst_tbl
                (show 2 ≤ kTablePage by decide) with ⟨id, insts, made⟩
              have exec : (createChipInst (newChipInst name masterId parentId)).exec db =
                  (.ok id, { db with chip_inst_tbl := insts }) := by
                rw [createChipInst, allocate, exec_bind_ok _ (exec_get db), made]
                rfl
              have live : insts.objs id = some (newChipInst name masterId parentId) := by
                rw [create_objs made, update_self]
              rcases createRegionInsts_exec id master (tableIds master.chip_region_tbl) { db with
                  chip_tbl := db.chip_tbl.write parentId (parent.link id name)
                  chip_inst_tbl := insts } regionsWf bumpsWf
                (fun region member => (mem_filter.mp member).2) with
                ⟨pairs, regionInsts, bumpInsts, execRegions, firsts, copied⟩
              refine .inr ⟨parent, master, id, insts, pairs, regionInsts, bumpInsts, rfl,
                rfl, made, firsts, copied, ?_⟩
              have modified := @modifyChipInst_exec { db with
                  chip_tbl := db.chip_tbl.write parentId (parent.link id name)
                  chip_inst_tbl := insts
                  chip_region_inst_tbl := regionInsts
                  chip_bump_inst_tbl := bumpInsts } id _ live fun chipinst => { chipinst with
                chip_region_insts := pairs.map Prod.snd
                region_insts_map := pairs }
              have linked := @modifyChip_exec parentId { db with chip_inst_tbl := insts } parent
                isParent fun parent => parent.link id name
              rw [exec_bind_ok _ exec]
              refine (exec_bind_ok _ linked).trans ?_
              rw [exec_bind_ok _ execRegions]
              exact exec_bind_ok _ modified

section Instances

variable {s : MirrorState}

variable {db : ChipDatabase} {inst : DbChipInst}

lemma copyOf_new {chip id : Nat} {master : DbChip}
    {pairs : List (Nat × Nat)} {regionInsts : Store DbChipRegionInst}
    {bumpInsts : Store DbChipBumpInst} (ordered : InOrder s)
    (isMaster : s.db.chip_tbl.objs chip = some master)
    (firsts : pairs.map Prod.fst = tableIds master.chip_region_tbl)
    (copied : Copied id master pairs regionInsts db.chip_region_inst_tbl bumpInsts
      db.chip_bump_inst_tbl)
    (lists : inst.chip_region_insts = pairs.map Prod.snd) (map : inst.region_insts_map = pairs) :
    CopyOf db id inst (s.contents chip) := by
  rcases ordered chip master isMaster with ⟨n, filled, isRegions, inner⟩
  rw [tableIds_filled filled] at firsts
  have nodup : (pairs.map Prod.fst).Nodup := by
    rw [firsts]
    exact nodup_range'
  have contents : s.contents chip = pairs.map fun pair => (pair.1, s.bumps (chip, pair.1)) := by
    rw [MirrorState.contents, isRegions, ← firsts, List.map_map]
    rfl
  refine ⟨?_, ?_, ?_⟩
  · rw [lists, contents, forall₂_map_left_iff, forall₂_map_right_iff, forall₂_same]
    intro pair member
    rcases copied.made pair member with ⟨region, ids, isRegion, live, bumps⟩
    rcases inner pair.1 region isRegion with ⟨m, filledBumps, isBumps⟩
    have positive : pair.1 ≠ 0 := by
      have inRange : pair.1 ∈ range' 1 n := firsts ▸ mem_map_of_mem member
      have bounds := List.mem_range'_1.mp inRange
      omega
    refine ⟨?_, ids, live, ?_⟩
    · rw [DbChipInst.findChipRegionInst, if_neg positive, map, lookup_iff_mem pairs nodup]
      exact member
    · rw [isBumps, ← tableIds_filled filledBumps]
      exact bumps
  · rw [contents, List.map_map]
    exact nodup
  · intro entry member
    rcases mem_map.mp member with ⟨region, isRegion, rfl⟩
    have inTable : (master.chip_region_tbl.objs region).isSome := by
      rw [filled.live]
      rw [isRegions] at isRegion
      have bounds := List.mem_range'_1.mp isRegion
      omega
    rcases isSome_iff_exists.mp inTable with ⟨object, found⟩
    rcases inner region object found with ⟨m, _, isBumps⟩
    rw [isBumps]
    exact nodup_range'

lemma copyOf_kept {db' : ChipDatabase} {id : Nat}
    {copy : List (Nat × List Nat)} (copyOf : CopyOf db id inst copy)
    (regions : ∀ regionInst ∈ inst.chip_region_insts, ∀ object,
      db.chip_region_inst_tbl.objs regionInst = some object →
        db'.chip_region_inst_tbl.objs regionInst = some object)
    (bumps : ∀ bumpInst object, db.chip_bump_inst_tbl.objs bumpInst = some object →
      object.chip_region_inst ∈ inst.chip_region_insts →
        db'.chip_bump_inst_tbl.objs bumpInst = some object) : CopyOf db' id inst copy := by
  rcases copyOf with ⟨all, distinct⟩
  refine ⟨?_, distinct⟩
  clear distinct
  generalize inst.chip_region_insts = list at all regions bumps
  induction all with
  | nil => exact Forall₂.nil
  | @cons regionInst entry rest _ first _ ih =>
    rcases first with ⟨found, ids, live, copied⟩
    refine Forall₂.cons ⟨found, ids, ?_, ?_⟩ (ih ?_ ?_)
    · exact regions regionInst mem_cons_self _ live
    · exact Forall₂.imp
        (fun bumpInst _ there => bumps bumpInst _ there mem_cons_self) copied
    · exact fun other member => regions other (mem_cons_of_mem _ member)
    · exact fun bumpInst object there member =>
        bumps bumpInst object there (mem_cons_of_mem _ member)

lemma owns_of_copyOf {id : Nat} {copy : List (Nat × List Nat)} (copyOf : CopyOf db id inst copy) :
    Owns db inst.chip_region_insts := by
  refine ⟨?_, ?_⟩
  · apply forall₂_nodup copyOf.regions copyOf.distinct.1
    intro regionInst entry entry' first second
    rcases first.2 with ⟨ids, live, _⟩
    rcases second.2 with ⟨ids', live', _⟩
    rw [live] at live'
    exact congrArg DbChipRegionInst.region (some.inj live')
  · intro regionInst member
    rcases forall₂_left copyOf.regions member with ⟨entry, isEntry, _, ids, live, copied⟩
    refine ⟨_, live, ?_, ?_⟩
    · have nodup := copyOf.distinct.2 entry isEntry
      rw [← map_id entry.2] at nodup
      apply forall₂_nodup copied nodup
      intro bumpInst bump bump' first second
      rw [first] at second
      exact congrArg DbChipBumpInst.chip_bump (some.inj second)
    · intro bumpInst inside
      rcases forall₂_left copied inside with ⟨bump, _, there⟩
      exact ⟨_, there, rfl⟩

lemma inOrder_same (ordered : InOrder s) {s' : MirrorState} (regions : s'.regions = s.regions)
    (bumps : s'.bumps = s.bumps)
    (chips : ∀ id chip', s'.db.chip_tbl.objs id = some chip' →
      ∃ chip, s.db.chip_tbl.objs id = some chip ∧
        chip.chip_region_tbl = chip'.chip_region_tbl) : InOrder s' := by
  intro id chip' live
  rcases chips id chip' live with ⟨chip, there, same⟩
  rw [regions, bumps, ← same]
  exact ordered id chip there

lemma instCreate_keeps (inv : MirrorInvariant s) (parentId masterId : Nat) (name : String) :
    MirrorInvariant (s.step (.instCreate parentId masterId name)) := by
  rw [MirrorState.step]
  rcases instCreate_exec parentId masterId name s.db inv.regionInstsWf inv.bumpInstsWf with
    ⟨result, ran, none⟩ | ⟨parent, master, id, insts, pairs, regionInsts, bumpInsts, isParent,
      isMaster, made, firsts, copied, ran⟩
  · rw [ran]
    dsimp only
    rw [none, MirrorState.noteInst, if_pos rfl]
    exact inv
  · rw [ran]
    dsimp only
    have fresh := create_fresh inv.instsWf made
    rw [createdId, MirrorState.noteInst, if_neg fresh.1]
    have isNew : insts.objs id = some (newChipInst name masterId parentId) := by
      rw [create_objs made, update_self]
    have oldInsts : ∀ other inst, other ≠ id → (insts.objs other = some inst ↔
        s.db.chip_inst_tbl.objs other = some inst) := by
      intro other inst differ
      rw [create_objs made, update_of_ne differ]
    have keptRegions : StoreKeeps s.db.chip_region_inst_tbl regionInsts := by
      intro other object there
      have apart : other ∉ pairs.map Prod.snd := by
        intro member
        rcases mem_map.mp member with ⟨pair, isPair, rfl⟩
        rw [copied.fresh pair isPair] at there
        cases there
      rw [copied.regions other apart, there]
    refine ⟨⟨?_, ?_, ?_⟩, ?_, ?_, copied.regionsWf, copied.bumpsWf, ?_⟩
    · intro other inst live
      rcases write_cases live with ⟨rfl, rfl⟩ | ⟨differ, old⟩
      · dsimp only
        rw [update_self]
        exact copyOf_new inv.ordered isMaster firsts copied rfl rfl
      · dsimp only
        rw [update_of_ne differ]
        exact copyOf_kept (inv.copies other inst ((oldInsts other inst differ).mp old))
          (fun _ _ => keptRegions _) fun _ _ there _ => copied.bumps _ _ there
    · intro regionInst object live
      by_cases inPairs : regionInst ∈ pairs.map Prod.snd
      · refine ⟨{ newChipInst name masterId parentId with
            chip_region_insts := pairs.map Prod.snd
            region_insts_map := pairs }, ?_, inPairs⟩
        rcases mem_map.mp inPairs with ⟨pair, isPair, rfl⟩
        rcases copied.made pair isPair with ⟨_, ids, _, there, _⟩
        have isObject : some (⟨pair.1, id, ids⟩ : DbChipRegionInst) = some object :=
          there.symm.trans live
        rw [← some.inj isObject]
        exact update_self _ _ _
      · have old : s.db.chip_region_inst_tbl.objs regionInst = some object :=
          (copied.regions regionInst inPairs).symm.trans live
        rcases inv.owned.regionInsts regionInst object old with ⟨inst, isInst, listed⟩
        refine ⟨inst, ?_, listed⟩
        have differ : object.parent_chipinst ≠ id := fun same => by
          rw [same, fresh.2.2] at isInst
          cases isInst
        change update insts.objs id _ object.parent_chipinst = _
        rw [update_of_ne differ]
        exact (oldInsts _ inst differ).mpr isInst
    · intro bumpInst object live
      rcases copied.owned bumpInst object live with old | ⟨_, owner⟩
      · rcases inv.owned.bumpInsts bumpInst object old with ⟨regionInst, there, listed⟩
        exact ⟨regionInst, keptRegions _ _ there, listed⟩
      · exact owner
    · refine inOrder_same inv.ordered ?_ ?_ ?_
      · rfl
      · rfl
      intro other chip live
      rcases write_cases live with ⟨rfl, rfl⟩ | ⟨_, old⟩
      · exact ⟨parent, isParent, rfl⟩
      · exact ⟨chip, old, rfl⟩
    · exact write_wellFormed (create_wellFormed inv.instsWf made) isNew
    · intro other inst live
      rcases write_cases live with ⟨rfl, rfl⟩ | ⟨differ, old⟩
      · exact write_isSome (by
          change (s.db.chip_tbl.objs parentId).isSome
          rw [isParent]
          rfl)
      · exact write_isSome (inv.parents other inst ((oldInsts other inst differ).mp old))

lemma instDestroy_exec (inv : MirrorInvariant s) (instId : Nat) :
    ((dbChipInst_destroy instId).exec s.db).2 = s.db ∨
      ∃ inst parent insts regionInsts bumpInsts, s.db.chip_inst_tbl.objs instId = some inst ∧
        s.db.chip_tbl.objs inst.parent_chip = some parent ∧
        insts.WellFormed kTablePage ∧ regionInsts.WellFormed kTablePage ∧
        bumpInsts.WellFormed kTablePage ∧ Without s.db.chip_inst_tbl insts [instId] ∧
        Without s.db.chip_region_inst_tbl regionInsts inst.chip_region_insts ∧
        Without s.db.chip_bump_inst_tbl bumpInsts
          (bumpsOf s.db.chip_region_inst_tbl inst.chip_region_insts) ∧
        ((dbChipInst_destroy instId).exec s.db).2 = { s.db with
          chip_tbl := s.db.chip_tbl.write inst.parent_chip { parent with
            chipinsts := parent.chipinsts.erase instId
            chipinsts_map := parent.chipinsts_map.filter (·.1 ≠ inst.name) }
          chip_inst_tbl := insts
          chip_region_inst_tbl := regionInsts
          chip_bump_inst_tbl := bumpInsts } := by
  rw [dbChipInst_destroy]
  split
  · exact .inl rfl
  · cases live : s.db.chip_inst_tbl.objs instId with
    | none => exact .inl (by rw [exec_bind, getChipInst_none live])
    | some inst =>
      have copyOf := inv.copies instId inst live
      rcases destroyRegionInsts_exec inst.chip_region_insts s.db inv.regionInstsWf
        inv.bumpInstsWf (owns_of_copyOf copyOf) with
        ⟨regionInsts, bumpInsts, ran, regionsWf, bumpsWf, withoutRegions, withoutBumps⟩
      rcases isSome_iff_exists.mp (inv.parents instId inst live) with ⟨parent, isParent⟩
      have unlinked := @modifyChip_exec inst.parent_chip { s.db with
          chip_region_inst_tbl := regionInsts
          chip_bump_inst_tbl := bumpInsts } parent isParent fun parent => { parent with
        chipinsts := parent.chipinsts.erase instId
        chipinsts_map := parent.chipinsts_map.filter (·.1 ≠ inst.name) }
      have last : ∃ insts, (destroyChipInst instId).exec { s.db with
            chip_tbl := s.db.chip_tbl.write inst.parent_chip { parent with
              chipinsts := parent.chipinsts.erase instId
              chipinsts_map := parent.chipinsts_map.filter (·.1 ≠ inst.name) }
            chip_region_inst_tbl := regionInsts
            chip_bump_inst_tbl := bumpInsts } = (.ok (), { s.db with
              chip_tbl := s.db.chip_tbl.write inst.parent_chip { parent with
                chipinsts := parent.chipinsts.erase instId
                chipinsts_map := parent.chipinsts_map.filter (·.1 ≠ inst.name) }
              chip_inst_tbl := insts
              chip_region_inst_tbl := regionInsts
              chip_bump_inst_tbl := bumpInsts }) ∧
          insts.WellFormed kTablePage ∧ Without s.db.chip_inst_tbl insts [instId] :=
        release_exec inv.instsWf (by rw [live]; rfl)
      rcases last with ⟨insts, destroyed, instsWf, withoutInst⟩
      refine .inr ⟨inst, parent, insts, regionInsts, bumpInsts, rfl, isParent, instsWf,
        regionsWf, bumpsWf, withoutInst, withoutRegions, withoutBumps, ?_⟩
      rw [exec_bind_ok _ (getChipInst_some live), exec_bind_ok _ ran]
      have whole := (exec_bind_ok (fun _ => destroyChipInst instId) unlinked).trans destroyed
      exact congrArg Prod.snd whole

lemma instDestroy_keeps (inv : MirrorInvariant s) (instId : Nat) :
    MirrorInvariant (s.step (.instDestroy instId)) := by
  rw [MirrorState.step]
  rcases instDestroy_exec inv instId with same | ⟨inst, parent, insts, regionInsts, bumpInsts, live,
    isParent, instsWf, regionsWf, bumpsWf, withoutInst, withoutRegions, withoutBumps, ran⟩
  · rw [same]
    exact inv
  · rw [ran]
    have own := owns_of_copyOf (inv.copies instId inst live)
    have parentOf : ∀ regionInst ∈ inst.chip_region_insts, ∀ object,
        s.db.chip_region_inst_tbl.objs regionInst = some object →
          object.parent_chipinst = instId := by
      intro regionInst member object there
      rcases forall₂_left (inv.copies instId inst live).regions member with ⟨entry, _, _, ids, found, _⟩
      rw [there] at found
      rw [some.inj found]
    refine ⟨⟨?_, ?_, ?_⟩, ?_, instsWf, regionsWf, bumpsWf, ?_⟩
    · intro other otherInst otherLive
      rcases (withoutInst other otherInst).mp otherLive with ⟨old, differ⟩
      have copyOf := inv.copies other otherInst old
      have apart : ∀ regionInst ∈ otherInst.chip_region_insts,
          regionInst ∉ inst.chip_region_insts := by
        intro regionInst member shared
        rcases forall₂_left copyOf.regions member with ⟨entry, _, _, ids, found, _⟩
        have isParent := parentOf regionInst shared _ found
        exact differ (mem_singleton.mpr isParent)
      refine copyOf_kept copyOf ?_ ?_
      · intro regionInst member object there
        exact (withoutRegions regionInst object).mpr ⟨there, apart regionInst member⟩
      · intro bumpInst object there member
        refine (withoutBumps bumpInst object).mpr ⟨there, ?_⟩
        intro inside
        rcases mem_bumpsOf.mp inside with ⟨regionInst, shared, regionObject, found, listed⟩
        rcases own.live regionInst shared with ⟨sameObject, isSame, _, bumps⟩
        rw [found] at isSame
        rcases bumps bumpInst (some.inj isSame ▸ listed) with ⟨sameBump, isBump, isOwner⟩
        rw [there] at isBump
        rw [← some.inj isBump] at isOwner
        exact apart object.chip_region_inst member (isOwner ▸ shared)
    · intro regionInst object there
      rcases (withoutRegions regionInst object).mp there with ⟨old, absent⟩
      rcases inv.owned.regionInsts regionInst object old with ⟨owner, isOwner, listed⟩
      refine ⟨owner, (withoutInst _ owner).mpr ⟨isOwner, ?_⟩, listed⟩
      intro same
      rw [mem_singleton.mp same, live] at isOwner
      exact absent (some.inj isOwner ▸ listed)
    · intro bumpInst object there
      rcases (withoutBumps bumpInst object).mp there with ⟨old, absent⟩
      rcases inv.owned.bumpInsts bumpInst object old with ⟨regionInst, isOwner, listed⟩
      refine ⟨regionInst, (withoutRegions _ regionInst).mpr ⟨isOwner, ?_⟩, listed⟩
      intro shared
      exact absent (mem_bumpsOf.mpr ⟨_, shared, regionInst, isOwner, listed⟩)
    · refine inOrder_same inv.ordered ?_ ?_ ?_
      · rfl
      · rfl
      intro other chip there
      rcases write_cases there with ⟨rfl, rfl⟩ | ⟨_, old⟩
      · exact ⟨parent, isParent, rfl⟩
      · exact ⟨chip, old, rfl⟩
    · intro other otherInst otherLive
      exact write_isSome (inv.parents other otherInst ((withoutInst other otherInst).mp otherLive).1)

end Instances

/-- Chips without regions and no instances. -/
structure NoInstances (db : ChipDatabase) : Prop where
  instsWf : db.chip_inst_tbl.WellFormed kTablePage
  regionInstsWf : db.chip_region_inst_tbl.WellFormed kTablePage
  bumpInstsWf : db.chip_bump_inst_tbl.WellFormed kTablePage
  insts : ∀ id, db.chip_inst_tbl.objs id = none
  regionInsts : ∀ id, db.chip_region_inst_tbl.objs id = none
  bumpInsts : ∀ id, db.chip_bump_inst_tbl.objs id = none
  chips : ∀ id chip, db.chip_tbl.objs id = some chip → chip.chip_region_tbl = Store.empty

section Runs

variable {db : ChipDatabase} {s : MirrorState}

lemma invariant_start (none : NoInstances db) : MirrorInvariant (MirrorState.ofDatabase db) := by
  refine ⟨⟨?_, ?_, ?_⟩, ?_, none.instsWf, none.regionInstsWf, none.bumpInstsWf, ?_⟩
  · intro id inst live
    exact absurd ((none.insts id).symm.trans live) (by simp)
  · intro id regionInst live
    exact absurd ((none.regionInsts id).symm.trans live) (by simp)
  · intro id bumpInst live
    exact absurd ((none.bumpInsts id).symm.trans live) (by simp)
  · intro id chip live
    rw [none.chips id chip live]
    refine ⟨0, filled_empty kTablePage, rfl, ?_⟩
    intro r region found
    cases found
  · intro id inst live
    exact absurd ((none.insts id).symm.trans live) (by simp)

lemma step_keeps (inv : MirrorInvariant s) (call : MirrorCall) : MirrorInvariant (s.step call) := by
  cases call with
  | regionCreate chip name side layerTech => exact regionCreate_keeps inv chip name side layerTech
  | bumpCreate chip region instChip inst => exact bumpCreate_keeps inv chip region instChip inst
  | instCreate parent master name => exact instCreate_keeps inv parent master name
  | instDestroy inst => exact instDestroy_keeps inv inst

def RegionInstOf (db : ChipDatabase) (inst region regionInst : Nat) : Prop :=
  ∃ object, db.chip_region_inst_tbl.objs regionInst = some object ∧
    object.parent_chipinst = inst ∧ object.region = region

def BumpInstOf (db : ChipDatabase) (inst region bump bumpInst : Nat) : Prop :=
  ∃ object, db.chip_bump_inst_tbl.objs bumpInst = some object ∧ object.chip_bump = bump ∧
    RegionInstOf db inst region object.chip_region_inst

/-- There is one region instance for each region and one bump instance for each of its bumps. -/
structure EachOnce (db : ChipDatabase) (inst : Nat) (copy : List (Nat × List Nat)) : Prop where
  regions : ∀ entry ∈ copy, ∃! regionInst, RegionInstOf db inst entry.1 regionInst
  bumps : ∀ entry ∈ copy, ∀ bump ∈ entry.2, ∃! bumpInst, BumpInstOf db inst entry.1 bump bumpInst
  others : ∀ region regionInst, RegionInstOf db inst region regionInst → region ∈ copy.map Prod.fst

lemma eachOnce (mirrors : Mirrors s) {id : Nat} {inst : DbChipInst}
    (live : s.db.chip_inst_tbl.objs id = some inst) : EachOnce s.db id (s.made id) := by
  have copyOf := mirrors.copies id inst live
  have listed : ∀ region regionInst, RegionInstOf s.db id region regionInst →
      regionInst ∈ inst.chip_region_insts ∧ ∃ entry ∈ s.made id, entry.1 = region ∧
        inst.findChipRegionInst region = some regionInst ∧
        ∃ ids, s.db.chip_region_inst_tbl.objs regionInst = some ⟨region, id, ids⟩ ∧
          BumpsCopied s.db.chip_bump_inst_tbl regionInst ids entry.2 := by
    intro region regionInst isRegionInst
    rcases isRegionInst with ⟨object, there, isParent, isRegion⟩
    rcases mirrors.owned.regionInsts regionInst object there with ⟨owner, isOwner, member⟩
    rw [isParent, live] at isOwner
    rw [← some.inj isOwner] at member
    rcases forall₂_left copyOf.regions member with ⟨entry, isEntry, found, ids, same, copied⟩
    rw [there] at same
    have isFirst : entry.1 = region := by
      rw [← isRegion, some.inj same]
    refine ⟨member, entry, isEntry, isFirst, isFirst ▸ found, ids, ?_, copied⟩
    rw [there, same, isFirst]
  refine ⟨?_, ?_, ?_⟩
  · intro entry isEntry
    rcases forall₂_right copyOf.regions isEntry with ⟨regionInst, _, found, ids, there, _⟩
    refine ⟨regionInst, ⟨_, there, rfl, rfl⟩, ?_⟩
    intro other isOther
    rcases (listed entry.1 other isOther).2 with ⟨_, _, _, foundOther, _⟩
    exact some.inj (foundOther.symm.trans found)
  · intro entry isEntry bump isBump
    rcases forall₂_right copyOf.regions isEntry with ⟨regionInst, _, found, ids, there, copied⟩
    rcases forall₂_right copied isBump with ⟨bumpInst, inIds, isCopy⟩
    refine ⟨bumpInst, ⟨_, isCopy, rfl, _, there, rfl, rfl⟩, ?_⟩
    intro other isOther
    rcases isOther with ⟨object, isObject, sameBump, isRegionInst⟩
    rcases (listed entry.1 _ isRegionInst).2 with ⟨_, _, _, foundOther, _⟩
    have sameRegion : object.chip_region_inst = regionInst :=
      some.inj (foundOther.symm.trans found)
    rcases mirrors.owned.bumpInsts other object isObject with ⟨owner, isOwner, inOwner⟩
    rw [sameRegion, there] at isOwner
    rw [← some.inj isOwner] at inOwner
    have isOther : s.db.chip_bump_inst_tbl.objs other = some ⟨bump, regionInst⟩ := by
      rw [isObject, ← sameBump, ← sameRegion]
    refine forall₂_unique copied (copyOf.distinct.2 entry isEntry) ?_ inOwner inIds isOther isCopy
    intro item bump' bump'' first second
    rw [first] at second
    exact congrArg DbChipBumpInst.chip_bump (some.inj second)
  · intro region regionInst isRegionInst
    rcases (listed region regionInst isRegionInst).2 with ⟨entry, isEntry, isFirst, _⟩
    exact mem_map.mpr ⟨entry, isEntry, isFirst⟩

/-- Each live instance mirrors the regions and bumps that its master had when it was created. -/
theorem instances_mirror_creation (none : NoInstances db) (calls : List MirrorCall) :
    Mirrors (run MirrorState.step (MirrorState.ofDatabase db) calls) ∧ ∀ id inst,
        (run MirrorState.step (MirrorState.ofDatabase db) calls).db.chip_inst_tbl.objs id =
          some inst →
        EachOnce (run MirrorState.step (MirrorState.ofDatabase db) calls).db id
          ((run MirrorState.step (MirrorState.ofDatabase db) calls).made id) := by
  have inv : MirrorInvariant (run MirrorState.step (MirrorState.ofDatabase db) calls) :=
    run_invariant (fun s call (_ : True) inv => step_keeps inv call) (fun _ _ => trivial)
      (invariant_start none)
  exact ⟨inv.toMirrors, fun _ _ live => eachOnce inv.toMirrors live⟩

end Runs

/-- A hierarchical chip and a die with a block. -/
def stackAndDie : ChipDatabase :=
  { ChipDatabase.empty with
    chip_tbl := ⟨fun id =>
      if id = 1 then some (newChip "stack" .HIER 0)
      else if id = 2 then some { newChip "die" .DIE 1 with block_insts := some fun _ => none }
      else none, [3], 2⟩ }

lemma stackAndDie_noInstances : NoInstances stackAndDie := by
  refine ⟨wellFormed_empty _, wellFormed_empty _, wellFormed_empty _, ?_, ?_, ?_,
    ?_⟩
  · intro id
    rfl
  · intro id
    rfl
  · intro id
    rfl
  · intro id chip live
    simp only [stackAndDie] at live
    split at live
    · rw [← some.inj live]
      rfl
    · split at live
      · rw [← some.inj live]
        rfl
      · cases live

def stackCalls : List MirrorCall :=
  [.regionCreate 2 "front" .FRONT none, .regionCreate 2 "back" .BACK none,
    .bumpCreate 2 1 2 1, .bumpCreate 2 1 2 2,
    .instCreate 1 2 "lower", .instCreate 1 2 "upper", .instDestroy 1]

theorem stackCalls_mirror :
    (let s := run MirrorState.step (MirrorState.ofDatabase stackAndDie) stackCalls
     (s.db.chip_inst_tbl.objs 2).isSome ∧ s.made 2 = [(1, [1, 2]), (2, [])]) ∧
      Mirrors (run MirrorState.step (MirrorState.ofDatabase stackAndDie) stackCalls) :=
  ⟨by decide, (instances_mirror_creation stackAndDie_noInstances stackCalls).1⟩

/-- A region that the die gets later has no region instance. -/
theorem late_region_not_mirrored :
    let s := run MirrorState.step (MirrorState.ofDatabase stackAndDie)
      [.instCreate 1 2 "lower", .regionCreate 2 "front" .FRONT none]
    ((s.db.chip_inst_tbl.objs 1).any fun inst => inst.master_chip = 2) ∧
      ((s.db.chip_tbl.objs 2).any fun chip => (chip.chip_region_tbl.objs 1).isSome) ∧
      ∀ regionInst, ¬ RegionInstOf s.db 1 1 regionInst := by
  refine ⟨by decide, by decide, ?_⟩
  intro regionInst isRegionInst
  rcases isRegionInst with ⟨_, there, _⟩
  cases there

end OpenRoad.Odb
