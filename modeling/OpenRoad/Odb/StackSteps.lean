import OpenRoad.Odb.ChipMirror
import OpenRoad.Odb.StackReader

/-! What a call that returned has done to the tables of chips and of chip instances. -/

namespace OpenRoad.Odb

open OpenRoad.Lib OpenRoad.Lib.Effect Function ThreeDBlox DbTransform

section Returned

variable {α : Type} {db db' : ChipDatabase} {id : Nat}

lemma checkNot_ok {bad : Prop} [Decidable bad] {text : String} {value : Unit}
    (ran : (checkNot bad id text).exec db = (.ok value, db')) : ¬ bad ∧ db' = db := by
  rw [checkNot, check] at ran
  split at ran
  · cases ran
  · rename_i fails
    cases ran
    exact ⟨fails, rfl⟩

lemma deref_ok {object : Option α} {value : α}
    (ran : (deref object).exec db = (.ok value, db')) : object = some value ∧ db' = db := by
  cases object with
  | none => cases ran
  | some found =>
    cases ran
    exact ⟨rfl, rfl⟩

lemma getChip_ok {chip : DbChip} (ran : (getChip id).exec db = (.ok chip, db')) :
    db.chip_tbl.objs id = some chip ∧ db' = db := by
  rw [getChip, exec_bind_ok _ (exec_get db)] at ran
  exact deref_ok ran

lemma getChipInst_ok {inst : DbChipInst} (ran : (getChipInst id).exec db = (.ok inst, db')) :
    db.chip_inst_tbl.objs id = some inst ∧ db' = db := by
  rw [getChipInst, exec_bind_ok _ (exec_get db)] at ran
  exact deref_ok ran

lemma modifyChip_ok {update : DbChip → DbChip} {value : Unit}
    (ran : (modifyChip id update).exec db = (.ok value, db')) :
    ∃ chip, db.chip_tbl.objs id = some chip ∧
      db' = { db with chip_tbl := db.chip_tbl.write id (update chip) } := by
  rcases bind_ok ran with ⟨chip, mid, ranGet, ranPut⟩
  rcases getChip_ok ranGet with ⟨there, rfl⟩
  cases ranPut
  exact ⟨chip, there, rfl⟩

lemma modifyChipInst_ok {update : DbChipInst → DbChipInst} {value : Unit}
    (ran : (modifyChipInst id update).exec db = (.ok value, db')) :
    ∃ inst, db.chip_inst_tbl.objs id = some inst ∧
      db' = { db with chip_inst_tbl := db.chip_inst_tbl.write id (update inst) } := by
  rcases bind_ok ran with ⟨inst, mid, ranGet, ranPut⟩
  rcases getChipInst_ok ranGet with ⟨live, rfl⟩
  cases ranPut
  exact ⟨inst, live, rfl⟩

lemma allocate_ok {table : ChipDatabase → Store α} {put : Store α → ChipDatabase → ChipDatabase}
    {page : Nat} {object : α} (ran : (allocate table put page object).exec db = (.ok id, db')) :
    ∃ created, (table db).create page object = some (id, created) ∧ db' = put created db := by
  rw [allocate, exec_bind_ok _ (exec_get db)] at ran
  rcases bind_ok ran with ⟨⟨made, created⟩, mid, ranCreate, ranPut⟩
  rcases deref_ok ranCreate with ⟨isCreated, rfl⟩
  cases ranPut
  exact ⟨created, isCreated, rfl⟩

lemma dbChip_create_ok {tech : Nat} {name : String} {type : ChipType}
    (ran : (dbChip_create tech name type).exec db = (.ok id, db')) :
    db.chip_hash.lookup name = none ∧
      ∃ table top, db.chip_tbl.create kChipPage (newChip name type tech) = some (id, table) ∧
        db' = { db with
          chip_tbl := table
          chip := top
          chip_hash := (name, id) :: db.chip_hash } := by
  rw [dbChip_create, exec_bind_ok _ (exec_get db)] at ran
  rcases bind_ok ran with ⟨_, mid, ranCheck, ranCreate⟩
  rcases checkNot_ok ranCheck with ⟨absent, rfl⟩
  rcases bind_ok ranCreate with ⟨made, created, ranCreate, ranHash⟩
  rcases allocate_ok ranCreate with ⟨table, isCreated, rfl⟩
  rw [exec_bind_ok _ (exec_modify _ _)] at ranHash
  rcases bind_ok ranHash with ⟨_, last, ranTech, ranPure⟩
  rcases checkNot_ok ranTech with ⟨_, rfl⟩
  cases ranPure
  exact ⟨Option.not_isSome_iff_eq_none.mp absent, table, _, isCreated, rfl⟩

end Returned

structure Placing where
  chip : Nat
  chip_hash : List (String × Nat)
  chip_tbl : Store DbChip
  chip_inst_tbl : Store DbChipInst

def ChipDatabase.placing (db : ChipDatabase) : Placing :=
  ⟨db.chip, db.chip_hash, db.chip_tbl, db.chip_inst_tbl⟩

lemma keepsPlacing_deref {α : Type} (object : Option α) :
    Keeps ChipDatabase.placing (deref object) := by
  cases object with
  | none => exact keeps_throw _
  | some value => exact keeps_pure value

lemma keepsPlacing_createChipBumpInst (object : DbChipBumpInst) :
    Keeps ChipDatabase.placing (createChipBumpInst object) := by
  intro db
  rcases createChipBumpInst_exec object db with ⟨_, _, _, exec⟩
  rw [exec]
  rfl

lemma keepsPlacing_createChipRegionInst (object : DbChipRegionInst) :
    Keeps ChipDatabase.placing (createChipRegionInst object) := by
  intro db
  rcases createChipRegionInst_exec object db with ⟨_, _, _, exec⟩
  rw [exec]
  rfl

lemma keepsPlacing_createBumpInsts (regionInst : Nat) (bumps : List Nat) :
    Keeps ChipDatabase.placing (createBumpInsts regionInst bumps) := by
  induction bumps with
  | nil => exact keeps_pure _
  | cons bump bumps ih =>
    apply keeps_bind (keepsPlacing_createChipBumpInst _)
    intro _
    exact keeps_bind ih fun _ => keeps_pure _

lemma keepsPlacing_createRegionInsts (chipinst : Nat) (master : DbChip) (regions : List Nat) :
    Keeps ChipDatabase.placing (createRegionInsts chipinst master regions) := by
  induction regions with
  | nil => exact keeps_pure _
  | cons region regions ih =>
    apply keeps_bind (keepsPlacing_createChipRegionInst _)
    intro _
    apply keeps_bind (keepsPlacing_deref _)
    intro _
    apply keeps_bind (keepsPlacing_createBumpInsts _ _)
    intro _
    refine keeps_bind (keeps_modify ?_) ?_
    · intro _
      rfl
    · intro _
      exact keeps_bind ih fun _ => keeps_pure _

section Instances

variable {db db' : ChipDatabase} {id : Nat}

lemma dbChipInst_create_ok {parentId masterId : Nat} {name : String} (parentPos : parentId ≠ 0)
    (masterPos : masterId ≠ 0)
    (ran : (dbChipInst_create parentId masterId name).exec db = (.ok id, db')) :
    ∃ parent master table inst, db.chip_tbl.objs parentId = some parent ∧
      db.chip_tbl.objs masterId = some master ∧ parent.type = .HIER ∧ parentId ≠ masterId ∧
      db.chip_inst_tbl.create kTablePage (newChipInst name masterId parentId) = some (id, table) ∧
      inst.master_chip = masterId ∧ db'.placing = ⟨db.chip, db.chip_hash,
        db.chip_tbl.write parentId { parent with
          chipinsts := id :: parent.chipinsts
          chipinsts_map := (name, id) :: parent.chipinsts_map }, table.write id inst⟩ := by
  rw [dbChipInst_create, if_neg (not_or.mpr ⟨parentPos, masterPos⟩)] at ran
  rcases bind_ok ran with ⟨parent, mid, ranParent, ranMaster⟩
  rcases getChip_ok ranParent with ⟨thereParent, rfl⟩
  rcases bind_ok ranMaster with ⟨master, mid', ranMaster, ranHier⟩
  rcases getChip_ok ranMaster with ⟨thereMaster, rfl⟩
  rcases bind_ok ranHier with ⟨_, mid'', ranHier, ranSelf⟩
  rcases checkNot_ok ranHier with ⟨hier, rfl⟩
  rcases bind_ok ranSelf with ⟨_, mid''', ranSelf, ranName⟩
  rcases checkNot_ok ranSelf with ⟨different, rfl⟩
  rcases bind_ok ranName with ⟨_, start, ranName, ranCreate⟩
  rcases checkNot_ok ranName with ⟨_, rfl⟩
  rcases bind_ok ranCreate with ⟨made, created, ranCreate, ranList⟩
  rcases allocate_ok ranCreate with ⟨table, isCreated, rfl⟩
  rcases bind_ok ranList with ⟨_, listed, ranList, ranRegions⟩
  rcases modifyChip_ok ranList with ⟨parent', there', rfl⟩
  rw [thereParent] at there'
  cases there'
  rcases bind_ok ranRegions with ⟨regionInsts, placed, ranRegions, ranInst⟩
  have kept := after_exec (after_keeps (keepsPlacing_createRegionInsts _ _ _) _) ranRegions
  rcases bind_ok ranInst with ⟨_, last, ranInst, ranPure⟩
  rcases modifyChipInst_ok ranInst with ⟨inst, live, rfl⟩
  cases ranPure
  have isTable : placed.chip_inst_tbl = table := congrArg Placing.chip_inst_tbl kept
  rw [isTable, Store.create_objs isCreated, update_self] at live
  cases live
  refine ⟨parent, master, table, { newChipInst name masterId parentId with
    chip_region_insts := regionInsts.map Prod.snd
    region_insts_map := regionInsts }, thereParent, thereMaster, not_not.mp hier, different,
    isCreated, rfl, ?_⟩
  · rw [ChipDatabase.placing, Placing.mk.injEq]
    exact ⟨congrArg Placing.chip kept, congrArg Placing.chip_hash kept,
      congrArg Placing.chip_tbl kept, by rw [isTable]⟩

lemma write_write {α : Type} (table : Store α) (id : Nat) (first second : α) :
    (table.write id first).write id second = table.write id second := by
  simp only [Store.write, update_idem]

lemma write_objs_self {α : Type} {table : Store α} {id : Nat} {object : α} :
    (table.write id object).objs id = some object := update_self _ _ _

lemma write_objs_ne {α : Type} {table : Store α} {id other : Nat} {object : α}
    (differ : other ≠ id) : (table.write id object).objs other = table.objs other :=
  update_of_ne differ _ _

lemma setLoc_lll (inst : DbChipInst) (master : DbChip) (loc : Point3D) :
    let lll := ((ofOrient inst.orient ⟨0, 0, 0⟩).applyCuboid master.getCuboid).lll
    ((ofOrient inst.orient
      ⟨loc.x - lll.x, loc.y - lll.y, loc.z - lll.z⟩).applyCuboid master.getCuboid).lll = loc := by
  intro lll
  rw [applyCuboid_offset]
  simp only [lll, add_sub_cancel]

lemma dbChipInst_setLoc_ok {loc : Point3D} {value : Unit}
    (ran : (dbChipInst_setLoc id loc).exec db = (.ok value, db')) :
    ∃ inst master origin, db.chip_inst_tbl.objs id = some inst ∧
      db.chip_tbl.objs inst.master_chip = some master ∧
      db' = { db with chip_inst_tbl := db.chip_inst_tbl.write id { inst with origin := origin } } ∧
      ((ofOrient inst.orient origin).applyCuboid master.getCuboid).lll = loc := by
  rw [dbChipInst_setLoc] at ran
  rcases bind_ok ran with ⟨inst, mid, ranInst, ranMaster⟩
  rcases getChipInst_ok ranInst with ⟨live, rfl⟩
  rcases bind_ok ranMaster with ⟨master, mid', ranMaster, ranSet⟩
  rcases getChip_ok ranMaster with ⟨there, rfl⟩
  rcases modifyChipInst_ok ranSet with ⟨inst', live', rfl⟩
  rw [live] at live'
  cases live'
  exact ⟨inst, master, _, live, there, rfl, setLoc_lll inst master loc⟩

lemma createChipInst_ok {chip_inst : ChipletInst} {value : Unit} (top : db.chip ≠ 0)
    (named : ∀ name id, db.chip_hash.lookup name = some id → id ≠ 0)
    (ran : (ThreeDBlox.createChipInst chip_inst).exec db = (.ok value, db')) :
    ∃ parent master masterId table id inst, db.chip_tbl.objs db.chip = some parent ∧
      db.chip_tbl.objs masterId = some master ∧
      db.chip_hash.lookup chip_inst.reference = some masterId ∧ parent.type = .HIER ∧
      db.chip ≠ masterId ∧
      db.chip_inst_tbl.create kTablePage (newChipInst chip_inst.name masterId db.chip) =
        some (id, table) ∧
      inst.master_chip = masterId ∧
      (inst.getTransform.applyCuboid master.getCuboid).lll = chip_inst.loc ∧
      db'.placing = ⟨db.chip, db.chip_hash, db.chip_tbl.write db.chip { parent with
          chipinsts := id :: parent.chipinsts
          chipinsts_map := (chip_inst.name, id) :: parent.chipinsts_map }, table.write id inst⟩ := by
  rw [ThreeDBlox.createChipInst, exec_bind_ok _ (exec_get db)] at ran
  cases found : db.chip_hash.lookup chip_inst.reference with
  | none =>
    rw [found] at ran
    cases ran
  | some masterId =>
    rw [found] at ran
    rcases bind_ok ran with ⟨id, created, ranCreate, ranOrient⟩
    rcases dbChipInst_create_ok top (named _ _ found) ranCreate with
      ⟨parent, master, table, inst, thereParent, thereMaster, hier, different, isCreated,
        isMaster, placing⟩
    cases orient : DbOrientType3D.fromString
        ((dup_orient_map.lookup chip_inst.orient).getD chip_inst.orient) with
    | none =>
      simp only [orient] at ranOrient
      cases ranOrient
    | some value =>
      simp only [orient] at ranOrient
      rcases bind_ok ranOrient with ⟨_, turned, ranOrient, ranLoc⟩
      rcases modifyChipInst_ok ranOrient with ⟨inst', live, rfl⟩
      rcases dbChipInst_setLoc_ok ranLoc with ⟨moved, master', origin, liveMoved, there, rfl, isLoc⟩
      have isInsts := congrArg Placing.chip_inst_tbl placing
      have isChips := congrArg Placing.chip_tbl placing
      simp only [ChipDatabase.placing] at isInsts isChips
      rw [isInsts, write_objs_self] at live
      cases live
      rw [isInsts, write_write, write_objs_self] at liveMoved
      cases liveMoved
      rw [isChips, isMaster, write_objs_ne (Ne.symm different), thereMaster] at there
      cases there
      refine ⟨parent, master, masterId, table, id, { inst with orient := value, origin := origin },
        thereParent, thereMaster, rfl, hier, different, isCreated, isMaster, isLoc, ?_⟩
      rw [ChipDatabase.placing, Placing.mk.injEq]
      refine ⟨congrArg Placing.chip placing, congrArg Placing.chip_hash placing, isChips, ?_⟩
      rw [isInsts, write_write, write_write]

end Instances

section Chips

variable {db db' : ChipDatabase} {id : Nat}

lemma getChipType_ok {text : String} {type : ChipType}
    (ran : (getChipType text).exec db = (.ok type, db')) :
    db' = db ∧ (type = .HIER → text = "hier") := by
  rw [getChipType] at ran
  repeat' split at ran
  all_goals cases ran
  all_goals exact ⟨rfl, by simp [*]⟩

lemma createChiplet_ok {chiplet : ChipletDef} {value : Unit}
    (ran : (createChiplet chiplet).exec db = (.ok value, db')) :
    (∃ id chip, db.chip_hash.lookup chiplet.name = some id ∧ db.chip_tbl.objs id = some chip ∧
      chiplet.type = "hier" ∧
      db' = { db with chip_tbl := db.chip_tbl.write id (resize chiplet chip) }) ∨
    db.chip_hash.lookup chiplet.name = none ∧ ∃ id table top type,
      db.chip_tbl.create kChipPage (newChip chiplet.name type chiplet.tech) = some (id, table) ∧
      (type = .HIER → chiplet.type = "hier") ∧ db' = { db with
        chip_tbl := table.write id
          (resize chiplet (newChip chiplet.name type chiplet.tech))
        chip := top
        chip_hash := (chiplet.name, id) :: db.chip_hash } := by
  rcases bind_ok ran with ⟨id, mid, ranFind, ranSize⟩
  rcases modifyChip_ok ranSize with ⟨chip, there, rfl⟩
  rw [findOrCreate, exec_bind_ok _ (exec_get db)] at ranFind
  cases found : db.chip_hash.lookup chiplet.name with
  | some old =>
    rw [found] at ranFind
    rcases bind_ok ranFind with ⟨oldChip, _, ranGet, ranType⟩
    rcases getChip_ok ranGet with ⟨thereOld, rfl⟩
    rcases bind_ok ranType with ⟨type, _, ranType, ranCheck⟩
    rcases getChipType_ok ranType with ⟨rfl, isHier⟩
    rcases bind_ok ranCheck with ⟨_, _, ranCheck, ranPure⟩
    rcases checkNot_ok ranCheck with ⟨same, rfl⟩
    cases ranPure
    rw [not_or, not_not, not_not] at same
    exact .inl ⟨id, chip, rfl, there, isHier (same.1.symm.trans same.2), rfl⟩
  | none =>
    rw [found] at ranFind
    rcases bind_ok ranFind with ⟨type, _, ranType, ranCreate⟩
    rcases getChipType_ok ranType with ⟨rfl, isHier⟩
    rcases dbChip_create_ok ranCreate with ⟨_, table, top, isCreated, rfl⟩
    rw [Store.create_objs isCreated, update_self] at there
    cases there
    exact .inr ⟨rfl, id, table, top, type, isCreated, isHier, rfl⟩

lemma createDesignTopChiplet_ok {design : DesignDef}
    (ran : (createDesignTopChiplet design).exec db = (.ok id, db')) :
    db.chip_hash.lookup design.name = none ∧
      ∃ table, db.chip_tbl.create kChipPage (newChip design.name .HIER 0) = some (id, table) ∧
        db' = { db with
          chip_tbl := table
          chip := id
          chip_hash := (design.name, id) :: db.chip_hash } := by
  rcases bind_ok ran with ⟨made, mid, ranCreate, ranTop⟩
  rcases dbChip_create_ok ranCreate with ⟨absent, table, top, isCreated, rfl⟩
  cases ranTop
  exact ⟨absent, table, isCreated, rfl⟩

lemma calculateSize_ok {value : Unit}
    (ran : (calculateSize id).exec db = (.ok value, db')) :
    ∃ chip cuboids, db.chip_tbl.objs id = some chip ∧
      chip.chipinsts.mapM db.getInstCuboid = some cuboids ∧
      db' = { db with
        chip_tbl := db.chip_tbl.write id (setSize (Cuboid.mergeAll cuboids) chip) } := by
  rcases bind_ok ran with ⟨chip, mid, ranGet, ranSize⟩
  rcases getChip_ok ranGet with ⟨there, rfl⟩
  rw [exec_bind_ok _ (exec_get mid)] at ranSize
  rcases bind_ok ranSize with ⟨cuboids, _, ranCuboids, ranPut⟩
  rcases deref_ok ranCuboids with ⟨isCuboids, rfl⟩
  rcases modifyChip_ok ranPut with ⟨chip', there', rfl⟩
  rw [there] at there'
  cases there'
  exact ⟨chip, cuboids, there, isCuboids, rfl⟩

end Chips

end OpenRoad.Odb
