import OpenRoad.Odb.ChipHierarchy

/-! Runs of calls on chips refine steps of the hierarchy. -/

namespace OpenRoad.Odb

open OpenRoad.Lib OpenRoad.Lib.Effect Store

def DbChipInst.ends (inst : DbChipInst) : Nat × Nat := (inst.parent_chip, inst.master_chip)

def ChipDatabase.hierarchy (db : ChipDatabase) : Hierarchy :=
  ⟨db.chip_tbl.map DbChip.chipinsts, db.chip_inst_tbl.map DbChipInst.ends⟩

abbrev KeepsHierarchy {α : Type} (m : ChipM α) : Prop := Keeps ChipDatabase.hierarchy m

variable {α : Type}

section Reading

variable {γ : Type} {view : ChipDatabase → γ}

lemma keeps_deref (object : Option α) : Keeps view (deref object) := by
  cases object with
  | none => exact keeps_throw _
  | some value => exact keeps_pure value

lemma keeps_lookup (object : ChipDatabase → Option α) :
    Keeps view (do deref (object (← get))) := keeps_bind keeps_get fun _ => keeps_deref _

lemma keeps_checkNot (bad : Prop) [Decidable bad] (id : Nat) (text : String) :
    Keeps view (checkNot bad id text) := keeps_check bad _

lemma keeps_extractChipInstsPath (parentId : Nat) (path : List Nat) :
    Keeps view (extractChipInstsPath parentId path) := by
  induction path generalizing parentId with
  | nil => exact keeps_pure _
  | cons instId path ih =>
    apply keeps_bind (keeps_lookup _)
    intro inst
    apply keeps_bind (keeps_lookup _)
    intro _
    apply keeps_bind (keeps_checkNot _ _ _)
    intro _
    exact keeps_bind (ih inst.master_chip) fun _ => keeps_pure _

lemma keeps_extractBottomPath (parentId : Nat) (path : List Nat) (bottom : Nat) :
    Keeps view (extractBottomPath parentId path bottom) :=
  keeps_ite _ (keeps_pure _) (keeps_extractChipInstsPath parentId path)

lemma keeps_checkRegionPaths (name : String) (topPath : List Nat) (top : Nat)
    (bottomPath : List Nat) (bottom : Nat) :
    Keeps view (checkRegionPaths name topPath top bottomPath bottom) := by
  apply keeps_bind (keeps_checkNot _ _ _)
  intro _
  apply keeps_bind (keeps_lookup _)
  intro _
  apply keeps_bind (keeps_checkNot _ _ _)
  intro _
  apply keeps_ite
  · exact keeps_pure _
  · apply keeps_bind (keeps_checkNot _ _ _)
    intro _
    apply keeps_bind (keeps_lookup _)
    intro _
    exact keeps_checkNot _ _ _

end Reading

variable {table : ChipDatabase → Store α} {put : Store α → ChipDatabase → ChipDatabase}

lemma keeps_allocate {γ : Type} {view : ChipDatabase → γ} (page : Nat) (object : α)
    (same : ∀ created db, view (put created db) = view db) :
    Keeps view (allocate table put page object) := by
  intro db
  rw [allocate, exec_bind_ok _ (exec_get db), exec_bind]
  cases (table db).create page object with
  | none => rfl
  | some made => exact same made.2 db

variable (id : Nat)

lemma keeps_release (same : ∀ destroyed db, (put destroyed db).hierarchy = db.hierarchy) :
    KeepsHierarchy (release table put id) := by
  intro db
  rw [release, exec_bind_ok _ (exec_get db), exec_bind]
  cases (table db).destroy id with
  | none => rfl
  | some destroyed => exact same destroyed db

lemma keeps_createChipRegionInst (object : DbChipRegionInst) : KeepsHierarchy (createChipRegionInst object) := by
  rw [createChipRegionInst]
  exact keeps_allocate kTablePage object fun _ _ => rfl

lemma keeps_destroyChipRegionInst : KeepsHierarchy (destroyChipRegionInst id) := by
  rw [destroyChipRegionInst]
  exact keeps_release id fun _ _ => rfl

lemma keeps_createChipBumpInst (object : DbChipBumpInst) : KeepsHierarchy (createChipBumpInst object) := by
  rw [createChipBumpInst]
  exact keeps_allocate kTablePage object fun _ _ => rfl

lemma keeps_destroyChipBumpInst : KeepsHierarchy (destroyChipBumpInst id) := by
  rw [destroyChipBumpInst]
  exact keeps_release id fun _ _ => rfl

lemma keeps_createChipConn (object : DbChipConn) : KeepsHierarchy (createChipConn object) := by
  rw [createChipConn]
  exact keeps_allocate kTablePage object fun _ _ => rfl

lemma keeps_destroyChipConn : KeepsHierarchy (destroyChipConn id) := by
  rw [destroyChipConn]
  exact keeps_release id fun _ _ => rfl

lemma keeps_createChipNet (object : DbChipNet) : KeepsHierarchy (createChipNet object) := by
  rw [createChipNet]
  exact keeps_allocate kTablePage object fun _ _ => rfl

lemma keeps_destroyChipNet : KeepsHierarchy (destroyChipNet id) := by
  rw [destroyChipNet]
  exact keeps_release id fun _ _ => rfl

section Exec

variable {id : Nat} {db : ChipDatabase} {chip : DbChip} {inst : DbChipInst}

lemma getChip_some (there : db.chip_tbl.objs id = some chip) :
    (getChip id).exec db = (.ok chip, db) := by
  rw [getChip, exec_bind_ok _ (exec_get db), there]
  rfl

lemma getChip_none (gone : db.chip_tbl.objs id = none) :
    (getChip id).exec db = (.error .dangling, db) := by
  rw [getChip, exec_bind_ok _ (exec_get db), gone]
  rfl

lemma getChipInst_some (there : db.chip_inst_tbl.objs id = some inst) :
    (getChipInst id).exec db = (.ok inst, db) := by
  rw [getChipInst, exec_bind_ok _ (exec_get db), there]
  rfl

lemma getChipInst_none (gone : db.chip_inst_tbl.objs id = none) :
    (getChipInst id).exec db = (.error .dangling, db) := by
  rw [getChipInst, exec_bind_ok _ (exec_get db), gone]
  rfl

lemma modifyChip_exec (there : db.chip_tbl.objs id = some chip) (update : DbChip → DbChip) :
    (modifyChip id update).exec db =
      (.ok (), { db with chip_tbl := db.chip_tbl.write id (update chip) }) := by
  rw [modifyChip, exec_bind_ok _ (getChip_some there)]
  rfl

lemma after_modifyChip {β : Type} {update : DbChip → DbChip} {next : Unit → ChipM β}
    {post : Except ChipFault β → ChipDatabase → Prop} (there : db.chip_tbl.objs id = some chip)
    (second : After (next ()) { db with chip_tbl := db.chip_tbl.write id (update chip) } post) :
    After (modifyChip id update >>= next) db post :=
  after_ok (modifyChip_exec there update) second

end Exec

lemma keeps_modifyChip {update : DbChip → DbChip}
    (same : ∀ chip, (update chip).chipinsts = chip.chipinsts) :
    KeepsHierarchy (modifyChip id update) := by
  intro db
  cases there : db.chip_tbl.objs id with
  | none => rw [modifyChip, exec_bind, getChip_none there]
  | some chip =>
    rw [modifyChip_exec there]
    simp only [ChipDatabase.hierarchy, map_write_same _ there (same chip)]

lemma keeps_modifyChipInst {update : DbChipInst → DbChipInst}
    (same : ∀ inst, (update inst).ends = inst.ends) :
    KeepsHierarchy (modifyChipInst id update) := by
  intro db
  cases there : db.chip_inst_tbl.objs id with
  | none => rw [modifyChipInst, exec_bind, getChipInst_none there]
  | some inst =>
    rw [modifyChipInst, exec_bind, getChipInst_some there]
    simp only [exec_modify, ChipDatabase.hierarchy, map_write_same _ there (same inst)]

lemma keeps_setChipConn (conn : DbChipConn) : KeepsHierarchy (setChipConn id conn) :=
  fun _ => rfl

lemma keeps_createBumpInsts (regionInst : Nat) (bumps : List Nat) :
    KeepsHierarchy (createBumpInsts regionInst bumps) := by
  induction bumps with
  | nil => exact keeps_pure _
  | cons bump bumps ih =>
    apply keeps_bind (keeps_createChipBumpInst _)
    intro _
    exact keeps_bind ih fun _ => keeps_pure _

lemma keeps_createRegionInsts (chipinst : Nat) (master : DbChip) (regions : List Nat) :
    KeepsHierarchy (createRegionInsts chipinst master regions) := by
  induction regions with
  | nil => exact keeps_pure _
  | cons region regions ih =>
    apply keeps_bind (keeps_createChipRegionInst _)
    intro _
    apply keeps_bind (keeps_deref _)
    intro _
    apply keeps_bind (keeps_createBumpInsts _ _)
    intro _
    refine keeps_bind (keeps_modify ?_) ?_
    · intro _
      rfl
    · intro _
      exact keeps_bind ih fun _ => keeps_pure _

lemma keeps_destroyRegionInsts (regionInsts : List Nat) :
    KeepsHierarchy (destroyRegionInsts regionInsts) := by
  induction regionInsts with
  | nil => exact keeps_pure _
  | cons regionInst regionInsts ih =>
    apply keeps_bind (keeps_lookup _)
    intro _
    apply keeps_bind (keeps_destroyChipRegionInst _)
    intro _
    apply keeps_bind (keeps_forM _ keeps_destroyChipBumpInst)
    intro _
    exact ih

lemma keeps_dbChipRegion_create (chipId : Nat) (name : String) (side : RegionSide)
    (layerTech : Option Nat) : KeepsHierarchy (dbChipRegion_create chipId name side layerTech) := by
  apply keeps_ite
  · exact keeps_pure _
  · apply keeps_bind (keeps_lookup _)
    intro _
    apply keeps_bind (keeps_checkNot _ _ _)
    intro _
    apply keeps_bind (keeps_checkNot _ _ _)
    intro _
    apply keeps_bind (keeps_deref _)
    intro _
    exact keeps_bind (keeps_modifyChip _ fun _ => rfl) fun _ => keeps_pure _

lemma keeps_dbChipBump_create (chipId regionId instChip inst : Nat) :
    KeepsHierarchy (dbChipBump_create chipId regionId instChip inst) := by
  apply keeps_ite
  · exact keeps_pure _
  · apply keeps_bind (keeps_lookup _)
    intro _
    apply keeps_ite
    · exact keeps_pure _
    · apply keeps_bind (keeps_checkNot _ _ _)
      intro _
      apply keeps_bind (keeps_deref _)
      intro _
      apply keeps_bind (keeps_deref _)
      intro _
      exact keeps_bind (keeps_modifyChip _ fun _ => rfl) fun _ => keeps_pure _

lemma keeps_dbChipInst_setOrient (instId : Nat) (orient : DbOrientType3D) :
    KeepsHierarchy (dbChipInst_setOrient instId orient) :=
  keeps_modifyChipInst instId fun _ => rfl

lemma keeps_dbChipInst_setLoc (instId : Nat) (loc : Point3D) :
    KeepsHierarchy (dbChipInst_setLoc instId loc) := by
  apply keeps_bind (keeps_lookup _)
  intro _
  apply keeps_bind (keeps_lookup _)
  intro _
  exact keeps_modifyChipInst instId fun _ => rfl

lemma keeps_dbChipConn_create (name : String) (parentId : Nat) (topPath : List Nat) (top : Nat)
    (bottomPath : List Nat) (bottom : Nat) :
    KeepsHierarchy (dbChipConn_create name parentId topPath top bottomPath bottom) := by
  apply keeps_ite
  · exact keeps_pure _
  · apply keeps_bind (keeps_checkRegionPaths _ _ _ _ _)
    intro _
    apply keeps_bind (keeps_createChipConn _)
    intro _
    apply keeps_bind (keeps_extractChipInstsPath _ _)
    intro _
    apply keeps_bind (keeps_setChipConn _ _)
    intro _
    apply keeps_bind (keeps_ite _ (keeps_pure _) (keeps_extractChipInstsPath _ _))
    intro _
    apply keeps_bind (keeps_setChipConn _ _)
    intro _
    exact keeps_bind (keeps_modifyChip _ fun _ => rfl) fun _ => keeps_pure _

lemma keeps_dbChipConn_destroy (connId : Nat) : KeepsHierarchy (dbChipConn_destroy connId) := by
  apply keeps_bind (keeps_lookup _)
  intro _
  exact keeps_bind (keeps_modifyChip _ fun _ => rfl) fun _ => keeps_destroyChipConn connId

lemma keeps_dbChipNet_create (chipId : Nat) (name : String) :
    KeepsHierarchy (dbChipNet_create chipId name) := by
  apply keeps_bind (keeps_createChipNet _)
  intro _
  exact keeps_bind (keeps_modifyChip _ fun _ => rfl) fun _ => keeps_pure _

lemma keeps_dbChipNet_addBumpInst (netId bumpInst : Nat) (path : List Nat) :
    KeepsHierarchy (dbChipNet_addBumpInst netId bumpInst path) := by
  apply keeps_bind (keeps_lookup _)
  intro _
  apply keeps_bind (keeps_checkNot _ _ _)
  intro _
  apply keeps_bind (keeps_checkNot _ _ _)
  intro _
  exact keeps_modify fun _ => rfl

lemma keeps_dbChipNet_destroy (netId : Nat) : KeepsHierarchy (dbChipNet_destroy netId) := by
  apply keeps_bind (keeps_lookup _)
  intro _
  exact keeps_bind (keeps_modifyChip _ fun _ => rfl) fun _ => keeps_destroyChipNet netId

lemma allocate_exec (page : Nat) (object : α) (two : 2 ≤ page) (db : ChipDatabase) :
    ∃ id created, (table db).create page object = some (id, created) ∧
      (allocate table put page object).exec db = (.ok id, put created db) := by
  rcases create_isSome object (table db) two with ⟨id, created, made⟩
  refine ⟨id, created, made, ?_⟩
  rw [allocate, exec_bind_ok _ (exec_get db), made]
  rfl

lemma objs_chips {db : ChipDatabase} {id : Nat} {chip : DbChip}
    (there : db.chip_tbl.objs id = some chip) :
    db.hierarchy.chips.objs id = some chip.chipinsts :=
  congrArg (Option.map DbChip.chipinsts) there

lemma objs_insts {db : ChipDatabase} {id : Nat} {inst : DbChipInst}
    (there : db.chip_inst_tbl.objs id = some inst) :
    db.hierarchy.insts.objs id = some inst.ends :=
  congrArg (Option.map DbChipInst.ends) there

lemma createChip_exec (chip : DbChip) (fresh : chip.chipinsts = []) (db : ChipDatabase) :
    ∃ id created, (createChip chip).exec db = (.ok id, { db with chip_tbl := created }) ∧
      Hierarchy.Step db.hierarchy ⟨created.map DbChip.chipinsts, db.hierarchy.insts⟩ := by
  rcases allocate_exec kChipPage chip (le_refl 2) db with ⟨id, created, made, exec⟩
  refine ⟨id, created, exec, ?_⟩
  have seen := create_map DbChip.chipinsts made
  rw [fresh] at seen
  exact .addChip seen

lemma dbChip_create_steps (tech : Nat) (name : String) (type : ChipType) (db : ChipDatabase) :
    After (dbChip_create tech name type) db fun _ db' =>
      Relation.ReflTransGen Hierarchy.Step db.hierarchy db'.hierarchy := by
  apply after_ok (exec_get db)
  apply after_bind
  apply after_check
  · intro _
    exact .refl
  · intro _
    rcases createChip_exec (newChip name type tech) rfl db with ⟨id, created, exec, step⟩
    apply after_ok exec
    have kept : KeepsHierarchy (do
        modify fun db => { db with
          chip := if db.chip = 0 then id else db.chip
          chip_hash := (name, id) :: db.chip_hash }
        checkNot (tech = 0 ∧ type = .DIE) 422 "Cannot create DIE chip without technology"
        pure id : ChipM Nat) := by
      refine keeps_bind (keeps_modify fun _ => rfl) fun _ => ?_
      exact keeps_bind (keeps_checkNot _ _ _) fun _ => keeps_pure _
    apply after_mono (after_keeps kept _)
    intro _ db' same
    rw [same]
    exact .single step

lemma createChipInst_exec (inst : DbChipInst) (db : ChipDatabase) :
    ∃ id created, db.hierarchy.insts.create kTablePage inst.ends =
        some (id, created.map DbChipInst.ends) ∧
      (createChipInst inst).exec db = (.ok id, { db with chip_inst_tbl := created }) := by
  rcases allocate_exec kTablePage inst (by decide) db with ⟨id, created, made, exec⟩
  exact ⟨id, created, create_map DbChipInst.ends made, exec⟩

lemma dbChipInst_create_spec (parentId masterId : Nat) (name : String) (db : ChipDatabase) :
    After (dbChipInst_create parentId masterId name) db fun _ db' =>
      db'.hierarchy = db.hierarchy ∨
        ∃ id list insts, parentId ≠ masterId ∧ db.hierarchy.chips.objs parentId = some list ∧
          db.hierarchy.insts.create kTablePage (parentId, masterId) = some (id, insts) ∧
          db'.hierarchy = db.hierarchy.addInst parentId id list insts := by
  rw [dbChipInst_create]
  split
  · exact .inl rfl
  · cases there : db.chip_tbl.objs parentId with
    | none => exact after_error (getChip_none there) (.inl rfl)
    | some parent =>
      apply after_ok (getChip_some there)
      cases thereMaster : db.chip_tbl.objs masterId with
      | none => exact after_error (getChip_none thereMaster) (.inl rfl)
      | some master =>
        apply after_ok (getChip_some thereMaster)
        apply after_bind
        refine after_check (fun _ => .inl rfl) fun _ => ?_
        apply after_bind
        refine after_check (fun _ => .inl rfl) fun different => ?_
        apply after_bind
        refine after_check (fun _ => .inl rfl) fun _ => ?_
        rcases createChipInst_exec (newChipInst name masterId parentId) db with
          ⟨id, created, made, exec⟩
        apply after_ok exec
        refine after_modifyChip there ?_
        have kept : KeepsHierarchy (do
            let regionInsts ← createRegionInsts id master (tableIds master.chip_region_tbl)
            modifyChipInst id fun chipinst => { chipinst with
              chip_region_insts := regionInsts.map Prod.snd
              region_insts_map := regionInsts }
            pure id : ChipM Nat) := by
          apply keeps_bind (keeps_createRegionInsts _ _ _)
          intro _
          exact keeps_bind (keeps_modifyChipInst _ fun _ => rfl) fun _ => keeps_pure _
        apply after_mono (after_keeps kept _)
        intro _ db' same
        refine .inr ⟨id, parent.chipinsts, created.map DbChipInst.ends, different,
          objs_chips there, made, ?_⟩
        rw [same]
        simp only [ChipDatabase.hierarchy, Hierarchy.addInst, map_write]

lemma destroyChipInst_exec (db : ChipDatabase) (live : (db.chip_inst_tbl.objs id).isSome) :
    ∃ destroyed, db.hierarchy.insts.destroy id = some (destroyed.map DbChipInst.ends) ∧
      (destroyChipInst id).exec db = (.ok (), { db with chip_inst_tbl := destroyed }) := by
  have made : db.chip_inst_tbl.destroy id = some _ := if_pos live
  refine ⟨_, destroy_map DbChipInst.ends made, ?_⟩
  rw [destroyChipInst, release, exec_bind_ok _ (exec_get db), made]
  rfl

/-- The result of `dbChipInst::destroy` once its checks are passed. -/
def Removed (h h' : Hierarchy) (id : Nat) : Prop :=
  ∃ parent master list insts, h.insts.objs id = some (parent, master) ∧
    h.chips.objs parent = some list ∧ h.insts.destroy id = some insts ∧
    h' = h.removeInst parent id list insts

lemma dbChipInst_destroy_spec (instId : Nat) (db : ChipDatabase) :
    After (dbChipInst_destroy instId) db fun result db' =>
      Removed db.hierarchy db'.hierarchy instId ∨
        db'.hierarchy = db.hierarchy ∧ (result = .ok () → instId = 0) := by
  rw [dbChipInst_destroy]
  split
  · rename_i zero
    exact .inr ⟨rfl, fun _ => zero⟩
  · cases live : db.chip_inst_tbl.objs instId with
    | none => exact after_error (getChipInst_none live) (.inr ⟨rfl, fun ok => nomatch ok⟩)
    | some inst =>
      apply after_ok (getChipInst_some live)
      apply after_bind
      apply after_mono (after_keeps (keeps_destroyRegionInsts inst.chip_region_insts) db)
      intro result mid same
      cases result with
      | error fault => exact .inr ⟨same, fun ok => nomatch ok⟩
      | ok _ =>
        have liveMid : (mid.chip_inst_tbl.objs instId).isSome := by
          have seen : mid.hierarchy.insts.objs instId = some inst.ends :=
            same ▸ objs_insts live
          exact Option.isSome_map.symm.trans (congrArg Option.isSome seen)
        cases there : mid.chip_tbl.objs inst.parent_chip with
        | none =>
          have stopped : (modifyChip inst.parent_chip fun parent => { parent with
              chipinsts := parent.chipinsts.erase instId
              chipinsts_map := parent.chipinsts_map.filter (·.1 ≠ inst.name) }).exec mid =
              (.error .dangling, mid) := by
            rw [modifyChip, exec_bind, getChip_none there]
          exact after_error stopped (.inr ⟨same, fun ok => nomatch ok⟩)
        | some parent =>
          refine after_modifyChip there ?_
          rcases destroyChipInst_exec instId { mid with
            chip_tbl := mid.chip_tbl.write inst.parent_chip { parent with
              chipinsts := parent.chipinsts.erase instId
              chipinsts_map := parent.chipinsts_map.filter (·.1 ≠ inst.name) } } liveMid
            with ⟨destroyed, gone, exec⟩
          rw [After, exec]
          refine .inl ⟨inst.parent_chip, inst.master_chip, parent.chipinsts,
            destroyed.map DbChipInst.ends, objs_insts live, ?_, ?_, ?_⟩
          · rw [← same]
            exact objs_chips there
          · rw [← same]
            exact gone
          · rw [← same]
            simp only [ChipDatabase.hierarchy, Hierarchy.removeInst, map_write]

lemma removed_step {h h' : Hierarchy} {id : Nat} (removed : Removed h h' id) :
    Hierarchy.Step h h' := by
  rcases removed with ⟨_, _, _, _, live, there, destroyed, rfl⟩
  exact .removeInst live there destroyed

lemma destroyChip_steps (db : ChipDatabase) (empty : db.hierarchy.chips.objs id = some []) :
    After (destroyChip id) db fun _ db' => Hierarchy.Step db.hierarchy db'.hierarchy := by
  have live : (db.chip_tbl.objs id).isSome :=
    Option.isSome_map.symm.trans (congrArg Option.isSome empty)
  have made : db.chip_tbl.destroy id = some _ := if_pos live
  apply after_ok (exec_get db)
  rw [made]
  exact .removeChip empty (destroy_map DbChip.chipinsts made)

lemma destroyInsts_steps (chipId : Nat) (ids : List Nat) (db : ChipDatabase)
    (linked : db.hierarchy.Linked) (there : db.hierarchy.chips.objs chipId = some ids) :
    After (forM ids dbChipInst_destroy) db fun result db' =>
      Relation.ReflTransGen Hierarchy.Step db.hierarchy db'.hierarchy ∧
        (result = .ok () → db'.hierarchy.chips.objs chipId = some []) := by
  induction ids generalizing db with
  | nil => exact ⟨.refl, fun _ => there⟩
  | cons id ids ih =>
    rw [List.forM_cons]
    apply after_bind
    apply after_mono (dbChipInst_destroy_spec id db)
    intro result mid spec
    rcases linked.listed chipId (id :: ids) id there List.mem_cons_self with ⟨master, live⟩
    rcases spec with removed | ⟨same, zero⟩
    · have step := removed_step removed
      have linkedMid := Hierarchy.step_linked linked step
      have thereMid : mid.hierarchy.chips.objs chipId = some ids := by
        rcases removed with ⟨parent, master', list, insts, live', there', _, after⟩
        rw [live] at live'
        rcases Option.some.inj live'
        rw [there] at there'
        rw [after, Hierarchy.removeInst, ← Option.some.inj there', List.erase_cons_head]
        exact Function.update_self _ _ _
      cases result with
      | error fault => exact ⟨.single step, by rintro ⟨⟩⟩
      | ok _ =>
        apply after_mono (ih mid linkedMid thereMid)
        rintro result db' ⟨steps, emptied⟩
        exact ⟨.head step steps, emptied⟩
    · cases result with
      | error fault => exact ⟨same ▸ .refl, by rintro ⟨⟩⟩
      | ok _ =>
        have range := linked.insts_wf.live_range id (by rw [live]; rfl)
        exact absurd (zero rfl) range.1

lemma dbChip_destroy_steps (chipId : Nat) (db : ChipDatabase) (linked : db.hierarchy.Linked) :
    After (dbChip_destroy chipId) db fun _ db' =>
      Relation.ReflTransGen Hierarchy.Step db.hierarchy db'.hierarchy := by
  cases there : db.chip_tbl.objs chipId with
  | none => exact after_error (getChip_none there) .refl
  | some chip =>
    apply after_ok (getChip_some there)
    apply after_bind
    apply after_mono (after_keeps (keeps_forM chip.conns keeps_dbChipConn_destroy) db)
    intro result mid same
    cases result with
    | error fault => exact same ▸ .refl
    | ok _ =>
      apply after_bind
      have thereMid : mid.hierarchy.chips.objs chipId = some chip.chipinsts :=
        same ▸ objs_chips there
      apply after_mono (destroyInsts_steps chipId chip.chipinsts mid (same ▸ linked) thereMid)
      rintro result late ⟨steps, emptied⟩
      rw [same] at steps
      cases result with
      | error fault => exact steps
      | ok _ =>
        apply after_bind
        apply after_mono (destroyChip_steps chipId late (emptied rfl))
        intro result last step
        cases result with
        | error fault => exact steps.tail step
        | ok _ => exact steps.tail step

inductive ChipCall where
  | chipCreate (tech : Nat) (name : String) (type : ChipType)
  | chipDestroy (chip : Nat)
  | chipRegionCreate (chip : Nat) (name : String) (side : RegionSide) (layerTech : Option Nat)
  | chipBumpCreate (chip region instChip inst : Nat)
  | chipInstCreate (parent master : Nat) (name : String)
  | chipInstDestroy (inst : Nat)
  | chipInstSetOrient (inst : Nat) (orient : DbOrientType3D)
  | chipInstSetLoc (inst : Nat) (loc : Point3D)
  | chipConnCreate (name : String) (parent : Nat) (topPath : List Nat) (top : Nat)
      (bottomPath : List Nat) (bottom : Nat)
  | chipConnDestroy (conn : Nat)
  | chipNetCreate (chip : Nat) (name : String)
  | chipNetAddBumpInst (net bumpInst : Nat) (path : List Nat)
  | chipNetDestroy (net : Nat)

namespace ChipCall

def run : ChipCall → ChipM Unit
  | chipCreate tech name type => do discard (dbChip_create tech name type)
  | chipDestroy chip => dbChip_destroy chip
  | chipRegionCreate chip name side layerTech => do
    discard (dbChipRegion_create chip name side layerTech)
  | chipBumpCreate chip region instChip inst => do
    discard (dbChipBump_create chip region instChip inst)
  | chipInstCreate parent master name => do discard (dbChipInst_create parent master name)
  | chipInstDestroy inst => dbChipInst_destroy inst
  | chipInstSetOrient inst orient => dbChipInst_setOrient inst orient
  | chipInstSetLoc inst loc => dbChipInst_setLoc inst loc
  | chipConnCreate name parent topPath top bottomPath bottom => do
    discard (dbChipConn_create name parent topPath top bottomPath bottom)
  | chipConnDestroy conn => dbChipConn_destroy conn
  | chipNetCreate chip name => do discard (dbChipNet_create chip name)
  | chipNetAddBumpInst net bumpInst path => dbChipNet_addBumpInst net bumpInst path
  | chipNetDestroy net => dbChipNet_destroy net

/-- There is no database after a call that followed a pointer to an object that is gone. -/
def step (db : ChipDatabase) (call : ChipCall) : Option ChipDatabase :=
  match call.run.exec db with
  | (.error .dangling, _) => none
  | (_, db') => some db'

def runAll : ChipDatabase → List ChipCall → Option ChipDatabase
  | db, [] => some db
  | db, call :: calls => (call.step db).bind fun db' => runAll db' calls

def Acyclic (db : ChipDatabase) : ChipCall → Prop
  | chipInstCreate parent master _ => ¬ Relation.TransGen db.hierarchy.Contains master parent
  | _ => True

def AllAcyclic : ChipDatabase → List ChipCall → Prop
  | _, [] => True
  | db, call :: calls => call.Acyclic db ∧ (call.step db).elim True (AllAcyclic · calls)

end ChipCall

end OpenRoad.Odb
