import OpenRoad.Odb.ModuleLists

/-! What the calls that create, move, rename and destroy instances do to a consistent block. -/

namespace OpenRoad.Odb

open OpenRoad.Lib OpenRoad.Lib.Effect Function TableField Store

namespace ModuleBlock

variable {block block' : ModuleBlock} {id module : Nat} {inst : DbInst} {md : DbModule}
  {name : String}

def nameOf (block : ModuleBlock) (id : Nat) : Option String :=
  (block.inst_tbl.objs id).map DbInst.name

lemma nameOf_same (same : SameInsts block' block) (id : Nat) : block'.nameOf id = block.nameOf id := by
  have cores := congrFun (congrArg objs same.core) id
  simp only [map] at cores
  have firsts := congrArg (Option.map Prod.fst) cores
  rw [Option.map_map, Option.map_map] at firsts
  exact firsts

lemma named_iff (consistent : block.Consistent) (name : String) (id : Nat) :
    block.inst_hash name = some id ↔ block.nameOf id = some name := by
  rw [consistent.named, nameOf, Option.map_eq_some_iff]

lemma consistent_samePlaces (consistent : block.Consistent)
    (insts : Store.WellFormed 128 block'.inst_tbl) (modules : block'.module_tbl = block.module_tbl)
    (named : ∀ name id, block'.inst_hash name = some id ↔ block'.nameOf id = some name)
    (places : block'.threads = block.threads) : block'.Consistent where
  insts := insts
  modules := modules ▸ consistent.modules
  named := fun name id => (named name id).trans Option.map_eq_some_iff
  threaded := places ▸ consistent.threaded
  unlinked := places ▸ consistent.unlinked
  owners := by
    rw [places, modules]
    exact consistent.owners

lemma name_unique (consistent : block.Consistent) {other : Nat}
    (one : block.nameOf id = some name) (two : block.nameOf other = some name) : id = other := by
  have first := (named_iff consistent name id).mpr one
  rw [(named_iff consistent name other).mpr two] at first
  exact (Option.some.inj first).symm

lemma name_free (consistent : block.Consistent) (free : block.inst_hash name = none) (id : Nat) :
    block.nameOf id ≠ some name := by
  intro there
  have filed := (named_iff consistent name id).mpr there
  rw [free] at filed
  cases filed

lemma nameOf_live (found : block.inst_tbl.objs id = some inst) :
    block.nameOf id = some inst.name := by
  rw [nameOf, found]
  rfl

/-- Names, places and indexes are the same. -/
structure SameView (block' block : ModuleBlock) : Prop where
  consistent : block'.Consistent
  names : ∀ other, block'.nameOf other = block.nameOf other
  owner : ∀ other, block'.threads.owner other = block.threads.owner other
  hashes : ∀ other, block'.hashOf other = block.hashOf other

lemma sameView_refl (consistent : block.Consistent) : SameView block block :=
  ⟨consistent, fun _ => rfl, fun _ => rfl, fun _ => rfl⟩

/-- The call moves the instance out of another module. -/
def Moves (block : ModuleBlock) (module id : Nat) : Prop :=
  ∃ md inst, block.module_tbl.objs module = some md ∧ block.inst_tbl.objs id = some inst ∧
    inst.module ≠ 0 ∧ inst.module ≠ module ∧ inst.dont_touch = false ∧
    (inst.physical_only = true → block.top_module = module)

lemma addInst_accepted (isModule : block.module_tbl.objs module = some md)
    (found : block.inst_tbl.objs id = some inst)
    (accepted : inst.physical_only = true → block.top_module = module)
    (elsewhere : inst.module ≠ module) (touchable : inst.dont_touch = false) :
    (dbModule_addInst module id).exec block =
      ((onlyIf (inst.module ≠ 0) (dbModule_removeInst inst.module id)) >>= fun _ =>
        attachInst module id inst.name).exec block := by
  have passes : ¬ (block.top_module ≠ module ∧ inst.physical_only = true) :=
    fun both => both.1 (accepted both.2)
  have untouched : ¬ inst.dont_touch = true := by
    rw [touchable]
    exact Bool.false_ne_true
  rw [dbModule_addInst, exec_bind_ok _ (get_module isModule), exec_bind_ok _ (get_inst found),
    exec_bind_ok _ (exec_get block), exec_bind_ok _ (errorIf_pass passes _ _), if_neg elsewhere,
    exec_bind_ok _ (errorIf_pass untouched _ _)]
  rfl

lemma addInst_attach (consistent : block.Consistent)
    (isModule : block.module_tbl.objs module = some md)
    (found : block.inst_tbl.objs id = some inst)
    (accepted : inst.physical_only = true → block.top_module = module)
    (free : inst.module = 0) (touchable : inst.dont_touch = false) :
    ∃ block', (dbModule_addInst module id).exec block = (.ok (), block') ∧
      Attached block' block module id inst.name := by
  have isFree : block.threads.owner id = 0 := (threads_of_inst found).2.2.trans free
  have live : (block.inst_tbl.objs id).isSome := by
    rw [found]
    rfl
  have liveModule : (block.module_tbl.objs module).isSome := by
    rw [isModule]
    rfl
  have elsewhere : inst.module ≠ module := by
    rintro same
    rw [← same, free, consistent.modules] at isModule
    cases isModule
  rw [addInst_accepted isModule found accepted elsewhere touchable, onlyIf,
    if_neg (not_not.mpr free)]
  exact attachInst_ok consistent liveModule live isFree inst.name

lemma addInst_move (consistent : block.Consistent)
    (isModule : block.module_tbl.objs module = some md)
    (found : block.inst_tbl.objs id = some inst)
    (accepted : inst.physical_only = true → block.top_module = module)
    (owned : inst.module ≠ 0) (elsewhere : inst.module ≠ module)
    (touchable : inst.dont_touch = false) :
    ∃ detached block', (dbModule_addInst module id).exec block = (.ok (), block') ∧
      Detached detached block id ∧ Attached block' detached module id inst.name := by
  rcases removeInst_ok consistent found owned touchable with ⟨detached, ran, gone⟩
  have live : (detached.inst_tbl.objs id).isSome := by
    rw [gone.isSome, found]
    rfl
  have liveModule : (detached.module_tbl.objs module).isSome := by
    rw [gone.live, isModule]
    rfl
  have isFree : detached.threads.owner id = 0 := by
    rw [gone.owner id, if_pos rfl]
  rcases attachInst_ok gone.consistent liveModule live isFree inst.name with
    ⟨block', ran', attached⟩
  refine ⟨detached, block', ?_, gone, attached⟩
  rw [addInst_accepted isModule found accepted elsewhere touchable, onlyIf, if_pos owned,
    exec_bind_ok _ ran]
  exact ran'

lemma addInst_cases (consistent : block.Consistent) (module id : Nat) :
    ((dbModule_addInst module id).exec block).2 = block ∨
    (∃ md inst, block.module_tbl.objs module = some md ∧ block.inst_tbl.objs id = some inst ∧
      inst.module = 0 ∧
      Attached ((dbModule_addInst module id).exec block).2 block module id inst.name) ∨
    Moves block module id := by
  cases isModule : block.module_tbl.objs module with
  | none =>
    apply Or.inl
    rw [dbModule_addInst, exec_bind, @getPtr_dead _ _ moduleTbl _ _ isModule]
  | some md =>
    cases found : block.inst_tbl.objs id with
    | none =>
      apply Or.inl
      rw [dbModule_addInst, exec_bind_ok _ (get_module isModule), exec_bind,
        @getPtr_dead _ _ instTbl _ _ found]
    | some inst =>
      by_cases refused : block.top_module ≠ module ∧ inst.physical_only = true
      · apply Or.inl
        rw [dbModule_addInst, exec_bind_ok _ (get_module isModule),
          exec_bind_ok _ (get_inst found), exec_bind_ok _ (exec_get block), exec_bind,
          errorIf_raise refused]
      have accepted : inst.physical_only = true → block.top_module = module := by
        intro physical
        by_contra notTop
        exact refused ⟨notTop, physical⟩
      by_cases same : inst.module = module
      · apply Or.inl
        rw [dbModule_addInst, exec_bind_ok _ (get_module isModule),
          exec_bind_ok _ (get_inst found), exec_bind_ok _ (exec_get block),
          exec_bind_ok _ (errorIf_pass refused _ _), if_pos same]
        rfl
      by_cases untouchable : inst.dont_touch = true
      · apply Or.inl
        rw [dbModule_addInst, exec_bind_ok _ (get_module isModule),
          exec_bind_ok _ (get_inst found), exec_bind_ok _ (exec_get block),
          exec_bind_ok _ (errorIf_pass refused _ _), if_neg same, exec_bind,
          errorIf_raise untouchable]
      have touchable := Bool.not_eq_true _ |>.mp untouchable
      by_cases free : inst.module = 0
      · rcases addInst_attach consistent isModule found accepted free touchable with
          ⟨block', ran, attached⟩
        apply Or.inr (Or.inl _)
        rw [ran]
        exact ⟨md, inst, rfl, rfl, free, attached⟩
      · exact .inr (.inr ⟨md, inst, isModule, found, free, same, touchable, accepted⟩)

structure Created (block' block : ModuleBlock) (id : Nat) (name : String) : Prop where
  consistent : block'.Consistent
  fresh : block.inst_tbl.objs id = none
  names : ∀ other, block'.nameOf other = if other = id then some name else block.nameOf other
  owner : ∀ other, block'.threads.owner other = block.threads.owner other
  hashes : ∀ other, block'.hashOf other = block.hashOf other

def newInst (name : String) (physical_only : Bool) : DbInst := ⟨name, physical_only, false, 0, 0, 0⟩

/-- The first part of `dbInst::create`. -/
def createInst (name : String) (physical_only : Bool) : ModuleM Nat := do
  let id ← instTbl.create (newInst name physical_only)
  modify fun block => { block with inst_hash := update block.inst_hash name (some id) }
  pure id

lemma createInst_bind (name : String) (physical_only : Bool) (next : Nat → ModuleM Nat) :
    (instTbl.create (newInst name physical_only) >>= fun id =>
      (modify fun block => { block with
        inst_hash := update block.inst_hash name (some id) }) >>= fun _ => next id) =
      createInst name physical_only >>= next := by
  simp only [createInst, bind_assoc, pure_bind]

lemma field_create {get : DbInst → Nat} {table : Store DbInst} {value : DbInst}
    (made : block.inst_tbl.create 128 value = some (id, table)) (wf : Store.WellFormed 128 block.inst_tbl)
    (zero : get value = 0) : table.field get = block.inst_tbl.field get := by
  have fresh := (create_fresh wf made).2.2
  funext other
  rw [field, field, create_objs made]
  by_cases same : other = id
  · subst same
    rw [update_self, fresh]
    exact zero
  · rw [update_of_ne same]

lemma createInst_ok (consistent : block.Consistent) (free : block.inst_hash name = none)
    (physical_only : Bool) :
    ∃ id block', (createInst name physical_only).exec block = (.ok id, block') ∧
      Created block' block id name ∧
      block'.inst_tbl.objs id = some (newInst name physical_only) ∧
      block'.module_tbl = block.module_tbl ∧ block'.top_module = block.top_module := by
  rcases create_isSome (newInst name physical_only) block.inst_tbl
    (by decide : 2 ≤ 128) with ⟨id, table, made⟩
  have fresh := create_fresh consistent.insts made
  have objs := create_objs made
  have places : (block.withInsts table).threads = block.threads := by
    simp only [threads, withInsts, Threads.mk.injEq]
    exact ⟨field_create made consistent.insts rfl, field_create made consistent.insts rfl,
      field_create made consistent.insts rfl, trivial⟩
  have names : ∀ other, (block.withInsts table).nameOf other =
      if other = id then some name else block.nameOf other := by
    intro other
    rw [nameOf, withInsts]
    dsimp only
    rw [objs]
    by_cases same : other = id
    · rw [if_pos same, same, update_self]
      rfl
    · rw [if_neg same, update_of_ne same]
      rfl
  refine ⟨id, { block.withInsts table with
    inst_hash := update block.inst_hash name (some id) }, ?_, ⟨?_, fresh.2.2, names,
      fun other => congrFun (congrArg Threads.owner places) other, fun _ => rfl⟩, ?_, rfl, rfl⟩
  · rw [createInst, exec_bind_ok _ (@create_some _ _ instTbl _ _ _ _ made)]
    rfl
  · refine consistent_samePlaces consistent (create_wellFormed consistent.insts made) rfl ?_
      places
    intro other key
    change update block.inst_hash name (some id) other = some key ↔
      (block.withInsts table).nameOf key = some other
    rw [names]
    by_cases same : other = name
    · subst same
      rw [update_self]
      by_cases isKey : key = id
      · rw [if_pos isKey, isKey]
        exact iff_of_true rfl rfl
      · rw [if_neg isKey]
        exact iff_of_false (fun value => isKey (Option.some.inj value).symm)
          (name_free consistent free key)
    · rw [update_of_ne same, named_iff consistent]
      by_cases isKey : key = id
      · rw [if_pos isKey, isKey, nameOf, fresh.2.2]
        exact iff_of_false (fun value => by cases value)
          (fun value => same (Option.some.inj value).symm)
      · rw [if_neg isKey]
  · change table.objs id = _
    rw [objs, update_self]

lemma create_cases (consistent : block.Consistent) (name : String) (physical_only : Bool)
    (parent : Nat) : ((dbInst_create name physical_only parent).exec block).2 = block ∨
    block.inst_hash name = none ∧ ∃ id made, Created made block id name ∧
      made.threads.owner id = 0 ∧
      (((dbInst_create name physical_only parent).exec block).2 = made ∨
        ∃ module, (made.module_tbl.objs module).isSome ∧
          Attached ((dbInst_create name physical_only parent).exec block).2 made module id name) := by
  by_cases taken : (block.inst_hash name).isSome = true
  · apply Or.inl
    rw [dbInst_create, exec_bind_ok _ (exec_get block), if_pos taken]
    rfl
  have free := Option.not_isSome_iff_eq_none.mp taken
  rcases createInst_ok consistent free physical_only with
    ⟨id, made, ran, created, isNew, modules, top⟩
  have isFree : made.threads.owner id = 0 := by
    rw [created.owner]
    exact field_of_dead _ created.fresh
  have asks : (dbInst_create name physical_only parent).exec block =
      (onlyIf (¬ physical_only ∨ parent = 0 ∨ block.top_module = parent)
        (dbModule_addInst (if parent = 0 then block.top_module else parent) id) >>= fun _ =>
          pure id).exec made := by
    rw [dbInst_create, exec_bind_ok _ (exec_get block), if_neg taken]
    have split := congrArg (fun m => m.exec block) (createInst_bind name physical_only fun id =>
      onlyIf (¬ physical_only ∨ parent = 0 ∨ block.top_module = parent)
        (dbModule_addInst (if parent = 0 then block.top_module else parent) id) >>= fun _ => pure id)
    exact split.trans (exec_bind_ok _ ran)
  refine .inr ⟨free, id, made, created, isFree, ?_⟩
  rw [asks]
  by_cases placed : ¬ physical_only ∨ parent = 0 ∨ block.top_module = parent
  · rw [onlyIf, if_pos placed, exec_bind]
    rcases ran' : (dbModule_addInst (if parent = 0 then block.top_module else parent) id).exec made
      with ⟨fault | result, block'⟩
    all_goals
      have outcome := addInst_cases created.consistent
        (if parent = 0 then block.top_module else parent) id
      rw [ran'] at outcome
      rcases outcome with same | ⟨md, inst, isModule, found, _, attached⟩ | moves
      · exact .inl same
      · rw [isNew] at found
        have isName : inst.name = name := by
          rw [← Option.some.inj found]
          rfl
        have live : (made.module_tbl.objs (if parent = 0 then block.top_module else parent)).isSome := by
          rw [isModule]
          rfl
        exact .inr ⟨_, live, isName ▸ attached⟩
      · rcases moves with ⟨md, inst, _, found, owned, _⟩
        rw [isNew] at found
        exact absurd (by rw [← Option.some.inj found]; rfl) owned
  · rw [onlyIf, if_neg placed]
    exact .inl rfl

structure Renamed (block' block : ModuleBlock) (id : Nat) (name : String) : Prop where
  consistent : block'.Consistent
  names : ∀ other, block'.nameOf other = if other = id then some name else block.nameOf other
  owner : ∀ other, block'.threads.owner other = block.threads.owner other
  hashes : ∀ other, block'.hashOf other = block.hashOf other

lemma rename_ok (consistent : block.Consistent) (found : block.inst_tbl.objs id = some inst)
    (free : block.inst_hash name = none) :
    ∃ block', (dbInst_rename id name).exec block = (.ok true, block') ∧
      Renamed block' block id name := by
  have live : (block.inst_tbl.objs id).isSome := by
    rw [found]
    rfl
  have taken : ¬ (block.inst_hash name).isSome = true := by
    rw [free]
    exact Bool.false_ne_true
  let table := block.inst_tbl.modify id fun inst => { inst with name := name }
  let hash := update (update block.inst_hash inst.name none) name (some id)
  let block' : ModuleBlock := { block with inst_tbl := table, inst_hash := hash }
  have places : block'.threads = block.threads := by
    simp only [threads, block', table, Threads.mk.injEq]
    exact ⟨field_modify_same fun _ => rfl, field_modify_same fun _ => rfl,
      field_modify_same fun _ => rfl, trivial⟩
  have names : ∀ other, block'.nameOf other =
      if other = id then some name else block.nameOf other := by
    intro other
    change (table.objs other).map DbInst.name = _
    rw [modify_objs]
    by_cases same : other = id
    · rw [if_pos same, if_pos same, same, found]
      rfl
    · rw [if_neg same, if_neg same]
      rfl
  have shapes : block'.inst_tbl.map (fun _ => ()) = block.inst_tbl.map (fun _ => ()) :=
    map_modify_same fun _ => rfl
  refine ⟨block', ?_, ⟨?_, names, fun other => by rw [places], fun _ => rfl⟩⟩
  · rw [dbInst_rename, exec_bind_ok _ (get_inst found), exec_bind_ok _ (exec_get block),
      if_neg taken, exec_bind_ok _ (exec_modify _ block)]
    have stays : ((block.withHash (update block.inst_hash inst.name none)).inst_tbl.objs
      id).isSome := live
    exact exec_bind_ok _ (edit_inst stays _)
  · refine consistent_samePlaces consistent (wellFormed_map shapes consistent.insts) rfl ?_
      places
    intro other key
    rw [names]
    change update (update block.inst_hash inst.name none) name (some id) other = some key ↔ _
    by_cases isNew : other = name
    · subst isNew
      rw [update_self]
      by_cases isKey : key = id
      · rw [if_pos isKey, isKey]
        exact iff_of_true rfl rfl
      · rw [if_neg isKey]
        exact iff_of_false (fun value => isKey (Option.some.inj value).symm)
          (name_free consistent free key)
    · rw [update_of_ne isNew]
      by_cases isOld : other = inst.name
      · subst isOld
        rw [update_self]
        by_cases isKey : key = id
        · rw [if_pos isKey]
          exact iff_of_false (fun value => by cases value)
            (fun value => isNew (Option.some.inj value).symm)
        · rw [if_neg isKey]
          exact iff_of_false (fun value => by cases value)
            (fun value => isKey (name_unique consistent value (nameOf_live found)))
      · rw [update_of_ne isOld, named_iff consistent]
        by_cases isKey : key = id
        · rw [if_pos isKey, isKey, nameOf_live found]
          exact iff_of_false (fun value => isOld (Option.some.inj value).symm)
            (fun value => isNew (Option.some.inj value).symm)
        · rw [if_neg isKey]

lemma rename_cases (consistent : block.Consistent) (id : Nat) (name : String) :
    ((dbInst_rename id name).exec block).2 = block ∨
    (block.inst_tbl.objs id).isSome ∧ block.inst_hash name = none ∧
      Renamed ((dbInst_rename id name).exec block).2 block id name := by
  cases found : block.inst_tbl.objs id with
  | none =>
    apply Or.inl
    rw [dbInst_rename, exec_bind, @getPtr_dead _ _ instTbl _ _ found]
  | some inst =>
    by_cases taken : (block.inst_hash name).isSome = true
    · apply Or.inl
      rw [dbInst_rename, exec_bind_ok _ (get_inst found), exec_bind_ok _ (exec_get block),
        if_pos taken]
      rfl
    · have free := Option.not_isSome_iff_eq_none.mp taken
      rcases rename_ok consistent found free with ⟨block', ran, renamed⟩
      rw [ran]
      exact .inr ⟨rfl, free, renamed⟩

/-- The instance is gone, and so is the entry of its name in the index of its module. -/
structure Destroyed (block' block : ModuleBlock) (id : Nat) (inst : DbInst) : Prop where
  consistent : block'.Consistent
  names : ∀ other, block'.nameOf other = if other = id then none else block.nameOf other
  owner : ∀ other, block'.threads.owner other =
    if other = id then 0 else block.threads.owner other
  hashes : ∀ other, block'.hashOf other = if other = inst.module then
    (block.hashOf other).map fun hash => update hash inst.name none else block.hashOf other

/-- The last part of `dbInst::destroy`. -/
def dropInst (id : Nat) (name : String) : ModuleM Unit := do
  modify fun block => { block with inst_hash := update block.inst_hash name none }
  instTbl.destroy id

lemma field_destroy {get : DbInst → Nat} {table : Store DbInst}
    (gone : block.inst_tbl.destroy id = some table) (other : Nat) :
    table.field get other = if other = id then 0 else block.inst_tbl.field get other := by
  rw [field, field, destroy_objs gone]
  by_cases same : other = id
  · rw [if_pos same, same, update_self]
    rfl
  · rw [if_neg same, update_of_ne same]

section

variable (consistent : block.Consistent)
include consistent

lemma dropInst_ok (named : block.nameOf id = some name) (free : block.threads.owner id = 0) :
    ∃ block', (dropInst id name).exec block = (.ok (), block') ∧ block'.Consistent ∧
      (∀ other, block'.nameOf other = if other = id then none else block.nameOf other) ∧
      (∀ other, block'.threads.owner other = block.threads.owner other) ∧
      ∀ other, block'.hashOf other = block.hashOf other := by
  have live : (block.inst_tbl.objs id).isSome := by
    rcases Option.map_eq_some_iff.mp named with ⟨inst, found, _⟩
    rw [found]
    rfl
  rcases destroy_isSome live with ⟨table, gone⟩
  let hash := update block.inst_hash name none
  let block' : ModuleBlock := { block with inst_tbl := table, inst_hash := hash }
  have names : ∀ other, block'.nameOf other = if other = id then none else block.nameOf other := by
    intro other
    change (table.objs other).map DbInst.name = _
    rw [destroy_objs gone]
    by_cases same : other = id
    · rw [if_pos same, same, update_self]
      rfl
    · rw [if_neg same, update_of_ne same]
      rfl
  have owner : ∀ other, block'.threads.owner other = block.threads.owner other := by
    intro other
    have value : block'.threads.owner other = if other = id then 0 else block.threads.owner other :=
      field_destroy gone other
    rw [value]
    split
    · rename_i same
      rw [same, free]
    · rfl
  have notId : ∀ other, block.threads.owner other ≠ 0 → other ≠ id := by
    rintro other isOwned rfl
    exact isOwned free
  refine ⟨block', ?_, ⟨destroy_wellFormed consistent.insts gone, consistent.modules,
    ?_, ?_, ?_, ?_⟩, names, owner, fun _ => rfl⟩
  · rw [dropInst, exec_bind_ok _ (exec_modify _ block)]
    have stays : (instTbl.store (block.withHash hash)).destroy id = some table := gone
    exact destroy_some stays
  · intro other key
    have there := names key
    rw [nameOf] at there
    rw [← Option.map_eq_some_iff, there]
    change update block.inst_hash name none other = some key ↔ _
    by_cases isName : other = name
    · subst isName
      rw [update_self]
      by_cases isKey : key = id
      · rw [if_pos isKey]
        exact iff_of_false (fun value => by cases value) (fun value => by cases value)
      · rw [if_neg isKey]
        exact iff_of_false (fun value => by cases value)
          (fun value => isKey (name_unique consistent value named))
    · rw [update_of_ne isName, named_iff consistent]
      by_cases isKey : key = id
      · rw [if_pos isKey, isKey, named]
        exact iff_of_false (fun value => isName (Option.some.inj value).symm)
          (fun value => by cases value)
      · rw [if_neg isKey]
  · apply Threads.threaded_congr consistent.threaded owner (fun _ _ => rfl)
    · intro other isOwned
      have value : block'.threads.next other = if other = id then 0 else block.threads.next other :=
        field_destroy gone other
      rw [value, if_neg (notId other isOwned)]
    · intro other isOwned
      have value : block'.threads.prev other = if other = id then 0 else block.threads.prev other :=
        field_destroy gone other
      rw [value, if_neg (notId other isOwned)]
  · intro other isFree
    have value : block'.threads.prev other = if other = id then 0 else block.threads.prev other :=
      field_destroy gone other
    rw [owner] at isFree
    rw [value]
    split
    · rfl
    · exact consistent.unlinked other isFree
  · intro other isOwned
    rw [owner] at isOwned ⊢
    exact consistent.owners other isOwned

lemma hashOf_null : block.hashOf 0 = none := by
  rw [hashOf, consistent.modules]
  rfl

lemma destroy_ok (found : block.inst_tbl.objs id = some inst)
    (touchable : inst.dont_touch = false) :
    ∃ block', (dbInst_destroy id none).exec block = (.ok (), block') ∧
      Destroyed block' block id inst := by
  have untouched : ¬ inst.dont_touch = true := by
    rw [touchable]
    exact Bool.false_ne_true
  have isOwner := (threads_of_inst found).2.2
  rw [dbInst_destroy, exec_bind_ok _ (get_inst found), exec_bind_ok _ (errorIf_pass untouched _ _)]
  dsimp only
  by_cases free : inst.module = 0
  · have isFree := isOwner.trans free
    rcases dropInst_ok consistent (nameOf_live found) isFree with
      ⟨block', ran, isConsistent, names, owner, hashes⟩
    refine ⟨block', ?_, isConsistent, names, ?_, ?_⟩
    · rw [onlyIf, if_neg (not_not.mpr free), onlyIf, if_neg (not_not.mpr free),
        exec_bind_ok _ (exec_pure () block), exec_bind_ok _ (exec_pure () block)]
      exact ran
    · intro other
      rw [owner]
      split
      · rename_i same
        rw [same, isFree]
      · rfl
    · intro other
      rw [hashes, free]
      split
      · rename_i null
        rw [null, hashOf_null consistent]
        rfl
      · rfl
  · have inModule : block.threads.owner id ≠ 0 := by rwa [isOwner]
    have liveModule := consistent.owners id inModule
    rw [isOwner] at liveModule
    rcases setHash_ok liveModule (fun hash => update hash inst.name none) with
      ⟨erased, ran, same, places, hashes⟩
    have still : erased.Consistent := by
      apply consistent_moved consistent same
      · rw [places]
        exact consistent.threaded
      · rw [places]
        exact consistent.unlinked
      · rw [places]
        exact consistent.owners
    rcases Option.isSome_iff_exists.mp ((same.isSome id).trans (by rw [found]; rfl)) with
      ⟨value, foundValue⟩
    rcases sameInsts_name same foundValue with ⟨old, foundOld, _, _, sameTouch⟩
    rw [found] at foundOld
    cases foundOld
    have sameModule : value.module = inst.module := by
      rw [← isOwner, ← places, (threads_of_inst foundValue).2.2]
    have ownedValue : value.module ≠ 0 := by rwa [sameModule]
    rcases removeInst_ok still foundValue ownedValue (sameTouch ▸ touchable) with
      ⟨detached, ran', gone⟩
    rw [sameModule] at ran'
    have whole := gone.toSameInsts.trans same
    have named : detached.nameOf id = some inst.name := by
      rw [nameOf_same whole, nameOf_live found]
    have isFree : detached.threads.owner id = 0 := by
      rw [gone.owner, if_pos rfl]
    rcases dropInst_ok gone.consistent named isFree with
      ⟨block', ran'', isConsistent, names, owner, hashes'⟩
    refine ⟨block', ?_, isConsistent, ?_, ?_, ?_⟩
    · rw [onlyIf, if_pos free, onlyIf, if_pos free, exec_bind_ok _ ran, exec_bind_ok _ ran']
      exact ran''
    · intro other
      rw [names, nameOf_same whole]
    · intro other
      rw [owner, gone.owner, places]
    · intro other
      rw [hashes', gone.hashes, hashes]

lemma destroy_cases (id : Nat) (refused : Option OdbFault) :
    ((dbInst_destroy id refused).exec block).2 = block ∨
    ∃ inst, block.inst_tbl.objs id = some inst ∧
      Destroyed ((dbInst_destroy id refused).exec block).2 block id inst := by
  cases found : block.inst_tbl.objs id with
  | none =>
    apply Or.inl
    rw [dbInst_destroy, exec_bind, @getPtr_dead _ _ instTbl _ _ found]
  | some inst =>
    by_cases untouchable : inst.dont_touch = true
    · apply Or.inl
      rw [dbInst_destroy, exec_bind_ok _ (get_inst found), exec_bind, errorIf_raise untouchable]
    cases refused with
    | some fault =>
      apply Or.inl
      rw [dbInst_destroy, exec_bind_ok _ (get_inst found),
        exec_bind_ok _ (errorIf_pass untouchable _ _)]
      rfl
    | none =>
      have touchable := Bool.not_eq_true _ |>.mp untouchable
      rcases destroy_ok consistent found touchable with ⟨block', ran, destroyed⟩
      rw [ran]
      exact .inr ⟨inst, rfl, destroyed⟩

lemma setDoNotTouch_view (id : Nat) (v : Bool) :
    SameView ((dbInst_setDoNotTouch id v).exec block).2 block := by
  cases found : block.inst_tbl.objs id with
  | none =>
    rw [dbInst_setDoNotTouch, @edit_dead _ _ instTbl _ _ found]
    exact sameView_refl consistent
  | some inst =>
    have live : (block.inst_tbl.objs id).isSome := by
      rw [found]
      rfl
    let table := block.inst_tbl.modify id fun inst => { inst with dont_touch := v }
    have places : (block.withInsts table).threads = block.threads := by
      simp only [threads, withInsts, table, Threads.mk.injEq]
      exact ⟨field_modify_same fun _ => rfl, field_modify_same fun _ => rfl,
        field_modify_same fun _ => rfl, trivial⟩
    have shown : table.map DbInst.name = block.inst_tbl.map DbInst.name :=
      map_modify_same fun _ => rfl
    have names : ∀ other, (block.withInsts table).nameOf other = block.nameOf other :=
      fun other => congrFun (congrArg objs shown) other
    rw [dbInst_setDoNotTouch, edit_inst live]
    refine ⟨consistent_samePlaces consistent (wellFormed_map shown consistent.insts) rfl ?_
      places, names, fun other => congrFun (congrArg Threads.owner places) other, fun _ => rfl⟩
    intro other key
    rw [names]
    exact named_iff consistent other key

end

end ModuleBlock

end OpenRoad.Odb
