import OpenRoad.Odb.ModuleInsts

/-! Lists of modules: what linking, unlinking and moving an instance do to them. -/

namespace OpenRoad.Odb

open OpenRoad.Lib OpenRoad.Lib.Effect Function Store Threads

section Errors

variable {σ : Type} {bad : Prop} [Decidable bad] {s : σ}

lemma errorIf_pass (passes : ¬ bad) (id : Nat) (text : String) :
    (errorIf bad id text).exec s = (.ok (), s) := by
  rw [errorIf, check, if_neg passes]
  rfl

lemma errorIf_raise (raises : bad) (id : Nat) (text : String) :
    (errorIf bad id text).exec s = (.error (.error id text), s) := by
  rw [errorIf, check, if_pos raises]
  rfl

end Errors

def DbInst.core (inst : DbInst) : String × Bool × Bool :=
  (inst.name, inst.physical_only, inst.dont_touch)

namespace ModuleBlock

def threads (block : ModuleBlock) : Threads where
  next := block.inst_tbl.field DbInst.module_next
  prev := block.inst_tbl.field DbInst.module_prev
  owner := block.inst_tbl.field DbInst.module
  head := block.module_tbl.field DbModule.insts

def hashOf (block : ModuleBlock) (module : Nat) : Option (String → Option Nat) :=
  (block.module_tbl.objs module).map DbModule.dbinst_hash

/-- Live objects have ids, names find them, and lists are threaded. -/
structure Consistent (block : ModuleBlock) : Prop where
  insts : Store.WellFormed 128 block.inst_tbl
  modules : block.module_tbl.objs 0 = none
  named : ∀ name id, block.inst_hash name = some id ↔
    ∃ inst, block.inst_tbl.objs id = some inst ∧ inst.name = name
  threaded : block.threads.Threaded
  unlinked : ∀ id, block.threads.owner id = 0 → block.threads.prev id = 0
  owners : ∀ id, block.threads.owner id ≠ 0 →
    (block.module_tbl.objs (block.threads.owner id)).isSome

/-- Names and flags of instances, the block's hash and its top module stay. -/
structure SameInsts (block' block : ModuleBlock) : Prop where
  core : block'.inst_tbl.map DbInst.core = block.inst_tbl.map DbInst.core
  inst_hash : block'.inst_hash = block.inst_hash
  top : block'.top_module = block.top_module
  live : ∀ module, (block'.module_tbl.objs module).isSome = (block.module_tbl.objs module).isSome

lemma SameInsts.trans {first second third : ModuleBlock} (later : SameInsts third second)
    (earlier : SameInsts second first) : SameInsts third first where
  core := later.core.trans earlier.core
  inst_hash := later.inst_hash.trans earlier.inst_hash
  top := later.top.trans earlier.top
  live := fun module => (later.live module).trans (earlier.live module)

lemma SameInsts.isSome {first second : ModuleBlock} (same : SameInsts second first) (id : Nat) :
    (second.inst_tbl.objs id).isSome = (first.inst_tbl.objs id).isSome :=
  map_isSome same.core id

structure SameIndex (block' block : ModuleBlock) : Prop extends SameInsts block' block where
  hashes : ∀ module, block'.hashOf module = block.hashOf module

lemma SameIndex.trans {first second third : ModuleBlock} (later : SameIndex third second)
    (earlier : SameIndex second first) : SameIndex third first where
  toSameInsts := later.toSameInsts.trans earlier.toSameInsts
  hashes := fun module => (later.hashes module).trans (earlier.hashes module)

variable {block block' : ModuleBlock} {id module : Nat} {inst : DbInst} {md : DbModule}

lemma owner_live (inModule : block.threads.owner id ≠ 0) : (block.inst_tbl.objs id).isSome := by
  rcases field_live inModule with ⟨inst, found, _⟩
  rw [found]
  rfl

lemma inst_nonzero (consistent : block.Consistent) (live : (block.inst_tbl.objs id).isSome) :
    id ≠ 0 := (consistent.insts.live_range id live).1

lemma sameInsts_name (same : SameInsts block' block) {value : DbInst}
    (live : block'.inst_tbl.objs id = some value) :
    ∃ old, block.inst_tbl.objs id = some old ∧ old.name = value.name ∧
      old.physical_only = value.physical_only ∧ old.dont_touch = value.dont_touch := by
  rcases map_live same.core live with ⟨old, found, shows⟩
  simp only [DbInst.core, Prod.mk.injEq] at shows
  exact ⟨old, found, shows⟩

lemma named_sameInsts (same : SameInsts block' block)
    (named : ∀ name id, block.inst_hash name = some id ↔
      ∃ inst, block.inst_tbl.objs id = some inst ∧ inst.name = name) (name : String) (id : Nat) :
    block'.inst_hash name = some id ↔
      ∃ inst, block'.inst_tbl.objs id = some inst ∧ inst.name = name := by
  rw [same.inst_hash, named name id]
  constructor
  · rintro ⟨inst, found, isName⟩
    rcases map_live same.core.symm found with ⟨value, isValue, shows⟩
    simp only [DbInst.core, Prod.mk.injEq] at shows
    exact ⟨value, isValue, shows.1.trans isName⟩
  · rintro ⟨value, isValue, isName⟩
    rcases sameInsts_name same isValue with ⟨old, found, sameName, _⟩
    exact ⟨old, found, sameName.trans isName⟩

def withInsts (block : ModuleBlock) (table : Store DbInst) : ModuleBlock :=
  { block with inst_tbl := table }

def withModules (block : ModuleBlock) (table : Store DbModule) : ModuleBlock :=
  { block with module_tbl := table }

def withHash (block : ModuleBlock) (hash : String → Option Nat) : ModuleBlock :=
  { block with inst_hash := hash }

lemma edit_inst (live : (block.inst_tbl.objs id).isSome) (f : DbInst → DbInst) :
    (instTbl.edit id f).exec block = (.ok (), block.withInsts (block.inst_tbl.modify id f)) :=
  @TableField.edit_live _ _ instTbl _ _ live f

lemma edit_module (live : (block.module_tbl.objs id).isSome) (f : DbModule → DbModule) :
    (moduleTbl.edit id f).exec block = (.ok (), block.withModules (block.module_tbl.modify id f)) :=
  @TableField.edit_live _ _ moduleTbl _ _ live f

lemma get_inst (found : block.inst_tbl.objs id = some inst) :
    (instTbl.getPtr id).exec block = (.ok inst, block) :=
  @TableField.getPtr_live _ _ instTbl _ _ _ found

lemma get_module (found : block.module_tbl.objs id = some md) :
    (moduleTbl.getPtr id).exec block = (.ok md, block) :=
  @TableField.getPtr_live _ _ moduleTbl _ _ _ found

lemma withInsts_same {f : DbInst → DbInst} (same : ∀ inst, (f inst).core = inst.core) (id : Nat) :
    SameInsts (block.withInsts (block.inst_tbl.modify id f)) block where
  core := map_modify_same same
  inst_hash := rfl
  top := rfl
  live := fun _ => rfl

lemma withModules_same (f : DbModule → DbModule) (id : Nat) :
    SameInsts (block.withModules (block.module_tbl.modify id f)) block where
  core := rfl
  inst_hash := rfl
  top := rfl
  live := fun module => modify_isSome id f block.module_tbl module

lemma hashOf_modify (f : DbModule → DbModule)
    (same : ∀ md, (f md).dbinst_hash = md.dbinst_hash) (id module : Nat) :
    (block.withModules (block.module_tbl.modify id f)).hashOf module = block.hashOf module := by
  simp only [hashOf, withModules, modify_objs]
  split
  · rw [Option.map_map]
    exact congrArg (fun view => Option.map view (block.module_tbl.objs module)) (funext same)
  · rfl

section

variable (live : (block.inst_tbl.objs id).isSome)
include live

lemma edit_place (f : DbInst → DbInst) (same : ∀ inst, (f inst).core = inst.core) :
    ∃ block', (instTbl.edit id f).exec block = (.ok (), block') ∧ SameIndex block' block ∧
      block'.inst_tbl = block.inst_tbl.modify id f ∧ block'.module_tbl = block.module_tbl :=
  ⟨_, edit_inst live f, ⟨withInsts_same same id, fun _ => rfl⟩, rfl, rfl⟩

omit live in
lemma setHead_ok (live : (block.module_tbl.objs module).isSome) (value : Nat) :
    ∃ block', (moduleTbl.edit module fun module => { module with insts := value }).exec block =
        (.ok (), block') ∧ SameIndex block' block ∧ block'.threads = { block.threads with
          head := fun list => if list = module then value else block.threads.head list } := by
  refine ⟨_, edit_module live _,
    ⟨withModules_same _ _, hashOf_modify (fun md => { md with insts := value }) (fun _ => rfl) _⟩, ?_⟩
  simp only [threads, withModules, Threads.mk.injEq]
  exact ⟨trivial, trivial, trivial, funext (field_modify value (fun _ => rfl) live)⟩

lemma setNext_ok (value : Nat) :
    ∃ block', (instTbl.edit id fun inst => { inst with module_next := value }).exec block =
        (.ok (), block') ∧ SameIndex block' block ∧ block'.threads = { block.threads with
          next := fun other => if other = id then value else block.threads.next other } := by
  rcases edit_place live (fun inst => { inst with module_next := value }) fun _ => rfl with
    ⟨block', ran, same, insts, modules⟩
  refine ⟨block', ran, same, ?_⟩
  simp only [threads, insts, modules, Threads.mk.injEq]
  exact ⟨funext (field_modify value (fun _ => rfl) live),
    field_modify_same fun _ => rfl, field_modify_same fun _ => rfl, trivial⟩

lemma setPrev_ok (value : Nat) :
    ∃ block', (instTbl.edit id fun inst => { inst with module_prev := value }).exec block =
        (.ok (), block') ∧ SameIndex block' block ∧ block'.threads = { block.threads with
          prev := fun other => if other = id then value else block.threads.prev other } := by
  rcases edit_place live (fun inst => { inst with module_prev := value }) fun _ => rfl with
    ⟨block', ran, same, insts, modules⟩
  refine ⟨block', ran, same, ?_⟩
  simp only [threads, insts, modules, Threads.mk.injEq]
  exact ⟨field_modify_same fun _ => rfl,
    funext (field_modify value (fun _ => rfl) live),
    field_modify_same fun _ => rfl, trivial⟩

lemma setModule_ok (value : Nat) :
    ∃ block', (instTbl.edit id fun inst => { inst with module := value }).exec block =
        (.ok (), block') ∧ SameIndex block' block ∧ block'.threads = { block.threads with
          owner := fun other => if other = id then value else block.threads.owner other } := by
  rcases edit_place live (fun inst => { inst with module := value }) fun _ => rfl with
    ⟨block', ran, same, insts, modules⟩
  refine ⟨block', ran, same, ?_⟩
  simp only [threads, insts, modules, Threads.mk.injEq]
  exact ⟨field_modify_same fun _ => rfl, field_modify_same fun _ => rfl,
    funext (field_modify value (fun _ => rfl) live), trivial⟩

lemma setLinks_ok :
    ∃ block', (instTbl.edit id fun inst =>
        { inst with module_next := 0, module_prev := 0 }).exec block =
        (.ok (), block') ∧ SameIndex block' block ∧ block'.threads = { block.threads with
          next := fun other => if other = id then 0 else block.threads.next other
          prev := fun other => if other = id then 0 else block.threads.prev other } := by
  rcases edit_place live (fun inst => { inst with module_next := 0, module_prev := 0 })
    fun _ => rfl with ⟨block', ran, same, insts, modules⟩
  refine ⟨block', ran, same, ?_⟩
  simp only [threads, insts, modules, Threads.mk.injEq]
  exact ⟨funext (field_modify 0 (fun _ => rfl) live),
    funext (field_modify 0 (fun _ => rfl) live), field_modify_same fun _ => rfl, trivial⟩

lemma clearPlace_ok :
    ∃ block', (instTbl.edit id fun inst =>
        { inst with module := 0, module_next := 0, module_prev := 0 }).exec block =
        (.ok (), block') ∧ SameIndex block' block ∧ block'.threads = { block.threads with
          next := fun other => if other = id then 0 else block.threads.next other
          prev := fun other => if other = id then 0 else block.threads.prev other
          owner := fun other => if other = id then 0 else block.threads.owner other } := by
  rcases edit_place live (fun inst => { inst with module := 0, module_next := 0, module_prev := 0 })
    fun _ => rfl with ⟨block', ran, same, insts, modules⟩
  refine ⟨block', ran, same, ?_⟩
  simp only [threads, insts, modules, Threads.mk.injEq]
  exact ⟨funext (field_modify 0 (fun _ => rfl) live),
    funext (field_modify 0 (fun _ => rfl) live),
    funext (field_modify 0 (fun _ => rfl) live), trivial⟩

end

lemma onlyIf_ok {m : ModuleM Unit} {post : ModuleBlock → Prop}
    (does : id ≠ 0 → ∃ block', m.exec block = (.ok (), block') ∧ post block')
    (skips : id = 0 → post block) :
    ∃ block', (onlyIf (id ≠ 0) m).exec block = (.ok (), block') ∧ post block' := by
  by_cases null : id = 0
  · exact ⟨block, by rw [onlyIf, if_neg (not_not.mpr null)]; rfl, skips null⟩
  · rw [onlyIf, if_pos null]
    exact does null

lemma setPrevOf_ok (live : id ≠ 0 → (block.inst_tbl.objs id).isSome) (value : Nat) :
    ∃ block', (onlyIf (id ≠ 0) (instTbl.edit id fun inst =>
        { inst with module_prev := value })).exec block = (.ok (), block') ∧
      SameIndex block' block ∧ block'.threads.next = block.threads.next ∧
      block'.threads.owner = block.threads.owner ∧ block'.threads.head = block.threads.head ∧
      ∀ other, other ≠ 0 → block'.threads.prev other =
        if other = id then value else block.threads.prev other := by
  apply onlyIf_ok
  · intro nonzero
    rcases setPrev_ok (live nonzero) value with ⟨block', ran, same, threads⟩
    exact ⟨block', ran, same, by rw [threads], by rw [threads], by rw [threads],
      fun other _ => by rw [threads]⟩
  · rintro rfl
    exact ⟨⟨⟨rfl, rfl, rfl, fun _ => rfl⟩, fun _ => rfl⟩, rfl, rfl, rfl,
      fun other nonzero => (if_neg nonzero).symm⟩

lemma setNextOf_ok (live : id ≠ 0 → (block.inst_tbl.objs id).isSome) (value : Nat) :
    ∃ block', (onlyIf (id ≠ 0) (instTbl.edit id fun inst =>
        { inst with module_next := value })).exec block = (.ok (), block') ∧
      SameIndex block' block ∧ block'.threads.prev = block.threads.prev ∧
      block'.threads.owner = block.threads.owner ∧ block'.threads.head = block.threads.head ∧
      ∀ other, other ≠ 0 → block'.threads.next other =
        if other = id then value else block.threads.next other := by
  apply onlyIf_ok
  · intro nonzero
    rcases setNext_ok (live nonzero) value with ⟨block', ran, same, threads⟩
    exact ⟨block', ran, same, by rw [threads], by rw [threads], by rw [threads],
      fun other _ => by rw [threads]⟩
  · rintro rfl
    exact ⟨⟨⟨rfl, rfl, rfl, fun _ => rfl⟩, fun _ => rfl⟩, rfl, rfl, rfl,
      fun other nonzero => (if_neg nonzero).symm⟩

/-- `next` and `prev` lead past the instance. -/
structure Bypassed (block' block : ModuleBlock) (id : Nat) : Prop extends SameIndex block' block where
  owner : block'.threads.owner = block.threads.owner
  head : ∀ list, list ≠ 0 → block'.threads.head list =
    if block.threads.head list = id then block.threads.next id else block.threads.head list
  next : ∀ other, other ≠ 0 → block'.threads.next other =
    if other = block.threads.prev id then block.threads.next id else block.threads.next other
  prev : ∀ other, other ≠ 0 → block'.threads.prev other =
    if other = block.threads.next id then block.threads.prev id else block.threads.prev other

lemma threads_of_inst (found : block.inst_tbl.objs id = some inst) :
    block.threads.next id = inst.module_next ∧ block.threads.prev id = inst.module_prev ∧
      block.threads.owner id = inst.module :=
  ⟨field_of_live _ found, field_of_live _ found, field_of_live _ found⟩

lemma next_live (consistent : block.Consistent) (owned : block.threads.owner id ≠ 0)
    (inner : block.threads.next id ≠ 0) :
    (block.inst_tbl.objs (block.threads.next id)).isSome := by
  apply owner_live
  rw [next_owner consistent.threaded owned inner]
  exact owned

lemma prev_live (consistent : block.Consistent) (owned : block.threads.owner id ≠ 0)
    (inner : block.threads.prev id ≠ 0) :
    (block.inst_tbl.objs (block.threads.prev id)).isSome := by
  apply owner_live
  rw [prev_owner consistent.threaded owned inner]
  exact owned

lemma unlinkInst_ok (consistent : block.Consistent)
    (found : block.inst_tbl.objs id = some inst) (owned : inst.module ≠ 0) :
    ∃ block', (unlinkInst inst.module id).exec block = (.ok (), block') ∧
      Bypassed block' block id := by
  rcases threads_of_inst found with ⟨isNext, isPrev, isOwner⟩
  have inModule : block.threads.owner id ≠ 0 := by rwa [isOwner]
  have isNode := inst_nonzero consistent (by rw [found]; rfl : (block.inst_tbl.objs id).isSome)
  have liveModule := consistent.owners id inModule
  rw [isOwner] at liveModule
  rcases Option.isSome_iff_exists.mp liveModule with ⟨md, isModule⟩
  have headIs : block.threads.head inst.module = md.insts := field_of_live _ isModule
  have atHead := head_iff consistent.threaded inModule
  rw [isOwner, headIs, isPrev] at atHead
  have nextLive : inst.module_next ≠ 0 → (block.inst_tbl.objs inst.module_next).isSome := by
    rw [← isNext]
    exact next_live consistent inModule
  have prevLive : inst.module_prev ≠ 0 → (block.inst_tbl.objs inst.module_prev).isSome := by
    rw [← isPrev]
    exact prev_live consistent inModule
  -- only the list of its own module can start with the instance
  have onlyHead : ∀ list, list ≠ 0 → block.threads.head list = id → list = inst.module := by
    intro list isList isHead
    have owner := head_owner consistent.threaded isList (isHead ▸ isNode)
    rw [isHead, isOwner] at owner
    exact owner.symm
  rw [unlinkInst, exec_bind_ok _ (get_module isModule), exec_bind_ok _ (get_inst found)]
  by_cases first : md.insts = id
  · have noPrev := atHead.mp first
    rcases setHead_ok liveModule inst.module_next with ⟨headed, ran, same, threads⟩
    have live : inst.module_next ≠ 0 → (headed.inst_tbl.objs inst.module_next).isSome := by
      rw [same.isSome]
      exact nextLive
    rcases setPrevOf_ok live 0 with ⟨block', ran', same', next, owner, head, prev⟩
    rw [if_pos first, exec_bind_ok _ ran]
    refine ⟨block', ran', same'.trans same, by rw [owner, threads], ?_, ?_, ?_⟩
    · intro list isList
      rw [head, threads]
      dsimp only
      by_cases own : list = inst.module
      · rw [if_pos own, own, headIs, if_pos first, isNext]
      · rw [if_neg own, if_neg fun isHead => own (onlyHead list isList isHead)]
    · intro other nonzero
      rw [next, threads, isPrev, noPrev, if_neg nonzero]
    · intro other nonzero
      rw [prev other nonzero, threads, isNext, isPrev, noPrev]
  · rcases setPrevOf_ok nextLive inst.module_prev with ⟨passed, ran, same, next, owner, head, prev⟩
    have live : inst.module_prev ≠ 0 → (passed.inst_tbl.objs inst.module_prev).isSome := by
      rw [same.isSome]
      exact prevLive
    rcases setNextOf_ok live inst.module_next with ⟨block', ran', same', prev', owner', head', next'⟩
    rw [if_neg first, exec_bind_ok _ ran]
    refine ⟨block', ran', same'.trans same, owner'.trans owner, ?_, ?_, ?_⟩
    · intro list isList
      rw [head', head, if_neg]
      intro isHead
      rw [onlyHead list isList isHead, headIs] at isHead
      exact first isHead
    · intro other nonzero
      rw [next' other nonzero, next, isNext, isPrev]
    · intro other nonzero
      rw [prev', prev other nonzero, isNext, isPrev]

structure Detached (block' block : ModuleBlock) (id : Nat) : Prop extends SameIndex block' block where
  consistent : block'.Consistent
  owner : ∀ other, block'.threads.owner other =
    if other = id then 0 else block.threads.owner other

lemma null_dead (consistent : block.Consistent) : block.inst_tbl.objs 0 = none := by
  cases found : block.inst_tbl.objs 0 with
  | none => rfl
  | some inst => exact absurd rfl (consistent.insts.live_range 0 (by rw [found]; rfl)).1

lemma sameInsts_dead (same : SameInsts block' block) (dead : block.inst_tbl.objs id = none) :
    block'.inst_tbl.objs id = none := by
  have isDead := same.isSome id
  rw [dead] at isDead
  exact Option.not_isSome_iff_eq_none.mp (by simp [isDead])

lemma consistent_moved (consistent : block.Consistent) (same : SameInsts block' block)
    (threaded : block'.threads.Threaded)
    (unlinked : ∀ id, block'.threads.owner id = 0 → block'.threads.prev id = 0)
    (owners : ∀ id, block'.threads.owner id ≠ 0 →
      (block.module_tbl.objs (block'.threads.owner id)).isSome) : block'.Consistent where
  insts := wellFormed_map same.core consistent.insts
  modules := by
    have gone := same.live 0
    rw [consistent.modules] at gone
    exact Option.not_isSome_iff_eq_none.mp (by simp [gone])
  named := named_sameInsts same consistent.named
  threaded := threaded
  unlinked := unlinked
  owners := fun id owned => by
    rw [same.live]
    exact owners id owned

lemma removeInst_ok (consistent : block.Consistent)
    (found : block.inst_tbl.objs id = some inst) (owned : inst.module ≠ 0)
    (touchable : inst.dont_touch = false) :
    ∃ block', (dbModule_removeInst inst.module id).exec block = (.ok (), block') ∧
      Detached block' block id := by
  rcases threads_of_inst found with ⟨isNext, isPrev, isOwner⟩
  have inModule : block.threads.owner id ≠ 0 := by rwa [isOwner]
  have isNode := inst_nonzero consistent (by rw [found]; rfl : (block.inst_tbl.objs id).isSome)
  rcases unlinkInst_ok consistent found owned with ⟨passed, ran, bypassed⟩
  have live : (passed.inst_tbl.objs id).isSome := by
    rw [bypassed.isSome, found]
    rfl
  rcases clearPlace_ok live with ⟨block', ran', same', threads⟩
  have whole := same'.trans bypassed.toSameIndex
  have owner : ∀ other, block'.threads.owner other =
      if other = id then 0 else block.threads.owner other := by
    intro other
    rw [threads, bypassed.owner]
  have untouched : ¬ inst.dont_touch = true := by
    rw [touchable]
    exact Bool.false_ne_true
  refine ⟨block', ?_, whole, ?_, owner⟩
  · rw [dbModule_removeInst, exec_bind_ok _ (get_inst found), if_neg (not_not.mpr rfl),
      exec_bind_ok _ (errorIf_pass untouched _ _), exec_bind_ok _ ran]
    exact ran'
  · apply consistent_moved consistent whole.toSameInsts
    · apply threaded_remove consistent.threaded inModule owner
      · intro list isList
        rw [threads]
        exact bypassed.head list isList
      · intro other different isOwned
        rw [threads]
        dsimp only
        rw [if_neg different]
        exact bypassed.next other (owned_nonzero consistent.threaded isOwned)
      · intro other different isOwned
        rw [threads]
        dsimp only
        rw [if_neg different]
        exact bypassed.prev other (owned_nonzero consistent.threaded isOwned)
    · intro other free
      rw [owner other] at free
      rw [threads]
      dsimp only
      by_cases same : other = id
      · rw [if_pos same]
      · rw [if_neg same] at free ⊢
        by_cases null : other = 0
        · subst null
          exact field_of_dead _ (sameInsts_dead bypassed.toSameInsts (null_dead consistent))
        · rw [bypassed.prev other null, if_neg]
          · exact consistent.unlinked other free
          · intro isFollowing
            have nextOwner := next_owner consistent.threaded inModule
              (isFollowing ▸ null : block.threads.next id ≠ 0)
            rw [← isFollowing, free] at nextOwner
            exact inModule nextOwner.symm
    · intro other isOwned
      rw [owner other] at isOwned ⊢
      split at isOwned
      · exact absurd rfl isOwned
      · rename_i different
        rw [if_neg different]
        exact consistent.owners other isOwned

lemma setHash_ok (live : (block.module_tbl.objs module).isSome)
    (g : (String → Option Nat) → String → Option Nat) :
    ∃ block', (moduleTbl.edit module fun md => { md with dbinst_hash := g md.dbinst_hash }).exec
        block = (.ok (), block') ∧ SameInsts block' block ∧ block'.threads = block.threads ∧
      ∀ other, block'.hashOf other =
        if other = module then (block.hashOf other).map g else block.hashOf other := by
  refine ⟨_, edit_module live _, withModules_same _ _, ?_, ?_⟩
  · simp only [threads, withModules, Threads.mk.injEq]
    exact ⟨trivial, trivial, trivial, field_modify_same fun _ => rfl⟩
  · intro other
    simp only [hashOf, withModules, modify_objs]
    split
    · rw [Option.map_map, Option.map_map]
      rfl
    · rfl

/-- The instance stands in front of the old head. -/
structure Pushed (block' block : ModuleBlock) (module id : Nat) : Prop
    extends SameIndex block' block where
  owner : block'.threads.owner = block.threads.owner
  head : ∀ list, block'.threads.head list =
    if list = module then id else block.threads.head list
  next : ∀ other, block'.threads.next other =
    if other = id then block.threads.head module else block.threads.next other
  first : block'.threads.prev id = 0
  prev : ∀ other, other ≠ id → other ≠ 0 → block'.threads.prev other =
    if other = block.threads.head module then id else block.threads.prev other

lemma linkInst_ok (liveModule : (block.module_tbl.objs module).isSome)
    (live : (block.inst_tbl.objs id).isSome) (unlinked : block.threads.prev id = 0)
    (headLive : block.threads.head module ≠ 0 →
      (block.inst_tbl.objs (block.threads.head module)).isSome)
    (apart : block.threads.head module ≠ id) :
    ∃ block', (linkInst module id).exec block = (.ok (), block') ∧
      Pushed block' block module id := by
  rcases Option.isSome_iff_exists.mp liveModule with ⟨md, isModule⟩
  have headIs : block.threads.head module = md.insts := field_of_live _ isModule
  rw [headIs] at headLive apart
  rw [linkInst, exec_bind_ok _ (get_module isModule)]
  by_cases empty : md.insts = 0
  · rcases setLinks_ok live with ⟨cleared, ran, same, threads⟩
    have stays : (cleared.module_tbl.objs module).isSome := by rwa [same.live]
    rcases setHead_ok stays id with ⟨block', ran', same', threads'⟩
    rw [if_pos empty, exec_bind_ok _ ran]
    refine ⟨block', ran', same'.trans same, ?_, ?_, ?_, ?_, ?_⟩
    · rw [threads', threads]
    · intro list
      rw [threads', threads]
    · intro other
      rw [threads', threads, headIs, empty]
    · rw [threads', threads]
      exact if_pos rfl
    · intro other different nonzero
      rw [threads', threads, headIs, empty, if_neg nonzero]
      exact if_neg different
  · rcases setNext_ok live md.insts with ⟨pointed, ran, same, threads⟩
    have stays : (pointed.module_tbl.objs module).isSome := by rwa [same.live]
    rcases setHead_ok stays id with ⟨headed, ran', same', threads'⟩
    have there : (headed.inst_tbl.objs md.insts).isSome := by
      rw [same'.isSome, same.isSome]
      exact headLive empty
    rcases setPrev_ok there id with ⟨block', ran'', same'', threads''⟩
    rw [if_neg empty, exec_bind_ok _ ran, exec_bind_ok _ ran']
    refine ⟨block', ran'', same''.trans (same'.trans same), ?_, ?_, ?_, ?_, ?_⟩
    · rw [threads'', threads', threads]
    · intro list
      rw [threads'', threads', threads]
    · intro other
      rw [threads'', threads', threads, headIs]
    · rw [threads'', threads', threads]
      exact (if_neg (Ne.symm apart)).trans unlinked
    · intro other _ _
      rw [threads'', threads', threads, headIs]

/-- The instance is in the module now, under its name; nothing else moves. -/
structure Attached (block' block : ModuleBlock) (module id : Nat) (name : String) : Prop
    extends SameInsts block' block where
  consistent : block'.Consistent
  owner : ∀ other, block'.threads.owner other =
    if other = id then module else block.threads.owner other
  hashes : ∀ other, block'.hashOf other = if other = module then
    (block.hashOf other).map fun hash => update hash name (some id) else block.hashOf other

/-- The last part of `dbModule::addInst`. -/
def attachInst (module id : Nat) (name : String) : ModuleM Unit := do
  instTbl.edit id fun inst => { inst with module := module }
  moduleTbl.edit module fun md =>
    { md with dbinst_hash := update md.dbinst_hash name (some id) }
  linkInst module id

lemma attachInst_ok (consistent : block.Consistent)
    (liveModule : (block.module_tbl.objs module).isSome)
    (live : (block.inst_tbl.objs id).isSome) (free : block.threads.owner id = 0) (name : String) :
    ∃ block', (attachInst module id name).exec block = (.ok (), block') ∧
      Attached block' block module id name := by
  have isNode := inst_nonzero consistent live
  have isList : module ≠ 0 := by
    rintro rfl
    rw [consistent.modules] at liveModule
    cases liveModule
  rcases setModule_ok live module with ⟨owned, ran, same, threads⟩
  have stays : (owned.module_tbl.objs module).isSome := by rwa [same.live]
  rcases setHash_ok stays (fun hash => update hash name (some id)) with
    ⟨filed, ran', same', threads', hashes⟩
  have whole := same'.trans same.toSameInsts
  have places := threads'.trans threads
  have headFree : block.threads.head module ≠ id := by
    intro isHead
    have owner := head_owner consistent.threaded isList (isHead ▸ isNode)
    rw [isHead, free] at owner
    exact isList owner.symm
  have filedModule : (filed.module_tbl.objs module).isSome := by rwa [whole.live]
  have filedInst : (filed.inst_tbl.objs id).isSome := by rwa [whole.isSome]
  have filedPrev : filed.threads.prev id = 0 := by
    rw [places]
    exact consistent.unlinked id free
  have filedHead : filed.threads.head module ≠ 0 →
      (filed.inst_tbl.objs (filed.threads.head module)).isSome := by
    rw [whole.isSome, places]
    intro nonempty
    apply owner_live
    rw [head_owner consistent.threaded isList nonempty]
    exact isList
  have filedApart : filed.threads.head module ≠ id := by
    rw [places]
    exact headFree
  rcases linkInst_ok filedModule filedInst filedPrev filedHead filedApart with
    ⟨block', ran'', pushed⟩
  have owner : ∀ other, block'.threads.owner other =
      if other = id then module else block.threads.owner other := by
    intro other
    rw [pushed.owner, places]
  refine ⟨block', ?_, pushed.toSameInsts.trans whole, ?_, owner, ?_⟩
  · rw [attachInst, exec_bind_ok _ ran, exec_bind_ok _ ran']
    exact ran''
  · apply consistent_moved consistent (pushed.toSameInsts.trans whole)
    · apply threaded_push consistent.threaded isNode free isList owner
      · intro list _
        rw [pushed.head, places]
      · intro other _
        rw [pushed.next, places]
      · intro other member
        by_cases isId : other = id
        · rw [if_pos isId, isId, pushed.first]
        · have isOwned := member.resolve_left isId
          have nonzero := owned_nonzero consistent.threaded isOwned
          rw [if_neg isId, pushed.prev other isId nonzero, places]
    · intro other isFree
      rw [owner other] at isFree
      by_cases isId : other = id
      · rw [isId, pushed.first]
      · rw [if_neg isId] at isFree
        by_cases null : other = 0
        · subst null
          exact field_of_dead _ (sameInsts_dead (pushed.toSameInsts.trans whole) (null_dead consistent))
        · rw [pushed.prev other isId null, places, if_neg]
          · exact consistent.unlinked other isFree
          · intro isHead
            have headOwner := head_owner consistent.threaded isList
              (isHead ▸ null : block.threads.head module ≠ 0)
            rw [← isHead, isFree] at headOwner
            exact isList headOwner.symm
    · intro other isOwned
      rw [owner other] at isOwned ⊢
      split
      · exact liveModule
      · rename_i isId
        rw [if_neg isId] at isOwned
        exact consistent.owners other isOwned
  · intro other
    rw [pushed.hashes, hashes, same.hashes]

end ModuleBlock

end OpenRoad.Odb
