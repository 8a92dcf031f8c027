import OpenRoad.Lib.DoublyLinked
import OpenRoad.Lib.Effects
import OpenRoad.Lib.Store

/-! Instances in modules: the list of a module through `module_next_` and `module_prev_`, and its
index by name. Of an instance's data only what these calls read is kept; `0` is the null pointer. -/

namespace OpenRoad.Odb

section

open OpenRoad.Lib Effect

/-- A message of the logger, or a pointer to an object that is not there. -/
inductive OdbFault where
  | error (id : Nat) (text : String)
  | dangling
  deriving DecidableEq

structure TableField (σ α : Type) where
  page : Nat
  store : σ → Store α
  put : Store α → σ → σ

namespace TableField

variable {σ α : Type} (table : TableField σ α)

def getPtr (id : Nat) : Effect σ OdbFault α := do
  match (table.store (← get)).objs id with
  | some object => pure object
  | none => throw .dangling

def edit (id : Nat) (f : α → α) : Effect σ OdbFault Unit := do
  let _ ← table.getPtr id
  modify fun s => table.put ((table.store s).modify id f) s

def create (object : α) : Effect σ OdbFault Nat := do
  match (table.store (← get)).create table.page object with
  | some (id, created) =>
    modify fun s => table.put created s
    pure id
  | none => throw .dangling

def destroy (id : Nat) : Effect σ OdbFault Unit := do
  match (table.store (← get)).destroy id with
  | some destroyed => modify fun s => table.put destroyed s
  | none => throw .dangling

variable {table} {s : σ} {id : Nat} {object : α}

lemma getPtr_live (live : (table.store s).objs id = some object) :
    (table.getPtr id).exec s = (.ok object, s) := by
  rw [getPtr, exec_bind_ok _ (exec_get s), live]
  rfl

lemma getPtr_dead (dead : (table.store s).objs id = none) :
    (table.getPtr id).exec s = (.error .dangling, s) := by
  rw [getPtr, exec_bind_ok _ (exec_get s), dead]
  rfl

lemma edit_live (live : ((table.store s).objs id).isSome) (f : α → α) :
    (table.edit id f).exec s = (.ok (), table.put ((table.store s).modify id f) s) := by
  rcases Option.isSome_iff_exists.mp live with ⟨object, found⟩
  rw [edit, exec_bind_ok _ (getPtr_live found)]
  rfl

lemma edit_dead (dead : (table.store s).objs id = none) (f : α → α) :
    (table.edit id f).exec s = (.error .dangling, s) := by
  rw [edit, exec_bind, getPtr_dead dead]

lemma create_some {created : Store α}
    (made : (table.store s).create table.page object = some (id, created)) :
    (table.create object).exec s = (.ok id, table.put created s) := by
  rw [create, exec_bind_ok _ (exec_get s), made]
  rfl

lemma destroy_some {destroyed : Store α} (done : (table.store s).destroy id = some destroyed) :
    (table.destroy id).exec s = (.ok (), table.put destroyed s) := by
  rw [destroy, exec_bind_ok _ (exec_get s), done]
  rfl

end TableField

/-- `error` of the logger under a condition. -/
def errorIf {σ : Type} (bad : Prop) [Decidable bad] (id : Nat) (text : String) :
    Effect σ OdbFault Unit := Effect.check bad (.error id text)

/-- `if (condition) ...`. -/
def onlyIf {σ : Type} (condition : Prop) [Decidable condition] (m : Effect σ OdbFault Unit) :
    Effect σ OdbFault Unit := if condition then m else pure ()

end

open OpenRoad.Lib Function

structure DbInst where
  name : String
  physical_only : Bool
  dont_touch : Bool
  module : Nat
  module_next : Nat
  module_prev : Nat

structure DbModule where
  name : String
  insts : Nat
  dbinst_hash : String → Option Nat

structure ModuleBlock where
  inst_tbl : Store DbInst
  inst_hash : String → Option Nat
  module_tbl : Store DbModule
  top_module : Nat

abbrev ModuleM (α : Type) := Effect ModuleBlock OdbFault α

def instTbl : TableField ModuleBlock DbInst where
  page := 128
  store := fun block => block.inst_tbl
  put := fun table block => { block with inst_tbl := table }

def moduleTbl : TableField ModuleBlock DbModule where
  page := 128
  store := fun block => block.module_tbl
  put := fun table block => { block with module_tbl := table }

/-- The part of `_dbModule::removeInst` that takes the instance out of the list. -/
def unlinkInst (moduleId instId : Nat) : ModuleM Unit := do
  let module ← moduleTbl.getPtr moduleId
  let inst ← instTbl.getPtr instId
  if module.insts = instId then do
    moduleTbl.edit moduleId fun module => { module with insts := inst.module_next }
    onlyIf (inst.module_next ≠ 0) (instTbl.edit inst.module_next fun t => { t with module_prev := 0 })
  else do
    onlyIf (inst.module_next ≠ 0)
      (instTbl.edit inst.module_next fun next => { next with module_prev := inst.module_prev })
    onlyIf (inst.module_prev ≠ 0)
      (instTbl.edit inst.module_prev fun prev => { prev with module_next := inst.module_next })

def dbModule_removeInst (moduleId instId : Nat) : ModuleM Unit := do
  let inst ← instTbl.getPtr instId
  if inst.module ≠ moduleId then pure ()
  else do
    errorIf inst.dont_touch 371
      ("Attempt to remove dont_touch instance " ++ inst.name ++ " from parent module")
    unlinkInst moduleId instId
    instTbl.edit instId fun inst => { inst with module := 0, module_next := 0, module_prev := 0 }

/-- The part of `dbModule::addInst` that puts the instance in front of the list. -/
def linkInst (moduleId instId : Nat) : ModuleM Unit := do
  let module ← moduleTbl.getPtr moduleId
  if module.insts = 0 then do
    instTbl.edit instId fun inst => { inst with module_next := 0, module_prev := 0 }
    moduleTbl.edit moduleId fun module => { module with insts := instId }
  else do
    instTbl.edit instId fun inst => { inst with module_next := module.insts }
    moduleTbl.edit moduleId fun module => { module with insts := instId }
    instTbl.edit module.insts fun cur_head => { cur_head with module_prev := instId }

def dbModule_addInst (moduleId instId : Nat) : ModuleM Unit := do
  let module ← moduleTbl.getPtr moduleId
  let inst ← instTbl.getPtr instId
  let block ← get
  errorIf (block.top_module ≠ moduleId ∧ inst.physical_only) 297
    ("Physical only instance " ++ inst.name ++ " can't be added to module " ++ module.name)
  if inst.module = moduleId then pure ()
  else do
    errorIf inst.dont_touch 367
      ("Attempt to change the module of dont_touch instance " ++ inst.name)
    onlyIf (inst.module ≠ 0) (dbModule_removeInst inst.module instId)
    instTbl.edit instId fun inst => { inst with module := moduleId }
    moduleTbl.edit moduleId fun module => { module with
      dbinst_hash := update module.dbinst_hash inst.name (some instId) }
    linkInst moduleId instId

/-- `dbModule::findDbInst`; `none` is a null pointer. -/
def DbModule.findDbInst (module : DbModule) (name : String) : Option Nat := module.dbinst_hash name

/-- `parent` may be a null pointer, as may be the result. -/
def dbInst_create (name : String) (physical_only : Bool) (parent : Nat) : ModuleM Nat := do
  let block ← get
  if (block.inst_hash name).isSome then pure 0
  else do
    let id ← instTbl.create ⟨name, physical_only, false, 0, 0, 0⟩
    modify fun block => { block with inst_hash := update block.inst_hash name (some id) }
    onlyIf (¬ physical_only ∨ parent = 0 ∨ block.top_module = parent)
      (dbModule_addInst (if parent = 0 then block.top_module else parent) id)
    pure id

def dbInst_rename (instId : Nat) (name : String) : ModuleM Bool := do
  let inst ← instTbl.getPtr instId
  let block ← get
  if (block.inst_hash name).isSome then pure false
  else do
    modify fun block => { block with inst_hash := update block.inst_hash inst.name none }
    instTbl.edit instId fun inst => { inst with name := name }
    modify fun block => { block with inst_hash := update block.inst_hash name (some instId) }
    pure true

/-- `refused` is an error of the scan instance or of a net on the way off the nets. -/
def dbInst_destroy (instId : Nat) (refused : Option OdbFault) : ModuleM Unit := do
  let inst ← instTbl.getPtr instId
  errorIf inst.dont_touch 362 ("Attempt to destroy dont_touch instance " ++ inst.name)
  match refused with
  | some fault => throw fault
  | none => do
    onlyIf (inst.module ≠ 0) (moduleTbl.edit inst.module fun module => { module with
      dbinst_hash := update module.dbinst_hash inst.name none })
    onlyIf (inst.module ≠ 0) (dbModule_removeInst inst.module instId)
    modify fun block => { block with inst_hash := update block.inst_hash inst.name none }
    instTbl.destroy instId

def dbInst_setDoNotTouch (instId : Nat) (v : Bool) : ModuleM Unit :=
  instTbl.edit instId fun inst => { inst with dont_touch := v }

inductive InstCall where
  | create (name : String) (physical_only : Bool) (parent : Nat)
  | addInst (module inst : Nat)
  | rename (inst : Nat) (name : String)
  | destroy (inst : Nat) (refused : Option OdbFault)
  | setDoNotTouch (inst : Nat) (v : Bool)

/-- The block after a call; an error keeps what the call did before it. -/
def ModuleBlock.after (block : ModuleBlock) : InstCall → ModuleBlock
  | .create name physical_only parent => ((dbInst_create name physical_only parent).exec block).2
  | .addInst module inst => ((dbModule_addInst module inst).exec block).2
  | .rename inst name => ((dbInst_rename inst name).exec block).2
  | .destroy inst refused => ((dbInst_destroy inst refused).exec block).2
  | .setDoNotTouch inst v => ((dbInst_setDoNotTouch inst v).exec block).2

def ModuleBlock.run (block : ModuleBlock) (calls : List InstCall) : ModuleBlock :=
  calls.foldl ModuleBlock.after block

def ModuleBlock.start (modules : Nat → Option String) (top_module : Nat) : ModuleBlock where
  inst_tbl := Store.empty
  inst_hash := fun _ => none
  module_tbl := ⟨fun id => if id = 0 then none else (modules id).map fun name => ⟨name, 0, fun _ => none⟩, [], 0⟩
  top_module := top_module

end OpenRoad.Odb
