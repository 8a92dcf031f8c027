import OpenRoad.Lib.Runs
import OpenRoad.Odb.ModuleCalls

/-! When the index of a module finds exactly the instances on its list. -/

namespace OpenRoad.Odb

open OpenRoad.Lib Function Option

namespace ModuleBlock

variable {block block' : ModuleBlock} {id module : Nat} {inst : DbInst} {name : String}

/-- `findDbInst` of every module finds the live instance of a name on the list of the module, and
nothing else. -/
def LookupExact (block : ModuleBlock) : Prop :=
  ∀ module md, block.module_tbl.objs module = some md →
    ∃ ids, Chain block.threads.next md.insts ids ∧ ∀ name id, md.findDbInst name = some id ↔
      id ∈ ids ∧ ∃ inst, block.inst_tbl.objs id = some inst ∧ inst.name = name

def Indexed (block : ModuleBlock) : Prop :=
  ∀ module hash, block.hashOf module = some hash → ∀ name id, hash name = some id ↔
    block.nameOf id = some name ∧ block.threads.owner id = module

lemma hashOf_live {md : DbModule} (isModule : block.module_tbl.objs module = some md) :
    block.hashOf module = some md.dbinst_hash := by
  rw [hashOf, isModule]
  rfl

lemma module_nonzero (consistent : block.Consistent) {hash : String → Option Nat}
    (isHash : block.hashOf module = some hash) : module ≠ 0 := by
  rintro rfl
  rw [hashOf, consistent.modules] at isHash
  cases isHash

lemma lookupExact_iff (consistent : block.Consistent) : block.LookupExact ↔ block.Indexed := by
  have onList : ∀ module md, block.module_tbl.objs module = some md → ∃ ids,
      Chain block.threads.next md.insts ids ∧ ∀ id, id ∈ ids ↔ block.threads.owner id = module := by
    intro module md isModule
    have nonzero := module_nonzero consistent (hashOf_live isModule)
    rcases consistent.threaded module nonzero with ⟨ids, linked, members⟩
    have head : block.threads.head module = md.insts := Store.field_of_live _ isModule
    exact ⟨ids, head ▸ linked_chain linked, members⟩
  constructor
  · intro exact module hash isHash name id
    rcases map_eq_some_iff.mp isHash with ⟨md, isModule, rfl⟩
    rcases exact module md isModule with ⟨ids, chain, finds⟩
    rcases onList module md isModule with ⟨ids', chain', members⟩
    rw [chain_unique chain chain'] at finds
    rw [nameOf, map_eq_some_iff, ← members id, and_comm]
    exact finds name id
  · intro indexed module md isModule
    rcases onList module md isModule with ⟨ids, chain, members⟩
    refine ⟨ids, chain, ?_⟩
    intro name id
    rw [members id, and_comm, ← map_eq_some_iff]
    exact indexed module _ (hashOf_live isModule) name id

lemma indexed_sameView (view : SameView block' block) : block'.Indexed ↔ block.Indexed := by
  simp only [Indexed, view.hashes, view.names, view.owner]

lemma indexed_attached (attached : Attached block' block module id name)
    (consistent : block.Consistent) (named : block.nameOf id = some name)
    (free : block.threads.owner id = 0) (indexed : block.Indexed) : block'.Indexed := by
  intro list hash isHash other key
  have isList := module_nonzero attached.consistent isHash
  rw [attached.hashes] at isHash
  rw [nameOf_same attached.toSameInsts, attached.owner]
  have elsewhere : ∀ hash', block.hashOf list = some hash' → hash' name ≠ some id := by
    intro hash' isOld found
    have owner := ((indexed list hash' isOld name id).mp found).2
    exact isList (owner.symm.trans free)
  by_cases own : list = module
  · rw [if_pos own] at isHash
    rcases map_eq_some_iff.mp isHash with ⟨old, isOld, rfl⟩
    by_cases isId : key = id
    · rw [if_pos isId, isId, named]
      by_cases isName : other = name
      · rw [isName, update_self]
        exact iff_of_true rfl ⟨rfl, own.symm⟩
      · rw [update_of_ne isName]
        refine iff_of_false (fun found => ?_) fun both => isName (some.inj both.1).symm
        have there := ((indexed list old isOld other id).mp found).1
        rw [named] at there
        exact isName (some.inj there).symm
    · rw [if_neg isId]
      by_cases isName : other = name
      · rw [isName, update_self]
        exact iff_of_false (fun found => isId (some.inj found).symm)
          fun both => isId (name_unique consistent both.1 named)
      · rw [update_of_ne isName]
        exact indexed list old isOld other key
  · rw [if_neg own] at isHash
    by_cases isId : key = id
    · rw [if_pos isId, isId, named]
      refine iff_of_false (fun found => ?_) fun both => own both.2.symm
      have there := (indexed list hash isHash other id).mp found
      exact isList (there.2.symm.trans free)
    · rw [if_neg isId]
      exact indexed list hash isHash other key

lemma indexed_created (created : Created block' block id name) (indexed : block.Indexed) :
    block'.Indexed := by
  intro list hash isHash other key
  have isList := module_nonzero created.consistent isHash
  rw [created.hashes] at isHash
  rw [created.names, created.owner, indexed list hash isHash other key]
  by_cases isId : key = id
  · have nowhere : block.threads.owner key = 0 := by
      rw [isId]
      exact Store.field_of_dead _ created.fresh
    rw [nowhere]
    exact iff_of_false (fun both => isList both.2.symm) fun both => isList both.2.symm
  · rw [if_neg isId]

lemma indexed_renamed (renamed : Renamed block' block id name)
    (consistent : block.Consistent) (found : block.inst_tbl.objs id = some inst)
    (free : block.inst_hash name = none) (indexed : block.Indexed) :
    block'.Indexed ↔ inst.module = 0 := by
  have isOwner := (threads_of_inst found).2.2
  constructor
  · intro still
    by_contra owned
    have inModule : block.threads.owner id ≠ 0 := by rwa [isOwner]
    rcases isSome_iff_exists.mp (consistent.owners id inModule) with ⟨md, isModule⟩
    have isHash := hashOf_live isModule
    have old := (indexed _ _ isHash inst.name id).mpr ⟨nameOf_live found, rfl⟩
    rw [← renamed.hashes] at isHash
    have now := ((still _ _ isHash inst.name id).mp old).1
    rw [renamed.names, if_pos rfl] at now
    have filed := (named_iff consistent inst.name id).mpr (nameOf_live found)
    rw [← some.inj now, free] at filed
    cases filed
  · intro nowhere list hash isHash other key
    have isList := module_nonzero renamed.consistent isHash
    rw [renamed.hashes] at isHash
    rw [renamed.names, renamed.owner, indexed list hash isHash other key]
    by_cases isId : key = id
    · rw [isId, isOwner, nowhere]
      exact iff_of_false (fun both => isList both.2.symm) fun both => isList both.2.symm
    · rw [if_neg isId]

lemma indexed_destroyed (destroyed : Destroyed block' block id inst)
    (consistent : block.Consistent) (found : block.inst_tbl.objs id = some inst)
    (indexed : block.Indexed) : block'.Indexed := by
  intro list hash isHash other key
  have isOwner := (threads_of_inst found).2.2
  rw [destroyed.hashes] at isHash
  rw [destroyed.names, destroyed.owner]
  by_cases own : list = inst.module
  · rw [if_pos own] at isHash
    rcases map_eq_some_iff.mp isHash with ⟨old, isOld, rfl⟩
    by_cases isName : other = inst.name
    · rw [isName, update_self]
      refine iff_of_false (fun value => by cases value) ?_
      rintro ⟨named, _⟩
      by_cases isId : key = id
      · rw [if_pos isId] at named
        cases named
      · rw [if_neg isId] at named
        exact isId (name_unique consistent named (nameOf_live found))
    · rw [update_of_ne isName, indexed list old isOld other key]
      by_cases isId : key = id
      · rw [if_pos isId, if_pos isId, isId, nameOf_live found]
        exact iff_of_false (fun both => isName (some.inj both.1).symm)
          fun both => by cases both.1
      · rw [if_neg isId, if_neg isId]
  · rw [if_neg own] at isHash
    rw [indexed list hash isHash other key]
    by_cases isId : key = id
    · rw [if_pos isId, if_pos isId, isId, isOwner]
      exact iff_of_false (fun both => own both.2.symm) fun both => by cases both.1
    · rw [if_neg isId, if_neg isId]

lemma indexed_moved (detached : Detached block' block id) {moved : ModuleBlock}
    (attached : Attached moved block' module id inst.name) (consistent : block.Consistent)
    (found : block.inst_tbl.objs id = some inst) (owned : inst.module ≠ 0)
    (elsewhere : inst.module ≠ module) (indexed : block.Indexed) : ¬ moved.Indexed := by
  intro still
  have isOwner := (threads_of_inst found).2.2
  have inModule : block.threads.owner id ≠ 0 := by rwa [isOwner]
  rcases isSome_iff_exists.mp (consistent.owners id inModule) with ⟨md, isModule⟩
  rw [isOwner] at isModule
  have isHash := hashOf_live isModule
  have old := (indexed _ _ isHash inst.name id).mpr ⟨nameOf_live found, isOwner⟩
  rw [← detached.hashes] at isHash
  have kept := attached.hashes inst.module
  rw [if_neg elsewhere, isHash] at kept
  have now := ((still _ _ kept inst.name id).mp old).2
  rw [attached.owner, if_pos rfl] at now
  exact elsewhere now.symm

/-- The call moves no instance from one module to another and gives none in a module a new name. -/
def KeepsIndex (block : ModuleBlock) : InstCall → Prop
  | .create _ _ _ => True
  | .addInst module inst => ¬ Moves block module inst
  | .rename instId name => ∀ inst, block.inst_tbl.objs instId = some inst →
    block.inst_hash name = none → inst.module = 0
  | .destroy _ _ => True
  | .setDoNotTouch _ _ => True

section

variable (consistent : block.Consistent)
include consistent

lemma after_create (indexed : block.Indexed) (name : String) (physical_only : Bool) (parent : Nat) :
    (block.after (.create name physical_only parent)).Consistent ∧
      (block.after (.create name physical_only parent)).Indexed := by
  rcases create_cases consistent name physical_only parent with
    same | ⟨_, id, made, created, free, same | ⟨module, _, attached⟩⟩
  · rw [after, same]
    exact ⟨consistent, indexed⟩
  · rw [after, same]
    exact ⟨created.consistent, indexed_created created indexed⟩
  · have named : made.nameOf id = some name := by
      rw [created.names, if_pos rfl]
    exact ⟨attached.consistent, indexed_attached attached created.consistent named free
      (indexed_created created indexed)⟩

lemma after_addInst (indexed : block.Indexed) (module id : Nat) :
    (block.after (.addInst module id)).Consistent ∧
      ((block.after (.addInst module id)).Indexed ↔ ¬ Moves block module id) := by
  by_cases moves : Moves block module id
  · rcases moves with ⟨md, inst, isModule, found, owned, elsewhere, touchable, accepted⟩
    rcases addInst_move consistent isModule found accepted owned elsewhere touchable with
      ⟨detached, block', ran, gone, attached⟩
    rw [after, ran]
    exact ⟨attached.consistent, iff_of_false
      (indexed_moved gone attached consistent found owned elsewhere indexed)
      (not_not.mpr ⟨md, inst, isModule, found, owned, elsewhere, touchable, accepted⟩)⟩
  · rcases addInst_cases consistent module id with
      same | ⟨md, inst, _, found, free, attached⟩ | impossible
    · rw [after, same]
      exact ⟨consistent, iff_of_true indexed moves⟩
    · have isFree := (threads_of_inst found).2.2.trans free
      exact ⟨attached.consistent, iff_of_true
        (indexed_attached attached consistent (nameOf_live found) isFree indexed) moves⟩
    · exact absurd impossible moves

lemma after_keeps (call : InstCall) :
    (block.after call).Consistent := by
  cases call with
  | create name physical_only parent =>
    rcases create_cases consistent name physical_only parent with
      same | ⟨_, id, made, created, _, same | ⟨module, _, attached⟩⟩
    · rwa [after, same]
    · rw [after, same]
      exact created.consistent
    · exact attached.consistent
  | addInst module id =>
    rcases addInst_cases consistent module id with same | ⟨_, _, _, _, _, attached⟩ | moves
    · rwa [after, same]
    · exact attached.consistent
    · rcases moves with ⟨md, inst, isModule, found, owned, elsewhere, touchable, accepted⟩
      rcases addInst_move consistent isModule found accepted owned elsewhere touchable with
        ⟨detached, block', ran, _, attached⟩
      rw [after, ran]
      exact attached.consistent
  | rename id name =>
    rcases rename_cases consistent id name with same | ⟨_, _, renamed⟩
    · rwa [after, same]
    · exact renamed.consistent
  | destroy id refused =>
    rcases destroy_cases consistent id refused with same | ⟨_, _, destroyed⟩
    · rwa [after, same]
    · exact destroyed.consistent
  | setDoNotTouch id v => exact (setDoNotTouch_view consistent id v).consistent

lemma after_indexed (indexed : block.Indexed) (call : InstCall) :
    (block.after call).Indexed ↔ block.KeepsIndex call := by
  cases call with
  | create name physical_only parent =>
    exact iff_of_true (after_create consistent indexed name physical_only parent).2 trivial
  | addInst module id => exact (after_addInst consistent indexed module id).2
  | rename id name =>
    rcases rename_cases consistent id name with same | ⟨live, free, renamed⟩
    · rw [after, same]
      refine iff_of_true indexed ?_
      intro inst found free
      rcases rename_ok consistent found free with ⟨block', ran, renamed⟩
      rw [ran] at same
      -- a block that stays as it is has no new name
      have stays := renamed.names id
      rw [show block' = block from same, if_pos rfl] at stays
      exact absurd stays (name_free consistent free id)
    · rcases isSome_iff_exists.mp live with ⟨inst, found⟩
      have exact := indexed_renamed renamed consistent found free indexed
      rw [after, exact]
      constructor
      · intro nowhere value foundValue _
        rw [found] at foundValue
        rw [← some.inj foundValue]
        exact nowhere
      · intro allowed
        exact allowed inst found free
  | destroy id refused =>
    rcases destroy_cases consistent id refused with same | ⟨inst, found, destroyed⟩
    · rw [after, same]
      exact iff_of_true indexed trivial
    · exact iff_of_true (indexed_destroyed destroyed consistent found indexed) trivial
  | setDoNotTouch id v =>
    exact iff_of_true ((indexed_sameView (setDoNotTouch_view consistent id v)).mpr indexed) trivial

end

variable {modules : Nat → Option String} {top_module : Nat}

lemma start_module {md : DbModule}
    (isModule : (start modules top_module).module_tbl.objs id = some md) :
    md.insts = 0 ∧ md.dbinst_hash = fun _ => none := by
  simp only [start] at isModule
  split at isModule
  · cases isModule
  · rcases map_eq_some_iff.mp isModule with ⟨name, _, rfl⟩
    exact ⟨rfl, rfl⟩

lemma start_consistent : (start modules top_module).Consistent where
  insts := Store.wellFormed_empty 128
  modules := rfl
  named := fun name id => iff_of_false (fun found => by cases found) fun there => by
    rcases there with ⟨inst, found, _⟩
    cases found
  threaded := by
    intro list isList
    refine ⟨[], ?_, fun id => iff_of_false List.not_mem_nil (Ne.symm isList)⟩
    cases found : (start modules top_module).module_tbl.objs list with
    | none => exact Store.field_of_dead DbModule.insts found
    | some md => exact (Store.field_of_live DbModule.insts found).trans (start_module found).1
  unlinked := fun _ _ => rfl
  owners := fun id owned => absurd rfl owned

lemma start_indexed : (start modules top_module).Indexed := by
  intro module hash isHash name id
  rcases map_eq_some_iff.mp isHash with ⟨md, isModule, rfl⟩
  rw [(start_module isModule).2]
  exact iff_of_false (fun found => by cases found) fun both => by cases both.1

/-- Lookup is exact exactly if no call moves an instance between modules or renames one in a module.
-/
theorem lookup_exact (modules : Nat → Option String) (top_module : Nat) (calls : List InstCall) :
    Throughout after LookupExact (start modules top_module) calls ↔
      EachCall after KeepsIndex (start modules top_module) calls := by
  apply @throughout_iff _ _ after LookupExact Consistent KeepsIndex _ (fun _ => True)
  · exact fun block call _ consistent => after_keeps consistent call
  · intro block call _ consistent exact
    rw [lookupExact_iff (after_keeps consistent call)]
    exact after_indexed consistent ((lookupExact_iff consistent).mp exact) call
  · exact fun _ _ => trivial
  · exact start_consistent
  · exact (lookupExact_iff start_consistent).mpr start_indexed

/-- An instance is created in one module and added to another one; the first module still finds
it. -/
theorem moved_instance_found :
    ¬ LookupExact (run (start (fun id => if id ≤ 3 then some "m" else none) 1)
      [.create "u" false 2, .addInst 3 1]) := by
  intro exact
  have state : ((run (start (fun id => if id ≤ 3 then some "m" else none) 1)
      [.create "u" false 2, .addInst 3 1]).module_tbl.objs 2).map
        (fun md => (md.insts, md.findDbInst "u")) = some (0, some 1) := by
    decide
  rcases Option.map_eq_some_iff.mp state with ⟨md, isModule, shows⟩
  simp only [Prod.mk.injEq] at shows
  rcases exact 2 md isModule with ⟨ids, chain, finds⟩
  have member := ((finds "u" 1).mp shows.2).1
  rw [shows.1] at chain
  have empty := (chain_head_zero_iff chain).mp rfl
  rw [empty] at member
  cases member

end ModuleBlock

end OpenRoad.Odb
