import OpenRoad.Odb.ChipMirrorRuns
import OpenRoad.Odb.StackSteps

/-! What a stack of files leaves behind: each design with its instances in their places and with
the size of the box around them. -/

namespace OpenRoad.Odb

open OpenRoad.Lib OpenRoad.Lib.Effect List Function Store

inductive StackItem where
  | chiplet (chiplet : ChipletDef)
  | design (design : DesignDef)

mutual

def StackFile.items : StackFile → List StackItem
  | .dbv includes chiplet_defs => includedItems includes ++ chiplet_defs.map .chiplet
  | .dbx includes design => includedItems includes ++ [.design design]

def includedItems : List StackFile → List StackItem
  | [] => []
  | file :: files => file.items ++ includedItems files

end

namespace ThreeDBlox

def readItem : StackItem → ChipM Unit
  | .chiplet chiplet => createChiplet chiplet
  | .design design => readDesign design

mutual

lemma readFile_items : ∀ file, readFile file = forM file.items readItem
  | .dbv includes chiplet_defs => by
    rw [readFile, StackFile.items, forM_append, readHeaderIncludes_items includes]
    congr 1
    funext _
    rw [forM_map]
    rfl
  | .dbx includes design => by
    rw [readFile, StackFile.items, forM_append, readHeaderIncludes_items includes]
    congr 1
    funext _
    rw [forM_cons, forM_nil]
    exact (bind_pure (readDesign design)).symm

lemma readHeaderIncludes_items : ∀ files, readHeaderIncludes files = forM (includedItems files) readItem
  | [] => rfl
  | file :: files => by
    rw [readHeaderIncludes, includedItems, forM_append, readFile_items file,
      readHeaderIncludes_items files]

end

end ThreeDBlox

/-- The instance stands where the file puts it. -/
def PlacedAs (db : ChipDatabase) (chip id : Nat) (chip_inst : ChipletInst) : Prop :=
  ∃ inst master, db.chip_inst_tbl.objs id = some inst ∧ inst.master_chip < chip ∧
    db.chip_hash.lookup chip_inst.reference = some inst.master_chip ∧
    db.chip_tbl.objs inst.master_chip = some master ∧
    (inst.getTransform.applyCuboid master.getCuboid).lll = chip_inst.loc

def sizedBox (merged : Option Cuboid) : Cuboid :=
  Cuboid.init 0 0 0 (Cuboid.dx merged) (Cuboid.dy merged) (Cuboid.dz merged)

def Assembled (db : ChipDatabase) (design : DesignDef) : Prop :=
  ∃ id chip cuboids, db.chip_hash.lookup design.name = some id ∧
    db.chip_tbl.objs id = some chip ∧ chip.type = .HIER ∧
    List.Forall₂ (PlacedAs db id) chip.chipinsts design.chiplet_instances.reverse ∧
    chip.chipinsts.mapM db.getInstCuboid = some cuboids ∧
    chip.getCuboid = sizedBox (Cuboid.mergeAll cuboids)

structure StackRead (done : List StackItem) (db : ChipDatabase) : Prop where
  chips : ∃ n, db.chip_tbl.Filled kChipPage n
  insts : ∃ n, db.chip_inst_tbl.Filled kTablePage n
  named : ∀ name id, db.chip_hash.lookup name = some id →
    ∃ chip, db.chip_tbl.objs id = some chip ∧ chip.name = name
  hashed : ∀ id chip, db.chip_tbl.objs id = some chip → db.chip_hash.lookup chip.name = some id
  parents : ∀ id inst, db.chip_inst_tbl.objs id = some inst →
    ∃ parentId parent, db.chip_tbl.objs parentId = some parent ∧ id ∈ parent.chipinsts
  origins : ∀ id chip, db.chip_tbl.objs id = some chip →
    (∃ design, .design design ∈ done ∧ design.name = chip.name) ∨ chip.chipinsts = [] ∧
        (chip.type = .HIER → ∃ chiplet, .chiplet chiplet ∈ done ∧ chiplet.type = "hier")
  designs : ∀ design, .design design ∈ done → Assembled db design

structure Undisturbed (db db' : ChipDatabase) : Prop where
  names : ∀ name id, db.chip_hash.lookup name = some id → db'.chip_hash.lookup name = some id
  chips : ∀ id chip, db.chip_tbl.objs id = some chip → ∃ chip', db'.chip_tbl.objs id = some chip' ∧
    chip'.name = chip.name ∧ chip'.type = chip.type ∧ chip'.chipinsts = chip.chipinsts ∧
    chip'.getCuboid = chip.getCuboid
  insts : ∀ id inst, db.chip_inst_tbl.objs id = some inst → db'.chip_inst_tbl.objs id = some inst

section Undisturbed

variable {db db' : ChipDatabase}

section

variable (undisturbed : Undisturbed db db')
include undisturbed

lemma undisturbed_instCuboid {id : Nat} {cuboid : Cuboid} (is : db.getInstCuboid id = some cuboid) :
    db'.getInstCuboid id = some cuboid := by
  rw [ChipDatabase.getInstCuboid] at is ⊢
  cases live : db.chip_inst_tbl.objs id with
  | none =>
    rw [live] at is
    cases is
  | some inst =>
    rw [live] at is
    cases there : db.chip_tbl.objs inst.master_chip with
    | none =>
      simp [there] at is
    | some master =>
      rcases undisturbed.chips _ _ there with ⟨master', there', _, _, _, same⟩
      simp only [there, Option.bind_eq_bind, Option.bind_some] at is
      simp only [undisturbed.insts _ _ live, there', same, Option.bind_eq_bind, Option.bind_some]
      exact is

lemma undisturbed_mapM {ids : List Nat} {cuboids : List Cuboid}
    (are : ids.mapM db.getInstCuboid = some cuboids) :
    ids.mapM db'.getInstCuboid = some cuboids := by
  rw [forall₂_mapM] at are ⊢
  exact are.imp fun _ _ => undisturbed_instCuboid undisturbed

lemma undisturbed_placedAs {chip id : Nat} {chip_inst : ChipletInst}
    (placed : PlacedAs db chip id chip_inst) : PlacedAs db' chip id chip_inst := by
  rcases placed with ⟨inst, master, live, below, found, there, isLoc⟩
  rcases undisturbed.chips _ _ there with ⟨master', there', _, _, _, same⟩
  exact ⟨inst, master', undisturbed.insts _ _ live, below, undisturbed.names _ _ found, there',
    same ▸ isLoc⟩

lemma undisturbed_assembled {design : DesignDef} (assembled : Assembled db design) :
    Assembled db' design := by
  rcases assembled with ⟨id, chip, cuboids, found, there, hier, placed, are, size⟩
  rcases undisturbed.chips _ _ there with ⟨chip', there', _, isType, isInsts, same⟩
  refine ⟨id, chip', cuboids, undisturbed.names _ _ found, there', isType.trans hier, ?_, ?_, same.trans size⟩
  · rw [isInsts]
    exact placed.imp fun _ _ => undisturbed_placedAs undisturbed
  · rw [isInsts]
    exact undisturbed_mapM undisturbed are

end

end Undisturbed

section Chiplets

variable {done : List StackItem} {db : ChipDatabase} {id : Nat}

/-- A definition that leaves the boxes of the hierarchical chips that are there as they are. -/
def KeepsSizes (db : ChipDatabase) : StackItem → Prop
  | .chiplet chiplet => chiplet.type = "hier" → ∀ id chip,
    db.chip_hash.lookup chiplet.name = some id → db.chip_tbl.objs id = some chip →
      (ThreeDBlox.resize chiplet chip).getCuboid = chip.getCuboid
  | .design _ => True

lemma undisturbed_write {chip chip' : DbChip} (there : db.chip_tbl.objs id = some chip)
    (name : chip'.name = chip.name) (type : chip'.type = chip.type)
    (insts : chip'.chipinsts = chip.chipinsts) (same : chip'.getCuboid = chip.getCuboid) :
    Undisturbed db { db with chip_tbl := db.chip_tbl.write id chip' } where
  names := fun _ _ found => found
  insts := fun _ _ live => live
  chips := by
    intro other found thereOther
    by_cases isId : other = id
    · rw [isId, there] at thereOther
      cases thereOther
      exact ⟨chip', isId ▸ write_objs_self, name, type, insts, same⟩
    · exact ⟨found, (write_objs_ne isId).trans thereOther, rfl, rfl, rfl, rfl⟩

lemma stackRead_write (read : StackRead done db) {chip chip' : DbChip}
    (there : db.chip_tbl.objs id = some chip)
    (name : chip'.name = chip.name) (type : chip'.type = chip.type)
    (insts : chip'.chipinsts = chip.chipinsts) (same : chip'.getCuboid = chip.getCuboid) :
    StackRead done { db with chip_tbl := db.chip_tbl.write id chip' } := by
  have undisturbed := undisturbed_write there name type insts same
  refine ⟨?_, read.insts, ?_, ?_, ?_, ?_, ?_⟩
  · rcases read.chips with ⟨n, filled⟩
    exact ⟨n, filled_write filled there⟩
  · intro key other found
    rcases read.named key other found with ⟨old, thereOld, isName⟩
    rcases undisturbed.chips _ _ thereOld with ⟨new, thereNew, sameName, _⟩
    exact ⟨new, thereNew, sameName.trans isName⟩
  · intro other found thereOther
    rcases write_cases thereOther with ⟨rfl, rfl⟩ | ⟨_, old⟩
    · rw [name]
      exact read.hashed other chip there
    · exact read.hashed other found old
  · intro other inst live
    rcases read.parents other inst live with ⟨parentId, parent, thereParent, member⟩
    rcases undisturbed.chips _ _ thereParent with ⟨new, thereNew, _, _, sameInsts, _⟩
    exact ⟨parentId, new, thereNew, sameInsts ▸ member⟩
  · intro other found thereOther
    rcases write_cases thereOther with ⟨rfl, rfl⟩ | ⟨_, old⟩
    · rw [name, type, insts]
      exact read.origins other chip there
    · exact read.origins other found old
  · intro design member
    exact undisturbed_assembled undisturbed (read.designs design member)

lemma origins_mono {more : List StackItem} {chip : DbChip}
    (origin : (∃ design, .design design ∈ done ∧ design.name = chip.name) ∨ chip.chipinsts = [] ∧
      (chip.type = .HIER → ∃ chiplet, .chiplet chiplet ∈ done ∧ chiplet.type = "hier")) :
    (∃ design, .design design ∈ done ++ more ∧ design.name = chip.name) ∨ chip.chipinsts = [] ∧
      (chip.type = .HIER → ∃ chiplet, .chiplet chiplet ∈ done ++ more ∧ chiplet.type = "hier") := by
  rcases origin with ⟨design, member, isName⟩ | ⟨bare, origin⟩
  · exact .inl ⟨design, mem_append_left more member, isName⟩
  · refine .inr ⟨bare, ?_⟩
    intro hier
    rcases origin hier with ⟨chiplet, member, isHier⟩
    exact ⟨chiplet, mem_append_left more member, isHier⟩

lemma lookup_cons_ne {name other : String} {id found : Nat} {hash : List (String × Nat)}
    (absent : hash.lookup name = none) (is : hash.lookup other = some found) :
    ((name, id) :: hash).lookup other = some found := by
  have differ : other ≠ name := by
    rintro rfl
    rw [absent] at is
    cases is
  rw [lookup_cons, beq_eq_false_iff_ne.mpr differ]
  exact is

lemma absent_of_create (read : StackRead done db) {chip : DbChip} {table : Store DbChip}
    (created : db.chip_tbl.create kChipPage chip = some (id, table)) :
    db.chip_tbl.objs id = none ∧ table.objs = update db.chip_tbl.objs id (some chip) ∧
      table.Filled kChipPage id := by
  rcases read.chips with ⟨n, filled⟩
  rcases filled_create (show 2 ≤ kChipPage from le_refl 2) filled chip with ⟨table', created', filled'⟩
  rw [created] at created'
  cases created'
  refine ⟨?_, create_objs created, filled'⟩
  have fresh := (filled.live (n + 1)).not.mpr (by omega)
  exact Option.not_isSome_iff_eq_none.mp fresh

lemma undisturbed_create (read : StackRead done db) {chip chip' : DbChip} {name : String} {top : Nat}
    {table : Store DbChip} (created : db.chip_tbl.create kChipPage chip = some (id, table))
    (absent : db.chip_hash.lookup name = none) :
    Undisturbed db { db with
      chip_tbl := table.write id chip'
      chip := top
      chip_hash := (name, id) :: db.chip_hash } where
  names := fun _ _ found => lookup_cons_ne absent found
  insts := fun _ _ live => live
  chips := by
    intro other found there
    rcases absent_of_create read created with ⟨fresh, objs, _⟩
    have differ : other ≠ id := by
      rintro rfl
      rw [fresh] at there
      cases there
    refine ⟨found, ?_, rfl, rfl, rfl, rfl⟩
    rw [write_objs_ne differ, objs, update_of_ne differ]
    exact there

lemma stackRead_create (read : StackRead done db) {chip chip' : DbChip} {top : Nat}
    {table : Store DbChip} {item : StackItem}
    (created : db.chip_tbl.create kChipPage chip = some (id, table))
    (absent : db.chip_hash.lookup chip'.name = none)
    (bare : chip'.chipinsts = [])
    (origin : chip'.type = .HIER → ∃ chiplet, .chiplet chiplet ∈ done ++ [item] ∧ chiplet.type = "hier")
    (isChiplet : ∀ design, item ≠ .design design) :
    StackRead (done ++ [item]) { db with
      chip_tbl := table.write id chip'
      chip := top
      chip_hash := (chip'.name, id) :: db.chip_hash } := by
  have undisturbed : Undisturbed db { db with
      chip_tbl := table.write id chip'
      chip := top
      chip_hash := (chip'.name, id) :: db.chip_hash } := undisturbed_create read created absent
  rcases absent_of_create read created with ⟨fresh, objs, filled⟩
  have old : ∀ other found, (table.write id chip').objs other = some found →
      other = id ∧ found = chip' ∨ other ≠ id ∧ db.chip_tbl.objs other = some found := by
    intro other found there
    rcases write_cases there with same | ⟨differ, there⟩
    · exact .inl same
    · rw [objs, update_of_ne differ] at there
      exact .inr ⟨differ, there⟩
  refine ⟨⟨id, filled_write filled (objs ▸ update_self _ _ _)⟩, read.insts, ?_, ?_, ?_, ?_,
    ?_⟩
  · intro key other found
    rw [lookup_cons] at found
    split at found
    · rename_i isKey
      cases found
      exact ⟨chip', write_objs_self, (beq_iff_eq.mp isKey).symm⟩
    · rcases read.named key other found with ⟨old, thereOld, isName⟩
      rcases undisturbed.chips _ _ thereOld with ⟨new, thereNew, sameName, _⟩
      exact ⟨new, thereNew, sameName.trans isName⟩
  · intro other found there
    rcases old other found there with ⟨rfl, rfl⟩ | ⟨_, there⟩
    · exact lookup_cons_self
    · exact lookup_cons_ne absent (read.hashed other found there)
  · intro other inst live
    rcases read.parents other inst live with ⟨parentId, parent, thereParent, member⟩
    rcases undisturbed.chips _ _ thereParent with ⟨new, thereNew, _, _, sameInsts, _⟩
    exact ⟨parentId, new, thereNew, sameInsts ▸ member⟩
  · intro other found there
    rcases old other found there with ⟨rfl, rfl⟩ | ⟨_, there⟩
    · exact .inr ⟨bare, origin⟩
    · exact origins_mono (read.origins other found there)
  · intro design member
    rcases mem_append.mp member with member | member
    · exact undisturbed_assembled undisturbed (read.designs design member)
    · exact absurd (mem_singleton.mp member).symm (isChiplet design)

lemma stackRead_chiplet (read : StackRead done db) {chiplet : ChipletDef} {db' : ChipDatabase}
    {value : Unit} (keeps : KeepsSizes db (.chiplet chiplet))
    (ran : (ThreeDBlox.createChiplet chiplet).exec db = (.ok value, db')) :
    StackRead (done ++ [.chiplet chiplet]) db' := by
  rcases createChiplet_ok ran with ⟨id, chip, found, there, isHier, rfl⟩ |
    ⟨absent, id, table, top, type, isCreated, isHier, rfl⟩
  · have written : StackRead done { db with
        chip_tbl := db.chip_tbl.write id (ThreeDBlox.resize chiplet chip) } :=
      stackRead_write read there rfl rfl rfl (keeps isHier id chip found there)
    refine ⟨written.chips, written.insts, written.named, written.hashed, written.parents, ?_, ?_⟩
    · intro other found thereOther
      exact origins_mono (written.origins other found thereOther)
    · intro design member
      rcases mem_append.mp member with member | member
      · exact written.designs design member
      · rw [mem_singleton] at member
        cases member
  · have origin : type = .HIER →
        ∃ other, .chiplet other ∈ done ++ [.chiplet chiplet] ∧ other.type = "hier" := by
      intro hier
      exact ⟨chiplet, mem_append_right done (mem_singleton_self _), isHier hier⟩
    exact @stackRead_create done db id read _
      (ThreeDBlox.resize chiplet (newChip chiplet.name type chiplet.tech)) top table _ isCreated
      absent rfl origin fun _ same => nomatch same

end Chiplets

def unsized (design : DesignDef) (ids : List Nat) (map : List (String × Nat)) : DbChip :=
  { newChip design.name .HIER 0 with chipinsts := ids, chipinsts_map := map }

/-- While a design is read: its chip is the last one, with an instance for each one read so far. -/
structure Assembling (start : ChipDatabase) (design : DesignDef) (read : List ChipletInst)
    (db : ChipDatabase) : Prop where
  chips : db.chip_tbl.Filled kChipPage db.chip
  insts : ∃ n, db.chip_inst_tbl.Filled kTablePage n
  hash : db.chip_hash = (design.name, db.chip) :: start.chip_hash
  fresh : start.chip_tbl.objs db.chip = none
  old : ∀ id, id ≠ db.chip → db.chip_tbl.objs id = start.chip_tbl.objs id
  kept : ∀ id inst, start.chip_inst_tbl.objs id = some inst → db.chip_inst_tbl.objs id = some inst
  top : ∃ ids map, db.chip_tbl.objs db.chip = some (unsized design ids map) ∧
    List.Forall₂ (PlacedAs db db.chip) ids read.reverse ∧
    ∀ id inst, db.chip_inst_tbl.objs id = some inst →
      start.chip_inst_tbl.objs id = some inst ∨ id ∈ ids

section Designs

variable {done : List StackItem} {start db db' : ChipDatabase} {design : DesignDef}
  {read : List ChipletInst}

lemma assembling_start {id : Nat} (stack : StackRead done start)
    (ran : (ThreeDBlox.createDesignTopChiplet design).exec start = (.ok id, db)) :
    start.chip_hash.lookup design.name = none ∧ db.chip = id ∧ Assembling start design [] db := by
  rcases createDesignTopChiplet_ok ran with ⟨absent, table, created, rfl⟩
  rcases absent_of_create stack created with ⟨fresh, objs, filled⟩
  refine ⟨absent, rfl, filled, stack.insts, rfl, fresh, ?_, fun _ _ live => live, [], [], ?_,
    .nil, fun _ _ live => .inl live⟩
  · intro other differ
    change table.objs other = _
    rw [objs, update_of_ne differ]
  · change table.objs id = _
    rw [objs, update_self]
    rfl

lemma top_pos (assembling : Assembling start design read db) : 1 ≤ db.chip := by
  rcases assembling.top with ⟨ids, map, there, _⟩
  exact ((assembling.chips.live db.chip).mp (by rw [there]; rfl)).1

lemma assembling_named (stack : StackRead done start)
    (assembling : Assembling start design read db) {name : String} {id : Nat}
    (found : db.chip_hash.lookup name = some id) : (db.chip_tbl.objs id).isSome := by
  rw [assembling.hash, lookup_cons] at found
  split at found
  · cases found
    rcases assembling.top with ⟨ids, map, there, _⟩
    rw [there]
    rfl
  · rcases stack.named name id found with ⟨chip, there, _⟩
    have differ : id ≠ db.chip := by
      rintro rfl
      rw [assembling.fresh] at there
      cases there
    rw [assembling.old id differ, there]
    rfl

lemma assembling_inst {chip_inst : ChipletInst} {value : Unit} (stack : StackRead done start)
    (assembling : Assembling start design read db)
    (ran : (ThreeDBlox.createChipInst chip_inst).exec db = (.ok value, db')) :
    db'.chip = db.chip ∧ Assembling start design (read ++ [chip_inst]) db' := by
  have positive := top_pos assembling
  have named : ∀ name id, db.chip_hash.lookup name = some id → id ≠ 0 := by
    intro name id found
    have live := assembling_named stack assembling found
    have bounds := (assembling.chips.live id).mp live
    omega
  rcases createChipInst_ok (by omega) named ran with ⟨parent, master, masterId, table, id, inst,
    thereParent, thereMaster, found, hier, different, created, isMaster, isLoc, placing⟩
  rcases assembling.insts with ⟨n, filled⟩
  rcases filled_create (by decide) filled (newChipInst chip_inst.name masterId db.chip) with
    ⟨table', created', filled'⟩
  rw [created] at created'
  cases created'
  have freshInst : db.chip_inst_tbl.objs (n + 1) = none :=
    Option.not_isSome_iff_eq_none.mp ((filled.live (n + 1)).not.mpr (by omega))
  have objs := create_objs created
  rcases assembling.top with ⟨ids, map, thereTop, placed, listed⟩
  rw [thereTop] at thereParent
  cases thereParent
  simp only [ChipDatabase.placing, Placing.mk.injEq] at placing
  rcases placing with ⟨isTop, isHash, isChips, isInsts⟩
  have keptInst : ∀ other found, db.chip_inst_tbl.objs other = some found →
      db'.chip_inst_tbl.objs other = some found := by
    intro other found live
    have differ : other ≠ n + 1 := by
      rintro rfl
      rw [freshInst] at live
      cases live
    rw [isInsts, write_objs_ne differ, objs, update_of_ne differ]
    exact live
  have oldChips : ∀ other, other ≠ db.chip → db'.chip_tbl.objs other = db.chip_tbl.objs other := by
    intro other differ
    rw [isChips, write_objs_ne differ]
  have below : masterId < db.chip := by
    have bounds := (assembling.chips.live masterId).mp (by rw [thereMaster]; rfl)
    omega
  refine ⟨isTop, ?_, ⟨n + 1, ?_⟩, ?_, ?_, ?_, ?_, (n + 1) :: ids, (chip_inst.name, n + 1) :: map, ?_, ?_, ?_⟩
  · rw [isTop, isChips]
    exact filled_write assembling.chips thereTop
  · rw [isInsts]
    exact filled_write filled' (objs ▸ update_self _ _ _)
  · rw [isTop, isHash]
    exact assembling.hash
  · rw [isTop]
    exact assembling.fresh
  · intro other differ
    rw [isTop] at differ
    rw [oldChips other differ]
    exact assembling.old other differ
  · intro other found live
    exact keptInst other found (assembling.kept other found live)
  · rw [isTop, isChips, write_objs_self]
    rfl
  · rw [reverse_append, isTop]
    refine .cons ⟨inst, master, ?_, ?_, ?_, ?_, isLoc⟩ ?_
    · rw [isInsts, write_objs_self]
    · rw [isMaster]
      exact below
    · rw [isHash, isMaster]
      exact found
    · rw [isMaster, oldChips masterId (by omega)]
      exact thereMaster
    · apply placed.imp
      rintro other chip_inst ⟨inst, master, live, below, found, there, isLoc⟩
      refine ⟨inst, master, keptInst other inst live, below, ?_, ?_, isLoc⟩
      · rw [isHash]
        exact found
      · rw [oldChips _ (by omega)]
        exact there
  · intro other found live
    rw [isInsts] at live
    rcases write_cases live with ⟨rfl, _⟩ | ⟨differ, live⟩
    · exact .inr mem_cons_self
    · rw [objs, update_of_ne differ] at live
      rcases listed other found live with old | member
      · exact .inl old
      · exact .inr (mem_cons_of_mem _ member)

lemma assembling_insts {chip_insts : List ChipletInst} {value : Unit}
    (stack : StackRead done start) (assembling : Assembling start design read db)
    (ran : (forM chip_insts ThreeDBlox.createChipInst).exec db = (.ok value, db')) :
    db'.chip = db.chip ∧ Assembling start design (read ++ chip_insts) db' := by
  induction chip_insts generalizing read db with
  | nil =>
    cases ran
    rw [append_nil]
    exact ⟨rfl, assembling⟩
  | cons chip_inst chip_insts ih =>
    rw [forM_cons] at ran
    rcases bind_ok ran with ⟨_, mid, first, rest⟩
    rcases assembling_inst stack assembling first with ⟨sameTop, next⟩
    rcases ih next rest with ⟨laterTop, all⟩
    rw [append_cons]
    exact ⟨laterTop.trans sameTop, all⟩

lemma setSize_cuboid (merged : Option Cuboid) (ids : List Nat) (map : List (String × Nat)) :
    (ThreeDBlox.setSize merged (unsized design ids map)).getCuboid = sizedBox merged := by
  simp only [DbChip.getCuboid, DbChip.getBBox, ThreeDBlox.setSize, unsized, newChip, sizedBox,
    Rect.init, Cuboid.init, add_zero, Cuboid.mk.injEq, true_and, and_true]
  omega

lemma placedAs_write {top id : Nat} {chip : DbChip} {chip_inst : ChipletInst}
    (placed : PlacedAs db top id chip_inst) :
    PlacedAs { db with chip_tbl := db.chip_tbl.write top chip } top id chip_inst := by
  rcases placed with ⟨inst, master, live, below, found, there, isLoc⟩
  exact ⟨inst, master, live, below, found, (write_objs_ne (by omega)).trans there, isLoc⟩

lemma instCuboid_write {top id : Nat} {chip : DbChip} {chip_inst : ChipletInst}
    (placed : PlacedAs db top id chip_inst) :
    ({ db with chip_tbl := db.chip_tbl.write top chip } : ChipDatabase).getInstCuboid id =
      db.getInstCuboid id := by
  rcases placed with ⟨inst, master, live, below, _⟩
  simp only [ChipDatabase.getInstCuboid, live, Option.bind_eq_bind, Option.bind_some]
  rw [write_objs_ne (by omega)]

lemma stackRead_design {value : Unit} (stack : StackRead done start)
    (ran : (ThreeDBlox.readDesign design).exec start = (.ok value, db')) :
    StackRead (done ++ [.design design]) db' := by
  rcases bind_ok ran with ⟨id, first, ranTop, ranInsts⟩
  rcases assembling_start stack ranTop with ⟨absent, isTop, begun⟩
  rcases bind_ok ranInsts with ⟨_, db, ranInsts, ranSize⟩
  rcases assembling_insts stack begun ranInsts with ⟨sameTop, assembling⟩
  rw [nil_append] at assembling
  rw [← isTop, ← sameTop] at ranSize
  rcases calculateSize_ok ranSize with ⟨chip, cuboids, there, are, rfl⟩
  rcases assembling.top with ⟨ids, map, thereTop, placed, listed⟩
  rw [thereTop] at there
  cases there
  have hash := assembling.hash
  have oldChips : ∀ id, id ≠ db.chip → (db.chip_tbl.write db.chip (ThreeDBlox.setSize
      (Cuboid.mergeAll cuboids) (unsized design ids map))).objs id = start.chip_tbl.objs id := by
    intro id differ
    rw [write_objs_ne differ, assembling.old id differ]
  have startNe : ∀ id chip, start.chip_tbl.objs id = some chip → id ≠ db.chip := by
    rintro id chip there rfl
    rw [assembling.fresh] at there
    cases there
  have undisturbed : Undisturbed start { db with
      chip_tbl := db.chip_tbl.write db.chip
        (ThreeDBlox.setSize (Cuboid.mergeAll cuboids) (unsized design ids map)) } := by
    refine ⟨?_, ?_, assembling.kept⟩
    · intro name id found
      change db.chip_hash.lookup name = _
      rw [hash]
      exact lookup_cons_ne absent found
    · intro id chip there
      exact ⟨chip, (oldChips id (startNe id chip there)).trans there, rfl, rfl, rfl, rfl⟩
  refine ⟨⟨db.chip, filled_write assembling.chips thereTop⟩, assembling.insts, ?_, ?_, ?_, ?_, ?_⟩
  · intro name id found
    change db.chip_hash.lookup name = _ at found
    rw [hash, lookup_cons] at found
    split at found
    · rename_i isName
      cases found
      exact ⟨_, write_objs_self, (beq_iff_eq.mp isName).symm⟩
    · rcases stack.named name id found with ⟨chip, there, isName⟩
      exact ⟨chip, (oldChips id (startNe id chip there)).trans there, isName⟩
  · intro id chip there
    change db.chip_hash.lookup _ = _
    rw [hash]
    rcases write_cases there with ⟨rfl, rfl⟩ | ⟨differ, there⟩
    · exact lookup_cons_self
    · rw [assembling.old id differ] at there
      exact lookup_cons_ne absent (stack.hashed id chip there)
  · intro id inst live
    rcases listed id inst live with old | member
    · rcases stack.parents id inst old with ⟨parentId, parent, there, member⟩
      exact ⟨parentId, parent, (oldChips _ (startNe _ _ there)).trans there, member⟩
    · exact ⟨db.chip, _, write_objs_self, member⟩
  · intro id chip there
    rcases write_cases there with ⟨rfl, rfl⟩ | ⟨differ, there⟩
    · exact .inl ⟨design, mem_append_right done (mem_singleton_self _), rfl⟩
    · rw [assembling.old id differ] at there
      exact origins_mono (stack.origins id chip there)
  · intro other member
    rcases mem_append.mp member with member | member
    · exact undisturbed_assembled undisturbed (stack.designs other member)
    · rw [mem_singleton] at member
      cases member
      refine ⟨db.chip, _, cuboids, ?_, write_objs_self, rfl, ?_, ?_, setSize_cuboid _ ids map⟩
      · change db.chip_hash.lookup _ = _
        rw [hash]
        exact lookup_cons_self
      · exact placed.imp fun _ _ => placedAs_write
      · rw [forall₂_mapM] at are ⊢
        apply forall₂_weaken are
        intro id member cuboid is
        rcases forall₂_left placed member with ⟨chip_inst, _, isPlaced⟩
        rw [instCuboid_write isPlaced]
        exact is

end Designs

def stepItem (db : ChipDatabase) (item : StackItem) : ChipDatabase :=
  ((ThreeDBlox.readItem item).exec db).2

lemma stackRead_empty : StackRead [] ChipDatabase.empty where
  chips := ⟨0, filled_empty kChipPage⟩
  insts := ⟨0, filled_empty kTablePage⟩
  named := fun _ _ found => nomatch found
  hashed := fun _ _ there => nomatch there
  parents := fun _ _ live => nomatch live
  origins := fun _ _ there => nomatch there
  designs := fun _ member => nomatch member

lemma stackRead_item {done : List StackItem} {item : StackItem} {db db' : ChipDatabase}
    {value : Unit} (read : StackRead done db) (keeps : KeepsSizes db item)
    (ran : (ThreeDBlox.readItem item).exec db = (.ok value, db')) :
    StackRead (done ++ [item]) db' := by
  cases item with
  | chiplet chiplet => exact stackRead_chiplet read keeps ran
  | design design => exact stackRead_design read ran

lemma stackRead_items {done items : List StackItem} {db db' : ChipDatabase} {value : Unit}
    (read : StackRead done db) (keeps : EachCall stepItem KeepsSizes db items)
    (ran : (forM items ThreeDBlox.readItem).exec db = (.ok value, db')) :
    StackRead (done ++ items) db' := by
  induction items generalizing done db with
  | nil =>
    cases ran
    rw [append_nil]
    exact read
  | cons item items ih =>
    rw [forM_cons] at ran
    rcases bind_ok ran with ⟨_, mid, first, rest⟩
    rcases (eachCall_cons item items).mp keeps with ⟨keepsFirst, keepsRest⟩
    have isMid : stepItem db item = mid := congrArg Prod.snd first
    rw [isMid] at keepsRest
    rw [append_cons]
    exact ih (stackRead_item read keepsFirst first) keepsRest rest

end OpenRoad.Odb
