import OpenRoad.Odb.StackCover

/-! Which stacks have hierarchical chips that cover their content. -/

namespace OpenRoad.Odb

open OpenRoad.Lib OpenRoad.Lib.Effect List ChipDatabase StackFile ThreeDBlox DbTransform

section Boxes

variable {db : ChipDatabase}

/-- The box of every chip that an instance stands for covers the boxes of the chip's instances. -/
def Fitted (db : ChipDatabase) (chip : DbChip) : Prop :=
  ∀ sub ∈ chip.chipinsts, ∀ c, db.getInstCuboid sub = some c → chip.getCuboid.Covers c

lemma instCuboid_live {id : Nat} {inst : DbChipInst} {master : DbChip}
    (live : db.chip_inst_tbl.objs id = some inst)
    (there : db.chip_tbl.objs inst.master_chip = some master) :
    db.getInstCuboid id = some ((instTransform db id).applyCuboid master.getCuboid) := by
  rw [getInstCuboid, instTransform, live]
  simp only [there, Option.bind_eq_bind, Option.bind_some, Option.elim_some]

lemma getCuboid_upright (chip : DbChip) : chip.getCuboid.Upright := Cuboid.init_upright _ _ _ _ _ _

lemma pathTransform_cons (id : Nat) (rest : List Nat) (c : Cuboid) :
    (pathTransform db (id :: rest)).applyCuboid c =
      (instTransform db id).applyCuboid ((pathTransform db rest).applyCuboid c) := by
  rw [← singleton_append, pathTransform_append, pathTransform_singleton]

lemma fitted_covers (fits : ∀ id inst master, db.chip_inst_tbl.objs id = some inst →
      db.chip_tbl.objs inst.master_chip = some master → Fitted db master)
    {chipId : Nat} {rest : List Nat} (path : LeafPath db chipId rest) :
    ∀ chip leaf, db.chip_tbl.objs chipId = some chip → Fitted db chip → LeafAt db rest leaf →
      chip.getCuboid.Covers ((pathTransform db rest).applyCuboid leaf.getCuboid) := by
  induction path with
  | @last chipId id chip inst master there member live thereMaster _ =>
    intro chip' leaf there' fitted leafAt
    rw [there] at there'
    cases there'
    rcases leafAt with ⟨inst', live', thereLeaf⟩
    rw [getLast?_singleton, Option.bind_some, live] at live'
    cases live'
    rw [thereMaster] at thereLeaf
    cases thereLeaf
    rw [pathTransform_singleton]
    exact fitted id member _ (instCuboid_live live thereMaster)
  | @down chipId id chip inst master rest there member live thereMaster _ below ih =>
    intro chip' leaf there' fitted leafAt
    rw [there] at there'
    cases there'
    have isLast : (id :: rest).getLast? = rest.getLast? := by
      cases below <;> rfl
    rw [LeafAt, isLast] at leafAt
    have inner := ih master leaf thereMaster (fits id inst master live thereMaster) leafAt
    rw [pathTransform_cons]
    apply Cuboid.covers_trans (fitted id member _ (instCuboid_live live thereMaster))
    exact (covers_apply _ (getCuboid_upright master)
      (applyCuboid_upright _ _)).mpr inner

end Boxes

section Stacks

variable {items : List StackItem} {db : ChipDatabase}

lemma anchored_fitted (read : StackRead items db) (anchored : Anchored items) {id : Nat}
    {inst : DbChipInst} {master : DbChip} (live : db.chip_inst_tbl.objs id = some inst)
    (there : db.chip_tbl.objs inst.master_chip = some master) : Fitted db master := by
  intro sub member c isBox
  rcases design_of_member read there member with ⟨design, inItems, isName⟩
  rcases boxed read inItems there isName (ne_nil_of_mem member) with ⟨cuboids, merged, boxed⟩
  rcases asked_for read live there with ⟨user, inUsers, chip_inst, asks, isReference⟩
  have nonempty : design.chiplet_instances ≠ [] := by
    rcases assembled_chip read inItems there isName with ⟨_, placed, _⟩
    rcases forall₂_left placed member with ⟨other, inReverse, _⟩
    exact ne_nil_of_mem (mem_reverse.mp inReverse)
  have atOrigin := anchored design inItems nonempty
    ⟨user, inUsers, chip_inst, asks, isReference.trans isName.symm⟩
  rw [boxed.size, (sizedBox_merged boxed.upright).1 (boxed.origin.mp atOrigin)]
  rcases forall₂_left boxed.boxes member with ⟨c', inCuboids, isBox'⟩
  rw [isBox] at isBox'
  cases isBox'
  exact boxed.isMerged.covers c inCuboids

lemma locationsKept (read : StackRead items db) : LocationsKept db := by
  intro id inst live loc
  rcases read.parents id inst live with ⟨parentId, parent, thereParent, member⟩
  rcases design_of_member read thereParent member with ⟨user, inItems, isName⟩
  rcases assembled_chip read inItems thereParent isName with ⟨_, placed, _⟩
  rcases forall₂_left placed member with ⟨_, _, inst', master, live', _, _, there, _⟩
  rw [live] at live'
  cases live'
  exact setLoc_exec live there loc

lemma anchored_covered (read : StackRead items db) (anchored : Anchored items) :
    ContentCovered db := by
  intro id inst master box live there _ isBox above rest leaf path leafAt
  rw [instCuboid_live live there] at isBox
  cases isBox
  rw [pathTransform_append, pathTransform_cons]
  have fits : ∀ id inst master, db.chip_inst_tbl.objs id = some inst →
      db.chip_tbl.objs inst.master_chip = some master → Fitted db master :=
    fun _ _ _ live there => anchored_fitted read anchored live there
  have inner := fitted_covers fits path master leaf there (fits id inst master live there) leafAt
  rw [covers_apply _ (applyCuboid_upright _ _)
    (applyCuboid_upright _ _), covers_apply _ (getCuboid_upright master)
    (applyCuboid_upright _ _)]
  exact inner

def CoversBelow (db : ChipDatabase) (chipId : Nat) (box : Cuboid) : Prop :=
  ∀ rest leaf, LeafPath db chipId rest → LeafAt db rest leaf →
    box.Covers ((pathTransform db rest).applyCuboid leaf.getCuboid)

lemma coversBelow_down {chipId id : Nat} {chip master : DbChip} {inst : DbChipInst} {box : Cuboid}
    (there : db.chip_tbl.objs chipId = some chip) (member : id ∈ chip.chipinsts)
    (live : db.chip_inst_tbl.objs id = some inst)
    (thereMaster : db.chip_tbl.objs inst.master_chip = some master) (hier : master.type = .HIER)
    (upright : box.Upright) (covers : CoversBelow db chipId box) :
    CoversBelow db inst.master_chip ((instTransform db id).inverse.applyCuboid box) := by
  intro rest leaf path leafAt
  have isLast : (id :: rest).getLast? = rest.getLast? := by
    cases path <;> rfl
  have outer := covers (id :: rest) leaf (.down there member live thereMaster hier path)
    (by rw [LeafAt, isLast]; exact leafAt)
  rw [pathTransform_cons] at outer
  rw [← covers_apply (instTransform db id) (applyCuboid_upright _ _)
    (applyCuboid_upright _ _), applyCuboid_inverse _ upright]
  exact outer

lemma coversBelow_of_covered (covered : ContentCovered db) {id : Nat} {inst : DbChipInst}
    {master : DbChip} (live : db.chip_inst_tbl.objs id = some inst)
    (there : db.chip_tbl.objs inst.master_chip = some master) (hier : master.type = .HIER) :
    CoversBelow db inst.master_chip master.getCuboid := by
  intro rest leaf path leafAt
  have outer := covered id inst master _ live there hier (instCuboid_live live there) [] rest leaf
    path leafAt
  rw [nil_append, pathTransform_cons] at outer
  have same : ∀ c : Cuboid, c.Upright → (pathTransform db []).applyCuboid c = c :=
    fun c upright => applyCuboid_identity upright
  rw [same _ (applyCuboid_upright _ _)] at outer
  exact (covers_apply _ (getCuboid_upright master)
    (applyCuboid_upright _ _)).mp outer

lemma boxed_hier (read : StackRead items db) (solid : Solid items) {id : Nat} {chip : DbChip}
    (there : db.chip_tbl.objs id = some chip) (hier : chip.type = .HIER) :
    ∃ design cuboids merged, .design design ∈ items ∧ design.name = chip.name ∧
      Forall₂ (PlacedAs db id) chip.chipinsts design.chiplet_instances.reverse ∧
      Boxed db design chip cuboids merged := by
  rcases read.origins id chip there with ⟨design, inItems, isName⟩ | ⟨_, origin⟩
  · rcases assembled_chip read inItems there isName with ⟨_, placed, _⟩
    have nonempty : chip.chipinsts ≠ [] := by
      intro bare
      rw [bare, forall₂_nil_left_iff, reverse_eq_nil_iff] at placed
      exact solid.designs design inItems placed
    rcases boxed read inItems there isName nonempty with ⟨cuboids, merged, boxed⟩
    exact ⟨design, cuboids, merged, inItems, isName, placed, boxed⟩
  · rcases origin hier with ⟨chiplet, inItems, isHier⟩
    exact absurd isHier (solid.chiplets chiplet inItems)

lemma content_least (read : StackRead items db) (solid : Solid items)
    (covered : ContentCovered db) (chipId : Nat) :
    ∀ chip design cuboids merged box, db.chip_tbl.objs chipId = some chip →
      Forall₂ (PlacedAs db chipId) chip.chipinsts design.chiplet_instances.reverse →
      Boxed db design chip cuboids merged → box.Upright → CoversBelow db chipId box →
      box.Covers merged := by
  induction chipId using Nat.strong_induction_on with
  | _ chipId ih =>
    intro chip design cuboids merged box there placed boxed upright covers
    apply merged_least boxed.isMerged
    intro c inCuboids
    rcases forall₂_right boxed.boxes inCuboids with ⟨id, member, isBox⟩
    rcases forall₂_left placed member with ⟨_, _, inst, master, live, below, _, thereMaster, _⟩
    rw [instCuboid_live live thereMaster] at isBox
    cases isBox
    by_cases hier : master.type = .HIER
    · rcases boxed_hier read solid thereMaster hier with
        ⟨inner, innerCuboids, innerMerged, _, _, innerPlaced, innerBoxed⟩
      have least := fun box => ih inst.master_chip below master inner innerCuboids innerMerged box
        thereMaster innerPlaced innerBoxed
      have own := least master.getCuboid (getCuboid_upright master)
        (coversBelow_of_covered covered live thereMaster hier)
      rw [innerBoxed.size] at own
      have corner := (sizedBox_merged innerBoxed.upright).2 own
      have isSize := (sizedBox_merged innerBoxed.upright).1 corner
      have moved := least _ (applyCuboid_upright _ _)
        (coversBelow_down there member live thereMaster hier upright covers)
      rw [innerBoxed.size, isSize]
      rw [← covers_apply (instTransform db id) (applyCuboid_upright _ _)
        innerBoxed.upright, applyCuboid_inverse _ upright] at moved
      exact moved
    · have leafAt : LeafAt db [id] master := ⟨inst, live, thereMaster⟩
      have direct := covers [id] master (.last there member live thereMaster hier) leafAt
      rw [pathTransform_singleton] at direct
      exact direct

lemma covered_anchored (read : StackRead items db) (solid : Solid items)
    (covered : ContentCovered db) : Anchored items := by
  rintro design inItems _ ⟨user, inUsers, chip_inst, asks, isReference⟩
  rcases read.designs user inUsers with ⟨userId, userChip, _, _, thereUser, _, placedUser, _⟩
  rcases forall₂_right placedUser (mem_reverse.mpr asks) with
    ⟨id, _, inst, master, live, _, found, there, _⟩
  rcases read.designs design inItems with ⟨designId, chip, _, foundDesign, thereChip, hier, placed, _⟩
  rw [isReference, foundDesign] at found
  cases found
  rw [thereChip] at there
  cases there
  have isName : design.name = master.name := by
    rcases read.named _ _ foundDesign with ⟨named, thereNamed, isName⟩
    rw [thereChip] at thereNamed
    cases thereNamed
    exact isName.symm
  have nonempty : master.chipinsts ≠ [] := by
    intro bare
    rw [bare, forall₂_nil_left_iff, reverse_eq_nil_iff] at placed
    exact solid.designs design inItems placed
  rcases boxed read inItems thereChip isName nonempty with ⟨cuboids, merged, boxed⟩
  have least := content_least read solid covered inst.master_chip master design cuboids merged
    master.getCuboid thereChip placed boxed (getCuboid_upright master)
    (coversBelow_of_covered covered live thereChip hier)
  rw [boxed.size] at least
  exact boxed.origin.mpr ((sizedBox_merged boxed.upright).2 least)

end Stacks

lemma solid_keepsSizes {items : List StackItem} (solid : Solid items) (db : ChipDatabase) :
    EachCall stepItem KeepsSizes db items := by
  intro front item isFront
  have member : item ∈ items := by
    apply isFront.subset
    exact mem_append_right front (mem_singleton_self item)
  cases item with
  | design design => trivial
  | chiplet chiplet => exact fun isHier => absurd isHier (solid.chiplets chiplet member)

/-- The hierarchical chips cover their content if designs start at the origin and none is resized
later. -/
theorem stack_covers_iff (file : StackFile) (db : ChipDatabase)
    (ran : (readFile file).exec empty = (.ok (), db)) :
    (EachCall stepItem KeepsSizes empty file.items → Anchored file.items →
        ContentCovered db ∧ LocationsKept db) ∧
      (Solid file.items → (ContentCovered db ∧ LocationsKept db ↔ Anchored file.items)) := by
  rw [ThreeDBlox.readFile_items] at ran
  have reads : EachCall stepItem KeepsSizes empty file.items →
      StackRead file.items db := fun keeps => stackRead_items stackRead_empty keeps ran
  constructor
  · intro keeps anchored
    exact ⟨anchored_covered (reads keeps) anchored, locationsKept (reads keeps)⟩
  · intro solid
    have read := reads (solid_keepsSizes solid _)
    constructor
    · intro covers
      exact covered_anchored read solid covers.1
    · intro anchored
      exact ⟨anchored_covered read anchored, locationsKept read⟩

/-- A die at `x` in a chip that stands at the origin of the top chip. -/
def dieStack (x : Int) : StackFile :=
  .dbx [.dbx [.dbv [] [⟨"die", "die", 1, some 10, some 10, some 1, none, none⟩]]
      ⟨"base", [⟨"d", "die", "R0".toList, ⟨x, 0, 0⟩⟩]⟩]
    ⟨"top", [⟨"b", "base", "MZ".toList, ⟨0, 0, 0⟩⟩]⟩

lemma dieStack_solid (x : Int) : Solid (dieStack x).items := by
  constructor <;> simp [dieStack, items, includedItems]

lemma exec_of_toBool {m : ChipM Unit} {db : ChipDatabase} (ok : (m.exec db).1.toBool = true) :
    m.exec db = (.ok (), (m.exec db).2) := by
  rcases ran : m.exec db with ⟨fault | value, db'⟩
  · rw [ran] at ok
    cases ok
  · rfl

lemma dieStack_anchored : Anchored (dieStack 0).items := by
  rintro design inItems _ ⟨user, inUsers, chip_inst, asks, isReference⟩
  simp only [dieStack, items, includedItems, map_cons, map_nil,
    nil_append, append_nil, cons_append, mem_cons, not_mem_nil, or_false,
    reduceCtorEq, false_or, StackItem.design.injEq] at inItems inUsers
  rcases inItems with rfl | rfl
  · exact ⟨rfl, rfl, rfl⟩
  · rcases inUsers with rfl | rfl
    · rw [mem_singleton.mp asks] at isReference
      exact absurd isReference (by decide)
    · rw [mem_singleton.mp asks] at isReference
      exact absurd isReference (by decide)

theorem dieStack_covered : ∃ db, (readFile (dieStack 0)).exec empty =
    (.ok (), db) ∧ ContentCovered db ∧ LocationsKept db := by
  have ran : (readFile (dieStack 0)).exec empty = _ :=
    exec_of_toBool (by decide)
  exact ⟨_, ran, ((stack_covers_iff (dieStack 0) _ ran).2 (dieStack_solid 0)).mpr dieStack_anchored⟩

/-- With the die at 5 the base is 10 wide and reaches from 0 to 10, the die to 15. -/
theorem shiftedDie_uncovered : ∃ db, (readFile (dieStack 5)).exec empty =
    (.ok (), db) ∧ ¬ ContentCovered db := by
  have ran : (readFile (dieStack 5)).exec empty = _ :=
    exec_of_toBool (by decide)
  refine ⟨_, ran, ?_⟩
  intro covered
  rw [ThreeDBlox.readFile_items] at ran
  have solid := dieStack_solid 5
  have read := stackRead_items stackRead_empty (solid_keepsSizes solid _) ran
  have anchored := covered_anchored read solid covered
  have atOrigin := anchored ⟨"base", [⟨"d", "die", "R0".toList, ⟨5, 0, 0⟩⟩]⟩
    (by simp [dieStack, items, includedItems]) (by simp)
    ⟨⟨"top", [⟨"b", "base", "MZ".toList, ⟨0, 0, 0⟩⟩]⟩,
      by simp [dieStack, items, includedItems], by simp⟩
  have lowest : ([5] : List Int).min? = some 0 := atOrigin.x
  exact absurd lowest (by decide)

end OpenRoad.Odb
