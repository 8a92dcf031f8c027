import OpenRoad.Odb.StackRuns

/-! A hierarchical chip covers its content when its design starts at the origin. -/

namespace OpenRoad.Odb

open OpenRoad.Lib OpenRoad.Lib.Effect List Cuboid ChipDatabase
open Option hiding map_map mem_map

def LeafAt (db : ChipDatabase) (path : List Nat) (leaf : DbChip) : Prop :=
  ∃ inst, path.getLast?.bind db.chip_inst_tbl.objs = some inst ∧
    db.chip_tbl.objs inst.master_chip = some leaf

/-- The box of an instance of a hierarchical chip covers every chip below it. -/
def ContentCovered (db : ChipDatabase) : Prop :=
  ∀ id inst master box, db.chip_inst_tbl.objs id = some inst →
    db.chip_tbl.objs inst.master_chip = some master → master.type = .HIER →
    db.getInstCuboid id = some box →
    ∀ above rest leaf, LeafPath db inst.master_chip rest → LeafAt db rest leaf →
      ((pathTransform db above).applyCuboid box).Covers
        ((pathTransform db (above ++ id :: rest)).applyCuboid leaf.getCuboid)

def LocationsKept (db : ChipDatabase) : Prop :=
  ∀ id inst, db.chip_inst_tbl.objs id = some inst → ∀ loc, ∃ db',
    (dbChipInst_setLoc id loc).exec db = (.ok (), db') ∧ db'.getInstLoc id = some loc

structure AtOrigin (design : DesignDef) : Prop where
  x : (design.chiplet_instances.map (·.loc.x)).min? = some 0
  y : (design.chiplet_instances.map (·.loc.y)).min? = some 0
  z : (design.chiplet_instances.map (·.loc.z)).min? = some 0

def Anchored (items : List StackItem) : Prop :=
  ∀ design, .design design ∈ items → design.chiplet_instances ≠ [] → (∃ user, .design user ∈ items ∧
      ∃ chip_inst ∈ user.chiplet_instances, chip_inst.reference = design.name) →
    AtOrigin design

/-- Only designs are hierarchical, and none is empty. -/
structure Solid (items : List StackItem) : Prop where
  chiplets : ∀ chiplet, .chiplet chiplet ∈ items → chiplet.type ≠ "hier"
  designs : ∀ design, .design design ∈ items → design.chiplet_instances ≠ []

structure MergedBox (cuboids : List Cuboid) (merged : Cuboid) : Prop where
  covers : ∀ c ∈ cuboids, merged.Covers c
  xlo : ∃ c ∈ cuboids, c.xlo = merged.xlo
  ylo : ∃ c ∈ cuboids, c.ylo = merged.ylo
  zlo : ∃ c ∈ cuboids, c.zlo = merged.zlo
  xhi : ∃ c ∈ cuboids, c.xhi = merged.xhi
  yhi : ∃ c ∈ cuboids, c.yhi = merged.yhi
  zhi : ∃ c ∈ cuboids, c.zhi = merged.zhi

lemma merge_covers (a b : Cuboid) : (a.merge b).Covers a ∧ (a.merge b).Covers b :=
  ⟨⟨min_le_left _ _, min_le_left _ _, min_le_left _ _, le_max_left _ _, le_max_left _ _,
    le_max_left _ _⟩, ⟨min_le_right _ _, min_le_right _ _, min_le_right _ _, le_max_right _ _,
    le_max_right _ _, le_max_right _ _⟩⟩

lemma bound_of_merge {bound : Cuboid → Int} {a b : Cuboid} {cuboids : List Cuboid} {value : Int}
    (choice : bound (a.merge b) = bound a ∨ bound (a.merge b) = bound b)
    (attained : ∃ c ∈ a.merge b :: cuboids, bound c = value) :
    ∃ c ∈ a :: b :: cuboids, bound c = value := by
  rcases attained with ⟨c, member, is⟩
  rcases mem_cons.mp member with rfl | member
  · rcases choice with same | same
    · exact ⟨a, mem_cons_self, same.symm.trans is⟩
    · exact ⟨b, mem_cons_of_mem a mem_cons_self, same.symm.trans is⟩
  · exact ⟨c, mem_cons_of_mem a (mem_cons_of_mem b member), is⟩

lemma foldl_merged (first : Cuboid) (cuboids : List Cuboid) :
    ∃ merged, cuboids.foldl (fun cuboid b => some (cuboid.elim b (·.merge b))) (some first) =
      some merged ∧ MergedBox (first :: cuboids) merged := by
  induction cuboids generalizing first with
  | nil =>
    refine ⟨first, rfl, ?_, ⟨first, mem_cons_self, rfl⟩, ⟨first, mem_cons_self, rfl⟩,
      ⟨first, mem_cons_self, rfl⟩, ⟨first, mem_cons_self, rfl⟩,
      ⟨first, mem_cons_self, rfl⟩, ⟨first, mem_cons_self, rfl⟩⟩
    intro c member
    rw [mem_singleton.mp member]
    exact covers_refl first
  | cons b cuboids ih =>
    rcases ih (first.merge b) with ⟨merged, is, box⟩
    refine ⟨merged, is, ?_, bound_of_merge (min_choice _ _) box.xlo,
      bound_of_merge (min_choice _ _) box.ylo, bound_of_merge (min_choice _ _) box.zlo,
      bound_of_merge (max_choice _ _) box.xhi, bound_of_merge (max_choice _ _) box.yhi,
      bound_of_merge (max_choice _ _) box.zhi⟩
    have both := box.covers (first.merge b) mem_cons_self
    intro c member
    rcases mem_cons.mp member with rfl | member
    · exact covers_trans both (merge_covers _ b).1
    · rcases mem_cons.mp member with rfl | member
      · exact covers_trans both (merge_covers first _).2
      · exact box.covers c (mem_cons_of_mem _ member)

lemma mergeAll_merged {cuboids : List Cuboid} (some_box : cuboids ≠ []) :
    ∃ merged, mergeAll cuboids = some merged ∧ MergedBox cuboids merged := by
  cases cuboids with
  | nil => exact absurd rfl some_box
  | cons first cuboids => exact foldl_merged first cuboids

section Merged

variable {cuboids : List Cuboid} {merged box : Cuboid}

lemma merged_least (isMerged : MergedBox cuboids merged)
    (covers : ∀ c ∈ cuboids, box.Covers c) : box.Covers merged := by
  rcases isMerged.xlo with ⟨c1, in1, is1⟩
  rcases isMerged.ylo with ⟨c2, in2, is2⟩
  rcases isMerged.zlo with ⟨c3, in3, is3⟩
  rcases isMerged.xhi with ⟨c4, in4, is4⟩
  rcases isMerged.yhi with ⟨c5, in5, is5⟩
  rcases isMerged.zhi with ⟨c6, in6, is6⟩
  exact ⟨is1 ▸ (covers c1 in1).xlo, is2 ▸ (covers c2 in2).ylo, is3 ▸ (covers c3 in3).zlo,
    is4 ▸ (covers c4 in4).xhi, is5 ▸ (covers c5 in5).yhi, is6 ▸ (covers c6 in6).zhi⟩

lemma merged_upright (isMerged : MergedBox cuboids merged)
    (upright : ∀ c ∈ cuboids, c.Upright) : merged.Upright := by
  rcases isMerged.xlo with ⟨c, member, _⟩
  exact upright_of_covers (isMerged.covers c member) (upright c member)

lemma sizedBox_merged (upright : merged.Upright) :
    (merged.lll = ⟨0, 0, 0⟩ → sizedBox (some merged) = merged) ∧
      ((sizedBox (some merged)).Covers merged → merged.lll = ⟨0, 0, 0⟩) := by
  rcases merged with ⟨xlo, ylo, zlo, xhi, yhi, zhi⟩
  rcases upright with ⟨x, y, z⟩
  simp only [lll, Point3D.mk.injEq, sizedBox, dx, dy, dz,
    extent, elim_some, init, Cuboid.mk.injEq] at *
  constructor
  · rintro ⟨rfl, rfl, rfl⟩
    omega
  · rintro ⟨h1, h2, h3, h4, h5, h6⟩
    simp only at h1 h2 h3 h4 h5 h6
    omega

end Merged

lemma setLoc_exec {db : ChipDatabase} {id : Nat} {inst : DbChipInst} {master : DbChip}
    (live : db.chip_inst_tbl.objs id = some inst)
    (there : db.chip_tbl.objs inst.master_chip = some master) (loc : Point3D) :
    ∃ db', (dbChipInst_setLoc id loc).exec db = (.ok (), db') ∧ db'.getInstLoc id = some loc := by
  rw [dbChipInst_setLoc, exec_bind_ok _ (getChipInst_some live),
    exec_bind_ok _ (getChip_some there), modifyChipInst, exec_bind_ok _ (getChipInst_some live)]
  refine ⟨_, exec_modify _ _, ?_⟩
  rw [getInstLoc, getInstCuboid]
  simp only [write_objs_self, bind_eq_bind, bind_some, there, map_some,
    DbChipInst.getTransform, some.injEq]
  exact setLoc_lll inst master loc

section Designs

variable {items : List StackItem} {db : ChipDatabase} {id : Nat} {inst : DbChipInst}
  {chip master : DbChip} {design : DesignDef}

lemma instCuboid_some {box : Cuboid} (is : db.getInstCuboid id = some box) :
    ∃ inst master, db.chip_inst_tbl.objs id = some inst ∧
      db.chip_tbl.objs inst.master_chip = some master ∧
      box = (instTransform db id).applyCuboid master.getCuboid := by
  rw [getInstCuboid] at is
  simp only [bind_eq_bind, bind_eq_some_iff, some.injEq] at is
  rcases is with ⟨inst, live, master, there, rfl⟩
  refine ⟨inst, master, live, there, ?_⟩
  rw [instTransform, live]
  rfl

lemma assembled_chip (read : StackRead items db) (member : .design design ∈ items)
    (there : db.chip_tbl.objs id = some chip) (name : design.name = chip.name) :
    ∃ cuboids, Forall₂ (PlacedAs db id) chip.chipinsts design.chiplet_instances.reverse ∧
      Forall₂ (fun sub c => db.getInstCuboid sub = some c) chip.chipinsts cuboids ∧
      chip.getCuboid = sizedBox (mergeAll cuboids) := by
  rcases read.designs design member with ⟨id', chip', cuboids, found, there', _, placed, are, size⟩
  rw [name, read.hashed id chip there] at found
  cases found
  rw [there] at there'
  cases there'
  exact ⟨cuboids, placed, forall₂_mapM.mp are, size⟩

lemma design_of_member (read : StackRead items db) (there : db.chip_tbl.objs id = some chip)
    {sub : Nat} (member : sub ∈ chip.chipinsts) :
    ∃ design, .design design ∈ items ∧ design.name = chip.name := by
  rcases read.origins id chip there with origin | ⟨bare, _⟩
  · exact origin
  · rw [bare] at member
    cases member

lemma asked_for (read : StackRead items db) (live : db.chip_inst_tbl.objs id = some inst)
    (there : db.chip_tbl.objs inst.master_chip = some master) :
    ∃ user, .design user ∈ items ∧
      ∃ chip_inst ∈ user.chiplet_instances, chip_inst.reference = master.name := by
  rcases read.parents id inst live with ⟨parentId, parent, thereParent, member⟩
  rcases design_of_member read thereParent member with ⟨user, inItems, isName⟩
  rcases assembled_chip read inItems thereParent isName with ⟨_, placed, _⟩
  rcases forall₂_left placed member with ⟨chip_inst, inUser, inst', master', live', _, found,
    there', _⟩
  rw [live] at live'
  cases live'
  rw [there] at there'
  cases there'
  rcases read.named _ _ found with ⟨named, thereNamed, isReference⟩
  rw [there] at thereNamed
  cases thereNamed
  exact ⟨user, inItems, chip_inst, mem_reverse.mp inUser, isReference.symm⟩

lemma corners_locs {cuboids : List Cuboid} {ids : List Nat} {insts : List ChipletInst}
    (placed : Forall₂ (PlacedAs db id) ids insts)
    (are : Forall₂ (fun sub c => db.getInstCuboid sub = some c) ids cuboids) :
    cuboids.map lll = insts.map (·.loc) := by
  induction placed generalizing cuboids with
  | nil =>
    cases are
    rfl
  | cons isPlaced _ ih =>
    cases are with
    | cons is rest =>
      rcases isPlaced with ⟨inst, master, live, _, _, there, isLoc⟩
      rw [getInstCuboid] at is
      simp only [live, there, bind_eq_bind, bind_some, some.injEq] at is
      rw [map_cons, map_cons, ← is, isLoc, ih rest]

lemma lowest_corner {cuboids : List Cuboid} {merged : Cuboid} {locs : List Point3D}
    (corners : cuboids.map lll = locs.reverse) (axis : Point3D → Int)
    (least : ∀ c ∈ cuboids, axis merged.lll ≤ axis c.lll)
    (attained : ∃ c ∈ cuboids, axis c.lll = axis merged.lll) :
    (locs.map axis).min? = some (axis merged.lll) := by
  have inLocs : ∀ loc, loc ∈ locs ↔ ∃ c ∈ cuboids, c.lll = loc := by
    intro loc
    rw [← mem_reverse, ← corners, mem_map]
  rw [min?_eq_some_iff]
  constructor
  · rcases attained with ⟨c, member, is⟩
    exact mem_map.mpr ⟨c.lll, (inLocs _).mpr ⟨c, member, rfl⟩, is⟩
  · intro value member
    rcases mem_map.mp member with ⟨loc, inside, rfl⟩
    rcases (inLocs loc).mp inside with ⟨c, inCuboids, rfl⟩
    exact least c inCuboids

lemma atOrigin_iff {cuboids : List Cuboid} {merged : Cuboid} (isMerged : MergedBox cuboids merged)
    (corners : cuboids.map lll = (design.chiplet_instances.map (·.loc)).reverse) :
    AtOrigin design ↔ merged.lll = ⟨0, 0, 0⟩ := by
  have x := lowest_corner corners Point3D.x (fun c member => (isMerged.covers c member).xlo)
    isMerged.xlo
  have y := lowest_corner corners Point3D.y (fun c member => (isMerged.covers c member).ylo)
    isMerged.ylo
  have z := lowest_corner corners Point3D.z (fun c member => (isMerged.covers c member).zlo)
    isMerged.zlo
  rw [map_map] at x y z
  constructor
  · intro origin
    have atX := some.inj (x.symm.trans origin.x)
    have atY := some.inj (y.symm.trans origin.y)
    have atZ := some.inj (z.symm.trans origin.z)
    rw [lll] at atX atY atZ ⊢
    rw [Point3D.mk.injEq]
    exact ⟨atX, atY, atZ⟩
  · intro corner
    rw [corner] at x y z
    exact ⟨x, y, z⟩

/-- A chip of a design that has instances: the boxes of these, and the least box around them. -/
structure Boxed (db : ChipDatabase) (design : DesignDef) (chip : DbChip) (cuboids : List Cuboid)
    (merged : Cuboid) : Prop where
  boxes : List.Forall₂ (fun sub c => db.getInstCuboid sub = some c) chip.chipinsts cuboids
  isMerged : MergedBox cuboids merged
  upright : merged.Upright
  size : chip.getCuboid = sizedBox (some merged)
  origin : AtOrigin design ↔ merged.lll = ⟨0, 0, 0⟩

lemma boxed (read : StackRead items db) (member : .design design ∈ items)
    (there : db.chip_tbl.objs id = some chip) (name : design.name = chip.name)
    (nonempty : chip.chipinsts ≠ []) : ∃ cuboids merged, Boxed db design chip cuboids merged := by
  rcases assembled_chip read member there name with ⟨cuboids, placed, are, size⟩
  have some_box : cuboids ≠ [] := by
    rintro rfl
    exact nonempty (forall₂_nil_right_iff.mp are)
  rcases mergeAll_merged some_box with ⟨merged, is, isMerged⟩
  have upright : ∀ c ∈ cuboids, c.Upright := by
    intro c member
    rcases forall₂_right are member with ⟨sub, _, isBox⟩
    rcases instCuboid_some isBox with ⟨_, _, _, _, rfl⟩
    exact DbTransform.applyCuboid_upright _ _
  refine ⟨cuboids, merged, are, isMerged, merged_upright isMerged upright, is ▸ size,
    atOrigin_iff isMerged ?_⟩
  rw [corners_locs placed are, map_reverse]

end Designs

end OpenRoad.Odb
