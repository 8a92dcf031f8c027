import OpenRoad.Odb.UnfoldTermination

/-! The unfolded chips are the instance paths to the chips that are not hierarchical. -/

namespace OpenRoad.Odb

open OpenRoad.Lib List DbTransform UnfoldedChip

/-- `path` leads from an instance in the chip to an instance of a chip that is not hierarchical. -/
inductive LeafPath (db : ChipDatabase) : Nat → List Nat → Prop where
  | last {chipId id chip inst master} (there : db.chip_tbl.objs chipId = some chip)
      (member : id ∈ chip.chipinsts) (live : db.chip_inst_tbl.objs id = some inst)
      (thereMaster : db.chip_tbl.objs inst.master_chip = some master)
      (leaf : master.type ≠ .HIER) : LeafPath db chipId [id]
  | down {chipId id chip inst master rest} (there : db.chip_tbl.objs chipId = some chip)
      (member : id ∈ chip.chipinsts) (live : db.chip_inst_tbl.objs id = some inst)
      (thereMaster : db.chip_tbl.objs inst.master_chip = some master)
      (hier : master.type = .HIER) (below : LeafPath db inst.master_chip rest) :
      LeafPath db chipId (id :: rest)

def instTransform (db : ChipDatabase) (id : Nat) : DbTransform :=
  (db.chip_inst_tbl.objs id).elim DbTransform.identity DbChipInst.getTransform

def pathTransform (db : ChipDatabase) (path : List Nat) : DbTransform :=
  path.foldl (fun total id => (instTransform db id).concat total) DbTransform.identity

def pathMirrors (db : ChipDatabase) (path : List Nat) : Nat :=
  path.countP fun id => (instTransform db id).mirror_z

variable (db : ChipDatabase)

lemma pathTransform_concat (path : List Nat) (id : Nat) :
    pathTransform db (path ++ [id]) = (instTransform db id).concat (pathTransform db path) := by
  rw [pathTransform, foldl_append]
  rfl

lemma pathTransform_apply (path : List Nat) (p : Point3D) :
    (pathTransform db path).applyPoint3D p =
      path.foldr (fun id q => (instTransform db id).applyPoint3D q) p := by
  induction path using reverseRecOn generalizing p with
  | nil => exact applyPoint3D_identity p
  | append_singleton path id ih =>
    rw [pathTransform_concat, applyPoint3D_concat, ih, foldr_append]
    rfl

lemma pathTransform_mirror_z (path : List Nat) :
    (pathTransform db path).mirror_z = decide (Odd (pathMirrors db path)) := by
  induction path using reverseRecOn with
  | nil => rfl
  | append_singleton path id ih =>
    have count : pathMirrors db (path ++ [id]) =
        pathMirrors db path + if (instTransform db id).mirror_z then 1 else 0 := by
      rw [pathMirrors, countP_append, countP_singleton]
      rfl
    rw [pathTransform_concat, mirror_z_concat, ih, count]
    cases (instTransform db id).mirror_z
    · simp
    · simp only [if_true, Nat.odd_add_one, Bool.true_xor, decide_not]

/-- The paths below an instance in the order in which unfolding visits them. -/
def leafPaths (db : ChipDatabase) : Nat → Nat → List (List Nat)
  | 0, _ => []
  | fuel + 1, id =>
    match db.chip_inst_tbl.objs id with
    | none => []
    | some inst =>
      match db.chip_tbl.objs inst.master_chip with
      | none => []
      | some master =>
        if master.type = .HIER then
          (master.chipinsts.flatMap (leafPaths db fuel)).map (id :: ·)
        else [[id]]

lemma leafPaths_head (fuel id : Nat) (path : List Nat) (member : path ∈ leafPaths db fuel id) :
    path.head? = some id := by
  cases fuel with
  | zero => cases member
  | succ fuel =>
    rw [leafPaths] at member
    split at member
    · cases member
    · split at member
      · cases member
      · split at member
        · rcases mem_map.mp member with ⟨rest, _, rfl⟩
          rfl
        · rw [mem_singleton.mp member]
          rfl

lemma flatMap_leafPaths_nodup (fuel : Nat) (ids : List Nat) (nodup : ids.Nodup)
    (each : ∀ id, (leafPaths db fuel id).Nodup) :
    (ids.flatMap (leafPaths db fuel)).Nodup := by
  rw [nodup_flatMap]
  refine ⟨fun id _ => each id, ?_⟩
  apply List.Pairwise.imp _ nodup
  intro first second different
  rw [Function.onFun, disjoint_left]
  intro path inFirst inSecond
  apply different
  apply Option.some.inj
  rw [← leafPaths_head db fuel first path inFirst, leafPaths_head db fuel second path inSecond]

lemma leafPaths_nodup (nodup : ∀ id chip, db.chip_tbl.objs id = some chip → chip.chipinsts.Nodup)
    (fuel id : Nat) :
    (leafPaths db fuel id).Nodup := by
  induction fuel generalizing id with
  | zero => exact nodup_nil
  | succ fuel ih =>
    rw [leafPaths]
    split
    · exact nodup_nil
    · split
      · exact nodup_nil
      · rename_i master there
        split
        · have all := flatMap_leafPaths_nodup db fuel master.chipinsts (nodup _ _ there) ih
          exact all.map fun _ _ same => (List.cons.inj same).2
        · exact nodup_singleton _

lemma leafPath_of_mem (fuel : Nat) :
    ∀ chipId chip id path, db.chip_tbl.objs chipId = some chip → id ∈ chip.chipinsts →
      path ∈ leafPaths db fuel id → LeafPath db chipId path := by
  induction fuel with
  | zero =>
    intro chipId chip id path _ _ member
    cases member
  | succ fuel ih =>
    intro chipId chip id path there inside member
    rw [leafPaths] at member
    split at member
    · cases member
    · rename_i inst live
      split at member
      · cases member
      · rename_i master thereMaster
        split at member
        · rename_i hier
          rcases mem_map.mp member with ⟨rest, inRest, rfl⟩
          rcases mem_flatMap.mp inRest with ⟨sub, inSubs, inSub⟩
          exact .down there inside live thereMaster hier
            (ih inst.master_chip master sub rest thereMaster inSubs inSub)
        · rename_i leaf
          rw [mem_singleton.mp member]
          exact .last there inside live thereMaster leaf

/-- An unfolded region is the instance's region in the place that the transform gives it. -/
def ExactRegion (db : ChipDatabase) (path : List Nat) (total : DbTransform) (id : Nat)
    (region : UnfoldedRegion) : Prop :=
  ∃ regionInst master, db.chip_region_inst_tbl.objs id = some regionInst ∧
    db.getChipRegion regionInst = some master ∧ region.region_inst = id ∧
    region.effective_side = (if Odd (pathMirrors db path) then mirrorSide master.side.unfolded
        else master.side.unfolded) ∧
    region.cuboid = total.applyCuboid master.getCuboid

/-- The master chip at the end of the path, moved by the transforms on the path. -/
structure ExactChip (db : ChipDatabase) (inst : DbChipInst) (master : DbChip)
    (chip : UnfoldedChip) : Prop where
  last : (chip.chip_inst_path.getLast?).bind db.chip_inst_tbl.objs = some inst
  thereMaster : db.chip_tbl.objs inst.master_chip = some master
  transform : chip.transform = pathTransform db chip.chip_inst_path
  moves : ∀ p, chip.transform.applyPoint3D p =
    chip.chip_inst_path.foldr (fun id q => (instTransform db id).applyPoint3D q) p
  cuboid : chip.cuboid = chip.transform.applyCuboid master.getCuboid
  regions : List.Forall₂ (ExactRegion db chip.chip_inst_path chip.transform)
    inst.chip_region_insts chip.regions

section OneChip

variable {db : ChipDatabase}

lemma follow_ok {α : Type} {object : Option α} {value : α} (ok : follow object = .ok value) :
    object = some value := by
  cases object with
  | none => cases ok
  | some _ =>
    cases ok
    rfl

lemma except_bind_ok {α β : Type} {result : Except UnfoldFault α} {value : β}
    {next : α → Except UnfoldFault β} (ok : result >>= next = .ok value) :
    ∃ mid, result = .ok mid ∧ next mid = .ok value := by
  cases result with
  | error fault => cases ok
  | ok mid => exact ⟨mid, rfl, ok⟩

lemma unfoldRegions_exact (path ids : List Nat) (regions : List UnfoldedRegion)
    (done : unfoldRegions db (pathTransform db path) ids = .ok regions) :
    Forall₂ (ExactRegion db path (pathTransform db path)) ids regions := by
  induction ids generalizing regions with
  | nil =>
    cases done
    exact .nil
  | cons id ids ih =>
    rcases except_bind_ok done with ⟨regionInst, live, done⟩
    rcases except_bind_ok done with ⟨region, there, done⟩
    rcases except_bind_ok done with ⟨bumps, _, done⟩
    rcases except_bind_ok done with ⟨rest, doneRest, done⟩
    cases done
    refine .cons ⟨regionInst, region, follow_ok live, follow_ok there, rfl, ?_, rfl⟩
      (ih rest doneRest)
    rw [pathTransform_mirror_z]
    simp only [decide_eq_true_eq]

lemma unfoldChip_exact (path : List Nat) (id : Nat) (inst : DbChipInst) (master : DbChip)
    (chip : UnfoldedChip) (live : db.chip_inst_tbl.objs id = some inst)
    (there : db.chip_tbl.objs inst.master_chip = some master)
    (done : unfoldChip db inst master (path ++ [id]) (pathTransform db (path ++ [id])) = .ok chip) :
    chip.chip_inst_path = path ++ [id] ∧ ExactChip db inst master chip := by
  rcases except_bind_ok done with ⟨name, _, done⟩
  rcases except_bind_ok done with ⟨regions, doneRegions, done⟩
  cases done
  refine ⟨rfl, ?_, there, rfl, pathTransform_apply db (path ++ [id]), rfl,
    unfoldRegions_exact (path ++ [id]) inst.chip_region_insts regions doneRegions⟩
  rw [getLast?_concat]
  exact live

end OneChip

def UnfoldedChip.unmarked (chip : UnfoldedChip) : UnfoldedChip :=
  { chip with regions := chip.regions.map fun region => { region with isUsed := false } }

def UnfoldedModel.unmarked (m : UnfoldedModel) : List UnfoldedChip :=
  m.unfolded_chips.map UnfoldedChip.unmarked

section Recursion

variable {db : ChipDatabase}

lemma map_modify_same {α β : Type} {view : α → β} {change : α → α}
    (same : ∀ item, view (change item) = view item) (items : List α) (i : Nat) :
    (items.modify i change).map view = items.map view := by
  apply ext_getElem?
  intro k
  rw [getElem?_map, getElem?_map, getElem?_modify]
  cases items[k]? with
  | none => rfl
  | some item =>
    by_cases here : i = k
    · simp only [here, if_true, Option.map_eq_map, Option.map_some, same]
    · simp only [here, if_false, Option.map_eq_map, Option.map_some]

lemma markUsed_unmarked (m : UnfoldedModel) (ptr : Option RegionPtr) :
    (m.markUsed ptr).unmarked = m.unmarked := by
  rcases ptr with _ | ⟨chipPtr, region⟩
  · rfl
  · rw [UnfoldedModel.markUsed]
    split
    · apply map_modify_same
      intro chip
      simp only [UnfoldedChip.unmarked, UnfoldedChip.mk.injEq, true_and]
      refine map_modify_same ?_ chip.regions region
      intro _
      rfl
    · rfl

lemma unfoldConnections_unmarked (path conns : List Nat) (m m' : UnfoldedModel)
    (done : unfoldConnections db path conns m = .ok m') : m'.unmarked = m.unmarked := by
  induction conns generalizing m with
  | nil =>
    cases done
    rfl
  | cons id conns ih =>
    rcases except_bind_ok done with ⟨conn, _, done⟩
    rw [ih _ done]
    split
    · exact (markUsed_unmarked _ _).trans (markUsed_unmarked _ _)
    · rfl

lemma unfoldNets_unmarked (path nets : List Nat) (m m' : UnfoldedModel)
    (done : unfoldNets db path nets m = .ok m') : m'.unmarked = m.unmarked := by
  induction nets generalizing m with
  | nil =>
    cases done
    rfl
  | cons id nets ih =>
    rcases except_bind_ok done with ⟨net, _, done⟩
    rw [ih _ done]
    rfl

lemma exactChip_unmarked (inst : DbChipInst) (master : DbChip) (chip : UnfoldedChip) :
    ExactChip db inst master chip.unmarked ↔ ExactChip db inst master chip := by
  have regions : Forall₂ (ExactRegion db chip.chip_inst_path chip.transform)
      inst.chip_region_insts chip.unmarked.regions ↔
      Forall₂ (ExactRegion db chip.chip_inst_path chip.transform)
      inst.chip_region_insts chip.regions := forall₂_map_right_iff
  constructor
  · rintro ⟨last, there, transform, moves, cuboid, exact'⟩
    exact ⟨last, there, transform, moves, cuboid, regions.mp exact'⟩
  · rintro ⟨last, there, transform, moves, cuboid, exact'⟩
    exact ⟨last, there, transform, moves, cuboid, regions.mpr exact'⟩

/-- `chip` is the unfolded chip at the end of `path`. -/
def StandsAt (db : ChipDatabase) (path : List Nat) (chip : UnfoldedChip) : Prop :=
  chip.chip_inst_path = path ∧ ∃ inst master, ExactChip db inst master chip

/-- The chips that are added stand at the given paths below `path`. -/
def Adds (db : ChipDatabase) (path : List Nat) (paths : List (List Nat))
    (m m' : UnfoldedModel) : Prop :=
  ∃ added, m'.unmarked = m.unmarked ++ added ∧
    List.Forall₂ (fun rest chip => StandsAt db (path ++ rest) chip) paths added

variable {m m' : UnfoldedModel}

lemma adds_nil (path : List Nat) (same : m'.unmarked = m.unmarked) : Adds db path [] m m' :=
  ⟨[], by rw [same, append_nil], .nil⟩

variable {path : List Nat}

lemma adds_append {first second : List (List Nat)} {mid : UnfoldedModel}
    (adds : Adds db path first m mid) (more : Adds db path second mid m') :
    Adds db path (first ++ second) m m' := by
  rcases adds with ⟨added, eq, exact'⟩
  rcases more with ⟨addedMore, eqMore, exactMore⟩
  refine ⟨added ++ addedMore, by rw [eqMore, eq, append_assoc], ?_⟩
  exact rel_append exact' exactMore

lemma adds_below {id : Nat} {paths : List (List Nat)} (adds : Adds db (path ++ [id]) paths m m') :
    Adds db path (paths.map (id :: ·)) m m' := by
  rcases adds with ⟨added, eq, exact'⟩
  refine ⟨added, eq, ?_⟩
  rw [forall₂_map_left_iff]
  apply exact'.imp
  intro rest chip stands
  rw [append_assoc] at stands
  exact stands

lemma foldlM_adds {fuel : Nat} {total : DbTransform}
    (each : ∀ id m m', buildUnfoldedChip db fuel id path total m = .ok m' →
      Adds db path (leafPaths db fuel id) m m') (ids : List Nat) (m m' : UnfoldedModel)
    (done : ids.foldlM (fun m sub => buildUnfoldedChip db fuel sub path total m) m = .ok m') :
    Adds db path (ids.flatMap (leafPaths db fuel)) m m' := by
  induction ids generalizing m with
  | nil =>
    cases done
    exact adds_nil path rfl
  | cons id ids ih =>
    rw [foldlM_cons] at done
    rcases except_bind_ok done with ⟨mid, first, done⟩
    rw [flatMap_cons]
    exact adds_append (each id m mid first) (ih mid done)

lemma buildUnfoldedChip_adds (fuel : Nat) :
    ∀ id path m m', buildUnfoldedChip db fuel id path (pathTransform db path) m = .ok m' →
      Adds db path (leafPaths db fuel id) m m' := by
  induction fuel with
  | zero =>
    intro id path m m' done
    cases done
  | succ fuel ih =>
    intro id path m m' done
    rcases except_bind_ok done with ⟨inst, live, done⟩
    rcases except_bind_ok done with ⟨master, there, done⟩
    replace live := follow_ok live
    replace there := follow_ok there
    have isTransform : inst.getTransform.concat (pathTransform db path) =
        pathTransform db (path ++ [id]) := by
      rw [pathTransform_concat, instTransform, live]
      rfl
    rw [isTransform] at done
    rw [leafPaths, live]
    simp only [there]
    split at done
    · rename_i hier
      rw [if_pos hier]
      rcases except_bind_ok done with ⟨subs, doneSubs, done⟩
      rcases except_bind_ok done with ⟨connected, doneConns, doneNets⟩
      have below := foldlM_adds (fun sub m m' done => ih sub (path ++ [id]) m m' done)
        master.chipinsts m subs doneSubs
      rcases adds_below below with ⟨added, eq, exact'⟩
      refine ⟨added, ?_, exact'⟩
      rw [unfoldNets_unmarked _ _ _ _ doneNets, unfoldConnections_unmarked _ _ _ _ doneConns]
      exact eq
    · rename_i leaf
      rw [if_neg leaf]
      rcases except_bind_ok done with ⟨chip, doneChip, done⟩
      cases done
      rcases unfoldChip_exact path id inst master chip live there doneChip with ⟨isPath, exact'⟩
      refine ⟨[chip.unmarked], ?_, .cons ⟨isPath, inst, master, ?_⟩ .nil⟩
      · rw [UnfoldedModel.unmarked, registerUnfoldedChip, map_append]
        rfl
      · exact (exactChip_unmarked inst master chip).mpr exact'

lemma foldlM_each {fuel : Nat} {total : DbTransform} (ids : List Nat) (m m' : UnfoldedModel)
    (done : ids.foldlM (fun m sub => buildUnfoldedChip db fuel sub path total m) m = .ok m') :
    ∀ id ∈ ids, ∃ mid mid', buildUnfoldedChip db fuel id path total mid = .ok mid' := by
  induction ids generalizing m with
  | nil =>
    intro id member
    cases member
  | cons first ids ih =>
    rw [foldlM_cons] at done
    rcases except_bind_ok done with ⟨mid, doneFirst, done⟩
    intro id member
    rcases mem_cons.mp member with rfl | member
    · exact ⟨m, mid, doneFirst⟩
    · exact ih mid done id member

lemma leafPath_listed {chipId id : Nat} {rest : List Nat} {chip : DbChip}
    (there : db.chip_tbl.objs chipId = some chip) (leafPath : LeafPath db chipId (id :: rest)) :
    id ∈ chip.chipinsts := by
  cases leafPath with
  | last thereTop member | down thereTop member =>
    exact Option.some.inj (thereTop.symm.trans there) ▸ member

lemma mem_leafPaths (fuel : Nat) : ∀ chipId id rest, LeafPath db chipId (id :: rest) →
      (∃ path total m m', buildUnfoldedChip db fuel id path total m = .ok m') →
      id :: rest ∈ leafPaths db fuel id := by
  induction fuel with
  | zero =>
    rintro chipId id rest _ ⟨path, total, m, m', done⟩
    cases done
  | succ fuel ih =>
    rintro chipId id rest leafPath ⟨path, total, m, m', done⟩
    cases leafPath with
    | last there member live thereMaster leaf =>
      rw [leafPaths, live]
      simp only [thereMaster, leaf, if_false, mem_singleton]
    | @down _ _ _ inst master _ there member live thereMaster hier below =>
      rw [buildUnfoldedChip, live] at done
      simp only [follow_some, ok_bind, thereMaster, hier, if_true] at done
      rcases except_bind_ok done with ⟨subs, doneSubs, _⟩
      rw [leafPaths, live]
      simp only [thereMaster, hier, if_true, mem_map, mem_flatMap]
      refine ⟨rest, ?_, rfl⟩
      cases rest with
      | nil => cases below
      | cons sub rest =>
        have inSubs := leafPath_listed thereMaster below
        rcases foldlM_each master.chipinsts m subs doneSubs sub inSubs with ⟨mid, mid', doneSub⟩
        exact ⟨sub, inSubs, ih _ sub rest below ⟨_, _, mid, mid', doneSub⟩⟩

lemma leafPath_unfolded {fuel chipId : Nat} {total : DbTransform} {chip : DbChip} {leaf : List Nat}
    (there : db.chip_tbl.objs chipId = some chip)
    (done : chip.chipinsts.foldlM (fun m sub => buildUnfoldedChip db fuel sub path total m) m =
      .ok m') (leafPath : LeafPath db chipId leaf) :
    leaf ∈ chip.chipinsts.flatMap (leafPaths db fuel) := by
  cases leaf with
  | nil => cases leafPath
  | cons id rest =>
    have inside := leafPath_listed there leafPath
    rcases foldlM_each chip.chipinsts m m' done id inside with ⟨mid, mid', doneId⟩
    exact mem_flatMap.mpr ⟨id, inside,
      mem_leafPaths fuel chipId id rest leafPath ⟨_, _, mid, mid', doneId⟩⟩

end Recursion

/-- Every pointer that unfolding follows leads to an object. -/
structure ChipDatabase.Sound (db : ChipDatabase) : Prop where
  nodup : ∀ id chip, db.chip_tbl.objs id = some chip → chip.chipinsts.Nodup
  insts : ∀ id chip, db.chip_tbl.objs id = some chip →
    ∀ sub ∈ chip.chipinsts, ∃ inst, db.chip_inst_tbl.objs sub = some inst
  conns : ∀ id chip, db.chip_tbl.objs id = some chip →
    ∀ sub ∈ chip.conns, ∃ conn, db.chip_conn_tbl.objs sub = some conn
  nets : ∀ id chip, db.chip_tbl.objs id = some chip →
    ∀ sub ∈ chip.nets, ∃ net, db.chip_net_tbl.objs sub = some net
  masters : ∀ id inst, db.chip_inst_tbl.objs id = some inst →
    ∃ master, db.chip_tbl.objs inst.master_chip = some master
  regionInsts : ∀ id inst, db.chip_inst_tbl.objs id = some inst → ∀ sub ∈ inst.chip_region_insts,
    ∃ regionInst region, db.chip_region_inst_tbl.objs sub = some regionInst ∧
      db.getChipRegion regionInst = some region
  bumpInsts : ∀ id regionInst, db.chip_region_inst_tbl.objs id = some regionInst →
    ∀ sub ∈ regionInst.chip_bump_insts, ∃ bumpInst bump inst,
      db.chip_bump_inst_tbl.objs sub = some bumpInst ∧ db.getChipBump bumpInst = some bump ∧
      db.getInst bump = some inst

section Sound

variable {db : ChipDatabase}

lemma getFullPathName_ok (name : String) (path : List Nat)
    (live : ∀ id ∈ path, ∃ inst, db.chip_inst_tbl.objs id = some inst) :
    ∃ full, getFullPathName db name path = .ok full := by
  induction path generalizing name with
  | nil => exact ⟨name, rfl⟩
  | cons id path ih =>
    rcases live id mem_cons_self with ⟨inst, liveInst⟩
    rw [getFullPathName, liveInst]
    exact ih _ fun other member => live other (mem_cons_of_mem id member)

lemma unfoldBumps_ok (transform : DbTransform) (z : Int) (bumpInsts : List Nat)
    (live : ∀ id ∈ bumpInsts, ∃ bumpInst bump inst, db.chip_bump_inst_tbl.objs id = some bumpInst ∧
      db.getChipBump bumpInst = some bump ∧ db.getInst bump = some inst) :
    ∃ bumps, unfoldBumps db transform z bumpInsts = .ok bumps := by
  induction bumpInsts with
  | nil => exact ⟨[], rfl⟩
  | cons id bumpInsts ih =>
    rcases live id mem_cons_self with ⟨bumpInst, bump, inst, liveBump, ofBump, ofInst⟩
    rcases ih fun other member => live other (mem_cons_of_mem id member) with ⟨rest, done⟩
    rw [unfoldBumps, liveBump]
    simp only [follow_some, ok_bind, ofBump, ofInst, done]
    cases inst with
    | none => exact ⟨_, rfl⟩
    | some location => exact ⟨_, rfl⟩

lemma unfoldRegions_ok (sound : db.Sound) (transform : DbTransform) (ids : List Nat)
    (live : ∀ id ∈ ids, ∃ regionInst region, db.chip_region_inst_tbl.objs id = some regionInst ∧
      db.getChipRegion regionInst = some region) :
    ∃ regions, unfoldRegions db transform ids = .ok regions := by
  induction ids with
  | nil => exact ⟨[], rfl⟩
  | cons id ids ih =>
    rcases live id mem_cons_self with ⟨regionInst, region, liveRegion, ofRegion⟩
    rcases ih fun other member => live other (mem_cons_of_mem id member) with ⟨rest, done⟩
    rw [unfoldRegions, liveRegion]
    simp only [follow_some, ok_bind, ofRegion]
    rcases unfoldBumps_ok transform (getSurfaceZ (if transform.mirror_z = true then
      mirrorSide region.side.unfolded else region.side.unfolded)
      (transform.applyCuboid region.getCuboid)) regionInst.chip_bump_insts
      (sound.bumpInsts id regionInst liveRegion) with ⟨bumps, doneBumps⟩
    simp only [doneBumps, ok_bind, done]
    exact ⟨_, rfl⟩

lemma unfoldConnections_ok (path conns : List Nat) (m : UnfoldedModel)
    (live : ∀ id ∈ conns, ∃ conn, db.chip_conn_tbl.objs id = some conn) :
    ∃ m', unfoldConnections db path conns m = .ok m' := by
  induction conns generalizing m with
  | nil => exact ⟨m, rfl⟩
  | cons id conns ih =>
    rcases live id mem_cons_self with ⟨conn, liveConn⟩
    rw [unfoldConnections, liveConn]
    exact ih _ fun other member => live other (mem_cons_of_mem id member)

lemma unfoldNets_ok (path nets : List Nat) (m : UnfoldedModel)
    (live : ∀ id ∈ nets, ∃ net, db.chip_net_tbl.objs id = some net) :
    ∃ m', unfoldNets db path nets m = .ok m' := by
  induction nets generalizing m with
  | nil => exact ⟨m, rfl⟩
  | cons id nets ih =>
    rcases live id mem_cons_self with ⟨net, liveNet⟩
    rw [unfoldNets, liveNet]
    exact ih _ fun other member => live other (mem_cons_of_mem id member)

def Followed {α : Type} (result : Except UnfoldFault α) : Prop := result ≠ .error .dangling

lemma followed_bind {α β : Type} {result : Except UnfoldFault α}
    {next : α → Except UnfoldFault β} (first : Followed result)
    (second : ∀ value, Followed (next value)) : Followed (result >>= next) := by
  cases result with
  | error fault =>
    intro same
    cases same
    exact first rfl
  | ok value => exact second value

lemma followed_ok {α : Type} {result : Except UnfoldFault α} (ok : ∃ value, result = .ok value) :
    Followed result := by
  rcases ok with ⟨value, rfl⟩
  exact fun same => nomatch same

lemma foldlM_followed {fuel : Nat} {path : List Nat} {total : DbTransform} (ids : List Nat)
    (each : ∀ id ∈ ids, ∀ m, Followed (buildUnfoldedChip db fuel id path total m))
    (m : UnfoldedModel) :
    Followed (ids.foldlM (fun m sub => buildUnfoldedChip db fuel sub path total m) m) := by
  induction ids generalizing m with
  | nil => exact followed_ok ⟨m, rfl⟩
  | cons id ids ih =>
    rw [foldlM_cons]
    apply followed_bind (each id mem_cons_self m)
    intro mid
    exact ih (fun other member => each other (mem_cons_of_mem id member)) mid

lemma buildUnfoldedChip_followed (sound : db.Sound) (fuel : Nat) :
    ∀ id path total m, (∃ inst, db.chip_inst_tbl.objs id = some inst) →
      (∀ other ∈ path, ∃ inst, db.chip_inst_tbl.objs other = some inst) →
      Followed (buildUnfoldedChip db fuel id path total m) := by
  induction fuel with
  | zero =>
    intro id path total m _ _ same
    cases same
  | succ fuel ih =>
    rintro id path total m ⟨inst, live⟩ livePath
    rcases sound.masters id inst live with ⟨master, there⟩
    have liveAll : ∀ other ∈ path ++ [id], ∃ inst, db.chip_inst_tbl.objs other = some inst := by
      intro other member
      rcases mem_append.mp member with member | member
      · exact livePath other member
      · exact ⟨inst, mem_singleton.mp member ▸ live⟩
    simp only [buildUnfoldedChip, live, there, follow_some, ok_bind]
    split
    · apply followed_bind
      · apply foldlM_followed
        intro sub member m
        exact ih sub _ _ m (sound.insts _ master there sub member) liveAll
      · intro subs
        rcases unfoldConnections_ok (path ++ [id]) master.conns subs
          (sound.conns _ master there) with ⟨connected, done⟩
        rw [done]
        exact followed_ok (unfoldNets_ok _ _ connected (sound.nets _ master there))
    · rcases getFullPathName_ok "" (path ++ [id]) liveAll with ⟨name, doneName⟩
      rcases unfoldRegions_ok sound (inst.getTransform.concat total) inst.chip_region_insts
        (sound.regionInsts id inst live) with ⟨regions, doneRegions⟩
      simp only [unfoldChip, doneName, doneRegions, ok_bind]
      exact followed_ok ⟨_, rfl⟩

lemma unfold_followed (sound : db.Sound) (fuel chipId : Nat) (chip : DbChip)
    (there : db.chip_tbl.objs chipId = some chip) : Followed (unfold db fuel chipId) := by
  simp only [unfold, there, follow_some, ok_bind]
  apply followed_bind
  · apply foldlM_followed
    intro sub member m
    exact buildUnfoldedChip_followed sound fuel sub [] _ m (sound.insts _ chip there sub member)
      (List.forall_mem_nil _)
  · intro subs
    rcases unfoldConnections_ok [] chip.conns subs (sound.conns _ chip there) with
      ⟨connected, done⟩
    rw [done]
    exact followed_ok (unfoldNets_ok _ _ connected (sound.nets _ chip there))

lemma unfold_returns (sound : db.Sound) (acyclic : Terminates db.hierarchy.Contains) (chipId : Nat)
    (top : DbChip) (there : db.chip_tbl.objs chipId = some top) :
    ∃ m bound, ∀ fuel, bound ≤ fuel → unfold db fuel chipId = .ok m := by
  rcases unfold_ends acyclic chipId with ⟨result, finished, bound, same⟩
  have followed := unfold_followed sound bound chipId top there
  have done : unfold db bound chipId = result := same bound (le_refl bound)
  rw [done] at followed
  cases result with
  | error fault =>
    cases fault with
    | dangling => exact absurd rfl followed
    | unfinished => exact absurd rfl finished
  | ok m => exact ⟨m, bound, same⟩

end Sound

lemma unfold_paths (nodup : ∀ id chip, db.chip_tbl.objs id = some chip → chip.chipinsts.Nodup)
    (fuel chipId : Nat) (m : UnfoldedModel) (done : unfold db fuel chipId = .ok m) :
    (m.unfolded_chips.map chip_inst_path).Nodup ∧
      (∀ path, path ∈ m.unfolded_chips.map chip_inst_path ↔ LeafPath db chipId path) ∧
      ∀ chip ∈ m.unfolded_chips, ∃ inst master, ExactChip db inst master chip := by
  rcases except_bind_ok done with ⟨top, there, done⟩
  rcases except_bind_ok done with ⟨subs, doneSubs, done⟩
  rcases except_bind_ok done with ⟨connected, doneConns, doneNets⟩
  replace there := follow_ok there
  have adds := foldlM_adds (fun id m m' done => buildUnfoldedChip_adds fuel id [] m m' done)
    top.chipinsts UnfoldedModel.empty subs doneSubs
  rcases adds with ⟨added, eq, stands⟩
  have isAdded : m.unmarked = added := by
    rw [unfoldNets_unmarked _ _ _ _ doneNets, unfoldConnections_unmarked _ _ _ _ doneConns, eq]
    rfl
  have paths : m.unfolded_chips.map chip_inst_path =
      top.chipinsts.flatMap (leafPaths db fuel) := by
    have same : added.map chip_inst_path = top.chipinsts.flatMap (leafPaths db fuel) := by
      rw [← forall₂_eq_eq_eq, forall₂_map_left_iff]
      exact stands.flip.imp fun chip rest holds => holds.1
    rw [← same, ← isAdded, UnfoldedModel.unmarked, map_map]
    rfl
  rw [paths]
  refine ⟨?_, ?_, ?_⟩
  · exact flatMap_leafPaths_nodup db fuel top.chipinsts (nodup chipId top there)
      (leafPaths_nodup db nodup fuel)
  · intro path
    constructor
    · intro member
      rcases mem_flatMap.mp member with ⟨id, inside, inPaths⟩
      exact leafPath_of_mem db fuel chipId top id path there inside inPaths
    · exact leafPath_unfolded there doneSubs
  · intro chip member
    have inAdded : chip.unmarked ∈ added := by
      rw [← isAdded]
      exact mem_map_of_mem member
    rcases mem_iff_getElem.mp inAdded with ⟨i, inRange, same⟩
    have here := (forall₂_iff_get.mp stands).2 i (stands.length_eq ▸ inRange) inRange
    rw [get_eq_getElem, get_eq_getElem, same] at here
    rcases here with ⟨_, inst, master, exact'⟩
    exact ⟨inst, master, (exactChip_unmarked inst master chip).mp exact'⟩

/-- One chip for each path to a chip that is not hierarchical, in the place that its path says. -/
theorem unfold_exact (db : ChipDatabase) (sound : db.Sound)
    (acyclic : Terminates db.hierarchy.Contains) (chipId : Nat) (top : DbChip)
    (there : db.chip_tbl.objs chipId = some top) :
    ∃ m bound, (∀ fuel, bound ≤ fuel → unfold db fuel chipId = .ok m) ∧
      (m.unfolded_chips.map chip_inst_path).Nodup ∧
      (∀ path, path ∈ m.unfolded_chips.map chip_inst_path ↔ LeafPath db chipId path) ∧
      ∀ chip ∈ m.unfolded_chips, ∃ inst master, ExactChip db inst master chip := by
  rcases unfold_returns sound acyclic chipId top there with ⟨m, bound, same⟩
  exact ⟨m, bound, same, unfold_paths db sound.nodup bound chipId m (same bound (le_refl bound))⟩

def tableOf {α : Type} (objects : List α) : Store α :=
  ⟨fun id => if id = 0 then none else objects[id - 1]?, [], 1⟩

/-- Two dies in a chip that is in the top chip upside down. -/
def stackedDatabase : ChipDatabase where
  chip := 1
  chip_hash := [("die", 3), ("stack", 2), ("top", 1)]
  chip_tbl := tableOf [
    { newChip "top" .HIER 0 with chipinsts := [1] },
    { newChip "stack" .HIER 0 with chipinsts := [2, 3] },
    { newChip "die" .DIE 1 with
      chip_region_map := [("front", 1)]
      chip_region_tbl := tableOf [newRegion "front" .FRONT 0] }]
  chip_inst_tbl := tableOf [
    { newChipInst "stack" 2 1 with orient := ⟨.R90, true⟩ },
    { newChipInst "left" 3 2 with chip_region_insts := [1] },
    { newChipInst "right" 3 2 with origin := ⟨10, 0, 0⟩, chip_region_insts := [2] }]
  chip_region_inst_tbl := tableOf [⟨1, 2, []⟩, ⟨1, 3, []⟩]
  chip_bump_inst_tbl := Store.empty
  chip_conn_tbl := Store.empty
  chip_net_tbl := Store.empty

lemma tableOf_all {α : Type} {objects : List α} {holds : α → Prop}
    (all : ∀ object ∈ objects, holds object) (id : Nat) (object : α)
    (there : (tableOf objects).objs id = some object) : holds object := by
  simp only [tableOf] at there
  split at there
  · cases there
  · exact all object (mem_of_getElem? there)

/-- The pointers in the records lead to objects. -/
lemma tableOf_live {α β : Type} {objects : List α} (pointers : α → List Nat) {store : Store β}
    (live : (objects.flatMap pointers).all fun sub => (store.objs sub).isSome) (id : Nat)
    (object : α) (there : (tableOf objects).objs id = some object) :
    ∀ sub ∈ pointers object, ∃ target, store.objs sub = some target := by
  intro sub member
  refine Option.isSome_iff_exists.mp (all_eq_true.mp live sub (mem_flatMap.mpr ⟨object, ?_, member⟩))
  exact tableOf_all (fun _ isObject => isObject) id object there

lemma stackedDatabase_sound : stackedDatabase.Sound where
  nodup := tableOf_all (by decide)
  insts := tableOf_live DbChip.chipinsts rfl
  conns := tableOf_live DbChip.conns rfl
  nets := tableOf_live DbChip.nets rfl
  masters := fun id inst live =>
    tableOf_live (fun inst => [inst.master_chip]) rfl id inst live _ mem_cons_self
  regionInsts := by
    apply tableOf_all
    simp only [forall_mem_cons, newChipInst, not_mem_nil, false_implies, implies_true,
      and_true, true_and]
    exact ⟨⟨_, _, rfl, rfl⟩, ⟨_, _, rfl, rfl⟩⟩
  bumpInsts := by
    apply tableOf_all
    simp only [forall_mem_cons, not_mem_nil, false_implies, implies_true, and_true]

lemma stackedDatabase_terminates : Terminates stackedDatabase.hierarchy.Contains := by
  apply terminates_of_rank fun id => 3 - id
  rintro a b ⟨list, there, id, member, parent, live⟩
  have below : ∀ inst, stackedDatabase.hierarchy.insts.objs inst = some (parent, b) →
      (inst = 1 → b = 2) ∧ (inst = 2 ∨ inst = 3 → b = 3) := by
    intro inst live
    constructor
    · rintro rfl
      exact (congrArg Prod.snd (Option.some.inj live)).symm
    · rintro (rfl | rfl) <;> exact (congrArg Prod.snd (Option.some.inj live)).symm
  match a with
  | 0 => cases there
  | 1 =>
    rcases Option.some.inj there
    rw [(below id live).1 (mem_singleton.mp member)]
    decide
  | 2 =>
    rcases Option.some.inj there
    rw [(below id live).2 (by simpa using member)]
    decide
  | 3 =>
    rcases Option.some.inj there
    cases member
  | _ + 4 => cases there

theorem unfold_exact_sample :
    ∃ m bound, (∀ fuel, bound ≤ fuel → unfold stackedDatabase fuel 1 = .ok m) ∧
      (m.unfolded_chips.map chip_inst_path).Nodup ∧
      (∀ path, path ∈ m.unfolded_chips.map chip_inst_path ↔
        LeafPath stackedDatabase 1 path) ∧
      ∀ chip ∈ m.unfolded_chips, ∃ inst master, ExactChip stackedDatabase inst master chip :=
  unfold_exact stackedDatabase stackedDatabase_sound stackedDatabase_terminates 1 _ rfl

end OpenRoad.Odb
