import OpenRoad.Lib.Pairing
import OpenRoad.Odb.UnfoldConnectivity

/-! When the unfolded connections and nets have all their regions and bumps. -/

namespace OpenRoad.Odb

open OpenRoad.Lib List

def ChildPath (db : ChipDatabase) : Nat → List Nat → Prop
  | _, [] => True
  | chipId, id :: path => ∃ inst, db.chip_inst_tbl.objs id = some inst ∧
    inst.parent_chip = chipId ∧ ChildPath db inst.master_chip path

/-- A null end stands for a null region in the database only. -/
def EndAt (m : UnfoldedModel) (path : List Nat) (regionInst : Nat) : Option RegionPtr → Prop
  | none => regionInst = 0
  | some ptr => regionInst ≠ 0 ∧ RegionIn m.keys path regionInst ptr

def ConnectionAt (db : ChipDatabase) (m : UnfoldedModel) (visit : List Nat × Nat)
    (connection : UnfoldedConnection) : Prop :=
  connection.connection = visit.2 ∧ ∃ conn, db.chip_conn_tbl.objs visit.2 = some conn ∧
    EndAt m (visit.1 ++ conn.top_region_path) conn.top_region connection.top_region ∧
    EndAt m (visit.1 ++ conn.bottom_region_path) conn.bottom_region connection.bottom_region

/-- The bumps of a net are its bumps that have a place, each at the end of its path. -/
def NetAt (db : ChipDatabase) (m : UnfoldedModel) (visit : List Nat × Nat)
    (unfolded : UnfoldedNet) : Prop :=
  unfolded.chip_net = visit.2 ∧ ∃ net, db.chip_net_tbl.objs visit.2 = some net ∧
    List.Forall₂ (fun entry ptr => BumpIn m.keys (visit.1 ++ entry.1) entry.2 ptr)
      (net.bump_insts_paths.filter fun entry => db.placed entry.2) unfolded.connected_bumps

/-- One unfolded connection and net for each path and each connection and net, and no others. -/
def ConnectivityExact (db : ChipDatabase) (chipId : Nat) (m : UnfoldedModel) : Prop :=
  ∃ visits : List (List Nat × Nat), visits.Nodup ∧
    (∀ path target, (path, target) ∈ visits ↔ HierPath db chipId path target) ∧
    List.Forall₂ (ConnectionAt db m) (visited db DbChip.conns visits) m.unfolded_connections ∧
    List.Forall₂ (NetAt db m) (visited db DbChip.nets visits) m.unfolded_nets

/-- Instances are on the lists of what they belong to, once; only hierarchical chips have instances.
-/
structure ChipDatabase.Linked (db : ChipDatabase) : Prop extends db.Sound where
  regions_nodup : ∀ id inst, db.chip_inst_tbl.objs id = some inst → inst.chip_region_insts.Nodup
  bumps_nodup : ∀ id regionInst, db.chip_region_inst_tbl.objs id = some regionInst →
    regionInst.chip_bump_insts.Nodup
  bump_owner : ∀ id regionInst, db.chip_region_inst_tbl.objs id = some regionInst →
    ∀ bump ∈ regionInst.chip_bump_insts, ∀ bumpInst, db.chip_bump_inst_tbl.objs bump = some bumpInst →
      bumpInst.chip_region_inst = id
  children : ∀ id inst, db.chip_inst_tbl.objs id = some inst →
    ∀ parent, db.chip_tbl.objs inst.parent_chip = some parent →
      id ∈ parent.chipinsts ∧ parent.type = .HIER
  region_listed : ∀ id regionInst, db.chip_region_inst_tbl.objs id = some regionInst →
    ∀ inst, db.chip_inst_tbl.objs regionInst.parent_chipinst = some inst →
      id ∈ inst.chip_region_insts
  bump_listed : ∀ id bumpInst, db.chip_bump_inst_tbl.objs id = some bumpInst →
    ∀ regionInst, db.chip_region_inst_tbl.objs bumpInst.chip_region_inst = some regionInst →
      id ∈ regionInst.chip_bump_insts

/-- The path leads to the instance of the region. -/
def RegionPath (db : ChipDatabase) (chipId : Nat) (path : List Nat) (regionInst : Nat) : Prop :=
  ChildPath db chipId path ∧ ∃ object inst, db.chip_region_inst_tbl.objs regionInst = some object ∧
    path.getLast? = some object.parent_chipinst ∧
    db.chip_inst_tbl.objs object.parent_chipinst = some inst

/-- What the checks of `dbChipConn::create` ask for, and the same of the paths of nets. -/
structure ChipDatabase.Checked (db : ChipDatabase) : Prop where
  top : ∀ chipId chip, db.chip_tbl.objs chipId = some chip → ∀ id ∈ chip.conns, ∀ conn,
    db.chip_conn_tbl.objs id = some conn →
      conn.top_region ≠ 0 ∧ RegionPath db chipId conn.top_region_path conn.top_region
  bottom : ∀ chipId chip, db.chip_tbl.objs chipId = some chip → ∀ id ∈ chip.conns, ∀ conn,
    db.chip_conn_tbl.objs id = some conn → conn.bottom_region ≠ 0 →
      RegionPath db chipId conn.bottom_region_path conn.bottom_region
  nets : ∀ chipId chip, db.chip_tbl.objs chipId = some chip → ∀ id ∈ chip.nets, ∀ net,
    db.chip_net_tbl.objs id = some net → ∀ entry ∈ net.bump_insts_paths, ∃ bumpInst,
      db.chip_bump_inst_tbl.objs entry.2 = some bumpInst ∧
      RegionPath db chipId entry.1 bumpInst.chip_region_inst

/-- The region is on an instance of a chip that is not hierarchical. -/
def OnLeaf (db : ChipDatabase) (regionInst : Nat) : Prop :=
  ∀ object inst master, db.chip_region_inst_tbl.objs regionInst = some object →
    db.chip_inst_tbl.objs object.parent_chipinst = some inst →
    db.chip_tbl.objs inst.master_chip = some master → master.type ≠ .HIER

/-- No connection or net of a visited chip names a region of an instance of a hierarchical chip. -/
structure OnLeaves (db : ChipDatabase) (chipId : Nat) : Prop where
  top : ∀ path target chip, HierPath db chipId path target → db.chip_tbl.objs target = some chip →
    ∀ id ∈ chip.conns, ∀ conn, db.chip_conn_tbl.objs id = some conn → OnLeaf db conn.top_region
  bottom : ∀ path target chip, HierPath db chipId path target → db.chip_tbl.objs target = some chip →
    ∀ id ∈ chip.conns, ∀ conn, db.chip_conn_tbl.objs id = some conn → conn.bottom_region ≠ 0 →
      OnLeaf db conn.bottom_region
  nets : ∀ path target chip, HierPath db chipId path target → db.chip_tbl.objs target = some chip →
    ∀ id ∈ chip.nets, ∀ net, db.chip_net_tbl.objs id = some net →
      ∀ entry ∈ net.bump_insts_paths, db.placed entry.2 = true → ∀ bumpInst,
        db.chip_bump_inst_tbl.objs entry.2 = some bumpInst → OnLeaf db bumpInst.chip_region_inst

section Exact

variable {db : ChipDatabase} {chipId target : Nat} {path : List Nat} {m : UnfoldedModel}

lemma leafPath_of_child (linked : db.Linked) {last : Nat} {inst : DbChipInst}
    (live : db.chip_inst_tbl.objs last = some inst)
    (leaf : ∀ master, db.chip_tbl.objs inst.master_chip = some master → master.type ≠ .HIER)
    (path : List Nat) : ∀ chipId chip, db.chip_tbl.objs chipId = some chip →
      ChildPath db chipId path → path.getLast? = some last → LeafPath db chipId path := by
  induction path with
  | nil =>
    intro chipId chip _ _ isLast
    cases isLast
  | cons id rest ih =>
    rintro chipId chip there ⟨first, liveFirst, isParent, below⟩ isLast
    rcases linked.masters id first liveFirst with ⟨master, thereMaster⟩
    have member := (linked.children id first liveFirst chip (isParent ▸ there)).1
    cases rest with
    | nil =>
      rw [getLast?_singleton] at isLast
      cases isLast
      rw [live] at liveFirst
      cases liveFirst
      exact .last there member live thereMaster (leaf master thereMaster)
    | cons sub rest =>
      rw [getLast?_cons_cons] at isLast
      rcases below with ⟨second, liveSecond, isSub, deeper⟩
      have hier := (linked.children sub second liveSecond master (isSub ▸ thereMaster)).2
      exact .down there member liveFirst thereMaster hier
        (ih first.master_chip master thereMaster ⟨second, liveSecond, isSub, deeper⟩ isLast)

lemma leafPath_last {last : Nat} {inst : DbChipInst} {master : DbChip}
    (live : db.chip_inst_tbl.objs last = some inst)
    (thereMaster : db.chip_tbl.objs inst.master_chip = some master) {chipId : Nat} {path : List Nat}
    (leafPath : LeafPath db chipId path) (isLast : path.getLast? = some last) :
    master.type ≠ .HIER := by
  induction leafPath with
  | last _ _ live' there leaf =>
    rw [getLast?_singleton] at isLast
    cases isLast
    rw [live] at live'
    cases live'
    rw [thereMaster] at there
    cases there
    exact leaf
  | @down _ _ _ _ _ rest _ _ _ _ _ below ih =>
    cases rest with
    | nil => cases below
    | cons sub rest =>
      rw [getLast?_cons_cons] at isLast
      exact ih isLast

lemma getLast?_append_some {front back : List Nat} {last : Nat} (isLast : back.getLast? = some last) :
    (front ++ back).getLast? = some last := by
  rw [getLast?_append, isLast]
  rfl

structure Finishes (db : ChipDatabase) (chipId : Nat) (m : UnfoldedModel) : Prop where
  unique : UniqueKeys m.keys
  leaves : ∀ path, path ∈ m.keys.map Prod.fst ↔ LeafPath db chipId path
  exact' : ∀ chip ∈ m.keys, KeysExact db chip

lemma uniqueKeys_exact (linked : db.Linked) (paths : (m.keys.map Prod.fst).Nodup)
    (each : ∀ chip ∈ m.keys, KeysExact db chip) : UniqueKeys m.keys where
  paths := paths
  regions := by
    intro chip member
    rcases each chip member with ⟨id, inst, _, live, regions⟩
    have fsts : chip.2.map Prod.fst = inst.chip_region_insts := by
      rw [regions, map_map]
      exact map_id _
    rw [fsts]
    exact linked.regions_nodup id inst live
  bumps := by
    intro chip member
    rcases each chip member with ⟨id, inst, _, live, regions⟩
    have owner : ∀ region bump, bump ∈ placedBumps db region → ∃ bumpInst,
        db.chip_bump_inst_tbl.objs bump = some bumpInst ∧ bumpInst.chip_region_inst = region := by
      intro region bump inBumps
      have listed := (mem_filter.mp inBumps).1
      cases liveRegion : db.chip_region_inst_tbl.objs region with
      | none =>
        rw [liveRegion] at listed
        cases listed
      | some regionInst =>
        rw [liveRegion] at listed
        rcases linked.bumpInsts region regionInst liveRegion bump listed with
          ⟨bumpInst, _, _, liveBump, _⟩
        exact ⟨bumpInst, liveBump,
          linked.bump_owner region regionInst liveRegion bump listed bumpInst liveBump⟩
    rw [regions, flatMap_map, nodup_flatMap]
    constructor
    · intro region _
      apply Nodup.filter
      cases liveRegion : db.chip_region_inst_tbl.objs region with
      | none => exact nodup_nil
      | some regionInst => exact linked.bumps_nodup region regionInst liveRegion
    · apply (linked.regions_nodup id inst live).imp
      intro first second different
      rw [Function.onFun, disjoint_left]
      intro bump inFirst inSecond
      rcases owner first bump inFirst with ⟨one, liveOne, isFirst⟩
      rcases owner second bump inSecond with ⟨two, liveTwo, isSecond⟩
      rw [liveOne] at liveTwo
      cases liveTwo
      exact different (isFirst.symm.trans isSecond)

lemma unfold_connects (linked : db.Linked) (fuel : Nat) (done : unfold db fuel chipId = .ok m) :
    Finishes db chipId m ∧ ∃ visits : List (List Nat × Nat), visits.Nodup ∧
      (∀ path target, (path, target) ∈ visits ↔ HierPath db chipId path target) ∧
      Connects db m.keys visits UnfoldedModel.empty m := by
  have chips := unfold_paths db linked.nodup fuel chipId m done
  rcases except_bind_ok done with ⟨top, there, done⟩
  rcases except_bind_ok done with ⟨subs, doneSubs, done⟩
  rcases except_bind_ok done with ⟨connected, doneConns, doneNets⟩
  replace there := follow_ok there
  have isKeys : m.keys.map Prod.fst = m.unfolded_chips.map UnfoldedChip.chip_inst_path := by
    rw [UnfoldedModel.keys, map_map]
    rfl
  have leaves : ∀ path, path ∈ m.keys.map Prod.fst ↔ LeafPath db chipId path := by
    rw [isKeys]
    exact chips.2.1
  have keys := (unfoldNets_keys [] top.nets connected m doneNets).1.trans
    (unfoldConnections_keys [] top.conns subs connected doneConns).1
  have below := foldlM_stage (fun id m m' done => @buildUnfoldedChip_stage db chipId fuel id [] m m' done)
    top.chipinsts UnfoldedModel.empty subs doneSubs
  have own : Stage db chipId [([], chipId)] subs m := by
    apply connect_stage there doneConns doneNets
    intro final isFront unique isLeaf
    apply settled_below there doneSubs isFront unique
    intro rest member
    rcases mem_map.mp member with ⟨chip, inFinal, isPath⟩
    rw [nil_append] at isPath
    exact isPath ▸ isLeaf chip inFinal
  have stage := stage_append below own
  have sameVisits : ((top.chipinsts.flatMap (hierPaths db fuel)).map
      fun visit : List Nat × Nat => ([] ++ visit.1, visit.2)) ++ [([], chipId)] =
      hierVisits db fuel chipId top.chipinsts := by
    simp only [nil_append, Prod.mk.eta, map_id', hierVisits]
  rw [sameVisits] at stage
  have kept := stage.kept ⟨mapped_empty, List.forall_mem_nil _⟩
  have finishes : Finishes db chipId m :=
    ⟨uniqueKeys_exact linked (isKeys ▸ chips.1) kept.2, leaves, kept.2⟩
  refine ⟨finishes, hierVisits db fuel chipId top.chipinsts, ?_, ?_, ?_⟩
  · exact hierVisits_nodup (linked.nodup chipId top there) (hierPaths_nodup linked.nodup fuel)
  · intro path target
    constructor
    · intro member
      rcases mem_append.mp member with inBelow | isOwn
      · rcases mem_flatMap.mp inBelow with ⟨id, inside, inPaths⟩
        exact hierPath_of_mem fuel chipId top id (path, target) there inside inPaths
      · cases mem_singleton.mp isOwn
        exact .here
    · intro hierPath
      cases path with
      | nil =>
        cases hierPath
        exact mem_append_right _ mem_cons_self
      | cons id rest =>
        have inside : id ∈ top.chipinsts := by
          cases hierPath with
          | down thereTop member => exact Option.some.inj (thereTop.symm.trans there) ▸ member
        rcases foldlM_each top.chipinsts _ subs doneSubs id inside with ⟨mid, mid', doneId⟩
        exact mem_append_left _ (mem_flatMap.mpr ⟨id, inside,
          mem_hierPaths fuel chipId id rest target hierPath ⟨_, _, mid, mid', doneId⟩⟩)
  · exact stage.connects m.keys ⟨mapped_empty, List.forall_mem_nil _⟩
      (prefix_refl _) finishes.unique fun chip member =>
        (leaves chip.1).mp (mem_map_of_mem member)

variable {chip : DbChip} {rest : List Nat} {regionInst bump : Nat}

lemma chip_found (linked : db.Linked) (finishes : Finishes db chipId m)
    (hierPath : HierPath db chipId path target) (there : db.chip_tbl.objs target = some chip)
    (regionPath : RegionPath db target rest regionInst) (onLeaf : OnLeaf db regionInst) :
    ∃ (i : Nat) (inst : DbChipInst), m.keys[i]? = some (path ++ rest,
        inst.chip_region_insts.map fun region => (region, placedBumps db region)) ∧
      regionInst ∈ inst.chip_region_insts := by
  rcases regionPath with ⟨childPath, object, inst, liveRegion, isLast, live⟩
  have leaf : ∀ master, db.chip_tbl.objs inst.master_chip = some master → master.type ≠ .HIER :=
    fun master thereMaster => onLeaf object inst master liveRegion live thereMaster
  have below := leafPath_of_child linked live leaf rest target chip there childPath isLast
  have member := (finishes.leaves _).mpr (leafPath_append hierPath below)
  rcases mem_map.mp member with ⟨keys, inKeys, isPath⟩
  rcases mem_iff_getElem?.mp inKeys with ⟨i, isKeys⟩
  rcases finishes.exact' keys inKeys with ⟨id, inst', isLast', live', regions⟩
  rw [isPath, getLast?_append_some isLast] at isLast'
  cases isLast'
  rw [live] at live'
  cases live'
  refine ⟨i, inst, ?_, linked.region_listed regionInst object liveRegion inst live⟩
  rw [isKeys, ← isPath, ← regions]

lemma region_found (linked : db.Linked) (finishes : Finishes db chipId m)
    (hierPath : HierPath db chipId path target) (there : db.chip_tbl.objs target = some chip)
    (regionPath : RegionPath db target rest regionInst) (onLeaf : OnLeaf db regionInst) :
    ∃ ptr, RegionIn m.keys (path ++ rest) regionInst ptr := by
  rcases chip_found linked finishes hierPath there regionPath onLeaf with ⟨i, inst, isKeys, listed⟩
  rcases mem_iff_getElem?.mp listed with ⟨j, isRegion⟩
  refine ⟨(i, j), _, (regionInst, placedBumps db regionInst), isKeys, rfl, ?_, rfl⟩
  rw [getElem?_map, isRegion]
  rfl

lemma bump_found (linked : db.Linked) (finishes : Finishes db chipId m)
    (hierPath : HierPath db chipId path target) (there : db.chip_tbl.objs target = some chip)
    {bumpInst : DbChipBumpInst} (live : db.chip_bump_inst_tbl.objs bump = some bumpInst)
    (regionPath : RegionPath db target rest bumpInst.chip_region_inst)
    (onLeaf : OnLeaf db bumpInst.chip_region_inst) (placed : db.placed bump = true) :
    ∃ ptr, BumpIn m.keys (path ++ rest) bump ptr := by
  rcases chip_found linked finishes hierPath there regionPath onLeaf with ⟨i, inst, isKeys, listed⟩
  rcases regionPath with ⟨_, object, _, liveRegion, _⟩
  rcases mem_iff_getElem?.mp listed with ⟨j, isRegion⟩
  have inBumps : bump ∈ placedBumps db bumpInst.chip_region_inst := by
    rw [placedBumps, liveRegion]
    exact mem_filter.mpr ⟨linked.bump_listed bump bumpInst live object liveRegion, placed⟩
  rcases mem_iff_getElem?.mp inBumps with ⟨k, isBump⟩
  refine ⟨(i, j, k), _, (bumpInst.chip_region_inst, placedBumps db bumpInst.chip_region_inst),
    isKeys, rfl, ?_, isBump⟩
  rw [getElem?_map, isRegion]
  rfl

lemma bumpIn_placed (finishes : Finishes db chipId m) {ptr : BumpPtr}
    (isIn : BumpIn m.keys path bump ptr) : db.placed bump = true := by
  rcases isIn with ⟨chip, region, isKeys, _, inChip, inRegion⟩
  rcases finishes.exact' chip (mem_of_getElem? isKeys) with ⟨_, inst, _, _, regions⟩
  have member := mem_of_getElem? inChip
  rw [regions] at member
  rcases mem_map.mp member with ⟨id, _, rfl⟩
  exact (mem_filter.mp (mem_of_getElem? inRegion)).2

lemma mem_visited {list : DbChip → List Nat} {visits : List (List Nat × Nat)} {id : Nat} :
    (path, id) ∈ visited db list visits ↔
      ∃ target chip, (path, target) ∈ visits ∧ db.chip_tbl.objs target = some chip ∧
        id ∈ list chip := by
  rw [visited, mem_flatMap]
  constructor
  · rintro ⟨⟨front, target⟩, inVisits, member⟩
    rcases mem_map.mp member with ⟨other, inList, same⟩
    rw [Prod.mk.injEq] at same
    rcases same with ⟨rfl, rfl⟩
    cases there : db.chip_tbl.objs target with
    | none =>
      rw [there] at inList
      cases inList
    | some chip =>
      rw [there] at inList
      exact ⟨target, chip, inVisits, there, inList⟩
  · rintro ⟨target, chip, inVisits, there, inList⟩
    refine ⟨(path, target), inVisits, mem_map.mpr ⟨id, ?_, rfl⟩⟩
    rw [there]
    exact inList

lemma endAt_of_in {ptr : Option RegionPtr} (isEnd : EndIn m.keys path regionInst ptr)
    (found : regionInst ≠ 0 → ∃ p, RegionIn m.keys path regionInst p) :
    EndAt m path regionInst ptr := by
  cases ptr with
  | none =>
    by_contra nonzero
    rcases found nonzero with ⟨p, isIn⟩
    cases (isEnd p).mpr ⟨nonzero, isIn⟩
  | some p => exact (isEnd p).mp rfl

lemma filterMap_placed {find : List Nat × Nat → Option BumpPtr} (entries : List (List Nat × Nat))
    (found : ∀ entry ∈ entries, db.placed entry.2 = true → (find entry).isSome)
    (missed : ∀ entry ∈ entries, ¬ db.placed entry.2 = true → find entry = none) :
    Forall₂ (fun entry ptr => find entry = some ptr)
      (entries.filter fun entry => db.placed entry.2) (entries.filterMap find) := by
  induction entries with
  | nil => exact .nil
  | cons entry entries ih =>
    have rest := ih (fun other member => found other (mem_cons_of_mem entry member))
      (fun other member => missed other (mem_cons_of_mem entry member))
    by_cases placed : db.placed entry.2 = true
    · rcases Option.isSome_iff_exists.mp (found entry mem_cons_self placed) with ⟨ptr, isPtr⟩
      rw [filter_cons, if_pos placed, filterMap_cons_some isPtr]
      exact .cons isPtr rest
    · rw [filter_cons, if_neg placed,
        filterMap_cons_none (missed entry mem_cons_self placed)]
      exact rest

lemma exact_of_onLeaves (linked : db.Linked) (checked : db.Checked)
    (finishes : Finishes db chipId m) {visits : List (List Nat × Nat)} (nodup : visits.Nodup)
    (complete : ∀ path target, (path, target) ∈ visits ↔ HierPath db chipId path target)
    (connects : Connects db m.keys visits UnfoldedModel.empty m) (onLeaves : OnLeaves db chipId) :
    ConnectivityExact db chipId m := by
  rcases connects with ⟨connections, nets, eachConn, addsConns, eachNet, addsNets⟩
  have isConn : Forall₂ (ConnectionAt db m) (visited db DbChip.conns visits) connections := by
    apply forall₂_weaken eachConn
    rintro ⟨path, id⟩ member connection ⟨isId, conn, live, top, bottom⟩
    rcases mem_visited.mp member with ⟨target, chip, inVisits, there, listed⟩
    have hierPath := (complete path target).mp inVisits
    refine ⟨isId, conn, live, endAt_of_in top ?_, endAt_of_in bottom ?_⟩
    · intro _
      exact region_found linked finishes hierPath there
        (checked.top target chip there id listed conn live).2
        (onLeaves.top path target chip hierPath there id listed conn live)
    · intro nonzero
      exact region_found linked finishes hierPath there
        (checked.bottom target chip there id listed conn live nonzero)
        (onLeaves.bottom path target chip hierPath there id listed conn live nonzero)
  have noneDropped : connections.filter UnfoldedConnection.hasEnd = connections := by
    rw [filter_eq_self]
    intro connection member
    rcases forall₂_right isConn member with ⟨⟨path, id⟩, inVisited, _, conn, live, top, _⟩
    rcases mem_visited.mp inVisited with ⟨target, chip, _, there, listed⟩
    have nonzero := (checked.top target chip there id listed conn live).1
    rw [UnfoldedConnection.hasEnd, Bool.or_eq_true]
    cases isTop : connection.top_region with
    | none =>
      rw [isTop] at top
      exact absurd top nonzero
    | some ptr => exact .inl rfl
  refine ⟨visits, nodup, complete, ?_, ?_⟩
  · rw [addsConns, noneDropped]
    exact isConn
  · rw [addsNets]
    apply forall₂_weaken eachNet
    rintro ⟨path, id⟩ member unfolded ⟨isId, net, find, live, finds, bumps⟩
    rcases mem_visited.mp member with ⟨target, chip, inVisits, there, listed⟩
    have hierPath := (complete path target).mp inVisits
    refine ⟨isId, net, live, ?_⟩
    rw [bumps]
    refine (filterMap_placed net.bump_insts_paths ?_ ?_).imp fun entry ptr =>
      (finds entry ptr).mp
    · intro entry inNet placed
      rcases checked.nets target chip there id listed net live entry inNet with
        ⟨bumpInst, liveBump, regionPath⟩
      have onLeaf := onLeaves.nets path target chip hierPath there id listed net live entry inNet
        placed bumpInst liveBump
      rcases bump_found linked finishes hierPath there liveBump regionPath onLeaf placed with
        ⟨ptr, isIn⟩
      rw [(finds entry ptr).mpr isIn]
      rfl
    · intro entry _ unplaced
      cases isFound : find entry with
      | none => rfl
      | some ptr => exact absurd (bumpIn_placed finishes ((finds entry ptr).mp isFound)) unplaced

lemma onLeaf_of_path (finishes : Finishes db chipId m)
    (regionPath : RegionPath db target rest regionInst)
    (member : path ++ rest ∈ m.keys.map Prod.fst) : OnLeaf db regionInst := by
  rcases regionPath with ⟨_, object, inst, liveRegion, isLast, live⟩
  intro object' inst' master liveRegion' live' thereMaster
  rw [liveRegion] at liveRegion'
  cases liveRegion'
  rw [live] at live'
  cases live'
  exact leafPath_last live thereMaster ((finishes.leaves _).mp member) (getLast?_append_some isLast)

lemma regionIn_path {ptr : RegionPtr} (isIn : RegionIn m.keys path regionInst ptr) :
    path ∈ m.keys.map Prod.fst := by
  rcases isIn with ⟨chip, _, isKeys, isPath, _⟩
  exact isPath ▸ mem_map_of_mem (mem_of_getElem? isKeys)

lemma bumpIn_path {ptr : BumpPtr} (isIn : BumpIn m.keys path bump ptr) :
    path ∈ m.keys.map Prod.fst := by
  rcases isIn with ⟨chip, _, isKeys, isPath, _⟩
  exact isPath ▸ mem_map_of_mem (mem_of_getElem? isKeys)

lemma endAt_path {ptr : Option RegionPtr} (isEnd : EndAt m path regionInst ptr)
    (nonzero : regionInst ≠ 0) : path ∈ m.keys.map Prod.fst := by
  cases ptr with
  | none => exact absurd isEnd nonzero
  | some p => exact regionIn_path isEnd.2

lemma onLeaves_of_exact (checked : db.Checked) (finishes : Finishes db chipId m)
    (connected : ConnectivityExact db chipId m) : OnLeaves db chipId := by
  rcases connected with ⟨visits, _, complete, eachConn, eachNet⟩
  have atConn : ∀ path target chip, HierPath db chipId path target →
      db.chip_tbl.objs target = some chip → ∀ id ∈ chip.conns, ∀ conn,
        db.chip_conn_tbl.objs id = some conn → ∃ top bottom,
          EndAt m (path ++ conn.top_region_path) conn.top_region top ∧
          EndAt m (path ++ conn.bottom_region_path) conn.bottom_region bottom := by
    intro path target chip hierPath there id listed conn live
    have member : (path, id) ∈ visited db DbChip.conns visits :=
      mem_visited.mpr ⟨target, chip, (complete path target).mpr hierPath, there, listed⟩
    rcases forall₂_left eachConn member with ⟨connection, _, _, conn', live', top, bottom⟩
    rw [live] at live'
    cases live'
    exact ⟨_, _, top, bottom⟩
  constructor
  · intro path target chip hierPath there id listed conn live
    rcases atConn path target chip hierPath there id listed conn live with ⟨top, _, isTop, _⟩
    have ofTop := checked.top target chip there id listed conn live
    exact onLeaf_of_path finishes ofTop.2 (endAt_path isTop ofTop.1)
  · intro path target chip hierPath there id listed conn live nonzero
    rcases atConn path target chip hierPath there id listed conn live with ⟨_, bottom, _, isBottom⟩
    exact onLeaf_of_path finishes (checked.bottom target chip there id listed conn live nonzero)
      (endAt_path isBottom nonzero)
  · intro path target chip hierPath there id listed net live entry inNet placed bumpInst liveBump
    have member : (path, id) ∈ visited db DbChip.nets visits :=
      mem_visited.mpr ⟨target, chip, (complete path target).mpr hierPath, there, listed⟩
    rcases forall₂_left eachNet member with ⟨unfolded, _, _, net', live', bumps⟩
    rw [live] at live'
    cases live'
    rcases forall₂_left bumps (mem_filter.mpr ⟨inNet, placed⟩) with ⟨ptr, _, isIn⟩
    rcases checked.nets target chip there id listed net live entry inNet with
      ⟨bumpInst', liveBump', regionPath⟩
    rw [liveBump] at liveBump'
    cases liveBump'
    exact onLeaf_of_path finishes regionPath (bumpIn_path isIn)

end Exact

/-- Connectivity is exact exactly if connections and nets are on chips that are not hierarchical. -/
theorem connectivity_exact (db : ChipDatabase) (linked : db.Linked) (checked : db.Checked)
    (acyclic : Terminates db.hierarchy.Contains) (chipId : Nat) (top : DbChip)
    (there : db.chip_tbl.objs chipId = some top) :
    ∃ m bound, (∀ fuel, bound ≤ fuel → unfold db fuel chipId = .ok m) ∧
      (ConnectivityExact db chipId m ↔ OnLeaves db chipId) := by
  rcases unfold_returns linked.toSound acyclic chipId top there with ⟨m, bound, same⟩
  have done : unfold db bound chipId = .ok m := same bound (le_refl bound)
  rcases unfold_connects linked bound done with ⟨finishes, visits, nodup, complete, connects⟩
  refine ⟨m, bound, same, onLeaves_of_exact checked finishes, ?_⟩
  exact exact_of_onLeaves linked checked finishes nodup complete connects

/-- A die and a chip with another die in it; a connection leads from the die to a region of that
chip. -/
def bridgedDatabase : ChipDatabase where
  chip := 1
  chip_hash := [("die", 3), ("stack", 2), ("top", 1)]
  chip_tbl := tableOf [
    { newChip "top" .HIER 0 with chipinsts := [2, 1], conns := [1] },
    { newChip "stack" .HIER 0 with
      chipinsts := [3]
      chip_region_map := [("cover", 1)]
      chip_region_tbl := tableOf [newRegion "cover" .FRONT 0] },
    { newChip "die" .DIE 1 with
      chip_region_map := [("front", 1)]
      chip_region_tbl := tableOf [newRegion "front" .FRONT 0] }]
  chip_inst_tbl := tableOf [
    { newChipInst "die" 3 1 with chip_region_insts := [1] },
    { newChipInst "stack" 2 1 with chip_region_insts := [2] },
    { newChipInst "inner" 3 2 with chip_region_insts := [3] }]
  chip_region_inst_tbl := tableOf [⟨1, 1, []⟩, ⟨1, 2, []⟩, ⟨1, 3, []⟩]
  chip_bump_inst_tbl := Store.empty
  chip_conn_tbl := tableOf [⟨"bridge", 0, 1, 1, 2, [1], [2]⟩]
  chip_net_tbl := Store.empty

lemma bridgedDatabase_sound : bridgedDatabase.Sound where
  nodup := tableOf_all (by decide)
  insts := tableOf_live DbChip.chipinsts rfl
  conns := tableOf_live DbChip.conns rfl
  nets := tableOf_live DbChip.nets rfl
  masters := fun id inst live =>
    tableOf_live (fun inst => [inst.master_chip]) rfl id inst live _ mem_cons_self
  regionInsts := by
    apply tableOf_all
    simp only [forall_mem_cons, newChipInst, not_mem_nil, false_implies, implies_true,
      and_true]
    exact ⟨⟨_, _, rfl, rfl⟩, ⟨_, _, rfl, rfl⟩, ⟨_, _, rfl, rfl⟩⟩
  bumpInsts := by
    apply tableOf_all
    simp only [forall_mem_cons, not_mem_nil, false_implies, implies_true, and_true]

lemma bridgedDatabase_linked : bridgedDatabase.Linked where
  toSound := bridgedDatabase_sound
  regions_nodup := tableOf_all (by decide)
  bumps_nodup := tableOf_all (by decide)
  bump_owner := by
    intro id regionInst live bump listed bumpInst liveBump
    cases liveBump
  children := by
    intro id inst live parent there
    rcases id with _ | _ | _ | _ | _
    · cases live
    · cases live
      cases there
      decide
    · cases live
      cases there
      decide
    · cases live
      cases there
      decide
    · cases live
  region_listed := by
    intro id regionInst live inst liveInst
    rcases id with _ | _ | _ | _ | _
    · cases live
    · cases live
      cases liveInst
      decide
    · cases live
      cases liveInst
      decide
    · cases live
      cases liveInst
      decide
    · cases live
  bump_listed := by
    intro id bumpInst live
    cases live

lemma bridgedDatabase_checked : bridgedDatabase.Checked where
  top := by
    intro chipId chip there id listed conn live
    match chipId with
    | 0 => cases there
    | 1 =>
      cases there
      cases mem_singleton.mp listed
      cases live
      exact ⟨by decide, ⟨_, rfl, rfl, trivial⟩, _, _, rfl, rfl, rfl⟩
    | 2 | 3 =>
      cases there
      cases listed
    | _ + 4 => cases there
  bottom := by
    intro chipId chip there id listed conn live _
    match chipId with
    | 0 => cases there
    | 1 =>
      cases there
      cases mem_singleton.mp listed
      cases live
      exact ⟨⟨_, rfl, rfl, trivial⟩, _, _, rfl, rfl, rfl⟩
    | 2 | 3 =>
      cases there
      cases listed
    | _ + 4 => cases there
  nets := by
    intro chipId chip _ id _ net live
    cases live

lemma bridgedDatabase_terminates : Terminates bridgedDatabase.hierarchy.Contains := by
  apply terminates_of_rank fun id => 3 - id
  rintro a b ⟨list, there, id, member, parent, live⟩
  match a with
  | 0 => cases there
  | 1 =>
    cases there
    rcases mem_pair.mp member with rfl | rfl
    · cases live
      decide
    · cases live
      decide
  | 2 =>
    cases there
    cases mem_singleton.mp member
    cases live
    decide
  | 3 =>
    cases there
    cases member
  | _ + 4 => cases there

theorem connectivity_exact_sample :
    ∃ m bound, (∀ fuel, bound ≤ fuel → unfold bridgedDatabase fuel 1 = .ok m) ∧
      (ConnectivityExact bridgedDatabase 1 m ↔ OnLeaves bridgedDatabase 1) :=
  connectivity_exact bridgedDatabase bridgedDatabase_linked bridgedDatabase_checked
    bridgedDatabase_terminates 1 _ rfl

/-- The connection of the top chip has lost its region on the hierarchical instance. -/
theorem hierarchical_region_lost : bridgedDatabase.Linked ∧ bridgedDatabase.Checked ∧
    Terminates bridgedDatabase.hierarchy.Contains ∧
    ∃ m, unfold bridgedDatabase 3 1 = .ok m ∧ ¬ ConnectivityExact bridgedDatabase 1 m := by
  refine ⟨bridgedDatabase_linked, bridgedDatabase_checked, bridgedDatabase_terminates, ?_⟩
  have shows : (unfold bridgedDatabase 3 1).toOption.map (·.unfolded_connections) =
      some [⟨1, some (1, 0), none⟩] := by
    decide
  cases done : unfold bridgedDatabase 3 1 with
  | error fault =>
    rw [done] at shows
    cases shows
  | ok m =>
    rw [done] at shows
    have isConn : m.unfolded_connections = [⟨1, some (1, 0), none⟩] := Option.some.inj shows
    refine ⟨m, rfl, ?_⟩
    rintro ⟨visits, _, _, connections, _⟩
    rw [isConn] at connections
    rcases forall₂_right connections mem_cons_self with
      ⟨⟨path, id⟩, _, isId, conn, live, _, bottom⟩
    cases isId
    cases live
    cases bottom

end OpenRoad.Odb
