import OpenRoad.Odb.UnfoldKeys

/-! The unfolded connections and nets are those of the hierarchical chips, once for each path to
them. -/

namespace OpenRoad.Odb

open OpenRoad.Lib List UnfoldedConnection

/-- `path` leads from the chip to a hierarchical chip; the empty path leads to the chip itself. -/
inductive HierPath (db : ChipDatabase) : Nat → List Nat → Nat → Prop where
  | here {chipId} : HierPath db chipId [] chipId
  | down {chipId id chip inst master rest target} (there : db.chip_tbl.objs chipId = some chip)
      (member : id ∈ chip.chipinsts) (live : db.chip_inst_tbl.objs id = some inst)
      (thereMaster : db.chip_tbl.objs inst.master_chip = some master) (hier : master.type = .HIER)
      (below : HierPath db inst.master_chip rest target) : HierPath db chipId (id :: rest) target

/-- The hierarchical chips from an instance down in the order in which their connections are
unfolded. -/
def hierPaths (db : ChipDatabase) : Nat → Nat → List (List Nat × Nat)
  | 0, _ => []
  | fuel + 1, id =>
    match db.chip_inst_tbl.objs id with
    | none => []
    | some inst =>
      match db.chip_tbl.objs inst.master_chip with
      | none => []
      | some master =>
        if master.type = .HIER then
          (master.chipinsts.flatMap (hierPaths db fuel) ++ [([], inst.master_chip)]).map
            fun visit : List Nat × Nat => (id :: visit.1, visit.2)
        else []

section Paths

variable {db : ChipDatabase}

lemma hierPaths_head (fuel id : Nat) (visit : List Nat × Nat)
    (member : visit ∈ hierPaths db fuel id) : visit.1.head? = some id := by
  cases fuel with
  | zero => cases member
  | succ fuel =>
    rw [hierPaths] at member
    split at member
    · cases member
    · split at member
      · cases member
      · split at member
        · rcases mem_map.mp member with ⟨rest, _, rfl⟩
          rfl
        · cases member

def hierVisits (db : ChipDatabase) (fuel chipId : Nat) (chipinsts : List Nat) :
    List (List Nat × Nat) :=
  chipinsts.flatMap (hierPaths db fuel) ++ [([], chipId)]

lemma hierVisits_nodup {fuel chipId : Nat} {ids : List Nat} (nodup : ids.Nodup)
    (each : ∀ id, (hierPaths db fuel id).Nodup) : (hierVisits db fuel chipId ids).Nodup := by
  rw [hierVisits, nodup_append]
  refine ⟨?_, nodup_singleton _, ?_⟩
  · rw [nodup_flatMap]
    refine ⟨fun id _ => each id, ?_⟩
    apply List.Pairwise.imp _ nodup
    intro first second different
    rw [Function.onFun, disjoint_left]
    intro visit inFirst inSecond
    apply different
    apply Option.some.inj
    rw [← hierPaths_head fuel first visit inFirst, hierPaths_head fuel second visit inSecond]
  · intro visit member own isOwn same
    rcases mem_flatMap.mp member with ⟨id, _, inPaths⟩
    have head := hierPaths_head fuel id visit inPaths
    rw [same, mem_singleton.mp isOwn] at head
    cases head

lemma hierPaths_nodup
    (nodup : ∀ id chip, db.chip_tbl.objs id = some chip → chip.chipinsts.Nodup) (fuel id : Nat) :
    (hierPaths db fuel id).Nodup := by
  induction fuel generalizing id with
  | zero => exact nodup_nil
  | succ fuel ih =>
    rw [hierPaths]
    split
    · exact nodup_nil
    · rename_i inst _
      split
      · exact nodup_nil
      · rename_i master there
        split
        · have all : (hierVisits db fuel inst.master_chip master.chipinsts).Nodup :=
            hierVisits_nodup (nodup _ _ there) ih
          apply all.map
          intro first second same
          simp only [Prod.mk.injEq, List.cons.injEq, true_and] at same
          exact Prod.ext same.1 same.2
        · exact nodup_nil

lemma hierPath_of_mem (fuel : Nat) :
    ∀ chipId chip id visit, db.chip_tbl.objs chipId = some chip → id ∈ chip.chipinsts →
      visit ∈ hierPaths db fuel id → HierPath db chipId visit.1 visit.2 := by
  induction fuel with
  | zero =>
    intro chipId chip id visit _ _ member
    cases member
  | succ fuel ih =>
    intro chipId chip id visit there inside member
    rw [hierPaths] at member
    split at member
    · cases member
    · rename_i inst live
      split at member
      · cases member
      · rename_i master thereMaster
        split at member
        · rename_i hier
          rcases mem_map.mp member with ⟨rest, inRest, rfl⟩
          rcases mem_append.mp inRest with below | own
          · rcases mem_flatMap.mp below with ⟨sub, inSubs, inSub⟩
            exact .down there inside live thereMaster hier
              (ih inst.master_chip master sub rest thereMaster inSubs inSub)
          · rw [mem_singleton.mp own]
            exact .down there inside live thereMaster hier .here
        · cases member

lemma mem_hierPaths (fuel : Nat) :
    ∀ chipId id rest target, HierPath db chipId (id :: rest) target →
      (∃ path total m m', buildUnfoldedChip db fuel id path total m = .ok m') →
      (id :: rest, target) ∈ hierPaths db fuel id := by
  induction fuel with
  | zero =>
    rintro chipId id rest target _ ⟨path, total, m, m', done⟩
    cases done
  | succ fuel ih =>
    rintro chipId id rest target hierPath ⟨path, total, m, m', done⟩
    cases hierPath with
    | @down _ _ _ inst master _ _ there member live thereMaster hier below =>
      rw [buildUnfoldedChip, live] at done
      simp only [follow_some, ok_bind, thereMaster, hier, if_true] at done
      rcases except_bind_ok done with ⟨subs, doneSubs, _⟩
      rw [hierPaths, live]
      simp only [thereMaster, hier, if_true, mem_map]
      refine ⟨(rest, target), ?_, rfl⟩
      cases rest with
      | nil =>
        cases below
        exact mem_append_right _ mem_cons_self
      | cons sub rest =>
        have inSubs : sub ∈ master.chipinsts := by
          cases below with
          | down thereSub member =>
            exact Option.some.inj (thereSub.symm.trans thereMaster) ▸ member
        rcases foldlM_each master.chipinsts m subs doneSubs sub inSubs with
          ⟨mid, mid', doneSub⟩
        have inSub := ih _ sub rest target below ⟨_, _, mid, mid', doneSub⟩
        exact mem_append_left _ (mem_flatMap.mpr ⟨sub, inSubs, inSub⟩)

lemma leafPath_append {chipId target : Nat} {path rest : List Nat}
    (hierPath : HierPath db chipId path target) (leafPath : LeafPath db target rest) :
    LeafPath db chipId (path ++ rest) := by
  induction hierPath with
  | here => exact leafPath
  | down there member live thereMaster hier _ ih =>
    exact .down there member live thereMaster hier (ih leafPath)

lemma leafPath_below {chipId id : Nat} {inst : DbChipInst} {master : DbChip}
    (live : db.chip_inst_tbl.objs id = some inst)
    (thereMaster : db.chip_tbl.objs inst.master_chip = some master) (hier : master.type = .HIER)
    (path rest : List Nat) (leafPath : LeafPath db chipId (path ++ id :: rest)) :
    LeafPath db inst.master_chip rest := by
  induction path generalizing chipId with
  | nil =>
    cases leafPath with
    | last _ _ live' there leaf =>
      rw [live] at live'
      cases live'
      rw [thereMaster] at there
      cases there
      exact absurd hier leaf
    | down _ _ live' _ _ below =>
      rw [live] at live'
      cases live'
      exact below
  | cons first path ih =>
    cases path with
    | nil =>
      cases leafPath with
      | down _ _ _ _ _ below => exact ih below
    | cons second path =>
      cases leafPath with
      | down _ _ _ _ _ below => exact ih below

end Paths

/-- The end of a connection is the region at the path, and null exactly if there is none. -/
def EndIn (ks : List ChipKeys) (path : List Nat) (regionInst : Nat) (ptr : Option RegionPtr) :
    Prop := ∀ p, ptr = some p ↔ regionInst ≠ 0 ∧ RegionIn ks path regionInst p

/-- `visit` is the path of a chip with one of its connections. -/
def ConnectionIn (db : ChipDatabase) (ks : List ChipKeys) (visit : List Nat × Nat)
    (connection : UnfoldedConnection) : Prop :=
  connection.connection = visit.2 ∧ ∃ conn, db.chip_conn_tbl.objs visit.2 = some conn ∧
    EndIn ks (visit.1 ++ conn.top_region_path) conn.top_region connection.top_region ∧
    EndIn ks (visit.1 ++ conn.bottom_region_path) conn.bottom_region connection.bottom_region

def NetIn (db : ChipDatabase) (ks : List ChipKeys) (visit : List Nat × Nat) (unfolded : UnfoldedNet) :
    Prop :=
  unfolded.chip_net = visit.2 ∧ ∃ net find, db.chip_net_tbl.objs visit.2 = some net ∧
    (∀ entry ptr, find entry = some ptr ↔ BumpIn ks (visit.1 ++ entry.1) entry.2 ptr) ∧
    unfolded.connected_bumps = net.bump_insts_paths.filterMap find

def UnfoldedConnection.hasEnd (connection : UnfoldedConnection) : Bool :=
  connection.top_region.isSome || connection.bottom_region.isSome

section OneChip

variable {db : ChipDatabase} {final : List ChipKeys} {path : List Nat}

lemma endIn_settled {m : UnfoldedModel} (mapped : Mapped m) (isFront : m.keys <+: final)
    (unique : UniqueKeys final) (settled : Settled m.keys final path) (regionInst : Nat) :
    EndIn final path regionInst (m.findUnfoldedRegion (m.findUnfoldedChip path) regionInst) := by
  intro ptr
  rw [findRegion_iff mapped (uniqueKeys_front isFront unique), regionIn_settled isFront settled]

lemma unfoldConnections_keys (path conns : List Nat) (m m' : UnfoldedModel)
    (done : unfoldConnections db path conns m = .ok m') :
    m'.keys = m.keys ∧ (Mapped m → Mapped m') := by
  induction conns generalizing m with
  | nil =>
    cases done
    exact ⟨rfl, id⟩
  | cons id conns ih =>
    rcases except_bind_ok done with ⟨conn, _, done⟩
    rcases ih _ done with ⟨keys, mapped⟩
    split at keys
    · rename_i either
      rw [if_pos either] at mapped
      have first := markUsed_rest m (m.findUnfoldedRegion
        (m.findUnfoldedChip (path ++ conn.top_region_path)) conn.top_region)
      have second := markUsed_rest (m.markUsed (m.findUnfoldedRegion
        (m.findUnfoldedChip (path ++ conn.top_region_path)) conn.top_region))
        (m.findUnfoldedRegion (m.findUnfoldedChip (path ++ conn.bottom_region_path))
          conn.bottom_region)
      refine ⟨keys.trans (second.1.trans first.1), fun old => mapped ?_⟩
      exact mapped_same old (second.1.trans first.1) (second.2.1.trans first.2.1)
        (second.2.2.1.trans first.2.2.1)
    · rename_i neither
      rw [if_neg neither] at mapped
      exact ⟨keys, mapped⟩

lemma unfoldNets_keys (path nets : List Nat) (m m' : UnfoldedModel)
    (done : unfoldNets db path nets m = .ok m') : m'.keys = m.keys ∧ (Mapped m → Mapped m') := by
  induction nets generalizing m with
  | nil =>
    cases done
    exact ⟨rfl, id⟩
  | cons id nets ih =>
    rcases except_bind_ok done with ⟨net, _, done⟩
    rcases ih _ done with ⟨keys, mapped⟩
    exact ⟨keys, fun old => mapped ⟨old.paths, old.bumps⟩⟩

lemma unfoldConnections_adds (conns : List Nat) (m m' : UnfoldedModel)
    (done : unfoldConnections db path conns m = .ok m') (mapped : Mapped m)
    (isFront : m.keys <+: final) (unique : UniqueKeys final)
    (settled : ∀ rest, Settled m.keys final (path ++ rest)) :
    m'.unfolded_nets = m.unfolded_nets ∧
      ∃ all, Forall₂ (ConnectionIn db final) (conns.map (path, ·)) all ∧
        m'.unfolded_connections =
          m.unfolded_connections ++ all.filter hasEnd := by
  induction conns generalizing m with
  | nil =>
    cases done
    exact ⟨rfl, [], .nil, (append_nil _).symm⟩
  | cons id conns ih =>
    rcases except_bind_ok done with ⟨conn, live, done⟩
    replace live := follow_ok live
    have top := endIn_settled mapped isFront unique (settled conn.top_region_path) conn.top_region
    have bottom := endIn_settled mapped isFront unique (settled conn.bottom_region_path)
      conn.bottom_region
    generalize m.findUnfoldedRegion (m.findUnfoldedChip (path ++ conn.top_region_path))
      conn.top_region = topPtr at done top
    generalize m.findUnfoldedRegion (m.findUnfoldedChip (path ++ conn.bottom_region_path))
      conn.bottom_region = bottomPtr at done bottom
    have one : ConnectionIn db final (path, id) ⟨id, topPtr, bottomPtr⟩ :=
      ⟨rfl, conn, live, top, bottom⟩
    have firstMark := markUsed_rest m topPtr
    have marks := markUsed_rest (m.markUsed topPtr) bottomPtr
    dsimp only at done
    by_cases either : topPtr.isSome ∨ bottomPtr.isSome
    · rw [if_pos either] at done
      have sameKeys := marks.1.trans firstMark.1
      rcases ih _ done (mapped_same mapped sameKeys (marks.2.1.trans firstMark.2.1)
        (marks.2.2.1.trans firstMark.2.2.1)) (sameKeys ▸ isFront) (sameKeys ▸ settled) with
        ⟨nets, all, each, adds⟩
      have shows : hasEnd ⟨id, topPtr, bottomPtr⟩ = true := by
        simp only [hasEnd, Bool.or_eq_true]
        exact either
      refine ⟨nets.trans (marks.2.2.2.trans firstMark.2.2.2), ⟨id, topPtr, bottomPtr⟩ :: all,
        .cons one each, ?_⟩
      rw [adds, filter_cons_of_pos shows, append_assoc]
      rfl
    · rw [if_neg either] at done
      rcases ih m done mapped isFront settled with ⟨nets, all, each, adds⟩
      have hides : ¬ hasEnd ⟨id, topPtr, bottomPtr⟩ = true := by
        simp only [hasEnd, Bool.or_eq_true]
        exact either
      refine ⟨nets, ⟨id, topPtr, bottomPtr⟩ :: all, .cons one each, ?_⟩
      rw [adds, filter_cons_of_neg hides]

lemma unfoldNets_adds (nets : List Nat) (m m' : UnfoldedModel)
    (done : unfoldNets db path nets m = .ok m') (mapped : Mapped m)
    (isFront : m.keys <+: final) (unique : UniqueKeys final)
    (settled : ∀ rest, Settled m.keys final (path ++ rest)) :
    m'.unfolded_connections = m.unfolded_connections ∧
      ∃ all, Forall₂ (NetIn db final) (nets.map (path, ·)) all ∧
        m'.unfolded_nets = m.unfolded_nets ++ all := by
  induction nets generalizing m with
  | nil =>
    cases done
    exact ⟨rfl, [], .nil, (append_nil _).symm⟩
  | cons id nets ih =>
    rcases except_bind_ok done with ⟨net, live, done⟩
    replace live := follow_ok live
    rcases ih _ done ⟨mapped.paths, mapped.bumps⟩ isFront settled with
      ⟨conns, all, each, adds⟩
    have one : NetIn db final (path, id) ⟨id, net.bump_insts_paths.filterMap fun entry =>
        m.bump_inst_map.lookup (entry.2, path ++ entry.1)⟩ := by
      refine ⟨rfl, net, _, live, ?_, rfl⟩
      intro entry ptr
      rw [findBump_iff mapped (uniqueKeys_front isFront unique),
        bumpIn_settled isFront (settled entry.1)]
    refine ⟨conns, _ :: all, .cons one each, ?_⟩
    rw [adds, append_assoc]
    rfl

end OneChip

def visited (db : ChipDatabase) (list : DbChip → List Nat) (visits : List (List Nat × Nat)) :
    List (List Nat × Nat) :=
  visits.flatMap fun visit =>
    ((db.chip_tbl.objs visit.2).elim [] list).map fun id => (visit.1, id)

/-- What the visits add to the connections and nets. -/
def Connects (db : ChipDatabase) (final : List ChipKeys) (visits : List (List Nat × Nat))
    (m m' : UnfoldedModel) : Prop :=
  ∃ connections nets,
    List.Forall₂ (ConnectionIn db final) (visited db DbChip.conns visits) connections ∧
    m'.unfolded_connections =
      m.unfolded_connections ++ connections.filter UnfoldedConnection.hasEnd ∧
    List.Forall₂ (NetIn db final) (visited db DbChip.nets visits) nets ∧
    m'.unfolded_nets = m.unfolded_nets ++ nets

section Recursion

variable {db : ChipDatabase} {final : List ChipKeys} {top : Nat}

variable {m m' mid : UnfoldedModel}

lemma connects_nil (connections : m'.unfolded_connections = m.unfolded_connections)
    (nets : m'.unfolded_nets = m.unfolded_nets) : Connects db final [] m m' :=
  ⟨[], [], .nil, by rw [connections, filter_nil, append_nil], .nil,
    by rw [nets, append_nil]⟩

lemma connects_append {first second : List (List Nat × Nat)} (one : Connects db final first m mid)
    (two : Connects db final second mid m') : Connects db final (first ++ second) m m' := by
  rcases one with ⟨connections, nets, isConns, addsConns, isNets, addsNets⟩
  rcases two with ⟨moreConns, moreNets, isMore, addsMore, isMoreNets, addsMoreNets⟩
  refine ⟨connections ++ moreConns, nets ++ moreNets, ?_, ?_, ?_, ?_⟩
  · rw [visited, flatMap_append]
    exact rel_append isConns isMore
  · rw [addsMore, addsConns, append_assoc, filter_append]
  · rw [visited, flatMap_append]
    exact rel_append isNets isMoreNets
  · rw [addsMoreNets, addsNets, append_assoc]

def ChipDatabase.placed (db : ChipDatabase) (bumpInst : Nat) : Bool :=
  ((do
    let object ← db.chip_bump_inst_tbl.objs bumpInst
    let bump ← db.getChipBump object
    db.getInst bump).getD none).isSome

def placedBumps (db : ChipDatabase) (regionInst : Nat) : List Nat :=
  ((db.chip_region_inst_tbl.objs regionInst).elim [] DbChipRegionInst.chip_bump_insts).filter
    db.placed

def KeysExact (db : ChipDatabase) (chip : ChipKeys) : Prop :=
  ∃ id inst, chip.1.getLast? = some id ∧ db.chip_inst_tbl.objs id = some inst ∧
    chip.2 = inst.chip_region_insts.map fun region => (region, placedBumps db region)

lemma unfoldBumps_keys (transform : DbTransform) (z : Int) (bumpInsts : List Nat)
    (bumps : List UnfoldedBump) (done : unfoldBumps db transform z bumpInsts = .ok bumps) :
    bumps.map UnfoldedBump.bump_inst = bumpInsts.filter db.placed := by
  induction bumpInsts generalizing bumps with
  | nil =>
    cases done
    rfl
  | cons id bumpInsts ih =>
    rcases except_bind_ok done with ⟨object, live, done⟩
    rcases except_bind_ok done with ⟨bump, isBump, done⟩
    rcases except_bind_ok done with ⟨inst, isInst, done⟩
    rcases except_bind_ok done with ⟨rest, doneRest, done⟩
    have shows : db.placed id = inst.isSome := by
      simp only [ChipDatabase.placed, follow_ok live, Option.bind_eq_bind, Option.bind_some,
        follow_ok isBump, follow_ok isInst, Option.getD_some]
    cases inst with
    | none =>
      cases done
      rw [ih _ doneRest, filter_cons_of_neg (by rw [shows]; exact Bool.false_ne_true)]
    | some location =>
      cases done
      rw [map_cons, ih rest doneRest, filter_cons_of_pos (by rw [shows]; rfl)]

lemma unfoldRegions_keys (transform : DbTransform) (ids : List Nat)
    (regions : List UnfoldedRegion) (done : unfoldRegions db transform ids = .ok regions) :
    regions.map UnfoldedRegion.keys = ids.map fun region => (region, placedBumps db region) := by
  induction ids generalizing regions with
  | nil =>
    cases done
    rfl
  | cons id ids ih =>
    rcases except_bind_ok done with ⟨regionInst, live, done⟩
    rcases except_bind_ok done with ⟨region, _, done⟩
    rcases except_bind_ok done with ⟨bumps, doneBumps, done⟩
    rcases except_bind_ok done with ⟨rest, doneRest, done⟩
    cases done
    rw [map_cons, map_cons, ih rest doneRest, UnfoldedRegion.keys,
      unfoldBumps_keys _ _ _ _ doneBumps, placedBumps, follow_ok live]
    rfl

def Kept (db : ChipDatabase) (m : UnfoldedModel) : Prop :=
  Mapped m ∧ ∀ chip ∈ m.keys, KeysExact db chip

/-- One stage of the recursion below `top`. -/
structure Stage (db : ChipDatabase) (top : Nat) (visits : List (List Nat × Nat))
    (m m' : UnfoldedModel) : Prop where
  isFront : m.keys <+: m'.keys
  kept : Kept db m → Kept db m'
  connects : ∀ final, Kept db m → m'.keys <+: final → UniqueKeys final →
    (∀ chip ∈ final, LeafPath db top chip.1) → Connects db final visits m m'

lemma stage_refl (m : UnfoldedModel) : Stage db top [] m m :=
  ⟨prefix_refl _, id, fun _ _ _ _ _ => connects_nil rfl rfl⟩

lemma stage_append {first second : List (List Nat × Nat)} (one : Stage db top first m mid)
    (two : Stage db top second mid m') : Stage db top (first ++ second) m m' := by
  refine ⟨one.isFront.trans two.isFront, fun kept => two.kept (one.kept kept), ?_⟩
  intro final kept isFront unique leaves
  exact connects_append (one.connects final kept (two.isFront.trans isFront) unique leaves)
    (two.connects final (one.kept kept) isFront unique leaves)

variable {path : List Nat}

lemma foldlM_stage {fuel : Nat} {total : DbTransform}
    (each : ∀ id m m', buildUnfoldedChip db fuel id path total m = .ok m' →
      Stage db top ((hierPaths db fuel id).map fun visit => (path ++ visit.1, visit.2)) m m')
    (ids : List Nat) (m m' : UnfoldedModel)
    (done : ids.foldlM (fun m sub => buildUnfoldedChip db fuel sub path total m) m = .ok m') :
    Stage db top ((ids.flatMap (hierPaths db fuel)).map fun visit =>
      (path ++ visit.1, visit.2)) m m' := by
  induction ids generalizing m with
  | nil =>
    cases done
    exact stage_refl _
  | cons id ids ih =>
    rw [foldlM_cons] at done
    rcases except_bind_ok done with ⟨mid, first, done⟩
    rw [flatMap_cons, map_append]
    exact stage_append (each id m mid first) (ih mid done)

lemma connect_stage {chipId : Nat} {chip : DbChip}
    (there : db.chip_tbl.objs chipId = some chip)
    (doneConns : unfoldConnections db path chip.conns m = .ok mid)
    (doneNets : unfoldNets db path chip.nets mid = .ok m')
    (settled : ∀ final, m.keys <+: final → UniqueKeys final →
      (∀ chip ∈ final, LeafPath db top chip.1) → ∀ rest, Settled m.keys final (path ++ rest)) :
    Stage db top [(path, chipId)] m m' := by
  have keysConns := unfoldConnections_keys path chip.conns m mid doneConns
  have keysNets := unfoldNets_keys path chip.nets mid m' doneNets
  have keys := keysNets.1.trans keysConns.1
  refine ⟨by rw [keys], ?_, ?_⟩
  · rintro ⟨mapped, exact'⟩
    rw [Kept, keys]
    exact ⟨keysNets.2 (keysConns.2 mapped), exact'⟩
  · intro final kept isFront unique leaves
    rw [keys] at isFront
    have isSettled := settled final isFront unique leaves
    rcases unfoldConnections_adds chip.conns m mid doneConns kept.1 isFront unique isSettled with
      ⟨sameNets, connections, eachConn, addsConns⟩
    rcases unfoldNets_adds chip.nets mid m' doneNets (keysConns.2 kept.1) (keysConns.1 ▸ isFront)
      unique (keysConns.1 ▸ isSettled) with ⟨sameConns, nets, eachNet, addsNets⟩
    refine ⟨connections, nets, ?_, ?_, ?_, ?_⟩
    · rw [visited, flatMap_singleton, there]
      exact eachConn
    · rw [sameConns, addsConns]
    · rw [visited, flatMap_singleton, there]
      exact eachNet
    · rw [addsNets, sameNets]

lemma mem_keys_of_adds {paths : List (List Nat)} (adds : Adds db path paths m m') {rest : List Nat}
    (member : rest ∈ paths) : path ++ rest ∈ m'.keys.map Prod.fst := by
  rcases adds with ⟨added, eq, stands⟩
  rcases mem_iff_getElem.mp member with ⟨i, inRange, isRest⟩
  have inAdded : i < added.length := stands.length_eq ▸ inRange
  have here := (forall₂_iff_get.mp stands).2 i inRange inAdded
  rw [get_eq_getElem, get_eq_getElem, isRest] at here
  have inChips : added[i] ∈ m'.unmarked := by
    rw [eq]
    exact mem_append_right _ (getElem_mem inAdded)
  rcases mem_map.mp inChips with ⟨chip, isChip, same⟩
  rw [UnfoldedModel.keys, map_map]
  refine mem_map.mpr ⟨chip, isChip, ?_⟩
  rw [← here.1, ← same]
  rfl

lemma settled_below {fuel chipId : Nat} {chip : DbChip}
    (there : db.chip_tbl.objs chipId = some chip)
    (done : chip.chipinsts.foldlM
      (fun m sub => buildUnfoldedChip db fuel sub path (pathTransform db path) m) m = .ok m')
    (isFront : m'.keys <+: final) (unique : UniqueKeys final)
    (below : ∀ rest, path ++ rest ∈ final.map Prod.fst → LeafPath db chipId rest)
    (rest : List Nat) : Settled m'.keys final (path ++ rest) := by
  apply settled_of_mem isFront unique
  intro member
  have leafPath := below rest member
  have adds := foldlM_adds (fun id m m' done => buildUnfoldedChip_adds fuel id path m m' done)
    chip.chipinsts m m' done
  exact mem_keys_of_adds adds (leafPath_unfolded there done (below rest member))

lemma buildUnfoldedChip_stage (fuel : Nat) :
    ∀ id path m m', buildUnfoldedChip db fuel id path (pathTransform db path) m = .ok m' →
      Stage db top ((hierPaths db fuel id).map fun visit => (path ++ visit.1, visit.2)) m m' := by
  induction fuel with
  | zero =>
    intro id path m m' done
    cases done
  | succ fuel ih =>
    intro id path m m' done
    rcases except_bind_ok done with ⟨inst, live, done⟩
    rcases except_bind_ok done with ⟨master, there, done⟩
    replace live := follow_ok live
    replace there := follow_ok there
    have isTransform : inst.getTransform.concat (pathTransform db path) =
        pathTransform db (path ++ [id]) := by
      rw [pathTransform_concat, instTransform, live]
      rfl
    rw [isTransform] at done
    rw [hierPaths, live]
    simp only [there]
    split at done
    · rename_i hier
      rw [if_pos hier]
      rcases except_bind_ok done with ⟨subs, doneSubs, done⟩
      rcases except_bind_ok done with ⟨connected, doneConns, doneNets⟩
      have below := foldlM_stage (fun sub m m' done => ih sub (path ++ [id]) m m' done)
        master.chipinsts m subs doneSubs
      have own : Stage db top [(path ++ [id], inst.master_chip)] subs m' := by
        apply connect_stage there doneConns doneNets
        intro final isFront unique leaves
        apply settled_below there doneSubs isFront unique
        intro rest member
        rcases mem_map.mp member with ⟨chip, inFinal, isPath⟩
        have leafPath := leaves chip inFinal
        rw [isPath, append_assoc] at leafPath
        exact leafPath_below live there hier path rest leafPath
      have visits : (List.map (fun visit : List Nat × Nat => (path ++ visit.1, visit.2))
          ((master.chipinsts.flatMap (hierPaths db fuel) ++ [([], inst.master_chip)]).map
            fun visit : List Nat × Nat => (id :: visit.1, visit.2))) =
          ((master.chipinsts.flatMap (hierPaths db fuel)).map fun visit : List Nat × Nat =>
            (path ++ [id] ++ visit.1, visit.2)) ++ [(path ++ [id], inst.master_chip)] := by
        rw [map_map, map_append, map_singleton]
        congr 1
        apply map_congr_left
        intro visit _
        simp only [Function.comp, append_assoc, singleton_append]
      rw [visits]
      exact stage_append below own
    · rename_i leaf
      rw [if_neg leaf]
      rcases except_bind_ok done with ⟨chip, doneChip, done⟩
      cases done
      rcases except_bind_ok doneChip with ⟨name, _, doneChip⟩
      rcases except_bind_ok doneChip with ⟨regions, doneRegions, doneChip⟩
      cases doneChip
      refine ⟨?_, ?_, fun _ _ _ _ _ => connects_nil rfl rfl⟩
      · rw [keys_register]
        exact prefix_append _ _
      · rintro ⟨mapped, exact'⟩
        refine ⟨mapped_register _ mapped, ?_⟩
        intro keys member
        rw [keys_register] at member
        rcases mem_append.mp member with old | new
        · exact exact' keys old
        · rw [mem_singleton.mp new]
          exact ⟨id, inst, getLast?_concat, live, unfoldRegions_keys _ _ _ doneRegions⟩

end Recursion

end OpenRoad.Odb
