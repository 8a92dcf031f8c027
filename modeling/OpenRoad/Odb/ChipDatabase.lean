import OpenRoad.Lib.Effects
import OpenRoad.Lib.Store
import OpenRoad.Odb.Transform

/-! Chips, chip instances and what hangs on them. The lists through `chipinsts_`, `conns_`, `nets_`,
`chip_region_insts_` and `chip_bump_insts_` are kept as lists of ids, head first; `0` is the null
pointer. -/

namespace OpenRoad.Odb

open OpenRoad.Lib

inductive ChipType where
  | DIE | RDL | IP | SUBSTRATE | HIER
  deriving DecidableEq

inductive RegionSide where
  | FRONT | BACK | INTERNAL | INTERNAL_EXT
  deriving DecidableEq

structure DbChipBump where
  inst : Nat
  chip : Nat
  chip_region : Nat

structure DbChipRegion where
  name : String
  side : RegionSide
  box : Rect
  z_min : Int
  z_max : Int
  chip_bump_tbl : Store DbChipBump

/-- `block_insts` are the locations of the instances of the chip's block, if it has one. -/
structure DbChip where
  name : String
  type : ChipType
  width : Int
  height : Int
  thickness : Int
  seal_ring_east : Int
  seal_ring_west : Int
  seal_ring_north : Int
  seal_ring_south : Int
  scribe_line_east : Int
  scribe_line_west : Int
  scribe_line_north : Int
  scribe_line_south : Int
  chipinsts : List Nat
  conns : List Nat
  nets : List Nat
  chipinsts_map : List (String × Nat)
  chip_region_map : List (String × Nat)
  chip_region_tbl : Store DbChipRegion
  tech : Nat
  block_insts : Option (Nat → Option Point)

structure DbChipInst where
  name : String
  origin : Point3D
  orient : DbOrientType3D
  master_chip : Nat
  parent_chip : Nat
  chip_region_insts : List Nat
  region_insts_map : List (Nat × Nat)

structure DbChipRegionInst where
  region : Nat
  parent_chipinst : Nat
  chip_bump_insts : List Nat

structure DbChipBumpInst where
  chip_bump : Nat
  chip_region_inst : Nat

structure DbChipConn where
  name : String
  thickness : Int
  chip : Nat
  top_region : Nat
  bottom_region : Nat
  top_region_path : List Nat
  bottom_region_path : List Nat

structure DbChipNet where
  name : String
  chip : Nat
  bump_insts_paths : List (List Nat × Nat)

structure ChipDatabase where
  chip : Nat
  chip_hash : List (String × Nat)
  chip_tbl : Store DbChip
  chip_inst_tbl : Store DbChipInst
  chip_region_inst_tbl : Store DbChipRegionInst
  chip_bump_inst_tbl : Store DbChipBumpInst
  chip_conn_tbl : Store DbChipConn
  chip_net_tbl : Store DbChipNet

def ChipDatabase.empty : ChipDatabase :=
  ⟨0, [], Store.empty, Store.empty, Store.empty, Store.empty, Store.empty, Store.empty⟩

/-- The page size of `chip_tbl_`. -/
def kChipPage : Nat := 2

def kTablePage : Nat := 128

def tableIds {α : Type} (table : Store α) : List Nat :=
  (List.range (table.pages * kTablePage)).filter fun id => (table.objs id).isSome

/-- A message of the logger, or a pointer to an object that is not there. -/
inductive ChipFault where
  | error (id : Nat) (text : String)
  | dangling
  deriving DecidableEq

abbrev ChipM (α : Type) := Effect ChipDatabase ChipFault α

/-- `error` of the logger under a condition. -/
def checkNot (bad : Prop) [Decidable bad] (id : Nat) (text : String) : ChipM Unit :=
  Effect.check bad (.error id text)

def deref {α : Type} (object : Option α) : ChipM α :=
  match object with
  | some value => pure value
  | none => throw .dangling

def getChip (id : Nat) : ChipM DbChip := do deref ((← get).chip_tbl.objs id)

def getChipInst (id : Nat) : ChipM DbChipInst := do deref ((← get).chip_inst_tbl.objs id)

def getChipRegionInst (id : Nat) : ChipM DbChipRegionInst := do
  deref ((← get).chip_region_inst_tbl.objs id)

def getChipConn (id : Nat) : ChipM DbChipConn := do deref ((← get).chip_conn_tbl.objs id)

def getChipNet (id : Nat) : ChipM DbChipNet := do deref ((← get).chip_net_tbl.objs id)

def modifyChip (id : Nat) (update : DbChip → DbChip) : ChipM Unit := do
  let chip ← getChip id
  modify fun db => { db with chip_tbl := db.chip_tbl.write id (update chip) }

def modifyChipInst (id : Nat) (update : DbChipInst → DbChipInst) : ChipM Unit := do
  let inst ← getChipInst id
  modify fun db => { db with chip_inst_tbl := db.chip_inst_tbl.write id (update inst) }

def setChipConn (id : Nat) (conn : DbChipConn) : ChipM Unit :=
  modify fun db => { db with chip_conn_tbl := db.chip_conn_tbl.write id conn }

def setChipNet (id : Nat) (net : DbChipNet) : ChipM Unit :=
  modify fun db => { db with chip_net_tbl := db.chip_net_tbl.write id net }

section Tables

variable {α : Type} (table : ChipDatabase → Store α) (put : Store α → ChipDatabase → ChipDatabase)

/-- `create` of a table. -/
def allocate (page : Nat) (object : α) : ChipM Nat := do
  let db ← get
  let (id, created) ← deref ((table db).create page object)
  set (put created db)
  pure id

/-- `destroy` of a table. -/
def release (id : Nat) : ChipM Unit := do
  let db ← get
  let destroyed ← deref ((table db).destroy id)
  set (put destroyed db)

end Tables

def createChip : DbChip → ChipM Nat :=
  allocate (·.chip_tbl) (fun table db => { db with chip_tbl := table }) kChipPage

def destroyChip : Nat → ChipM Unit :=
  release (·.chip_tbl) fun table db => { db with chip_tbl := table }

def createChipInst : DbChipInst → ChipM Nat :=
  allocate (·.chip_inst_tbl) (fun table db => { db with chip_inst_tbl := table }) kTablePage

def destroyChipInst : Nat → ChipM Unit :=
  release (·.chip_inst_tbl) fun table db => { db with chip_inst_tbl := table }

def createChipRegionInst : DbChipRegionInst → ChipM Nat :=
  allocate (·.chip_region_inst_tbl) (fun table db => { db with chip_region_inst_tbl := table })
    kTablePage

def destroyChipRegionInst : Nat → ChipM Unit :=
  release (·.chip_region_inst_tbl) fun table db => { db with chip_region_inst_tbl := table }

def createChipBumpInst : DbChipBumpInst → ChipM Nat :=
  allocate (·.chip_bump_inst_tbl) (fun table db => { db with chip_bump_inst_tbl := table })
    kTablePage

def destroyChipBumpInst : Nat → ChipM Unit :=
  release (·.chip_bump_inst_tbl) fun table db => { db with chip_bump_inst_tbl := table }

def createChipConn : DbChipConn → ChipM Nat :=
  allocate (·.chip_conn_tbl) (fun table db => { db with chip_conn_tbl := table }) kTablePage

def destroyChipConn : Nat → ChipM Unit :=
  release (·.chip_conn_tbl) fun table db => { db with chip_conn_tbl := table }

def createChipNet : DbChipNet → ChipM Nat :=
  allocate (·.chip_net_tbl) (fun table db => { db with chip_net_tbl := table }) kTablePage

def destroyChipNet : Nat → ChipM Unit :=
  release (·.chip_net_tbl) fun table db => { db with chip_net_tbl := table }

def DbChip.getBBox (chip : DbChip) : Rect :=
  Rect.init 0 0 (chip.width + chip.scribe_line_east + chip.seal_ring_east + chip.scribe_line_west +
      chip.seal_ring_west)
    (chip.height + chip.scribe_line_north + chip.seal_ring_north + chip.scribe_line_south +
      chip.seal_ring_south)

def DbChip.getCuboid (chip : DbChip) : Cuboid :=
  Cuboid.init chip.getBBox.xlo chip.getBBox.ylo 0 chip.getBBox.xhi chip.getBBox.yhi chip.thickness

def DbChipRegion.getCuboid (region : DbChipRegion) : Cuboid :=
  Cuboid.init region.box.xlo region.box.ylo region.z_min region.box.xhi region.box.yhi region.z_max

def DbChipInst.getTransform (inst : DbChipInst) : DbTransform :=
  DbTransform.ofOrient inst.orient inst.origin

namespace ChipDatabase

/-- `dbChipRegionInst::getChipRegion`. -/
def getChipRegion (db : ChipDatabase) (regionInst : DbChipRegionInst) : Option DbChipRegion := do
  let inst ← db.chip_inst_tbl.objs regionInst.parent_chipinst
  let chip ← db.chip_tbl.objs inst.master_chip
  chip.chip_region_tbl.objs regionInst.region

/-- `dbChipBumpInst::getChipBump`. -/
def getChipBump (db : ChipDatabase) (bumpInst : DbChipBumpInst) : Option DbChipBump := do
  let regionInst ← db.chip_region_inst_tbl.objs bumpInst.chip_region_inst
  let region ← db.getChipRegion regionInst
  region.chip_bump_tbl.objs bumpInst.chip_bump

/-- `dbChipBump::getInst`, as the location of the instance; the inner `none` is a null pointer. -/
def getInst (db : ChipDatabase) (bump : DbChipBump) : Option (Option Point) := do
  if bump.inst = 0 then some none
  else do
    let chip ← db.chip_tbl.objs bump.chip
    let insts ← chip.block_insts
    let location ← insts bump.inst
    some (some location)

end ChipDatabase

def newChip (name : String) (type : ChipType) (tech : Nat) : DbChip where
  name := name
  type := type
  width := 0
  height := 0
  thickness := 0
  seal_ring_east := 0
  seal_ring_west := 0
  seal_ring_north := 0
  seal_ring_south := 0
  scribe_line_east := 0
  scribe_line_west := 0
  scribe_line_north := 0
  scribe_line_south := 0
  chipinsts := []
  conns := []
  nets := []
  chipinsts_map := []
  chip_region_map := []
  chip_region_tbl := Store.empty
  tech := tech
  block_insts := none

/-- `tech = 0` is a null pointer. -/
def dbChip_create (tech : Nat) (name : String) (type : ChipType) : ChipM Nat := do
  let db ← get
  checkNot (db.chip_hash.lookup name).isSome 385 ("Chip " ++ name ++ " already exists")
  let id ← createChip (newChip name type tech)
  modify fun db => { db with
    chip := if db.chip = 0 then id else db.chip
    chip_hash := (name, id) :: db.chip_hash }
  checkNot (tech = 0 ∧ type = .DIE) 422 "Cannot create DIE chip without technology"
  pure id

def newRegion (name : String) (side : RegionSide) (chip_thickness : Int) : DbChipRegion where
  name := name
  side := side
  box := ⟨0, 0, 0, 0⟩
  z_min := if side = .FRONT then chip_thickness else 0
  z_max := if side = .BACK then 0 else chip_thickness
  chip_bump_tbl := Store.empty

/-- `layerTech` is the technology of the layer, if a layer is given. -/
def dbChipRegion_create (chipId : Nat) (name : String) (side : RegionSide)
    (layerTech : Option Nat) : ChipM Nat := do
  if chipId = 0 then pure 0
  else do
    let chip ← getChip chipId
    checkNot (layerTech.any (· ≠ chip.tech)) 509
      ("Cannot create chip region " ++ name ++ " layer is not in the same tech as the chip")
    checkNot (chip.chip_region_map.lookup name).isSome 520
      ("Cannot create chip region " ++ name ++ " for chip " ++ chip.name ++
        " because chip region already exists")
    let (id, table) ← deref (chip.chip_region_tbl.create kTablePage
      (newRegion name side chip.thickness))
    modifyChip chipId fun chip => { chip with
      chip_region_tbl := table
      chip_region_map := (name, id) :: chip.chip_region_map }
    pure id

/-- `inst` is an instance of the block of the chip `instChip`. -/
def dbChipBump_create (chipId regionId instChip inst : Nat) : ChipM Nat := do
  if regionId = 0 ∨ inst = 0 then pure 0
  else do
    let chip ← getChip chipId
    if chip.block_insts.isNone then pure 0
    else do
      checkNot (instChip ≠ chipId) 513
        "Cannot create chip bump. Inst is not in the same block as the chip region"
      let region ← deref (chip.chip_region_tbl.objs regionId)
      let (id, table) ← deref (region.chip_bump_tbl.create kTablePage ⟨inst, chipId, regionId⟩)
      modifyChip chipId fun chip => { chip with
        chip_region_tbl := chip.chip_region_tbl.write regionId
          { region with chip_bump_tbl := table } }
      pure id

def createBumpInsts (regionInst : Nat) : List Nat → ChipM (List Nat)
  | [] => pure []
  | bump :: bumps => do
    let id ← createChipBumpInst ⟨bump, regionInst⟩
    let rest ← createBumpInsts regionInst bumps
    pure (id :: rest)

/-- The loop over the regions of the master chip, each with its bumps. -/
def createRegionInsts (chipinst : Nat) (master : DbChip) : List Nat → ChipM (List (Nat × Nat))
  | [] => pure []
  | region :: regions => do
    let id ← createChipRegionInst ⟨region, chipinst, []⟩
    let object ← deref (master.chip_region_tbl.objs region)
    let bumpInsts ← createBumpInsts id (tableIds object.chip_bump_tbl)
    modify fun db => { db with
      chip_region_inst_tbl := db.chip_region_inst_tbl.write id ⟨region, chipinst, bumpInsts⟩ }
    let rest ← createRegionInsts chipinst master regions
    pure ((region, id) :: rest)

def newChipInst (name : String) (masterId parentId : Nat) : DbChipInst where
  name := name
  origin := ⟨0, 0, 0⟩
  orient := ⟨.R0, false⟩
  master_chip := masterId
  parent_chip := parentId
  chip_region_insts := []
  region_insts_map := []

def dbChipInst_create (parentId masterId : Nat) (name : String) : ChipM Nat := do
  if parentId = 0 ∨ masterId = 0 then pure 0
  else do
    let parent ← getChip parentId
    let master ← getChip masterId
    checkNot (parent.type ≠ .HIER) 506
      ("Cannot create chip instance " ++ name ++ " in non-hierarchy chip " ++ parent.name)
    checkNot (parentId = masterId) 507 ("Cannot create chip instance " ++ name ++ " in itself")
    checkNot (parent.chipinsts_map.lookup name).isSome 514
      ("Chip instance " ++ name ++ " already exists in parent chip " ++ parent.name)
    let id ← createChipInst (newChipInst name masterId parentId)
    modifyChip parentId fun parent => { parent with
      chipinsts := id :: parent.chipinsts
      chipinsts_map := (name, id) :: parent.chipinsts_map }
    let regionInsts ← createRegionInsts id master (tableIds master.chip_region_tbl)
    modifyChipInst id fun chipinst => { chipinst with
      chip_region_insts := regionInsts.map Prod.snd
      region_insts_map := regionInsts }
    pure id

def destroyRegionInsts : List Nat → ChipM Unit
  | [] => pure ()
  | regionInst :: regionInsts => do
    let object ← getChipRegionInst regionInst
    destroyChipRegionInst regionInst
    forM object.chip_bump_insts destroyChipBumpInst
    destroyRegionInsts regionInsts

def dbChipInst_destroy (instId : Nat) : ChipM Unit := do
  if instId = 0 then pure ()
  else do
    let inst ← getChipInst instId
    destroyRegionInsts inst.chip_region_insts
    modifyChip inst.parent_chip fun parent => { parent with
      chipinsts := parent.chipinsts.erase instId
      chipinsts_map := parent.chipinsts_map.filter (·.1 ≠ inst.name) }
    destroyChipInst instId

def dbChipInst_setOrient (instId : Nat) (orient : DbOrientType3D) : ChipM Unit :=
  modifyChipInst instId fun inst => { inst with orient := orient }

def dbChipInst_setLoc (instId : Nat) (loc : Point3D) : ChipM Unit := do
  let inst ← getChipInst instId
  let chip ← getChip inst.master_chip
  let lll := ((DbTransform.ofOrient inst.orient ⟨0, 0, 0⟩).applyCuboid chip.getCuboid).lll
  modifyChipInst instId fun inst => { inst with
    origin := ⟨loc.x - lll.x, loc.y - lll.y, loc.z - lll.z⟩ }

/-- Every instance of the path is a child of the chip above it. -/
def extractChipInstsPath : Nat → List Nat → ChipM (List Nat)
  | _, [] => pure []
  | parentId, instId :: instIds => do
    let inst ← getChipInst instId
    let parent ← getChip parentId
    checkNot (inst.parent_chip ≠ parentId) 510
      ("Cannot create chip connection. ChipInst " ++ inst.name ++ " is not a child of chip " ++
        parent.name)
    let path ← extractChipInstsPath inst.master_chip instIds
    pure (instId :: path)

def extractBottomPath (parentId : Nat) (bottom_region_path : List Nat) (bottom_region : Nat) :
    ChipM (List Nat) :=
  if bottom_region = 0 then pure [] else extractChipInstsPath parentId bottom_region_path

/-- The checks of `dbChipConn::create`; its bottom region may be a null pointer. -/
def checkRegionPaths (name : String) (top_region_path : List Nat) (top_region : Nat)
    (bottom_region_path : List Nat) (bottom_region : Nat) : ChipM Unit := do
  checkNot (top_region = 0 ∨ top_region_path = []) 511
    ("Cannot create chip connection " ++ name ++ ". Top region is not specified correctly")
  let top ← getChipRegionInst top_region
  checkNot (some top.parent_chipinst ≠ top_region_path.getLast?) 515
    ("Cannot create chip connection " ++ name ++ ". Top region path does not match top region")
  if bottom_region = 0 then pure ()
  else do
    checkNot (bottom_region_path = []) 517
      ("Cannot create chip connection " ++ name ++
        ". Bottom region path is empty for non-empty bottom region")
    let bottom ← getChipRegionInst bottom_region
    checkNot (some bottom.parent_chipinst ≠ bottom_region_path.getLast?) 518
      ("Cannot create chip connection " ++ name ++
        ". Bottom region path does not match bottom region")

def dbChipConn_create (name : String) (parentId : Nat) (top_region_path : List Nat)
    (top_region : Nat) (bottom_region_path : List Nat) (bottom_region : Nat) : ChipM Nat := do
  if parentId = 0 then pure 0
  else do
    checkRegionPaths name top_region_path top_region bottom_region_path bottom_region
    let id ← createChipConn ⟨name, 0, parentId, top_region, bottom_region, [], []⟩
    let top_path ← extractChipInstsPath parentId top_region_path
    setChipConn id ⟨name, 0, parentId, top_region, bottom_region, top_path, []⟩
    let bottom_path ← extractBottomPath parentId bottom_region_path bottom_region
    setChipConn id ⟨name, 0, parentId, top_region, bottom_region, top_path, bottom_path⟩
    modifyChip parentId fun chip => { chip with conns := id :: chip.conns }
    pure id

def dbChipConn_destroy (connId : Nat) : ChipM Unit := do
  let conn ← getChipConn connId
  modifyChip conn.chip fun chip => { chip with conns := chip.conns.erase connId }
  destroyChipConn connId

def dbChipNet_create (chipId : Nat) (name : String) : ChipM Nat := do
  let id ← createChipNet ⟨name, chipId, []⟩
  modifyChip chipId fun chip => { chip with nets := id :: chip.nets }
  pure id

def dbChipNet_addBumpInst (netId bumpInst : Nat) (path : List Nat) : ChipM Unit := do
  let net ← getChipNet netId
  -- the format of the message has a second field and no argument for it
  checkNot (bumpInst = 0) 479
    ("Cannot add nullptr bump inst to chip " ++ net.name ++ " net \x7b\x7d")
  checkNot (0 ∈ path) 480 ("Invalid inst in path for bump inst in net " ++ net.name)
  setChipNet netId { net with
    bump_insts_paths := net.bump_insts_paths ++ [(path, bumpInst)] }

def dbChipNet_destroy (netId : Nat) : ChipM Unit := do
  let net ← getChipNet netId
  modifyChip net.chip fun chip => { chip with nets := chip.nets.erase netId }
  destroyChipNet netId

/-- The instances of the chip in other chips stay. -/
def dbChip_destroy (chipId : Nat) : ChipM Unit := do
  let chip ← getChip chipId
  forM chip.conns dbChipConn_destroy
  forM chip.chipinsts dbChipInst_destroy
  destroyChip chipId
  modify fun db => { db with
    chip := if db.chip = chipId then 0 else db.chip
    chip_hash := db.chip_hash.filter (·.2 ≠ chipId) }

end OpenRoad.Odb
