import OpenRoad.Odb.ChipDatabase

/-! The unfolded model: every chip below the top chip with its place in global space. A pointer to
an unfolded chip is its position, a pointer to a region or a bump goes on with theirs. -/

namespace OpenRoad.Odb

inductive UnfoldedRegionSide where
  | TOP | BOTTOM | INTERNAL | INTERNAL_EXT
  deriving DecidableEq

structure UnfoldedBump where
  bump_inst : Nat
  global_position : Point3D
  deriving DecidableEq

structure UnfoldedRegion where
  region_inst : Nat
  effective_side : UnfoldedRegionSide
  cuboid : Cuboid
  bumps : List UnfoldedBump
  isUsed : Bool
  deriving DecidableEq

structure UnfoldedChip where
  name : String
  chip_inst_path : List Nat
  cuboid : Cuboid
  transform : DbTransform
  regions : List UnfoldedRegion
  deriving DecidableEq

abbrev RegionPtr := Nat × Nat

abbrev BumpPtr := Nat × Nat × Nat

structure UnfoldedConnection where
  connection : Nat
  top_region : Option RegionPtr
  bottom_region : Option RegionPtr
  deriving DecidableEq

structure UnfoldedNet where
  chip_net : Nat
  connected_bumps : List BumpPtr
  deriving DecidableEq

/-- The two maps have their last insertion first. -/
structure UnfoldedModel where
  unfolded_chips : List UnfoldedChip
  unfolded_connections : List UnfoldedConnection
  unfolded_nets : List UnfoldedNet
  chip_path_map : List (List Nat × Nat)
  bump_inst_map : List ((Nat × List Nat) × BumpPtr)
  deriving DecidableEq

def UnfoldedModel.empty : UnfoldedModel := ⟨[], [], [], [], []⟩

/-- A pointer to an object that is not there, or a recursion that has not ended yet. -/
inductive UnfoldFault where
  | dangling | unfinished
  deriving DecidableEq

def follow {α : Type} (object : Option α) : Except UnfoldFault α :=
  match object with
  | some value => .ok value
  | none => .error .dangling

def mirrorSide (side : UnfoldedRegionSide) : UnfoldedRegionSide :=
  match side with
  | .TOP => .BOTTOM
  | .BOTTOM => .TOP
  | side => side

def RegionSide.unfolded : RegionSide → UnfoldedRegionSide
  | .FRONT => .TOP
  | .BACK => .BOTTOM
  | .INTERNAL => .INTERNAL
  | .INTERNAL_EXT => .INTERNAL_EXT

def getSurfaceZ (side : UnfoldedRegionSide) (cuboid : Cuboid) : Int :=
  match side with
  | .TOP => cuboid.zhi
  | .BOTTOM => cuboid.zlo
  | _ => cuboid.zCenter

def getFullPathName (db : ChipDatabase) : String → List Nat → Except UnfoldFault String
  | name, [] => .ok name
  | name, id :: path => do
    let inst ← follow (db.chip_inst_tbl.objs id)
    getFullPathName db ((if name ≠ "" then name ++ "/" else name) ++ inst.name) path

def unfoldBumps (db : ChipDatabase) (transform : DbTransform) (z : Int) :
    List Nat → Except UnfoldFault (List UnfoldedBump)
  | [] => .ok []
  | id :: bumpInsts => do
    let bumpInst ← follow (db.chip_bump_inst_tbl.objs id)
    let bump ← follow (db.getChipBump bumpInst)
    let inst ← follow (db.getInst bump)
    let rest ← unfoldBumps db transform z bumpInsts
    match inst with
    | none => pure rest
    | some location =>
      pure (⟨id, ⟨(transform.apply location).x, (transform.apply location).y, z⟩⟩ :: rest)

def unfoldRegions (db : ChipDatabase) (transform : DbTransform) :
    List Nat → Except UnfoldFault (List UnfoldedRegion)
  | [] => .ok []
  | id :: regionInsts => do
    let regionInst ← follow (db.chip_region_inst_tbl.objs id)
    let region ← follow (db.getChipRegion regionInst)
    let side :=
      if transform.mirror_z then mirrorSide region.side.unfolded else region.side.unfolded
    let cuboid := transform.applyCuboid region.getCuboid
    let bumps ← unfoldBumps db transform (getSurfaceZ side cuboid) regionInst.chip_bump_insts
    let rest ← unfoldRegions db transform regionInsts
    pure (⟨id, side, cuboid, bumps, false⟩ :: rest)

/-- The unfolded chip at the end of `path`. -/
def unfoldChip (db : ChipDatabase) (inst : DbChipInst) (master : DbChip) (path : List Nat)
    (total : DbTransform) : Except UnfoldFault UnfoldedChip := do
  let name ← getFullPathName db "" path
  let regions ← unfoldRegions db total inst.chip_region_insts
  pure ⟨name, path, total.applyCuboid master.getCuboid, total, regions⟩

/-- The bumps of a chip with the pointers to them. -/
def bumpPtrs (chipPtr : Nat) (chip : UnfoldedChip) : List ((Nat × List Nat) × BumpPtr) :=
  chip.regions.zipIdx.flatMap fun (region, regionIdx) =>
    region.bumps.zipIdx.map fun (bump, bumpIdx) =>
      ((bump.bump_inst, chip.chip_inst_path), (chipPtr, regionIdx, bumpIdx))

/-- `push_back` and `registerUnfoldedChip`. -/
def registerUnfoldedChip (chip : UnfoldedChip) (m : UnfoldedModel) : UnfoldedModel :=
  { m with
    unfolded_chips := m.unfolded_chips ++ [chip]
    chip_path_map := (chip.chip_inst_path, m.unfolded_chips.length) :: m.chip_path_map
    bump_inst_map := (bumpPtrs m.unfolded_chips.length chip).reverse ++ m.bump_inst_map }

def UnfoldedModel.findUnfoldedChip (m : UnfoldedModel) (path : List Nat) : Option Nat :=
  m.chip_path_map.lookup path

def UnfoldedModel.findUnfoldedRegion (m : UnfoldedModel) (chipPtr : Option Nat)
    (regionInst : Nat) : Option RegionPtr := do
  let ptr ← chipPtr
  let chip ← m.unfolded_chips[ptr]?
  let region ← chip.regions.findIdx? (·.region_inst = regionInst)
  if regionInst = 0 then none else some (ptr, region)

def UnfoldedModel.region? (m : UnfoldedModel) (ptr : RegionPtr) : Option UnfoldedRegion := do
  let chip ← m.unfolded_chips[ptr.1]?
  chip.regions[ptr.2]?

/-- An external region with a connection is used. -/
def UnfoldedModel.markUsed (m : UnfoldedModel) (ptr : Option RegionPtr) : UnfoldedModel :=
  match ptr with
  | none => m
  | some (chipPtr, region) =>
    if (m.region? (chipPtr, region)).any (·.effective_side = .INTERNAL_EXT) then
      { m with unfolded_chips := m.unfolded_chips.modify chipPtr fun chip =>
          { chip with regions := chip.regions.modify region fun used =>
              { used with isUsed := true } } }
    else m

def unfoldConnections (db : ChipDatabase) (parent_path : List Nat) :
    List Nat → UnfoldedModel → Except UnfoldFault UnfoldedModel
  | [], m => .ok m
  | id :: conns, m => do
    let conn ← follow (db.chip_conn_tbl.objs id)
    let top := m.findUnfoldedRegion
      (m.findUnfoldedChip (parent_path ++ conn.top_region_path)) conn.top_region
    let bot := m.findUnfoldedRegion
      (m.findUnfoldedChip (parent_path ++ conn.bottom_region_path)) conn.bottom_region
    let marked := (m.markUsed top).markUsed bot
    let next := if top.isSome ∨ bot.isSome then
        { marked with unfolded_connections := m.unfolded_connections ++ [⟨id, top, bot⟩] }
      else m
    unfoldConnections db parent_path conns next

def unfoldNets (db : ChipDatabase) (parent_path : List Nat) :
    List Nat → UnfoldedModel → Except UnfoldFault UnfoldedModel
  | [], m => .ok m
  | id :: nets, m => do
    let net ← follow (db.chip_net_tbl.objs id)
    let bumps := net.bump_insts_paths.filterMap fun (path, bumpInst) =>
      m.bump_inst_map.lookup (bumpInst, parent_path ++ path)
    unfoldNets db parent_path nets { m with unfolded_nets := m.unfolded_nets ++ [⟨id, bumps⟩] }

def buildUnfoldedChip (db : ChipDatabase) :
    Nat → Nat → List Nat → DbTransform → UnfoldedModel → Except UnfoldFault UnfoldedModel
  | 0, _, _, _, _ => .error .unfinished
  | fuel + 1, instId, path, parent_xform, m => do
    let inst ← follow (db.chip_inst_tbl.objs instId)
    let master ← follow (db.chip_tbl.objs inst.master_chip)
    let total := inst.getTransform.concat parent_xform
    if master.type = .HIER then do
      let subs ← master.chipinsts.foldlM
        (fun m sub => buildUnfoldedChip db fuel sub (path ++ [instId]) total m) m
      let connected ← unfoldConnections db (path ++ [instId]) master.conns subs
      unfoldNets db (path ++ [instId]) master.nets connected
    else do
      let chip ← unfoldChip db inst master (path ++ [instId]) total
      pure (registerUnfoldedChip chip m)

/-- The constructor, with a bound on the depth of the recursion. -/
def unfold (db : ChipDatabase) (fuel chipId : Nat) : Except UnfoldFault UnfoldedModel := do
  let chip ← follow (db.chip_tbl.objs chipId)
  let subs ← chip.chipinsts.foldlM
    (fun m inst => buildUnfoldedChip db fuel inst [] DbTransform.identity m) UnfoldedModel.empty
  let connected ← unfoldConnections db [] chip.conns subs
  unfoldNets db [] chip.nets connected

end OpenRoad.Odb
