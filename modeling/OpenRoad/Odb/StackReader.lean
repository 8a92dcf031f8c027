import OpenRoad.Odb.CuboidCover

/-! Reading a stack of 3dbx files with the 3dbv files they include. Lengths and places are in
database units, as `std::round` left them; the technology of a chiplet is the one its LEF files
gave, `0` without one. Regions, bumps, nets and connections, which place no box, are left out. -/

namespace OpenRoad.Odb

open OpenRoad.Lib OpenRoad.Lib.Effect

/-- As an initializer list builds it: the second entry of a key is ignored. -/
def dup_orient_map : List (List Char × List Char) :=
  [("MY_R180".toList, "MX".toList), ("MY_R270".toList, "MX_R90".toList),
    ("MX_R180".toList, "MY".toList), ("MX_R180".toList, "MY_R90".toList),
    ("MZ_MY_R180".toList, "MZ_MX".toList), ("MZ_MY_R270".toList, "MZ_MX_R90".toList),
    ("MZ_MX_R180".toList, "MZ_MY".toList), ("MZ_MX_R270".toList, "MZ_MY_R90".toList)]

/-- The names of `dbOrientType::fromString`, the LEF and DEF ones last. -/
def orientNames : List (List Char × DbOrientType) :=
  [("R0".toList, .R0), ("R90".toList, .R90), ("R180".toList, .R180), ("R270".toList, .R270),
    ("MY".toList, .MY), ("MYR90".toList, .MYR90), ("MY_R90".toList, .MYR90), ("MX".toList, .MX),
    ("MXR90".toList, .MXR90), ("MX_R90".toList, .MXR90), ("N".toList, .R0), ("W".toList, .R90),
    ("S".toList, .R180), ("E".toList, .R270), ("FN".toList, .MY), ("FE".toList, .MYR90),
    ("FS".toList, .MX), ("FW".toList, .MXR90)]

/-- `strcasecmp` finds the name. -/
def DbOrientType.fromString (orient : List Char) : Option DbOrientType :=
  orientNames.lookup (orient.map Char.toUpper)

/-- The text without the first occurrence of `MZ_`, if there is one. -/
def eraseMZ : List Char → Option (List Char)
  | 'M' :: 'Z' :: '_' :: text => some text
  | [] => none
  | c :: text => (eraseMZ text).map (c :: ·)

def DbOrientType3D.fromString (orient : List Char) : Option DbOrientType3D :=
  if orient = "MZ".toList then some ⟨.R0, true⟩
  else match eraseMZ orient with
    | some orient_str => (DbOrientType.fromString orient_str).map (⟨·, true⟩)
    | none => (DbOrientType.fromString orient).map (⟨·, false⟩)

namespace Cuboid

def merge (c b : Cuboid) : Cuboid :=
  ⟨min c.xlo b.xlo, min c.ylo b.ylo, min c.zlo b.zlo, max c.xhi b.xhi, max c.yhi b.yhi,
    max c.zhi b.zhi⟩

/-- `mergeInit` and a `merge` for each box; `none` is the box of `mergeInit`, which is inside out. -/
def mergeAll (cuboids : List Cuboid) : Option Cuboid :=
  cuboids.foldl (fun cuboid b => some (cuboid.elim b (·.merge b))) none

/-- The difference of two bounds; `INT_MIN - INT_MAX` comes out as 1. -/
def extent (cuboid : Option Cuboid) (lo hi : Cuboid → Int) : Int :=
  cuboid.elim 1 fun c => hi c - lo c

def dx (cuboid : Option Cuboid) : Int := extent cuboid xlo xhi

def dy (cuboid : Option Cuboid) : Int := extent cuboid ylo yhi

def dz (cuboid : Option Cuboid) : Int := extent cuboid zlo zhi

end Cuboid

def ChipDatabase.getInstCuboid (db : ChipDatabase) (instId : Nat) : Option Cuboid := do
  let inst ← db.chip_inst_tbl.objs instId
  let master ← db.chip_tbl.objs inst.master_chip
  some (inst.getTransform.applyCuboid master.getCuboid)

def ChipDatabase.getInstLoc (db : ChipDatabase) (instId : Nat) : Option Point3D :=
  (db.getInstCuboid instId).map Cuboid.lll

structure EdgeWidths where
  east : Int
  west : Int
  north : Int
  south : Int

/-- A value that the file does not give is `none`. -/
structure ChipletDef where
  name : String
  type : String
  tech : Nat
  design_width : Option Int
  design_height : Option Int
  thickness : Option Int
  scribe_line : Option EdgeWidths
  seal_ring : Option EdgeWidths

/-- `z` is the third coordinate of `loc`. -/
structure ChipletInst where
  name : String
  reference : String
  orient : List Char
  loc : Point3D

structure DesignDef where
  name : String
  chiplet_instances : List ChipletInst

/-- A file with the files it includes, each where it is read for the first time. -/
inductive StackFile where
  | dbv (includes : List StackFile) (chiplet_defs : List ChipletDef)
  | dbx (includes : List StackFile) (design : DesignDef)

namespace ThreeDBlox

def getChipType (type : String) : ChipM ChipType :=
  if type = "die" then pure .DIE
  else if type = "rdl" then pure .RDL
  else if type = "ip" then pure .IP
  else if type = "substrate" then pure .SUBSTRATE
  else if type = "hier" then pure .HIER
  else throw (.error 527 ("3DBV Parser Error: Invalid chip type: " ++ type))

def resize (chiplet : ChipletDef) (chip : DbChip) : DbChip :=
  { chip with
    width := chiplet.design_width.getD chip.width
    height := chiplet.design_height.getD chip.height
    thickness := chiplet.thickness.getD chip.thickness
    scribe_line_east := chiplet.scribe_line.elim chip.scribe_line_east EdgeWidths.east
    scribe_line_west := chiplet.scribe_line.elim chip.scribe_line_west EdgeWidths.west
    scribe_line_north := chiplet.scribe_line.elim chip.scribe_line_north EdgeWidths.north
    scribe_line_south := chiplet.scribe_line.elim chip.scribe_line_south EdgeWidths.south
    seal_ring_east := chiplet.seal_ring.elim chip.seal_ring_east EdgeWidths.east
    seal_ring_west := chiplet.seal_ring.elim chip.seal_ring_west EdgeWidths.west
    seal_ring_north := chiplet.seal_ring.elim chip.seal_ring_north EdgeWidths.north
    seal_ring_south := chiplet.seal_ring.elim chip.seal_ring_south EdgeWidths.south }

/-- The chip that the definition is about: only a hierarchical one may be defined again. -/
def findOrCreate (chiplet : ChipletDef) : ChipM Nat := do
  match (← get).chip_hash.lookup chiplet.name with
  | some id => do
    let chip ← getChip id
    let type ← getChipType chiplet.type
    checkNot (chip.type ≠ type ∨ chip.type ≠ .HIER) 530
      ("3DBV Parser Error: Chiplet " ++ chiplet.name ++ " already exists")
    pure id
  | none => do
    let type ← getChipType chiplet.type
    dbChip_create chiplet.tech chiplet.name type

def createChiplet (chiplet : ChipletDef) : ChipM Unit := do
  let chip ← findOrCreate chiplet
  modifyChip chip (resize chiplet)

def createDesignTopChiplet (design : DesignDef) : ChipM Nat := do
  let chip ← dbChip_create 0 design.name .HIER
  modify fun db => { db with chip := chip }
  pure chip

def createChipInst (chip_inst : ChipletInst) : ChipM Unit := do
  let db ← get
  match db.chip_hash.lookup chip_inst.reference with
  | none => throw (.error 519 ("3DBX Parser Error: Chiplet instance reference " ++
    chip_inst.reference ++ " not found for chip inst " ++ chip_inst.name))
  | some chip => do
    let inst ← dbChipInst_create db.chip chip chip_inst.name
    match DbOrientType3D.fromString ((dup_orient_map.lookup chip_inst.orient).getD
        chip_inst.orient) with
    | none => throw (.error 525 ("3DBX Parser Error: Invalid orient " ++
      String.ofList chip_inst.orient ++ " for chip inst " ++ chip_inst.name))
    | some orient => do
      dbChipInst_setOrient inst orient
      dbChipInst_setLoc inst chip_inst.loc

def setSize (cuboid : Option Cuboid) (chip : DbChip) : DbChip :=
  { chip with
    width := Cuboid.dx cuboid
    height := Cuboid.dy cuboid
    thickness := Cuboid.dz cuboid }

def calculateSize (chipId : Nat) : ChipM Unit := do
  let chip ← getChip chipId
  let cuboids ← deref (chip.chipinsts.mapM (← get).getInstCuboid)
  modifyChip chipId (setSize (Cuboid.mergeAll cuboids))

/-- What `readDbx` does with the design of its file. -/
def readDesign (design : DesignDef) : ChipM Unit := do
  let chip ← createDesignTopChiplet design
  forM design.chiplet_instances createChipInst
  calculateSize chip

mutual

/-- `readDbv` or `readDbx`. -/
def readFile : StackFile → ChipM Unit
  | .dbv includes chiplet_defs => do
    readHeaderIncludes includes
    forM chiplet_defs createChiplet
  | .dbx includes design => do
    readHeaderIncludes includes
    readDesign design

def readHeaderIncludes : List StackFile → ChipM Unit
  | [] => pure ()
  | file :: files => do
    readFile file
    readHeaderIncludes files

end

end ThreeDBlox

end OpenRoad.Odb
