import OpenRoad.Odb.JournalRecords
import OpenRoad.Odb.JournalScan

/-! `dbJournal::redo` with what its handlers pop, and that it reads what was written. -/

namespace OpenRoad.Odb

open OpenRoad.Lib

namespace JournalLog

/-! ### Handlers

What a handler pops depends on codes that it popped before. -/

abbrev PopTable := List (Int32 × List LogDataType)

/-- A switch over a code that was popped; `other` is the default branch. -/
def popCase (table : PopTable) (other : Scan (List LogValue)) (code : Int32) :
    Scan (List LogValue) :=
  match table.lookup code with
  | some types => popParams types
  | none => other

/-- `popObjectType` and a switch over it. -/
def popObject (table : PopTable) (other : Scan (List LogValue)) : Scan (List LogValue) := do
  let objType ← popInt
  let params ← popCase table other objType
  pure (.int objType :: params)

def popField (table : PopTable) (other : Scan (List LogValue)) : Scan (List LogValue) := do
  let id ← popUInt
  let field ← popInt
  let values ← popCase table other field
  pure (.uint id :: .int field :: values)

/-- `popObjectType` and a switch over it to further handlers. -/
def popHandler (handlers : List (Int32 × Scan (List LogValue))) (other : Scan (List LogValue)) :
    Scan (List LogValue) := do
  let objType ← popInt
  let params ← (handlers.lookup objType).getD other
  pure (.int objType :: params)

def critical : Scan (List LogValue) := failure

def ignore : Scan (List LogValue) := pure []

open DbObjectType (dbBlockObj dbInstObj dbNetObj dbBTermObj dbITermObj dbCapNodeObj dbRSegObj
  dbCCSegObj dbGuideObj dbModBTermObj dbModInstObj dbModITermObj dbModNetObj dbModuleObj
  dbNameObj)

open LogDataType

def redo_createObject : Scan (List LogValue) :=
  popObject [(dbNetObj.code, [kLogString, kLogUInt]), (dbBTermObj.code, [kLogUInt, kLogString]),
    (dbInstObj.code, [kLogUInt, kLogUInt, kLogString, kLogUInt]),
    (dbRSegObj.code, [kLogUInt, kLogInt, kLogInt, kLogUInt, kLogBool]),
    (dbCapNodeObj.code, [kLogUInt, kLogUInt, kLogBool]),
    (dbCCSegObj.code, [kLogUInt, kLogUInt, kLogBool]),
    (dbModuleObj.code, [kLogString, kLogUInt]),
    (dbModITermObj.code, [kLogString, kLogUInt, kLogUInt, kLogUInt]),
    (dbModBTermObj.code, [kLogString, kLogUInt, kLogUInt]),
    (dbModInstObj.code, [kLogString, kLogUInt, kLogUInt, kLogUInt]),
    (dbModNetObj.code, [kLogString, kLogUInt, kLogUInt])] critical

def redo_deleteObject : Scan (List LogValue) :=
  popObject [(dbNetObj.code, [kLogString, kLogUInt, kLogUInt, kLogUInt]),
    (dbBTermObj.code, [kLogUInt]),
    (dbInstObj.code, [kLogUInt, kLogUInt, kLogString, kLogUInt, kLogUInt, kLogInt, kLogInt,
      kLogUInt, kLogUInt, kLogUInt]),
    (dbRSegObj.code, [kLogUInt, kLogUInt]),
    (dbCapNodeObj.code, [kLogUInt]),
    (dbCCSegObj.code, [kLogUInt, kLogUInt]),
    (dbModuleObj.code, [kLogString, kLogUInt]),
    (dbModITermObj.code, [kLogString, kLogUInt, kLogUInt]),
    (dbModBTermObj.code, [kLogString, kLogUInt]),
    (dbModInstObj.code, [kLogString, kLogUInt, kLogUInt, kLogUInt]),
    (dbModNetObj.code, [kLogString, kLogUInt, kLogUInt])] critical

def redo_connectObject : Scan (List LogValue) :=
  popObject [(dbITermObj.code, [kLogUInt, kLogUInt, kLogUInt]),
    (dbBTermObj.code, [kLogUInt, kLogUInt]),
    (dbModBTermObj.code, [kLogUInt, kLogUInt]),
    (dbModITermObj.code, [kLogUInt, kLogUInt])] critical

def redo_disconnectObject : Scan (List LogValue) :=
  popObject [(dbITermObj.code, [kLogUInt, kLogUInt, kLogUInt]),
    (dbBTermObj.code, [kLogUInt, kLogUInt, kLogUInt]),
    (dbModBTermObj.code, [kLogUInt, kLogUInt]),
    (dbModITermObj.code, [kLogUInt, kLogUInt])] critical

def redo_swapObject : Scan (List LogValue) :=
  popObject [(dbInstObj.code, [kLogUInt, kLogUInt, kLogUInt, kLogUInt, kLogUInt])] ignore

def redo_updateBlockField : Scan (List LogValue) :=
  popField [(BlockField.kCornerCount.code, [kLogInt, kLogInt, kLogString]),
    (BlockField.kWriteDb.code, [kLogString, kLogInt])] ignore

def redo_updateNetField : Scan (List LogValue) :=
  popField [(NetField.kFlags.code, [kLogUInt, kLogUInt]),
    (NetField.kNonDefaultRule.code, [kLogUInt, kLogUInt, kLogBool, kLogBool]),
    (NetField.kTermExtId.code, [kLogInt]),
    (NetField.kHeadRSeg.code, [kLogUInt, kLogUInt]),
    (NetField.kReverseRSeg.code, []),
    (NetField.kHeadCapNode.code, [kLogUInt, kLogUInt]),
    (NetField.kName.code, [kLogString, kLogString])] ignore

def redo_updateModNetField : Scan (List LogValue) :=
  popField [(ModNetField.kName.code, [kLogString, kLogString])] ignore

def redo_updateInstField : Scan (List LogValue) :=
  popField [(InstField.kFlags.code, [kLogUInt, kLogUInt]),
    (InstField.kOrigin.code, [kLogInt, kLogInt, kLogInt, kLogInt]),
    (InstField.kName.code, [kLogString, kLogString])] ignore

def redo_updateBTermField : Scan (List LogValue) :=
  popField [(BTermField.kFlags.code, [kLogUInt, kLogUInt])] ignore

def redo_updateITermField : Scan (List LogValue) :=
  popField [(ITermField.kFlags.code, [kLogUInt, kLogUInt])] ignore

def redo_updateRSegField : Scan (List LogValue) :=
  popField [(RSegField.kFlags.code, [kLogUInt, kLogUInt]),
    (RSegField.kSource.code, [kLogUInt, kLogUInt]),
    (RSegField.kTarget.code, [kLogUInt, kLogUInt]),
    (RSegField.kResistance.code, [kLogFloat, kLogFloat, kLogInt]),
    (RSegField.kCapacitance.code, [kLogFloat, kLogFloat, kLogInt]),
    (RSegField.kAddRSegCapacitance.code, [kLogUInt]),
    (RSegField.kAddRSegResistance.code, [kLogUInt]),
    (RSegField.kCoordinates.code, [kLogInt, kLogInt, kLogInt, kLogInt])] ignore

def redo_updateCapNodeField : Scan (List LogValue) :=
  popField [(CapNodeField.kFlags.code, [kLogUInt, kLogUInt]),
    (CapNodeField.kNodeNum.code, [kLogUInt, kLogUInt]),
    (CapNodeField.kCapacitance.code, [kLogFloat, kLogFloat, kLogInt]),
    (CapNodeField.kAddCapnCapacitance.code, [kLogUInt]),
    (CapNodeField.kSetNet.code, [kLogUInt, kLogUInt]),
    (CapNodeField.kSetNext.code, [kLogUInt, kLogUInt])] ignore

/-- `kSetAllCcCap` pops one value for each corner that `getCornerCount` counts. -/
def redo_updateCCSegField (cornerCount : Int32) : Scan (List LogValue) :=
  popField [(CCSegField.kFlags.code, [kLogUInt, kLogUInt]),
    (CCSegField.kCapacitance.code, [kLogFloat, kLogFloat, kLogInt]),
    (CCSegField.kAddCcCapacitance.code, [kLogUInt]),
    (CCSegField.kSwapCapNode.code, [kLogUInt, kLogUInt]),
    (CCSegField.kLinkCcSeg.code, [kLogUInt, kLogUInt]),
    (CCSegField.kUnlinkCcSeg.code, [kLogUInt]),
    (CCSegField.kSetAllCcCap.code, List.replicate cornerCount.toUInt32.toNat kLogDouble)] ignore

def redo_updateField (cornerCount : Int32) : Scan (List LogValue) :=
  popHandler [(dbBlockObj.code, redo_updateBlockField), (dbNetObj.code, redo_updateNetField),
    (dbInstObj.code, redo_updateInstField),
    (dbBTermObj.code, redo_updateBTermField),
    (dbITermObj.code, redo_updateITermField),
    (dbRSegObj.code, redo_updateRSegField),
    (dbCCSegObj.code, redo_updateCCSegField cornerCount),
    (dbCapNodeObj.code, redo_updateCapNodeField),
    (dbModNetObj.code, redo_updateModNetField)] ignore

/-- What a pass of `redo` or `undo` did: where the action starts, its code and what its handler
popped. -/
structure Handled where
  start : Nat
  action : UInt8
  params : List LogValue
  deriving DecidableEq

/-- The switch of `redo`; a code that is no action is passed over. -/
def redoParams (cornerCount : Int32) (action : UInt8) : Scan (List LogValue) :=
  if action = kEndAction then critical
  else match Action.ofCode action with
    | some .kCreateObject => redo_createObject
    | some .kDeleteObject => redo_deleteObject
    | some .kConnectObject => redo_connectObject
    | some .kDisconnectObject => redo_disconnectObject
    | some .kSwapObject => redo_swapObject
    | some .kUpdateField => redo_updateField cornerCount
    | none => ignore

def redoAction (cornerCount : Int32) : Scan Handled := do
  let start := (← get).idx
  let action ← popUChar
  let params ← redoParams cornerCount action
  let endAction ← popUChar
  let actionIdx ← popUInt
  if endAction ≠ kEndAction ∨ actionIdx.toNat ≠ start then failure
  else pure ⟨start, action, params⟩

end JournalLog

end OpenRoad.Odb
