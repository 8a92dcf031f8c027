import OpenRoad.Odb.JournalLog

/-! The records that the mutators of a block write to its journal. -/

namespace OpenRoad.Odb

open OpenRoad.Lib

/-- The object types that occur in a journal. -/
inductive DbObjectType where
  | dbBlockObj | dbInstObj | dbNetObj | dbBTermObj | dbITermObj | dbCapNodeObj | dbRSegObj
  | dbCCSegObj | dbGuideObj | dbModBTermObj | dbModInstObj | dbModITermObj | dbModNetObj
  | dbModuleObj | dbTechNonDefaultRuleObj | dbNameObj
  deriving DecidableEq

def DbObjectType.code : DbObjectType → Int32
  | .dbBlockObj => 1
  | .dbInstObj => 3
  | .dbNetObj => 4
  | .dbBTermObj => 5
  | .dbITermObj => 6
  | .dbCapNodeObj => 15
  | .dbRSegObj => 16
  | .dbCCSegObj => 17
  | .dbGuideObj => 46
  | .dbModBTermObj => 54
  | .dbModInstObj => 55
  | .dbModITermObj => 56
  | .dbModNetObj => 57
  | .dbModuleObj => 58
  | .dbTechNonDefaultRuleObj => 99
  | .dbNameObj => 110

/-! The journal field names of each class. -/

inductive BlockField where
  | kCornerCount | kWriteDb

def BlockField.code : BlockField → Int32
  | .kCornerCount => 0
  | .kWriteDb => 1

inductive NetField where
  | kFlags | kNonDefaultRule | kTermExtId | kHeadCapNode | kHeadRSeg | kReverseRSeg | kName

def NetField.code : NetField → Int32
  | .kFlags => 0
  | .kNonDefaultRule => 1
  | .kTermExtId => 2
  | .kHeadCapNode => 3
  | .kHeadRSeg => 4
  | .kReverseRSeg => 5
  | .kName => 6

inductive ModNetField where
  | kName

def ModNetField.code : ModNetField → Int32
  | .kName => 0

inductive InstField where
  | kFlags | kOrigin | kName

def InstField.code : InstField → Int32
  | .kFlags => 0
  | .kOrigin => 1
  | .kName => 2

inductive BTermField where
  | kFlags

def BTermField.code : BTermField → Int32
  | .kFlags => 0

inductive ITermField where
  | kFlags

def ITermField.code : ITermField → Int32
  | .kFlags => 0

inductive RSegField where
  | kFlags | kSource | kTarget | kResistance | kCapacitance | kCoordinates | kAddRSegCapacitance
  | kAddRSegResistance

def RSegField.code : RSegField → Int32
  | .kFlags => 0
  | .kSource => 1
  | .kTarget => 2
  | .kResistance => 3
  | .kCapacitance => 4
  | .kCoordinates => 5
  | .kAddRSegCapacitance => 6
  | .kAddRSegResistance => 7

inductive CapNodeField where
  | kFlags | kNodeNum | kCapacitance | kAddCapnCapacitance | kSetNet | kSetNext

def CapNodeField.code : CapNodeField → Int32
  | .kFlags => 0
  | .kNodeNum => 1
  | .kCapacitance => 2
  | .kAddCapnCapacitance => 3
  | .kSetNet => 4
  | .kSetNext => 5

inductive CCSegField where
  | kFlags | kCapacitance | kAddCcCapacitance | kSwapCapNode | kLinkCcSeg | kUnlinkCcSeg
  | kSetAllCcCap

def CCSegField.code : CCSegField → Int32
  | .kFlags => 0
  | .kCapacitance => 1
  | .kAddCcCapacitance => 2
  | .kSwapCapNode => 3
  | .kLinkCcSeg => 4
  | .kUnlinkCcSeg => 5
  | .kSetAllCcCap => 6

/-- The calls that write a record, with what they push. Calls that write the same record are one
case. -/
inductive JournaledCall where
  | bTermCreate (net : UInt32) (name : CString)
  | netCreate (name : CString) (net : UInt32)
  | instCreate (lib master : UInt32) (name : CString) (inst : UInt32)
  | rSegCreate (net : UInt32) (x y : Int32) (pathDir : UInt32) (allocateCap : Bool)
  | capNodeCreate (net node : UInt32) (foreign : Bool)
  | ccSegCreate (source target : UInt32) (mergeParallel : Bool)
  | moduleCreate (name : CString) (module : UInt32)
  | modITermCreate (name : CString) (modITerm modBTerm parent : UInt32)
  | modBTermCreate (name : CString) (modBTerm module : UInt32)
  | modInstCreate (name : CString) (modInst module master : UInt32)
  | modNetCreate (name : CString) (modNet parent : UInt32)
  | guideCreate (guide : UInt32)
  | netDestroy (name : CString) (net flags nonDefaultRule : UInt32)
  | bTermDestroy (bTerm : UInt32)
  | instDestroy (lib master : UInt32) (name : CString) (inst flags : UInt32) (x y : Int32)
      (group module region : UInt32)
  | rSegDestroy (seg net : UInt32)
  | rSegDestroyS (seg : UInt32)
  | capNodeDestroy (node : UInt32)
  | ccSegDestroy (seg : UInt32)
  | ccSegDestroyS (seg : UInt32)
  | moduleDestroy (name : CString) (module : UInt32)
  | modITermDestroy (name : CString) (modITerm childModBTerm parent : UInt32)
  | modBTermDestroy (name : CString) (modBTerm module : UInt32)
  | modInstDestroy (name : CString) (modInst module master group : UInt32)
  | modNetDestroy (name : CString) (modNet module : UInt32)
  | guideDestroy (net : UInt32) (xMin yMin xMax yMax : Int32) (layer viaLayer : UInt32)
      (isCongested isJumper isConnectToTerm : Bool)
  | iTermConnectNet (iTerm net : UInt32)
  | iTermConnectModNet (iTerm modNet : UInt32)
  | bTermConnect (bTerm net modNet : UInt32)
  | modBTermConnect (modBTerm modNet : UInt32)
  | modITermConnect (modITerm modNet : UInt32)
  | iTermDisconnect (iTerm net modNet : UInt32)
  | iTermDisconnectDbNet (iTerm net : UInt32)
  | iTermDisconnectDbModNet (iTerm modNet : UInt32)
  | bTermDisconnect (bTerm net modNet : UInt32)
  | modBTermDisconnect (modBTerm modNet : UInt32)
  | modITermDisconnect (modITerm modNet : UInt32)
  | instSwapMaster (inst oldLib oldMaster newLib newMaster : UInt32)
  | netSwapNetNames (source dest : UInt32)
  | blockSetCornerCount (block : UInt32) (cornersStoredCnt extDbCnt : Int32)
      (nameList : Option CString)
  | blockWriteDb (block : UInt32) (filename : CString) (allNode : Int32)
  | netFlags (net prevFlags flags : UInt32)
  | netSetNonDefaultRule (rule prevRule newRule : UInt32) (prevBlockRule blockRule : Bool)
  | netSetTermExtIds (net : UInt32) (capId : Int32)
  | netSet1stCapNodeId (net prev capNode : UInt32)
  | netSet1stRSegId (net prev rSeg : UInt32)
  | netReverseRSegs (net : UInt32)
  | netRename (net : UInt32) (prevName newName : CString)
  | modNetRename (modNet : UInt32) (prevName newName : CString)
  | instFlags (inst prevFlags flags : UInt32)
  | instSetOrigin (inst : UInt32) (prevX prevY x y : Int32)
  | instRename (inst : UInt32) (prevName newName : CString)
  | bTermFlags (bTerm prevFlags flags : UInt32)
  | rSegSetSourceNode (seg prev node : UInt32)
  | rSegSetTargetNode (seg prev node : UInt32)
  | rSegResistance (seg prevValue value : UInt32) (corner : Int32)
  | rSegCapacitance (seg prevValue value : UInt32) (corner : Int32)
  | rSegSetCoords (seg : UInt32) (prevX x prevY y : Int32)
  | rSegAddRSegCapacitance (seg other : UInt32)
  | rSegAddRSegResistance (seg other : UInt32)
  | capNodeFlags (node prevFlags flags : UInt32)
  | capNodeSetNode (node prev num : UInt32)
  | capNodeCapacitance (node prevValue value : UInt32) (corner : Int32)
  | capNodeAddCapnCapacitance (node other : UInt32)
  | capNodeSetNet (node prev net : UInt32)
  | capNodeSetNext (node prev next : UInt32)
  | ccSegCapacitance (seg prevValue value : UInt32) (corner : Int32)
  | ccSegAddCcCapacitance (seg other : UInt32)
  | ccSegSwapCapnode (seg orig new : UInt32)
  | ccSegLink (seg capNode cseq : UInt32)
  | ccSegUnlink (seg capNode : UInt32)
  | ccSegSetAllCcCap (seg : UInt32) (ttcap : Nat → UInt64)

structure Corners where
  numExtCorners : Int32
  cornersPerBlock : Int32
  deriving DecidableEq

namespace JournaledCall

def record (action : Action) (type : DbObjectType) (params : List LogValue) : ActionRecord :=
  ⟨action, .int type.code :: params⟩

def updateField (type : DbObjectType) (id : UInt32) (field : Int32) (values : List LogValue) :
    ActionRecord :=
  record .kUpdateField type (.uint id :: .int field :: values)

def str (name : CString) : LogValue := .string (some name)

/-- What a call writes. `dbITerm` pushes 0 as an `int` for the net that it leaves out. -/
def written (corners : Corners) : JournaledCall → ActionRecord
  | .bTermCreate net name => record .kCreateObject .dbBTermObj [.uint net, str name]
  | .netCreate name net => record .kCreateObject .dbNetObj [str name, .uint net]
  | .instCreate lib master name inst =>
    record .kCreateObject .dbInstObj [.uint lib, .uint master, str name, .uint inst]
  | .rSegCreate net x y pathDir allocateCap =>
    record .kCreateObject .dbRSegObj [.uint net, .int x, .int y, .uint pathDir, .bool allocateCap]
  | .capNodeCreate net node foreign =>
    record .kCreateObject .dbCapNodeObj [.uint net, .uint node, .bool foreign]
  | .ccSegCreate source target mergeParallel =>
    record .kCreateObject .dbCCSegObj [.uint source, .uint target, .bool mergeParallel]
  | .moduleCreate name module => record .kCreateObject .dbModuleObj [str name, .uint module]
  | .modITermCreate name modITerm modBTerm parent =>
    record .kCreateObject .dbModITermObj [str name, .uint modITerm, .uint modBTerm, .uint parent]
  | .modBTermCreate name modBTerm module =>
    record .kCreateObject .dbModBTermObj [str name, .uint modBTerm, .uint module]
  | .modInstCreate name modInst module master =>
    record .kCreateObject .dbModInstObj [str name, .uint modInst, .uint module, .uint master]
  | .modNetCreate name modNet parent =>
    record .kCreateObject .dbModNetObj [str name, .uint modNet, .uint parent]
  | .guideCreate guide => record .kCreateObject .dbGuideObj [.uint guide]
  | .netDestroy name net flags nonDefaultRule =>
    record .kDeleteObject .dbNetObj [str name, .uint net, .uint flags, .uint nonDefaultRule]
  | .bTermDestroy bTerm => record .kDeleteObject .dbBTermObj [.uint bTerm]
  | .instDestroy lib master name inst flags x y group module region =>
    record .kDeleteObject .dbInstObj
      [.uint lib, .uint master, str name, .uint inst, .uint flags, .int x, .int y, .uint group,
        .uint module, .uint region]
  | .rSegDestroy seg net => record .kDeleteObject .dbRSegObj [.uint seg, .uint net]
  | .rSegDestroyS seg => record .kDeleteObject .dbRSegObj [.uint seg, .uint 0]
  | .capNodeDestroy node => record .kDeleteObject .dbCapNodeObj [.uint node]
  | .ccSegDestroy seg => record .kDeleteObject .dbCCSegObj [.uint seg, .uint 1]
  | .ccSegDestroyS seg => record .kDeleteObject .dbCCSegObj [.uint seg, .uint 0]
  | .moduleDestroy name module => record .kDeleteObject .dbModuleObj [str name, .uint module]
  | .modITermDestroy name modITerm childModBTerm parent =>
    record .kDeleteObject .dbModITermObj
      [str name, .uint modITerm, .uint childModBTerm, .uint parent]
  | .modBTermDestroy name modBTerm module =>
    record .kDeleteObject .dbModBTermObj [str name, .uint modBTerm, .uint module]
  | .modInstDestroy name modInst module master group =>
    record .kDeleteObject .dbModInstObj
      [str name, .uint modInst, .uint module, .uint master, .uint group]
  | .modNetDestroy name modNet module =>
    record .kDeleteObject .dbModNetObj [str name, .uint modNet, .uint module]
  | .guideDestroy net xMin yMin xMax yMax layer viaLayer isCongested isJumper isConnectToTerm =>
    record .kDeleteObject .dbGuideObj
      [.uint net, .int xMin, .int yMin, .int xMax, .int yMax, .uint layer, .uint viaLayer,
        .bool isCongested, .bool isJumper, .bool isConnectToTerm]
  | .iTermConnectNet iTerm net =>
    record .kConnectObject .dbITermObj [.uint iTerm, .uint net, .int 0]
  | .iTermConnectModNet iTerm modNet =>
    record .kConnectObject .dbITermObj [.uint iTerm, .int 0, .uint modNet]
  | .bTermConnect bTerm net modNet =>
    record .kConnectObject .dbBTermObj [.uint bTerm, .uint net, .uint modNet]
  | .modBTermConnect modBTerm modNet =>
    record .kConnectObject .dbModBTermObj [.uint modBTerm, .uint modNet]
  | .modITermConnect modITerm modNet =>
    record .kConnectObject .dbModITermObj [.uint modITerm, .uint modNet]
  | .iTermDisconnect iTerm net modNet =>
    record .kDisconnectObject .dbITermObj [.uint iTerm, .uint net, .uint modNet]
  | .iTermDisconnectDbNet iTerm net =>
    record .kDisconnectObject .dbITermObj [.uint iTerm, .uint net, .int 0]
  | .iTermDisconnectDbModNet iTerm modNet =>
    record .kDisconnectObject .dbITermObj [.uint iTerm, .int 0, .uint modNet]
  | .bTermDisconnect bTerm net modNet =>
    record .kDisconnectObject .dbBTermObj [.uint bTerm, .uint net, .uint modNet]
  | .modBTermDisconnect modBTerm modNet =>
    record .kDisconnectObject .dbModBTermObj [.uint modBTerm, .uint modNet]
  | .modITermDisconnect modITerm modNet =>
    record .kDisconnectObject .dbModITermObj [.uint modITerm, .uint modNet]
  | .instSwapMaster inst oldLib oldMaster newLib newMaster =>
    record .kSwapObject .dbInstObj
      [.uint inst, .uint oldLib, .uint oldMaster, .uint newLib, .uint newMaster]
  | .netSwapNetNames source dest =>
    record .kSwapObject .dbNameObj [.int DbObjectType.dbNetObj.code, .uint source, .uint dest]
  | .blockSetCornerCount block cornersStoredCnt extDbCnt nameList =>
    updateField .dbBlockObj block BlockField.kCornerCount.code
      [.int cornersStoredCnt, .int extDbCnt, .string nameList]
  | .blockWriteDb block filename allNode =>
    updateField .dbBlockObj block BlockField.kWriteDb.code [str filename, .int allNode]
  | .netFlags net prevFlags flags =>
    updateField .dbNetObj net NetField.kFlags.code [.uint prevFlags, .uint flags]
  | .netSetNonDefaultRule rule prevRule newRule prevBlockRule blockRule =>
    updateField .dbTechNonDefaultRuleObj rule NetField.kNonDefaultRule.code
      [.uint prevRule, .uint newRule, .bool prevBlockRule, .bool blockRule]
  | .netSetTermExtIds net capId =>
    updateField .dbNetObj net NetField.kTermExtId.code [.int capId]
  | .netSet1stCapNodeId net prev capNode =>
    updateField .dbNetObj net NetField.kHeadCapNode.code [.uint prev, .uint capNode]
  | .netSet1stRSegId net prev rSeg =>
    updateField .dbNetObj net NetField.kHeadRSeg.code [.uint prev, .uint rSeg]
  | .netReverseRSegs net => updateField .dbNetObj net NetField.kReverseRSeg.code []
  | .netRename net prevName newName =>
    updateField .dbNetObj net NetField.kName.code [str prevName, str newName]
  | .modNetRename modNet prevName newName =>
    updateField .dbModNetObj modNet ModNetField.kName.code [str prevName, str newName]
  | .instFlags inst prevFlags flags =>
    updateField .dbInstObj inst InstField.kFlags.code [.uint prevFlags, .uint flags]
  | .instSetOrigin inst prevX prevY x y =>
    updateField .dbInstObj inst InstField.kOrigin.code [.int prevX, .int prevY, .int x, .int y]
  | .instRename inst prevName newName =>
    updateField .dbInstObj inst InstField.kName.code [str prevName, str newName]
  | .bTermFlags bTerm prevFlags flags =>
    updateField .dbBTermObj bTerm BTermField.kFlags.code [.uint prevFlags, .uint flags]
  | .rSegSetSourceNode seg prev node =>
    updateField .dbRSegObj seg RSegField.kSource.code [.uint prev, .uint node]
  | .rSegSetTargetNode seg prev node =>
    updateField .dbRSegObj seg RSegField.kTarget.code [.uint prev, .uint node]
  | .rSegResistance seg prevValue value corner =>
    updateField .dbRSegObj seg RSegField.kResistance.code
      [.float prevValue, .float value, .int corner]
  | .rSegCapacitance seg prevValue value corner =>
    updateField .dbRSegObj seg RSegField.kCapacitance.code
      [.float prevValue, .float value, .int corner]
  | .rSegSetCoords seg prevX x prevY y =>
    updateField .dbRSegObj seg RSegField.kCoordinates.code [.int prevX, .int x, .int prevY, .int y]
  | .rSegAddRSegCapacitance seg other =>
    updateField .dbRSegObj seg RSegField.kAddRSegCapacitance.code [.uint other]
  | .rSegAddRSegResistance seg other =>
    updateField .dbRSegObj seg RSegField.kAddRSegResistance.code [.uint other]
  | .capNodeFlags node prevFlags flags =>
    updateField .dbCapNodeObj node CapNodeField.kFlags.code [.uint prevFlags, .uint flags]
  | .capNodeSetNode node prev num =>
    updateField .dbCapNodeObj node CapNodeField.kNodeNum.code [.uint prev, .uint num]
  | .capNodeCapacitance node prevValue value corner =>
    updateField .dbCapNodeObj node CapNodeField.kCapacitance.code
      [.float prevValue, .float value, .int corner]
  | .capNodeAddCapnCapacitance node other =>
    updateField .dbCapNodeObj node CapNodeField.kAddCapnCapacitance.code [.uint other]
  | .capNodeSetNet node prev net =>
    updateField .dbCapNodeObj node CapNodeField.kSetNet.code [.uint prev, .uint net]
  | .capNodeSetNext node prev next =>
    updateField .dbCapNodeObj node CapNodeField.kSetNext.code [.uint prev, .uint next]
  | .ccSegCapacitance seg prevValue value corner =>
    updateField .dbCCSegObj seg CCSegField.kCapacitance.code
      [.float prevValue, .float value, .int corner]
  | .ccSegAddCcCapacitance seg other =>
    updateField .dbCCSegObj seg CCSegField.kAddCcCapacitance.code [.uint other]
  | .ccSegSwapCapnode seg orig new =>
    updateField .dbCCSegObj seg CCSegField.kSwapCapNode.code [.uint orig, .uint new]
  | .ccSegLink seg capNode cseq =>
    updateField .dbCCSegObj seg CCSegField.kLinkCcSeg.code [.uint capNode, .uint cseq]
  | .ccSegUnlink seg capNode =>
    updateField .dbCCSegObj seg CCSegField.kUnlinkCcSeg.code [.uint capNode]
  | .ccSegSetAllCcCap seg ttcap =>
    updateField .dbCCSegObj seg CCSegField.kSetAllCcCap.code
      ((List.range corners.cornersPerBlock.toUInt32.toNat).map fun ii => .double (ttcap ii))

/-- `setCornerCount` is the only journaled call that changes a corner count. -/
def cornersAfter (corners : Corners) : JournaledCall → Corners
  | .blockSetCornerCount _ cornersStoredCnt _ _ => ⟨cornersStoredCnt, cornersStoredCnt⟩
  | _ => corners

end JournaledCall

/-- A journaled call, or `setCornersPerBlock`, which is not journaled. -/
inductive BlockCall where
  | journaled (call : JournaledCall)
  | setCornersPerBlock (cornersPerBlock : Int32)

namespace BlockCall

def cornersAfter (corners : Corners) : BlockCall → Corners
  | .journaled call => call.cornersAfter corners
  | .setCornersPerBlock cornersPerBlock => { corners with cornersPerBlock := cornersPerBlock }

def records (corners : Corners) : List BlockCall → List ActionRecord
  | [] => []
  | .journaled call :: rest => call.written corners :: records (call.cornersAfter corners) rest
  | .setCornersPerBlock cornersPerBlock :: rest =>
    records { corners with cornersPerBlock := cornersPerBlock } rest

/-- The journal that a sequence of calls leaves behind. -/
def runAll (corners : Corners) (j : DbJournal) : List BlockCall → Option DbJournal
  | [] => some j
  | .journaled call :: rest => do
    let j ← j.write (call.written corners)
    runAll (call.cornersAfter corners) j rest
  | .setCornersPerBlock cornersPerBlock :: rest =>
    runAll { corners with cornersPerBlock := cornersPerBlock } j rest

lemma runAll_eq (corners : Corners) (j : DbJournal) (calls : List BlockCall) :
    runAll corners j calls = j.writeAll (records corners calls) := by
  induction calls generalizing corners j with
  | nil => rfl
  | cons first rest ih =>
    cases first with
    | setCornersPerBlock cornersPerBlock => exact ih _ j
    | journaled call =>
      rw [runAll, records, DbJournal.writeAll, List.foldlM_cons]
      congr 1
      funext j'
      exact ih _ j'

end BlockCall

end OpenRoad.Odb
