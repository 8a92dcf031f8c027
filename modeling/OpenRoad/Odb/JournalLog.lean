import OpenRoad.Lib.Codec

/-! The journal and its log: a byte stream of actions that is scanned forward by redo and
backward by undo. In debug mode every value carries a type tag. -/

namespace OpenRoad.Odb

open OpenRoad.Lib

inductive LogDataType where
  | kLogBool | kLogChar | kLogUChar | kLogInt | kLogUInt | kLogFloat | kLogDouble | kLogString
  deriving DecidableEq

def LogDataType.code : LogDataType → UInt8
  | .kLogBool => 0
  | .kLogChar => 1
  | .kLogUChar => 2
  | .kLogInt => 3
  | .kLogUInt => 4
  | .kLogFloat => 5
  | .kLogDouble => 6
  | .kLogString => 7

/-- A value of one of the overloads of `push`. The floating point values are their bits, and
the null string is `none`. -/
inductive LogValue where
  | bool (value : Bool)
  | char (value : UInt8)
  | uchar (value : UInt8)
  | int (value : Int32)
  | uint (value : UInt32)
  | float (bits : UInt32)
  | double (bits : UInt64)
  | string (value : Option CString)
  deriving DecidableEq

def LogValue.type : LogValue → LogDataType
  | .bool _ => .kLogBool
  | .char _ => .kLogChar
  | .uchar _ => .kLogUChar
  | .int _ => .kLogInt
  | .uint _ => .kLogUInt
  | .float _ => .kLogFloat
  | .double _ => .kLogDouble
  | .string _ => .kLogString

structure JournalLog where
  data : List UInt8
  idx : Nat
  debug : Bool
  deriving DecidableEq

namespace JournalLog

def size (log : JournalLog) : Nat := log.data.length

def pushBytes (bytes : List UInt8) (log : JournalLog) : JournalLog :=
  { log with data := log.data ++ bytes }

def setType (type : LogDataType) (log : JournalLog) : JournalLog :=
  if log.debug then log.pushBytes [type.code] else log

def pushInt (value : Int32) (log : JournalLog) : JournalLog :=
  (log.setType .kLogInt).pushBytes (bytesLE 4 value.toUInt32.toNat)

def push (log : JournalLog) : LogValue → JournalLog
  | .bool value => (log.setType .kLogBool).pushBytes [if value then 1 else 0]
  | .char value => (log.setType .kLogChar).pushBytes [value]
  | .uchar value => (log.setType .kLogUChar).pushBytes [value]
  | .int value => log.pushInt value
  | .uint value => (log.setType .kLogUInt).pushBytes (bytesLE 4 value.toNat)
  | .float bits => (log.setType .kLogFloat).pushBytes (bytesLE 4 bits.toNat)
  | .double bits => (log.setType .kLogDouble).pushBytes (bytesLE 8 bits.toNat)
  | .string none => (log.setType .kLogString).pushInt (-1)
  | .string (some str) =>
    ((log.setType .kLogString).pushInt (Int32.ofNat str.val.length)).pushBytes str.val

/-! ### Reading

`idx_` is an `int`, here by its bits: only the increment from the largest `int` overflows. -/

abbrev Scan := StateT JournalLog Option

def next : Scan UInt8 := fun log => do
  let byte ← log.data[log.idx]?
  if log.idx + 1 = 2 ^ 31 then none else some (byte, { log with idx := log.idx + 1 })

def nextMany : Nat → Scan (List UInt8)
  | 0 => pure []
  | count + 1 => do
    let byte ← next
    let rest ← nextMany count
    pure (byte :: rest)

def checkType (type : LogDataType) : Scan Unit := do
  if (← get).debug then
    let found ← next
    if found = type.code then pure () else failure
  else pure ()

def popUChar : Scan UInt8 := do
  checkType .kLogUChar
  next

def popInt : Scan Int32 := do
  checkType .kLogInt
  let bytes ← nextMany 4
  pure (UInt32.ofNat (ofBytesLE bytes)).toInt32

def popUInt : Scan UInt32 := do
  checkType .kLogUInt
  let bytes ← nextMany 4
  pure (UInt32.ofNat (ofBytesLE bytes))

def popString : Scan (Option CString) := do
  checkType .kLogString
  let len ← popInt
  if len = -1 then pure none
  else do
    let chars ← nextMany len.toInt.toNat
    pure (some (CString.ofChars chars))

/-- The overload of `pop` for a type. -/
def pop : LogDataType → Scan LogValue
  | .kLogBool => do
    checkType .kLogBool
    let byte ← next
    pure (.bool (byte == 1))
  | .kLogChar => do
    checkType .kLogChar
    let byte ← next
    pure (.char byte)
  | .kLogUChar => do
    let byte ← popUChar
    pure (.uchar byte)
  | .kLogInt => do
    let value ← popInt
    pure (.int value)
  | .kLogUInt => do
    let value ← popUInt
    pure (.uint value)
  | .kLogFloat => do
    checkType .kLogFloat
    let bytes ← nextMany 4
    pure (.float (UInt32.ofNat (ofBytesLE bytes)))
  | .kLogDouble => do
    checkType .kLogDouble
    let bytes ← nextMany 8
    pure (.double (UInt64.ofNat (ofBytesLE bytes)))
  | .kLogString => do
    let value ← popString
    pure (.string value)

def begin : Scan Unit := modify fun log => { log with idx := 0 }

def atEnd : Scan Bool := do
  let log ← get
  pure (decide (log.idx = log.size))

def set (idx : UInt32) : Scan Unit := modify fun log => { log with idx := idx.toNat }

def moveBackOneInt : Scan Unit := do
  let log ← get
  let back := if log.debug then 5 else 4
  if back ≤ log.idx then modify fun log => { log with idx := log.idx - back } else failure

def moveToEnd : Scan Unit := modify fun log => { log with idx := log.size }

/-- `Action::kEndAction`. -/
def kEndAction : UInt8 := 6

/-- The first loop of `append`: the start of every action, the first action first. -/
def scanIndices : Nat → List UInt32 → Scan (List UInt32)
  | 0, _ => failure
  | fuel + 1, found => do
    let idx ← popUInt
    if idx = 0 then pure (idx :: found)
    else do
      set idx
      moveBackOneInt
      scanIndices fuel (idx :: found)

/-- The second loop of `append`: push every action of the other log to `merged`, with its end
index shifted. -/
def copyShifted (shiftIdx : Nat) : Nat → List UInt32 → JournalLog → Scan JournalLog
  | fuel, indices, merged => do
    if ← atEnd then pure merged
    else match fuel, indices with
      | fuel + 1, supposedIdx :: indices => do
        let log ← get
        let currentIdx := log.idx
        let nextIdx := (indices.head?.map UInt32.toNat).getD log.size
        let endSize := if log.debug then 7 else 5
        if currentIdx ≠ supposedIdx.toNat ∨ nextIdx < endSize then failure
        else do
          let bytes ← nextMany (nextIdx - endSize - currentIdx)
          let endAction ← popUChar
          let actionIdx ← popUInt
          if endAction ≠ kEndAction ∨ actionIdx.toNat ≠ currentIdx then failure
          else do
            let copied := merged.pushBytes bytes
            copyShifted shiftIdx fuel indices ((copied.push (.uchar endAction)).push
                (.uint (UInt32.ofNat (currentIdx + shiftIdx))))
      | _, _ => failure

def append (log other : JournalLog) : Option JournalLog :=
  if log.debug ≠ other.debug then none
  else if other.size = 0 then some log
  else do
    let scan : Scan JournalLog := do
      moveToEnd
      moveBackOneInt
      let indices ← scanIndices other.size []
      begin
      copyShifted log.size other.size indices log
    let (merged, _) ← scan.run other
    some merged

end JournalLog

inductive Action where
  | kCreateObject | kDeleteObject | kConnectObject | kDisconnectObject | kSwapObject | kUpdateField
  deriving DecidableEq

def Action.code : Action → UInt8
  | .kCreateObject => 0
  | .kDeleteObject => 1
  | .kConnectObject => 2
  | .kDisconnectObject => 3
  | .kSwapObject => 4
  | .kUpdateField => 5

def Action.ofCode (code : UInt8) : Option Action :=
  if code = 0 then some .kCreateObject
  else if code = 1 then some .kDeleteObject
  else if code = 2 then some .kConnectObject
  else if code = 3 then some .kDisconnectObject
  else if code = 4 then some .kSwapObject
  else if code = 5 then some .kUpdateField
  else none

structure ActionRecord where
  action : Action
  params : List LogValue
  deriving DecidableEq

def ActionRecord.types (written : ActionRecord) : List LogDataType := written.params.map LogValue.type

structure DbJournal where
  log : JournalLog
  startAction : Bool
  actionIdx : UInt32

namespace DbJournal

def new (debug : Bool) : DbJournal := ⟨⟨[], 0, debug⟩, false, 0⟩

def beginAction (action : Action) (j : DbJournal) : Option DbJournal :=
  if j.startAction then none
  else some ⟨j.log.push (.uchar action.code), true, UInt32.ofNat j.log.size⟩

def pushParam (j : DbJournal) (value : LogValue) : DbJournal := { j with log := j.log.push value }

def endAction (j : DbJournal) : DbJournal :=
  ⟨(j.log.push (.uchar JournalLog.kEndAction)).push (.uint j.actionIdx), false, j.actionIdx⟩

def write (j : DbJournal) (written : ActionRecord) : Option DbJournal := do
  let started ← j.beginAction written.action
  some (written.params.foldl pushParam started).endAction

def writeAll (j : DbJournal) (records : List ActionRecord) : Option DbJournal :=
  records.foldlM write j

end DbJournal

namespace JournalLog

structure Visit where
  start : Nat
  written : ActionRecord
  deriving DecidableEq

def popAction : Scan Action := do
  let code ← popUChar
  match Action.ofCode code with
  | some action => pure action
  | none => failure

def popParams : List LogDataType → Scan (List LogValue)
  | [] => pure []
  | type :: types => do
    let value ← pop type
    let values ← popParams types
    pure (value :: values)

/-- `redo`, with the types that the handlers pop. Every action must end with `kEndAction` and
its own start index. -/
def forward : List (List LogDataType) → Scan (List Visit)
  | [] => do if ← atEnd then pure [] else failure
  | types :: rest => do
    if ← atEnd then failure
    else do
      let start := (← get).idx
      let action ← popAction
      let params ← popParams types
      let endAction ← popUChar
      let actionIdx ← popUInt
      if endAction ≠ kEndAction ∨ actionIdx.toNat ≠ start then failure
      else do
        let visits ← forward rest
        pure (⟨start, action, params⟩ :: visits)

/-- The loop of `undo`, with the types that the handlers pop. It ends at the action at `0`. -/
def backward : List (List LogDataType) → Scan (List Visit)
  | [] => failure
  | types :: rest => do
    let actionIdx ← popUInt
    set actionIdx
    let action ← popAction
    let params ← popParams types
    let visit : Visit := ⟨actionIdx.toNat, action, params⟩
    if actionIdx = 0 then (if rest = [] then pure [visit] else failure)
    else do
      set actionIdx
      moveBackOneInt
      let visits ← backward rest
      pure (visit :: visits)

def redo (types : List (List LogDataType)) (log : JournalLog) : Option (List Visit) :=
  ((do begin; forward types) : Scan (List Visit)).run' log

def undo (types : List (List LogDataType)) (log : JournalLog) : Option (List Visit) :=
  if log.size = 0 then (if types = [] then some [] else none)
  else ((do moveToEnd; moveBackOneInt; backward types) : Scan (List Visit)).run' log

end JournalLog

end OpenRoad.Odb
