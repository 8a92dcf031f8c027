import OpenRoad.Odb.JournalReplay

/-! `dbJournal::undo` with what its handlers pop, and which records it decodes as they were
written. -/

namespace OpenRoad.Odb

open OpenRoad.Lib List Option BlockCall ActionRecord DbJournal StateT BlockCall

namespace JournalLog

open DbObjectType (dbInstObj dbNetObj dbBTermObj dbITermObj dbCapNodeObj dbRSegObj dbGuideObj
  dbModBTermObj dbModInstObj dbModITermObj dbModNetObj dbModuleObj dbNameObj)

open LogDataType

/-- A critical error of `undo`: its number, its message up to the types or the field that it
names, and their codes. -/
structure Critical where
  number : Nat
  message : String
  codes : List Int32
  deriving DecidableEq

abbrev Handler := ExceptT Critical Scan

def undoCase (table : PopTable) (error : Int32 → Critical) (code : Int32) :
    Handler (List LogValue) :=
  match table.lookup code with
  | some types => popParams types
  | none => throw (error code)

/-- `popObjectType` and a switch over it. -/
def undoObject (error : Int32 → Critical) (table : PopTable) : Handler (List LogValue) := do
  let objType ← popInt
  let params ← undoCase table error objType
  pure (.int objType :: params)

def undoField (number : Nat) (message : String) (table : PopTable) : Handler (List LogValue) := do
  let id ← popUInt
  let field ← popInt
  let values ← undoCase table (⟨number, message, [·]⟩) field
  pure (.uint id :: .int field :: values)

/-- `popObjectType` and a switch over it to further handlers. -/
def undoHandler (number : Nat) (message : String)
    (handlers : List (Int32 × Handler (List LogValue))) : Handler (List LogValue) := do
  let objType ← popInt
  let params ← (handlers.lookup objType).getD (throw ⟨number, message, [objType]⟩)
  pure (.int objType :: params)

def undo_createObject : Handler (List LogValue) :=
  undoObject (⟨441, "No undo_createObject support for type ", [·]⟩) [
    (dbGuideObj.code, [kLogUInt]),
    (dbInstObj.code, [kLogUInt, kLogUInt, kLogString, kLogUInt]),
    (dbNetObj.code, [kLogString, kLogUInt]),
    (dbModuleObj.code, [kLogString, kLogUInt]),
    (dbModInstObj.code, [kLogString, kLogUInt, kLogUInt, kLogUInt]),
    (dbModNetObj.code, [kLogString, kLogUInt, kLogUInt]),
    (dbModBTermObj.code, [kLogString, kLogUInt, kLogUInt]),
    (dbModITermObj.code, [kLogString, kLogUInt, kLogUInt, kLogUInt])]

def undo_deleteObject : Handler (List LogValue) :=
  undoObject (⟨417, "No undo_deleteObject support for type ", [·]⟩) [
    (dbGuideObj.code, [kLogUInt, kLogInt, kLogInt, kLogInt, kLogInt, kLogUInt, kLogUInt, kLogBool,
      kLogBool, kLogBool]),
    (dbInstObj.code, [kLogUInt, kLogUInt, kLogString, kLogUInt, kLogUInt, kLogInt, kLogInt,
      kLogUInt, kLogUInt, kLogUInt]),
    (dbNetObj.code, [kLogString, kLogUInt, kLogUInt, kLogUInt]),
    (dbModuleObj.code, [kLogString, kLogUInt]),
    (dbModInstObj.code, [kLogString, kLogUInt, kLogUInt, kLogUInt, kLogUInt]),
    (dbModNetObj.code, [kLogString, kLogUInt, kLogUInt]),
    (dbModBTermObj.code, [kLogString, kLogUInt, kLogUInt]),
    (dbModITermObj.code, [kLogString, kLogUInt, kLogUInt, kLogUInt])]

def undo_connectObject : Handler (List LogValue) :=
  undoObject (⟨442, "No undo_connectObject support for type ", [·]⟩) [
    (dbModITermObj.code, [kLogUInt, kLogUInt]), (dbModBTermObj.code, [kLogUInt, kLogUInt]),
    (dbITermObj.code, [kLogUInt, kLogUInt, kLogUInt]),
    (dbBTermObj.code, [kLogUInt, kLogUInt, kLogUInt])]

def undo_disconnectObject : Handler (List LogValue) :=
  undoObject (⟨443, "No undo_disconnectObject support for type ", [·]⟩) [
    (dbITermObj.code, [kLogUInt, kLogUInt, kLogUInt]),
    (dbBTermObj.code, [kLogUInt, kLogUInt, kLogUInt]),
    (dbModBTermObj.code, [kLogUInt, kLogUInt]),
    (dbModITermObj.code, [kLogUInt, kLogUInt])]

def undo_swapObject : Handler (List LogValue) :=
  undoHandler 444 "No undo_swapObject support for type " [
    (dbNameObj.code, undoObject (⟨467, "No undo_swapObject support for type and subtype ",
      [dbNameObj.code, ·]⟩) [(dbNetObj.code, [kLogUInt, kLogUInt])]),
    (dbInstObj.code, popParams [kLogUInt, kLogUInt, kLogUInt, kLogUInt, kLogUInt])]

def undo_updateNetField : Handler (List LogValue) :=
  undoField 408 "No undo_updateNetField support for field " [
    (NetField.kFlags.code, [kLogUInt, kLogUInt]),
    (NetField.kName.code, [kLogString, kLogString])]

def undo_updateModNetField : Handler (List LogValue) :=
  undoField 424 "No undo_updateModNetField support for field "
    [(ModNetField.kName.code, [kLogString, kLogString])]

def undo_updateInstField : Handler (List LogValue) :=
  undoField 409 "No undo_updateInstField support for field " [
    (InstField.kFlags.code, [kLogUInt, kLogUInt]),
    (InstField.kOrigin.code, [kLogInt, kLogInt, kLogInt, kLogInt]),
    (InstField.kName.code, [kLogString, kLogString])]

def undo_updateITermField : Handler (List LogValue) :=
  undoField 410 "No undo_updateITermField support for field " []

def undo_updateRSegField : Handler (List LogValue) :=
  undoField 411 "No undo_updateRSegField support for field " []

def undo_updateCapNodeField : Handler (List LogValue) :=
  undoField 412 "No undo_updateCapNodeField support for field " []

def undo_updateField : Handler (List LogValue) :=
  undoHandler 445 "No undo_updateField support for type " [
    (dbNetObj.code, undo_updateNetField), (dbInstObj.code, undo_updateInstField),
    (dbITermObj.code, undo_updateITermField),
    (dbRSegObj.code, undo_updateRSegField),
    (dbCapNodeObj.code, undo_updateCapNodeField),
    (dbModNetObj.code, undo_updateModNetField)]

/-- The switch of `undo`; `kEndAction` and a code that is no action are passed over. -/
def undoParams (action : UInt8) : Handler (List LogValue) :=
  match Action.ofCode action with
  | some .kCreateObject => undo_createObject
  | some .kDeleteObject => undo_deleteObject
  | some .kConnectObject => undo_connectObject
  | some .kDisconnectObject => undo_disconnectObject
  | some .kSwapObject => undo_swapObject
  | some .kUpdateField => undo_updateField
  | none => ignore

/-- One pass of `undo`, from the index of an action at its end. -/
def undoAction : Handler Handled := do
  let actionIdx ← popUInt
  set actionIdx
  let action ← popUChar
  let params ← undoParams action
  pure ⟨actionIdx.toNat, action, params⟩

/-- The loop of `undo`, for at most the given number of actions. -/
def undoLoop : Nat → Handler (List Handled)
  | 0 => (failure : Scan (List Handled))
  | fuel + 1 => do
    let handled ← undoAction
    if handled.start = 0 then pure [handled]
    else do
      set (UInt32.ofNat handled.start)
      moveBackOneInt
      let rest ← undoLoop fuel
      pure (handled :: rest)

/-- The first pass of `undo` on a log that is not empty. -/
def undoLast (log : JournalLog) : Option (Except Critical Handled × JournalLog) :=
  ((do moveToEnd; moveBackOneInt; undoAction) : Handler Handled).run.run log

def undoAll (log : JournalLog) : Option (Except Critical (List Handled)) :=
  if log.size = 0 then some (.ok [])
  else ((do moveToEnd; moveBackOneInt; undoLoop log.size) : Handler (List Handled)).run.run' log

variable {β γ : Type} {debug : Bool} {table : PopTable} {code : Int32} {pushed : List LogValue}
  {types : List LogDataType} {popped : List LogValue} {bytes front back : List UInt8}
  {error : Int32 → Critical} {answer : Except Critical (List LogValue)}

/-- What a handler answers to the bytes of the parameters; an error may leave some unread. -/
def Answers (debug : Bool) (handler : Handler (List LogValue)) (bytes : List UInt8)
    (answer : Except Critical (List LogValue)) : Prop :=
  ∃ front back, bytes = front ++ back ∧ Reads debug handler.run front answer ∧
    (back = [] ∨ ∃ critical, answer = .error critical)

lemma reads_lift {scan : Scan β} {value : β} (reads : Reads debug scan bytes value) :
    Reads debug (ExceptT.lift scan : Handler β).run bytes (.ok value) :=
  reads_map Except.ok reads

lemma answers_lift {scan : Scan β} {after : β → Handler (List LogValue)} {value : β}
    (first : Reads debug scan front value) (second : Answers debug (after value) bytes answer) :
    Answers debug (ExceptT.lift scan >>= after) (front ++ bytes) answer := by
  rcases second with ⟨here, rest, rfl, reads, ends⟩
  exact ⟨front ++ here, rest, (append_assoc _ _ _).symm, reads_bind (reads_lift first) reads, ends⟩

def cons (values : List LogValue) : Except Critical (List LogValue) →
    Except Critical (List LogValue)
  | .ok params => .ok (values ++ params)
  | .error critical => .error critical

lemma answers_cons {handler : Handler (List LogValue)} (values : List LogValue)
    (answers : Answers debug handler bytes answer) :
    Answers debug (handler >>= fun params => pure (values ++ params)) bytes
      (cons values answer) := by
  rcases answers with ⟨here, rest, same, reads, ends⟩
  cases answer with
  | ok params =>
    refine ⟨here, rest, same, ?_, ends.imp_right fun h => absurd h (by simp)⟩
    have both : Reads debug (handler >>= fun params => pure (values ++ params)).run (here ++ [])
        (.ok (values ++ params)) := reads_bind reads (reads_pure _)
    rwa [append_nil] at both
  | error critical =>
    refine ⟨here, rest, same, ?_, .inr ⟨critical, rfl⟩⟩
    have both : Reads debug (handler >>= fun params => pure (values ++ params)).run (here ++ [])
        (.error critical) := reads_bind reads (reads_pure _)
    rwa [append_nil] at both

lemma answers_throw (critical : Critical) (bytes : List UInt8) :
    Answers debug (throw critical) bytes (.error critical) :=
  ⟨[], bytes, rfl, reads_pure _, .inr ⟨critical, rfl⟩⟩

lemma answers_popParams (typed : popped.map LogValue.type = types)
    (same : SameBytes debug popped pushed) :
    Answers debug (ExceptT.lift (popParams types)) (pushed.flatMap (LogValue.encode debug))
      (.ok popped) := by
  rw [← flatMap_sameBytes same, ← typed]
  exact ⟨_, [], (append_nil _).symm, reads_lift (reads_popParams debug popped), .inl rfl⟩

lemma answers_found (found : table.lookup code = some types)
    (typed : popped.map LogValue.type = types) (same : SameBytes debug popped pushed) :
    Answers debug (undoCase table error code) (pushed.flatMap (LogValue.encode debug))
      (.ok popped) := by
  rw [undoCase, found]
  exact answers_popParams typed same

lemma answers_missing (missing : table.lookup code = none) :
    Answers debug (undoCase table error code) bytes (.error (error code)) := by
  rw [undoCase, missing]
  exact answers_throw _ bytes

lemma answers_object (answers : Answers debug (undoCase table error code)
      (pushed.flatMap (LogValue.encode debug)) answer) :
    Answers debug (undoObject error table)
      ((.int code :: pushed).flatMap (LogValue.encode debug)) (cons [.int code] answer) := by
  rw [flatMap_cons]
  exact answers_lift (reads_popInt debug code) (answers_cons [.int code] answers)

lemma answers_field {number : Nat} {message : String} (id : UInt32)
    (answers : Answers debug (undoCase table (⟨number, message, [·]⟩) code)
      (pushed.flatMap (LogValue.encode debug)) answer) :
    Answers debug (undoField number message table)
      ((.uint id :: .int code :: pushed).flatMap (LogValue.encode debug))
      (cons [.uint id, .int code] answer) := by
  rw [flatMap_cons, flatMap_cons]
  exact answers_lift (reads_popUInt debug id) (answers_lift (reads_popInt debug code)
    (answers_cons [.uint id, .int code] answers))

variable {number : Nat} {message : String} {handlers : List (Int32 × Handler (List LogValue))}

lemma answers_handler {handler : Handler (List LogValue)}
    (found : handlers.lookup code = some handler)
    (answers : Answers debug handler (pushed.flatMap (LogValue.encode debug)) answer) :
    Answers debug (undoHandler number message handlers)
      ((.int code :: pushed).flatMap (LogValue.encode debug)) (cons [.int code] answer) := by
  rw [flatMap_cons]
  apply answers_lift (reads_popInt debug code)
  rw [found]
  exact answers_cons [.int code] answers

lemma answers_unhandled (missing : handlers.lookup code = none) :
    Answers debug (undoHandler number message handlers)
      ((.int code :: pushed).flatMap (LogValue.encode debug))
      (.error ⟨number, message, [code]⟩) := by
  rw [flatMap_cons]
  apply answers_lift (reads_popInt debug code)
  rw [missing]
  exact answers_cons [.int code] (answers_throw ⟨number, message, [code]⟩ _)

lemma run_lift_bind {scan : Scan β} {after : β → Handler γ} {value : β} {log log' : JournalLog}
    (first : scan.run log = some (value, log')) :
    (liftM scan >>= after : Handler γ).run.run log = (after value).run.run log' := by
  have lifted : (liftM scan : Handler β).run.run log = some (.ok value, log') := by
    change (scan.run log >>= fun found => pure (Except.ok found.1, found.2)) = _
    rw [first]
    rfl
  change ((liftM scan : Handler β).run.run log >>= fun found =>
    (ExceptT.bindCont after found.1).run found.2) = _
  rw [lifted]
  rfl

/-- An error names the type of the record's object, or the field that the record updates. -/
def Critical.Names (critical : Critical) (written : ActionRecord) : Prop :=
  ∃ objType rest, written.params = .int objType :: rest ∧ (critical.codes = [objType] ∨
    ∃ id field values, rest = .uint id :: .int field :: values ∧ critical.codes = [field])

end JournalLog

open JournalLog

/-- The calls whose records `undo` decodes. -/
def JournaledCall.undoReads : JournaledCall → Bool
  | .netCreate .. | .instCreate .. | .moduleCreate .. | .modITermCreate .. | .modBTermCreate ..
  | .modInstCreate .. | .modNetCreate .. | .guideCreate .. | .netDestroy .. | .instDestroy ..
  | .moduleDestroy .. | .modITermDestroy .. | .modBTermDestroy .. | .modInstDestroy ..
  | .modNetDestroy .. | .guideDestroy .. | .bTermConnect .. | .modBTermConnect ..
  | .modITermConnect .. | .iTermDisconnect .. | .bTermDisconnect .. | .modBTermDisconnect ..
  | .modITermDisconnect .. | .instSwapMaster .. | .netSwapNetNames .. | .netFlags ..
  | .netRename .. | .modNetRename .. | .instFlags .. | .instSetOrigin .. | .instRename .. => true
  | _ => false

/-- The calls whose records `undo` answers with a critical error. -/
def JournaledCall.undoLacks : JournaledCall → Bool
  | .bTermCreate .. | .rSegCreate .. | .capNodeCreate .. | .ccSegCreate .. | .bTermDestroy ..
  | .rSegDestroy .. | .rSegDestroyS .. | .capNodeDestroy .. | .ccSegDestroy .. | .ccSegDestroyS ..
  | .blockSetCornerCount .. | .blockWriteDb .. | .netSetNonDefaultRule .. | .netSetTermExtIds ..
  | .netSet1stCapNodeId ..
  | .netSet1stRSegId .. | .netReverseRSegs .. | .bTermFlags .. | .rSegSetSourceNode ..
  | .rSegSetTargetNode .. | .rSegResistance .. | .rSegCapacitance .. | .rSegSetCoords ..
  | .rSegAddRSegCapacitance .. | .rSegAddRSegResistance .. | .capNodeFlags .. | .capNodeSetNode ..
  | .capNodeCapacitance .. | .capNodeAddCapnCapacitance .. | .capNodeSetNet ..
  | .capNodeSetNext .. | .ccSegCapacitance .. | .ccSegAddCcCapacitance .. | .ccSegSwapCapnode ..
  | .ccSegLink .. | .ccSegUnlink .. | .ccSegSetAllCcCap .. => true
  | _ => false

/-- The calls of `dbITerm` that push 0 as an `int` for the net that they leave out. -/
def JournaledCall.undoRetypes : JournaledCall → Bool
  | .iTermConnectNet .. | .iTermConnectModNet .. | .iTermDisconnectDbNet ..
  | .iTermDisconnectDbModNet .. => true
  | _ => false

variable (debug : Bool) (corners : Corners) (call : JournaledCall)

def UndoAnswers (answer : Except Critical (List LogValue)) : Prop :=
  Answers debug (undoParams (call.written corners).action.code)
    ((call.written corners).params.flatMap (LogValue.encode debug)) answer

lemma undo_pops (reads : call.undoReads = true) :
    UndoAnswers debug corners call (.ok (call.written corners).params) := by
  cases call
  case netCreate | instCreate | moduleCreate | modITermCreate | modBTermCreate | modInstCreate
      | modNetCreate | guideCreate | netDestroy | instDestroy | moduleDestroy | modITermDestroy
      | modBTermDestroy | modInstDestroy | modNetDestroy | guideDestroy | bTermConnect
      | modBTermConnect | modITermConnect | iTermDisconnect | bTermDisconnect
      | modBTermDisconnect | modITermDisconnect =>
    exact answers_object (answers_found rfl rfl rfl)
  case instSwapMaster => exact answers_handler rfl (answers_popParams rfl rfl)
  case netSwapNetNames => exact answers_handler rfl (answers_object (answers_found rfl rfl rfl))
  case netFlags | netRename | modNetRename | instFlags | instSetOrigin | instRename =>
    exact answers_handler rfl (answers_field _ (answers_found rfl rfl rfl))
  all_goals cases reads

lemma undo_retypes (retypes : call.undoRetypes = true) : ∃ popped,
    UndoAnswers false corners call (.ok popped) ∧
      SameBytes false popped (call.written corners).params := by
  cases call
  case iTermConnectNet iTerm net | iTermDisconnectDbNet iTerm net =>
    have same := (sameBytes_iTerm iTerm net).1
    exact ⟨_, answers_object (answers_found rfl rfl same), sameBytes_cons _ same⟩
  case iTermConnectModNet iTerm modNet | iTermDisconnectDbModNet iTerm modNet =>
    have same := (sameBytes_iTerm iTerm modNet).2
    exact ⟨_, answers_object (answers_found rfl rfl same), sameBytes_cons _ same⟩
  all_goals cases retypes

lemma undo_raises (lacks : call.undoLacks = true) : ∃ critical,
    UndoAnswers debug corners call (.error critical) ∧
      critical.Names (call.written corners) := by
  cases call
  case bTermCreate | rSegCreate | capNodeCreate | ccSegCreate | bTermDestroy | rSegDestroy
      | rSegDestroyS | capNodeDestroy | ccSegDestroy | ccSegDestroyS =>
    exact ⟨_, answers_object (answers_missing rfl), _, _, rfl, .inl rfl⟩
  case blockSetCornerCount | blockWriteDb | netSetNonDefaultRule | bTermFlags | ccSegCapacitance
      | ccSegAddCcCapacitance | ccSegSwapCapnode | ccSegLink | ccSegUnlink | ccSegSetAllCcCap =>
    exact ⟨_, answers_unhandled rfl, _, _, rfl, .inl rfl⟩
  case netSetTermExtIds | netSet1stCapNodeId | netSet1stRSegId | netReverseRSegs
      | rSegSetSourceNode | rSegSetTargetNode | rSegResistance | rSegCapacitance | rSegSetCoords
      | rSegAddRSegCapacitance | rSegAddRSegResistance | capNodeFlags | capNodeSetNode
      | capNodeCapacitance | capNodeAddCapnCapacitance | capNodeSetNet | capNodeSetNext =>
    exact ⟨_, answers_handler rfl (answers_field _ (answers_missing rfl)), _, _, rfl,
      .inr ⟨_, _, _, rfl, rfl⟩⟩
  all_goals cases lacks

lemma undo_kinds : call.undoReads = true ∨ call.undoLacks = true ∨ call.undoRetypes = true := by
  cases call <;> simp [JournaledCall.undoReads, JournaledCall.undoLacks, JournaledCall.undoRetypes]

/-- What a pass of `undo` answers: its index and action with what was popped. -/
def handledAs (start : Nat) (action : UInt8) :
    Except Critical (List LogValue) → Except Critical Handled
  | .ok params => .ok ⟨start, action, params⟩
  | .error critical => .error critical

lemma run_handled {handler : Handler (List LogValue)} {answer : Except Critical (List LogValue)}
    {log log' : JournalLog} (start : Nat) (action : UInt8)
    (ran : handler.run.run log = some (answer, log')) :
    (do
      let params ← handler
      pure ⟨start, action, params⟩ : Handler Handled).run.run log =
      some (handledAs start action answer, log') := by
  change (handler.run.run log >>= fun found => (ExceptT.bindCont
    (fun params => (pure ⟨start, action, params⟩ : Handler Handled)) found.1).run found.2) = _
  rw [ran]
  cases answer <;> rfl

lemma undoAction_eq (debug : Bool) (written : ActionRecord) (data : List UInt8) (start : Nat)
    (here : At data start (written.encode debug start))
    (fits : start + (written.encode debug start).length < 2 ^ 31) :
    undoAction.run.run ⟨data, start + (written.encode debug start).length - intSize debug, debug⟩ =
      (do
        let params ← undoParams written.action.code
        pure ⟨start, written.action.code, params⟩ : Handler Handled).run.run
        ⟨data, start + ((LogValue.uchar written.action.code).encode debug).length, debug⟩ := by
  have index : (UInt32.ofNat start).toNat = start := by
    rw [UInt32.toNat_ofNat', Nat.mod_eq_of_lt (by omega)]
  have body : written.encode debug start = (LogValue.uchar written.action.code).encode debug ++
      (written.params.flatMap (LogValue.encode debug) ++ actionEnd debug start) := by
    rw [ActionRecord.encode, body, append_assoc]
  have first := here
  rw [body] at first
  have code := reads_popUChar debug written.action.code data start (at_append first).1
    (by rw [body, length_append] at fits; omega)
  rw [undoAction, run_lift_bind (popUInt_last debug data start written here fits),
    run_lift_bind (set_run start (by omega) _), run_lift_bind code, index]

lemma undoAction_answers {answer : Except Critical (List LogValue)}
    (answers : UndoAnswers debug corners call answer) (data : List UInt8) (start : Nat)
    (here : At data start ((call.written corners).encode debug start))
    (fits : start + ((call.written corners).encode debug start).length < 2 ^ 31) :
    ∃ log', undoAction.run.run ⟨data, start + ((call.written corners).encode debug start).length -
        intSize debug, debug⟩ =
      some (handledAs start (call.written corners).action.code answer, log') ∧
      ((∃ critical, answer = .error critical) ∨
        log'.idx = start + ((call.written corners).body debug).length) := by
  rw [undoAction_eq debug (call.written corners) data start here fits]
  rw [ActionRecord.encode, body, append_assoc] at here fits
  rw [length_append, length_append] at fits
  have there := (at_append (at_append here).2).1
  rcases answers with ⟨front, back, same, reads, ends⟩
  rw [same] at there
  have pops := reads data _ (at_append there).1 (by rw [same, length_append] at fits; omega)
  refine ⟨⟨data, _, debug⟩, (run_handled _ _ pops), ?_⟩
  rcases ends with rfl | raised
  · right
    rw [body, length_append, ← Nat.add_assoc, same, append_nil]
  · exact .inl raised

lemma records_append (corners : Corners) (calls rest : List BlockCall) :
    records corners (calls ++ rest) = records corners calls ++
      records (calls.foldl cornersAfter corners) rest := by
  induction calls generalizing corners with
  | nil => rfl
  | cons first calls ih =>
    cases first with
    | journaled call => exact congrArg (call.written corners :: ·) (ih _)
    | setCornersPerBlock cornersPerBlock => exact ih _

lemma undoLast_eq (debug : Bool) (corners : Corners) (calls : List BlockCall)
    (call : JournaledCall) (j : DbJournal) (wrote : runAll corners
      (new debug) (calls ++ [.journaled call]) = some j) (start : Nat)
    (written : ActionRecord)
    (isWritten : call.written (calls.foldl cornersAfter corners) = written)
    (isStart : (encodeAll debug 0 (records corners calls)).length = start) :
    j.log.data.length = start + (written.encode debug start).length ∧
      At j.log.data start (written.encode debug start) ∧
      j.log.undoLast = undoAction.run.run
        ⟨j.log.data, start + (written.encode debug start).length - intSize debug, debug⟩ := by
  rw [runAll_eq] at wrote
  rcases writeAll_log debug (records corners (calls ++ [.journaled call])) with
    ⟨j', wrote', log⟩
  have same : j' = j := Option.some.inj (wrote'.symm.trans wrote)
  have data : encodeAll debug 0 (records corners (calls ++ [.journaled call])) =
      encodeAll debug 0 (records corners calls) ++ written.encode debug start := by
    rw [records_append, records, records, encodeAll_concat, isWritten, isStart]
  rw [same, data] at log
  have size : (encodeAll debug 0 (records corners calls) ++
      written.encode debug start).length = start + (written.encode debug start).length := by
    rw [length_append, isStart]
  have positive := encode_length_pos debug start written
  have enough : intSize debug ≤ start + (written.encode debug start).length := by
    rw [intSize]
    cases debug <;> simp at positive ⊢ <;> omega
  have there : At (encodeAll debug 0 (records corners calls) ++
      written.encode debug start) start (written.encode debug start) := by
    have whole : At (encodeAll debug 0 (records corners calls) ++
        written.encode debug start) 0 (encodeAll debug 0 (records corners calls) ++
        written.encode debug start) := prefix_rfl
    have later := (at_append whole).2
    rw [Nat.zero_add, isStart] at later
    exact later
  refine ⟨?_, ?_, ?_⟩
  · rw [log]
    exact size
  · rw [log]
    exact there
  · rw [log, undoLast, run_lift_bind (moveToEnd_run _),
      run_lift_bind (moveBackOneInt_run _ (by rw [JournalLog.size, size]; exact enough))]
    simp only [JournalLog.size, size]

/-- What undoing the last action answers; what it pops ends in front of the end of the action. -/
def UndoesAs (debug : Bool) (log : JournalLog) (start : Nat) (written : ActionRecord)
    (answer : Except Critical (List LogValue)) : Prop :=
  ∃ log', log.undoLast = some (handledAs start written.action.code answer, log') ∧
    ((∃ critical, answer = .error critical) ∨ log.data.drop log'.idx = actionEnd debug start)

/-- Undoing pops the parameters that were pushed, or raises a critical error that names what it
does not support. Every call is of one of three kinds. -/
theorem undo_decodes_last (debug : Bool) (corners : Corners) (calls : List BlockCall)
    (call : JournaledCall) (j : DbJournal) (wrote : BlockCall.runAll corners
      (new debug) (calls ++ [.journaled call]) = some j)
    (fits : j.log.size < 2 ^ 31) :
    ∃ before written, BlockCall.runAll corners (new debug) calls = some before ∧
      written = call.written (calls.foldl BlockCall.cornersAfter corners) ∧
      (call.undoReads = true →
        UndoesAs debug j.log before.log.size written (.ok written.params)) ∧
      (call.undoLacks = true → ∃ critical, critical.Names written ∧
        UndoesAs debug j.log before.log.size written (.error critical)) ∧
      (call.undoRetypes = true → debug = false → ∃ popped, SameBytes false popped written.params ∧
        UndoesAs debug j.log before.log.size written (.ok popped)) ∧
      (call.undoReads = true ∨ call.undoLacks = true ∨ call.undoRetypes = true) := by
  rcases writeAll_log debug (BlockCall.records corners calls) with ⟨before, wroteBefore, logBefore⟩
  rw [← runAll_eq] at wroteBefore
  have start : (encodeAll debug 0 (BlockCall.records corners calls)).length =
      before.log.size := by
    rw [logBefore]
    rfl
  rcases undoLast_eq debug corners calls call j wrote before.log.size _ rfl start with
    ⟨size, there, last⟩
  have inside : before.log.size + ((call.written (calls.foldl BlockCall.cornersAfter
      corners)).encode debug before.log.size).length < 2 ^ 31 := size ▸ fits
  have undone : ∀ {answer}, UndoAnswers debug (calls.foldl BlockCall.cornersAfter corners) call
      answer → UndoesAs debug j.log before.log.size
        (call.written (calls.foldl BlockCall.cornersAfter corners)) answer := by
    intro answer answers
    rcases undoAction_answers debug _ call answers j.log.data before.log.size there inside with
      ⟨log', pass, stops⟩
    refine ⟨log', last.trans pass, stops.imp_right fun stops => ?_⟩
    rw [ActionRecord.encode] at there size
    have ends := (at_append there).2
    rw [stops]
    apply (List.IsPrefix.eq_of_length ends _).symm
    rw [length_drop, size, length_append]
    omega
  refine ⟨before, _, wroteBefore, rfl, fun reads => undone (undo_pops debug _ call reads), ?_, ?_,
    undo_kinds call⟩
  · intro lacks
    rcases undo_raises debug (calls.foldl BlockCall.cornersAfter corners) call lacks with
      ⟨critical, answers, names⟩
    exact ⟨critical, names, undone answers⟩
  · rintro retypes rfl
    rcases undo_retypes (calls.foldl BlockCall.cornersAfter corners) call retypes with
      ⟨popped, answers, same⟩
    exact ⟨popped, same, undone answers⟩

lemma runAll_fits (calls : List BlockCall)
    (fits : (encodeAll false 0 (BlockCall.records ⟨1, 1⟩ calls)).length < 2 ^ 31) :
    ∃ j, BlockCall.runAll ⟨1, 1⟩ (new false) calls = some j ∧ j.log.size < 2 ^ 31 := by
  rcases writeAll_log false (BlockCall.records ⟨1, 1⟩ calls) with ⟨j, wrote, log⟩
  rw [← runAll_eq] at wrote
  exact ⟨j, wrote, by rw [log]; exact fits⟩

theorem undo_decodes_last_sample :
    (∃ j before, BlockCall.runAll ⟨1, 1⟩ (new false) replayCalls = some before ∧
      BlockCall.runAll ⟨1, 1⟩ (new false)
        (replayCalls ++ [.journaled (.iTermDisconnect 3 1 0)]) = some j ∧
      UndoesAs false j.log before.log.size (JournaledCall.written ⟨1, 1⟩ (.iTermDisconnect 3 1 0))
        (.ok [.int DbObjectType.dbITermObj.code, .uint 3, .uint 1, .uint 0])) ∧
      ∃ j critical start, BlockCall.runAll ⟨1, 1⟩ (new false)
        (replayCalls ++ [.journaled (.bTermDestroy 1)]) = some j ∧
      critical.codes = [DbObjectType.dbBTermObj.code] ∧
      UndoesAs false j.log start (JournaledCall.written ⟨1, 1⟩ (.bTermDestroy 1))
        (.error critical) := by
  constructor
  · rcases runAll_fits (replayCalls ++ [.journaled (.iTermDisconnect 3 1 0)])
      (by decide +kernel) with ⟨j, wrote, fits⟩
    rcases undo_decodes_last false ⟨1, 1⟩ replayCalls (.iTermDisconnect 3 1 0) j wrote fits with
      ⟨before, _, wroteBefore, rfl, undone, _⟩
    exact ⟨j, before, wroteBefore, wrote, undone rfl⟩
  · rcases runAll_fits (replayCalls ++ [.journaled (.bTermDestroy 1)])
      (by decide +kernel) with ⟨j, wrote, fits⟩
    rcases undo_decodes_last false ⟨1, 1⟩ replayCalls (.bTermDestroy 1) j wrote fits with
      ⟨before, _, _, rfl, _, lacks, _⟩
    rcases lacks rfl with ⟨critical, ⟨_, _, params, names⟩, undone⟩
    cases params
    rcases names with names | ⟨_, _, _, params, _⟩
    · exact ⟨j, critical, before.log.size, wrote, names, undone⟩
    · cases params

/-- A journal with one `dbBTerm` that is created. -/
theorem bterm_create_not_undone : ∃ j, BlockCall.runAll ⟨1, 1⟩ (new false)
        [.journaled (.bTermCreate 1 ⟨[110], by decide⟩)] = some j ∧
      j.log.undoLast.map Prod.fst = some (.error ⟨441, "No undo_createObject support for type ",
        [DbObjectType.dbBTermObj.code]⟩) := by
  rcases writeAll_log false (BlockCall.records ⟨1, 1⟩
    [.journaled (.bTermCreate 1 ⟨[110], by decide⟩)]) with ⟨j, wrote, log⟩
  refine ⟨j, (runAll_eq _ _ _).trans wrote, ?_⟩
  rw [log]
  decide +kernel

end OpenRoad.Odb
