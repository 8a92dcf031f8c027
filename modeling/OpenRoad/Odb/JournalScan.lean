import OpenRoad.Lib.Codec
import OpenRoad.Odb.JournalLog

/-! What a log of complete actions looks like, and that both scans and `append` read it
exactly. -/

namespace OpenRoad.Odb

open OpenRoad.Lib ActionRecord DbJournal List ActionRecord
open Option (bind_eq_bind bind_some)

def tagged (debug : Bool) (type : LogDataType) (bytes : List UInt8) : List UInt8 :=
  if debug then type.code :: bytes else bytes

def LogValue.encode (debug : Bool) : LogValue → List UInt8
  | .bool value => tagged debug .kLogBool [if value then 1 else 0]
  | .char value => tagged debug .kLogChar [value]
  | .uchar value => tagged debug .kLogUChar [value]
  | .int value => tagged debug .kLogInt (bytesLE 4 value.toUInt32.toNat)
  | .uint value => tagged debug .kLogUInt (bytesLE 4 value.toNat)
  | .float bits => tagged debug .kLogFloat (bytesLE 4 bits.toNat)
  | .double bits => tagged debug .kLogDouble (bytesLE 8 bits.toNat)
  | .string none =>
    tagged debug .kLogString (tagged debug .kLogInt (bytesLE 4 (-1 : Int32).toUInt32.toNat))
  | .string (some str) => tagged debug .kLogString
    (tagged debug .kLogInt (bytesLE 4 (Int32.ofNat str.val.length).toUInt32.toNat) ++ str.val)

/-- An action up to its `kEndAction`. -/
def ActionRecord.body (debug : Bool) (written : ActionRecord) : List UInt8 :=
  (LogValue.uchar written.action.code).encode debug ++
    written.params.flatMap (LogValue.encode debug)

/-- The end of an action that starts at `start`. -/
def actionEnd (debug : Bool) (start : Nat) : List UInt8 :=
  (LogValue.uchar JournalLog.kEndAction).encode debug ++
    (LogValue.uint (UInt32.ofNat start)).encode debug

def ActionRecord.encode (debug : Bool) (start : Nat) (written : ActionRecord) : List UInt8 :=
  written.body debug ++ actionEnd debug start

def encodeAll (debug : Bool) : Nat → List ActionRecord → List UInt8
  | _, [] => []
  | start, written :: rest =>
    written.encode debug start ++ encodeAll debug (start + (written.encode debug start).length) rest

def visitsFrom (debug : Bool) : Nat → List ActionRecord → List JournalLog.Visit
  | _, [] => []
  | start, written :: rest =>
    ⟨start, written⟩ :: visitsFrom debug (start + (written.encode debug start).length) rest

lemma tagged_length (debug : Bool) (type : LogDataType) (bytes : List UInt8) :
    (tagged debug type bytes).length = bytes.length + debug.toNat := by
  cases debug <;> rfl

variable (debug : Bool) (start : Nat)

lemma actionEnd_length :
    (actionEnd debug start).length = if debug then 7 else 5 := by
  cases debug <;> rfl

lemma encode_length (debug : Bool) (start start' : Nat) (written : ActionRecord) :
    (written.encode debug start).length = (written.encode debug start').length := by
  simp only [encode, length_append, actionEnd_length]

lemma encode_length_pos (written : ActionRecord) :
    5 + 2 * debug.toNat < (written.encode debug start).length := by
  have positive : 0 < ((LogValue.uchar written.action.code).encode debug).length := by
    rw [LogValue.encode, tagged_length, length_singleton]
    omega
  rw [encode, body, length_append, length_append,
    actionEnd_length]
  cases debug <;> simp <;> omega

lemma encodeAll_append (front back : List ActionRecord) :
    encodeAll debug start (front ++ back) = encodeAll debug start front ++
      encodeAll debug (start + (encodeAll debug start front).length) back := by
  induction front generalizing start with
  | nil => rfl
  | cons written rest ih =>
    rw [cons_append, encodeAll, encodeAll, ih, append_assoc, length_append,
      Nat.add_assoc]

lemma encodeAll_length (debug : Bool) (start start' : Nat) (records : List ActionRecord) :
    (encodeAll debug start records).length = (encodeAll debug start' records).length := by
  induction records generalizing start start' with
  | nil => rfl
  | cons written rest ih =>
    rw [encodeAll, encodeAll, length_append, length_append,
      encode_length debug start start' written]
    congr 1
    exact ih _ _

lemma encodeAll_length_zero (records : List ActionRecord) :
    (encodeAll debug start records).length = 0 ↔ records = [] := by
  cases records with
  | nil => simp [encodeAll]
  | cons written rest =>
    have positive := encode_length_pos debug start written
    rw [encodeAll, length_append]
    simp only [reduceCtorEq, iff_false]
    omega

lemma visitsFrom_append (front back : List ActionRecord) :
    visitsFrom debug start (front ++ back) = visitsFrom debug start front ++
      visitsFrom debug (start + (encodeAll debug start front).length) back := by
  induction front generalizing start with
  | nil => rfl
  | cons written rest ih =>
    rw [cons_append, visitsFrom, visitsFrom, ih, encodeAll, length_append,
      Nat.add_assoc, cons_append]

lemma visitsFrom_written (records : List ActionRecord) :
    (visitsFrom debug start records).map JournalLog.Visit.written = records := by
  induction records generalizing start with
  | nil => rfl
  | cons written rest ih => rw [visitsFrom, map_cons, ih]

namespace JournalLog

lemma push_eq (log : JournalLog) (value : LogValue) :
    log.push value = log.pushBytes (value.encode log.debug) := by
  rcases log with ⟨data, idx, debug⟩
  cases value with
  | string str => cases str <;> cases debug <;> simp [push, pushInt, setType, pushBytes,
    LogValue.encode, tagged]
  | _ => cases debug <;> simp [push, pushInt, setType, pushBytes, LogValue.encode, tagged]

lemma pushBytes_append (log : JournalLog) (front back : List UInt8) :
    (log.pushBytes front).pushBytes back = log.pushBytes (front ++ back) := by
  simp only [pushBytes, append_assoc]

@[simp] lemma pushBytes_debug (log : JournalLog) (bytes : List UInt8) :
    (log.pushBytes bytes).debug = log.debug := rfl

lemma pushEnd_eq (log : JournalLog) (start : Nat) :
    (log.push (.uchar kEndAction)).push (.uint (UInt32.ofNat start)) =
      log.pushBytes (actionEnd log.debug start) := by
  rw [push_eq, push_eq, pushBytes_debug, pushBytes_append, actionEnd]

end JournalLog

namespace DbJournal

lemma foldl_pushParam (params : List LogValue) (j : DbJournal) : params.foldl pushParam j =
      { j with log := j.log.pushBytes (params.flatMap (LogValue.encode j.log.debug)) } := by
  induction params generalizing j with
  | nil => simp [JournalLog.pushBytes]
  | cons value rest ih =>
    rw [foldl_cons, ih, pushParam]
    simp only [JournalLog.push_eq, JournalLog.pushBytes_debug, JournalLog.pushBytes_append,
      flatMap_cons]

lemma write_eq (j : DbJournal) (idle : j.startAction = false) (written : ActionRecord) :
    j.write written = some ⟨j.log.pushBytes (written.encode j.log.debug j.log.size), false,
      UInt32.ofNat j.log.size⟩ := by
  simp only [write, beginAction, idle, Bool.false_eq_true, if_false, bind_eq_bind,
    bind_some, foldl_pushParam, endAction, actionEnd, JournalLog.push_eq,
    JournalLog.pushBytes_debug, JournalLog.pushBytes_append, encode,
    body, append_assoc]

lemma writeAll_eq (records : List ActionRecord) (j : DbJournal) (idle : j.startAction = false) :
    ∃ j', j.writeAll records = some j' ∧ j'.startAction = false ∧
      j'.log = j.log.pushBytes (encodeAll j.log.debug j.log.size records) := by
  induction records generalizing j with
  | nil => exact ⟨j, rfl, idle, by simp [JournalLog.pushBytes, encodeAll]⟩
  | cons written rest ih =>
    rcases ih ⟨j.log.pushBytes (written.encode j.log.debug j.log.size), false,
      UInt32.ofNat j.log.size⟩ rfl with ⟨j', ran, idle', log⟩
    refine ⟨j', ?_, idle', ?_⟩
    · rw [writeAll, foldlM_cons, write_eq j idle]
      exact ran
    · rw [log, JournalLog.pushBytes_append, JournalLog.pushBytes_debug, encodeAll]
      simp only [JournalLog.size, JournalLog.pushBytes, length_append]

end DbJournal

namespace JournalLog

/-- Wherever `bytes` stand, `scan` returns `value` and moves past them. -/
def Reads {β : Type} (debug : Bool) (scan : Scan β) (bytes : List UInt8) (value : β) : Prop :=
  ∀ data start, At data start bytes → start + bytes.length < 2 ^ 31 →
    scan.run ⟨data, start, debug⟩ = some (value, ⟨data, start + bytes.length, debug⟩)

variable {β γ : Type} {debug : Bool}

lemma reads_pure (value : β) : Reads debug (pure value) [] value := by
  intro data start _ _
  rfl

variable {scan : Scan β} {after : β → Scan γ}

lemma reads_bind {front back : List UInt8} {value : β} {result : γ}
    (first : Reads debug scan front value) (second : Reads debug (after value) back result) :
    Reads debug (scan >>= after) (front ++ back) result := by
  intro data start both fits
  rw [length_append, ← Nat.add_assoc] at fits
  rcases at_append both with ⟨here, there⟩
  rw [StateT.run_bind, first data start here (Nat.lt_of_le_of_lt (Nat.le_add_right _ _) fits)]
  rw [length_append, ← Nat.add_assoc]
  exact second data _ there fits

lemma reads_map {scan : Scan β} {bytes : List UInt8} {value : β} (f : β → γ)
    (first : Reads debug scan bytes value) :
    Reads debug (scan >>= fun found => pure (f found)) bytes (f value) := by
  have both : Reads debug (scan >>= fun found => pure (f found)) (bytes ++ []) (f value) :=
    reads_bind first (reads_pure (f value))
  rwa [append_nil] at both

lemma reads_next (debug : Bool) (byte : UInt8) : Reads debug next [byte] byte := by
  intro data start there fits
  have present := (at_cons there).1
  rw [length_singleton] at fits ⊢
  simp only [StateT.run, next, present, bind_eq_bind, bind_some,
    if_neg (Nat.ne_of_lt fits)]

lemma reads_nextMany (debug : Bool) (bytes : List UInt8) : Reads debug (nextMany bytes.length) bytes bytes := by
  induction bytes with
  | nil => exact reads_pure []
  | cons byte rest ih => exact reads_bind (reads_next debug byte) (reads_map (byte :: ·) ih)

lemma reads_tagged {scan : Scan β} {bytes : List UInt8} {value : β} (type : LogDataType)
    (first : Reads debug scan bytes value) :
    Reads debug (do checkType type; scan) (tagged debug type bytes) value := by
  intro data start there fits
  cases debug with
  | false => exact first data start there fits
  | true =>
    have tag : Reads true (checkType type) [type.code] () := by
      intro data start there fits
      have found := reads_next true type.code data start there fits
      simp only [StateT.run] at found
      simp [StateT.run, checkType, bind, StateT.bind, MonadState.get, getThe, MonadStateOf.get,
        StateT.get, found]
      rfl
    exact reads_bind tag first data start there fits

lemma reads_bytesLE (debug : Bool) {α : Type} (count : Nat) (n : Nat) (small : n < 256 ^ count)
    (read : Nat → α) :
    Reads debug (do let bytes ← nextMany count; pure (read (ofBytesLE bytes)))
      (bytesLE count n) (read n) := by
  have bytes := reads_nextMany debug (bytesLE count n)
  rw [bytesLE_length] at bytes
  have value := reads_map (fun bytes => read (ofBytesLE bytes)) bytes
  rwa [ofBytesLE_bytesLE count n small] at value

lemma reads_popUChar (debug : Bool) (value : UInt8) :
    Reads debug popUChar ((LogValue.uchar value).encode debug) value :=
  reads_tagged .kLogUChar (reads_next debug value)

lemma reads_popUInt (debug : Bool) (value : UInt32) :
    Reads debug popUInt ((LogValue.uint value).encode debug) value := by
  have word := reads_bytesLE debug 4 value.toNat value.toNat_lt UInt32.ofNat
  rw [UInt32.ofNat_toNat] at word
  exact reads_tagged .kLogUInt word

lemma reads_popInt (debug : Bool) (value : Int32) :
    Reads debug popInt (tagged debug .kLogInt (bytesLE 4 value.toUInt32.toNat)) value := by
  have word := reads_bytesLE debug 4 value.toUInt32.toNat value.toUInt32.toNat_lt
    fun n => (UInt32.ofNat n).toInt32
  rw [UInt32.ofNat_toNat, Int32.toInt32_toUInt32] at word
  exact reads_tagged .kLogInt word

lemma reads_popString (debug : Bool) (value : Option CString) :
    Reads debug popString ((LogValue.string value).encode debug) value := by
  cases value with
  | none =>
    apply reads_tagged .kLogString
    have ends : Reads debug (do
        let len ← popInt
        if len = -1 then pure none
        else do
          let chars ← nextMany len.toInt.toNat
          pure (some (CString.ofChars chars)))
        (tagged debug .kLogInt (bytesLE 4 (-1 : Int32).toUInt32.toNat) ++ []) none := by
      apply reads_bind (reads_popInt debug (-1))
      rw [if_pos rfl]
      exact reads_pure none
    rwa [append_nil] at ends
  | some str =>
    intro data start there fits
    have small : str.val.length < 2 ^ 31 := by
      simp only [LogValue.encode, tagged_length, length_append] at fits
      omega
    have len := Int32.toInt_ofNat_of_lt small
    have notNull : Int32.ofNat str.val.length ≠ -1 := by
      intro same
      rw [same] at len
      have negative : (-1 : Int32).toInt = -1 := rfl
      omega
    have chars : Reads debug (do
        let chars ← nextMany (Int32.ofNat str.val.length).toInt.toNat
        pure (some (CString.ofChars chars))) str.val (some str) := by
      have found := reads_map (fun chars => some (CString.ofChars chars))
        (reads_nextMany debug str.val)
      rw [len, Int.toNat_natCast]
      rwa [CString.ofChars_val] at found
    apply reads_tagged .kLogString _ data start there fits
    apply reads_bind (reads_popInt debug _)
    rw [if_neg notNull]
    exact chars

lemma reads_pop (debug : Bool) (value : LogValue) :
    Reads debug (pop value.type) (value.encode debug) value := by
  cases value with
  | bool value =>
    have byte := reads_map (fun byte => LogValue.bool (byte == 1))
      (reads_next debug (if value then 1 else 0))
    apply reads_tagged .kLogBool
    cases value <;> exact byte
  | char value => exact reads_tagged .kLogChar (reads_map LogValue.char (reads_next debug value))
  | uchar value => exact reads_map LogValue.uchar (reads_popUChar debug value)
  | int value => exact reads_map LogValue.int (reads_popInt debug value)
  | uint value => exact reads_map LogValue.uint (reads_popUInt debug value)
  | float bits =>
    have word := reads_bytesLE debug 4 bits.toNat bits.toNat_lt
      fun n => LogValue.float (UInt32.ofNat n)
    rw [UInt32.ofNat_toNat] at word
    exact reads_tagged .kLogFloat word
  | double bits =>
    have word := reads_bytesLE debug 8 bits.toNat bits.toNat_lt
      fun n => LogValue.double (UInt64.ofNat n)
    rw [UInt64.ofNat_toNat] at word
    exact reads_tagged .kLogDouble word
  | string value => exact reads_map LogValue.string (reads_popString debug value)

lemma reads_popParams (debug : Bool) (params : List LogValue) :
    Reads debug (popParams (params.map LogValue.type)) (params.flatMap (LogValue.encode debug))
      params := by
  induction params with
  | nil => exact reads_pure []
  | cons value rest ih => exact reads_bind (reads_pop debug value) (reads_map (value :: ·) ih)

lemma reads_popAction (debug : Bool) (action : Action) :
    Reads debug popAction ((LogValue.uchar action.code).encode debug) action := by
  have code : Action.ofCode action.code = some action := by cases action <;> rfl
  have byte : Reads debug popAction ((LogValue.uchar action.code).encode debug ++ []) action := by
    apply reads_bind (reads_popUChar debug action.code)
    rw [code]
    exact reads_pure action
  rwa [append_nil] at byte

variable (log : JournalLog)

lemma atEnd_run (answer : Bool) (reached : log.idx = log.size ↔ answer = true) :
    atEnd.run log = some (answer, log) := by
  have same : decide (log.idx = log.size) = answer := by
    rw [Bool.eq_iff_iff, decide_eq_true_iff, reached]
  rw [← same]
  rfl

lemma reads_record (debug : Bool) (start : Nat) (written : ActionRecord)
    (after : Action → List LogValue → UInt8 → UInt32 → Scan β) (data : List UInt8)
    (there : At data start (written.encode debug start))
    (fits : start + (written.encode debug start).length < 2 ^ 31) :
    (do
      let action ← popAction
      let params ← popParams written.types
      let endAction ← popUChar
      let actionIdx ← popUInt
      after action params endAction actionIdx : Scan β).run ⟨data, start, debug⟩ =
    (after written.action written.params kEndAction (UInt32.ofNat start)).run
      ⟨data, start + (written.encode debug start).length, debug⟩ := by
  have all : Reads debug (do
      let action ← popAction
      let params ← popParams written.types
      let endAction ← popUChar
      let actionIdx ← popUInt
      pure (action, params, endAction, actionIdx)) (written.encode debug start)
      (written.action, written.params, kEndAction, UInt32.ofNat start) := by
    rw [encode, body, append_assoc]
    apply reads_bind (reads_popAction debug written.action)
    apply reads_bind (reads_popParams debug written.params)
    apply reads_bind (reads_popUChar debug kEndAction)
    exact reads_map (fun idx => (written.action, written.params, kEndAction, idx))
      (reads_popUInt debug (UInt32.ofNat start))
  have split : (do
      let action ← popAction
      let params ← popParams written.types
      let endAction ← popUChar
      let actionIdx ← popUInt
      after action params endAction actionIdx : Scan β) =
    (do
      let action ← popAction
      let params ← popParams written.types
      let endAction ← popUChar
      let actionIdx ← popUInt
      pure (action, params, endAction, actionIdx)) >>=
      fun found => after found.1 found.2.1 found.2.2.1 found.2.2.2 := by
    simp only [bind_assoc, pure_bind]
  rw [split, StateT.run_bind, all data start there fits]
  rfl

lemma forward_spec (debug : Bool) (records : List ActionRecord) (data : List UInt8)
    (start : Nat) (there : At data start (encodeAll debug start records))
    (ends : start + (encodeAll debug start records).length = data.length)
    (fits : data.length < 2 ^ 31) :
    (forward (records.map types)).run ⟨data, start, debug⟩ =
      some (visitsFrom debug start records, ⟨data, data.length, debug⟩) := by
  induction records generalizing start with
  | nil =>
    have same : start = data.length := ends
    subst same
    rw [map_nil, forward, StateT.run_bind, atEnd_run _ true (by simp [size])]
    rfl
  | cons written rest ih =>
    rw [encodeAll] at there ends
    rw [length_append, ← Nat.add_assoc] at ends
    rcases at_append there with ⟨here, later⟩
    have positive := encode_length_pos debug start written
    have small : start < 2 ^ 31 := by omega
    have index : (UInt32.ofNat start).toNat = start := by
      rw [UInt32.toNat_ofNat', Nat.mod_eq_of_lt (by omega)]
    rw [map_cons, forward, StateT.run_bind,
      atEnd_run _ false (by simp only [size, Bool.false_eq_true, iff_false]; omega)]
    simp only [bind_eq_bind, bind_some, Bool.false_eq_true, if_false]
    rw [StateT.run_bind]
    simp only [StateT.run_get, pure, bind_eq_bind, bind_some]
    rw [reads_record debug start written _ data here (by omega)]
    rw [if_neg (by simp [index]), StateT.run_bind, ih _ later ends]
    rfl

def intSize (debug : Bool) : Nat := if debug then 5 else 4

lemma set_run (idx : Nat) (small : idx < 2 ^ 31) (log : JournalLog) :
    (set (UInt32.ofNat idx)).run log = some ((), { log with idx := idx }) := by
  have index : (UInt32.ofNat idx).toNat = idx := by
    rw [UInt32.toNat_ofNat', Nat.mod_eq_of_lt (by omega)]
  rw [set, index]
  rfl

lemma moveBackOneInt_run (back : intSize log.debug ≤ log.idx) :
    moveBackOneInt.run log = some ((), { log with idx := log.idx - intSize log.debug }) := by
  rw [moveBackOneInt, StateT.run_bind]
  simp only [StateT.run_get, pure, bind_eq_bind, bind_some]
  rw [intSize] at back
  rw [if_pos back]
  rfl

lemma popUInt_last (debug : Bool) (data : List UInt8) (start : Nat) (written : ActionRecord)
    (there : At data start (written.encode debug start))
    (fits : start + (written.encode debug start).length < 2 ^ 31) :
    popUInt.run ⟨data, start + (written.encode debug start).length - intSize debug, debug⟩ =
      some (UInt32.ofNat start, ⟨data, start + (written.encode debug start).length, debug⟩) := by
  have size : ((LogValue.uint (UInt32.ofNat start)).encode debug).length = intSize debug := by
    cases debug <;> rfl
  have total : (written.encode debug start).length = (written.body debug).length +
      ((LogValue.uchar kEndAction).encode debug).length + intSize debug := by
    rw [encode, actionEnd, length_append, length_append, size, Nat.add_assoc]
  have position : start + (written.encode debug start).length - intSize debug =
      start + (written.body debug).length +
        ((LogValue.uchar kEndAction).encode debug).length := by omega
  rw [encode, actionEnd] at there
  have last := (at_append (at_append there).2).2
  rw [position, reads_popUInt debug (UInt32.ofNat start) data _ last (by rw [size]; omega), size,
    total]
  simp only [Nat.add_assoc]

lemma backward_step (debug : Bool) (start : Nat) (written : ActionRecord)
    (types : List (List LogDataType)) (data : List UInt8)
    (here : At data start (written.encode debug start)) (fits : data.length < 2 ^ 31) :
    (backward (written.types :: types)).run
        ⟨data, start + (written.encode debug start).length - intSize debug, debug⟩ =
      if start = 0 then
        (if types = [] then some ([⟨start, written⟩],
          ⟨data, start + (written.body debug).length, debug⟩) else none)
      else (do
        moveBackOneInt
        let visits ← backward types
        pure (⟨start, written⟩ :: visits) : Scan (List Visit)).run ⟨data, start, debug⟩ := by
  have positive := encode_length_pos debug start written
  have bound := at_bound here (ne_nil_of_length_pos (by omega))
  have index : (UInt32.ofNat start).toNat = start := by
    rw [UInt32.toNat_ofNat', Nat.mod_eq_of_lt (by omega)]
  have zero : UInt32.ofNat start = 0 ↔ start = 0 := by
    rw [← UInt32.toNat_inj, index]
    rfl
  have shorter : (written.body debug).length ≤ (written.encode debug start).length := by
    rw [encode, length_append]
    exact Nat.le_add_right _ _
  have readBody : Reads debug (do
      let action ← popAction
      let params ← popParams written.types
      pure (action, params)) (written.body debug) (written.action, written.params) :=
    reads_bind (reads_popAction debug written.action)
      (reads_map (fun params => (written.action, params)) (reads_popParams debug written.params))
  have body := readBody data start (at_append here).1 (by omega)
  have split : ∀ after : Action → List LogValue → Scan (List Visit), (do
        let action ← popAction
        let params ← popParams written.types
        after action params) =
      (do
        let action ← popAction
        let params ← popParams written.types
        pure (action, params)) >>= fun found => after found.1 found.2 := by
    intro after
    simp only [bind_assoc, pure_bind]
  rw [backward, StateT.run_bind, popUInt_last debug data start written here (by omega)]
  simp only [bind_eq_bind, bind_some]
  rw [StateT.run_bind, set_run start (by omega)]
  simp only [bind_eq_bind, bind_some]
  rw [split, StateT.run_bind, body]
  simp only [bind_eq_bind, bind_some, index, zero]
  rcases eq_or_ne start 0 with first | later
  · rw [if_pos first, if_pos first]
    split_ifs <;> rfl
  · rw [if_neg later, if_neg later, StateT.run_bind, set_run start (by omega)]
    rfl

lemma encodeAll_concat (debug : Bool) (front : List ActionRecord) (written : ActionRecord) :
    encodeAll debug 0 (front ++ [written]) = encodeAll debug 0 front ++
      written.encode debug (encodeAll debug 0 front).length := by
  rw [encodeAll_append, Nat.zero_add, encodeAll, encodeAll, append_nil]

lemma visitsFrom_concat (debug : Bool) (front : List ActionRecord) (written : ActionRecord) :
    visitsFrom debug 0 (front ++ [written]) =
      visitsFrom debug 0 front ++ [⟨(encodeAll debug 0 front).length, written⟩] := by
  rw [visitsFrom_append, Nat.zero_add, visitsFrom, visitsFrom]

lemma intSize_le (debug : Bool) (records : List ActionRecord) (some' : records ≠ []) :
    intSize debug ≤ (encodeAll debug 0 records).length := by
  cases records with
  | nil => exact absurd rfl some'
  | cons written rest =>
    have positive := encode_length_pos debug 0 written
    rw [encodeAll, length_append, intSize]
    cases debug <;> simp at positive ⊢ <;> omega

lemma backward_spec (debug : Bool) (records : List ActionRecord) (some' : records ≠ [])
    (data : List UInt8) (there : At data 0 (encodeAll debug 0 records))
    (fits : data.length < 2 ^ 31) :
    ∃ log', (backward (records.reverse.map types)).run
        ⟨data, (encodeAll debug 0 records).length - intSize debug, debug⟩ =
      some ((visitsFrom debug 0 records).reverse, log') := by
  induction records using reverseRecOn with
  | nil => exact absurd rfl some'
  | append_singleton front written ih =>
    rw [encodeAll_concat] at there
    rcases at_append there with ⟨before, here⟩
    rw [Nat.zero_add] at here
    rw [encodeAll_concat, visitsFrom_concat, reverse_append, reverse_append,
      length_append, reverse_singleton, singleton_append, map_cons,
      reverse_singleton, singleton_append, backward_step debug _ written _ data here fits]
    rcases eq_or_ne front [] with rfl | more
    · exact ⟨_, rfl⟩
    · have later := mt (encodeAll_length_zero debug 0 front).mp more
      rcases ih more before with ⟨log', rest⟩
      refine ⟨log', ?_⟩
      rw [if_neg later, StateT.run_bind, moveBackOneInt_run _ (intSize_le debug front more)]
      simp only [bind_eq_bind, bind_some]
      rw [StateT.run_bind, rest]
      rfl

lemma scanIndices_spec (debug : Bool) (records : List ActionRecord) (some' : records ≠ [])
    (data : List UInt8) (found : List UInt32) (fuel : Nat)
    (there : At data 0 (encodeAll debug 0 records)) (fits : data.length < 2 ^ 31)
    (enough : records.length ≤ fuel) :
    ∃ log', log'.data = data ∧ log'.debug = debug ∧ (scanIndices fuel found).run
        ⟨data, (encodeAll debug 0 records).length - intSize debug, debug⟩ =
      some ((visitsFrom debug 0 records).map (fun visit => UInt32.ofNat visit.start) ++ found,
        log') := by
  induction records using reverseRecOn generalizing found fuel with
  | nil => exact absurd rfl some'
  | append_singleton front written ih =>
    rw [encodeAll_concat] at there
    rcases at_append there with ⟨before, here⟩
    rw [Nat.zero_add] at here
    generalize startEq : (encodeAll debug 0 front).length = start at here
    have positive := encode_length_pos debug start written
    have bound := at_bound here (ne_nil_of_length_pos (by omega))
    have zero : UInt32.ofNat start = 0 ↔ start = 0 := by
      rw [← UInt32.toNat_inj, UInt32.toNat_ofNat', Nat.mod_eq_of_lt (by omega)]
      rfl
    rw [length_append] at enough
    cases fuel with
    | zero => simp at enough
    | succ fuel =>
      rw [encodeAll_concat, visitsFrom_concat, length_append, startEq, map_append,
        append_assoc, scanIndices, StateT.run_bind,
        popUInt_last debug data start written here (by omega)]
      simp only [bind_eq_bind, bind_some, zero]
      rcases eq_or_ne front [] with rfl | more
      · have first : start = 0 := startEq.symm
        rw [if_pos first]
        exact ⟨_, rfl, rfl, rfl⟩
      · have later := mt (encodeAll_length_zero debug 0 front).mp more
        rcases ih more (UInt32.ofNat start :: found) fuel before
          (Nat.le_of_succ_le_succ enough) with ⟨log', sameData, sameDebug, rest⟩
        refine ⟨log', sameData, sameDebug, ?_⟩
        rw [if_neg (startEq ▸ later), StateT.run_bind, set_run start (by omega)]
        simp only [bind_eq_bind, bind_some]
        rw [StateT.run_bind, moveBackOneInt_run _ (startEq ▸ intSize_le debug front more)]
        simp only [bind_eq_bind, bind_some]
        rw [← startEq] at rest ⊢
        exact rest

lemma head_visitsFrom (debug : Bool) (start size : Nat) (rest : List ActionRecord)
    (ends : start + (encodeAll debug start rest).length = size) (fits : size < 2 ^ 32) :
    ((((visitsFrom debug start rest).map fun visit => UInt32.ofNat visit.start).head?).map
      UInt32.toNat).getD size = start := by
  cases rest with
  | nil => exact ends.symm
  | cons written rest =>
    have small : start < 2 ^ 32 := Nat.lt_of_le_of_lt (Nat.le_of_add_right_le (Nat.le_of_eq ends)) fits
    simp only [visitsFrom, map_cons, head?_cons, Option.map_some, Option.getD_some,
      UInt32.toNat_ofNat']
    exact Nat.mod_eq_of_lt small

lemma reads_copy (debug : Bool) (start : Nat) (written : ActionRecord) : Reads debug (do
      let bytes ← nextMany (written.body debug).length
      let endAction ← popUChar
      let actionIdx ← popUInt
      pure (bytes, endAction, actionIdx)) (written.encode debug start)
      (written.body debug, kEndAction, UInt32.ofNat start) := by
  rw [encode]
  apply reads_bind (reads_nextMany debug (written.body debug))
  apply reads_bind (reads_popUChar debug kEndAction)
  exact reads_map (fun idx => (written.body debug, kEndAction, idx))
    (reads_popUInt debug (UInt32.ofNat start))

lemma copyShifted_spec (debug : Bool) (shift : Nat) (records : List ActionRecord)
    (data : List UInt8) (start fuel : Nat) (merged : JournalLog) (sameDebug : merged.debug = debug)
    (there : At data start (encodeAll debug start records))
    (ends : start + (encodeAll debug start records).length = data.length)
    (fits : data.length < 2 ^ 31) (enough : records.length ≤ fuel) :
    ∃ log', (copyShifted shift fuel
        ((visitsFrom debug start records).map fun visit => UInt32.ofNat visit.start) merged).run
        ⟨data, start, debug⟩ =
      some (merged.pushBytes (encodeAll debug (start + shift) records), log') := by
  induction records generalizing start fuel merged with
  | nil =>
    have same : start = data.length := ends
    have here : atEnd.run ⟨data, start, debug⟩ = some (true, ⟨data, start, debug⟩) :=
      atEnd_run _ true (by simp [size, same])
    refine ⟨⟨data, start, debug⟩, ?_⟩
    rw [copyShifted.eq_def, StateT.run_bind, here]
    simp only [encodeAll, pushBytes, append_nil]
    rfl
  | cons written rest ih =>
    rw [encodeAll] at there ends
    rw [length_append, ← Nat.add_assoc] at ends
    rcases at_append there with ⟨here, later⟩
    have positive := encode_length_pos debug start written
    have index : (UInt32.ofNat start).toNat = start := by
      rw [UInt32.toNat_ofNat', Nat.mod_eq_of_lt (by omega)]
    have notEnd : atEnd.run ⟨data, start, debug⟩ = some (false, ⟨data, start, debug⟩) :=
      atEnd_run _ false (by simp only [size, Bool.false_eq_true, iff_false]; omega)
    have nextIdx := head_visitsFrom debug _ data.length rest ends (by omega)
    have total : (written.encode debug start).length =
        (written.body debug).length + if debug then 7 else 5 := by
      rw [encode, length_append, actionEnd_length]
    have copy := reads_copy debug start written data start here (by omega)
    have split : ∀ after : List UInt8 → UInt8 → UInt32 → Scan JournalLog, (do
          let bytes ← nextMany (written.body debug).length
          let endAction ← popUChar
          let actionIdx ← popUInt
          after bytes endAction actionIdx) =
        (do
          let bytes ← nextMany (written.body debug).length
          let endAction ← popUChar
          let actionIdx ← popUInt
          pure (bytes, endAction, actionIdx)) >>=
          fun found => after found.1 found.2.1 found.2.2 := by
      intro after
      simp only [bind_assoc, pure_bind]
    cases fuel with
    | zero => simp at enough
    | succ fuel =>
      have pushed : ((merged.pushBytes (written.body debug)).push (.uchar kEndAction)).push
          (.uint (UInt32.ofNat (start + shift))) =
          merged.pushBytes (written.encode debug (start + shift)) := by
        rw [pushEnd_eq, pushBytes_append, pushBytes_debug, sameDebug, encode]
      rcases ih (start + (written.encode debug start).length) fuel
        (merged.pushBytes (written.encode debug (start + shift))) sameDebug later ends
        (Nat.le_of_succ_le_succ enough) with ⟨log', rest'⟩
      refine ⟨log', ?_⟩
      rw [copyShifted.eq_def, StateT.run_bind, notEnd, visitsFrom, map_cons]
      simp only [bind_eq_bind, bind_some, Bool.false_eq_true, if_false]
      rw [StateT.run_bind]
      simp only [StateT.run_get, pure, bind_eq_bind, bind_some, size, nextIdx]
      have bodySize : start + (written.encode debug start).length -
          (if debug then 7 else 5) - start = (written.body debug).length := by omega
      have room : ¬ (start ≠ (UInt32.ofNat start).toNat ∨
          start + (written.encode debug start).length < if debug then 7 else 5) := by
        intro either
        rcases either with differ | short
        · exact differ index.symm
        · rw [total] at short
          omega
      rw [if_neg room, bodySize, split, StateT.run_bind, copy]
      simp only [bind_eq_bind, bind_some]
      rw [if_neg (by simp [index]), pushed, rest', pushBytes_append, encodeAll]
      rw [encode_length debug (start + shift) start written, Nat.add_right_comm]

lemma length_le_encodeAll (debug : Bool) (start : Nat) (records : List ActionRecord) :
    records.length ≤ (encodeAll debug start records).length := by
  induction records generalizing start with
  | nil => exact Nat.le_refl _
  | cons written rest ih =>
    have positive := encode_length_pos debug start written
    have later := ih (start + (written.encode debug start).length)
    rw [encodeAll, length_append, length_cons]
    omega

lemma moveToEnd_run :
    moveToEnd.run log = some ((), { log with idx := log.size }) := rfl

lemma append_spec (records : List ActionRecord) (idx : Nat)
    (fits : (encodeAll log.debug 0 records).length < 2 ^ 31) :
    log.append ⟨encodeAll log.debug 0 records, idx, log.debug⟩ =
      some (log.pushBytes (encodeAll log.debug log.size records)) := by
  have otherSize : JournalLog.size ⟨encodeAll log.debug 0 records, idx, log.debug⟩ =
      (encodeAll log.debug 0 records).length := rfl
  rw [append, if_neg (fun differ => differ rfl), otherSize]
  rcases eq_or_ne records [] with rfl | some'
  · simp [encodeAll, pushBytes]
  · have nonempty := mt (encodeAll_length_zero log.debug 0 records).mp some'
    have here : At (encodeAll log.debug 0 records) 0 (encodeAll log.debug 0 records) :=
      prefix_rfl
    rw [if_neg nonempty]
    have many := length_le_encodeAll log.debug 0 records
    have toEnd := moveToEnd_run ⟨encodeAll log.debug 0 records, idx, log.debug⟩
    rcases scanIndices_spec log.debug records some' (encodeAll log.debug 0 records) []
      (encodeAll log.debug 0 records).length here fits many with
      ⟨scanned, sameData, sameDebug, indices⟩
    rcases copyShifted_spec log.debug log.size records (encodeAll log.debug 0 records) 0
      (encodeAll log.debug 0 records).length log rfl here (Nat.zero_add _) fits many with
      ⟨copied, bytes⟩
    rw [append_nil] at indices
    rw [Nat.zero_add] at bytes
    dsimp only
    rw [StateT.run_bind, toEnd]
    simp only [bind_eq_bind, bind_some]
    rw [StateT.run_bind, moveBackOneInt_run _ (intSize_le log.debug records some')]
    simp only [bind_eq_bind, bind_some]
    rw [StateT.run_bind, otherSize, indices]
    simp only [bind_eq_bind, bind_some]
    have begun : begin.run scanned = some ((), ⟨encodeAll log.debug 0 records, 0, log.debug⟩) := by
      rw [← sameData, ← sameDebug]
      rfl
    rw [StateT.run_bind, begun]
    simp only [bind_eq_bind, bind_some]
    rw [bytes]
    rfl

lemma redo_spec (debug : Bool) (records : List ActionRecord) (idx : Nat)
    (fits : (encodeAll debug 0 records).length < 2 ^ 31) :
    redo (records.map types) ⟨encodeAll debug 0 records, idx, debug⟩ =
      some (visitsFrom debug 0 records) := by
  have begun : begin.run ⟨encodeAll debug 0 records, idx, debug⟩ =
      some ((), ⟨encodeAll debug 0 records, 0, debug⟩) := rfl
  have scan := forward_spec debug records (encodeAll debug 0 records) 0 prefix_rfl
    (Nat.zero_add _) fits
  rw [redo, StateT.run'_eq, StateT.run_bind, begun]
  simp only [bind_eq_bind, bind_some, scan]
  rfl

lemma undo_spec (debug : Bool) (records : List ActionRecord) (idx : Nat)
    (fits : (encodeAll debug 0 records).length < 2 ^ 31) :
    undo (records.reverse.map types) ⟨encodeAll debug 0 records, idx, debug⟩ =
      some (visitsFrom debug 0 records).reverse := by
  have sameSize : JournalLog.size ⟨encodeAll debug 0 records, idx, debug⟩ =
      (encodeAll debug 0 records).length := rfl
  rw [undo, sameSize]
  rcases eq_or_ne records [] with rfl | some'
  · rfl
  · rw [if_neg (mt (encodeAll_length_zero debug 0 records).mp some'), StateT.run'_eq,
      StateT.run_bind, moveToEnd_run ⟨encodeAll debug 0 records, idx, debug⟩]
    simp only [bind_eq_bind, bind_some]
    rw [StateT.run_bind, moveBackOneInt_run _ (intSize_le debug records some')]
    simp only [bind_eq_bind, bind_some, sameSize]
    rcases backward_spec debug records some' (encodeAll debug 0 records) prefix_rfl fits with
      ⟨log', scan⟩
    rw [scan]
    rfl

lemma visitsFrom_starts (debug : Bool) (start : Nat) (records : List ActionRecord) (k : Nat)
    (visit : Visit) (there : (visitsFrom debug start records)[k]? = some visit) :
    visit.start = start + (encodeAll debug start (records.take k)).length := by
  induction records generalizing start k with
  | nil => simp [visitsFrom] at there
  | cons written rest ih =>
    cases k with
    | zero =>
      rcases Option.some.inj there with rfl
      rfl
    | succ k =>
      rw [visitsFrom, getElem?_cons_succ] at there
      rw [ih _ k there, take_succ_cons, encodeAll, length_append, Nat.add_assoc]

lemma writeAll_log (debug : Bool) (records : List ActionRecord) :
    ∃ j, (new debug).writeAll records = some j ∧
      j.log = ⟨encodeAll debug 0 records, 0, debug⟩ := by
  rcases DbJournal.writeAll_eq records (new debug) rfl with ⟨j, wrote, _, log⟩
  exact ⟨j, wrote, log⟩

/-- After `append`, both scans find the actions of both logs in order. -/
theorem append_readable (debug : Bool) (first second : List ActionRecord) (a b : DbJournal)
    (writtenA : (new debug).writeAll first = some a)
    (writtenB : (new debug).writeAll second = some b)
    (fits : a.log.size + b.log.size < 2 ^ 31) :
    ∃ ab visits, a.log.append b.log = some ab.log ∧
      (new debug).writeAll (first ++ second) = some ab ∧
      ab.log.redo ((first ++ second).map types) = some visits ∧
      visits.map Visit.written = first ++ second ∧
      (∀ k visit, visits[k]? = some visit → ∃ before, (new debug).writeAll
        ((first ++ second).take k) = some before ∧ visit.start = before.log.size) ∧
      ab.log.undo ((first ++ second).reverse.map types) = some visits.reverse := by
  rcases writeAll_log debug first with ⟨a', wroteA, logA⟩
  rcases writeAll_log debug second with ⟨b', wroteB, logB⟩
  rcases writeAll_log debug (first ++ second) with ⟨ab, wroteAB, logAB⟩
  rcases Option.some.inj (writtenA.symm.trans wroteA) with rfl
  rcases Option.some.inj (writtenB.symm.trans wroteB) with rfl
  rw [logA, logB] at fits
  have total : (encodeAll debug 0 (first ++ second)).length < 2 ^ 31 := by
    rw [encodeAll_append, List.length_append, encodeAll_length debug _ 0 second]
    exact fits
  have appended := append_spec ⟨encodeAll debug 0 first, 0, debug⟩ second 0
    (Nat.lt_of_le_of_lt (Nat.le_add_left _ _) fits)
  refine ⟨ab, visitsFrom debug 0 (first ++ second), ?_, wroteAB, ?_, visitsFrom_written debug 0 _,
    ?_, ?_⟩
  · rw [logA, logB, logAB, appended, encodeAll_append, Nat.zero_add]
    rfl
  · rw [logAB]
    exact redo_spec debug _ 0 total
  · intro k visit there
    rcases writeAll_log debug ((first ++ second).take k) with ⟨before, wrote, logBefore⟩
    refine ⟨before, wrote, ?_⟩
    rw [visitsFrom_starts debug 0 _ k visit there, Nat.zero_add, logBefore]
    rfl
  · rw [logAB]
    exact undo_spec debug _ 0 total

def swapRecord : ActionRecord := ⟨.kSwapObject, [.int 3, .string none]⟩

theorem append_readable_sample :
    ∃ a b ab : DbJournal, ∃ visits, (new true).writeAll [swapRecord] = some a ∧
      (new true).writeAll [swapRecord, swapRecord] = some b ∧
      a.log.append b.log = some ab.log ∧
      ab.log.undo (List.replicate 3 swapRecord.types) = some visits ∧
      visits.map Visit.written = List.replicate 3 swapRecord := by
  rcases writeAll_log true [swapRecord] with ⟨a, wroteA, logA⟩
  rcases writeAll_log true [swapRecord, swapRecord] with ⟨b, wroteB, logB⟩
  have fits : a.log.size + b.log.size < 2 ^ 31 := by
    rw [logA, logB]
    decide
  rcases append_readable true [swapRecord] [swapRecord, swapRecord] a b wroteA wroteB fits with
    ⟨ab, visits, appended, _, _, same, _, undone⟩
  refine ⟨a, b, ab, visits.reverse, wroteA, wroteB, appended, undone, ?_⟩
  rw [List.map_reverse, same]
  rfl

/-! ### Logs that are too long

A scan that starts below `2 ^ 31` stays below, because the increment from the largest `int`
overflows. It never comes to the end of a log of `2 ^ 31` bytes. -/

def StaysLow (scan : Scan β) : Prop := ∀ log value log', log.idx < 2 ^ 31 →
  scan.run log = some (value, log') → log'.data = log.data ∧ log'.idx < 2 ^ 31

lemma staysLow_bind (first : StaysLow scan) (second : ∀ value, StaysLow (after value)) :
    StaysLow (scan >>= after) := by
  intro log value log' low ran
  rw [StateT.run_bind, bind_eq_bind, Option.bind_eq_some_iff] at ran
  rcases ran with ⟨⟨found, log₁⟩, ran₁, ran₂⟩
  rcases first log found log₁ low ran₁ with ⟨same₁, low₁⟩
  rcases second found log₁ value log' low₁ ran₂ with ⟨same₂, low₂⟩
  exact ⟨same₂.trans same₁, low₂⟩

lemma staysLow_pure (value : β) : StaysLow (pure value) := by
  intro log found log' low ran
  rcases Option.some.inj ran with ⟨⟩
  exact ⟨rfl, low⟩

lemma staysLow_failure : StaysLow (failure : Scan β) := by
  intro log value log' _ ran
  cases ran

lemma staysLow_next : StaysLow next := by
  intro log value log' low ran
  simp only [StateT.run, next, bind_eq_bind, Option.bind_eq_some_iff] at ran
  rcases ran with ⟨byte, _, ran⟩
  split at ran
  · cases ran
  · rename_i notLast
    simp only [Option.some.injEq, Prod.mk.injEq] at ran
    rcases ran with ⟨_, rfl⟩
    exact ⟨rfl, by simp only; omega⟩

lemma staysLow_nextMany (count : Nat) : StaysLow (nextMany count) := by
  induction count with
  | zero => exact staysLow_pure []
  | succ count ih =>
    exact staysLow_bind staysLow_next fun _ => staysLow_bind ih fun _ => staysLow_pure _

lemma staysLow_checkType (type : LogDataType) : StaysLow (checkType type) := by
  apply staysLow_bind
  · intro log value log' low ran
    rcases Option.some.inj ran with ⟨⟩
    exact ⟨rfl, low⟩
  · intro log
    split
    · apply staysLow_bind staysLow_next
      intro found
      split
      · exact staysLow_pure ()
      · exact staysLow_failure
    · exact staysLow_pure ()

lemma staysLow_popUChar : StaysLow popUChar :=
  staysLow_bind (staysLow_checkType _) fun _ => staysLow_next

lemma staysLow_popUInt : StaysLow popUInt :=
  staysLow_bind (staysLow_checkType _) fun _ =>
    staysLow_bind (staysLow_nextMany 4) fun _ => staysLow_pure _

lemma staysLow_popAction : StaysLow popAction := by
  apply staysLow_bind staysLow_popUChar
  intro code
  split
  · exact staysLow_pure _
  · exact staysLow_failure

lemma run_eq_none (low : log.idx < 2 ^ 31) (first : StaysLow scan)
    (second : ∀ value log', log'.data = log.data → log'.idx < 2 ^ 31 →
      (after value).run log' = none) : (scan >>= after).run log = none := by
  rw [StateT.run_bind, bind_eq_bind, Option.bind_eq_none_iff]
  intro found ran
  rcases first log found.1 found.2 low ran with ⟨same, low'⟩
  exact second found.1 found.2 same low'

lemma forward_too_long (count : Nat) (log : JournalLog) (low : log.idx < 2 ^ 31)
    (long : 2 ^ 31 ≤ log.size) : (forward (replicate count [])).run log = none := by
  have notEnd : atEnd.run log = some (false, log) := by
    apply atEnd_run
    simp only [Bool.false_eq_true, iff_false]
    omega
  induction count generalizing log with
  | zero =>
    rw [replicate_zero, forward, StateT.run_bind, notEnd]
    rfl
  | succ count ih =>
    rw [replicate_succ, forward, StateT.run_bind, notEnd]
    simp only [bind_eq_bind, bind_some, Bool.false_eq_true, if_false]
    rw [StateT.run_bind]
    simp only [StateT.run_get, pure, bind_eq_bind, bind_some]
    apply run_eq_none log low staysLow_popAction
    intro action log₁ same₁ low₁
    apply run_eq_none log₁ low₁ (staysLow_pure [])
    intro params log₂ same₂ low₂
    apply run_eq_none log₂ low₂ staysLow_popUChar
    intro endAction log₃ same₃ low₃
    apply run_eq_none log₃ low₃ staysLow_popUInt
    intro actionIdx log₄ same₄ low₄
    have same : log₄.data = log.data := same₄.trans (same₃.trans (same₂.trans same₁))
    have long₄ : 2 ^ 31 ≤ log₄.size := by
      rw [size, same]
      exact long
    split
    · rfl
    · have noEnd : atEnd.run log₄ = some (false, log₄) := by
        apply atEnd_run
        simp only [Bool.false_eq_true, iff_false]
        omega
      rw [StateT.run_bind, ih log₄ low₄ long₄ noEnd]
      rfl

lemma replicate_length (start count : Nat) :
    (encodeAll false start (replicate count ⟨.kSwapObject, []⟩)).length = 6 * count := by
  induction count generalizing start with
  | zero => rfl
  | succ count ih =>
    have one : (encode false start ⟨.kSwapObject, []⟩).length = 6 := rfl
    rw [replicate_succ, encodeAll, length_append, ih, one]
    omega

lemma append_long (count : Nat) (each : 6 * count < 2 ^ 31) (both : 2 ^ 31 ≤ 12 * count) :
    ∃ j merged, (new false).writeAll (replicate count ⟨.kSwapObject, []⟩) = some j ∧
      j.log.append j.log = some merged ∧
      merged.redo (replicate (count + count) []) = none := by
  rcases writeAll_log false (replicate count ⟨.kSwapObject, []⟩) with ⟨j, wrote, log⟩
  have size : (encodeAll false 0 (replicate count ⟨.kSwapObject, []⟩)).length = 6 * count :=
    replicate_length 0 count
  have appended := append_spec j.log (replicate count ⟨.kSwapObject, []⟩) 0
    (by rw [log, size]; exact each)
  rw [log] at appended
  refine ⟨j, _, wrote, by rw [log]; exact appended, ?_⟩
  rw [redo, StateT.run'_eq]
  have failed : ∀ merged : JournalLog, 2 ^ 31 ≤ merged.size →
      ((do begin; forward (replicate (count + count) [])) : Scan (List Visit)).run merged =
        none := by
    intro merged long
    exact forward_too_long (count + count) { merged with idx := 0 } (Nat.two_pow_pos 31) long
  rw [failed]
  · rfl
  · rw [JournalLog.size, pushBytes, length_append, size,
      encodeAll_length false _ 0 (replicate count ⟨.kSwapObject, []⟩), size]
    omega

/-- Two logs of `6 * 2 ^ 28` bytes each: redo cannot scan what `append` makes of them. -/
theorem append_too_long : ∃ j merged,
    (new false).writeAll (List.replicate (2 ^ 28) ⟨.kSwapObject, []⟩) = some j ∧
      j.log.append j.log = some merged ∧
      merged.redo (List.replicate (2 ^ 28 + 2 ^ 28) []) = none :=
  append_long (2 ^ 28) (by norm_num) (by norm_num)

end JournalLog

end OpenRoad.Odb
