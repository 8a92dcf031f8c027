import OpenRoad.Odb.JournalRedo

/-! Replaying a journal of calls: which records `redo` reads as they were written. -/

namespace OpenRoad.Odb

open OpenRoad.Lib List LogValue BlockCall

namespace JournalLog

def SameBytes (debug : Bool) (popped pushed : List LogValue) : Prop :=
  popped.map (encode debug) = pushed.map (encode debug)

variable {debug : Bool} {popped pushed : List LogValue} {table : PopTable}
  {other : Scan (List LogValue)} {types : List LogDataType} {code : Int32}

lemma flatMap_sameBytes (same : SameBytes debug popped pushed) :
    popped.flatMap (encode debug) = pushed.flatMap (encode debug) := by
  rw [flatMap_def, flatMap_def, same]

end JournalLog

open JournalLog

variable {debug : Bool} {popped pushed : List LogValue}

lemma encode_zero : (LogValue.uint 0).encode false = (LogValue.int 0).encode false := by decide

lemma sameBytes_iTerm (iTerm net : UInt32) :
    SameBytes false [.uint iTerm, .uint net, .uint 0] [.uint iTerm, .uint net, .int 0] ∧
      SameBytes false [.uint iTerm, .uint 0, .uint net] [.uint iTerm, .int 0, .uint net] := by
  constructor <;> simp only [SameBytes, map_cons, map_nil, encode_zero]

lemma sameBytes_cons (value : LogValue) (same : SameBytes debug popped pushed) :
    SameBytes debug (value :: popped) (value :: pushed) :=
  congrArg (value.encode debug :: ·) same

/-- Calls of several kinds, with a change of the corner count. -/
def replayCalls : List BlockCall :=
  [.journaled (.netCreate ⟨[110], by decide⟩ 1), .journaled (.iTermConnectNet 3 1),
    .journaled (.blockSetCornerCount 1 2 1 none), .journaled (.ccSegSetAllCcCap 4 fun _ => 0),
    .journaled (.netRename 1 ⟨[110], by decide⟩ ⟨[109], by decide⟩)]

end OpenRoad.Odb
