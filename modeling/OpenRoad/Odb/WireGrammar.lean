import OpenRoad.Odb.WireRoundTrip
import OpenRoad.Odb.WireReuse

/-! The op lists that `dbWireEncoder` writes, as a grammar, and that the decoder reads all of
them. -/

namespace OpenRoad.Odb

open List Option WireDecoder WireEncoder

variable {tech : WireTech} {known : List Nat} {e e' : WireEncoder} {s : InForce}

def besidePoint (op : WireOp) : Bool :=
  op = .kVia || op = .kTechVia || op = .kIterm || op = .kBterm

def RuleOps (rules : List Op) : Prop :=
  rules = [] ∨ ∃ byte value, rules = [(byte, value)] ∧ opOf byte = some .kRule

/-- The ops from index `n` on; `here` says that the path has a point already. -/
inductive Encoded : Nat → Bool → List Op → Prop
  | done (n : Nat) (here : Bool) : Encoded n here []
  | silent {n : Nat} {here : Bool} {op : WireOp} {byte : UInt8} {value : Int} {rest : List Op}
      (kind : opOf byte = some op) (isSilent : silentOp op = true)
      (more : Encoded (n + 1) here rest) : Encoded n here ((byte, value) :: rest)
  | beside {n : Nat} {op : WireOp} {byte : UInt8} {value : Int} {rest : List Op}
      (kind : opOf byte = some op) (isBeside : besidePoint op = true)
      (more : Encoded (n + 1) true rest) : Encoded n true ((byte, value) :: rest)
  | rect {n : Nat} {byte : UInt8} {deltaX1 deltaY1 deltaX2 deltaY2 : Int} {rest : List Op}
      (kind : opOf byte = some .kRect) (more : Encoded (n + 4) true rest) :
      Encoded n true ((byte, deltaX1) :: (WireOp.kOperand.code, deltaY1) ::
        (WireOp.kOperand.code, deltaX2) :: (WireOp.kOperand.code, deltaY2) :: rest)
  | path {n : Nat} {here : Bool} {byte : UInt8} {value : Int} {type : DbWireType}
      {rules rest : List Op} (kind : opOf byte = some .kPath)
      (typed : ∀ old, DbWireType.ofByte byte old = type) (isRule : RuleOps rules)
      (more : Encoded (n + 1 + rules.length) false rest) :
      Encoded n here ((byte, value) :: (rules ++ rest))
  | branch {n : Nat} {here : Bool} {op : WireOp} {byte : UInt8} {value jct : Int}
      {type : DbWireType} {rules rest : List Op} (kind : opOf byte = some op)
      (isBranch : op = .kShort ∨ op = .kVwire) (typed : ∀ old, DbWireType.ofByte byte old = type)
      (isRule : RuleOps rules) (more : Encoded (n + 2 + rules.length) false rest) :
      Encoded n here ((byte, value) :: (WireOp.kOperand.code, jct) :: (rules ++ rest))
  | junction {n jct : Nat} {here : Bool} {byte flags : UInt8} {value : Int} {type : DbWireType}
      {rules rest : List Op} (kind : opOf byte = some .kJunction) (earlier : jct < n)
      (typed : ∀ old, DbWireType.ofByte byte old = type) (isRule : RuleOps rules)
      (point : opOf flags = some .kColinear)
      (more : Encoded (n + 1 + rules.length + 1) true rest) :
      Encoded n here ((byte, (jct : Int)) :: (rules ++ (flags, value) :: rest))
  | first {n : Nat} {byteX byteY : UInt8} {x y : Int} {ext : Option Int} {rest : List Op}
      (kindX : opOf byteX = some .kX) (kindY : opOf byteY = some .kY)
      (extended : hasFlag byteY WOP_EXTENSION = ext.isSome)
      (more : Encoded (n + 2 + (operandOps ext).length) true rest) :
      Encoded n false ((byteX, x) :: (byteY, y) :: (operandOps ext ++ rest))
  | later {n : Nat} {op : WireOp} {byte : UInt8} {value : Int} {ext : Option Int}
      {rules rest : List Op} (kind : opOf byte = some op) (isPoint : op = .kX ∨ op = .kY)
      (extended : hasFlag byte WOP_EXTENSION = ext.isSome) (isRule : RuleOps rules)
      (more : Encoded (n + 1 + (operandOps ext).length + rules.length) true rest) :
      Encoded n true ((byte, value) :: (operandOps ext ++ (rules ++ rest)))
  | colinear {n : Nat} {byte : UInt8} {value : Int} {rules rest : List Op}
      (kind : opOf byte = some .kColinear) (isRule : RuleOps rules)
      (more : Encoded (n + 1 + rules.length) true rest) :
      Encoded n true ((byte, value) :: (rules ++ rest))

/-- The new ops of `e'`, in front of any that the grammar allows behind them. -/
def Writes (e e' : WireEncoder) : Prop :=
  ∃ added, e'.ops = e.ops ++ added ∧ ∀ rest,
    Encoded e'.ops.length (e'.pointCnt ≠ 0) rest → Encoded e.ops.length (e.pointCnt ≠ 0) (added ++ rest)

lemma writes_silent (op : WireOp) (byte : UInt8) (value : Int) (kind : opOf byte = some op)
    (isSilent : silentOp op = true) (e : WireEncoder) : Writes e (e.addOp byte value) := by
  refine ⟨[(byte, value)], rfl, ?_⟩
  intro rest more
  have length : (e.addOp byte value).ops.length = e.ops.length + 1 := length_append
  rw [length] at more
  exact .silent kind isSilent more

lemma writes_trans {e₁ e₂ : WireEncoder} (first : Writes e e₁) (second : Writes e₁ e₂) :
    Writes e e₂ := by
  rcases first with ⟨added, ops, before⟩
  rcases second with ⟨added', ops', before'⟩
  refine ⟨added ++ added', by rw [ops', ops, append_assoc], ?_⟩
  intro rest more
  rw [append_assoc]
  exact before _ (before' rest more)

lemma encoded_props {n : Nat} {props rest : List Op}
    (isProps : props = [] ∨ ∃ value, props = [(WireOp.kProperty.code, value)])
    (more : Encoded (n + props.length) true rest) : Encoded n true (props ++ rest) := by
  rcases isProps with rfl | ⟨value, rfl⟩
  · exact more
  · exact .silent (opOf_plain .kProperty) rfl more

lemma writes_point {mid : WireEncoder} {x y : Int} {ext : Option Int} {core operands : List Op}
    {id : Nat} (property : Nat) (agrees : Agrees tech known e s)
    (added : PointAdded e mid x y ext core operands id) : Writes e (mid.endPoint property) := by
  rcases endPoint_spec property (agrees_point agrees added) with
    ⟨hidden, props, ops, isHidden, isProps, pointCnt, _, _, _⟩
  have isRule : RuleOps hidden := isHidden.imp_right And.right
  have hasPoint : (mid.endPoint property).pointCnt ≠ 0 := pointCnt ▸ added.hasPoint
  rw [added.ops] at ops
  refine ⟨core ++ (operands ++ (hidden ++ props)), by rw [ops]; simp only [append_assoc], ?_⟩
  intro rest more
  have length : (mid.endPoint property).ops.length =
      e.ops.length + core.length + operands.length + hidden.length + props.length := by
    rw [ops]
    simp only [length_append]
  rw [length, decide_eq_true hasPoint] at more
  have behind := encoded_props isProps more
  simp only [append_assoc]
  cases added.point with
  | first width flags noPoint widthFlags extFlags =>
    have noHidden : hidden = [] := by
      rcases isHidden with none | ⟨later, _⟩
      · exact none
      · exact absurd (added.first noPoint) later
    rw [noHidden] at behind ⊢
    rw [decide_eq_false (fun hasPoint => hasPoint noPoint)]
    have isExt := (hasFlag_code .kY flags WOP_EXTENSION (by decide)).trans extFlags.extension
    exact .first (opOf_code .kX width widthFlags.free) (opOf_code .kY flags extFlags.free) isExt
      behind
  | colinear flags value hasPoint sameX sameY extFlags operand =>
    rw [decide_eq_true hasPoint, nil_append, singleton_append]
    exact .colinear (opOf_code .kColinear flags extFlags.free) isRule behind
  | alongX flags hasPoint sameY extFlags =>
    rw [decide_eq_true hasPoint]
    have isExt := (hasFlag_code .kX flags WOP_EXTENSION (by decide)).trans extFlags.extension
    exact .later (opOf_code .kX flags extFlags.free) (.inl rfl) isExt isRule behind
  | alongY flags hasPoint sameX extFlags =>
    rw [decide_eq_true hasPoint]
    have isExt := (hasFlag_code .kY flags WOP_EXTENSION (by decide)).trans extFlags.extension
    exact .later (opOf_code .kY flags extFlags.free) (.inr rfl) isExt isRule behind

lemma writes_beside (op : WireOp) (byte : UInt8) (value : Int) (kind : opOf byte = some op)
    (isBeside : besidePoint op = true) (hasPoint : e.pointCnt ≠ 0)
    (ops : e'.ops = e.ops ++ [(byte, value)]) (pointCnt : e'.pointCnt = e.pointCnt) :
    Writes e e' := by
  refine ⟨[(byte, value)], ops, ?_⟩
  intro rest more
  have length : e'.ops.length = e.ops.length + 1 := by rw [ops]; exact length_append
  rw [length, pointCnt, decide_eq_true hasPoint] at more
  rw [decide_eq_true hasPoint]
  exact .beside kind isBeside more

lemma writes_via {op : WireOp} {top bottom : Nat → Nat} {via id : Nat}
    (isVia : besidePoint op = true) (free : op.code &&& WOP_VIA_EXIT_TOP = 0)
    (added : e.addViaOp op top bottom via = some (e', id)) : Writes e e' := by
  rcases via_exit free added with ⟨flags, exit, same, flagsFree, _, _, _, hasPoint⟩
  apply writes_beside op (op.code ||| flags) via (opOf_code op flags flagsFree) isVia hasPoint
  · rw [same]
    rfl
  · rw [same]
    rfl

lemma ruleOps_isRule (rule : Option LayerRule) : RuleOps (ruleOps rule) := by
  cases rule with
  | none => exact .inl rfl
  | some rule => exact .inr ⟨_, _, rfl, (ruleByte rule).1⟩

variable {rule : Option LayerRule}

lemma writes_newPath {layer : Nat} {type : DbWireType}
    (accepted : e.newPath layer type rule = some e') : Writes e e' := by
  rcases newPath_spec accepted with ⟨bits, isBits, started, noPoint, ops⟩
  rw [append_assoc] at ops
  refine ⟨_, ops, ?_⟩
  intro rest more
  have length : e'.ops.length = e.ops.length + 1 + (ruleOps rule).length := by
    rw [ops]
    simp only [length_append, length_singleton, Nat.add_assoc]
  rw [length, decide_eq_false (fun hasPoint => hasPoint noPoint)] at more
  exact .path (opOf_code _ _ (wireType_bits isBits).1) (fun old => ofByte_code .kPath old isBits)
    (ruleOps_isRule rule) more

lemma writes_newPathFrom {op : WireOp} {jctId layer : Nat} {type : DbWireType}
    (isBranch : op = .kShort ∨ op = .kVwire)
    (accepted : e.newPathFrom op jctId layer type rule = some e') : Writes e e' := by
  rcases newPathFrom_spec accepted with ⟨bits, isBits, started, noPoint, ops⟩
  rw [append_assoc, append_assoc] at ops
  refine ⟨_, ops, ?_⟩
  intro rest more
  have length : e'.ops.length = e.ops.length + 2 + (ruleOps rule).length := by
    rw [ops]
    simp only [length_append, length_singleton]
    omega
  rw [length, decide_eq_false (fun hasPoint => hasPoint noPoint)] at more
  exact .branch (opOf_code _ _ (wireType_bits isBits).1) isBranch
    (fun old => ofByte_code op old isBits) (ruleOps_isRule rule) more

lemma writes_newPathJct {jctId : Nat} {ext : Option Int} {type : Option DbWireType}
    (agrees : Agrees tech known e s) (isKnown : jctId ∈ known)
    (accepted : e.newPathJct tech jctId ext type rule = some e') : Writes e e' := by
  rcases newPathJct_spec accepted agrees.wireType with
    ⟨bits, pnt, flags, value, isBits, isPnt, jct⟩
  have ops := jct.ops
  rw [append_assoc, append_assoc] at ops
  refine ⟨_, ops, ?_⟩
  intro rest more
  have length : e'.ops.length = e.ops.length + 1 + (ruleOps rule).length + 1 := by
    rw [ops]
    simp only [length_append, length_singleton]
    omega
  have hasPoint : e'.pointCnt ≠ 0 := by rw [jct.pointCnt]; decide
  rw [length, decide_eq_true hasPoint] at more
  rw [append_assoc, append_assoc]
  exact .junction (opOf_code _ _ (wireType_bits isBits).1) (agrees.junctions jctId isKnown).1
    (fun old => ofByte_code .kJunction old isBits) (ruleOps_isRule rule)
    (opOf_code .kColinear flags jct.extFlags.free) more

lemma writes_call {call : WireCall} {id : Option Nat} (agrees : Agrees tech known e s)
    (isKnown : call.jctId.all (· ∈ known) = true) (called : e.call tech call = some (e', id)) :
    Writes e e' := by
  cases call with
  | addPoint x y property =>
    rcases map_eq_some_iff.mp called with ⟨⟨e₁, id₁⟩, added, same⟩
    cases same
    rcases addPoint_spec added with ⟨mid, core, operands, same, point⟩
    rw [same]
    exact writes_point property agrees point
  | addPointExt x y ext property =>
    rcases map_eq_some_iff.mp called with ⟨⟨e₁, id₁⟩, added, same⟩
    cases same
    rcases addPointExt_spec added with ⟨mid, core, operands, same, point⟩
    rw [same]
    exact writes_point property agrees point
  | addVia via =>
    rcases map_eq_some_iff.mp called with ⟨⟨e₁, id₁⟩, added, same⟩
    cases same
    exact writes_via (by decide) (by decide) added
  | addTechVia via =>
    rcases map_eq_some_iff.mp called with ⟨⟨e₁, id₁⟩, added, same⟩
    cases same
    rcases map_eq_some_iff.mp added with ⟨⟨e₂, id₂⟩, viaAdded, same⟩
    cases same
    have first : Writes e e₂ := writes_via (by decide) (by decide) viaAdded
    exact writes_trans first (writes_silent .kColor _ 0 (opOf_plain _) rfl e₂)
  | addRect deltaX1 deltaY1 deltaX2 deltaY2 =>
    rcases map_eq_some_iff.mp called with ⟨e₁, added, same⟩
    cases same
    rw [addRect] at added
    split at added
    · cases added
    · rename_i hasPoint
      cases added
      refine ⟨[_, _, _, _], by simp only [addOp, append_assoc]; rfl, ?_⟩
      intro rest more
      have length : ((((e.addOp WireOp.kRect.code deltaX1).addOp WireOp.kOperand.code deltaY1).addOp
          WireOp.kOperand.code deltaX2).addOp WireOp.kOperand.code deltaY2).ops.length =
          e.ops.length + 4 := by simp [addOp]
      have here : decide (e.pointCnt ≠ 0) = true := decide_eq_true hasPoint
      rw [length] at more
      change Encoded (e.ops.length + 4) (decide (e.pointCnt ≠ 0)) rest at more
      rw [here] at more ⊢
      exact .rect (opOf_plain .kRect) more
  | addITerm iterm =>
    rcases map_eq_some_iff.mp called with ⟨e₁, added, same⟩
    cases same
    rw [addITerm] at added
    split at added
    · cases added
    · rename_i hasPoint
      cases added
      exact writes_beside .kIterm _ _ (opOf_plain _) rfl hasPoint rfl rfl
  | addBTerm bterm =>
    rcases map_eq_some_iff.mp called with ⟨e₁, added, same⟩
    cases same
    rw [addBTerm] at added
    split at added
    · cases added
    · rename_i hasPoint
      cases added
      exact writes_beside .kBterm _ _ (opOf_plain _) rfl hasPoint rfl rfl
  | newPath layer type rule =>
    rcases map_eq_some_iff.mp called with ⟨e₁, accepted, same⟩
    cases same
    exact writes_newPath accepted
  | newPathJct jctId ext type rule =>
    rcases map_eq_some_iff.mp called with ⟨e₁, accepted, same⟩
    cases same
    exact writes_newPathJct agrees (of_decide_eq_true isKnown) accepted
  | newPathShort jctId layer type rule =>
    rcases map_eq_some_iff.mp called with ⟨e₁, accepted, same⟩
    cases same
    exact writes_newPathFrom (.inl rfl) accepted
  | newPathVirtualWire jctId layer type rule =>
    rcases map_eq_some_iff.mp called with ⟨e₁, accepted, same⟩
    cases same
    exact writes_newPathFrom (.inr rfl) accepted
  | setColor maskColor =>
    rcases map_eq_some_iff.mp called with ⟨e₁, set, same⟩
    cases same
    rw [setColor] at set
    split at set
    · cases set
    · cases set
      exact writes_silent .kColor _ _ (opOf_plain _) rfl e
  | clearColor =>
    cases called
    exact writes_silent .kColor _ _ (opOf_plain _) rfl e
  | setViaColor bottom cut top =>
    rcases map_eq_some_iff.mp called with ⟨e₁, set, same⟩
    cases same
    rw [setViaColor] at set
    split at set
    · cases set
    · cases set
      exact writes_silent .kViaColor _ _ (opOf_plain _) rfl e
  | clearViaColor =>
    cases called
    exact writes_silent .kViaColor _ _ (opOf_plain _) rfl e

def InForce.asFound (s : InForce) : InForce :=
  { s with jct := fun id => { s.jct id with layer := (s.jct id).found } }

lemma agrees_asFound (agrees : Agrees tech known e s) : Agrees tech known e s.asFound :=
  ⟨agrees.layer, agrees.wireType, agrees.here, agrees.ruleOp, agrees.search, agrees.junctions⟩

lemma finds_asFound (s : InForce) (call : WireCall) : s.asFound.finds call = true := by
  cases call <;> first | rfl | exact decide_eq_true rfl

variable {calls : List WireCall} {trace : WireEncoder.Trace}

lemma run_encoded (agrees : Agrees tech known e s)
    (accepted : e.run tech known calls = some (e', trace)) :
    ∃ more, e'.ops = e.ops ++ more ∧ Encoded e.ops.length (e.pointCnt ≠ 0) more := by
  induction calls generalizing e known s trace with
  | nil =>
    cases accepted
    exact ⟨[], (append_nil _).symm, .done _ _⟩
  | cons first calls ih =>
    rcases run_cons accepted with ⟨isKnown, e₁, id, trace', called, rest, rfl⟩
    have carries := carries_call (agrees_asFound agrees) isKnown called (finds_asFound s first)
    rcases writes_call agrees isKnown called with ⟨added, ops, before⟩
    rcases ih carries.agrees rest with ⟨more, ops', encoded⟩
    exact ⟨added ++ more, by rw [ops', ops, append_assoc], before more encoded⟩

lemma run_decodes {d : WireDecoder} (agrees : Agrees tech known e s)
    (accepted : e.run tech known calls = some (e', trace)) (follows : Follows e s d) :
    ∃ elements, d.decodeFrom tech e'.ops = some elements := by
  induction calls generalizing e known s trace d with
  | nil =>
    cases accepted
    exact ⟨[], decodeFrom_end follows.idx⟩
  | cons first calls ih =>
    rcases run_cons accepted with ⟨isKnown, e₁, id, trace', called, rest, rfl⟩
    have carries := carries_call (agrees_asFound agrees) isKnown called (finds_asFound s first)
    have follows' : Follows e s.asFound d :=
      ⟨follows.idx, follows.layer, follows.pointCnt, follows.here, follows.wireType,
        follows.color, follows.viaColor⟩
    rcases run_notRule carries.agrees rest with ⟨more, ops, notRule⟩
    rcases carries.decodes more d notRule follows' with ⟨els, d₁, decodes, _, behind⟩
    rcases ih carries.agrees rest behind with ⟨els', decodes'⟩
    rw [← ops, WireDecoder.Decodes, decodes'] at decodes
    exact ⟨els ++ els', decodes⟩

lemma encoded_wire (accepted : new.run tech [] calls = some (e, trace)) :
    Encoded 0 false e.ops ∧ ∃ elements, decode tech e.ops = some elements := by
  rcases run_encoded (agrees_new tech) accepted with ⟨more, ops, encoded⟩
  rw [ops]
  refine ⟨encoded, ?_⟩
  have decodes := run_decodes (agrees_new tech) accepted follows_new
  rw [ops] at decodes
  exact decodes

/-- `rest` is what `ops` holds from index `i` on. -/
def At (ops : List Op) (i : Nat) (rest : List Op) : Prop := ∀ k, ops[i + k]? = rest[k]?

section At

variable {ops rest : List Op} {i : Nat}

lemma at_zero (ops : List Op) : At ops 0 ops := by
  intro k
  rw [Nat.zero_add]

lemma at_append (before after : List Op) : At (before ++ after) before.length after := by
  intro k
  rw [getElem?_append_right (Nat.le_add_right _ _), Nat.add_sub_cancel_left]

lemma at_head {op : Op} (reads : At ops i (op :: rest)) : ops[i]? = some op := reads 0

lemma at_tail {op : Op} (reads : At ops i (op :: rest)) : At ops (i + 1) rest := by
  intro k
  rw [Nat.add_assoc, Nat.add_comm 1 k]
  exact reads (k + 1)

lemma at_rest {chunk : List Op} (reads : At ops i (chunk ++ rest)) :
    At ops (i + chunk.length) rest := by
  intro k
  rw [Nat.add_assoc, reads, getElem?_append_right (Nat.le_add_right _ _),
    Nat.add_sub_cancel_left]

lemma at_end (reads : At ops i []) (inside : i ≤ ops.length) : i = ops.length := by
  have missing : ops[i]? = none := reads 0
  have beyond := List.getElem?_eq_none_iff.mp missing
  omega

lemma at_le {chunk : List Op} (reads : At ops i (chunk ++ rest)) (inside : i ≤ ops.length) :
    i + chunk.length ≤ ops.length := by
  cases count : chunk.length with
  | zero => exact inside
  | succ k =>
    have present := reads k
    have last : chunk[k]? = some chunk[k] := getElem?_eq_getElem (by omega)
    rw [getElem?_append_left (by omega), last] at present
    have below := (List.getElem?_eq_some_iff.mp present).1
    omega

lemma at_inside {op : Op} (reads : At ops i (op :: rest)) : i < ops.length :=
  (List.getElem?_eq_some_iff.mp (at_head reads)).1

end At

lemma encoded_notRule {n : Nat} {here : Bool} {rest : List Op} (encoded : Encoded n here rest) :
    NotRule rest := by
  cases encoded with
  | done => exact fun _ isFirst => nomatch isFirst
  | silent kind isSilent => exact notRule_cons _ kind (fun same => by rw [same] at isSilent; cases isSilent)
  | beside kind isBeside => exact notRule_cons _ kind (fun same => by rw [same] at isBeside; cases isBeside)
  | rect kind | path kind => exact notRule_cons _ kind (by decide)
  | branch kind isBranch =>
    exact notRule_cons _ kind (fun same => by rw [same] at isBranch; simp at isBranch)
  | junction kind => exact notRule_cons _ kind (by decide)
  | first kindX => exact notRule_cons _ kindX (by decide)
  | later kind isPoint =>
    exact notRule_cons _ kind (fun same => by rw [same] at isPoint; simp at isPoint)
  | colinear kind => exact notRule_cons _ kind (by decide)

namespace WireDecoder

variable {ops rest : List Op} {d : WireDecoder}

variable {rules : List Op}

lemma flushRule_at (isRule : RuleOps rules) (notRule : NotRule rest)
    (reads : At ops d.idx (rules ++ rest)) :
    d.flushRule ops = { d with idx := d.idx + rules.length } := by
  rcases isRule with rfl | ⟨byte, value, rfl, kind⟩
  · have head : ops[d.idx]? = rest[0]? := reads 0
    rw [flushRule, head]
    cases rest with
    | nil => rfl
    | cons op rest =>
      have other := notRule op rfl
      simp only [getElem?_cons_zero, if_neg other]
      rfl
  · rw [flushRule, at_head reads]
    simp only [kind, if_true]
    rfl

variable {x y : Int} {ext : Option Int}

lemma decodes_first {byteX byteY : UInt8} (noPoint : d.pointCnt = 0) (kindX : opOf byteX = some .kX)
    (extended : hasFlag byteY WOP_EXTENSION = ext.isSome)
    (reads : At ops d.idx ((byteX, x) :: (byteY, y) :: (operandOps ext ++ rest))) :
    Decodes tech ops d [⟨InForce.pointKind x y ext, d.idx + 1, d.layer, d.color, d.viaColor⟩]
      { d with idx := d.idx + 2 + (operandOps ext).length, x := x, y := y, pointCnt := 1 } := by
  apply decodes_found
  rw [stepOp, nextOp_eq (at_head reads)]
  simp only [bind_eq_bind, bind_some, kindX, noPoint, if_true]
  rw [nextOp_eq (d := { d with idx := d.idx + 1, pointCnt := 0 }) (at_head (at_tail reads))]
  simp only [bind_some, extended]
  cases ext with
  | none => rfl
  | some ext =>
    rw [if_pos isSome_some, nextOp_eq (at_head (at_tail (at_tail reads)))]
    rfl

lemma flushRule_ext (isRule : RuleOps rules) (notRule : NotRule rest)
    (reads : At ops (d.idx + 1) (operandOps ext ++ (rules ++ rest))) : flushRule ops { d with
      idx := d.idx + 1 + (operandOps ext).length, x := x, y := y, pointCnt := d.pointCnt + 1 } =
      { d with
        idx := d.idx + 1 + (operandOps ext).length + rules.length
        x := x, y := y, pointCnt := d.pointCnt + 1 } :=
  flushRule_at isRule notRule (at_rest reads)

variable {byte : UInt8}

lemma decodes_alongX (hasPoint : d.pointCnt ≠ 0) (kind : opOf byte = some .kX)
    (extended : hasFlag byte WOP_EXTENSION = ext.isSome) (isRule : RuleOps rules)
    (notRule : NotRule rest)
    (reads : At ops d.idx ((byte, x) :: (operandOps ext ++ (rules ++ rest)))) :
    Decodes tech ops d [⟨InForce.pointKind x d.y ext, d.idx, d.layer, d.color, d.viaColor⟩] { d with
        idx := d.idx + 1 + (operandOps ext).length + rules.length, x := x
        pointCnt := d.pointCnt + 1 } := by
  apply decodes_found
  rw [← flushRule_ext isRule notRule (at_tail reads), stepOp, nextOp_eq (at_head reads)]
  simp only [bind_eq_bind, bind_some, kind, if_neg hasPoint, extended]
  cases ext with
  | none => rfl
  | some ext =>
    rw [if_pos isSome_some, nextOp_eq (at_head (at_tail reads))]
    rfl

lemma decodes_alongY (hasPoint : d.pointCnt ≠ 0) (kind : opOf byte = some .kY)
    (extended : hasFlag byte WOP_EXTENSION = ext.isSome) (isRule : RuleOps rules)
    (notRule : NotRule rest)
    (reads : At ops d.idx ((byte, y) :: (operandOps ext ++ (rules ++ rest)))) :
    Decodes tech ops d [⟨InForce.pointKind d.x y ext, d.idx, d.layer, d.color, d.viaColor⟩] { d with
        idx := d.idx + 1 + (operandOps ext).length + rules.length, y := y
        pointCnt := d.pointCnt + 1 } := by
  apply decodes_found
  rw [← flushRule_ext isRule notRule (at_tail reads), stepOp, nextOp_eq (at_head reads)]
  simp only [bind_eq_bind, bind_some, kind, if_neg hasPoint, extended]
  cases ext with
  | none => rfl
  | some ext =>
    rw [if_pos isSome_some, nextOp_eq (at_head (at_tail reads))]
    rfl

lemma decodes_same {value : Int} (kind : opOf byte = some .kColinear) (isRule : RuleOps rules)
    (notRule : NotRule rest) (reads : At ops d.idx ((byte, value) :: (rules ++ rest))) :
    Decodes tech ops d
      [⟨InForce.pointKind d.x d.y (if hasFlag byte WOP_EXTENSION then some value else none), d.idx,
        d.layer, d.color, d.viaColor⟩]
      { d with idx := d.idx + 1 + rules.length, pointCnt := d.pointCnt + 1 } := by
  have flushed : flushRule ops { d with idx := d.idx + 1, pointCnt := d.pointCnt + 1 } =
      { d with idx := d.idx + 1 + rules.length, pointCnt := d.pointCnt + 1 } :=
    flushRule_at isRule notRule (at_tail reads)
  apply decodes_found
  rw [← flushed, stepOp, nextOp_eq (at_head reads)]
  simp only [bind_eq_bind, bind_some, kind]
  cases hasFlag byte WOP_EXTENSION <;> rfl

/-- The decoder behind an op without an element. -/
def pass (op : WireOp) (value : Int) (d : WireDecoder) : WireDecoder :=
  match op with
  | .kColor => { d with
    idx := d.idx + 1
    color := if value.toNat % 256 = 0 then none else some (value.toNat % 256) }
  | .kViaColor => { d with
    idx := d.idx + 1
    viaColor := if value.toNat % 256 = 0 then none
      else some ((value.toNat % 256 &&& 0x30) >>> 4, (value.toNat % 256 &&& 0x0c) >>> 2,
        value.toNat % 256 &&& 0x03) }
  | _ => { d with idx := d.idx + 1 }

lemma pass_idx (op : WireOp) (value : Int) (d : WireDecoder) :
    (d.pass op value).idx = d.idx + 1 := by
  cases op <;> rfl

lemma pass_pointCnt (op : WireOp) (value : Int) (d : WireDecoder) :
    (d.pass op value).pointCnt = d.pointCnt := by
  cases op <;> rfl

lemma decodes_pass {op : WireOp} {value : Int} (kind : opOf byte = some op)
    (isSilent : silentOp op = true) (present : ops[d.idx]? = some (byte, value)) :
    Decodes tech ops d [] (d.pass op value) := by
  cases op
  case kProperty => exact decodes_nop _ present kind (.inl rfl)
  case kNop => exact decodes_nop _ present kind (.inr rfl)
  case kColor => exact decodes_color present kind
  case kViaColor => exact decodes_viaColor present kind
  all_goals cases isSilent

lemma decodes_rules (isRule : RuleOps rules) (reads : At ops d.idx (rules ++ rest)) :
    Decodes tech ops d (rules.map fun op =>
        ⟨.rule (hasFlag op.1 WOP_BLOCK_RULE) op.2, d.idx, d.layer, d.color, d.viaColor⟩)
      { d with idx := d.idx + rules.length } := by
  rcases isRule with rfl | ⟨byte, value, rfl, kind⟩
  · exact decodes_refl tech ops d
  · exact decodes_rule (at_head reads) kind

end WireDecoder

/-- Every junction index lies in front of the path that branches off there; `ops` begins at index
`n`. -/
def JunctionsBack (n : Nat) (ops : List Op) : Prop :=
  ∀ (i : Nat) (op : Op), ops[i]? = some op → opOf op.1 = some .kJunction →
    ∃ jct : Nat, op.2 = jct ∧ jct < n + i

variable {n : Nat} {rest : List Op}

lemma back_append (chunk : List Op) (other : ∀ op ∈ chunk, opOf op.1 ≠ some .kJunction)
    (back : JunctionsBack (n + chunk.length) rest) : JunctionsBack n (chunk ++ rest) := by
  intro i op present kind
  by_cases inside : i < chunk.length
  · rw [getElem?_append_left inside] at present
    exact absurd kind (other op (mem_of_getElem? present))
  · rw [getElem?_append_right (by omega)] at present
    rcases back _ op present kind with ⟨jct, same, earlier⟩
    exact ⟨jct, same, by omega⟩

lemma back_cons {op : Op} {kind : WireOp} (isKind : opOf op.1 = some kind)
    (other : kind ≠ .kJunction) (back : JunctionsBack (n + 1) rest) :
    JunctionsBack n (op :: rest) := by
  apply back_append [op] _ back
  intro op' member
  rw [mem_singleton.mp member, isKind]
  exact fun same => other (Option.some.inj same)

lemma back_rules {rules : List Op} (isRule : RuleOps rules)
    (back : JunctionsBack (n + rules.length) rest) : JunctionsBack n (rules ++ rest) := by
  rcases isRule with rfl | ⟨byte, value, rfl, kind⟩
  · exact back
  · exact back_cons kind (by decide) back

lemma back_operands {ext : Option Int} (back : JunctionsBack (n + (operandOps ext).length) rest) :
    JunctionsBack n (operandOps ext ++ rest) := by
  cases ext with
  | none => exact back
  | some ext => exact back_cons (opOf_plain .kOperand) (by decide) back

lemma encoded_back {here : Bool} (encoded : Encoded n here rest) : JunctionsBack n rest := by
  induction encoded with
  | done => exact fun _ _ present => nomatch present
  | silent kind isSilent _ ih =>
    exact back_cons kind (fun same => by rw [same] at isSilent; cases isSilent) ih
  | beside kind isBeside _ ih =>
    exact back_cons kind (fun same => by rw [same] at isBeside; cases isBeside) ih
  | rect kind _ ih =>
    have operand := opOf_plain .kOperand
    exact back_cons kind (by decide) (back_cons operand (by decide)
      (back_cons operand (by decide) (back_cons operand (by decide) ih)))
  | path kind _ isRule _ ih => exact back_cons kind (by decide) (back_rules isRule ih)
  | branch kind isBranch _ isRule _ ih =>
    exact back_cons kind (fun same => by rw [same] at isBranch; simp at isBranch)
      (back_cons (opOf_plain .kOperand) (by decide) (back_rules isRule ih))
  | @junction n jct here byte flags value type rules rest kind earlier typed isRule point more ih =>
    have behind : JunctionsBack (n + 1) (rules ++ (flags, value) :: rest) :=
      back_rules isRule (back_cons point (by decide) ih)
    intro i op present isKind
    cases i with
    | zero =>
      cases present
      exact ⟨jct, rfl, earlier⟩
    | succ i =>
      rcases behind i op present isKind with ⟨jct', same, earlier'⟩
      exact ⟨jct', same, by omega⟩
  | first kindX kindY _ _ ih =>
    exact back_cons kindX (by decide) (back_cons kindY (by decide) (back_operands ih))
  | later kind isPoint _ isRule _ ih =>
    exact back_cons kind (fun same => by rw [same] at isPoint; simp at isPoint)
      (back_operands (back_rules isRule ih))
  | colinear kind isRule _ ih => exact back_cons kind (by decide) (back_rules isRule ih)

/-- Whatever is accepted is in the grammar, branches off in front of itself and is read to its end.
-/
theorem accepted_wire_reads (tech : WireTech) (calls : List WireCall) (e : WireEncoder)
    (trace : WireEncoder.Trace) (accepted : new.run tech [] calls = some (e, trace)) :
    Encoded 0 false e.ops ∧ JunctionsBack 0 e.ops ∧ ∃ elements, decode tech e.ops = some elements := by
  have encoded := encoded_wire accepted
  exact ⟨encoded.1, encoded_back encoded.1, encoded.2⟩

theorem accepted_wire_reads_sample : ∃ e trace,
    new.run sampleTech [] sampleCalls = some (e, trace) ∧
      Encoded 0 false e.ops ∧ JunctionsBack 0 e.ops ∧
      ∃ elements, decode sampleTech e.ops = some elements := by
  have isSome : (new.run sampleTech [] sampleCalls).isSome := by decide
  rcases Option.isSome_iff_exists.mp isSome with ⟨⟨e, trace⟩, accepted⟩
  exact ⟨e, trace, accepted, accepted_wire_reads sampleTech sampleCalls e trace accepted⟩

end OpenRoad.Odb
