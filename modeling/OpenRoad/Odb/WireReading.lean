import OpenRoad.Odb.WireGrammar

/-! An encoded wire as the decoder reads it, element by element. -/

namespace OpenRoad.Odb

open WireDecoder

variable {tech : WireTech} {ops : List Op}

def ruleElements (rules : List Op) (d : WireDecoder) : List Element :=
  rules.map fun op =>
    ⟨.rule (hasFlag op.1 WOP_BLOCK_RULE) op.2, d.idx, d.layer, d.color, d.viaColor⟩

def viaTo (tech : WireTech) (op : WireOp) (byte : UInt8) (value : Int) : Nat :=
  if op = .kVia then
    if hasFlag byte WOP_VIA_EXIT_TOP then tech.viaTop value.toNat else tech.viaBottom value.toNat
  else
    if hasFlag byte WOP_VIA_EXIT_TOP then tech.techViaTop value.toNat
    else tech.techViaBottom value.toNat

/-- The decoder `d` reads the ops and returns the elements. -/
inductive Reading (tech : WireTech) (ops : List Op) :
    WireDecoder → List Op → List Element → Prop
  | done (d : WireDecoder) : Reading tech ops d [] []
  | silent {d : WireDecoder} {op : WireOp} {byte : UInt8} {value : Int} {rest : List Op}
      {els : List Element} (kind : opOf byte = some op) (isSilent : silentOp op = true)
      (more : Reading tech ops (d.pass op value) rest els) :
      Reading tech ops d ((byte, value) :: rest) els
  | via {d : WireDecoder} {op : WireOp} {byte : UInt8} {value : Int} {rest : List Op}
      {els : List Element} (make : Int → ElementKind) (kind : opOf byte = some op)
      (isVia : op = .kVia ∧ make = .via ∨ op = .kTechVia ∧ make = .techVia)
      (here : d.pointCnt ≠ 0)
      (more : Reading tech ops
        { d with idx := d.idx + 1, layer := some (viaTo tech op byte value) } rest els) :
      Reading tech ops d ((byte, value) :: rest)
        (⟨make value, d.idx, some (viaTo tech op byte value), d.color, d.viaColor⟩ :: els)
  | term {d : WireDecoder} {op : WireOp} {byte : UInt8} {value : Int} {rest : List Op}
      {els : List Element} (make : Int → ElementKind) (kind : opOf byte = some op)
      (isTerm : op = .kIterm ∧ make = .iterm ∨ op = .kBterm ∧ make = .bterm)
      (here : d.pointCnt ≠ 0) (more : Reading tech ops { d with idx := d.idx + 1 } rest els) :
      Reading tech ops d ((byte, value) :: rest)
        (⟨make value, d.idx, d.layer, d.color, d.viaColor⟩ :: els)
  | rect {d : WireDecoder} {byte : UInt8} {deltaX1 deltaY1 deltaX2 deltaY2 : Int} {rest : List Op}
      {els : List Element} (kind : opOf byte = some .kRect) (here : d.pointCnt ≠ 0)
      (more : Reading tech ops { d with idx := d.idx + 4 } rest els) :
      Reading tech ops d ((byte, deltaX1) :: (WireOp.kOperand.code, deltaY1) ::
        (WireOp.kOperand.code, deltaX2) :: (WireOp.kOperand.code, deltaY2) :: rest)
        (⟨.rect deltaX1 deltaY1 deltaX2 deltaY2, d.idx, d.layer, d.color, d.viaColor⟩ :: els)
  | path {d : WireDecoder} {byte : UInt8} {value : Int} {type : DbWireType} {rules rest : List Op}
      {els : List Element} (kind : opOf byte = some .kPath) (isRule : RuleOps rules)
      (more : Reading tech ops
        { d.started 1 (some value.toNat) type with idx := d.idx + 1 + rules.length } rest els) :
      Reading tech ops d ((byte, value) :: (rules ++ rest))
        (⟨.path type, d.idx, some value.toNat, d.color, d.viaColor⟩ ::
          (ruleElements rules (d.started 1 (some value.toNat) type) ++ els))
  | branch {d : WireDecoder} {op : WireOp} {byte : UInt8} {value jct : Int} {type : DbWireType}
      {rules rest : List Op} {els : List Element} (make : DbWireType → Int → ElementKind)
      (kind : opOf byte = some op)
      (isBranch : op = .kShort ∧ make = .short ∨ op = .kVwire ∧ make = .vwire)
      (isRule : RuleOps rules)
      (more : Reading tech ops
        { d.started 2 (some value.toNat) type with idx := d.idx + 2 + rules.length } rest els) :
      Reading tech ops d ((byte, value) :: (WireOp.kOperand.code, jct) :: (rules ++ rest))
        (⟨make type jct, d.idx, some value.toNat, d.color, d.viaColor⟩ ::
          (ruleElements rules (d.started 2 (some value.toNat) type) ++ els))
  | junction {d : WireDecoder} {jct : Nat} {byte flags : UInt8} {value : Int} {type : DbWireType}
      {pnt : WirePoint} {rules rest : List Op} {els : List Element}
      (kind : opOf byte = some .kJunction) (earlier : jct < d.idx) (isRule : RuleOps rules)
      (point : opOf flags = some .kColinear) (shown : junctionPoint tech ops jct = some pnt)
      (more : Reading tech ops { d.started 1 pnt.layer type with
        idx := d.idx + 1 + rules.length + 1, x := pnt.x, y := pnt.y, pointCnt := 1 } rest els) :
      Reading tech ops d ((byte, (jct : Int)) :: (rules ++ (flags, value) :: rest))
        (⟨.junction type jct, d.idx, pnt.layer, d.color, d.viaColor⟩ ::
          (ruleElements rules (d.started 1 pnt.layer type) ++
            ⟨InForce.pointKind pnt.x pnt.y (if hasFlag flags WOP_EXTENSION then some value else none),
              d.idx + 1 + rules.length, pnt.layer, d.color, d.viaColor⟩ :: els))
  | first {d : WireDecoder} {byteX byteY : UInt8} {x y : Int} {ext : Option Int} {rest : List Op}
      {els : List Element} (kindX : opOf byteX = some .kX) (kindY : opOf byteY = some .kY)
      (extended : hasFlag byteY WOP_EXTENSION = ext.isSome) (noPoint : d.pointCnt = 0)
      (more : Reading tech ops
        { d with idx := d.idx + 2 + (operandOps ext).length, x := x, y := y, pointCnt := 1 } rest els) :
      Reading tech ops d ((byteX, x) :: (byteY, y) :: (operandOps ext ++ rest))
        (⟨InForce.pointKind x y ext, d.idx + 1, d.layer, d.color, d.viaColor⟩ :: els)
  | alongX {d : WireDecoder} {byte : UInt8} {x : Int} {ext : Option Int} {rules rest : List Op}
      {els : List Element} (kind : opOf byte = some .kX)
      (extended : hasFlag byte WOP_EXTENSION = ext.isSome) (isRule : RuleOps rules)
      (here : d.pointCnt ≠ 0)
      (more : Reading tech ops { d with
        idx := d.idx + 1 + (operandOps ext).length + rules.length, x := x
        pointCnt := d.pointCnt + 1 } rest els) :
      Reading tech ops d ((byte, x) :: (operandOps ext ++ (rules ++ rest)))
        (⟨InForce.pointKind x d.y ext, d.idx, d.layer, d.color, d.viaColor⟩ :: els)
  | alongY {d : WireDecoder} {byte : UInt8} {y : Int} {ext : Option Int} {rules rest : List Op}
      {els : List Element} (kind : opOf byte = some .kY)
      (extended : hasFlag byte WOP_EXTENSION = ext.isSome) (isRule : RuleOps rules)
      (here : d.pointCnt ≠ 0)
      (more : Reading tech ops { d with
        idx := d.idx + 1 + (operandOps ext).length + rules.length, y := y
        pointCnt := d.pointCnt + 1 } rest els) :
      Reading tech ops d ((byte, y) :: (operandOps ext ++ (rules ++ rest)))
        (⟨InForce.pointKind d.x y ext, d.idx, d.layer, d.color, d.viaColor⟩ :: els)
  | colinear {d : WireDecoder} {byte : UInt8} {value : Int} {rules rest : List Op}
      {els : List Element} (kind : opOf byte = some .kColinear) (isRule : RuleOps rules)
      (here : d.pointCnt ≠ 0)
      (more : Reading tech ops
        { d with idx := d.idx + 1 + rules.length, pointCnt := d.pointCnt + 1 } rest els) :
      Reading tech ops d ((byte, value) :: (rules ++ rest))
        (⟨InForce.pointKind d.x d.y (if hasFlag byte WOP_EXTENSION then some value else none), d.idx,
          d.layer, d.color, d.viaColor⟩ :: els)

lemma reads_rest {d d' : WireDecoder} {els elements : List Element}
    (first : Decodes tech ops d els d') (decoded : d.decodeFrom tech ops = some elements) :
    ∃ rest, elements = els ++ rest ∧ d'.decodeFrom tech ops = some rest := by
  rw [first] at decoded
  rcases Option.map_eq_some_iff.mp decoded with ⟨rest, found, same⟩
  exact ⟨rest, same.symm, found⟩

lemma reading_beside {d : WireDecoder} {op : WireOp} {byte : UInt8} {value : Int} {rest : List Op}
    {elements : List Element} (kind : opOf byte = some op) (isBeside : besidePoint op = true)
    (here : d.pointCnt ≠ 0) (present : ops[d.idx]? = some (byte, value))
    (decoded : d.decodeFrom tech ops = some elements)
    (ih : ∀ (d' : WireDecoder) elements, d'.idx = d.idx + 1 → d'.pointCnt ≠ 0 →
      d'.decodeFrom tech ops = some elements → Reading tech ops d' rest elements) :
    Reading tech ops d ((byte, value) :: rest) elements := by
  cases op
  case kVia =>
    rcases reads_rest (decodes_via present kind (viaTo tech .kVia byte value) rfl) decoded with
      ⟨els, rfl, found⟩
    exact .via .via kind (.inl ⟨rfl, rfl⟩) here (ih _ els rfl here found)
  case kTechVia =>
    rcases reads_rest (decodes_techVia present kind (viaTo tech .kTechVia byte value) rfl) decoded
      with ⟨els, rfl, found⟩
    exact .via .techVia kind (.inr ⟨rfl, rfl⟩) here (ih _ els rfl here found)
  case kIterm =>
    rcases reads_rest (decodes_iterm present kind) decoded with ⟨els, rfl, found⟩
    exact .term .iterm kind (.inl ⟨rfl, rfl⟩) here (ih _ els rfl here found)
  case kBterm =>
    rcases reads_rest (decodes_bterm present kind) decoded with ⟨els, rfl, found⟩
    exact .term .bterm kind (.inr ⟨rfl, rfl⟩) here (ih _ els rfl here found)
  all_goals cases isBeside

lemma encoded_reading {n : Nat} {here : Bool} {rest : List Op} (encoded : Encoded n here rest)
    (d : WireDecoder) (place : d.idx = n) (isOpen : here = true ↔ d.pointCnt ≠ 0)
    (reads : At ops n rest) (inside : n ≤ ops.length) {elements : List Element}
    (decoded : d.decodeFrom tech ops = some elements) : Reading tech ops d rest elements := by
  induction encoded generalizing d elements with
  | done =>
    have atEnd : d.idx = ops.length := place.trans (at_end reads inside)
    rw [decodeFrom_end atEnd] at decoded
    cases decoded
    exact .done d
  | @silent n here op byte value rest kind isSilent _ ih =>
    subst place
    have isOpen' : here = true ↔ (d.pass op value).pointCnt ≠ 0 := by
      rw [pass_pointCnt]
      exact isOpen
    rw [decodeFrom_silent (decodes_pass kind isSilent (at_head reads))] at decoded
    exact .silent kind isSilent
      (ih _ (pass_idx op value d) isOpen' (at_tail reads) (at_inside reads) decoded)
  | beside kind isBeside _ ih =>
    subst place
    apply reading_beside kind isBeside (isOpen.mp rfl) (at_head reads) decoded
    intro d' els place here found
    exact ih d' place (iff_of_true rfl here) (at_tail reads) (at_inside reads) found
  | @rect n byte deltaX1 deltaY1 deltaX2 deltaY2 rest kind _ ih =>
    subst place
    have reads' : At ops d.idx ([(byte, deltaX1), (WireOp.kOperand.code, deltaY1),
        (WireOp.kOperand.code, deltaX2), (WireOp.kOperand.code, deltaY2)] ++ rest) := reads
    rcases reads_rest (decodes_rect (at_head reads) kind (reads 1) (reads 2) (reads 3)) decoded
      with ⟨els, rfl, found⟩
    exact .rect kind (isOpen.mp rfl) (ih { d with idx := d.idx + 4 } rfl isOpen (at_rest reads')
      (at_le reads' inside) found)
  | @path n here byte value type rules rest kind typed isRule _ ih =>
    subst place
    have closed : false = true ↔ (d.started 1 (some value.toNat) type).pointCnt ≠ 0 := by
      simp [started]
    rcases reads_rest (decodes_path (at_head reads) kind (typed d.wireType)) decoded with
      ⟨els, rfl, found⟩
    rcases reads_rest (decodes_rules isRule (at_tail reads)) found with ⟨els', rfl, found'⟩
    exact .path kind isRule (ih { d.started 1 (some value.toNat) type with
      idx := d.idx + 1 + rules.length } rfl closed (at_rest (at_tail reads))
      (at_le (at_tail reads) (at_inside reads)) found')
  | @branch n here op byte value jct type rules rest kind isBranch typed isRule _ ih =>
    subst place
    have closed : false = true ↔ (d.started 2 (some value.toNat) type).pointCnt ≠ 0 := by
      simp [started]
    have inside' := at_le (at_tail (at_tail reads)) (at_inside (at_tail reads))
    rcases isBranch with rfl | rfl
    · rcases reads_rest (decodes_short (at_head reads) kind (at_head (at_tail reads))
        (typed d.wireType)) decoded with ⟨els, rfl, found⟩
      rcases reads_rest (decodes_rules isRule (at_tail (at_tail reads))) found with
        ⟨els', rfl, found'⟩
      exact .branch .short kind (.inl ⟨rfl, rfl⟩) isRule (ih { d.started 2 (some value.toNat) type
        with idx := d.idx + 2 + rules.length } rfl closed (at_rest (at_tail (at_tail reads)))
        inside' found')
    · rcases reads_rest (decodes_vwire (at_head reads) kind (at_head (at_tail reads))
        (typed d.wireType)) decoded with ⟨els, rfl, found⟩
      rcases reads_rest (decodes_rules isRule (at_tail (at_tail reads))) found with
        ⟨els', rfl, found'⟩
      exact .branch .vwire kind (.inr ⟨rfl, rfl⟩) isRule (ih { d.started 2 (some value.toNat) type
        with idx := d.idx + 2 + rules.length } rfl closed (at_rest (at_tail (at_tail reads)))
        inside' found')
  | @junction n jct here byte flags value type rules rest kind earlier typed isRule point behind ih =>
    subst place
    have below := at_inside reads
    rcases stepOp_exists decoded (by omega) with ⟨d', found, step⟩
    rw [stepOp, nextOp_eq (at_head reads)] at step
    simp only [Option.bind_eq_bind, Option.bind_some, kind, Int.toNat_natCast] at step
    rcases Option.bind_eq_some_iff.mp step with ⟨pnt, shown, _⟩
    rcases reads_rest (decodes_junction (at_head reads) kind (typed d.wireType) shown) decoded with
      ⟨els, rfl, found₁⟩
    rcases reads_rest (decodes_rules isRule (at_tail reads)) found₁ with ⟨els', rfl, found₂⟩
    rcases reads_rest (decodes_same point (.inl rfl) (encoded_notRule behind)
      (at_rest (at_tail reads))) found₂ with ⟨els'', rfl, found₃⟩
    exact .junction kind earlier isRule point shown (ih { d.started 1 pnt.layer type with
      idx := d.idx + 1 + rules.length + 1, x := pnt.x, y := pnt.y, pointCnt := 1 } rfl (by simp)
      (at_tail (at_rest (at_tail reads))) (at_inside (at_rest (at_tail reads))) found₃)
  | @first n byteX byteY x y ext rest kindX kindY extended _ ih =>
    subst place
    have noPoint : d.pointCnt = 0 := by simpa using isOpen
    rcases reads_rest (decodes_first noPoint kindX extended reads) decoded with ⟨els, rfl, found⟩
    exact .first kindX kindY extended noPoint (ih { d with
      idx := d.idx + 2 + (operandOps ext).length, x := x, y := y, pointCnt := 1 } rfl (by simp)
      (at_rest (at_tail (at_tail reads)))
      (at_le (at_tail (at_tail reads)) (at_inside (at_tail reads))) found)
  | @later n op byte value ext rules rest kind isPoint extended isRule behind ih =>
    subst place
    have here := isOpen.mp rfl
    have reads' := at_rest (at_rest (at_tail reads))
    have inside' := at_le (at_rest (at_tail reads)) (at_le (at_tail reads) (at_inside reads))
    have isOpen' : true = true ↔ d.pointCnt + 1 ≠ 0 := by simp
    rcases isPoint with rfl | rfl
    · rcases reads_rest (decodes_alongX here kind extended isRule (encoded_notRule behind) reads)
        decoded with ⟨els, rfl, found⟩
      exact .alongX kind extended isRule here (ih { d with
        idx := d.idx + 1 + (operandOps ext).length + rules.length, x := value
        pointCnt := d.pointCnt + 1 } rfl isOpen' reads' inside' found)
    · rcases reads_rest (decodes_alongY here kind extended isRule (encoded_notRule behind) reads)
        decoded with ⟨els, rfl, found⟩
      exact .alongY kind extended isRule here (ih { d with
        idx := d.idx + 1 + (operandOps ext).length + rules.length, y := value
        pointCnt := d.pointCnt + 1 } rfl isOpen' reads' inside' found)
  | @colinear n byte value rules rest kind isRule behind ih =>
    subst place
    rcases reads_rest (decodes_same kind isRule (encoded_notRule behind) reads) decoded with
      ⟨els, rfl, found⟩
    exact .colinear kind isRule (isOpen.mp rfl) (ih
      { d with idx := d.idx + 1 + rules.length, pointCnt := d.pointCnt + 1 } rfl (by simp)
      (at_rest (at_tail reads)) (at_le (at_tail reads) (at_inside reads)) found)

lemma wire_reading {calls : List WireCall} {e : WireEncoder} {trace : WireEncoder.Trace}
    {elements : List Element} (accepted : WireEncoder.new.run tech [] calls = some (e, trace))
    (decoded : WireDecoder.decode tech e.ops = some elements) :
    Reading tech e.ops WireDecoder.new e.ops elements :=
  encoded_reading (encoded_wire accepted).1 WireDecoder.new rfl (by decide) (at_zero e.ops)
    (Nat.zero_le _) decoded

end OpenRoad.Odb
