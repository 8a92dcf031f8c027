import OpenRoad.Odb.WireRoundTrip

/-! `dbWireDecoder::peek`, which scans the ops again, beside `next`. -/

namespace OpenRoad.Odb

inductive WireOpCode where
  | PATH | JUNCTION | SHORT | VWIRE | POINT | POINT_EXT | VIA | TECH_VIA | RECT | ITERM | BTERM
  | RULE | END_DECODE
  deriving DecidableEq

def ElementKind.opcode : ElementKind → WireOpCode
  | .path _ => .PATH
  | .short _ _ => .SHORT
  | .junction _ _ => .JUNCTION
  | .vwire _ _ => .VWIRE
  | .point _ _ => .POINT
  | .pointExt _ _ _ => .POINT_EXT
  | .via _ => .VIA
  | .techVia _ => .TECH_VIA
  | .rect _ _ _ _ => .RECT
  | .iterm _ => .ITERM
  | .bterm _ => .BTERM
  | .rule _ _ => .RULE

/-- What `next` returns; the end has no element. -/
def returned (found : Option Element) : WireOpCode :=
  match found with
  | some element => element.kind.opcode
  | none => .END_DECODE

namespace WireDecoder

def pointCode (extended : Bool) : WireOpCode := if extended then .POINT_EXT else .POINT

/-- The loop of `peek` over the ops from the index on. -/
def peekOps : List Op → WireOpCode
  | [] => .END_DECODE
  | (opcode, _) :: rest =>
    match opOf opcode with
    | some .kPath => .PATH
    | some .kShort => .SHORT
    | some .kJunction => .JUNCTION
    | some .kRule => .RULE
    | some .kX | some .kY | some .kColinear => pointCode (hasFlag opcode WOP_EXTENSION)
    | some .kVia => .VIA
    | some .kTechVia => .TECH_VIA
    | some .kIterm => .ITERM
    | some .kBterm => .BTERM
    | some .kRect => .RECT
    | some .kVwire => .VWIRE
    | _ => peekOps rest

def peek (ops : List Op) (d : WireDecoder) : WireOpCode := peekOps (ops.drop d.idx)

/-- Only one coordinate of the first point of the path has the flag of an extension. -/
def flagElsewhere (pointCnt : Nat) : List Op → Bool
  | [] => false
  | (opcode, _) :: rest =>
    match opOf opcode with
    | some .kX => pointCnt = 0 &&
      hasFlag opcode WOP_EXTENSION != rest.head?.any fun op => hasFlag op.1 WOP_EXTENSION
    | some .kProperty | some .kNop | some .kColor | some .kViaColor =>
      flagElsewhere pointCnt rest
    | _ => false

variable {tech : WireTech} {ops rest : List Op} {d d' : WireDecoder} {byte : UInt8} {value : Int}

lemma laterPoint_code {jctId : Nat} {extended : Bool} {ext : Int} {element : Element}
    (later : d.laterPoint ops jctId (if extended then some ext else none) = (d', some element)) :
    element.kind.opcode = pointCode extended := by
  have same := congrArg Prod.snd later
  cases extended <;> exact (congrArg (fun e => e.kind.opcode) (Option.some.inj same)).symm

lemma stepOp_peek {found : Option Element} (reads : ops.drop d.idx = (byte, value) :: rest)
    (step : d.stepOp tech ops = some (d', found)) :
    match found with
    | some element => peekOps ((byte, value) :: rest) = element.kind.opcode ↔
      flagElsewhere d.pointCnt ((byte, value) :: rest) = false
    | none => d'.idx = d.idx + 1 ∧ d'.pointCnt = d.pointCnt ∧
      peekOps ((byte, value) :: rest) = peekOps rest ∧
      flagElsewhere d.pointCnt ((byte, value) :: rest) = flagElsewhere d.pointCnt rest := by
  have present : ops[d.idx]? = some (byte, value) := by
    rw [← List.head?_drop, reads, List.head?_cons]
  have second : ops[d.idx + 1]? = rest.head? := by
    rw [← List.head?_drop, ← List.tail_drop, reads, List.tail_cons]
  rw [stepOp, nextOp_eq present, Option.bind_eq_bind, Option.bind_some] at step
  rcases Option.bind_eq_some_iff.mp step with ⟨op, kind, step⟩
  rw [peekOps, flagElsewhere, kind]
  have plain : ∀ {jctId : Nat} (extended : Bool) (ext : Int) {from' : WireDecoder},
      some (from'.laterPoint ops jctId (if extended then some ext else none)) = some (d', found) →
      ∃ element, found = some element ∧ element.kind.opcode = pointCode extended := by
    intro jctId extended ext from' same
    cases found with
    | none => cases congrArg Prod.snd (Option.some.inj same)
    | some element => exact ⟨element, rfl, laterPoint_code (Option.some.inj same)⟩
  cases op
  case kProperty | kNop | kColor | kViaColor => cases step; exact ⟨rfl, rfl, rfl, rfl⟩
  case kOperand => cases step
  case kPath | kRule | kVia | kTechVia | kIterm | kBterm => cases step; exact iff_of_true rfl rfl
  case kShort | kVwire =>
    rcases nextOp_bind step with ⟨_, _, _, step⟩
    cases step
    exact iff_of_true rfl rfl
  case kJunction =>
    rcases Option.bind_eq_some_iff.mp step with ⟨_, _, step⟩
    cases step
    exact iff_of_true rfl rfl
  case kRect =>
    rcases nextOp_bind step with ⟨_, _, _, step⟩
    rcases nextOp_bind step with ⟨_, _, _, step⟩
    rcases nextOp_bind step with ⟨_, _, _, step⟩
    cases step
    exact iff_of_true rfl rfl
  case kColinear =>
    rcases plain _ _ step with ⟨element, rfl, code⟩
    exact iff_of_true code.symm rfl
  case kY =>
    simp only at step
    split at step
    · cases step
    · split at step
      · rename_i _ flag
        rcases nextOp_bind step with ⟨_, _, _, step⟩
        rcases plain true _ step with ⟨element, rfl, code⟩
        exact iff_of_true (by rw [flag, code]) rfl
      · rename_i _ flag
        rcases plain false 0 step with ⟨element, rfl, code⟩
        exact iff_of_true (by rw [Bool.eq_false_of_not_eq_true flag, code]) rfl
  case kX =>
    simp only at step
    split at step
    · rename_i first
      rcases nextOp_bind step with ⟨⟨opcode, y⟩, isSecond, _, step⟩
      rw [second] at isSecond
      simp only [first, isSecond, decide_true, Bool.true_and, Option.any_some]
      simp only at step
      split at step
      · rename_i flag
        rcases nextOp_bind step with ⟨_, _, _, step⟩
        cases step
        rw [flag]
        change pointCode _ = .POINT_EXT ↔ _
        cases hasFlag byte WOP_EXTENSION <;> decide
      · rename_i flag
        cases step
        rw [Bool.eq_false_of_not_eq_true flag]
        change pointCode _ = .POINT ↔ _
        cases hasFlag byte WOP_EXTENSION <;> decide
    · rename_i later
      simp only [later, decide_false, Bool.false_and]
      split at step
      · rename_i flag
        rcases nextOp_bind step with ⟨_, _, _, step⟩
        rcases plain true _ step with ⟨element, rfl, code⟩
        exact iff_of_true (by rw [flag, code]) trivial
      · rename_i flag
        rcases plain false 0 step with ⟨element, rfl, code⟩
        exact iff_of_true (by rw [Bool.eq_false_of_not_eq_true flag, code]) trivial

/-- `peek` is what `next` returns, except where the flag of an extension stays. -/
theorem peek_next_iff (tech : WireTech) (ops : List Op) (fuel : Nat) {found : Option Element}
    (returns : d.next tech ops fuel = some (d', found)) :
    d.peek ops = returned found ↔ flagElsewhere d.pointCnt (ops.drop d.idx) = false := by
  rw [peek]
  induction fuel generalizing d with
  | zero => cases returns
  | succ fuel ih =>
    rw [next] at returns
    split at returns
    · rename_i atEnd
      cases returns
      rw [atEnd, List.drop_length]
      exact iff_of_true rfl rfl
    · rcases Option.bind_eq_some_iff.mp returns with ⟨⟨d₁, first⟩, step, returns⟩
      have below : d.idx < ops.length := by
        have advances := stepOp_advances step
        omega
      have reads : ops.drop d.idx = (ops[d.idx].1, ops[d.idx].2) :: ops.drop (d.idx + 1) :=
        List.drop_eq_getElem_cons below
      have peeks := stepOp_peek reads step
      rw [reads]
      cases first with
      | some element =>
        cases returns
        exact peeks
      | none =>
        rcases peeks with ⟨idx, pointCnt, code, flag⟩
        rw [code, flag, ← idx, ← pointCnt]
        exact ih returns

def extendedStart : List WireCall := [.newPath 1 .routed none, .addPointExt 0 0 5 0]

theorem peek_next_plain :
    ∃ d found, WireDecoder.new.next sampleTech [(0x60, 1), (0x44, 0), (0x45, 0)] 4 =
        some (d, found) ∧
      WireDecoder.new.peek [(0x60, 1), (0x44, 0), (0x45, 0)] = returned found :=
  ⟨_, _, rfl, (peek_next_iff sampleTech _ 4 rfl).mpr (by decide)⟩

theorem peek_misses_extension :
    ∃ e trace d path d' point, WireEncoder.new.run sampleTech [] extendedStart = some (e, trace) ∧
      WireDecoder.new.next sampleTech e.ops (e.ops.length + 1) = some (d, path) ∧
      d.next sampleTech e.ops (e.ops.length + 1) = some (d', point) ∧
      d.peek e.ops ≠ returned point :=
  ⟨_, _, _, _, _, _, rfl, rfl, rfl, by decide⟩

end WireDecoder

end OpenRoad.Odb
