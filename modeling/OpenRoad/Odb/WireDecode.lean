import OpenRoad.Odb.WireScan

/-! What `dbWireDecoder` reads from the ops of a wire, op by op. -/

namespace OpenRoad.Odb

open Option

namespace WireDecoder

variable {tech : WireTech} {ops : List Op} {d : WireDecoder}

variable {d' : WireDecoder}

lemma nextOp_some {op : Op} (read : d.nextOp ops = some (op, d')) :
    ops[d.idx]? = some op ∧ d' = { d with idx := d.idx + 1 } ∧ d.idx < ops.length := by
  rw [nextOp, bind_eq_bind, bind_eq_some_iff] at read
  rcases read with ⟨found, present, same⟩
  cases same
  exact ⟨present, rfl, (List.getElem?_eq_some_iff.mp present).1⟩

lemma nextOp_eq {op : Op} (present : ops[d.idx]? = some op) :
    d.nextOp ops = some (op, { d with idx := d.idx + 1 }) := by
  rw [nextOp, present]
  rfl

lemma flushRule_bounds (ops : List Op) (d : WireDecoder) (inside : d.idx ≤ ops.length) :
    d.idx ≤ (d.flushRule ops).idx ∧ (d.flushRule ops).idx ≤ ops.length := by
  rw [flushRule]
  cases present : ops[d.idx]? with
  | none => exact ⟨Nat.le_refl _, inside⟩
  | some op =>
    have below := (List.getElem?_eq_some_iff.mp present).1
    simp only
    split
    · exact ⟨Nat.le_succ _, below⟩
    · exact ⟨Nat.le_refl _, inside⟩

lemma laterPoint_bounds (ops : List Op) (jctId : Nat) (ext : Option Int) (d : WireDecoder)
    (inside : d.idx ≤ ops.length) :
    d.idx ≤ (d.laterPoint ops jctId ext).1.idx ∧ (d.laterPoint ops jctId ext).1.idx ≤ ops.length :=
  flushRule_bounds ops { d with pointCnt := d.pointCnt + 1 } inside

lemma nextOp_bind {α : Type} {f : Op × WireDecoder → Option α} {result : α}
    (run : (d.nextOp ops >>= f) = some result) :
    ∃ op, ops[d.idx]? = some op ∧ d.idx < ops.length ∧
      f (op, { d with idx := d.idx + 1 }) = some result := by
  rcases bind_eq_some_iff.mp run with ⟨⟨op, d'⟩, read, rest⟩
  have found := nextOp_some read
  rw [found.2.1] at rest
  exact ⟨op, found.1, found.2.2, rest⟩

lemma stepOp_advances {found : Option Element} (step : d.stepOp tech ops = some (d', found)) :
    d.idx < d'.idx ∧ d'.idx ≤ ops.length := by
  rw [stepOp] at step
  rcases nextOp_bind step with ⟨⟨opcode, operand⟩, present, below, step⟩
  rcases bind_eq_some_iff.mp step with ⟨op, _, step⟩
  have more : ∀ (d₁ : WireDecoder) (jctId : Nat) (ext : Option Int),
      some (d₁.laterPoint ops jctId ext) = some (d', found) → d.idx < d₁.idx →
      d₁.idx ≤ ops.length → d.idx < d'.idx ∧ d'.idx ≤ ops.length := by
    intro d₁ jctId ext same after inside
    have bounds := laterPoint_bounds ops jctId ext d₁ inside
    rw [Option.some.inj same] at bounds
    exact ⟨Nat.lt_of_lt_of_le after bounds.1, bounds.2⟩
  cases op
  case kPath | kRule | kVia | kTechVia | kIterm | kBterm | kProperty | kNop | kColor | kViaColor =>
    cases step; exact ⟨Nat.lt_succ_self _, below⟩
  case kOperand => cases step
  case kShort | kVwire =>
    rcases nextOp_bind step with ⟨_, _, below', step⟩
    cases step
    exact ⟨Nat.lt_succ_of_lt (Nat.lt_succ_self _), below'⟩
  case kJunction =>
    rcases bind_eq_some_iff.mp step with ⟨pnt, _, step⟩
    cases step
    exact ⟨Nat.lt_succ_self _, below⟩
  case kRect =>
    rcases nextOp_bind step with ⟨_, _, _, step⟩
    rcases nextOp_bind step with ⟨_, _, _, step⟩
    rcases nextOp_bind step with ⟨_, _, below', step⟩
    cases step
    exact ⟨by simp only; omega, below'⟩
  case kColinear => exact more _ _ _ step (Nat.lt_succ_self _) below
  case kY =>
    simp only at step
    split at step
    · cases step
    · split at step
      · rcases nextOp_bind step with ⟨_, _, below', step⟩
        exact more _ _ _ step (Nat.lt_succ_of_lt (Nat.lt_succ_self _)) below'
      · exact more _ _ _ step (Nat.lt_succ_self _) below
  case kX =>
    simp only at step
    split at step
    · rcases nextOp_bind step with ⟨_, _, below', step⟩
      simp only at step
      split at step
      · rcases nextOp_bind step with ⟨_, _, below'', step⟩
        cases step
        exact ⟨by simp only; omega, below''⟩
      · cases step
        exact ⟨by simp only; omega, below'⟩
    · split at step
      · rcases nextOp_bind step with ⟨_, _, below', step⟩
        exact more _ _ _ step (Nat.lt_succ_of_lt (Nat.lt_succ_self _)) below'
      · exact more _ _ _ step (Nat.lt_succ_self _) below

lemma next_fuel (a b : Nat) (d : WireDecoder) (enoughA : ops.length < a + d.idx)
    (enoughB : ops.length < b + d.idx) (inside : d.idx ≤ ops.length) :
    d.next tech ops a = d.next tech ops b := by
  induction a generalizing b d with
  | zero => omega
  | succ a ih =>
    cases b with
    | zero => omega
    | succ b =>
      rw [next, next]
      split
      · rfl
      · rename_i notEnd
        cases step : d.stepOp tech ops with
        | none => rfl
        | some result =>
          rcases result with ⟨d', found⟩
          have advances := stepOp_advances step
          cases found with
          | some element => rfl
          | none => exact ih b d' (by omega) (by omega) advances.2

lemma next_advances (fuel : Nat) {element : Element}
    (found : d.next tech ops fuel = some (d', some element)) :
    d.idx < d'.idx ∧ d'.idx ≤ ops.length := by
  induction fuel generalizing d with
  | zero => cases found
  | succ fuel ih =>
    rw [next] at found
    split at found
    · cases found
    · rcases bind_eq_some_iff.mp found with ⟨⟨d₁, first⟩, step, found⟩
      have advances := stepOp_advances step
      cases first with
      | some element =>
        cases found
        exact advances
      | none =>
        have later := ih found
        exact ⟨Nat.lt_trans advances.1 later.1, later.2⟩

lemma elements_fuel (a b : Nat) (d : WireDecoder) (enoughA : ops.length < a + d.idx)
    (enoughB : ops.length < b + d.idx) (inside : d.idx ≤ ops.length) :
    d.elements tech ops a = d.elements tech ops b := by
  induction a generalizing b d with
  | zero => omega
  | succ a ih =>
    cases b with
    | zero => omega
    | succ b =>
      rw [elements, elements]
      cases found : d.next tech ops (ops.length + 1) with
      | none => rfl
      | some result =>
        rcases result with ⟨d', _ | element⟩
        · rfl
        · have advances := next_advances _ found
          have rest := ih b d' (by omega) (by omega) advances.2
          simp only [bind_eq_bind, bind_some, rest]

def decodeFrom (tech : WireTech) (ops : List Op) (d : WireDecoder) : Option (List Element) :=
  d.elements tech ops (ops.length + 1)

lemma decodeFrom_end (atEnd : d.idx = ops.length) : d.decodeFrom tech ops = some [] := by
  rw [decodeFrom, elements, next, if_pos atEnd]
  rfl

/-- From `d` the decoder returns `els` and goes on from `d'`. -/
def Decodes (tech : WireTech) (ops : List Op) (d : WireDecoder) (els : List Element)
    (d' : WireDecoder) : Prop :=
  d.decodeFrom tech ops = (d'.decodeFrom tech ops).map (els ++ ·)

lemma decodes_refl (tech : WireTech) (ops : List Op) (d : WireDecoder) :
    Decodes tech ops d [] d := by
  simp [Decodes]

lemma decodes_trans {els els' : List Element} {d₁ d₂ : WireDecoder}
    (first : Decodes tech ops d els d₁) (rest : Decodes tech ops d₁ els' d₂) :
    Decodes tech ops d (els ++ els') d₂ := by
  rw [Decodes, first, rest, map_map]
  congr 1
  funext more
  exact (List.append_assoc els els' more).symm

lemma decodes_silent (step : d.stepOp tech ops = some (d', none)) : Decodes tech ops d [] d' := by
  have advances := stepOp_advances step
  have notEnd : d.idx ≠ ops.length := by omega
  have again : d.next tech ops (ops.length + 1) = d'.next tech ops (ops.length + 1) := by
    rw [next, if_neg notEnd, step]
    exact next_fuel _ _ d' (by omega) (by omega) advances.2
  have same : d.decodeFrom tech ops = d'.decodeFrom tech ops := by
    rw [decodeFrom, decodeFrom, elements, elements, again]
  simp [Decodes, same]

lemma decodes_found {element : Element} (step : d.stepOp tech ops = some (d', some element)) :
    Decodes tech ops d [element] d' := by
  have advances := stepOp_advances step
  have notEnd : d.idx ≠ ops.length := by omega
  have first : d.next tech ops (ops.length + 1) = some (d', some element) := by
    rw [next, if_neg notEnd, step]
    rfl
  have again : d'.elements tech ops ops.length = d'.elements tech ops (ops.length + 1) :=
    elements_fuel _ _ d' (by omega) (by omega) advances.2
  rw [Decodes, decodeFrom, elements, first]
  simp only [bind_eq_bind, bind_some, again, decodeFrom]
  cases d'.elements tech ops (ops.length + 1) <;> rfl

variable {byte : UInt8} {value : Int}

lemma decodes_nop (op : WireOp) (present : ops[d.idx]? = some (byte, value))
    (kind : opOf byte = some op) (nop : op = .kProperty ∨ op = .kNop) :
    Decodes tech ops d [] { d with idx := d.idx + 1 } := by
  apply decodes_silent
  rw [stepOp, nextOp_eq present]
  rcases nop with nop | nop <;> simp only [bind_eq_bind, bind_some, kind, nop]

section

variable (present : ops[d.idx]? = some (byte, value))
include present

lemma decodes_color (kind : opOf byte = some .kColor) :
    Decodes tech ops d [] { d with
      idx := d.idx + 1
      color := if value.toNat % 256 = 0 then none else some (value.toNat % 256) } := by
  apply decodes_silent
  rw [stepOp, nextOp_eq present]
  simp only [bind_eq_bind, bind_some, kind]

lemma decodes_viaColor (kind : opOf byte = some .kViaColor) :
    Decodes tech ops d [] { d with
      idx := d.idx + 1
      viaColor := if value.toNat % 256 = 0 then none
        else some ((value.toNat % 256 &&& 0x30) >>> 4, (value.toNat % 256 &&& 0x0c) >>> 2,
          value.toNat % 256 &&& 0x03) } := by
  apply decodes_silent
  rw [stepOp, nextOp_eq present]
  simp only [bind_eq_bind, bind_some, kind]

lemma decodes_rule (kind : opOf byte = some .kRule) :
    Decodes tech ops d [d.element d.idx (.rule (hasFlag byte WOP_BLOCK_RULE) value)]
      { d with idx := d.idx + 1 } := by
  apply decodes_found
  rw [stepOp, nextOp_eq present]
  simp only [bind_eq_bind, bind_some, kind]
  rfl

lemma decodes_iterm (kind : opOf byte = some .kIterm) :
    Decodes tech ops d [d.element d.idx (.iterm value)] { d with idx := d.idx + 1 } := by
  apply decodes_found
  rw [stepOp, nextOp_eq present]
  simp only [bind_eq_bind, bind_some, kind]
  rfl

lemma decodes_bterm (kind : opOf byte = some .kBterm) :
    Decodes tech ops d [d.element d.idx (.bterm value)] { d with idx := d.idx + 1 } := by
  apply decodes_found
  rw [stepOp, nextOp_eq present]
  simp only [bind_eq_bind, bind_some, kind]
  rfl

lemma decodes_rect {deltaY1 deltaX2 deltaY2 : Op} (kind : opOf byte = some .kRect)
    (second : ops[d.idx + 1]? = some deltaY1) (third : ops[d.idx + 2]? = some deltaX2)
    (fourth : ops[d.idx + 3]? = some deltaY2) :
    Decodes tech ops d [d.element d.idx (.rect value deltaY1.2 deltaX2.2 deltaY2.2)]
      { d with idx := d.idx + 4 } := by
  apply decodes_found
  rw [stepOp, nextOp_eq present]
  simp only [bind_eq_bind, bind_some, kind]
  rw [nextOp_eq second, bind_some, nextOp_eq third, bind_some, nextOp_eq fourth]
  rfl

lemma decodes_via (kind : opOf byte = some .kVia) (layer : Nat)
    (exit : (if hasFlag byte WOP_VIA_EXIT_TOP then tech.viaTop value.toNat
      else tech.viaBottom value.toNat) = layer) :
    Decodes tech ops d [⟨.via value, d.idx, some layer, d.color, d.viaColor⟩]
      { d with idx := d.idx + 1, layer := some layer } := by
  apply decodes_found
  rw [stepOp, nextOp_eq present]
  simp only [bind_eq_bind, bind_some, kind, exit]
  rfl

lemma decodes_techVia (kind : opOf byte = some .kTechVia) (layer : Nat)
    (exit : (if hasFlag byte WOP_VIA_EXIT_TOP then tech.techViaTop value.toNat
      else tech.techViaBottom value.toNat) = layer) :
    Decodes tech ops d [⟨.techVia value, d.idx, some layer, d.color, d.viaColor⟩]
      { d with idx := d.idx + 1, layer := some layer } := by
  apply decodes_found
  rw [stepOp, nextOp_eq present]
  simp only [bind_eq_bind, bind_some, kind, exit]
  rfl

end

/-- The decoder behind the op that starts a path. -/
def started (count : Nat) (layer : Option Nat) (type : DbWireType) (d : WireDecoder) :
    WireDecoder :=
  { d with idx := d.idx + count, layer := layer, pointCnt := 0, wireType := type }

variable {type : DbWireType}

lemma decodes_path (present : ops[d.idx]? = some (byte, value)) (kind : opOf byte = some .kPath)
    (typed : DbWireType.ofByte byte d.wireType = type) :
    Decodes tech ops d [⟨.path type, d.idx, some value.toNat, d.color, d.viaColor⟩]
      (d.started 1 (some value.toNat) type) := by
  apply decodes_found
  rw [stepOp, nextOp_eq present]
  simp only [bind_eq_bind, bind_some, kind, typed]
  rfl

lemma decodes_short {jct : Op} (present : ops[d.idx]? = some (byte, value))
    (kind : opOf byte = some .kShort) (second : ops[d.idx + 1]? = some jct)
    (typed : DbWireType.ofByte byte d.wireType = type) :
    Decodes tech ops d [⟨.short type jct.2, d.idx, some value.toNat, d.color, d.viaColor⟩]
      (d.started 2 (some value.toNat) type) := by
  apply decodes_found
  rw [stepOp, nextOp_eq present]
  simp only [bind_eq_bind, bind_some, kind, typed]
  rw [nextOp_eq second]
  rfl

lemma decodes_vwire {jct : Op} (present : ops[d.idx]? = some (byte, value))
    (kind : opOf byte = some .kVwire) (second : ops[d.idx + 1]? = some jct)
    (typed : DbWireType.ofByte byte d.wireType = type) :
    Decodes tech ops d [⟨.vwire type jct.2, d.idx, some value.toNat, d.color, d.viaColor⟩]
      (d.started 2 (some value.toNat) type) := by
  apply decodes_found
  rw [stepOp, nextOp_eq present]
  simp only [bind_eq_bind, bind_some, kind, typed]
  rw [nextOp_eq second]
  rfl

lemma decodes_junction {jct : Nat} {pnt : WirePoint}
    (present : ops[d.idx]? = some (byte, (jct : Int))) (kind : opOf byte = some .kJunction)
    (typed : DbWireType.ofByte byte d.wireType = type)
    (shown : junctionPoint tech ops jct = some pnt) :
    Decodes tech ops d [⟨.junction type jct, d.idx, pnt.layer, d.color, d.viaColor⟩]
      { d.started 1 pnt.layer type with x := pnt.x, y := pnt.y } := by
  apply decodes_found
  rw [stepOp, nextOp_eq present]
  simp only [bind_eq_bind, bind_some, kind, typed, Int.toNat_natCast, shown]
  rfl

end WireDecoder

end OpenRoad.Odb
