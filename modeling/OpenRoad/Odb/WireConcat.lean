import OpenRoad.Odb.WireAppend

/-! The decoding of a joined wire: the first wire up to its end, then the second one as the
decoder finds it there. -/

namespace OpenRoad.Odb

open List Option WireOp

namespace WireDecoder

variable {tech : WireTech} {ops more : List Op} {d : WireDecoder}

def Longer {α : Type} (short long : Option α) : Prop := ∀ result, short = some result → long = some result

variable {α : Type}

lemma longer_refl (result : Option α) : Longer result result := fun _ same => same

lemma longer_bind {β : Type} {short long : Option α} {f g : α → Option β} (read : Longer short long)
    (each : ∀ a, Longer (f a) (g a)) : Longer (short.bind f) (long.bind g) := by
  intro result run
  rcases bind_eq_some_iff.mp run with ⟨a, found, rest⟩
  rw [read a found]
  exact each a result rest

lemma longer_if (condition : Prop) [Decidable condition] {short long short' long' : Option α}
    (yes : Longer short long) (no : Longer short' long') :
    Longer (if condition then short else short') (if condition then long else long') := by
  split
  · exact yes
  · exact no

lemma longer_getPrevPoint (fuel idx : Nat) (lookForX lookForY getLayer : Bool) (pnt : WirePoint) :
    Longer (getPrevPoint tech ops fuel idx lookForX lookForY getLayer pnt)
      (getPrevPoint tech (ops ++ more) fuel idx lookForX lookForY getLayer pnt) := by
  induction fuel generalizing idx lookForX lookForY getLayer pnt with
  | zero => exact fun _ run => nomatch run
  | succ fuel ih =>
    rw [getPrevPoint, getPrevPoint]
    apply longer_bind
    · intro op present
      rw [getElem?_append_left (List.getElem?_eq_some_iff.mp present).1, present]
    · intro op
      have back : ∀ lookForX lookForY getLayer pnt, Longer (if idx = 0 then none
              else getPrevPoint tech ops fuel (idx - 1) lookForX lookForY getLayer pnt)
            (if idx = 0 then none
              else getPrevPoint tech (ops ++ more) fuel (idx - 1) lookForX lookForY getLayer pnt) :=
        fun _ _ _ _ => longer_if _ (longer_refl _) (ih _ _ _ _ _)
      simp only
      cases opOf op.1 with
      | none => exact back _ _ _ _
      | some kind =>
        cases kind
        case kJunction => exact ih _ _ _ _ _
        all_goals first
          | exact back _ _ _ _
          | exact longer_if _ (longer_if _ (longer_refl _) (back _ _ _ _)) (back _ _ _ _)

lemma junctionPoint_front {jct : Nat} {pnt : WirePoint} (more : List Op)
    (shown : junctionPoint tech ops jct = some pnt) :
    junctionPoint tech (ops ++ more) jct = some pnt :=
  longer_getPrevPoint _ _ _ _ _ _ pnt shown

lemma notRule_append {rest : List Op} (notRule : NotRule rest) (notRule' : NotRule more) :
    NotRule (rest ++ more) := by
  cases rest with
  | nil => exact notRule'
  | cons op rest => exact fun op' isFirst => notRule op' isFirst

lemma at_front {i : Nat} {rest : List Op} (inside : i ≤ ops.length) (reads : At ops i rest) :
    At (ops ++ more) i (rest ++ more) := by
  have length : ops.length = i + rest.length := by
    have all : At ops i (rest ++ []) := by rw [append_nil]; exact reads
    have le := at_le all inside
    have ends := at_rest all
    exact (at_end ends le).symm
  intro k
  by_cases within : k < rest.length
  · rw [getElem?_append_left (by omega), getElem?_append_left within, reads]
  · rw [getElem?_append_right (by omega), getElem?_append_right (by omega)]
    congr 1
    omega

/-- What the last op of kind `target` leaves in force. -/
def leftBy {α : Type} (target : WireOp) (read : Int → Option α) (old : Option α) : List Op → Option α
  | [] => old
  | (byte, value) :: rest =>
    leftBy target read (if opOf byte = some target then read value else old) rest

lemma leftBy_append (target : WireOp) (read : Int → Option α) (old : Option α)
    (chunk rest : List Op) : leftBy target read old (chunk ++ rest) =
      leftBy target read (leftBy target read old chunk) rest := by
  induction chunk generalizing old with
  | nil => rfl
  | cons op chunk ih => exact ih _

variable {chunk rules : List Op}

lemma leftBy_other {target : WireOp} (read : Int → Option α) (old : Option α)
    (other : ∀ op ∈ chunk, opOf op.1 ≠ some target) : leftBy target read old chunk = old := by
  induction chunk with
  | nil => rfl
  | cons op chunk ih =>
    rw [leftBy, if_neg (other op mem_cons_self)]
    exact ih fun op' member => other op' (mem_cons_of_mem _ member)

def readColor (value : Int) : Option Nat :=
  if value.toNat % 256 = 0 then none else some (value.toNat % 256)

def readViaColor (value : Int) : Option ViaColor :=
  if value.toNat % 256 = 0 then none
  else some ((value.toNat % 256 &&& 0x30) >>> 4, (value.toNat % 256 &&& 0x0c) >>> 2,
    value.toNat % 256 &&& 0x03)

def quiet (op : Op) : Bool := (opOf op.1).any silentOp

/-- What `ops` change of what a decoder keeps for the next wire. -/
structure Behind (ops : List Op) (d d' : WireDecoder) : Prop where
  color : d'.color = leftBy .kColor readColor d.color ops
  viaColor : d'.viaColor = leftBy .kViaColor readViaColor d.viaColor ops
  path : d'.layer = none ∧ d'.pointCnt = 0 ↔
    (d.layer = none ∧ d.pointCnt = 0) ∧ ops.all quiet = true
  still : ops.all quiet = true →
    d' = { d with idx := d'.idx, color := d'.color, viaColor := d'.viaColor }

lemma behind_refl (d : WireDecoder) : Behind [] d d := ⟨rfl, rfl, by simp, fun _ => rfl⟩

variable {d₁ : WireDecoder}

lemma behind_trans {rest : List Op} {d d' : WireDecoder} (first : Behind chunk d d₁)
    (later : Behind rest d₁ d') : Behind (chunk ++ rest) d d' := by
  constructor
  · rw [leftBy_append, ← first.color, later.color]
  · rw [leftBy_append, ← first.viaColor, later.viaColor]
  · rw [later.path, first.path, all_append, Bool.and_eq_true, and_assoc]
  · intro isQuiet
    rw [all_append, Bool.and_eq_true] at isQuiet
    have same := later.still isQuiet.2
    rw [first.still isQuiet.1] at same
    exact same

structure IsLoud (chunk : List Op) : Prop where
  first : chunk.all quiet = false
  uncoloured : ∀ op ∈ chunk, opOf op.1 ≠ some .kColor ∧ opOf op.1 ≠ some .kViaColor

variable {op : WireOp} {byte : UInt8} {value : Int}

lemma loud_cons (kind : opOf byte = some op) (loud : silentOp op = false)
    (uncoloured : ∀ op ∈ chunk, opOf op.1 ≠ some .kColor ∧ opOf op.1 ≠ some .kViaColor) :
    IsLoud ((byte, value) :: chunk) := by
  constructor
  · simp [quiet, kind, loud]
  · refine forall_mem_cons.mpr ⟨?_, uncoloured⟩
    rw [kind]
    cases op <;> first | exact ⟨by decide, by decide⟩ | cases loud

lemma behind_loud (loud : IsLoud chunk) {d d' : WireDecoder} (sameColor : d'.color = d.color)
    (sameVia : d'.viaColor = d.viaColor) (started : d'.layer = none → d'.pointCnt ≠ 0) :
    Behind chunk d d' := by
  constructor
  · rw [sameColor, leftBy_other _ _ fun op member => (loud.uncoloured op member).1]
  · rw [sameVia, leftBy_other _ _ fun op member => (loud.uncoloured op member).2]
  · rw [loud.first]
    constructor
    · exact fun closed => absurd closed.2 (started closed.1)
    · exact fun closed => nomatch closed.2
  · rw [loud.first]
    exact fun isQuiet => nomatch isQuiet

lemma behind_pass (kind : opOf byte = some op) (isSilent : silentOp op = true) (d : WireDecoder) :
    Behind [(byte, value)] d (d.pass op value) := by
  constructor
  · rw [leftBy, leftBy, kind]
    cases op <;> rfl
  · rw [leftBy, leftBy, kind]
    cases op <;> rfl
  · have isQuiet : [((byte, value) : Op)].all quiet = true := by simp [quiet, kind, isSilent]
    rw [isQuiet, pass_pointCnt]
    cases op <;> simp [pass]
  · intro _
    cases op <;> rfl

/-- From `d` to `d'` the decoder returns the same, whatever wire is appended. -/
def Alike (tech : WireTech) (ops : List Op) (d d' : WireDecoder) : Prop :=
  ∃ els, ∀ more, NotRule more → Decodes tech (ops ++ more) d els d'

/-- The decoder reads `rest` up to its end. -/
def ReadsOn (tech : WireTech) (ops rest : List Op) (d : WireDecoder) : Prop :=
  ∃ d', Alike tech ops d d' ∧ d'.idx = ops.length ∧ Behind rest d d'

variable {elements : List Element}

lemma readsOn_chunk (chunk : List Op) {rest : List Op} {d : WireDecoder}
    (first : Alike tech ops d d₁) (behind : Behind chunk d d₁)
    (decoded : d.decodeFrom tech ops = some elements)
    (later : ∀ elements, d₁.decodeFrom tech ops = some elements → ReadsOn tech ops rest d₁) :
    ReadsOn tech ops (chunk ++ rest) d := by
  rcases first with ⟨els, first⟩
  have own : Decodes tech (ops ++ []) d els d₁ := first [] fun _ isFirst => nomatch isFirst
  rw [append_nil, Decodes, decoded] at own
  rcases map_eq_some_iff.mp own.symm with ⟨elements', decoded', _⟩
  rcases later elements' decoded' with ⟨d', ⟨els', more⟩, atEnd, behind'⟩
  have both : Alike tech ops d d' :=
    ⟨els ++ els', fun more' notRule => decodes_trans (first more' notRule) (more more' notRule)⟩
  exact ⟨d', both, atEnd, behind_trans behind behind'⟩

lemma uncoloured_rules (isRule : RuleOps rules) :
    ∀ op ∈ rules, opOf op.1 ≠ some .kColor ∧ opOf op.1 ≠ some .kViaColor := by
  rcases isRule with rfl | ⟨byte, value, rfl, kind⟩
  · exact fun _ member => nomatch member
  · intro op member
    rw [mem_singleton.mp member, kind]
    exact ⟨by decide, by decide⟩

lemma uncoloured_operand : opOf kOperand.code ≠ some .kColor ∧
    opOf kOperand.code ≠ some .kViaColor := by
  rw [opOf_plain .kOperand]
  exact ⟨by decide, by decide⟩

lemma uncoloured_operands (ext : Option Int) : ∀ op ∈ operandOps ext,
    opOf op.1 ≠ some .kColor ∧ opOf op.1 ≠ some .kViaColor := by
  cases ext with
  | none => exact fun _ member => nomatch member
  | some ext =>
    intro op member
    rw [mem_singleton.mp member]
    exact uncoloured_operand

lemma beside_decodes (kind : opOf byte = some op) (isBeside : besidePoint op = true)
    (tech : WireTech) (d : WireDecoder) :
    ∃ els layer, ∀ ops, ops[d.idx]? = some (byte, value) →
      Decodes tech ops d els { d with idx := d.idx + 1, layer := layer } := by
  cases op
  case kVia => exact ⟨_, _, fun ops present => decodes_via present kind _ rfl⟩
  case kTechVia => exact ⟨_, _, fun ops present => decodes_techVia present kind _ rfl⟩
  case kIterm => exact ⟨_, d.layer, fun ops present => decodes_iterm present kind⟩
  case kBterm => exact ⟨_, d.layer, fun ops present => decodes_bterm present kind⟩
  all_goals cases isBeside

lemma alike_trans {d d₂ : WireDecoder} (first : Alike tech ops d d₁) (rest : Alike tech ops d₁ d₂) :
    Alike tech ops d d₂ := by
  rcases first with ⟨els, first⟩
  rcases rest with ⟨els', rest⟩
  exact ⟨els ++ els', fun more notRule => decodes_trans (first more notRule) (rest more notRule)⟩

lemma alike_rules {rest : List Op} {d : WireDecoder} (isRule : RuleOps rules)
    (inside : d.idx ≤ ops.length) (reads : At ops d.idx (rules ++ rest)) :
    Alike tech ops d { d with idx := d.idx + rules.length } := by
  refine ⟨rules.map fun op =>
    ⟨.rule (hasFlag op.1 WOP_BLOCK_RULE) op.2, d.idx, d.layer, d.color, d.viaColor⟩, fun more _ => ?_⟩
  have reads' : At (ops ++ more) _ _ := at_front inside reads
  rw [append_assoc] at reads'
  exact decodes_rules isRule reads'

lemma alike_same (rules : List Op) {rest : List Op} {d : WireDecoder} {byte : UInt8} {value : Int}
    (kind : opOf byte = some .kColinear) (isRule : RuleOps rules) (notRule : NotRule rest)
    (inside : d.idx ≤ ops.length) (reads : At ops d.idx ((byte, value) :: (rules ++ rest))) :
    Alike tech ops d { d with idx := d.idx + 1 + rules.length, pointCnt := d.pointCnt + 1 } := by
  refine ⟨[⟨InForce.pointKind d.x d.y (if hasFlag byte WOP_EXTENSION then some value else none),
    d.idx, d.layer, d.color, d.viaColor⟩], fun more notRule' => ?_⟩
  have reads' : At (ops ++ more) _ _ := at_front inside reads
  rw [cons_append, append_assoc] at reads'
  exact decodes_same kind isRule (notRule_append notRule notRule') reads'

lemma alike_branch (tech : WireTech) {rest : List Op} {d : WireDecoder} {op : WireOp} {byte : UInt8}
    {value jct : Int} {type : DbWireType} (kind : opOf byte = some op)
    (isBranch : op = .kShort ∨ op = .kVwire) (typed : ∀ old, DbWireType.ofByte byte old = type)
    (inside : d.idx ≤ ops.length)
    (reads : At ops d.idx ((byte, value) :: (kOperand.code, jct) :: (rules ++ rest))) :
    Alike tech ops d (d.started 2 (some value.toNat) type) := by
  rcases isBranch with rfl | rfl
  · refine ⟨[⟨.short type jct, d.idx, some value.toNat, d.color, d.viaColor⟩], fun more _ => ?_⟩
    have reads' : At (ops ++ more) _ _ := at_front inside reads
    exact decodes_short (at_head reads') kind (at_head (at_tail reads')) (typed d.wireType)
  · refine ⟨[⟨.vwire type jct, d.idx, some value.toNat, d.color, d.viaColor⟩], fun more _ => ?_⟩
    have reads' : At (ops ++ more) _ _ := at_front inside reads
    exact decodes_vwire (at_head reads') kind (at_head (at_tail reads')) (typed d.wireType)

lemma alike_later (tech : WireTech) {rest : List Op} {d : WireDecoder} {op : WireOp} {byte : UInt8}
    {value : Int} {ext : Option Int} (kind : opOf byte = some op) (isPoint : op = .kX ∨ op = .kY)
    (hasPoint : d.pointCnt ≠ 0) (extended : hasFlag byte WOP_EXTENSION = ext.isSome)
    (isRule : RuleOps rules) (notRule : NotRule rest) (inside : d.idx ≤ ops.length)
    (reads : At ops d.idx ((byte, value) :: (operandOps ext ++ (rules ++ rest)))) :
    ∃ x y, Alike tech ops d { d with
      idx := d.idx + 1 + (operandOps ext).length + rules.length, x := x, y := y
      pointCnt := d.pointCnt + 1 } := by
  rcases isPoint with rfl | rfl
  · refine ⟨value, d.y, [⟨InForce.pointKind value d.y ext, d.idx, d.layer, d.color, d.viaColor⟩],
      fun more notRule' => ?_⟩
    have reads' : At (ops ++ more) _ _ := at_front inside reads
    rw [cons_append, append_assoc, append_assoc] at reads'
    exact decodes_alongX hasPoint kind extended isRule (notRule_append notRule notRule') reads'
  · refine ⟨d.x, value, [⟨InForce.pointKind d.x value ext, d.idx, d.layer, d.color, d.viaColor⟩],
      fun more notRule' => ?_⟩
    have reads' : At (ops ++ more) _ _ := at_front inside reads
    rw [cons_append, append_assoc, append_assoc] at reads'
    exact decodes_alongY hasPoint kind extended isRule (notRule_append notRule notRule') reads'

variable {n : Nat} {here : Bool} {rest : List Op}

lemma encoded_readsOn (encoded : Encoded n here rest) (d : WireDecoder) (place : d.idx = n)
    (isOpen : here = true ↔ d.pointCnt ≠ 0) (reads : At ops n rest) (inside : n ≤ ops.length)
    (decoded : d.decodeFrom tech ops = some elements) : ReadsOn tech ops rest d := by
  induction encoded generalizing d elements with
  | done =>
    exact ⟨d, ⟨[], fun more _ => decodes_refl tech _ d⟩, place.trans (at_end reads inside),
      behind_refl d⟩
  | @silent n here op byte value rest kind isSilent _ ih =>
    subst place
    have first : Alike tech ops d (d.pass op value) :=
      ⟨[], fun more _ => decodes_pass kind isSilent (at_head (at_front inside reads))⟩
    have isOpen' : here = true ↔ (d.pass op value).pointCnt ≠ 0 := by
      rw [pass_pointCnt]
      exact isOpen
    exact readsOn_chunk [(byte, value)] first (behind_pass kind isSilent d) decoded fun _ =>
      ih _ (pass_idx op value d) isOpen' (at_tail reads) (at_inside reads)
  | @beside n op byte value rest kind isBeside _ ih =>
    subst place
    rcases beside_decodes kind isBeside tech d with ⟨els, layer, decodes⟩
    have first : Alike tech ops d { d with idx := d.idx + 1, layer := layer } :=
      ⟨els, fun more _ => decodes _ (at_head (at_front inside reads))⟩
    have loud : IsLoud [(byte, value)] :=
      loud_cons kind (by cases op <;> first | rfl | cases isBeside) (List.forall_mem_nil _)
    exact readsOn_chunk [(byte, value)] first
      (behind_loud loud rfl rfl fun _ => isOpen.mp rfl) decoded fun _ =>
      ih { d with idx := d.idx + 1, layer := layer } rfl isOpen (at_tail reads) (at_inside reads)
  | @rect n byte deltaX1 deltaY1 deltaX2 deltaY2 rest kind _ ih =>
    subst place
    have first : Alike tech ops d { d with idx := d.idx + 4 } := by
      refine ⟨[d.element d.idx (.rect deltaX1 deltaY1 deltaX2 deltaY2)], fun more _ => ?_⟩
      have reads' : At (ops ++ more) _ _ := at_front inside reads
      exact decodes_rect (at_head reads') kind (reads' 1) (reads' 2) (reads' 3)
    have loud : IsLoud [(byte, deltaX1), (kOperand.code, deltaY1),
        (kOperand.code, deltaX2), (kOperand.code, deltaY2)] := by
      apply loud_cons kind rfl
      intro op member
      simp only [mem_cons, not_mem_nil, or_false] at member
      rcases member with rfl | rfl | rfl <;> exact uncoloured_operand
    have reads' : At ops d.idx ([(byte, deltaX1), (kOperand.code, deltaY1),
        (kOperand.code, deltaX2), (kOperand.code, deltaY2)] ++ rest) := reads
    exact readsOn_chunk _ first (behind_loud loud rfl rfl fun _ => isOpen.mp rfl) decoded fun _ =>
      ih { d with idx := d.idx + 4 } rfl isOpen (at_rest reads') (at_le reads' inside)
  | @path n here byte value type rules rest kind typed isRule _ ih =>
    subst place
    have start : Alike tech ops d (d.started 1 (some value.toNat) type) :=
      ⟨[⟨.path type, d.idx, some value.toNat, d.color, d.viaColor⟩], fun more _ =>
        decodes_path (at_head (at_front inside reads)) kind (typed d.wireType)⟩
    have first := alike_trans start (alike_rules isRule (at_inside reads) (at_tail reads))
    have loud : IsLoud ((byte, value) :: rules) := loud_cons kind rfl (uncoloured_rules isRule)
    have closed : false = true ↔ (d.started 1 (some value.toNat) type).pointCnt ≠ 0 := by
      simp [started]
    exact readsOn_chunk ((byte, value) :: rules) first
      (behind_loud loud rfl rfl fun none => absurd none (some_ne_none _)) decoded fun _ =>
      ih { d.started 1 (some value.toNat) type with idx := d.idx + 1 + rules.length } rfl closed
        (at_rest (at_tail reads)) (at_le (at_tail reads) (at_inside reads))
  | @branch n here op byte value jct type rules rest kind isBranch typed isRule _ ih =>
    subst place
    have inside' := at_inside (at_tail reads)
    have first := alike_trans (alike_branch tech kind isBranch typed inside reads)
      (alike_rules isRule inside' (at_tail (at_tail reads)))
    have loud : IsLoud ((byte, value) :: (kOperand.code, jct) :: rules) := by
      apply loud_cons kind (by rcases isBranch with rfl | rfl <;> rfl)
      exact forall_mem_cons.mpr ⟨uncoloured_operand, uncoloured_rules isRule⟩
    have closed : false = true ↔ (d.started 2 (some value.toNat) type).pointCnt ≠ 0 := by
      simp [started]
    exact readsOn_chunk ((byte, value) :: (kOperand.code, jct) :: rules) first
      (behind_loud loud rfl rfl fun none => absurd none (some_ne_none _)) decoded fun _ =>
      ih { d.started 2 (some value.toNat) type with idx := d.idx + 2 + rules.length } rfl closed
        (at_rest (at_tail (at_tail reads))) (at_le (at_tail (at_tail reads)) inside')
  | @junction n jct here byte flags value type rules rest kind earlier typed isRule point behind ih =>
    subst place
    have below := at_inside reads
    rcases stepOp_exists decoded (by omega) with ⟨d', found, step⟩
    rw [stepOp, nextOp_eq (at_head reads)] at step
    simp only [bind_eq_bind, bind_some, kind, Int.toNat_natCast] at step
    rcases bind_eq_some_iff.mp step with ⟨pnt, shown, _⟩
    have inside' := at_le (at_tail reads) below
    have start : Alike tech ops d { d.started 1 pnt.layer type with x := pnt.x, y := pnt.y } :=
      ⟨[⟨.junction type jct, d.idx, pnt.layer, d.color, d.viaColor⟩], fun more _ =>
        decodes_junction (at_head (at_front inside reads)) kind (typed d.wireType)
          (junctionPoint_front more shown)⟩
    have second := alike_trans start (alike_rules isRule below (at_tail reads))
    have first := alike_trans second (alike_same [] point (.inl rfl)
      (encoded_notRule behind) inside' (at_rest (at_tail reads)))
    have loud : IsLoud ((byte, (jct : Int)) :: (rules ++ [(flags, value)])) := by
      apply loud_cons kind rfl
      refine forall_mem_append.mpr ⟨uncoloured_rules isRule, ?_⟩
      intro op member
      rw [mem_singleton.mp member, point]
      exact ⟨by decide, by decide⟩
    have split : (byte, (jct : Int)) :: (rules ++ (flags, value) :: rest) =
        ((byte, (jct : Int)) :: (rules ++ [(flags, value)])) ++ rest := by simp
    rw [split]
    exact readsOn_chunk _ first (behind_loud loud rfl rfl fun _ => Nat.one_ne_zero) decoded fun _ =>
      ih { d.started 1 pnt.layer type with
        idx := d.idx + 1 + rules.length + 1, x := pnt.x, y := pnt.y, pointCnt := 1 } rfl (by simp)
        (at_tail (at_rest (at_tail reads))) (at_inside (at_rest (at_tail reads)))
  | @first n byteX byteY x y ext rest kindX kindY extended _ ih =>
    subst place
    have noPoint : d.pointCnt = 0 := by simpa using isOpen
    have first : Alike tech ops d
        { d with idx := d.idx + 2 + (operandOps ext).length, x := x, y := y, pointCnt := 1 } := by
      refine ⟨[⟨InForce.pointKind x y ext, d.idx + 1, d.layer, d.color, d.viaColor⟩],
        fun more _ => ?_⟩
      have reads' : At (ops ++ more) _ _ := at_front inside reads
      rw [cons_append, cons_append, append_assoc] at reads'
      exact decodes_first noPoint kindX extended reads'
    have loud : IsLoud ((byteX, x) :: (byteY, y) :: operandOps ext) := by
      apply loud_cons kindX rfl
      refine forall_mem_cons.mpr ⟨?_, uncoloured_operands ext⟩
      rw [kindY]
      exact ⟨by decide, by decide⟩
    exact readsOn_chunk ((byteX, x) :: (byteY, y) :: operandOps ext) first
      (behind_loud loud rfl rfl fun _ => Nat.one_ne_zero) decoded fun _ =>
      ih { d with idx := d.idx + 2 + (operandOps ext).length, x := x, y := y, pointCnt := 1 } rfl
        (by simp) (at_rest (at_tail (at_tail reads)))
        (at_le (at_tail (at_tail reads)) (at_inside (at_tail reads)))
  | @later n op byte value ext rules rest kind isPoint extended isRule behind ih =>
    subst place
    have loud : IsLoud ((byte, value) :: (operandOps ext ++ rules)) := by
      apply loud_cons kind (by rcases isPoint with rfl | rfl <;> rfl)
      exact forall_mem_append.mpr ⟨uncoloured_operands ext, uncoloured_rules isRule⟩
    have split : (byte, value) :: (operandOps ext ++ (rules ++ rest)) =
        ((byte, value) :: (operandOps ext ++ rules)) ++ rest := by simp
    rcases alike_later tech kind isPoint (isOpen.mp rfl) extended isRule
      (encoded_notRule behind) inside reads with ⟨x, y, first⟩
    have inside' := at_le (at_rest (at_tail reads)) (at_le (at_tail reads) (at_inside reads))
    rw [split]
    exact readsOn_chunk _ first (behind_loud loud rfl rfl fun _ => Nat.succ_ne_zero _) decoded fun _ =>
      ih { d with
        idx := d.idx + 1 + (operandOps ext).length + rules.length, x := x, y := y
        pointCnt := d.pointCnt + 1 } rfl (by simp) (at_rest (at_rest (at_tail reads))) inside'
  | @colinear n byte value rules rest kind isRule behind ih =>
    subst place
    have loud : IsLoud ((byte, value) :: rules) := loud_cons kind rfl (uncoloured_rules isRule)
    exact readsOn_chunk ((byte, value) :: rules)
      (alike_same rules kind isRule (encoded_notRule behind) inside reads)
      (behind_loud loud rfl rfl fun _ => Nat.succ_ne_zero _) decoded fun _ =>
      ih { d with idx := d.idx + 1 + rules.length, pointCnt := d.pointCnt + 1 } rfl (by simp)
        (at_rest (at_tail reads)) (at_le (at_tail reads) (at_inside reads))

lemma decodeFrom_congr {d' : WireDecoder} (same : d.idx = d'.idx)
    (step : d.stepOp tech ops = d'.stepOp tech ops) :
    d.decodeFrom tech ops = d'.decodeFrom tech ops := by
  by_cases atEnd : d.idx = ops.length
  · rw [decodeFrom_end atEnd, decodeFrom_end (same ▸ atEnd)]
  · rw [decodeFrom, decodeFrom, elements, elements, next, next, if_neg atEnd,
      if_neg (same ▸ atEnd), step]

lemma decodeFrom_both {p q p' q' : WireDecoder} {els : List Element}
    (first : Decodes tech ops p els p') (second : Decodes tech ops q els q')
    (same : q'.decodeFrom tech ops = p'.decodeFrom tech ops) :
    q.decodeFrom tech ops = p.decodeFrom tech ops := by
  rw [first, second, same]

lemma starts_alike {els : List Element} {rest : List Op} {count : Nat}
    {layer : Option Nat} {type : DbWireType} (p q : WireDecoder) (sameIdx : q.idx = p.idx)
    (sameColor : q.color = p.color) (sameVia : q.viaColor = p.viaColor) (isRule : RuleOps rules)
    (reads : At ops (p.idx + count) (rules ++ rest))
    (first : Decodes tech ops p els (p.started count layer type))
    (first' : Decodes tech ops q els (q.started count layer type))
    (same : ∀ p' : WireDecoder, p'.idx = p.idx + count + rules.length → p'.pointCnt = 0 → ∀ x y,
      ({ p' with x := x, y := y } : WireDecoder).decodeFrom tech ops = p'.decodeFrom tech ops) :
    q.decodeFrom tech ops = p.decodeFrom tech ops := by
  have second : Decodes tech ops (p.started count layer type) _ _ := decodes_rules isRule reads
  have start : (q.started count layer type).idx = p.idx + count := congrArg (· + count) sameIdx
  have reads' : At ops (q.started count layer type).idx (rules ++ rest) := by
    rw [start]
    exact reads
  have second' : Decodes tech ops (q.started count layer type) _ _ := decodes_rules isRule reads'
  have place : (q.started count layer type).idx = (p.started count layer type).idx :=
    congrArg (· + count) sameIdx
  have color : (q.started count layer type).color = (p.started count layer type).color := sameColor
  have viaColor : (q.started count layer type).viaColor = (p.started count layer type).viaColor :=
    sameVia
  have layers : (q.started count layer type).layer = (p.started count layer type).layer := rfl
  rw [place, color, viaColor, layers] at second'
  apply decodeFrom_both (decodes_trans first second) (decodes_trans first' second')
  exact same { p.started count layer type with
    idx := (p.started count layer type).idx + rules.length } rfl rfl q.x q.y

lemma stale_place (encoded : Encoded n here rest) (closed : here = false) (p : WireDecoder)
    (x y : Int) (place : p.idx = n) (noPoint : p.pointCnt = 0) (reads : At ops n rest)
    (inside : n ≤ ops.length) :
    ({ p with x := x, y := y } : WireDecoder).decodeFrom tech ops = p.decodeFrom tech ops := by
  induction encoded generalizing p x y with
  | done =>
    have atEnd : p.idx = ops.length := place.trans (at_end reads inside)
    rw [decodeFrom_end atEnd, decodeFrom_end (d := { p with x := x, y := y }) atEnd]
  | @silent n here op byte value rest kind isSilent more ih =>
    subst place
    have passed : ({ p with x := x, y := y } : WireDecoder).pass op value =
        { p.pass op value with x := x, y := y } := by cases op <;> rfl
    apply decodeFrom_both (decodes_pass kind isSilent (at_head reads))
      (decodes_pass (d := { p with x := x, y := y }) kind isSilent (at_head reads))
    rw [passed]
    exact ih closed _ x y (pass_idx op value p) ((pass_pointCnt op value p).trans noPoint)
      (at_tail reads) (at_inside reads)
  | @path n here byte value type rules rest kind typed isRule more ih =>
    subst place
    have inside' : p.idx + ((byte, value) :: rules).length ≤ ops.length := at_le reads inside
    apply starts_alike p { p with x := x, y := y } rfl rfl rfl isRule (at_tail reads)
      (decodes_path (at_head reads) kind (typed p.wireType))
      (decodes_path (d := { p with x := x, y := y }) (at_head reads) kind (typed p.wireType))
    intro p' place' noPoint' x y
    exact ih rfl p' x y place' noPoint' (at_rest (at_tail reads)) (by
      rw [length_cons] at inside'
      omega)
  | @branch n here op byte value jct type rules rest kind isBranch typed isRule more ih =>
    subst place
    have inside' : p.idx + ((byte, value) :: (kOperand.code, jct) :: rules).length ≤
        ops.length := at_le reads inside
    have later : ∀ p' : WireDecoder, p'.idx = p.idx + 2 + rules.length → p'.pointCnt = 0 →
        ∀ x y, ({ p' with x := x, y := y } : WireDecoder).decodeFrom tech ops =
          p'.decodeFrom tech ops := by
      intro p' place' noPoint' x y
      exact ih rfl p' x y place' noPoint' (at_rest (at_tail (at_tail reads))) (by
        rw [length_cons, length_cons] at inside'
        omega)
    have behind : At ops (p.idx + 2) (rules ++ rest) := at_tail (at_tail reads)
    rcases isBranch with rfl | rfl
    · exact starts_alike p { p with x := x, y := y } rfl rfl rfl isRule behind
        (decodes_short (at_head reads) kind (at_head (at_tail reads)) (typed p.wireType))
        (decodes_short (d := { p with x := x, y := y }) (at_head reads) kind
          (at_head (at_tail reads)) (typed p.wireType)) later
    · exact starts_alike p { p with x := x, y := y } rfl rfl rfl isRule behind
        (decodes_vwire (at_head reads) kind (at_head (at_tail reads)) (typed p.wireType))
        (decodes_vwire (d := { p with x := x, y := y }) (at_head reads) kind
          (at_head (at_tail reads)) (typed p.wireType)) later
  | junction kind earlier typed isRule point more ih =>
    subst place
    apply decodeFrom_congr
    · rfl
    · rw [stepOp, stepOp, nextOp_eq (at_head reads),
        nextOp_eq (d := { p with x := x, y := y }) (at_head reads)]
      simp only [bind_eq_bind, bind_some, kind]
  | first kindX kindY extended more ih =>
    subst place
    have second := at_head (at_tail reads)
    apply decodeFrom_congr
    · rfl
    · rw [stepOp, stepOp, nextOp_eq (at_head reads),
        nextOp_eq (d := { p with x := x, y := y }) (at_head reads)]
      simp only [bind_eq_bind, bind_some, kindX, noPoint, if_true]
      rw [nextOp_eq (d := { p with idx := p.idx + 1, pointCnt := 0 }) second,
        nextOp_eq (d := { p with idx := p.idx + 1, pointCnt := 0, x := x, y := y }) second]
      rfl
  | beside | rect | later | colinear => cases closed

def pathStart (op : WireOp) : Bool :=
  op = .kPath || op = .kShort || op = .kJunction || op = .kVwire

def startsPath : List Op → Bool
  | [] => true
  | (byte, _) :: rest =>
    match opOf byte with
    | none => false
    | some op => if silentOp op then startsPath rest else pathStart op

lemma startsPath_silent {rest : List Op} (kind : opOf byte = some op)
    (isSilent : silentOp op = true) :
    startsPath ((byte, value) :: rest) = startsPath rest := by
  rw [startsPath, kind]
  simp only [isSilent, if_true]

lemma stale_path (encoded : Encoded n here rest) (closed : here = false)
    (begins : startsPath rest = true) (p q : WireDecoder) (place : p.idx = n)
    (sameIdx : q.idx = p.idx) (sameColor : q.color = p.color) (sameVia : q.viaColor = p.viaColor)
    (reads : At ops n rest) (inside : n ≤ ops.length) :
    q.decodeFrom tech ops = p.decodeFrom tech ops := by
  induction encoded generalizing p q with
  | done =>
    have atEnd : p.idx = ops.length := place.trans (at_end reads inside)
    rw [decodeFrom_end atEnd, decodeFrom_end (sameIdx.trans atEnd)]
  | @silent n here op byte value rest kind isSilent more ih =>
    subst place
    rw [startsPath_silent kind isSilent] at begins
    have present := at_head reads
    apply decodeFrom_both (decodes_pass kind isSilent present)
      (decodes_pass kind isSilent (sameIdx ▸ present))
    apply ih closed begins _ _ (pass_idx op value p) _ _ _ (at_tail reads) (at_inside reads)
    · rw [pass_idx, pass_idx, sameIdx]
    · cases op <;> first | exact sameColor | rfl
    · cases op <;> first | exact sameVia | rfl
  | @path n here byte value type rules rest kind typed isRule more ih =>
    subst place
    have present := at_head reads
    have inside' : p.idx + ((byte, value) :: rules).length ≤ ops.length := at_le reads inside
    have second : Decodes tech ops q _ _ :=
      decodes_path (sameIdx ▸ present) kind (typed q.wireType)
    rw [sameIdx, sameColor, sameVia] at second
    apply starts_alike p q sameIdx sameColor sameVia isRule (at_tail reads)
      (decodes_path present kind (typed p.wireType)) second
    intro p' place' noPoint' x y
    exact stale_place more rfl p' x y place' noPoint' (at_rest (at_tail reads)) (by
      rw [length_cons] at inside'
      omega)
  | @branch n here op byte value jct type rules rest kind isBranch typed isRule more ih =>
    subst place
    have present := at_head reads
    have operand := at_head (at_tail reads)
    have inside' : p.idx + ((byte, value) :: (kOperand.code, jct) :: rules).length ≤
        ops.length := at_le reads inside
    have later : ∀ p' : WireDecoder, p'.idx = p.idx + 2 + rules.length → p'.pointCnt = 0 →
        ∀ x y, ({ p' with x := x, y := y } : WireDecoder).decodeFrom tech ops =
          p'.decodeFrom tech ops := by
      intro p' place' noPoint' x y
      exact stale_place more rfl p' x y place' noPoint' (at_rest (at_tail (at_tail reads))) (by
        rw [length_cons, length_cons] at inside'
        omega)
    have behind : At ops (p.idx + 2) (rules ++ rest) := at_tail (at_tail reads)
    rcases isBranch with rfl | rfl
    · have second : Decodes tech ops q _ _ :=
        decodes_short (sameIdx ▸ present) kind (sameIdx ▸ operand) (typed q.wireType)
      rw [sameIdx, sameColor, sameVia] at second
      exact starts_alike p q sameIdx sameColor sameVia isRule behind
        (decodes_short present kind operand (typed p.wireType)) second later
    · have second : Decodes tech ops q _ _ :=
        decodes_vwire (sameIdx ▸ present) kind (sameIdx ▸ operand) (typed q.wireType)
      rw [sameIdx, sameColor, sameVia] at second
      exact starts_alike p q sameIdx sameColor sameVia isRule behind
        (decodes_vwire present kind operand (typed p.wireType)) second later
  | junction kind earlier typed isRule point more ih =>
    subst place
    have present := at_head reads
    apply decodeFrom_congr sameIdx
    rw [stepOp, stepOp, nextOp_eq present, nextOp_eq (sameIdx ▸ present)]
    simp only [bind_eq_bind, bind_some, kind, typed, element, sameIdx, sameColor,
      sameVia]
  | first kindX kindY extended more ih =>
    rw [startsPath, kindX] at begins
    cases begins
  | beside | rect | later | colinear => cases closed

lemma first_element {byte : UInt8} {value : Int} {op : WireOp}
    (present : ops[d.idx]? = some (byte, value)) (kind : opOf byte = some op)
    (loud : silentOp op = false) (decoded : d.decodeFrom tech ops = some elements) :
    ∃ d' element rest, d.stepOp tech ops = some (d', some element) ∧ elements = element :: rest ∧
      element.color = d.color ∧ element.viaColor = d.viaColor := by
  have below := (List.getElem?_eq_some_iff.mp present).1
  rcases stepOp_exists decoded (by omega) with ⟨d', found, step⟩
  have seen := stepOp_found present kind loud step
  cases found with
  | none => cases seen
  | some element =>
    have own := recolors_stepOp tech d.color d.viaColor d (loud_uncoloured present kind loud)
    have plain : d.recolor d.color d.viaColor = d := rfl
    rw [Recolors, plain, step] at own
    have sameElement := Option.some.inj (congrArg Prod.snd (Option.some.inj own))
    rw [decodes_found step] at decoded
    rcases map_eq_some_iff.mp decoded with ⟨rest, _, same⟩
    exact ⟨d', element, rest, step, same.symm, congrArg Element.color sameElement,
      congrArg Element.viaColor sameElement⟩

lemma setsFirst_silent {op target : WireOp} {byte : UInt8} {value : Int} {rest : List Op}
    (kind : opOf byte = some op) (isSilent : silentOp op = true) :
    setsFirst target ((byte, value) :: rest) = (decide (op = target) || setsFirst target rest) := by
  rw [setsFirst, kind]
  simp only [isSilent, if_true]
  by_cases same : op = target <;> simp [same]

lemma first_point {q q' : WireDecoder} {byteX byteY : UInt8} {x y : Int} {ext : Option Int}
    {element : Element} {rest : List Op} (kindX : opOf byteX = some .kX)
    (extended : hasFlag byteY WOP_EXTENSION = ext.isSome)
    (reads : At ops q.idx ((byteX, x) :: (byteY, y) :: (operandOps ext ++ rest)))
    (step : q.stepOp tech ops = some (q', some element))
    (decoded : q.decodeFrom tech ops = some (element :: elements))
    (jctId : element.jctId = q.idx + 1) (layer : element.layer = none) :
    q.layer = none ∧ q.pointCnt = 0 := by
  by_cases noPoint : q.pointCnt = 0
  · rw [decodes_first noPoint kindX extended reads] at decoded
    rcases map_eq_some_iff.mp decoded with ⟨tail, _, same⟩
    rw [← (List.cons.inj same).1] at layer
    exact ⟨layer, noPoint⟩
  · rw [stepOp, nextOp_eq (at_head reads)] at step
    simp only [bind_eq_bind, bind_some, kindX, if_neg noPoint] at step
    have early : element.jctId = q.idx := by
      split at step
      · rcases nextOp_bind step with ⟨_, _, _, step⟩
        cases step
        rfl
      · cases step
        rfl
    omega

end WireDecoder

section Second

variable {blocks : AppendBlocks} {foreign : Bool} {sz : Nat} {src all : List Op}

open WireDecoder

lemma loud_heads (joined : Joined blocks foreign sz src all) {d q : WireDecoder} {byte : UInt8}
    {value : Int} {op : WireOp} (moved : q.idx = sz + d.idx)
    (present : src[d.idx]? = some (byte, value)) (kind : opOf byte = some op)
    (loud : silentOp op = false) {elements : List Element}
    (decoded : d.decodeFrom blocks.src src = some elements)
    (decoded' : q.decodeFrom blocks.dst all = some (elements.map (Element.moved sz))) :
    ∃ q' element rest, q.stepOp blocks.dst all = some (q', some (element.moved sz)) ∧
      elements = element :: rest ∧ q.color = d.color ∧ q.viaColor = d.viaColor := by
  have fixed : fixOp blocks foreign sz (byte, value) =
      (byte, (fixOp blocks foreign sz (byte, value)).2) := Prod.ext (fixOp_opcode _) rfl
  have present' : all[q.idx]? = some (byte, (fixOp blocks foreign sz (byte, value)).2) := by
    rw [moved, joined_get joined, present, map_some, ← fixed]
  rcases first_element present kind loud decoded with ⟨d', e, rest, step, list, color, viaColor⟩
  rcases first_element present' kind loud decoded' with
    ⟨q', e', rest', step', list', color', viaColor'⟩
  rw [list, map_cons] at list'
  rw [← (List.cons.inj list').1] at step' color' viaColor'
  exact ⟨q', e, rest, step', list, color'.symm.trans color, viaColor'.symm.trans viaColor⟩

lemma second_agrees (joined : Joined blocks foreign sz src all) {n : Nat} {here : Bool}
    {rest : List Op} (encoded : Encoded n here rest) (closed : here = false) (d q : WireDecoder)
    (place : d.idx = n) (noPoint : d.pointCnt = 0) (noLayer : d.layer = none)
    (moved : q.idx = sz + d.idx) (reads : At src n rest) {elements : List Element}
    (decoded : d.decodeFrom blocks.src src = some elements)
    (decoded' : q.decodeFrom blocks.dst all = some (elements.map (Element.moved sz))) :
    (q.color = d.color ∨ setsFirst .kColor rest = true) ∧
      (q.viaColor = d.viaColor ∨ setsFirst .kViaColor rest = true) ∧
      (startsPath rest = true ∨ q.layer = none ∧ q.pointCnt = 0) := by
  induction encoded generalizing d q with
  | done => exact ⟨.inr rfl, .inr rfl, .inl rfl⟩
  | @silent n here op byte value rest kind isSilent more ih =>
    subst place
    have plainOp : op ≠ .kShort ∧ op ≠ .kJunction ∧ op ≠ .kVwire ∧ op ≠ .kVia := by
      cases op <;> first | decide | cases isSilent
    have present' := at_head (joined_at joined reads)
    rw [fixOp_plain kind plainOp, ← moved] at present'
    rw [decodeFrom_silent (decodes_pass kind isSilent (at_head reads))] at decoded
    rw [decodeFrom_silent (decodes_pass kind isSilent present')] at decoded'
    have moved' : (q.pass op value).idx = sz + (d.pass op value).idx := by
      rw [pass_idx, pass_idx, moved, Nat.add_assoc]
    have later := ih closed (d.pass op value) (q.pass op value) (pass_idx op value d)
      ((pass_pointCnt op value d).trans noPoint) (by cases op <;> exact noLayer) moved'
      (at_tail reads) decoded decoded'
    rw [setsFirst_silent kind isSilent, setsFirst_silent kind isSilent,
      startsPath_silent kind isSilent]
    cases op
    case kProperty => exact later
    case kNop => exact later
    case kColor => exact ⟨.inr rfl, later.2⟩
    case kViaColor => exact ⟨later.1, .inr rfl, later.2.2⟩
    all_goals cases isSilent
  | path kind =>
    subst place
    rcases loud_heads joined moved (at_head reads) kind rfl decoded decoded' with
      ⟨_, _, _, _, _, color, viaColor⟩
    exact ⟨.inl color, .inl viaColor, .inl (by rw [startsPath, kind]; rfl)⟩
  | branch kind isBranch =>
    subst place
    rcases isBranch with rfl | rfl
    · rcases loud_heads joined moved (at_head reads) kind rfl decoded decoded' with
        ⟨_, _, _, _, _, color, viaColor⟩
      exact ⟨.inl color, .inl viaColor, .inl (by rw [startsPath, kind]; rfl)⟩
    · rcases loud_heads joined moved (at_head reads) kind rfl decoded decoded' with
        ⟨_, _, _, _, _, color, viaColor⟩
      exact ⟨.inl color, .inl viaColor, .inl (by rw [startsPath, kind]; rfl)⟩
  | junction kind =>
    subst place
    rcases loud_heads joined moved (at_head reads) kind rfl decoded decoded' with
      ⟨_, _, _, _, _, color, viaColor⟩
    exact ⟨.inl color, .inl viaColor, .inl (by rw [startsPath, kind]; rfl)⟩
  | first kindX kindY extended more ih =>
    subst place
    rcases loud_heads joined moved (at_head reads) kindX rfl decoded decoded' with
      ⟨q', element, tail, step, list, color, viaColor⟩
    have reads' := joined_at joined reads
    rw [map_cons, map_cons, map_append, fixOp_operands,
      fixOp_plain kindX (by decide), fixOp_plain kindY (by decide), ← moved] at reads'
    rw [list] at decoded decoded'
    have own := decoded
    rw [decodes_first noPoint kindX extended reads] at own
    rcases map_eq_some_iff.mp own with ⟨_, _, same⟩
    have first := (List.cons.inj same).1
    have jctId : (element.moved sz).jctId = q.idx + 1 := by
      rw [← first, moved]
      rfl
    have layer : (element.moved sz).layer = none := by
      rw [← first]
      exact noLayer
    exact ⟨.inl color, .inl viaColor,
      .inr (first_point kindX extended reads' step decoded' jctId layer)⟩
  | beside | rect | later | colinear => cases closed

lemma plain_silent {op : WireOp} (isSilent : silentOp op = true) :
    op ≠ .kShort ∧ op ≠ .kJunction ∧ op ≠ .kVwire ∧ op ≠ .kVia := by
  cases op <;> first | decide | cases isSilent

lemma typed_of_code {fixed : Op} {byte : UInt8} (code : fixed.1 = byte) : ∃ value, fixed = (byte, value) :=
  ⟨fixed.2, Prod.ext code rfl⟩

lemma encoded_fixOp {n : Nat} {here : Bool} {rest : List Op} (encoded : Encoded n here rest) :
    Encoded (sz + n) here (rest.map (fixOp blocks foreign sz)) := by
  induction encoded with
  | done => exact .done _ _
  | @silent n here op byte value rest kind isSilent more ih =>
    rw [map_cons, fixOp_plain kind (plain_silent isSilent)]
    exact .silent kind isSilent ih
  | @beside n op byte value rest kind isBeside more ih =>
    have code : (fixOp blocks foreign sz (byte, value)).1 = byte := fixOp_opcode (byte, value)
    rcases typed_of_code code with ⟨value', fixed⟩
    rw [map_cons, fixed]
    exact .beside kind isBeside ih
  | rect kind _ ih =>
    simp only [map_cons, fixOp_operand]
    rw [fixOp_plain kind (by decide)]
    exact .rect kind ih
  | path kind typed isRule _ ih =>
    rw [map_cons, map_append, fixOp_rules isRule, fixOp_plain kind (by decide)]
    simp only [← Nat.add_assoc] at ih
    exact .path kind typed isRule ih
  | branch kind isBranch typed isRule _ ih =>
    rw [map_cons, map_cons, map_append, fixOp_rules isRule, fixOp_operand,
      fixOp_branch kind isBranch]
    simp only [← Nat.add_assoc] at ih
    exact .branch kind isBranch typed isRule ih
  | @junction n jct here byte flags value type rules rest kind earlier typed isRule point more ih =>
    have target : (jct : Int) + (sz : Int) = ((sz + jct : Nat) : Int) := by omega
    have fixed : fixOp blocks foreign sz (byte, (jct : Int)) = (byte, ((sz + jct : Nat) : Int)) := by
      rw [fixOp_junction kind, ← target]
    rw [map_cons, map_append, map_cons, fixOp_rules isRule, fixed,
      fixOp_plain point (by decide)]
    simp only [← Nat.add_assoc] at ih
    exact .junction kind (Nat.add_lt_add_left earlier sz) typed isRule point ih
  | first kindX kindY extended _ ih =>
    rw [map_cons, map_cons, map_append, fixOp_operands,
      fixOp_plain kindX (by decide), fixOp_plain kindY (by decide)]
    simp only [← Nat.add_assoc] at ih
    exact .first kindX kindY extended ih
  | @later n op byte value ext rules rest kind isPoint extended isRule more ih =>
    have plainOp : op ≠ .kShort ∧ op ≠ .kJunction ∧ op ≠ .kVwire ∧ op ≠ .kVia := by
      rcases isPoint with rfl | rfl <;> decide
    rw [map_cons, map_append, map_append, fixOp_operands, fixOp_rules isRule,
      fixOp_plain kind plainOp]
    simp only [← Nat.add_assoc] at ih
    exact .later kind isPoint extended isRule ih
  | colinear kind isRule _ ih =>
    rw [map_cons, map_append, fixOp_rules isRule, fixOp_plain kind (by decide)]
    simp only [← Nat.add_assoc] at ih
    exact .colinear kind isRule ih

end Second

end OpenRoad.Odb
