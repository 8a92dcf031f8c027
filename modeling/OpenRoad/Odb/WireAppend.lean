import OpenRoad.Odb.WireGrammar

/-! `dbWire::append`, and what a decoder makes of the joined wire. -/

namespace OpenRoad.Odb

open List WireDecoder Option WireOp

/-- The blocks of the two wires, as far as wires refer to them. -/
structure AppendBlocks where
  dst : WireTech
  src : WireTech
  /-- `src_block != dst_block` -/
  differ : Bool
  /-- The via of the destination with the name of a via of the source, copied there if needed. -/
  dstVia : Nat → Nat
  sameTech : dst.techViaTop = src.techViaTop ∧ dst.techViaBottom = src.techViaBottom
  sameBlock : differ = false → dst = src

def isTerm (op : Op) : Bool := opOf op.1 = some .kIterm || opOf op.1 = some .kBterm

def fixVia (blocks : AppendBlocks) (foreign : Bool) (op : Op) : Op :=
  if foreign && opOf op.1 = some .kVia then (op.1, (blocks.dstVia op.2.toNat : Int)) else op

def fixJunction (sz : Nat) (op : Op) : Op :=
  if opOf op.1 = some .kShort || opOf op.1 = some .kJunction || opOf op.1 = some .kVwire then
    (op.1, op.2 + sz)
  else op

def fixOp (blocks : AppendBlocks) (foreign : Bool) (sz : Nat) (op : Op) : Op :=
  fixJunction sz (fixVia blocks foreign op)

/-- `append`; a wire with terminals of another block is left out. -/
def append (blocks : AppendBlocks) (singleSegmentWire : Bool) (dst src : List Op) : List Op :=
  let foreign := blocks.differ && !singleSegmentWire
  if foreign && src.any isTerm then dst
  else dst ++ src.map (fixOp blocks foreign dst.length)

def ElementKind.moved (sz : Nat) : ElementKind → ElementKind
  | .short type jct => .short type (jct + sz)
  | .junction type jct => .junction type (jct + sz)
  | .vwire type jct => .vwire type (jct + sz)
  | kind => kind

/-- The element on a wire that is `sz` ops longer in front. -/
def Element.moved (sz : Nat) (element : Element) : Element :=
  { element with kind := element.kind.moved sz, jctId := sz + element.jctId }

def WireDecoder.moved (sz : Nat) (d : WireDecoder) : WireDecoder := { d with idx := sz + d.idx }

def viaExit (tech : WireTech) (op : Op) : Nat :=
  if hasFlag op.1 WOP_VIA_EXIT_TOP then tech.viaTop op.2.toNat else tech.viaBottom op.2.toNat

/-- The fix ups leave the meaning of the op as it is, but for a junction id. -/
def Keeps (blocks : AppendBlocks) (foreign : Bool) (sz : Nat) (op : Op) : Prop :=
  match opOf op.1 with
  | some .kShort | some .kVwire => sz = 0
  | some .kVia =>
    (fixVia blocks foreign op).2 = op.2 ∧ viaExit blocks.dst op = viaExit blocks.src op
  | _ => True

instance (blocks : AppendBlocks) (foreign : Bool) (sz : Nat) (op : Op) :
    Decidable (Keeps blocks foreign sz op) := by
  unfold Keeps
  split <;> infer_instance

section Moved

variable {blocks : AppendBlocks} {foreign : Bool} {sz : Nat}

lemma fixOp_opcode (op : Op) : (fixOp blocks foreign sz op).1 = op.1 := by
  rw [fixOp, fixJunction, fixVia]
  split <;> split <;> rfl

variable {op : Op} {kind : WireOp}

lemma fixOp_plain (isKind : opOf op.1 = some kind)
    (plain : kind ≠ .kShort ∧ kind ≠ .kJunction ∧ kind ≠ .kVwire ∧ kind ≠ .kVia) :
    fixOp blocks foreign sz op = op := by
  simp [fixOp, fixJunction, fixVia, isKind, plain.1, plain.2.1, plain.2.2.1, plain.2.2.2]

lemma fixOp_junction {op : Op} (isKind : opOf op.1 = some .kJunction) :
    fixOp blocks foreign sz op = (op.1, op.2 + sz) := by
  simp [fixOp, fixJunction, fixVia, isKind]

lemma fixOp_branch (isKind : opOf op.1 = some kind) (isBranch : kind = .kShort ∨ kind = .kVwire) :
    fixOp blocks foreign sz op = (op.1, op.2 + sz) := by
  rcases isBranch with rfl | rfl <;> simp [fixOp, fixJunction, fixVia, isKind]

lemma fixOp_via {op : Op} (isKind : opOf op.1 = some .kVia) :
    fixOp blocks foreign sz op = fixVia blocks foreign op := by
  have same : opOf (fixVia blocks foreign op).1 = some .kVia := by
    rw [fixVia]
    split <;> exact isKind
  simp [fixOp, fixJunction, same]

lemma fixOp_operands (ext : Option Int) :
    (operandOps ext).map (fixOp blocks foreign sz) = operandOps ext := by
  cases ext with
  | none => rfl
  | some ext =>
    have same : fixOp blocks foreign sz (kOperand.code, ext) = (kOperand.code, ext) :=
      fixOp_plain (opOf_plain .kOperand) (by decide)
    simp [operandOps, same]

lemma fixOp_rules {rules : List Op} (isRule : RuleOps rules) :
    rules.map (fixOp blocks foreign sz) = rules := by
  rcases isRule with rfl | ⟨byte, value, rfl, kind⟩
  · rfl
  · have same : fixOp blocks foreign sz (byte, value) = (byte, value) :=
      fixOp_plain kind (by decide)
    simp [same]

lemma keeps_plain (isKind : opOf op.1 = some kind)
    (plain : kind ≠ .kShort ∧ kind ≠ .kVwire ∧ kind ≠ .kVia) : Keeps blocks foreign sz op := by
  rw [Keeps, isKind]
  cases kind <;> simp_all

lemma keeps_branch (isKind : opOf op.1 = some kind) (isBranch : kind = .kShort ∨ kind = .kVwire) :
    Keeps blocks foreign sz op ↔ sz = 0 := by
  rw [Keeps, isKind]
  rcases isBranch with rfl | rfl <;> rfl

lemma keeps_via {op : Op} (isKind : opOf op.1 = some .kVia) : Keeps blocks foreign sz op ↔
    (fixVia blocks foreign op).2 = op.2 ∧ viaExit blocks.dst op = viaExit blocks.src op := by
  rw [Keeps, isKind]

end Moved

/-- `all` has the fixed up ops of `src` from index `sz` on. -/
def Joined (blocks : AppendBlocks) (foreign : Bool) (sz : Nat) (src all : List Op) : Prop :=
  At all sz (src.map (fixOp blocks foreign sz))

section Search

variable {blocks : AppendBlocks} {foreign : Bool} {sz : Nat} {src all : List Op}

lemma joined_get (joined : Joined blocks foreign sz src all) (i : Nat) :
    all[sz + i]? = (src[i]?).map (fixOp blocks foreign sz) := by
  rw [joined i, getElem?_map]

lemma joined_at (joined : Joined blocks foreign sz src all) {i : Nat} {rest : List Op}
    (reads : At src i rest) : At all (sz + i) (rest.map (fixOp blocks foreign sz)) := by
  intro k
  rw [Nat.add_assoc, joined_get joined, reads, getElem?_map]

lemma search_branch {wanted last : Bool} {now found : WirePoint}
    {later later' skip skip' : Option WirePoint}
    (sameLater : later = some found → later' = some found)
    (sameSkip : skip = some found → skip' = some found)
    (search : (if wanted then if last then some now else later else skip) = some found) :
    (if wanted then if last then some now else later' else skip') = some found := by
  cases wanted with
  | false => exact sameSkip search
  | true =>
    cases last with
    | false => exact sameLater search
    | true => exact search

lemma getPrevPoint_joined (joined : Joined blocks foreign sz src all)
    (back : JunctionsBack 0 src) {bound : Nat}
    (keeps : ∀ i < bound, ∀ op, src[i]? = some op → Keeps blocks foreign sz op)
    (fuel fuel' : Nat) (enough : fuel ≤ fuel') (idx : Nat) (below : idx < bound)
    (lookForX lookForY getLayer : Bool) (pnt found : WirePoint)
    (search : getPrevPoint blocks.src src fuel idx lookForX lookForY getLayer pnt = some found) :
    getPrevPoint blocks.dst all fuel' (sz + idx) lookForX lookForY getLayer pnt = some found := by
  induction fuel generalizing fuel' idx lookForX lookForY getLayer pnt with
  | zero => cases search
  | succ fuel ih =>
    rcases Nat.exists_eq_succ_of_ne_zero (show fuel' ≠ 0 by omega) with ⟨fuel', rfl⟩
    have more : fuel ≤ fuel' := by omega
    rw [getPrevPoint] at search
    rcases bind_eq_some_iff.mp search with ⟨⟨byte, value⟩, present, search⟩
    have keep := keeps idx below _ present
    have present' := joined_get joined idx
    rw [present, map_some] at present'
    rw [getPrevPoint, present']
    have backwards : ∀ lookForX lookForY getLayer pnt, (if idx = 0 then none
          else getPrevPoint blocks.src src fuel (idx - 1) lookForX lookForY getLayer pnt) =
            some found →
        (if sz + idx = 0 then none
          else getPrevPoint blocks.dst all fuel' (sz + idx - 1) lookForX lookForY getLayer pnt) =
            some found := by
      intro lookForX lookForY getLayer pnt earlier
      split at earlier
      · cases earlier
      · rename_i notFirst
        have shifted : sz + idx - 1 = sz + (idx - 1) := by omega
        rw [if_neg (by omega), shifted]
        exact ih fuel' more (idx - 1) (by omega) lookForX lookForY getLayer pnt earlier
    simp only [bind_eq_bind, bind_some, fixOp_opcode] at search ⊢
    cases kind : opOf byte with
    | none =>
      rw [kind] at search
      exact backwards _ _ _ _ search
    | some op =>
      rw [kind] at search
      cases op
      case kPath =>
        rw [fixOp_plain kind (by decide)]
        exact search_branch (backwards _ _ _ _) (backwards _ _ _ _) search
      case kShort =>
        have noShift := (keeps_branch kind (.inl rfl)).mp keep
        have sameLayer : value + (sz : Int) = value := by omega
        rw [fixOp_branch kind (.inl rfl)]
        simp only [sameLayer]
        exact search_branch (backwards _ _ _ _) (backwards _ _ _ _) search
      case kJunction =>
        rcases back idx _ present kind with ⟨jct, same, earlier⟩
        simp only at same
        have target : (value + (sz : Int)).toNat = sz + value.toNat := by omega
        rw [fixOp_junction kind]
        simp only [target]
        exact ih fuel' more _ (by omega) _ _ _ _ search
      case kX | kY =>
        rw [fixOp_plain kind (by decide)]
        exact search_branch (backwards _ _ _ _) (backwards _ _ _ _) search
      case kVia =>
        have kept := (keeps_via kind).mp keep
        simp only [viaExit] at kept
        rw [fixOp_via kind, kept.1]
        simp only [kept.2]
        exact search_branch (backwards _ _ _ _) (backwards _ _ _ _) search
      case kTechVia =>
        rw [fixOp_plain kind (by decide)]
        simp only [blocks.sameTech.1, blocks.sameTech.2]
        exact search_branch (backwards _ _ _ _) (backwards _ _ _ _) search
      all_goals exact backwards _ _ _ _ search

lemma junctionPoint_joined (joined : Joined blocks foreign sz src all)
    (back : JunctionsBack 0 src) {bound jct : Nat} {pnt : WirePoint} (below : jct < bound)
    (keeps : ∀ i < bound, ∀ op, src[i]? = some op → Keeps blocks foreign sz op)
    (found : junctionPoint blocks.src src jct = some pnt) :
    junctionPoint blocks.dst all (sz + jct) = some pnt :=
  getPrevPoint_joined joined back keeps _ _ (by omega) jct below true true true _ pnt found

end Search

section Decode

variable {blocks : AppendBlocks} {foreign : Bool} {sz : Nat} {src all : List Op}

/-- Both decoders read on: the same elements, but moved. -/
structure Both (blocks : AppendBlocks) (sz : Nat) (src all : List Op) (d : WireDecoder)
    (els : List Element) (d' : WireDecoder) : Prop where
  plain : WireDecoder.Decodes blocks.src src d els d'
  moved : WireDecoder.Decodes blocks.dst all (d.moved sz) (els.map (Element.moved sz)) (d'.moved sz)

variable {d d' : WireDecoder} {els elements : List Element}

lemma both_trans {d₁ d₂ : WireDecoder} {els' : List Element}
    (first : Both blocks sz src all d els d₁) (rest : Both blocks sz src all d₁ els' d₂) :
    Both blocks sz src all d (els ++ els') d₂ := by
  refine ⟨decodes_trans first.plain rest.plain, ?_⟩
  rw [map_append]
  exact decodes_trans first.moved rest.moved

lemma moved_step (both : Both blocks sz src all d els d')
    (decoded : d.decodeFrom blocks.src src = some elements) :
    ∃ rest, d'.decodeFrom blocks.src src = some rest ∧
      ((d.moved sz).decodeFrom blocks.dst all = some (elements.map (Element.moved sz)) ↔
        (d'.moved sz).decodeFrom blocks.dst all = some (rest.map (Element.moved sz))) := by
  rw [both.plain] at decoded
  rcases map_eq_some_iff.mp decoded with ⟨rest, found, same⟩
  refine ⟨rest, found, ?_⟩
  rw [both.moved, ← same, map_append]
  constructor
  · intro joined
    rcases map_eq_some_iff.mp joined with ⟨rest', found', same'⟩
    rw [found', append_cancel_left same']
  · intro joined
    rw [joined]
    rfl

lemma moved_breaks {d'' : WireDecoder} {element element' : Element} {els' : List Element}
    (plain : WireDecoder.Decodes blocks.src src d (element :: els) d')
    (moved : WireDecoder.Decodes blocks.dst all (d.moved sz) (element' :: els') d'')
    (differ : element' ≠ element.moved sz) (decoded : d.decodeFrom blocks.src src = some elements) :
    (d.moved sz).decodeFrom blocks.dst all ≠ some (elements.map (Element.moved sz)) := by
  rw [plain] at decoded
  rcases map_eq_some_iff.mp decoded with ⟨rest, _, same⟩
  intro joined
  rw [moved] at joined
  rcases map_eq_some_iff.mp joined with ⟨rest', _, same'⟩
  rw [← same] at same'
  exact differ (List.cons.inj same').1

variable {rest : List Op}

lemma before_chunk {n : Nat} {chunk : List Op} (reads : At src n (chunk ++ rest))
    (kept : ∀ op ∈ chunk, Keeps blocks foreign sz op)
    (before : ∀ i < n, ∀ op, src[i]? = some op → Keeps blocks foreign sz op) :
    ∀ i < n + chunk.length, ∀ op, src[i]? = some op → Keeps blocks foreign sz op := by
  intro i below op present
  by_cases earlier : i < n
  · exact before i earlier op present
  · have same : i = n + (i - n) := by omega
    rw [same, reads, getElem?_append_left (by omega)] at present
    exact kept op (mem_of_getElem? present)

lemma keeps_rules {rules : List Op} (isRule : RuleOps rules) :
    ∀ op ∈ rules, Keeps blocks foreign sz op := by
  rcases isRule with rfl | ⟨byte, value, rfl, kind⟩
  · exact fun _ member => nomatch member
  · intro op member
    rw [mem_singleton.mp member]
    exact keeps_plain kind (by decide)

lemma keeps_operand (value : Int) : Keeps blocks foreign sz (kOperand.code, value) :=
  keeps_plain (opOf_plain .kOperand) (by decide)

lemma keeps_operands (ext : Option Int) : ∀ op ∈ operandOps ext, Keeps blocks foreign sz op := by
  cases ext with
  | none => exact fun _ member => nomatch member
  | some ext =>
    intro op member
    rw [mem_singleton.mp member]
    exact keeps_operand ext

lemma moved_skip (d : WireDecoder) (k : Nat) :
    { d.moved sz with idx := (d.moved sz).idx + k } = ({ d with idx := d.idx + k }).moved sz := by
  simp only [WireDecoder.moved, Nat.add_assoc]

lemma both_rules (joined : Joined blocks foreign sz src all) {rules : List Op}
    (isRule : RuleOps rules) (reads : At src d.idx (rules ++ rest)) :
    Both blocks sz src all d (rules.map fun op =>
        ⟨.rule (hasFlag op.1 WOP_BLOCK_RULE) op.2, d.idx, d.layer, d.color, d.viaColor⟩)
      { d with idx := d.idx + rules.length } := by
  refine ⟨decodes_rules isRule reads, ?_⟩
  have reads' := joined_at joined reads
  rw [map_append, fixOp_rules isRule] at reads'
  have moved : WireDecoder.Decodes blocks.dst all (d.moved sz) _ _ :=
    decodes_rules isRule reads'
  rw [moved_skip] at moved
  rw [List.map_map]
  exact moved

/-- From index `n` on, the moved decoder returns the moved elements exactly if the fix ups keep
every op. -/
def Moves (blocks : AppendBlocks) (foreign : Bool) (sz : Nat) (src all : List Op) (n : Nat)
    (here : Bool) (rest : List Op) : Prop :=
  ∀ (d : WireDecoder) (elements : List Element), d.idx = n → (here = true ↔ d.pointCnt ≠ 0) →
    At src n rest → n ≤ src.length →
    (∀ i < n, ∀ op, src[i]? = some op → Keeps blocks foreign sz op) →
    d.decodeFrom blocks.src src = some elements →
    ((d.moved sz).decodeFrom blocks.dst all = some (elements.map (Element.moved sz)) ↔
      ∀ op ∈ rest, Keeps blocks foreign sz op)

lemma moves_chunk {here : Bool} {n' : Nat} (chunk : List Op)
    (ih : Moves blocks foreign sz src all n' here rest) (both : Both blocks sz src all d els d')
    (length : n' = d.idx + chunk.length) (place' : d'.idx = n')
    (isOpen' : here = true ↔ d'.pointCnt ≠ 0) (reads : At src d.idx (chunk ++ rest))
    (inside : d.idx ≤ src.length)
    (before : ∀ i < d.idx, ∀ op, src[i]? = some op → Keeps blocks foreign sz op)
    (kept : ∀ op ∈ chunk, Keeps blocks foreign sz op)
    (decoded : d.decodeFrom blocks.src src = some elements) :
    (d.moved sz).decodeFrom blocks.dst all = some (elements.map (Element.moved sz)) ↔
      ∀ op ∈ chunk ++ rest, Keeps blocks foreign sz op := by
  rcases moved_step both decoded with ⟨rest', found, same⟩
  have reads' := at_rest reads
  have inside' := at_le reads inside
  have before' := before_chunk reads kept before
  rw [← length] at reads' inside' before'
  have later := ih d' rest' place' isOpen' reads' inside' before' found
  rw [same, later, forall_mem_append]
  exact ⟨fun rest => ⟨kept, rest⟩, And.right⟩

lemma moved_pass (op : WireOp) (value : Int) (d : WireDecoder) :
    (d.pass op value).moved sz = (d.moved sz).pass op value := by
  cases op <;> rfl

lemma keeps_single {op : Op} (kept : Keeps blocks foreign sz op) :
    ∀ op' ∈ [op], Keeps blocks foreign sz op' := by
  intro op' member
  rw [mem_singleton.mp member]
  exact kept

section

variable (joined : Joined blocks foreign sz src all)
include joined

variable {n : Nat} {here : Bool} {op : WireOp} {byte : UInt8} {value : Int} {rest rules : List Op}

lemma moves_silent (kind : opOf byte = some op) (isSilent : silentOp op = true)
    (ih : Moves blocks foreign sz src all (n + 1) here rest) :
    Moves blocks foreign sz src all n here ((byte, value) :: rest) := by
  intro d elements place isOpen reads inside before decoded
  subst place
  have plainOp : op ≠ .kShort ∧ op ≠ .kJunction ∧ op ≠ .kVwire ∧ op ≠ .kVia := by
    cases op <;> first | decide | cases isSilent
  have reads' := joined_at joined reads
  rw [map_cons, fixOp_plain kind plainOp] at reads'
  have moved : WireDecoder.Decodes blocks.dst all (d.moved sz) [] ((d.pass op value).moved sz) := by
    rw [moved_pass]
    exact decodes_pass kind isSilent (at_head reads')
  have isOpen' : here = true ↔ (d.pass op value).pointCnt ≠ 0 := by
    rw [pass_pointCnt]
    exact isOpen
  exact moves_chunk [(byte, value)] ih
    ⟨decodes_pass kind isSilent (at_head reads), moved⟩ rfl (pass_idx op value d) isOpen' reads inside before
    (keeps_single (keeps_plain kind ⟨plainOp.1, plainOp.2.2⟩)) decoded

lemma moves_via (kind : opOf byte = some .kVia)
    (ih : Moves blocks foreign sz src all (n + 1) true rest) :
    Moves blocks foreign sz src all n true ((byte, value) :: rest) := by
  intro d elements place isOpen reads inside before decoded
  subst place
  have fixed : ∃ value', fixVia blocks foreign (byte, value) = (byte, value') := by
    rw [fixVia]
    split
    · exact ⟨_, rfl⟩
    · exact ⟨_, rfl⟩
  rcases fixed with ⟨value', fixed⟩
  have present' := at_head (joined_at joined reads)
  rw [fixOp_via kind, fixed] at present'
  have plain := decodes_via (at_head reads) kind (viaExit blocks.src (byte, value)) rfl
  have moved : WireDecoder.Decodes blocks.dst all (d.moved sz) _ _ :=
    decodes_via present' kind (viaExit blocks.dst (byte, value')) rfl
  have meaning : Keeps blocks foreign sz (byte, value) ↔ _ := keeps_via kind
  rw [fixed] at meaning
  by_cases kept : Keeps blocks foreign sz (byte, value)
  · have same := meaning.mp kept
    simp only at same
    rw [same.1, same.2] at moved
    exact moves_chunk [(byte, value)] ih ⟨plain, moved⟩ rfl rfl isOpen reads inside before
      (keeps_single kept) decoded
  · have differ := fun equal => kept (meaning.mpr equal)
    constructor
    · intro joinedToo
      refine absurd joinedToo (moved_breaks plain moved ?_ decoded)
      intro equal
      have sameKind := congrArg Element.kind equal
      have sameLayer := congrArg Element.layer equal
      simp only [Element.moved, ElementKind.moved, ElementKind.via.injEq, Option.some.injEq] at sameKind sameLayer
      rw [sameKind] at sameLayer
      exact differ ⟨sameKind, sameLayer⟩
    · intro all
      exact absurd (all _ mem_cons_self) kept

lemma moves_beside (kind : opOf byte = some op) (isBeside : besidePoint op = true)
    (ih : Moves blocks foreign sz src all (n + 1) true rest) :
    Moves blocks foreign sz src all n true ((byte, value) :: rest) := by
  cases op
  case kVia => exact moves_via joined kind ih
  case kTechVia =>
    intro d elements place isOpen reads inside before decoded
    subst place
    have present' := at_head (joined_at joined reads)
    rw [fixOp_plain kind (by decide)] at present'
    have plain : WireDecoder.Decodes blocks.src src d _ _ :=
      decodes_techVia (at_head reads) kind _ rfl
    have moved : WireDecoder.Decodes blocks.dst all (d.moved sz) _ _ :=
      decodes_techVia present' kind _ rfl
    rw [blocks.sameTech.1, blocks.sameTech.2] at moved
    exact moves_chunk [(byte, value)] ih ⟨plain, moved⟩ rfl rfl isOpen reads inside before
      (keeps_single (keeps_plain kind (by decide))) decoded
  case kIterm =>
    intro d elements place isOpen reads inside before decoded
    subst place
    have present' := at_head (joined_at joined reads)
    rw [fixOp_plain kind (by decide)] at present'
    have moved : WireDecoder.Decodes blocks.dst all (d.moved sz) _ _ :=
      decodes_iterm present' kind
    exact moves_chunk [(byte, value)] ih ⟨decodes_iterm (at_head reads) kind, moved⟩
      rfl rfl isOpen reads inside before (keeps_single (keeps_plain kind (by decide))) decoded
  case kBterm =>
    intro d elements place isOpen reads inside before decoded
    subst place
    have present' := at_head (joined_at joined reads)
    rw [fixOp_plain kind (by decide)] at present'
    have moved : WireDecoder.Decodes blocks.dst all (d.moved sz) _ _ :=
      decodes_bterm present' kind
    exact moves_chunk [(byte, value)] ih ⟨decodes_bterm (at_head reads) kind, moved⟩
      rfl rfl isOpen reads inside before (keeps_single (keeps_plain kind (by decide))) decoded
  all_goals cases isBeside

omit joined in
lemma fixOp_operand (value : Int) :
    fixOp blocks foreign sz (kOperand.code, value) = (kOperand.code, value) :=
  fixOp_plain (opOf_plain .kOperand) (by decide)

lemma moves_rect {deltaX1 deltaY1 deltaX2 deltaY2 : Int} (kind : opOf byte = some .kRect)
    (ih : Moves blocks foreign sz src all (n + 4) true rest) :
    Moves blocks foreign sz src all n true ((byte, deltaX1) :: (kOperand.code, deltaY1) ::
      (kOperand.code, deltaX2) :: (kOperand.code, deltaY2) :: rest) := by
  intro d elements place isOpen reads inside before decoded
  subst place
  have reads' := joined_at joined reads
  simp only [map_cons, fixOp_operand] at reads'
  rw [fixOp_plain kind (by decide)] at reads'
  have plain : WireDecoder.Decodes blocks.src src d _ _ :=
    decodes_rect (at_head reads) kind (reads 1) (reads 2) (reads 3)
  have moved : WireDecoder.Decodes blocks.dst all (d.moved sz) _ _ :=
    decodes_rect (at_head reads') kind (reads' 1) (reads' 2) (reads' 3)
  apply moves_chunk [(byte, deltaX1), (kOperand.code, deltaY1),
    (kOperand.code, deltaX2), (kOperand.code, deltaY2)] ih ⟨plain, moved⟩ rfl rfl isOpen
    reads inside before _ decoded
  intro op member
  simp only [mem_cons, not_mem_nil, or_false] at member
  rcases member with rfl | rfl | rfl | rfl
  · exact keeps_plain kind (by decide)
  · exact keeps_operand _
  · exact keeps_operand _
  · exact keeps_operand _

lemma moves_path {type : DbWireType} (kind : opOf byte = some .kPath)
    (typed : ∀ old, DbWireType.ofByte byte old = type) (isRule : RuleOps rules)
    (ih : Moves blocks foreign sz src all (n + 1 + rules.length) false rest) :
    Moves blocks foreign sz src all n here ((byte, value) :: (rules ++ rest)) := by
  intro d elements place isOpen reads inside before decoded
  subst place
  have present' := at_head (joined_at joined reads)
  rw [fixOp_plain kind (by decide)] at present'
  have moved : WireDecoder.Decodes blocks.dst all (d.moved sz) _ _ :=
    decodes_path present' kind (typed d.wireType)
  have first : Both blocks sz src all d _ (d.started 1 (some value.toNat) type) :=
    ⟨decodes_path (at_head reads) kind (typed d.wireType), moved⟩
  have both := both_trans first (both_rules joined isRule (at_tail reads))
  have reads' : At src d.idx (((byte, value) :: rules) ++ rest) := reads
  have closed : false = true ↔ (d.started 1 (some value.toNat) type).pointCnt ≠ 0 := by
    simp [started]
  apply moves_chunk ((byte, value) :: rules) ih both _ rfl closed reads' inside before _ decoded
  · rw [length_cons]
    omega
  · exact forall_mem_cons.mpr ⟨keeps_plain kind (by decide), keeps_rules isRule⟩

lemma moves_branch {jct : Int} (make : DbWireType → Int → ElementKind) (type : DbWireType)
    (kind : opOf byte = some op) (isBranch : op = .kShort ∨ op = .kVwire)
    (moves : ∀ jct, (make type jct).moved sz = make type (jct + sz))
    (injective : ∀ jct jct', make type jct = make type jct' → jct = jct')
    (decodes : ∀ tech ops d value, ops[WireDecoder.idx d]? = some (byte, value) →
      ops[d.idx + 1]? = some (kOperand.code, jct) →
      WireDecoder.Decodes tech ops d [⟨make type jct, d.idx, some value.toNat, d.color, d.viaColor⟩]
        (d.started 2 (some value.toNat) type)) (isRule : RuleOps rules)
    (ih : Moves blocks foreign sz src all (n + 2 + rules.length) false rest) :
    Moves blocks foreign sz src all n here
      ((byte, value) :: (kOperand.code, jct) :: (rules ++ rest)) := by
  intro d elements place isOpen reads inside before decoded
  subst place
  have reads' := joined_at joined reads
  simp only [map_cons, fixOp_operand] at reads'
  rw [fixOp_branch kind isBranch] at reads'
  have plain := decodes blocks.src src d value (at_head reads) (at_head (at_tail reads))
  have moved := decodes blocks.dst all (d.moved sz) _ (at_head reads') (at_head (at_tail reads'))
  by_cases noShift : sz = 0
  · have noShift' : (sz : Int) = 0 := by omega
    rw [noShift', Int.add_zero] at moved
    have moved' : WireDecoder.Decodes blocks.dst all (d.moved sz) (List.map (Element.moved sz)
        [⟨make type jct, d.idx, some value.toNat, d.color, d.viaColor⟩])
        ((d.started 2 (some value.toNat) type).moved sz) := by
      rw [map_singleton, Element.moved, moves, noShift', Int.add_zero]
      exact moved
    have both := both_trans ⟨plain, moved'⟩ (both_rules joined isRule (at_tail (at_tail reads)))
    have reads'' : At src d.idx (((byte, value) :: (kOperand.code, jct) :: rules) ++ rest) :=
      reads
    have closed : false = true ↔ (d.started 2 (some value.toNat) type).pointCnt ≠ 0 := by
      simp [started]
    apply moves_chunk ((byte, value) :: (kOperand.code, jct) :: rules) ih both _ rfl closed
      reads'' inside before _ decoded
    · rw [length_cons, length_cons]
      omega
    · exact forall_mem_cons.mpr ⟨(keeps_branch kind isBranch).mpr noShift,
        forall_mem_cons.mpr ⟨keeps_operand jct, keeps_rules isRule⟩⟩
  · constructor
    · intro joinedToo
      refine absurd joinedToo (moved_breaks plain moved ?_ decoded)
      intro equal
      have sameKind := congrArg Element.kind equal
      simp only [Element.moved, moves] at sameKind
      have sameJct := injective _ _ sameKind
      omega
    · intro all
      exact absurd ((keeps_branch kind isBranch).mp (all _ mem_cons_self)) noShift

omit joined in
lemma notRule_fixOp (notRule : NotRule rest) : NotRule (rest.map (fixOp blocks foreign sz)) := by
  intro op isFirst
  rw [head?_map] at isFirst
  rcases map_eq_some_iff.mp isFirst with ⟨op', isFirst', same⟩
  rw [← same, fixOp_opcode]
  exact notRule op' isFirst'

omit joined in
lemma moved_pointKind (x y : Int) (ext : Option Int) :
    (InForce.pointKind x y ext).moved sz = InForce.pointKind x y ext := by
  cases ext <;> rfl

lemma both_same (rules : List Op) (kind : opOf byte = some .kColinear) (isRule : RuleOps rules)
    (notRule : NotRule rest) {d : WireDecoder}
    (reads : At src d.idx ((byte, value) :: (rules ++ rest))) : Both blocks sz src all d
      [⟨InForce.pointKind d.x d.y (if hasFlag byte WOP_EXTENSION then some value else none), d.idx,
        d.layer, d.color, d.viaColor⟩]
      { d with idx := d.idx + 1 + rules.length, pointCnt := d.pointCnt + 1 } := by
  refine ⟨decodes_same kind isRule notRule reads, ?_⟩
  have reads' := joined_at joined reads
  rw [map_cons, map_append, fixOp_rules isRule, fixOp_plain kind (by decide)] at reads'
  have moved : WireDecoder.Decodes blocks.dst all (d.moved sz) _ _ :=
    decodes_same kind isRule (notRule_fixOp notRule) reads'
  have behind : { d.moved sz with
      idx := (d.moved sz).idx + 1 + rules.length, pointCnt := (d.moved sz).pointCnt + 1 } =
      ({ d with idx := d.idx + 1 + rules.length, pointCnt := d.pointCnt + 1 } : WireDecoder).moved
        sz := by
    simp only [WireDecoder.moved, Nat.add_assoc]
  rw [behind] at moved
  rw [map_singleton, Element.moved, moved_pointKind]
  exact moved

lemma moves_colinear
    (kind : opOf byte = some .kColinear) (isRule : RuleOps rules) (notRule : NotRule rest)
    (ih : Moves blocks foreign sz src all (n + 1 + rules.length) true rest) :
    Moves blocks foreign sz src all n true ((byte, value) :: (rules ++ rest)) := by
  intro d elements place isOpen reads inside before decoded
  subst place
  have both := both_same joined rules kind isRule notRule reads
  have reads' : At src d.idx (((byte, value) :: rules) ++ rest) := reads
  apply moves_chunk ((byte, value) :: rules) ih both _ rfl (by simp) reads' inside before _ decoded
  · rw [length_cons]
    omega
  · exact forall_mem_cons.mpr ⟨keeps_plain kind (by decide), keeps_rules isRule⟩

lemma moves_first {byteX byteY : UInt8} {x y : Int} {ext : Option Int}
    (kindX : opOf byteX = some .kX) (kindY : opOf byteY = some .kY)
    (extended : hasFlag byteY WOP_EXTENSION = ext.isSome)
    (ih : Moves blocks foreign sz src all (n + 2 + (operandOps ext).length) true rest) :
    Moves blocks foreign sz src all n false
      ((byteX, x) :: (byteY, y) :: (operandOps ext ++ rest)) := by
  intro d elements place isOpen reads inside before decoded
  subst place
  have noPoint : d.pointCnt = 0 := by simpa using isOpen
  have reads' := joined_at joined reads
  rw [map_cons, map_cons, map_append, fixOp_operands, fixOp_plain kindX (by decide),
    fixOp_plain kindY (by decide)] at reads'
  have moved : WireDecoder.Decodes blocks.dst all (d.moved sz) _ _ :=
    decodes_first noPoint kindX extended reads'
  have behind : { d.moved sz with
      idx := (d.moved sz).idx + 2 + (operandOps ext).length, x := x, y := y, pointCnt := 1 } =
      ({ d with idx := d.idx + 2 + (operandOps ext).length, x := x, y := y, pointCnt := 1 } :
        WireDecoder).moved sz := by
    simp only [WireDecoder.moved, Nat.add_assoc]
  rw [behind] at moved
  have both : Both blocks sz src all d
      [⟨InForce.pointKind x y ext, d.idx + 1, d.layer, d.color, d.viaColor⟩]
      { d with idx := d.idx + 2 + (operandOps ext).length, x := x, y := y, pointCnt := 1 } := by
    refine ⟨decodes_first noPoint kindX extended reads, ?_⟩
    rw [map_singleton, Element.moved, moved_pointKind]
    exact moved
  have reads'' : At src d.idx (((byteX, x) :: (byteY, y) :: operandOps ext) ++ rest) := reads
  apply moves_chunk ((byteX, x) :: (byteY, y) :: operandOps ext) ih both _ rfl (by simp) reads''
    inside before _ decoded
  · rw [length_cons, length_cons]
    omega
  · exact forall_mem_cons.mpr ⟨keeps_plain kindX (by decide),
      forall_mem_cons.mpr ⟨keeps_plain kindY (by decide), keeps_operands ext⟩⟩

lemma moves_later {ext : Option Int} (kind : opOf byte = some op) (isPoint : op = .kX ∨ op = .kY)
    (extended : hasFlag byte WOP_EXTENSION = ext.isSome) (isRule : RuleOps rules)
    (notRule : NotRule rest)
    (ih : Moves blocks foreign sz src all (n + 1 + (operandOps ext).length + rules.length) true rest) :
    Moves blocks foreign sz src all n true
      ((byte, value) :: (operandOps ext ++ (rules ++ rest))) := by
  intro d elements place isOpen reads inside before decoded
  subst place
  have hasPoint : d.pointCnt ≠ 0 := isOpen.mp rfl
  have plainOp : op ≠ .kShort ∧ op ≠ .kJunction ∧ op ≠ .kVwire ∧ op ≠ .kVia := by
    rcases isPoint with rfl | rfl <;> decide
  have reads' := joined_at joined reads
  rw [map_cons, map_append, map_append, fixOp_operands, fixOp_rules isRule,
    fixOp_plain kind plainOp] at reads'
  have notRule' : NotRule (rest.map (fixOp blocks foreign sz)) := notRule_fixOp notRule
  have both : ∃ els x y, Both blocks sz src all d els { d with
      idx := d.idx + 1 + (operandOps ext).length + rules.length, x := x, y := y
      pointCnt := d.pointCnt + 1 } := by
    have behind : ∀ x y, { d.moved sz with
        idx := (d.moved sz).idx + 1 + (operandOps ext).length + rules.length, x := x, y := y
        pointCnt := (d.moved sz).pointCnt + 1 } = ({ d with
          idx := d.idx + 1 + (operandOps ext).length + rules.length, x := x, y := y
          pointCnt := d.pointCnt + 1 } : WireDecoder).moved sz := by
      intro x y
      simp only [WireDecoder.moved, Nat.add_assoc]
    rcases isPoint with rfl | rfl
    · have moved : WireDecoder.Decodes blocks.dst all (d.moved sz) _ _ :=
        decodes_alongX hasPoint kind extended isRule notRule' reads'
      have place := behind value d.y
      refine ⟨_, value, d.y, decodes_alongX hasPoint kind extended isRule notRule reads, ?_⟩
      rw [map_singleton, Element.moved, moved_pointKind, ← place]
      exact moved
    · have moved : WireDecoder.Decodes blocks.dst all (d.moved sz) _ _ :=
        decodes_alongY hasPoint kind extended isRule notRule' reads'
      have place := behind d.x value
      refine ⟨_, d.x, value, decodes_alongY hasPoint kind extended isRule notRule reads, ?_⟩
      rw [map_singleton, Element.moved, moved_pointKind, ← place]
      exact moved
  rcases both with ⟨els, x, y, both⟩
  have reads'' : At src d.idx (((byte, value) :: (operandOps ext ++ rules)) ++ rest) := by
    rw [cons_append, append_assoc]
    exact reads
  have split : (byte, value) :: (operandOps ext ++ (rules ++ rest)) =
      ((byte, value) :: (operandOps ext ++ rules)) ++ rest := by
    rw [cons_append, append_assoc]
  rw [split]
  apply moves_chunk ((byte, value) :: (operandOps ext ++ rules)) ih both _ rfl (by simp) reads''
    inside before _ decoded
  · rw [length_cons, length_append]
    omega
  · exact forall_mem_cons.mpr ⟨keeps_plain kind ⟨plainOp.1, plainOp.2.2⟩,
      forall_mem_append.mpr ⟨keeps_operands ext, keeps_rules isRule⟩⟩

lemma moves_junction (back : JunctionsBack 0 src) {jct : Nat} {flags : UInt8} {type : DbWireType}
    (kind : opOf byte = some .kJunction) (earlier : jct < n)
    (typed : ∀ old, DbWireType.ofByte byte old = type) (isRule : RuleOps rules)
    (point : opOf flags = some .kColinear) (notRule : NotRule rest)
    (ih : Moves blocks foreign sz src all (n + 1 + rules.length + 1) true rest) :
    Moves blocks foreign sz src all n here
      ((byte, (jct : Int)) :: (rules ++ (flags, value) :: rest)) := by
  intro d elements place isOpen reads inside before decoded
  subst place
  have below := at_inside reads
  rcases stepOp_exists decoded (by omega) with ⟨d', found, step⟩
  rw [stepOp, nextOp_eq (at_head reads)] at step
  simp only [bind_eq_bind, bind_some, kind, Int.toNat_natCast] at step
  rcases bind_eq_some_iff.mp step with ⟨pnt, shown, _⟩
  have shown' := junctionPoint_joined joined back earlier before shown
  have present' := at_head (joined_at joined reads)
  have target : (jct : Int) + (sz : Int) = ((sz + jct : Nat) : Int) := by omega
  rw [fixOp_junction kind] at present'
  simp only [target] at present'
  have moved : WireDecoder.Decodes blocks.dst all (d.moved sz) _ _ :=
    decodes_junction present' kind (typed d.wireType) shown'
  have first : Both blocks sz src all d [⟨.junction type jct, d.idx, pnt.layer, d.color, d.viaColor⟩]
      { d.started 1 pnt.layer type with x := pnt.x, y := pnt.y } := by
    refine ⟨decodes_junction (at_head reads) kind (typed d.wireType) shown, ?_⟩
    rw [map_singleton, Element.moved, ElementKind.moved, target]
    exact moved
  have second := both_rules joined isRule (d := { d.started 1 pnt.layer type with
    x := pnt.x, y := pnt.y }) (at_tail reads)
  have third := both_same joined [] point (.inl rfl) notRule (d := { d.started 1 pnt.layer type with
      idx := d.idx + 1 + rules.length, x := pnt.x, y := pnt.y }) (at_rest (at_tail reads))
  have both := both_trans first (both_trans second third)
  have split : (byte, (jct : Int)) :: (rules ++ (flags, value) :: rest) =
      ((byte, (jct : Int)) :: (rules ++ [(flags, value)])) ++ rest := by simp
  rw [split] at reads ⊢
  apply moves_chunk ((byte, (jct : Int)) :: (rules ++ [(flags, value)])) ih both _ rfl
    (by simp [started]) reads inside before _ decoded
  · rw [length_cons, length_append, length_singleton]
    omega
  · exact forall_mem_cons.mpr ⟨keeps_plain kind (by decide),
      forall_mem_append.mpr ⟨keeps_rules isRule, keeps_single (keeps_plain point (by decide))⟩⟩

lemma moves_encoded (length : all.length = src.length + sz) (back : JunctionsBack 0 src)
    (encoded : Encoded n here rest) : Moves blocks foreign sz src all n here rest := by
  induction encoded with
  | done =>
    intro d elements place isOpen reads inside before decoded
    have atEnd : d.idx = src.length := place.trans (at_end reads inside)
    have atEnd' : (d.moved sz).idx = all.length := by
      rw [length, ← atEnd, Nat.add_comm]
      rfl
    rw [decodeFrom_end atEnd] at decoded
    cases decoded
    rw [decodeFrom_end atEnd']
    simp
  | silent kind isSilent _ ih => exact moves_silent joined kind isSilent ih
  | beside kind isBeside _ ih => exact moves_beside joined kind isBeside ih
  | rect kind _ ih => exact moves_rect joined kind ih
  | path kind typed isRule _ ih => exact moves_path joined kind typed isRule ih
  | @branch n here op byte value jct type rules rest kind isBranch typed isRule more ih =>
    rcases isBranch with rfl | rfl
    · apply moves_branch joined .short type kind (.inl rfl) (fun _ => rfl) _ _ isRule ih
      · exact fun _ _ same => (ElementKind.short.inj same).2
      · exact fun tech ops d value present second =>
          decodes_short present kind second (typed d.wireType)
    · apply moves_branch joined .vwire type kind (.inr rfl) (fun _ => rfl) _ _ isRule ih
      · exact fun _ _ same => (ElementKind.vwire.inj same).2
      · exact fun tech ops d value present second =>
          decodes_vwire present kind second (typed d.wireType)
  | junction kind earlier typed isRule point more ih =>
    exact moves_junction joined back kind earlier typed isRule point (encoded_notRule more) ih
  | first kindX kindY extended _ ih => exact moves_first joined kindX kindY extended ih
  | later kind isPoint extended isRule more ih =>
    exact moves_later joined kind isPoint extended isRule (encoded_notRule more) ih
  | colinear kind isRule more ih =>
    exact moves_colinear joined kind isRule (encoded_notRule more) ih

end

end Decode

end OpenRoad.Odb
