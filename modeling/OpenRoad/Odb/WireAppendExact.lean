import OpenRoad.Odb.WireConcat

/-! When a decoder finds the two wires of an `append` one behind the other. -/

namespace OpenRoad.Odb

open List WireEncoder WireDecoder

namespace WireDecoder

variable {tech : WireTech} {ops : List Op}

lemma recolored_same (color : Option Nat) (viaColor : Option ViaColor) (d : WireDecoder)
    (inside : d.idx ≤ ops.length)
    (sameColor : color = d.color ∨ setsFirst .kColor (ops.drop d.idx) = true)
    (sameVia : viaColor = d.viaColor ∨ setsFirst .kViaColor (ops.drop d.idx) = true) :
    (d.recolor color viaColor).decodeFrom tech ops = d.decodeFrom tech ops := by
  cases decoded : d.decodeFrom tech ops with
  | some elements =>
    exact (recolored_decodes color viaColor d inside decoded).mpr ⟨sameColor, sameVia⟩
  | none =>
    cases decoded' : (d.recolor color viaColor).decodeFrom tech ops with
    | none => rfl
    | some elements =>
      have back := recolored_decodes d.color d.viaColor (d.recolor color viaColor) inside decoded'
      have again := back.mpr ⟨sameColor.imp_left Eq.symm, sameVia.imp_left Eq.symm⟩
      have plain : (d.recolor color viaColor).recolor d.color d.viaColor = d := rfl
      rw [plain, decoded] at again
      cases again

lemma not_nothing {d : WireDecoder} {byte : UInt8} {value : Int} {op : WireOp}
    (present : ops[d.idx]? = some (byte, value)) (kind : opOf byte = some op)
    (loud : silentOp op = false) : d.decodeFrom tech ops ≠ some [] := by
  intro decoded
  rcases first_element present kind loud decoded with ⟨_, _, _, _, list, _, _⟩
  cases list

lemma nothing_shown {n : Nat} {here : Bool} {rest : List Op} (encoded : Encoded n here rest)
    (d : WireDecoder) (place : d.idx = n) (reads : At ops n rest)
    (decoded : d.decodeFrom tech ops = some []) : rest.all quiet = true := by
  induction encoded generalizing d with
  | done => rfl
  | @silent n here op byte value rest kind isSilent more ih =>
    subst place
    have passed : Decodes tech ops d [] (d.pass op value) := decodes_pass kind isSilent (at_head reads)
    rw [decodeFrom_silent passed] at decoded
    have later := ih (d.pass op value) (pass_idx op value d) (at_tail reads) decoded
    simp [quiet, kind, isSilent, later]
  | @beside n op byte value rest kind isBeside more =>
    subst place
    have loud : silentOp op = false := by cases op <;> first | rfl | cases isBeside
    exact absurd decoded (not_nothing (at_head reads) kind loud)
  | rect kind | path kind =>
    subst place
    exact absurd decoded (not_nothing (at_head reads) kind rfl)
  | branch kind isBranch =>
    subst place
    rcases isBranch with rfl | rfl
    · exact absurd decoded (not_nothing (at_head reads) kind rfl)
    · exact absurd decoded (not_nothing (at_head reads) kind rfl)
  | junction kind =>
    subst place
    exact absurd decoded (not_nothing (at_head reads) kind rfl)
  | first kindX =>
    subst place
    exact absurd decoded (not_nothing (at_head reads) kindX rfl)
  | later kind isPoint =>
    subst place
    rcases isPoint with rfl | rfl
    · exact absurd decoded (not_nothing (at_head reads) kind rfl)
    · exact absurd decoded (not_nothing (at_head reads) kind rfl)
  | colinear kind =>
    subst place
    exact absurd decoded (not_nothing (at_head reads) kind rfl)

end WireDecoder

section Exact

open WireDecoder

variable {blocks : AppendBlocks} {foreign : Bool} {sz : Nat}

lemma setsFirst_fixOp (target : WireOp) (ops : List Op) :
    setsFirst target (ops.map (fixOp blocks foreign sz)) = setsFirst target ops := by
  induction ops with
  | nil => rfl
  | cons op ops ih => simp only [map_cons, setsFirst, fixOp_opcode, ih]

lemma startsPath_fixOp (ops : List Op) :
    startsPath (ops.map (fixOp blocks foreign sz)) = startsPath ops := by
  induction ops with
  | nil => rfl
  | cons op ops ih => simp only [map_cons, startsPath, fixOp_opcode, ih]

/-- What is in force behind the first wire does not reach into the second one. -/
structure Fits (blocks : AppendBlocks) (foreign : Bool) (dst src : List Op) : Prop where
  keeps : ∀ op ∈ src, Keeps blocks foreign dst.length op
  color : leftBy .kColor readColor none dst = none ∨ setsFirst .kColor src = true
  viaColor : leftBy .kViaColor readViaColor none dst = none ∨ setsFirst .kViaColor src = true
  path : startsPath src = true ∨ dst.all quiet = true

lemma reads_like_new {dst src : List Op} (encoded : Encoded 0 false src) {last : WireDecoder}
    (atEnd : last.idx = dst.length) (behind : Behind dst new last)
    (color : last.color = none ∨ setsFirst .kColor src = true)
    (viaColor : last.viaColor = none ∨ setsFirst .kViaColor src = true)
    (path : startsPath src = true ∨ dst.all quiet = true) :
    last.decodeFrom blocks.dst (dst ++ src.map (fixOp blocks foreign dst.length)) =
      (new.moved dst.length).decodeFrom blocks.dst
        (dst ++ src.map (fixOp blocks foreign dst.length)) := by
  generalize equal : src.map (fixOp blocks foreign dst.length) = second
  have shifted : Encoded (dst.length + 0) false second := equal ▸ encoded_fixOp encoded
  have dropped : (dst ++ second).drop last.idx = second := by rw [atEnd, drop_left]
  have inside : last.idx ≤ (dst ++ second).length := by
    rw [atEnd, length_append]
    exact Nat.le_add_right _ _
  have plain : (last.recolor none none).decodeFrom blocks.dst (dst ++ second) =
      last.decodeFrom blocks.dst (dst ++ second) := by
    apply recolored_same none none last inside
    · rw [dropped, ← equal, setsFirst_fixOp]
      exact color.imp_left Eq.symm
    · rw [dropped, ← equal, setsFirst_fixOp]
      exact viaColor.imp_left Eq.symm
  rw [← plain]
  rcases path with begins | isQuiet
  · have begins' : startsPath second = true := by
      rw [← equal, startsPath_fixOp]
      exact begins
    exact stale_path shifted rfl begins' (new.moved dst.length) (last.recolor none none) rfl
      atEnd rfl rfl (at_append dst second) (by rw [length_append]; omega)
  · have same : last.recolor none none = new.moved dst.length := by
      rw [behind.still isQuiet, recolor, moved, atEnd]
      rfl
    rw [same]

lemma second_exact {dst src : List Op} (encoded : Encoded 0 false src) {last : WireDecoder}
    (atEnd : last.idx = dst.length) (behind : Behind dst new last) {elements : List Element}
    (decoded : decode blocks.src src = some elements) :
    last.decodeFrom blocks.dst (dst ++ src.map (fixOp blocks foreign dst.length)) =
      some (elements.map (Element.moved dst.length)) ↔ Fits blocks foreign dst src := by
  have joined : Joined blocks foreign dst.length src
      (dst ++ src.map (fixOp blocks foreign dst.length)) := at_append dst _
  have length : (dst ++ src.map (fixOp blocks foreign dst.length)).length =
      src.length + dst.length := by
    rw [length_append, length_map, Nat.add_comm]
  have moves := moves_encoded joined length (encoded_back encoded) encoded new elements rfl
    (by decide) (at_zero src) (Nat.zero_le _) (fun _ below => nomatch below) decoded
  have color := behind.color
  have viaColor := behind.viaColor
  constructor
  · intro found
    have agrees := second_agrees joined encoded rfl new last rfl rfl rfl atEnd
      (at_zero src) decoded found
    have path := agrees.2.2.imp_right fun closed => (behind.path.mp closed).2
    rw [reads_like_new encoded atEnd behind agrees.1 agrees.2.1 path] at found
    have colorEq : last.color = none ∨ _ := agrees.1
    have viaEq : last.viaColor = none ∨ _ := agrees.2.1
    rw [color] at colorEq
    rw [viaColor] at viaEq
    exact ⟨moves.mp found, colorEq, viaEq, path⟩
  · intro fits
    have colorFits := fits.color
    have viaFits := fits.viaColor
    have noColor : new.color = none := rfl
    have noViaColor : new.viaColor = none := rfl
    rw [← noColor, ← color] at colorFits
    rw [← noViaColor, ← viaColor] at viaFits
    rw [reads_like_new encoded atEnd behind colorFits viaFits fits.path]
    exact moves.mpr fits.keeps

structure AppendsCleanly (blocks : AppendBlocks) (singleSegmentWire : Bool) (dst src : List Op) :
    Prop where
  movable : (blocks.differ && !singleSegmentWire && src.any isTerm) = false
  fits : Fits blocks (blocks.differ && !singleSegmentWire) dst src

lemma first_reads (blocks : AppendBlocks) (foreign : Bool) {dst src : List Op} (firstEncoded : Encoded 0 false dst)
    (secondEncoded : Encoded 0 false src) {elements : List Element}
    (decoded : decode blocks.dst dst = some elements) :
    ∃ last : WireDecoder, last.idx = dst.length ∧ Behind dst new last ∧
      decode blocks.dst (dst ++ src.map (fixOp blocks foreign dst.length)) =
        (last.decodeFrom blocks.dst (dst ++ src.map (fixOp blocks foreign dst.length))).map
          (elements ++ ·) := by
  rcases encoded_readsOn firstEncoded new rfl (by decide) (at_zero dst) (Nat.zero_le _)
    decoded with ⟨last, ⟨els, alike⟩, atEnd, behind⟩
  have own : Decodes blocks.dst (dst ++ []) new els last :=
    alike [] fun _ isFirst => nomatch isFirst
  have whole : new.decodeFrom blocks.dst dst = some elements := decoded
  rw [append_nil, Decodes, whole, decodeFrom_end atEnd, Option.map_some, append_nil] at own
  have same : elements = els := Option.some.inj own
  rw [same]
  exact ⟨last, atEnd, behind, alike _ (notRule_fixOp (encoded_notRule secondEncoded))⟩

lemma term_shown {src : List Op} (encoded : Encoded 0 false src) (hasTerm : src.any isTerm = true) :
    decode blocks.src src ≠ some [] := by
  intro decoded
  have isQuiet := nothing_shown encoded new rfl (at_zero src) decoded
  rcases any_eq_true.mp hasTerm with ⟨op, member, isTerm⟩
  have silent := all_eq_true.mp isQuiet op member
  rw [quiet] at silent
  rw [OpenRoad.Odb.isTerm, Bool.or_eq_true, decide_eq_true_iff, decide_eq_true_iff] at isTerm
  rcases isTerm with kind | kind
  · rw [kind] at silent
    cases silent
  · rw [kind] at silent
    cases silent

/-- The appended wire decodes as both wires exactly if the wires append cleanly. -/
theorem append_exact (blocks : AppendBlocks) (singleSegmentWire : Bool)
    (dstCalls srcCalls : List WireCall) (dst src : WireEncoder) (dstTrace srcTrace : WireEncoder.Trace)
    (dstAccepted : new.run blocks.dst [] dstCalls = some (dst, dstTrace))
    (srcAccepted : new.run blocks.src [] srcCalls = some (src, srcTrace)) :
    ∃ old added, WireDecoder.decode blocks.dst dst.ops = some old ∧
      WireDecoder.decode blocks.src src.ops = some added ∧
      (WireDecoder.decode blocks.dst (append blocks singleSegmentWire dst.ops src.ops) =
          some (old ++ added.map (Element.moved dst.ops.length)) ↔
        AppendsCleanly blocks singleSegmentWire dst.ops src.ops) := by
  rcases encoded_wire dstAccepted with ⟨dstEncoded, old, oldDecoded⟩
  rcases encoded_wire srcAccepted with ⟨srcEncoded, added, addedDecoded⟩
  refine ⟨old, added, oldDecoded, addedDecoded, ?_⟩
  cases left : blocks.differ && !singleSegmentWire && src.ops.any isTerm with
  | true =>
    have unchanged : append blocks singleSegmentWire dst.ops src.ops = dst.ops := by
      rw [append]
      exact if_pos left
    rw [unchanged, oldDecoded]
    constructor
    · intro same
      have nothing := append_cancel_left ((append_nil old).trans (Option.some.inj same))
      rw [List.map_eq_nil_iff.mp nothing.symm] at addedDecoded
      exact absurd addedDecoded (term_shown srcEncoded (Bool.and_eq_true_iff.mp left).2)
    · intro clean
      rw [clean.movable] at left
      cases left
  | false =>
    have joined : append blocks singleSegmentWire dst.ops src.ops = dst.ops ++ src.ops.map
        (fixOp blocks (blocks.differ && !singleSegmentWire) dst.ops.length) := by
      rw [append]
      exact if_neg (ne_true_of_eq_false left)
    rcases first_reads blocks (blocks.differ && !singleSegmentWire) dstEncoded srcEncoded
      oldDecoded with ⟨last, atEnd, behind, whole⟩
    have second : _ ↔ Fits blocks (blocks.differ && !singleSegmentWire) dst.ops src.ops :=
      second_exact srcEncoded atEnd behind addedDecoded
    rw [joined, whole]
    constructor
    · intro same
      rcases Option.map_eq_some_iff.mp same with ⟨rest, found, list⟩
      rw [append_cancel_left list] at found
      exact ⟨left, second.mp found⟩
    · intro clean
      rw [second.mpr clean.fits, Option.map_some]

end Exact

def sampleBlock : AppendBlocks := ⟨sampleTech, sampleTech, false, id, ⟨rfl, rfl⟩, fun _ => rfl⟩

def appendTo : List WireCall := [.newPath 1 .routed none, .addPoint 0 0 0, .addPoint 10 0 0]

def appendJunction : List WireCall :=
  [.newPath 2 .routed none, .addPoint 0 0 0, .addPoint 0 20 0, .newPathJct 3 none none none,
    .addPoint 30 20 0]

def appendShort : List WireCall :=
  [.newPath 2 .routed none, .addPoint 0 0 0, .newPathShort 2 2 .routed none, .addPoint 0 20 0]

theorem append_exact_sample : ∃ dst dstTrace src srcTrace,
    new.run sampleTech [] appendTo = some (dst, dstTrace) ∧
    new.run sampleTech [] appendJunction = some (src, srcTrace) ∧
    ∃ old added, WireDecoder.decode sampleTech dst.ops = some old ∧
      WireDecoder.decode sampleTech src.ops = some added ∧
      WireDecoder.decode sampleTech (append sampleBlock false dst.ops src.ops) =
        some (old ++ added.map (Element.moved dst.ops.length)) := by
  refine ⟨_, _, _, _, rfl, rfl, ?_⟩
  rcases append_exact sampleBlock false appendTo appendJunction _ _ _ _ rfl rfl with
    ⟨old, added, oldDecoded, addedDecoded, cleanly⟩
  refine ⟨old, added, oldDecoded, addedDecoded, cleanly.mpr ⟨rfl, ?_⟩⟩
  refine ⟨?_, .inl rfl, .inl rfl, .inl rfl⟩
  decide

/-- The short is decoded on layer 7 for layer 2, and from junction 2 for junction 7. -/
theorem append_shifts_layer : ∃ dst dstTrace src srcTrace,
    new.run sampleTech [] appendTo = some (dst, dstTrace) ∧
    new.run sampleTech [] appendShort = some (src, srcTrace) ∧
    ∃ old added, WireDecoder.decode sampleTech dst.ops = some old ∧
      WireDecoder.decode sampleTech src.ops = some added ∧
      WireDecoder.decode sampleTech (append sampleBlock false dst.ops src.ops) ≠
        some (old ++ added.map (Element.moved dst.ops.length)) := by
  refine ⟨_, _, _, _, rfl, rfl, _, _, rfl, rfl, ?_⟩
  decide

end OpenRoad.Odb
