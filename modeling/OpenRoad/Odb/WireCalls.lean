import OpenRoad.Odb.WireInForce

/-! The decoder follows the encoder, call by call. -/

namespace OpenRoad.Odb

open List Option WireDecoder WireEncoder InForce WireOp
open Forall₂ hiding cons

variable {tech : WireTech} {known : List Nat} {e e' : WireEncoder} {s : InForce}

structure Follows (e : WireEncoder) (s : InForce) (d : WireDecoder) : Prop where
  idx : d.idx = e.ops.length
  layer : d.layer = s.place.layer
  pointCnt : d.pointCnt = 0 ↔ e.pointCnt = 0
  here : e.pointCnt ≠ 0 → d.x = s.place.x ∧ d.y = s.place.y
  wireType : d.wireType = s.wireType
  color : d.color = s.color
  viaColor : d.viaColor = s.viaColor

lemma getElem?_chunk (before chunk rest : List Op) (k : Nat) (inside : k < chunk.length) :
    (before ++ chunk ++ rest)[before.length + k]? = chunk[k]? := by
  rw [append_assoc, getElem?_append_right (Nat.le_add_right _ _),
    Nat.add_sub_cancel_left, getElem?_append_left inside]

lemma getElem?_rest (before rest : List Op) : (before ++ rest)[before.length]? = rest.head? := by
  rw [getElem?_append_right (Nat.le_refl _), Nat.sub_self, head?_eq_getElem?]

variable {before rest core operands all : List Op}

lemma flushRule_none {d : WireDecoder} (here : d.idx = before.length) (notRule : NotRule rest) :
    d.flushRule (before ++ rest) = d := by
  rw [flushRule, here, getElem?_rest]
  cases rest with
  | nil => rfl
  | cons op rest =>
    have other := notRule op rfl
    simp only [head?_cons, if_neg other]

lemma flushRule_hidden {d : WireDecoder} {hidden : List Op} (here : d.idx = before.length)
    (rule : hidden = [] ∨ ∃ byte value, hidden = [(byte, value)] ∧ opOf byte = some .kRule)
    (notRule : NotRule rest) :
    d.flushRule (before ++ (hidden ++ rest)) = { d with idx := d.idx + hidden.length } := by
  rcases rule with none | ⟨byte, value, some, kind⟩
  · rw [none]
    exact flushRule_none here notRule
  · rw [some, flushRule, here, getElem?_rest]
    simp only [singleton_append, head?_cons, kind, if_true]
    rw [← here]
    rfl

lemma decodes_tail {d : WireDecoder} {hidden props : List Op} (here : d.idx = before.length)
    (rule : hidden = [] ∨ ∃ byte value, hidden = [(byte, value)] ∧ opOf byte = some .kRule)
    (isProps : props = [] ∨ ∃ value, props = [(kProperty.code, value)])
    (notRule : NotRule (props ++ rest)) :
    WireDecoder.Decodes tech (before ++ (hidden ++ (props ++ rest)))
      (d.flushRule (before ++ (hidden ++ (props ++ rest)))) []
      { d with idx := d.idx + hidden.length + props.length } := by
  rw [flushRule_hidden here rule notRule]
  rcases isProps with none | ⟨value, single⟩
  · rw [none]
    exact decodes_refl tech _ _
  · have length : (before ++ hidden).length = d.idx + hidden.length := by simp [here]
    have present : (before ++ (hidden ++ (props ++ rest)))[d.idx + hidden.length]? =
        some (kProperty.code, value) := by
      rw [← append_assoc, ← length, getElem?_rest, single]
      rfl
    rw [single] at present ⊢
    exact decodes_nop .kProperty present (opOf_plain _) (.inl rfl)

lemma notRule_append {added : List Op} (more : List Op) (begins : added ≠ [])
    (notRule : NotRule added) : NotRule (added ++ more) := by
  cases added with
  | nil => exact absurd rfl begins
  | cons op added => exact notRule

lemma notRule_props {props : List Op}
    (isProps : props = [] ∨ ∃ value, props = [(kProperty.code, value)]) (notRule : NotRule rest) :
    NotRule (props ++ rest) := by
  rcases isProps with none | ⟨value, some⟩
  · rw [none]
    exact notRule
  · rw [some]
    exact notRule_cons rest (opOf_plain .kProperty) (by decide)

variable {y : Int}

lemma decodes_point {d : WireDecoder} {x : Int} {ext : Option Int} {id : Nat}
    (agrees : Agrees tech known e s) (follows : Follows e s d)
    (point : PointOps e x y ext core operands) (named : id + 1 = e.ops.length + core.length)
    (rest : List Op) (noHidden : e.pointCnt = 0 → NotRule rest) :
    ∃ count, count ≠ 0 ∧ WireDecoder.Decodes tech (e.ops ++ (core ++ operands) ++ rest) d
      [⟨pointKind x y ext, id, d.layer, d.color, d.viaColor⟩]
      (flushRule (e.ops ++ (core ++ operands) ++ rest) { d with
        idx := e.ops.length + (core ++ operands).length, x := x, y := y, pointCnt := count }) := by
  have chunk := getElem?_chunk e.ops (core ++ operands) rest
  rw [← follows.idx] at chunk named ⊢
  have pointCnt := follows.pointCnt
  cases point with
  | first width flags noPoint widthFlags extFlags =>
    have noPoint' : d.pointCnt = 0 := pointCnt.mpr noPoint
    have first := chunk 0 (by simp)
    have second := chunk 1 (by simp)
    have kind := opOf_code .kX width widthFlags.free
    have isExt := (hasFlag_code .kY flags WOP_EXTENSION (by decide)).trans extFlags.extension
    refine ⟨1, by decide, ?_⟩
    rw [flushRule_none (by simp [follows.idx]) (noHidden noPoint)]
    apply decodes_found
    rw [stepOp, nextOp_eq first]
    simp only [bind_eq_bind, bind_some, kind, noPoint', if_true]
    rw [nextOp_eq second]
    simp only [bind_some]
    have sameId : id = d.idx + 1 := by simpa using named
    rw [sameId]
    cases ext with
    | none =>
      simp only [isExt]
      rfl
    | some ext =>
      have third := chunk 2 (by simp [operandOps])
      simp only [isExt]
      rw [if_pos isSome_some, nextOp_eq third]
      rfl
  | colinear flags value hasPoint sameX sameY extFlags operand =>
    have first := chunk 0 (by simp)
    have kind := opOf_code .kColinear flags extFlags.free
    have isExt := (hasFlag_code .kColinear flags WOP_EXTENSION (by decide)).trans extFlags.extension
    have sameId : id = d.idx := by simpa using named
    have here := agrees.here hasPoint
    have followsHere := follows.here hasPoint
    refine ⟨d.pointCnt + 1, Nat.succ_ne_zero _, ?_⟩
    apply decodes_found
    rw [stepOp, nextOp_eq first]
    simp only [bind_eq_bind, bind_some, kind, isExt]
    rw [sameId, ← sameX, ← sameY, here.1, here.2, ← followsHere.1, ← followsHere.2]
    cases ext with
    | none => rfl
    | some ext =>
      rw [operand ext rfl]
      rfl
  | alongX flags hasPoint sameY extFlags =>
    have first := chunk 0 (by simp)
    have kind := opOf_code .kX flags extFlags.free
    have isExt := (hasFlag_code .kX flags WOP_EXTENSION (by decide)).trans extFlags.extension
    have sameId : id = d.idx := by simpa using named
    have hasPoint' : d.pointCnt ≠ 0 := fun noPoint => hasPoint (pointCnt.mp noPoint)
    have here := agrees.here hasPoint
    have followsHere := follows.here hasPoint
    refine ⟨d.pointCnt + 1, Nat.succ_ne_zero _, ?_⟩
    apply decodes_found
    rw [stepOp, nextOp_eq first]
    simp only [bind_eq_bind, bind_some, kind, isExt, hasPoint', if_false]
    rw [sameId, ← sameY, here.2, ← followsHere.2]
    cases ext with
    | none => rfl
    | some ext =>
      have second := chunk 1 (by simp [operandOps])
      rw [if_pos isSome_some, nextOp_eq second]
      rfl
  | alongY flags hasPoint sameX extFlags =>
    have first := chunk 0 (by simp)
    have kind := opOf_code .kY flags extFlags.free
    have isExt := (hasFlag_code .kY flags WOP_EXTENSION (by decide)).trans extFlags.extension
    have sameId : id = d.idx := by simpa using named
    have hasPoint' : d.pointCnt ≠ 0 := fun noPoint => hasPoint (pointCnt.mp noPoint)
    have here := agrees.here hasPoint
    have followsHere := follows.here hasPoint
    refine ⟨d.pointCnt + 1, Nat.succ_ne_zero _, ?_⟩
    apply decodes_found
    rw [stepOp, nextOp_eq first]
    simp only [bind_eq_bind, bind_some, kind, isExt, hasPoint', if_false]
    rw [sameId, ← sameX, here.1, ← followsHere.1]
    cases ext with
    | none => rfl
    | some ext =>
      have second := chunk 1 (by simp [operandOps])
      rw [if_pos isSome_some, nextOp_eq second]
      rfl

/-- The encoder agrees with what is in force, and a decoder that has followed follows on. -/
structure Carries (tech : WireTech) (known : List Nat) (e e' : WireEncoder) (s s' : InForce)
    (new : List Expected) : Prop where
  agrees : Agrees tech known e' s'
  grows : ∃ added, e'.ops = e.ops ++ added ∧ added ≠ [] ∧ NotRule added
  decodes : ∀ more d, NotRule more → Follows e s d →
    ∃ els d', WireDecoder.Decodes tech (e'.ops ++ more) d els d' ∧
      List.Forall₂ Expected.Matches new els ∧ Follows e' s' d'

lemma point_begins {x : Int} {ext : Option Int} (point : PointOps e x y ext core operands) :
    core ≠ [] ∧ NotRule core := by
  cases point with
  | first width flags noPoint widthFlags extFlags =>
    exact ⟨by simp, notRule_cons _ (opOf_code .kX width widthFlags.free) (by decide)⟩
  | colinear flags value hasPoint sameX sameY extFlags operand =>
    exact ⟨by simp, notRule_cons _ (opOf_code .kColinear flags extFlags.free) (by decide)⟩
  | alongX flags hasPoint sameY extFlags =>
    exact ⟨by simp, notRule_cons _ (opOf_code .kX flags extFlags.free) (by decide)⟩
  | alongY flags hasPoint sameX extFlags =>
    exact ⟨by simp, notRule_cons _ (opOf_code .kY flags extFlags.free) (by decide)⟩

lemma carries_point {mid : WireEncoder} {x : Int} {ext : Option Int} {id : Nat} (property : Nat)
    (agrees : Agrees tech known e s) (added : PointAdded e mid x y ext core operands id) :
    Carries tech (id :: known) e (mid.endPoint property) s
      (s.moveTo { s.place with x := x, y := y } (some id))
      [(s.moveTo { s.place with x := x, y := y } (some id)).expect (pointKind x y ext)
        (some id)] := by
  have midAgrees := agrees_point agrees added
  rcases endPoint_spec property midAgrees with
    ⟨hidden, props, ops, isHidden, isProps, pointCnt, sameX, sameY, agrees'⟩
  have begins := point_begins added.point
  rw [added.ops] at ops
  have isRule : hidden = [] ∨ ∃ byte value, hidden = [(byte, value)] ∧
      opOf byte = some .kRule := isHidden.imp_right And.right
  refine ⟨agrees', ⟨core ++ (operands ++ (hidden ++ props)), ?_, by simp [begins.1],
    notRule_append _ begins.1 begins.2⟩, ?_⟩
  · rw [ops]
    simp only [append_assoc]
  · intro more d notRule follows
    have behind := notRule_props isProps notRule
    have noHidden : e.pointCnt = 0 → NotRule (hidden ++ (props ++ more)) := by
      intro noPoint
      rcases isHidden with none | ⟨later, _⟩
      · rw [none]
        exact behind
      · exact absurd (added.first noPoint) later
    rcases decodes_point agrees follows added.point added.named _ noHidden with
      ⟨count, hasPoint, decodes⟩
    have all : (mid.endPoint property).ops ++ more =
        e.ops ++ (core ++ operands) ++ (hidden ++ (props ++ more)) := by
      rw [ops]
      simp only [append_assoc]
    have here : e.ops.length + (core ++ operands).length =
        (e.ops ++ (core ++ operands)).length := length_append.symm
    have tail := decodes_trans decodes (decodes_tail here isRule isProps behind)
    rw [← all] at tail
    refine ⟨_, _, tail, ?_, ?_⟩
    · have sameElement : Expected.Matches
          ((s.moveTo { s.place with x := x, y := y } (some id)).expect
            (pointKind x y ext) (some id))
          ⟨pointKind x y ext, id, d.layer, d.color, d.viaColor⟩ :=
        ⟨rfl, fun id' same => Option.some.inj same, follows.layer, follows.color,
          follows.viaColor⟩
      exact Forall₂.cons sameElement nil
    · have length : e.ops.length + (core ++ operands).length + hidden.length + props.length =
          (mid.endPoint property).ops.length := by
        rw [ops]
        simp only [length_append]
        omega
      have isPoint : (mid.endPoint property).pointCnt ≠ 0 := pointCnt ▸ added.hasPoint
      exact {
        idx := length
        layer := follows.layer
        pointCnt := by simp [hasPoint, isPoint]
        here := fun _ => ⟨rfl, rfl⟩
        wireType := follows.wireType
        color := follows.color
        viaColor := follows.viaColor }

lemma carries_ops {added : List Op} {s' : InForce} {known' : List Nat} {new : List Expected}
    (agrees : Agrees tech known' e' s') (ops : e'.ops = e.ops ++ added) (begins : added ≠ [])
    (notRule : NotRule added)
    (decodes : ∀ all d, (∀ k < added.length, all[d.idx + k]? = added[k]?) → Follows e s d →
      ∃ els d', WireDecoder.Decodes tech all d els d' ∧ Forall₂ Expected.Matches new els ∧
        Follows e' s' d') :
    Carries tech known' e e' s s' new := by
  refine ⟨agrees, ⟨added, ops, begins, notRule⟩, ?_⟩
  intro more d _ follows
  apply decodes (e'.ops ++ more) d _ follows
  intro k inside
  rw [ops, follows.idx]
  exact getElem?_chunk e.ops added more k inside

lemma carries_color (byte : UInt8) (value : Int) (op : WireOp) (color : Option Nat)
    (viaColor : Option ViaColor) (agrees : Agrees tech known e s) (kind : opOf byte = some op)
    (passed : op.passed = true) (other : op ≠ .kRule)
    (decodes : ∀ all d, all[d.idx]? = some (byte, value) → Follows e s d →
      WireDecoder.Decodes tech all d [] { d with
        idx := d.idx + 1, color := color, viaColor := viaColor }) :
    Carries tech known e (e.addOp byte value) s { s with color := color, viaColor := viaColor }
      [] := by
  apply carries_ops (agrees_colors color viaColor (agrees_addOp op byte value kind passed agrees))
    rfl (cons_ne_nil _ _) (notRule_cons _ kind other)
  intro all d chunk follows
  have present : all[d.idx]? = some (byte, value) := chunk 0 (Nat.zero_lt_succ 0)
  have length : (e.addOp byte value).ops.length = e.ops.length + 1 := length_append
  refine ⟨[], _, decodes all d present follows, nil, ?_⟩
  exact ⟨by rw [length, ← follows.idx], follows.layer, follows.pointCnt, follows.here,
    follows.wireType, rfl, rfl⟩

lemma carries_setColor (maskColor : Nat) (agrees : Agrees tech known e s)
    (set : e.setColor maskColor = some e') :
    Carries tech known e e' s { s with color := some maskColor } [] := by
  rw [setColor] at set
  split at set
  · cases set
  · rename_i valid
    cases set
    have small : maskColor % 256 = maskColor := Nat.mod_eq_of_lt (by omega)
    have nonzero : maskColor ≠ 0 := by omega
    apply carries_color _ _ .kColor _ _ agrees (opOf_plain _) rfl (by decide)
    intro all d present follows
    have decodes : WireDecoder.Decodes tech all d _ _ :=
      decodes_color present (opOf_plain .kColor)
    simp only [Int.toNat_natCast, small, nonzero, if_false, follows.viaColor] at decodes
    exact decodes

lemma carries_clearColor (agrees : Agrees tech known e s) :
    Carries tech known e e.clearColor s { s with color := none } [] := by
  apply carries_color _ _ .kColor _ _ agrees (opOf_plain _) rfl (by decide)
  intro all d present follows
  have decodes : WireDecoder.Decodes tech all d _ _ :=
      decodes_color present (opOf_plain .kColor)
  simp only [Int.toNat_zero, Nat.zero_mod, if_true, follows.viaColor] at decodes
  exact decodes

lemma carries_clearViaColor (agrees : Agrees tech known e s) :
    Carries tech known e e.clearViaColor s { s with viaColor := none } [] := by
  apply carries_color _ _ .kViaColor _ _ agrees (opOf_plain _) rfl (by decide)
  intro all d present follows
  have decodes : WireDecoder.Decodes tech all d _ _ :=
      decodes_viaColor present (opOf_plain .kViaColor)
  simp only [Int.toNat_zero, Nat.zero_mod, if_true, follows.color] at decodes
  exact decodes

def unpackViaColor (bits : Nat) : Option ViaColor :=
  if bits = 0 then none
  else some ((bits &&& 0x30) >>> 4, (bits &&& 0x0c) >>> 2, bits &&& 0x03)

lemma unpackViaColor_packed : ∀ bottom cut top : Fin 4,
    unpackViaColor ((bottom.val <<< 4 ||| cut.val <<< 2 ||| top.val) % 256) =
      if bottom.val = 0 ∧ cut.val = 0 ∧ top.val = 0 then none
      else some (bottom.val, cut.val, top.val) := by
  decide

lemma carries_setViaColor (bottom cut top : Nat) (agrees : Agrees tech known e s)
    (set : e.setViaColor bottom cut top = some e') :
    Carries tech known e e' s { s with viaColor :=
      if bottom = 0 ∧ cut = 0 ∧ top = 0 then none else some (bottom, cut, top) } [] := by
  rw [setViaColor] at set
  split at set
  · cases set
  · rename_i valid
    cases set
    have packed := unpackViaColor_packed ⟨bottom, by omega⟩ ⟨cut, by omega⟩ ⟨top, by omega⟩
    simp only [unpackViaColor] at packed
    apply carries_color _ _ .kViaColor _ _ agrees (opOf_plain _) rfl (by decide)
    intro all d present follows
    have decodes : WireDecoder.Decodes tech all d _ _ :=
      decodes_viaColor present (opOf_plain .kViaColor)
    rw [Int.toNat_natCast, packed] at decodes
    simp only [follows.color] at decodes
    exact decodes

lemma matches_expect {d : WireDecoder} (kind : ElementKind) (follows : Follows e s d) :
    (s.expect kind none).Matches (d.element d.idx kind) :=
  ⟨rfl, fun _ isReturned => (nomatch isReturned), follows.layer, follows.color, follows.viaColor⟩

lemma follows_addOp {d : WireDecoder} (byte : UInt8) (value : Int) (follows : Follows e s d) :
    Follows (e.addOp byte value) s { d with idx := d.idx + 1 } where
  idx := by rw [show (e.addOp byte value).ops.length = e.ops.length + 1 from length_append,
    ← follows.idx]
  layer := follows.layer
  pointCnt := follows.pointCnt
  here := follows.here
  wireType := follows.wireType
  color := follows.color
  viaColor := follows.viaColor

lemma carries_iterm (iterm : Nat) (agrees : Agrees tech known e s)
    (added : e.addITerm iterm = some e') :
    Carries tech known e e' s s [s.expect (.iterm iterm) none] := by
  rw [addITerm] at added
  split at added
  · cases added
  · cases added
    apply carries_ops (agrees_addOp .kIterm _ iterm (opOf_plain _) rfl agrees) rfl
      (cons_ne_nil _ _) (notRule_cons _ (opOf_plain .kIterm) (by decide))
    intro all d chunk follows
    have present : all[d.idx]? = some (kIterm.code, (iterm : Int)) :=
      chunk 0 (Nat.zero_lt_succ 0)
    exact ⟨_, _, decodes_iterm present (opOf_plain _),
      Forall₂.cons (matches_expect _ follows) nil, follows_addOp _ _ follows⟩

lemma carries_bterm (bterm : Nat) (agrees : Agrees tech known e s)
    (added : e.addBTerm bterm = some e') :
    Carries tech known e e' s s [s.expect (.bterm bterm) none] := by
  rw [addBTerm] at added
  split at added
  · cases added
  · cases added
    apply carries_ops (agrees_addOp .kBterm _ bterm (opOf_plain _) rfl agrees) rfl
      (cons_ne_nil _ _) (notRule_cons _ (opOf_plain .kBterm) (by decide))
    intro all d chunk follows
    have present : all[d.idx]? = some (kBterm.code, (bterm : Int)) :=
      chunk 0 (Nat.zero_lt_succ 0)
    exact ⟨_, _, decodes_bterm present (opOf_plain _),
      Forall₂.cons (matches_expect _ follows) nil, follows_addOp _ _ follows⟩

lemma carries_rect (deltaX1 deltaY1 deltaX2 deltaY2 : Int) (agrees : Agrees tech known e s)
    (added : e.addRect deltaX1 deltaY1 deltaX2 deltaY2 = some e') :
    Carries tech known e e' s s [s.expect (.rect deltaX1 deltaY1 deltaX2 deltaY2) none] := by
  rw [addRect] at added
  split at added
  · cases added
  · cases added
    have agrees₁ := agrees_addOp .kRect _ deltaX1 (opOf_plain _) rfl agrees
    have agrees₂ := agrees_addOp .kOperand _ deltaY1 (opOf_plain _) rfl agrees₁
    have agrees₃ := agrees_addOp .kOperand _ deltaX2 (opOf_plain _) rfl agrees₂
    have agrees₄ := agrees_addOp .kOperand _ deltaY2 (opOf_plain _) rfl agrees₃
    apply carries_ops agrees₄ (by simp only [addOp, append_assoc]; rfl)
      (cons_ne_nil _ _) (notRule_cons _ (opOf_plain .kRect) (by decide))
    intro all d chunk follows
    have first := chunk 0 (by simp)
    have second := chunk 1 (by simp)
    have third := chunk 2 (by simp)
    have fourth := chunk 3 (by simp)
    have followed := follows_addOp kOperand.code deltaY2
      (follows_addOp kOperand.code deltaX2 (follows_addOp kOperand.code deltaY1
        (follows_addOp kRect.code deltaX1 follows)))
    exact ⟨_, _, decodes_rect first (opOf_plain _) second third fourth,
      Forall₂.cons (matches_expect _ follows) nil, followed⟩

variable {via layer : Nat}

lemma via_exit {op : WireOp} {top bottom : Nat → Nat} {id : Nat}
    (free : op.code &&& WOP_VIA_EXIT_TOP = 0)
    (added : e.addViaOp op top bottom via = some (e', id)) :
    ∃ flags exit, e' = { (e.addOp (op.code ||| flags) via) with
        layer := some exit, viaCnt := e.viaCnt + 1 } ∧
      flags &&& WOP_OPCODE_MASK = 0 ∧
      (if hasFlag (op.code ||| flags) WOP_VIA_EXIT_TOP then top via else bottom via) = exit ∧
      (if e.layer = some (top via) then bottom via else top via) = exit ∧ id = e.ops.length ∧
      e.pointCnt ≠ 0 := by
  rw [addViaOp] at added
  split at added
  · cases added
  · rename_i hasPoint
    split at added
    · rename_i isTop
      cases added
      refine ⟨0, bottom via, by rw [UInt8.or_zero], by decide, ?_, if_pos isTop.symm, rfl, hasPoint⟩
      rw [hasFlag_code op 0 _ free]
      rfl
    · rename_i notTop
      split at added
      · cases added
        refine ⟨WOP_VIA_EXIT_TOP, top via, rfl, by decide, ?_,
          if_neg (fun isTop => notTop isTop.symm), rfl, hasPoint⟩
        rw [hasFlag_code op _ _ free]
        rfl
      · cases added

lemma carries_via (op : WireOp) {top bottom : Nat → Nat} {id : Nat}
    (kind : Int → ElementKind) (free : op.code &&& WOP_VIA_EXIT_TOP = 0) (other : op ≠ .kRule)
    (agrees : Agrees tech known e s) (added : e.addViaOp op top bottom via = some (e', id))
    (shows : ∀ byte hasX hasY found, opOf byte = some op → ShowsLast tech e.ops hasX hasY found →
      ShowsLast tech (e.ops ++ [(byte, (via : Int))]) hasX hasY { found with
        layer := some (if hasFlag byte WOP_VIA_EXIT_TOP then top via else bottom via) })
    (decodes : ∀ all d byte exit, all[d.idx]? = some (byte, (via : Int)) → opOf byte = some op →
      (if hasFlag byte WOP_VIA_EXIT_TOP then top via else bottom via) = exit →
      WireDecoder.Decodes tech all d [⟨kind via, d.idx, some exit, d.color, d.viaColor⟩]
        { d with idx := d.idx + 1, layer := some exit }) :
    Carries tech (id :: known) e e' s (s.throughVia (top via) (bottom via) (some id))
      [(s.throughVia (top via) (bottom via) (some id)).expect (kind via) (some id)] := by
  rcases via_exit free added with ⟨flags, exit, same, flagsFree, byFlag, byLayer, sameId, hasPoint⟩
  have isOp := opOf_code op flags flagsFree
  have ops : e'.ops = e.ops ++ [(op.code ||| flags, (via : Int))] := by rw [same]; rfl
  have hasPoint' : e'.pointCnt ≠ 0 := by rw [same]; exact hasPoint
  have search := shows _ _ _ _ isOp agrees.search
  rw [byFlag] at search
  rw [agrees.layer] at byLayer
  have length : (e.ops ++ [(op.code ||| flags, (via : Int))]).length = e.ops.length + 1 :=
    length_append
  have moved : s.throughVia (top via) (bottom via) (some id) =
      s.moveTo { s.place with layer := some exit, found := some exit } (some id) := by
    rw [throughVia, byLayer]
  have named : id + 1 = e.ops.length + [(op.code ||| flags, (via : Int))].length := by
    rw [sameId]
    rfl
  have atPoint := search
  simp only [ne_eq, hasPoint, not_false_eq_true, decide_true] at atPoint
  have junctions := junctions_moveTo { s.place with layer := some exit, found := some exit } []
    agrees.junctions named atPoint
  rw [append_nil, ← ops] at junctions
  rw [← ops] at search
  have agrees' : Agrees tech (id :: known) e'
      (s.moveTo { s.place with layer := some exit, found := some exit } (some id)) := {
    layer := by rw [same]; rfl
    wireType := by rw [same]; exact agrees.wireType
    here := fun _ => by rw [same]; exact agrees.here hasPoint
    ruleOp := by rw [same]; exact agrees.ruleOp
    search := by rw [same] at search ⊢; exact search
    junctions := junctions }
  rw [moved]
  apply carries_ops agrees' ops (cons_ne_nil _ _) (notRule_cons _ isOp other)
  intro all d chunk follows
  have present : all[d.idx]? = some (op.code ||| flags, (via : Int)) :=
    chunk 0 (Nat.zero_lt_succ 0)
  have found := decodes all d _ exit present isOp byFlag
  have named' : d.idx = id := follows.idx.trans sameId.symm
  refine ⟨_, _, found, Forall₂.cons ⟨rfl, fun id' isId => named'.trans (Option.some.inj isId),
    rfl, follows.color, follows.viaColor⟩ nil, ?_⟩
  exact {
    idx := by rw [ops, length, ← follows.idx]
    layer := rfl
    pointCnt := by rw [same]; exact follows.pointCnt
    here := fun _ => follows.here hasPoint
    wireType := follows.wireType
    color := follows.color
    viaColor := follows.viaColor }

lemma carries_trans {e₁ e₂ : WireEncoder} {s₁ s₂ : InForce} {known₁ known₂ : List Nat}
    {new₁ new₂ : List Expected} (first : Carries tech known₁ e e₁ s s₁ new₁)
    (second : Carries tech known₂ e₁ e₂ s₁ s₂ new₂) :
    Carries tech known₂ e e₂ s s₂ (new₁ ++ new₂) := by
  rcases first.grows with ⟨added₁, ops₁, begins₁, notRule₁⟩
  rcases second.grows with ⟨added₂, ops₂, begins₂, notRule₂⟩
  refine ⟨second.agrees, ⟨added₁ ++ added₂, ?_, by simp [begins₁],
    notRule_append _ begins₁ notRule₁⟩, ?_⟩
  · rw [ops₂, ops₁, append_assoc]
  · intro more d moreNotRule follows
    rcases first.decodes (added₂ ++ more) d (notRule_append _ begins₂ notRule₂) follows with
      ⟨els₁, d₁, decodes₁, match₁, follows₁⟩
    rcases second.decodes more d₁ moreNotRule follows₁ with
      ⟨els₂, d₂, decodes₂, match₂, follows₂⟩
    have same : e₂.ops ++ more = e₁.ops ++ (added₂ ++ more) := by
      rw [ops₂, append_assoc]
    rw [← same] at decodes₁
    exact ⟨els₁ ++ els₂, d₂, decodes_trans decodes₁ decodes₂,
      rel_append match₁ match₂, follows₂⟩

lemma carries_addVia {id : Nat} (agrees : Agrees tech known e s)
    (added : e.addVia tech via = some (e', id)) : Carries tech (id :: known) e e' s
      (s.throughVia (tech.viaTop via) (tech.viaBottom via) (some id))
      [(s.throughVia (tech.viaTop via) (tech.viaBottom via) (some id)).expect (.via via)
        (some id)] := by
  apply carries_via .kVia .via (by decide) (by decide) agrees added
  · intro byte hasX hasY found kind last
    exact shows_via byte via kind last
  · intro all d byte exit present kind byFlag
    exact decodes_via present kind exit byFlag

lemma carries_addTechVia {id : Nat} (agrees : Agrees tech known e s)
    (added : e.addTechVia tech via = some (e', id)) : Carries tech (id :: known) e e' s
      { s.throughVia (tech.techViaTop via) (tech.techViaBottom via) (some id) with color := none }
      [(s.throughVia (tech.techViaTop via) (tech.techViaBottom via) (some id)).expect
        (.techVia via) (some id)] := by
  rcases map_eq_some_iff.mp added with ⟨⟨e₁, id₁⟩, viaAdded, same⟩
  cases same
  have first := carries_via .kTechVia .techVia (by decide) (by decide) agrees viaAdded
    (fun byte hasX hasY found kind last => shows_techVia byte via kind last)
    (fun all d byte exit present kind byFlag =>
      decodes_techVia present kind exit byFlag)
  exact carries_trans first (carries_clearColor first.agrees)

def ruleOps (rule : Option LayerRule) : List Op :=
  rule.toList.map fun rule =>
    (if rule.isBlockRule then WireOp.kRule.code ||| WOP_BLOCK_RULE else WireOp.kRule.code,
      (rule.id : Int))

lemma ruleByte (rule : LayerRule) :
    opOf (if rule.isBlockRule then kRule.code ||| WOP_BLOCK_RULE else kRule.code) =
        some .kRule ∧
      hasFlag (if rule.isBlockRule then kRule.code ||| WOP_BLOCK_RULE
        else kRule.code) WOP_BLOCK_RULE = rule.isBlockRule := by
  cases rule.isBlockRule <;> exact ⟨by decide, by decide⟩

lemma shows_rule {ops : List Op} {hasX hasY : Bool} {found : WirePoint} (rule : Option LayerRule)
    (last : ShowsLast tech ops hasX hasY found) :
    ShowsLast tech (ops ++ ruleOps rule) hasX hasY found := by
  cases rule with
  | none => simpa [ruleOps] using last
  | some rule => exact shows_passed _ rule.id .kRule (ruleByte rule).1 rfl last

lemma decodes_ruleOps (tech : WireTech) (s : InForce) (d : WireDecoder) (rule : Option LayerRule)
    (chunk : ∀ k < (ruleOps rule).length, all[d.idx + k]? = (ruleOps rule)[k]?)
    (layer : d.layer = s.place.layer) (color : d.color = s.color)
    (viaColor : d.viaColor = s.viaColor) :
    ∃ els, WireDecoder.Decodes tech all d els { d with idx := d.idx + (ruleOps rule).length } ∧
      Forall₂ Expected.Matches (s.expectRule rule) els := by
  cases rule with
  | none => exact ⟨[], decodes_refl tech all d, nil⟩
  | some rule =>
    have present := chunk 0 (Nat.zero_lt_succ 0)
    have decodes : WireDecoder.Decodes tech all d _ _ :=
    decodes_rule present (ruleByte rule).1
    rw [(ruleByte rule).2] at decodes
    exact ⟨_, decodes, Forall₂.cons
      ⟨rfl, fun _ isReturned => (nomatch isReturned), layer, color, viaColor⟩ nil⟩

variable {bits : UInt8}

lemma wireType_bits {type : DbWireType} (known : type.bits = some bits) :
    bits &&& WOP_OPCODE_MASK = 0 ∧ bits &&& WOP_WIRE_TYPE_MASK = bits := by
  cases type <;> cases known <;> exact ⟨by decide, by decide⟩

lemma ofByte_code {type : DbWireType} (op : WireOp) (old : DbWireType)
    (known : type.bits = some bits) : DbWireType.ofByte (op.code ||| bits) old = type := by
  have free : op.code &&& WOP_WIRE_TYPE_MASK = 0 := by cases op <;> decide
  rw [DbWireType.ofByte]
  simp only [or_and_byte, free, UInt8.zero_or, (wireType_bits known).2]
  cases type <;> cases known <;> rfl

/-- The encoder at the start of a path, before its first point. -/
structure PathStarted (e' : WireEncoder) (layer : Option Nat) (bits : UInt8) : Prop where
  layer : e'.layer = layer
  wireType : e'.wireType = bits
  ruleOp : e'.nonDefaultRule ≠ 0 → opOf e'.ruleOpcode = some .kRule

lemma newPath_spec {type : DbWireType} {rule : Option LayerRule}
    (accepted : e.newPath layer type rule = some e') :
    ∃ bits, type.bits = some bits ∧ PathStarted e' (some layer) bits ∧ e'.pointCnt = 0 ∧
      e'.ops = e.ops ++ [(kPath.code ||| bits, (layer : Int))] ++ ruleOps rule := by
  rcases bind_eq_some_iff.mp accepted with ⟨bits, isBits, same⟩
  refine ⟨bits, isBits, ?_⟩
  cases rule with
  | none =>
    cases same
    exact ⟨⟨rfl, rfl, fun noRule => absurd rfl noRule⟩, rfl, (append_nil _).symm⟩
  | some rule =>
    cases same
    exact ⟨⟨rfl, rfl, fun _ => (ruleByte rule).1⟩, rfl, rfl⟩

lemma newPathFrom_spec {op : WireOp} {jctId : Nat} {type : DbWireType} {rule : Option LayerRule}
    (accepted : e.newPathFrom op jctId layer type rule = some e') :
    ∃ bits, type.bits = some bits ∧ PathStarted e' (some layer) bits ∧ e'.pointCnt = 0 ∧
      e'.ops = e.ops ++ [(op.code ||| bits, (layer : Int))] ++
        [(kOperand.code, (jctId : Int))] ++ ruleOps rule := by
  rcases bind_eq_some_iff.mp accepted with ⟨bits, isBits, same⟩
  refine ⟨bits, isBits, ?_⟩
  cases rule with
  | none =>
    cases same
    exact ⟨⟨rfl, rfl, fun noRule => absurd rfl noRule⟩, rfl, (append_nil _).symm⟩
  | some rule =>
    cases same
    exact ⟨⟨rfl, rfl, fun _ => (ruleByte rule).1⟩, rfl, rfl⟩

lemma agrees_start (place : Place) {type : DbWireType} {added : List Op}
    (agrees : Agrees tech known e s) (started : PathStarted e' place.layer bits)
    (isBits : type.bits = some bits) (noPoint : e'.pointCnt = 0) (ops : e'.ops = e.ops ++ added)
    (search : ShowsLast tech e'.ops false false place.pnt) :
    Agrees tech known e' (s.startPath place type) where
  layer := started.layer
  wireType := started.wireType ▸ isBits
  here hasPoint := absurd noPoint hasPoint
  ruleOp := started.ruleOp
  search := by rw [noPoint]; exact search
  junctions := ops ▸ junctions_append added agrees.junctions

lemma chunk_split {n : Nat}
    (chunk : ∀ k < (before ++ rest).length, all[n + k]? = (before ++ rest)[k]?) :
    (∀ k < before.length, all[n + k]? = before[k]?) ∧
      ∀ k < rest.length, all[n + before.length + k]? = rest[k]? := by
  constructor
  · intro k inside
    have longer : k < (before ++ rest).length := by rw [length_append]; omega
    rw [chunk k longer, getElem?_append_left inside]
  · intro k inside
    have longer : before.length + k < (before ++ rest).length := by rw [length_append]; omega
    rw [Nat.add_assoc, chunk _ longer, getElem?_append_right (Nat.le_add_right _ _),
      Nat.add_sub_cancel_left]

lemma carries_start {place : Place} {type : DbWireType} {rule : Option LayerRule}
    {start : List Op} (kind : ElementKind)
    (agrees : Agrees tech known e' (s.startPath place type))
    (ops : e'.ops = e.ops ++ (start ++ ruleOps rule)) (begins : start ≠ [])
    (notRule : NotRule start) (noPoint : e'.pointCnt = 0)
    (decodes : ∀ all d, (∀ k < start.length, all[d.idx + k]? = start[k]?) →
      WireDecoder.Decodes tech all d [⟨kind, d.idx, place.layer, d.color, d.viaColor⟩]
        (d.started start.length place.layer type)) :
    Carries tech known e e' s (s.startPath place type)
      ((s.startPath place type).expect kind none :: (s.startPath place type).expectRule rule) := by
  apply carries_ops agrees ops (by simp [begins]) (notRule_append _ begins notRule)
  intro all d chunk follows
  have split := chunk_split chunk
  have first := decodes all d split.1
  rcases decodes_ruleOps tech (s.startPath place type)
    (d.started start.length place.layer type) rule split.2 rfl follows.color
    follows.viaColor with ⟨els, second, matches'⟩
  refine ⟨_, _, decodes_trans first second, Forall₂.cons
    ⟨rfl, fun _ isReturned => (nomatch isReturned), rfl, follows.color, follows.viaColor⟩
    matches', ?_⟩
  exact {
    idx := by
      rw [ops, length_append, length_append, ← follows.idx, ← Nat.add_assoc]
      rfl
    layer := rfl
    pointCnt := by simp [noPoint, started]
    here := fun hasPoint => absurd noPoint hasPoint
    wireType := rfl
    color := follows.color
    viaColor := follows.viaColor }

lemma carries_newPath {type : DbWireType} {rule : Option LayerRule} (agrees : Agrees tech known e s)
    (accepted : e.newPath layer type rule = some e') : Carries tech known e e' s
      (s.startPath { s.place with layer := some layer, found := some layer } type)
      ((s.startPath { s.place with layer := some layer, found := some layer } type).expect
        (.path type) none ::
        (s.startPath { s.place with layer := some layer, found := some layer } type).expectRule
          rule) := by
  rcases newPath_spec accepted with ⟨bits, isBits, started, noPoint, ops⟩
  have isPath := opOf_code .kPath bits (wireType_bits isBits).1
  have search := shows_rule rule (shows_start _ (layer : Int) (.inl isPath)
    (showsLast_forget s.place.x s.place.y agrees.search))
  rw [← ops] at search
  rw [append_assoc] at ops
  have agrees' := agrees_start { s.place with layer := some layer, found := some layer } agrees started isBits noPoint ops search
  apply carries_start _ agrees' ops (cons_ne_nil _ _) (notRule_cons _ isPath (by decide))
    noPoint
  intro all d chunk
  have present := chunk 0 (Nat.zero_lt_succ 0)
  exact decodes_path present isPath (ofByte_code .kPath _ isBits)

lemma carries_newPathShort {jctId : Nat} {type : DbWireType} {rule : Option LayerRule}
    (agrees : Agrees tech known e s) (accepted : e.newPathShort jctId layer type rule = some e') :
    Carries tech known e e' s
      (s.startPath { s.place with layer := some layer, found := some layer } type)
      ((s.startPath { s.place with layer := some layer, found := some layer } type).expect
        (.short type jctId) none ::
        (s.startPath { s.place with layer := some layer, found := some layer } type).expectRule
          rule) := by
  rcases newPathFrom_spec accepted with ⟨bits, isBits, started, noPoint, ops⟩
  have isShort := opOf_code .kShort bits (wireType_bits isBits).1
  have search := shows_rule rule (shows_passed _ (jctId : Int) .kOperand (opOf_plain _) rfl
    (shows_start _ (layer : Int) (.inr isShort)
      (showsLast_forget s.place.x s.place.y agrees.search)))
  rw [← ops] at search
  rw [append_assoc, append_assoc, ← append_assoc [_] [_]] at ops
  have agrees' := agrees_start { s.place with layer := some layer, found := some layer } agrees started isBits noPoint ops search
  apply carries_start _ agrees' ops (cons_ne_nil _ _) (notRule_cons _ isShort (by decide))
    noPoint
  intro all d chunk
  have present := chunk 0 (Nat.zero_lt_succ 1)
  have second := chunk 1 (Nat.lt_succ_self 1)
  exact decodes_short present isShort second (ofByte_code .kShort _ isBits)

lemma carries_newPathVirtualWire {jctId : Nat} {type : DbWireType} {rule : Option LayerRule}
    (agrees : Agrees tech known e s)
    (accepted : e.newPathVirtualWire jctId layer type rule = some e') :
    Carries tech known e e' s (s.startPath { s.place with layer := some layer } type)
      ((s.startPath { s.place with layer := some layer } type).expect (.vwire type jctId) none ::
        (s.startPath { s.place with layer := some layer } type).expectRule rule) := by
  rcases newPathFrom_spec accepted with ⟨bits, isBits, started, noPoint, ops⟩
  have isVwire := opOf_code .kVwire bits (wireType_bits isBits).1
  have search := shows_rule rule (shows_passed _ (jctId : Int) .kOperand (opOf_plain _) rfl
    (shows_passed _ (layer : Int) .kVwire isVwire rfl
      (showsLast_forget s.place.x s.place.y agrees.search)))
  rw [← ops] at search
  rw [append_assoc, append_assoc, ← append_assoc [_] [_]] at ops
  have agrees' := agrees_start { s.place with layer := some layer } agrees started isBits noPoint ops search
  apply carries_start _ agrees' ops (cons_ne_nil _ _) (notRule_cons _ isVwire (by decide))
    noPoint
  intro all d chunk
  have present := chunk 0 (Nat.zero_lt_succ 1)
  have second := chunk 1 (Nat.lt_succ_self 1)
  exact decodes_vwire present isVwire second (ofByte_code .kVwire _ isBits)

/-- The encoder at the start of a path from a junction: its first point is there. -/
structure JunctionStarted (e e' : WireEncoder) (jctId : Nat) (ext : Option Int)
    (rule : Option LayerRule) (bits : UInt8) (pnt : WirePoint) (flags : UInt8) (value : Int) :
    Prop where
  started : PathStarted e' pnt.layer bits
  x : e'.x = pnt.x
  y : e'.y = pnt.y
  pointCnt : e'.pointCnt = 1
  ops : e'.ops = e.ops ++ [(WireOp.kJunction.code ||| bits, (jctId : Int))] ++ ruleOps rule ++
    [(WireOp.kColinear.code ||| flags, value)]
  extFlags : PointFlags flags ext.isSome
  operand : ∀ ext' ∈ ext, value = ext'

variable {jctId : Nat} {ext : Option Int} {type : Option DbWireType} {rule : Option LayerRule}

lemma newPathJct_spec (accepted : e.newPathJct tech jctId ext type rule = some e')
    (old : s.wireType.bits = some e.wireType) :
    ∃ bits pnt flags value, (type.getD s.wireType).bits = some bits ∧
      junctionPoint tech e.ops jctId = some pnt ∧
      JunctionStarted e e' jctId ext rule bits pnt flags value := by
  rcases bind_eq_some_iff.mp accepted with ⟨bits, isBits, accepted⟩
  rcases bind_eq_some_iff.mp accepted with ⟨pnt, isPnt, same⟩
  have isBits' : (type.getD s.wireType).bits = some bits := by
    cases type with
    | none => exact old.trans isBits
    | some type => exact isBits
  have zero := @pointFlags_width 0 (.inr rfl)
  have width := @pointFlags_width WOP_DEFAULT_WIDTH (.inl rfl)
  have zeroExt := @pointFlags_ext 0 (.inr rfl)
  have widthExt := @pointFlags_ext WOP_DEFAULT_WIDTH (.inl rfl)
  cases rule with
  | none =>
    have noRule : ∀ ops : List Op, ops ++ ruleOps none = ops := append_nil
    cases ext with
    | none =>
      cases same
      exact ⟨bits, pnt, _, 0, isBits', isPnt, ⟨rfl, rfl, fun noRule => absurd rfl noRule⟩, rfl,
        rfl, rfl, (by rw [noRule]; rfl), width, by simp⟩
    | some ext =>
      cases same
      exact ⟨bits, pnt, _, ext, isBits', isPnt, ⟨rfl, rfl, fun noRule => absurd rfl noRule⟩,
        rfl, rfl, rfl, (by rw [noRule]; rfl), widthExt, fun _ same => Option.some.inj same⟩
  | some rule =>
    cases ext with
    | none =>
      cases same
      exact ⟨bits, pnt, _, 0, isBits', isPnt, ⟨rfl, rfl, fun _ => (ruleByte rule).1⟩, rfl, rfl,
        rfl, rfl, zero, by simp⟩
    | some ext =>
      cases same
      exact ⟨bits, pnt, _, ext, isBits', isPnt, ⟨rfl, rfl, fun _ => (ruleByte rule).1⟩, rfl,
        rfl, rfl, rfl, zeroExt, fun _ same => Option.some.inj same⟩

lemma junction_found {jctId : Nat} {pnt : WirePoint} (agrees : Agrees tech known e s)
    (isKnown : jctId ∈ known) (isPnt : junctionPoint tech e.ops jctId = some pnt) :
    pnt = (s.jct jctId).pnt ∧ ∀ more, junctionPoint tech (e.ops ++ more) jctId = some pnt := by
  have shown := (agrees.junctions jctId isKnown).2
  have here := shows_junctionPoint shown
  rw [isPnt] at here
  split at here
  · cases here
  · rename_i hasLayer
    have same := Option.some.inj here
    refine ⟨same, ?_⟩
    intro more
    rw [shows_junctionPoint (shows_append more shown), if_neg hasLayer, same]

lemma decodes_newPathJct (agrees : Agrees tech known e s) (isKnown : jctId ∈ known)
    (accepted : e.newPathJct tech jctId ext type rule = some e') (more : List Op)
    (d : WireDecoder) (follows : Follows e s d) :
    WireDecoder.Decodes tech (e'.ops ++ more) d
      [⟨.junction (type.getD s.wireType) jctId, d.idx, (s.jct jctId).found, d.color, d.viaColor⟩]
      { d.started 1 (s.jct jctId).found (type.getD s.wireType) with
        x := (s.jct jctId).x, y := (s.jct jctId).y } := by
  rcases newPathJct_spec accepted agrees.wireType with
    ⟨bits, pnt, flags, value, isBits, isPnt, jct⟩
  have found := junction_found agrees isKnown isPnt
  have ops : e'.ops ++ more = e.ops ++ ([(kJunction.code ||| bits, (jctId : Int))] ++
      (ruleOps rule ++ ([(kColinear.code ||| flags, value)] ++ more))) := by
    rw [jct.ops]
    simp only [append_assoc]
  have shown := found.2 ([(kJunction.code ||| bits, (jctId : Int))] ++
    (ruleOps rule ++ ([(kColinear.code ||| flags, value)] ++ more)))
  rw [← ops, found.1] at shown
  have present : (e'.ops ++ more)[d.idx]? =
      some (kJunction.code ||| bits, (jctId : Int)) := by
    rw [ops, follows.idx, getElem?_rest]
    rfl
  exact decodes_junction present (opOf_code _ _ (wireType_bits isBits).1)
    (ofByte_code .kJunction _ isBits) shown

lemma agrees_newPathJct (agrees : Agrees tech known e s) (isKnown : jctId ∈ known)
    (accepted : e.newPathJct tech jctId ext type rule = some e')
    (finds : (s.jct jctId).found = (s.jct jctId).layer) :
    Agrees tech known e' (s.startPath (s.jct jctId) (type.getD s.wireType)) := by
  rcases newPathJct_spec accepted agrees.wireType with
    ⟨bits, pnt, flags, value, isBits, isPnt, jct⟩
  have found := junction_found agrees isKnown isPnt
  have junction := agrees.junctions jctId isKnown
  have search := shows_passed _ value .kColinear (opOf_code _ flags jct.extFlags.free) rfl
    (shows_rule rule (shows_junction _ jctId (opOf_code _ _ (wireType_bits isBits).1) junction.1
      junction.2))
  rw [← jct.ops] at search
  have ops := jct.ops
  simp only [append_assoc] at ops
  exact {
    layer := by rw [jct.started.layer, found.1]; exact finds
    wireType := by rw [jct.started.wireType]; exact isBits
    here := fun _ => by rw [jct.x, jct.y, found.1]; exact ⟨rfl, rfl⟩
    ruleOp := jct.started.ruleOp
    search := by rw [jct.pointCnt]; exact search
    junctions := ops ▸ junctions_append _ agrees.junctions }

lemma decodes_colinear {d : WireDecoder} {ext : Option Int} {flags : UInt8} {value : Int}
    (present : all[d.idx]? = some (kColinear.code ||| flags, value))
    (extFlags : PointFlags flags ext.isSome) (operand : ∀ ext' ∈ ext, value = ext') :
    WireDecoder.Decodes tech all d
      [⟨pointKind d.x d.y ext, d.idx, d.layer, d.color, d.viaColor⟩]
      (flushRule all { d with idx := d.idx + 1, pointCnt := d.pointCnt + 1 }) := by
  have kind := opOf_code .kColinear flags extFlags.free
  have isExt := (hasFlag_code .kColinear flags WOP_EXTENSION (by decide)).trans extFlags.extension
  apply decodes_found
  rw [stepOp, nextOp_eq present]
  simp only [bind_eq_bind, bind_some, kind, isExt]
  cases ext with
  | none => rfl
  | some ext =>
    rw [operand ext rfl]
    rfl

lemma carries_newPathJct (agrees : Agrees tech known e s) (isKnown : jctId ∈ known)
    (accepted : e.newPathJct tech jctId ext type rule = some e')
    (finds : (s.jct jctId).found = (s.jct jctId).layer) :
    Carries tech known e e' s (s.step tech (.newPathJct jctId ext type rule, none)).1
      (s.step tech (.newPathJct jctId ext type rule, none)).2 := by
  have agrees' := agrees_newPathJct agrees isKnown accepted finds
  have first := decodes_newPathJct agrees isKnown accepted
  rcases newPathJct_spec accepted agrees.wireType with
    ⟨bits, pnt, flags, value, isBits, isPnt, jct⟩
  have isJunction := opOf_code .kJunction bits (wireType_bits isBits).1
  have ops := jct.ops
  simp only [append_assoc] at ops
  refine ⟨agrees', ⟨_, ops, by simp, notRule_cons _ isJunction (by decide)⟩, ?_⟩
  intro more d notRule follows
  have chunk := getElem?_chunk e.ops ([(kJunction.code ||| bits, (jctId : Int))] ++
    (ruleOps rule ++ [(kColinear.code ||| flags, value)])) more
  rw [← ops, ← follows.idx] at chunk
  have split := chunk_split chunk
  have split' := chunk_split split.2
  have found := first more d follows
  rw [finds] at found
  let d₁ : WireDecoder := { d.started 1 (s.jct jctId).layer (type.getD s.wireType) with
    x := (s.jct jctId).x, y := (s.jct jctId).y }
  let d₂ : WireDecoder := { d₁ with idx := d₁.idx + (ruleOps rule).length }
  let d₃ : WireDecoder := { d₂ with idx := d₂.idx + 1, pointCnt := d₂.pointCnt + 1 }
  rcases decodes_ruleOps tech (s.startPath (s.jct jctId) (type.getD s.wireType)) d₁ rule split'.1
    rfl follows.color follows.viaColor with ⟨els, second, matches'⟩
  have present : (e'.ops ++ more)[d₂.idx]? = some (kColinear.code ||| flags, value) :=
    split'.2 0 (Nat.zero_lt_succ 0)
  have third : WireDecoder.Decodes tech (e'.ops ++ more) d₂ _ _ :=
    decodes_colinear present jct.extFlags jct.operand
  have length : d₃.idx = e'.ops.length := by
    have start : d₃.idx = d.idx + 1 + (ruleOps rule).length + 1 := rfl
    rw [start, follows.idx, jct.ops]
    simp only [length_append, length_singleton]
  have flushed : d₃.flushRule (e'.ops ++ more) = d₃ := flushRule_none length notRule
  rw [flushed] at third
  refine ⟨_, d₃, decodes_trans found (decodes_trans second third), ?_, ?_⟩
  · apply Forall₂.cons
    · exact ⟨rfl, fun _ isReturned => (nomatch isReturned), rfl, follows.color, follows.viaColor⟩
    · apply rel_append matches'
      exact Forall₂.cons ⟨rfl, fun _ isReturned => (nomatch isReturned), rfl, follows.color,
        follows.viaColor⟩ nil
  · exact {
      idx := length
      layer := rfl
      pointCnt := by
        rw [jct.pointCnt]
        exact ⟨fun none => absurd none (Nat.succ_ne_zero _), fun none => absurd none (by decide)⟩
      here := fun _ => ⟨rfl, rfl⟩
      wireType := rfl
      color := follows.color
      viaColor := follows.viaColor }

end OpenRoad.Odb
