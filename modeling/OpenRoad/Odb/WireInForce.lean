import OpenRoad.Odb.WireDecode

/-! What the calls of `dbWireEncoder` put in force, and that the encoder keeps it. -/

namespace OpenRoad.Odb

open WireEncoder

structure Place where
  x : Int
  y : Int
  layer : Option Nat
  found : Option Nat
  deriving DecidableEq

def Place.pnt (place : Place) : WirePoint := ⟨place.x, place.y, place.found⟩

structure InForce where
  place : Place
  wireType : DbWireType
  color : Option Nat
  viaColor : Option ViaColor
  /-- The place of each junction id. -/
  jct : Nat → Place

structure Expected where
  kind : ElementKind
  returned : Option Nat
  layer : Option Nat
  color : Option Nat
  viaColor : Option ViaColor

def Expected.Matches (expected : Expected) (element : Element) : Prop :=
  element.kind = expected.kind ∧ (∀ id ∈ expected.returned, element.jctId = id) ∧
    element.layer = expected.layer ∧ element.color = expected.color ∧
    element.viaColor = expected.viaColor

namespace InForce

def new : InForce := ⟨⟨0, 0, none, none⟩, .none, none, none, fun _ => ⟨0, 0, none, none⟩⟩

def expect (s : InForce) (kind : ElementKind) (returned : Option Nat) : Expected :=
  ⟨kind, returned, s.place.layer, s.color, s.viaColor⟩

def startPath (place : Place) (type : DbWireType) (s : InForce) : InForce :=
  { s with place := place, wireType := type }

def expectRule (rule : Option LayerRule) (s : InForce) : List Expected :=
  rule.toList.map fun rule => s.expect (.rule rule.isBlockRule rule.id) none

def moveTo (place : Place) (returned : Option Nat) (s : InForce) : InForce :=
  { s with
    place := place
    jct := fun id => if some id = returned then place else s.jct id }

def throughVia (top bottom : Nat) (returned : Option Nat) (s : InForce) : InForce :=
  let exit := if s.place.layer = some top then bottom else top
  s.moveTo { s.place with layer := some exit, found := some exit } returned

def pointKind (x y : Int) : Option Int → ElementKind
  | none => .point x y
  | some ext => .pointExt x y ext

/-- What a call puts in force, and the elements that it adds. -/
def step (tech : WireTech) (s : InForce) : WireCall × Option Nat → InForce × List Expected
  | (.addPoint x y _, returned) =>
    let s := s.moveTo { s.place with x := x, y := y } returned
    (s, [s.expect (.point x y) returned])
  | (.addPointExt x y ext _, returned) =>
    let s := s.moveTo { s.place with x := x, y := y } returned
    (s, [s.expect (.pointExt x y ext) returned])
  | (.addVia via, returned) =>
    let s := s.throughVia (tech.viaTop via) (tech.viaBottom via) returned
    (s, [s.expect (.via via) returned])
  | (.addTechVia via, returned) =>
    let s := s.throughVia (tech.techViaTop via) (tech.techViaBottom via) returned
    -- a technology via clears the colour behind it
    ({ s with color := none }, [s.expect (.techVia via) returned])
  | (.addRect deltaX1 deltaY1 deltaX2 deltaY2, _) =>
    (s, [s.expect (.rect deltaX1 deltaY1 deltaX2 deltaY2) none])
  | (.addITerm iterm, _) => (s, [s.expect (.iterm iterm) none])
  | (.addBTerm bterm, _) => (s, [s.expect (.bterm bterm) none])
  | (.newPath layer type rule, _) =>
    let s := s.startPath { s.place with layer := some layer, found := some layer } type
    (s, s.expect (.path type) none :: s.expectRule rule)
  | (.newPathJct jctId ext type rule, _) =>
    let type := type.getD s.wireType
    let s := s.startPath (s.jct jctId) type
    (s, s.expect (.junction type jctId) none ::
      (s.expectRule rule ++ [s.expect (pointKind s.place.x s.place.y ext) none]))
  | (.newPathShort jctId layer type rule, _) =>
    let s := s.startPath { s.place with layer := some layer, found := some layer } type
    (s, s.expect (.short type jctId) none :: s.expectRule rule)
  | (.newPathVirtualWire jctId layer type rule, _) =>
    let s := s.startPath { s.place with layer := some layer } type
    (s, s.expect (.vwire type jctId) none :: s.expectRule rule)
  | (.setColor maskColor, _) => ({ s with color := some maskColor }, [])
  | (.clearColor, _) => ({ s with color := none }, [])
  | (.setViaColor bottom cut top, _) =>
    ({ s with
      viaColor := if bottom = 0 ∧ cut = 0 ∧ top = 0 then none else some (bottom, cut, top) }, [])
  | (.clearViaColor, _) => ({ s with viaColor := none }, [])

def expected (tech : WireTech) (s : InForce) : WireEncoder.Trace → List Expected
  | [] => []
  | first :: rest => (s.step tech first).2 ++ expected tech (s.step tech first).1 rest

def finds (s : InForce) : WireCall → Bool
  | .newPathJct jctId _ _ _ => (s.jct jctId).found = (s.jct jctId).layer
  | _ => true

def junctionsFound (tech : WireTech) (s : InForce) : WireEncoder.Trace → Bool
  | [] => true
  | first :: rest => s.finds first.1 && junctionsFound tech (s.step tech first).1 rest

end InForce

variable {tech : WireTech} {known : List Nat} {e e' : WireEncoder} {s : InForce}

structure Agrees (tech : WireTech) (known : List Nat) (e : WireEncoder) (s : InForce) : Prop where
  layer : e.layer = s.place.layer
  wireType : s.wireType.bits = some e.wireType
  here : e.pointCnt ≠ 0 → e.x = s.place.x ∧ e.y = s.place.y
  ruleOp : e.nonDefaultRule ≠ 0 → opOf e.ruleOpcode = some .kRule
  search : ShowsLast tech e.ops (e.pointCnt ≠ 0) (e.pointCnt ≠ 0) s.place.pnt
  junctions : ∀ id ∈ known, id < e.ops.length ∧ Shows tech e.ops id true true (s.jct id).pnt

lemma agrees_new (tech : WireTech) : Agrees tech [] .new .new where
  layer := rfl
  wireType := rfl
  here noPoint := absurd rfl noPoint
  ruleOp noRule := absurd rfl noRule
  search := showsLast_nil 0 0
  junctions _ isKnown := nomatch isKnown

lemma agrees_colors (color : Option Nat) (viaColor : Option ViaColor)
    (agrees : Agrees tech known e s) :
    Agrees tech known e { s with color := color, viaColor := viaColor } :=
  ⟨agrees.layer, agrees.wireType, agrees.here, agrees.ruleOp, agrees.search, agrees.junctions⟩

lemma junctions_append (more : List Op) (junctions : ∀ id ∈ known, id < e.ops.length ∧
      Shows tech e.ops id true true (s.jct id).pnt) :
    ∀ id ∈ known, id < (e.ops ++ more).length ∧
      Shows tech (e.ops ++ more) id true true (s.jct id).pnt := by
  intro id isKnown
  have earlier := junctions id isKnown
  have longer : e.ops.length ≤ (e.ops ++ more).length := by simp
  exact ⟨Nat.lt_of_lt_of_le earlier.1 longer, shows_append more earlier.2⟩

lemma agrees_addOp (op : WireOp) (byte : UInt8) (value : Int) (kind : opOf byte = some op)
    (passed : op.passed = true) (agrees : Agrees tech known e s) :
    Agrees tech known (e.addOp byte value) s where
  layer := agrees.layer
  wireType := agrees.wireType
  here := agrees.here
  ruleOp := agrees.ruleOp
  search := shows_passed byte value op kind passed agrees.search
  junctions := junctions_append _ agrees.junctions

lemma widthFlag_cases (e : WireEncoder) : e.widthFlag = WOP_DEFAULT_WIDTH ∨ e.widthFlag = 0 := by
  rw [widthFlag]
  split
  · exact .inl rfl
  · exact .inr rfl

structure PointFlags (flags : UInt8) (ext : Bool) : Prop where
  free : flags &&& WOP_OPCODE_MASK = 0
  extension : hasFlag flags WOP_EXTENSION = ext

lemma pointFlags_width {width : UInt8} (known : width = WOP_DEFAULT_WIDTH ∨ width = 0) :
    PointFlags width false := by
  rcases known with same | same <;> rw [same] <;> exact ⟨by decide, by decide⟩

lemma pointFlags_ext {width : UInt8} (known : width = WOP_DEFAULT_WIDTH ∨ width = 0) :
    PointFlags (WOP_EXTENSION ||| width) true := by
  rcases known with same | same <;> rw [same] <;> exact ⟨by decide, by decide⟩

def operandOps (ext : Option Int) : List Op := ext.toList.map fun ext => (WireOp.kOperand.code, ext)

/-- The ops of a point: those up to the one that its junction id names, and its operand. -/
inductive PointOps (e : WireEncoder) (x y : Int) (ext : Option Int) : List Op → List Op → Prop
  | first (width flags : UInt8) (noPoint : e.pointCnt = 0) (widthFlags : PointFlags width false)
      (extFlags : PointFlags flags ext.isSome) :
      PointOps e x y ext [(WireOp.kX.code ||| width, x), (WireOp.kY.code ||| flags, y)]
        (operandOps ext)
  | colinear (flags : UInt8) (value : Int) (hasPoint : e.pointCnt ≠ 0) (sameX : e.x = x)
      (sameY : e.y = y) (extFlags : PointFlags flags ext.isSome) (operand : ∀ ext' ∈ ext,
      value = ext') :
      PointOps e x y ext [(WireOp.kColinear.code ||| flags, value)] []
  | alongX (flags : UInt8) (hasPoint : e.pointCnt ≠ 0) (sameY : e.y = y)
      (extFlags : PointFlags flags ext.isSome) :
      PointOps e x y ext [(WireOp.kX.code ||| flags, x)] (operandOps ext)
  | alongY (flags : UInt8) (hasPoint : e.pointCnt ≠ 0) (sameX : e.x = x)
      (extFlags : PointFlags flags ext.isSome) :
      PointOps e x y ext [(WireOp.kY.code ||| flags, y)] (operandOps ext)

structure PointAdded (e mid : WireEncoder) (x y : Int) (ext : Option Int) (core operands : List Op)
    (id : Nat) : Prop where
  point : PointOps e x y ext core operands
  ops : mid.ops = e.ops ++ core ++ operands
  named : id + 1 = e.ops.length + core.length
  layer : mid.layer = e.layer
  wireType : mid.wireType = e.wireType
  rule : mid.nonDefaultRule = e.nonDefaultRule
  ruleOpcode : mid.ruleOpcode = e.ruleOpcode
  x : mid.x = x
  y : mid.y = y
  hasPoint : mid.pointCnt ≠ 0
  first : e.pointCnt = 0 → mid.pointCnt = 1

lemma addPoint_spec {x y : Int} {property id : Nat}
    (added : e.addPoint x y property = some (e', id)) :
    ∃ mid core operands, e' = mid.endPoint property ∧
      PointAdded e mid x y none core operands id := by
  have width := widthFlag_cases e
  rw [addPoint] at added
  simp only at added
  split at added
  · rename_i noPoint
    cases added
    exact ⟨_, _, _, rfl, ⟨.first _ _ noPoint (pointFlags_width width) (pointFlags_width width),
      by simp [addOp, operandOps], rfl, rfl, rfl, rfl, rfl, rfl, rfl, by simp,
      fun _ => rfl⟩⟩
  · rename_i hasPoint
    split at added
    · rename_i same
      cases added
      exact ⟨_, _, _, rfl, ⟨.colinear _ 0 hasPoint same.1 same.2 (pointFlags_width width) (by simp),
        by simp [addOp], rfl, rfl, rfl, rfl, rfl, same.1, same.2, hasPoint,
        fun noPoint => absurd noPoint hasPoint⟩⟩
    · split at added
      · rename_i sameY
        cases added
        exact ⟨_, _, _, rfl, ⟨.alongX _ hasPoint sameY (pointFlags_width width),
          by simp [addOp, operandOps], rfl, rfl, rfl, rfl, rfl, rfl, sameY, by simp,
          fun noPoint => absurd noPoint hasPoint⟩⟩
      · split at added
        · rename_i sameX
          cases added
          exact ⟨_, _, _, rfl, ⟨.alongY _ hasPoint sameX (pointFlags_width width),
            by simp [addOp, operandOps], rfl, rfl, rfl, rfl, rfl, sameX, rfl, by simp,
            fun noPoint => absurd noPoint hasPoint⟩⟩
        · cases added

lemma addPointExt_spec {x y ext : Int} {property id : Nat}
    (added : e.addPointExt x y ext property = some (e', id)) :
    ∃ mid core operands, e' = mid.endPoint property ∧
      PointAdded e mid x y (some ext) core operands id := by
  have width := widthFlag_cases e
  rw [addPointExt] at added
  simp only at added
  split at added
  · rename_i noPoint
    cases added
    exact ⟨_, _, _, rfl, ⟨.first _ _ noPoint (pointFlags_width width) (pointFlags_ext width),
      by simp [addOp, operandOps], rfl, rfl, rfl, rfl, rfl, rfl, rfl, by simp,
      fun _ => rfl⟩⟩
  · rename_i hasPoint
    split at added
    · rename_i same
      split at added
      · cases added
        exact ⟨_, _, _, rfl, ⟨.colinear _ _ hasPoint same.1 same.2 (pointFlags_ext width)
          (fun _ same => Option.some.inj same),
          by simp [addOp], rfl, rfl, rfl, rfl, rfl, same.1, same.2, hasPoint,
          fun noPoint => absurd noPoint hasPoint⟩⟩
      · cases added
    · split at added
      · rename_i sameY
        cases added
        exact ⟨_, _, _, rfl, ⟨.alongX _ hasPoint sameY (pointFlags_ext width),
          by simp [addOp, operandOps], rfl, rfl, rfl, rfl, rfl, rfl, sameY, by simp,
          fun noPoint => absurd noPoint hasPoint⟩⟩
      · split at added
        · rename_i sameX
          cases added
          exact ⟨_, _, _, rfl, ⟨.alongY _ hasPoint sameX (pointFlags_ext width),
            by simp [addOp, operandOps], rfl, rfl, rfl, rfl, rfl, sameX, rfl, by simp,
            fun noPoint => absurd noPoint hasPoint⟩⟩
        · cases added

/-- What may follow an element: the decoder would take a rule for the hidden one. -/
def NotRule (more : List Op) : Prop := ∀ op ∈ more.head?, opOf op.1 ≠ some .kRule

lemma notRule_cons {op : WireOp} {byte : UInt8} {value : Int} (rest : List Op)
    (kind : opOf byte = some op) (other : op ≠ .kRule) : NotRule ((byte, value) :: rest) := by
  intro first isFirst
  rw [← Option.some.inj isFirst, kind]
  exact fun same => other (Option.some.inj same)

lemma endPoint_spec (property : Nat) (agrees : Agrees tech known e s) :
    ∃ hidden props, (e.endPoint property).ops = e.ops ++ hidden ++ props ∧
      (hidden = [] ∨ e.pointCnt ≠ 1 ∧ ∃ byte value, hidden = [(byte, value)] ∧
        opOf byte = some .kRule) ∧
      (props = [] ∨ ∃ value, props = [(WireOp.kProperty.code, value)]) ∧
      (e.endPoint property).pointCnt = e.pointCnt ∧ (e.endPoint property).x = e.x ∧
      (e.endPoint property).y = e.y ∧ Agrees tech known (e.endPoint property) s := by
  rw [endPoint]
  split
  · rename_i again
    have isRule := agrees.ruleOp again.1
    have later : e.pointCnt ≠ 1 := by
      intro one
      rw [one] at again
      exact absurd again.2.2 (by decide)
    have behind : Agrees tech known e.addRuleOp s := agrees_addOp .kRule _ _ isRule rfl agrees
    rw [if_pos (show e.addRuleOp.pointCnt ≠ 1 from later)]
    exact ⟨_, _, rfl, .inr ⟨later, _, _, rfl, isRule⟩, .inr ⟨_, rfl⟩, rfl, rfl, rfl,
      agrees_addOp .kProperty _ _ (opOf_plain _) rfl behind⟩
  · split
    · exact ⟨[], [(WireOp.kProperty.code, (property : Int))], by simp [addOp],
        .inl rfl, .inr ⟨_, rfl⟩, rfl, rfl, rfl, agrees_addOp .kProperty _ _ (opOf_plain _) rfl agrees⟩
    · exact ⟨[], [], by simp, .inl rfl, .inl rfl, rfl, rfl, rfl, agrees⟩

lemma shows_operands {ops : List Op} {hasX hasY : Bool} {found : WirePoint} (ext : Option Int)
    (last : ShowsLast tech ops hasX hasY found) :
    ShowsLast tech (ops ++ operandOps ext) hasX hasY found := by
  cases ext with
  | none => simpa [operandOps] using last
  | some ext => exact shows_passed _ ext .kOperand (opOf_plain _) rfl last

lemma point_search {x y : Int} {ext : Option Int} {core operands : List Op}
    (agrees : Agrees tech known e s) (point : PointOps e x y ext core operands) :
    ShowsLast tech (e.ops ++ core) true true ⟨x, y, s.place.found⟩ ∧
      ShowsLast tech (e.ops ++ core ++ operands) true true ⟨x, y, s.place.found⟩ := by
  have search := agrees.search
  cases point with
  | first width flags noPoint widthFlags extFlags =>
    rw [show (e.ops ++ [(WireOp.kX.code ||| width, x), (WireOp.kY.code ||| flags, y)]) =
      e.ops ++ [(WireOp.kX.code ||| width, x)] ++ [(WireOp.kY.code ||| flags, y)] by simp]
    have seenX := shows_x _ x (opOf_code .kX width widthFlags.free) search
    have seenY := shows_y _ y (opOf_code .kY flags extFlags.free) seenX
    exact ⟨seenY, shows_operands ext seenY⟩
  | colinear flags value hasPoint sameX sameY extFlags operand =>
    have here := agrees.here hasPoint
    have seen := shows_passed _ value .kColinear (opOf_code _ flags extFlags.free) rfl search
    rw [Place.pnt, ← here.1, ← here.2, sameX, sameY] at seen
    simp only [ne_eq, hasPoint, not_false_eq_true, decide_true] at seen
    rw [List.append_nil]
    exact ⟨seen, seen⟩
  | alongX flags hasPoint sameY extFlags =>
    have here := agrees.here hasPoint
    have seen := shows_x _ x (opOf_code .kX flags extFlags.free) search
    rw [Place.pnt, ← here.2, sameY] at seen
    simp only [ne_eq, hasPoint, not_false_eq_true, decide_true] at seen
    exact ⟨seen, shows_operands ext seen⟩
  | alongY flags hasPoint sameX extFlags =>
    have here := agrees.here hasPoint
    have seen := shows_y _ y (opOf_code .kY flags extFlags.free) search
    rw [Place.pnt, ← here.1, sameX] at seen
    simp only [ne_eq, hasPoint, not_false_eq_true, decide_true] at seen
    exact ⟨seen, shows_operands ext seen⟩

lemma junctions_moveTo (place : Place) (rest : List Op) {id : Nat} {core : List Op}
    (junctions : ∀ id ∈ known, id < e.ops.length ∧ Shows tech e.ops id true true (s.jct id).pnt)
    (named : id + 1 = e.ops.length + core.length)
    (shown : ShowsLast tech (e.ops ++ core) true true place.pnt) :
    ∀ id' ∈ id :: known, id' < (e.ops ++ core ++ rest).length ∧
      Shows tech (e.ops ++ core ++ rest) id' true true ((s.moveTo place (some id)).jct id').pnt := by
  intro id' isKnown
  have length : (e.ops ++ core).length = id + 1 := by simp [named]
  simp only [InForce.moveTo, Option.some.injEq]
  by_cases same : id' = id
  · have here := shows_append rest (shows_last length shown)
    rw [if_pos same, same]
    exact ⟨by simp only [List.length_append] at length ⊢; omega, here⟩
  · rw [if_neg same]
    have old := (List.mem_cons.mp isKnown).resolve_left same
    have later := junctions_append (core ++ rest) junctions id' old
    rw [← List.append_assoc] at later
    exact later

lemma agrees_point {mid : WireEncoder} {x y : Int} {ext : Option Int} {core operands : List Op}
    {id : Nat} (agrees : Agrees tech known e s) (added : PointAdded e mid x y ext core operands id) :
    Agrees tech (id :: known) mid (s.moveTo { s.place with x := x, y := y } (some id)) := by
  have search := point_search agrees added.point
  have hasPoint : decide (mid.pointCnt ≠ 0) = true := decide_eq_true added.hasPoint
  have known' := junctions_moveTo { s.place with x := x, y := y } operands agrees.junctions added.named search.1
  rw [← added.ops] at known' search
  exact {
    layer := added.layer.trans agrees.layer
    wireType := added.wireType ▸ agrees.wireType
    here := fun _ => ⟨added.x, added.y⟩
    ruleOp := by rw [added.rule, added.ruleOpcode]; exact agrees.ruleOp
    search := by rw [hasPoint]; exact search.2
    junctions := known' }

end OpenRoad.Odb
