import OpenRoad.Odb.WireSegment

/-! When `getSegment` gives the same shape with and without a known layer. -/

namespace OpenRoad.Odb

open SegmentScan List

open Option

def Visit.kind (v : Visit) : Option WireOp := opOf v.1.1

/-- The ops behind both coordinates of an earlier point, if only points, rules and junctions are
read up to there. -/
def behindPoint : Bool → Bool → List Visit → Option (List Visit)
  | false, false, visits => some visits
  | _, _, [] => none
  | needX, needY, v :: visits =>
    match v.kind with
    | some .kX => behindPoint false needY visits
    | some .kY => behindPoint needX false visits
    | some .kColinear | some .kRule | some .kJunction | none => behindPoint needX needY visits
    | some _ => none

/-- The layer that an op of the second loop sets. -/
def layerOf (tech : WireTech) (op : Op) : Option Nat :=
  match opOf op.1 with
  | some .kPath | some .kShort | some .kVwire => some op.2.toNat
  | some .kVia => some (viaTo tech .kVia op.1 op.2)
  | some .kTechVia => some (viaTo tech .kTechVia op.1 op.2)
  | _ => none

def widthOf (layers : SegmentTech) (op : Op) : Option Int :=
  if opOf op.1 = some .kRule then some (ruleWidth layers op.1 op.2) else none

def firstLayer (tech : WireTech) (visits : List Visit) : Option Nat :=
  visits.findSome? fun v => layerOf tech v.1

def firstWidth (layers : SegmentTech) (visits : List Visit) : Option Int :=
  visits.findSome? fun v => widthOf layers v.1

def lastWidth (tech : WireTech) (layers : SegmentTech) : List Visit → Option Int
  | [] => none
  | v :: visits =>
    if (layerOf tech v.1).isSome then none
    else (lastWidth tech layers visits).or (widthOf layers v.1)

/-- The states in which an x, a y, or both are looked for, after a first point of the kind `start`. -/
def seeking (start : MachineInput) (needX needY : Bool) : List Nat :=
  match start, needX, needY with
  | .XInput, true, true => [1, 6]
  | .XInput, false, true => [4]
  | .XInput, true, false => [5]
  | .YInput, true, true => [2, 9]
  | .YInput, false, true => [7]
  | .YInput, true, false => [8]
  | .CInput, true, true => [3, 12]
  | .CInput, false, true => [10]
  | .CInput, true, false => [11]
  | _, false, false => [13]

lemma seeking_next : ∀ start input : MachineInput, ∀ needX needY : Bool, (needX || needY) = true →
    ∀ state ∈ seeking start needX needY, nextState state input ∈
      seeking start (needX && input ≠ .XInput) (needY && input ≠ .YInput) := by
  intro start input needX needY
  cases start <;> cases input <;> cases needX <;> cases needY <;> decide

lemma seeking_first (start : MachineInput) : nextState 0 start ∈ seeking start true true := by
  cases start <;> decide

lemma seeking_cur : ∀ start input : MachineInput, ∀ needX needY : Bool, (needX || needY) = true →
    ∀ state ∈ seeking start needX needY, curCoord state input = match input with
      | .XInput => if needX then .XCoord else .None
      | .YInput => if needY then .YCoord else .None
      | .CInput => .None := by
  intro start input needX needY
  cases start <;> cases input <;> cases needX <;> cases needY <;> decide

lemma seeking_prev : ∀ start input : MachineInput, ∀ needX needY : Bool, (needX || needY) = true →
    ∀ state ∈ seeking start needX needY, prevCoord state input = match input with
      | .XInput => if needX ∧ start ≠ .XInput then .XCoord else .None
      | .YInput => if needY ∧ start ≠ .YInput then .YCoord else .None
      | .CInput => .None := by
  intro start input needX needY
  cases start <;> cases input <;> cases needX <;> cases needY <;> decide

lemma seeking_pos : ∀ start : MachineInput, ∀ needX needY : Bool,
    ∀ state ∈ seeking start needX needY, state ≠ 0 := by
  intro start needX needY
  cases start <;> cases needX <;> cases needY <;> decide

lemma seeking_lt : ∀ start : MachineInput, ∀ needX needY : Bool, (needX || needY) = true →
    ∀ state ∈ seeking start needX needY, state < 13 := by
  intro start needX needY
  cases start <;> cases needX <;> cases needY <;> decide

section Loops

variable {tech : WireTech} {layers : SegmentTech} {start : MachineInput} {needX needY : Bool}
  {s s' : SegmentScan}

/-- Between the point `start` and the coordinates that are still looked for. -/
structure Midway (start : MachineInput) (needX needY : Bool) (s : SegmentScan) : Prop where
  state : s.state ∈ seeking start needX needY
  sameX : needX = false → start ≠ .XInput → s.prev.x = s.cur.x
  sameY : needY = false → start ≠ .YInput → s.prev.y = s.cur.y

def SegmentScan.known (s : SegmentScan) : Option Int := if s.foundWidth then some s.width else none

/-- The first loop does not look at anything else. -/
structure SameWidth (s s' : SegmentScan) : Prop where
  layer : s'.layer = s.layer
  width : s'.width = s.width
  foundWidth : s'.foundWidth = s.foundWidth
  defaultWidth : s'.defaultWidth = s.defaultWidth

lemma sameWidth_known (same : SameWidth s s') : s'.known = s.known := by
  rw [SegmentScan.known, SegmentScan.known, same.foundWidth, same.width]

variable (input : MachineInput) (opcode : UInt8) (value : Int)

lemma update_midway {behind : Option Op} (present : behind ≠ none)
    (seeks : (needX || needY) = true) (midway : Midway start needX needY s) :
    ∃ s', s.update input opcode value behind = some s' ∧ SameWidth s s' ∧
      Midway start (needX && input ≠ .XInput) (needY && input ≠ .YInput) s' := by
  rcases ne_none_iff_exists'.mp present with ⟨next, rfl⟩
  have notFirst := seeking_pos start needX needY s.state midway.state
  have cur := seeking_cur start input needX needY seeks s.state midway.state
  have prev := seeking_prev start input needX needY seeks s.state midway.state
  have moves : ∀ curExt, Midway start (needX && input ≠ .XInput) (needY && input ≠ .YInput) { s with
      curExt := curExt
      cur := s.cur.set value (curCoord s.state input)
      prev := s.prev.set value (prevCoord s.state input)
      state := nextState s.state input } := by
    intro curExt
    refine ⟨seeking_next start input needX needY seeks s.state midway.state, ?_, ?_⟩
    · intro foundX other
      simp only [cur, prev]
      have sameX := midway.sameX
      cases start <;> cases input <;> cases needX <;> cases needY <;> simp_all [Coords.set]
    · intro foundY other
      simp only [cur, prev]
      have sameY := midway.sameY
      cases start <;> cases input <;> cases needX <;> cases needY <;> simp_all [Coords.set]
  rw [update, if_neg notFirst]
  split
  · split
    · exact ⟨_, rfl, ⟨rfl, rfl, rfl, rfl⟩, moves _⟩
    · exact ⟨_, rfl, ⟨rfl, rfl, rfl, rfl⟩, moves _⟩
  · exact ⟨_, rfl, ⟨rfl, rfl, rfl, rfl⟩, moves _⟩

/-- What both first loops make of the ops that they read, where `behindPoint` is known. -/
def Outcome (tech : WireTech) (layers : SegmentTech) (start : MachineInput) (visits : List Visit)
    (s : SegmentScan) : Option (List Visit) → Prop
  | none => scanOps (readOnLayer layers) visits s = none
  | some rest => ∃ s', scanOps (readOnLayer layers) visits s = some (s', rest) ∧
    scanOps (SegmentScan.read tech layers) visits s = some (s', rest) ∧
    Midway start false false s' ∧ s'.layer = s.layer ∧ s'.defaultWidth = s.defaultWidth ∧
    s'.known.or (firstWidth layers rest) = s.known.or (firstWidth layers visits)

lemma behindPoint_found (visits : List Visit) : behindPoint false false visits = some visits := by
  cases visits <;> rfl

variable {op : Op} {behind : Option Op}

lemma outcome_step {visits : List Visit} (onLayer : readOnLayer layers op behind s = some s')
    (plain : SegmentScan.read tech layers op behind s = some s')
    (midway : Midway start needX needY s') (layer : s'.layer = s.layer)
    (defaultWidth : s'.defaultWidth = s.defaultWidth)
    (known : s'.known.or (firstWidth layers visits) =
      s.known.or (firstWidth layers ((op, behind) :: visits)))
    (ih : (needX || needY) = true →
      Outcome tech layers start visits s' (behindPoint needX needY visits)) :
    Outcome tech layers start ((op, behind) :: visits) s (behindPoint needX needY visits) := by
  cases seeks : needX || needY with
  | false =>
    rcases Bool.or_eq_false_iff.mp seeks with ⟨rfl, rfl⟩
    have done : s'.state = 13 := mem_singleton.mp (by
      have state := midway.state
      cases start <;> exact state)
    have stops : ¬ s'.state < 13 := by omega
    rw [behindPoint_found]
    refine ⟨s', ?_, ?_, midway, layer, defaultWidth, known⟩
    · rw [scanOps, onLayer]
      exact if_neg stops
    · rw [scanOps, plain]
      exact if_neg stops
  | true =>
    have goesOn := seeking_lt start needX needY seeks s'.state midway.state
    have later := ih seeks
    have first : scanOps (readOnLayer layers) ((op, behind) :: visits) s =
        scanOps (readOnLayer layers) visits s' := by
      rw [scanOps, onLayer]
      exact if_pos goesOn
    have first' : scanOps (SegmentScan.read tech layers) ((op, behind) :: visits) s =
        scanOps (SegmentScan.read tech layers) visits s' := by
      rw [scanOps, plain]
      exact if_pos goesOn
    cases rest : behindPoint needX needY visits with
    | none =>
      rw [rest] at later
      exact first.trans later
    | some rest' =>
      rw [rest] at later
      rcases later with ⟨s₁, found, found', midway', layer', default', known'⟩
      exact ⟨s₁, first.trans found, first'.trans found', midway', layer'.trans layer,
        default'.trans defaultWidth, known'.trans known⟩

lemma firstWidth_other (visits : List Visit) (other : opOf op.1 ≠ some .kRule) :
    firstWidth layers ((op, behind) :: visits) = firstWidth layers visits := by
  rw [firstWidth, findSome?_cons, widthOf, if_neg other]
  rfl

lemma firstWidth_rule (visits : List Visit) (isRule : opOf op.1 = some .kRule) :
    firstWidth layers ((op, behind) :: visits) =
      some (ruleWidth layers op.1 op.2) := by
  rw [firstWidth, findSome?_cons, widthOf, if_pos isRule]

lemma scanOps_point (visits : List Visit) (present : ∀ v ∈ visits, v.2 ≠ none)
    (seeks : (needX || needY) = true) (midway : Midway start needX needY s) :
    Outcome tech layers start visits s (behindPoint needX needY visits) := by
  induction visits generalizing needX needY s with
  | nil => cases needX <;> cases needY <;> first | exact absurd seeks (by decide) | rfl
  | cons v visits ih =>
    rcases v with ⟨op, behind⟩
    have later : ∀ {needX needY : Bool} {s' : SegmentScan}, Midway start needX needY s' →
        (needX || needY) = true →
        Outcome tech layers start visits s' (behindPoint needX needY visits) :=
      fun midway seeks => ih (fun v member => present v (mem_cons_of_mem _ member)) seeks midway
    have unfolded : behindPoint needX needY ((op, behind) :: visits) =
        match opOf op.1 with
        | some .kX => behindPoint false needY visits
        | some .kY => behindPoint needX false visits
        | some .kColinear | some .kRule | some .kJunction | none => behindPoint needX needY visits
        | some _ => none := by
      cases needX <;> cases needY <;> first | exact absurd seeks (by decide) | rfl
    have point : ∀ input : MachineInput,
        readOnLayer layers op behind s = s.update input op.1 op.2 behind →
        SegmentScan.read tech layers op behind s = s.update input op.1 op.2 behind →
        opOf op.1 ≠ some .kRule →
        Outcome tech layers start ((op, behind) :: visits) s
          (behindPoint (needX && input ≠ .XInput) (needY && input ≠ .YInput) visits) := by
      intro input onLayer plain other
      rcases update_midway input op.1 op.2 (present _ mem_cons_self) seeks midway with ⟨s', updated, same, midway'⟩
      apply outcome_step (onLayer.trans updated) (plain.trans updated) midway' same.layer
        same.defaultWidth _ (later midway')
      rw [firstWidth_other visits other, sameWidth_known same]
    rw [unfolded]
    cases kind : opOf op.1 with
    | none =>
      have plain : SegmentScan.read tech layers op behind s = some s := by
        rw [SegmentScan.read, kind]
      have onLayer : readOnLayer layers op behind s = some s := by
        rw [readOnLayer, kind]
      apply outcome_step onLayer plain midway rfl rfl _ (later midway)
      rw [firstWidth_other visits (by rw [kind]; decide)]
    | some wireOp =>
      cases wireOp
      case kX =>
        have result := point .XInput (by rw [readOnLayer, kind])
          (by rw [SegmentScan.read, kind]) (by rw [kind]; decide)
        simpa using result
      case kY =>
        have result := point .YInput (by rw [readOnLayer, kind])
          (by rw [SegmentScan.read, kind]) (by rw [kind]; decide)
        simpa using result
      case kColinear =>
        have result := point .CInput (by rw [readOnLayer, kind])
          (by rw [SegmentScan.read, kind]) (by rw [kind]; decide)
        simpa using result
      case kJunction =>
        have plain : SegmentScan.read tech layers op behind s =
            some { s with ignoreExt := true } := by
          rw [SegmentScan.read, kind]
        have onLayer : readOnLayer layers op behind s =
            some { s with ignoreExt := true } := by
          rw [readOnLayer, kind]
        have midway' : Midway start needX needY { s with ignoreExt := true } :=
          ⟨midway.state, midway.sameX, midway.sameY⟩
        apply outcome_step onLayer plain midway' rfl rfl _ (later midway')
        rw [firstWidth_other visits (by rw [kind]; decide)]
        rfl
      case kRule =>
        have plain : SegmentScan.read tech layers op behind s =
            readOnLayer layers op behind s := by
          rw [SegmentScan.read, readOnLayer, kind]
        have isRule : firstWidth layers ((op, behind) :: visits) = _ :=
          firstWidth_rule visits kind
        cases found : s.foundWidth with
        | true =>
          have onLayer : readOnLayer layers op behind s = some s := by
            rw [readOnLayer, kind]
            exact if_pos found
          apply outcome_step onLayer (plain.trans onLayer) midway rfl rfl _ (later midway)
          rw [SegmentScan.known, if_pos found]
          rfl
        | false =>
          have onLayer : readOnLayer layers op behind s = some { s with
              foundWidth := true, width := ruleWidth layers op.1 op.2 } := by
            rw [readOnLayer, kind]
            exact if_neg (ne_true_of_eq_false found)
          have midway' : Midway start needX needY { s with
              foundWidth := true, width := ruleWidth layers op.1 op.2 } :=
            ⟨midway.state, midway.sameX, midway.sameY⟩
          apply outcome_step onLayer (plain.trans onLayer) midway' rfl rfl _ (later midway')
          rw [isRule, SegmentScan.known, SegmentScan.known, if_neg (ne_true_of_eq_false found)]
          rfl
      all_goals
        have raised : readOnLayer layers op behind s = none := by
          rw [readOnLayer, kind]
        simp only [Outcome, scanOps, raised]
        rfl

def SegmentScan.found (width : Int) (s : SegmentScan) : SegmentScan :=
  { s with foundWidth := true, width := width }

lemma found_known {width : Int} (known : s.known = some width) : s.found width = s := by
  rw [SegmentScan.known] at known
  split at known
  · rename_i isFound
    rw [SegmentScan.found, ← Option.some.inj known, ← isFound]
  · cases known

lemma known_missing : s.known = none ↔ s.foundWidth = false := by
  rw [SegmentScan.known]
  cases s.foundWidth <;> simp

lemma scanBack_width (missing : SegmentScan → Bool) (read : Op → SegmentScan → SegmentScan)
    (visits : List Visit) (asks : missing s = !s.foundWidth)
    (reads : ∀ op, read op s = match widthOf layers op with
      | none => s
      | some width => s.found width)
    (stops : ∀ width, missing (s.found width) = false) :
    scanBack missing read visits s =
      (s.known.or (firstWidth layers visits)).map fun width => s.found width := by
  cases isFound : s.foundWidth with
  | true =>
    have known : s.known = some s.width := by rw [SegmentScan.known, if_pos isFound]
    have finished : missing s = false := by rw [asks, isFound]; rfl
    have stays : scanBack missing read visits s = some s := by
      cases visits <;> rw [scanBack, finished] <;> rfl
    rw [stays, known]
    exact congrArg some (found_known known).symm
  | false =>
    have asked : missing s = true := by rw [asks, isFound]; rfl
    rw [known_missing.mpr isFound, none_or]
    induction visits with
    | nil => rw [scanBack, if_pos asked]; rfl
    | cons v visits ih =>
      rw [scanBack, if_pos asked, reads, firstWidth, findSome?_cons]
      cases widthOf layers v.1 with
      | none => exact ih
      | some width =>
        have finished := stops width
        cases visits <;> simp only [scanBack, finished] <;> rfl

lemma setLayer_same {layer : Nat} (hasLayer : s.layer ≠ none) : s.setLayer layer = s := by
  rw [setLayer, if_neg hasLayer]

lemma readBack_width (hasLayer : s.layer ≠ none) (op : Op) :
    readBack tech layers op s = match widthOf layers op with
      | none => s
      | some width => s.found width := by
  rw [readBack, widthOf]
  cases opOf op.1 with
  | none => rfl
  | some kind => cases kind <;> first | rfl | exact setLayer_same hasLayer

lemma readBackOnLayer_width (op : Op) :
    readBackOnLayer layers op s = match widthOf layers op with
      | none => s
      | some width => s.found width := by
  rw [readBackOnLayer, widthOf]
  cases opOf op.1 with
  | none => rfl
  | some kind => cases kind <;> rfl

lemma readBack_noLayer (noLayer : s.layer = none) (op : Op) :
    readBack tech layers op s = match layerOf tech op with
      | some layer => { s with layer := some layer }
      | none => match widthOf layers op with
        | none => s
        | some width => s.found width := by
  have sets : ∀ layer, s.setLayer layer = { s with layer := some layer } :=
    fun layer => if_pos noLayer
  rw [readBack, layerOf, widthOf]
  cases opOf op.1 with
  | none => rfl
  | some kind => cases kind <;> first | rfl | exact sets _

lemma layerOf_width {op : Op} {layer : Nat} (sets : layerOf tech op = some layer) :
    widthOf layers op = none := by
  rw [layerOf] at sets
  rw [widthOf]
  cases kind : opOf op.1 with
  | none => rfl
  | some wireOp =>
    rw [kind] at sets
    cases wireOp <;> first | rfl | cases sets

lemma scanBack_layer (visits : List Visit) (noLayer : s.layer = none) :
    scanBack (fun s => s.layer = none || !s.foundWidth) (readBack tech layers) visits s =
      (firstLayer tech visits).bind fun layer =>
        ((lastWidth tech layers visits).or (s.known.or (firstWidth layers visits))).map fun width =>
          { s.found width with layer := some layer } := by
  induction visits generalizing s with
  | nil =>
    rw [scanBack]
    simp [noLayer, firstLayer]
  | cons v visits ih =>
    rcases v with ⟨op, behind⟩
    have asked : (s.layer = none || !s.foundWidth) = true := by simp [noLayer]
    rw [scanBack]
    simp only [asked, if_true]
    rw [readBack_noLayer noLayer, firstLayer, findSome?_cons, lastWidth, firstWidth,
      findSome?_cons]
    cases sets : layerOf tech op with
    | some layer =>
      have hasLayer : ({ s with layer := some layer } : SegmentScan).layer ≠ none := some_ne_none _
      have asks : (fun s : SegmentScan => s.layer = none || !s.foundWidth)
          { s with layer := some layer } = !s.foundWidth := by simp
      have reads : ∀ op, readBack tech layers op _ = _ := readBack_width hasLayer
      have later := scanBack_width (fun s => s.layer = none || !s.foundWidth) _ visits asks
        reads (fun _ => rfl)
      simp only [layerOf_width sets]
      exact later
    | none =>
      cases rule : widthOf layers op with
      | none =>
        simp only [isSome_none, Bool.false_eq_true, if_false, or_none]
        exact ih noLayer
      | some width =>
        have later := ih (s := s.found width) noLayer
        have known : (s.found width).known = some width := rfl
        rw [known] at later
        simp only [isSome_none, Bool.false_eq_true, if_false, Option.or_assoc,
          some_or] at later ⊢
        exact later

def Orthogonal (prev cur : Coords) : Prop := prev.x = cur.x ∨ prev.y = cur.y

lemma midway_orthogonal (midway : Midway start false false s) : Orthogonal s.prev s.cur := by
  by_cases first : start = .XInput
  · exact .inr (midway.sameY rfl (by rw [first]; decide))
  · exact .inl (midway.sameX rfl first)

lemma setSegment_some {prev cur : Coords} (orthogonal : Orthogonal prev cur)
    (prevExt curExt : Option Int) (dw defaultExt : Int) (layer : Nat) :
    ∃ rect, setSegment prev prevExt cur curExt dw defaultExt layer = some ⟨rect, layer⟩ := by
  rw [setSegment]
  by_cases sameX : cur.x = prev.x
  · exact ⟨_, if_pos sameX⟩
  · have sameY : cur.y = prev.y := (orthogonal.resolve_left (Ne.symm sameX)).symm
    rw [if_neg sameX]
    exact ⟨_, if_pos sameY⟩

lemma setSegment_inj {prev cur : Coords} (orthogonal : Orthogonal prev cur)
    {prevExt curExt : Option Int} {dw dw' : Int} {layer : Nat}
    (same : setSegment prev prevExt cur curExt dw dw layer =
      setSegment prev prevExt cur curExt dw' dw' layer) : dw = dw' := by
  rw [setSegment, setSegment] at same
  by_cases sameX : cur.x = prev.x
  · rw [if_pos sameX, if_pos sameX] at same
    have rect := congrArg (fun shape => shape.rect.xhi) (Option.some.inj same)
    simp only at rect
    split at rect
    · simp only at rect; omega
    · split at rect <;> (simp only at rect; omega)
  · have sameY : cur.y = prev.y := (orthogonal.resolve_left (Ne.symm sameX)).symm
    rw [if_neg sameX, if_neg sameX, if_pos sameY, if_pos sameY] at same
    have rect := congrArg (fun shape => shape.rect.yhi) (Option.some.inj same)
    simp only at rect
    split at rect
    · simp only at rect; omega
    · split at rect <;> (simp only at rect; omega)

lemma shape_default {width width' : Int} (isDefault : s.defaultWidth = true) (layer : Nat) :
    (s.found width).shape layers layer = (s.found width').shape layers layer := by
  simp only [shape, SegmentScan.found, isDefault, if_true]

lemma shape_width {width : Int} (noDefault : s.defaultWidth = false) (layer : Nat) :
    (s.found width).shape layers layer =
      setSegment s.prev s.prevExt s.cur s.curExt (width >>> 1) (width >>> 1) layer := by
  simp only [shape, SegmentScan.found, noDefault]
  rfl

lemma shape_some (orthogonal : Orthogonal s.prev s.cur) (layer : Nat) :
    ∃ rect, s.shape layers layer = some ⟨rect, layer⟩ :=
  setSegment_some orthogonal _ _ _ _ layer

lemma shape_layer {shape : DbShape} {layer : Nat} (orthogonal : Orthogonal s.prev s.cur)
    (found : s.shape layers layer = some shape) : shape.layer = layer := by
  rcases shape_some orthogonal layer with ⟨rect, isShape⟩
  rw [isShape] at found
  rw [← Option.some.inj found]

def inputOf (byte : UInt8) : Option MachineInput :=
  match opOf byte with
  | some .kX => some .XInput
  | some .kY => some .YInput
  | some .kColinear => some .CInput
  | _ => none

lemma read_point {op : Op} {input : MachineInput} (isPoint : inputOf op.1 = some input)
    (behind : Option Op) (s : SegmentScan) :
    SegmentScan.read tech layers op behind s = s.update input op.1 op.2 behind ∧
      readOnLayer layers op behind s = s.update input op.1 op.2 behind := by
  rw [inputOf] at isPoint
  rw [SegmentScan.read, readOnLayer]
  cases kind : opOf op.1 with
  | none =>
    rw [kind] at isPoint
    cases isPoint
  | some wireOp =>
    rw [kind] at isPoint
    cases wireOp
    case kX | kY | kColinear => cases isPoint; exact ⟨rfl, rfl⟩
    all_goals cases isPoint

lemma update_first (behind : Option Op)
    (extension : hasFlag opcode WOP_EXTENSION = true → behind ≠ none) :
    ∃ s, new.update input opcode value behind = some s ∧ Midway input true true s ∧
      s.layer = none ∧ s.defaultWidth = hasFlag opcode WOP_DEFAULT_WIDTH ∧
      s.known = if hasFlag opcode WOP_DEFAULT_WIDTH then some 0 else none := by
  have midway : ∀ s : SegmentScan, s.state = nextState 0 input → Midway input true true s := by
    intro s state
    exact ⟨state ▸ seeking_first input, nofun, nofun⟩
  rw [update]
  have first : new.state = 0 := rfl
  rw [if_pos first]
  cases extended : hasFlag opcode WOP_EXTENSION with
  | true =>
    rcases ne_none_iff_exists'.mp (extension extended) with ⟨next, rfl⟩
    cases hasFlag opcode WOP_DEFAULT_WIDTH with
    | true | false => exact ⟨_, rfl, midway _ rfl, rfl, rfl, rfl⟩
  | false =>
    cases hasFlag opcode WOP_DEFAULT_WIDTH with
    | true | false => exact ⟨_, rfl, midway _ rfl, rfl, rfl, rfl⟩

lemma update_missing (extended : hasFlag opcode WOP_EXTENSION = true) :
    new.update input opcode value none = none := by
  rw [update]
  have first : new.state = 0 := rfl
  rw [if_pos first]
  simp only [extended]
  cases hasFlag opcode WOP_DEFAULT_WIDTH <;> rfl

/-- The condition on the ops behind the point: first `tail`, then `rest` of it behind the other point. -/
def AgreeBehind (tech : WireTech) (layers : SegmentTech) (opcode : UInt8) (tail : List Visit)
    (layer : Nat) : Prop :=
  ∃ rest ∈ behindPoint true true tail, firstLayer tech rest = some layer ∧
    (hasFlag opcode WOP_DEFAULT_WIDTH = true ∨ ∃ width ∈ firstWidth layers tail,
      ∀ last ∈ lastWidth tech layers rest, last >>> 1 = width >>> 1)

lemma loops_agree {rest : List Visit} (orthogonal : Orthogonal s.prev s.cur)
    (noLayer : s.layer = none) {found : Option Int}
    (known : s.known.or (firstWidth layers rest) = found) (layer : Nat) :
    (∃ shape, (scanBack (fun s => !s.foundWidth) (readBackOnLayer layers) rest s).bind
        (fun s => s.shape layers layer) = some shape ∧
      (scanBack (fun s => s.layer = none || !s.foundWidth) (readBack tech layers) rest
        s).bind (fun s => s.layer.bind fun layer => s.shape layers layer) = some shape) ↔
    firstLayer tech rest = some layer ∧ ∃ width ∈ found, s.defaultWidth = true ∨
      ∀ last ∈ lastWidth tech layers rest, last >>> 1 = width >>> 1 := by
  have reads : ∀ op, readBackOnLayer layers op s = _ := readBackOnLayer_width
  have onLayer := scanBack_width (fun s : SegmentScan => !s.foundWidth) _ rest rfl reads (fun _ => rfl)
  rw [onLayer, scanBack_layer rest noLayer, known]
  cases found with
  | none => simp
  | some width =>
    cases layered : firstLayer tech rest with
    | none => simp
    | some layer' =>
      have orthogonal' : ∀ width, Orthogonal (s.found width).prev (s.found width).cur :=
        fun _ => orthogonal
      have chosen : ∃ width', (lastWidth tech layers rest).or (some width) = some width' ∧
          ((∀ last ∈ lastWidth tech layers rest, last >>> 1 = width >>> 1) ↔
            width' >>> 1 = width >>> 1) := by
        cases lastWidth tech layers rest with
        | none => exact ⟨width, rfl, by simp⟩
        | some last => exact ⟨last, rfl, by simp⟩
      rcases chosen with ⟨width', last, halves⟩
      rw [last]
      simp only [map_some, bind_some, Option.some.injEq, mem_def,
        exists_eq_left']
      have general : ({ s.found width' with layer := some layer' } : SegmentScan).shape layers
          layer' = (s.found width').shape layers layer' := rfl
      rw [general]
      constructor
      · rintro ⟨shape, first, second⟩
        have sameLayer : layer' = layer :=
          (shape_layer (orthogonal' width') second).symm.trans (shape_layer (orthogonal' width) first)
        refine ⟨sameLayer, ?_⟩
        cases isDefault : s.defaultWidth with
        | true => exact .inl rfl
        | false =>
          rw [shape_width isDefault] at first second
          rw [sameLayer, ← first] at second
          exact .inr (halves.mpr (setSegment_inj orthogonal second))
      · rintro ⟨rfl, fits⟩
        have whole : ∃ rect, (s.found width).shape layers layer' = some ⟨rect, layer'⟩ :=
          shape_some (orthogonal' width) layer'
        rcases whole with ⟨rect, first⟩
        refine ⟨_, first, ?_⟩
        rw [← first]
        cases isDefault : s.defaultWidth with
        | true => exact shape_default isDefault layer'
        | false =>
          have sameWidth := halves.mp (fits.resolve_left (by rw [isDefault]; decide))
          rw [shape_width isDefault, shape_width isDefault, sameWidth]

lemma segments_visits {tail : List Visit} {input : MachineInput}
    (isPoint : inputOf op.1 = some input) (present : ∀ v ∈ tail, v.2 ≠ none) (layer : Nat) :
    (∃ shape, segmentOnLayerOf layers ((op, behind) :: tail) layer = some shape ∧
        segmentOf tech layers ((op, behind) :: tail) = some shape) ↔
      (hasFlag op.1 WOP_EXTENSION = true → behind ≠ none) ∧
        AgreeBehind tech layers op.1 tail layer := by
  have reads : SegmentScan.read tech layers op behind .new = _ ∧
      readOnLayer layers op behind .new = _ := read_point isPoint behind .new
  by_cases extension : hasFlag op.1 WOP_EXTENSION = true → behind ≠ none
  · rcases update_first input op.1 op.2 behind extension with
      ⟨s, updated, midway, noLayer, isDefault, known⟩
    have goesOn := seeking_lt input true true rfl s.state midway.state
    have first : scanOps (readOnLayer layers) ((op, behind) :: tail) .new =
        scanOps (readOnLayer layers) tail s := by
      rw [scanOps, reads.2, updated]
      exact if_pos goesOn
    have first' : scanOps (SegmentScan.read tech layers) ((op, behind) :: tail) .new =
        scanOps (SegmentScan.read tech layers) tail s := by
      rw [scanOps, reads.1, updated]
      exact if_pos goesOn
    have outcome : Outcome tech layers input tail s _ := scanOps_point tail present rfl midway
    rw [segmentOnLayerOf, segmentOf, first, first', AgreeBehind]
    cases points : behindPoint true true tail with
    | none =>
      rw [points, Outcome] at outcome
      rw [outcome]
      simp
    | some rest =>
      rw [points] at outcome
      rcases outcome with ⟨s', onLayer, plain, midway', layer', default', known'⟩
      have agree : _ ↔ firstLayer tech rest = some layer ∧ _ :=
        loops_agree (midway_orthogonal midway') (layer'.trans noLayer) known' layer
      have only : ∀ condition : List Visit → Prop, (∃ rest' ∈ some rest, condition rest') ↔
          condition rest := by simp
      rw [onLayer, plain, only]
      rw [default', isDefault, known] at agree
      refine agree.trans (Iff.trans ?_ (and_iff_right extension).symm)
      cases hasFlag op.1 WOP_DEFAULT_WIDTH with
      | true => simp
      | false => simp
  · have missing : hasFlag op.1 WOP_EXTENSION = true ∧ behind = none := by
      simpa using extension
    have raised : scanOps (readOnLayer layers) ((op, behind) :: tail) .new = none := by
      rw [scanOps, reads.2, missing.2, update_missing input op.1 op.2 missing.1]
      rfl
    rw [segmentOnLayerOf, raised]
    constructor
    · rintro ⟨shape, first, _⟩
      cases first
    · exact fun agree => absurd agree.1 extension

end Loops

def ElementKind.isPoint : ElementKind → Bool
  | .point _ _ => true
  | .pointExt _ _ _ => true
  | _ => false

def Pointed (ops : List Op) (element : Element) : Prop :=
  element.kind.isPoint = true → ∃ op input, ops[element.jctId]? = some op ∧ inputOf op.1 = some input

variable {ops : List Op}

lemma pointed_other {element : Element} (other : element.kind.isPoint = false) :
    Pointed ops element := by
  intro isPoint
  rw [other] at isPoint
  cases isPoint

lemma pointed_op {element : Element} {byte : UInt8} {value : Int} {op : WireOp}
    (present : ops[element.jctId]? = some (byte, value)) (kind : opOf byte = some op)
    (isPoint : op = .kX ∨ op = .kY ∨ op = .kColinear) : Pointed ops element := by
  intro _
  rcases isPoint with rfl | rfl | rfl
  · exact ⟨_, .XInput, present, by rw [inputOf, kind]⟩
  · exact ⟨_, .YInput, present, by rw [inputOf, kind]⟩
  · exact ⟨_, .CInput, present, by rw [inputOf, kind]⟩

lemma pointed_rules {ops rules : List Op} {d : WireDecoder} :
    ∀ element ∈ ruleElements rules d, Pointed ops element := by
  intro element member
  rcases List.mem_map.mp member with ⟨op, _, same⟩
  rw [← same]
  exact pointed_other rfl

lemma reading_pointed {tech : WireTech} {ops rest : List Op} {d : WireDecoder}
    {elements : List Element} (reading : Reading tech ops d rest elements)
    (reads : At ops d.idx rest) : ∀ element ∈ elements, Pointed ops element := by
  induction reading with
  | done => exact fun _ member => nomatch member
  | @silent d op byte value rest els kind isSilent _ ih =>
    apply ih
    rw [WireDecoder.pass_idx]
    exact at_tail reads
  | via make kind isVia here _ ih =>
    refine forall_mem_cons.mpr ⟨pointed_other ?_, ih (at_tail reads)⟩
    rcases isVia with ⟨_, rfl⟩ | ⟨_, rfl⟩ <;> rfl
  | term make kind isTerm here _ ih =>
    refine forall_mem_cons.mpr ⟨pointed_other ?_, ih (at_tail reads)⟩
    rcases isTerm with ⟨_, rfl⟩ | ⟨_, rfl⟩ <;> rfl
  | rect kind here _ ih =>
    exact forall_mem_cons.mpr
      ⟨pointed_other rfl, ih (at_tail (at_tail (at_tail (at_tail reads))))⟩
  | path kind isRule _ ih =>
    exact forall_mem_cons.mpr ⟨pointed_other rfl,
      forall_mem_append.mpr ⟨pointed_rules, ih (at_rest (at_tail reads))⟩⟩
  | branch make kind isBranch isRule _ ih =>
    refine forall_mem_cons.mpr ⟨pointed_other ?_, forall_mem_append.mpr
      ⟨pointed_rules, ih (at_rest (at_tail (at_tail reads)))⟩⟩
    rcases isBranch with ⟨_, rfl⟩ | ⟨_, rfl⟩ <;> rfl
  | junction kind earlier isRule point shown _ ih =>
    have behind := at_rest (at_tail reads)
    exact forall_mem_cons.mpr ⟨pointed_other rfl,
      forall_mem_append.mpr ⟨pointed_rules, forall_mem_cons.mpr
        ⟨pointed_op (at_head behind) point (.inr (.inr rfl)), ih (at_tail behind)⟩⟩⟩
  | first kindX kindY extended noPoint _ ih =>
    exact forall_mem_cons.mpr ⟨pointed_op (at_head (at_tail reads)) kindY (.inr (.inl rfl)),
      ih (at_rest (at_tail (at_tail reads)))⟩
  | alongX kind extended isRule here _ ih =>
    exact forall_mem_cons.mpr ⟨pointed_op (at_head reads) kind (.inl rfl),
      ih (at_rest (at_rest (at_tail reads)))⟩
  | alongY kind extended isRule here _ ih =>
    exact forall_mem_cons.mpr ⟨pointed_op (at_head reads) kind (.inr (.inl rfl)),
      ih (at_rest (at_rest (at_tail reads)))⟩
  | colinear kind isRule here _ ih =>
    exact forall_mem_cons.mpr ⟨pointed_op (at_head reads) kind (.inr (.inr rfl)),
      ih (at_rest (at_tail reads))⟩

lemma opAt_some {idx : Int} {op : Op} (present : opAt ops idx = some op) :
    0 ≤ idx ∧ ops[idx.toNat]? = some op := by
  rw [opAt] at present
  split at present
  · cases present
  · exact ⟨by omega, present⟩

lemma opAt_nat (ops : List Op) (i : Nat) : opAt ops i = ops[i]? := by
  rw [opAt, if_neg (by omega), Int.toNat_natCast]

lemma opAt_next {idx : Int} (inside : 0 ≤ idx) (below : idx + 1 < ops.length) :
    opAt ops (idx + 1) ≠ none := by
  rw [opAt, if_neg (by omega)]
  exact fun missing => absurd (List.getElem?_eq_none_iff.mp missing) (by omega)

lemma walk_present (back : JunctionsBack 0 ops) (fuel : Nat) (idx : Int)
    (below : idx + 1 < ops.length) : ∀ v ∈ walk ops fuel idx, v.2 ≠ none := by
  induction fuel generalizing idx with
  | zero => exact List.forall_mem_nil _
  | succ fuel ih =>
    rw [walk]
    cases present : opAt ops idx with
    | none => exact List.forall_mem_nil _
    | some op =>
      have here := opAt_some present
      refine forall_mem_cons.mpr ⟨opAt_next here.1 below, ih _ ?_⟩
      rw [nextIdx]
      split
      · rename_i isJunction
        rcases back _ op here.2 isJunction with ⟨jct, same, earlier⟩
        omega
      · omega

/-- Where the layer is known, only points, rules and junctions lie between the two points, and rules
agree in width. -/
def SegmentsAgree (tech : WireTech) (layers : SegmentTech) (ops : List Op) (shapeId layer : Nat) :
    Prop :=
  ∃ op ∈ ops[shapeId]?, (hasFlag op.1 WOP_EXTENSION = true → shapeId + 1 < ops.length) ∧
    AgreeBehind tech layers op.1 (walk ops shapeId (shapeId - 1)) layer

lemma walk_point {shapeId : Nat} {op : Op} {input : MachineInput}
    (present : ops[shapeId]? = some op) (isPoint : inputOf op.1 = some input) :
    walk ops (shapeId + 1) shapeId = (op, ops[shapeId + 1]?) :: walk ops shapeId (shapeId - 1) := by
  have noJunction : opOf op.1 ≠ some .kJunction := by
    intro isJunction
    rw [inputOf, isJunction] at isPoint
    cases isPoint
  have next : opAt ops ((shapeId : Int) + 1) = ops[shapeId + 1]? := opAt_nat ops (shapeId + 1)
  rw [walk, opAt_nat, present]
  simp only [nextIdx, if_neg noJunction, next]

/-- Both overloads fill the same shape for a point of an encoded wire exactly where they agree. -/
theorem getSegment_layers_exact (tech : WireTech) (layers : SegmentTech) (calls : List WireCall)
    (e : WireEncoder) (trace : WireEncoder.Trace) (elements : List Element) (element : Element)
    (accepted : WireEncoder.new.run tech [] calls = some (e, trace))
    (decoded : WireDecoder.decode tech e.ops = some elements) (member : element ∈ elements)
    (isPoint : element.kind.isPoint = true) :
    (∃ layer ∈ element.layer, ∃ shape,
        getSegmentOnLayer layers e.ops element.jctId layer = some shape ∧
        getSegment tech layers e.ops element.jctId = some shape) ↔
      ∃ layer ∈ element.layer, SegmentsAgree tech layers e.ops element.jctId layer := by
  have pointed := reading_pointed (wire_reading accepted decoded) (at_zero e.ops) element member
  rcases pointed isPoint with ⟨op, input, present, isInput⟩
  have below := (List.getElem?_eq_some_iff.mp present).1
  have back := encoded_back (encoded_wire accepted).1
  have behind := walk_present back element.jctId (element.jctId - 1) (by omega)
  apply exists_congr
  intro layer
  apply and_congr_right
  intro _
  rw [SegmentsAgree]
  simp only [getSegment_walk, getSegmentOnLayer_walk, walk_point present isInput, present,
    mem_def, Option.some.injEq, exists_eq_left']
  rw [segments_visits isInput behind layer, ne_eq, List.getElem?_eq_none_iff, Nat.not_le]

def sampleLayers : SegmentTech := ⟨fun _ => 4, fun _ => 6, fun _ => .horizontal, fun _ => 10, fun _ => 10⟩

def cornerCalls : List WireCall :=
  [.newPath 1 .routed none, .addPoint 0 0 0, .addPoint 10 0 0, .addPoint 10 20 0]

theorem getSegment_layers_exact_sample : ∃ e trace,
    WireEncoder.new.run sampleTech [] cornerCalls = some (e, trace) ∧
    ∃ layer ∈ some 1, SegmentsAgree sampleTech sampleLayers e.ops 3 layer :=
  ⟨_, _, rfl, (getSegment_layers_exact sampleTech sampleLayers cornerCalls _ _ _
    ⟨.point 10 0, 3, some 1, none, none⟩ rfl rfl (by decide) rfl).mp ⟨1, rfl, _, rfl, rfl⟩⟩

/-- The property of the second point is in the way of the third one. -/
theorem getSegment_layers_raises : ∃ e trace elements,
    WireEncoder.new.run sampleTech [] cornerCalls = some (e, trace) ∧
    WireDecoder.decode sampleTech e.ops = some elements ∧
    elements.map Element.kind = [.path .routed, .point 0 0, .point 10 0, .point 10 20] ∧
    elements.getLast? = some ⟨.point 10 20, 5, some 1, none, none⟩ ∧
    getSegment sampleTech sampleLayers e.ops 5 = some ⟨⟨7, -2, 13, 22⟩, 1⟩ ∧
    getSegmentOnLayer sampleLayers e.ops 5 1 = none :=
  ⟨_, _, _, rfl, rfl, rfl, rfl, rfl, rfl⟩

end OpenRoad.Odb
