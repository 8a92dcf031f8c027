import OpenRoad.Odb.WireCalls

/-! Decoding an encoded wire. -/

namespace OpenRoad.Odb

open List WireDecoder WireEncoder InForce
open Option (map_eq_some_iff bind_eq_some_iff)

variable {tech : WireTech} {known : List Nat} {e e' : WireEncoder} {s : InForce}

variable {call : WireCall} {id : Option Nat}

lemma carries_call (agrees : Agrees tech known e s) (isKnown : call.jctId.all (· ∈ known) = true)
    (called : e.call tech call = some (e', id)) (finds : s.finds call = true) :
    Carries tech (id.toList ++ known) e e' s (s.step tech (call, id)).1
      (s.step tech (call, id)).2 := by
  cases call with
  | addPoint x y property =>
    rcases map_eq_some_iff.mp called with ⟨⟨e₁, id₁⟩, added, same⟩
    cases same
    rcases addPoint_spec added with ⟨mid, core, operands, same, point⟩
    rw [same]
    exact carries_point property agrees point
  | addPointExt x y ext property =>
    rcases map_eq_some_iff.mp called with ⟨⟨e₁, id₁⟩, added, same⟩
    cases same
    rcases addPointExt_spec added with ⟨mid, core, operands, same, point⟩
    rw [same]
    exact carries_point property agrees point
  | addVia via =>
    rcases map_eq_some_iff.mp called with ⟨⟨e₁, id₁⟩, added, same⟩
    cases same
    exact carries_addVia agrees added
  | addTechVia via =>
    rcases map_eq_some_iff.mp called with ⟨⟨e₁, id₁⟩, added, same⟩
    cases same
    exact carries_addTechVia agrees added
  | addRect deltaX1 deltaY1 deltaX2 deltaY2 =>
    rcases map_eq_some_iff.mp called with ⟨e₁, added, same⟩
    cases same
    exact carries_rect _ _ _ _ agrees added
  | addITerm iterm =>
    rcases map_eq_some_iff.mp called with ⟨e₁, added, same⟩
    cases same
    exact carries_iterm iterm agrees added
  | addBTerm bterm =>
    rcases map_eq_some_iff.mp called with ⟨e₁, added, same⟩
    cases same
    exact carries_bterm bterm agrees added
  | newPath layer type rule =>
    rcases map_eq_some_iff.mp called with ⟨e₁, accepted, same⟩
    cases same
    exact carries_newPath agrees accepted
  | newPathJct jctId ext type rule =>
    rcases map_eq_some_iff.mp called with ⟨e₁, accepted, same⟩
    cases same
    exact carries_newPathJct agrees (of_decide_eq_true isKnown) accepted (of_decide_eq_true finds)
  | newPathShort jctId layer type rule =>
    rcases map_eq_some_iff.mp called with ⟨e₁, accepted, same⟩
    cases same
    exact carries_newPathShort agrees accepted
  | newPathVirtualWire jctId layer type rule =>
    rcases map_eq_some_iff.mp called with ⟨e₁, accepted, same⟩
    cases same
    exact carries_newPathVirtualWire agrees accepted
  | setColor maskColor =>
    rcases map_eq_some_iff.mp called with ⟨e₁, set, same⟩
    cases same
    exact carries_setColor maskColor agrees set
  | clearColor =>
    cases called
    exact carries_clearColor agrees
  | setViaColor bottom cut top =>
    rcases map_eq_some_iff.mp called with ⟨e₁, set, same⟩
    cases same
    exact carries_setViaColor bottom cut top agrees set
  | clearViaColor =>
    cases called
    exact carries_clearViaColor agrees

lemma endPoint_extends (property : Nat) (e : WireEncoder) :
    ∃ added, (e.endPoint property).ops = e.ops ++ added := by
  rw [endPoint]
  split <;> split
  · exact ⟨[_, _], append_assoc e.ops [_] [_]⟩
  · exact ⟨[_], rfl⟩
  · exact ⟨[_], rfl⟩
  · exact ⟨[], (append_nil _).symm⟩

lemma point_extends {mid : WireEncoder} {x y : Int} {ext : Option Int} {core operands : List Op}
    {id : Nat} (property : Nat) (added : PointAdded e mid x y ext core operands id) :
    ∃ added, (mid.endPoint property).ops = e.ops ++ added := by
  rcases endPoint_extends property mid with ⟨tail, ops⟩
  rw [ops, added.ops, append_assoc, append_assoc]
  exact ⟨_, rfl⟩

lemma via_extends {op : WireOp} {top bottom : Nat → Nat} {via id : Nat}
    (added : e.addViaOp op top bottom via = some (e', id)) : ∃ added, e'.ops = e.ops ++ added := by
  rw [addViaOp] at added
  split at added
  · cases added
  · split at added
    · cases added
      exact ⟨_, rfl⟩
    · split at added
      · cases added
        exact ⟨_, rfl⟩
      · cases added

lemma newPathJct_extends {jctId : Nat} {ext : Option Int} {type : Option DbWireType}
    {rule : Option LayerRule} (accepted : e.newPathJct tech jctId ext type rule = some e') :
    ∃ added, e'.ops = e.ops ++ added := by
  rcases bind_eq_some_iff.mp accepted with ⟨bits, _, accepted⟩
  rcases bind_eq_some_iff.mp accepted with ⟨pnt, _, same⟩
  cases rule <;> cases ext <;> cases same
  · exact ⟨[_, _], append_assoc e.ops [_] [_]⟩
  · exact ⟨[_, _], append_assoc e.ops [_] [_]⟩
  · exact ⟨[_, _, _], (append_assoc _ [_] [_]).trans (append_assoc e.ops [_] [_, _])⟩
  · exact ⟨[_, _, _], (append_assoc _ [_] [_]).trans (append_assoc e.ops [_] [_, _])⟩

lemma call_extends (called : e.call tech call = some (e', id)) :
    ∃ added, e'.ops = e.ops ++ added := by
  cases call <;> simp only [call, map_eq_some_iff] at called
  case addPoint x y property =>
    rcases called with ⟨⟨e₁, id₁⟩, added, same⟩
    cases same
    rcases addPoint_spec added with ⟨mid, core, operands, same, point⟩
    rw [same]
    exact point_extends property point
  case addPointExt x y ext property =>
    rcases called with ⟨⟨e₁, id₁⟩, added, same⟩
    cases same
    rcases addPointExt_spec added with ⟨mid, core, operands, same, point⟩
    rw [same]
    exact point_extends property point
  case addVia via =>
    rcases called with ⟨⟨e₁, id₁⟩, added, same⟩
    cases same
    exact via_extends added
  case addTechVia via =>
    rcases called with ⟨⟨e₁, id₁⟩, added, same⟩
    cases same
    rcases map_eq_some_iff.mp added with ⟨⟨e₂, id₂⟩, viaAdded, same⟩
    cases same
    rcases via_extends viaAdded with ⟨more, ops⟩
    exact ⟨more ++ [(WireOp.kColor.code, 0)], by
      rw [clearColor, addOp, ops, append_assoc]⟩
  case addRect =>
    rcases called with ⟨e₁, added, same⟩
    cases same
    rw [addRect] at added
    split at added
    · cases added
    · cases added
      exact ⟨_, by simp only [addOp, append_assoc]; rfl⟩
  case addITerm =>
    rcases called with ⟨e₁, added, same⟩
    cases same
    rw [addITerm] at added
    split at added
    · cases added
    · cases added
      exact ⟨_, rfl⟩
  case addBTerm =>
    rcases called with ⟨e₁, added, same⟩
    cases same
    rw [addBTerm] at added
    split at added
    · cases added
    · cases added
      exact ⟨_, rfl⟩
  case newPath =>
    rcases called with ⟨e₁, accepted, same⟩
    cases same
    rcases newPath_spec accepted with ⟨bits, _, _, _, ops⟩
    exact ⟨_, ops.trans (append_assoc _ _ _)⟩
  case newPathJct =>
    rcases called with ⟨e₁, accepted, same⟩
    cases same
    exact newPathJct_extends accepted
  case newPathShort | newPathVirtualWire =>
    rcases called with ⟨e₁, accepted, same⟩
    cases same
    rcases newPathFrom_spec accepted with ⟨bits, _, _, _, ops⟩
    exact ⟨_, ops.trans ((append_assoc _ _ _).trans (append_assoc _ _ _))⟩
  case setColor =>
    rcases called with ⟨e₁, set, same⟩
    cases same
    rw [setColor] at set
    split at set
    · cases set
    · cases set
      exact ⟨_, rfl⟩
  case setViaColor =>
    rcases called with ⟨e₁, set, same⟩
    cases same
    rw [setViaColor] at set
    split at set
    · cases set
    · cases set
      exact ⟨_, rfl⟩
  case clearColor =>
    cases called
    exact ⟨_, rfl⟩
  case clearViaColor =>
    cases called
    exact ⟨_, rfl⟩

variable {calls : List WireCall} {trace : WireEncoder.Trace}

lemma run_cons {known : List Nat} {first : WireCall}
    (accepted : e.run tech known (first :: calls) = some (e', trace)) :
    first.jctId.all (· ∈ known) = true ∧ ∃ e₁ id trace', e.call tech first = some (e₁, id) ∧
      e₁.run tech (id.toList ++ known) calls = some (e', trace') ∧ trace = (first, id) :: trace' := by
  rw [run] at accepted
  split at accepted
  · rename_i isKnown
    rcases bind_eq_some_iff.mp accepted with ⟨⟨e₁, id⟩, called, accepted⟩
    rcases bind_eq_some_iff.mp accepted with ⟨⟨e₂, trace'⟩, rest, same⟩
    cases same
    exact ⟨isKnown, e₁, id, trace', called, rest, rfl⟩
  · cases accepted

lemma run_extends {known : List Nat} (accepted : e.run tech known calls = some (e', trace)) :
    ∃ added, e'.ops = e.ops ++ added := by
  induction calls generalizing e known trace with
  | nil =>
    cases accepted
    exact ⟨[], (append_nil _).symm⟩
  | cons first calls ih =>
    rcases run_cons accepted with ⟨_, e₁, id, trace', called, rest, rfl⟩
    rcases call_extends called with ⟨added, ops⟩
    rcases ih rest with ⟨more, ops'⟩
    exact ⟨added ++ more, by rw [ops', ops, append_assoc]⟩

lemma call_begins (agrees : Agrees tech known e s) (isKnown : call.jctId.all (· ∈ known) = true)
    (called : e.call tech call = some (e', id)) :
    ∃ added, e'.ops = e.ops ++ added ∧ added ≠ [] ∧ NotRule added := by
  by_cases finds : s.finds call = true
  · exact (carries_call agrees isKnown called finds).grows
  · cases call with
    | newPathJct jctId ext type rule =>
      rcases map_eq_some_iff.mp called with ⟨e₁, accepted, same⟩
      cases same
      rcases newPathJct_spec accepted agrees.wireType with
        ⟨bits, pnt, flags, value, isBits, isPnt, jct⟩
      have ops := jct.ops
      simp only [append_assoc] at ops
      exact ⟨_, ops, by simp, notRule_cons _ (opOf_code .kJunction bits
        (wireType_bits isBits).1) (by decide)⟩
    | _ => exact absurd rfl finds

lemma run_notRule (agrees : Agrees tech known e s)
    (accepted : e.run tech known calls = some (e', trace)) :
    ∃ more, e'.ops = e.ops ++ more ∧ NotRule more := by
  cases calls with
  | nil =>
    cases accepted
    exact ⟨[], (append_nil _).symm, fun _ isFirst => nomatch isFirst⟩
  | cons first calls =>
    rcases run_cons accepted with ⟨isKnown, e₁, id, trace', called, rest, rfl⟩
    rcases call_begins agrees isKnown called with ⟨added, ops, begins, notRule⟩
    rcases run_extends rest with ⟨more, ops'⟩
    exact ⟨added ++ more, by rw [ops', ops, append_assoc],
      notRule_append more begins notRule⟩

lemma forall₂_split {new rest : List Expected} {els els' : List Element}
    (first : Forall₂ Expected.Matches new els) :
    Forall₂ Expected.Matches (new ++ rest) (els ++ els') ↔
      Forall₂ Expected.Matches rest els' := by
  constructor
  · intro all
    have dropped := forall₂_drop_append _ _ _ all
    rwa [← first.length_eq, drop_left] at dropped
  · intro restMatch
    exact rel_append first restMatch

lemma decodes_trace {d : WireDecoder} (agrees : Agrees tech known e s)
    (accepted : e.run tech known calls = some (e', trace)) (follows : Follows e s d) :
    (∃ els, d.decodeFrom tech e'.ops = some els ∧
      Forall₂ Expected.Matches (s.expected tech trace) els) ↔
      s.junctionsFound tech trace = true := by
  induction calls generalizing known e s trace d with
  | nil =>
    cases accepted
    exact ⟨fun _ => rfl, fun _ => ⟨[], decodeFrom_end follows.idx,
      Forall₂.nil⟩⟩
  | cons first calls ih =>
    rcases run_cons accepted with ⟨isKnown, e₁, id, trace', called, rest, rfl⟩
    by_cases finds : s.finds first = true
    · have carries := carries_call agrees isKnown called finds
      rcases run_notRule carries.agrees rest with ⟨more, ops, notRule⟩
      rcases carries.decodes more d notRule follows with ⟨els, d₁, decodes, matches', follows'⟩
      rw [← ops] at decodes
      rw [junctionsFound, finds, Bool.true_and, ← ih carries.agrees rest follows',
        decodes, expected]
      constructor
      · rintro ⟨all, found, allMatch⟩
        rcases map_eq_some_iff.mp found with ⟨els', found', same⟩
        rw [← same] at allMatch
        exact ⟨els', found', (forall₂_split matches').mp allMatch⟩
      · rintro ⟨els', found, restMatch⟩
        exact ⟨els ++ els', by rw [found]; rfl, (forall₂_split matches').mpr restMatch⟩
    · cases first with
      | newPathJct jctId ext type rule =>
        rcases map_eq_some_iff.mp called with ⟨e₁', started, same⟩
        cases same
        rcases run_extends rest with ⟨more, ops⟩
        have decodes := decodes_newPathJct agrees (of_decide_eq_true isKnown) started more d
          follows
        rw [← ops] at decodes
        constructor
        · rintro ⟨all, found, allMatch⟩
          rw [decodes] at found
          rcases map_eq_some_iff.mp found with ⟨els', _, same⟩
          rw [← same] at allMatch
          cases allMatch with
          | cons matches' _ => exact absurd (decide_eq_true matches'.2.2.1) finds
        · intro all
          have finds' := (Bool.and_eq_true_iff.mp all).1
          exact absurd finds' finds
      | _ => exact absurd rfl finds

lemma follows_new : Follows .new .new .new :=
  ⟨rfl, rfl, Iff.rfl, fun _ => ⟨rfl, rfl⟩, rfl, rfl, rfl⟩

/-- Elements come back exactly if every path from a junction finds the layer in force there. -/
theorem wire_round_trip (tech : WireTech) (calls : List WireCall) (e : WireEncoder)
    (trace : WireEncoder.Trace) (accepted : new.run tech [] calls = some (e, trace)) :
    (∃ elements, decode tech e.ops = some elements ∧
      List.Forall₂ Expected.Matches (new.expected tech trace) elements) ↔
      new.junctionsFound tech trace = true :=
  decodes_trace (agrees_new tech) accepted follows_new

def sampleTech : WireTech := ⟨fun _ => 2, fun _ => 1, fun _ => 2, fun _ => 1⟩

/-- A wire with a via, a rule, colours, an extension, a short and a branch off the via. -/
def sampleCalls : List WireCall :=
  [.newPath 1 .routed (some ⟨7, true⟩), .addPoint 0 0 0, .setColor 2, .addPoint 10 0 0,
    .addVia 1, .addPointExt 10 20 5 0, .addITerm 4, .newPathJct 8 (some 3) none none,
    .addPoint 30 20 0, .newPathShort 8 1 .fixed none, .addPoint 0 5 0, .addRect 0 0 1 1]

theorem wire_round_trip_sample :
    ∃ e trace, new.run sampleTech [] sampleCalls = some (e, trace) ∧
      ∃ elements, decode sampleTech e.ops = some elements ∧
        List.Forall₂ Expected.Matches (new.expected sampleTech trace) elements := by
  have found : ((new.run sampleTech [] sampleCalls).any fun result =>
      new.junctionsFound sampleTech result.2) = true := by decide
  rcases (Option.any_eq_true _ _).mp found with ⟨⟨e, trace⟩, accepted, found⟩
  exact ⟨e, trace, accepted, (wire_round_trip sampleTech sampleCalls e trace accepted).mpr found⟩

def virtualBranch : List WireCall :=
  [.newPath 1 .routed none, .addPoint 0 0 0, .addPoint 10 0 0,
    .newPathVirtualWire 3 2 .routed none, .addPoint 20 0 0,
    .newPathJct 8 none (some .routed) none, .addPoint 30 0 0]

theorem virtual_branch_off_layer :
    ∃ e trace, new.run sampleTech [] virtualBranch = some (e, trace) ∧
      ¬ ∃ elements, decode sampleTech e.ops = some elements ∧
        List.Forall₂ Expected.Matches (new.expected sampleTech trace) elements := by
  have missed : ((new.run sampleTech [] virtualBranch).any fun result =>
      !new.junctionsFound sampleTech result.2) = true := by decide
  rcases (Option.any_eq_true _ _).mp missed with ⟨⟨e, trace⟩, accepted, missed⟩
  refine ⟨e, trace, accepted, ?_⟩
  intro decoded
  have found := (decodes_trace (agrees_new sampleTech) accepted follows_new).mp decoded
  rw [found] at missed
  exact absurd missed (by decide)

end OpenRoad.Odb
