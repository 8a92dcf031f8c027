import OpenRoad.Lib.Pairing
import OpenRoad.Odb.BumpMapSteps
import OpenRoad.Odb.BumpMapText

/-! A bump map is read back as it was written exactly where the two conversions of coordinates are
inverse, the names stand for themselves and no terminal is refused its net. -/

namespace OpenRoad.Odb

open OpenRoad.Lib OpenRoad.Lib.Effect OpenRoad.Lib.Words Function List Option Option

/-- Reading the file leaves the instances where they are and adds the same bumps again. -/
def RoundTrips (chip : BumpChip) (block : BumpBlock) (bumps : List ChipBump) : Prop :=
  ∃ s', (writeAndRead chip bumps).exec block = (.ok (), s') ∧
    s'.bumps = bumps.reverse ++ block.bumps ∧
    ∀ name inst, block.insts name = some inst →
      ∃ now, s'.insts name = some now ∧ now.x = inst.x ∧ now.y = inst.y

def Aligned (chip : BumpChip) (coordinate : CInt) (center offset : Int) : Prop :=
  (writtenCoordinate chip.dbu_per_micron coordinate : Int) * dbuInt chip.dbu_per_micron -
    center + offset = coordinate.val

/-- A terminal may be connected to a net: it is on it, or nothing there is `dont_touch`. -/
def Free (nets : Text → Option Bool) (locked : Bool) (current : Option Text) (net : Text) : Prop :=
  current = some net ∨ locked = false ∧ nets net ≠ some true ∧ current.bind nets ≠ some true

structure Survives (chip : BumpChip) (block : BumpBlock) (bump : ChipBump) : Prop where
  dbu : chip.dbu_per_micron ≠ 0
  kept : keptBump bump
  named : ∀ inst, block.insts bump.inst = some inst → Named bump inst
  noDash : bump.bterm ≠ some ['-'] ∧ bump.net ≠ some ['-']
  aligned : ∀ inst, block.insts bump.inst = some inst →
    Aligned chip inst.x inst.master.xCenter chip.offset_x ∧
      Aligned chip inst.y inst.master.yCenter chip.offset_y
  iterm : ∀ inst current net, block.insts bump.inst = some inst → inst.iterm = some current →
    bump.net = some net → Free block.nets inst.dont_touch current net
  bterm : ∀ port current net, bump.bterm = some port → block.bterms port = some current →
    bump.net = some net → Free block.nets false current net

variable {chip : BumpChip} {block s s' : BumpBlock} {bump : ChipBump} {entry : BumpMapEntry}
  {inst : BumpInst}

def Loose (nets : Text → Option Bool) (locked : Bool) (first now : Option Text) : Prop :=
  now = first ∨ locked = false ∧ first.bind nets ≠ some true ∧ now.bind nets ≠ some true

variable {nets : Text → Option Bool}

variable {locked : Bool} {net : Text}

lemma connectTerminal_ok {refused onNet offNet : Nat} {now after : Option Text} :
    connectTerminal locked refused onNet offNet nets now net = .ok after ↔
      Free nets locked now net ∧ after = some net := by
  rw [connectTerminal]
  split
  · rename_i there
    rw [Free, there]
    constructor
    · intro isOk
      exact ⟨.inl rfl, (Except.ok.inj isOk).symm⟩
    · rintro ⟨_, rfl⟩
      rfl
  · rename_i elsewhere
    constructor
    · intro isOk
      split at isOk
      · cases isOk
      split at isOk
      · cases isOk
      split at isOk
      · cases isOk
      rename_i unlocked free wasFree
      exact ⟨.inr ⟨by simpa using unlocked, free, wasFree⟩, (Except.ok.inj isOk).symm⟩
    · rintro ⟨there | ⟨unlocked, free, wasFree⟩, rfl⟩
      · exact absurd there elsewhere
      · rw [if_neg (by simp [unlocked]), if_neg free, if_neg wasFree]

lemma free_of_loose {first now : Option Text} (loose : Loose nets locked first now) :
    Free nets locked now net ↔ Free nets locked first net := by
  rcases loose with rfl | ⟨unlocked, firstFree, nowFree⟩
  · exact Iff.rfl
  · constructor
    · rintro (rfl | ⟨_, free, _⟩)
      · exact .inr ⟨unlocked, nowFree, firstFree⟩
      · exact .inr ⟨unlocked, free, firstFree⟩
    · rintro (rfl | ⟨_, free, _⟩)
      · exact .inr ⟨unlocked, firstFree, nowFree⟩
      · exact .inr ⟨unlocked, free, nowFree⟩

lemma loose_connect {first now : Option Text} (loose : Loose nets locked first now)
    (free : Free nets locked now net) : Loose nets locked first (some net) := by
  rcases (free_of_loose loose).mp free with rfl | ⟨unlocked, isFree, firstFree⟩
  · exact .inl rfl
  · exact .inr ⟨unlocked, firstFree, isFree⟩

/-- An instance up to its place and the connections of its first terminal. -/
structure SameInst (nets : Text → Option Bool) (inst now : BumpInst) : Prop where
  master : now.master = inst.master
  dont_touch : now.dont_touch = inst.dont_touch
  noTerm : inst.iterm = none → now.iterm = none
  iterm : ∀ first, inst.iterm = some first →
    ∃ last, now.iterm = some last ∧ Loose nets inst.dont_touch first last

structure BlockKept (block s : BumpBlock) : Prop where
  insts : ∀ name inst, block.insts name = some inst →
    ∃ now, s.insts name = some now ∧ SameInst block.nets inst now
  nets : s.nets = block.nets
  bterms : ∀ port first, block.bterms port = some first →
    ∃ last, s.bterms port = some last ∧ Loose block.nets false first last

lemma kept_refl (block : BumpBlock) : BlockKept block block where
  insts _ inst isInst :=
    ⟨inst, isInst, rfl, rfl, fun isNone => isNone, fun first isFirst => ⟨first, isFirst, .inl rfl⟩⟩
  nets := rfl
  bterms _ first isFirst := ⟨first, isFirst, .inl rfl⟩

def Still (block s : BumpBlock) : Prop :=
  ∀ name inst, block.insts name = some inst →
    ∃ now, s.insts name = some now ∧ now.x = inst.x ∧ now.y = inst.y

def FixedStay (s s' : BumpBlock) : Prop :=
  ∀ name inst, s.insts name = some inst → inst.status.isFixed →
    ∃ now, s'.insts name = some now ∧ now.x = inst.x ∧ now.y = inst.y ∧ now.status.isFixed

section

variable (isEntry : IsEntry chip block bump entry)
include isEntry

lemma entry_net :
    entry.net = if bump.net = some ['-'] then none else bump.net := by
  rcases isEntry with ⟨inst, _, rfl⟩
  change (if nameOrDash bump.net = ['-'] then none else some (nameOrDash bump.net)) = _
  cases bump.net with
  | none => rfl
  | some net =>
    change (if net = ['-'] then none else some net) = _
    by_cases dash : net = ['-'] <;> simp [dash]

lemma entry_port :
    entry.port = if bump.bterm = some ['-'] then none else bump.bterm := by
  rcases isEntry with ⟨inst, _, rfl⟩
  change (if nameOrDash bump.bterm = ['-'] then none else some (nameOrDash bump.bterm)) = _
  cases bump.bterm with
  | none => rfl
  | some port =>
    change (if port = ['-'] then none else some port) = _
    by_cases dash : port = ['-'] <;> simp [dash]

omit isEntry in
lemma some_of_undash {name : Option Text} {text : Text}
    (same : (if name = some ['-'] then none else name) = some text) : name = some text := by
  split at same
  · cases same
  · exact same

lemma entry_net_some {net : Text} (isNet : entry.net = some net) : bump.net = some net :=
  some_of_undash ((entry_net isEntry).symm.trans isNet)

lemma entry_port_some {port : Text} (isPort : entry.port = some port) : bump.bterm = some port :=
  some_of_undash ((entry_port isEntry).symm.trans isPort)

end

variable {net : Option Text}

lemma itermAfter_ok {iterm : Option (Option Text)}
    (isAfter : itermAfter nets inst net = .ok iterm) :
    (inst.iterm = none ∧ iterm = none) ∨
      ∃ now, inst.iterm = some now ∧ (net = none ∧ iterm = some now ∨
        ∃ net', net = some net' ∧ Free nets inst.dont_touch now net' ∧ iterm = some (some net')) := by
  unfold itermAfter at isAfter
  cases isTerm : inst.iterm with
  | none =>
    rw [isTerm] at isAfter
    exact .inl ⟨rfl, (Except.ok.inj isAfter).symm⟩
  | some now =>
    rw [isTerm] at isAfter
    refine .inr ⟨now, rfl, ?_⟩
    cases net with
    | none => exact .inl ⟨rfl, (Except.ok.inj isAfter).symm⟩
    | some net =>
      simp only at isAfter
      cases connected : connectITerm inst now net nets with
      | error fault =>
        rw [connected] at isAfter
        cases isAfter
      | ok after =>
        rw [connected] at isAfter
        rcases connectTerminal_ok.mp connected with ⟨free, rfl⟩
        exact .inr ⟨net, rfl, free, (Except.ok.inj isAfter).symm⟩

lemma sameInst_iterm {now : BumpInst} {iterm : Option (Option Text)} {x y : CInt}
    {status : BumpStatus} (same : SameInst nets inst now)
    (isAfter : itermAfter nets now net = .ok iterm) :
    SameInst nets inst { now with x := x, y := y, status := status, iterm := iterm } := by
  refine ⟨same.master, same.dont_touch, ?_, ?_⟩
  · intro isNone
    rcases itermAfter_ok isAfter with ⟨_, rfl⟩ | ⟨last, isLast, _⟩
    · rfl
    · rw [same.noTerm isNone] at isLast
      cases isLast
  · intro first isFirst
    rcases same.iterm first isFirst with ⟨last, isLast, loose⟩
    rcases itermAfter_ok isAfter with ⟨isNone, _⟩ | ⟨last', isLast', after⟩
    · rw [isLast] at isNone
      cases isNone
    · rw [isLast] at isLast'
      rw [← some.inj isLast', same.dont_touch] at after
      rcases after with ⟨_, rfl⟩ | ⟨net', _, free, rfl⟩
      · exact ⟨last, rfl, loose⟩
      · exact ⟨some net', rfl, loose_connect loose free⟩

lemma btermsAfter_kept (kept : BlockKept block s) {port : Option Text}
    {bterms : Text → Option (Option Text)} (isAfter : btermsAfter s port net = .ok bterms)
    (name : Text) (first : Option Text) (isFirst : block.bterms name = some first) :
    ∃ last, bterms name = some last ∧ Loose block.nets false first last := by
  have earlier := kept.bterms name first isFirst
  unfold btermsAfter at isAfter
  rcases port with _ | port
  · rwa [← Except.ok.inj isAfter]
  rcases net with _ | net
  · rwa [← Except.ok.inj isAfter]
  simp only at isAfter
  cases found : s.bterms port with
  | none =>
    rw [found] at isAfter
    rwa [← Except.ok.inj isAfter]
  | some current =>
    rw [found] at isAfter
    simp only at isAfter
    cases connected : connectBTerm current net s.nets with
    | error fault =>
      rw [connected] at isAfter
      cases isAfter
    | ok now =>
      rw [connected] at isAfter
      rcases connectTerminal_ok.mp connected with ⟨free, rfl⟩
      have isBTerms : bterms = update s.bterms port (some (some net)) :=
        (Except.ok.inj isAfter).symm
      rw [isBTerms]
      by_cases same : name = port
      · rcases earlier with ⟨last, isLast, loose⟩
        rw [same, found] at isLast
        rw [← some.inj isLast] at loose
        rw [kept.nets] at free
        exact ⟨some net, by rw [same, update_self], loose_connect loose free⟩
      · rwa [update_of_ne same]

section Entry

variable {bumps : List ChipBump}

lemma createBump_entry (holds : Holds block bumps) (member : bump ∈ bumps) (kept : BlockKept block s)
    (isEntry : IsEntry chip block bump entry) {now : BumpInst}
    (isNow : s.insts bump.inst = some now) :
    (createBump chip entry).exec s = (.ok (), s') ↔ BumpCreated chip entry now s s' := by
  have isName : entry.bump_inst_name = bump.inst := by
    rcases isEntry with ⟨inst, _, rfl⟩
    rfl
  apply createBump_ok
  · rw [isName]
    exact isNow
  · intro net isNet
    rw [kept.nets]
    exact (holds.nets bump member net (entry_net_some isEntry isNet)).2
  · intro port isPort
    rcases isSome_iff_exists.mp
      (holds.bterms bump member port (entry_port_some isEntry isPort)).2 with ⟨first, isFirst⟩
    rcases kept.bterms port first isFirst with ⟨last, isLast, _⟩
    rw [isLast]
    rfl

/-- What a created bump tells about the entry it came from. -/
structure Landed (chip : BumpChip) (block : BumpBlock) (bump : ChipBump) (entry : BumpMapEntry)
    (s s' : BumpBlock) : Prop where
  kept : BlockKept block s'
  fixedStay : FixedStay s s'
  bumps : s'.bumps = ⟨bump.inst, entry.port, entry.net⟩ :: s.bumps
  place : ∀ inst, block.insts bump.inst = some inst → ∃ now,
    readCoordinate chip entry.x inst.master.xCenter chip.offset_x = some now.x ∧
      readCoordinate chip entry.y inst.master.yCenter chip.offset_y = some now.y ∧
      s'.insts bump.inst = some now ∧ now.status.isFixed
  iterm : ∀ inst current net, block.insts bump.inst = some inst → inst.iterm = some current →
    entry.net = some net → Free block.nets inst.dont_touch current net
  bterm : ∀ port current net, entry.port = some port → block.bterms port = some current →
    entry.net = some net → Free block.nets false current net

lemma landed_of_created (kept : BlockKept block s) (isEntry : IsEntry chip block bump entry)
    {now : BumpInst} (isNow : s.insts bump.inst = some now)
    (created : BumpCreated chip entry now s s') : Landed chip block bump entry s s' := by
  have isName : entry.bump_inst_name = bump.inst := by
    rcases isEntry with ⟨inst, _, rfl⟩
    rfl
  rcases created with ⟨⟨x, y, iterm, readX, readY, movable, itermIs, insts⟩, btermsAre, nets, bumps⟩
  rw [isName] at insts bumps
  have there : s'.insts bump.inst =
      some { now with x := x, y := y, status := .FIRM, iterm := iterm } := by
    rw [insts, update_self]
  have sameNow : ∀ inst, block.insts bump.inst = some inst → SameInst block.nets inst now := by
    intro inst isInst
    rcases kept.insts _ inst isInst with ⟨now', isNow', same⟩
    rw [isNow] at isNow'
    exact some.inj isNow' ▸ same
  rw [kept.nets] at itermIs
  refine ⟨⟨?_, nets.trans kept.nets, btermsAfter_kept kept btermsAre⟩, ?_, bumps, ?_, ?_, ?_⟩
  · intro name inst isInst
    by_cases same : name = bump.inst
    · subst same
      exact ⟨_, there, sameInst_iterm (sameNow inst isInst) itermIs⟩
    · rw [insts, update_of_ne same]
      exact kept.insts name inst isInst
  · intro name inst isInst fixed
    by_cases same : name = bump.inst
    · subst same
      rw [isNow] at isInst
      rw [← some.inj isInst] at fixed
      refine ⟨_, there, ?_⟩
      rcases movable with ⟨sameX, sameY⟩ | free
      · rw [← some.inj isInst]
        exact ⟨sameX.symm, sameY.symm, rfl⟩
      · rw [free] at fixed
        cases fixed
    · rw [insts, update_of_ne same]
      exact ⟨inst, isInst, rfl, rfl, fixed⟩
  · intro inst isInst
    rw [(sameNow inst isInst).master] at readX readY
    exact ⟨_, readX, readY, there, rfl⟩
  · intro inst current net isInst isTerm isNet
    rcases (sameNow inst isInst).iterm current isTerm with ⟨last, isLast, loose⟩
    rcases itermAfter_ok itermIs with ⟨isNone, _⟩ | ⟨last', isLast', after⟩
    · rw [isLast] at isNone
      cases isNone
    · rw [isLast] at isLast'
      rw [← some.inj isLast', isNet, (sameNow inst isInst).dont_touch] at after
      rcases after with ⟨none, _⟩ | ⟨net', isNet', free, _⟩
      · cases none
      · rw [← some.inj isNet'] at free
        exact (free_of_loose loose).mp free
  · intro port current net isPort isCurrent isNet
    rcases kept.bterms port current isCurrent with ⟨last, isLast, loose⟩
    rw [isPort, isNet, btermsAfter] at btermsAre
    simp only [isLast] at btermsAre
    cases connected : connectBTerm last net s.nets with
    | error fault =>
      rw [connected] at btermsAre
      cases btermsAre
    | ok after =>
      have free := (connectTerminal_ok.mp connected).1
      rw [kept.nets] at free
      exact (free_of_loose loose).mp free

lemma createBump_landed (holds : Holds block bumps) (member : bump ∈ bumps) (kept : BlockKept block s)
    (isEntry : IsEntry chip block bump entry)
    (isOk : (createBump chip entry).exec s = (.ok (), s')) : Landed chip block bump entry s s' := by
  rcases holds.insts bump member with ⟨inst, isInst, _⟩
  rcases kept.insts _ inst isInst with ⟨now, isNow, _⟩
  exact landed_of_created kept isEntry isNow
    ((createBump_entry holds member kept isEntry isNow).mp isOk)

end Entry

lemma round_int (value : Int) : roundAway (value : Rat) = value := by
  have up : ∀ z : Int, ((z : Rat) + 1 / 2).floor = z := by
    intro z
    change ⌊(z : Rat) + 1 / 2⌋ = z
    rw [Int.floor_eq_iff]
    constructor <;> linarith
  rw [roundAway]
  split
  · exact up value
  · rw [← Int.cast_neg, up]
    exact neg_neg value

lemma toInt_some {value : Int} {result : CInt} : toInt value = some result ↔ value = result.val := by
  rw [toInt]
  split
  · exact ⟨fun isSome => congrArg Subtype.val (some.inj isSome),
      fun same => congrArg some (Subtype.ext same)⟩
  · rename_i outside
    constructor
    · intro isSome
      cases isSome
    · rintro rfl
      exact absurd result.property outside

lemma readCoordinate_written {coordinate result : CInt} {center offset : Int} :
    readCoordinate chip (writtenCoordinate chip.dbu_per_micron coordinate : Nat) center offset =
        some result ↔
      (writtenCoordinate chip.dbu_per_micron coordinate : Int) * dbuInt chip.dbu_per_micron -
        center + offset = result.val := by
  have exact_ : ((writtenCoordinate chip.dbu_per_micron coordinate : Nat) : Rat) *
      (dbuInt chip.dbu_per_micron : Rat) =
      (((writtenCoordinate chip.dbu_per_micron coordinate : Int) *
        dbuInt chip.dbu_per_micron : Int) : Rat) := by
    push_cast
    rfl
  rw [readCoordinate, exact_, round_int, toInt_some]

lemma itermAfter_free {net : Option Text}
    (free : ∀ current net', inst.iterm = some current → net = some net' →
      Free nets inst.dont_touch current net') : ∃ iterm, itermAfter nets inst net = .ok iterm := by
  unfold itermAfter
  cases isTerm : inst.iterm with
  | none => exact ⟨_, rfl⟩
  | some current =>
    cases net with
    | none => exact ⟨_, rfl⟩
    | some net =>
      have connected : connectITerm inst current net nets = .ok (some net) :=
        connectTerminal_ok.mpr ⟨free current net isTerm rfl, rfl⟩
      exact ⟨some (some net), by simp only [connected]; rfl⟩

lemma btermsAfter_free {port net : Option Text}
    (free : ∀ port' current net', port = some port' → s.bterms port' = some current →
      net = some net' → Free s.nets false current net') :
    ∃ bterms, btermsAfter s port net = .ok bterms := by
  unfold btermsAfter
  rcases port with _ | port
  · exact ⟨_, rfl⟩
  rcases net with _ | net
  · exact ⟨_, rfl⟩
  simp only
  cases found : s.bterms port with
  | none => exact ⟨_, rfl⟩
  | some current =>
    have connected : connectBTerm current net s.nets = .ok (some net) :=
      connectTerminal_ok.mpr ⟨free port current net rfl found rfl, rfl⟩
    exact ⟨_, by simp only [connected]; rfl⟩

lemma entry_survives (survives : Survives chip block bump)
    (isEntry : IsEntry chip block bump entry) : entry.net = bump.net ∧ entry.port = bump.bterm := by
  rw [entry_net isEntry, entry_port isEntry, if_neg survives.noDash.2, if_neg survives.noDash.1]
  exact ⟨rfl, rfl⟩

lemma survives_creates {bumps : List ChipBump} (holds : Holds block bumps) (member : bump ∈ bumps)
    (kept : BlockKept block s) (still : Still block s) (survives : Survives chip block bump)
    (isEntry : IsEntry chip block bump entry) :
    ∃ s', (createBump chip entry).exec s = (.ok (), s') ∧ BlockKept block s' ∧ Still block s' ∧
      s'.bumps = bump :: s.bumps := by
  rcases entry_survives survives isEntry with ⟨sameNet, samePort⟩
  rcases holds.insts bump member with ⟨inst, isInst, _⟩
  rcases kept.insts _ inst isInst with ⟨now, isNow, same⟩
  rcases still _ inst isInst with ⟨now', isNow', sameX, sameY⟩
  rw [isNow] at isNow'
  rw [← some.inj isNow'] at sameX sameY
  rcases survives.aligned inst isInst with ⟨alignedX, alignedY⟩
  have readX : readCoordinate chip entry.x now.master.xCenter chip.offset_x = some inst.x := by
    rcases isEntry with ⟨inst', isInst', rfl⟩
    rw [isInst] at isInst'
    rw [same.master, ← some.inj isInst']
    exact readCoordinate_written.mpr alignedX
  have readY : readCoordinate chip entry.y now.master.yCenter chip.offset_y = some inst.y := by
    rcases isEntry with ⟨inst', isInst', rfl⟩
    rw [isInst] at isInst'
    rw [same.master, ← some.inj isInst']
    exact readCoordinate_written.mpr alignedY
  have isTerm : ∃ iterm, itermAfter s.nets now entry.net = .ok iterm := by
    apply itermAfter_free
    intro last net isLast isNet
    rw [kept.nets, same.dont_touch]
    cases first : inst.iterm with
    | none =>
      rw [same.noTerm first] at isLast
      cases isLast
    | some current =>
      rcases same.iterm current first with ⟨last', isLast', loose⟩
      rw [isLast] at isLast'
      rw [← some.inj isLast'] at loose
      exact (free_of_loose loose).mpr
        (survives.iterm inst current net isInst first (sameNet ▸ isNet))
  have areBTerms : ∃ bterms, btermsAfter s entry.port entry.net = .ok bterms := by
    apply btermsAfter_free
    intro port last net isPort isLast isNet
    rw [samePort] at isPort
    rcases isSome_iff_exists.mp (holds.bterms bump member port isPort).2 with
      ⟨current, isCurrent⟩
    rcases kept.bterms port current isCurrent with ⟨last', isLast', loose⟩
    rw [isLast] at isLast'
    rw [← some.inj isLast'] at loose
    rw [kept.nets]
    exact (free_of_loose loose).mpr
      (survives.bterm port current net isPort isCurrent (sameNet ▸ isNet))
  rcases isTerm with ⟨iterm, isTerm⟩
  rcases areBTerms with ⟨bterms, areBTerms⟩
  have isName : entry.bump_inst_name = bump.inst := by
    rcases isEntry with ⟨inst, _, rfl⟩
    rfl
  have created : BumpCreated chip entry now s { s with
      insts := update s.insts entry.bump_inst_name (some { now with
        x := inst.x, y := inst.y, status := .FIRM, iterm := iterm })
      bterms := bterms
      bumps := ⟨entry.bump_inst_name, entry.port, entry.net⟩ :: s.bumps } :=
    ⟨⟨inst.x, inst.y, iterm, readX, readY, .inl ⟨sameX, sameY⟩, isTerm, rfl⟩, areBTerms, rfl, rfl⟩
  have landed := landed_of_created kept isEntry isNow created
  refine ⟨_, (createBump_entry holds member kept isEntry isNow).mpr created, landed.kept, ?_, ?_⟩
  · intro name other isOther
    by_cases sameName : name = bump.inst
    · subst sameName
      rw [isInst] at isOther
      rw [← some.inj isOther, isName]
      exact ⟨_, update_self .., rfl, rfl⟩
    · rw [isName]
      simp only [update_of_ne sameName]
      exact still name other isOther
  · rw [isName, samePort, sameNet]

section Entries

variable {bumps all : List ChipBump} {entries : List BumpMapEntry}

lemma survive_create (holds : Holds block all) (inside : bumps ⊆ all) (kept : BlockKept block s)
    (still : Still block s) (survive : ∀ bump ∈ bumps, Survives chip block bump)
    (areEntries : Forall₂ (IsEntry chip block) bumps entries) :
    ∃ s', (forM entries (createBump chip)).exec s = (.ok (), s') ∧ Still block s' ∧
      s'.bumps = bumps.reverse ++ s.bumps := by
  induction areEntries generalizing s with
  | nil => exact ⟨s, rfl, still, rfl⟩
  | @cons bump entry bumps entries isEntry _ ih =>
    rcases survives_creates holds (inside mem_cons_self) kept still
      (survive bump mem_cons_self) isEntry with ⟨mid, first, keptMid, stillMid, bumpsMid⟩
    rcases ih (fun _ member => inside (mem_cons_of_mem bump member)) keptMid stillMid
      (fun other member => survive other (mem_cons_of_mem bump member)) with
      ⟨s', rest, stillAfter, bumpsAfter⟩
    refine ⟨s', ?_, stillAfter, ?_⟩
    · rw [forM_cons, exec_bind_ok _ first]
      exact rest
    · rw [bumpsAfter, bumpsMid, reverse_cons, append_assoc]
      rfl

lemma fixedStay_trans {mid : BumpBlock} (first : FixedStay s mid) (second : FixedStay mid s') :
    FixedStay s s' := by
  intro name inst isInst fixed
  rcases first name inst isInst fixed with ⟨now, isNow, sameX, sameY, stillFixed⟩
  rcases second name now isNow stillFixed with ⟨last, isLast, lastX, lastY, lastFixed⟩
  exact ⟨last, isLast, lastX.trans sameX, lastY.trans sameY, lastFixed⟩

/-- What a run over all entries tells about one of them. -/
structure Left (chip : BumpChip) (block : BumpBlock) (s' : BumpBlock) (bump : ChipBump)
    (entry : BumpMapEntry) : Prop where
  isEntry : IsEntry chip block bump entry
  place : ∀ inst, block.insts bump.inst = some inst → ∃ now,
    readCoordinate chip entry.x inst.master.xCenter chip.offset_x = some now.x ∧
      readCoordinate chip entry.y inst.master.yCenter chip.offset_y = some now.y ∧
      s'.insts bump.inst = some now
  iterm : ∀ inst current net, block.insts bump.inst = some inst → inst.iterm = some current →
    entry.net = some net → Free block.nets inst.dont_touch current net
  bterm : ∀ port current net, entry.port = some port → block.bterms port = some current →
    entry.net = some net → Free block.nets false current net

lemma created_left (holds : Holds block all) (inside : bumps ⊆ all) (kept : BlockKept block s)
    (areEntries : Forall₂ (IsEntry chip block) bumps entries)
    (isOk : (forM entries (createBump chip)).exec s = (.ok (), s')) :
    Forall₂ (Left chip block s') bumps entries ∧ FixedStay s s' ∧
      s'.bumps = (zipWith (fun bump entry => ⟨bump.inst, entry.port, entry.net⟩) bumps
        entries).reverse ++ s.bumps := by
  induction areEntries generalizing s with
  | nil =>
    rw [← (Prod.mk.inj isOk).2]
    exact ⟨Forall₂.nil, fun _ inst isInst fixed => ⟨inst, isInst, rfl, rfl, fixed⟩, rfl⟩
  | @cons bump entry bumps entries isEntry _ ih =>
    rw [forM_cons] at isOk
    rcases bind_ok isOk with ⟨_, mid, first, rest⟩
    have landed := createBump_landed holds (inside mem_cons_self) kept isEntry first
    rcases ih (fun _ member => inside (mem_cons_of_mem bump member)) landed.kept rest with
      ⟨left, stay, bumpsAfter⟩
    refine ⟨Forall₂.cons ⟨isEntry, ?_, landed.iterm, landed.bterm⟩ left,
      fixedStay_trans landed.fixedStay stay, ?_⟩
    · intro inst isInst
      rcases landed.place inst isInst with ⟨now, readX, readY, isNow, fixed⟩
      rcases stay _ now isNow fixed with ⟨last, isLast, sameX, sameY, _⟩
      exact ⟨last, sameX ▸ readX, sameY ▸ readY, isLast⟩
    · rw [bumpsAfter, landed.bumps, zipWith_cons_cons, reverse_cons, append_assoc]
      rfl

lemma survives_of_left (dbu : chip.dbu_per_micron ≠ 0) (kept : keptBump bump)
    (named : ∀ inst, block.insts bump.inst = some inst → Named bump inst)
    (left : Left chip block s' bump entry)
    (same : (⟨bump.inst, entry.port, entry.net⟩ : ChipBump) = bump) (still : Still block s') :
    Survives chip block bump := by
  have sameNet : entry.net = bump.net := congrArg ChipBump.net same
  have samePort : entry.port = bump.bterm := congrArg ChipBump.bterm same
  refine ⟨dbu, kept, named, ⟨?_, ?_⟩, ?_, ?_, ?_⟩
  · intro dash
    rw [entry_port left.isEntry, dash, if_pos rfl] at samePort
    cases samePort
  · intro dash
    rw [entry_net left.isEntry, dash, if_pos rfl] at sameNet
    cases sameNet
  · intro inst isInst
    rcases left.place inst isInst with ⟨now, readX, readY, isNow⟩
    rcases still _ inst isInst with ⟨last, isLast, sameX, sameY⟩
    rw [isNow] at isLast
    rw [← some.inj isLast] at sameX sameY
    rcases left.isEntry with ⟨inst', isInst', rfl⟩
    rw [isInst] at isInst'
    rw [← some.inj isInst'] at readX readY
    rw [sameX] at readX
    rw [sameY] at readY
    exact ⟨readCoordinate_written.mp readX, readCoordinate_written.mp readY⟩
  · intro inst current net isInst isTerm isNet
    exact left.iterm inst current net isInst isTerm (sameNet.trans isNet)
  · intro port current net isPort isCurrent isNet
    exact left.bterm port current net (samePort.trans isPort) isCurrent (sameNet.trans isNet)

end Entries

lemma zipWith_self {bumps : List ChipBump} {entries : List BumpMapEntry}
    {made : ChipBump → BumpMapEntry → ChipBump} {R : ChipBump → BumpMapEntry → Prop}
    (paired : Forall₂ R bumps entries) (same : zipWith made bumps entries = bumps) :
    Forall₂ (fun bump entry => R bump entry ∧ made bump entry = bump) bumps entries := by
  induction paired with
  | nil => exact Forall₂.nil
  | cons related _ ih =>
    rw [zipWith_cons_cons] at same
    rcases List.cons.inj same with ⟨first, rest⟩
    exact Forall₂.cons ⟨related, first⟩ (ih rest)

/-- A written bump map is read back exactly where every bump survives. -/
theorem roundTrips_iff {bumps : List ChipBump} (holds : Holds block bumps) :
    RoundTrips chip block bumps ↔ ∀ bump ∈ bumps, Survives chip block bump := by
  constructor
  · rintro ⟨s', isOk, bumpsAfter, still⟩
    intro bump member
    have some : bumps ≠ [] := ne_nil_of_mem member
    by_cases dbu : chip.dbu_per_micron = 0
    · have failed : ∃ fault, (writeFile chip bumps).exec block = (.error fault, block) :=
        writeFile_zero some dbu
      rcases failed with ⟨fault, failed⟩
      rw [writeAndRead, exec_bind, failed] at isOk
      cases isOk
    rcases writeFile_reads holds dbu with ⟨text, isText, reads⟩
    rw [writeAndRead, exec_bind_ok _ isText, exec_bind, liftExcept_exec] at isOk
    cases parsed : parseBumpMapContent text with
    | error fault =>
      rw [parsed] at isOk
      cases isOk
    | ok entries =>
      rw [parsed] at isOk
      simp only at isOk
      rcases reads.entries entries parsed with ⟨areEntries, named⟩
      rcases created_left holds List.filter_sublist.subset (kept_refl block) areEntries isOk with
        ⟨left, _, bumpsAre⟩
      rw [bumpsAre] at bumpsAfter
      have same := reverse_injective (append_cancel_right bumpsAfter)
      have allKept : bumps.filter keptBump = bumps := by
        apply List.filter_sublist.eq_of_length
        rw [← congrArg List.length same, length_zipWith, areEntries.length_eq, Nat.min_self]
      rw [allKept] at left same
      rcases forall₂_left (zipWith_self left same) member with ⟨entry, _, isLeft, isSame⟩
      have isKept : keptBump bump := List.filter_eq_self.mp allKept bump member
      exact survives_of_left dbu isKept (fun inst isInst => named bump member inst isKept isInst)
        isLeft isSame still
  · intro survive
    cases bumps with
    | nil => exact ⟨block, rfl, rfl, fun _ inst isInst => ⟨inst, isInst, rfl, rfl⟩⟩
    | cons first rest =>
      have dbu := (survive first mem_cons_self).dbu
      rcases writeFile_reads holds dbu with ⟨text, isText, reads⟩
      rcases reads.named (fun bump member inst _ isInst =>
        (survive bump member).named inst isInst) with ⟨entries, parsed⟩
      have areEntries := (reads.entries entries parsed).1
      rw [List.filter_eq_self.mpr fun bump member => (survive bump member).kept] at areEntries
      rcases survive_create holds (List.Subset.refl _) (kept_refl block)
        (fun _ inst isInst => ⟨inst, isInst, rfl, rfl⟩) survive areEntries with
        ⟨s', isOk, still, bumpsAfter⟩
      refine ⟨s', ?_, bumpsAfter, still⟩
      rw [writeAndRead, exec_bind_ok _ isText, exec_bind, liftExcept_exec, parsed]
      exact isOk

lemma bumps_hold : Holds twoBumpBlock [oneBump, otherBump] := by
  refine ⟨?_, ?_, ?_, ?_⟩
  · intro bump member
    rcases List.mem_pair.mp member with rfl | rfl
    · exact ⟨_, rfl, noSpace_of_all (by decide)⟩
    · exact ⟨_, rfl, noSpace_of_all (by decide)⟩
  · intro bump member
    rcases List.mem_pair.mp member with rfl | rfl <;> exact noSpace_of_all (by decide)
  · intro bump member port isPort
    rcases List.mem_pair.mp member with rfl | rfl
    · rw [← some.inj isPort]
      exact ⟨noSpace_of_all (by decide), rfl⟩
    · rw [← some.inj isPort]
      exact ⟨noSpace_of_all (by decide), rfl⟩
  · intro bump member net isNet
    rcases List.mem_pair.mp member with rfl | rfl
    · rw [← some.inj isNet]
      exact ⟨noSpace_of_all (by decide), rfl⟩
    · rw [← some.inj isNet]
      exact ⟨noSpace_of_all (by decide), rfl⟩

lemma oneBump_survives : Survives (bumpChip 10) twoBumpBlock oneBump := by
  refine ⟨by decide, rfl, ?_, by decide, ?_, ?_, ?_⟩
  · intro inst isInst
    rw [← some.inj isInst]
    unfold Named
    decide
  · intro inst isInst
    rw [← some.inj isInst]
    unfold Aligned
    decide
  · intro inst current net isInst isTerm isNet
    rw [← some.inj isInst] at isTerm
    exact .inl ((some.inj isTerm).symm.trans isNet)
  · intro port current net isPort isCurrent isNet
    rw [← some.inj isPort] at isCurrent
    exact .inl ((some.inj isCurrent).symm.trans isNet)

lemma otherBump_survives : Survives (bumpChip 10) twoBumpBlock otherBump := by
  refine ⟨by decide, rfl, ?_, by decide, ?_, ?_, ?_⟩
  · intro inst isInst
    rw [← some.inj isInst]
    unfold Named
    decide
  · intro inst isInst
    rw [← some.inj isInst]
    unfold Aligned
    decide
  · intro inst current net isInst isTerm isNet
    rw [← some.inj isInst] at isTerm ⊢
    rw [← some.inj isTerm, ← some.inj isNet]
    exact .inr (by decide)
  · intro port current net isPort isCurrent isNet
    rw [← some.inj isPort] at isCurrent
    rw [← some.inj isCurrent, ← some.inj isNet]
    exact .inr (by decide)

theorem twoBumps_roundTrip : RoundTrips (bumpChip 10) twoBumpBlock [oneBump, otherBump] := by
  apply (roundTrips_iff bumps_hold).mpr
  intro bump member
  rcases List.mem_pair.mp member with rfl | rfl
  · exact oneBump_survives
  · exact otherBump_survives

/-- `createBump` takes half the cell off and stops at the fixed instance. -/
theorem oneBump_moves : Holds twoBumpBlock [oneBump, otherBump] ∧
    ¬ RoundTrips (bumpChip 0) twoBumpBlock [oneBump, otherBump] := by
  refine ⟨bumps_hold, ?_⟩
  rintro ⟨s', isOk, _⟩
  have stuck : ((writeAndRead (bumpChip 0) [oneBump, otherBump]).exec twoBumpBlock).1 =
      .error (.error 359) := by
    with_unfolding_all decide
  rw [isOk] at stuck
  cases stuck

end OpenRoad.Odb
