import OpenRoad.Odb.BumpMap

/-! What `createBump` does where the instance, the net and the port of the entry are there. -/

namespace OpenRoad.Odb

open OpenRoad.Lib OpenRoad.Lib.Effect OpenRoad.Lib.Words Function

variable {chip : BumpChip} {entry : BumpMapEntry} {s s' : BumpBlock} {inst : BumpInst}

def BumpMapEntry.net (entry : BumpMapEntry) : Option Text :=
  if entry.net_name = ['-'] then none else some entry.net_name

def BumpMapEntry.port (entry : BumpMapEntry) : Option Text :=
  if entry.port_name = ['-'] then none else some entry.port_name

/-- `setOrigin` raises no error. -/
def Movable (inst : BumpInst) (x y : CInt) : Prop :=
  inst.x = x ∧ inst.y = y ∨ inst.status.isFixed = false

def placed (s : BumpBlock) (entry : BumpMapEntry) (inst : BumpInst) (x y : CInt) : BumpBlock :=
  { s with
    insts := update s.insts entry.bump_inst_name
      (some { inst with x := x, y := y, status := .FIRM })
    bumps := ⟨entry.bump_inst_name, none, none⟩ :: s.bumps }

/-- The first terminal after the net of an entry is connected to it. -/
def itermAfter (nets : Text → Option Bool) (inst : BumpInst) (net : Option Text) :
    Except BumpFault (Option (Option Text)) :=
  match inst.iterm, net with
  | none, _ => .ok none
  | some current, none => .ok (some current)
  | some current, some net => (connectITerm inst current net nets).map some

lemma required_exec {α : Type} (fault : BumpFault) (value : Option α) (s : BumpBlock) :
    (required fault value).exec s = (value.elim (.error fault) .ok, s) := by
  cases value <;> rfl

lemma liftExcept_exec {α : Type} (result : Except BumpFault α) (s : BumpBlock) :
    (liftExcept result).exec s = (result, s) := by
  cases result <;> rfl

lemma fixed_isPlaced {status : BumpStatus} (fixed : status.isFixed) : status.isPlaced := by
  cases status <;> first | rfl | cases fixed

lemma setOrigin_exec (inst : BumpInst) (x y : CInt) (s : BumpBlock) :
    (Movable inst x y ∧ (setOrigin inst x y).exec s = (.ok { inst with x := x, y := y }, s)) ∨
      (¬ Movable inst x y ∧ (setOrigin inst x y).exec s = (.error (.error 359), s)) := by
  rw [setOrigin]
  split
  · rename_i same
    rcases same with ⟨_, rfl, rfl⟩
    exact .inl ⟨.inl ⟨rfl, rfl⟩, rfl⟩
  · rename_i moves
    split
    · rename_i fixed
      refine .inr ⟨?_, rfl⟩
      rintro (⟨sameX, sameY⟩ | free)
      · exact moves ⟨fixed_isPlaced fixed, sameX, sameY⟩
      · rw [free] at fixed
        cases fixed
    · rename_i free
      exact .inl ⟨.inr (by simpa using free), rfl⟩

lemma placeBump_ok (isInst : s.insts entry.bump_inst_name = some inst) :
    (placeBump chip entry).exec s = (.ok (), s') ↔
      ∃ x y, readCoordinate chip entry.x inst.master.xCenter chip.offset_x = some x ∧
        readCoordinate chip entry.y inst.master.yCenter chip.offset_y = some y ∧
        Movable inst x y ∧ s' = placed s entry inst x y := by
  have found : (findOrCreateInst chip entry).exec s = (.ok inst, s) := by
    rw [findOrCreateInst, exec_bind_ok _ (exec_get s), isInst]
    rfl
  rw [placeBump, exec_bind_ok _ found, exec_bind_ok _ (exec_modify _ s), exec_bind, required_exec]
  cases readX : readCoordinate chip entry.x inst.master.xCenter chip.offset_x with
  | none => simp
  | some x =>
    simp only [Option.elim_some]
    rw [exec_bind, required_exec]
    cases readY : readCoordinate chip entry.y inst.master.yCenter chip.offset_y with
    | none => simp
    | some y =>
      simp only [Option.elim_some]
      rw [exec_bind]
      rcases setOrigin_exec inst x y _ with ⟨movable, moved⟩ | ⟨stuck, refused⟩
      · rw [moved]
        constructor
        · intro isOk
          exact ⟨x, y, rfl, rfl, movable, (Prod.mk.inj isOk).2.symm⟩
        · rintro ⟨x', y', isX, isY, _, isState⟩
          rw [isState, ← Option.some.inj isX, ← Option.some.inj isY]
          rfl
      · rw [refused]
        constructor
        · intro isOk
          cases isOk
        · rintro ⟨x', y', isX, isY, movable, _⟩
          rw [← Option.some.inj isX, ← Option.some.inj isY] at movable
          exact absurd movable stuck

lemma bumpNet_ok {rest : List ChipBump} {net : Option Text}
    (isInst : s.insts entry.bump_inst_name = some inst)
    (isBump : s.bumps = ⟨entry.bump_inst_name, none, none⟩ :: rest)
    (isNet : ∀ net, entry.net = some net → (s.nets net).isSome) :
    (bumpNet entry).exec s = (.ok net, s') ↔
      net = entry.net ∧ ∃ iterm, itermAfter s.nets inst entry.net = .ok iterm ∧ s' = { s with
          insts := update s.insts entry.bump_inst_name (some { inst with iterm := iterm })
          bumps := ⟨entry.bump_inst_name, none, entry.net⟩ :: rest } := by
  have unchanged : update s.insts entry.bump_inst_name (some inst) = s.insts := by
    rw [← isInst, update_eq_self]
  rw [bumpNet]
  by_cases dash : entry.net_name = ['-']
  · have noNet : entry.net = none := if_pos dash
    have after : itermAfter s.nets inst none = .ok inst.iterm := by
      unfold itermAfter
      cases inst.iterm <;> rfl
    rw [if_pos dash, noNet, after]
    have isState : s = { s with
        insts := update s.insts entry.bump_inst_name (some inst)
        bumps := ⟨entry.bump_inst_name, none, none⟩ :: rest } := by
      rw [unchanged, ← isBump]
    constructor
    · intro isOk
      rcases Prod.mk.inj isOk with ⟨isNone, rfl⟩
      exact ⟨(Except.ok.inj isNone).symm, _, rfl, isState⟩
    · rintro ⟨rfl, iterm, isTerm, isAfter⟩
      rw [isAfter, ← Except.ok.inj isTerm, ← isState]
      rfl
  · have someNet : entry.net = some entry.net_name := if_neg dash
    rcases Option.isSome_iff_exists.mp (isNet _ someNet) with ⟨flag, isFlag⟩
    have sameNets : update s.nets entry.net_name
        (some ((s.nets entry.net_name).getD false)) = s.nets := by
      rw [isFlag, Option.getD_some, ← isFlag, update_eq_self]
    rw [if_neg dash, exec_bind_ok _ (exec_modify _ s), sameNets, modifyBump,
      exec_bind_ok _ (exec_modify _ s), exec_bind_ok _ (exec_get _), exec_bind, required_exec,
      isInst, isBump, someNet]
    simp only [Option.elim_some, List.modifyHead_cons]
    cases isTerm : inst.iterm with
    | none =>
      have after : itermAfter s.nets inst (some entry.net_name) = .ok none := by
        unfold itermAfter
        rw [isTerm]
      have same : ({ inst with iterm := none } : BumpInst) = inst := by rw [← isTerm]
      rw [after]
      constructor
      · intro isOk
        rcases Prod.mk.inj isOk with ⟨isNet, rfl⟩
        exact ⟨(Except.ok.inj isNet).symm, none, rfl, by rw [same, unchanged]⟩
      · rintro ⟨rfl, iterm, isAfter, rfl⟩
        rw [← Except.ok.inj isAfter, same, unchanged]
        rfl
    | some current =>
      have after : itermAfter s.nets inst (some entry.net_name) =
          (connectITerm inst current entry.net_name s.nets).map some := by
        unfold itermAfter
        rw [isTerm]
      rw [after]
      simp only
      cases connected : connectITerm inst current entry.net_name s.nets with
      | error fault =>
        constructor
        · intro isOk
          cases isOk
        · rintro ⟨_, iterm, isAfter, _⟩
          cases isAfter
      | ok now =>
        constructor
        · intro isOk
          rcases Prod.mk.inj isOk with ⟨isNet, rfl⟩
          exact ⟨(Except.ok.inj isNet).symm, some now, rfl, rfl⟩
        · rintro ⟨rfl, iterm, isAfter, rfl⟩
          rw [← Except.ok.inj isAfter]
          rfl

/-- The ports after the port of an entry is connected to its net. -/
def btermsAfter (block : BumpBlock) (port net : Option Text) :
    Except BumpFault (Text → Option (Option Text)) :=
  match port, net with
  | none, _ => .ok block.bterms
  | some _, none => .ok block.bterms
  | some port, some net =>
    match block.bterms port with
    | none => .ok block.bterms
    | some current =>
      (connectBTerm current net block.nets).map fun now =>
        update block.bterms port (some now)

lemma bumpPort_ok {rest : List ChipBump} {net : Option Text}
    (isBump : s.bumps = ⟨entry.bump_inst_name, none, net⟩ :: rest)
    (isPort : ∀ port, entry.port = some port → (s.bterms port).isSome) :
    (bumpPort entry net).exec s = (.ok (), s') ↔
      ∃ bterms, btermsAfter s entry.port net = .ok bterms ∧ s' = { s with
          bterms := bterms
          bumps := ⟨entry.bump_inst_name, entry.port, net⟩ :: rest } := by
  rw [bumpPort]
  by_cases dash : entry.port_name = ['-']
  · have noPort : entry.port = none := if_pos dash
    have isState : s = { s with
        bumps := ⟨entry.bump_inst_name, none, net⟩ :: rest } := by
      rw [← isBump]
    rw [if_pos dash, noPort]
    constructor
    · intro isOk
      exact ⟨s.bterms, rfl, (Prod.mk.inj isOk).2.symm.trans isState⟩
    · rintro ⟨bterms, isAfter, rfl⟩
      rw [← Except.ok.inj isAfter, ← isState]
      rfl
  · have somePort : entry.port = some entry.port_name := if_neg dash
    rcases Option.isSome_iff_exists.mp (isPort _ somePort) with ⟨current, isCurrent⟩
    rw [if_neg dash, exec_bind_ok _ (exec_get s), isCurrent, somePort]
    cases net with
    | none =>
      simp only [modifyBump, exec_modify, isBump, List.modifyHead_cons]
      constructor
      · intro isOk
        exact ⟨s.bterms, rfl, (Prod.mk.inj isOk).2.symm⟩
      · rintro ⟨bterms, isAfter, rfl⟩
        rw [← Except.ok.inj isAfter]
    | some net =>
      have after : btermsAfter s (some entry.port_name) (some net) =
          (connectBTerm current net s.nets).map fun now =>
            update s.bterms entry.port_name (some now) := by
        unfold btermsAfter
        simp only [isCurrent]
      rw [after]
      simp only
      rw [modifyBump, exec_bind_ok _ (exec_modify _ s), exec_bind, liftExcept_exec, isBump]
      cases connected : connectBTerm current net s.nets with
      | error fault =>
        constructor
        · intro isOk
          cases isOk
        · rintro ⟨_, isAfter, _⟩
          cases isAfter
      | ok now =>
        constructor
        · intro isOk
          exact ⟨_, rfl, (Prod.mk.inj isOk).2.symm⟩
        · rintro ⟨bterms, isAfter, rfl⟩
          rw [← Except.ok.inj isAfter]
          rfl

/-- The block after a bump whose instance, net and port are there. -/
structure BumpCreated (chip : BumpChip) (entry : BumpMapEntry) (inst : BumpInst) (s s' : BumpBlock) :
    Prop where
  place : ∃ x y iterm, readCoordinate chip entry.x inst.master.xCenter chip.offset_x = some x ∧
    readCoordinate chip entry.y inst.master.yCenter chip.offset_y = some y ∧ Movable inst x y ∧
    itermAfter s.nets inst entry.net = .ok iterm ∧
    s'.insts = update s.insts entry.bump_inst_name
      (some { inst with x := x, y := y, status := .FIRM, iterm := iterm })
  bterms : btermsAfter s entry.port entry.net = .ok s'.bterms
  nets : s'.nets = s.nets
  bumps : s'.bumps = ⟨entry.bump_inst_name, entry.port, entry.net⟩ :: s.bumps

lemma createBump_ok (isInst : s.insts entry.bump_inst_name = some inst)
    (isNet : ∀ net, entry.net = some net → (s.nets net).isSome)
    (isPort : ∀ port, entry.port = some port → (s.bterms port).isSome) :
    (createBump chip entry).exec s = (.ok (), s') ↔ BumpCreated chip entry inst s s' := by
  have netDone := fun x y net s' => @bumpNet_ok entry (placed s entry inst x y) s'
    { inst with x := x, y := y, status := .FIRM } s.bumps net (update_self ..) rfl isNet
  rw [createBump]
  constructor
  · intro isOk
    rcases bind_ok isOk with ⟨_, first, isPlaced, isOk⟩
    rcases (placeBump_ok isInst).mp isPlaced with ⟨x, y, readX, readY, movable, rfl⟩
    rcases bind_ok isOk with ⟨net, second, isConnected, isOk⟩
    rcases (netDone x y net second).mp isConnected with ⟨rfl, iterm, itermIs, rfl⟩
    rcases (bumpPort_ok rfl (by exact isPort)).mp isOk with ⟨bterms, btermsAre, rfl⟩
    refine ⟨⟨x, y, iterm, readX, readY, movable, itermIs, ?_⟩, btermsAre, rfl, rfl⟩
    exact update_idem ..
  · intro created
    rcases created with ⟨⟨x, y, iterm, readX, readY, movable, itermIs, insts⟩, btermsAre, nets, bumps⟩
    rw [exec_bind_ok _ ((placeBump_ok isInst).mpr ⟨x, y, readX, readY, movable, rfl⟩),
      exec_bind_ok _ ((netDone x y entry.net _).mpr ⟨rfl, iterm, itermIs, rfl⟩)]
    refine (bumpPort_ok rfl (by exact isPort)).mpr ⟨s'.bterms, btermsAre, ?_⟩
    rcases s' with ⟨insts', nets', bterms', bumps'⟩
    simp only at insts nets bumps
    rw [insts, nets, bumps]
    simp only [placed, update_idem]

end OpenRoad.Odb
