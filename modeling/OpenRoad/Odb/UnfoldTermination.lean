import OpenRoad.Odb.ChipRuns

/-! Unfolding ends in every database whose instances do not put a chip below itself. -/

namespace OpenRoad.Odb

open OpenRoad.Lib OpenRoad.Lib.Effect ChipDatabase ChipCall Relation

lemma after_discard {α : Type} {m : ChipM α} {db : ChipDatabase} {post : ChipDatabase → Prop}
    (after : After m db fun _ db' => post db') :
    After (discard m : ChipM Unit) db fun _ db' => post db' := by
  have same : ((discard m : ChipM Unit).exec db).2 = (m.exec db).2 := by
    have bound : (discard m : ChipM Unit).exec db = (m >>= fun _ => pure ()).exec db := rfl
    rw [bound, exec_bind]
    rcases m.exec db with ⟨fault | value, db'⟩ <;> rfl
  rw [After, same]
  exact after

lemma steps_of_keeps {m : ChipM Unit} (keeps : KeepsHierarchy m) (db : ChipDatabase) :
    After m db fun _ db' => ReflTransGen Hierarchy.Step db.hierarchy db'.hierarchy := by
  apply after_mono (after_keeps keeps db)
  intro _ db' same
  rw [same]

lemma steps_of_discard {α : Type} {m : ChipM α} (keeps : KeepsHierarchy m) (db : ChipDatabase) :
    After (discard m : ChipM Unit) db fun _ db' =>
      ReflTransGen Hierarchy.Step db.hierarchy db'.hierarchy := by
  apply after_discard
  apply after_mono (after_keeps keeps db)
  intro _ db' same
  rw [same]

lemma call_steps (db : ChipDatabase) (call : ChipCall) (linked : db.hierarchy.Linked)
    (acyclic : call.Acyclic db) :
    After call.run db fun _ db' =>
      ReflTransGen Hierarchy.Step db.hierarchy db'.hierarchy := by
  cases call with
  | chipCreate tech name type => exact after_discard (dbChip_create_steps tech name type db)
  | chipDestroy chip => exact dbChip_destroy_steps chip db linked
  | chipInstCreate parent master name =>
    apply after_discard
    apply after_mono (dbChipInst_create_spec parent master name db)
    intro _ db' spec
    rcases spec with same | ⟨id, list, insts, different, there, created, after⟩
    · rw [same]
    · rw [after]
      exact .single (.addInst different acyclic there created)
  | chipInstDestroy inst =>
    apply after_mono (dbChipInst_destroy_spec inst db)
    intro _ db' spec
    rcases spec with removed | ⟨same, _⟩
    · exact .single (removed_step removed)
    · rw [same]
  | chipRegionCreate chip name side layerTech =>
    exact steps_of_discard (keeps_dbChipRegion_create chip name side layerTech) db
  | chipBumpCreate chip region instChip inst =>
    exact steps_of_discard (keeps_dbChipBump_create chip region instChip inst) db
  | chipInstSetOrient inst orient => exact steps_of_keeps (keeps_dbChipInst_setOrient inst orient) db
  | chipInstSetLoc inst loc => exact steps_of_keeps (keeps_dbChipInst_setLoc inst loc) db
  | chipConnCreate name parent topPath top bottomPath bottom =>
    exact steps_of_discard (keeps_dbChipConn_create name parent topPath top bottomPath bottom) db
  | chipConnDestroy conn => exact steps_of_keeps (keeps_dbChipConn_destroy conn) db
  | chipNetCreate chip name => exact steps_of_discard (keeps_dbChipNet_create chip name) db
  | chipNetAddBumpInst net bumpInst path =>
    exact steps_of_keeps (keeps_dbChipNet_addBumpInst net bumpInst path) db
  | chipNetDestroy net => exact steps_of_keeps (keeps_dbChipNet_destroy net) db

lemma steps_acyclic {h h' : Hierarchy} (steps : ReflTransGen Hierarchy.Step h h')
    (linked : h.Linked) (terminates : Terminates h.Contains) :
    h'.Linked ∧ Terminates h'.Contains := by
  induction steps with
  | refl => exact ⟨linked, terminates⟩
  | tail _ step ih =>
    rcases ih with ⟨linkedMid, terminatesMid⟩
    exact ⟨Hierarchy.step_linked linkedMid step,
      Hierarchy.step_terminates linkedMid step terminatesMid⟩

lemma runAll_acyclic (calls : List ChipCall) (db db' : ChipDatabase)
    (run : runAll db calls = some db') (acyclic : ChipCall.AllAcyclic db calls)
    (linked : db.hierarchy.Linked) (terminates : Terminates db.hierarchy.Contains) :
    db'.hierarchy.Linked ∧ Terminates db'.hierarchy.Contains := by
  induction calls generalizing db with
  | nil =>
    rcases Option.some.inj run
    exact ⟨linked, terminates⟩
  | cons call calls ih =>
    rcases Option.bind_eq_some_iff.mp run with ⟨mid, step, rest⟩
    have steps : ReflTransGen Hierarchy.Step db.hierarchy mid.hierarchy := by
      have after := call_steps db call linked acyclic.1
      rw [ChipCall.step] at step
      rw [After] at after
      rcases ran : call.run.exec db with ⟨result, late⟩
      rw [ran] at step after
      split at step
      · cases step
      · rename_i same
        rcases Option.some.inj step
        rcases same
        exact after
    rcases steps_acyclic steps linked terminates with ⟨linkedMid, terminatesMid⟩
    have acyclicRest := acyclic.2
    rw [step] at acyclicRest
    exact ih mid rest acyclicRest linkedMid terminatesMid

lemma empty_linked : empty.hierarchy.Linked := Hierarchy.linked_empty

lemma empty_terminates : Terminates empty.hierarchy.Contains := by
  apply terminates_mono terminates_empty
  rintro a b ⟨list, there, _⟩
  cases there

def Finished {α : Type} (result : Except UnfoldFault α) : Prop := result ≠ .error .unfinished

def Ends {α : Type} (f : Nat → Except UnfoldFault α) : Prop :=
  ∃ result, Finished result ∧ ∃ bound, ∀ fuel, bound ≤ fuel → f fuel = result

section Recursion

variable {α β : Type}

lemma finished_ok (value : α) : Finished (.ok value) := fun same => nomatch same

@[simp] lemma follow_some (value : α) : follow (some value) = .ok value := rfl

@[simp] lemma follow_none : follow (none : Option α) = .error .dangling := rfl

@[simp] lemma ok_bind (value : α) (next : α → Except UnfoldFault β) :
    (Except.ok value >>= next) = next value := rfl

@[simp] lemma error_bind (fault : UnfoldFault) (next : α → Except UnfoldFault β) :
    (Except.error fault >>= next) = .error fault := rfl

lemma finished_dangling : Finished (.error .dangling : Except UnfoldFault α) :=
  fun same => nomatch same

lemma finished_follow (object : Option α) : Finished (follow object) := by
  cases object <;> intro same <;> cases same

lemma finished_bind {result : Except UnfoldFault α} {next : α → Except UnfoldFault β}
    (first : Finished result) (second : ∀ value, Finished (next value)) :
    Finished (result >>= next) := by
  cases result with
  | error fault =>
    intro same
    cases same
    exact first rfl
  | ok value => exact second value

lemma ends_const {result : Except UnfoldFault α} (finished : Finished result) :
    Ends fun _ => result :=
  ⟨result, finished, 0, fun _ _ => rfl⟩

lemma ends_bind {f : Nat → Except UnfoldFault α} {next : Nat → α → Except UnfoldFault β}
    (first : Ends f) (second : ∀ value, Ends fun fuel => next fuel value) :
    Ends fun fuel => f fuel >>= next fuel := by
  rcases first with ⟨result, finished, bound, same⟩
  cases result with
  | error fault =>
    refine ⟨.error fault, ?_, bound, ?_⟩
    · intro same
      cases same
      exact finished rfl
    · intro fuel enough
      simp only [same fuel enough]
      rfl
  | ok value =>
    rcases second value with ⟨last, finishedLast, more, sameLast⟩
    refine ⟨last, finishedLast, max bound more, ?_⟩
    intro fuel enough
    simp only [same fuel (le_of_max_le_left enough)]
    exact sameLast fuel (le_of_max_le_right enough)

lemma ends_foldlM (items : List Nat) {body : Nat → β → Nat → Except UnfoldFault β}
    (each : ∀ item ∈ items, ∀ value, Ends fun fuel => body fuel value item) (start : β) :
    Ends fun fuel => items.foldlM (body fuel) start := by
  induction items generalizing start with
  | nil => exact ends_const (finished_ok start)
  | cons item items ih =>
    simp only [List.foldlM_cons]
    apply ends_bind (each item List.mem_cons_self start)
    intro value
    exact ih (fun other member => each other (List.mem_cons_of_mem item member)) value

lemma ends_succ {f : Nat → Except UnfoldFault α} (ends : Ends fun fuel => f (fuel + 1)) :
    Ends f := by
  rcases ends with ⟨result, finished, bound, same⟩
  refine ⟨result, finished, bound + 1, ?_⟩
  intro fuel enough
  rcases Nat.exists_eq_add_of_le' enough with ⟨more, rfl⟩
  rw [← Nat.add_assoc]
  exact same _ (Nat.le_add_left _ _)

end Recursion

variable {db : ChipDatabase}

lemma getFullPathName_finished (name : String) (path : List Nat) :
    Finished (getFullPathName db name path) := by
  induction path generalizing name with
  | nil => exact finished_ok name
  | cons id path ih => exact finished_bind (finished_follow _) fun _ => ih _

lemma unfoldBumps_finished (transform : DbTransform) (z : Int) (bumpInsts : List Nat) :
    Finished (unfoldBumps db transform z bumpInsts) := by
  induction bumpInsts with
  | nil => exact finished_ok _
  | cons id bumpInsts ih =>
    apply finished_bind (finished_follow _)
    intro _
    apply finished_bind (finished_follow _)
    intro _
    apply finished_bind (finished_follow _)
    intro inst
    apply finished_bind ih
    intro _
    cases inst <;> exact finished_ok _

lemma unfoldRegions_finished (transform : DbTransform) (regionInsts : List Nat) :
    Finished (unfoldRegions db transform regionInsts) := by
  induction regionInsts with
  | nil => exact finished_ok _
  | cons id regionInsts ih =>
    apply finished_bind (finished_follow _)
    intro _
    apply finished_bind (finished_follow _)
    intro _
    apply finished_bind (unfoldBumps_finished _ _ _)
    intro _
    exact finished_bind ih fun _ => finished_ok _

lemma unfoldChip_finished (inst : DbChipInst) (master : DbChip) (path : List Nat)
    (total : DbTransform) : Finished (unfoldChip db inst master path total) := by
  apply finished_bind (getFullPathName_finished _ _)
  intro _
  exact finished_bind (unfoldRegions_finished _ _) fun _ => finished_ok _

lemma unfoldConnections_finished (path conns : List Nat) (m : UnfoldedModel) :
    Finished (unfoldConnections db path conns m) := by
  induction conns generalizing m with
  | nil => exact finished_ok m
  | cons id conns ih => exact finished_bind (finished_follow _) fun _ => ih _

lemma unfoldNets_finished (path nets : List Nat) (m : UnfoldedModel) :
    Finished (unfoldNets db path nets m) := by
  induction nets generalizing m with
  | nil => exact finished_ok m
  | cons id nets ih => exact finished_bind (finished_follow _) fun _ => ih _

lemma contains_of_member {id inst : Nat} {chip : DbChip} {object : DbChipInst}
    (there : db.chip_tbl.objs id = some chip) (member : inst ∈ chip.chipinsts)
    (live : db.chip_inst_tbl.objs inst = some object) :
    db.hierarchy.Contains id object.master_chip :=
  ⟨chip.chipinsts, objs_chips there, inst, member, object.parent_chip, objs_insts live⟩

lemma buildUnfoldedChip_ends (terminates : Terminates db.hierarchy.Contains) (chipId : Nat) :
    ∀ instId inst, db.chip_inst_tbl.objs instId = some inst → inst.master_chip = chipId →
      ∀ path xform m, Ends fun fuel => buildUnfoldedChip db fuel instId path xform m := by
  induction chipId using terminates.induction with
  | _ chipId ih =>
    intro instId inst live isMaster path xform m
    apply ends_succ
    simp only [buildUnfoldedChip, live, follow_some, ok_bind, isMaster]
    cases there : db.chip_tbl.objs chipId with
    | none => exact ends_const finished_dangling
    | some master =>
      simp only [follow_some, ok_bind]
      by_cases hier : master.type = .HIER
      · simp only [hier, if_true]
        refine ends_bind (ends_foldlM master.chipinsts ?_ m) ?_
        · intro sub member value
          cases liveSub : db.chip_inst_tbl.objs sub with
          | none =>
            apply ends_succ
            simp only [buildUnfoldedChip, liveSub, follow_none, error_bind]
            exact ends_const finished_dangling
          | some object =>
            exact ih object.master_chip (contains_of_member there member liveSub) sub object
              liveSub rfl _ _ value
        · intro subs
          apply ends_const
          apply finished_bind (unfoldConnections_finished _ _ _)
          intro connected
          exact unfoldNets_finished _ _ _
      · simp only [hier, if_false]
        apply ends_const
        exact finished_bind (unfoldChip_finished _ _ _ _) fun _ => finished_ok _

lemma unfold_ends (terminates : Terminates db.hierarchy.Contains) (chipId : Nat) :
    Ends fun fuel => unfold db fuel chipId := by
  simp only [unfold]
  cases there : db.chip_tbl.objs chipId with
  | none => exact ends_const finished_dangling
  | some chip =>
    simp only [follow_some, ok_bind]
    refine ends_bind (ends_foldlM chip.chipinsts ?_ UnfoldedModel.empty) ?_
    · intro sub member value
      cases liveSub : db.chip_inst_tbl.objs sub with
      | none =>
        apply ends_succ
        simp only [buildUnfoldedChip, liveSub, follow_none, error_bind]
        exact ends_const finished_dangling
      | some object =>
        exact buildUnfoldedChip_ends terminates object.master_chip sub object liveSub rfl _ _ value
    · intro subs
      apply ends_const
      apply finished_bind (unfoldConnections_finished _ _ _)
      intro connected
      exact unfoldNets_finished _ _ _

/-- If no call puts a chip below itself, unfolding every chip ends. -/
theorem unfolding_terminates (calls : List ChipCall) (db : ChipDatabase)
    (run : runAll empty calls = some db)
    (acyclic : ChipCall.AllAcyclic empty calls) :
    Terminates db.hierarchy.Contains ∧ ∀ chipId, ∃ result, result ≠ .error .unfinished ∧
        ∃ bound, ∀ fuel, bound ≤ fuel → unfold db fuel chipId = result := by
  rcases runAll_acyclic calls empty db run acyclic empty_linked empty_terminates with
    ⟨_, terminates⟩
  exact ⟨terminates, unfold_ends terminates⟩

lemma not_reaches_of_empty {h : Hierarchy} {master : Nat} (empty : h.chips.objs master = some [])
    (parent : Nat) : ¬ TransGen h.Contains master parent := by
  intro reaches
  rcases TransGen.head'_iff.mp reaches with ⟨next, ⟨list, there, id, member, _⟩, _⟩
  rw [empty] at there
  rw [← Option.some.inj there] at member
  cases member

def layeredCalls : List ChipCall :=
  [.chipCreate 0 "top" .HIER, .chipCreate 0 "mid" .HIER, .chipCreate 1 "die" .DIE,
    .chipInstCreate 1 2 "mid", .chipInstCreate 2 3 "left", .chipInstCreate 2 3 "right",
    .chipInstDestroy 2]

theorem unfolding_terminates_sample :
    ∃ db, runAll empty layeredCalls = some db ∧
      Terminates db.hierarchy.Contains ∧ ∀ chipId, ∃ result, result ≠ .error .unfinished ∧
          ∃ bound, ∀ fuel, bound ≤ fuel → unfold db fuel chipId = result := by
  have acyclic : ChipCall.AllAcyclic empty layeredCalls := by
    refine ⟨trivial, trivial, trivial, not_reaches_of_empty ?_ _, not_reaches_of_empty ?_ _,
      not_reaches_of_empty ?_ _, trivial, trivial⟩ <;> decide
  cases run : runAll empty layeredCalls with
  | none =>
    have ran : (runAll empty layeredCalls).isSome = true := by decide
    rw [run] at ran
    cases ran
  | some db => exact ⟨db, rfl, unfolding_terminates layeredCalls db run acyclic⟩

def mutualCalls : List ChipCall :=
  [.chipCreate 0 "a" .HIER, .chipCreate 0 "b" .HIER, .chipInstCreate 1 2 "b", .chipInstCreate 2 1 "a"]

/-- What unfolding reads in the database of `mutualCalls`. -/
def MutualChips (db : ChipDatabase) : Prop :=
  ∃ first second inst other, db.chip_tbl.objs 1 = some first ∧ db.chip_tbl.objs 2 = some second ∧
    db.chip_inst_tbl.objs 1 = some inst ∧ db.chip_inst_tbl.objs 2 = some other ∧
    (first.type, first.chipinsts, inst.ends) = (.HIER, [1], (1, 2)) ∧
    (second.type, second.chipinsts, other.ends) = (.HIER, [2], (2, 1))

lemma mutualChips_cycle (db : ChipDatabase) (facing : MutualChips db) :
    db.hierarchy.Contains 1 2 ∧ db.hierarchy.Contains 2 1 := by
  rcases facing with ⟨first, second, inst, other, thereFirst, thereSecond, liveInst, liveOther,
    seenFirst, seenSecond⟩
  simp only [Prod.mk.injEq] at seenFirst seenSecond
  constructor
  · exact ⟨[1], seenFirst.2.1 ▸ objs_chips thereFirst, 1, List.mem_cons_self, 1,
      seenFirst.2.2 ▸ objs_insts liveInst⟩
  · exact ⟨[2], seenSecond.2.1 ▸ objs_chips thereSecond, 2, List.mem_cons_self, 2,
      seenSecond.2.2 ▸ objs_insts liveOther⟩

lemma mutualChips_unfinished (db : ChipDatabase) (facing : MutualChips db) (fuel : Nat)
    (path : List Nat) (xform : DbTransform) (m : UnfoldedModel) :
    buildUnfoldedChip db fuel 1 path xform m = .error .unfinished ∧
      buildUnfoldedChip db fuel 2 path xform m = .error .unfinished := by
  rcases facing with ⟨first, second, inst, other, thereFirst, thereSecond, liveInst, liveOther,
    seenFirst, seenSecond⟩
  simp only [Prod.mk.injEq, DbChipInst.ends] at seenFirst seenSecond
  induction fuel generalizing path xform m with
  | zero => exact ⟨rfl, rfl⟩
  | succ fuel ih =>
    simp only [buildUnfoldedChip, liveInst, liveOther, follow_some, ok_bind, seenFirst.2.2.2,
      seenSecond.2.2.2, thereFirst, thereSecond, seenFirst.1, seenSecond.1, if_true,
      seenFirst.2.1, seenSecond.2.1, List.foldlM_cons, (ih _ _ _).1, (ih _ _ _).2, error_bind,
      and_self]

/-- Every instance is accepted, and unfolding either chip never ends. -/
theorem mutual_instances_unending : ∃ db, runAll empty mutualCalls = some db ∧
      ¬ Terminates db.hierarchy.Contains ∧ ∀ fuel, unfold db fuel 1 = .error .unfinished := by
  have seen : (runAll empty mutualCalls).map (fun db =>
      ((db.chip_tbl.objs 1).map fun chip => (chip.type, chip.chipinsts),
        (db.chip_tbl.objs 2).map fun chip => (chip.type, chip.chipinsts),
        (db.chip_inst_tbl.objs 1).map DbChipInst.ends,
        (db.chip_inst_tbl.objs 2).map DbChipInst.ends)) =
      some (some (.HIER, [1]), some (.HIER, [2]), some (1, 2), some (2, 1)) := rfl
  rcases Option.map_eq_some_iff.mp seen with ⟨db, run, facts⟩
  simp only [Prod.mk.injEq, Option.map_eq_some_iff] at facts
  rcases facts with ⟨⟨first, thereFirst, type, insts⟩, ⟨second, thereSecond, type', insts'⟩,
    ⟨inst, liveInst, ends⟩, ⟨other, liveOther, ends'⟩⟩
  have facing : MutualChips db := ⟨first, second, inst, other, thereFirst, thereSecond, liveInst,
    liveOther, by rw [type, insts, ends], by rw [type', insts', ends']⟩
  rcases mutualChips_cycle db facing with ⟨forth, back⟩
  refine ⟨db, run, ?_, ?_⟩
  · intro terminates
    exact not_reaches_self terminates 1 (.tail (.single forth) back)
  · intro fuel
    have stuck := (mutualChips_unfinished db facing fuel [] DbTransform.identity .empty).1
    simp only [unfold, thereFirst, follow_some, ok_bind, insts, List.foldlM_cons, stuck, error_bind]

end OpenRoad.Odb
