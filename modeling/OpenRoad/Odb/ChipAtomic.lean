import OpenRoad.Lib.Raises
import OpenRoad.Odb.ChipRuns

/-! Calls on chips that raise an error, and when the database is then as it was before. -/

namespace OpenRoad.Odb

open OpenRoad.Lib OpenRoad.Lib.Effect ChipDatabase

section Raising

variable {α : Type}

abbrev OnlyDangles (m : ChipM α) : Prop := Raises ChipFault.dangling m

lemma dangles_deref (object : Option α) : OnlyDangles (deref object) := by
  cases object with
  | none => exact raises_throw
  | some value => exact raises_pure value

lemma dangles_lookup (object : ChipDatabase → Option α) :
    OnlyDangles (do deref (object (← get))) := raises_bind raises_get fun _ => dangles_deref _

lemma dangles_modifyChip (id : Nat) (update : DbChip → DbChip) :
    OnlyDangles (modifyChip id update) :=
  raises_bind (dangles_lookup _) fun _ => raises_modify _

lemma dangles_release (table : ChipDatabase → Store α)
    (put : Store α → ChipDatabase → ChipDatabase) (id : Nat) :
    OnlyDangles (release table put id) := by
  apply raises_bind raises_get
  intro _
  exact raises_bind (dangles_deref _) fun _ => raises_set _

lemma dangles_destroyRegionInsts (regionInsts : List Nat) :
    OnlyDangles (destroyRegionInsts regionInsts) := by
  induction regionInsts with
  | nil => exact raises_pure ()
  | cons regionInst regionInsts ih =>
    apply raises_bind (dangles_lookup _)
    intro _
    apply raises_bind (dangles_release _ _ _)
    intro _
    exact raises_bind (raises_forM _ fun _ => dangles_release _ _ _) fun _ => ih

lemma dangles_dbChipInst_destroy (instId : Nat) : OnlyDangles (dbChipInst_destroy instId) := by
  apply raises_ite
  · exact raises_pure ()
  · apply raises_bind (dangles_lookup _)
    intro _
    apply raises_bind (dangles_destroyRegionInsts _)
    intro _
    exact raises_bind (dangles_modifyChip _ _) fun _ => dangles_release _ _ _

lemma dangles_dbChipConn_destroy (connId : Nat) : OnlyDangles (dbChipConn_destroy connId) := by
  apply raises_bind (dangles_lookup _)
  intro _
  exact raises_bind (dangles_modifyChip _ _) fun _ => dangles_release _ _ _

lemma dangles_dbChip_destroy (chipId : Nat) : OnlyDangles (dbChip_destroy chipId) := by
  apply raises_bind (dangles_lookup _)
  intro _
  apply raises_bind (raises_forM _ dangles_dbChipConn_destroy)
  intro _
  apply raises_bind (raises_forM _ dangles_dbChipInst_destroy)
  intro _
  exact raises_bind (dangles_release _ _ _) fun _ => raises_modify _

end Raising

variable {α β : Type} {db : ChipDatabase} {number : Nat} {text : String}

/-- An error of the logger leaves the database as it was. -/
def Atomic (m : ChipM α) : Prop :=
  ∀ db number text, (m.exec db).1 = .error (.error number text) → (m.exec db).2 = db

lemma atomic_of_dangles {m : ChipM α} (dangles : OnlyDangles m) : Atomic m := by
  intro db number text raised
  cases dangles db _ _ (Prod.ext raised rfl)

lemma atomic_ite (condition : Prop) [Decidable condition] {m m' : ChipM α} (first : Atomic m)
    (second : Atomic m') : Atomic (if condition then m else m') := by
  split
  · exact first
  · exact second

lemma atomic_bind {m : ChipM α} {next : α → ChipM β} (reads : Keeps id m)
    (second : ∀ value, Atomic (next value)) : Atomic (m >>= next) := by
  intro db number text raised
  have kept : (m.exec db).2 = db := reads db
  rw [exec_bind] at raised ⊢
  rcases ran : m.exec db with ⟨fault | value, mid⟩ <;> rw [ran] at kept raised
  · exact kept
  · cases kept
    exact second value _ number text raised

lemma discard_raised {m : ChipM α}
    (raised : ((discard m : ChipM Unit).exec db).1 = .error (.error number text)) :
    (m.exec db).1 = .error (.error number text) ∧
      ((discard m : ChipM Unit).exec db).2 = (m.exec db).2 := by
  have bound : (discard m : ChipM Unit) = (m >>= fun _ => pure ()) := rfl
  rw [bound, exec_bind] at raised ⊢
  rcases ran : m.exec db with ⟨fault | value, mid⟩ <;> rw [ran] at raised
  · cases raised
    exact ⟨rfl, rfl⟩
  · cases raised

lemma atomic_discard {m : ChipM α} (atomic : Atomic m) : Atomic (discard m : ChipM Unit) := by
  intro db number text raised
  rcases discard_raised raised with ⟨inner, same⟩
  exact same.trans (atomic db number text inner)

lemma dangles_allocate (table : ChipDatabase → Store α)
    (put : Store α → ChipDatabase → ChipDatabase) (page : Nat) (object : α) :
    OnlyDangles (allocate table put page object) := by
  apply raises_bind raises_get
  intro _
  exact raises_bind (dangles_deref _) fun _ => raises_bind (raises_set _) fun _ => raises_pure _

lemma dangles_modifyChipInst (id : Nat) (update : DbChipInst → DbChipInst) :
    OnlyDangles (modifyChipInst id update) :=
  raises_bind (dangles_lookup _) fun _ => raises_modify _

lemma dangles_createBumpInsts (regionInst : Nat) (bumps : List Nat) :
    OnlyDangles (createBumpInsts regionInst bumps) := by
  induction bumps with
  | nil => exact raises_pure _
  | cons bump bumps ih =>
    apply raises_bind (dangles_allocate _ _ _ _)
    intro _
    exact raises_bind ih fun _ => raises_pure _

lemma dangles_createRegionInsts (chipinst : Nat) (master : DbChip) (regions : List Nat) :
    OnlyDangles (createRegionInsts chipinst master regions) := by
  induction regions with
  | nil => exact raises_pure _
  | cons region regions ih =>
    apply raises_bind (dangles_allocate _ _ _ _)
    intro _
    apply raises_bind (dangles_deref _)
    intro _
    apply raises_bind (dangles_createBumpInsts _ _)
    intro _
    apply raises_bind (raises_modify _)
    intro _
    exact raises_bind ih fun _ => raises_pure _

lemma atomic_dbChipRegion_create (chipId : Nat) (name : String) (side : RegionSide)
    (layerTech : Option Nat) : Atomic (dbChipRegion_create chipId name side layerTech) := by
  apply atomic_ite _ (atomic_of_dangles (raises_pure _))
  apply atomic_bind (keeps_lookup _)
  intro _
  apply atomic_bind (keeps_checkNot _ _ _)
  intro _
  apply atomic_bind (keeps_checkNot _ _ _)
  intro _
  apply atomic_of_dangles
  apply raises_bind (dangles_deref _)
  intro _
  exact raises_bind (dangles_modifyChip _ _) fun _ => raises_pure _

lemma atomic_dbChipBump_create (chipId regionId instChip inst : Nat) :
    Atomic (dbChipBump_create chipId regionId instChip inst) := by
  apply atomic_ite _ (atomic_of_dangles (raises_pure _))
  apply atomic_bind (keeps_lookup _)
  intro _
  apply atomic_ite _ (atomic_of_dangles (raises_pure _))
  apply atomic_bind (keeps_checkNot _ _ _)
  intro _
  apply atomic_of_dangles
  apply raises_bind (dangles_deref _)
  intro _
  apply raises_bind (dangles_deref _)
  intro _
  exact raises_bind (dangles_modifyChip _ _) fun _ => raises_pure _

lemma atomic_dbChipInst_create (parentId masterId : Nat) (name : String) :
    Atomic (dbChipInst_create parentId masterId name) := by
  apply atomic_ite _ (atomic_of_dangles (raises_pure _))
  apply atomic_bind (keeps_lookup _)
  intro _
  apply atomic_bind (keeps_lookup _)
  intro _
  apply atomic_bind (keeps_checkNot _ _ _)
  intro _
  apply atomic_bind (keeps_checkNot _ _ _)
  intro _
  apply atomic_bind (keeps_checkNot _ _ _)
  intro _
  apply atomic_of_dangles
  apply raises_bind (dangles_allocate _ _ _ _)
  intro _
  apply raises_bind (dangles_modifyChip _ _)
  intro _
  apply raises_bind (dangles_createRegionInsts _ _ _)
  intro _
  exact raises_bind (dangles_modifyChipInst _ _) fun _ => raises_pure _

lemma atomic_dbChipNet_addBumpInst (netId bumpInst : Nat) (path : List Nat) :
    Atomic (dbChipNet_addBumpInst netId bumpInst path) := by
  apply atomic_bind (keeps_lookup _)
  intro _
  apply atomic_bind (keeps_checkNot _ _ _)
  intro _
  apply atomic_bind (keeps_checkNot _ _ _)
  intro _
  exact atomic_of_dangles (raises_modify _)

def spaceOf (table : Store α) : List Nat × Nat := (table.free, table.pages)

lemma create_moves {size id : Nat} {object : α} {s s' : Store α}
    (created : s.create size object = some (id, s')) : spaceOf s' ≠ spaceOf s := by
  rcases Store.create_cases created with ⟨rest, first, rfl⟩
  by_cases full : s.free = []
  · simp [spaceOf, Store.grow, full]
  · rw [Store.grow, if_neg full] at first
    simp [spaceOf, first]

lemma allocate_stays {table : ChipDatabase → Store α}
    {put : Store α → ChipDatabase → ChipDatabase} {page : Nat} {object : α}
    {next : Nat → ChipM β} (puts : ∀ created db, table (put created db) = created)
    (kept : ∀ id, Keeps (spaceOf ∘ table) (next id))
    (raised : ((allocate table put page object >>= next).exec db).1 = .error (.error number text)) :
    ((allocate table put page object >>= next).exec db).2 ≠ db := by
  have moved : ∀ id mid, (allocate table put page object).exec db = (.ok id, mid) →
      spaceOf (table mid) ≠ spaceOf (table db) := by
    intro id mid ran
    rw [allocate, exec_bind_ok _ (exec_get db)] at ran
    rcases bind_ok ran with ⟨⟨id', created⟩, read, deref, ran⟩
    cases made : (table db).create page object with
    | none =>
      rw [made] at deref
      cases deref
    | some result =>
      rw [made] at deref
      cases deref
      cases ran
      rw [puts]
      exact create_moves made
  rw [exec_bind] at raised ⊢
  rcases ran : (allocate table put page object).exec db with ⟨fault | id, mid⟩ <;> rw [ran] at raised
  · cases raised
    cases dangles_allocate table put page object db _ _ ran
  · intro same
    have stays := kept id mid
    simp only [Function.comp] at stays
    rw [same] at stays
    exact moved id mid ran stays.symm

lemma dbChip_create_raised {tech : Nat} {name : String} {type : ChipType}
    (raised : ((dbChip_create tech name type).exec db).1 = .error (.error number text)) :
    ((dbChip_create tech name type).exec db).2 = db ↔ (db.chip_hash.lookup name).isSome := by
  rw [dbChip_create, exec_bind_ok _ (exec_get db)] at raised ⊢
  by_cases taken : (db.chip_hash.lookup name).isSome
  · refine iff_of_true ?_ taken
    rw [checkNot, Effect.check, if_pos taken]
    rfl
  · refine iff_of_false ?_ taken
    rw [checkNot, Effect.check, if_neg taken, exec_bind_ok _ (exec_pure () db)] at raised ⊢
    refine allocate_stays (fun _ _ => rfl) (fun id => ?_) raised
    apply keeps_bind (keeps_modify fun _ => by rfl)
    intro _
    exact keeps_bind (keeps_checkNot _ _ _) fun _ => keeps_pure _

lemma dbChipConn_create_raised {name : String} {parentId top bottom : Nat}
    {topPath bottomPath : List Nat}
    (raised : ((dbChipConn_create name parentId topPath top bottomPath bottom).exec db).1 =
      .error (.error number text)) :
    ((dbChipConn_create name parentId topPath top bottomPath bottom).exec db).2 = db ↔
      ((checkRegionPaths name topPath top bottomPath bottom).exec db).1 ≠ .ok () := by
  rw [dbChipConn_create] at raised ⊢
  by_cases isNull : parentId = 0
  · rw [if_pos isNull] at raised
    cases raised
  rw [if_neg isNull] at raised ⊢
  have kept : ((checkRegionPaths name topPath top bottomPath bottom).exec db).2 = db :=
    (keeps_checkRegionPaths name topPath top bottomPath bottom : Keeps id _) db
  rw [exec_bind] at raised ⊢
  rcases checked : (checkRegionPaths name topPath top bottomPath bottom).exec db with
    ⟨fault | _, mid⟩ <;> rw [checked] at kept raised <;> cases kept
  · exact iff_of_true rfl (by rintro ⟨⟩)
  · refine iff_of_false ?_ fun differs => differs rfl
    refine allocate_stays (fun _ _ => rfl) (fun id => ?_) raised
    apply keeps_bind (keeps_extractChipInstsPath _ _)
    intro _
    apply keeps_bind (keeps_modify fun _ => by rfl)
    intro _
    apply keeps_bind (keeps_extractBottomPath _ _ _)
    intro _
    apply keeps_bind (keeps_modify fun _ => by rfl)
    intro _
    exact keeps_bind (keeps_bind (keeps_lookup _) fun _ => keeps_modify fun _ => by rfl)
      fun _ => keeps_pure _

/-- The call creates its object, and a later check fails. -/
def ChipCall.Early (db : ChipDatabase) : ChipCall → Prop
  | chipCreate _ name _ => (db.chip_hash.lookup name).isSome = false
  | chipConnCreate name _ topPath top bottomPath bottom =>
    ((checkRegionPaths name topPath top bottomPath bottom).exec db).1 = .ok ()
  | _ => False

/-- A call that raises an error leaves the database as it was, exactly if it does not create its
object before the check that fails. -/
theorem failed_call_unchanged_iff (db : ChipDatabase) (call : ChipCall)
    (raised : (call.run.exec db).1 = .error (.error number text)) :
    (call.run.exec db).2 = db ↔ ¬ call.Early db := by
  have atomic : ∀ {m : ChipM Unit}, Atomic m → (m.exec db).1 = .error (.error number text) →
      ((m.exec db).2 = db ↔ ¬ False) := fun atomic raised =>
    iff_of_true (atomic db number text raised) not_false
  cases call with
  | chipCreate tech name type =>
    rcases discard_raised raised with ⟨inner, same⟩
    rw [ChipCall.run, same, dbChip_create_raised inner]
    simp [ChipCall.Early]
  | chipConnCreate name parent topPath top bottomPath bottom =>
    rcases discard_raised raised with ⟨inner, same⟩
    rw [ChipCall.run, same, dbChipConn_create_raised inner]
    rfl
  | chipRegionCreate chip name side layerTech =>
    exact atomic (atomic_discard (atomic_dbChipRegion_create _ _ _ _)) raised
  | chipBumpCreate chip region instChip inst =>
    exact atomic (atomic_discard (atomic_dbChipBump_create _ _ _ _)) raised
  | chipInstCreate parent master name =>
    exact atomic (atomic_discard (atomic_dbChipInst_create _ _ _)) raised
  | chipNetAddBumpInst net bumpInst path =>
    exact atomic (atomic_dbChipNet_addBumpInst _ _ _) raised
  | chipDestroy chip => exact atomic (atomic_of_dangles (dangles_dbChip_destroy _)) raised
  | chipInstDestroy inst => exact atomic (atomic_of_dangles (dangles_dbChipInst_destroy _)) raised
  | chipInstSetOrient inst orient =>
    exact atomic (atomic_of_dangles (dangles_modifyChipInst _ _)) raised
  | chipInstSetLoc inst loc =>
    refine atomic (atomic_of_dangles ?_) raised
    exact raises_bind (dangles_lookup _) fun _ => raises_bind (dangles_lookup _) fun _ =>
      dangles_modifyChipInst _ _
  | chipConnDestroy conn => exact atomic (atomic_of_dangles (dangles_dbChipConn_destroy _)) raised
  | chipNetCreate chip name =>
    refine atomic (atomic_discard (atomic_of_dangles ?_)) raised
    exact raises_bind (dangles_allocate _ _ _ _) fun _ =>
      raises_bind (dangles_modifyChip _ _) fun _ => raises_pure _
  | chipNetDestroy net =>
    refine atomic (atomic_of_dangles ?_) raised
    exact raises_bind (dangles_lookup _) fun _ =>
      raises_bind (dangles_modifyChip _ _) fun _ => dangles_release _ _ _

namespace ChipCall

/-- A call that follows a pointer to an object that is gone means nothing and is left out. -/
def after (db : ChipDatabase) (call : ChipCall) : ChipDatabase := (call.step db).getD db

end ChipCall

theorem failed_call_unchanged_sample :
    ((ChipCall.chipInstCreate 1 1 "a").run.exec
      (ChipCall.after .empty (.chipCreate 0 "top" .HIER))).2 =
        ChipCall.after .empty (.chipCreate 0 "top" .HIER) :=
  (@failed_call_unchanged_iff 507 "Cannot create chip instance a in itself" _ _ rfl).mpr id

/-- A die without technology stays in the database, as its top chip. -/
theorem failed_chip_stays :
    ((ChipCall.chipCreate 0 "die" .DIE).run.exec .empty).1 =
        .error (.error 422 "Cannot create DIE chip without technology") ∧
      ((ChipCall.chipCreate 0 "die" .DIE).run.exec .empty).2.chip = 1 ∧
      ((ChipCall.chipCreate 0 "die" .DIE).run.exec .empty).2.chip_hash = [("die", 1)] :=
  ⟨rfl, rfl, rfl⟩

end OpenRoad.Odb
