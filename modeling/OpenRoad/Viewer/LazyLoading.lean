import OpenRoad.Viewer.LayerVisibility

/-! Objects that come and go with the frustum, over runs of frusta and removals. -/

namespace OpenRoad.Viewer

open OpenRoad.Lib Function List Finset

namespace OsgScene

variable {scene : OsgScene} {id : String}

def visibleIds (scene : OsgScene) : List String :=
  getObjectsInFrustum scene.spatialIndex scene.currentFrustum

/-- `ensureObjectsInFrustum` goes on to the spatial index. -/
def Culls (scene : OsgScene) : Prop :=
  scene.frustumCullingEnabled = true ∧ scene.records ≠ []

def Narrow (scene : OsgScene) : Prop :=
  scene.Culls ∧ 100 * scene.visibleIds.length < 98 * scene.records.length

instance : Decidable scene.Narrow := by
  unfold Narrow Culls
  infer_instance

/-- The visible ids by distance, up to the load cap. -/
def inOrder (scene : OsgScene) : List String :=
  let objectDistances := scene.visibleIds.filterMap fun id =>
    (scene.objectIndexById id).map fun object => (id, distance object)
  capped scene.loadedObjectIds
    ((objectDistances.mergeSort fun a b => decide (a.2 ≤ b.2)).map Prod.fst) 0

instance : Decidable scene.Culls := by
  unfold Culls
  infer_instance

/-- The ids that a call of `ensureObjectsInFrustum` loads if they are not loaded. -/
def ensureIds (scene : OsgScene) : List String :=
  if scene.Narrow then scene.inOrder
  else if scene.Culls ∧ scene.loadedObjectIds.card < scene.records.length then scene.visibleIds
  else []

lemma ensure_eq (scene : OsgScene) : scene.ensureObjectsInFrustum =
    scene.ensureIds.foldl loadObject
      (if scene.Narrow then scene.unload scene.inOrder else scene) := by
  have records : scene.records = scene.pendingObjects.getD [] := rfl
  rw [ensureObjectsInFrustum, ensureIds]
  cases pending : scene.pendingObjects with
  | none =>
    have none : ¬ scene.Culls := fun culls => culls.2 (by rw [records, pending]; rfl)
    have wide : ¬ scene.Narrow := fun narrow => none narrow.1
    rw [if_neg wide, if_neg wide, if_neg fun both => none both.1]
    rfl
  | some objects =>
    rw [pending, Option.getD_some] at records
    have visible : getObjectsInFrustum scene.spatialIndex scene.currentFrustum =
        scene.visibleIds := rfl
    dsimp only
    rw [visible]
    by_cases culls : scene.Culls
    · rw [if_neg (by simp [culls.1, ← records, culls.2])]
      by_cases narrow : scene.Narrow
      · have few := narrow.2
        rw [records] at few
        rw [if_pos narrow, if_pos narrow, if_neg (Nat.not_le_of_lt few)]
        rfl
      · have many : 98 * objects.length ≤ 100 * scene.visibleIds.length := by
          rw [← records]
          exact Nat.le_of_not_lt fun few => narrow ⟨culls, few⟩
        rw [if_neg narrow, if_neg narrow, if_pos many, records]
        by_cases more : scene.loadedObjectIds.card < objects.length
        · rw [if_pos more, if_pos ⟨culls, more⟩]
        · rw [if_neg more, if_neg fun both => more both.2]
          rfl
    · have wide : ¬ scene.Narrow := fun narrow => culls narrow.1
      have noLoad : ¬ (scene.Culls ∧ scene.loadedObjectIds.card < scene.records.length) :=
        fun both => culls both.1
      have stops : ¬ scene.frustumCullingEnabled = true ∨ objects = [] := by
        rw [Culls, records] at culls
        tauto
      rw [if_neg wide, if_neg wide, if_neg noLoad, if_pos stops]
      rfl

lemma addSceneObject_entry (scene : OsgScene) (object : ObjectRecord)
    (entry : (scene.objectsById id).isSome) : ((scene.addSceneObject object).objectsById id).isSome := by
  simp only [addSceneObject]
  by_cases same : id = object.objectId
  · rw [same, update_self]
    rfl
  · rw [update_of_ne same]
    exact entry

lemma loadObject_keeps (id : String) (scene : OsgScene) (loading : String) :
    ((scene.objectsById id).isSome → ((scene.loadObject loading).objectsById id).isSome) ∧
      (id ∈ scene.loadedObjectIds → id ∈ (scene.loadObject loading).loadedObjectIds) := by
  unfold loadObject
  split
  · exact ⟨fun entry => entry, fun loaded => loaded⟩
  · split
    · exact ⟨fun entry => entry, fun loaded => loaded⟩
    · dsimp only
      split
      · exact ⟨fun entry => entry, mem_insert_of_mem⟩
      · split
        · exact ⟨fun entry => entry, mem_insert_of_mem⟩
        · split
          · exact ⟨fun entry => entry, mem_insert_of_mem⟩
          · exact ⟨addSceneObject_entry _ _, mem_insert_of_mem⟩

lemma foldl_loadObject_keeps (id : String) (ids : List String) (scene : OsgScene) :
    ((scene.objectsById id).isSome → ((ids.foldl loadObject scene).objectsById id).isSome) ∧
      (id ∈ scene.loadedObjectIds → id ∈ (ids.foldl loadObject scene).loadedObjectIds) := by
  induction ids generalizing scene with
  | nil => exact ⟨fun entry => entry, fun loaded => loaded⟩
  | cons first ids ih =>
    have one := loadObject_keeps id scene first
    have rest := ih (scene.loadObject first)
    exact ⟨fun entry => rest.1 (one.1 entry), fun loaded => rest.2 (one.2 loaded)⟩

def Barred (scene : OsgScene) (id : String) : Prop :=
  id ∈ scene.loadedObjectIds ∨ ∀ record, scene.objectIndexById id = some record →
    record.batched = true ∨ scene.hiddenObjects id = true

lemma barred_rest {other : OsgScene} (same : other.rest = scene.rest)
    (loaded : id ∈ scene.loadedObjectIds → id ∈ other.loadedObjectIds) (barred : scene.Barred id) :
    other.Barred id := by
  rw [Barred, index_rest same, hidden_rest same]
  exact barred.imp_left loaded

lemma loadObject_absent (index : scene.IndexFiled) {loading : String}
    (absent : scene.objectsById id = none) (barred : id = loading → scene.Barred id) :
    (scene.loadObject loading).objectsById id = none := by
  unfold loadObject
  split
  · exact absent
  · rename_i unloaded
    split
    · exact absent
    · rename_i object found
      dsimp only
      split
      · exact absent
      · rename_i single
        split
        · exact absent
        · rename_i shown
          split
          · exact absent
          · have apart : id ≠ object.objectId := by
              intro same
              have isLoading := same.trans (index loading object found).2
              subst isLoading
              rcases barred rfl with loaded | never
              · exact unloaded loaded
              · exact (never object found).elim single shown
            simp only [addSceneObject, update_of_ne apart]
            exact absent

lemma foldl_loadObject_absent (ids : List String) (index : scene.IndexFiled)
    (absent : scene.objectsById id = none) (barred : id ∈ ids → scene.Barred id) :
    (ids.foldl loadObject scene).objectsById id = none := by
  induction ids generalizing scene with
  | nil => exact absent
  | cons first ids ih =>
    have rests := loadObject_rest scene first
    rw [foldl_cons]
    apply ih
    · intro other record found
      rw [index_rest rests] at found
      rw [records_rest rests]
      exact index other record found
    · exact loadObject_absent index absent fun same => barred (same ▸ mem_cons_self)
    · intro member
      exact barred_rest rests (loadObject_keeps _ scene first).2
        (barred (mem_cons_of_mem first member))

structure LazyView where
  scene : OsgScene
  removed : List String

inductive LazyCall where
  | ensureObjectsInFrustum (frustum : Frustum ℚ)
  | removeObjectsById (objectIds : List String)

def LazyView.after (view : LazyView) : LazyCall → LazyView
  | .ensureObjectsInFrustum frustum =>
  { view with scene := (view.scene.updateFrustum frustum).ensureObjectsInFrustum }
  | .removeObjectsById objectIds =>
    ⟨view.scene.removeObjectsById objectIds, objectIds ++ view.removed⟩

def LazyView.start (frustum : Frustum ℚ) (culling lazy : Bool) (snapshot : SceneSnapshot) :
    LazyView :=
  ⟨(new frustum culling lazy).loadSnapshot snapshot, []⟩

structure LazyView.Faithful (view : LazyView) : Prop where
  entries : ∀ id, view.scene.ShownInBatch id → (view.scene.objectsById id).isSome
  removed : ∀ id ∈ view.removed, ∀ record visible,
    view.scene.objectsById id ≠ some ⟨some record, visible⟩

def KeepsReported (scene : OsgScene) : Prop :=
  ∀ id ∈ scene.visibleIds, id ∈ scene.loadedObjectIds →
    id ∈ scene.ensureObjectsInFrustum.loadedObjectIds ∧
    ((scene.objectsById id).isSome → (scene.ensureObjectsInFrustum.objectsById id).isSome)

def LazyView.KeepsReported (view : LazyView) : LazyCall → Prop
  | .ensureObjectsInFrustum frustum => (view.scene.updateFrustum frustum).KeepsReported
  | .removeObjectsById _ => True

/-- A narrow frustum reports all that is drawn in a batch, and the load cap cuts off no loaded
object. -/
def LazyView.KeepsScene (view : LazyView) : LazyCall → Prop
  | .ensureObjectsInFrustum frustum =>
    let scene := view.scene.updateFrustum frustum
    (scene.Narrow → ∀ id ∈ scene.loadedObjectIds, (scene.objectsById id).isSome →
      id ∈ scene.visibleIds ∨ scene.ShownInBatch id → id ∈ scene.inOrder) ∧
    ∀ id ∈ view.removed, id ∈ scene.ensureIds → scene.Barred id
  | .removeObjectsById _ => True

structure LazyView.Kept (view : LazyView) : Prop where
  consistent : view.scene.Consistent
  entries : ∀ id, view.scene.ShownInBatch id → (view.scene.objectsById id).isSome
  removed : ∀ id ∈ view.removed, view.scene.objectsById id = none

lemma lazy_faithful {view : LazyView} (kept : view.Kept) : view.Faithful where
  entries := kept.entries
  removed := by
    intro id member record visible found
    rw [kept.removed id member] at found
    cases found

lemma unload_entry (inIds : List String)
    (stays : id ∈ scene.loadedObjectIds → (scene.objectsById id).isSome → id ∈ inIds) :
    ((scene.unload inIds).objectsById id = scene.objectsById id) ∧
      (id ∈ scene.loadedObjectIds → id ∈ (scene.unload inIds).loadedObjectIds) := by
  have kept : ¬ (id ∈ scene.loadedObjectIds ∧ id ∉ inIds ∧ (scene.objectsById id).isSome) :=
    fun gone => gone.2.1 (stays gone.1 gone.2.2)
  simp only [unload]
  rw [if_neg (by simpa using kept)]
  refine ⟨rfl, ?_⟩
  intro loaded
  rw [Finset.mem_filter]
  exact ⟨loaded, decide_eq_false kept⟩

lemma ensure_entry (stays : scene.Narrow → id ∈ scene.loadedObjectIds →
      (scene.objectsById id).isSome → id ∈ scene.inOrder) :
    ((scene.objectsById id).isSome → (scene.ensureObjectsInFrustum.objectsById id).isSome) ∧
      (id ∈ scene.loadedObjectIds → id ∈ scene.ensureObjectsInFrustum.loadedObjectIds) := by
  rw [ensure_eq]
  split
  · rename_i narrow
    have unloaded := unload_entry scene.inOrder (stays narrow)
    have loaded := foldl_loadObject_keeps id scene.ensureIds (scene.unload scene.inOrder)
    rw [unloaded.1] at loaded
    exact ⟨loaded.1, fun inLoaded => loaded.2 (unloaded.2 inLoaded)⟩
  · exact foldl_loadObject_keeps id scene.ensureIds scene

lemma ensure_absent (index : scene.IndexFiled) (absent : scene.objectsById id = none)
    (barred : id ∈ scene.ensureIds → scene.Barred id) :
    scene.ensureObjectsInFrustum.objectsById id = none := by
  rw [ensure_eq]
  split
  · have unloaded := @unload_entry scene id scene.inOrder fun _ entry => by
      rw [absent] at entry
      cases entry
    have same : (scene.unload scene.inOrder).rest = scene.rest := rfl
    have unloadedIndex : (scene.unload scene.inOrder).IndexFiled := index
    apply foldl_loadObject_absent scene.ensureIds unloadedIndex (unloaded.1.trans absent)
    intro member
    exact barred_rest same unloaded.2 (barred member)
  · exact foldl_loadObject_absent scene.ensureIds index absent barred

lemma ensure_shownInBatch (scene : OsgScene) (id : String) :
    scene.ensureObjectsInFrustum.ShownInBatch id ↔ scene.ShownInBatch id := by
  have batches : scene.ensureObjectsInFrustum.layerBatches = scene.layerBatches := by
    have same := congrArg layerBatches (ensure_rest scene)
    exact same
  rw [ShownInBatch, ShownInBatch, batches]

lemma kept_ensure {view : LazyView} (kept : view.Kept) (frustum : Frustum ℚ)
    (keeps : view.KeepsScene (.ensureObjectsInFrustum frustum)) :
    (view.after (.ensureObjectsInFrustum frustum)).Kept := by
  have moved : (view.scene.updateFrustum frustum).Consistent :=
    after_consistent (.updateFrustum frustum) trivial kept.consistent
  have parts : ∀ id, ((view.scene.updateFrustum frustum).ShownInBatch id ↔
      view.scene.ShownInBatch id) ∧
      (view.scene.updateFrustum frustum).objectsById = view.scene.objectsById := by
    intro id
    rw [updateFrustum]
    split
    · exact ⟨Iff.rfl, rfl⟩
    · exact ⟨Iff.rfl, rfl⟩
  refine ⟨ensure_consistent moved, ?_, ?_⟩
  · intro id shown
    have before := (ensure_shownInBatch _ id).mp shown
    apply (ensure_entry fun narrow loaded entry =>
      keeps.1 narrow id loaded entry (Or.inr before)).1
    rw [(parts id).2]
    exact kept.entries id ((parts id).1.mp before)
  · intro id member
    apply ensure_absent moved.filed.index
    · rw [(parts id).2]
      exact kept.removed id member
    · exact keeps.2 id member

lemma kept_remove {view : LazyView} (kept : view.Kept) (ids : List String) :
    (view.after (.removeObjectsById ids)).Kept := by
  have consistent := removeObjectsById_consistent kept.consistent ids
  refine ⟨consistent, ?_, ?_⟩
  · rintro id ⟨key, batch, found, mask, draws⟩
    simp only [LazyView.after] at found ⊢
    rcases draws_record consistent found draws with ⟨record, _, rfl, _, _, filedAt⟩
    simp only [removeObjectsById] at found filedAt ⊢
    have stays : record.objectId ∉ ids := by
      intro listed
      rw [if_pos listed] at filedAt
      cases filedAt
    rw [if_neg (by simp [stays])]
    rcases Option.map_eq_some_iff.mp found with ⟨old, there, isNew⟩
    apply kept.entries
    refine ⟨key, old, there, ?_, ?_⟩
    · rw [← isNew] at mask
      split at mask
      · exact mask
      · exact mask
    · rcases draws with ⟨primitive, member, sameId, drawn⟩
      refine ⟨primitive, ?_, sameId, drawn⟩
      rw [← isNew] at member
      split at member
      · -- primitives of what is left are among those before
        rw [kept.consistent.synced key old there]
        simp only [primitivesOf] at member ⊢
        rcases List.mem_map.mp member with ⟨object, inKept, rfl⟩
        apply List.mem_map_of_mem
        have filtered := mem_filter.mp inKept
        exact mem_filter.mpr ⟨(mem_filter.mp filtered.1).1, filtered.2⟩
      · exact member
  · intro id member
    simp only [LazyView.after, removeObjectsById]
    rcases mem_append.mp member with listed | before
    · split
      · rfl
      · rename_i notGone
        cases found : view.scene.objectsById id with
        | none => rfl
        | some object => exact absurd (by simp [listed, found]) notGone
    · split
      · rfl
      · exact kept.removed id before

lemma kept_loaded (frustum : Frustum ℚ) (culling lazy : Bool) (snapshot : SceneSnapshot)
    (unique : snapshot.UniqueIds) : (LazyView.start frustum culling lazy snapshot).Kept := by
  have consistent := loadSnapshot_consistent (new frustum culling lazy) snapshot unique
  refine ⟨consistent, ?_, fun id member => by cases member⟩
  rintro id ⟨key, batch, found, _, draws⟩
  rcases draws_record consistent found draws with ⟨_, _, _, _, _, filedAt⟩
  have key_eq : ((new frustum culling lazy).loadedFrom snapshot).batchKeyOf snapshot.objects id =
      some key := filedAt
  simp only [LazyView.start, loadSnapshot_eq, buildBatches, key_eq]
  cases ((new frustum culling lazy).loadedFrom snapshot).objectsById id with
  | none => rfl
  | some object => rfl

lemma reported_kept {view : LazyView} {call : LazyCall} (keeps : view.KeepsScene call) :
    view.KeepsReported call := by
  cases call with
  | removeObjectsById ids => trivial
  | ensureObjectsInFrustum frustum =>
    intro id reported loaded
    have entry := ensure_entry fun narrow isLoaded isEntry =>
      keeps.1 narrow id isLoaded isEntry (Or.inl reported)
    exact ⟨entry.2 loaded, entry.1⟩

/-- No reported object is unloaded, wires and vias keep their entries, and removed objects get no
node. -/
theorem lazy_loading_faithful (frustum : Frustum ℚ) (culling lazy : Bool) (snapshot : SceneSnapshot)
    (unique : snapshot.UniqueIds) (calls : List LazyCall)
    (each : EachCall LazyView.after LazyView.KeepsScene
      (LazyView.start frustum culling lazy snapshot) calls) :
    EachCall LazyView.after LazyView.KeepsReported
        (LazyView.start frustum culling lazy snapshot) calls ∧
      Throughout LazyView.after LazyView.Faithful
        (LazyView.start frustum culling lazy snapshot) calls := by
  have keeps : ∀ (view : LazyView) (call : LazyCall), view.Kept → view.KeepsScene call →
      (view.after call).Kept := by
    intro view call kept condition
    cases call with
    | ensureObjectsInFrustum frustum => exact kept_ensure kept frustum condition
    | removeObjectsById ids => exact kept_remove kept ids
  constructor
  · intro front call isFront
    exact reported_kept (each front call isFront)
  · apply throughout_mono (fun view kept => lazy_faithful kept)
    exact throughout_of_each keeps (kept_loaded frustum culling lazy snapshot unique) each

lemma capped_all {loaded : Finset String} {ids : List String} {pendingNew : Nat}
    (few : pendingNew + ids.length ≤ kMaxObjectsPerFrame) : capped loaded ids pendingNew = ids := by
  induction ids generalizing pendingNew with
  | nil => rfl
  | cons id ids ih =>
    rw [List.length_cons] at few
    rw [capped, if_neg (show ¬ pendingNew ≥ kMaxObjectsPerFrame by omega), ih (by omega),
      ih (by omega)]
    split <;> rfl

/-- Below the load cap nothing that is visible and indexed is left out. -/
lemma mem_inOrder (visible : id ∈ scene.visibleIds) (indexed : (scene.objectIndexById id).isSome)
    (few : scene.visibleIds.length ≤ kMaxObjectsPerFrame) : id ∈ scene.inOrder := by
  rcases Option.isSome_iff_exists.mp indexed with ⟨object, found⟩
  have bound : (scene.visibleIds.filterMap fun id =>
      (scene.objectIndexById id).map fun object => (id, distance object)).length ≤
      kMaxObjectsPerFrame := (List.length_filterMap_le _ _).trans few
  rw [inOrder, capped_all (by simpa using bound)]
  have paired : (id, distance object) ∈ scene.visibleIds.filterMap fun id =>
      (scene.objectIndexById id).map fun object => (id, distance object) :=
    List.mem_filterMap.mpr ⟨id, visible, by rw [found]; rfl⟩
  exact List.mem_map.mpr ⟨_, List.mem_mergeSort.mpr paired, rfl⟩

def sampleLazy : LazyView := LazyView.start (flatFrustum 1) true true (twoLayers "m2")

/-- The wires of `twoLayers` and a cell far from them. -/
def farCell : SceneSnapshot where
  layers := (twoLayers "m2").layers
  objects := { sampleWire "c" "m1" with
    type := .Inst, bboxMin := ⟨9, 0, 0⟩, bboxMax := ⟨10, 1, 1⟩ } :: (twoLayers "m2").objects

/-- What lies below 4 in x. -/
def nearFrustum : Frustum ℚ := ⟨⟨-1, 0, 0, 4⟩ :: List.replicate 5 ⟨0, 0, 0, 1⟩, rfl⟩

def farView : LazyView := LazyView.start (flatFrustum 1) true true farCell

/-- The wires stay and the cell is unloaded. -/
theorem lazy_loading_faithful_sample :
    ((farView.after (.removeObjectsById ["a"])).scene.updateFrustum nearFrustum).Narrow ∧
      EachCall LazyView.after LazyView.KeepsReported farView
        [.removeObjectsById ["a"], .ensureObjectsInFrustum nearFrustum] ∧
      Throughout LazyView.after LazyView.Faithful farView
        [.removeObjectsById ["a"], .ensureObjectsInFrustum nearFrustum] := by
  have unique : farCell.UniqueIds := by
    show (["c", "a", "b"] : List String).Nodup
    decide
  have narrows : ((farView.after (.removeObjectsById ["a"])).scene.updateFrustum
      nearFrustum).Narrow := by with_unfolding_all decide
  refine ⟨narrows, lazy_loading_faithful (flatFrustum 1) true true farCell unique _ ?_⟩
  rw [eachCall_cons, eachCall_cons]
  refine ⟨trivial, ⟨fun _ id loaded _ isShown => ?_, ?_⟩, eachCall_nil⟩
  · have kept := kept_remove (kept_loaded (flatFrustum 1) true true farCell unique) ["a"]
    have consistent : ((farView.after (.removeObjectsById ["a"])).scene.updateFrustum
        nearFrustum).Consistent :=
      after_consistent (.updateFrustum nearFrustum) trivial kept.consistent
    have apart : id ≠ "c" := by
      intro isCell
      rw [isCell] at isShown
      rcases isShown with visible | ⟨key, batch, found, _, draws⟩
      · exact absurd visible (by with_unfolding_all decide)
      · rcases draws_record consistent found draws with ⟨_, _, _, _, _, filedAt⟩
        have unfiled : ((farView.after (.removeObjectsById ["a"])).scene.updateFrustum
            nearFrustum).objectIdToBatchKey "c" = none := by with_unfolding_all decide
        cases unfiled.symm.trans filedAt
    have all : ((farView.after (.removeObjectsById ["a"])).scene.updateFrustum
        nearFrustum).loadedObjectIds = {"c", "a", "b"} := by with_unfolding_all decide
    have isWire : id = "a" ∨ id = "b" := by
      have listed : id ∈ ({"c", "a", "b"} : Finset String) := all ▸ loaded
      simpa [apart] using listed
    rcases isWire with rfl | rfl
    · refine mem_inOrder ?_ ?_ ?_ <;> with_unfolding_all decide
    · refine mem_inOrder ?_ ?_ ?_ <;> with_unfolding_all decide
  · intro id member _
    rw [List.mem_singleton.mp member]
    exact Or.inl (by with_unfolding_all decide)

/-- Wires that leave the frustum stay drawn and lose their entries. -/
theorem drawn_wire_without_entry :
    ¬ ∀ frustum culling lazy, ∀ snapshot : SceneSnapshot, snapshot.UniqueIds → ∀ calls,
      EachCall LazyView.after LazyView.KeepsReported
          (LazyView.start frustum culling lazy snapshot) calls ∧
        Throughout LazyView.after LazyView.Faithful
          (LazyView.start frustum culling lazy snapshot) calls := by
  intro allFaithful
  have unique : (twoLayers "m2").UniqueIds := twoLayers_unique "m2" _ mem_cons_self
  have faithful := (allFaithful (flatFrustum 1) true true (twoLayers "m2") unique
    [.ensureObjectsInFrustum (flatFrustum (-1))]).2 _ (prefix_refl _)
  have drawn : (sampleLazy.scene.updateFrustum (flatFrustum (-1))).layerBatches ⟨"m1", .Wire⟩ =
      some ⟨[sampleWire "a" "m1"], [(sampleWire "a" "m1", 12)], true⟩ := by
    with_unfolding_all decide
  have shown : (sampleLazy.after (.ensureObjectsInFrustum (flatFrustum (-1)))).scene.ShownInBatch
      "a" := by
    apply (ensure_shownInBatch _ "a").mpr
    exact ⟨⟨"m1", .Wire⟩, _, drawn, rfl, _, List.mem_singleton.mpr rfl, rfl, by decide⟩
  have entry : ((sampleLazy.after
      (.ensureObjectsInFrustum (flatFrustum (-1)))).scene.objectsById "a").isSome :=
    faithful.entries "a" shown
  have gone : (sampleLazy.after (.ensureObjectsInFrustum (flatFrustum (-1)))).scene.objectsById
      "a" = none := by with_unfolding_all decide
  rw [gone] at entry
  cases entry

end OsgScene

end OpenRoad.Viewer
