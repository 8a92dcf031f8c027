import OpenRoad.Viewer.LayerVisibility

/-! The visibility a user has set, over runs of hiding, showing, selecting and reloading. -/

namespace OpenRoad.Viewer

open OpenRoad.Lib List

namespace OsgScene

variable {scene other : OsgScene} {id : String} {key : BatchKey} {record : ObjectRecord}

def frame (scene : OsgScene) (key : BatchKey) : Option (List ObjectRecord × Bool) :=
  (scene.layerBatches key).map fun batch => (batch.objects, batch.nodeMask)

lemma shownInBatch_iff (consistent : scene.Consistent) :
    scene.ShownInBatch id ↔ ∃ key objects, scene.frame key = some (objects, true) ∧
      ∃ record ∈ objects, record.objectId = id ∧ triangles record ≠ 0 ∧
        scene.hiddenObjects id = false := by
  constructor
  · rintro ⟨key, batch, found, mask, primitive, member, rfl, drawn⟩
    rw [consistent.synced key batch found, primitivesOf] at member
    rcases List.mem_map.mp member with ⟨record, kept, rfl⟩
    have parts := List.mem_filter.mp kept
    exact ⟨key, batch.objects, by rw [frame, found, Option.map_some, mask], record, parts.1, rfl,
      drawn, by simpa using parts.2⟩
  · rintro ⟨key, objects, isFrame, record, member, rfl, drawn, isShown⟩
    rcases Option.map_eq_some_iff.mp isFrame with ⟨batch, found, isPair⟩
    simp only [Prod.mk.injEq] at isPair
    refine ⟨key, batch, found, isPair.2, (record, triangles record), ?_, rfl, drawn⟩
    rw [consistent.synced key batch found, primitivesOf]
    apply mem_map_of_mem
    rw [mem_filter, isPair.1]
    exact ⟨member, by simpa using isShown⟩

lemma rebuildBatch_frame (scene : OsgScene) (key other : BatchKey) :
    (scene.rebuildBatch key).frame other = scene.frame other := by
  rw [rebuildBatch_eq, frame, frame]
  dsimp only
  rw [Option.map_map]
  congr 1
  funext batch
  simp only [Function.comp]
  split <;> rfl

lemma rebuildBatch_hidden (scene : OsgScene) (key : BatchKey) :
    (scene.rebuildBatch key).hiddenObjects = scene.hiddenObjects := by
  rw [rebuildBatch_eq]

/-- What hiding, showing and selecting leave alone. -/
structure SameFrames (other scene : OsgScene) : Prop where
  frames : ∀ key, other.frame key = scene.frame key
  keys : other.objectIdToBatchKey = scene.objectIdToBatchKey
  layers : other.layers = scene.layers
  pending : other.pendingObjects = scene.pendingObjects

lemma SameFrames.trans {third : OsgScene} (first : SameFrames third other)
    (second : SameFrames other scene) : SameFrames third scene where
  frames := fun key => (first.frames key).trans (second.frames key)
  keys := first.keys.trans second.keys
  layers := first.layers.trans second.layers
  pending := first.pending.trans second.pending

lemma rebuildBatch_sameFrames (scene : OsgScene) (key : BatchKey) :
    SameFrames (scene.rebuildBatch key) scene where
  frames := rebuildBatch_frame scene key
  keys := by rw [rebuildBatch_eq]
  layers := by rw [rebuildBatch_eq]
  pending := by rw [rebuildBatch_eq]

/-- Batches are on and hold every object filed under their key that has triangles. -/
structure AllOn (scene : OsgScene) (snapshot : SceneSnapshot) : Prop where
  consistent : scene.Consistent
  records : scene.pendingObjects = some snapshot.objects
  layers : scene.layers = indexBy LayerRecord.layerId snapshot.layers
  on : ∀ layer ∈ snapshot.layers, layer.visible = true
  known : ∀ id key, scene.objectIdToBatchKey id = some key → (scene.layers key.layerId).isSome
  held : ∀ record ∈ snapshot.objects, ∀ key,
    scene.objectIdToBatchKey record.objectId = some key → triangles record ≠ 0 →
      ∃ held, scene.frame key = some (held, true) ∧ record ∈ held

variable {snapshot : SceneSnapshot}

lemma allOn_sameFrames (on : scene.AllOn snapshot) (same : SameFrames other scene)
    (consistent : other.Consistent) : other.AllOn snapshot where
  consistent := consistent
  records := same.pending.trans on.records
  layers := same.layers.trans on.layers
  on := on.on
  known := by
    rw [same.keys, same.layers]
    exact on.known
  held := by
    intro record there key filedAt drawn
    rw [same.keys] at filedAt
    rw [same.frames key]
    exact on.held record there key filedAt drawn

lemma isLayerVisible_on (on : scene.AllOn snapshot) (layerId : String) :
    scene.isLayerVisible layerId = true := by
  rw [isLayerVisible]
  split
  · rename_i layer found
    rw [on.layers] at found
    exact on.on layer (indexBy_some found).1
  · rfl

lemma allOn_unique (on : scene.AllOn snapshot) : snapshot.UniqueIds := by
  have unique := on.consistent.filed.unique
  rw [OsgScene.records, on.records] at unique
  exact unique

lemma setObjectVisible_sameFrames (scene : OsgScene) (id : String) (visible : Bool) :
    SameFrames (scene.setObjectVisible id visible) scene := by
  unfold setObjectVisible
  split
  · rename_i key _
    dsimp only
    split
    · exact (rebuildBatch_sameFrames _ key).trans ⟨fun _ => rfl, rfl, rfl, rfl⟩
    · exact (rebuildBatch_sameFrames _ key).trans ⟨fun _ => rfl, rfl, rfl, rfl⟩
  · split
    · exact ⟨fun _ => rfl, rfl, rfl, rfl⟩
    · exact ⟨fun _ => rfl, rfl, rfl, rfl⟩

lemma setObjectVisible_other (id : String) (visible : Bool) (another : String)
    (different : another ≠ id) :
    (scene.setObjectVisible id visible).hiddenObjects another = scene.hiddenObjects another ∧
      (scene.setObjectVisible id visible).objectsById another = scene.objectsById another := by
  unfold setObjectVisible
  split
  · dsimp only
    split
    · rw [rebuildBatch_eq]
      exact ⟨Function.update_of_ne different _ _, Function.update_of_ne different _ _⟩
    · rw [rebuildBatch_eq]
      exact ⟨Function.update_of_ne different _ _, rfl⟩
  · split
    · exact ⟨rfl, rfl⟩
    · exact ⟨Function.update_of_ne different _ _, Function.update_of_ne different _ _⟩

lemma setObjectVisible_filed {visible : Bool} (filedAt : scene.objectIdToBatchKey id = some key) :
    (scene.setObjectVisible id visible).hiddenObjects id = !visible := by
  unfold setObjectVisible
  rw [filedAt]
  dsimp only
  split
  · rw [rebuildBatch_hidden]
    exact Function.update_self _ _ _
  · rw [rebuildBatch_hidden]
    exact Function.update_self _ _ _

lemma setObjectVisible_node (on : scene.AllOn snapshot) {visible shown : Bool} (unfiled : scene.objectIdToBatchKey id = none)
    (node : scene.objectsById id = some ⟨some record, shown⟩) :
    (scene.setObjectVisible id visible).hiddenObjects id = !visible ∧
      (scene.setObjectVisible id visible).objectsById id = some ⟨some record, visible⟩ := by
  have layer := (on.consistent.filed.nodes id record shown node).2.2.2
  unfold setObjectVisible
  rw [unfiled, node, layer]
  dsimp only
  rw [isLayerVisible_on on, Bool.and_true, Function.update_self, Function.update_self]
  exact ⟨rfl, rfl⟩

def previousKey (scene : OsgScene) : Option BatchKey :=
  if scene.previousSelectedId = "" then none else scene.objectIdToBatchKey scene.previousSelectedId

lemma restoreSelection_sameFrames (scene : OsgScene) : SameFrames scene.restoreSelection scene ∧
      scene.restoreSelection.objectsById = scene.objectsById := by
  unfold restoreSelection
  dsimp only
  split
  · exact ⟨⟨fun _ => rfl, rfl, rfl, rfl⟩, rfl⟩
  · split
    · rename_i key _
      have same := rebuildBatch_sameFrames { scene with
        highlightNodes := ∅
        hiddenObjects := Function.update scene.hiddenObjects scene.previousSelectedId false } key
      refine ⟨⟨same.frames, same.keys, same.layers, same.pending⟩, ?_⟩
      rw [rebuildBatch_eq]
    · exact ⟨⟨fun _ => rfl, rfl, rfl, rfl⟩, rfl⟩

lemma restoreSelection_hidden (scene : OsgScene) (another : String) :
    scene.restoreSelection.hiddenObjects another =
      if scene.previousKey.isSome ∧ another = scene.previousSelectedId then false
      else scene.hiddenObjects another := by
  unfold restoreSelection previousKey
  dsimp only
  split
  · simp
  · split
    · rename_i key filedAt
      rw [filedAt, rebuildBatch_hidden]
      by_cases same : another = scene.previousSelectedId
      · simp [same]
      · simp [same]
    · rename_i unfiled
      simp [unfiled]

lemma setSelectedObject_sameFrames (scene : OsgScene) (id : String) :
    SameFrames (scene.setSelectedObject id) scene ∧
      (scene.setSelectedObject id).objectsById = scene.objectsById := by
  have restored := restoreSelection_sameFrames scene
  unfold setSelectedObject
  dsimp only
  split
  · exact ⟨⟨restored.1.frames, restored.1.keys, restored.1.layers, restored.1.pending⟩, restored.2⟩
  · split
    · rename_i key _
      have same := rebuildBatch_sameFrames { scene.restoreSelection with
        hiddenObjects := Function.update scene.restoreSelection.hiddenObjects id true } key
      refine ⟨⟨fun other => (same.frames other).trans (restored.1.frames other),
        same.keys.trans restored.1.keys, same.layers.trans restored.1.layers,
        same.pending.trans restored.1.pending⟩, ?_⟩
      rw [rebuildBatch_eq]
      exact restored.2
    · split
      · exact ⟨⟨restored.1.frames, restored.1.keys, restored.1.layers, restored.1.pending⟩,
          restored.2⟩
      · exact restored

lemma setSelectedObject_hidden (scene : OsgScene) (id another : String) :
    (scene.setSelectedObject id).hiddenObjects another =
      if id ≠ "" ∧ (scene.objectIdToBatchKey id).isSome ∧ another = id then true
      else scene.restoreSelection.hiddenObjects another := by
  have keys := (restoreSelection_sameFrames scene).1.keys
  unfold setSelectedObject
  dsimp only
  split
  · rename_i empty
    simp [empty]
  · rename_i some
    split
    · rename_i key filedAt
      rw [keys] at filedAt
      rw [rebuildBatch_hidden, filedAt]
      by_cases same : another = id
      · simp [same, some]
      · simp [same]
    · rename_i unfiled
      rw [keys] at unfiled
      split
      · simp [unfiled]
      · simp [unfiled]

/-- The ids that a lazy reload goes through. -/
def reloadIds (scene : OsgScene) (snapshot : SceneSnapshot) : List String :=
  let indexed := scene.indexed snapshot
  let visibleIds := getObjectsInFrustum indexed.spatialIndex scene.currentFrustum
  if 98 * snapshot.objects.length ≤ 100 * visibleIds.length then visibleIds
  else
    let objectDistances := visibleIds.filterMap fun id =>
      (indexed.objectIndexById id).map fun object => (id, distance object)
    capped ∅ ((objectDistances.mergeSort fun a b => decide (a.2 ≤ b.2)).map Prod.fst) 0

/-- An object that is still to be loaded, as a node that will be shown. -/
structure Awaits (scene : OsgScene) (record : ObjectRecord) : Prop where
  index : scene.objectIndexById record.objectId = some record
  single : record.batched = false
  shown : scene.hiddenObjects record.objectId = false
  unloaded : record.objectId ∉ scene.loadedObjectIds
  unlayered : scene.objectLayerById record.objectId = none

lemma addSceneObject_other (scene : OsgScene) (object : ObjectRecord)
    (different : id ≠ object.objectId) :
    (scene.addSceneObject object).objectsById id = scene.objectsById id ∧
      (scene.addSceneObject object).objectLayerById id = scene.objectLayerById id :=
  ⟨Function.update_of_ne different _ _, Function.update_of_ne different _ _⟩

lemma loadObject_other (index : scene.IndexFiled) {loading : String} (different : id ≠ loading) :
    (scene.loadObject loading).objectsById id = scene.objectsById id ∧
      (scene.loadObject loading).objectLayerById id = scene.objectLayerById id ∧
      (id ∈ (scene.loadObject loading).loadedObjectIds ↔ id ∈ scene.loadedObjectIds) := by
  unfold loadObject
  split
  · exact ⟨rfl, rfl, Iff.rfl⟩
  · split
    · exact ⟨rfl, rfl, Iff.rfl⟩
    · rename_i object found
      have added : id ∈ insert loading scene.loadedObjectIds ↔ id ∈ scene.loadedObjectIds := by
        rw [Finset.mem_insert]
        exact or_iff_right different
      have apart : id ≠ object.objectId := fun same => different (same.trans (index _ _ found).2)
      dsimp only
      split
      · exact ⟨rfl, rfl, added⟩
      · split
        · exact ⟨rfl, rfl, added⟩
        · split
          · exact ⟨rfl, rfl, added⟩
          · have others := addSceneObject_other { scene with
              loadedObjectIds := insert loading scene.loadedObjectIds } object apart
            exact ⟨others.1, others.2, added⟩

lemma loadObject_index (index : scene.IndexFiled) (loading : String) :
    (scene.loadObject loading).IndexFiled := by
  intro id record found
  have same := loadObject_rest scene loading
  rw [index_rest same] at found
  rw [records_rest same]
  exact index id record found

lemma loadObject_loaded (loaded : id ∈ scene.loadedObjectIds) : scene.loadObject id = scene := by
  rw [loadObject, if_pos loaded]

lemma foldl_loadObject_loaded (ids : List String) (index : scene.IndexFiled)
    (loaded : id ∈ scene.loadedObjectIds) :
    (ids.foldl loadObject scene).objectsById id = scene.objectsById id := by
  induction ids generalizing scene with
  | nil => rfl
  | cons first ids ih =>
    by_cases same : id = first
    · subst same
      rw [foldl_cons, loadObject_loaded loaded]
      exact ih index loaded
    · have others := loadObject_other index same
      rw [foldl_cons, ih (loadObject_index index first) (others.2.2.mpr loaded)]
      exact others.1

lemma loadObject_awaits (awaits : scene.Awaits record) (layersOn : ∀ layerId layer,
    scene.layers layerId = some layer → layer.visible = true) :
    (scene.loadObject record.objectId).objectsById record.objectId =
        some ⟨some record, record.visible⟩ ∧
      record.objectId ∈ (scene.loadObject record.objectId).loadedObjectIds := by
  have isOn : (scene.layers record.layerId).all LayerRecord.visible = true := by
    rw [Option.all_eq_true]
    exact layersOn record.layerId
  rw [loadObject, if_neg awaits.unloaded, awaits.index]
  dsimp only
  rw [if_neg (by rw [awaits.single]; exact Bool.false_ne_true),
    if_neg (by rw [awaits.shown]; exact Bool.false_ne_true), awaits.unlayered]
  simp only [Option.any_none, Bool.false_eq_true, if_false, addSceneObject, isOn, Bool.true_and,
    Function.update_self, Finset.mem_insert_self, and_self]

lemma foldl_loadObject_awaits (ids : List String) (index : scene.IndexFiled)
    (awaits : scene.Awaits record) (layersOn : ∀ layerId layer,
      scene.layers layerId = some layer → layer.visible = true) (member : record.objectId ∈ ids) :
    (ids.foldl loadObject scene).objectsById record.objectId =
      some ⟨some record, record.visible⟩ := by
  induction ids generalizing scene with
  | nil => cases member
  | cons first ids ih =>
    rw [foldl_cons]
    by_cases same : record.objectId = first
    · rw [← same]
      have loaded := loadObject_awaits awaits layersOn
      rw [foldl_loadObject_loaded ids (loadObject_index index _) loaded.2]
      exact loaded.1
    · have others := loadObject_other index same
      have rests := loadObject_rest scene first
      have layers : (scene.loadObject first).layers = scene.layers := by
        have shown := congrArg OsgScene.layers rests
        exact shown
      apply ih (loadObject_index index first) _ _ ((List.mem_cons.mp member).resolve_left same)
      · refine ⟨?_, awaits.single, ?_, ?_, others.2.1.trans awaits.unlayered⟩
        · rw [index_rest rests]
          exact awaits.index
        · rw [hidden_rest rests]
          exact awaits.shown
        · exact fun loaded => awaits.unloaded (others.2.2.mp loaded)
      · rw [layers]
        exact layersOn

lemma foldl_loadAll_node (objects : List ObjectRecord)
    (unique : (objects.map ObjectRecord.objectId).Nodup) (there : record ∈ objects)
    (single : record.batched = false) (layersOn : ∀ layerId layer,
      scene.layers layerId = some layer → layer.visible = true) :
    (objects.foldl loadAll scene).objectsById record.objectId =
      some ⟨some record, record.visible⟩ := by
  induction objects using List.reverseRecOn with
  | nil => cases there
  | append_singleton objects last ih =>
    rw [map_append, nodup_append] at unique
    rw [foldl_append, foldl_cons, foldl_nil]
    have layers : (objects.foldl loadAll scene).layers = scene.layers := by
      have shown := congrArg OsgScene.layers (foldl_rest loadAll_rest objects scene)
      exact shown
    rcases List.mem_append.mp there with inside | isLast
    · have apart : record.objectId ≠ last.objectId :=
        unique.2.2 _ (mem_map_of_mem inside) _ (List.mem_singleton.mpr rfl)
      rw [← ih unique.1 inside, loadAll]
      split
      · rfl
      · exact (addSceneObject_other _ last apart).1
    · have isRecord := List.mem_singleton.mp isLast
      subst isRecord
      have isOn : ((objects.foldl loadAll scene).layers record.layerId).all
          LayerRecord.visible = true := by
        rw [layers, Option.all_eq_true]
        exact layersOn record.layerId
      rw [loadAll]
      rw [if_neg (by rw [single]; exact Bool.false_ne_true)]
      simp only [addSceneObject, isOn, Bool.true_and, Function.update_self]

lemma ensure_indexed (scene : OsgScene) (snapshot : SceneSnapshot) (some : snapshot.objects ≠ [])
    (culling : scene.frustumCullingEnabled = true) :
    (scene.indexed snapshot).ensureObjectsInFrustum =
      (scene.reloadIds snapshot).foldl loadObject (scene.indexed snapshot) := by
  have nothing : (scene.indexed snapshot).loadedObjectIds = ∅ := rfl
  have pending : (scene.indexed snapshot).pendingObjects = Option.some snapshot.objects := rfl
  have enabled : (scene.indexed snapshot).frustumCullingEnabled = true := culling
  have frustum : (scene.indexed snapshot).currentFrustum = scene.currentFrustum := rfl
  have unloadNothing : ∀ ids, (scene.indexed snapshot).unload ids = scene.indexed snapshot := by
    intro ids
    rw [unload]
    simp only [nothing, Finset.notMem_empty, false_and, decide_false, if_false,
      Finset.filter_empty, Bool.false_eq_true]
    rw [← nothing]
  have positive := length_pos_of_ne_nil some
  rw [ensureObjectsInFrustum, pending, reloadIds]
  dsimp only
  rw [enabled, frustum, nothing, if_neg (by simp [some])]
  split
  · rw [if_pos (by simpa using positive)]
  · rw [unloadNothing]

lemma batchKeyOf_record (unique : snapshot.UniqueIds) (there : record ∈ snapshot.objects)
    (filedAt : scene.batchKeyOf snapshot.objects record.objectId = some key) :
    record.batched = true ∧ key = record.key ∧ scene.hiddenObjects record.objectId = false ∧
      (scene.layers record.layerId).isSome := by
  simp only [batchKeyOf, Option.bind_eq_bind, Option.bind_eq_some_iff] at filedAt
  rcases filedAt with ⟨found, first, isKey⟩
  have properties := List.find?_some first
  simp only [Bool.and_eq_true, decide_eq_true_eq] at properties
  have same := record_unique unique (List.mem_of_find?_eq_some first) there properties.2
  subst same
  split at isKey
  · rename_i conditions
    exact ⟨properties.1, (Option.some.inj isKey).symm, conditions.1, conditions.2.2⟩
  · cases isKey

lemma batchKeyOf_filed (unique : snapshot.UniqueIds) (there : record ∈ snapshot.objects)
    (batched : record.batched = true) (shown : scene.hiddenObjects record.objectId = false)
    (index : (scene.objectIndexById record.objectId).isSome)
    (layer : (scene.layers record.layerId).isSome) :
    scene.batchKeyOf snapshot.objects record.objectId = some record.key := by
  have first : snapshot.objects.find? (fun object =>
      object.batched && decide (object.objectId = record.objectId)) = some record := by
    cases search : snapshot.objects.find? (fun object =>
        object.batched && decide (object.objectId = record.objectId)) with
    | none =>
      have never := List.find?_eq_none.mp search record there
      simp [batched] at never
    | some found =>
      have sameId := List.find?_some search
      simp only [Bool.and_eq_true, decide_eq_true_eq] at sameId
      rw [record_unique unique (List.mem_of_find?_eq_some search) there sameId.2]
  simp only [batchKeyOf, first, Option.bind_eq_bind, Option.bind_some]
  rw [if_pos ⟨shown, index, layer⟩]
  rfl

lemma loadSnapshot_hidden (scene : OsgScene) (snapshot : SceneSnapshot) :
    (scene.loadSnapshot snapshot).hiddenObjects = scene.hiddenObjects := by
  have same := hidden_rest (loadedFrom_rest scene snapshot)
  exact same

lemma loadedFrom_layers (scene : OsgScene) (snapshot : SceneSnapshot) :
    (scene.loadedFrom snapshot).layers = indexBy LayerRecord.layerId snapshot.layers := by
  have shown := congrArg OsgScene.layers (loadedFrom_rest scene snapshot)
  exact shown

lemma loadSnapshot_allOn (scene : OsgScene) (unique : snapshot.UniqueIds)
    (on : ∀ layer ∈ snapshot.layers, layer.visible = true) :
    (scene.loadSnapshot snapshot).AllOn snapshot := by
  have same := loadedFrom_rest scene snapshot
  have index : (scene.loadedFrom snapshot).objectIndexById =
      indexBy ObjectRecord.objectId snapshot.objects := index_rest same
  refine ⟨loadSnapshot_consistent scene snapshot unique, ?_, loadedFrom_layers scene snapshot, on,
    ?_, ?_⟩
  · have shown := congrArg OsgScene.pendingObjects same
    exact shown
  · intro id key filedAt
    have filed : (scene.loadedFrom snapshot).batchKeyOf snapshot.objects id = some key := filedAt
    have found := filed
    simp only [batchKeyOf, Option.bind_eq_bind, Option.bind_eq_some_iff] at found
    rcases found with ⟨record, first, _⟩
    have isId := List.find?_some first
    simp only [Bool.and_eq_true, decide_eq_true_eq] at isId
    have there := List.mem_of_find?_eq_some first
    rw [← isId.2] at filed
    have its := batchKeyOf_record unique there filed
    rw [its.2.1]
    exact its.2.2.2
  · intro record there key filedAt drawn
    have filed : (scene.loadedFrom snapshot).batchKeyOf snapshot.objects record.objectId =
        some key := filedAt
    have its := batchKeyOf_record unique there filed
    rcases Option.isSome_iff_exists.mp (@indexBy_isSome _ ObjectRecord.objectId _ _ there) with
      ⟨indexed, isIndexed⟩
    have isRecord := indexBy_some isIndexed
    have sameRecord := record_unique unique isRecord.1 there isRecord.2
    subst sameRecord
    have member : indexed ∈ ((scene.loadedFrom snapshot).groupObjects snapshot.objects key).filter
        fun object => !(scene.loadedFrom snapshot).hiddenObjects object.objectId := by
      rw [mem_filter]
      refine ⟨?_, by simpa using its.2.2.1⟩
      rw [groupObjects, mem_filterMap]
      refine ⟨indexed, ?_, by rw [index]; exact isIndexed⟩
      rw [mem_filter]
      exact ⟨there, by simp [its.1, its.2.1, ObjectRecord.key]⟩
    have layer : ((scene.loadedFrom snapshot).layers key.layerId).isSome := by
      rw [its.2.1]
      exact its.2.2.2
    refine ⟨_, ?_, member⟩
    rw [loadSnapshot_eq, frame]
    simp only [buildBatches]
    rw [if_pos ⟨layer, indexed, member, drawn⟩]
    rfl

def Reloads (scene : OsgScene) (snapshot : SceneSnapshot) (record : ObjectRecord) : Prop :=
  scene.lazyLoadEnabled = true →
    scene.frustumCullingEnabled = true ∧ record.objectId ∈ scene.reloadIds snapshot

lemma loadSnapshot_node (scene : OsgScene) (unique : snapshot.UniqueIds)
    (on : ∀ layer ∈ snapshot.layers, layer.visible = true) (there : record ∈ snapshot.objects)
    (single : record.batched = false) (shown : scene.hiddenObjects record.objectId = false)
    (reloads : scene.Reloads snapshot record) :
    (scene.loadSnapshot snapshot).objectsById record.objectId =
      some ⟨some record, record.visible⟩ := by
  have layersOn : ∀ layerId layer, (scene.indexed snapshot).layers layerId = some layer →
      layer.visible = true := fun layerId layer found => on layer (indexBy_some found).1
  have loaded : (scene.loadedFrom snapshot).objectsById record.objectId =
      some ⟨some record, record.visible⟩ := by
    rw [loadedFrom]
    split
    · rename_i lazy
      rcases reloads lazy with ⟨culling, member⟩
      rw [ensure_indexed scene snapshot (ne_nil_of_mem there) culling]
      rcases Option.isSome_iff_exists.mp (@indexBy_isSome _ ObjectRecord.objectId _ _ there) with
        ⟨found, isFound⟩
      have isRecord := indexBy_some isFound
      have same := record_unique unique isRecord.1 there isRecord.2
      subst same
      exact foldl_loadObject_awaits _ (indexed_index scene snapshot)
        ⟨isFound, single, shown, Finset.notMem_empty _, rfl⟩ layersOn member
    · exact foldl_loadAll_node snapshot.objects unique there single layersOn
  rw [loadSnapshot_eq]
  simp only [buildBatches, loaded]

/-- A scene, and what `setObjectVisible` was last called with for each id. -/
structure UserView where
  scene : OsgScene
  flags : String → Option Bool

inductive ViewCall where
  | setObjectVisible (objectId : String) (visible : Bool)
  | setSelectedObject (objectId : String)
  | reload

def UserView.after (snapshot : SceneSnapshot) (view : UserView) : ViewCall → UserView
  | .setObjectVisible objectId visible =>
  ⟨view.scene.setObjectVisible objectId visible, Function.update view.flags objectId (some visible)⟩
  | .setSelectedObject objectId => ⟨view.scene.setSelectedObject objectId, view.flags⟩
  | .reload => ⟨view.scene.loadSnapshot snapshot, view.flags⟩

def UserView.start (frustum : Frustum ℚ) (culling lazy : Bool) (snapshot : SceneSnapshot) :
    UserView :=
  ⟨(new frustum culling lazy).loadSnapshot snapshot, fun _ => none⟩

/-- Every object has the visibility the user gave it, and is drawn if the user showed it. -/
def UserView.Faithful (snapshot : SceneSnapshot) (view : UserView) : Prop :=
  ∀ record ∈ snapshot.objects,
    view.scene.isObjectVisible record.objectId = (view.flags record.objectId).getD true ∧
    (view.flags record.objectId = some true →
      view.scene.Shown record.objectId ∨ record.objectId ∈ view.scene.highlightNodes)

/-- Shown objects have a batch or a node, hidden ones are hidden, and a reload finds the shown ones.
-/
def UserView.KeepsFlags (snapshot : SceneSnapshot) (view : UserView) : ViewCall → Prop
  | .setObjectVisible objectId visible =>
    ∀ record ∈ snapshot.objects, record.objectId = objectId →
      if (view.scene.objectIdToBatchKey objectId).isSome then
        visible = true → triangles record ≠ 0
      else (view.scene.objectsById objectId).any (·.node.isSome) = true ∨
        visible = false ∧ view.scene.hiddenObjects objectId = true
  | .setSelectedObject objectId =>
    (objectId ≠ "" → (view.scene.objectIdToBatchKey objectId).isSome →
      view.scene.hiddenObjects objectId = true) ∧
    (view.scene.previousKey.isSome → view.scene.previousSelectedId ≠ objectId →
      view.scene.hiddenObjects view.scene.previousSelectedId = false)
  | .reload =>
    ∀ record ∈ snapshot.objects, record.batched = false → view.flags record.objectId = some true →
        record.visible = true ∧ view.scene.Reloads snapshot record

/-- What a run keeps: the highlight is never all that is drawn of a shown object. -/
structure UserView.Kept (snapshot : SceneSnapshot) (view : UserView) : Prop where
  on : view.scene.AllOn snapshot
  flags : ∀ record ∈ snapshot.objects,
    view.scene.isObjectVisible record.objectId = (view.flags record.objectId).getD true
  shown : ∀ record ∈ snapshot.objects, view.flags record.objectId = some true →
    view.scene.Shown record.objectId

variable {view : UserView}

lemma kept_faithful (kept : view.Kept snapshot) : view.Faithful snapshot :=
  fun record there => ⟨kept.flags record there, fun flag => Or.inl (kept.shown record there flag)⟩

lemma shown_congr (first : scene.Consistent) (second : other.Consistent)
    (frames : ∀ key, other.frame key = scene.frame key)
    (hidden : other.hiddenObjects id = scene.hiddenObjects id)
    (nodes : other.objectsById id = scene.objectsById id) (shown : scene.Shown id) :
    other.Shown id := by
  rcases shown with inBatch | ⟨record, node⟩
  · apply Or.inl
    rw [shownInBatch_iff second]
    simp only [frames, hidden]
    exact (shownInBatch_iff first).mp inBatch
  · exact Or.inr ⟨record, nodes.trans node⟩

lemma flag_hidden (kept : view.Kept snapshot) (there : record ∈ snapshot.objects)
    (flag : view.flags record.objectId = some true) :
    view.scene.hiddenObjects record.objectId = false := by
  have visible := kept.flags record there
  rw [flag, isObjectVisible] at visible
  simpa using visible

lemma kept_setObjectVisible (kept : view.Kept snapshot) (id : String) (visible : Bool)
    (keeps : view.KeepsFlags snapshot (.setObjectVisible id visible)) :
    (view.after snapshot (.setObjectVisible id visible)).Kept snapshot := by
  have consistent := setObjectVisible_consistent kept.on.consistent id visible
  have same := setObjectVisible_sameFrames view.scene id visible
  have on := allOn_sameFrames kept.on same consistent
  have its : ∀ record ∈ snapshot.objects, record.objectId = id →
      (view.scene.setObjectVisible id visible).hiddenObjects id = !visible ∧
        (visible = true → (view.scene.setObjectVisible id visible).Shown id) := by
    intro record there isId
    have condition := keeps record there isId
    cases filedAt : view.scene.objectIdToBatchKey id with
    | some key =>
      have hidden := @setObjectVisible_filed view.scene _ _ visible filedAt
      refine ⟨hidden, ?_⟩
      intro isTrue
      rw [filedAt, Option.isSome_some, if_pos rfl] at condition
      rcases kept.on.held record there key (isId ▸ filedAt) (condition isTrue) with
        ⟨held, isFrame, member⟩
      apply Or.inl
      rw [shownInBatch_iff consistent]
      refine ⟨key, held, (same.frames key).trans isFrame, record, member, isId,
        condition isTrue, ?_⟩
      rw [hidden, isTrue]
      rfl
    | none =>
      rw [filedAt, Option.isSome_none, if_neg Bool.false_ne_true] at condition
      rcases condition with hasNode | ⟨isFalse, isHidden⟩
      · rcases (Option.any_eq_true _ _).mp hasNode with ⟨object, found, isNode⟩
        rcases Option.isSome_iff_exists.mp isNode with ⟨nodeRecord, isRecord⟩
        have node : view.scene.objectsById id = some ⟨some nodeRecord, object.visible⟩ := by
          rw [found, ← isRecord]
        have both := @setObjectVisible_node _ _ _ _ kept.on visible _ filedAt node
        refine ⟨both.1, ?_⟩
        intro isTrue
        exact Or.inr ⟨nodeRecord, isTrue ▸ both.2⟩
      · cases found : view.scene.objectsById id with
        | none =>
          have unchanged : view.scene.setObjectVisible id visible = view.scene := by
            rw [setObjectVisible, filedAt, found]
          refine ⟨?_, fun isTrue => absurd (isFalse.symm.trans isTrue) Bool.false_ne_true⟩
          rw [unchanged, isHidden, isFalse]
          rfl
        | some object =>
          refine ⟨?_, fun isTrue => absurd (isFalse.symm.trans isTrue) Bool.false_ne_true⟩
          rw [setObjectVisible, filedAt, found, isFalse]
          dsimp only
          rw [Function.update_self, Bool.false_and]
  refine ⟨on, ?_, ?_⟩
  · intro record there
    by_cases isId : record.objectId = id
    · simp only [UserView.after, isObjectVisible, isId, Function.update_self, Option.getD_some]
      rw [(its record there isId).1, Bool.not_not]
    · simp only [UserView.after, isObjectVisible, Function.update_of_ne isId]
      rw [(setObjectVisible_other id visible record.objectId isId).1]
      exact kept.flags record there
  · intro record there flag
    by_cases isId : record.objectId = id
    · simp only [UserView.after, isId, Function.update_self, Option.some.injEq] at flag ⊢
      exact (its record there isId).2 flag
    · simp only [UserView.after, Function.update_of_ne isId] at flag
      have others := @setObjectVisible_other view.scene id visible record.objectId isId
      exact shown_congr kept.on.consistent consistent same.frames others.1 others.2
        (kept.shown record there flag)

lemma kept_setSelectedObject (kept : view.Kept snapshot) (id : String)
    (keeps : view.KeepsFlags snapshot (.setSelectedObject id)) :
    (view.after snapshot (.setSelectedObject id)).Kept snapshot := by
  have consistent := setSelectedObject_consistent kept.on.consistent id
  have same := setSelectedObject_sameFrames view.scene id
  have unchanged : ∀ another, (view.scene.setSelectedObject id).hiddenObjects another =
      view.scene.hiddenObjects another := by
    intro another
    rw [setSelectedObject_hidden]
    split
    · rename_i selected
      rw [selected.2.2]
      exact (keeps.1 selected.1 selected.2.1).symm
    · rename_i notSelected
      rw [restoreSelection_hidden]
      split
      · rename_i restored
        have different : view.scene.previousSelectedId ≠ id := by
          intro isId
          apply notSelected
          have filed := restored.1
          rw [previousKey] at filed
          split at filed
          · cases filed
          · rename_i some
            rw [isId] at some filed
            exact ⟨some, filed, restored.2.trans isId⟩
        rw [restored.2, keeps.2 restored.1 different]
      · rfl
  refine ⟨allOn_sameFrames kept.on same.1 consistent, ?_, ?_⟩
  · intro record there
    simp only [UserView.after, isObjectVisible, unchanged]
    exact kept.flags record there
  · intro record there flag
    exact shown_congr kept.on.consistent consistent same.1.frames (unchanged _)
      (congrFun same.2 _) (kept.shown record there flag)

lemma kept_reload (kept : view.Kept snapshot) (keeps : view.KeepsFlags snapshot .reload) :
    (view.after snapshot .reload).Kept snapshot := by
  have unique := allOn_unique kept.on
  have on := loadSnapshot_allOn view.scene unique kept.on.on
  have hidden := loadSnapshot_hidden view.scene snapshot
  refine ⟨on, ?_, ?_⟩
  · intro record there
    simp only [UserView.after, isObjectVisible, hidden]
    exact kept.flags record there
  · intro record there flag
    have isShown := flag_hidden kept there flag
    cases batched : record.batched with
    | false =>
      have condition := keeps record there batched flag
      apply Or.inr
      have node := loadSnapshot_node view.scene unique kept.on.on there batched isShown condition.2
      rw [condition.1] at node
      exact ⟨record, node⟩
    | true =>
      -- it was drawn before, so its layer is known and it has triangles
      have records : view.scene.records = snapshot.objects := by
        rw [OsgScene.records, kept.on.records]
        rfl
      have before : ∃ key, view.scene.objectIdToBatchKey record.objectId = some key ∧
          key = record.key ∧ triangles record ≠ 0 := by
        rcases kept.shown record there flag with inBatch | ⟨nodeRecord, node⟩
        · rcases (shownInBatch_iff kept.on.consistent).mp inBatch with
            ⟨key, objects, isFrame, found, member, sameId, drawn, _⟩
          rcases Option.map_eq_some_iff.mp isFrame with ⟨batch, isBatch, isPair⟩
          simp only [Prod.mk.injEq] at isPair
          rw [← isPair.1] at member
          have its := kept.on.consistent.filed.batches key batch isBatch found member
          have same := record_unique unique (records ▸ its.1) there sameId
          subst same
          rcases kept.on.consistent.filed.keys _ key its.2.2 with
            ⟨other, isThere, otherId, _, isKey⟩
          have sameOther := record_unique unique (records ▸ isThere) there otherId
          exact ⟨key, its.2.2, sameOther ▸ isKey, drawn⟩
        · have its := kept.on.consistent.filed.nodes _ nodeRecord true node
          have same := record_unique unique (records ▸ its.1) there its.2.1
          rw [same, batched] at its
          cases its.2.2.1
      rcases before with ⟨key, filedBefore, rfl, drawn⟩
      have layerKnown := kept.on.known _ _ filedBefore
      have rests := loadedFrom_rest view.scene snapshot
      have filedAt : (view.scene.loadSnapshot snapshot).objectIdToBatchKey record.objectId =
          some record.key := by
        rw [loadSnapshot_eq]
        apply batchKeyOf_filed unique there batched
        · rw [hidden_rest rests]
          exact isShown
        · rw [index_rest rests]
          exact indexBy_isSome there
        · rw [loadedFrom_layers, ← kept.on.layers]
          exact layerKnown
      rcases on.held record there record.key filedAt drawn with ⟨held, isFrame, member⟩
      apply Or.inl
      refine (shownInBatch_iff on.consistent).mpr
        ⟨record.key, held, isFrame, record, member, rfl, drawn, ?_⟩
      exact (congrFun hidden record.objectId).trans isShown

lemma kept_start (frustum : Frustum ℚ) (culling lazy : Bool) (unique : snapshot.UniqueIds)
    (on : ∀ layer ∈ snapshot.layers, layer.visible = true) :
    (UserView.start frustum culling lazy snapshot).Kept snapshot := by
  refine ⟨loadSnapshot_allOn _ unique on, ?_, fun record there flag => by cases flag⟩
  intro record there
  simp only [UserView.start, isObjectVisible, loadSnapshot_hidden]
  rfl

/-- In a run whose calls keep the flags, every object has the visibility the user gave it. -/
theorem user_visibility_kept (frustum : Frustum ℚ) (culling lazy : Bool) (snapshot : SceneSnapshot)
    (unique : snapshot.UniqueIds) (on : ∀ layer ∈ snapshot.layers, layer.visible = true)
    (calls : List ViewCall)
    (each : EachCall (UserView.after snapshot) (UserView.KeepsFlags snapshot)
      (UserView.start frustum culling lazy snapshot) calls) :
    Throughout (UserView.after snapshot) (UserView.Faithful snapshot)
      (UserView.start frustum culling lazy snapshot) calls := by
  have keeps : ∀ (view : UserView) (call : ViewCall), view.Kept snapshot →
      view.KeepsFlags snapshot call → (view.after snapshot call).Kept snapshot := by
    intro view call kept condition
    cases call with
    | setObjectVisible id visible => exact kept_setObjectVisible kept id visible condition
    | setSelectedObject id => exact kept_setSelectedObject kept id condition
    | reload => exact kept_reload kept condition
  apply throughout_mono (fun view kept => kept_faithful kept)
  exact throughout_of_each keeps (kept_start frustum culling lazy unique on) each

def sampleView : UserView :=
  UserView.start (flatFrustum 0) false false (twoLayers "m2")

lemma twoLayers_on : ∀ layer ∈ (twoLayers "m2").layers, layer.visible = true := by
  intro layer there
  rcases List.mem_pair.mp there with rfl | rfl <;> rfl

theorem user_visibility_kept_sample :
    Throughout (UserView.after (twoLayers "m2")) (UserView.Faithful (twoLayers "m2")) sampleView
      [.setObjectVisible "a" false, .setObjectVisible "a" true, .setSelectedObject "", .reload] := by
  have unique : (twoLayers "m2").UniqueIds := twoLayers_unique "m2" _ mem_cons_self
  apply user_visibility_kept _ false false _ unique twoLayers_on
  rw [eachCall_cons, eachCall_cons, eachCall_cons, eachCall_cons]
  refine ⟨?_, ?_, ⟨fun some => absurd rfl some, fun isSome => absurd isSome (by decide)⟩, ?_,
    eachCall_nil⟩
  · intro record there _
    rcases List.mem_pair.mp there with rfl | rfl <;> decide
  · intro record there _
    rcases List.mem_pair.mp there with rfl | rfl <;> decide
  · intro record there single
    rcases List.mem_pair.mp there with rfl | rfl <;> cases single

/-- A wire that is hidden, selected and given up again is visible. -/
theorem deselected_wire_visible :
    ¬ ∀ frustum culling lazy, ∀ snapshot : SceneSnapshot, snapshot.UniqueIds →
      (∀ layer ∈ snapshot.layers, layer.visible = true) → ∀ calls,
      Throughout (UserView.after snapshot) (UserView.Faithful snapshot)
        (UserView.start frustum culling lazy snapshot) calls := by
  intro allFaithful
  have unique : (twoLayers "m2").UniqueIds := twoLayers_unique "m2" _ mem_cons_self
  have faithful := allFaithful (flatFrustum 0) false false (twoLayers "m2") unique
    twoLayers_on [.setObjectVisible "a" false, .setSelectedObject "a", .setSelectedObject ""]
    _ (prefix_refl _) (sampleWire "a" "m1") mem_cons_self
  have visible : (run (UserView.after (twoLayers "m2")) sampleView
      [.setObjectVisible "a" false, .setSelectedObject "a", .setSelectedObject ""]).scene.isObjectVisible
        "a" = true := by decide
  exact absurd (visible.symm.trans faithful.1) (by decide)

end OsgScene

end OpenRoad.Viewer
