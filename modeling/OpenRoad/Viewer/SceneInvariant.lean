import OpenRoad.Viewer.OsgScene

/-! What every scene keeps: nodes, batches and keys belong to records of the loaded snapshot, and
batches draw what is not hidden. -/

namespace OpenRoad.Viewer

open OpenRoad.Lib Function Option List

def ObjectRecord.key (object : ObjectRecord) : BatchKey := ⟨object.layerId, object.type⟩

inductive OsgCall where
  | loadSnapshot (snapshot : SceneSnapshot)
  | updateFrustum (frustum : Frustum ℚ)
  | ensureObjectsInFrustum
  | setObjectVisible (objectId : String) (visible : Bool)
  | setLayerVisible (layerId : String) (visible : Bool)
  | setSelectedObject (objectId : String)
  | removeObjectsById (objectIds : List String)

def OsgCall.UniqueIds : OsgCall → Prop
  | .loadSnapshot snapshot => snapshot.UniqueIds
  | _ => True

lemma record_unique {objects : List ObjectRecord}
    (unique : (objects.map ObjectRecord.objectId).Nodup) {a b : ObjectRecord} (first : a ∈ objects)
    (second : b ∈ objects) (same : a.objectId = b.objectId) : a = b :=
  inj_on_of_nodup_map unique first second same

namespace OsgScene

section IndexBy

variable {α : Type} {key : α → String} {items : List α} {id : String} {item : α}

lemma indexBy_concat (key : α → String) (items : List α) (item : α) :
    indexBy key (items ++ [item]) = update (indexBy key items) (key item) (some item) := by
  rw [indexBy, foldl_append]
  rfl

lemma indexBy_some (found : indexBy key items id = some item) : item ∈ items ∧ key item = id := by
  induction items using reverseRecOn with
  | nil => cases found
  | append_singleton items last ih =>
    rw [indexBy_concat] at found
    by_cases same : id = key last
    · subst same
      rw [update_self] at found
      rw [← Option.some.inj found]
      exact ⟨by simp, rfl⟩
    · rw [update_of_ne same] at found
      have old := ih found
      exact ⟨mem_append_left _ old.1, old.2⟩

lemma indexBy_isSome (member : item ∈ items) : (indexBy key items (key item)).isSome := by
  induction items using reverseRecOn with
  | nil => cases member
  | append_singleton items last ih =>
    rw [indexBy_concat]
    by_cases same : key item = key last
    · rw [same, update_self]
      rfl
    · rw [update_of_ne same]
      rcases mem_append.mp member with old | new
      · exact ih old
      · exact absurd (congrArg key (mem_singleton.mp new)) same

end IndexBy

variable {scene other : OsgScene}

def after (scene : OsgScene) : OsgCall → OsgScene
  | .loadSnapshot snapshot => scene.loadSnapshot snapshot
  | .updateFrustum frustum => scene.updateFrustum frustum
  | .ensureObjectsInFrustum => scene.ensureObjectsInFrustum
  | .setObjectVisible objectId visible => scene.setObjectVisible objectId visible
  | .setLayerVisible layerId visible => scene.setLayerVisible layerId visible
  | .setSelectedObject objectId => scene.setSelectedObject objectId
  | .removeObjectsById objectIds => scene.removeObjectsById objectIds

def records (scene : OsgScene) : List ObjectRecord := scene.pendingObjects.getD []

def NodesFiled (scene : OsgScene) : Prop :=
  ∀ id record visible, scene.objectsById id = some ⟨some record, visible⟩ →
    record ∈ scene.records ∧ record.objectId = id ∧ record.batched = false ∧
      scene.objectLayerById id = some record.layerId

structure Filed (scene : OsgScene) : Prop where
  unique : (scene.records.map ObjectRecord.objectId).Nodup
  index : ∀ id record, scene.objectIndexById id = some record →
    record ∈ scene.records ∧ record.objectId = id
  keys : ∀ id key, scene.objectIdToBatchKey id = some key →
    ∃ record ∈ scene.records, record.objectId = id ∧ record.batched = true ∧ key = record.key
  nodes : scene.NodesFiled
  batches : ∀ key batch, scene.layerBatches key = some batch → ∀ record ∈ batch.objects,
    record ∈ scene.records ∧ record.batched = true ∧
      scene.objectIdToBatchKey record.objectId = some key

def Drawn (hidden : String → Bool) (batch : LayerBatch) : Prop :=
  batch.primitives = primitivesOf hidden batch.objects

def Synced (scene : OsgScene) : Prop :=
  ∀ key batch, scene.layerBatches key = some batch → Drawn scene.hiddenObjects batch

structure Consistent (scene : OsgScene) : Prop where
  filed : scene.Filed
  synced : scene.Synced

def rest (scene : OsgScene) : OsgScene :=
  { scene with objectsById := fun _ => none, objectLayerById := fun _ => none, loadedObjectIds := ∅ }

lemma records_rest (same : other.rest = scene.rest) : other.records = scene.records := by
  have shown := congrArg records same
  exact shown

lemma index_rest (same : other.rest = scene.rest) :
    other.objectIndexById = scene.objectIndexById := by
  have shown := congrArg objectIndexById same
  exact shown

lemma hidden_rest (same : other.rest = scene.rest) :
    other.hiddenObjects = scene.hiddenObjects := by
  have shown := congrArg hiddenObjects same
  exact shown

lemma loadObject_rest (scene : OsgScene) (id : String) :
    (scene.loadObject id).rest = scene.rest := by
  unfold loadObject
  repeat' first | rfl | split

lemma loadAll_rest (scene : OsgScene) (object : ObjectRecord) :
    (scene.loadAll object).rest = scene.rest := by
  unfold loadAll
  split <;> rfl

lemma foldl_rest {α : Type} {load : OsgScene → α → OsgScene}
    (one : ∀ scene item, (load scene item).rest = scene.rest) (items : List α) (scene : OsgScene) :
    (items.foldl load scene).rest = scene.rest := by
  induction items generalizing scene with
  | nil => rfl
  | cons item items ih => exact (ih (load scene item)).trans (one scene item)

lemma ensure_rest (scene : OsgScene) : scene.ensureObjectsInFrustum.rest = scene.rest := by
  unfold ensureObjectsInFrustum
  split
  · rfl
  · split
    · rfl
    · dsimp only
      split
      · split
        · exact foldl_rest loadObject_rest _ _
        · rfl
      · exact foldl_rest loadObject_rest _ _

lemma addSceneObject_nodes {object : ObjectRecord} (nodes : scene.NodesFiled)
    (there : object ∈ scene.records) (single : object.batched = false) :
    (scene.addSceneObject object).NodesFiled := by
  intro id record visible found
  simp only [addSceneObject] at found ⊢
  by_cases same : id = object.objectId
  · subst same
    simp only [update_self, Option.some.injEq, SceneObject.mk.injEq] at found ⊢
    rw [← found.1]
    exact ⟨there, rfl, single, rfl⟩
  · simp only [update_of_ne same] at found ⊢
    exact nodes id record visible found

def IndexFiled (scene : OsgScene) : Prop :=
  ∀ id record, scene.objectIndexById id = some record →
    record ∈ scene.records ∧ record.objectId = id

lemma loadObject_nodes (index : scene.IndexFiled) (nodes : scene.NodesFiled) (id : String) :
    (scene.loadObject id).NodesFiled := by
  unfold loadObject
  split
  · exact nodes
  · split
    · exact nodes
    · rename_i object found
      dsimp only
      split
      · exact nodes
      · rename_i single
        split
        · exact nodes
        · split
          · exact nodes
          · exact @addSceneObject_nodes { scene with loadedObjectIds := _ } _ nodes
              (index id object found).1 (by simpa using single)

lemma loadAll_nodes (nodes : scene.NodesFiled) {object : ObjectRecord}
    (there : object ∈ scene.records) : (scene.loadAll object).NodesFiled := by
  unfold loadAll
  dsimp only
  split
  · exact nodes
  · rename_i single
    exact @addSceneObject_nodes { scene with loadedObjectIds := _ } _ nodes there
      (by simpa using single)

lemma foldl_loadObject_nodes (ids : List String) (index : scene.IndexFiled)
    (nodes : scene.NodesFiled) : (ids.foldl loadObject scene).NodesFiled := by
  induction ids generalizing scene with
  | nil => exact nodes
  | cons id ids ih =>
    have same := loadObject_rest scene id
    apply ih _ (loadObject_nodes index nodes id)
    intro other record found
    have records : (scene.loadObject id).records = scene.records := records_rest same
    rw [index_rest same] at found
    rw [records]
    exact index other record found

lemma foldl_loadAll_nodes (objects : List ObjectRecord) (nodes : scene.NodesFiled)
    (there : ∀ object ∈ objects, object ∈ scene.records) :
    (objects.foldl loadAll scene).NodesFiled := by
  induction objects generalizing scene with
  | nil => exact nodes
  | cons object objects ih =>
    have records : (scene.loadAll object).records = scene.records :=
      records_rest (loadAll_rest scene object)
    apply ih (loadAll_nodes nodes (there object mem_cons_self))
    intro other member
    rw [records]
    exact there other (mem_cons_of_mem object member)

lemma unload_nodes (nodes : scene.NodesFiled) (visibleSet : List String) :
    (scene.unload visibleSet).NodesFiled := by
  intro id record visible found
  simp only [unload] at found ⊢
  split at found
  · cases found
  · rename_i stays
    rw [if_neg stays]
    exact nodes id record visible found

lemma ensure_nodes (index : scene.IndexFiled) (nodes : scene.NodesFiled) :
    scene.ensureObjectsInFrustum.NodesFiled := by
  unfold ensureObjectsInFrustum
  split
  · exact nodes
  · split
    · exact nodes
    · dsimp only
      split
      · split
        · exact foldl_loadObject_nodes _ index nodes
        · exact nodes
      · exact foldl_loadObject_nodes _ index (unload_nodes nodes _)

section

variable (consistent : scene.Consistent)
include consistent

lemma consistent_of_rest (same : other.rest = scene.rest) (nodes : other.NodesFiled) :
    other.Consistent := by
  have records : other.records = scene.records := records_rest same
  have keys : other.objectIdToBatchKey = scene.objectIdToBatchKey := by
    have shown := congrArg objectIdToBatchKey same
    exact shown
  have batches : other.layerBatches = scene.layerBatches := by
    have shown := congrArg layerBatches same
    exact shown
  refine ⟨⟨?_, ?_, ?_, nodes, ?_⟩, ?_⟩
  · rw [records]
    exact consistent.filed.unique
  · rw [records, index_rest same]
    exact consistent.filed.index
  · rw [records, keys]
    exact consistent.filed.keys
  · rw [records, keys, batches]
    exact consistent.filed.batches
  · rw [Synced, batches, hidden_rest same]
    exact consistent.synced

lemma ensure_consistent :
    scene.ensureObjectsInFrustum.Consistent :=
  consistent_of_rest consistent (ensure_rest scene)
    (ensure_nodes consistent.filed.index consistent.filed.nodes)

omit consistent in
lemma primitivesOf_congr {hidden hidden' : String → Bool} {objects : List ObjectRecord}
    (agree : ∀ object ∈ objects, hidden' object.objectId = hidden object.objectId) :
    primitivesOf hidden' objects = primitivesOf hidden objects := by
  rw [primitivesOf, primitivesOf, filter_congr]
  intro object member
  rw [agree object member]

omit consistent in
lemma update_redrawn (batches : BatchKey → Option LayerBatch) (key : BatchKey)
    (hidden : String → Bool) :
    (fun other => (batches other).map fun batch =>
      if other = key then { batch with primitives := primitivesOf hidden batch.objects }
      else batch) = match batches key with
        | none => batches
        | some batch => update batches key
          (some { batch with primitives := primitivesOf hidden batch.objects }) := by
  cases found : batches key with
  | none =>
    funext other
    by_cases isKey : other = key
    · rw [isKey]
      simp only [found, map_none]
    · simp [isKey]
  | some batch =>
    funext other
    by_cases isKey : other = key
    · simp [isKey, found]
    · simp [isKey]

omit consistent in
lemma rebuildBatch_eq (scene : OsgScene) (key : BatchKey) : scene.rebuildBatch key = { scene with
      layerBatches := fun other => (scene.layerBatches other).map fun batch =>
        if other = key then
          { batch with primitives := primitivesOf scene.hiddenObjects batch.objects }
        else batch } := by
  rw [update_redrawn scene.layerBatches, rebuildBatch]
  cases scene.layerBatches key with
  | none => rfl
  | some batch => rfl

lemma rebuild_consistent (id : String) (key : BatchKey)
    (filedAt : scene.objectIdToBatchKey id = some key) (value : Bool) :
    ({ scene with
      hiddenObjects := update scene.hiddenObjects id value }.rebuildBatch key).Consistent := by
  rw [rebuildBatch_eq]
  refine ⟨⟨consistent.filed.unique, consistent.filed.index, consistent.filed.keys,
    consistent.filed.nodes, ?_⟩, ?_⟩
  · intro other batch found
    rcases map_eq_some_iff.mp found with ⟨old, there, rfl⟩
    have same : (if other = key then
        { old with primitives := primitivesOf (update scene.hiddenObjects id value) old.objects }
        else old).objects = old.objects := by
      split <;> rfl
    rw [same]
    exact consistent.filed.batches other old there
  · intro other batch found
    rcases map_eq_some_iff.mp found with ⟨old, there, rfl⟩
    split
    · rfl
    · rename_i different
      rw [Drawn, consistent.synced other old there]
      symm
      apply primitivesOf_congr
      intro object member
      have its := (consistent.filed.batches other old there object member).2.2
      have apart : object.objectId ≠ id := by
        intro same
        rw [same, filedAt] at its
        exact different (Option.some.inj its).symm
      exact update_of_ne apart _ _

lemma setObjectVisible_consistent (id : String) (visible : Bool) :
    (scene.setObjectVisible id visible).Consistent := by
  unfold setObjectVisible
  split
  · rename_i key filedAt
    dsimp only
    split
    · have erased : { scene with
          objectsById := update scene.objectsById id none
          objectLayerById := update scene.objectLayerById id none
          loadedObjectIds := scene.loadedObjectIds.erase id }.Consistent := by
        refine consistent_of_rest consistent ?_ ?_
        · rfl
        intro other record shown found
        by_cases same : other = id
        · subst same
          simp only [update_self] at found
          cases found
        · simp only [update_of_ne same] at found ⊢
          exact consistent.filed.nodes other record shown found
      exact rebuild_consistent erased id key filedAt (!visible)
    · exact rebuild_consistent consistent id key filedAt (!visible)
  · rename_i unfiled
    split
    · exact consistent
    · rename_i object found
      refine ⟨⟨consistent.filed.unique, consistent.filed.index, consistent.filed.keys, ?_,
        consistent.filed.batches⟩, ?_⟩
      · intro other record shown isThere
        by_cases same : other = id
        · subst same
          simp only [update_self, Option.some.injEq, SceneObject.mk.injEq] at isThere
          exact consistent.filed.nodes other record object.visible
            (by rw [found]; congr 1; rw [← isThere.1])
        · simp only [update_of_ne same] at isThere
          exact consistent.filed.nodes other record shown isThere
      · intro key batch there
        rw [Drawn, consistent.synced key batch there]
        symm
        apply primitivesOf_congr
        intro record member
        have its := (consistent.filed.batches key batch there record member).2.2
        apply update_of_ne
        intro same
        rw [same, unfiled] at its
        cases its

lemma setLayerVisible_consistent (layerId : String) (visible : Bool) :
    (scene.setLayerVisible layerId visible).Consistent := by
  unfold setLayerVisible
  split
  · exact consistent
  · rename_i layer _
    have agree : ∀ key batch, scene.layerBatches key = some batch → ∀ object ∈ batch.objects,
        (if scene.individual layerId object.objectId then !visible
          else scene.hiddenObjects object.objectId) = scene.hiddenObjects object.objectId := by
      intro key batch there object member
      have its := (consistent.filed.batches key batch there object member).2.2
      rw [if_neg]
      simp [individual, its]
    refine ⟨⟨consistent.filed.unique, consistent.filed.index, consistent.filed.keys, ?_, ?_⟩, ?_⟩
    · intro id record shown found
      dsimp only at found ⊢
      split at found
      · rcases map_eq_some_iff.mp found with ⟨old, there, isNew⟩
        simp only [SceneObject.mk.injEq] at isNew
        exact consistent.filed.nodes id record old.visible (by rw [there]; congr 1; rw [← isNew.1])
      · exact consistent.filed.nodes id record shown found
    · intro key batch found
      rcases map_eq_some_iff.mp found with ⟨old, there, rfl⟩
      dsimp only
      have same : (if startsWith key layerId then
          { old with
            nodeMask := visible
            primitives := if visible then
              primitivesOf (fun id => if scene.individual layerId id then !visible
                else scene.hiddenObjects id) old.objects else old.primitives }
          else old).objects = old.objects := by
        split <;> rfl
      rw [same]
      exact consistent.filed.batches key old there
    · intro key batch found
      rcases map_eq_some_iff.mp found with ⟨old, there, rfl⟩
      dsimp only
      have kept : old.primitives = primitivesOf (fun id => if scene.individual layerId id then
          !visible else scene.hiddenObjects id) old.objects := by
        rw [consistent.synced key old there]
        symm
        exact primitivesOf_congr (agree key old there)
      split
      · rw [Drawn]
        dsimp only
        split
        · rfl
        · exact kept
      · exact kept

lemma consistent_selection {highlights : Finset String} {previous selected : String} : { scene with
      highlightNodes := highlights, previousSelectedId := previous,
      selectedObjectId := selected }.Consistent :=
  ⟨⟨consistent.filed.unique, consistent.filed.index, consistent.filed.keys, consistent.filed.nodes,
    consistent.filed.batches⟩, consistent.synced⟩

lemma restoreSelection_consistent :
    scene.restoreSelection.Consistent := by
  have cleared : { scene with highlightNodes := ∅ }.Consistent := consistent_selection consistent
  unfold restoreSelection
  dsimp only
  split
  · exact cleared
  · split
    · rename_i key filedAt
      exact consistent_selection
        (rebuild_consistent cleared scene.previousSelectedId key filedAt false)
    · exact consistent_selection cleared

lemma setSelectedObject_consistent (id : String) :
    (scene.setSelectedObject id).Consistent := by
  have restored := restoreSelection_consistent consistent
  unfold setSelectedObject
  dsimp only
  split
  · exact consistent_selection restored
  · split
    · rename_i key filedAt
      exact consistent_selection (rebuild_consistent restored id key filedAt true)
    · split
      · exact consistent_selection restored
      · exact restored

lemma removeObjectsById_consistent (ids : List String) :
    (scene.removeObjectsById ids).Consistent := by
  refine ⟨⟨consistent.filed.unique, consistent.filed.index, ?_, ?_, ?_⟩, ?_⟩
  · intro id key found
    simp only [removeObjectsById] at found
    split at found
    · cases found
    · exact consistent.filed.keys id key found
  · intro id record visible found
    simp only [removeObjectsById] at found ⊢
    split at found
    · cases found
    · rename_i stays
      rw [if_neg stays]
      exact consistent.filed.nodes id record visible found
  · intro key batch found record member
    simp only [removeObjectsById] at found ⊢
    rcases map_eq_some_iff.mp found with ⟨old, there, rfl⟩
    have inOld : record ∈ old.objects ∧ record.objectId ∉ ids := by
      split at member
      · have parts := mem_filter.mp member
        exact ⟨parts.1, by simpa using parts.2⟩
      · rename_i none
        exact ⟨member, fun listed => none ⟨record, member, listed⟩⟩
    have its := consistent.filed.batches key old there record inOld.1
    refine ⟨its.1, its.2.1, ?_⟩
    rw [if_neg inOld.2]
    exact its.2.2
  · intro key batch found
    simp only [removeObjectsById] at found
    rcases map_eq_some_iff.mp found with ⟨old, there, rfl⟩
    split
    · rfl
    · exact consistent.synced key old there

end

lemma buildBatches_consistent (unique : (scene.records.map ObjectRecord.objectId).Nodup)
    (index : scene.IndexFiled) (nodes : scene.NodesFiled) :
    (scene.buildBatches scene.records).Consistent := by
  have keyOf : ∀ id key, scene.batchKeyOf scene.records id = some key →
      ∃ record ∈ scene.records, record.objectId = id ∧ record.batched = true ∧ key = record.key := by
    intro id key found
    simp only [batchKeyOf, bind_eq_bind, bind_eq_some_iff] at found
    rcases found with ⟨record, first, isKey⟩
    have properties := find?_some first
    simp only [Bool.and_eq_true, decide_eq_true_eq] at properties
    split at isKey
    · exact ⟨record, mem_of_find?_eq_some first, properties.2, properties.1,
        (Option.some.inj isKey).symm⟩
    · cases isKey
  refine ⟨⟨unique, index, keyOf, ?_, ?_⟩, ?_⟩
  · intro id record visible found
    simp only [buildBatches] at found ⊢
    cases old : scene.objectsById id with
    | none =>
      rw [old] at found
      cases isFiled : scene.batchKeyOf scene.records id with
      | none =>
        rw [isFiled] at found
        cases found
      | some key =>
        rw [isFiled] at found
        simp at found
    | some object =>
      rw [old] at found
      have same : object = ⟨some record, visible⟩ := by
        cases isFiled : scene.batchKeyOf scene.records id with
        | none =>
          rw [isFiled] at found
          exact Option.some.inj found
        | some key =>
          rw [isFiled] at found
          exact Option.some.inj found
      rw [same] at old
      exact nodes id record visible old
  · intro key batch found record member
    simp only [buildBatches] at found ⊢
    split at found
    · rename_i condition
      rw [← Option.some.inj found] at member
      have parts := mem_filter.mp member
      rcases mem_filterMap.mp parts.1 with ⟨source, inGroup, isRecord⟩
      rcases mem_filter.mp inGroup with ⟨there, properties⟩
      simp only [Bool.and_eq_true, decide_eq_true_eq] at properties
      have its := index source.objectId record isRecord
      have same : record = source := record_unique unique its.1 there its.2
      subst same
      refine ⟨there, properties.1, ?_⟩
      have first : scene.records.find? (fun object =>
          object.batched && decide (object.objectId = record.objectId)) = some record := by
        cases search : scene.records.find? (fun object =>
            object.batched && decide (object.objectId = record.objectId)) with
        | none =>
          have never := find?_eq_none.mp search record there
          simp [properties.1] at never
        | some other =>
          have sameId := find?_some search
          simp only [Bool.and_eq_true, decide_eq_true_eq] at sameId
          rw [record_unique unique (mem_of_find?_eq_some search) there sameId.2]
      simp only [batchKeyOf, first, bind_eq_bind, bind_some]
      have layerKnown : (scene.layers record.layerId).isSome := by
        have known := condition.1
        rw [← properties.2] at known
        exact known
      rw [if_pos ⟨by simpa using parts.2, by rw [isRecord]; rfl, layerKnown⟩, properties.2]
    · cases found
  · intro key batch found
    simp only [buildBatches] at found
    split at found
    · rw [← Option.some.inj found]
      rw [Drawn, primitivesOf]
      dsimp only
      congr 1
      symm
      rw [filter_eq_self]
      intro record member
      exact (mem_filter.mp member).2
    · cases found

/-- The scene of `loadSnapshot` before objects are loaded. -/
def indexed (scene : OsgScene) (snapshot : SceneSnapshot) : OsgScene :=
  { scene.clear with
    layers := indexBy LayerRecord.layerId snapshot.layers
    pendingObjects := some snapshot.objects
    loadedObjectIds := ∅
    objectIndexById := indexBy ObjectRecord.objectId snapshot.objects
    spatialIndex := if scene.frustumCullingEnabled ∧ objectBoxes snapshot.objects ≠ [] then
        build (objectBoxes snapshot.objects) 6 else scene.spatialIndex }

/-- The scene of `loadSnapshot` before batches are built. -/
def loadedFrom (scene : OsgScene) (snapshot : SceneSnapshot) : OsgScene :=
  if scene.lazyLoadEnabled then (scene.indexed snapshot).ensureObjectsInFrustum
  else snapshot.objects.foldl loadAll (scene.indexed snapshot)

lemma loadSnapshot_eq (scene : OsgScene) (snapshot : SceneSnapshot) :
    scene.loadSnapshot snapshot = (scene.loadedFrom snapshot).buildBatches snapshot.objects := rfl

lemma loadedFrom_rest (scene : OsgScene) (snapshot : SceneSnapshot) :
    (scene.loadedFrom snapshot).rest = (scene.indexed snapshot).rest := by
  unfold loadedFrom
  split
  · exact ensure_rest _
  · exact foldl_rest loadAll_rest _ _

lemma indexed_index (scene : OsgScene) (snapshot : SceneSnapshot) :
    (scene.indexed snapshot).IndexFiled :=
  fun _ _ found => indexBy_some found

lemma indexed_nodes (scene : OsgScene) (snapshot : SceneSnapshot) :
    (scene.indexed snapshot).NodesFiled := by
  intro id record visible found
  cases found

lemma loadedFrom_nodes (scene : OsgScene) (snapshot : SceneSnapshot) :
    (scene.loadedFrom snapshot).NodesFiled := by
  unfold loadedFrom
  split
  · exact ensure_nodes (indexed_index scene snapshot) (indexed_nodes scene snapshot)
  · exact foldl_loadAll_nodes _ (indexed_nodes scene snapshot) fun object member => member

lemma loadSnapshot_consistent (scene : OsgScene) (snapshot : SceneSnapshot)
    (unique : snapshot.UniqueIds) : (scene.loadSnapshot snapshot).Consistent := by
  have same := loadedFrom_rest scene snapshot
  have records : (scene.loadedFrom snapshot).records = snapshot.objects := records_rest same
  have index := index_rest same
  rw [loadSnapshot_eq, ← records]
  apply buildBatches_consistent
  · rw [records]
    exact unique
  · intro id record found
    rw [index] at found
    rw [records]
    exact indexBy_some found
  · exact loadedFrom_nodes scene snapshot

lemma after_consistent (call : OsgCall) (unique : call.UniqueIds) (consistent : scene.Consistent) :
    (scene.after call).Consistent := by
  cases call with
  | loadSnapshot snapshot => exact loadSnapshot_consistent scene snapshot unique
  | updateFrustum frustum =>
    rw [after, updateFrustum]
    split
    · exact ⟨⟨consistent.filed.unique, consistent.filed.index, consistent.filed.keys,
        consistent.filed.nodes, consistent.filed.batches⟩, consistent.synced⟩
    · exact consistent
  | ensureObjectsInFrustum => exact ensure_consistent consistent
  | setObjectVisible id visible => exact setObjectVisible_consistent consistent id visible
  | setLayerVisible layerId visible => exact setLayerVisible_consistent consistent layerId visible
  | setSelectedObject id => exact setSelectedObject_consistent consistent id
  | removeObjectsById ids => exact removeObjectsById_consistent consistent ids

lemma new_consistent (frustum : Frustum ℚ) (culling lazy : Bool) :
    (new frustum culling lazy).Consistent where
  filed :=
    { unique := nodup_nil
      index := fun _ _ found => absurd found (some_ne_none _).symm
      keys := fun _ _ found => absurd found (some_ne_none _).symm
      nodes := fun _ _ _ found => absurd found (some_ne_none _).symm
      batches := fun _ _ found => absurd found (some_ne_none _).symm }
  synced := fun _ _ found => absurd found (some_ne_none _).symm

lemma run_consistent (frustum : Frustum ℚ) (culling lazy : Bool) (calls : List OsgCall)
    (unique : ∀ call ∈ calls, call.UniqueIds) :
    (run after (new frustum culling lazy) calls).Consistent := by
  have keeps : ∀ (scene : OsgScene) (call : OsgCall), call.UniqueIds → scene.Consistent →
      (scene.after call).Consistent := fun _ call => after_consistent call
  exact run_invariant keeps unique (new_consistent frustum culling lazy)

end OsgScene

end OpenRoad.Viewer
