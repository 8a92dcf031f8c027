import OpenRoad.Viewer.IncrementalScene
import OpenRoad.Viewer.UserVisibility

/-! What a new scene draws of a snapshot: every record once, in its batch or as its node. -/

namespace OpenRoad.Viewer

open OpenRoad.Lib List Session OsgScene LayerRecord

abbrev Layers := String → Option LayerRecord

def wanted (layers : Layers) (object : ObjectRecord) : Option BatchKey :=
  if object.batched = true ∧ (layers object.layerId).isSome then some object.key else none

def nodeVisible (layers : Layers) (object : ObjectRecord) : Bool :=
  (layers object.layerId).all LayerRecord.visible && object.visible

def expectedNode (layers : Layers) (objects : List ObjectRecord) (id : String) :
    Option ObjectRecord :=
  match objects.find? fun object => object.objectId = id with
  | some object =>
    if object.batched = false ∧ nodeVisible layers object = true then some object.look else none
  | none => none

def wantedAt (layers : Layers) (objects : List ObjectRecord) (key : BatchKey) :
    List ObjectRecord :=
  objects.filter fun object => wanted layers object = some key

def solid (records : List ObjectRecord) : List ObjectRecord :=
  (records.filter fun record => triangles record ≠ 0).map ObjectRecord.look

def expectedBatch (layers : Layers) (objects : List ObjectRecord) (key : BatchKey) :
    List ObjectRecord :=
  solid (wantedAt layers objects key)

variable {layers : Layers} {objects : List ObjectRecord} {object record : ObjectRecord}
  {key : BatchKey} {id : String}

lemma wanted_some (belongs : wanted layers object = some key) :
    object.batched = true ∧ (layers object.layerId).isSome ∧ key = object.key := by
  unfold wanted at belongs
  split at belongs
  · rename_i both
    exact ⟨both.1, both.2, (Option.some.inj belongs).symm⟩
  · cases belongs

lemma find_record (unique : (ids objects).Nodup) (there : record ∈ objects) :
    objects.find? (fun object => object.objectId = record.objectId) = some record := by
  cases search : objects.find? (fun object => object.objectId = record.objectId) with
  | none =>
    have never := find?_eq_none.mp search record there
    simp at never
  | some found =>
    have sameId : found.objectId = record.objectId := by simpa using find?_some search
    rw [record_unique unique (mem_of_find?_eq_some search) there sameId]

lemma find_absent (absent : id ∉ ids objects) :
    objects.find? (fun object => object.objectId = id) = none := by
  rw [find?_eq_none]
  intro object there same
  simp only [decide_eq_true_eq] at same
  exact absent (mem_map.mpr ⟨object, there, same⟩)

lemma triangles_look (record : ObjectRecord) : triangles record.look = triangles record :=
  rfl

lemma wanted_look (layers : Layers) (record : ObjectRecord) :
    wanted layers record.look = wanted layers record := rfl

lemma solid_map_look (records : List ObjectRecord) :
    solid (records.map ObjectRecord.look) = solid records := by
  unfold solid
  rw [filter_map, map_map]
  rfl

lemma batchLook_primitives (records : List ObjectRecord) :
    batchLook (records.map fun record => (record, triangles record)) = solid records := by
  unfold batchLook solid
  rw [filter_map, map_map]
  rfl

section Fresh

variable (frustum : Frustum ℚ) (culling : Bool) (layerList : List LayerRecord)

lemma addSceneObject_fresh (scene : OsgScene) (object : ObjectRecord) :
    (scene.addSceneObject object).objectsById object.objectId =
      some ⟨some object, nodeVisible scene.layers object⟩ := by
  simp only [addSceneObject, Function.update_self, nodeVisible]

lemma loadAll_other (scene : OsgScene) (different : id ≠ object.objectId) :
    (scene.loadAll object).objectsById id = scene.objectsById id ∧
      (scene.loadAll object).objectLayerById id = scene.objectLayerById id := by
  unfold loadAll
  split
  · exact ⟨rfl, rfl⟩
  · exact addSceneObject_other _ object different

lemma foldl_loadAll (objects : List ObjectRecord) (unique : (ids objects).Nodup)
    (scene : OsgScene) (id : String) :
    (objects.foldl loadAll scene).objectsById id =
        (match objects.find? fun object => object.objectId = id with
        | some object => if object.batched then scene.objectsById id
          else some ⟨some object, nodeVisible scene.layers object⟩
        | none => scene.objectsById id) ∧
      (objects.foldl loadAll scene).objectLayerById id =
        (match objects.find? fun object => object.objectId = id with
        | some object => if object.batched then scene.objectLayerById id else some object.layerId
        | none => scene.objectLayerById id) := by
  induction objects generalizing scene with
  | nil => exact ⟨rfl, rfl⟩
  | cons object objects ih =>
    rcases nodup_cons.mp unique with ⟨absent, rest⟩
    have layers : (scene.loadAll object).layers = scene.layers := by
      have shown := congrArg OsgScene.layers (loadAll_rest scene object)
      exact shown
    rw [foldl_cons, (ih rest _).1, (ih rest _).2, layers]
    by_cases same : object.objectId = id
    · subst same
      rw [find_absent absent, find?_cons_of_pos (by simp)]
      dsimp only
      unfold loadAll
      split
      · exact ⟨rfl, rfl⟩
      · exact ⟨addSceneObject_fresh _ object, Function.update_self _ _ _⟩
    · have others := @loadAll_other object id scene (Ne.symm same)
      rw [find?_cons_of_neg (by simpa using same), others.1, others.2]
      exact ⟨rfl, rfl⟩

def freshLoaded (objects : List ObjectRecord) : OsgScene :=
  (new frustum culling false).loadedFrom ⟨layerList, objects⟩

lemma fresh_eq (objects : List ObjectRecord) :
    freshScene frustum culling layerList objects =
      (freshLoaded frustum culling layerList objects).buildBatches objects := rfl

lemma freshLoaded_rest (objects : List ObjectRecord) :
    (freshLoaded frustum culling layerList objects).rest =
      ((new frustum culling false).indexed ⟨layerList, objects⟩).rest :=
  loadedFrom_rest _ _

lemma freshLoaded_layers (objects : List ObjectRecord) :
    (freshLoaded frustum culling layerList objects).layers =
      indexBy layerId layerList :=
  loadedFrom_layers _ _

lemma freshLoaded_hidden (objects : List ObjectRecord) :
    (freshLoaded frustum culling layerList objects).hiddenObjects = fun _ => false := by
  have same := hidden_rest (freshLoaded_rest frustum culling layerList objects)
  exact same

lemma freshLoaded_index (objects : List ObjectRecord) :
    (freshLoaded frustum culling layerList objects).objectIndexById =
      indexBy ObjectRecord.objectId objects := by
  have same := index_rest (freshLoaded_rest frustum culling layerList objects)
  exact same

lemma freshScene_objectsById (id : String) :
    (freshScene frustum culling layerList objects).objectsById id =
      match (freshLoaded frustum culling layerList objects).objectsById id,
        (freshScene frustum culling layerList objects).objectIdToBatchKey id with
      | none, some _ => some ⟨none, true⟩
      | found, _ => found := rfl

lemma freshScene_objectLayerById (id : String) :
    (freshScene frustum culling layerList objects).objectLayerById id =
      match (freshLoaded frustum culling layerList objects).objectsById id,
        (freshScene frustum culling layerList objects).objectIdToBatchKey id with
      | none, some found => some found.layerId
      | _, _ => (freshLoaded frustum culling layerList objects).objectLayerById id := rfl

section

variable (unique : (ids objects).Nodup)
include unique

lemma indexBy_record (there : record ∈ objects) :
    indexBy ObjectRecord.objectId objects record.objectId = some record := by
  have entry : (indexBy ObjectRecord.objectId objects record.objectId).isSome :=
    indexBy_isSome there
  rcases Option.isSome_iff_exists.mp entry with ⟨found, isFound⟩
  have its := indexBy_some isFound
  rw [isFound, record_unique unique its.1 there its.2]

lemma fresh_keys (id : String) :
    (freshScene frustum culling layerList objects).objectIdToBatchKey id =
      (objects.find? fun object => object.objectId = id).bind
        (wanted (indexBy layerId layerList)) := by
  rw [fresh_eq]
  change (freshLoaded frustum culling layerList objects).batchKeyOf objects id = _
  cases found : objects.find? fun object => object.objectId = id with
  | none =>
    have none : objects.find? (fun object => object.batched && decide (object.objectId = id)) =
        Option.none := by
      rw [find?_eq_none]
      intro object there both
      simp only [Bool.and_eq_true] at both
      exact find?_eq_none.mp found object there both.2
    simp only [batchKeyOf, none, Option.bind_eq_bind, Option.bind_none]
  | some object =>
    have there := mem_of_find?_eq_some found
    have sameId : object.objectId = id := by simpa using find?_some found
    subst sameId
    have hidden := congrFun (freshLoaded_hidden frustum culling layerList objects) object.objectId
    have layers := freshLoaded_layers frustum culling layerList objects
    have index : ((freshLoaded frustum culling layerList objects).objectIndexById
        object.objectId).isSome := by
      rw [freshLoaded_index, indexBy_record unique there]
      rfl
    have uniqueIds : (SceneSnapshot.mk layerList objects).UniqueIds := unique
    rw [Option.bind_some, ← layers]
    cases belongs : wanted (freshLoaded frustum culling layerList objects).layers object with
    | none =>
      cases key : (freshLoaded frustum culling layerList objects).batchKeyOf objects
          object.objectId with
      | none => rfl
      | some found =>
        have its := batchKeyOf_record uniqueIds there key
        rw [wanted, if_pos ⟨its.1, its.2.2.2⟩] at belongs
        cases belongs
    | some key =>
      have its := wanted_some belongs
      rw [its.2.2]
      exact batchKeyOf_filed uniqueIds there its.1 hidden index its.2.1

lemma fresh_entry (id : String) :
    (freshScene frustum culling layerList objects).objectsById id =
      match objects.find? fun object => object.objectId = id with
      | some object =>
        if object.batched then
          (wanted (indexBy layerId layerList) object).map fun _ => ⟨none, true⟩
        else some ⟨some object, nodeVisible (indexBy layerId layerList) object⟩
      | none => none := by
  have loaded := (foldl_loadAll objects unique
    ((new frustum culling false).indexed ⟨layerList, objects⟩) id).1
  have keys := fresh_keys frustum culling layerList unique id
  rw [freshScene_objectsById, keys]
  change (freshLoaded frustum culling layerList objects).objectsById id = _ at loaded
  rw [loaded]
  cases objects.find? fun object => object.objectId = id with
  | none => rfl
  | some object =>
    cases batched : object.batched with
    | true =>
      simp only [batched, if_true, Option.bind_some]
      cases wanted (indexBy layerId layerList) object with
      | none => rfl
      | some key => rfl
    | false =>
      simp only [batched, Bool.false_eq_true, if_false]
      rfl

lemma fresh_layerOf (there : object ∈ objects) (single : object.batched = false) :
    (freshScene frustum culling layerList objects).objectLayerById object.objectId =
      some object.layerId := by
  have loaded := foldl_loadAll objects unique
    ((new frustum culling false).indexed ⟨layerList, objects⟩) object.objectId
  rw [find_record unique there] at loaded
  simp only [single, Bool.false_eq_true, if_false] at loaded
  have node : (freshLoaded frustum culling layerList objects).objectsById object.objectId = _ := loaded.1
  rw [freshScene_objectLayerById, node]
  exact loaded.2

lemma fresh_drawnNode (id : String) :
    (freshScene frustum culling layerList objects).drawnNode id =
      expectedNode (indexBy layerId layerList) objects id := by
  rw [drawnNode, fresh_entry frustum culling layerList unique, expectedNode]
  cases objects.find? fun object => object.objectId = id with
  | none => rfl
  | some object =>
    cases batched : object.batched with
    | true =>
      simp only [batched, if_true, Bool.true_eq_false, false_and, if_false]
      cases wanted (indexBy layerId layerList) object with
      | none => rfl
      | some key => rfl
    | false =>
      simp only [batched, Bool.false_eq_true, if_false, true_and]
      cases nodeVisible (indexBy layerId layerList) object with
      | true => rfl
      | false => rfl

lemma fresh_group (key : BatchKey) :
    (freshLoaded frustum culling layerList objects).groupObjects objects key =
      objects.filter fun object => object.batched && object.key = key := by
  rw [groupObjects, freshLoaded_index]
  have each : ∀ object ∈ objects.filter fun object => object.batched && object.key = key,
      indexBy ObjectRecord.objectId objects object.objectId = some object :=
    fun object member => indexBy_record unique (mem_filter.mp member).1
  change (objects.filter fun object => object.batched && object.key = key).filterMap _ = _
  rw [filterMap_congr each, filterMap_some]

lemma fresh_batch (key : BatchKey) :
    (freshScene frustum culling layerList objects).layerBatches key =
      let kept := wantedAt (indexBy layerId layerList) objects key
      if ∃ object ∈ kept, triangles object ≠ 0 then
        some ⟨kept, kept.map fun object => (object, triangles object), true⟩
      else none := by
  have layers := freshLoaded_layers frustum culling layerList objects
  have hidden := freshLoaded_hidden frustum culling layerList objects
  rw [fresh_eq]
  simp only [buildBatches, fresh_group frustum culling layerList unique, layers, hidden,
    Bool.not_false, filter_true]
  by_cases known : (indexBy layerId layerList key.layerId).isSome = true
  · have same : (objects.filter fun object => object.batched && object.key = key) =
        wantedAt (indexBy layerId layerList) objects key := by
      apply filter_congr
      intro object _
      rw [Bool.eq_iff_iff]
      simp only [Bool.and_eq_true, decide_eq_true_eq]
      constructor
      · rintro ⟨batched, rfl⟩
        rw [wanted, if_pos ⟨batched, known⟩]
      · intro belongs
        have its := wanted_some belongs
        exact ⟨its.1, its.2.2.symm⟩
    rw [same]
    simp only [known, true_and]
  · have none : wantedAt (indexBy layerId layerList) objects key = [] := by
      rw [wantedAt, filter_eq_nil_iff]
      intro object _ belongs
      have its := wanted_some (by simpa using belongs)
      rw [its.2.2] at known
      exact known its.2.1
    rw [none, if_neg (fun both => known both.1), if_neg]
    rintro ⟨object, member, _⟩
    cases member

omit unique in
lemma solid_nil_iff (records : List ObjectRecord) :
    solid records = [] ↔ ∀ record ∈ records, triangles record = 0 := by
  rw [solid, map_eq_nil_iff, filter_eq_nil_iff]
  simp only [decide_eq_true_eq, not_not]

lemma fresh_drawnBatch (key : BatchKey) :
    (freshScene frustum culling layerList objects).drawnBatch key =
      expectedBatch (indexBy layerId layerList) objects key := by
  rw [drawnBatch, fresh_batch frustum culling layerList unique, expectedBatch]
  dsimp only
  split
  · rename_i batch isBatch
    split at isBatch
    · rw [← Option.some.inj isBatch]
      exact batchLook_primitives _
    · cases isBatch
  · rename_i missing
    split at missing
    · cases missing
    · rename_i nothing
      symm
      rw [solid_nil_iff]
      intro record member
      by_contra drawn
      exact nothing ⟨record, member, drawn⟩

end

end Fresh

end OpenRoad.Viewer
