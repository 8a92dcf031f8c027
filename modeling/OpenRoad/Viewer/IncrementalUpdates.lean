import OpenRoad.Viewer.IncrementalBatches
import OpenRoad.Viewer.LazyLoading

/-! Incremental updates against reloading: what calls keep of the agreement with a new scene. -/

namespace OpenRoad.Viewer

open OpenRoad.Lib OsgScene List PtrScene Session List
open PtrScene hiding drawnBatch drawnNode isLayerVisible removeObjectsById

/-- An update that the scene follows: objects stay where their ids are filed. -/
structure Session.KeepsUpdate (session : Session) (objects : List ObjectRecord) : Prop where
  belongs : ∀ object ∈ objects, session.scene.objectIdToBatchKey object.objectId =
    wanted session.scene.layers object
  batches : ∀ object ∈ objects, ∀ key, session.scene.objectIdToBatchKey object.objectId = some key →
      match session.scene.layerBatches.lookup key with
      | none => triangles object = 0
      | some batch =>
        batch.objects = slotsOf session.buffer
            (fun id => session.scene.objectIdToBatchKey id = some key) 0
            (ids session.backend.objects) ∧
          ((ids session.backend.objects).toFinset ∪ (ids objects).toFinset).card ≤ session.capacity
  flags : ∀ id flag,
    lastFlag (session.backend.updateLoop objects).visibilityOnlyUpdates id = some flag →
      match session.scene.objectIdToBatchKey id with
      | some _ => flag = true
      | none => ∀ object, indexBy ObjectRecord.objectId objects id = some object →
        object.batched = false → flag = object.visible

/-- A removal that the scene follows: of objects in no batch, while every batch points to slots that
are still there after it. -/
structure Session.KeepsRemoval (session : Session) (objectIds : List String) : Prop where
  unfiled : ∀ id ∈ objectIds, session.scene.objectIdToBatchKey id = none
  slots : objectIds ≠ [] → ∀ entry ∈ session.scene.layerBatches, ∀ op ∈ entry.2.objects,
    ∃ slot, op = .slot session.buffer slot ∧
      slot < (session.backend.removeObjects objectIds).objects.length

def Session.KeepsDrawn (state : Option Session) (call : UpdateCall) : Prop :=
  ∀ session, state = some session → match call with
    | .updateObjects objects => session.KeepsUpdate objects
    | .removeObjects objectIds => session.KeepsRemoval objectIds

def PtrScene.NoNode (scene : PtrScene) (id : String) : Prop :=
  ∀ record visible, scene.objectsById id ≠ some ⟨some record, visible⟩

def PtrScene.HasNode (scene : PtrScene) (object : ObjectRecord) : Prop :=
  ∃ record, scene.objectsById object.objectId =
      some ⟨some record, nodeVisible scene.layers object⟩ ∧
    record.look = object.look ∧ scene.objectLayerById object.objectId = some object.layerId

/-- What allowed calls keep, for these records. -/
structure PtrScene.Shows (scene : PtrScene) (objects : List ObjectRecord) : Prop where
  keys : ∀ id, scene.objectIdToBatchKey id =
    (objects.find? fun object => object.objectId = id).bind (wanted scene.layers)
  nodes : ∀ object ∈ objects, object.batched = false → scene.HasNode object
  others : ∀ id, (∀ object ∈ objects, object.objectId = id → object.batched = true) →
    scene.NoNode id
  shown : ∀ id key, scene.objectIdToBatchKey id = some key → scene.hiddenObjects id = false
  batches : ∀ key, match scene.layerBatches.lookup key with
    | none => expectedBatch scene.layers objects key = []
    | some batch => batch.nodeMask = true ∧
      batchLook batch.primitives = expectedBatch scene.layers objects key

structure Session.Kept (session : Session) : Prop where
  unique : (ids session.backend.objects).Nodup
  layers : session.scene.layers = indexBy LayerRecord.layerId session.layers
  shows : session.scene.Shows session.backend.objects

variable {scene : PtrScene} {objects : List ObjectRecord} {object record : ObjectRecord}
  {id : String} {key : BatchKey} {session : Session}

lemma keys_record (shows : scene.Shows objects) (unique : (ids objects).Nodup)
    (there : object ∈ objects) :
    scene.objectIdToBatchKey object.objectId = wanted scene.layers object := by
  rw [shows.keys, find_record unique there]
  rfl

lemma keys_absent (shows : scene.Shows objects) (absent : id ∉ ids objects) :
    scene.objectIdToBatchKey id = none := by
  rw [shows.keys, find_absent absent]
  rfl

lemma noNode_drawn (noNode : scene.NoNode id) : scene.drawnNode id = none := by
  unfold PtrScene.drawnNode nodeLook
  split
  · rename_i record found
    exact absurd found (noNode record true)
  · rfl

lemma hasNode_drawn (node : scene.HasNode object) : scene.drawnNode object.objectId =
      if nodeVisible scene.layers object = true then some object.look else none := by
  rcases node with ⟨record, found, looks, _⟩
  rw [PtrScene.drawnNode, found, ← looks]
  cases nodeVisible scene.layers object with
  | true => rfl
  | false => rfl

lemma shows_drawnNode (shows : scene.Shows objects) (unique : (ids objects).Nodup) (id : String) :
    scene.drawnNode id = expectedNode scene.layers objects id := by
  rw [expectedNode]
  cases found : objects.find? fun object => object.objectId = id with
  | none =>
    apply noNode_drawn (shows.others id _)
    intro object there same
    exact absurd (decide_eq_true same) (find?_eq_none.mp found object there)
  | some object =>
    have there := mem_of_find?_eq_some found
    have sameId : object.objectId = id := by simpa using find?_some found
    subst sameId
    cases batched : object.batched with
    | true =>
      simp only [batched, Bool.true_eq_false, false_and, if_false]
      apply noNode_drawn (shows.others object.objectId _)
      intro other isThere same
      rw [record_unique unique isThere there same]
      exact batched
    | false =>
      rw [hasNode_drawn (shows.nodes object there batched)]
      simp only [batched, true_and]

lemma shows_drawnBatch (shows : scene.Shows objects) (key : BatchKey) :
    scene.drawnBatch key = expectedBatch scene.layers objects key := by
  have batches := shows.batches key
  rw [PtrScene.drawnBatch]
  split at batches
  · rename_i missing
    rw [missing, batches]
  · rename_i batch found
    rw [found]
    dsimp only
    rw [if_pos batches.1, batches.2]

lemma kept_agrees (kept : session.Kept) (frustum : Frustum ℚ) (culling : Bool) :
    session.Agrees frustum culling := by
  constructor
  · intro id
    rw [shows_drawnNode kept.shows kept.unique, kept.layers,
      fresh_drawnNode frustum culling session.layers kept.unique]
  · intro key
    rw [shows_drawnBatch kept.shows, kept.layers,
      fresh_drawnBatch frustum culling session.layers kept.unique]

lemma lookup_filterMap {α : Type} (keys : List BatchKey) (value : BatchKey → Option α) (key : BatchKey) :
    (keys.filterMap fun key => (value key).map fun item => (key, item)).lookup key =
      if key ∈ keys then value key else none := by
  induction keys with
  | nil => rfl
  | cons first keys ih =>
    rw [filterMap_cons]
    cases found : value first with
    | none =>
      rw [Option.map_none]
      dsimp only
      rw [ih]
      by_cases same : key = first
      · subst same
        rw [found, ite_self, ite_self]
      · simp only [mem_cons, same, false_or]
    | some item =>
      rw [Option.map_some]
      dsimp only
      rw [lookup_cons, ih]
      by_cases same : key = first
      · subst same
        simp only [beq_self_eq_true, mem_cons, true_or, if_true, found]
      · have apart : (key == first) = false := by simpa using same
        simp only [apart, mem_cons, same, false_or]

lemma mem_batchKeys {layers : Layers} (member : object ∈ wantedAt layers objects key) :
    key ∈ batchKeys objects := by
  have its := mem_filter.mp member
  have belongs := wanted_some (of_decide_eq_true its.2)
  rw [batchKeys, mem_dedup, belongs.2.2]
  exact mem_map_of_mem (mem_filter.mpr ⟨its.1, belongs.1⟩)

lemma load_keys (frustum : Frustum ℚ) (culling : Bool) (layers : List LayerRecord)
    (objects : List ObjectRecord) (key : BatchKey) :
    let fresh := freshScene frustum culling layers objects
    let loaded := ofScene fresh objects 0
    (loaded.layerBatches.lookup key).map (fun batch => (batch.primitives, batch.nodeMask)) =
      if key ∈ batchKeys objects then
        (fresh.layerBatches key).map fun batch => (batch.primitives, batch.nodeMask)
      else none := by
  intro fresh loaded
  have looked := lookup_filterMap (batchKeys objects) (fun key =>
    (fresh.layerBatches key).map fun batch => PtrBatch.mk (batch.objects.filterMap fun object =>
      loaded.objectIndexById object.objectId) batch.primitives batch.nodeMask) key
  simp only [Option.map_map] at looked
  have lookup : loaded.layerBatches.lookup key = _ := looked
  rw [lookup]
  split
  · rw [Option.map_map]
    rfl
  · rfl

lemma load_kept (frustum : Frustum ℚ) (culling : Bool) (snapshot : SceneSnapshot)
    (unique : snapshot.UniqueIds) : (load frustum culling snapshot).Kept := by
  have uniqueIds : (ids snapshot.objects).Nodup := unique
  have layers : (load frustum culling snapshot).scene.layers =
      indexBy LayerRecord.layerId snapshot.layers :=
    freshLoaded_layers frustum culling snapshot.layers snapshot.objects
  have objects : (load frustum culling snapshot).backend.objects = snapshot.objects := rfl
  have entry : ∀ id, (load frustum culling snapshot).scene.objectsById id = _ :=
    fresh_entry frustum culling snapshot.layers uniqueIds
  refine ⟨uniqueIds, layers, ?_, ?_, ?_, ?_, ?_⟩
  · intro id
    rw [layers, objects]
    exact fresh_keys frustum culling snapshot.layers uniqueIds id
  · intro object there single
    refine ⟨object, ?_, rfl, fresh_layerOf frustum culling snapshot.layers uniqueIds there single⟩
    rw [entry, find_record uniqueIds there, layers]
    simp only [single, Bool.false_eq_true, if_false]
  · intro id batched record visible found
    rw [entry] at found
    split at found
    · rename_i object isFirst
      have sameId : object.objectId = id := by simpa using find?_some isFirst
      rw [batched object (mem_of_find?_eq_some isFirst) sameId, if_pos rfl] at found
      rcases Option.map_eq_some_iff.mp found with ⟨key, _, same⟩
      cases same
    · cases found
  · intro id _ _
    exact congrFun (freshLoaded_hidden frustum culling snapshot.layers snapshot.objects) id
  · intro key
    have loaded := load_keys frustum culling snapshot.layers snapshot.objects key
    have built := fresh_batch frustum culling snapshot.layers uniqueIds key
    have lookup : ((load frustum culling snapshot).scene.layerBatches.lookup key).map
        (fun batch => (batch.primitives, batch.nodeMask)) = _ := loaded
    rw [layers, objects]
    by_cases drawn : ∃ object ∈ wantedAt (indexBy LayerRecord.layerId snapshot.layers)
        snapshot.objects key, triangles object ≠ 0
    · have isKey : key ∈ batchKeys snapshot.objects := by
        rcases drawn with ⟨object, member, _⟩
        exact mem_batchKeys member
      rw [if_pos isKey, built] at lookup
      dsimp only at lookup
      rw [if_pos drawn, Option.map_some, Option.map_eq_some_iff] at lookup
      rcases lookup with ⟨batch, found, same⟩
      simp only [Prod.mk.injEq] at same
      rw [found]
      dsimp only
      rw [same.1, same.2, batchLook_primitives]
      exact ⟨rfl, rfl⟩
    · rw [built] at lookup
      dsimp only at lookup
      rw [if_neg drawn, Option.map_none, ite_self, Option.map_eq_none_iff] at lookup
      rw [lookup]
      dsimp only
      rw [expectedBatch, solid_nil_iff]
      intro record member
      by_contra solid
      exact drawn ⟨record, member, solid⟩

lemma filter_unchanged {before after : List ObjectRecord} (slots : ids before <+: ids after)
    (unique : (ids after).Nodup) (inside : String → Bool)
    (new : ∀ id ∈ ids after, id ∉ ids before → inside id = false)
    (same : ∀ record ∈ after, inside record.objectId = true →
      ∀ old ∈ before, old.objectId = record.objectId → record = old) :
    (after.filter fun record => inside record.objectId) =
      before.filter fun record => inside record.objectId := by
  induction before generalizing after with
  | nil =>
    rw [filter_nil, filter_eq_nil_iff]
    intro record member
    rw [new record.objectId (mem_map_of_mem member) not_mem_nil]
    exact Bool.false_ne_true
  | cons old before ih =>
    cases after with
    | nil => exact absurd (prefix_nil.mp slots) (by simp)
    | cons record after =>
      rcases cons_prefix_cons.mp slots with ⟨sameId, rest⟩
      rcases nodup_cons.mp unique with ⟨absent, uniqueRest⟩
      have tail := ih rest uniqueRest (by
        intro id member outside
        apply new id (mem_cons_of_mem _ member)
        rw [ids, map_cons, mem_cons, not_or]
        refine ⟨?_, outside⟩
        rintro rfl
        rw [sameId] at member
        exact absent member) (fun other member isInside first isOld =>
          same other (mem_cons_of_mem record member) isInside first
            (mem_cons_of_mem old isOld))
      rw [filter_cons, filter_cons, tail, ← sameId]
      by_cases isInside : inside old.objectId = true
      · rw [if_pos isInside, if_pos isInside]
        rw [same record mem_cons_self (sameId ▸ isInside) old mem_cons_self sameId]
      · rw [if_neg isInside, if_neg isInside]

lemma wantedAt_filed {layers : Layers} {filed : String → Option BatchKey}
    (belongs : ∀ object ∈ objects, filed object.objectId = wanted layers object) (key : BatchKey) :
    wantedAt layers objects key = objects.filter fun object => filed object.objectId = some key := by
  apply filter_congr
  intro object there
  rw [belongs object there]

section Update

variable {updates : List ObjectRecord} {loop : UpdateLoop}

def Touched (session : Session) (updates : List ObjectRecord) (key : BatchKey) : Prop :=
  ∃ object ∈ updates, session.scene.objectIdToBatchKey object.objectId = some key

lemma source_cases {before : List ObjectRecord} (revises : loop.Revises before updates)
    (there : record ∈ loop.objects) :
    (∃ full ∈ updates, full.objectId = record.objectId ∧
      indexBy ObjectRecord.objectId loop.fullUpdates record.objectId = some full ∧
      record.look = full.look ∧
      (lastFlag loop.visibilityOnlyUpdates record.objectId = none → record = full)) ∨
    (indexBy ObjectRecord.objectId loop.fullUpdates record.objectId = none ∧
      ∃ old ∈ before, old.objectId = record.objectId ∧ record.look = old.look ∧
        (lastFlag loop.visibilityOnlyUpdates record.objectId = none → record = old)) := by
  rcases revises.source record there with ⟨source, isSource, looks, same⟩
  rw [origin] at isSource
  cases found : indexBy ObjectRecord.objectId loop.fullUpdates record.objectId with
  | some full =>
    rw [found, Option.some_or] at isSource
    rw [← Option.some.inj isSource] at looks same
    have its := indexBy_some found
    exact Or.inl ⟨full, revises.fulls full its.1, its.2, rfl, looks, same⟩
  | none =>
    rw [found, Option.none_or] at isSource
    refine Or.inr ⟨rfl, source, mem_of_find?_eq_some isSource, ?_, looks, same⟩
    simpa using find?_some isSource

lemma wanted_congr {layers : Layers} (looks : record.look = object.look) :
    wanted layers record = wanted layers object := by
  rw [← wanted_look layers record, looks, wanted_look]

variable (kept : session.Kept) (keeps : session.KeepsUpdate updates)
  (revises : loop.Revises session.backend.objects updates)

include kept keeps revises

lemma update_belongs : ∀ record ∈ loop.objects,
    session.scene.objectIdToBatchKey record.objectId = wanted session.scene.layers record := by
  intro record there
  rcases source_cases revises there with ⟨full, member, sameId, _, looks, _⟩ |
    ⟨_, old, member, sameId, looks, _⟩
  · rw [wanted_congr looks, ← sameId]
    exact keeps.belongs full member
  · rw [wanted_congr looks, ← sameId]
    exact keys_record kept.shows kept.unique member

omit kept keeps in
lemma update_untouched (noFull : ∀ full ∈ loop.fullUpdates,
      session.scene.objectIdToBatchKey full.objectId ≠ some key)
    (noFlag : ∀ change ∈ loop.visibilityOnlyUpdates,
      session.scene.objectIdToBatchKey change.1 ≠ some key)
    (there : record ∈ loop.objects)
    (filedAt : session.scene.objectIdToBatchKey record.objectId = some key) :
    record ∈ session.backend.objects := by
  rcases source_cases revises there with ⟨full, _, sameId, isLast, _⟩ | ⟨_, old, member, _, _, same⟩
  · exact absurd (sameId ▸ filedAt) (noFull full (indexBy_some isLast).1)
  · have unflagged : lastFlag loop.visibilityOnlyUpdates record.objectId = none := by
      rw [lastFlag, Option.map_eq_none_iff]
      cases found : indexBy Prod.fst loop.visibilityOnlyUpdates record.objectId with
      | none => rfl
      | some change =>
        have its := indexBy_some found
        exact absurd (its.2 ▸ filedAt) (noFlag change its.1)
    rw [same unflagged]
    exact member

lemma update_wantedAt (noFull : ∀ full ∈ loop.fullUpdates,
      session.scene.objectIdToBatchKey full.objectId ≠ some key)
    (noFlag : ∀ change ∈ loop.visibilityOnlyUpdates,
      session.scene.objectIdToBatchKey change.1 ≠ some key) :
    wantedAt session.scene.layers loop.objects key =
      wantedAt session.scene.layers session.backend.objects key := by
  rw [wantedAt_filed (update_belongs kept keeps revises),
    wantedAt_filed fun object there => keys_record kept.shows kept.unique there]
  apply filter_unchanged revises.slots revises.sound.nodup
    (fun id => session.scene.objectIdToBatchKey id = some key)
  · intro id _ absent
    rw [keys_absent kept.shows absent]
    rfl
  · intro record there inside old isOld sameId
    have isRecord := update_untouched revises noFull noFlag there (of_decide_eq_true inside)
    exact record_unique kept.unique isRecord isOld sameId.symm

omit kept keeps in
lemma update_fits (fits : ((ids session.backend.objects).toFinset ∪ (ids updates).toFinset).card ≤
    session.capacity) : loop.objects.length ≤ session.capacity := by
  have sameIds : (ids loop.objects).toFinset =
      (ids session.backend.objects).toFinset ∪ (ids updates).toFinset := by
    ext id
    rw [Finset.mem_union, mem_toFinset, mem_toFinset, mem_toFinset]
    exact revises.known id
  rw [← sameIds, toFinset_card_of_nodup revises.sound.nodup, length_map] at fits
  exact fits

lemma update_denotes {buffer : Nat} (stays : loop.objects.length ≤ session.capacity →
    buffer = session.buffer) {batch : PtrBatch} (touched : Touched session updates key)
    (found : session.scene.layerBatches.lookup key = some batch) :
    Denotes (memory loop.objects buffer session.calls loop.fullUpdates) batch.objects
      (wantedAt session.scene.layers loop.objects key) := by
  rcases touched with ⟨object, member, filedAt⟩
  have batches := keeps.batches object member key filedAt
  rw [found] at batches
  rcases revises.slots with ⟨extra, together⟩
  have unique := revises.sound.nodup
  rw [← together] at unique
  have slots : slotsOf session.buffer (fun id => session.scene.objectIdToBatchKey id = some key) 0
      (ids loop.objects) = batch.objects := by
    rw [← together, batches.1]
    apply slotsOf_append
    intro id isExtra
    have absent : id ∉ ids session.backend.objects :=
      fun inside => (nodup_append.mp unique).2.2 id inside id isExtra rfl
    rw [keys_absent kept.shows absent]
    rfl
  rw [← slots, stays (update_fits revises batches.2),
    wantedAt_filed (update_belongs kept keeps revises)]
  exact denotes_slots [] loop.objects session.buffer session.calls loop.fullUpdates
    (fun id => session.scene.objectIdToBatchKey id = some key)

variable {mem : Memory} {upsertedScene next : PtrScene}
  (upserted : PtrScene.UpsertedAll mem (Touched session updates)
    (wantedAt session.scene.layers loop.objects) session.scene loop.fullUpdates upsertedScene)
  (flagged : PtrScene.Flagged (fun key => (wantedAt session.scene.layers loop.objects key).map
    (PtrScene.latest loop.fullUpdates)) upsertedScene loop.visibilityOnlyUpdates next)

include upserted flagged

omit kept keeps revises in
lemma next_layers : next.layers = session.scene.layers := flagged.layers.trans upserted.layers

omit kept keeps revises in
lemma next_keys : next.objectIdToBatchKey = session.scene.objectIdToBatchKey :=
  flagged.keys.trans upserted.keys

lemma next_find (id : String) : next.objectIdToBatchKey id =
    (loop.objects.find? fun object => object.objectId = id).bind (wanted next.layers) := by
  rw [next_keys upserted flagged, next_layers upserted flagged]
  cases found : loop.objects.find? fun object => object.objectId = id with
  | none =>
    apply keys_absent kept.shows
    intro inside
    have member := (revises.known id).mpr (Or.inl inside)
    rcases mem_map.mp member with ⟨object, there, sameId⟩
    exact find?_eq_none.mp found object there (decide_eq_true sameId)
  | some record =>
    have sameId : record.objectId = id := by simpa using find?_some found
    rw [← sameId]
    exact update_belongs kept keeps revises record (mem_of_find?_eq_some found)

omit kept revises in
lemma next_shown (filedAt : next.objectIdToBatchKey id = some key) (shown : ∀ id key,
    session.scene.objectIdToBatchKey id = some key → session.scene.hiddenObjects id = false)
    (loopOf : loop = session.backend.updateLoop updates) : next.hiddenObjects id = false := by
  rw [next_keys upserted flagged] at filedAt
  have hidden := flagged.hidden id key (by rw [upserted.keys]; exact filedAt)
  rw [hidden]
  split
  · rename_i flag last
    have flags := keeps.flags id flag (by rw [← loopOf]; exact last)
    rw [filedAt] at flags
    rw [flags]
    rfl
  · rw [upserted.hidden]
    exact shown id key filedAt

omit kept keeps revises upserted in
lemma next_noNode (noNode : upsertedScene.NoNode id) : next.NoNode id := by
  intro record visible found
  cases filedAt : upsertedScene.objectIdToBatchKey id with
  | some key =>
    rcases flagged.placeholders id key filedAt with missing | same
    · rw [missing] at found
      cases found
    · rw [same] at found
      exact noNode record visible found
  | none =>
    rw [(flagged.entries id filedAt).1] at found
    rcases flaggedEntry_some found with ⟨old, isOld, sameNode⟩
    rcases old with ⟨node, shown⟩
    dsimp only at sameNode
    rw [← sameNode] at isOld
    exact noNode record shown isOld

omit keeps in
lemma next_others (batched : ∀ object ∈ loop.objects, object.objectId = id →
    object.batched = true) : next.NoNode id := by
  apply next_noNode flagged
  intro record visible found
  have entry := upserted.entries id
  rw [found] at entry
  split at entry
  · rename_i full isLast
    have its := indexBy_some isLast
    have inside : id ∈ ids loop.objects := by
      apply (revises.known id).mpr
      rw [← its.2]
      exact Or.inr (mem_map_of_mem (revises.fulls full its.1))
    rcases mem_map.mp inside with ⟨object, there, sameId⟩
    have isBatched := batched object there sameId
    rcases source_cases revises there with ⟨other, _, _, isOther, looks, _⟩ | ⟨missing, _⟩
    · rw [sameId, isLast] at isOther
      have same : full.batched = object.batched := by
        rw [Option.some.inj isOther]
        exact (congrArg ObjectRecord.batched looks).symm
      rw [upsertedEntry, same, isBatched, if_pos rfl] at entry
      cases entry
    · rw [sameId, isLast] at missing
      cases missing
  · rename_i noUpdate
    apply kept.shows.others id _ record visible entry.symm
    intro old isOld sameId
    have inside := (revises.known id).mpr (Or.inl (sameId ▸ mem_map_of_mem isOld))
    rcases mem_map.mp inside with ⟨object, there, isId⟩
    have isBatched := batched object there isId
    rcases source_cases revises there with ⟨full, _, _, isLast, _⟩ | ⟨_, other, isOther, same, looks, _⟩
    · rw [isId, noUpdate] at isLast
      cases isLast
    · have isOld' := record_unique kept.unique isOther isOld (same.trans (isId.trans sameId.symm))
      rw [← isOld']
      exact (congrArg ObjectRecord.batched looks).symm.trans isBatched

omit keeps flagged in
lemma upserted_node (there : record ∈ loop.objects) (single : record.batched = false) :
    ∃ source node, record.look = source.look ∧ node.look = source.look ∧
      (lastFlag loop.visibilityOnlyUpdates record.objectId = none → record = source) ∧
      upsertedScene.objectsById record.objectId =
        some ⟨some node, nodeVisible session.scene.layers source⟩ ∧
      upsertedScene.objectLayerById record.objectId = some source.layerId := by
  have entry := upserted.entries record.objectId
  have layerOf := upserted.layerOf record.objectId
  rcases source_cases revises there with ⟨full, _, _, isLast, looks, same⟩ |
    ⟨missing, old, isOld, sameId, looks, same⟩
  · rw [isLast] at entry layerOf
    have singleFull : full.batched = false :=
      (congrArg ObjectRecord.batched looks).symm.trans single
    dsimp only at entry layerOf
    rw [upsertedEntry, singleFull, if_neg Bool.false_ne_true] at entry
    exact ⟨full, full, looks, rfl, same, entry, layerOf singleFull⟩
  · rw [missing] at entry layerOf
    have singleOld : old.batched = false :=
      (congrArg ObjectRecord.batched looks).symm.trans single
    rcases kept.shows.nodes old isOld singleOld with ⟨node, isNode, nodeLooks, isLayer⟩
    rw [sameId] at isNode isLayer
    exact ⟨old, node, looks, nodeLooks, same, entry.trans isNode, layerOf.trans isLayer⟩

omit kept keeps upserted flagged in
lemma last_flag (keeps : session.KeepsUpdate updates)
    (loopOf : loop = session.backend.updateLoop updates) (there : record ∈ loop.objects)
    (single : record.batched = false) (unfiled : session.scene.objectIdToBatchKey record.objectId = none)
    {flag : Bool} (last : lastFlag loop.visibilityOnlyUpdates record.objectId = some flag) :
    flag = record.visible := by
  rcases Option.map_eq_some_iff.mp last with ⟨change, isChange, _⟩
  have its := indexBy_some isChange
  have updated : record.objectId ∈ ids updates := its.2 ▸ revises.changes change its.1
  rcases mem_map.mp updated with ⟨object, member, sameId⟩
  have entry : (indexBy ObjectRecord.objectId updates object.objectId).isSome :=
    indexBy_isSome member
  rw [sameId] at entry
  rcases Option.isSome_iff_exists.mp entry with ⟨final, isFinal⟩
  have same := revises.flags record there final isFinal
  have flags := keeps.flags record.objectId flag (by rw [← loopOf]; exact last)
  rw [unfiled] at flags
  rw [same.1]
  apply flags final isFinal
  rw [ObjectRecord.batched] at single ⊢
  rw [← same.2]
  exact single

lemma next_nodes (loopOf : loop = session.backend.updateLoop updates)
    (there : record ∈ loop.objects) (single : record.batched = false) : next.HasNode record := by
  have unfiled : session.scene.objectIdToBatchKey record.objectId = none := by
    rw [update_belongs kept keeps revises record there, wanted, if_neg]
    rw [single]
    exact fun both => Bool.false_ne_true both.1
  have entry := flagged.entries record.objectId (by rw [upserted.keys]; exact unfiled)
  rcases upserted_node kept revises upserted there single with
    ⟨source, node, looks, nodeLooks, same, isNode, isLayer⟩
  have sameLayer : record.layerId = source.layerId := by
    have shown := congrArg ObjectRecord.layerId looks
    exact shown
  refine ⟨node, ?_, nodeLooks.trans looks.symm, by rw [entry.2, isLayer, sameLayer]⟩
  rw [entry.1, flaggedEntry, next_layers upserted flagged]
  cases last : lastFlag loop.visibilityOnlyUpdates record.objectId with
  | none =>
    dsimp only
    rw [isNode, same last]
  | some flag =>
    dsimp only
    have isFlag := last_flag revises keeps loopOf there single unfiled last
    have onLayer : upsertedScene.isLayerVisible source.layerId =
        (session.scene.layers record.layerId).all LayerRecord.visible := by
      rw [PtrScene.isLayerVisible, upserted.layers, sameLayer]
      cases session.scene.layers source.layerId with
      | none => rfl
      | some layer => rfl
    rw [isNode, isLayer, Option.map_some, Option.all_some, onLayer, isFlag, Bool.and_comm]
    rfl

omit kept keeps upserted flagged in
lemma solid_latest : (wantedAt session.scene.layers loop.objects key).map
      (ObjectRecord.look ∘ latest loop.fullUpdates) =
    (wantedAt session.scene.layers loop.objects key).map ObjectRecord.look := by
  apply map_congr_left
  intro record member
  rw [Function.comp_apply, latest]
  rcases source_cases revises (mem_filter.mp member).1 with ⟨full, _, _, isLast, looks, _⟩ |
    ⟨missing, _⟩
  · rw [isLast, looks]
    rfl
  · rw [missing]
    rfl

omit flagged upserted in
lemma batchLook_rebuilt (hidden : String → Bool) (shown : ∀ id,
    session.scene.objectIdToBatchKey id = some key → hidden id = false) :
    batchLook (primitivesAs key.type hidden
        ((wantedAt session.scene.layers loop.objects key).map (latest loop.fullUpdates))) =
      expectedBatch session.scene.layers loop.objects key := by
  have same : primitivesAs key.type hidden
      ((wantedAt session.scene.layers loop.objects key).map (latest loop.fullUpdates)) =
      ((wantedAt session.scene.layers loop.objects key).map (latest loop.fullUpdates)).map
        fun record => (record, triangles record) := by
    have kind : ∀ record ∈ (wantedAt session.scene.layers loop.objects key).map
        (latest loop.fullUpdates), hidden record.objectId = false ∧ record.type = key.type := by
      intro record member
      rcases mem_map.mp member with ⟨first, isFirst, rfl⟩
      have its := mem_filter.mp isFirst
      have belongs := of_decide_eq_true its.2
      constructor
      · apply shown
        rw [latest_id, update_belongs kept keeps revises first its.1]
        exact belongs
      · have sameLook := map_inj_left.mp (solid_latest revises) first isFirst
        rw [(wanted_some belongs).2.2]
        have sameType := congrArg ObjectRecord.type sameLook
        exact sameType
    rw [primitivesAs, filter_eq_self.mpr]
    · apply map_congr_left
      intro record member
      rw [trianglesAs, ← (kind record member).2]
      rfl
    · intro record member
      rw [(kind record member).1]
      rfl
  rw [same, batchLook_primitives, ← solid_map_look, map_map, solid_latest revises, solid_map_look]
  rfl

lemma next_batches (loopOf : loop = session.backend.updateLoop updates) (key : BatchKey) :
    match next.layerBatches.lookup key with
    | none => expectedBatch next.layers loop.objects key = []
    | some batch => batch.nodeMask = true ∧
      batchLook batch.primitives = expectedBatch next.layers loop.objects key := by
  have old := kept.shows.batches key
  have after := upserted.batches key
  have last := flagged.batches key
  have shown := kept.shows.shown
  rw [next_layers upserted flagged]
  cases found : session.scene.layerBatches.lookup key with
  | none =>
    rw [found] at old after
    dsimp only at old after
    rw [after, Option.map_none] at last
    rw [last]
    dsimp only
    rw [expectedBatch, solid_nil_iff] at old ⊢
    intro record member
    have its := mem_filter.mp member
    rcases source_cases revises its.1 with ⟨full, isUpdate, sameId, _, looks, _⟩ |
      ⟨_, other, isOld, sameId, looks, _⟩
    · have filedAt : session.scene.objectIdToBatchKey full.objectId = some key := by
        rw [sameId, update_belongs kept keeps revises record its.1]
        exact of_decide_eq_true its.2
      have batches := keeps.batches full isUpdate key filedAt
      rw [found] at batches
      rw [← triangles_look, looks, triangles_look]
      exact batches
    · rw [← triangles_look, looks, triangles_look]
      apply old other
      rw [wantedAt, mem_filter, ← wanted_congr looks]
      exact ⟨isOld, its.2⟩
  | some batch =>
    rw [found] at old after
    rcases after with ⟨middle, isMiddle, mask, _, unreached, rebuilt⟩
    rw [isMiddle, Option.map_some] at last
    rw [last]
    dsimp only
    split
    · refine ⟨mask.trans old.1, ?_⟩
      exact batchLook_rebuilt kept keeps revises next.hiddenObjects fun id filedAt =>
        next_shown keeps upserted flagged
          (by rw [next_keys upserted flagged]; exact filedAt) shown loopOf
    · rename_i noFlag
      refine ⟨mask.trans old.1, ?_⟩
      by_cases reached : ∃ full ∈ loop.fullUpdates,
          session.scene.objectIdToBatchKey full.objectId = some key
      · rw [rebuilt reached]
        exact batchLook_rebuilt kept keeps revises _ fun id filedAt => shown id key filedAt
      · have noFull : ∀ full ∈ loop.fullUpdates,
            session.scene.objectIdToBatchKey full.objectId ≠ some key :=
          fun full member filedAt => reached ⟨full, member, filedAt⟩
        have noChange : ∀ change ∈ loop.visibilityOnlyUpdates,
            session.scene.objectIdToBatchKey change.1 ≠ some key := by
          intro change member filedAt
          rw [← upserted.keys] at filedAt
          exact noFlag ⟨change, member, filedAt⟩
        rw [unreached noFull, old.2, expectedBatch, expectedBatch,
          update_wantedAt kept keeps revises noFull noChange]

lemma next_shows (loopOf : loop = session.backend.updateLoop updates) :
    next.Shows loop.objects where
  keys := next_find kept keeps revises upserted flagged
  nodes := fun _ there single => next_nodes kept keeps revises upserted flagged loopOf there single
  others := fun _ batched => next_others kept revises upserted flagged batched
  shown := fun _ _ filedAt => next_shown keeps upserted flagged filedAt kept.shows.shown loopOf
  batches := next_batches kept keeps revises upserted flagged loopOf

end Update

lemma update_kept (grow : Nat → Nat) (kept : session.Kept) {updates : List ObjectRecord}
    (keeps : session.KeepsUpdate updates) :
    ∃ next, session.updateObjects grow updates = some next ∧ next.Kept := by
  by_cases nothing : updates = []
  · exact ⟨session, by rw [updateObjects, if_pos nothing], kept⟩
  have revises := updateLoop_revises session.backend kept.unique updates
  generalize loopIs : session.backend.updateLoop updates = loop at revises
  have belongs := update_belongs kept keeps revises
  have stays : loop.objects.length ≤ session.capacity →
      (if decide (session.capacity < loop.objects.length) = true then session.buffer + 1
        else session.buffer) = session.buffer := by
    intro fits
    rw [if_neg]
    simpa using fits
  generalize bufferIs : (if decide (session.capacity < loop.objects.length) = true then
    session.buffer + 1 else session.buffer) = buffer at stays
  have filed : ∀ key, ∀ record ∈ wantedAt session.scene.layers loop.objects key,
      session.scene.objectIdToBatchKey record.objectId = some key := by
    intro key record member
    have its := mem_filter.mp member
    rw [belongs record its.1]
    exact of_decide_eq_true its.2
  have upsertedOne : ∃ scene, upsertObjects
      (memory loop.objects buffer session.calls loop.fullUpdates) session.calls
        loop.fullUpdates session.scene = some scene ∧
      PtrScene.UpsertedAll (memory loop.objects buffer session.calls loop.fullUpdates)
        (Touched session updates) (wantedAt session.scene.layers loop.objects) session.scene
        loop.fullUpdates scene :=
    upsertObjects_spec (fun slot object there => (if_pos rfl).trans there)
      (fun object member => keeps.belongs object (revises.fulls object member))
      (fun object member key filedAt => ⟨object, revises.fulls object member, filedAt⟩) filed
      (fun key => List.Nodup.sublist (List.Sublist.map _ filter_sublist) revises.sound.nodup)
      (fun key batch touched found => update_denotes kept keeps revises stays touched found)
  rcases upsertedOne with ⟨upsertedScene, upsertedIs, upserted⟩
  have flaggedOne : ∃ scene, updateObjectVisibility
      (memory loop.objects buffer session.calls loop.fullUpdates) upsertedScene
        loop.visibilityOnlyUpdates = some scene ∧
      PtrScene.Flagged (fun key => (wantedAt session.scene.layers loop.objects key).map
        (latest loop.fullUpdates)) upsertedScene loop.visibilityOnlyUpdates scene := by
    apply updateObjectVisibility_spec
    · intro key record member
      rcases mem_map.mp member with ⟨first, isFirst, rfl⟩
      rw [latest_id, upserted.keys]
      exact filed key first isFirst
    · intro change member key filedAt batch found
      rw [upserted.keys] at filedAt
      rcases mem_map.mp (revises.changes change member) with ⟨object, isUpdate, sameId⟩
      have after := upserted.batches key
      split at after
      · rw [after] at found
        cases found
      · rcases after with ⟨middle, isMiddle, _, denotes, _⟩
        rw [← Option.some.inj (isMiddle.symm.trans found)]
        exact denotes ⟨object, isUpdate, sameId ▸ filedAt⟩
  rcases flaggedOne with ⟨next, nextIs, flagged⟩
  have shows := next_shows kept keeps revises upserted flagged loopIs.symm
  have layers := next_layers upserted flagged
  refine ⟨{ session with
    backend := session.backend.updateObjects updates
    buffer := buffer
    capacity := if decide (session.capacity < loop.objects.length) = true then
        grow loop.objects.length else session.capacity
    calls := session.calls + 1
    scene := next }, ?_, ?_, layers.trans kept.layers, ?_⟩
  · rw [updateObjects, if_neg nothing]
    dsimp only
    rw [loopIs, bufferIs, upsertedIs]
    change (updateObjectVisibility _ upsertedScene loop.visibilityOnlyUpdates).bind _ = _
    rw [nextIs]
    rfl
  · dsimp only
    rw [Backend.updateObjects, loopIs]
    exact revises.sound.nodup
  · dsimp only
    rw [Backend.updateObjects, loopIs]
    exact shows

lemma removeFromBatch_none {mem : Memory} {pointers : List RecordPtr}
    {records : List ObjectRecord} (hidden : String → Bool) (objectIds : List String)
    (type : ObjectType) {batch : PtrBatch} (isThere : batch.objects = pointers)
    (denotes : Denotes mem pointers records)
    (absent : ∀ record ∈ records, record.objectId ∉ objectIds) :
    removeFromBatch mem hidden objectIds type batch = some batch := by
  rw [removeFromBatch, isThere, mapM_denotes denotes]
  change (if ∃ record ∈ records, record.objectId ∈ objectIds then _ else some batch) = some batch
  rw [if_neg]
  rintro ⟨record, member, gone⟩
  exact absent record member gone

lemma slots_denote {objects : List ObjectRecord} (buffer call : Nat) (pointers : List RecordPtr)
    (slots : ∀ op ∈ pointers, ∃ slot, op = .slot buffer slot ∧ slot < objects.length) :
    ∃ records, Denotes (memory objects buffer call []) pointers records ∧
      ∀ record ∈ records, record ∈ objects := by
  induction pointers with
  | nil => exact ⟨[], List.Forall₂.nil, fun _ member => absurd member not_mem_nil⟩
  | cons op pointers ih =>
    rcases slots op mem_cons_self with ⟨slot, rfl, bound⟩
    rcases ih (fun other member => slots other (mem_cons_of_mem _ member)) with
      ⟨records, denotes, inside⟩
    refine ⟨objects[slot] :: records, List.Forall₂.cons ?_ denotes, ?_⟩
    · exact (if_pos rfl).trans (getElem?_eq_getElem bound)
    · intro record member
      rcases mem_cons.mp member with rfl | later
      · exact getElem_mem bound
      · exact inside record later

lemma mapM_same {α : Type} {change : α → Option α} (items : List α)
    (same : ∀ item ∈ items, change item = some item) : items.mapM change = some items := by
  induction items with
  | nil => rfl
  | cons item items ih =>
    rw [mapM_cons, same item mem_cons_self,
      ih fun other member => same other (mem_cons_of_mem item member)]
    rfl

lemma mem_left {objectIds : List String} {record : ObjectRecord} :
    record ∈ (session.backend.removeObjects objectIds).objects ↔
      record ∈ session.backend.objects ∧ record.objectId ∉ objectIds := by
  rw [Backend.removeObjects, mem_filter, decide_eq_true_eq]

lemma left_unique (kept : session.Kept) (objectIds : List String) :
    (ids (session.backend.removeObjects objectIds).objects).Nodup :=
  List.Nodup.sublist (List.Sublist.map _ filter_sublist) kept.unique

lemma left_find (kept : session.Kept) {objectIds : List String} (stays : id ∉ objectIds) :
    (session.backend.removeObjects objectIds).objects.find? (fun object => object.objectId = id) =
      session.backend.objects.find? fun object => object.objectId = id := by
  cases found : session.backend.objects.find? fun object => object.objectId = id with
  | none =>
    apply find_absent
    intro member
    rcases mem_map.mp member with ⟨object, there, sameId⟩
    exact find?_eq_none.mp found object (mem_left.mp there).1 (decide_eq_true sameId)
  | some record =>
    have there := mem_of_find?_eq_some found
    have sameId : record.objectId = id := by simpa using find?_some found
    subst sameId
    exact find_record (left_unique kept objectIds) (mem_left.mpr ⟨there, stays⟩)

lemma left_wantedAt (kept : session.Kept) {objectIds : List String}
    (unfiled : ∀ id ∈ objectIds, session.scene.objectIdToBatchKey id = none) (key : BatchKey) :
    wantedAt session.scene.layers (session.backend.removeObjects objectIds).objects key =
      wantedAt session.scene.layers session.backend.objects key := by
  rw [Backend.removeObjects, wantedAt, filter_filter]
  apply filter_congr
  intro object there
  rw [Bool.eq_iff_iff, Bool.and_eq_true, decide_eq_true_eq, decide_eq_true_eq]
  apply and_iff_left_of_imp
  intro belongs gone
  have filedAt := keys_record kept.shows kept.unique there
  rw [unfiled object.objectId gone, belongs] at filedAt
  cases filedAt

lemma left_shows (kept : session.Kept) {objectIds : List String}
    (unfiled : ∀ id ∈ objectIds, session.scene.objectIdToBatchKey id = none) {next : PtrScene}
    (layers : next.layers = session.scene.layers)
    (keys : ∀ id, next.objectIdToBatchKey id =
      if id ∈ objectIds then none else session.scene.objectIdToBatchKey id)
    (hidden : next.hiddenObjects = session.scene.hiddenObjects)
    (batches : next.layerBatches = session.scene.layerBatches)
    (gone : ∀ id ∈ objectIds, next.objectsById id = none)
    (rest : ∀ id, id ∉ objectIds → next.objectsById id = session.scene.objectsById id ∧
      next.objectLayerById id = session.scene.objectLayerById id) :
    next.Shows (session.backend.removeObjects objectIds).objects where
  keys := by
    intro id
    rw [keys, layers]
    by_cases removed : id ∈ objectIds
    · rw [if_pos removed, find_absent]
      · rfl
      · intro member
        rcases mem_map.mp member with ⟨object, there, sameId⟩
        exact (mem_left.mp there).2 (sameId ▸ removed)
    · rw [if_neg removed, left_find kept removed]
      exact kept.shows.keys id
  nodes := by
    intro object there single
    have its := mem_left.mp there
    have same := rest object.objectId its.2
    rw [PtrScene.HasNode, same.1, same.2, layers]
    exact kept.shows.nodes object its.1 single
  others := by
    intro id batched record visible
    by_cases removed : id ∈ objectIds
    · rw [gone id removed]
      exact fun found => nomatch found
    · rw [(rest id removed).1]
      apply kept.shows.others id
      intro object there sameId
      exact batched object (mem_left.mpr ⟨there, sameId ▸ removed⟩) sameId
  shown := by
    intro id key filedAt
    rw [keys] at filedAt
    split at filedAt
    · cases filedAt
    · rw [hidden]
      exact kept.shows.shown id key filedAt
  batches := by
    intro key
    rw [batches, layers, expectedBatch, left_wantedAt kept unfiled]
    exact kept.shows.batches key

/-- The scene after a removal that no batch notices. -/
def PtrScene.withoutIds (scene : PtrScene) (objectIds : List String) : PtrScene :=
  let gone (id : String) : Bool := id ∈ objectIds ∧ (scene.objectsById id).isSome
  { scene with
    objectIdToBatchKey := fun id => if id ∈ objectIds then none else scene.objectIdToBatchKey id
    objectsById := fun id => if gone id then none else scene.objectsById id
    objectLayerById := fun id => if gone id then none else scene.objectLayerById id }

lemma removal_kept (kept : session.Kept) {objectIds : List String}
    (keeps : session.KeepsRemoval objectIds) :
    ∃ next, session.removeObjects objectIds = some next ∧ next.Kept := by
  by_cases nothing : objectIds = []
  · exact ⟨session, by rw [removeObjects, if_pos nothing], kept⟩
  have slots := keeps.slots nothing
  have same : session.scene.layerBatches.mapM (fun entry =>
      (removeFromBatch (memory (session.backend.removeObjects objectIds).objects
        session.buffer session.calls []) session.scene.hiddenObjects objectIds entry.1.type
        entry.2).map fun batch => (entry.1, batch)) = some session.scene.layerBatches := by
    apply mapM_same
    intro entry member
    rcases slots_denote session.buffer session.calls entry.2.objects (slots entry member) with
      ⟨records, denotes, inside⟩
    rw [removeFromBatch_none _ objectIds _ rfl denotes fun record isThere =>
      (mem_left.mp (inside record isThere)).2]
    rfl
  have done : session.removeObjects objectIds = some { session with
      backend := session.backend.removeObjects objectIds
      scene := session.scene.withoutIds objectIds } := by
    rw [removeObjects, if_neg nothing]
    dsimp only
    rw [PtrScene.removeObjectsById, same]
    rfl
  refine ⟨_, done, left_unique kept objectIds, kept.layers, ?_⟩
  have shows : (session.scene.withoutIds objectIds).Shows
      (session.backend.removeObjects objectIds).objects := by
    have layers : (session.scene.withoutIds objectIds).layers = session.scene.layers := rfl
    apply left_shows kept keeps.unfiled layers (fun _ => rfl) rfl rfl
    · intro id removed
      rw [withoutIds]
      dsimp only
      split
      · rfl
      · rename_i absent
        simpa [removed] using absent
    · intro id stays
      rw [withoutIds]
      dsimp only
      rw [if_neg (by simp [stays]), if_neg (by simp [stays])]
      exact ⟨rfl, rfl⟩
  exact shows

/-- Along a run of calls that the scene follows, it shows in every state what a new scene would. -/
theorem updates_agree (grow : Nat → Nat) (frustum : Frustum ℚ) (culling : Bool)
    (snapshot : SceneSnapshot) (unique : snapshot.UniqueIds) (calls : List UpdateCall)
    (each : EachCall (after grow) Session.KeepsDrawn
      (some (load frustum culling snapshot)) calls) :
    Throughout (after grow)
      (fun state => ∃ session, state = some session ∧ session.Agrees frustum culling)
      (some (load frustum culling snapshot)) calls := by
  have start : ∃ session, some (load frustum culling snapshot) = some session ∧
      session.Kept := ⟨_, rfl, load_kept frustum culling snapshot unique⟩
  have keeps : ∀ (state : Option Session) call, (∃ session, state = some session ∧ session.Kept) →
      Session.KeepsDrawn state call →
        ∃ next, after grow state call = some next ∧ next.Kept := by
    rintro state call ⟨session, rfl, kept⟩ allowed
    have isAllowed := allowed session rfl
    cases call with
    | updateObjects objects => exact update_kept grow kept isAllowed
    | removeObjects objectIds => exact removal_kept kept isAllowed
  have all := throughout_of_each keeps start each
  intro front isFront
  rcases all front isFront with ⟨session, isSession, kept⟩
  exact ⟨session, isSession, kept_agrees kept frustum culling⟩

def oneWire : SceneSnapshot := ⟨[sampleLayer "m1"], [sampleWire "a" "m1"]⟩

def sampleSession : Session := load (flatFrustum 1) false oneWire

lemma oneWire_unique : oneWire.UniqueIds := by
  show (["a"] : List String).Nodup
  decide

def twoWires : SceneSnapshot := ⟨[sampleLayer "m1"], [sampleWire "a" "m1", sampleWire "b" "m1"]⟩

def wiresSession : Session := load (flatFrustum 1) false twoWires

def longerWires : List ObjectRecord :=
  [{ sampleWire "a" "m1" with bboxMax := ⟨2, 1, 1⟩ }, { sampleWire "b" "m1" with bboxMax := ⟨3, 1, 1⟩ }]

theorem updates_agree_sample : Throughout (after fun size => size)
    (fun state => ∃ session, state = some session ∧ session.Agrees (flatFrustum 1) false)
    (some wiresSession) [.updateObjects longerWires] := by
  have unique : twoWires.UniqueIds := show (["a", "b"] : List String).Nodup by decide
  apply updates_agree (fun size => size) (flatFrustum 1) false twoWires unique
  refine (eachCall_cons _ _).mpr ⟨?_, eachCall_nil⟩
  rintro session ⟨⟩
  have filed : ∀ object ∈ longerWires,
      wiresSession.scene.objectIdToBatchKey object.objectId = some ⟨"m1", .Wire⟩ := by decide
  have changes : (wiresSession.backend.updateLoop longerWires).visibilityOnlyUpdates = [] := by
    decide
  refine ⟨?_, ?_, ?_⟩
  · show ∀ object ∈ longerWires, wiresSession.scene.objectIdToBatchKey object.objectId =
      wanted wiresSession.scene.layers object
    decide
  · intro object member key isKey
    have sameKey : key = ⟨"m1", .Wire⟩ := Option.some.inj (isKey.symm.trans (filed object member))
    subst sameKey
    have slots : (wiresSession.scene.layerBatches.lookup ⟨"m1", .Wire⟩).map PtrBatch.objects =
        some [.slot 0 0, .slot 0 1] := by decide
    rcases Option.map_eq_some_iff.mp slots with ⟨batch, found, areSlots⟩
    rw [wiresSession] at found
    rw [found]
    dsimp only
    rw [areSlots]
    revert object
    decide
  · intro id flag last
    change lastFlag (wiresSession.backend.updateLoop longerWires).visibilityOnlyUpdates id = _ at last
    rw [changes] at last
    cases last

theorem new_wire_not_drawn : ¬ ∀ (grow : Nat → Nat) (frustum : Frustum ℚ) (culling : Bool)
    (snapshot : SceneSnapshot), snapshot.UniqueIds → ∀ calls : List UpdateCall,
      Throughout (after grow)
        (fun state => ∃ session, state = some session ∧ session.Agrees frustum culling)
        (some (load frustum culling snapshot)) calls := by
  intro allAgree
  have all := allAgree (fun size => size) (flatFrustum 1) false oneWire oneWire_unique
    [.updateObjects [sampleWire "b" "m1"]] _ (prefix_refl _)
  rcases all with ⟨session, isSession, agrees⟩
  have drawn : (run (after fun size => size) (some sampleSession)
      [.updateObjects [sampleWire "b" "m1"]]).map (fun session =>
        (session.scene.drawnBatch ⟨"m1", .Wire⟩,
          (freshScene (flatFrustum 1) false session.layers
            session.backend.objects).drawnBatch ⟨"m1", .Wire⟩)) =
      some ([sampleWire "a" "m1"], [sampleWire "a" "m1", sampleWire "b" "m1"]) := by
    decide
  rw [show run (after fun size => size) (some sampleSession) _ = some session from isSession,
    Option.map_some, agrees.2] at drawn
  have same := (Prod.mk.inj (Option.some.inj drawn))
  rw [same.2] at same
  exact absurd same.1 (by decide)

end OpenRoad.Viewer
