import OpenRoad.Viewer.UpdateRecords

/-! What the incremental operations make of nodes and batches, where the pointers they follow lead
to records. -/

namespace OpenRoad.Viewer

open OpenRoad.Lib OsgScene List Function
open Option hiding map_id' map_map

abbrev Denotes (mem : Memory) (pointers : List RecordPtr) (records : List ObjectRecord) : Prop :=
  List.Forall₂ (fun op record => mem op = some record) pointers records

def slotsOf (buffer : Nat) (filed : String → Bool) : Nat → List String → List RecordPtr
  | _, [] => []
  | slot, id :: ids =>
    if filed id then .slot buffer slot :: slotsOf buffer filed (slot + 1) ids
    else slotsOf buffer filed (slot + 1) ids

variable {mem : Memory} {scene : PtrScene} {pointers : List RecordPtr}
  {records : List ObjectRecord} {object : ObjectRecord} {key : BatchKey} {id : String}

lemma mapM_denotes (denotes : Denotes mem pointers records) : pointers.mapM mem = some records := by
  induction denotes with
  | nil => rfl
  | cons head _ ih =>
    rw [mapM_cons, head, ih]
    rfl

lemma denotes_slots (pre : List ObjectRecord) (objects : List ObjectRecord) (buffer call : Nat)
    (updates : List ObjectRecord) (filed : String → Bool) :
    Denotes (Session.memory (pre ++ objects) buffer call updates)
      (slotsOf buffer filed pre.length (ids objects))
      (objects.filter fun object => filed object.objectId) := by
  induction objects generalizing pre with
  | nil => exact List.Forall₂.nil
  | cons object objects ih =>
    have rest := ih (pre ++ [object])
    rw [append_assoc, singleton_append, length_append, length_singleton] at rest
    rw [ids, map_cons, slotsOf]
    cases isFiled : filed object.objectId with
    | true =>
      rw [if_pos rfl, filter_cons, if_pos isFiled]
      refine List.Forall₂.cons ?_ rest
      change (if buffer = buffer then (pre ++ object :: objects)[pre.length]? else none) = _
      rw [if_pos rfl, List.getElem?_append_right (Nat.le_refl _), Nat.sub_self]
      rfl
    | false =>
      rw [if_neg Bool.false_ne_true, filter_cons, isFiled, if_neg Bool.false_ne_true]
      exact rest

lemma slotsOf_append (buffer : Nat) (filed : String → Bool) (slot : Nat) (old new : List String)
    (unfiled : ∀ id ∈ new, filed id = false) :
    slotsOf buffer filed slot (old ++ new) = slotsOf buffer filed slot old := by
  induction old generalizing slot with
  | nil =>
    rw [nil_append]
    induction new generalizing slot with
    | nil => rfl
    | cons id new ih =>
      have rest : slotsOf buffer filed (slot + 1) new = [] :=
        ih (fun other member => unfiled other (mem_cons_of_mem id member)) (slot + 1)
      simp only [slotsOf, unfiled id mem_cons_self, Bool.false_eq_true, if_false]
      exact rest
  | cons id old ih => rw [cons_append, slotsOf, slotsOf, ih]

lemma lookup_putBatch (key other : BatchKey) (update : PtrBatch → PtrBatch)
    (batches : List (BatchKey × PtrBatch)) :
    (PtrScene.putBatch key update batches).lookup other =
      if other = key then (batches.lookup other).map update else batches.lookup other := by
  induction batches with
  | nil =>
    rw [PtrScene.putBatch, map_nil, lookup_nil]
    split <;> rfl
  | cons entry batches ih =>
    rw [PtrScene.putBatch] at ih ⊢
    rw [map_cons]
    rcases entry with ⟨first, batch⟩
    dsimp only
    by_cases isFirst : other = first
    · subst isFirst
      by_cases same : other = key
      · rw [if_pos same, if_pos same, lookup_cons_self, lookup_cons_self]
        rfl
      · rw [if_neg same, if_neg same, lookup_cons_self, lookup_cons_self]
    · have apart : (other == first) = false := by simpa using isFirst
      have head : (if first = key then (first, update batch) else (first, batch)).1 = first := by
        split <;> rfl
      rw [lookup_cons, lookup_cons, apart, head, apart]
      exact ih

namespace PtrScene

def redrawn (key : BatchKey) (hidden : String → Bool) (records : List ObjectRecord)
    (batch : PtrBatch) : PtrBatch :=
  { batch with primitives := primitivesAs key.type hidden records }

lemma rebuildBatch_spec (records : BatchKey → List ObjectRecord) (key : BatchKey)
    (denotes : ∀ batch, scene.layerBatches.lookup key = some batch →
      Denotes mem batch.objects (records key)) :
    ∃ batches, rebuildBatch mem scene key = some { scene with layerBatches := batches } ∧
      ∀ other, batches.lookup other = (scene.layerBatches.lookup other).map fun batch =>
        if other = key then redrawn other scene.hiddenObjects (records other) batch else batch := by
  rw [rebuildBatch]
  cases found : scene.layerBatches.lookup key with
  | none =>
    refine ⟨scene.layerBatches, rfl, ?_⟩
    intro other
    by_cases same : other = key
    · rw [same, found]
      rfl
    · simp only [if_neg same, Option.map_id']
  | some batch =>
    dsimp only
    rw [mapM_denotes (denotes batch found)]
    refine ⟨_, rfl, ?_⟩
    intro other
    rw [lookup_putBatch]
    by_cases same : other = key
    · subst same
      simp only [if_pos]
      rfl
    · simp only [if_neg same, Option.map_id']

lemma rebuildBatches_spec (records : BatchKey → List ObjectRecord) (keys : List BatchKey)
    (scene : PtrScene) (denotes : ∀ key ∈ keys, ∀ batch,
      scene.layerBatches.lookup key = some batch → Denotes mem batch.objects (records key)) :
    ∃ batches, keys.foldlM (rebuildBatch mem) scene = some { scene with layerBatches := batches } ∧
      ∀ key, batches.lookup key = (scene.layerBatches.lookup key).map fun batch =>
        if key ∈ keys then redrawn key scene.hiddenObjects (records key) batch else batch := by
  induction keys generalizing scene with
  | nil =>
    refine ⟨scene.layerBatches, rfl, ?_⟩
    intro key
    simp only [not_mem_nil, if_false, Option.map_id']
  | cons key keys ih =>
    rcases rebuildBatch_spec records key (denotes key mem_cons_self) with
      ⟨batches, rebuilt, first⟩
    rcases ih { scene with layerBatches := batches } (by
      intro other member batch found
      dsimp only at found
      rw [first other, map_eq_some_iff] at found
      rcases found with ⟨old, isOld, rfl⟩
      have same : (if other = key then redrawn other scene.hiddenObjects (records other) old
          else old).objects = old.objects := by split <;> rfl
      rw [same]
      exact denotes other (mem_cons_of_mem key member) old isOld) with
      ⟨final, done, rest⟩
    refine ⟨final, ?_, ?_⟩
    · rw [foldlM_cons, rebuilt]
      exact done
    · intro other
      rw [rest other, first other, Option.map_map]
      congr 1
      funext batch
      simp only [comp_apply, mem_cons]
      by_cases same : other = key
      · subst same
        simp only [if_pos, true_or]
        split <;> rfl
      · simp only [same, if_false, false_or]

def latest (updates : List ObjectRecord) (record : ObjectRecord) : ObjectRecord :=
  (indexBy ObjectRecord.objectId updates record.objectId).getD record

lemma latest_id (updates : List ObjectRecord) (record : ObjectRecord) :
    (latest updates record).objectId = record.objectId := by
  rw [latest]
  cases found : indexBy ObjectRecord.objectId updates record.objectId with
  | none => rfl
  | some update => exact (indexBy_some found).2

lemma latest_concat (updates : List ObjectRecord) (object record : ObjectRecord) :
    latest (updates ++ [object]) record =
      if record.objectId = object.objectId then object else latest updates record := by
  rw [latest, indexBy_concat_apply]
  split <;> rfl

lemma map_latest_absent (updates : List ObjectRecord)
    (absent : ∀ record ∈ records, record.objectId ≠ object.objectId) :
    records.map (latest (updates ++ [object])) = records.map (latest updates) := by
  apply map_congr_left
  intro record member
  rw [latest_concat, if_neg (absent record member)]

lemma ids_latest (updates records : List ObjectRecord) :
    ids (records.map (latest updates)) = ids records := by
  rw [ids, map_map]
  exact map_congr_left fun record _ => latest_id updates record

lemma replaceFirst_spec {ptr : RecordPtr} (leads : mem ptr = some object)
    (denotes : Denotes mem pointers records) (unique : (ids records).Nodup) :
    ∃ replaced, replaceFirst mem object.objectId ptr pointers = some replaced ∧ Denotes mem replaced
        (records.map fun record => if record.objectId = object.objectId then object else record) := by
  induction denotes with
  | nil => exact ⟨[], rfl, List.Forall₂.nil⟩
  | @cons op record ops records head tail ih =>
    rcases List.nodup_cons.mp unique with ⟨absent, rest⟩
    rw [replaceFirst, head]
    by_cases same : record.objectId = object.objectId
    · refine ⟨ptr :: ops, by rw [bind_eq_bind, bind_some, if_pos same], ?_⟩
      rw [map_cons, if_pos same]
      refine List.Forall₂.cons leads ?_
      have others : records.map (fun record => if record.objectId = object.objectId then object
          else record) = records := by
        conv_rhs => rw [← map_id records]
        apply map_congr_left
        intro other member
        rw [if_neg, id]
        intro again
        exact absent (same.trans again.symm ▸ mem_map_of_mem member)
      rw [others]
      exact tail
    · rcases ih rest with ⟨replaced, done, leadsTo⟩
      refine ⟨op :: replaced, ?_, ?_⟩
      · rw [bind_eq_bind, bind_some, if_neg same, done]
        rfl
      · rw [map_cons, if_neg same]
        exact List.Forall₂.cons head leadsTo

lemma upsertFrom_concat (call slot : Nat) (front : List ObjectRecord) (object : ObjectRecord)
    (scene : PtrScene) (affected : List BatchKey) :
    upsertFrom mem call slot (front ++ [object]) scene affected =
      (upsertFrom mem call slot front scene affected).bind fun next =>
        next.1.upsertObject mem (.update call (slot + front.length)) object next.2 := by
  induction front generalizing slot scene affected with
  | nil =>
    change (scene.upsertObject mem (.update call slot) object affected).bind
      (fun next => some (next.1, next.2)) = _
    exact bind_fun_some _
  | cons first front ih =>
    rw [cons_append, upsertFrom, upsertFrom, bind_eq_bind, bind_assoc]
    congr 1
    funext next
    rcases next with ⟨next, touched⟩
    dsimp only
    rw [ih, length_cons]
    have position : slot + 1 + front.length = slot + (front.length + 1) := by omega
    rw [position]

def upsertedEntry (layers : Layers) (object : ObjectRecord) : Option SceneObject :=
  if object.batched then none else some ⟨some object, nodeVisible layers object⟩

/-- The scene after the updates `front` of a call. Where batches are `held`, pointers lead to the
records of before or to updates. -/
structure Upserted (mem : Memory) (held : BatchKey → Prop) (records : BatchKey → List ObjectRecord)
    (before : PtrScene) (front : List ObjectRecord) (scene : PtrScene) (affected : List BatchKey) :
    Prop where
  layers : scene.layers = before.layers
  hidden : scene.hiddenObjects = before.hiddenObjects
  keys : scene.objectIdToBatchKey = before.objectIdToBatchKey
  entries : ∀ id, scene.objectsById id =
    match indexBy ObjectRecord.objectId front id with
    | some object => upsertedEntry before.layers object
    | none => before.objectsById id
  layerOf : ∀ id, match indexBy ObjectRecord.objectId front id with
    | some object => object.batched = false → scene.objectLayerById id = some object.layerId
    | none => scene.objectLayerById id = before.objectLayerById id
  touched : ∀ key, key ∈ affected ↔
    ∃ object ∈ front, before.objectIdToBatchKey object.objectId = some key
  batches : ∀ key, match before.layerBatches.lookup key with
    | none => scene.layerBatches.lookup key = none
    | some batch => ∃ objects,
      scene.layerBatches.lookup key = some { batch with objects := objects } ∧
        (key ∉ affected → objects = batch.objects) ∧
          (held key → Denotes mem objects ((records key).map (latest front)))

variable {held : BatchKey → Prop} {recordsAt : BatchKey → List ObjectRecord} {before : PtrScene}
  {front : List ObjectRecord} {affected : List BatchKey} {ptr : RecordPtr}

lemma upserted_entries (upserted : Upserted mem held recordsAt before front scene affected)
    (object : ObjectRecord) (id : String) :
    update scene.objectsById object.objectId (upsertedEntry before.layers object) id =
      match indexBy ObjectRecord.objectId (front ++ [object]) id with
      | some object => upsertedEntry before.layers object
      | none => before.objectsById id := by
  rw [indexBy_concat_apply, update_apply]
  by_cases same : id = object.objectId
  · rw [if_pos same, if_pos same]
  · rw [if_neg same, if_neg same]
    exact upserted.entries id

lemma erased_layerOf (scene : PtrScene) {objectId : String} (different : id ≠ objectId) :
    (scene.erased objectId).objectLayerById id = scene.objectLayerById id := by
  rw [erased]
  dsimp only
  split
  · exact update_of_ne different _ _
  · rfl

lemma upserted_layerOf (upserted : Upserted mem held recordsAt before front scene affected)
    (object : ObjectRecord) {layerOf : String → Option String}
    (own : object.batched = false → layerOf object.objectId = some object.layerId)
    (others : ∀ id, id ≠ object.objectId → layerOf id = scene.objectLayerById id) (id : String) :
    match indexBy ObjectRecord.objectId (front ++ [object]) id with
    | some object => object.batched = false → layerOf id = some object.layerId
    | none => layerOf id = before.objectLayerById id := by
  rw [indexBy_concat_apply]
  by_cases same : id = object.objectId
  · rw [if_pos same, same]
    exact own
  · rw [if_neg same, others id same]
    exact upserted.layerOf id

lemma affected_concat (upserted : Upserted mem held recordsAt before front scene affected)
    (object : ObjectRecord) (key : BatchKey) :
    (∃ other ∈ front ++ [object], before.objectIdToBatchKey other.objectId = some key) ↔
      key ∈ affected ∨ before.objectIdToBatchKey object.objectId = some key := by
  rw [upserted.touched key]
  constructor
  · rintro ⟨other, member, isKey⟩
    rcases List.mem_append.mp member with old | new
    · exact Or.inl ⟨other, old, isKey⟩
    · rw [List.mem_singleton.mp new] at isKey
      exact Or.inr isKey
  · rintro (⟨other, member, isKey⟩ | isKey)
    · exact ⟨other, mem_append_left _ member, isKey⟩
    · exact ⟨object, mem_append_right _ (List.mem_singleton.mpr rfl), isKey⟩

lemma upserted_others (upserted : Upserted mem held recordsAt before front scene affected)
    (filed : ∀ key, ∀ record ∈ recordsAt key, before.objectIdToBatchKey record.objectId = some key)
    (key : BatchKey) (untouched : before.objectIdToBatchKey object.objectId ≠ some key)
    {affected' : List BatchKey} (more : affected ⊆ affected') :
    match before.layerBatches.lookup key with
    | none => scene.layerBatches.lookup key = none
    | some batch => ∃ objects,
      scene.layerBatches.lookup key = some { batch with objects := objects } ∧
        (key ∉ affected' → objects = batch.objects) ∧
          (held key → Denotes mem objects ((recordsAt key).map (latest (front ++ [object])))) := by
  have batches := upserted.batches key
  have absent : ∀ record ∈ recordsAt key, record.objectId ≠ object.objectId := by
    intro record member same
    rw [← same] at untouched
    exact untouched (filed key record member)
  rw [map_latest_absent front absent]
  split at batches
  · exact batches
  · rcases batches with ⟨objects, isThere, unaffected, denotes⟩
    exact ⟨objects, isThere, fun outside => unaffected fun inside => outside (more inside), denotes⟩

lemma upserted_step (upserted : Upserted mem held recordsAt before front scene affected)
    (leads : mem ptr = some object)
    (belongs : before.objectIdToBatchKey object.objectId = wanted before.layers object)
    (isHeld : ∀ key, before.objectIdToBatchKey object.objectId = some key → held key)
    (filed : ∀ key, ∀ record ∈ recordsAt key, before.objectIdToBatchKey record.objectId = some key)
    (unique : ∀ key, (ids (recordsAt key)).Nodup) :
    ∃ next affected', scene.upsertObject mem ptr object affected = some (next, affected') ∧
      Upserted mem held recordsAt before (front ++ [object]) next affected' := by
  have entries := upserted_entries upserted object
  have touched := affected_concat upserted object
  cases batched : object.batched with
  | false =>
    have unfiled : before.objectIdToBatchKey object.objectId = none := by
      rw [belongs, wanted, if_neg]
      rw [batched]
      exact fun both => Bool.false_ne_true both.1
    have step : scene.upsertObject mem ptr object affected =
        some ((scene.erased object.objectId).addSceneObject object, affected) := by
      rw [upsertObject, batched, if_neg Bool.false_ne_true]
    refine ⟨_, affected, step, upserted.layers, upserted.hidden, upserted.keys, ?_, ?_, ?_, ?_⟩
    · intro id
      rw [← entries id, upsertedEntry, batched, if_neg Bool.false_ne_true, ← upserted.layers]
      change update (update scene.objectsById object.objectId none)
        object.objectId _ id = _
      rw [update_idem]
      rfl
    · apply upserted_layerOf upserted object
      · intro _
        exact update_self _ _ _
      · intro id different
        exact (update_of_ne different _ _).trans (erased_layerOf scene different)
    · intro key
      rw [touched key, unfiled]
      exact (or_iff_left (by simp)).symm
    · intro key
      exact upserted_others upserted filed key (by rw [unfiled]; simp) (List.Subset.refl _)
  | true =>
    have erased : upsertedEntry before.layers object = none := by
      rw [upsertedEntry, batched, if_pos rfl]
    rw [erased] at entries
    have layerOf := upserted_layerOf upserted object
      (fun single => absurd (batched.symm.trans single) (by simp))
      (fun id different => erased_layerOf scene different)
    cases filedAt : before.objectIdToBatchKey object.objectId with
    | none =>
      have step : scene.upsertObject mem ptr object affected =
          some (scene.reindexed object.objectId ptr, affected) := by
        rw [upsertObject, batched, if_pos rfl, upserted.keys, filedAt]
      refine ⟨_, affected, step, upserted.layers, upserted.hidden, upserted.keys, entries,
        layerOf, ?_, ?_⟩
      · intro key
        rw [touched key, filedAt]
        exact (or_iff_left (by simp)).symm
      · intro key
        exact upserted_others upserted filed key (by rw [filedAt]; simp) (List.Subset.refl _)
    | some key =>
      have more : affected ⊆ key :: affected := subset_cons_self key affected
      have isTouched : ∀ other, other ∈ key :: affected ↔ ∃ record ∈ front ++ [object],
          before.objectIdToBatchKey record.objectId = some other := by
        intro other
        rw [touched other, filedAt, mem_cons, or_comm, some.injEq, eq_comm]
      have batch := upserted.batches key
      cases found : before.layerBatches.lookup key with
      | none =>
        rw [found] at batch
        have step : scene.upsertObject mem ptr object affected =
            some (scene.reindexed object.objectId ptr, key :: affected) := by
          rw [upsertObject, batched, if_pos rfl, upserted.keys, filedAt]
          dsimp only
          rw [batch]
        refine ⟨_, key :: affected, step, upserted.layers, upserted.hidden, upserted.keys,
          entries, layerOf, isTouched, ?_⟩
        intro other
        by_cases same : other = key
        · rw [same, found]
          exact batch
        · exact upserted_others upserted filed other (by rw [filedAt]; simpa using Ne.symm same)
            more
      | some old =>
        rw [found] at batch
        rcases batch with ⟨objects, isThere, _, denotes⟩
        have uniqueIds : (ids ((recordsAt key).map (latest front))).Nodup := by
          rw [ids_latest]
          exact unique key
        rcases replaceFirst_spec leads (denotes (isHeld key filedAt)) uniqueIds with
          ⟨replaced, done, leadsTo⟩
        have step : scene.upsertObject mem ptr object affected =
            some ({ scene.reindexed object.objectId ptr with
              layerBatches := putBatch key (fun batch => { batch with objects := replaced })
                scene.layerBatches }, key :: affected) := by
          rw [upsertObject, batched, if_pos rfl, upserted.keys, filedAt]
          dsimp only
          rw [isThere]
          dsimp only
          rw [done]
          rfl
        refine ⟨_, key :: affected, step, upserted.layers, upserted.hidden, upserted.keys,
          entries, layerOf, isTouched, ?_⟩
        intro other
        dsimp only
        rw [lookup_putBatch]
        by_cases same : other = key
        · rw [same, found, if_pos rfl, isThere]
          refine ⟨replaced, rfl, fun outside => absurd mem_cons_self outside, ?_⟩
          intro _
          rw [map_map] at leadsTo
          have isLatest : (recordsAt key).map (latest (front ++ [object])) =
              (recordsAt key).map ((fun record =>
                if record.objectId = object.objectId then object else record) ∘ latest front) := by
            apply map_congr_left
            intro record _
            rw [latest_concat, comp_apply, latest_id]
          rw [isLatest]
          exact leadsTo
        · rw [if_neg same]
          exact upserted_others upserted filed other (by rw [filedAt]; simpa using Ne.symm same)
            more

/-- The scene after a call of `upsertObjects`, with the batches of the updates rebuilt. -/
structure UpsertedAll (mem : Memory) (held : BatchKey → Prop)
    (records : BatchKey → List ObjectRecord) (before : PtrScene) (updates : List ObjectRecord)
    (scene : PtrScene) : Prop where
  layers : scene.layers = before.layers
  hidden : scene.hiddenObjects = before.hiddenObjects
  keys : scene.objectIdToBatchKey = before.objectIdToBatchKey
  entries : ∀ id, scene.objectsById id =
    match indexBy ObjectRecord.objectId updates id with
    | some object => upsertedEntry before.layers object
    | none => before.objectsById id
  layerOf : ∀ id, match indexBy ObjectRecord.objectId updates id with
    | some object => object.batched = false → scene.objectLayerById id = some object.layerId
    | none => scene.objectLayerById id = before.objectLayerById id
  batches : ∀ key, match before.layerBatches.lookup key with
    | none => scene.layerBatches.lookup key = none
    | some batch => ∃ found, scene.layerBatches.lookup key = some found ∧
      found.nodeMask = batch.nodeMask ∧
      (held key → Denotes mem found.objects ((records key).map (latest updates))) ∧
      ((∀ object ∈ updates, before.objectIdToBatchKey object.objectId ≠ some key) → found = batch) ∧
      ((∃ object ∈ updates, before.objectIdToBatchKey object.objectId = some key) →
        found.primitives = primitivesAs key.type before.hiddenObjects
          ((records key).map (latest updates)))

section Upserts

variable {call : Nat} {updates : List ObjectRecord}
  (leads : ∀ slot object, updates[slot]? = some object → mem (.update call slot) = some object)
  (belongs : ∀ object ∈ updates,
    before.objectIdToBatchKey object.objectId = wanted before.layers object)
  (isHeld : ∀ object ∈ updates, ∀ key,
    before.objectIdToBatchKey object.objectId = some key → held key)
  (filed : ∀ key, ∀ record ∈ recordsAt key, before.objectIdToBatchKey record.objectId = some key)
  (unique : ∀ key, (ids (recordsAt key)).Nodup)
  (denotes : ∀ key batch, held key → before.layerBatches.lookup key = some batch →
    Denotes mem batch.objects (recordsAt key))

include leads belongs isHeld filed unique denotes

lemma upsertFrom_spec :
    ∀ front, front <+: updates → ∃ scene affected,
      upsertFrom mem call 0 front before [] = some (scene, affected) ∧
        Upserted mem held recordsAt before front scene affected := by
  intro front
  induction front using List.reverseRecOn with
  | nil =>
    intro _
    refine ⟨before, [], rfl, rfl, rfl, rfl, fun _ => rfl, fun _ => rfl, ?_, ?_⟩
    · intro key
      simp only [not_mem_nil, false_and, exists_false]
    · intro key
      split
      · rename_i missing
        exact missing
      · rename_i batch found
        refine ⟨batch.objects, found, fun _ => rfl, ?_⟩
        intro isHeld
        have same : (recordsAt key).map (latest []) = recordsAt key := map_id _
        rw [same]
        exact denotes key batch isHeld found
  | append_singleton front object ih =>
    intro isFront
    rcases ih ((prefix_append front [object]).trans isFront) with
      ⟨scene, affected, done, upserted⟩
    have member : object ∈ updates :=
      isFront.subset (mem_append_right _ (List.mem_singleton.mpr rfl))
    have position : updates[front.length]? = some object := by
      rcases isFront with ⟨rest, rfl⟩
      rw [append_assoc, List.getElem?_append_right (Nat.le_refl _), Nat.sub_self]
      rfl
    rcases upserted_step upserted (leads _ _ position) (belongs object member)
      (isHeld object member) filed unique with ⟨next, affected', step, isUpserted⟩
    refine ⟨next, affected', ?_, isUpserted⟩
    rw [upsertFrom_concat, done, bind_some, Nat.zero_add]
    exact step

lemma upsertObjects_spec :
    ∃ scene, upsertObjects mem call updates before = some scene ∧
      UpsertedAll mem held recordsAt before updates scene := by
  rcases upsertFrom_spec leads belongs isHeld filed unique denotes updates (prefix_refl _) with
    ⟨middle, affected, done, upserted⟩
  have heldAt : ∀ key ∈ affected, held key := by
    intro key member
    rcases (upserted.touched key).mp member with ⟨object, inside, isKey⟩
    exact isHeld object inside key isKey
  rcases rebuildBatches_spec (fun key => (recordsAt key).map (latest updates)) affected middle (by
    intro key member batch found
    have batches := upserted.batches key
    split at batches
    · rw [batches] at found
      cases found
    · rcases batches with ⟨objects, isThere, _, leadsTo⟩
      rw [← some.inj (isThere.symm.trans found)]
      exact leadsTo (heldAt key member)) with ⟨batches, rebuilt, isThere⟩
  refine ⟨{ middle with layerBatches := batches }, ?_, upserted.layers, upserted.hidden,
    upserted.keys, upserted.entries, upserted.layerOf, ?_⟩
  · rw [upsertObjects, done]
    exact rebuilt
  · intro key
    have old := upserted.batches key
    dsimp only
    rw [isThere key]
    split at old
    · rw [old]
      rfl
    · rename_i batch found
      rcases old with ⟨objects, isOld, unaffected, leadsTo⟩
      rw [isOld]
      refine ⟨_, rfl, ?_, ?_, ?_, ?_⟩
      · split <;> rfl
      · intro isHeldKey
        have same : (if key ∈ affected then redrawn key middle.hiddenObjects
            ((recordsAt key).map (latest updates)) { batch with objects := objects }
            else { batch with objects := objects }).objects = objects := by split <;> rfl
        rw [same]
        exact leadsTo isHeldKey
      · intro untouched
        have outside : key ∉ affected := by
          intro inside
          rcases (upserted.touched key).mp inside with ⟨object, member, isKey⟩
          exact untouched object member isKey
        dsimp only
        rw [if_neg outside, unaffected outside]
      · intro touched
        dsimp only
        rw [if_pos ((upserted.touched key).mpr touched), ← upserted.hidden]
        rfl

end Upserts

/-- The node of an object after changes of its visibility. -/
def flaggedEntry (before : PtrScene) (changes : List (String × Bool)) (id : String) :
    Option SceneObject :=
  match lastFlag changes id with
  | none => before.objectsById id
  | some flag => (before.objectsById id).map fun object =>
    { object with visible := flag && (before.objectLayerById id).all before.isLayerVisible }

variable {changes : List (String × Bool)}

lemma flaggedEntry_none (missing : before.flaggedEntry changes id = none) :
    before.objectsById id = none := by
  rw [flaggedEntry] at missing
  split at missing
  · exact missing
  · exact map_eq_none_iff.mp missing

lemma flaggedEntry_some {object : SceneObject}
    (found : before.flaggedEntry changes id = some object) :
    ∃ old, before.objectsById id = some old ∧ object.node = old.node := by
  rw [flaggedEntry] at found
  split at found
  · exact ⟨object, found, rfl⟩
  · rcases map_eq_some_iff.mp found with ⟨old, isOld, rfl⟩
    exact ⟨old, isOld, rfl⟩

structure Flagged (records : BatchKey → List ObjectRecord) (before : PtrScene)
    (changes : List (String × Bool)) (scene : PtrScene) : Prop where
  layers : scene.layers = before.layers
  keys : scene.objectIdToBatchKey = before.objectIdToBatchKey
  hidden : ∀ id key, before.objectIdToBatchKey id = some key →
    scene.hiddenObjects id = match lastFlag changes id with
      | some flag => !flag
      | none => before.hiddenObjects id
  entries : ∀ id, before.objectIdToBatchKey id = none →
    scene.objectsById id = flaggedEntry before changes id ∧
      scene.objectLayerById id = before.objectLayerById id
  placeholders : ∀ id key, before.objectIdToBatchKey id = some key →
    scene.objectsById id = none ∨ scene.objectsById id = before.objectsById id
  batches : ∀ key, scene.layerBatches.lookup key = (before.layerBatches.lookup key).map fun batch =>
    if ∃ change ∈ changes, before.objectIdToBatchKey change.1 = some key then
      redrawn key scene.hiddenObjects (records key) batch
    else batch

lemma primitivesAs_congr (type : ObjectType) {hidden hidden' : String → Bool}
    (same : ∀ record ∈ records, hidden record.objectId = hidden' record.objectId) :
    primitivesAs type hidden records = primitivesAs type hidden' records := by
  rw [primitivesAs, primitivesAs, filter_congr]
  intro record member
  rw [same record member]

lemma any_concat (changes : List (String × Bool)) (change : String × Bool) (key : BatchKey) :
    (∃ other ∈ changes ++ [change], before.objectIdToBatchKey other.1 = some key) ↔
      (∃ other ∈ changes, before.objectIdToBatchKey other.1 = some key) ∨
        before.objectIdToBatchKey change.1 = some key := by
  simp only [mem_append, mem_singleton, or_and_right, exists_or, exists_eq_left]

lemma isLayerVisible_congr {other : PtrScene} (same : other.layers = scene.layers)
    (layerId : String) : other.isLayerVisible layerId = scene.isLayerVisible layerId := by
  rw [isLayerVisible, isLayerVisible, same]

lemma flagged_onLayer (flagged : Flagged recordsAt before changes scene) {objectId : String}
    (same : scene.objectLayerById objectId = before.objectLayerById objectId) :
    (match scene.objectLayerById objectId with
      | some layer => scene.isLayerVisible layer
      | none => true) = (before.objectLayerById objectId).all before.isLayerVisible := by
  rw [same]
  cases before.objectLayerById objectId with
  | none => rfl
  | some layer => exact isLayerVisible_congr flagged.layers layer

lemma flagged_single (flagged : Flagged recordsAt before changes scene)
    (filed : ∀ key, ∀ record ∈ recordsAt key, before.objectIdToBatchKey record.objectId = some key)
    {objectId : String} (visible : Bool) (unfiled : before.objectIdToBatchKey objectId = none) :
    ∃ next, scene.setObjectVisible mem objectId visible = some next ∧
      Flagged recordsAt before (changes ++ [(objectId, visible)]) next := by
  have entry := flagged.entries objectId unfiled
  have apart : ∀ id key, before.objectIdToBatchKey id = some key → id ≠ objectId := by
    intro id key isKey same
    rw [same, unfiled] at isKey
    cases isKey
  have batches : ∀ key (hidden : String → Bool), (∀ id, id ≠ objectId →
      hidden id = scene.hiddenObjects id) →
      scene.layerBatches.lookup key = (before.layerBatches.lookup key).map fun batch =>
        if ∃ change ∈ changes ++ [(objectId, visible)],
            before.objectIdToBatchKey change.1 = some key then
          redrawn key hidden (recordsAt key) batch
        else batch := by
    intro key hidden same
    rw [flagged.batches key]
    congr 1
    funext batch
    simp only [any_concat, unfiled]
    have noKey : ¬ (none : Option BatchKey) = some key := by simp
    simp only [noKey, or_false]
    split
    · rw [redrawn, redrawn, primitivesAs_congr]
      intro record member
      exact (same record.objectId (apart _ key (filed key record member))).symm
    · rfl
  rw [setObjectVisible, flagged.keys, unfiled]
  dsimp only
  cases node : scene.objectsById objectId with
  | none =>
    refine ⟨scene, rfl, flagged.layers, flagged.keys, ?_, ?_, flagged.placeholders,
      fun key => batches key scene.hiddenObjects fun _ _ => rfl⟩
    · intro id key isKey
      rw [lastFlag_concat, if_neg (apart id key isKey)]
      exact flagged.hidden id key isKey
    · intro id isUnfiled
      refine ⟨?_, (flagged.entries id isUnfiled).2⟩
      rw [(flagged.entries id isUnfiled).1, flaggedEntry, flaggedEntry, lastFlag_concat]
      by_cases same : id = objectId
      · have missing : before.objectsById objectId = none :=
          flaggedEntry_none (entry.1.symm.trans node)
        rw [if_pos same, same, missing]
        split <;> rfl
      · rw [if_neg same]
  | some object =>
    refine ⟨_, rfl, flagged.layers, rfl, ?_, ?_, ?_, fun key => batches key _ fun id different =>
      update_of_ne different _ _⟩
    · intro id key isKey
      dsimp only
      rw [lastFlag_concat, if_neg (apart id key isKey), update_of_ne (apart id key isKey)]
      exact flagged.hidden id key isKey
    · intro id isUnfiled
      refine ⟨?_, (flagged.entries id isUnfiled).2⟩
      dsimp only
      rw [flaggedEntry, lastFlag_concat]
      by_cases same : id = objectId
      · rcases flaggedEntry_some (entry.1.symm.trans node) with ⟨old, isOld, sameNode⟩
        have onLayer := flagged_onLayer flagged entry.2
        rw [if_pos same, same, update_self, isOld, sameNode]
        exact congrArg (fun shown => some (SceneObject.mk old.node (visible && shown))) onLayer
      · rw [if_neg same, update_of_ne same, (flagged.entries id isUnfiled).1, flaggedEntry]
    · intro id key isKey
      dsimp only
      rw [update_of_ne (apart id key isKey)]
      exact flagged.placeholders id key isKey

lemma flagged_filed (flagged : Flagged recordsAt before changes scene)
    (filed : ∀ key, ∀ record ∈ recordsAt key, before.objectIdToBatchKey record.objectId = some key)
    {objectId : String} (visible : Bool) (isFiled : before.objectIdToBatchKey objectId = some key)
    (denotes : ∀ batch, before.layerBatches.lookup key = some batch →
      Denotes mem batch.objects (recordsAt key)) :
    ∃ next, scene.setObjectVisible mem objectId visible = some next ∧
      Flagged recordsAt before (changes ++ [(objectId, visible)]) next := by
  have sameObjects : ∀ batch, scene.layerBatches.lookup key = some batch →
      Denotes mem batch.objects (recordsAt key) := by
    intro batch found
    rw [flagged.batches key, map_eq_some_iff] at found
    rcases found with ⟨old, isOld, rfl⟩
    have same : (if ∃ change ∈ changes, before.objectIdToBatchKey change.1 = some key then
        redrawn key scene.hiddenObjects (recordsAt key) old else old).objects = old.objects := by
      split <;> rfl
    rw [same]
    exact denotes old isOld
  rw [setObjectVisible, flagged.keys, isFiled]
  dsimp only
  rcases @rebuildBatch_spec mem { scene with
    hiddenObjects := update scene.hiddenObjects objectId (!visible)
    objectsById := update scene.objectsById objectId none
    objectLayerById := if (scene.objectsById objectId).isSome then
        update scene.objectLayerById objectId none
      else scene.objectLayerById } recordsAt key sameObjects with ⟨batches, rebuilt, isThere⟩
  rw [flagged.keys] at rebuilt
  refine ⟨_, rebuilt, flagged.layers, rfl, ?_, ?_, ?_, ?_⟩
  · intro id other isKey
    dsimp only
    rw [lastFlag_concat, update_apply]
    by_cases same : id = objectId
    · rw [if_pos same, if_pos same]
    · rw [if_neg same, if_neg same]
      exact flagged.hidden id other isKey
  · intro id isUnfiled
    have different : id ≠ objectId := by
      rintro rfl
      rw [isFiled] at isUnfiled
      cases isUnfiled
    have entry := flagged.entries id isUnfiled
    constructor
    · rw [flaggedEntry, lastFlag_concat, if_neg different]
      exact (update_of_ne different _ _).trans entry.1
    · dsimp only
      split
      · exact (update_of_ne different _ _).trans entry.2
      · exact entry.2
  · intro id other isKey
    dsimp only
    by_cases same : id = objectId
    · rw [same, update_self]
      exact Or.inl rfl
    · rw [update_of_ne same]
      exact flagged.placeholders id other isKey
  · intro other
    dsimp only
    rw [isThere other]
    dsimp only
    rw [flagged.batches other, Option.map_map]
    congr 1
    funext batch
    simp only [comp_apply, any_concat, isFiled, some.injEq]
    by_cases same : other = key
    · subst same
      simp only [if_true, or_true]
      split <;> rfl
    · have apart : ¬ key = other := Ne.symm same
      simp only [same, apart, if_false, or_false]
      split
      · rw [redrawn, redrawn, primitivesAs_congr]
        intro record member
        have different : record.objectId ≠ objectId := by
          intro sameId
          have isOther := filed other record member
          rw [sameId, isFiled] at isOther
          exact apart (some.inj isOther)
        exact (update_of_ne different _ _).symm
      · rfl

lemma updateObjectVisibility_spec (changes : List (String × Bool))
    (filed : ∀ key, ∀ record ∈ recordsAt key, before.objectIdToBatchKey record.objectId = some key)
    (denotes : ∀ change ∈ changes, ∀ key, before.objectIdToBatchKey change.1 = some key →
      ∀ batch, before.layerBatches.lookup key = some batch →
        Denotes mem batch.objects (recordsAt key)) :
    ∃ scene, updateObjectVisibility mem before changes = some scene ∧
      Flagged recordsAt before changes scene := by
  induction changes using List.reverseRecOn with
  | nil =>
    refine ⟨before, rfl, rfl, rfl, fun _ _ _ => rfl, fun _ _ => ⟨rfl, rfl⟩,
      fun _ _ _ => Or.inr rfl, ?_⟩
    intro key
    simp only [not_mem_nil, false_and, exists_false, if_false, Option.map_id']
  | append_singleton changes change ih =>
    rcases ih (fun other member => denotes other (mem_append_left _ member)) with
      ⟨scene, done, flagged⟩
    have last := denotes change (mem_append_right _ (List.mem_singleton.mpr rfl))
    have step : ∃ next, scene.setObjectVisible mem change.1 change.2 = some next ∧
        Flagged recordsAt before (changes ++ [change]) next := by
      cases filedAt : before.objectIdToBatchKey change.1 with
      | none => exact flagged_single flagged filed change.2 filedAt
      | some key => exact flagged_filed flagged filed change.2 filedAt (last key filedAt)
    rcases step with ⟨next, isNext, isFlagged⟩
    refine ⟨next, ?_, isFlagged⟩
    rw [updateObjectVisibility] at done ⊢
    rw [foldlM_append, done]
    rw [bind_eq_bind, bind_some, foldlM_cons, isNext]
    rfl

end PtrScene

end OpenRoad.Viewer
