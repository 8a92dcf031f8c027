import OpenRoad.Lib.Runs
import OpenRoad.Viewer.SceneTypes

/-! The backend's index of its snapshot: addresses of records as slots of the vector of objects. -/

namespace OpenRoad.Viewer

open OpenRoad.Lib List Function

abbrev SlotMap := String → Option Nat

/-- `scene` says whether `scene_` is set. -/
structure Backend where
  scene : Bool
  objects : List ObjectRecord
  objectIndex : SlotMap

/-- `for (i = first; ...; i++) index[objects[i].objectId] = i`. -/
def indexFrom : Nat → List ObjectRecord → SlotMap → SlotMap
  | _, [], index => index
  | slot, object :: objects, index =>
    indexFrom (slot + 1) objects (update index object.objectId (some slot))

def Backend.loadScene (backend : Backend) (snapshot : SceneSnapshot) : Backend :=
  if backend.scene then
    { backend with
      objects := snapshot.objects
      objectIndex := indexFrom 0 snapshot.objects fun _ => none }
  else { backend with objects := snapshot.objects }

def equalExceptVisible (a b : ObjectRecord) : Bool :=
  a.objectId = b.objectId && a.type = b.type && a.layerId = b.layerId && a.groupId = b.groupId &&
    a.transform = b.transform && a.bboxMin = b.bboxMin && a.bboxMax = b.bboxMax &&
    a.hasBbox = b.hasBbox && a.geometryRef = b.geometryRef && a.styleRef = b.styleRef &&
    a.displayName = b.displayName

/-- The variables of the loop of `updateObjects`. -/
structure UpdateLoop where
  objects : List ObjectRecord
  objectIndexById : SlotMap
  objectIndex : SlotMap
  fullUpdates : List ObjectRecord
  visibilityOnlyUpdates : List (String × Bool)

def UpdateLoop.body (loop : UpdateLoop) (object : ObjectRecord) : UpdateLoop :=
  match loop.objectIndexById object.objectId with
  | none =>
    { loop with
      objects := loop.objects ++ [object]
      objectIndexById :=
        update loop.objectIndexById object.objectId (some loop.objects.length)
      objectIndex := update loop.objectIndex object.objectId (some loop.objects.length)
      fullUpdates := loop.fullUpdates ++ [object] }
  | some slot =>
    match loop.objects[slot]? with
    | none => loop
    | some existing =>
      if existing.visible ≠ object.visible ∧ equalExceptVisible existing object then
        { loop with
          objects := loop.objects.set slot { existing with visible := object.visible }
          visibilityOnlyUpdates :=
            loop.visibilityOnlyUpdates ++ [(object.objectId, object.visible)] }
      else
        { loop with
          objects := loop.objects.set slot object
          fullUpdates := loop.fullUpdates ++ [object]
          objectIndex := update loop.objectIndex object.objectId (some slot) }

def Backend.updateLoop (backend : Backend) (objects : List ObjectRecord) : UpdateLoop :=
  objects.foldl UpdateLoop.body
    ⟨backend.objects, indexFrom 0 backend.objects fun _ => none, backend.objectIndex, [], []⟩

def Backend.updateObjects (backend : Backend) (objects : List ObjectRecord) : Backend :=
  let loop := backend.updateLoop objects
  { backend with objects := loop.objects, objectIndex := loop.objectIndex }

def Backend.removeObjects (backend : Backend) (objectIds : List String) : Backend :=
  { backend with objects := backend.objects.filter fun object => object.objectId ∉ objectIds }

def Backend.clearScene (backend : Backend) : Backend := { backend with objects := [] }

/-- The slot that the result points to; `none` is a null pointer. -/
def Backend.findObjectById (backend : Backend) (objectId : String) : Option Nat :=
  backend.objectIndex objectId

def idAt (objects : List ObjectRecord) (slot : Nat) : Option String :=
  objects[slot]?.map ObjectRecord.objectId

def Indexes (index : SlotMap) (objects : List ObjectRecord) : Prop :=
  ∀ id slot, index id = some slot ↔ idAt objects slot = some id

abbrev ids (objects : List ObjectRecord) : List String := objects.map ObjectRecord.objectId

variable {index : SlotMap} {objects objects' : List ObjectRecord} {id : String} {slot : Nat}

lemma idAt_eq (objects : List ObjectRecord) (slot : Nat) : idAt objects slot = (ids objects)[slot]? := by
  rw [idAt, getElem?_map]

lemma idAt_mem (there : idAt objects slot = some id) : id ∈ ids objects := by
  rw [idAt_eq] at there
  exact mem_of_getElem? there

lemma mem_idAt (member : id ∈ ids objects) : ∃ slot, idAt objects slot = some id := by
  rcases mem_iff_getElem?.mp member with ⟨slot, there⟩
  exact ⟨slot, (idAt_eq objects slot).trans there⟩

lemma indexFrom_spec (first : Nat) (objects : List ObjectRecord) (index : SlotMap)
    (nodup : (ids objects).Nodup) (id : String) :
    indexFrom first objects index id =
      if id ∈ ids objects then some (first + (ids objects).idxOf id) else index id := by
  induction objects generalizing first index with
  | nil => rfl
  | cons object objects ih =>
    rcases nodup_cons.mp nodup with ⟨absent, rest⟩
    rw [indexFrom, ih (first + 1) _ rest]
    by_cases same : id = object.objectId
    · subst same
      have inside : object.objectId ∈ ids (object :: objects) := mem_cons_self
      rw [if_neg absent, if_pos inside, update_self, ids, map_cons,
        idxOf_cons_self]
      rfl
    · rw [update_of_ne same]
      have members : id ∈ ids (object :: objects) ↔ id ∈ ids objects := by
        rw [ids, map_cons, mem_cons]
        exact or_iff_right same
      simp only [members]
      have position : (ids (object :: objects)).idxOf id = (ids objects).idxOf id + 1 := by
        rw [ids, map_cons]
        exact idxOf_cons_ne _ (Ne.symm same)
      rw [position]
      split
      · congr 1
        omega
      · rfl

lemma indexes_indexFrom (nodup : (ids objects).Nodup) :
    Indexes (indexFrom 0 objects fun _ => none) objects := by
  intro id slot
  rw [indexFrom_spec 0 objects _ nodup, idAt_eq]
  constructor
  · intro found
    split at found
    · rename_i member
      rw [Nat.zero_add] at found
      rw [← Option.some.inj found]
      exact getElem?_idxOf member
    · cases found
  · intro there
    have member := mem_of_getElem? there
    rw [if_pos member, Nat.zero_add]
    congr 1
    rcases List.getElem?_eq_some_iff.mp there with ⟨bound, value⟩
    rw [← value]
    exact nodup.idxOf_getElem slot bound

lemma indexes_none (indexes : Indexes index objects) (missing : index id = none) :
    id ∉ ids objects := by
  intro member
  rcases mem_idAt member with ⟨slot, there⟩
  rw [(indexes id slot).mpr there] at missing
  cases missing

lemma indexes_push (object : ObjectRecord) (indexes : Indexes index objects)
    (absent : object.objectId ∉ ids objects) :
    Indexes (update index object.objectId (some objects.length)) (objects ++ [object]) := by
  intro id slot
  have there : idAt (objects ++ [object]) slot =
      if slot = objects.length then some object.objectId else idAt objects slot := by
    rw [idAt, idAt]
    rcases Nat.lt_trichotomy slot objects.length with below | same | above
    · rw [getElem?_append_left below, if_neg (Nat.ne_of_lt below)]
    · rw [if_pos same, same, getElem?_concat_length]
      rfl
    · rw [if_neg (Nat.ne_of_gt above), getElem?_eq_none (by simp; omega),
        getElem?_eq_none (Nat.le_of_lt above)]
  rw [there]
  by_cases same : id = object.objectId
  · subst same
    rw [update_self]
    constructor
    · intro value
      rw [← Option.some.inj value, if_pos rfl]
    · intro value
      split at value
      · rename_i last
        rw [last]
      · exact absurd (idAt_mem value) absent
  · rw [update_of_ne same, indexes id slot]
    constructor
    · intro old
      rw [if_neg]
      · exact old
      · intro last
        rw [last, idAt, getElem?_eq_none (Nat.le_refl _)] at old
        cases old
    · intro value
      split at value
      · exact absurd (Option.some.inj value).symm same
      · exact value

lemma ids_set (object : ObjectRecord) (there : idAt objects slot = some object.objectId) :
    ids (objects.set slot object) = ids objects := by
  rw [ids, map_set]
  apply ext_getElem?
  intro other
  rw [getElem?_set]
  split
  · rename_i same
    subst same
    rw [idAt_eq] at there
    rw [there, if_pos (List.getElem?_eq_some_iff.mp there).1]
  · rfl

lemma indexes_congr (same : ids objects' = ids objects) (indexes : Indexes index objects) :
    Indexes index objects' := by
  intro id slot
  rw [indexes id slot, idAt_eq, idAt_eq, same]

lemma indexes_update_same (indexes : Indexes index objects)
    (there : idAt objects slot = some id) : update index id (some slot) = index := by
  rw [← (indexes id slot).mpr there]
  exact update_eq_self id index

lemma indexes_ids (first : Indexes index objects) (second : Indexes index objects') : ids objects' = ids objects := by
  apply ext_getElem?
  intro slot
  rw [← idAt_eq, ← idAt_eq]
  apply Option.ext
  intro id
  exact (second id slot).symm.trans (first id slot)

structure UpdateLoop.Sound (loop : UpdateLoop) : Prop where
  nodup : (ids loop.objects).Nodup
  byId : Indexes loop.objectIndexById loop.objects

lemma UpdateLoop.sound_body {loop : UpdateLoop} (sound : loop.Sound) (object : ObjectRecord) :
    (loop.body object).Sound ∧ (Indexes loop.objectIndex loop.objects →
        Indexes (loop.body object).objectIndex (loop.body object).objects) := by
  rw [UpdateLoop.body]
  split
  · rename_i missing
    have absent := indexes_none sound.byId missing
    refine ⟨⟨?_, indexes_push object sound.byId absent⟩, ?_⟩
    · have appended : ids (loop.objects ++ [object]) = ids loop.objects ++ [object.objectId] := by
        simp only [ids, map_append, map_cons, map_nil]
      rw [appended]
      exact nodup_append.mpr ⟨sound.nodup, nodup_singleton _, by
        intro id inside other isOther
        rw [mem_singleton.mp isOther]
        rintro rfl
        exact absent inside⟩
    · intro indexes
      exact indexes_push object indexes absent
  · rename_i slot found
    have there := (sound.byId object.objectId slot).mp found
    split
    · exact ⟨sound, fun indexes => indexes⟩
    · rename_i existing isThere
      have sameId : existing.objectId = object.objectId := by
        rw [idAt, isThere] at there
        exact Option.some.inj there
      split
      · have same : ids (loop.objects.set slot { existing with visible := object.visible }) =
            ids loop.objects := ids_set _ (there.trans (congrArg some sameId.symm))
        refine ⟨⟨?_, indexes_congr same sound.byId⟩, indexes_congr same⟩
        rw [same]
        exact sound.nodup
      · have same : ids (loop.objects.set slot object) = ids loop.objects := ids_set object there
        refine ⟨⟨?_, indexes_congr same sound.byId⟩, ?_⟩
        · rw [same]
          exact sound.nodup
        · intro indexes
          rw [indexes_update_same indexes there]
          exact indexes_congr same indexes

lemma UpdateLoop.sound_fold (updates : List ObjectRecord) {loop : UpdateLoop} (sound : loop.Sound) :
    (updates.foldl UpdateLoop.body loop).Sound ∧ (Indexes loop.objectIndex loop.objects →
        Indexes (updates.foldl UpdateLoop.body loop).objectIndex
          (updates.foldl UpdateLoop.body loop).objects) := by
  induction updates generalizing loop with
  | nil => exact ⟨sound, fun indexes => indexes⟩
  | cons object updates ih =>
    have one := UpdateLoop.sound_body sound object
    have rest := ih one.1
    exact ⟨rest.1, fun indexes => rest.2 (one.2 indexes)⟩

inductive SceneCall where
  | loadScene (snapshot : SceneSnapshot)
  | updateObjects (objects : List ObjectRecord)
  | removeObjects (objectIds : List String)
  | clearScene

def Backend.after (backend : Backend) : SceneCall → Backend
  | .loadScene snapshot => backend.loadScene snapshot
  | .updateObjects objects => backend.updateObjects objects
  | .removeObjects objectIds => backend.removeObjects objectIds
  | .clearScene => backend.clearScene

def SceneCall.UniqueIds : SceneCall → Prop
  | .loadScene snapshot => snapshot.UniqueIds
  | _ => True

/-- A backend after `initialize`, or before. -/
def Backend.new (scene : Bool) : Backend := ⟨scene, [], fun _ => none⟩

def Backend.Exact (backend : Backend) : Prop :=
  ∀ id, match backend.findObjectById id with
    | some slot => idAt backend.objects slot = some id
    | none => id ∉ ids backend.objects

def Backend.Unique (backend : Backend) : Prop := (ids backend.objects).Nodup

/-- Nothing is removed from the snapshot, and none is loaded without a scene. -/
def Backend.KeepsIndex (backend : Backend) : SceneCall → Prop
  | .loadScene snapshot => backend.scene = true ∨ ids snapshot.objects = ids backend.objects
  | .updateObjects _ => True
  | .removeObjects objectIds => ∀ object ∈ backend.objects, object.objectId ∉ objectIds
  | .clearScene => backend.objects = []

variable {backend : Backend}

lemma exact_iff (nodup : (ids backend.objects).Nodup) :
    backend.Exact ↔ Indexes backend.objectIndex backend.objects := by
  constructor
  · intro exact id slot
    have here := exact id
    rw [Backend.findObjectById] at here
    constructor
    · intro found
      rw [found] at here
      exact here
    · intro there
      cases found : backend.objectIndex id with
      | none =>
        rw [found] at here
        exact absurd (idAt_mem there) here
      | some other =>
        rw [found] at here
        have both : (ids backend.objects)[other]? = (ids backend.objects)[slot]? := by
          rw [← idAt_eq, ← idAt_eq, there]
          exact here
        rw [idAt_eq] at there
        have bound := (List.getElem?_eq_some_iff.mp there).1
        rw [(getElem?_inj bound nodup).mp both.symm]
  · intro indexes id
    rw [Backend.findObjectById]
    split
    · rename_i slot found
      exact (indexes id slot).mp found
    · rename_i missing
      exact indexes_none indexes missing

lemma after_nodup (call : SceneCall) (unique : call.UniqueIds)
    (nodup : (ids backend.objects).Nodup) : (ids (backend.after call).objects).Nodup := by
  cases call with
  | loadScene snapshot =>
    have loaded : (backend.loadScene snapshot).objects = snapshot.objects := by
      rw [Backend.loadScene]
      split <;> rfl
    rw [Backend.after, loaded]
    exact unique
  | updateObjects objects =>
    exact (UpdateLoop.sound_fold objects ⟨nodup, indexes_indexFrom nodup⟩).1.nodup
  | removeObjects objectIds => exact Nodup.sublist (Sublist.map _ filter_sublist) nodup
  | clearScene => exact nodup_nil

lemma after_exact_iff (call : SceneCall) (unique : call.UniqueIds)
    (nodup : (ids backend.objects).Nodup) (exact : backend.Exact) :
    (backend.after call).Exact ↔ backend.KeepsIndex call := by
  have indexes := (exact_iff nodup).mp exact
  have nodup' := after_nodup call unique nodup
  rw [exact_iff nodup']
  cases call with
  | loadScene snapshot =>
    rw [Backend.after, Backend.loadScene, Backend.KeepsIndex]
    cases backend.scene with
    | true => exact iff_of_true (indexes_indexFrom unique) (Or.inl rfl)
    | false =>
      constructor
      · intro after
        exact Or.inr (indexes_ids indexes after)
      · intro either
        exact indexes_congr (either.resolve_left Bool.false_ne_true) indexes
  | updateObjects objects =>
    exact iff_of_true
      ((UpdateLoop.sound_fold objects ⟨nodup, indexes_indexFrom nodup⟩).2 indexes) trivial
  | removeObjects objectIds =>
    rw [Backend.after, Backend.removeObjects, Backend.KeepsIndex]
    constructor
    · intro after object inside listed
      have member : object.objectId ∈ ids backend.objects := mem_map_of_mem inside
      have shorter := (indexes_ids indexes after).symm ▸ member
      rcases mem_map.mp shorter with ⟨other, kept, same⟩
      have notListed := (mem_filter.mp kept).2
      rw [same] at notListed
      exact absurd listed (by simpa using notListed)
    · intro none
      rw [filter_eq_self.mpr (fun object inside => by simpa using none object inside)]
      exact indexes
  | clearScene =>
    rw [Backend.after, Backend.clearScene, Backend.KeepsIndex]
    constructor
    · intro after
      have empty := indexes_ids indexes after
      exact map_eq_nil_iff.mp empty.symm
    · intro empty
      rw [← empty]
      exact indexes

/-- Lookups stay exact along a run exactly if it removes nothing from the snapshot. -/
theorem findObjectById_exact (scene : Bool) (calls : List SceneCall)
    (unique : ∀ call ∈ calls, call.UniqueIds) :
    Throughout Backend.after Backend.Exact (Backend.new scene) calls ↔
      EachCall Backend.after Backend.KeepsIndex (Backend.new scene) calls := by
  have keeps : ∀ (backend : Backend) (call : SceneCall), call.UniqueIds → backend.Unique →
      (backend.after call).Unique := fun _ call => after_nodup call
  have exact : ∀ (backend : Backend) (call : SceneCall), call.UniqueIds → backend.Unique →
      backend.Exact → ((backend.after call).Exact ↔ backend.KeepsIndex call) :=
    fun _ call => after_exact_iff call
  have start : (Backend.new scene).Unique := nodup_nil
  have empty : (Backend.new scene).Exact := fun _ => not_mem_nil
  exact throughout_iff keeps exact unique start empty

def sampleObject (objectId : String) : ObjectRecord where
  objectId := objectId
  type := .Inst
  layerId := "m1"
  groupId := ""
  visible := true
  transform := []
  bboxMin := ⟨0, 0, 0⟩
  bboxMax := ⟨1, 1, 1⟩
  hasBbox := true
  geometryRef := ""
  styleRef := ""
  displayName := ""
  isHorizontal := true

def sampleSnapshot : SceneSnapshot := ⟨[], [sampleObject "a", sampleObject "b", sampleObject "c"]⟩

theorem findObjectById_exact_sample : Throughout Backend.after Backend.Exact (Backend.new true)
      [.loadScene sampleSnapshot, .updateObjects [sampleObject "b", sampleObject "d"]] := by
  have unique : ∀ call ∈ [SceneCall.loadScene sampleSnapshot,
      .updateObjects [sampleObject "b", sampleObject "d"]], call.UniqueIds := by
    intro call member
    rcases List.mem_pair.mp member with rfl | rfl
    · show (ids sampleSnapshot.objects).Nodup
      decide
    · trivial
  apply (findObjectById_exact true _ unique).mpr
  rw [eachCall_cons, eachCall_cons]
  exact ⟨Or.inl rfl, trivial, eachCall_nil⟩

theorem removed_object_found : ¬ ∀ calls : List SceneCall, (∀ call ∈ calls, call.UniqueIds) →
      Throughout Backend.after Backend.Exact (Backend.new true) calls := by
  intro allExact
  have unique : ∀ call ∈ [SceneCall.loadScene sampleSnapshot, .removeObjects ["a"]],
      call.UniqueIds := by
    intro call member
    rcases List.mem_pair.mp member with rfl | rfl
    · show (ids sampleSnapshot.objects).Nodup
      decide
    · trivial
  have exact := allExact _ unique _ (prefix_refl _) "b"
  have slot : (run Backend.after (Backend.new true)
      [.loadScene sampleSnapshot, .removeObjects ["a"]]).findObjectById "b" = some 1 := by
    decide
  rw [slot] at exact
  exact absurd exact (by decide)

end OpenRoad.Viewer
