import OpenRoad.Viewer.SceneInvariant

/-! What is drawn when a layer is switched off and on again. -/

namespace OpenRoad.Viewer

open OpenRoad.Lib Option

namespace OsgScene

variable {scene : OsgScene} {id layerId : String} {key : BatchKey} {batch : LayerBatch}
  {record : ObjectRecord} {visible : Bool}

def Draws (batch : LayerBatch) (id : String) : Prop :=
  ∃ primitive ∈ batch.primitives, primitive.1.objectId = id ∧ primitive.2 ≠ 0

def ShownInBatch (scene : OsgScene) (id : String) : Prop :=
  ∃ key batch, scene.layerBatches key = some batch ∧ batch.nodeMask = true ∧ Draws batch id

def ShownAsNode (scene : OsgScene) (id : String) : Prop :=
  ∃ record, scene.objectsById id = some ⟨some record, true⟩

def Shown (scene : OsgScene) (id : String) : Prop := scene.ShownInBatch id ∨ scene.ShownAsNode id

def OnLayer (scene : OsgScene) (layerId id : String) : Prop :=
  ∃ record ∈ scene.records, record.objectId = id ∧ record.layerId = layerId

/-- `setLayerVisible(layerId, false)` hides the objects of the layer and no others. -/
def HidesLayer (scene : OsgScene) (layerId : String) : Prop :=
  ∀ id, (scene.setLayerVisible layerId false).Shown id ↔ scene.Shown id ∧ ¬ scene.OnLayer layerId id

/-- `setLayerVisible(layerId, true)` after it brings back what was drawn before. -/
def RestoresLayer (scene : OsgScene) (layerId : String) : Prop :=
  ∀ id, ((scene.setLayerVisible layerId false).setLayerVisible layerId true).Shown id ↔
    scene.Shown id

/-- Batches under a key that starts with `layerId_` belong to the layer and are on. -/
def LayerOn (scene : OsgScene) (layerId : String) : Prop :=
  (∀ key batch id, scene.layerBatches key = some batch → startsWith key layerId →
    Draws batch id → key.layerId = layerId ∧ batch.nodeMask = true) ∧
  ∀ id record visible, scene.objectsById id = some ⟨some record, visible⟩ →
    record.layerId = layerId → visible = true

lemma startsWith_own (key : BatchKey) : startsWith key key.layerId := by
  refine ⟨key.type.text.toList, ?_⟩
  simp only [BatchKey.text, String.toList_append, List.append_assoc]

lemma draws_record (consistent : scene.Consistent) (found : scene.layerBatches key = some batch)
    (draws : Draws batch id) : ∃ record ∈ scene.records, record.objectId = id ∧
      record.batched = true ∧ key = record.key ∧ scene.objectIdToBatchKey id = some key := by
  rcases draws with ⟨primitive, member, rfl, _⟩
  rw [consistent.synced key batch found, primitivesOf] at member
  rcases List.mem_map.mp member with ⟨record, kept, rfl⟩
  have its := consistent.filed.batches key batch found record (List.mem_filter.mp kept).1
  rcases consistent.filed.keys record.objectId key its.2.2 with ⟨other, there, sameId, _, isKey⟩
  have same := record_unique consistent.filed.unique there its.1 sameId
  exact ⟨record, its.1, rfl, its.2.1, same ▸ isKey, its.2.2⟩

lemma draws_onLayer (consistent : scene.Consistent)
    (found : scene.layerBatches key = some batch) (draws : Draws batch id) :
    scene.OnLayer layerId id ↔ key.layerId = layerId := by
  rcases draws_record consistent found draws with ⟨record, there, sameId, _, rfl, _⟩
  constructor
  · rintro ⟨other, isRecord, same, onLayer⟩
    rw [← record_unique consistent.filed.unique isRecord there (same.trans sameId.symm)]
    exact onLayer
  · intro same
    exact ⟨record, there, sameId, same⟩

lemma node_onLayer (consistent : scene.Consistent)
    (node : scene.objectsById id = some ⟨some record, visible⟩) :
    scene.OnLayer layerId id ↔ record.layerId = layerId := by
  have its := consistent.filed.nodes id record visible node
  constructor
  · rintro ⟨other, isRecord, same, onLayer⟩
    rw [← record_unique consistent.filed.unique isRecord its.1 (same.trans its.2.1.symm)]
    exact onLayer
  · intro same
    exact ⟨record, its.1, its.2.1, same⟩

lemma draws_not_node (consistent : scene.Consistent)
    (found : scene.layerBatches key = some batch) (draws : Draws batch id)
    (node : scene.objectsById id = some ⟨some record, visible⟩) : False := by
  rcases draws_record consistent found draws with ⟨other, there, sameId, batched, _⟩
  have its := consistent.filed.nodes id record visible node
  have same := record_unique consistent.filed.unique there its.1 (sameId.trans its.2.1.symm)
  rw [same, its.2.2.1] at batched
  cases batched

lemma draws_shown (consistent : scene.Consistent)
    (found : scene.layerBatches key = some batch) (draws : Draws batch id) :
    scene.Shown id ↔ batch.nodeMask = true := by
  constructor
  · intro shown
    rcases shown with ⟨otherKey, other, isThere, mask, otherDraws⟩ | ⟨record, node⟩
    · rcases draws_record consistent found draws with ⟨_, _, _, _, _, first⟩
      rcases draws_record consistent isThere otherDraws with ⟨_, _, _, _, _, second⟩
      have sameKey : key = otherKey := Option.some.inj (first.symm.trans second)
      subst sameKey
      have same : batch = other := Option.some.inj (found.symm.trans isThere)
      rw [same]
      exact mask
    · exact (draws_not_node consistent found draws node).elim
  · intro mask
    exact Or.inl ⟨key, batch, found, mask, draws⟩

lemma node_shown (consistent : scene.Consistent)
    (node : scene.objectsById id = some ⟨some record, visible⟩) :
    scene.Shown id ↔ visible = true := by
  constructor
  · intro shown
    rcases shown with ⟨key, batch, found, _, draws⟩ | ⟨other, isNode⟩
    · exact (draws_not_node consistent found draws node).elim
    · have same := Option.some.inj (node.symm.trans isNode)
      simp only [SceneObject.mk.injEq] at same
      exact same.2
  · rintro rfl
    exact Or.inr ⟨record, node⟩

lemma setLayerVisible_batches (consistent : scene.Consistent)
    (known : (scene.layers layerId).isSome) (visible : Bool) (key : BatchKey) :
    (scene.setLayerVisible layerId visible).layerBatches key =
      (scene.layerBatches key).map fun batch =>
        if startsWith key layerId then { batch with nodeMask := visible } else batch := by
  rcases isSome_iff_exists.mp known with ⟨layer, isLayer⟩
  simp only [setLayerVisible, isLayer]
  cases found : scene.layerBatches key with
  | none => rfl
  | some batch =>
    simp only [map_some, Option.some.injEq]
    split
    · cases visible with
      | false => rfl
      | true =>
        rw [LayerBatch.mk.injEq]
        refine ⟨rfl, ?_, rfl⟩
        rw [consistent.synced key batch found]
        simp only [if_true]
        apply primitivesOf_congr
        intro object member
        have its := (consistent.filed.batches key batch found object member).2.2
        rw [if_neg]
        simp [individual, its]
    · rfl

lemma individual_node (consistent : scene.Consistent)
    (node : scene.objectsById id = some ⟨some record, visible⟩) :
    scene.individual layerId id = true ↔ record.layerId = layerId := by
  have its := consistent.filed.nodes id record visible node
  have unfiled : scene.objectIdToBatchKey id = none := by
    cases filedAt : scene.objectIdToBatchKey id with
    | none => rfl
    | some key =>
      rcases consistent.filed.keys id key filedAt with ⟨other, there, sameId, batched, _⟩
      have same := record_unique consistent.filed.unique there its.1 (sameId.trans its.2.1.symm)
      rw [same, its.2.2.1] at batched
      cases batched
  simp [individual, node, its.2.2.2, unfiled]

lemma setLayerVisible_node (consistent : scene.Consistent)
    (known : (scene.layers layerId).isSome) (value : Bool)
    (node : scene.objectsById id = some ⟨some record, visible⟩) :
    (scene.setLayerVisible layerId value).objectsById id =
      some ⟨some record, if record.layerId = layerId then value else visible⟩ := by
  rcases isSome_iff_exists.mp known with ⟨layer, isLayer⟩
  simp only [setLayerVisible, isLayer]
  by_cases onLayer : record.layerId = layerId
  · rw [if_pos ((individual_node consistent node).mpr onLayer), node, if_pos onLayer]
    rfl
  · rw [if_neg (fun inside => onLayer ((individual_node consistent node).mp inside)), node,
      if_neg onLayer]

def Placed (scene : OsgScene) (id : String) : Prop :=
  (∃ key batch, scene.layerBatches key = some batch ∧ Draws batch id) ∨
    ∃ record value, scene.objectsById id = some ⟨some record, value⟩

lemma shown_placed (shown : scene.Shown id) : scene.Placed id := by
  rcases shown with ⟨key, batch, found, _, draws⟩ | ⟨record, node⟩
  · exact Or.inl ⟨key, batch, found, draws⟩
  · exact Or.inr ⟨record, true, node⟩

lemma setLayerVisible_placed (consistent : scene.Consistent)
    (known : (scene.layers layerId).isSome)
    (placed : (scene.setLayerVisible layerId visible).Placed id) : scene.Placed id := by
  rcases placed with ⟨key, batch, found, draws⟩ | ⟨record, value, node⟩
  · rw [setLayerVisible_batches consistent known] at found
    rcases map_eq_some_iff.mp found with ⟨old, there, rfl⟩
    refine Or.inl ⟨key, old, there, ?_⟩
    split at draws
    · exact draws
    · exact draws
  · apply Or.inr
    rcases isSome_iff_exists.mp known with ⟨layer, isLayer⟩
    simp only [setLayerVisible, isLayer] at node
    split at node
    · rcases map_eq_some_iff.mp node with ⟨old, there, isNew⟩
      simp only [SceneObject.mk.injEq] at isNew
      exact ⟨record, old.visible, by rw [there]; congr 1; rw [← isNew.1]⟩
    · exact ⟨record, value, node⟩

lemma setLayerVisible_known (known : (scene.layers layerId).isSome) (visible : Bool) :
    ((scene.setLayerVisible layerId visible).layers layerId).isSome := by
  rcases isSome_iff_exists.mp known with ⟨layer, isLayer⟩
  simp only [setLayerVisible, isLayer, Function.update_self, isSome_some]

section Toggle

variable (consistent : scene.Consistent) (known : (scene.layers layerId).isSome)

include consistent known

lemma toggle_draws (found : scene.layerBatches key = some batch) (draws : Draws batch id) :
    ((scene.setLayerVisible layerId false).Shown id ↔
      ¬ startsWith key layerId ∧ batch.nodeMask = true) ∧
    (((scene.setLayerVisible layerId false).setLayerVisible layerId true).Shown id ↔
      startsWith key layerId ∨ batch.nodeMask = true) := by
  have off := setLayerVisible_consistent consistent layerId false
  have on := setLayerVisible_consistent off layerId true
  have offFound := setLayerVisible_batches consistent known false key
  have onFound := setLayerVisible_batches off (setLayerVisible_known known false) true key
  rw [found, map_some] at offFound
  rw [offFound, map_some] at onFound
  by_cases starts : startsWith key layerId
  · rw [if_pos starts] at offFound onFound
    rw [if_pos starts] at onFound
    rw [draws_shown off offFound draws, draws_shown on onFound draws]
    simp [starts]
  · rw [if_neg starts] at offFound onFound
    rw [if_neg starts] at onFound
    rw [draws_shown off offFound draws, draws_shown on onFound draws]
    simp [starts]

lemma toggle_node (node : scene.objectsById id = some ⟨some record, visible⟩) :
    ((scene.setLayerVisible layerId false).Shown id ↔ record.layerId ≠ layerId ∧ visible = true) ∧
    (((scene.setLayerVisible layerId false).setLayerVisible layerId true).Shown id ↔
      record.layerId = layerId ∨ visible = true) := by
  have off := setLayerVisible_consistent consistent layerId false
  have on := setLayerVisible_consistent off layerId true
  have offNode := setLayerVisible_node consistent known false node
  have onNode := setLayerVisible_node off (setLayerVisible_known known false) true offNode
  rw [node_shown off offNode, node_shown on onNode]
  by_cases onLayer : record.layerId = layerId
  · simp [onLayer]
  · simp [onLayer]

lemma toggle_iff :
    scene.HidesLayer layerId ∧ scene.RestoresLayer layerId ↔ scene.LayerOn layerId := by
  constructor
  · rintro ⟨hides, restores⟩
    constructor
    · intro key batch id found starts draws
      have both := toggle_draws consistent known found draws
      have shown := (restores id).mp (both.2.mpr (Or.inl starts))
      refine ⟨?_, (draws_shown consistent found draws).mp shown⟩
      by_contra other
      have stays := (hides id).mpr ⟨shown, fun onLayer =>
        other ((draws_onLayer consistent found draws).mp onLayer)⟩
      exact (both.1.mp stays).1 starts
    · intro id record visible node onLayer
      have both := toggle_node consistent known node
      exact (node_shown consistent node).mp ((restores id).mp (both.2.mpr (Or.inl onLayer)))
  · rintro ⟨batches, nodes⟩
    have off := setLayerVisible_consistent consistent layerId false
    have drawn : ∀ key batch id, scene.layerBatches key = some batch → Draws batch id →
        ((scene.setLayerVisible layerId false).Shown id ↔
          scene.Shown id ∧ ¬ scene.OnLayer layerId id) ∧
        (((scene.setLayerVisible layerId false).setLayerVisible layerId true).Shown id ↔
          scene.Shown id) := by
      intro key batch id found draws
      have both := toggle_draws consistent known found draws
      rw [both.1, both.2, draws_shown consistent found draws, draws_onLayer consistent found draws]
      by_cases starts : startsWith key layerId
      · have own := batches key batch id found starts draws
        simp [starts, own]
      · have different : key.layerId ≠ layerId := fun same => starts (same ▸ startsWith_own key)
        simp [starts, different]
    have single : ∀ id record visible, scene.objectsById id = some ⟨some record, visible⟩ →
        ((scene.setLayerVisible layerId false).Shown id ↔
          scene.Shown id ∧ ¬ scene.OnLayer layerId id) ∧
        (((scene.setLayerVisible layerId false).setLayerVisible layerId true).Shown id ↔
          scene.Shown id) := by
      intro id record visible node
      have both := toggle_node consistent known node
      rw [both.1, both.2, node_shown consistent node, node_onLayer consistent node]
      by_cases onLayer : record.layerId = layerId
      · have isOn := nodes id record visible node onLayer
        simp [onLayer, isOn]
      · simp [onLayer]
    have each : ∀ id, ((scene.setLayerVisible layerId false).Shown id ↔
        scene.Shown id ∧ ¬ scene.OnLayer layerId id) ∧
        (((scene.setLayerVisible layerId false).setLayerVisible layerId true).Shown id ↔
          scene.Shown id) := by
      intro id
      by_cases placed : scene.Placed id
      · rcases placed with ⟨key, batch, found, draws⟩ | ⟨record, value, node⟩
        · exact drawn key batch id found draws
        · exact single id record value node
      · -- an object that is drawn nowhere stays so
        have nowhere : ¬ scene.Shown id := fun shown => placed (shown_placed shown)
        have nowhereOff : ¬ (scene.setLayerVisible layerId false).Shown id := fun shown =>
          placed (setLayerVisible_placed consistent known (shown_placed shown))
        have nowhereOn :
            ¬ ((scene.setLayerVisible layerId false).setLayerVisible layerId true).Shown id := by
          intro shown
          have placedOff :=
            setLayerVisible_placed off (setLayerVisible_known known false) (shown_placed shown)
          exact placed (setLayerVisible_placed consistent known placedOff)
        exact ⟨iff_of_false nowhereOff fun both => nowhere both.1, iff_of_false nowhereOn nowhere⟩
    exact ⟨fun id => (each id).1, fun id => (each id).2⟩

end Toggle

/-- Switching is local and reversible exactly if the layer is on and no other key starts like its
keys. -/
theorem setLayerVisible_exact (frustum : Frustum ℚ) (culling lazy : Bool) (calls : List OsgCall)
    (unique : ∀ call ∈ calls, call.UniqueIds) (layerId : String)
    (known : ((run after (new frustum culling lazy) calls).layers layerId).isSome) :
    (run after (new frustum culling lazy) calls).HidesLayer layerId ∧
      (run after (new frustum culling lazy) calls).RestoresLayer layerId ↔
      (run after (new frustum culling lazy) calls).LayerOn layerId :=
  toggle_iff (run_consistent frustum culling lazy calls unique) known

def sampleLayer (layerId : String) : LayerRecord :=
  ⟨layerId, layerId, true, true, "", 1, .Solid⟩

def sampleWire (objectId layerId : String) : ObjectRecord where
  objectId := objectId
  type := .Wire
  layerId := layerId
  groupId := ""
  visible := true
  transform := []
  bboxMin := ⟨0, 0, 0⟩
  bboxMax := ⟨1, 1, 1⟩
  hasBbox := true
  geometryRef := ""
  styleRef := ""
  displayName := ""
  isHorizontal := true

/-- A wire on layer `m1` and one on another layer. -/
def twoLayers (other : String) : SceneSnapshot :=
  ⟨[sampleLayer "m1", sampleLayer other], [sampleWire "a" "m1", sampleWire "b" other]⟩

def flatFrustum (offset : ℚ) : Frustum ℚ := ⟨List.replicate 6 ⟨0, 0, 0, offset⟩, rfl⟩

def loadedTwoLayers (other : String) : OsgScene :=
  run after (new (flatFrustum 0) false false) [.loadSnapshot (twoLayers other)]

lemma twoLayers_unique (other : String) :
    ∀ call ∈ [OsgCall.loadSnapshot (twoLayers other)], call.UniqueIds := by
  intro call member
  rw [List.mem_singleton.mp member]
  show (["a", "b"] : List String).Nodup
  decide

theorem setLayerVisible_exact_sample :
    (loadedTwoLayers "m2").HidesLayer "m1" ∧ (loadedTwoLayers "m2").RestoresLayer "m1" := by
  have unique := twoLayers_unique "m2"
  have consistent : (loadedTwoLayers "m2").Consistent := run_consistent _ false false _ unique
  have members : ∀ record ∈ (loadedTwoLayers "m2").records,
      record = sampleWire "a" "m1" ∨ record = sampleWire "b" "m2" :=
    fun record there => List.mem_pair.mp there
  apply (setLayerVisible_exact _ false false _ unique "m1" (by decide)).mpr
  constructor
  · intro key batch id found starts draws
    rcases draws_record consistent found draws with ⟨record, there, _, _, rfl, _⟩
    rcases members record there with rfl | rfl
    · refine ⟨rfl, ?_⟩
      have masks : ((loadedTwoLayers "m2").layerBatches (sampleWire "a" "m1").key).all
          LayerBatch.nodeMask = true := by decide
      have mask := masks
      rw [show (loadedTwoLayers "m2").layerBatches (sampleWire "a" "m1").key = some batch from found]
        at mask
      exact mask
    · exact absurd starts (by decide)
  · intro id record visible node _
    have single := (consistent.filed.nodes id record visible node).2.2.1
    rcases members record (consistent.filed.nodes id record visible node).1 with rfl | rfl
    · cases single
    · cases single

theorem longer_layer_hidden :
    ¬ ∀ calls : List OsgCall, (∀ call ∈ calls, call.UniqueIds) → ∀ frustum culling lazy layerId,
      ((run after (new frustum culling lazy) calls).layers layerId).isSome →
      (run after (new frustum culling lazy) calls).HidesLayer layerId ∧
        (run after (new frustum culling lazy) calls).RestoresLayer layerId := by
  intro allExact
  have unique := twoLayers_unique "m1_x"
  have consistent : (loadedTwoLayers "m1_x").Consistent := run_consistent _ false false _ unique
  have known : ((loadedTwoLayers "m1_x").layers "m1").isSome := by decide
  have on := (toggle_iff consistent known).mp (allExact _ unique _ false false "m1" known)
  have drawn : ∃ batch, (loadedTwoLayers "m1_x").layerBatches ⟨"m1_x", .Wire⟩ = some batch ∧
      Draws batch "b" :=
    ⟨⟨[sampleWire "b" "m1_x"], [(sampleWire "b" "m1_x", 12)], true⟩, by decide,
      _, List.mem_singleton.mpr rfl, rfl, by decide⟩
  rcases drawn with ⟨batch, found, draws⟩
  have own := (on.1 ⟨"m1_x", .Wire⟩ batch "b" found (by decide) draws).1
  exact absurd own (by decide)

/-- No object is drawn by two batches, or by a batch and a node of its own. -/
theorem drawn_once (frustum : Frustum ℚ) (culling lazy : Bool) (calls : List OsgCall)
    (unique : ∀ call ∈ calls, call.UniqueIds) (id : String) (key : BatchKey) (batch : LayerBatch)
    (found : (run after (new frustum culling lazy) calls).layerBatches key = some batch)
    (draws : Draws batch id) :
    (∀ key' batch', (run after (new frustum culling lazy) calls).layerBatches key' = some batch' →
      Draws batch' id → key' = key) ∧
      ¬ (run after (new frustum culling lazy) calls).ShownAsNode id := by
  have consistent := run_consistent frustum culling lazy calls unique
  rcases draws_record consistent found draws with ⟨record, there, sameId, batched, _, keyed⟩
  constructor
  · intro key' batch' found' draws'
    rcases draws_record consistent found' draws' with ⟨_, _, _, _, _, keyed'⟩
    exact Option.some.inj (keyed'.symm.trans keyed)
  · rintro ⟨node, isNode⟩
    rcases consistent.filed.nodes id node true isNode with ⟨inRecords, sameNode, single, _⟩
    have same := record_unique consistent.filed.unique inRecords there
      (sameNode.trans sameId.symm)
    rw [same, batched] at single
    cases single

theorem drawn_once_sample :
    (∀ key' batch', (loadedTwoLayers "m2").layerBatches key' = some batch' → Draws batch' "b" →
      key' = ⟨"m2", .Wire⟩) ∧ ¬ (loadedTwoLayers "m2").ShownAsNode "b" :=
  drawn_once _ false false _ (twoLayers_unique "m2") "b" ⟨"m2", .Wire⟩
    ⟨[sampleWire "b" "m2"], [(sampleWire "b" "m2", 12)], true⟩ (by decide)
    ⟨_, List.mem_singleton.mpr rfl, rfl, by decide⟩

end OsgScene

end OpenRoad.Viewer
