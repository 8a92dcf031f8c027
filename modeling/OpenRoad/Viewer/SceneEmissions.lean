import OpenRoad.Viewer.SceneBuilder

/-! What the passes of the builder emit: for each object its id and the layer it asks for. -/

namespace OpenRoad.Viewer

open OpenRoad.Lib OpenRoad.Lib.Effect List
open OpenRoad.Odb (Rect)

def ObjectRecord.keys (object : ObjectRecord) : String × String := (object.objectId, object.layerId)

namespace OdbSceneBuilder

section Names

variable (lib : StandardLibrary)

def room : Nat → Nat × Nat
  | 0 => (kReservedLayers, 0)
  | count + 1 =>
    if count = (room count).1 then (lib.grow (room count).1, (room count).2 + 1) else room count

def bufferAt (count : Nat) : Nat := (room lib count).2

def Stale (names : List String) (name : String) : Prop :=
  name ∈ names ∧ bufferAt lib (names.idxOf name + 1) ≠ bufferAt lib names.length

instance (names : List String) (name : String) : Decidable (Stale lib names name) :=
  inferInstanceAs (Decidable (_ ∧ _))

def requested (names : List String) (name : String) : List String :=
  if name ∈ names then names else names ++ [name]

def play : List String → List String → Option (List String)
  | names, [] => some names
  | names, name :: rest =>
    if Stale lib names name then none else play (requested names name) rest

lemma play_append (names first second : List String) :
    play lib names (first ++ second) = (play lib names first).bind (play lib · second) := by
  induction first generalizing names with
  | nil => rfl
  | cons name first ih =>
    rw [cons_append, play, play]
    split
    · rfl
    · exact ih _

end Names

inductive PointerKind where
  | inst
  | wire (index : Nat)
  | viaBottom (index : Nat)
  | viaCut (index : Nat)
  | btermPin
  | itermPin (index : Nat)
  deriving DecidableEq

inductive IdScheme where
  | missing
  | pointer (ptr : Nat) (kind : PointerKind)
  | counted (stem : String)
  deriving DecidableEq

def PointerKind.text (ptr : Nat) : PointerKind → String
  | inst => makePointerObjectId ptr "inst" none ""
  | wire index => makePointerObjectId ptr "wire" (some index) ""
  | viaBottom index => makePointerObjectId ptr "via" (some index) "bottom"
  | viaCut index => makePointerObjectId ptr "via" (some index) "cut"
  | btermPin => makePointerObjectId ptr "bterm_pin" none ""
  | itermPin index => makePointerObjectId ptr "iterm_pin" (some index) ""

namespace IdScheme

def text (counter : Nat) : IdScheme → String
  | missing => ""
  | pointer ptr kind => kind.text ptr
  | counted stem => stem ++ "_" ++ toString counter

def next (counter : Nat) : IdScheme → Nat
  | counted _ => counter + 1
  | _ => counter

end IdScheme

/-- An object goes to the layer it asks for, or else has the layer id `fallback`. -/
structure Emission where
  id : IdScheme
  request : Option String
  fallback : String

def Emission.layerId (emission : Emission) : String := emission.request.getD emission.fallback

def resolve : Nat → List Emission → List (String × String)
  | _, [] => []
  | counter, emission :: emissions =>
    (emission.id.text counter, emission.layerId) :: resolve (emission.id.next counter) emissions

def counterAfter (counter : Nat) (emissions : List Emission) : Nat :=
  emissions.foldl (fun counter emission => emission.id.next counter) counter

def requestsOf (emissions : List Emission) : List String := emissions.filterMap Emission.request

lemma resolve_append (counter : Nat) (first second : List Emission) :
    resolve counter (first ++ second) =
      resolve counter first ++ resolve (counterAfter counter first) second := by
  induction first generalizing counter with
  | nil => rfl
  | cons emission first ih =>
    rw [cons_append, resolve, resolve, ih]
    rfl

lemma counterAfter_append (counter : Nat) (first second : List Emission) :
    counterAfter counter (first ++ second) = counterAfter (counterAfter counter first) second :=
  foldl_append

lemma requestsOf_append (first second : List Emission) :
    requestsOf (first ++ second) = requestsOf first ++ requestsOf second := filterMap_append

section Emissions

variable (db : SceneDatabase)

def instEmissions (inst : DbInst) : List Emission :=
  match inst.bbox with
  | none => []
  | some _ => [⟨.pointer inst.ptr .inst, some "instance", ""⟩]

def viaEmissions (wire index : Nat) (topLayer bottomLayer : TechLayer) : List Emission :=
  let swapped := getLayerZBase db topLayer < getLayerZBase db bottomLayer
  let physTopLayer := if swapped then bottomLayer else topLayer
  let physBottomLayer := if swapped then topLayer else bottomLayer
  [⟨.missing, some physTopLayer.name, ""⟩,
    ⟨.pointer wire (.viaBottom index), some physBottomLayer.name, ""⟩,
    ⟨.pointer wire (.viaCut index), some (getViaLayerName physTopLayer physBottomLayer ++ "_cut"), ""⟩]

def shapeEmissions (wire : Nat) : Nat → List DbShape → List Emission
  | _, [] => []
  | index, shape :: shapes =>
    if shape.isVia || shape.isViaBox then
      match shape.viaDef.bind ViaDef.topLayer, shape.viaDef.bind ViaDef.bottomLayer with
      | some topLayer, some bottomLayer =>
        viaEmissions db wire index topLayer bottomLayer ++ shapeEmissions wire (index + 1) shapes
      | _, _ => shapeEmissions wire index shapes
    else ⟨.pointer wire (.wire index), shape.layer.map TechLayer.name, ""⟩ ::
      shapeEmissions wire (index + 1) shapes

def netEmissions (net : DbNet) : List Emission :=
  match net.wire with
  | none => []
  | some wire => shapeEmissions db wire.ptr 0 wire.shapes

def pinLayer (bterm : DbBTerm) : Option TechLayer := do
  let bpin ← bterm.bpins.find? fun bpin => 0 < area bpin.bbox
  bpin.boxLayers.findSome? id

def btermEmission (bterm : DbBTerm) : Emission :=
  ⟨.pointer bterm.ptr .btermPin, (pinLayer bterm).map TechLayer.name, "pin"⟩

def itermShapeEmissions (iterm : Nat) : Nat → List BoxShape → List Emission
  | _, [] => []
  | index, shape :: shapes =>
    match shape.layer with
    | none => itermShapeEmissions iterm index shapes
    | some layer => ⟨.pointer iterm (.itermPin index), some layer.name, ""⟩ ::
      itermShapeEmissions iterm (index + 1) shapes

def itermEmissions (iterm : DbITerm) : List Emission := itermShapeEmissions iterm.ptr 0 iterm.shapes

def blockageEmissions (bbox : Option Rect) : List Emission :=
  match bbox with
  | none => []
  | some _ => [⟨.counted "blk", some "blockage", ""⟩]

def markerEmission (marker : DbMarker) : Emission :=
  ⟨.counted "drc", marker.techLayer.map TechLayer.name, ""⟩

def trackEmissions (trackGrid : DbTrackGrid) : List Emission :=
  match trackGrid.techLayer with
  | none => []
  | some layer => [⟨.counted "track", some layer.name, ""⟩]

def blockEmissions (block : DbBlock) : List Emission :=
  block.insts.flatMap instEmissions ++ (block.nets.flatMap (netEmissions db) ++
    (block.bterms.map btermEmission ++ (block.insts.flatMap fun inst =>
      inst.iterms.flatMap itermEmissions) ++ (block.blockages.flatMap blockageEmissions ++
        (block.markerCategories.flatten.map markerEmission ++
          block.trackGrids.flatMap trackEmissions))))

def emissions : List Emission :=
  match db.block with
  | none => []
  | some block => blockEmissions db block

end Emissions

/-- The layers have these names, and the map leads to each as long as the vector does not move. -/
structure Holds (lib : StandardLibrary) (names : List String) (state : BuildState) : Prop where
  nodup : names.Nodup
  ids : state.layers.records.map BuiltLayer.layerId = names
  named : state.layers.records.map BuiltLayer.name = names
  room : (state.layers.capacity, state.layers.buffer) = room lib names.length
  lookup : ∀ name, state.layerLookupMap.lookup name =
    if name ∈ names then some ⟨names.idxOf name, bufferAt lib (names.idxOf name + 1)⟩ else none

section Layers

variable {lib : StandardLibrary} {names : List String} {state : BuildState}

lemma holds_length (holds : Holds lib names state) :
    state.layers.records.length = names.length := by
  rw [← holds.ids, length_map]

lemma holds_buffer (holds : Holds lib names state) :
    state.layers.buffer = bufferAt lib names.length := congrArg Prod.snd holds.room

lemma followLayer_exec (holds : Holds lib names state) {name : String} (member : name ∈ names) :
    ∃ layer, (followLayer ⟨names.idxOf name, bufferAt lib names.length⟩).exec state =
      (.ok layer, state) ∧ layer.layerId = name ∧ layer.name = name ∧
        state.layers.records[names.idxOf name]? = some layer := by
  have inside : names.idxOf name < state.layers.records.length := by
    rw [holds_length holds]
    exact idxOf_lt_length_of_mem member
  have found := getElem?_eq_getElem inside
  have atIndex : names[names.idxOf name]? = some name := getElem?_idxOf member
  refine ⟨_, ?_, ?_, ?_, found⟩
  · rw [followLayer, exec_bind_ok _ (exec_get state), if_pos (holds_buffer holds).symm, found]
    rfl
  · have seen := congrArg (fun ids => ids[names.idxOf name]?) holds.ids
    simp only [getElem?_map, found, atIndex, Option.map_some, Option.some.injEq] at seen
    exact seen
  · have seen := congrArg (fun ids => ids[names.idxOf name]?) holds.named
    simp only [getElem?_map, found, atIndex, Option.map_some, Option.some.injEq] at seen
    exact seen

lemma map_set_same {α β : Type} (f : α → β) {items : List α} {index : Nat} {old new : α}
    (found : items[index]? = some old) (same : f new = f old) :
    (items.set index new).map f = items.map f := by
  rw [map_set, same]
  apply ext_getElem?
  intro other
  rw [getElem?_set]
  split
  · rename_i isIndex
    subst isIndex
    split
    · rw [getElem?_map, found, Option.map_some]
    · rename_i outside
      exact (getElem?_eq_none (not_lt.mp outside)).symm
  · rfl

lemma modifyLayer_exec (holds : Holds lib names state) {name : String} (member : name ∈ names)
    (update : BuiltLayer → BuiltLayer) (sameId : ∀ layer, (update layer).layerId = layer.layerId)
    (sameName : ∀ layer, (update layer).name = layer.name) :
    ∃ state', (modifyLayer ⟨names.idxOf name, bufferAt lib names.length⟩ update).exec state =
      (.ok (), state') ∧ Holds lib names state' ∧ state'.objects = state.objects ∧
        state'.object_id_counter = state.object_id_counter := by
  rcases followLayer_exec holds member with ⟨layer, read, _, _, found⟩
  refine ⟨{ state with layers := { state.layers with
    records := state.layers.records.set (names.idxOf name) (update layer) } }, ?_, ?_, rfl, rfl⟩
  · rw [modifyLayer, exec_bind_ok _ read, exec_modify]
  · refine ⟨holds.nodup, ?_, ?_, holds.room, holds.lookup⟩
    · exact (map_set_same _ found (sameId layer)).trans holds.ids
    · exact (map_set_same _ found (sameName layer)).trans holds.named

lemma room_succ (count : Nat) : room lib (count + 1) = if count = (room lib count).1 then
      (lib.grow (room lib count).1, (room lib count).2 + 1) else room lib count := rfl

lemma holds_push_back (db : SceneDatabase) (holds : Holds lib names state) {name : String}
    (fresh : name ∉ names) (zBase : ℚ) :
    let layers := state.layers.push_back lib (newLayer db name zBase)
    Holds lib (names ++ [name]) { state with
      layers := layers
      layerLookupMap := (name, layers.back) :: state.layerLookupMap } ∧
    layers.back = ⟨(names ++ [name]).idxOf name, bufferAt lib (names ++ [name]).length⟩ := by
  intro layers
  have records : layers.records = state.layers.records ++ [newLayer db name zBase] := by
    simp only [layers, LayerVector.push_back]
    split <;> rfl
  have size : (names ++ [name]).length = names.length + 1 := by simp
  have index : (names ++ [name]).idxOf name = names.length := by
    rw [idxOf_append_of_notMem fresh, idxOf_cons_self, Nat.add_zero]
  have roomAfter : (layers.capacity, layers.buffer) = room lib (names ++ [name]).length := by
    rw [size, room_succ, ← holds.room]
    simp only [layers, LayerVector.push_back, holds_length holds]
    split <;> rfl
  have back : layers.back =
      ⟨(names ++ [name]).idxOf name, bufferAt lib (names ++ [name]).length⟩ := by
    rw [index, LayerVector.back, records, length_append, holds_length holds]
    exact congrArg (LayerPtr.mk names.length) (congrArg Prod.snd roomAfter)
  refine ⟨⟨?_, ?_, ?_, roomAfter, ?_⟩, back⟩
  · rw [nodup_append]
    refine ⟨holds.nodup, nodup_singleton name, ?_⟩
    rintro other member last isLast rfl
    rw [mem_singleton.mp isLast] at member
    exact fresh member
  · rw [records, map_append, holds.ids]
    rfl
  · rw [records, map_append, holds.named]
    rfl
  · intro other
    rw [lookup_cons]
    by_cases same : other = name
    · subst same
      simp only [beq_self_eq_true, mem_append, mem_singleton, or_true, if_true, back, index,
        size]
    · rw [beq_false_of_ne same, holds.lookup other]
      by_cases member : other ∈ names
      · rw [if_pos member, if_pos (mem_append_left _ member), idxOf_append_of_mem member]
      · have absent : other ∉ names ++ [name] := by
          simp only [mem_append, mem_singleton, member, same, or_self, not_false_iff]
        rw [if_neg member, if_neg absent]

lemma mem_requested (names : List String) (name : String) : name ∈ requested names name := by
  rw [requested]
  split
  · assumption
  · exact mem_append_right names (mem_singleton_self name)

lemma getOrCreateLayer_exec (db : SceneDatabase) (holds : Holds lib names state) (name : String)
    (zBase : ℚ) :
    if Stale lib names name then
      (getOrCreateLayer lib db name zBase).exec state = (.error .dangling, state)
    else ∃ state', (getOrCreateLayer lib db name zBase).exec state =
        (.ok ⟨(requested names name).idxOf name, bufferAt lib (requested names name).length⟩, state') ∧
      Holds lib (requested names name) state' ∧ state'.objects = state.objects ∧
        state'.object_id_counter = state.object_id_counter := by
  have found := holds.lookup name
  by_cases member : name ∈ names
  · rw [if_pos member] at found
    have same : requested names name = names := if_pos member
    split
    · rename_i stale
      have moved : ¬ bufferAt lib (names.idxOf name + 1) = state.layers.buffer := by
        rw [holds_buffer holds]
        exact stale.2
      have left : (followLayer ⟨names.idxOf name, bufferAt lib (names.idxOf name + 1)⟩).exec state =
          (.error .dangling, state) := by
        rw [followLayer, exec_bind_ok _ (exec_get state), if_neg moved]
        rfl
      rw [getOrCreateLayer, exec_bind_ok _ (exec_get state), found, exec_bind, left]
    · rename_i current
      have sameBuffer : bufferAt lib (names.idxOf name + 1) = bufferAt lib names.length := by
        by_contra moved
        exact current ⟨member, moved⟩
      rcases followLayer_exec holds member with ⟨layer, read, _⟩
      rw [getOrCreateLayer, exec_bind_ok _ (exec_get state), found, sameBuffer, exec_bind_ok _ read,
        same]
      split
      · rcases modifyLayer_exec holds member (fun layer => { layer with zBase := zBase })
          (fun _ => rfl) fun _ => rfl with ⟨state', wrote, rest⟩
        exact ⟨state', by rw [exec_bind_ok _ wrote, exec_pure], rest⟩
      · exact ⟨state, exec_pure _ state, holds, rfl, rfl⟩
  · rw [if_neg member] at found
    have added : requested names name = names ++ [name] := if_neg member
    rw [if_neg fun stale => member stale.1]
    rcases holds_push_back db holds member zBase with ⟨after, back⟩
    rw [added]
    refine ⟨_, ?_, after, rfl, rfl⟩
    rw [getOrCreateLayer, exec_bind_ok _ (exec_get state), found]
    rw [← back]
    rfl

end Layers

section Emits

variable {lib : StandardLibrary} {db : SceneDatabase}

/-- The program adds these ids and layer ids, or stops at a stale layer. -/
def Adds (lib : StandardLibrary) (m : BuildM Unit) (requests : List String)
    (keys : Nat → List (String × String)) (next : Nat → Nat) : Prop :=
  ∀ names state, Holds lib names state → match play lib names requests with
    | none => (m.exec state).1 = .error .dangling
    | some after => ∃ state', m.exec state = (.ok (), state') ∧ Holds lib after state' ∧
      state'.objects.map ObjectRecord.keys =
        state.objects.map ObjectRecord.keys ++ keys state.object_id_counter ∧
      state'.object_id_counter = next state.object_id_counter

abbrev Emits (lib : StandardLibrary) (m : BuildM Unit) (emissions : List Emission) : Prop :=
  Adds lib m (requestsOf emissions) (resolve · emissions) (counterAfter · emissions)

lemma emits_pure : Emits lib (pure ()) [] := by
  intro names state holds
  exact ⟨state, rfl, holds, (append_nil _).symm, rfl⟩

lemma emits_bind {m m' : BuildM Unit} {first second : List Emission} (early : Emits lib m first)
    (late : Emits lib m' second) : Emits lib (m >>= fun _ => m') (first ++ second) := by
  intro names state holds
  have ran := early names state holds
  rw [requestsOf_append, play_append]
  cases played : play lib names (requestsOf first) with
  | none =>
    rw [played] at ran
    change (m.exec state).1 = _ at ran
    change ((m >>= fun _ => m').exec state).1 = _
    rw [exec_bind]
    rcases ranFirst : m.exec state with ⟨fault | _, mid⟩
    · rfl
    · rw [ranFirst] at ran
      cases ran
  | some mid =>
    rw [played] at ran
    rcases ran with ⟨stateMid, ranFirst, holdsMid, keysMid, counterMid⟩
    have ranLate := late mid stateMid holdsMid
    rw [Option.bind_some, exec_bind_ok _ ranFirst]
    cases playedLate : play lib mid (requestsOf second) with
    | none =>
      rw [playedLate] at ranLate
      exact ranLate
    | some after =>
      rw [playedLate] at ranLate
      rcases ranLate with ⟨state', ranSecond, holdsAfter, keysAfter, counterLast⟩
      refine ⟨state', ranSecond, holdsAfter, ?_, ?_⟩
      · rw [keysAfter, keysMid, counterMid, append_assoc]
        exact congrArg _ (resolve_append _ first second).symm
      · rw [counterLast, counterMid]
        exact (counterAfter_append _ first second).symm

lemma emits_cons {m m' : BuildM Unit} {emission : Emission} {emissions : List Emission}
    (early : Emits lib m [emission]) (late : Emits lib m' emissions) :
    Emits lib (m >>= fun _ => m') (emission :: emissions) := emits_bind early late

lemma emits_forM {α : Type} {body : α → BuildM Unit} {f : α → List Emission}
    (each : ∀ item, Emits lib (body item) (f item)) (items : List α) :
    Emits lib (forM items body) (items.flatMap f) := by
  induction items with
  | nil => exact emits_pure
  | cons item items ih =>
    rw [forM_cons, flatMap_cons]
    exact emits_bind (each item) ih

lemma adds_object (object : ObjectRecord) :
    Adds lib (addObject object) [] (fun _ => [(object.objectId, object.layerId)]) id := by
  intro names state holds
  refine ⟨{ state with objects := state.objects ++ [object] }, rfl, ?_, map_append, rfl⟩
  exact ⟨holds.nodup, holds.ids, holds.named, holds.room, holds.lookup⟩

lemma adds_requested {name : String} {zBase : ℚ} (prepare : LayerPtr → BuildM Unit)
    (object : BuiltLayer → ObjectRecord) {objectId : String}
    (prepares : ∀ names state, Holds lib names state → name ∈ names →
      ∃ state', (prepare ⟨names.idxOf name, bufferAt lib names.length⟩).exec state = (.ok (), state') ∧
        Holds lib names state' ∧ state'.objects = state.objects ∧
          state'.object_id_counter = state.object_id_counter)
    (keys : ∀ layer, (object layer).keys = (objectId, layer.layerId)) :
    Adds lib (do
      let ptr ← getOrCreateLayer lib db name zBase
      prepare ptr
      let layer ← followLayer ptr
      addObject (object layer)) [name] (fun _ => [(objectId, name)]) id := by
  intro names state holds
  have got := getOrCreateLayer_exec db holds name zBase
  by_cases stale : Stale lib names name
  · rw [if_pos stale] at got
    rw [play, if_pos stale]
    change (Effect.exec _ state).1 = _
    rw [exec_bind, got]
  · rw [if_neg stale] at got
    rw [play, if_neg stale, play]
    rcases got with ⟨mid, ran, holdsMid, objectsMid, counterMid⟩
    have member := mem_requested names name
    rcases prepares _ mid holdsMid member with ⟨late, ranLate, holdsLate, objectsLate, counterLate⟩
    rcases followLayer_exec holdsLate member with ⟨layer, read, layerId, _⟩
    refine ⟨{ late with objects := late.objects ++ [object layer] }, ?_, ?_, ?_, ?_⟩
    · rw [exec_bind_ok _ ran, exec_bind_ok _ ranLate, exec_bind_ok _ read]
      rfl
    · exact ⟨holdsLate.nodup, holdsLate.ids, holdsLate.named, holdsLate.room, holdsLate.lookup⟩
    · rw [map_append, objectsLate, objectsMid, map_singleton, keys, layerId]
    · exact counterLate.trans counterMid

lemma adds_onLayer (name : String) (zBase : ℚ) (object : ObjectRecord) :
    Adds lib (addOnLayer lib db name zBase object) [name] (fun _ => [(object.objectId, name)]) id := by
  exact adds_requested (fun _ => pure ()) (fun layer => { object with layerId := layer.layerId })
    (fun names state holds _ => ⟨state, rfl, holds, rfl, rfl⟩) fun _ => rfl

lemma emits_of_adds {m : BuildM Unit} {emission : Emission} {requests : List String}
    {objectId layerId : String} (adds : Adds lib m requests (fun _ => [(objectId, layerId)]) id)
    (sameRequests : requests = emission.request.toList) (sameLayer : layerId = emission.layerId)
    (sameId : ∀ counter, emission.id.text counter = objectId)
    (next : ∀ counter, emission.id.next counter = counter) : Emits lib m [emission] := by
  have same : requestsOf [emission] = requests := by
    rw [sameRequests, requestsOf]
    cases asked : emission.request with
    | none =>
      rw [filterMap_cons_none asked]
      rfl
    | some name =>
      rw [filterMap_cons_some asked]
      rfl
  intro names state holds
  have added := adds names state holds
  rw [same]
  cases played : play lib names requests with
  | none =>
    rw [played] at added
    exact added
  | some after =>
    rw [played] at added
    rcases added with ⟨state', ran, holdsAfter, keys, counter⟩
    refine ⟨state', ran, holdsAfter, ?_, ?_⟩
    · rw [keys, ← sameId state.object_id_counter, sameLayer]
      rfl
    · rw [counter]
      exact (next _).symm

lemma emits_generated {next : String → BuildM Unit} {stem : String} {request : Option String}
    {fallback : String}
    (adds : ∀ objectId, Adds lib (next objectId) request.toList
      (fun _ => [(objectId, request.getD fallback)]) id) :
    Emits lib (generateObjectId stem >>= next) [⟨.counted stem, request, fallback⟩] := by
  intro names state holds
  have holdsNext : Holds lib names { state with object_id_counter := state.object_id_counter + 1 } :=
    ⟨holds.nodup, holds.ids, holds.named, holds.room, holds.lookup⟩
  have generated : (generateObjectId stem).exec state =
      (.ok (stem ++ "_" ++ toString state.object_id_counter),
        { state with object_id_counter := state.object_id_counter + 1 }) := rfl
  have added := adds (stem ++ "_" ++ toString state.object_id_counter) names _ holdsNext
  have same : requestsOf [⟨.counted stem, request, fallback⟩] = request.toList := by
    cases request <;> rfl
  rw [same, exec_bind_ok _ generated]
  cases played : play lib names request.toList with
  | none =>
    rw [played] at added
    exact added
  | some after =>
    rw [played] at added
    exact added

variable (lib db)

lemma emits_processInstance (inst : DbInst) :
    Emits lib (processInstance lib db inst) (instEmissions inst) := by
  rw [processInstance, instEmissions]
  cases inst.bbox with
  | none => exact emits_pure
  | some rect =>
    apply emits_of_adds (adds_requested (fun ptr => modifyLayer ptr fun layer =>
      { layer with transparency := 55 / 100 }) _ _ fun _ => rfl) rfl rfl (fun _ => rfl)
      fun _ => rfl
    intro names state holds member
    exact modifyLayer_exec holds member _ (fun _ => rfl) fun _ => rfl

lemma emits_processVia (netName : String) (wire index : Nat) (shape : DbShape)
    (topLayer bottomLayer : TechLayer) :
    Emits lib (processVia lib db netName wire index shape topLayer bottomLayer)
      (viaEmissions db wire index topLayer bottomLayer) := by
  apply emits_cons
  · exact emits_of_adds (adds_onLayer _ _ _) rfl rfl (fun _ => rfl) fun _ => rfl
  · apply emits_cons
    · exact emits_of_adds (adds_onLayer _ _ _) rfl rfl (fun _ => rfl) fun _ => rfl
    · exact emits_of_adds (adds_onLayer _ _ _) rfl rfl (fun _ => rfl) fun _ => rfl

lemma emits_processSegment (netName : String) (wire index : Nat) (shape : DbShape) :
    Emits lib (processSegment lib db netName wire index shape)
      [⟨.pointer wire (.wire index), shape.layer.map TechLayer.name, ""⟩] := by
  rw [processSegment]
  cases shape.layer with
  | none => exact emits_of_adds (adds_object _) rfl rfl (fun _ => rfl) fun _ => rfl
  | some layer => exact emits_of_adds (adds_onLayer _ _ _) rfl rfl (fun _ => rfl) fun _ => rfl

lemma emits_processShapes (netName : String) (wire : Nat) (shapes : List DbShape) (index : Nat) :
    Emits lib (processShapes lib db netName wire index shapes) (shapeEmissions db wire index shapes) := by
  induction shapes generalizing index with
  | nil => exact emits_pure
  | cons shape shapes ih =>
    rw [processShapes, shapeEmissions]
    split
    · cases shape.viaDef.bind ViaDef.topLayer with
      | none => exact ih index
      | some topLayer =>
        cases shape.viaDef.bind ViaDef.bottomLayer with
        | none => exact ih index
        | some bottomLayer =>
          exact emits_bind (emits_processVia lib db netName wire index shape _ _) (ih (index + 1))
    · exact emits_bind (emits_processSegment lib db netName wire index shape) (ih (index + 1))

lemma emits_processNet (net : DbNet) : Emits lib (processNet lib db net) (netEmissions db net) := by
  rw [processNet, netEmissions]
  cases net.wire with
  | none => exact emits_pure
  | some wire => exact emits_processShapes lib db net.name wire.ptr wire.shapes 0

lemma emits_processBTerm (bterm : DbBTerm) :
    Emits lib (processBTerm lib db bterm) [btermEmission bterm] := by
  rw [processBTerm, btermEmission, pinLayer]
  cases bterm.bpins.find? fun bpin => 0 < area bpin.bbox with
  | none => exact emits_of_adds (adds_object _) rfl rfl (fun _ => rfl) fun _ => rfl
  | some bpin =>
    simp only [Option.bind_eq_bind, Option.bind_some]
    cases bpin.boxLayers.findSome? id with
    | none => exact emits_of_adds (adds_object _) rfl rfl (fun _ => rfl) fun _ => rfl
    | some layer => exact emits_of_adds (adds_onLayer _ _ _) rfl rfl (fun _ => rfl) fun _ => rfl

lemma emits_processITermShapes (inst : DbInst) (iterm : DbITerm) (shapes : List BoxShape)
    (index : Nat) : Emits lib (processITermShapes lib db inst iterm index shapes)
      (itermShapeEmissions iterm.ptr index shapes) := by
  induction shapes generalizing index with
  | nil => exact emits_pure
  | cons shape shapes ih =>
    rw [processITermShapes, itermShapeEmissions]
    cases shape.layer with
    | none => exact ih index
    | some layer =>
      apply emits_cons _ (ih (index + 1))
      exact emits_of_adds (adds_onLayer _ _ _) rfl rfl (fun _ => rfl) fun _ => rfl

lemma emits_processITerms (inst : DbInst) :
    Emits lib (processITerms lib db inst) (inst.iterms.flatMap itermEmissions) :=
  emits_forM (fun iterm => emits_processITermShapes lib db inst iterm iterm.shapes 0) inst.iterms

lemma emits_processBlockage (bbox : Option Rect) :
    Emits lib (processBlockage lib db bbox) (blockageEmissions bbox) := by
  cases bbox with
  | none => exact emits_pure
  | some rect => exact emits_generated fun objectId => adds_onLayer _ _ _

lemma emits_processDrcMarker (marker : DbMarker) :
    Emits lib (processDrcMarker lib db marker) [markerEmission marker] := by
  rw [processDrcMarker, markerEmission]
  apply emits_generated
  intro objectId
  cases marker.techLayer with
  | none => exact adds_object _
  | some layer => exact adds_onLayer _ _ _

lemma emits_processTrackGrid (die : Rect) (trackGrid : DbTrackGrid) :
    Emits lib (processTrackGrid lib db die trackGrid) (trackEmissions trackGrid) := by
  rw [processTrackGrid, trackEmissions]
  cases trackGrid.techLayer with
  | none => exact emits_pure
  | some layer => exact emits_generated fun objectId => adds_onLayer _ _ _

lemma emits_passes (block : DbBlock) (there : db.block = some block) :
    Emits lib (passes lib db) (blockEmissions db block) := by
  rw [passes, processInstances, processNets, processPins, processBlockages, processDrcMarkers,
    processTrackGrids, there]
  apply emits_bind (emits_forM (emits_processInstance lib db) block.insts)
  apply emits_bind (emits_forM (emits_processNet lib db) block.nets)
  apply emits_bind
  · apply emits_bind _ (emits_forM (emits_processITerms lib db) block.insts)
    rw [← flatMap_singleton' (block.bterms.map btermEmission), flatMap_map]
    exact emits_forM (emits_processBTerm lib db) block.bterms
  · apply emits_bind (emits_forM (emits_processBlockage lib db) block.blockages)
    apply emits_bind _ (emits_forM (emits_processTrackGrid lib db _) block.trackGrids)
    rw [← flatMap_singleton' (block.markerCategories.flatten.map markerEmission),
      flatMap_map]
    exact emits_forM (emits_processDrcMarker lib db) block.markerCategories.flatten

end Emits

lemma uniqueLayers_of_nodup (layers : List BuiltLayer) (seen : List String)
    (nodup : (layers.map BuiltLayer.name).Nodup)
    (unseen : ∀ name ∈ layers.map BuiltLayer.name, name ∉ seen) :
    uniqueLayers seen layers = layers := by
  induction layers generalizing seen with
  | nil => rfl
  | cons layer layers ih =>
    rw [map_cons, nodup_cons] at nodup
    rw [uniqueLayers, if_neg (unseen layer.name mem_cons_self), ih _ nodup.2]
    intro name member inSeen
    rcases mem_cons.mp inSeen with rfl | old
    · exact nodup.1 member
    · exact unseen name (mem_cons_of_mem _ member) old

lemma build_spec (lib : StandardLibrary) (db : SceneDatabase) (counter : Nat) :
    match play lib [] (requestsOf (emissions db)) with
    | none => build lib (some db) counter = .error .dangling
    | some names => names.Nodup ∧ ∃ snapshot, build lib (some db) counter =
        .ok (snapshot, counterAfter counter (emissions db)) ∧
      snapshot.objects.map ObjectRecord.keys = resolve counter (emissions db) ∧
      (snapshot.layers.map BuiltLayer.layerId).Perm names := by
  cases there : db.block with
  | none =>
    have empty : emissions db = [] := by
      rw [emissions, there]
    rw [empty]
    refine ⟨nodup_nil, ⟨"openroad_db", [], []⟩, ?_, rfl, Perm.refl _⟩
    rw [build, passes, processInstances, processNets, processPins, processBlockages,
      processDrcMarkers, processTrackGrids, there]
    rfl
  | some block =>
    have start : Holds lib [] ⟨⟨[], kReservedLayers, 0⟩, [], [], counter⟩ :=
      ⟨nodup_nil, rfl, rfl, rfl, fun _ => rfl⟩
    have reserved : (if db.block.isSome then kReservedLayers else 0) = kReservedLayers := by
      rw [there]
      rfl
    have emitted := emits_passes lib db block there [] _ start
    have same : emissions db = blockEmissions db block := by
      rw [emissions, there]
    rw [same]
    cases played : play lib [] (requestsOf (blockEmissions db block)) with
    | none =>
      rw [played] at emitted
      change ((passes lib db).exec _).1 = _ at emitted
      rw [build, reserved]
      rcases ran : (passes lib db).exec ⟨⟨[], kReservedLayers, 0⟩, [], [], counter⟩ with
        ⟨fault | _, state⟩
      · rfl
      · rw [ran] at emitted
        cases emitted
    | some names =>
      rw [played] at emitted
      rcases emitted with ⟨state, ran, holds, keys, counterLast⟩
      have named : (state.layers.records.map BuiltLayer.name).Nodup := by
        rw [holds.named]
        exact holds.nodup
      have unique : uniqueLayers [] state.layers.records = state.layers.records :=
        uniqueLayers_of_nodup _ [] named fun _ _ => not_mem_nil
      refine ⟨holds.nodup, ⟨"openroad_db", state.layers.records.insertionSort
        (fun a b => a.zBase ≤ b.zBase), state.objects⟩, ?_, keys, ?_⟩
      · simp only [build, reserved, ran, unique, counterLast]
      · have sorted := perm_insertionSort (fun a b : BuiltLayer => a.zBase ≤ b.zBase)
          state.layers.records
        rw [← holds.ids]
        exact sorted.map BuiltLayer.layerId

end OdbSceneBuilder

end OpenRoad.Viewer
