import OpenRoad.Viewer.SceneIds

/-! When the objects of a built snapshot have their ids and their layers. -/

namespace OpenRoad.Viewer

open OpenRoad.Lib List

namespace OdbSceneBuilder

/-- Each object has an id of its own and lies on one layer. -/
structure WellFormed (snapshot : BuiltSnapshot) : Prop where
  named : ∀ object ∈ snapshot.objects, object.objectId ≠ ""
  unique : (snapshot.objects.map ObjectRecord.objectId).Nodup
  layered : ∀ object ∈ snapshot.objects,
    (snapshot.layers.filter fun layer => layer.layerId = object.layerId).length = 1

def layerRequests (db : SceneDatabase) : List String := requestsOf (emissions db)

def NoneStale (lib : StandardLibrary) (requests : List String) : Prop :=
  ∀ front name, front ++ [name] <+: requests → ¬ Stale lib (front.foldl requested []) name

/-- There is no via to draw, and a terminal, a wire segment or a marker without a layer finds one
that has the name it is given. -/
structure BlockDrawable (requests : List String) (block : DbBlock) : Prop where
  vias : ∀ net ∈ block.nets, ∀ wire, net.wire = some wire → ∀ shape ∈ wire.shapes,
    (shape.isVia || shape.isViaBox) = true →
      shape.viaDef.bind ViaDef.topLayer = none ∨ shape.viaDef.bind ViaDef.bottomLayer = none
  segments : ∀ net ∈ block.nets, ∀ wire, net.wire = some wire → ∀ shape ∈ wire.shapes,
    (shape.isVia || shape.isViaBox) = false → shape.layer = none → "" ∈ requests
  pins : ∀ bterm ∈ block.bterms, pinLayer bterm = none → "pin" ∈ requests
  markers : ∀ marker ∈ block.markerCategories.flatten, marker.techLayer = none → "" ∈ requests

def Drawable (lib : StandardLibrary) (db : SceneDatabase) : Prop :=
  NoneStale lib (layerRequests db) ∧
    ∀ block, db.block = some block → BlockDrawable (layerRequests db) block

lemma play_some {lib : StandardLibrary} {requests names after : List String}
    (played : play lib names requests = some after) :
    after = requests.foldl requested names ∧
      ∀ front name, front ++ [name] <+: requests → ¬ Stale lib (front.foldl requested names) name := by
  induction requests generalizing names with
  | nil =>
    cases played
    refine ⟨rfl, fun front name isFront => ?_⟩
    have empty := prefix_nil.mp isFront
    exact absurd empty (by simp)
  | cons request requests ih =>
    rw [play] at played
    split at played
    · cases played
    · rename_i fresh
      rcases ih played with ⟨same, later⟩
      refine ⟨same, fun front name isFront => ?_⟩
      cases front with
      | nil =>
        rcases cons_prefix_cons.mp isFront with ⟨rfl, _⟩
        exact fresh
      | cons head front =>
        rcases cons_prefix_cons.mp isFront with ⟨rfl, isRest⟩
        exact later front name isRest

lemma play_none {lib : StandardLibrary} {requests names : List String}
    (stops : play lib names requests = none) :
    ∃ front name, front ++ [name] <+: requests ∧ Stale lib (front.foldl requested names) name := by
  induction requests generalizing names with
  | nil => cases stops
  | cons request requests ih =>
    rw [play] at stops
    split at stops
    · rename_i stale
      exact ⟨[], request, cons_prefix_cons.mpr ⟨rfl, nil_prefix⟩, stale⟩
    · rcases ih stops with ⟨front, name, isFront, stale⟩
      exact ⟨request :: front, name, cons_prefix_cons.mpr ⟨rfl, isFront⟩, stale⟩

lemma mem_requests (requests names : List String) (name : String) :
    name ∈ requests.foldl requested names ↔ name ∈ names ∨ name ∈ requests := by
  induction requests generalizing names with
  | nil => simp
  | cons request requests ih =>
    have one : name ∈ requested names request ↔ name ∈ names ∨ name = request := by
      rw [requested]
      split
      · rename_i member
        constructor
        · exact Or.inl
        · rintro (old | rfl)
          · exact old
          · exact member
      · rw [mem_append, mem_singleton]
    rw [foldl_cons, ih, one, mem_cons, or_assoc]

lemma text_ne_empty {emission : Emission} (named : Named emission) (counter : Nat) :
    emission.id.text counter ≠ "" := by
  intro same
  have lists := congrArg String.toList same
  rw [Named] at named
  cases isId : emission.id with
  | missing =>
    rw [isId] at named
    exact named
  | pointer ptr kind =>
    rw [isId] at lists
    exact absurd (lists.symm.trans (text_toList ptr kind)) (by simp)
  | counted stem =>
    rw [isId, counted_toList] at lists
    exact absurd lists (by simp)

section Emissions

variable {db : SceneDatabase} (good : Emission → Prop)

lemma forall_shapeEmissions {wire : Nat} (fine : DbShape → Prop) (shapes : List DbShape)
    (vias : ∀ shape, (shape.isVia || shape.isViaBox) = true → ∀ topLayer bottomLayer,
      shape.viaDef.bind ViaDef.topLayer = some topLayer →
        shape.viaDef.bind ViaDef.bottomLayer = some bottomLayer →
          ∀ index, (∀ emission ∈ viaEmissions db wire index topLayer bottomLayer, good emission) ↔
            fine shape)
    (skipped : ∀ shape, (shape.isVia || shape.isViaBox) = true →
      (shape.viaDef.bind ViaDef.topLayer = none ∨ shape.viaDef.bind ViaDef.bottomLayer = none) →
        fine shape)
    (segments : ∀ shape, (shape.isVia || shape.isViaBox) = false → ∀ index,
      good ⟨.pointer wire (.wire index), shape.layer.map TechLayer.name, ""⟩ ↔ fine shape)
    (index : Nat) :
    (∀ emission ∈ shapeEmissions db wire index shapes, good emission) ↔
      ∀ shape ∈ shapes, fine shape := by
  induction shapes generalizing index with
  | nil => exact iff_of_true (fun _ member => nomatch member) fun _ member => nomatch member
  | cons shape shapes ih =>
    rw [shapeEmissions, forall_mem_cons]
    cases isVia : (shape.isVia || shape.isViaBox) with
    | false =>
      rw [if_neg Bool.false_ne_true, forall_mem_cons, segments shape isVia, ih]
    | true =>
      rw [if_pos rfl]
      cases top : shape.viaDef.bind ViaDef.topLayer with
      | none => rw [ih, and_iff_right (skipped shape isVia (Or.inl top))]
      | some topLayer =>
        cases bottom : shape.viaDef.bind ViaDef.bottomLayer with
        | none => rw [ih, and_iff_right (skipped shape isVia (Or.inr bottom))]
        | some bottomLayer =>
          rw [forall_mem_append, ih, vias shape isVia topLayer bottomLayer top bottom]

lemma forall_itermShapeEmissions (iterm : Nat) (shapes : List BoxShape)
    (each : ∀ index name, good ⟨.pointer iterm (.itermPin index), some name, ""⟩) (index : Nat) :
    ∀ emission ∈ itermShapeEmissions iterm index shapes, good emission := by
  induction shapes generalizing index with
  | nil => exact fun _ member => nomatch member
  | cons shape shapes ih =>
    rw [itermShapeEmissions]
    cases shape.layer with
    | none => exact ih index
    | some layer => exact forall_mem_cons.mpr ⟨each index layer.name, ih (index + 1)⟩

lemma forall_blockEmissions {block : DbBlock}
    (asked : ∀ id name, id ≠ .missing → (∀ stem, id = .counted stem → stem ∈ stems) →
      good ⟨id, some name, ""⟩) :
    (∀ emission ∈ blockEmissions db block, good emission) ↔
      (∀ net ∈ block.nets, ∀ wire, net.wire = some wire →
        ∀ emission ∈ shapeEmissions db wire.ptr 0 wire.shapes, good emission) ∧
      (∀ bterm ∈ block.bterms, good (btermEmission bterm)) ∧
      ∀ marker ∈ block.markerCategories.flatten, good (markerEmission marker) := by
  have pointers : ∀ ptr kind name, good ⟨.pointer ptr kind, some name, ""⟩ :=
    fun ptr kind name => asked _ _ (fun same => nomatch same) fun _ same => nomatch same
  have counted : ∀ stem ∈ stems, ∀ name, good ⟨.counted stem, some name, ""⟩ := by
    intro stem known name
    refine asked _ _ (fun same => nomatch same) ?_
    rintro _ ⟨⟩
    exact known
  have insts : ∀ emission ∈ block.insts.flatMap instEmissions, good emission := by
    intro emission member
    rcases mem_flatMap.mp member with ⟨inst, _, fromInst⟩
    rw [instEmissions] at fromInst
    cases there : inst.bbox with
    | none =>
      rw [there] at fromInst
      cases fromInst
    | some _ =>
      rw [there] at fromInst
      rw [mem_singleton.mp fromInst]
      exact pointers _ _ _
  have iterms : ∀ emission ∈ block.insts.flatMap fun inst => inst.iterms.flatMap itermEmissions,
      good emission := by
    intro emission member
    rcases mem_flatMap.mp member with ⟨inst, _, fromInst⟩
    rcases mem_flatMap.mp fromInst with ⟨iterm, _, fromTerm⟩
    exact forall_itermShapeEmissions good iterm.ptr iterm.shapes (fun _ _ => pointers _ _ _) 0 emission
      fromTerm
  have blockages : ∀ emission ∈ block.blockages.flatMap blockageEmissions, good emission := by
    intro emission member
    rcases mem_flatMap.mp member with ⟨bbox, _, emitted⟩
    cases bbox with
    | none => cases emitted
    | some _ =>
      rw [mem_singleton.mp emitted]
      exact counted "blk" (by decide) _
  have tracks : ∀ emission ∈ block.trackGrids.flatMap trackEmissions, good emission := by
    intro emission member
    rcases mem_flatMap.mp member with ⟨trackGrid, _, emitted⟩
    rw [trackEmissions] at emitted
    cases there : trackGrid.techLayer with
    | none =>
      rw [there] at emitted
      cases emitted
    | some _ =>
      rw [there] at emitted
      rw [mem_singleton.mp emitted]
      exact counted "track" (by decide) _
  have nets : (∀ emission ∈ block.nets.flatMap (netEmissions db), good emission) ↔
      ∀ net ∈ block.nets, ∀ wire, net.wire = some wire →
        ∀ emission ∈ shapeEmissions db wire.ptr 0 wire.shapes, good emission := by
    constructor
    · intro all net member wire there emission emitted
      apply all emission (mem_flatMap.mpr ⟨net, member, ?_⟩)
      rwa [netEmissions, there]
    · intro all emission member
      rcases mem_flatMap.mp member with ⟨net, isNet, fromNet⟩
      rw [netEmissions] at fromNet
      cases there : net.wire with
      | none =>
        rw [there] at fromNet
        cases fromNet
      | some wire =>
        rw [there] at fromNet
        exact all net isNet wire there emission fromNet
  simp only [blockEmissions, forall_mem_append, forall_mem_map]
  rw [nets]
  exact ⟨fun all => ⟨all.2.1, all.2.2.1.1, all.2.2.2.2.1⟩,
    fun all => ⟨insts, all.1, ⟨all.2.1, iterms⟩, blockages, all.2.2, tracks⟩⟩

end Emissions

section Exact

variable {db : SceneDatabase}

lemma forall_known (block : DbBlock) :
    ∀ emission ∈ blockEmissions db block, emission.id ≠ .missing → Named emission := by
  have pointer : ∀ ptr kind request, Named ⟨.pointer ptr kind, request, ""⟩ :=
    fun _ _ _ => trivial
  apply (forall_blockEmissions (fun emission => emission.id ≠ .missing → Named emission) ?_).mpr
  · refine ⟨?_, fun _ _ _ => trivial, fun _ _ _ => (by decide : "drc" ∈ stems)⟩
    intro net _ wire _
    apply (forall_shapeEmissions (fun emission => emission.id ≠ .missing → Named emission)
      (fun _ => True) wire.shapes ?_ ?_ ?_ 0).mpr
    · exact fun _ _ => trivial
    · intro _ _ topLayer bottomLayer _ _ index
      refine iff_of_true ?_ trivial
      intro emission member
      simp only [viaEmissions, mem_cons, not_mem_nil, or_false] at member
      rcases member with rfl | rfl | rfl
      · exact fun given => absurd rfl given
      · exact fun _ => trivial
      · exact fun _ => trivial
    · exact fun _ _ _ => trivial
    · exact fun _ _ _ => iff_of_true (fun _ => trivial) trivial
  · intro id name given known _
    cases id with
    | missing => exact absurd rfl given
    | pointer ptr kind => trivial
    | counted stem => exact known stem rfl

lemma forall_named_iff (block : DbBlock) :
    (∀ emission ∈ blockEmissions db block, emission.id ≠ .missing) ↔
      ∀ net ∈ block.nets, ∀ wire, net.wire = some wire → ∀ shape ∈ wire.shapes,
        (shape.isVia || shape.isViaBox) = true →
          shape.viaDef.bind ViaDef.topLayer = none ∨ shape.viaDef.bind ViaDef.bottomLayer = none := by
  have shapes : ∀ wire : DbWire, (∀ emission ∈ shapeEmissions db wire.ptr 0 wire.shapes,
      emission.id ≠ .missing) ↔ ∀ shape ∈ wire.shapes, (shape.isVia || shape.isViaBox) = true →
        shape.viaDef.bind ViaDef.topLayer = none ∨ shape.viaDef.bind ViaDef.bottomLayer = none := by
    intro wire
    apply forall_shapeEmissions
    · intro shape isVia topLayer bottomLayer top bottom index
      apply iff_of_false
      · intro all
        exact all _ mem_cons_self rfl
      · intro skipped
        rcases skipped isVia with none | none
        · rw [top] at none
          cases none
        · rw [bottom] at none
          cases none
    · exact fun _ _ skipped _ => skipped
    · intro shape isSegment _
      refine iff_of_true (fun same => nomatch same) fun isVia => ?_
      rw [isSegment] at isVia
      cases isVia
  rw [forall_blockEmissions _ fun _ _ given _ => given]
  constructor
  · rintro ⟨nets, _⟩ net member wire there
    exact (shapes wire).mp (nets net member wire there)
  · intro all
    refine ⟨fun net member wire there => (shapes wire).mpr (all net member wire there), ?_, ?_⟩
    · exact fun _ _ same => nomatch same
    · exact fun _ _ same => nomatch same

lemma forall_found_iff (requests : List String) (block : DbBlock) :
    (∀ emission ∈ blockEmissions db block, emission.request = none → emission.fallback ∈ requests) ↔
      (∀ net ∈ block.nets, ∀ wire, net.wire = some wire → ∀ shape ∈ wire.shapes,
        (shape.isVia || shape.isViaBox) = false → shape.layer = none → "" ∈ requests) ∧
      (∀ bterm ∈ block.bterms, pinLayer bterm = none → "pin" ∈ requests) ∧
      ∀ marker ∈ block.markerCategories.flatten, marker.techLayer = none → "" ∈ requests := by
  have shapes : ∀ wire : DbWire, (∀ emission ∈ shapeEmissions db wire.ptr 0 wire.shapes,
      emission.request = none → emission.fallback ∈ requests) ↔ ∀ shape ∈ wire.shapes,
        (shape.isVia || shape.isViaBox) = false → shape.layer = none → "" ∈ requests := by
    intro wire
    apply forall_shapeEmissions
    · intro shape isVia topLayer bottomLayer _ _ index
      apply iff_of_true
      · intro emission member
        simp only [viaEmissions, mem_cons, not_mem_nil, or_false] at member
        rcases member with rfl | rfl | rfl <;> exact fun same => nomatch same
      · intro isSegment
        rw [isVia] at isSegment
        cases isSegment
    · intro shape isVia _ isSegment
      rw [isVia] at isSegment
      cases isSegment
    · intro shape isSegment _
      rw [Option.map_eq_none_iff]
      exact ⟨fun found _ => found, fun found => found isSegment⟩
  rw [forall_blockEmissions _ fun _ _ _ _ same => nomatch same]
  constructor
  · rintro ⟨nets, pins, markers⟩
    refine ⟨fun net member wire there => (shapes wire).mp (nets net member wire there), ?_, ?_⟩
    · exact fun bterm member none => pins bterm member (Option.map_eq_none_iff.mpr none)
    · exact fun marker member none => markers marker member (Option.map_eq_none_iff.mpr none)
  · rintro ⟨nets, pins, markers⟩
    refine ⟨fun net member wire there => (shapes wire).mpr (nets net member wire there), ?_, ?_⟩
    · exact fun bterm member none => pins bterm member (Option.map_eq_none_iff.mp none)
    · exact fun marker member none => markers marker member (Option.map_eq_none_iff.mp none)

lemma blockDrawable_iff (requests : List String) (block : DbBlock) :
    BlockDrawable requests block ↔ (∀ emission ∈ blockEmissions db block, emission.id ≠ .missing) ∧
        ∀ emission ∈ blockEmissions db block,
          emission.request = none → emission.fallback ∈ requests := by
  rw [forall_named_iff, forall_found_iff]
  exact ⟨fun drawable => ⟨drawable.vias, drawable.segments, drawable.pins, drawable.markers⟩,
    fun all => ⟨all.1, all.2.1, all.2.2.1, all.2.2.2⟩⟩

lemma one_layer_iff {layers : List BuiltLayer} {names : List String} {name : String}
    (same : (layers.map BuiltLayer.layerId).Perm names) (nodup : names.Nodup) :
    (layers.filter fun layer => layer.layerId = name).length = 1 ↔ name ∈ names := by
  have counted : (layers.filter fun layer => layer.layerId = name).length = names.count name := by
    rw [← same.count_eq name, count_eq_countP, countP_map, countP_eq_length_filter]
    rfl
  rw [counted]
  constructor
  · intro one
    exact count_pos_iff.mp (one ▸ Nat.one_pos)
  · exact count_eq_one_of_mem nodup

lemma wellFormed_iff {snapshot : BuiltSnapshot} {counter : Nat} {emitted : List Emission}
    {names : List String} (keys : snapshot.objects.map ObjectRecord.keys = resolve counter emitted)
    (layers : (snapshot.layers.map BuiltLayer.layerId).Perm names) (nodup : names.Nodup)
    (isAsked : ∀ name, name ∈ names ↔ name ∈ requestsOf emitted)
    (known : ∀ emission ∈ emitted, emission.id ≠ .missing → Named emission)
    (pointers : (emitted.filterMap pointerOf).Nodup) :
    WellFormed snapshot ↔ (∀ emission ∈ emitted, emission.id ≠ .missing) ∧
      ∀ emission ∈ emitted, emission.request = none → emission.fallback ∈ requestsOf emitted := by
  have objectOf : ∀ emission ∈ emitted, ∃ object ∈ snapshot.objects, ∃ later,
      object.objectId = emission.id.text later ∧ object.layerId = emission.layerId := by
    intro emission member
    rcases resolve_mem counter member with ⟨later, resolved⟩
    rw [← keys] at resolved
    rcases mem_map.mp resolved with ⟨object, isObject, same⟩
    exact ⟨object, isObject, later, congrArg Prod.fst same, congrArg Prod.snd same⟩
  have emissionOf : ∀ object ∈ snapshot.objects, ∃ emission ∈ emitted, ∃ later,
      object.objectId = emission.id.text later ∧ object.layerId = emission.layerId := by
    intro object member
    have resolved := mem_map_of_mem (f := ObjectRecord.keys) member
    rw [keys] at resolved
    rcases mem_resolve resolved with ⟨emission, isEmission, later, _, same⟩
    exact ⟨emission, isEmission, later, congrArg Prod.fst same, congrArg Prod.snd same⟩
  constructor
  · intro wellFormed
    constructor
    · intro emission member missing
      rcases objectOf emission member with ⟨object, isObject, later, isText, _⟩
      apply wellFormed.named object isObject
      rw [isText, missing]
      rfl
    · intro emission member none
      rcases objectOf emission member with ⟨object, isObject, later, _, isLayer⟩
      have one := (one_layer_iff layers nodup).mp (wellFormed.layered object isObject)
      rw [isLayer, Emission.layerId, none] at one
      exact (isAsked _).mp one
  · rintro ⟨given, found⟩
    refine ⟨?_, ?_, ?_⟩
    · intro object member
      rcases emissionOf object member with ⟨emission, isEmission, later, isText, _⟩
      rw [isText]
      exact text_ne_empty (known emission isEmission (given emission isEmission)) later
    · have ids : snapshot.objects.map ObjectRecord.objectId =
          (resolve counter emitted).map Prod.fst := by
        rw [← keys, map_map]
        rfl
      rw [ids]
      exact resolve_nodup emitted counter
        (fun emission member => known emission member (given emission member)) pointers
    · intro object member
      rcases emissionOf object member with ⟨emission, isEmission, later, _, isLayer⟩
      rw [one_layer_iff layers nodup, isLayer, isAsked]
      cases asked : emission.request with
      | none =>
        rw [Emission.layerId, asked]
        exact found emission isEmission asked
      | some name =>
        rw [Emission.layerId, asked]
        exact mem_filterMap.mpr ⟨emission, isEmission, asked⟩

/-- A snapshot is well formed exactly if no via is drawn and each layer is found and asked for once.
-/
theorem build_wellFormed_iff (lib : StandardLibrary) (db : SceneDatabase) (counter : Nat) :
    (∃ snapshot next, build lib (some db) counter = .ok (snapshot, next) ∧ WellFormed snapshot) ↔
      Drawable lib db := by
  have spec := build_spec lib db counter
  cases played : play lib [] (requestsOf (emissions db)) with
  | none =>
    rw [played] at spec
    apply iff_of_false
    · rintro ⟨snapshot, next, built, _⟩
      rw [spec] at built
      cases built
    · rintro ⟨fresh, _⟩
      rcases play_none played with ⟨front, name, isFront, stale⟩
      exact fresh front name isFront stale
  | some names =>
    rw [played] at spec
    rcases spec with ⟨nodup, snapshot, built, keys, layers⟩
    rcases play_some played with ⟨rfl, fresh⟩
    have asked : ∀ name, name ∈ (requestsOf (emissions db)).foldl requested [] ↔
        name ∈ requestsOf (emissions db) := by
      intro name
      rw [mem_requests]
      simp
    have onlyThis : (∃ snapshot' next, build lib (some db) counter = .ok (snapshot', next) ∧
        WellFormed snapshot') ↔ WellFormed snapshot := by
      constructor
      · rintro ⟨snapshot', next, other, wellFormed⟩
        rw [built] at other
        cases other
        exact wellFormed
      · exact fun wellFormed => ⟨snapshot, _, built, wellFormed⟩
    rw [onlyThis]
    have drawable : Drawable lib db ↔ ∀ block, db.block = some block →
        BlockDrawable (layerRequests db) block := and_iff_right fresh
    rw [drawable]
    cases there : db.block with
    | none =>
      have empty : emissions db = [] := by
        rw [emissions, there]
      rw [empty] at keys layers asked nodup
      rw [wellFormed_iff keys layers nodup asked (List.forall_mem_nil _) nodup_nil]
      apply iff_of_true
      · exact ⟨List.forall_mem_nil _, List.forall_mem_nil _⟩
      · rintro _ ⟨⟩
    | some block =>
      have same : emissions db = blockEmissions db block := by
        rw [emissions, there]
      rw [layerRequests]
      rw [same] at keys layers asked nodup ⊢
      rw [wellFormed_iff keys layers nodup asked (forall_known block) (block_pointers db block),
        ← blockDrawable_iff]
      constructor
      · rintro drawable _ ⟨⟩
        exact drawable
      · exact fun all => all block rfl

end Exact

def sampleLibrary : StandardLibrary := ⟨fun capacity => 2 * capacity, fun _ => "0"⟩

def metal1 : TechLayer := ⟨2, "metal1", .ROUTING, some 200, 100, true⟩

def metal2 : TechLayer := ⟨4, "metal2", .ROUTING, some 200, 100, false⟩

def viaBlock : DbBlock where
  dbUnitsPerMicron := 1000
  bbox := none
  insts := []
  nets := [⟨"n", some ⟨8, [⟨.TECH_VIA, ⟨0, 0, 10, 10⟩, none, some ⟨some metal2, some metal1⟩, 5, 5,
    []⟩]⟩⟩]
  bterms := []
  blockages := []
  markerCategories := []
  trackGrids := []
  insts_nodup := nodup_nil
  wires_nodup := nodup_singleton 8
  bterms_nodup := nodup_nil
  iterms_nodup := nodup_nil

def viaDatabase : SceneDatabase := ⟨some ⟨some viaBlock⟩, some [metal1, metal2]⟩

/-- The part of the via on its top layer has no id. -/
theorem via_without_id : ¬ ∃ snapshot next,
    build sampleLibrary (some viaDatabase) 0 = .ok (snapshot, next) ∧ WellFormed snapshot := by
  rintro ⟨snapshot, next, built, wellFormed⟩
  have ids : (match build sampleLibrary (some viaDatabase) 0 with
      | .ok result => result.1.objects.map ObjectRecord.objectId
      | .error _ => []) = ["", "ptr_8_via_0_bottom", "ptr_8_via_0_cut"] := by
    with_unfolding_all decide
  rw [built] at ids
  have sameIds : snapshot.objects.map ObjectRecord.objectId =
      ["", "ptr_8_via_0_bottom", "ptr_8_via_0_cut"] := ids
  have member : "" ∈ snapshot.objects.map ObjectRecord.objectId := by
    rw [sameIds]
    exact mem_cons_self
  rcases List.mem_map.mp member with ⟨object, isObject, empty⟩
  exact wellFormed.named object isObject empty

end OdbSceneBuilder

end OpenRoad.Viewer
