import OpenRoad.Viewer.FreshScene

/-! What the loop of `updateObjects` makes of the records of a snapshot. -/

namespace OpenRoad.Viewer

open OpenRoad.Lib OsgScene Function List

def origin (before fullUpdates : List ObjectRecord) (id : String) : Option ObjectRecord :=
  (indexBy ObjectRecord.objectId fullUpdates id).or
    (before.find? fun object => object.objectId = id)

def lastFlag (changes : List (String × Bool)) (id : String) : Option Bool :=
  (indexBy Prod.fst changes id).map Prod.snd

variable {before front : List ObjectRecord} {loop : UpdateLoop} {object : ObjectRecord}
  {id : String}

lemma lastFlag_concat (changes : List (String × Bool)) (change : String × Bool) (id : String) :
    lastFlag (changes ++ [change]) id = if id = change.1 then some change.2 else lastFlag changes id := by
  rw [lastFlag, indexBy_concat, update_apply]
  split
  · rfl
  · rfl

lemma indexBy_concat_apply {α : Type} (key : α → String) (items : List α) (item : α) (id : String) :
    indexBy key (items ++ [item]) id = if id = key item then some item else indexBy key items id := by
  rw [indexBy_concat, update_apply]

lemma origin_concat (before fullUpdates : List ObjectRecord) (object : ObjectRecord) (id : String) :
    origin before (fullUpdates ++ [object]) id =
      if id = object.objectId then some object else origin before fullUpdates id := by
  rw [origin, indexBy_concat_apply]
  split
  · rfl
  · rfl

lemma ids_concat (objects : List ObjectRecord) (object : ObjectRecord) :
    ids (objects ++ [object]) = ids objects ++ [object.objectId] := map_append

/-- Each record looks like its origin and has its flag, unless its visibility was changed later. -/
structure UpdateLoop.Revises (loop : UpdateLoop) (before front : List ObjectRecord) : Prop where
  sound : loop.Sound
  slots : ids before <+: ids loop.objects
  known : ∀ id, id ∈ ids loop.objects ↔ id ∈ ids before ∨ id ∈ ids front
  source : ∀ record ∈ loop.objects, ∃ source,
    origin before loop.fullUpdates record.objectId = some source ∧ record.look = source.look ∧
      (lastFlag loop.visibilityOnlyUpdates record.objectId = none → record = source)
  flags : ∀ record ∈ loop.objects, ∀ object,
    indexBy ObjectRecord.objectId front record.objectId = some object →
      record.visible = object.visible ∧ record.type = object.type
  fulls : ∀ full ∈ loop.fullUpdates, full ∈ front
  changes : ∀ change ∈ loop.visibilityOnlyUpdates, change.1 ∈ ids front

lemma revises_set {slot : Nat} (record : ObjectRecord) (revises : loop.Revises before front)
    (sameId : record.objectId = object.objectId) (shown : record.visible = object.visible ∧ record.type = object.type)
    (found : loop.objectIndexById object.objectId = some slot)
    (sound : (loop.body object).Sound)
    (objects : (loop.body object).objects = loop.objects.set slot record)
    (own : ∃ source, origin before (loop.body object).fullUpdates object.objectId = some source ∧
      record.look = source.look ∧
        (lastFlag (loop.body object).visibilityOnlyUpdates object.objectId = none → record = source))
    (others : ∀ id, id ≠ object.objectId →
      origin before (loop.body object).fullUpdates id = origin before loop.fullUpdates id ∧
        lastFlag (loop.body object).visibilityOnlyUpdates id = lastFlag loop.visibilityOnlyUpdates id)
    (fulls : ∀ full ∈ (loop.body object).fullUpdates, full ∈ front ++ [object])
    (changes : ∀ change ∈ (loop.body object).visibilityOnlyUpdates,
      change.1 ∈ ids (front ++ [object])) :
    (loop.body object).Revises before (front ++ [object]) := by
  have there := (revises.sound.byId object.objectId slot).mp found
  have sameIds : ids (loop.body object).objects = ids loop.objects := by
    rw [objects]
    exact ids_set record (there.trans (congrArg some sameId.symm))
  have bound : slot < loop.objects.length := by
    rw [idAt_eq] at there
    simpa using (List.getElem?_eq_some_iff.mp there).1
  have placed : record ∈ (loop.body object).objects := by
    rw [objects]
    exact mem_set bound record
  have isRecord : ∀ other ∈ (loop.body object).objects, other.objectId = object.objectId →
      other = record :=
    fun other member same => record_unique sound.nodup member placed (same.trans sameId.symm)
  have isOld : ∀ other ∈ (loop.body object).objects, other.objectId ≠ object.objectId →
      other ∈ loop.objects := by
    intro other member different
    rw [objects] at member
    rcases mem_or_eq_of_mem_set member with old | new
    · exact old
    · exact absurd ((congrArg ObjectRecord.objectId new).trans sameId) different
  refine ⟨sound, ?_, ?_, ?_, ?_, fulls, changes⟩
  · rw [sameIds]
    exact revises.slots
  · intro id
    rw [sameIds, revises.known id, ids_concat, mem_append]
    constructor
    · rintro (old | new)
      · exact Or.inl old
      · exact Or.inr (Or.inl new)
    · rintro (old | new | last)
      · exact Or.inl old
      · exact Or.inr new
      · rw [mem_singleton.mp last]
        exact (revises.known object.objectId).mp (idAt_mem there)
  · intro other member
    by_cases same : other.objectId = object.objectId
    · rw [isRecord other member same, sameId]
      exact own
    · rw [(others _ same).1, (others _ same).2]
      exact revises.source other (isOld other member same)
  · intro other member last isLast
    rw [indexBy_concat_apply] at isLast
    by_cases same : other.objectId = object.objectId
    · rw [if_pos same] at isLast
      rw [isRecord other member same, ← Option.some.inj isLast]
      exact shown
    · rw [if_neg same] at isLast
      exact revises.flags other (isOld other member same) last isLast

lemma revises_body (revises : loop.Revises before front) (object : ObjectRecord) :
    (loop.body object).Revises before (front ++ [object]) := by
  have sound := (UpdateLoop.sound_body revises.sound object).1
  have oldFulls : ∀ full ∈ loop.fullUpdates, full ∈ front ++ [object] :=
    fun full member => mem_append_left _ (revises.fulls full member)
  have isLast : object ∈ front ++ [object] := mem_append_right _ (mem_singleton.mpr rfl)
  have oldChanges : ∀ change ∈ loop.visibilityOnlyUpdates, change.1 ∈ ids (front ++ [object]) := by
    intro change member
    rw [ids_concat]
    exact mem_append_left _ (revises.changes change member)
  cases found : loop.objectIndexById object.objectId with
  | none =>
    have absent := indexes_none revises.sound.byId found
    have body : loop.body object = { loop with
        objects := loop.objects ++ [object]
        objectIndexById :=
          update loop.objectIndexById object.objectId (some loop.objects.length)
        objectIndex :=
          update loop.objectIndex object.objectId (some loop.objects.length)
        fullUpdates := loop.fullUpdates ++ [object] } := by
      unfold UpdateLoop.body
      rw [found]
    have other : ∀ record ∈ loop.objects, record.objectId ≠ object.objectId := by
      intro record member same
      exact absent (same ▸ mem_map_of_mem member)
    rw [body] at sound ⊢
    refine ⟨sound, ?_, ?_, ?_, ?_, ?_, oldChanges⟩
    · rw [ids_concat]
      exact revises.slots.trans (prefix_append _ _)
    · intro id
      rw [ids_concat, ids_concat, mem_append, mem_append, revises.known id, or_assoc]
    · intro record member
      dsimp only
      rw [origin_concat]
      rcases mem_append.mp member with old | new
      · rw [if_neg (other record old)]
        exact revises.source record old
      · rw [mem_singleton.mp new, if_pos rfl]
        exact ⟨object, rfl, rfl, fun _ => rfl⟩
    · intro record member last lastIs
      rw [indexBy_concat_apply] at lastIs
      rcases mem_append.mp member with old | new
      · rw [if_neg (other record old)] at lastIs
        exact revises.flags record old last lastIs
      · rw [mem_singleton.mp new] at lastIs ⊢
        rw [if_pos rfl] at lastIs
        rw [Option.some.inj lastIs]
        exact ⟨rfl, rfl⟩
    · intro full member
      rcases mem_append.mp member with old | new
      · exact oldFulls full old
      · rw [mem_singleton.mp new]
        exact isLast
  | some slot =>
    have there := (revises.sound.byId object.objectId slot).mp found
    rcases Option.map_eq_some_iff.mp there with ⟨existing, isThere, sameId⟩
    by_cases only : existing.visible ≠ object.visible ∧ equalExceptVisible existing object = true
    · have body : loop.body object = { loop with
          objects := loop.objects.set slot { existing with visible := object.visible }
          visibilityOnlyUpdates :=
            loop.visibilityOnlyUpdates ++ [(object.objectId, object.visible)] } := by
        unfold UpdateLoop.body
        rw [found]
        dsimp only
        rw [isThere]
        dsimp only
        rw [if_pos only]
      rcases revises.source existing (mem_of_getElem? isThere) with ⟨source, isSource, looks, _⟩
      have flag : ∀ id, lastFlag (loop.body object).visibilityOnlyUpdates id =
          if id = object.objectId then some object.visible
          else lastFlag loop.visibilityOnlyUpdates id := by
        intro id
        rw [body]
        exact lastFlag_concat _ (object.objectId, object.visible) id
      have full : (loop.body object).fullUpdates = loop.fullUpdates := by rw [body]
      have sameType : existing.type = object.type := by
        have equal := only.2
        simp only [equalExceptVisible, Bool.and_eq_true, decide_eq_true_eq] at equal
        exact equal.1.1.1.1.1.1.1.1.1.2
      apply revises_set { existing with visible := object.visible } revises sameId ⟨rfl, sameType⟩
        found sound (by rw [body])
      · rw [full, flag, if_pos rfl, ← sameId]
        exact ⟨source, isSource, looks, fun missing => nomatch missing⟩
      · intro id different
        rw [full, flag, if_neg different]
        exact ⟨rfl, rfl⟩
      · rw [full]
        exact oldFulls
      · intro change member
        rw [body] at member
        rcases mem_append.mp member with old | new
        · exact oldChanges change old
        · rw [mem_singleton.mp new]
          exact mem_map_of_mem isLast
    · have body : loop.body object = { loop with
          objects := loop.objects.set slot object
          fullUpdates := loop.fullUpdates ++ [object]
          objectIndex := update loop.objectIndex object.objectId (some slot) } := by
        unfold UpdateLoop.body
        rw [found]
        dsimp only
        rw [isThere]
        dsimp only
        rw [if_neg only]
      have full : (loop.body object).fullUpdates = loop.fullUpdates ++ [object] := by rw [body]
      have flag : (loop.body object).visibilityOnlyUpdates = loop.visibilityOnlyUpdates := by
        rw [body]
      apply revises_set object revises rfl ⟨rfl, rfl⟩ found sound (by rw [body])
      · rw [full, origin_concat, if_pos rfl]
        exact ⟨object, rfl, rfl, fun _ => rfl⟩
      · intro id different
        rw [full, flag, origin_concat, if_neg different]
        exact ⟨rfl, rfl⟩
      · intro update member
        rw [full] at member
        rcases mem_append.mp member with old | new
        · exact oldFulls update old
        · rw [mem_singleton.mp new]
          exact isLast
      · rw [flag]
        exact oldChanges

lemma updateLoop_revises (backend : Backend) (unique : (ids backend.objects).Nodup)
    (objects : List ObjectRecord) :
    (backend.updateLoop objects).Revises backend.objects objects := by
  induction objects using reverseRecOn with
  | nil =>
    refine ⟨⟨unique, indexes_indexFrom unique⟩, prefix_refl _, ?_, ?_, ?_, ?_, ?_⟩
    · intro id
      exact (or_iff_left (not_mem_nil)).symm
    · intro record there
      exact ⟨record, find_record unique there, rfl, fun _ => rfl⟩
    · intro record _ object last
      cases last
    · intro full member
      cases member
    · intro change member
      cases member
  | append_singleton objects object ih =>
    have step : backend.updateLoop (objects ++ [object]) =
        (backend.updateLoop objects).body object := by
      rw [Backend.updateLoop, foldl_append]
      rfl
    rw [step]
    exact revises_body ih object

end OpenRoad.Viewer
