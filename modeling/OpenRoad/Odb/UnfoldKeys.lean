import OpenRoad.Lib.Visits
import OpenRoad.Odb.UnfoldExact

/-! How regions and bumps are found in the unfolded model: by the path of their chip, which the maps
lead to, and by their instance. -/

namespace OpenRoad.Odb

open OpenRoad.Lib List
open Option hiding any_eq_true map_map mem_map

abbrev ChipKeys := List Nat × List (Nat × List Nat)

def UnfoldedRegion.keys (region : UnfoldedRegion) : Nat × List Nat :=
  (region.region_inst, region.bumps.map UnfoldedBump.bump_inst)

def UnfoldedChip.keys (chip : UnfoldedChip) : ChipKeys :=
  (chip.chip_inst_path, chip.regions.map UnfoldedRegion.keys)

def UnfoldedModel.keys (m : UnfoldedModel) : List ChipKeys :=
  m.unfolded_chips.map UnfoldedChip.keys

/-- The pointer leads to the region of the chip at the path. -/
def RegionIn (ks : List ChipKeys) (path : List Nat) (regionInst : Nat) (ptr : RegionPtr) : Prop :=
  ∃ chip region, ks[ptr.1]? = some chip ∧ chip.1 = path ∧ chip.2[ptr.2]? = some region ∧
    region.1 = regionInst

def BumpIn (ks : List ChipKeys) (path : List Nat) (bumpInst : Nat) (ptr : BumpPtr) : Prop :=
  ∃ chip region, ks[ptr.1]? = some chip ∧ chip.1 = path ∧ chip.2[ptr.2.1]? = some region ∧
    region.2[ptr.2.2]? = some bumpInst

structure UniqueKeys (ks : List ChipKeys) : Prop where
  paths : (ks.map Prod.fst).Nodup
  regions : ∀ chip ∈ ks, (chip.2.map Prod.fst).Nodup
  bumps : ∀ chip ∈ ks, (chip.2.flatMap Prod.snd).Nodup

lemma uniqueKeys_front {front ks : List ChipKeys} (isFront : front <+: ks)
    (unique : UniqueKeys ks) : UniqueKeys front where
  paths := unique.paths.sublist (isFront.sublist.map Prod.fst)
  regions := fun chip member => unique.regions chip (isFront.subset member)
  bumps := fun chip member => unique.bumps chip (isFront.subset member)

def pathEntries (ks : List ChipKeys) : List (List Nat × Nat) :=
  ks.zipIdx.map fun entry => (entry.1.1, entry.2)

def regionBumps (path : List Nat) (chipPtr : Nat) (region : (Nat × List Nat) × Nat) :
    List ((Nat × List Nat) × BumpPtr) :=
  region.1.2.zipIdx.map fun bump => ((bump.1, path), (chipPtr, region.2, bump.2))

def chipBumps (chip : ChipKeys × Nat) : List ((Nat × List Nat) × BumpPtr) :=
  chip.1.2.zipIdx.flatMap (regionBumps chip.1.1 chip.2)

def bumpEntries (ks : List ChipKeys) : List ((Nat × List Nat) × BumpPtr) :=
  ks.zipIdx.flatMap chipBumps

structure Mapped (m : UnfoldedModel) : Prop where
  paths : m.chip_path_map = (pathEntries m.keys).reverse
  bumps : m.bump_inst_map = (bumpEntries m.keys).reverse

lemma bumpPtrs_keys (chipPtr : Nat) (chip : UnfoldedChip) :
    bumpPtrs chipPtr chip = chipBumps (chip.keys, chipPtr) := by
  simp only [bumpPtrs, chipBumps, UnfoldedChip.keys, zipIdx_map, flatMap_map]
  congr 1
  funext ⟨region, regionIdx⟩
  simp only [regionBumps, Prod.map, id, UnfoldedRegion.keys, zipIdx_map, map_map]
  rfl

lemma mapped_empty : Mapped UnfoldedModel.empty := ⟨rfl, rfl⟩

lemma keys_register (chip : UnfoldedChip) (m : UnfoldedModel) :
    (registerUnfoldedChip chip m).keys = m.keys ++ [chip.keys] := by
  simp only [UnfoldedModel.keys, registerUnfoldedChip, map_append, map_cons, map_nil]

lemma mapped_register (chip : UnfoldedChip) {m : UnfoldedModel} (mapped : Mapped m) :
    Mapped (registerUnfoldedChip chip m) := by
  have count : m.keys.length = m.unfolded_chips.length := by
    rw [UnfoldedModel.keys, length_map]
  constructor
  · rw [keys_register, pathEntries, zipIdx_append, map_append, reverse_append]
    simp only [registerUnfoldedChip, mapped.paths, zipIdx_cons, zipIdx_nil, map_cons,
      map_nil, reverse_singleton, singleton_append, count, Nat.zero_add]
    rfl
  · rw [keys_register, bumpEntries, zipIdx_append, flatMap_append, reverse_append]
    simp only [registerUnfoldedChip, mapped.bumps, zipIdx_cons, zipIdx_nil,
      flatMap_cons, flatMap_nil, append_nil, count, Nat.zero_add, bumpPtrs_keys]
    rfl

variable {m : UnfoldedModel} {ks : List ChipKeys} {path : List Nat}

lemma mem_pathEntries (path : List Nat) (i : Nat) :
    (path, i) ∈ pathEntries ks ↔ ∃ chip, ks[i]? = some chip ∧ chip.1 = path := by
  rw [pathEntries, mem_map]
  constructor
  · rintro ⟨⟨chip, j⟩, member, same⟩
    rw [Prod.mk.injEq] at same
    exact ⟨chip, same.2 ▸ List.mem_zipIdx_iff_getElem?.mp member, same.1⟩
  · rintro ⟨chip, there, same⟩
    exact ⟨(chip, i), List.mem_zipIdx_iff_getElem?.mpr there, Prod.ext same rfl⟩

lemma mem_bumpEntries (bumpInst : Nat) (path : List Nat) (ptr : BumpPtr) :
    ((bumpInst, path), ptr) ∈ bumpEntries ks ↔ BumpIn ks path bumpInst ptr := by
  simp only [bumpEntries, chipBumps, regionBumps, mem_flatMap, mem_map, Prod.exists,
    mem_zipIdx_iff_getElem?]
  constructor
  · rintro ⟨chipPath, regions, i, there, region, bumps, j, inChip, bump, k, inRegion, same⟩
    simp only [Prod.mk.injEq] at same
    rcases same with ⟨⟨rfl, rfl⟩, rfl⟩
    exact ⟨_, _, there, rfl, inChip, inRegion⟩
  · rintro ⟨⟨chipPath, regions⟩, ⟨region, bumps⟩, there, rfl, inChip, inRegion⟩
    exact ⟨_, _, _, there, _, _, _, inChip, _, _, inRegion, rfl⟩

lemma pathEntries_fst (ks : List ChipKeys) : (pathEntries ks).map Prod.fst = ks.map Prod.fst := by
  rw [pathEntries, map_map]
  change ks.zipIdx.map (Prod.fst ∘ Prod.fst) = _
  rw [← map_map, zipIdx_map_fst]

lemma chipBumps_fst (chip : ChipKeys × Nat) :
    (chipBumps chip).map Prod.fst = (chip.1.2.flatMap Prod.snd).map fun bump => (bump, chip.1.1) := by
  have each : ∀ region : (Nat × List Nat) × Nat, (regionBumps chip.1.1 chip.2 region).map Prod.fst =
      region.1.2.map fun bump => (bump, chip.1.1) := by
    intro region
    rw [regionBumps, map_map]
    change region.1.2.zipIdx.map ((fun bump => (bump, chip.1.1)) ∘ Prod.fst) = _
    rw [← map_map, zipIdx_map_fst]
  rw [chipBumps, map_flatMap, map_flatMap]
  simp only [each]
  rw [← flatMap_map (f := Prod.fst)
    (g := fun region : Nat × List Nat => region.2.map fun bump => (bump, chip.1.1)),
    zipIdx_map_fst]

lemma bumpEntries_nodup (unique : UniqueKeys ks) : ((bumpEntries ks).map Prod.fst).Nodup := by
  rw [bumpEntries, map_flatMap]
  simp only [chipBumps_fst]
  rw [← flatMap_map (f := Prod.fst)
    (g := fun chip : ChipKeys => (chip.2.flatMap Prod.snd).map fun bump => (bump, chip.1)),
    zipIdx_map_fst, nodup_flatMap]
  constructor
  · intro chip member
    exact (unique.bumps chip member).map fun _ _ same => congrArg Prod.fst same
  · have apart : ks.Pairwise fun first second => first.1 ≠ second.1 :=
      List.pairwise_map.mp unique.paths
    apply apart.imp
    intro first second different
    rw [Function.onFun, disjoint_left]
    intro entry inFirst inSecond
    rcases List.mem_map.mp inFirst with ⟨_, _, rfl⟩
    rcases List.mem_map.mp inSecond with ⟨_, _, same⟩
    exact different (congrArg Prod.snd same).symm

lemma findUnfoldedChip_iff (mapped : Mapped m) (unique : UniqueKeys m.keys) (path : List Nat)
    (i : Nat) : m.findUnfoldedChip path = some i ↔ ∃ chip, m.keys[i]? = some chip ∧ chip.1 = path := by
  have nodup : (((pathEntries m.keys).reverse).map Prod.fst).Nodup := by
    rw [map_reverse, nodup_reverse, pathEntries_fst]
    exact unique.paths
  rw [UnfoldedModel.findUnfoldedChip, mapped.paths, lookup_iff_mem _ nodup, mem_reverse,
    mem_pathEntries]

lemma findBump_iff (mapped : Mapped m) (unique : UniqueKeys m.keys) (bumpInst : Nat)
    (path : List Nat) (ptr : BumpPtr) :
    m.bump_inst_map.lookup (bumpInst, path) = some ptr ↔ BumpIn m.keys path bumpInst ptr := by
  have nodup : (((bumpEntries m.keys).reverse).map Prod.fst).Nodup := by
    rw [map_reverse, nodup_reverse]
    exact bumpEntries_nodup unique
  rw [mapped.bumps, lookup_iff_mem _ nodup, mem_reverse, mem_bumpEntries]

lemma nodup_getElem? {α : Type} {items : List α} (nodup : items.Nodup) {i j : Nat} {item : α}
    (first : items[i]? = some item) (second : items[j]? = some item) : i = j := by
  rcases List.getElem?_eq_some_iff.mp first with ⟨inRange, _⟩
  exact (List.getElem?_inj inRange nodup).mp (first.trans second.symm)

lemma regionIn_unique (unique : UniqueKeys ks) {regionInst : Nat} {p q : RegionPtr}
    (first : RegionIn ks path regionInst p) (second : RegionIn ks path regionInst q) : p = q := by
  rcases first with ⟨chip, region, there, isPath, inChip, isInst⟩
  rcases second with ⟨chip', region', there', isPath', inChip', isInst'⟩
  have sameChip : p.1 = q.1 := by
    apply nodup_getElem? unique.paths
    · rw [List.getElem?_map, there, map_some, isPath]
    · rw [List.getElem?_map, there', map_some, isPath']
  rw [← sameChip, there] at there'
  cases there'
  have sameRegion : p.2 = q.2 := by
    apply nodup_getElem? (unique.regions chip (mem_of_getElem? there))
    · rw [List.getElem?_map, inChip, map_some, isInst]
    · rw [List.getElem?_map, inChip', map_some, isInst']
  exact Prod.ext sameChip sameRegion

lemma findRegion_iff (mapped : Mapped m) (unique : UniqueKeys m.keys) (path : List Nat)
    (regionInst : Nat) (ptr : RegionPtr) :
    m.findUnfoldedRegion (m.findUnfoldedChip path) regionInst = some ptr ↔
      regionInst ≠ 0 ∧ RegionIn m.keys path regionInst ptr := by
  have there : ∀ (i : Nat) (chip : UnfoldedChip), m.unfolded_chips[i]? = some chip →
      m.keys[i]? = some chip.keys := by
    intro i chip found
    rw [UnfoldedModel.keys, List.getElem?_map, found]
    rfl
  have isRegion : ∀ (chip : UnfoldedChip) (j : Nat) (region : UnfoldedRegion),
      chip.regions[j]? = some region → chip.keys.2[j]? = some region.keys := by
    intro chip j region found
    rw [UnfoldedChip.keys, List.getElem?_map, found]
    rfl
  constructor
  · intro found
    rcases bind_eq_some_iff.mp found with ⟨i, foundChip, found⟩
    rcases bind_eq_some_iff.mp found with ⟨chip, isChip, found⟩
    rcases bind_eq_some_iff.mp found with ⟨j, isIndex, found⟩
    split at found
    · cases found
    · rename_i nonzero
      cases found
      rcases (findUnfoldedChip_iff mapped unique path i).mp foundChip with ⟨chip', isKeys, isPath⟩
      rw [there i chip isChip] at isKeys
      cases isKeys
      rcases List.findIdx?_eq_some_iff_getElem.mp isIndex with ⟨inRange, isInst, _⟩
      have inChip := isRegion chip j _ (List.getElem?_eq_getElem inRange)
      exact ⟨nonzero, chip.keys, _, there i chip isChip, isPath, inChip, of_decide_eq_true isInst⟩
  · rintro ⟨nonzero, isIn⟩
    rcases isIn with ⟨keys, region, isKeys, isPath, inChip, isInst⟩
    have foundChip := (findUnfoldedChip_iff mapped unique path ptr.1).mpr ⟨keys, isKeys, isPath⟩
    rw [UnfoldedModel.keys, List.getElem?_map] at isKeys
    rcases map_eq_some_iff.mp isKeys with ⟨chip, isChip, rfl⟩
    rw [UnfoldedChip.keys, List.getElem?_map] at inChip
    rcases map_eq_some_iff.mp inChip with ⟨object, isObject, rfl⟩
    have some : (chip.regions.findIdx? (·.region_inst = regionInst)).isSome := by
      rw [List.findIdx?_isSome, any_eq_true]
      exact ⟨object, mem_of_getElem? isObject, decide_eq_true isInst⟩
    rcases isSome_iff_exists.mp some with ⟨j, isIndex⟩
    rcases List.findIdx?_eq_some_iff_getElem.mp isIndex with ⟨inRange, isFirst, _⟩
    have isIn : RegionIn m.keys path regionInst (ptr.1, j) :=
      ⟨chip.keys, _, there _ _ isChip, isPath, isRegion chip j _ (List.getElem?_eq_getElem inRange),
        of_decide_eq_true isFirst⟩
    have same := regionIn_unique unique isIn
      ⟨chip.keys, object.keys, there _ _ isChip, isPath, isRegion chip _ _ isObject, isInst⟩
    rw [UnfoldedModel.findUnfoldedRegion, foundChip]
    simp only [bind_eq_bind, bind_some, isChip, isIndex, if_neg nonzero, same]

def Settled (ks final : List ChipKeys) (path : List Nat) : Prop :=
  ∀ (i : Nat) (chip : ChipKeys), final[i]? = some chip → chip.1 = path → ks[i]? = some chip

variable {final : List ChipKeys}

lemma front_getElem? (isFront : ks <+: final) {i : Nat} {chip : ChipKeys}
    (there : ks[i]? = some chip) : final[i]? = some chip := by
  rcases isFront with ⟨rest, rfl⟩
  rw [List.getElem?_append_left (List.getElem?_eq_some_iff.mp there).1]
  exact there

lemma regionIn_settled (isFront : ks <+: final) (settled : Settled ks final path)
    (regionInst : Nat) (ptr : RegionPtr) :
    RegionIn ks path regionInst ptr ↔ RegionIn final path regionInst ptr := by
  constructor
  · rintro ⟨chip, region, there, rest⟩
    exact ⟨chip, region, front_getElem? isFront there, rest⟩
  · rintro ⟨chip, region, there, isPath, rest⟩
    exact ⟨chip, region, settled _ _ there isPath, isPath, rest⟩

lemma bumpIn_settled (isFront : ks <+: final) (settled : Settled ks final path)
    (bumpInst : Nat) (ptr : BumpPtr) :
    BumpIn ks path bumpInst ptr ↔ BumpIn final path bumpInst ptr := by
  constructor
  · rintro ⟨chip, region, there, rest⟩
    exact ⟨chip, region, front_getElem? isFront there, rest⟩
  · rintro ⟨chip, region, there, isPath, rest⟩
    exact ⟨chip, region, settled _ _ there isPath, isPath, rest⟩

lemma settled_of_mem (isFront : ks <+: final) (unique : UniqueKeys final)
    (member : path ∈ final.map Prod.fst → path ∈ ks.map Prod.fst) : Settled ks final path := by
  intro i chip there isPath
  have inFinal : path ∈ final.map Prod.fst :=
    isPath ▸ mem_map_of_mem (mem_of_getElem? there)
  rcases List.mem_map.mp (member inFinal) with ⟨early, inFront, isPath'⟩
  rcases List.mem_iff_getElem?.mp inFront with ⟨j, thereEarly⟩
  have same : j = i := by
    apply nodup_getElem? unique.paths
    · rw [List.getElem?_map, front_getElem? isFront thereEarly, map_some, isPath']
    · rw [List.getElem?_map, there, map_some, isPath]
  have late := front_getElem? isFront thereEarly
  rw [same, there] at late
  rw [← same, thereEarly, some.inj late]

lemma markUsed_rest (m : UnfoldedModel) (ptr : Option RegionPtr) :
    (m.markUsed ptr).keys = m.keys ∧ (m.markUsed ptr).chip_path_map = m.chip_path_map ∧
      (m.markUsed ptr).bump_inst_map = m.bump_inst_map ∧
      (m.markUsed ptr).unfolded_nets = m.unfolded_nets := by
  rcases ptr with _ | ⟨chipPtr, region⟩
  · exact ⟨rfl, rfl, rfl, rfl⟩
  · rw [UnfoldedModel.markUsed]
    split
    · refine ⟨?_, rfl, rfl, rfl⟩
      apply map_modify_same
      intro chip
      simp only [UnfoldedChip.keys, Prod.mk.injEq, true_and]
      apply map_modify_same
      intro _
      rfl
    · exact ⟨rfl, rfl, rfl, rfl⟩

lemma mapped_same {m' : UnfoldedModel} (mapped : Mapped m) (keys : m'.keys = m.keys)
    (paths : m'.chip_path_map = m.chip_path_map) (bumps : m'.bump_inst_map = m.bump_inst_map) :
    Mapped m' := ⟨by rw [paths, keys, mapped.paths], by rw [bumps, keys, mapped.bumps]⟩

end OpenRoad.Odb
