import Std.Data.String.ToNat
import OpenRoad.Viewer.SceneEmissions

/-! The ids of the objects of a built snapshot: their texts, and that they are different. -/

namespace OpenRoad.Viewer

open OpenRoad.Lib List
open OpenRoad.Odb (Rect)

namespace OdbSceneBuilder

section Texts

lemma cut_inj {α : Type} {bar : α} {first first' rest rest' : List α} (clean : bar ∉ first)
    (clean' : bar ∉ first') (same : first ++ bar :: rest = first' ++ bar :: rest') :
    first = first' ∧ rest = rest' := by
  induction first generalizing first' with
  | nil =>
    cases first' with
    | nil => exact ⟨rfl, (List.cons.inj same).2⟩
    | cons head first' =>
      rcases List.cons.inj same with ⟨rfl, _⟩
      exact absurd mem_cons_self clean'
  | cons head first ih =>
    cases first' with
    | nil =>
      rcases List.cons.inj same with ⟨rfl, _⟩
      exact absurd mem_cons_self clean
    | cons head' first' =>
      rcases List.cons.inj same with ⟨rfl, sameRest⟩
      rcases ih (fun member => clean (mem_cons_of_mem head member))
        (fun member => clean' (mem_cons_of_mem head member)) sameRest with ⟨rfl, sameLast⟩
      exact ⟨rfl, sameLast⟩

def digits (n : Nat) : List Char := (toString n).toList

lemma digits_clean (n : Nat) : '_' ∉ digits n := by
  intro member
  have shown : toString n = Nat.repr n := rfl
  rw [digits, shown, Nat.repr] at member
  simp only [String.toList_ofList] at member
  have isDigit := Nat.isDigit_of_mem_toDigits (by decide) (by decide) member
  exact absurd isDigit (by decide)

lemma digits_inj {m n : Nat} (same : digits m = digits n) : m = n :=
  Nat.repr_injective (String.toList_injective same)

def PointerKind.tail : PointerKind → List Char
  | inst => ['i', 'n', 's', 't']
  | wire index => 'w' :: 'i' :: 'r' :: 'e' :: '_' :: digits index
  | viaBottom index => 'v' :: 'i' :: 'a' :: '_' ::
    (digits index ++ '_' :: ['b', 'o', 't', 't', 'o', 'm'])
  | viaCut index => 'v' :: 'i' :: 'a' :: '_' :: (digits index ++ '_' :: ['c', 'u', 't'])
  | btermPin => ['b', 't', 'e', 'r', 'm', '_', 'p', 'i', 'n']
  | itermPin index => 'i' :: 't' :: 'e' :: 'r' :: 'm' :: '_' :: 'p' :: 'i' :: 'n' :: '_' ::
    digits index

lemma id_toList (ptr : Nat) (category : String) :
    (makePointerObjectId ptr category none "").toList =
      'p' :: 't' :: 'r' :: '_' :: (digits ptr ++ '_' :: category.toList) := by
  simp [makePointerObjectId, digits]

lemma id_index_toList (ptr : Nat) (category : String) (index : Nat) :
    (makePointerObjectId ptr category (some index) "").toList =
      'p' :: 't' :: 'r' :: '_' :: (digits ptr ++ '_' :: (category.toList ++ '_' :: digits index)) := by
  simp [makePointerObjectId, digits]

lemma id_role_toList (ptr : Nat) (category : String) (index : Nat) {role : String}
    (given : role ≠ "") :
    (makePointerObjectId ptr category (some index) role).toList = 'p' :: 't' :: 'r' :: '_' ::
      (digits ptr ++ '_' :: (category.toList ++ '_' :: (digits index ++ '_' :: role.toList))) := by
  simp [makePointerObjectId, digits, given]

lemma text_toList (ptr : Nat) (kind : PointerKind) :
    (kind.text ptr).toList = 'p' :: 't' :: 'r' :: '_' :: (digits ptr ++ '_' :: kind.tail) := by
  cases kind with
  | inst => exact id_toList ptr "inst"
  | wire index => exact id_index_toList ptr "wire" index
  | viaBottom index | viaCut index => exact id_role_toList ptr "via" index (by decide)
  | btermPin => exact id_toList ptr "bterm_pin"
  | itermPin index => exact id_index_toList ptr "iterm_pin" index

lemma tail_inj {kind kind' : PointerKind} (same : kind.tail = kind'.tail) : kind = kind' := by
  have cut : ∀ {m n : Nat} {rest rest' : List Char},
      digits m ++ '_' :: rest = digits n ++ '_' :: rest' → m = n ∧ rest = rest' := by
    intro m n rest rest' whole
    have parts := cut_inj (digits_clean m) (digits_clean n) whole
    exact ⟨digits_inj parts.1, parts.2⟩
  cases kind <;> cases kind' <;> simp only [PointerKind.tail, List.cons.injEq, reduceCtorEq, true_and,
    and_false] at same
  case inst.inst => rfl
  case btermPin.btermPin => rfl
  case wire.wire => exact congrArg _ (digits_inj same)
  case itermPin.itermPin => exact congrArg _ (digits_inj same)
  case viaBottom.viaBottom => exact congrArg _ (cut same).1
  case viaCut.viaCut => exact congrArg _ (cut same).1
  case viaBottom.viaCut => exact absurd (cut same).2 (by decide)
  case viaCut.viaBottom => exact absurd (cut same).2 (by decide)
  all_goals exact absurd same.1 (by decide)

lemma text_inj {ptr ptr' : Nat} {kind kind' : PointerKind}
    (same : kind.text ptr = kind'.text ptr') : ptr = ptr' ∧ kind = kind' := by
  have lists := congrArg String.toList same
  rw [text_toList, text_toList] at lists
  simp only [List.cons.injEq, true_and] at lists
  have parts := cut_inj (digits_clean ptr) (digits_clean ptr') lists
  exact ⟨digits_inj parts.1, tail_inj parts.2⟩

def stems : List String := ["blk", "drc", "track"]

lemma counted_toList (stem : String) (counter : Nat) :
    ((IdScheme.counted stem).text counter).toList = stem.toList ++ '_' :: digits counter := by
  simp [IdScheme.text, digits]

lemma counted_inj {stem stem' : String} {counter counter' : Nat} (known : stem ∈ stems)
    (known' : stem' ∈ stems)
    (same : (IdScheme.counted stem).text counter = (IdScheme.counted stem').text counter') :
    counter = counter' := by
  have clean : ∀ stem ∈ stems, '_' ∉ stem.toList := by decide
  have lists := congrArg String.toList same
  rw [counted_toList, counted_toList] at lists
  exact digits_inj (cut_inj (clean stem known) (clean stem' known') lists).2

lemma counted_ne_pointer {stem : String} (known : stem ∈ stems) (counter ptr : Nat)
    (kind : PointerKind) : (IdScheme.counted stem).text counter ≠ kind.text ptr := by
  intro same
  have heads : ∀ stem ∈ stems, stem.toList.head? ≠ some 'p' ∧ stem.toList ≠ [] := by decide
  have lists := congrArg (fun text => text.toList.head?) same
  simp only [counted_toList, text_toList, head?_cons,
    head?_append_of_ne_nil _ (heads stem known).2] at lists
  exact (heads stem known).1 lists

end Texts

section Different

def pointerOf (emission : Emission) : Option (Nat × PointerKind) :=
  match emission.id with
  | .pointer ptr kind => some (ptr, kind)
  | _ => none

def Named (emission : Emission) : Prop :=
  match emission.id with
  | .missing => False
  | .pointer _ _ => True
  | .counted stem => stem ∈ stems

lemma mem_resolve {emissions : List Emission} {counter : Nat} {keys : String × String}
    (member : keys ∈ resolve counter emissions) :
    ∃ emission ∈ emissions, ∃ later, counter ≤ later ∧
      keys = (emission.id.text later, emission.layerId) := by
  induction emissions generalizing counter with
  | nil => cases member
  | cons emission emissions ih =>
    rcases mem_cons.mp member with rfl | rest
    · exact ⟨emission, mem_cons_self, counter, le_refl counter, rfl⟩
    · rcases ih rest with ⟨other, inRest, later, after, same⟩
      have grows : counter ≤ emission.id.next counter := by
        cases emission.id with
        | counted => exact Nat.le_succ counter
        | _ => exact le_refl counter
      exact ⟨other, mem_cons_of_mem emission inRest, later, grows.trans after, same⟩

lemma resolve_mem {emissions : List Emission} {emission : Emission} (counter : Nat)
    (member : emission ∈ emissions) :
    ∃ later, (emission.id.text later, emission.layerId) ∈ resolve counter emissions := by
  induction emissions generalizing counter with
  | nil => cases member
  | cons head emissions ih =>
    rcases mem_cons.mp member with rfl | rest
    · exact ⟨counter, mem_cons_self⟩
    · rcases ih (head.id.next counter) rest with ⟨later, inRest⟩
      exact ⟨later, mem_cons_of_mem _ inRest⟩

lemma text_meets {first second : Emission} (named : Named first) (named' : Named second)
    {counter later : Nat} (after : first.id.next counter ≤ later)
    (same : first.id.text counter = second.id.text later) :
    ∃ pointer, pointerOf first = some pointer ∧ pointerOf second = some pointer := by
  rw [Named] at named named'
  cases isFirst : first.id with
  | missing => rw [isFirst] at named; exact named.elim
  | pointer ptr kind =>
    cases isSecond : second.id with
    | missing => rw [isSecond] at named'; exact named'.elim
    | pointer ptr' kind' =>
      rw [isFirst, isSecond] at same
      rcases text_inj same with ⟨rfl, rfl⟩
      exact ⟨(ptr, kind), by rw [pointerOf, isFirst], by rw [pointerOf, isSecond]⟩
    | counted stem =>
      rw [isSecond] at named'
      rw [isFirst, isSecond] at same
      exact absurd same.symm (counted_ne_pointer named' later ptr kind)
  | counted stem =>
    rw [isFirst] at named after
    cases isSecond : second.id with
    | missing => rw [isSecond] at named'; exact named'.elim
    | pointer ptr kind =>
      rw [isFirst, isSecond] at same
      exact absurd same (counted_ne_pointer named counter ptr kind)
    | counted stem' =>
      rw [isSecond] at named'
      rw [isFirst, isSecond] at same
      have earlier : counter + 1 ≤ later := after
      have sameCount := counted_inj named named' same
      omega

lemma resolve_nodup (emissions : List Emission) (counter : Nat)
    (named : ∀ emission ∈ emissions, Named emission)
    (pointers : (emissions.filterMap pointerOf).Nodup) :
    ((resolve counter emissions).map Prod.fst).Nodup := by
  induction emissions generalizing counter with
  | nil => exact nodup_nil
  | cons emission emissions ih =>
    have namedRest : ∀ other ∈ emissions, Named other :=
      fun other member => named other (mem_cons_of_mem emission member)
    rw [resolve, map_cons, nodup_cons]
    constructor
    · intro member
      rcases mem_map.mp member with ⟨keys, inRest, isText⟩
      rcases mem_resolve inRest with ⟨other, inEmissions, later, after, rfl⟩
      rcases text_meets (named emission mem_cons_self) (namedRest other inEmissions) after
        isText.symm with ⟨pointer, isFirst, isSecond⟩
      rw [filterMap_cons_some isFirst, nodup_cons] at pointers
      exact pointers.1 (mem_filterMap.mpr ⟨other, inEmissions, isSecond⟩)
    · apply ih _ namedRest
      exact pointers.sublist ((sublist_cons_self emission emissions).filterMap pointerOf)

end Different

section Addresses

variable (db : SceneDatabase)

lemma nodup_flatMap_owner {α : Type} {items : List α} {owner : α → Nat}
    {f : α → List (Nat × PointerKind)} (nodup : (items.map owner).Nodup)
    (each : ∀ item ∈ items, (f item).Nodup)
    (owns : ∀ item ∈ items, ∀ pointer ∈ f item, pointer.1 = owner item) :
    (items.flatMap f).Nodup := by
  induction items with
  | nil => exact nodup_nil
  | cons item items ih =>
    rw [map_cons, nodup_cons] at nodup
    rw [flatMap_cons, nodup_append]
    refine ⟨each item mem_cons_self, ih nodup.2 (fun other member =>
      each other (mem_cons_of_mem item member)) (fun other member =>
        owns other (mem_cons_of_mem item member)), ?_⟩
    rintro pointer fromItem pointer' fromRest rfl
    rcases mem_flatMap.mp fromRest with ⟨other, member, fromOther⟩
    have first := owns item mem_cons_self pointer fromItem
    have second := owns other (mem_cons_of_mem item member) pointer fromOther
    apply nodup.1
    rw [← first, second]
    exact mem_map_of_mem member

def wireIndex : PointerKind → Option Nat
  | .wire index => some index
  | .viaBottom index => some index
  | .viaCut index => some index
  | _ => none

def pinIndex : PointerKind → Option Nat
  | .itermPin index => some index
  | _ => none

/-- The pointers are from this owner, with an index from `index` on. -/
def FromIndex (place : PointerKind → Option Nat) (owner index : Nat)
    (pointers : List (Nat × PointerKind)) : Prop :=
  pointers.Nodup ∧ ∀ pointer ∈ pointers, pointer.1 = owner ∧
    ∃ later, index ≤ later ∧ place pointer.2 = some later

variable {place : PointerKind → Option Nat} {owner index : Nat}
  {pointers : List (Nat × PointerKind)}

lemma fromIndex_cons (kind : PointerKind) (isIndex : place kind = some index)
    (fresh : (owner, kind) ∉ pointers) (rest : FromIndex place owner index pointers) :
    FromIndex place owner index ((owner, kind) :: pointers) := by
  refine ⟨nodup_cons.mpr ⟨fresh, rest.1⟩, ?_⟩
  intro pointer member
  rcases mem_cons.mp member with rfl | member
  · exact ⟨rfl, index, le_refl index, isIndex⟩
  · exact rest.2 pointer member

lemma fromIndex_le (rest : FromIndex place owner (index + 1) pointers) :
    FromIndex place owner index pointers := by
  refine ⟨rest.1, ?_⟩
  intro pointer member
  rcases rest.2 pointer member with ⟨isOwner, later, after, isLater⟩
  exact ⟨isOwner, later, Nat.le_of_succ_le after, isLater⟩

lemma fromIndex_fresh (kind : PointerKind) (isIndex : place kind = some index)
    (rest : FromIndex place owner (index + 1) pointers) :
    (owner, kind) ∉ pointers := by
  intro member
  rcases rest.2 _ member with ⟨_, later, after, isLater⟩
  rw [isIndex] at isLater
  have same : index = later := Option.some.inj isLater
  omega

lemma shape_pointers (wire : Nat) (shapes : List DbShape) (index : Nat) :
    FromIndex wireIndex wire index ((shapeEmissions db wire index shapes).filterMap pointerOf) := by
  induction shapes generalizing index with
  | nil => exact ⟨nodup_nil, fun _ member => nomatch member⟩
  | cons shape shapes ih =>
    rw [shapeEmissions]
    split
    · cases shape.viaDef.bind ViaDef.topLayer with
      | none => exact ih index
      | some topLayer =>
        cases shape.viaDef.bind ViaDef.bottomLayer with
        | none => exact ih index
        | some bottomLayer =>
          have later := ih (index + 1)
          have cut := fromIndex_cons (.viaCut index) rfl
            (fromIndex_fresh (.viaCut index) rfl later) (fromIndex_le later)
          apply fromIndex_cons (.viaBottom index) rfl _ cut
          intro member
          rcases mem_cons.mp member with same | member
          · cases same
          · exact fromIndex_fresh (.viaBottom index) rfl later member
    · have later := ih (index + 1)
      exact fromIndex_cons (.wire index) rfl (fromIndex_fresh (.wire index) rfl later)
        (fromIndex_le later)

variable (block : DbBlock)

lemma wires_pointers :
    ((block.nets.flatMap (netEmissions db)).filterMap pointerOf).Nodup := by
  have byWire : block.nets.flatMap (netEmissions db) = (block.nets.filterMap DbNet.wire).flatMap
      fun wire => shapeEmissions db wire.ptr 0 wire.shapes := by
    induction block.nets with
    | nil => rfl
    | cons net nets ih =>
      rw [flatMap_cons, ih, netEmissions]
      cases there : net.wire with
      | none => rw [filterMap_cons_none there, nil_append]
      | some wire => rw [filterMap_cons_some there, flatMap_cons]
  rw [byWire, filterMap_flatMap]
  apply nodup_flatMap_owner block.wires_nodup
  · exact fun wire _ => (shape_pointers db wire.ptr wire.shapes 0).1
  · exact fun wire _ pointer member => ((shape_pointers db wire.ptr wire.shapes 0).2 pointer member).1

lemma iterm_shape_pointers (iterm : Nat) (shapes : List BoxShape) (index : Nat) :
    FromIndex pinIndex iterm index ((itermShapeEmissions iterm index shapes).filterMap pointerOf) := by
  induction shapes generalizing index with
  | nil => exact ⟨nodup_nil, fun _ member => nomatch member⟩
  | cons shape shapes ih =>
    rw [itermShapeEmissions]
    cases shape.layer with
    | none => exact ih index
    | some layer =>
      have later := ih (index + 1)
      exact fromIndex_cons (.itermPin index) rfl (fromIndex_fresh (.itermPin index) rfl later)
        (fromIndex_le later)

lemma iterms_pointers :
    ((block.insts.flatMap fun inst => inst.iterms.flatMap itermEmissions).filterMap
      pointerOf).Nodup := by
  rw [← flatMap_assoc, filterMap_flatMap]
  apply nodup_flatMap_owner block.iterms_nodup
  · exact fun iterm _ => (iterm_shape_pointers iterm.ptr iterm.shapes 0).1
  · exact fun iterm _ pointer member =>
      ((iterm_shape_pointers iterm.ptr iterm.shapes 0).2 pointer member).1

lemma insts_pointers :
    ((block.insts.flatMap instEmissions).filterMap pointerOf).Nodup := by
  have single : ∀ inst : DbInst, (instEmissions inst).filterMap pointerOf = [] ∨
      (instEmissions inst).filterMap pointerOf = [(inst.ptr, .inst)] := by
    intro inst
    rw [instEmissions]
    cases inst.bbox with
    | none => exact Or.inl rfl
    | some _ => exact Or.inr rfl
  rw [filterMap_flatMap]
  apply nodup_flatMap_owner block.insts_nodup
  · intro inst _
    rcases single inst with none | one
    · rw [none]
      exact nodup_nil
    · rw [one]
      exact nodup_singleton _
  · intro inst _ pointer member
    rcases single inst with none | one
    · rw [none] at member
      cases member
    · rw [one] at member
      rw [mem_singleton.mp member]

lemma bterms_pointers :
    ((block.bterms.map btermEmission).filterMap pointerOf).Nodup := by
  have pins : pointerOf ∘ btermEmission = some ∘ fun bterm : DbBTerm => (bterm.ptr, .btermPin) := rfl
  rw [filterMap_map, pins, filterMap_eq_map]
  apply Nodup.of_map Prod.fst
  rw [map_map]
  exact block.bterms_nodup

def passOf : PointerKind → Nat
  | .inst => 0
  | .wire _ | .viaBottom _ | .viaCut _ => 1
  | .btermPin => 2
  | .itermPin _ => 3

lemma passOf_wire {kind : PointerKind} {index : Nat} (isIndex : wireIndex kind = some index) :
    passOf kind = 1 := by
  cases kind <;> first | rfl | cases isIndex

lemma passOf_pin {kind : PointerKind} {index : Nat} (isIndex : pinIndex kind = some index) :
    passOf kind = 3 := by
  cases kind <;> first | rfl | cases isIndex

/-- The pointers of an emission list are all from one pass. -/
def OnePass (pass : Nat) (emissions : List Emission) : Prop :=
  ∀ pointer ∈ emissions.filterMap pointerOf, passOf pointer.2 = pass

lemma onePass_insts : OnePass 0 (block.insts.flatMap instEmissions) := by
  intro pointer member
  rcases mem_filterMap.mp member with ⟨emission, emitted, isPointer⟩
  rcases mem_flatMap.mp emitted with ⟨inst, _, fromInst⟩
  rw [instEmissions] at fromInst
  cases there : inst.bbox with
  | none =>
    rw [there] at fromInst
    cases fromInst
  | some _ =>
    rw [there] at fromInst
    rw [mem_singleton.mp fromInst] at isPointer
    cases isPointer
    rfl

lemma onePass_nets : OnePass 1 (block.nets.flatMap (netEmissions db)) := by
  intro pointer member
  rcases mem_filterMap.mp member with ⟨emission, emitted, isPointer⟩
  rcases mem_flatMap.mp emitted with ⟨net, _, fromNet⟩
  rw [netEmissions] at fromNet
  cases there : net.wire with
  | none =>
    rw [there] at fromNet
    cases fromNet
  | some wire =>
    rw [there] at fromNet
    rcases (shape_pointers db wire.ptr wire.shapes 0).2 pointer
      (mem_filterMap.mpr ⟨emission, fromNet, isPointer⟩) with ⟨_, later, _, isIndex⟩
    exact passOf_wire isIndex

lemma onePass_bterms : OnePass 2 (block.bterms.map btermEmission) := by
  intro pointer member
  rcases mem_filterMap.mp member with ⟨emission, emitted, isPointer⟩
  rcases mem_map.mp emitted with ⟨bterm, _, rfl⟩
  cases isPointer
  rfl

lemma onePass_iterms :
    OnePass 3 (block.insts.flatMap fun inst => inst.iterms.flatMap itermEmissions) := by
  intro pointer member
  rcases mem_filterMap.mp member with ⟨emission, emitted, isPointer⟩
  rcases mem_flatMap.mp emitted with ⟨inst, _, fromInst⟩
  rcases mem_flatMap.mp fromInst with ⟨iterm, _, fromTerm⟩
  rcases (iterm_shape_pointers iterm.ptr iterm.shapes 0).2 pointer
    (mem_filterMap.mpr ⟨emission, fromTerm, isPointer⟩) with ⟨_, later, _, isIndex⟩
  exact passOf_pin isIndex

lemma nodup_of_passes {pass : Nat} {first second : List Emission}
    (nodup : (first.filterMap pointerOf).Nodup) (nodupRest : (second.filterMap pointerOf).Nodup)
    (onePass : OnePass pass first)
    (later : ∀ pointer ∈ second.filterMap pointerOf, pass < passOf pointer.2) :
    ((first ++ second).filterMap pointerOf).Nodup := by
  rw [filterMap_append, nodup_append]
  refine ⟨nodup, nodupRest, ?_⟩
  rintro pointer inFirst pointer' inSecond rfl
  have isPass := onePass pointer inFirst
  have isLater := later pointer inSecond
  omega

lemma counted_pointers :
    (block.blockages.flatMap blockageEmissions ++ (block.markerCategories.flatten.map markerEmission ++
      block.trackGrids.flatMap trackEmissions)).filterMap pointerOf = [] := by
  rw [filterMap_eq_nil_iff]
  intro emission member
  rcases mem_append.mp member with blockage | member
  · rcases mem_flatMap.mp blockage with ⟨bbox, _, emitted⟩
    cases bbox with
    | none => cases emitted
    | some _ =>
      rw [mem_singleton.mp emitted]
      rfl
  · rcases mem_append.mp member with marker | track
    · rcases mem_map.mp marker with ⟨_, _, rfl⟩
      rfl
    · rcases mem_flatMap.mp track with ⟨trackGrid, _, emitted⟩
      rw [trackEmissions] at emitted
      cases there : trackGrid.techLayer with
      | none =>
        rw [there] at emitted
        cases emitted
      | some _ =>
        rw [there] at emitted
        rw [mem_singleton.mp emitted]
        rfl

lemma block_pointers :
    ((blockEmissions db block).filterMap pointerOf).Nodup := by
  have pins : ((block.bterms.map btermEmission ++ (block.insts.flatMap fun inst =>
      inst.iterms.flatMap itermEmissions)).filterMap pointerOf).Nodup := by
    apply nodup_of_passes (bterms_pointers block) (iterms_pointers block) (onePass_bterms block)
    intro pointer member
    rw [onePass_iterms block pointer member]
    decide
  have pinPasses : ∀ pointer ∈ (block.bterms.map btermEmission ++ (block.insts.flatMap fun inst =>
      inst.iterms.flatMap itermEmissions)).filterMap pointerOf, 1 < passOf pointer.2 := by
    intro pointer member
    rw [filterMap_append] at member
    rcases mem_append.mp member with bterm | iterm
    · rw [onePass_bterms block pointer bterm]
      decide
    · rw [onePass_iterms block pointer iterm]
      decide
  rw [blockEmissions]
  apply nodup_of_passes (insts_pointers block) _ (onePass_insts block)
  · intro pointer member
    rw [filterMap_append, filterMap_append, counted_pointers, append_nil] at member
    rcases mem_append.mp member with net | pin
    · rw [onePass_nets db block pointer net]
      decide
    · exact Nat.zero_lt_of_lt (pinPasses pointer pin)
  · apply nodup_of_passes (wires_pointers db block) _ (onePass_nets db block)
    · rw [filterMap_append, counted_pointers, append_nil]
      exact pinPasses
    · rw [filterMap_append, counted_pointers, append_nil]
      exact pins

end Addresses

end OdbSceneBuilder

end OpenRoad.Viewer
