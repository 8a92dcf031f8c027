import Mathlib.Tactic

/-! Swapping the master of an instance (dbInst.cpp). A cached pointer to a master terminal is the
terminal it points at, and an instance header is kept under its master. Boxes and callbacks are
left out. -/

namespace OpenRoad.Odb.MasterSwap

open List Function Option

variable {Name : Type}

structure MTerm (Name : Type) where
  name : Name
  order_id : Nat
  deriving DecidableEq

/-- `setFrozen` numbers the terminals, and `dbMTerm::create` refuses a name that is taken. -/
structure Master (Name : Type) where
  lib : Nat
  frozen : Bool
  mterms : List (MTerm Name)
  numbered : frozen → mterms.map MTerm.order_id = List.range mterms.length
  distinct : (mterms.map MTerm.name).Nodup

structure InstHdr (Name : Type) where
  inst_cnt : Int
  mterms : List (MTerm Name)
  deriving DecidableEq

structure Inst where
  dont_touch : Bool
  hierarchy : Option Nat
  inst_hdr : Nat
  iterms : List Nat
  deriving DecidableEq

@[ext] structure ITerm (Name : Type) where
  mterm_idx : BitVec 20
  mterm : MTerm Name
  net : Option Nat
  mnet : Option Nat
  deriving DecidableEq

inductive Record where
  | swapObject (inst old_lib old_master new_lib new_master : Nat)
  deriving DecidableEq

structure Block (Name : Type) where
  insts : Nat → Inst
  iterms : Nat → ITerm Name
  hdrs : Nat → Option (InstHdr Name)
  journal : Option (List Record)

inductive Fault where
  | dontTouch
  | nullHeader
  deriving DecidableEq

def sortMTerm [LinearOrder Name] (terms : List (MTerm Name)) : List (MTerm Name) :=
  terms.insertionSort fun m1 m2 => m1.name ≤ m2.name

/-- The loop over both sorted lists; nothing when it breaks or one list is longer. -/
def matchTerms [DecidableEq Name] :
    List (MTerm Name) → List (MTerm Name) → List Nat → Option (List Nat)
  | t1 :: i1, t2 :: i2, idx_map =>
    if t1.name ≠ t2.name then none else matchTerms i1 i2 (idx_map.set t2.order_id t1.order_id)
  | [], [], idx_map => some idx_map
  | _, _, _ => none

namespace Block

variable (lib : Nat → Master Name) (s : Block Name) (i new : Nat)

abbrev getMaster : Master Name := lib (s.insts i).inst_hdr

def dropHdr (old : Nat) : Option (Block Name) :=
  (s.hdrs old).map fun hdr =>
    if hdr.inst_cnt - 1 = 0 then { s with hdrs := update s.hdrs old none }
    else { s with hdrs := update s.hdrs old (some { hdr with inst_cnt := hdr.inst_cnt - 1 }) }

/-- `dbInstHdr::create`, which needs a frozen master. -/
def findHdr : Option (InstHdr Name) :=
  match s.hdrs new with
  | some hdr => some hdr
  | none => if (lib new).frozen then some ⟨0, (lib new).mterms⟩ else none

/-- The terminals after the loop over those of the instance. -/
def reindexed (hdr : InstHdr Name) (idx_map : List Nat) (id : Nat) : ITerm Name :=
  let it := s.iterms id
  let new_idx := idx_map.getD it.mterm_idx.toNat 0
  if id ∈ (s.insts i).iterms then
    { it with mterm_idx := BitVec.ofNat 20 new_idx, mterm := hdr.mterms.getD new_idx it.mterm }
  else it

def sortITerm (iterms : Nat → ITerm Name) (ids : List Nat) : List Nat :=
  ids.insertionSort fun it1 it2 => (iterms it1).mterm_idx ≤ (iterms it2).mterm_idx

/-- The part of `swapMaster` after the last rejection. -/
def exchange (idx_map : List Nat) : Except Fault Bool × Block Name :=
  match s.dropHdr (s.insts i).inst_hdr with
  | none => (.error .nullHeader, s)
  | some dropped =>
    match dropped.findHdr lib new with
    | none => (.error .nullHeader, dropped)
    | some hdr =>
      let iterms := s.reindexed i hdr idx_map
      let inst := s.insts i
      (.ok true, { dropped with
        hdrs := update dropped.hdrs new (some { hdr with inst_cnt := hdr.inst_cnt + 1 })
        iterms := iterms
        insts := update s.insts i
          { inst with inst_hdr := new, iterms := sortITerm iterms inst.iterms } })

def journalled : Block Name :=
  let old := (s.insts i).inst_hdr
  { s with journal := s.journal.map (· ++ [.swapObject i (lib old).lib old (lib new).lib new]) }

def swapMaster [LinearOrder Name] : Except Fault Bool × Block Name :=
  let old_terms := (s.getMaster lib i).mterms
  let new_terms := (lib new).mterms
  if (s.insts i).dont_touch then (.error .dontTouch, s)
  else if (s.insts i).hierarchy.isSome then (.ok false, s)
  else if old_terms.length ≠ new_terms.length then (.ok false, s.journalled lib i new)
  else
    match matchTerms (sortMTerm new_terms) (sortMTerm old_terms)
        (List.replicate old_terms.length 0) with
    | none => (.ok false, s.journalled lib i new)
    | some idx_map => (s.journalled lib i new).exchange lib i new idx_map

end Block

section Terms

variable [DecidableEq Name]

lemma matchTerms_isSome (new old : List (MTerm Name)) (idx_map : List Nat) :
    (matchTerms new old idx_map).isSome ↔ new.map MTerm.name = old.map MTerm.name := by
  fun_induction matchTerms new old idx_map with
  | case1 t1 _ t2 _ _ differ => simp [differ]
  | case2 t1 _ t2 _ _ same ih => simp [not_not.mp same, ih]
  | case3 => simp
  | case4 new old _ both none =>
    rcases new with _ | ⟨t1, i1⟩ <;> rcases old with _ | ⟨t2, i2⟩
    · exact absurd rfl (none rfl)
    · simp
    · simp
    · exact absurd rfl (both _ _ _ _ rfl)

lemma matchTerms_maps {new old : List (MTerm Name)} {idx_map found : List Nat}
    (run : matchTerms new old idx_map = some found) (apart : (old.map MTerm.order_id).Nodup)
    (inside : ∀ t2 ∈ old, t2.order_id < idx_map.length) :
    (∀ t2 ∈ old, ∃ t1 ∈ new, t1.name = t2.name ∧ found[t2.order_id]? = some t1.order_id) ∧
      ∀ k ∉ old.map MTerm.order_id, found[k]? = idx_map[k]? := by
  fun_induction matchTerms new old idx_map with
  | case1 => cases run
  | case2 t1 new t2 old idx_map same ih =>
    rw [map_cons, nodup_cons] at apart
    have rest := ih run apart.2 fun t member => by
      rw [length_set]
      exact inside t (mem_cons_of_mem _ member)
    constructor
    · intro t member
      rcases mem_cons.mp member with rfl | later
      · refine ⟨t1, mem_cons_self, not_not.mp same, ?_⟩
        rw [rest.2 _ apart.1, getElem?_set_self (inside t member)]
      · rcases rest.1 t later with ⟨t1', isNew, facts⟩
        exact ⟨t1', mem_cons_of_mem _ isNew, facts⟩
    · intro k absent
      rw [map_cons, mem_cons, not_or] at absent
      rw [rest.2 k absent.2, getElem?_set_ne (Ne.symm absent.1)]
  | case3 =>
    cases run
    exact ⟨fun t2 member => (not_mem_nil member).elim, fun _ _ => rfl⟩
  | case4 => cases run

end Terms

namespace Master

variable {m : Master Name} {t t' : MTerm Name}

lemma mterm_at (frozen : m.frozen) (member : t ∈ m.mterms) :
    m.mterms[t.order_id]? = some t := by
  rcases getElem_of_mem member with ⟨k, bound, rfl⟩
  have here := congrArg (·[k]?) (m.numbered frozen)
  simp only [getElem?_map, getElem?_eq_getElem bound, map_some,
    getElem?_range bound] at here
  rw [Option.some.inj here, getElem?_eq_getElem bound]

lemma order_lt (frozen : m.frozen) (member : t ∈ m.mterms) : t.order_id < m.mterms.length :=
  (List.getElem?_eq_some_iff.mp (mterm_at frozen member)).1

lemma eq_of_name (member : t ∈ m.mterms) (member' : t' ∈ m.mterms)
    (same : t.name = t'.name) : t = t' :=
  inj_on_of_nodup_map m.distinct member member' same

end Master

def Renames (old new : Master Name) (idx_map : List Nat) : Prop :=
  ∀ t2 ∈ old.mterms, ∃ t1 ∈ new.mterms,
    t1.name = t2.name ∧ idx_map.getD t2.order_id 0 = t1.order_id

lemma insertionSort_eq_iff {α : Type} [LinearOrder α] {a b : List α} :
    a.insertionSort (· ≤ ·) = b.insertionSort (· ≤ ·) ↔ a.Perm b := by
  constructor
  · intro same
    have perm := perm_insertionSort (· ≤ ·) a
    rw [same] at perm
    exact perm.symm.trans (perm_insertionSort (· ≤ ·) b)
  · intro perm
    have sorted := (perm_insertionSort (· ≤ ·) a).trans
      (perm.trans (perm_insertionSort (· ≤ ·) b).symm)
    exact sorted.eq_of_sortedLE sortedLE_insertionSort sortedLE_insertionSort

namespace Block

def count (s : Block Name) (m : Nat) : Int := ((s.hdrs m).map InstHdr.inst_cnt).getD 0

def Headed (lib : Nat → Master Name) (s : Block Name) : Prop :=
  ∀ m hdr, s.hdrs m = some hdr → (lib m).frozen ∧ hdr.mterms = (lib m).mterms

/-- The i-th terminal of the instance refers to the i-th terminal of its master. -/
structure Sound (lib : Nat → Master Name) (s : Block Name) (i : Nat) : Prop where
  hdrs : s.Headed lib
  header : (s.hdrs (s.insts i).inst_hdr).isSome
  indices : (s.insts i).iterms.map (fun id => (s.iterms id).mterm_idx.toNat) =
    List.range (s.getMaster lib i).mterms.length
  refers : (s.insts i).iterms.map (fun id => (s.iterms id).mterm) =
    (s.getMaster lib i).mterms

/-- `s'` is `s` with the instance on the master `new`. -/
structure Swapped (lib : Nat → Master Name) (s s' : Block Name) (i new : Nat) : Prop where
  sound : Sound lib s' i
  inst : s'.insts = update s.insts i
    { s.insts i with inst_hdr := new, iterms := (s'.insts i).iterms }
  iterms : (s'.insts i).iterms.Perm (s.insts i).iterms
  nets : ∀ id, (s'.iterms id).net = (s.iterms id).net ∧ (s'.iterms id).mnet = (s.iterms id).mnet
  pins : ∀ id ∈ (s.insts i).iterms, (s'.iterms id).mterm.name = (s.iterms id).mterm.name
  others : ∀ id ∉ (s.insts i).iterms, s'.iterms id = s.iterms id
  counts : ∀ m, s'.count m = s.count m - (if m = (s.insts i).inst_hdr then 1 else 0) +
    if m = new then 1 else 0

variable {lib : Nat → Master Name} {s s' s'' dropped : Block Name} {i new : Nat}

lemma dropHdr_spec {old : Nat} (run : s.dropHdr old = some dropped) :
    (∀ m hdr, dropped.hdrs m = some hdr → ∃ was, s.hdrs m = some was ∧ hdr.mterms = was.mterms) ∧
      ∀ m, dropped.count m = s.count m - if m = old then 1 else 0 := by
  rcases map_eq_some_iff.mp run with ⟨hdr, found, rfl⟩
  split
  · rename_i last
    refine ⟨fun m was there => ?_, fun m => ?_⟩ <;> by_cases at_old : m = old
    · simp [at_old] at there
    · exact ⟨was, by simpa [at_old] using there, rfl⟩
    · simp [count, at_old, found, last]
    · simp [count, at_old]
  · refine ⟨fun m was there => ?_, fun m => ?_⟩ <;> by_cases at_old : m = old
    · simp only [at_old, update_self, Option.some.injEq] at there
      exact ⟨hdr, by rw [at_old, found], there ▸ rfl⟩
    · exact ⟨was, by simpa [at_old] using there, rfl⟩
    · simp [count, at_old, found]
    · simp [count, at_old]

lemma findHdr_spec (frozen : (lib new).frozen)
    (hdrs : s.Headed lib) :
    ∃ hdr, s.findHdr lib new = some hdr ∧ hdr.mterms = (lib new).mterms ∧
      hdr.inst_cnt = s.count new := by
  unfold findHdr
  cases found : s.hdrs new with
  | none => exact ⟨_, if_pos frozen, rfl, by simp [count, found]⟩
  | some hdr => exact ⟨hdr, rfl, (hdrs new hdr found).2, by simp [count, found]⟩

namespace Sound

variable (sound : Sound lib s i)
include sound

lemma old_frozen : (s.getMaster lib i).frozen := by
  rcases isSome_iff_exists.mp sound.header with ⟨hdr, found⟩
  exact (sound.hdrs _ hdr found).1

lemma mterm_mem {id : Nat} (member : id ∈ (s.insts i).iterms) :
    (s.iterms id).mterm ∈ (s.getMaster lib i).mterms := by
  rw [← sound.refers]
  exact mem_map_of_mem member

lemma idx_eq {id : Nat} (member : id ∈ (s.insts i).iterms) :
    (s.iterms id).mterm_idx.toNat = (s.iterms id).mterm.order_id := by
  have numbered := (s.getMaster lib i).numbered sound.old_frozen
  rw [← sound.indices, ← sound.refers, List.map_map] at numbered
  exact (map_inj_left.mp numbered id member).symm

lemma sorted : (s.insts i).iterms.Pairwise fun a b =>
    (s.iterms a).mterm_idx.toNat < (s.iterms b).mterm_idx.toNat := by
  rw [← pairwise_map, sound.indices]
  exact pairwise_lt_range

lemma small : (s.getMaster lib i).mterms.length ≤ 2 ^ 20 := by
  by_contra large
  have member := mem_range.mpr (not_le.mp large)
  rw [← sound.indices] at member
  rcases mem_map.mp member with ⟨id, -, reaches⟩
  exact (s.iterms id).mterm_idx.isLt.ne reaches

lemma reindexed_spec (frozen : (lib new).frozen) {idx_map : List Nat}
    (sizes : (s.getMaster lib i).mterms.length = (lib new).mterms.length)
    (maps : Renames (s.getMaster lib i) (lib new) idx_map) {hdr : InstHdr Name}
    (terms : hdr.mterms = (lib new).mterms) {id : Nat} (member : id ∈ (s.insts i).iterms) :
    (s.reindexed i hdr idx_map id).mterm ∈ (lib new).mterms ∧
      (s.reindexed i hdr idx_map id).mterm.name = (s.iterms id).mterm.name ∧
      (s.reindexed i hdr idx_map id).mterm_idx.toNat =
        (s.reindexed i hdr idx_map id).mterm.order_id := by
  rcases maps _ (sound.mterm_mem member) with ⟨t1, isNew, sameName, target⟩
  have bound := sound.small
  have number := Master.order_lt frozen isNew
  simp only [reindexed, member, if_true, sound.idx_eq member, target, terms,
    getD_eq_getElem?_getD, Master.mterm_at frozen isNew, getD_some, isNew, sameName,
    true_and, BitVec.toNat_ofNat]
  exact Nat.mod_eq_of_lt (by omega)

end Sound

lemma sortITerm_perm (iterms : Nat → ITerm Name) (ids : List Nat) :
    (sortITerm iterms ids).Perm ids := perm_insertionSort _ _

lemma sortITerm_spec {m : Master Name} (frozen : m.frozen) {iterms : Nat → ITerm Name}
    {ids : List Nat} (targets : (ids.map fun id => (iterms id).mterm).Perm m.mterms)
    (idx : ∀ id ∈ ids, (iterms id).mterm_idx.toNat = (iterms id).mterm.order_id) :
    (sortITerm iterms ids).map (fun id => (iterms id).mterm_idx.toNat) =
        range m.mterms.length ∧
      (sortITerm iterms ids).map (fun id => (iterms id).mterm) = m.mterms := by
  have indices : (sortITerm iterms ids).map (fun id => (iterms id).mterm_idx.toNat) =
      range m.mterms.length := by
    have perm : (ids.map fun id => (iterms id).mterm.order_id).Perm
        (range m.mterms.length) := by
      have order := targets.map MTerm.order_id
      rwa [List.map_map, m.numbered frozen] at order
    have sorted : (sortITerm iterms ids).map (fun id => (iterms id).mterm_idx.toNat) =
        (ids.map fun id => (iterms id).mterm_idx.toNat).insertionSort (· ≤ ·) :=
      map_insertionSort _ _ _ ids fun _ _ _ _ => BitVec.le_def
    rw [sorted, map_congr_left idx, insertionSort_eq_iff.mpr perm]
    exact (pairwise_lt_range.imp le_of_lt).insertionSort_eq
  refine ⟨indices, map_injective_iff.mpr (some_injective _) ?_⟩
  calc (List.map (fun id => (iterms id).mterm) (sortITerm iterms ids)).map some
      = (sortITerm iterms ids).map (fun id => m.mterms[(iterms id).mterm_idx.toNat]?) := by
        rw [List.map_map]
        refine map_congr_left fun id member => ?_
        have isId := (sortITerm_perm iterms ids).mem_iff.mp member
        rw [idx id isId, Master.mterm_at frozen (targets.mem_iff.mp (mem_map_of_mem isId))]
        rfl
    _ = (range m.mterms.length).map (m.mterms[·]?) := by
        rw [← indices, List.map_map]
        rfl
    _ = m.mterms.map some := ext_getElem (by simp) fun k _ _ => by simp

lemma exchange_spec (sound : Sound lib s i) (frozen : (lib new).frozen) {idx_map : List Nat}
    (sizes : (s.getMaster lib i).mterms.length = (lib new).mterms.length)
    (maps : Renames (s.getMaster lib i) (lib new) idx_map) :
    ∃ s', s.exchange lib i new idx_map = (.ok true, s') ∧ Swapped lib s s' i new := by
  rcases isSome_iff_exists.mp sound.header with ⟨was, found⟩
  rcases isSome_iff_exists.mp (by rw [dropHdr, found]; rfl :
    (s.dropHdr (s.insts i).inst_hdr).isSome) with ⟨dropped, drop⟩
  have afterDrop := dropHdr_spec drop
  have hdrs : dropped.Headed lib := by
    intro m hdr there
    rcases afterDrop.1 m hdr there with ⟨was, present, same⟩
    rw [same]
    exact sound.hdrs m was present
  rcases findHdr_spec frozen hdrs with ⟨hdr, isHdr, terms, cnt⟩
  have moved := fun id (member : id ∈ (s.insts i).iterms) =>
    sound.reindexed_spec frozen sizes maps terms member
  have targets : ((s.insts i).iterms.map fun id =>
      (s.reindexed i hdr idx_map id).mterm).Perm (lib new).mterms := by
    have names := (s.getMaster lib i).distinct
    rw [← sound.refers, List.map_map] at names
    have nodup : ((s.insts i).iterms.map fun id => (s.reindexed i hdr idx_map id).mterm).Nodup := by
      apply Nodup.of_map MTerm.name
      rw [List.map_map]
      exact (map_congr_left fun id member => (moved id member).2.1) ▸ names
    refine (nodup.subperm fun t member => ?_).perm_of_length_le ?_
    · rcases mem_map.mp member with ⟨id, isId, rfl⟩
      exact (moved id isId).1
    · rw [length_map, ← sizes, ← sound.refers, length_map]
  have sorted := sortITerm_spec frozen targets fun id member => (moved id member).2.2
  refine ⟨_, by simp only [exchange, drop, isHdr]; rfl, ?_⟩
  exact
    { sound :=
        { hdrs := fun m hdr' there => by
            by_cases isNew : m = new
            · simp only [isNew, update_self, Option.some.injEq] at there
              exact ⟨isNew ▸ frozen, there ▸ isNew ▸ terms⟩
            · exact hdrs m hdr' (by simpa [isNew] using there)
          header := by simp
          indices := by simpa [getMaster] using sorted.1
          refers := by simpa [getMaster] using sorted.2 }
      inst := by simp
      iterms := by simpa using sortITerm_perm _ _
      nets := fun id => by
        simp only [reindexed]
        split <;> exact ⟨rfl, rfl⟩
      pins := fun id member => (moved id member).2.1
      others := fun id absent => if_neg absent
      counts := fun m => by
        by_cases isNew : m = new
        · rw [if_pos isNew, isNew, ← afterDrop.2, ← cnt]
          simp [count]
        · rw [if_neg isNew, ← afterDrop.2]
          simp [count, isNew] }

lemma exchange_ne_false (idx_map : List Nat) :
    (s.exchange lib i new idx_map).1 ≠ .ok false := by
  unfold exchange
  split
  · simp
  · split <;> simp

lemma swapped_back (sound : Sound lib s i) (there : Swapped lib s s' i new)
    (back : Swapped lib s' s'' i (s.insts i).inst_hdr) :
    s''.iterms = s.iterms ∧ s''.insts = s.insts ∧ ∀ m, s''.count m = s.count m := by
  have newHdr : (s'.insts i).inst_hdr = new := by rw [there.inst, update_self]
  have oldHdr : (s''.insts i).inst_hdr = (s.insts i).inst_hdr := by
    rw [back.inst, update_self]
  have perm := back.iterms.trans there.iterms
  have iterms : s''.iterms = s.iterms := by
    funext id
    by_cases member : id ∈ (s.insts i).iterms
    · have member' := there.iterms.mem_iff.mpr member
      have isOld := back.sound.mterm_mem (perm.mem_iff.mpr member)
      rw [getMaster, oldHdr] at isOld
      have mterm := Master.eq_of_name isOld (sound.mterm_mem member)
        ((back.pins id member').trans (there.pins id member))
      refine ITerm.ext (BitVec.eq_of_toNat_eq ?_) mterm ((back.nets id).1.trans (there.nets id).1)
        ((back.nets id).2.trans (there.nets id).2)
      rw [back.sound.idx_eq (perm.mem_iff.mpr member), mterm, sound.idx_eq member]
    · rw [back.others id fun member' => member (there.iterms.mem_iff.mp member'),
        there.others id member]
  have sorted := back.sound.sorted
  rw [iterms] at sorted
  have list : (s''.insts i).iterms = (s.insts i).iterms :=
    perm.eq_of_pairwise (fun a b _ _ less more => absurd less more.asymm) sorted sound.sorted
  refine ⟨iterms, ?_, fun m => ?_⟩
  · rw [back.inst, list, there.inst]
    simp
  · rw [back.counts, there.counts, newHdr]
    ring

end Block

section Order

variable [LinearOrder Name]

lemma match_iff_perm (new old : List (MTerm Name)) (idx_map : List Nat) :
    (matchTerms (sortMTerm new) (sortMTerm old) idx_map).isSome ↔
      (new.map MTerm.name).Perm (old.map MTerm.name) := by
  have names : ∀ terms : List (MTerm Name), (sortMTerm terms).map MTerm.name =
      (terms.map MTerm.name).insertionSort (· ≤ ·) := fun terms =>
    map_insertionSort _ _ MTerm.name terms fun _ _ _ _ => Iff.rfl
  rw [matchTerms_isSome, names, names, insertionSort_eq_iff]

lemma sorted_renames {new old : Master Name} {found : List Nat} (frozen : old.frozen)
    (run : matchTerms (sortMTerm new.mterms) (sortMTerm old.mterms)
      (replicate old.mterms.length 0) = some found) : Renames old new found := by
  intro t2 member
  have perm : (sortMTerm old.mterms).Perm old.mterms := perm_insertionSort _ _
  have apart : ((sortMTerm old.mterms).map MTerm.order_id).Nodup := by
    rw [(perm.map _).nodup_iff, old.numbered frozen]
    exact nodup_range
  have maps := (matchTerms_maps run apart fun t isOld => by
    rw [length_replicate]
    exact Master.order_lt frozen (perm.mem_iff.mp isOld)).1 t2 (perm.mem_iff.mpr member)
  rcases maps with ⟨t1, isNew, sameName, here⟩
  refine ⟨t1, (perm_insertionSort _ _).mem_iff.mp isNew, sameName, ?_⟩
  rw [getD_eq_getElem?_getD, here, getD_some]

namespace Block

variable {lib : Nat → Master Name} {s : Block Name} {i new : Nat}

lemma swapMaster_swaps (sound : Sound lib s i) (touchable : (s.insts i).dont_touch = false)
    (flat : (s.insts i).hierarchy = none) (frozen : (lib new).frozen)
    (names : ((lib new).mterms.map MTerm.name).Perm
      ((s.getMaster lib i).mterms.map MTerm.name)) :
    ∃ s', s.swapMaster lib i new = (.ok true, s') ∧ Swapped lib s s' i new := by
  have sizes := names.length_eq
  simp only [length_map] at sizes
  rcases isSome_iff_exists.mp ((match_iff_perm _ _
    (replicate (s.getMaster lib i).mterms.length 0)).mpr names) with ⟨idx_map, run⟩
  have journalled : Sound lib (s.journalled lib i new) i :=
    ⟨sound.hdrs, sound.header, sound.indices, sound.refers⟩
  rcases exchange_spec journalled frozen sizes.symm (sorted_renames sound.old_frozen run)
    with ⟨s', exchanged, swapped⟩
  refine ⟨s', ?_, ⟨swapped.sound, swapped.inst, swapped.iterms, swapped.nets, swapped.pins,
    swapped.others, swapped.counts⟩⟩
  rw [swapMaster]
  simp only [touchable, flat, sizes, run, exchanged]
  simp

/-- Swapping to a master of the same terminal names keeps pins and nets, and back restores all. -/
theorem swap_keeps_connectivity (sound : Sound lib s i) (touchable : (s.insts i).dont_touch = false)
    (flat : (s.insts i).hierarchy = none) (frozen : (lib new).frozen)
    (names : ∀ name, name ∈ (lib new).mterms.map MTerm.name ↔
      name ∈ (s.getMaster lib i).mterms.map MTerm.name) :
    ∃ s', s.swapMaster lib i new = (.ok true, s') ∧ Swapped lib s s' i new ∧
      ∃ s'', s'.swapMaster lib i (s.insts i).inst_hdr = (.ok true, s'') ∧
        s''.iterms = s.iterms ∧ s''.insts = s.insts ∧ ∀ m, s''.count m = s.count m := by
  have perm := (perm_ext_iff_of_nodup (lib new).distinct
    (s.getMaster lib i).distinct).mpr names
  rcases swapMaster_swaps sound touchable flat frozen perm with ⟨s', run, there⟩
  have inst : s'.insts i =
      { s.insts i with inst_hdr := new, iterms := (s'.insts i).iterms } := by rw [there.inst, update_self]
  rcases swapMaster_swaps there.sound (by rw [inst]; exact touchable) (by rw [inst]; exact flat)
    sound.old_frozen (by rw [getMaster, inst]; exact perm.symm) with ⟨s'', run', back⟩
  exact ⟨s', run, there, s'', run', swapped_back sound there back⟩

/-- A rejected swap leaves the block and its journal as they were, unless its terminals are
rejected while a journal is open. -/
theorem rejected_swap_iff (lib : Nat → Master Name) (s : Block Name) (i new : Nat) :
    ((s.swapMaster lib i new).1 = .ok false → (s.swapMaster lib i new).2 = s) ↔
      (s.journal = none ∨ (s.insts i).dont_touch ∨ (s.insts i).hierarchy.isSome ∨
        ((lib new).mterms.map MTerm.name).Perm
          ((s.getMaster lib i).mterms.map MTerm.name)) := by
  by_cases locked : (s.insts i).dont_touch = true
  · simp [swapMaster, locked]
  by_cases hierarchical : (s.insts i).hierarchy.isSome = true
  · simp [swapMaster, locked, hierarchical]
  simp only [locked, hierarchical, false_or, Bool.false_eq_true]
  by_cases names : ((lib new).mterms.map MTerm.name).Perm
      ((s.getMaster lib i).mterms.map MTerm.name)
  · refine iff_of_true (fun rejected => absurd rejected ?_) (.inr names)
    have sizes := names.length_eq
    simp only [length_map] at sizes
    rcases Option.isSome_iff_exists.mp ((match_iff_perm _ _
      (List.replicate (s.getMaster lib i).mterms.length 0)).mpr names) with ⟨idx_map, run⟩
    simp only [swapMaster, locked, hierarchical, sizes, run, Bool.false_eq_true, if_false, ne_eq,
      not_true]
    exact exchange_ne_false idx_map
  · have rejected : s.swapMaster lib i new = (.ok false, s.journalled lib i new) := by
      have unmatched := mt (match_iff_perm _ _
        (List.replicate (s.getMaster lib i).mterms.length 0)).mp names
      rw [Option.not_isSome_iff_eq_none] at unmatched
      simp only [swapMaster, locked, hierarchical, unmatched]
      exact ite_self _
    rw [rejected]
    simp only [true_implies, names, or_false]
    cases entries : s.journal with
    | none =>
      refine iff_of_true ?_ rfl
      rcases s with ⟨insts, iterms, hdrs, journal⟩
      cases entries
      rfl
    | some log =>
      refine iff_of_false (fun same => ?_) (by simp)
      have grown := congrArg journal same
      simp [journalled, entries] at grown

end Block

end Order

section Sample

def sampleLib : Nat → Master Nat
  | 0 => ⟨0, true, [⟨0, 0⟩, ⟨1, 1⟩], fun _ => rfl, by decide⟩
  | 1 => ⟨0, true, [⟨1, 0⟩, ⟨0, 1⟩], fun _ => rfl, by decide⟩
  | _ => ⟨0, true, [⟨0, 0⟩], fun _ => rfl, by decide⟩

def sampleBlock (dont_touch : Bool) (hierarchy : Option Nat) : Block Nat where
  insts _ := ⟨dont_touch, hierarchy, 0, [0, 1]⟩
  iterms id := ⟨BitVec.ofNat 20 id, ⟨id, id⟩, some id, none⟩
  hdrs m := if m = 0 then some ⟨1, (sampleLib 0).mterms⟩ else none
  journal := some []

lemma sampleBlock_sound (dont_touch : Bool) (hierarchy : Option Nat) :
    Block.Sound sampleLib (sampleBlock dont_touch hierarchy) 0 where
  hdrs m hdr there := by
    by_cases first : m = 0
    · subst first
      exact ⟨rfl, congrArg InstHdr.mterms (Option.some.inj there).symm⟩
    · simp [sampleBlock, first] at there
  header := rfl
  indices := rfl
  refers := rfl

theorem swap_keeps_connectivity_sample : ∃ s',
    (sampleBlock false none).swapMaster sampleLib 0 1 = (.ok true, s') ∧
      Block.Swapped sampleLib (sampleBlock false none) s' 0 1 ∧
      ∃ s'', s'.swapMaster sampleLib 0 0 = (.ok true, s'') ∧
        s''.iterms = (sampleBlock false none).iterms ∧
        s''.insts = (sampleBlock false none).insts ∧
        ∀ m, s''.count m = (sampleBlock false none).count m :=
  Block.swap_keeps_connectivity (sampleBlock_sound false none) rfl rfl rfl fun name => by
    simp [Block.getMaster, sampleLib, sampleBlock, or_comm]

/-- A swap of an instance that is dont_touch or hierarchical does not succeed. -/
theorem swap_refused :
    ((sampleBlock true none).swapMaster sampleLib 0 1).1 = .error .dontTouch ∧
      ((sampleBlock false (some 1)).swapMaster sampleLib 0 1).1 = .ok false :=
  ⟨rfl, rfl⟩

/-- A swap rejected for its terminals stays in the journal. -/
theorem rejected_swap_recorded :
    ((sampleBlock false none).swapMaster sampleLib 0 2).1 = .ok false ∧
      ((sampleBlock false none).swapMaster sampleLib 0 2).2.journal =
        some [.swapObject 0 0 0 0 2] := ⟨rfl, rfl⟩

end Sample

end OpenRoad.Odb.MasterSwap
