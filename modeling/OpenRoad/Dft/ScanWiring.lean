import OpenRoad.Lib.Visits
import OpenRoad.Dft.ScanReplace

/-! Which nets the pins of a new instance get, and what is left of them on the way back. -/

namespace OpenRoad.Dft

open OpenRoad.Lib List Option

variable {mapping : PortMapping}

lemma insertPort_nodup (nodup : (mapping.map Prod.fst).Nodup) (entry : String × String) :
    ((insertPort mapping entry).map Prod.fst).Nodup := by
  rw [insertPort]
  split
  · exact nodup
  · rename_i fresh
    rw [map_append, nodup_append]
    refine ⟨nodup, nodup_cons.mpr ⟨not_mem_nil, nodup_nil⟩, ?_⟩
    rintro name isOld _ isNew rfl
    rw [map_singleton, mem_singleton] at isNew
    subst isNew
    rcases mem_map.mp isOld with ⟨old, member, same⟩
    exact fresh (by rw [← same, (lookup_iff_mem _ nodup _ _).mpr member, isSome_some])

lemma insertPorts_nodup {ι : Type} (f : ι → String × String) (entries : List ι)
    (nodup : (mapping.map Prod.fst).Nodup) :
    ((entries.foldl (fun mapping entry => insertPort mapping (f entry)) mapping).map
      Prod.fst).Nodup := by
  induction entries generalizing mapping with
  | nil => exact nodup
  | cons entry entries ih => exact ih (insertPort_nodup nodup _)

lemma mem_insertPort {new entry : String × String} (member : entry ∈ insertPort mapping new) :
    entry ∈ mapping ∨ new = entry := by
  rw [insertPort] at member
  split at member
  · exact .inl member
  · rcases mem_append.mp member with old | last
    · exact .inl old
    · exact .inr (mem_singleton.mp last).symm

lemma mem_insertPorts {ι : Type} (f : ι → String × String) (entries : List ι)
    {entry : String × String}
    (member : entry ∈ entries.foldl (fun mapping entry => insertPort mapping (f entry)) mapping) :
    entry ∈ mapping ∨ ∃ i ∈ entries, f i = entry := by
  induction entries generalizing mapping with
  | nil => exact .inl member
  | cons i entries ih =>
    rcases ih member with earlier | ⟨j, later, same⟩
    · rcases mem_insertPort earlier with old | new
      · exact .inl old
      · exact .inr ⟨i, mem_cons_self, new⟩
    · exact .inr ⟨j, mem_cons_of_mem _ later, same⟩

lemma lookup_of_flipPorts (sta : Sta) (nodup : (mapping.map Prod.fst).Nodup)
    {port scanPort : String} (back : (flipPorts sta mapping).lookup scanPort = some port) :
    mapping.lookup port = some scanPort := by
  rcases mem_insertPorts _ _ (mem_of_lookup back) with none' | ⟨entry, member, same⟩
  · exact absurd none' not_mem_nil
  · have found := (lookup_iff_mem _ nodup _ _).mpr ((sta.hash_perm mapping).mem_iff.mp member)
    rw [← (Prod.mk.inj same).1, ← (Prod.mk.inj same).2, found]

lemma isScanEquivalent_nodup {sta : Sta} {nonScanCell scanCell : LibertyCell}
    (equivalent : sta.isScanEquivalent nonScanCell scanCell = some mapping) :
    (mapping.map Prod.fst).Nodup := by
  simp only [Sta.isScanEquivalent, bind_eq_bind, bind_eq_some_iff] at equivalent
  rcases equivalent with ⟨seen, _, pg, _, _, _, isMapping⟩
  rw [← some_injective _ isMapping]
  exact insertPorts_nodup _ _ nodup_nil

variable (portMapping : PortMapping)

def netFor : List (String × Option Nat) → String → Option Nat
  | [], _ => none
  | pin :: pins, port =>
    (netFor pins port).or (if portMapping.lookup pin.1 = some port then pin.2 else none)

variable {portMapping} {pins : List (String × Option Nat)} {port : String} {net : Nat}

lemma netFor_some (isNet : netFor portMapping pins port = some net) :
    ∃ pin ∈ pins, pin.2 = some net ∧ portMapping.lookup pin.1 = some port := by
  induction pins with
  | nil => exact absurd isNet (by simp [netFor])
  | cons pin pins ih =>
    rw [netFor, or_eq_some_iff] at isNet
    rcases isNet with later | ⟨_, first⟩
    · rcases ih later with ⟨other, member, same⟩
      exact ⟨other, mem_cons_of_mem _ member, same⟩
    · split at first
      · rename_i goes
        exact ⟨pin, mem_cons_self, first, goes⟩
      · exact absurd first (by simp)

lemma netFor_isSome {pin : String × Option Nat} (member : pin ∈ pins) (connected : pin.2.isSome)
    (goes : portMapping.lookup pin.1 = some port) : (netFor portMapping pins port).isSome := by
  induction pins with
  | nil => exact absurd member not_mem_nil
  | cons head pins ih =>
    rw [netFor, isSome_or, Bool.or_eq_true]
    rcases mem_cons.mp member with rfl | later
    · rw [if_pos goes]
      exact .inr connected
    · exact .inl (ih later)

lemma netFor_eq {pin : String × Option Nat} (member : pin ∈ pins)
    (goes : portMapping.lookup pin.1 = some port) (connected : pin.2.isSome)
    (only : ∀ other ∈ pins, other.2.isSome → portMapping.lookup other.1 = some port → other = pin) :
    netFor portMapping pins port = pin.2 := by
  rcases isSome_iff_exists.mp (netFor_isSome member connected goes) with ⟨net, isNet⟩
  rcases netFor_some isNet with ⟨other, isPin, isOther, same⟩
  rw [isNet, ← isOther, only other isPin (by rw [isOther, isSome_some]) same]

def Inst.wired (inst : Inst) (ports : List String) (nets : String → Option Nat) : Inst :=
  { inst with iterms := ports.map fun port => ⟨port, nets port, none⟩ }

variable {db : Db} {inst out : Inst} {ports : List String} {nets : String → Option Nat}

lemma find?_wired : (inst.wired ports nets).iterms.find? (fun iterm => iterm.name = port) =
    if port ∈ ports then some ⟨port, nets port, none⟩ else none := by
  rw [Inst.wired]
  dsimp only
  induction ports with
  | nil => rfl
  | cons first ports ih =>
    rw [map_cons, find?_cons]
    by_cases same : first = port
    · simp [same]
    · have other : port ≠ first := fun isFirst => same isFirst.symm
      simp only [same, decide_false, ih, mem_cons, other, false_or]

lemma connect_wired (touch : inst.isDoNotTouch = false) (mayTouch : db.netDoNotTouch net = false) :
    db.connect (inst.wired ports nets) port net =
      if port ∈ ports then some (inst.wired ports (Function.update nets port (some net)))
      else none := by
  rw [Db.connect, find?_wired]
  by_cases there : port ∈ ports
  · rw [if_pos there, if_pos there]
    dsimp only
    split
    · rename_i already
      rw [← already, Function.update_eq_self]
    · have notTouch : ¬ ((inst.wired ports nets).isDoNotTouch ∨ db.netDoNotTouch net) := by
        simp [Inst.wired, touch, mayTouch]
      rw [if_neg notTouch, Inst.wired, Inst.wired, List.map_map]
      congr 2
      apply map_congr_left
      intro other _
      by_cases same : other = port
      · simp [same]
      · simp [same]
  · rw [if_neg there, if_neg there]

def Reconnects (portMapping : PortMapping) (ports : List String)
    (pins : List (String × Option Nat)) : Prop :=
  ∀ pin ∈ pins, pin.2.isSome → ∃ port ∈ ports, portMapping.lookup pin.1 = some port

lemma connectPinsToNets_iff (touch : inst.isDoNotTouch = false)
    (mayTouch : ∀ pin ∈ pins, ∀ net, pin.2 = some net → db.netDoNotTouch net = false) :
    db.connectPinsToNets (inst.wired ports nets) pins portMapping = some out ↔
      Reconnects portMapping ports pins ∧
        out = inst.wired ports fun port => (netFor portMapping pins port).or (nets port) := by
  rw [Db.connectPinsToNets]
  induction pins generalizing nets with
  | nil =>
    simp only [foldlM_nil, Option.pure_def, Option.some.injEq, netFor, none_or]
    exact ⟨fun same => ⟨fun _ member => absurd member not_mem_nil, same.symm⟩,
      fun reached => reached.2.symm⟩
  | cons pin pins ih =>
    rcases forall_mem_cons.mp mayTouch with ⟨first, rest⟩
    rw [foldlM_cons, bind_eq_bind, Reconnects, forall_mem_cons, Db.connectPin]
    cases isNet : pin.2 with
    | none => simp [ih rest, netFor, isNet, Reconnects]
    | some net =>
      cases isPort : portMapping.lookup pin.1 with
      | none => simp
      | some port =>
        dsimp only
        rw [connect_wired touch (first net isNet)]
        by_cases there : port ∈ ports
        · rw [if_pos there, bind_some, ih rest]
          have same : (fun x => (netFor portMapping pins x).or
              (Function.update nets port (some net) x)) =
              fun x => (netFor portMapping (pin :: pins) x).or (nets x) := by
            funext x
            rw [netFor, isPort, isNet, Option.or_assoc]
            by_cases isX : x = port
            · simp [isX]
            · have notX : port ≠ x := fun same => isX same.symm
              simp [Function.update_of_ne isX, notX]
          rw [same]
          simp [Reconnects, there]
        · rw [if_neg there]
          simp [there]

end OpenRoad.Dft
