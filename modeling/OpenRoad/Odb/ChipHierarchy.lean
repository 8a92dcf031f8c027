import OpenRoad.Lib.Digraph
import OpenRoad.Odb.UnfoldedModel

/-! Which chips contain which: the hierarchy behind a database, and when unfolding it ends. -/

namespace OpenRoad.Odb

open OpenRoad.Lib Function Store

structure Hierarchy where
  chips : Store (List Nat)
  insts : Store (Nat × Nat)

namespace Hierarchy

/-- Chip `a` contains an instance of chip `b`. -/
def Contains (h : Hierarchy) (a b : Nat) : Prop :=
  ∃ list, h.chips.objs a = some list ∧ ∃ id ∈ list, ∃ parent, h.insts.objs id = some (parent, b)

/-- The lists of the chips and the instances agree. -/
structure Listed (chips : Nat → Option (List Nat)) (insts : Nat → Option (Nat × Nat)) : Prop where
  nodup : ∀ a list, chips a = some list → list.Nodup
  listed : ∀ a list id, chips a = some list → id ∈ list → ∃ b, insts id = some (a, b)
  member : ∀ id a b, insts id = some (a, b) → ∃ list, chips a = some list ∧ id ∈ list

structure Linked (h : Hierarchy) : Prop extends Listed h.chips.objs h.insts.objs where
  chips_wf : h.chips.WellFormed kChipPage
  insts_wf : h.insts.WellFormed kTablePage

def addInst (h : Hierarchy) (parent id : Nat) (list : List Nat) (insts : Store (Nat × Nat)) :
    Hierarchy :=
  ⟨h.chips.write parent (id :: list), insts⟩

def removeInst (h : Hierarchy) (parent id : Nat) (list : List Nat) (insts : Store (Nat × Nat)) :
    Hierarchy :=
  ⟨h.chips.write parent (list.erase id), insts⟩

/-- What the calls do to the hierarchy. A new instance does not close a cycle. -/
inductive Step : Hierarchy → Hierarchy → Prop where
  | addChip {h id chips} (created : h.chips.create kChipPage [] = some (id, chips)) :
      Step h ⟨chips, h.insts⟩
  | removeChip {h id chips} (empty : h.chips.objs id = some [])
      (destroyed : h.chips.destroy id = some chips) : Step h ⟨chips, h.insts⟩
  | addInst {h parent master id list insts} (different : parent ≠ master)
      (apart : ¬ Relation.TransGen h.Contains master parent)
      (there : h.chips.objs parent = some list)
      (created : h.insts.create kTablePage (parent, master) = some (id, insts)) :
      Step h (h.addInst parent id list insts)
  | removeInst {h parent master id list insts} (live : h.insts.objs id = some (parent, master))
      (there : h.chips.objs parent = some list)
      (destroyed : h.insts.destroy id = some insts) : Step h (h.removeInst parent id list insts)

variable {h h' : Hierarchy}

lemma contains_iff (linked : Linked h) (a b : Nat) :
    h.Contains a b ↔ ∃ id, h.insts.objs id = some (a, b) := by
  constructor
  · rintro ⟨list, there, id, member, parent, live⟩
    rcases linked.listed a list id there member with ⟨master, same⟩
    rw [live] at same
    rcases same
    exact ⟨id, live⟩
  · rintro ⟨id, live⟩
    rcases linked.member id a b live with ⟨list, there, member⟩
    exact ⟨list, there, id, member, a, live⟩

lemma linked_empty : Linked ⟨Store.empty, Store.empty⟩ where
  nodup := fun _ _ there => nomatch there
  listed := fun _ _ _ there => nomatch there
  member := fun _ _ _ live => nomatch live
  chips_wf := wellFormed_empty _
  insts_wf := wellFormed_empty _

section Lists

variable {chips : Nat → Option (List Nat)} {insts : Nat → Option (Nat × Nat)} {id a b : Nat}
  {list : List Nat}

section

variable (listed : Listed chips insts)
include listed

lemma listed_addChip (fresh : chips id = none) :
    Listed (update chips id (some [])) insts := by
  rcases listed with ⟨nodup, listed, member⟩
  constructor <;> grind [update_apply]

lemma listed_removeChip (empty : chips id = some []) :
    Listed (update chips id none) insts := by
  rcases listed with ⟨nodup, listed, member⟩
  constructor <;> grind [update_apply]

lemma listed_addInst (fresh : insts id = none) (there : chips a = some list) :
    Listed (update chips a (some (id :: list)))
      (update insts id (some (a, b))) := by
  rcases listed with ⟨nodup, listed, member⟩
  have unlisted : ∀ a list, chips a = some list → id ∉ list := by
    intro a list there inside
    rcases listed a list id there inside with ⟨b, live⟩
    rw [fresh] at live
    cases live
  refine ⟨?_, ?_, ?_⟩
  · intro other others thereOther
    by_cases same : other = a
    · rw [same, update_self] at thereOther
      rw [← Option.some.inj thereOther]
      exact List.nodup_cons.mpr ⟨unlisted a list there, nodup a list there⟩
    · rw [update_of_ne same] at thereOther
      exact nodup other others thereOther
  · intro other others inst thereOther inside
    have old : ∀ others, chips other = some others → inst ∈ others →
        ∃ b', update insts id (some (a, b)) inst = some (other, b') := by
      intro others thereOther inside
      rw [update_of_ne (fun same => unlisted other others thereOther (by rw [← same]; exact inside))]
      exact listed other others inst thereOther inside
    by_cases same : other = a
    · rw [same, update_self] at thereOther
      rw [← Option.some.inj thereOther] at inside
      rcases List.mem_cons.mp inside with first | inside
      · rw [first, same, update_self]
        exact ⟨b, rfl⟩
      · exact old list (same ▸ there) inside
    · rw [update_of_ne same] at thereOther
      exact old others thereOther inside
  · intro inst other b' live
    by_cases first : inst = id
    · rw [first, update_self] at live
      rcases Option.some.inj live
      exact ⟨id :: list, update_self _ _ _, first ▸ List.mem_cons_self⟩
    · rw [update_of_ne first] at live
      rcases member inst other b' live with ⟨others, thereOther, inside⟩
      by_cases same : other = a
      · rw [same] at thereOther ⊢
        rw [there] at thereOther
        rw [← Option.some.inj thereOther] at inside
        exact ⟨id :: list, update_self _ _ _, List.mem_cons_of_mem id inside⟩
      · exact ⟨others, by rw [update_of_ne same]; exact thereOther, inside⟩

lemma listed_removeInst (live : insts id = some (a, b)) (there : chips a = some list) :
    Listed (update chips a (some (list.erase id))) (update insts id none) := by
  rcases listed with ⟨nodup, listed, member⟩
  refine ⟨?_, ?_, ?_⟩
  · intro other others thereOther
    by_cases same : other = a
    · rw [same, update_self] at thereOther
      rw [← Option.some.inj thereOther]
      exact (nodup a list there).erase id
    · rw [update_of_ne same] at thereOther
      exact nodup other others thereOther
  · intro other others inst thereOther inside
    by_cases same : other = a
    · rw [same, update_self] at thereOther
      rw [← Option.some.inj thereOther, (nodup a list there).mem_erase_iff] at inside
      rw [update_of_ne inside.1, same]
      exact listed a list inst there inside.2
    · rw [update_of_ne same] at thereOther
      rcases listed other others inst thereOther inside with ⟨b', liveInst⟩
      have apart : inst ≠ id := by
        rintro rfl
        rw [live] at liveInst
        exact same (congrArg Prod.fst (Option.some.inj liveInst)).symm
      rw [update_of_ne apart]
      exact ⟨b', liveInst⟩
  · intro inst other b' liveInst
    have apart : inst ≠ id := by
      rintro rfl
      rw [update_self] at liveInst
      cases liveInst
    rw [update_of_ne apart] at liveInst
    rcases member inst other b' liveInst with ⟨others, thereOther, inside⟩
    by_cases same : other = a
    · rw [same] at thereOther ⊢
      rw [there] at thereOther
      rw [← Option.some.inj thereOther] at inside
      exact ⟨list.erase id, update_self _ _ _,
        (nodup a list there).mem_erase_iff.mpr ⟨apart, inside⟩⟩
    · exact ⟨others, by rw [update_of_ne same]; exact thereOther, inside⟩

end

end Lists

lemma step_linked (linked : Linked h) (step : Step h h') : Linked h' := by
  cases step with
  | addChip created =>
    have wf := create_wellFormed linked.chips_wf created
    have fresh := (create_fresh linked.chips_wf created).2.2
    refine ⟨?_, wf, linked.insts_wf⟩
    rw [create_objs created]
    exact listed_addChip linked.toListed fresh
  | removeChip empty destroyed =>
    refine ⟨?_, destroy_wellFormed linked.chips_wf destroyed, linked.insts_wf⟩
    rw [destroy_objs destroyed]
    exact listed_removeChip linked.toListed empty
  | addInst different apart there created =>
    have fresh := (create_fresh linked.insts_wf created).2.2
    refine ⟨?_, write_wellFormed linked.chips_wf there,
      create_wellFormed linked.insts_wf created⟩
    simp only [addInst, Store.write, create_objs created]
    exact listed_addInst linked.toListed fresh there
  | removeInst live there destroyed =>
    refine ⟨?_, write_wellFormed linked.chips_wf there,
      destroy_wellFormed linked.insts_wf destroyed⟩
    simp only [removeInst, Store.write, destroy_objs destroyed]
    exact listed_removeInst linked.toListed live there

lemma contains_addInst (linked : Linked h) {parent master id : Nat} {list : List Nat}
    {insts : Store (Nat × Nat)} (there : h.chips.objs parent = some list)
    (created : h.insts.create kTablePage (parent, master) = some (id, insts)) :
    (h.addInst parent id list insts).Contains = insertEdge h.Contains parent master := by
  have fresh := (create_fresh linked.insts_wf created).2.2
  have after : Linked (h.addInst parent id list insts) := by
    refine ⟨?_, write_wellFormed linked.chips_wf there,
      create_wellFormed linked.insts_wf created⟩
    simp only [addInst, Store.write, create_objs created]
    exact listed_addInst linked.toListed fresh there
  funext a b
  apply propext
  rw [contains_iff after, insertEdge, contains_iff linked]
  simp only [addInst, Store.write, create_objs created]
  constructor
  · rintro ⟨inst, live⟩
    by_cases same : inst = id
    · rw [same, update_self] at live
      rcases Option.some.inj live
      exact .inr ⟨rfl, rfl⟩
    · rw [update_of_ne same] at live
      exact .inl ⟨inst, live⟩
  · rintro (⟨inst, live⟩ | ⟨rfl, rfl⟩)
    · refine ⟨inst, ?_⟩
      rw [update_of_ne]
      · exact live
      · rintro rfl
        rw [fresh] at live
        cases live
    · exact ⟨id, update_self _ _ _⟩

lemma step_terminates (linked : Linked h) (step : Step h h') (terminates : Terminates h.Contains) :
    Terminates h'.Contains := by
  have after := step_linked linked step
  cases step with
  | addChip created =>
    apply terminates_mono terminates
    intro a b contains
    rw [contains_iff after] at contains
    exact (contains_iff linked a b).mpr contains
  | removeChip empty destroyed =>
    apply terminates_mono terminates
    intro a b contains
    rw [contains_iff after] at contains
    exact (contains_iff linked a b).mpr contains
  | @addInst parent master _ _ _ different apart there created =>
    rw [contains_addInst linked there created]
    apply terminates_insertEdge terminates
    intro reaches
    rcases Relation.reflTransGen_iff_eq_or_transGen.mp reaches with same | longer
    · exact different same
    · exact apart longer
  | removeInst live there destroyed =>
    apply terminates_mono terminates
    intro a b contains
    rw [contains_iff after] at contains
    rw [contains_iff linked]
    simp only [removeInst, Store.write, destroy_objs destroyed] at contains
    grind [update_apply]

end Hierarchy

end OpenRoad.Odb
