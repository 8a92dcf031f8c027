import Mathlib.Tactic

/-! Directed graphs in which every walk ends, and what one more edge does to them. -/

namespace OpenRoad.Lib

variable {α : Type} {edge edge' : α → α → Prop}

/-- Every walk along `edge` ends. -/
def Terminates (edge : α → α → Prop) : Prop := WellFounded fun target source => edge source target

def insertEdge (edge : α → α → Prop) (a b : α) : α → α → Prop :=
  fun source target => edge source target ∨ source = a ∧ target = b

lemma terminates_mono (terminates : Terminates edge)
    (fewer : ∀ source target, edge' source target → edge source target) : Terminates edge' :=
  Subrelation.wf (fun {target source} step => fewer source target step) terminates

lemma terminates_empty : Terminates fun _ _ : α => False :=
  ⟨fun node => ⟨node, fun _ step => step.elim⟩⟩

lemma terminates_of_rank (rank : α → Nat)
    (decreases : ∀ source target, edge source target → rank target < rank source) :
    Terminates edge :=
  Subrelation.wf (fun {target source} step => decreases source target step) (measure rank).wf

lemma not_reaches_self (terminates : Terminates edge) (node : α) :
    ¬ Relation.TransGen edge node node := by
  intro cycle
  have back : Relation.TransGen (fun target source => edge source target) node node :=
    Relation.transGen_swap.mpr cycle
  exact terminates.transGen.irrefl.irrefl node back

lemma acc_insertEdge (terminates : Terminates edge) (a b node : α)
    (apart : ¬ Relation.ReflTransGen edge node a) :
    Acc (fun target source => insertEdge edge a b source target) node := by
  induction node using terminates.induction with
  | _ node ih =>
    refine ⟨node, ?_⟩
    intro target step
    rcases step with old | ⟨same, _⟩
    · apply ih target old
      intro reaches
      exact apart (Relation.ReflTransGen.head old reaches)
    · exact absurd (same ▸ Relation.ReflTransGen.refl) apart

lemma terminates_insertEdge (terminates : Terminates edge) (a b : α)
    (apart : ¬ Relation.ReflTransGen edge b a) : Terminates (insertEdge edge a b) := by
  refine ⟨fun node => ?_⟩
  induction node using terminates.induction with
  | _ node ih =>
    refine ⟨node, ?_⟩
    intro target step
    rcases step with old | ⟨_, same⟩
    · exact ih target old
    · rw [same]
      exact acc_insertEdge terminates a b b apart

end OpenRoad.Lib
