import OpenRoad.Lib.Effects

/-! Programs whose only fault is a given one. -/

namespace OpenRoad.Lib.Effect

variable {σ ε α β : Type}

def Raises (fault : ε) (m : Effect σ ε α) : Prop :=
  ∀ s other s', m.exec s = (.error other, s') → other = fault

section Raises

variable {fault : ε}

lemma raises_pure (value : α) : Raises fault (pure value : Effect σ ε α) := by
  intro s other s' ran
  cases ran

lemma raises_throw : Raises fault (throw fault : Effect σ ε α) := by
  intro s other s' ran
  cases ran
  rfl

lemma raises_get : Raises fault (get : Effect σ ε σ) := by
  intro s other s' ran
  cases ran

lemma raises_set (value : σ) : Raises fault (set value : Effect σ ε PUnit) := by
  intro s other s' ran
  cases ran

lemma raises_modify (f : σ → σ) : Raises fault (modify f : Effect σ ε PUnit) := by
  intro s other s' ran
  cases ran

lemma raises_bind {m : Effect σ ε α} {next : α → Effect σ ε β} (first : Raises fault m)
    (second : ∀ value, Raises fault (next value)) : Raises fault (m >>= next) := by
  intro s other s' ran
  rw [exec_bind] at ran
  split at ran
  · rename_i value mid _
    exact second value mid other s' ran
  · rename_i early mid ranFirst
    cases ran
    exact first s other s' ranFirst

lemma raises_ite (condition : Prop) [Decidable condition] {m m' : Effect σ ε α}
    (first : Raises fault m) (second : Raises fault m') :
    Raises fault (if condition then m else m') := by
  split
  · exact first
  · exact second

lemma raises_forM {γ : Type} (items : List γ) {body : γ → Effect σ ε PUnit}
    (each : ∀ item, Raises fault (body item)) : Raises fault (forM items body) := by
  induction items with
  | nil => exact raises_pure ()
  | cons item items ih =>
    rw [List.forM_cons]
    exact raises_bind (each item) fun _ => ih

end Raises

end OpenRoad.Lib.Effect
