import Mathlib.Tactic

/-! Programs that read and write a state and may raise an error, which keeps the state as it is at
that point; and what holds after them. -/

namespace OpenRoad.Lib

variable {σ ε α β : Type}

abbrev Effect (σ ε α : Type) := ExceptT ε (StateM σ) α

namespace Effect

def exec (m : Effect σ ε α) (s : σ) : Except ε α × σ := StateT.run (ExceptT.run m) s

/-- After the program, `post` holds of its result and of the state. -/
def After (m : Effect σ ε α) (s : σ) (post : Except ε α → σ → Prop) : Prop :=
  post (m.exec s).1 (m.exec s).2

@[simp] lemma exec_pure (value : α) (s : σ) :
    (pure value : Effect σ ε α).exec s = (.ok value, s) := rfl

@[simp] lemma exec_get (s : σ) : (get : Effect σ ε σ).exec s = (.ok s, s) := rfl

@[simp] lemma exec_modify (f : σ → σ) (s : σ) :
    (modify f : Effect σ ε PUnit).exec s = (.ok (), f s) := rfl

lemma exec_bind (m : Effect σ ε α) (next : α → Effect σ ε β) (s : σ) :
    (m >>= next).exec s = match m.exec s with
      | (.ok value, s') => (next value).exec s'
      | (.error fault, s') => (.error fault, s') := by
  have first : (m >>= next).exec s = (ExceptT.bindCont next (m.exec s).1 : StateM σ _).run
      (m.exec s).2 := rfl
  rw [first]
  rcases m.exec s with ⟨fault | value, s'⟩ <;> rfl

variable {s' : σ}

lemma exec_bind_ok {m : Effect σ ε α} {s : σ} {value : α} (next : α → Effect σ ε β)
    (first : m.exec s = (.ok value, s')) : (m >>= next).exec s = (next value).exec s' := by
  rw [exec_bind, first]

variable {next : α → Effect σ ε β}

lemma bind_ok {m : Effect σ ε α} {s : σ} {result : β}
    (run : (m >>= next).exec s = (.ok result, s')) :
    ∃ value mid, m.exec s = (.ok value, mid) ∧ (next value).exec mid = (.ok result, s') := by
  rw [exec_bind] at run
  split at run
  · rename_i value mid first
    exact ⟨value, mid, first, run⟩
  · cases run

variable {s : σ} {m : Effect σ ε α} {post : Except ε α → σ → Prop}

lemma after_mono {weaker : Except ε α → σ → Prop} (after : After m s post)
    (implies : ∀ result s', post result s' → weaker result s') : After m s weaker :=
  implies _ _ after

lemma after_exec (after : After m s post) {result : Except ε α} (run : m.exec s = (result, s')) :
    post result s' := by
  rw [After, run] at after
  exact after

lemma after_bind {post : Except ε β → σ → Prop}
    (first : After m s fun result s' => match result with
      | .ok value => After (next value) s' post
      | .error fault => post (.error fault) s') : After (m >>= next) s post := by
  rw [After, exec_bind]
  rw [After] at first
  rcases ran : m.exec s with ⟨fault | value, s'⟩ <;> rw [ran] at first <;> exact first

def check (bad : Prop) [Decidable bad] (fault : ε) : Effect σ ε Unit :=
  if bad then throw fault else pure ()

lemma after_ok {post : Except ε β → σ → Prop} {value : α} (first : m.exec s = (.ok value, s'))
    (second : After (next value) s' post) : After (m >>= next) s post := by
  rw [After, exec_bind_ok next first]
  exact second

lemma after_error {post : Except ε β → σ → Prop} {fault : ε} (first : m.exec s = (.error fault, s'))
    (holds : post (.error fault) s') : After (m >>= next) s post := by
  rw [After, exec_bind, first]
  exact holds

lemma after_check {bad : Prop} [Decidable bad] {fault : ε} {post : Except ε Unit → σ → Prop}
    (raises : bad → post (.error fault) s) (passes : ¬ bad → post (.ok ()) s) :
    After (check bad fault) s post := by
  rw [check]
  split
  · rename_i holds
    exact raises holds
  · rename_i fails
    exact passes fails

section Keeps

variable {γ : Type} {view : σ → γ}

/-- The program leaves the part of the state that `view` shows as it is. -/
def Keeps (view : σ → γ) (m : Effect σ ε α) : Prop := ∀ s, view (m.exec s).2 = view s

lemma keeps_pure (value : α) : Keeps view (pure value : Effect σ ε α) := fun _ => rfl

lemma keeps_throw (fault : ε) : Keeps view (throw fault : Effect σ ε α) := fun _ => rfl

lemma keeps_get : Keeps view (get : Effect σ ε σ) := fun _ => rfl

lemma keeps_modify {f : σ → σ} (same : ∀ s, view (f s) = view s) :
    Keeps view (modify f : Effect σ ε PUnit) := same

variable {m : Effect σ ε α}

lemma keeps_bind {next : α → Effect σ ε β} (first : Keeps view m)
    (second : ∀ value, Keeps view (next value)) : Keeps view (m >>= next) := by
  intro s
  rw [exec_bind]
  have kept := first s
  rcases ran : m.exec s with ⟨fault | value, s'⟩ <;> rw [ran] at kept
  · exact kept
  · exact (second value s').trans kept

lemma keeps_check (bad : Prop) [Decidable bad] (fault : ε) :
    Keeps view (check bad fault : Effect σ ε Unit) := by
  rw [check]
  split
  · exact keeps_throw fault
  · exact keeps_pure ()

lemma keeps_ite (condition : Prop) [Decidable condition] {m' : Effect σ ε α} (first : Keeps view m)
    (second : Keeps view m') : Keeps view (if condition then m else m') := by
  split
  · exact first
  · exact second

lemma keeps_forM {δ : Type} (items : List δ) {body : δ → Effect σ ε PUnit}
    (each : ∀ item, Keeps view (body item)) : Keeps view (forM items body) := by
  induction items with
  | nil => exact keeps_pure ()
  | cons item items ih =>
    rw [List.forM_cons]
    exact keeps_bind (each item) fun _ => ih

lemma after_keeps (keeps : Keeps view m) (s : σ) : After m s fun _ s' => view s' = view s := keeps s

end Keeps

end Effect

end OpenRoad.Lib
