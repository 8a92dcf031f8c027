import Mathlib.Tactic

/-! Runs of a step function over a list of calls. -/

namespace OpenRoad.Lib

open List

variable {σ κ : Type} (step : σ → κ → σ)

def run (s : σ) (calls : List κ) : σ := calls.foldl step s

def Throughout (good : σ → Prop) (s : σ) (calls : List κ) : Prop :=
  ∀ front, front <+: calls → good (run step s front)

def EachCall (ok : σ → κ → Prop) (s : σ) (calls : List κ) : Prop :=
  ∀ front call, front ++ [call] <+: calls → ok (run step s front) call

variable {step} {good inv : σ → Prop} {ok : σ → κ → Prop} {s : σ}

lemma run_concat (s : σ) (front : List κ) (call : κ) :
    run step s (front ++ [call]) = step (run step s front) call := by
  rw [run, foldl_append]
  rfl

lemma throughout_nil : Throughout step good s [] ↔ good s := by
  constructor
  · intro all
    exact all [] (prefix_refl [])
  · intro holds front isFront
    rw [prefix_nil.mp isFront]
    exact holds

lemma throughout_cons (call : κ) (calls : List κ) : Throughout step good s (call :: calls) ↔
      good s ∧ Throughout step good (step s call) calls := by
  constructor
  · intro all
    refine ⟨all [] nil_prefix, ?_⟩
    intro front isFront
    exact all (call :: front) (cons_prefix_cons.mpr ⟨rfl, isFront⟩)
  · rintro ⟨first, later⟩ front isFront
    cases front with
    | nil => exact first
    | cons other front =>
      rcases cons_prefix_cons.mp isFront with ⟨rfl, isRest⟩
      exact later front isRest

lemma eachCall_cons (call : κ) (calls : List κ) :
    EachCall step ok s (call :: calls) ↔ ok s call ∧ EachCall step ok (step s call) calls := by
  constructor
  · intro each
    refine ⟨each [] call (cons_prefix_cons.mpr ⟨rfl, nil_prefix⟩), ?_⟩
    intro front other isFront
    exact each (call :: front) other (cons_prefix_cons.mpr ⟨rfl, isFront⟩)
  · rintro ⟨first, later⟩ front other isFront
    cases front with
    | nil =>
      rcases cons_prefix_cons.mp isFront with ⟨rfl, _⟩
      exact first
    | cons head front =>
      rcases cons_prefix_cons.mp isFront with ⟨rfl, isRest⟩
      exact later front other isRest

lemma eachCall_nil : EachCall step ok s [] := by
  intro front call isFront
  have empty := prefix_nil.mp isFront
  exact absurd empty (by simp)

lemma throughout_iff {valid : κ → Prop} {calls : List κ}
    (keeps : ∀ s call, valid call → inv s → inv (step s call))
    (exact : ∀ s call, valid call → inv s → good s → (good (step s call) ↔ ok s call))
    (allValid : ∀ call ∈ calls, valid call) (start : inv s) (first : good s) :
    Throughout step good s calls ↔ EachCall step ok s calls := by
  induction calls generalizing s with
  | nil => exact iff_of_true (throughout_nil.mpr first) eachCall_nil
  | cons call calls ih =>
    have isValid := allValid call mem_cons_self
    have rest : ∀ other ∈ calls, valid other :=
      fun other member => allValid other (mem_cons_of_mem call member)
    have kept := keeps s call isValid start
    rw [throughout_cons, eachCall_cons, ← exact s call isValid start first]
    constructor
    · rintro ⟨_, later⟩
      have next : good (step s call) := later [] nil_prefix
      exact ⟨next, (ih rest kept next).mp later⟩
    · rintro ⟨next, later⟩
      exact ⟨first, (ih rest kept next).mpr later⟩

lemma throughout_of_each {calls : List κ} (keeps : ∀ s call, inv s → ok s call → inv (step s call))
    (start : inv s) (each : EachCall step ok s calls) : Throughout step inv s calls := by
  induction calls generalizing s with
  | nil => exact throughout_nil.mpr start
  | cons call calls ih =>
    rcases (eachCall_cons call calls).mp each with ⟨first, later⟩
    exact (throughout_cons call calls).mpr ⟨start, ih (keeps s call start first) later⟩

lemma throughout_mono {weaker : σ → Prop} {calls : List κ} (implies : ∀ s, good s → weaker s)
    (all : Throughout step good s calls) : Throughout step weaker s calls :=
  fun front isFront => implies _ (all front isFront)

lemma run_invariant {valid : κ → Prop} {calls : List κ}
    (keeps : ∀ s call, valid call → inv s → inv (step s call))
    (allValid : ∀ call ∈ calls, valid call) (start : inv s) : inv (run step s calls) := by
  induction calls generalizing s with
  | nil => exact start
  | cons call calls ih =>
    exact ih (fun other member => allValid other (mem_cons_of_mem call member))
      (keeps s call (allValid call mem_cons_self) start)

end OpenRoad.Lib
