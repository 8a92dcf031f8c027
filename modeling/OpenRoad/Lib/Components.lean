import Mathlib.Tactic

/-! Connected components, numbered by a breadth-first search from each vertex not yet labelled. -/

namespace OpenRoad.Lib.Components

open List

def mark (label : Nat) (state : List (Option Nat) × List Nat) (w : Nat) :
    List (Option Nat) × List Nat :=
  if state.1[w]? = some none then (state.1.set w (some label), state.2 ++ [w]) else state

/-- The search from the queue; every round takes one vertex out. -/
def spread (nbrs : Nat → List Nat) (label : Nat) :
    Nat → List (Option Nat) × List Nat → List (Option Nat) × List Nat
  | 0, state => state
  | _ + 1, (labels, []) => (labels, [])
  | fuel + 1, (labels, u :: queue) =>
    spread nbrs label fuel ((nbrs u).foldl (mark label) (labels, queue))

/-- The search from a vertex, unless it has a label; a vertex enters the queue at most once. -/
def explore (nbrs : Nat → List Nat) (n : Nat) (state : List (Option Nat) × List Nat) (v : Nat) :
    List (Option Nat) × List Nat :=
  if state.1[v]? = some none then
    ((spread nbrs state.2.length n (state.1.set v (some state.2.length), [v])).1, state.2 ++ [v])
  else state

def components (nbrs : Nat → List Nat) (n : Nat) : List (Option Nat) × List Nat :=
  (List.range n).foldl (explore nbrs n) (List.replicate n none, [])

def Linked (nbrs : Nat → List Nat) : Nat → Nat → Prop :=
  Relation.ReflTransGen fun u w => w ∈ nbrs u

variable {nbrs : Nat → List Nat} {n label : Nat}

lemma Linked.symm (symmetric : ∀ u w, w ∈ nbrs u → u ∈ nbrs w) {u w : Nat}
    (linked : Linked nbrs u w) : Linked nbrs w u := by
  induction linked with
  | refl => exact Relation.ReflTransGen.refl
  | tail _ edge ih => exact Relation.ReflTransGen.head (symmetric _ _ edge) ih

/-- What a search from `source` over the labels `before` has done so far. -/
structure Searching (nbrs : Nat → List Nat) (label source : Nat) (before : List (Option Nat))
    (state : List (Option Nat) × List Nat) : Prop where
  length : state.1.length = before.length
  kept : ∀ u old : Nat, before[u]? = some (some old) → state.1[u]? = some (some old)
  new : ∀ u : Nat, before[u]? = some none →
    state.1[u]? = some none ∨ state.1[u]? = some (some label) ∧ Linked nbrs source u
  waiting : ∀ u ∈ state.2, before[u]? = some none ∧ state.1[u]? = some (some label)

variable {source v : Nat} {before : List (Option Nat)} {state : List (Option Nat) × List Nat}

lemma mark_searching {u w : Nat} (searching : Searching nbrs label source before state)
    (reached : Linked nbrs source u) (edge : w ∈ nbrs u) :
    Searching nbrs label source before (mark label state w) := by
  rw [mark]
  split
  · rename_i unlabelled
    have inside : w < state.1.length := (List.getElem?_eq_some_iff.mp unlabelled).1
    have fresh : before[w]? = some none := by
      cases old : before[w]? with
      | none =>
        rw [List.getElem?_eq_none_iff, ← searching.length] at old
        omega
      | some entry =>
        cases entry with
        | none => rfl
        | some label' =>
          rw [searching.kept w label' old] at unlabelled
          cases unlabelled
    refine ⟨?_, fun v old was => ?_, fun v was => ?_, fun v member => ?_⟩
    · rw [length_set, searching.length]
    · rw [getElem?_set, if_neg fun same : w = v => by
        rw [same, was] at fresh
        cases fresh]
      exact searching.kept v old was
    · rw [getElem?_set]
      split
      · rename_i same
        exact .inr ⟨rfl, same ▸ reached.tail edge⟩
      · exact searching.new v was
    · rw [getElem?_set]
      rcases mem_append.mp member with queued | last
      · rcases searching.waiting v queued with ⟨was, now⟩
        refine ⟨was, ?_⟩
        split
        · rfl
        · exact now
      · rw [mem_singleton.mp last, if_pos rfl, if_pos inside]
        exact ⟨fresh, rfl⟩
  · exact searching

lemma marks_spec {u : Nat} (targets : List Nat) :
    ∀ state, Searching nbrs label source before state → Linked nbrs source u →
      (∀ w ∈ targets, w ∈ nbrs u) →
      Searching nbrs label source before (targets.foldl (mark label) state) ∧
        (∀ v : Nat, state.1[v]? ≠ some none → (targets.foldl (mark label) state).1[v]? ≠ some none) ∧
        (∀ w ∈ targets, (targets.foldl (mark label) state).1[w]? ≠ some none) ∧
        (∀ v ∈ state.2, v ∈ (targets.foldl (mark label) state).2) ∧
        (∀ v : Nat, (targets.foldl (mark label) state).1[v]? = some (some label) →
          state.1[v]? = some (some label) ∨ v ∈ (targets.foldl (mark label) state).2) ∧
        (targets.foldl (mark label) state).2.length +
          (targets.foldl (mark label) state).1.count none =
            state.2.length + state.1.count none := by
  induction targets with
  | nil =>
    intro state searching _ _
    exact ⟨searching, fun _ => id, nofun, fun _ => id, fun _ => .inl, rfl⟩
  | cons w rest ih =>
    intro state searching reached edges
    rw [foldl_cons]
    rcases ih (mark label state w)
      (mark_searching searching reached (edges w mem_cons_self)) reached
      (fun v member => edges v (mem_cons_of_mem _ member)) with
      ⟨after, labelled, targets, queued, origin, total⟩
    have step : (∀ v : Nat, state.1[v]? ≠ some none → (mark label state w).1[v]? ≠ some none) ∧
        (mark label state w).1[w]? ≠ some none ∧
        (∀ v ∈ state.2, v ∈ (mark label state w).2) ∧
        (∀ v : Nat, (mark label state w).1[v]? = some (some label) →
          state.1[v]? = some (some label) ∨ v ∈ (mark label state w).2) ∧
        (mark label state w).2.length + (mark label state w).1.count none =
          state.2.length + state.1.count none := by
      rw [mark]
      split
      · rename_i unlabelled
        rcases List.getElem?_eq_some_iff.mp unlabelled with ⟨inside, value⟩
        refine ⟨fun v was => ?_, ?_, fun v => mem_append_left _, fun v now => ?_, ?_⟩
        · rw [getElem?_set]
          split
          · exact fun none' => nomatch none'
          · exact was
        · rw [getElem?_set, if_pos rfl, if_pos inside]
          exact fun none' => nomatch none'
        · rw [getElem?_set] at now
          split at now
          · rename_i same
            exact .inr (mem_append_right _ (same ▸ mem_singleton.mpr rfl))
          · exact .inl now
        · have positive : 0 < state.1.count none :=
            count_pos_iff.mpr (mem_of_getElem? unlabelled)
          rw [length_append, length_singleton, count_set inside, value]
          simp
          omega
      · rename_i already
        exact ⟨fun _ => id, already, fun _ => id, fun _ => .inl, rfl⟩
    refine ⟨after, fun v was => labelled v (step.1 v was), fun v member => ?_,
      fun v member => queued v (step.2.2.1 v member), fun v now => ?_, total.trans step.2.2.2.2⟩
    · rcases mem_cons.mp member with rfl | later
      · exact labelled v step.2.1
      · exact targets v later
    · rcases origin v now with was | waits
      · rcases step.2.2.2.1 v was with earlier | waits
        · exact .inl earlier
        · exact .inr (queued v waits)
      · exact .inr waits

/-- A vertex that carries the label waits in the queue or has all neighbours labelled. -/
def Explored (nbrs : Nat → List Nat) (label : Nat) (before : List (Option Nat))
    (state : List (Option Nat) × List Nat) : Prop :=
  ∀ u : Nat, before[u]? = some none → state.1[u]? = some (some label) →
    u ∈ state.2 ∨ ∀ w ∈ nbrs u, state.1[w]? ≠ some none

lemma spread_spec (fuel : Nat) :
    ∀ state, Searching nbrs label source before state → Explored nbrs label before state →
      state.2.length + state.1.count none ≤ fuel →
      Searching nbrs label source before (spread nbrs label fuel state) ∧
        Explored nbrs label before (spread nbrs label fuel state) ∧
        (spread nbrs label fuel state).2 = [] ∧
        ∀ v : Nat, state.1[v]? ≠ some none → (spread nbrs label fuel state).1[v]? ≠ some none := by
  induction fuel with
  | zero =>
    intro state searching explored enough
    have empty : state.2 = [] := length_eq_zero_iff.mp (by omega)
    exact ⟨searching, explored, empty, fun _ => id⟩
  | succ fuel ih =>
    rintro ⟨labels, queue⟩ searching explored enough
    cases queue with
    | nil => exact ⟨searching, explored, rfl, fun _ => id⟩
    | cons u queue =>
      rcases searching.waiting u mem_cons_self with ⟨fresh, labelled⟩
      have reached : Linked nbrs source u := by
        rcases searching.new u fresh with none' | ⟨_, linked⟩
        · rw [labelled] at none'
          cases none'
        · exact linked
      have popped : Searching nbrs label source before (labels, queue) :=
        ⟨searching.length, searching.kept, searching.new,
          fun v member => searching.waiting v (mem_cons_of_mem _ member)⟩
      rcases marks_spec (nbrs u) (labels, queue) popped reached (fun _ => id) with
        ⟨after, kept, targets, queued, origin, total⟩
      have enough' : ((nbrs u).foldl (mark label) (labels, queue)).2.length +
          ((nbrs u).foldl (mark label) (labels, queue)).1.count none ≤ fuel := by
        rw [length_cons] at enough
        rw [total]
        dsimp only at enough ⊢
        omega
      have explored' : Explored nbrs label before
          ((nbrs u).foldl (mark label) (labels, queue)) := by
        intro v was now
        rcases origin v now with earlier | waits
        · by_cases same : v = u
          · rw [same]
            exact .inr targets
          · rcases explored v was earlier with waiting | closed
            · rcases mem_cons.mp waiting with here | later
              · exact absurd here same
              · exact .inl (queued v later)
            · exact .inr fun w member => kept w (closed w member)
        · exact .inl waits
      rcases ih _ after explored' enough' with ⟨final, closed, empty, stays⟩
      exact ⟨final, closed, empty, fun v was => stays v (kept v was)⟩

def Leader (nbrs : Nat → List Nat) (v : Nat) : Prop := ∀ u < v, ¬ Linked nbrs u v

/-- The components of the vertices below `v` are numbered in the order of their leaders. -/
structure Numbered (nbrs : Nat → List Nat) (n v : Nat) (state : List (Option Nat) × List Nat) :
    Prop where
  length : state.1.length = n
  sorted : state.2.Pairwise (· < ·)
  roots : ∀ r, r ∈ state.2 ↔ r < v ∧ Leader nbrs r
  labelled : ∀ u i : Nat, state.1[u]? = some (some i) → ∃ r, state.2[i]? = some r ∧ Linked nbrs r u
  closed : ∀ u w, w ∈ nbrs u → state.1[u]? ≠ some none → state.1[w]? ≠ some none
  visited : ∀ u < v, state.1[u]? ≠ some none

lemma Numbered.reaches {u w : Nat} (numbered : Numbered nbrs n v state)
    (start : state.1[u]? ≠ some none) (linked : Linked nbrs u w) : state.1[w]? ≠ some none := by
  induction linked with
  | refl => exact start
  | tail _ edge ih => exact numbered.closed _ _ edge ih

lemma numbered_start (inside : ∀ u w, w ∈ nbrs u → u < n) :
    Numbered nbrs n 0 (replicate n none, []) where
  length := length_replicate
  sorted := List.Pairwise.nil
  roots := fun r => ⟨nofun, fun both => absurd both.1 (Nat.not_lt_zero r)⟩
  labelled := by
    intro u i found
    rw [getElem?_replicate] at found
    split at found <;> cases found
  closed := by
    intro u w edge start
    rw [getElem?_replicate, if_pos (inside u w edge)] at start
    exact absurd rfl start
  visited := fun u bound => absurd bound (Nat.not_lt_zero u)

lemma explore_met (numbered : Numbered nbrs n v state) (bound : v < n)
    (met : state.1[v]? ≠ some none) : Numbered nbrs n (v + 1) state := by
  have entry : ∃ i, state.1[v]? = some (some i) := by
    cases found : state.1[v]? with
    | none =>
      rw [List.getElem?_eq_none_iff, numbered.length] at found
      omega
    | some entry =>
      cases entry with
      | none => exact absurd found met
      | some i => exact ⟨i, rfl⟩
  rcases entry with ⟨i, found⟩
  rcases numbered.labelled v i found with ⟨r, isRoot, linked⟩
  have earlier := ((numbered.roots r).mp (mem_of_getElem? isRoot)).1
  refine ⟨numbered.length, numbered.sorted, fun u => ?_, numbered.labelled, numbered.closed,
    fun u below => ?_⟩
  · rw [numbered.roots]
    constructor
    · exact fun both => ⟨Nat.lt_succ_of_lt both.1, both.2⟩
    · rintro ⟨below, leader⟩
      refine ⟨?_, leader⟩
      rcases Nat.lt_succ_iff_lt_or_eq.mp below with before | rfl
      · exact before
      · exact absurd linked (leader r earlier)
  · rcases Nat.lt_succ_iff_lt_or_eq.mp below with before | rfl
    · exact numbered.visited u before
    · exact met

lemma explore_fresh (numbered : Numbered nbrs n v state) (fresh : state.1[v]? = some none) :
    Numbered nbrs n (v + 1)
      ((spread nbrs state.2.length n (state.1.set v (some state.2.length), [v])).1,
        state.2 ++ [v]) := by
  rcases List.getElem?_eq_some_iff.mp fresh with ⟨inside, value⟩
  have atStart : Searching nbrs state.2.length v state.1
      (state.1.set v (some state.2.length), [v]) := by
    refine ⟨length_set, fun u old was => ?_, fun u was => ?_, fun u member => ?_⟩
    · rw [getElem?_set, if_neg fun same : v = u => by
        rw [same, was] at fresh
        cases fresh]
      exact was
    · rw [getElem?_set]
      split
      · rename_i same
        exact .inr ⟨rfl, same ▸ Relation.ReflTransGen.refl⟩
      · exact .inl was
    · rw [mem_singleton.mp member, getElem?_set, if_pos rfl, if_pos inside]
      exact ⟨fresh, rfl⟩
  have explored : Explored nbrs state.2.length state.1
      (state.1.set v (some state.2.length), [v]) := by
    intro u was now
    rw [getElem?_set] at now
    split at now
    · rename_i same
      exact .inl (mem_singleton.mpr same.symm)
    · rw [was] at now
      cases now
  have enough : [v].length + (state.1.set v (some state.2.length)).count none ≤ n := by
    have positive : 0 < state.1.count none := count_pos_iff.mpr (mem_of_getElem? fresh)
    have atMost : state.1.count none ≤ state.1.length := count_le_length
    rw [length_singleton, count_set inside, value]
    rw [numbered.length] at atMost
    simp
    omega
  rcases spread_spec n _ atStart explored enough with ⟨searching, closed, empty, stays⟩
  have keeps : ∀ u : Nat, state.1[u]? ≠ some none →
      (spread nbrs state.2.length n (state.1.set v (some state.2.length), [v])).1[u]? ≠
        some none := by
    intro u was
    apply stays
    rw [getElem?_set]
    split
    · exact fun none' => nomatch none'
    · exact was
  have isLeader : Leader nbrs v := fun u below linked =>
    numbered.reaches (numbered.visited u below) linked fresh
  refine ⟨searching.length.trans numbered.length, ?_, fun r => ?_, fun u i found => ?_,
    fun u w edge start => ?_, fun u below => ?_⟩
  · refine pairwise_append.mpr ⟨numbered.sorted, pairwise_singleton _ _, ?_⟩
    intro r member w last
    rw [mem_singleton.mp last]
    exact ((numbered.roots r).mp member).1
  · rw [mem_append, numbered.roots, mem_singleton, Nat.lt_succ_iff_lt_or_eq]
    constructor
    · rintro (⟨below, leader⟩ | rfl)
      · exact ⟨.inl below, leader⟩
      · exact ⟨.inr rfl, isLeader⟩
    · rintro ⟨below | rfl, leader⟩
      · exact .inl ⟨below, leader⟩
      · exact .inr rfl
  · cases was : state.1[u]? with
    | none =>
      rw [List.getElem?_eq_none_iff] at was
      have bound := (List.getElem?_eq_some_iff.mp found).1
      rw [searching.length] at bound
      omega
    | some entry =>
      cases entry with
      | none =>
        rcases searching.new u was with none' | ⟨now, linked⟩
        · rw [found] at none'
          cases none'
        · rw [found, Option.some.injEq, Option.some.injEq] at now
          exact ⟨v, by rw [now, getElem?_concat_length], linked⟩
      | some j =>
        rw [searching.kept u j was, Option.some.injEq, Option.some.injEq] at found
        rcases numbered.labelled u j was with ⟨r, isRoot, linked⟩
        refine ⟨r, ?_, linked⟩
        rw [← found, getElem?_append_left (List.getElem?_eq_some_iff.mp isRoot).1]
        exact isRoot
  · by_cases was : state.1[u]? = some none
    · rcases searching.new u was with none' | ⟨now, _⟩
      · exact absurd none' start
      · rcases closed u was now with waits | done
        · rw [empty] at waits
          cases waits
        · exact done w edge
    · exact keeps w (numbered.closed u w edge was)
  · rcases Nat.lt_succ_iff_lt_or_eq.mp below with before | rfl
    · exact keeps u (numbered.visited u before)
    · apply stays
      rw [getElem?_set, if_pos rfl, if_pos inside]
      exact fun none' => nomatch none'

lemma components_numbered (inside : ∀ u w, w ∈ nbrs u → u < n) :
    Numbered nbrs n n (components nbrs n) := by
  have upTo : ∀ v ≤ n,
      Numbered nbrs n v ((range v).foldl (explore nbrs n) (replicate n none, [])) := by
    intro v
    induction v with
    | zero => exact fun _ => numbered_start inside
    | succ v ih =>
      intro bound
      have numbered := ih (Nat.le_of_succ_le bound)
      rw [range_succ, foldl_append, foldl_cons, foldl_nil, explore]
      split
      · rename_i fresh
        exact explore_fresh numbered fresh
      · rename_i met
        exact explore_met numbered bound met
  exact upTo n (Nat.le_refl n)

lemma Numbered.component (numbered : Numbered nbrs n n state) {u : Nat} (bound : u < n) :
    ∃ i r, state.1[u]? = some (some i) ∧ state.2[i]? = some r ∧ Linked nbrs r u := by
  cases found : state.1[u]? with
  | none =>
    rw [List.getElem?_eq_none_iff, numbered.length] at found
    omega
  | some entry =>
    cases entry with
    | none => exact absurd found (numbered.visited u bound)
    | some i =>
      rcases numbered.labelled u i found with ⟨r, isRoot, linked⟩
      exact ⟨i, r, rfl, isRoot, linked⟩

lemma Leader.unique (symmetric : ∀ u w, w ∈ nbrs u → u ∈ nbrs w) {r r' : Nat}
    (leader : Leader nbrs r) (leader' : Leader nbrs r') (linked : Linked nbrs r r') : r = r' := by
  rcases Nat.lt_trichotomy r r' with before | same | after
  · exact absurd linked (leader' r before)
  · exact same
  · exact absurd (linked.symm symmetric) (leader r' after)

end OpenRoad.Lib.Components
