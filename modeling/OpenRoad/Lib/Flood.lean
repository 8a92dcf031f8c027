import Mathlib.Data.Finset.Card

/-! A level that spreads through a graph, over everything that lies higher. -/

namespace OpenRoad.Lib

open Function

variable {ι α : Type} [LinearOrder α]

/-- The level of a node goes on to the higher ones next to it, and from each of them at once. -/
def flood [DecidableEq ι] (next : ι → List ι) : Nat → ι → (ι → α) → Option (ι → α)
  | 0, _, _ => none
  | fuel + 1, a, level =>
    (next a).foldlM (fun level n =>
      if level a < level n then flood next fuel n (update level n (level a))
      else some level) level

/-- One step to a node that lies higher than the level that spreads. -/
def Floods (next : ι → List ι) (level : ι → α) (s : α) (a b : ι) : Prop := b ∈ next a ∧ s < level b

def Reaches (next : ι → List ι) (level : ι → α) (s : α) : ι → ι → Prop :=
  Relation.ReflTransGen (Floods next level s)

structure Flooded (next : ι → List ι) (s : α) (a : ι) (level level' : ι → α) : Prop where
  either : ∀ m, level' m = level m ∨ level' m = s ∧ s < level m ∧ Reaches next level s a m
  closed : ∀ m, level' m ≠ level m → ∀ k ∈ next m, level' k ≤ s

namespace Flooded

variable {next : ι → List ι} {s : α} {a n : ι} {level now level' : ι → α}

lemma refl (next : ι → List ι) (s : α) (a : ι) (level : ι → α) : Flooded next s a level level where
  either _ := .inl rfl
  closed _ changed := absurd rfl changed

lemma le (flooded : Flooded next s a level level') (m : ι) : level' m ≤ level m := by
  rcases flooded.either m with same | ⟨isLevel, higher, _⟩
  · exact same.le
  · rw [isLevel]
    exact higher.le

lemma source (flooded : Flooded next s a level level') (isSource : level a = s) :
    level' a = s := by
  rcases flooded.either a with same | ⟨isLevel, _, _⟩
  · exact same.trans isSource
  · exact isLevel

lemma update_le [DecidableEq ι] (flooded : Flooded next s a level now) (higher : s < now n) (m : ι) :
    update now n s m ≤ level m := by
  by_cases same : m = n
  · rw [same, update_self]
    exact higher.le.trans (flooded.le n)
  · rw [update_of_ne same]
    exact flooded.le m

lemma trans [DecidableEq ι] (flooded : Flooded next s a level now) (isNext : n ∈ next a) (higher : s < now n)
    (onward : Flooded next s n (update now n s) level')
    (around : ∀ k ∈ next n, level' k ≤ s) : Flooded next s a level level' := by
  have first : Floods next level s a n := ⟨isNext, higher.trans_le (flooded.le n)⟩
  have isLow : level' n = s := onward.source (update_self ..)
  constructor
  · intro m
    rcases onward.either m with same | ⟨isLevel, above, reaches⟩
    · by_cases isFirst : m = n
      · rw [isFirst]
        exact .inr ⟨isLow, first.2, .single first⟩
      · rw [same, update_of_ne isFirst]
        exact flooded.either m
    · right
      refine ⟨isLevel, above.trans_le (flooded.update_le higher m), .head first ?_⟩
      apply Relation.ReflTransGen.mono _ n m reaches
      intro b c step
      exact ⟨step.1, step.2.trans_le (flooded.update_le higher c)⟩
  · intro m changed k isBeyond
    by_cases isFirst : m = n
    · rw [isFirst] at isBeyond
      exact around k isBeyond
    · by_cases same : level' m = update now n s m
      · rw [same, update_of_ne isFirst] at changed
        have before := flooded.closed m changed k isBeyond
        have low : update now n s k ≤ s := by
          by_cases isNode : k = n
          · rw [isNode, update_self]
          · rw [update_of_ne isNode]
            exact before
        exact (onward.le k).trans low
      · exact onward.closed m same k isBeyond

lemma reached (flooded : Flooded next (level a) a level level')
    (around : ∀ k ∈ next a, level' k ≤ level a) {m : ι}
    (reaches : Reaches next level (level a) a m) : level' m = level a := by
  induction reaches with
  | refl => exact flooded.source rfl
  | @tail b c earlier step isLevel =>
    have low : level' c ≤ level a := by
      by_cases isSource : level' b = level b
      · rcases Relation.ReflTransGen.cases_tail earlier with isFirst | ⟨_, _, last⟩
        · rw [isFirst] at step
          exact around c step.1
        · rw [isSource] at isLevel
          exact absurd last.2 (not_lt.mpr isLevel.le)
      · exact flooded.closed b isSource c step.1
    rcases flooded.either c with same | ⟨isC, _, _⟩
    · rw [same] at low
      exact absurd step.2 (not_lt.mpr low)
    · exact isC

end Flooded

section

variable {next : ι → List ι} {U : Finset ι} {a : ι} {level : ι → α}

lemma card_higher_lt {s : α} {n : ι} {now : ι → α} (inside : n ∈ U) (higher : s < level n)
    (below : ∀ m, now m ≤ level m) (isLow : now n = s) :
    (U.filter fun m => s < now m).card < (U.filter fun m => s < level m).card := by
  apply Finset.card_lt_card
  rw [Finset.ssubset_iff_of_subset]
  · refine ⟨n, Finset.mem_filter.mpr ⟨inside, higher⟩, ?_⟩
    rw [Finset.mem_filter, isLow]
    exact fun member => absurd member.2 (lt_irrefl s)
  · intro m member
    rw [Finset.mem_filter] at member ⊢
    exact ⟨member.1, member.2.trans_le (below m)⟩

lemma flood_ends [DecidableEq ι] (inside : ∀ m, ∀ k ∈ next m, k ∈ U) (fuel : Nat) :
    ∀ (a : ι) (level : ι → α), (U.filter fun m => level a < level m).card < fuel →
      ∃ level', flood next fuel a level = some level' ∧ Flooded next (level a) a level level' ∧
        ∀ k ∈ next a, level' k ≤ level a := by
  induction fuel with
  | zero => exact fun a level enough => absurd enough (Nat.not_lt_zero _)
  | succ fuel ih =>
    intro a level enough
    have loop : ∀ (ns : List ι) (now : ι → α), (∀ n ∈ ns, n ∈ next a) →
        Flooded next (level a) a level now →
        ∃ level', ns.foldlM (fun level n =>
            if level a < level n then flood next fuel n (update level n (level a))
            else some level) now = some level' ∧
          Flooded next (level a) a level level' ∧ (∀ m, level' m ≤ now m) ∧
          ∀ k ∈ ns, level' k ≤ level a := by
      intro ns
      induction ns with
      | nil =>
        intro now _ flooded
        exact ⟨now, rfl, flooded, fun _ => le_rfl, fun k none => by cases none⟩
      | cons n ns loop =>
        intro now ahead flooded
        have isNext := ahead n List.mem_cons_self
        have later : ∀ k ∈ ns, k ∈ next a := fun k member => ahead k (List.mem_cons_of_mem n member)
        have source : now a = level a := flooded.source rfl
        rw [List.foldlM_cons, source]
        by_cases higher : level a < now n
        · rw [if_pos higher]
          have fewer : (U.filter fun m => level a < update now n (level a) m).card <
              (U.filter fun m => level a < level m).card :=
            card_higher_lt (inside a n isNext) (higher.trans_le (flooded.le n))
              (flooded.update_le higher) (update_self ..)
          have isLevel : update now n (level a) n = level a := update_self ..
          rcases ih n (update now n (level a)) (by rw [isLevel]; omega) with
            ⟨there, isThere, onward, around⟩
          rw [isLevel] at onward around
          have reached := flooded.trans isNext higher onward around
          rcases loop there later reached with ⟨level', isLast, done, below, low⟩
          have down : ∀ m, there m ≤ now m := by
            intro m
            apply (onward.le m).trans
            by_cases same : m = n
            · rw [same, isLevel]
              exact higher.le
            · rw [update_of_ne same]
          refine ⟨level', ?_, done, fun m => (below m).trans (down m), ?_⟩
          · rw [isThere]
            exact isLast
          · intro k member
            rcases List.mem_cons.mp member with isHead | later
            · rw [isHead]
              exact (below n).trans (onward.source isLevel).le
            · exact low k later
        · rw [if_neg higher]
          rcases loop now later flooded with ⟨level', isLast, done, below, low⟩
          refine ⟨level', isLast, done, below, ?_⟩
          intro k member
          rcases List.mem_cons.mp member with isHead | later
          · rw [isHead]
            exact (below n).trans (not_lt.mp higher)
          · exact low k later
    rcases loop (next a) level (fun _ member => member) (.refl next _ a level) with
      ⟨level', isLast, flooded, _, low⟩
    exact ⟨level', isLast, flooded, low⟩

lemma flood_reaches [DecidableEq ι] (inside : ∀ m, ∀ k ∈ next m, k ∈ U) (a : ι)
    (level : ι → α) : ∃ level', (∀ fuel, U.card < fuel → flood next fuel a level = some level') ∧
      (∀ m, Reaches next level (level a) a m → level' m = level a) ∧
      ∀ m, ¬ Reaches next level (level a) a m → level' m = level m := by
  classical
  refine ⟨fun m => if Reaches next level (level a) a m then level a else level m, ?_, ?_, ?_⟩
  · intro fuel enough
    rcases flood_ends inside fuel a level ((Finset.card_filter_le U _).trans_lt enough) with
      ⟨level', isLast, flooded, around⟩
    rw [isLast]
    congr
    funext m
    by_cases reaches : Reaches next level (level a) a m
    · rw [if_pos reaches]
      exact flooded.reached around reaches
    · rw [if_neg reaches]
      rcases flooded.either m with same | ⟨_, _, reaches'⟩
      · exact same
      · exact absurd reaches' reaches
  · exact fun m reaches => if_pos reaches
  · exact fun m apart => if_neg apart

end

section Sources

/-- What the floods from some sources, the last one first, bring the nodes down to: a source is
lowered, and its level goes on to nodes that lie higher at the start. -/
inductive Lowers (near : ι → ι → Prop) (lower : α → α) (level : ι → α) : List ι → α → ι → Prop
  | source {before : List ι} {a : ι} : Lowers near lower level (a :: before) (lower (level a)) a
  | again {before : List ι} {a : ι} {s : α} (earlier : Lowers near lower level before s a) :
      Lowers near lower level (a :: before) (lower s) a
  | later {before : List ι} {a m : ι} {s : α} (earlier : Lowers near lower level before s m) :
      Lowers near lower level (a :: before) s m
  | spread {sources : List ι} {m k : ι} {s : α} (lowers : Lowers near lower level sources s m)
      (isNear : near m k) (higher : s < level k) : Lowers near lower level sources s k

/-- The levels after the floods from some sources. -/
structure Lowered (near : ι → ι → Prop) (lower : α → α) (level : ι → α) (sources : List ι)
    (now : ι → α) : Prop where
  below : ∀ m, now m ≤ level m
  either : ∀ m, now m = level m ∨ Lowers near lower level sources (now m) m
  le : ∀ m s, Lowers near lower level sources s m → now m ≤ s
  closed : ∀ m s k, Lowers near lower level sources s m → near m k → now k ≤ now m

variable {near : ι → ι → Prop} {next : ι → List ι} {lower : α → α} {sources : List ι} {a : ι}
  {level now now' : ι → α}

lemma lowered_start (near : ι → ι → Prop) (lower : α → α) (level : ι → α) :
    Lowered near lower level [] level := by
  have never : ∀ sources m s, Lowers near lower level sources s m → sources ≠ [] := by
    intro sources m s lowers
    induction lowers with
    | source | again | later => exact List.cons_ne_nil _ _
    | spread _ _ _ ih => exact ih
  exact ⟨fun _ => le_rfl, fun _ => .inl rfl, fun m s lowers => absurd rfl (never _ m s lowers),
    fun m s _ lowers => absurd rfl (never _ m s lowers)⟩

lemma Lowers.source_or_lower {m : ι} {s : α} (lowers : Lowers near lower level sources s m) :
    m ∈ sources ∨ s < level m ∧ ∃ k, near k m := by
  induction lowers with
  | source => exact .inl List.mem_cons_self
  | again => exact .inl List.mem_cons_self
  | later _ ih => exact ih.imp_left (List.mem_cons_of_mem _)
  | spread _ isNear higher => exact .inr ⟨higher, _, isNear⟩

lemma Lowered.changed_iff (lowered : Lowered near lower level sources now) {linked : ι → Prop}
    (sourceLinked : ∀ a ∈ sources, linked a) : (∀ m, now m ≠ level m → linked m) ↔
      ∀ m s, Lowers near lower level sources s m → linked m := by
  constructor
  · intro all m s lowers
    rcases lowers.source_or_lower with isSource | ⟨less, _⟩
    · exact sourceLinked m isSource
    · exact all m ((lowered.le m s lowers).trans_lt less).ne
  · intro all m changed
    exact all m (now m) ((lowered.either m).resolve_left changed)

/-- A source is lowered and its level is spread. -/
lemma Lowered.flood [DecidableEq ι] (lowered : Lowered near lower level sources now)
    (isNext : ∀ m k, near m k ↔ k ∈ next m) (lowers : ∀ s, lower s ≤ s) (mono : Monotone lower)
    (reached : ∀ m, Reaches next (update now a (lower (now a))) (lower (now a)) a m →
      now' m = lower (now a))
    (apart : ∀ m, ¬ Reaches next (update now a (lower (now a))) (lower (now a)) a m →
      now' m = update now a (lower (now a)) m) :
    Lowered near lower level (a :: sources) now' := by
  let s := lower (now a)
  let low := update now a s
  have isLow : low a = s := update_self ..
  have lowLe : ∀ m, low m ≤ now m := by
    intro m
    by_cases same : m = a
    · rw [same, isLow]
      exact lowers _
    · exact (update_of_ne same ..).le
  have leLow : ∀ m, now' m ≤ low m := by
    intro m
    by_cases reaches : Reaches next low s a m
    · rw [reached m reaches]
      rcases Relation.ReflTransGen.cases_tail reaches with isFirst | ⟨_, _, last⟩
      · rw [isFirst, isLow]
      · exact last.2.le
    · exact (apart m reaches).le
  have stays : ∀ m, ¬ Reaches next low s a m → now' m = now m := by
    intro m unreached
    have differ : m ≠ a := by
      intro same
      rw [same] at unreached
      exact unreached .refl
    rw [apart m unreached]
    exact update_of_ne differ ..
  have closed : ∀ m, (Reaches next low s a m ∨ ∃ t, Lowers near lower level sources t m) →
      ∀ k, near m k → now' k ≤ now' m := by
    intro m touched k isNear
    by_cases reaches : Reaches next low s a m
    · rw [reached m reaches]
      by_cases higher : s < low k
      · exact (reached k (reaches.tail ⟨(isNext m k).mp isNear, higher⟩)).le
      · exact (leLow k).trans (not_lt.mp higher)
    · rcases touched.resolve_left reaches with ⟨t, before⟩
      rw [stays m reaches]
      exact ((leLow k).trans (lowLe k)).trans (lowered.closed m t k before isNear)
  have both : ∀ sources' m t, Lowers near lower level sources' t m → sources' = a :: sources →
      now' m ≤ t ∧ (Reaches next low s a m ∨ ∃ t, Lowers near lower level sources t m) := by
    intro sources' m t brought
    induction brought with
    | source =>
      intro same
      rw [(List.cons.inj same).1, reached a .refl]
      exact ⟨mono (lowered.below a), .inl .refl⟩
    | again earlier =>
      intro same
      rw [(List.cons.inj same).1, (List.cons.inj same).2] at earlier
      rw [(List.cons.inj same).1, reached a .refl]
      exact ⟨mono (lowered.le a _ earlier), .inl .refl⟩
    | @later _ _ m t earlier =>
      intro same
      rw [(List.cons.inj same).2] at earlier
      exact ⟨((leLow m).trans (lowLe m)).trans (lowered.le m t earlier), .inr ⟨t, earlier⟩⟩
    | @spread _ m k t _ isNear higher ih =>
      intro same
      rcases ih same with ⟨isLow, touched⟩
      have next' := (closed m touched k isNear).trans isLow
      refine ⟨next', ?_⟩
      by_cases reaches : Reaches next low s a k
      · exact .inl reaches
      · rw [stays k reaches] at next'
        exact .inr ⟨_, (lowered.either k).resolve_left (next'.trans_lt higher).ne⟩
  refine ⟨fun m => ((leLow m).trans (lowLe m)).trans (lowered.below m), ?_,
    fun m t isLow => (both _ m t isLow rfl).1,
    fun m t k isLow => closed m (both _ m t isLow rfl).2 k⟩
  intro m
  by_cases reaches : Reaches next low s a m
  · right
    rw [reached m reaches]
    induction reaches with
    | refl =>
      rcases lowered.either a with same | before
      · have source := @Lowers.source ι α _ near lower level sources a
        rw [← same] at source
        exact source
      · exact .again before
    | @tail b c _ step ih =>
      exact .spread ih ((isNext b c).mpr step.1)
        (step.2.trans_le ((lowLe c).trans (lowered.below c)))
  · rw [stays m reaches]
    exact (lowered.either m).imp_right .later

end Sources

end OpenRoad.Lib
