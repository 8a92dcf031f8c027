import OpenRoad.Lib.Chain

/-! Intrusive doubly linked lists over a pool of nodes: every node names its neighbours and the
list it is on. -/

namespace OpenRoad.Lib

open List

/-- From `head` on, `next` visits exactly `ids`, and `prev` leads back. -/
def Linked (next prev : Nat → Nat) : Nat → Nat → List Nat → Prop
  | _, head, [] => head = 0
  | before, head, id :: rest =>
    head = id ∧ id ≠ 0 ∧ prev id = before ∧ Linked next prev id (next id) rest

section Linked

variable {next prev next' prev' : Nat → Nat} {before head : Nat} {ids : List Nat}

lemma linked_chain (linked : Linked next prev before head ids) : Chain next head ids := by
  induction ids generalizing before head with
  | nil => exact linked
  | cons id rest ih =>
    rcases linked with ⟨first, nonzero, _, later⟩
    exact ⟨first, nonzero, ih later⟩

lemma linked_congr (nexts : ∀ id ∈ ids, next' id = next id) (prevs : ∀ id ∈ ids, prev' id = prev id)
    (linked : Linked next prev before head ids) : Linked next' prev' before head ids := by
  induction ids generalizing before head with
  | nil => exact linked
  | cons id rest ih =>
    rcases linked with ⟨first, nonzero, back, later⟩
    have tail : Linked next' prev' id (next id) rest :=
      ih (fun other member => nexts other (mem_cons_of_mem id member))
        (fun other member => prevs other (mem_cons_of_mem id member)) later
    have same := nexts id mem_cons_self
    exact ⟨first, nonzero, (prevs id mem_cons_self).trans back, same ▸ tail⟩

lemma linked_before (instead : Nat) (nexts : ∀ id ∈ ids, next' id = next id)
    (prevs : ∀ id ∈ ids, prev' id = if id = head then instead else prev id)
    (linked : Linked next prev before head ids) : Linked next' prev' instead head ids := by
  cases ids with
  | nil => exact linked
  | cons id rest =>
    have nodup := chain_nodup (linked_chain linked)
    rcases linked with ⟨rfl, nonzero, _, later⟩
    have first := prevs head mem_cons_self
    rw [if_pos rfl] at first
    refine ⟨rfl, nonzero, first, ?_⟩
    rw [nexts head mem_cons_self]
    apply linked_congr _ _ later
    · intro other member
      exact nexts other (mem_cons_of_mem head member)
    · intro other member
      have different : other ≠ head := fun same =>
        (nodup_cons.mp nodup).1 (same ▸ member)
      rw [prevs other (mem_cons_of_mem head member), if_neg different]

lemma linked_prev (front back : List Nat) (id : Nat)
    (linked : Linked next prev before head (front ++ id :: back)) :
    front = [] ∧ prev id = before ∨ prev id ∈ front := by
  induction front generalizing before head with
  | nil => exact .inl ⟨rfl, linked.2.2.1⟩
  | cons first front ih =>
    apply Or.inr
    rcases ih linked.2.2.2 with ⟨_, same⟩ | member
    · rw [same]
      exact mem_cons_self
    · exact mem_cons_of_mem first member

lemma linked_remove (front back : List Nat) (id : Nat)
    (linked : Linked next prev before head (front ++ id :: back)) (apart : before ∉ front ++ back)
    (nexts : ∀ other ∈ front ++ back, next' other = if other = prev id then next id else next other)
    (prevs : ∀ other ∈ front ++ back,
      prev' other = if other = next id then prev id else prev other) :
    Linked next' prev' before (if head = id then next id else head) (front ++ back) := by
  have nodup := chain_nodup (linked_chain linked)
  induction front generalizing before head with
  | nil =>
    rcases linked with ⟨rfl, _, back, later⟩
    rw [if_pos rfl]
    apply linked_before before _ _ later
    · intro other member
      rw [nexts other member, back, if_neg]
      exact fun same => apart (same ▸ member)
    · intro other member
      rw [prevs other member, back]
  | cons first front ih =>
    rcases linked with ⟨rfl, nonzero, firstBack, later⟩
    rcases nodup_cons.mp nodup with ⟨absent, nodupRest⟩
    have notId : head ≠ id := fun same => absent (by simp [same])
    have notFollowing : head ≠ next id := by
      intro same
      have tail := linked_chain later
      have following := (chain_suffix front back id tail).2.2
      rcases Nat.eq_zero_or_pos (next id) with zero | positive
      · exact nonzero (same.trans zero)
      · have member := chain_head_mem following (Nat.ne_of_gt positive)
        exact absent (by simp [same, member])
    have inRest : head ∉ front ++ back := by
      intro member
      apply absent
      rcases mem_append.mp member with inFront | inBack
      · exact mem_append_left _ inFront
      · exact mem_append_right _ (mem_cons_of_mem id inBack)
    have tail := ih later inRest
      (fun other member => nexts other (mem_cons_of_mem head member))
      (fun other member => prevs other (mem_cons_of_mem head member)) nodupRest
    rw [if_neg notId]
    refine ⟨rfl, nonzero, ?_, ?_⟩
    · rw [prevs head mem_cons_self, if_neg notFollowing, firstBack]
    · have same : next' head = if next head = id then next id else next head := by
        rw [nexts head mem_cons_self]
        rcases linked_prev front back id later with ⟨rfl, isFirst⟩ | member
        · rw [if_pos isFirst.symm, if_pos later.1]
        · have different : head ≠ prev id := fun same =>
            inRest (mem_append_left back (same ▸ member))
          rw [if_neg different, if_neg]
          intro follows
          cases front with
          | nil => cases member
          | cons second front =>
            have again : second = id := later.1.symm.trans follows
            exact (nodup_cons.mp nodupRest).1 (by simp [again])
      rw [same]
      exact tail

end Linked

/-- A node is on the list that it names as its owner; `0` is no list and no node. -/
structure Threads where
  next : Nat → Nat
  prev : Nat → Nat
  owner : Nat → Nat
  head : Nat → Nat

namespace Threads

variable {t t' : Threads} {id list : Nat}

def Threaded (t : Threads) : Prop :=
  ∀ list, list ≠ 0 → ∃ ids, Linked t.next t.prev 0 (t.head list) ids ∧
    ∀ id, id ∈ ids ↔ t.owner id = list

section

variable (threaded : t.Threaded)
include threaded

lemma head_owner (isList : list ≠ 0) (nonempty : t.head list ≠ 0) :
    t.owner (t.head list) = list := by
  rcases threaded list isList with ⟨ids, linked, members⟩
  exact (members _).mp (chain_head_mem (linked_chain linked) nonempty)

lemma owned_nonzero (owned : t.owner id ≠ 0) : id ≠ 0 := by
  rcases threaded (t.owner id) owned with ⟨ids, linked, members⟩
  exact chain_nonzero (linked_chain linked) id ((members id).mpr rfl)

lemma next_owner (owned : t.owner id ≠ 0) (inner : t.next id ≠ 0) :
    t.owner (t.next id) = t.owner id := by
  rcases threaded (t.owner id) owned with ⟨ids, linked, members⟩
  have member := (members id).mpr rfl
  rcases append_of_mem member with ⟨front, back, split⟩
  have following := (chain_suffix front back id (split ▸ linked_chain linked)).2.2
  have inBack := chain_head_mem following inner
  exact (members _).mp (by rw [split]; simp [inBack])

lemma prev_owner (owned : t.owner id ≠ 0) (inner : t.prev id ≠ 0) :
    t.owner (t.prev id) = t.owner id := by
  rcases threaded (t.owner id) owned with ⟨ids, linked, members⟩
  have member := (members id).mpr rfl
  rcases append_of_mem member with ⟨front, back, split⟩
  rcases linked_prev front back id (split ▸ linked) with ⟨_, first⟩ | inFront
  · exact absurd first inner
  · exact (members _).mp (by rw [split]; simp [inFront])

lemma head_iff (owned : t.owner id ≠ 0) :
    t.head (t.owner id) = id ↔ t.prev id = 0 := by
  rcases threaded (t.owner id) owned with ⟨ids, linked, members⟩
  have member := (members id).mpr rfl
  rcases append_of_mem member with ⟨front, back, split⟩
  subst split
  cases front with
  | nil => exact ⟨fun _ => linked.2.2.1, fun _ => linked.1⟩
  | cons first front =>
    have nodup := chain_nodup (linked_chain linked)
    constructor
    · intro isHead
      have same : first = id := linked.1.symm.trans isHead
      exact absurd (by simp [same]) (nodup_cons.mp nodup).1
    · intro zero
      rcases linked_prev _ back id linked with ⟨empty, _⟩ | inFront
      · cases empty
      · have nonzero := chain_nonzero (linked_chain linked) _ (mem_append_left _ inFront)
        exact absurd zero nonzero

lemma threaded_congr (owners : ∀ x, t'.owner x = t.owner x)
    (heads : ∀ l, l ≠ 0 → t'.head l = t.head l)
    (nexts : ∀ x, t.owner x ≠ 0 → t'.next x = t.next x)
    (prevs : ∀ x, t.owner x ≠ 0 → t'.prev x = t.prev x) : t'.Threaded := by
  intro l isList
  rcases threaded l isList with ⟨ids, linked, members⟩
  refine ⟨ids, ?_, fun x => (members x).trans (by rw [owners x])⟩
  rw [heads l isList]
  apply linked_congr _ _ linked
  · intro x member
    exact nexts x (by rw [(members x).mp member]; exact isList)
  · intro x member
    exact prevs x (by rw [(members x).mp member]; exact isList)

lemma threaded_push (isNode : id ≠ 0) (free : t.owner id = 0) (isList : list ≠ 0)
    (owners : ∀ x, t'.owner x = if x = id then list else t.owner x)
    (heads : ∀ l, l ≠ 0 → t'.head l = if l = list then id else t.head l)
    (nexts : ∀ x, x = id ∨ t.owner x ≠ 0 → t'.next x = if x = id then t.head list else t.next x)
    (prevs : ∀ x, x = id ∨ t.owner x ≠ 0 →
      t'.prev x = if x = id then 0 else if x = t.head list then id else t.prev x) :
    t'.Threaded := by
  intro l isOther
  rcases threaded l isOther with ⟨ids, linked, members⟩
  have absent : id ∉ ids := by
    intro member
    exact isOther ((members id).mp member ▸ free)
  have owned : ∀ x ∈ ids, t.owner x ≠ 0 := fun x member => by
    rw [(members x).mp member]
    exact isOther
  have different : ∀ x ∈ ids, x ≠ id := fun x member same => absent (same ▸ member)
  have oldNext : ∀ x ∈ ids, t'.next x = t.next x := fun x member => by
    rw [nexts x (.inr (owned x member)), if_neg (different x member)]
  by_cases same : l = list
  · subst same
    refine ⟨id :: ids, ?_, ?_⟩
    · rw [heads l isOther, if_pos rfl]
      refine ⟨rfl, isNode, ?_, ?_⟩
      · rw [prevs id (.inl rfl), if_pos rfl]
      · rw [nexts id (.inl rfl), if_pos rfl]
        apply linked_before id oldNext _ linked
        intro x member
        rw [prevs x (.inr (owned x member)), if_neg (different x member)]
    · intro x
      rw [mem_cons, members x, owners x]
      by_cases isId : x = id
      · simp [isId]
      · simp [isId]
  · refine ⟨ids, ?_, ?_⟩
    · rw [heads l isOther, if_neg same]
      apply linked_congr oldNext _ linked
      intro x member
      rw [prevs x (.inr (owned x member)), if_neg (different x member), if_neg]
      intro isHead
      have nonzero : t.head list ≠ 0 := isHead ▸ chain_nonzero (linked_chain linked) x member
      have owner := head_owner threaded isList nonzero
      rw [← isHead, (members x).mp member] at owner
      exact same owner
    · intro x
      rw [members x, owners x]
      by_cases isId : x = id
      · simp [isId, free, Ne.symm isOther, Ne.symm same]
      · simp [isId]

lemma threaded_remove (owned : t.owner id ≠ 0)
    (owners : ∀ x, t'.owner x = if x = id then 0 else t.owner x)
    (heads : ∀ l, l ≠ 0 → t'.head l = if t.head l = id then t.next id else t.head l)
    (nexts : ∀ x, x ≠ id → t.owner x ≠ 0 →
      t'.next x = if x = t.prev id then t.next id else t.next x)
    (prevs : ∀ x, x ≠ id → t.owner x ≠ 0 →
      t'.prev x = if x = t.next id then t.prev id else t.prev x) : t'.Threaded := by
  have isNode := owned_nonzero threaded owned
  intro l isList
  rcases threaded l isList with ⟨ids, linked, members⟩
  have inList : ∀ x ∈ ids, t.owner x ≠ 0 := fun x member => by
    rw [(members x).mp member]
    exact isList
  by_cases same : t.owner id = l
  · have member := (members id).mpr same
    rcases append_of_mem member with ⟨front, back, split⟩
    subst split
    have nodup := chain_nodup (linked_chain linked)
    have absent : id ∉ front ++ back := (nodup_middle.mp nodup |> nodup_cons.mp).1
    have inside : ∀ x ∈ front ++ back, x ∈ front ++ id :: back := by
      intro x
      simp only [mem_append, mem_cons]
      tauto
    have different : ∀ x ∈ front ++ back, x ≠ id := fun x inside same => absent (same ▸ inside)
    refine ⟨front ++ back, ?_, ?_⟩
    · rw [heads l isList]
      apply linked_remove front back id linked
      · intro zero
        exact chain_nonzero (linked_chain linked) 0 (inside 0 zero) rfl
      · intro x member
        exact nexts x (different x member) (inList x (inside x member))
      · intro x member
        exact prevs x (different x member) (inList x (inside x member))
    · intro x
      rw [owners x]
      by_cases isId : x = id
      · rw [if_pos isId, isId]
        exact iff_of_false absent (Ne.symm isList)
      · rw [if_neg isId, ← members x]
        simp only [mem_append, mem_cons]
        tauto
  · have different : ∀ x ∈ ids, x ≠ id := fun x member isId =>
      same (isId ▸ (members x).mp member)
    refine ⟨ids, ?_, ?_⟩
    · rw [heads l isList, if_neg]
      · apply linked_congr _ _ linked
        · intro x member
          rw [nexts x (different x member) (inList x member), if_neg]
          intro isPrev
          have owner := prev_owner threaded owned
            (isPrev ▸ chain_nonzero (linked_chain linked) x member)
          rw [← isPrev, (members x).mp member] at owner
          exact same owner.symm
        · intro x member
          rw [prevs x (different x member) (inList x member), if_neg]
          intro isNext
          have owner := next_owner threaded owned
            (isNext ▸ chain_nonzero (linked_chain linked) x member)
          rw [← isNext, (members x).mp member] at owner
          exact same owner.symm
      · intro isHead
        apply same
        rw [← isHead]
        exact head_owner threaded isList (isHead ▸ isNode)
    · intro x
      rw [members x, owners x]
      by_cases isId : x = id
      · simp [isId, same, Ne.symm isList]
      · simp [isId]

end

end Threads

end OpenRoad.Lib
