import OpenRoad.Odb.TableInvariant

/-! Runs of a table: the representation invariant, the enumeration of the live identifiers and
the undo law. -/

namespace OpenRoad.Odb.DbTable

open OpenRoad.Lib List Option Store

variable {shift : Nat} {α : Type}

/-- The calls on a table; `assign` stands for the writes of an object's own methods. -/
inductive Call (α : Type) where
  | create (object : α)
  | destroy (id : Nat)
  | assign (id : Nat) (object : α)

inductive Done where
  | created (id : Nat)
  | destroyed (id : Nat)
  | assigned (id : Nat)
  deriving DecidableEq

def call (t : DbTable shift α) : Call α → Option (DbTable shift α × Done)
  | .create object => (t.create object).map fun (id, t') => (t', .created id)
  | .destroy id => (t.destroy id).map fun t' => (t', .destroyed id)
  | .assign id object => (t.assign id object).map fun t' => (t', .assigned id)

def run (t : DbTable shift α) : List (Call α) → Option (DbTable shift α × List Done)
  | [] => some (t, [])
  | first :: rest => do
    let (t₁, done) ← t.call first
    let (t₂, trace) ← t₁.run rest
    some (t₂, done :: trace)

/-- Undo calls given latest first; returns the identifiers of the re-creations. -/
def undo (t : DbTable shift α) : List (Done × α) → Option (DbTable shift α × List Nat)
  | [] => some (t, [])
  | (.created id, _) :: rest => do
    let t₁ ← t.destroy id
    t₁.undo rest
  | (.destroyed _, object) :: rest => do
    let (id, t₁) ← t.create object
    let (t₂, ids) ← t₁.undo rest
    some (t₂, id :: ids)
  | (.assigned _, _) :: rest => t.undo rest

def Done.freed : Done → Option Nat
  | .destroyed id => some id
  | _ => none

def storeCall (shift : Nat) (s : Store α) : Call α → Option (Store α × Done)
  | .create object => (s.create (2 ^ shift) object).map fun (id, s') => (s', .created id)
  | .destroy id => (s.destroy id).map fun s' => (s', .destroyed id)
  | .assign id object => (s.replace id object).map fun s' => (s', .assigned id)

lemma call_represents (positive : 1 ≤ shift) (t t' : DbTable shift α) (s : Store α)
    (represents : Represents t s) (step : Call α) (done : Done)
    (called : t.call step = some (t', done)) :
    ∃ s', storeCall shift s step = some (s', done) ∧ Represents t' s' := by
  cases step with
  | create object =>
    obtain ⟨id, next, s', run, store, related⟩ :=
      create_represents positive object t s represents
    rw [call, run, map_some, Option.some.injEq, Prod.mk.injEq] at called
    obtain ⟨rfl, rfl⟩ := called
    exact ⟨s', by rw [storeCall, store, map_some], related⟩
  | destroy id =>
    rw [call, map_eq_some_iff] at called
    obtain ⟨next, run, same⟩ := called
    rw [Prod.mk.injEq] at same
    obtain ⟨rfl, rfl⟩ := same
    have live : (s.objs id).isSome := (destroy_isSome_iff id t s represents).mp (by rw [run]; rfl)
    obtain ⟨t₁, run', related⟩ := destroy_represents id t s _ represents (if_pos live)
    obtain rfl := Option.some.inj (run.symm.trans run')
    exact ⟨_, by rw [storeCall, Store.destroy, if_pos live, map_some], related⟩
  | assign id object =>
    rw [call, map_eq_some_iff] at called
    obtain ⟨next, run, same⟩ := called
    rw [Prod.mk.injEq] at same
    obtain ⟨rfl, rfl⟩ := same
    have live : (s.objs id).isSome := by
      unfold assign at run
      split at run
      · rename_i valid
        exact (validId_iff represents.toCounted id).mp valid
      · cases run
    obtain ⟨t₁, run', related⟩ := assign_represents id object t s _ represents (if_pos live)
    obtain rfl := Option.some.inj (run.symm.trans run')
    exact ⟨_, by rw [storeCall, Store.replace, if_pos live, map_some], related⟩

lemma run_represents (positive : 1 ≤ shift) (calls : List (Call α)) (t t' : DbTable shift α)
    (s : Store α) (represents : Represents t s) (trace : List Done)
    (ran : t.run calls = some (t', trace)) : ∃ s', Represents t' s' := by
  induction calls generalizing t s trace with
  | nil =>
    simp only [run, Option.some.injEq, Prod.mk.injEq] at ran
    exact ⟨s, ran.1 ▸ represents⟩
  | cons first rest ih =>
    simp only [run, bind_eq_bind, bind_eq_some_iff, Prod.exists] at ran
    obtain ⟨t₁, done, called, t₂, trace', ran', same⟩ := ran
    simp only [Option.some.injEq, Prod.mk.injEq] at same
    obtain ⟨rfl, rfl⟩ := same
    obtain ⟨s₁, _, related⟩ := call_represents positive t t₁ s represents first done called
    exact ih t₁ s₁ related trace' ran'

def Reachable (t : DbTable shift α) : Prop :=
  ∃ calls trace, (empty : DbTable shift α).run calls = some (t, trace)

lemma reachable_represents (positive : 1 ≤ shift) {t : DbTable shift α} (reached : Reachable t) :
    ∃ s, Represents t s := by
  obtain ⟨calls, trace, ran⟩ := reached
  exact run_represents positive calls _ t _ represents_empty trace ran

variable {t : DbTable shift α} {s : Store α}

lemma nextPage_spec (counted : Counted t s) (pageId : Nat) :
    (nextPage shift pageId (t.pages.drop pageId) = 0 ∧
        ∀ id ∈ liveIds shift s, id / 2 ^ shift < pageId) ∨
      (nextPage shift pageId (t.pages.drop pageId) ∈ liveIds shift s ∧
        pageId ≤ nextPage shift pageId (t.pages.drop pageId) / 2 ^ shift ∧
        ∀ id ∈ liveIds shift s, pageId ≤ id / 2 ^ shift →
          nextPage shift pageId (t.pages.drop pageId) ≤ id) := by
  generalize hlength : t.pages.length - pageId = remaining
  induction remaining generalizing pageId with
  | zero =>
    left
    rw [drop_of_length_le (by omega)]
    exact ⟨rfl, fun id live => Nat.lt_of_lt_of_le (page_of_live counted id live) (by omega)⟩
  | succ remaining ih =>
    have inside : pageId < t.pages.length := by omega
    have present : t.pages[pageId]? = some t.pages[pageId] := getElem?_eq_getElem inside
    rw [drop_eq_getElem_cons inside]
    unfold nextPage
    have following := ih (pageId + 1) (by omega)
    have skip : (∀ id ∈ liveIds shift s, id / 2 ^ shift ≠ pageId) →
        (nextPage shift (pageId + 1) (t.pages.drop (pageId + 1)) = 0 ∧
          ∀ id ∈ liveIds shift s, id / 2 ^ shift < pageId) ∨
        (nextPage shift (pageId + 1) (t.pages.drop (pageId + 1)) ∈ liveIds shift s ∧
          pageId ≤ nextPage shift (pageId + 1) (t.pages.drop (pageId + 1)) / 2 ^ shift ∧
          ∀ id ∈ liveIds shift s, pageId ≤ id / 2 ^ shift →
            nextPage shift (pageId + 1) (t.pages.drop (pageId + 1)) ≤ id) := by
      intro none
      rcases following with ⟨zero, before⟩ | ⟨member, page, least⟩
      · refine .inl ⟨zero, fun id live => ?_⟩
        have := before id live
        have := none id live
        omega
      · refine .inr ⟨member, by omega, fun id live above => least id live ?_⟩
        have := none id live
        omega
    by_cases valid : (t.pages[pageId]).validPage = true
    · rw [if_pos valid]
      cases scanned : scanUp (t.pages[pageId]).allocated 0 (2 ^ shift) with
      | none =>
        apply skip
        intro id live same
        have small := Nat.mod_lt id (Nat.two_pow_pos shift)
        have missed := scanUp_eq_none scanned (id % 2 ^ shift) (by omega) (by omega)
        have hit := (allocated_iff counted _ _ present _ small).mpr
          (by rw [← same, split_id]; exact live)
        rw [missed] at hit
        cases hit
      | some found =>
        obtain ⟨_, high, hit, before⟩ := scanUp_eq_some scanned
        have foundSmall : found < 2 ^ shift := by omega
        right
        simp only [shiftLeft_add_mem]
        refine ⟨(allocated_iff counted _ _ present found foundSmall).mp hit,
          by rw [page_div _ _ foundSmall], ?_⟩
        intro id live above
        rw [← split_id shift id]
        by_cases same : id / 2 ^ shift = pageId
        · rw [same]
          by_contra lower
          have small := Nat.mod_lt id (Nat.two_pow_pos shift)
          have missed := before (id % 2 ^ shift) (by omega) (by omega)
          have idHit := (allocated_iff counted _ _ present _ small).mpr
            (by rw [← same, split_id]; exact live)
          rw [missed] at idHit
          cases idHit
        · have later : (pageId + 1) * 2 ^ shift ≤ id / 2 ^ shift * 2 ^ shift :=
            Nat.mul_le_mul_right _ (by omega)
          rw [Nat.succ_mul] at later
          omega
    · rw [if_neg valid]
      apply skip
      intro id live same
      exact valid ((validPage_iff counted _ _ present).mpr ⟨id, live, same⟩)

lemma next_spec (represents : Represents t s) (id : Nat) (live : id ∈ liveIds shift s) :
    ∃ after, t.next id = some after ∧ ((after = 0 ∧ ∀ other ∈ liveIds shift s, other ≤ id) ∨
        (after ∈ liveIds shift s ∧ id < after ∧
          ∀ other ∈ liveIds shift s, id < other → after ≤ other)) := by
  have counted := represents.toCounted
  unfold next
  by_cases last : id + 1 > t.topIdx
  · rw [if_pos last]
    refine ⟨0, rfl, .inl ⟨rfl, fun other member => ?_⟩⟩
    have := (represents.bounds.between other member).2
    omega
  · rw [if_neg last]
    have top := represents.bounds.top_mem ⟨id, live⟩
    have inside : (id + 1) / 2 ^ shift < t.pages.length := by
      apply Nat.lt_of_le_of_lt _ (page_of_live counted t.topIdx top)
      exact Nat.div_le_div_right (by omega)
    have present : t.pages[(id + 1) / 2 ^ shift]? = some t.pages[(id + 1) / 2 ^ shift] :=
      getElem?_eq_getElem inside
    have small := Nat.mod_lt (id + 1) (Nat.two_pow_pos shift)
    simp only [shiftRight_page, and_kPageMask, present, bind_eq_bind, bind_some]
    have offset : ∀ other, id < other → other / 2 ^ shift = (id + 1) / 2 ^ shift →
        (id + 1) % 2 ^ shift ≤ other % 2 ^ shift := by
      intro other above same
      have first := split_id shift other
      have second := split_id shift (id + 1)
      rw [same] at first
      omega
    cases scanned : scanUp (t.pages[(id + 1) / 2 ^ shift]).allocated ((id + 1) % 2 ^ shift)
        (2 ^ shift - (id + 1) % 2 ^ shift) with
    | some found =>
      obtain ⟨low, high, hit, before⟩ := scanUp_eq_some scanned
      have foundSmall : found < 2 ^ shift := by omega
      have start := split_id shift (id + 1)
      refine ⟨_, rfl, .inr ?_⟩
      simp only [shiftLeft_add_mem]
      refine ⟨(allocated_iff counted _ _ present found foundSmall).mp hit, by omega, ?_⟩
      intro other member above
      rw [← split_id shift other]
      by_cases same : other / 2 ^ shift = (id + 1) / 2 ^ shift
      · rw [same]
        by_contra lower
        have otherSmall := Nat.mod_lt other (Nat.two_pow_pos shift)
        have missed := before (other % 2 ^ shift) (offset other above same) (by omega)
        have otherHit := (allocated_iff counted _ _ present _ otherSmall).mpr
          (by rw [← same, split_id]; exact member)
        rw [missed] at otherHit
        cases otherHit
      · have page : (id + 1) / 2 ^ shift ≤ other / 2 ^ shift := Nat.div_le_div_right above
        have later : ((id + 1) / 2 ^ shift + 1) * 2 ^ shift ≤ other / 2 ^ shift * 2 ^ shift :=
          Nat.mul_le_mul_right _ (by omega)
        rw [Nat.succ_mul] at later
        omega
    | none =>
      have notHere : ∀ other ∈ liveIds shift s, id < other →
          (id + 1) / 2 ^ shift + 1 ≤ other / 2 ^ shift := by
        intro other member above
        have page : (id + 1) / 2 ^ shift ≤ other / 2 ^ shift := Nat.div_le_div_right above
        by_contra notLater
        have same : other / 2 ^ shift = (id + 1) / 2 ^ shift := by omega
        have otherSmall := Nat.mod_lt other (Nat.two_pow_pos shift)
        have missed := scanUp_eq_none scanned (other % 2 ^ shift) (offset other above same)
          (by omega)
        have hit := (allocated_iff counted _ _ present _ otherSmall).mpr
          (by rw [← same, split_id]; exact member)
        rw [missed] at hit
        cases hit
      refine ⟨_, rfl, ?_⟩
      rcases nextPage_spec counted ((id + 1) / 2 ^ shift + 1) with
        ⟨zero, before⟩ | ⟨member, page, least⟩
      · refine .inl ⟨zero, fun other otherLive => ?_⟩
        by_contra above
        have := before other otherLive
        have := notHere other otherLive (by omega)
        omega
      · refine .inr ⟨member, ?_, fun other otherLive above =>
          least other otherLive (notHere other otherLive above)⟩
        by_contra notAbove
        have : nextPage shift ((id + 1) / 2 ^ shift + 1)
            (t.pages.drop ((id + 1) / 2 ^ shift + 1)) / 2 ^ shift ≤ (id + 1) / 2 ^ shift :=
          Nat.div_le_div_right (by omega)
        omega

lemma iterate_spec (represents : Represents t s) (fuel id : Nat) (live : id ∈ liveIds shift s)
    (enough : t.topIdx < fuel + id) :
    ∃ ids, t.iterate fuel id = some ids ∧ ids.Pairwise (· < ·) ∧
      ∀ other, other ∈ ids ↔ other ∈ liveIds shift s ∧ id ≤ other := by
  have nonzero : id ≠ 0 :=
    (represents.wf.live_range id ((mem_liveIds represents.wf id).mp live)).1
  induction fuel generalizing id with
  | zero =>
    have := (represents.bounds.between id live).2
    omega
  | succ fuel ih =>
    obtain ⟨after, step, cases⟩ := next_spec represents id live
    rw [iterate, if_neg nonzero, step]
    simp only [bind_eq_bind, bind_some]
    rcases cases with ⟨rfl, last⟩ | ⟨member, above, least⟩
    · refine ⟨[id], ?_, pairwise_singleton _ _, ?_⟩
      · cases fuel <;> simp [iterate]
      · intro other
        rw [mem_singleton]
        constructor
        · rintro rfl
          exact ⟨live, Nat.le_refl _⟩
        · rintro ⟨otherLive, le⟩
          exact Nat.le_antisymm (last other otherLive) le
    · obtain ⟨ids, rest, sorted, visits⟩ := ih after member (by omega)
        (represents.wf.live_range after ((mem_liveIds represents.wf after).mp member)).1
      refine ⟨id :: ids, by rw [rest, bind_some], pairwise_cons.mpr ⟨?_, sorted⟩, ?_⟩
      · intro other inRest
        have := ((visits other).mp inRest).2
        omega
      · intro other
        rw [mem_cons, visits]
        constructor
        · rintro (rfl | ⟨otherLive, le⟩)
          · exact ⟨live, Nat.le_refl _⟩
          · exact ⟨otherLive, by omega⟩
        · rintro ⟨otherLive, le⟩
          by_cases same : other = id
          · exact .inl same
          · exact .inr ⟨otherLive, least other otherLive (by omega)⟩

def valid (t : DbTable shift α) : Finset Nat :=
  (Finset.range (t.pageCnt * 2 ^ shift)).filter fun id => t.validId id = true

lemma valid_eq (counted : Counted t s) :
    t.valid = liveIds shift s := by
  ext id
  rw [valid, Finset.mem_filter, validId_iff counted, Finset.mem_range, counted.pages,
    liveIds, Finset.mem_filter, Finset.mem_range]

/-- The free list holds the unused identifiers, and iteration visits the live ones in ascending
order. -/
theorem table_invariant (positive : 1 ≤ shift) (t : DbTable shift α) (reached : Reachable t) :
    (∃ free, Chain t.nextFree t.freeList free ∧ free.Nodup ∧
      ∀ id, id ∈ free ↔ id ≠ 0 ∧ id < t.pageCnt * 2 ^ shift ∧ ¬ t.validId id = true) ∧
    (∀ id, id ∈ t.valid ↔ t.validId id = true) ∧
    t.allocCnt = t.valid.card ∧
    (∀ i page, t.pages[i]? = some page → page.allocCnt = (t.valid.filter (· >>> shift = i)).card) ∧
    Bounds t.valid t.bottomIdx t.topIdx ∧
    (¬ t.validId 0 = true ∧ ∀ object, ∃ id t', t.create object = some (id, t') ∧ id ≠ 0 ∧
      ¬ t.validId id = true ∧ t'.validId id = true) ∧
    (∀ id, t.validId id = true → (t.destroy id).isSome) ∧
    ∃ ids, t.iterate (t.topIdx + 1) t.begin = some ids ∧ ids.Pairwise (· < ·) ∧
      ∀ id, id ∈ ids ↔ t.validId id = true := by
  obtain ⟨s, represents⟩ := reachable_represents positive reached
  have counted := represents.toCounted
  have member : ∀ id, id ∈ t.valid ↔ t.validId id = true := by
    intro id
    rw [valid_eq counted, mem_liveIds counted.wf, validId_iff counted]
  refine ⟨⟨s.free, counted.list.chain, chain_nodup counted.list.chain, ?_⟩, member, ?_, ?_, ?_,
    ⟨?_, ?_⟩, ?_, ?_⟩
  · intro id
    rw [validId_iff counted, not_isSome_iff_eq_none, counted.pages]
    exact counted.wf.mem_free id
  · rw [valid_eq counted]
    exact counted.alloc
  · intro i page present
    rw [valid_eq counted]
    simp only [shiftRight_page]
    exact counted.pageAlloc i (page.pageAddr, page.allocCnt, page.objects.length)
      (by simp [headers, present])
  · rw [valid_eq counted]
    exact represents.bounds
  · rw [validId_iff counted]
    intro live
    exact (counted.wf.live_range 0 live).1 rfl
  · intro object
    obtain ⟨id, t', s', run, created, related⟩ := create_represents positive object t s represents
    have fresh := create_fresh counted.wf created
    refine ⟨id, t', run, fresh.1, ?_, ?_⟩
    · rw [validId_iff counted, fresh.2.2]
      simp
    · obtain ⟨rest, _, rfl⟩ := create_cases created
      rw [validId_iff related.toCounted]
      simp
  · intro id live
    exact (destroy_isSome_iff id t s represents).mpr ((validId_iff counted id).mp live)
  · rcases (liveIds shift s).eq_empty_or_nonempty with none | inhabited
    · refine ⟨[], ?_, List.Pairwise.nil, ?_⟩
      · simp [iterate, begin, (represents.bounds.empty none).1]
      · intro id
        rw [← member, valid_eq counted, none]
        simp
    · obtain ⟨ids, run, sorted, visits⟩ := iterate_spec represents (t.topIdx + 1) t.bottomIdx
        (represents.bounds.bottom_mem inhabited) (by omega)
      refine ⟨ids, run, sorted, ?_⟩
      intro id
      rw [visits, ← member, valid_eq counted]
      exact ⟨fun both => both.1, fun live => ⟨live, (represents.bounds.between id live).1⟩⟩

def sampleCalls : List (Call Nat) :=
  [.create 10, .create 11, .create 12, .create 13, .create 14, .destroy 1, .destroy 5]

def sampleTable : DbTable 2 Nat :=
  ⟨4, 2, 2, 2, 3, 5, [⟨0, 2, [.free 0 0, .free 6 5, .live 11, .live 12]⟩,
     ⟨4, 1, [.live 13, .free 1 0, .free 7 1, .free 0 6]⟩]⟩

lemma sampleTable_run : (empty : DbTable 2 Nat).run sampleCalls =
    some (sampleTable, [.created 1, .created 2, .created 3, .created 4, .created 5,
      .destroyed 1, .destroyed 5]) := by
  decide

theorem table_invariant_sample :
    Reachable sampleTable ∧ Bounds sampleTable.valid sampleTable.bottomIdx sampleTable.topIdx :=
  have reached : Reachable sampleTable := ⟨sampleCalls, _, sampleTable_run⟩
  ⟨reached, (table_invariant (by decide) sampleTable reached).2.2.2.2.1⟩

lemma undo_append (t t' : DbTable shift α) (front back : List (Done × α)) (ids : List Nat)
    (first : t.undo front = some (t', ids)) :
    t.undo (front ++ back) = (t'.undo back).map fun (t'', more) => (t'', ids ++ more) := by
  induction front generalizing t ids with
  | nil =>
    simp only [undo, Option.some.injEq, Prod.mk.injEq] at first
    rcases first with ⟨rfl, rfl⟩
    simp
  | cons entry rest ih =>
    rcases entry with ⟨done, object⟩
    cases done with
    | created id =>
      simp only [undo, bind_eq_bind, bind_eq_some_iff] at first
      rcases first with ⟨t₁, step, more⟩
      simp only [cons_append, undo, step, bind_eq_bind, bind_some]
      exact ih t₁ ids more
    | destroyed id =>
      simp only [undo, bind_eq_bind, bind_eq_some_iff, Prod.exists] at first
      rcases first with ⟨id', t₁, step, t₂, ids', more, same⟩
      simp only [Option.some.injEq, Prod.mk.injEq] at same
      rcases same with ⟨rfl, rfl⟩
      simp only [cons_append, undo, step, bind_eq_bind, bind_some,
        ih t₁ ids' more]
      cases t₂.undo back <;> simp
    | assigned id => exact ih t ids first

lemma undo_call (positive : 1 ≤ shift) (object : α) (t₂ : DbTable shift α)
    (s s₁ s₂ : Store α) (wf : s.WellFormed (2 ^ shift)) (step : Call α) (done : Done)
    (called : storeCall shift s step = some (s₁, done)) (represents : Represents t₂ s₂)
    (ext : Store.Extends s₁ s₂) :
    ∃ t₃ s₃, t₂.undo [(done, object)] = some (t₃, [done].filterMap Done.freed) ∧
      Represents t₃ s₃ ∧ Store.Extends s s₃ := by
  cases step with
  | create created =>
    rw [storeCall, map_eq_some_iff] at called
    rcases called with ⟨⟨id, next⟩, run, same⟩
    simp only [Prod.mk.injEq] at same
    rcases same with ⟨rfl, rfl⟩
    rcases undo_create wf run ext with ⟨s₃, destroyed, ext'⟩
    rcases destroy_represents id t₂ s₂ s₃ represents destroyed with ⟨t₃, run', related⟩
    exact ⟨t₃, s₃, by simp [undo, run', Done.freed], related, ext'⟩
  | destroy id =>
    rw [storeCall, map_eq_some_iff] at called
    rcases called with ⟨next, run, same⟩
    simp only [Prod.mk.injEq] at same
    rcases same with ⟨rfl, rfl⟩
    rcases @undo_destroy α (2 ^ shift) object _ _ _ _ run ext with ⟨s₃, created, ext'⟩
    rcases create_represents positive object t₂ s₂ represents with
      ⟨id', t₃, s₃', run', created', related⟩
    have sameId := created.symm.trans created'
    simp only [Option.some.injEq, Prod.mk.injEq] at sameId
    rcases sameId with ⟨rfl, rfl⟩
    exact ⟨t₃, s₃, by simp [undo, run', Done.freed], related, ext'⟩
  | assign id written =>
    rw [storeCall, map_eq_some_iff] at called
    rcases called with ⟨next, run, same⟩
    simp only [Prod.mk.injEq] at same
    rcases same with ⟨rfl, rfl⟩
    exact ⟨t₂, s₂, by simp [undo, Done.freed], represents,
      extends_trans (extends_replace run) ext⟩

lemma undo_run (positive : 1 ≤ shift) (calls : List (Call α)) (t t' : DbTable shift α)
    (s : Store α) (represents : Represents t s) (trace : List Done)
    (ran : t.run calls = some (t', trace)) :
    ∃ s' : Store α, Represents t' s' ∧ ∀ (t₂ : DbTable shift α) (s₂ : Store α), Represents t₂ s₂ → Store.Extends s' s₂ →
      ∀ undone : List (Done × α), undone.map Prod.fst = trace.reverse →
        ∃ t₃ s₃, t₂.undo undone = some (t₃, trace.reverse.filterMap Done.freed) ∧
          Represents t₃ s₃ ∧ Store.Extends s s₃ := by
  induction calls generalizing t s trace with
  | nil =>
    simp only [run, Option.some.injEq, Prod.mk.injEq] at ran
    rcases ran with ⟨rfl, rfl⟩
    refine ⟨s, represents, ?_⟩
    intro t₂ s₂ represents₂ ext undone reversed
    rw [reverse_nil, map_eq_nil_iff] at reversed
    subst reversed
    exact ⟨t₂, s₂, rfl, represents₂, ext⟩
  | cons step rest ih =>
    simp only [run, bind_eq_bind, bind_eq_some_iff, Prod.exists] at ran
    rcases ran with ⟨t₁, done, called, t', more, ranRest, same⟩
    simp only [Option.some.injEq, Prod.mk.injEq] at same
    rcases same with ⟨rfl, rfl⟩
    rcases call_represents positive t t₁ s represents step done called with ⟨s₁, stored, represents₁⟩
    rcases ih t₁ s₁ represents₁ more ranRest with ⟨s', represents', undoRest⟩
    refine ⟨s', represents', ?_⟩
    intro t₂ s₂ represents₂ ext undone reversed
    rw [reverse_cons, map_eq_append_iff] at reversed
    rcases reversed with ⟨front, back, rfl, hfront, hback⟩
    rcases map_eq_singleton_iff.mp hback with ⟨⟨done', object⟩, rfl, rfl⟩
    rcases undoRest t₂ s₂ represents₂ ext front hfront with ⟨t₃, s₃, first, represents₃, ext₃⟩
    rcases undo_call positive object t₃ s s₁ s₃ represents.toCounted.wf step _ stored
      represents₃ ext₃ with ⟨t₄, s₄, last, represents₄, ext₄⟩
    refine ⟨t₄, s₄, ?_, represents₄, ext₄⟩
    rw [undo_append t₂ t₃ front _ _ first, last, reverse_cons, filterMap_append]
    rfl

/-- Undoing a run latest call first re-creates every freed identifier and restores the set of
live identifiers. -/
theorem undo_restores (positive : 1 ≤ shift) (t t' : DbTable shift α) (reached : Reachable t)
    (calls : List (Call α)) (trace : List Done) (ran : t.run calls = some (t', trace))
    (undone : List (Done × α)) (reversed : undone.map Prod.fst = trace.reverse) :
    ∃ t'', t'.undo undone = some (t'', trace.reverse.filterMap Done.freed) ∧
      ∀ id, t''.validId id = t.validId id := by
  rcases reachable_represents positive reached with ⟨s, represents⟩
  rcases undo_run positive calls t t' s represents trace ran with ⟨s', represents', undoAll⟩
  rcases undoAll t' s' represents' (extends_refl s') undone reversed with
    ⟨t'', s'', undo, represents'', ext⟩
  refine ⟨t'', undo, ?_⟩
  intro id
  rw [Bool.eq_iff_iff, validId_iff represents''.toCounted, validId_iff represents.toCounted,
    ext.live]

/-- From `sampleTable`, eight calls that allocate a third page. -/
def growingCalls : List (Call Nat) :=
  [.create 20, .create 21, .destroy 3, .create 22, .create 23, .create 24, .create 25, .destroy 4]

def growingTrace : List Done :=
  [.created 5, .created 1, .destroyed 3, .created 3, .created 6, .created 7, .created 8,
    .destroyed 4]

theorem undo_restores_sample : ∃ t'', (sampleTable.run growingCalls).bind (fun ran =>
        ran.1.undo (growingTrace.reverse.map fun done => (done, 0))) = some (t'', [4, 3]) ∧
      ∀ id, t''.validId id = sampleTable.validId id := by
  have ran : (sampleTable.run growingCalls).map Prod.snd = some growingTrace := by decide
  rcases Option.map_eq_some_iff.mp ran with ⟨⟨t', trace⟩, run, rfl⟩
  rcases undo_restores (by decide) sampleTable t' ⟨sampleCalls, _, sampleTable_run⟩ growingCalls
    growingTrace run (growingTrace.reverse.map fun done => (done, 0)) (by decide) with
    ⟨t'', undone, same⟩
  refine ⟨t'', ?_, same⟩
  rw [run]
  exact undone

end OpenRoad.Odb.DbTable
