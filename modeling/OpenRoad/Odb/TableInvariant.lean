import OpenRoad.Odb.TableFreeList

/-! The table refines a last-in-first-out store; with it go the allocation counts and the
smallest and largest live identifiers. -/

namespace OpenRoad.Odb.DbTable

open OpenRoad.Lib Function Option Finset Store

variable {shift : Nat} {α : Type}

def liveIds (shift : Nat) (s : Store α) : Finset Nat :=
  (Finset.range (s.pages * 2 ^ shift)).filter fun id => (s.objs id).isSome

/-- `bottom` and `top` are the extremes of `live`, and `0` when it is empty. -/
structure Bounds (live : Finset Nat) (bottom top : Nat) : Prop where
  empty : live = ∅ → bottom = 0 ∧ top = 0
  bottom_mem : live.Nonempty → bottom ∈ live
  top_mem : live.Nonempty → top ∈ live
  between : ∀ id ∈ live, bottom ≤ id ∧ id ≤ top

/-- What does not depend on the extremes. `pageAlloc` is what `valid_page` relies on. -/
structure Counted (t : DbTable shift α) (s : Store α) : Prop where
  shaped : Shaped t
  pages : t.pageCnt = s.pages
  content : t.content = s.objs
  list : FreeChain t s.free
  wf : s.WellFormed (2 ^ shift)
  alloc : t.allocCnt = (liveIds shift s).card
  pageAlloc : ∀ i h, t.headers[i]? = some h →
    h.2.1 = ((liveIds shift s).filter (· / 2 ^ shift = i)).card

structure Represents (t : DbTable shift α) (s : Store α) : Prop extends Counted t s where
  bounds : Bounds (liveIds shift s) t.bottomIdx t.topIdx

lemma mem_liveIds {s : Store α} (wf : s.WellFormed (2 ^ shift)) (id : Nat) :
    id ∈ liveIds shift s ↔ (s.objs id).isSome := by
  simp only [liveIds, mem_filter, mem_range, and_iff_right_iff_imp]
  exact fun live => (wf.live_range id live).2

lemma represents_empty : Represents (empty : DbTable shift α) (Store.empty : Store α) where
  shaped := ⟨rfl, by intro i h present; simp [empty, headers] at present, Nat.le_refl _⟩
  pages := rfl
  content := by
    funext id
    simp [content, slot?, empty, Store.empty]
  list := ⟨rfl, by intro id member; cases member⟩
  wf := wellFormed_empty _
  alloc := by simp [empty, liveIds, Store.empty]
  pageAlloc := by intro i h present; simp [empty, headers] at present
  bounds := by
    have none : liveIds shift (Store.empty : Store α) = ∅ := by simp [liveIds, Store.empty]
    rw [none]
    exact ⟨fun _ => ⟨rfl, rfl⟩, by simp, by simp, by simp⟩

variable {t : DbTable shift α} {s : Store α}

lemma live_iff (counted : Counted t s) (id : Nat) :
    (t.content id).isSome ↔ id ∈ liveIds shift s := by
  rw [mem_liveIds counted.wf, counted.content]

lemma validId_iff (counted : Counted t s) (id : Nat) :
    t.validId id = true ↔ (s.objs id).isSome := by
  rw [← counted.content]
  by_cases zero : id = 0
  · have dead : s.objs id = none := by
      rw [← not_isSome_iff_eq_none]
      intro live
      exact (counted.wf.live_range id live).1 zero
    simp [validId, getPtr, zero, counted.content, zero ▸ dead]
  · simp only [validId, getPtr, zero, if_false, DbTable.content]
    cases t.slot? id with
    | none => simp
    | some slot => cases slot <;> simp [Slot.object?]

@[simp] lemma bumpPage_content (t : DbTable shift α) (id : Nat) (count : Nat → Nat) :
    (t.bumpPage id count).content = t.content := by
  funext other
  simp only [content, slot?, bumpPage, List.getElem?_modify]
  congr 1
  cases t.pages[other >>> shift]? with
  | none => rfl
  | some page => by_cases here : id >>> shift = other >>> shift <;> simp [here]

@[simp] lemma bumpPage_slot? (t : DbTable shift α) (id other : Nat) (count : Nat → Nat) :
    (t.bumpPage id count).slot? other = t.slot? other := by
  simp only [slot?, bumpPage, List.getElem?_modify]
  cases t.pages[other >>> shift]? with
  | none => rfl
  | some page => by_cases here : id >>> shift = other >>> shift <;> simp [here]

lemma bumpPage_headers (t : DbTable shift α) (id : Nat) (count : Nat → Nat) :
    (t.bumpPage id count).headers =
      t.headers.modify (id / 2 ^ shift) (fun h => (h.1, count h.2.1, h.2.2)) := by
  apply List.ext_getElem?
  intro i
  simp only [headers, bumpPage, shiftRight_page, List.getElem?_map, List.getElem?_modify]
  cases t.pages[i]? with
  | none => rfl
  | some page => by_cases here : id / 2 ^ shift = i <;> simp [here]

lemma bumpPage_shaped (t : DbTable shift α) (id : Nat) (count : Nat → Nat)
    (shaped : Shaped t) : Shaped (t.bumpPage id count) := by
  refine ⟨?_, ?_, shaped.table⟩
  · rw [bumpPage_headers, List.length_modify]
    exact shaped.count
  · intro i h present
    rw [bumpPage_headers, List.getElem?_modify] at present
    cases old : t.headers[i]? with
    | none => simp [old] at present
    | some header =>
      have known := shaped.header i header old
      rw [old] at present
      by_cases here : id / 2 ^ shift = i
      · simp only [here, if_true, map_eq_map, map_some, Option.some.injEq] at present
        subst present
        exact known
      · simp only [here, if_false, map_eq_map, map_some, Option.some.injEq] at present
        subst present
        exact known

lemma freeChain_bumpPage {t : DbTable shift α} {ids : List Nat} (list : FreeChain t ids)
    (id : Nat) (count : Nat → Nat) : FreeChain (t.bumpPage id count) ids := by
  have same : (t.bumpPage id count).nextFree = t.nextFree := by
    funext other
    simp [nextFree]
  exact ⟨by rw [same]; exact list.chain, by simpa using list.free⟩

lemma pageAlloc_insert {old : Finset Nat} {headers : List (Nat × Nat × Nat)} (id : Nat)
    (absent : id ∉ old)
    (known : ∀ i h, headers[i]? = some h → h.2.1 = (old.filter (· / 2 ^ shift = i)).card) :
    ∀ i h, (headers.modify (id / 2 ^ shift) (fun h => (h.1, h.2.1 + 1, h.2.2)))[i]? = some h →
      h.2.1 = ((insert id old).filter (· / 2 ^ shift = i)).card := by
  intro i h present
  rw [List.getElem?_modify] at present
  cases before : headers[i]? with
  | none => simp [before] at present
  | some header =>
    have count := known i header before
    rw [before] at present
    rw [filter_insert]
    by_cases here : id / 2 ^ shift = i
    · simp only [here, if_true, map_eq_map, map_some, Option.some.injEq] at present
      subst present
      rw [if_pos here, card_insert_of_notMem (by simp [absent]), count]
    · simp only [here, if_false, map_eq_map, map_some, Option.some.injEq] at present
      subst present
      rw [if_neg here, count]

lemma pageAlloc_erase {old : Finset Nat} {headers : List (Nat × Nat × Nat)} (id : Nat)
    (member : id ∈ old)
    (known : ∀ i h, headers[i]? = some h → h.2.1 = (old.filter (· / 2 ^ shift = i)).card) :
    ∀ i h, (headers.modify (id / 2 ^ shift) (fun h => (h.1, h.2.1 - 1, h.2.2)))[i]? = some h →
      h.2.1 = ((old.erase id).filter (· / 2 ^ shift = i)).card := by
  intro i h present
  rw [List.getElem?_modify] at present
  cases before : headers[i]? with
  | none => simp [before] at present
  | some header =>
    have count := known i header before
    rw [before] at present
    rw [filter_erase]
    by_cases here : id / 2 ^ shift = i
    · simp only [here, if_true, map_eq_map, map_some, Option.some.injEq] at present
      subst present
      rw [card_erase_of_mem (by simp [member, here]), count]
    · simp only [here, if_false, map_eq_map, map_some, Option.some.injEq] at present
      subst present
      rw [erase_eq_of_notMem (by simp [here]), count]

lemma liveIds_create {object : α} {s s' : Store α} {id : Nat} (wf : s.WellFormed (2 ^ shift))
    (created : s.create (2 ^ shift) object = some (id, s')) :
    liveIds shift s' = insert id (liveIds shift s) ∧ id ∉ liveIds shift s := by
  have fresh := create_fresh wf created
  have wf' := create_wellFormed wf created
  obtain ⟨rest, _, rfl⟩ := create_cases created
  constructor
  · ext other
    rw [mem_liveIds wf', mem_insert, mem_liveIds wf]
    by_cases same : other = id <;> simp [same]
  · rw [mem_liveIds wf, fresh.2.2]
    simp

lemma liveIds_destroy {s s' : Store α} {id : Nat} (wf : s.WellFormed (2 ^ shift))
    (destroyed : s.destroy id = some s') :
    liveIds shift s' = (liveIds shift s).erase id ∧ id ∈ liveIds shift s := by
  have wf' := destroy_wellFormed wf destroyed
  obtain ⟨live, rfl⟩ := destroy_cases destroyed
  constructor
  · ext other
    rw [mem_liveIds wf', mem_erase, mem_liveIds wf]
    by_cases same : other = id <;> simp [same]
  · rw [mem_liveIds wf]
    exact live

lemma bounds_insert {live : Finset Nat} {bottom top : Nat} (bounds : Bounds live bottom top)
    (id : Nat) (nonzero : id ≠ 0) (noZero : 0 ∉ live) :
    Bounds (insert id live) (if bottom = 0 ∨ id < bottom then id else bottom) (max id top) := by
  rcases live.eq_empty_or_nonempty with rfl | inhabited
  · obtain ⟨rfl, rfl⟩ := bounds.empty rfl
    simp only [true_or, if_true, insert_empty_eq, Nat.max_zero]
    exact ⟨by simp, by simp, by simp, by simp⟩
  · have low := bounds.bottom_mem inhabited
    have high := bounds.top_mem inhabited
    have positive : bottom ≠ 0 := by
      rintro rfl
      exact noZero low
    refine ⟨by simp, ?_, ?_, ?_⟩
    · intro _
      by_cases lower : id < bottom <;> simp [positive, lower, low]
    · intro _
      rcases Nat.le_total id top with le | le
      · rw [Nat.max_eq_right le]
        exact mem_insert_of_mem high
      · rw [Nat.max_eq_left le]
        exact mem_insert_self _ _
    · intro other member
      rw [mem_insert] at member
      have known := bounds.between other
      have top_low := bounds.between top high
      rcases member with rfl | member
      · split <;> omega
      · have := known member
        split <;> omega

lemma ready_spec (t : DbTable shift α) (s : Store α) (represents : Represents t s) :
    ∃ ready, (if t.freeList = 0 then ({ t with allocCnt := t.allocCnt + 1 } :
          DbTable shift α).newPage else some { t with allocCnt := t.allocCnt + 1 }) = some ready ∧
      Shaped ready ∧ FreeChain ready (s.grow (2 ^ shift)).free ∧ ready.content = s.objs ∧
      ready.pageCnt = (s.grow (2 ^ shift)).pages ∧ ready.allocCnt = t.allocCnt + 1 ∧
      ready.topIdx = t.topIdx ∧ ready.bottomIdx = t.bottomIdx ∧
      ∀ i h, ready.headers[i]? = some h →
        h.2.1 = ((liveIds shift s).filter (· / 2 ^ shift = i)).card := by
  have exhausted := chain_head_zero_iff represents.list.chain
  by_cases zero : t.freeList = 0
  · have none := exhausted.mp zero
    have shaped : Shaped ({ t with allocCnt := t.allocCnt + 1 } : DbTable shift α) :=
      ⟨represents.shaped.count, represents.shaped.header, represents.shaped.table⟩
    obtain ⟨ready, run, list, frame, content, readyShaped⟩ := newPage_spec _ shaped zero
    simp only [DbTable.frame, Prod.mk.injEq] at frame
    obtain ⟨⟨top, bottom, pages, _, alloc⟩, headers⟩ := frame
    refine ⟨ready, by rw [if_pos zero]; exact run, readyShaped, ?_, ?_, ?_, alloc, top, bottom, ?_⟩
    · simpa [Store.grow, none, ← represents.pages] using list
    · rw [content]
      exact represents.content
    · rw [pages]
      simp [Store.grow, none, ← represents.pages]
    · intro i h present
      rw [headers] at present
      change (t.headers ++ _)[i]? = some h at present
      by_cases old : i < t.headers.length
      · rw [List.getElem?_append_left old] at present
        exact represents.pageAlloc i h present
      · -- the new page has no live identifier yet
        rw [List.getElem?_append_right (Nat.le_of_not_lt old)] at present
        have last : i - t.headers.length = 0 := by
          by_contra later
          rw [List.getElem?_eq_none (by simp; omega)] at present
          cases present
        rw [last] at present
        obtain rfl := Option.some.inj present
        symm
        rw [card_eq_zero, filter_eq_empty_iff]
        intro id member inPage
        have range := (represents.wf.live_range id ((mem_liveIds represents.wf id).mp member)).2
        rw [← Nat.div_lt_iff_lt_mul (Nat.two_pow_pos shift), ← represents.pages,
          ← represents.shaped.count] at range
        omega
  · have more : s.free ≠ [] := fun none => zero (exhausted.mpr none)
    have same : s.grow (2 ^ shift) = s := by simp [Store.grow, more]
    rw [same, if_neg zero]
    exact ⟨_, rfl, ⟨represents.shaped.count, represents.shaped.header, represents.shaped.table⟩,
      ⟨represents.list.chain, represents.list.free⟩, represents.content, represents.pages, rfl, rfl, rfl, represents.pageAlloc⟩

lemma create_represents (positive : 1 ≤ shift) (object : α) (t : DbTable shift α)
    (s : Store α) (represents : Represents t s) :
    ∃ id t' s', t.create object = some (id, t') ∧
      s.create (2 ^ shift) object = some (id, s') ∧ Represents t' s' := by
  have two : 2 ≤ 2 ^ shift := by
    calc 2 = 2 ^ 1 := rfl
      _ ≤ 2 ^ shift := Nat.pow_le_pow_right (by omega) positive
  obtain ⟨id, s', created⟩ := create_isSome object s two
  have fresh := create_fresh represents.wf created
  have wf' := create_wellFormed represents.wf created
  have live := liveIds_create represents.wf created
  obtain ⟨rest, hfree, rfl⟩ := create_cases created
  obtain ⟨ready, run, shaped, list, content, pages, alloc, top, bottom, pageAlloc⟩ :=
    ready_spec t s represents
  rw [hfree] at list
  obtain ⟨popped, pop, poppedList, poppedFrame, poppedContent, _⟩ := popQ_spec ready id rest list
  have poppedShaped := shaped_of_frame poppedFrame shaped
  simp only [DbTable.frame, Prod.mk.injEq] at poppedFrame
  obtain ⟨⟨pTop, pBottom, pPages, _, pAlloc⟩, pHeaders⟩ := poppedFrame
  have present : (popped.slot? id).isSome := by
    rw [slot?_isSome_iff popped poppedShaped, pPages, pages]
    exact fresh.2.1
  have absent : id ∉ rest := by
    have nodup := chain_nodup list.chain
    exact (List.nodup_cons.mp nodup).1
  let placed := (popped.setSlot id (.live object)).bumpPage id (· + 1)
  have sameFrame := setSlot_frame popped id (.live object)
  have placedShaped : Shaped placed :=
    bumpPage_shaped _ _ _ (shaped_of_frame sameFrame poppedShaped)
  simp only [DbTable.frame, Prod.mk.injEq] at sameFrame
  obtain ⟨⟨sTop, sBottom, sPages, _, sAlloc⟩, sHeaders⟩ := sameFrame
  let t' : DbTable shift α := { placed with
    topIdx := max id placed.topIdx
    bottomIdx := if placed.bottomIdx = 0 ∨ id < placed.bottomIdx then id else placed.bottomIdx }
  have placedList : FreeChain placed rest := by
    have ne : ∀ other ∈ rest, other ≠ id := fun other member same => absent (same ▸ member)
    apply freeChain_bumpPage
    refine ⟨chain_congr ?_ poppedList.chain, ?_⟩
    · intro other member
      simp [nextFree, slot?_setSlot _ _ _ _ present, ne other member]
    · intro other member
      rw [slot?_setSlot _ _ _ _ present, if_neg (ne other member)]
      exact poppedList.free other member
  have noZero : 0 ∉ liveIds shift s := by
    rw [mem_liveIds represents.wf]
    intro zeroLive
    exact (represents.wf.live_range 0 zeroLive).1 rfl
  refine ⟨id, t', _, ?_, created, ?_⟩
  · simp only [create, run, bind_eq_bind, bind_some, pop]
    rfl
  · refine ⟨⟨⟨placedShaped.count, placedShaped.header, placedShaped.table⟩,
      ?_, ?_, ?_, wf', ?_, ?_⟩, ?_⟩
    · show (popped.setSlot id (.live object)).pageCnt = _
      rw [sPages, pPages, pages]
    · show placed.content = _
      rw [bumpPage_content, content_setSlot _ _ _ present, poppedContent, content]
      rfl
    · exact ⟨placedList.chain, placedList.free⟩
    · show (popped.setSlot id (.live object)).allocCnt = _
      rw [sAlloc, pAlloc, alloc, represents.alloc, live.1, card_insert_of_notMem live.2]
    · show ∀ i h, placed.headers[i]? = some h → _
      rw [live.1, bumpPage_headers, sHeaders, pHeaders]
      exact pageAlloc_insert id live.2 pageAlloc
    · show Bounds _ (if placed.bottomIdx = 0 ∨ id < placed.bottomIdx then id else placed.bottomIdx)
        (max id placed.topIdx)
      have topSame : placed.topIdx = t.topIdx := by
        show (popped.setSlot id (.live object)).topIdx = _
        rw [sTop, pTop, top]
      have bottomSame : placed.bottomIdx = t.bottomIdx := by
        show (popped.setSlot id (.live object)).bottomIdx = _
        rw [sBottom, pBottom, bottom]
      rw [live.1, topSame, bottomSame]
      exact bounds_insert represents.bounds id fresh.1 noZero

variable {p : Nat → Bool}

lemma scanUp_eq_some {start steps found : Nat} (scanned : scanUp p start steps = some found) :
    start ≤ found ∧ found < start + steps ∧ p found = true ∧
      ∀ k, start ≤ k → k < found → p k = false := by
  induction steps generalizing start with
  | zero => simp [scanUp] at scanned
  | succ steps ih =>
    unfold scanUp at scanned
    split at scanned
    · rename_i here
      obtain rfl := Option.some.inj scanned
      exact ⟨Nat.le_refl _, by omega, here, by omega⟩
    · rename_i here
      obtain ⟨low, high, hit, before⟩ := ih scanned
      refine ⟨by omega, by omega, hit, ?_⟩
      intro k above below
      by_cases first : k = start
      · subst first
        simpa using here
      · exact before k (by omega) below

lemma scanUp_eq_none {start steps : Nat} (scanned : scanUp p start steps = none) :
    ∀ k, start ≤ k → k < start + steps → p k = false := by
  induction steps generalizing start with
  | zero => omega
  | succ steps ih =>
    unfold scanUp at scanned
    split at scanned
    · cases scanned
    · rename_i here
      intro k above below
      by_cases first : k = start
      · subst first
        simpa using here
      · exact ih scanned k (by omega) (by omega)

lemma scanDown_eq_some {bound found : Nat} (scanned : scanDown p bound = some found) :
    found < bound ∧ p found = true ∧ ∀ k, found < k → k < bound → p k = false := by
  induction bound with
  | zero => simp [scanDown] at scanned
  | succ bound ih =>
    unfold scanDown at scanned
    split at scanned
    · rename_i here
      obtain rfl := Option.some.inj scanned
      exact ⟨by omega, here, by omega⟩
    · rename_i here
      obtain ⟨low, hit, after⟩ := ih scanned
      refine ⟨by omega, hit, ?_⟩
      intro k above below
      by_cases last : k = bound
      · subst last
        simpa using here
      · exact after k above (by omega)

lemma scanDown_eq_none {bound : Nat} (scanned : scanDown p bound = none) :
    ∀ k, k < bound → p k = false := by
  induction bound with
  | zero => omega
  | succ bound ih =>
    unfold scanDown at scanned
    split at scanned
    · cases scanned
    · rename_i here
      intro k below
      by_cases last : k = bound
      · subst last
        simpa using here
      · exact ih scanned k (by omega)

section

variable (counted : Counted t s)
include counted

lemma pages_length :
    t.pages.length = t.pageCnt := by
  rw [← counted.shaped.count, headers, List.length_map]

lemma allocated_iff (i : Nat) (page : DbTablePage α) (present : t.pages[i]? = some page)
    (offset : Nat) (small : offset < 2 ^ shift) :
    page.allocated offset = true ↔ i * 2 ^ shift + offset ∈ liveIds shift s := by
  rw [← live_iff counted, content, slot?_eq, page_div _ _ small, page_mod _ _ small, present,
    bind_some, DbTablePage.allocated]
  cases page.objects[offset]? with
  | none => simp
  | some slot => cases slot <;> simp [Slot.isLive, Slot.object?]

lemma validPage_iff (i : Nat) (page : DbTablePage α) (present : t.pages[i]? = some page) :
    page.validPage = true ↔ ∃ id ∈ liveIds shift s, id / 2 ^ shift = i := by
  have count : page.allocCnt = _ := counted.pageAlloc i
    (page.pageAddr, page.allocCnt, page.objects.length) (by simp [headers, present])
  rw [DbTablePage.validPage, decide_eq_true_eq, count, card_ne_zero]
  constructor
  · rintro ⟨id, member⟩
    exact ⟨id, mem_of_mem_filter id member, (Finset.mem_filter.mp member).2⟩
  · rintro ⟨id, member, inPage⟩
    exact ⟨id, Finset.mem_filter.mpr ⟨member, inPage⟩⟩

lemma page_of_live (id : Nat) (member : id ∈ liveIds shift s) :
    id / 2 ^ shift < t.pages.length := by
  have range := (counted.wf.live_range id ((mem_liveIds counted.wf id).mp member)).2
  rwa [pages_length counted, counted.pages, Nat.div_lt_iff_lt_mul (Nat.two_pow_pos shift)]

omit counted in
lemma shiftLeft_add_mem (i offset : Nat) : i <<< shift + offset = i * 2 ^ shift + offset := by
  rw [Nat.shiftLeft_eq]

omit counted in
lemma split_id (shift id : Nat) : id / 2 ^ shift * 2 ^ shift + id % 2 ^ shift = id := by
  rw [Nat.mul_comm, Nat.div_add_mod]

variable {i : Nat} {page : DbTablePage α}

lemma allocated_of_live {id : Nat} (present : t.pages[i]? = some page) (live : id ∈ liveIds shift s)
    (same : id / 2 ^ shift = i) : page.allocated (id % 2 ^ shift) = true :=
  (allocated_iff counted i page present _ (Nat.mod_lt id (Nat.two_pow_pos shift))).mpr
    (by rwa [← same, split_id])

lemma scanUp_page {low : Nat} (present : t.pages[i]? = some page) (inPage : low ≤ 2 ^ shift)
    (above : ∀ id ∈ liveIds shift s, i ≤ id / 2 ^ shift)
    (notBelow : ∀ id ∈ liveIds shift s, id / 2 ^ shift = i → low ≤ id % 2 ^ shift) :
    match scanUp page.allocated low (2 ^ shift - low) with
    | none => ∀ id ∈ liveIds shift s, i + 1 ≤ id / 2 ^ shift
    | some found => i * 2 ^ shift + found ∈ liveIds shift s ∧
      ∀ id ∈ liveIds shift s, i * 2 ^ shift + found ≤ id := by
  cases scanned : scanUp page.allocated low (2 ^ shift - low) with
  | none =>
    intro id live
    have page := above id live
    by_contra notLater
    have same : id / 2 ^ shift = i := by omega
    have small := Nat.mod_lt id (Nat.two_pow_pos shift)
    have missed := scanUp_eq_none scanned _ (notBelow id live same) (by omega)
    rw [allocated_of_live counted present live same] at missed
    cases missed
  | some found =>
    obtain ⟨_, high, hit, before⟩ := scanUp_eq_some scanned
    refine ⟨(allocated_iff counted i page present found (by omega)).mp hit, ?_⟩
    intro id live
    have page := above id live
    rw [← split_id shift id]
    by_cases same : id / 2 ^ shift = i
    · rw [same]
      by_contra lower
      have missed := before _ (notBelow id live same) (by omega)
      rw [allocated_of_live counted present live same] at missed
      cases missed
    · have later : (i + 1) * 2 ^ shift ≤ id / 2 ^ shift * 2 ^ shift :=
        Nat.mul_le_mul_right _ (by omega)
      rw [Nat.succ_mul] at later
      omega

lemma scanDown_page {high : Nat} (present : t.pages[i]? = some page) (inPage : high ≤ 2 ^ shift)
    (below : ∀ id ∈ liveIds shift s, id / 2 ^ shift ≤ i)
    (notAbove : ∀ id ∈ liveIds shift s, id / 2 ^ shift = i → id % 2 ^ shift < high) :
    match scanDown page.allocated high with
    | none => ∀ id ∈ liveIds shift s, id / 2 ^ shift < i
    | some found => i * 2 ^ shift + found ∈ liveIds shift s ∧
      ∀ id ∈ liveIds shift s, id ≤ i * 2 ^ shift + found := by
  cases scanned : scanDown page.allocated high with
  | none =>
    intro id live
    have page := below id live
    by_contra notEarlier
    have same : id / 2 ^ shift = i := by omega
    have missed := scanDown_eq_none scanned _ (notAbove id live same)
    rw [allocated_of_live counted present live same] at missed
    cases missed
  | some found =>
    obtain ⟨low, hit, after⟩ := scanDown_eq_some scanned
    refine ⟨(allocated_iff counted i page present found (by omega)).mp hit, ?_⟩
    intro id live
    have page := below id live
    have small := Nat.mod_lt id (Nat.two_pow_pos shift)
    rw [← split_id shift id]
    by_cases same : id / 2 ^ shift = i
    · rw [same]
      by_contra higher
      have missed := after _ (by omega) (notAbove id live same)
      rw [allocated_of_live counted present live same] at missed
      cases missed
    · have earlier : (id / 2 ^ shift + 1) * 2 ^ shift ≤ i * 2 ^ shift :=
        Nat.mul_le_mul_right _ (by omega)
      rw [Nat.succ_mul] at earlier
      omega

lemma notIn_invalid (present : t.pages[i]? = some page) (invalid : ¬ page.validPage = true) :
    ∀ id ∈ liveIds shift s, id / 2 ^ shift ≠ i :=
  fun id live same => invalid ((validPage_iff counted i page present).mpr ⟨id, live, same⟩)

lemma bottomPage_spec (pageId : Nat) (inhabited : (liveIds shift s).Nonempty)
    (above : ∀ id ∈ liveIds shift s, pageId ≤ id / 2 ^ shift) :
    ∃ bottom, bottomPage shift pageId (t.pages.drop pageId) = some bottom ∧
      bottom ∈ liveIds shift s ∧ ∀ id ∈ liveIds shift s, bottom ≤ id := by
  obtain ⟨witness, member⟩ := inhabited
  have inside : pageId < t.pages.length :=
    Nat.lt_of_le_of_lt (above witness member) (page_of_live counted witness member)
  generalize hlength : t.pages.length - pageId = remaining
  induction remaining generalizing pageId with
  | zero => omega
  | succ remaining ih =>
    have present : t.pages[pageId]? = some t.pages[pageId] := List.getElem?_eq_getElem inside
    rw [List.drop_eq_getElem_cons inside, bottomPage]
    by_cases valid : (t.pages[pageId]).validPage = true
    · rw [if_pos valid]
      obtain ⟨id, live, inPage⟩ := (validPage_iff counted pageId _ present).mp valid
      have here := scanUp_page counted present (Nat.zero_le _) above fun _ _ _ => Nat.zero_le _
      rw [Nat.sub_zero] at here
      cases scanned : scanUp (t.pages[pageId]).allocated 0 (2 ^ shift) with
      | none =>
        rw [scanned] at here
        have later := here id live
        omega
      | some found =>
        rw [scanned] at here
        exact ⟨_, by rw [map_some, shiftLeft_add_mem], here⟩
    · rw [if_neg valid]
      have next : ∀ id ∈ liveIds shift s, pageId + 1 ≤ id / 2 ^ shift := by
        intro id live
        have page := above id live
        have ne := notIn_invalid counted present valid id live
        omega
      exact ih (pageId + 1) next
        (Nat.lt_of_le_of_lt (next witness member) (page_of_live counted witness member))
        (by omega)

lemma topPage_spec (bound : Nat) (inside : bound ≤ t.pages.length)
    (inhabited : (liveIds shift s).Nonempty)
    (below : ∀ id ∈ liveIds shift s, id / 2 ^ shift < bound) :
    ∃ top, t.topPage bound = some top ∧ top ∈ liveIds shift s ∧
      ∀ id ∈ liveIds shift s, id ≤ top := by
  obtain ⟨witness, member⟩ := inhabited
  induction bound with
  | zero => exact absurd (below witness member) (Nat.not_lt_zero _)
  | succ pageId ih =>
    have present : t.pages[pageId]? = some t.pages[pageId] := List.getElem?_eq_getElem inside
    rw [topPage, present]
    simp only
    by_cases valid : (t.pages[pageId]).validPage = true
    · rw [if_pos valid]
      obtain ⟨id, live, inPage⟩ := (validPage_iff counted pageId _ present).mp valid
      have here := scanDown_page counted present (Nat.le_refl _)
        (fun id live => Nat.le_of_lt_succ (below id live))
        fun id _ _ => Nat.mod_lt id (Nat.two_pow_pos shift)
      cases scanned : scanDown (t.pages[pageId]).allocated (2 ^ shift) with
      | none =>
        rw [scanned] at here
        have earlier := here id live
        omega
      | some found =>
        rw [scanned] at here
        exact ⟨_, by rw [map_some, shiftLeft_add_mem], here⟩
    · rw [if_neg valid]
      have previous : ∀ id ∈ liveIds shift s, id / 2 ^ shift < pageId := by
        intro id live
        have page := below id live
        have ne := notIn_invalid counted present valid id live
        omega
      exact ih (by omega) previous

lemma findBottom_spec (inside : t.bottomIdx / 2 ^ shift < t.pages.length)
    (above : ∀ id ∈ liveIds shift s, t.bottomIdx < id) :
    ∃ bottom, t.findBottom = some ({ t with bottomIdx := bottom } : DbTable shift α) ∧
      (liveIds shift s = ∅ → bottom = 0) ∧
      ((liveIds shift s).Nonempty → bottom ∈ liveIds shift s) ∧
      ∀ id ∈ liveIds shift s, bottom ≤ id := by
  have zeroIff : t.allocCnt = 0 ↔ liveIds shift s = ∅ := by
    rw [counted.alloc, card_eq_zero]
  by_cases none : t.allocCnt = 0
  · have empty := zeroIff.mp none
    exact ⟨0, by simp [findBottom, none], fun _ => rfl, by simp [empty], by simp [empty]⟩
  · have inhabited : (liveIds shift s).Nonempty :=
      Finset.nonempty_iff_ne_empty.mpr (fun empty => none (zeroIff.mpr empty))
    have present : t.pages[t.bottomIdx / 2 ^ shift]? = some t.pages[t.bottomIdx / 2 ^ shift] :=
      List.getElem?_eq_getElem inside
    have pageAbove : ∀ id ∈ liveIds shift s, t.bottomIdx / 2 ^ shift ≤ id / 2 ^ shift :=
      fun id live => Nat.div_le_div_right (Nat.le_of_lt (above id live))
    have notHere : ∀ id ∈ liveIds shift s, id / 2 ^ shift = t.bottomIdx / 2 ^ shift →
        t.bottomIdx % 2 ^ shift + 1 ≤ id % 2 ^ shift := by
      intro id live same
      have less := above id live
      rw [← split_id shift id, ← split_id shift t.bottomIdx, same] at less
      omega
    simp only [findBottom, none, if_false, shiftRight_page, and_kPageMask, present,
      bind_eq_bind, bind_some]
    have later : (∀ id ∈ liveIds shift s, t.bottomIdx / 2 ^ shift + 1 ≤ id / 2 ^ shift) →
        ∃ bottom, (bottomPage shift (t.bottomIdx / 2 ^ shift + 1)
            (t.pages.drop (t.bottomIdx / 2 ^ shift + 1))).bind
              (fun bottom => some ({ t with bottomIdx := bottom } : DbTable shift α)) =
            some ({ t with bottomIdx := bottom } : DbTable shift α) ∧
          (liveIds shift s = ∅ → bottom = 0) ∧
          ((liveIds shift s).Nonempty → bottom ∈ liveIds shift s) ∧
          ∀ id ∈ liveIds shift s, bottom ≤ id := by
      intro next
      obtain ⟨bottom, run, member, least⟩ := bottomPage_spec counted _ inhabited next
      exact ⟨bottom, by rw [run]; rfl, fun empty => absurd empty inhabited.ne_empty,
        fun _ => member, least⟩
    by_cases valid : (t.pages[t.bottomIdx / 2 ^ shift]).validPage = true
    · rw [if_pos valid]
      have here := scanUp_page counted present (Nat.mod_lt _ (Nat.two_pow_pos shift)) pageAbove
        notHere
      cases scanned : scanUp (t.pages[t.bottomIdx / 2 ^ shift]).allocated
          (t.bottomIdx % 2 ^ shift + 1) (2 ^ shift - (t.bottomIdx % 2 ^ shift + 1)) with
      | none =>
        rw [scanned] at here
        exact later here
      | some found =>
        rw [scanned] at here
        exact ⟨t.bottomIdx / 2 ^ shift * 2 ^ shift + found, by simp only [shiftLeft_add_mem],
          fun empty => absurd empty inhabited.ne_empty, fun _ => here.1, here.2⟩
    · rw [if_neg valid]
      apply later
      intro id live
      have page := pageAbove id live
      have ne := notIn_invalid counted present valid id live
      omega

lemma findTop_spec (inside : t.topIdx / 2 ^ shift < t.pages.length)
    (below : ∀ id ∈ liveIds shift s, id < t.topIdx) :
    ∃ top, t.findTop = some ({ t with topIdx := top } : DbTable shift α) ∧
      (liveIds shift s = ∅ → top = 0) ∧
      ((liveIds shift s).Nonempty → top ∈ liveIds shift s) ∧
      ∀ id ∈ liveIds shift s, id ≤ top := by
  have zeroIff : t.allocCnt = 0 ↔ liveIds shift s = ∅ := by
    rw [counted.alloc, card_eq_zero]
  by_cases none : t.allocCnt = 0
  · have empty := zeroIff.mp none
    exact ⟨0, by simp [findTop, none], fun _ => rfl, by simp [empty], by simp [empty]⟩
  · have inhabited : (liveIds shift s).Nonempty :=
      Finset.nonempty_iff_ne_empty.mpr (fun empty => none (zeroIff.mpr empty))
    have present : t.pages[t.topIdx / 2 ^ shift]? = some t.pages[t.topIdx / 2 ^ shift] :=
      List.getElem?_eq_getElem inside
    have pageBelow : ∀ id ∈ liveIds shift s, id / 2 ^ shift ≤ t.topIdx / 2 ^ shift :=
      fun id live => Nat.div_le_div_right (Nat.le_of_lt (below id live))
    have notHere : ∀ id ∈ liveIds shift s, id / 2 ^ shift = t.topIdx / 2 ^ shift →
        id % 2 ^ shift < t.topIdx % 2 ^ shift := by
      intro id live same
      have less := below id live
      rw [← split_id shift id, ← split_id shift t.topIdx, same] at less
      omega
    simp only [findTop, none, if_false, shiftRight_page, and_kPageMask, present,
      bind_eq_bind, bind_some]
    have earlier : (∀ id ∈ liveIds shift s, id / 2 ^ shift < t.topIdx / 2 ^ shift) →
        ∃ top, (t.topPage (t.topIdx / 2 ^ shift)).bind
              (fun top => some ({ t with topIdx := top } : DbTable shift α)) =
            some ({ t with topIdx := top } : DbTable shift α) ∧
          (liveIds shift s = ∅ → top = 0) ∧
          ((liveIds shift s).Nonempty → top ∈ liveIds shift s) ∧
          ∀ id ∈ liveIds shift s, id ≤ top := by
      intro previous
      obtain ⟨top, run, member, greatest⟩ :=
        topPage_spec counted _ (Nat.le_of_lt inside) inhabited previous
      exact ⟨top, by rw [run]; rfl, fun empty => absurd empty inhabited.ne_empty,
        fun _ => member, greatest⟩
    by_cases valid : (t.pages[t.topIdx / 2 ^ shift]).validPage = true
    · rw [if_pos valid]
      have here := scanDown_page counted present
        (Nat.le_of_lt (Nat.mod_lt t.topIdx (Nat.two_pow_pos shift))) pageBelow notHere
      cases scanned : scanDown (t.pages[t.topIdx / 2 ^ shift]).allocated (t.topIdx % 2 ^ shift) with
      | none =>
        rw [scanned] at here
        exact earlier here
      | some found =>
        rw [scanned] at here
        exact ⟨t.topIdx / 2 ^ shift * 2 ^ shift + found, by simp only [shiftLeft_add_mem],
          fun empty => absurd empty inhabited.ne_empty, fun _ => here.1, here.2⟩
    · rw [if_neg valid]
      apply earlier
      intro id live
      have page := pageBelow id live
      have ne := notIn_invalid counted present valid id live
      omega

end

lemma destroy_represents (id : Nat) (t : DbTable shift α) (s s' : Store α)
    (represents : Represents t s) (destroyed : s.destroy id = some s') :
    ∃ t', t.destroy id = some t' ∧ Represents t' s' := by
  have wf' := destroy_wellFormed represents.wf destroyed
  have live := liveIds_destroy represents.wf destroyed
  obtain ⟨isLive, rfl⟩ := destroy_cases destroyed
  have valid := (validId_iff represents.toCounted id).mpr isLive
  have range := represents.wf.live_range id isLive
  let counted : DbTable shift α :=
    ({ t with allocCnt := t.allocCnt - 1 } : DbTable shift α).bumpPage id (· - 1)
  have shaped : Shaped counted := bumpPage_shaped _ id (· - 1)
    (⟨represents.shaped.count, represents.shaped.header, represents.shaped.table⟩ :
      Shaped ({ t with allocCnt := t.allocCnt - 1 } : DbTable shift α))
  have list : FreeChain counted s.free := freeChain_bumpPage
    (⟨represents.list.chain, represents.list.free⟩ :
      FreeChain ({ t with allocCnt := t.allocCnt - 1 } : DbTable shift α) s.free) id (· - 1)
  have present : (counted.slot? id).isSome := by
    rw [slot?_isSome_iff counted shaped]
    show id < t.pageCnt * 2 ^ shift
    rw [represents.pages]
    exact range.2
  have absent : id ∉ s.free := by
    intro member
    have dead := ((represents.wf.mem_free id).mp member).2.2
    simp [dead] at isLive
  obtain ⟨pushed, push, pushedList, sameFrame, content⟩ :=
    pushQ_spec counted s.free list id present range.1 absent
  have pushedShaped := shaped_of_frame sameFrame shaped
  simp only [frame, Prod.mk.injEq] at sameFrame
  obtain ⟨⟨topSame, bottomSame, pagesSame, _, allocSame⟩, headersSame⟩ := sameFrame
  have pushedCounted : Counted pushed ⟨update s.objs id none, id :: s.free, s.pages⟩ := by
    refine ⟨pushedShaped, ?_, ?_, pushedList, wf', ?_, ?_⟩
    · rw [pagesSame]
      exact represents.pages
    · rw [content]
      show update (counted.content) id none = _
      rw [bumpPage_content]
      exact congrArg (fun objs => update objs id none) represents.content
    · rw [allocSame, live.1, card_erase_of_mem live.2, ← represents.alloc]
      rfl
    · rw [headersSame, bumpPage_headers, live.1]
      exact pageAlloc_erase id live.2 represents.pageAlloc
  have inside : ∀ index ∈ liveIds shift s, index / 2 ^ shift < pushed.pages.length := by
    intro index member
    rw [pages_length pushedCounted, pagesSame]
    have old := page_of_live represents.toCounted index member
    rw [pages_length represents.toCounted] at old
    exact old
  have bounds := represents.bounds
  rw [← show pushed.bottomIdx = t.bottomIdx from bottomSame,
    ← show pushed.topIdx = t.topIdx from topSame] at bounds
  have lowered : ∃ middle, (if id = pushed.bottomIdx then pushed.findBottom else some pushed) =
        some middle ∧ middle.topIdx = pushed.topIdx ∧
      Counted middle ⟨update s.objs id none, id :: s.free, s.pages⟩ ∧
      middle.pages = pushed.pages ∧
      (((liveIds shift s).erase id) = ∅ → middle.bottomIdx = 0) ∧
      (((liveIds shift s).erase id).Nonempty → middle.bottomIdx ∈ (liveIds shift s).erase id) ∧
      ∀ other ∈ (liveIds shift s).erase id, middle.bottomIdx ≤ other := by
    by_cases boundary : id = pushed.bottomIdx
    · obtain ⟨bottom, run, empty, member, least⟩ := findBottom_spec pushedCounted
        (inside _ (boundary ▸ live.2)) (by
          intro other otherLive
          rw [live.1, mem_erase] at otherLive
          have := (bounds.between other otherLive.2).1
          omega)
      rw [live.1] at empty member least
      rw [if_pos boundary]
      exact ⟨{ pushed with bottomIdx := bottom }, run, rfl, ⟨⟨pushedShaped.count,
        pushedShaped.header, pushedShaped.table⟩, pushedCounted.pages, pushedCounted.content,
        ⟨pushedList.chain, pushedList.free⟩, wf', pushedCounted.alloc, pushedCounted.pageAlloc⟩,
        rfl, empty, member, least⟩
    · rw [if_neg boundary]
      have stays : pushed.bottomIdx ∈ (liveIds shift s).erase id :=
        Finset.mem_erase.mpr ⟨fun same => boundary same.symm, bounds.bottom_mem ⟨id, live.2⟩⟩
      refine ⟨pushed, rfl, rfl, pushedCounted, rfl, ?_, fun _ => stays, ?_⟩
      · intro empty
        rw [empty] at stays
        cases stays
      · intro other member
        exact (bounds.between other (mem_of_mem_erase member)).1
  obtain ⟨middle, lower, topKept, middleCounted, samePages, bEmpty, bMem, bLeast⟩ := lowered
  have final : ∃ t', (if id = middle.topIdx then middle.findTop else some middle) = some t' ∧
      Represents t' ⟨update s.objs id none, id :: s.free, s.pages⟩ := by
    by_cases boundary : id = middle.topIdx
    · obtain ⟨top, run, empty, member, greatest⟩ := findTop_spec middleCounted
        (by rw [samePages]; exact inside _ (boundary ▸ live.2)) (by
          intro other otherLive
          rw [live.1, mem_erase] at otherLive
          have := (bounds.between other otherLive.2).2
          omega)
      rw [live.1] at empty member greatest
      rw [if_pos boundary]
      refine ⟨{ middle with topIdx := top }, run, ⟨⟨⟨middleCounted.shaped.count,
        middleCounted.shaped.header, middleCounted.shaped.table⟩, middleCounted.pages,
        middleCounted.content, ⟨middleCounted.list.chain, middleCounted.list.free⟩, wf',
        middleCounted.alloc, middleCounted.pageAlloc⟩, ?_⟩⟩
      rw [live.1]
      exact ⟨fun none => ⟨bEmpty none, empty none⟩, bMem, member,
        fun other otherLive => ⟨bLeast other otherLive, greatest other otherLive⟩⟩
    · rw [if_neg boundary]
      have stays : middle.topIdx ∈ (liveIds shift s).erase id := by
        rw [mem_erase]
        refine ⟨fun same => boundary same.symm, ?_⟩
        rw [topKept]
        exact bounds.top_mem ⟨id, live.2⟩
      refine ⟨middle, rfl, middleCounted, ?_⟩
      rw [live.1]
      refine ⟨?_, bMem, fun _ => stays, ?_⟩
      · intro empty
        rw [empty] at stays
        cases stays
      · intro other member
        refine ⟨bLeast other member, ?_⟩
        rw [topKept]
        exact (bounds.between other (mem_of_mem_erase member)).2
  obtain ⟨t', top, result⟩ := final
  refine ⟨t', ?_, result⟩
  simp only [DbTable.destroy, valid, if_true, bind_eq_bind]
  rw [show (({ t with allocCnt := t.allocCnt - 1 } : DbTable shift α).bumpPage id (· - 1)).pushQ id
    = some pushed from push, bind_some, lower, bind_some, top]

lemma destroy_isSome_iff (id : Nat) (t : DbTable shift α) (s : Store α)
    (represents : Represents t s) : (t.destroy id).isSome ↔ (s.objs id).isSome := by
  constructor
  · intro destroyed
    unfold DbTable.destroy at destroyed
    split at destroyed
    · rename_i valid
      exact (validId_iff represents.toCounted id).mp valid
    · cases destroyed
  · intro live
    obtain ⟨t', run, _⟩ := destroy_represents id t s _ represents (if_pos live)
    rw [run]
    rfl

lemma assign_represents (id : Nat) (object : α) (t : DbTable shift α) (s s' : Store α)
    (represents : Represents t s) (replaced : s.replace id object = some s') :
    ∃ t', t.assign id object = some t' ∧ Represents t' s' := by
  have wf' := replace_wellFormed represents.wf replaced
  unfold Store.replace at replaced
  split at replaced
  · rename_i isLive
    obtain rfl := Option.some.inj replaced
    have valid := (validId_iff represents.toCounted id).mpr isLive
    have range := represents.wf.live_range id isLive
    have present : (t.slot? id).isSome := by
      rw [slot?_isSome_iff t represents.shaped, represents.pages]
      exact range.2
    have absent : id ∉ s.free := by
      intro member
      have dead := ((represents.wf.mem_free id).mp member).2.2
      simp [dead] at isLive
    have ne : ∀ other ∈ s.free, other ≠ id := fun other member same => absent (same ▸ member)
    have sameLive : liveIds shift
        (⟨update s.objs id (some object), s.free, s.pages⟩ : Store α) =
          liveIds shift s := by
      ext other
      rw [mem_liveIds wf', mem_liveIds represents.wf]
      by_cases same : other = id
      · subst same
        simp [isLive]
      · simp [same]
    have sameFrame := setSlot_frame t id (.live object)
    have shaped := shaped_of_frame sameFrame represents.shaped
    simp only [frame, Prod.mk.injEq] at sameFrame
    refine ⟨t.setSlot id (.live object), by simp [assign, valid], ⟨shaped, represents.pages, ?_,
      ⟨chain_congr ?_ represents.list.chain, ?_⟩, wf', ?_, ?_⟩, ?_⟩
    · rw [content_setSlot t id _ present, represents.content]
      rfl
    · intro other member
      simp [nextFree, slot?_setSlot t id other _ present, ne other member]
    · intro other member
      rw [slot?_setSlot t id other _ present, if_neg (ne other member)]
      exact represents.list.free other member
    · rw [sameLive]
      exact represents.alloc
    · rw [sameLive, sameFrame.2]
      exact represents.pageAlloc
    · rw [sameLive]
      exact represents.bounds
  · cases replaced

end OpenRoad.Odb.DbTable
