import OpenRoad.Odb.Table

/-! What `pushQ`, `popQ` and `newPage` do to the free list, and what they leave alone. -/

namespace OpenRoad.Odb

open Function Option List

def Slot.object? {α : Type} : Slot α → Option α
  | .free _ _ => none
  | .live object => some object

namespace DbTable

open OpenRoad.Lib

variable {shift : Nat} {α : Type}

def headers (t : DbTable shift α) : List (Nat × Nat × Nat) :=
  t.pages.map fun page => (page.pageAddr, page.allocCnt, page.objects.length)

def frame (t : DbTable shift α) : (Nat × Nat × Nat × Nat × Nat) × List (Nat × Nat × Nat) :=
  ((t.topIdx, t.bottomIdx, t.pageCnt, t.pageTblSize, t.allocCnt), t.headers)

def content (t : DbTable shift α) (id : Nat) : Option α := (t.slot? id).bind Slot.object?

def nextFree (t : DbTable shift α) (id : Nat) : Nat :=
  match t.slot? id with
  | some (.free next _) => next
  | _ => 0

structure Shaped (t : DbTable shift α) : Prop where
  count : t.headers.length = t.pageCnt
  header : ∀ i h, t.headers[i]? = some h → h.1 = i <<< shift ∧ h.2.2 = 2 ^ shift
  table : t.pageCnt ≤ t.pageTblSize

/-- `ids` is the free list, in the order in which it will be handed out. -/
structure FreeChain (t : DbTable shift α) (ids : List Nat) : Prop where
  chain : Chain t.nextFree t.freeList ids
  free : ∀ id ∈ ids, ∃ next prev, t.slot? id = some (.free next prev)

lemma and_kPageMask (id : Nat) : id &&& kPageMask shift = id % 2 ^ shift :=
  Nat.and_two_pow_sub_one_eq_mod id shift

lemma shiftRight_page (id : Nat) : id >>> shift = id / 2 ^ shift :=
  Nat.shiftRight_eq_div_pow id shift

lemma page_or_offset (page offset : Nat) (small : offset < 2 ^ shift) :
    page <<< shift ||| offset = page * 2 ^ shift + offset := by
  rw [← Nat.shiftLeft_add_eq_or_of_lt small, Nat.shiftLeft_eq]

lemma page_div (page offset : Nat) (small : offset < 2 ^ shift) :
    (page * 2 ^ shift + offset) / 2 ^ shift = page := by
  rw [Nat.mul_comm, Nat.mul_add_div (Nat.two_pow_pos shift), Nat.div_eq_of_lt small, Nat.add_zero]

lemma page_mod (page offset : Nat) (small : offset < 2 ^ shift) :
    (page * 2 ^ shift + offset) % 2 ^ shift = offset := by
  rw [Nat.mul_comm, Nat.mul_add_mod, Nat.mod_eq_of_lt small]

variable (t : DbTable shift α)

lemma slot?_eq (id : Nat) :
    t.slot? id = t.pages[id / 2 ^ shift]?.bind (·.objects[id % 2 ^ shift]?) := by
  rw [slot?, and_kPageMask, shiftRight_page]

lemma slot?_isSome_iff (shaped : Shaped t) (id : Nat) :
    (t.slot? id).isSome ↔ id < t.pageCnt * 2 ^ shift := by
  have positive := Nat.two_pow_pos shift
  rw [slot?_eq, ← Nat.div_lt_iff_lt_mul positive]
  have length : t.pages.length = t.pageCnt := by
    rw [← shaped.count, headers, length_map]
  by_cases inside : id / 2 ^ shift < t.pageCnt
  · have pageInside : id / 2 ^ shift < t.pages.length := by omega
    have header := shaped.header (id / 2 ^ shift)
      (t.pages[id / 2 ^ shift].pageAddr, t.pages[id / 2 ^ shift].allocCnt,
        t.pages[id / 2 ^ shift].objects.length)
      (by simp [headers, getElem?_eq_getElem pageInside])
    have full : t.pages[id / 2 ^ shift].objects.length = 2 ^ shift := header.2
    have offset : id % 2 ^ shift < t.pages[id / 2 ^ shift].objects.length := by
      rw [full]
      exact Nat.mod_lt _ positive
    simp [getElem?_eq_getElem pageInside, getElem?_eq_getElem offset, inside]
  · have missing : t.pages[id / 2 ^ shift]? = none := getElem?_eq_none (by omega)
    simp [missing, inside]

@[simp] lemma setSlot_frame (id : Nat) (slot : Slot α) :
    (t.setSlot id slot).frame = t.frame := by
  simp only [frame, setSlot, headers, Prod.mk.injEq, true_and]
  apply ext_getElem?
  intro i
  simp only [getElem?_map, getElem?_modify]
  cases t.pages[i]? with
  | none => rfl
  | some page =>
    by_cases here : id >>> shift = i <;> simp [here]

lemma shaped_of_frame {t t' : DbTable shift α} (same : t'.frame = t.frame)
    (shaped : Shaped t) : Shaped t' := by
  simp only [frame, Prod.mk.injEq] at same
  obtain ⟨⟨_, _, pages, tbl, _⟩, headers⟩ := same
  exact ⟨by rw [headers, pages, shaped.count], by rw [headers]; exact shaped.header,
    by rw [pages, tbl]; exact shaped.table⟩

lemma slot?_setSlot (id other : Nat) (slot : Slot α) (present : (t.slot? id).isSome) :
    (t.setSlot id slot).slot? other = if other = id then some slot else t.slot? other := by
  have positive := Nat.two_pow_pos shift
  rw [slot?_eq] at present
  rw [slot?_eq, slot?_eq]
  simp only [setSlot, and_kPageMask, shiftRight_page, getElem?_modify]
  by_cases samePage : id / 2 ^ shift = other / 2 ^ shift
  · rw [samePage] at present
    cases hpage : t.pages[other / 2 ^ shift]? with
    | none => simp [hpage] at present
    | some page =>
      rw [hpage, bind_some] at present
      have inside : id % 2 ^ shift < page.objects.length := by
        by_contra outside
        rw [getElem?_eq_none (by omega)] at present
        cases present
      simp only [samePage, if_true, Option.map_eq_map, map_some, bind_some,
        getElem?_set]
      by_cases same : other = id
      · subst same
        simp [inside]
      · have offsets : id % 2 ^ shift ≠ other % 2 ^ shift := by
          intro equal
          apply same
          rw [← Nat.div_add_mod other (2 ^ shift), ← Nat.div_add_mod id (2 ^ shift),
            samePage, equal]
        simp [offsets, same]
  · have different : other ≠ id := by
      rintro rfl
      exact samePage rfl
    simp [samePage, different]

lemma content_setSlot (id : Nat) (slot : Slot α) (present : (t.slot? id).isSome) :
    (t.setSlot id slot).content = update t.content id slot.object? := by
  funext other
  simp only [content, slot?_setSlot t id other slot present, update_apply]
  by_cases same : other = id <;> simp [same]

lemma nextFree_setSlot (id next prev : Nat) (present : (t.slot? id).isSome) :
    (t.setSlot id (.free next prev)).nextFree = update t.nextFree id next := by
  funext other
  simp only [nextFree, slot?_setSlot t id other _ present, update_apply]
  by_cases same : other = id <;> simp [same]

lemma getFreeObj_of_mem {t : DbTable shift α} {ids : List Nat} (list : FreeChain t ids)
    (id : Nat) (member : id ∈ ids) :
    ∃ next prev, t.getFreeObj id = some (next, prev) ∧ t.slot? id = some (.free next prev) := by
  obtain ⟨next, prev, slot⟩ := list.free id member
  have nonzero := chain_nonzero list.chain id member
  exact ⟨next, prev, by simp [getFreeObj, nonzero, slot], slot⟩

lemma pushQ_spec (ids : List Nat) (list : FreeChain t ids) (id : Nat)
    (present : (t.slot? id).isSome) (nonzero : id ≠ 0) (absent : id ∉ ids) :
    ∃ t', t.pushQ id = some t' ∧ FreeChain t' (id :: ids) ∧ t'.frame = t.frame ∧
      t'.content = update t.content id none := by
  have pushedSlot := fun other => slot?_setSlot t id other (.free t.freeList 0) present
  have pushedNext := nextFree_setSlot t id t.freeList 0 present
  have pushedContent := content_setSlot t id (.free t.freeList 0) present
  have pushedChain : Chain (t.setSlot id (.free t.freeList 0)).nextFree id (id :: ids) := by
    rw [pushedNext]
    exact chain_push id nonzero (by simp) (chain_update_of_notMem id _ absent list.chain)
  have pushedFree : ∀ other ∈ id :: ids, ∃ next prev,
      (t.setSlot id (.free t.freeList 0)).slot? other = some (.free next prev) := by
    intro other member
    rw [pushedSlot]
    by_cases same : other = id
    · simp [same]
    · simp only [same, if_false]
      exact list.free other (by simpa [same] using member)
  by_cases emptyList : t.freeList = 0
  · refine ⟨{ t.setSlot id (.free t.freeList 0) with freeList := id }, ?_, ?_, ?_, ?_⟩
    · simp [pushQ, emptyList]
    · exact ⟨pushedChain, pushedFree⟩
    · exact setSlot_frame t id _
    · exact pushedContent
  · have headMember := chain_head_mem list.chain emptyList
    have headNe : t.freeList ≠ id := by
      intro same
      exact absent (same ▸ headMember)
    obtain ⟨next, prev, headSlot⟩ := list.free _ headMember
    have headPushed :
        (t.setSlot id (.free t.freeList 0)).slot? t.freeList = some (.free next prev) := by
      rw [pushedSlot, if_neg headNe, headSlot]
    have headPresent : ((t.setSlot id (.free t.freeList 0)).slot? t.freeList).isSome := by
      rw [headPushed]
      rfl
    have linkedSlot := fun other =>
      slot?_setSlot _ t.freeList other (.free next id) headPresent
    refine ⟨{ (t.setSlot id (.free t.freeList 0)).setSlot t.freeList (.free next id) with
      freeList := id }, ?_, ⟨?_, ?_⟩, ?_, ?_⟩
    · simp [pushQ, emptyList, getFreeObj, headPushed]
    · refine chain_congr ?_ pushedChain
      intro other member
      show ((t.setSlot id (.free t.freeList 0)).setSlot t.freeList (.free next id)).nextFree other
        = _
      rw [nextFree_setSlot _ _ _ _ headPresent, update_apply]
      split
      · rename_i same
        subst same
        simp [nextFree, headPushed]
      · rfl
    · intro other member
      show ∃ next' prev', ((t.setSlot id (.free t.freeList 0)).setSlot t.freeList
        (.free next id)).slot? other = some (.free next' prev')
      rw [linkedSlot]
      by_cases same : other = t.freeList
      · simp [same]
      · simpa [same] using pushedFree other member
    · show ((t.setSlot id (.free t.freeList 0)).setSlot t.freeList (.free next id)).frame = _
      rw [setSlot_frame, setSlot_frame]
    · show ((t.setSlot id (.free t.freeList 0)).setSlot t.freeList (.free next id)).content = _
      rw [content_setSlot _ _ _ headPresent, pushedContent]
      funext other
      simp only [update_apply, Slot.object?]
      by_cases same : other = t.freeList
      · subst same
        simp [headNe, content, headSlot, Slot.object?]
      · simp [same]

lemma popQ_spec (id : Nat) (rest : List Nat) (list : FreeChain t (id :: rest)) :
    ∃ t', t.popQ = some (id, t') ∧ FreeChain t' rest ∧ t'.frame = t.frame ∧
      t'.content = t.content ∧ t.content id = none := by
  obtain ⟨next, prev, read, slot⟩ := getFreeObj_of_mem list id (by simp)
  obtain ⟨head, nonzero, tail⟩ := list.chain
  have follow : t.nextFree id = next := by simp [nextFree, slot]
  rw [follow] at tail
  have dead : t.content id = none := by simp [content, slot, Slot.object?]
  have tailFree : ∀ other ∈ rest, ∃ n p, t.slot? other = some (.free n p) :=
    fun other member => list.free other (mem_cons_of_mem _ member)
  by_cases last : next = 0
  · refine ⟨{ t with freeList := next }, ?_, ⟨tail, tailFree⟩, rfl, rfl, dead⟩
    simp [popQ, head, read, last]
  · have headMember := chain_head_mem tail last
    obtain ⟨after, back, nextSlot⟩ := tailFree next headMember
    have present : (({ t with freeList := next } : DbTable shift α).slot? next).isSome := by
      show (t.slot? next).isSome
      rw [nextSlot]
      rfl
    have popped := fun other => slot?_setSlot
      ({ t with freeList := next } : DbTable shift α) next other (.free after 0) present
    refine ⟨({ t with freeList := next } : DbTable shift α).setSlot next (.free after 0),
      ?_, ⟨?_, ?_⟩, ?_, ?_, dead⟩
    · have readNext : ({ t with freeList := next } : DbTable shift α).getFreeObj next =
          some (after, back) := by
        show t.getFreeObj next = _
        simp [getFreeObj, last, nextSlot]
      simp [popQ, head, read, last, readNext]
    · rw [nextFree_setSlot _ _ _ _ present]
      refine chain_congr ?_ tail
      intro other _
      rw [update_apply]
      split
      · rename_i same
        subst same
        simp [nextFree, nextSlot]
      · rfl
    · intro other member
      rw [popped]
      by_cases same : other = next
      · simp [same]
      · rw [if_neg same]
        exact tailFree other member
    · rw [setSlot_frame]
      rfl
    · rw [content_setSlot _ _ _ present]
      funext other
      rw [update_apply]
      split
      · rename_i same
        subst same
        simp [content, nextSlot, Slot.object?]
      · rfl

/-- The identifiers of page `page` from offset `n` on, without the zero-object. -/
def idsFrom (shift page n : Nat) : List Nat :=
  (List.range' (page * 2 ^ shift + n) (2 ^ shift - n)).filter (· ≠ 0)

lemma idsFrom_zero (page : Nat) : idsFrom shift page 0 = Store.freshIds (2 ^ shift) page := by
  simp [idsFrom, Store.freshIds]

lemma idsFrom_step (page n : Nat) (small : n < 2 ^ shift) : idsFrom shift page n =
      if page = 0 ∧ n = 0 then idsFrom shift page (n + 1)
      else (page * 2 ^ shift + n) :: idsFrom shift page (n + 1) := by
  have split : 2 ^ shift - n = 2 ^ shift - (n + 1) + 1 := by omega
  simp only [idsFrom, split, range'_succ, filter_cons]
  by_cases zero : page = 0 ∧ n = 0
  · simp [zero]
  · simp [zero, Nat.add_assoc]

lemma linkPage_spec (page n : Nat) (bound : n ≤ 2 ^ shift) (t : DbTable shift α)
    (list : FreeChain t (idsFrom shift page n))
    (slots : ∀ offset, offset < 2 ^ shift → (t.slot? (page * 2 ^ shift + offset)).isSome)
    (dead : ∀ offset, offset < 2 ^ shift → t.content (page * 2 ^ shift + offset) = none)
    (shaped : Shaped t) :
    ∃ t', (range n).reverse.foldlM (fun table offset =>
        if page = 0 ∧ offset = 0 then some table
        else table.pushQ (page <<< shift ||| offset)) t = some t' ∧
      FreeChain t' (Store.freshIds (2 ^ shift) page) ∧ t'.frame = t.frame ∧
      t'.content = t.content := by
  induction n generalizing t with
  | zero =>
    refine ⟨t, by simp, ?_, rfl, rfl⟩
    rw [← idsFrom_zero]
    exact list
  | succ n ih =>
    have small : n < 2 ^ shift := by omega
    simp only [range_succ, reverse_append, reverse_singleton,
      singleton_append, foldlM_cons]
    by_cases zero : page = 0 ∧ n = 0
    · simp only [zero, and_self, if_true, bind_eq_bind, bind_some]
      obtain ⟨rfl, rfl⟩ := zero
      refine ih (by omega) t ?_ slots dead shaped
      rw [idsFrom_step _ _ small]
      simpa using list
    · rw [if_neg zero, page_or_offset page n small]
      have nonzero : page * 2 ^ shift + n ∈ idsFrom shift page n := by
        rw [idsFrom_step _ _ small, if_neg zero]
        exact mem_cons_self
      have absent : page * 2 ^ shift + n ∉ idsFrom shift page (n + 1) := by
        intro member
        simp only [idsFrom, mem_filter, List.mem_range'_1] at member
        omega
      have positive : page * 2 ^ shift + n ≠ 0 := by
        simp only [idsFrom, mem_filter, decide_eq_true_eq] at nonzero
        exact nonzero.2
      obtain ⟨pushed, result, pushedList, sameFrame, sameContent⟩ :=
        pushQ_spec t _ list _ (slots n small) positive absent
      have kept : pushed.content = t.content := by
        rw [sameContent]
        funext other
        rw [update_apply]
        split
        · rename_i same
          rw [same, dead n small]
        · rfl
      have pushedShaped := shaped_of_frame sameFrame shaped
      have samePages : pushed.pageCnt = t.pageCnt := by
        have := congrArg (fun f => f.1.2.2.1) sameFrame
        exact this
      obtain ⟨t', run, chain, frame', content'⟩ := ih (by omega) pushed
        (by rw [idsFrom_step _ _ small, if_neg zero]; exact pushedList)
        (by
          intro offset inside
          rw [slot?_isSome_iff _ pushedShaped, samePages, ← slot?_isSome_iff _ shaped]
          exact slots offset inside)
        (by intro offset inside; rw [kept]; exact dead offset inside)
        pushedShaped
      refine ⟨t', ?_, chain, frame'.trans sameFrame, content'.trans kept⟩
      rw [result]
      exact run

lemma newPage_spec (shaped : Shaped t) (exhausted : t.freeList = 0) :
    ∃ t', t.newPage = some t' ∧ FreeChain t' (Store.freshIds (2 ^ shift) t.pageCnt) ∧
      t'.frame = ((t.topIdx, t.bottomIdx, t.pageCnt + 1, t.resizePageTbl, t.allocCnt),
        t.headers ++ [(t.pageCnt <<< shift, 0, 2 ^ shift)]) ∧
      t'.content = t.content ∧ Shaped t' := by
  have length : t.pages.length = t.pageCnt := by
    rw [← shaped.count, headers, length_map]
  let grown : DbTable shift α :=
    { t with pageTblSize := t.resizePageTbl, pageCnt := t.pageCnt + 1,
             pages := t.pages ++
               [⟨t.pageCnt <<< shift, 0, replicate (2 ^ shift) (.free 0 0)⟩] }
  have grownHeaders : grown.headers = t.headers ++ [(t.pageCnt <<< shift, 0, 2 ^ shift)] := by
    simp [grown, headers]
  have grownFrame : grown.frame =
      ((t.topIdx, t.bottomIdx, t.pageCnt + 1, t.resizePageTbl, t.allocCnt),
        t.headers ++ [(t.pageCnt <<< shift, 0, 2 ^ shift)]) := by
    rw [frame, grownHeaders]
  have grownShaped : Shaped grown := by
    refine ⟨?_, ?_, ?_⟩
    · rw [grownHeaders]
      simp [grown, shaped.count]
    · intro i h
      rw [grownHeaders]
      intro present
      by_cases old : i < t.headers.length
      · rw [getElem?_append_left old] at present
        exact shaped.header i h present
      · rw [getElem?_append_right (by omega)] at present
        have last : i - t.headers.length = 0 := by
          by_contra later
          rw [getElem?_eq_none (by simp; omega)] at present
          cases present
        rw [last] at present
        obtain rfl := Option.some.inj present
        have same : i = t.pageCnt := by
          rw [← shaped.count]
          omega
        exact ⟨by rw [same], rfl⟩
    · show t.pageCnt + 1 ≤ t.resizePageTbl
      have table := shaped.table
      unfold resizePageTbl
      split
      · omega
      · split <;> omega
  have newSlot : ∀ offset, offset < 2 ^ shift →
      grown.slot? (t.pageCnt * 2 ^ shift + offset) = some (.free 0 0) := by
    intro offset small
    rw [slot?_eq, page_div _ _ small, page_mod _ _ small]
    simp [grown, ← length, small]
  have oldSlot : ∀ id, id < t.pageCnt * 2 ^ shift → grown.slot? id = t.slot? id := by
    intro id old
    have page : id / 2 ^ shift < t.pages.length := by
      rw [length, Nat.div_lt_iff_lt_mul (Nat.two_pow_pos shift)]
      exact old
    rw [slot?_eq, slot?_eq]
    simp [grown, getElem?_append_left page]
  have sameContent : grown.content = t.content := by
    funext id
    simp only [content]
    by_cases old : id < t.pageCnt * 2 ^ shift
    · rw [oldSlot id old]
    · have missing : t.slot? id = none := by
        rw [← not_isSome_iff_eq_none, slot?_isSome_iff t shaped]
        exact old
      rw [missing]
      by_cases new : id < t.pageCnt * 2 ^ shift + 2 ^ shift
      · have here := newSlot (id - t.pageCnt * 2 ^ shift) (by omega)
        rw [show t.pageCnt * 2 ^ shift + (id - t.pageCnt * 2 ^ shift) = id by omega] at here
        rw [here]
        rfl
      · have beyond : grown.slot? id = none := by
          rw [← not_isSome_iff_eq_none, slot?_isSome_iff grown grownShaped]
          show ¬ id < (t.pageCnt + 1) * 2 ^ shift
          rw [Nat.succ_mul]
          exact new
        rw [beyond]
  have start : FreeChain grown (idsFrom shift t.pageCnt (2 ^ shift)) := by
    have none : idsFrom shift t.pageCnt (2 ^ shift) = [] := by simp [idsFrom]
    rw [none]
    exact ⟨exhausted, by simp⟩
  obtain ⟨t', run, list, sameFrame, content'⟩ := linkPage_spec t.pageCnt (2 ^ shift)
    (Nat.le_refl _) grown start (by intro offset small; rw [newSlot offset small]; rfl)
    (by intro offset small; rw [content, newSlot offset small]; rfl) grownShaped
  exact ⟨t', run, list, sameFrame.trans grownFrame, content'.trans sameContent,
    shaped_of_frame sameFrame grownShaped⟩

end DbTable

end OpenRoad.Odb
