import OpenRoad.Lib.Codec
import OpenRoad.Odb.TableRuns

/-! Writing a table to a database stream and reading it back. -/

namespace OpenRoad.Odb

open OpenRoad.Lib Finset

/-- The scalars of `dbOStream`: `char` and `uint32_t`. -/
inductive Item where
  | char (value : Nat)
  | word (value : Nat)
  deriving DecidableEq

def readChar : Reader Item Nat := fun stream =>
  match stream with
  | .char value :: rest => some (value, rest)
  | _ => none

def readWord : Reader Item Nat := fun stream =>
  match stream with
  | .word value :: rest => some (value, rest)
  | _ => none

lemma readChar_readsBack (value : Nat) : ReadsBack readChar [.char value] value := by
  intro rest
  rfl

lemma readWord_readsBack (value : Nat) : ReadsBack readWord [.word value] value := by
  intro rest
  rfl

namespace DbAttrTable

def kPageSize : Nat := 32

abbrev Page := { page : List Nat // page.length = kPageSize }

def writePage (index : Nat) : Option Page → List Item
  | none => [.word 0]
  | some page => .word (index + 1) :: writeMany (fun _ id => [.word id]) 0 page.val

def readPage (_ : Nat) : Reader Item (Option Page) := do
  let present ← readWord
  if present = 0 then pure none
  else do
    let page ← readMany (fun _ => readWord) 0 kPageSize
    if full : page.length = kPageSize then pure (some ⟨page, full⟩) else failure

end DbAttrTable

/-- `dbAttrTable`: the pages that exist and those that were never set. -/
structure DbAttrTable where
  pages : List (Option DbAttrTable.Page)

namespace DbAttrTable

def write (t : DbAttrTable) : List Item := .word t.pages.length :: writeMany writePage 0 t.pages

def read : Reader Item DbAttrTable := do
  let pageCnt ← readWord
  let pages ← readMany readPage 0 pageCnt
  pure ⟨pages⟩

lemma readPage_readsBack (index : Nat) (page : Option Page) :
    ReadsBack (readPage index) (writePage index page) page := by
  cases page with
  | none => exact readsBack_cons (readWord_readsBack 0) (readsBack_pure none)
  | some page =>
    rcases page with ⟨ids, full⟩
    have body := readMany_readsBack (fun _ => readWord) (fun _ id => [.word id]) 0 ids
      fun _ value _ => readWord_readsBack value
    rw [full] at body
    rw [readPage, writePage]
    apply readsBack_cons (readWord_readsBack (index + 1))
    rw [if_neg (Nat.succ_ne_zero index)]
    intro rest
    rw [StateT.run_bind, body rest]
    simp [full]

lemma read_readsBack (t : DbAttrTable) : ReadsBack read t.write t := by
  have pages := readMany_readsBack readPage writePage 0 t.pages
    fun offset page _ => readPage_readsBack (0 + offset) page
  rw [read, write]
  exact readsBack_cons (readWord_readsBack t.pages.length) (readsBack_map DbAttrTable.mk pages)

end DbAttrTable

namespace DbTable

variable {shift : Nat} {α : Type}

def writeSlot (codec : Codec Item α) : Slot α → List Item
  | .live object => .char 1 :: codec.write object
  | .free next prev => [.char 0, .word next, .word prev]

def readSlot (codec : Codec Item α) : Reader Item (Slot α) := do
  let allocated ← readChar
  if allocated = 0 then do
    let next ← readWord
    let prev ← readWord
    pure (.free next prev)
  else do
    let object ← codec.read
    pure (.live object)

def writePage (codec : Codec Item α) (page : DbTablePage α) : List Item :=
  writeMany (fun _ => writeSlot codec) 0 page.objects

/-- `readPage`, with the page address that the caller sets. -/
def readPage (shift : Nat) (codec : Codec Item α) (pageId : Nat) : Reader Item (DbTablePage α) := do
  let objects ← readMany (fun _ => readSlot codec) 0 (2 ^ shift)
  pure ⟨pageId <<< shift, objects.countP Slot.isLive, objects⟩

/-- `operator<<`; the objects write themselves with `codec`. -/
def write (codec : Codec Item α) (t : DbTable shift α) (propList : DbAttrTable) : List Item :=
  [.word t.topIdx, .word t.bottomIdx, .word t.pageCnt, .word t.pageTblSize, .word t.allocCnt,
    .word t.freeList] ++
  (writeMany (fun _ => writePage codec) 0 t.pages ++ propList.write)

/-- Streams from before `kSchemaTableMaskShift` start with the mask and the shift. -/
def readMaskShift (shift : Nat) (isSchema : Bool) : Reader Item Unit :=
  if isSchema then pure ()
  else do
    let pageMask ← readWord
    let pageShift ← readWord
    if pageMask = kPageMask shift ∧ pageShift = shift then pure () else failure

/-- `operator>>`; the two failures are its assertion and a page outside of the page table. -/
def read (codec : Codec Item α) (isSchema : Bool) : Reader Item (DbTable shift α × DbAttrTable) := do
  readMaskShift shift isSchema
  let topIdx ← readWord
  let bottomIdx ← readWord
  let pageCnt ← readWord
  let pageTblSize ← readWord
  let allocCnt ← readWord
  let freeList ← readWord
  if pageTblSize < pageCnt then failure
  else do
    let pages ← readMany (readPage shift codec) 0 pageCnt
    let propList ← DbAttrTable.read
    pure (⟨topIdx, bottomIdx, pageCnt, pageTblSize, allocCnt, freeList, pages⟩, propList)

lemma readSlot_readsBack (codec : Codec Item α) (slot : Slot α) :
    ReadsBack (readSlot codec) (writeSlot codec slot) slot := by
  rw [readSlot]
  cases slot with
  | free next prev =>
    apply readsBack_cons (readChar_readsBack 0)
    apply readsBack_cons (readWord_readsBack next)
    exact readsBack_map (Slot.free next) (readWord_readsBack prev)
  | live object =>
    apply readsBack_cons (readChar_readsBack 1)
    exact readsBack_map Slot.live (codec.readsBack object)

lemma readPage_readsBack (codec : Codec Item α) (pageId : Nat) (page : DbTablePage α)
    (addr : page.pageAddr = pageId <<< shift) (full : page.objects.length = 2 ^ shift)
    (count : page.allocCnt = page.objects.countP Slot.isLive) :
    ReadsBack (readPage shift codec pageId) (writePage codec page) page := by
  have objects := readMany_readsBack (fun _ => readSlot codec) (fun _ => writeSlot codec) 0
    page.objects fun _ slot _ => readSlot_readsBack codec slot
  rw [full] at objects
  have same : (⟨pageId <<< shift, page.objects.countP Slot.isLive, page.objects⟩ :
      DbTablePage α) = page := by
    rw [← addr, ← count]
  have read := readsBack_map (fun objects =>
    (⟨pageId <<< shift, objects.countP Slot.isLive, objects⟩ : DbTablePage α)) objects
  rw [same] at read
  exact read

lemma countP_eq_card {β : Type} (p : β → Bool) (values : List β) : values.countP p =
      ((Finset.range values.length).filter fun i => (values[i]?.map p).getD false = true).card := by
  induction values using List.reverseRecOn with
  | nil => rfl
  | append_singleton front last ih =>
    have earlier : ((Finset.range front.length).filter fun i =>
          ((front ++ [last])[i]?.map p).getD false = true) =
        (Finset.range front.length).filter fun i => (front[i]?.map p).getD false = true := by
      apply filter_congr
      intro i inside
      rw [List.getElem?_append_left (Finset.mem_range.mp inside)]
    rw [List.countP_append, ih, List.length_append, List.length_singleton, range_add_one,
      filter_insert, earlier]
    cases live : p last <;> simp [live]

lemma pageAlloc_eq_countP {t : DbTable shift α} {s : Store α} (counted : Counted t s)
    (pageId : Nat) (page : DbTablePage α) (present : t.pages[pageId]? = some page) :
    page.objects.length = 2 ^ shift ∧ page.pageAddr = pageId <<< shift ∧
      page.allocCnt = page.objects.countP Slot.isLive := by
  have header : t.headers[pageId]? =
      some (page.pageAddr, page.allocCnt, page.objects.length) := by simp [headers, present]
  rcases counted.shaped.header pageId _ header with ⟨addr, full⟩
  refine ⟨full, addr, ?_⟩
  have image : (liveIds shift s).filter (· / 2 ^ shift = pageId) =
      ((Finset.range (2 ^ shift)).filter fun offset => page.allocated offset = true).image
        (pageId * 2 ^ shift + ·) := by
    ext id
    simp only [mem_filter, mem_image, mem_range]
    constructor
    · rintro ⟨live, inPage⟩
      have small := Nat.mod_lt id (Nat.two_pow_pos shift)
      have split := split_id shift id
      rw [inPage] at split
      refine ⟨id % 2 ^ shift, ⟨small, ?_⟩, split⟩
      exact (allocated_iff counted pageId page present _ small).mpr (split.symm ▸ live)
    · rintro ⟨offset, ⟨small, hit⟩, same⟩
      subst same
      exact ⟨(allocated_iff counted pageId page present offset small).mp hit,
        page_div pageId offset small⟩
  have alloc : page.allocCnt = ((liveIds shift s).filter (· / 2 ^ shift = pageId)).card :=
    counted.pageAlloc pageId _ header
  have slots : page.objects.length = 2 ^ shift := full
  rw [alloc, image, card_image_of_injective _ (add_right_injective _), countP_eq_card, slots]
  rfl

lemma read_readsBack (codec : Codec Item α) {t : DbTable shift α} {s : Store α}
    (counted : Counted t s) (propList : DbAttrTable) :
    ReadsBack (read codec true) (t.write codec propList) (t, propList) := by
  have pages := readMany_readsBack (readPage shift codec) (fun _ => writePage codec) 0 t.pages
    fun pageId page present => by
      rcases pageAlloc_eq_countP counted pageId page present with ⟨full, addr, count⟩
      exact readPage_readsBack codec _ page (by rw [addr, Nat.zero_add]) full count
  rw [pages_length counted] at pages
  rw [read, write, readMaskShift, if_pos rfl, pure_bind]
  apply readsBack_cons (readWord_readsBack t.topIdx)
  apply readsBack_cons (readWord_readsBack t.bottomIdx)
  apply readsBack_cons (readWord_readsBack t.pageCnt)
  apply readsBack_cons (readWord_readsBack t.pageTblSize)
  apply readsBack_cons (readWord_readsBack t.allocCnt)
  apply readsBack_cons (readWord_readsBack t.freeList)
  rw [if_neg (Nat.not_lt.mpr counted.shaped.table)]
  apply readsBack_bind pages
  exact readsBack_map (fun propList => (t, propList)) (DbAttrTable.read_readsBack propList)

/-- A table read back answers every later sequence of calls with the same identifiers. -/
theorem restored_table_exact (positive : 1 ≤ shift) (codec : Codec Item α) (t : DbTable shift α)
    (reached : Reachable t) (propList : DbAttrTable) (rest : List Item) :
    ∃ restored : DbTable shift α, (read codec true).run (t.write codec propList ++ rest) =
        some ((restored, propList), rest) ∧
      (∀ id, restored.getPtr id = t.getPtr id) ∧
      restored.bottomIdx = t.bottomIdx ∧ restored.topIdx = t.topIdx ∧
      restored.allocCnt = t.allocCnt ∧
      ∀ calls, (restored.run calls).map Prod.snd = (t.run calls).map Prod.snd := by
  rcases reachable_represents positive reached with ⟨s, represents⟩
  refine ⟨t, read_readsBack codec represents.toCounted propList rest, ?_⟩
  exact ⟨fun _ => rfl, rfl, rfl, rfl, fun _ => rfl⟩

def wordCodec : Codec Item Nat := ⟨fun value => [.word value], readWord, readWord_readsBack⟩

theorem restored_table_exact_sample : Reachable sampleTable ∧ ∃ restored : DbTable 2 Nat,
      (read wordCodec true).run (sampleTable.write wordCodec ⟨[none]⟩ ++ []) =
        some ((restored, ⟨[none]⟩), []) ∧
      (∀ id, restored.getPtr id = sampleTable.getPtr id) :=
  have reached : Reachable sampleTable := ⟨sampleCalls, _, sampleTable_run⟩
  have exact := restored_table_exact (by decide) wordCodec sampleTable reached ⟨[none]⟩ []
  ⟨reached, exact.imp fun _ both => ⟨both.1, both.2.1⟩⟩

end DbTable

end OpenRoad.Odb
