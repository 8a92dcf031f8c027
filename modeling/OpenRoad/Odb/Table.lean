import OpenRoad.Lib.Chain
import OpenRoad.Lib.Store

/-! The paged object table `dbTable`: pages of `2 ^ shift` slots, an intrusive free list through
the free slots, and the smallest and largest live identifiers. -/

namespace OpenRoad.Odb

/-- `kAllocBit` is the constructor; the links share the memory of the object. -/
inductive Slot (α : Type) where
  | free (next prev : Nat)
  | live (object : α)
  deriving DecidableEq

def Slot.isLive {α : Type} : Slot α → Bool
  | .free _ _ => false
  | .live _ => true

structure DbTablePage (α : Type) where
  pageAddr : Nat
  allocCnt : Nat
  objects : List (Slot α)
  deriving DecidableEq

def DbTablePage.validPage {α : Type} (page : DbTablePage α) : Bool := page.allocCnt ≠ 0

def DbTablePage.allocated {α : Type} (page : DbTablePage α) (offset : Nat) : Bool :=
  (page.objects[offset]?.map Slot.isLive).getD false

structure DbTable (shift : Nat) (α : Type) where
  topIdx : Nat
  bottomIdx : Nat
  pageCnt : Nat
  pageTblSize : Nat
  allocCnt : Nat
  freeList : Nat
  pages : List (DbTablePage α)
  deriving DecidableEq

/-- `for (s = start; ...; s++)`, for the given number of steps. -/
def scanUp (p : Nat → Bool) : Nat → Nat → Option Nat
  | _, 0 => none
  | start, steps + 1 => if p start then some start else scanUp p (start + 1) steps

/-- `for (s = bound - 1; s >= 0; s--)`. -/
def scanDown (p : Nat → Bool) : Nat → Option Nat
  | 0 => none
  | bound + 1 => if p bound then some bound else scanDown p bound

namespace DbTable

variable {shift : Nat} {α : Type}

def empty : DbTable shift α := ⟨0, 0, 0, 0, 0, 0, []⟩

def kPageMask (shift : Nat) : Nat := 2 ^ shift - 1

def slot? (t : DbTable shift α) (id : Nat) : Option (Slot α) :=
  t.pages[id >>> shift]?.bind (·.objects[id &&& kPageMask shift]?)

def setSlot (t : DbTable shift α) (id : Nat) (slot : Slot α) : DbTable shift α :=
  { t with pages := t.pages.modify (id >>> shift) (fun page =>
      { page with objects := page.objects.set (id &&& kPageMask shift) slot }) }

/-- `getFreeObj`: the links of a free slot; its assertion rejects `0` and live slots. -/
def getFreeObj (t : DbTable shift α) (id : Nat) : Option (Nat × Nat) :=
  if id = 0 then none else
  match t.slot? id with
  | some (.free next prev) => some (next, prev)
  | _ => none

def getPtr (t : DbTable shift α) (id : Nat) : Option α :=
  if id = 0 then none else
  match t.slot? id with
  | some (.live object) => some object
  | _ => none

def validId (t : DbTable shift α) (id : Nat) : Bool := (t.getPtr id).isSome

def pushQ (t : DbTable shift α) (id : Nat) : Option (DbTable shift α) := do
  let pushed := t.setSlot id (.free t.freeList 0)
  let linked ← (if t.freeList = 0 then some pushed else
    (pushed.getFreeObj t.freeList).map fun (next, _) =>
      pushed.setSlot t.freeList (.free next id))
  some { linked with freeList := id }

def popQ (t : DbTable shift α) : Option (Nat × DbTable shift α) := do
  let (next, _) ← t.getFreeObj t.freeList
  let popped : DbTable shift α := { t with freeList := next }
  if next = 0 then some (t.freeList, popped) else do
    let (after, _) ← popped.getFreeObj next
    some (t.freeList, popped.setSlot next (.free after 0))

/-- The size of the page table after `newPage` made room for one more page. -/
def resizePageTbl (t : DbTable shift α) : Nat :=
  if t.pageTblSize = 0 then 1
  else if t.pageTblSize = t.pageCnt then t.pageTblSize * 2 else t.pageTblSize

/-- The objects go on the free list in reverse order, the zero-object of the first page is
not linked. -/
def newPage (t : DbTable shift α) : Option (DbTable shift α) :=
  let pageId := t.pageCnt
  let addr := pageId <<< shift
  let page : DbTablePage α := ⟨addr, 0, List.replicate (2 ^ shift) (.free 0 0)⟩
  let grown : DbTable shift α :=
    { t with pageTblSize := t.resizePageTbl, pageCnt := t.pageCnt + 1,
             pages := t.pages ++ [page] }
  (List.range (2 ^ shift)).reverse.foldlM (fun table offset =>
      if pageId = 0 ∧ offset = 0 then some table else table.pushQ (addr ||| offset)) grown

def bumpPage (t : DbTable shift α) (id : Nat) (count : Nat → Nat) : DbTable shift α :=
  { t with pages := t.pages.modify (id >>> shift) (fun page =>
      { page with allocCnt := count page.allocCnt }) }

/-- `create`: the object is what the constructor `T(db_)` builds. -/
def create (object : α) (t : DbTable shift α) : Option (Nat × DbTable shift α) := do
  let counted : DbTable shift α := { t with allocCnt := t.allocCnt + 1 }
  let ready ← (if counted.freeList = 0 then counted.newPage else some counted)
  let (id, popped) ← ready.popQ
  let placed := (popped.setSlot id (.live object)).bumpPage id (· + 1)
  some (id, { placed with
    topIdx := max id placed.topIdx
    bottomIdx := if placed.bottomIdx = 0 ∨ id < placed.bottomIdx then id else placed.bottomIdx })

/-- The first allocated slot of the first valid page among `pages`, which start at `pageId`. -/
def bottomPage (shift pageId : Nat) : List (DbTablePage α) → Option Nat
  | [] => none
  | page :: rest =>
    if page.validPage then
      (scanUp page.allocated 0 (2 ^ shift)).map ((pageId <<< shift) + ·)
    else bottomPage shift (pageId + 1) rest

def findBottom (t : DbTable shift α) : Option (DbTable shift α) :=
  if t.allocCnt = 0 then some { t with bottomIdx := 0 } else do
    let pageId := t.bottomIdx >>> shift
    let page ← t.pages[pageId]?
    let offset := t.bottomIdx &&& kPageMask shift
    let here := if page.validPage then
        scanUp page.allocated (offset + 1) (2 ^ shift - (offset + 1)) else none
    match here with
    | some found => some { t with bottomIdx := (pageId <<< shift) + found }
    | none => do
      let bottom ← bottomPage shift (pageId + 1) (t.pages.drop (pageId + 1))
      some { t with bottomIdx := bottom }

/-- The last allocated slot of the last valid page below `bound`. -/
def topPage (t : DbTable shift α) : Nat → Option Nat
  | 0 => none
  | pageId + 1 =>
    match t.pages[pageId]? with
    | none => none
    | some page =>
      if page.validPage then
        (scanDown page.allocated (2 ^ shift)).map ((pageId <<< shift) + ·)
      else topPage t pageId

def findTop (t : DbTable shift α) : Option (DbTable shift α) :=
  if t.allocCnt = 0 then some { t with topIdx := 0 } else do
    let pageId := t.topIdx >>> shift
    let page ← t.pages[pageId]?
    let offset := t.topIdx &&& kPageMask shift
    let here := if page.validPage then scanDown page.allocated offset else none
    match here with
    | some found => some { t with topIdx := (pageId <<< shift) + found }
    | none => do
      let top ← t.topPage pageId
      some { t with topIdx := top }

/-- `destroy`: the assertions reject an identifier that is not live. -/
def destroy (id : Nat) (t : DbTable shift α) : Option (DbTable shift α) :=
  if t.validId id then do
    let counted : DbTable shift α := ({ t with allocCnt := t.allocCnt - 1 }).bumpPage id (· - 1)
    let pushed ← counted.pushQ id
    let lowered ← (if id = pushed.bottomIdx then pushed.findBottom else some pushed)
    if id = lowered.topIdx then lowered.findTop else some lowered
  else none

def assign (id : Nat) (object : α) (t : DbTable shift α) : Option (DbTable shift α) :=
  if t.validId id then some (t.setSlot id (.live object)) else none

def begin (t : DbTable shift α) : Nat := t.bottomIdx

def nextPage (shift pageId : Nat) : List (DbTablePage α) → Nat
  | [] => 0
  | page :: rest =>
    if page.validPage then
      match scanUp page.allocated 0 (2 ^ shift) with
      | some offset => (pageId <<< shift) + offset
      | none => nextPage shift (pageId + 1) rest
    else nextPage shift (pageId + 1) rest

def next (t : DbTable shift α) (id : Nat) : Option Nat :=
  if id + 1 > t.topIdx then some 0 else do
    let pageId := (id + 1) >>> shift
    let page ← t.pages[pageId]?
    let offset := (id + 1) &&& kPageMask shift
    match scanUp page.allocated offset (2 ^ shift - offset) with
    | some found => some ((pageId <<< shift) + found)
    | none => some (nextPage shift (pageId + 1) (t.pages.drop (pageId + 1)))

/-- The loop `for (id = begin(); id != end(); id = next(id))`. -/
def iterate (t : DbTable shift α) : Nat → Nat → Option (List Nat)
  | 0, id => if id = 0 then some [] else none
  | fuel + 1, id =>
    if id = 0 then some [] else do
      let after ← t.next id
      let rest ← t.iterate fuel after
      some (id :: rest)

end DbTable

end OpenRoad.Odb
