import OpenRoad.Lib.Codec
import OpenRoad.Lib.Chain

/-! The hash tables of named objects: `dbHashTable` and `dbIntHashTable` are one algorithm over
two key types. The chains are intrusive, their links live in the objects. -/

namespace OpenRoad.Odb

open OpenRoad.Lib Function

def hashString (str : CString) : UInt32 :=
  str.val.foldl (fun hash c => c.toUInt32 + (hash <<< 6) + (hash <<< 16) - hash) 0

def hashInt (id : UInt32) : UInt32 :=
  let key := id
  let key := key + ~~~(key <<< 15)
  let key := key ^^^ (key >>> 10)
  let key := key + (key <<< 3)
  let key := key ^^^ (key >>> 6)
  let key := key + ~~~(key <<< 11)
  key ^^^ (key >>> 16)

/-- `name` and `nextEntry` are the fields `name_` (or `id_`) and `next_entry_` of the objects in
the table `obj_tbl_`. -/
structure HashTable {κ : Type} (hash : κ → UInt32) where
  hashTbl : List Nat
  numEntries : Nat
  name : Nat → κ
  nextEntry : Nat → Nat

abbrev DbIntHashTable := HashTable hashInt

namespace HashTable

variable {κ : Type} {hash : κ → UInt32}

def kChainLength : Nat := 4

def empty (name : Nat → κ) (nextEntry : Nat → Nat) : HashTable hash := ⟨[], 0, name, nextEntry⟩

/-- `hash(name) & mask`. -/
def slot (hash : κ → UInt32) (mask : Nat) (name : κ) : Nat := (hash name).toNat &&& mask

/-- `while (cur != 0)`: move the objects of a bucket to the list `entries`. The first argument
bounds the steps. -/
def unlinkBucket : Nat → Nat → (Nat → Nat) × Nat → Option ((Nat → Nat) × Nat)
  | 0, cur, state => if cur = 0 then some state else none
  | fuel + 1, cur, (next, entries) =>
    if cur = 0 then some (next, entries)
    else unlinkBucket fuel (next cur) (update next cur entries, cur)

def unlinkAll (fuel : Nat) : List Nat → (Nat → Nat) × Nat → Option ((Nat → Nat) × Nat)
  | [], state => some state
  | head :: rest, state => do
    let state' ← unlinkBucket fuel head state
    unlinkAll fuel rest state'

/-- `while (cur != 0)`: put the objects of the list at the heads of their new buckets. -/
def relink (home : Nat → Nat) : Nat → Nat → (Nat → Nat) × List Nat → Option ((Nat → Nat) × List Nat)
  | 0, cur, state => if cur = 0 then some state else none
  | fuel + 1, cur, (next, heads) =>
    if cur = 0 then some (next, heads) else do
      let e ← heads[home cur]?
      relink home fuel (next cur) (update next cur e, heads.set (home cur) cur)

/-- What `growTable` and `shrinkTable` share: rebuild the chains over `size` buckets. -/
def rehash (size : Nat) (t : HashTable hash) : Option (HashTable hash) := do
  let (unlinked, entries) ← unlinkAll t.numEntries t.hashTbl (t.nextEntry, 0)
  let (next, heads) ← relink (fun id => slot hash (size - 1) (t.name id)) t.numEntries entries
    (unlinked, List.replicate size 0)
  some { t with hashTbl := heads, nextEntry := next }

def growTable (t : HashTable hash) : Option (HashTable hash) :=
  t.rehash (t.hashTbl.length + t.hashTbl.length)

def shrinkTable (t : HashTable hash) : Option (HashTable hash) :=
  t.rehash (t.hashTbl.length >>> 1)

def insert (object : Nat) (t : HashTable hash) : Option (HashTable hash) := do
  let counted : HashTable hash := { t with numEntries := t.numEntries + 1 }
  let ready ← (if t.hashTbl.length = 0 then
      some ({ counted with hashTbl := [0] } : HashTable hash)
    else if counted.numEntries / t.hashTbl.length > kChainLength then counted.growTable
    else some counted)
  let hid := slot hash (ready.hashTbl.length - 1) (ready.name object)
  let e ← ready.hashTbl[hid]?
  some { ready with
    hashTbl := ready.hashTbl.set hid object
    nextEntry := update ready.nextEntry object e }

def findFrom [DecidableEq κ] (t : HashTable hash) (key : κ) : Nat → Nat → Option (Option Nat)
  | 0, cur => if cur = 0 then some none else none
  | fuel + 1, cur =>
    if cur = 0 then some none
    else if t.name cur = key then some (some cur) else findFrom t key fuel (t.nextEntry cur)

/-- `find`; `some none` is the null pointer. -/
def find [DecidableEq κ] (key : κ) (t : HashTable hash) : Option (Option Nat) :=
  if t.hashTbl.length = 0 then some none else do
    let head ← t.hashTbl[slot hash (t.hashTbl.length - 1) key]?
    t.findFrom key t.numEntries head

/-- The loop of `remove`: the identifier before `object` on its chain, `0` when it is the head. -/
def seek (next : Nat → Nat) (object : Nat) : Nat → Nat → Nat → Option (Option Nat)
  | 0, _, cur => if cur = 0 then some none else none
  | fuel + 1, prev, cur =>
    if cur = 0 then some none
    else if cur = object then some (some prev) else seek next object fuel cur (next cur)

def remove (object : Nat) (t : HashTable hash) : Option (HashTable hash) := do
  let hid := slot hash (t.hashTbl.length - 1) (t.name object)
  let head ← t.hashTbl[hid]?
  let found ← seek t.nextEntry object t.numEntries 0 head
  match found with
  | none => some t
  | some prev =>
    let unlinked : HashTable hash :=
      if prev = 0 then { t with hashTbl := t.hashTbl.set hid (t.nextEntry object) }
      else { t with nextEntry := update t.nextEntry prev (t.nextEntry object) }
    let counted : HashTable hash := { unlinked with numEntries := t.numEntries - 1 }
    let r := (counted.numEntries + counted.numEntries / 10) / t.hashTbl.length
    if r < kChainLength >>> 1 ∧ t.hashTbl.length > 1 then counted.shrinkTable else some counted

def write (object : Nat) (name : κ) (next : Nat) (t : HashTable hash) : HashTable hash :=
  { t with name := update t.name object name
           nextEntry := update t.nextEntry object next }

end HashTable

end OpenRoad.Odb
