import OpenRoad.Lib.DoublyLinked
import OpenRoad.Lib.Runs

/-! The instances of the regions of a block, on lists whose links lie in the instances. -/

namespace OpenRoad.Odb

open OpenRoad.Lib Function Option Threads

structure RegionInst where
  region : Nat
  region_next : Nat
  region_prev : Nat
  deriving DecidableEq

/-- The live instances, and the field `insts_` of each region. -/
structure RegionBlock where
  inst_tbl : Nat → Option RegionInst
  insts : Nat → Nat

namespace RegionBlock

def new : RegionBlock := ⟨fun _ => none, fun _ => 0⟩

def setInst (id : Nat) (write : RegionInst → RegionInst) (b : RegionBlock) : Option RegionBlock := do
  let inst ← b.inst_tbl id
  some { b with inst_tbl := update b.inst_tbl id (some (write inst)) }

def setNext (id next : Nat) : RegionBlock → Option RegionBlock :=
  setInst id fun inst => { inst with region_next := next }

def setPrev (id prev : Nat) : RegionBlock → Option RegionBlock :=
  setInst id fun inst => { inst with region_prev := prev }

def setRegion (id region : Nat) : RegionBlock → Option RegionBlock :=
  setInst id fun inst => { inst with region := region }

def setHead (region id : Nat) (b : RegionBlock) : RegionBlock :=
  { b with insts := update b.insts region id }

/-- The assignments under `if (... != 0)`. -/
def linkNext (id next : Nat) (b : RegionBlock) : Option RegionBlock :=
  if id ≠ 0 then b.setNext id next else some b

def linkPrev (id prev : Nat) (b : RegionBlock) : Option RegionBlock :=
  if id ≠ 0 then b.setPrev id prev else some b

def removeInst (region id : Nat) (b : RegionBlock) : Option RegionBlock := do
  let inst ← b.inst_tbl id
  let unlinked ←
    if b.insts region = id then (b.setHead region inst.region_next).linkPrev inst.region_next 0
    else do
      let passed ← b.linkPrev inst.region_next inst.region_prev
      passed.linkNext inst.region_prev inst.region_next
  unlinked.setRegion id 0

def leaveRegion (id : Nat) (inst : RegionInst) (b : RegionBlock) : Option RegionBlock :=
  if inst.region ≠ 0 then b.removeInst inst.region id else some b

/-- The links of a new first instance in front of `head`. -/
def pushFront (id head : Nat) (b : RegionBlock) : Option RegionBlock :=
  if head ≠ 0 then do
    let behind ← b.setNext id head
    let first ← behind.setPrev id 0
    first.setPrev head id
  else do
    let last ← b.setNext id 0
    last.setPrev id 0

def addInst (region id : Nat) (b : RegionBlock) : Option RegionBlock := do
  let inst ← b.inst_tbl id
  let free ← b.leaveRegion id inst
  let named ← free.setRegion id region
  let linked ← named.pushFront id (named.insts region)
  some (linked.setHead region id)

/-- `dbInst::create` in a free slot of the table. -/
def createInst (id : Nat) (b : RegionBlock) : RegionBlock :=
  { b with inst_tbl := update b.inst_tbl id (some ⟨0, 0, 0⟩) }

/-- What `dbInst::destroy` does to the regions. -/
def destroyInst (id : Nat) (b : RegionBlock) : Option RegionBlock := do
  let inst ← b.inst_tbl id
  let free ← b.leaveRegion id inst
  some { free with inst_tbl := update free.inst_tbl id none }

inductive Call where
  | create (id : Nat)
  | add (region id : Nat)
  | remove (region id : Nat)
  | destroy (id : Nat)
  deriving DecidableEq

def step (b : Option RegionBlock) (call : Call) : Option RegionBlock := do
  let b ← b
  match call with
  | .create id => some (b.createInst id)
  | .add region id => b.addInst region id
  | .remove region id => b.removeInst region id
  | .destroy id => b.destroyInst id

def live (b : RegionBlock) (id : Nat) : Bool := (b.inst_tbl id).isSome

def threads (b : RegionBlock) : Threads where
  next id := ((b.inst_tbl id).map RegionInst.region_next).getD 0
  prev id := ((b.inst_tbl id).map RegionInst.region_prev).getD 0
  owner id := ((b.inst_tbl id).map RegionInst.region).getD 0
  head := b.insts

def Consistent (b : RegionBlock) : Prop := b.threads.Threaded

/-- Unlinking the instance writes to no other instance of a region what is not there. -/
def Harmless (b : RegionBlock) (inst : RegionInst) : Prop :=
  (inst.region_next ≠ 0 → ∃ next, b.inst_tbl inst.region_next = some next ∧
    (next.region = 0 ∨ next.region_prev = inst.region_prev)) ∧
  (inst.region_prev ≠ 0 → ∃ prev, b.inst_tbl inst.region_prev = some prev ∧
    (prev.region = 0 ∨ prev.region_next = inst.region_next))

/-- Calls name regions and live instances, and remove an instance from a region where this does no
harm. -/
def Allowed (b : RegionBlock) : Call → Prop
  | .create id => id ≠ 0 ∧ b.inst_tbl id = none
  | .add region id => region ≠ 0 ∧ (b.inst_tbl id).isSome
  | .destroy id => (b.inst_tbl id).isSome
  | .remove region id => region ≠ 0 ∧ ∃ inst, b.inst_tbl id = some inst ∧
    (inst.region = region ∨ (inst.region ≠ 0 ∧ b.insts inst.region ≠ id) ∨
      (inst.region = 0 ∧ b.Harmless inst))

variable {b b' : RegionBlock} {id region : Nat} {inst : RegionInst}

lemma live_of_owner (owned : b.threads.owner id ≠ 0) : ∃ inst, b.inst_tbl id = some inst := by
  cases there : b.inst_tbl id with
  | none => exact absurd (by simp [threads, there]) owned
  | some inst => exact ⟨inst, rfl⟩

lemma threads_of (there : b.inst_tbl id = some inst) :
    b.threads.next id = inst.region_next ∧ b.threads.prev id = inst.region_prev ∧
      b.threads.owner id = inst.region := by
  simp [threads, there]

lemma setInst_exec (write : RegionInst → RegionInst) (there : b.inst_tbl id = some inst) :
    ∃ b', b.setInst id write = some b' ∧
      b'.threads = ⟨update b.threads.next id (write inst).region_next,
        update b.threads.prev id (write inst).region_prev,
        update b.threads.owner id (write inst).region, b.threads.head⟩ ∧
      b'.live = b.live := by
  refine ⟨_, by rw [setInst, there]; rfl, ?_, ?_⟩
  · simp only [threads, Threads.mk.injEq, and_true]
    refine ⟨?_, ?_, ?_⟩ <;> funext x <;> by_cases same : x = id <;>
      simp [same]
  · funext x
    by_cases same : x = id <;> simp [live, same, there]

lemma setNext_exec (isLive : b.live id = true) (next : Nat) : ∃ b', b.setNext id next = some b' ∧
      b'.threads = { b.threads with next := update b.threads.next id next } ∧
      b'.live = b.live := by
  rcases isSome_iff_exists.mp isLive with ⟨inst, there⟩
  rcases setInst_exec (fun inst => { inst with region_next := next }) there with
    ⟨b', written, threads', live'⟩
  rcases threads_of there with ⟨_, prev, owner⟩
  refine ⟨b', written, ?_, live'⟩
  rw [threads', ← prev, ← owner, update_eq_self, update_eq_self]

lemma setPrev_exec (isLive : b.live id = true) (prev : Nat) : ∃ b', b.setPrev id prev = some b' ∧
      b'.threads = { b.threads with prev := update b.threads.prev id prev } ∧
      b'.live = b.live := by
  rcases isSome_iff_exists.mp isLive with ⟨inst, there⟩
  rcases setInst_exec (fun inst => { inst with region_prev := prev }) there with
    ⟨b', written, threads', live'⟩
  rcases threads_of there with ⟨next, _, owner⟩
  refine ⟨b', written, ?_, live'⟩
  rw [threads', ← next, ← owner, update_eq_self, update_eq_self]

lemma setRegion_exec (isLive : b.live id = true) (region : Nat) :
    ∃ b', b.setRegion id region = some b' ∧
      b'.threads = { b.threads with owner := update b.threads.owner id region } ∧
      b'.live = b.live := by
  rcases isSome_iff_exists.mp isLive with ⟨inst, there⟩
  rcases setInst_exec (fun inst => { inst with region := region }) there with
    ⟨b', written, threads', live'⟩
  rcases threads_of there with ⟨next, prev, _⟩
  refine ⟨b', written, ?_, live'⟩
  rw [threads', ← next, ← prev, update_eq_self, update_eq_self]

def patched (links : Nat → Nat) (id value : Nat) : Nat → Nat :=
  if id = 0 then links else update links id value

lemma patched_apply (links : Nat → Nat) (value : Nat) {x : Nat} (isNode : x ≠ 0) :
    patched links id value x = if x = id then value else links x := by
  rw [patched]
  split
  · rename_i none
    rw [none, if_neg isNode]
  · exact update_apply links id value x

lemma linkNext_exec (isLive : id ≠ 0 → b.live id = true) (next : Nat) :
    ∃ b', b.linkNext id next = some b' ∧
      b'.threads = { b.threads with next := patched b.threads.next id next } ∧
      b'.live = b.live := by
  rw [linkNext, patched]
  by_cases none : id = 0
  · exact ⟨b, by simp [none], by rw [if_pos none], rfl⟩
  · rw [if_pos none, if_neg none]
    exact setNext_exec (isLive none) next

lemma linkPrev_exec (isLive : id ≠ 0 → b.live id = true) (prev : Nat) :
    ∃ b', b.linkPrev id prev = some b' ∧
      b'.threads = { b.threads with prev := patched b.threads.prev id prev } ∧
      b'.live = b.live := by
  rw [linkPrev, patched]
  by_cases none : id = 0
  · exact ⟨b, by simp [none], by rw [if_pos none], rfl⟩
  · rw [if_pos none, if_neg none]
    exact setPrev_exec (isLive none) prev

lemma unlink_exec (there : b.inst_tbl id = some inst)
    (nextLive : inst.region_next ≠ 0 → b.live inst.region_next = true)
    (prevLive : inst.region_prev ≠ 0 → b.live inst.region_prev = true) (region : Nat) :
    ∃ b', b.removeInst region id = some b' ∧ b'.live = b.live ∧
      b'.threads = if b.insts region = id then
        ⟨b.threads.next, patched b.threads.prev inst.region_next 0,
          update b.threads.owner id 0,
          update b.threads.head region inst.region_next⟩
      else
        ⟨patched b.threads.next inst.region_prev inst.region_next,
          patched b.threads.prev inst.region_next inst.region_prev,
          update b.threads.owner id 0, b.threads.head⟩ := by
  have isLive : b.live id = true := by rw [live, there]; rfl
  simp only [removeInst, there, bind_eq_bind, bind_some]
  by_cases isHead : b.insts region = id
  · rcases linkPrev_exec (b := b.setHead region inst.region_next) nextLive 0 with
      ⟨b₁, written₁, threads₁, live₁⟩
    rcases setRegion_exec (by rw [live₁]; exact isLive : b₁.live id = true) 0 with
      ⟨b', written, threads', live'⟩
    refine ⟨b', by rw [if_pos isHead, written₁, bind_some, written], live'.trans live₁, ?_⟩
    rw [if_pos isHead, threads', threads₁]
    rfl
  · rcases linkPrev_exec nextLive inst.region_prev with ⟨b₁, written₁, threads₁, live₁⟩
    have prevLive₁ : inst.region_prev ≠ 0 → b₁.live inst.region_prev = true := by
      rw [live₁]
      exact prevLive
    rcases linkNext_exec prevLive₁ inst.region_next with ⟨b₂, written₂, threads₂, live₂⟩
    rcases setRegion_exec (by rw [live₂, live₁]; exact isLive : b₂.live id = true) 0 with
      ⟨b', written, threads', live'⟩
    refine ⟨b', ?_, live'.trans (live₂.trans live₁), ?_⟩
    · rw [if_neg isHead, written₁, bind_some, written₂, bind_some, written]
    · rw [if_neg isHead, threads', threads₂, threads₁]

section

variable (consistent : b.Consistent)
include consistent

lemma removeInst_member (there : b.inst_tbl id = some inst) (isMember : inst.region ≠ 0)
    (isRegion : region ≠ 0) (asked : inst.region = region ∨ b.insts inst.region ≠ id) :
    ∃ b', b.removeInst region id = some b' ∧ b'.Consistent ∧ b'.live = b.live ∧
      b'.threads.owner id = 0 := by
  rcases threads_of there with ⟨isNext, isPrev, isOwner⟩
  have owned : b.threads.owner id ≠ 0 := isOwner ▸ isMember
  have ofNeighbour : ∀ {x}, b.threads.owner x = b.threads.owner id → b.live x = true := by
    intro x same
    rcases live_of_owner (same ▸ owned) with ⟨other, isOther⟩
    rw [live, isOther]
    rfl
  have ofHead : ∀ {l}, l ≠ 0 → b.insts l = id → inst.region = l := by
    intro l isList isHead
    have nonempty : b.threads.head l ≠ 0 := by
      rw [show b.threads.head l = id from isHead]
      exact owned_nonzero consistent owned
    rw [← isOwner, ← isHead]
    exact head_owner consistent isList nonempty
  rcases unlink_exec there
    (fun inner => ofNeighbour (isNext ▸ next_owner consistent owned (isNext ▸ inner)))
    (fun inner => ofNeighbour (isPrev ▸ prev_owner consistent owned (isPrev ▸ inner)))
    region with ⟨b', removed, live', threads'⟩
  refine ⟨b', removed, ?_, live', ?_⟩
  · by_cases isHead : b.insts region = id
    · rw [if_pos isHead] at threads'
      have isFirst : b.threads.prev id = 0 := by
        rw [← head_iff consistent owned, isOwner, ofHead isRegion isHead]
        exact isHead
      change b'.threads.Threaded
      apply threaded_remove consistent owned <;> simp only [threads']
      · intro x
        rw [update_apply]
      · intro l isList
        rw [update_apply, isNext]
        by_cases same : l = region
        · rw [if_pos same, same]
          exact (if_pos isHead).symm
        · rw [if_neg same, if_neg]
          intro other
          exact same ((ofHead isList other).symm.trans (ofHead isRegion isHead))
      · intro x _ inList
        rw [isFirst, if_neg (owned_nonzero consistent inList)]
      · intro x _ inList
        have nonzero := owned_nonzero consistent inList
        rw [isFirst, isNext, patched_apply _ _ nonzero]
    · rw [if_neg isHead] at threads'
      change b'.threads.Threaded
      apply threaded_remove consistent owned <;> simp only [threads']
      · intro x
        rw [update_apply]
      · intro l isList
        rw [if_neg]
        intro other
        have isRegion' := ofHead isList other
        rcases asked with same | notFirst
        · exact isHead (same ▸ isRegion' ▸ other)
        · exact notFirst (isRegion' ▸ other)
      · intro x _ inList
        have nonzero := owned_nonzero consistent inList
        rw [isPrev, isNext, patched_apply _ _ nonzero]
      · intro x _ inList
        have nonzero := owned_nonzero consistent inList
        rw [isPrev, isNext, patched_apply _ _ nonzero]
  · rw [threads']
    split <;> exact update_self _ _ _

lemma removeInst_free (there : b.inst_tbl id = some inst) (free : inst.region = 0)
    (harmless : b.Harmless inst) (isNode : id ≠ 0) (isRegion : region ≠ 0) :
    ∃ b', b.removeInst region id = some b' ∧ b'.Consistent ∧
      b'.live = b.live := by
  rcases threads_of there with ⟨_, _, isOwner⟩
  have liveOf : ∀ {x other}, b.inst_tbl x = some other → b.live x = true := fun isOther => by
    rw [live, isOther]
    rfl
  rcases unlink_exec there (fun inner => liveOf (harmless.1 inner).choose_spec.1)
    (fun inner => liveOf (harmless.2 inner).choose_spec.1) region with
    ⟨b', removed, live', threads'⟩
  have notHead : b.insts region ≠ id := by
    intro isHead
    have isHead' : b.threads.head region = id := isHead
    have owner := head_owner consistent isRegion (by rw [isHead']; exact isNode)
    rw [isHead', isOwner, free] at owner
    exact isRegion owner.symm
  rw [if_neg notHead] at threads'
  refine ⟨b', removed, ?_, live'⟩
  change b'.threads.Threaded
  apply threaded_congr consistent <;> simp only [threads']
  · intro x
    rw [update_apply]
    split
    · rename_i same
      rw [same, isOwner, free]
    · rfl
  · exact fun _ _ => trivial
  · intro x inList
    have nonzero := owned_nonzero consistent inList
    rw [patched_apply _ _ nonzero]
    split
    · rename_i isPrev
      rcases harmless.2 (isPrev ▸ nonzero) with ⟨prev, isThere, unowned | same⟩
      · exact absurd ((threads_of isThere).2.2.trans unowned) (isPrev ▸ inList)
      · rw [isPrev, (threads_of isThere).1, same]
    · rfl
  · intro x inList
    have nonzero := owned_nonzero consistent inList
    rw [patched_apply _ _ nonzero]
    split
    · rename_i isNext
      rcases harmless.1 (isNext ▸ nonzero) with ⟨next, isThere, unowned | same⟩
      · exact absurd ((threads_of isThere).2.2.trans unowned) (isNext ▸ inList)
      · rw [isNext, (threads_of isThere).2.1, same]
    · rfl

lemma freed_exec (there : b.inst_tbl id = some inst) :
    ∃ b', b.leaveRegion id inst = some b' ∧ b'.Consistent ∧ b'.live = b.live ∧
      b'.threads.owner id = 0 := by
  rw [leaveRegion]
  by_cases free : inst.region = 0
  · exact ⟨b, by simp [free], consistent, rfl, (threads_of there).2.2.trans free⟩
  · rw [if_pos free]
    exact removeInst_member consistent there free free (.inl rfl)

omit consistent in
lemma pushFront_eq (id head : Nat) (b : RegionBlock) : b.pushFront id head = (do
      let behind ← b.setNext id head
      let first ← behind.setPrev id 0
      first.linkPrev head id) := by
  rw [pushFront]
  split
  · rename_i inner
    simp only [linkPrev, if_pos inner]
  · rename_i none
    simp [linkPrev, not_not.mp none]

lemma addInst_exec (isNode : id ≠ 0) (isRegion : region ≠ 0) (there : b.inst_tbl id = some inst) :
    ∃ b', b.addInst region id = some b' ∧ b'.Consistent ∧ b'.live = b.live := by
  rcases freed_exec consistent there with ⟨free, freed, consistent', freeLive, unowned⟩
  have isLive : free.live id = true := by rw [freeLive, live, there]; rfl
  rcases setRegion_exec isLive region with ⟨named, isNamed, threads₁, live₁⟩
  rcases setNext_exec (by rw [live₁]; exact isLive : named.live id = true)
    (named.insts region) with ⟨behind, isBehind, threads₂, live₂⟩
  rcases setPrev_exec (by rw [live₂, live₁]; exact isLive : behind.live id = true) 0 with
    ⟨first, isFirst, threads₃, live₃⟩
  have heads : named.insts region = free.threads.head region :=
    congrFun (congrArg Threads.head threads₁) region
  have headLive : named.insts region ≠ 0 → first.live (named.insts region) = true := by
    intro nonempty
    rw [live₃, live₂, live₁, heads, live]
    have owner := head_owner consistent' isRegion (heads ▸ nonempty)
    rcases live_of_owner (owner.symm ▸ isRegion) with ⟨other, isOther⟩
    rw [isOther]
    rfl
  rcases linkPrev_exec headLive id with ⟨linked, isLinked, threads₄, live₄⟩
  refine ⟨linked.setHead region id, ?_, ?_,
    live₄.trans (live₃.trans (live₂.trans (live₁.trans freeLive)))⟩
  · simp only [addInst, there, freed, isNamed, pushFront_eq, isBehind, isFirst, isLinked,
      bind_eq_bind, bind_some]
  · have threads' : (linked.setHead region id).threads =
        ⟨update free.threads.next id (free.threads.head region),
          patched (update free.threads.prev id 0) (free.threads.head region) id,
          update free.threads.owner id region,
          update free.threads.head region id⟩ := by
      change { linked.threads with head := update linked.threads.head region id } = _
      rw [threads₄, threads₃, threads₂, threads₁, heads]
    have notHead : id ≠ free.threads.head region := by
      intro same
      have owner := head_owner consistent' isRegion (same ▸ isNode)
      rw [← same, unowned] at owner
      exact isRegion owner.symm
    rw [Consistent, threads']
    apply threaded_push consistent' isNode unowned isRegion
    · exact fun x => update_apply _ _ _ _
    · exact fun l _ => update_apply _ _ _ _
    · exact fun x _ => update_apply _ _ _ _
    · intro x either
      have nonzero : x ≠ 0 := either.elim (fun same => same ▸ isNode)
        (owned_nonzero consistent')
      change patched _ _ _ x = _
      rw [patched_apply _ _ nonzero, update_apply]
      by_cases isId : x = id
      · rw [if_pos isId, if_pos isId, if_neg (isId ▸ notHead)]
      · rw [if_neg isId, if_neg isId]

lemma destroyInst_exec (there : b.inst_tbl id = some inst) :
    ∃ b', b.destroyInst id = some b' ∧ b'.Consistent ∧
      b'.live = update b.live id false := by
  rcases freed_exec consistent there with ⟨free, freed, consistent', freeLive, unowned⟩
  refine ⟨{ free with inst_tbl := update free.inst_tbl id none }, ?_, ?_, ?_⟩
  · simp only [destroyInst, there, freed, bind_eq_bind, bind_some]
  · have others : ∀ x, free.threads.owner x ≠ 0 → x ≠ id := by
      rintro x inList rfl
      exact inList unowned
    apply threaded_congr consistent'
    · intro x
      by_cases same : x = id
      · rw [same, unowned]
        simp [threads]
      · simp [threads, same]
    · exact fun l _ => rfl
    · exact fun x inList => by simp [threads, others x inList]
    · exact fun x inList => by simp [threads, others x inList]
  · rw [← freeLive]
    funext x
    by_cases same : x = id <;> simp [live, same]

lemma createInst_consistent (gone : b.inst_tbl id = none) :
    (b.createInst id).Consistent := by
  have others : ∀ x, b.threads.owner x ≠ 0 → x ≠ id := by
    rintro x inList rfl
    exact inList (by simp [threads, gone])
  apply threaded_congr consistent
  · intro x
    by_cases same : x = id
    · simp [threads, createInst, same, gone]
    · simp [threads, createInst, same]
  · exact fun l _ => rfl
  · exact fun x inList => by simp [threads, createInst, others x inList]
  · exact fun x inList => by simp [threads, createInst, others x inList]

end

def Sound (b : Option RegionBlock) : Prop :=
  ∃ block, b = some block ∧ block.Consistent ∧ block.live 0 = false

lemma step_sound (b : Option RegionBlock) (call : Call) (sound : Sound b)
    (allowed : b.elim False (·.Allowed call)) : Sound (step b call) := by
  rcases sound with ⟨block, rfl, consistent, noNull⟩
  have isNode : ∀ {id inst}, block.inst_tbl id = some inst → id ≠ 0 := by
    rintro _ inst there rfl
    rw [live, there] at noNull
    cases noNull
  cases call with
  | create id =>
    rcases allowed with ⟨nonzero, gone⟩
    refine ⟨_, rfl, createInst_consistent consistent gone, ?_⟩
    simpa [live, createInst, update_of_ne (Ne.symm nonzero)] using noNull
  | add region id =>
    rcases allowed with ⟨isRegion, isLive⟩
    rcases isSome_iff_exists.mp isLive with ⟨inst, there⟩
    rcases addInst_exec consistent (isNode there) isRegion there with ⟨b', added, kept, same⟩
    exact ⟨b', added, kept, same ▸ noNull⟩
  | remove region id =>
    rcases allowed with ⟨isRegion, inst, there, asked⟩
    have removed : ∃ b', block.removeInst region id = some b' ∧ b'.Consistent ∧
        b'.live = block.live := by
      by_cases free : inst.region = 0
      · rcases asked with same | ⟨member, _⟩ | ⟨_, harmless⟩
        · exact absurd (same.symm.trans free) isRegion
        · exact absurd free member
        · exact removeInst_free consistent there free harmless (isNode there) isRegion
      · have mayLeave : inst.region = region ∨ block.insts inst.region ≠ id := by
          rcases asked with same | ⟨_, notFirst⟩ | ⟨unowned, _⟩
          · exact .inl same
          · exact .inr notFirst
          · exact absurd unowned free
        rcases removeInst_member consistent there free isRegion mayLeave with
          ⟨b', removed, kept, same, _⟩
        exact ⟨b', removed, kept, same⟩
    rcases removed with ⟨b', removed, kept, same⟩
    exact ⟨b', removed, kept, same ▸ noNull⟩
  | destroy id =>
    rcases isSome_iff_exists.mp allowed with ⟨inst, there⟩
    rcases destroyInst_exec consistent there with ⟨b', destroyed, kept, same⟩
    refine ⟨b', destroyed, kept, ?_⟩
    rw [same, update_apply, noNull, ite_self]

lemma sound_new : Sound (some new) :=
  ⟨new, rfl, fun _ isList => ⟨[], rfl, fun _ => iff_of_false List.not_mem_nil isList.symm⟩, rfl⟩

theorem region_lists_consistent (calls : List Call)
    (allowed : EachCall step (fun b call => b.elim False (·.Allowed call)) (some new) calls) :
    Throughout step (fun b => ∃ block, b = some block ∧ block.Consistent) (some new) calls :=
  throughout_mono (fun _ ⟨block, same, consistent, _⟩ => ⟨block, same, consistent⟩)
    (throughout_of_each step_sound sound_new allowed)

theorem region_lists_consistent_sample :
    Throughout step (fun b => ∃ block, b = some block ∧ block.Consistent) (some new)
      [.create 1, .add 1 1, .add 2 1, .remove 2 1] := by
  apply region_lists_consistent
  simp only [eachCall_cons, eachCall_nil, and_true]
  exact ⟨⟨by decide, rfl⟩, ⟨by decide, rfl⟩, ⟨by decide, rfl⟩, by decide, _, rfl, .inl rfl⟩

theorem foreign_removal_inconsistent :
    ¬ ∀ calls : List Call, (∀ call ∈ calls, ∀ region id, call = .remove region id → region ≠ 0) →
      ∀ block, run step (some new) calls = some block → block.Consistent := by
  intro all
  have consistent := all [.create 1, .add 1 1, .remove 2 1] (by
    intro call member region id same
    subst same
    simp at member
    omega) _ rfl
  rcases consistent 1 (by decide) with ⟨ids, linked, members⟩
  have member := chain_head_mem (linked_chain linked) (by decide)
  exact absurd ((members _).mp member) (by decide)

end RegionBlock

end OpenRoad.Odb
