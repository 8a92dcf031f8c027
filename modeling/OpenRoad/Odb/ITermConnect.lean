import Mathlib.Tactic.Common

/-! Connecting a terminal of an instance to a net and to a modnet (dbITerm.cpp), and when a call
that raises an error leaves the block as it was. An id of 0 is none; callbacks are left out. -/

namespace OpenRoad.Odb.ITermBlock

structure ITerm where
  inst : Nat
  net : Nat
  mnet : Nat
  next_net_iterm : Nat
  prev_net_iterm : Nat
  next_modnet_iterm : Nat
  prev_modnet_iterm : Nat
  deriving DecidableEq

structure Net where
  dont_touch : Bool
  iterms : Nat
  deriving DecidableEq

structure NetPtr where
  block : Nat
  oid : Nat
  deriving DecidableEq

inductive Record where
  | kConnectObject (iterm net modNet : Nat)
  | kDisconnectObject (iterm net modNet : Nat)
  deriving DecidableEq

/-- The block `self` with the nets of every block; `dont_touch` is that of its instances. -/
structure Block where
  self : Nat
  dont_touch : Nat → Bool
  iterms : Nat → ITerm
  nets : NetPtr → Net
  modnet_iterms : Nat → Nat
  journal : Option (List Record)

abbrev Fault := Nat

abbrev Outcome := Except Fault Unit × Block

structure Links where
  next : ITerm → Nat
  prev : ITerm → Nat
  setNext : Nat → ITerm → ITerm
  setPrev : Nat → ITerm → ITerm

def netLinks : Links where
  next := ITerm.next_net_iterm
  prev := ITerm.prev_net_iterm
  setNext id iterm := { iterm with next_net_iterm := id }
  setPrev id iterm := { iterm with prev_net_iterm := id }

def modNetLinks : Links where
  next := ITerm.next_modnet_iterm
  prev := ITerm.prev_modnet_iterm
  setNext id iterm := { iterm with next_modnet_iterm := id }
  setPrev id iterm := { iterm with prev_modnet_iterm := id }

namespace Block

variable (s : Block) (t : Nat)

def setITerm (id : Nat) (write : ITerm → ITerm) : Block :=
  { s with iterms := Function.update s.iterms id (write (s.iterms id)) }

def setHead (net : NetPtr) (id : Nat) : Block :=
  { s with nets := Function.update s.nets net { s.nets net with iterms := id } }

def setModHead (mod_net id : Nat) : Block :=
  { s with modnet_iterms := Function.update s.modnet_iterms mod_net id }

def record (entry : Record) : Block := { s with journal := s.journal.map (· ++ [entry]) }

def linkITerm (id : Nat) (write : ITerm → ITerm) : Block :=
  if id ≠ 0 then s.setITerm id write else s

/-- The unlinking that the disconnects of nets and of modnets share. -/
def unlink (links : Links) (head : Nat) (headed : Nat → Block → Block) : Block :=
  let next := links.next (s.iterms t)
  let prev := links.prev (s.iterms t)
  if head = t then (headed next s).linkITerm next (links.setPrev 0)
  else (s.linkITerm next (links.setPrev prev)).linkITerm prev (links.setNext next)

def ownNet : NetPtr := ⟨s.self, (s.iterms t).net⟩

def disconnectDbNet : Outcome :=
  let net := s.ownNet t
  if (s.iterms t).net = 0 then (.ok (), s)
  else if s.dont_touch (s.iterms t).inst then (.error 1104, s)
  else if (s.nets net).dont_touch then (.error 1105, s)
  else
    let recorded := s.record (.kDisconnectObject t net.oid 0)
    let unlinked := recorded.unlink t netLinks (s.nets net).iterms fun id s => s.setHead net id
    (.ok (), unlinked.setITerm t fun iterm => { iterm with net := 0 })

def disconnectDbModNet : Block :=
  let mod_net := (s.iterms t).mnet
  if mod_net ≠ 0 then
    let recorded := s.record (.kDisconnectObject t 0 mod_net)
    let unlinked := recorded.unlink t modNetLinks (s.modnet_iterms mod_net)
      fun id s => s.setModHead mod_net id
    unlinked.setITerm t fun iterm =>
      { iterm with next_modnet_iterm := 0, prev_modnet_iterm := 0, mnet := 0 }
  else s

/-- The part of `connect(dbNet*)` after its guards. -/
def joinNet (net : NetPtr) : Block :=
  let recorded := s.record (.kConnectObject t net.oid 0)
  let head := (s.nets net).iterms
  let first := recorded.setITerm t fun iterm =>
    { iterm with net := net.oid, next_net_iterm := head, prev_net_iterm := 0 }
  (first.linkITerm head (netLinks.setPrev t)).setHead net t

def connectNet (target : Option NetPtr) : Outcome :=
  match target with
  | none => (.error 440, s)
  | some net =>
    if (s.iterms t).net = net.oid then (.ok (), s)
    else if s.dont_touch (s.iterms t).inst then (.error 369, s)
    else if (s.nets net).dont_touch then (.error 373, s)
    else if net.block ≠ s.self then (.error 433, s)
    else
      match if (s.iterms t).net ≠ 0 then s.disconnectDbNet t else (.ok (), s) with
      | (.error fault, s) => (.error fault, s)
      | (.ok (), s) => (.ok (), s.joinNet t net)

/-- The part of `connect(dbModNet*)` after its guard. -/
def joinModNet (mod_net : Nat) : Block :=
  let recorded := s.record (.kConnectObject t 0 mod_net)
  let head := s.modnet_iterms mod_net
  let behind := recorded.setITerm t (modNetLinks.setNext head)
  let first := (behind.linkITerm head (modNetLinks.setPrev t)).setITerm t (modNetLinks.setPrev 0)
  first.setModHead mod_net t

def connectModNet (mod_net : Nat) : Outcome :=
  if (s.iterms t).mnet = mod_net then (.ok (), s)
  else
    -- the modnet is written before the guard
    let named := (s.disconnectDbModNet t).setITerm t fun iterm => { iterm with mnet := mod_net }
    if s.dont_touch (s.iterms t).inst then (.error 397, named)
    else (.ok (), named.joinModNet t mod_net)

end Block

/-- The overloads of `connect`. -/
inductive Call where
  | net (target : Option NetPtr)
  | modNet (mod_net : Nat)
  | both (target : Option NetPtr) (mod_net : Nat)

def Call.mod_net : Call → Option Nat
  | .net _ => none
  | .modNet mod_net => some mod_net
  | .both _ mod_net => some mod_net

namespace Block

variable {s : Block} {t : Nat} {fault : Fault}

def connect (s : Block) (t : Nat) : Call → Outcome
  | .net target => s.connectNet t target
  | .modNet mod_net => s.connectModNet t mod_net
  | .both target mod_net =>
    match s.connectModNet t mod_net with
    | (.error fault, s) => (.error fault, s)
    | (.ok (), s) => s.connectNet t target

lemma disconnectDbNet_raised (raised : (s.disconnectDbNet t).1 = .error fault) :
    (s.disconnectDbNet t).2 = s := by
  unfold disconnectDbNet at raised ⊢
  simp only at raised ⊢
  split
  · rfl
  · split
    · rfl
    · split
      · rfl
      · simp_all

lemma connectNet_raised (target : Option NetPtr)
    (raised : (s.connectNet t target).1 = .error fault) : (s.connectNet t target).2 = s := by
  cases target with
  | none => rfl
  | some net =>
    unfold connectNet at raised ⊢
    by_cases own : (s.iterms t).net = net.oid
    · simp [own] at raised
    by_cases locked : s.dont_touch (s.iterms t).inst = true
    · simp [own, locked]
    by_cases fixed : (s.nets net).dont_touch = true
    · simp [own, locked, fixed]
    by_cases foreign : net.block = s.self
    · simp only [own, locked, fixed, foreign, if_false, ne_eq, not_true] at raised ⊢
      by_cases free : (s.iterms t).net = 0
      · simp [free] at raised
      · rcases ran : s.disconnectDbNet t with ⟨fault' | done, mid⟩
        · have kept := disconnectDbNet_raised (congrArg Prod.fst ran)
          rw [ran] at kept
          simpa [free, ran] using kept
        · simp [free, ran] at raised
    · simp [own, locked, fixed, foreign]

lemma setITerm_mnet {write : ITerm → ITerm} (keeps : ∀ it, (write it).mnet = it.mnet)
    (s : Block) (id other : Nat) :
    ((s.setITerm id write).iterms other).mnet = (s.iterms other).mnet := by
  by_cases here : other = id <;> simp [setITerm, here, keeps]

lemma linkITerm_mnet {write : ITerm → ITerm} (keeps : ∀ it, (write it).mnet = it.mnet)
    (s : Block) (id other : Nat) :
    ((s.linkITerm id write).iterms other).mnet = (s.iterms other).mnet := by
  unfold linkITerm
  split
  · exact setITerm_mnet keeps s id other
  · rfl

lemma joinModNet_mnet (s : Block) (mod_net other : Nat) :
    ((s.joinModNet t mod_net).iterms other).mnet = (s.iterms other).mnet := by
  simp only [joinModNet, setModHead]
  rw [setITerm_mnet, linkITerm_mnet, setITerm_mnet]
  · rfl
  all_goals exact fun _ => rfl

lemma connectModNet_mnet (s : Block) (t mod_net : Nat) :
    ((s.connectModNet t mod_net).2.iterms t).mnet = mod_net := by
  have named : ∀ s' : Block,
      ((s'.setITerm t fun iterm => { iterm with mnet := mod_net }).iterms t).mnet = mod_net := by
    simp [setITerm]
  unfold connectModNet
  by_cases stays : (s.iterms t).mnet = mod_net
  · rw [if_pos stays]
    exact stays
  · rw [if_neg stays]
    simp only
    split
    · exact named _
    · exact (joinModNet_mnet _ mod_net t).trans (named _)

lemma connectModNet_stays {mod_net : Nat} (stays : (s.iterms t).mnet = mod_net) :
    s.connectModNet t mod_net = (.ok (), s) := if_pos stays

/-- A call that raises an error leaves the block as it was exactly if it does not name a modnet
other than the one of the terminal. -/
theorem raised_unchanged_iff (s : Block) (t : Nat) (call : Call)
    (raised : (s.connect t call).1 = .error fault) : (s.connect t call).2 = s ↔
      ∀ mod_net, call.mod_net = some mod_net → (s.iterms t).mnet = mod_net := by
  have moved {mod_net : Nat} {s' : Block} (on : (s'.iterms t).mnet = mod_net) (same : s' = s) :
      (s.iterms t).mnet = mod_net := same ▸ on
  cases call with
  | net target =>
    exact iff_of_true (connectNet_raised target raised) fun _ named => nomatch named
  | modNet mod_net =>
    constructor
    · rintro same _ ⟨⟩
      exact moved (connectModNet_mnet s t mod_net) same
    · intro stays
      exact congrArg Prod.snd (connectModNet_stays (stays mod_net rfl))
  | both target mod_net =>
    have on := connectModNet_mnet s t mod_net
    simp only [connect] at raised ⊢
    rcases ran : s.connectModNet t mod_net with ⟨fault' | done, mid⟩ <;> rw [ran] at raised on
    · refine iff_of_false (fun same => ?_) fun stays => ?_
      · have still := connectModNet_stays (moved on same)
        rw [ran] at still
        cases still
      · have still := connectModNet_stays (stays mod_net rfl)
        rw [ran] at still
        cases still
    · have kept : (mid.connectNet t target).2 = mid := connectNet_raised target raised
      simp only [kept]
      constructor
      · rintro same _ ⟨⟩
        exact moved on same
      · intro stays
        have still := connectModNet_stays (stays mod_net rfl)
        rw [ran] at still
        exact congrArg Prod.snd still

end Block

section Sample

def lockedBlock : Block where
  self := 1
  dont_touch _ := true
  iterms _ := ⟨1, 0, 1, 0, 0, 0, 0⟩
  nets _ := ⟨false, 0⟩
  modnet_iterms mod_net := if mod_net = 1 then 1 else 0
  journal := some []

theorem raised_unchanged_sample : (lockedBlock.connect 1 (.net (some ⟨1, 1⟩))).2 = lockedBlock :=
  (Block.raised_unchanged_iff lockedBlock 1 (.net (some ⟨1, 1⟩))
    (rfl : _ = Except.error 369)).mpr fun _ named => nomatch named

/-- The refused connection to modnet 2 takes the terminal off modnet 1. -/
theorem refused_connect_half_done :
    (lockedBlock.connect 1 (.modNet 2)).1 = .error 397 ∧
      ((lockedBlock.connect 1 (.modNet 2)).2.iterms 1).mnet = 2 ∧
      (lockedBlock.connect 1 (.modNet 2)).2.modnet_iterms 1 = 0 ∧
      (lockedBlock.connect 1 (.modNet 2)).2.journal = some [.kDisconnectObject 1 0 1] :=
  ⟨rfl, rfl, rfl, rfl⟩

end Sample

end OpenRoad.Odb.ITermBlock
