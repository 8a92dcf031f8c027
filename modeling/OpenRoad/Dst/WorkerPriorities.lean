import OpenRoad.Dst.Broadcasts

/-! The queue of workers and their priorities over any run of calls. -/

namespace OpenRoad.Dst

open OpenRoad.Lib List

inductive WorkerCall
  | addWorker (address : Address) (delivered : Deliveries)
  | getNextWorker
  | updateWorker (address : Address)
  | punishWorker (address : Address)
  | removeWorkerLocked (address : Address)

structure Roster where
  balancer : LoadBalancer
  present : List Address

namespace Roster

def start (broadcastData : List Data) : Roster := ⟨⟨[], broadcastData⟩, []⟩

def step (queue : Top) (roster : Roster) : WorkerCall → Roster
  | .addWorker address delivered =>
    let answer := roster.balancer.addWorker address delivered
    ⟨answer.2, if answer.1 then roster.present ++ [address] else roster.present⟩
  | .getNextWorker =>
    { roster with
      balancer.workers := (Dst.getNextWorker queue roster.balancer.workers).2 }
  | .updateWorker address =>
    { roster with balancer.workers := Dst.updateWorker address roster.balancer.workers }
  | .punishWorker address =>
    { roster with balancer.workers := Dst.punishWorker address roster.balancer.workers }
  | .removeWorkerLocked address =>
    { balancer := { roster.balancer with
        workers := Dst.removeWorkerLocked address roster.balancer.workers }
      present := roster.present.filter fun other => other ≠ address }

/-- The queue holds the workers that are present, each with an unsigned 16-bit priority. -/
def Accurate (roster : Roster) : Prop :=
  (roster.balancer.workers.map Worker.address).Perm roster.present ∧
    ∀ worker ∈ roster.balancer.workers, worker.priority < 2 ^ 16

def Changes (order : Nat → Nat → Prop) : List Worker → List Worker → Prop :=
  Forall₂ fun old new => new.address = old.address ∧ order old.priority new.priority

def Fair (queue : Top) (roster : Roster) : WorkerCall → Prop
  | .getNextWorker => roster.balancer.workers ≠ [] → ∃ worker ∈ roster.balancer.workers,
      (Dst.getNextWorker queue roster.balancer.workers).1 = some worker.address ∧
        ∀ other ∈ roster.balancer.workers, worker.priority ≤ other.priority
  | .updateWorker address => Changes (· ≥ ·) roster.balancer.workers
      (Dst.updateWorker address roster.balancer.workers)
  | .punishWorker address => Changes (· ≤ ·) roster.balancer.workers
      (Dst.punishWorker address roster.balancer.workers)
  | .addWorker .. => True
  | .removeWorkerLocked _ => True

/-- No punished worker is in the upper half of the range and no released one has priority 0. -/
def Unwrapped (roster : Roster) : WorkerCall → Prop
  | .updateWorker address =>
    ∀ worker ∈ roster.balancer.workers, worker.address = address → worker.priority ≠ 0
  | .punishWorker address =>
    ∀ worker ∈ roster.balancer.workers, worker.address = address → worker.priority < 2 ^ 15
  | .addWorker .. => True
  | .getNextWorker => True
  | .removeWorkerLocked _ => True

lemma wrap_lt (n : Nat) : wrap n < 2 ^ 16 := by
  rw [wrap]
  omega

lemma changePriority_small {change : Nat → Nat} {address : Address} {workers : List Worker}
    (keeps : ∀ priority, priority < 2 ^ 16 → change priority < 2 ^ 16)
    (small : ∀ worker ∈ workers, worker.priority < 2 ^ 16) :
    ∀ worker ∈ changePriority change address workers, worker.priority < 2 ^ 16 := by
  simp only [changePriority, mem_map]
  rintro _ ⟨worker, member, rfl⟩
  split
  · exact keeps _ (small worker member)
  · exact small worker member

lemma changes_iff (order : Nat → Nat → Prop) (same : ∀ n, order n n) (change : Nat → Nat)
    (address : Address) (workers : List Worker) :
    Changes order workers (changePriority change address workers) ↔
      ∀ worker ∈ workers, worker.address = address →
        order worker.priority (change worker.priority) := by
  rw [Changes, changePriority, forall₂_map_right_iff, forall₂_same]
  apply forall₂_congr
  intro worker _
  by_cases isAddress : worker.address = address
  · simp [isAddress]
  · simp [isAddress, same]

lemma next_worker (queue : Top) (workers : List Worker) (notEmpty : workers ≠ []) :
    ∃ worker ∈ workers, (getNextWorker queue workers).1 = some worker.address ∧
      ∀ other ∈ workers, worker.priority ≤ other.priority := by
  obtain ⟨worker, isTop⟩ := Option.isSome_iff_exists.mp (queue.picks workers notEmpty)
  exact ⟨worker, queue.mem _ _ isTop, by rw [getNextWorker, isTop], queue.least _ _ isTop⟩

lemma getNextWorker_accurate (queue : Top) {workers : List Worker}
    (small : ∀ worker ∈ workers, worker.priority < 2 ^ 16) :
    ((getNextWorker queue workers).2.map Worker.address).Perm (workers.map Worker.address) ∧
      ∀ worker ∈ (getNextWorker queue workers).2, worker.priority < 2 ^ 16 := by
  rw [getNextWorker]
  split
  · exact ⟨.refl _, small⟩
  · next worker isTop =>
    have member := queue.mem _ _ isTop
    constructor
    · rw [map_append, map_singleton]
      exact (perm_append_singleton _ _).trans ((perm_cons_erase member).map Worker.address).symm
    · intro other isOther
      rcases mem_append.mp isOther with kept | raised
      · exact small other (mem_of_mem_erase kept)
      · rw [mem_singleton] at raised
        subst raised
        have before := small worker member
        by_cases isMax : worker.priority = maxPriority
        · simpa [isMax] using before
        · simp only [ne_eq, isMax, not_false_eq_true, if_true]
          rw [maxPriority] at isMax
          omega

lemma changed_accurate {roster : Roster} (accurate : roster.Accurate) {change : Nat → Nat}
    (keeps : ∀ priority, priority < 2 ^ 16 → change priority < 2 ^ 16) (address : Address) :
    Accurate { roster with
      balancer.workers := changePriority change address roster.balancer.workers } := by
  constructor
  · simpa only [addresses_changePriority] using accurate.1
  · exact changePriority_small keeps accurate.2

lemma step_accurate (queue : Top) {roster : Roster} (accurate : roster.Accurate)
    (call : WorkerCall) : (roster.step queue call).Accurate := by
  obtain ⟨members, small⟩ := accurate
  cases call with
  | addWorker address delivered =>
      simp only [step, LoadBalancer.addWorker, decide_eq_true_eq]
      split
      · constructor
        · rw [map_append, map_singleton]
          exact members.append_right _
        · intro worker member
          rcases mem_append.mp member with old | new
          · exact small worker old
          · rw [mem_singleton.mp new]
            simp
      · exact ⟨members, small⟩
  | getNextWorker =>
      obtain ⟨same, stillSmall⟩ := getNextWorker_accurate queue small
      exact ⟨same.trans members, stillSmall⟩
  | updateWorker address => exact changed_accurate ⟨members, small⟩ (fun _ _ => wrap_lt _) address
  | punishWorker address =>
      apply changed_accurate ⟨members, small⟩
      intro priority _
      split
      · decide
      · exact wrap_lt _
  | removeWorkerLocked address =>
      constructor
      · have kept := members.filter fun other => other ≠ address
        rwa [filter_map] at kept
      · intro worker member
        exact small worker (mem_of_mem_filter member)

lemma fair_iff (queue : Top) {roster : Roster} (accurate : roster.Accurate) (call : WorkerCall) :
    roster.Fair queue call ↔ roster.Unwrapped call := by
  have small := accurate.2
  cases call with
  | addWorker address delivered => rfl
  | getNextWorker => exact iff_of_true (next_worker queue _) trivial
  | updateWorker address =>
      simp only [Fair, Unwrapped, updateWorker, changes_iff (· ≥ ·) le_refl]
      apply forall₂_congr
      intro worker member
      have bound := small worker member
      have lowered : wrap (worker.priority + maxPriority) ≤ worker.priority ↔
          worker.priority ≠ 0 := by
        rw [wrap, maxPriority]
        omega
      rw [← lowered]
  | punishWorker address =>
      simp only [Fair, Unwrapped, punishWorker, changes_iff (· ≤ ·) le_refl]
      apply forall₂_congr
      intro worker member
      have bound := small worker member
      have raised : (worker.priority ≤ if worker.priority = 0 then 2
          else wrap (worker.priority * 2)) ↔ worker.priority < 2 ^ 15 := by
        rw [wrap]
        split <;> omega
      rw [raised]
  | removeWorkerLocked address => rfl

theorem priorities_fair_iff (queue : Top) (broadcastData : List Data) (calls : List WorkerCall) :
    Throughout (step queue) (fun roster =>
        (roster.balancer.workers.map Worker.address).Perm roster.present)
      (start broadcastData) calls ∧
    (EachCall (step queue) (Fair queue) (start broadcastData) calls ↔
      EachCall (step queue) Unwrapped (start broadcastData) calls) := by
  have begun : (start broadcastData).Accurate := ⟨.refl _, nofun⟩
  have accurate : ∀ calls, (run (step queue) (start broadcastData) calls).Accurate := by
    intro calls
    exact run_invariant (fun _ call (_ : True) holds => step_accurate queue holds call)
      (fun _ _ => trivial) begun
  constructor
  · intro front _
    exact (accurate front).1
  · apply forall₃_congr
    intro front call _
    exact fair_iff queue (accurate front) call

def releasedTwice (address : Address) : List WorkerCall :=
  [.addWorker address fun _ => true, .addWorker address fun _ => true, .getNextWorker,
    .updateWorker address]

theorem priorities_wrap :
    ((run (step leastFirst) (start []) (releasedTwice ⟨"127.0.0.1", 5556⟩)).balancer.workers.map
      Worker.priority = [65535, 0]) ∧
    ((run (step leastFirst) (start []) (.addWorker ⟨"127.0.0.1", 5556⟩ (fun _ => true) ::
      .getNextWorker :: replicate 16 (.punishWorker ⟨"127.0.0.1", 5556⟩))).balancer.workers.map
      Worker.priority = [0]) ∧
    ¬ ∀ calls, EachCall (step leastFirst) (Fair leastFirst) (start []) calls := by
  refine ⟨by decide, by decide, ?_⟩
  intro fair
  have released := fair (releasedTwice ⟨"127.0.0.1", 5556⟩) [.addWorker ⟨"127.0.0.1", 5556⟩ _,
    .addWorker ⟨"127.0.0.1", 5556⟩ _, .getNextWorker] _ (prefix_refl _)
  rw [Fair, updateWorker, changes_iff (· ≥ ·) le_refl] at released
  have idle := released ⟨⟨"127.0.0.1", 5556⟩, 0⟩ (by decide) rfl
  revert idle
  decide

end Roster

end OpenRoad.Dst
