import OpenRoad.Dst.LoadBalancer

/-! What workers have received, and when the answer to a broadcast is true. -/

namespace OpenRoad.Dst

open OpenRoad.Lib List

lemma length_failed_add_reached (workers : List Worker) (delivered : Deliveries) :
    (failedWorkers workers delivered).length + (reachedWorkers workers delivered).length =
      workers.length := by
  have split := length_eq_length_filter_add (l := workers.zipIdx)
    (fun entry : Worker × Nat => delivered entry.2)
  rw [length_zipIdx] at split
  rw [failedWorkers, reachedWorkers, length_map, length_map, split, Nat.add_comm]
  simp

variable {workers : List Worker}

lemma failed_or_reached {worker : Worker} (delivered : Deliveries) (member : worker ∈ workers) :
    worker.address ∈ failedWorkers workers delivered ∨
      worker.address ∈ reachedWorkers workers delivered := by
  rcases mem_iff_getElem?.mp member with ⟨i, atIndex⟩
  have entry : (worker, i) ∈ workers.zipIdx := mk_mem_zipIdx_iff_getElem?.mpr atIndex
  cases isDelivered : delivered i with
  | false =>
    left
    exact mem_map.mpr ⟨(worker, i), mem_filter.mpr ⟨entry, by simp [isDelivered]⟩, rfl⟩
  | true =>
    right
    exact mem_map.mpr ⟨(worker, i), mem_filter.mpr ⟨entry, isDelivered⟩, rfl⟩

lemma foldl_removeWorkerLocked (addresses : List Address) (workers : List Worker) :
    addresses.foldl (fun workers address => removeWorkerLocked address workers) workers =
      workers.filter fun worker => worker.address ∉ addresses := by
  induction addresses generalizing workers with
  | nil => simp
  | cons address addresses ih =>
    rw [foldl_cons, ih, removeWorkerLocked, filter_filter]
    apply filter_congr
    intro worker _
    simp [Bool.and_comm]

def UpToDate (world : World) : Prop :=
  ∀ worker ∈ world.balancer.workers,
    world.balancer.broadcastData.Sublist (world.received worker.address)

lemma addresses_changePriority (change : Nat → Nat) (address : Address) (workers : List Worker) :
    (changePriority change address workers).map Worker.address = workers.map Worker.address := by
  rw [changePriority, map_map]
  apply map_congr_left
  intro worker _
  rw [Function.comp_apply]
  split
  · rfl
  · rfl

variable {queue : Top}

lemma mem_addresses_getNextWorker {address : Address}
    (member : address ∈ (getNextWorker queue workers).2.map Worker.address) :
    address ∈ workers.map Worker.address := by
  rw [getNextWorker] at member
  cases top : queue.top workers with
  | none =>
    rw [top] at member
    exact member
  | some worker =>
    rw [top, map_append, mem_append] at member
    rcases member with other | last
    · exact map_subset _ erase_subset other
    · rw [map_singleton, mem_singleton] at last
      rw [last]
      have isMember := queue.mem workers worker top
      exact mem_map.mpr ⟨worker, isMember, rfl⟩

variable {world : World}

lemma UpToDate.of_addresses (upToDate : UpToDate world)
    (addresses : ∀ address ∈ workers.map Worker.address,
      address ∈ world.balancer.workers.map Worker.address) :
    UpToDate { world with balancer.workers := workers } := by
  intro worker member
  rcases mem_map.mp (addresses _ (mem_map_of_mem member)) with ⟨other, isOther, same⟩
  have sublist := upToDate other isOther
  rw [same] at sublist
  exact sublist

lemma replay_all {delivered : Deliveries} {data : List Data}
    (all : (replay delivered data).length = data.length) : replay delivered data = data := by
  have isPrefix : replay delivered data <+: data := by
    have whole := ( takeWhile_prefix (l := data.zipIdx)
      (fun entry : Data × Nat => delivered entry.2)).map Prod.fst
    rw [zipIdx_map_fst] at whole
    exact whole
  exact isPrefix.eq_of_length all

lemma UpToDate.addWorker (upToDate : UpToDate world) (address : Address) (delivered : Deliveries) :
    UpToDate (world.step queue (.addWorker address delivered)) := by
  have grown : ∀ other, (world.received other).Sublist
      ((world.step queue (.addWorker address delivered)).received other) := by
    intro other
    simp only [World.step]
    by_cases same : other = address
    · subst same
      rw [Function.update_self]
      exact sublist_append_left _ _
    · rw [Function.update_of_ne same]
  intro worker member
  have sameData : (world.step queue (.addWorker address delivered)).balancer.broadcastData =
      world.balancer.broadcastData := by
    simp only [World.step, LoadBalancer.addWorker]
    split
    · rfl
    · rfl
  rw [sameData]
  simp only [World.step, LoadBalancer.addWorker, decide_eq_true_eq] at member
  split at member
  · rename_i all
    rcases mem_append.mp member with old | new
    · exact (upToDate worker old).trans (grown worker.address)
    · rw [mem_singleton.mp new, World.step]
      simp only [Function.update_self, replay_all all]
      exact sublist_append_right _ _
  · exact (upToDate worker member).trans (grown worker.address)

lemma UpToDate.broadcast (upToDate : UpToDate world) (data : Data) (delivered : Deliveries) :
    UpToDate (world.step queue (.broadcast data delivered)) := by
  intro worker member
  simp only [World.step, LoadBalancer.broadcast, foldl_removeWorkerLocked, mem_filter,
    decide_eq_true_eq] at member ⊢
  -- a worker that stays was reached in its own place of the queue
  have reached := (failed_or_reached delivered member.1).resolve_left member.2
  have one : ([data] : List Data).Sublist
      (replicate ((reachedWorkers world.balancer.workers delivered).count worker.address)
        data) := by
    rw [← replicate_one, replicate_sublist_replicate]
    exact one_le_count_iff.mpr reached
  exact (upToDate worker member.1).append one

lemma step_upToDate (queue : Top) (upToDate : UpToDate world) (request : Request) :
    UpToDate (world.step queue request) := by
  cases request with
  | addWorker address delivered => exact upToDate.addWorker address delivered
  | broadcast data delivered => exact upToDate.broadcast data delivered
  | getNextWorker => exact upToDate.of_addresses fun _ => mem_addresses_getNextWorker
  | updateWorker address =>
    apply upToDate.of_addresses
    intro other member
    rwa [updateWorker, addresses_changePriority] at member
  | punishWorker address =>
    apply upToDate.of_addresses
    intro other member
    rwa [punishWorker, addresses_changePriority] at member

/-- The answer counts the workers reached, and it is an error if too many deliveries failed or all
of them did. -/
def Answered.Truthful (answered : Answered) : Prop :=
  answered.reply.workersCount = answered.reached ∧
    (answered.reply.error = true ↔ answered.failed > kMaxBroadcastFailedNodes ∨
      (0 < answered.failed ∧ answered.reached = 0))

instance (answered : Answered) : Decidable answered.Truthful :=
  inferInstanceAs (Decidable (_ ∧ _))

/-- Not too few deliveries fail to be an error, or none fails. -/
def Countable (workers : List Worker) : Request → Prop
  | .broadcast _ delivered =>
    let failed := failedWorkers workers delivered
    let reached := reachedWorkers workers delivered
    reached.length < 2 ^ 16 ∧ (failed = [] ∨ kMaxBroadcastFailedNodes < failed.length ∨
        (reached ≠ [] ∧
          failed.length ≠ (workers.filter fun worker => worker.address ∉ failed).length))
  | _ => True

lemma length_stays_le (workers : List Worker) (delivered : Deliveries) :
    (workers.filter fun worker => worker.address ∉ failedWorkers workers delivered).length ≤
      (reachedWorkers workers delivered).length := by
  have entries : workers.filter (fun worker => worker.address ∉ failedWorkers workers delivered) =
      (workers.zipIdx.filter fun entry =>
        entry.1.address ∉ failedWorkers workers delivered).map Prod.fst := by
    have filtered := filter_map (f := Prod.fst) (l := workers.zipIdx)
      (p := fun worker : Worker => decide (worker.address ∉ failedWorkers workers delivered))
    rw [zipIdx_map_fst] at filtered
    exact filtered
  rw [entries, reachedWorkers, length_map, length_map, ← countP_eq_length_filter,
    ← countP_eq_length_filter]
  apply countP_mono_left
  intro entry member stays
  rw [decide_eq_true_eq] at stays
  by_contra missed
  exact stays (mem_map.mpr ⟨entry, mem_filter.mpr ⟨member, by simp [missed]⟩, rfl⟩)

lemma broadcast_truthful_iff (balancer : LoadBalancer) (data : Data) (delivered : Deliveries) :
    Answered.Truthful ⟨(reachedWorkers balancer.workers delivered).length,
      (failedWorkers balancer.workers delivered).length,
      (balancer.broadcast data delivered).1⟩ ↔
    Countable balancer.workers (.broadcast data delivered) := by
  have total := length_failed_add_reached balancer.workers delivered
  have count : balancer.workers.length - (failedWorkers balancer.workers delivered).length =
      (reachedWorkers balancer.workers delivered).length := by omega
  have stays := length_stays_le balancer.workers delivered
  simp only [Answered.Truthful, LoadBalancer.broadcast, Countable, foldl_removeWorkerLocked, count,
    decide_eq_true_eq, wrap, kMaxBroadcastFailedNodes, ne_eq, ← length_eq_zero_iff]
  generalize (failedWorkers balancer.workers delivered).length = failed at *
  generalize (reachedWorkers balancer.workers delivered).length = reached at *
  omega

/-- The workers are up to date, and the answers are true if each broadcast is one they can tell of.
-/
theorem broadcasts_truthful_iff (queue : Top) (requests : List Request) :
    Throughout (World.step queue) UpToDate World.initial requests ∧
    (Throughout (World.step queue) (fun world => ∀ answered ∈ world.answers, answered.Truthful)
        World.initial requests ↔
      EachCall (World.step queue) (fun world => Countable world.balancer.workers) World.initial
        requests) := by
  constructor
  · have noWorkers : UpToDate World.initial := nofun
    have anyRequest : EachCall (World.step queue) (fun _ _ => True) World.initial requests :=
      fun _ _ _ => trivial
    exact throughout_of_each (fun _ request upToDate _ => step_upToDate queue upToDate request)
      noWorkers anyRequest
  · have oneStep : ∀ (world : World) (request : Request),
        (∀ answered ∈ world.answers, answered.Truthful) →
        ((∀ answered ∈ (world.step queue request).answers, answered.Truthful) ↔
          Countable world.balancer.workers request) := by
      intro world request truthful
      cases request with
      | broadcast data delivered =>
        rw [← broadcast_truthful_iff world.balancer data delivered]
        simp only [World.step, forall_mem_append, forall_mem_singleton]
        exact and_iff_right truthful
      | addWorker address delivered => exact iff_of_true truthful trivial
      | getNextWorker => exact iff_of_true truthful trivial
      | updateWorker address | punishWorker address => exact iff_of_true truthful trivial
    have anyWorld : ∀ (world : World) (request : Request), True → True → True :=
      fun _ _ _ _ => trivial
    exact throughout_iff anyWorld (fun world request _ _ truthful => oneStep world request truthful)
      (fun _ _ => trivial) trivial nofun

/-- The first of the workers with the least priority. -/
def leastFirst : Top where
  top workers := workers.argmin Worker.priority
  mem := fun _ _ isLeast => argmin_mem isLeast
  picks := by
    intro workers notEmpty
    rw [Option.isSome_iff_ne_none]
    exact fun isNone => notEmpty (List.argmin_eq_none.mp isNone)
  least := fun _ _ isLeast _ member => le_of_mem_argmin member isLeast

def joinTwo (delivered : Deliveries) : List Request :=
  [.addWorker ⟨"127.0.0.1", 5556⟩ (fun _ => true), .addWorker ⟨"127.0.0.1", 5557⟩ (fun _ => true),
    .broadcast "design".toList delivered]

/-- If one of the two is missed the answer is an error, if both are missed it is none. -/
theorem error_compared_after_removal :
    (run (World.step leastFirst) World.initial (joinTwo fun worker => worker ≠ 0)).answers =
      [⟨1, 1, ⟨1, true⟩⟩] ∧
    (run (World.step leastFirst) World.initial (joinTwo fun _ => false)).answers =
      [⟨0, 2, ⟨0, false⟩⟩] ∧
    ¬ Answered.Truthful ⟨1, 1, ⟨1, true⟩⟩ ∧ ¬ Answered.Truthful ⟨0, 2, ⟨0, false⟩⟩ := by
  decide

end OpenRoad.Dst
