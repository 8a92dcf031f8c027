import OpenRoad.Lib.Runs

/-! The load balancer: its queue of workers, the messages broadcast so far, what workers got, and how
a job is relayed to a worker. -/

namespace OpenRoad.Dst

open OpenRoad.Lib

abbrev Data := List Char

structure Address where
  ip : String
  port : Nat
deriving DecidableEq

structure Worker where
  address : Address
  priority : Nat
deriving DecidableEq

def wrap (n : Nat) : Nat := n % 2 ^ 16

def maxPriority : Nat := 2 ^ 16 - 1

/-- The queue gives a worker of the least priority; among several it is free to choose. -/
structure Top where
  top : List Worker → Option Worker
  mem : ∀ workers worker, top workers = some worker → worker ∈ workers
  picks : ∀ workers, workers ≠ [] → (top workers).isSome
  least : ∀ workers worker, top workers = some worker →
    ∀ other ∈ workers, worker.priority ≤ other.priority

def getNextWorker (queue : Top) (workers : List Worker) : Option Address × List Worker :=
  match queue.top workers with
  | none => (none, workers)
  | some worker =>
    let priority := if worker.priority ≠ maxPriority then worker.priority + 1 else worker.priority
    (some worker.address, workers.erase worker ++ [{ worker with priority }])

def changePriority (change : Nat → Nat) (address : Address) (workers : List Worker) : List Worker :=
  workers.map fun worker =>
    if worker.address = address then { worker with priority := change worker.priority } else worker

def updateWorker (address : Address) (workers : List Worker) : List Worker :=
  changePriority (fun priority => wrap (priority + maxPriority)) address workers

def punishWorker (address : Address) (workers : List Worker) : List Worker :=
  changePriority (fun priority => if priority = 0 then 2 else wrap (priority * 2)) address workers

def removeWorkerLocked (address : Address) (workers : List Worker) : List Worker :=
  workers.filter fun worker => worker.address ≠ address

def kMaxBroadcastFailedNodes : Nat := 2

structure LoadBalancer where
  workers : List Worker
  broadcastData : List Data
deriving DecidableEq

structure BroadcastReply where
  workersCount : Nat
  error : Bool
deriving DecidableEq

abbrev Deliveries := Nat → Bool

def replay (delivered : Deliveries) (data : List Data) : List Data :=
  ((data.zipIdx).takeWhile fun entry => delivered entry.2).map Prod.fst

/-- A worker that misses a message is not added. -/
def LoadBalancer.addWorker (balancer : LoadBalancer) (address : Address) (delivered : Deliveries) :
    Bool × LoadBalancer :=
  let valid_worker_state : Bool :=
    (replay delivered balancer.broadcastData).length = balancer.broadcastData.length
  (valid_worker_state,
    if valid_worker_state then { balancer with workers := balancer.workers ++ [⟨address, 0⟩] }
    else balancer)

def failedWorkers (workers : List Worker) (delivered : Deliveries) : List Address :=
  (workers.zipIdx.filter fun entry => ¬ delivered entry.2).map fun entry => entry.1.address

def reachedWorkers (workers : List Worker) (delivered : Deliveries) : List Address :=
  (workers.zipIdx.filter fun entry => delivered entry.2).map fun entry => entry.1.address

/-- Failed workers leave the queue before the number of failures is compared with its length. -/
def LoadBalancer.broadcast (balancer : LoadBalancer) (data : Data) (delivered : Deliveries) :
    BroadcastReply × LoadBalancer :=
  let failed_workers := failedWorkers balancer.workers delivered
  let success_broadcast := wrap (balancer.workers.length - failed_workers.length)
  let workers := failed_workers.foldl (fun workers address => removeWorkerLocked address workers)
    balancer.workers
  (⟨success_broadcast, failed_workers ≠ [] ∧ (failed_workers.length > kMaxBroadcastFailedNodes ∨
      failed_workers.length = workers.length)⟩,
    { workers, broadcastData := balancer.broadcastData ++ [data] })

inductive Request
  | addWorker (address : Address) (delivered : Deliveries)
  | broadcast (data : Data) (delivered : Deliveries)
  | getNextWorker
  | updateWorker (address : Address)
  | punishWorker (address : Address)

structure Answered where
  reached : Nat
  failed : Nat
  reply : BroadcastReply
deriving DecidableEq

structure World where
  balancer : LoadBalancer
  received : Address → List Data
  answers : List Answered

def World.initial : World := ⟨⟨[], []⟩, fun _ => [], []⟩

def deliverTo (data : Data) (received : Address → List Data) (addresses : List Address) :
    Address → List Data :=
  fun address => received address ++ List.replicate (addresses.count address) data

def World.step (queue : Top) (world : World) : Request → World
  | .addWorker address delivered =>
    { world with
      balancer := (world.balancer.addWorker address delivered).2
      received := Function.update world.received address
        (world.received address ++ replay delivered world.balancer.broadcastData) }
  | .broadcast data delivered =>
    let workers := world.balancer.workers
    let answered := world.balancer.broadcast data delivered
    { balancer := answered.2
      received := deliverTo data world.received (reachedWorkers workers delivered)
      answers := world.answers ++
        [⟨(reachedWorkers workers delivered).length, (failedWorkers workers delivered).length,
          answered.1⟩] }
  | .getNextWorker =>
    { world with
      balancer.workers := (Dst.getNextWorker queue world.balancer.workers).2 }
  | .updateWorker address =>
    { world with balancer.workers := Dst.updateWorker address world.balancer.workers }
  | .punishWorker address =>
    { world with balancer.workers := Dst.punishWorker address world.balancer.workers }

def kMaxFailedWorkersTrials : Nat := 3

def kEop : Data := "\r\nENDOFPACKET\r\n".toList

inductive Trial
  | refused
  | broken (sent : Nat)
  | cut (output : Data)
  | answered (output : Data)
deriving DecidableEq

structure Attempt where
  address : Address
  handed : Option Data
  trial : Trial
deriving DecidableEq

structure RelayState where
  workers : List Worker
  in_packet : Data
  receive_buffer : Data
  attempts : List Attempt
deriving DecidableEq

/-- One try, and whether it failed: writing takes what it sends out of the one buffer, reading adds
to the other. -/
def tryWorker (address : Address) (trial : Trial) (s : RelayState) : RelayState × Bool :=
  match trial with
  | .refused => ({ s with attempts := s.attempts ++ [⟨address, none, trial⟩] }, true)
  | .broken sent =>
    ({ s with
      in_packet := s.in_packet.drop sent
      attempts := s.attempts ++ [⟨address, some s.in_packet, trial⟩] }, true)
  | .cut output =>
    ({ s with
      in_packet := []
      receive_buffer := s.receive_buffer ++ output
      attempts := s.attempts ++ [⟨address, some s.in_packet, trial⟩] }, true)
  | .answered output =>
    ({ s with
      in_packet := []
      receive_buffer := s.receive_buffer ++ output
      attempts := s.attempts ++ [⟨address, some s.in_packet, trial⟩] }, false)

/-- Tries until a worker answers or as many have failed as may fail. -/
def relayLoop (queue : Top) (trials : Nat → Trial) :
    Nat → Nat → Address → RelayState → RelayState × Bool
  | 0, _, _, s => (s, true)
  | remaining + 1, trial, address, s =>
    match tryWorker address (trials trial) s with
    | (s, false) => (s, false)
    | (s, true) =>
      let workers := punishWorker address s.workers
      if remaining = 0 then ({ s with workers }, true)
      else
        let next := getNextWorker queue workers
        relayLoop queue trials remaining (trial + 1) (next.1.getD address)
          { s with workers := next.2 }

inductive ClientReply
  | nothing
  | worker (address : Address)
  | message (data : Data)
deriving DecidableEq

/-- The part of `handle_read` for jobs that go to one worker. -/
def handleUnicast (queue : Top) (trials : Nat → Trial) (errorMessage : Data) (isBalancerJob : Bool)
    (in_packet : Data) (workers : List Worker) : ClientReply × RelayState :=
  let next := getNextWorker queue workers
  let s : RelayState := ⟨next.2, in_packet, [], []⟩
  match next.1 with
  | none => (.nothing, s)
  | some address =>
    if isBalancerJob then (.worker address, s)
    else
      match relayLoop queue trials kMaxFailedWorkersTrials 0 address s with
      | (s, true) => (.message errorMessage, s)
      | (s, false) => (.message s.receive_buffer, s)

end OpenRoad.Dst
