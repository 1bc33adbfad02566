import SparkX.Cluster.ControlPlane.Model
import SparkX.Cluster.Worker

set_option autoImplicit false

-- `RemoteWorker::run_until`: a worker registers, and then every turn of its loop sends one request
-- and waits for the answer. The timers, the tasks and the network are left open: any branch of the
-- loop may have its turn, a task may end with any result, a request may be served late, and a
-- worker may give up on a request that is still on its way.

namespace SparkX

open Std

def mapStatus : SparkXError → Status
  | .protocol message | .planning message => ⟨.invalidArgument, message⟩
  | .notFound message => ⟨.notFound, message⟩
  | .resourceExhausted message => ⟨.resourceExhausted, message⟩
  | .taskSuperseded => ⟨.aborted, "task attempt was superseded"⟩
  | .cancelled => ⟨.cancelled, "query was cancelled"⟩
  | other => ⟨.internal, other.toText⟩

def mapFlightError (action : String) (status : Status) : SparkXError :=
  match status.code with
  | .invalidArgument => .protocol status.message
  | .notFound => .notFound status.message
  | .resourceExhausted => .resourceExhausted status.message
  | .cancelled => .cancelled
  | .aborted => .taskSuperseded
  | .internal => .execution s!"control action {action} failed: {status.message}"

-- What `ControlPlaneClient::call` makes of the answer of the service.
def callResult (action : String) : Except Fault ControlReply → Except SparkXError ControlReply
  | .ok reply => .ok reply
  | .error (.error error) => .error (mapFlightError action (mapStatus error))
  | .error (.panic message) => .error (mapFlightError action ⟨.internal, message⟩)

variable {action : String} {answer : Except Fault ControlReply}

theorem callResult_ok {reply : ControlReply} : callResult action answer = .ok reply ↔ answer = .ok reply := by
  unfold callResult
  split <;> simp

theorem callResult_superseded :
    callResult action answer = .error .taskSuperseded ↔ answer = .error (.error .taskSuperseded) := by
  cases answer with
  | ok reply => exact ⟨nofun, nofun⟩
  | error fault =>
    cases fault with
    | panic message => exact ⟨nofun, nofun⟩
    | error error => cases error <;> simp [callResult, mapFlightError, mapStatus]

structure WorkerConfig where
  coordinatorEndpoint : String
  workerId : WorkerId
  slots : U32 := 1
  memoryBytes : U64 := 536870912
  batchSize : Nat := 8192
  channelCapacity : Nat := 2
  heartbeatIntervalMs : Nat := 5000
  pollIntervalMs : Nat := 100
  dataStorageBytes : U64 := 536870912
  maxTerminalTasks : Option U64 := none

def WorkerConfig.validate (config : WorkerConfig) : Except SparkXError Unit := do
  rejectIf (Text.isBlank config.coordinatorEndpoint)
    (.planning "worker coordinator endpoint must not be empty")
  rejectIf (config.slots = 0) (.planning "worker must have at least one execution slot")
  rejectIf (config.memoryBytes = 0) (.planning "worker memory limit must be greater than zero")
  rejectIf (config.batchSize = 0 ∨ config.channelCapacity = 0)
    (.planning "worker batch size and channel capacity must be greater than zero")
  rejectIf (config.heartbeatIntervalMs = 0 ∨ config.pollIntervalMs = 0)
    (.planning "worker heartbeat and poll intervals must be greater than zero")
  rejectIf (config.dataStorageBytes = 0) (.planning "worker data-plane storage must be greater than zero")
  rejectIf (config.maxTerminalTasks = some 0)
    (.planning "worker maximum terminal tasks must be greater than zero")

def WorkerConfig.registration (config : WorkerConfig) : WorkerRegistration :=
  { workerId := config.workerId, slots := config.slots, memoryBytes := config.memoryBytes }

-- What a worker sends and then waits for.
inductive WorkerRequest where
  | register
  | heartbeat (report : WorkerHeartbeat)
  | poll (acceptTasks : Bool)
  | start (task : TaskAttemptId) (lease : TaskLease)
  | finish (completion : TaskCompletion)

-- How far a request has come. A poll may wait for the second lock of the service.
inductive Delivery where
  | sent
  | underWay (action : Nat)
  | answered (answer : Except Fault ControlReply)

inductive LoopState where
  | waiting
  | selecting
  | returned (result : Except SparkXError WorkerSummary)

structure WorkerLoop where
  config : WorkerConfig
  worker : RemoteWorker
  tasks : List (TaskAttemptId × TaskLease)
  request : WorkerRequest
  delivery : Delivery
  state : LoopState

-- The branches of `tokio::select!`, with what the environment decides in each: the clock, the
-- memory that tasks have reserved, and which task ends how.
inductive Branch where
  | shutdown
  | heartbeat (observedAtMs reservedBytes : U64)
  | poll
  | join (task : Nat) (joined : Except String (Except SparkXError TaskOutput))

namespace WorkerLoop

def begin (config : WorkerConfig) : WorkerLoop :=
  { config
    worker :=
      { workerId := config.workerId
        maxTerminalTasks := config.maxTerminalTasks
        active := []
        cancelledQueries := ∅
        stopping := false
        summary := {} }
    tasks := []
    request := .register
    delivery := .sent
    state := .waiting }

def send (loop : WorkerLoop) (request : WorkerRequest) : WorkerLoop :=
  { loop with request, delivery := .sent, state := .waiting }

def exit (loop : WorkerLoop) (error : SparkXError) : WorkerLoop :=
  { loop with state := .returned (.error error) }

def nextTurn (loop : WorkerLoop) : WorkerLoop :=
  if loop.worker.stopping && loop.tasks.isEmpty then
    { loop with state := .returned (.ok loop.worker.summary) }
  else { loop with state := .selecting }

def heartbeatReport (loop : WorkerLoop) (observedAtMs reservedBytes : U64) : WorkerHeartbeat :=
  { workerId := loop.config.workerId
    observedAtMs
    availableSlots := Word.saturatingSub loop.config.slots (Word.truncate loop.worker.active.length)
    availableMemoryBytes := Word.saturatingSub loop.config.memoryBytes reservedBytes }

-- One branch of `select!` up to its request.
def select (loop : WorkerLoop) : Branch → WorkerLoop
  | .shutdown =>
    if loop.worker.stopping then loop
    else { loop with worker := { loop.worker with stopping := true } }.nextTurn
  | .heartbeat observedAtMs reservedBytes =>
    loop.send (.heartbeat (loop.heartbeatReport observedAtMs reservedBytes))
  | .poll =>
    if loop.worker.stopping then loop
    else loop.send (.poll (loop.worker.active.length < loop.config.slots.val))
  | .join index joined =>
    match loop.tasks[index]? with
    | none => loop
    | some (task, lease) =>
      let loop := { loop with tasks := loop.tasks.eraseIdx index }
      match joined with
      | .error message => loop.exit (.execution s!"worker task join failed: {message}")
      | .ok result =>
        let worker := { loop.worker with active := loop.worker.active.erase task }
        { loop with worker }.send (.finish { task, lease, result })

-- A polled message. An assignment is not in the map before its start is acknowledged.
def handle (loop : WorkerLoop) : CoordinatorMessage → WorkerLoop
  | .assignTask _ _ task lease _ =>
    if lease.workerId ≠ loop.config.workerId then
      loop.exit (.protocol (s!"worker {loop.config.workerId.value} received a lease owned by " ++
        s!"{lease.workerId.value}"))
    else if loop.config.slots.val ≤ loop.worker.active.length then
      loop.exit (.protocol (s!"worker {loop.config.workerId.value} received more assignments than " ++
        s!"its {loop.config.slots} slots"))
    else loop.send (.start task lease)
  | .cancelQuery _ queryId reason =>
    let cancelledQueries := loop.worker.cancelledQueries.insert queryId reason
    { loop with worker := { loop.worker with cancelledQueries } }.nextTurn

def workerMessageAction : String := "sparkx.control.worker_message"

def pollAssignmentAction : String := "sparkx.control.poll_assignment"

def receive [PhysicalPlanCodec] (loop : WorkerLoop) (answer : Except Fault ControlReply) : WorkerLoop :=
  match loop.request with
  | .register | .heartbeat _ =>
    match callResult workerMessageAction answer with
    | .ok _ => loop.nextTurn
    | .error error => loop.exit error
  | .poll _ =>
    match callResult pollAssignmentAction answer with
    | .ok (.assignment none) => loop.nextTurn
    | .ok (.assignment (some message)) =>
      match message.validate with
      | .ok () => loop.handle message
      | .error error => loop.exit error
    | .ok _ => loop.exit (.protocol s!"decode control response for {pollAssignmentAction}")
    | .error error => loop.exit error
  | .start task lease =>
    match callResult workerMessageAction answer with
    | .ok _ =>
      let active := loop.worker.active.insert task
      { loop with
        worker := { loop.worker with active }
        tasks := loop.tasks ++ [(task, lease)] }.nextTurn
    | .error .taskSuperseded => loop.nextTurn
    | .error error => loop.exit error
  | .finish completion =>
    let answer := (callResult workerMessageAction answer).map fun _ => ()
    match (loop.worker.acknowledge (loop.worker.conclude completion) answer).1 with
    | .ok worker => { loop with worker }.nextTurn
    | .error error => loop.exit error

def message (loop : WorkerLoop) (nowMs : U64) : ControlEvent :=
  match loop.request with
  | .register => .workerMessage (.register protocolVersion loop.config.registration) nowMs
  | .heartbeat report => .workerMessage (.heartbeat protocolVersion report) nowMs
  | .poll acceptTasks => .pollAssignment loop.config.workerId acceptTasks
  | .start task lease =>
    .workerMessage (.taskUpdate protocolVersion loop.config.workerId task (.running lease.issuedAtMs)) nowMs
  | .finish completion =>
    .workerMessage (.taskUpdate protocolVersion loop.config.workerId completion.task
      (loop.worker.conclude completion).state) nowMs

def pending (loop : WorkerLoop) (nowMs : U64) : Option ControlEvent :=
  match loop.delivery with
  | .sent => some (loop.message nowMs)
  | .underWay action => some (.resume action nowMs)
  | .answered _ => none

-- A request after a critical section; `action` is the number of a poll that begins to wait.
def delivered (loop : WorkerLoop) (action : Nat) (reply : Except Fault ControlReply) : WorkerLoop :=
  match loop.delivery, reply with
  | .sent, .ok .underWay => { loop with delivery := .underWay action }
  | .underWay waiting, .ok .underWay => { loop with delivery := .underWay waiting }
  | _, reply => { loop with delivery := .answered reply }

theorem delivered_answered (loop : WorkerLoop) (action : Nat) {reply : Except Fault ControlReply}
    (ended : reply ≠ .ok .underWay) :
    loop.delivered action reply = { loop with delivery := .answered reply } := by
  unfold delivered
  split
  next => exact absurd rfl ended
  next => exact absurd rfl ended
  next => rfl

theorem delivered_asked {loop : WorkerLoop} (action : Nat) (sent : loop.delivery = .sent) :
    loop.delivered action (.ok .underWay) = { loop with delivery := .underWay action } := by
  simp only [delivered, sent]

theorem delivered_still {loop : WorkerLoop} (action : Nat) {waiting : Nat}
    (still : loop.delivery = .underWay waiting) : loop.delivered action (.ok .underWay) = loop := by
  cases loop
  cases still
  rfl

end WorkerLoop

structure RemoteCluster where
  plane : ControlPlane
  loops : List WorkerLoop

inductive ClusterEvent where
  | spawn (config : WorkerConfig)
  | submitStage (stage : StagePlan)
  | cancelQuery (queryId : QueryId) (reason : String)
  | announce (action : Nat)
  | advanceTime (nowMs : U64)
  | select (loop : Nat) (branch : Branch)
  | serve (loop : Nat) (nowMs : U64)
  | receive (loop : Nat)
  | giveUp (loop : Nat) (error : SparkXError)

namespace RemoteCluster

def new (config : CoordinatorConfig) : Except SparkXError RemoteCluster := do
  return { plane := ← ControlPlane.new config, loops := [] }

def update (cluster : RemoteCluster) (index : Nat) (change : WorkerLoop → WorkerLoop) : RemoteCluster :=
  { cluster with loops := cluster.loops.modify index change }

variable [PhysicalPlanCodec]

def client (cluster : RemoteCluster) (event : ControlEvent) : RemoteCluster :=
  { cluster with plane := ControlPlane.service.next event cluster.plane }

def serve (cluster : RemoteCluster) (index : Nat) (nowMs : U64) : RemoteCluster :=
  match cluster.loops[index]? with
  | none => cluster
  | some loop =>
    match loop.pending nowMs with
    | none => cluster
    | some event =>
      let reply := ControlPlane.service.output event cluster.plane
      let loop := loop.delivered cluster.plane.actions.length reply
      { cluster.client event with loops := cluster.loops.set index loop }

-- Only a loop at its head selects, and only one that waits receives or gives up. A loop gives up
-- when its call fails on the way, which is never reported as a superseded task.
def advance (event : ClusterEvent) (cluster : RemoteCluster) : RemoteCluster :=
  match event with
  | .spawn config =>
    match config.validate with
    | .ok () => { cluster with loops := cluster.loops ++ [.begin config] }
    | .error _ => cluster
  | .submitStage stage => cluster.client (.submitStage stage)
  | .cancelQuery queryId reason => cluster.client (.cancelQuery queryId reason)
  | .announce action =>
    match cluster.plane.actions[action]? with
    | some (.cancelling _ _) => cluster.client (.resume action 0)
    | _ => cluster
  | .advanceTime nowMs =>
    { cluster with
      plane := { cluster.plane with
        coordinator := Coordinator.machine.next (.advanceTime nowMs) cluster.plane.coordinator } }
  | .select index branch =>
    cluster.update index fun loop =>
      match loop.state with
      | .selecting => loop.select branch
      | _ => loop
  | .serve index nowMs => cluster.serve index nowMs
  | .receive index =>
    cluster.update index fun loop =>
      match loop.state, loop.delivery with
      | .waiting, .answered answer => loop.receive answer
      | _, _ => loop
  | .giveUp index error =>
    cluster.update index fun loop =>
      match loop.state with
      | .waiting => loop.exit error
      | _ => loop

def machine : Machine RemoteCluster ClusterEvent Unit where
  step event cluster := ((), cluster.advance event)

end RemoteCluster

end SparkX
