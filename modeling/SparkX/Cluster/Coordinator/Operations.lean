import SparkX.Cluster.Coordinator.State
import SparkX.Shared.Transition

set_option autoImplicit false

namespace SparkX

def indexOutOfBounds : String := "index out of bounds"

def retryOrFail (maxTaskAttempts attempt : U32) (error : String) : PartitionRuntime :=
  let nextAttempt := Word.saturatingAdd attempt 1
  if nextAttempt < maxTaskAttempts then .pending nextAttempt else .failed attempt error true

def validateReportedTime (event : String) (timestampMs : U64) (lease : TaskLease)
    (receivedAtMs : U64) : Except SparkXError Unit := do
  rejectIf (timestampMs < lease.issuedAtMs) (coordinatorError s!"task {event} before its lease was issued")
  rejectIf (lease.expiresAtMs ≤ timestampMs) (coordinatorError s!"task {event} after its lease expired")
  rejectIf (receivedAtMs < timestampMs)
    (coordinatorError s!"task {event} time is later than the coordinator receive time")

def checkExchange (plan : StagePlan) (state : TaskState) : Except SparkXError Unit :=
  match plan.outputExchange, state with
  | some exchange, .succeeded _ outputBlocks =>
    let destinations := (outputBlocks.map (·.outputPartition)).dedup
    rejectIf (outputBlocks.length ≠ exchange.partitionCount.val ∨
        destinations.length ≠ exchange.partitionCount.val ∨
        destinations.any (exchange.partitionCount ≤ ·))
      (coordinatorError "hash exchange must commit exactly one block per destination")
  | _, _ => .ok ()

namespace Coordinator

-- A partition whose lease `advance_time` takes back.
structure ExpiredTask where
  stageKey : StageKey
  partitionIndex : Nat
  attempt : U32
  workerId : WorkerId
  workerTimedOut : Bool
  cancelling : Bool
deriving DecidableEq, Repr

def releaseWorkerSlot (c : Coordinator) (workerId : WorkerId) : Coordinator :=
  match c.workers[workerId]? with
  | some worker =>
    if worker.alive then
      let availableSlots := min (Word.saturatingAdd worker.availableSlots 1) worker.registration.slots
      c.setWorker workerId { worker with availableSlots }
    else c
  | none => c

def heartbeatTimedOut (c : Coordinator) (nowMs : U64) (worker : WorkerRuntime) : Bool :=
  worker.alive && c.config.heartbeatTimeoutMs < Word.saturatingSub nowMs worker.lastReceivedAtMs

def timedOutWorkers (c : Coordinator) (nowMs : U64) : List WorkerId :=
  (c.workers.toList.filter fun entry => c.heartbeatTimedOut nowMs entry.2).map Prod.fst

def markTimedOut (workerId : WorkerId) : Stateful Fault Coordinator Unit := do
  let worker ← expect (← get).workers[workerId]? "timed-out worker must exist"
  modify (·.setWorker workerId
    { worker with alive := false, availableSlots := 0, availableMemoryBytes := 0 })

def expiredTask (timedOut : List WorkerId) (nowMs : U64) (stageKey : StageKey) :
    PartitionRuntime × Nat → Option ExpiredTask
  | (.active task workerId lease _, partitionIndex) => expire task workerId lease false partitionIndex
  | (.cancelling task workerId lease, partitionIndex) => expire task workerId lease true partitionIndex
  | _ => none
where
  expire (task : TaskAttemptId) (workerId : WorkerId) (lease : TaskLease) (cancelling : Bool)
      (partitionIndex : Nat) : Option ExpiredTask :=
    if workerId ∈ timedOut ∨ lease.expiresAtMs ≤ nowMs then
      some { stageKey, partitionIndex, attempt := task.attempt, workerId,
             workerTimedOut := workerId ∈ timedOut, cancelling }
    else none

def expiredTasks (c : Coordinator) (timedOut : List WorkerId) (nowMs : U64) : List ExpiredTask :=
  c.stages.toList.flatMap fun entry =>
    entry.2.partitions.zipIdx.filterMap (expiredTask timedOut nowMs entry.1)

def ExpiredTask.replacement (maxTaskAttempts : U32) (expired : ExpiredTask) : PartitionRuntime :=
  if expired.cancelling then .cancelled
  else retryOrFail maxTaskAttempts expired.attempt
    (if expired.workerTimedOut then "worker heartbeat timed out" else "task lease expired")

def retireExpired (expired : ExpiredTask) : Stateful Fault Coordinator Unit := do
  if !expired.workerTimedOut then
    modify (·.releaseWorkerSlot expired.workerId)
  let c ← get
  let stage ← expect c.stages[expired.stageKey]? "expired task stage must exist"
  let _ ← expect stage.partitions[expired.partitionIndex]? indexOutOfBounds
  modify (·.setPartition expired.stageKey expired.partitionIndex
    (expired.replacement c.config.maxTaskAttempts))

def advanceTime (nowMs : U64) : Stateful Fault Coordinator Unit := do
  let timedOut := (← get).timedOutWorkers nowMs
  timedOut.forM markTimedOut
  let expired := (← get).expiredTasks timedOut nowMs
  expired.forM retireExpired

def checkSubmitted (c : Coordinator) (stage : StagePlan) : Except SparkXError Unit :=
  stage.inputStages.forM fun dependency =>
    rejectIf ((stage.queryId, dependency) ∉ c.stages) <| coordinatorError
      s!"stage {stage.stageId} depends on unsubmitted stage {dependency}"

def checkUpstream (c : Coordinator) (stage : StagePlan) : Except Fault Unit :=
  stage.inputStages.forM fun dependency => do
    let upstream ← expect c.stages[(stage.queryId, dependency)]? indexOutOfBounds
    rejectIf (upstream.plan.outputExchange.map (·.partitionCount) ≠ some stage.partitionCount)
      (Fault.error (coordinatorError "partitioned dependency must use matching hash exchange"))

def submitStage [PhysicalPlanCodec] (stage : StagePlan) : Stateful Fault Coordinator Unit := do
  let c ← get
  stage.validate
  rejectIf (c.config.maxStagePartitions < stage.partitionCount) <| coordinatorError <|
    s!"stage has {stage.partitionCount} partitions but the configured maximum is " ++
      s!"{c.config.maxStagePartitions}"
  rejectIf (stage.queryId ∈ c.cancelledQueries) <|
    coordinatorError s!"query {stage.queryId.value} is already cancelled"
  let key := (stage.queryId, stage.stageId)
  rejectIf (key ∈ c.stages) <| coordinatorError
    s!"stage {stage.stageId} for query {stage.queryId.value} is already submitted"
  c.checkSubmitted stage
  if stage.partitionedInput then
    c.checkUpstream stage
  rejectIf (stage.outputExchange.any (c.config.maxStagePartitions < ·.partitionCount))
    (coordinatorError "exchange exceeds configured partition maximum")
  let partitions := List.replicate stage.partitionCount.val (PartitionRuntime.pending 0)
  set { c with stages := c.stages.insert key { plan := stage, partitions } }

def registerWorker (registration : WorkerRegistration) (receivedAtMs : U64) :
    Stateful Fault Coordinator Unit := do
  let c ← get
  rejectIf (registration.workerId ∈ c.workers) <| coordinatorError
    s!"worker {registration.workerId.value} is already registered"
  set (c.setWorker registration.workerId
    { registration
      lastObservedAtMs := 0
      lastReceivedAtMs := receivedAtMs
      availableSlots := registration.slots
      availableMemoryBytes := registration.memoryBytes
      alive := true })

def recordHeartbeat (heartbeat : WorkerHeartbeat) (receivedAtMs : U64) :
    Stateful Fault Coordinator Unit := do
  let c ← get
  let activeTasks := c.activeTasksForWorker heartbeat.workerId
  let worker ← okOr c.workers[heartbeat.workerId]? <| coordinatorError
    s!"heartbeat came from unregistered worker {heartbeat.workerId.value}"
  rejectIf (heartbeat.observedAtMs < worker.lastObservedAtMs) <| coordinatorError
    s!"worker {heartbeat.workerId.value} heartbeat time moved backwards"
  let maximumAvailableSlots := Word.saturatingSub worker.registration.slots activeTasks
  rejectIf (maximumAvailableSlots < heartbeat.availableSlots) <| coordinatorError <|
    s!"worker {heartbeat.workerId.value} reports {heartbeat.availableSlots} available slots " ++
      s!"but at most {maximumAvailableSlots} are possible"
  rejectIf (worker.registration.memoryBytes < heartbeat.availableMemoryBytes) <| coordinatorError
    s!"worker {heartbeat.workerId.value} reports more memory than it registered"
  set (c.setWorker heartbeat.workerId
    { worker with
      lastObservedAtMs := heartbeat.observedAtMs
      lastReceivedAtMs := receivedAtMs
      availableSlots := heartbeat.availableSlots
      availableMemoryBytes := heartbeat.availableMemoryBytes
      alive := true })

-- A terminal report ends the lease: the partition is replaced and the slot given back.
def settle (key : StageKey) (index : Nat) (workerId : WorkerId) (partition : PartitionRuntime) :
    Stateful Fault Coordinator Unit :=
  modify fun c => (c.setPartition key index partition).releaseWorkerSlot workerId

-- The branch of `record_task_update` for a partition whose query was cancelled.
def recordCancellingUpdate (workerId : WorkerId) (task : TaskAttemptId) (state : TaskState)
    (receivedAtMs : U64) (cancellingTask : TaskAttemptId) (assignedWorker : WorkerId)
    (lease : TaskLease) : Stateful Fault Coordinator Unit := do
  rejectIf (cancellingTask ≠ task) (coordinatorError "task update does not match the cancelling attempt")
  rejectIf (assignedWorker ≠ workerId ∨ lease.workerId ≠ workerId)
    (coordinatorError "task cancellation came from a worker that does not own its lease")
  match state with
  | .running startedAtMs => validateReportedTime "started" startedAtMs lease receivedAtMs
  | .succeeded finishedAtMs _ | .failed finishedAtMs _ _ | .cancelled finishedAtMs _ =>
    validateReportedTime "finished" finishedAtMs lease receivedAtMs
    settle (task.queryId, task.stageId) task.partitionId.val workerId .cancelled

-- The branch of `record_task_update` for a partition that runs.
def recordActiveUpdate (workerId : WorkerId) (task : TaskAttemptId) (state : TaskState)
    (receivedAtMs : U64) (activeTask : TaskAttemptId) (assignedWorker : WorkerId)
    (lease : TaskLease) (startedAtMs : Option U64) : Stateful Fault Coordinator Unit := do
  rejectIf (activeTask ≠ task) (coordinatorError "task update does not match the active attempt")
  rejectIf (assignedWorker ≠ workerId ∨ lease.workerId ≠ workerId)
    (coordinatorError "task update came from a worker that does not own its lease")
  rejectIf (lease.expiresAtMs ≤ receivedAtMs)
    (coordinatorError "task update arrived after its lease expired")
  let key := (task.queryId, task.stageId)
  let index := task.partitionId.val
  match state with
  | .running reportedStart =>
    validateReportedTime "started" reportedStart lease receivedAtMs
    match startedAtMs with
    | some existingStart =>
      rejectIf (existingStart ≠ reportedStart) (coordinatorError "task start time changed between updates")
    | none =>
      modify (·.setPartition key index (.active activeTask assignedWorker lease (some reportedStart)))
  | .succeeded finishedAtMs outputBlocks =>
    validateReportedTime "finished" finishedAtMs lease receivedAtMs
    settle key index workerId (.succeeded task outputBlocks)
  | .failed finishedAtMs error retryable =>
    validateReportedTime "finished" finishedAtMs lease receivedAtMs
    let maxTaskAttempts := (← get).config.maxTaskAttempts
    settle key index workerId (if retryable then retryOrFail maxTaskAttempts task.attempt error
       else .failed task.attempt error false)
  | .cancelled finishedAtMs _ =>
    validateReportedTime "finished" finishedAtMs lease receivedAtMs
    settle key index workerId .cancelled

def recordTaskUpdate (workerId : WorkerId) (task : TaskAttemptId) (state : TaskState)
    (receivedAtMs : U64) : Stateful Fault Coordinator Unit := do
  let c ← get
  rejectIf (workerId ∉ c.workers) <| coordinatorError
    s!"task update came from unregistered worker {workerId.value}"
  let stage ← okOr c.stages[(task.queryId, task.stageId)]? (stageNotFound task.queryId task.stageId)
  task.validateFor stage.plan
  let current ← expect stage.partitions[task.partitionId.val]? indexOutOfBounds
  rejectIf (current.supersedes task.attempt) SparkXError.taskSuperseded
  checkExchange stage.plan state
  let partition ← okOr stage.partitions[task.partitionId.val]? <| coordinatorError
    s!"task partition {task.partitionId} is missing from coordinator state"
  match partition with
  | .cancelling cancellingTask assignedWorker lease =>
    recordCancellingUpdate workerId task state receivedAtMs cancellingTask assignedWorker lease
  | .active activeTask assignedWorker lease startedAtMs =>
    recordActiveUpdate workerId task state receivedAtMs activeTask assignedWorker lease startedAtMs
  | _ => throw (.error (coordinatorError "task update is stale or was not assigned"))

def handleWorkerMessage (message : WorkerMessage) (receivedAtMs : U64) :
    Stateful Fault Coordinator Unit := do
  message.validate
  advanceTime receivedAtMs
  match message with
  | .register _ registration => registerWorker registration receivedAtMs
  | .heartbeat _ report => recordHeartbeat report receivedAtMs
  | .taskUpdate _ workerId task state => recordTaskUpdate workerId task state receivedAtMs

def committedBlocks (stageId dependencyId : StageId) :
    List PartitionRuntime → Except SparkXError (List ShuffleBlock)
  | [] => .ok []
  | .succeeded _ outputBlocks :: rest => do
    return outputBlocks ++ (← committedBlocks stageId dependencyId rest)
  | _ :: _ => .error (coordinatorError
    s!"stage {stageId} was selected before dependency {dependencyId} succeeded")

def blocksOfDependencies (c : Coordinator) (key : StageKey) :
    List StageId → Except Fault (List ShuffleBlock)
  | [] => .ok []
  | dependencyId :: rest => do
    let dependency ← expect c.stages[(key.1, dependencyId)]? "submitted stage dependency must exist"
    let blocks ← committedBlocks key.2 dependencyId dependency.partitions
    return blocks ++ (← blocksOfDependencies c key rest)

def dependencyOutputBlocks (c : Coordinator) (key : StageKey) :
    Except Fault (List ShuffleBlock) := do
  let stage ← expect c.stages[key]? "selected stage must exist"
  blocksOfDependencies c key stage.plan.inputStages

def assignToWorker [PhysicalPlanCodec] (workerId : WorkerId) (nowMs : U64) :
    Stateful Fault Coordinator (Option CoordinatorMessage) := do
  let c ← get
  let some (key, index, attempt) := c.nextPendingPartition | return none
  let expiresAtMs ← okOr (Word.checkedAdd nowMs c.config.leaseDurationMs)
    (coordinatorError "task lease timestamp overflowed")
  let partitionId ← okOr (Word.tryFrom index) (coordinatorError "partition index exceeds u32")
  let task : TaskAttemptId := { queryId := key.1, stageId := key.2, partitionId, attempt }
  let lease : TaskLease := { workerId, issuedAtMs := nowMs, expiresAtMs }
  let blocks ← c.dependencyOutputBlocks key
  let stage ← expect c.stages[key]? "selected stage must exist"
  let inputBlocks :=
    if stage.plan.partitionedInput then blocks.filter (·.outputPartition = partitionId) else blocks
  let _ ← expect stage.partitions[index]? indexOutOfBounds
  modify (·.setPartition key index (.active task workerId lease none))
  let worker ← expect (← get).workers[workerId]? "selected worker must exist"
  let availableSlots ← expect (Word.checkedSub worker.availableSlots 1) "attempt to subtract with overflow"
  modify (·.setWorker workerId { worker with availableSlots })
  let assignment := CoordinatorMessage.assignTask protocolVersion stage.plan task lease inputBlocks
  assignment.validate
  return some assignment

def nextAssignment [PhysicalPlanCodec] (nowMs : U64) :
    Stateful Fault Coordinator (Option CoordinatorMessage) := do
  advanceTime nowMs
  let c ← get
  let some (workerId, _) := c.workers.toList.find? fun entry =>
    entry.2.alive && 0 < entry.2.availableSlots | return none
  assignToWorker workerId nowMs

def nextAssignmentFor [PhysicalPlanCodec] (workerId : WorkerId) (nowMs : U64) :
    Stateful Fault Coordinator (Option CoordinatorMessage) := do
  advanceTime nowMs
  let worker ← okOr (← get).workers[workerId]? <| coordinatorError
    s!"unregistered worker {workerId.value} requested an assignment"
  if !worker.alive || worker.availableSlots = 0 then return none
  assignToWorker workerId nowMs

def cancelQuery [PhysicalPlanCodec] (queryId : QueryId) (reason : String) :
    Stateful Fault Coordinator CoordinatorMessage := do
  let c ← get
  let message := CoordinatorMessage.cancelQuery protocolVersion queryId reason
  message.validate
  rejectIf (!c.hasQuery queryId) <| SparkXError.notFound
    s!"query {queryId.value} is not registered with the coordinator"
  match c.cancelledQueries[queryId]? with
  | some existingReason =>
    if existingReason = reason then return message
    throw (.error (coordinatorError s!"query {queryId.value} was already cancelled for a different reason"))
  | none =>
    set { c with
      stages := c.stages.map fun key stage =>
        if key.1 ≠ queryId then stage
        else { stage with partitions := stage.partitions.map PartitionRuntime.cancel }
      cancelledQueries := c.cancelledQueries.insert queryId reason }
    return message

end Coordinator

-- The calls a transport server makes on the coordinator.
inductive Operation where
  | submitStage (stage : StagePlan)
  | workerMessage (message : WorkerMessage) (receivedAtMs : U64)
  | nextAssignment (nowMs : U64)
  | nextAssignmentFor (workerId : WorkerId) (nowMs : U64)
  | cancelQuery (queryId : QueryId) (reason : String)
  | advanceTime (nowMs : U64)
deriving DecidableEq, Repr

inductive Reply where
  | done
  | assignment (message : Option CoordinatorMessage)
  | cancellation (message : CoordinatorMessage)
deriving DecidableEq, Repr

namespace Coordinator

def perform [PhysicalPlanCodec] : Operation → Stateful Fault Coordinator Reply
  | .submitStage stage => do
    submitStage stage
    return .done
  | .workerMessage message receivedAtMs => do
    handleWorkerMessage message receivedAtMs
    return .done
  | .nextAssignment nowMs => return .assignment (← nextAssignment nowMs)
  | .nextAssignmentFor workerId nowMs => return .assignment (← nextAssignmentFor workerId nowMs)
  | .cancelQuery queryId reason => return .cancellation (← cancelQuery queryId reason)
  | .advanceTime nowMs => do
    advanceTime nowMs
    return .done

def machine [PhysicalPlanCodec] : Machine Coordinator Operation (Except Fault Reply) where
  step operation c := (perform operation).run c

def Reachable [PhysicalPlanCodec] (c : Coordinator) : Prop :=
  ∃ config start, new config = .ok start ∧ machine.Reaches start c

end Coordinator

end SparkX
