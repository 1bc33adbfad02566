import SparkX.Cluster.Coordinator.Invariant

set_option autoImplicit false

namespace SparkX

open Std

def Operation.time : Operation → Option U64
  | .submitStage _ | .cancelQuery _ _ => none
  | .workerMessage _ receivedAtMs => some receivedAtMs
  | .nextAssignment nowMs | .nextAssignmentFor _ nowMs | .advanceTime nowMs => some nowMs

namespace Coordinator

def begun (c : Coordinator) (operation : Operation) : Coordinator :=
  operation.time.elim c c.advanced

def addStage (c : Coordinator) (plan : StagePlan) : Coordinator :=
  let partitions := List.replicate plan.partitionCount.val (PartitionRuntime.pending 0)
  { c with stages := c.stages.insert (plan.queryId, plan.stageId) { plan, partitions } }

def freshWorker (registration : WorkerRegistration) (receivedAtMs : U64) : WorkerRuntime :=
  { registration
    lastObservedAtMs := 0
    lastReceivedAtMs := receivedAtMs
    availableSlots := registration.slots
    availableMemoryBytes := registration.memoryBytes
    alive := true }

def refreshed (worker : WorkerRuntime) (report : WorkerHeartbeat) (receivedAtMs : U64) :
    WorkerRuntime :=
  { worker with
    lastObservedAtMs := report.observedAtMs
    lastReceivedAtMs := receivedAtMs
    availableSlots := report.availableSlots
    availableMemoryBytes := report.availableMemoryBytes
    alive := true }

def cancelStages (c : Coordinator) (queryId : QueryId) (reason : String) : Coordinator :=
  { c with
    stages := c.stages.map fun key stage =>
      if key.1 ≠ queryId then stage
      else { stage with partitions := stage.partitions.map PartitionRuntime.cancel }
    cancelledQueries := c.cancelledQueries.insert queryId reason }

def committed (c : Coordinator) (key : StageKey) : List ShuffleBlock :=
  (c.stages[key]?).elim [] fun stage => stage.partitions.flatMap (·.outputBlocks)

def inputBlocks (c : Coordinator) (plan : StagePlan) (partitionId : PartitionId) :
    List ShuffleBlock :=
  let blocks := plan.inputStages.flatMap fun dependency => c.committed (plan.queryId, dependency)
  if plan.partitionedInput then blocks.filter (·.outputPartition = partitionId) else blocks

structure Submittable [PhysicalPlanCodec] (c : Coordinator) (plan : StagePlan) : Prop where
  valid : plan.Valid
  live : plan.queryId ∉ c.cancelledQueries
  absent : c.stages[(plan.queryId, plan.stageId)]? = none
  dependencies : ∀ dependency ∈ plan.inputStages, ∃ upstream,
    c.plan? (plan.queryId, dependency) = some upstream ∧ (plan.partitionedInput →
        upstream.outputExchange.map (·.partitionCount) = some plan.partitionCount)

structure Assigns (c : Coordinator) (workerId : WorkerId) (nowMs : U64) (worker : WorkerRuntime)
    (stage : StageRuntime) (task : TaskAttemptId) (lease : TaskLease) (left : U32) : Prop where
  present : c.workers[workerId]? = some worker
  alive : worker.alive = true
  slot : worker.availableSlots.val = left.val + 1
  planned : c.stages[(task.queryId, task.stageId)]? = some stage
  pending : stage.partitions[task.partitionId.val]? = some (.pending task.attempt)
  live : task.queryId ∉ c.cancelledQueries
  ready : c.dependenciesSucceeded stage = true
  owner : lease.workerId = workerId
  issued : lease.issuedAtMs = nowMs
  expires : lease.expiresAtMs.val = nowMs.val + c.config.leaseDurationMs.val

def Owns (partition : PartitionRuntime) (task : TaskAttemptId) (workerId : WorkerId)
    (lease : TaskLease) : Prop :=
  partition = .cancelling task workerId lease ∨
    ∃ startedAtMs, partition = .active task workerId lease startedAtMs

def finishedAt : TaskState → Option U64
  | .running _ => none
  | .succeeded finishedAtMs _ | .failed finishedAtMs _ _ | .cancelled finishedAtMs _ =>
    some finishedAtMs

def concluded (maxTaskAttempts : U32) (task : TaskAttemptId) (state : TaskState) :
    PartitionRuntime → PartitionRuntime
  | .cancelling _ _ _ => .cancelled
  | partition =>
    match state with
    | .running _ => partition
    | .succeeded _ outputBlocks => .succeeded task outputBlocks
    | .failed _ error retryable =>
      if retryable then retryOrFail maxTaskAttempts task.attempt error
      else .failed task.attempt error false
    | .cancelled _ _ => .cancelled

-- A report by the owner of the lease, received before the lease expired.
structure Reports (c : Coordinator) (workerId : WorkerId) (task : TaskAttemptId)
    (state : TaskState) (receivedAtMs : U64) (partition : PartitionRuntime) (lease : TaskLease) :
    Prop where
  present : c.partition? (task.queryId, task.stageId) task.partitionId.val = some partition
  owns : Owns partition task workerId lease
  owner : lease.workerId = workerId
  valid : state.validateFor task workerId = .ok ()
  routed : ∀ plan, c.plan? (task.queryId, task.stageId) = some plan → checkExchange plan state = .ok ()
  timely : receivedAtMs < lease.expiresAtMs

inductive Effect [PhysicalPlanCodec] (c : Coordinator) :
    Operation → Except Fault Reply → Coordinator → Prop
  | rejected (operation : Operation) (error : SparkXError) :
    Effect c operation (.error (.error error)) c
  | submitted (plan : StagePlan) (accepted : c.Submittable plan) :
    Effect c (.submitStage plan) (.ok .done) (c.addStage plan)
  | registered (version : U16) (registration : WorkerRegistration) (receivedAtMs : U64)
      (absent : c.workers[registration.workerId]? = none)
      (valid : registration.workerId.validate = .ok ()) :
    Effect c (.workerMessage (.register version registration) receivedAtMs) (.ok .done)
      (c.setWorker registration.workerId (freshWorker registration receivedAtMs))
  | heard (version : U16) (report : WorkerHeartbeat) (receivedAtMs : U64) (worker : WorkerRuntime)
      (present : c.workers[report.workerId]? = some worker)
      (bounded : report.availableSlots ≤
        Word.saturatingSub worker.registration.slots (c.activeTasksForWorker report.workerId)) :
    Effect c (.workerMessage (.heartbeat version report) receivedAtMs) (.ok .done)
      (c.setWorker report.workerId (refreshed worker report receivedAtMs))
  | acknowledged (version : U16) (workerId : WorkerId) (task : TaskAttemptId)
      (partition : PartitionRuntime) (lease : TaskLease) (startedAtMs receivedAtMs : U64)
      (reports : c.Reports workerId task (.running startedAtMs) receivedAtMs partition lease) :
    Effect c (.workerMessage (.taskUpdate version workerId task (.running startedAtMs)) receivedAtMs)
      (.ok .done) c
  | started (version : U16) (workerId : WorkerId) (task : TaskAttemptId) (lease : TaskLease)
      (startedAtMs receivedAtMs : U64)
      (reports : c.Reports workerId task (.running startedAtMs) receivedAtMs
        (.active task workerId lease none) lease) :
    Effect c (.workerMessage (.taskUpdate version workerId task (.running startedAtMs)) receivedAtMs)
      (.ok .done)
      (c.setPartition (task.queryId, task.stageId) task.partitionId.val
        (.active task workerId lease (some startedAtMs)))
  | concluded (version : U16) (workerId : WorkerId) (task : TaskAttemptId) (state : TaskState)
      (partition : PartitionRuntime) (lease : TaskLease) (finishedAtMs receivedAtMs : U64)
      (reports : c.Reports workerId task state receivedAtMs partition lease)
      (finished : finishedAt state = some finishedAtMs)
      (reported : validateReportedTime "finished" finishedAtMs lease receivedAtMs = .ok ()) :
    Effect c (.workerMessage (.taskUpdate version workerId task state) receivedAtMs) (.ok .done)
      ((c.setPartition (task.queryId, task.stageId) task.partitionId.val
        (concluded c.config.maxTaskAttempts task state partition)).releaseWorkerSlot workerId)
  | idle (operation : Operation) (nowMs : U64)
      (called : operation = .nextAssignment nowMs ∨
        ∃ workerId, operation = .nextAssignmentFor workerId nowMs) :
    Effect c operation (.ok (.assignment none)) c
  | assigned (operation : Operation) (workerId : WorkerId) (nowMs : U64) (worker : WorkerRuntime)
      (stage : StageRuntime) (task : TaskAttemptId) (lease : TaskLease) (left : U32)
      (called : operation = .nextAssignment nowMs ∨ operation = .nextAssignmentFor workerId nowMs)
      (assigns : c.Assigns workerId nowMs worker stage task lease left) :
    Effect c operation (.ok (.assignment (some (.assignTask protocolVersion stage.plan task lease
        (c.inputBlocks stage.plan task.partitionId)))))
      ((c.setPartition (task.queryId, task.stageId) task.partitionId.val
        (.active task workerId lease none)).setWorker workerId { worker with availableSlots := left })
  | recancelled (queryId : QueryId) (reason : String) (again : queryId ∈ c.cancelledQueries) :
    Effect c (.cancelQuery queryId reason)
      (.ok (.cancellation (.cancelQuery protocolVersion queryId reason))) c
  | cancelled (queryId : QueryId) (reason : String) (first : queryId ∉ c.cancelledQueries) :
    Effect c (.cancelQuery queryId reason)
      (.ok (.cancellation (.cancelQuery protocolVersion queryId reason)))
      (c.cancelStages queryId reason)
  | elapsed (nowMs : U64) : Effect c (.advanceTime nowMs) (.ok .done) c

end Coordinator

end SparkX
