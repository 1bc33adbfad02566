import SparkX.Cluster.Coordinator.Operations

set_option autoImplicit false

-- `LocalCluster::execute` splits an aggregate over the partitions of its scan: a coordinator of its
-- own schedules one task for each partition, the partial batch of every finished task goes through
-- a loopback exchange, and what comes back is merged. A batch is the list of its rows.

namespace SparkX

structure LocalCluster where
  workers : Nat
  positive : 0 < workers

namespace LocalCluster

def new (workers : Nat) : LocalCluster :=
  { workers := max workers 1, positive := Nat.lt_of_lt_of_le Nat.one_pos (Nat.le_max_right _ _) }

def queryId : QueryId := ⟨"local-cluster-query"⟩

-- `format!("local-worker-{worker_index:04}")`
def workerId (index : Nat) : WorkerId :=
  ⟨"local-worker-" ++ Text.padded 4 index⟩

def config (partitionCount : U32) : CoordinatorConfig :=
  { leaseDurationMs := Word.maxValue / 2
    heartbeatTimeoutMs := Word.maxValue / 2
    maxTaskAttempts := 1
    maxStagePartitions := partitionCount }

def stage (partitionCount : U32) (planFragment : List UInt8) : StagePlan :=
  { queryId
    stageId := 0
    inputStages := []
    partitionCount
    planFragment
    outputExchange := none
    partitionedInput := false }

-- Everything a run depends on besides the scheduler: the memory limit, the result of the task of
-- each partition (or its panic), what the exchange makes of a partial batch (or the error of the
-- transport or of the memory reservations around it), whether the query is cancelled when a check
-- is made, which running task finishes next, how the exchange closes, and the final merge.
structure Surroundings (Row : Type) where
  memoryBytes : U64
  limited : 0 < memoryBytes
  task : PartitionId → Except Fault (List Row)
  exchange : PartitionId → List Row → Except SparkXError (List (List Row))
  cancelled : Nat → Bool
  pick : Nat → Nat
  close : Except SparkXError Unit
  mergePartials : List (List Row) → Except SparkXError (List Row)

-- The variables of the loop. `completed` is the order in which the tasks were joined; the program
-- does not store it.
structure Progress (Row : Type) where
  running : List (WorkerId × TaskAttemptId)
  partialBatches : List (List Row)
  completed : List PartitionId

def checkCancelled (cancelled : Bool) : Except SparkXError Unit :=
  rejectIf cancelled SparkXError.cancelled

abbrev registration (memoryBytes : U64) (index : Nat) : WorkerRegistration :=
  { workerId := workerId index, slots := 1, memoryBytes }

def registerLocal (memoryBytes : U64) (index : Nat) : Stateful Fault Coordinator Unit := do
  (workerId index).validate
  Coordinator.handleWorkerMessage (.register protocolVersion (registration memoryBytes index)) 0

section

variable [PhysicalPlanCodec] {Row : Type} (surroundings : Surroundings Row)

-- The scheduling loop; `none` when the fuel runs out.
def schedule : Nat → List (WorkerId × TaskAttemptId) →
    Stateful Fault Coordinator (Option (List (WorkerId × TaskAttemptId)))
  | 0, _ => pure none
  | fuel + 1, running => do
    match ← Coordinator.nextAssignment 0 with
    | none => return some running
    | some (.assignTask _ _ task lease _) => schedule fuel (running ++ [(lease.workerId, task)])
    | some (.cancelQuery ..) => throw (.error (.execution
      "local coordinator returned a cancellation while scheduling"))

def settleTask (workerId : WorkerId) (task : TaskAttemptId) :
    Except Fault (List Row) → Stateful Fault Coordinator (List Row)
  | .ok batch => do
    Coordinator.handleWorkerMessage (.taskUpdate protocolVersion workerId task (.succeeded 0 [])) 0
    return batch
  | .error (.error error) => do
    let state := if error = .cancelled
      then TaskState.cancelled 0 "query cancellation reached local worker"
      else TaskState.failed 0 error.toText false
    Coordinator.handleWorkerMessage (.taskUpdate protocolVersion workerId task state) 0
    throw (.error error)
  | .error (.panic message) => throw (.error (.execution s!"worker task failed: {message}"))

def round (fuel : Nat) (progress : Progress Row) :
    Stateful Fault Coordinator (Option (Progress Row)) := do
  let turn := progress.completed.length
  checkCancelled (surroundings.cancelled (2 * turn))
  let some running ← schedule fuel progress.running | return none
  let next := surroundings.pick turn % running.length
  let (workerId, task) ← okOr running[next]? (.execution
    "local coordinator has unfinished partitions but no running tasks")
  let batch ← settleTask workerId task (surroundings.task task.partitionId)
  let transported ← surroundings.exchange task.partitionId batch
  checkCancelled (surroundings.cancelled (2 * turn + 1))
  return some
    { running := running.eraseIdx next
      partialBatches := progress.partialBatches ++ transported
      completed := progress.completed ++ [task.partitionId] }

def rounds (fuel : Nat) : Nat → Progress Row → Stateful Fault Coordinator (Option (Progress Row))
  | 0, progress => pure (some progress)
  | count + 1, progress => do
    let some later ← round surroundings fuel progress | return none
    rounds fuel count later

-- `while partial_batches.len() < partitions`
def loop (partitions scheduleFuel : Nat) :
    Nat → Progress Row → Stateful Fault Coordinator (Option (Progress Row))
  | 0, _ => pure none
  | fuel + 1, progress =>
    if progress.partialBatches.length < partitions then do
      let some later ← round surroundings scheduleFuel progress | return none
      loop partitions scheduleFuel fuel later
    else pure (some progress)

end

section

variable [PhysicalPlanCodec] {Row : Type}

def initial : Progress Row := { running := [], partialBatches := [], completed := [] }

-- One stage, and one worker with one slot for each task that may run at the same time.
def prepare (cluster : LocalCluster) (partitionCount : U32) (planFragment : List UInt8)
    (memoryBytes : U64) : Stateful Fault Coordinator Unit := do
  Coordinator.submitStage (stage partitionCount planFragment)
  (List.range (min cluster.workers partitionCount.val)).forM (registerLocal memoryBytes)

def start (cluster : LocalCluster) (partitions : Nat) (planFragment : List UInt8)
    (memoryBytes : U64) : Except Fault Coordinator := do
  let partitionCount ← okOr (Word.tryFrom partitions) (.execution
    s!"local cluster partition count {partitions} exceeds the protocol limit")
  queryId.validate
  let c ← Coordinator.new (config partitionCount)
  match (cluster.prepare partitionCount planFragment memoryBytes).run c with
  | (.ok (), c) => .ok c
  | (.error fault, _) => .error fault

-- The distributed part of `LocalCluster::execute`; `none` when the fuel runs out.
def execute (cluster : LocalCluster) (partitions : Nat) (planFragment : List UInt8)
    (surroundings : Surroundings Row) (fuel : Nat) : Except Fault (Option (List Row)) := do
  let c ← cluster.start partitions planFragment surroundings.memoryBytes
  match ← ((loop surroundings partitions fuel fuel initial).run c).1 with
  | none => return none
  | some progress =>
    surroundings.close
    checkCancelled (surroundings.cancelled (2 * progress.completed.length))
    return some (← surroundings.mergePartials progress.partialBatches)

end

end LocalCluster

end SparkX
