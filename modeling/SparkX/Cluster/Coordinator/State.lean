import SparkX.Cluster.Protocol
import SparkX.Shared.OrderedMap

set_option autoImplicit false

namespace SparkX

open Std

def coordinatorError (message : String) : SparkXError :=
  .protocol s!"invalid coordinator transition: {message}"

structure CoordinatorConfig where
  leaseDurationMs : U64 := 30000
  heartbeatTimeoutMs : U64 := 15000
  maxTaskAttempts : U32 := 3
  maxStagePartitions : U32 := 100000
deriving DecidableEq, Repr

def CoordinatorConfig.validate (config : CoordinatorConfig) :
    Except SparkXError CoordinatorConfig := do
  rejectIf (config.leaseDurationMs = 0) (coordinatorError "lease duration must be greater than zero")
  rejectIf (config.heartbeatTimeoutMs = 0) (coordinatorError "heartbeat timeout must be greater than zero")
  rejectIf (config.maxTaskAttempts = 0) (coordinatorError "maximum task attempts must be greater than zero")
  rejectIf (config.maxStagePartitions = 0)
    (coordinatorError "maximum stage partitions must be greater than zero")
  return config

abbrev StageKey := QueryId × StageId

def StageKey.cmp : StageKey → StageKey → Ordering :=
  compareLex (compareOn Prod.fst) (compareOn Prod.snd)

instance : TransCmp StageKey.cmp :=
  inferInstanceAs (TransCmp (compareLex (compareOn Prod.fst) (compareOn Prod.snd)))

instance : LawfulEqCmp StageKey.cmp where
  compare_self := ReflCmp.compare_self
  eq_of_compare {first second} equal := by
    simp only [StageKey.cmp, compareLex_eq_eq] at equal
    exact Prod.ext (LawfulEqOrd.eq_of_compare equal.1) (LawfulEqOrd.eq_of_compare equal.2)

structure WorkerRuntime where
  registration : WorkerRegistration
  lastObservedAtMs : U64
  lastReceivedAtMs : U64
  availableSlots : U32
  availableMemoryBytes : U64
  alive : Bool
deriving DecidableEq, Repr

inductive PartitionRuntime where
  | pending (nextAttempt : U32)
  | active (task : TaskAttemptId) (workerId : WorkerId) (lease : TaskLease)
      (startedAtMs : Option U64)
  | cancelling (task : TaskAttemptId) (workerId : WorkerId) (lease : TaskLease)
  | succeeded (task : TaskAttemptId) (outputBlocks : List ShuffleBlock)
  | failed (attempt : U32) (error : String) (retryable : Bool)
  | cancelled
deriving DecidableEq, Repr

@[ext] structure StageRuntime where
  plan : StagePlan
  partitions : List PartitionRuntime
deriving DecidableEq, Repr

structure Coordinator where
  config : CoordinatorConfig
  workers : TreeMap WorkerId WorkerRuntime
  stages : TreeMap StageKey StageRuntime StageKey.cmp
  cancelledQueries : TreeMap QueryId String

inductive StageStatus where
  | blocked
  | ready
  | running
  | succeeded
  | failed
  | cancelled
deriving DecidableEq, Repr

namespace PartitionRuntime

def isPending : PartitionRuntime → Bool
  | .pending _ => true
  | _ => false

def isActive : PartitionRuntime → Bool
  | .active .. => true
  | _ => false

def isSucceeded : PartitionRuntime → Bool
  | .succeeded .. => true
  | _ => false

def isFailed : PartitionRuntime → Bool
  | .failed .. => true
  | _ => false

def holder : PartitionRuntime → Option WorkerId
  | .active _ workerId _ _ => some workerId
  | .cancelling _ workerId _ => some workerId
  | _ => none

def lease? : PartitionRuntime → Option TaskLease
  | .active _ _ lease _ => some lease
  | .cancelling _ _ lease => some lease
  | _ => none

def outputBlocks : PartitionRuntime → List ShuffleBlock
  | .succeeded _ outputBlocks => outputBlocks
  | _ => []

-- An update for `attempt` comes from an attempt the partition has already retired.
def supersedes (attempt : U32) : PartitionRuntime → Bool
  | .pending nextAttempt => attempt < nextAttempt
  | .active current _ _ _ => attempt < current.attempt
  | .cancelling current _ _ => attempt < current.attempt
  | .succeeded current _ => attempt < current.attempt
  | .failed retired _ _ => attempt ≤ retired
  | .cancelled => true

-- What `cancel_query` makes of a partition.
def cancel : PartitionRuntime → PartitionRuntime
  | .active task workerId lease _ => .cancelling task workerId lease
  | .succeeded task outputBlocks => .succeeded task outputBlocks
  | _ => .cancelled

end PartitionRuntime

namespace Coordinator

def new (config : CoordinatorConfig) : Except SparkXError Coordinator := do
  let config ← config.validate
  return { config, workers := ∅, stages := ∅, cancelledQueries := ∅ }

def partition? (c : Coordinator) (key : StageKey) (index : Nat) : Option PartitionRuntime :=
  c.stages[key]?.bind (·.partitions[index]?)

-- `stage.partitions[index] = partition` through the stage table.
def setPartition (c : Coordinator) (key : StageKey) (index : Nat)
    (partition : PartitionRuntime) : Coordinator :=
  match c.stages[key]? with
  | some stage =>
    let updated := { stage with partitions := stage.partitions.set index partition }
    { c with stages := c.stages.insert key updated }
  | none => c

def setWorker (c : Coordinator) (workerId : WorkerId) (worker : WorkerRuntime) : Coordinator :=
  { c with workers := c.workers.insert workerId worker }

def stageNotFound (queryId : QueryId) (stageId : StageId) : SparkXError :=
  .notFound s!"query {queryId.value} stage {stageId} is not registered with the coordinator"

def hasQuery (c : Coordinator) (queryId : QueryId) : Bool :=
  c.stages.keys.any (·.1 == queryId)

def allSucceeded (stage : StageRuntime) : Bool := stage.partitions.all (·.isSucceeded)

def dependenciesSucceeded (c : Coordinator) (stage : StageRuntime) : Bool :=
  stage.plan.inputStages.all fun dependency =>
    (c.stages[(stage.plan.queryId, dependency)]?).any allSucceeded

def firstPending (stage : StageRuntime) : Option (Nat × U32) :=
  stage.partitions.zipIdx.findSome? fun
    | (.pending nextAttempt, index) => some (index, nextAttempt)
    | _ => none

def nextPendingPartition (c : Coordinator) : Option (StageKey × Nat × U32) :=
  c.stages.toList.findSome? fun (key, stage) =>
    if key.1 ∈ c.cancelledQueries ∨ !c.dependenciesSucceeded stage then none
    else (firstPending stage).map fun (index, attempt) => (key, index, attempt)

def leasedTo (workerId : WorkerId) (partition : PartitionRuntime) : Bool :=
  partition.holder == some workerId

def occupied (c : Coordinator) (workerId : WorkerId) : Nat :=
  OrderedMap.total (fun _ stage => stage.partitions.countP (leasedTo workerId)) c.stages

def activeTasksForWorker (c : Coordinator) (workerId : WorkerId) : U32 :=
  (Word.tryFrom (c.occupied workerId)).getD Word.maxValue

def stageStatus (c : Coordinator) (queryId : QueryId) (stageId : StageId) :
    Except SparkXError StageStatus := do
  let stage ← okOr c.stages[(queryId, stageId)]? (stageNotFound queryId stageId)
  if queryId ∈ c.cancelledQueries then return .cancelled
  if stage.partitions.any (·.isFailed) then return .failed
  if allSucceeded stage then return .succeeded
  if stage.partitions.any (·.isActive) then return .running
  if c.dependenciesSucceeded stage then return .ready
  return .blocked

def stageOutputBlocks (c : Coordinator) (queryId : QueryId) (stageId : StageId) :
    Except SparkXError (List ShuffleBlock) := do
  let stage ← okOr c.stages[(queryId, stageId)]? (stageNotFound queryId stageId)
  rejectIf (queryId ∉ c.cancelledQueries ∧ ¬allSucceeded stage)
    (coordinatorError s!"query {queryId.value} stage {stageId} has not succeeded")
  return stage.partitions.flatMap (·.outputBlocks)

end Coordinator

end SparkX
