import SparkX.Cluster.Protocol

set_option autoImplicit false

namespace SparkX

open Std

def isRetryable : SparkXError → Bool
  | .io _ | .parquet _ | .transport _ => true
  | _ => false

def ShuffleLocation.isFlight : ShuffleLocation → Bool
  | .flight .. => true
  | _ => false

-- What a finished task has uploaded. The data plane hands out Flight locations only.
structure TaskOutput where
  rows : U64
  bytes : U64
  blocks : List ShuffleBlock
  uploaded : ∀ block ∈ blocks, block.location.isFlight = true

structure TaskCompletion where
  task : TaskAttemptId
  lease : TaskLease
  result : Except SparkXError TaskOutput

structure WorkerSummary where
  completedTasks : Nat := 0
  failedTasks : Nat := 0
  cancelledTasks : Nat := 0
  outputRows : U64 := 0
  outputBytes : U64 := 0

namespace WorkerSummary

def terminalTasks (summary : WorkerSummary) : Nat :=
  summary.completedTasks + summary.failedTasks + summary.cancelledTasks

def retract (summary : WorkerSummary) (blocks : List ShuffleBlock) : WorkerSummary :=
  { summary with
    completedTasks := summary.completedTasks - 1
    outputRows := Word.saturatingSub summary.outputRows (blocks.map (·.rows)).sum
    outputBytes := Word.saturatingSub summary.outputBytes (blocks.map (·.bytes)).sum
    failedTasks := summary.failedTasks + 1 }

end WorkerSummary

structure RemoteWorker where
  workerId : WorkerId
  maxTerminalTasks : Option U64
  active : List TaskAttemptId
  cancelledQueries : TreeMap QueryId String
  stopping : Bool
  summary : WorkerSummary

-- The state to report, the counters with it, and the blocks deleted before the report.
structure Conclusion where
  state : TaskState
  summary : WorkerSummary
  discarded : List ShuffleBlock

-- The blocks whose deletion `discard_output_blocks` asks for: it skips those without an endpoint.
def discardOutputBlocks (blocks : List ShuffleBlock) : List ShuffleBlock :=
  blocks.filter (·.location.isFlight)

def uncommittedBlocks : TaskState → List ShuffleBlock
  | .succeeded _ outputBlocks => outputBlocks
  | _ => []

namespace RemoteWorker

-- The first half of the completion branch of `run_until`, up to the report.
def conclude (worker : RemoteWorker) (completion : TaskCompletion) : Conclusion :=
  let finishedAtMs := completion.lease.issuedAtMs
  let summary := worker.summary
  match worker.cancelledQueries[completion.task.queryId]? with
  | some reason =>
    { state := .cancelled finishedAtMs reason
      summary := { summary with cancelledTasks := summary.cancelledTasks + 1 }
      discarded :=
        match completion.result with
        | .ok output => discardOutputBlocks output.blocks
        | .error _ => [] }
  | none =>
    match completion.result with
    | .ok output =>
      { state := .succeeded finishedAtMs output.blocks
        summary :=
          { summary with
            completedTasks := summary.completedTasks + 1
            outputRows := Word.saturatingAdd summary.outputRows output.rows
            outputBytes := Word.saturatingAdd summary.outputBytes output.bytes }
        discarded := [] }
    | .error .cancelled =>
      -- The token of the task is also cancelled when the worker shuts down.
      if worker.stopping then
        { state := .failed finishedAtMs "worker shut down before the task completed" true
          summary := { summary with failedTasks := summary.failedTasks + 1 }
          discarded := [] }
      else
        { state := .cancelled finishedAtMs "task execution was cancelled"
          summary := { summary with cancelledTasks := summary.cancelledTasks + 1 }
          discarded := [] }
    | .error error =>
      { state := .failed finishedAtMs error.toText (isRetryable error)
        summary := { summary with failedTasks := summary.failedTasks + 1 }
        discarded := [] }

def stopWhenDone (worker : RemoteWorker) : RemoteWorker :=
  if worker.maxTerminalTasks.any (·.val ≤ worker.summary.terminalTasks) then
    { worker with stopping := true }
  else worker

-- The second half, from the answer to the report on: what becomes of the worker, and all the blocks
-- it has deleted.
def acknowledge (worker : RemoteWorker) (conclusion : Conclusion) (answer : Except SparkXError Unit) :
    Except SparkXError RemoteWorker × List ShuffleBlock :=
  let worker := { worker with summary := conclusion.summary }
  match answer with
  | .ok () => (.ok worker.stopWhenDone, conclusion.discarded)
  | .error error =>
    let blocks := uncommittedBlocks conclusion.state
    let discarded := conclusion.discarded ++ discardOutputBlocks blocks
    if error ≠ .taskSuperseded then (.error error, discarded)
    else
      match conclusion.state with
      | .succeeded .. =>
        let worker := { worker with summary := worker.summary.retract blocks }
        (.ok worker.stopWhenDone, discarded)
      | _ => (.ok worker.stopWhenDone, discarded)

variable {worker : RemoteWorker} {completion : TaskCompletion} {output : TaskOutput}

theorem conclude_succeeded (live : completion.task.queryId ∉ worker.cancelledQueries)
    (finished : completion.result = .ok output) :
    (worker.conclude completion).state = .succeeded completion.lease.issuedAtMs output.blocks ∧
      (worker.conclude completion).discarded = [] := by
  have unknown : worker.cancelledQueries[completion.task.queryId]? = none := TreeMap.getElem?_eq_none live
  simp only [conclude, unknown, finished, and_self]

theorem discardOutputBlocks_uploaded (output : TaskOutput) :
    discardOutputBlocks output.blocks = output.blocks :=
  List.filter_eq_self.mpr output.uploaded

theorem acknowledge_error (worker : RemoteWorker) (conclusion : Conclusion) (error : SparkXError) :
    (worker.acknowledge conclusion (.error error)).2 =
      conclusion.discarded ++ discardOutputBlocks (uncommittedBlocks conclusion.state) := by
  simp only [acknowledge]
  split
  · rfl
  · split <;> rfl

theorem stopWhenDone_active (worker : RemoteWorker) : worker.stopWhenDone.active = worker.active := by
  unfold stopWhenDone
  split
  next => rfl
  next => rfl

theorem acknowledge_continues {conclusion : Conclusion} {answer : Except SparkXError Unit}
    {next : RemoteWorker} (continues : (worker.acknowledge conclusion answer).1 = .ok next) :
    next.active = worker.active ∧ (answer = .ok () ∨ answer = .error .taskSuperseded) := by
  cases answer with
  | ok =>
    cases continues
    exact ⟨stopWhenDone_active _, .inl rfl⟩
  | error error =>
    simp only [acknowledge] at continues
    split at continues
    next => exact nomatch continues
    next superseded =>
      rw [not_not] at superseded
      refine ⟨?_, .inr (congrArg Except.error superseded)⟩
      split at continues
      next =>
        cases continues
        exact stopWhenDone_active _
      next =>
        cases continues
        exact stopWhenDone_active _

end RemoteWorker

end SparkX
