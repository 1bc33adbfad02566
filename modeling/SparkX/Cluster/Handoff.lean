import SparkX.Cluster.Coordinator.Accepted
import SparkX.Cluster.Worker

set_option autoImplicit false

namespace SparkX

open Std

def received : Except Fault Reply → Except SparkXError Unit
  | .ok _ => .ok ()
  | .error (.error error) => .error error
  | .error (.panic message) => .error (.transport message)

structure Handoff where
  coordinator : Coordinator
  outcome : Except SparkXError RemoteWorker
  discarded : List ShuffleBlock

namespace RemoteWorker

def report (worker : RemoteWorker) (completion : TaskCompletion) (receivedAtMs : U64) : Operation :=
  .workerMessage (.taskUpdate protocolVersion worker.workerId completion.task
    (worker.conclude completion).state) receivedAtMs

-- The completion branch of `run_until` together with the coordinator that receives its report.
def finish [PhysicalPlanCodec] (worker : RemoteWorker) (completion : TaskCompletion)
    (receivedAtMs : U64) (c : Coordinator) : Handoff :=
  let worker := { worker with active := worker.active.erase completion.task }
  let (answer, c) := Coordinator.machine.step (worker.report completion receivedAtMs) c
  let (outcome, discarded) := worker.acknowledge (worker.conclude completion) (received answer)
  { coordinator := c, outcome, discarded }

end RemoteWorker

namespace Coordinator

section

variable [PhysicalPlanCodec] {c : Coordinator} {workerId : WorkerId} {task : TaskAttemptId}
variable {lease : TaskLease} {finishedAtMs receivedAtMs : U64} {blocks : List ShuffleBlock}

-- A well-formed success report for an attempt that the coordinator is cancelling, from the worker
-- that holds its lease and before the lease lapses.
structure SucceedsLate (c : Coordinator) (workerId : WorkerId) (task : TaskAttemptId)
    (finishedAtMs : U64) (blocks : List ShuffleBlock) (receivedAtMs : U64) (lease : TaskLease) :
    Prop where
  cancelling : c.partition? (task.queryId, task.stageId) task.partitionId.val =
    some (.cancelling task workerId lease)
  current : ¬c.Lapses receivedAtMs workerId lease
  valid : (WorkerMessage.taskUpdate protocolVersion workerId task
    (.succeeded finishedAtMs blocks)).validate = .ok ()
  routed : ∀ plan, c.plan? (task.queryId, task.stageId) = some plan →
    checkExchange plan (.succeeded finishedAtMs blocks) = .ok ()
  reported : validateReportedTime "finished" finishedAtMs lease receivedAtMs = .ok ()

theorem SucceedsLate.accepted (late : c.SucceedsLate workerId task finishedAtMs blocks receivedAtMs lease)
    (ok : c.WellFormed) :
    machine.step (.workerMessage (.taskUpdate protocolVersion workerId task
        (.succeeded finishedAtMs blocks)) receivedAtMs) c =
      (.ok .done, ((c.advanced receivedAtMs).setPartition (task.queryId, task.stageId)
        task.partitionId.val .cancelled).releaseWorkerSlot workerId) := by
  have handled := handleWorkerMessage_success ok late.cancelling (.inl rfl) late.current late.valid
    late.routed late.reported
  change (handleWorkerMessage _ receivedAtMs >>= fun _ => pure Reply.done).run c = _
  rw [Stateful.run_bind_ok handled]
  rfl

theorem SucceedsLate.cancelled (late : c.SucceedsLate workerId task finishedAtMs blocks receivedAtMs lease)
    (ok : c.WellFormed) :
    (machine.next (.workerMessage (.taskUpdate protocolVersion workerId task
      (.succeeded finishedAtMs blocks)) receivedAtMs) c).partition? (task.queryId, task.stageId)
        task.partitionId.val = some .cancelled := by
  have present := (advanced_owned receivedAtMs late.cancelling (.inl rfl)).mpr late.current
  change (machine.step _ c).2.partition? _ _ = _
  rw [late.accepted ok, releaseWorkerSlot_partition, partition?_setPartition, present,
    Option.map_some, if_pos ⟨rfl, rfl⟩]

variable {reply : Reply}

theorem output_ok_valid {message : WorkerMessage}
    (accepted : machine.output (.workerMessage message receivedAtMs) c = .ok reply) :
    message.validate = .ok () := by
  cases checked : message.validate with
  | ok => rfl
  | error error =>
    have refused : (handleWorkerMessage message receivedAtMs).run c = (.error (.error error), c) := by
      unfold handleWorkerMessage
      rw [checked]
      rfl
    change ((handleWorkerMessage message receivedAtMs >>= fun _ => pure Reply.done).run c).1 = _
      at accepted
    rw [Stateful.run_bind, refused] at accepted
    cases accepted

theorem Effect.success {operation : Operation} {result : Except Fault Reply} {c' : Coordinator}
    (effect : Effect c operation result c') {version : U16}
    (called : operation = .workerMessage (.taskUpdate version workerId task
      (.succeeded finishedAtMs blocks)) receivedAtMs)
    (accepted : result = .ok reply) :
    ∃ partition lease,
      c.Reports workerId task (.succeeded finishedAtMs blocks) receivedAtMs partition lease ∧
      validateReportedTime "finished" finishedAtMs lease receivedAtMs = .ok () ∧
      c'.partition? (task.queryId, task.stageId) task.partitionId.val = some
        (Coordinator.concluded c.config.maxTaskAttempts task (.succeeded finishedAtMs blocks) partition) := by
  cases effect with
  | rejected => cases accepted
  | concluded _ _ _ _ partition lease _ _ reports finishes reported =>
    cases called
    cases finishes
    refine ⟨partition, lease, reports, reported, ?_⟩
    rw [releaseWorkerSlot_partition, partition?_setPartition, reports.present, Option.map_some,
      if_pos ⟨rfl, rfl⟩]
  | idle _ _ asked =>
    rcases asked with asked | ⟨_, asked⟩
    · cases called.symm.trans asked
    · cases called.symm.trans asked
  | assigned _ _ _ _ _ _ _ _ asked =>
    rcases asked with asked | asked
    · cases called.symm.trans asked
    · cases called.symm.trans asked
  | _ => cases called

theorem output_succeeded (ok : c.WellFormed)
    (accepted : machine.output (.workerMessage (.taskUpdate protocolVersion workerId task
      (.succeeded finishedAtMs blocks)) receivedAtMs) c = .ok reply) :
    (machine.next (.workerMessage (.taskUpdate protocolVersion workerId task
        (.succeeded finishedAtMs blocks)) receivedAtMs) c).partition? (task.queryId, task.stageId)
          task.partitionId.val = some (.succeeded task blocks) ∨
      ∃ lease, c.SucceedsLate workerId task finishedAtMs blocks receivedAtMs lease := by
  have valid := output_ok_valid accepted
  rcases perform_effect ok (.workerMessage (.taskUpdate protocolVersion workerId task
    (.succeeded finishedAtMs blocks)) receivedAtMs) with ⟨error, failed, _⟩ | effect
  · cases failed.symm.trans accepted
  obtain ⟨partition, lease, reports, reported, present⟩ := effect.success rfl accepted
  rcases reports.owns with rfl | ⟨startedAtMs, rfl⟩
  · right
    have before := begun_inert reports.present (.inl rfl)
    have current := (advanced_owned receivedAtMs before (.inl rfl)).mp reports.present
    refine ⟨lease, before, current, valid, ?_, reported⟩
    intro plan planned
    rw [← (sameShape_advanced c receivedAtMs).plan] at planned
    exact reports.routed plan planned
  · exact .inl present

end

section

variable [PhysicalPlanCodec] {c : Coordinator}

-- An accepted report has committed its blocks, and every block is committed or deleted.
structure NoOrphans (c : Coordinator) (worker : RemoteWorker) (completion : TaskCompletion)
    (output : TaskOutput) (receivedAtMs : U64) : Prop where
  committed : ∀ reply, machine.output (worker.report completion receivedAtMs) c = .ok reply →
    (worker.finish completion receivedAtMs c).coordinator.partition?
      (completion.task.queryId, completion.task.stageId) completion.task.partitionId.val =
        some (.succeeded completion.task output.blocks)
  settled : ∀ block ∈ output.blocks,
    block ∈ (worker.finish completion receivedAtMs c).coordinator.committed
      (completion.task.queryId, completion.task.stageId) ∨
        block ∈ (worker.finish completion receivedAtMs c).discarded

omit [PhysicalPlanCodec] in
theorem mem_committed_of_succeeded {key : StageKey} {index : Nat} {task : TaskAttemptId}
    {blocks : List ShuffleBlock} (present : c.partition? key index = some (.succeeded task blocks))
    {block : ShuffleBlock} (member : block ∈ blocks) : block ∈ c.committed key := by
  obtain ⟨stage, stored, position⟩ := partition?_eq_some.mp present
  rw [committed, stored, Option.elim_some, List.mem_flatMap]
  exact ⟨_, List.mem_of_getElem? position, member⟩

theorem report_leaves_no_orphans (reachable : c.Reachable) (worker : RemoteWorker)
    (completion : TaskCompletion) (output : TaskOutput) (receivedAtMs : U64)
    (live : completion.task.queryId ∉ worker.cancelledQueries)
    (finished : completion.result = .ok output) :
    c.NoOrphans worker completion output receivedAtMs ↔
      ¬∃ lease, c.SucceedsLate worker.workerId completion.task completion.lease.issuedAtMs
        output.blocks receivedAtMs lease := by
  have ok := reachable.wellFormed
  obtain ⟨state, kept⟩ := RemoteWorker.conclude_succeeded live finished
  have sent : worker.report completion receivedAtMs = .workerMessage (.taskUpdate protocolVersion
      worker.workerId completion.task
        (.succeeded completion.lease.issuedAtMs output.blocks)) receivedAtMs := by
    rw [RemoteWorker.report, state]
  constructor
  · rintro orphanless ⟨lease, late⟩
    have accepted : machine.output (worker.report completion receivedAtMs) c = .ok .done := by
      rw [sent]
      exact congrArg Prod.fst (late.accepted ok)
    have present := orphanless.committed .done accepted
    have gone := late.cancelled ok
    rw [← sent] at gone
    change (machine.next (worker.report completion receivedAtMs) c).partition? _ _ = _ at present
    rw [gone] at present
    cases present
  · intro onTime
    have commits : ∀ reply, machine.output (worker.report completion receivedAtMs) c = .ok reply →
        (machine.next (worker.report completion receivedAtMs) c).partition?
          (completion.task.queryId, completion.task.stageId) completion.task.partitionId.val =
            some (.succeeded completion.task output.blocks) := by
      intro reply accepted
      rw [sent] at accepted ⊢
      exact (output_succeeded ok accepted).resolve_right onTime
    refine ⟨commits, ?_⟩
    intro block member
    cases answer : machine.output (worker.report completion receivedAtMs) c with
    | ok reply => exact .inl (mem_committed_of_succeeded (commits reply answer) member)
    | error fault =>
      right
      have deleted (error : SparkXError) : block ∈ (RemoteWorker.acknowledge
          { worker with active := worker.active.erase completion.task }
          (worker.conclude completion) (.error error)).2 := by
        rw [RemoteWorker.acknowledge_error, state, kept, List.nil_append]
        exact (RemoteWorker.discardOutputBlocks_uploaded output).symm ▸ member
      change block ∈ (RemoteWorker.acknowledge { worker with active := worker.active.erase completion.task }
        (worker.conclude completion) (received (machine.output (worker.report completion receivedAtMs) c))).2
      rw [answer]
      cases fault with
      | error error => exact deleted error
      | panic message => exact deleted (.transport message)

end

section

open Sample

def sampleBlock : ShuffleBlock :=
  { producer := task 0 0
    outputPartition := 0
    rows := 1
    bytes := 8
    checksum := "c"
    location := .flight worker "http://w" "t" }

def sampleOutput : TaskOutput :=
  { rows := 1, bytes := 8, blocks := [sampleBlock], uploaded := by decide }

def sampleCompletion : TaskCompletion :=
  { task := task 0 0, lease := ⟨worker, 0, 30000⟩, result := .ok sampleOutput }

def sampleWorker : RemoteWorker :=
  { workerId := worker
    maxTerminalTasks := none
    active := [task 0 0]
    cancelledQueries := ∅
    stopping := false
    summary := {} }

theorem report_leaves_no_orphans_committed :
    (running.NoOrphans sampleWorker sampleCompletion sampleOutput 1 ↔
      ¬∃ lease, running.SucceedsLate worker (task 0 0) 0 [sampleBlock] 1 lease) ∧
    (sampleWorker.finish sampleCompletion 1 running).coordinator.committed (query, 0) = [sampleBlock] :=
  ⟨report_leaves_no_orphans (after_reachable [.nextAssignment 0]) sampleWorker sampleCompletion
    sampleOutput 1 (by decide) rfl, by decide⟩

-- The query is cancelled while the first partition runs, and the worker has not heard of it.
def stopped : Coordinator := after [.nextAssignment 0, .cancelQuery query "stop"]

theorem late_success_orphans_block :
    stopped.Reachable ∧ query ∉ sampleWorker.cancelledQueries ∧
      machine.output (sampleWorker.report sampleCompletion 1) stopped = .ok .done ∧
      (sampleWorker.finish sampleCompletion 1 stopped).coordinator.partition? (query, 0) 0 =
        some .cancelled ∧
      (sampleWorker.finish sampleCompletion 1 stopped).coordinator.committed (query, 0) = [] ∧
      (sampleWorker.finish sampleCompletion 1 stopped).discarded = [] ∧
      ¬stopped.NoOrphans sampleWorker sampleCompletion sampleOutput 1 := by
  have uncommitted : (sampleWorker.finish sampleCompletion 1 stopped).coordinator.committed
    (query, 0) = [] := by decide
  have kept : (sampleWorker.finish sampleCompletion 1 stopped).discarded = [] := by decide
  refine ⟨after_reachable _, by decide, by decide, by decide, uncommitted, kept, ?_⟩
  intro orphanless
  rcases orphanless.settled sampleBlock (by decide) with listed | deleted
  · change sampleBlock ∈ (sampleWorker.finish sampleCompletion 1 stopped).coordinator.committed
      (query, 0) at listed
    rw [uncommitted] at listed
    cases listed
  · rw [kept] at deleted
    cases deleted

end

end Coordinator

end SparkX
