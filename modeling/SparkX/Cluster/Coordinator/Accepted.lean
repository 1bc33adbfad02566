import SparkX.Cluster.Coordinator.Commit

set_option autoImplicit false

namespace SparkX.Coordinator

open Std

variable {c : Coordinator} {workerId : WorkerId} {task : TaskAttemptId} {lease : TaskLease}
variable {partition : PartitionRuntime} {finishedAtMs receivedAtMs : U64} {blocks : List ShuffleBlock}

theorem registerWorker_run {registration : WorkerRegistration} (receivedAtMs : U64)
    (absent : registration.workerId ∉ c.workers) :
    (registerWorker registration receivedAtMs).run c =
      (.ok (), c.setWorker registration.workerId (freshWorker registration receivedAtMs)) := by
  rw [registerWorker, Stateful.run_bind_get, run_check (rejectIf_ok.mpr absent)]
  rfl

theorem handleWorkerMessage_register {registration : WorkerRegistration}
    (valid : (WorkerMessage.register protocolVersion registration).validate = .ok ())
    (absent : registration.workerId ∉ (c.advanced receivedAtMs).workers) :
    (handleWorkerMessage (.register protocolVersion registration) receivedAtMs).run c =
      (.ok (), (c.advanced receivedAtMs).setWorker registration.workerId
        (freshWorker registration receivedAtMs)) := by
  rw [handleWorkerMessage, run_check valid, Stateful.run_bind_ok (advanceTime_run c receivedAtMs)]
  exact registerWorker_run receivedAtMs absent

theorem lapsed_owned (nowMs : U64) (owns : Owns partition task workerId lease) :
    c.lapsed nowMs partition = partition ↔ ¬c.Lapses nowMs workerId lease := by
  rcases owns with rfl | ⟨startedAtMs, rfl⟩
  · by_cases ended : workerId ∈ c.timedOutWorkers nowMs ∨ lease.expiresAtMs ≤ nowMs
    · simp [lapsed, lapse, Lapses, ended]
    · simp [lapsed, lapse, Lapses, ended]
  · -- A retry or a failure has no holder, so it is not the running partition.
    have replaced (error : String) : retryOrFail c.config.maxTaskAttempts task.attempt error ≠
        .active task workerId lease startedAtMs := by
      intro same
      have held := congrArg PartitionRuntime.holder same
      rw [retryOrFail_holder] at held
      cases held
    by_cases silent : workerId ∈ c.timedOutWorkers nowMs
    · simp [lapsed, lapse, Lapses, silent, replaced]
    · by_cases late : lease.expiresAtMs ≤ nowMs
      · simp [lapsed, lapse, Lapses, silent, late, replaced]
      · simp [lapsed, lapse, Lapses, silent, late]

theorem advanced_owned {key : StageKey} {index : Nat} (nowMs : U64)
    (present : c.partition? key index = some partition)
    (owns : Owns partition task workerId lease) :
    (c.advanced nowMs).partition? key index = some partition ↔ ¬c.Lapses nowMs workerId lease := by
  rw [advanced_partition, present, Option.map_some, Option.some.injEq]
  exact lapsed_owned nowMs owns

theorem Owns.attempt (owns : Owns partition task workerId lease) :
    partition.supersedes task.attempt = false := by
  rcases owns with rfl | ⟨startedAtMs, rfl⟩
  · simp [PartitionRuntime.supersedes]
  · simp [PartitionRuntime.supersedes]

theorem Owns.leaseOk {plan : StagePlan} {index : Nat} (owns : Owns partition task workerId lease)
    (ok : PartitionOk c plan index partition) : LeaseOk c plan index task workerId lease := by
  rcases owns with rfl | ⟨startedAtMs, rfl⟩
  · exact ok.1
  · exact ok.1

variable [PhysicalPlanCodec]

theorem submitStage_run {plan : StagePlan} (valid : plan.Valid)
    (small : plan.partitionCount ≤ c.config.maxStagePartitions)
    (live : plan.queryId ∉ c.cancelledQueries) (fresh : (plan.queryId, plan.stageId) ∉ c.stages)
    (submitted : c.checkSubmitted plan = .ok ()) (whole : plan.partitionedInput = false)
    (direct : plan.outputExchange = none) :
    (submitStage plan).run c = (.ok (), c.addStage plan) := by
  have bounded : rejectIf (plan.outputExchange.any (c.config.maxStagePartitions < ·.partitionCount))
      (coordinatorError "exchange exceeds configured partition maximum") = .ok () := by
    rw [rejectIf_ok, direct]
    exact Bool.false_ne_true
  rw [submitStage, Stateful.run_bind_get, run_check (StagePlan.validate_ok.mpr valid),
    run_check (rejectIf_ok.mpr (Fin.not_lt.mpr small)), run_check (rejectIf_ok.mpr live)]
  dsimp only
  rw [run_check (rejectIf_ok.mpr fresh), run_check submitted, whole]
  change ((liftM _ : Stateful Fault Coordinator Unit) >>= fun _ => _).run c = _
  rw [run_check bounded]
  rfl

theorem recordTaskUpdate_success (ok : c.WellFormed)
    (present : c.partition? (task.queryId, task.stageId) task.partitionId.val = some partition)
    (owns : Owns partition task workerId lease)
    (routed : ∀ plan, c.plan? (task.queryId, task.stageId) = some plan →
      checkExchange plan (.succeeded finishedAtMs blocks) = .ok ())
    (timely : receivedAtMs < lease.expiresAtMs)
    (reported : validateReportedTime "finished" finishedAtMs lease receivedAtMs = .ok ()) :
    (recordTaskUpdate workerId task (.succeeded finishedAtMs blocks) receivedAtMs).run c =
      (.ok (), (c.setPartition (task.queryId, task.stageId) task.partitionId.val
        (concluded c.config.maxTaskAttempts task (.succeeded finishedAtMs blocks)
          partition)).releaseWorkerSlot workerId) := by
  obtain ⟨stage, stored, position⟩ := partition?_eq_some.mp present
  have planned := plan?_of_stage stored
  have leased := owns.leaseOk (ok.partitions _ stage.plan _ _ planned present)
  obtain ⟨worker, registered, _⟩ := leased.alive
  have known : rejectIf (workerId ∉ c.workers) (coordinatorError
      s!"task update came from unregistered worker {workerId.value}") = .ok () :=
    rejectIf_ok.mpr (not_not.mpr (TreeMap.isSome_getElem?_iff_mem.mp (by rw [registered]; rfl)))
  have placed : task.validateFor stage.plan = .ok () := by
    have formed := ok.stages _ stage stored
    obtain ⟨bound, _⟩ := List.getElem?_eq_some_iff.mp position
    rw [formed.width] at bound
    exact TaskAttemptId.validateFor_ok.mpr ⟨leased.placed.query ▸ formed.valid.query,
      leased.placed.query, leased.placed.stage, bound⟩
  have newest : rejectIf (partition.supersedes task.attempt) SparkXError.taskSuperseded = .ok () := by
    rw [rejectIf_ok, owns.attempt]
    exact Bool.false_ne_true
  have owner (message : String) : rejectIf (workerId ≠ workerId ∨ lease.workerId ≠ workerId)
      (coordinatorError message) = .ok () := rejectIf_ok.mpr (by simp [leased.owner])
  have same (message : String) : rejectIf (task ≠ task) (coordinatorError message) = .ok () :=
    rejectIf_ok.mpr (by simp)
  rw [recordTaskUpdate, Stateful.run_bind_get, run_check known, run_check (okOr_ok.mpr stored),
    run_check placed, run_expect, position]
  dsimp only
  rw [run_check newest, run_check (routed stage.plan planned), run_check (okOr_ok.mpr rfl)]
  rcases owns with rfl | ⟨startedAtMs, rfl⟩
  · dsimp only
    rw [recordCancellingUpdate, run_check (same _), run_check (owner _), run_check reported]
    rfl
  · have early : rejectIf (lease.expiresAtMs ≤ receivedAtMs)
        (coordinatorError "task update arrived after its lease expired") = .ok () :=
      rejectIf_ok.mpr (Fin.not_le.mpr timely)
    dsimp only
    rw [recordActiveUpdate, run_check (same _), run_check (owner _), run_check early, run_check reported]
    rfl

theorem handleWorkerMessage_success (ok : c.WellFormed)
    (present : c.partition? (task.queryId, task.stageId) task.partitionId.val = some partition)
    (owns : Owns partition task workerId lease) (current : ¬c.Lapses receivedAtMs workerId lease)
    (valid : (WorkerMessage.taskUpdate protocolVersion workerId task
      (.succeeded finishedAtMs blocks)).validate = .ok ())
    (routed : ∀ plan, c.plan? (task.queryId, task.stageId) = some plan →
      checkExchange plan (.succeeded finishedAtMs blocks) = .ok ())
    (reported : validateReportedTime "finished" finishedAtMs lease receivedAtMs = .ok ()) :
    (handleWorkerMessage (.taskUpdate protocolVersion workerId task (.succeeded finishedAtMs blocks))
      receivedAtMs).run c =
      (.ok (), ((c.advanced receivedAtMs).setPartition (task.queryId, task.stageId)
        task.partitionId.val (concluded c.config.maxTaskAttempts task (.succeeded finishedAtMs blocks)
          partition)).releaseWorkerSlot workerId) := by
  have kept := (advanced_owned receivedAtMs present owns).mpr current
  have exchanged : ∀ plan, (c.advanced receivedAtMs).plan? (task.queryId, task.stageId) = some plan →
      checkExchange plan (.succeeded finishedAtMs blocks) = .ok () := by
    intro plan planned
    rw [(sameShape_advanced c receivedAtMs).plan] at planned
    exact routed plan planned
  have recorded := recordTaskUpdate_success (advanced_wellFormed receivedAtMs ok) kept owns exchanged
    (Fin.not_le.mp (not_or.mp current).2) reported
  rw [advanced_config] at recorded
  rw [handleWorkerMessage, run_check valid, Stateful.run_bind_ok (advanceTime_run c receivedAtMs)]
  exact recorded

end SparkX.Coordinator
