import SparkX.Cluster.Coordinator.Advance

set_option autoImplicit false

namespace SparkX.Coordinator

open Std

def plan? (c : Coordinator) (key : StageKey) : Option StagePlan := c.stages[key]?.map (·.plan)

def Alive (c : Coordinator) (workerId : WorkerId) : Prop :=
  ∃ worker, c.workers[workerId]? = some worker ∧ worker.alive = true

structure TaskAt (plan : StagePlan) (index : Nat) (task : TaskAttemptId) : Prop where
  query : task.queryId = plan.queryId
  stage : task.stageId = plan.stageId
  partition : task.partitionId.val = index

structure LeaseOk (c : Coordinator) (plan : StagePlan) (index : Nat) (task : TaskAttemptId)
    (workerId : WorkerId) (lease : TaskLease) : Prop where
  placed : TaskAt plan index task
  attempt : task.attempt < c.config.maxTaskAttempts
  owner : lease.workerId = workerId
  alive : c.Alive workerId

-- A hash exchange has one block for every destination.
structure Routed (count : Nat) (blocks : List ShuffleBlock) : Prop where
  length : blocks.length = count
  distinct : (blocks.map (·.outputPartition)).Nodup
  bounded : ∀ block ∈ blocks, block.outputPartition.val < count

structure Committed (plan : StagePlan) (index : Nat) (task : TaskAttemptId)
    (blocks : List ShuffleBlock) : Prop where
  placed : TaskAt plan index task
  valid : ∀ block ∈ blocks, block.validate = .ok () ∧ block.producer = task
  routed : ∀ exchange, plan.outputExchange = some exchange → Routed exchange.partitionCount.val blocks

def PartitionOk (c : Coordinator) (plan : StagePlan) (index : Nat) : PartitionRuntime → Prop
  | .pending nextAttempt =>
    nextAttempt < c.config.maxTaskAttempts ∧ plan.queryId ∉ c.cancelledQueries
  | .active task workerId lease _ =>
    LeaseOk c plan index task workerId lease ∧ plan.queryId ∉ c.cancelledQueries
  | .cancelling task workerId lease =>
    LeaseOk c plan index task workerId lease ∧ plan.queryId ∈ c.cancelledQueries
  | .succeeded task blocks => Committed plan index task blocks
  | .failed attempt _ _ =>
    attempt < c.config.maxTaskAttempts ∧ plan.queryId ∉ c.cancelledQueries
  | .cancelled => True

structure StageOk [PhysicalPlanCodec] (c : Coordinator) (key : StageKey) (plan : StagePlan)
    (width : Nat) : Prop where
  valid : plan.Valid
  key : key = (plan.queryId, plan.stageId)
  width : width = plan.partitionCount.val
  dependencies : ∀ dependency ∈ plan.inputStages, ∃ upstream,
    c.plan? (plan.queryId, dependency) = some upstream ∧ (plan.partitionedInput →
        upstream.outputExchange.map (·.partitionCount) = some plan.partitionCount)

structure WellFormed [PhysicalPlanCodec] (c : Coordinator) : Prop where
  attempts : 0 < c.config.maxTaskAttempts
  leaseDuration : 0 < c.config.leaseDurationMs
  stages : ∀ (key : StageKey) stage, c.stages[key]? = some stage →
    StageOk c key stage.plan stage.partitions.length
  partitions : ∀ key plan index partition, c.plan? key = some plan →
    c.partition? key index = some partition → PartitionOk c plan index partition
  workers : ∀ (workerId : WorkerId) worker, c.workers[workerId]? = some worker → workerId.validate = .ok ()
  slots : ∀ (workerId : WorkerId) worker, c.workers[workerId]? = some worker →
    c.load workerId ≤ worker.registration.slots.val

variable {key : StageKey}

theorem plan?_of_stage {c : Coordinator} {stage : StageRuntime} (present : c.stages[key]? = some stage) :
    c.plan? key = some stage.plan := by
  simp only [plan?, present, Option.map_some]

theorem plan?_of_partition {c : Coordinator} {index : Nat} {partition : PartitionRuntime}
    (present : c.partition? key index = some partition) : ∃ plan, c.plan? key = some plan := by
  obtain ⟨stage, found, _⟩ := partition?_eq_some.mp present
  exact ⟨stage.plan, plan?_of_stage found⟩

section

variable {c c' : Coordinator}

def SameShape (c c' : Coordinator) : Prop :=
  ∀ key : StageKey, c'.stages[key]?.map (fun stage => (stage.plan, stage.partitions.length)) =
    c.stages[key]?.map fun stage => (stage.plan, stage.partitions.length)

theorem SameShape.plan (same : SameShape c c') (key : StageKey) : c'.plan? key = c.plan? key := by
  have projected := congrArg (Option.map Prod.fst) (same key)
  simp only [Option.map_map] at projected
  exact projected

theorem SameShape.stages [PhysicalPlanCodec] (same : SameShape c c')
    (before : ∀ (key : StageKey) stage, c.stages[key]? = some stage →
      StageOk c key stage.plan stage.partitions.length) (key : StageKey) (stage : StageRuntime)
    (present : c'.stages[key]? = some stage) :
    StageOk c' key stage.plan stage.partitions.length := by
  have matching := same key
  rw [present, Option.map_some] at matching
  obtain ⟨old, found, equal⟩ := Option.map_eq_some_iff.mp matching.symm
  obtain ⟨plans, widths⟩ := Prod.mk.injEq .. ▸ equal
  have ok := before key old found
  rw [← plans, ← widths]
  refine ⟨ok.valid, ok.key, ok.width, ?_⟩
  intro dependency member
  obtain ⟨upstream, submitted, exchanged⟩ := ok.dependencies dependency member
  exact ⟨upstream, (same.plan _).trans submitted, exchanged⟩

theorem SameShape.of_map {change : StageKey → StageRuntime → StageRuntime}
    (mapped : ∀ key : StageKey, c'.stages[key]? = (c.stages[key]?).map (change key))
    (plans : ∀ key stage, (change key stage).plan = stage.plan)
    (widths : ∀ key stage, (change key stage).partitions.length = stage.partitions.length) :
    SameShape c c' := by
  intro key
  rw [mapped, Option.map_map]
  congr 1
  funext stage
  simp only [Function.comp_apply, plans, widths]

theorem SameShape.of_stages (same : c'.stages = c.stages) : SameShape c c' := by
  intro key
  rw [same]

theorem sameShape_setPartition (c : Coordinator) (key : StageKey) (index : Nat)
    (partition : PartitionRuntime) : SameShape c (c.setPartition key index partition) := by
  apply SameShape.of_map fun other => c.setPartition_stages key other index partition
  · intro other stage
    split <;> rfl
  · intro other stage
    split
    · exact List.length_set
    · rfl

theorem sameShape_advanced (c : Coordinator) (nowMs : U64) : SameShape c (c.advanced nowMs) := by
  apply SameShape.of_map (c.advanced_stages nowMs)
  · intro key stage
    rfl
  · intro key stage
    exact List.length_map _

end

variable {workerId : WorkerId} {lease : TaskLease}

section

variable {c c' : Coordinator} {plan : StagePlan} {index : Nat} {partition : PartitionRuntime}

theorem LeaseOk.transfer {task : TaskAttemptId} (ok : LeaseOk c plan index task workerId lease)
    (config : c'.config = c.config) (alive : c'.Alive workerId) : LeaseOk c' plan index task workerId lease :=
  ⟨ok.placed, config ▸ ok.attempt, ok.owner, alive⟩

theorem PartitionOk.transfer (ok : PartitionOk c plan index partition)
    (config : c'.config = c.config) (cancelled : c'.cancelledQueries = c.cancelledQueries)
    (alive : ∀ workerId, partition.holder = some workerId → c.Alive workerId → c'.Alive workerId) :
    PartitionOk c' plan index partition := by
  cases partition with
  | pending nextAttempt => simpa only [PartitionOk, config, cancelled] using ok
  | active task workerId lease startedAtMs =>
    obtain ⟨leased, open'⟩ := ok
    exact ⟨leased.transfer config (alive workerId rfl leased.alive), cancelled ▸ open'⟩
  | cancelling task workerId lease =>
    obtain ⟨leased, closed⟩ := ok
    exact ⟨leased.transfer config (alive workerId rfl leased.alive), cancelled ▸ closed⟩
  | succeeded task blocks => exact ok
  | failed attempt error retryable => simpa only [PartitionOk, config, cancelled] using ok
  | cancelled => trivial

theorem PartitionOk.holder_alive (ok : PartitionOk c plan index partition)
    (held : partition.holder = some workerId) : c.Alive workerId := by
  cases partition with
  | active task owner lease startedAtMs | cancelling task owner lease =>
    obtain rfl : owner = workerId := Option.some.inj held
    exact ok.1.alive
  | _ => cases held

end

section

variable (c : Coordinator) (plan : StagePlan) (index : Nat)

theorem retryOrFail_ok {attempt : U32} (error : String)
    (bound : attempt < c.config.maxTaskAttempts) (live : plan.queryId ∉ c.cancelledQueries) :
    PartitionOk c plan index (retryOrFail c.config.maxTaskAttempts attempt error) := by
  simp only [retryOrFail]
  split
  next again => exact ⟨again, live⟩
  next => exact ⟨bound, live⟩

end

section

variable {c : Coordinator} (nowMs : U64)

theorem alive_advanced (alive : c.Alive workerId) (heard : workerId ∉ c.timedOutWorkers nowMs) :
    (c.advanced nowMs).Alive workerId := by
  obtain ⟨worker, present, live⟩ := alive
  obtain ⟨availableSlots, found⟩ := c.advanced_worker nowMs present
  have timely : c.heartbeatTimedOut nowMs worker = false := by
    rw [timedOutWorkers_mem] at heard
    cases silent : c.heartbeatTimedOut nowMs worker with
    | false => rfl
    | true => exact absurd ⟨worker, present, silent⟩ heard
  exact ⟨_, found, by simp [timely, live]⟩

theorem lapsed_ok {plan : StagePlan} {index : Nat} {partition : PartitionRuntime}
    (ok : PartitionOk c plan index partition) :
    PartitionOk (c.advanced nowMs) plan index (c.lapsed nowMs partition) := by
  have unchanged (p : PartitionRuntime) (ok : PartitionOk c plan index p)
      (heard : ∀ workerId, p.holder = some workerId → workerId ∉ c.timedOutWorkers nowMs) :
      PartitionOk (c.advanced nowMs) plan index p :=
    ok.transfer (c.advanced_config nowMs) (c.advanced_cancelledQueries nowMs)
      fun workerId held alive => alive_advanced nowMs alive (heard workerId held)
  cases partition with
  | active task workerId lease startedAtMs =>
    have retried (error : String) := retryOrFail_ok c plan index error ok.1.attempt ok.2
    simp only [lapsed, lapse]
    split
    next => exact unchanged _ (retried _) (by simp [retryOrFail_holder])
    next heard =>
      split
      next => exact unchanged _ (retried _) (by simp [retryOrFail_holder])
      next => exact unchanged _ ok (by simpa [PartitionRuntime.holder] using heard)
  | cancelling task workerId lease =>
    simp only [lapsed, lapse]
    split
    next => trivial
    next kept =>
      rw [not_or] at kept
      exact unchanged _ ok (by simpa [PartitionRuntime.holder] using kept.1)
  | pending nextAttempt => exact unchanged (.pending nextAttempt) ok (by simp [PartitionRuntime.holder])
  | succeeded task blocks => exact ok
  | failed attempt error retryable =>
    exact unchanged (.failed attempt error retryable) ok (by simp [PartitionRuntime.holder])
  | cancelled => trivial

theorem advanced_wellFormed [PhysicalPlanCodec] (ok : c.WellFormed) : (c.advanced nowMs).WellFormed where
  attempts := by
    rw [advanced_config]
    exact ok.attempts
  leaseDuration := by
    rw [advanced_config]
    exact ok.leaseDuration
  stages := (sameShape_advanced c nowMs).stages ok.stages
  partitions := by
    intro key plan index partition planned present
    rw [(sameShape_advanced c nowMs).plan] at planned
    rw [advanced_partition] at present
    obtain ⟨old, before, rfl⟩ := Option.map_eq_some_iff.mp present
    exact lapsed_ok nowMs (ok.partitions key plan index old planned before)
  workers := by
    intro workerId worker present
    cases before : c.workers[workerId]? with
    | none => simp [c.advanced_no_worker nowMs before] at present
    | some old => exact ok.workers workerId old before
  slots := by
    intro workerId worker present
    cases before : c.workers[workerId]? with
    | none => simp [c.advanced_no_worker nowMs before] at present
    | some old =>
      obtain ⟨availableSlots, found⟩ := c.advanced_worker nowMs before
      have same : worker.registration = old.registration := by
        rw [← Option.some.inj (found.symm.trans present)]
        dsimp only
        split <;> rfl
      rw [same]
      exact (c.load_advanced nowMs workerId).trans (ok.slots workerId old before)

theorem retryOrFail_lease (maxTaskAttempts attempt : U32) (error : String) :
    (retryOrFail maxTaskAttempts attempt error).lease? = none := by
  simp only [retryOrFail]
  split <;> rfl

theorem advanced_lease {index : Nat} {partition : PartitionRuntime}
    (present : (c.advanced nowMs).partition? key index = some partition)
    (held : partition.lease? = some lease) : nowMs < lease.expiresAtMs := by
  rw [advanced_partition] at present
  obtain ⟨old, _, rfl⟩ := Option.map_eq_some_iff.mp present
  cases old with
  | active task workerId granted startedAtMs =>
    simp only [lapsed, lapse] at held
    split at held
    · simp [retryOrFail_lease] at held
    · split at held
      · simp [retryOrFail_lease] at held
      · rename_i timely
        obtain rfl : granted = lease := Option.some.inj held
        exact Fin.not_le.mp timely
  | cancelling task workerId granted =>
    simp only [lapsed, lapse] at held
    split at held
    · cases held
    · rename_i kept
      obtain rfl : granted = lease := Option.some.inj held
      exact Fin.not_le.mp (not_or.mp kept).2
  | _ => cases held

end

end SparkX.Coordinator
