import SparkX.Cluster.Coordinator.Attempts
import SparkX.Cluster.Coordinator.Accepted

set_option autoImplicit false

namespace SparkX

open Std Stateful

namespace PartitionRuntime

def leasedTask (workerId : WorkerId) : PartitionRuntime → Option TaskAttemptId
  | .active task holder _ _ => if holder = workerId then some task else none
  | .cancelling task holder _ => if holder = workerId then some task else none
  | _ => none

end PartitionRuntime

namespace Coordinator

-- The worker holds the lease of the attempt, which runs or is being cancelled.
def Leases (c : Coordinator) (workerId : WorkerId) (task : TaskAttemptId) : Prop :=
  ∃ key index partition lease, c.partition? key index = some partition ∧ Owns partition task workerId lease

variable {partition : PartitionRuntime} {lease : TaskLease}

section

variable [PhysicalPlanCodec] {c c' : Coordinator} {operation : Operation}
variable {result : Except Fault Reply} {workerId : WorkerId} {task : TaskAttemptId}

omit [PhysicalPlanCodec] in
theorem Owns.leased (owns : Owns partition task workerId lease) : partition.lease?.isSome := by
  rcases owns with rfl | ⟨_, rfl⟩
  · rfl
  · rfl

theorem Effect.leases (effect : Effect c operation result c') (leased : c'.Leases workerId task) :
    c.Leases workerId task ∨ handedOut result = some task ∧ ∃ nowMs,
      operation = .nextAssignment nowMs ∨ operation = .nextAssignmentFor workerId nowMs := by
  obtain ⟨key, index, partition, lease, present, owns⟩ := leased
  cases effect with
  | rejected | acknowledged | idle | recancelled | elapsed | registered | heard =>
    exact .inl ⟨key, index, partition, lease, present, owns⟩
  | submitted plan accepted =>
    obtain ⟨stage, stored, position⟩ := partition?_eq_some.mp present
    rw [addStage_stages] at stored
    split at stored
    next =>
      cases stored
      rw [List.eq_of_mem_replicate (List.mem_of_getElem? position)] at owns
      exact nomatch owns.leased
    next =>
      exact .inl ⟨key, index, partition, lease, (partition?_of_stage stored index).trans position, owns⟩
  | started version owner started granted startedAtMs receivedAtMs reports =>
    rw [partition?_setPartition] at present
    obtain ⟨old, before, same⟩ := Option.map_eq_some_iff.mp present
    split at same
    next here =>
      obtain ⟨rfl, rfl⟩ := here
      subst same
      rcases owns with other | ⟨_, same⟩
      · exact nomatch other
      · cases same
        exact .inl ⟨_, _, _, _, reports.present, .inr ⟨none, rfl⟩⟩
    next => exact .inl ⟨key, index, old, lease, before, same ▸ owns⟩
  | concluded version owner finished state settled granted finishedAtMs receivedAtMs reports ended =>
    rw [releaseWorkerSlot_partition, partition?_setPartition] at present
    obtain ⟨old, before, same⟩ := Option.map_eq_some_iff.mp present
    split at same
    next =>
      have free : (Coordinator.concluded c.config.maxTaskAttempts finished state settled).holder = none :=
        concluded_holder ended reports.owns
      rw [same, owns.holder] at free
      exact nomatch free
    next => exact .inl ⟨key, index, old, lease, before, same ▸ owns⟩
  | assigned _ owner nowMs worker stage issued granted left called assigns =>
    change (c.setPartition _ _ _).partition? key index = _ at present
    rw [partition?_setPartition] at present
    obtain ⟨old, before, same⟩ := Option.map_eq_some_iff.mp present
    split at same
    next =>
      subst same
      rcases owns with other | ⟨_, same⟩
      · exact nomatch other
      · cases same
        exact .inr ⟨rfl, nowMs, called⟩
    next => exact .inl ⟨key, index, old, lease, before, same ▸ owns⟩
  | cancelled queryId reason first =>
    rw [cancelStages_partition] at present
    obtain ⟨old, before, same⟩ := Option.map_eq_some_iff.mp present
    split at same
    next => exact .inl ⟨key, index, old, lease, before, same ▸ owns⟩
    next =>
      subst same
      refine .inl ⟨key, index, old, lease, before, ?_⟩
      cases old with
      | active running holder granted startedAtMs =>
        rcases owns with same | ⟨_, other⟩
        · cases same
          exact .inr ⟨startedAtMs, rfl⟩
        · exact nomatch other
      | _ => exact nomatch owns.leased

omit [PhysicalPlanCodec] in
theorem begun_leases (leased : (c.begun operation).Leases workerId task) : c.Leases workerId task := by
  obtain ⟨key, index, partition, lease, present, owns⟩ := leased
  exact ⟨key, index, partition, lease, begun_inert present (.inl owns.leased), owns⟩

omit [PhysicalPlanCodec] in
theorem advanced_leases (nowMs : U64) (leased : (c.advanced nowMs).Leases workerId task) :
    c.Leases workerId task :=
  @begun_leases c (.advanceTime nowMs) workerId task leased

theorem next_leases (ok : c.WellFormed) (leased : (machine.next operation c).Leases workerId task) :
    c.Leases workerId task ∨ handedOut (machine.output operation c) = some task ∧ ∃ nowMs,
      operation = .nextAssignment nowMs ∨ operation = .nextAssignmentFor workerId nowMs := by
  rcases perform_effect ok operation with ⟨error, _, same⟩ | effect
  · change ((perform operation).run c).2.Leases workerId task at leased
    rw [same] at leased
    exact .inl leased
  · exact (effect.leases leased).imp_left begun_leases

theorem leases_place (ok : c.WellFormed) (leased : c.Leases workerId task) :
    ∃ partition lease, c.partition? (task.queryId, task.stageId) task.partitionId.val = some partition ∧
      Owns partition task workerId lease := by
  obtain ⟨key, index, partition, lease, present, owns⟩ := leased
  obtain ⟨rfl, rfl⟩ := Prod.mk.injEq .. ▸ owns_place ok present owns
  exact ⟨partition, lease, present, owns⟩

theorem leases_registered (ok : c.WellFormed) (leased : c.Leases workerId task) :
    ∃ worker, c.workers[workerId]? = some worker := by
  obtain ⟨key, index, partition, lease, present, owns⟩ := leased
  obtain ⟨plan, planned⟩ := plan?_of_partition present
  obtain ⟨worker, stored, _⟩ :=
    (ok.partitions key plan index partition planned present).holder_alive owns.holder
  exact ⟨worker, stored⟩

end

section

variable [PhysicalPlanCodec] {c : Coordinator} {version : U16} {workerId owner : WorkerId}
variable {task : TaskAttemptId} {state : TaskState} {receivedAtMs : U64}

theorem finished_unleased (ok : c.WellFormed) {finishedAtMs : U64}
    (finished : finishedAt state = some finishedAtMs) {reply : Reply}
    (accepted : machine.output (.workerMessage (.taskUpdate version workerId task state) receivedAtMs) c =
      .ok reply) :
    ¬(machine.next (.workerMessage (.taskUpdate version workerId task state) receivedAtMs) c).Leases
      owner task := by
  intro leased
  have formed := next_wellFormed ok (.workerMessage (.taskUpdate version workerId task state) receivedAtMs)
  obtain ⟨partition, lease, present, owns⟩ := leases_place formed leased
  rcases perform_effect ok (.workerMessage (.taskUpdate version workerId task state) receivedAtMs) with
    ⟨error, failed, _⟩ | effect
  · exact nomatch failed.symm.trans accepted
  change Effect _ _ (machine.output _ c) (machine.next _ c) at effect
  rw [accepted] at effect
  generalize machine.next (.workerMessage (.taskUpdate version workerId task state) receivedAtMs) c = next
    at effect present
  cases effect with
  | acknowledged | started => exact nomatch finished
  | concluded _ _ _ _ old granted _ _ reports ended =>
    rw [releaseWorkerSlot_partition, partition?_setPartition, reports.present, Option.map_some,
      if_pos ⟨rfl, rfl⟩, begun_config] at present
    have free : (Coordinator.concluded c.config.maxTaskAttempts task state old).holder = none :=
      concluded_holder ended reports.owns
    rw [Option.some.inj present, owns.holder] at free
    exact nomatch free
  | idle _ _ called =>
    rcases called with called | ⟨_, called⟩
    · exact nomatch called
    · exact nomatch called
  | assigned _ _ _ _ _ _ _ _ called =>
    rcases called with called | called
    · exact nomatch called
    · exact nomatch called

end

section

variable {c : Coordinator} {workerId owner : WorkerId} {task : TaskAttemptId} {state : TaskState}
variable {receivedAtMs : U64}

theorem validateReportedTime_unsuperseded (event : String) (timestampMs : U64) (lease : TaskLease)
    (receivedAtMs : U64) :
    validateReportedTime event timestampMs lease receivedAtMs ≠ .error .taskSuperseded := by
  simp [validateReportedTime, bind_error, rejectIf_error, coordinatorError]

theorem checkExchange_unsuperseded (plan : StagePlan) (state : TaskState) :
    checkExchange plan state ≠ .error .taskSuperseded := by
  unfold checkExchange
  split
  next => simp [rejectIf_error, coordinatorError]
  next =>
    intro refused
    cases refused

theorem validateTextId_unsuperseded (kind value : String) :
    validateTextId kind value ≠ .error .taskSuperseded := by
  simp [validateTextId, bind_error, rejectIf_error, protocolError]

theorem validateBlock_unsuperseded (block : ShuffleBlock) (task : TaskAttemptId) (workerId : WorkerId) :
    block.validateFor task workerId ≠ .error .taskSuperseded := by
  simp only [ShuffleBlock.validateFor, ShuffleBlock.validate, TaskAttemptId.validate, QueryId.validate,
    ne_eq, bind_error, rejectIf_error, validateTextId_unsuperseded, protocolError]
  cases block.location with
  | _ => simp [ShuffleLocation.validate, ShuffleLocation.validateOwner, WorkerId.validate,
      bind_error, rejectIf_error, validateTextId_unsuperseded, protocolError]

theorem validateUpdate_unsuperseded (version : U16) (workerId : WorkerId) (task : TaskAttemptId)
    (state : TaskState) :
    (WorkerMessage.taskUpdate version workerId task state).validate ≠ .error .taskSuperseded := by
  simp only [WorkerMessage.validate, validateVersion, WorkerId.validate, QueryId.validate, ne_eq,
    bind_error, rejectIf_error, validateTextId_unsuperseded, protocolError]
  cases state with
  | succeeded finishedAtMs blocks =>
    simp only [TaskState.validateFor]
    rintro (⟨_, other⟩ | ⟨_, _, other | ⟨_, _, other | ⟨_, _, failed⟩⟩⟩)
    · cases other
    · exact other
    · exact other
    · obtain ⟨block, _, other⟩ := forM_error failed
      exact validateBlock_unsuperseded block task workerId other
  | _ => simp [TaskState.validateFor, rejectIf_error, protocolError]

theorem validatePlace_unsuperseded (task : TaskAttemptId) (plan : StagePlan) :
    task.validateFor plan ≠ .error .taskSuperseded := by
  simp [TaskAttemptId.validateFor, TaskAttemptId.validate, QueryId.validate, bind_error,
    rejectIf_error, validateTextId_unsuperseded, protocolError]

abbrev Unsuperseded (x : Stateful Fault Coordinator Unit) (c : Coordinator) : Prop :=
  x.Yields c fun result _ => result ≠ .error (.error .taskSuperseded)

theorem settle_unsuperseded {event : String} {timestampMs : U64} {rest : Stateful Fault Coordinator Unit}
    (later : Unsuperseded rest c) :
    Unsuperseded (validateReportedTime event timestampMs lease receivedAtMs >>= fun _ => rest) c := by
  apply yields_check
  · rintro _ failed ⟨⟩
    exact validateReportedTime_unsuperseded _ _ _ _ failed
  · exact fun _ _ => later

theorem recordCancellingUpdate_unsuperseded (c : Coordinator) (cancellingTask : TaskAttemptId)
    (assignedWorker : WorkerId) (lease : TaskLease) :
    Unsuperseded (recordCancellingUpdate workerId task state receivedAtMs cancellingTask assignedWorker
      lease) c := by
  unfold recordCancellingUpdate
  apply yields_rejectIf fun _ => nofun
  intro _
  apply yields_rejectIf fun _ => nofun
  intro _
  cases state with
  | running startedAtMs =>
    apply yields_last_check
    · rintro _ failed ⟨⟩
      exact validateReportedTime_unsuperseded _ _ _ _ failed
    · exact nofun
  | _ => exact settle_unsuperseded nofun

theorem recordActiveUpdate_unsuperseded (c : Coordinator) (activeTask : TaskAttemptId)
    (assignedWorker : WorkerId) (lease : TaskLease) (startedAtMs : Option U64) :
    Unsuperseded (recordActiveUpdate workerId task state receivedAtMs activeTask assignedWorker lease
      startedAtMs) c := by
  unfold recordActiveUpdate
  apply yields_rejectIf fun _ => nofun
  intro _
  apply yields_rejectIf fun _ => nofun
  intro _
  apply yields_rejectIf fun _ => nofun
  intro _
  cases state with
  | running reportedStart =>
    apply settle_unsuperseded
    cases startedAtMs with
    | none => exact nofun
    | some existingStart =>
      apply yields_last_check
      · rintro _ failed ⟨⟩
        exact nomatch (rejectIf_error.mp failed).2
      · exact nofun
  | _ => exact settle_unsuperseded nofun

theorem recordTaskUpdate_superseded (c : Coordinator) (workerId : WorkerId) (task : TaskAttemptId)
    (state : TaskState) (receivedAtMs : U64) :
    (recordTaskUpdate workerId task state receivedAtMs).Yields c fun result c' =>
      result = .error (.error .taskSuperseded) → c' = c ∧ ∃ partition,
        c.partition? (task.queryId, task.stageId) task.partitionId.val = some partition ∧
          partition.supersedes task.attempt = true := by
  rw [recordTaskUpdate]
  apply Yields.get
  apply yields_rejectIf
  · intro _ refused
    cases refused
  intro _
  apply yields_check
  · rintro _ failed ⟨⟩
    cases (okOr_error.mp failed).2
  intro stage found
  have planned := okOr_ok.mp found
  apply yields_check
  · rintro _ failed ⟨⟩
    exact absurd failed (validatePlace_unsuperseded task stage.plan)
  intro _ _
  apply Yields.lift
  · rintro _ failed ⟨⟩
    cases (expect_error.mp failed).2
  intro current here
  have position := expect_ok.mp here
  apply yields_rejectIf
  · exact fun old _ => ⟨rfl, current, (partition?_of_stage planned _).trans position, old⟩
  intro _
  apply yields_check
  · rintro _ failed ⟨⟩
    exact absurd failed (checkExchange_unsuperseded stage.plan state)
  intro _ _
  apply yields_check
  · rintro _ failed ⟨⟩
    cases (okOr_error.mp failed).2
  intro partition _
  cases partition with
  | cancelling cancellingTask assignedWorker lease =>
    exact fun superseded => absurd superseded
      (recordCancellingUpdate_unsuperseded c cancellingTask assignedWorker lease)
  | active activeTask assignedWorker lease startedAtMs =>
    exact fun superseded => absurd superseded
      (recordActiveUpdate_unsuperseded c activeTask assignedWorker lease startedAtMs)
  | _ =>
    intro superseded
    cases superseded

theorem superseded_unleased [PhysicalPlanCodec] (ok : c.WellFormed) {version : U16}
    (superseded : machine.output (.workerMessage (.taskUpdate version workerId task state) receivedAtMs) c =
        .error (.error .taskSuperseded)) :
    ¬(machine.next (.workerMessage (.taskUpdate version workerId task state) receivedAtMs) c).Leases
      owner task := by
  have cause : (handleWorkerMessage (.taskUpdate version workerId task state) receivedAtMs).Yields c
      fun result c' => result = .error (.error .taskSuperseded) → ∃ partition,
        c'.partition? (task.queryId, task.stageId) task.partitionId.val = some partition ∧
          partition.supersedes task.attempt = true := by
    unfold handleWorkerMessage
    apply yields_check
    · rintro _ failed ⟨⟩
      exact absurd failed (validateUpdate_unsuperseded version workerId task state)
    intro _ _
    apply yields_advance
    apply (recordTaskUpdate_superseded _ workerId task state receivedAtMs).mono
    intro result c' known same
    obtain ⟨rfl, found⟩ := known same
    exact found
  have performed : machine.step (.workerMessage (.taskUpdate version workerId task state) receivedAtMs) c =
      (((handleWorkerMessage (.taskUpdate version workerId task state) receivedAtMs).run c).1.map
          fun _ => Reply.done,
        ((handleWorkerMessage (.taskUpdate version workerId task state) receivedAtMs).run c).2) :=
    Stateful.run_bind_map _ _ c
  intro leased
  obtain ⟨partition, lease, present, owns⟩ := leases_place (next_wellFormed ok _) leased
  rw [Machine.output, performed] at superseded
  rw [Machine.next, performed] at present
  obtain ⟨found, there, old⟩ := cause (map_eq_error.mp superseded)
  obtain rfl := Option.some.inj (present.symm.trans there)
  rw [owns.attempt] at old
  exact nomatch old

end

section

variable [PhysicalPlanCodec] {c : Coordinator} {workerId : WorkerId}

omit [PhysicalPlanCodec] in
theorem leasedTask_some {task : TaskAttemptId} :
    partition.leasedTask workerId = some task ↔ ∃ lease, Owns partition task workerId lease := by
  cases partition with
  | active running holder lease startedAtMs | cancelling running holder lease =>
    simp [PartitionRuntime.leasedTask, Owns]
    grind
  | _ => simp [PartitionRuntime.leasedTask, Owns]

def leasedTasks (c : Coordinator) (workerId : WorkerId) : List TaskAttemptId :=
  c.stages.toList.flatMap fun entry => entry.2.partitions.filterMap (·.leasedTask workerId)

omit [PhysicalPlanCodec] in
theorem length_leasedTasks (c : Coordinator) (workerId : WorkerId) :
    (c.leasedTasks workerId).length = c.occupied workerId := by
  have counted (partition : PartitionRuntime) :
      (partition.leasedTask workerId).isSome = leasedTo workerId partition := by
    cases partition with
    | active task holder lease startedAtMs | cancelling task holder lease =>
      by_cases same : holder = workerId
      · simp [PartitionRuntime.leasedTask, leasedTo, PartitionRuntime.holder, same]
      · simp [PartitionRuntime.leasedTask, leasedTo, PartitionRuntime.holder, same]
    | _ => rfl
  rw [leasedTasks, occupied, OrderedMap.total, List.length_flatMap]
  simp only [List.length_filterMap_eq_countP, counted]

omit [PhysicalPlanCodec] in
theorem mem_leasedTasks {task : TaskAttemptId} :
    task ∈ c.leasedTasks workerId ↔ c.Leases workerId task := by
  simp only [leasedTasks, List.mem_flatMap, List.mem_filterMap, leasedTask_some, Leases]
  constructor
  · rintro ⟨⟨key, stage⟩, stored, partition, there, lease, owns⟩
    obtain ⟨index, position⟩ := List.mem_iff_getElem?.mp there
    exact ⟨key, index, partition, lease,
      partition?_eq_some.mpr ⟨stage, OrderedMap.mem_toList.mp stored, position⟩, owns⟩
  · rintro ⟨key, index, partition, lease, present, owns⟩
    obtain ⟨stage, stored, position⟩ := partition?_eq_some.mp present
    exact ⟨(key, stage), OrderedMap.mem_toList.mpr stored, partition, List.mem_of_getElem? position,
      lease, owns⟩

theorem nodup_leasedTasks (ok : c.WellFormed) (workerId : WorkerId) : (c.leasedTasks workerId).Nodup := by
  have placed {key : StageKey} {stage : StageRuntime} {index : Nat} {partition : PartitionRuntime}
      {task : TaskAttemptId} (stored : (key, stage) ∈ c.stages.toList)
      (position : stage.partitions[index]? = some partition)
      (leased : partition.leasedTask workerId = some task) : task.place = (key, index) := by
    obtain ⟨lease, owns⟩ := leasedTask_some.mp leased
    exact owns_place ok (partition?_eq_some.mpr ⟨stage, OrderedMap.mem_toList.mp stored, position⟩) owns
  refine List.nodup_flatMap.mpr ⟨?_, ?_⟩
  · rintro ⟨key, stage⟩ stored
    rw [List.Nodup, List.pairwise_filterMap, List.pairwise_iff_getElem]
    rintro first second inside inside' before task here _ there rfl
    have same := (placed stored (List.getElem?_eq_getElem inside) here).symm.trans
      (placed stored (List.getElem?_eq_getElem inside') there)
    exact Nat.ne_of_lt before (Prod.mk.inj same).2
  · apply TreeMap.distinct_keys_toList.imp_of_mem
    rintro ⟨key, stage⟩ ⟨other, stage'⟩ stored stored' distinct task here there
    obtain ⟨partition, inside, here⟩ := List.mem_filterMap.mp here
    obtain ⟨partition', inside', there⟩ := List.mem_filterMap.mp there
    obtain ⟨index, position⟩ := List.mem_iff_getElem?.mp inside
    obtain ⟨index', position'⟩ := List.mem_iff_getElem?.mp inside'
    have same := (placed stored position here).symm.trans (placed stored' position' there)
    exact distinct (LawfulEqCmp.compare_eq_iff_eq.mpr (Prod.mk.inj same).1)

theorem occupied_le (ok : c.WellFormed) {tasks : List TaskAttemptId}
    (listed : ∀ task, c.Leases workerId task → task ∈ tasks) : c.occupied workerId ≤ tasks.length := by
  rw [← length_leasedTasks]
  apply List.Subperm.length_le
  apply (nodup_leasedTasks ok workerId).subperm
  intro task member
  exact listed task (mem_leasedTasks.mp member)

end

section

variable [PhysicalPlanCodec] {c c' : Coordinator} {operation : Operation}
variable {result : Except Fault Reply} {workerId : WorkerId} {worker : WorkerRuntime}

theorem Effect.registration (effect : Effect c operation result c')
    (present : c.workers[workerId]? = some worker) :
    ∃ later, c'.workers[workerId]? = some later ∧ later.registration = worker.registration := by
  cases effect with
  | rejected | submitted | acknowledged | idle | recancelled | cancelled | elapsed =>
    exact ⟨worker, present, rfl⟩
  | started => exact ⟨worker, by simpa using present, rfl⟩
  | registered version registration receivedAtMs absent =>
    have other : registration.workerId ≠ workerId := by
      rintro rfl
      exact nomatch absent.symm.trans present
    exact ⟨worker, by rw [setWorker_workers, if_neg other, present], rfl⟩
  | heard version report receivedAtMs found there =>
    rw [setWorker_workers]
    split
    next same =>
      cases (same ▸ there).symm.trans present
      exact ⟨_, rfl, rfl⟩
    next => exact ⟨worker, present, rfl⟩
  | concluded version owner =>
    rw [releaseWorkerSlot_workers, setPartition_workers, present, Option.map_some]
    split
    next => exact ⟨_, rfl, releaseSlot_registration worker⟩
    next => exact ⟨worker, rfl, rfl⟩
  | assigned _ owner nowMs found stage task lease left called assigns =>
    rw [setWorker_workers, setPartition_workers]
    split
    next same =>
      cases (same ▸ assigns.present).symm.trans present
      exact ⟨_, rfl, rfl⟩
    next => exact ⟨worker, present, rfl⟩

omit [PhysicalPlanCodec] in
theorem advanced_registration (nowMs : U64) (present : c.workers[workerId]? = some worker) :
    ∃ later, (c.advanced nowMs).workers[workerId]? = some later ∧
      later.registration = worker.registration ∧ later.lastObservedAtMs = worker.lastObservedAtMs := by
  obtain ⟨availableSlots, found⟩ := c.advanced_worker nowMs present
  refine ⟨_, found, ?_⟩
  split
  next => exact ⟨rfl, rfl⟩
  next => exact ⟨rfl, rfl⟩

theorem next_registration (ok : c.WellFormed) (operation : Operation)
    (present : c.workers[workerId]? = some worker) :
    ∃ later, (machine.next operation c).workers[workerId]? = some later ∧
      later.registration = worker.registration := by
  rcases perform_effect ok operation with ⟨error, _, same⟩ | effect
  · refine ⟨worker, ?_, rfl⟩
    change ((perform operation).run c).2.workers[workerId]? = _
    rw [same, present]
  · have begun : ∃ later, (c.begun operation).workers[workerId]? = some later ∧
        later.registration = worker.registration := by
      rw [Coordinator.begun]
      cases operation.time with
      | none => exact ⟨worker, present, rfl⟩
      | some nowMs =>
        obtain ⟨later, found, same, _⟩ := advanced_registration nowMs present
        exact ⟨later, found, same⟩
    obtain ⟨later, found, same⟩ := begun
    obtain ⟨last, there, again⟩ := effect.registration found
    exact ⟨last, there, again.trans same⟩

theorem register_accepted (ok : c.WellFormed) {version : U16} {registration : WorkerRegistration}
    {receivedAtMs : U64} {reply : Reply}
    (accepted : machine.output (.workerMessage (.register version registration) receivedAtMs) c = .ok reply) :
    c.workers[registration.workerId]? = none ∧
      ∃ worker, (machine.next (.workerMessage (.register version registration) receivedAtMs)
        c).workers[registration.workerId]? = some worker ∧ worker.registration = registration := by
  rcases perform_effect ok (.workerMessage (.register version registration) receivedAtMs) with
    ⟨error, failed, _⟩ | effect
  · exact nomatch failed.symm.trans accepted
  change Effect _ _ (machine.output _ c) (machine.next _ c) at effect
  rw [accepted] at effect
  generalize machine.next (.workerMessage (.register version registration) receivedAtMs) c = next at effect
  cases effect with
  | registered _ _ _ absent =>
    constructor
    · cases before : c.workers[registration.workerId]? with
      | none => rfl
      | some worker =>
        obtain ⟨later, found, _⟩ := advanced_registration receivedAtMs before
        exact nomatch absent.symm.trans found
    · exact ⟨_, by rw [setWorker_workers, if_pos rfl], rfl⟩
  | idle _ _ called =>
    rcases called with called | ⟨_, called⟩
    · exact nomatch called
    · exact nomatch called
  | assigned _ _ _ _ _ _ _ _ called =>
    rcases called with called | called
    · exact nomatch called
    · exact nomatch called

theorem heartbeat_accepted (ok : c.WellFormed) {report : WorkerHeartbeat} (receivedAtMs : U64)
    (present : c.workers[report.workerId]? = some worker)
    (slots : report.availableSlots ≤ Word.saturatingSub worker.registration.slots
      ((c.advanced receivedAtMs).activeTasksForWorker report.workerId))
    (memory : report.availableMemoryBytes ≤ worker.registration.memoryBytes)
    (forward : worker.lastObservedAtMs ≤ report.observedAtMs) :
    machine.output (.workerMessage (.heartbeat protocolVersion report) receivedAtMs) c = .ok .done := by
  obtain ⟨later, found, registered, observed⟩ := advanced_registration receivedAtMs present
  have valid : (WorkerMessage.heartbeat protocolVersion report).validate = .ok () := by
    simp only [WorkerMessage.validate, validateVersion, check_ok, rejectIf_ok]
    exact ⟨fun other => other rfl, ok.workers report.workerId worker present⟩
  have known (error : SparkXError) :
      okOr (c.advanced receivedAtMs).workers[report.workerId]? error = .ok later := okOr_ok.mpr found
  rw [← registered] at slots memory
  rw [← observed] at forward
  change ((handleWorkerMessage _ receivedAtMs >>= fun _ => pure Reply.done).run c).1 = _
  rw [handleWorkerMessage, Stateful.run_bind, run_check valid,
    Stateful.run_bind_ok (advanceTime_run c receivedAtMs)]
  rw [recordHeartbeat, Stateful.run_bind_get]
  dsimp only
  rw [run_check (known _), run_check (rejectIf_ok.mpr (Fin.not_lt.mpr forward)),
    run_check (rejectIf_ok.mpr (Fin.not_lt.mpr slots)),
    run_check (rejectIf_ok.mpr (Fin.not_lt.mpr memory))]
  rfl

end

end Coordinator

end SparkX
