import SparkX.Cluster.Coordinator.Effects

set_option autoImplicit false

namespace SparkX.Coordinator

open Std Stateful

variable {key : StageKey}

section

variable {c : Coordinator} {plan : StagePlan}

theorem stage_of_mem (member : key ∈ c.stages) : ∃ stage, c.stages[key]? = some stage :=
  Option.isSome_iff_exists.mp (TreeMap.isSome_getElem?_iff_mem.mpr member)

theorem checkSubmitted_ok (submitted : c.checkSubmitted plan = .ok ()) :
    ∀ dependency ∈ plan.inputStages, ∃ upstream, c.stages[(plan.queryId, dependency)]? = some upstream := by
  intro dependency member
  have here := forM_ok.mp submitted dependency member
  rw [rejectIf_ok, not_not] at here
  exact stage_of_mem here

theorem checkUpstream_ok (checked : c.checkUpstream plan = .ok ()) :
    ∀ dependency ∈ plan.inputStages, ∀ upstream, c.stages[(plan.queryId, dependency)]? = some upstream →
        upstream.plan.outputExchange.map (·.partitionCount) = some plan.partitionCount := by
  intro dependency member upstream present
  have here := forM_ok.mp checked dependency member
  rw [present] at here
  obtain ⟨found, same, matching⟩ := bind_ok.mp here
  obtain rfl := Option.some.inj (expect_ok.mp same)
  rw [rejectIf_ok, not_not] at matching
  exact matching

-- Every dependency has just been looked up, so indexing the table again cannot fail.
theorem checkUpstream_error {fault : Fault} (failed : c.checkUpstream plan = .error fault)
    (submitted : ∀ dependency ∈ plan.inputStages, ∃ upstream,
      c.stages[(plan.queryId, dependency)]? = some upstream) : ∃ error, fault = .error error := by
  obtain ⟨dependency, member, here⟩ := forM_error failed
  obtain ⟨upstream, present⟩ := submitted dependency member
  rw [present] at here
  rcases bind_error.mp here with missing | ⟨found, _, mismatch⟩
  · cases missing
  · rw [rejectIf_error] at mismatch
    exact ⟨_, mismatch.2.symm⟩

theorem submitStage_yields [PhysicalPlanCodec] (c : Coordinator) (plan : StagePlan) :
    (submitStage plan).Yields c fun result c' =>
      Effect c (.submitStage plan) (result.map fun _ => .done) c' := by
  rw [submitStage]
  apply Yields.get
  apply yields_check fun error _ => .rejected _ error
  intro _ valid
  apply yields_rejectIf fun _ => .rejected _ _
  intro _
  apply yields_rejectIf fun _ => .rejected _ _
  intro live
  apply yields_rejectIf fun _ => .rejected _ _
  intro absent
  apply yields_check fun error _ => .rejected _ error
  intro _ checked
  have submitted := checkSubmitted_ok checked
  have accept (upstreams : plan.partitionedInput → c.checkUpstream plan = .ok ()) :
      Effect c (.submitStage plan) (.ok .done) (c.addStage plan) := by
    refine .submitted plan ⟨StagePlan.validate_ok.mp valid, live, TreeMap.getElem?_eq_none absent, ?_⟩
    intro dependency member
    obtain ⟨upstream, present⟩ := submitted dependency member
    exact ⟨upstream.plan, plan?_of_stage present, fun partitioned =>
      checkUpstream_ok (upstreams partitioned) dependency member upstream present⟩
  split
  next partitioned =>
    apply Yields.lift
    · intro fault failed
      obtain ⟨error, rfl⟩ := checkUpstream_error failed submitted
      exact .rejected _ error
    · intro _ upstreams
      apply yields_rejectIf fun _ => .rejected _ _
      intro _
      exact accept fun _ => upstreams
  next whole =>
    apply yields_rejectIf fun _ => .rejected _ _
    intro _
    exact accept fun partitioned => absurd partitioned whole

end

section

variable [PhysicalPlanCodec] {c : Coordinator}

theorem registerWorker_yields (version : U16) (registration : WorkerRegistration)
    (receivedAtMs : U64) (valid : (WorkerMessage.register version registration).validate = .ok ()) :
    (registerWorker registration receivedAtMs).Yields c fun result c' =>
      Effect c (.workerMessage (.register version registration) receivedAtMs)
        (result.map fun _ => .done) c' := by
  rw [registerWorker]
  apply Yields.get
  apply yields_rejectIf fun _ => .rejected _ _
  intro absent
  refine .registered version registration receivedAtMs (TreeMap.getElem?_eq_none absent) ?_
  simp only [WorkerMessage.validate, WorkerRegistration.validate, check_ok] at valid
  exact valid.2.1

theorem recordHeartbeat_yields (version : U16) (report : WorkerHeartbeat) (receivedAtMs : U64) :
    (recordHeartbeat report receivedAtMs).Yields c fun result c' =>
      Effect c (.workerMessage (.heartbeat version report) receivedAtMs)
        (result.map fun _ => .done) c' := by
  rw [recordHeartbeat]
  apply Yields.get
  apply yields_check fun error _ => .rejected _ error
  intro worker present
  apply yields_rejectIf fun _ => .rejected _ _
  intro _
  apply yields_rejectIf fun _ => .rejected _ _
  intro bounded
  apply yields_rejectIf fun _ => .rejected _ _
  intro _
  exact .heard version report receivedAtMs worker (okOr_ok.mp present) (Fin.not_lt.mp bounded)

end

def Current (c : Coordinator) (nowMs : U64) : Prop :=
  ∀ key index partition lease, c.partition? key index = some partition →
    partition.lease? = some lease → nowMs < lease.expiresAtMs

variable {lease : TaskLease}

section

variable [PhysicalPlanCodec] {c : Coordinator} {version : U16} {workerId : WorkerId}
variable {task : TaskAttemptId} {state : TaskState} {receivedAtMs : U64}

variable {assignedWorker : WorkerId}

theorem recordCancellingUpdate_yields {cancellingTask : TaskAttemptId}
    (reports : cancellingTask = task → assignedWorker = workerId → lease.workerId = workerId →
      c.Reports workerId task state receivedAtMs (.cancelling task workerId lease) lease) :
    (recordCancellingUpdate workerId task state receivedAtMs cancellingTask assignedWorker lease).Yields
      c fun result c' => Effect c (.workerMessage (.taskUpdate version workerId task state) receivedAtMs)
        (result.map fun _ => .done) c' := by
  unfold recordCancellingUpdate
  apply yields_rejectIf fun _ => .rejected _ _
  intro sameTask
  apply yields_rejectIf fun _ => .rejected _ _
  intro sameWorker
  simp only [not_or, not_not] at sameTask sameWorker
  have report := reports sameTask sameWorker.1 sameWorker.2
  -- Every terminal report ends the cancellation in the same way.
  have conclude (finishedAtMs : U64) (finished : finishedAt state = some finishedAtMs)
      (reported : validateReportedTime "finished" finishedAtMs lease receivedAtMs = .ok ()) :=
    Effect.concluded version workerId task state _ lease finishedAtMs receivedAtMs report finished reported
  cases state with
  | running startedAtMs =>
    exact yields_last_check (fun error _ => .rejected _ error)
      fun _ _ => .acknowledged version workerId task _ lease startedAtMs receivedAtMs report
  | succeeded finishedAtMs _ | failed finishedAtMs _ _ | cancelled finishedAtMs _ =>
    exact yields_check (fun error _ => .rejected _ error) fun _ => conclude finishedAtMs rfl

theorem recordActiveUpdate_yields {activeTask : TaskAttemptId} {startedAtMs : Option U64}
    (reports : activeTask = task → assignedWorker = workerId → lease.workerId = workerId →
      c.Reports workerId task state receivedAtMs (.active task workerId lease startedAtMs) lease) :
    (recordActiveUpdate workerId task state receivedAtMs activeTask assignedWorker lease
      startedAtMs).Yields c fun result c' =>
        Effect c (.workerMessage (.taskUpdate version workerId task state) receivedAtMs)
          (result.map fun _ => .done) c' := by
  unfold recordActiveUpdate
  apply yields_rejectIf fun _ => .rejected _ _
  intro sameTask
  apply yields_rejectIf fun _ => .rejected _ _
  intro sameWorker
  apply yields_rejectIf fun _ => .rejected _ _
  intro _
  simp only [not_or, not_not] at sameTask sameWorker
  obtain rfl := sameTask
  obtain ⟨rfl, owner⟩ := sameWorker
  have report := reports rfl rfl owner
  have conclude (finishedAtMs : U64) (finished : finishedAt state = some finishedAtMs)
      (reported : validateReportedTime "finished" finishedAtMs lease receivedAtMs = .ok ()) :=
    Effect.concluded version assignedWorker activeTask state _ lease finishedAtMs receivedAtMs report
      finished reported
  cases state with
  | running reportedStart =>
    apply yields_check fun error _ => .rejected _ error
    intro _ _
    cases startedAtMs with
    | some existingStart =>
      exact yields_last_check (fun error _ => .rejected _ error)
        fun _ _ => .acknowledged version assignedWorker activeTask _ lease reportedStart receivedAtMs report
    | none => exact .started version assignedWorker activeTask lease reportedStart receivedAtMs report
  | succeeded finishedAtMs _ | failed finishedAtMs _ _ | cancelled finishedAtMs _ =>
    exact yields_check (fun error _ => .rejected _ error) fun _ => conclude finishedAtMs rfl

theorem recordTaskUpdate_yields (ok : c.WellFormed) (current : c.Current receivedAtMs)
    (valid : (WorkerMessage.taskUpdate version workerId task state).validate = .ok ()) :
    (recordTaskUpdate workerId task state receivedAtMs).Yields c fun result c' =>
      Effect c (.workerMessage (.taskUpdate version workerId task state) receivedAtMs)
        (result.map fun _ => .done) c' := by
  simp only [WorkerMessage.validate, check_ok] at valid
  rw [recordTaskUpdate]
  apply Yields.get
  apply yields_rejectIf fun _ => .rejected _ _
  intro _
  apply yields_check fun error _ => .rejected _ error
  intro stage found
  have planned := okOr_ok.mp found
  apply yields_check fun error _ => .rejected _ error
  intro _ placed
  have inside : task.partitionId.val < stage.partitions.length := by
    rw [(ok.stages _ stage planned).width]
    exact (TaskAttemptId.validateFor_ok.mp placed).2.2.2
  have position := List.getElem?_eq_getElem inside
  have present := (partition?_of_stage planned task.partitionId.val).trans position
  apply yields_expect position
  apply yields_rejectIf fun _ => .rejected _ _
  intro _
  apply yields_check fun error _ => .rejected _ error
  intro _ exchanged
  apply yields_check fun error _ => .rejected _ error
  intro partition again
  obtain rfl := Option.some.inj (position.symm.trans (okOr_ok.mp again))
  have routed (plan : StagePlan) (stored : c.plan? (task.queryId, task.stageId) = some plan) :
      checkExchange plan state = .ok () := by
    obtain rfl := Option.some.inj ((plan?_of_stage planned).symm.trans stored)
    exact exchanged
  generalize stage.partitions[task.partitionId.val] = partition at present
  cases partition with
  | cancelling cancellingTask assignedWorker lease =>
    apply recordCancellingUpdate_yields
    rintro rfl rfl owner
    exact ⟨present, .inl rfl, owner, valid.2.2.2, routed, current _ _ _ _ present rfl⟩
  | active activeTask assignedWorker lease startedAtMs =>
    apply recordActiveUpdate_yields
    rintro rfl rfl owner
    exact ⟨present, .inr ⟨startedAtMs, rfl⟩, owner, valid.2.2.2, routed, current _ _ _ _ present rfl⟩
  | _ => exact .rejected _ _

end

section

variable {c : Coordinator}

variable {stage : StageRuntime} {index : Nat}

theorem firstPending_some {attempt : U32} (found : firstPending stage = some (index, attempt)) :
    stage.partitions[index]? = some (.pending attempt) := by
  obtain ⟨⟨partition, position⟩, member, here⟩ := List.exists_of_findSome?_eq_some found
  have stored := List.mem_zipIdx_iff_getElem?.mp member
  cases partition with
  | pending nextAttempt =>
    obtain ⟨rfl, rfl⟩ := Prod.mk.injEq .. ▸ Option.some.inj here
    exact stored
  | _ => cases here

variable {partition : PartitionRuntime}

theorem firstPending_none (missing : firstPending stage = none)
    (present : stage.partitions[index]? = some partition) : partition.isPending = false := by
  have here := List.findSome?_eq_none_iff.mp missing (partition, index)
    (List.mem_zipIdx_iff_getElem?.mpr present)
  cases partition with
  | pending nextAttempt => cases here
  | _ => rfl

theorem nextPendingPartition_some {attempt : U32}
    (found : c.nextPendingPartition = some (key, index, attempt)) :
    ∃ stage, c.stages[key]? = some stage ∧ key.1 ∉ c.cancelledQueries ∧
      c.dependenciesSucceeded stage = true ∧ stage.partitions[index]? = some (.pending attempt) := by
  obtain ⟨⟨other, stage⟩, member, here⟩ := List.exists_of_findSome?_eq_some found
  simp only [Option.ite_none_left_eq_some, not_or, Bool.not_eq_true', Bool.not_eq_false,
    Option.map_eq_some_iff, Prod.exists, Prod.mk.injEq] at here
  obtain ⟨⟨live, ready⟩, position, next, first, rfl, rfl, rfl⟩ := here
  exact ⟨stage, OrderedMap.mem_toList.mp member, live, ready, firstPending_some first⟩

theorem nextPendingPartition_none (missing : c.nextPendingPartition = none)
    (present : c.stages[key]? = some stage) (live : key.1 ∉ c.cancelledQueries)
    (ready : c.dependenciesSucceeded stage = true) (stored : stage.partitions[index]? = some partition) :
    partition.isPending = false := by
  have here := List.findSome?_eq_none_iff.mp missing (key, stage) (OrderedMap.mem_toList.mpr present)
  simp only [live, ready, Bool.not_true, Bool.false_eq_true, or_self, if_false,
    Option.map_eq_none_iff] at here
  exact firstPending_none here stored

end

section

variable {c : Coordinator}

theorem committedBlocks_ok (stageId dependencyId : StageId) {partitions : List PartitionRuntime}
    (succeeded : partitions.all (·.isSucceeded) = true) :
    committedBlocks stageId dependencyId partitions = .ok (partitions.flatMap (·.outputBlocks)) := by
  induction partitions with
  | nil => rfl
  | cons partition rest ih =>
    simp only [List.all_cons, Bool.and_eq_true] at succeeded
    have later := ih succeeded.2
    cases partition with
    | succeeded task blocks =>
      simp only [committedBlocks, later, List.flatMap_cons, PartitionRuntime.outputBlocks]
      rfl
    | _ => simp [PartitionRuntime.isSucceeded] at succeeded

theorem blocksOfDependencies_ok (key : StageKey) {dependencies : List StageId}
    (succeeded : ∀ dependency ∈ dependencies, (c.stages[(key.1, dependency)]?).any allSucceeded = true) :
    c.blocksOfDependencies key dependencies =
      .ok (dependencies.flatMap fun dependency => c.committed (key.1, dependency)) := by
  induction dependencies with
  | nil => rfl
  | cons dependency rest ih =>
    have later := ih fun other member => succeeded other (List.mem_cons_of_mem _ member)
    have here := succeeded dependency (by simp)
    cases present : c.stages[(key.1, dependency)]? with
    | none => simp [present] at here
    | some stage =>
      rw [present] at here
      have blocks := committedBlocks_ok key.2 dependency here
      rw [blocksOfDependencies, present, expect, later]
      change ((liftM (committedBlocks key.2 dependency stage.partitions) : Except Fault _) >>= _) = _
      rw [blocks]
      simp only [List.flatMap_cons, committed, present, Option.elim_some]
      rfl

variable {block : ShuffleBlock}

theorem mem_committed (member : block ∈ c.committed key) :
    ∃ index task blocks, c.partition? key index = some (.succeeded task blocks) ∧ block ∈ blocks := by
  cases present : c.stages[key]? with
  | none => simp [committed, present] at member
  | some stage =>
    simp only [committed, present, Option.elim_some, List.mem_flatMap] at member
    obtain ⟨partition, listed, inside⟩ := member
    obtain ⟨index, bound, rfl⟩ := List.getElem_of_mem listed
    have position := List.getElem?_eq_getElem bound
    generalize stage.partitions[index] = partition at inside position
    cases partition with
    | succeeded task blocks =>
      exact ⟨index, task, blocks, (partition?_of_stage present index).trans position, inside⟩
    | _ => cases inside

theorem committed_block [PhysicalPlanCodec] (ok : c.WellFormed) (member : block ∈ c.committed key) :
    block.validate = .ok () ∧ block.producer.queryId = key.1 ∧ block.producer.stageId = key.2 := by
  obtain ⟨index, task, blocks, present, inside⟩ := mem_committed member
  obtain ⟨stage, stored, _⟩ := partition?_eq_some.mp present
  have written : Committed stage.plan index task blocks :=
    ok.partitions key stage.plan index _ (plan?_of_stage stored) present
  have named := (ok.stages key stage stored).key
  obtain ⟨valid, producer⟩ := written.valid block inside
  rw [producer, named]
  exact ⟨valid, written.placed.query, written.placed.stage⟩

theorem inputBlocks_valid [PhysicalPlanCodec] (ok : c.WellFormed) (plan : StagePlan)
    (task : TaskAttemptId) :
    ∀ block ∈ c.inputBlocks plan task.partitionId, plan.validateInput task block = .ok () := by
  intro block member
  rw [StagePlan.validateInput_ok]
  have fromDependency : ∀ block ∈ plan.inputStages.flatMap fun dependency =>
      c.committed (plan.queryId, dependency), block.validate = .ok () ∧
        block.producer.queryId = plan.queryId ∧ block.producer.stageId ∈ plan.inputStages := by
    intro block listed
    obtain ⟨dependency, known, inside⟩ := List.mem_flatMap.mp listed
    obtain ⟨valid, query, stage⟩ := committed_block ok inside
    exact ⟨valid, query, stage ▸ known⟩
  simp only [inputBlocks] at member
  split at member
  next partitioned =>
    obtain ⟨listed, addressed⟩ := List.mem_filter.mp member
    obtain ⟨valid, query, stage⟩ := fromDependency block listed
    exact ⟨valid, fun _ => of_decide_eq_true addressed, query, stage⟩
  next whole =>
    obtain ⟨valid, query, stage⟩ := fromDependency block member
    exact ⟨valid, fun partitioned => absurd partitioned whole, query, stage⟩

end

section

variable [PhysicalPlanCodec] {c : Coordinator} {workerId : WorkerId} {nowMs : U64}

def leaseOverflow : SparkXError := coordinatorError "task lease timestamp overflowed"

variable {worker : WorkerRuntime}

theorem assignment_valid (ok : c.WellFormed) {stage : StageRuntime} {task : TaskAttemptId} {left : U32}
    (assigns : c.Assigns workerId nowMs worker stage task lease left) :
    (CoordinatorMessage.assignTask protocolVersion stage.plan task lease
      (c.inputBlocks stage.plan task.partitionId)).validate = .ok () := by
  have stored := ok.stages _ stage assigns.planned
  obtain ⟨query, stageId⟩ := Prod.mk.injEq .. ▸ stored.key
  simp only [CoordinatorMessage.validate, check_ok, forM_ok, validateVersion_ok,
    StagePlan.validate_ok, TaskAttemptId.validateFor_ok, TaskLease.validate_ok, true_and]
  refine ⟨stored.valid, ⟨query ▸ stored.valid.query, query, stageId, ?_⟩, ⟨?_, ?_⟩,
    inputBlocks_valid ok stage.plan task⟩
  · obtain ⟨bound, _⟩ := List.getElem?_eq_some_iff.mp assigns.pending
    rw [stored.width] at bound
    exact bound
  · rw [assigns.owner]
    exact ok.workers workerId worker assigns.present
  · have positive := Fin.lt_def.mp ok.leaseDuration
    rw [Fin.lt_def, assigns.issued, assigns.expires]
    change 0 < c.config.leaseDurationMs.val at positive
    omega

theorem assignToWorker_yields (ok : c.WellFormed) (present : c.workers[workerId]? = some worker)
    (alive : worker.alive = true) (free : 0 < worker.availableSlots) :
    (assignToWorker workerId nowMs).Yields c fun result c' =>
      (c.nextPendingPartition = none ∧ result = .ok none ∧ c' = c) ∨
      (Word.checkedAdd nowMs c.config.leaseDurationMs = none ∧
        result = .error (.error leaseOverflow) ∧ c' = c) ∨
      ∃ stage task lease left, c.Assigns workerId nowMs worker stage task lease left ∧
        result = .ok (some (.assignTask protocolVersion stage.plan task lease
          (c.inputBlocks stage.plan task.partitionId))) ∧
        c' = (c.setPartition (task.queryId, task.stageId) task.partitionId.val
          (.active task workerId lease none)).setWorker workerId
            { worker with availableSlots := left } := by
  rw [assignToWorker]
  apply Yields.get
  cases selected : c.nextPendingPartition with
  | none => exact .inl ⟨rfl, rfl, rfl⟩
  | some choice =>
    obtain ⟨key, index, attempt⟩ := choice
    obtain ⟨stage, planned, live, ready, pending⟩ := nextPendingPartition_some selected
    have stored := ok.stages key stage planned
    apply yields_check
    · intro error overflow
      cases sum : Word.checkedAdd nowMs c.config.leaseDurationMs with
      | some total =>
        rw [sum] at overflow
        cases overflow
      | none =>
        rw [sum] at overflow
        cases overflow
        exact .inr (.inl ⟨rfl, rfl, rfl⟩)
    intro expiresAtMs sum
    have expires := Word.checkedAdd_eq_some.mp (okOr_ok.mp sum)
    -- The index is below the partition count of the stage, which is a `u32`.
    obtain ⟨bound, _⟩ := List.getElem?_eq_some_iff.mp pending
    have small : index < 2 ^ 32 := by
      have := stage.plan.partitionCount.isLt
      rw [stored.width] at bound
      omega
    have fits : Word.tryFrom index = some (⟨index, small⟩ : U32) := Word.tryFrom_eq_some.mpr rfl
    apply yields_check
    · intro error missing
      rw [fits] at missing
      cases missing
    intro partitionId converted
    obtain rfl := Option.some.inj (fits.symm.trans (okOr_ok.mp converted))
    have collected : c.dependencyOutputBlocks key =
        .ok (stage.plan.inputStages.flatMap fun dependency => c.committed (key.1, dependency)) := by
      rw [dependencyOutputBlocks, planned]
      apply blocksOfDependencies_ok
      intro dependency member
      rw [stored.key]
      exact List.all_eq_true.mp ready dependency member
    apply Yields.lift
    · intro fault failed
      rw [collected] at failed
      cases failed
    intro blocks gathered
    obtain rfl := Except.ok.inj (collected.symm.trans gathered)
    apply yields_expect planned
    apply yields_expect pending
    apply Yields.modify
    apply Yields.get
    rw [setPartition_workers]
    apply yields_expect present
    have covered : (1 : U32).val ≤ worker.availableSlots.val := Fin.lt_def.mp free
    let left : U32 := Word.saturatingSub worker.availableSlots 1
    have slot : worker.availableSlots.val = (1 : U32).val + left.val := by
      rw [Word.val_saturatingSub]
      omega
    apply yields_expect (Word.checkedSub_eq_some.mpr slot)
    apply Yields.modify
    have assigns : c.Assigns workerId nowMs worker stage ⟨key.1, key.2, ⟨index, small⟩, attempt⟩
        ⟨workerId, nowMs, expiresAtMs⟩ left :=
      ⟨present, alive, by rw [slot, Nat.add_comm]; rfl, planned, pending, live, ready, rfl, rfl, expires⟩
    have query : key.1 = stage.plan.queryId := by rw [stored.key]
    have valid := assignment_valid ok assigns
    simp only [inputBlocks, ← query] at valid
    apply yields_check
    · intro error failed
      rw [valid] at failed
      cases failed
    · intro _ _
      refine .inr (.inr ⟨stage, _, _, left, assigns, ?_, rfl⟩)
      simp only [inputBlocks, ← query]
      rfl

theorem assignToWorker_error (ok : c.WellFormed) (present : c.workers[workerId]? = some worker)
    (alive : worker.alive = true) (free : 0 < worker.availableSlots) :
    (assignToWorker workerId nowMs).Yields c fun result _ =>
      ∀ fault, result = .error fault → fault = .error leaseOverflow := by
  apply (assignToWorker_yields ok present alive free).mono
  rintro result c' (⟨_, rfl, _⟩ | ⟨_, rfl, _⟩ | ⟨stage, task, lease, left, _, rfl, _⟩)
  · exact nofun
  · exact fun fault refused => (Except.error.inj refused).symm
  · exact nofun

theorem assignToWorker_effect (ok : c.WellFormed) (present : c.workers[workerId]? = some worker)
    (alive : worker.alive = true) (free : 0 < worker.availableSlots) {operation : Operation}
    (called : operation = .nextAssignment nowMs ∨ operation = .nextAssignmentFor workerId nowMs) :
    (assignToWorker workerId nowMs).Yields c fun result c' =>
      Effect c operation (result.map .assignment) c' := by
  apply (assignToWorker_yields ok present alive free).mono
  rintro result c' (⟨_, rfl, rfl⟩ | ⟨_, rfl, rfl⟩ | ⟨stage, task, lease, left, assigns, rfl, rfl⟩)
  · exact .idle operation nowMs (called.imp_right fun asked => ⟨workerId, asked⟩)
  · exact .rejected operation leaseOverflow
  · exact .assigned operation workerId nowMs worker stage task lease left called assigns

end

section

variable [PhysicalPlanCodec] {c : Coordinator}

theorem cancelQuery_yields (queryId : QueryId) (reason : String) :
    (cancelQuery queryId reason).Yields c fun result c' =>
      Effect c (.cancelQuery queryId reason) (result.map .cancellation) c' := by
  rw [cancelQuery]
  apply Yields.get
  apply yields_check fun error _ => .rejected _ error
  intro _ _
  apply yields_rejectIf fun _ => .rejected _ _
  intro _
  cases existing : c.cancelledQueries[queryId]? with
  | some existingReason =>
    have again : queryId ∈ c.cancelledQueries := TreeMap.isSome_getElem?_iff_mem.mp (by rw [existing]; rfl)
    dsimp only
    split
    · exact .recancelled queryId reason again
    · exact .rejected _ _
  | none =>
    have first : queryId ∉ c.cancelledQueries := by
      rw [← TreeMap.isSome_getElem?_iff_mem, existing]
      exact Bool.false_ne_true
    exact .cancelled queryId reason first

end

section

variable {c : Coordinator}

theorem yields_advance {α : Type} {nowMs : U64} {rest : Unit → Stateful Fault Coordinator α}
    {post : Except Fault α → Coordinator → Prop}
    (later : (rest ()).Yields (c.advanced nowMs) post) :
    (advanceTime nowMs >>= rest).Yields c post := by
  simp only [Yields, run_bind_ok (advanceTime_run c nowMs)]
  exact later

theorem advanced_current (c : Coordinator) (nowMs : U64) : (c.advanced nowMs).Current nowMs :=
  fun _ _ _ _ present held => advanced_lease nowMs present held

variable [PhysicalPlanCodec]

theorem handleWorkerMessage_yields (ok : c.WellFormed) (message : WorkerMessage) (receivedAtMs : U64) :
    (handleWorkerMessage message receivedAtMs).Yields c fun result c' =>
      (∃ error, result = .error (.error error) ∧ c' = c) ∨
        Effect (c.advanced receivedAtMs) (.workerMessage message receivedAtMs)
          (result.map fun _ => .done) c' := by
  unfold handleWorkerMessage
  apply yields_check fun error _ => .inl ⟨error, rfl, rfl⟩
  intro _ valid
  apply yields_advance
  cases message with
  | register version registration =>
    exact (registerWorker_yields version registration receivedAtMs valid).mono fun _ _ => .inr
  | heartbeat version report =>
    exact (recordHeartbeat_yields version report receivedAtMs).mono fun _ _ => .inr
  | taskUpdate version workerId task state =>
    exact (recordTaskUpdate_yields (advanced_wellFormed receivedAtMs ok)
      (advanced_current c receivedAtMs) valid).mono fun _ _ => .inr

theorem nextAssignment_cases (ok : c.WellFormed) (nowMs : U64) :
    (nextAssignment nowMs).Yields c fun result c' =>
      (((c.advanced nowMs).nextPendingPartition = none ∨
          ∀ (workerId : WorkerId) worker, (c.advanced nowMs).workers[workerId]? = some worker →
            worker.alive = true → worker.availableSlots = 0) ∧
        result = .ok none ∧ c' = c.advanced nowMs) ∨
      (Word.checkedAdd nowMs (c.advanced nowMs).config.leaseDurationMs = none ∧
        result = .error (.error leaseOverflow) ∧ c' = c.advanced nowMs) ∨
      ∃ workerId worker stage task lease left,
        (c.advanced nowMs).Assigns workerId nowMs worker stage task lease left ∧
        result = .ok (some (.assignTask protocolVersion stage.plan task lease
          ((c.advanced nowMs).inputBlocks stage.plan task.partitionId))) ∧
        c' = ((c.advanced nowMs).setPartition (task.queryId, task.stageId) task.partitionId.val
          (.active task workerId lease none)).setWorker workerId
            { worker with availableSlots := left } := by
  rw [nextAssignment]
  apply yields_advance
  apply Yields.get
  cases selected : (c.advanced nowMs).workers.toList.find? fun entry =>
      entry.2.alive && 0 < entry.2.availableSlots with
  | none =>
    refine .inl ⟨.inr ?_, rfl, rfl⟩
    intro workerId worker present alive
    have busy := List.find?_eq_none.mp selected (workerId, worker) (OrderedMap.mem_toList.mpr present)
    simp only [alive, Bool.true_and, decide_eq_true_eq] at busy
    exact Fin.le_zero_iff.mp (Fin.not_lt.mp busy)
  | some entry =>
    obtain ⟨workerId, worker⟩ := entry
    have usable := List.find?_some selected
    simp only [Bool.and_eq_true, decide_eq_true_eq] at usable
    have present := OrderedMap.mem_toList.mp (List.mem_of_find?_eq_some selected)
    apply (assignToWorker_yields (advanced_wellFormed nowMs ok) present usable.1 usable.2).mono
    rintro result c' (⟨drained, same⟩ | overflow | ⟨stage, task, lease, left, assigned⟩)
    · exact .inl ⟨.inl drained, same⟩
    · exact .inr (.inl overflow)
    · exact .inr (.inr ⟨workerId, worker, stage, task, lease, left, assigned⟩)

theorem nextAssignment_yields (ok : c.WellFormed) (nowMs : U64) :
    (nextAssignment nowMs).Yields c fun result c' =>
      Effect (c.advanced nowMs) (.nextAssignment nowMs) (result.map .assignment) c' := by
  apply (nextAssignment_cases ok nowMs).mono
  rintro result c' (⟨_, rfl, rfl⟩ | ⟨_, rfl, rfl⟩ |
    ⟨workerId, worker, stage, task, lease, left, assigns, rfl, rfl⟩)
  · exact .idle _ nowMs (.inl rfl)
  · exact .rejected _ leaseOverflow
  · exact .assigned _ workerId nowMs worker stage task lease left (.inl rfl) assigns

theorem nextAssignmentFor_yields (ok : c.WellFormed) (workerId : WorkerId) (nowMs : U64) :
    (nextAssignmentFor workerId nowMs).Yields c fun result c' =>
      Effect (c.advanced nowMs) (.nextAssignmentFor workerId nowMs) (result.map .assignment) c' := by
  rw [nextAssignmentFor]
  apply yields_advance
  apply Yields.get
  apply yields_check fun error _ => .rejected _ error
  intro worker found
  have present := okOr_ok.mp found
  split
  next => exact .idle _ nowMs (.inr ⟨workerId, rfl⟩)
  next usable =>
    simp only [Bool.or_eq_true, Bool.not_eq_true', decide_eq_true_eq, not_or, Bool.not_eq_false] at usable
    exact assignToWorker_effect (advanced_wellFormed nowMs ok) present usable.1
      (Fin.pos_iff_ne_zero.mpr usable.2) (.inr rfl)

theorem perform_effect (ok : c.WellFormed) (operation : Operation) :
    (perform operation).Yields c fun result c' =>
      (∃ error, result = .error (.error error) ∧ c' = c) ∨
        Effect (c.begun operation) operation result c' := by
  cases operation with
  | submitStage plan => exact ((submitStage_yields c plan).mono fun _ _ => .inr).map
  | workerMessage message receivedAtMs =>
    apply Yields.map
    apply (handleWorkerMessage_yields ok message receivedAtMs).mono
    rintro result c' (⟨error, rfl, same⟩ | effect)
    · exact .inl ⟨error, rfl, same⟩
    · exact .inr effect
  | nextAssignment nowMs => exact ((nextAssignment_yields ok nowMs).mono fun _ _ => .inr).map
  | nextAssignmentFor workerId nowMs =>
    exact ((nextAssignmentFor_yields ok workerId nowMs).mono fun _ _ => .inr).map
  | cancelQuery queryId reason =>
    exact ((cancelQuery_yields queryId reason).mono fun _ _ => .inr).map
  | advanceTime nowMs =>
    apply yields_advance
    exact .inr (.elapsed nowMs)

end

end SparkX.Coordinator
