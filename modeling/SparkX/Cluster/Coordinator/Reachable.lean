import SparkX.Cluster.Coordinator.Specs

set_option autoImplicit false

namespace SparkX.Coordinator

open Std

variable {key : StageKey} {index : Nat}

section

variable [PhysicalPlanCodec] {c c' : Coordinator}

theorem WellFormed.frame (ok : c.WellFormed) (config : c'.config = c.config)
    (cancelled : c'.cancelledQueries = c.cancelledQueries) (shape : SameShape c c')
    (alive : ∀ workerId, c.Alive workerId → c'.Alive workerId)
    (partitions : ∀ key plan index partition, c.plan? key = some plan →
      c'.partition? key index = some partition → PartitionOk c plan index partition)
    (workers : ∀ (workerId : WorkerId) worker, c'.workers[workerId]? = some worker →
      ∃ old, c.workers[workerId]? = some old ∧ worker.registration = old.registration)
    (load : ∀ workerId, c'.load workerId ≤ c.load workerId) : c'.WellFormed where
  attempts := config ▸ ok.attempts
  leaseDuration := config ▸ ok.leaseDuration
  stages := shape.stages ok.stages
  partitions := by
    intro key plan index partition planned present
    rw [shape.plan] at planned
    exact (partitions key plan index partition planned present).transfer config cancelled
      fun workerId _ => alive workerId
  workers := by
    intro workerId worker present
    obtain ⟨old, before, _⟩ := workers workerId worker present
    exact ok.workers workerId old before
  slots := by
    intro workerId worker present
    obtain ⟨old, before, registered⟩ := workers workerId worker present
    rw [registered]
    exact (load workerId).trans (ok.slots workerId old before)

theorem setPartition_ok (ok : c.WellFormed) {new : PartitionRuntime}
    (accepted : ∀ plan, c.plan? key = some plan → PartitionOk c plan index new) (other : StageKey)
    (plan : StagePlan) (position : Nat) (partition : PartitionRuntime) (planned : c.plan? other = some plan)
    (present : (c.setPartition key index new).partition? other position = some partition) :
    PartitionOk c plan position partition := by
  rw [partition?_setPartition] at present
  obtain ⟨old, before, rfl⟩ := Option.map_eq_some_iff.mp present
  split
  next here =>
    obtain ⟨rfl, rfl⟩ := here
    exact accepted plan planned
  next => exact ok.partitions other plan position old planned before

theorem settle_wellFormed (ok : c.WellFormed) {old new : PartitionRuntime} {owner : WorkerId}
    (present : c.partition? key index = some old) (leased : old.holder = some owner)
    (ended : new.holder = none) (accepted : ∀ plan, c.plan? key = some plan → PartitionOk c plan index new) :
    ((c.setPartition key index new).releaseWorkerSlot owner).WellFormed := by
  apply ok.frame
  · simp
  · simp
  · intro other
    rw [releaseWorkerSlot_stages]
    exact sameShape_setPartition c key index new other
  · rintro workerId ⟨worker, found, live⟩
    have after := releaseWorkerSlot_workers (c.setPartition key index new) owner workerId
    rw [setPartition_workers, found, Option.map_some] at after
    refine ⟨_, after, ?_⟩
    split
    · rw [releaseSlot_alive]
      exact live
    · exact live
  · intro other plan position partition planned here
    rw [releaseWorkerSlot_partition] at here
    exact setPartition_ok ok accepted other plan position partition planned here
  · intro workerId worker found
    rw [releaseWorkerSlot_workers, setPartition_workers] at found
    obtain ⟨before, stored, rfl⟩ := Option.map_eq_some_iff.mp found
    refine ⟨before, stored, ?_⟩
    split
    · exact releaseSlot_registration before
    · rfl
  · exact fun workerId => c.load_settle workerId present leased ended

end

section

variable [PhysicalPlanCodec] {c : Coordinator} {plan : StagePlan}

omit [PhysicalPlanCodec] in
theorem addStage_stages (c : Coordinator) (plan : StagePlan) (key : StageKey) :
    (c.addStage plan).stages[key]? =
      if (plan.queryId, plan.stageId) = key then
        some ⟨plan, List.replicate plan.partitionCount.val (.pending 0)⟩
      else c.stages[key]? :=
  OrderedMap.getElem?_insert c.stages _ key _

theorem addStage_plan (accepted : c.Submittable plan) {known : StagePlan} (present : c.plan? key = some known) :
    (c.addStage plan).plan? key = some known := by
  have other : (plan.queryId, plan.stageId) ≠ key := by
    intro same
    rw [← same, plan?, accepted.absent] at present
    cases present
  rw [plan?, addStage_stages, if_neg other]
  exact present

theorem load_addStage (accepted : c.Submittable plan) (workerId : WorkerId) :
    (c.addStage plan).load workerId = c.load workerId := by
  have total := OrderedMap.total_insert
    (fun (_ : StageKey) (stage : StageRuntime) => stage.partitions.countP (leasedTo workerId))
    c.stages (plan.queryId, plan.stageId)
    ⟨plan, List.replicate plan.partitionCount.val (.pending 0)⟩
  have idle : (List.replicate plan.partitionCount.val (PartitionRuntime.pending 0)).countP
      (leasedTo workerId) = 0 := by
    rw [List.countP_eq_zero]
    intro partition member
    rw [List.eq_of_mem_replicate member]
    exact Bool.false_ne_true
  rw [accepted.absent] at total
  simp only [Option.map_none, Option.getD_none, idle, Nat.add_zero] at total
  simp only [load, occupied, addStage, total]
  rfl

theorem addStage_wellFormed (ok : c.WellFormed) (accepted : c.Submittable plan) :
    (c.addStage plan).WellFormed where
  attempts := ok.attempts
  leaseDuration := ok.leaseDuration
  stages := by
    intro key stage present
    have dependencies (known : StagePlan) (before : ∀ dependency ∈ known.inputStages, ∃ upstream,
          c.plan? (known.queryId, dependency) = some upstream ∧ (known.partitionedInput →
            upstream.outputExchange.map (·.partitionCount) = some known.partitionCount)) :
        ∀ dependency ∈ known.inputStages, ∃ upstream,
          (c.addStage plan).plan? (known.queryId, dependency) = some upstream ∧ (known.partitionedInput →
              upstream.outputExchange.map (·.partitionCount) = some known.partitionCount) := by
      intro dependency member
      obtain ⟨upstream, submitted, exchanged⟩ := before dependency member
      exact ⟨upstream, addStage_plan accepted submitted, exchanged⟩
    rw [addStage_stages] at present
    split at present
    next here =>
      cases present
      exact ⟨accepted.valid, here.symm, List.length_replicate, dependencies plan accepted.dependencies⟩
    next =>
      have before := ok.stages key stage present
      exact ⟨before.valid, before.key, before.width, dependencies stage.plan before.dependencies⟩
  partitions := by
    intro key known index partition planned present
    obtain ⟨stage, stored, position⟩ := partition?_eq_some.mp present
    obtain rfl := Option.some.inj ((plan?_of_stage stored).symm.trans planned)
    rw [addStage_stages] at stored
    split at stored
    next =>
      cases stored
      obtain rfl := List.eq_of_mem_replicate (List.mem_of_getElem? position)
      exact ⟨ok.attempts, accepted.live⟩
    next =>
      exact (ok.partitions key stage.plan index partition (plan?_of_stage stored)
        ((partition?_of_stage stored index).trans position)).transfer rfl rfl fun _ _ => id
  workers := ok.workers
  slots := by
    intro workerId worker present
    rw [load_addStage accepted]
    exact ok.slots workerId worker present

end

section

variable [PhysicalPlanCodec] {c : Coordinator}

variable {workerId : WorkerId} {worker : WorkerRuntime}

theorem setWorker_wellFormed (ok : c.WellFormed) (valid : workerId.validate = .ok ())
    (alive : worker.alive = true)
    (fits : worker.availableSlots.val + c.occupied workerId ≤ worker.registration.slots.val) :
    (c.setWorker workerId worker).WellFormed where
  attempts := ok.attempts
  leaseDuration := ok.leaseDuration
  stages := (SameShape.of_stages (c.setWorker_stages workerId worker)).stages ok.stages
  partitions := by
    intro key plan index partition planned present
    refine (ok.partitions key plan index partition planned present).transfer rfl rfl ?_
    rintro owner _ ⟨old, stored, live⟩
    by_cases same : workerId = owner
    · exact ⟨worker, by rw [setWorker_workers, if_pos same], alive⟩
    · exact ⟨old, by rw [setWorker_workers, if_neg same, stored], live⟩
  workers := by
    intro other found present
    rw [setWorker_workers] at present
    split at present
    next same => exact same ▸ valid
    next => exact ok.workers other found present
  slots := by
    intro other found present
    have known := present
    rw [setWorker_workers] at present
    simp only [load, available, known, Option.elim_some]
    split at present
    next same =>
      cases present
      rw [← same]
      exact fits
    next =>
      have before := ok.slots other found present
      simp only [load, available, present, Option.elim_some] at before
      exact before

theorem occupied_unregistered (ok : c.WellFormed) (absent : c.workers[workerId]? = none) :
    c.occupied workerId = 0 := by
  apply c.occupied_eq_zero
  intro key index partition present held
  obtain ⟨plan, planned⟩ := plan?_of_partition present
  obtain ⟨worker, stored, _⟩ := (ok.partitions key plan index partition planned present).holder_alive held
  rw [absent] at stored
  cases stored

theorem registered_wellFormed (ok : c.WellFormed) {registration : WorkerRegistration}
    (receivedAtMs : U64) (absent : c.workers[registration.workerId]? = none)
    (valid : registration.workerId.validate = .ok ()) :
    (c.setWorker registration.workerId (freshWorker registration receivedAtMs)).WellFormed := by
  apply setWorker_wellFormed ok valid rfl
  rw [occupied_unregistered ok absent]
  exact Nat.le_refl _

theorem activeTasks_eq (ok : c.WellFormed) (present : c.workers[workerId]? = some worker) :
    (c.activeTasksForWorker workerId).val = c.occupied workerId := by
  have bound := ok.slots workerId worker present
  have small : c.occupied workerId < 2 ^ 32 := by
    have := worker.registration.slots.isLt
    simp only [load] at bound
    omega
  have fits : Word.tryFrom (c.occupied workerId) = some (⟨_, small⟩ : U32) := Word.tryFrom_eq_some.mpr rfl
  rw [activeTasksForWorker, fits, Option.getD_some]

theorem heard_wellFormed (ok : c.WellFormed) {report : WorkerHeartbeat} (receivedAtMs : U64)
    (present : c.workers[report.workerId]? = some worker)
    (bounded : report.availableSlots ≤
      Word.saturatingSub worker.registration.slots (c.activeTasksForWorker report.workerId)) :
    (c.setWorker report.workerId (refreshed worker report receivedAtMs)).WellFormed := by
  apply setWorker_wellFormed ok (ok.workers _ worker present) rfl
  have counted := activeTasks_eq ok present
  have limit := ok.slots _ worker present
  have below := Fin.le_def.mp bounded
  rw [Word.val_saturatingSub, counted] at below
  simp only [load] at limit
  change report.availableSlots.val + _ ≤ worker.registration.slots.val
  omega

end

section

variable [PhysicalPlanCodec] {c : Coordinator}

variable {finishedAtMs : U64}

omit [PhysicalPlanCodec] in
theorem checkExchange_routed {plan : StagePlan} {blocks : List ShuffleBlock}
    (checked : checkExchange plan (.succeeded finishedAtMs blocks) = .ok ()) (exchange : HashExchange)
    (exchanged : plan.outputExchange = some exchange) : Routed exchange.partitionCount.val blocks := by
  simp only [checkExchange, exchanged, rejectIf_ok, not_or, not_not, List.any_eq_true,
    decide_eq_true_eq, not_exists, not_and, List.mem_dedup, List.mem_map] at checked
  obtain ⟨length, destinations, bounded⟩ := checked
  refine ⟨length, ?_, ?_⟩
  · have same : (blocks.map (·.outputPartition)).dedup = blocks.map (·.outputPartition) := by
      apply (List.dedup_sublist _).eq_of_length
      rw [destinations, List.length_map, length]
    rw [← same]
    exact List.nodup_dedup _
  · intro block member
    exact Fin.lt_def.mp (Fin.not_le.mp (bounded block.outputPartition ⟨block, member, rfl⟩))

variable {partition : PartitionRuntime} {task : TaskAttemptId} {workerId : WorkerId} {lease : TaskLease}

omit [PhysicalPlanCodec] in
theorem Owns.holder (owns : Owns partition task workerId lease) : partition.holder = some workerId := by
  rcases owns with rfl | ⟨startedAtMs, rfl⟩
  · rfl
  · rfl

omit [PhysicalPlanCodec] in
theorem concluded_holder {maxTaskAttempts : U32} {state : TaskState}
    (finished : finishedAt state = some finishedAtMs) (owns : Owns partition task workerId lease) :
    (concluded maxTaskAttempts task state partition).holder = none := by
  rcases owns with rfl | ⟨startedAtMs, rfl⟩
  · rfl
  · cases state with
    | running startedAtMs => cases finished
    | succeeded finishedAtMs blocks => rfl
    | failed finishedAtMs error retryable =>
      cases retryable with
      | true => exact retryOrFail_holder _ _ _
      | false => rfl
    | cancelled finishedAtMs reason => rfl

variable {receivedAtMs : U64}

theorem concluded_ok (ok : c.WellFormed) {state : TaskState}
    (reports : c.Reports workerId task state receivedAtMs partition lease)
    (finished : finishedAt state = some finishedAtMs) (plan : StagePlan)
    (planned : c.plan? (task.queryId, task.stageId) = some plan) :
    PartitionOk c plan task.partitionId.val (concluded c.config.maxTaskAttempts task state partition) := by
  have before := ok.partitions _ plan _ partition planned reports.present
  rcases reports.owns with rfl | ⟨startedAtMs, rfl⟩
  · trivial
  · obtain ⟨leased, live⟩ := before
    cases state with
    | running startedAtMs => cases finished
    | succeeded finishedAtMs blocks =>
      have valid := reports.valid
      simp only [TaskState.validateFor, forM_ok] at valid
      exact ⟨leased.placed, fun block member => ShuffleBlock.validateFor_ok (valid block member),
        checkExchange_routed (reports.routed plan planned)⟩
    | failed finishedAtMs error retryable =>
      cases retryable with
      | true => exact retryOrFail_ok c plan _ error leased.attempt live
      | false => exact ⟨leased.attempt, live⟩
    | cancelled finishedAtMs reason => trivial

omit [PhysicalPlanCodec] in
theorem load_started {startedAtMs : U64}
    (reports : c.Reports workerId task (.running startedAtMs) receivedAtMs
      (.active task workerId lease none) lease)
    (owner : WorkerId) :
    (c.setPartition (task.queryId, task.stageId) task.partitionId.val
      (.active task workerId lease (some startedAtMs))).load owner = c.load owner := by
  have counted := c.occupied_setPartition owner reports.present
    (.active task workerId lease (some startedAtMs))
  simp only [leasedTo, PartitionRuntime.holder] at counted
  simp only [load, available, setPartition_workers]
  omega

theorem started_wellFormed (ok : c.WellFormed) {startedAtMs : U64}
    (reports : c.Reports workerId task (.running startedAtMs) receivedAtMs
      (.active task workerId lease none) lease) :
    (c.setPartition (task.queryId, task.stageId) task.partitionId.val
      (.active task workerId lease (some startedAtMs))).WellFormed := by
  apply ok.frame (by simp) (by simp) (sameShape_setPartition c _ _ _)
  · rintro owner ⟨worker, stored, live⟩
    exact ⟨worker, by rw [setPartition_workers, stored], live⟩
  · apply setPartition_ok ok
    intro plan planned
    have before : PartitionOk c plan _ (.active task workerId lease none) :=
      ok.partitions _ plan _ _ planned reports.present
    exact before
  · intro owner worker stored
    rw [setPartition_workers] at stored
    exact ⟨worker, stored, rfl⟩
  · exact fun owner => Nat.le_of_eq (load_started reports owner)

variable {nowMs : U64} {stage : StageRuntime} {left : U32}

omit [PhysicalPlanCodec] in
theorem load_assigned {worker : WorkerRuntime}
    (assigns : c.Assigns workerId nowMs worker stage task lease left) (owner : WorkerId) :
    ((c.setPartition (task.queryId, task.stageId) task.partitionId.val
      (.active task workerId lease none)).setWorker workerId
        { worker with availableSlots := left }).load owner = c.load owner := by
  have present := (partition?_of_stage assigns.planned task.partitionId.val).trans assigns.pending
  have counted := c.occupied_setPartition owner present (.active task workerId lease none)
  simp only [leasedTo, PartitionRuntime.holder] at counted
  simp only [load, available, setWorker_workers, setPartition_workers,
    occupied_of_stages owner (setWorker_stages _ workerId _)]
  by_cases same : workerId = owner
  · subst same
    have slot := assigns.slot
    have none : (Option.none == some workerId) = false := rfl
    simp only [beq_self_eq_true, Bool.toNat_true, none, Bool.toNat_false] at counted
    simp only [if_true, Option.elim_some, assigns.present]
    omega
  · have other : (some workerId == some owner) = false := by simpa using same
    have none : (Option.none == some owner) = false := rfl
    simp only [other, none, Bool.toNat_false] at counted
    rw [if_neg same]
    omega

theorem assigned_wellFormed (ok : c.WellFormed) {worker : WorkerRuntime}
    (assigns : c.Assigns workerId nowMs worker stage task lease left) :
    ((c.setPartition (task.queryId, task.stageId) task.partitionId.val
      (.active task workerId lease none)).setWorker workerId
        { worker with availableSlots := left }).WellFormed := by
  have present := (partition?_of_stage assigns.planned task.partitionId.val).trans assigns.pending
  apply ok.frame (by simp) (by simp)
  · intro other
    rw [setWorker_stages]
    exact sameShape_setPartition c _ _ _ other
  · rintro owner ⟨found, stored, live⟩
    by_cases same : workerId = owner
    · exact ⟨{ worker with availableSlots := left }, by rw [setWorker_workers, if_pos same],
        assigns.alive⟩
    · exact ⟨found, by rw [setWorker_workers, if_neg same, setPartition_workers, stored], live⟩
  · apply setPartition_ok ok
    intro plan planned
    obtain rfl := Option.some.inj ((plan?_of_stage assigns.planned).symm.trans planned)
    obtain ⟨query, stageId⟩ := Prod.mk.injEq .. ▸ (ok.stages _ stage assigns.planned).key
    have before := ok.partitions _ stage.plan _ _ planned present
    exact ⟨⟨⟨query, stageId, rfl⟩, before.1, assigns.owner, ⟨worker, assigns.present, assigns.alive⟩⟩,
      before.2⟩
  · intro owner found stored
    rw [setWorker_workers, setPartition_workers] at stored
    split at stored
    next same =>
      cases stored
      exact ⟨worker, same ▸ assigns.present, rfl⟩
    next => exact ⟨found, stored, rfl⟩
  · exact fun owner => Nat.le_of_eq (load_assigned assigns owner)

end

section

variable [PhysicalPlanCodec] {c : Coordinator} (queryId : QueryId) (reason : String)

omit [PhysicalPlanCodec] in
theorem cancelStages_stages (c : Coordinator) (key : StageKey) :
    (c.cancelStages queryId reason).stages[key]? = (c.stages[key]?).map fun stage =>
      if key.1 ≠ queryId then stage
      else { stage with partitions := stage.partitions.map PartitionRuntime.cancel } := by
  simp only [cancelStages, TreeMap.getElem?_map]

omit [PhysicalPlanCodec] in
theorem cancelStages_partition (c : Coordinator) (key : StageKey) (index : Nat) :
    (c.cancelStages queryId reason).partition? key index = (c.partition? key index).map fun partition =>
        if key.1 ≠ queryId then partition else partition.cancel := by
  simp only [partition?, cancelStages_stages]
  cases c.stages[key]? with
  | none => rfl
  | some stage =>
    by_cases other : key.1 ≠ queryId
    · simp [other]
    · simp [other]

omit [PhysicalPlanCodec] in
theorem mem_cancelStages (c : Coordinator) (other : QueryId) :
    other ∈ (c.cancelStages queryId reason).cancelledQueries ↔
      queryId = other ∨ other ∈ c.cancelledQueries := by
  simp only [cancelStages, TreeMap.mem_insert, LawfulEqCmp.compare_eq_iff_eq]

-- A stage of a query that is not cancelled yet has no partition that is being cancelled, so
-- `cancel` never drops a lease.
theorem load_cancelStages (ok : c.WellFormed) (first : queryId ∉ c.cancelledQueries)
    (workerId : WorkerId) : (c.cancelStages queryId reason).load workerId = c.load workerId := by
  simp only [load, available, occupied, cancelStages]
  rw [OrderedMap.total_map]
  intro key stage present
  split
  next => rfl
  next here =>
    rw [List.countP_map]
    apply List.countP_congr
    intro partition member
    obtain ⟨index, bound, rfl⟩ := List.getElem_of_mem member
    have known := ok.partitions key stage.plan index _ (plan?_of_stage present)
      ((partition?_of_stage present index).trans (List.getElem?_eq_getElem bound))
    have named : stage.plan.queryId = queryId := by
      rw [not_not, (ok.stages key stage present).key] at here
      exact here
    cases leased : stage.partitions[index] with
    | cancelling task owner lease =>
      rw [leased] at known
      exact absurd (named ▸ known.2) first
    | _ => rfl

omit [PhysicalPlanCodec] in
theorem cancel_ok {plan : StagePlan} {partition : PartitionRuntime} (ok : PartitionOk c plan index partition)
    (named : plan.queryId = queryId) :
    PartitionOk (c.cancelStages queryId reason) plan index partition.cancel := by
  have cancelled : plan.queryId ∈ (c.cancelStages queryId reason).cancelledQueries :=
    (mem_cancelStages queryId reason c _).mpr (.inl named.symm)
  cases partition with
  | active task workerId lease startedAtMs => exact ⟨ok.1.transfer rfl ok.1.alive, cancelled⟩
  | succeeded task blocks => exact ok
  | _ => trivial

theorem cancelStages_wellFormed (ok : c.WellFormed) (first : queryId ∉ c.cancelledQueries) :
    (c.cancelStages queryId reason).WellFormed := by
  have shape : SameShape c (c.cancelStages queryId reason) := by
    apply SameShape.of_map (cancelStages_stages queryId reason c)
    · intro key stage
      split <;> rfl
    · intro key stage
      split
      · rfl
      · exact List.length_map _
  refine ⟨ok.attempts, ok.leaseDuration, shape.stages ok.stages, ?_, ok.workers, ?_⟩
  · intro key plan index partition planned present
    rw [shape.plan] at planned
    rw [cancelStages_partition] at present
    obtain ⟨old, before, rfl⟩ := Option.map_eq_some_iff.mp present
    have known := ok.partitions key plan index old planned before
    obtain ⟨stage, stored, rfl⟩ := Option.map_eq_some_iff.mp planned
    have named : key.1 = stage.plan.queryId := by rw [(ok.stages key stage stored).key]
    split
    next other =>
      -- The query of this stage is cancelled after the step only if it was before.
      have same : stage.plan.queryId ∈ (c.cancelStages queryId reason).cancelledQueries ↔
          stage.plan.queryId ∈ c.cancelledQueries := by
        rw [mem_cancelStages, ← named]
        exact or_iff_right fun equal => other equal.symm
      cases old with
      | pending nextAttempt => exact ⟨known.1, same.not.mpr known.2⟩
      | active task workerId lease startedAtMs =>
        exact ⟨known.1.transfer rfl known.1.alive, same.not.mpr known.2⟩
      | cancelling task workerId lease =>
        exact ⟨known.1.transfer rfl known.1.alive, same.mpr known.2⟩
      | succeeded task blocks => exact known
      | failed attempt error retryable => exact ⟨known.1, same.not.mpr known.2⟩
      | cancelled => trivial
    next here =>
      rw [not_not] at here
      exact cancel_ok queryId reason known (named ▸ here)
  · intro workerId worker present
    rw [load_cancelStages queryId reason ok first]
    exact ok.slots workerId worker present

end

section

variable [PhysicalPlanCodec] {c : Coordinator}

theorem Effect.wellFormed {operation : Operation} {result : Except Fault Reply} {c' : Coordinator}
    (effect : Effect c operation result c') (ok : c.WellFormed) : c'.WellFormed := by
  cases effect with
  | rejected | acknowledged | idle | recancelled | elapsed => exact ok
  | submitted plan accepted => exact addStage_wellFormed ok accepted
  | registered version registration receivedAtMs absent valid =>
    exact registered_wellFormed ok receivedAtMs absent valid
  | heard version report receivedAtMs worker present bounded =>
    exact heard_wellFormed ok receivedAtMs present bounded
  | started version workerId task lease startedAtMs receivedAtMs reports =>
    exact started_wellFormed ok reports
  | concluded version workerId task state partition lease finishedAtMs receivedAtMs reports finished =>
    exact settle_wellFormed ok reports.present reports.owns.holder
      (concluded_holder finished reports.owns) (concluded_ok ok reports finished)
  | assigned _ workerId nowMs worker stage task lease left called assigns =>
    exact assigned_wellFormed ok assigns
  | cancelled queryId reason first => exact cancelStages_wellFormed queryId reason ok first

theorem begun_wellFormed (ok : c.WellFormed) (operation : Operation) : (c.begun operation).WellFormed := by
  simp only [begun]
  cases operation.time with
  | none => exact ok
  | some nowMs => exact advanced_wellFormed nowMs ok

theorem next_advanceTime (c : Coordinator) (nowMs : U64) :
    machine.next (.advanceTime nowMs) c = c.advanced nowMs := by
  change ((perform (.advanceTime nowMs)).run c).2 = c.advanced nowMs
  rw [perform, Stateful.run_bind_ok (advanceTime_run c nowMs)]
  rfl

theorem begun_reaches (c : Coordinator) (operation : Operation) :
    machine.Reaches c (c.begun operation) := by
  simp only [begun]
  cases operation.time with
  | none => exact .refl c
  | some nowMs => exact ⟨[.advanceTime nowMs], next_advanceTime c nowMs⟩

theorem next_wellFormed (ok : c.WellFormed) (operation : Operation) :
    (machine.next operation c).WellFormed := by
  rcases perform_effect ok operation with ⟨error, _, same⟩ | effect
  · change ((perform operation).run c).2.WellFormed
    rw [same]
    exact ok
  · exact effect.wellFormed (begun_wellFormed ok operation)

variable {config : CoordinatorConfig}

omit [PhysicalPlanCodec] in
theorem CoordinatorConfig.validate_ok {valid : CoordinatorConfig} (checked : config.validate = .ok valid) :
    valid = config ∧ 0 < config.leaseDurationMs ∧ 0 < config.maxTaskAttempts := by
  simp only [CoordinatorConfig.validate, check_ok, rejectIf_ok] at checked
  obtain ⟨lease, _, attempts, _, same⟩ := checked
  exact ⟨(Except.ok.inj same).symm, Fin.pos_iff_ne_zero.mpr lease, Fin.pos_iff_ne_zero.mpr attempts⟩

theorem new_wellFormed (created : new config = .ok c) : c.WellFormed := by
  obtain ⟨valid, checked, same⟩ := bind_ok.mp created
  obtain ⟨rfl, lease, attempts⟩ := CoordinatorConfig.validate_ok checked
  cases same
  refine ⟨attempts, lease, ?_, ?_, ?_, ?_⟩
  · intro key stage present
    simp at present
  · intro key plan index partition planned
    simp [plan?] at planned
  · intro workerId worker present
    simp at present
  · intro workerId worker present
    simp at present

variable {start : Coordinator}

theorem reaches_wellFormed (ok : start.WellFormed) (reached : machine.Reaches start c) : c.WellFormed :=
  reached.induct WellFormed ok fun _ operation _ known => next_wellFormed known operation

theorem Reachable.wellFormed (reachable : c.Reachable) : c.WellFormed := by
  obtain ⟨config, start, created, reached⟩ := reachable
  exact reaches_wellFormed (new_wellFormed created) reached

theorem exec_reachable (created : new config = .ok start) (operations : List Operation) :
    (machine.exec operations start).Reachable :=
  ⟨config, start, created, operations, rfl⟩

end

namespace Sample

-- A scan of an empty-schema table `t` in the plan encoding of version 2.
def fragment : List UInt8 := [8, 2, 18, 7, 10, 5, 18, 1, 116, 50, 0]

scoped instance codec : PhysicalPlanCodec where
  validateFragment bytes :=
    if bytes = fragment then .ok () else .error (.protocol "unknown plan fragment")

def query : QueryId := ⟨"q"⟩

def worker : WorkerId := ⟨"w"⟩

def scanStage : StagePlan :=
  { queryId := query
    stageId := 0
    inputStages := []
    partitionCount := 2
    planFragment := fragment
    outputExchange := none
    partitionedInput := false }

def start : Coordinator :=
  { config := {}, workers := ∅, stages := ∅, cancelledQueries := ∅ }

def register : Operation := .workerMessage (.register protocolVersion ⟨worker, 2, 1024⟩) 0

def task (partitionId : PartitionId) (attempt : U32) : TaskAttemptId :=
  ⟨query, 0, partitionId, attempt⟩

def report (partitionId : PartitionId) (attempt : U32) (state : TaskState) (receivedAtMs : U64) :
    Operation :=
  .workerMessage (.taskUpdate protocolVersion worker (task partitionId attempt) state) receivedAtMs

def after (operations : List Operation) : Coordinator :=
  machine.exec (.submitStage scanStage :: register :: operations) start

theorem start_created : new {} = .ok start := rfl

theorem after_reachable (operations : List Operation) : (after operations).Reachable :=
  exec_reachable start_created _

end Sample

end SparkX.Coordinator
