import SparkX.Cluster.Coordinator.Commit

set_option autoImplicit false

namespace SparkX.Coordinator

open Std

def Ready (c : Coordinator) (plan : StagePlan) : Prop :=
  ∀ dependency ∈ plan.inputStages, ∃ upstream,
    c.stages[(plan.queryId, dependency)]? = some upstream ∧
      ∀ partition ∈ upstream.partitions, partition.isSucceeded = true

variable {task : TaskAttemptId} {blocks : List ShuffleBlock}

section

variable [PhysicalPlanCodec] {c c' : Coordinator} {operation : Operation}
variable {result : Except Fault Reply}

theorem Effect.plan (effect : Effect c operation result c') {key : StageKey} {plan : StagePlan}
    (planned : c.plan? key = some plan) : c'.plan? key = some plan := by
  cases effect with
  | rejected | acknowledged | idle | recancelled | elapsed | registered | heard => exact planned
  | submitted submitted accepted => exact addStage_plan accepted planned
  | started version workerId task lease startedAtMs receivedAtMs reports =>
    exact (sameShape_setPartition c _ _ _).plan key |>.trans planned
  | concluded version workerId task state partition lease finishedAtMs receivedAtMs reports =>
    simp only [plan?, releaseWorkerSlot_stages]
    exact (sameShape_setPartition c _ _ _).plan key |>.trans planned
  | assigned _ workerId nowMs worker stage task lease left called assigns =>
    exact (sameShape_setPartition c _ _ _).plan key |>.trans planned
  | cancelled queryId reason first =>
    simp only [plan?, cancelStages_stages, Option.map_map] at planned ⊢
    obtain ⟨stage, stored, rfl⟩ := Option.map_eq_some_iff.mp planned
    rw [stored, Option.map_some, Function.comp_apply]
    split <;> rfl

omit [PhysicalPlanCodec] in
theorem begun_plan (c : Coordinator) (operation : Operation) (key : StageKey) :
    (c.begun operation).plan? key = c.plan? key := by
  simp only [begun]
  cases operation.time with
  | none => rfl
  | some nowMs => exact (sameShape_advanced c nowMs).plan key

variable {key : StageKey} {plan : StagePlan}

theorem next_plan (ok : c.WellFormed) (planned : c.plan? key = some plan) (operation : Operation) :
    (machine.next operation c).plan? key = some plan := by
  rcases perform_effect ok operation with ⟨error, _, same⟩ | effect
  · change ((perform operation).run c).2.plan? key = some plan
    rw [same]
    exact planned
  · exact effect.plan ((begun_plan c operation key).trans planned)

variable {later : Coordinator}

theorem reaches_plan (ok : c.WellFormed) (reached : machine.Reaches c later)
    (planned : c.plan? key = some plan) : later.plan? key = some plan :=
  reached.induct (fun later => later.plan? key = some plan) planned
    fun _ operation known here => next_plan (reaches_wellFormed ok known) here operation

theorem succeeded_stage_stable (ok : c.WellFormed) (reached : machine.Reaches c later)
    {stage : StageRuntime} (stored : c.stages[key]? = some stage)
    (succeeded : ∀ partition ∈ stage.partitions, partition.isSucceeded = true) :
    later.stages[key]? = some stage := by
  have formed := reaches_wellFormed ok reached
  obtain ⟨after, found, plans⟩ :=
    Option.map_eq_some_iff.mp (reaches_plan ok reached (plan?_of_stage stored))
  have widths : after.partitions.length = stage.partitions.length := by
    rw [(formed.stages key after found).width, (ok.stages key stage stored).width, plans]
  have partitions : after.partitions = stage.partitions := by
    apply List.ext_getElem widths
    intro index inside within
    have member := succeeded _ (List.getElem_mem within)
    have position := List.getElem?_eq_getElem within
    generalize stage.partitions[index] = partition at member position ⊢
    cases partition with
    | succeeded task blocks =>
      have kept := succeeded_persists ok reached ((partition?_of_stage stored index).trans position)
      rw [partition?_of_stage found, List.getElem?_eq_getElem inside] at kept
      exact Option.some.inj kept
    | _ => cases member
  rw [found, StageRuntime.ext plans partitions]

theorem inputBlocks_stable (ok : c.WellFormed) (reached : machine.Reaches c later) (ready : c.Ready plan)
    (partitionId : PartitionId) : later.inputBlocks plan partitionId = c.inputBlocks plan partitionId := by
  have same : (plan.inputStages.flatMap fun dependency => later.committed (plan.queryId, dependency)) =
      plan.inputStages.flatMap fun dependency => c.committed (plan.queryId, dependency) := by
    apply List.flatMap_congr
    intro dependency member
    obtain ⟨upstream, stored, succeeded⟩ := ready dependency member
    rw [committed, succeeded_stage_stable ok reached stored succeeded, committed, stored]
  simp only [inputBlocks, same]

omit [PhysicalPlanCodec] in
theorem begun_ready (ready : (c.begun operation).Ready plan) : c.Ready plan := by
  simp only [begun] at ready
  cases timed : operation.time with
  | none =>
    rw [timed] at ready
    exact ready
  | some nowMs =>
    rw [timed] at ready
    intro dependency member
    obtain ⟨upstream, stored, succeeded⟩ := ready dependency member
    change (c.advanced nowMs).stages[(plan.queryId, dependency)]? = some upstream at stored
    rw [advanced_stages] at stored
    obtain ⟨before, found, rfl⟩ := Option.map_eq_some_iff.mp stored
    refine ⟨before, found, ?_⟩
    intro partition inside
    have after := succeeded _ (List.mem_map_of_mem inside)
    rw [c.lapsed_inert nowMs (.inr after)] at after
    exact after

theorem output_assignment (ok : c.WellFormed) {version : U16} {stage : StagePlan} {lease : TaskLease}
    (assigned : machine.output operation c =
      .ok (.assignment (some (.assignTask version stage task lease blocks)))) :
    c.plan? (task.queryId, task.stageId) = some stage ∧ c.Ready stage ∧
      task.partitionId < stage.partitionCount ∧ blocks = c.inputBlocks stage task.partitionId := by
  change ((perform operation).run c).1 = _ at assigned
  rcases perform_effect ok operation with ⟨error, failed, _⟩ | effect
  · cases failed.symm.trans assigned
  · rw [assigned] at effect
    generalize ((perform operation).run c).2 = reached at effect
    cases effect with
    | assigned _ workerId nowMs worker runtime _ _ left called assigns =>
      have formed := begun_wellFormed ok operation
      have ready : (c.begun operation).Ready runtime.plan := by
        intro dependency member
        have here := List.all_eq_true.mp assigns.ready dependency member
        cases stored : (c.begun operation).stages[(runtime.plan.queryId, dependency)]? with
        | none => simp [stored] at here
        | some upstream =>
          rw [stored] at here
          exact ⟨upstream, rfl, fun partition inside => List.all_eq_true.mp here partition inside⟩
      have inside : task.partitionId < runtime.plan.partitionCount := by
        obtain ⟨bound, _⟩ := List.getElem?_eq_some_iff.mp assigns.pending
        rw [(formed.stages _ runtime assigns.planned).width] at bound
        exact bound
      refine ⟨(begun_plan c operation _).symm.trans (plan?_of_stage assigns.planned),
        begun_ready ready, inside, ?_⟩
      exact inputBlocks_stable ok (begun_reaches c operation) (begun_ready ready) task.partitionId

end

section

variable [PhysicalPlanCodec] {c : Coordinator} {plan : StagePlan}

def dependencyBlocks (c : Coordinator) (plan : StagePlan) : List ShuffleBlock :=
  plan.inputStages.flatMap fun dependency => c.committed (plan.queryId, dependency)

def partitionIds (count : U32) : List PartitionId :=
  (List.finRange count.val).map (Fin.castLE count.isLt.le)

variable {partitionId : PartitionId}

omit [PhysicalPlanCodec] in
theorem mem_partitionIds {count : U32} : partitionId ∈ partitionIds count ↔ partitionId < count := by
  simp only [partitionIds, List.mem_map, List.mem_finRange, true_and]
  constructor
  · rintro ⟨index, rfl⟩
    exact Fin.lt_def.mpr index.isLt
  · intro inside
    exact ⟨⟨partitionId.val, inside⟩, rfl⟩

omit [PhysicalPlanCodec] in
theorem nodup_partitionIds (count : U32) : (partitionIds count).Nodup :=
  (List.nodup_finRange count.val).map (Fin.castLE_injective _)

omit [PhysicalPlanCodec] in
theorem length_partitionIds (count : U32) : (partitionIds count).length = count.val := by
  simp [partitionIds]

omit [PhysicalPlanCodec] in
theorem inputBlocks_partitioned (partitioned : plan.partitionedInput = true)
    (partitionId : PartitionId) : c.inputBlocks plan partitionId =
      (c.dependencyBlocks plan).filter (·.outputPartition = partitionId) := by
  simp only [inputBlocks, partitioned, if_true, dependencyBlocks]

variable {key : StageKey} {dependency : StageId} {index : Nat}

theorem dependency_routed (ok : c.WellFormed) (planned : c.plan? key = some plan)
    (partitioned : plan.partitionedInput = true) (member : dependency ∈ plan.inputStages)
    (present : c.partition? (plan.queryId, dependency) index = some (.succeeded task blocks)) :
    Routed plan.partitionCount.val blocks := by
  obtain ⟨stage, stored, rfl⟩ := Option.map_eq_some_iff.mp planned
  obtain ⟨upstream, submitted, matching⟩ :=
    (ok.stages key stage stored).dependencies dependency member
  obtain ⟨exchange, exchanged, counts⟩ := Option.map_eq_some_iff.mp (matching partitioned)
  have written : Committed upstream index task blocks :=
    ok.partitions _ upstream index _ submitted present
  rw [← counts]
  exact written.routed exchange exchanged

theorem dependencyBlocks_filter (ok : c.WellFormed) (distinct : plan.inputStages.Nodup)
    (member : dependency ∈ plan.inputStages)
    (present : c.partition? (plan.queryId, dependency) index = some (.succeeded task blocks)) :
    (c.dependencyBlocks plan).filter (fun block =>
      block.producer.stageId = dependency ∧ block.producer.partitionId.val = index) = blocks := by
  have stage : (c.dependencyBlocks plan).filter (fun block => block.producer.stageId = dependency) =
      c.committed (plan.queryId, dependency) := by
    apply Tagged.filter_flatMap id (fun dependency => c.committed (plan.queryId, dependency))
      (fun block => block.producer.stageId)
    · rw [List.map_id]
      exact distinct
    · intro other _ block inside
      exact (committed_block ok inside).2.2
    · exact member
  calc (c.dependencyBlocks plan).filter (fun block =>
        block.producer.stageId = dependency ∧ block.producer.partitionId.val = index)
      = ((c.dependencyBlocks plan).filter (fun block => block.producer.stageId = dependency)).filter
          (fun block => block.producer.partitionId.val = index) := by
        rw [List.filter_filter]
        apply List.filter_congr
        intro block _
        simp [Bool.and_comm]
    _ = blocks := by rw [stage, committed_filter ok present]

theorem one_block_per_producer (ok : c.WellFormed) (planned : c.plan? key = some plan)
    (partitioned : plan.partitionedInput = true) (ready : c.Ready plan)
    (inside : partitionId < plan.partitionCount) (member : dependency ∈ plan.inputStages)
    {upstream : StageRuntime} (stored : c.stages[(plan.queryId, dependency)]? = some upstream)
    (bound : index < upstream.partitions.length) :
    ∃ block, (c.inputBlocks plan partitionId).filter (fun block =>
      block.producer.stageId = dependency ∧ block.producer.partitionId.val = index) = [block] := by
  obtain ⟨found, stored', succeeded⟩ := ready dependency member
  obtain rfl := Option.some.inj (stored.symm.trans stored')
  have committed := succeeded _ (List.getElem_mem bound)
  have position := List.getElem?_eq_getElem bound
  generalize upstream.partitions[index] = partition at committed position
  cases partition with
  | succeeded task blocks =>
    have present := (partition?_of_stage stored index).trans position
    have routed := dependency_routed ok planned partitioned member present
    obtain ⟨stage, kept, rfl⟩ := Option.map_eq_some_iff.mp planned
    have selected := dependencyBlocks_filter ok (ok.stages key stage kept).valid.distinct member present
    have distinct : (blocks.map fun block => block.outputPartition.val).Nodup := by
      have values := routed.distinct.map Fin.val_injective
      rwa [List.map_map] at values
    obtain ⟨block, only⟩ := Tagged.filter_eq_singleton (fun block => block.outputPartition.val)
      routed.length distinct routed.bounded (Fin.lt_def.mp inside)
    refine ⟨block, ?_⟩
    rw [inputBlocks_partitioned partitioned, List.filter_comm, selected, ← only]
    apply List.filter_congr
    intro candidate _
    simp [Fin.ext_iff]
  | _ => cases committed

theorem dependencyBlocks_addressed (ok : c.WellFormed) (planned : c.plan? key = some plan)
    (partitioned : plan.partitionedInput = true) {block : ShuffleBlock}
    (member : block ∈ c.dependencyBlocks plan) : block.outputPartition < plan.partitionCount := by
  obtain ⟨dependency, known, inside⟩ := List.mem_flatMap.mp member
  obtain ⟨index, task, blocks, present, listed⟩ := mem_committed inside
  exact Fin.lt_def.mpr
    ((dependency_routed ok planned partitioned known present).bounded block listed)

theorem inputBlocks_perm (ok : c.WellFormed) (planned : c.plan? key = some plan)
    (partitioned : plan.partitionedInput = true) :
    ((partitionIds plan.partitionCount).flatMap fun partitionId =>
      c.inputBlocks plan partitionId).Perm (c.dependencyBlocks plan) := by
  have same : (fun partitionId => c.inputBlocks plan partitionId) = fun partitionId =>
      (c.dependencyBlocks plan).filter (fun block => block.outputPartition = partitionId) := by
    funext partitionId
    exact inputBlocks_partitioned partitioned partitionId
  rw [same]
  apply Tagged.flatMap_filter_perm (fun block : ShuffleBlock => block.outputPartition)
    (nodup_partitionIds _)
  intro block member
  exact mem_partitionIds.mpr (dependencyBlocks_addressed ok planned partitioned member)

theorem assignment_inputs_exact (reachable : c.Reachable) {operation : Operation} {version : U16}
    {stage : StagePlan} {task : TaskAttemptId} {lease : TaskLease} {blocks : List ShuffleBlock}
    (assigned : machine.output operation c =
      .ok (.assignment (some (.assignTask version stage task lease blocks)))) :
    c.Ready stage ∧
    blocks = (if stage.partitionedInput then
        (c.dependencyBlocks stage).filter (·.outputPartition = task.partitionId)
      else c.dependencyBlocks stage) ∧
    (∀ operations again version' stage' (task' : TaskAttemptId) lease' blocks',
      machine.output again (machine.exec operations c) =
        .ok (.assignment (some (.assignTask version' stage' task' lease' blocks'))) →
      task'.queryId = task.queryId → task'.stageId = task.stageId →
        stage' = stage ∧ blocks' = c.inputBlocks stage task'.partitionId) ∧
    (stage.partitionedInput →
      (∀ partitionId < stage.partitionCount, ∀ dependency ∈ stage.inputStages, ∀ upstream,
        c.stages[(stage.queryId, dependency)]? = some upstream →
        ∀ index < upstream.partitions.length, ∃ block,
          (c.inputBlocks stage partitionId).filter (fun block =>
            block.producer.stageId = dependency ∧ block.producer.partitionId.val = index) = [block]) ∧
      ((partitionIds stage.partitionCount).flatMap fun partitionId =>
        c.inputBlocks stage partitionId).Perm (c.dependencyBlocks stage) ∧
      ∀ block ∈ c.dependencyBlocks stage, ∃! partitionId, partitionId < stage.partitionCount ∧
        block ∈ c.inputBlocks stage partitionId) := by
  have ok := reachable.wellFormed
  obtain ⟨planned, ready, _, inputs⟩ := output_assignment ok assigned
  refine ⟨ready, inputs, ?_, ?_⟩
  · intro operations again version' stage' task' lease' blocks' later query stageId
    have reached : machine.Reaches c (machine.exec operations c) := ⟨operations, rfl⟩
    obtain ⟨planned', _, _, inputs'⟩ := output_assignment (reaches_wellFormed ok reached) later
    rw [query, stageId, reaches_plan ok reached planned] at planned'
    obtain rfl := Option.some.inj planned'
    exact ⟨rfl, inputs'.trans (inputBlocks_stable ok reached ready task'.partitionId)⟩
  · intro partitioned
    refine ⟨?_, inputBlocks_perm ok planned partitioned, ?_⟩
    · intro partitionId inside dependency member upstream stored index bound
      exact one_block_per_producer ok planned partitioned ready inside member stored bound
    · intro block member
      refine ⟨block.outputPartition, ⟨dependencyBlocks_addressed ok planned partitioned member, ?_⟩, ?_⟩
      · rw [inputBlocks_partitioned partitioned]
        exact List.mem_filter.mpr ⟨member, by simp⟩
      · rintro other ⟨_, delivered⟩
        rw [inputBlocks_partitioned partitioned, List.mem_filter, decide_eq_true_eq] at delivered
        exact delivered.2.symm

end

section

open Sample

def mapStage : StagePlan :=
  { scanStage with
    partitionCount := 1
    outputExchange := some { columns := [0], partitionCount := 2 } }

def reduceStage : StagePlan :=
  { scanStage with stageId := 1, inputStages := [0], partitionedInput := true }

def shuffled : Coordinator :=
  machine.exec [.submitStage mapStage, .submitStage reduceStage, register, .nextAssignment 0,
    report 0 0 (.succeeded 1 [mapBlock 1, mapBlock 0]) 1] start

def reduceAssignment : CoordinatorMessage :=
  .assignTask protocolVersion reduceStage ⟨query, 1, 0, 0⟩ ⟨worker, 2, 30002⟩ [mapBlock 0]

theorem assignment_inputs_exact_shuffle :
    machine.output (.nextAssignment 2) shuffled = .ok (.assignment (some reduceAssignment)) ∧
      shuffled.Ready reduceStage ∧
      ((partitionIds 2).flatMap fun partitionId => shuffled.inputBlocks reduceStage partitionId).Perm
        (shuffled.dependencyBlocks reduceStage) := by
  have assigned : machine.output (.nextAssignment 2) shuffled =
      .ok (.assignment (some reduceAssignment)) := by decide
  have exactly := assignment_inputs_exact (exec_reachable start_created _) assigned
  exact ⟨assigned, exactly.1, (exactly.2.2.2 rfl).2.1⟩

end

end SparkX.Coordinator
