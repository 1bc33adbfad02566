import SparkX.Cluster.Coordinator.Routing
import SparkX.Cluster.Coordinator.Status

set_option autoImplicit false

namespace SparkX.Coordinator

open Std

section

variable [PhysicalPlanCodec] {c c' : Coordinator}

-- A stage is above those it reads. Nothing in the state says so: stages come one by one, after
-- their inputs.
def Layered (c : Coordinator) : Prop :=
  ∃ layer : StageKey → Nat, ∀ key plan, c.plan? key = some plan →
    ∀ dependency ∈ plan.inputStages, layer (plan.queryId, dependency) < layer key

theorem Effect.shape {operation : Operation} {result : Except Fault Reply}
    (effect : Effect c operation result c') :
    SameShape c c' ∨ ∃ plan, c.Submittable plan ∧ c' = c.addStage plan := by
  cases effect with
  | rejected | acknowledged | idle | recancelled | elapsed | registered | heard => exact .inl (.of_stages rfl)
  | submitted plan accepted => exact .inr ⟨plan, accepted, rfl⟩
  | started | assigned => exact .inl (sameShape_setPartition c _ _ _)
  -- The slot of the worker is given back as well, but no stage is touched by that.
  | concluded =>
    refine .inl fun key => ?_
    rw [releaseWorkerSlot_stages]
    exact sameShape_setPartition c _ _ _ key
  | cancelled queryId reason first =>
    refine .inl (.of_map (c.cancelStages_stages queryId reason) ?_ ?_)
    · intro key stage
      split <;> rfl
    · intro key stage
      split <;> simp

theorem layered_addStage (ok : c.WellFormed) {plan : StagePlan} (accepted : c.Submittable plan)
    (layered : c.Layered) : (c.addStage plan).Layered := by
  obtain ⟨layer, below⟩ := layered
  let added : StageKey := (plan.queryId, plan.stageId)
  let above := (plan.inputStages.map fun dependency => layer (plan.queryId, dependency)).sum + 1
  -- The new stage goes above all that it reads. No other stage reads it, since it was not there.
  have known {key : StageKey} {upstream : StagePlan} (present : c.plan? key = some upstream) :
      Function.update layer added above key = layer key := by
    refine Function.update_of_ne ?_ _ _
    rintro rfl
    rw [plan?, accepted.absent] at present
    cases present
  refine ⟨Function.update layer added above, fun key found planned dependency member => ?_⟩
  rw [plan?, addStage_stages] at planned
  split at planned
  next same =>
    cases planned
    obtain ⟨upstream, present, _⟩ := accepted.dependencies dependency member
    rw [known present, ← same, Function.update_self]
    exact Nat.lt_succ_of_le (List.le_sum_of_mem (List.mem_map_of_mem member))
  next other =>
    obtain ⟨stage, stored, rfl⟩ := Option.map_eq_some_iff.mp planned
    obtain ⟨upstream, present, _⟩ := (ok.stages key stage stored).dependencies dependency member
    rw [known present, known (plan?_of_stage stored)]
    exact below key stage.plan (plan?_of_stage stored) dependency member

omit [PhysicalPlanCodec] in
theorem SameShape.layered (same : SameShape c c') (layered : c.Layered) : c'.Layered := by
  obtain ⟨layer, below⟩ := layered
  exact ⟨layer, fun key plan planned => below key plan (same.plan key ▸ planned)⟩

theorem next_layered (ok : c.WellFormed) (operation : Operation) (layered : c.Layered) :
    (machine.next operation c).Layered := by
  change ((perform operation).run c).2.Layered
  rcases perform_effect ok operation with ⟨error, _, same⟩ | effect
  · rwa [same]
  have begun : (c.begun operation).Layered := by
    obtain ⟨layer, below⟩ := layered
    exact ⟨layer, fun key plan planned => below key plan (begun_plan c operation key ▸ planned)⟩
  rcases effect.shape with same | ⟨plan, accepted, same⟩
  · exact same.layered begun
  · rw [same]
    exact layered_addStage (begun_wellFormed ok operation) accepted begun

theorem Reachable.layered (reachable : c.Reachable) : c.Layered := by
  obtain ⟨config, start, created, reached⟩ := reachable
  have ok := new_wellFormed created
  refine reached.induct Layered ?_ fun _ operation known => next_layered (reaches_wellFormed ok known) operation
  obtain ⟨_, _, same⟩ := bind_ok.mp created
  cases same
  exact ⟨fun _ => 0, by simp [plan?]⟩

def Feeds (c : Coordinator) (input reader : StageKey) : Prop :=
  ∃ plan, c.plan? reader = some plan ∧ input.1 = plan.queryId ∧ input.2 ∈ plan.inputStages

theorem stage_graph_acyclic (reachable : c.Reachable) : WellFounded c.Feeds := by
  obtain ⟨layer, below⟩ := reachable.layered
  refine Subrelation.wf ?_ (InvImage.wf layer Nat.lt_wfRel.wf)
  rintro ⟨_, dependency⟩ reader ⟨plan, planned, rfl, member⟩
  exact below reader plan planned dependency member

-- The induction is on the layer of the stage: a stage that waits does so for one below it.
theorem exists_runnable (ok : c.WellFormed) {layer : StageKey → Nat}
    (below : ∀ key plan, c.plan? key = some plan →
      ∀ dependency ∈ plan.inputStages, layer (plan.queryId, dependency) < layer key)
    {key : StageKey} {stage : StageRuntime} (stored : c.stages[key]? = some stage)
    (unfinished : allSucceeded stage = false) :
    ∃ (stageId : StageId) (runnable : StageRuntime), c.stages[(key.1, stageId)]? = some runnable ∧
      c.dependenciesSucceeded runnable = true ∧ allSucceeded runnable = false := by
  induction height : layer key using Nat.strong_induction_on generalizing key stage with
  | _ level ih =>
    have formed := ok.stages key stage stored
    cases ready : c.dependenciesSucceeded stage with
    | true => exact ⟨key.2, stage, stored, ready, unfinished⟩
    | false =>
      obtain ⟨dependency, member, waiting⟩ := List.all_eq_false.mp ready
      obtain ⟨upstream, planned, _⟩ := formed.dependencies dependency member
      obtain ⟨blocking, found, rfl⟩ := Option.map_eq_some_iff.mp planned
      rw [found, Option.any_some, Bool.not_eq_true] at waiting
      have lower := below key stage.plan (plan?_of_stage stored) dependency member
      have query : key.1 = stage.plan.queryId := congrArg Prod.fst formed.key
      rw [query]
      exact ih _ (height ▸ lower) found waiting rfl

theorem unfinished_query_is_served (reachable : c.Reachable) (nowMs : U64) {queryId : QueryId}
    {stageId : StageId} {stage : StageRuntime}
    (stored : (c.advanced nowMs).stages[(queryId, stageId)]? = some stage)
    (live : queryId ∉ (c.advanced nowMs).cancelledQueries) (unfinished : allSucceeded stage = false)
    {workerId : WorkerId} {worker : WorkerRuntime}
    (present : (c.advanced nowMs).workers[workerId]? = some worker) (alive : worker.alive = true)
    (room : worker.availableSlots ≠ 0)
    (leased : Word.checkedAdd nowMs (c.advanced nowMs).config.leaseDurationMs ≠ none) :
    (∃ stageId index partition,
      (c.advanced nowMs).partition? (queryId, stageId) index = some partition ∧
        (partition.isActive = true ∨ partition.isFailed = true ∨ partition.isCancelled = true)) ∨
      ∃ message, ((nextAssignment nowMs).run c).1 = .ok (some message) := by
  have ok := advanced_wellFormed nowMs reachable.wellFormed
  obtain ⟨layer, below⟩ := (sameShape_advanced c nowMs).layered reachable.layered
  obtain ⟨runnableId, runnable, found, ready, waiting⟩ := exists_runnable ok below stored unfinished
  obtain ⟨partition, member, open'⟩ := List.all_eq_false.mp waiting
  obtain ⟨index, bound, rfl⟩ := List.getElem_of_mem member
  have position := List.getElem?_eq_getElem bound
  have known := (partition?_of_stage found index).trans position
  -- No pending partition is left, every worker is full, the lease overflows, or a task is sent.
  rcases nextAssignment_cases reachable.wellFormed nowMs with
    ⟨missing | full, _⟩ | ⟨overflow, _⟩ | ⟨_, _, _, _, _, _, _, sent, _⟩
  · refine .inl ⟨runnableId, index, _, known, ?_⟩
    have drained := nextPendingPartition_none missing found live ready position
    generalize runnable.partitions[index] = partition at *
    cases partition with
    | pending => cases drained
    | cancelling => exact absurd (cancelling_member ok known) live
    | succeeded => exact absurd rfl open'
    | active => exact .inl rfl
    | failed => exact .inr (.inl rfl)
    | cancelled => exact .inr (.inr rfl)
  · exact absurd (full workerId worker present alive) room
  · exact absurd overflow leased
  · exact .inr ⟨_, sent⟩

end

section

open Sample

theorem shuffled_graph_acyclic : shuffled.Feeds (query, 0) (query, 1) ∧ WellFounded shuffled.Feeds := by
  have planned : shuffled.plan? (query, 1) = some reduceStage := by decide
  exact ⟨⟨reduceStage, planned, rfl, List.mem_singleton_self _⟩,
    stage_graph_acyclic (exec_reachable start_created _)⟩

theorem submitted_query_is_served :
    (∃ (stageId : StageId) (index : Nat) (partition : PartitionRuntime),
      ((after []).advanced 0).partition? (query, stageId) index = some partition ∧
        (partition.isActive = true ∨ partition.isFailed = true ∨ partition.isCancelled = true)) ∨
      ∃ message, ((nextAssignment 0).run (after [])).1 = .ok (some message) := by
  have stored : ((after []).advanced 0).stages[(query, (0 : StageId))]? =
      some ⟨scanStage, [.pending 0, .pending 0]⟩ := by decide
  have present : ((after []).advanced 0).workers[worker]? = some (freshWorker ⟨worker, 2, 1024⟩ 0) := by
    decide
  exact unfinished_query_is_served (after_reachable []) 0 stored (by decide) (by decide) present
    (by decide) (by decide) (by decide)

end

end SparkX.Coordinator
