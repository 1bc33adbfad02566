import SparkX.Cluster.Coordinator.Refinement
import SparkX.Shared.Tagged

set_option autoImplicit false

namespace SparkX.Coordinator

open Std

section

variable {c c' : Coordinator} {operation : Operation} {result : Except Fault Reply}

variable {key : StageKey} {index : Nat} {partition : PartitionRuntime}

theorem advanced_inert {nowMs : U64} (present : (c.advanced nowMs).partition? key index = some partition)
    (inert : partition.lease?.isSome ∨ partition.isSucceeded) :
    c.partition? key index = some partition := by
  rw [advanced_partition] at present
  obtain ⟨old, before, rfl⟩ := Option.map_eq_some_iff.mp present
  rw [before, c.lapsed_inert nowMs inert]

theorem begun_inert (present : (c.begun operation).partition? key index = some partition)
    (inert : partition.lease?.isSome ∨ partition.isSucceeded) :
    c.partition? key index = some partition := by
  simp only [begun] at present
  cases timed : operation.time with
  | none =>
    rw [timed] at present
    exact present
  | some nowMs =>
    rw [timed] at present
    exact advanced_inert present inert

variable {task : TaskAttemptId} {blocks : List ShuffleBlock}

theorem concluded_succeeded {maxTaskAttempts : U32} {reported : TaskAttemptId} {state : TaskState}
    {workerId : WorkerId} {lease : TaskLease} (owns : Owns partition reported workerId lease)
    (same : concluded maxTaskAttempts reported state partition = .succeeded task blocks) :
    reported = task ∧ (∃ finishedAtMs, state = .succeeded finishedAtMs blocks) ∧
      ∃ startedAtMs, partition = .active reported workerId lease startedAtMs := by
  rcases owns with rfl | ⟨startedAtMs, rfl⟩
  · cases same
  · cases state with
    | running startedAtMs => cases same
    | succeeded finishedAtMs outputBlocks =>
      cases same
      exact ⟨rfl, ⟨finishedAtMs, rfl⟩, ⟨startedAtMs, rfl⟩⟩
    | failed finishedAtMs error retryable =>
      cases retryable with
      | false => cases same
      | true =>
        change retryOrFail maxTaskAttempts reported.attempt error = .succeeded task blocks at same
        rcases retryOrFail_cases maxTaskAttempts reported.attempt error with ⟨next, pending⟩ | failed
        · rw [pending] at same
          cases same
        · rw [failed] at same
          cases same
    | cancelled finishedAtMs reason => cases same

def CommitsBy (c : Coordinator) (operation : Operation) (key : StageKey) (index : Nat)
    (task : TaskAttemptId) (blocks : List ShuffleBlock) : Prop :=
  ∃ version workerId lease startedAtMs finishedAtMs receivedAtMs,
    operation = .workerMessage (.taskUpdate version workerId task
      (.succeeded finishedAtMs blocks)) receivedAtMs ∧
    c.partition? key index = some (.active task workerId lease startedAtMs) ∧
    task.place = (key, index) ∧ lease.workerId = workerId ∧ receivedAtMs < lease.expiresAtMs

variable [PhysicalPlanCodec]

theorem Effect.succeeded (effect : Effect c operation result c') {key : StageKey} {index : Nat}
    {task : TaskAttemptId} {blocks : List ShuffleBlock}
    (present : c'.partition? key index = some (.succeeded task blocks)) :
    c.partition? key index = some (.succeeded task blocks) ∨
      c.CommitsBy operation key index task blocks := by
  rcases effect.moves present with before | moves
  · exact .inl before
  cases moves with
  | submitted same => cases same
  | leased _ _ _ _ same => cases same
  | concluded version workerId reported state old lease _ receivedAtMs called _ place reports _ same =>
    obtain ⟨rfl, ⟨finished, rfl⟩, ⟨started, rfl⟩⟩ := concluded_succeeded reports.owns same.symm
    obtain ⟨rfl, rfl⟩ := Prod.mk.injEq .. ▸ place
    exact .inr ⟨version, workerId, lease, started, finished, receivedAtMs, called, reports.present,
      rfl, reports.owner, reports.timely⟩
  | cancelled old before _ _ same =>
    cases old with
    | succeeded found stored => exact .inl (same ▸ before)
    | _ => cases same

theorem next_succeeded (ok : c.WellFormed)
    (present : (machine.next operation c).partition? key index = some (.succeeded task blocks)) :
    c.partition? key index = some (.succeeded task blocks) ∨
      c.CommitsBy operation key index task blocks := by
  rcases perform_effect ok operation with ⟨error, _, same⟩ | effect
  · change ((perform operation).run c).2.partition? key index = _ at present
    rw [same] at present
    exact .inl present
  · rcases effect.succeeded present with before | ⟨version, workerId, lease, startedAtMs,
      finishedAtMs, receivedAtMs, called, active, rest⟩
    · exact .inl (begun_inert before (.inr rfl))
    · exact .inr ⟨version, workerId, lease, startedAtMs, finishedAtMs, receivedAtMs, called,
        begun_inert active (.inl rfl), rest⟩

theorem succeeded_persists (ok : c.WellFormed) {later : Coordinator} (reached : machine.Reaches c later)
    (present : c.partition? key index = some (.succeeded task blocks)) :
    later.partition? key index = some (.succeeded task blocks) := by
  have run := (reaches_run ok reached (key, index)).1
  rw [phase_at present] at run
  exact phase_committed run.committed

end

section

variable {c : Coordinator}

theorem stageOutputBlocks_ok {queryId : QueryId} {stageId : StageId} {blocks : List ShuffleBlock}
    (listed : c.stageOutputBlocks queryId stageId = .ok blocks) :
    blocks = c.committed (queryId, stageId) := by
  obtain ⟨stage, found, rest⟩ := bind_ok.mp listed
  rw [check_ok] at rest
  rw [committed, okOr_ok.mp found, Option.elim_some]
  exact (Except.ok.inj rest.2).symm

variable [PhysicalPlanCodec]

theorem committed_filter (ok : c.WellFormed) {key : StageKey} {index : Nat} {task : TaskAttemptId}
    {blocks : List ShuffleBlock} (present : c.partition? key index = some (.succeeded task blocks)) :
    (c.committed key).filter (fun block => block.producer.partitionId.val = index) = blocks := by
  obtain ⟨stage, stored, position⟩ := partition?_eq_some.mp present
  let emit : PartitionRuntime × Nat → List ShuffleBlock := fun entry => entry.1.outputBlocks
  have spread : c.committed key = stage.partitions.zipIdx.flatMap emit := by
    have listed : stage.partitions.zipIdx.map Prod.fst = stage.partitions := List.zipIdx_map_fst _ _
    rw [committed, stored, Option.elim_some]
    conv_lhs => rw [← listed, List.flatMap_map]
  have distinct : (stage.partitions.zipIdx.map Prod.snd).Nodup := by
    rw [List.zipIdx_map_snd]
    exact List.nodup_range'
  have tagged : ∀ entry ∈ stage.partitions.zipIdx, ∀ block ∈ emit entry,
      block.producer.partitionId.val = entry.2 := by
    rintro ⟨partition, place⟩ member block inside
    have here := List.mem_zipIdx_iff_getElem?.mp member
    cases partition with
    | succeeded found outputBlocks =>
      have written : Committed stage.plan place found outputBlocks :=
        ok.partitions key stage.plan place _ (plan?_of_stage stored)
          ((partition?_of_stage stored place).trans here)
      rw [(written.valid block inside).2]
      exact written.placed.partition
    | _ => cases inside
  have member : (PartitionRuntime.succeeded task blocks, index) ∈ stage.partitions.zipIdx :=
    List.mem_zipIdx_iff_getElem?.mpr position
  rw [spread]
  exact Tagged.filter_flatMap Prod.snd emit (fun block => block.producer.partitionId.val) distinct
    tagged member

theorem commit_once (reachable : c.Reachable) :
    (∀ operation key index task blocks,
      (∀ known stored, c.partition? key index ≠ some (.succeeded known stored)) →
      (machine.next operation c).partition? key index = some (.succeeded task blocks) →
        c.CommitsBy operation key index task blocks) ∧
    ∀ key index task blocks, c.partition? key index = some (.succeeded task blocks) →
      (∀ block ∈ blocks, block.producer = task) ∧
      ∀ operations, (machine.exec operations c).partition? key index = some (.succeeded task blocks) ∧
        ∀ listed, (machine.exec operations c).stageOutputBlocks key.1 key.2 = .ok listed →
          listed.filter (fun block => block.producer.partitionId.val = index) = blocks := by
  have ok := reachable.wellFormed
  refine ⟨?_, ?_⟩
  · intro operation key index task blocks uncommitted present
    rcases next_succeeded ok present with before | commits
    · exact absurd before (uncommitted task blocks)
    · exact commits
  · intro key index task blocks present
    obtain ⟨plan, planned⟩ := plan?_of_partition present
    have written : Committed plan index task blocks := ok.partitions key plan index _ planned present
    refine ⟨fun block member => (written.valid block member).2, ?_⟩
    intro operations
    have reached : machine.Reaches c (machine.exec operations c) := ⟨operations, rfl⟩
    have kept := succeeded_persists ok reached present
    refine ⟨kept, ?_⟩
    intro listed returned
    rw [stageOutputBlocks_ok returned]
    exact committed_filter (reaches_wellFormed ok reached) kept

end

section

open Sample

def running : Coordinator := after [.nextAssignment 0]

def mapBlock (outputPartition : PartitionId) : ShuffleBlock :=
  { producer := task 0 0
    outputPartition
    rows := 1
    bytes := 8
    checksum := "0badc0de"
    location := .flight worker "http://w:50051" "ticket" }

def finish : Operation := report 0 0 (.succeeded 1 [mapBlock 0]) 1

theorem commit_once_first_partition :
    (∀ known stored, running.partition? (query, 0) 0 ≠ some (.succeeded known stored)) ∧
      running.CommitsBy finish (query, 0) 0 (task 0 0) [mapBlock 0] ∧
      ∀ operations, (machine.exec operations (after [.nextAssignment 0, finish])).partition? (query, 0) 0 =
        some (.succeeded (task 0 0) [mapBlock 0]) := by
  have uncommitted : ∀ known stored,
      running.partition? (query, 0) 0 ≠ some (.succeeded known stored) := by
    intro known stored committed
    have pending : (running.partition? (query, 0) 0).any (·.isSucceeded) = false := by decide
    rw [committed] at pending
    cases pending
  have written : (after [.nextAssignment 0, finish]).partition? (query, 0) 0 =
      some (.succeeded (task 0 0) [mapBlock 0]) := by decide
  refine ⟨uncommitted, (commit_once (after_reachable _)).1 _ _ _ _ _ uncommitted written, fun operations => ?_⟩
  exact (((commit_once (after_reachable _)).2 _ _ _ _ written).2 operations).1

end

end SparkX.Coordinator
