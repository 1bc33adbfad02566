import SparkX.Cluster.Coordinator.Cancellation

set_option autoImplicit false

namespace SparkX

namespace PartitionRuntime

def isCancelled : PartitionRuntime → Bool
  | .cancelled => true
  | _ => false

def isTerminal (partition : PartitionRuntime) : Bool :=
  partition.isSucceeded || partition.isFailed || partition.isCancelled

end PartitionRuntime

namespace Coordinator

open Std

section

variable {c : Coordinator} {queryId : QueryId} {stageId : StageId} {stage : StageRuntime}

def Stuck (stage : StageRuntime) : Prop :=
  (∃ partition ∈ stage.partitions, partition.isCancelled = true) ∧
    ∀ partition ∈ stage.partitions, partition.isSucceeded = true ∨ partition.isCancelled = true

-- What the status of a stage promises to the client that polls it.
structure Schedulable (c : Coordinator) (queryId : QueryId) (stageId : StageId)
    (stage : StageRuntime) : Prop where
  ready : c.stageStatus queryId stageId = .ok .ready →
    (∃ partition ∈ stage.partitions, partition.isPending = true) ∧ c.nextPendingPartition ≠ none
  running : c.stageStatus queryId stageId = .ok .running →
    ∃ partition ∈ stage.partitions, partition.lease?.isSome = true
  terminal : (∀ partition ∈ stage.partitions, partition.isTerminal = true) →
    c.stageStatus queryId stageId = .ok .succeeded ∨ c.stageStatus queryId stageId = .ok .failed ∨
      c.stageStatus queryId stageId = .ok .cancelled

theorem stageStatus_eq (stored : c.stages[(queryId, stageId)]? = some stage)
    (live : queryId ∉ c.cancelledQueries) :
    c.stageStatus queryId stageId = .ok (
      if stage.partitions.any (·.isFailed) then .failed
      else if allSucceeded stage then .succeeded
      else if stage.partitions.any (·.isActive) then .running
      else if c.dependenciesSucceeded stage then .ready
      else .blocked) := by
  have found : okOr c.stages[(queryId, stageId)]? (stageNotFound queryId stageId) = .ok stage :=
    okOr_ok.mpr stored
  simp only [stageStatus, found, live, if_false]
  change (if _ then _ else _ : Except SparkXError StageStatus) = _
  repeat
    split
    · rfl
  rfl

theorem stuck_status (stored : c.stages[(queryId, stageId)]? = some stage)
    (live : queryId ∉ c.cancelledQueries) (stuck : Stuck stage) :
    c.stageStatus queryId stageId = .ok .ready ∨ c.stageStatus queryId stageId = .ok .blocked := by
  obtain ⟨⟨ending, member, ended⟩, settled⟩ := stuck
  have noneFailed : stage.partitions.any (·.isFailed) = false := by
    rw [List.any_eq_false]
    intro partition inside
    rcases settled partition inside with done | done <;> cases partition <;>
      simp [PartitionRuntime.isSucceeded, PartitionRuntime.isCancelled,
        PartitionRuntime.isFailed] at done ⊢
  have noneActive : stage.partitions.any (·.isActive) = false := by
    rw [List.any_eq_false]
    intro partition inside
    rcases settled partition inside with done | done <;> cases partition <;>
      simp [PartitionRuntime.isSucceeded, PartitionRuntime.isCancelled,
        PartitionRuntime.isActive] at done ⊢
  have unfinished : allSucceeded stage = false := by
    rw [allSucceeded, List.all_eq_false]
    refine ⟨ending, member, ?_⟩
    cases ending <;> simp [PartitionRuntime.isSucceeded, PartitionRuntime.isCancelled] at ended ⊢
  rw [stageStatus_eq stored live, noneFailed, noneActive, unfinished]
  cases c.dependenciesSucceeded stage with
  | true => exact .inl rfl
  | false => exact .inr rfl

theorem stuck_terminal (stuck : Stuck stage) :
    ∀ partition ∈ stage.partitions, partition.isTerminal = true := by
  intro partition member
  rcases stuck.2 partition member with done | done
  · simp [PartitionRuntime.isTerminal, done]
  · simp [PartitionRuntime.isTerminal, done]

theorem not_schedulable_of_stuck (stored : c.stages[(queryId, stageId)]? = some stage)
    (live : queryId ∉ c.cancelledQueries) (stuck : Stuck stage) :
    ¬c.Schedulable queryId stageId stage := by
  intro schedulable
  have reported := schedulable.terminal (stuck_terminal stuck)
  rcases stuck_status stored live stuck with status | status
  · simp [status] at reported
  · simp [status] at reported

variable [PhysicalPlanCodec]

theorem settled_of_idle (ok : c.WellFormed) (stored : c.stages[(queryId, stageId)]? = some stage)
    (live : queryId ∉ c.cancelledQueries)
    (unfailed : ∀ partition ∈ stage.partitions, partition.isFailed ≠ true)
    (inactive : ∀ partition ∈ stage.partitions, partition.isActive ≠ true)
    (drained : ∀ partition ∈ stage.partitions, partition.isPending ≠ true)
    (partition : PartitionRuntime) (member : partition ∈ stage.partitions) :
    partition.isSucceeded = true ∨ partition.isCancelled = true := by
  obtain ⟨index, bound, rfl⟩ := List.getElem_of_mem member
  have present : c.partition? (queryId, stageId) index = some stage.partitions[index] :=
    (partition?_of_stage stored index).trans (List.getElem?_eq_getElem bound)
  cases here : stage.partitions[index] with
  | pending nextAttempt => exact absurd (by rw [here]; rfl) (drained _ member)
  | active task workerId lease startedAtMs => exact absurd (by rw [here]; rfl) (inactive _ member)
  | cancelling task workerId lease =>
    rw [here] at present
    exact absurd (cancelling_member ok present) live
  | succeeded task blocks => exact .inl rfl
  | failed attempt error retryable => exact absurd (by rw [here]; rfl) (unfailed _ member)
  | cancelled => exact .inr rfl

omit [PhysicalPlanCodec] in
theorem stuck_of_settled {partition : PartitionRuntime} (member : partition ∈ stage.partitions)
    (unfinished : partition.isSucceeded ≠ true)
    (settled : ∀ partition ∈ stage.partitions,
      partition.isSucceeded = true ∨ partition.isCancelled = true) : Stuck stage :=
  ⟨⟨partition, member, (settled partition member).resolve_left unfinished⟩, settled⟩

theorem ready_pending (ok : c.WellFormed) (stored : c.stages[(queryId, stageId)]? = some stage)
    (live : queryId ∉ c.cancelledQueries) (free : ¬Stuck stage)
    (ready : c.stageStatus queryId stageId = .ok .ready) :
    (∃ partition ∈ stage.partitions, partition.isPending = true) ∧ c.nextPendingPartition ≠ none := by
  rw [stageStatus_eq stored live] at ready
  split at ready
  · cases ready
  split at ready
  · cases ready
  split at ready
  · cases ready
  split at ready
  case isFalse => cases ready
  next unfailed unfinished inactive succeeded =>
    simp only [List.any_eq_true, not_exists, not_and] at unfailed inactive
    have pending : ∃ partition ∈ stage.partitions, partition.isPending = true := by
      by_contra drained
      simp only [not_exists, not_and] at drained
      rw [allSucceeded, Bool.not_eq_true, List.all_eq_false] at unfinished
      obtain ⟨partition, member, open'⟩ := unfinished
      exact free (stuck_of_settled member open'
        (settled_of_idle ok stored live unfailed inactive drained))
    refine ⟨pending, ?_⟩
    intro missing
    obtain ⟨partition, member, waiting⟩ := pending
    obtain ⟨index, bound, rfl⟩ := List.getElem_of_mem member
    rw [nextPendingPartition_none missing stored live succeeded (List.getElem?_eq_getElem bound)]
      at waiting
    cases waiting

omit [PhysicalPlanCodec] in
theorem running_leased (stored : c.stages[(queryId, stageId)]? = some stage)
    (live : queryId ∉ c.cancelledQueries) (running : c.stageStatus queryId stageId = .ok .running) :
    ∃ partition ∈ stage.partitions, partition.lease?.isSome = true := by
  rw [stageStatus_eq stored live] at running
  split at running
  · cases running
  split at running
  · cases running
  split at running
  next active =>
    obtain ⟨partition, member, leased⟩ := List.any_eq_true.mp active
    refine ⟨partition, member, ?_⟩
    cases partition with
    | active task workerId lease startedAtMs => rfl
    | _ => cases leased
  next =>
    split at running
    · cases running
    · cases running

omit [PhysicalPlanCodec] in
theorem terminal_reported (stored : c.stages[(queryId, stageId)]? = some stage)
    (live : queryId ∉ c.cancelledQueries) (free : ¬Stuck stage)
    (ended : ∀ partition ∈ stage.partitions, partition.isTerminal = true) :
    c.stageStatus queryId stageId = .ok .succeeded ∨ c.stageStatus queryId stageId = .ok .failed := by
  rw [stageStatus_eq stored live]
  by_cases failed : stage.partitions.any (·.isFailed) = true
  · rw [if_pos failed]
    exact .inr rfl
  · have settled : ∀ partition ∈ stage.partitions,
        partition.isSucceeded = true ∨ partition.isCancelled = true := by
      intro partition member
      simp only [List.any_eq_true, not_exists, not_and] at failed
      have terminal := ended partition member
      simp only [PartitionRuntime.isTerminal, Bool.or_eq_true] at terminal
      rcases terminal with (succeeded | broken) | gone
      · exact .inl succeeded
      · exact absurd broken (failed partition member)
      · exact .inr gone
    have done : allSucceeded stage = true := by
      rw [allSucceeded, List.all_eq_true]
      intro partition member
      by_contra open'
      exact free (stuck_of_settled member open' settled)
    rw [if_neg failed, if_pos done]
    exact .inl rfl

theorem schedulable_of_not_stuck (ok : c.WellFormed)
    (stored : c.stages[(queryId, stageId)]? = some stage) (live : queryId ∉ c.cancelledQueries)
    (free : ¬Stuck stage) : c.Schedulable queryId stageId stage where
  ready := ready_pending ok stored live free
  running := running_leased stored live
  terminal := by
    intro ended
    rcases terminal_reported stored live free ended with done | failed
    · exact .inl done
    · exact .inr (.inl failed)

end

section

variable [PhysicalPlanCodec] {c c' : Coordinator} {operation : Operation}
variable {result : Except Fault Reply}

def ReportsCancelled (operation : Operation) (task : TaskAttemptId) : Prop :=
  ∃ version workerId finishedAtMs reason receivedAtMs, operation =
    .workerMessage (.taskUpdate version workerId task (.cancelled finishedAtMs reason)) receivedAtMs

def Abandons (c : Coordinator) (operation : Operation) : Prop :=
  ∃ task, ReportsCancelled operation task ∧ task.queryId ∉ c.cancelledQueries ∧
    machine.output operation c = .ok .done

def Unabandoned (c : Coordinator) : Prop :=
  ∀ key index, c.partition? key index = some .cancelled → key.1 ∈ c.cancelledQueries

omit [PhysicalPlanCodec] in
theorem concluded_cancelled {maxTaskAttempts : U32} {task : TaskAttemptId} {state : TaskState}
    {partition : PartitionRuntime} {workerId : WorkerId} {lease : TaskLease} {finishedAtMs : U64}
    (owns : Owns partition task workerId lease) (finished : finishedAt state = some finishedAtMs)
    (same : concluded maxTaskAttempts task state partition = .cancelled) :
    partition = .cancelling task workerId lease ∨ ∃ finishedAtMs reason, state = .cancelled finishedAtMs reason := by
  rcases owns with rfl | ⟨startedAtMs, rfl⟩
  · exact .inl rfl
  · cases state with
    | running startedAtMs => cases finished
    | succeeded finishedAtMs blocks => cases same
    | failed finishedAtMs error retryable =>
      cases retryable with
      | false => cases same
      | true =>
        change retryOrFail maxTaskAttempts task.attempt error = .cancelled at same
        rcases retryOrFail_cases maxTaskAttempts task.attempt error with ⟨next, pending⟩ | failed
        · rw [pending] at same
          cases same
        · rw [failed] at same
          cases same
    | cancelled finishedAtMs reason => exact .inr ⟨finishedAtMs, reason, rfl⟩

theorem Effect.abandoned (effect : Effect c operation result c') (ok : c.WellFormed) {key : StageKey}
    {index : Nat} (present : c'.partition? key index = some .cancelled) :
    c.partition? key index = some .cancelled ∨ key.1 ∈ c'.cancelledQueries ∨
      result = .ok .done ∧ ∃ task, ReportsCancelled operation task ∧ task.queryId = key.1 := by
  rcases effect.moves present with before | moves
  · exact .inl before
  cases moves with
  | submitted same => cases same
  | leased _ _ _ _ same => cases same
  | concluded version workerId reported state old lease _ receivedAtMs called accepted place reports
      finished same =>
    obtain ⟨rfl, rfl⟩ := Prod.mk.injEq .. ▸ place
    rcases concluded_cancelled reports.owns finished same.symm with rfl | ⟨finishedAtMs, reason, rfl⟩
    · exact .inr (.inl (effect.cancelledQueries (cancelling_member ok reports.present)))
    · exact .inr (.inr ⟨accepted, reported,
        ⟨version, workerId, finishedAtMs, reason, receivedAtMs, called⟩, rfl⟩)
  | cancelled _ _ _ member => exact .inr (.inl member)

theorem begun_unabandoned (ok : c.WellFormed) (operation : Operation) (unabandoned : c.Unabandoned) :
    (c.begun operation).Unabandoned := by
  intro key index present
  rw [begun_cancelledQueries]
  simp only [begun] at present
  cases timed : operation.time with
  | none =>
    rw [timed] at present
    exact unabandoned key index present
  | some nowMs =>
    rw [timed, Option.elim_some, advanced_partition] at present
    obtain ⟨old, before, same⟩ := Option.map_eq_some_iff.mp present
    rcases c.lapsed_cases nowMs old with
      kept | ⟨task, _, _, _, error, _, _, ended⟩ | ⟨task, workerId, lease, rfl, _, _⟩
    · rw [kept] at same
      exact unabandoned key index (same ▸ before)
    · rw [ended] at same
      rcases retryOrFail_cases c.config.maxTaskAttempts task.attempt error with ⟨next, pending⟩ | failed
      · rw [pending] at same
        cases same
      · rw [failed] at same
        cases same
    · exact cancelling_member ok before

theorem next_unabandoned (ok : c.WellFormed) (kept : ¬c.Abandons operation)
    (unabandoned : c.Unabandoned) : (machine.next operation c).Unabandoned := by
  intro key index present
  change key.1 ∈ ((perform operation).run c).2.cancelledQueries
  change ((perform operation).run c).2.partition? key index = _ at present
  rcases perform_effect ok operation with ⟨error, _, same⟩ | effect
  · rw [same] at present ⊢
    exact unabandoned key index present
  · have formed := begun_wellFormed ok operation
    rcases effect.abandoned formed present with before | member | ⟨accepted, task, reported, query⟩
    · exact effect.cancelledQueries (begun_unabandoned ok operation unabandoned key index before)
    · exact member
    · by_contra live
      refine kept ⟨task, reported, ?_, accepted⟩
      rw [query, ← begun_cancelledQueries c operation]
      exact fun member => live (effect.cancelledQueries member)

theorem exec_unabandoned {operations : List Operation} (ok : c.WellFormed)
    (kept : ∀ earlier operation later, operations = earlier ++ operation :: later →
      ¬(machine.exec earlier c).Abandons operation)
    (unabandoned : c.Unabandoned) : (machine.exec operations c).Unabandoned := by
  induction operations generalizing c with
  | nil => exact unabandoned
  | cons operation rest ih =>
    rw [Machine.exec_cons]
    apply ih (next_wellFormed ok operation)
    · intro earlier other later same
      have run := kept (operation :: earlier) other later (by rw [same, List.cons_append])
      rw [Machine.exec_cons] at run
      exact run
    · exact next_unabandoned ok (kept [] operation rest rfl) unabandoned

omit [PhysicalPlanCodec] in
theorem not_stuck_of_unabandoned {queryId : QueryId} {stageId : StageId} {stage : StageRuntime}
    (unabandoned : c.Unabandoned) (stored : c.stages[(queryId, stageId)]? = some stage)
    (live : queryId ∉ c.cancelledQueries) : ¬Stuck stage := by
  rintro ⟨⟨partition, member, ended⟩, _⟩
  obtain ⟨index, bound, rfl⟩ := List.getElem_of_mem member
  have cancelled : stage.partitions[index] = .cancelled := by
    cases here : stage.partitions[index] with
    | cancelled => rfl
    | _ =>
      rw [here] at ended
      cases ended
  have present : c.partition? (queryId, stageId) index = some .cancelled := by
    rw [partition?_of_stage stored, List.getElem?_eq_getElem bound, cancelled]
  exact live (unabandoned _ index present)

theorem stageStatus_schedulable :
    (∀ c : Coordinator, c.Reachable → ∀ queryId stageId stage,
      c.stages[(queryId, stageId)]? = some stage → queryId ∉ c.cancelledQueries →
        (c.Schedulable queryId stageId stage ↔ ¬Stuck stage)) ∧
    ∀ config start operations, new config = .ok start →
      (∀ earlier operation later, operations = earlier ++ operation :: later →
        ¬(machine.exec earlier start).Abandons operation) →
      ∀ queryId stageId stage, (machine.exec operations start).stages[(queryId, stageId)]? = some stage →
        queryId ∉ (machine.exec operations start).cancelledQueries →
          (machine.exec operations start).Schedulable queryId stageId stage := by
  refine ⟨?_, ?_⟩
  · intro c reachable queryId stageId stage stored live
    refine ⟨?_, schedulable_of_not_stuck reachable.wellFormed stored live⟩
    exact fun schedulable stuck => not_schedulable_of_stuck stored live stuck schedulable
  · intro config start operations created kept queryId stageId stage stored live
    have ok := new_wellFormed created
    have fresh : start.Unabandoned := by
      intro key index present
      obtain ⟨valid, _, same⟩ := bind_ok.mp created
      cases same
      simp [partition?] at present
    have unabandoned := exec_unabandoned ok kept fresh
    exact schedulable_of_not_stuck (exec_reachable created operations).wellFormed stored live
      (not_stuck_of_unabandoned unabandoned stored live)

end

section

open Sample

def abandoned : Coordinator :=
  after [.nextAssignment 0, .nextAssignment 0,
    report 0 0 (.cancelled 1 "task execution was cancelled") 1,
    report 1 0 (.cancelled 1 "task execution was cancelled") 1]

theorem stageStatus_schedulable_submitted :
    (after []).stageStatus query 0 = .ok .ready ∧
      (after []).Schedulable query 0 ⟨scanStage, [.pending 0, .pending 0]⟩ := by
  refine ⟨by decide, ?_⟩
  apply (stageStatus_schedulable.1 (after []) (after_reachable []) query 0 _ (by decide) (by decide)).mpr
  rintro ⟨⟨partition, member, ended⟩, _⟩
  simp only [List.mem_cons, List.not_mem_nil, or_false, or_self] at member
  rw [member] at ended
  cases ended

theorem abandoned_stage_reported_ready :
    abandoned.Reachable ∧ query ∉ abandoned.cancelledQueries ∧
      abandoned.stages[(query, (0 : StageId))]? = some ⟨scanStage, [.cancelled, .cancelled]⟩ ∧
      abandoned.stageStatus query 0 = .ok .ready ∧ abandoned.nextPendingPartition = none ∧
      ¬abandoned.Schedulable query 0 ⟨scanStage, [.cancelled, .cancelled]⟩ := by
  have ready : abandoned.stageStatus query 0 = .ok .ready := by decide
  have idle : abandoned.nextPendingPartition = none := by decide
  refine ⟨after_reachable _, by decide, by decide, ready, idle, ?_⟩
  intro schedulable
  exact (schedulable.ready ready).2 idle

end

end Coordinator

end SparkX
