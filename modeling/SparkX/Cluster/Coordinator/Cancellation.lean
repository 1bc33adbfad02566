import SparkX.Cluster.Coordinator.Commit

set_option autoImplicit false

namespace SparkX

-- The worker's own register or heartbeat message, which sets its free slots anew.
def Operation.Renews (operation : Operation) (workerId : WorkerId) : Prop :=
  ∃ version receivedAtMs,
    (∃ registration, registration.workerId = workerId ∧
      operation = .workerMessage (.register version registration) receivedAtMs) ∨
    ∃ report, report.workerId = workerId ∧
      operation = .workerMessage (.heartbeat version report) receivedAtMs

namespace Coordinator

open Std

section

variable (c : Coordinator) (operation : Operation)

@[simp] theorem begun_cancelledQueries : (c.begun operation).cancelledQueries = c.cancelledQueries := by
  simp only [begun]
  cases operation.time with
  | none => rfl
  | some nowMs => exact advanced_cancelledQueries c nowMs

theorem load_begun (workerId : WorkerId) : (c.begun operation).load workerId ≤ c.load workerId := by
  simp only [begun]
  cases operation.time with
  | none => exact Nat.le_refl _
  | some nowMs => exact c.load_advanced nowMs workerId

variable {c operation}

theorem begun_cancelling {key : StageKey} {index : Nat} {task : TaskAttemptId} {workerId : WorkerId}
    {lease : TaskLease} (present : c.partition? key index = some (.cancelling task workerId lease)) :
    (c.begun operation).partition? key index = some (.cancelling task workerId lease) ∨
      (c.begun operation).partition? key index = some .cancelled ∧
        ∃ nowMs, operation.time = some nowMs ∧ c.Lapses nowMs workerId lease := by
  simp only [begun]
  cases timed : operation.time with
  | none => exact .inl present
  | some nowMs =>
    simp only [Option.elim_some, advanced_partition, present, Option.map_some]
    by_cases ended : c.Lapses nowMs workerId lease
    · refine .inr ⟨?_, nowMs, rfl, ended⟩
      exact congrArg some (if_pos ended)
    · exact .inl (congrArg some (if_neg ended))

end

section

variable [PhysicalPlanCodec] {c c' : Coordinator} {operation : Operation}
variable {result : Except Fault Reply}

variable {queryId : QueryId}

theorem Effect.cancelledQueries (effect : Effect c operation result c')
    (member : queryId ∈ c.cancelledQueries) : queryId ∈ c'.cancelledQueries := by
  cases effect with
  | rejected | acknowledged | idle | recancelled | elapsed | submitted | registered | heard =>
    exact member
  | started => simpa using member
  | concluded => simpa using member
  | assigned => simpa using member
  | cancelled cancelledId reason first => exact (mem_cancelStages cancelledId reason c queryId).mpr (.inr member)

variable {workerId : WorkerId}

theorem Effect.load (effect : Effect c operation result c') (ok : c.WellFormed)
    (silent : ¬operation.Renews workerId) : c'.load workerId ≤ c.load workerId := by
  cases effect with
  | rejected | acknowledged | idle | recancelled | elapsed => exact Nat.le_refl _
  | submitted plan accepted => exact Nat.le_of_eq (load_addStage accepted workerId)
  | registered version registration receivedAtMs =>
    apply Nat.le_of_eq
    apply load_setWorker_other
    exact fun same => silent ⟨version, receivedAtMs, .inl ⟨registration, same, rfl⟩⟩
  | heard version report receivedAtMs worker =>
    apply Nat.le_of_eq
    apply load_setWorker_other
    exact fun same => silent ⟨version, receivedAtMs, .inr ⟨report, same, rfl⟩⟩
  | started version owner task lease startedAtMs receivedAtMs reports =>
    exact Nat.le_of_eq (load_started reports workerId)
  | concluded version owner task state partition lease finishedAtMs receivedAtMs reports finished =>
    exact c.load_settle workerId reports.present reports.owns.holder
      (concluded_holder finished reports.owns)
  | assigned _ owner nowMs worker stage task lease left called assigns =>
    exact Nat.le_of_eq (load_assigned assigns workerId)
  | cancelled queryId reason first =>
    exact Nat.le_of_eq (load_cancelStages queryId reason ok first workerId)

def EndsBy (operation : Operation) (task : TaskAttemptId) (workerId : WorkerId) : Prop :=
  ∃ version state finishedAtMs receivedAtMs, finishedAt state = some finishedAtMs ∧
    operation = .workerMessage (.taskUpdate version workerId task state) receivedAtMs

variable {key : StageKey} {index : Nat} {task : TaskAttemptId} {lease : TaskLease}

theorem cancelling_member (ok : c.WellFormed)
    (present : c.partition? key index = some (.cancelling task workerId lease)) :
    key.1 ∈ c.cancelledQueries := by
  obtain ⟨plan, planned⟩ := plan?_of_partition present
  have known : LeaseOk c plan index task workerId lease ∧ plan.queryId ∈ c.cancelledQueries :=
    ok.partitions key plan index _ planned present
  obtain ⟨stage, stored, rfl⟩ := Option.map_eq_some_iff.mp planned
  rw [(ok.stages key stage stored).key]
  exact known.2

theorem Effect.cancelling (effect : Effect c operation result c') (ok : c.WellFormed)
    (present : c.partition? key index = some (.cancelling task workerId lease)) :
    c'.partition? key index = some (.cancelling task workerId lease) ∨
      c'.partition? key index = some .cancelled ∧ EndsBy operation task workerId := by
  obtain ⟨new, stored⟩ := effect.present present
  rcases effect.moves stored with before | moves
  · exact .inl (stored.trans (before.symm.trans present))
  cases moves with
  | submitted _ absent =>
    obtain ⟨stage, found, _⟩ := partition?_eq_some.mp present
    rw [absent] at found
    cases found
  | leased _ _ _ _ _ before =>
    rw [present] at before
    rcases before with before | before
    · cases before
    · cases before
  | concluded version owner reported state old _ finishedAtMs receivedAtMs called _ place reports
      finished same =>
    have known := reports.present
    obtain ⟨rfl, rfl⟩ := Prod.mk.injEq .. ▸ place
    obtain rfl := Option.some.inj (known.symm.trans present)
    rcases reports.owns with owned | ⟨startedAtMs, owned⟩
    · obtain ⟨rfl, rfl, rfl⟩ := PartitionRuntime.cancelling.inj owned
      rw [stored, same]
      exact .inr ⟨rfl, version, state, finishedAtMs, receivedAtMs, finished, called⟩
    · cases owned
  | cancelled old before first =>
    -- The query of this partition was cancelled before.
    exact absurd (cancelling_member ok present) first

theorem next_cancelledQueries (ok : c.WellFormed) (operation : Operation)
    (member : queryId ∈ c.cancelledQueries) : queryId ∈ (machine.next operation c).cancelledQueries := by
  rcases perform_effect ok operation with ⟨error, _, same⟩ | effect
  · change queryId ∈ ((perform operation).run c).2.cancelledQueries
    rw [same]
    exact member
  · apply effect.cancelledQueries
    rw [begun_cancelledQueries]
    exact member

theorem reaches_cancelledQueries {later : Coordinator} (ok : c.WellFormed)
    (reached : machine.Reaches c later) (member : queryId ∈ c.cancelledQueries) :
    queryId ∈ later.cancelledQueries := by
  apply reached.induct (fun later => queryId ∈ later.cancelledQueries) member
  intro between operation known cancelled
  exact next_cancelledQueries (reaches_wellFormed ok known) operation cancelled

theorem next_load (ok : c.WellFormed) (silent : ¬operation.Renews workerId) :
    (machine.next operation c).load workerId ≤ c.load workerId := by
  rcases perform_effect ok operation with ⟨error, _, same⟩ | effect
  · change ((perform operation).run c).2.load workerId ≤ _
    rw [same]
  · exact (effect.load (begun_wellFormed ok operation) silent).trans (c.load_begun operation workerId)

theorem next_cancelled (ok : c.WellFormed) (operation : Operation)
    (present : c.partition? key index = some .cancelled) :
    (machine.next operation c).partition? key index = some .cancelled := by
  have run := next_run ok operation (key, index)
  rw [phase_at present] at run
  exact phase_cancelled run.cancelled

theorem next_cancelling (ok : c.WellFormed) (operation : Operation)
    (present : c.partition? key index = some (.cancelling task workerId lease)) :
    (machine.next operation c).partition? key index = some (.cancelling task workerId lease) ∨
      (machine.next operation c).partition? key index = some .cancelled ∧
        ((∃ nowMs, operation.time = some nowMs ∧ c.Lapses nowMs workerId lease) ∨
          EndsBy operation task workerId) := by
  rcases perform_effect ok operation with ⟨error, _, same⟩ | effect
  · change ((perform operation).run c).2.partition? key index = _ ∨ _
    rw [same]
    exact .inl present
  · have formed := begun_wellFormed ok operation
    rcases begun_cancelling present with kept | ⟨ended, lapsed⟩
    · rcases effect.cancelling formed kept with still | ⟨ended, reported⟩
      · exact .inl still
      · exact .inr ⟨ended, .inr reported⟩
    · refine .inr ⟨?_, .inl lapsed⟩
      rcases effect.phase (key, index) with ⟨task, _, _, pending, _⟩ | ⟨_, quiet⟩
      · rw [phase_at ended] at pending
        cases pending
      · rw [phase_at ended] at quiet
        exact phase_cancelled (Phase.Run.cancelled (.single (.quiet quiet)))

end

section

variable [PhysicalPlanCodec] {c : Coordinator}

-- A cancelled query: nothing of it is started or committed any more, and every lease it still has
-- occupies its slot until the owner reports the end of the task or the lease lapses.
structure Final (c : Coordinator) (queryId : QueryId) : Prop where
  unassigned : ∀ operation task, handedOut (machine.output operation c) = some task →
    task.queryId ≠ queryId
  unsubmitted : ∀ plan, plan.queryId = queryId → machine.next (.submitStage plan) c = c ∧
    ∃ error, machine.output (.submitStage plan) c = .error (.error error)
  partitions : ∀ stageId index partition, c.partition? (queryId, stageId) index = some partition →
    (∃ task workerId lease, partition = .cancelling task workerId lease) ∨ partition = .cancelled ∨
      ∃ task blocks, partition = .succeeded task blocks
  uncommitted : ∀ operation stageId index task blocks,
    (machine.next operation c).partition? (queryId, stageId) index = some (.succeeded task blocks) →
      c.partition? (queryId, stageId) index = some (.succeeded task blocks)
  occupies : ∀ stageId index task workerId lease,
    c.partition? (queryId, stageId) index = some (.cancelling task workerId lease) →
      0 < c.occupied workerId ∧ ∃ worker, c.workers[workerId]? = some worker ∧
        worker.availableSlots.val + c.occupied workerId ≤ worker.registration.slots.val
  released : ∀ operation stageId index task workerId lease,
    c.partition? (queryId, stageId) index = some (.cancelling task workerId lease) →
      (machine.next operation c).partition? (queryId, stageId) index =
          some (.cancelling task workerId lease) ∨
        (machine.next operation c).partition? (queryId, stageId) index = some .cancelled ∧
          ((∃ nowMs, operation.time = some nowMs ∧ c.Lapses nowMs workerId lease) ∨
            EndsBy operation task workerId)
  ended : ∀ operation stageId index, c.partition? (queryId, stageId) index = some .cancelled →
    (machine.next operation c).partition? (queryId, stageId) index = some .cancelled
  returned : ∀ operation workerId, ¬Operation.Renews operation workerId →
    (machine.next operation c).load workerId ≤ c.load workerId

variable {queryId : QueryId}

theorem cancelled_partition (ok : c.WellFormed) (member : queryId ∈ c.cancelledQueries) {stageId : StageId}
    {index : Nat} {partition : PartitionRuntime}
    (present : c.partition? (queryId, stageId) index = some partition) :
    (∃ task workerId lease, partition = .cancelling task workerId lease) ∨ partition = .cancelled ∨
      ∃ task blocks, partition = .succeeded task blocks := by
  obtain ⟨plan, planned⟩ := plan?_of_partition present
  have known := ok.partitions _ plan index partition planned present
  obtain ⟨stage, stored, rfl⟩ := Option.map_eq_some_iff.mp planned
  have named : queryId = stage.plan.queryId := congrArg Prod.fst (ok.stages _ stage stored).key
  rw [named] at member
  cases partition with
  | pending nextAttempt | active task workerId lease startedAtMs => exact absurd member known.2
  | cancelling task workerId lease => exact .inl ⟨task, workerId, lease, rfl⟩
  | succeeded task blocks => exact .inr (.inr ⟨task, blocks, rfl⟩)
  | failed attempt error retryable => exact absurd member known.2
  | cancelled => exact .inr (.inl rfl)

theorem output_handedOut (ok : c.WellFormed) {operation : Operation} {task : TaskAttemptId}
    (issued : handedOut (machine.output operation c) = some task) :
    task.queryId ∉ c.cancelledQueries := by
  change handedOut ((perform operation).run c).1 = some task at issued
  rcases perform_effect ok operation with ⟨error, failed, _⟩ | effect
  · rw [failed] at issued
    cases issued
  · generalize (perform operation).run c = outcome at effect issued
    obtain ⟨result, c'⟩ := outcome
    cases effect with
    | assigned _ workerId nowMs worker stage assigned lease left called assigns =>
      cases issued
      rw [← begun_cancelledQueries c operation]
      exact assigns.live
    | _ => cases issued

theorem submit_refused (ok : c.WellFormed) {plan : StagePlan}
    (member : plan.queryId ∈ c.cancelledQueries) :
    machine.next (.submitStage plan) c = c ∧
      ∃ error, machine.output (.submitStage plan) c = .error (.error error) := by
  change ((perform (.submitStage plan)).run c).2 = c ∧
    ∃ error, ((perform (.submitStage plan)).run c).1 = .error (.error error)
  rcases perform_effect ok (.submitStage plan) with ⟨error, failed, same⟩ | effect
  · exact ⟨same, error, failed⟩
  · generalize (perform (.submitStage plan)).run c = outcome at effect
    obtain ⟨result, c'⟩ := outcome
    cases effect with
    | rejected _ error => exact ⟨rfl, error, rfl⟩
    | submitted _ accepted => exact absurd member accepted.live
    | idle _ nowMs called =>
      rcases called with called | ⟨workerId, called⟩
      · cases called
      · cases called
    | assigned _ workerId nowMs worker stage task lease left called assigns =>
      rcases called with called | called
      · cases called
      · cases called

theorem final_of_cancelled (ok : c.WellFormed) (member : queryId ∈ c.cancelledQueries) : c.Final queryId where
  unassigned := by
    intro operation task issued same
    exact output_handedOut ok issued (same ▸ member)
  unsubmitted := by
    intro plan same
    exact submit_refused ok (same ▸ member)
  partitions := fun _ _ _ => cancelled_partition ok member
  uncommitted := by
    intro operation stageId index task blocks present
    rcases next_succeeded ok present with before | ⟨_, workerId, lease, startedAtMs, _, _, _, active, _⟩
    · exact before
    · -- An active partition belongs to a query that is not cancelled.
      rcases cancelled_partition ok member active with ⟨_, _, _, same⟩ | same | ⟨_, _, same⟩
      · cases same
      · cases same
      · cases same
  occupies := by
    intro stageId index task workerId lease present
    refine ⟨c.occupied_pos workerId present rfl, ?_⟩
    obtain ⟨plan, planned⟩ := plan?_of_partition present
    have known := ok.partitions _ plan index _ planned present
    obtain ⟨worker, stored, _⟩ := known.holder_alive rfl
    have bound := ok.slots workerId worker stored
    simp only [load, available, stored, Option.elim_some] at bound
    exact ⟨worker, stored, bound⟩
  released := fun operation _ _ _ _ _ present => next_cancelling ok operation present
  ended := fun operation _ _ present => next_cancelled ok operation present
  returned := fun _ _ silent => next_load ok silent

theorem cancelQuery_accepted (ok : c.WellFormed) {reason : String} {reply : Reply}
    (accepted : machine.output (.cancelQuery queryId reason) c = .ok reply) :
    queryId ∈ (machine.next (.cancelQuery queryId reason) c).cancelledQueries ∧
      (machine.next (.cancelQuery queryId reason) c).workers = c.workers ∧
        ∀ key : StageKey, key.1 ≠ queryId →
          (machine.next (.cancelQuery queryId reason) c).stages[key]? = c.stages[key]? := by
  change queryId ∈ ((perform (.cancelQuery queryId reason)).run c).2.cancelledQueries ∧
    ((perform (.cancelQuery queryId reason)).run c).2.workers = c.workers ∧
      ∀ key : StageKey, key.1 ≠ queryId →
        ((perform (.cancelQuery queryId reason)).run c).2.stages[key]? = c.stages[key]?
  change ((perform (.cancelQuery queryId reason)).run c).1 = .ok reply at accepted
  rcases perform_effect ok (.cancelQuery queryId reason) with ⟨error, failed, _⟩ | effect
  · rw [failed] at accepted
    cases accepted
  · generalize (perform (.cancelQuery queryId reason)).run c = outcome at effect accepted
    obtain ⟨result, c'⟩ := outcome
    cases effect with
    | rejected _ error => cases accepted
    | idle _ nowMs called =>
      rcases called with called | ⟨workerId, called⟩
      · cases called
      · cases called
    | assigned _ workerId nowMs worker stage task lease left called assigns =>
      rcases called with called | called
      · cases called
      · cases called
    | recancelled _ _ again => exact ⟨again, rfl, fun _ _ => rfl⟩
    | cancelled _ _ first =>
      refine ⟨(mem_cancelStages queryId reason c queryId).mpr (.inl rfl), rfl, ?_⟩
      intro key other
      change (c.cancelStages queryId reason).stages[key]? = c.stages[key]?
      rw [cancelStages_stages]
      simp [other]

theorem cancellation_final (reachable : c.Reachable) (queryId : QueryId) (reason : String)
    (reply : Reply) (accepted : machine.output (.cancelQuery queryId reason) c = .ok reply) :
    (machine.next (.cancelQuery queryId reason) c).workers = c.workers ∧
    (∀ key : StageKey, key.1 ≠ queryId →
      (machine.next (.cancelQuery queryId reason) c).stages[key]? = c.stages[key]?) ∧
    ∀ operations,
      (machine.exec operations (machine.next (.cancelQuery queryId reason) c)).Final queryId := by
  have ok := reachable.wellFormed
  obtain ⟨member, workers, stages⟩ := cancelQuery_accepted ok accepted
  refine ⟨workers, stages, ?_⟩
  intro operations
  have formed := next_wellFormed ok (.cancelQuery queryId reason)
  have reached : machine.Reaches (machine.next (.cancelQuery queryId reason) c)
    (machine.exec operations (machine.next (.cancelQuery queryId reason) c)) := ⟨operations, rfl⟩
  exact final_of_cancelled (reaches_wellFormed formed reached)
    (reaches_cancelledQueries formed reached member)

end

section

open Sample

theorem cancellation_final_in_flight :
    machine.output (.cancelQuery query "stop") running =
        .ok (.cancellation (.cancelQuery protocolVersion query "stop")) ∧
      (machine.next (.cancelQuery query "stop") running).partition? (query, 0) 0 =
        some (.cancelling (task 0 0) worker ⟨worker, 0, 30000⟩) ∧
      ∀ operations,
        (machine.exec operations (machine.next (.cancelQuery query "stop") running)).Final query :=
  ⟨by decide, by decide, (cancellation_final (after_reachable [.nextAssignment 0]) query "stop"
    (.cancellation (.cancelQuery protocolVersion query "stop")) (by decide)).2.2⟩

end

end Coordinator

end SparkX
