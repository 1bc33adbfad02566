import SparkX.Cluster.Coordinator.Safety

set_option autoImplicit false

namespace SparkX

open Std

abbrev History := List (Operation × Except Fault Reply)

def History.issued (history : History) : List TaskAttemptId :=
  history.filterMap fun event => handedOut event.2

def History.attemptsAt (history : History) (place : StageKey × Nat) : List Nat :=
  (history.issued.filter (·.place = place)).map (·.attempt.val)

namespace Coordinator

def Holds (c : Coordinator) (task : TaskAttemptId) (lease : TaskLease) : Prop :=
  ∃ key index partition workerId, c.partition? key index = some partition ∧
    Owns partition task workerId lease

section

variable [PhysicalPlanCodec] {c : Coordinator}

variable {task : TaskAttemptId} {lease : TaskLease}

variable {partition : PartitionRuntime}

theorem owns_place (ok : c.WellFormed) {key : StageKey} {index : Nat} {workerId : WorkerId}
    (present : c.partition? key index = some partition) (owns : Owns partition task workerId lease) :
    task.place = (key, index) := by
  obtain ⟨stage, stored, _⟩ := partition?_eq_some.mp present
  have known := ok.partitions key stage.plan index partition (plan?_of_stage stored) present
  have placed : TaskAt stage.plan index task := by
    rcases owns with rfl | ⟨startedAtMs, rfl⟩
    · exact known.1.placed
    · exact known.1.placed
  rw [TaskAttemptId.place, placed.query, placed.stage, placed.partition,
    ← (ok.stages key stage stored).key]

omit [PhysicalPlanCodec] in
theorem owns_phase {workerId : WorkerId} (owns : Owns partition task workerId lease) :
    partition.phase = .leased task.attempt.val ∨ partition.phase = .stopping task.attempt.val := by
  rcases owns with rfl | ⟨startedAtMs, rfl⟩
  · exact .inr rfl
  · exact .inl rfl

theorem holds_unique (ok : c.WellFormed) {first second : TaskAttemptId}
    {firstLease secondLease : TaskLease} (here : c.Holds first firstLease)
    (there : c.Holds second secondLease) (same : first.place = second.place) :
    first = second ∧ firstLease = secondLease := by
  obtain ⟨key, index, partition, owner, present, owns⟩ := here
  obtain ⟨key', index', partition', owner', present', owns'⟩ := there
  rw [owns_place ok present owns, owns_place ok present' owns'] at same
  obtain ⟨rfl, rfl⟩ := Prod.mk.injEq .. ▸ same
  obtain rfl := Option.some.inj (present.symm.trans present')
  rcases owns with rfl | ⟨started, rfl⟩
  · rcases owns' with equal | ⟨_, equal⟩
    · cases equal
      exact ⟨rfl, rfl⟩
    · cases equal
  · rcases owns' with equal | ⟨_, equal⟩
    · cases equal
    · cases equal
      exact ⟨rfl, rfl⟩

theorem phase_holds (ok : c.WellFormed) {place : StageKey × Nat} {attempt : Nat}
    (leased : c.phase place = .leased attempt ∨ c.phase place = .stopping attempt) :
    ∃ task lease, c.Holds task lease ∧ task.place = place ∧ task.attempt.val = attempt := by
  cases present : c.partition? place.1 place.2 with
  | none => simp [phase, present] at leased
  | some partition =>
    rw [phase_of_partition present] at leased
    cases partition with
    | active task workerId lease startedAtMs =>
      have owns : Owns (.active task workerId lease startedAtMs) task workerId lease :=
        .inr ⟨startedAtMs, rfl⟩
      exact ⟨task, lease, ⟨_, _, _, workerId, present, owns⟩, owns_place ok present owns,
        by simpa [PartitionRuntime.phase] using leased⟩
    | cancelling task workerId lease =>
      have owns : Owns (.cancelling task workerId lease) task workerId lease := .inl rfl
      exact ⟨task, lease, ⟨_, _, _, workerId, present, owns⟩, owns_place ok present owns,
        by simpa [PartitionRuntime.phase] using leased⟩
    | _ => simp [PartitionRuntime.phase] at leased

end

section

theorem attemptsAt_append (history : History) (operation : Operation)
    (result : Except Fault Reply) (place : StageKey × Nat) :
    History.attemptsAt (history ++ [(operation, result)]) place = history.attemptsAt place ++
      ((handedOut result).toList.filter (·.place = place)).map (·.attempt.val) := by
  simp only [History.attemptsAt, History.issued, List.filterMap_append, List.filter_append,
    List.map_append, List.filterMap_cons, List.filterMap_nil]
  cases handedOut result <;> rfl

theorem issued_nodup {history : History} (distinct : ∀ place, (history.attemptsAt place).Nodup) :
    history.issued.Nodup := by
  rw [List.nodup_iff_count_le_one]
  intro task
  have here := List.Nodup.of_map _ (distinct task.place)
  rw [← List.count_filter (p := (·.place = task.place)) (by simp)]
  exact List.nodup_iff_count_le_one.mp here task

variable [PhysicalPlanCodec] {start : Coordinator}

structure Accounted (limit : U32) (history : History) (c : Coordinator) : Prop where
  config : c.config.maxTaskAttempts = limit
  issued : ∀ place, ∃ count, history.attemptsAt place = List.range count ∧ count ≤ limit.val ∧
    (c.phase place).Issued count

theorem accounted_step {limit : U32} {history : History} {c : Coordinator} (ok : c.WellFormed)
    (known : Accounted limit history c) (operation : Operation) :
    Accounted limit (history ++ [(operation, machine.output operation c)])
      (machine.next operation c) := by
  refine ⟨(congrArg _ (next_config ok operation)).trans known.config, ?_⟩
  intro place
  obtain ⟨count, listed, bound, issued⟩ := known.issued place
  rw [attemptsAt_append, listed]
  obtain ⟨between, first, ⟨task, handed, here, pending, leased⟩ | ⟨elsewhere, second⟩⟩ :=
    next_phase ok operation place
  · -- The attempt handed out is the pending one, which the phase says is the next.
    have next : count = task.attempt.val := by
      have counted := first.issued issued
      rw [pending] at counted
      exact counted
    refine ⟨count + 1, ?_, ?_, ?_⟩
    · simp [handed, here, List.range_succ, next]
    · obtain ⟨held, lease, holds, placed, attempt⟩ := phase_holds (next_wellFormed ok operation)
        (.inl leased)
      obtain ⟨key, index, partition, workerId, present, owns⟩ := holds
      obtain ⟨plan, planned⟩ := plan?_of_partition present
      have stored := (next_wellFormed ok operation).partitions key plan index partition planned present
      have small : held.attempt < (machine.next operation c).config.maxTaskAttempts := by
        rcases owns with rfl | ⟨startedAtMs, rfl⟩
        · exact stored.1.attempt
        · exact stored.1.attempt
      rw [next_config ok operation, known.config, Fin.lt_def, attempt] at small
      omega
    · rw [leased, next]
      rfl
  · refine ⟨count, ?_, bound, second.issued (first.issued issued)⟩
    have none : ((handedOut (machine.output operation c)).toList.filter (·.place = place)) = [] := by
      rw [List.filter_eq_nil_iff]
      intro task member
      simpa using elsewhere task (Option.mem_toList.mp member)
    rw [none, List.map_nil, List.append_nil]

variable {config : CoordinatorConfig}

omit [PhysicalPlanCodec] in
theorem new_accounted (created : new config = .ok start) : Accounted config.maxTaskAttempts [] start := by
  obtain ⟨valid, checked, same⟩ := bind_ok.mp created
  obtain ⟨rfl, _, _⟩ := CoordinatorConfig.validate_ok checked
  cases same
  refine ⟨rfl, fun place => ⟨0, rfl, Nat.zero_le _, ?_⟩⟩
  simp [phase, partition?, Phase.Issued]

theorem trace_accounted (created : new config = .ok start) (operations : List Operation) :
    Accounted config.maxTaskAttempts (machine.trace operations start)
      (machine.exec operations start) := by
  apply Machine.trace_induct (fun history c => Accounted config.maxTaskAttempts history c)
  · exact new_accounted created
  · intro history c operation reached known
    exact accounted_step (reaches_wellFormed (new_wellFormed created) reached) known operation

end

section

variable [PhysicalPlanCodec] {c : Coordinator} {version : U16} {workerId : WorkerId}
variable {task : TaskAttemptId} {state : TaskState} {receivedAtMs : U64}

theorem update_accepted (ok : c.WellFormed) {reply : Reply}
    (accepted : machine.output (.workerMessage (.taskUpdate version workerId task state) receivedAtMs) c =
      .ok reply) : (c.advanced receivedAtMs).phase task.place = .leased task.attempt.val ∨
        (c.advanced receivedAtMs).phase task.place = .stopping task.attempt.val := by
  have owned {partition : PartitionRuntime} {lease : TaskLease}
      (reports : (c.advanced receivedAtMs).Reports workerId task state receivedAtMs partition lease) :
      (c.advanced receivedAtMs).phase task.place = .leased task.attempt.val ∨
        (c.advanced receivedAtMs).phase task.place = .stopping task.attempt.val := by
    rw [TaskAttemptId.place, phase_at reports.present]
    exact owns_phase reports.owns
  change ((perform _).run c).1 = .ok reply at accepted
  rcases perform_effect ok _ with ⟨error, failed, _⟩ | effect
  · cases failed.symm.trans accepted
  · rw [accepted] at effect
    generalize ((perform _).run c).2 = reached at effect
    cases effect with
    | acknowledged _ _ _ _ _ _ _ reports => exact owned reports
    | started _ _ _ _ _ _ reports => exact owned reports
    | concluded _ _ _ _ _ _ _ _ reports => exact owned reports
    | idle _ nowMs called =>
      rcases called with called | ⟨_, called⟩
      · cases called
      · cases called
    | assigned _ _ _ _ _ _ _ _ called =>
      rcases called with called | called
      · cases called
      · cases called

theorem stale_update_rejected (version : U16) (workerId : WorkerId) (state : TaskState)
    (receivedAtMs : U64) (ok : c.WellFormed) {attempt : Nat}
    (closed : (c.phase task.place).Closed attempt) (old : task.attempt.val ≤ attempt) :
    ∃ error, machine.output
      (.workerMessage (.taskUpdate version workerId task state) receivedAtMs) c =
        .error (.error error) := by
  have later := (advanced_quiet c receivedAtMs task.place).closed closed
  cases outcome : machine.output
      (.workerMessage (.taskUpdate version workerId task state) receivedAtMs) c with
  | ok reply =>
    rcases update_accepted ok outcome with leased | stopping
    · rw [leased] at later
      exact absurd later (Nat.not_lt.mpr old)
    · rw [stopping] at later
      exact absurd later (Nat.not_lt.mpr old)
  | error fault =>
    obtain ⟨⟨error, rfl⟩, _⟩ := next_of_error ok outcome
    exact ⟨error, rfl⟩

end

section

variable [PhysicalPlanCodec] {start : Coordinator}

theorem attempts_issued_in_order {config : CoordinatorConfig} (created : new config = .ok start)
    (operations : List Operation) :
    (History.issued (machine.trace operations start)).Nodup ∧
    (∀ place, ∃ count, History.attemptsAt (machine.trace operations start) place = List.range count ∧
      count ≤ config.maxTaskAttempts.val) ∧
    (∀ first second firstLease secondLease,
      (machine.exec operations start).Holds first firstLease →
      (machine.exec operations start).Holds second secondLease → first.place = second.place →
        first = second ∧ firstLease = secondLease) ∧
    ∀ place attempt, attempt ∈ History.attemptsAt (machine.trace operations start) place →
      (∀ task lease, (machine.exec operations start).Holds task lease → task.place = place →
        task.attempt.val ≠ attempt) →
      ∀ later version workerId (task : TaskAttemptId) state receivedAtMs, task.place = place →
        task.attempt.val ≤ attempt →
        let c := machine.exec (operations ++ later) start
        let update := Operation.workerMessage (.taskUpdate version workerId task state) receivedAtMs
        (∃ error, machine.output update c = .error (.error error)) ∧
          (machine.next update c = c ∨
            machine.next update c = machine.next (.advanceTime receivedAtMs) c) := by
  have reached : machine.Reaches start (machine.exec operations start) := ⟨operations, rfl⟩
  have ok := reaches_wellFormed (new_wellFormed created) reached
  have known := trace_accounted created operations
  refine ⟨?_, ?_, ?_, ?_⟩
  · apply issued_nodup
    intro place
    obtain ⟨count, listed, _⟩ := known.issued place
    rw [listed]
    exact List.nodup_range
  · intro place
    obtain ⟨count, listed, bound, _⟩ := known.issued place
    exact ⟨count, listed, bound⟩
  · intro first second firstLease secondLease
    exact holds_unique ok
  · intro place attempt handed ended later version workerId task state receivedAtMs here old
    obtain ⟨count, listed, _, issued⟩ := known.issued place
    rw [listed, List.mem_range] at handed
    have free : (machine.exec operations start).phase place ≠ .leased attempt ∧
        (machine.exec operations start).phase place ≠ .stopping attempt := by
      rw [← not_or]
      intro leased
      obtain ⟨held, lease, holds, placed, same⟩ := phase_holds ok leased
      exact ended held lease holds placed same
    have closed := issued.closed handed free
    dsimp only
    rw [Machine.exec_append]
    have onward : machine.Reaches (machine.exec operations start)
        (machine.exec later (machine.exec operations start)) := ⟨later, rfl⟩
    have formed := reaches_wellFormed ok onward
    have still := (reaches_run ok onward place).1.closed closed
    subst here
    obtain ⟨error, refused⟩ := stale_update_rejected version workerId state receivedAtMs formed
      still old
    refine ⟨⟨error, refused⟩, ?_⟩
    rw [next_advanceTime]
    exact (next_of_error formed refused).2

end

section

open Sample

theorem attempts_issued_in_order_after_expiry :
    (History.attemptsAt (machine.trace [.submitStage scanStage, register, .nextAssignment 0,
      .workerMessage (.heartbeat protocolVersion ⟨worker, 0, 0, 0⟩) 15000,
      .workerMessage (.heartbeat protocolVersion ⟨worker, 0, 2, 0⟩) 30000,
      .nextAssignment 30000] start) ((query, 0), 0)) = [0, 1] ∧
    (History.issued (machine.trace [.submitStage scanStage, register, .nextAssignment 0,
      .workerMessage (.heartbeat protocolVersion ⟨worker, 0, 0, 0⟩) 15000,
      .workerMessage (.heartbeat protocolVersion ⟨worker, 0, 2, 0⟩) 30000,
      .nextAssignment 30000] start)).Nodup :=
  ⟨by decide, (attempts_issued_in_order start_created _).1⟩

end

end Coordinator

end SparkX
