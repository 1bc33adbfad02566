import SparkX.Cluster.Coordinator.Refinement

set_option autoImplicit false

namespace SparkX.Coordinator

open Std Stateful

section

variable {c : Coordinator}

theorem PartitionOk.owner {plan : StagePlan} {index : Nat} {partition : PartitionRuntime}
    (ok : PartitionOk c plan index partition) {workerId : WorkerId}
    (held : partition.holder = some workerId) :
    ∃ lease, partition.lease? = some lease ∧ lease.workerId = workerId := by
  cases partition with
  | active task owner lease startedAtMs | cancelling task owner lease =>
    obtain rfl : owner = workerId := Option.some.inj held
    exact ⟨lease, rfl, ok.1.owner⟩
  | _ => cases held

variable [PhysicalPlanCodec]

theorem output_not_panic (ok : c.WellFormed) (operation : Operation) (message : String) :
    machine.output operation c ≠ .error (.panic message) := by
  intro panicked
  change ((perform operation).run c).1 = .error (.panic message) at panicked
  rcases perform_effect ok operation with ⟨error, failed, _⟩ | effect
  · rw [failed] at panicked
    cases panicked
  · rw [panicked] at effect
    cases effect

theorem slots_never_overcommitted (reachable : c.Reachable) :
    (∀ (workerId : WorkerId) worker, c.workers[workerId]? = some worker →
      worker.availableSlots.val + c.occupied workerId ≤ worker.registration.slots.val) ∧
    (∀ key index partition workerId, c.partition? key index = some partition →
      partition.holder = some workerId →
        (∃ worker, c.workers[workerId]? = some worker ∧ worker.alive = true) ∧
          ∃ lease, partition.lease? = some lease ∧ lease.workerId = workerId) ∧
    ∀ operation message, machine.output operation c ≠ .error (.panic message) := by
  have ok := reachable.wellFormed
  refine ⟨?_, ?_, output_not_panic ok⟩
  · intro workerId worker present
    have bound := ok.slots workerId worker present
    simp only [load, available, present, Option.elim_some] at bound
    exact bound
  · intro key index partition workerId present held
    obtain ⟨plan, planned⟩ := plan?_of_partition present
    have known := ok.partitions key plan index partition planned present
    exact ⟨known.holder_alive held, known.owner held⟩

end

section

open Sample

theorem slots_never_overcommitted_one_lease :
    (after [.nextAssignment 0]).occupied worker = 1 ∧
      ((after [.nextAssignment 0]).workers[worker]?).map (·.availableSlots) = some 1 ∧
        ∀ operation message,
          machine.output operation (after [.nextAssignment 0]) ≠ .error (.panic message) :=
  ⟨by decide, by decide, (slots_never_overcommitted (after_reachable [.nextAssignment 0])).2.2⟩

end

def lateUpdate : SparkXError := coordinatorError "task update arrived after its lease expired"

def unregistered (workerId : WorkerId) : SparkXError :=
  coordinatorError s!"unregistered worker {workerId.value} requested an assignment"

section

theorem coordinatorError_injective {first second : String}
    (same : coordinatorError first = coordinatorError second) : first = second := by
  have texts := congrArg String.toList (SparkXError.protocol.inj same)
  simp only [String.toList_append, Text.toString_text, List.append_cancel_left_eq] at texts
  exact String.toList_injective texts

theorem coordinatorError_ne_late {message : String} (position : Nat)
    (differs : message.toList[position]? ≠
      "task update arrived after its lease expired".toList[position]?) :
    coordinatorError message ≠ lateUpdate := by
  intro same
  rw [coordinatorError_injective same] at differs
  exact differs rfl

theorem protocolError_ne_late (message : String) : protocolError message ≠ lateUpdate := by
  intro same
  have letters := congrArg (fun text : String => text.toList[8]?) (SparkXError.protocol.inj same)
  simp [String.toList_append, Text.toString_text] at letters

variable {c : Coordinator} {workerId : WorkerId} {task : TaskAttemptId} {state : TaskState}
variable {receivedAtMs : U64}

def NeverLate (x : Stateful Fault Coordinator Unit) (c : Coordinator) : Prop :=
  x.Yields c fun result _ => result ≠ .error (.error lateUpdate)

theorem NeverLate.check {α : Type} {check : Except SparkXError α}
    {rest : α → Stateful Fault Coordinator Unit}
    (failed : ∀ error, check = .error error → error ≠ lateUpdate)
    (passed : ∀ value, check = .ok value → NeverLate (rest value) c) :
    NeverLate (liftM check >>= rest) c := by
  refine yields_check (fun error refused same => ?_) passed
  exact failed error refused (Fault.error.inj (Except.error.inj same))

theorem NeverLate.guard {condition : Prop} [Decidable condition] {error : SparkXError}
    {rest : Unit → Stateful Fault Coordinator Unit} (other : error ≠ lateUpdate)
    (passed : ¬condition → NeverLate (rest ()) c) :
    NeverLate (liftM (rejectIf condition error) >>= rest) c := by
  apply NeverLate.check
  · intro found refused
    rw [← (rejectIf_error.mp refused).2]
    exact other
  · exact fun _ accepted => passed (rejectIf_ok.mp accepted)

theorem NeverLate.last {check : Except SparkXError Unit}
    (failed : ∀ error, check = .error error → error ≠ lateUpdate) : NeverLate (liftM check) c := by
  refine yields_last_check (fun error refused same => ?_) fun _ _ => nofun
  exact failed error refused (Fault.error.inj (Except.error.inj same))

theorem checks_ne_late {α : Type} {check : Except SparkXError α} (checked : Checks check)
    (error : SparkXError) (failed : check = .error error) : error ≠ lateUpdate := by
  obtain ⟨message, rfl⟩ := checked error failed
  exact protocolError_ne_late message

variable {lease : TaskLease}

theorem validateReportedTime_ne_late {event : String} {timestampMs : U64}
    (known : event = "started" ∨ event = "finished") (error : SparkXError)
    (failed : validateReportedTime event timestampMs lease receivedAtMs = .error error) :
    error ≠ lateUpdate := by
  simp only [validateReportedTime, bind_error, rejectIf_error] at failed
  rcases failed with ⟨_, rfl⟩ | ⟨_, _, ⟨_, rfl⟩ | ⟨_, _, _, rfl⟩⟩
  · rcases known with rfl | rfl <;> decide
  · rcases known with rfl | rfl <;> decide
  · rcases known with rfl | rfl <;> decide

theorem checkExchange_ne_late {plan : StagePlan} (error : SparkXError)
    (failed : checkExchange plan state = .error error) : error ≠ lateUpdate := by
  simp only [checkExchange] at failed
  split at failed
  · rw [← (rejectIf_error.mp failed).2]
    decide
  · cases failed

theorem okOr_ne_late {α : Type} {value : Option α} {refusal : SparkXError}
    (other : refusal ≠ lateUpdate) (error : SparkXError) (failed : okOr value refusal = .error error) :
    error ≠ lateUpdate := by
  cases value with
  | some found => cases failed
  | none =>
    cases failed
    exact other

theorem registerWorker_never_late (registration : WorkerRegistration) :
    NeverLate (registerWorker registration receivedAtMs) c := by
  rw [registerWorker]
  apply Yields.get
  apply NeverLate.guard
  · apply coordinatorError_ne_late 0
    simp [String.toList_append, Text.toString_text]
  · rintro _ ⟨⟩

theorem recordHeartbeat_never_late (report : WorkerHeartbeat) :
    NeverLate (recordHeartbeat report receivedAtMs) c := by
  rw [recordHeartbeat]
  apply Yields.get
  apply NeverLate.check
  · apply okOr_ne_late
    apply coordinatorError_ne_late 0
    simp [String.toList_append, Text.toString_text]
  intro worker _
  apply NeverLate.guard
  · apply coordinatorError_ne_late 0
    simp [String.toList_append, Text.toString_text]
  intro _
  apply NeverLate.guard
  · apply coordinatorError_ne_late 0
    simp [String.toList_append, Text.toString_text]
  intro _
  apply NeverLate.guard
  · apply coordinatorError_ne_late 0
    simp [String.toList_append, Text.toString_text]
  · rintro _ ⟨⟩

theorem recordCancellingUpdate_never_late {cancellingTask : TaskAttemptId} {assignedWorker : WorkerId} :
    NeverLate (recordCancellingUpdate workerId task state receivedAtMs cancellingTask assignedWorker
      lease) c := by
  unfold recordCancellingUpdate
  apply NeverLate.guard (by decide)
  intro _
  apply NeverLate.guard (by decide)
  intro _
  cases state with
  | running startedAtMs => exact NeverLate.last (validateReportedTime_ne_late (.inl rfl))
  | succeeded finishedAtMs outputBlocks | failed finishedAtMs error retryable | cancelled finishedAtMs reason =>
    exact NeverLate.check (validateReportedTime_ne_late (.inr rfl)) fun _ _ => nofun

theorem recordActiveUpdate_never_late {activeTask : TaskAttemptId} {assignedWorker : WorkerId}
    {startedAtMs : Option U64} (timely : receivedAtMs < lease.expiresAtMs) :
    NeverLate (recordActiveUpdate workerId task state receivedAtMs activeTask assignedWorker lease
      startedAtMs) c := by
  unfold recordActiveUpdate
  apply NeverLate.guard (by decide)
  intro _
  apply NeverLate.guard (by decide)
  intro _
  -- The one check with this text: `advance_time` has already retired every lease it refuses.
  apply NeverLate.check
  · intro error refused
    exact absurd (rejectIf_error.mp refused).1 (Fin.not_le.mpr timely)
  intro _ _
  cases state with
  | running reportedStart =>
    apply NeverLate.check (validateReportedTime_ne_late (.inl rfl))
    intro _ _
    cases startedAtMs with
    | none => exact nofun
    | some existingStart =>
      apply NeverLate.last
      intro error refused
      rw [← (rejectIf_error.mp refused).2]
      decide
  | succeeded finishedAtMs outputBlocks | failed finishedAtMs error retryable | cancelled finishedAtMs reason =>
    exact NeverLate.check (validateReportedTime_ne_late (.inr rfl)) fun _ _ => nofun

theorem recordTaskUpdate_never_late [PhysicalPlanCodec] (ok : c.WellFormed)
    (current : c.Current receivedAtMs) :
    NeverLate (recordTaskUpdate workerId task state receivedAtMs) c := by
  rw [recordTaskUpdate]
  apply Yields.get
  apply NeverLate.guard
  · apply coordinatorError_ne_late 12
    simp [String.toList_append, Text.toString_text]
  intro _
  apply NeverLate.check
  · apply okOr_ne_late
    rintro ⟨⟩
  intro stage found
  have planned := okOr_ok.mp found
  apply NeverLate.check (checks_ne_late (task.checks_validateFor stage.plan))
  intro _ placed
  have inside : task.partitionId.val < stage.partitions.length := by
    rw [(ok.stages _ stage planned).width]
    exact (TaskAttemptId.validateFor_ok.mp placed).2.2.2
  have position := List.getElem?_eq_getElem inside
  have present := (partition?_of_stage planned task.partitionId.val).trans position
  apply yields_expect position
  apply NeverLate.guard
  · rintro ⟨⟩
  intro _
  apply NeverLate.check checkExchange_ne_late
  intro _ _
  apply NeverLate.check
  · apply okOr_ne_late
    apply coordinatorError_ne_late 5
    simp [String.toList_append, Text.toString_text]
  intro partition again
  obtain rfl := Option.some.inj (position.symm.trans (okOr_ok.mp again))
  generalize stage.partitions[task.partitionId.val] = partition at present
  cases partition with
  | cancelling cancellingTask assignedWorker lease => exact recordCancellingUpdate_never_late
  | active activeTask assignedWorker lease startedAtMs =>
    exact recordActiveUpdate_never_late (current _ _ _ _ present rfl)
  | _ =>
    intro same
    exact absurd (Fault.error.inj (Except.error.inj same)) (by decide)

theorem handleWorkerMessage_never_late [PhysicalPlanCodec] (ok : c.WellFormed)
    (message : WorkerMessage) (receivedAtMs : U64) :
    NeverLate (handleWorkerMessage message receivedAtMs) c := by
  unfold handleWorkerMessage
  apply NeverLate.check (checks_ne_late message.checks_validate)
  intro _ _
  apply yields_advance
  cases message with
  | register version registration => exact registerWorker_never_late registration
  | heartbeat version report => exact recordHeartbeat_never_late report
  | taskUpdate version workerId task state =>
    exact recordTaskUpdate_never_late (advanced_wellFormed receivedAtMs ok)
      (advanced_current c receivedAtMs)

end

section

variable [PhysicalPlanCodec] {c : Coordinator}

theorem nextAssignment_error (ok : c.WellFormed) (nowMs : U64) :
    (nextAssignment nowMs).Yields c fun result _ =>
      ∀ fault, result = .error fault → fault = .error leaseOverflow := by
  apply (nextAssignment_cases ok nowMs).mono
  rintro result c' (⟨_, rfl, _⟩ | ⟨_, rfl, _⟩ | ⟨_, _, _, _, _, _, _, rfl, _⟩) fault refused
  · cases refused
  · exact (Except.error.inj refused).symm
  · cases refused

theorem nextAssignmentFor_error (ok : c.WellFormed) (workerId : WorkerId) (nowMs : U64) :
    (nextAssignmentFor workerId nowMs).Yields c fun result _ =>
      ∀ fault, result = .error fault →
        fault = .error leaseOverflow ∨ fault = .error (unregistered workerId) := by
  rw [nextAssignmentFor]
  apply yields_advance
  apply Yields.get
  apply yields_check
  · intro error missing fault refused
    cases refused
    cases present : (c.advanced nowMs).workers[workerId]? with
    | some worker =>
      rw [present] at missing
      cases missing
    | none =>
      rw [present] at missing
      cases missing
      exact .inr rfl
  intro worker found
  have present := okOr_ok.mp found
  split
  next => rintro _ ⟨⟩
  next usable =>
    simp only [Bool.or_eq_true, Bool.not_eq_true', decide_eq_true_eq, not_or, Bool.not_eq_false] at usable
    exact (assignToWorker_error (advanced_wellFormed nowMs ok) present usable.1
      (Fin.pos_iff_ne_zero.mpr usable.2)).mono fun _ _ only fault refused => .inl (only fault refused)

theorem next_of_error (ok : c.WellFormed) {operation : Operation} {fault : Fault}
    (failed : machine.output operation c = .error fault) :
    (∃ error, fault = .error error) ∧
      (machine.next operation c = c ∨ machine.next operation c = c.begun operation) := by
  change ((perform operation).run c).1 = .error fault at failed
  rcases perform_effect ok operation with ⟨error, refused, same⟩ | effect
  · exact ⟨⟨error, (Except.error.inj (refused.symm.trans failed)).symm⟩, .inl same⟩
  · rw [failed] at effect
    generalize reached : ((perform operation).run c).2 = c' at effect
    cases effect with
    | rejected _ error => exact ⟨⟨error, rfl⟩, .inr reached⟩

theorem errors_change_nothing_but_time (reachable : c.Reachable) {operation : Operation}
    {fault : Fault} (failed : machine.output operation c = .error fault) :
    (∃ error, fault = .error error) ∧
    (machine.next operation c = c ∨ ∃ nowMs, operation.time = some nowMs ∧
      machine.next operation c = machine.next (.advanceTime nowMs) c) ∧
    (∀ nowMs, operation = .nextAssignment nowMs → fault = .error leaseOverflow) ∧
    (∀ workerId nowMs, operation = .nextAssignmentFor workerId nowMs →
      fault = .error leaseOverflow ∨ fault = .error (unregistered workerId)) ∧
    (∀ message receivedAtMs, operation = .workerMessage message receivedAtMs →
      fault ≠ .error lateUpdate) := by
  have ok := reachable.wellFormed
  obtain ⟨returned, state⟩ := next_of_error ok failed
  change ((perform operation).run c).1 = .error fault at failed
  refine ⟨returned, ?_, ?_, ?_, ?_⟩
  · rcases state with same | advanced
    · exact .inl same
    · cases timed : operation.time with
      | none =>
        rw [begun, timed] at advanced
        exact .inl advanced
      | some nowMs =>
        rw [begun, timed] at advanced
        exact .inr ⟨nowMs, rfl, advanced.trans (next_advanceTime c nowMs).symm⟩
  · rintro nowMs rfl
    have only : (perform (.nextAssignment nowMs)).Yields c fun result _ =>
        ∀ fault, result = .error fault → fault = .error leaseOverflow :=
      ((nextAssignment_error ok nowMs).mono fun _ _ known fault refused =>
        known fault (map_eq_error.mp refused)).map
    exact only fault failed
  · rintro workerId nowMs rfl
    have only : (perform (.nextAssignmentFor workerId nowMs)).Yields c fun result _ =>
        ∀ fault, result = .error fault →
          fault = .error leaseOverflow ∨ fault = .error (unregistered workerId) :=
      ((nextAssignmentFor_error ok workerId nowMs).mono fun _ _ known fault refused =>
        known fault (map_eq_error.mp refused)).map
    exact only fault failed
  · rintro message receivedAtMs rfl late
    have never : (perform (.workerMessage message receivedAtMs)).Yields c fun result _ =>
        result ≠ .error (.error lateUpdate) :=
      ((handleWorkerMessage_never_late ok message receivedAtMs).mono fun _ _ known refused =>
        known (map_eq_error.mp refused)).map
    exact never (late ▸ failed)

end

section

open Sample

def endOfTime : Coordinator :=
  after [.workerMessage (.heartbeat protocolVersion ⟨worker, 0, 2, 1024⟩) Word.maxValue]

theorem endOfTime_overflows :
    machine.output (.nextAssignment Word.maxValue) endOfTime = .error (.error leaseOverflow) := by
  rfl

theorem errors_change_nothing_but_time_overflow :
    machine.output (.nextAssignment Word.maxValue) endOfTime = .error (.error leaseOverflow) ∧
      (machine.next (.nextAssignment Word.maxValue) endOfTime = endOfTime ∨
        ∃ nowMs, (Operation.nextAssignment Word.maxValue).time = some nowMs ∧
          machine.next (.nextAssignment Word.maxValue) endOfTime =
            machine.next (.advanceTime nowMs) endOfTime) :=
  ⟨endOfTime_overflows,
    (errors_change_nothing_but_time (after_reachable _) endOfTime_overflows).2.1⟩

end

end SparkX.Coordinator
