import SparkX.Cluster.LocalCluster.Schedule

set_option autoImplicit false

namespace SparkX.LocalCluster

open Std Coordinator

variable [PhysicalPlanCodec] {count : U32} {planFragment : List UInt8} {c : Coordinator}
variable {running : List (WorkerId × TaskAttemptId)} {completed : List PartitionId}

section

variable {workerId : WorkerId} {task : TaskAttemptId} {lease : TaskLease} {startedAtMs : Option U64}

def settled (c : Coordinator) (workerId : WorkerId) (task : TaskAttemptId) : Coordinator :=
  (c.setPartition (task.queryId, task.stageId) task.partitionId.val
    (.succeeded task [])).releaseWorkerSlot workerId

theorem Working.success (working : Working count planFragment c running completed)
    (active : c.partition? stageKey task.partitionId.val = some (.active task workerId lease startedAtMs)) :
    (handleWorkerMessage (.taskUpdate protocolVersion workerId task (.succeeded 0 [])) 0).run c =
      (.ok (), settled c workerId task) := by
  obtain ⟨key, _, _, worker, registered, _⟩ := working.placed active
  have owns : Owns (.active task workerId lease startedAtMs) task workerId lease := .inr ⟨startedAtMs, rfl⟩
  have valid : (WorkerMessage.taskUpdate protocolVersion workerId task
      (.succeeded 0 [])).validate = .ok () := by
    have query : task.queryId = queryId := congrArg Prod.fst key
    have named : queryId.validate = .ok () := by decide
    have numbered : validateVersion protocolVersion = .ok () := rfl
    simp only [WorkerMessage.validate, TaskState.validateFor, check_ok, query]
    exact ⟨numbered, working.ok.workers workerId worker registered, named, rfl⟩
  have routed : ∀ plan, c.plan? (task.queryId, task.stageId) = some plan →
      checkExchange plan (.succeeded 0 []) = .ok () := by
    intro plan stored
    rw [key, working.planned] at stored
    cases stored
    rfl
  have reported : validateReportedTime "finished" 0 lease 0 = .ok () := by
    obtain ⟨issued, expires⟩ := working.leases _ _ lease active rfl
    have later := Fin.not_le.mpr expires
    simp [validateReportedTime, check_ok, rejectIf_ok, issued, later]
  have present : c.partition? (task.queryId, task.stageId) task.partitionId.val =
      some (.active task workerId lease startedAtMs) := key ▸ active
  have handled := handleWorkerMessage_success working.ok present owns
    (working.not_lapses active owns) valid routed reported
  rw [working.advanced] at handled
  exact handled

theorem Working.settle (working : Working count planFragment c running completed) {next : Nat}
    (joined : running[next]? = some (workerId, task))
    (active : c.partition? stageKey task.partitionId.val = some (.active task workerId lease startedAtMs)) :
    Working count planFragment (settled c workerId task) (running.eraseIdx next)
      (completed ++ [task.partitionId]) := by
  obtain ⟨key, _, owner, worker, registered, alive⟩ := working.placed active
  have present : c.partition? (task.queryId, task.stageId) task.partitionId.val =
      some (.active task workerId lease startedAtMs) := key ▸ active
  obtain ⟨inside, here⟩ := List.getElem?_eq_some_iff.mp joined
  have removed : running.Perm ((workerId, task) :: running.eraseIdx next) := by
    rw [← here]
    exact (List.getElem_cons_eraseIdx_perm inside).symm
  have found (index : Nat) : (settled c workerId task).partition? stageKey index =
      (c.partition? stageKey index).map fun old =>
        if task.partitionId.val = index then .succeeded task [] else old := by
    rw [settled, releaseWorkerSlot_partition, key, partition?_setPartition]
    simp only [true_and]
  have apart : ((running.eraseIdx next).map (·.2.partitionId) ++
      (completed ++ [task.partitionId])).Nodup := by
    have moved : ((running.eraseIdx next).map (·.2.partitionId) ++
        (completed ++ [task.partitionId])).Perm (running.map (·.2.partitionId) ++ completed) := by
      rw [← List.append_assoc]
      refine (List.perm_append_singleton _ _).trans ?_
      exact (removed.map (·.2.partitionId)).symm.append_right completed
    exact moved.nodup_iff.mpr working.apart
  have full (other : WorkerId) : (settled c workerId task).load other = c.load other :=
    c.load_settle_eq other present rfl rfl registered alive
      (Nat.le_of_eq (working.workers workerId worker registered).2.2)
  refine
    { ok := settle_wellFormed working.ok present rfl rfl ?_
      config := by simp [settled, working.config]
      live := by simp [settled, working.live]
      only := ?_
      planned := ?_
      workers := ?_
      leases := ?_
      standing := ?_
      runs := ?_
      done := ?_
      apart := apart }
  · intro plan stored
    rw [key, working.planned] at stored
    cases stored
    exact ⟨⟨congrArg Prod.fst key, congrArg Prod.snd key, rfl⟩, nofun, nofun⟩
  · intro other stage stored
    rw [settled, releaseWorkerSlot_stages, setPartition_stages] at stored
    obtain ⟨before, known, _⟩ := Option.map_eq_some_iff.mp stored
    exact working.only other before known
  · change (settled c workerId task).stages[stageKey]?.map _ = _
    rw [settled, releaseWorkerSlot_stages]
    exact ((sameShape_setPartition c _ _ _).plan stageKey).trans working.planned
  · intro other updated stored
    rw [full]
    rw [settled, releaseWorkerSlot_workers, setPartition_workers] at stored
    obtain ⟨before, known, rfl⟩ := Option.map_eq_some_iff.mp stored
    split
    · rw [releaseSlot_alive, releaseSlot_registration]
      exact working.workers other before known
    · exact working.workers other before known
  · intro index partition granted stored held
    rw [found] at stored
    obtain ⟨old, before, rfl⟩ := Option.map_eq_some_iff.mp stored
    split at held
    · cases held
    · exact working.leases index old granted before held
  · intro index partition stored
    rw [found] at stored
    obtain ⟨old, before, rfl⟩ := Option.map_eq_some_iff.mp stored
    split
    next same => exact ⟨task.partitionId, by simp, same⟩
    next elsewhere =>
      have stood := working.standing index old before
      cases old with
      | active other owner granted started =>
        rcases List.mem_cons.mp (removed.mem_iff.mp stood) with same | kept
        · obtain ⟨rfl, rfl⟩ := Prod.mk.injEq .. ▸ same
          exact absurd (working.placed before).2.1 elsewhere
        · exact kept
      | succeeded other blocks =>
        obtain ⟨partitionId, member, same⟩ := stood
        exact ⟨partitionId, List.mem_append_left _ member, same⟩
      | _ => exact stood
  · intro owner other entry
    obtain ⟨granted, started, known⟩ :=
      working.runs owner other (removed.mem_iff.mpr (List.mem_cons_of_mem _ entry))
    have elsewhere : task.partitionId.val ≠ other.partitionId.val := by
      intro same
      have left : task.partitionId ∈ (running.eraseIdx next).map (·.2.partitionId) :=
        List.mem_map.mpr ⟨(owner, other), entry, (Fin.ext same).symm⟩
      exact (List.nodup_append.mp apart).2.2 _ left _ (by simp) rfl
    exact ⟨granted, started, by rw [found, known, Option.map_some, if_neg elsewhere]⟩
  · intro partitionId member
    rw [found]
    rcases List.mem_append.mp member with earlier | last
    · obtain ⟨other, blocks, known⟩ := working.done partitionId earlier
      rw [known, Option.map_some]
      split
      · exact ⟨task, [], rfl⟩
      · exact ⟨other, blocks, rfl⟩
    · rw [List.mem_singleton.mp last, active, Option.map_some, if_pos rfl]
      exact ⟨task, [], rfl⟩

omit [PhysicalPlanCodec] in
theorem Staffed.settle (staffed : Staffed c) (workerId : WorkerId) (task : TaskAttemptId) :
    Staffed (settled c workerId task) := by
  obtain ⟨other, worker, registered⟩ := staffed
  refine ⟨other, if workerId = other then releaseSlot worker else worker, ?_⟩
  rw [settled, releaseWorkerSlot_workers, setPartition_workers, registered, Option.map_some]

end

theorem schedule_working (fuel : Nat) (working : Working count planFragment c running completed)
    (staffed : Staffed c) (enough : count.val < fuel + running.length + completed.length) :
    ∃ started c', (schedule fuel running).run c = (.ok (some started), c') ∧
      Working count planFragment c' started completed ∧ Staffed c' ∧
        (completed.length < count.val → started ≠ []) := by
  induction fuel generalizing c running with
  | zero =>
    have := working.length_le
    omega
  | succ fuel ih =>
    have cases := nextAssignment_cases working.ok 0
    rw [working.advanced] at cases
    rcases cases with ⟨idle, returned, same⟩ | ⟨overflow, _⟩ |
      ⟨workerId, worker, runtime, task, lease, left, assigns, returned, same⟩
    · have ran : (nextAssignment 0).run c = (.ok none, c) := Prod.ext returned same
      refine ⟨running, c, ?_, working, staffed, working.busy staffed idle⟩
      rw [schedule, Stateful.run_bind_ok ran]
      rfl
    · -- A lease from time zero on does not overflow.
      have fits : Word.checkedAdd 0 c.config.leaseDurationMs = some c.config.leaseDurationMs :=
        Word.checkedAdd_eq_some.mpr (Nat.zero_add _).symm
      rw [fits] at overflow
      cases overflow
    · have ran : (nextAssignment 0).run c = (_, _) := Prod.ext returned same
      have hired : Staffed ((c.setPartition (task.queryId, task.stageId) task.partitionId.val
          (.active task workerId lease none)).setWorker workerId { worker with availableSlots := left }) :=
        ⟨workerId, _, by rw [setWorker_workers, if_pos rfl]⟩
      have left : count.val < fuel + (running ++ [(lease.workerId, task)]).length + completed.length := by
        rw [List.length_append, List.length_singleton]
        omega
      obtain ⟨started, c', later, rest⟩ := ih (working.assign assigns) hired left
      refine ⟨started, c', ?_, rest⟩
      rw [schedule, Stateful.run_bind_ok ran]
      exact later

section

variable {Row : Type} {surroundings : Surroundings Row} {partials : PartitionId → List Row}
variable {transported : PartitionId → List (List Row)}

structure Undisturbed (surroundings : Surroundings Row) (partials : PartitionId → List Row)
    (transported : PartitionId → List (List Row)) : Prop where
  tasks : ∀ partitionId, surroundings.task partitionId = .ok (partials partitionId)
  exchanged : ∀ partitionId,
    surroundings.exchange partitionId (partials partitionId) = .ok (transported partitionId)
  lossless : ∀ partitionId, (transported partitionId).flatten = partials partitionId
  uncancelled : ∀ moment, surroundings.cancelled moment = false
  closed : surroundings.close = .ok ()

def noRunningTasks : SparkXError :=
  .execution "local coordinator has unfinished partitions but no running tasks"

omit [PhysicalPlanCodec] in
theorem Undisturbed.check (quiet : Undisturbed surroundings partials transported) (moment : Nat) :
    checkCancelled (surroundings.cancelled moment) = .ok () := by
  rw [checkCancelled, quiet.uncancelled]
  rfl

theorem round_working {fuel : Nat} (batches : List (List Row))
    (quiet : Undisturbed surroundings partials transported)
    (working : Working count planFragment c running completed) (staffed : Staffed c)
    (enough : count.val < fuel) (unfinished : completed.length < count.val) :
    ∃ later partitionId c', (round surroundings fuel ⟨running, batches, completed⟩).run c =
        (.ok (some ⟨later, batches ++ transported partitionId, completed ++ [partitionId]⟩), c') ∧
      Working count planFragment c' later (completed ++ [partitionId]) ∧ Staffed c' := by
  obtain ⟨started, between, scheduled, busy, hired, some⟩ :=
    schedule_working fuel working staffed (by omega)
  have positive := List.length_pos_iff.mpr (some unfinished)
  have inside : surroundings.pick completed.length % started.length < started.length :=
    Nat.mod_lt _ positive
  have joined := List.getElem?_eq_getElem inside
  generalize started[surroundings.pick completed.length % started.length] = entry at joined
  obtain ⟨workerId, task⟩ := entry
  obtain ⟨lease, startedAtMs, active⟩ := busy.runs workerId task (List.mem_of_getElem? joined)
  have answered : (settleTask workerId task (surroundings.task task.partitionId)).run between =
      (.ok (partials task.partitionId), settled between workerId task) := by
    rw [quiet.tasks, settleTask, Stateful.run_bind_ok (busy.success active)]
    rfl
  refine ⟨_, task.partitionId, _, ?_, busy.settle joined active, hired.settle workerId task⟩
  rw [round, run_check (quiet.check _), Stateful.run_bind_ok scheduled]
  dsimp only
  rw [run_check (okOr_ok.mpr joined)]
  dsimp only
  rw [Stateful.run_bind_ok answered, run_check (quiet.exchanged task.partitionId),
    run_check (quiet.check _)]
  rfl

theorem round_finished {fuel : Nat} (batches : List (List Row))
    (quiet : Undisturbed surroundings partials transported)
    (working : Working count planFragment c running completed) (staffed : Staffed c)
    (enough : count.val < fuel) (finished : completed.length = count.val) :
    ((round surroundings fuel ⟨running, batches, completed⟩).run c).1 = .error (.error noRunningTasks) := by
  obtain ⟨started, between, scheduled, busy, _, _⟩ := schedule_working fuel working staffed (by omega)
  have none : started = [] := by
    have := busy.length_le
    rw [← List.length_eq_zero_iff]
    omega
  subst none
  rw [round, run_check (quiet.check _), Stateful.run_bind_ok scheduled]
  rfl

end

end SparkX.LocalCluster
