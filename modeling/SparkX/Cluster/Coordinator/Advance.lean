import SparkX.Cluster.Coordinator.Table

set_option autoImplicit false

namespace SparkX.Coordinator

open Std

def silenced (worker : WorkerRuntime) : WorkerRuntime :=
  { worker with alive := false, availableSlots := 0, availableMemoryBytes := 0 }

def silence (c : Coordinator) (workerId : WorkerId) : Coordinator :=
  match c.workers[workerId]? with
  | some worker => c.setWorker workerId (silenced worker)
  | none => c

def retire (c : Coordinator) (expired : ExpiredTask) : Coordinator :=
  let c := if expired.workerTimedOut then c else c.releaseWorkerSlot expired.workerId
  c.setPartition expired.stageKey expired.partitionIndex (expired.replacement c.config.maxTaskAttempts)

section

variable (c : Coordinator) (workerIds : List WorkerId)

theorem silence_workers (workerId other : WorkerId) : (c.silence workerId).workers[other]? =
      (c.workers[other]?).map fun worker => if workerId = other then silenced worker else worker := by
  cases present : c.workers[workerId]? with
  | none =>
    by_cases same : workerId = other
    · subst same
      simp [silence, present]
    · simp [silence, present, same]
  | some worker =>
    by_cases same : workerId = other
    · subst same
      simp [silence, present, setWorker_workers]
    · simp [silence, present, setWorker_workers, same]

theorem silence_rest (workerId : WorkerId) :
    (c.silence workerId).config = c.config ∧ (c.silence workerId).stages = c.stages ∧
      (c.silence workerId).cancelledQueries = c.cancelledQueries := by
  simp only [silence]
  split <;> exact ⟨rfl, rfl, rfl⟩

theorem foldl_silence_workers (other : WorkerId) : (workerIds.foldl silence c).workers[other]? =
      (c.workers[other]?).map fun worker =>
        if other ∈ workerIds then silenced worker else worker := by
  induction workerIds generalizing c with
  | nil => simp
  | cons workerId rest ih =>
    rw [List.foldl_cons, ih, silence_workers]
    cases c.workers[other]? with
    | none => rfl
    | some worker =>
      by_cases here : workerId = other
      · by_cases later : other ∈ rest
        · simp [here, later, silenced]
        · simp [here, later]
      · simp [here, Ne.symm here]

theorem foldl_silence_rest :
    (workerIds.foldl silence c).config = c.config ∧ (workerIds.foldl silence c).stages = c.stages ∧
      (workerIds.foldl silence c).cancelledQueries = c.cancelledQueries := by
  induction workerIds generalizing c with
  | nil => exact ⟨rfl, rfl, rfl⟩
  | cons workerId rest ih =>
    obtain ⟨config, stages, cancelled⟩ := ih (c.silence workerId)
    obtain ⟨config', stages', cancelled'⟩ := c.silence_rest workerId
    exact ⟨config.trans config', stages.trans stages', cancelled.trans cancelled'⟩

theorem load_silence (workerId other : WorkerId) : (c.silence workerId).load other ≤ c.load other := by
  cases present : c.workers[workerId]? with
  | none => simp [silence, present]
  | some worker =>
    simp only [silence, present]
    exact c.load_setWorker other present (Fin.zero_le _)

theorem load_foldl_silence (other : WorkerId) : (workerIds.foldl silence c).load other ≤ c.load other := by
  induction workerIds generalizing c with
  | nil => exact Nat.le_refl _
  | cons workerId rest ih => exact (ih (c.silence workerId)).trans (c.load_silence workerId other)

theorem markTimedOut_run (present : ∀ workerId ∈ workerIds, workerId ∈ c.workers) :
    (workerIds.forM markTimedOut).run c = (.ok (), workerIds.foldl silence c) := by
  apply Stateful.run_forM markTimedOut silence (fun rest c => ∀ workerId ∈ rest, workerId ∈ c.workers)
  · intro workerId rest c present
    obtain ⟨worker, found⟩ := TreeMap.isSome_getElem?_iff_mem.mpr (present workerId (by simp)) |>
      Option.isSome_iff_exists.mp
    constructor
    · simp only [markTimedOut, Stateful.run_bind_get, run_expect, found, silence]
      rfl
    · intro other member
      have listed := present other (by simp [member])
      rw [← TreeMap.isSome_getElem?_iff_mem] at listed ⊢
      rw [silence_workers, Option.isSome_map]
      exact listed
  · exact present

end

theorem releaseWorkerSlot_setPartition (c : Coordinator) (workerId : WorkerId) (key : StageKey)
    (index : Nat) (partition : PartitionRuntime) :
    (c.releaseWorkerSlot workerId).setPartition key index partition =
      (c.setPartition key index partition).releaseWorkerSlot workerId := by
  cases stage : c.stages[key]? <;> cases present : c.workers[workerId]? with
  | none => simp [setPartition, releaseWorkerSlot, stage, present]
  | some worker =>
    cases alive : worker.alive <;>
      simp [setPartition, releaseWorkerSlot, setWorker, stage, present, alive]

section

variable (c : Coordinator) (expired : ExpiredTask)

def ExpiredTask.position : StageKey × Nat := (expired.stageKey, expired.partitionIndex)

theorem retire_eq : c.retire expired =
      let replaced := c.setPartition expired.stageKey expired.partitionIndex
        (expired.replacement c.config.maxTaskAttempts)
      if expired.workerTimedOut then replaced else replaced.releaseWorkerSlot expired.workerId := by
  cases silent : expired.workerTimedOut with
  | true => simp [retire, silent]
  | false => simp [retire, silent, releaseWorkerSlot_setPartition]

@[simp] theorem retire_config : (c.retire expired).config = c.config := by
  rw [retire_eq]
  dsimp only
  split <;> simp

@[simp] theorem retire_cancelledQueries :
    (c.retire expired).cancelledQueries = c.cancelledQueries := by
  rw [retire_eq]
  dsimp only
  split <;> simp

theorem retire_stages : (c.retire expired).stages = (c.setPartition expired.stageKey expired.partitionIndex
      (expired.replacement c.config.maxTaskAttempts)).stages := by
  rw [retire_eq]
  dsimp only
  split <;> simp

theorem retire_partition (key : StageKey) (index : Nat) :
    (c.retire expired).partition? key index = (c.partition? key index).map fun old =>
      if expired.position = (key, index) then expired.replacement c.config.maxTaskAttempts
      else old := by
  have replaced := c.partition?_setPartition expired.stageKey key expired.partitionIndex index
    (expired.replacement c.config.maxTaskAttempts)
  simp only [partition?, retire_stages] at replaced ⊢
  simpa only [ExpiredTask.position, Prod.mk.injEq] using replaced

theorem retire_workers (workerId : WorkerId) :
    (c.retire expired).workers[workerId]? = (c.workers[workerId]?).map fun worker =>
      if ¬expired.workerTimedOut ∧ expired.workerId = workerId then releaseSlot worker
      else worker := by
  rw [retire_eq]
  cases silent : expired.workerTimedOut with
  | true => simp
  | false => simp [releaseWorkerSlot_workers]

theorem load_retire {old : PartitionRuntime} (workerId : WorkerId)
    (present : c.partition? expired.stageKey expired.partitionIndex = some old)
    (leased : old.holder = some expired.workerId)
    (ended : (expired.replacement c.config.maxTaskAttempts).holder = none) :
    (c.retire expired).load workerId ≤ c.load workerId := by
  rw [retire_eq]
  cases expired.workerTimedOut with
  | false => exact c.load_settle workerId present leased ended
  | true =>
    have counted := c.occupied_setPartition workerId present (expired.replacement c.config.maxTaskAttempts)
    have now : leasedTo workerId (expired.replacement c.config.maxTaskAttempts) = false := by
      simp [leasedTo, ended]
    simp only [now, Bool.toNat_false] at counted
    simp only [if_true, load, available, setPartition_workers]
    omega

end

theorem retryOrFail_holder (maxTaskAttempts attempt : U32) (error : String) :
    (retryOrFail maxTaskAttempts attempt error).holder = none := by
  simp only [retryOrFail]
  split <;> rfl

theorem replacement_holder (maxTaskAttempts : U32) (expired : ExpiredTask) :
    (expired.replacement maxTaskAttempts).holder = none := by
  simp only [ExpiredTask.replacement]
  split
  · rfl
  · exact retryOrFail_holder _ _ _

variable {key : StageKey} {index : Nat} {worker : WorkerRuntime}

section

variable (c : Coordinator) (tasks : List ExpiredTask)

def Leased : Prop :=
  ∀ expired ∈ tasks, ∃ old, c.partition? expired.stageKey expired.partitionIndex = some old ∧
    old.holder = some expired.workerId

def Separate : Prop := tasks.Pairwise fun first second => first.position ≠ second.position

variable {c tasks}

theorem Leased.retire {expired : ExpiredTask} {rest : List ExpiredTask}
    (leased : c.Leased (expired :: rest)) (separate : Separate (expired :: rest)) :
    (c.retire expired).Leased rest := by
  intro other member
  obtain ⟨old, present, held⟩ := leased other (List.mem_cons_of_mem _ member)
  refine ⟨old, ?_, held⟩
  have apart : expired.position ≠ (other.stageKey, other.partitionIndex) :=
    (List.pairwise_cons.mp separate).1 other member
  rw [retire_partition, present, Option.map_some, if_neg apart]

theorem retireExpired_run (leased : c.Leased tasks) (separate : Separate tasks) :
    (tasks.forM retireExpired).run c = (.ok (), tasks.foldl retire c) := by
  apply Stateful.run_forM retireExpired retire (fun rest c => c.Leased rest ∧ Separate rest)
  · intro expired rest c able
    refine ⟨?_, able.1.retire able.2, (List.pairwise_cons.mp able.2).2⟩
    obtain ⟨old, present, _⟩ := able.1 expired (by simp)
    obtain ⟨stage, found, here⟩ := partition?_eq_some.mp present
    cases silent : expired.workerTimedOut with
    | true =>
      simp only [retireExpired, silent, Bool.not_true, Bool.false_eq_true, if_false,
        Stateful.run_bind_get, run_expect, found, here, retire]
      rfl
    | false =>
      simp only [retireExpired, silent, Bool.not_false, if_true, Stateful.run_bind_modify,
        Stateful.run_bind_get, run_expect, releaseWorkerSlot_stages, found, here, retire]
      rfl
  · exact ⟨leased, separate⟩

theorem foldl_retire_config : (tasks.foldl retire c).config = c.config := by
  induction tasks generalizing c with
  | nil => rfl
  | cons expired rest ih => exact ih.trans (c.retire_config expired)

theorem foldl_retire_cancelledQueries : (tasks.foldl retire c).cancelledQueries = c.cancelledQueries := by
  induction tasks generalizing c with
  | nil => rfl
  | cons expired rest ih => exact ih.trans (c.retire_cancelledQueries expired)

theorem foldl_retire_plan (key : StageKey) :
    (tasks.foldl retire c).stages[key]?.map (·.plan) = c.stages[key]?.map (·.plan) := by
  induction tasks generalizing c with
  | nil => rfl
  | cons expired rest ih =>
    rw [List.foldl_cons, ih, retire_stages, setPartition_stages, Option.map_map]
    congr 1
    funext stage
    simp only [Function.comp_apply]
    split <;> rfl

theorem foldl_retire_elsewhere (apart : ∀ expired ∈ tasks, expired.position ≠ (key, index)) :
    (tasks.foldl retire c).partition? key index = c.partition? key index := by
  induction tasks generalizing c with
  | nil => rfl
  | cons expired rest ih =>
    rw [List.foldl_cons, ih fun other member => apart other (List.mem_cons_of_mem _ member),
      retire_partition]
    simp [apart expired (by simp)]

theorem foldl_retire_here {expired : ExpiredTask} (member : expired ∈ tasks)
    (leased : c.Leased tasks) (separate : Separate tasks) :
    (tasks.foldl retire c).partition? expired.stageKey expired.partitionIndex =
      some (expired.replacement c.config.maxTaskAttempts) := by
  induction tasks generalizing c with
  | nil => cases member
  | cons first rest ih =>
    have later := List.pairwise_cons.mp separate
    rcases List.mem_cons.mp member with here | elsewhere
    · subst here
      obtain ⟨old, present, _⟩ := leased expired (by simp)
      rw [List.foldl_cons, foldl_retire_elsewhere fun other known same => later.1 other known same.symm,
        retire_partition, present]
      simp [ExpiredTask.position]
    · rw [List.foldl_cons, ih elsewhere (leased.retire separate) later.2, retire_config]

theorem load_foldl_retire (leased : c.Leased tasks) (separate : Separate tasks)
    (workerId : WorkerId) : (tasks.foldl retire c).load workerId ≤ c.load workerId := by
  induction tasks generalizing c with
  | nil => exact Nat.le_refl _
  | cons expired rest ih =>
    obtain ⟨old, present, held⟩ := leased expired (by simp)
    have here := c.load_retire expired workerId present held (replacement_holder _ _)
    exact (ih (leased.retire separate) (List.pairwise_cons.mp separate).2).trans here

theorem foldl_retire_worker {workerId : WorkerId} (present : c.workers[workerId]? = some worker) :
    ∃ availableSlots, (tasks.foldl retire c).workers[workerId]? = some { worker with availableSlots } := by
  induction tasks generalizing c worker with
  | nil => exact ⟨worker.availableSlots, present⟩
  | cons expired rest ih =>
    have here := c.retire_workers expired workerId
    rw [present, Option.map_some] at here
    obtain ⟨availableSlots, found⟩ := ih here
    refine ⟨availableSlots, found.trans ?_⟩
    congr 1
    split
    · simp only [releaseSlot]
      split <;> rfl
    · rfl

theorem foldl_retire_no_worker {workerId : WorkerId} (absent : c.workers[workerId]? = none) :
    (tasks.foldl retire c).workers[workerId]? = none := by
  induction tasks generalizing c with
  | nil => exact absent
  | cons expired rest ih =>
    apply ih
    rw [retire_workers, absent, Option.map_none]

end

variable {partition : PartitionRuntime}

section

variable {c : Coordinator} {timedOut : List WorkerId} {nowMs : U64}

theorem expiredTask_some {expired : ExpiredTask}
    (found : expiredTask timedOut nowMs key (partition, index) = some expired) :
    expired.stageKey = key ∧ expired.partitionIndex = index ∧ partition.holder = some expired.workerId := by
  cases partition with
  | active task workerId lease startedAtMs | cancelling task workerId lease =>
    simp only [expiredTask, expiredTask.expire, Option.ite_none_right_eq_some, Option.some.injEq] at found
    rw [← found.2]
    exact ⟨rfl, rfl, rfl⟩
  | _ => simp [expiredTask] at found

theorem mem_expiredTasks {expired : ExpiredTask} :
    expired ∈ c.expiredTasks timedOut nowMs ↔
      ∃ partition, c.partition? expired.stageKey expired.partitionIndex = some partition ∧
        expiredTask timedOut nowMs expired.stageKey (partition, expired.partitionIndex) =
          some expired := by
  simp only [expiredTasks, List.mem_flatMap, List.mem_filterMap]
  constructor
  · rintro ⟨⟨key, stage⟩, listed, ⟨partition, index⟩, position, found⟩
    obtain ⟨rfl, rfl, _⟩ := expiredTask_some found
    refine ⟨partition, partition?_eq_some.mpr ⟨stage, OrderedMap.mem_toList.mp listed, ?_⟩, found⟩
    exact List.mem_zipIdx_iff_getElem?.mp position
  · rintro ⟨partition, present, found⟩
    obtain ⟨stage, listed, position⟩ := partition?_eq_some.mp present
    refine ⟨(expired.stageKey, stage), OrderedMap.mem_toList.mpr listed,
      (partition, expired.partitionIndex), ?_, found⟩
    exact List.mem_zipIdx_iff_getElem?.mpr position

theorem expiredTasks_leased : c.Leased (c.expiredTasks timedOut nowMs) := by
  intro expired member
  obtain ⟨partition, present, found⟩ := mem_expiredTasks.mp member
  exact ⟨partition, present, (expiredTask_some found).2.2⟩

theorem expiredTasks_separate : Separate (c.expiredTasks timedOut nowMs) := by
  refine List.pairwise_flatMap.mpr ⟨?_, ?_⟩
  · rintro ⟨key, stage⟩ _
    rw [List.pairwise_filterMap]
    have indices : (stage.partitions.zipIdx.map Prod.snd).Nodup := by
      rw [List.zipIdx_map_snd]
      exact List.nodup_range'
    refine (List.pairwise_map.mp indices).imp ?_
    rintro ⟨partition, index⟩ ⟨other, position⟩ apart first found second found' same
    obtain ⟨_, here, _⟩ := expiredTask_some found
    obtain ⟨_, there, _⟩ := expiredTask_some found'
    apply apart
    change index = position
    rw [← here, ← there]
    exact congrArg Prod.snd same
  · refine TreeMap.distinct_keys_toList.imp ?_
    rintro ⟨key, stage⟩ ⟨other, stage'⟩ apart first member second member' same
    obtain ⟨⟨partition, index⟩, _, found⟩ := List.mem_filterMap.mp member
    obtain ⟨⟨partition', index'⟩, _, found'⟩ := List.mem_filterMap.mp member'
    apply apart
    have keys := congrArg Prod.fst same
    simp only [ExpiredTask.position, (expiredTask_some found).1, (expiredTask_some found').1] at keys
    rw [keys]
    exact ReflCmp.compare_self

end

def lapse (maxTaskAttempts : U32) (timedOut : List WorkerId) (nowMs : U64) :
    PartitionRuntime → PartitionRuntime
  | .active task workerId lease startedAtMs =>
    if workerId ∈ timedOut then retryOrFail maxTaskAttempts task.attempt "worker heartbeat timed out"
    else if lease.expiresAtMs ≤ nowMs then
      retryOrFail maxTaskAttempts task.attempt "task lease expired"
    else .active task workerId lease startedAtMs
  | .cancelling task workerId lease =>
    if workerId ∈ timedOut ∨ lease.expiresAtMs ≤ nowMs then .cancelled
    else .cancelling task workerId lease
  | partition => partition

theorem lapse_eq (maxTaskAttempts : U32) (timedOut : List WorkerId) (nowMs : U64) (key : StageKey)
    (partition : PartitionRuntime) (index : Nat) :
    lapse maxTaskAttempts timedOut nowMs partition =
      (expiredTask timedOut nowMs key (partition, index)).elim partition
        (·.replacement maxTaskAttempts) := by
  cases partition with
  | active task workerId lease startedAtMs =>
    by_cases silent : workerId ∈ timedOut
    · simp [lapse, expiredTask, expiredTask.expire, ExpiredTask.replacement, silent]
    · by_cases late : lease.expiresAtMs ≤ nowMs
      · simp [lapse, expiredTask, expiredTask.expire, ExpiredTask.replacement, silent, late]
      · simp [lapse, expiredTask, expiredTask.expire, silent, late]
  | cancelling task workerId lease =>
    by_cases lapsed : workerId ∈ timedOut ∨ lease.expiresAtMs ≤ nowMs
    · simp [lapse, expiredTask, expiredTask.expire, ExpiredTask.replacement, lapsed]
    · simp [lapse, expiredTask, expiredTask.expire, lapsed]
  | _ => rfl

section

variable (c : Coordinator) (nowMs : U64)

def advanced : Coordinator := ((advanceTime nowMs).run c).2

variable {workerId : WorkerId}

theorem timedOutWorkers_mem : workerId ∈ c.timedOutWorkers nowMs ↔
      ∃ worker, c.workers[workerId]? = some worker ∧ c.heartbeatTimedOut nowMs worker := by
  simp only [timedOutWorkers, List.mem_map, List.mem_filter, Prod.exists]
  constructor
  · rintro ⟨workerId, worker, ⟨listed, silent⟩, rfl⟩
    exact ⟨worker, OrderedMap.mem_toList.mp listed, silent⟩
  · rintro ⟨worker, present, silent⟩
    exact ⟨workerId, worker, ⟨OrderedMap.mem_toList.mpr present, silent⟩, rfl⟩

theorem advanceTime_eq : (advanceTime nowMs).run c = (.ok (),
      (c.expiredTasks (c.timedOutWorkers nowMs) nowMs).foldl retire
        ((c.timedOutWorkers nowMs).foldl silence c)) := by
  have present : ∀ workerId ∈ c.timedOutWorkers nowMs, workerId ∈ c.workers := by
    intro workerId member
    obtain ⟨worker, found, _⟩ := (c.timedOutWorkers_mem nowMs).mp member
    exact TreeMap.isSome_getElem?_iff_mem.mp (by rw [found]; rfl)
  obtain ⟨_, stages, _⟩ := c.foldl_silence_rest (c.timedOutWorkers nowMs)
  have same : ((c.timedOutWorkers nowMs).foldl silence c).expiredTasks (c.timedOutWorkers nowMs)
      nowMs = c.expiredTasks (c.timedOutWorkers nowMs) nowMs := by
    simp only [expiredTasks, stages]
  rw [← same]
  simp only [advanceTime, Stateful.run_bind_get]
  rw [Stateful.run_bind_ok (c.markTimedOut_run _ present), Stateful.run_bind_get]
  exact retireExpired_run expiredTasks_leased expiredTasks_separate

theorem advanceTime_run : (advanceTime nowMs).run c = (.ok (), c.advanced nowMs) := by
  simp only [advanced, advanceTime_eq]

theorem advanced_eq : c.advanced nowMs = (c.expiredTasks (c.timedOutWorkers nowMs) nowMs).foldl retire
      ((c.timedOutWorkers nowMs).foldl silence c) := by
  simp only [advanced, advanceTime_eq]

@[simp] theorem advanced_config : (c.advanced nowMs).config = c.config := by
  rw [advanced_eq, foldl_retire_config]
  exact (c.foldl_silence_rest _).1

@[simp] theorem advanced_cancelledQueries :
    (c.advanced nowMs).cancelledQueries = c.cancelledQueries := by
  rw [advanced_eq, foldl_retire_cancelledQueries]
  exact (c.foldl_silence_rest _).2.2

def lapsed (partition : PartitionRuntime) : PartitionRuntime :=
  lapse c.config.maxTaskAttempts (c.timedOutWorkers nowMs) nowMs partition

-- The lease is over at `nowMs`, by its own time or by its worker's silence.
def Lapses (workerId : WorkerId) (lease : TaskLease) : Prop :=
  workerId ∈ c.timedOutWorkers nowMs ∨ lease.expiresAtMs ≤ nowMs

theorem lapsed_cases (partition : PartitionRuntime) : c.lapsed nowMs partition = partition ∨
    (∃ task workerId lease startedAtMs error,
      partition = .active task workerId lease startedAtMs ∧ c.Lapses nowMs workerId lease ∧
        c.lapsed nowMs partition = retryOrFail c.config.maxTaskAttempts task.attempt error) ∨
    ∃ task workerId lease, partition = .cancelling task workerId lease ∧
      c.Lapses nowMs workerId lease ∧ c.lapsed nowMs partition = .cancelled := by
  cases partition with
  | active task workerId lease startedAtMs =>
    by_cases silent : workerId ∈ c.timedOutWorkers nowMs
    · exact .inr (.inl ⟨task, workerId, lease, startedAtMs, "worker heartbeat timed out", rfl,
        .inl silent, by simp [lapsed, lapse, silent]⟩)
    · by_cases late : lease.expiresAtMs ≤ nowMs
      · exact .inr (.inl ⟨task, workerId, lease, startedAtMs, "task lease expired", rfl,
          .inr late, by simp [lapsed, lapse, silent, late]⟩)
      · exact .inl (by simp [lapsed, lapse, silent, late])
  | cancelling task workerId lease =>
    by_cases ended : workerId ∈ c.timedOutWorkers nowMs ∨ lease.expiresAtMs ≤ nowMs
    · exact .inr (.inr ⟨task, workerId, lease, rfl, ended, by simp [lapsed, lapse, ended]⟩)
    · exact .inl (by simp [lapsed, lapse, ended])
  | _ => exact .inl rfl

theorem retryOrFail_cases (maxTaskAttempts attempt : U32) (error : String) :
    (∃ next, retryOrFail maxTaskAttempts attempt error = .pending next) ∨
      retryOrFail maxTaskAttempts attempt error = .failed attempt error true := by
  simp only [retryOrFail]
  split
  · exact .inl ⟨_, rfl⟩
  · exact .inr rfl

theorem lapsed_inert
    (inert : (c.lapsed nowMs partition).lease?.isSome ∨ (c.lapsed nowMs partition).isSucceeded) :
    c.lapsed nowMs partition = partition := by
  rcases c.lapsed_cases nowMs partition with
    same | ⟨task, _, _, _, error, _, _, ended⟩ | ⟨_, _, _, _, _, ended⟩
  · exact same
  · rw [ended] at inert
    rcases retryOrFail_cases c.config.maxTaskAttempts task.attempt error with ⟨next, pending⟩ | failed
    · simp [pending, PartitionRuntime.lease?, PartitionRuntime.isSucceeded] at inert
    · simp [failed, PartitionRuntime.lease?, PartitionRuntime.isSucceeded] at inert
  · simp [ended, PartitionRuntime.lease?, PartitionRuntime.isSucceeded] at inert

theorem advanced_partition (key : StageKey) (index : Nat) :
    (c.advanced nowMs).partition? key index = (c.partition? key index).map (c.lapsed nowMs) := by
  obtain ⟨config, stages, _⟩ := c.foldl_silence_rest (c.timedOutWorkers nowMs)
  have before (key : StageKey) (index : Nat) :
      ((c.timedOutWorkers nowMs).foldl silence c).partition? key index = c.partition? key index := by
    simp only [partition?, stages]
  have leased : ((c.timedOutWorkers nowMs).foldl silence c).Leased
      (c.expiredTasks (c.timedOutWorkers nowMs) nowMs) := by
    intro expired member
    rw [before]
    exact expiredTasks_leased expired member
  rw [advanced_eq]
  by_cases taken : ∃ expired ∈ c.expiredTasks (c.timedOutWorkers nowMs) nowMs,
      expired.position = (key, index)
  · obtain ⟨expired, member, position⟩ := taken
    obtain ⟨rfl, rfl⟩ := Prod.mk.injEq .. ▸ position
    obtain ⟨partition, present, found⟩ := mem_expiredTasks.mp member
    rw [foldl_retire_here member leased expiredTasks_separate, config, present, Option.map_some,
      lapsed, lapse_eq _ _ _ expired.stageKey _ expired.partitionIndex, found, Option.elim_some]
  · rw [foldl_retire_elsewhere fun expired member same => taken ⟨expired, member, same⟩, before]
    cases present : c.partition? key index with
    | none => rfl
    | some partition =>
      have kept : expiredTask (c.timedOutWorkers nowMs) nowMs key (partition, index) = none := by
        rw [Option.eq_none_iff_forall_ne_some]
        intro expired found
        obtain ⟨rfl, rfl, _⟩ := expiredTask_some found
        exact taken ⟨expired, mem_expiredTasks.mpr ⟨partition, present, found⟩, rfl⟩
      rw [Option.map_some, lapsed, lapse_eq _ _ _ key _ index, kept, Option.elim_none]

theorem advanced_stages (key : StageKey) :
    (c.advanced nowMs).stages[key]? = (c.stages[key]?).map fun stage =>
      { stage with partitions := stage.partitions.map (c.lapsed nowMs) } := by
  have plans : (c.advanced nowMs).stages[key]?.map (·.plan) = c.stages[key]?.map (·.plan) := by
    rw [advanced_eq, foldl_retire_plan, (c.foldl_silence_rest _).2.1]
  have partitions := c.advanced_partition nowMs key
  cases before : c.stages[key]? with
  | none =>
    rw [before] at plans
    simpa using plans
  | some stage =>
    rw [before, Option.map_some] at plans
    obtain ⟨after, found, plan⟩ := Option.map_eq_some_iff.mp plans
    have lists : after.partitions = stage.partitions.map (c.lapsed nowMs) := by
      apply List.ext_getElem?
      intro index
      have here := partitions index
      rw [partition?_of_stage found, partition?_of_stage before] at here
      rw [here, List.getElem?_map]
    rw [found, Option.map_some, ← plan, ← lists]

theorem advanced_idle (heard : c.timedOutWorkers nowMs = [])
    (leased : ∀ key index partition lease, c.partition? key index = some partition →
      partition.lease? = some lease → nowMs < lease.expiresAtMs) : c.advanced nowMs = c := by
  have none : c.expiredTasks [] nowMs = [] := by
    rw [List.eq_nil_iff_forall_not_mem]
    intro expired member
    obtain ⟨partition, present, found⟩ := mem_expiredTasks.mp member
    have current := leased expired.stageKey expired.partitionIndex partition
    cases partition with
    | active task workerId lease startedAtMs | cancelling task workerId lease =>
      have later := Fin.not_le.mpr (current lease present rfl)
      simp [expiredTask, expiredTask.expire, later] at found
    | _ => cases found
  rw [advanced_eq, heard, none]
  rfl

theorem load_advanced (workerId : WorkerId) : (c.advanced nowMs).load workerId ≤ c.load workerId := by
  obtain ⟨_, stages, _⟩ := c.foldl_silence_rest (c.timedOutWorkers nowMs)
  rw [advanced_eq]
  refine (load_foldl_retire ?_ expiredTasks_separate workerId).trans
    (c.load_foldl_silence (c.timedOutWorkers nowMs) workerId)
  intro expired member
  simp only [partition?, stages]
  exact expiredTasks_leased expired member

theorem advanced_worker (present : c.workers[workerId]? = some worker) :
    ∃ availableSlots, (c.advanced nowMs).workers[workerId]? =
      some { (if c.heartbeatTimedOut nowMs worker then silenced worker else worker) with
        availableSlots } := by
  have silent : workerId ∈ c.timedOutWorkers nowMs ↔ c.heartbeatTimedOut nowMs worker := by
    rw [timedOutWorkers_mem]
    simp [present]
  have first := c.foldl_silence_workers (c.timedOutWorkers nowMs) workerId
  rw [present, Option.map_some] at first
  simp only [silent] at first
  rw [advanced_eq]
  exact foldl_retire_worker first

theorem advanced_no_worker (absent : c.workers[workerId]? = none) :
    (c.advanced nowMs).workers[workerId]? = none := by
  rw [advanced_eq]
  apply foldl_retire_no_worker
  rw [foldl_silence_workers, absent, Option.map_none]

end

end SparkX.Coordinator
