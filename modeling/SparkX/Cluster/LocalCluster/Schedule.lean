import SparkX.Cluster.Coordinator.Accepted
import SparkX.Cluster.Coordinator.Routing
import SparkX.Cluster.LocalCluster.Model

set_option autoImplicit false

namespace SparkX.LocalCluster

open Std Coordinator

def stageKey : StageKey := (queryId, 0)

def Standing (running : List (WorkerId × TaskAttemptId)) (completed : List PartitionId)
    (index : Nat) : PartitionRuntime → Prop
  | .pending _ => True
  | .active task workerId _ _ => (workerId, task) ∈ running
  | .succeeded _ _ => ∃ partitionId ∈ completed, partitionId.val = index
  | _ => False

structure Working [PhysicalPlanCodec] (count : U32) (planFragment : List UInt8) (c : Coordinator)
    (running : List (WorkerId × TaskAttemptId)) (completed : List PartitionId) : Prop where
  ok : c.WellFormed
  config : c.config = config count
  live : queryId ∉ c.cancelledQueries
  only : ∀ (key : StageKey) stage, c.stages[key]? = some stage → key = stageKey
  planned : c.plan? stageKey = some (stage count planFragment)
  workers : ∀ (workerId : WorkerId) worker, c.workers[workerId]? = some worker →
    worker.alive = true ∧ 0 < worker.registration.slots.val ∧
      c.load workerId = worker.registration.slots.val
  leases : ∀ index partition lease, c.partition? stageKey index = some partition →
    partition.lease? = some lease → lease.issuedAtMs = 0 ∧ 0 < lease.expiresAtMs
  standing : ∀ index partition, c.partition? stageKey index = some partition →
    Standing running completed index partition
  runs : ∀ workerId task, (workerId, task) ∈ running → ∃ lease startedAtMs,
    c.partition? stageKey task.partitionId.val = some (.active task workerId lease startedAtMs)
  done : ∀ partitionId ∈ completed, ∃ task blocks,
    c.partition? stageKey partitionId.val = some (.succeeded task blocks)
  apart : (running.map (·.2.partitionId) ++ completed).Nodup

def Staffed (c : Coordinator) : Prop :=
  ∃ (workerId : WorkerId) (worker : WorkerRuntime), c.workers[workerId]? = some worker

section

variable [PhysicalPlanCodec] {count : U32} {planFragment : List UInt8} {c : Coordinator}
variable {running : List (WorkerId × TaskAttemptId)} {completed : List PartitionId}

variable {index : Nat}

theorem Working.partition_key (working : Working count planFragment c running completed) {key : StageKey}
    {partition : PartitionRuntime} (present : c.partition? key index = some partition) : key = stageKey := by
  obtain ⟨stage, stored, _⟩ := partition?_eq_some.mp present
  exact working.only key stage stored

theorem Working.advanced (working : Working count planFragment c running completed) : c.advanced 0 = c := by
  apply c.advanced_idle
  · rw [List.eq_nil_iff_forall_not_mem]
    intro workerId member
    obtain ⟨worker, _, silent⟩ := (c.timedOutWorkers_mem 0).mp member
    have early : Word.saturatingSub (0 : U64) worker.lastReceivedAtMs = 0 := Fin.ext (Nat.zero_sub _)
    simp [heartbeatTimedOut, early] at silent
  · intro key index partition lease present held
    obtain rfl := working.partition_key present
    exact (working.leases index partition lease present held).2

variable {task : TaskAttemptId} {workerId : WorkerId} {lease : TaskLease}

theorem Working.not_lapses (working : Working count planFragment c running completed)
    {partition : PartitionRuntime} (present : c.partition? stageKey index = some partition)
    (owns : Owns partition task workerId lease) : ¬c.Lapses 0 workerId lease := by
  rw [← advanced_owned 0 present owns, working.advanced]
  exact present

theorem Working.width (working : Working count planFragment c running completed) (index : Nat) :
    (∃ partition, c.partition? stageKey index = some partition) ↔ index < count.val := by
  obtain ⟨runtime, stored, same⟩ := Option.map_eq_some_iff.mp working.planned
  have width := (working.ok.stages _ runtime stored).width
  rw [same] at width
  change _ = count.val at width
  rw [partition?_of_stage stored, ← width]
  constructor
  · rintro ⟨partition, position⟩
    exact (List.getElem?_eq_some_iff.mp position).1
  · intro inside
    exact ⟨_, List.getElem?_eq_getElem inside⟩

theorem Working.known (working : Working count planFragment c running completed) :
    running.map (·.2.partitionId) ++ completed ⊆ partitionIds count := by
  intro partitionId member
  rw [mem_partitionIds, Fin.lt_def, ← working.width]
  rcases List.mem_append.mp member with inside | inside
  · obtain ⟨⟨workerId, task⟩, entry, rfl⟩ := List.mem_map.mp inside
    obtain ⟨lease, startedAtMs, present⟩ := working.runs workerId task entry
    exact ⟨_, present⟩
  · obtain ⟨task, blocks, present⟩ := working.done partitionId inside
    exact ⟨_, present⟩

theorem Working.length_le (working : Working count planFragment c running completed) :
    running.length + completed.length ≤ count.val := by
  have fits := (working.apart.subperm working.known).length_le
  rw [List.length_append, List.length_map, length_partitionIds] at fits
  exact fits

theorem Working.complete (working : Working count planFragment c running completed)
    (all : completed.length = count.val) : completed.Perm (partitionIds count) := by
  apply List.Subperm.perm_of_length_le
  · exact (working.apart.sublist (List.sublist_append_right _ _)).subperm
      fun _ member => working.known (List.mem_append_right _ member)
  · rw [length_partitionIds, all]

theorem Working.placed (working : Working count planFragment c running completed) {startedAtMs : Option U64}
    (present : c.partition? stageKey index = some (.active task workerId lease startedAtMs)) :
    (task.queryId, task.stageId) = stageKey ∧ task.partitionId.val = index ∧
      lease.workerId = workerId ∧ c.Alive workerId := by
  have leased : LeaseOk c (stage count planFragment) index task workerId lease ∧ _ :=
    working.ok.partitions stageKey _ index _ working.planned present
  exact ⟨Prod.ext leased.1.placed.query leased.1.placed.stage, leased.1.placed.partition,
    leased.1.owner, leased.1.alive⟩

theorem Working.assign (working : Working count planFragment c running completed) {worker : WorkerRuntime}
    {runtime : StageRuntime} {left : U32} (assigns : c.Assigns workerId 0 worker runtime task lease left) :
    Working count planFragment ((c.setPartition (task.queryId, task.stageId) task.partitionId.val
        (.active task workerId lease none)).setWorker workerId { worker with availableSlots := left })
      (running ++ [(lease.workerId, task)]) completed := by
  have key : (task.queryId, task.stageId) = stageKey := working.only _ runtime assigns.planned
  have waiting := (partition?_of_stage assigns.planned task.partitionId.val).trans assigns.pending
  have pending : c.partition? stageKey task.partitionId.val = some (.pending task.attempt) := key ▸ waiting
  have found (index : Nat) : ((c.setPartition (task.queryId, task.stageId) task.partitionId.val
      (.active task workerId lease none)).setWorker workerId
        { worker with availableSlots := left }).partition? stageKey index =
      (c.partition? stageKey index).map fun old =>
        if task.partitionId.val = index then .active task workerId lease none else old := by
    change (c.setPartition _ _ _).partition? stageKey index = _
    rw [key, partition?_setPartition]
    simp only [true_and]
  -- The partition was pending, so no task ran for it.
  have fresh : task.partitionId ∉ running.map (·.2.partitionId) ++ completed := by
    intro member
    rcases List.mem_append.mp member with inside | inside
    · obtain ⟨⟨owner, other⟩, entry, same⟩ := List.mem_map.mp inside
      obtain ⟨granted, startedAtMs, active⟩ := working.runs owner other entry
      rw [same, pending] at active
      cases active
    · obtain ⟨other, blocks, succeeded⟩ := working.done _ inside
      rw [pending] at succeeded
      cases succeeded
  refine
    { ok := assigned_wellFormed working.ok assigns
      config := by simp [working.config]
      live := by simp [working.live]
      only := ?_
      planned := ?_
      workers := ?_
      leases := ?_
      standing := ?_
      runs := ?_
      done := ?_
      apart := ?_ }
  · intro other stage stored
    rw [setWorker_stages, setPartition_stages] at stored
    obtain ⟨before, present, _⟩ := Option.map_eq_some_iff.mp stored
    exact working.only other before present
  · exact ((sameShape_setPartition c _ _ _).plan stageKey).trans working.planned
  · intro other updated stored
    rw [load_assigned assigns]
    rw [setWorker_workers, setPartition_workers] at stored
    split at stored
    next same =>
      cases stored
      exact working.workers other worker (same ▸ assigns.present)
    next => exact working.workers other updated stored
  · intro index partition granted present held
    rw [found] at present
    obtain ⟨old, before, rfl⟩ := Option.map_eq_some_iff.mp present
    split at held
    next =>
      obtain rfl : lease = granted := Option.some.inj held
      have duration := Fin.lt_def.mp working.ok.leaseDuration
      refine ⟨assigns.issued, ?_⟩
      rw [Fin.lt_def, assigns.expires]
      change 0 < c.config.leaseDurationMs.val at duration
      change 0 < 0 + _
      omega
    next => exact working.leases index old granted before held
  · intro index partition present
    rw [found] at present
    obtain ⟨old, before, rfl⟩ := Option.map_eq_some_iff.mp present
    split
    next => exact List.mem_append_right _ (List.mem_singleton.mpr (by rw [assigns.owner]))
    next =>
      have stood := working.standing index old before
      cases old with
      | active other owner granted startedAtMs => exact List.mem_append_left _ stood
      | _ => exact stood
  · intro owner other entry
    rw [found]
    rcases List.mem_append.mp entry with inside | inside
    · obtain ⟨granted, startedAtMs, active⟩ := working.runs owner other inside
      have elsewhere : task.partitionId.val ≠ other.partitionId.val := by
        intro same
        rw [← same, pending] at active
        cases active
      exact ⟨granted, startedAtMs, by rw [active, Option.map_some, if_neg elsewhere]⟩
    · obtain ⟨rfl, rfl⟩ := Prod.mk.injEq .. ▸ List.mem_singleton.mp inside
      exact ⟨lease, none, by rw [pending, Option.map_some, if_pos rfl, assigns.owner]⟩
  · intro partitionId member
    obtain ⟨other, blocks, succeeded⟩ := working.done partitionId member
    have elsewhere : task.partitionId.val ≠ partitionId.val := by
      intro same
      rw [← same, pending] at succeeded
      cases succeeded
    exact ⟨other, blocks, by rw [found, succeeded, Option.map_some, if_neg elsewhere]⟩
  · have order : ((running ++ [(lease.workerId, task)]).map (·.2.partitionId) ++ completed).Perm
        (task.partitionId :: (running.map (·.2.partitionId) ++ completed)) := by
      simp only [List.map_append, List.map_cons, List.map_nil, List.append_assoc, List.singleton_append]
      exact List.perm_middle
    exact order.nodup_iff.mpr (List.nodup_cons.mpr ⟨fresh, working.apart⟩)

theorem Working.busy (working : Working count planFragment c running completed) (staffed : Staffed c)
    (idle : c.nextPendingPartition = none ∨ ∀ (workerId : WorkerId) worker,
      c.workers[workerId]? = some worker → worker.alive = true → worker.availableSlots = 0)
    (unfinished : completed.length < count.val) : running ≠ [] := by
  rintro rfl
  -- Some partition is not joined, and without a running task it is pending.
  have missing : ∃ partitionId ∈ partitionIds count, partitionId ∉ completed := by
    by_contra every
    simp only [not_exists, not_and, not_not] at every
    have covered := ((nodup_partitionIds count).subperm every).length_le
    rw [length_partitionIds] at covered
    omega
  obtain ⟨partitionId, inside, unjoined⟩ := missing
  obtain ⟨partition, present⟩ :=
    (working.width partitionId.val).mpr (Fin.lt_def.mp (mem_partitionIds.mp inside))
  have pending : partition.isPending = true := by
    have stood := working.standing _ partition present
    cases partition with
    | pending nextAttempt => rfl
    | active task workerId lease startedAtMs => cases stood
    | succeeded task blocks =>
      obtain ⟨other, member, same⟩ := stood
      exact absurd (Fin.ext same ▸ member) unjoined
    | _ => cases stood
  obtain ⟨runtime, stored, position⟩ := partition?_eq_some.mp present
  have same := Option.some.inj ((plan?_of_stage stored).symm.trans working.planned)
  have ready : c.dependenciesSucceeded runtime = true := by
    rw [dependenciesSucceeded, same]
    rfl
  rcases idle with drained | occupied
  · rw [nextPendingPartition_none drained stored working.live ready position] at pending
    cases pending
  · -- Every slot of the worker is free, so it has one.
    obtain ⟨workerId, worker, registered⟩ := staffed
    obtain ⟨alive, positive, full⟩ := working.workers workerId worker registered
    have free : c.occupied workerId = 0 := by
      apply c.occupied_eq_zero
      intro key index held held_present owner
      obtain rfl := working.partition_key held_present
      have stood := working.standing index held held_present
      cases held with
      | active task other lease startedAtMs => cases stood
      | cancelling task other lease => cases stood
      | _ => cases owner
    have none := occupied workerId worker registered alive
    simp only [load, available, registered, Option.elim_some, free, none] at full
    change 0 + 0 = _ at full
    omega

end

end SparkX.LocalCluster
