import SparkX.Cluster.Coordinator.Operations

set_option autoImplicit false

namespace SparkX

open Std

namespace Coordinator

section

variable (c : Coordinator) (key other : StageKey) (index position : Nat)
variable (partition : PartitionRuntime) (workerId otherWorker : WorkerId) (worker : WorkerRuntime)

theorem partition?_of_stage {c : Coordinator} {key : StageKey} {stage : StageRuntime}
    (present : c.stages[key]? = some stage) (index : Nat) :
    c.partition? key index = stage.partitions[index]? := by
  simp only [partition?, present, Option.bind_some]

theorem partition?_eq_some {c : Coordinator} {key : StageKey} {index : Nat}
    {partition : PartitionRuntime} : c.partition? key index = some partition ↔
      ∃ stage, c.stages[key]? = some stage ∧ stage.partitions[index]? = some partition :=
  Option.bind_eq_some_iff

@[simp] theorem setPartition_config :
    (c.setPartition key index partition).config = c.config := by
  unfold setPartition
  split <;> rfl

@[simp] theorem setPartition_workers :
    (c.setPartition key index partition).workers = c.workers := by
  unfold setPartition
  split <;> rfl

@[simp] theorem setPartition_cancelledQueries :
    (c.setPartition key index partition).cancelledQueries = c.cancelledQueries := by
  unfold setPartition
  split <;> rfl

theorem setPartition_stages :
    (c.setPartition key index partition).stages[other]? = (c.stages[other]?).map fun stage =>
      if key = other then { stage with partitions := stage.partitions.set index partition }
      else stage := by
  unfold setPartition
  cases present : c.stages[key]? with
  | none =>
    by_cases same : key = other
    next => simp [← same, present]
    next => simp [same]
  | some stage =>
    simp only [OrderedMap.getElem?_insert]
    by_cases same : key = other
    next => simp [← same, present]
    next => simp [same]

theorem partition?_setPartition : (c.setPartition key index partition).partition? other position =
      (c.partition? other position).map fun old =>
        if key = other ∧ index = position then partition else old := by
  simp only [partition?, setPartition_stages]
  cases c.stages[other]? with
  | none => rfl
  | some stage =>
    by_cases same : key = other
    next =>
      simp only [same, Option.map_some, Option.bind_some, if_true, List.getElem?_set, true_and]
      by_cases here : index = position
      next =>
        subst here
        by_cases bound : index < stage.partitions.length
        next => simp [bound]
        next => simp [bound]
      next => simp [here]
    next => simp [same]

@[simp] theorem setWorker_config : (c.setWorker workerId worker).config = c.config := rfl

@[simp] theorem setWorker_stages : (c.setWorker workerId worker).stages = c.stages := rfl

@[simp] theorem setWorker_cancelledQueries :
    (c.setWorker workerId worker).cancelledQueries = c.cancelledQueries := rfl

theorem setWorker_workers : (c.setWorker workerId worker).workers[otherWorker]? =
      if workerId = otherWorker then some worker else c.workers[otherWorker]? :=
  OrderedMap.getElem?_insert c.workers workerId otherWorker worker

@[simp] theorem releaseWorkerSlot_config : (c.releaseWorkerSlot workerId).config = c.config := by
  unfold releaseWorkerSlot
  split
  next => split <;> rfl
  next => rfl

@[simp] theorem releaseWorkerSlot_stages : (c.releaseWorkerSlot workerId).stages = c.stages := by
  unfold releaseWorkerSlot
  split
  next => split <;> rfl
  next => rfl

theorem releaseWorkerSlot_partition :
    (c.releaseWorkerSlot workerId).partition? key index = c.partition? key index := by
  simp only [partition?, releaseWorkerSlot_stages]

@[simp] theorem releaseWorkerSlot_cancelledQueries :
    (c.releaseWorkerSlot workerId).cancelledQueries = c.cancelledQueries := by
  unfold releaseWorkerSlot
  split
  next => split <;> rfl
  next => rfl

end

def releaseSlot (worker : WorkerRuntime) : WorkerRuntime :=
  if worker.alive then
    let availableSlots := min (Word.saturatingAdd worker.availableSlots 1) worker.registration.slots
    { worker with availableSlots }
  else worker

theorem releaseWorkerSlot_workers (c : Coordinator) (workerId other : WorkerId) :
    (c.releaseWorkerSlot workerId).workers[other]? = (c.workers[other]?).map fun worker =>
        if workerId = other then releaseSlot worker else worker := by
  unfold releaseWorkerSlot
  cases present : c.workers[workerId]? with
  | none =>
    by_cases same : workerId = other
    next => simp [← same, present]
    next => simp [same]
  | some worker =>
    by_cases same : workerId = other
    next =>
      subst same
      cases alive : worker.alive with
      | true => simp [present, setWorker_workers, releaseSlot, alive]
      | false => simp [present, releaseSlot, alive]
    next =>
      cases alive : worker.alive with
      | true => simp [alive, setWorker_workers, same]
      | false => simp [alive, same]

@[simp] theorem releaseSlot_registration (worker : WorkerRuntime) :
    (releaseSlot worker).registration = worker.registration := by
  unfold releaseSlot
  split <;> rfl

@[simp] theorem releaseSlot_alive (worker : WorkerRuntime) :
    (releaseSlot worker).alive = worker.alive := by
  unfold releaseSlot
  split <;> rfl

theorem releaseSlot_available (worker : WorkerRuntime) :
    (releaseSlot worker).availableSlots.val ≤ worker.availableSlots.val + 1 := by
  unfold releaseSlot
  split
  next =>
    have sum := Word.val_saturatingAdd worker.availableSlots 1
    have smaller := Fin.le_def.mp
      (min_le_left (Word.saturatingAdd worker.availableSlots 1) worker.registration.slots)
    have one : ((1 : U32) : Nat) = 1 := rfl
    dsimp only
    omega
  next => omega

theorem countP_set {α : Type} (p : α → Bool) {list : List α} {index : Nat} {old : α}
    (present : list[index]? = some old) (new : α) :
    (list.set index new).countP p + (p old).toNat = list.countP p + (p new).toNat := by
  induction list generalizing index with
  | nil => simp at present
  | cons head tail ih =>
    cases index with
    | zero =>
      simp only [List.getElem?_cons_zero, Option.some.injEq] at present
      subst present
      simp only [List.set_cons_zero, List.countP_cons]
      cases p head <;> cases p new <;> simp
    | succ index =>
      have rest := ih (by simpa using present)
      simp only [List.set_cons_succ, List.countP_cons]
      omega

section

variable (c : Coordinator) (workerId : WorkerId)

theorem occupied_of_stages {first second : Coordinator} (same : first.stages = second.stages) :
    first.occupied workerId = second.occupied workerId := by
  simp only [occupied, same]

variable {key : StageKey} {index : Nat} {old : PartitionRuntime}

theorem occupied_setPartition (present : c.partition? key index = some old) (new : PartitionRuntime) :
    (c.setPartition key index new).occupied workerId + (leasedTo workerId old).toNat =
      c.occupied workerId + (leasedTo workerId new).toNat := by
  obtain ⟨stage, found, position⟩ := partition?_eq_some.mp present
  have counted := countP_set (leasedTo workerId) position new
  have totals := OrderedMap.total_insert
    (fun (_ : StageKey) (stage : StageRuntime) => stage.partitions.countP (leasedTo workerId))
    c.stages key { stage with partitions := stage.partitions.set index new }
  simp only [found, Option.map_some, Option.getD_some] at totals
  simp only [occupied, setPartition, found]
  omega

theorem occupied_pos {partition : PartitionRuntime} (present : c.partition? key index = some partition)
    (leased : partition.holder = some workerId) : 0 < c.occupied workerId := by
  have change := c.occupied_setPartition workerId present .cancelled
  have was : leasedTo workerId partition = true := by simp [leasedTo, leased]
  have now : leasedTo workerId .cancelled = false := rfl
  simp only [was, now, Bool.toNat_true, Bool.toNat_false] at change
  omega

theorem occupied_eq_zero (free : ∀ key index partition, c.partition? key index = some partition →
      partition.holder ≠ some workerId) : c.occupied workerId = 0 := by
  unfold occupied OrderedMap.total
  rw [List.sum_eq_zero]
  intro count member
  obtain ⟨⟨key, stage⟩, listed, rfl⟩ := List.mem_map.mp member
  rw [List.countP_eq_zero]
  intro partition inStage
  obtain ⟨index, bound, rfl⟩ := List.getElem_of_mem inStage
  have := free key index stage.partitions[index]
    (partition?_eq_some.mpr ⟨stage, OrderedMap.mem_toList.mp listed, List.getElem?_eq_getElem bound⟩)
  simpa [leasedTo] using this

def available : Nat := (c.workers[workerId]?).elim 0 (·.availableSlots.val)

def load : Nat := c.available workerId + c.occupied workerId

theorem load_setWorker {other : WorkerId} {worker updated : WorkerRuntime}
    (present : c.workers[other]? = some worker)
    (fewer : updated.availableSlots ≤ worker.availableSlots) :
    (c.setWorker other updated).load workerId ≤ c.load workerId := by
  simp only [load, available, setWorker_workers, occupied, setWorker_stages]
  by_cases same : other = workerId
  next =>
    rw [← same, if_pos rfl, present]
    have := Fin.le_def.mp fewer
    simp only [Option.elim_some]
    omega
  next => rw [if_neg same]

theorem load_setWorker_other {other : WorkerId} (updated : WorkerRuntime) (apart : other ≠ workerId) :
    (c.setWorker other updated).load workerId = c.load workerId := by
  simp only [load, available, setWorker_workers, if_neg apart,
    occupied_of_stages workerId (setWorker_stages c other updated)]

theorem load_settle {new : PartitionRuntime} {owner : WorkerId}
    (present : c.partition? key index = some old) (leased : old.holder = some owner)
    (ended : new.holder = none) :
    ((c.setPartition key index new).releaseWorkerSlot owner).load workerId ≤ c.load workerId := by
  have counted := c.occupied_setPartition workerId present new
  have now : leasedTo workerId new = false := by simp [leasedTo, ended]
  simp only [load, available, releaseWorkerSlot_workers, setPartition_workers]
  rw [occupied_of_stages workerId (releaseWorkerSlot_stages (c.setPartition key index new) owner)]
  by_cases same : owner = workerId
  next =>
    have was : leasedTo workerId old = true := by simp [leasedTo, leased, same]
    simp only [was, now, Bool.toNat_true, Bool.toNat_false] at counted
    cases c.workers[workerId]? with
    | none =>
      simp only [Option.map_none, Option.elim_none]
      omega
    | some worker =>
      have := releaseSlot_available worker
      simp only [Option.map_some, Option.elim_some, if_pos same]
      omega
  next =>
    have was : leasedTo workerId old = false := by simp [leasedTo, leased, same]
    simp only [was, now, Bool.toNat_false] at counted
    simp only [same, if_false, Option.map_id']
    omega

theorem load_settle_eq {new : PartitionRuntime} {owner : WorkerId} {worker : WorkerRuntime}
    (present : c.partition? key index = some old) (leased : old.holder = some owner)
    (ended : new.holder = none) (registered : c.workers[owner]? = some worker) (alive : worker.alive = true)
    (fits : c.load owner ≤ worker.registration.slots.val) :
    ((c.setPartition key index new).releaseWorkerSlot owner).load workerId = c.load workerId := by
  have counted := c.occupied_setPartition workerId present new
  have now : leasedTo workerId new = false := by simp [leasedTo, ended]
  have busy := c.occupied_pos owner present leased
  simp only [load, available, registered, Option.elim_some] at fits
  simp only [load, available, releaseWorkerSlot_workers, setPartition_workers]
  rw [occupied_of_stages workerId (releaseWorkerSlot_stages (c.setPartition key index new) owner)]
  by_cases same : owner = workerId
  next =>
    subst same
    have was : leasedTo owner old = true := by simp [leasedTo, leased]
    simp only [was, now, Bool.toNat_true, Bool.toNat_false] at counted
    have bound := worker.registration.slots.isLt
    have one : ((1 : U32) : Nat) = 1 := rfl
    simp only [registered, Option.map_some, Option.elim_some, if_true, releaseSlot, alive,
      Fin.coe_min, Word.val_saturatingAdd, one]
    omega
  next =>
    have was : leasedTo workerId old = false := by simp [leasedTo, leased, same]
    simp only [was, now, Bool.toNat_false] at counted
    simp only [same, if_false, Option.map_id']
    omega

end

end Coordinator

end SparkX
