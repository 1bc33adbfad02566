import SparkX.Cluster.Coordinator.Reachable
import SparkX.Shared.Lifecycle

set_option autoImplicit false

namespace SparkX

open Std

abbrev TaskPhase := Phase (TaskAttemptId × List ShuffleBlock)

namespace PartitionRuntime

def phase : PartitionRuntime → TaskPhase
  | .pending nextAttempt => .pending nextAttempt.val
  | .active task _ _ _ => .leased task.attempt.val
  | .cancelling task _ _ => .stopping task.attempt.val
  | .succeeded task outputBlocks => .committed task.attempt.val (task, outputBlocks)
  | .failed attempt _ _ => .failed attempt.val
  | .cancelled => .cancelled

end PartitionRuntime

def handedOut : Except Fault Reply → Option TaskAttemptId
  | .ok (.assignment (some (.assignTask _ _ task _ _))) => some task
  | _ => none

namespace TaskAttemptId

def place (task : TaskAttemptId) : StageKey × Nat :=
  ((task.queryId, task.stageId), task.partitionId.val)

end TaskAttemptId

namespace Coordinator

def phase (c : Coordinator) (place : StageKey × Nat) : TaskPhase :=
  (c.partition? place.1 place.2).elim .absent PartitionRuntime.phase

variable {place : StageKey × Nat}

variable {partition : PartitionRuntime}

theorem phase_of_partition {c : Coordinator} (present : c.partition? place.1 place.2 = some partition) :
    c.phase place = partition.phase := by
  rw [phase, present, Option.elim_some]

theorem phase_at {c : Coordinator} {key : StageKey} {index : Nat}
    (present : c.partition? key index = some partition) : c.phase (key, index) = partition.phase := by
  rw [phase, present, Option.elim_some]

variable {task : TaskAttemptId}

theorem phase_committed {c : Coordinator} {attempt : Nat} {blocks : List ShuffleBlock}
    (committed : c.phase place = .committed attempt (task, blocks)) :
    c.partition? place.1 place.2 = some (.succeeded task blocks) := by
  cases present : c.partition? place.1 place.2 with
  | none =>
    rw [phase, present] at committed
    cases committed
  | some partition =>
    rw [phase_of_partition present] at committed
    cases partition with
    | succeeded found stored =>
      simp only [PartitionRuntime.phase, Phase.committed.injEq, Prod.mk.injEq] at committed
      rw [committed.2.1, committed.2.2]
    | _ => cases committed

theorem phase_cancelled {c : Coordinator} (cancelled : c.phase place = .cancelled) :
    c.partition? place.1 place.2 = some .cancelled := by
  cases present : c.partition? place.1 place.2 with
  | none =>
    rw [phase, present] at cancelled
    cases cancelled
  | some partition =>
    rw [phase_of_partition present] at cancelled
    cases partition with
    | cancelled => rfl
    | _ => cases cancelled

variable {new old : PartitionRuntime}

section

variable [PhysicalPlanCodec] {c c' : Coordinator} {operation : Operation}
variable {result : Except Fault Reply} {key : StageKey} {index : Nat}

inductive Moves (c c' : Coordinator) (operation : Operation) (result : Except Fault Reply)
    (key : StageKey) (index : Nat) (new : PartitionRuntime) : Prop
  | submitted (same : new = .pending 0) (absent : c.stages[key]? = none)
  | leased (task : TaskAttemptId) (workerId : WorkerId) (lease : TaskLease) (startedAtMs : Option U64)
      (same : new = .active task workerId lease startedAtMs)
      (before : c.partition? key index = some (.pending task.attempt) ∨
        c.partition? key index = some (.active task workerId lease none))
  | concluded (version : U16) (workerId : WorkerId) (task : TaskAttemptId) (state : TaskState)
      (old : PartitionRuntime) (lease : TaskLease) (finishedAtMs receivedAtMs : U64)
      (called : operation = .workerMessage (.taskUpdate version workerId task state) receivedAtMs)
      (accepted : result = .ok .done) (place : task.place = (key, index))
      (reports : c.Reports workerId task state receivedAtMs old lease)
      (finished : finishedAt state = some finishedAtMs)
      (same : new = concluded c.config.maxTaskAttempts task state old)
  | cancelled (old : PartitionRuntime) (before : c.partition? key index = some old)
      (first : key.1 ∉ c.cancelledQueries) (member : key.1 ∈ c'.cancelledQueries)
      (same : new = old.cancel)

theorem Effect.moves (effect : Effect c operation result c') (present : c'.partition? key index = some new) :
    c.partition? key index = some new ∨ Moves c c' operation result key index new := by
  cases effect with
  | rejected | acknowledged | idle | recancelled | elapsed | registered | heard => exact .inl present
  | submitted plan accepted =>
    obtain ⟨stage, stored, position⟩ := partition?_eq_some.mp present
    rw [addStage_stages] at stored
    split at stored
    next here =>
      cases stored
      exact .inr (.submitted (List.eq_of_mem_replicate (List.mem_of_getElem? position))
        (here ▸ accepted.absent))
    next => exact .inl ((partition?_of_stage stored index).trans position)
  | started version workerId task lease startedAtMs receivedAtMs reports =>
    rw [partition?_setPartition] at present
    obtain ⟨old, before, same⟩ := Option.map_eq_some_iff.mp present
    split at same
    next here =>
      obtain ⟨rfl, rfl⟩ := here
      exact .inr (.leased task workerId lease (some startedAtMs) same.symm (.inr reports.present))
    next => exact .inl (same ▸ before)
  | concluded version workerId task state partition lease finishedAtMs receivedAtMs reports finished =>
    rw [releaseWorkerSlot_partition, partition?_setPartition] at present
    obtain ⟨old, before, same⟩ := Option.map_eq_some_iff.mp present
    split at same
    next here =>
      obtain ⟨rfl, rfl⟩ := here
      exact .inr (.concluded version workerId task state partition lease finishedAtMs receivedAtMs rfl
        rfl rfl reports finished same.symm)
    next => exact .inl (same ▸ before)
  | assigned _ workerId nowMs worker stage task lease left called assigns =>
    change (c.setPartition _ _ _).partition? key index = _ at present
    rw [partition?_setPartition] at present
    obtain ⟨old, before, same⟩ := Option.map_eq_some_iff.mp present
    split at same
    next here =>
      obtain ⟨rfl, rfl⟩ := here
      have pending := (partition?_of_stage assigns.planned task.partitionId.val).trans assigns.pending
      exact .inr (.leased task workerId lease none same.symm (.inl pending))
    next => exact .inl (same ▸ before)
  | cancelled queryId reason first =>
    rw [cancelStages_partition] at present
    obtain ⟨old, before, same⟩ := Option.map_eq_some_iff.mp present
    split at same
    next => exact .inl (same ▸ before)
    next here =>
      rw [not_not] at here
      exact .inr (.cancelled old before (here ▸ first)
        ((mem_cancelStages queryId reason c key.1).mpr (.inl here.symm)) same.symm)

theorem Effect.present (effect : Effect c operation result c') (before : c.partition? key index = some old) :
    ∃ new, c'.partition? key index = some new := by
  have replaced (other : StageKey) (position : Nat) (partition : PartitionRuntime) :
      ∃ new, (c.setPartition other position partition).partition? key index = some new := by
    rw [partition?_setPartition, before]
    exact ⟨_, rfl⟩
  cases effect with
  | rejected | acknowledged | idle | recancelled | elapsed | registered | heard => exact ⟨old, before⟩
  | submitted plan accepted =>
    obtain ⟨stage, stored, position⟩ := partition?_eq_some.mp before
    have other : (plan.queryId, plan.stageId) ≠ key := by
      intro same
      rw [← same, accepted.absent] at stored
      cases stored
    refine ⟨old, partition?_eq_some.mpr ⟨stage, ?_, position⟩⟩
    rw [addStage_stages, if_neg other]
    exact stored
  | started => exact replaced _ _ _
  | concluded =>
    rw [releaseWorkerSlot_partition]
    exact replaced _ _ _
  | assigned => exact replaced _ _ _
  | cancelled queryId reason first =>
    rw [cancelStages_partition, before]
    exact ⟨_, rfl⟩

end

theorem retryOrFail_quiet (maxTaskAttempts attempt : U32) (error : String) :
    Phase.Quiet maxTaskAttempts.val (.leased attempt.val)
      (retryOrFail maxTaskAttempts attempt error).phase := by
  simp only [retryOrFail]
  split
  next again =>
    have below := Fin.lt_def.mp again
    have bound := maxTaskAttempts.isLt
    have one : ((1 : U32) : Nat) = 1 := rfl
    rw [Word.val_saturatingAdd, one] at below
    have successor : (Word.saturatingAdd attempt 1).val = attempt.val + 1 := by
      rw [Word.val_saturatingAdd, one]
      omega
    simp only [PartitionRuntime.phase, successor]
    exact .retry attempt.val (by omega)
  next => exact .giveUp attempt.val

theorem lapsed_quiet (c : Coordinator) (nowMs : U64) (partition : PartitionRuntime) :
    Phase.Quiet c.config.maxTaskAttempts.val partition.phase (c.lapsed nowMs partition).phase := by
  cases partition with
  | active task workerId lease startedAtMs =>
    simp only [lapsed, lapse]
    split
    next => exact retryOrFail_quiet _ _ _
    next =>
      split
      next => exact retryOrFail_quiet _ _ _
      next => exact .stay _
  | cancelling task workerId lease =>
    simp only [lapsed, lapse]
    split
    next => exact .acknowledge task.attempt.val
    next => exact .stay _
  | _ => exact .stay _

theorem cancel_quiet (limit : Nat) (partition : PartitionRuntime) :
    Phase.Quiet limit partition.phase partition.cancel.phase := by
  cases partition with
  | pending nextAttempt => exact .drop nextAttempt.val
  | active task workerId lease startedAtMs => exact .stop task.attempt.val
  | cancelling task workerId lease => exact .acknowledge task.attempt.val
  | succeeded task outputBlocks => exact .stay _
  | failed attempt error retryable => exact .forget attempt.val
  | cancelled => exact .stay _

theorem concluded_quiet {maxTaskAttempts : U32} {state : TaskState} {workerId : WorkerId} {lease : TaskLease}
    {finishedAtMs : U64} (finished : finishedAt state = some finishedAtMs)
    (owns : Owns partition task workerId lease) :
    Phase.Quiet maxTaskAttempts.val partition.phase
      (concluded maxTaskAttempts task state partition).phase := by
  rcases owns with rfl | ⟨startedAtMs, rfl⟩
  · exact .acknowledge task.attempt.val
  · cases state with
    | running startedAtMs => cases finished
    | succeeded finishedAtMs outputBlocks => exact .commit task.attempt.val (task, outputBlocks)
    | failed finishedAtMs error retryable =>
      cases retryable with
      | true => exact retryOrFail_quiet _ _ _
      | false => exact .giveUp task.attempt.val
    | cancelled finishedAtMs reason => exact .abandon task.attempt.val

theorem advanced_quiet (c : Coordinator) (nowMs : U64) (place : StageKey × Nat) :
    Phase.Quiet c.config.maxTaskAttempts.val (c.phase place) ((c.advanced nowMs).phase place) := by
  simp only [phase, advanced_partition]
  cases c.partition? place.1 place.2 with
  | none => exact .stay _
  | some partition => exact lapsed_quiet c nowMs partition

theorem begun_quiet (c : Coordinator) (operation : Operation) (place : StageKey × Nat) :
    Phase.Quiet c.config.maxTaskAttempts.val (c.phase place) ((c.begun operation).phase place) := by
  simp only [begun]
  cases operation.time with
  | none => exact .stay _
  | some nowMs => exact advanced_quiet c nowMs place

@[simp] theorem begun_config (c : Coordinator) (operation : Operation) :
    (c.begun operation).config = c.config := by
  simp only [begun]
  cases operation.time with
  | none => rfl
  | some nowMs => exact advanced_config c nowMs

theorem phase_setPartition (c : Coordinator) (key : StageKey) (index : Nat)
    (new : PartitionRuntime) (place : StageKey × Nat) :
    (c.setPartition key index new).phase place =
      if (key, index) = place then (c.partition? key index).elim .absent fun _ => new.phase
      else c.phase place := by
  obtain ⟨other, position⟩ := place
  simp only [phase, partition?_setPartition, Prod.mk.injEq]
  split
  next here =>
    obtain ⟨rfl, rfl⟩ := here
    cases c.partition? key index with
    | none => rfl
    | some old => simp
  next elsewhere =>
    cases c.partition? other position with
    | none => rfl
    | some old => simp

theorem quiet_setPartition {c : Coordinator} {limit : Nat} {key : StageKey} {index : Nat}
    (present : c.partition? key index = some old) (changed : Phase.Quiet limit old.phase new.phase)
    (place : StageKey × Nat) :
    Phase.Quiet limit (c.phase place) ((c.setPartition key index new).phase place) := by
  rw [phase_setPartition]
  split
  next here =>
    rw [← here, phase, present]
    exact changed
  next => exact .stay _

theorem phase_of_stages {first second : Coordinator} (same : first.stages = second.stages)
    (place : StageKey × Nat) : first.phase place = second.phase place := by
  simp only [phase, partition?, same]

section

variable [PhysicalPlanCodec] {c c' : Coordinator} {operation : Operation}
variable {result : Except Fault Reply}

theorem Effect.config (effect : Effect c operation result c') : c'.config = c.config := by
  cases effect with
  | rejected | acknowledged | idle | recancelled | elapsed | submitted | registered | heard
  | cancelled => rfl
  | started => simp
  | concluded => simp
  | assigned => simp

theorem addStage_quiet {plan : StagePlan} (accepted : c.Submittable plan) (limit : Nat)
    (place : StageKey × Nat) :
    Phase.Quiet limit (c.phase place) ((c.addStage plan).phase place) := by
  obtain ⟨key, index⟩ := place
  simp only [phase, partition?, addStage_stages]
  split
  next here =>
    rw [← here, accepted.absent]
    simp only [Option.bind_none, Option.bind_some, Option.elim_none, List.getElem?_replicate]
    split
    next => exact .submit
    next => exact .stay _
  next => exact .stay _

theorem Effect.phase (effect : Effect c operation result c') (place : StageKey × Nat) :
    (∃ task, handedOut result = some task ∧ task.place = place ∧
      c.phase place = .pending task.attempt.val ∧ c'.phase place = .leased task.attempt.val) ∨
    ((∀ task, handedOut result = some task → task.place ≠ place) ∧
      Phase.Quiet c.config.maxTaskAttempts.val (c.phase place) (c'.phase place)) := by
  cases effect with
  | rejected | acknowledged | idle | recancelled | elapsed =>
    exact .inr ⟨by simp [handedOut], .stay _⟩
  | submitted plan accepted => exact .inr ⟨by simp [handedOut], addStage_quiet accepted _ place⟩
  | registered | heard => exact .inr ⟨by simp [handedOut], .stay _⟩
  | started version workerId task lease startedAtMs receivedAtMs reports =>
    have unchanged : Phase.Quiet c.config.maxTaskAttempts.val
        (PartitionRuntime.active task workerId lease none).phase
        (PartitionRuntime.active task workerId lease (some startedAtMs)).phase := .stay _
    exact .inr ⟨by simp [handedOut], quiet_setPartition reports.present unchanged place⟩
  | concluded version workerId task state partition lease finishedAtMs receivedAtMs reports finished =>
    refine .inr ⟨by simp [handedOut], ?_⟩
    rw [phase_of_stages (releaseWorkerSlot_stages _ _)]
    exact quiet_setPartition reports.present (concluded_quiet finished reports.owns) place
  | assigned _ workerId nowMs worker stage task lease left called assigns =>
    have present := (partition?_of_stage assigns.planned task.partitionId.val).trans assigns.pending
    rw [phase_of_stages (setWorker_stages _ _ _), phase_setPartition]
    change _ ∨ _ ∧ Phase.Quiet _ _ (if task.place = place then _ else _)
    by_cases here : task.place = place
    · refine .inl ⟨task, rfl, here, ?_, ?_⟩
      · rw [← here, Coordinator.phase, TaskAttemptId.place, present]
        rfl
      · rw [present]
        exact if_pos here
    · refine .inr ⟨?_, ?_⟩
      · intro other issued
        rw [← Option.some.inj issued]
        exact here
      · rw [if_neg here]
        exact .stay _
  | cancelled queryId reason first =>
    refine .inr ⟨by simp [handedOut], ?_⟩
    simp only [Coordinator.phase, cancelStages_partition]
    cases c.partition? place.1 place.2 with
    | none => exact .stay _
    | some partition =>
      simp only [Option.map_some, Option.elim_some]
      split
      next => exact .stay _
      next => exact cancel_quiet _ partition

end

section

variable [PhysicalPlanCodec] {c : Coordinator}

theorem next_config (ok : c.WellFormed) (operation : Operation) :
    (machine.next operation c).config = c.config := by
  rcases perform_effect ok operation with ⟨error, _, same⟩ | effect
  · exact congrArg Coordinator.config same
  · exact effect.config.trans (begun_config c operation)

theorem next_phase (ok : c.WellFormed) (operation : Operation) (place : StageKey × Nat) :
    ∃ between, Phase.Quiet c.config.maxTaskAttempts.val (c.phase place) between ∧
      ((∃ task, handedOut (machine.output operation c) = some task ∧ task.place = place ∧
          between = .pending task.attempt.val ∧
            (machine.next operation c).phase place = .leased task.attempt.val) ∨
        ((∀ task, handedOut (machine.output operation c) = some task → task.place ≠ place) ∧
          Phase.Quiet c.config.maxTaskAttempts.val between ((machine.next operation c).phase place))) := by
  rcases perform_effect ok operation with ⟨error, failed, same⟩ | effect
  · refine ⟨c.phase place, .stay _, .inr ⟨?_, ?_⟩⟩
    · intro task issued
      change handedOut ((perform operation).run c).1 = some task at issued
      rw [failed] at issued
      cases issued
    · change Phase.Quiet _ _ (((perform operation).run c).2.phase place)
      rw [same]
      exact .stay _
  · have moved := effect.phase place
    rw [begun_config] at moved
    exact ⟨(c.begun operation).phase place, begun_quiet c operation place, moved⟩

theorem next_run (ok : c.WellFormed) (operation : Operation) (place : StageKey × Nat) :
    Phase.Run c.config.maxTaskAttempts.val (c.phase place) ((machine.next operation c).phase place) := by
  obtain ⟨between, first, ⟨task, _, _, pending, leased⟩ | ⟨_, second⟩⟩ := next_phase ok operation place
  · rw [leased]
    rw [pending] at first
    exact (Relation.ReflTransGen.single (.quiet first)).tail (.issue task.attempt.val)
  · exact (Relation.ReflTransGen.single (.quiet first)).tail (.quiet second)

theorem reaches_run {later : Coordinator} (ok : c.WellFormed) (reached : machine.Reaches c later)
    (place : StageKey × Nat) :
    Phase.Run c.config.maxTaskAttempts.val (c.phase place) (later.phase place) ∧
      later.config = c.config := by
  apply reached.induct (fun later => Phase.Run c.config.maxTaskAttempts.val (c.phase place)
    (later.phase place) ∧ later.config = c.config)
  · exact ⟨.refl, rfl⟩
  · intro between operation known ⟨run, config⟩
    have formed := reaches_wellFormed ok known
    refine ⟨run.trans ?_, (next_config formed operation).trans config⟩
    rw [← config]
    exact next_run formed operation place

end

end Coordinator

end SparkX
