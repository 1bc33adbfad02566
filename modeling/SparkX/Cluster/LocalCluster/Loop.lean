import SparkX.Cluster.LocalCluster.Start

set_option autoImplicit false

namespace SparkX.LocalCluster

open Std Coordinator

section

variable [PhysicalPlanCodec] {count : U32} {planFragment : List UInt8} {c : Coordinator}
variable {running : List (WorkerId × TaskAttemptId)} {completed : List PartitionId}
variable {Row : Type} {surroundings : Surroundings Row} {partials : PartitionId → List Row}
variable {transported : PartitionId → List (List Row)} {fuel : Nat}

section

variable {partitions steps : Nat} {progress later : Progress Row} {c' : Coordinator}

theorem loop_continues (short : progress.partialBatches.length < partitions)
    (ran : (round surroundings fuel progress).run c = (.ok (some later), c')) :
    (loop surroundings partitions fuel (steps + 1) progress).run c =
      (loop surroundings partitions fuel steps later).run c' := by
  rw [loop, if_pos short, Stateful.run_bind_ok ran]

theorem loop_fails (steps : Nat) {fault : Fault} (short : progress.partialBatches.length < partitions)
    (failed : ((round surroundings fuel progress).run c).1 = .error fault) :
    ∃ c', (loop surroundings partitions fuel (steps + 1) progress).run c = (.error fault, c') := by
  refine ⟨((round surroundings fuel progress).run c).2, ?_⟩
  rw [loop, if_pos short, Stateful.run_bind]
  generalize (round surroundings fuel progress).run c = outcome at failed ⊢
  obtain ⟨result, final⟩ := outcome
  dsimp only at failed
  rw [failed]

theorem loop_stops (reached : ¬progress.partialBatches.length < partitions) :
    (loop surroundings partitions fuel (steps + 1) progress).run c = (.ok (some progress), c) := by
  rw [loop, if_neg reached]
  rfl

end

section

variable {batches : List (List Row)} {order : List PartitionId}

inductive Ending (count : U32) (planFragment : List UInt8)
    (transported : PartitionId → List (List Row)) (batches : List (List Row))
    (completed order : List PartitionId) :
    Except Fault (Option (Progress Row)) × Coordinator → Prop
  | early (joined : Nat) (later : List (WorkerId × TaskAttemptId)) (c' : Coordinator)
      (before : joined < order.length)
      (reached : count.val ≤ (batches ++ (order.take joined).flatMap transported).length)
      (working : Working count planFragment c' later (completed ++ order.take joined)) :
    Ending count planFragment transported batches completed order
      (.ok (some ⟨later, batches ++ (order.take joined).flatMap transported,
        completed ++ order.take joined⟩), c')
  | complete (later : List (WorkerId × TaskAttemptId)) (c' : Coordinator)
      (short : ∀ joined < order.length,
        (batches ++ (order.take joined).flatMap transported).length < count.val)
      (reached : count.val ≤ (batches ++ order.flatMap transported).length)
      (working : Working count planFragment c' later (completed ++ order)) :
    Ending count planFragment transported batches completed order
      (.ok (some ⟨later, batches ++ order.flatMap transported, completed ++ order⟩), c')
  | stuck (c' : Coordinator)
      (missing : (batches ++ order.flatMap transported).length < count.val) :
    Ending count planFragment transported batches completed order
      (.error (.error noRunningTasks), c')

omit [PhysicalPlanCodec] in
theorem received_cons (partitionId : PartitionId) (rest : List PartitionId) :
    batches ++ (partitionId :: rest).flatMap transported =
      (batches ++ transported partitionId) ++ rest.flatMap transported := by
  rw [List.flatMap_cons, List.append_assoc]

theorem Ending.cons {partitionId : PartitionId}
    {outcome : Except Fault (Option (Progress Row)) × Coordinator}
    (short : batches.length < count.val)
    (ending : Ending count planFragment transported (batches ++ transported partitionId)
      (completed ++ [partitionId]) order outcome) :
    Ending count planFragment transported batches completed (partitionId :: order) outcome := by
  cases ending with
  | early joined later c' before reached working =>
    rw [← received_cons] at reached ⊢
    rw [← List.append_cons] at working ⊢
    exact .early (joined + 1) later c' (Nat.succ_lt_succ before) reached working
  | complete later c' shorter reached working =>
    rw [← received_cons] at reached ⊢
    rw [← List.append_cons] at working ⊢
    refine .complete later c' ?_ reached working
    intro joined inside
    cases joined with
    | zero => simpa using short
    | succ joined =>
      rw [List.take_succ_cons, received_cons]
      exact shorter joined (Nat.lt_of_succ_lt_succ inside)
  | stuck c' missing =>
    rw [← received_cons] at missing
    exact .stuck c' missing

theorem loop_ending (quiet : Undisturbed surroundings partials transported)
    (working : Working count planFragment c running completed) (staffed : Staffed c)
    (enough : count.val < fuel) (batches : List (List Row)) {turns steps : Nat}
    (remaining : completed.length + turns = count.val) (fueled : turns < steps) :
    ∃ later order c',
      (rounds surroundings fuel turns ⟨running, batches, completed⟩).run c =
        (.ok (some ⟨later, batches ++ order.flatMap transported, completed ++ order⟩), c') ∧
      order.length = turns ∧ Working count planFragment c' later (completed ++ order) ∧
      Ending count planFragment transported batches completed order
        ((loop surroundings count.val fuel steps ⟨running, batches, completed⟩).run c) := by
  induction turns generalizing c running batches completed steps with
  | zero =>
    obtain ⟨steps, rfl⟩ := Nat.exists_eq_add_one.mpr fueled
    have done : Working count planFragment c running (completed ++ []) := by simpa using working
    refine ⟨running, [], c, by simp [rounds], rfl, done, ?_⟩
    by_cases short : batches.length < count.val
    · obtain ⟨c', ran⟩ := loop_fails steps short
        (round_finished batches quiet working staffed enough remaining)
      rw [ran]
      exact .stuck c' (by simpa using short)
    · have stopped : Ending count planFragment transported batches completed []
          (.ok (some ⟨running, batches ++ [].flatMap transported, completed ++ []⟩), c) :=
        .complete running c (by simp) (by simpa using short) done
      rw [loop_stops short]
      simpa using stopped
  | succ turns ih =>
    obtain ⟨steps, rfl⟩ := Nat.exists_eq_add_one.mpr (Nat.zero_lt_of_lt fueled)
    obtain ⟨later, partitionId, between, ran, next, hired⟩ :=
      round_working batches quiet working staffed enough (by omega)
    have left : (completed ++ [partitionId]).length + turns = count.val := by
      rw [List.length_append, List.length_singleton]
      omega
    obtain ⟨last, order, final, rest, length, done, ending⟩ :=
      ih next hired (batches ++ transported partitionId) left (Nat.lt_of_succ_lt_succ fueled)
    rw [← received_cons, ← List.append_cons] at rest
    rw [← List.append_cons] at done
    refine ⟨last, partitionId :: order, final, ?_, by rw [List.length_cons, length], done, ?_⟩
    · rw [rounds, Stateful.run_bind_ok ran]
      exact rest
    · by_cases short : batches.length < count.val
      · rw [loop_continues short ran]
        exact ending.cons short
      · -- The batches of earlier tasks already suffice, so this one is never joined.
        have stopped : Ending count planFragment transported batches completed (partitionId :: order)
            (.ok (some ⟨running, batches ++ ((partitionId :: order).take 0).flatMap transported,
              completed ++ (partitionId :: order).take 0⟩), c) :=
          .early 0 running c (by simp) (by simpa using short) (by simpa using working)
        rw [loop_stops short]
        simpa using stopped

end

def completionOrder (cluster : LocalCluster) (count : U32) (planFragment : List UInt8)
    (surroundings : Surroundings Row) (fuel : Nat) : List PartitionId :=
  match cluster.start count.val planFragment surroundings.memoryBytes with
  | .error _ => []
  | .ok c =>
    match ((rounds surroundings fuel count.val initial).run c).1 with
    | .ok (some progress) => progress.completed
    | _ => []

-- The loop ends with every partition succeeded, and the merge gets the rows of each once.
def Delivers (cluster : LocalCluster) (count : U32) (planFragment : List UInt8)
    (surroundings : Surroundings Row) (fuel : Nat) (partials : PartitionId → List Row) : Prop :=
  ∃ c progress final,
    cluster.start count.val planFragment surroundings.memoryBytes = .ok c ∧
    (loop surroundings count.val fuel fuel initial).run c = (.ok (some progress), final) ∧
    (∀ index < count.val, ∃ task blocks,
      final.partition? stageKey index = some (.succeeded task blocks)) ∧
    progress.partialBatches.flatten.Perm ((partitionIds count).flatMap partials) ∧
    cluster.execute count.val planFragment surroundings fuel =
      ((surroundings.mergePartials progress.partialBatches).mapError Fault.error).map some

def LastSuffices (count : U32) (transported : PartitionId → List (List Row))
    (order : List PartitionId) : Prop :=
  (∀ joined < order.length, ((order.take joined).flatMap transported).length < count.val) ∧
    count.val ≤ (order.flatMap transported).length

theorem Working.succeeded_iff (working : Working count planFragment c running completed) :
    (∀ index < count.val, ∃ task blocks,
      c.partition? stageKey index = some (.succeeded task blocks)) ↔
      completed.length = count.val := by
  constructor
  · intro succeeded
    have every : partitionIds count ⊆ completed := by
      intro partitionId member
      obtain ⟨task, blocks, present⟩ :=
        succeeded partitionId.val (Fin.lt_def.mp (mem_partitionIds.mp member))
      obtain ⟨joined, inside, same⟩ := working.standing _ _ present
      rw [← Fin.ext same]
      exact inside
    have covered := ((nodup_partitionIds count).subperm every).length_le
    rw [length_partitionIds] at covered
    have := working.length_le
    omega
  · intro all index inside
    have member : (⟨index, Nat.lt_trans inside count.isLt⟩ : PartitionId) ∈ completed :=
      (working.complete all).mem_iff.mpr (mem_partitionIds.mpr (Fin.lt_def.mpr inside))
    exact working.done _ member

omit [PhysicalPlanCodec] in
theorem Undisturbed.rows (quiet : Undisturbed surroundings partials transported)
    (order : List PartitionId) :
    (order.flatMap transported).flatten = order.flatMap partials := by
  induction order with
  | nil => rfl
  | cons partitionId rest ih =>
    rw [List.flatMap_cons, List.flatten_append, quiet.lossless, ih, List.flatMap_cons]

theorem execute_merges (cluster : LocalCluster)
    (quiet : Undisturbed surroundings partials transported) {progress : Progress Row}
    {final : Coordinator}
    (started : cluster.start count.val planFragment surroundings.memoryBytes = .ok c)
    (looped : (loop surroundings count.val fuel fuel initial).run c = (.ok (some progress), final)) :
    cluster.execute count.val planFragment surroundings fuel =
      ((surroundings.mergePartials progress.partialBatches).mapError Fault.error).map some := by
  rw [execute, started]
  change (((loop surroundings count.val fuel fuel initial).run c).1 >>= _) = _
  rw [looped]
  change ((liftM surroundings.close : Except Fault Unit) >>= _) = _
  rw [quiet.closed]
  change ((liftM (checkCancelled (surroundings.cancelled (2 * progress.completed.length))) :
    Except Fault Unit) >>= _) = _
  rw [quiet.check]
  change ((liftM (surroundings.mergePartials progress.partialBatches) :
    Except Fault (List Row)) >>= _) = _
  cases surroundings.mergePartials progress.partialBatches <;> rfl

theorem delivers_iff (cluster : LocalCluster)
    (quiet : Undisturbed surroundings partials transported)
    (started : cluster.start count.val planFragment surroundings.memoryBytes = .ok c) :
    cluster.Delivers count planFragment surroundings fuel partials ↔ ∃ progress final,
      (loop surroundings count.val fuel fuel initial).run c = (.ok (some progress), final) ∧
      (∀ index < count.val, ∃ task blocks,
        final.partition? stageKey index = some (.succeeded task blocks)) ∧
      progress.partialBatches.flatten.Perm ((partitionIds count).flatMap partials) := by
  constructor
  · rintro ⟨found, progress, final, same, looped, succeeded, rows, _⟩
    obtain rfl := Except.ok.inj (started.symm.trans same)
    exact ⟨progress, final, looped, succeeded, rows⟩
  · rintro ⟨progress, final, looped, succeeded, rows⟩
    exact ⟨c, progress, final, started, looped, succeeded, rows,
      execute_merges cluster quiet started looped⟩

theorem Ending.delivers_iff {cluster : LocalCluster} {order : List PartitionId}
    (quiet : Undisturbed surroundings partials transported)
    (started : cluster.start count.val planFragment surroundings.memoryBytes = .ok c)
    (length : order.length = count.val)
    (ending : Ending count planFragment transported [] [] order
      ((loop surroundings count.val fuel fuel initial).run c)) :
    cluster.Delivers count planFragment surroundings fuel partials ↔
      LastSuffices count transported order := by
  rw [LocalCluster.delivers_iff cluster quiet started]
  generalize (loop surroundings count.val fuel fuel initial).run c = outcome at ending ⊢
  cases ending with
  | early joined later final before reached working =>
    constructor
    · rintro ⟨progress, found, same, succeeded, _⟩
      cases same
      have all := working.succeeded_iff.mp succeeded
      simp only [List.nil_append, List.length_take] at all
      omega
    · rintro ⟨short, _⟩
      exact absurd (short joined before) (Nat.not_lt.mpr reached)
  | complete later final short reached working =>
    constructor
    · intro _
      exact ⟨short, reached⟩
    · intro _
      refine ⟨_, final, rfl, working.succeeded_iff.mpr length, ?_⟩
      rw [List.nil_append, quiet.rows]
      exact (working.complete length).flatMap_right partials
  | stuck final missing =>
    constructor
    · rintro ⟨progress, found, same, _⟩
      cases same
    · rintro ⟨_, reached⟩
      exact absurd missing (Nat.not_lt.mpr reached)

omit [PhysicalPlanCodec] in
theorem lastSuffices_of_single {order : List PartitionId}
    (single : ∀ partitionId, (transported partitionId).length = 1)
    (length : order.length = count.val) : LastSuffices count transported order := by
  have counted (joined : List PartitionId) : (joined.flatMap transported).length = joined.length := by
    rw [List.length_flatMap]
    simp [single]
  constructor
  · intro joined before
    rw [counted, List.length_take]
    omega
  · rw [counted, length]

end

section

open Sample

def sent (transported : PartitionId → List (List Nat)) (partitionId : PartitionId) : List Nat :=
  (transported partitionId).flatten

def sampleRun (transported : PartitionId → List (List Nat)) : Surroundings Nat :=
  { memoryBytes := 1024
    limited := by decide
    task := fun partitionId => .ok (sent transported partitionId)
    exchange := fun partitionId _ => .ok (transported partitionId)
    cancelled := fun _ => false
    pick := fun _ => 0
    close := .ok ()
    mergePartials := fun batches => .ok batches.flatten }

theorem sampleRun_undisturbed (transported : PartitionId → List (List Nat)) :
    Undisturbed (sampleRun transported) (sent transported) transported :=
  ⟨fun _ => rfl, fun _ => rfl, fun _ => rfl, fun _ => rfl, rfl⟩

def whole (partitionId : PartitionId) : List (List Nat) :=
  if partitionId = 0 then [[10, 11]] else [[20]]

def sliced (partitionId : PartitionId) : List (List Nat) :=
  if partitionId = 0 then [[10], [11]] else [[20]]

def dropped (partitionId : PartitionId) : List (List Nat) :=
  if partitionId = 0 then [] else [[20]]

end

end SparkX.LocalCluster
