import SparkX.Cluster.LocalCluster.Rounds

set_option autoImplicit false

namespace SparkX.LocalCluster

open Std Coordinator

theorem workerId_injective : Function.Injective workerId := by
  intro first second same
  have texts := congrArg String.toList (WorkerId.mk.inj same)
  rw [String.toList_append, String.toList_append, List.append_cancel_left_eq] at texts
  exact Text.padded_injective 4 (String.toList_injective texts)

theorem workerId_valid {index : Nat} (bound : index < 2 ^ 32) : (workerId index).validate = .ok () := by
  have short : (Text.padded 4 index).toList.length ≤ max 4 10 :=
    Text.length_padded (by decide) (Nat.lt_of_lt_of_le bound (by decide))
  have bytes := Text.byteLength_le (Text.padded 4 index)
  have start : String.utf8ByteSize "local-worker-" = 13 := by decide
  simp only [WorkerId.validate, validateTextId, check_ok, rejectIf_ok]
  constructor
  · simp [Text.isBlank, workerId, String.toList_append, Text.isWhitespace]
  · simp only [Text.byteLength, workerId, String.utf8ByteSize_append, start] at bytes ⊢
    omega

variable [PhysicalPlanCodec] {count : U32} {planFragment : List UInt8} {c : Coordinator}

def fresh (count : U32) : Coordinator :=
  { config := config count, workers := ∅, stages := ∅, cancelledQueries := ∅ }

omit [PhysicalPlanCodec] in
theorem new_config (positive : 0 < count.val) : Coordinator.new (config count) = .ok (fresh count) := by
  have partitions : count ≠ 0 := Fin.ne_of_gt (Fin.lt_def.mpr positive)
  have half : (Word.maxValue / 2 : U64) ≠ 0 := by decide
  simp [Coordinator.new, CoordinatorConfig.validate, config, fresh, rejectIf, half, partitions, bind,
    Except.bind, pure, Except.pure]

theorem stage_submittable (positive : 0 < count.val)
    (encoded : PhysicalPlanCodec.validateFragment planFragment = .ok ()) :
    (fresh count).Submittable (stage count planFragment) where
  valid :=
    { query := show queryId.validate = .ok () by decide
      partitions := Fin.ne_of_gt (Fin.lt_def.mpr positive)
      exchange := nofun
      partitioned := nofun
      fragment := encoded
      acyclic := nofun
      distinct := List.nodup_nil }
  live := TreeMap.not_mem_emptyc
  absent := TreeMap.getElem?_emptyc
  dependencies := nofun

theorem submitted_working (positive : 0 < count.val)
    (encoded : PhysicalPlanCodec.validateFragment planFragment = .ok ()) :
    Working count planFragment ((fresh count).addStage (stage count planFragment)) [] [] := by
  have stored (key : StageKey) : ((fresh count).addStage (stage count planFragment)).stages[key]? =
      if stageKey = key then
        some ⟨stage count planFragment, List.replicate count.val (.pending 0)⟩ else none := by
    have empty : (fresh count).stages[key]? = none := TreeMap.getElem?_emptyc
    rw [addStage_stages, empty]
    rfl
  have pending (index : Nat) (partition : PartitionRuntime)
      (present : ((fresh count).addStage (stage count planFragment)).partition? stageKey index =
        some partition) : partition = .pending 0 := by
    rw [partition?, stored, if_pos rfl, Option.bind_some] at present
    exact List.eq_of_mem_replicate (List.mem_of_getElem? present)
  refine
    { ok := addStage_wellFormed (new_wellFormed (new_config positive))
        (stage_submittable positive encoded)
      config := rfl
      live := TreeMap.not_mem_emptyc
      only := ?_
      planned := ?_
      workers := ?_
      leases := ?_
      standing := ?_
      runs := by simp
      done := by simp
      apart := List.nodup_nil }
  · intro key runtime present
    rw [stored] at present
    split at present
    next same => exact same.symm
    next => cases present
  · rw [plan?, stored, if_pos rfl]
    rfl
  · intro workerId worker present
    simp [fresh, addStage] at present
  · intro index partition lease present held
    rw [pending index partition present] at held
    cases held
  · intro index partition present
    rw [pending index partition present]
    trivial

section

variable {memoryBytes : U64} {running : List (WorkerId × TaskAttemptId)}
variable {completed : List PartitionId} {index : Nat}

def hired (c : Coordinator) (memoryBytes : U64) (index : Nat) : Coordinator :=
  c.setWorker (workerId index) (freshWorker (registration memoryBytes index) 0)

theorem Working.hired (working : Working count planFragment c running completed)
    (bound : index < 2 ^ 32) (absent : c.workers[workerId index]? = none) :
    Working count planFragment (hired c memoryBytes index) running completed := by
  have formed : (c.setWorker (registration memoryBytes index).workerId
      (freshWorker (registration memoryBytes index) 0)).WellFormed := by
    apply registered_wellFormed working.ok 0 absent
    exact workerId_valid bound
  refine
    { ok := formed
      config := working.config
      live := working.live
      only := working.only
      planned := working.planned
      workers := ?_
      leases := working.leases
      standing := working.standing
      runs := working.runs
      done := working.done
      apart := working.apart }
  intro other worker present
  have registered := present
  rw [LocalCluster.hired, setWorker_workers] at present
  split at present
  next same =>
    cases present
    subst same
    refine ⟨rfl, Nat.one_pos, ?_⟩
    rw [load, available, registered, Option.elim_some, LocalCluster.hired,
      occupied_of_stages _ (setWorker_stages c _ _), occupied_unregistered working.ok absent]
    rfl
  next apart =>
    rw [LocalCluster.hired, c.load_setWorker_other other _ apart]
    exact working.workers other worker present

theorem registerLocal_run (working : Working count planFragment c running completed)
    (limited : 0 < memoryBytes) (bound : index < 2 ^ 32)
    (absent : c.workers[workerId index]? = none) :
    (registerLocal memoryBytes index).run c = (.ok (), hired c memoryBytes index) := by
  have valid : (WorkerMessage.register protocolVersion
      (registration memoryBytes index)).validate = .ok () := by
    have numbered : validateVersion protocolVersion = .ok () := rfl
    simp only [WorkerMessage.validate, WorkerRegistration.validate, check_ok, rejectIf_ok]
    exact ⟨numbered, workerId_valid bound, Fin.ne_of_gt Fin.zero_lt_one, Fin.ne_of_gt limited⟩
  have unknown : (registration memoryBytes index).workerId ∉ (c.advanced 0).workers := by
    rw [working.advanced, ← TreeMap.isSome_getElem?_iff_mem]
    change ¬(c.workers[workerId index]?).isSome = true
    rw [absent]
    exact Bool.false_ne_true
  have handled := handleWorkerMessage_register valid unknown
  rw [working.advanced] at handled
  rw [registerLocal, run_check (workerId_valid bound)]
  exact handled

theorem registerLocal_all {indices : List Nat}
    (working : Working count planFragment c running completed) (limited : 0 < memoryBytes)
    (bound : ∀ index ∈ indices, index < 2 ^ 32)
    (absent : ∀ index ∈ indices, c.workers[workerId index]? = none) (distinct : indices.Nodup) :
    ∃ c', (indices.forM (registerLocal memoryBytes)).run c = (.ok (), c') ∧
      Working count planFragment c' running completed ∧ (indices ≠ [] ∨ Staffed c → Staffed c') := by
  induction indices generalizing c with
  | nil => exact ⟨c, rfl, working, fun staffed => staffed.resolve_left (by simp)⟩
  | cons index rest ih =>
    obtain ⟨new, later⟩ := List.nodup_cons.mp distinct
    have small := bound index (by simp)
    have unknown := absent index (by simp)
    have remaining : ∀ other ∈ rest, (hired c memoryBytes index).workers[workerId other]? = none := by
      intro other member
      have apart : workerId index ≠ workerId other := by
        intro same
        rw [workerId_injective same] at new
        exact new member
      rw [hired, setWorker_workers, if_neg apart]
      exact absent other (List.mem_cons_of_mem _ member)
    have staff : Staffed (hired c memoryBytes index) :=
      ⟨workerId index, _, by rw [hired, setWorker_workers, if_pos rfl]⟩
    obtain ⟨c', ran, formed, staffed⟩ := ih (working.hired small unknown)
      (fun other member => bound other (List.mem_cons_of_mem _ member)) remaining later
    refine ⟨c', ?_, formed, fun _ => staffed (.inr staff)⟩
    rw [Stateful.run_forM_cons (registerLocal_run working limited small unknown)]
    exact ran

end

theorem start_working (cluster : LocalCluster) (positive : 0 < count.val)
    (encoded : PhysicalPlanCodec.validateFragment planFragment = .ok ()) {memoryBytes : U64}
    (limited : 0 < memoryBytes) :
    ∃ c, cluster.start count.val planFragment memoryBytes = .ok c ∧
      Working count planFragment c [] [] ∧ Staffed c := by
  have bound : ∀ index ∈ List.range (min cluster.workers count.val), index < 2 ^ 32 := by
    intro index member
    have := List.mem_range.mp member
    have := count.isLt
    omega
  have some : List.range (min cluster.workers count.val) ≠ [] := by
    rw [Ne, List.range_eq_nil]
    have := cluster.positive
    omega
  have accepted := stage_submittable positive encoded
  have submitted : (submitStage (stage count planFragment)).run (fresh count) =
      (.ok (), (fresh count).addStage (stage count planFragment)) :=
    submitStage_run accepted.valid (Fin.le_refl _) accepted.live TreeMap.not_mem_emptyc rfl rfl rfl
  obtain ⟨c, registered, working, staffed⟩ := registerLocal_all
    (submitted_working positive encoded) limited bound
    (fun index _ => TreeMap.getElem?_emptyc) List.nodup_range
  refine ⟨c, ?_, working, staffed (.inl some)⟩
  have fits : okOr (Word.tryFrom count.val) (.execution
      s!"local cluster partition count {count.val} exceeds the protocol limit") = .ok count :=
    okOr_ok.mpr (Word.tryFrom_eq_some.mpr rfl)
  have named : queryId.validate = .ok () := by decide
  have prepared : (cluster.prepare count planFragment memoryBytes).run (fresh count) = (.ok (), c) := by
    rw [prepare, Stateful.run_bind_ok submitted]
    exact registered
  refine bind_ok.mpr ⟨count, lift_ok.mpr fits, check_ok.mpr ⟨lift_ok.mpr named, ?_⟩⟩
  refine bind_ok.mpr ⟨fresh count, lift_ok.mpr (new_config positive), ?_⟩
  rw [prepared]

end SparkX.LocalCluster
