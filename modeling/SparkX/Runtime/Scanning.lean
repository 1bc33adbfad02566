import SparkX.Runtime.Execution
import SparkX.Shared.Transition

set_option autoImplicit false

-- `execute_scan` asks every partition whether it may match and starts a task for each that may. The
-- tasks share a bounded channel with the loop. A task waits for room in it, while the loop throws
-- its error away when there is none; and nobody receives before the loop is over.

namespace SparkX

variable {F : Type}

structure ScanCall (F : Type) where
  provider : TableProvider F
  projection : Option (List Nat)
  filters : List (Expr F)
  context : TaskContext
  channelCapacity : Nat

structure ScanRun (F : Type) where
  partitions : List Nat
  tasks : List (BatchStream F) := []
  queue : BatchStream F := []
  received : BatchStream F := []

inductive ScanStep where
  | loop
  | send (task : Nat)
  | receive
deriving DecidableEq

variable {task : Nat} {item : Except SparkXError (RecordBatch F)} {others : BatchStream F}

namespace ScanRun

def contents (run : ScanRun F) : BatchStream F := run.received ++ run.queue ++ run.tasks.flatten

def Drained (run : ScanRun F) : Prop :=
  run.partitions = [] ∧ run.queue = [] ∧ run.tasks.flatten = []

theorem Drained.contents {run : ScanRun F} (drained : run.Drained) : run.contents = run.received := by
  rw [ScanRun.contents, drained.2.1, drained.2.2, List.append_nil, List.append_nil]

variable {tasks : List (BatchStream F)}

theorem set_flatten_perm {rest : BatchStream F} (found : tasks[task]? = some (item :: rest)) :
    ([item] ++ (tasks.set task rest).flatten).Perm tasks.flatten := by
  induction tasks generalizing task with
  | nil => cases found
  | cons first others ih =>
    cases task with
    | zero =>
      cases found
      exact .refl _
    | succ task =>
      have moved := (ih (by simpa using found)).append_left first
      refine .trans ?_ moved
      simp only [List.set_cons_succ, List.flatten_cons, List.cons_append, List.nil_append]
      exact List.perm_middle.symm

theorem send_contents {run : ScanRun F} (found : run.tasks[task]? = some (item :: others)) :
    ({ run with tasks := run.tasks.set task others, queue := run.queue ++ [item] } : ScanRun F).contents.Perm
      run.contents := by
  simp only [contents, List.append_assoc]
  exact ((set_flatten_perm found).append_left _).append_left _

theorem exists_sender (busy : tasks.flatten ≠ []) :
    ∃ (task : Nat) (item : Except SparkXError (RecordBatch F)) (others : BatchStream F),
      tasks[task]? = some (item :: others) := by
  obtain ⟨item, sent⟩ := List.exists_mem_of_ne_nil _ busy
  obtain ⟨stream, listed, member⟩ := List.mem_flatten.mp sent
  obtain ⟨task, found⟩ := List.mem_iff_getElem?.mp listed
  cases stream with
  | nil => cases member
  | cons first others => exact ⟨task, first, others, found⟩

end ScanRun

namespace ScanCall

variable (call : ScanCall F)

def partitions : List Nat :=
  call.context.partition.elim (List.range call.provider.partitionCount) ([·])

def mayMatch (partition : Nat) : Except SparkXError Bool :=
  call.provider.partitionMayMatch partition call.filters

def matching (partition : Nat) : Bool := call.mayMatch partition matches .ok true

theorem matching_iff {call : ScanCall F} {partition : Nat} :
    call.matching partition ↔ call.mayMatch partition = .ok true := by
  unfold matching
  split <;> simp_all

variable [ArrowKernels F]

def sends (partition : Nat) : BatchStream F :=
  scanStream call.provider call.projection call.filters call.context.batchSize true partition

def step : ScanStep → ScanRun F → ScanRun F
  | .loop, run =>
    match run.partitions with
    | [] => run
    | partition :: rest =>
      match call.mayMatch partition with
      | .ok true => { run with partitions := rest, tasks := run.tasks ++ [call.sends partition] }
      | .ok false => { run with partitions := rest }
      -- `try_send`
      | .error error =>
        if run.queue.length < call.channelCapacity then
          { run with partitions := rest, queue := run.queue ++ [.error error] }
        else { run with partitions := rest }
  | .send task, run =>
    match run.tasks[task]? with
    | some (item :: rest) =>
      if run.queue.length < call.channelCapacity then
        { run with tasks := run.tasks.set task rest, queue := run.queue ++ [item] }
      else run
    | _ => run
  | .receive, run =>
    match run.partitions, run.queue with
    | [], item :: rest => { run with queue := rest, received := run.received ++ [item] }
    | _, _ => run

def machine : Machine (ScanRun F) ScanStep Unit where
  step input run := ((), call.step input run)

def Refused (partition : Nat) : Prop := ∃ error, call.mayMatch partition = .error error

-- The tasks of the partitions before the first one that is refused cannot fill the channel.
def Fits : Prop :=
  ∀ before partition after, call.partitions = before ++ partition :: after → call.Refused partition →
    (∀ earlier ∈ before, ¬call.Refused earlier) → (before.flatMap call.sends).length < call.channelCapacity

-- The partitions that the loop has come to, and those of them whose messages were not thrown away.
structure Accounted (run : ScanRun F) (done told : List Nat) : Prop where
  split : call.partitions = done ++ run.partitions
  contents : run.contents.Perm (told.flatMap call.sends)
  whole : (∀ partition ∈ done, ¬call.Refused partition) → told = done
  spared : ∀ partition ∈ done, ¬call.Refused partition → partition ∈ told
  reported : call.Fits → ∀ partition ∈ done, call.Refused partition → ∃ other ∈ told, call.Refused other

variable {call}

theorem sends_pruned {partition : Nat} (pruned : call.mayMatch partition = .ok false) :
    call.sends partition = [] := by
  unfold mayMatch at pruned
  rw [sends, scanStream, pruned]

variable {error : SparkXError}

theorem sends_refused {partition : Nat} (refused : call.mayMatch partition = .error error) :
    call.sends partition = [.error error] := by
  unfold mayMatch at refused
  rw [sends, scanStream, refused]
  rfl

theorem sends_failed {partition : Nat} (matched : call.mayMatch partition = .ok true)
    (failed : call.provider.scanPartition partition call.projection call.context.batchSize = .error error) :
    call.sends partition = [.error error] := by
  unfold mayMatch at matched
  rw [sends, scanStream, matched, failed]

variable {run next : ScanRun F} {done told rest : List Nat} {partition : Nat}

theorem Accounted.sends (accounted : call.Accounted run done told) (here : run.partitions = partition :: rest)
    (after : next.partitions = rest) (contents : next.contents.Perm (run.contents ++ call.sends partition)) :
    call.Accounted next (done ++ [partition]) (told ++ [partition]) where
  split := by simp [accounted.split, here, after]
  contents := by
    rw [List.flatMap_append, List.flatMap_singleton]
    exact contents.trans (accounted.contents.append_right _)
  whole unrefused := by rw [accounted.whole fun other member => unrefused other (List.mem_append_left _ member)]
  spared other member unrefused := (List.mem_append.mp member).elim
    (fun member => List.mem_append_left _ (accounted.spared other member unrefused)) (List.mem_append_right _)
  reported fits other member refused := by
    rcases List.mem_append.mp member with member | member
    · obtain ⟨known, listed, reason⟩ := accounted.reported fits other member refused
      exact ⟨known, List.mem_append_left _ listed, reason⟩
    · exact ⟨other, List.mem_append_right _ member, refused⟩

theorem Accounted.drops (accounted : call.Accounted run done told) (here : run.partitions = partition :: rest)
    (after : next.partitions = rest) (contents : next.contents = run.contents) (refused : call.Refused partition)
    (full : call.channelCapacity ≤ run.queue.length) : call.Accounted next (done ++ [partition]) told where
  split := by simp [accounted.split, here, after]
  contents := contents ▸ accounted.contents
  whole unrefused := absurd refused (unrefused partition (List.mem_append_right _ (List.mem_singleton_self _)))
  spared other member unrefused := (List.mem_append.mp member).elim (accounted.spared other · unrefused)
    fun member => absurd (List.mem_singleton.mp member ▸ refused) unrefused
  reported fits _ _ _ := by
    by_cases earlier : ∃ other ∈ done, call.Refused other
    · obtain ⟨other, member, reason⟩ := earlier
      exact accounted.reported fits other member reason
    -- This is the first one that is refused: what is queued comes from the tasks before it.
    · push Not at earlier
      have few := fits done partition rest (by rw [accounted.split, here]) refused earlier
      have queued := accounted.contents.length_eq
      rw [accounted.whole earlier, ScanRun.contents, List.length_append, List.length_append] at queued
      omega

theorem Accounted.step (accounted : call.Accounted run done told) (input : ScanStep) :
    ∃ done told, call.Accounted (call.step input run) done told := by
  have stays {next : ScanRun F} (same : next.partitions = run.partitions) (kept : next.contents.Perm run.contents) :
      ∃ done told, call.Accounted next done told :=
    ⟨done, told, { accounted with split := same ▸ accounted.split, contents := kept.trans accounted.contents }⟩
  cases input with
  | loop =>
    simp only [ScanCall.step]
    split
    next => exact ⟨done, told, accounted⟩
    next partition rest here =>
      split
      next => exact ⟨_, _, accounted.sends here rfl (by simp [ScanRun.contents])⟩
      next pruned => exact ⟨_, _, accounted.sends here rfl (by simp [ScanRun.contents, sends_pruned pruned])⟩
      next error refused =>
        split
        next =>
          refine ⟨_, _, accounted.sends here rfl ?_⟩
          simp only [ScanRun.contents, sends_refused refused, List.append_assoc]
          exact (List.perm_append_comm.append_left _).append_left _
        next full => exact ⟨_, _, accounted.drops here rfl rfl ⟨error, refused⟩ (not_lt.mp full)⟩
  | send task =>
    simp only [ScanCall.step]
    split
    next item rest found =>
      split
      next => exact stays rfl (ScanRun.send_contents found)
      next => exact ⟨done, told, accounted⟩
    next => exact ⟨done, told, accounted⟩
  | receive =>
    simp only [ScanCall.step]
    split
    next queued => exact stays rfl (by simp [ScanRun.contents, queued])
    next => exact ⟨done, told, accounted⟩

theorem accounted_of_reaches (reached : call.machine.Reaches { partitions := call.partitions } run) :
    ∃ done told, call.Accounted run done told := by
  refine reached.induct (fun run => ∃ done told, call.Accounted run done told) ?_ ?_
  · exact ⟨[], [], rfl, .refl _, fun _ => rfl, by simp, by simp⟩
  · intro run input _ ⟨done, told, accounted⟩
    exact accounted.step input

theorem Accounted.received (accounted : call.Accounted run done told) (drained : run.Drained) :
    run.received.Perm (told.flatMap call.sends) ∧ done = call.partitions :=
  ⟨drained.contents ▸ accounted.contents, by rw [accounted.split, drained.1, List.append_nil]⟩

variable (call)

-- The errors of a partition that is not pruned.
def Fails (partition : Nat) : Prop :=
  ∃ error, call.mayMatch partition = .error error ∨ call.mayMatch partition = .ok true ∧
    call.provider.scanPartition partition call.projection call.context.batchSize = .error error

-- The task of a matching partition sends its error with `send`, which waits for room.
def SendsError (partition : Nat) : Prop :=
  call.mayMatch partition = .ok true ∧ ∃ error, .error error ∈ call.sends partition

-- A task that panics in a filter stops without a word.
def Calm : Prop :=
  ∀ partition ∈ call.partitions, call.mayMatch partition = .ok true → ∀ batches,
    call.provider.scanPartition partition call.projection call.context.batchSize = .ok batches →
      ∀ batch ∈ batches, ¬Panics (call.filters.foldlM filterBatch batch)

def filtered (partition : Nat) : Except Fault (List (RecordBatch F)) := do
  let batches ← call.provider.scanPartition partition call.projection call.context.batchSize
  batches.mapM (call.filters.foldlM filterBatch ·)

def scanned : List Nat := call.partitions.filter fun partition => !(call.mayMatch partition matches .ok false)

variable {call}

theorem scanTask_ok {filters : List (Expr F)} {batches : List (RecordBatch F)}
    (quiet : ∀ error, .error error ∉ scanTask filters batches)
    (calm : ∀ batch ∈ batches, ¬Panics (filters.foldlM filterBatch batch)) :
    ∃ outputs, batches.mapM (filters.foldlM filterBatch ·) = .ok outputs ∧ scanTask filters batches = outputs.map .ok := by
  induction batches with
  | nil => exact ⟨[], rfl, rfl⟩
  | cons batch rest ih =>
    unfold scanTask at quiet ⊢
    cases first : filters.foldlM filterBatch batch with
    | error fault =>
      rw [first] at quiet
      cases fault with
      | error error => exact absurd (List.mem_singleton_self _) (quiet error)
      | panic message => exact absurd ⟨message, first⟩ (calm batch (List.mem_cons_self ..))
    | ok output =>
      rw [first] at quiet
      obtain ⟨outputs, same, sent⟩ := ih (fun error member => quiet error (List.mem_cons_of_mem _ member))
        fun other member => calm other (List.mem_cons_of_mem _ member)
      refine ⟨output :: outputs, ?_, congrArg (Except.ok output :: ·) sent⟩
      rw [List.mapM_cons, first, bind_ok]
      exact ⟨output, rfl, bind_ok.mpr ⟨outputs, same, rfl⟩⟩

theorem sends_ok (calm : call.Calm) {partition : Nat} (known : partition ∈ call.partitions)
    (quiet : ∀ error, .error error ∉ call.sends partition) (matched : call.mayMatch partition = .ok true) :
    ∃ outputs, call.filtered partition = .ok outputs ∧ call.sends partition = outputs.map .ok := by
  have here := matched
  unfold mayMatch at here
  rw [sends, scanStream, here] at quiet ⊢
  cases scan : call.provider.scanPartition partition call.projection call.context.batchSize with
  | error error =>
    rw [scan] at quiet
    exact absurd (List.mem_singleton_self _) (quiet error)
  | ok batches =>
    rw [scan] at quiet
    obtain ⟨outputs, same, sent⟩ := scanTask_ok quiet (calm partition known matched batches scan)
    exact ⟨outputs, bind_ok.mpr ⟨batches, lift_ok.mpr scan, same⟩, sent⟩

variable {partitions : List Nat}

theorem flatMap_sends_ok (calm : call.Calm) (known : partitions ⊆ call.partitions)
    (quiet : ∀ error, .error error ∉ partitions.flatMap call.sends) :
    ∃ outputs, (partitions.filter fun partition => !(call.mayMatch partition matches .ok false)).mapM call.filtered =
      .ok outputs ∧ partitions.flatMap call.sends = outputs.flatten.map .ok := by
  induction partitions with
  | nil => exact ⟨[], rfl, rfl⟩
  | cons partition rest ih =>
    rw [List.flatMap_cons] at quiet ⊢
    obtain ⟨here, later⟩ := List.cons_subset.mp known
    obtain ⟨outputs, same, sent⟩ := ih later fun error member => quiet error (List.mem_append_right _ member)
    cases answer : call.mayMatch partition with
    | error error => exact absurd (by simp [sends_refused answer]) (quiet error)
    | ok flag =>
      cases flag with
      | false => exact ⟨outputs, by simpa [List.filter_cons, answer] using same, by rw [sends_pruned answer, sent]; rfl⟩
      | true =>
        obtain ⟨first, scanned, own⟩ :=
          sends_ok calm here (fun error member => quiet error (List.mem_append_left _ member)) answer
        refine ⟨first :: outputs, ?_, by simp [own, sent]⟩
        simp only [List.filter_cons, answer, Bool.not_false, if_true, List.mapM_cons]
        exact bind_ok.mpr ⟨first, scanned, bind_ok.mpr ⟨outputs, same, rfl⟩⟩

theorem reaches_send (found : run.tasks[task]? = some (item :: others))
    (room : run.queue.length < call.channelCapacity) :
    call.machine.Reaches run { run with tasks := run.tasks.set task others, queue := run.queue ++ [item] } :=
  ⟨[.send task], by simp [Machine.next, machine, step, found, room]⟩

-- Nobody receives before the loop is over, so a channel that is full takes none of its errors.
theorem reaches_loop {before : List Nat} (here : run.partitions = before ++ rest)
    (full : ∀ partition ∈ before, call.Refused partition → call.channelCapacity ≤ run.queue.length) :
    call.machine.Reaches run { run with
      partitions := rest
      tasks := run.tasks ++ (before.filter call.matching).map call.sends } := by
  induction before generalizing run with
  | nil =>
    cases run
    cases here
    exact ⟨[], by simp⟩
  | cons partition before ih =>
    have first : call.machine.Reaches run (call.step .loop run) := (Machine.Reaches.refl run).step ScanStep.loop
    have later := fun other member => full other (List.mem_cons_of_mem partition member)
    simp only [step, here, List.cons_append] at first
    cases answer : call.mayMatch partition with
    | ok flag =>
      rw [answer] at first
      cases flag with
      | false | true => simpa [List.filter_cons, matching, answer] using first.trans (ih rfl later)
    | error error =>
      rw [answer] at first
      have none := not_lt.mpr (full partition List.mem_cons_self ⟨error, answer⟩)
      simp only [none, if_false] at first
      simpa [List.filter_cons, matching, answer] using first.trans (ih rfl later)

theorem exists_full (run : ScanRun F)
    (enough : call.channelCapacity ≤ run.queue.length + run.tasks.flatten.length) :
    ∃ filled, call.machine.Reaches run filled ∧ filled.partitions = run.partitions ∧
      filled.contents.Perm run.contents ∧ call.channelCapacity ≤ filled.queue.length := by
  induction missing : call.channelCapacity - run.queue.length generalizing run with
  | zero => exact ⟨run, .refl run, rfl, .refl _, Nat.le_of_sub_eq_zero missing⟩
  | succ missing ih =>
    have busy : run.tasks.flatten ≠ [] := by
      intro idle
      simp only [idle, List.length_nil] at enough
      omega
    obtain ⟨task, item, others, found⟩ := ScanRun.exists_sender busy
    have fewer := (ScanRun.set_flatten_perm found).length_eq
    simp only [List.length_append, List.length_singleton] at fewer
    obtain ⟨filled, reached, same, kept, full⟩ := ih
      { run with tasks := run.tasks.set task others, queue := run.queue ++ [item] }
      (by simp only [List.length_append, List.length_singleton]; omega)
      (by simp only [List.length_append, List.length_singleton]; omega)
    exact ⟨filled, (reaches_send found (by omega)).trans reached, same, kept.trans (ScanRun.send_contents found), full⟩

theorem exists_drained (room : 0 < call.channelCapacity) (run : ScanRun F) (ended : run.partitions = []) :
    ∃ final, call.machine.Reaches run final ∧ final.Drained ∧ final.contents.Perm run.contents := by
  induction size : 2 * run.tasks.flatten.length + run.queue.length using Nat.strong_induction_on
    generalizing run with
  | h size ih =>
    cases queued : run.queue with
    | cons item others =>
      have received : call.machine.Reaches run { run with queue := others, received := run.received ++ [item] } :=
        ⟨[.receive], by simp [Machine.next, machine, step, ended, queued]⟩
      obtain ⟨final, reached, drained, kept⟩ := ih _ (by simp [← size, queued])
        { run with queue := others, received := run.received ++ [item] } ended rfl
      exact ⟨final, received.trans reached, drained, kept.trans (by simp [ScanRun.contents, queued])⟩
    | nil =>
      by_cases idle : run.tasks.flatten = []
      · exact ⟨run, .refl run, ⟨ended, queued, idle⟩, .refl _⟩
      · obtain ⟨task, item, others, found⟩ := ScanRun.exists_sender idle
        have fewer := (ScanRun.set_flatten_perm found).length_eq
        simp only [List.length_append, List.length_singleton] at fewer
        obtain ⟨final, reached, drained, kept⟩ := ih _
          (by simp only [← size, queued, List.nil_append, List.length_singleton, List.length_nil]; omega)
          { run with tasks := run.tasks.set task others, queue := run.queue ++ [item] } ended rfl
        exact ⟨final, (reaches_send found (by simpa [queued] using room)).trans reached, drained,
          kept.trans (ScanRun.send_contents found)⟩

theorem flatten_matched (unrefused : ∀ partition ∈ partitions, ¬call.Refused partition) :
    ((partitions.filter call.matching).map call.sends).flatten =
      partitions.flatMap call.sends := by
  induction partitions with
  | nil => rfl
  | cons partition rest ih =>
    have later := ih fun other member => unrefused other (List.mem_cons_of_mem _ member)
    cases answer : call.mayMatch partition with
    | error error => exact absurd ⟨error, answer⟩ (unrefused partition List.mem_cons_self)
    | ok flag =>
      cases flag with
      | false => simpa [List.filter_cons, matching, answer, sends_pruned answer] using later
      | true => simpa [List.filter_cons, matching, answer] using later

theorem silent_tasks (silent : ∀ partition ∈ call.partitions, ¬call.SendsError partition)
    (known : partitions ⊆ call.partitions) (error : SparkXError) :
    .error error ∉ ((partitions.filter call.matching).map call.sends).flatten := by
  rw [← List.flatMap_def]
  intro sent
  obtain ⟨partition, listed, sent⟩ := List.mem_flatMap.mp sent
  obtain ⟨inside, matched⟩ := List.mem_filter.mp listed
  exact silent partition (known inside) ⟨matching_iff.mp matched, error, sent⟩

theorem exists_silent (room : 0 < call.channelCapacity)
    (silent : ∀ partition ∈ call.partitions, ¬call.SendsError partition) (known : run.partitions ⊆ call.partitions)
    (full : ∀ partition ∈ run.partitions, call.Refused partition → call.channelCapacity ≤ run.queue.length)
    (quiet : ∀ error, .error error ∉ run.contents) :
    ∃ final, call.machine.Reaches run final ∧ final.Drained ∧ ∀ error, .error error ∉ final.received := by
  have looped := reaches_loop (List.append_nil run.partitions).symm full
  generalize spawned : (run.partitions.filter call.matching).map call.sends = tasks at looped
  obtain ⟨final, reached, drained, kept⟩ :=
    exists_drained room { run with partitions := [], tasks := run.tasks ++ tasks } rfl
  refine ⟨final, looped.trans reached, drained, fun error member => ?_⟩
  rw [← drained.contents, kept.mem_iff, ScanRun.contents, List.flatten_append, ← List.append_assoc,
    List.mem_append] at member
  rcases member with before | later
  · exact quiet error before
  · rw [← spawned] at later
    exact silent_tasks silent known error later

-- The schedule that loses an error: the tasks before a refused partition fill the channel.
theorem exists_swallowing (room : 0 < call.channelCapacity)
    (silent : ∀ partition ∈ call.partitions, ¬call.SendsError partition) {before after : List Nat}
    (split : call.partitions = before ++ partition :: after) (earlier : ∀ other ∈ before, ¬call.Refused other)
    (many : call.channelCapacity ≤ (before.flatMap call.sends).length) :
    ∃ final, call.machine.Reaches { partitions := call.partitions } final ∧ final.Drained ∧
      ∀ error, .error error ∉ final.received := by
  have looped := @reaches_loop _ call _ { partitions := call.partitions } _ before split fun other member refused =>
    absurd refused (earlier other member)
  have inside : before ⊆ call.partitions ∧ partition :: after ⊆ call.partitions := by simp [split]
  have quiet := silent_tasks silent inside.1
  rw [← flatten_matched earlier] at many
  generalize (before.filter call.matching).map call.sends = tasks at looped quiet many
  obtain ⟨filled, reached, same, kept, full⟩ :=
    exists_full { partitions := partition :: after, tasks : ScanRun F } (many.trans (Nat.le_add_left _ _))
  obtain ⟨final, ended, drained, silent⟩ := exists_silent room silent (same ▸ inside.2) (fun _ _ _ => full)
    fun error member => quiet error (by simpa [ScanRun.contents] using kept.mem_iff.mp member)
  exact ⟨final, (looped.trans reached).trans ended, drained, silent⟩

theorem calm_of_filtered {outputs : List (List (RecordBatch F))}
    (filtered : call.scanned.mapM call.filtered = .ok outputs) : call.Calm := by
  rintro partition known matched batches scan batch member ⟨message, panicked⟩
  have listed : partition ∈ call.scanned := List.mem_filter.mpr ⟨known, by simp [matched]⟩
  obtain ⟨_, _, here⟩ := Rowwise.forall₂_item (Rowwise.mapM_ok.mp filtered) listed
  obtain ⟨found, read, mapped⟩ := bind_ok.mp here
  cases scan.symm.trans (lift_ok.mp read)
  obtain ⟨_, _, passed⟩ := Rowwise.forall₂_item (Rowwise.mapM_ok.mp mapped) member
  cases panicked.symm.trans passed

def refusing (refused : Nat) : ScanCall ℚ where
  provider :=
    { schema := { fields := [] }
      partitionCount := 2
      partitionMayMatch := fun partition _ => if partition = refused then .error (.execution "refused") else .ok true
      scanPartition := fun _ _ _ => .ok [.newEmpty { fields := [] }]
      uniform := fun _ _ => ⟨{ fields := [] }, fun _ _ scan batch member => by
        cases scan
        rw [List.mem_singleton.mp member]
        rfl⟩ }
  projection := none
  filters := []
  context := { batchSize := 1, partition := none }
  channelCapacity := 1

theorem scan_reports_errors (room : 0 < call.channelCapacity) :
    (∀ run, call.machine.Reaches { partitions := call.partitions } run → run.Drained →
      ((∃ partition ∈ call.partitions, call.Fails partition) → ∃ error, .error error ∈ run.received) ∧
      ((∀ error, .error error ∉ run.received) → ∃ outputs, call.scanned.mapM call.filtered = .ok outputs ∧
        run.received.Perm (outputs.flatten.map .ok))) ↔
    (∃ partition ∈ call.partitions, call.SendsError partition) ∨
      call.Fits ∧ ((∃ partition ∈ call.partitions, call.Refused partition) ∨ call.Calm) := by
  constructor
  · intro reports
    by_contra other
    rw [not_or, not_and, not_or] at other
    obtain ⟨silent, other⟩ := other
    push Not at silent
    have fits : call.Fits := by
      rintro before partition after split ⟨error, reason⟩ earlier
      by_contra many
      obtain ⟨run, reached, drained, quiet⟩ := exists_swallowing room silent split earlier (not_lt.mp many)
      obtain ⟨found, received⟩ := (reports run reached drained).1
        ⟨partition, by simp [split], error, .inl reason⟩
      exact quiet found received
    obtain ⟨unrefused, panics⟩ := other fits
    obtain ⟨run, reached, drained, quiet⟩ := @exists_silent _ call _ { partitions := call.partitions } room silent
      (List.Subset.refl _) (fun partition known refused => absurd ⟨partition, known, refused⟩ unrefused)
      (by simp [ScanRun.contents])
    obtain ⟨outputs, filtered, _⟩ := (reports run reached drained).2 quiet
    exact panics (calm_of_filtered filtered)
  · intro condition run reached drained
    obtain ⟨done, told, accounted⟩ := accounted_of_reaches reached
    obtain ⟨received, rfl⟩ := accounted.received drained
    have sent {partition : Nat} (known : partition ∈ call.partitions) (announced : call.SendsError partition) :
        ∃ error, .error error ∈ run.received := by
      obtain ⟨matched, error, sent⟩ := announced
      have member := accounted.spared partition known fun ⟨_, refused⟩ => nomatch matched.symm.trans refused
      exact ⟨error, received.mem_iff.mpr (List.mem_flatMap.mpr ⟨partition, member, sent⟩)⟩
    have refuses {partition : Nat} (known : partition ∈ call.partitions) (refused : call.Refused partition) :
        ∃ error, .error error ∈ run.received := by
      rcases condition with ⟨failing, member, announced⟩ | ⟨fits, _⟩
      · exact sent member announced
      · obtain ⟨other, listed, error, reason⟩ := accounted.reported fits partition known refused
        refine ⟨error, received.mem_iff.mpr (List.mem_flatMap.mpr ⟨other, listed, ?_⟩)⟩
        exact sends_refused reason ▸ List.mem_singleton_self _
    refine ⟨?_, fun quiet => ?_⟩
    · rintro ⟨partition, known, error, refused | ⟨answer, failed⟩⟩
      · exact refuses known ⟨error, refused⟩
      · exact sent known ⟨answer, error, sends_failed answer failed ▸ List.mem_singleton_self _⟩
    · have unrefused : ∀ partition ∈ call.partitions, ¬call.Refused partition := fun partition known refused =>
        (refuses known refused).elim quiet
      have calm : call.Calm := by
        rcases condition with ⟨failing, member, announced⟩ | ⟨_, ⟨partition, known, refused⟩ | calm⟩
        · exact ((sent member announced).elim quiet).elim
        · exact absurd refused (unrefused partition known)
        · exact calm
      rw [accounted.whole unrefused] at received
      obtain ⟨outputs, same, whole⟩ := flatMap_sends_ok calm (List.Subset.refl _) fun error member =>
        quiet error (received.mem_iff.mpr member)
      exact ⟨outputs, same, whole ▸ received⟩

theorem scan_reports_first :
    (refusing 0).Fits ∧ ∃ run, (refusing 0).machine.Reaches { partitions := (refusing 0).partitions } run ∧
      run.Drained ∧ ∃ error, .error error ∈ run.received := by
  have fits : (refusing 0).Fits := by
    rintro before partition after split ⟨error, refused⟩ _
    match before with
    | [] => exact Nat.one_pos
    | [_] =>
      cases split
      cases refused
    | [_, _] => cases split
    | _ :: _ :: _ :: _ => cases split
  have reached : (refusing 0).machine.Reaches { partitions := (refusing 0).partitions } _ :=
    ⟨[.loop, .loop, .receive, .send 0, .receive], rfl⟩
  have reports := (scan_reports_errors Nat.one_pos).mpr (.inr ⟨fits, .inl ⟨0, by decide, _, rfl⟩⟩) _ reached
    ⟨rfl, rfl, rfl⟩
  exact ⟨fits, _, reached, ⟨rfl, rfl, rfl⟩, reports.1 ⟨0, by decide, _, .inl rfl⟩⟩

theorem scan_swallows_error :
    (∃ partition ∈ (refusing 1).partitions, (refusing 1).Fails partition) ∧
      ∃ run, (refusing 1).machine.Reaches { partitions := (refusing 1).partitions } run ∧ run.Drained ∧
        ∀ error, .error error ∉ run.received := by
  refine ⟨⟨1, by decide, _, .inl rfl⟩, _, ⟨[.loop, .send 0, .loop, .receive], rfl⟩, ⟨rfl, rfl, rfl⟩, ?_⟩
  intro error member
  cases List.mem_singleton.mp member

end ScanCall

end SparkX
