import SparkX.Cluster.BlockStore.Consistent
import SparkX.Shared.Quota

set_option autoImplicit false

-- `MemoryBlockStore` keeps blocks in a map and charges their Arrow buffers; `DiskBlockStore`
-- charges the files. The data plane sees either of them as a `BlockStorage` behind a lock: an
-- `Access` is what a request does while it holds the lock.

namespace SparkX

open Std

variable {F : Type}

structure MemoryBlockStore (F : Type) where
  capacity : Nat
  used : Nat
  blocks : TreeMap String (StoredBlock F)

namespace MemoryBlockStore

open DiskBlockStore (validateCapacity sameChecksum full)

def new (capacity : Nat) : Except SparkXError (MemoryBlockStore F) := do
  validateCapacity capacity
  return { capacity, used := 0, blocks := ∅ }

def availableBytes (store : MemoryBlockStore F) : Nat := store.capacity - store.used

def uploadBudget (store : MemoryBlockStore F) (ticket : String) : Nat :=
  store.availableBytes + store.blocks[ticket]?.elim 0 (·.chargedBytes)

def insert (ticket : String) (block : StoredBlock F) : Stateful Fault (MemoryBlockStore F) Unit := do
  let store ← get
  match store.blocks[ticket]? with
  | some existing => sameChecksum existing.checksum block.checksum
  | none =>
    rejectIf (store.availableBytes < block.chargedBytes) full
    modify fun store => { store with
      used := store.used + block.chargedBytes, blocks := store.blocks.insert ticket block }

def get (store : MemoryBlockStore F) (ticket : String) : Except SparkXError (StoredBlock F) :=
  okOr store.blocks[ticket]? DiskBlockStore.missing

def remove (ticket : String) : Stateful Fault (MemoryBlockStore F) Unit := do
  let store ← MonadState.get
  let block ← okOr store.blocks[ticket]? DiskBlockStore.missing
  modify fun store => { store with blocks := store.blocks.erase ticket }
  rejectIf (store.used < block.chargedBytes) (Fault.panic "attempt to subtract with overflow")
  modify fun store => { store with used := store.used - block.chargedBytes }

end MemoryBlockStore

def DiskBlockStore.uploadBudget (store : DiskBlockStore) (ticket : String) : Nat :=
  store.availableBytes + store.blocks[ticket]?.elim 0 (·.bytes)

-- `Box<dyn BlockStorage>`
inductive BlockStorage (F : Type) where
  | memory (store : MemoryBlockStore F)
  | disk (store : DiskBlockStore)

inductive Access (F : Type) where
  | insert (ticket : String) (schema : Schema) (batches : List (RecordBatch F))
  | get (ticket : String)
  | remove (ticket : String)

namespace BlockStorage

variable [BlockFormats F]

def uploadBudget : BlockStorage F → String → Nat
  | .memory store => store.uploadBudget
  | .disk store => store.uploadBudget

def insert (faults : Faults) (ticket : String) (block : StoredBlock F) :
    Stateful Fault (BlockStorage F) Unit
  | .memory store => (MemoryBlockStore.insert ticket block).within .memory store
  | .disk store => (DiskBlockStore.insert faults ticket block).within .disk store

def get (storage : BlockStorage F) (faults : Faults) (ticket : String) :
    Except SparkXError (StoredBlock F) :=
  match storage with
  | .memory store => store.get ticket
  | .disk store => store.get F faults ticket

def remove (faults : Faults) (ticket : String) : Stateful Fault (BlockStorage F) Unit
  | .memory store => (MemoryBlockStore.remove ticket).within .memory store
  | .disk store => (DiskBlockStore.remove faults ticket).within .disk store

def access (faults : Faults) : Access F → Stateful Fault (BlockStorage F) (Option (StoredBlock F))
  | .insert ticket schema batches => do
    insert faults ticket (← uploadedBlock schema batches)
    return none
  | .get ticket => do
    let storage ← MonadState.get
    return some (← storage.get faults ticket)
  | .remove ticket => do
    remove faults ticket
    return none

variable (F) in
def accesses : Machine (BlockStorage F) (Faults × Access F) (Except Fault (Option (StoredBlock F))) where
  step input storage := (access input.1 input.2).run storage

variable (F) in
-- The backend that `bind_with_storage` chooses.
def bind (directory : Option (TreeMap String (List UInt8) × List (String × List UInt8)))
    (capacity : Nat) : Except SparkXError (BlockStorage F) :=
  match directory with
  | some (files, listing) => (DiskBlockStore.open F files listing capacity).map .disk
  | none => (MemoryBlockStore.new capacity).map .memory

def Reachable (storage : BlockStorage F) : Prop :=
  ∃ directory capacity start, bind F directory capacity = .ok start ∧ (accesses F).Reaches start storage

end BlockStorage

section

variable {ticket : String} {block : StoredBlock F}

inductive MemoryBlockStore.InsertOutcome (ticket : String) (block : StoredBlock F)
    (before : MemoryBlockStore F) : Except Fault Unit → MemoryBlockStore F → Prop where
  | refused (error : SparkXError) : InsertOutcome ticket block before (.error (.error error)) before
  | repeated {existing : StoredBlock F} (stored : before.blocks[ticket]? = some existing)
    (same : existing.checksum = block.checksum) :
    InsertOutcome ticket block before (.ok ()) before
  | inserted (fresh : before.blocks[ticket]? = none)
    (fits : block.chargedBytes ≤ before.availableBytes) :
    InsertOutcome ticket block before (.ok ()) { before with
      used := before.used + block.chargedBytes, blocks := before.blocks.insert ticket block }

theorem MemoryBlockStore.insert_outcome (ticket : String) (block : StoredBlock F)
    (before : MemoryBlockStore F) :
    (insert ticket block).Yields before (InsertOutcome ticket block before) := by
  unfold insert
  apply Stateful.Yields.get
  split
  next existing stored =>
    apply yields_last_check
    · exact fun error _ => .refused _
    · exact fun _ accepted => .repeated stored (not_not.mp (rejectIf_ok.mp accepted))
  next fresh =>
    apply yields_rejectIf
    · exact fun _ => .refused _
    · exact fun room => .inserted fresh (Nat.le_of_not_lt room)

theorem MemoryBlockStore.insert_run {store : MemoryBlockStore F} (fresh : store.blocks[ticket]? = none)
    (fits : block.chargedBytes ≤ store.availableBytes) :
    (insert ticket block).run store = (.ok (), { store with
      used := store.used + block.chargedBytes, blocks := store.blocks.insert ticket block }) := by
  unfold insert
  rw [Stateful.run_bind_get]
  simp only [fresh]
  rw [run_check (rejectIf_ok.mpr (Nat.not_lt.mpr fits))]
  rfl

inductive MemoryBlockStore.RemoveOutcome (ticket : String) (before : MemoryBlockStore F) :
    Except Fault Unit → MemoryBlockStore F → Prop where
  | missing (error : SparkXError) : RemoveOutcome ticket before (.error (.error error)) before
  | short {block : StoredBlock F} (fault : Fault) (stored : before.blocks[ticket]? = some block)
    (short : before.used < block.chargedBytes) :
    RemoveOutcome ticket before (.error fault) { before with blocks := before.blocks.erase ticket }
  | removed {block : StoredBlock F} (stored : before.blocks[ticket]? = some block) :
    RemoveOutcome ticket before (.ok ()) { before with
      blocks := before.blocks.erase ticket, used := before.used - block.chargedBytes }

theorem MemoryBlockStore.remove_outcome (ticket : String) (before : MemoryBlockStore F) :
    (remove ticket).Yields before (RemoveOutcome ticket before) := by
  unfold remove
  apply Stateful.Yields.get
  apply yields_check
  · exact fun error _ => .missing _
  intro block found
  have stored := okOr_ok.mp found
  apply Stateful.Yields.modify
  apply Stateful.Yields.lift
  · intro fault rejected
    exact .short fault stored (rejectIf_error.mp rejected).1
  · exact fun _ _ => .removed stored

variable {schema : Schema} {batches : List (RecordBatch F)}

theorem blockMetadata_ok [BlockFormats F] {rows bytes : Nat} {checksum : String} :
    blockMetadata schema batches = .ok (rows, bytes, checksum) ↔
      (batches.map (·.numRows)).sum = rows ∧ (batches.map BlockFormats.arrayMemorySize).sum = bytes ∧
      ∃ stream, BlockFormats.writeStream schema batches = .ok stream ∧
        s!"crc32:{Text.hexPadded 8 (Octets.crc32 stream)}" = checksum := by
  simp only [blockMetadata, bind_ok, pure_eq_ok, Prod.mk.injEq]
  constructor
  · rintro ⟨stream, written, counted, measured, summed⟩
    exact ⟨counted, measured, stream, written, summed⟩
  · rintro ⟨counted, measured, stream, written, summed⟩
    exact ⟨stream, written, counted, measured, summed⟩

theorem uploadedBlock_ok [BlockFormats F] :
    uploadedBlock schema batches = .ok block ↔
      ∃ rows bytes checksum, blockMetadata schema batches = .ok (rows, bytes, checksum) ∧
        block = { schema, batches, checksum, chargedBytes := max bytes 1 } := by
  simp only [uploadedBlock, bind_ok, pure_eq_ok, Prod.exists, eq_comm (a := block)]

def Access.target : Access F → Option String
  | .remove ticket => some ticket
  | _ => none

namespace BlockStorage

def Accounted : BlockStorage F → Prop
  | .memory store => Quota.Accounted (·.chargedBytes) store.capacity store.used store.blocks
  | .disk store => Quota.Accounted (·.bytes) store.capacity store.used store.blocks

-- A backend as a store under a quota, which may give up the block of `target`.
def Step (target : Option String) : BlockStorage F → BlockStorage F → Prop
  | .memory before, .memory after => after.capacity = before.capacity ∧
    Quota.Step (·.chargedBytes) before.capacity before.used before.blocks target after.used after.blocks
  | .disk before, .disk after => after.capacity = before.capacity ∧
    Quota.Step (·.bytes) before.capacity before.used before.blocks target after.used after.blocks
  | _, _ => False

theorem Step.refl (target : Option String) (storage : BlockStorage F) :
    Step target storage storage := by
  cases storage <;> exact ⟨rfl, .same⟩

variable {target : Option String}

theorem Step.accounted {before after : BlockStorage F} (step : Step target before after)
    (accounted : before.Accounted) : after.Accounted := by
  cases before with
  | memory before =>
    cases after with
    | memory after =>
      obtain ⟨same, step⟩ := step
      simp only [Accounted, same]
      exact step.accounted accounted
    | disk => exact step.elim
  | disk before =>
    cases after with
    | memory => exact step.elim
    | disk after =>
      obtain ⟨same, step⟩ := step
      simp only [Accounted, same]
      exact step.accounted accounted

def Stores (storage : BlockStorage F) (ticket : String) (block : StoredBlock F) : Prop :=
  match storage with
  | .memory store => store.blocks[ticket]? = some block
  | .disk store => ∃ entry : DiskEntry,
    store.blocks[ticket]? = some entry ∧ entry.checksum = block.checksum

theorem Step.stores {before after : BlockStorage F} (step : Step target before after)
    (spared : target ≠ some ticket) (stored : before.Stores ticket block) : after.Stores ticket block := by
  cases before with
  | memory before =>
    cases after with
    | memory after => exact step.2.keeps spared stored
    | disk => exact step.elim
  | disk before =>
    cases after with
    | memory => exact step.elim
    | disk after =>
      obtain ⟨entry, indexed, same⟩ := stored
      exact ⟨entry, step.2.keeps spared indexed, same⟩

variable [BlockFormats F]

theorem insert_step (storage : BlockStorage F) (faults : Faults) (ticket : String)
    (target : Option String) (positive : 0 < block.chargedBytes) :
    (insert faults ticket block).Yields storage fun _ after => Step target storage after := by
  cases storage with
  | memory store =>
    change (MemoryBlockStore.insert ticket block).Yields store
      fun _ after => Step target (.memory store) (.memory after)
    apply (MemoryBlockStore.insert_outcome ticket block store).mono
    intro result after outcome
    cases outcome with
    | refused | repeated => exact Step.refl _ _
    | inserted fresh fits => exact ⟨rfl, .insert fresh fits positive⟩
  | disk store =>
    change (DiskBlockStore.insert faults ticket block).Yields store
      fun _ after => Step target (.disk store) (.disk after)
    apply (DiskBlockStore.insert_outcome faults ticket block store).mono
    intro result after outcome
    cases outcome with
    | conflict | collision | repeated => exact Step.refl _ _
    | refused _ _ same =>
      simp only [Step, same.capacity, same.used, same.blocks]
      exact ⟨trivial, .same⟩
    | unsynced _ _ _ _ _ published =>
      simp only [Step, published.capacity, published.used, published.blocks]
      exact ⟨trivial, .same⟩
    | @published after stream _ fresh _ published =>
      let entry : DiskEntry :=
        { path := DiskBlockStore.blockPath ticket, checksum := block.checksum
          bytes := (DiskBlockStore.fileContent ticket block stream).length }
      have positive : 0 < entry.bytes := by
        change 0 < (DiskBlockStore.fileContent ticket block stream).length
        rw [DiskBlockStore.length_fileContent]
        omega
      simp only [Step, DiskBlockStore.addBlock, published.capacity, published.used, published.blocks]
      exact ⟨trivial, @Quota.Step.insert _ _ _ _ _ _ _ _ ticket entry fresh published.fits positive⟩

variable {storage : BlockStorage F}

omit [BlockFormats F] in
theorem remove_step (accounted : storage.Accounted) (faults : Faults) (ticket : String) :
    (remove faults ticket).Yields storage fun _ after => Step (some ticket) storage after := by
  cases storage with
  | memory store =>
    change (MemoryBlockStore.remove ticket).Yields store
      fun _ after => Step (some ticket) (.memory store) (.memory after)
    apply (MemoryBlockStore.remove_outcome ticket store).mono
    intro result after outcome
    cases outcome with
    | missing => exact Step.refl _ _
    | short _ stored short =>
      exact absurd (Quota.Accounted.covered accounted stored) (Nat.not_le.mpr short)
    | removed stored => exact ⟨rfl, .erase rfl stored⟩
  | disk store =>
    change (DiskBlockStore.remove faults ticket).Yields store
      fun _ after => Step (some ticket) (.disk store) (.disk after)
    apply (DiskBlockStore.remove_outcome faults ticket store).mono
    intro result after outcome
    cases outcome with
    | refused | unsynced | short => exact ⟨rfl, .same⟩
    | removed _ indexed _ => exact ⟨rfl, .erase rfl indexed⟩

theorem access_step (accounted : storage.Accounted) (faults : Faults) (request : Access F) :
    Step request.target storage ((accesses F).next (faults, request) storage) := by
  change (access faults request).Yields storage fun _ after => Step request.target storage after
  cases request with
  | insert ticket schema batches =>
    apply yields_check
    · exact fun _ _ => Step.refl _ _
    intro block uploaded
    obtain ⟨_, bytes, _, _, rfl⟩ := uploadedBlock_ok.mp uploaded
    apply Stateful.Yields.map
    exact insert_step storage faults ticket none (by simp)
  | get ticket =>
    apply Stateful.Yields.get
    apply yields_check
    · exact fun _ _ => Step.refl _ _
    · exact fun _ _ => Step.refl _ _
  | remove ticket =>
    apply Stateful.Yields.map
    exact remove_step accounted faults ticket

theorem exec_accounted (accounted : storage.Accounted) (requests : List (Faults × Access F)) :
    ((accesses F).exec requests storage).Accounted := by
  induction requests generalizing storage with
  | nil => exact accounted
  | cons request rest ih =>
    obtain ⟨faults, request⟩ := request
    exact ih ((access_step accounted faults request).accounted accounted)

theorem exec_stores (accounted : storage.Accounted) {requests : List (Faults × Access F)}
    (spared : ∀ request ∈ requests, request.2 ≠ .remove ticket) (stored : storage.Stores ticket block) :
    ((accesses F).exec requests storage).Stores ticket block := by
  induction requests generalizing storage with
  | nil => exact stored
  | cons request rest ih =>
    obtain ⟨faults, request⟩ := request
    have step := access_step accounted faults request
    have here : request.target ≠ some ticket := by
      intro same
      cases request with
      | insert | get => exact nomatch same
      | remove other =>
        cases same
        exact spared _ List.mem_cons_self rfl
    apply ih (step.accounted accounted)
    · exact fun request member => spared request (List.mem_cons_of_mem _ member)
    · exact step.stores here stored

theorem bind_accounted {directory : Option (TreeMap String (List UInt8) × List (String × List UInt8))}
    {capacity : Nat} {start : BlockStorage F} (bound : bind F directory capacity = .ok start) :
    start.Accounted := by
  cases directory with
  | none =>
    obtain ⟨store, created, rfl⟩ := map_eq_ok.mp bound
    obtain ⟨_, created⟩ := check_ok.mp created
    cases created
    exact Quota.accounted_empty capacity
  | some directory =>
    obtain ⟨store, opened, rfl⟩ := map_eq_ok.mp bound
    have scanned := DiskBlockStore.scanned_open opened
    refine ⟨scanned.used, scanned.bounded, ?_⟩
    intro ticket entry indexed
    obtain ⟨_, content, header, block, _, size, read, _⟩ := scanned.indexed ticket entry indexed
    obtain ⟨_, length, _⟩ := bind_ok.mp read
    have four : ¬content.length < 4 := rejectIf_ok.mp (check_ok.mp length).1
    omega

theorem Reachable.accounted (reachable : storage.Reachable) : storage.Accounted := by
  obtain ⟨directory, capacity, start, bound, requests, rfl⟩ := reachable
  exact exec_accounted (bind_accounted bound) requests

end BlockStorage

end

end SparkX
