import SparkX.Cluster.DataPlane.Repeated

set_option autoImplicit false

namespace SparkX

variable {F : Type}

namespace MemoryBlockStore

-- An operation of the store; a block is stored with whatever it is charged.
inductive Operation (F : Type) where
  | insert (ticket : String) (block : StoredBlock F)
  | get (ticket : String)
  | remove (ticket : String)

def operate : Operation F → Stateful Fault (MemoryBlockStore F) (Option (StoredBlock F))
  | .insert ticket block => do
    insert ticket block
    return none
  | .get ticket => do
    let store ← MonadState.get
    return some (← store.get ticket)
  | .remove ticket => do
    remove ticket
    return none

variable (F) in
def operations : Machine (MemoryBlockStore F) (Operation F) (Except Fault (Option (StoredBlock F))) where
  step operation store := (operate operation).run store

def Balanced (store : MemoryBlockStore F) : Prop :=
  Quota.Balanced (·.chargedBytes) store.capacity store.used store.blocks

inductive OperateOutcome (before : MemoryBlockStore F) (operation : Operation F) :
    Except Fault (Option (StoredBlock F)) → MemoryBlockStore F → Prop where
  | failed (error : SparkXError) : OperateOutcome before operation (.error (.error error)) before
  | kept (answer : Option (StoredBlock F)) : OperateOutcome before operation (.ok answer) before
  | inserted {ticket : String} {block : StoredBlock F} (fresh : before.blocks[ticket]? = none)
    (fits : block.chargedBytes ≤ before.capacity - before.used) :
    OperateOutcome before operation (.ok none) { before with
      used := before.used + block.chargedBytes, blocks := before.blocks.insert ticket block }
  | removed {ticket : String} {block : StoredBlock F} (named : operation = .remove ticket)
    (stored : before.blocks[ticket]? = some block) :
    OperateOutcome before operation (.ok none) { before with
      blocks := before.blocks.erase ticket, used := before.used - block.chargedBytes }

variable {store : MemoryBlockStore F}

theorem operate_outcome (balanced : store.Balanced) (operation : Operation F) :
    (operate operation).Yields store (OperateOutcome store operation) := by
  cases operation with
  | insert ticket block =>
    apply Stateful.Yields.map
    apply (insert_outcome ticket block store).mono
    intro result after outcome
    cases outcome with
    | refused error => exact .failed error
    | repeated => exact .kept none
    | inserted fresh fits => exact .inserted fresh fits
  | get ticket =>
    apply Stateful.Yields.get
    apply yields_check
    · exact fun error _ => .failed error
    · exact fun block _ => .kept (some block)
  | remove ticket =>
    apply Stateful.Yields.map
    apply (remove_outcome ticket store).mono
    intro result after outcome
    cases outcome with
    | missing error => exact .failed error
    | short _ stored short => exact absurd (Quota.Balanced.covered balanced stored) (Nat.not_le.mpr short)
    | removed stored => exact .removed rfl stored

variable {ticket : String} {block : StoredBlock F}

namespace OperateOutcome

variable {before after : MemoryBlockStore F} {operation : Operation F}
  {answer : Except Fault (Option (StoredBlock F))}

theorem balanced (outcome : OperateOutcome before operation answer after)
    (balanced : before.Balanced) : after.Balanced := by
  cases outcome with
  | failed | kept => exact balanced
  | inserted fresh fits => exact Quota.Balanced.insert balanced fresh fits
  | removed _ stored => exact Quota.Balanced.erase balanced stored

theorem capacity (outcome : OperateOutcome before operation answer after) :
    after.capacity = before.capacity := by
  cases outcome <;> rfl

theorem unchanged (outcome : OperateOutcome before operation answer after) {fault : Fault}
    (failed : answer = .error fault) : after = before ∧ ∃ error, fault = .error error := by
  cases outcome with
  | failed error => exact ⟨rfl, error, (Except.error.inj failed).symm⟩
  | _ => exact nomatch failed

theorem keeps (outcome : OperateOutcome before operation answer after) (spared : operation ≠ .remove ticket)
    (stored : before.blocks[ticket]? = some block) : after.blocks[ticket]? = some block := by
  cases outcome with
  | failed | kept => exact stored
  | @inserted other _ fresh _ =>
    have different : other ≠ ticket := by
      intro same
      exact nomatch (same ▸ fresh).symm.trans stored
    rw [OrderedMap.getElem?_insert, if_neg different, stored]
  | @removed other _ named _ =>
    have different : other ≠ ticket := by
      intro same
      exact spared (same ▸ named)
    rw [OrderedMap.getElem?_erase, if_neg different, stored]

end OperateOutcome

theorem next_outcome (balanced : store.Balanced) (operation : Operation F) :
    OperateOutcome store operation ((operations F).output operation store)
      ((operations F).next operation store) :=
  operate_outcome balanced operation

theorem exec_balanced (balanced : store.Balanced) (requests : List (Operation F)) :
    ((operations F).exec requests store).Balanced ∧
      ((operations F).exec requests store).capacity = store.capacity := by
  induction requests generalizing store with
  | nil => exact ⟨balanced, rfl⟩
  | cons request rest ih =>
    have outcome := next_outcome balanced request
    have later := ih (outcome.balanced balanced)
    exact ⟨later.1, later.2.trans outcome.capacity⟩

theorem exec_keeps (balanced : store.Balanced) {requests : List (Operation F)}
    (spared : ∀ request ∈ requests, request ≠ .remove ticket) (stored : store.blocks[ticket]? = some block) :
    ((operations F).exec requests store).blocks[ticket]? = some block := by
  induction requests generalizing store with
  | nil => exact stored
  | cons request rest ih =>
    have outcome := next_outcome balanced request
    apply ih (outcome.balanced balanced)
    · exact fun other member => spared other (List.mem_cons_of_mem _ member)
    · exact outcome.keeps (spared request List.mem_cons_self) stored

theorem new_balanced {capacity : Nat} (created : new capacity = .ok store) :
    store.Balanced ∧ store.capacity = capacity := by
  obtain ⟨_, created⟩ := check_ok.mp created
  cases created
  exact ⟨Quota.balanced_empty capacity, rfl⟩

end MemoryBlockStore

namespace DataPlane

variable [BlockFormats F]

-- An upload that knows its budget and still has to insert.
structure Upload (F : Type) where
  ticket : String
  availableBytes : Nat
  first : UploadStream F

-- `do_put` up to its first critical section.
def beginPut (storage : BlockStorage F) (request : Option (UploadStream F)) :
    Except Status (Upload F) := do
  let first ← required request "block upload must not be empty"
  let ticket ← first.ticket
  return { ticket, availableBytes := storage.uploadBudget ticket, first }

def Upload.store (upload : Upload F) (faults : Faults) : Stateful Status (BlockStorage F) UploadAck :=
  storeStream faults upload.ticket upload.availableBytes upload.first

-- The store together with the uploads that are under way.
structure Plane (F : Type) where
  storage : BlockStorage F
  uploads : List (Upload F)

inductive PlaneStep (F : Type) where
  | beginPut (request : Option (UploadStream F))
  | finishPut (faults : Faults) (index : Nat)
  | get (faults : Faults) (ticket : Option String)
  | action (faults : Faults) (kind : String) (ticket : Option String)

inductive PlaneAnswer (F : Type) where
  | begun (upload : Except Status (Upload F))
  | finished (ack : Except Status UploadAck)
  | block (result : Except Status (StoredBlock F))
  | acted (result : Except Status String)
  | ignored

variable (F) in
def plane : Machine (Plane F) (PlaneStep F) (PlaneAnswer F) where
  step input plane :=
    match input with
    | .beginPut request =>
      let begun := DataPlane.beginPut plane.storage request
      (.begun begun, { plane with uploads := plane.uploads ++ begun.toOption.toList })
    | .finishPut faults index =>
      match plane.uploads[index]? with
      | none => (.ignored, plane)
      | some upload =>
        let (ack, storage) := (upload.store faults).run plane.storage
        (.finished ack, { storage, uploads := plane.uploads.eraseIdx index })
    | .get faults ticket => (.block (doGet plane.storage faults ticket), plane)
    | .action faults kind ticket =>
      let (result, storage) := (doAction faults kind ticket).run plane.storage
      (.acted result, { plane with storage })

variable {storage : BlockStorage F}

omit [BlockFormats F] in
theorem access_yields {α : Type} {operation : Stateful Fault (BlockStorage F) α}
    {after : BlockStorage F → Prop} (yields : operation.Yields storage fun _ => after) :
    (access operation).Yields storage fun _ => after :=
  yields

theorem store_step (upload : Upload F) (faults : Faults) (storage : BlockStorage F) :
    (upload.store faults).Yields storage fun _ after => BlockStorage.Step none storage after := by
  have same := BlockStorage.Step.refl none storage
  unfold Upload.store storeStream
  apply Stateful.Yields.lift (fun _ _ => same)
  intro _ _
  apply Stateful.Yields.lift (fun _ _ => same)
  intro batches _
  apply Stateful.Yields.lift (fun _ _ => same)
  intro schema _
  apply Stateful.Yields.lift (fun _ _ => same)
  intro metadata _
  apply Stateful.Yields.map
  exact access_yields (BlockStorage.insert_step storage faults upload.ticket none (by simp))

theorem action_step (accounted : storage.Accounted) (faults : Faults) (kind : String) (ticket : Option String) :
    (doAction faults kind ticket).Yields storage fun _ after =>
      ∃ target, BlockStorage.Step target storage after := by
  have same : ∃ target, BlockStorage.Step target storage storage := ⟨none, BlockStorage.Step.refl _ _⟩
  unfold doAction
  apply Stateful.Yields.lift (fun _ _ => same)
  intro _ _
  apply Stateful.Yields.lift (fun _ _ => same)
  intro ticket _
  apply Stateful.Yields.lift (fun _ _ => same)
  intro _ _
  apply Stateful.Yields.map
  apply access_yields
  apply (BlockStorage.remove_step accounted faults ticket).mono
  intro _ after step
  exact ⟨some ticket, step⟩

theorem plane_step {state : Plane F} (accounted : state.storage.Accounted) (input : PlaneStep F) :
    ∃ target, BlockStorage.Step target state.storage ((plane F).next input state).storage := by
  have same : ∃ target, BlockStorage.Step target state.storage state.storage :=
    ⟨none, BlockStorage.Step.refl _ _⟩
  cases input with
  | beginPut | get => exact same
  | finishPut faults index =>
    simp only [Machine.next, plane]
    split
    next => exact same
    next upload _ => exact ⟨none, store_step upload faults state.storage⟩
  | action faults kind ticket => exact action_step accounted faults kind ticket

theorem plane_memory {start : MemoryBlockStore F} (accounted : BlockStorage.Accounted (.memory start))
    (inputs : List (PlaneStep F)) :
    ∃ store, ((plane F).exec inputs ⟨.memory start, []⟩).storage = .memory store ∧
      store.capacity = start.capacity ∧ store.Balanced := by
  have invariant : ((plane F).exec inputs ⟨.memory start, []⟩).storage.Accounted ∧
      ∃ store, ((plane F).exec inputs ⟨.memory start, []⟩).storage = .memory store ∧
        store.capacity = start.capacity := by
    apply Machine.Reaches.induct (m := plane F) ⟨inputs, rfl⟩ (fun state => state.storage.Accounted ∧
      ∃ store, state.storage = .memory store ∧ store.capacity = start.capacity)
    · exact ⟨accounted, start, rfl, rfl⟩
    · rintro state input _ ⟨accounted, store, memory, capacity⟩
      obtain ⟨target, step⟩ := plane_step accounted input
      refine ⟨step.accounted accounted, ?_⟩
      rw [memory] at step
      cases after : ((plane F).next input state).storage with
      | memory store =>
        rw [after] at step
        exact ⟨store, rfl, step.1.trans capacity⟩
      | disk store =>
        rw [after] at step
        exact step.elim
  obtain ⟨accounted, store, memory, capacity⟩ := invariant
  rw [memory] at accounted
  exact ⟨store, memory, capacity, Quota.Accounted.balanced accounted⟩

theorem memory_store_accounting {capacity : Nat} {start : MemoryBlockStore F}
    (created : MemoryBlockStore.new capacity = .ok start) :
    (∀ requests,
      let store := (MemoryBlockStore.operations F).exec requests start
      store.used = (OrderedMap.total (fun _ block => block.chargedBytes) store.blocks) ∧
      store.used ≤ capacity ∧ store.capacity = capacity ∧
      (∀ request fault, (MemoryBlockStore.operations F).output request store = .error fault →
        (MemoryBlockStore.operations F).next request store = store ∧ ∃ error, fault = .error error) ∧
      ∀ ticket block later, store.blocks[ticket]? = some block → (∀ request ∈ later, request ≠ .remove ticket) →
        ((MemoryBlockStore.operations F).exec later store).blocks[ticket]? = some block) ∧
    ∀ inputs, ∃ store, ((plane F).exec inputs ⟨.memory start, []⟩).storage = .memory store ∧
      store.used = (OrderedMap.total (fun _ block => block.chargedBytes) store.blocks) ∧
      store.used ≤ capacity ∧ store.capacity = capacity := by
  obtain ⟨balanced, same⟩ := MemoryBlockStore.new_balanced created
  constructor
  · intro requests store
    obtain ⟨balanced, kept⟩ := MemoryBlockStore.exec_balanced balanced requests
    have limit : store.capacity = capacity := kept.trans same
    refine ⟨balanced.charged, limit ▸ balanced.bounded, limit, ?_, ?_⟩
    · exact fun request fault failed => (MemoryBlockStore.next_outcome balanced request).unchanged failed
    · exact fun ticket block later stored spared => MemoryBlockStore.exec_keeps balanced spared stored
  · intro inputs
    have accounted : BlockStorage.Accounted (.memory start) := by
      apply @BlockStorage.bind_accounted F _ none capacity
      rw [BlockStorage.bind, created]
      rfl
    obtain ⟨store, memory, kept, balanced⟩ := plane_memory accounted inputs
    have limit : store.capacity = capacity := kept.trans same
    exact ⟨store, memory, balanced.charged, limit ▸ balanced.bounded, limit⟩

theorem memory_store_of_hundred :
    (∃ store, MemoryBlockStore.new (F := Unit) 100 = .ok store) ∧
    ∀ inputs, ∃ store, ((plane Unit).exec inputs ⟨.memory ⟨100, 0, ∅⟩, []⟩).storage = .memory store ∧
      store.used ≤ 100 := by
  have created : MemoryBlockStore.new 100 = .ok (⟨100, 0, ∅⟩ : MemoryBlockStore Unit) := rfl
  refine ⟨⟨_, created⟩, ?_⟩
  intro inputs
  obtain ⟨store, memory, _, bounded, _⟩ := (memory_store_accounting created).2 inputs
  exact ⟨store, memory, bounded⟩

end DataPlane

end SparkX
