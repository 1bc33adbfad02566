import SparkX.Error
import SparkX.Shared.Text
import SparkX.Shared.Word

set_option autoImplicit false

namespace SparkX

open Std

-- The part of `PhysicalPlanCodec` the control plane uses. Everything proved about the coordinator
-- holds for whatever set of fragments the codec accepts.
class PhysicalPlanCodec where
  validateFragment : List UInt8 → Except SparkXError Unit

def protocolVersion : U16 := 5

def protocolError (message : String) : SparkXError :=
  .protocol s!"invalid distributed protocol message: {message}"

def validateVersion (version : U16) : Except SparkXError Unit :=
  rejectIf (version ≠ protocolVersion) <| protocolError
    s!"unsupported protocol version {version}; expected {protocolVersion}"

def validateTextId (kind value : String) : Except SparkXError Unit := do
  rejectIf (Text.isBlank value) (protocolError s!"{kind} ID must not be empty")
  rejectIf (128 < Text.byteLength value) (protocolError s!"{kind} ID must not exceed 128 bytes")

-- The codes that the error mappings of the two Flight services tell apart.
inductive Code where
  | invalidArgument
  | notFound
  | resourceExhausted
  | aborted
  | cancelled
  | internal
deriving DecidableEq

structure Status where
  code : Code
  message : String
deriving DecidableEq

structure QueryId where
  value : String
deriving DecidableEq, Repr

structure WorkerId where
  value : String
deriving DecidableEq, Repr

abbrev StageId := U32
abbrev PartitionId := U32

instance : Ord QueryId := ⟨compareOn QueryId.value⟩
instance : Ord WorkerId := ⟨compareOn WorkerId.value⟩

theorem compareOn_lawful {α β : Type} [Ord β] [LawfulEqOrd β] {f : α → β}
    (injective : Function.Injective f) : LawfulEqCmp (compareOn f) where
  compare_self := ReflOrd.compare_self (α := β)
  eq_of_compare equal := injective (LawfulEqOrd.eq_of_compare equal)

instance : TransOrd QueryId := inferInstanceAs (TransCmp (compareOn QueryId.value))
instance : TransOrd WorkerId := inferInstanceAs (TransCmp (compareOn WorkerId.value))

instance : LawfulEqOrd QueryId :=
  compareOn_lawful fun first second same => by cases first; cases second; simp_all

instance : LawfulEqOrd WorkerId :=
  compareOn_lawful fun first second same => by cases first; cases second; simp_all

def QueryId.validate (queryId : QueryId) : Except SparkXError Unit :=
  validateTextId "query" queryId.value

def WorkerId.validate (workerId : WorkerId) : Except SparkXError Unit :=
  validateTextId "worker" workerId.value

structure HashExchange where
  columns : List Nat
  partitionCount : U32
deriving DecidableEq, Repr

structure StagePlan where
  queryId : QueryId
  stageId : StageId
  inputStages : List StageId
  partitionCount : U32
  planFragment : List UInt8
  outputExchange : Option HashExchange
  partitionedInput : Bool
deriving DecidableEq, Repr

-- The dependency loop of `StagePlan::validate`; `seen` is its `BTreeSet`.
def validateDependencies (stageId : StageId) (seen : List StageId) :
    List StageId → Except SparkXError Unit
  | [] => .ok ()
  | dependency :: rest => do
    rejectIf (dependency = stageId) (protocolError "stage cannot depend on itself")
    rejectIf (dependency ∈ seen) (protocolError "stage dependencies must be unique")
    validateDependencies stageId (dependency :: seen) rest

def HashExchange.validate (exchange : HashExchange) : Except SparkXError Unit :=
  rejectIf (exchange.partitionCount = 0 ∨ exchange.columns = [])
    (protocolError "hash exchange needs keys and a nonzero partition count")

def StagePlan.validate [PhysicalPlanCodec] (stage : StagePlan) : Except SparkXError Unit := do
  stage.queryId.validate
  rejectIf (stage.partitionCount = 0) (protocolError "stage partition count must be greater than zero")
  stage.outputExchange.forM HashExchange.validate
  rejectIf (stage.partitionedInput ∧ stage.inputStages = [])
    (protocolError "partitioned input requires a dependency")
  PhysicalPlanCodec.validateFragment stage.planFragment
  validateDependencies stage.stageId [] stage.inputStages

structure TaskAttemptId where
  queryId : QueryId
  stageId : StageId
  partitionId : PartitionId
  attempt : U32
deriving DecidableEq, Repr

def TaskAttemptId.validate (task : TaskAttemptId) : Except SparkXError Unit :=
  task.queryId.validate

def TaskAttemptId.validateFor (task : TaskAttemptId) (stage : StagePlan) :
    Except SparkXError Unit := do
  task.validate
  rejectIf (task.queryId ≠ stage.queryId) (protocolError "task query does not match its stage")
  rejectIf (task.stageId ≠ stage.stageId) (protocolError "task stage does not match its stage plan")
  rejectIf (stage.partitionCount ≤ task.partitionId) <| protocolError
    s!"task partition {task.partitionId} is outside stage partition count {stage.partitionCount}"

structure TaskLease where
  workerId : WorkerId
  issuedAtMs : U64
  expiresAtMs : U64
deriving DecidableEq, Repr

def TaskLease.validate (lease : TaskLease) : Except SparkXError Unit := do
  lease.workerId.validate
  rejectIf (lease.expiresAtMs ≤ lease.issuedAtMs)
    (protocolError "task lease must expire after it is issued")

inductive ShuffleLocation where
  | worker (workerId : WorkerId)
  | flight (workerId : WorkerId) (endpoint ticket : String)
  | objectStore (uri : String)
deriving DecidableEq, Repr

structure ShuffleBlock where
  producer : TaskAttemptId
  outputPartition : PartitionId
  rows : U64
  bytes : U64
  checksum : String
  location : ShuffleLocation
deriving DecidableEq, Repr

-- The authority check of a Flight endpoint: an `http` or `https` scheme followed by text without
-- white space.
def validAuthority (endpoint : String) : Bool :=
  match (Text.stripPrefix "http://" endpoint).or (Text.stripPrefix "https://" endpoint) with
  | some authority => !Text.isBlank authority && !Text.hasWhitespace authority
  | none => false

def ShuffleLocation.validate : ShuffleLocation → Except SparkXError Unit
  | .worker workerId => workerId.validate
  | .flight workerId endpoint ticket => do
    workerId.validate
    rejectIf (!validAuthority endpoint)
      (protocolError "Flight shuffle endpoint must contain an http:// or https:// authority")
    rejectIf (Text.isBlank ticket) (protocolError "Flight shuffle ticket must not be empty")
  | .objectStore uri =>
    rejectIf (Text.isBlank uri) (protocolError "shuffle object-store location must not be empty")

def ShuffleBlock.validate (block : ShuffleBlock) : Except SparkXError Unit := do
  block.producer.validate
  rejectIf (Text.isBlank block.checksum) (protocolError "shuffle block checksum must not be empty")
  block.location.validate

def ShuffleLocation.validateOwner (reportingWorker : WorkerId) :
    ShuffleLocation → Except SparkXError Unit
  | .worker workerId => rejectIf (workerId ≠ reportingWorker)
    (protocolError "in-memory shuffle block must be owned by the reporting worker")
  | .flight workerId _ _ => rejectIf (workerId ≠ reportingWorker)
    (protocolError "Flight shuffle block must be owned by the reporting worker")
  | .objectStore _ => .ok ()

def ShuffleBlock.validateFor (block : ShuffleBlock) (task : TaskAttemptId)
    (reportingWorker : WorkerId) : Except SparkXError Unit := do
  block.validate
  rejectIf (block.producer ≠ task) (protocolError "shuffle block producer does not match task update")
  block.location.validateOwner reportingWorker

inductive TaskState where
  | running (startedAtMs : U64)
  | succeeded (finishedAtMs : U64) (outputBlocks : List ShuffleBlock)
  | failed (finishedAtMs : U64) (error : String) (retryable : Bool)
  | cancelled (finishedAtMs : U64) (reason : String)
deriving DecidableEq, Repr

def TaskState.validateFor (state : TaskState) (task : TaskAttemptId) (workerId : WorkerId) :
    Except SparkXError Unit :=
  match state with
  | .succeeded _ outputBlocks => outputBlocks.forM (·.validateFor task workerId)
  | .failed _ error _ =>
    rejectIf (Text.isBlank error) (protocolError "failed task must include an error")
  | .cancelled _ reason =>
    rejectIf (Text.isBlank reason) (protocolError "cancelled task must include a reason")
  | .running _ => .ok ()

structure WorkerRegistration where
  workerId : WorkerId
  slots : U32
  memoryBytes : U64
deriving DecidableEq, Repr

def WorkerRegistration.validate (registration : WorkerRegistration) : Except SparkXError Unit := do
  registration.workerId.validate
  rejectIf (registration.slots = 0) (protocolError "worker must advertise at least one slot")
  rejectIf (registration.memoryBytes = 0) (protocolError "worker must advertise non-zero memory")

structure WorkerHeartbeat where
  workerId : WorkerId
  observedAtMs : U64
  availableSlots : U32
  availableMemoryBytes : U64
deriving DecidableEq, Repr

inductive CoordinatorMessage where
  | assignTask (version : U16) (stage : StagePlan) (task : TaskAttemptId) (lease : TaskLease)
      (inputBlocks : List ShuffleBlock)
  | cancelQuery (version : U16) (queryId : QueryId) (reason : String)
deriving DecidableEq, Repr

def StagePlan.validateInput (stage : StagePlan) (task : TaskAttemptId) (block : ShuffleBlock) :
    Except SparkXError Unit := do
  block.validate
  rejectIf (stage.partitionedInput ∧ block.outputPartition ≠ task.partitionId)
    (protocolError "input block targets a different partition")
  rejectIf (block.producer.queryId ≠ stage.queryId)
    (protocolError "assignment input block belongs to a different query")
  rejectIf (block.producer.stageId ∉ stage.inputStages)
    (protocolError "assignment input block was not produced by a dependency stage")

def CoordinatorMessage.validate [PhysicalPlanCodec] : CoordinatorMessage → Except SparkXError Unit
  | .assignTask version stage task lease inputBlocks => do
    validateVersion version
    stage.validate
    task.validateFor stage
    lease.validate
    inputBlocks.forM (stage.validateInput task)
  | .cancelQuery version queryId reason => do
    validateVersion version
    queryId.validate
    rejectIf (Text.isBlank reason) (protocolError "query cancellation must include a reason")

-- What `serde_json::to_vec` writes.
def escapeChar (c : Char) : List Char :=
  if c = '"' then ['\\', '"']
  else if c = '\\' then ['\\', '\\']
  else if c.toNat = 8 then ['\\', 'b']
  else if c.toNat = 9 then ['\\', 't']
  else if c.toNat = 10 then ['\\', 'n']
  else if c.toNat = 12 then ['\\', 'f']
  else if c.toNat = 13 then ['\\', 'r']
  else if c.toNat < 32 then ['\\', 'u'] ++ (Text.hexPadded 4 c.toNat).toList
  else [c]

def jsonText (text : String) : List Char := '"' :: text.toList.flatMap escapeChar ++ ['"']

def jsonNumber (number : Nat) : List Char := Nat.toDigits 10 number

def jsonList (items : List (List Char)) : List Char := '[' :: [','].intercalate items ++ [']']

def jsonObject (fields : List (String × List Char)) : List Char :=
  '{' :: [','].intercalate (fields.map fun field => jsonText field.1 ++ ':' :: field.2) ++ ['}']

def HashExchange.toJson (exchange : HashExchange) : List Char :=
  jsonObject [("columns", jsonList (exchange.columns.map jsonNumber)),
    ("partition_count", jsonNumber exchange.partitionCount.val)]

def StagePlan.toJson (stage : StagePlan) : List Char :=
  jsonObject [("query_id", jsonText stage.queryId.value), ("stage_id", jsonNumber stage.stageId.val),
    ("input_stages", jsonList (stage.inputStages.map (jsonNumber ·.val))),
    ("partition_count", jsonNumber stage.partitionCount.val),
    ("plan_fragment", jsonList (stage.planFragment.map (jsonNumber ·.toNat))),
    ("output_exchange", stage.outputExchange.elim "null".toList HashExchange.toJson),
    ("partitioned_input", (toString stage.partitionedInput).toList)]

def TaskAttemptId.toJson (task : TaskAttemptId) : List Char :=
  jsonObject [("query_id", jsonText task.queryId.value), ("stage_id", jsonNumber task.stageId.val),
    ("partition_id", jsonNumber task.partitionId.val), ("attempt", jsonNumber task.attempt.val)]

def TaskLease.toJson (lease : TaskLease) : List Char :=
  jsonObject [("worker_id", jsonText lease.workerId.value), ("issued_at_ms", jsonNumber lease.issuedAtMs.val),
    ("expires_at_ms", jsonNumber lease.expiresAtMs.val)]

def ShuffleLocation.toJson : ShuffleLocation → List Char
  | .worker workerId => jsonObject [("location", jsonText "worker"), ("worker_id", jsonText workerId.value)]
  | .flight workerId endpoint ticket => jsonObject [("location", jsonText "flight"),
    ("worker_id", jsonText workerId.value), ("endpoint", jsonText endpoint), ("ticket", jsonText ticket)]
  | .objectStore uri => jsonObject [("location", jsonText "object_store"), ("uri", jsonText uri)]

def ShuffleBlock.toJson (block : ShuffleBlock) : List Char :=
  jsonObject [("producer", block.producer.toJson), ("output_partition", jsonNumber block.outputPartition.val),
    ("rows", jsonNumber block.rows.val), ("bytes", jsonNumber block.bytes.val),
    ("checksum", jsonText block.checksum), ("location", block.location.toJson)]

def CoordinatorMessage.toJson : CoordinatorMessage → List Char
  | .assignTask version stage task lease inputBlocks => jsonObject [("type", jsonText "assign_task"),
    ("version", jsonNumber version.val), ("stage", stage.toJson), ("task", task.toJson), ("lease", lease.toJson),
    ("input_blocks", jsonList (inputBlocks.map ShuffleBlock.toJson))]
  | .cancelQuery version queryId reason => jsonObject [("type", jsonText "cancel_query"),
    ("version", jsonNumber version.val), ("query_id", jsonText queryId.value), ("reason", jsonText reason)]

inductive WorkerMessage where
  | register (version : U16) (registration : WorkerRegistration)
  | heartbeat (version : U16) (report : WorkerHeartbeat)
  | taskUpdate (version : U16) (workerId : WorkerId) (task : TaskAttemptId) (state : TaskState)
deriving DecidableEq, Repr

def WorkerMessage.validate : WorkerMessage → Except SparkXError Unit
  | .register version registration => do
    validateVersion version
    registration.validate
  | .heartbeat version report => do
    validateVersion version
    report.workerId.validate
  | .taskUpdate version workerId task state => do
    validateVersion version
    workerId.validate
    task.queryId.validate
    state.validateFor task workerId

theorem validateDependencies_ok {stageId : StageId} {seen inputStages : List StageId} :
    validateDependencies stageId seen inputStages = .ok () ↔
      stageId ∉ inputStages ∧ inputStages.Nodup ∧ ∀ dependency ∈ inputStages, dependency ∉ seen := by
  induction inputStages generalizing seen with
  | nil => simp [validateDependencies]
  | cons dependency rest ih =>
    simp only [validateDependencies, check_ok, rejectIf_ok, ih, List.mem_cons, not_or,
      List.nodup_cons, forall_eq_or_imp]
    constructor
    · rintro ⟨other, fresh, absent, distinct, apart⟩
      refine ⟨⟨Ne.symm other, absent⟩, ⟨fun member => (apart dependency member).1 rfl, distinct⟩, fresh, ?_⟩
      exact fun later member => (apart later member).2
    · rintro ⟨⟨other, absent⟩, ⟨once, distinct⟩, fresh, apart⟩
      refine ⟨Ne.symm other, fresh, absent, distinct, ?_⟩
      intro later member
      exact ⟨fun same => once (same ▸ member), apart later member⟩

structure StagePlan.Valid [PhysicalPlanCodec] (stage : StagePlan) : Prop where
  query : stage.queryId.validate = .ok ()
  partitions : stage.partitionCount ≠ 0
  exchange : ∀ exchange, stage.outputExchange = some exchange →
    exchange.partitionCount ≠ 0 ∧ exchange.columns ≠ []
  partitioned : stage.partitionedInput → stage.inputStages ≠ []
  fragment : PhysicalPlanCodec.validateFragment stage.planFragment = .ok ()
  acyclic : stage.stageId ∉ stage.inputStages
  distinct : stage.inputStages.Nodup

variable {stage : StagePlan}

theorem StagePlan.validate_ok [PhysicalPlanCodec] : stage.validate = .ok () ↔ stage.Valid := by
  have exchanges : stage.outputExchange.forM HashExchange.validate = .ok () ↔
      ∀ exchange, stage.outputExchange = some exchange →
        exchange.partitionCount ≠ 0 ∧ exchange.columns ≠ [] := by
    cases stage.outputExchange with
    | none => simp [Option.forM, pure, Except.pure]
    | some exchange => simp [Option.forM, HashExchange.validate, rejectIf_ok]
  simp only [validate, check_ok, rejectIf_ok, exchanges, validateDependencies_ok, not_and]
  constructor
  · rintro ⟨query, partitions, exchange, partitioned, fragment, acyclic, distinct, _⟩
    exact ⟨query, partitions, exchange, partitioned, fragment, acyclic, distinct⟩
  · rintro ⟨query, partitions, exchange, partitioned, fragment, acyclic, distinct⟩
    exact ⟨query, partitions, exchange, partitioned, fragment, acyclic, distinct, by simp⟩

variable {task : TaskAttemptId}

theorem TaskAttemptId.validateFor_ok : task.validateFor stage = .ok () ↔ task.queryId.validate = .ok () ∧
      task.queryId = stage.queryId ∧ task.stageId = stage.stageId ∧
        task.partitionId < stage.partitionCount := by
  simp only [validateFor, validate, check_ok, rejectIf_ok, not_not, Fin.not_le]

theorem TaskLease.validate_ok {lease : TaskLease} :
    lease.validate = .ok () ↔ lease.workerId.validate = .ok () ∧ lease.issuedAtMs < lease.expiresAtMs := by
  simp only [validate, check_ok, rejectIf_ok, Fin.not_le]

theorem ShuffleBlock.validateFor_ok {block : ShuffleBlock} {workerId : WorkerId}
    (valid : block.validateFor task workerId = .ok ()) :
    block.validate = .ok () ∧ block.producer = task := by
  simp only [validateFor, check_ok, rejectIf_ok, not_not] at valid
  exact ⟨valid.1, valid.2.1⟩

theorem StagePlan.validateInput_ok {block : ShuffleBlock} :
    stage.validateInput task block = .ok () ↔ block.validate = .ok () ∧
      (stage.partitionedInput → block.outputPartition = task.partitionId) ∧
        block.producer.queryId = stage.queryId ∧ block.producer.stageId ∈ stage.inputStages := by
  simp only [validateInput, check_ok, rejectIf_ok, not_and, not_not]

theorem validateVersion_ok {version : U16} :
    validateVersion version = .ok () ↔ version = protocolVersion := by
  simp only [validateVersion, rejectIf_ok, not_not]

def Checks {α : Type} (check : Except SparkXError α) : Prop :=
  ∀ error, check = .error error → ∃ message, error = protocolError message

section

variable {α β : Type}

theorem checks_ok (value : α) : Checks (.ok value : Except SparkXError α) := by
  intro error failed
  cases failed

theorem checks_rejectIf (condition : Prop) [Decidable condition] (message : String) :
    Checks (rejectIf condition (protocolError message)) := by
  intro error failed
  exact ⟨message, (rejectIf_error.mp failed).2.symm⟩

theorem Checks.bind {first : Except SparkXError α} {second : α → Except SparkXError β}
    (checked : Checks first) (rest : ∀ value, Checks (second value)) : Checks (first >>= second) := by
  intro error failed
  rcases bind_error.mp failed with early | ⟨value, _, late⟩
  · exact checked error early
  · exact rest value error late

theorem checks_forM {items : List α} {check : α → Except SparkXError Unit}
    (checked : ∀ item, Checks (check item)) : Checks (items.forM check) := by
  intro error failed
  obtain ⟨item, _, here⟩ := forM_error failed
  exact checked item error here

theorem checks_validateTextId (kind value : String) : Checks (validateTextId kind value) :=
  (checks_rejectIf _ _).bind fun _ => checks_rejectIf _ _

theorem TaskAttemptId.checks_validateFor (task : TaskAttemptId) (stage : StagePlan) :
    Checks (task.validateFor stage) :=
  (checks_validateTextId _ _).bind fun _ => (checks_rejectIf _ _).bind fun _ =>
    (checks_rejectIf _ _).bind fun _ => checks_rejectIf _ _

theorem ShuffleLocation.checks_validate (location : ShuffleLocation) : Checks location.validate := by
  cases location with
  | worker workerId => exact checks_validateTextId _ _
  | flight workerId endpoint ticket =>
    exact (checks_validateTextId _ _).bind fun _ => (checks_rejectIf _ _).bind fun _ =>
      checks_rejectIf _ _
  | objectStore uri => exact checks_rejectIf _ _

theorem ShuffleLocation.checks_validateOwner (workerId : WorkerId) (location : ShuffleLocation) :
    Checks (location.validateOwner workerId) := by
  cases location with
  | worker owner => exact checks_rejectIf _ _
  | flight owner endpoint ticket => exact checks_rejectIf _ _
  | objectStore uri => exact checks_ok _

theorem ShuffleBlock.checks_validateFor (block : ShuffleBlock) (task : TaskAttemptId)
    (workerId : WorkerId) : Checks (block.validateFor task workerId) := by
  have stored : Checks block.validate :=
    (checks_validateTextId _ _).bind fun _ => (checks_rejectIf _ _).bind fun _ =>
      block.location.checks_validate
  exact stored.bind fun _ => (checks_rejectIf _ _).bind fun _ =>
    block.location.checks_validateOwner workerId

theorem TaskState.checks_validateFor (state : TaskState) (task : TaskAttemptId)
    (workerId : WorkerId) : Checks (state.validateFor task workerId) := by
  cases state with
  | running startedAtMs => exact checks_ok _
  | succeeded finishedAtMs outputBlocks =>
    exact checks_forM fun block => block.checks_validateFor task workerId
  | failed finishedAtMs error retryable => exact checks_rejectIf _ _
  | cancelled finishedAtMs reason => exact checks_rejectIf _ _

theorem WorkerMessage.checks_validate (message : WorkerMessage) : Checks message.validate := by
  cases message with
  | register version registration =>
    exact (checks_rejectIf _ _).bind fun _ => (checks_validateTextId _ _).bind fun _ =>
      (checks_rejectIf _ _).bind fun _ => checks_rejectIf _ _
  | heartbeat version report =>
    exact (checks_rejectIf _ _).bind fun _ => checks_validateTextId _ _
  | taskUpdate version workerId task state =>
    exact (checks_rejectIf _ _).bind fun _ => (checks_validateTextId _ _).bind fun _ =>
      (checks_validateTextId _ _).bind fun _ => state.checks_validateFor task workerId

end

end SparkX
