import SparkX.Runtime.Aggregate
import SparkX.Runtime.Plan

set_option autoImplicit false

-- Every operator is a task that sends its batches over a channel; a stream is what the receiver of
-- the channel gets before it is closed. An error is an item of the stream. A panic ends the task,
-- and the receiver only sees that the channel is closed. Batches are sent in order by all tasks but
-- the scan, whose partitions share a channel: `Schedule` is the order in which they arrive there.
-- Metrics, memory limits and cancellation are left out.

namespace SparkX

abbrev BatchStream (F : Type) := List (Except SparkXError (RecordBatch F))

structure Schedule (F : Type) where
  arrange : OperatorId → List (BatchStream F) → BatchStream F
  complete : ∀ id streams, (arrange id streams).Perm streams.flatten
  ordered : ∀ (id : OperatorId) (streams : List (BatchStream F)), ∀ stream ∈ streams,
    stream.Sublist (arrange id streams)
  -- Whether `try_send` finds room in the channel when the loop over the partitions is at this
  -- position; before the first one the channel is empty.
  room : OperatorId → Nat → Bool
  initial : ∀ id, room id 0 = true

def Schedule.inOrder (F : Type) : Schedule F :=
  { arrange := fun _ streams => streams.flatten
    complete := fun _ _ => .refl _
    ordered := fun _ _ _ member => List.sublist_flatten_of_mem member
    room := fun _ _ => true
    initial := fun _ => rfl }

structure TaskContext where
  batchSize : Nat
  partition : Option Nat

section

variable {F : Type} [ArrowKernels F]

def collect (stream : BatchStream F) : Except SparkXError (List (RecordBatch F)) :=
  stream.mapM fun item => item

def respond : Except Fault (RecordBatch F) → BatchStream F
  | .ok batch => [.ok batch]
  | .error (.error error) => [.error error]
  | .error (.panic _) => []

def forward (transform : RecordBatch F → Except Fault (RecordBatch F)) :
    BatchStream F → BatchStream F
  | [] => []
  | .error error :: rest => .error error :: forward transform rest
  | .ok batch :: rest =>
    match transform batch with
    | .ok output => .ok output :: forward transform rest
    | .error (.error error) => .error error :: forward transform rest
    | .error (.panic _) => []

def projectBatch (exprs : List (Expr F)) (schema : Schema) (batch : RecordBatch F) :
    Except Fault (RecordBatch F) := do
  RecordBatch.tryNew schema (← exprs.mapM (evaluate · batch))

def filterBatch (batch : RecordBatch F) (predicate : Expr F) : Except Fault (RecordBatch F) := do
  let flags ← evaluate predicate batch
  rejectIf (flags.dataType ≠ .boolean) (Fault.error (.execution
    "filter predicate did not produce Boolean values"))
  return batch.filter (flags.values.map (·.toBool))

-- The task of a partition stops at the first batch that cannot be filtered.
def scanTask (filters : List (Expr F)) : List (RecordBatch F) → BatchStream F
  | [] => []
  | batch :: rest =>
    match filters.foldlM filterBatch batch with
    | .ok filtered => .ok filtered :: scanTask filters rest
    | .error (.error error) => [.error error]
    | .error (.panic _) => []

def scanStream (provider : TableProvider F) (projection : Option (List Nat))
    (filters : List (Expr F)) (batchSize : Nat) (room : Bool) (partition : Nat) : BatchStream F :=
  match provider.partitionMayMatch partition filters with
  | .error error => if room then [.error error] else []
  | .ok false => []
  | .ok true =>
    match provider.scanPartition partition projection batchSize with
    | .error error => [.error error]
    | .ok batches => scanTask filters batches

def executeScan (schedule : Schedule F) (context : TaskContext) (id : OperatorId)
    (provider : TableProvider F) (projection : Option (List Nat)) (filters : List (Expr F)) :
    BatchStream F :=
  let partitions := context.partition.elim (List.range provider.partitionCount) ([·])
  schedule.arrange id <| partitions.zipIdx.map fun entry =>
    scanStream provider projection filters context.batchSize (schedule.room id entry.2) entry.1

def executeLimit : Nat → BatchStream F → BatchStream F
  | 0, _ => []
  | _ + 1, [] => []
  | _ + 1, .error error :: _ => [.error error]
  | remaining + 1, .ok batch :: rest =>
    let taken := min (remaining + 1) batch.numRows
    -- A batch without rows is not passed on.
    if taken = 0 then executeLimit (remaining + 1) rest
    else .ok (batch.slice taken) :: executeLimit (remaining + 1 - taken) rest

def executeAggregate (groupExprs aggregateExprs : List (Expr F)) (schema : Schema)
    (input : BatchStream F) : BatchStream F :=
  respond do hashAggregate (← collect input) groupExprs aggregateExprs schema

def lexsortToIndices (columns : List (SortColumn F)) (numRows : Nat) (limit : Option Nat) :
    Except SparkXError (List Nat) := do
  rejectIf (columns.length = 0) (.arrow "Invalid argument error: Sort requires at least one column")
  rejectIf (columns.any fun column => !ArrowKernels.canCompare F column.values.dataType) (.arrow
    "Invalid argument error: Sort not supported for this data type")
  return ArrowKernels.sortIndices columns numRows limit

-- `execute_sort` without a limit and `execute_topk` with one.
def sortBatches (exprs : List (SortExpr F)) (limit : Option Nat) (schema : Schema)
    (batches : List (RecordBatch F)) : Except Fault (RecordBatch F) := do
  if batches.isEmpty || limit = some 0 then
    return .newEmpty schema
  let batch ← RecordBatch.concatBatches schema batches
  let columns ← exprs.mapM fun sort => do
    return { values := ← evaluate sort.expr batch
             descending := !sort.ascending
             nullsFirst := sort.nullsFirst : SortColumn F }
  let indices ← lexsortToIndices columns batch.numRows (limit.map (min · batch.numRows))
  return batch.take indices

def executeSort (exprs : List (SortExpr F)) (schema : Schema) (input : BatchStream F) :
    BatchStream F :=
  respond do sortBatches exprs none schema (← collect input)

def executeTopk (exprs : List (SortExpr F)) (limit : Nat) (schema : Schema)
    (input : BatchStream F) : BatchStream F :=
  respond do sortBatches exprs (some limit) schema (← collect input)

abbrev Build (F : Type) := List (EncodedKey F × List (ScalarValue F))

def scalarRow (batch : RecordBatch F) (row : List (Value F)) :
    Except SparkXError (List (ScalarValue F)) :=
  (batch.schema.types.zip row).mapM fun slot => valueAt slot.1 slot.2

-- `Array::is_null` looks at the null buffer, and a `NullArray` has none.
def ArrayRef.isNullAt (array : ArrayRef F) (row : Nat) : Bool :=
  array.dataType ≠ .null && (array.values.getD row .null).isNull

def keyHasNull (columns : List (ArrayRef F)) (row : Nat) : Bool :=
  columns.any (·.isNullAt row)

-- The keys of a batch by the encoder of the first batch that had one, and whether they have a null.
def joinKeys (on : List (Expr F)) (encoder : Option RowKeyEncoder) (batch : RecordBatch F) :
    Except Fault (RowKeyEncoder × List (EncodedKey F × Bool)) := do
  let keys ← on.mapM (evaluate · batch)
  let encoder := encoder.getD ⟨keys.map (·.dataType)⟩
  let encoded ← encoder.encode keys batch.numRows
  return (encoder, encoded.zipIdx.map fun entry => (entry.1, keyHasNull keys entry.2))

def buildRow (batch : RecordBatch F) (build : Build F) (entry : (EncodedKey F × Bool) × List (Value F)) :
    Except SparkXError (Build F) := do
  if entry.1.2 then return build
  else return build ++ [(entry.1.1, ← scalarRow batch entry.2)]

def buildBatch (rightOn : List (Expr F)) (state : Option RowKeyEncoder × Build F)
    (batch : RecordBatch F) : Except Fault (Option RowKeyEncoder × Build F) := do
  let (encoder, keys) ← joinKeys rightOn state.1 batch
  let build ← ((keys.zip batch.rows).foldlM (buildRow batch) state.2 : Except SparkXError _)
  return (some encoder, build)

def probeRow (joinType : JoinType) (rightWidth : Nat) (build : Build F) (batch : RecordBatch F)
    (output : List (List (ScalarValue F))) (entry : (EncodedKey F × Bool) × List (Value F)) :
    Except SparkXError (List (List (ScalarValue F))) := do
  let left ← scalarRow batch entry.2
  let found := build.filter (·.1 = entry.1.1)
  if !entry.1.2 && !found.isEmpty then
    return output ++ found.map fun right => left ++ right.2
  else if joinType = .left then
    return output ++ [left ++ List.replicate rightWidth .null]
  else return output

def probeBatch (leftOn : List (Expr F)) (joinType : JoinType) (rightWidth : Nat) (build : Build F)
    (state : Option RowKeyEncoder × List (List (ScalarValue F))) (batch : RecordBatch F) :
    Except Fault (Option RowKeyEncoder × List (List (ScalarValue F))) := do
  let (encoder, keys) ← joinKeys leftOn state.1 batch
  let output ← ((keys.zip batch.rows).foldlM (probeRow joinType rightWidth build batch) state.2 :
    Except SparkXError _)
  return (some encoder, output)

def hashJoin (leftBatches rightBatches : List (RecordBatch F)) (joinType : JoinType)
    (leftOn rightOn : List (Expr F)) (schema : Schema) : Except Fault (RecordBatch F) := do
  let width := fun (batches : List (RecordBatch F)) =>
    batches.head?.map (·.schema.fields.length)
  let rightWidth := (width rightBatches).getD (schema.fields.length - (width leftBatches).getD 0)
  let (encoder, build) ← rightBatches.foldlM (buildBatch rightOn) (none, [])
  let (_, rows) ← leftBatches.foldlM (probeBatch leftOn joinType rightWidth build) (encoder, [])
  if rows.any (schema.fields.length < ·.length) then
    throw (.panic "index out of bounds")
  let columns := schema.fields.zipIdx.map fun entry => (entry.1, rows.filterMap (·[entry.2]?))
  let arrays ← (columns.mapM fun column => scalarsToArray column.2 column.1.dataType : Except SparkXError _)
  RecordBatch.tryNew schema arrays

end

-- `execute`. Where both sides of a join fail, the error of the left one is reported.
def execute {F : Type} [ArrowKernels F] (schedule : Schedule F) (context : TaskContext) :
    PhysicalPlan F → BatchStream F
  | .scan id _ provider projection filters _ =>
    executeScan schedule context id provider projection filters
  | .projection _ input exprs schema =>
    forward (projectBatch exprs schema) (execute schedule context input)
  | .filter _ input predicate _ =>
    forward (filterBatch · predicate) (execute schedule context input)
  | .hashAggregate _ input groupExprs aggregateExprs schema =>
    executeAggregate groupExprs aggregateExprs schema (execute schedule context input)
  | .sort _ input exprs schema => executeSort exprs schema (execute schedule context input)
  | .topK _ input exprs limit schema =>
    executeTopk exprs limit schema (execute schedule context input)
  | .limit _ input limit _ => executeLimit limit (execute schedule context input)
  | .hashJoin _ left right joinType leftOn rightOn schema =>
    respond do
      hashJoin (← collect (execute schedule context left)) (← collect (execute schedule context right))
        joinType leftOn rightOn schema

end SparkX
