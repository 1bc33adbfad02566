import SparkX.Runtime.Streams
import SparkX.Runtime.Planned
import SparkX.Shared.Grouping

set_option autoImplicit false

namespace SparkX

variable {F : Type}

def AggregateFunction.partialWidth : AggregateFunction → Nat
  | .avg => 2
  | _ => 1

def partialAggregate [FloatOps F] (index : Nat) (aggregate : Expr F) :
    Except SparkXError (List (Expr F)) :=
  match aggregate.unalias with
  | .aggregate .avg expr distinct => .ok
    [.aliased (.aggregate .sum expr distinct) s!"__sparkx_avg_sum_{index}",
      .aliased (.aggregate .count expr distinct) s!"__sparkx_avg_count_{index}"]
  | .aggregate function expr distinct =>
    .ok [.aliased (.aggregate function expr distinct) aggregate.name]
  | _ => .error (.planning s!"expected aggregate expression, got {aggregate.toText}")

def partialAggregateExprs [FloatOps F] (aggregates : List (Expr F)) :
    Except SparkXError (List (Expr F)) := do
  let partials ← aggregates.zipIdx.mapM fun entry => partialAggregate entry.2 entry.1
  return partials.flatten

section

inductive MergeState (F : Type) where
  | count (total : U64)
  | sum (value : F) (seen : Bool)
  | min (current : Option (ScalarValue F))
  | max (current : Option (ScalarValue F))
  | avg (sum : F) (count : U64)

variable [FloatOps F]

def asF64 : ScalarValue F → Except SparkXError F
  | .float64 value => .ok value
  | .int64 value => .ok (FloatOps.ofInt value.value)
  | .uint64 value => .ok (FloatOps.ofInt value.val)
  | .null => .ok (FloatOps.ofInt 0)
  | other => .error (.execution s!"expected numeric partial, got {other.toDebug}")

def asU64 : ScalarValue F → Except SparkXError U64
  | .uint64 value => .ok value
  | .int64 value =>
    okOr (if 0 ≤ value.value then Word.tryFrom value.value.toNat else none)
      (.execution s!"expected unsigned partial, got {(ScalarValue.int64 value : ScalarValue F).toDebug}")
  | .null => .ok 0
  | other => .error (.execution s!"expected unsigned partial, got {other.toDebug}")

-- `merge_extreme`; `wanted` is the outcome of the comparison that replaces.
def mergeExtreme (wanted : Ordering) (current : Option (ScalarValue F)) (candidate : ScalarValue F) :
    Except SparkXError (Option (ScalarValue F)) :=
  if candidate = .null then .ok current
  else match current with
    | none => .ok (some candidate)
    | some value =>
      match candidate.partialCompare value with
      | some found => .ok (if found == wanted then some candidate else current)
      | none => .error (.execution "partial aggregate types cannot be compared")

-- `total += added`, which panics on an overflow.
def addCount (total added : U64) : Except Fault U64 :=
  expect (Word.checkedAdd total added) "attempt to add with overflow"

namespace MergeState

def new : AggregateFunction → MergeState F
  | .count | .sumUInt64 => .count 0
  | .sum => .sum (FloatOps.ofInt 0) false
  | .min => .min none
  | .max => .max none
  | .avg => .avg (FloatOps.ofInt 0) 0

-- One partial row; `value` reads a column of it.
def update (function : AggregateFunction) (state : MergeState F) (column : Nat)
    (value : Nat → Except Fault (ScalarValue F)) : Except Fault (MergeState F) :=
  match function, state with
  | .count, .count total => do
    return .count (← addCount total (← asU64 (← value column)))
  | .sum, .sum total _ => do
    let found ← value column
    if found = .null then return state
    else return .sum (FloatOps.add total (← asF64 found)) true
  | .sumUInt64, .count total => do
    let added ← asU64 (← value column)
    return .count (← okOr (Word.checkedAdd total added) (.execution
      "partial unsigned sum overflowed UInt64"))
  | .min, .min current => do return .min (← mergeExtreme .lt current (← value column))
  | .max, .max current => do return .max (← mergeExtreme .gt current (← value column))
  | .avg, .avg total counted => do
    let total := FloatOps.add total (← asF64 (← value column))
    return .avg total (← addCount counted (← asU64 (← value (column + 1))))
  | _, _ => .error (.error (.execution "invalid partial aggregate state"))

def finish : MergeState F → ScalarValue F
  | .count total => .uint64 total
  | .sum value seen => if seen then .float64 value else .null
  | .min value | .max value => value.getD .null
  | .avg total counted =>
    if counted = 0 then .null else .float64 (FloatOps.div total (FloatOps.ofInt counted.val))

end MergeState

def partialLayout : Nat → List AggregateFunction → List (AggregateFunction × Nat)
  | _, [] => []
  | column, function :: rest => (function, column) :: partialLayout (column + function.partialWidth) rest

-- `value_at(batch.column(column), row)`
def valueInRow (types : List DataType) (row : List (Value F)) (column : Nat) :
    Except Fault (ScalarValue F) := do
  let dataType ← expect types[column]? "index out of bounds"
  valueAt dataType (row.getD column .null)

def mergeRow (layout : List (AggregateFunction × Nat)) (types : List DataType)
    (states : List (MergeState F)) (row : List (Value F)) : Except Fault (List (MergeState F)) :=
  (layout.zip states).mapM fun entry =>
    entry.2.update entry.1.1 entry.1.2 (valueInRow types row)

def mergeBatch (groupCount : Nat) (functions : List AggregateFunction) (encoder : RowKeyEncoder)
    (groups : List (EncodedKey F × List (MergeState F))) (batch : RecordBatch F) :
    Except Fault (List (EncodedKey F × List (MergeState F))) := do
  let columns ← (List.range groupCount).mapM fun index =>
    expect (batch.column index) "range end index out of range for slice"
  let keys ← encoder.encode columns batch.numRows
  (keys.zip batch.rows).foldlM (Grouping.insert (functions.map .new)
    (mergeRow (partialLayout groupCount functions) batch.schema.types)) groups

def aggregateFunction (expr : Expr F) : Except SparkXError AggregateFunction :=
  match expr.unalias with
  | .aggregate function _ _ => .ok function
  | other => .error (.planning s!"expected aggregate expression, got {other.toText}")

def mergePartials (batches : List (RecordBatch F)) (groupCount : Nat) (aggregates : List (Expr F))
    (schema : Schema) : Except Fault (RecordBatch F) := do
  let functions ← (aggregates.mapM aggregateFunction : Except SparkXError _)
  let encoder : RowKeyEncoder := ⟨schema.types.take groupCount⟩
  let initial := if groupCount = 0 then [([], functions.map .new)] else []
  let groups ← batches.foldlM (mergeBatch groupCount functions encoder) initial
  let entries := groups.insertionSort fun left right => compareKeys left.1 right.1 ≠ .gt
  let keyArrays ← encoder.decode (entries.map (·.1))
  let columns := (List.range functions.length).map fun index =>
    entries.map fun entry => (entry.2[index]?).elim .null MergeState.finish
  let stateArrays ← ((columns.zip (schema.fields.drop groupCount)).mapM fun column =>
    scalarsToArray column.1 column.2.dataType : Except SparkXError _)
  RecordBatch.tryNew schema (keyArrays ++ stateArrays)

end

-- The partial results of all partitions, merged in the order in which they arrive.
def twoPhaseAggregate [ArrowKernels F] (arrange : List (RecordBatch F) → List (RecordBatch F))
    (partitions : List (List (RecordBatch F))) (input : Schema)
    (groupExprs aggregateExprs : List (Expr F)) (schema : Schema) : Except Fault (RecordBatch F) := do
  let partialExprs ← partialAggregateExprs aggregateExprs
  let partialSchema ← aggregateSchema input groupExprs partialExprs
  let partials ← partitions.mapM (hashAggregate · groupExprs partialExprs partialSchema)
  mergePartials (arrange partials) groupExprs.length aggregateExprs schema

end SparkX
