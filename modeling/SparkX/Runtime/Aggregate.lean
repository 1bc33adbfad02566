import SparkX.Query.Meaning

set_option autoImplicit false

-- `hash_aggregate` keeps one list of states for each key. The encoded key of a row is the list of
-- its key values: Arrow's row encoding is injective and orders keys as `compareKeys` does. Memory
-- reservations are left out, so nothing fails for lack of memory.

namespace SparkX

variable {F : Type}

inductive AggregateState (F : Type) where
  | count (value : U64) (distinct : Option (List (ScalarValue F)))
  | sum (intSum : Int) (floatSum : F) (seen : Bool) (distinct : Option (List (ScalarValue F)))
  | sumUInt64 (value : U64) (seen : Bool)
  | min (current : Option (ScalarValue F))
  | max (current : Option (ScalarValue F))
  | avg (sum : F) (count : U64) (distinct : Option (List (ScalarValue F)))

section

variable [FloatOps F]

-- `should_replace_extreme`; `wanted` is the outcome of the comparison that replaces.
def shouldReplaceExtreme (wanted : Ordering) (current : Option (ScalarValue F))
    (candidate : ScalarValue F) : Except SparkXError Bool :=
  if candidate = .null then .ok false
  else match current with
    | none => .ok true
    | some value =>
      match candidate.partialCompare value with
      | some found => .ok (found == wanted)
      | none => .error (.execution "cannot compare values with different types")

def updateExtreme (wanted : Ordering) (current : Option (ScalarValue F))
    (candidate : ScalarValue F) : Except SparkXError (Option (ScalarValue F)) := do
  return if ← shouldReplaceExtreme wanted current candidate then some candidate else current

def numericValue : ScalarValue F → Except SparkXError F
  | .int64 value => .ok (FloatOps.ofInt value.value)
  | .uint64 value => .ok (FloatOps.ofInt value.val)
  | .float64 value => .ok value
  | other => .error (.execution s!"numeric aggregate does not support {other.toDebug}")

-- `HashSet::insert`: the new set, or nothing when the value was there. Without a set every value is
-- new.
def insertDistinct (distinct : Option (List (ScalarValue F))) (value : ScalarValue F) :
    Option (Option (List (ScalarValue F))) :=
  match distinct with
  | none => some none
  | some values => if value ∈ values then none else some (some (value :: values))

namespace AggregateState

def new (function : AggregateFunction) (distinct : Bool) : AggregateState F :=
  let set := if distinct then some [] else none
  match function with
  | .count => .count 0 set
  | .sum => .sum 0 (FloatOps.ofInt 0) false set
  | .sumUInt64 => .sumUInt64 0 false
  | .min => .min none
  | .max => .max none
  | .avg => .avg (FloatOps.ofInt 0) 0 set

def update (state : AggregateState F) (value : ScalarValue F) :
    Except SparkXError (AggregateState F) :=
  match state with
  | .count total distinct =>
    if value = .null then .ok state
    else match insertDistinct distinct value with
      | none => .ok state
      | some distinct => .ok (.count (total + 1) distinct)
  | .sum intSum floatSum _ distinct =>
    if value = .null then .ok state
    else match insertDistinct distinct value with
      | none => .ok state
      | some distinct =>
        match value with
        | .int64 number => .ok (.sum (intSum + number.value) floatSum true distinct)
        | .uint64 number => .ok (.sum (intSum + number.val) floatSum true distinct)
        | .float64 number => .ok (.sum intSum (FloatOps.add floatSum number) true distinct)
        | other => .error (.execution s!"SUM does not support {other.toDebug}")
  | .sumUInt64 total _ =>
    match value with
    | .uint64 number => do
      let added ← okOr (Word.checkedAdd total number) (.execution "internal unsigned sum overflowed UInt64")
      return .sumUInt64 added true
    | .null => .ok state
    | other => .error (.execution s!"internal unsigned sum requires UInt64, got {other.toDebug}")
  | .min current => .min <$> updateExtreme .lt current value
  | .max current => .max <$> updateExtreme .gt current value
  | .avg total counted distinct =>
    if value = .null then .ok state
    else match insertDistinct distinct value with
      | none => .ok state
      | some distinct => do
        return .avg (FloatOps.add total (← numericValue value)) (counted + 1) distinct

def finish : AggregateState F → ScalarValue F
  | .count value _ => .uint64 value
  | .sum intSum floatSum seen _ =>
    if seen then .float64 (FloatOps.add floatSum (FloatOps.ofInt intSum)) else .null
  | .sumUInt64 value seen => if seen then .uint64 value else .null
  | .min value | .max value => value.getD .null
  | .avg total counted _ =>
    if counted = 0 then .null else .float64 (FloatOps.div total (FloatOps.ofInt counted.val))

end AggregateState

end

abbrev EncodedKey (F : Type) := List (Value F)

def compareKeys [FloatOps F] : EncodedKey F → EncodedKey F → Ordering
  | [], [] => .eq
  | [], _ :: _ => .lt
  | _ :: _, [] => .gt
  | first :: left, second :: right => (first.compare second).then (compareKeys left right)

structure RowKeyEncoder where
  types : List DataType

namespace RowKeyEncoder

def encode (encoder : RowKeyEncoder) (columns : List (ArrayRef F)) (rowCount : Nat) :
    Except SparkXError (List (EncodedKey F)) := do
  if encoder.types = [] then
    rejectIf (columns ≠ []) (.execution "global row-key encoder received key columns")
  let encoded := columns.head?.elim rowCount ArrayRef.length
  rejectIf (∃ column ∈ columns, column.length ≠ encoded) (.arrow
    "Invalid argument error: RowConverter columns must all have the same length")
  rejectIf (columns.map (·.dataType) ≠ encoder.types) (.arrow
    "Invalid argument error: RowConverter column schema mismatch")
  rejectIf (encoded ≠ rowCount) (.execution
    s!"encoded key row count {encoded} does not match input row count {rowCount}")
  return RecordBatch.transpose rowCount columns

-- The columns of decoded keys; a key that was not encoded with these types cannot be parsed.
def decode (encoder : RowKeyEncoder) (keys : List (EncodedKey F)) :
    Except Fault (List (ArrayRef F)) := do
  if encoder.types = [] then
    rejectIf (∃ key ∈ keys, key ≠ []) (Fault.error (.execution
      "global row-key encoder received non-empty keys"))
  encoder.types.zipIdx.mapM fun entry =>
    expect (ArrayRef.ofValues entry.1 (keys.map (·.getD entry.2 .null))) "invalid encoded row"

end RowKeyEncoder

section

variable [ArrowKernels F]

def aggregateSpec (expr : Expr F) : Except SparkXError (AggregateFunction × Expr F × Bool) :=
  match expr.unalias with
  | .aggregate function expr distinct => .ok (function, expr, distinct)
  | other => .error (.planning s!"expected aggregate expression, got {other.toText}")

abbrev Groups (F : Type) := List (EncodedKey F × List (AggregateState F))

-- One row: its group is created if it is new, and its states take the values of the row.
def aggregateRow (fresh : List (AggregateState F)) (groups : Groups F) (key : EncodedKey F)
    (values : List (Except SparkXError (ScalarValue F))) : Except SparkXError (Groups F) := do
  let groups := if groups.any (·.1 = key) then groups else groups ++ [(key, fresh)]
  groups.mapM fun entry =>
    if entry.1 = key then do
      let states ← (entry.2.zip values).mapM fun pair => do pair.1.update (← pair.2)
      return (key, states)
    else return entry

def aggregateBatch (groupExprs : List (Expr F)) (specs : List (AggregateFunction × Expr F × Bool))
    (encoder : RowKeyEncoder) (groups : Groups F) (batch : RecordBatch F) :
    Except Fault (Groups F) := do
  let groupArrays ← groupExprs.mapM (evaluate · batch)
  let aggregateArrays ← specs.mapM fun spec =>
    match spec.2.1 with
    | .wildcard => return none
    | expr => some <$> evaluate expr batch
  let keys ← encoder.encode groupArrays batch.numRows
  let fresh := specs.map fun spec => AggregateState.new spec.1 spec.2.2
  keys.zipIdx.foldlM (fun groups entry =>
    -- `COUNT(*)` counts a value in every row.
    aggregateRow fresh groups entry.1 <| aggregateArrays.map fun array =>
      match array with
      | none => .ok (.boolean true)
      | some array => valueAt array.dataType (array.values.getD entry.2 .null)) groups

def hashAggregate (batches : List (RecordBatch F)) (groupExprs aggregateExprs : List (Expr F))
    (schema : Schema) : Except Fault (RecordBatch F) := do
  let specs ← (aggregateExprs.mapM aggregateSpec : Except SparkXError _)
  let encoder : RowKeyEncoder := ⟨schema.types.take groupExprs.length⟩
  let fresh := specs.map fun spec => AggregateState.new spec.1 spec.2.2
  let initial : Groups F := if groupExprs = [] then [([], fresh)] else []
  let groups ← batches.foldlM (aggregateBatch groupExprs specs encoder) initial
  let entries := groups.insertionSort fun left right => compareKeys left.1 right.1 ≠ .gt
  let keyArrays ← encoder.decode (entries.map (·.1))
  let columns := (List.range specs.length).map fun index =>
    entries.map fun entry => (entry.2[index]?).elim .null AggregateState.finish
  let stateArrays ← ((columns.zip (schema.fields.drop groupExprs.length)).mapM fun column =>
    scalarsToArray column.1 column.2.dataType : Except SparkXError _)
  RecordBatch.tryNew schema (keyArrays ++ stateArrays)

end

end SparkX
