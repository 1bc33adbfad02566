import SparkX.Cluster.PlanCodec.RoundTrip
import SparkX.Cluster.Protocol
import SparkX.Runtime.Execution
import SparkX.Shared.Octets

set_option autoImplicit false

-- `repartition` in `hash_exchange.rs`, by which a task of a stage with an exchange hands its
-- batches on. Cancellation and memory reservations are left out.

namespace SparkX

variable {F : Type}

-- The octets of Arrow's row encoding of a key, given the types of its columns.
structure RowFormat (F : Type) where
  octets : List DataType → EncodedKey F → List UInt8

-- `crc32fast::hash(keys.key(row)) % exchange.partition_count`
def RowFormat.destination (format : RowFormat F) (types : List DataType) (count : U32)
    (key : EncodedKey F) : Nat :=
  Octets.crc32 (format.octets types key) % count.val

def RecordBatch.columns (batch : RecordBatch F) : List (ArrayRef F) :=
  (List.range batch.schema.fields.length).filterMap batch.column

def repartitionBatch (format : RowFormat F) (schema : Schema) (exchange : HashExchange)
    (encoder : RowKeyEncoder) (outputs : List (Nat × List (RecordBatch F))) (batch : RecordBatch F) :
    Except Fault (List (Nat × List (RecordBatch F))) := do
  let columns ← exchange.columns.mapM fun column => expect (batch.column column) "index out of bounds"
  let keys ← encoder.encode columns batch.numRows
  let destinations := keys.map (format.destination encoder.types exchange.partitionCount)
  outputs.mapM fun output => do
    let indices := (destinations.zipIdx.filter (·.1 = output.1)).map (·.2)
    if indices = [] then return output
    else return (output.1, output.2 ++ [← RecordBatch.tryNew schema (batch.take indices).columns])

def repartition (format : RowFormat F) (schema : Schema) (batches : List (RecordBatch F))
    (exchange : HashExchange) : Except Fault (List (Nat × List (RecordBatch F))) := do
  rejectIf (exchange.partitionCount = 0 ∨ exchange.columns = [] ∨
    ∃ column ∈ exchange.columns, schema.fields.length ≤ column)
    (Fault.error (.protocol "invalid hash exchange keys or partition count"))
  let encoder : RowKeyEncoder := ⟨exchange.columns.filterMap (schema.types[·]?)⟩
  batches.foldlM (repartitionBatch format schema exchange encoder)
    ((List.range exchange.partitionCount.val).map (·, []))

end SparkX
