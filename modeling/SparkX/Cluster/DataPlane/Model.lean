import SparkX.Cluster.BlockStore.Storage

set_option autoImplicit false

-- The requests of `data_plane.rs` and the client that reads a block back. A request holds the lock
-- of the store only for single accesses: an upload reads its budget first and inserts its block
-- when the whole stream has come, and `meanwhile` is what others do in between.

namespace SparkX

open Std

variable {F : Type}

namespace DataPlane

def invalidArgument (message : String) : Status := ⟨.invalidArgument, message⟩

-- `value.ok_or_else(|| Status::invalid_argument(message))`
def required {α : Type} (value : Option α) (message : String) : Except Status α :=
  match value with
  | some found => .ok found
  | none => .error (invalidArgument message)

def mapStatus : SparkXError → Status
  | .protocol message => invalidArgument message
  | .planning message => invalidArgument message
  | .notFound message => ⟨.notFound, message⟩
  | .resourceExhausted message => ⟨.resourceExhausted, message⟩
  | other => ⟨.internal, other.toText⟩

def mapFlightError (action : String) (status : Status) : SparkXError :=
  match status.code with
  | .invalidArgument => .protocol status.message
  | .notFound => .notFound status.message
  | .resourceExhausted => .resourceExhausted status.message
  | _ => .transport s!"Flight data-plane {action}: {status.message}"

-- `cmd` is the command as text, if its bytes are UTF-8.
structure FlightDescriptor where
  isCommand : Bool
  cmd : Option String

-- The messages of an upload as they are decoded: the descriptor of the first one, the schema, and
-- the batches up to the end of the stream.
structure UploadStream (F : Type) where
  flightDescriptor : Option FlightDescriptor
  schema : Option Schema
  batches : List (Except String (RecordBatch F))

def UploadStream.of (ticket : String) (schema : Schema) (batches : List (RecordBatch F)) :
    UploadStream F :=
  { flightDescriptor := some { isCommand := true, cmd := some ticket }
    schema := some schema, batches := batches.map .ok }

structure UploadAck where
  rows : Nat
  bytes : Nat
  checksum : String
  ticket : String
deriving DecidableEq

section

variable [BlockFormats F]

-- An operation on the store runs as a task of its own; a panic ends that task only.
def access {α : Type} (operation : Stateful Fault (BlockStorage F) α) :
    Stateful Status (BlockStorage F) α := fun storage =>
  ((operation.run storage).1.mapError fun
    | .error error => mapStatus error
    | .panic message => mapStatus (.execution s!"block storage task failed: {message}"),
    (operation.run storage).2)

def UploadStream.ticket (first : UploadStream F) : Except Status String := do
  let descriptor ← required first.flightDescriptor "block upload requires a descriptor"
  rejectIf (!descriptor.isCommand) (invalidArgument "block upload descriptor must use command bytes")
  let ticket ← required descriptor.cmd "block descriptor must be UTF-8 JSON"
  let _ ← (decodeTicket F ticket).mapError mapStatus
  return ticket

-- The loop over the stream: a batch is kept only while all of them are within the budget.
def receive (availableBytes : Nat) :
    Nat → List (Except String (RecordBatch F)) → Except Status (List (RecordBatch F))
  | _, [] => .ok []
  | decodedBytes, item :: rest => do
    let batch ← item.mapError invalidArgument
    let decodedBytes := decodedBytes + BlockFormats.arrayMemorySize batch
    rejectIf (availableBytes < max decodedBytes 1) <| Status.mk .resourceExhausted
      s!"data-plane block needs more than the {availableBytes} available bytes"
    let batches ← receive availableBytes decodedBytes rest
    return batch :: batches

-- The part of `do_put` after the budget has been read.
def storeStream (faults : Faults) (ticket : String) (availableBytes : Nat) (first : UploadStream F) :
    Stateful Status (BlockStorage F) UploadAck := do
  rejectIf (availableBytes = 0)
    (Status.mk .resourceExhausted "data-plane storage has no available capacity")
  let batches ← receive availableBytes 0 first.batches
  let schema ← required first.schema "block upload requires an Arrow schema"
  let (rows, bytes, checksum) ← (blockMetadata schema batches).mapError mapStatus
  access (BlockStorage.insert faults ticket
    { schema, batches, checksum, chargedBytes := max bytes 1 })
  return { rows, bytes, checksum, ticket }

def doPut (faults : Faults) (meanwhile : List (Faults × Access F)) (request : Option (UploadStream F)) :
    Stateful Status (BlockStorage F) UploadAck := do
  let first ← required request "block upload must not be empty"
  let ticket ← first.ticket
  let storage ← get
  modify ((BlockStorage.accesses F).exec meanwhile)
  storeStream faults ticket (storage.uploadBudget ticket) first

-- The block that `do_get` hands to the encoder; `ticket` is text if its bytes are UTF-8.
def doGet (storage : BlockStorage F) (faults : Faults) (ticket : Option String) :
    Except Status (StoredBlock F) := do
  let ticket ← required ticket "data-plane ticket must be UTF-8"
  let _ ← (decodeTicket F ticket).mapError mapStatus
  (storage.get faults ticket).mapError mapStatus

def doAction (faults : Faults) (kind : String) (ticket : Option String) :
    Stateful Status (BlockStorage F) String := do
  rejectIf (kind ≠ "sparkx.data.delete-block")
    (invalidArgument s!"unsupported SparkX data-plane action {kind}")
  let ticket ← required ticket "data-plane ticket must be UTF-8"
  let _ ← (decodeTicket F ticket).mapError mapStatus
  access (BlockStorage.remove faults ticket)
  return "deleted"

end

-- `MAX_FLIGHT_MESSAGE_BYTES`
def maxFlightMessageBytes : Nat := 4 * 1024 * 1024

-- The encoder of Arrow Flight: it splits a batch into messages of about the given size, keeping the
-- rows in order, and leaves a batch whose buffers are within that size alone.
structure FlightEncoder (F : Type) where
  bufferMemorySize : RecordBatch F → Nat
  split : Nat → RecordBatch F → List (RecordBatch F)
  whole : ∀ limit batch, 0 < batch.numRows → bufferMemorySize batch ≤ limit → split limit batch = [batch]
  rows : ∀ limit batch, (split limit batch).flatMap (·.rows) = batch.rows
  schema : ∀ limit batch, ∀ message ∈ split limit batch, message.schema = batch.schema

def FlightEncoder.deliver (encoder : FlightEncoder F) (batches : List (RecordBatch F)) :
    List (RecordBatch F) :=
  batches.flatMap (encoder.split (maxFlightMessageBytes / 2))

structure QueryMemory where
  limitBytes : Nat
  reservedBytes : Nat

def QueryMemory.tryGrow (memory : QueryMemory) (bytes : Nat) : Except SparkXError QueryMemory := do
  let next := memory.reservedBytes + bytes
  rejectIf (memory.limitBytes < next) <| .resourceExhausted
    s!"query requires at least {next} bytes but its limit is {memory.limitBytes} bytes"
  return { memory with reservedBytes := next }

structure DownloadedBlock (F : Type) where
  schema : Schema
  batches : List (RecordBatch F)

section

variable [BlockFormats F]

-- The last step of a download: the decoded batches against the block's manifest.
def verify (block : ShuffleBlock) (schema : Schema) (batches : List (RecordBatch F)) :
    Except SparkXError (DownloadedBlock F) := do
  let (rows, bytes, checksum) ← blockMetadata schema batches
  rejectIf (rows ≠ block.rows.val ∨ bytes ≠ block.bytes.val ∨ checksum ≠ block.checksum) <| .protocol
    s!"downloaded block metadata mismatch: expected rows={block.rows.val} bytes={block.bytes.val} checksum={block.checksum}, got rows={rows} bytes={bytes} checksum={checksum}"
  return { schema, batches }

-- `download_reserved` by a client of `endpoint`, from a server with this storage.
def downloadReserved (encoder : FlightEncoder F) (endpoint : String) (storage : BlockStorage F)
    (faults : Faults) (memory : QueryMemory) (block : ShuffleBlock) :
    Except SparkXError (DownloadedBlock F) := do
  match block.location with
  | .flight _ owner ticket =>
    rejectIf (owner ≠ endpoint)
      (.protocol s!"block belongs to {owner}, but client is connected to {endpoint}")
    let stored ← (doGet storage faults (some ticket)).mapError (mapFlightError "download block")
    let batches := encoder.deliver stored.batches
    let _ ← batches.foldlM (fun memory batch => memory.tryGrow (BlockFormats.arrayMemorySize batch)) memory
    verify block stored.schema batches
  | _ => throw (.protocol "cannot download a non-Flight shuffle block with the Flight client")

end

end DataPlane

end SparkX
