import SparkX.Cluster.Protocol
import SparkX.Query.Batch
import SparkX.Shared.Octets
import SparkX.Shared.OrderedMap
import SparkX.Shared.Transition

set_option autoImplicit false

-- `block_store.rs`: published blocks are files of one directory, and `DiskBlockStore` keeps an
-- index of them in memory. A call makes several steps on the file system; `Faults` says which of
-- them fail. Sizes are numbers, since the store never lets them exceed its capacity.

namespace SparkX

open Std

variable {F : Type}

structure Header where
  version : U16
  ticket : String
  checksum : String
deriving DecidableEq

structure BlockTicket where
  version : U16
  workerId : WorkerId
  producer : TaskAttemptId
  outputPartition : PartitionId
deriving DecidableEq

structure StoredBlock (F : Type) where
  schema : Schema
  batches : List (RecordBatch F)
  checksum : String
  chargedBytes : Nat

-- What `serde_json` reads, and the Arrow IPC stream format.
class BlockFormats (F : Type) where
  parseTicket : String → Except String BlockTicket
  parseHeader : List UInt8 → Except String Header
  writeStream : Schema → List (RecordBatch F) → Except SparkXError (List UInt8)
  readStream : List UInt8 → Except SparkXError (Schema × List (RecordBatch F))
  arrayMemorySize : RecordBatch F → Nat

-- `serde_json::to_vec(&header)`
def Header.toJson (header : Header) : List UInt8 :=
  Octets.ofChars ("\x7b\"version\":".toList ++ header.version.val.repr.toList ++
    ",\"ticket\":".toList ++ jsonText header.ticket ++
    ",\"checksum\":".toList ++ jsonText header.checksum ++ "\x7d".toList)

def Header.new (ticket : String) (block : StoredBlock F) : Header :=
  { version := protocolVersion, ticket, checksum := block.checksum }

section

variable [BlockFormats F]

def BlockTicket.validate (ticket : BlockTicket) : Except SparkXError Unit := do
  rejectIf (ticket.version ≠ protocolVersion) <| .protocol
    s!"unsupported data-plane protocol version {ticket.version}; expected {protocolVersion}"
  ticket.workerId.validate
  ticket.producer.validate

variable (F) in
def decodeTicket (ticket : String) : Except SparkXError BlockTicket := do
  let decoded ← (BlockFormats.parseTicket F ticket).mapError fun error =>
    SparkXError.protocol s!"decode block ticket: {error}"
  decoded.validate
  return decoded

def blockMetadata (schema : Schema) (batches : List (RecordBatch F)) :
    Except SparkXError (Nat × Nat × String) := do
  let rows := (batches.map (·.numRows)).sum
  let bytes := (batches.map BlockFormats.arrayMemorySize).sum
  let stream ← BlockFormats.writeStream schema batches
  return (rows, bytes, s!"crc32:{Text.hexPadded 8 (Octets.crc32 stream)}")

-- The block that `do_put` hands to the store.
def uploadedBlock (schema : Schema) (batches : List (RecordBatch F)) :
    Except SparkXError (StoredBlock F) := do
  let (_, bytes, checksum) ← blockMetadata schema batches
  return { schema, batches, checksum, chargedBytes := max bytes 1 }

end

namespace DiskBlockStore

def full : SparkXError := .resourceExhausted "data-plane storage capacity exceeded"

def missing : SparkXError := .notFound "data-plane block does not exist"

def sameChecksum (left right : String) : Except SparkXError Unit :=
  rejectIf (left ≠ right) (.protocol "immutable block checksum mismatch")

def validateCapacity (capacity : Nat) : Except SparkXError Unit :=
  rejectIf (capacity = 0) (.planning "data-plane storage capacity must be greater than zero")

end DiskBlockStore

-- The steps on the file system of one call that fail, each with its message; `written` is what a
-- failed write leaves in the file.
structure Faults where
  create : Option String := none
  write : Option String := none
  written : List UInt8 := []
  stat : Option String := none
  sync : Option String := none
  rename : Option String := none
  syncDirectory : Option String := none
  unlink : Option String := none
  cleanup : Option String := none
  read : Option String := none

def attempt (failure : Option String) : Except SparkXError Unit :=
  match failure with
  | some message => .error (.io message)
  | none => .ok ()

structure DiskEntry where
  path : String
  bytes : Nat
  checksum : String
deriving DecidableEq

-- The store together with the files of its directory.
structure DiskBlockStore where
  files : TreeMap String (List UInt8)
  capacity : Nat
  used : Nat
  blocks : TreeMap String DiskEntry

def isStoreFile (name : String) : Bool := "sparkx-".toList.isPrefixOf name.toList

def isPending (name : String) : Bool := ".pending".toList.isSuffixOf name.toList

-- The files that hold published blocks: `sparkx-*.block`
def isBlockFile (name : String) : Bool :=
  isStoreFile name && !isPending name && ".block".toList.isSuffixOf name.toList

section

variable [BlockFormats F]

def readExact (count : Nat) (octets : List UInt8) : Except SparkXError (List UInt8 × List UInt8) := do
  rejectIf (octets.length < count) (.io "failed to fill whole buffer")
  return (octets.take count, octets.drop count)

variable (F) in
def readBlock (content : List UInt8) : Except SparkXError (Header × StoredBlock F) := do
  let (size, rest) ← readExact 4 content
  let size := Octets.toLength size
  rejectIf (4096 < size) (.protocol "invalid persisted block header length")
  let (header, rest) ← readExact size rest
  let header ← (BlockFormats.parseHeader F header).mapError SparkXError.protocol
  rejectIf (header.version ≠ protocolVersion) (.protocol "persisted block version mismatch")
  let (schema, batches) ← BlockFormats.readStream rest
  let (_, bytes, checksum) ← blockMetadata schema batches
  DiskBlockStore.sameChecksum header.checksum checksum
  return (header, { schema, batches, checksum, chargedBytes := max bytes 1 })

end

namespace DiskBlockStore

def availableBytes (store : DiskBlockStore) : Nat := store.capacity - store.used

def writeFile (store : DiskBlockStore) (name : String) (content : List UInt8) : DiskBlockStore :=
  { store with files := store.files.insert name content }

def removeFile (store : DiskBlockStore) (name : String) : DiskBlockStore :=
  { store with files := store.files.erase name }

def renameFile (store : DiskBlockStore) (source target : String) (content : List UInt8) :
    DiskBlockStore :=
  (store.removeFile source).writeFile target content

def addBlock (store : DiskBlockStore) (ticket : String) (entry : DiskEntry) : DiskBlockStore :=
  { store with used := store.used + entry.bytes, blocks := store.blocks.insert ticket entry }

section

variable [BlockFormats F]

variable (F) in
def openEntry (store : DiskBlockStore) (file : String × List UInt8) :
    Except SparkXError DiskBlockStore := do
  let (name, content) := file
  if !isStoreFile name then return store
  else if isPending name then return store.removeFile name
  else if !".block".toList.isSuffixOf name.toList then return store
  else
    rejectIf (store.availableBytes < content.length) full
    let (header, _) ← readBlock F content
    rejectIf (store.blocks.contains header.ticket) (.protocol "duplicate persisted block ticket")
    return store.addBlock header.ticket
      { path := name, bytes := content.length, checksum := header.checksum }

variable (F) in
-- `listing` is what `read_dir` yields: the files in an order of its own.
def «open» (files : TreeMap String (List UInt8)) (listing : List (String × List UInt8))
    (capacity : Nat) : Except SparkXError DiskBlockStore := do
  validateCapacity capacity
  listing.foldlM (openEntry F) { files, capacity, used := 0, blocks := ∅ }

def blockName (ticket : String) : String :=
  s!"sparkx-{Text.hexPadded 8 (Octets.crc32 (Octets.ofText ticket))}"

def blockPath (ticket : String) : String := blockName ticket ++ ".block"

def pendingPath (ticket : String) : String := blockName ticket ++ ".pending"

-- The file of a block: the length of its header, the header and the Arrow stream.
def fileContent (ticket : String) (block : StoredBlock F) (stream : List UInt8) : List UInt8 :=
  let header := (Header.new ticket block).toJson
  Octets.ofLength header.length ++ (header ++ stream)

-- The closure of `insert` that writes the pending file and publishes it.
def publish (faults : Faults) (ticket : String) (block : StoredBlock F) :
    Stateful Fault DiskBlockStore Nat := do
  let store ← get
  attempt faults.create
  rejectIf (store.files.contains (pendingPath ticket)) (SparkXError.io "File exists (os error 17)")
  modify (·.writeFile (pendingPath ticket) [])
  let header := (Header.new ticket block).toJson
  let stream ← BlockFormats.writeStream block.schema block.batches
  rejectIf (store.availableBytes < stream.length + header.length + 4) full
  modify (·.writeFile (pendingPath ticket)
    (if faults.write.isSome then faults.written else fileContent ticket block stream))
  attempt faults.write
  attempt faults.stat
  let bytes := (fileContent ticket block stream).length
  rejectIf (store.availableBytes < bytes) full
  attempt faults.sync
  attempt faults.rename
  modify (·.renameFile (pendingPath ticket) (blockPath ticket) (fileContent ticket block stream))
  attempt faults.syncDirectory
  return bytes

-- `let _ = fs::remove_file(&pending)`, after a failure.
def cleanup (faults : Faults) (pending : String) : Stateful Fault DiskBlockStore Unit :=
  modify fun store => if faults.cleanup.isSome then store else store.removeFile pending

def insert (faults : Faults) (ticket : String) (block : StoredBlock F) :
    Stateful Fault DiskBlockStore Unit := do
  let store ← get
  match store.blocks[ticket]? with
  | some existing => sameChecksum existing.checksum block.checksum
  | none =>
    rejectIf (store.files.contains (blockPath ticket))
      (SparkXError.protocol "persistent block filename collision")
    let bytes ← tryCatch (publish faults ticket block) fun error => do
      cleanup faults (pendingPath ticket)
      throw error
    modify (·.addBlock ticket { path := blockPath ticket, bytes, checksum := block.checksum })

variable (F) in
def readFile (store : DiskBlockStore) (faults : Faults) (path : String) :
    Except SparkXError (Header × StoredBlock F) := do
  attempt faults.read
  readBlock F (← okOr store.files[path]? (.io "No such file or directory (os error 2)"))

variable (F) in
def get (store : DiskBlockStore) (faults : Faults) (ticket : String) :
    Except SparkXError (StoredBlock F) := do
  let entry ← okOr store.blocks[ticket]? missing
  let (header, block) ← store.readFile F faults entry.path
  rejectIf (header.ticket ≠ ticket) (.protocol "persisted block ticket mismatch")
  sameChecksum entry.checksum block.checksum
  return block

def remove (faults : Faults) (ticket : String) : Stateful Fault DiskBlockStore Unit := do
  let store ← MonadState.get
  let entry ← okOr store.blocks[ticket]? missing
  attempt faults.unlink
  rejectIf (!store.files.contains entry.path) (SparkXError.io "No such file or directory (os error 2)")
  modify (·.removeFile entry.path)
  attempt faults.syncDirectory
  let entry ← expect store.blocks[ticket]? "checked disk entry"
  rejectIf (store.used < entry.bytes) (Fault.panic "attempt to subtract with overflow")
  modify fun store =>
    { store with blocks := store.blocks.erase ticket, used := store.used - entry.bytes }

end

inductive Call (F : Type) where
  | insert (ticket : String) (block : StoredBlock F)
  | get (ticket : String)
  | remove (ticket : String)

def call [BlockFormats F] (faults : Faults) : Call F → Stateful Fault DiskBlockStore (Option (StoredBlock F))
  | .insert ticket block => do
    insert faults ticket block
    return none
  | .get ticket => do
    let store ← MonadState.get
    return some (← store.get F faults ticket)
  | .remove ticket => do
    remove faults ticket
    return none

variable (F) in
-- The store as its callers see it: one call after the other, each with the faults it meets.
def service [BlockFormats F] :
    Machine DiskBlockStore (Faults × Call F) (Except Fault (Option (StoredBlock F))) where
  step input store := (call input.1 input.2).run store

end DiskBlockStore

end SparkX
