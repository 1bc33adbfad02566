import SparkX.Cluster.DataPlane.Repeated

set_option autoImplicit false

namespace SparkX

namespace DataPlane

open Std

variable {F : Type} [BlockFormats F]

-- A block that a client of `endpoint` can ask for: `manifest` describes it, and there is room for
-- what the encoder delivers.
structure Offered (encoder : FlightEncoder F) (endpoint : String) (storage : BlockStorage F)
    (faults : Faults) (memory : QueryMemory) (manifest : ShuffleBlock) (block : StoredBlock F) : Prop where
  served : ∃ workerId ticket decoded, manifest.location = .flight workerId endpoint ticket ∧
    decodeTicket F ticket = .ok decoded ∧ storage.get faults ticket = .ok block
  described : blockMetadata block.schema block.batches =
    .ok (manifest.rows.val, manifest.bytes.val, manifest.checksum)
  room : memory.reservedBytes + ((encoder.deliver block.batches).map BlockFormats.arrayMemorySize).sum ≤
    memory.limitBytes

section

variable {encoder : FlightEncoder F} {endpoint : String} {storage : BlockStorage F} {faults : Faults}
  {memory : QueryMemory} {manifest : ShuffleBlock} {block : StoredBlock F}

variable {batches : List (RecordBatch F)}

theorem retained
    (room : memory.reservedBytes + (batches.map BlockFormats.arrayMemorySize).sum ≤ memory.limitBytes) :
    ∃ after, batches.foldlM (fun memory batch => memory.tryGrow (BlockFormats.arrayMemorySize batch))
      memory = (.ok after : Except SparkXError QueryMemory) := by
  induction batches generalizing memory with
  | nil => exact ⟨memory, rfl⟩
  | cons batch rest ih =>
    rw [List.map_cons, List.sum_cons] at room
    let next := { memory with reservedBytes := memory.reservedBytes + BlockFormats.arrayMemorySize batch }
    have grown : memory.tryGrow (BlockFormats.arrayMemorySize batch) = .ok next := by
      rw [QueryMemory.tryGrow, rejectIf_ok.mpr (by omega)]
      rfl
    obtain ⟨after, ran⟩ := @ih next (by simp only [next]; omega)
    exact ⟨after, bind_ok.mpr ⟨next, grown, ran⟩⟩

theorem downloadReserved_offered (offered : Offered encoder endpoint storage faults memory manifest block) :
    downloadReserved encoder endpoint storage faults memory manifest =
      verify manifest block.schema (encoder.deliver block.batches) := by
  obtain ⟨workerId, ticket, decoded, located, known, stored⟩ := offered.served
  obtain ⟨after, ran⟩ := retained offered.room
  have got : doGet storage faults (some ticket) = .ok block := by
    simp only [doGet, bind_ok, Except.mapError_eq_ok]
    exact ⟨ticket, rfl, decoded, known, stored⟩
  unfold downloadReserved
  rw [located]
  change (rejectIf (endpoint ≠ endpoint) _ >>= fun _ => _) = _
  rw [rejectIf_ok.mpr (not_not.mpr rfl)]
  change ((doGet storage faults (some ticket)).mapError _ >>= _) = _
  rw [got]
  change (List.foldlM (m := Except SparkXError) _ memory (encoder.deliver block.batches) >>= fun _ => _) = _
  rw [ran]
  rfl

theorem verify_ok {schema : Schema} {found : DownloadedBlock F} :
    verify manifest schema batches = .ok found ↔
      blockMetadata schema batches = .ok (manifest.rows.val, manifest.bytes.val, manifest.checksum) ∧
      found = { schema, batches } := by
  simp only [verify, bind_ok, rejectIf_eq_ok, pure_eq_ok, not_or, ne_eq, not_not,
    Prod.exists, exists_const]
  constructor
  · rintro ⟨rows, bytes, checksum, described, ⟨rfl, rfl, rfl⟩, rfl⟩
    exact ⟨described, rfl⟩
  · rintro ⟨described, rfl⟩
    exact ⟨_, _, _, described, ⟨rfl, rfl, rfl⟩, rfl⟩

omit [BlockFormats F] in
theorem deliver_whole
    (whole : ∀ batch ∈ batches,
    0 < batch.numRows ∧ encoder.bufferMemorySize batch ≤ maxFlightMessageBytes / 2) :
    encoder.deliver batches = batches := by
  induction batches with
  | nil => rfl
  | cons batch rest ih =>
    obtain ⟨nonempty, small⟩ := whole batch List.mem_cons_self
    have later := ih fun other member => whole other (List.mem_cons_of_mem _ member)
    unfold FlightEncoder.deliver at later ⊢
    rw [List.flatMap_cons, encoder.whole _ batch nonempty small, later]
    rfl

theorem download_accepts (offered : Offered encoder endpoint storage faults memory manifest block) :
    (encoder.deliver block.batches = block.batches →
      downloadReserved encoder endpoint storage faults memory manifest =
        .ok { schema := block.schema, batches := block.batches }) ∧
    ((∀ stored delivered, BlockFormats.writeStream block.schema block.batches = .ok stored →
        BlockFormats.writeStream block.schema (encoder.deliver block.batches) = .ok delivered →
        Octets.crc32 delivered = Octets.crc32 stored → encoder.deliver block.batches = block.batches) →
      ((∃ found, downloadReserved encoder endpoint storage faults memory manifest = .ok found) ↔
        encoder.deliver block.batches = block.batches)) ∧
    ((∀ batch ∈ block.batches,
        0 < batch.numRows ∧ encoder.bufferMemorySize batch ≤ maxFlightMessageBytes / 2) →
      encoder.deliver block.batches = block.batches) := by
  have accepted (same : encoder.deliver block.batches = block.batches) :
      downloadReserved encoder endpoint storage faults memory manifest =
        .ok { schema := block.schema, batches := block.batches } := by
    rw [downloadReserved_offered offered, same]
    exact verify_ok.mpr ⟨offered.described, rfl⟩
  refine ⟨accepted, fun told => ⟨?_, fun same => ⟨_, accepted same⟩⟩, deliver_whole⟩
  -- An accepted download has the checksum of the manifest, which is that of the stored batches.
  rintro ⟨found, downloaded⟩
  rw [downloadReserved_offered offered] at downloaded
  obtain ⟨_, _, delivered, written, sum⟩ := blockMetadata_ok.mp (verify_ok.mp downloaded).1
  obtain ⟨_, _, stored, kept, same⟩ := blockMetadata_ok.mp offered.described
  apply told stored delivered kept written
  have texts := congrArg String.toList (sum.trans same.symm)
  simp only [String.toList_append, List.append_right_inj] at texts
  exact Text.hexPadded_injective 8 (String.toList_inj.mp texts)

end

-- A row takes 1.5 MiB of buffers, and an array some octets of its own; the stream has one octet for
-- each batch.
instance longFormats : BlockFormats Empty where
  parseTicket _ := .ok sampleBlockTicket
  parseHeader _ := .error "expected value"
  writeStream _ batches := .ok (batches.map (fun batch => UInt8.ofNat batch.numRows) ++ endOfStream)
  readStream _ := .error (.arrow "unsupported")
  arrayMemorySize batch := batch.numRows * 1572864 + 96

def rowEncoder : FlightEncoder Empty where
  bufferMemorySize batch := batch.numRows * 1572864
  split limit batch :=
    if batch.numRows * 1572864 ≤ limit then [batch]
    else batch.rows.attach.map fun row => batch.select [row.1] (by simp [row.2])
  whole limit batch _ small := if_pos small
  rows limit batch := by
    split
    next => simp
    next => simp [List.flatMap_map, RecordBatch.select]
  schema limit batch message member := by
    split at member
    next => rw [List.mem_singleton.mp member]
    next =>
      obtain ⟨row, _, rfl⟩ := List.mem_map.mp member
      rfl

def longBatch (rows : Nat) : RecordBatch Empty where
  schema := { fields := [] }
  rows := List.replicate rows []
  typed := by
    intro row member
    rw [List.eq_of_mem_replicate member]
    exact .nil

def longStream (rows : Nat) : List UInt8 :=
  [longBatch rows].map (fun batch => UInt8.ofNat batch.numRows) ++ endOfStream

def longBlock (rows : Nat) : StoredBlock Empty where
  schema := { fields := [] }
  batches := [longBatch rows]
  checksum := s!"crc32:{Text.hexPadded 8 (Octets.crc32 (longStream rows))}"
  chargedBytes := max ([longBatch rows].map BlockFormats.arrayMemorySize).sum 1

def longStore (rows : Nat) : BlockStorage Empty := .memory
  { capacity := 1073741824, used := 0 + (longBlock rows).chargedBytes
    blocks := (∅ : TreeMap String (StoredBlock Empty)).insert sampleTicket (longBlock rows) }

def longManifest (rows bytes : U64) : ShuffleBlock where
  producer := sampleBlockTicket.producer
  outputPartition := 0
  rows := rows
  bytes := bytes
  checksum := (longBlock rows.val).checksum
  location := .flight ⟨"w"⟩ "http://w:50052" sampleTicket

def roomyMemory : QueryMemory := { limitBytes := 1073741824, reservedBytes := 0 }

theorem longStore_get (rows : Nat) : (longStore rows).get {} sampleTicket = .ok (longBlock rows) := by
  have found : ((∅ : TreeMap String (StoredBlock Empty)).insert sampleTicket (longBlock rows))[sampleTicket]? =
      some (longBlock rows) := by
    rw [OrderedMap.getElem?_insert, if_pos rfl]
  simp only [BlockStorage.get, longStore, MemoryBlockStore.get, found]
  rfl

theorem longStore_reachable : (longStore 2).Reachable := by
  refine ⟨none, 1073741824, .memory { capacity := 1073741824, used := 0, blocks := ∅ }, rfl,
    [({}, .insert sampleTicket { fields := [] } [longBatch 2])], ?_⟩
  have uploaded : uploadedBlock { fields := [] } [longBatch 2] = .ok (longBlock 2) := rfl
  have inserted : (BlockStorage.insert {} sampleTicket (longBlock 2)).run
      (.memory { capacity := 1073741824, used := 0, blocks := ∅ }) = (.ok (), longStore 2) := by
    change (MemoryBlockStore.insert sampleTicket (longBlock 2)).within BlockStorage.memory _ = _
    rw [Stateful.within, MemoryBlockStore.insert_run TreeMap.getElem?_emptyc (by decide)]
    rfl
  change ((BlockStorage.access {} (.insert sampleTicket { fields := [] } [longBatch 2])).run _).2 = _
  unfold BlockStorage.access
  rw [run_check uploaded, Stateful.run_bind_ok inserted]
  rfl

theorem long_offered {rows bytes : U64}
    (described : blockMetadata (longBlock rows.val).schema (longBlock rows.val).batches =
      .ok (rows.val, bytes.val, (longBlock rows.val).checksum))
    (room : ((rowEncoder.deliver (longBlock rows.val).batches).map BlockFormats.arrayMemorySize).sum ≤
      1073741824) :
    Offered rowEncoder "http://w:50052" (longStore rows.val) {} roomyMemory (longManifest rows bytes)
      (longBlock rows.val) where
  served := ⟨_, _, sampleBlockTicket, rfl, rfl, longStore_get rows.val⟩
  described := described
  room := by
    rw [roomyMemory, Nat.zero_add]
    exact room

theorem download_accepts_of_one_row :
    rowEncoder.deliver (longBlock 1).batches = (longBlock 1).batches ∧
      downloadReserved rowEncoder "http://w:50052" (longStore 1) {} roomyMemory
        (longManifest 1 1572960) = .ok { schema := { fields := [] }, batches := [longBatch 1] } := by
  have described : blockMetadata (longBlock 1).schema (longBlock 1).batches =
      .ok (1, 1572960, (longBlock 1).checksum) := rfl
  obtain ⟨accepted, _, whole⟩ := download_accepts (@long_offered 1 1572960 described (by decide))
  have same : rowEncoder.deliver (longBlock 1).batches = (longBlock 1).batches := by
    apply whole
    simp only [longBlock, List.mem_singleton, forall_eq]
    decide
  exact ⟨same, accepted same⟩

theorem cut_block_is_rejected :
    (longStore 2).Reachable ∧
    Offered rowEncoder "http://w:50052" (longStore 2) {} roomyMemory (longManifest 2 3145824)
      (longBlock 2) ∧
    ∃ error, downloadReserved rowEncoder "http://w:50052" (longStore 2) {} roomyMemory
      (longManifest 2 3145824) = .error error := by
  have described : blockMetadata (longBlock 2).schema (longBlock 2).batches =
      .ok (2, 3145824, (longBlock 2).checksum) := rfl
  have offered : Offered rowEncoder "http://w:50052" (longStore 2) {} roomyMemory
      (longManifest 2 3145824) (longBlock 2) := @long_offered 2 3145824 described (by decide)
  refine ⟨longStore_reachable, offered, ?_⟩
  rw [downloadReserved_offered offered]
  cases result : verify (longManifest 2 3145824) (longBlock 2).schema
    (rowEncoder.deliver (longBlock 2).batches) with
  | error error => exact ⟨error, rfl⟩
  | ok found =>
    have bytes := (blockMetadata_ok.mp (verify_ok.mp result).1).2.1
    exact absurd bytes (by decide)

end DataPlane

end SparkX
